import Mathlib
import Recommender.Proofs.Aggregate.Beside
import Recommender.Proofs.Service.Confinement
import Recommender.Proofs.Service.Sequence

/-!
# Memos do not show

Two services are given the same commands, one with memos in front of its provider and one without.
If the memos are cleared after each change of what the provider answers, before recommendations are
asked for again, and the provider answers every lookup, then nothing but the number of values
forgotten tells the two services apart: they reply, record and count alike.  From one clearing to
the next, the provider behind the memos is asked the lookups that the other one is asked, each once.
-/

namespace Recommender

open ServiceState (collaborator recorder)

/-- Figures are looked up in fresh memos only. -/
def BackendRequest.IsSafe (fresh : Bool) : BackendRequest → Prop
  | .lookup _ => fresh = true
  | _ => True

namespace ServiceState

/-- Services that differ in nothing but that one has memos and the other has none. -/
structure Beside (source : Source) (faults : Faults) (fresh : Bool) (seen seen' : List Lookup)
    (s t : ServiceState) : Prop where
  desk : s.desk.Beside source faults fresh seen seen' t.desk
  rules : s.rules = t.rules
  counts : s.counts = t.counts
  verdicts : s.verdicts = t.verdicts
  served : s.served = t.served
  pending : s.pending = t.pending

variable {source : Source} {faults : Faults} {fresh : Bool} {seen seen' : List Lookup}
  {s t : ServiceState}

/-! ## Requests and events -/

/-- What is told to fail fails in both services, and what is done in one is done in the other. -/
theorem Beside.unlessFaulty {α : Type} (h : Beside source faults fresh seen seen' s t)
    (op : Operation) (act act' : ServiceState → α × ServiceState)
    (hact : (act s).1 = (act' t).1 ∧
      Beside source faults fresh seen seen' (act s).2 (act' t).2) :
    (s.unlessFaulty op act).1 = (t.unlessFaulty op act').1 ∧
      Beside source faults fresh seen seen' (s.unlessFaulty op act).2
        (t.unlessFaulty op act').2 := by
  have hfaults : s.faults = t.faults := h.desk.left.faults.trans h.desk.right.faults.symm
  rw [ServiceState.unlessFaulty, ServiceState.unlessFaulty, hfaults]
  cases t.faults.find? op with
  | some e => exact ⟨rfl, h⟩
  | none => exact ⟨congrArg Except.ok hact.1, hact.2⟩

/-- Services beside each other answer alike, but for lookups while the memos are not fresh. -/
theorem Beside.answer (h : Beside source faults fresh seen seen' s t) {r : BackendRequest}
    (hr : r.IsSafe fresh) :
    (s.answer r).1 = (t.answer r).1 ∧
      Beside source faults fresh seen seen' (s.answer r).2 (t.answer r).2 := by
  cases r with
  | lookup l =>
      obtain rfl : fresh = true := hr
      obtain ⟨hresult, hdesk⟩ := h.desk.answer l
      exact ⟨hresult, { h with desk := hdesk }⟩
  | resolve name =>
      obtain ⟨hresult, hdesk⟩ := h.desk.resolve name
      exact ⟨hresult, { h with desk := hdesk }⟩
  | saveRule r =>
      exact h.unlessFaulty _ _ _ ⟨congrArg (fun rules => (RuleStore.save r rules).1) h.rules,
        { h with rules := congrArg (fun rules => (RuleStore.save r rules).2) h.rules }⟩
  | listRules => exact h.unlessFaulty _ _ _ ⟨congrArg RuleStore.toList h.rules, h⟩
  | ruleExists id => exact h.unlessFaulty _ _ _ ⟨congrArg (RuleStore.contains id) h.rules, h⟩
  | deleteRule id =>
      exact h.unlessFaulty _ _ _ ⟨rfl, { h with rules := congrArg (RuleStore.delete id) h.rules }⟩
  | startCount id =>
      exact h.unlessFaulty _ _ _
        ⟨rfl, { h with counts := congrArg (MatchCounts.start id) h.counts }⟩
  | increment id =>
      exact h.unlessFaulty _ _ _
        ⟨rfl, { h with counts := congrArg (MatchCounts.increment id) h.counts }⟩
  | dropCount id =>
      exact h.unlessFaulty _ _ _ ⟨rfl, { h with counts := congrArg (MatchCounts.drop id) h.counts }⟩
  | listCounts =>
      have hlist := h.unlessFaulty .listCounts (fun s => (s.counts.toList, s))
        (fun s => (s.counts.toList, s)) ⟨congrArg MatchCounts.toList h.counts, h⟩
      exact ⟨congrArg (Except.bind · id) hlist.1, hlist.2⟩

theorem Beside.notice (h : Beside source faults fresh seen seen' s t) (e : BackendEvent) :
    Beside source faults fresh seen seen' (s.notice e) (t.notice e) := by
  cases e with
  | evaluated v => exact { h with verdicts := congrArg (Tally.count v) h.verdicts }
  | matched id => exact { h with pending := congrArg (· ++ [id]) h.pending }
  | served origin n => exact { h with served := congrArg (Tally.add 0 origin n) h.served }

theorem simulates_beside :
    Program.Simulates (I := Backend) (BackendRequest.IsSafe fresh) (fun _ => True)
      collaborator collaborator (Beside source faults fresh seen seen') where
  answer := fun hr h => h.answer hr
  notice := fun _ h => h.notice _

/-- A program that looks figures up in fresh memos only ends alike in services beside each other,
and asks and records the same. -/
theorem Beside.run {α : Type} (h : Beside source faults fresh seen seen' s t)
    {p : Program Backend α}
    (hp : p.Confined (BackendRequest.IsSafe fresh) (fun _ => True))
    (history : List (Occurrence Backend)) :
    (p.run recorder ⟨s, history⟩).1 = (p.run recorder ⟨t, history⟩).1 ∧
      Beside source faults fresh seen seen' (p.run recorder ⟨s, history⟩).2.state
        (p.run recorder ⟨t, history⟩).2.state ∧
      (p.run recorder ⟨s, history⟩).2.history = (p.run recorder ⟨t, history⟩).2.history :=
  simulates_beside.recording.run hp ⟨h, rfl⟩

/-- Counting matches looks nothing up. -/
theorem Beside.drain (h : Beside source faults fresh seen seen' s t) :
    Beside source faults fresh seen seen' s.drain t.drain := by
  have hfold : ∀ (ids : List RuleId) {s t : ServiceState},
      Beside source faults fresh seen seen' s t →
      Beside source faults fresh seen seen'
        (ids.foldl (fun s id => (s.perform (countMatch id)).2) s)
        (ids.foldl (fun s id => (s.perform (countMatch id)).2) t) := by
    intro ids
    induction ids with
    | nil => exact fun h => h
    | cons id rest ih =>
        intro s t h
        refine ih ?_
        simp only [perform_countMatch]
        exact (h.answer (r := .increment id) trivial).2
  rw [ServiceState.drain, ServiceState.drain, h.pending]
  exact hfold _ { h with pending := rfl }

/-- Counting matches leaves the desk as it is. -/
theorem desk_drain (s : ServiceState) : s.drain.desk = s.desk := by
  have hfold : ∀ (ids : List RuleId) (s : ServiceState),
      (ids.foldl (fun s id => (s.perform (countMatch id)).2) s).desk = s.desk := by
    intro ids
    induction ids with
    | nil => exact fun _ => rfl
    | cons id rest ih =>
        intro s
        rw [List.foldl_cons, ih, perform_countMatch]
        obtain ⟨e, h⟩ | h := unlessFaulty_cases .increment s
          fun s => ((), { s with counts := s.counts.increment id })
        · exact congrArg (fun r => r.2.desk) h
        · exact congrArg (fun r => r.2.desk) h
  exact hfold _ _

end ServiceState

/-! ## Commands -/

namespace ServiceCommand

/-- The source after a command. -/
def sourceAfter (source : Source) : ServiceCommand → Source
  | .updateFigures v => (source.updateFigures v).2
  | .replaceSource source => source
  | _ => source

/-- Whether memos are fresh after a command. -/
def freshAfter (fresh : Bool) : ServiceCommand → Bool
  | .updateFigures _ | .replaceSource _ => false
  | .clearCaches => true
  | _ => fresh

theorem freshAfter_of_changesSource {c : ServiceCommand} (h : c.changesSource = true)
    (fresh : Bool) : c.freshAfter fresh = false := by
  cases c <;> first | rfl | cases h

/-- Only recommendations look figures up. -/
theorem confined_program_of_fresh {fresh : Bool} (catalog : List RuleSet) {call : ServiceCall}
    (h : (ServiceCommand.serve call).recommends = true → fresh = true) :
    (call.program catalog).Confined (BackendRequest.IsSafe fresh) (fun _ => True) := by
  cases call with
  | add r => exact confined_addRule (fun _ => trivial) (fun _ => trivial) (fun _ => trivial) r
  | delete id =>
      exact confined_deleteRule (fun _ => trivial) (fun _ => trivial) (fun _ => trivial) id
  | recommend user =>
      exact confined_recommend (fun _ => h rfl) (fun _ => trivial) (fun _ => trivial)
        (fun _ _ => trivial) trivial catalog user
  | recommendByName name =>
      exact confined_recommendByName (fun _ => h rfl) (fun _ => trivial) (fun _ => trivial)
        (fun _ _ => trivial) trivial (fun _ => trivial) catalog name

end ServiceCommand

/-- Replies that are the same, but for the number of values forgotten. -/
inductive ServiceReply.Agrees : ServiceReply → ServiceReply → Prop where
  | same (r : ServiceReply) : Agrees r r
  | cleared (m n : Nat) : Agrees (.cleared m) (.cleared n)

theorem ServiceReply.Agrees.of_eq {r r' : ServiceReply} (h : r = r') : r.Agrees r' :=
  h ▸ .same r

/-- The same came of the same command, but for the lookups that reached the provider. -/
structure Visit.Agrees (v w : Visit) : Prop where
  command : v.command = w.command
  reply : v.reply.Agrees w.reply
  history : v.history = w.history
  names : namesIn v.calls = namesIn w.calls

/-- The lookups that reached the provider in some visits. -/
def lookupsOf (visits : List Visit) : List Lookup :=
  visits.flatMap fun v => lookupsIn v.calls

namespace Diary

/-- Diaries of services beside each other. -/
structure Beside (source : Source) (faults : Faults) (fresh : Bool) (d e : Diary) : Prop where
  state : d.state.Beside source faults fresh (lookupsOf d.sinceClear) (lookupsOf e.sinceClear)
    e.state
  past : List.Forall₂ Visit.Agrees d.past e.past
  idle : d.state.desk.provider.calls = [] ∧ e.state.desk.provider.calls = []

variable {source : Source} {faults : Faults} {fresh : Bool} {catalog : List RuleSet} {d e : Diary}

theorem lookupsOf_concat (visits : List Visit) (v : Visit) :
    lookupsOf (visits ++ [v]) = lookupsOf visits ++ lookupsIn v.calls := by
  rw [lookupsOf, List.flatMap_append, lookupsOf, List.flatMap_singleton]

/-- What came of a command, where it has led to a reply and a service with its history. -/
def visit (command : ServiceCommand) (reply : ServiceReply) (r : Recorded Backend ServiceState) :
    Visit :=
  ⟨command, reply, r.history, r.state.desk.provider.calls⟩

theorem step_eq {command : ServiceCommand} {reply : ServiceReply}
    {r : Recorded Backend ServiceState}
    (h : command.carryOut catalog ⟨d.state, []⟩ = (reply, r)) :
    d.step catalog command =
      ⟨r.state.drain.takeCalls.2, d.past ++ [visit command reply r]⟩ := by
  rw [step, h, visit, ← ServiceState.desk_drain]
  rfl

theorem sinceClear_step {command : ServiceCommand} {reply : ServiceReply}
    {r : Recorded Backend ServiceState}
    (h : command.carryOut catalog ⟨d.state, []⟩ = (reply, r)) :
    (d.step catalog command).sinceClear =
      if command.isClear then [] else d.sinceClear ++ [visit command reply r] := by
  rw [step_eq h, sinceClear]
  cases hclear : command.isClear with
  | true => exact List.rtakeWhile_concat_neg _ _ _ (by simp [visit, hclear])
  | false => exact List.rtakeWhile_concat_pos _ _ _ (by simp [visit, hclear])

theorem desk_clear_provider (d : Desk) : d.clear.2.provider = d.provider := by
  rw [Desk.clear]
  cases d.caches <;> rfl

/-- A command that clears nothing leads from services beside each other to such services. -/
theorem Beside.step_of_carryOut (h : Beside source faults fresh d e) {source' : Source}
    {fresh' : Bool} {command : ServiceCommand} {reply reply' : ServiceReply}
    {r r' : Recorded Backend ServiceState} (hclear : command.isClear = false)
    (hr : command.carryOut catalog ⟨d.state, []⟩ = (reply, r))
    (hr' : command.carryOut catalog ⟨e.state, []⟩ = (reply', r'))
    (hreply : reply.Agrees reply') (hhistory : r.history = r'.history)
    (hstate : r.state.Beside source' faults fresh' (lookupsOf d.sinceClear)
      (lookupsOf e.sinceClear) r'.state) :
    Beside source' faults fresh' (d.step catalog command) (e.step catalog command) := by
  have hnames : namesIn r.state.desk.provider.calls = namesIn r'.state.desk.provider.calls :=
    hstate.desk.names
  have hdrain := hstate.drain
  have hdesk := hdrain.desk.takeCalls
  rw [ServiceState.desk_drain, ServiceState.desk_drain] at hdesk
  have hsince := sinceClear_step hr
  have hsince' := sinceClear_step hr'
  rw [hclear, if_neg Bool.false_ne_true] at hsince hsince'
  refine ⟨?_, ?_, ?_⟩
  · rw [hsince, hsince', lookupsOf_concat, lookupsOf_concat, step_eq hr, step_eq hr']
    refine { hdrain with desk := ?_ }
    rw [ServiceState.takeCalls, ServiceState.takeCalls, ServiceState.desk_drain,
      ServiceState.desk_drain]
    exact hdesk
  · rw [step_eq hr, step_eq hr']
    exact List.rel_append h.past (.cons ⟨rfl, hreply, hhistory, hnames⟩ .nil)
  · rw [step_eq hr, step_eq hr']
    exact ⟨rfl, rfl⟩

/-- Clearing leads from services beside each other to such services, with fresh memos. -/
theorem Beside.clear (h : Beside source faults fresh d e)
    (hgives : ∃ figure, source.Gives faults figure) :
    Beside source faults true (d.step catalog .clearCaches) (e.step catalog .clearCaches) := by
  obtain ⟨figure, hgives⟩ := hgives
  have hclear := h.state.desk.clear hgives h.idle.1 h.idle.2
  have hstate : d.state.clearCaches.2.Beside source faults true [] [] e.state.clearCaches.2 :=
    { h.state with desk := hclear }
  have hdrain := hstate.drain
  have hcalls : d.state.desk.clear.2.provider.calls = [] ∧
      e.state.desk.clear.2.provider.calls = [] := by
    rw [desk_clear_provider, desk_clear_provider]
    exact h.idle
  have hdesk := hclear.takeCalls
  rw [hcalls.1, hcalls.2] at hdesk
  refine ⟨?_, ?_, ⟨rfl, rfl⟩⟩
  · have hsince : (d.step catalog .clearCaches).sinceClear = [] := sinceClear_step rfl
    have hsince' : (e.step catalog .clearCaches).sinceClear = [] := sinceClear_step rfl
    rw [hsince, hsince', step_eq (d := d) rfl, step_eq (d := e) rfl]
    refine { hdrain with desk := ?_ }
    rw [ServiceState.takeCalls, ServiceState.takeCalls, ServiceState.desk_drain,
      ServiceState.desk_drain]
    exact hdesk
  · refine List.rel_append h.past (.cons ⟨rfl, .cleared _ _, rfl, ?_⟩ .nil)
    show namesIn (ServiceState.drain _).desk.provider.calls =
      namesIn (ServiceState.drain _).desk.provider.calls
    rw [ServiceState.desk_drain, ServiceState.desk_drain]
    exact hclear.names

/-- **What one command preserves.** -/
theorem Beside.step (h : Beside source faults fresh d e) {command : ServiceCommand}
    (hfresh : command.recommends = true → fresh = true)
    (hgives : ∃ figure, source.Gives faults figure) :
    Beside (command.sourceAfter source) faults (command.freshAfter fresh) (d.step catalog command)
      (e.step catalog command) := by
  have hasks : ∀ r : BackendRequest, r.IsSafe fresh → (Program.request (I := Backend) r).Confined
      (BackendRequest.IsSafe fresh) (fun _ => True) := fun _ hr => Program.confined_request hr
  cases command with
  | serve call =>
      have hcall := ServiceCommand.confined_program_of_fresh catalog hfresh
      obtain ⟨hresult, hstate, hhistory⟩ := h.state.run hcall []
      refine h.step_of_carryOut rfl rfl rfl ?_ hhistory hstate
      rw [hresult]
      exact .same _
  | listRules =>
      obtain ⟨hresult, hstate, hhistory⟩ := h.state.run (hasks .listRules trivial) []
      refine h.step_of_carryOut rfl rfl rfl ?_ hhistory hstate
      exact .of_eq (congrArg ServiceReply.rules hresult)
  | listCounts =>
      obtain ⟨hresult, hstate, hhistory⟩ := h.state.run (hasks .listCounts trivial) []
      refine h.step_of_carryOut rfl rfl rfl ?_ hhistory hstate
      exact .of_eq (congrArg ServiceReply.counts hresult)
  | clearCaches => exact h.clear hgives
  | updateFigures v =>
      obtain ⟨hresult, hdesk⟩ := h.state.desk.updateFigures v
      refine h.step_of_carryOut rfl rfl rfl ?_ rfl { h.state with desk := hdesk }
      exact .of_eq (congrArg ServiceReply.updated hresult)
  | replaceSource source' =>
      have hdesk := h.state.desk.replaceSource source'
      exact h.step_of_carryOut rfl rfl rfl (.same _) rfl { h.state with desk := hdesk }

/-! ## Runs -/

/-- After each change of what the provider answers, the memos are cleared before recommendations are
asked for. -/
def ClearedInTime (commands : List ServiceCommand) : Prop :=
  ∀ before change between c, before ++ change :: (between ++ [c]) <+: commands →
    change.changesSource = true → c.recommends = true → .clearCaches ∈ between

/-- Memos that are not fresh have not been cleared since the provider's answers changed. -/
theorem fresh_eq_false_iff {commands : List ServiceCommand} :
    commands.foldl ServiceCommand.freshAfter true = false ↔
      ∃ before change between, commands = before ++ change :: between ∧
        change.changesSource = true ∧ .clearCaches ∉ between := by
  constructor
  · intro h
    induction commands using List.reverseRecOn with
    | nil => cases h
    | append_singleton commands c ih =>
        have hlater (h : commands.foldl ServiceCommand.freshAfter true = false)
            (hc : .clearCaches ≠ c) : ∃ before change between,
              commands ++ [c] = before ++ change :: between ∧ change.changesSource = true ∧
                .clearCaches ∉ between := by
          obtain ⟨before, change, between, rfl, hchange, hnot⟩ := ih h
          exact ⟨before, change, between ++ [c], by simp, hchange, by simp [hnot, hc]⟩
        rw [List.foldl_append] at h
        cases c with
        | updateFigures v => exact ⟨commands, .updateFigures v, [], rfl, rfl, List.not_mem_nil⟩
        | replaceSource s => exact ⟨commands, .replaceSource s, [], rfl, rfl, List.not_mem_nil⟩
        | clearCaches => cases h
        | _ => exact hlater h nofun
  · rintro ⟨before, change, between, rfl, hchange, hnot⟩
    rw [List.foldl_append, List.foldl_cons, ServiceCommand.freshAfter_of_changesSource hchange]
    induction between with
    | nil => rfl
    | cons c rest ih =>
        rw [List.mem_cons, not_or] at hnot
        cases c with
        | clearCaches => exact absurd rfl hnot.1
        | _ => exact ih hnot.2

/-- The memos are cleared in time if recommendations are asked for while the memos are fresh. -/
theorem clearedInTime_iff {commands : List ServiceCommand} :
    ClearedInTime commands ↔ ∀ before c, before ++ [c] <+: commands → c.recommends = true →
      before.foldl ServiceCommand.freshAfter true = true := by
  constructor
  · intro h before c hprefix hc
    by_contra hnot
    obtain ⟨earlier, change, between, rfl, hchange, hnone⟩ :=
      fresh_eq_false_iff.mp (Bool.not_eq_true _ ▸ hnot)
    exact hnone (h earlier change between c (by simpa using hprefix) hchange hc)
  · intro h before change between c hprefix hchange hc
    by_contra hnot
    have hfresh := h (before ++ change :: between) c (by simpa using hprefix) hc
    rw [fresh_eq_false_iff.mpr ⟨before, change, between, rfl, hchange, hnot⟩] at hfresh
    cases hfresh

/-- Recommendations are asked for while the memos are fresh. -/
def asksFresh : Bool → List ServiceCommand → Bool
  | _, [] => true
  | fresh, c :: rest => (!c.recommends || fresh) && asksFresh (c.freshAfter fresh) rest

theorem asksFresh_iff {fresh : Bool} {commands : List ServiceCommand} :
    asksFresh fresh commands = true ↔ ∀ before c, before ++ [c] <+: commands →
      c.recommends = true → before.foldl ServiceCommand.freshAfter fresh = true := by
  induction commands generalizing fresh with
  | nil => simp [asksFresh]
  | cons command rest ih =>
      rw [asksFresh, Bool.and_eq_true, ih]
      constructor
      · rintro ⟨hhead, hrest⟩ before c hprefix hc
        cases before with
        | nil =>
            obtain rfl : c = command := by simpa using hprefix
            simpa [hc] using hhead
        | cons b before =>
            obtain ⟨rfl, htail⟩ := List.cons_prefix_cons.mp hprefix
            exact hrest before c htail hc
      · intro h
        refine ⟨?_, fun before c hprefix hc => ?_⟩
        · cases hc : command.recommends with
          | true => exact h [] command (by simp) hc
          | false => rfl
        · exact h (command :: before) c (List.cons_prefix_cons.mpr ⟨rfl, hprefix⟩) hc

instance : DecidablePred ClearedInTime := fun commands =>
  decidable_of_iff (asksFresh true commands = true) (asksFresh_iff.trans clearedInTime_iff.symm)

theorem Beside.run (h : Beside source faults true d e) (catalog : List RuleSet)
    {commands : List ServiceCommand}
    (hcleared : ClearedInTime commands)
    (hgives : ∀ before, before <+: commands →
      ∃ figure, (before.foldl ServiceCommand.sourceAfter source).Gives faults figure) :
    Beside (commands.foldl ServiceCommand.sourceAfter source) faults
      (commands.foldl ServiceCommand.freshAfter true) (d.run catalog commands)
      (e.run catalog commands) := by
  induction commands using List.reverseRecOn with
  | nil => exact h
  | append_singleton commands c ih =>
      have hprefix : commands <+: commands ++ [c] := List.prefix_append _ _
      have hrun := ih
        (fun before change between c h => hcleared before change between c (h.trans hprefix))
        (fun before hbefore => hgives before (hbefore.trans hprefix))
      have hfresh : c.recommends = true → commands.foldl ServiceCommand.freshAfter true = true :=
        clearedInTime_iff.mp hcleared commands c List.prefix_rfl
      rw [run_concat, run_concat, List.foldl_append, List.foldl_append]
      exact hrun.step hfresh (hgives commands hprefix)

/-- A service at its start, with memos in front of its provider or without. -/
def start (s : ServiceState) (source : Source) (faults : Faults) (caches : Option Caches) : Diary :=
  { state := { s with desk := ⟨{ source, faults }, caches⟩ } }

theorem beside_start (s : ServiceState)
    (hgives : ∃ figure, source.Gives faults figure) :
    Beside source faults true (start s source faults (some {})) (start s source faults none) := by
  obtain ⟨figure, hgives⟩ := hgives
  have hdesk : (⟨{ source, faults }, some {}⟩ : Desk).Beside source faults true [] []
      ⟨{ source, faults }, none⟩ :=
    ⟨⟨rfl, rfl⟩, ⟨rfl, rfl⟩, rfl, rfl, rfl, {}, rfl,
      fun _ => ⟨figure, hgives, Caches.holds_start⟩⟩
  exact ⟨⟨hdesk, rfl, rfl, rfl, rfl, rfl⟩, .nil, rfl, rfl⟩

/-- **Memos do not show.**  The provider works from any source, which may have figures of its own
for each user, and any changes may be made to it.  After any commands among which the memos are
cleared after each change, before recommendations are asked for again, and while the source answers
every lookup, the service with memos has replied as the one without them, but for the numbers of
values forgotten; it has asked and recorded the same, verdicts included, and has resolved the same
names; and it is left with the same rules, match counts and tallies.  At every moment the lookups
that have reached its provider since the last clearing are the different ones that have reached the
other provider, each once and in the order in which they came first. -/
theorem memos_do_not_show (catalog : List RuleSet) (s : ServiceState) (source : Source)
    (faults : Faults) (commands : List ServiceCommand) (hcleared : ClearedInTime commands)
    (hgives : ∀ before, before <+: commands →
      ∃ figure, (before.foldl ServiceCommand.sourceAfter source).Gives faults figure) :
    let cached := start s source faults (some {})
    let plain := start s source faults none
    List.Forall₂ Visit.Agrees (cached.run catalog commands).past (plain.run catalog commands).past ∧
    (cached.run catalog commands).state.rules = (plain.run catalog commands).state.rules ∧
    (cached.run catalog commands).state.counts = (plain.run catalog commands).state.counts ∧
    (cached.run catalog commands).state.verdicts = (plain.run catalog commands).state.verdicts ∧
    (cached.run catalog commands).state.served = (plain.run catalog commands).state.served ∧
    ∀ before, before <+: commands →
      lookupsOf (cached.run catalog before).sinceClear =
        (lookupsOf (plain.run catalog before).sinceClear).eraseDups := by
  intro cached plain
  have hstart : Beside source faults true cached plain :=
    beside_start s (hgives [] List.nil_prefix)
  obtain ⟨hstate, hpast, -⟩ := hstart.run catalog hcleared hgives
  refine ⟨hpast, hstate.rules, hstate.counts, hstate.verdicts, hstate.served, ?_⟩
  intro before hbefore
  obtain ⟨hstate, -, hidle, hidle'⟩ := hstart.run catalog
    (fun earlier change between c h => hcleared earlier change between c (h.trans hbefore))
    (fun earlier h => hgives earlier (h.trans hbefore))
  have hasked := hstate.desk.asked
  rw [hidle, hidle', lookupsIn_nil, List.append_nil, List.append_nil] at hasked
  exact hasked

/-- A source that gives usage to one user only. -/
def usedBy (owner : Uuid) : Source :=
  .own (fun
    | .usage user _ => .ok (.bool (user == owner))
    | _ => .ok (.int 0)) fun _ => .ok none

/-- Another user than the default one. -/
def other : Uuid := ⟨List.finRange 16 ++ List.finRange 16, rfl⟩

/-- Recommendations to two users from figures of their own, and again after the two have changed
places, twice to one of them. -/
def changing : List ServiceCommand :=
  [.serve (.add Traffic.debitless), .serve (.recommend default), .serve (.recommend other),
    .replaceSource (usedBy other), .listRules, .clearCaches, .serve (.recommend default),
    .serve (.recommend other), .serve (.recommend default)]

/-- Where sources that give usage to one user only are replaced by such sources, there is always
one. -/
theorem exists_foldl_usedBy {commands : List ServiceCommand}
    (h : ∀ c ∈ commands, c.changesSource = true → ∃ owner, c = .replaceSource (usedBy owner))
    (owner : Uuid) :
    ∃ owner', commands.foldl ServiceCommand.sourceAfter (usedBy owner) = usedBy owner' := by
  induction commands generalizing owner with
  | nil => exact ⟨owner, rfl⟩
  | cons c rest ih =>
      rw [List.forall_mem_cons] at h
      cases c with
      | replaceSource source =>
          obtain ⟨owner', ⟨⟩⟩ := h.1 rfl
          exact ih h.2 owner'
      | updateFigures v =>
          obtain ⟨_, ⟨⟩⟩ := h.1 rfl
      | _ => exact ih h.2 owner

theorem gives_changing {before : List ServiceCommand} (h : before <+: changing) :
    ∃ figure, (before.foldl ServiceCommand.sourceAfter (usedBy default)).Gives [] figure := by
  have hchanges : ∀ c ∈ before, c.changesSource = true →
      ∃ owner, c = .replaceSource (usedBy owner) := by
    intro c hc hchange
    have hmem : c ∈ changing.filter ServiceCommand.changesSource :=
      List.mem_filter.mpr ⟨h.subset hc, hchange⟩
    exact ⟨other, List.mem_singleton.mp hmem⟩
  obtain ⟨owner, howner⟩ := exists_foldl_usedBy hchanges default
  rw [howner]
  exact ⟨fun
    | .usage user _ => .bool (user == owner)
    | _ => .int 0, fun l => by cases l <;> rfl⟩

theorem memos_do_not_show_changing :
    lookupsOf ((start {} (usedBy default) [] none).run [] changing).sinceClear =
        [.usage default .debit, .usage other .debit, .usage default .debit] ∧
      lookupsOf ((start {} (usedBy default) [] (some {})).run [] changing).sinceClear =
        [.usage default .debit, .usage other .debit] ∧
      ((start {} (usedBy default) [] (some {})).run [] changing).state.verdicts =
        [(.notMatched, 2), (.matched, 3)] := by
  obtain ⟨-, -, -, hverdicts, -, hasked⟩ := memos_do_not_show [] {} (usedBy default) [] changing
    (by decide) fun _ h => gives_changing h
  have hplain : lookupsOf ((start {} (usedBy default) [] none).run [] changing).sinceClear =
      [.usage default .debit, .usage other .debit, .usage default .debit] := by
    decide +kernel
  refine ⟨hplain, ?_, ?_⟩
  · rw [hasked changing List.prefix_rfl, hplain]
    decide
  · rw [hverdicts]
    decide +kernel

end Diary

end Recommender
