import Mathlib
import Recommender.Proofs.Aggregate.Parallel
import Recommender.Proofs.Rule.Numbering
import Recommender.Proofs.Service.Confinement
import Recommender.Proofs.Service.Faults
import Recommender.Proofs.Service.Sequence

/-!
# The rules of a service are an ordered map

A *roster* has the rules that were added and not yet deleted, each as it was given and under the
number that was returned for it, in the order in which they were added.  It follows from the
commands and the replies to them alone.  The rule store and the match counts of a service, whose
operations do not fail, follow the roster through any commands: the store lists its rules, and the
match counts are counts of its numbers.
-/

namespace Recommender

open ServiceState (collaborator recorder)

/-- Rules under the numbers that were returned for them, in the order in which they were added. -/
abbrev Roster := List (Int × Rule)

namespace Roster

/-- The numbers, in order. -/
def numbers (m : Roster) : List Int :=
  m.map (·.1)

/-- The rules, each with its number. -/
def rules (m : Roster) : List Rule :=
  m.map fun e => { e.2 with id := .int e.1 }

/-- Whether a rule is there under an identifier. -/
def Has (m : Roster) (id : RuleId) : Prop :=
  ∃ n ∈ m.numbers, id.key = .number n

/-- Take the rule of an identifier out. -/
def remove (id : RuleId) (m : Roster) : Roster :=
  m.filter fun e => .number e.1 ≠ id.key

/-- The roster after a reply to a command. -/
def after (m : Roster) : ServiceReply → Roster
  | .served (.add r) (.ok saved) =>
    match Rule.id saved with
    | .int n => m ++ [(n, r)]
    | _ => m
  | .served (.delete id) (.ok _) => m.remove id
  | _ => m

theorem mem_numbers {m : Roster} {n : Int} : n ∈ m.numbers ↔ ∃ r, (n, r) ∈ m := by
  simp [numbers]

theorem numbers_remove_sublist (id : RuleId) (m : Roster) :
    (m.remove id).numbers.Sublist m.numbers :=
  List.filter_sublist.map _

end Roster

/-- The roster that follows from the commands so far. -/
def Diary.roster (d : Diary) : Roster :=
  d.past.foldl (fun m v => m.after v.reply) []

namespace ServiceState

/-- The stores of a service, whose operations do not fail, follow a roster. -/
structure Tracks (m : Roster) (s : ServiceState) : Prop where
  rules : s.rules.rules.entries =
    m.map fun e => (.number e.1, .number e.1, { e.2 with id := .int e.1 })
  counts : (s.counts.counts.entries.map fun e => (e.1, e.2.1)) =
    m.map fun e => (.number e.1, .number e.1)
  ascending : m.numbers.Pairwise (· < ·)
  fresh : ∀ n ∈ m.numbers, n < s.rules.nextId
  faultless : s.faults = []

/-- The matches that are still to be counted are of rules of a roster. -/
def Due (m : Roster) (s : ServiceState) : Prop :=
  ∀ id ∈ s.pending, ∃ n ∈ m.numbers, id = .number n

variable {m : Roster} {s : ServiceState}

/-! ## Stores that follow a roster -/

namespace Tracks

theorem toList_eq (h : s.Tracks m) : s.rules.toList = m.rules := by
  rw [RuleStore.toList, ById.toList, h.rules, List.map_map, List.map_map]
  rfl

theorem keys_rules (h : s.Tracks m) :
    Assoc.keys s.rules.rules.entries = m.numbers.map .number := by
  rw [Assoc.keys, h.rules, List.map_map, Roster.numbers, List.map_map]
  rfl

theorem keys_counts (h : s.Tracks m) :
    Assoc.keys s.counts.counts.entries = m.numbers.map .number := by
  have hkeys := congrArg (List.map Prod.fst) h.counts
  rw [List.map_map, List.map_map] at hkeys
  rw [Roster.numbers, List.map_map]
  exact hkeys

theorem contains_iff (h : s.Tracks m) (id : RuleId) :
    s.rules.contains id = true ↔ m.Has id := by
  rw [RuleStore.contains, ById.find?, Option.isSome_map, Assoc.isSome_find?_iff, h.keys_rules,
    List.mem_map]
  constructor
  · rintro ⟨n, hn, hid⟩
    exact ⟨n, hn, hid.symm⟩
  · rintro ⟨n, hn, hid⟩
    exact ⟨n, hn, hid.symm⟩

/-- The number that is handed out next is nobody's. -/
theorem next_not_mem (h : s.Tracks m) : s.rules.nextId ∉ m.numbers :=
  fun hmem => Int.lt_irrefl _ (h.fresh _ hmem)

theorem find?_next (h : s.Tracks m) :
    Assoc.find? (.number s.rules.nextId) s.rules.rules.entries = none ∧
      Assoc.find? (.number s.rules.nextId) s.counts.counts.entries = none := by
  have hnew : RuleKey.number s.rules.nextId ∉ m.numbers.map .number := by
    intro hmem
    obtain ⟨n, hn, heq⟩ := List.mem_map.mp hmem
    exact h.next_not_mem (RuleKey.number.inj heq ▸ hn)
  rw [Assoc.find?_eq_none_iff, Assoc.find?_eq_none_iff, h.keys_rules, h.keys_counts]
  exact ⟨hnew, hnew⟩

/-- A rule that is saved with its count is the last one of the roster. -/
theorem save (h : s.Tracks m) (r : Rule) :
    Tracks (m ++ [(s.rules.nextId, r)])
      { s with
        rules := (s.rules.save r).2
        counts := s.counts.start (.number s.rules.nextId) } where
  rules := by
    have hput : (s.rules.save r).2.rules.entries = s.rules.rules.entries ++
        [(.number s.rules.nextId, .number s.rules.nextId,
          { r with id := .int s.rules.nextId })] := by
      simp only [RuleStore.save, ById.put, RuleId.key_number, h.find?_next.1, Option.elim_none]
      exact Assoc.put_of_find?_eq_none h.find?_next.1
    rw [hput, h.rules, List.map_append]
    rfl
  counts := by
    have hnone : s.counts.count? (.number s.rules.nextId) = none := by
      rw [MatchCounts.count?, ById.find?, RuleId.key_number, h.find?_next.2, Option.map_none]
    have hput : (s.counts.start (.number s.rules.nextId)).counts.entries =
        s.counts.counts.entries ++
          [(.number s.rules.nextId, .number s.rules.nextId, 0)] := by
      simp only [MatchCounts.start, hnone, ById.put, RuleId.key_number, h.find?_next.2,
        Option.elim_none]
      exact Assoc.put_of_find?_eq_none h.find?_next.2
    rw [hput, List.map_append, h.counts, List.map_append]
    rfl
  ascending := by
    rw [Roster.numbers, List.map_append, List.pairwise_append]
    refine ⟨h.ascending, List.pairwise_singleton _ _, ?_⟩
    intro n hn k hk
    obtain rfl : k = s.rules.nextId := by simpa using hk
    exact h.fresh n hn
  fresh := fun n hn => by
    show n < s.rules.nextId + 1
    rw [Roster.numbers, List.map_append, List.mem_append] at hn
    obtain hold | hnew := hn
    · have hlt := h.fresh n hold
      omega
    · obtain rfl : n = s.rules.nextId := by simpa using hnew
      omega
  faultless := h.faultless

/-- A rule that is deleted with its count is out of the roster. -/
theorem delete (h : s.Tracks m) (id : RuleId) :
    Tracks (m.remove id)
      { s with rules := s.rules.delete id, counts := s.counts.drop id } where
  rules := by
    show Assoc.remove id.key s.rules.rules.entries = _
    rw [Assoc.remove, h.rules, List.filter_map]
    rfl
  counts := by
    show (Assoc.remove id.key s.counts.counts.entries).map _ = _
    have hmap : ((s.counts.counts.entries.map fun e => (e.1, e.2.1)).filter
        fun e => e.1 ≠ id.key) = (Assoc.remove id.key s.counts.counts.entries).map
          fun e => (e.1, e.2.1) := by
      rw [List.filter_map]
      rfl
    rw [← hmap, h.counts, List.filter_map]
    rfl
  ascending := h.ascending.sublist (m.numbers_remove_sublist id)
  fresh := fun n hn => h.fresh n ((m.numbers_remove_sublist id).subset hn)
  faultless := h.faultless

/-- A count that is there is counted up where it stands. -/
theorem increment (h : s.Tracks m) {n : Int} (hn : n ∈ m.numbers) :
    Tracks m { s with counts := s.counts.increment (.number n) } where
  rules := h.rules
  counts := by
    have hkey : RuleKey.number n ∈ Assoc.keys s.counts.counts.entries := by
      rw [h.keys_counts]
      exact List.mem_map_of_mem hn
    obtain ⟨old, hold⟩ := Option.isSome_iff_exists.mp (Assoc.isSome_find?_iff.mpr hkey)
    rw [← h.counts]
    refine Assoc.map_put_of_find?_eq_some Prod.fst hold ?_
    rw [RuleId.key_number, hold]
    rfl
  ascending := h.ascending
  fresh := h.fresh
  faultless := h.faultless

/-- The match counts are in order. -/
theorem exists_toList_counts (h : s.Tracks m) :
    ∃ stats, s.counts.toList = .ok stats ∧ stats.map (·.ruleId) = m.numbers.map .number := by
  have hids : s.counts.counts.toList.map (·.1) = m.numbers.map .number := by
    have hsnd := congrArg (List.map Prod.snd) h.counts
    rw [List.map_map, List.map_map] at hsnd
    rw [ById.toList, List.map_map, Roster.numbers, List.map_map]
    exact hsnd
  have hordered : RuleId.areOrdered (s.counts.counts.toList.map (·.1)) = true := by
    refine MatchCounts.areOrdered_of_numbers fun id hid => ?_
    rw [hids] at hid
    obtain ⟨n, -, rfl⟩ := List.mem_map.mp hid
    exact ⟨n, rfl⟩
  have hsorted : s.counts.counts.toList.Pairwise
      fun a b => MatchCounts.listedBefore a b = true := by
    have hpairwise : (s.counts.counts.toList.map (·.1)).Pairwise
        fun a b => (!b.precedes a) = true := by
      rw [hids, List.pairwise_map]
      refine h.ascending.imp fun {a b} hab => ?_
      rw [RuleId.precedes_number]
      simp only [Bool.not_eq_true', decide_eq_false_iff_not]
      omega
    exact List.pairwise_map.mp hpairwise
  refine ⟨_, by rw [MatchCounts.toList, if_pos hordered], ?_⟩
  rw [List.mergeSort_of_pairwise hsorted, List.map_map]
  exact hids

theorem of_eq {t : ServiceState} (h : s.Tracks m) (hrules : t.rules = s.rules)
    (hcounts : t.counts = s.counts) (hfaults : t.faults = s.faults) : t.Tracks m where
  rules := hrules ▸ h.rules
  counts := hcounts ▸ h.counts
  ascending := h.ascending
  fresh := hrules ▸ h.fresh
  faultless := hfaults.trans h.faultless

end Tracks

/-! ## Operations that do not fail -/

section

variable (hfaults : s.faults = [])

include hfaults

theorem unlessFaulty_of_faultless {α : Type} (op : Operation)
    (act : ServiceState → α × ServiceState) :
    s.unlessFaulty op act = (.ok (act s).1, (act s).2) :=
  unlessFaulty_of_not_fault (by rw [hfaults]; rfl) act

/-- A rule with valid queries is added. -/
theorem perform_addRule_of_accepted {r : Rule} (hqueries : r.queries.isSome = true)
    (haccepted : r.accepted = true) :
    s.perform (addRule r) = (.ok { r with id := .int s.rules.nextId },
      { s with
        rules := (s.rules.save r).2
        counts := s.counts.start (.number s.rules.nextId) }) := by
  have hvalid : r.rejection? = none := Rule.rejection?_eq_none_iff.mpr ⟨hqueries, haccepted⟩
  rw [addRule_of_not_rejected hvalid, perform_storeRule, hfaults]
  rfl

/-- The rule of an identifier is deleted with its count. -/
theorem perform_deleteRule_of_present {id : RuleId} (hid : s.rules.contains id = true) :
    s.perform (deleteRule id) =
      (.ok (), { s with rules := s.rules.delete id, counts := s.counts.drop id }) := by
  rw [perform_deleteRule, hfaults]
  exact if_pos hid

/-- An identifier of no rule cannot be deleted. -/
theorem perform_deleteRule_of_absent {id : RuleId} (hid : s.rules.contains id = false) :
    s.perform (deleteRule id) = (.error (ruleMissing id.toJson), s) := by
  rw [perform_deleteRule, hfaults]
  exact if_neg (Bool.eq_false_iff.mp hid)

end

/-- The rules are listed in the order of the roster. -/
theorem Tracks.answer_listRules (h : s.Tracks m) : s.answer .listRules = (.ok m.rules, s) := by
  rw [answer, unlessFaulty_of_faultless h.faultless, h.toList_eq]

/-- The match counts are listed by number. -/
theorem Tracks.answer_listCounts (h : s.Tracks m) :
    ∃ stats, s.answer .listCounts = (.ok stats, s) ∧
      stats.map (·.ruleId) = m.numbers.map .number := by
  obtain ⟨stats, hstats, hids⟩ := h.exists_toList_counts
  refine ⟨stats, ?_, hids⟩
  rw [answer, unlessFaulty_of_faultless h.faultless]
  simp only [hstats]
  rfl

/-- A rule that is not added leaves the service as it was. -/
theorem perform_addRule_of_not_accepted {r : Rule}
    (h : ¬ (r.queries.isSome = true ∧ r.accepted = true)) (s : ServiceState) :
    ∃ e, s.perform (addRule r) = (.error e, s) := by
  cases hrejected : r.rejection? with
  | some e => exact ⟨e, by rw [addRule_of_rejection hrejected]; rfl⟩
  | none => exact absurd (Rule.rejection?_eq_none_iff.mp hrejected) h

end ServiceState

/-! ## Recommendations -/

/-- What recommendations ask. -/
def BackendRequest.IsInquiry : BackendRequest → Prop
  | .lookup _ | .resolve _ | .listRules => True
  | _ => False

/-- Only matches of rules of a roster are recorded. -/
def BackendEvent.IsOf (m : Roster) : BackendEvent → Prop
  | .matched id => ∃ n ∈ m.numbers, id = .number n
  | _ => True

/-- Whatever it does, a desk is not told to fail. -/
theorem Desk.faultless {d : Desk} (h : d.provider.faults = []) :
    (∀ l, (d.answer l).2.provider.faults = []) ∧
      (∀ name, (d.resolve name).2.provider.faults = []) ∧
      (∀ v, (d.updateFigures v).2.provider.faults = []) ∧ d.clear.2.provider.faults = [] := by
  have halike : Faults.AlikeForProvider fun f g => f = [] ∧ g = [] := by
    rintro _ _ ⟨rfl, rfl⟩
    exact ⟨fun _ => rfl, rfl⟩
  have hself : d.Parallel (fun f g => f = [] ∧ g = []) d.provider.calls d.provider.calls d :=
    ⟨⟨rfl, ⟨h, h⟩, [], by simp, by simp⟩, rfl⟩
  exact ⟨fun l => (hself.answer halike l).2.provider.faults.1,
    fun name => (hself.resolve halike name).2.provider.faults.1,
    fun v => (hself.updateFigures v).2.provider.faults.1, hself.clear.2.provider.faults.1⟩

namespace ServiceState

variable {m : Roster} {s t : ServiceState}

/-- The stores of a service are as they were, and the matches that have been recorded are of rules
of a roster. -/
structure Unmoved (m : Roster) (s t : ServiceState) : Prop where
  rules : t.rules = s.rules
  counts : t.counts = s.counts
  faultless : t.faults = []
  due : t.Due m

theorem Unmoved.tracks (h : Unmoved m s t) (hs : s.Tracks m) : t.Tracks m :=
  hs.of_eq h.rules h.counts (h.faultless.trans hs.faultless.symm)

theorem Unmoved.answer (h : Unmoved m s t) {r : BackendRequest} (hr : r.IsInquiry) :
    Unmoved m s (t.answer r).2 := by
  cases r with
  | lookup l => exact ⟨h.rules, h.counts, (Desk.faultless h.faultless).1 l, h.due⟩
  | resolve name => exact ⟨h.rules, h.counts, (Desk.faultless h.faultless).2.1 name, h.due⟩
  | listRules =>
      rw [ServiceState.answer, unlessFaulty_of_faultless h.faultless]
      exact h
  | _ => cases hr

theorem Unmoved.notice (h : Unmoved m s t) {e : BackendEvent} (he : e.IsOf m) :
    Unmoved m s (t.notice e) := by
  cases e with
  | matched id =>
      refine ⟨h.rules, h.counts, h.faultless, fun id' hid' => ?_⟩
      obtain hold | hnew := List.mem_append.mp hid'
      · exact h.due id' hold
      · rw [List.mem_singleton.mp hnew]
        exact he
  | _ => exact ⟨h.rules, h.counts, h.faultless, h.due⟩

theorem Unmoved.perform (h : Unmoved m s t) {α : Type} {p : Program Backend α}
    (hp : p.Confined BackendRequest.IsInquiry (BackendEvent.IsOf m)) :
    Unmoved m s (t.perform p).2 :=
  hp.invariant_run (c := collaborator) (P := Unmoved m s) (fun _ _ hr ht => ht.answer hr)
    (fun _ _ he ht => ht.notice he) h

theorem Unmoved.perform_bind {α β : Type} {p : Program Backend α}
    (hp : Unmoved m s (t.perform p).2) {f : α → Program Backend β}
    (hf : ∀ a u, Unmoved m s u → Unmoved m s (u.perform (f a)).2) :
    Unmoved m s (t.perform (p.bind f)).2 := by
  have hbind := Program.run_bind (I := Backend) collaborator p f t
  rw [ServiceState.perform] at hp
  rw [ServiceState.perform, hbind]
  cases hrun : p.run collaborator t with
  | mk result u =>
      rw [hrun] at hp
      cases result with
      | ok a => exact hf a u hp
      | error e => exact hp

/-- A service that lists the rules of a roster records matches of these rules only. -/
theorem Unmoved.recommend (hs : s.Tracks m) (h : Unmoved m s t) (catalog : List RuleSet)
    (user : Uuid) : Unmoved m s (t.perform (recommend catalog user)).2 := by
  have hlist : t.answer .listRules = (.ok m.rules, t) := (h.tracks hs).answer_listRules
  have hmatched : ∀ r ∈ m.rules, ∀ id, r.countedAs? = some id →
      BackendEvent.IsOf m (.matched id) := by
    intro r hr id hid
    obtain ⟨⟨n, r⟩, hmem, rfl⟩ := List.mem_map.mp hr
    obtain rfl : .number n = id := Option.some.inj hid
    exact ⟨n, Roster.mem_numbers.mpr ⟨r, hmem⟩, rfl⟩
  have hrest : ∀ f : List Rule → Program Backend (List Recommendation),
      (f m.rules).Confined BackendRequest.IsInquiry (BackendEvent.IsOf m) →
        Unmoved m s (t.perform (Backend.listRules.bind f)).2 := by
    intro f hf
    have hbind := perform_request_bind .listRules f t
    rw [hlist] at hbind
    exact (congrArg (fun r => Unmoved m s r.2) hbind).mpr (h.perform hf)
  have hdynamic : (dynamicRecommendations user m.rules).Confined BackendRequest.IsInquiry
      (BackendEvent.IsOf m) :=
    confined_dynamicRecommendations (fun _ => trivial) (fun _ => trivial) user hmatched
  have hstatic : (staticRecommendations user catalog).Confined BackendRequest.IsInquiry
      (BackendEvent.IsOf m) :=
    confined_staticRecommendations (fun _ => trivial) user catalog
  exact hrest _ (hdynamic.bind fun _ => hstatic.bind fun _ => ⟨trivial, trivial, trivial⟩)

/-- The same is so if the user is known by name. -/
theorem Unmoved.recommendByName (hs : s.Tracks m) (h : Unmoved m s t) (catalog : List RuleSet)
    (name : Json) : Unmoved m s (t.perform (recommendByName catalog name)).2 := by
  have hresolve : (resolveUser name).Confined BackendRequest.IsInquiry (BackendEvent.IsOf m) :=
    confined_resolveUser (fun _ => trivial) name
  exact Unmoved.perform_bind (h.perform hresolve) fun user u hu =>
    Unmoved.perform_bind (hu.recommend hs catalog user) fun _ _ hv => hv

theorem Tracks.unmoved (h : s.Tracks m) (hpending : s.pending = []) : Unmoved m s s where
  rules := rfl
  counts := rfl
  faultless := h.faultless
  due := fun id hid => by
    rw [hpending] at hid
    cases hid

/-- The counts follow the roster while matches of its rules are counted. -/
theorem Tracks.drain (h : s.Tracks m) (hdue : s.Due m) :
    s.drain.Tracks m ∧ s.drain.pending = [] ∧ s.drain.rules = s.rules := by
  have hfold : ∀ (ids : List RuleId) {s : ServiceState}, s.Tracks m →
      (∀ id ∈ ids, ∃ n ∈ m.numbers, id = .number n) →
      (ids.foldl (fun s id => (s.perform (countMatch id)).2) s).Tracks m ∧
        (ids.foldl (fun s id => (s.perform (countMatch id)).2) s).pending = s.pending ∧
        (ids.foldl (fun s id => (s.perform (countMatch id)).2) s).rules = s.rules := by
    intro ids
    induction ids with
    | nil => exact fun h _ => ⟨h, rfl, rfl⟩
    | cons id rest ih =>
        intro s h hids
        rw [List.forall_mem_cons] at hids
        obtain ⟨⟨n, hn, rfl⟩, hrest⟩ := hids
        have hcount : (s.perform (countMatch (.number n))).2 =
            { s with counts := s.counts.increment (.number n) } := by
          rw [perform_countMatch, answer, unlessFaulty_of_faultless h.faultless]
        rw [List.foldl_cons, hcount]
        exact ih (h.increment hn) hrest
  exact hfold s.pending (s := { s with pending := [] }) (h.of_eq rfl rfl rfl) hdue

/-- Where no match is to be counted and no call was made, nothing is done between commands. -/
theorem drain_takeCalls_of_idle (hpending : s.pending = [])
    (hcalls : s.desk.provider.calls = []) : s.drain.takeCalls.2 = s := by
  have hdrain : s.drain = s := by
    rw [drain, hpending]
    exact congrArg (fun pending => { s with pending }) hpending.symm
  rw [hdrain, takeCalls, Desk.takeCalls, Provider.takeCalls, ← hcalls]

/-- An operation ends with a history as it ends without one. -/
theorem exists_run_recorder {α : Type} {p : Program Backend α} {result : Except Failure α}
    (h : s.perform p = (result, t)) :
    ∃ history, p.run recorder ⟨s, []⟩ = (result, ⟨t, history⟩) := by
  have hrecording := Program.run_recording collaborator p ⟨s, []⟩
  rw [perform] at h
  rw [h] at hrecording
  cases hrun : p.run recorder ⟨s, []⟩ with
  | mk result' r =>
      rw [recorder] at hrun
      rw [hrun] at hrecording
      cases hrecording
      exact ⟨r.history, rfl⟩

end ServiceState

/-! ## Commands -/

/-- The number that was returned for a rule. -/
def ServiceReply.added? : ServiceReply → Option Int
  | .served (.add _) (.ok saved) =>
    match Rule.id saved with
    | .int n => some n
    | _ => none
  | _ => none

namespace Diary

open ServiceState (Unmoved)

/-- The numbers that were returned for rules, in order. -/
def added (d : Diary) : List Int :=
  d.past.filterMap fun v => v.reply.added?

/-- The stores follow the roster, the numbers of its rules were returned for them, each larger than
those before, and nothing is left to be done. -/
structure InStep (d : Diary) : Prop where
  tracks : d.state.Tracks d.roster
  sublist : d.roster.numbers.Sublist d.added
  ascending : d.added.Pairwise (· < ·)
  issued : ∀ n ∈ d.added, n < d.state.rules.nextId
  settled : d.state.pending = []
  idle : d.state.desk.provider.calls = []

variable {catalog : List RuleSet} {d : Diary} {command : ServiceCommand} {reply : ServiceReply}
  {r : Recorded Backend ServiceState}

section

variable (h : command.carryOut catalog ⟨d.state, []⟩ = (reply, r))

include h

theorem reply_eq : d.reply catalog command = reply := by
  rw [Diary.reply, h]

theorem roster_step : (d.step catalog command).roster = d.roster.after reply := by
  rw [roster, step, h, roster]
  exact List.foldl_concat _ _ _ _

theorem added_step : (d.step catalog command).added = d.added ++ reply.added?.toList := by
  rw [added, step, h, added]
  refine List.filterMap_append.trans ?_
  cases hreply : reply.added? <;> simp [hreply]

theorem state_step_eq : (d.step catalog command).state = r.state.drain.takeCalls.2 := by
  rw [step, h]

theorem state_step_of_idle (hpending : r.state.pending = [])
    (hcalls : r.state.desk.provider.calls = []) : (d.step catalog command).state = r.state := by
  rw [state_step_eq h, ServiceState.drain_takeCalls_of_idle hpending hcalls]

/-- A command that leaves the stores as they are keeps in step. -/
theorem InStep.of_unmoved (hd : d.InStep) (hmoved : Unmoved d.roster d.state r.state)
    (hafter : d.roster.after reply = d.roster) (hadded : reply.added? = none) :
    (d.step catalog command).InStep := by
  obtain ⟨htracks, hpending, hrules⟩ := (hmoved.tracks hd.tracks).drain hmoved.due
  have hroster := roster_step h
  have hnumbers := added_step h
  rw [hafter] at hroster
  rw [hadded, Option.toList_none, List.append_nil] at hnumbers
  have hnext : (d.step catalog command).state.rules.nextId = d.state.rules.nextId := by
    rw [state_step_eq h, ← hmoved.rules, ← hrules]
    rfl
  exact {
    tracks := by
      rw [hroster, state_step_eq h]
      exact htracks.of_eq rfl rfl rfl
    sublist := by
      rw [hroster, hnumbers]
      exact hd.sublist
    ascending := by
      rw [hnumbers]
      exact hd.ascending
    issued := by
      rw [hnumbers, hnext]
      exact hd.issued
    settled := by
      rw [state_step_eq h]
      exact hpending
    idle := by
      rw [state_step_eq h]
      rfl }

end

/-- A call is carried out as its operation is performed. -/
theorem exists_carryOut_serve (catalog : List RuleSet) (call : ServiceCall)
    {result : Except Failure call.Result} {s t : ServiceState}
    (h : s.perform (call.program catalog) = (result, t)) :
    ∃ history, (ServiceCommand.serve call).carryOut catalog ⟨s, []⟩ =
      (.served call result, ⟨t, history⟩) := by
  obtain ⟨history, hrun⟩ := ServiceState.exists_run_recorder h
  exact ⟨history, by rw [ServiceCommand.carryOut, hrun]⟩

namespace InStep

/-- A rule with valid queries is added, under a number that was never returned before. -/
theorem add (h : d.InStep) (catalog : List RuleSet) {r : Rule} (hqueries : r.queries.isSome = true)
    (haccepted : r.accepted = true) :
    d.reply catalog (.serve (.add r)) =
        .served (.add r) (.ok { r with id := .int d.state.rules.nextId }) ∧
      (d.step catalog (.serve (.add r))).roster = d.roster ++ [(d.state.rules.nextId, r)] ∧
      (d.step catalog (.serve (.add r))).InStep := by
  obtain ⟨history, hout⟩ := exists_carryOut_serve catalog (.add r)
    (ServiceState.perform_addRule_of_accepted h.tracks.faultless hqueries haccepted)
  have hroster : (d.step catalog (.serve (.add r))).roster =
      d.roster ++ [(d.state.rules.nextId, r)] := roster_step hout
  have hadded : (d.step catalog (.serve (.add r))).added = d.added ++ [d.state.rules.nextId] :=
    added_step hout
  have hstate := state_step_of_idle hout h.settled h.idle
  refine ⟨reply_eq hout, hroster, ?_⟩
  exact {
    tracks := by
      rw [hroster, hstate]
      exact h.tracks.save r
    sublist := by
      rw [hroster, hadded, Roster.numbers, List.map_append]
      exact h.sublist.append (List.Sublist.refl _)
    ascending := by
      rw [hadded, List.pairwise_append]
      refine ⟨h.ascending, List.pairwise_singleton _ _, fun n hn k hk => ?_⟩
      exact List.mem_singleton.mp hk ▸ h.issued n hn
    issued := fun n hn => by
      rw [hstate]
      show n < d.state.rules.nextId + 1
      rw [hadded, List.mem_append, List.mem_singleton] at hn
      obtain hold | rfl := hn
      · exact Int.lt_trans (h.issued n hold) (Int.lt_succ _)
      · exact Int.lt_succ _
    settled := hstate ▸ h.settled
    idle := hstate ▸ h.idle }

/-- A rule that is not valid is not added, and nothing changes. -/
theorem add_rejected (h : d.InStep) (catalog : List RuleSet) {r : Rule}
    (hr : ¬ (r.queries.isSome = true ∧ r.accepted = true)) :
    ∃ e, d.reply catalog (.serve (.add r)) = .served (.add r) (.error e) ∧
      (d.step catalog (.serve (.add r))).state = d.state ∧
      (d.step catalog (.serve (.add r))).InStep := by
  obtain ⟨e, hperform⟩ := ServiceState.perform_addRule_of_not_accepted hr d.state
  obtain ⟨history, hout⟩ := exists_carryOut_serve catalog (.add r) hperform
  exact ⟨e, reply_eq hout, state_step_of_idle hout h.settled h.idle,
    of_unmoved hout h (h.tracks.unmoved h.settled) rfl rfl⟩

/-- A rule that is there is deleted with its count, and nothing else changes. -/
theorem delete (h : d.InStep) (catalog : List RuleSet) {id : RuleId} (hid : d.roster.Has id) :
    d.reply catalog (.serve (.delete id)) = .served (.delete id) (.ok ()) ∧
      (d.step catalog (.serve (.delete id))).roster = d.roster.remove id ∧
      (d.step catalog (.serve (.delete id))).state =
        { d.state with
          rules := d.state.rules.delete id
          counts := d.state.counts.drop id } ∧
      (d.step catalog (.serve (.delete id))).InStep := by
  obtain ⟨history, hout⟩ := exists_carryOut_serve catalog (.delete id)
    (ServiceState.perform_deleteRule_of_present h.tracks.faultless
      ((h.tracks.contains_iff id).mpr hid))
  have hroster : (d.step catalog (.serve (.delete id))).roster = d.roster.remove id :=
    roster_step hout
  have hadded : (d.step catalog (.serve (.delete id))).added = d.added ++ [] := added_step hout
  have hstate := state_step_of_idle hout h.settled h.idle
  rw [List.append_nil] at hadded
  refine ⟨reply_eq hout, hroster, hstate, ?_⟩
  exact {
    tracks := by
      rw [hroster, hstate]
      exact h.tracks.delete id
    sublist := by
      rw [hroster, hadded]
      exact (d.roster.numbers_remove_sublist id).trans h.sublist
    ascending := hadded ▸ h.ascending
    issued := by
      rw [hadded, hstate]
      exact h.issued
    settled := hstate ▸ h.settled
    idle := hstate ▸ h.idle }

/-- A rule that is not there is missing, and nothing changes. -/
theorem delete_missing (h : d.InStep) (catalog : List RuleSet) {id : RuleId}
    (hid : ¬ d.roster.Has id) :
    d.reply catalog (.serve (.delete id)) =
        .served (.delete id) (.error (ruleMissing id.toJson)) ∧
      (d.step catalog (.serve (.delete id))).state = d.state ∧
      (d.step catalog (.serve (.delete id))).InStep := by
  have habsent : d.state.rules.contains id = false := by
    rw [← Bool.not_eq_true, h.tracks.contains_iff]
    exact hid
  obtain ⟨history, hout⟩ := exists_carryOut_serve catalog (.delete id)
    (ServiceState.perform_deleteRule_of_absent h.tracks.faultless habsent)
  exact ⟨reply_eq hout, state_step_of_idle hout h.settled h.idle,
    of_unmoved hout h (h.tracks.unmoved h.settled) rfl rfl⟩

theorem listRules (h : d.InStep) (catalog : List RuleSet) :
    ∃ history, ServiceCommand.listRules.carryOut catalog ⟨d.state, []⟩ =
      (.rules (.ok d.roster.rules), ⟨d.state, history⟩) := by
  have hperform : d.state.perform Backend.listRules = (.ok d.roster.rules, d.state) :=
    (Program.run_request (I := Backend) collaborator .listRules d.state).trans
      h.tracks.answer_listRules
  obtain ⟨history, hrun⟩ := ServiceState.exists_run_recorder hperform
  exact ⟨history, by rw [ServiceCommand.carryOut, hrun]⟩

theorem listCounts (h : d.InStep) (catalog : List RuleSet) :
    ∃ stats history, ServiceCommand.listCounts.carryOut catalog ⟨d.state, []⟩ =
        (.counts (.ok stats), ⟨d.state, history⟩) ∧
      stats.map (·.ruleId) = d.roster.numbers.map .number := by
  obtain ⟨stats, hanswer, hids⟩ := h.tracks.answer_listCounts
  have hperform : d.state.perform Backend.listCounts = (.ok stats, d.state) :=
    (Program.run_request (I := Backend) collaborator .listCounts d.state).trans hanswer
  obtain ⟨history, hrun⟩ := ServiceState.exists_run_recorder hperform
  exact ⟨stats, history, by rw [ServiceCommand.carryOut, hrun], hids⟩

/-- **What one command preserves.** -/
theorem step (h : d.InStep) (catalog : List RuleSet) (command : ServiceCommand) :
    (d.step catalog command).InStep := by
  have hsame := h.tracks.unmoved h.settled
  cases command with
  | serve call =>
      cases call with
      | add r =>
          by_cases hr : r.queries.isSome = true ∧ r.accepted = true
          · exact (h.add catalog hr.1 hr.2).2.2
          · obtain ⟨-, -, -, hstep⟩ := h.add_rejected catalog hr
            exact hstep
      | delete id =>
          by_cases hid : d.roster.Has id
          · exact (h.delete catalog hid).2.2.2
          · exact (h.delete_missing catalog hid).2.2
      | recommend user =>
          obtain ⟨history, hout⟩ := exists_carryOut_serve catalog (.recommend user) rfl
          exact of_unmoved hout h (hsame.recommend h.tracks catalog user) rfl rfl
      | recommendByName name =>
          obtain ⟨history, hout⟩ := exists_carryOut_serve catalog (.recommendByName name) rfl
          exact of_unmoved hout h (hsame.recommendByName h.tracks catalog name) rfl rfl
  | listRules =>
      obtain ⟨history, hout⟩ := h.listRules catalog
      exact of_unmoved hout h hsame rfl rfl
  | listCounts =>
      obtain ⟨stats, history, hout, -⟩ := h.listCounts catalog
      exact of_unmoved hout h hsame rfl rfl
  | clearCaches =>
      refine of_unmoved rfl h ?_ rfl rfl
      exact ⟨rfl, rfl, (Desk.faultless h.tracks.faultless).2.2.2, hsame.due⟩
  | updateFigures v =>
      refine of_unmoved rfl h ?_ rfl rfl
      exact ⟨rfl, rfl, (Desk.faultless h.tracks.faultless).2.2.1 v, hsame.due⟩
  | replaceSource source =>
      refine of_unmoved rfl h ?_ rfl rfl
      exact ⟨rfl, rfl, h.tracks.faultless, hsame.due⟩

theorem run (h : d.InStep) (catalog : List RuleSet) (commands : List ServiceCommand) :
    (d.run catalog commands).InStep := by
  induction commands using List.reverseRecOn with
  | nil => exact h
  | append_singleton commands c ih =>
      rw [run_concat]
      exact ih.step catalog c

end InStep

/-- A service with empty stores, whose operations do not fail. -/
def fresh (source : Source) (caches : Option Caches) : Diary :=
  { state := { desk := ⟨{ source }, caches⟩ } }

end Diary

end Recommender
