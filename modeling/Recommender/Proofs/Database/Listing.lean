import Mathlib.Data.List.Induction
import Recommender.Proofs.Database.Sharing
import Recommender.Rule.Evaluation

/-!
# Rules are never half read

Rules are saved, deleted and listed by any number of clients at once.  At every moment the committed
tables hold whole rules: those of saves that were committed, each under the identifier that was
handed out for it, with all its query rows.  Two moments may differ in which rules they hold, but
not in what is held of a rule; so a rule that is listed from the rule rows of one moment and the
query rows of a later one has all its queries, or none if it was deleted in between.
-/

namespace Recommender

namespace Tables.Keeps

variable {t : Tables} {entries : List (Int × AuthoredRule)}

theorem of_eq {u : Tables} (h : t.Keeps entries) (hrules : u.rules = t.rules)
    (hqueries : u.queries = t.queries) : u.Keeps entries :=
  ⟨hrules.trans h.rules, hqueries.trans h.queries, h.nodup⟩

/-- A rule is committed under an identifier that no rule has. -/
theorem commit (h : t.Keeps entries) {n : Int} (r : AuthoredRule) (hn : ∀ e ∈ entries, e.1 ≠ n) :
    ((t.written (.rule (r.row n))).written (.queries (r.stored n))).Keeps
      (entries ++ [(n, r)]) where
  rules := by
    show t.rules ++ [r.row n] = _
    rw [h.rules, List.map_append]
    rfl
  queries := by
    show t.queries ++ r.stored n = _
    rw [h.queries, List.flatMap_append, List.flatMap_singleton]
  nodup := by
    rw [List.map_append, List.nodup_append]
    refine ⟨h.nodup, List.nodup_singleton _, ?_⟩
    rintro _ he _ hm rfl
    obtain ⟨e, he, heq⟩ := List.mem_map.mp he
    exact hn e he (heq.trans (List.mem_singleton.mp hm))

/-- Every selected query row can be read. -/
theorem readable (h : t.Keeps entries) (rows : List RuleRow) :
    RuleTables.Readable rows (t.queries.mergeSort StoredQuery.precedes) :=
  fun _ hq _ => h.exists_queryOfRow (List.mem_mergeSort.mp hq)

/-- The selected query rows that name a rule are all of its own. -/
theorem queriesOf_of_mem (h : t.Keeps entries) {e : Int × AuthoredRule} (he : e ∈ entries) :
    RuleTables.queriesOf (t.queries.mergeSort StoredQuery.precedes) e.1 =
      e.2.queries.map AuthoredQuery.query := by
  rw [RuleTables.queriesOf_mergeSort, h.filter_queries he, AuthoredRule.stored,
    List.mergeSort_of_pairwise (AuthoredRule.pairwise_storedFrom e.1 0 e.2.queries),
    AuthoredRule.map_read_storedFrom]

/-- No selected query row names a rule that is not there. -/
theorem queriesOf_of_not_mem (h : t.Keeps entries) {n : Int} (hn : ∀ e ∈ entries, e.1 ≠ n) :
    RuleTables.queriesOf (t.queries.mergeSort StoredQuery.precedes) n = [] := by
  have hnone : t.queries.filter (fun q => decide (q.ruleId = n)) = [] := by
    have hentries : entries.filter (fun e => decide (e.1 = n)) = [] :=
      List.filter_eq_nil_iff.mpr fun e he => by simpa using hn e he
    rw [h.queries, AuthoredRule.filter_flatMap_stored (fun m => decide (m = n)), hentries,
      List.flatMap_nil]
  rw [RuleTables.queriesOf_mergeSort, hnone, List.mergeSort_nil, List.map_nil]

end Tables.Keeps

namespace TableMove

variable {call : TableCall} {v w : TableView}

/-- With every move a moment passes. -/
theorem past_eq (h : TableMove call v w) : w.past = v.past ++ [v.tables] := by
  cases h <;> rfl

/-- A move hands out the next identifier to a client that has none, or hands out none. -/
theorem handed_cases (h : TableMove call v w) :
    (w.handed? = v.handed? ∧ w.tables.lastId = v.tables.lastId) ∨
      (v.handed? = none ∧ w.handed? = some (v.tables.lastId + 1) ∧
        w.tables.lastId = v.tables.lastId + 1) := by
  cases h with
  | insert r hcall hopen hhanded => exact .inr ⟨hhanded, rfl, rfl⟩
  | _ => exact .inl ⟨rfl, rfl⟩

/-- A move leaves the committed rows as they are, commits a rule, or deletes one. -/
theorem tables_cases (h : TableMove call v w) :
    (w.tables.rules = v.tables.rules ∧ w.tables.queries = v.tables.queries) ∨
      (∃ r n, call = .save r ∧ v.handed? = some n ∧ v.open? ≠ none ∧
        w.handed? = some n ∧ w.open? = none ∧
        w.tables = (v.tables.written (.rule (r.row n))).written (.queries (r.stored n))) ∨
      ∃ id, w.tables = v.tables.delete (.int id) := by
  cases h with
  | commit r n hcall hopen hhanded =>
      exact .inr (.inl ⟨r, n, hcall, hhanded, hopen ▸ nofun, hhanded, rfl, rfl⟩)
  | delete id hcall hopen => exact .inr (.inr ⟨id, rfl⟩)
  | _ => exact .inl ⟨rfl, rfl⟩

/-- Whose rule is committed, changes nothing any more. -/
theorem of_committed (h : TableMove call v w) {r : AuthoredRule} {n : Int} (hcall : call = .save r)
    (hhanded : v.handed? = some n) (hopen : v.open? = none) :
    w.handed? = some n ∧ w.open? = none := by
  cases h with
  | idle => exact ⟨hhanded, hopen⟩
  | begin _ hnone => rw [hnone] at hhanded; cases hhanded
  | insert r' hcall' hopen' => rw [hopen'] at hopen; cases hopen
  | fill r' n' hcall' hopen' => rw [hopen'] at hopen; cases hopen
  | commit r' n' hcall' hopen' => rw [hopen'] at hopen; cases hopen
  | delete id hcall' => rw [hcall] at hcall'; cases hcall'

end TableMove

namespace Sharing

/-- A client was handed an identifier for a rule. -/
def Handed (s : Sharing) (n : Int) (r : AuthoredRule) : Prop :=
  ∃ c ∈ s.clients, c.call = .save r ∧ c.handed? = some n

/-- A client has committed a rule. -/
def Committed (s : Sharing) (n : Int) (r : AuthoredRule) : Prop :=
  ∃ c ∈ s.clients, c.call = .save r ∧ c.handed? = some n ∧ c.open? = none

/-- Clients conform, no identifier was handed out twice, and at all moments the tables hold whole
rules that were committed. -/
structure InOrder (s : Sharing) : Prop where
  conform : ∀ c ∈ s.clients,
    c.rest.Conforms TableView.collaborator c.call.pact c.call.Outcome (c.view s)
  unique : ∀ {i j : Nat} {c d : TableClient} {n : Int}, s.clients[i]? = some c →
    s.clients[j]? = some d → c.handed? = some n → d.handed? = some n → i = j
  le_lastId : ∀ c ∈ s.clients, ∀ n, c.handed? = some n → n ≤ s.tables.lastId
  kept : ∀ t ∈ s.past ++ [s.tables], ∃ entries, t.Keeps entries ∧
    ∀ e ∈ entries, s.Committed e.1 e.2

theorem inOrder_empty : ({} : Sharing).InOrder where
  conform := nofun
  unique := nofun
  le_lastId := nofun
  kept t ht := by
    obtain rfl := List.mem_singleton.mp ht
    exact ⟨[], ⟨rfl, rfl, .nil⟩, nofun⟩

section

variable {s : Sharing} {i : Nat} {c : TableClient} {w : TableView}
  {rest : Program Database c.call.Result}

/-- After a move of a client. -/
def moved (s : Sharing) (i : Nat) (c : TableClient) (rest : Program Database c.call.Result)
    (w : TableView) : Sharing :=
  ⟨w.past, w.tables, s.clients.set i ⟨c.call, rest, w.open?, w.handed?⟩⟩

theorem step_advance_of_some (hi : s.clients[i]? = some c) :
    s.step (.advance i) = s.moved i c (c.rest.step TableView.collaborator (c.view s)).1
      { (c.rest.step TableView.collaborator (c.view s)).2 with past := s.past ++ [s.tables] } := by
  rw [step, advance, hi]
  rfl

theorem step_advance_of_none (hi : s.clients[i]? = none) :
    s.step (.advance i) = ⟨s.past ++ [s.tables], s.tables, s.clients ++ []⟩ := by
  rw [step, advance, hi, List.append_nil]

/-- The next step of a client is a move, after which the client still conforms. -/
theorem InOrder.exists_moved (h : s.InOrder) (hi : s.clients[i]? = some c) :
    ∃ w, TableMove c.call (c.view s) w ∧
      (c.rest.step TableView.collaborator (c.view s)).1.Conforms TableView.collaborator
        c.call.pact c.call.Outcome w ∧
      s.step (.advance i) =
        s.moved i c (c.rest.step TableView.collaborator (c.view s)).1 w := by
  have hconforms := h.conform c (List.mem_of_getElem? hi)
  have hstep := step_advance_of_some hi
  obtain ⟨hended | hmove, hrest⟩ := hconforms.step
  · -- A call that has ended goes on by nothing but the passing of the moment.
    have hsame : c.rest.step TableView.collaborator (c.view s) = (c.rest, c.view s) := by
      obtain ⟨a, ha, -⟩ | ⟨e, he, -⟩ := hconforms.ended_cases hended
      · rw [ha]
        rfl
      · rw [he]
        rfl
    rw [hsame] at hstep hrest ⊢
    refine ⟨_, .idle (c.view s), hrest.later TableCall.outcome_later ?_, hstep⟩
    exact ⟨List.prefix_append _ _, rfl, rfl⟩
  · refine ⟨_, hmove, hrest, hstep.trans ?_⟩
    have hpast := TableMove.past_eq hmove
    rw [show s.past ++ [s.tables] = _ from hpast.symm]

/-- Committed rules stay committed. -/
theorem Committed.moved {n : Int} {r : AuthoredRule} (h : s.Committed n r)
    (hi : s.clients[i]? = some c) (hmove : TableMove c.call (c.view s) w) :
    (s.moved i c rest w).Committed n r := by
  obtain ⟨d, hd, hcall, hhanded, hopen⟩ := h
  obtain ⟨j, hj⟩ := List.mem_iff_getElem?.mp hd
  by_cases hij : i = j
  · subst hij
    obtain rfl : c = d := Option.some.inj (hi.symm.trans hj)
    obtain ⟨hlength, -⟩ := List.getElem?_eq_some_iff.mp hi
    exact ⟨_, List.mem_set hlength _, hcall, hmove.of_committed hcall hhanded hopen⟩
  · refine ⟨d, List.mem_of_getElem? (i := j) ?_, hcall, hhanded, hopen⟩
    rw [Sharing.moved, List.getElem?_set_ne hij, hj]

/-- A client that is handed an identifier after a move was handed it before, or is handed the next
one. -/
theorem handed_of_moved (hi : s.clients[i]? = some c) (hmove : TableMove c.call (c.view s) w)
    {j : Nat} {d : TableClient} {n : Int} (hj : (s.moved i c rest w).clients[j]? = some d)
    (hn : d.handed? = some n) :
    (∃ d', s.clients[j]? = some d' ∧ d'.handed? = some n) ∨
      (i = j ∧ n = s.tables.lastId + 1 ∧ w.tables.lastId = s.tables.lastId + 1) := by
  by_cases hij : i = j
  · subst hij
    obtain ⟨hlength, -⟩ := List.getElem?_eq_some_iff.mp hi
    rw [moved, List.getElem?_set_self hlength, Option.some.injEq] at hj
    subst hj
    obtain ⟨hsame, -⟩ | ⟨-, hnext, hlast⟩ := hmove.handed_cases
    · exact .inl ⟨c, hi, hsame.symm.trans hn⟩
    · exact .inr ⟨rfl, Option.some.inj (hn.symm.trans hnext), hlast⟩
  · rw [moved, List.getElem?_set_ne hij] at hj
    exact .inl ⟨d, hj, hn⟩

/-- **What a move preserves.** -/
theorem InOrder.moved (h : s.InOrder) (hi : s.clients[i]? = some c)
    (hmove : TableMove c.call (c.view s) w)
    (hrest : rest.Conforms TableView.collaborator c.call.pact c.call.Outcome w) :
    (s.moved i c rest w).InOrder where
  conform := by
    intro d hd
    obtain hold | rfl := List.mem_or_eq_of_mem_set hd
    · refine (h.conform d hold).later TableCall.outcome_later ⟨?_, rfl, rfl⟩
      show s.past <+: w.past
      rw [hmove.past_eq]
      exact List.prefix_append _ _
    · exact hrest
  unique := by
    intro j k d e n hj hk hd he
    obtain ⟨d', hj', hd'⟩ | ⟨rfl, hn, -⟩ := handed_of_moved hi hmove hj hd
    · obtain ⟨e', hk', he'⟩ | ⟨rfl, hn, -⟩ := handed_of_moved hi hmove hk he
      · exact h.unique hj' hk' hd' he'
      · have hle := h.le_lastId d' (List.mem_of_getElem? hj') n hd'
        omega
    · obtain ⟨e', hk', he'⟩ | ⟨rfl, -, -⟩ := handed_of_moved hi hmove hk he
      · have hle := h.le_lastId e' (List.mem_of_getElem? hk') n he'
        omega
      · rfl
  le_lastId := by
    intro d hd n hn
    obtain ⟨j, hj⟩ := List.mem_iff_getElem?.mp hd
    show n ≤ w.tables.lastId
    have hmono : s.tables.lastId ≤ w.tables.lastId := by
      obtain ⟨-, hlast⟩ | ⟨-, -, hlast⟩ := hmove.handed_cases
      · exact Int.le_of_eq hlast.symm
      · have hlast' : w.tables.lastId = s.tables.lastId + 1 := hlast
        omega
    obtain ⟨d', hj', hd'⟩ | ⟨-, rfl, hlast⟩ := handed_of_moved hi hmove hj hn
    · exact Int.le_trans (h.le_lastId d' (List.mem_of_getElem? hj') n hd') hmono
    · exact Int.le_of_eq hlast.symm
  kept := by
    have hlift {n : Int} {r : AuthoredRule} (hr : s.Committed n r) :
      (s.moved i c rest w).Committed n r := hr.moved hi hmove
    intro t ht
    have hpast : (s.moved i c rest w).past = s.past ++ [s.tables] := hmove.past_eq
    rw [hpast, List.mem_append] at ht
    obtain hold | hnow := ht
    · obtain ⟨entries, hkeeps, hcommitted⟩ := h.kept t hold
      exact ⟨entries, hkeeps, fun e he => hlift (hcommitted e he)⟩
    · obtain rfl : t = w.tables := List.mem_singleton.mp hnow
      obtain ⟨entries, hkeeps, hcommitted⟩ := h.kept s.tables (List.mem_append_right _ (by simp))
      obtain ⟨hrules, hqueries⟩ | ⟨r, n, hcall, hn, hopen, hn', hopen', htables⟩ | ⟨id, htables⟩ :=
        hmove.tables_cases
      · exact ⟨entries, hkeeps.of_eq hrules hqueries, fun e he => hlift (hcommitted e he)⟩
      · -- Nobody else was handed this identifier, so no committed rule has it.
        have hnew : ∀ e ∈ entries, e.1 ≠ n := by
          rintro e he rfl
          obtain ⟨d, hd, -, hhanded, hclosed⟩ := hcommitted e he
          obtain ⟨j, hj⟩ := List.mem_iff_getElem?.mp hd
          obtain rfl := h.unique hj hi hhanded hn
          obtain rfl : d = c := Option.some.inj (hj.symm.trans hi)
          exact hopen hclosed
        refine ⟨_, htables ▸ hkeeps.commit r hnew, fun e he => ?_⟩
        obtain hold | hadded := List.mem_append.mp he
        · exact hlift (hcommitted e hold)
        · obtain rfl := List.mem_singleton.mp hadded
          obtain ⟨hlength, -⟩ := List.getElem?_eq_some_iff.mp hi
          exact ⟨_, List.mem_set hlength _, hcall, hn', hopen'⟩
      · refine ⟨_, htables ▸ hkeeps.delete id, fun e he => ?_⟩
        exact hlift (hcommitted e (List.mem_filter.mp he).1)

/-- A moment passes, in which calls are made by clients that have nothing to themselves yet. -/
theorem InOrder.join (h : s.InOrder) {joined : List TableClient}
    (hjoined : ∀ d ∈ joined, ∃ call : TableCall, d = { call, rest := call.program }) :
    InOrder ⟨s.past ++ [s.tables], s.tables, s.clients ++ joined⟩ where
  conform := by
    intro d hd
    obtain hold | hnew := List.mem_append.mp hd
    · exact (h.conform d hold).later TableCall.outcome_later
        ⟨List.prefix_append _ _, rfl, rfl⟩
    · obtain ⟨call, rfl⟩ := hjoined d hnew
      exact call.conforms_program _ _
  unique := by
    have hold {j : Nat} {d : TableClient} {n : Int} (hj : (s.clients ++ joined)[j]? = some d)
        (hn : d.handed? = some n) : s.clients[j]? = some d := by
      rw [List.getElem?_append] at hj
      split at hj
      · exact hj
      · obtain ⟨call, rfl⟩ := hjoined d (List.mem_of_getElem? hj)
        cases hn
    intro j k d e n hj hk hd he
    exact h.unique (hold hj hd) (hold hk he) hd he
  le_lastId := by
    intro d hd n hn
    obtain hold | hnew := List.mem_append.mp hd
    · exact h.le_lastId d hold n hn
    · obtain ⟨call, rfl⟩ := hjoined d hnew
      cases hn
  kept := by
    intro t ht
    have hmem : t ∈ s.past ++ [s.tables] := by
      obtain hold | hnow := List.mem_append.mp ht
      · exact hold
      · exact List.mem_append_right _ hnow
    obtain ⟨entries, hkeeps, hcommitted⟩ := h.kept t hmem
    refine ⟨entries, hkeeps, fun e he => ?_⟩
    obtain ⟨d, hd, hrest⟩ := hcommitted e he
    exact ⟨d, List.mem_append_left _ hd, hrest⟩

theorem InOrder.step (h : s.InOrder) (e : SharingEvent) : (s.step e).InOrder := by
  cases e with
  | call call => exact h.join fun d hd => ⟨call, List.mem_singleton.mp hd⟩
  | advance i =>
      cases hi : s.clients[i]? with
      | none =>
          rw [step_advance_of_none hi]
          exact h.join nofun
      | some c =>
          obtain ⟨w, hmove, hrest, hstep⟩ := h.exists_moved hi
          rw [hstep]
          exact h.moved hi hmove hrest

theorem inOrder_run (events : List SharingEvent) : (run events).InOrder :=
  List.foldlRecOn events step inOrder_empty fun _ h e _ => h.step e

/-! ## Moments -/

theorem past_step (s : Sharing) (e : SharingEvent) : (s.step e).past = s.past ++ [s.tables] := by
  cases e <;> rfl

theorem run_concat (events : List SharingEvent) (e : SharingEvent) :
    run (events ++ [e]) = (run events).step e := by
  rw [run, List.foldl_append]
  rfl

/-- The moments of the past are those before each event. -/
theorem past_run (events : List SharingEvent) :
    (run events).past =
      (List.range events.length).map fun k => (run (events.take k)).tables := by
  induction events using List.reverseRecOn with
  | nil => rfl
  | append_singleton events e ih =>
      have hearlier : ∀ k ∈ List.range events.length,
          (run (events.take k)).tables = (run ((events ++ [e]).take k)).tables := by
        intro k hk
        rw [List.take_append_of_le_length (Nat.le_of_lt (List.mem_range.mp hk))]
      rw [run_concat, past_step, ih, List.length_append, List.length_singleton, List.range_succ,
        List.map_append, List.map_congr_left hearlier]
      simp

theorem moment_of_prefix {events : List SharingEvent} {first : List Tables} {t : Tables}
    (h : first ++ [t] <+: (run events).past) :
    first.length < events.length ∧ t = (run (events.take first.length)).tables := by
  obtain ⟨rest, hrest⟩ := h
  have hmoment : (run events).past[first.length]? = some t := by
    rw [← hrest, List.append_assoc, List.getElem?_append_right (Nat.le_refl _)]
    simp
  rw [past_run, List.getElem?_map] at hmoment
  obtain ⟨k, hk, ht⟩ := Option.map_eq_some_iff.mp hmoment
  obtain ⟨hlt, rfl⟩ := List.getElem?_eq_some_iff.mp hk
  rw [List.length_range] at hlt
  rw [List.getElem_range] at ht
  exact ⟨hlt, ht.symm⟩

/-! ## Rules of two moments -/

/-- Nobody was handed an identifier that someone else was handed. -/
theorem InOrder.handed_unique (h : s.InOrder) {n : Int} {r r' : AuthoredRule} (hr : s.Handed n r)
    (hr' : s.Handed n r') : r' = r := by
  obtain ⟨c, hc, hcall, hn⟩ := hr
  obtain ⟨d, hd, hcall', hn'⟩ := hr'
  obtain ⟨i, hi⟩ := List.mem_iff_getElem?.mp hc
  obtain ⟨j, hj⟩ := List.mem_iff_getElem?.mp hd
  obtain rfl := h.unique hi hj hn hn'
  obtain rfl : c = d := Option.some.inj (hi.symm.trans hj)
  exact TableCall.save.inj (hcall'.symm.trans hcall)

theorem Committed.handed {n : Int} {r : AuthoredRule} (h : s.Committed n r) : s.Handed n r := by
  obtain ⟨c, hc, hcall, hn, -⟩ := h
  exact ⟨c, hc, hcall, hn⟩

/-- The rules of the rule rows of one moment and the query rows of another one. -/
theorem InOrder.exists_assemble (h : s.InOrder) {t u : Tables} (ht : t ∈ s.past ++ [s.tables])
    (hu : u ∈ s.past ++ [s.tables]) :
    ∃ rules, RuleTables.assemble (.list (t.select .selectRules))
        (.list (u.select .selectQueries)) = .ok rules ∧
      rules.map (·.id) = (t.rules.mergeSort RuleRow.precedes).map (.int ·.id) ∧
      ∀ rule ∈ rules, ∃ n r, n ∈ t.rules.map (·.id) ∧ s.Handed n r ∧
        rule = if n ∈ u.rules.map (·.id) then { r.rule with id := .int n }
          else { r.rule with id := .int n, queries := some [] } := by
  obtain ⟨entries, hkeeps, hcommitted⟩ := h.kept t ht
  obtain ⟨others, hkeeps', hcommitted'⟩ := h.kept u hu
  have hids : ((t.rules.mergeSort RuleRow.precedes).map (·.id)).Nodup := by
    rw [((List.mergeSort_perm t.rules RuleRow.precedes).map (·.id)).nodup_iff, hkeeps.map_id]
    exact hkeeps.nodup
  refine ⟨_, RuleTables.assemble_cells _ _ hids (hkeeps'.readable _).read, ?_, ?_⟩
  · rw [List.map_map]
    rfl
  · intro rule hrule
    obtain ⟨row, hrow, rfl⟩ := List.mem_map.mp hrule
    rw [List.mem_mergeSort] at hrow
    have hmem := List.mem_map_of_mem (f := (·.id)) hrow
    rw [hkeeps.rules] at hrow
    obtain ⟨e, he, rfl⟩ := List.mem_map.mp hrow
    refine ⟨e.1, e.2, hmem, (hcommitted e he).handed, ?_⟩
    have hrule (queries : List Query) : { (e.2.row e.1).rule with queries := some queries } =
        { e.2.rule with id := .int e.1, queries := some queries } := by
      simp only [AuthoredRule.row, RuleRow.rule, AuthoredRule.rule, Tables.shown_productIdCell]
    rw [hkeeps'.map_id]
    split
    · next hthere =>
      obtain ⟨f, hf, hid⟩ := List.mem_map.mp hthere
      have hsame : f.2 = e.2 :=
        h.handed_unique (hcommitted e he).handed (hid ▸ (hcommitted' f hf).handed)
      have hqueries := hkeeps'.queriesOf_of_mem hf
      rw [hid, hsame] at hqueries
      rw [hrule]
      exact congrArg (fun queries => { e.2.rule with id := .int e.1, queries := some queries })
        hqueries
    · next hgone =>
      have hqueries := hkeeps'.queriesOf_of_not_mem fun f hf hid =>
        hgone (List.mem_map.mpr ⟨f, hf, hid⟩)
      rw [hrule]
      exact congrArg (fun queries => { e.2.rule with id := .int e.1, queries := some queries })
        hqueries

end

/-! ## Ending -/

/-- Whether a client goes on by an event. -/
def advances (i : Nat) : SharingEvent → Bool
  | .call _ => false
  | .advance j => i = j

/-- All rules are found within four steps: a connection is taken, the rows are selected, and the
connection is given back. -/
theorem endsWithin_findAll : RuleTables.findAll.EndsWithin 4 := by
  refine ⟨3, rfl, fun acquired => ?_⟩
  cases acquired with
  | error e => trivial
  | ok _ =>
      refine ⟨2, rfl, fun ruleRows => ?_⟩
      cases ruleRows with
      | error e => exact ⟨1, rfl, trivial⟩
      | ok ruleRows =>
          refine ⟨1, rfl, fun queryRows => ?_⟩
          cases queryRows with
          | error e => exact ⟨0, rfl, trivial⟩
          | ok queryRows =>
              refine ⟨0, rfl, ?_⟩
              show (Program.ofExcept (RuleTables.assemble ruleRows queryRows)).EndsWithin 0
              cases RuleTables.assemble ruleRows queryRows <;> trivial

section

variable {s : Sharing} {i : Nat} {c : TableClient} {n : Nat}

/-- With each step of its own, a client has one step less to come. -/
theorem exists_client_step (hi : s.clients[i]? = some c) (hc : c.rest.EndsWithin n)
    (e : SharingEvent) :
    ∃ d, (s.step e).clients[i]? = some d ∧ d.call = c.call ∧
      d.rest.EndsWithin (n - if advances i e then 1 else 0) := by
  obtain ⟨hlength, -⟩ := List.getElem?_eq_some_iff.mp hi
  cases e with
  | call call =>
      refine ⟨c, ?_, rfl, hc⟩
      rw [step, List.getElem?_append_left hlength, hi]
  | advance j =>
      by_cases hij : i = j
      · subst hij
        rw [advances, decide_eq_true rfl, if_pos rfl, step_advance_of_some hi]
        exact ⟨_, List.getElem?_set_self hlength, rfl,
          hc.step TableView.collaborator (c.view s)⟩
      · rw [advances, decide_eq_false hij, if_neg Bool.false_ne_true]
        refine ⟨c, ?_, rfl, hc⟩
        cases hj : s.clients[j]? with
        | none => rw [step_advance_of_none hj, List.append_nil, hi]
        | some d => rw [step_advance_of_some hj, moved, List.getElem?_set_ne (Ne.symm hij), hi]

/-- With so many steps of its own as it has to come, a client has ended. -/
theorem exists_client_foldl (hi : s.clients[i]? = some c) (hc : c.rest.EndsWithin n)
    (events : List SharingEvent) :
    ∃ d, (events.foldl step s).clients[i]? = some d ∧ d.call = c.call ∧
      d.rest.EndsWithin (n - events.countP (advances i)) := by
  induction events generalizing s c n with
  | nil => exact ⟨c, hi, rfl, hc⟩
  | cons e events ih =>
      obtain ⟨d, hd, hcall, hrest⟩ := exists_client_step hi hc e
      obtain ⟨d', hd', hcall', hrest'⟩ := ih hd hrest
      refine ⟨d', hd', hcall'.trans hcall, ?_⟩
      rw [List.countP_cons, Nat.add_comm, Nat.sub_add_eq]
      exact hrest'

end

/-- What the rule rows of one moment and the query rows of a later one describe. -/
theorem exists_of_describes {events : List SharingEvent} {v : TableView}
    {result : Except Failure (List Rule)} (hpast : v.past = (run events).past)
    (h : v.Describes result) :
    ∃ (rules : List Rule) (k l : Nat), result = .ok rules ∧ k < l ∧ l < events.length ∧
      let first := (run (events.take k)).tables
      let second := (run (events.take l)).tables
      rules.map (·.id) = (first.rules.mergeSort RuleRow.precedes).map (.int ·.id) ∧
      ∀ rule ∈ rules, ∃ n r, n ∈ first.rules.map (·.id) ∧ (run events).Handed n r ∧
        rule = if n ∈ second.rules.map (·.id) then { r.rule with id := .int n }
          else { r.rule with id := .int n, queries := some [] } := by
  obtain ⟨first, t, second, u, ht, hu, hresult⟩ := h
  rw [hpast] at hu
  have hfirst : first ++ [t] <+: (run events).past :=
    ht.trans ((List.prefix_append second [u]).trans hu)
  have hmem {moments : List Tables} {t : Tables} (h : moments ++ [t] <+: (run events).past) :
      t ∈ (run events).past ++ [(run events).tables] :=
    List.mem_append_left _ (h.mem (List.mem_append_right moments List.mem_cons_self))
  obtain ⟨rules, hrules, hids, hlisted⟩ :=
    (inOrder_run events).exists_assemble (hmem hfirst) (hmem hu)
  obtain ⟨-, htables⟩ := moment_of_prefix hfirst
  obtain ⟨hlength, htables'⟩ := moment_of_prefix hu
  have hlt : first.length < second.length := by
    have hlength := ht.length_le
    rw [List.length_append] at hlength
    exact hlength
  refine ⟨rules, first.length, second.length, hresult.trans hrules, hlt, hlength, ?_⟩
  rw [← htables, ← htables']
  exact ⟨hids, hlisted⟩

/-- A save that has ended has returned its rule, under the identifier that was handed out for it. -/
theorem save_returns_handed (events : List SharingEvent) {i : Nat} {r : AuthoredRule}
    {rest : Program Database Rule} {open? : Option (List TableWrite)} {handed? : Option Int}
    (hi : (run events).clients[i]? = some ⟨.save r, rest, open?, handed?⟩)
    (hended : rest.ended = true) :
    ∃ n, handed? = some n ∧ rest = .done { r.rule with id := .int n } := by
  have hconforms := (inOrder_run events).conform _ (List.mem_of_getElem? hi)
  obtain ⟨rule, hrest, n, hrule, hn⟩ | ⟨e, -, n, hfailed, -⟩ := hconforms.ended_cases hended
  · exact ⟨n, hn, hrest.trans (congrArg Program.done (Except.ok.inj hrule))⟩
  · cases hfailed

/-- **Rules are never half read.**  Of any rule rows of different identifiers and any query rows,
all rules are one for each rule row, in the order of these rows, with the queries of the query rows
that name it, in the order of those; query rows of other rules are passed over.  If a query row of
one of the rules cannot be read, nothing is returned, and the first such row decides the failure.

Now let any clients save, delete and list rules at once.  Whoever lists the rules has ended after
four steps, and has returned the rules of two moments: for each rule that was committed at the first
one, in ascending order, either the whole rule, as it was given to the one save that was handed its
identifier, or, if it was deleted by the second moment, this rule without any queries, which matches
nobody. -/
theorem rules_are_never_half_read :
    (∀ (rows : List RuleRow) (stored : List StoredQuery)
      (answer : (r : Database.Request) → Except Failure (Database.Answer r)),
      (rows.map (·.id)).Nodup → answer (.acquire .rules) = .ok () →
      answer (.fetch .selectRules) = .ok (.list (rows.map RuleRow.cell)) →
      answer (.fetch .selectQueries) = .ok (.list (stored.map StoredQuery.cell)) →
      (RuleTables.Readable rows stored → RuleTables.findAll.against answer =
        .ok (rows.map fun r =>
          { r.rule with queries := some (RuleTables.queriesOf stored r.id) })) ∧
      ∀ before q after e, stored = before ++ q :: after → RuleTables.Readable rows before →
        q.ruleId ∈ rows.map (·.id) → RuleTables.queryOfRow q.cell = .error e →
        RuleTables.findAll.against answer = .error e) ∧
    ∀ before after : List SharingEvent,
      let events := before ++ .call .findAll :: after
      let i := (run before).clients.length
      ∃ rest open? handed?, (run events).clients[i]? = some ⟨.findAll, rest, open?, handed?⟩ ∧
        (4 ≤ after.countP (advances i) → rest.ended = true) ∧
        (rest.ended = true → ∃ (rules : List Rule) (k l : Nat), rest = .done rules ∧ k < l ∧
          l < events.length ∧
          let first := (run (events.take k)).tables
          let second := (run (events.take l)).tables
          rules.map (·.id) = (first.rules.mergeSort RuleRow.precedes).map (.int ·.id) ∧
          ∀ rule ∈ rules, ∃ n r, n ∈ first.rules.map (·.id) ∧
            (run events).Handed n r ∧ (∀ r', (run events).Handed n r' → r' = r) ∧
            if n ∈ second.rules.map (·.id) then rule = { r.rule with id := .int n }
            else rule = { r.rule with id := .int n, queries := some [] } ∧
              ∀ user, rule.evaluate user = .emit Verdict.notMatched
                (.done ⟨.notMatched, "Rule has no queries", .int n⟩)) := by
  refine ⟨fun rows stored answer hids hacquire hrules hqueries => ⟨fun hread => ?_, ?_⟩,
    fun before after => ?_⟩
  · rw [RuleTables.findAll_against hacquire hrules hqueries]
    exact RuleTables.assemble_cells rows stored hids hread.read
  · rintro before q after e rfl hbefore hknown hread
    rw [RuleTables.findAll_against hacquire hrules hqueries]
    exact RuleTables.assemble_of_unreadable hids hbefore hknown hread
  · intro events i
    have horder := inOrder_run events
    have hcalled : ((run before).step (.call .findAll)).clients[i]? =
        some { call := .findAll, rest := RuleTables.findAll } := by
      rw [step, List.getElem?_append_right (Nat.le_refl _), Nat.sub_self]
      rfl
    obtain ⟨⟨call, rest, open?, handed?⟩, hclient, hcall, hends⟩ :=
      exists_client_foldl hcalled endsWithin_findAll after
    cases hcall
    have hi : (run events).clients[i]? = some ⟨.findAll, rest, open?, handed?⟩ := by
      rw [run, List.foldl_append]
      exact hclient
    refine ⟨rest, open?, handed?, hi, fun hcount => ?_, fun hended => ?_⟩
    · rw [Nat.sub_eq_zero_of_le hcount] at hends
      exact hends.ended
    · have hconforms := horder.conform _ (List.mem_of_getElem? hi)
      obtain ⟨listed, hrest, hdescribes⟩ | ⟨e, -, hdescribes⟩ := hconforms.ended_cases hended
      · obtain ⟨rules, k, l, hresult, hkl, hl, hids, hlisted⟩ := exists_of_describes rfl hdescribes
        cases hresult
        refine ⟨_, k, l, hrest, hkl, hl, hids, fun rule hrule => ?_⟩
        obtain ⟨n, r, hn, hhanded, hrule⟩ := hlisted rule hrule
        refine ⟨n, r, hn, hhanded, fun r' hr' => horder.handed_unique hhanded hr', ?_⟩
        split at hrule
        · next hthere => rwa [if_pos hthere]
        · next hgone =>
          rw [if_neg hgone]
          exact ⟨hrule, fun user => by rw [hrule]; rfl⟩
      · obtain ⟨rules, k, l, hresult, -⟩ := exists_of_describes rfl hdescribes
        cases hresult

/-- A rule of one query. -/
def usersOf (product : String) : AuthoredRule :=
  ⟨"", product, "", [⟨"USER_OF", [product], false⟩]⟩

/-- Two rules are saved. -/
def twoSaves : List SharingEvent :=
  .call (.save (usersOf "DEBIT")) :: List.replicate 6 (.advance 0) ++
    .call (.save (usersOf "CREDIT")) :: List.replicate 6 (.advance 1)

/-- The first of them is deleted between the two selections of a listing. -/
def tornListing : List SharingEvent :=
  [.advance 2, .advance 2, .call (.delete 1), .advance 3, .advance 3, .advance 2, .advance 2]

/-- The answers that a listing gets if one rule row and its query row are selected. -/
def oneRow : (r : Database.Request) → Except Failure (Database.Answer r)
  | .acquire _ => .ok ()
  | .fetch .selectRules => .ok (.list [((usersOf "DEBIT").row 1).cell])
  | .fetch .selectQueries => .ok (.list (((usersOf "DEBIT").stored 1).map StoredQuery.cell))
  | _ => .error .undefined

theorem rules_are_never_half_read_torn :
    RuleTables.findAll.against oneRow = .ok [{ ((usersOf "DEBIT").row 1).rule with
      queries := some (RuleTables.queriesOf ((usersOf "DEBIT").stored 1) 1) }] ∧
    ∃ (rules : List Rule) (k l : Nat) (open? : Option (List TableWrite)) (handed? : Option Int),
      (run (twoSaves ++ .call .findAll :: tornListing)).clients[2]? =
        some ⟨.findAll, .done rules, open?, handed?⟩ ∧ k < l ∧ l < 22 := by
  obtain ⟨hrows, hlistings⟩ := rules_are_never_half_read
  constructor
  · refine (hrows [(usersOf "DEBIT").row 1] ((usersOf "DEBIT").stored 1) oneRow
      (List.nodup_singleton _) rfl rfl rfl).1 fun q hq _ => ?_
    obtain ⟨p, -, rfl⟩ := List.mem_map.mp hq
    exact ⟨_, AuthoredQuery.queryOfRow_stored 1 p.1 p.2⟩
  · obtain ⟨rest, open?, handed?, hi, hends, hlisted⟩ := hlistings twoSaves tornListing
    obtain ⟨rules, k, l, hrest, hkl, hl, -⟩ := hlisted (hends (by decide))
    rw [hrest] at hi
    exact ⟨rules, k, l, open?, handed?, hi, hkl, hl⟩

end Sharing

end Recommender
