import Recommender.Proofs.Service.Lifecycle
import Recommender.Proofs.Service.Traffic
import Recommender.Proofs.Sorting

/-!
# Deletions that fail

To delete a rule is to take it out of the rule store and then to drop its match count.  A deletion
that fails before its first write leaves both stores as they were, and can be repeated.  One whose
count cannot be dropped any more is *torn*: the rule is out of its store, its count stays, and no
repetition drops it, since the rule is then missing.
-/

namespace Recommender

/-- Whether a rule is shown under an identifier. -/
def Rule.isUnder (id : RuleId) (r : Rule) : Bool :=
  (RuleId.ofJson? r.id).any fun shown => shown.key = id.key

/-- Whether a count is that of an identifier. -/
def RuleStat.isOf (id : RuleId) (c : RuleStat) : Bool :=
  c.ruleId.key = id.key

/-! ## Listings of stores that have been deleted from -/

/-- The rules that are listed after a deletion are the others. -/
theorem RuleStore.Numbered.toList_delete {s : RuleStore} (h : s.Numbered) (id : RuleId) :
    (s.delete id).toList = s.toList.filter fun r => !r.isUnder id := by
  rw [toList, toList, ById.toList, ById.toList, List.map_map, List.map_map, List.filter_map]
  refine congrArg (List.map _) (List.filter_congr fun e he => ?_)
  obtain ⟨n, r, rfl, hid, -⟩ := h.entries e he
  show decide (RuleKey.number n ≠ id.key) = !Rule.isUnder id r
  rw [Rule.isUnder, hid, RuleId.ofJson?_int, Option.any_some, RuleId.key_number, decide_not]

/-- An identifier has a rule exactly if a rule is listed under it. -/
theorem RuleStore.Numbered.contains_iff_isUnder {s : RuleStore} (h : s.Numbered) (id : RuleId) :
    s.contains id = true ↔ ∃ r ∈ s.toList, r.isUnder id = true := by
  constructor
  · intro hid
    obtain ⟨n, hkey, -⟩ := h.issued_of_contains hid
    rw [contains_congr (hkey.trans (RuleId.key_number n).symm), h.contains_iff] at hid
    obtain ⟨r, hr, hrid⟩ := hid
    exact ⟨r, hr, by simp [Rule.isUnder, hrid, hkey]⟩
  · rintro ⟨r, hr, hunder⟩
    obtain ⟨n, hrid, -⟩ := h.issued_of_mem hr
    rw [Rule.isUnder, hrid] at hunder
    have hkey : RuleKey.number n = id.key := of_decide_eq_true hunder
    rw [contains_congr (hkey.symm.trans (RuleId.key_number n).symm), h.contains_iff]
    exact ⟨r, hr, hrid⟩

namespace MatchCounts

variable {m : MatchCounts}

/-- The entries of counts that are kept under numbers, from the numbers and the counts. -/
def entriesOf (pairs : List (Int × Nat)) : List (RuleKey × RuleId × Nat) :=
  pairs.map fun c => (.number c.1, .number c.1, c.2)

/-- Whether the number of a count is not the larger one. -/
def inOrder (a b : Int × Nat) : Bool :=
  decide (a.1 ≤ b.1)

theorem inOrder_trans (a b c : Int × Nat) (hab : inOrder a b = true) (hbc : inOrder b c = true) :
    inOrder a c = true := by
  rw [inOrder, decide_eq_true_eq] at *
  exact Int.le_trans hab hbc

theorem inOrder_total (a b : Int × Nat) : (inOrder a b || inOrder b a) = true := by
  rw [inOrder, inOrder, Bool.or_eq_true, decide_eq_true_eq, decide_eq_true_eq]
  exact Int.le_total a.1 b.1

theorem Numbered.exists_entriesOf (h : m.Numbered) :
    ∃ pairs, m.counts.entries = entriesOf pairs := by
  obtain ⟨⟨entries⟩⟩ := m
  replace h : ∀ e ∈ entries, ∃ n count, e = (.number n, .number n, count) := h
  induction entries with
  | nil => exact ⟨[], rfl⟩
  | cons e rest ih =>
      obtain ⟨⟨n, count, rfl⟩, hrest⟩ := List.forall_mem_cons.mp h
      obtain ⟨pairs, hpairs⟩ := ih hrest
      exact ⟨(n, count) :: pairs, congrArg (List.cons _) hpairs⟩

/-- Counts under numbers are listed by number. -/
theorem toList_of_entriesOf {pairs : List (Int × Nat)} (h : m.counts.entries = entriesOf pairs) :
    m.toList = .ok ((pairs.mergeSort inOrder).map fun c => ⟨.number c.1, c.2⟩) := by
  have hlist : m.counts.toList = pairs.map fun c => (.number c.1, c.2) := by
    rw [ById.toList, h, entriesOf, List.map_map]
    rfl
  have hordered : RuleId.areOrdered (m.counts.toList.map (·.1)) = true := by
    refine areOrdered_of_numbers fun id hid => ?_
    rw [hlist, List.map_map] at hid
    obtain ⟨c, -, rfl⟩ := List.mem_map.mp hid
    exact ⟨c.1, rfl⟩
  have hsort : m.counts.toList.mergeSort listedBefore =
      (pairs.mergeSort inOrder).map fun c => (.number c.1, c.2) := by
    rw [hlist]
    refine (List.map_mergeSort fun a _ b _ => ?_).symm
    rw [listedBefore, RuleId.precedes_number, inOrder, ← decide_not, decide_eq_decide, Int.not_lt]
  rw [toList, if_pos hordered, hsort, List.map_map]
  rfl

/-- The counts that are listed after one was dropped are the others. -/
theorem Numbered.toList_drop (h : m.Numbered) (id : RuleId) :
    ∃ stats, m.toList = .ok stats ∧
      (m.drop id).toList = .ok (stats.filter fun c => !c.isOf id) := by
  obtain ⟨pairs, hpairs⟩ := h.exists_entriesOf
  have hdrop : (m.drop id).counts.entries =
      entriesOf (pairs.filter fun c => .number c.1 ≠ id.key) := by
    show Assoc.remove id.key m.counts.entries = _
    rw [Assoc.remove, hpairs, entriesOf, List.filter_map]
    rfl
  refine ⟨_, toList_of_entriesOf hpairs, ?_⟩
  rw [toList_of_entriesOf hdrop, ← filter_mergeSort inOrder_trans inOrder_total, List.filter_map]
  refine congrArg (fun l => Except.ok (List.map _ l)) (List.filter_congr fun c _ => ?_)
  show decide (RuleKey.number c.1 ≠ id.key) = !decide (RuleKey.number c.1 = id.key)
  rw [decide_not]

end MatchCounts

namespace ServiceState

/-- The rules and the match counts, as they are listed when no operation is told to fail. -/
def listings (s : ServiceState) : Except Failure (List Rule) × Except Failure (List RuleStat) :=
  (((s.setFaults []).perform Backend.listRules).1, ((s.setFaults []).perform Backend.listCounts).1)

/-- Deleting a rule takes it out of the rule store, and fails to drop its count. -/
def Torn (id : RuleId) (s : ServiceState) : Prop :=
  s.rules.contains id = true ∧ s.faults.find? .ruleExists = none ∧
    s.faults.find? .deleteRule = none ∧ s.faults.find? .deleteCount ≠ none

variable {s : ServiceState} {id : RuleId}

theorem listings_eq (s : ServiceState) : s.listings = (.ok s.rules.toList, s.counts.toList) := by
  have hcounts : ((s.setFaults []).perform Backend.listCounts).1 = s.counts.toList :=
    congrArg Prod.fst
      (Program.run_request (I := Backend) collaborator .listCounts (s.setFaults []))
  rw [listings, hcounts]
  rfl

/-- A deletion either removes the rule and its count, or leaves the service as it was, unless it is
torn. -/
theorem perform_deleteRule_of_not_torn (h : ¬ s.Torn id) :
    (s.rules.contains id = true ∧ s.perform (deleteRule id) =
        (.ok (), { s with rules := s.rules.delete id, counts := s.counts.drop id })) ∨
      ∃ e, s.perform (deleteRule id) = (.error e, s) := by
  rw [perform_deleteRule]
  cases hexists : s.faults.find? .ruleExists with
  | some e => exact .inr ⟨e, rfl⟩
  | none =>
      by_cases hid : s.rules.contains id = true
      · simp only [if_pos hid]
        cases hdelete : s.faults.find? .deleteRule with
        | some e => exact .inr ⟨e, rfl⟩
        | none =>
            cases hdrop : s.faults.find? .deleteCount with
            | some e => exact absurd ⟨hid, hexists, hdelete, hdrop ▸ nofun⟩ h
            | none => exact .inl ⟨hid, rfl⟩
      · simp only [if_neg hid]
        exact .inr ⟨_, rfl⟩

theorem perform_deleteRule_of_torn (h : s.Torn id) :
    ∃ e, s.faults.find? .deleteCount = some e ∧
      s.perform (deleteRule id) = (.error e, { s with rules := s.rules.delete id }) := by
  obtain ⟨hid, hexists, hdelete, hdrop⟩ := h
  obtain ⟨e, he⟩ := Option.ne_none_iff_exists'.mp hdrop
  refine ⟨e, he, ?_⟩
  rw [perform_deleteRule, hexists, hdelete, he]
  exact if_pos hid

end ServiceState

namespace Traffic

open ServiceState (listings_eq perform_deleteRule_of_not_torn perform_deleteRule_of_torn
  perform_deleteRule_of_present perform_deleteRule_of_absent)

/-- **A deletion is all or nothing unless it is torn.**  Take any state of any run, let any
operations be told to fail, and delete the rule of any identifier.  If the deletion is not torn, it
either returns, and the rule and its count are gone from what is listed and all else is as it was;
or it fails, and the service is as it was, so that the deletion of a rule that is there succeeds
when it is repeated without faults.  If it is torn, it fails as the store of counts does, and from
then on the rule is gone and its count stays: repeated without faults, the deletion finds the rule
missing, and changes nothing. -/
theorem deletion_is_whole_unless_torn (catalog : List RuleSet) (events : List TrafficEvent)
    (faults : Faults) (id : RuleId) :
    let s := (run catalog events).record.state.setFaults faults
    let deleted := s.perform (deleteRule id)
    let repeated := (deleted.2.setFaults []).perform (deleteRule id)
    ∃ rules stats, s.listings = (.ok rules, .ok stats) ∧
      let others := rules.filter fun r => !r.isUnder id
      let otherCounts := stats.filter fun c => !c.isOf id
      (¬ s.Torn id →
        (deleted.1 = .ok () ∧ (∃ r ∈ rules, r.isUnder id = true) ∧
          deleted.2.listings = (.ok others, .ok otherCounts)) ∨
        (∃ e, deleted.1 = .error e) ∧ deleted.2 = s ∧
          ((∃ r ∈ rules, r.isUnder id = true) →
            repeated.1 = .ok () ∧ repeated.2.listings = (.ok others, .ok otherCounts))) ∧
      (s.Torn id →
        (∃ e, faults.find? .deleteCount = some e ∧ deleted.1 = .error e) ∧
          deleted.2.listings = (.ok others, .ok stats) ∧
          repeated.1 = .error (ruleMissing id.toJson) ∧
          repeated.2.listings = (.ok others, .ok stats)) := by
  intro s deleted repeated
  obtain ⟨hnumbered, htallied⟩ := (inOrder_run catalog events).record
  have hrules : s.rules.Numbered := hnumbered.rules
  have hcounts : s.counts.Numbered := htallied.counts
  have hothers := hrules.toList_delete id
  obtain ⟨stats, hstats, hdropped⟩ := hcounts.toList_drop id
  refine ⟨s.rules.toList, stats, by rw [listings_eq, hstats], fun hwhole => ?_, fun htorn => ?_⟩
  · obtain ⟨hid, hperform⟩ | ⟨e, hperform⟩ := perform_deleteRule_of_not_torn hwhole
    · have hdeleted : deleted = _ := hperform
      rw [hdeleted]
      refine .inl ⟨rfl, (hrules.contains_iff_isUnder id).mp hid, ?_⟩
      rw [listings_eq, hothers, hdropped]
    · have hdeleted : deleted = (.error e, s) := hperform
      have hstate : deleted.2 = s := congrArg Prod.snd hdeleted
      refine .inr ⟨⟨e, congrArg Prod.fst hdeleted⟩, hstate, fun hlisted => ?_⟩
      have hid : (s.setFaults []).rules.contains id = true :=
        (hrules.contains_iff_isUnder id).mpr hlisted
      have hrepeated : repeated = (s.setFaults []).perform (deleteRule id) := by rw [← hstate]
      rw [hrepeated, perform_deleteRule_of_present rfl hid]
      refine ⟨rfl, ?_⟩
      rw [listings_eq]
      exact Prod.ext (congrArg Except.ok hothers) hdropped
  · obtain ⟨e, he, hperform⟩ := perform_deleteRule_of_torn htorn
    have hdeleted : deleted = _ := hperform
    have hlisted : deleted.2.listings =
        (.ok (s.rules.toList.filter fun r => !r.isUnder id), .ok stats) := by
      rw [listings_eq, hdeleted, hothers, hstats]
    have hgone : (deleted.2.setFaults []).rules.contains id = false := by
      rw [hdeleted]
      show (s.rules.delete id).contains id = false
      rw [Bool.eq_false_iff, ne_eq, RuleStore.contains_delete]
      exact fun hid => hid.1 rfl
    have hrepeated : repeated = (.error (ruleMissing id.toJson), deleted.2.setFaults []) :=
      perform_deleteRule_of_absent rfl hgone
    rw [hrepeated]
    exact ⟨⟨e, he, congrArg Prod.fst hdeleted⟩, hlisted, rfl, hlisted⟩

/-- A rule is added. -/
def oneRule : List TrafficEvent :=
  .call (.add debitless) :: List.replicate 4 (.advance 0)

/-- Its deletion cannot drop its count any more. -/
theorem deletion_is_whole_unless_torn_oneRule :
    let s := (run [] oneRule).record.state.setFaults [(.deleteCount, .breakdown "down")]
    let deleted := s.perform (deleteRule (.number 1))
    s.listings = (.ok [{ debitless with id := .int 1 }], .ok [⟨.number 1, 0⟩]) ∧
      deleted.2.listings = (.ok [], .ok [⟨.number 1, 0⟩]) ∧
      ((deleted.2.setFaults []).perform (deleteRule (.number 1))).2.listings =
        (.ok [], .ok [⟨.number 1, 0⟩]) := by
  intro s deleted
  obtain ⟨rules, stats, hlistings, -, htorn⟩ :=
    deletion_is_whole_unless_torn [] oneRule [(.deleteCount, .breakdown "down")] (.number 1)
  have hbefore : s.listings = (.ok [{ debitless with id := .int 1 }], .ok [⟨.number 1, 0⟩]) := by
    have hentries : s.counts.counts.entries = MatchCounts.entriesOf [(1, 0)] := by decide +kernel
    rw [listings_eq, MatchCounts.toList_of_entriesOf hentries, List.mergeSort_singleton]
    rfl
  obtain ⟨hrules, hstats⟩ := Prod.mk.inj (hlistings.symm.trans hbefore)
  cases hrules
  cases hstats
  obtain ⟨-, hdeleted, -, hrepeated⟩ := htorn ⟨by decide +kernel, rfl, rfl, nofun⟩
  exact ⟨hbefore, hdeleted, hrepeated⟩

end Traffic

end Recommender
