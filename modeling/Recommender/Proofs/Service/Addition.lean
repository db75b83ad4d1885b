import Recommender.Proofs.Service.Removal

/-!
# Additions that fail

To add a rule is to validate it, to save it, and then to start its match count; a rule whose count
cannot be started is taken out again.  So an addition that fails leaves nothing behind in the
listings, and one that succeeds appends the rule and a count of zero.  Only a rule that cannot be
taken out again is *stranded*: it stays listed, without a count.

The saved rule comes last in the store, since its number is a new one; its count comes last in the
listing, since the number is larger than every number handed out before, and only these have counts,
also the counts of rules that are gone.
-/

namespace Recommender

/-- The first failure of adding a rule: of its validation, of the rule store that saves it, or of
the start of its count. -/
def Rule.refusal? (r : Rule) (faults : Faults) : Option Failure :=
  r.rejection?.or ((faults.find? .saveRule).or (faults.find? .initCount))

/-! ## Listings of stores that have been added to -/

/-- A value under an identifier that had none comes last. -/
theorem ById.entries_put_of_find?_eq_none {β : Type} {id : RuleId} {m : ById β}
    (h : m.find? id = none) (value : β) :
    (m.put id value).entries = m.entries ++ [(id.key, id, value)] := by
  rw [find?, Option.map_eq_none_iff] at h
  rw [put, h]
  exact Assoc.put_of_find?_eq_none h

namespace RuleStore

variable {s : RuleStore}

/-- The next number has no rule yet. -/
theorem Numbered.contains_nextId (h : s.Numbered) : s.contains (.number s.nextId) = false := by
  rw [Bool.eq_false_iff]
  intro hid
  obtain ⟨n, hkey, hn⟩ := h.issued_of_contains hid
  cases hkey
  exact absurd hn.2 (Int.lt_irrefl _)

/-- No rule is listed under the next number. -/
theorem Numbered.not_isUnder_nextId (h : s.Numbered) {r : Rule} (hr : r ∈ s.toList) :
    r.isUnder (.number s.nextId) = false := by
  rw [Bool.eq_false_iff]
  intro hunder
  have hid := (h.contains_iff_isUnder (.number s.nextId)).mpr ⟨r, hr, hunder⟩
  rw [h.contains_nextId] at hid
  cases hid

/-- A rule that is saved is listed last. -/
theorem Numbered.toList_save (h : s.Numbered) (r : Rule) :
    (s.save r).2.toList = s.toList ++ [{ r with id := .int s.nextId }] := by
  have hnone : s.rules.find? (.number s.nextId) = none :=
    Option.isNone_iff_eq_none.mp (Option.isSome_eq_false_iff.mp h.contains_nextId)
  have hentries := ById.entries_put_of_find?_eq_none hnone { r with id := .int s.nextId }
  show ((s.rules.put (.number s.nextId) { r with id := .int s.nextId }).toList).map (·.2) = _
  rw [toList, ById.toList, ById.toList, hentries]
  simp

/-- A rule that is saved and taken out again leaves the listing as it was. -/
theorem Numbered.toList_delete_save (h : s.Numbered) (r : Rule) :
    ((s.save r).2.delete (.number s.nextId)).toList = s.toList := by
  have hkept : s.toList.filter (fun r' => !r'.isUnder (.number s.nextId)) = s.toList :=
    List.filter_eq_self.mpr fun r' hr' => by rw [h.not_isUnder_nextId hr', Bool.not_false]
  have hunder : ({ r with id := .int s.nextId } : Rule).isUnder (.number s.nextId) = true := by
    simp [Rule.isUnder]
  rw [(h.save r).toList_delete, h.toList_save, List.filter_append, hkept]
  simp [hunder]

end RuleStore

namespace MatchCounts

variable {m : MatchCounts}

/-- A count that is started under a number above all others is listed last, with zero. -/
theorem Numbered.toList_start (h : m.Numbered) {n : Int}
    (hn : ∀ k, (m.count? (.number k)).isSome = true → k < n) :
    ∃ stats, m.toList = .ok stats ∧ (∀ c ∈ stats, c.isOf (.number n) = false) ∧
      (m.start (.number n)).toList = .ok (stats ++ [⟨.number n, 0⟩]) := by
  obtain ⟨pairs, hpairs⟩ := h.exists_entriesOf
  have hbelow : ∀ c ∈ pairs, c.1 < n := by
    intro c hc
    refine hn c.1 ?_
    have hkey : RuleKey.number c.1 ∈ Assoc.keys m.counts.entries := by
      rw [hpairs]
      exact List.mem_map.mpr ⟨_, List.mem_map.mpr ⟨c, hc, rfl⟩, rfl⟩
    rw [count?, ById.find?, Option.isSome_map]
    exact Assoc.isSome_find?_iff.mpr hkey
  have hnone : m.count? (.number n) = none := by
    cases hcount : m.count? (.number n) with
    | none => rfl
    | some count => exact absurd (hn n (hcount ▸ rfl)) (Int.lt_irrefl n)
  have hstart : (m.start (.number n)).counts.entries = entriesOf (pairs ++ [(n, 0)]) := by
    rw [MatchCounts.start, hnone]
    refine (ById.entries_put_of_find?_eq_none hnone 0).trans ?_
    rw [hpairs, entriesOf, entriesOf, List.map_append]
    rfl
  have hlast : (pairs ++ [(n, 0)]).mergeSort inOrder = pairs.mergeSort inOrder ++ [(n, 0)] := by
    refine mergeSort_concat inOrder_trans inOrder_total fun c hc => ?_
    exact decide_eq_false (Int.not_le.mpr (hbelow c hc))
  refine ⟨_, toList_of_entriesOf hpairs, ?_, ?_⟩
  · intro c hc
    obtain ⟨pair, hpair, rfl⟩ := List.mem_map.mp hc
    have hlt := hbelow pair (List.mem_mergeSort.mp hpair)
    refine decide_eq_false fun hkey => ?_
    cases hkey
    exact Int.lt_irrefl _ hlt
  · rw [toList_of_entriesOf hstart, hlast, List.map_append]
    rfl

end MatchCounts

namespace ServiceState

/-- Adding a rule saves it, fails to start its count, and fails to take the rule out again. -/
def Stranded (r : Rule) (s : ServiceState) : Prop :=
  r.rejection? = none ∧ s.faults.find? .saveRule = none ∧ s.faults.find? .initCount ≠ none ∧
    s.faults.find? .deleteRule ≠ none

variable {s : ServiceState} {r : Rule}

/-! ## What adding a rule does -/

/-- An addition either succeeds, with the rule saved and its count started, or fails as its first
failure says, with the rule not saved or taken out again, unless the rule is stranded. -/
theorem perform_addRule_of_not_stranded (h : ¬ s.Stranded r) :
    (r.refusal? s.faults = none ∧ s.perform (addRule r) =
        (.ok { r with id := .int s.rules.nextId }, { s with
          rules := (s.rules.save r).2
          counts := s.counts.start (.number s.rules.nextId) })) ∨
      ∃ why, r.refusal? s.faults = some why ∧
        (s.perform (addRule r) = (.error why, s) ∨
          s.perform (addRule r) = (.error why, { s with
            rules := (s.rules.save r).2.delete (.number s.rules.nextId) })) := by
  rw [Rule.refusal?]
  cases hrejected : r.rejection? with
  | some why =>
      rw [addRule_of_rejection hrejected]
      exact .inr ⟨why, rfl, .inl rfl⟩
  | none =>
      rw [addRule_of_not_rejected hrejected, perform_storeRule]
      cases hsave : s.faults.find? .saveRule with
      | some e => exact .inr ⟨e, rfl, .inl rfl⟩
      | none =>
          cases hstart : s.faults.find? .initCount with
          | none => exact .inl ⟨rfl, rfl⟩
          | some e =>
              cases hdelete : s.faults.find? .deleteRule with
              | some e' => exact absurd ⟨hrejected, hsave, hstart ▸ nofun, hdelete ▸ nofun⟩ h
              | none => exact .inr ⟨e, rfl, .inr rfl⟩

theorem perform_addRule_of_stranded (h : s.Stranded r) :
    ∃ why, s.faults.find? .deleteRule = some why ∧
      s.perform (addRule r) = (.error why, { s with rules := (s.rules.save r).2 }) := by
  obtain ⟨hrejected, hsave, hstart, hdelete⟩ := h
  obtain ⟨e, hstart⟩ := Option.ne_none_iff_exists'.mp hstart
  obtain ⟨why, hdelete⟩ := Option.ne_none_iff_exists'.mp hdelete
  refine ⟨why, hdelete, ?_⟩
  rw [addRule_of_not_rejected hrejected, perform_storeRule, hsave, hstart, hdelete]

/-- Only numbers that were handed out have counts. -/
theorem Sound.lt_nextId_of_count {t : Recorded Backend ServiceState} (h : Sound t) {k : Int}
    (hk : (t.state.counts.count? (.number k)).isSome = true) : k < t.state.rules.nextId := by
  obtain ⟨before, o, after, hhistory, htouch, -⟩ := (h.tallied.present (.number k)).mp hk
  have hmem : o ∈ t.history := hhistory ▸ List.mem_append_right before List.mem_cons_self
  obtain ⟨n, hkey, hn⟩ := h.tallied.touched o hmem (.number k) htouch
  cases hkey
  exact hn.2

end ServiceState

namespace Traffic

open ServiceState (recorder listings_eq addRule_of_rejection perform_addRule_of_not_stranded
  perform_addRule_of_stranded)

/-- **An addition is all or nothing unless the rule is stranded.**  Take any state of any run, let
any operations be told to fail, and add any rule.  A rule that is not valid is rejected before
anything is asked of the stores.  If the rule is not stranded, it is either added, and what is
listed afterwards are the rules and the counts of before, each with one more at the end: the rule
under a number that was never handed out and has no count, and its count of zero; or the addition
fails as the first of validation, saving and starting the count does, and what is listed is as it
was.  If the rule is stranded, the addition fails as the store of rules does, and the rule stays
listed without a count. -/
theorem addition_is_whole_unless_stranded (catalog : List RuleSet) (events : List TrafficEvent)
    (faults : Faults) (r : Rule) :
    let s := (run catalog events).record.state.setFaults faults
    let added := s.perform (addRule r)
    ∃ rules stats n, s.listings = (.ok rules, .ok stats) ∧
      n ∉ handedOut (run catalog events).record.history ∧
      (∀ r' ∈ rules, r'.isUnder (.number n) = false) ∧
      (∀ c ∈ stats, c.isOf (.number n) = false) ∧
      let saved : Rule := { r with id := .int n }
      (∀ why, r.rejection? = some why →
        (addRule r).run recorder ⟨s, []⟩ = (.error why, ⟨s, []⟩)) ∧
      (¬ s.Stranded r →
        (r.refusal? faults = none ∧ added.1 = .ok saved ∧
          added.2.listings = (.ok (rules ++ [saved]), .ok (stats ++ [⟨.number n, 0⟩]))) ∨
        ∃ why, r.refusal? faults = some why ∧ added.1 = .error why ∧
          added.2.listings = (.ok rules, .ok stats)) ∧
      (s.Stranded r → ∃ why, faults.find? .deleteRule = some why ∧ added.1 = .error why ∧
        added.2.listings = (.ok (rules ++ [saved]), .ok stats)) := by
  intro s added
  have hsound := (inOrder_run catalog events).record
  have hrules : s.rules.Numbered := hsound.numbered.rules
  have hcounts : s.counts.Numbered := hsound.tallied.counts
  have hsaved := hrules.toList_save r
  obtain ⟨stats, hstats, hnew, hstarted⟩ :=
    hcounts.toList_start fun k hk => hsound.lt_nextId_of_count hk
  refine ⟨s.rules.toList, stats, s.rules.nextId, ?_, ?_,
    fun r' hr' => hrules.not_isUnder_nextId hr', hnew, ?_, fun hwhole => ?_,
    fun hstranded => ?_⟩
  · rw [listings_eq, hstats]
  · rw [hsound.numbered.issued]
    exact fun hn => Int.lt_irrefl _ hn.2
  · intro why hwhy
    rw [addRule_of_rejection hwhy]
    rfl
  · obtain ⟨hnone, hperform⟩ | ⟨why, hwhy, hperform⟩ := perform_addRule_of_not_stranded hwhole
    · have hadded : added = _ := hperform
      rw [hadded, listings_eq]
      exact .inl ⟨hnone, rfl, Prod.ext (congrArg Except.ok hsaved) hstarted⟩
    · have hlisted : added.1 = .error why ∧ added.2.rules.toList = s.rules.toList ∧
          added.2.counts = s.counts := by
        obtain hperform | hperform := hperform
        · have hadded : added = _ := hperform
          rw [hadded]
          exact ⟨rfl, rfl, rfl⟩
        · have hadded : added = _ := hperform
          rw [hadded]
          exact ⟨rfl, hrules.toList_delete_save r, rfl⟩
      obtain ⟨hfails, hkept, hsame⟩ := hlisted
      refine .inr ⟨why, hwhy, hfails, ?_⟩
      rw [listings_eq, hkept, hsame, hstats]
  · obtain ⟨why, hdelete, hperform⟩ := perform_addRule_of_stranded hstranded
    have hadded : added = _ := hperform
    refine ⟨why, hdelete, congrArg Prod.fst hadded, ?_⟩
    rw [listings_eq, hadded, hsaved, hstats]

/-- The service with one rule, where counts cannot be started. -/
def uncounting : ServiceState :=
  (run [] oneRule).record.state.setFaults [(.initCount, .breakdown "down")]

/-- The service with one rule, where counts cannot be started and rules cannot be deleted. -/
def stuck : ServiceState :=
  (run [] oneRule).record.state.setFaults
    [(.initCount, .breakdown "down"), (.deleteRule, .breakdown "locked")]

theorem addition_is_whole_unless_stranded_uncounted :
    (addRule misnamed).run recorder ⟨uncounting, []⟩ =
        (.error (.service (.unknownOperator "OWNER_OF")), ⟨uncounting, []⟩) ∧
      (uncounting.perform (addRule debitless)).1 = .error (.breakdown "down") ∧
      (uncounting.perform (addRule debitless)).2.listings = uncounting.listings ∧
      (stuck.perform (addRule debitless)).1 = .error (.breakdown "locked") := by
  obtain ⟨_, _, _, -, -, -, -, hrejected, -⟩ :=
    addition_is_whole_unless_stranded [] oneRule [(.initCount, .breakdown "down")] misnamed
  obtain ⟨_, _, _, hlistings, -, -, -, -, hwhole, -⟩ :=
    addition_is_whole_unless_stranded [] oneRule [(.initCount, .breakdown "down")] debitless
  obtain ⟨_, _, _, -, -, -, -, -, -, hstranded⟩ :=
    addition_is_whole_unless_stranded [] oneRule
      [(.initCount, .breakdown "down"), (.deleteRule, .breakdown "locked")] debitless
  obtain ⟨why, hwhy, hlocked, -⟩ := hstranded ⟨rfl, rfl, nofun, nofun⟩
  cases hwhy
  obtain ⟨hnone, -⟩ | ⟨why, hwhy, hfails, hlisted⟩ := hwhole fun h => h.2.2.2 rfl
  · cases hnone
  · cases hwhy
    exact ⟨hrejected _ rfl, hfails, hlisted.trans hlistings.symm, hlocked⟩

end Traffic

end Recommender
