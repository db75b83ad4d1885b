import Recommender.Proofs.Program.Interference
import Recommender.Proofs.Rule.Evaluation
import Recommender.Proofs.Rule.Numbering
import Recommender.Proofs.Service.Effect

/-!
# What the operations of the service keep

The operations of the service ask the stores only for what is in order: an accepted rule is saved, a
count is started or counted up for a number that was handed out, and a count is dropped only once
its rule is gone.  So every state is *sound*: the store has its rules under the numbers that it
handed out, and the counts agree with the history, however the operations run among each other and
whatever fails.
-/

namespace Recommender

/-! ## What a history says -/

/-- The number that a store hands out. -/
def Occurrence.handedOut? : Occurrence Backend → Option Int
  | .asked (.saveRule _) (.ok n) => some n
  | _ => none

/-- A match is counted for an identifier. -/
def Occurrence.increments (key : RuleKey) : Occurrence Backend → Bool
  | .asked (.increment id) (.ok _) => id.key = key
  | _ => false

/-- The count of an identifier is started or counted up. -/
def Occurrence.touches (key : RuleKey) : Occurrence Backend → Bool
  | .asked (.startCount id) (.ok _) => id.key = key
  | .asked (.increment id) (.ok _) => id.key = key
  | _ => false

/-- The count of an identifier is dropped. -/
def Occurrence.drops (key : RuleKey) : Occurrence Backend → Bool
  | .asked (.dropCount id) (.ok _) => id.key = key
  | _ => false

/-- The numbers that were handed out, in order. -/
def handedOut (history : List (Occurrence Backend)) : List Int :=
  history.filterMap Occurrence.handedOut?

/-- How many matches were counted for an identifier. -/
def increments (id : RuleId) (history : List (Occurrence Backend)) : Nat :=
  history.countP (·.increments id.key)

/-- The count of an identifier was started or counted up, and was not dropped since. -/
def Counted (id : RuleId) (history : List (Occurrence Backend)) : Prop :=
  ∃ before o after, history = before ++ o :: after ∧ o.touches id.key = true ∧
    ∀ o' ∈ after, o'.drops id.key = false

/-- The rule of an identifier was deleted. -/
def Deleted (id : RuleId) (history : List (Occurrence Backend)) : Prop :=
  ∃ other : RuleId, other.key = id.key ∧ .asked (.deleteRule other) (.ok ()) ∈ history

theorem handedOut_concat (history : List (Occurrence Backend)) (o : Occurrence Backend) :
    handedOut (history ++ [o]) = handedOut history ++ o.handedOut?.toList := by
  rw [handedOut, List.filterMap_append, handedOut, List.filterMap_cons, List.filterMap_nil]
  cases o.handedOut? <;> rfl

theorem increments_concat (id : RuleId) (history : List (Occurrence Backend))
    (o : Occurrence Backend) :
    increments id (history ++ [o]) = increments id history + (o.increments id.key).toNat := by
  rw [increments, List.countP_append, List.countP_singleton, increments]
  cases o.increments id.key <;> rfl

theorem not_counted_nil (id : RuleId) : ¬ Counted id [] := by
  rintro ⟨before, o, after, heq, -⟩
  cases before <;> cases heq

theorem counted_concat {id : RuleId} {history : List (Occurrence Backend)}
    {o : Occurrence Backend} :
    Counted id (history ++ [o]) ↔
      o.touches id.key = true ∨ (Counted id history ∧ o.drops id.key = false) := by
  constructor
  · rintro ⟨before, o', after, heq, htouch, hafter⟩
    obtain rfl | ⟨middle, last, rfl⟩ := List.eq_nil_or_concat after
    · obtain ⟨rfl, hlast⟩ := List.append_inj' heq rfl
      cases hlast
      exact .inl htouch
    · rw [List.concat_eq_append] at heq hafter
      rw [← List.cons_append, ← List.append_assoc] at heq
      obtain ⟨rfl, hlast⟩ := List.append_inj' heq rfl
      cases hlast
      simp only [List.mem_append, List.mem_singleton] at hafter
      exact .inr ⟨⟨before, o', middle, rfl, htouch, fun x hx => hafter x (.inl hx)⟩,
        hafter o (.inr rfl)⟩
  · rintro (htouch | ⟨⟨before, o', after, rfl, htouch, hafter⟩, hlast⟩)
    · exact ⟨history, o, [], rfl, htouch, List.forall_mem_nil _⟩
    · refine ⟨before, o', after ++ [o], by simp, htouch, fun x hx => ?_⟩
      obtain hx | hx := List.mem_append.mp hx
      · exact hafter x hx
      · rwa [List.mem_singleton.mp hx]

theorem counted_of_touches {id : RuleId} {history : List (Occurrence Backend)}
    {o : Occurrence Backend} (ho : o ∈ history) (htouch : o.touches id.key = true)
    (hdrops : ∀ o' ∈ history, o'.drops id.key = false) : Counted id history := by
  obtain ⟨before, after, rfl⟩ := List.append_of_mem ho
  exact ⟨before, o, after, rfl, htouch, fun o' ho' =>
    hdrops o' (List.mem_append_right before (List.mem_cons_of_mem o ho'))⟩

/-! ## What is in order -/

/-- A request is in order for the rules of a store. -/
def BackendRequest.InOrder : BackendRequest → RuleStore → Prop
  | .saveRule r, _ => r.accepted = true
  | .startCount id, s | .increment id, s => ∃ n, id = .number n ∧ s.Issued n
  | .dropCount id, s => s.Retired id
  | _, _ => True

/-- An event is in order for the rules of a store. -/
def BackendEvent.InOrder : BackendEvent → RuleStore → Prop
  | .matched id, s => ∃ n, id = .number n ∧ s.Issued n
  | _, _ => True

/-- An occurrence is in order for the rules of a store. -/
def Occurrence.InOrder : Occurrence Backend → RuleStore → Prop
  | .asked r _, s => BackendRequest.InOrder r s
  | .recorded e, s => BackendEvent.InOrder e s

namespace ServiceState

/-- The numbers handed out are those of the history, and only accepted rules have them. -/
structure Numbered (s : Recorded Backend ServiceState) : Prop where
  rules : s.state.rules.Numbered
  accepted : ∀ r ∈ s.state.rules.toList, r.accepted = true
  increasing : (handedOut s.history).Pairwise (· < ·)
  issued : ∀ n, n ∈ handedOut s.history ↔ s.state.rules.Issued n
  gone : ∀ id, s.state.rules.Retired id → Deleted id s.history

/-- The counts are those of the history. -/
structure Tallied (s : Recorded Backend ServiceState) : Prop where
  counts : s.state.counts.Numbered
  pending : ∀ id ∈ s.state.pending, ∃ n, id = .number n ∧ s.state.rules.Issued n
  /-- Only the counts of retired rules have lost matches. -/
  exact : ∀ id, ¬ s.state.rules.Retired id →
    (s.state.counts.count? id).getD 0 = increments id s.history
  present : ∀ id, (s.state.counts.count? id).isSome = true ↔ Counted id s.history
  touched : ∀ o ∈ s.history, ∀ id : RuleId, o.touches id.key = true →
    ∃ n, id.key = .number n ∧ s.state.rules.Issued n
  dropped : ∀ o ∈ s.history, ∀ id : RuleId, o.drops id.key = true → s.state.rules.Retired id

/-- A state in which the rules and the counts agree with the history. -/
structure Sound (s : Recorded Backend ServiceState) : Prop where
  numbered : Numbered s
  tallied : Tallied s

/-- A state comes after another one: what happened stays in the history, what was handed out and
what is retired stays so. -/
structure Later (s t : Recorded Backend ServiceState) : Prop where
  history : s.history <+: t.history
  issued : ∀ {n}, s.state.rules.Issued n → t.state.rules.Issued n
  retired : ∀ {id}, s.state.rules.Retired id → t.state.rules.Retired id

end ServiceState

/-! ## Single occurrences -/

/-- What changes a rule store. -/
theorem Occurrence.rulesAfter_cases (o : Occurrence Backend) :
    (∃ r n, o = .asked (.saveRule r) (.ok n)) ∨ (∃ id, o = .asked (.deleteRule id) (.ok ())) ∨
      (o.handedOut? = none ∧ ∀ s, o.rulesAfter s = s) := by
  cases o with
  | recorded e => exact .inr (.inr ⟨rfl, fun s => rfl⟩)
  | asked r a =>
      cases a with
      | error e => cases r <;> exact .inr (.inr ⟨rfl, fun s => rfl⟩)
      | ok a =>
          cases r with
          | saveRule r => exact .inl ⟨r, a, rfl⟩
          | deleteRule id => exact .inr (.inl ⟨id, rfl⟩)
          | _ => exact .inr (.inr ⟨rfl, fun s => rfl⟩)

/-- What changes match counts. -/
theorem Occurrence.countsAfter_cases (o : Occurrence Backend) :
    (∃ id, o = .asked (.startCount id) (.ok ())) ∨ (∃ id, o = .asked (.increment id) (.ok ())) ∨
      (∃ id, o = .asked (.dropCount id) (.ok ())) ∨
      ((∀ key, o.increments key = false ∧ o.touches key = false ∧ o.drops key = false) ∧
        ∀ m, o.countsAfter m = m) := by
  cases o with
  | recorded e => exact .inr (.inr (.inr ⟨fun _ => ⟨rfl, rfl, rfl⟩, fun m => rfl⟩))
  | asked r a =>
      cases a with
      | error e => cases r <;> exact .inr (.inr (.inr ⟨fun _ => ⟨rfl, rfl, rfl⟩, fun m => rfl⟩))
      | ok a =>
          cases r with
          | startCount id => exact .inl ⟨id, rfl⟩
          | increment id => exact .inr (.inl ⟨id, rfl⟩)
          | dropCount id => exact .inr (.inr (.inl ⟨id, rfl⟩))
          | _ => exact .inr (.inr (.inr ⟨fun _ => ⟨rfl, rfl, rfl⟩, fun m => rfl⟩))

theorem Occurrence.increments_of_not_touches {o : Occurrence Backend} {key : RuleKey}
    (h : o.touches key = false) : o.increments key = false := by
  obtain ⟨id, rfl⟩ | ⟨id, rfl⟩ | ⟨id, rfl⟩ | ⟨hnone, -⟩ := o.countsAfter_cases
  · rfl
  · exact h
  · rfl
  · exact (hnone key).1

theorem Occurrence.drops_of_touches {o : Occurrence Backend} {key : RuleKey}
    (h : o.touches key = true) : o.drops key = false := by
  obtain ⟨id, rfl⟩ | ⟨id, rfl⟩ | ⟨id, rfl⟩ | ⟨hnone, -⟩ := o.countsAfter_cases
  · rfl
  · rfl
  · cases h
  · exact (hnone key).2.2

/-- The count of an identifier after an occurrence. -/
theorem Occurrence.count?_countsAfter (o : Occurrence Backend) (m : MatchCounts) (id : RuleId) :
    (o.countsAfter m).count? id =
      if o.drops id.key then none
      else if o.touches id.key then some ((m.count? id).getD 0 + (o.increments id.key).toNat)
      else m.count? id := by
  obtain ⟨other, rfl⟩ | ⟨other, rfl⟩ | ⟨other, rfl⟩ | ⟨hnone, hsame⟩ := o.countsAfter_cases
  · have hstart := MatchCounts.count?_start other id m
    by_cases hkey : other.key = id.key
    · rw [if_pos hkey] at hstart
      exact hstart.trans (if_pos (decide_eq_true hkey)).symm
    · rw [if_neg hkey] at hstart
      exact hstart.trans (if_neg (mt of_decide_eq_true hkey)).symm
  · have hincrement := MatchCounts.count?_increment other id m
    by_cases hkey : other.key = id.key
    · have hone : Occurrence.increments id.key (.asked (.increment other) (.ok ())) = true :=
        decide_eq_true hkey
      rw [if_pos hkey] at hincrement
      rw [hone]
      exact hincrement.trans (if_pos (decide_eq_true hkey)).symm
    · rw [if_neg hkey] at hincrement
      exact hincrement.trans (if_neg (mt of_decide_eq_true hkey)).symm
  · have hdrop := MatchCounts.count?_drop other id m
    by_cases hkey : other.key = id.key
    · rw [if_pos hkey] at hdrop
      exact hdrop.trans (if_pos (decide_eq_true hkey)).symm
    · rw [if_neg hkey] at hdrop
      exact hdrop.trans (if_neg (mt of_decide_eq_true hkey)).symm
  · rw [hsame, (hnone id.key).1, (hnone id.key).2.1, (hnone id.key).2.2]
    rfl

/-- A count that was started or counted up belongs to a number that was handed out. -/
theorem Occurrence.InOrder.issued_of_touches {o : Occurrence Backend} {s : RuleStore}
    (h : o.InOrder s) {id : RuleId} (htouch : o.touches id.key = true) :
    ∃ n, id.key = .number n ∧ s.Issued n := by
  obtain ⟨other, rfl⟩ | ⟨other, rfl⟩ | ⟨other, rfl⟩ | ⟨hnone, -⟩ := o.countsAfter_cases
  · obtain ⟨n, rfl, hn⟩ := h
    exact ⟨n, (of_decide_eq_true htouch).symm, hn⟩
  · obtain ⟨n, rfl, hn⟩ := h
    exact ⟨n, (of_decide_eq_true htouch).symm, hn⟩
  · cases htouch
  · rw [(hnone id.key).2.1] at htouch
    cases htouch

/-- A count is dropped once its rule is gone. -/
theorem Occurrence.InOrder.retired_of_drops {o : Occurrence Backend} {s : RuleStore}
    (h : o.InOrder s) {id : RuleId} (hdrop : o.drops id.key = true) : s.Retired id := by
  obtain ⟨other, rfl⟩ | ⟨other, rfl⟩ | ⟨other, rfl⟩ | ⟨hnone, -⟩ := o.countsAfter_cases
  · cases hdrop
  · cases hdrop
  · exact RuleStore.Retired.congr h (of_decide_eq_true hdrop)
  · rw [(hnone id.key).2.2] at hdrop
    cases hdrop

namespace ServiceState

section

variable {o : Occurrence Backend} {s t u : Recorded Backend ServiceState}

/-- A state with the same rules and the same history comes after another one. -/
theorem Later.of_eq (hhistory : t.history = s.history) (hrules : t.state.rules = s.state.rules) :
    Later s t :=
  ⟨hhistory ▸ List.prefix_rfl, fun hn => hrules ▸ hn, fun hid => hrules ▸ hid⟩

theorem Later.refl (s : Recorded Backend ServiceState) : Later s s :=
  .of_eq rfl rfl

theorem Later.trans (h : Later s t) (h' : Later t u) : Later s u :=
  ⟨h.history.trans h'.history, fun hn => h'.issued (h.issued hn),
    fun hid => h'.retired (h.retired hid)⟩

/-- What a step does to the rules. -/
theorem Follows.rules_cases (h : Follows o s t) :
    (∃ r, o = .asked (.saveRule r) (.ok s.state.rules.nextId) ∧
      t.state.rules = (s.state.rules.save r).2) ∨
    (∃ id, o = .asked (.deleteRule id) (.ok ()) ∧ t.state.rules = s.state.rules.delete id) ∨
    (o.handedOut? = none ∧ t.state.rules = s.state.rules) := by
  obtain ⟨r, n, rfl⟩ | ⟨id, rfl⟩ | ⟨hnone, hsame⟩ := o.rulesAfter_cases
  · obtain rfl : n = s.state.rules.nextId := h.truthful
    exact .inl ⟨r, rfl, h.rules⟩
  · exact .inr (.inl ⟨id, rfl, h.rules⟩)
  · exact .inr (.inr ⟨hnone, h.rules.trans (hsame _)⟩)

/-- What follows from a state comes after it. -/
theorem Follows.later (h : Follows o s t) : Later s t := by
  have hpast : s.history <+: t.history := h.history ▸ List.prefix_append _ _
  obtain ⟨r, -, hrules⟩ | ⟨id, -, hrules⟩ | ⟨-, hrules⟩ := h.rules_cases
  · exact ⟨hpast, fun hn => hrules ▸ hn.save r, fun hid => hrules ▸ hid.save r⟩
  · exact ⟨hpast, fun hn => hrules ▸ hn, fun hid => hrules ▸ hid.delete id⟩
  · exact ⟨hpast, fun hn => hrules ▸ hn, fun hid => hrules ▸ hid⟩

/-- A state is sound that differs from a sound one in nothing but the provider, the memos, the
tallies and having fewer matches to be counted. -/
theorem Sound.of_eq (h : Sound s) (hhistory : t.history = s.history)
    (hrules : t.state.rules = s.state.rules) (hcounts : t.state.counts = s.state.counts)
    (hpending : ∀ id ∈ t.state.pending, id ∈ s.state.pending) : Sound t := by
  obtain ⟨⟨_, rules, counts, _, _, pending⟩, history⟩ := t
  dsimp only at hhistory hrules hcounts hpending
  subst hhistory hrules hcounts
  obtain ⟨⟨hrules, haccepted, hincreasing, hissued, hgone⟩, htallied⟩ := h
  exact ⟨⟨hrules, haccepted, hincreasing, hissued, hgone⟩, htallied.counts,
    fun id hid => htallied.pending id (hpending id hid), htallied.exact, htallied.present,
    htallied.touched, htallied.dropped⟩

/-! ## Rules and their numbers -/

theorem Follows.rules_numbered (h : Follows o s t) (hs : s.state.rules.Numbered) :
    t.state.rules.Numbered := by
  obtain ⟨r, -, hrules⟩ | ⟨id, -, hrules⟩ | ⟨-, hrules⟩ := h.rules_cases
  · exact hrules ▸ hs.save r
  · exact hrules ▸ hs.delete id
  · exact hrules ▸ hs

theorem Follows.accepted (h : Follows o s t) (ho : o.InOrder s.state.rules)
    (hs : ∀ r ∈ s.state.rules.toList, r.accepted = true) :
    ∀ r ∈ t.state.rules.toList, r.accepted = true := by
  intro r' hr'
  obtain ⟨r, rfl, hrules⟩ | ⟨id, -, hrules⟩ | ⟨-, hrules⟩ := h.rules_cases
  · rw [hrules] at hr'
    obtain rfl | hold := RuleStore.mem_toList_save hr'
    · exact ho
    · exact hs r' hold
  · rw [hrules] at hr'
    exact hs r' (RuleStore.mem_toList_delete hr')
  · exact hs r' (hrules ▸ hr')

/-- A step hands out the next number, or none. -/
theorem Follows.handedOut_cases (h : Follows o s t) :
    (handedOut t.history = handedOut s.history ++ [s.state.rules.nextId] ∧
      t.state.rules.nextId = s.state.rules.nextId + 1) ∨
    (handedOut t.history = handedOut s.history ∧
      t.state.rules.nextId = s.state.rules.nextId) := by
  have hhanded := handedOut_concat s.history o
  rw [← h.history] at hhanded
  obtain ⟨r, rfl, hrules⟩ | ⟨id, rfl, hrules⟩ | ⟨hnone, hrules⟩ := h.rules_cases
  · exact .inl ⟨hhanded, congrArg RuleStore.nextId hrules⟩
  · exact .inr ⟨hhanded.trans (List.append_nil _), by rw [hrules]; rfl⟩
  · rw [hnone] at hhanded
    exact .inr ⟨hhanded.trans (List.append_nil _), congrArg RuleStore.nextId hrules⟩

/-- The numbers that were handed out are increasing, and are those below the next one. -/
theorem Follows.issued (h : Follows o s t) (hfirst : 1 ≤ s.state.rules.nextId)
    (hs : (handedOut s.history).Pairwise (· < ·) ∧
      ∀ n, n ∈ handedOut s.history ↔ s.state.rules.Issued n) :
    (handedOut t.history).Pairwise (· < ·) ∧
      ∀ n, n ∈ handedOut t.history ↔ t.state.rules.Issued n := by
  obtain ⟨hincreasing, hissued⟩ := hs
  obtain ⟨hhanded, hnext⟩ | ⟨hhanded, hnext⟩ := h.handedOut_cases
  · rw [hhanded]
    constructor
    · rw [List.pairwise_append]
      refine ⟨hincreasing, List.pairwise_singleton _ _, fun a ha b hb => ?_⟩
      rw [List.mem_singleton.mp hb]
      exact ((hissued a).mp ha).2
    · intro n
      rw [List.mem_append, List.mem_singleton, hissued, RuleStore.Issued, RuleStore.Issued, hnext]
      omega
  · rw [hhanded]
    refine ⟨hincreasing, fun n => ?_⟩
    rw [hissued, RuleStore.Issued, RuleStore.Issued, hnext]

/-- A rule is gone because it was deleted. -/
theorem Follows.gone (h : Follows o s t)
    (hs : ∀ id, s.state.rules.Retired id → Deleted id s.history) :
    ∀ id, t.state.rules.Retired id → Deleted id t.history := by
  intro id hid
  have hold : s.state.rules.Retired id → Deleted id t.history := by
    intro hretired
    obtain ⟨other, hkey, hmem⟩ := hs id hretired
    exact ⟨other, hkey, h.later.history.mem hmem⟩
  obtain ⟨r, -, hrules⟩ | ⟨other, rfl, hrules⟩ | ⟨-, hrules⟩ := h.rules_cases
  · rw [hrules] at hid
    exact hold hid.of_save
  · by_cases hkey : other.key = id.key
    · rw [h.history]
      exact ⟨other, hkey, List.mem_append_right _ List.mem_cons_self⟩
    · rw [hrules] at hid
      exact hold (hid.of_delete (Ne.symm hkey))
  · exact hold (hrules ▸ hid)

theorem Follows.numbered (h : Follows o s t) (ho : o.InOrder s.state.rules) (hs : Numbered s) :
    Numbered t := by
  obtain ⟨hincreasing, hissued⟩ := h.issued hs.rules.first ⟨hs.increasing, hs.issued⟩
  exact ⟨h.rules_numbered hs.rules, h.accepted ho hs.accepted, hincreasing, hissued, h.gone hs.gone⟩

/-! ## Counts -/

theorem Follows.counts_numbered (h : Follows o s t) (ho : o.InOrder s.state.rules)
    (hs : s.state.counts.Numbered) : t.state.counts.Numbered := by
  rw [h.counts]
  obtain ⟨id, rfl⟩ | ⟨id, rfl⟩ | ⟨id, rfl⟩ | ⟨-, hsame⟩ := o.countsAfter_cases
  · obtain ⟨n, rfl, -⟩ := ho
    exact hs.start n
  · obtain ⟨n, rfl, -⟩ := ho
    exact hs.increment n
  · exact hs.drop id
  · rw [hsame]
    exact hs

/-- An occurrence changes a count by the match that it counts, unless the rule is retired. -/
theorem Follows.exact (h : Follows o s t) (ho : o.InOrder s.state.rules) {id : RuleId}
    (hid : ¬ t.state.rules.Retired id)
    (hs : (s.state.counts.count? id).getD 0 = increments id s.history) :
    (t.state.counts.count? id).getD 0 = increments id t.history := by
  have hdrop : ¬ o.drops id.key = true :=
    fun hdrop => hid (h.later.retired (ho.retired_of_drops hdrop))
  rw [h.history, increments_concat, ← hs, h.counts, o.count?_countsAfter, if_neg hdrop]
  cases htouch : o.touches id.key with
  | true => rfl
  | false =>
      rw [Occurrence.increments_of_not_touches htouch]
      rfl

/-- A count is present exactly if it was started or counted up, and not dropped since. -/
theorem Follows.present (h : Follows o s t) (id : RuleId)
    (hs : (s.state.counts.count? id).isSome = true ↔ Counted id s.history) :
    (t.state.counts.count? id).isSome = true ↔ Counted id t.history := by
  rw [h.history, counted_concat, ← hs, h.counts, o.count?_countsAfter]
  cases htouch : o.touches id.key with
  | true => simp [Occurrence.drops_of_touches htouch]
  | false => cases o.drops id.key <;> simp

theorem Follows.pending_issued (h : Follows o s t) (ho : o.InOrder s.state.rules)
    (hs : ∀ id ∈ s.state.pending, ∃ n, id = .number n ∧ s.state.rules.Issued n) :
    ∀ id ∈ t.state.pending, ∃ n, id = .number n ∧ t.state.rules.Issued n := by
  intro id hid
  have hcase : id ∈ s.state.pending ∨ o = .recorded (.matched id) := by
    rw [h.pending] at hid
    cases o with
    | asked r a => exact .inl hid
    | recorded e =>
        cases e with
        | matched other =>
            obtain hold | hnew := List.mem_append.mp hid
            · exact .inl hold
            · exact .inr (by rw [List.mem_singleton.mp hnew])
        | _ => exact .inl hid
  obtain ⟨n, hkey, hn⟩ : ∃ n, id = .number n ∧ s.state.rules.Issued n := by
    obtain hold | rfl := hcase
    · exact hs id hold
    · exact ho
  exact ⟨n, hkey, h.later.issued hn⟩

theorem Follows.tallied (h : Follows o s t) (ho : o.InOrder s.state.rules) (hs : Tallied s) :
    Tallied t := by
  refine ⟨h.counts_numbered ho hs.counts, h.pending_issued ho hs.pending, fun id hid => ?_,
    fun id => h.present id (hs.present id), ?_, ?_⟩
  · exact h.exact ho hid (hs.exact id fun hold => hid (h.later.retired hold))
  · intro o' ho' id htouch
    rw [h.history, List.mem_append, List.mem_singleton] at ho'
    obtain ⟨n, hkey, hn⟩ : ∃ n, id.key = .number n ∧ s.state.rules.Issued n := by
      obtain hold | rfl := ho'
      · exact hs.touched o' hold id htouch
      · exact ho.issued_of_touches htouch
    exact ⟨n, hkey, h.later.issued hn⟩
  · intro o' ho' id hdrop
    rw [h.history, List.mem_append, List.mem_singleton] at ho'
    refine h.later.retired ?_
    obtain hold | rfl := ho'
    · exact hs.dropped o' hold id hdrop
    · exact ho.retired_of_drops hdrop

/-- What is in order leads from a sound state to a sound one. -/
theorem Follows.sound (h : Follows o s t) (ho : o.InOrder s.state.rules) (hs : Sound s) :
    Sound t :=
  ⟨h.numbered ho hs.numbered, h.tallied ho hs.tallied⟩

end

theorem BackendRequest.InOrder.later {r : BackendRequest} {s t : Recorded Backend ServiceState}
    (h : Later s t) (hr : r.InOrder s.state.rules) : r.InOrder t.state.rules := by
  cases r with
  | saveRule r => exact hr
  | startCount id =>
      obtain ⟨n, hid, hn⟩ := hr
      exact ⟨n, hid, h.issued hn⟩
  | increment id =>
      obtain ⟨n, hid, hn⟩ := hr
      exact ⟨n, hid, h.issued hn⟩
  | dropCount id => exact h.retired hr
  | _ => trivial

theorem BackendEvent.InOrder.later {e : BackendEvent} {s t : Recorded Backend ServiceState}
    (h : Later s t) (he : e.InOrder s.state.rules) : e.InOrder t.state.rules := by
  cases e with
  | matched id =>
      obtain ⟨n, hid, hn⟩ := he
      exact ⟨n, hid, h.issued hn⟩
  | _ => trivial

/-- The discipline of the service: nothing is asked or recorded that is not in order. -/
def ledger : Program.Discipline recorder where
  Valid := Sound
  Later := Later
  MayAsk := fun r s => BackendRequest.InOrder r s.state.rules
  MayRecord := fun e s => BackendEvent.InOrder e s.state.rules
  refl := Later.refl
  trans := Later.trans
  mayAsk_later := BackendRequest.InOrder.later
  mayRecord_later := BackendEvent.InOrder.later
  answer := fun {r s} hs hr => ⟨(follows_answer r s).sound hr hs, (follows_answer r s).later⟩
  notice := fun {e s} hs he => ⟨(follows_notice e s).sound he hs, (follows_notice e s).later⟩

end ServiceState

end Recommender
