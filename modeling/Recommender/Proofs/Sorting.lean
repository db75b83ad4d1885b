import Mathlib.Data.List.Sort

/-!
# Choosing from sorted lists

A stable sort keeps the order of what is chosen: it is the same to choose from a sorted list and to
sort what is chosen.  So an element that is put behind all others comes last, and leaves these in
the order in which they are sorted without it.
-/

namespace Recommender

variable {α : Type}

/-- A list is divided in one way into what a condition holds of and what it does not hold of. -/
theorem append_inj_of_forall {p : α → Bool} {before after before' after' : List α}
    (h : before ++ after = before' ++ after') (hbefore : ∀ a ∈ before, p a = true)
    (hafter : ∀ a ∈ after, p a = false) (hbefore' : ∀ a ∈ before', p a = true)
    (hafter' : ∀ a ∈ after', p a = false) : before = before' ∧ after = after' := by
  have hchosen := congrArg (List.filter p) h
  have hnone {l : List α} (hl : ∀ a ∈ l, p a = false) : l.filter p = [] :=
    List.filter_eq_nil_iff.mpr fun a ha => Bool.eq_false_iff.mp (hl a ha)
  rw [List.filter_append, List.filter_append, List.filter_eq_self.mpr hbefore,
    List.filter_eq_self.mpr hbefore', hnone hafter, hnone hafter', List.append_nil,
    List.append_nil] at hchosen
  subst hchosen
  exact ⟨rfl, List.append_cancel_left h⟩

/-- It is the same to choose from a sorted list and to sort what is chosen. -/
theorem filter_mergeSort {le : α → α → Bool}
    (trans : ∀ a b c, le a b = true → le b c = true → le a c = true)
    (total : ∀ a b, (le a b || le b a) = true) (p : α → Bool) (l : List α) :
    (l.mergeSort le).filter p = (l.filter p).mergeSort le := by
  have hbehind {a : α} {l before after : List α}
      (h : (a :: l).mergeSort le = before ++ a :: after) :
      ∀ b ∈ after, (!le a b) = false := by
    have hsorted := List.pairwise_mergeSort trans total (a :: l)
    rw [h, List.pairwise_append, List.pairwise_cons] at hsorted
    exact fun b hb => by rw [hsorted.2.1.1 b hb, Bool.not_true]
  induction l with
  | nil => rw [List.mergeSort_nil, List.filter_nil, List.mergeSort_nil]
  | cons a l ih =>
      obtain ⟨before, after, hsort, hrest, hbefore⟩ := List.mergeSort_cons trans total a l
      rw [hrest, List.filter_append] at ih
      rw [hsort, List.filter_append]
      by_cases ha : p a = true
      · obtain ⟨before', after', hsort', hrest', hbefore'⟩ :=
          List.mergeSort_cons trans total a (l.filter p)
        rw [hrest'] at ih
        obtain ⟨heq, heq'⟩ := append_inj_of_forall ih
          (fun b hb => hbefore b (List.mem_filter.mp hb).1)
          (fun b hb => hbehind hsort b (List.mem_filter.mp hb).1) hbefore' (hbehind hsort')
        rw [List.filter_cons_of_pos ha, List.filter_cons_of_pos ha, hsort', heq, heq']
      · rw [List.filter_cons_of_neg ha, List.filter_cons_of_neg ha, ih]

/-- What an order puts behind every element of a list is sorted behind them. -/
theorem mergeSort_concat {le : α → α → Bool}
    (trans : ∀ a b c, le a b = true → le b c = true → le a c = true)
    (total : ∀ a b, (le a b || le b a) = true) {l : List α} {x : α}
    (h : ∀ a ∈ l, le x a = false) : (l ++ [x]).mergeSort le = l.mergeSort le ++ [x] := by
  have hmem : x ∈ (l ++ [x]).mergeSort le :=
    List.mem_mergeSort.mpr (List.mem_append_right l List.mem_cons_self)
  obtain ⟨before, after, hsplit⟩ := List.append_of_mem hmem
  have hsorted := List.pairwise_mergeSort trans total (l ++ [x])
  have hperm := List.mergeSort_perm (l ++ [x]) le
  rw [hsplit, List.pairwise_append, List.pairwise_cons] at hsorted
  rw [hsplit] at hperm
  have hrest : (before ++ after).Perm l :=
    (List.perm_middle.symm.trans (hperm.trans List.perm_append_comm)).cons_inv
  -- Nothing of the list is sorted behind `x`, so all of it is before it.
  have hafter : after = [] := by
    refine List.eq_nil_iff_forall_not_mem.mpr fun b hb => ?_
    have hle := hsorted.2.1.1 b hb
    rw [h b (hrest.mem_iff.mp (List.mem_append_right before hb))] at hle
    cases hle
  rw [hafter, List.append_nil] at hrest
  -- Choosing what `x` is not put before leaves the list, sorted or not.
  have hchoose {k : List α} (hk : ∀ a ∈ k, le x a = false) :
      (k ++ [x]).filter (fun a => !le x a) = k := by
    have hself : le x x = true := by simpa using total x x
    have hkept : k.filter (fun a => !le x a) = k :=
      List.filter_eq_self.mpr fun a ha => by rw [hk a ha, Bool.not_false]
    have hdropped : [x].filter (fun a => !le x a) = [] := by simp [hself]
    rw [List.filter_append, hkept, hdropped, List.append_nil]
  have hsame := filter_mergeSort trans total (fun a => !le x a) (l ++ [x])
  rw [hsplit, hafter, hchoose h, hchoose fun a ha => h a (hrest.mem_iff.mp ha)] at hsame
  rw [hsplit, hafter, hsame]

end Recommender
