/-!
# Association lists in insertion order

Pairs of a key and a value, in the order in which the keys were first put in.  Putting a key that is
present replaces its value where it stands.
-/

namespace Recommender.Assoc

variable {α β : Type} [DecidableEq α]

/-- The value of a key. -/
def find? (key : α) : List (α × β) → Option β
  | [] => none
  | (k, v) :: rest => if k = key then some v else find? key rest

/-- Put a value under a key. -/
def put (key : α) (value : β) : List (α × β) → List (α × β)
  | [] => [(key, value)]
  | (k, v) :: rest => if k = key then (key, value) :: rest else (k, v) :: put key value rest

/-- Take a key out. -/
def remove (key : α) (entries : List (α × β)) : List (α × β) :=
  entries.filter fun e => e.1 ≠ key

/-- Whether a key is present. -/
def contains (key : α) (entries : List (α × β)) : Bool :=
  (find? key entries).isSome

/-- The keys, in order. -/
def keys (entries : List (α × β)) : List α :=
  entries.map (·.1)

/-- The pairs put in one after the other. -/
def ofPairs (pairs : List (α × β)) : List (α × β) :=
  pairs.foldl (fun acc p => put p.1 p.2 acc) []

@[simp] theorem find?_nil (key : α) : find? key ([] : List (α × β)) = none := rfl

@[simp] theorem find?_put_self (key : α) (value : β) (entries : List (α × β)) :
    find? key (put key value entries) = some value := by
  induction entries with
  | nil => simp [put, find?]
  | cons e rest ih =>
    obtain ⟨k, v⟩ := e
    by_cases h : k = key <;> simp [put, find?, h, ih]

theorem find?_put_ne {key other : α} (h : other ≠ key) (value : β) (entries : List (α × β)) :
    find? other (put key value entries) = find? other entries := by
  induction entries with
  | nil => simp [put, find?, h.symm]
  | cons e rest ih =>
    obtain ⟨k, v⟩ := e
    by_cases hk : k = key
    · simp [put, find?, hk, h.symm]
    · simp only [put, hk, if_false, find?, ih]

@[simp] theorem find?_remove_self (key : α) (entries : List (α × β)) :
    find? key (remove key entries) = none := by
  induction entries with
  | nil => rfl
  | cons e rest ih =>
    obtain ⟨k, v⟩ := e
    by_cases h : k = key
    · simpa [remove, h] using ih
    · simpa [remove, find?, h] using ih

theorem find?_remove_ne {key other : α} (h : other ≠ key) (entries : List (α × β)) :
    find? other (remove key entries) = find? other entries := by
  induction entries with
  | nil => rfl
  | cons e rest ih =>
    obtain ⟨k, v⟩ := e
    by_cases hk : k = key
    · have hdrop : remove key ((k, v) :: rest) = remove key rest := by simp [remove, hk]
      have hne : k ≠ other := fun hko => h (hko.symm.trans hk)
      rw [hdrop, ih, find?, if_neg hne]
    · have hkeep : remove key ((k, v) :: rest) = (k, v) :: remove key rest := by
        simp [remove, hk]
      rw [hkeep, find?, find?, ih]

/-- A key that is not present is put in last. -/
theorem put_of_find?_eq_none {key : α} {value : β} {entries : List (α × β)}
    (h : find? key entries = none) : put key value entries = entries ++ [(key, value)] := by
  induction entries with
  | nil => rfl
  | cons e rest ih =>
    obtain ⟨k, v⟩ := e
    by_cases hk : k = key
    · rw [find?, if_pos hk] at h
      cases h
    · rw [find?, if_neg hk] at h
      rw [put, if_neg hk, ih h, List.cons_append]

/-- A part of the values that a replacement leaves as it was is the same after it. -/
theorem map_put_of_find?_eq_some {γ : Type} {key : α} {old value : β}
    {entries : List (α × β)} (f : β → γ) (h : find? key entries = some old) (hf : f value = f old) :
    ((put key value entries).map fun e => (e.1, f e.2)) = entries.map fun e => (e.1, f e.2) := by
  induction entries with
  | nil => cases h
  | cons e rest ih =>
    obtain ⟨k, v⟩ := e
    by_cases hk : k = key
    · rw [find?, if_pos hk, Option.some.injEq] at h
      rw [put, if_pos hk, List.map_cons, List.map_cons, hf, h, hk]
    · rw [find?, if_neg hk] at h
      rw [put, if_neg hk, List.map_cons, List.map_cons, ih h]

theorem mem_of_find?_eq_some {key : α} {value : β} {entries : List (α × β)}
    (h : find? key entries = some value) : (key, value) ∈ entries := by
  induction entries with
  | nil => cases h
  | cons e rest ih =>
    obtain ⟨k, v⟩ := e
    by_cases hk : k = key
    · rw [find?, if_pos hk, Option.some.injEq] at h
      rw [hk, h]
      exact List.mem_cons_self
    · rw [find?, if_neg hk] at h
      exact List.mem_cons_of_mem _ (ih h)

/-- After a pair has been put in, there are it and pairs that were there before. -/
theorem mem_put {key : α} {value : β} {entries : List (α × β)} {e : α × β}
    (h : e ∈ put key value entries) : e = (key, value) ∨ e ∈ entries := by
  induction entries with
  | nil => exact .inl (List.mem_singleton.mp h)
  | cons e' rest ih =>
    obtain ⟨k, v⟩ := e'
    by_cases hk : k = key
    · rw [put, if_pos hk] at h
      exact (List.mem_cons.mp h).imp_right (List.mem_cons_of_mem _)
    · rw [put, if_neg hk] at h
      obtain rfl | h := List.mem_cons.mp h
      · exact .inr List.mem_cons_self
      · exact (ih h).imp_right (List.mem_cons_of_mem _)

theorem find?_append (key : α) (first second : List (α × β)) :
    find? key (first ++ second) = (find? key first).or (find? key second) := by
  induction first with
  | nil => rfl
  | cons e rest ih =>
    obtain ⟨k, v⟩ := e
    by_cases h : k = key <;> simp [find?, h, ih]

/-! ## Keys -/

omit [DecidableEq α] in
@[simp] theorem keys_cons (e : α × β) (entries : List (α × β)) :
    keys (e :: entries) = e.1 :: keys entries := rfl

theorem find?_eq_none_iff {key : α} {entries : List (α × β)} :
    find? key entries = none ↔ key ∉ keys entries := by
  induction entries with
  | nil => simp [find?, keys]
  | cons e rest ih =>
    obtain ⟨k, v⟩ := e
    by_cases h : k = key
    · simp [find?, h]
    · have hne : ¬ key = k := fun hk => h hk.symm
      simpa [find?, h, hne] using ih

theorem isSome_find?_iff {key : α} {entries : List (α × β)} :
    (find? key entries).isSome = true ↔ key ∈ keys entries := by
  rw [Option.isSome_iff_ne_none, ne_eq, find?_eq_none_iff, Decidable.not_not]

/-- Putting a key leaves the keys as they are, or adds it at the end. -/
theorem keys_put (key : α) (value : β) (entries : List (α × β)) :
    keys (put key value entries) =
      if key ∈ keys entries then keys entries else keys entries ++ [key] := by
  induction entries with
  | nil => simp [put, keys]
  | cons e rest ih =>
    obtain ⟨k, v⟩ := e
    by_cases h : k = key
    · simp [put, h]
    · have hne : ¬ key = k := fun hk => h hk.symm
      simp only [put, h, if_false, keys_cons, ih, List.mem_cons, hne, false_or]
      split <;> simp

theorem length_put (key : α) (value : β) (entries : List (α × β)) :
    (put key value entries).length =
      if key ∈ keys entries then entries.length else entries.length + 1 := by
  have h := congrArg List.length (keys_put key value entries)
  rw [apply_ite List.length] at h
  simpa [keys] using h

theorem nodup_keys_put {key : α} {value : β} {entries : List (α × β)}
    (h : (keys entries).Nodup) : (keys (put key value entries)).Nodup := by
  rw [keys_put]
  split
  · exact h
  · next hnew =>
    rw [List.nodup_append]
    refine ⟨h, by simp, ?_⟩
    rintro a ha b hb rfl
    rw [List.mem_singleton] at hb
    exact hnew (hb ▸ ha)

theorem nodup_keys_remove {key : α} {entries : List (α × β)} (h : (keys entries).Nodup) :
    (keys (remove key entries)).Nodup :=
  h.sublist (List.filter_sublist.map _)

/-- Pairs of which no two have one key are all put in, in their order. -/
theorem ofPairs_of_nodup {pairs : List (α × β)} (h : (keys pairs).Nodup) :
    ofPairs pairs = pairs := by
  have hfold : ∀ (rest entries : List (α × β)), (keys (entries ++ rest)).Nodup →
      rest.foldl (fun acc p => put p.1 p.2 acc) entries = entries ++ rest := by
    intro rest
    induction rest with
    | nil => exact fun entries _ => (List.append_nil entries).symm
    | cons p rest ih =>
      intro entries h
      have hnew : find? p.1 entries = none := by
        rw [find?_eq_none_iff]
        rw [keys, List.map_append, List.nodup_append] at h
        exact fun hmem => h.2.2 p.1 hmem p.1 List.mem_cons_self rfl
      have hassoc : entries ++ p :: rest = entries ++ [p] ++ rest := by simp
      rw [hassoc] at h ⊢
      rw [List.foldl_cons, put_of_find?_eq_none hnew]
      exact ih _ h
  exact hfold pairs [] h

/-- Where no key occurs twice, every pair is found. -/
theorem find?_eq_some_of_mem {key : α} {value : β} {entries : List (α × β)}
    (h : (keys entries).Nodup) (hm : (key, value) ∈ entries) :
    find? key entries = some value := by
  induction entries with
  | nil => cases hm
  | cons e rest ih =>
    obtain ⟨k, v⟩ := e
    rw [keys_cons, List.nodup_cons] at h
    rcases List.mem_cons.mp hm with heq | hmem
    · cases heq
      simp [find?]
    · have hk : k ≠ key := by
        rintro rfl
        exact h.1 (List.mem_map.mpr ⟨_, hmem, rfl⟩)
      rw [find?, if_neg hk]
      exact ih h.2 hmem

end Recommender.Assoc
