import Recommender.Aggregate.Lookup

/-!
# Keys of lookups

The key of a lookup is its question, the user and the product type, joined by underscores.  Neither
questions nor users are free of underscores, so the key is read from its end: the name of a product
type has no underscore, and what stands before it begins with one of the questions of a family.
Within a family, different lookups therefore have different keys, in whatever way users are written.
-/

namespace Recommender

/-! ## The text of an identifier -/

theorem Uuid.digitChar_injective {d d' : Fin 16} (h : digitChar d = digitChar d') : d = d' := by
  revert d d'
  decide

theorem Uuid.digitChar_ne_hyphen (d : Fin 16) : digitChar d ≠ '-' := by
  revert d
  decide

theorem Uuid.filter_map_digitChar (ds : List (Fin 16)) :
    (ds.map digitChar).filter (· ≠ '-') = ds.map digitChar := by
  rw [List.filter_eq_self]
  intro c hc
  obtain ⟨d, -, rfl⟩ := List.mem_map.mp hc
  exact decide_eq_true (digitChar_ne_hyphen d)

/-- The groups in which the digits of an identifier are written are all of its digits. -/
theorem Uuid.groups_digits (u : Uuid) :
    (u.digits.drop 0).take 8 ++ ((u.digits.drop 8).take 4 ++ ((u.digits.drop 12).take 4 ++
      ((u.digits.drop 16).take 4 ++ (u.digits.drop 20).take 12))) = u.digits := by
  have hstep : ∀ i n, (u.digits.drop i).take n ++ u.digits.drop (i + n) = u.digits.drop i := by
    intro i n
    rw [← List.drop_drop, List.take_append_drop]
  have hlast : (u.digits.drop 20).take 12 = u.digits.drop 20 :=
    List.take_of_length_le (by simp [u.length_digits])
  rw [hlast, hstep 16 4, hstep 12 4, hstep 8 4, hstep 0 8, List.drop_zero]

/-- Without its hyphens the text of an identifier is its digits. -/
theorem Uuid.filter_chars (u : Uuid) :
    u.chars.filter (· ≠ '-') = u.digits.map digitChar := by
  have hhyphen : ∀ cs : List Char, ('-' :: cs).filter (· ≠ '-') = cs.filter (· ≠ '-') :=
    fun cs => List.filter_cons_of_neg (by simp)
  rw [← congrArg (List.map digitChar) u.groups_digits]
  simp only [chars, List.filter_append, hhyphen, filter_map_digitChar, List.map_append,
    List.append_assoc]

theorem Uuid.text_injective {u u' : Uuid} (h : u.text = u'.text) : u = u' := by
  have hchars : u.chars = u'.chars := String.ofList_injective h
  have hmap : u.digits.map digitChar = u'.digits.map digitChar := by
    rw [← filter_chars, ← filter_chars, hchars]
  have hdigits : u.digits = u'.digits :=
    (List.map_inj_right fun _ _ => digitChar_injective).mp hmap
  cases u
  cases u'
  cases hdigits
  rfl

/-! ## Text before a last separator -/

/-- Two lists that end in a separator and a part without it have equal parts. -/
theorem append_separator_inj {α : Type} {sep : α} {xs ys zs ws : List α} (hz : sep ∉ zs)
    (hw : sep ∉ ws) (h : xs ++ sep :: zs = ys ++ sep :: ws) : xs = ys ∧ zs = ws := by
  obtain ⟨as, hys, htail⟩ | ⟨bs, hxs, htail⟩ := List.append_eq_append_iff.mp h
  · cases as with
    | nil =>
        rw [List.nil_append, List.cons.injEq] at htail
        exact ⟨by rw [hys, List.append_nil], htail.2⟩
    | cons a as =>
        rw [List.cons_append, List.cons.injEq] at htail
        exact absurd (htail.2 ▸ List.mem_append_right as List.mem_cons_self) hz
  · cases bs with
    | nil =>
        rw [List.nil_append, List.cons.injEq] at htail
        exact ⟨by rw [hxs, List.append_nil], htail.2.symm⟩
    | cons b bs =>
        rw [List.cons_append, List.cons.injEq] at htail
        exact absurd (htail.2 ▸ List.mem_append_right bs List.mem_cons_self) hw

theorem toList_lookupKey (question user product : String) :
    (lookupKey question user product).toList =
      (question.toList ++ '_' :: user.toList) ++ '_' :: product.toList := by
  simp [lookupKey]

theorem underscore_notMem_name (p : Product) : '_' ∉ p.name.toList := by
  cases p <;> decide

/-- A key determines the product type, and the question with the user. -/
theorem lookupKey_inj {q q' u u' : String} {p p' : Product}
    (h : lookupKey q u p.name = lookupKey q' u' p'.name) :
    q.toList ++ '_' :: u.toList = q'.toList ++ '_' :: u'.toList ∧ p = p' := by
  have hlist := congrArg String.toList h
  rw [toList_lookupKey, toList_lookupKey] at hlist
  obtain ⟨hfront, hname⟩ :=
    append_separator_inj (underscore_notMem_name p) (underscore_notMem_name p') hlist
  exact ⟨hfront, Product.name_injective (String.toList_inj.mp hname)⟩

/-- The two questions of the family of sums differ before any user is named. -/
theorem sumQuestion_inj {d d' : Direction} {us us' : List Char}
    (h : ("sum_" ++ d.name).toList ++ '_' :: us = ("sum_" ++ d'.name).toList ++ '_' :: us') :
    d = d' ∧ us = us' := by
  cases d <;> cases d' <;> simp_all [Direction.name]

/-! ## Keys of lookups -/

namespace Lookup

/-- The direction of the transactions that a lookup sums up, if it is told one. -/
def direction? : Lookup → Option Direction
  | .turnover _ d _ => some d
  | _ => none

/-- The key of a lookup whose user is written in any way. -/
def keyFor (user : String) (l : Lookup) : String :=
  lookupKey l.question user l.product.name

theorem key_eq_keyFor (l : Lookup) : l.key = l.keyFor l.user.text := rfl

variable {l l' : Lookup}

/-- Within a family, the direction tells the question. -/
theorem question_congr (hf : l.family = l'.family) (hd : l.direction? = l'.direction?) :
    l.question = l'.question := by
  cases l <;> cases l' <;> cases hf
  case turnover.turnover =>
      rw [question, question, Option.some.inj hd]
  all_goals rfl

/-- Within a family, what stands before the product type determines the direction and the user. -/
theorem question_inj (hf : l.family = l'.family) {us us' : List Char}
    (h : l.question.toList ++ '_' :: us = l'.question.toList ++ '_' :: us') :
    l.direction? = l'.direction? ∧ us = us' := by
  cases l <;> cases l' <;> cases hf
  case turnover.turnover =>
      obtain ⟨hd, hus⟩ := sumQuestion_inj h
      exact ⟨congrArg some hd, hus⟩
  all_goals exact ⟨rfl, (List.cons.inj (List.append_cancel_left h)).2⟩

/-- A lookup is told by its family, its user, its product type and its direction. -/
theorem eq_of_parts (hf : l.family = l'.family) (hu : l.user = l'.user)
    (hp : l.product = l'.product) (hd : l.direction? = l'.direction?) : l = l' := by
  cases l <;> cases l' <;> cases hf <;> cases hu <;> cases hp <;> cases hd <;> rfl

/-- Within a family, a key determines the text of the user, the product type and the direction. -/
theorem keyFor_eq_iff (hf : l.family = l'.family) (user user' : String) :
    l.keyFor user = l'.keyFor user' ↔
      user = user' ∧ l.product = l'.product ∧ l.direction? = l'.direction? := by
  constructor
  · intro h
    obtain ⟨hfront, hproduct⟩ := lookupKey_inj h
    obtain ⟨hdirection, huser⟩ := question_inj hf hfront
    exact ⟨String.toList_inj.mp huser, hproduct, hdirection⟩
  · rintro ⟨rfl, hproduct, hdirection⟩
    rw [keyFor, keyFor, question_congr hf hdirection, hproduct]

/-- **Keys tell the lookups of a family apart.** -/
theorem eq_of_key_eq (hf : l.family = l'.family) (hk : l.key = l'.key) : l = l' := by
  rw [key_eq_keyFor, key_eq_keyFor] at hk
  obtain ⟨huser, hproduct, hdirection⟩ := (keyFor_eq_iff hf _ _).mp hk
  exact eq_of_parts hf (Uuid.text_injective huser) hproduct hdirection

/-- **Keys never collide.**  Two lookups that are remembered in one memo have the same key exactly
if their users, their product types and, where they sum up transactions of a direction, their
directions are the same.  This is so for users that are written in any way, as any texts, and hence
for users that are written as identifiers: then the lookups are the same. -/
theorem keys_never_collide (hf : l.family = l'.family) :
    (∀ user user' : String, l.keyFor user = l'.keyFor user' ↔
      user = user' ∧ l.product = l'.product ∧ l.direction? = l'.direction?) ∧
    (l.key = l'.key ↔ l = l') :=
  ⟨keyFor_eq_iff hf, eq_of_key_eq hf, congrArg key⟩

/-- Users whose texts hold the separator, a direction and a product type. -/
theorem keys_never_collide_underscores :
    (turnover .debit .deposit default).family = (turnover .saving .withdraw default).family ∧
      (turnover .debit .deposit default).keyFor "WITHDRAW_7_SAVING" ≠
        (turnover .saving .withdraw default).keyFor "7_DEBIT" ∧
      (turnover .debit .deposit default).keyFor "7_DEBIT" ≠
        (turnover .debit .deposit default).keyFor "7" ∧
      (turnover .debit .deposit default).key ≠ (turnover .debit .withdraw default).key := by
  have hf : (turnover .debit .deposit default).family = (turnover .saving .withdraw default).family :=
    rfl
  have hf' : (turnover .debit .deposit default).family = (turnover .debit .withdraw default).family :=
    rfl
  refine ⟨hf, fun h => ?_, fun h => ?_, fun h => ?_⟩
  · obtain ⟨-, hproduct, -⟩ := ((keys_never_collide hf).1 _ _).mp h
    cases hproduct
  · obtain ⟨huser, -⟩ := ((keys_never_collide rfl).1 _ _).mp h
    exact absurd huser (by decide)
  · cases (keys_never_collide hf').2.mp h

end Lookup

end Recommender
