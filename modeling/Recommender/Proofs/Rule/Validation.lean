import Recommender.Proofs.Number.Numeral
import Recommender.Rule.Clause

/-!
# How validation fails

A query of texts is either accepted, or rejected by a service error about a malformed request, with
one exception: a numeral of too many digits in an argument that is read as a whole number.  This
argument is read last, so the exception is met only where everything else about the query is right.
-/

namespace Recommender

/-- The operator and the arguments of a query are texts. -/
def Query.IsText (q : Query) : Prop :=
  ∃ operator arguments, q.operator = .str operator ∧ q.arguments = .ofStrings arguments

/-- A query compares a sum with a number of too many digits, and is right in everything else. -/
def Query.Overlong (q : Query) : Prop :=
  ∃ (p : Product) (d : Direction) (c : Comparison) (sign numeral : String),
    q.operator = .str Operator.sumCompare.name ∧
      q.arguments = .ofStrings [p.name, d.name, sign, numeral] ∧
      (sign = c.name ∨ sign = c.symbol) ∧ Numeral.Overlong numeral

/-! ## Failures of a sequence of steps -/

theorem bind_eq_error_iff {ε α β : Type} {x : Except ε α} {f : α → Except ε β} {e : ε} :
    x >>= f = .error e ↔ x = .error e ∨ ∃ a, x = .ok a ∧ f a = .error e := by
  cases x with
  | error e' => simp [bind, Except.bind]
  | ok a => simp [bind, Except.bind]

/-- Steps for each of several values succeed exactly if each of them does. -/
theorem exists_mapM_eq_ok_iff {ε α β : Type} {f : α → Except ε β} {l : List α} :
    (∃ bs, l.mapM f = .ok bs) ↔ ∀ a ∈ l, ∃ b, f a = .ok b := by
  induction l with
  | nil => simp [pure, Except.pure]
  | cons a rest ih =>
      rw [List.forall_mem_cons, ← ih, List.mapM_cons]
      cases f a with
      | error e => simp [bind, Except.bind]
      | ok b => cases rest.mapM f <;> simp [bind, Except.bind, pure, Except.pure]

/-- Of steps for several values, the first one that fails decides the failure. -/
theorem mapM_eq_error {ε α β : Type} {f : α → Except ε β} {before after : List α} {a : α} {e : ε}
    (hbefore : ∀ x ∈ before, ∃ b, f x = .ok b) (ha : f a = .error e) :
    (before ++ a :: after).mapM f = .error e := by
  induction before with
  | nil =>
      rw [List.nil_append, List.mapM_cons, ha]
      rfl
  | cons x rest ih =>
      rw [List.forall_mem_cons] at hbefore
      obtain ⟨b, hb⟩ := hbefore.1
      rw [List.cons_append, List.mapM_cons, hb]
      exact bind_eq_error_iff.mpr (.inr ⟨b, rfl, bind_eq_error_iff.mpr (.inl (ih hbefore.2))⟩)

namespace Token

theorem toProduct_str_eq_ok {s : String} {p : Product} :
    (value (.str s)).toProduct = .ok p ↔ s = p.name := by
  rw [← Product.ofName?_eq_some, toProduct]
  cases Product.ofName? s <;> simp

theorem toDirection_str_eq_ok {s : String} {d : Direction} :
    (value (.str s)).toDirection = .ok d ↔ s = d.name := by
  rw [← Direction.ofName?_eq_some, toDirection]
  cases Direction.ofName? s <;> simp

theorem toComparison_str_eq_ok {s : String} {c : Comparison} :
    (value (.str s)).toComparison = .ok c ↔ s = c.name ∨ s = c.symbol := by
  rw [← Comparison.ofText?_eq_some, toComparison]
  cases Comparison.ofText? s <;> simp

theorem toOperator_str_eq_ok {s : String} {o : Operator} :
    (value (.str s)).toOperator = .ok o ↔ s = o.name := by
  rw [← Operator.ofName?_eq_some, toOperator]
  cases Operator.ofName? s <;> simp

/-- A value that denotes no operator is reported as a malformed request. -/
theorem isBadRequest_of_toOperator {v : Json} {e : ServiceError}
    (h : (value v).toOperator = .error e) : e.isBadRequest = true := by
  unfold toOperator at h
  split at h
  · cases h
  · next s _ =>
    cases ho : Operator.ofName? s with
    | none =>
        rw [ho] at h
        cases h
        rfl
    | some o =>
        rw [ho] at h
        cases h
  · cases h
    rfl

/-- Where a value can be shown, the only failure of reading it as a whole number is a text of too
many digits. -/
theorem toInteger_eq_error_iff {v : Json} {e : Failure} (hv : v.isShowable = true) :
    (value v).toInteger = .error e ↔ e = .unreadable ∧ ∃ s, v = .str s ∧ Numeral.Overlong s := by
  constructor
  · intro h
    unfold toInteger at h
    rw [reported_of_isShowable hv] at h
    split at h
    · next s hs =>
      cases hs
      cases hr : Numeral.read s with
      | ok n =>
          rw [hr] at h
          cases h
      | error why =>
          rw [hr] at h
          cases why with
          | malformed => cases h
          | oversized =>
              cases h
              exact ⟨rfl, s, rfl, (Numeral.read_eq_oversized_iff s).mp hr⟩
    · cases h
  · rintro ⟨rfl, s, rfl, hs⟩
    simp only [toInteger, (Numeral.read_eq_oversized_iff s).mpr hs]

end Token

namespace Query

/-! ## Arguments -/

theorem argument_eq_ok {α : Type} {op : Operator} {i : Nat} {raw : Json}
    {reading : Except ServiceError α} {a : α} :
    argument op i raw reading = .ok a ↔ reading = .ok a := by
  cases reading with
  | ok b => simp [argument, Token.reported]
  | error why => cases hraw : (Token.value raw).isShowable <;> simp [argument, Token.reported, hraw]

/-- An argument that denotes nothing is reported as a malformed request, if it can be shown. -/
theorem isBadRequest_of_argument {α : Type} {op : Operator} {i : Nat} {raw : Json}
    (hraw : raw.isShowable = true) {reading : Except ServiceError α} {e : Failure}
    (h : argument op i raw reading = .error e) : e.isBadRequest = true := by
  rw [argument, Token.reported_of_isShowable hraw] at h
  cases reading with
  | ok a => cases h
  | error why =>
      cases h
      rfl

theorem argumentList_of_texts {q : Query} {arguments : List String}
    (h : q.arguments = .ofStrings arguments) : q.argumentList = .ok (arguments.map .str) := by
  rw [argumentList, h]
  cases arguments <;> simp [Json.ofStrings, Json.truthy, Json.items?]

/-- The last argument of a comparison with a sum has too many digits, and the others denote what
they should. -/
def OverlongArguments (op : Operator) (args : List Json) : Prop :=
  op = .sumCompare ∧ ∃ p d c s product direction comparison, args = [p, d, c, .str s] ∧
    (Token.value p).toProduct = .ok product ∧ (Token.value d).toDirection = .ok direction ∧
    (Token.value c).toComparison = .ok comparison ∧ Numeral.Overlong s

/-- Arguments that can be shown and are not right are a malformed request, unless the last one has
too many digits. -/
theorem condition_error_cases {op : Operator} {args : List Json} {e : Failure}
    (hargs : ∀ v ∈ args, v.isShowable = true) (h : condition op args = .error e) :
    e.isBadRequest = true ∨ e = .unreadable ∧ OverlongArguments op args := by
  unfold condition at h
  split at h
  · obtain h | ⟨p, -, h⟩ := bind_eq_error_iff.mp h
    · exact .inl (isBadRequest_of_argument (hargs _ (by simp)) h)
    · cases h
  · obtain h | ⟨p, -, h⟩ := bind_eq_error_iff.mp h
    · exact .inl (isBadRequest_of_argument (hargs _ (by simp)) h)
    · cases h
  · obtain h | ⟨p, hp, h⟩ := bind_eq_error_iff.mp h
    · exact .inl (isBadRequest_of_argument (hargs _ (by simp)) h)
    obtain h | ⟨d, hd, h⟩ := bind_eq_error_iff.mp h
    · exact .inl (isBadRequest_of_argument (hargs _ (by simp)) h)
    obtain h | ⟨c, hc, h⟩ := bind_eq_error_iff.mp h
    · exact .inl (isBadRequest_of_argument (hargs _ (by simp)) h)
    obtain h | ⟨reading, -, h⟩ := bind_eq_error_iff.mp h
    · obtain ⟨he, s, rfl, hs⟩ := (Token.toInteger_eq_error_iff (hargs _ (by simp))).mp h
      exact .inr ⟨he, rfl, _, _, _, s, p, d, c, rfl, argument_eq_ok.mp hp, argument_eq_ok.mp hd,
        argument_eq_ok.mp hc, hs⟩
    obtain h | ⟨n, -, h⟩ := bind_eq_error_iff.mp h
    · exact .inl (isBadRequest_of_argument (hargs _ (by simp)) h)
    · cases h
  · obtain h | ⟨p, -, h⟩ := bind_eq_error_iff.mp h
    · exact .inl (isBadRequest_of_argument (hargs _ (by simp)) h)
    obtain h | ⟨c, -, h⟩ := bind_eq_error_iff.mp h
    · exact .inl (isBadRequest_of_argument (hargs _ (by simp)) h)
    · cases h
  · cases h
    exact .inl rfl

theorem condition_of_overlongArguments {op : Operator} {args : List Json}
    (h : OverlongArguments op args) : condition op args = .error .unreadable := by
  obtain ⟨rfl, p, d, c, s, product, direction, comparison, rfl, hp, hd, hc, hs⟩ := h
  have hn : (Token.value (.str s)).toInteger = .error .unreadable :=
    (Token.toInteger_eq_error_iff rfl).mpr ⟨rfl, s, rfl, hs⟩
  simp only [condition, hp, hd, hc, hn, argument, Token.reported_ok]
  rfl

/-! ## Queries -/

/-- A query of texts is overlong exactly if its arguments are, for its operator. -/
theorem overlong_iff {q : Query} {op : Operator} {arguments : List String}
    (ho : q.operator = .str op.name) (ha : q.arguments = .ofStrings arguments) :
    q.Overlong ↔ OverlongArguments op (arguments.map .str) := by
  constructor
  · rintro ⟨p, d, c, sign, numeral, hop, hargs, hsign, hlong⟩
    rw [ho, Json.str.injEq] at hop
    rw [ha, Json.ofStrings, Json.ofStrings, Json.arr.injEq] at hargs
    refine ⟨Operator.name_injective hop, _, _, _, numeral, p, d, c, hargs, ?_, ?_, ?_, hlong⟩
    · exact Token.toProduct_name p
    · exact Token.toDirection_name d
    · exact Token.toComparison_str_eq_ok.mpr hsign
  · rintro ⟨rfl, p, d, c, s, product, direction, comparison, hargs, hp, hd, hc, hs⟩
    match arguments, hargs with
    | [p', d', c', s'], rfl =>
      refine ⟨product, direction, comparison, c', s', ho, ?_, ?_, hs⟩
      · rw [ha, Token.toProduct_str_eq_ok.mp hp, Token.toDirection_str_eq_ok.mp hd]
      · exact Token.toComparison_str_eq_ok.mp hc

/-- **How a query of texts is rejected**: as a malformed request, or for a numeral of too many
digits. -/
theorem validate_error_cases {q : Query} (hq : q.IsText) {e : Failure}
    (h : q.validate = .error e) : e.isBadRequest = true ∨ e = .unreadable ∧ q.Overlong := by
  obtain ⟨operator, arguments, ho, ha⟩ := hq
  unfold validate at h
  rw [ho, Token.reported_str] at h
  cases hop : (Token.value (.str operator)).toOperator with
  | error why =>
      rw [hop] at h
      cases h
      exact .inl (Token.isBadRequest_of_toOperator hop)
  | ok op =>
      rw [hop] at h
      rw [Token.toOperator_str_eq_ok.mp hop] at ho
      simp only [argumentList_of_texts ha] at h
      obtain h | ⟨args, hargs, h⟩ := bind_eq_error_iff.mp h
      · cases h
      cases hargs
      obtain h | ⟨condition, -, h⟩ := bind_eq_error_iff.mp h
      · rw [overlong_iff ho ha]
        exact condition_error_cases (by simp) h
      · cases h

theorem validate_of_overlong {q : Query} (h : q.Overlong) : q.validate = .error .unreadable := by
  obtain ⟨_, _, _, _, _, ho, ha, -⟩ := id h
  have hargs := condition_of_overlongArguments ((overlong_iff ho ha).mp h)
  simp only [validate, ho, Token.toOperator_name, Token.reported_ok, argumentList_of_texts ha]
  exact bind_eq_error_iff.mpr (.inr ⟨_, rfl, bind_eq_error_iff.mpr (.inl hargs)⟩)

end Query

end Recommender
