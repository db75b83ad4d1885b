import Mathlib.Data.List.Forall2
import Recommender.Proofs.Rule.Validation

/-!
# The query language

A text *denotes* a value in a slot: a product type and a direction by their names, a comparison by
its name or its symbol, a whole number by a numeral that is not too long.  A query of texts is
validated by its operator, then by the number of its arguments, then by the arguments from the first
to the last; the first of these checks that fails decides the error.  A rule is validated query by
query.

The arguments of a query are read operator by operator.  This is the same as reading them slot by
slot, as the operator declares its slots.
-/

namespace Recommender

/-- A text denotes a value in a slot. -/
inductive Slot.Denotes : Slot → String → Argument → Prop where
  | product (p : Product) : Denotes .product p.name (.product p)
  | direction (d : Direction) : Denotes .direction d.name (.direction d)
  | comparisonName (c : Comparison) : Denotes .comparison c.name (.comparison c)
  | comparisonSymbol (c : Comparison) : Denotes .comparison c.symbol (.comparison c)
  | integer {s : String} {negative : Bool} {digits : List Char}
      (spells : Numeral.Spells s negative digits) (fits : digits.length ≤ Numeral.maxDigits) :
      Denotes .integer s (.integer (Numeral.signedValue negative digits))

/-- The error of a text that denotes nothing in a slot. -/
def Slot.unknown : Slot → String → ServiceError
  | .product, s => .unknownProduct s
  | .direction, s => .unknownDirection s
  | .comparison, s => .unknownComparison s
  | .integer, s => .notInteger s

/-- Texts denote values, each in its slot. -/
inductive DenoteAll : List Slot → List String → List Argument → Prop where
  | nil : DenoteAll [] [] []
  | cons {slot : Slot} {text : String} {value : Argument} {slots : List Slot}
      {texts : List String} {values : List Argument} (first : slot.Denotes text value)
      (others : DenoteAll slots texts values) :
      DenoteAll (slot :: slots) (text :: texts) (value :: values)

/-- Among texts for slots, the one at a position is the first that denotes nothing. -/
inductive FirstWrong (slot : Slot) (text : String) : List Slot → List String → Nat → Prop where
  | here {slots : List Slot} {texts : List String} (h : ∀ value, ¬ slot.Denotes text value) :
      FirstWrong slot text (slot :: slots) (text :: texts) 0
  | later {slot' : Slot} {text' : String} {value' : Argument} {slots : List Slot}
      {texts : List String} {position : Nat} (first : slot'.Denotes text' value')
      (others : FirstWrong slot text slots texts position) :
      FirstWrong slot text (slot' :: slots) (text' :: texts) (position + 1)

/-- A text is a numeral of too many digits where a whole number is wanted. -/
def Slot.Overflows (slot : Slot) (text : String) : Prop :=
  slot = .integer ∧ Numeral.Overlong text

/-- How a query of texts is validated: the first check that fails decides. -/
inductive Query.Validated (operator : String) (arguments : List String) (negate : Bool) :
    Except Failure Clause → Prop where
  | accepted {condition : Condition} (hop : operator = condition.operator.name)
      (hargs : DenoteAll condition.operator.slots arguments condition.arguments) :
      Validated operator arguments negate (.ok ⟨condition, negate⟩)
  | unknownOperator (hop : ∀ op : Operator, operator ≠ op.name) :
      Validated operator arguments negate (.error (.service (.unknownOperator operator)))
  | wrongCount {op : Operator} (hop : operator = op.name)
      (hcount : arguments.length ≠ op.slots.length) :
      Validated operator arguments negate (.error (.service (.illegalArguments op.name
        ("expected " ++ toString op.slots.length ++ " argument(s), got " ++
          toString arguments.length)
        [("expected", .int op.slots.length), ("actual", .int arguments.length)] none)))
  | wrongArgument {op : Operator} {slot : Slot} {text : String} {position : Nat}
      (hop : operator = op.name) (hcount : arguments.length = op.slots.length)
      (hfirst : FirstWrong slot text op.slots arguments position) (hfits : ¬ slot.Overflows text) :
      Validated operator arguments negate (.error (.service (.illegalArguments op.name
        (slot.unknown text).message [("position", .int position), ("value", .str text)]
        (some (slot.unknown text)))))
  | overlong {op : Operator} {slot : Slot} {text : String} {position : Nat}
      (hop : operator = op.name) (hcount : arguments.length = op.slots.length)
      (hfirst : FirstWrong slot text op.slots arguments position) (hlong : slot.Overflows text) :
      Validated operator arguments negate (.error .unreadable)

/-- How a rule is validated: the first query that is not accepted decides. -/
inductive Rule.Validated (r : Rule) : Except Failure (List Clause) → Prop where
  | accepted {clauses : List Clause}
      (h : List.Forall₂ (fun q clause => q.validate = .ok clause) r.queryList clauses) :
      Validated r (.ok clauses)
  | rejected {before after : List Query} {q : Query} {clauses : List Clause} {why : Failure}
      (h : r.queryList = before ++ q :: after)
      (hbefore : List.Forall₂ (fun q clause => q.validate = .ok clause) before clauses)
      (hq : q.validate = .error why) : Validated r (.error why)

/-! ## Single arguments -/

/-- Read an argument in a slot. -/
def Slot.read (op : Operator) (position : Nat) : Slot → Json → Except Failure Argument
  | .product, v => (Query.argument op position v (Token.value v).toProduct).map .product
  | .direction, v => (Query.argument op position v (Token.value v).toDirection).map .direction
  | .comparison, v => (Query.argument op position v (Token.value v).toComparison).map .comparison
  | .integer, v =>
    (Token.value v).toInteger.bind fun reading =>
      (Query.argument op position v reading).map .integer

section

variable {slot : Slot} {text : String} {value : Argument}

/-- A text that denotes a value is read as this value. -/
theorem Slot.Denotes.read (h : slot.Denotes text value) (op : Operator) (position : Nat) :
    slot.read op position (.str text) = .ok value := by
  cases h with
  | product p => simp [Slot.read, Query.argument, Except.map]
  | direction d => simp [Slot.read, Query.argument, Except.map]
  | comparisonName c => simp [Slot.read, Query.argument, Except.map]
  | comparisonSymbol c => simp [Slot.read, Query.argument, Except.map]
  | @integer _ negative digits spells fits =>
      have hread : Numeral.read text = .ok (Numeral.signedValue negative digits) :=
        (Numeral.read_eq_ok_iff _ _).mpr ⟨negative, digits, spells, fits, rfl⟩
      simp only [Slot.read, Token.toInteger, hread]
      rfl

/-- A text that denotes nothing is reported as what is unknown about it. -/
theorem Slot.read_of_unknown (h : ∀ value, ¬ slot.Denotes text value)
    (hfits : ¬ slot.Overflows text) (op : Operator) (position : Nat) :
    slot.read op position (.str text) =
      .error (Query.wrongArgument op position (.str text) (slot.unknown text)) := by
  cases slot with
  | product =>
      cases hp : Product.ofName? text with
      | some p =>
          rw [Product.ofName?_eq_some] at hp
          exact absurd (hp ▸ .product p) (h (.product p))
      | none =>
          simp only [Slot.read, Token.toProduct, hp]
          rfl
  | direction =>
      cases hd : Direction.ofName? text with
      | some d =>
          rw [Direction.ofName?_eq_some] at hd
          exact absurd (hd ▸ .direction d) (h (.direction d))
      | none =>
          simp only [Slot.read, Token.toDirection, hd]
          rfl
  | comparison =>
      cases hc : Comparison.ofText? text with
      | some c =>
          rcases Comparison.ofText?_eq_some.mp hc with rfl | rfl
          · exact absurd (.comparisonName c) (h (.comparison c))
          · exact absurd (.comparisonSymbol c) (h (.comparison c))
      | none =>
          simp only [Slot.read, Token.toComparison, hc]
          rfl
  | integer =>
      cases hn : Numeral.read text with
      | ok n =>
          obtain ⟨negative, digits, spells, fits, -⟩ := (Numeral.read_eq_ok_iff _ _).mp hn
          exact absurd (.integer spells fits) (h _)
      | error why =>
          cases why with
          | malformed =>
              simp only [Slot.read, Token.toInteger, hn]
              rfl
          | oversized => exact absurd ⟨rfl, (Numeral.read_eq_oversized_iff text).mp hn⟩ hfits

theorem Slot.Overflows.read (h : slot.Overflows text) (op : Operator) (position : Nat) :
    slot.read op position (.str text) = .error .unreadable := by
  obtain ⟨rfl, hlong⟩ := h
  simp only [Slot.read, Token.toInteger, (Numeral.read_eq_oversized_iff text).mpr hlong]
  rfl

end

/-! ## Lists of arguments -/

/-- Read arguments slot by slot, from a position on. -/
def readSlots (op : Operator) : (position : Nat) → List Slot → List Json →
    Except Failure (List Argument)
  | position, slot :: slots, v :: args =>
    (slot.read op position v).bind fun value =>
      (readSlots op (position + 1) slots args).map (value :: ·)
  | _, _, _ => .ok []

section

variable {slots : List Slot} {texts : List String} {values : List Argument}

theorem DenoteAll.length_eq (h : DenoteAll slots texts values) : texts.length = slots.length := by
  induction h with
  | nil => rfl
  | cons first others ih => rw [List.length_cons, ih, List.length_cons]

theorem DenoteAll.readSlots (h : DenoteAll slots texts values) (op : Operator) (position : Nat) :
    readSlots op position slots (texts.map .str) = .ok values := by
  induction h generalizing position with
  | nil => rfl
  | cons first others ih =>
      rw [List.map_cons, Recommender.readSlots, first.read, Except.bind, ih]
      rfl

/-- Where one text is the first that denotes nothing, reading fails as it fails for this text. -/
theorem FirstWrong.readSlots {slot : Slot} {text : String} {position : Nat}
    (h : FirstWrong slot text slots texts position) {op : Operator} {start : Nat} {why : Failure}
    (hread : slot.read op (start + position) (.str text) = .error why) :
    readSlots op start slots (texts.map .str) = .error why := by
  induction h generalizing start with
  | here _ =>
      rw [List.map_cons, Recommender.readSlots]
      rw [Nat.add_zero] at hread
      rw [hread]
      rfl
  | later first others ih =>
      rw [Nat.add_comm _ 1, ← Nat.add_assoc] at hread
      rw [List.map_cons, Recommender.readSlots, first.read, Except.bind, ih hread]
      rfl

theorem FirstWrong.not_denotes {slot : Slot} {text : String} {position : Nat}
    (h : FirstWrong slot text slots texts position) (value : Argument) :
    ¬ slot.Denotes text value := by
  induction h with
  | here h => exact h value
  | later _ _ ih => exact ih

/-- As many texts as slots denote values, or one of them is the first that denotes nothing. -/
theorem denoteAll_or_firstWrong {slots : List Slot} {texts : List String}
    (h : texts.length = slots.length) :
    (∃ values, DenoteAll slots texts values) ∨
      ∃ slot text position, FirstWrong slot text slots texts position := by
  induction slots generalizing texts with
  | nil =>
      rw [List.length_eq_zero_iff.mp h]
      exact .inl ⟨[], .nil⟩
  | cons slot slots ih =>
      cases texts with
      | nil => cases h
      | cons text texts =>
          by_cases hfirst : ∃ value, slot.Denotes text value
          · obtain ⟨value, hvalue⟩ := hfirst
            obtain ⟨values, hvalues⟩ | ⟨slot', text', position, hlater⟩ := ih (Nat.succ.inj h)
            · exact .inl ⟨value :: values, .cons hvalue hvalues⟩
            · exact .inr ⟨slot', text', position + 1, .later hvalue hlater⟩
          · exact .inr ⟨slot, text, 0, .here fun value hvalue => hfirst ⟨value, hvalue⟩⟩

end

/-! ## Conditions -/

/-- A condition is known by its operator and its arguments. -/
theorem Condition.eq_of_arguments_eq {c c' : Condition} (hop : c.operator = c'.operator)
    (hargs : c.arguments = c'.arguments) : c = c' := by
  cases c <;> cases c' <;> simp_all [operator, arguments]

/-- Values that are denoted in the slots of an operator are the arguments of a condition. -/
theorem DenoteAll.exists_condition {op : Operator} {texts : List String} {values : List Argument}
    (h : DenoteAll op.slots texts values) :
    ∃ c : Condition, c.operator = op ∧ c.arguments = values := by
  cases op with
  | userOf =>
      obtain _ | ⟨hp, ⟨⟩⟩ := h
      cases hp with
      | product p => exact ⟨.userOf p, rfl, rfl⟩
  | activeUserOf =>
      obtain _ | ⟨hp, ⟨⟩⟩ := h
      cases hp with
      | product p => exact ⟨.activeUserOf p, rfl, rfl⟩
  | sumCompare =>
      obtain _ | ⟨hp, _ | ⟨hd, _ | ⟨hc, _ | ⟨hn, ⟨⟩⟩⟩⟩⟩ := h
      cases hp with
      | product p =>
        cases hd with
        | direction d =>
          cases hn with
          | integer spells fits =>
            cases hc with
            | comparisonName c => exact ⟨.sumCompare p d c _, rfl, rfl⟩
            | comparisonSymbol c => exact ⟨.sumCompare p d c _, rfl, rfl⟩
  | depositWithdrawCompare =>
      obtain _ | ⟨hp, _ | ⟨hc, ⟨⟩⟩⟩ := h
      cases hp with
      | product p =>
        cases hc with
        | comparisonName c => exact ⟨.depositWithdrawCompare p c, rfl, rfl⟩
        | comparisonSymbol c => exact ⟨.depositWithdrawCompare p c, rfl, rfl⟩

namespace Query

/-- Arguments are read slot by slot, if they are as many as the slots. -/
theorem condition_eq_readSlots (op : Operator) (args : List Json) :
    (condition op args).map (fun c => (c.operator, c.arguments)) =
      if args.length = op.slots.length then (readSlots op 0 op.slots args).map (op, ·)
      else .error (wrongCount op args.length) := by
  cases op with
  | userOf =>
      rcases args with _ | ⟨p, _ | ⟨_, _⟩⟩
      · rfl
      · simp only [condition, Operator.slots, readSlots, Slot.read]
        rcases argument .userOf 0 p (Token.value p).toProduct with _ | product <;> rfl
      · rfl
  | activeUserOf =>
      rcases args with _ | ⟨p, _ | ⟨_, _⟩⟩
      · rfl
      · simp only [condition, Operator.slots, readSlots, Slot.read]
        rcases argument .activeUserOf 0 p (Token.value p).toProduct with _ | product <;> rfl
      · rfl
  | sumCompare =>
      rcases args with _ | ⟨p, _ | ⟨d, _ | ⟨c, _ | ⟨n, _ | ⟨_, _⟩⟩⟩⟩⟩
      · rfl
      · rfl
      · rfl
      · rfl
      · simp only [condition, Operator.slots, readSlots, Slot.read, Nat.zero_add, Nat.reduceAdd]
        rcases argument .sumCompare 0 p (Token.value p).toProduct with _ | product
        · rfl
        rcases argument .sumCompare 1 d (Token.value d).toDirection with _ | direction
        · rfl
        rcases argument .sumCompare 2 c (Token.value c).toComparison with _ | comparison
        · rfl
        rcases (Token.value n).toInteger with _ | reading
        · rfl
        simp only [bind, Except.bind]
        rcases argument .sumCompare 3 n reading with _ | constant <;> rfl
      · rfl
  | depositWithdrawCompare =>
      rcases args with _ | ⟨p, _ | ⟨c, _ | ⟨_, _⟩⟩⟩
      · rfl
      · rfl
      · simp only [condition, Operator.slots, readSlots, Slot.read]
        rcases argument .depositWithdrawCompare 0 p (Token.value p).toProduct with _ | product
        · rfl
        rcases argument .depositWithdrawCompare 1 c (Token.value c).toComparison with _ | comp <;>
          rfl
      · rfl

theorem condition_of_denoteAll {c : Condition} {texts : List String}
    (h : DenoteAll c.operator.slots texts c.arguments) :
    condition c.operator (texts.map .str) = .ok c := by
  have hslots := condition_eq_readSlots c.operator (texts.map .str)
  rw [List.length_map, if_pos h.length_eq, h.readSlots] at hslots
  cases hc : condition c.operator (texts.map .str) with
  | error why =>
      rw [hc] at hslots
      cases hslots
  | ok c' =>
      rw [hc] at hslots
      injection hslots with hslots
      injection hslots with hop hargs
      rw [Condition.eq_of_arguments_eq hop hargs]

theorem condition_of_length_ne {op : Operator} {args : List Json}
    (h : args.length ≠ op.slots.length) :
    condition op args = .error (wrongCount op args.length) := by
  have hslots := condition_eq_readSlots op args
  rw [if_neg h] at hslots
  cases hc : condition op args with
  | error why =>
      rw [hc] at hslots
      injection hslots with hslots
      rw [hslots]
  | ok c =>
      rw [hc] at hslots
      cases hslots

theorem condition_of_firstWrong {op : Operator} {slot : Slot} {text : String} {position : Nat}
    {texts : List String} (hcount : texts.length = op.slots.length)
    (hfirst : FirstWrong slot text op.slots texts position) {why : Failure}
    (hread : slot.read op position (.str text) = .error why) :
    condition op (texts.map .str) = .error why := by
  have hslots := condition_eq_readSlots op (texts.map .str)
  rw [← Nat.zero_add position] at hread
  rw [List.length_map, if_pos hcount, hfirst.readSlots hread] at hslots
  cases hc : condition op (texts.map .str) with
  | error why' =>
      rw [hc] at hslots
      injection hslots with hslots
      rw [hslots]
  | ok c =>
      rw [hc] at hslots
      cases hslots

/-! ## Queries -/

variable {operator : String} {arguments : List String} {negate : Bool}
  {outcome : Except Failure Clause}

/-- Where the operator is known, the arguments of a query of texts decide. -/
theorem validate_of_name (hop : operator = op.name) (arguments : List String) (negate : Bool) :
    (ofTexts operator arguments negate).validate =
      (condition op (arguments.map .str)).map (⟨·, negate⟩) := by
  have hargs : (ofTexts operator arguments negate).argumentList = .ok (arguments.map .str) :=
    argumentList_of_texts rfl
  have hknown : (Token.value (ofTexts operator arguments negate).operator).toOperator = .ok op :=
    Token.toOperator_str_eq_ok.mpr hop
  rw [validate, hknown, hargs, Token.reported_ok]
  cases h : condition op (arguments.map .str) <;> simp only [bind, Except.bind, h] <;> rfl

/-- A query is validated as the query language says. -/
theorem Validated.validate_eq (h : Validated operator arguments negate outcome) :
    (ofTexts operator arguments negate).validate = outcome := by
  cases h with
  | accepted hop hargs =>
      rw [validate_of_name hop, condition_of_denoteAll hargs]
      rfl
  | unknownOperator hop =>
      cases ho : Operator.ofName? operator with
      | some op => exact absurd (Operator.ofName?_eq_some.mp ho) (hop op)
      | none =>
          simp only [validate, ofTexts, Token.toOperator, ho]
          rfl
  | wrongCount hop hcount =>
      rw [validate_of_name hop, condition_of_length_ne (by rwa [List.length_map])]
      rw [List.length_map]
      rfl
  | wrongArgument hop hcount hfirst hfits =>
      rw [validate_of_name hop, condition_of_firstWrong hcount hfirst
        (Slot.read_of_unknown hfirst.not_denotes hfits _ _)]
      rfl
  | overlong hop hcount hfirst hlong =>
      rw [validate_of_name hop, condition_of_firstWrong hcount hfirst (hlong.read _ _)]
      rfl

/-- Every query of texts is validated in one of the ways of the query language. -/
theorem exists_validated (operator : String) (arguments : List String) (negate : Bool) :
    ∃ outcome, Validated operator arguments negate outcome := by
  by_cases hknown : ∃ op : Operator, operator = op.name
  · obtain ⟨op, hop⟩ := hknown
    by_cases hcount : arguments.length = op.slots.length
    · obtain ⟨values, hargs⟩ | ⟨slot, text, position, hfirst⟩ := denoteAll_or_firstWrong hcount
      · obtain ⟨c, rfl, rfl⟩ := hargs.exists_condition
        exact ⟨_, .accepted hop hargs⟩
      · by_cases hlong : slot.Overflows text
        · exact ⟨_, .overlong hop hcount hfirst hlong⟩
        · exact ⟨_, .wrongArgument hop hcount hfirst hlong⟩
    · exact ⟨_, .wrongCount hop hcount⟩
  · exact ⟨_, .unknownOperator fun op hop => hknown ⟨op, hop⟩⟩

theorem validate_eq_iff_validated :
    (ofTexts operator arguments negate).validate = outcome ↔
      Validated operator arguments negate outcome := by
  constructor
  · rintro rfl
    obtain ⟨outcome, h⟩ := exists_validated operator arguments negate
    rwa [h.validate_eq]
  · exact Validated.validate_eq

/-- A query is accepted exactly if it belongs to the query language. -/
theorem exists_validate_eq_ok_iff :
    (∃ clause, (ofTexts operator arguments negate).validate = .ok clause) ↔
      ∃ (op : Operator) (values : List Argument), operator = op.name ∧
        arguments.length = op.slots.length ∧ DenoteAll op.slots arguments values := by
  simp only [validate_eq_iff_validated]
  constructor
  · rintro ⟨clause, h⟩
    cases h with
    | accepted hop hargs => exact ⟨_, _, hop, hargs.length_eq, hargs⟩
  · rintro ⟨op, values, hop, -, hargs⟩
    obtain ⟨c, rfl, rfl⟩ := hargs.exists_condition
    exact ⟨_, .accepted hop hargs⟩

end Query

/-! ## Rules -/

/-- Steps for several values succeed with the results of the single steps, in their order. -/
theorem mapM_eq_ok_iff {ε α β : Type} {f : α → Except ε β} {l : List α} {bs : List β} :
    l.mapM f = .ok bs ↔ List.Forall₂ (fun a b => f a = .ok b) l bs := by
  induction l generalizing bs with
  | nil => simp [pure, Except.pure, eq_comm]
  | cons a rest ih =>
      rw [List.mapM_cons, List.forall₂_cons_left_iff]
      simp only [← ih]
      cases f a with
      | error e => simp [bind, Except.bind]
      | ok b => cases rest.mapM f <;> simp [bind, Except.bind, pure, Except.pure, eq_comm]

/-- Steps for several values fail at a first one that fails. -/
theorem exists_first_of_mapM_eq_error {ε α β : Type} {f : α → Except ε β} {l : List α} {e : ε}
    (h : l.mapM f = .error e) :
    ∃ before a after bs, l = before ++ a :: after ∧
      List.Forall₂ (fun a b => f a = .ok b) before bs ∧ f a = .error e := by
  induction l with
  | nil => cases h
  | cons a rest ih =>
      rw [List.mapM_cons] at h
      obtain h | ⟨b, hb, h⟩ := bind_eq_error_iff.mp h
      · exact ⟨[], a, rest, [], rfl, .nil, h⟩
      obtain h | ⟨bs, -, h⟩ := bind_eq_error_iff.mp h
      · obtain ⟨before, a', after, bs, rfl, hbefore, ha'⟩ := ih h
        exact ⟨a :: before, a', after, b :: bs, rfl, .cons hb hbefore, ha'⟩
      · cases h

theorem exists_of_forall₂ {α β : Type} {R : α → β → Prop} {l : List α} {bs : List β}
    (h : List.Forall₂ R l bs) : ∀ a ∈ l, ∃ b, R a b := by
  induction h with
  | nil => exact nofun
  | cons hab _ ih => exact List.forall_mem_cons.mpr ⟨⟨_, hab⟩, ih⟩

theorem Rule.validate_eq_iff_validated {r : Rule} {outcome : Except Failure (List Clause)} :
    r.validate = outcome ↔ r.Validated outcome := by
  constructor
  · intro h
    cases outcome with
    | ok clauses => exact .accepted (mapM_eq_ok_iff.mp h)
    | error why =>
        obtain ⟨before, q, after, clauses, hl, hbefore, hq⟩ := exists_first_of_mapM_eq_error h
        exact .rejected hl hbefore hq
  · intro h
    cases h with
    | accepted h => exact mapM_eq_ok_iff.mpr h
    | rejected h hbefore hq =>
        rw [Rule.validate, h]
        exact mapM_eq_error (exists_of_forall₂ hbefore) hq

/-- **Validation reads the query language.**  Every query of texts is validated in one way: it is
accepted, with the value of every argument in order, exactly if its operator is known, its arguments
are as many as the slots, and each of them denotes a value in its slot; otherwise the first of these
checks that fails is reported.  A rule is validated as its queries are, up to the first one that is
not accepted. -/
theorem validation_reads_the_language :
    (∀ operator arguments negate outcome,
      (Query.ofTexts operator arguments negate).validate = outcome ↔
        Query.Validated operator arguments negate outcome) ∧
    (∀ operator arguments negate,
      (∃ clause, (Query.ofTexts operator arguments negate).validate = .ok clause) ↔
        ∃ (op : Operator) (values : List Argument), operator = op.name ∧
          arguments.length = op.slots.length ∧ DenoteAll op.slots arguments values) ∧
    ∀ (r : Rule) outcome, r.validate = outcome ↔ r.Validated outcome :=
  ⟨fun _ _ _ _ => Query.validate_eq_iff_validated, fun _ _ _ => Query.exists_validate_eq_ok_iff,
    fun _ _ => Rule.validate_eq_iff_validated⟩

end Recommender
