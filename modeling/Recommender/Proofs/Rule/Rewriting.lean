import Recommender.Proofs.Rule.Judgement
import Recommender.Proofs.Rule.Language

/-!
# Other ways to write a rule

A comparison and its *complement* decide each other: of two whole numbers, exactly one of them
holds.  So a query that compares sums says the same with the complement of its comparison if its
negation is flipped as well.  It also says the same in other texts for its arguments: a comparison
has a name and a symbol, a whole number has many numerals.

A rule some of whose queries are rewritten so is evaluated as before: with the same verdict and
reason, or the same failure, after the same lookups with the same answers.
-/

namespace Recommender

/-- The comparison of whole numbers that holds exactly where another one does not, if the language
has it. -/
def Comparison.complement? : Comparison → Option Comparison
  | .greater => some .lessOrEquals
  | .less => some .greaterOrEquals
  | .equals => none
  | .greaterOrEquals => some .less
  | .lessOrEquals => some .greater

/-- A condition on sums with its comparison turned into the complement. -/
def Condition.complement? : Condition → Option Condition
  | .sumCompare p d c n => c.complement?.map fun c => .sumCompare p d c n
  | .depositWithdrawCompare p c => c.complement?.map fun c => .depositWithdrawCompare p c
  | .userOf _ | .activeUserOf _ => none

/-- A query expresses a condition: by the name of its operator, and by a text for each of its
arguments that denotes it. -/
def Query.Expresses (q : Query) (condition : Condition) : Prop :=
  q.operator = .str condition.operator.name ∧ ∃ texts : List String,
    q.argumentList = .ok (texts.map .str) ∧
      DenoteAll condition.operator.slots texts condition.arguments

/-- One query is another one, possibly rewritten. -/
inductive Query.Rewritten : Query → Query → Prop where
  /-- The query is left as it is. -/
  | kept (q : Query) : Rewritten q q
  /-- The condition of the query is expressed in other texts. -/
  | respelled {q q' : Query} {condition : Condition} (before : q.Expresses condition)
      (after : q'.Expresses condition) (hnegate : q'.negate.truthy = q.negate.truthy) :
      Rewritten q q'
  /-- The comparison of the query is turned into its complement, and the negation is flipped. -/
  | inverted {q q' : Query} {condition complement : Condition}
      (h : condition.complement? = some complement) (before : q.Expresses condition)
      (after : q'.Expresses complement) (hnegate : q'.negate.truthy = !q.negate.truthy) :
      Rewritten q q'

/-- Whether a lookup asks for a sum. -/
def Lookup.isSum : Lookup → Bool
  | .usage .. | .activity .. => false
  | .turnover .. | .deposits .. | .withdrawals .. => true

/-- In every state that has an invariant, a provider gives only whole numbers for sums; it keeps the
invariant. -/
structure GivesWholeSums {σ : Type} (c : Program.Collaborator Judgement σ) (Inv : σ → Prop) :
    Prop where
  whole : ∀ l s v, Inv s → l.isSum = true → (c.answer l s).1 = .ok v → ∃ n : Int, v = .int n
  kept : ∀ l s, Inv s → Inv (c.answer l s).2

/-! ## Valid queries -/

theorem Token.eq_str_of_toOperator_eq_ok {v : Json} {op : Operator}
    (h : (value v).toOperator = .ok op) : v = .str op.name := by
  cases v with
  | str s => rw [toOperator_str_eq_ok.mp h]
  | _ => cases h

/-- Nothing but a text denotes a value in a slot, whether this can be reported or not. -/
theorem Slot.read_ne_ok {v : Json} (hv : ∀ s, v ≠ .str s) (slot : Slot) (op : Operator)
    (position : Nat) (value : Argument) : slot.read op position v ≠ .ok value := by
  intro h
  cases hshown : v.isShowable <;> cases v
  all_goals first
    | exact hv _ rfl
    | cases slot <;> simp [read, Query.argument, Token.reported, Token.isShowable, hshown,
        Token.toProduct, Token.toDirection, Token.toComparison, Token.toInteger, Except.map,
        Except.bind] at h

/-- Only a text that denotes a value in a slot is read as this value. -/
theorem Slot.exists_of_read_eq_ok {slot : Slot} {op : Operator} {position : Nat} {v : Json}
    {value : Argument} (h : slot.read op position v = .ok value) :
    ∃ text, v = .str text ∧ slot.Denotes text value := by
  cases v with
  | str text =>
      by_cases hdenotes : ∃ value, slot.Denotes text value
      · obtain ⟨value', hvalue⟩ := hdenotes
        rw [hvalue.read] at h
        cases h
        exact ⟨text, rfl, hvalue⟩
      · have hunknown : ∀ value, ¬ slot.Denotes text value :=
          fun value hvalue => hdenotes ⟨value, hvalue⟩
        by_cases hlong : slot.Overflows text
        · rw [hlong.read] at h
          cases h
        · rw [Slot.read_of_unknown hunknown hlong] at h
          cases h
  | _ => exact absurd h (Slot.read_ne_ok (fun _ hv => by cases hv) slot op position value)

theorem exists_of_readSlots_eq_ok {op : Operator} {position : Nat} {slots : List Slot}
    {args : List Json} {values : List Argument} (hcount : args.length = slots.length)
    (h : readSlots op position slots args = .ok values) :
    ∃ texts : List String, args = texts.map .str ∧ DenoteAll slots texts values := by
  induction slots generalizing position args values with
  | nil =>
      cases List.length_eq_zero_iff.mp hcount
      cases h
      exact ⟨[], rfl, .nil⟩
  | cons slot slots ih =>
      cases args with
      | nil => cases hcount
      | cons v args =>
          rw [readSlots] at h
          cases hfirst : slot.read op position v with
          | error e =>
              rw [hfirst] at h
              cases h
          | ok value =>
              cases hothers : readSlots op (position + 1) slots args with
              | error e =>
                  rw [hfirst, Except.bind, hothers] at h
                  cases h
              | ok others =>
                  rw [hfirst, Except.bind, hothers] at h
                  cases h
                  obtain ⟨text, rfl, htext⟩ := Slot.exists_of_read_eq_ok hfirst
                  obtain ⟨texts, rfl, htexts⟩ := ih (Nat.succ.inj hcount) hothers
                  exact ⟨text :: texts, rfl, .cons htext htexts⟩

theorem Query.exists_of_condition_eq_ok {op : Operator} {args : List Json} {c : Condition}
    (h : Query.condition op args = .ok c) :
    op = c.operator ∧ ∃ texts : List String, args = texts.map .str ∧
      DenoteAll c.operator.slots texts c.arguments := by
  have hslots := condition_eq_readSlots op args
  rw [h] at hslots
  by_cases hcount : args.length = op.slots.length
  · rw [if_pos hcount] at hslots
    cases hread : readSlots op 0 op.slots args with
    | error e =>
        rw [hread] at hslots
        cases hslots
    | ok values =>
        rw [hread] at hslots
        injection hslots with hslots
        injection hslots with hop hvalues
        subst hop hvalues
        exact ⟨rfl, exists_of_readSlots_eq_ok hcount hread⟩
  · rw [if_neg hcount] at hslots
    cases hslots

/-- A query is valid exactly if it expresses a condition. -/
theorem Query.validate_eq_ok_iff {q : Query} {clause : Clause} :
    q.validate = .ok clause ↔
      q.Expresses clause.condition ∧ q.negate.truthy = clause.negate := by
  constructor
  · intro h
    unfold validate at h
    cases hop : (Token.value q.operator).toOperator with
    | error e =>
        rw [hop, Token.reported] at h
        cases hshown : (Token.value q.operator).isShowable <;> simp [hshown] at h
    | ok op =>
        simp only [hop, Token.reported_ok] at h
        cases hargs : q.argumentList with
        | error e =>
            rw [hargs] at h
            cases h
        | ok args =>
            cases hcondition : condition op args with
            | error e =>
                simp only [hargs, bind, Except.bind, hcondition] at h
                cases h
            | ok c =>
                simp only [hargs, bind, Except.bind, hcondition] at h
                cases h
                obtain ⟨rfl, texts, rfl, htexts⟩ := exists_of_condition_eq_ok hcondition
                exact ⟨⟨Token.eq_str_of_toOperator_eq_ok hop, texts, hargs, htexts⟩, rfl⟩
  · rintro ⟨⟨hop, texts, hargs, htexts⟩, hnegate⟩
    have hcondition := condition_of_denoteAll htexts
    simp only [validate, hop, Token.toOperator_name, Token.reported_ok, hargs, bind, Except.bind,
      hcondition, hnegate]
    rfl

theorem Query.Expresses.validate_eq {q : Query} {condition : Condition}
    (h : q.Expresses condition) : q.validate = .ok ⟨condition, q.negate.truthy⟩ :=
  validate_eq_ok_iff.mpr ⟨h, rfl⟩

/-- A comparison of a sum with a number is expressed with any text for the comparison and any for
the number. -/
theorem Query.expresses_sumCompare (p : Product) (d : Direction) {sign numeral : String}
    {c : Comparison} {n : Int} (hsign : Slot.comparison.Denotes sign (.comparison c))
    (hnumeral : Slot.integer.Denotes numeral (.integer n)) (negate : Bool) :
    (Query.ofTexts "TRANSACTION_SUM_COMPARE" [p.name, d.name, sign, numeral] negate).Expresses
      (.sumCompare p d c n) :=
  ⟨rfl, _, argumentList_of_texts rfl,
    .cons (.product p) (.cons (.direction d) (.cons hsign (.cons hnumeral .nil)))⟩

/-- A comparison of deposits with withdrawals is expressed with any text for the comparison. -/
theorem Query.expresses_depositWithdrawCompare (p : Product) {sign : String} {c : Comparison}
    (hsign : Slot.comparison.Denotes sign (.comparison c)) (negate : Bool) :
    (Query.ofTexts "TRANSACTION_SUM_COMPARE_DEPOSIT_WITHDRAW" [p.name, sign] negate).Expresses
      (.depositWithdrawCompare p c) :=
  ⟨rfl, _, argumentList_of_texts rfl, .cons (.product p) (.cons hsign .nil)⟩

/-! ## Complements -/

/-- A comparison and its complement decide each other. -/
theorem Comparison.accepts_complement {c c' : Comparison} (h : c.complement? = some c')
    (o : Ordering) : c'.accepts o = !c.accepts o := by
  cases c <;> cases h <;> cases o <;> rfl

/-- Of two whole numbers, a comparison holds exactly if its complement does not. -/
theorem Comparison.compare?_complement {c c' : Comparison} (h : c.complement? = some c')
    (n m : Int) : c'.compare? (.int n) (.int m) = (c.compare? (.int n) (.int m)).map (!·) := by
  rw [compare?_int, compare?_int, accepts_complement h]
  rfl

namespace Condition

variable {condition complement : Condition}

theorem operator_complement (h : condition.complement? = some complement) :
    complement.operator = condition.operator := by
  cases condition with
  | userOf _ | activeUserOf _ => cases h
  | sumCompare p d c n | depositWithdrawCompare p c =>
      obtain ⟨c', -, rfl⟩ := Option.map_eq_some_iff.mp h
      rfl

/-- A condition and its complement are judged by the same figures. -/
theorem lookups_complement (h : condition.complement? = some complement) (user : Uuid) :
    complement.lookups user = condition.lookups user := by
  cases condition with
  | userOf _ | activeUserOf _ => cases h
  | sumCompare p d c n | depositWithdrawCompare p c =>
      obtain ⟨c', -, rfl⟩ := Option.map_eq_some_iff.mp h
      rfl

/-- These figures are sums. -/
theorem isSum_of_mem_lookups (h : condition.complement? = some complement) {user : Uuid}
    {l : Lookup} (hl : l ∈ condition.lookups user) : l.isSum = true := by
  cases condition with
  | userOf _ | activeUserOf _ => cases h
  | sumCompare p d c n =>
      rw [lookups, List.mem_singleton] at hl
      rw [hl]
      rfl
  | depositWithdrawCompare p c =>
      rw [lookups, List.mem_pair] at hl
      obtain rfl | rfl := hl <;> rfl

/-- Of whole numbers, a condition says the opposite of its complement. -/
theorem decide?_complement (h : condition.complement? = some complement) {figures : List Json}
    (hwhole : ∀ v ∈ figures, ∃ n : Int, v = .int n) :
    complement.decide? figures = (condition.decide? figures).map (!·) := by
  cases condition with
  | userOf _ | activeUserOf _ => cases h
  | sumCompare p d c n =>
      obtain ⟨c', hc, rfl⟩ := Option.map_eq_some_iff.mp h
      match figures, hwhole with
      | [], _ => rfl
      | [total], hwhole =>
          obtain ⟨m, rfl⟩ := hwhole total List.mem_cons_self
          exact Comparison.compare?_complement hc m n
      | _ :: _ :: _, _ => rfl
  | depositWithdrawCompare p c =>
      obtain ⟨c', hc, rfl⟩ := Option.map_eq_some_iff.mp h
      match figures, hwhole with
      | [], _ => rfl
      | [_], _ => rfl
      | [deposits, withdrawals], hwhole =>
          obtain ⟨m, rfl⟩ := hwhole deposits List.mem_cons_self
          obtain ⟨n, rfl⟩ := hwhole withdrawals (.tail _ List.mem_cons_self)
          exact Comparison.compare?_complement hc m n
      | _ :: _ :: _ :: _, _ => rfl

end Condition

/-! ## Queries -/

section

variable {σ : Type} {c : Program.Collaborator Judgement σ} {Inv : σ → Prop} {user : Uuid}

theorem GivesWholeSums.kept_consult (hc : GivesWholeSums c Inv) (ls : List Lookup) {s : σ}
    (hs : Inv s) : Inv (consult c ls s).2.2 := by
  induction ls generalizing s with
  | nil => exact hs
  | cons l rest ih =>
      have ht := hc.kept l s hs
      rw [consult]
      rcases ha : c.answer l s with ⟨_ | v, t⟩
      · rwa [ha] at ht
      · rw [ha] at ht
        exact ih ht

/-- Sums that are looked up and given are whole numbers. -/
theorem GivesWholeSums.of_consult (hc : GivesWholeSums c Inv) {ls : List Lookup}
    (hsums : ∀ l ∈ ls, l.isSum = true) {s : σ} (hs : Inv s) {figures : List Json}
    (h : (consult c ls s).1 = .ok figures) : ∀ v ∈ figures, ∃ n : Int, v = .int n := by
  induction ls generalizing s figures with
  | nil =>
      cases h
      exact nofun
  | cons l rest ih =>
      rw [List.forall_mem_cons] at hsums
      have hwhole := hc.whole l s
      have ht := hc.kept l s hs
      rw [consult] at h
      rcases ha : c.answer l s with ⟨_ | v, t⟩
      · rw [ha] at h
        cases h
      · rw [ha] at h hwhole ht
        rcases hrest : consult c rest t with ⟨_ | others, asked, u⟩
        · simp only [hrest] at h
          cases h
        · simp only [hrest] at h
          cases h
          exact List.forall_mem_cons.mpr
            ⟨hwhole v hs hsums.1 rfl, ih hsums.2 ht (by rw [hrest])⟩

theorem GivesWholeSums.kept_examine (hc : GivesWholeSums c Inv) (user : Uuid) (q : Query) {s : σ}
    (hs : Inv s) : Inv (q.examine c user s).2.2 := by
  rw [Query.examine]
  cases q.validate with
  | error e => cases e <;> exact hs
  | ok clause =>
      have ht := hc.kept_consult (clause.condition.lookups user) hs
      rcases hconsult : consult c (clause.condition.lookups user) s with ⟨_ | figures, asked, t⟩
      · rw [hconsult] at ht
        simpa only [hconsult] using ht
      · rw [hconsult] at ht
        simp only [hconsult]
        cases clause.condition.decide? figures <;> exact ht

/-- What the examination of a query finds depends on what the query says, not on how it is
written. -/
theorem Query.examine_congr {q q' : Query} (h : q'.validate = q.validate) (s : σ) :
    q'.examine c user s = q.examine c user s := by
  rw [examine, examine, h]

/-- A query whose comparison and negation are both turned around is examined as before. -/
theorem Query.examine_inverted (hc : GivesWholeSums c Inv) {q q' : Query}
    {condition complement : Condition} {negate : Bool}
    (h : condition.complement? = some complement) (hq : q.validate = .ok ⟨condition, negate⟩)
    (hq' : q'.validate = .ok ⟨complement, !negate⟩) {s : σ} (hs : Inv s) :
    q'.examine c user s = q.examine c user s := by
  rw [examine, examine, hq, hq']
  simp only [Condition.operator_complement h, Condition.lookups_complement h]
  rcases hconsult : consult c (condition.lookups user) s with ⟨_ | figures, asked, t⟩
  · rfl
  · have hwhole := hc.of_consult (fun l hl => Condition.isSum_of_mem_lookups h hl) hs
      (congrArg Prod.fst hconsult)
    simp only [Condition.decide?_complement h hwhole]
    cases condition.decide? figures with
    | none => rfl
    | some truth => simp

/-- A rewritten query is examined as before. -/
theorem Query.Rewritten.examine_eq (hc : GivesWholeSums c Inv) {q q' : Query}
    (h : q.Rewritten q') {s : σ} (hs : Inv s) :
    q'.examine c user s = q.examine c user s := by
  cases h with
  | kept => rfl
  | respelled before after hnegate =>
      refine examine_congr ?_ s
      rw [before.validate_eq, after.validate_eq, hnegate]
  | inverted h before after hnegate =>
      refine examine_inverted hc h before.validate_eq ?_ hs
      rw [after.validate_eq, hnegate]

/-! ## Rules -/

theorem run_evaluateFrom_of_rewritten (hc : GivesWholeSums c Inv) {qs qs' : List Query}
    (h : List.Forall₂ Query.Rewritten qs qs') (total position : Nat) {s : σ} (hs : Inv s)
    (past : List (Occurrence Judgement)) :
    (evaluateFrom user total position qs').run c.recording ⟨s, past⟩ =
      (evaluateFrom user total position qs).run c.recording ⟨s, past⟩ := by
  induction h generalizing position s past with
  | nil => rfl
  | @cons q q' rest rest' hq _ ih =>
      -- Both heads are examined alike, so both rests start in the state that the first head leaves.
      have ht := hc.kept_examine user q hs
      rw [run_evaluateFrom_cons, run_evaluateFrom_cons, hq.examine_eq hc hs]
      rcases hexamine : q.examine c user s with ⟨_ | _ | ⟨op, _ | _⟩, asked, t⟩
      · rfl
      · rfl
      · rfl
      · rw [hexamine] at ht
        exact ih (position + 1) ht (past ++ asked)

theorem Rule.run_judge_of_rewritten (hc : GivesWholeSums c Inv) {r r' : Rule}
    (h : List.Forall₂ Query.Rewritten r.queryList r'.queryList) {s : σ} (hs : Inv s)
    (past : List (Occurrence Judgement)) :
    (r'.judge user).run c.recording ⟨s, past⟩ = (r.judge user).run c.recording ⟨s, past⟩ := by
  by_cases hnil : r.queryList = []
  · have hnil' : r'.queryList = [] := by
      rw [hnil] at h
      exact List.forall₂_nil_left_iff.mp h
    rw [judge, judge, hnil, hnil']
  · have hne : r'.queryList ≠ [] := by
      intro hnil'
      rw [hnil'] at h
      exact hnil (List.forall₂_nil_right_iff.mp h)
    rw [judge_of_ne_nil hnil, judge_of_ne_nil hne, ← h.length_eq]
    exact run_evaluateFrom_of_rewritten hc h _ 0 hs past

end

/-- **Rewritten rules are evaluated alike.**  Where every sum that is given is a whole number, a rule
some of whose queries are rewritten — a comparison of sums turned into its complement and the
negation flipped, or the arguments in other texts that denote the same — is evaluated as before,
with the same result or failure, the same lookups and answers in the same order, and the same state
of the provider afterwards. -/
theorem rewritten_rules_are_evaluated_alike {σ : Type} (c : Program.Collaborator Judgement σ)
    (Inv : σ → Prop) (hc : GivesWholeSums c Inv) (user : Uuid) {r r' : Rule} (hid : r'.id = r.id)
    (h : List.Forall₂ Query.Rewritten r.queryList r'.queryList) (s : σ) (hs : Inv s) :
    (r'.evaluate user).run c.recording ⟨s, []⟩ = (r.evaluate user).run c.recording ⟨s, []⟩ := by
  simp only [Rule.evaluate, Program.bind_eq, Program.run_bind,
    Rule.run_judge_of_rewritten hc h hs, hid]

namespace Rewriting

/-- A provider whose sums get smaller by one with every lookup, and that fails at the fourth. -/
def faltering : Program.Collaborator Judgement Nat where
  answer := fun l s =>
    (if s = 3 then .error .mistyped else .ok (if l.isSum then .int (11 - s) else .bool true), s + 1)
  notice := fun _ s => s

/-- A rule with both comparisons of sums. -/
def plain : Rule :=
  .sample "Thrifty" (.int 7)
    [.ofTexts "TRANSACTION_SUM_COMPARE" ["DEBIT", "DEPOSIT", ">", "10"] false,
      .ofTexts "TRANSACTION_SUM_COMPARE_DEPOSIT_WITHDRAW" ["SAVING", "GREATER_OR_EQUALS"] false,
      .ofTexts "USER_OF" ["DEBIT"] false]

/-- The same rule in other words. -/
def reworded : Rule :=
  .sample "Thrifty" (.int 7)
    [.ofTexts "TRANSACTION_SUM_COMPARE" ["DEBIT", "DEPOSIT", "LESS_OR_EQUALS", "+\u06610"] true,
      .ofTexts "TRANSACTION_SUM_COMPARE_DEPOSIT_WITHDRAW" ["SAVING", ">="] false,
      .ofTexts "USER_OF" ["DEBIT"] false]

theorem givesWholeSums_faltering : GivesWholeSums faltering fun _ => True where
  whole := by
    intro l s v _ hl h
    simp only [faltering, hl] at h
    split at h
    · cases h
    · cases h
      exact ⟨_, rfl⟩
  kept := fun _ _ _ => trivial

theorem rewritten_plain_reworded :
    List.Forall₂ Query.Rewritten plain.queryList reworded.queryList := by
  have hten : Slot.integer.Denotes "10" (.integer 10) :=
    @Slot.Denotes.integer "10" false ['1', '0']
      ⟨⟨nofun, List.all_eq_true.mp rfl⟩, _, .plain, .inl rfl⟩ (by decide)
  have hten' : Slot.integer.Denotes "+\u06610" (.integer 10) :=
    @Slot.Denotes.integer "+\u06610" false ['\u0661', '0']
      ⟨⟨nofun, List.all_eq_true.mp rfl⟩, _, .plus, .inl rfl⟩ (by decide)
  refine .cons ?_ (.cons ?_ (.cons (.kept _) .nil))
  · exact .inverted rfl
      (Query.expresses_sumCompare .debit .deposit (.comparisonSymbol .greater) hten _)
      (Query.expresses_sumCompare .debit .deposit (.comparisonName .lessOrEquals) hten' _) rfl
  · exact .respelled
      (Query.expresses_depositWithdrawCompare .saving (.comparisonName .greaterOrEquals) _)
      (Query.expresses_depositWithdrawCompare .saving (.comparisonSymbol .greaterOrEquals) _) rfl

/-- Both rules fail with the provider, after the same four lookups. -/
theorem rewritten_rules_are_evaluated_alike_faltering :
    (reworded.evaluate default).run faltering.recording ⟨0, []⟩ =
        (plain.evaluate default).run faltering.recording ⟨0, []⟩ ∧
      (plain.evaluate default).run faltering.recording ⟨0, []⟩ =
        (.error .mistyped, ⟨4, [.asked (.turnover .debit .deposit default) (.ok (.int 11)),
          .asked (.deposits .saving default) (.ok (.int 10)),
          .asked (.withdrawals .saving default) (.ok (.int 9)),
          .asked (.usage default .debit) (.error .mistyped)]⟩) := by
  have hid : reworded.id = plain.id := rfl
  exact ⟨rewritten_rules_are_evaluated_alike faltering (fun _ => True) givesWholeSums_faltering
    default hid rewritten_plain_reworded 0 trivial, rfl⟩

end Rewriting

end Recommender
