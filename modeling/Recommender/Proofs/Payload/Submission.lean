import Mathlib
import Recommender.Proofs.Json.Sent
import Recommender.Proofs.Payload.Identifier

/-!
# What is accepted as a rule

A body is accepted as a rule if its members give the product and, if they give queries, a list of
queries; members under other names do not matter.  Many bodies are accepted as one rule: an
identifier and a flag have several spellings, and what has a default may be left out.  The written
form of a view is one of these bodies.  So a view that is sent back is accepted as the rule that it
shows, and has the same view.  This is so of values and of the texts in which they are sent; a view
with half of a surrogate pair in one of its texts is sent in none.
-/

namespace Recommender

/-- The fraction of a binary number has a positive denominator. -/
theorem Binary64.denominator_pos {x : Binary64} {n : Int} {d : Nat}
    (h : x.toFraction? = some (n, d)) : 0 < d := by
  cases x with
  | finite negative mantissa exponent =>
      cases h
      rw [scaledUp, Nat.one_mul]
      exact Nat.pow_pos (by decide)
  | _ => cases h

/-! ## Checked values -/

namespace Checked

variable {α β : Type}

theorem under_eq_ok_iff {step : Step} {a : Checked α} {x : α} :
    a.under step = .ok x ↔ a = .ok x := by
  cases a <;> simp [under]

theorem apply_eq_ok_iff {f : Checked (α → β)} {a : Checked α} {b : β} :
    apply f a = .ok b ↔ ∃ g x, f = .ok g ∧ a = .ok x ∧ g x = b := by
  refine ⟨apply_eq_ok, ?_⟩
  rintro ⟨g, x, rfl, rfl, rfl⟩
  rfl

/-- A list is accepted item by item. -/
theorem itemsFrom_eq_ok_iff {check : Json → Checked α} {position : Nat} {items : List Json}
    {xs : List α} :
    itemsFrom check position items = .ok xs ↔
      List.Forall₂ (fun v x => check v = .ok x) items xs := by
  induction items generalizing position xs with
  | nil => simp [itemsFrom, eq_comm]
  | cons v items ih =>
      simp only [itemsFrom, apply_eq_ok_iff, under_eq_ok_iff, ih, Except.ok.injEq,
        List.forall₂_cons_left_iff]
      constructor
      · rintro ⟨_, xs, ⟨_, x, rfl, hx, rfl⟩, hxs, rfl⟩
        exact ⟨x, xs, hx, hxs, rfl⟩
      · rintro ⟨x, xs, hx, hxs, rfl⟩
        exact ⟨_, xs, ⟨_, x, rfl, hx, rfl⟩, hxs, rfl⟩

end Checked

/-! ## Fields -/

namespace Field

variable {α : Type}

theorem text_eq_ok_iff {v : Json} {s : String} : text v = .ok s ↔ v = .str s := by
  cases v <;> simp [text, Checked.refuse]

theorem list_eq_ok_iff {item : Json → Checked α} {v : Json} {xs : List α} :
    list item v = .ok xs ↔
      ∃ items, v = .arr items ∧ List.Forall₂ (fun v x => item v = .ok x) items xs := by
  cases v <;> simp [list, Checked.refuse, Checked.itemsFrom_eq_ok_iff]

theorem texts_eq_ok_iff {v : Json} {texts : List String} :
    list text v = .ok texts ↔ v = .ofStrings texts := by
  have hitems : ∀ items, List.Forall₂ (fun v s => text v = .ok s) items texts ↔
      items = texts.map .str := by
    intro items
    rw [← List.forall₂_eq_eq_eq, List.forall₂_map_right_iff]
    simp only [text_eq_ok_iff]
  simp [list_eq_ok_iff, hitems, Json.ofStrings]

theorem ofWholeText_eq_ok_iff {read : String → Checked α} {s : String} {a : α} :
    ofWholeText read s = .ok a ↔ hasHalf s = false ∧ read s = .ok a := by
  rw [ofWholeText]
  cases hasHalf s <;> simp [Checked.refuse]

/-- An identifier is accepted in each of its texts, and nothing else is. -/
theorem identifier_eq_ok_iff {v : Json} {u : Uuid} :
    identifier v = .ok u ↔ ∃ s, v = .str s ∧ u.Spelled s.toList := by
  cases v with
  | str s =>
      have hread : identifierOfText s = .ok u ↔ u.Spelled s.toList := by
        rw [identifierOfText, ← Uuid.ofText?_eq_some_iff]
        cases Uuid.ofText? s <;> simp [Checked.refuse]
      have hwhole : u.Spelled s.toList → hasHalf s = false := fun h =>
        hasHalf_of_toNat_lt h.toNat_lt
      have hwholly : ofWholeText identifierOfText s = .ok u ↔
          hasHalf s = false ∧ identifierOfText s = .ok u := ofWholeText_eq_ok_iff
      rw [identifier, hwholly, hread, and_iff_right_of_imp hwhole]
      simp
  | _ => simp [identifier, Checked.refuse]

/-- A member that has to be given denotes a value. -/
def Given (name : String) (denotes : Json → α → Prop) (members : List (String × Json)) (a : α) :
    Prop :=
  ∃ v, Assoc.find? name members = some v ∧ denotes v a

/-- A member denotes a value if it is given, and otherwise the value is its default. -/
def GivenOr (name : String) (default : α) (denotes : Json → α → Prop)
    (members : List (String × Json)) (a : α) : Prop :=
  match Assoc.find? name members with
  | some v => denotes v a
  | none => a = default

theorem required_eq_ok_iff {name : String} {read : Json → Checked α}
    {members : List (String × Json)} {a : α} :
    required name read members = .ok a ↔ Given name (fun v a => read v = .ok a) members a := by
  rw [required, Given]
  cases Assoc.find? name members with
  | none => simp [Checked.refuse, Checked.under]
  | some v => simp [Checked.under_eq_ok_iff]

theorem optional_eq_ok_iff {name : String} {default : α} {read : Json → Checked α}
    {members : List (String × Json)} {a : α} :
    optional name default read members = .ok a ↔
      GivenOr name default (fun v a => read v = .ok a) members a := by
  rw [optional, GivenOr]
  cases Assoc.find? name members with
  | none => simp [eq_comm]
  | some v => exact Checked.under_eq_ok_iff

/-! ## Flags -/

/-- A value denotes a flag: the flag itself, a number that is one or zero, or a text of one of the
two lists, in either case. -/
def DenotesFlag : Json → Bool → Prop
  | .bool b, flag => b = flag
  | .int n, flag => n = if flag then 1 else 0
  | .float x, flag => ∃ n d, x.toFraction? = some (n, d) ∧ n = if flag then (d : Int) else 0
  | .str s, flag => asciiLower s ∈ if flag then trueTexts else falseTexts
  | _, _ => False

theorem flagOfInt_eq_ok_iff {n : Int} {input : Json} {b : Bool} :
    flagOfInt n input = .ok b ↔ n = if b then 1 else 0 := by
  rw [flagOfInt]
  by_cases hzero : n = 0
  · subst hzero
    cases b <;> simp
  · by_cases hone : n = 1
    · subst hone
      cases b <;> simp
    · have hnone : n ≠ if b then 1 else 0 := by cases b <;> assumption
      rw [if_neg hzero, if_neg hone]
      split <;> exact iff_of_false nofun hnone

/-- A binary fraction is one or zero if its fraction is, whatever its denominator. -/
theorem flagOfBinary_eq_ok_iff {x : Binary64} {b : Bool} :
    flagOfBinary x = .ok b ↔
      ∃ n d, x.toFraction? = some (n, d) ∧ n = if b then (d : Int) else 0 := by
  rw [flagOfBinary]
  cases hfraction : x.toFraction? with
  | none => simp [Checked.refuse]
  | some p =>
    obtain ⟨n, d⟩ := p
    have hd : 0 < d := x.denominator_pos hfraction
    have hunique : (∃ n' d', some (n, d) = some (n', d') ∧ n' = if b then (d' : Int) else 0) ↔
        n = if b then (d : Int) else 0 := by simp
    have hquotient : (n % d = 0 ∧ n / d = if b then 1 else 0) ↔ n = if b then (d : Int) else 0 := by
      constructor
      · rintro ⟨hmod, hdiv⟩
        rw [← Int.mul_ediv_add_emod n d, hmod, hdiv]
        cases b <;> simp
      · rintro rfl
        cases b <;> simp [hd.ne']
    rw [hunique, ← hquotient]
    change (if n % d = 0 ∧ -wordBound < n / d ∧ n / d < wordBound then flagOfInt (n / d) (.float x)
      else Checked.refuse .notFlag (.float x)) = .ok b ↔ _
    by_cases h : n % d = 0 ∧ -wordBound < n / d ∧ n / d < wordBound
    · rw [if_pos h, flagOfInt_eq_ok_iff, and_iff_right h.1]
    · rw [if_neg h]
      refine iff_of_false nofun fun ⟨hmod, hdiv⟩ => h ⟨hmod, ?_⟩
      rw [hdiv, wordBound]
      cases b <;> decide

/-- The texts of flags are in ASCII, so that a text is, if it is one of them in lower case. -/
theorem hasHalf_of_asciiLower_mem {s : String} (h : asciiLower s ∈ trueTexts ++ falseTexts) :
    hasHalf s = false := by
  have hascii : ((trueTexts ++ falseTexts).all fun t => t.toList.all fun c => c.toNat < 0x80) =
      true := rfl
  refine hasHalf_of_toNat_lt fun c hc => ?_
  have hlower : c.toLower ∈ (asciiLower s).toList := by
    rw [asciiLower, String.toList_map]
    exact List.mem_map_of_mem hc
  have hlt : c.toLower.toNat < 0x80 :=
    of_decide_eq_true (List.all_eq_true.1 (List.all_eq_true.1 hascii _ h) _ hlower)
  rw [Char.toLower] at hlt
  split at hlt
  · next hupper => exact Nat.lt_of_le_of_lt hupper.2 (by decide)
  · exact hlt

theorem flagOfText_eq_ok_iff {s : String} {b : Bool} :
    flagOfText s = .ok b ↔ asciiLower s ∈ if b then trueTexts else falseTexts := by
  have hdisjoint : (trueTexts.all fun t => !falseTexts.contains t) = true := rfl
  rw [flagOfText]
  by_cases htrue : asciiLower s ∈ trueTexts
  · have hnot : asciiLower s ∉ falseTexts := by
      simpa using List.all_eq_true.1 hdisjoint _ htrue
    cases b <;> simp [htrue, hnot]
  · by_cases hfalse : asciiLower s ∈ falseTexts
    · cases b <;> simp [htrue, hfalse]
    · cases b <;> simp [htrue, hfalse, Checked.refuse]

/-- A flag is accepted in each of its spellings, and nothing else is. -/
theorem flag_eq_ok_iff {v : Json} {b : Bool} : flag v = .ok b ↔ DenotesFlag v b := by
  cases v with
  | bool c => simp [flag, DenotesFlag]
  | int n => exact flagOfInt_eq_ok_iff
  | float x => exact flagOfBinary_eq_ok_iff
  | str s =>
      rw [flag, ofWholeText_eq_ok_iff, flagOfText_eq_ok_iff, DenotesFlag, and_iff_right_iff_imp]
      intro hmem
      refine hasHalf_of_asciiLower_mem (List.mem_append.2 ?_)
      cases b with
      | true => exact .inl hmem
      | false => exact .inr hmem
  | _ => simp [flag, DenotesFlag, Checked.refuse]

end Field

/-! ## Queries and rules -/

/-- Members describe a query. -/
structure QueryDraft.SentAs (members : List (String × Json)) (d : QueryDraft) : Prop where
  operator : Field.Given "query" (fun v s => v = .str s) members d.operator
  arguments : Field.GivenOr "arguments" [] (fun v texts => v = .ofStrings texts) members d.arguments
  negate : Field.GivenOr "negate" false Field.DenotesFlag members d.negate

/-- A value is a list of descriptions of queries, in the same order. -/
def QueryDraft.ListedAs (v : Json) (ds : List QueryDraft) : Prop :=
  ∃ items, v = .arr items ∧
    List.Forall₂ (fun item d => ∃ members, item = .obj members ∧ SentAs members d) items ds

/-- Members describe a rule. -/
structure RuleDraft.SentAs (members : List (String × Json)) (d : RuleDraft) : Prop where
  productId : Field.Given "product_id" (fun v (u : Uuid) => ∃ s, v = .str s ∧ u.Spelled s.toList)
    members d.productId
  productName : Field.Given "product_name" (fun v s => v = .str s) members d.productName
  productText : Field.Given "product_text" (fun v s => v = .str s) members d.productText
  queries : Field.GivenOr "rule" [] QueryDraft.ListedAs members d.queries

variable {refusal : IssueKind}

theorem QueryDraft.ofMembers_eq_ok_iff {members : List (String × Json)} {d : QueryDraft} :
    ofMembers members = .ok d ↔ SentAs members d := by
  simp only [ofMembers, Checked.apply_eq_ok_iff, Field.required_eq_ok_iff,
    Field.optional_eq_ok_iff, Field.text_eq_ok_iff, Field.texts_eq_ok_iff, Field.flag_eq_ok_iff]
  constructor
  · rintro ⟨_, negate, ⟨_, arguments, ⟨_, operator, ⟨⟩, hoperator, rfl⟩, harguments, rfl⟩, hnegate,
      rfl⟩
    exact ⟨hoperator, harguments, hnegate⟩
  · intro h
    exact ⟨_, _, ⟨_, _, ⟨_, _, rfl, h.operator, rfl⟩, h.arguments, rfl⟩, h.negate, rfl⟩

theorem QueryDraft.ofJson_eq_ok_iff {v : Json} {d : QueryDraft} :
    ofJson refusal v = .ok d ↔ ∃ members, v = .obj members ∧ SentAs members d := by
  cases v <;> simp [ofJson, Checked.refuse, ofMembers_eq_ok_iff]

theorem RuleDraft.ofMembers_eq_ok_iff {members : List (String × Json)} {d : RuleDraft} :
    ofMembers refusal members = .ok d ↔ SentAs members d := by
  simp only [ofMembers, Checked.apply_eq_ok_iff, Field.required_eq_ok_iff,
    Field.optional_eq_ok_iff, Field.text_eq_ok_iff, Field.identifier_eq_ok_iff,
    Field.list_eq_ok_iff, QueryDraft.ofJson_eq_ok_iff]
  constructor
  · rintro ⟨_, queries, ⟨_, text, ⟨_, name, ⟨_, id, ⟨⟩, hid, rfl⟩, hname, rfl⟩, htext, rfl⟩,
      hqueries, rfl⟩
    exact ⟨hid, hname, htext, hqueries⟩
  · intro h
    exact ⟨_, _, ⟨_, _, ⟨_, _, ⟨_, _, rfl, h.productId, rfl⟩, h.productName, rfl⟩, h.productText,
      rfl⟩, h.queries, rfl⟩

/-- **What is accepted as a rule**: an object whose members describe the rule. -/
theorem RuleDraft.ofJson_eq_ok_iff {body : Json} {d : RuleDraft} :
    ofJson refusal body = .ok d ↔ ∃ members, body = .obj members ∧ SentAs members d := by
  cases body <;> simp [ofJson, Checked.refuse, ofMembers_eq_ok_iff]

/-! ## Written forms -/

theorem QueryDraft.sentAs_members (d : QueryDraft) :
    SentAs [("query", .str d.operator), ("arguments", .ofStrings d.arguments),
      ("negate", .bool d.negate)] d where
  operator := ⟨_, rfl, rfl⟩
  arguments := rfl
  negate := rfl

theorem QueryDraft.ofQuery_toQuery (d : QueryDraft) : ofQuery d.toQuery = .ok d :=
  ofMembers_eq_ok_iff.2 d.sentAs_members

theorem QueryDraft.listedAs_toJson (ds : List QueryDraft) :
    ListedAs (.arr (ds.map toJson)) ds := by
  refine ⟨_, rfl, ?_⟩
  rw [List.forall₂_map_left_iff, List.forall₂_same]
  exact fun d _ => ⟨_, rfl, d.sentAs_members⟩

theorem RuleView.queriesOf_map_toQuery (ds : List QueryDraft) :
    queriesOf (ds.map QueryDraft.toQuery) = .ok ds := by
  induction ds with
  | nil => rfl
  | cons d ds ih =>
      rw [List.map_cons, queriesOf, d.ofQuery_toQuery, ih]
      rfl

theorem Field.identifier_text (u : Uuid) : identifier (.str u.text) = .ok u :=
  identifier_eq_ok_iff.2 ⟨u.text, rfl, Uuid.ofText?_eq_some_iff.1 u.ofText?_text⟩

theorem RuleView.ofRule_eq_ok {r : Rule} {queries : List Query} {drafts : List QueryDraft}
    {view : RuleView} (hqueries : r.queries = some queries)
    (hdrafts : queriesOf queries = .ok drafts) (hparts : ofParts r drafts = .ok view) :
    ofRule r = .ok view := by
  simp only [ofRule, hqueries, hdrafts, hparts, Checked.toResult]

/-- The view of a rule that a draft describes shows the draft. -/
theorem RuleView.ofRule_toRule (d : RuleDraft) (id : Option Int) :
    ofRule { d.toRule with id := .ofOption .int id } = .ok ⟨id, d⟩ := by
  have hid : Field.nullable Field.integer (.ofOption .int id) = .ok id := by
    cases id <;> rfl
  refine ofRule_eq_ok rfl (queriesOf_map_toQuery d.queries) ?_
  simp only [ofParts, Checked.apply_eq_ok_iff, Field.required_eq_ok_iff]
  exact ⟨_, _, ⟨_, _, ⟨_, _, ⟨_, _, rfl, ⟨_, rfl, hid⟩, rfl⟩,
    ⟨_, rfl, Field.identifier_text d.productId⟩, rfl⟩, ⟨_, rfl, rfl⟩, rfl⟩, ⟨_, rfl, rfl⟩, rfl⟩

/-- The members of a view describe the draft that it shows. -/
theorem RuleView.ofJson_toJson (d : RuleDraft) (id : Option Int) :
    RuleDraft.ofJson refusal (toJson ⟨id, d⟩) = .ok d := by
  refine RuleDraft.ofJson_eq_ok_iff.2 ⟨_, rfl, ?_⟩
  exact
    { productId := ⟨_, rfl, d.productId.text, rfl,
        Uuid.ofText?_eq_some_iff.1 d.productId.ofText?_text⟩
      productName := ⟨_, rfl, rfl⟩
      productText := ⟨_, rfl, rfl⟩
      queries := QueryDraft.listedAs_toJson d.queries }

/-! ## Views that are sent -/

/-- The texts that a draft holds. -/
def RuleDraft.texts (d : RuleDraft) : List String :=
  d.productName :: d.productText :: d.queries.flatMap fun q => q.operator :: q.arguments

/-- What is spelled in ASCII is written as itself. -/
theorem Uuid.halfMark_notMem_text (u : Uuid) : halfMark ∉ u.text.toList := by
  intro hmem
  have hascii := (Uuid.ofText?_eq_some_iff.1 u.ofText?_text).toNat_lt halfMark hmem
  revert hascii
  decide

theorem Json.areSendable_iff {items : List Json} :
    areSendable items = true ↔ ∀ v ∈ items, v.isSendable = true := by
  induction items with
  | nil => simp [areSendable]
  | cons v items ih => rw [areSendable, Bool.and_eq_true, ih, List.forall_mem_cons]

theorem QueryDraft.isSendable_toJson_iff (d : QueryDraft) :
    d.toJson.isSendable = true ↔ ∀ s ∈ d.operator :: d.arguments, hasHalf s = false := by
  have hkeys : hasHalf "query" = false ∧ hasHalf "arguments" = false ∧ hasHalf "negate" = false := by
    decide
  obtain ⟨hquery, harguments, hnegate⟩ := hkeys
  simp [toJson, Json.ofStrings, Json.isSendable, Json.haveSendable, Json.areSendable_iff, hquery,
    harguments, hnegate]

/-- A view can be sent if no text of its draft holds a half and its identifier can be written out. -/
theorem RuleView.isSendable_toJson_iff (d : RuleDraft) (id : Option Int) :
    (toJson ⟨id, d⟩).isSendable = true ↔
      (∀ s ∈ d.texts, hasHalf s = false) ∧ ∀ n ∈ id, Numeral.isWritable n = true := by
  obtain ⟨hkey, hproduct, hname, htext, hrule⟩ : hasHalf "id" = false ∧
      hasHalf "product_id" = false ∧ hasHalf "product_name" = false ∧
      hasHalf "product_text" = false ∧ hasHalf "rule" = false := by decide
  have hproductId : hasHalf d.productId.text = false :=
    hasHalf_of_toNat_lt (Uuid.ofText?_eq_some_iff.1 d.productId.ofText?_text).toNat_lt
  have hid : (Json.ofOption .int id).isSendable = true ↔ ∀ n ∈ id, Numeral.isWritable n = true := by
    cases id <;> simp [Json.ofOption, Json.isSendable]
  have hqueries : Json.areSendable (d.queries.map QueryDraft.toJson) = true ↔
      ∀ s ∈ d.queries.flatMap fun q => q.operator :: q.arguments, hasHalf s = false := by
    rw [Json.areSendable_iff, List.forall_mem_map, List.forall_mem_flatMap]
    exact forall₂_congr fun q _ => q.isSendable_toJson_iff
  have hview : (toJson ⟨id, d⟩).isSendable = true ↔ (Json.ofOption .int id).isSendable = true ∧
      hasHalf d.productName = false ∧ hasHalf d.productText = false ∧
      Json.areSendable (d.queries.map QueryDraft.toJson) = true := by
    simp [toJson, RuleDraft.toMembers, Json.isSendable, Json.haveSendable, hkey, hproduct, hname,
      htext, hrule, hproductId]
  rw [hview, RuleDraft.texts, List.forall_mem_cons, List.forall_mem_cons, hqueries, hid, and_comm]

/-- A view has no text to be sent in if a text of its draft holds a half, or its identifier has too
many digits. -/
theorem RuleView.sent?_eq_none_iff (d : RuleDraft) (id : Option Int) :
    (toJson ⟨id, d⟩).sent? = none ↔
      (∃ s ∈ d.texts, hasHalf s = true) ∨ ∃ n ∈ id, 10 ^ Numeral.maxDigits ≤ n.natAbs := by
  rw [Json.sent?_eq_none_iff, ← Bool.not_eq_true, isSendable_toJson_iff, not_and_or]
  simp only [Numeral.isWritable_iff, Classical.not_forall, Bool.not_eq_false, Nat.not_lt,
    exists_prop]

/-- Texts of characters make a legible query. -/
theorem QueryDraft.legible_toJson {d : QueryDraft}
    (h : ∀ s ∈ d.operator :: d.arguments, ∃ t, s = textOfCharacters t) (room : Nat) :
    Json.Legible (room + 2) d.toJson := by
  rw [List.forall_mem_cons] at h
  have harguments : Json.Legible (room + 1) (.ofStrings d.arguments) := by
    refine .arr fun v hv => ?_
    obtain ⟨s, hs, rfl⟩ := List.mem_map.mp hv
    exact .ofText (h.2 s hs)
  refine .ofMembers (by simp [Assoc.keys]) ?_
  simp only [List.forall_mem_cons]
  exact ⟨⟨by decide, .ofText h.1⟩, ⟨by decide, harguments⟩, ⟨by decide, .bool _⟩,
    List.forall_mem_nil _⟩

/-- A view that can be sent is legible, if its texts are texts. -/
theorem RuleView.legible_toJson {d : RuleDraft} {id : Option Int} (htexts : ∀ s ∈ d.texts, IsText s)
    (hsend : (toJson ⟨id, d⟩).isSendable = true) (room : Nat) :
    Json.Legible (room + 4) (toJson ⟨id, d⟩) := by
  obtain ⟨hwhole, hid⟩ := (isSendable_toJson_iff d id).mp hsend
  have hcharacters : ∀ s ∈ d.texts, ∃ t, s = textOfCharacters t :=
    fun s hs => (htexts s hs).exists_characters (hwhole s hs)
  rw [RuleDraft.texts, List.forall_mem_cons, List.forall_mem_cons, List.forall_mem_flatMap]
    at hcharacters
  obtain ⟨hname, htext, hqueries⟩ := hcharacters
  have hnumber : Json.Legible (room + 3) (.ofOption .int id) := by
    cases id with
    | none => exact .null
    | some n => exact .int (hid n rfl)
  have hproduct : Json.Legible (room + 3) (.str d.productId.text) :=
    .ofText ⟨_, (textOfCharacters_of_notMem d.productId.halfMark_notMem_text).symm⟩
  have hrule : Json.Legible (room + 3) (.arr (d.queries.map QueryDraft.toJson)) := by
    refine .arr fun v hv => ?_
    obtain ⟨q, hq, rfl⟩ := List.mem_map.mp hv
    exact QueryDraft.legible_toJson (hqueries q hq) room
  refine .ofMembers (by simp [Assoc.keys, RuleDraft.toMembers]) ?_
  simp only [RuleDraft.toMembers, List.forall_mem_cons]
  exact ⟨⟨by decide, hnumber⟩, ⟨by decide, hproduct⟩, ⟨by decide, .ofText hname⟩,
    ⟨by decide, .ofText htext⟩, ⟨by decide, hrule⟩, List.forall_mem_nil _⟩

/-- A view that was sent is received as the draft that it shows. -/
theorem RuleView.readDraft_of_sent {d : RuleDraft} {id : Option Int}
    (htexts : ∀ s ∈ d.texts, IsText s) {r : Http.Request}
    (hsent : (toJson ⟨id, d⟩).sent? = some r.body)
    (htype : Http.isJsonType ((r.header? "content-type").getD "") = true) :
    r.readDraft = .ok d := by
  have hsend : (toJson ⟨id, d⟩).isSendable = true := by
    rw [← Bool.not_eq_false, ← Json.sent?_eq_none_iff, hsent]
    exact Option.some_ne_none _
  have hread : Http.readJson r.body = .json (toJson ⟨id, d⟩) :=
    Json.readJson_of_sent (legible_toJson htexts hsend (Json.maxNesting - 4)) hsent
  have hbody : r.readBody = .json (toJson ⟨id, d⟩) := by
    have hsome : r.body ≠ "" := by
      intro hempty
      rw [hempty] at hread
      cases hread
    rw [Http.Request.readBody, if_neg hsome, if_pos htype, hread]
  have hdraft : (RuleDraft.ofJson .notObject (toJson ⟨id, d⟩)).under (.field "body") = .ok d :=
    Checked.under_eq_ok_iff.2 (ofJson_toJson d id)
  rw [Http.Request.readDraft, hbody]
  simp only [hdraft]

/-- **A view is a fixed point.**  A body is accepted as a rule just if its members describe this
rule.  Whatever identifier the rule of an accepted body is given, its view shows this identifier and
what was read, and the view, sent back, is accepted as the same rule, which has the same view.

A view has no text to be sent in if a text of its draft holds half of a surrogate pair, or its
identifier has too many digits, and otherwise it has one; a request that has this text as its body,
and says that it is JSON, is read as the same draft. -/
theorem RuleDraft.view_is_read_back (refusal : IssueKind) (body : Json) (d : RuleDraft) :
    (ofJson refusal body = .ok d ↔ ∃ members, body = .obj members ∧ SentAs members d) ∧
    (ofJson refusal body = .ok d → ∀ id : Option Int,
      ∃ view, RuleView.ofRule { d.toRule with id := .ofOption .int id } = .ok view ∧
        view.id = id ∧ view.draft = d ∧
        ∃ d', ofJson refusal view.toJson = .ok d' ∧ d'.toRule = d.toRule ∧
          RuleView.ofRule { d'.toRule with id := .ofOption .int id } = .ok view) ∧
    ∀ id : Option Int,
      ((RuleView.toJson ⟨id, d⟩).sent? = none ↔
        (∃ s ∈ d.texts, hasHalf s = true) ∨
          ∃ n, id = some n ∧ 10 ^ Numeral.maxDigits ≤ n.natAbs) ∧
      ∀ r : Http.Request, (∀ s ∈ d.texts, IsText s) →
        (RuleView.toJson ⟨id, d⟩).sent? = some r.body →
        Http.isJsonType ((r.header? "content-type").getD "") = true → r.readDraft = .ok d := by
  refine ⟨ofJson_eq_ok_iff, fun _ id => ?_, fun id => ⟨RuleView.sent?_eq_none_iff d id, ?_⟩⟩
  · have hview := RuleView.ofRule_toRule d id
    have hagain : ofJson refusal (RuleView.toJson ⟨id, d⟩) = .ok d := RuleView.ofJson_toJson d id
    exact ⟨⟨id, d⟩, hview, rfl, rfl, d, hagain, rfl, hview⟩
  · exact fun r htexts hsent htype => RuleView.readDraft_of_sent htexts hsent htype

/-- A body in which nothing is spelled as it is answered: the identifier is a name in upper case, the
flags are a text, a number and left out, and there is a member of another name. -/
def looseBody : Json :=
  .obj [("comment", .null), ("rule", .arr [
      .obj [("negate", .str "YES"), ("query", .str "USER_OF"), ("arguments", .arr [.str "DEBIT"])],
      .obj [("query", .str "ACTIVE_USER_OF"), ("negate", .int 0)],
      .obj [("query", .str "")]]),
    ("product_text", .str "text"), ("product_name", .str "name"),
    ("product_id", .str "urn:uuid:FFFFFFFF-FFFF-FFFF-FFFF-FFFFFFFFFFFF")]

/-- What the body is read as. -/
def looseDraft : RuleDraft where
  productId := ⟨List.replicate 32 (Fin.last 15), List.length_replicate⟩
  productName := "name"
  productText := "text"
  queries := [⟨"USER_OF", ["DEBIT"], true⟩, ⟨"ACTIVE_USER_OF", [], false⟩, ⟨"", [], false⟩]

/-- A draft with half of a surrogate pair as its name. -/
def garbledDraft : RuleDraft :=
  { looseDraft with productName := textOfPoints [0xD800] }

/-- A request that sends a text as JSON. -/
def submission (body : String) : Http.Request where
  method := "POST"
  reference := ⟨⟨"http", "localhost", none⟩, "/rule".toList, none⟩
  headers := [("Content-Type", "application/json")]
  body := body

/-- The loosely written body is accepted, and sending its view back gives the same rule, also as a
text; the view of a garbled draft cannot be sent. -/
theorem RuleDraft.view_is_read_back_loose :
    ofJson .notRecord looseBody = .ok looseDraft ∧
    (∃ view, RuleView.ofRule { looseDraft.toRule with id := .int 7 } = .ok view ∧
      view.draft = looseDraft ∧
      ∃ d', ofJson .notRecord view.toJson = .ok d' ∧ d'.toRule = looseDraft.toRule) ∧
    (∃ text, (RuleView.toJson ⟨some 7, looseDraft⟩).sent? = some text ∧
      (submission text).readDraft = .ok looseDraft) ∧
    (RuleView.toJson ⟨none, garbledDraft⟩).sent? = none := by
  obtain ⟨haccepted, hview, hsent⟩ := view_is_read_back .notRecord looseBody looseDraft
  have hid : Uuid.ofText? "urn:uuid:FFFFFFFF-FFFF-FFFF-FFFF-FFFFFFFFFFFF" =
      some looseDraft.productId := by decide +kernel
  have hyes : asciiLower "YES" ∈ Field.trueTexts := by decide +kernel
  have hread : ofJson .notRecord looseBody = .ok looseDraft := by
    refine haccepted.2 ⟨_, rfl, ⟨_, rfl, _, rfl, Uuid.ofText?_eq_some_iff.1 hid⟩, ⟨_, rfl, rfl⟩,
      ⟨_, rfl, rfl⟩, ⟨_, rfl, ?_⟩⟩
    refine .cons ⟨_, rfl, ⟨_, rfl, rfl⟩, rfl, hyes⟩ (.cons ?_ (.cons ?_ .nil))
    · exact ⟨_, rfl, ⟨_, rfl, rfl⟩, rfl, (rfl : (0 : Int) = 0)⟩
    · exact ⟨_, rfl, ⟨_, rfl, rfl⟩, rfl, rfl⟩
  obtain ⟨view, hrule, -, hdraft, d', hagain, hsame, -⟩ := hview hread (some 7)
  have hsome : (RuleView.toJson ⟨some 7, looseDraft⟩).sent?.isSome = true := by decide +kernel
  obtain ⟨text, htext⟩ := Option.isSome_iff_exists.mp hsome
  have htexts : ∀ s ∈ looseDraft.texts, IsText s := by decide +kernel
  have hjson : Http.isJsonType (((submission "").header? "content-type").getD "") = true := by
    decide +kernel
  obtain ⟨-, -, hunsent⟩ := view_is_read_back .notRecord looseBody garbledDraft
  exact ⟨hread, ⟨view, hrule, hdraft, d', hagain, hsame⟩,
    ⟨text, htext, (hsent (some 7)).2 (submission text) htexts htext hjson⟩,
    (hunsent none).1.2 (.inl ⟨_, List.mem_cons_self, by decide⟩)⟩

end Recommender
