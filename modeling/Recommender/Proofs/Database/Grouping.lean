import Recommender.Database.RuleTables

/-!
# Rules from rows

The rules that rows describe are the rule rows, each with the queries of its own query rows.  The
rows are given here by what is in their columns: a rule row has an identifier and the fields of a
product, a query row names a rule.  While query rows are taken in, the rules stand where their rows
stand, and only the rule that is named gets a query more; so the queries of a rule are those of the
rows that name it, in their order.
-/

namespace Recommender

/-- A row of the rule table. -/
structure RuleRow where
  id : Int
  productId : Cell
  productName : Json
  productText : Json

/-- A row of the query table. -/
structure StoredQuery where
  ruleId : Int
  position : Nat
  operator : Json
  /-- The arguments, as JSON text. -/
  arguments : String
  negate : Json

/-- A rule row as it is selected. -/
def RuleRow.cell (r : RuleRow) : Cell :=
  .row [("id", .int r.id), ("product_id", r.productId), ("product_name", .value r.productName),
    ("product_text", .value r.productText)]

/-- The rule of a row, without queries. -/
def RuleRow.rule (r : RuleRow) : Rule where
  productId := .str r.productId.shown
  productName := r.productName
  productText := r.productText
  id := .int r.id

/-- A query row as it is selected. -/
def StoredQuery.cell (q : StoredQuery) : Cell :=
  .row [("rule_id", .int q.ruleId), ("query", .value q.operator), ("arguments", .text q.arguments),
    ("negate", .value q.negate)]

/-- The query of a row, where it can be read. -/
def StoredQuery.read (q : StoredQuery) : Query :=
  (RuleTables.queryOfRow q.cell).toOption.getD default

theorem StoredQuery.read_eq {q : StoredQuery} {query : Query}
    (h : RuleTables.queryOfRow q.cell = .ok query) : q.read = query := by
  rw [read, h]
  rfl

@[simp] theorem Cell.same_int (n m : Int) : (Cell.int n).same (.int m) = decide (n = m) := by
  rw [Bool.eq_iff_iff]
  simp [Cell.same, Cell.int, Json.same, Json.isNoNumber]

namespace RuleTables

/-! ## Collected rules -/

/-- Rules in the order of their rows, with the queries that each has got so far. -/
def collected (queries : Int → List Query) (rows : List RuleRow) : Collected :=
  rows.map fun r => (.int r.id, { r.rule with queries := some (queries r.id) })

variable {queries : Int → List Query} {rows : List RuleRow} {n : Int}

theorem find?_collected (queries : Int → List Query) (rows : List RuleRow) (n : Int) :
    (collected queries rows).find? (.int n) = (rows.find? (·.id = n)).map fun r =>
      { r.rule with queries := some (queries r.id) } := by
  simp only [Collected.find?, collected, List.find?_map, Option.map_map, Function.comp_def,
    Cell.same_int]

theorem put_of_new (rule : Rule) (h : ∀ r ∈ rows, r.id ≠ n) :
    (collected queries rows).put (.int n) rule = collected queries rows ++ [(.int n, rule)] := by
  induction rows with
  | nil => rfl
  | cons r rows ih =>
    rw [List.forall_mem_cons] at h
    simpa [collected, Collected.put, h.1] using ih h.2

/-- The queries of all rules after the rule of an identifier has got one more. -/
def withQuery (n : Int) (q : Query) (queries : Int → List Query) : Int → List Query :=
  fun m => if m = n then queries m ++ [q] else queries m

theorem withQuery_self (n : Int) (q : Query) (queries : Int → List Query) :
    withQuery n q queries n = queries n ++ [q] :=
  if_pos rfl

/-- What a rule gets that has no row is nowhere seen. -/
theorem collected_withQuery_of_unknown (q : Query) (h : ∀ r ∈ rows, r.id ≠ n) :
    collected (withQuery n q queries) rows = collected queries rows :=
  List.map_congr_left fun r hr => by rw [withQuery, if_neg (h r hr)]

/-- A rule gets a query more where it stands. -/
theorem put_addQuery {r : RuleRow} (q : Query) (hids : (rows.map (·.id)).Nodup) (hr : r ∈ rows) :
    (collected queries rows).put (.int r.id)
        (addQuery q { r.rule with queries := some (queries r.id) }) =
      collected (withQuery r.id q queries) rows := by
  induction rows with
  | nil => cases hr
  | cons r' rows ih =>
    rw [List.map_cons, List.nodup_cons] at hids
    have hcons (f : Int → List Query) : collected f (r' :: rows) =
      (.int r'.id, { r'.rule with queries := some (f r'.id) }) :: collected f rows := rfl
    rw [hcons, hcons, Collected.put, Cell.same_int]
    rcases List.mem_cons.mp hr with rfl | hr
    · have hothers : ∀ s ∈ rows, s.id ≠ r.id := fun s hs heq =>
        hids.1 (List.mem_map.mpr ⟨s, hs, heq⟩)
      rw [decide_eq_true rfl, if_pos rfl, collected_withQuery_of_unknown q hothers, withQuery_self]
      rfl
    · have hne : r'.id ≠ r.id := fun heq => hids.1 (List.mem_map.mpr ⟨r, hr, heq.symm⟩)
      rw [decide_eq_false hne, if_neg Bool.false_ne_true, ih hids.2 hr, withQuery, if_neg hne]

/-! ## Taking rows in -/

theorem addRule_cell (rules : Collected) (r : RuleRow) :
    addRule rules r.cell = .ok (rules.put (.int r.id) r.rule) :=
  rfl

/-- Rule rows of different identifiers are taken in one behind the other. -/
theorem foldlM_addRule (earlier rows : List RuleRow)
    (hids : ((earlier ++ rows).map (·.id)).Nodup) :
    (rows.map RuleRow.cell).foldlM addRule (collected (fun _ => []) earlier) =
      .ok (collected (fun _ => []) (earlier ++ rows)) := by
  induction rows generalizing earlier with
  | nil => rw [List.append_nil]; rfl
  | cons r rows ih =>
    have hnew : ∀ s ∈ earlier, s.id ≠ r.id := by
      rw [List.map_append, List.nodup_append] at hids
      exact fun s hs => hids.2.2 _ (List.mem_map_of_mem hs) _ List.mem_cons_self
    have hnext : collected (fun _ => []) earlier ++ [(.int r.id, r.rule)] =
        collected (fun _ => []) (earlier ++ [r]) := by
      simp [collected, RuleRow.rule]
    rw [List.append_cons] at hids ⊢
    rw [List.map_cons, List.foldlM_cons, addRule_cell, put_of_new _ hnew, hnext]
    exact ih (earlier ++ [r]) hids

theorem attach_of_unknown {q : StoredQuery} {rules : Collected}
    (h : rules.find? (.int q.ruleId) = none) : attach rules q.cell = .ok rules := by
  have hcolumn : q.cell.column "rule_id" = .ok (.int q.ruleId) := rfl
  have hkey : keyOf (.int q.ruleId) = .ok (.int q.ruleId) := rfl
  simp only [attach, hcolumn, hkey, h, bind, Except.bind]
  rfl

theorem attach_of_known {q : StoredQuery} {rules : Collected} {r : Rule}
    (h : rules.find? (.int q.ruleId) = some r) (hread : queryOfRow q.cell = .ok q.read) :
    attach rules q.cell = .ok (rules.put (.int q.ruleId) (addQuery q.read r)) := by
  have hcolumn : q.cell.column "rule_id" = .ok (.int q.ruleId) := rfl
  have hkey : keyOf (.int q.ruleId) = .ok (.int q.ruleId) := rfl
  simp only [attach, hcolumn, hkey, h, hread, bind, Except.bind]
  rfl

/-- A query row is taken in: the rule that it names gets its query, and where it names no rule,
nothing is changed. -/
theorem attach_cell {q : StoredQuery} (hids : (rows.map (·.id)).Nodup)
    (hread : q.ruleId ∈ rows.map (·.id) → queryOfRow q.cell = .ok q.read) :
    attach (collected queries rows) q.cell =
      .ok (collected (withQuery q.ruleId q.read queries) rows) := by
  have hcollected := find?_collected queries rows q.ruleId
  cases hfind : rows.find? (·.id = q.ruleId) with
  | none =>
    have hunknown : ∀ r ∈ rows, r.id ≠ q.ruleId := by simpa using hfind
    rw [hfind] at hcollected
    rw [attach_of_unknown hcollected, collected_withQuery_of_unknown q.read hunknown]
  | some r =>
    have hmem := List.mem_of_find?_eq_some hfind
    have hid : r.id = q.ruleId := by simpa using List.find?_some hfind
    rw [hfind] at hcollected
    rw [← hid] at hread
    rw [attach_of_known hcollected (hread (List.mem_map_of_mem hmem)), ← hid,
      put_addQuery q.read hids hmem]

/-- The queries that rows hold for a rule. -/
def queriesOf (stored : List StoredQuery) (n : Int) : List Query :=
  (stored.filter (·.ruleId = n)).map StoredQuery.read

theorem foldlM_attach (stored : List StoredQuery) (hids : (rows.map (·.id)).Nodup)
    (hread : ∀ q ∈ stored, q.ruleId ∈ rows.map (·.id) → queryOfRow q.cell = .ok q.read)
    (queries : Int → List Query) :
    (stored.map StoredQuery.cell).foldlM attach (collected queries rows) =
      .ok (collected (fun n => queries n ++ queriesOf stored n) rows) := by
  induction stored generalizing queries with
  | nil => simp [queriesOf]; rfl
  | cons q stored ih =>
    rw [List.forall_mem_cons] at hread
    have hqueries : (fun n => queries n ++ queriesOf (q :: stored) n) =
        fun n => withQuery q.ruleId q.read queries n ++ queriesOf stored n := by
      funext n
      by_cases h : n = q.ruleId
      · subst h
        simp [queriesOf, withQuery]
      · simp [queriesOf, withQuery, h, Ne.symm h]
    rw [List.map_cons, List.foldlM_cons, attach_cell hids hread.1, hqueries]
    exact ih hread.2 _

/-- **The rules that rows describe**, where rule rows have different identifiers: one rule for every
rule row, in the order of these rows, with the queries of the query rows that name it, in the order
of those.  Query rows that name no rule are passed over. -/
theorem assemble_cells (rows : List RuleRow) (stored : List StoredQuery)
    (hids : (rows.map (·.id)).Nodup)
    (hread : ∀ q ∈ stored, q.ruleId ∈ rows.map (·.id) → queryOfRow q.cell = .ok q.read) :
    assemble (.list (rows.map RuleRow.cell)) (.list (stored.map StoredQuery.cell)) =
      .ok (rows.map fun r => { r.rule with queries := some (queriesOf stored r.id) }) := by
  have hrules := foldlM_addRule [] rows hids
  have hqueries := foldlM_attach stored hids hread fun _ => []
  have hassemble : assemble (.list (rows.map RuleRow.cell)) (.list (stored.map StoredQuery.cell)) =
      ((rows.map RuleRow.cell).foldlM addRule []).bind fun rules =>
        ((stored.map StoredQuery.cell).foldlM attach rules).bind fun rules =>
          .ok (rules.map (·.2)) := rfl
  rw [hassemble, show ([] : Collected) = collected (fun _ => []) [] from rfl, hrules]
  change ((stored.map StoredQuery.cell).foldlM attach (collected (fun _ => []) rows)).bind _ = _
  rw [hqueries]
  simp [Except.bind, collected]

end RuleTables

end Recommender
