import Recommender.Proofs.Database.Tables
import Recommender.Proofs.Json.Written

/-!
# Rules come back as they were saved

Rules with queries of any texts are saved in tables and deleted again, in any order, and at times
identifiers are handed out that no rule keeps.  The rules that are found then are those that were
saved and not deleted, in the order of their identifiers, and each one is the rule that was saved:
with its fields, and with its queries in their order, of the same operators, arguments and
negations.

The tables hold the rows of the kept rules one behind the other.  This is what every command
preserves; that rows are read back as the queries that they were made of is due to the written
texts.
-/

namespace Recommender

/-- A query of texts of characters. -/
structure AuthoredQuery where
  operator : String
  arguments : List String
  negate : Bool

/-- A rule of texts of characters. -/
structure AuthoredRule where
  productId : String
  productName : String
  productText : String
  queries : List AuthoredQuery

namespace AuthoredQuery

/-- The query to be saved. -/
def query (q : AuthoredQuery) : Query :=
  .ofTexts (textOfCharacters q.operator) (q.arguments.map textOfCharacters) q.negate

/-- The row of a query at its position in a rule. -/
def stored (n : Int) (q : AuthoredQuery) (position : Nat) : StoredQuery where
  ruleId := n
  position := position
  operator := .str (textOfCharacters q.operator)
  arguments := (Json.ofStrings (q.arguments.map textOfCharacters)).compress
  negate := .bool q.negate

/-- A query is read back from its row. -/
theorem queryOfRow_stored (n : Int) (q : AuthoredQuery) (position : Nat) :
    RuleTables.queryOfRow (q.stored n position).cell = .ok q.query := by
  have harguments : RuleTables.argumentsOfCell (.text (q.stored n position).arguments) =
      .ok (.ofStrings (q.arguments.map textOfCharacters)) := by
    simp only [RuleTables.argumentsOfCell, Cell.text, stored, Json.compress, String.toList_ofList,
      Json.maxNesting, Json.readWithin_write_ofStrings]
  have hquery : RuleTables.queryOfRow (q.stored n position).cell =
      (RuleTables.argumentsOfCell (.text (q.stored n position).arguments)).bind fun arguments =>
        .ok ⟨q.query.operator, arguments, q.query.negate⟩ := rfl
  rw [hquery, harguments]
  rfl

end AuthoredQuery

namespace AuthoredRule

/-- The rule to be saved. -/
def rule (r : AuthoredRule) : Rule where
  productId := .str (textOfCharacters r.productId)
  productName := .str (textOfCharacters r.productName)
  productText := .str (textOfCharacters r.productText)
  queries := some (r.queries.map AuthoredQuery.query)

/-- The rule row of a rule. -/
def row (n : Int) (r : AuthoredRule) : RuleRow where
  id := n
  productId := Tables.productIdCell r.rule.productId
  productName := r.rule.productName
  productText := r.rule.productText

/-- The rows of queries from a position on. -/
def storedFrom (n : Int) (position : Nat) (queries : List AuthoredQuery) : List StoredQuery :=
  (queries.zipIdx position).map fun q => q.1.stored n q.2

/-- The query rows of a rule. -/
def stored (n : Int) (r : AuthoredRule) : List StoredQuery :=
  storedFrom n 0 r.queries

theorem ruleId_of_mem_storedFrom {n : Int} {position : Nat} {queries : List AuthoredQuery} :
    ∀ q ∈ storedFrom n position queries, q.ruleId = n := by
  intro q hq
  obtain ⟨p, -, rfl⟩ := List.mem_map.mp hq
  rfl

/-- Rows are made of all queries, and stored. -/
theorem exists_rows (n : Int) (position : Nat) (queries : List AuthoredQuery) :
    ∃ rows, RuleTables.queryRows (.int n) position (queries.map AuthoredQuery.query) = .ok rows ∧
      rows.mapM Tables.storedQuery? = some (storedFrom n position queries) := by
  induction queries generalizing position with
  | nil => exact ⟨[], rfl, rfl⟩
  | cons q queries ih =>
    obtain ⟨rows, hrows, hstored⟩ := ih (position + 1)
    refine ⟨⟨.int n, position, q.query.operator, (q.stored n position).arguments, q.query.negate⟩ ::
      rows, ?_, ?_⟩
    · rw [List.map_cons, RuleTables.queryRows, hrows]
      rfl
    · rw [List.mapM_cons, hstored]
      rfl

/-- The rows of a rule are read back as its queries. -/
theorem map_read_storedFrom (n : Int) (position : Nat) (queries : List AuthoredQuery) :
    (storedFrom n position queries).map StoredQuery.read = queries.map AuthoredQuery.query := by
  have hread (q : AuthoredQuery × Nat) : (q.1.stored n q.2).read = q.1.query :=
    StoredQuery.read_eq (AuthoredQuery.queryOfRow_stored n q.1 q.2)
  have hqueries := congrArg (List.map AuthoredQuery.query) (List.zipIdx_map_fst position queries)
  rw [List.map_map] at hqueries
  simpa only [storedFrom, List.map_map, Function.comp_def, hread] using hqueries

/-- The rows of a rule stand in the order of their positions. -/
theorem pairwise_storedFrom (n : Int) (position : Nat) (queries : List AuthoredQuery) :
    (storedFrom n position queries).Pairwise (fun a b => a.precedes b = true) := by
  induction queries generalizing position with
  | nil => exact .nil
  | cons q queries ih =>
    rw [storedFrom, List.zipIdx_cons, List.map_cons, List.pairwise_cons]
    refine ⟨?_, ih (position + 1)⟩
    intro a ha
    obtain ⟨p, hp, rfl⟩ := List.mem_map.mp ha
    have hposition : position + 1 ≤ p.2 := List.le_snd_of_mem_zipIdx hp
    exact StoredQuery.precedes_iff.mpr (.inr ⟨rfl, Nat.le_of_succ_le hposition⟩)

/-- Query rows are chosen by their rule, all rows of a rule together. -/
theorem filter_flatMap_stored (p : Int → Bool) (entries : List (Int × AuthoredRule)) :
    (entries.flatMap fun e => e.2.stored e.1).filter (fun q => p q.ruleId) =
      (entries.filter fun e => p e.1).flatMap fun e => e.2.stored e.1 := by
  have hrule (e : Int × AuthoredRule) : (e.2.stored e.1).filter (fun q => p q.ruleId) =
      if p e.1 then e.2.stored e.1 else [] := by
    have hid : ∀ q ∈ e.2.stored e.1, q.ruleId = e.1 := ruleId_of_mem_storedFrom
    split
    · next h => exact List.filter_eq_self.mpr fun q hq => by rw [hid q hq, h]
    · next h => exact List.filter_eq_nil_iff.mpr fun q hq => by rw [hid q hq]; exact h
  induction entries with
  | nil => rfl
  | cons e entries ih =>
    rw [List.flatMap_cons, List.filter_append, hrule, ih, List.filter_cons]
    split <;> simp

/-- Under different identifiers there is one rule of each. -/
theorem filter_id_eq {entries : List (Int × AuthoredRule)} {e : Int × AuthoredRule}
    (h : (entries.map (·.1)).Nodup) (he : e ∈ entries) :
    entries.filter (fun f => decide (f.1 = e.1)) = [e] := by
  induction entries with
  | nil => cases he
  | cons f entries ih =>
    rw [List.map_cons, List.nodup_cons, List.mem_map] at h
    rw [List.filter_cons]
    rcases List.mem_cons.mp he with rfl | he
    · have hnone : entries.filter (fun f => decide (f.1 = e.1)) = [] :=
        List.filter_eq_nil_iff.mpr fun f hf => by
          rw [decide_eq_true_iff]
          exact fun heq => h.1 ⟨f, hf, heq⟩
      rw [if_pos (decide_eq_true rfl), hnone]
    · have hne : ¬ decide (f.1 = e.1) = true := by
        rw [decide_eq_true_iff]
        exact fun heq => h.1 ⟨e, he, heq.symm⟩
      rw [if_neg hne, ih h.2 he]

end AuthoredRule

/-- The tables hold whole rules under different identifiers. -/
structure Tables.Keeps (t : Tables) (entries : List (Int × AuthoredRule)) : Prop where
  rules : t.rules = entries.map fun e => e.2.row e.1
  queries : t.queries = entries.flatMap fun e => e.2.stored e.1
  nodup : (entries.map (·.1)).Nodup

namespace Tables.Keeps

variable {t : Tables} {entries : List (Int × AuthoredRule)}

theorem map_id (h : t.Keeps entries) : t.rules.map (·.id) = entries.map (·.1) := by
  rw [h.rules, List.map_map]
  rfl

/-- The query rows that name a kept rule are all of its own. -/
theorem filter_queries (h : t.Keeps entries) {e : Int × AuthoredRule} (he : e ∈ entries) :
    t.queries.filter (fun q => decide (q.ruleId = e.1)) = e.2.stored e.1 := by
  rw [h.queries, AuthoredRule.filter_flatMap_stored (fun n => decide (n = e.1)),
    AuthoredRule.filter_id_eq h.nodup he, List.flatMap_singleton]

/-- Every query row can be read. -/
theorem exists_queryOfRow (h : t.Keeps entries) {q : StoredQuery} (hq : q ∈ t.queries) :
    ∃ query, RuleTables.queryOfRow q.cell = .ok query := by
  rw [h.queries] at hq
  obtain ⟨e, -, hq⟩ := List.mem_flatMap.mp hq
  obtain ⟨p, -, rfl⟩ := List.mem_map.mp hq
  exact ⟨_, AuthoredQuery.queryOfRow_stored e.1 p.1 p.2⟩

/-- A deleted rule takes its rows with it. -/
theorem delete (h : t.Keeps entries) (n : Int) :
    (t.delete (.int n)).Keeps (entries.filter (·.1 ≠ n)) where
  rules := by
    simp only [Tables.delete, names_int, h.rules, List.filter_map, ne_eq, decide_not]
    rfl
  queries := by
    simp only [Tables.delete, names_int, h.queries, ne_eq, decide_not]
    exact AuthoredRule.filter_flatMap_stored (fun m => !decide (m = n)) entries
  nodup := h.nodup.sublist (List.filter_sublist.map _)

end Tables.Keeps

namespace Tables

/-- The tables hold rules under ascending identifiers, none of which is greater than the last one
that was handed out. -/
structure Holds (t : Tables) (entries : List (Int × AuthoredRule)) : Prop where
  rules : t.rules = entries.map fun e => e.2.row e.1
  queries : t.queries = entries.flatMap fun e => e.2.stored e.1
  ascending : entries.Pairwise fun e f => e.1 < f.1
  le_lastId : ∀ e ∈ entries, e.1 ≤ t.lastId

variable {t : Tables} {entries : List (Int × AuthoredRule)}

theorem holds_empty : Holds {} [] :=
  ⟨rfl, rfl, .nil, nofun⟩

theorem Holds.keeps (h : Holds t entries) : t.Keeps entries where
  rules := h.rules
  queries := h.queries
  nodup := by
    rw [List.Nodup, List.pairwise_map]
    exact h.ascending.imp fun hlt => Int.ne_of_lt hlt

/-- Of all query rows, those of a kept rule are its own. -/
theorem Holds.queriesOf (h : Holds t entries) {e : Int × AuthoredRule} (he : e ∈ entries) :
    RuleTables.queriesOf t.queries e.1 = e.2.queries.map AuthoredQuery.query := by
  rw [RuleTables.queriesOf, h.keeps.filter_queries he, AuthoredRule.stored,
    AuthoredRule.map_read_storedFrom]

/-- The rule rows stand in the order in which they are selected. -/
theorem Holds.select_rules (h : Holds t entries) :
    t.select .selectRules = t.rules.map RuleRow.cell := by
  have hsorted : t.rules.Pairwise fun a b => a.precedes b = true := by
    rw [h.rules, List.pairwise_map]
    exact h.ascending.imp fun hlt => decide_eq_true (Int.le_of_lt hlt)
  rw [select, List.mergeSort_of_pairwise hsorted]

/-- The query rows stand in the order in which they are selected. -/
theorem Holds.select_queries (h : Holds t entries) :
    t.select .selectQueries = t.queries.map StoredQuery.cell := by
  have hsorted : t.queries.Pairwise fun a b => a.precedes b = true := by
    rw [h.queries, List.pairwise_flatMap]
    refine ⟨fun e _ => AuthoredRule.pairwise_storedFrom e.1 0 e.2.queries, ?_⟩
    refine h.ascending.imp fun {e f} hlt a ha b hb => StoredQuery.precedes_iff.mpr (.inl ?_)
    rwa [AuthoredRule.ruleId_of_mem_storedFrom a ha, AuthoredRule.ruleId_of_mem_storedFrom b hb]
  rw [select, List.mergeSort_of_pairwise hsorted]

/-- The kept rules are found. -/
theorem Holds.run_findAll (h : Holds t entries) :
    RuleTables.findAll.run collaborator t =
      (.ok (entries.map fun e => { e.2.rule with id := .int e.1 }), t) := by
  have hids : (t.rules.map (·.id)).Nodup := by
    rw [h.keeps.map_id]
    exact h.keeps.nodup
  have hread : ∀ q ∈ t.queries, q.ruleId ∈ t.rules.map (·.id) →
      RuleTables.queryOfRow q.cell = .ok q.read := by
    intro q hq _
    obtain ⟨query, hquery⟩ := h.keeps.exists_queryOfRow hq
    rw [hquery, StoredQuery.read_eq hquery]
  rw [Tables.run_findAll, h.select_rules, h.select_queries,
    RuleTables.assemble_cells t.rules t.queries hids hread, h.rules, List.map_map]
  have hrule : ∀ e ∈ entries, { (e.2.row e.1).rule with
      queries := some (RuleTables.queriesOf t.queries (e.2.row e.1).id) } =
      { e.2.rule with id := .int e.1 } := by
    intro e he
    simp only [AuthoredRule.row, RuleRow.rule, h.queriesOf he, AuthoredRule.rule,
      shown_productIdCell]
  exact congrArg (fun rules => (Except.ok rules, t)) (List.map_congr_left hrule)

/-- A rule that is inserted under the next identifier is the last one. -/
theorem Holds.inserted (h : Holds t entries) (r : AuthoredRule) :
    Holds (t.inserted r.rule (r.stored (t.lastId + 1))) (entries ++ [(t.lastId + 1, r)]) where
  rules := by
    rw [Tables.inserted, h.rules, List.map_append]
    rfl
  queries := by
    rw [Tables.inserted, h.queries, List.flatMap_append, List.flatMap_singleton]
  ascending := by
    rw [List.pairwise_append]
    refine ⟨h.ascending, List.pairwise_singleton _ _, ?_⟩
    intro e he f hf
    obtain rfl := List.mem_singleton.mp hf
    exact Int.lt_add_one_of_le (h.le_lastId e he)
  le_lastId := by
    intro e he
    rcases List.mem_append.mp he with he | he
    · exact Int.le_add_one (h.le_lastId e he)
    · obtain rfl := List.mem_singleton.mp he
      exact Int.le_refl _

/-- A rule is saved under the next identifier. -/
theorem Holds.run_save (h : Holds t entries) (r : AuthoredRule) :
    ∃ t', (RuleTables.save r.rule).run collaborator t =
        (.ok { r.rule with id := .int (t.lastId + 1) }, t') ∧
      Holds t' (entries ++ [(t.lastId + 1, r)]) := by
  obtain ⟨rows, hrows, hstored⟩ := AuthoredRule.exists_rows (t.lastId + 1) 0 r.queries
  exact ⟨_, Tables.run_save rfl hrows hstored, h.inserted r⟩

/-- A deleted rule takes its rows with it. -/
theorem Holds.delete (h : Holds t entries) (n : Int) :
    Holds (t.delete (.int n)) (entries.filter (·.1 ≠ n)) where
  rules := (h.keeps.delete n).rules
  queries := (h.keeps.delete n).queries
  ascending := h.ascending.filter _
  le_lastId := fun e he => h.le_lastId e (List.mem_filter.mp he).1

/-- Identifiers that no rule keeps are none of the kept rules'. -/
theorem Holds.skip (h : Holds t entries) (count : Nat) :
    Holds { t with lastId := t.lastId + count } entries where
  rules := h.rules
  queries := h.queries
  ascending := h.ascending
  le_lastId := fun e he =>
    Int.le_trans (h.le_lastId e he) (Int.le_add_of_nonneg_right (Int.natCast_nonneg count))

end Tables

/-! ## Saving and deleting -/

/-- What happens to the tables. -/
inductive ArchiveCommand where
  | save (r : AuthoredRule)
  | delete (id : Int)
  /-- Identifiers are handed out that no rule keeps. -/
  | skip (count : Nat)

/-- Tables, and the rules that were saved and not deleted, each with the identifier that it got when
it was saved. -/
structure Archive where
  tables : Tables := {}
  kept : List (Json × AuthoredRule) := []

namespace Archive

/-- Carry a command out. -/
def step (a : Archive) : ArchiveCommand → Archive
  | .save r =>
    match (RuleTables.save r.rule).run Tables.collaborator a.tables with
    | (.ok saved, tables) => ⟨tables, a.kept ++ [(saved.id, r)]⟩
    | (.error _, tables) => ⟨tables, a.kept⟩
  | .delete id =>
    match (RuleTables.delete (.int id)).run Tables.collaborator a.tables with
    | (.ok _, tables) => ⟨tables, a.kept.filter (!·.1.equal (.int id))⟩
    | (.error _, tables) => ⟨tables, a.kept⟩
  | .skip count => { a with tables := { a.tables with lastId := a.tables.lastId + count } }

/-- Carry commands out, from empty tables on. -/
def run (commands : List ArchiveCommand) : Archive :=
  commands.foldl step {}

/-- The tables hold the kept rules. -/
def InOrder (a : Archive) : Prop :=
  ∃ entries, a.tables.Holds entries ∧ a.kept = entries.map fun e => (.int e.1, e.2)

theorem inOrder_step {a : Archive} (h : a.InOrder) (command : ArchiveCommand) :
    (a.step command).InOrder := by
  obtain ⟨entries, hholds, hkept⟩ := h
  cases command with
  | save r =>
    obtain ⟨t, hrun, hheld⟩ := hholds.run_save r
    refine ⟨_, by rw [step, hrun]; exact hheld, ?_⟩
    rw [step, hrun, List.map_append, ← hkept]
    rfl
  | delete id =>
    refine ⟨_, hholds.delete id, ?_⟩
    have hsame : ∀ e ∈ entries, (!(Json.int e.1).equal (.int id)) = decide (e.1 ≠ id) := by
      intro e _
      rw [Json.equal_int, decide_not]
      rfl
    rw [step, Tables.run_delete, hkept, List.filter_map]
    exact congrArg _ (List.filter_congr hsame)
  | skip count => exact ⟨entries, hholds.skip count, hkept⟩

theorem inOrder_run (commands : List ArchiveCommand) : (run commands).InOrder :=
  List.foldlRecOn commands step ⟨[], Tables.holds_empty, rfl⟩ fun _ h command _ =>
    inOrder_step h command

/-- **Rules come back as they were saved.**  Whatever is saved and deleted, a further rule is saved
under an identifier that is greater than those of the kept rules, every deletion succeeds, and all
rules that are found are the kept ones, in ascending order of their identifiers, each as it was
saved: with its identifier and fields, and with its queries in their order, of the same operators,
arguments and negations.  Finding them leaves the tables as they are. -/
theorem findAll_returns_what_was_saved (commands : List ArchiveCommand) :
    (∀ r : AuthoredRule, ∃ (n : Int) (t : Tables),
      (RuleTables.save r.rule).run Tables.collaborator (run commands).tables =
        (.ok { r.rule with id := .int n }, t) ∧
      ∀ e ∈ (run commands).kept, ∃ m < n, e.1 = .int m) ∧
    (∀ n : Int, ∃ t : Tables, (RuleTables.delete (.int n)).run Tables.collaborator
      (run commands).tables = (.ok (), t)) ∧
    (∃ ids : List Int, (run commands).kept.map (·.1) = ids.map .int ∧
      ids.Pairwise fun m n => m < n) ∧
    RuleTables.findAll.run Tables.collaborator (run commands).tables =
      (.ok ((run commands).kept.map fun e => { e.2.rule with id := e.1 }),
        (run commands).tables) := by
  obtain ⟨entries, hholds, hkept⟩ := inOrder_run commands
  rw [hkept]
  refine ⟨?_, ?_, ?_, ?_⟩
  · intro r
    obtain ⟨t, hrun, -⟩ := hholds.run_save r
    refine ⟨_, t, hrun, ?_⟩
    intro e he
    obtain ⟨e', he', rfl⟩ := List.mem_map.mp he
    exact ⟨e'.1, Int.lt_add_one_of_le (hholds.le_lastId e' he'), rfl⟩
  · exact fun n => ⟨_, Tables.run_delete (.int n) _⟩
  · refine ⟨entries.map (·.1), ?_, List.pairwise_map.mpr hholds.ascending⟩
    simp
  · rw [hholds.run_findAll, List.map_map]
    rfl

end Archive

end Recommender
