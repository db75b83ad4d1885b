import Recommender.Proofs.Database.Grouping
import Recommender.Proofs.Program.Simulation

/-!
# A database of rule tables

The rule table and the query table as a collaborator.  An inserted rule gets an identifier that is
greater than all identifiers handed out before; rows are stored as they are inserted, the arguments
of a query as the JSON text that was written; a selection gives the rows in the order that it asks
for, and with a rule go its query rows.  A transaction that is rolled back leaves no rows behind,
but it does not give its identifiers back.
-/

namespace Recommender

/-! ## Connections and transactions -/

namespace Database

variable {σ α : Type} {c : Program.Collaborator Database σ}

/-- Where connections are at hand, work with a connection is the work. -/
theorem run_withConnection {db : DatabaseName}
    (hacquire : ∀ s, c.answer (.acquire db) s = (.ok (), s))
    (hrelease : ∀ s, c.notice .release s = s) (work : Program Database α) (s : σ) :
    (withConnection db work).run c s = work.run c s := by
  have hacquired : (withConnection db work).run c s =
      ((Program.ofExcept (c.answer (.acquire db) s).1).bind fun _ =>
        work.andFinally (record .release)).run c (c.answer (.acquire db) s).2 := rfl
  rw [hacquired, hacquire]
  simp only [Program.ofExcept, Program.bind, Program.andFinally, Program.run_bind,
    Program.run_attempt, record, Program.record, Program.run, hrelease]
  cases work.run c s with
  | mk result s' => cases result <;> rfl

theorem run_withTransaction (work : Program Database α) (s : σ) :
    (withTransaction work).run c s =
      match work.run c (c.notice .begin s) with
      | (.ok a, s) => (.ok a, c.notice .commit s)
      | (.error e, s) => (.error e, c.notice .rollback s) := by
  simp only [withTransaction, record, Program.record, Program.bind_eq, Program.bind, Program.run,
    Program.run_bind, Program.run_attempt]
  cases work.run c (c.notice .begin s) with
  | mk result s' => cases result <;> rfl

end Database

/-- A rule table and a query table. -/
structure Tables where
  rules : List RuleRow := []
  queries : List StoredQuery := []
  /-- The greatest identifier that was handed out. -/
  lastId : Int := 0
  /-- The rows that come back if the transaction is rolled back. -/
  before : List RuleRow × List StoredQuery := ([], [])

/-- Whether a rule row may stand before another one: its identifier is not greater. -/
def RuleRow.precedes (a b : RuleRow) : Bool :=
  a.id ≤ b.id

/-- Whether a query row may stand before another one: it is of a smaller rule, or of the same rule
and at no greater position. -/
def StoredQuery.precedes (a b : StoredQuery) : Bool :=
  a.ruleId < b.ruleId || (a.ruleId = b.ruleId && a.position ≤ b.position)

theorem StoredQuery.precedes_iff {a b : StoredQuery} :
    a.precedes b = true ↔
      a.ruleId < b.ruleId ∨ (a.ruleId = b.ruleId ∧ a.position ≤ b.position) := by
  simp [precedes]

namespace Tables

/-- The column of a product identifier: the text of an identifier is held as the identifier. -/
def productIdCell : Json → Cell
  | .str s =>
    match Uuid.ofText? s with
    | some u => if u.text = s then .uuid u else .text s
    | none => .text s
  | v => .value v

theorem shown_productIdCell (s : String) : (productIdCell (.str s)).shown = s := by
  rw [productIdCell]
  split
  · split
    · assumption
    · rfl
  · rfl

/-- The row that an inserted row is stored as; it has to name its rule by a whole number. -/
def storedQuery? (row : QueryRow) : Option StoredQuery :=
  match row.ruleId with
  | .int n => some ⟨n, row.position, row.operator, row.arguments, row.negate⟩
  | _ => none

/-- Whether an argument of a statement names a rule. -/
def names (id : Json) (n : Int) : Bool :=
  (Json.int n).same id

@[simp] theorem names_int (n m : Int) : names (.int m) n = decide (n = m) := by
  rw [Bool.eq_iff_iff]
  simp [names, Json.same, Json.isNoNumber]

/-- Delete a rule with its queries. -/
def delete (id : Json) (t : Tables) : Tables :=
  { t with rules := t.rules.filter (!names id ·.id)
           queries := t.queries.filter (!names id ·.ruleId) }

/-- The rows that a statement selects. -/
def select (t : Tables) : Statement → List Cell
  | .selectRules => (t.rules.mergeSort RuleRow.precedes).map RuleRow.cell
  | .selectQueries => (t.queries.mergeSort StoredQuery.precedes).map StoredQuery.cell
  | _ => []

/-- The first cell of the first row that a statement selects or returns. -/
def firstCell (t : Tables) : Statement → Cell × Tables
  | .insertRule productId productName productText =>
    let id := t.lastId + 1
    (.int id, { t with rules := t.rules ++ [⟨id, productIdCell productId, productName, productText⟩]
                       lastId := id })
  | .ruleExists id => (.value (.bool (t.rules.any (names id ·.id))), t)
  | .ping => (.int 1, t)
  | _ => (.value .null, t)

/-- Answer a request. -/
def answer (r : DatabaseRequest) (t : Tables) : Except Failure r.Answer × Tables :=
  match r with
  | .openPool .. => (.ok (), t)
  | .isOpen _ => (.ok true, t)
  | .acquire _ => (.ok (), t)
  | .fetch s => (.ok (.list (t.select s)), t)
  | .fetchCell s => ((.ok (t.firstCell s).1), (t.firstCell s).2)
  | .execute (.deleteRule id) => (.ok (), t.delete id)
  | .execute _ => (.ok (), t)
  | .executeMany (.insertQueries rows) =>
    match rows.mapM storedQuery? with
    | some stored => (.ok (), { t with queries := t.queries ++ stored })
    | none => (.error .mistyped, t)
  | .executeMany _ => (.ok (), t)

/-- Take notice of an event. -/
def notice (t : Tables) (e : DatabaseEvent) : Tables :=
  match e with
  | .begin => { t with before := (t.rules, t.queries) }
  | .rollback => { t with rules := t.before.1, queries := t.before.2 }
  | .release | .commit | .close _ => t

/-- The tables as a collaborator. -/
def collaborator : Program.Collaborator Database Tables where
  answer := answer
  notice e t := t.notice e

/-! ## Rules in tables -/

/-- The tables after a rule has been inserted with its queries. -/
def inserted (t : Tables) (r : Rule) (stored : List StoredQuery) : Tables where
  rules := t.rules ++ [⟨t.lastId + 1, productIdCell r.productId, r.productName, r.productText⟩]
  queries := t.queries ++ stored
  lastId := t.lastId + 1
  before := (t.rules, t.queries)

variable {α : Type} {r : Rule} {queries : List Query} {rows : List QueryRow}
  {stored : List StoredQuery} {t : Tables}

theorem run_onRules (work : Program Database α) (t : Tables) :
    (Database.withConnection .rules work).run collaborator t = work.run collaborator t :=
  Database.run_withConnection (fun _ => rfl) (fun _ => rfl) work t

theorem run_fetchCell (s : Statement) (t : Tables) :
    (Database.fetchCell s).run collaborator t = (.ok (t.firstCell s).1, (t.firstCell s).2) :=
  Program.run_request collaborator (.fetchCell s) t

theorem run_insertQueries (hstored : rows.mapM storedQuery? = some stored) (t : Tables) :
    (Database.executeMany (.insertQueries rows)).run collaborator t =
      (.ok (), { t with queries := t.queries ++ stored }) := by
  have hanswer : answer (.executeMany (.insertQueries rows)) t =
      (.ok (), { t with queries := t.queries ++ stored }) := by
    simp only [answer, hstored]
  exact (Program.run_request collaborator (.executeMany (.insertQueries rows)) t).trans hanswer

/-- A rule is saved under the next identifier, if rows can be made of its queries. -/
theorem run_save (hqueries : r.queries = some queries)
    (hrows : RuleTables.queryRows (.int (t.lastId + 1)) 0 queries = .ok rows)
    (hstored : rows.mapM storedQuery? = some stored) :
    (RuleTables.save r).run collaborator t =
      (.ok { r with id := .int (t.lastId + 1) }, t.inserted r stored) := by
  have hrows' : RuleTables.queryRows (Cell.int (t.lastId + 1)).plain 0 queries = .ok rows := hrows
  have hinsert : (RuleTables.insert r).run collaborator (t.notice .begin) =
      (.ok (.int (t.lastId + 1)), t.inserted r stored) := by
    simp only [RuleTables.insert, hqueries, Program.bind_eq, Program.run_bind, run_fetchCell,
      firstCell, Program.ofOption, Program.run]
    simp only [notice, hrows', Program.ofExcept, Program.run, run_insertQueries hstored]
    rfl
  have hbegin : collaborator.notice .begin t = t.notice .begin := rfl
  simp only [RuleTables.save, Program.bind_eq, Program.run_bind, run_onRules,
    Database.run_withTransaction, hbegin, hinsert]
  rfl

/-- Inserting a rule begins no transaction and ends none. -/
theorem confined_insert (r : Rule) :
    (RuleTables.insert r).Confined (fun _ => True) (fun _ => False) := by
  refine (Program.confined_request trivial).bind fun id => ?_
  refine (Program.confined_ofOption _ _).bind fun queries => ?_
  refine (Program.confined_ofExcept _).bind fun rows => ?_
  exact (Program.confined_request trivial).bind fun _ => trivial

theorem before_answer (r : DatabaseRequest) (t : Tables) : (answer r t).2.before = t.before := by
  cases r with
  | fetchCell s => cases s <;> rfl
  | execute s => cases s <;> rfl
  | executeMany s =>
    cases s with
    | insertQueries rows =>
      simp only [answer]
      cases rows.mapM storedQuery? <;> rfl
    | _ => rfl
  | _ => rfl

/-- A rule that cannot be saved leaves no rows behind. -/
theorem rows_of_run_save_error {e : Failure} {t' : Tables}
    (h : (RuleTables.save r).run collaborator t = (.error e, t')) :
    t'.rules = t.rules ∧ t'.queries = t.queries := by
  have hbefore : ((RuleTables.insert r).run collaborator (t.notice .begin)).2.before =
      (t.rules, t.queries) :=
    (confined_insert r).invariant_run (fun r s _ hs => (before_answer r s).trans hs) nofun rfl
  have hbegin : collaborator.notice .begin t = t.notice .begin := rfl
  simp only [RuleTables.save, Program.bind_eq, Program.run_bind, run_onRules,
    Database.run_withTransaction, hbegin] at h
  cases hinsert : (RuleTables.insert r).run collaborator (t.notice .begin) with
  | mk result s =>
    rw [hinsert] at h hbefore
    cases result with
    | ok id => cases h
    | error e' =>
      obtain ⟨-, rfl⟩ := Prod.mk.inj h
      exact ⟨congrArg Prod.fst hbefore, congrArg Prod.snd hbefore⟩

theorem run_delete (id : Json) (t : Tables) :
    (RuleTables.delete id).run collaborator t = (.ok (), t.delete id) :=
  run_onRules _ t

/-- All rules are those that the selected rows describe. -/
theorem run_findAll (t : Tables) :
    RuleTables.findAll.run collaborator t =
      (RuleTables.assemble (.list (t.select .selectRules)) (.list (t.select .selectQueries)),
        t) := by
  have hassembled (r : Except Failure (List Rule)) :
      (Program.ofExcept r : Program Database (List Rule)).run collaborator t = (r, t) := by
    cases r <;> rfl
  rw [RuleTables.findAll, Program.bind_eq, Program.run_bind, run_onRules]
  exact hassembled _

end Tables

end Recommender
