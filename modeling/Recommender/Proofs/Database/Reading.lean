import Recommender.Proofs.Database.Archive
import Recommender.Proofs.Program
import Recommender.Proofs.Sorting

/-!
# Rules from any rows

All rules are read in two statements, and the rule rows decide which rules there are.  The query
rows of these rules are read one after the other; those of other rules are passed over unread.  If
all can be read, every rule has the queries that its own rows hold, and no others; if not, nothing
is returned, and the failure is that of the first row that cannot be read.

This is so of any rows, so also of rule rows and query rows that were selected at different moments.
-/

namespace Recommender

namespace RuleTables

variable {rows : List RuleRow} {stored : List StoredQuery}

/-- The query rows of rules can be read. -/
def Readable (rows : List RuleRow) (stored : List StoredQuery) : Prop :=
  ∀ q ∈ stored, q.ruleId ∈ rows.map (·.id) → ∃ query, queryOfRow q.cell = .ok query

theorem Readable.read (h : Readable rows stored) :
    ∀ q ∈ stored, q.ruleId ∈ rows.map (·.id) → queryOfRow q.cell = .ok q.read := by
  intro q hq hknown
  obtain ⟨query, hquery⟩ := h q hq hknown
  rw [hquery, StoredQuery.read_eq hquery]

/-- Where the query row of a rule cannot be read, the row is not taken in. -/
theorem attach_of_unreadable {queries : Int → List Query} {q : StoredQuery} {e : Failure}
    (hknown : q.ruleId ∈ rows.map (·.id)) (hread : queryOfRow q.cell = .error e) :
    attach (collected queries rows) q.cell = .error e := by
  have hcolumn : q.cell.column "rule_id" = .ok (.int q.ruleId) := rfl
  have hkey : keyOf (.int q.ruleId) = .ok (.int q.ruleId) := rfl
  obtain ⟨r, hr, hid⟩ := List.mem_map.mp hknown
  cases hfind : rows.find? (·.id = q.ruleId) with
  | none =>
    have hunknown : ∀ r ∈ rows, r.id ≠ q.ruleId := by simpa using hfind
    exact absurd hid (hunknown r hr)
  | some r =>
    have hrule := find?_collected queries rows q.ruleId
    rw [hfind, Option.map_some] at hrule
    simp only [attach, hcolumn, hkey, hrule, hread, bind, Except.bind]

/-- No rules are made of rows one of which cannot be read. -/
theorem assemble_of_unreadable {before after : List StoredQuery} {q : StoredQuery} {e : Failure}
    (hids : (rows.map (·.id)).Nodup) (hbefore : Readable rows before)
    (hknown : q.ruleId ∈ rows.map (·.id)) (hread : queryOfRow q.cell = .error e) :
    assemble (.list (rows.map RuleRow.cell)) (.list ((before ++ q :: after).map StoredQuery.cell)) =
      .error e := by
  have hrules := foldlM_addRule [] rows hids
  have hqueries := foldlM_attach before hids hbefore.read fun _ => []
  have hassemble : assemble (.list (rows.map RuleRow.cell))
      (.list ((before ++ q :: after).map StoredQuery.cell)) =
        ((rows.map RuleRow.cell).foldlM addRule []).bind fun rules =>
          (((before ++ q :: after).map StoredQuery.cell).foldlM attach rules).bind fun rules =>
            .ok (rules.map (·.2)) := rfl
  rw [hassemble, show ([] : Collected) = collected (fun _ => []) [] from rfl, hrules]
  change (((before ++ q :: after).map StoredQuery.cell).foldlM attach
    (collected (fun _ => []) rows)).bind _ = _
  rw [List.map_append, List.map_cons, List.foldlM_append, hqueries]
  change ((q.cell :: after.map StoredQuery.cell).foldlM attach _).bind _ = _
  rw [List.foldlM_cons, attach_of_unreadable hknown hread]
  rfl

section

variable {answer : (r : Database.Request) → Except Failure (Database.Answer r)} {α β : Type}

/-- After a request that is answered, a program goes on with the answer. -/
theorem against_request_bind {r : Database.Request} {a : Database.Answer r}
    (h : answer r = .ok a) (f : Database.Answer r → Program Database β) :
    ((Program.request r).bind f).against answer = (f a).against answer := by
  rw [Program.against_bind, Program.against_request, h]
  rfl

/-- Where a connection is at hand, work with it ends as the work. -/
theorem against_withConnection {db : DatabaseName} (hacquire : answer (.acquire db) = .ok ())
    (work : Program Database α) :
    (Database.withConnection db work).against answer = work.against answer := by
  refine (against_request_bind hacquire _).trans ?_
  refine (Program.against_bind answer work.attempt _).trans ?_
  rw [Program.against_attempt]
  exact Program.against_ofExcept answer (work.against answer)

/-- All rules are what the two selections describe. -/
theorem findAll_against {ruleRows queryRows : Cell} (hacquire : answer (.acquire .rules) = .ok ())
    (hrules : answer (.fetch .selectRules) = .ok ruleRows)
    (hqueries : answer (.fetch .selectQueries) = .ok queryRows) :
    findAll.against answer = assemble ruleRows queryRows := by
  refine (Program.against_bind answer _ _).trans ?_
  rw [against_withConnection hacquire]
  refine (congrArg (Except.bind · _) ((against_request_bind hrules _).trans
    (against_request_bind hqueries _))).trans ?_
  exact Program.against_ofExcept answer (assemble ruleRows queryRows)

end

end RuleTables

/-! ## Rows in order -/

namespace StoredQuery

theorem precedes_trans (a b c : StoredQuery) (hab : a.precedes b = true)
    (hbc : b.precedes c = true) : a.precedes c = true := by
  rw [precedes_iff] at *
  omega

theorem precedes_total (a b : StoredQuery) : (a.precedes b || b.precedes a) = true := by
  rw [Bool.or_eq_true, precedes_iff, precedes_iff]
  omega

end StoredQuery

namespace RuleTables

/-- The queries of a rule are those of its rows in the order of their positions, wherever other
rows stand. -/
theorem queriesOf_mergeSort (stored : List StoredQuery) (n : Int) :
    queriesOf (stored.mergeSort StoredQuery.precedes) n =
      ((stored.filter (·.ruleId = n)).mergeSort StoredQuery.precedes).map StoredQuery.read := by
  rw [queriesOf, filter_mergeSort StoredQuery.precedes_trans StoredQuery.precedes_total]

end RuleTables

end Recommender
