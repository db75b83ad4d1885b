import Recommender.Proofs.Database.Reading
import Recommender.Proofs.Program.Rely

/-!
# Tables that are shared

Many clients work on the tables at once, each by single steps.  What a client writes in a
transaction is seen by nobody else until it is committed, and then all at once; what is written
outside of transactions is committed at once.  A selection sees what is committed at that moment, so
two selections of one client may see different moments.  Identifiers are handed out at once, also
within transactions, and to nobody twice.

All that a client's step can do is one of six *moves*, and this is what the others rely on.
-/

namespace Recommender

/-- A call of an operation on the rule tables. -/
inductive TableCall where
  | save (r : AuthoredRule)
  | delete (id : Int)
  | findAll

namespace TableCall

/-- What a call ends with. -/
def Result : TableCall → Type
  | .save _ => Rule
  | .delete _ => Unit
  | .findAll => List Rule

/-- The operation that is called. -/
def program : (c : TableCall) → Program Database c.Result
  | .save r => RuleTables.save r.rule
  | .delete id => RuleTables.delete (.int id)
  | .findAll => RuleTables.findAll

end TableCall

/-- Something that is written in tables. -/
inductive TableWrite where
  | rule (row : RuleRow)
  | queries (rows : List StoredQuery)
  | delete (id : Json)

/-- The tables after something has been written. -/
def Tables.written (t : Tables) : TableWrite → Tables
  | .rule row => { t with rules := t.rules ++ [row] }
  | .queries rows => { t with queries := t.queries ++ rows }
  | .delete id => t.delete id

/-- What a client has before it: the committed tables, and what it has to itself. -/
structure TableView where
  /-- The committed tables at all moments before. -/
  past : List Tables := []
  /-- The committed tables. -/
  tables : Tables := {}
  /-- What was written in the transaction, if one is open. -/
  open? : Option (List TableWrite) := none
  /-- The identifier that was handed out to the client. -/
  handed? : Option Int := none

namespace TableView

/-- A moment later. -/
def passed (v : TableView) : TableView :=
  { v with past := v.past ++ [v.tables] }

/-- The tables with what was written in the open transaction. -/
def visible (v : TableView) : Tables :=
  (v.open?.getD []).foldl Tables.written v.tables

/-- Write something, in the transaction if one is open. -/
def write (w : TableWrite) (v : TableView) : TableView :=
  match v.open? with
  | some writes => { v with open? := some (writes ++ [w]) }
  | none => { v with tables := v.tables.written w }

theorem write_of_closed {v : TableView} (h : v.open? = none) (w : TableWrite) :
    v.write w = { v with tables := v.tables.written w } := by
  obtain ⟨past, tables, writes, handed⟩ := v
  cases h
  rfl

theorem write_of_open {v : TableView} {writes : List TableWrite} (h : v.open? = some writes)
    (w : TableWrite) : v.write w = { v with open? := some (writes ++ [w]) } := by
  obtain ⟨past, tables, writes, handed⟩ := v
  cases h
  rfl

/-- Hand out the next identifier. -/
def handOut (v : TableView) : TableView :=
  { v with tables := { v.tables with lastId := v.tables.lastId + 1 }
           handed? := some (v.tables.lastId + 1) }

/-- Answer a request. -/
def answer (r : DatabaseRequest) (v : TableView) : Except Failure r.Answer × TableView :=
  match r with
  | .openPool .. => (.ok (), v.passed)
  | .isOpen _ => (.ok true, v.passed)
  | .acquire _ => (.ok (), v.passed)
  | .fetch s => (.ok (.list (v.visible.select s)), v.passed)
  | .fetchCell (.insertRule productId productName productText) =>
    let id := v.tables.lastId + 1
    (.ok (.int id), v.passed.handOut.write
      (.rule ⟨id, Tables.productIdCell productId, productName, productText⟩))
  | .fetchCell s => (.ok (v.visible.firstCell s).1, v.passed)
  | .execute (.deleteRule id) => (.ok (), v.passed.write (.delete id))
  | .execute _ => (.ok (), v.passed)
  | .executeMany (.insertQueries rows) =>
    match rows.mapM Tables.storedQuery? with
    | some stored => (.ok (), v.passed.write (.queries stored))
    | none => (.error .mistyped, v.passed)
  | .executeMany _ => (.ok (), v.passed)

/-- Take notice of an event. -/
def notice (e : DatabaseEvent) (v : TableView) : TableView :=
  match e with
  | .begin => { v.passed with open? := some [] }
  | .commit => { v.passed with tables := v.visible, open? := none }
  | .rollback => { v.passed with open? := none }
  | .release | .close _ => v.passed

/-- The shared tables as a collaborator of one client. -/
def collaborator : Program.Collaborator Database TableView where
  answer := answer
  notice := notice

end TableView

/-- A call with what it still has to do, and what it has to itself. -/
structure TableClient where
  call : TableCall
  rest : Program Database call.Result
  open? : Option (List TableWrite) := none
  handed? : Option Int := none

/-- The tables and their clients, also those whose calls have ended. -/
structure Sharing where
  /-- The committed tables before each event so far. -/
  past : List Tables := []
  /-- The committed tables. -/
  tables : Tables := {}
  clients : List TableClient := []

/-- Something that happens to shared tables. -/
inductive SharingEvent where
  /-- An operation is called. -/
  | call (c : TableCall)
  /-- A client does the next step of its call. -/
  | advance (client : Nat)

/-- What a client has before it. -/
def TableClient.view (c : TableClient) (s : Sharing) : TableView :=
  ⟨s.past, s.tables, c.open?, c.handed?⟩

namespace Sharing

/-- Let a client do the next step of its call. -/
def advance (i : Nat) (s : Sharing) : Sharing :=
  match s.clients[i]? with
  | none => s
  | some c =>
    match c.rest.step TableView.collaborator (c.view s) with
    | (rest, v) =>
      { s with tables := v.tables
               clients := s.clients.set i ⟨c.call, rest, v.open?, v.handed?⟩ }

/-- What an event does. -/
def step (s : Sharing) (e : SharingEvent) : Sharing :=
  match e with
  | .call c => ⟨s.past ++ [s.tables], s.tables, s.clients ++ [{ call := c, rest := c.program }]⟩
  | .advance i => { s.advance i with past := s.past ++ [s.tables] }

/-- What events do, one after the other, to empty tables. -/
def run (events : List SharingEvent) : Sharing :=
  events.foldl step {}

end Sharing

/-! ## Moves -/

/-- What a step of a client can do. -/
inductive TableMove (call : TableCall) : TableView → TableView → Prop where
  /-- Nothing is changed. -/
  | idle (v : TableView) : TableMove call v v.passed
  /-- A transaction is begun. -/
  | begin (v : TableView) (hopen : v.open? = none) (hhanded : v.handed? = none) :
    TableMove call v { v.passed with open? := some [] }
  /-- A rule row is written under the next identifier. -/
  | insert (v : TableView) (r : AuthoredRule) (hcall : call = .save r) (hopen : v.open? = some [])
    (hhanded : v.handed? = none) :
    TableMove call v
      { v.passed.handOut with open? := some [.rule (r.row (v.tables.lastId + 1))] }
  /-- The query rows of the rule are written. -/
  | fill (v : TableView) (r : AuthoredRule) (n : Int) (hcall : call = .save r)
    (hopen : v.open? = some [.rule (r.row n)]) (hhanded : v.handed? = some n) :
    TableMove call v { v.passed with open? := some [.rule (r.row n), .queries (r.stored n)] }
  /-- The rule is committed with all its queries. -/
  | commit (v : TableView) (r : AuthoredRule) (n : Int) (hcall : call = .save r)
    (hopen : v.open? = some [.rule (r.row n), .queries (r.stored n)])
    (hhanded : v.handed? = some n) :
    TableMove call v
      { v.passed with
        tables := (v.tables.written (.rule (r.row n))).written (.queries (r.stored n))
        open? := none }
  /-- A rule is deleted with all its queries. -/
  | delete (v : TableView) (id : Int) (hcall : call = .delete id) (hopen : v.open? = none) :
    TableMove call v { v.passed with tables := v.tables.delete (.int id) }

namespace TableCall

/-- What happens between and in the steps of a call. -/
def pact (call : TableCall) : Program.Pact TableView where
  Others v w := v.past <+: w.past ∧ w.open? = v.open? ∧ w.handed? = v.handed?
  Own := TableMove call
  refl _ := ⟨List.prefix_refl _, rfl, rfl⟩
  trans h h' := ⟨h.1.trans h'.1, h'.2.1.trans h.2.1, h'.2.2.trans h.2.2⟩

section

variable {call : TableCall} {α : Type} {v : TableView}

open Program (Conforms conforms_request conforms_record conforms_ofExcept)

/-- Work with a connection is the work, between the moments of taking it and of giving it back. -/
theorem conforms_withConnection {db : DatabaseName} {work : Program Database α}
    {Q : Except Failure α → TableView → Prop}
    (hwork : ∀ w, call.pact.Others v w →
      work.Conforms TableView.collaborator call.pact Q w.passed)
    (hQ : ∀ {r v w}, call.pact.Others v w → Q r v → Q r w.passed) :
    (Database.withConnection db work).Conforms TableView.collaborator call.pact Q v := by
  refine Conforms.bind (Q := fun result w => result = .ok () ∧
    ∃ u, call.pact.Others v u ∧ w = u.passed)
    (conforms_request fun w hvw => ⟨.idle w, rfl, w, hvw, rfl⟩) ?_ fun _ _ h => nomatch h.1
  rintro _ _ ⟨-, u, hvu, rfl⟩
  have hresult := Conforms.attempt (Q := fun result w => ∃ r, result = .ok r ∧ Q r w)
    ((hwork u hvu).mono fun r _ hr => ⟨r, rfl, hr⟩)
  refine hresult.bind (fun w result hw => ?_) fun _ _ ⟨_, h, _⟩ => nomatch h
  obtain ⟨r, hr, hw⟩ := hw
  cases hr
  refine Conforms.bind (Q := fun released w => released = .ok () ∧ Q result w)
    (conforms_record fun u hwu => ⟨.idle u, rfl, hQ hwu hw⟩) ?_ fun _ _ h => nomatch h.1
  exact fun u _ hu => conforms_ofExcept hu.2

/-! ## Reading -/

end

end TableCall

/-- Rules are what the rule rows of one moment and the query rows of a later one describe. -/
def TableView.Describes (v : TableView) (result : Except Failure (List Rule)) : Prop :=
  ∃ first t second u, first ++ [t] <+: second ∧ second ++ [u] <+: v.past ∧
    result = RuleTables.assemble (.list (t.select .selectRules)) (.list (u.select .selectQueries))

theorem TableView.Describes.later {v w : TableView} {result : Except Failure (List Rule)}
    (h : v.Describes result) (hpast : v.past <+: w.past) : w.Describes result := by
  obtain ⟨first, t, second, u, ht, hu, hresult⟩ := h
  exact ⟨first, t, second, u, ht, hu.trans hpast, hresult⟩

namespace TableCall

open Program (Conforms conforms_request conforms_record conforms_ofExcept)

theorem past_prefix_passed (v : TableView) : v.past <+: v.passed.past :=
  List.prefix_append _ _

/-- Outside of transactions a selection sees what is committed. -/
theorem visible_of_open?_eq_none {v : TableView} (h : v.open? = none) : v.visible = v.tables := by
  rw [TableView.visible, h]
  rfl

/-- Both selections see what is committed, the second one at a later moment. -/
theorem conforms_findAll {v : TableView} (hopen : v.open? = none) :
    RuleTables.findAll.Conforms TableView.collaborator findAll.pact
      (fun result w => w.Describes result) v := by
  have hselect : (Database.withConnection .rules do
      let ruleRows ← Database.fetch .selectRules
      let queryRows ← Database.fetch .selectQueries
      return (ruleRows, queryRows)).Conforms TableView.collaborator findAll.pact
        (fun result w => ∃ rows, result = .ok rows ∧
          w.Describes (RuleTables.assemble rows.1 rows.2)) v := by
    refine conforms_withConnection (fun w hw => ?_) ?_
    · refine Conforms.bind (Q := fun result w => w.open? = none ∧ ∃ first t,
        first ++ [t] <+: w.past ∧ result = .ok (.list (t.select .selectRules)))
        (conforms_request fun u hu => ⟨.idle u, ?_⟩) ?_ fun _ _ ⟨_, _, _, _, h⟩ => nomatch h
      · have hnone : u.open? = none := hu.2.1.trans (hw.2.1.trans hopen)
        refine ⟨hnone, u.past, u.tables, List.prefix_refl _, ?_⟩
        show Except.ok (Cell.list (u.visible.select .selectRules)) = _
        rw [visible_of_open?_eq_none hnone]
      · rintro u ruleRows ⟨hnone, first, t, ht, hrows⟩
        refine Conforms.bind (Q := fun result w => ∃ first t second u, first ++ [t] <+: second ∧
          second ++ [u] <+: w.past ∧ ruleRows = .list (t.select .selectRules) ∧
          result = .ok (.list (u.select .selectQueries)))
          (conforms_request fun x hx => ⟨.idle x, ?_⟩) ?_
          fun _ _ ⟨_, _, _, _, _, _, _, h⟩ => nomatch h
        · refine ⟨first, t, x.past, x.tables, ht.trans hx.1, List.prefix_refl _,
            Except.ok.inj hrows, ?_⟩
          show Except.ok (Cell.list (x.visible.select .selectQueries)) = _
          rw [visible_of_open?_eq_none (hx.2.1.trans hnone)]
        · rintro x queryRows ⟨first, t, second, u, ht, hu, rfl, hqueries⟩
          cases hqueries
          exact ⟨_, rfl, first, t, second, u, ht, hu, rfl⟩
    · rintro result w x hx ⟨rows, hrows, hdescribes⟩
      exact ⟨rows, hrows, hdescribes.later (hx.1.trans (past_prefix_passed x))⟩
  refine hselect.bind (fun w rows hw => ?_) fun _ _ ⟨_, h, _⟩ => nomatch h
  obtain ⟨_, hrows, hdescribes⟩ := hw
  cases hrows
  exact conforms_ofExcept hdescribes

/-! ## Deleting and saving -/

theorem conforms_delete {v : TableView} {id : Int} (hopen : v.open? = none) :
    (RuleTables.delete (.int id)).Conforms TableView.collaborator (delete id).pact
      (fun _ _ => True) v := by
  refine conforms_withConnection (fun w hw => ?_) fun _ _ => trivial
  refine conforms_request fun u hu => ⟨?_, trivial⟩
  have hnone : u.open? = none := hu.2.1.trans (hw.2.1.trans hopen)
  have hanswer : (TableView.answer (.execute (.deleteRule (.int id))) u).2 =
      { u.passed with tables := u.tables.delete (.int id) } :=
    TableView.write_of_closed (v := u.passed) hnone _
  exact hanswer ▸ .delete u id rfl hnone

theorem conforms_insert {r : AuthoredRule} {v : TableView} (hopen : v.open? = some [])
    (hhanded : v.handed? = none) :
    (RuleTables.insert r.rule).Conforms TableView.collaborator (save r).pact
      (fun result w => ∃ n, result = .ok (.int n) ∧ w.handed? = some n ∧
        w.open? = some [.rule (r.row n), .queries (r.stored n)]) v := by
  refine Conforms.bind (Q := fun result w => ∃ n, result = .ok (.int n) ∧ w.handed? = some n ∧
    w.open? = some [.rule (r.row n)]) (conforms_request fun w hw => ?_) ?_
    fun _ _ ⟨_, h, _⟩ => nomatch h
  · have hempty : w.open? = some [] := hw.2.1.trans hopen
    have hanswer : (TableView.answer (.fetchCell (.insertRule r.rule.productId
        r.rule.productName r.rule.productText)) w).2 =
          { w.passed.handOut with open? := some [.rule (r.row (w.tables.lastId + 1))] } :=
      TableView.write_of_open (v := w.passed.handOut) hempty _
    refine ⟨hanswer ▸ .insert w r rfl hempty (hw.2.2.trans hhanded), _, rfl, ?_⟩
    show (TableView.answer _ w).2.handed? = _ ∧ (TableView.answer _ w).2.open? = _
    rw [hanswer]
    exact ⟨rfl, rfl⟩
  · rintro w id ⟨n, hid, hhanded, hopen⟩
    cases hid
    obtain ⟨rows, hrows, hstored⟩ := AuthoredRule.exists_rows n 0 r.queries
    have hrows' : RuleTables.queryRows (Cell.int n).plain 0
      (r.queries.map AuthoredQuery.query) = .ok rows := hrows
    show ((Program.ofExcept (RuleTables.queryRows (Cell.int n).plain 0
      (r.queries.map AuthoredQuery.query)) : Program Database _).bind _).Conforms _ _ _ w
    rw [hrows']
    refine Conforms.bind (Q := fun result w => result = .ok () ∧ w.handed? = some n ∧
      w.open? = some [.rule (r.row n), .queries (r.stored n)])
      (conforms_request fun u hu => ?_) (fun u _ hu => ⟨n, rfl, hu.2⟩) fun _ _ h => nomatch h.1
    have hrow : u.open? = some [.rule (r.row n)] := hu.2.1.trans hopen
    have hanswer : TableView.answer (.executeMany (.insertQueries rows)) u =
        (.ok (), { u.passed with open? := some [.rule (r.row n), .queries (r.stored n)] }) := by
      rw [TableView.answer, hstored]
      exact congrArg (Prod.mk _) (TableView.write_of_open (v := u.passed) hrow _)
    show TableMove _ u (TableView.answer _ u).2 ∧ (TableView.answer _ u).1 = _ ∧
      (TableView.answer _ u).2.handed? = _ ∧ (TableView.answer _ u).2.open? = _
    rw [hanswer]
    have hn : u.handed? = some n := hu.2.2.trans hhanded
    exact ⟨.fill u r n rfl hrow hn, rfl, hn, rfl⟩

/-- A rule is committed together with all its queries. -/
theorem conforms_transaction {r : AuthoredRule} {v : TableView} (hopen : v.open? = none)
    (hhanded : v.handed? = none) :
    (Database.withTransaction (RuleTables.insert r.rule)).Conforms TableView.collaborator
      (save r).pact (fun result w => ∃ n, result = .ok (.int n) ∧ w.handed? = some n) v := by
  refine Conforms.bind (Q := fun result w => result = .ok () ∧ w.open? = some [] ∧
    w.handed? = none) (conforms_record fun w hw => ?_) ?_ fun _ _ h => nomatch h.1
  · have hnone : w.handed? = none := hw.2.2.trans hhanded
    exact ⟨.begin w (hw.2.1.trans hopen) hnone, rfl, rfl, hnone⟩
  · rintro w _ ⟨-, hopen, hhanded⟩
    have hinsert := Conforms.attempt (Q := fun result w => ∃ n, result = .ok (.ok (.int n)) ∧
      w.handed? = some n ∧ w.open? = some [.rule (r.row n), .queries (r.stored n)])
      ((conforms_insert hopen hhanded).mono fun result _ ⟨n, hresult, hw⟩ =>
        ⟨n, congrArg Except.ok hresult, hw⟩)
    refine hinsert.bind (fun u result hu => ?_) fun _ _ ⟨_, h, _⟩ => nomatch h
    obtain ⟨n, hresult, hn, hwritten⟩ := hu
    cases hresult
    refine Conforms.bind (Q := fun result w => result = .ok () ∧ w.handed? = some n)
      (conforms_record fun x hx => ?_) (fun _ _ hx => ⟨n, rfl, hx.2⟩) fun _ _ h => nomatch h.1
    have hrows : x.open? = some [.rule (r.row n), .queries (r.stored n)] := hx.2.1.trans hwritten
    have hhanded : x.handed? = some n := hx.2.2.trans hn
    have hnotice : TableView.notice .commit x = { x.passed with
        tables := (x.tables.written (.rule (r.row n))).written (.queries (r.stored n))
        open? := none } := by
      rw [TableView.notice, TableView.visible, hrows]
      rfl
    refine ⟨?_, rfl, hhanded⟩
    show TableMove _ x (TableView.notice .commit x)
    rw [hnotice]
    exact .commit x r n rfl hrows hhanded

/-- A rule that is saved is returned under the identifier that was handed out for it. -/
theorem conforms_save {r : AuthoredRule} {v : TableView} (hopen : v.open? = none)
    (hhanded : v.handed? = none) :
    (RuleTables.save r.rule).Conforms TableView.collaborator (save r).pact
      (fun result w => ∃ n, result = .ok { r.rule with id := .int n } ∧ w.handed? = some n) v := by
  have hsave : (Database.withConnection .rules (Database.withTransaction
      (RuleTables.insert r.rule))).Conforms TableView.collaborator (save r).pact
        (fun result w => ∃ n, result = .ok (.int n) ∧ w.handed? = some n) v :=
    conforms_withConnection
      (fun w hw => conforms_transaction (hw.2.1.trans hopen) (hw.2.2.trans hhanded))
      fun hw ⟨n, hresult, hn⟩ => ⟨n, hresult, hw.2.2.trans hn⟩
  refine hsave.bind (fun w id hw => ?_) fun _ _ ⟨_, h, _⟩ => nomatch h
  obtain ⟨n, hid, hn⟩ := hw
  cases hid
  exact ⟨n, rfl, hn⟩

/-- What holds once a call has ended. -/
def Outcome : (call : TableCall) → Except Failure call.Result → TableView → Prop
  | .save r, result, v => ∃ n, result = .ok { r.rule with id := .int n } ∧ v.handed? = some n
  | .delete _, _, _ => True
  | .findAll, result, v => v.Describes result

/-- Every call conforms from the moment in which it is made. -/
theorem conforms_program (call : TableCall) (past : List Tables) (tables : Tables) :
    call.program.Conforms TableView.collaborator call.pact call.Outcome
      ⟨past, tables, none, none⟩ := by
  cases call with
  | save r => exact conforms_save rfl rfl
  | delete id => exact conforms_delete rfl
  | findAll => exact conforms_findAll rfl

/-- What holds once a call has ended, others do not change. -/
theorem outcome_later {call : TableCall} {result : Except Failure call.Result} {v w : TableView}
    (hvw : call.pact.Others v w) (h : call.Outcome result v) : call.Outcome result w := by
  cases call with
  | save r =>
      obtain ⟨n, hresult, hn⟩ := h
      exact ⟨n, hresult, hvw.2.2.trans hn⟩
  | delete id => trivial
  | findAll => exact TableView.Describes.later h hvw.1

end TableCall

end Recommender
