import Mathlib.Logic.Function.Basic
import Recommender.Database.Script
import Recommender.Proofs.Program.Simulation

/-!
# Pools that are opened and closed

The programs that start and stop the databases hold at most one pool for each database, and what
they do with a pool goes to the one that they hold.  Here the pools themselves are kept in view:
every pool that is opened gets a number of its own, and it is *live* until it is closed, held or
not.  The databases behind the pools are arbitrary: each pool that is to be opened and each
statement may fail or succeed as they like.

A pool that is live and not held is a *stray* one.  No program can close it any more.
-/

namespace Recommender

/-- A pool of connections to a database, by the number of pools that were opened before it. -/
structure Pool where
  database : DatabaseName
  number : Nat
  deriving DecidableEq, Repr

/-- Databases behind pools. -/
structure Pools (σ : Type) where
  databases : σ
  /-- The number of pools that have been opened. -/
  opened : Nat := 0
  /-- The pools that were opened and have not been closed, the latest first. -/
  live : List Pool := []
  /-- The pool that is held for each database. -/
  held : DatabaseName → Option Pool := fun _ => none

namespace Program

variable {I : Interface} {β σ : Type} {c : Collaborator I σ} {r : I.Request} {s s' : σ}

theorem run_request_bind_of_ok {a : I.Answer r} (h : c.answer r s = (.ok a, s'))
    (f : I.Answer r → Program I β) : ((request r).bind f).run c s = (f a).run c s' := by
  rw [run_bind, run_request, h]

theorem run_request_bind_of_error {e : Failure} (h : c.answer r s = (.error e, s'))
    (f : I.Answer r → Program I β) : ((request r).bind f).run c s = (.error e, s') := by
  rw [run_bind, run_request, h]

theorem run_attempt_bind {α : Type} {p : Program I α} {result : Except Failure α}
    (h : p.run c s = (result, s')) (f : Except Failure α → Program I β) :
    (p.attempt.bind f).run c s = (f result).run c s' := by
  rw [run_bind, run_attempt, h]

end Program

namespace ScriptedDatabase

/-- What is carried out leaves the same pools open, if the act does. -/
theorem opened_carryOut {α : Type} {method : DatabaseMethod} {entry : LogEntry}
    {d : ScriptedDatabase} {act : ScriptedDatabase → Except Failure α × ScriptedDatabase}
    (h : ∀ d, (act d).2.opened = d.opened) : (d.carryOut method entry act).2.opened = d.opened := by
  rw [carryOut]
  cases Assoc.find? method (d.logged entry).faults with
  | none => exact h _
  | some e => rfl

end ScriptedDatabase

namespace Pools

variable {σ α : Type}

/-- Open a pool for a database and hold it. -/
def opening (db : DatabaseName) (p : Pools σ) : Pools σ :=
  { p with
    opened := p.opened + 1
    live := ⟨db, p.opened⟩ :: p.live
    held := Function.update p.held db (some ⟨db, p.opened⟩) }

/-- Close the pool that is held for a database, and hold it no longer. -/
def closing (db : DatabaseName) (p : Pools σ) : Pools σ :=
  { p with
    live := p.live.filter fun q => p.held db ≠ some q
    held := Function.update p.held db none }

/-- The live pools that are not held. -/
def stray (p : Pools σ) : List Pool :=
  p.live.filter fun q => p.held q.database ≠ some q

theorem closing_of_not_held {db : DatabaseName} {p : Pools σ} (h : p.held db = none) :
    p.closing db = p := by
  have hlive : (p.live.filter fun q => p.held db ≠ some q) = p.live := by simp [h]
  have hheld : Function.update p.held db none = p.held := by rw [← h, Function.update_eq_self]
  rw [closing, hlive, hheld]

theorem stray_eq_live {p : Pools σ} (h : ∀ db, p.held db = none) : p.stray = p.live := by
  simp [stray, h]

/-! ## Every held pool is live -/

/-- The pools that are held are live and of the databases that they are held for, and the live
pools have been opened. -/
structure Sound (p : Pools σ) : Prop where
  held : ∀ {db q}, p.held db = some q → q.database = db ∧ q ∈ p.live
  numbered : ∀ q ∈ p.live, q.number < p.opened

namespace Sound

variable {p : Pools σ}

theorem opening (h : p.Sound) (db : DatabaseName) : (p.opening db).Sound where
  held := by
    intro db' q hq
    by_cases hdb : db' = db
    · subst hdb
      have hnew : (⟨db', p.opened⟩ : Pool) = q := by simpa [Pools.opening] using hq
      subst hnew
      exact ⟨rfl, List.mem_cons_self⟩
    · have hold : p.held db' = some q := by simpa [Pools.opening, hdb] using hq
      exact ⟨(h.held hold).1, List.mem_cons_of_mem _ (h.held hold).2⟩
  numbered := by
    intro q hq
    rcases List.mem_cons.1 hq with rfl | hq
    · exact Nat.lt_succ_self _
    · exact Nat.lt_succ_of_lt (h.numbered q hq)

theorem closing (h : p.Sound) (db : DatabaseName) : (p.closing db).Sound where
  held := by
    intro db' q hq
    by_cases hdb : db' = db
    · subst hdb
      simp [Pools.closing] at hq
    · have hold : p.held db' = some q := by simpa [Pools.closing, hdb] using hq
      refine ⟨(h.held hold).1, List.mem_filter.2 ⟨(h.held hold).2, decide_eq_true ?_⟩⟩
      -- A pool is held for one database only.
      exact fun hclosed => hdb ((h.held hold).1.symm.trans (h.held hclosed).1)
  numbered := fun q hq => h.numbered q (List.mem_filter.1 hq |>.1)

/-- Closing the pool that is held leaves the stray ones as they are. -/
theorem stray_closing (h : p.Sound) (db : DatabaseName) : (p.closing db).stray = p.stray := by
  rw [stray, Pools.closing, List.filter_filter]
  refine List.filter_congr fun q hq => ?_
  by_cases hdb : q.database = db
  · simp [hdb]
  · have hother : p.held db ≠ some q := fun hheld => hdb (h.held hheld).1
    simp [hdb, hother]

theorem mem_stray_opening (h : p.Sound) {db : DatabaseName} {q : Pool} :
    q ∈ (p.opening db).stray ↔ q ∈ p.live ∧ (q.database = db ∨ p.held q.database ≠ some q) := by
  rw [stray, List.mem_filter, decide_eq_true_iff]
  refine ⟨fun ⟨hlive, hstray⟩ => ?_, fun ⟨hlive, hstray⟩ => ⟨List.mem_cons_of_mem _ hlive, ?_⟩⟩
  · rcases List.mem_cons.1 hlive with rfl | hold
    · simp [Pools.opening] at hstray
    · refine ⟨hold, (Classical.em _).imp_right fun hdb => ?_⟩
      simpa [Pools.opening, hdb] using hstray
  · by_cases hdb : q.database = db
    · intro hheld
      have hnew : (⟨db, p.opened⟩ : Pool) = q := by simpa [Pools.opening, hdb] using hheld
      subst hnew
      exact Nat.lt_irrefl _ (h.numbered _ hlive)
    · simpa [Pools.opening, hdb] using hstray

/-- Opening a pool makes a stray one just where a pool was held already. -/
theorem stray_opening_eq_nil_iff (h : p.Sound) (db : DatabaseName) :
    (p.opening db).stray = [] ↔ p.stray = [] ∧ p.held db = none := by
  simp only [List.eq_nil_iff_forall_not_mem, h.mem_stray_opening]
  constructor
  · intro hnone
    refine ⟨fun q hq => ?_, Option.eq_none_iff_forall_ne_some.2 fun q hq => ?_⟩
    · obtain ⟨hlive, hstray⟩ := List.mem_filter.1 hq
      exact hnone q ⟨hlive, .inr (of_decide_eq_true hstray)⟩
    · obtain ⟨hdb, hlive⟩ := h.held hq
      exact hnone q ⟨hlive, .inl hdb⟩
  · rintro ⟨hstray, hheld⟩ q ⟨hlive, hdb | hq⟩
    · refine hstray q (List.mem_filter.2 ⟨hlive, decide_eq_true ?_⟩)
      rw [hdb, hheld]
      exact nofun
    · exact hstray q (List.mem_filter.2 ⟨hlive, decide_eq_true hq⟩)

end Sound

/-! ## The pools as a collaborator -/

section

variable (server : Program.Collaborator Database σ)

/-- Pass a request on to the databases. -/
def pass (r : DatabaseRequest) (p : Pools σ) : Except Failure r.Answer × Pools σ :=
  ((server.answer r p.databases).1, { p with databases := (server.answer r p.databases).2 })

/-- Answer a request.  A connection is asked for only where a pool is held. -/
def answer (r : DatabaseRequest) (p : Pools σ) : Except Failure r.Answer × Pools σ :=
  match r with
  | .openPool db options =>
    match p.pass server (.openPool db options) with
    | (.ok _, p) => (.ok (), p.opening db)
    | (.error e, p) => (.error e, p)
  | .isOpen db => (.ok (p.held db).isSome, p)
  | .acquire db =>
    if (p.held db).isSome then p.pass server (.acquire db) else (.error (Database.notStarted db), p)
  | .fetch s => p.pass server (.fetch s)
  | .fetchCell s => p.pass server (.fetchCell s)
  | .execute s => p.pass server (.execute s)
  | .executeMany s => p.pass server (.executeMany s)

/-- Take notice of an event. -/
def notice (e : DatabaseEvent) (p : Pools σ) : Pools σ :=
  let p := { p with databases := server.notice e p.databases }
  match e with
  | .close db => p.closing db
  | .release | .begin | .commit | .rollback => p

/-- The pools as a collaborator. -/
def collaborator : Program.Collaborator Database (Pools σ) where
  answer := answer server
  notice := notice server

end

/-! ## A program on the databases alone -/

/-- Pools that show which databases of a scripted database are open. -/
def Shows (d : ScriptedDatabase) (p : Pools ScriptedDatabase) : Prop :=
  p.databases = d ∧ ∀ db, (p.held db).isSome = d.opened.contains db

/-- Passing on a request that opens and closes nothing keeps what is shown. -/
theorem Shows.pass {d : ScriptedDatabase} {p : Pools ScriptedDatabase} (h : Shows d p)
    {r : DatabaseRequest} (hopened : (d.answer r).2.opened = d.opened) :
    (d.answer r).1 = (p.pass ScriptedDatabase.collaborator r).1 ∧
      Shows (d.answer r).2 (p.pass ScriptedDatabase.collaborator r).2 := by
  obtain ⟨rfl, hheld⟩ := h
  exact ⟨rfl, rfl, fun db => (hheld db).trans (by rw [hopened])⟩

/-- A scripted database refuses a connection where no pool is held, as the pools do. -/
theorem simulates_scripted :
    Program.Simulates (fun _ => True) (fun _ => True) ScriptedDatabase.collaborator
      (collaborator ScriptedDatabase.collaborator) Shows where
  answer := by
    intro r d p _ h
    cases r with
    | openPool db options =>
        obtain ⟨rfl, hheld⟩ := h
        cases hfault : Assoc.find? DatabaseMethod.openPool p.databases.faults with
        | some e =>
            simp only [collaborator, answer, pass, ScriptedDatabase.collaborator,
              ScriptedDatabase.answer, ScriptedDatabase.carryOut, ScriptedDatabase.logged, hfault]
            exact ⟨rfl, rfl, hheld⟩
        | none =>
            simp only [collaborator, answer, pass, ScriptedDatabase.collaborator,
              ScriptedDatabase.answer, ScriptedDatabase.carryOut, ScriptedDatabase.logged, hfault]
            refine ⟨rfl, rfl, fun db' => ?_⟩
            by_cases hdb : db' = db <;> simp [opening, hdb, hheld]
    | isOpen db => exact ⟨congrArg Except.ok (h.2 db).symm, h⟩
    | acquire db =>
        by_cases hopen : (p.held db).isSome = true
        · have hanswer : answer ScriptedDatabase.collaborator (.acquire db) p =
              p.pass ScriptedDatabase.collaborator (.acquire db) := if_pos hopen
          have hscript := h.pass (r := .acquire db) (by
            simp only [ScriptedDatabase.answer]
            split
            · split <;> rfl
            · rfl)
          rwa [← hanswer] at hscript
        · have hanswer : answer ScriptedDatabase.collaborator (.acquire db) p =
              (.error (Database.notStarted db), p) := if_neg hopen
          have hscript : d.answer (.acquire db) = (.error (Database.notStarted db), d) :=
            if_neg (by rwa [← h.2 db])
          have hshown : (d.answer (.acquire db)).1 =
                (answer ScriptedDatabase.collaborator (.acquire db) p).1 ∧
              Shows (d.answer (.acquire db)).2
                (answer ScriptedDatabase.collaborator (.acquire db) p).2 := by
            rw [hanswer, hscript]
            exact ⟨rfl, h⟩
          exact hshown
    | fetch s => exact h.pass (r := .fetch s) (ScriptedDatabase.opened_carryOut fun _ => rfl)
    | fetchCell s =>
        exact h.pass (r := .fetchCell s) (ScriptedDatabase.opened_carryOut fun _ => rfl)
    | execute s => exact h.pass (r := .execute s) (ScriptedDatabase.opened_carryOut fun _ => rfl)
    | executeMany s =>
        exact h.pass (r := .executeMany s) (ScriptedDatabase.opened_carryOut fun _ => rfl)
  notice := by
    intro e d p _ h
    obtain ⟨rfl, hheld⟩ := h
    cases e with
    | close db =>
        refine ⟨rfl, fun db' => ?_⟩
        by_cases hdb : db' = db
        · subst hdb
          simp [collaborator, notice, closing, ScriptedDatabase.collaborator,
            ScriptedDatabase.notice]
        · simp [collaborator, notice, closing, ScriptedDatabase.collaborator,
            ScriptedDatabase.notice, ScriptedDatabase.logged, hdb, hheld]
    | release => exact ⟨rfl, hheld⟩
    | begin => exact ⟨rfl, hheld⟩
    | commit => exact ⟨rfl, hheld⟩
    | rollback => exact ⟨rfl, hheld⟩

/-- **Keeping the pools in view changes nothing**: over pools, a program ends as it does with the
scripted database alone, and leaves it as it does. -/
theorem run_scripted (work : Program Database α) {d : ScriptedDatabase}
    {p : Pools ScriptedDatabase} (h : Shows d p) :
    (work.run ScriptedDatabase.collaborator d).1 =
        (work.run (collaborator ScriptedDatabase.collaborator) p).1 ∧
      Shows (work.run ScriptedDatabase.collaborator d).2
        (work.run (collaborator ScriptedDatabase.collaborator) p).2 :=
  simulates_scripted.run (Program.confined_anyhow work) h

variable {server : Program.Collaborator Database σ}

/-! ## One database -/

/-- What is asked of the databases where a pool is held, and passed on to them. -/
def Passed (db : DatabaseName) : DatabaseRequest → Prop
  | .openPool .. | .isOpen _ => False
  | .acquire db' => db' = db
  | .fetch _ | .fetchCell _ | .execute _ | .executeMany _ => True

/-- What is done with connections and leaves the pools as they are. -/
def Kept : DatabaseEvent → Prop
  | .close _ => False
  | .release | .begin | .commit | .rollback => True

/-- Where a pool is held, a program that neither opens nor closes pools ends as with the databases
alone, and the pools stay as they are. -/
theorem run_passed {db : DatabaseName} {work : Program Database α}
    (hwork : work.Confined (Passed db) Kept) {p : Pools σ}
    (h : (p.held db).isSome = true) :
    work.run (collaborator server) p =
      ((work.run server p.databases).1, { p with databases := (work.run server p.databases).2 }) := by
  have hsim : Program.Simulates (Passed db) Kept server
      (collaborator server) fun s q => q = { p with databases := s } := by
    refine ⟨?_, ?_⟩
    · rintro r s q hr rfl
      cases r with
      | openPool | isOpen => exact hr.elim
      | acquire db' =>
          subst hr
          have hanswer : answer server (.acquire db') { p with databases := s } =
              Pools.pass server (.acquire db') { p with databases := s } := if_pos h
          exact ⟨congrArg Prod.fst hanswer.symm, congrArg Prod.snd hanswer⟩
      | fetch | fetchCell | execute | executeMany => exact ⟨rfl, rfl⟩
    · rintro e s q he rfl
      cases e with
      | close => exact he.elim
      | release | begin | commit | rollback => rfl
  obtain ⟨hresult, hstate⟩ := hsim.run hwork rfl
  exact Prod.ext hresult.symm hstate

/-- Whatever is to be done with a connection fails where no pool is held, and has no effect. -/
theorem run_withConnection_of_not_held {db : DatabaseName} {p : Pools σ} (h : p.held db = none)
    (work : Program Database α) :
    (Database.withConnection db work).run (collaborator server) p =
      (.error (Database.notStarted db), p) := by
  have hanswer : answer server (.acquire db) p = (.error (Database.notStarted db), p) := by
    rw [answer, h]
    rfl
  exact Program.run_request_bind_of_error hanswer _

/-- The failure of a start of a database. -/
def startFailure (db : DatabaseName) (e : Failure) : Failure :=
  .service (.general (Database.startFailedCode db) e.text [])

theorem confined_withConnection {db : DatabaseName} {work : Program Database α}
    (hwork : work.Confined (Passed db) Kept) :
    (Database.withConnection db work).Confined (Passed db) Kept := by
  have hacquire : (Program.request (I := Database) (.acquire db)).Confined (Passed db) Kept :=
    Program.confined_request (I := Database) (r := .acquire db) rfl
  refine hacquire.bind fun _ => ?_
  exact hwork.attempt.bind fun result =>
    (Program.confined_record (I := Database) (e := .release) trivial).bind fun _ =>
      Program.confined_ofExcept result

theorem confined_execute (db : DatabaseName) (s : Statement) :
    (Database.execute s).Confined (Passed db) Kept :=
  Program.confined_request (I := Database) (r := .execute s) trivial

/-- What is done after the pool of a database has been opened needs no other pool. -/
theorem confined_prepare (db : DatabaseName) : (Database.prepare db).Confined (Passed db) Kept := by
  cases db with
  | rules =>
      refine confined_withConnection ?_
      refine (confined_execute .rules .createRules).bind fun _ => ?_
      refine (confined_execute .rules .createQueries).bind fun _ => ?_
      refine (confined_execute .rules .createStats).bind fun _ => ?_
      exact confined_execute .rules .createQueryIndex
  | transactions => trivial

/-- What a start of a database attempts opens a pool and holds it, unless the pool cannot be opened.
What it does after that leaves the pools as they are, whether it fails or not. -/
theorem run_open_prepare (db : DatabaseName) (options : PoolOptions) (p : Pools σ) :
    ((Program.request (I := Database) (.openPool db options)).bind fun _ =>
        Database.prepare db).run (collaborator server) p =
      match server.answer (.openPool db options) p.databases with
      | (.error e, s) => (.error e, { p with databases := s })
      | (.ok _, s) =>
        (((Database.prepare db).run server s).1,
          { p with databases := ((Database.prepare db).run server s).2 }.opening db) := by
  cases hopen : server.answer (.openPool db options) p.databases with
  | mk result s =>
    cases result with
    | error e =>
        have hanswer : answer server (.openPool db options) p =
            (.error e, { p with databases := s }) := by
          simp only [answer, pass, hopen]
        exact Program.run_request_bind_of_error hanswer _
    | ok u =>
        have hanswer : answer server (.openPool db options) p =
            (.ok (), { p with databases := s }.opening db) := by
          simp only [answer, pass, hopen]
        have hheld : (({ p with databases := s }.opening db).held db).isSome = true := by
          simp [opening]
        exact (Program.run_request_bind_of_ok hanswer _).trans
          (run_passed (confined_prepare db) hheld)

/-- A start of a database fails as what it attempts, under the code of the database. -/
theorem run_start {c : Program.Collaborator Database σ} {db : DatabaseName}
    {options : PoolOptions} {s s' : σ} {result : Except Failure Unit}
    (h : ((Program.request (I := Database) (.openPool db options)).bind fun _ =>
      Database.prepare db).run c s = (result, s')) :
    (Database.start db options).run c s = (result.mapError (startFailure db), s') := by
  refine (Program.run_attempt_bind h _).trans ?_
  cases result with
  | ok u => rfl
  | error e => rfl

variable (server) in
/-- A stop of a database closes the pool that is held for it, if there is one, and holds none. -/
theorem exists_run_stop (db : DatabaseName) (p : Pools σ) :
    ∃ s, (Database.stop db).run (collaborator server) p =
      (.ok (), { p with databases := s }.closing db) := by
  have hasked : (Database.stop db).run (collaborator server) p =
      (if (p.held db).isSome then Database.record (.close db) else .done ()).run
        (collaborator server) p := rfl
  rw [hasked]
  cases hheld : p.held db with
  | none => exact ⟨p.databases, congrArg (Prod.mk _) (closing_of_not_held hheld).symm⟩
  | some q => exact ⟨server.notice (.close db) p.databases, rfl⟩

end Pools

end Recommender
