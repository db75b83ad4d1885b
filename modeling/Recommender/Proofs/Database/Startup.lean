import Mathlib.Data.List.Induction
import Recommender.Proofs.Database.Pools

/-!
# What starts and stops leave open

A start opens the pool of the rule database, creates the tables and opens the pool of the
transactions database, in this order, and ends with the first failure.  What it has opened by then
stays open and held: nothing of a failed start is undone, but for one whose first pool could not be
opened, where there is nothing to undo.  A stop closes what is held.  So a pool that was held when
another one was opened for its database is out of reach of every stop.
-/

namespace Recommender

/-- How far a start comes. -/
inductive StartOutcome where
  /-- The pool of the rule database could not be opened. -/
  | rulesRefused (e : Failure)
  /-- The pool of the rule database was opened, but the tables could not be created. -/
  | tablesRefused (e : Failure)
  /-- The tables were created, but the pool of the transactions database could not be opened. -/
  | transactionsRefused (e : Failure)
  /-- Both pools were opened, and the tables were created. -/
  | started

namespace StartOutcome

/-- How a start ends that comes so far. -/
def result : StartOutcome → Except Failure Unit
  | .rulesRefused e | .tablesRefused e => .error (Pools.startFailure .rules e)
  | .transactionsRefused e => .error (Pools.startFailure .transactions e)
  | .started => .ok ()

/-- The databases whose pools are opened by a start that comes so far, in order. -/
def opened : StartOutcome → List DatabaseName
  | .rulesRefused _ => []
  | .tablesRefused _ | .transactionsRefused _ => [.rules]
  | .started => [.rules, .transactions]

theorem nodup_opened (o : StartOutcome) : o.opened.Nodup := by
  cases o <;> simp [opened]

theorem opened_eq_nil_iff (o : StartOutcome) : o.opened = [] ↔ ∃ e, o = .rulesRefused e := by
  cases o <;> simp [opened]

end StartOutcome

namespace Pools

variable {σ : Type} (server : Program.Collaborator Database σ)

/-- How far a start comes with the databases alone, and what it leaves them as. -/
def startOutcome (rules transactions : PoolOptions) (s : σ) : StartOutcome × σ :=
  match server.answer (.openPool .rules rules) s with
  | (.error e, s) => (.rulesRefused e, s)
  | (.ok _, s) =>
    match Database.createTables.run server s with
    | (.error e, s) => (.tablesRefused e, s)
    | (.ok _, s) =>
      match server.answer (.openPool .transactions transactions) s with
      | (.error e, s) => (.transactionsRefused e, s)
      | (.ok _, s) => (.started, s)

/-- What is done with the service. -/
inductive LifecycleCommand where
  | start (rules transactions : PoolOptions)
  | stop

/-- The program of a command. -/
def LifecycleCommand.program : LifecycleCommand → Program Database Unit
  | .start rules transactions => Database.startAll rules transactions
  | .stop => Database.stopAll

/-- The pools after some commands, where none was opened before. -/
def run (s : σ) (commands : List LifecycleCommand) : Pools σ :=
  commands.foldl (fun p c => (c.program.run (collaborator server) p).2) { databases := s }

/-- Some start opens a pool for a database for which one is held. -/
def Overtakes (s : σ) (commands : List LifecycleCommand) : Prop :=
  ∃ earlier rules transactions later,
    commands = earlier ++ .start rules transactions :: later ∧
    ∃ db ∈ (startOutcome server rules transactions (run server s earlier).databases).1.opened,
      (run server s earlier).held db ≠ none

variable {server}

/-! ## Opening pools one after the other -/

/-- Open a pool for each of some databases. -/
def openingAll (dbs : List DatabaseName) (p : Pools σ) : Pools σ :=
  dbs.foldl (fun p db => p.opening db) p

theorem databases_opening (db : DatabaseName) (p : Pools σ) :
    (p.opening db).databases = p.databases := rfl

theorem held_opening_self (db : DatabaseName) (p : Pools σ) :
    (p.opening db).held db = some ⟨db, p.opened⟩ :=
  Function.update_self ..

theorem held_opening_of_ne {db db' : DatabaseName} (h : db' ≠ db) (p : Pools σ) :
    (p.opening db).held db' = p.held db' :=
  Function.update_of_ne h _ _

/-- What the databases do is no matter of the pools. -/
theorem Sound.onDatabases {p : Pools σ} (h : p.Sound) (s : σ) :
    ({ p with databases := s } : Pools σ).Sound :=
  ⟨h.held, h.numbered⟩

theorem Sound.openingAll {p : Pools σ} (h : p.Sound) (dbs : List DatabaseName) :
    (p.openingAll dbs).Sound := by
  induction dbs generalizing p with
  | nil => exact h
  | cons db dbs ih => exact ih (h.opening db)

theorem Sound.stray_openingAll_eq_nil_iff {p : Pools σ} (h : p.Sound) {dbs : List DatabaseName}
    (hdbs : dbs.Nodup) :
    (p.openingAll dbs).stray = [] ↔ p.stray = [] ∧ ∀ db ∈ dbs, p.held db = none := by
  induction dbs generalizing p with
  | nil => simp [Pools.openingAll]
  | cons db dbs ih =>
      obtain ⟨hdb, hrest⟩ := List.nodup_cons.1 hdbs
      have hheld : ∀ db' ∈ dbs, (p.opening db).held db' = p.held db' := fun db' hmem =>
        held_opening_of_ne (ne_of_mem_of_not_mem hmem hdb) p
      rw [Pools.openingAll, List.foldl_cons, ← Pools.openingAll, ih (h.opening db) hrest,
        h.stray_opening_eq_nil_iff, List.forall_mem_cons, and_assoc]
      refine and_congr_right fun _ => and_congr_right fun _ => ?_
      exact forall₂_congr fun db' hmem => by rw [hheld db' hmem]

/-- The pools that are opened one after the other for different databases are new ones, and they are
held; what was live stays live, and what was held for another database stays held. -/
theorem Sound.exists_fresh {p : Pools σ} (h : p.Sound) {dbs : List DatabaseName}
    (hdbs : dbs.Nodup) :
    ∃ fresh : List Pool, (p.openingAll dbs).live = fresh ++ p.live ∧
      fresh.map Pool.database = dbs.reverse ∧ (∀ q ∈ fresh, q ∉ p.live) ∧
      (∀ q ∈ fresh, (p.openingAll dbs).held q.database = some q) ∧
      ∀ db ∉ dbs, (p.openingAll dbs).held db = p.held db := by
  induction dbs generalizing p with
  | nil => exact ⟨[], rfl, rfl, nofun, nofun, fun _ _ => rfl⟩
  | cons db dbs ih =>
      obtain ⟨hdb, hrest⟩ := List.nodup_cons.1 hdbs
      obtain ⟨fresh, hlive, hfor, hnew, hheld, hothers⟩ := ih (h.opening db) hrest
      have hfirst : (⟨db, p.opened⟩ : Pool) ∉ p.live := fun hmem =>
        Nat.lt_irrefl _ (h.numbered _ hmem)
      refine ⟨fresh ++ [⟨db, p.opened⟩], ?_, ?_, ?_, ?_, ?_⟩
      · rw [List.append_assoc]
        exact hlive
      · rw [List.map_append, hfor, List.reverse_cons]
        rfl
      · intro q hq
        rcases List.mem_append.1 hq with hq | hq
        · exact fun hmem => hnew q hq (List.mem_cons_of_mem _ hmem)
        · rwa [List.mem_singleton.1 hq]
      · intro q hq
        rcases List.mem_append.1 hq with hq | hq
        · exact hheld q hq
        · rw [List.mem_singleton.1 hq]
          exact (hothers db hdb).trans (held_opening_self db p)
      · intro db' hmem
        obtain ⟨hne, hmem⟩ := not_or.1 (mt List.mem_cons.2 hmem)
        exact (hothers db' hmem).trans (held_opening_of_ne hne p)

theorem Sound.live_openingAll_eq_iff {p : Pools σ} (h : p.Sound) {dbs : List DatabaseName}
    (hdbs : dbs.Nodup) : (p.openingAll dbs).live = p.live ↔ dbs = [] := by
  obtain ⟨fresh, hlive, hfor, -⟩ := h.exists_fresh hdbs
  rw [hlive, List.append_left_eq_self, ← List.map_eq_nil_iff, hfor, List.reverse_eq_nil_iff]

theorem forall_held_openingAll_eq_none_iff (dbs : List DatabaseName) (p : Pools σ) :
    (∀ db, (p.openingAll dbs).held db = none) ↔ (∀ db, p.held db = none) ∧ dbs = [] := by
  rcases List.eq_nil_or_concat dbs with rfl | ⟨dbs, last, rfl⟩
  · exact (and_iff_left rfl).symm
  · refine iff_of_false (fun hnone => ?_) (by simp)
    have hlast := hnone last
    rw [openingAll, List.concat_eq_append, List.foldl_append, List.foldl_cons, List.foldl_nil,
      held_opening_self] at hlast
    cases hlast

/-! ## Starts and stops -/

/-- A start ends, and opens pools, as far as it comes. -/
theorem run_startAll (rules transactions : PoolOptions) (p : Pools σ) :
    (Database.startAll rules transactions).run (collaborator server) p =
      ((startOutcome server rules transactions p.databases).1.result,
        { p with databases := (startOutcome server rules transactions p.databases).2 }.openingAll
          (startOutcome server rules transactions p.databases).1.opened) := by
  refine (Program.run_bind _ (Database.start .rules rules) _ p).trans ?_
  rw [run_start (run_open_prepare .rules rules p), startOutcome]
  cases server.answer (.openPool .rules rules) p.databases with
  | mk result s =>
    cases result with
    | error e => rfl
    | ok _ =>
      cases htables : Database.createTables.run server s with
      | mk result s =>
        simp only [Database.prepare, htables]
        cases result with
        | error e => rfl
        | ok _ =>
          change (Database.start .transactions transactions).run (collaborator server)
            ({ p with databases := s }.opening .rules) = _
          rw [run_start (run_open_prepare .transactions transactions _)]
          cases htransactions : server.answer (.openPool .transactions transactions) s with
          | mk result s =>
            simp only [databases_opening, htransactions]
            cases result with
            | error e => rfl
            | ok _ => rfl

variable (server) in
/-- A stop closes the pools that are held: what stays open are the stray ones, and none is held. -/
theorem Sound.exists_run_stopAll {p : Pools σ} (h : p.Sound) :
    ∃ q : Pools σ, Database.stopAll.run (collaborator server) p = (.ok (), q) ∧ q.Sound ∧
      (∀ db, q.held db = none) ∧ q.live = p.stray := by
  obtain ⟨s, hrules⟩ := exists_run_stop server .rules p
  have hfirst : ({ p with databases := s }.closing .rules).Sound := (h.onDatabases s).closing .rules
  obtain ⟨s', htransactions⟩ := exists_run_stop server .transactions
    ({ p with databases := s }.closing .rules)
  have hsecond := (hfirst.onDatabases s').closing .transactions
  have hheld : ∀ db, ({ { p with databases := s }.closing .rules with
      databases := s' }.closing .transactions).held db = none := by
    intro db
    cases db with
    | rules => simp [Pools.closing]
    | transactions => simp [Pools.closing]
  refine ⟨_, ?_, hsecond, hheld, ?_⟩
  · refine (Program.run_bind _ (Database.stop .rules) _ p).trans ?_
    rw [hrules]
    exact htransactions
  · rw [← stray_eq_live hheld, (hfirst.onDatabases s').stray_closing .transactions]
    exact (h.onDatabases s).stray_closing .rules

/-! ## Runs -/

theorem sound_fresh (s : σ) : ({ databases := s } : Pools σ).Sound where
  held := nofun
  numbered := nofun

theorem Sound.command {p : Pools σ} (h : p.Sound) (c : LifecycleCommand) :
    (c.program.run (collaborator server) p).2.Sound := by
  cases c with
  | start rules transactions =>
      rw [LifecycleCommand.program, run_startAll]
      exact (h.onDatabases _).openingAll _
  | stop =>
      obtain ⟨q, hrun, hsound, -⟩ := h.exists_run_stopAll server
      rw [LifecycleCommand.program, hrun]
      exact hsound

theorem run_concat (s : σ) (commands : List LifecycleCommand) (c : LifecycleCommand) :
    run server s (commands ++ [c]) =
      (c.program.run (collaborator server) (run server s commands)).2 := by
  rw [run, List.foldl_append, List.foldl_cons, List.foldl_nil, ← run]

variable (server) in
theorem sound_run (s : σ) (commands : List LifecycleCommand) : (run server s commands).Sound := by
  induction commands using List.reverseRecOn with
  | nil => exact sound_fresh s
  | append_singleton commands c ih =>
      rw [run_concat]
      exact ih.command c

theorem overtakes_concat_iff (s : σ) (commands : List LifecycleCommand) (c : LifecycleCommand) :
    Overtakes server s (commands ++ [c]) ↔
      Overtakes server s commands ∨ ∃ rules transactions, c = .start rules transactions ∧
        ∃ db ∈ (startOutcome server rules transactions (run server s commands).databases).1.opened,
          (run server s commands).held db ≠ none := by
  constructor
  · rintro ⟨earlier, rules, transactions, later, hcommands, hdb⟩
    rcases List.eq_nil_or_concat later with rfl | ⟨later, last, rfl⟩
    · obtain ⟨rfl, hc⟩ := List.append_inj' hcommands rfl
      exact .inr ⟨rules, transactions, List.singleton_inj.1 hc, hdb⟩
    · rw [List.concat_eq_append, ← List.cons_append, ← List.append_assoc] at hcommands
      obtain ⟨rfl, -⟩ := List.append_inj' hcommands rfl
      exact .inl ⟨earlier, rules, transactions, later, rfl, hdb⟩
  · rintro (⟨earlier, rules, transactions, later, rfl, hdb⟩ | ⟨rules, transactions, rfl, hdb⟩)
    · exact ⟨earlier, rules, transactions, later ++ [c], by simp, hdb⟩
    · exact ⟨commands, rules, transactions, [], rfl, hdb⟩

/-- Pools are out of reach just where some start opened a pool for a database that had one. -/
theorem stray_run_eq_nil_iff (s : σ) (commands : List LifecycleCommand) :
    (run server s commands).stray = [] ↔ ¬ Overtakes server s commands := by
  induction commands using List.reverseRecOn with
  | nil =>
      refine iff_of_true rfl ?_
      rintro ⟨earlier, rules, transactions, later, h, -⟩
      simp at h
  | append_singleton commands c ih =>
      have hsound := sound_run server s commands
      rw [run_concat, overtakes_concat_iff, not_or, ← ih]
      cases c with
      | start rules transactions =>
          rw [LifecycleCommand.program, run_startAll,
            (hsound.onDatabases _).stray_openingAll_eq_nil_iff (StartOutcome.nodup_opened _)]
          refine and_congr_right fun _ => ?_
          constructor
          · rintro hnone ⟨rules', transactions', hc, db, hdb, hheld⟩
            cases hc
            exact hheld (hnone db hdb)
          · intro hno db hdb
            by_contra hheld
            exact hno ⟨rules, transactions, rfl, db, hdb, hheld⟩
      | stop =>
          obtain ⟨q, hrun, -, hheld, hlive⟩ := hsound.exists_run_stopAll server
          rw [LifecycleCommand.program, hrun, stray_eq_live hheld, hlive]
          exact (and_iff_left (by rintro ⟨_, _, hc, -⟩; cases hc)).symm

/-- **What starts and stops leave open**, whatever was started and stopped before and whatever fails.
The pools that a start opens are all open and held after it, also where it fails, and nothing else
has changed.  So a failed start leaves nothing of its own open, and no pool started where none was
before, if and only if the pool of the rule database could not be opened.  A stop succeeds, no pool
is started after it, and none is open if and only if no start before it opened a pool for a database
that had one. -/
theorem nothing_stays_open_unless_cut_short (server : Program.Collaborator Database σ) (s : σ)
    (commands : List LifecycleCommand) :
    let p := run server s commands
    (∀ rules transactions,
      let outcome := (startOutcome server rules transactions p.databases).1
      let after := (Database.startAll rules transactions).run (collaborator server) p
      after.1 = outcome.result ∧
      (∃ fresh : List Pool, after.2.live = fresh ++ p.live ∧
        fresh.map Pool.database = outcome.opened.reverse ∧ (∀ q ∈ fresh, q ∉ p.live) ∧
        (∀ q ∈ fresh, after.2.held q.database = some q) ∧
        ∀ db ∉ outcome.opened, after.2.held db = p.held db) ∧
      (after.2.live = p.live ↔ ∃ e, outcome = .rulesRefused e) ∧
      ((∀ db, after.2.held db = none) ↔
        (∀ db, p.held db = none) ∧ ∃ e, outcome = .rulesRefused e)) ∧
    ∃ q, Database.stopAll.run (collaborator server) p = (.ok (), q) ∧
      (∀ db (work : Program Database Unit),
        (Database.withConnection db work).run (collaborator server) q =
          (.error (Database.notStarted db), q)) ∧
      (q.live = [] ↔ ¬ Overtakes server s commands) := by
  intro p
  have hsound : p.Sound := sound_run server s commands
  refine ⟨fun rules transactions => ?_, ?_⟩
  · intro outcome after
    obtain ⟨fresh, hlive, hfor, hnew, hheld, hothers⟩ :=
      (hsound.onDatabases (startOutcome server rules transactions p.databases).2).exists_fresh
        outcome.nodup_opened
    have hafter : after = (outcome.result, { p with
        databases := (startOutcome server rules transactions p.databases).2 }.openingAll
          outcome.opened) := run_startAll rules transactions p
    rw [hafter, ← outcome.opened_eq_nil_iff]
    exact ⟨rfl, ⟨fresh, hlive, hfor, hnew, hheld, hothers⟩,
      (hsound.onDatabases _).live_openingAll_eq_iff outcome.nodup_opened,
      forall_held_openingAll_eq_none_iff outcome.opened _⟩
  · obtain ⟨q, hrun, -, hheld, hlive⟩ := hsound.exists_run_stopAll server
    refine ⟨q, hrun, fun db work => run_withConnection_of_not_held (hheld db) work, ?_⟩
    rw [hlive]
    exact stray_run_eq_nil_iff s commands

/-- Where the tables cannot be created, the start fails and the pool of the rule database stays open
and held. -/
example :
    let p : Pools ScriptedDatabase := { databases := { faults := [(.execute, .breakdown "ddl")] } }
    let after := (Database.startAll ⟨"a", .null, .null, .null⟩ ⟨"b", .null, .null, .null⟩).run
      (collaborator ScriptedDatabase.collaborator) p
    after.1.isOk = false ∧ after.2.live = [⟨.rules, 0⟩] ∧ after.2.held .rules = some ⟨.rules, 0⟩ :=
  ⟨rfl, rfl, rfl⟩

end Pools

end Recommender
