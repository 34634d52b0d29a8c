import SensorGateway.Library.StepSystem
import SensorGateway.Storage.Database

set_option autoImplicit false

/-! # `sensor_db.c`: sessions with the database

A program that calls `init_connection`, `insert_sensor` and `disconnect`. Whatever SQLite refuses, it
closes every connection it opened (`connections_balanced`), and as long as no call clears the table
up, the rows of all successful insertions accumulate (`rows_accumulate`). But `init_connection` always
sends a `CREATE TABLE`, so without the flag there is no second session: see
`init_connection_keeps_rows_iff`. -/

namespace SensorGateway

variable {V : Type}

/-! ## Calls -/

/-- A program that uses the database: its connection, and the measurements for which `insert_sensor`
    returned 0. -/
structure DbSession (V : Type) where
  db : Database V
  conn : Option ℕ
  inserted : List (SensorData V)

/-- A call of the program. -/
inductive DbCall (V : Type) where
  | initConnection (clearUpFlag : Int8)
  | insertSensor (data : SensorData V)
  | disconnect
deriving DecidableEq

/-- A call. The program connects if it has no connection; it inserts and disconnects if it has one. -/
def DbSession.step (sqlite : Sqlite V) (asLiteral : V → V) (s : DbSession V) :
    DbCall V → Option (DbSession V)
  | .initConnection clearUpFlag =>
      if s.conn ≠ none then none
      else
        let (conn, db) := initConnection sqlite s.db clearUpFlag
        some { s with db, conn }
  | .insertSensor data =>
      if s.conn = none then none
      else
        let (result, db) := s.db.insertSensor sqlite asLiteral data.id data.value data.ts
        some { s with db, inserted := if result = 0 then s.inserted ++ [data] else s.inserted }
  | .disconnect =>
      if s.conn = none then none
      else (disconnect sqlite s.db).map fun db => { s with db, conn := none }

/-- All runs of programs that find the database `db`. -/
def dbSystem (sqlite : Sqlite V) (asLiteral : V → V) (db : Database V) :
    StepSystem (DbSession V) (DbCall V) where
  init := ⟨db, none, []⟩
  step := DbSession.step sqlite asLiteral

/-- The calls of sessions without the flag that insert the given measurements. -/
def sessionCalls (batches : List (List (SensorData V))) : List (DbCall V) :=
  batches.flatMap fun ms => .initConnection 0 :: (ms.map .insertSensor ++ [.disconnect])

/-- The rows of the table; none if there is no table. -/
def Database.rows (db : Database V) : List (Row V) := (db.table.map Table.rows).getD []

/-- `rows` are the rows of `db` and behind them those of the measurements `ms`. -/
def Database.Grows (asLiteral : V → V) (db : Database V) (rows : List (Row V))
    (ms : List (SensorData V)) : Prop :=
  ∃ new, rows = db.rows ++ new ∧
    new.map Row.data = ms.map fun data => { data with value := asLiteral data.value }

section Runs

variable {sqlite : Sqlite V} {asLiteral : V → V} {db : Database V}

theorem Database.Grows.refl (asLiteral : V → V) (db : Database V) : db.Grows asLiteral db.rows [] :=
  ⟨[], (List.append_nil _).symm, rfl⟩

theorem Database.Grows.concat {rows : List (Row V)} {ms : List (SensorData V)}
    (h : db.Grows asLiteral rows ms) (id : ℕ) (m : SensorData V) :
    db.Grows asLiteral (rows ++ [⟨id, { m with value := asLiteral m.value }⟩]) (ms ++ [m]) := by
  obtain ⟨new, rfl, hnew⟩ := h
  refine ⟨new ++ [⟨id, { m with value := asLiteral m.value }⟩], List.append_assoc _ _ _, ?_⟩
  rw [List.map_append, hnew, List.map_append]
  rfl

/-! ## Whatever SQLite refuses -/

/-- `CREATE TABLE` loses no row, and there is a table if it succeeds. -/
theorem Sqlite.Lawful.exec_createTable (h : sqlite.Lawful) (db : Database V) :
    (db.exec sqlite .createTable).2.rows = db.rows ∧
      ((db.exec sqlite .createTable).1 ≠ none → (db.exec sqlite .createTable).2.table ≠ none) := by
  rcases exec_cases sqlite db .createTable with hexec | ⟨rows, table, hrun, hexec⟩
  · rw [hexec]
    exact ⟨rfl, fun h => absurd rfl h⟩
  · rw [hexec]
    rw [h.run_eq] at hrun
    dsimp only [Statement.run] at hrun
    split at hrun
    · exact absurd hrun (by simp)
    · next hnone =>
        obtain ⟨rfl, rfl⟩ := Prod.mk.inj (Option.some.inj hrun)
        have htable : db.table = none := by simpa using hnone
        exact ⟨by rw [Database.rows, Database.rows, htable]; rfl, fun _ => Option.some_ne_none _⟩

/-- Without the flag `init_connection` loses no row, and there is a table if it returns a connection. -/
theorem Sqlite.Lawful.initConnection_rows (h : sqlite.Lawful) (db : Database V)
    {clearUpFlag : Int8} (hflag : clearUpFlag ≠ 1) :
    (initConnection sqlite db clearUpFlag).2.rows = db.rows ∧
      ((initConnection sqlite db clearUpFlag).1 ≠ none →
        (initConnection sqlite db clearUpFlag).2.table ≠ none) := by
  obtain ⟨hrows, htable⟩ :=
    h.exec_createTable ({ db with opened := db.opened + 1 }.write .established)
  unfold initConnection Database.clearUp
  dsimp only
  rw [if_neg hflag]
  split
  · exact ⟨rfl, fun h => absurd rfl h⟩
  · rw [if_neg (by simp)]
    split
    · exact ⟨hrows, fun h => absurd rfl h⟩
    · next hcreated =>
        refine ⟨hrows, fun _ => htable ?_⟩
        exact fun hnone => hcreated (by rw [hnone]; rfl)

/-- An insertion adds one row and returns 0, or it leaves the table alone and returns 1. -/
theorem Sqlite.Lawful.insertSensor_cases (h : sqlite.Lawful) (asLiteral : V → V) (db : Database V)
    (id : UInt16) (value : V) (ts : Int64) :
    (∃ table, db.table = some table ∧ db.insertSensor sqlite asLiteral id value ts =
        (0, { db with
          table := some (table.insert ⟨id, asLiteral value, ts⟩)
          statements := db.statements + 1 })) ∨
      db.insertSensor sqlite asLiteral id value ts =
        (1, { db with statements := db.statements + 1 }) := by
  unfold Database.insertSensor
  rcases exec_cases sqlite db (.insertInto ⟨id, asLiteral value, ts⟩) with
    hexec | ⟨rows, table, hrun, hexec⟩
  · rw [hexec]
    exact Or.inr rfl
  · rw [h.run_eq] at hrun
    obtain ⟨table, htable, heq⟩ := Option.map_eq_some_iff.1 hrun
    obtain ⟨rfl, rfl⟩ := Prod.mk.inj heq
    rw [hexec]
    exact Or.inl ⟨table, htable, rfl⟩

/-- **What a call can do.** -/
theorem dbSession_step_cases {s s' : DbSession V} {l : DbCall V}
    (hs : s.step sqlite asLiteral l = some s') :
    (∃ clearUpFlag, l = .initConnection clearUpFlag ∧ s.conn = none ∧ s' = { s with
        db := (initConnection sqlite s.db clearUpFlag).2
        conn := (initConnection sqlite s.db clearUpFlag).1 }) ∨
      (∃ data, l = .insertSensor data ∧ s.conn ≠ none ∧ s' = { s with
        db := (s.db.insertSensor sqlite asLiteral data.id data.value data.ts).2
        inserted := if (s.db.insertSensor sqlite asLiteral data.id data.value data.ts).1 = 0 then
          s.inserted ++ [data] else s.inserted }) ∨
      (l = .disconnect ∧ s.conn ≠ none ∧
        s' = { s with db := s.db.close.write .lost, conn := none }) := by
  cases l with
  | initConnection clearUpFlag =>
      dsimp only [DbSession.step] at hs
      split at hs
      · exact absurd hs (by simp)
      · next hconn => exact Or.inl ⟨_, rfl, not_not.1 hconn, (Option.some.inj hs).symm⟩
  | insertSensor data =>
      dsimp only [DbSession.step] at hs
      split at hs
      · exact absurd hs (by simp)
      · next hconn => exact Or.inr (Or.inl ⟨_, rfl, hconn, (Option.some.inj hs).symm⟩)
  | disconnect =>
      dsimp only [DbSession.step, disconnect] at hs
      split at hs
      · exact absurd hs (by simp)
      · next hconn =>
          obtain ⟨db', hclose, rfl⟩ := Option.map_eq_some_iff.1 hs
          split at hclose
          · exact absurd hclose (by simp)
          · obtain rfl := Option.some.inj hclose
            exact Or.inr (Or.inr ⟨rfl, hconn, rfl⟩)

/-- Who has a connection finds a table, and the rows are those of `db` and the inserted ones. -/
structure DbSession.Accumulates (asLiteral : V → V) (db : Database V) (s : DbSession V) : Prop where
  table_ne : s.conn ≠ none → s.db.table ≠ none
  grows : db.Grows asLiteral s.db.rows s.inserted

theorem DbSession.Accumulates.step (hlawful : sqlite.Lawful) {s s' : DbSession V} {l : DbCall V}
    (h : s.Accumulates asLiteral db) (hl : l ≠ .initConnection 1)
    (hs : s.step sqlite asLiteral l = some s') : s'.Accumulates asLiteral db := by
  rcases dbSession_step_cases hs with ⟨clearUpFlag, rfl, -, rfl⟩ | ⟨data, rfl, -, rfl⟩ |
    ⟨rfl, -, rfl⟩
  · have hflag : clearUpFlag ≠ 1 := fun hflag => hl (by rw [hflag])
    obtain ⟨hrows, htable⟩ := hlawful.initConnection_rows s.db hflag
    exact ⟨htable, hrows ▸ h.grows⟩
  · rcases hlawful.insertSensor_cases asLiteral s.db data.id data.value data.ts with
      ⟨table, htable, hinsert⟩ | hinsert
    · have hgrows := h.grows
      rw [Database.rows, htable] at hgrows
      rw [hinsert, if_pos rfl]
      exact ⟨fun _ => Option.some_ne_none _, hgrows.concat (table.lastId + 1) data⟩
    · rw [hinsert, if_neg (by simp)]
      exact ⟨h.table_ne, h.grows⟩
  · exact ⟨fun hconn => absurd rfl hconn, h.grows⟩

/-- **Inserted rows accumulate** in every run that never clears the table up, whatever SQLite
    refuses. -/
theorem rows_accumulate (hlawful : sqlite.Lawful) {ls : List (DbCall V)} {s : DbSession V}
    (h : (dbSystem sqlite asLiteral db).exec (dbSystem sqlite asLiteral db).init ls = some s)
    (hls : ∀ l ∈ ls, l ≠ .initConnection 1) : s.Accumulates asLiteral db := by
  revert hls
  refine StepSystem.run_induction
    (motive := fun ls s => (∀ l ∈ ls, l ≠ .initConnection 1) → s.Accumulates asLiteral db) ?_ ?_ h
  · exact fun _ => ⟨fun hconn => absurd rfl hconn, .refl asLiteral db⟩
  · intro ls s l s' _ ih hs hls
    exact (ih fun l hl => hls l (List.mem_append_left _ hl)).step hlawful
      (hls l (List.mem_append_right _ (List.mem_singleton_self l))) hs

/-- As many connections were closed as were opened, but for the one the program has. -/
def DbSession.Balanced (db : Database V) (s : DbSession V) : Prop :=
  s.db.opened + db.closed = s.db.closed + db.opened + if s.conn = none then 0 else 1

/-- **No connection leaks**, in any run. -/
theorem connections_balanced {s : DbSession V} (h : (dbSystem sqlite asLiteral db).Reachable s) :
    s.Balanced db := by
  refine h.invariant (DbSession.Balanced db) ?_ ?_
  · show db.opened + db.closed = db.closed + db.opened + 0
    omega
  · intro s l s' h hs
    unfold DbSession.Balanced at h ⊢
    rcases dbSession_step_cases hs with ⟨clearUpFlag, rfl, hconn, rfl⟩ | ⟨data, rfl, -, rfl⟩ |
      ⟨rfl, hconn, rfl⟩
    · obtain ⟨hopened, hclosed⟩ := initConnection_handles sqlite s.db clearUpFlag
      rw [if_pos hconn] at h
      dsimp only
      rw [hopened, hclosed]
      split
      · omega
      · omega
    · rw [insertSensor_frame sqlite asLiteral s.db data.id data.value data.ts]
      exact h
    · rw [if_neg hconn] at h
      rw [if_pos rfl]
      dsimp only [Database.write, Database.close]
      omega

/-! ## SQLite refuses nothing -/

/-- The table after the insertion of all measurements. -/
def Table.insertAll (asLiteral : V → V) (table : Table V) (ms : List (SensorData V)) : Table V :=
  ms.foldl (fun table m => table.insert { m with value := asLiteral m.value }) table

theorem Sqlite.Reliable.exec_inserts (h : sqlite.Reliable) (asLiteral : V → V) (db : Database V)
    (ms : List (SensorData V)) {s : DbSession V} (hconn : s.conn ≠ none) {table : Table V}
    (htable : s.db.table = some table) :
    ∃ s', (dbSystem sqlite asLiteral db).exec s (ms.map .insertSensor) = some s' ∧
      s'.conn ≠ none ∧ s'.db.table = some (table.insertAll asLiteral ms) ∧
      s'.inserted = s.inserted ++ ms := by
  induction ms generalizing s table with
  | nil => exact ⟨s, rfl, hconn, htable, (List.append_nil _).symm⟩
  | cons m ms ih =>
      obtain ⟨s₁, hstep, hconn₁, htable₁, hinserted₁⟩ :
          ∃ s₁, (dbSystem sqlite asLiteral db).step s (.insertSensor m) = some s₁ ∧
            s₁.conn ≠ none ∧
            s₁.db.table = some (table.insert { m with value := asLiteral m.value }) ∧
            s₁.inserted = s.inserted ++ [m] := by
        dsimp only [dbSystem, DbSession.step]
        rw [if_neg hconn, insertSensor_eq h htable]
        exact ⟨_, rfl, hconn, rfl, rfl⟩
      obtain ⟨s', hexec, hconn', htable', hinserted⟩ := ih hconn₁ htable₁
      refine ⟨s', ?_, hconn', htable', ?_⟩
      · rw [List.map_cons, StepSystem.exec_cons, hstep]
        exact hexec
      · rw [hinserted, hinserted₁, List.append_assoc]
        rfl

/-- A connection to a new table, and the measurements `ms` inserted. -/
theorem Sqlite.Reliable.exec_connected (h : sqlite.Reliable) (asLiteral : V → V) (db : Database V)
    {clearUpFlag : Int8} (hclear : clearUpFlag = 1 ∨ db.table = none) (ms : List (SensorData V)) :
    ∃ s, (dbSystem sqlite asLiteral db).exec (dbSystem sqlite asLiteral db).init
        (.initConnection clearUpFlag :: ms.map .insertSensor) = some s ∧
      s.conn ≠ none ∧ s.db.table = some (Table.empty.insertAll asLiteral ms) ∧ s.inserted = ms := by
  have hinit := initConnection_eq h db clearUpFlag
  dsimp only at hinit
  rw [if_pos hclear] at hinit
  obtain ⟨s₀, hstep, hconn₀, htable₀, hinserted₀⟩ :
      ∃ s₀, (dbSystem sqlite asLiteral db).step (dbSystem sqlite asLiteral db).init
          (.initConnection clearUpFlag) = some s₀ ∧
        s₀.conn ≠ none ∧ s₀.db.table = some Table.empty ∧ s₀.inserted = [] := by
    dsimp only [dbSystem, DbSession.step]
    rw [if_neg (not_not.2 rfl), hinit]
    exact ⟨_, rfl, Option.some_ne_none _, rfl, rfl⟩
  obtain ⟨s, hexec, hconn, htable, hinserted⟩ := h.exec_inserts asLiteral db ms hconn₀ htable₀
  refine ⟨s, ?_, hconn, htable, ?_⟩
  · rw [StepSystem.exec_cons, hstep]
    exact hexec
  · rw [hinserted, hinserted₀, List.nil_append]

/-- Without a table there can be one session. -/
theorem Sqlite.Reliable.exec_session (h : sqlite.Reliable) (asLiteral : V → V)
    (hnone : db.table = none) (ms : List (SensorData V)) :
    ∃ s, (dbSystem sqlite asLiteral db).exec (dbSystem sqlite asLiteral db).init
        (sessionCalls [ms]) = some s ∧
      s.db.table ≠ none ∧ s.inserted = ms := by
  obtain ⟨s, hexec, hconn, htable, hinserted⟩ :=
    h.exec_connected asLiteral db (Or.inr hnone : (0 : Int8) = 1 ∨ db.table = none) ms
  have hclose : (dbSystem sqlite asLiteral db).step s .disconnect =
      some { s with db := s.db.close.write .lost, conn := none } := by
    dsimp only [dbSystem, DbSession.step, disconnect]
    rw [if_neg hconn, if_neg (by rw [h.closes]; decide)]
    rfl
  have htable' : s.db.table ≠ none := htable ▸ Option.some_ne_none _
  refine ⟨⟨s.db.close.write .lost, none, s.inserted⟩, ?_, htable', hinserted⟩
  rw [sessionCalls, List.flatMap_singleton, ← List.cons_append]
  exact StepSystem.exec_concat hexec hclose

/-- Who has no connection cannot go on. -/
theorem dbSystem_unconnected (sqlite : Sqlite V) (asLiteral : V → V) (db : Database V)
    {s : DbSession V} (hnull : s.conn = none) :
    (∀ data, (dbSystem sqlite asLiteral db).step s (.insertSensor data) = none) ∧
      (dbSystem sqlite asLiteral db).step s .disconnect = none := by
  dsimp only [dbSystem, DbSession.step]
  exact ⟨fun _ => if_pos hnull, if_pos hnull⟩

/-- With a table, `init_connection` returns NULL without the flag, so there is no session. -/
theorem Sqlite.Reliable.exec_sessions_none (h : sqlite.Reliable) {s : DbSession V}
    (htable : s.db.table ≠ none) (ms : List (SensorData V)) (batches : List (List (SensorData V))) :
    (dbSystem sqlite asLiteral db).exec s (sessionCalls (ms :: batches)) = none := by
  rw [sessionCalls, List.flatMap_cons, List.cons_append, StepSystem.exec_cons]
  cases hstep : (dbSystem sqlite asLiteral db).step s (.initConnection 0) with
  | none => rfl
  | some s₁ =>
      have hinit := initConnection_eq h s.db 0
      dsimp only at hinit
      rw [if_neg (by simp [htable])] at hinit
      have hnull : s₁.conn = none := by
        dsimp only [dbSystem, DbSession.step] at hstep
        split at hstep
        · exact absurd hstep (by simp)
        · rw [hinit] at hstep
          obtain rfl := Option.some.inj hstep
          rfl
      obtain ⟨hinsert, hdisconnect⟩ := dbSystem_unconnected sqlite asLiteral db hnull
      cases ms with
      | nil =>
          rw [List.map_nil, List.nil_append, List.singleton_append, Option.bind_some,
            StepSystem.exec_cons, hdisconnect]
          rfl
      | cons m ms =>
          rw [List.map_cons, List.cons_append, List.cons_append, Option.bind_some,
            StepSystem.exec_cons, hinsert]
          rfl

/-! ## What the header says -/

/-- `init_connection` returns a connection to a database whose table has the rows it had before, or
    none if the flag is 1. -/
def InitKeepsRows (sqlite : Sqlite V) (db : Database V) (clearUpFlag : Int8) : Prop :=
  ∃ conn table, (initConnection sqlite db clearUpFlag).1 = some conn ∧
    (initConnection sqlite db clearUpFlag).2.table = some table ∧
    table.rows = if clearUpFlag = 1 then [] else db.rows

/-- The sessions without the flag take place, and behind the rows that were there before are those of
    all measurements. -/
def SessionsAccumulate (sqlite : Sqlite V) (asLiteral : V → V) (db : Database V)
    (batches : List (List (SensorData V))) : Prop :=
  ∃ s, (dbSystem sqlite asLiteral db).exec (dbSystem sqlite asLiteral db).init
      (sessionCalls batches) = some s ∧ db.Grows asLiteral s.db.rows batches.flatten

theorem Sqlite.Reliable.initKeepsRows_iff (h : sqlite.Reliable) (db : Database V)
    (clearUpFlag : Int8) :
    InitKeepsRows sqlite db clearUpFlag ↔ clearUpFlag = 1 ∨ db.table = none := by
  have hinit := initConnection_eq h db clearUpFlag
  dsimp only at hinit
  unfold InitKeepsRows
  constructor
  · rintro ⟨conn, table, hconn, -⟩
    by_contra hstays
    rw [if_neg hstays] at hinit
    rw [hinit] at hconn
    exact absurd hconn (by simp)
  · intro hclear
    rw [if_pos hclear] at hinit
    rw [hinit]
    refine ⟨db.opened, .empty, rfl, rfl, ?_⟩
    split
    · rfl
    · next hflag => rw [Database.rows, hclear.resolve_left hflag]; rfl

theorem Sqlite.Reliable.sessionsAccumulate_iff (h : sqlite.Reliable) (db : Database V)
    (batches : List (List (SensorData V))) :
    SessionsAccumulate sqlite asLiteral db batches ↔
      batches.length ≤ if db.table = none then 1 else 0 := by
  have hcalls : ∀ l ∈ sessionCalls batches, l ≠ .initConnection 1 := by
    intro l hl
    obtain ⟨ms, -, hl⟩ := List.mem_flatMap.1 hl
    rintro rfl
    simp at hl
  cases batches with
  | nil => exact iff_of_true ⟨_, rfl, .refl asLiteral db⟩ (Nat.zero_le _)
  | cons ms batches =>
      by_cases htable : db.table = none
      · rw [if_pos htable]
        obtain ⟨s, hexec, htable', hinserted⟩ := h.exec_session asLiteral htable ms
        cases batches with
        | nil =>
            refine iff_of_true ⟨s, hexec, ?_⟩ (Nat.le_refl 1)
            have hgrows := (rows_accumulate h.toLawful hexec hcalls).grows
            rw [hinserted] at hgrows
            rw [List.flatten_singleton]
            exact hgrows
        | cons ms' batches =>
            -- the first session has left a table
            refine iff_of_false ?_ (by simp)
            rintro ⟨s', hexec', -⟩
            have happend : sessionCalls (ms :: ms' :: batches) =
                sessionCalls [ms] ++ sessionCalls (ms' :: batches) := by
              rw [sessionCalls, sessionCalls, sessionCalls, ← List.flatMap_append]
              rfl
            rw [happend, StepSystem.exec_append, hexec, Option.bind_some,
              h.exec_sessions_none htable'] at hexec'
            exact absurd hexec' (by simp)
      · rw [if_neg htable]
        refine iff_of_false ?_ (Nat.not_succ_le_zero _)
        rintro ⟨s, hexec, -⟩
        rw [h.exec_sessions_none htable] at hexec
        exact absurd hexec (by simp)

/-- **`init_connection` keeps the rows, or clears them up, if and only if it is to clear them up or
    there is no table**; so inserted rows accumulate over sessions without the flag only if there is at
    most one, and no table before it. -/
theorem init_connection_keeps_rows_iff (h : sqlite.Reliable) (asLiteral : V → V) (db : Database V) :
    (∀ clearUpFlag, InitKeepsRows sqlite db clearUpFlag ↔ clearUpFlag = 1 ∨ db.table = none) ∧
      ∀ batches, SessionsAccumulate sqlite asLiteral db batches ↔
        batches.length ≤ if db.table = none then 1 else 0 :=
  ⟨h.initKeepsRows_iff db, h.sessionsAccumulate_iff db⟩

end Runs

/-! ## Two sessions -/

/-- A database without a table. -/
def noTable (V : Type) : Database V := ⟨none, 0, 0, 0, []⟩

/-- A database whose table has the measurement 1 of sensor 15. -/
def oneRow : Database ℕ := { noTable ℕ with table := some (Table.empty.insert ⟨15, 1, 0⟩) }

theorem init_connection_keeps_rows_iff_example :
    InitKeepsRows freeSqlite oneRow 1 ∧ ¬ InitKeepsRows freeSqlite oneRow 0 ∧
      SessionsAccumulate freeSqlite (fun v => v) (noTable ℕ) [[⟨15, 1, 0⟩]] := by
  have honeRow := init_connection_keeps_rows_iff freeSqlite_reliable (fun v => v) oneRow
  have hnoTable := init_connection_keeps_rows_iff freeSqlite_reliable (fun v => v) (noTable ℕ)
  refine ⟨(honeRow.1 1).2 (Or.inl rfl), ?_, (hnoTable.2 _).2 (Nat.le_refl 1)⟩
  rw [honeRow.1 0]
  decide

/-- The table is there, so `init_connection(0)` returns NULL; and after a first session with a new
    database, there is no second one. -/
theorem second_session_refused :
    (initConnection freeSqlite oneRow 0).1 = none ∧ ¬ InitKeepsRows freeSqlite oneRow 0 ∧
      ¬ SessionsAccumulate freeSqlite (fun v => v) (noTable ℕ) [[⟨15, 1, 0⟩], [⟨15, 2, 10⟩]] := by
  have hnull : (initConnection freeSqlite oneRow 0).1 = none := rfl
  have hrun : (dbSystem freeSqlite (fun v => v) (noTable ℕ)).exec
      (dbSystem freeSqlite (fun v => v) (noTable ℕ)).init
      (sessionCalls [[⟨15, 1, 0⟩], [⟨15, 2, 10⟩]]) = none := rfl
  refine ⟨hnull, ?_, ?_⟩
  · rintro ⟨conn, table, hconn, -⟩
    exact absurd (hnull.symm.trans hconn) (by simp)
  · rintro ⟨s, hexec, -⟩
    exact absurd (hrun.symm.trans hexec) (by simp)

end SensorGateway
