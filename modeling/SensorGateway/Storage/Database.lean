import SensorGateway.Log.Message
import SensorGateway.Storage.Basic

set_option autoImplicit false

/-! # `sensor_db.c`: the database

The functions of `sensor_db.c` with the statements that they send. SQLite is a parameter (`Sqlite`):
what a statement does to the table and which rows it returns, which rows of a result go to a callback,
and which calls it refuses. What it documents about the statements are the laws `Sqlite.Lawful`; a
theorem that needs them says so. `asLiteral` says which value a statement holds whose text was made
with `%f`; all other conversions show their number as it is. A connection is numbered by the call of
`sqlite3_open` that returned it, and `db` is the database that it is connected to. The messages on
`stderr` are left out.

`Storage.Basic` is the view of a caller that only counts what was inserted; `insertSensor_stores`
says that it is right. -/

namespace SensorGateway

variable {V : Type}

/-! ## The table -/

/-- A row of the table. -/
structure Row (V : Type) where
  id : ℕ
  data : SensorData V
deriving DecidableEq

/-- The table `TABLE_NAME`. Its key is `AUTOINCREMENT`: an id is given to one row only. -/
structure Table (V : Type) where
  rows : List (Row V)
  lastId : ℕ
  ordered : (rows.map Row.id).Pairwise (· < ·)
  id_le : ∀ row ∈ rows, row.id ≤ lastId
deriving DecidableEq

/-- The table that `CREATE TABLE` makes. -/
def Table.empty : Table V := ⟨[], 0, .nil, nofun⟩

/-- `INSERT INTO` the table. -/
def Table.insert (table : Table V) (data : SensorData V) : Table V where
  rows := table.rows ++ [⟨table.lastId + 1, data⟩]
  lastId := table.lastId + 1
  ordered := by
    rw [List.map_append, List.pairwise_append]
    refine ⟨table.ordered, List.pairwise_singleton _ _, ?_⟩
    intro id hid id' hid'
    obtain ⟨row, hrow, rfl⟩ := List.mem_map.1 hid
    obtain rfl := List.mem_singleton.1 hid'
    exact Nat.lt_succ_of_le (table.id_le row hrow)
  id_le := by
    intro row hrow
    rcases List.mem_append.1 hrow with hrow | hrow
    · exact Nat.le_succ_of_le (table.id_le row hrow)
    · obtain rfl := List.mem_singleton.1 hrow
      exact Nat.le_refl _

@[simp] theorem table_rows_insert (table : Table V) (data : SensorData V) :
    (table.insert data).rows = table.rows ++ [⟨table.lastId + 1, data⟩] := rfl

/-! ## Statements -/

/-- The statements of `sensor_db.c`; `selectFrom` has the condition of its `WHERE`. -/
inductive Statement (V : Type) where
  | dropTableIfExists
  | createTable
  | insertInto (data : SensorData V)
  | selectFrom (condition : SensorData V → Bool)

/-! ## SQLite -/

/-- SQLite: which openings, closings and statements it does not refuse, each by its number, and what
    a statement does. -/
structure Sqlite (V : Type) where
  opens : ℕ → Bool
  closes : ℕ → Bool
  executes : ℕ → Bool
  /-- the rows that a statement returns and the table after it, `none` if the table does not
      allow it -/
  run : Option (Table V) → Statement V → Option (List (Row V) × Option (Table V))
  /-- the rows that a callback has been invoked on after those of the result, and whether the result
      came to its end; the callback returns `f earlier row` for `row` after the rows `earlier` -/
  callback : (List (Row V) → Row V → ℤ) → List (Row V) → List (Row V) → List (Row V) × Bool

/-- What SQLite documents about the statements of `sensor_db.c`. -/
structure Sqlite.Lawful (sqlite : Sqlite V) : Prop where
  drop : ∀ table, sqlite.run table .dropTableIfExists = some ([], none)
  create : sqlite.run none .createTable = some ([], some .empty)
  /-- The statement is sent without `IF NOT EXISTS`. -/
  create_exists : ∀ table, sqlite.run (some table) .createTable = none
  insert : ∀ table data, ∃ table',
    sqlite.run (some table) (.insertInto data) = some ([], some table')
  insert_missing : ∀ data, sqlite.run none (.insertInto data) = none
  /-- A table is read in the order of the row ids, and the new row has the last one. -/
  row_order : ∀ table data rows table',
    sqlite.run (some table) (.insertInto data) = some (rows, some table') →
      table'.rows = table.rows ++ [⟨table'.lastId, data⟩]
  /-- With `AUTOINCREMENT` no id is given twice, also if its row is gone. -/
  row_id : ∀ table data rows table',
    sqlite.run (some table) (.insertInto data) = some (rows, some table') →
      table'.lastId = table.lastId + 1
  select : ∀ table condition, sqlite.run (some table) (.selectFrom condition) =
    some (table.rows.filter fun row => condition row.data, some table)
  select_missing : ∀ condition, sqlite.run none (.selectFrom condition) = none
  /-- A callback is invoked on each row in turn. -/
  callback_end : ∀ f earlier, sqlite.callback f earlier [] = (earlier, true)
  /-- A result other than 0 ends the statement. -/
  callback_stop : ∀ f earlier row rows, f earlier row ≠ 0 →
    sqlite.callback f earlier (row :: rows) = (earlier ++ [row], false)
  callback_next : ∀ f earlier row rows, f earlier row = 0 →
    sqlite.callback f earlier (row :: rows) = sqlite.callback f (earlier ++ [row]) rows

/-- The messages about the database. -/
inductive DbEvent where
  | unableToConnect
  | established
  | tableCreated
  | lost
deriving DecidableEq, Repr

/-- The database file (`none`: it has no table), how often SQLite was called, and the messages. -/
structure Database (V : Type) where
  table : Option (Table V)
  opened : ℕ
  closed : ℕ
  statements : ℕ
  log : List DbEvent

/-- `sqlite3_exec`: the rows of the result, `none` for an error. -/
def Database.exec (sqlite : Sqlite V) (db : Database V) (statement : Statement V) :
    Option (List (Row V)) × Database V :=
  let statements := db.statements + 1
  if sqlite.executes db.statements = true then
    match sqlite.run db.table statement with
    | none => (none, { db with statements })
    | some (rows, table) => (some rows, { db with table, statements })
  else (none, { db with statements })

/-- `sqlite3_close`, whose result `init_connection` does not look at. -/
def Database.close (db : Database V) : Database V := { db with closed := db.closed + 1 }

/-- Write a message to the log. -/
def Database.write (db : Database V) (event : DbEvent) : Database V :=
  { db with log := db.log ++ [event] }

/-! ## The functions -/

/-- The part of `init_connection` that clears the table up. -/
def Database.clearUp (sqlite : Sqlite V) (db : Database V) (clearUpFlag : Int8) :
    Option (List (Row V)) × Database V :=
  if clearUpFlag = 1 then db.exec sqlite .dropTableIfExists else (some [], db)

/-- `init_connection`: the connection, `none` for `NULL`. -/
def initConnection (sqlite : Sqlite V) (db : Database V) (clearUpFlag : Int8) :
    Option ℕ × Database V :=
  let conn := db.opened
  let db := { db with opened := db.opened + 1 }
  if sqlite.opens conn = false then (none, (db.write .unableToConnect).close)
  else
    let db := db.write .established
    let (result, db) := db.clearUp sqlite clearUpFlag
    if result.isNone = true then (none, db.close)
    else
      -- whatever the flag is, and without `IF NOT EXISTS`
      let (result, db) := db.exec sqlite .createTable
      if result.isNone = true then (none, db.close)
      else (some conn, db.write .tableCreated)

/-- `disconnect`; the process aborts if the connection is not closed. -/
def disconnect (sqlite : Sqlite V) (db : Database V) : Option (Database V) :=
  if sqlite.closes db.closed = false then none
  else some (db.close.write .lost)

/-- `insert_sensor`, with the statement that it sends. -/
def Database.insertSensor (sqlite : Sqlite V) (asLiteral : V → V) (db : Database V) (id : UInt16)
    (value : V) (ts : Int64) : ℤ × Database V :=
  let (result, db) := db.exec sqlite (.insertInto ⟨id, asLiteral value, ts⟩)
  if result.isNone = true then (1, db) else (0, db)

/-- What the `find_sensor_*` functions share: the rows that the callback was invoked on, with the
    result of the function. -/
def findSensor (sqlite : Sqlite V) (db : Database V) (condition : SensorData V → Bool)
    (f : List (Row V) → Row V → ℤ) : ℤ × List (Row V) × Database V :=
  match db.exec sqlite (.selectFrom condition) with
  | (none, db) => (1, [], db)
  | (some result, db) =>
      let (rows, ended) := sqlite.callback f [] result
      if ended = true then (0, rows, db) else (1, rows, db)

/-- `find_sensor_all`. -/
def findSensorAll (sqlite : Sqlite V) (db : Database V) (f : List (Row V) → Row V → ℤ) :
    ℤ × List (Row V) × Database V :=
  findSensor sqlite db (fun _ => true) f

/-- `find_sensor_by_value`. -/
def findSensorByValue [DecidableEq V] (sqlite : Sqlite V) (asLiteral : V → V) (db : Database V)
    (value : V) (f : List (Row V) → Row V → ℤ) : ℤ × List (Row V) × Database V :=
  findSensor sqlite db (fun data => data.value = asLiteral value) f

/-- `find_sensor_exceed_value`. -/
def findSensorExceedValue [LT V] [DecidableLT V] (sqlite : Sqlite V) (asLiteral : V → V)
    (db : Database V) (value : V) (f : List (Row V) → Row V → ℤ) : ℤ × List (Row V) × Database V :=
  findSensor sqlite db (fun data => asLiteral value < data.value) f

/-- `find_sensor_by_timestamp`. -/
def findSensorByTimestamp (sqlite : Sqlite V) (db : Database V) (ts : Int64)
    (f : List (Row V) → Row V → ℤ) : ℤ × List (Row V) × Database V :=
  findSensor sqlite db (fun data => data.ts = ts) f

/-- `find_sensor_after_timestamp`. -/
def findSensorAfterTimestamp (sqlite : Sqlite V) (db : Database V) (ts : Int64)
    (f : List (Row V) → Row V → ℤ) : ℤ × List (Row V) × Database V :=
  findSensor sqlite db (fun data => ts < data.ts) f

/-! ## Messages -/

/-- The text of a message about the database, without the newline. -/
def DbEvent.text (tableName : List Char) (time : Int64) : DbEvent → List Char
  | .unableToConnect => formatD time.toInt ++ " Unable to connect to SQL server.".toList
  | .established => formatD time.toInt ++ " Connection to SQL server established.".toList
  | .tableCreated =>
      formatD time.toInt ++ (" New table ".toList ++ (tableName ++ " created.".toList))
  | .lost => formatD time.toInt ++ " Connection to SQL server lost.".toList

/-- The message of an event. -/
def DbEvent.message {tableName : List Char} (hname : Plain tableName) (time : Int64)
    (event : DbEvent) : LogMessage where
  text := event.text tableName time
  plain := by
    have htime := plain_formatD time.toInt
    cases event with
    | unableToConnect | established | lost => exact plain_append htime (by decide)
    | tableCreated =>
        exact plain_append htime (plain_append (by decide) (plain_append hname (by decide)))

/-! ## An SQLite with these laws -/

/-- What the laws say about a statement. -/
def Statement.run (table : Option (Table V)) :
    Statement V → Option (List (Row V) × Option (Table V))
  | .dropTableIfExists => some ([], none)
  | .createTable => if table.isSome = true then none else some ([], some .empty)
  | .insertInto data => table.map fun table => ([], some (table.insert data))
  | .selectFrom condition =>
      table.map fun table => (table.rows.filter fun row => condition row.data, some table)

/-- The rows that are passed to a callback, and whether it came to their end. -/
def callbackRows (f : List (Row V) → Row V → ℤ) (earlier : List (Row V)) :
    List (Row V) → List (Row V) × Bool
  | [] => (earlier, true)
  | row :: rows =>
      if f earlier row ≠ 0 then (earlier ++ [row], false)
      else callbackRows f (earlier ++ [row]) rows

theorem Table.eq_insert {table table' : Table V} {data : SensorData V}
    (hrows : table'.rows = table.rows ++ [⟨table'.lastId, data⟩])
    (hid : table'.lastId = table.lastId + 1) : table' = table.insert data := by
  obtain ⟨rows, lastId, _, _⟩ := table'
  dsimp only at hrows hid
  subst hid
  subst hrows
  rfl

section Laws

variable {sqlite : Sqlite V}

/-- The laws leave no choice to a statement. -/
theorem Sqlite.Lawful.run_eq (h : sqlite.Lawful) (table : Option (Table V))
    (statement : Statement V) : sqlite.run table statement = statement.run table := by
  cases statement with
  | dropTableIfExists => exact h.drop table
  | createTable =>
      cases table with
      | none => exact h.create
      | some table => exact h.create_exists table
  | insertInto data =>
      cases table with
      | none => exact h.insert_missing data
      | some table =>
          obtain ⟨table', hinsert⟩ := h.insert table data
          have hrows := h.row_order table data [] table' hinsert
          have hid := h.row_id table data [] table' hinsert
          rw [hinsert, Table.eq_insert hrows hid]
          rfl
  | selectFrom condition =>
      cases table with
      | none => exact h.select_missing condition
      | some table => exact h.select table condition

theorem Sqlite.Lawful.callback_eq (h : sqlite.Lawful) (f : List (Row V) → Row V → ℤ)
    (earlier rows : List (Row V)) :
    sqlite.callback f earlier rows = callbackRows f earlier rows := by
  induction rows generalizing earlier with
  | nil => exact h.callback_end f earlier
  | cons row rows ih =>
      rw [callbackRows]
      by_cases hrow : f earlier row = 0
      · rw [if_neg (not_not.2 hrow), h.callback_next f earlier row rows hrow, ih]
      · rw [if_pos hrow, h.callback_stop f earlier row rows hrow]

/-- SQLite opens and closes the database, and fails a statement only because of the tables. -/
structure Sqlite.Reliable (sqlite : Sqlite V) : Prop extends sqlite.Lawful where
  opens : ∀ k, sqlite.opens k = true
  closes : ∀ k, sqlite.closes k = true
  executes : ∀ k, sqlite.executes k = true

/-- An SQLite that refuses nothing else. -/
def freeSqlite : Sqlite V where
  opens _ := true
  closes _ := true
  executes _ := true
  run table statement := statement.run table
  callback := callbackRows

theorem freeSqlite_insert {table table' : Table V} {data : SensorData V} {rows : List (Row V)}
    (h : freeSqlite.run (some table) (.insertInto data) = some (rows, some table')) :
    rows = [] ∧ table.insert data = table' := by
  simpa [freeSqlite, Statement.run] using h

theorem freeSqlite_lawful : (freeSqlite : Sqlite V).Lawful where
  drop _ := rfl
  create := rfl
  create_exists _ := rfl
  insert table data := ⟨table.insert data, rfl⟩
  insert_missing _ := rfl
  row_order := by
    intro table data rows table' hinsert
    obtain ⟨-, rfl⟩ := freeSqlite_insert hinsert
    rfl
  row_id := by
    intro table data rows table' hinsert
    obtain ⟨-, rfl⟩ := freeSqlite_insert hinsert
    rfl
  select _ _ := rfl
  select_missing _ := rfl
  callback_end _ _ := rfl
  callback_stop _ _ _ _ h := if_pos h
  callback_next _ _ _ _ h := if_neg (not_not.2 h)

theorem freeSqlite_reliable : (freeSqlite : Sqlite V).Reliable where
  toLawful := freeSqlite_lawful
  opens _ := rfl
  closes _ := rfl
  executes _ := rfl

end Laws

/-! ## What the functions do -/

section Spec

variable {sqlite : Sqlite V} {asLiteral : V → V} {db : Database V}

/-- A statement that the environment executes. -/
theorem Sqlite.Reliable.exec_eq (h : sqlite.Reliable) (db : Database V) (statement : Statement V) :
    db.exec sqlite statement = match statement.run db.table with
      | none => (none, { db with statements := db.statements + 1 })
      | some (rows, table) => (some rows, { db with table, statements := db.statements + 1 }) := by
  unfold Database.exec
  rw [if_pos (h.executes _), h.run_eq]

/-- **What `init_connection` does**: without a table it creates one, and a table that is there is in
    its way unless the flag is 1. -/
theorem initConnection_eq (h : sqlite.Reliable) (db : Database V) (clearUpFlag : Int8) :
    initConnection sqlite db clearUpFlag =
      let statements := db.statements + if clearUpFlag = 1 then 2 else 1
      if clearUpFlag = 1 ∨ db.table = none then
        (some db.opened, { db with
          table := some .empty
          opened := db.opened + 1
          statements
          log := db.log ++ [.established, .tableCreated] })
      else
        (none, { db with
          opened := db.opened + 1
          closed := db.closed + 1
          statements
          log := db.log ++ [.established] }) := by
  unfold initConnection Database.clearUp
  dsimp only
  rw [if_neg (by rw [h.opens]; decide)]
  by_cases hflag : clearUpFlag = 1
  · simp [hflag, h.exec_eq, Statement.run, Database.write]
  · rw [if_neg hflag, if_neg hflag]
    cases htable : db.table with
    | none => simp [h.exec_eq, Statement.run, Database.write]
    | some table =>
        simp [h.exec_eq, Statement.run, Database.write, Database.close, hflag]

/-- **What `sqlite3_exec` can do**: fail, or run the statement. -/
theorem exec_cases (sqlite : Sqlite V) (db : Database V) (statement : Statement V) :
    db.exec sqlite statement = (none, { db with statements := db.statements + 1 }) ∨
      ∃ rows table, sqlite.run db.table statement = some (rows, table) ∧
        db.exec sqlite statement =
          (some rows, { db with table, statements := db.statements + 1 }) := by
  unfold Database.exec
  dsimp only
  split
  · cases hrun : sqlite.run db.table statement with
    | none => exact Or.inl rfl
    | some result => exact Or.inr ⟨result.1, result.2, rfl, rfl⟩
  · exact Or.inl rfl

/-- A statement changes nothing but the table. -/
theorem exec_frame (sqlite : Sqlite V) (db : Database V) (statement : Statement V) :
    (db.exec sqlite statement).2 =
      { db with
        table := (db.exec sqlite statement).2.table
        statements := db.statements + 1 } := by
  rcases exec_cases sqlite db statement with hexec | ⟨rows, table, -, hexec⟩
  · rw [hexec]
  · rw [hexec]

/-- A statement neither opens nor closes a connection. -/
theorem exec_handles (sqlite : Sqlite V) (db : Database V) (statement : Statement V) :
    (db.exec sqlite statement).2.opened = db.opened ∧
      (db.exec sqlite statement).2.closed = db.closed := by
  rw [exec_frame sqlite db statement]
  exact ⟨rfl, rfl⟩

theorem clearUp_handles (sqlite : Sqlite V) (db : Database V) (clearUpFlag : Int8) :
    (db.clearUp sqlite clearUpFlag).2.opened = db.opened ∧
      (db.clearUp sqlite clearUpFlag).2.closed = db.closed := by
  unfold Database.clearUp
  split
  · exact exec_handles sqlite db _
  · exact ⟨rfl, rfl⟩

/-- In any environment, the connection that was opened is returned or closed again. -/
theorem initConnection_handles (sqlite : Sqlite V) (db : Database V) (clearUpFlag : Int8) :
    (initConnection sqlite db clearUpFlag).2.opened = db.opened + 1 ∧
      (initConnection sqlite db clearUpFlag).2.closed =
        db.closed + if (initConnection sqlite db clearUpFlag).1 = none then 1 else 0 := by
  unfold initConnection
  dsimp only
  split
  · exact ⟨rfl, rfl⟩
  · obtain ⟨hopened, hclosed⟩ :=
      clearUp_handles sqlite ({ db with opened := db.opened + 1 }.write .established) clearUpFlag
    obtain ⟨hopened', hclosed'⟩ := exec_handles sqlite
      (({ db with opened := db.opened + 1 }.write .established).clearUp sqlite clearUpFlag).2
      .createTable
    split
    · exact ⟨hopened, congrArg (· + 1) hclosed⟩
    · split
      · exact ⟨hopened'.trans hopened, congrArg (· + 1) (hclosed'.trans hclosed)⟩
      · exact ⟨hopened'.trans hopened, hclosed'.trans hclosed⟩

/-- In any environment, `insert_sensor` changes nothing but the table. -/
theorem insertSensor_frame (sqlite : Sqlite V) (asLiteral : V → V) (db : Database V) (id : UInt16)
    (value : V) (ts : Int64) :
    (db.insertSensor sqlite asLiteral id value ts).2 =
      { db with
        table := (db.insertSensor sqlite asLiteral id value ts).2.table
        statements := db.statements + 1 } := by
  have hframe := exec_frame sqlite db (.insertInto ⟨id, asLiteral value, ts⟩)
  unfold Database.insertSensor
  dsimp only
  split
  · exact hframe
  · exact hframe

/-- Inserting into a table that exists. -/
theorem insertSensor_eq (h : sqlite.Reliable) {table : Table V} (htable : db.table = some table)
    (id : UInt16) (value : V) (ts : Int64) :
    db.insertSensor sqlite asLiteral id value ts =
      (0, { db with
        table := some (table.insert ⟨id, asLiteral value, ts⟩)
        statements := db.statements + 1 }) := by
  unfold Database.insertSensor
  rw [h.exec_eq, htable]
  rfl

/-- The table has what was inserted, with the values that the statements held. -/
structure Database.Stores (asLiteral : V → V) (db : Database V) (conn : SensorDb V) : Prop where
  statements_eq : db.statements = conn.statements
  table_eq : ∃ table, db.table = some table ∧ table.rows.map Row.data =
    conn.inserted.map fun data => { data with value := asLiteral data.value }

/-- **Whatever SQLite refuses, `insertSensor` says what the statement of `insert_sensor` does.** -/
theorem insertSensor_stores (hlawful : sqlite.Lawful) {conn : SensorDb V}
    (h : db.Stores asLiteral conn) (id : UInt16) (value : V) (ts : Int64) :
    (db.insertSensor sqlite asLiteral id value ts).1
        = (insertSensor sqlite.executes conn id value ts).1 ∧
      (db.insertSensor sqlite asLiteral id value ts).2.Stores asLiteral
        (insertSensor sqlite.executes conn id value ts).2 := by
  obtain ⟨hstatements, table, htable, hrows⟩ := h
  unfold Database.insertSensor Database.exec insertSensor
  rw [hstatements, htable, hlawful.run_eq]
  dsimp only [Statement.run, Option.map_some]
  by_cases hexec : sqlite.executes conn.statements = true
  · rw [if_pos hexec, if_pos hexec]
    refine ⟨rfl, rfl, _, rfl, ?_⟩
    rw [table_rows_insert, List.map_append, hrows, List.map_append]
    rfl
  · rw [if_neg hexec, if_neg hexec]
    exact ⟨rfl, rfl, table, rfl, hrows⟩

end Spec

end SensorGateway
