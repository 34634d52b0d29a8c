import SensorGateway.Config
import SensorGateway.Library.Loop

set_option autoImplicit false

/-! # `sensor_db.c`: inserting measurements

The database is the list of the measurements that were inserted. Whether SQLite executes a statement
is up to the environment: `exec k` says so for statement number `k`. -/

namespace SensorGateway

variable {V : Type}

/-- The table, and how many statements were sent to the database. -/
structure SensorDb (V : Type) where
  inserted : List (SensorData V)
  statements : ℕ
deriving DecidableEq

/-- `insert_sensor`. -/
def insertSensor (exec : ℕ → Bool) (conn : SensorDb V) (id : UInt16) (value : V) (ts : Int64) :
    ℤ × SensorDb V :=
  let statements := conn.statements + 1
  if exec conn.statements = true then (0, ⟨conn.inserted ++ [⟨id, value, ts⟩], statements⟩)
  else (1, { conn with statements })

/-- The variables of the loop of `insert_sensor_from_file`; `id_sensor` is -1 at its start. -/
structure InsertLoop (V : Type) where
  file : List UInt8
  temperature : V
  ts : Int64
  conn : SensorDb V

/-- The body of the loop of `insert_sensor_from_file`: like the one of `datamgr_parse_sensor_files` it
    looks at the result of the first of the three reads only, but it resets its variables. -/
def insertBody [Zero V] (exec : ℕ → Bool) (abi : Abi V) (s : InsertLoop V) :
    Option (LoopStep (InsertLoop V) (ℤ × SensorDb V)) :=
  if s.file.length < 2 then some (.exit (0, s.conn))
  else
    let (id, file) := abi.id.readInto (-1) s.file
    let (temperature, file) := abi.value.readInto s.temperature file
    let (ts, file) := abi.ts.readInto s.ts file
    let (returnValue, conn) := insertSensor exec s.conn id temperature ts
    if returnValue = 1 then some (.exit (1, conn))
    else some (.next ⟨file, 0, 0, conn⟩)

/-- `insert_sensor_from_file`. -/
def insertSensorFromFile [Zero V] (exec : ℕ → Bool) (abi : Abi V) (conn : SensorDb V)
    (file : List UInt8) : Option (ℤ × SensorDb V) :=
  loop (insertBody exec abi) (file.length + 1) ⟨file, 0, 0, conn⟩

end SensorGateway
