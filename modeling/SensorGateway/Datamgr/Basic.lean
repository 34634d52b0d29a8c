import SensorGateway.Library.Window
import SensorGateway.Log.Event

set_option autoImplicit false

/-! # `datamgr.c`: the data manager

The list of sensor nodes, each with a ring of its last `RUN_AVG_LENGTH` readings, and the two ways
to feed it: measurements taken from the shared buffer (`datamgrHandle`, the body of the loop of
`datamgr_parse_sensor_data`) and records read from a file (`datamgrParseSensorFiles`).

The sensor list is the sequence of elements of the list that the source keeps (what the list
operators do to that sequence is the subject of the list library). A node is addressed by its
place in it. Values are of any type `V` with the operations that the average needs. `RUN_AVG_LENGTH`
is the parameter `L`. A cell of the ring that was never written is `none`, and an operation is
`none` where the source reads such a cell, writes outside the array or dereferences `NULL`.
`nr_of_meass` is a 32-bit `int`. -/

namespace SensorGateway

variable {V : Type} {L : ℕ}

/-- `sensor_node_t`. -/
structure SensorNode (V : Type) (L : ℕ) where
  sensorId : UInt16
  roomId : UInt16
  runningAvg : V
  temperatures : Vector (Option V) L
  timestamp : Int64
  nrOfMeass : ℤ

/-- `SET_MIN_TEMP` and `SET_MAX_TEMP`. -/
structure Thresholds (V : Type) where
  minTemp : V
  maxTemp : V

/-- The data manager: `sensor_list`, and the log events it has written. -/
structure Datamgr (V : Type) (L : ℕ) where
  sensors : List (SensorNode V L)
  events : List (LogEvent V)

/-! ## The room/sensor map -/

section Map

/-- `isspace`. -/
def isSpace (c : Char) : Bool :=
  c = ' ' || ('\t'.toNat ≤ c.toNat && c.toNat ≤ '\r'.toNat)

/-- The conversion `%hu` of `sscanf`: white space, an optional sign and decimal digits, converted as
    `strtoul` does and cut to 16 bits. -/
def scanHu (s : List Char) : Option (UInt16 × List Char) :=
  let s := s.dropWhile isSpace
  let (negative, s) :=
    match s with
    | '-' :: s => (true, s)
    | '+' :: s => (false, s)
    | s => (false, s)
  let digits := s.takeWhile Char.isDigit
  if digits = [] then none
  else
    let n := digits.foldl (fun n c => 10 * n + (c.toNat - '0'.toNat)) 0
    let value :=
      if 2 ^ 64 ≤ n then 2 ^ 64 - 1
      else if negative = true then 2 ^ 64 - n
      else n
    some (UInt16.ofNat value, s.dropWhile Char.isDigit)

/-- `sscanf(line, "%hu" "%hu" "\n", &id_room, &id_sensor)`: a variable keeps its value if its
    conversion is not reached or fails. -/
def scanRoomSensor (line : List Char) (idRoom idSensor : UInt16) : UInt16 × UInt16 :=
  match scanHu (line.takeWhile (· ≠ '\x00')) with
  | none => (idRoom, idSensor)
  | some (idRoom, rest) =>
      match scanHu rest with
      | none => (idRoom, idSensor)
      | some (idSensor, _) => (idRoom, idSensor)

/-- The lines that successive calls of `getline` return. -/
def getLines : List Char → List (List Char)
  | [] => []
  | c :: rest =>
      match getLines rest with
      | [] => [[c]]
      | line :: lines => if c = '\n' then [c] :: line :: lines else (c :: line) :: lines

/-- The node created for a line of the map; its ring is not initialised. -/
def newSensorNode [Zero V] (idRoom idSensor : UInt16) (now : Int64) : SensorNode V L where
  sensorId := idSensor
  roomId := idRoom
  runningAvg := 0
  temperatures := Vector.replicate L none
  timestamp := now
  nrOfMeass := 0

/-- The state of the loop over the lines of the map. `nr_of_lines` is an `int`: a map has fewer than
    `2 ^ 31` lines. -/
structure MapLoop (V : Type) (L : ℕ) where
  sensors : List (SensorNode V L)
  nrOfLines : ℕ
  idRoom : UInt16
  idSensor : UInt16

/-- The body of the loop over the lines of the map; `clock k` is the time at line `k`. The node is
    inserted at index `nr_of_lines`, clamped to the size of the list. -/
def MapLoop.line [Zero V] (clock : ℕ → Int64) (s : MapLoop V L) (line : List Char) :
    MapLoop V L :=
  let nrOfLines := s.nrOfLines + 1
  let (idRoom, idSensor) := scanRoomSensor line s.idRoom s.idSensor
  let node := newSensorNode idRoom idSensor (clock nrOfLines)
  { sensors := s.sensors.insertIdx (min nrOfLines s.sensors.length) node
    nrOfLines, idRoom, idSensor }

/-- The sensor list built from the room/sensor map. -/
def parseSensorMap [Zero V] (clock : ℕ → Int64) (map : List Char) : List (SensorNode V L) :=
  ((getLines map).foldl (MapLoop.line clock) ⟨[], 0, -1, -1⟩).sensors

end Map

/-! ## Lookup -/

/-- `element_compare_datamgr`. -/
def elementCompareDatamgr (x y : SensorNode V L) : ℤ :=
  if x.sensorId > y.sensorId then 1
  else if x.sensorId = y.sensorId then 0
  else -1

/-- The body of the loop of `get_sensor_node_with_id`. -/
def lookupBody (sensors : List (SensorNode V L)) (probe : SensorNode V L) (index : ℕ) :
    Option (LoopStep ℕ (Option ℕ)) :=
  if index < sensors.length then do
    let dummy ← sensors[index]?
    if elementCompareDatamgr probe dummy = 0 then some (.exit (some index))
    else some (.next (index + 1))
  else
    some (.exit none)

/-- `get_sensor_node_with_id`: the place of the node, `none` for `NULL`. Only the id of the probe node
    is ever read. -/
def getSensorNodeWithId [Zero V] (sensors : List (SensorNode V L)) (id : UInt16) :
    Option (Option ℕ) :=
  loop (lookupBody sensors (newSensorNode 0 id 0)) (sensors.length + 1) 0

/-! ## A reading -/

/-- `array_position`: the place in the ring for the next reading, by repeated subtraction; `none` if
    it is not assigned. -/
def arrayPosition (L : ℕ) (nrOfMeass : ℤ) : Option ℤ :=
  if nrOfMeass < L then some nrOfMeass
  else (loop (subtractBody L) (nrOfMeass.toNat + 1) (nrOfMeass, none)).join

/-- `temperatures[array_position] = value`. -/
def writeTemperature (temperatures : Vector (Option V) L) (position : ℤ) (value : V) :
    Option (Vector (Option V) L) :=
  if h : 0 ≤ position ∧ position < L then
    some (temperatures.set position.toNat (some value) (by omega))
  else none

section Average

variable [Zero V] [Add V] [Div V] [NatCast V] [LT V] [DecidableLT V]

/-- The log events of `datamgr_get_avg`. -/
def averageEvents (cfg : Thresholds V) (id : UInt16) (average : V) : List (LogEvent V) :=
  (if average < cfg.minTemp then [.tooCold id average] else []) ++
    (if cfg.maxTemp < average then [.tooHot id average] else [])

/-- `datamgr_get_avg`: the average that it returns, and the data manager afterwards. -/
def datamgrGetAvg (cfg : Thresholds V) (d : Datamgr V L) (id : UInt16) :
    Option (V × Datamgr V L) := do
  let found ← getSensorNodeWithId d.sensors id
  let k ← found
  let node ← d.sensors[k]?
  if L ≤ node.nrOfMeass then
    let total ← sumCells node.temperatures.toList
    let average := total / (L : V)
    return (average,
      { sensors := d.sensors.set k { node with runningAvg := average }
        events := d.events ++ averageEvents cfg node.sensorId average })
  else
    return (0, d)

/-- Record a reading in node `k`: the code that `datamgr_parse_sensor_data` and
    `datamgr_parse_sensor_files` both have once they have found the node. They differ in the
    timestamp they store. -/
def Datamgr.record (cfg : Thresholds V) (d : Datamgr V L) (k : ℕ) (id : UInt16) (value : V)
    (timestamp : Int64) : Option (Datamgr V L) := do
  let node ← d.sensors[k]?
  let position ← arrayPosition L node.nrOfMeass
  let temperatures ← writeTemperature node.temperatures position value
  let node := { node with timestamp, temperatures, nrOfMeass := wrapInt (node.nrOfMeass + 1) }
  let (average, d) ← datamgrGetAvg cfg { d with sensors := d.sensors.set k node } id
  let node ← d.sensors[k]?
  return { d with sensors := d.sensors.set k { node with runningAvg := average } }

/-- Look the node up and record the reading; report `unknown` if there is no node. -/
def Datamgr.reading (cfg : Thresholds V) (d : Datamgr V L) (id : UInt16) (value : V)
    (timestamp : Int64) (unknown : List (LogEvent V)) : Option (Datamgr V L) := do
  match ← getSensorNodeWithId d.sensors id with
  | none => return { d with events := d.events ++ unknown }
  | some k => d.record cfg k id value timestamp

/-! ## From the buffer and from a file -/

/-- What `datamgr_parse_sensor_data` does with a measurement taken from the buffer. The timestamp of
    the node is set to the *id* of the measurement. -/
def datamgrHandle (cfg : Thresholds V) (d : Datamgr V L) (data : SensorData V) :
    Option (Datamgr V L) :=
  d.reading cfg data.id data.value (Int64.ofNat data.id.toNat) [.invalidId data.id]

/-- The variables of the loop of `datamgr_parse_sensor_files`. -/
structure FileLoop (V : Type) (L : ℕ) where
  file : List UInt8
  temperature : V
  ts : Int64
  datamgr : Datamgr V L

/-- The body of the loop of `datamgr_parse_sensor_files`: it ends when the file does not hold another
    id, and takes as much of the value and the timestamp as there is. -/
def fileBody (cfg : Thresholds V) (abi : Abi V) (s : FileLoop V L) :
    Option (LoopStep (FileLoop V L) (Datamgr V L)) :=
  if s.file.length < 2 then some (.exit s.datamgr)
  else do
    let (id, file) := abi.id.readInto (-1) s.file
    let (temperature, file) := abi.value.readInto s.temperature file
    let (ts, file) := abi.ts.readInto s.ts file
    let datamgr ← s.datamgr.reading cfg id temperature ts []
    return .next { file, temperature, ts, datamgr }

/-- `datamgr_parse_sensor_files`. -/
def datamgrParseSensorFiles (cfg : Thresholds V) (abi : Abi V) (clock : ℕ → Int64)
    (map : List Char) (file : List UInt8) : Option (Datamgr V L) :=
  loop (fileBody cfg abi) (file.length + 1) ⟨file, 0, 0, parseSensorMap clock map, []⟩

end Average

end SensorGateway
