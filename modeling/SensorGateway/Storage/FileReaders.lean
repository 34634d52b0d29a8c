import SensorGateway.Datamgr.Paths
import SensorGateway.Storage.Basic

set_option autoImplicit false

/-! # The two readers of data files

`datamgr_parse_sensor_files` and `insert_sensor_from_file` read a file in the same way; they differ in
what their variables hold when a read falls short. Both process the whole records of a file and
nothing else if fewer than two bytes follow them, and otherwise take those bytes for a record
(`file_readers_agree_iff`). -/

namespace SensorGateway

variable {V : Type} {L : ℕ}

section Database

variable [Zero V]

/-- What `insert_sensor_from_file` reads: its variables are reset after each record. -/
def Abi.databaseRecords (abi : Abi V) (file : List UInt8) : List (SensorData V) :=
  abi.recordsRead (fun _ => (0, 0)) (file.length + 1) (0, 0) file

variable {exec : ℕ → Bool}

/-- An iteration inserts the record that is read. -/
theorem insertBody_long (exec : ℕ → Bool) {abi : Abi V} {file rest : List UInt8} {temperature : V}
    {ts : Int64} {conn : SensorDb V} {m : SensorData V} (hlong : ¬ file.length < 2)
    (hread : abi.readRecord (temperature, ts) file = (m, rest)) :
    insertBody exec abi ⟨file, temperature, ts, conn⟩
      = if (insertSensor exec conn m.id m.value m.ts).1 = 1 then
          some (.exit (1, (insertSensor exec conn m.id m.value m.ts).2))
        else some (.next ⟨rest, 0, 0, (insertSensor exec conn m.id m.value m.ts).2⟩) := by
  obtain ⟨rfl, rfl⟩ := Prod.mk.inj hread
  rw [insertBody, if_neg hlong]
  rfl

/-- **The loop inserts what it reads**, while every statement succeeds. -/
theorem loop_insertBody (hexec : ∀ k, exec k = true) (abi : Abi V) {file : List UInt8} {fuel : ℕ}
    (hfuel : file.length < fuel) (temperature : V) (ts : Int64) (conn : SensorDb V) :
    ∃ statements, loop (insertBody exec abi) fuel ⟨file, temperature, ts, conn⟩
      = some (0, ⟨conn.inserted ++ abi.recordsRead (fun _ => (0, 0)) fuel (temperature, ts) file,
          statements⟩) := by
  induction fuel generalizing file temperature ts conn with
  | zero => exact absurd hfuel (Nat.not_lt_zero _)
  | succ fuel ih =>
      by_cases hshort : file.length < 2
      · have hbody : insertBody exec abi ⟨file, temperature, ts, conn⟩ = some (.exit (0, conn)) :=
          if_pos hshort
        refine ⟨conn.statements, ?_⟩
        rw [loop_exit hbody, abi.recordsRead_short _ fuel _ hshort, List.append_nil]
      · obtain ⟨m, rest, hread⟩ : ∃ m rest, abi.readRecord (temperature, ts) file = (m, rest) :=
          ⟨_, _, rfl⟩
        have hrest : rest.length < fuel := by
          rw [Abi.readRecord_rest hread, List.length_drop]
          omega
        have hbody : insertBody exec abi ⟨file, temperature, ts, conn⟩
            = some (.next ⟨rest, 0, 0, ⟨conn.inserted ++ [m], conn.statements + 1⟩⟩) := by
          rw [insertBody_long exec hshort hread, insertSensor, if_pos (hexec _)]
          exact if_neg (by simp)
        obtain ⟨statements, hloop⟩ := ih hrest 0 0 ⟨conn.inserted ++ [m], conn.statements + 1⟩
        refine ⟨statements, ?_⟩
        rw [loop_next hbody, hloop, abi.recordsRead_long _ fuel hshort hread, List.append_assoc,
          List.singleton_append]

/-- `insert_sensor_from_file` on any file. -/
theorem insertSensorFromFile_eq (hexec : ∀ k, exec k = true) (abi : Abi V) (conn : SensorDb V)
    (file : List UInt8) :
    ∃ statements, insertSensorFromFile exec abi conn file
      = some (0, ⟨conn.inserted ++ abi.databaseRecords file, statements⟩) :=
  loop_insertBody hexec abi (Nat.lt_succ_self _) 0 0 conn

end Database

section Readers

variable [Zero V] [Add V] [Div V] [NatCast V] [LT V] [DecidableLT V]

/-- **When the two readers decode the same records.** The data manager delivers the whole records of the
    file to its sensors, whatever the map, and the database gets a row for each of them, exactly if
    fewer than two bytes follow the last whole record. -/
theorem file_readers_agree_iff (abi : Abi V) {exec : ℕ → Bool} (hexec : ∀ k, exec k = true)
    (conn : SensorDb V) (file : List UInt8) :
    ((∀ (cfg : Thresholds V) clock map,
        (datamgrParseSensorFiles cfg abi clock map file : Option (Datamgr V L))
          = Datamgr.deliver cfg SensorData.ts (fun _ => []) ⟨parseSensorMap clock map, []⟩
              (abi.wholeRecords file)) ∧
      ∃ statements, insertSensorFromFile exec abi conn file
        = some (0, ⟨conn.inserted ++ abi.wholeRecords file, statements⟩)) ↔
      file.length % 18 < 2 := by
  obtain ⟨statements, hinsert⟩ := insertSensorFromFile_eq hexec abi conn file
  have hdatabase : abi.databaseRecords file = abi.wholeRecords file ↔ file.length % 18 < 2 :=
    abi.recordsRead_eq_wholeRecords_iff file (Nat.lt_succ_self _) _
  constructor
  · rintro ⟨-, statements', hinsert'⟩
    rw [hinsert, Option.some.injEq, Prod.mk.injEq, SensorDb.mk.injEq, List.append_cancel_left_eq]
      at hinsert'
    exact hdatabase.1 hinsert'.2.1
  · intro hmod
    have hdatamgr : abi.datamgrRecords file = abi.wholeRecords file :=
      (abi.recordsRead_eq_wholeRecords_iff file (Nat.lt_succ_self _) _).2 hmod
    refine ⟨fun cfg clock map => ?_, statements, ?_⟩
    · rw [datamgrParseSensorFiles_eq, hdatamgr]
    · rw [hinsert, hdatabase.2 hmod]

end Readers

/-- One whole record of sensor 15, and one byte. -/
def recordAndByte : List UInt8 := wordAbi.records [⟨15, 20, 100⟩] ++ [21]

theorem file_readers_agree_iff_example :
    ((∀ (cfg : Thresholds (BitVec 64)) clock map,
        (datamgrParseSensorFiles cfg wordAbi clock map recordAndByte :
            Option (Datamgr (BitVec 64) 5))
          = Datamgr.deliver cfg SensorData.ts (fun _ => []) ⟨parseSensorMap clock map, []⟩
              (wordAbi.wholeRecords recordAndByte)) ∧
      ∃ statements, insertSensorFromFile (fun _ => true) wordAbi ⟨[], 0⟩ recordAndByte
        = some (0, ⟨[] ++ wordAbi.wholeRecords recordAndByte, statements⟩)) ↔
      recordAndByte.length % 18 < 2 :=
  file_readers_agree_iff wordAbi (fun _ => rfl) ⟨[], 0⟩ recordAndByte

/-- A file of two bytes is no record, but sensor 15 has a reading and the table a row afterwards. -/
theorem incomplete_record_processed :
    (¬ ∀ (cfg : Thresholds (BitVec 64)) clock map file,
      (datamgrParseSensorFiles cfg wordAbi clock map file : Option (Datamgr (BitVec 64) 5))
        = Datamgr.deliver cfg SensorData.ts (fun _ => []) ⟨parseSensorMap clock map, []⟩
            (wordAbi.wholeRecords file)) ∧
      ¬ ∀ file, ∃ statements, insertSensorFromFile (fun _ => true) wordAbi ⟨[], 0⟩ file
        = some (0, ⟨wordAbi.wholeRecords file, statements⟩) := by
  constructor
  · intro hall
    have hfile := hall ⟨18, 25⟩ (fun _ => 0) ['1', ' ', '1', '5', '\n'] [15, 0]
    have hcount := congrArg (Option.map fun d => d.untimed.map SensorNode.nrOfMeass) hfile
    exact absurd hcount (by decide)
  · intro hall
    obtain ⟨statements, hinsert⟩ := hall [15, 0]
    have hrows : (insertSensorFromFile (fun _ => true) wordAbi ⟨[], 0⟩ [15, 0]).map
        (fun res => res.2.inserted.length) = some 0 := congrArg (Option.map _) hinsert
    exact absurd hrows (by decide)

end SensorGateway
