import Mathlib.Data.BitVec
import SensorGateway.Datamgr.Window
import SensorGateway.Gateway.Delivery
import SensorGateway.Storage.Records

set_option autoImplicit false

/-! # The two ways to feed the data manager

`datamgr_parse_sensor_data` takes measurements from the shared buffer and
`datamgr_parse_sensor_files` reads them from a file; both record a reading in the same way but for
the timestamp. They agree on everything else (`paths_agree`), except that the buffer path takes a
measurement with id 0 for the placeholder and drops it (`buffer_path_eq_file_path_iff`). -/

namespace SensorGateway

variable {V : Type} {L : ℕ}

/-! ## Nodes without their timestamp -/

/-- The node without its timestamp. -/
def SensorNode.untimed (node : SensorNode V L) : SensorNode V L := { node with timestamp := 0 }

/-- The sensor list without timestamps. -/
def Datamgr.untimed (d : Datamgr V L) : List (SensorNode V L) := d.sensors.map SensorNode.untimed

theorem sensorIds_untimed (sensors : List (SensorNode V L)) :
    sensorIds (sensors.map SensorNode.untimed) = sensorIds sensors := by
  simp [sensorIds, Function.comp_def, SensorNode.untimed]

theorem sensorIds_eq_of_untimed {sensors sensors' : List (SensorNode V L)}
    (h : sensors.map SensorNode.untimed = sensors'.map SensorNode.untimed) :
    sensorIds sensors = sensorIds sensors' := by
  rw [← sensorIds_untimed sensors, h, sensorIds_untimed]

/-- The sensor list built from a map does not depend on the clock but for the timestamps. -/
theorem parseSensorMap_untimed [Zero V] (clock clock' : ℕ → Int64) (map : List Char) :
    (parseSensorMap clock map : List (SensorNode V L)).map SensorNode.untimed
      = (parseSensorMap clock' map).map SensorNode.untimed := by
  have hlines : ∀ (lines : List (List Char)) (s s' : MapLoop V L),
      s.sensors.map SensorNode.untimed = s'.sensors.map SensorNode.untimed →
      s.nrOfLines = s'.nrOfLines → s.idRoom = s'.idRoom → s.idSensor = s'.idSensor →
      (lines.foldl (MapLoop.line clock) s).sensors.map SensorNode.untimed
        = (lines.foldl (MapLoop.line clock') s').sensors.map SensorNode.untimed := by
    intro lines
    induction lines with
    | nil => exact fun s s' h _ _ _ => h
    | cons line lines ih =>
        intro s s' h hlines hroom hsensor
        have hlen := congrArg List.length h
        simp only [List.length_map] at hlen
        refine ih _ _ ?_ ?_ ?_ ?_
        · simp only [MapLoop.line, List.map_insertIdx, h, hlines, hroom, hsensor, hlen]
          rfl
        · simp only [MapLoop.line, hlines]
        · simp only [MapLoop.line, hroom, hsensor]
        · simp only [MapLoop.line, hroom, hsensor]
  exact hlines _ _ _ rfl rfl rfl rfl

section Paths

variable [Zero V] [Add V] [Div V] [NatCast V]

theorem SensorNode.take_untimed {node node' : SensorNode V L} (h : node.untimed = node'.untimed)
    (value : V) (timestamp timestamp' : Int64) :
    (node.take value timestamp).map SensorNode.untimed
      = (node'.take value timestamp').map SensorNode.untimed := by
  obtain ⟨sensorId, roomId, runningAvg, temperatures, stamp, nrOfMeass⟩ := node
  obtain ⟨sensorId', roomId', runningAvg', temperatures', stamp', nrOfMeass'⟩ := node'
  obtain ⟨rfl, rfl, rfl, rfl, -, rfl⟩ := SensorNode.mk.inj h
  -- the nodes differ in the timestamp only, which neither the ring nor the average looks at
  unfold SensorNode.take
  dsimp only
  cases arrayPosition L nrOfMeass with
  | none => rfl
  | some position =>
      cases hwrite : writeTemperature temperatures position value with
      | none => simp [hwrite]
      | some temperatures =>
          simp only [Option.bind_eq_bind, Option.bind_some, hwrite]
          rw [show SensorNode.average ⟨sensorId, roomId, runningAvg, temperatures, timestamp,
              wrapInt (nrOfMeass + 1)⟩ = SensorNode.average ⟨sensorId, roomId, runningAvg,
              temperatures, timestamp', wrapInt (nrOfMeass + 1)⟩ from rfl]
          cases SensorNode.average (⟨sensorId, roomId, runningAvg, temperatures, timestamp',
              wrapInt (nrOfMeass + 1)⟩ : SensorNode V L) <;> rfl

variable [LT V] [DecidableLT V]

/-- **A reading has the same effect in both paths**, but for the timestamp and the events. -/
theorem reading_untimed (cfg : Thresholds V) {d d' : Datamgr V L} (h : d.untimed = d'.untimed)
    (id : UInt16) (value : V) (timestamp timestamp' : Int64) (unknown unknown' : List (LogEvent V)) :
    (d.reading cfg id value timestamp unknown).map Datamgr.untimed
      = (d'.reading cfg id value timestamp' unknown').map Datamgr.untimed := by
  have hids : sensorIds d.sensors = sensorIds d'.sensors := sensorIds_eq_of_untimed h
  rw [reading_eq, reading_eq, hids]
  cases hplace : placeOf (sensorIds d'.sensors) id with
  | none => exact congrArg some h
  | some k =>
      obtain ⟨hk', -⟩ := List.getElem?_eq_some_iff.1 (placeOf_some hplace)
      have hlen := congrArg List.length h
      simp only [Datamgr.untimed, List.length_map] at hlen
      have hk' : k < d'.sensors.length := by simpa [sensorIds] using hk'
      have hk : k < d.sensors.length := by omega
      have hnode : d.sensors[k].untimed = d'.sensors[k].untimed := by
        have hget := congrArg (·[k]?) h
        simpa [Datamgr.untimed, hk, hk'] using hget
      dsimp only
      rw [record_eq cfg (hids ▸ hplace) (List.getElem?_eq_getElem hk),
        record_eq cfg hplace (List.getElem?_eq_getElem hk')]
      have htake := SensorNode.take_untimed hnode value timestamp timestamp'
      cases h₁ : d.sensors[k].take value timestamp with
      | none =>
          rw [h₁] at htake
          rw [Option.map_eq_none_iff.1 htake.symm]
          rfl
      | some node =>
          rw [h₁] at htake
          obtain ⟨node', h₂, heq⟩ := Option.map_eq_some_iff.1 htake.symm
          rw [h₂]
          simp only [Option.map_some, Datamgr.untimed, List.map_set, heq]
          exact congrArg some (congrArg (·.set k node.untimed) h)

variable {cfg : Thresholds V} {sensors sensors' : List (SensorNode V L)}
  {stamp stamp' : SensorData V → Int64} {report report' : SensorData V → List (LogEvent V)}

/-- **The paths agree** on measurements whose id is not 0 or not known. -/
theorem paths_agree (hfresh : ∀ node ∈ sensors', node.IsFresh) (hL : 0 < L)
    (h : sensors.map SensorNode.untimed = sensors'.map SensorNode.untimed)
    {ms : List (SensorData V)}
    (hzero : ∀ m ∈ ms, m.id = 0 → placeOf (sensorIds sensors') 0 = none) :
    (Datamgr.deliver cfg stamp report ⟨sensors, []⟩ (ms.filter SensorData.hasId)).map
        Datamgr.untimed
      = (Datamgr.deliver cfg stamp' report' ⟨sensors', []⟩ ms).map Datamgr.untimed := by
  induction ms using List.reverseRecOn with
  | nil => exact congrArg some h
  | append_singleton ms m ih =>
      have ih := ih fun m' hm' => hzero m' (List.mem_append_left _ hm')
      rw [deliver_concat, List.filter_append]
      cases hd' : Datamgr.deliver cfg stamp' report' ⟨sensors', []⟩ ms with
      | none =>
          rw [hd', Option.map_none, Option.map_eq_none_iff] at ih
          by_cases hid : m.hasId = true
          · rw [List.filter_cons_of_pos hid, List.filter_nil, deliver_concat, ih]
            rfl
          · rw [List.filter_cons_of_neg hid, List.filter_nil, List.append_nil, ih]
            rfl
      | some d' =>
          rw [hd'] at ih
          obtain ⟨d, hd, heq⟩ := Option.map_eq_some_iff.1 ih
          rw [Option.bind_some]
          by_cases hid : m.hasId = true
          · rw [List.filter_cons_of_pos hid, List.filter_nil, deliver_concat, hd]
            exact reading_untimed cfg heq _ _ _ _ _ _
          · -- the buffer path has dropped `m`, and the file path finds no node for it
            have hid0 : m.id = 0 := by simpa using hid
            have hids := ((deliver_spec hfresh hL ms).1 d' hd').1.ids_eq
            rw [List.filter_cons_of_neg hid, List.filter_nil, List.append_nil, hd, reading_eq, hids,
              hid0, hzero m (by simp) hid0]
            exact congrArg some heq

/-- **When the paths agree.** Both yield a sensor list, and the same one but for the timestamps,
    exactly if no measurement with id 0 belongs to a known sensor and no known sensor gets more than
    `2 ^ 31` measurements. -/
theorem deliver_agree_iff (hfresh : ∀ node ∈ sensors, node.IsFresh)
    (hfresh' : ∀ node ∈ sensors', node.IsFresh) (hL : 0 < L)
    (h : sensors.map SensorNode.untimed = sensors'.map SensorNode.untimed)
    (ms : List (SensorData V)) :
    (∃ d d', Datamgr.deliver cfg stamp report ⟨sensors, []⟩ (ms.filter SensorData.hasId) = some d ∧
        Datamgr.deliver cfg stamp' report' ⟨sensors', []⟩ ms = some d' ∧ d.untimed = d'.untimed) ↔
      (∀ m ∈ ms, m.id = 0 → placeOf (sensorIds sensors') 0 = none) ∧
        ∀ id, placeOf (sensorIds sensors') id ≠ none → (readingsOf ms id).length ≤ 2147483648 := by
  constructor
  · rintro ⟨d, d', hd, hd', heq⟩
    obtain ⟨htracks, -⟩ := (deliver_spec hfresh hL _).1 d hd
    obtain ⟨htracks', hle⟩ := (deliver_spec hfresh' hL ms).1 d' hd'
    refine ⟨?_, hle⟩
    intro m hm hid
    -- a known sensor 0 would have counted `m` in the file path only
    by_contra hknown
    obtain ⟨k, hplace⟩ := Option.ne_none_iff_exists'.1 hknown
    obtain ⟨node', hnode', hholds'⟩ := htracks'.holds 0 k hplace
    obtain ⟨node, hnode, hholds⟩ := htracks.holds 0 k (by rw [sensorIds_eq_of_untimed h, hplace])
    have hnone : readingsOf (ms.filter SensorData.hasId) 0 = [] := by
      unfold readingsOf
      rw [List.map_eq_nil_iff, List.filter_eq_nil_iff]
      intro m' hm'
      simpa using (List.mem_filter.1 hm').2
    have hsome : 0 < (readingsOf ms 0).length := by
      unfold readingsOf
      rw [List.length_map, List.length_pos_iff]
      exact List.ne_nil_of_mem (List.mem_filter.2 ⟨hm, by simp [hid]⟩)
    have hnr : node.nrOfMeass = node'.nrOfMeass := by
      have hget := congrArg (·[k]?) heq
      simp only [Datamgr.untimed, List.getElem?_map, hnode, hnode', Option.map_some,
        Option.some.injEq] at hget
      show node.untimed.nrOfMeass = node'.untimed.nrOfMeass
      rw [hget]
    rw [hholds.nr_eq, hholds'.nr_eq, hnone] at hnr
    exact wrapInt_ne_zero hsome (hle 0 hknown) (hnr.symm.trans wrapInt_zero)
  · rintro ⟨hzero, hle⟩
    obtain ⟨d', hd'⟩ : ∃ d', Datamgr.deliver cfg stamp' report' ⟨sensors', []⟩ ms = some d' :=
      (deliver_spec hfresh' hL ms).2 hle
    have hagree : (Datamgr.deliver cfg stamp report ⟨sensors, []⟩ (ms.filter SensorData.hasId)).map
        Datamgr.untimed = (Datamgr.deliver cfg stamp' report' ⟨sensors', []⟩ ms).map Datamgr.untimed :=
      paths_agree hfresh' hL h hzero
    rw [hd'] at hagree
    obtain ⟨d, hd, heq⟩ := Option.map_eq_some_iff.1 hagree
    exact ⟨d, d', hd, hd', heq⟩

/-! ## From a file -/

/-- What `datamgr_parse_sensor_files` reads: its variables keep the value and the timestamp of the record
    before. -/
def Abi.datamgrRecords (abi : Abi V) (file : List UInt8) : List (SensorData V) :=
  abi.recordsRead (fun m => (m.value, m.ts)) (file.length + 1) (0, 0) file

/-- An iteration takes the record that is read for a reading. -/
theorem fileBody_long (cfg : Thresholds V) {abi : Abi V} {file rest : List UInt8} {temperature : V}
    {ts : Int64} {m : SensorData V} (hlong : ¬ file.length < 2)
    (hread : abi.readRecord (temperature, ts) file = (m, rest)) (d : Datamgr V L) :
    fileBody cfg abi ⟨file, temperature, ts, d⟩
      = (d.reading cfg m.id m.value m.ts []).map fun d => .next ⟨rest, m.value, m.ts, d⟩ := by
  obtain ⟨rfl, rfl⟩ := Prod.mk.inj hread
  rw [fileBody, if_neg hlong]
  exact (Option.map_eq_bind ..).symm

/-- **The loop over the file delivers what it reads**, one record after another. -/
theorem loop_fileBody (cfg : Thresholds V) (abi : Abi V) {file : List UInt8} {fuel : ℕ}
    (hfuel : file.length < fuel) (temperature : V) (ts : Int64) (d : Datamgr V L) :
    loop (fileBody cfg abi) fuel ⟨file, temperature, ts, d⟩
      = Datamgr.deliver cfg SensorData.ts (fun _ => []) d
          (abi.recordsRead (fun m => (m.value, m.ts)) fuel (temperature, ts) file) := by
  induction fuel generalizing file temperature ts d with
  | zero => exact absurd hfuel (Nat.not_lt_zero _)
  | succ fuel ih =>
      by_cases hshort : file.length < 2
      · have hexit : fileBody cfg abi ⟨file, temperature, ts, d⟩ = some (.exit d) := if_pos hshort
        rw [abi.recordsRead_short _ fuel _ hshort, loop_exit hexit]
        rfl
      · obtain ⟨m, rest, hread⟩ : ∃ m rest, abi.readRecord (temperature, ts) file = (m, rest) :=
          ⟨_, _, rfl⟩
        have hrest : rest.length < fuel := by
          rw [Abi.readRecord_rest hread, List.length_drop]
          omega
        have hdeliver : ∀ ms, Datamgr.deliver cfg SensorData.ts (fun _ => []) d (m :: ms)
            = (d.reading cfg m.id m.value m.ts []).bind fun d =>
              Datamgr.deliver cfg SensorData.ts (fun _ => []) d ms := fun _ => rfl
        rw [abi.recordsRead_long _ fuel hshort hread, hdeliver, loop,
          fileBody_long cfg hshort hread]
        cases d.reading cfg m.id m.value m.ts [] with
        | none => rfl
        | some d' => exact ih hrest m.value m.ts d'

/-- `datamgr_parse_sensor_files` on any file. -/
theorem datamgrParseSensorFiles_eq (cfg : Thresholds V) (abi : Abi V) (clock : ℕ → Int64)
    (map : List Char) (file : List UInt8) :
    (datamgrParseSensorFiles cfg abi clock map file : Option (Datamgr V L))
      = Datamgr.deliver cfg SensorData.ts (fun _ => []) ⟨parseSensorMap clock map, []⟩
          (abi.datamgrRecords file) :=
  loop_fileBody cfg abi (Nat.lt_succ_self _) 0 0 _

/-- `datamgr_parse_sensor_files` on a file of complete records. -/
theorem datamgrParseSensorFiles_records (cfg : Thresholds V) (abi : Abi V) (clock : ℕ → Int64)
    (map : List Char) (ms : List (SensorData V)) :
    (datamgrParseSensorFiles cfg abi clock map (abi.records ms) : Option (Datamgr V L))
      = Datamgr.deliver cfg SensorData.ts (fun _ => []) ⟨parseSensorMap clock map, []⟩ ms := by
  have hread : abi.datamgrRecords (abi.records ms) = ms := by
    have hmod : (abi.records ms).length % 18 < 2 := by
      rw [length_records, Nat.mul_mod_right]
      omega
    rw [Abi.datamgrRecords, (abi.recordsRead_eq_wholeRecords_iff _ (Nat.lt_succ_self _) _).2 hmod]
    simpa using abi.wholeRecords_append ms (by simp : ([] : List UInt8).length < 18)
  rw [datamgrParseSensorFiles_eq, hread]

/-! ## From the buffer -/

/-- What the data manager thread does with a measurement; it is stuck once it has faulted. -/
def datamgrProcess (cfg : Thresholds V) (d : Option (Datamgr V L)) (m : SensorData V) :
    Option (Datamgr V L) :=
  d.bind fun d => datamgrHandle cfg d m

omit [Zero V] [Add V] [Div V] [NatCast V] [LT V] [DecidableLT V] in
theorem foldl_bind {α β : Type} (f : α → β → Option α) (a : Option α) (bs : List β) :
    bs.foldl (fun a b => a.bind fun a => f a b) a = a.bind fun a => bs.foldlM f a := by
  induction bs generalizing a with
  | nil => exact (Option.bind_fun_some a).symm
  | cons b bs ih =>
      rw [List.foldl_cons, ih]
      cases a with
      | none => rfl
      | some a => rfl

/-- The gateway process whose data manager starts with the room/sensor map. -/
abbrev datamgrGateway (cfg : Thresholds V) (clock : ℕ → Int64) (map : List Char) :
    StepSystem (Gateway V (Option (Datamgr V L))) (GatewayStep V) :=
  gatewaySystem (datamgrProcess cfg) (some ⟨parseSensorMap clock map, []⟩)

/-- The sensor list of a data manager that has read all is what its loop makes of the measurements
    with an id. -/
theorem datamgrGateway_sensors {clock : ℕ → Int64} {map : List Char}
    {s : Gateway V (Option (Datamgr V L))} (h : (datamgrGateway cfg clock map).Reachable s)
    (hread : s.buffer.unread .datamgr = some []) (hidle : ∀ data, s.pc .datamgr ≠ .handle data) :
    s.sensors = Datamgr.deliver cfg (fun m => Int64.ofNat m.id.toNat) (fun m => [.invalidId m.id])
      ⟨parseSensorMap clock map, []⟩ (s.inserted.filter SensorData.hasId) := by
  rw [reachable_sensors h, reachable_handled h hread hidle]
  exact foldl_bind (datamgrHandle cfg) _ _

/-- **When the buffer path and the file path agree.** After the data manager thread has read all that
    was inserted, its sensor list is the one that `datamgr_parse_sensor_files` computes from a file of
    the same measurements, but for the timestamps, exactly if none of them has the id 0 of a
    known sensor (the thread takes it for the placeholder) and no known sensor has more than `2 ^ 31`
    of them (which both paths write outside the ring). -/
theorem buffer_path_eq_file_path_iff (abi : Abi V) (hL : 0 < L) {clock : ℕ → Int64}
    (clock' : ℕ → Int64) {map : List Char} {s : Gateway V (Option (Datamgr V L))}
    (h : (datamgrGateway cfg clock map).Reachable s)
    (hread : s.buffer.unread .datamgr = some []) (hidle : ∀ data, s.pc .datamgr ≠ .handle data) :
    (∃ d d', s.sensors = some d ∧
        datamgrParseSensorFiles cfg abi clock' map (abi.records s.inserted) = some d' ∧
        d.untimed = d'.untimed) ↔
      ∀ id, getSensorNodeWithId (parseSensorMap clock map : List (SensorNode V L)) id ≠ some none →
        (id = 0 → readingsOf s.inserted id = []) ∧
          (readingsOf s.inserted id).length ≤ 2147483648 := by
  have huntimed := parseSensorMap_untimed (V := V) (L := L) clock clock' map
  have hids : sensorIds (parseSensorMap clock map : List (SensorNode V L))
      = sensorIds (parseSensorMap clock' map) := sensorIds_eq_of_untimed huntimed
  have hnone : (∀ m ∈ s.inserted, m.id = 0 →
        placeOf (sensorIds (parseSensorMap clock' map : List (SensorNode V L))) 0 = none) ↔
      (placeOf (sensorIds (parseSensorMap clock' map : List (SensorNode V L))) 0 ≠ none →
        readingsOf s.inserted 0 = []) := by
    rw [readingsOf, List.map_eq_nil_iff, List.filter_eq_nil_iff]
    constructor
    · intro hall hknown m hm hid
      exact hknown (hall m hm (by simpa using hid))
    · intro hall m hm hid
      by_contra hknown
      exact hall hknown m hm (by simpa using hid)
  rw [datamgrGateway_sensors h hread hidle]
  simp only [datamgrParseSensorFiles_records, getSensorNodeWithId_eq, ne_eq, Option.some.injEq, hids]
  rw [deliver_agree_iff (parseSensorMap_isFresh clock map) (parseSensorMap_isFresh clock' map) hL
    huntimed, hnone]
  constructor
  · rintro ⟨hzero, hle⟩ id hid
    refine ⟨?_, hle id hid⟩
    rintro rfl
    exact hzero hid
  · intro hall
    exact ⟨fun hid => (hall 0 hid).1 rfl, fun id hid => (hall id hid).2⟩

end Paths

/-- The gateway with 64-bit words as values. -/
abbrev wordGateway (map : List Char) :
    StepSystem (Gateway (BitVec 64) (Option (Datamgr (BitVec 64) 5))) (GatewayStep (BitVec 64)) :=
  datamgrGateway ⟨18, 25⟩ (fun _ => 0) map

/-- Sensor 0 is in room 7. -/
def zeroMap : List Char := ['7', ' ', '0', '\n']

/-- A measurement of sensor 0 arrives, and the data manager removes it. -/
def zeroRun : List (GatewayStep (BitVec 64)) :=
  [.insert ⟨0, 20, 100⟩ 7, .manager .datamgr true, .manager .datamgr true, .manager .datamgr true]

theorem buffer_path_eq_file_path_iff_zero :
    (∃ d d', ((wordGateway zeroMap).after zeroRun).sensors = some d ∧
        datamgrParseSensorFiles ⟨18, 25⟩ wordAbi (fun _ => 0) zeroMap
          (wordAbi.records ((wordGateway zeroMap).after zeroRun).inserted) = some d' ∧
        d.untimed = d'.untimed) ↔
      ∀ id, getSensorNodeWithId
          (parseSensorMap (fun _ => 0) zeroMap : List (SensorNode (BitVec 64) 5)) id ≠ some none →
        (id = 0 → readingsOf ((wordGateway zeroMap).after zeroRun).inserted id = []) ∧
          (readingsOf ((wordGateway zeroMap).after zeroRun).inserted id).length ≤ 2147483648 :=
  buffer_path_eq_file_path_iff wordAbi (by decide) (fun _ => 0)
    (StepSystem.reachable_after (by decide)) (by decide) nofun

/-- The buffer path drops the measurement that the file path counts. -/
theorem buffer_path_drops_id_zero :
    ¬ ∀ (map : List Char) (s : Gateway (BitVec 64) (Option (Datamgr (BitVec 64) 5))),
      (wordGateway map).Reachable s → s.buffer.unread .datamgr = some [] →
      (∀ data, s.pc .datamgr ≠ .handle data) →
      ∃ d d', s.sensors = some d ∧
        datamgrParseSensorFiles ⟨18, 25⟩ wordAbi (fun _ => 0) map (wordAbi.records s.inserted)
          = some d' ∧
        d.untimed = d'.untimed := by
  intro hall
  obtain ⟨d, d', hd, hd', heq⟩ := hall zeroMap ((wordGateway zeroMap).after zeroRun)
    (StepSystem.reachable_after (by decide)) (by decide) nofun
  have hbuffer : (((wordGateway zeroMap).after zeroRun).sensors.map fun d =>
      d.untimed.map SensorNode.nrOfMeass) = some [0] := by decide
  have hfile : ((datamgrParseSensorFiles ⟨18, 25⟩ wordAbi (fun _ => 0) zeroMap
      (wordAbi.records ((wordGateway zeroMap).after zeroRun).inserted) :
        Option (Datamgr (BitVec 64) 5)).map fun d => d.untimed.map SensorNode.nrOfMeass)
      = some [1] := by decide
  rw [hd, Option.map_some] at hbuffer
  rw [hd', Option.map_some] at hfile
  rw [heq, hfile] at hbuffer
  exact absurd hbuffer (by decide)

end SensorGateway
