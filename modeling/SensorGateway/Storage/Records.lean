import SensorGateway.Config

set_option autoImplicit false

/-! # The records of a data file

A data file is a sequence of whole records of 18 bytes and a rest that is too short for one
(`exists_records`). A loop that reads the three fields of a record one after another and only looks at
the result of the first read also takes the rest for a record if it is long enough for the first
field (`recordsRead_eq_wholeRecords_iff`). -/

namespace SensorGateway

variable {V : Type} (abi : Abi V)

/-- The record in the first 18 bytes. -/
def Abi.decodeRecord (file : List UInt8) : SensorData V where
  id := abi.id.readFrom file
  value := abi.value.readFrom (file.drop 2)
  ts := abi.ts.readFrom (file.drop 10)

/-- The whole records at the start of a file. -/
def Abi.wholeRecords (file : List UInt8) : List (SensorData V) :=
  (List.range (file.length / 18)).map fun k => abi.decodeRecord (file.drop (18 * k))

/-- What a loop reads that goes on as long as there is another id. The value and the timestamp are read
    into variables, which `next` says the contents of once a record is processed. -/
def Abi.recordsRead (next : SensorData V → V × Int64) :
    ℕ → V × Int64 → List UInt8 → List (SensorData V)
  | 0, _, _ => []
  | fuel + 1, (value, ts), file =>
      if file.length < 2 then []
      else
        let (id, file) := abi.id.readInto (-1) file
        let (value, file) := abi.value.readInto value file
        let (ts, file) := abi.ts.readInto ts file
        ⟨id, value, ts⟩ :: recordsRead next fuel (next ⟨id, value, ts⟩) file

/-! ## Whole records -/

theorem Abi.decodeRecord_record (m : SensorData V) (rest : List UInt8) :
    abi.decodeRecord (abi.record m ++ rest) = m := by
  have hid : (abi.id.bytes m.id).length = 2 := by simp
  have hvalue : (abi.value.bytes m.value).length = 8 := by simp
  unfold Abi.decodeRecord Abi.record
  rw [List.append_assoc, List.append_assoc, abi.id.readFrom_bytes, List.drop_left' hid,
    abi.value.readFrom_bytes,
    show 10 = (abi.id.bytes m.id).length + (abi.value.bytes m.value).length by rw [hid, hvalue],
    ← List.drop_drop, List.drop_left' rfl, List.drop_left' rfl, abi.ts.readFrom_bytes]

theorem Abi.record_decodeRecord {file : List UInt8} (hlen : 18 ≤ file.length) :
    abi.record (abi.decodeRecord file) = file.take 18 := by
  unfold Abi.decodeRecord Abi.record
  rw [abi.id.bytes_readFrom (by omega), abi.value.bytes_readFrom (by rw [List.length_drop]; omega),
    abi.ts.bytes_readFrom (by rw [List.length_drop]; omega),
    show (18 : ℕ) = 2 + (8 + 8) from rfl, List.take_add, List.take_add, List.drop_drop]

theorem Abi.wholeRecords_record (m : SensorData V) (file : List UInt8) :
    abi.wholeRecords (abi.record m ++ file) = m :: abi.wholeRecords file := by
  have hlen : (abi.record m ++ file).length / 18 = file.length / 18 + 1 := by
    rw [List.length_append, length_record]
    omega
  unfold Abi.wholeRecords
  rw [hlen, List.range_succ_eq_map, List.map_cons, Nat.mul_zero, List.drop_zero,
    abi.decodeRecord_record, List.map_map]
  refine congrArg (m :: ·) (List.map_congr_left ?_)
  intro k _
  rw [Function.comp_apply, Nat.succ_eq_add_one, Nat.mul_add, Nat.mul_one, Nat.add_comm,
    ← List.drop_drop, List.drop_left' (length_record abi m)]

/-- The whole records of a file are those before the rest. -/
theorem Abi.wholeRecords_append (ms : List (SensorData V)) {rest : List UInt8}
    (hrest : rest.length < 18) : abi.wholeRecords (abi.records ms ++ rest) = ms := by
  induction ms with
  | nil =>
      have hlen : (abi.records [] ++ rest).length / 18 = 0 := Nat.div_eq_of_lt hrest
      rw [Abi.wholeRecords, hlen]
      rfl
  | cons m ms ih => rw [abi.records_cons, List.append_assoc, abi.wholeRecords_record, ih]

/-- **Every file is whole records and a rest.** -/
theorem Abi.exists_records (file : List UInt8) :
    ∃ ms rest, file = abi.records ms ++ rest ∧ rest.length < 18 := by
  induction hn : file.length using Nat.strong_induction_on generalizing file with
  | _ n ih =>
      by_cases hlen : file.length < 18
      · exact ⟨[], file, rfl, hlen⟩
      · obtain ⟨ms, rest, hfile, hrest⟩ := ih (file.drop 18).length
          (by rw [List.length_drop]; omega) (file.drop 18) rfl
        refine ⟨abi.decodeRecord file :: ms, rest, ?_, hrest⟩
        rw [abi.records_cons, abi.record_decodeRecord (by omega), List.append_assoc, ← hfile,
          List.take_append_drop]

/-! ## What the loop reads -/

section Reading

variable (next : SensorData V → V × Int64)

/-- The record that an iteration reads into variables with the given contents, and what is behind it. -/
def Abi.readRecord (vars : V × Int64) (file : List UInt8) : SensorData V × List UInt8 :=
  let (id, file) := abi.id.readInto (-1) file
  let (value, file) := abi.value.readInto vars.1 file
  let (ts, file) := abi.ts.readInto vars.2 file
  (⟨id, value, ts⟩, file)

variable {abi} in
theorem Abi.readRecord_rest {vars : V × Int64} {file rest : List UInt8} {m : SensorData V}
    (hread : abi.readRecord vars file = (m, rest)) : rest = file.drop 18 := by
  obtain rfl : (abi.readRecord vars file).2 = rest := congrArg Prod.snd hread
  dsimp only [Abi.readRecord, ByteRepr.readInto]
  rw [List.drop_drop, List.drop_drop]

/-- A whole record is read as it is, whatever the variables hold. -/
theorem Abi.readRecord_record (vars : V × Int64) (m : SensorData V) (file : List UInt8) :
    abi.readRecord vars (abi.record m ++ file) = (m, file) := by
  unfold Abi.readRecord Abi.record
  rw [List.append_assoc, List.append_assoc]
  simp only [ByteRepr.readInto_bytes]

theorem Abi.recordsRead_short (fuel : ℕ) (vars : V × Int64) {file : List UInt8}
    (hshort : file.length < 2) : abi.recordsRead next (fuel + 1) vars file = [] := by
  obtain ⟨value, ts⟩ := vars
  rw [Abi.recordsRead, if_pos hshort]

/-- **One iteration of the loop.** -/
theorem Abi.recordsRead_long (fuel : ℕ) {vars : V × Int64} {file rest : List UInt8}
    {m : SensorData V} (hlong : ¬ file.length < 2) (hread : abi.readRecord vars file = (m, rest)) :
    abi.recordsRead next (fuel + 1) vars file = m :: abi.recordsRead next fuel (next m) rest := by
  obtain ⟨value, ts⟩ := vars
  obtain ⟨rfl, rfl⟩ := Prod.mk.inj hread
  rw [Abi.recordsRead, if_neg hlong]
  rfl

theorem Abi.recordsRead_append (ms : List (SensorData V)) (rest : List UInt8) {fuel : ℕ}
    (hfuel : (abi.records ms ++ rest).length < fuel) (vars : V × Int64) :
    ∃ fuel' vars', rest.length < fuel' ∧ abi.recordsRead next fuel vars (abi.records ms ++ rest)
      = ms ++ abi.recordsRead next fuel' vars' rest := by
  induction ms generalizing fuel vars with
  | nil => exact ⟨fuel, vars, hfuel, rfl⟩
  | cons m ms ih =>
      obtain ⟨fuel, rfl⟩ : ∃ k, fuel = k + 1 := ⟨fuel - 1, by omega⟩
      rw [abi.records_cons, List.append_assoc, List.length_append, length_record] at hfuel
      have hlt : (abi.records ms ++ rest).length < fuel := by omega
      obtain ⟨fuel', vars', hfuel', hread⟩ := ih hlt (next m)
      have hlong : ¬ (abi.record m ++ (abi.records ms ++ rest)).length < 2 := by
        rw [List.length_append, length_record]
        omega
      refine ⟨fuel', vars', hfuel', ?_⟩
      rw [abi.records_cons, List.append_assoc,
        abi.recordsRead_long next fuel hlong (abi.readRecord_record vars m _), hread]
      rfl

/-- A rest of less than two bytes ends the loop, and any other rest is taken for one more record. -/
theorem Abi.recordsRead_rest {rest : List UInt8} (hrest : rest.length < 18) {fuel : ℕ}
    (hfuel : rest.length < fuel) (vars : V × Int64) :
    (rest.length < 2 → abi.recordsRead next fuel vars rest = []) ∧
      (2 ≤ rest.length → ∃ m, abi.recordsRead next fuel vars rest = [m]) := by
  obtain ⟨fuel, rfl⟩ : ∃ k, fuel = k + 1 := ⟨fuel - 1, by omega⟩
  refine ⟨abi.recordsRead_short next fuel vars, fun hlong => ?_⟩
  obtain ⟨m, rest', hread⟩ : ∃ m rest', abi.readRecord vars rest = (m, rest') := ⟨_, _, rfl⟩
  -- the three reads use up the rest
  have hnil : rest' = [] := by
    rw [Abi.readRecord_rest hread, List.drop_eq_nil_iff]
    omega
  refine ⟨m, ?_⟩
  rw [abi.recordsRead_long next fuel (Nat.not_lt.2 hlong) hread, hnil]
  cases fuel with
  | zero => rfl
  | succ fuel => rw [abi.recordsRead_short next fuel _ (by simp)]

variable {next} in
/-- **The loop reads exactly the whole records** if what is behind them is less than two bytes. -/
theorem Abi.recordsRead_eq_wholeRecords_iff (file : List UInt8) {fuel : ℕ}
    (hfuel : file.length < fuel) (vars : V × Int64) :
    abi.recordsRead next fuel vars file = abi.wholeRecords file ↔ file.length % 18 < 2 := by
  obtain ⟨ms, rest, rfl, hrest⟩ := abi.exists_records file
  obtain ⟨fuel', vars', hfuel', hread⟩ :=
    abi.recordsRead_append next ms rest hfuel vars
  obtain ⟨hshort, hlong⟩ := abi.recordsRead_rest next hrest hfuel' vars'
  have hmod : (abi.records ms ++ rest).length % 18 = rest.length := by
    rw [List.length_append, length_records]
    omega
  rw [hread, abi.wholeRecords_append ms hrest, hmod]
  constructor
  · intro heq
    by_contra hge
    obtain ⟨m, hm⟩ := hlong (by omega)
    rw [hm] at heq
    simpa using congrArg List.length heq
  · intro hlt
    rw [hshort hlt, List.append_nil]

end Reading

end SensorGateway
