import Mathlib.Data.Fintype.Basic
import SensorGateway.Library.Bytes

set_option autoImplicit false

/-! # `config.h`: measurements, threads and counters

The data that all parts of the gateway share. `sensor_value_t` is a C `double`; what is proved about
moving measurements around does not depend on it, so the value type is a parameter `V`. -/

namespace SensorGateway

/-- `sensor_data_t`: one measurement. -/
structure SensorData (V : Type) where
  id : UInt16
  value : V
  ts : Int64
deriving DecidableEq, Repr

/-- The layout of the fields of a measurement in memory, which is also their layout on a connection
    and in a data file. -/
structure Abi (V : Type) where
  id : ByteRepr 2 UInt16
  value : ByteRepr 8 V
  ts : ByteRepr 8 Int64

/-- A measurement as a record of 2 + 8 + 8 bytes. -/
def Abi.record {V : Type} (abi : Abi V) (m : SensorData V) : List UInt8 :=
  abi.id.bytes m.id ++ (abi.value.bytes m.value ++ abi.ts.bytes m.ts)

/-- Measurements as records back to back. -/
def Abi.records {V : Type} (abi : Abi V) (ms : List (SensorData V)) : List UInt8 :=
  ms.flatMap abi.record

theorem length_record {V : Type} (abi : Abi V) (m : SensorData V) :
    (abi.record m).length = 18 := by
  simp [Abi.record]

theorem Abi.records_cons {V : Type} (abi : Abi V) (m : SensorData V) (ms : List (SensorData V)) :
    abi.records (m :: ms) = abi.record m ++ abi.records ms := List.flatMap_cons

theorem length_records {V : Type} (abi : Abi V) (records : List (SensorData V)) :
    (abi.records records).length = 18 * records.length := by
  induction records with
  | nil => rfl
  | cons m records ih =>
      rw [abi.records_cons, List.length_append, length_record, ih, List.length_cons]
      omega

/-- The layout on a little-endian machine, for values given by their 64 bits. -/
def wordAbi : Abi (BitVec 64) := ⟨leUInt16, leWord, leInt64⟩

/-- The threads of the gateway process. `datamgr_td` and `storagemgr_td` of the source are the two
    of them that `pthread_equal` compares the caller with. -/
inductive Thread where
  | main
  | connmgr
  | datamgr
  | storagemgr
deriving DecidableEq, Repr

/-- The two threads that read the shared buffer. -/
inductive Reader where
  | datamgr
  | storagemgr
deriving DecidableEq, Repr

instance : Fintype Reader := ⟨{.datamgr, .storagemgr}, fun r => by cases r <;> simp⟩

instance : Nonempty Reader := ⟨.datamgr⟩

/-- The thread a reader runs in. -/
def Reader.thread : Reader → Thread
  | .datamgr => .datamgr
  | .storagemgr => .storagemgr

/-- The reader that is not `r`. -/
def Reader.other : Reader → Reader
  | .datamgr => .storagemgr
  | .storagemgr => .datamgr

@[simp] theorem Reader.other_ne (r : Reader) : r.other ≠ r := by
  cases r <;> decide

theorem Reader.eq_other_of_ne {r r' : Reader} (h : r' ≠ r) : r' = r.other := by
  cases r <;> cases r' <;> first | rfl | exact absurd rfl h

/-! ## `int` -/

/-- The value of a 32-bit `int` after wrapping. -/
def wrapInt (n : ℤ) : ℤ := n.bmod 4294967296

theorem wrapInt_of_lt {n : ℤ} (hn : 0 ≤ n) (hlt : n < 2147483648) : wrapInt n = n := by
  unfold wrapInt
  exact Int.bmod_eq_of_le (by omega) (by omega)

theorem wrapInt_zero : wrapInt 0 = 0 := by decide

/-- A counter overflows when it reaches `2 ^ 31`. -/
theorem wrapInt_overflow : wrapInt 2147483648 = -2147483648 := by decide

/-- A counter of 1 to `2 ^ 31` things is not 0. -/
theorem wrapInt_ne_zero {n : ℕ} (hpos : 0 < n) (hle : n ≤ 2147483648) : wrapInt n ≠ 0 := by
  rcases Nat.lt_or_eq_of_le hle with hlt | rfl
  · rw [wrapInt_of_lt (by omega) (by omega)]
    omega
  · decide

end SensorGateway
