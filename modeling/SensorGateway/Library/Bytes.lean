import Mathlib.Algebra.Group.Nat.Defs
import Mathlib.Data.Nat.Notation

set_option autoImplicit false

/-! # Values as bytes

`ByteRepr n α` is how the values of a fixed-size type are laid out in `n` bytes of memory: the
values are the contents that the memory can have. Reading bytes into a variable overlays the front
of its memory (`overlay`); only a read of all `n` bytes determines the value
(`decode_overlay_full`, `decode_overlay_short`). -/

/-- How the values of a type are laid out in `n` bytes. -/
structure ByteRepr (n : ℕ) (α : Type) where
  encode : α → Vector UInt8 n
  decode : Vector UInt8 n → α
  decode_encode : ∀ a, decode (encode a) = a
  encode_decode : ∀ v, encode (decode v) = v

/-- The memory `buf` after `bytes` were written to its front. -/
def overlay {n : ℕ} (buf : Vector UInt8 n) (bytes : List UInt8) : Vector UInt8 n :=
  Vector.ofFn fun i => bytes[i.val]?.getD buf[i]

/-- Writing all bytes of a value forgets what was in the memory before. -/
theorem overlay_full {n : ℕ} (buf v : Vector UInt8 n) : overlay buf v.toList = v := by
  ext i hi
  simp [overlay]

theorem getElem_overlay_of_le {n : ℕ} (buf : Vector UInt8 n) {bytes : List UInt8} {i : ℕ}
    (hlen : bytes.length ≤ i) (hi : i < n) : (overlay buf bytes)[i] = buf[i] := by
  simp [overlay, hlen]

namespace ByteRepr

variable {n : ℕ} {α : Type} (r : ByteRepr n α)

/-- The bytes of a value. -/
def bytes (a : α) : List UInt8 := (r.encode a).toList

/-- Read up to `n` bytes of a file into a variable that holds `a`; the value of the variable
    afterwards and the rest of the file. -/
def readInto (a : α) (file : List UInt8) : α × List UInt8 :=
  (r.decode (overlay (r.encode a) (file.take n)), file.drop n)

@[simp] theorem length_bytes (a : α) : (r.bytes a).length = n := by
  simp [bytes]

/-- Reading the bytes of a value gives the value, whatever the variable held. -/
theorem readInto_bytes (a a' : α) (rest : List UInt8) :
    r.readInto a (r.bytes a' ++ rest) = (a', rest) := by
  have htake : (r.bytes a' ++ rest).take n = (r.encode a').toList :=
    List.take_left' (r.length_bytes a')
  have hdrop : (r.bytes a' ++ rest).drop n = rest := List.drop_left' (r.length_bytes a')
  rw [readInto, htake, hdrop, overlay_full, r.decode_encode]

/-- The value of the first `n` bytes. -/
def readFrom (file : List UInt8) : α := r.decode (Vector.ofFn fun i => file[i.val]?.getD 0)

theorem readFrom_bytes (a : α) (rest : List UInt8) : r.readFrom (r.bytes a ++ rest) = a := by
  have hvec : (Vector.ofFn fun i : Fin n => (r.bytes a ++ rest)[i.val]?.getD 0) = r.encode a := by
    ext i hi
    rw [Vector.getElem_ofFn, List.getElem?_append_left (by simpa using hi)]
    simp [bytes, hi]
  rw [readFrom, hvec, r.decode_encode]

theorem bytes_readFrom {file : List UInt8} (hlen : n ≤ file.length) :
    r.bytes (r.readFrom file) = file.take n := by
  rw [bytes, readFrom, r.encode_decode]
  refine List.ext_getElem (by simp [hlen]) ?_
  intro i hi hi'
  have hfile : i < file.length := Nat.lt_of_lt_of_le (by simpa using hi) hlen
  simp [hfile]

/-- All bytes of a value arrive. -/
theorem decode_overlay_full (a junk : α) :
    r.decode (overlay (r.encode junk) (r.bytes a)) = a := by
  rw [bytes, overlay_full, r.decode_encode]

/-- The value all of whose bytes differ from those of `a`. -/
def garble (a : α) : α := r.decode ((r.encode a).map (· + 1))

/-- Not all bytes of a value arrive. The missing ones are what was in the memory. -/
theorem decode_overlay_short (a : α) {k : ℕ} (hk : k < n) :
    r.decode (overlay (r.encode (r.garble a)) ((r.bytes a).take k)) ≠ a := by
  intro h
  have henc := congrArg r.encode h
  rw [r.encode_decode] at henc
  have hbyte : (overlay (r.encode (r.garble a)) ((r.bytes a).take k))[k] = (r.encode a)[k] := by
    rw [henc]
  rw [getElem_overlay_of_le _ (List.length_take_le _ _) hk, garble, r.encode_decode,
    Vector.getElem_map] at hbyte
  have hnat := congrArg UInt8.toNat hbyte
  have hlt := (r.encode a)[k].toNat_lt
  rw [UInt8.toNat_add, UInt8.toNat_one] at hnat
  omega

end ByteRepr

/-! ## Little-endian layout -/

/-- The `n` low bytes of a number, lowest first. -/
def leBytes : ℕ → ℕ → List UInt8
  | 0, _ => []
  | n + 1, x => UInt8.ofNat x :: leBytes n (x / 256)

/-- The number with the given bytes, lowest first. -/
def leNat : List UInt8 → ℕ
  | [] => 0
  | b :: bs => b.toNat + 256 * leNat bs

@[simp] theorem length_leBytes (n x : ℕ) : (leBytes n x).length = n := by
  induction n generalizing x with
  | zero => rfl
  | succ n ih => rw [leBytes, List.length_cons, ih]

theorem leNat_leBytes (n x : ℕ) : leNat (leBytes n x) = x % 256 ^ n := by
  induction n generalizing x with
  | zero => rw [leBytes, leNat, Nat.pow_zero, Nat.mod_one]
  | succ n ih =>
      rw [leBytes, leNat, ih, Nat.pow_succ', Nat.mod_mul, UInt8.toNat_ofNat']

theorem leBytes_leNat (bs : List UInt8) : leBytes bs.length (leNat bs) = bs := by
  induction bs with
  | nil => rfl
  | cons b bs ih =>
      have hlow : UInt8.ofNat (b.toNat + 256 * leNat bs) = b := by
        rw [← UInt8.toNat_inj, UInt8.toNat_ofNat']
        have hb := b.toNat_lt
        omega
      have hhigh : (b.toNat + 256 * leNat bs) / 256 = leNat bs := by
        have hb := b.toNat_lt
        omega
      rw [List.length_cons, leNat, leBytes, hlow, hhigh, ih]

theorem leNat_lt (bs : List UInt8) : leNat bs < 256 ^ bs.length := by
  induction bs with
  | nil => exact Nat.one_pos
  | cons b bs ih =>
      have hb := b.toNat_lt
      rw [leNat, List.length_cons, Nat.pow_succ]
      omega

/-- The little-endian layout of a type of the numbers below `bound`, which is `256 ^ n`. -/
def leRepr {α : Type} (n bound : ℕ) (hbound : 256 ^ n = bound) (toNat : α → ℕ) (ofNat : ℕ → α)
    (h : ∀ a, ofNat (toNat a % bound) = a) (h' : ∀ x < bound, toNat (ofNat x) = x) :
    ByteRepr n α where
  encode a := ⟨(leBytes n (toNat a)).toArray, by simp⟩
  decode v := ofNat (leNat v.toList)
  decode_encode a := by
    show ofNat (leNat (leBytes n (toNat a))) = a
    rw [leNat_leBytes, hbound, h]
  encode_decode v := by
    have hlt := leNat_lt v.toList
    rw [Vector.length_toList, hbound] at hlt
    have hbytes := leBytes_leNat v.toList
    rw [Vector.length_toList] at hbytes
    apply Vector.toList_inj.1
    show leBytes n (toNat (ofNat (leNat v.toList))) = v.toList
    rw [h' _ hlt, hbytes]

/-- `uint16_t`. -/
def leUInt16 : ByteRepr 2 UInt16 :=
  leRepr 2 65536 (by decide) UInt16.toNat UInt16.ofNat
    (fun a => by
      have hlt : a.toNat < 65536 := a.toNat_lt
      rw [Nat.mod_eq_of_lt hlt, UInt16.ofNat_toNat])
    (fun _ hx => UInt16.toNat_ofNat_of_lt' hx)

/-- 64-bit words. -/
def leWord : ByteRepr 8 (BitVec 64) :=
  leRepr 8 18446744073709551616 (by decide) BitVec.toNat (BitVec.ofNat 64)
    (fun a => by
      have hlt : a.toNat < 18446744073709551616 := a.isLt
      rw [Nat.mod_eq_of_lt hlt, BitVec.ofNat_toNat, BitVec.setWidth_eq])
    (fun _ hx => by rw [BitVec.toNat_ofNat]; exact Nat.mod_eq_of_lt hx)

/-- 64-bit signed numbers. -/
def leInt64 : ByteRepr 8 Int64 :=
  leRepr 8 18446744073709551616 (by decide) (fun a => a.toUInt64.toNat)
    (fun x => (UInt64.ofNat x).toInt64)
    (fun a => by
      have hlt : a.toUInt64.toNat < 18446744073709551616 := a.toUInt64.toNat_lt
      rw [Nat.mod_eq_of_lt hlt, UInt64.ofNat_toNat]
      rfl)
    (fun _ hx => UInt64.toNat_ofNat_of_lt' hx)
