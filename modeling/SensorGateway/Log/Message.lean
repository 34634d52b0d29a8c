import Mathlib.Data.Rat.Floor
import SensorGateway.Log.Event

set_option autoImplicit false

/-! # The messages of the log events

The texts that `asprintf` formats for the log events, and the conversions it does. A character stands
for a byte. The time is what `time(NULL)` returned, and `formatValue` renders a value as `%f` does
(`formatF` for exact numbers). Every message is one line (`LogEvent.message`). -/

namespace SensorGateway

/-! ## Lines -/

/-- Text that a line can hold: it has no newline and no NUL. -/
def Plain (s : List Char) : Prop := '\n' ∉ s ∧ '\x00' ∉ s

instance (s : List Char) : Decidable (Plain s) := inferInstanceAs (Decidable (_ ∧ _))

/-- A newline-terminated message without an interior newline or NUL. -/
structure LogMessage where
  text : List Char
  plain : Plain text

/-- The message as it is written. -/
def LogMessage.line (m : LogMessage) : List Char := m.text ++ ['\n']

theorem plain_append {s t : List Char} (hs : Plain s) (ht : Plain t) : Plain (s ++ t) := by
  constructor
  · rw [List.mem_append, not_or]
    exact ⟨hs.1, ht.1⟩
  · rw [List.mem_append, not_or]
    exact ⟨hs.2, ht.2⟩

theorem plain_of_forall {s : List Char} (h : ∀ c ∈ s, c.isDigit = true ∨ c = '-' ∨ c = '.') :
    Plain s := by
  constructor
  · intro hmem
    exact absurd (h _ hmem) (by decide)
  · intro hmem
    exact absurd (h _ hmem) (by decide)

/-! ## Conversions -/

/-- The decimal digits of a number. -/
def digits (n : ℕ) : List Char := Nat.toDigits 10 n

/-- `%d` and `%ld`. -/
def formatD (n : ℤ) : List Char := if n < 0 then '-' :: digits n.natAbs else digits n.natAbs

/-- `%hu`. -/
def formatHu (n : UInt16) : List Char := digits n.toNat

/-- The integer nearest to a number that is not negative, the even one of two. -/
def roundHalfEven (q : ℚ) : ℕ :=
  let n := ⌊q⌋.toNat
  if q - n < 1 / 2 then n
  else if 1 / 2 < q - n then n + 1
  else if n % 2 = 0 then n
  else n + 1

/-- `%f` of an exact number: six decimals, rounded to the nearest. -/
def formatF (q : ℚ) : List Char :=
  let n := roundHalfEven (|q| * 1000000)
  (if q < 0 then ['-'] else []) ++
    (digits (n / 1000000) ++ '.' :: (digits (n % 1000000)).leftpad 6 '0')

theorem isDigit_of_mem_digits {n : ℕ} {c : Char} (hc : c ∈ digits n) : c.isDigit = true :=
  Nat.isDigit_of_mem_toDigits (by decide) (by decide) hc

theorem digits_ne_nil (n : ℕ) : digits n ≠ [] := Nat.toDigits_ne_nil

theorem formatD_natCast (n : ℕ) : formatD n = digits n := by
  unfold formatD
  rw [if_neg (by omega), Int.natAbs_natCast]

theorem plain_digits (n : ℕ) : Plain (digits n) :=
  plain_of_forall fun _ hc => Or.inl (isDigit_of_mem_digits hc)

theorem plain_formatD (n : ℤ) : Plain (formatD n) := by
  unfold formatD
  split
  · exact plain_append (s := ['-']) (by decide) (plain_digits _)
  · exact plain_digits _

theorem plain_formatF (q : ℚ) : Plain (formatF q) := by
  have hpad : Plain ((digits (roundHalfEven (|q| * 1000000) % 1000000)).leftpad 6 '0') := by
    refine plain_of_forall fun c hc => Or.inl ?_
    rcases List.mem_append.1 hc with hzero | hdigit
    · rw [List.eq_of_mem_replicate hzero]
      rfl
    · exact isDigit_of_mem_digits hdigit
  unfold formatF
  refine plain_append ?_ (plain_append (plain_digits _) (plain_append (s := ['.']) (by decide) hpad))
  split
  · decide
  · decide

/-- `%f` shows all digits of a number, however large. -/
theorem formatF_natCast (n : ℕ) : formatF n = digits n ++ '.' :: List.replicate 6 '0' := by
  have hround : roundHalfEven (|(n : ℚ)| * 1000000) = n * 1000000 := by
    have hcast : |(n : ℚ)| * 1000000 = ((n * 1000000 : ℕ) : ℚ) := by
      rw [Nat.abs_cast]
      push_cast
      rfl
    unfold roundHalfEven
    rw [hcast, Int.floor_natCast, Int.toNat_natCast]
    dsimp only
    rw [sub_self, if_pos (by norm_num)]
  unfold formatF
  simp only [hround]
  rw [if_neg (not_lt.2 (Nat.cast_nonneg n)), Nat.mul_div_cancel _ (by decide), Nat.mul_mod_left]
  rfl

/-! ## Events -/

variable {V : Type}

/-- The text of the message of an event, without the newline. -/
def LogEvent.text (formatValue : V → List Char) (time : Int64) : LogEvent V → List Char
  | .connectionOpened id =>
      formatD time.toInt ++ (" A sensor node with ".toList ++ (formatHu id ++
        " has opened a new connection".toList))
  | .connectionClosed id =>
      formatD time.toInt ++ (" The sensor node with ".toList ++ (formatHu id ++
        " has closed the connection".toList))
  | .tooCold id average =>
      formatD time.toInt ++ (" The sensor node with ".toList ++ (formatHu id ++
        (" reports it's too cold (running avg temperature = ".toList ++ (formatValue average ++
          [')']))))
  | .tooHot id average =>
      formatD time.toInt ++ (" The sensor node with ".toList ++ (formatHu id ++
        (" reports it's too hot (running avg temperature = ".toList ++ (formatValue average ++
          [')']))))
  | .invalidId id =>
      formatD time.toInt ++ (" Received sensor data with invalid sensor node ID ".toList ++
        formatHu id)

/-- The message of an event. -/
def LogEvent.message {formatValue : V → List Char} (hplain : ∀ v, Plain (formatValue v))
    (time : Int64) (event : LogEvent V) : LogMessage where
  text := event.text formatValue time
  plain := by
    have htime := plain_formatD time.toInt
    cases event with
    | connectionOpened id | connectionClosed id =>
        exact plain_append htime (plain_append (by decide)
          (plain_append (plain_digits _) (by decide)))
    | tooCold id average | tooHot id average =>
        exact plain_append htime (plain_append (by decide) (plain_append (plain_digits _)
          (plain_append (by decide) (plain_append (hplain average) (by decide)))))
    | invalidId id => exact plain_append htime (plain_append (by decide) (plain_digits _))

end SensorGateway
