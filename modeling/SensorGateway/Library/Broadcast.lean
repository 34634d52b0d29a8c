import Mathlib.Data.Fintype.Basic
import Mathlib.Data.Finset.Lattice.Fold
import Mathlib.Order.Lattice.Nat
import SensorGateway.Library.StepSystem

set_option autoImplicit false

/-! # A broadcast log with independent readers

The abstract purpose of a shared buffer with several readers: one log that only grows, and for each
reader a cursor, the number of entries the reader was given. Every reader is given the log from its
start, in order, each entry once (`given i` is a prefix of the log *by construction*). An entry has
to be retained exactly as long as some reader was not given it yet, so the retained entries are the
log from the lowest cursor on (`retained`, `retained_iff`). -/

/-- A log and, for each reader, how many of its entries the reader was given. -/
structure Broadcast (ι α : Type) where
  log : List α
  cursor : ι → ℕ
  cursor_le : ∀ i, cursor i ≤ log.length

namespace Broadcast

variable {ι α : Type}

/-- The log nothing was published on. -/
def empty : Broadcast ι α := ⟨[], fun _ => 0, fun _ => Nat.le_refl 0⟩

/-- Append an entry to the log. -/
def publish (q : Broadcast ι α) (x : α) : Broadcast ι α where
  log := q.log ++ [x]
  cursor := q.cursor
  cursor_le i := by
    have := q.cursor_le i
    simp only [List.length_append, List.length_singleton]
    omega

/-- The entries reader `i` was given. -/
def given (q : Broadcast ι α) (i : ι) : List α := q.log.take (q.cursor i)

/-- The entries reader `i` was not given yet. -/
def pending (q : Broadcast ι α) (i : ι) : List α := q.log.drop (q.cursor i)

/-- Give reader `i` its next entry. -/
def advance [DecidableEq ι] (q : Broadcast ι α) (i : ι) (hi : q.cursor i < q.log.length) :
    Broadcast ι α where
  log := q.log
  cursor := Function.update q.cursor i (q.cursor i + 1)
  cursor_le j := by
    by_cases hj : j = i
    · subst hj
      rw [Function.update_self]
      exact hi
    · rw [Function.update_of_ne hj]
      exact q.cursor_le j

/-- The next entry of reader `i`, if there is one. -/
def upcoming (q : Broadcast ι α) (i : ι) : Option α := q.log[q.cursor i]?

/-- The log after reader `i` has asked for its next entry. -/
def taken [DecidableEq ι] (q : Broadcast ι α) (i : ι) : Broadcast ι α :=
  if hi : q.cursor i < q.log.length then q.advance i hi else q

/-! ## The log as a step system -/

/-- What can happen to a broadcast log: an entry is published, or a reader asks for its next one. -/
inductive Op (ι α : Type) where
  | publish (x : α)
  | take (i : ι)

/-- Every operation is always possible; a reader that was given everything is given nothing. -/
def system (ι α : Type) [DecidableEq ι] : StepSystem (Broadcast ι α) (Op ι α) where
  init := empty
  step q
    | .publish x => some (q.publish x)
    | .take i => some (if hi : q.cursor i < q.log.length then q.advance i hi else q)

/-! ## What the readers were given -/

section Readers

variable (q : Broadcast ι α) (i j : ι)

@[simp] theorem empty_log : (empty : Broadcast ι α).log = [] := rfl

@[simp] theorem empty_cursor : (empty : Broadcast ι α).cursor i = 0 := rfl

@[simp] theorem publish_log (x : α) : (q.publish x).log = q.log ++ [x] := rfl

@[simp] theorem publish_cursor (x : α) : (q.publish x).cursor i = q.cursor i := rfl

theorem given_append_pending : q.given i ++ q.pending i = q.log := List.take_append_drop _ _

@[simp] theorem length_given : (q.given i).length = q.cursor i := by
  simp [given, q.cursor_le i]

theorem given_prefix : q.given i <+: q.log := List.take_prefix _ _

theorem pending_eq_nil : q.pending i = [] ↔ q.cursor i = q.log.length := by
  have := q.cursor_le i
  simp only [pending, List.drop_eq_nil_iff]
  omega

variable {q i} in
/-- A reader that has no next entry has nothing pending. -/
theorem pending_of_not_lt (hi : ¬ q.cursor i < q.log.length) : q.pending i = [] :=
  (q.pending_eq_nil i).2 (Nat.le_antisymm (q.cursor_le i) (Nat.le_of_not_lt hi))

theorem publish_given (x : α) : (q.publish x).given i = q.given i := by
  simp [given, List.take_append_of_le_length (q.cursor_le i)]

variable {q i} in
theorem upcoming_of_lt (hi : q.cursor i < q.log.length) :
    q.upcoming i = some q.log[q.cursor i] := List.getElem?_eq_getElem hi

variable {q i} in
theorem upcoming_of_not_lt (hi : ¬ q.cursor i < q.log.length) : q.upcoming i = none :=
  List.getElem?_eq_none (Nat.le_of_not_lt hi)

variable [DecidableEq ι] {q i} (hi : q.cursor i < q.log.length)

@[simp] theorem advance_log : (q.advance i hi).log = q.log := rfl

@[simp] theorem advance_cursor_self : (q.advance i hi).cursor i = q.cursor i + 1 := by
  simp [advance]

theorem advance_cursor_ne {j : ι} (hj : j ≠ i) : (q.advance i hi).cursor j = q.cursor j := by
  simp [advance, hj]

theorem advance_given_self : (q.advance i hi).given i = q.given i ++ [q.log[q.cursor i]] := by
  simp [given, List.take_append_getElem hi]

theorem advance_given_ne {j : ι} (hj : j ≠ i) : (q.advance i hi).given j = q.given j := by
  simp [given, advance_cursor_ne hi hj]

theorem advance_pending_ne {j : ι} (hj : j ≠ i) : (q.advance i hi).pending j = q.pending j := by
  simp [pending, advance_cursor_ne hi hj]

theorem taken_of_lt : q.taken i = q.advance i hi := dif_pos hi

theorem taken_of_not_lt (hi : ¬ q.cursor i < q.log.length) : q.taken i = q := dif_neg hi

end Readers

/-! ## Operations that commute -/

section Commute

variable {q : Broadcast ι α} {i j : ι}

theorem eq_of_log_cursor {q q' : Broadcast ι α} (hlog : q.log = q'.log)
    (hcursor : q.cursor = q'.cursor) : q = q' := by
  cases q
  cases q'
  obtain rfl := hlog
  obtain rfl := hcursor
  rfl

/-- A reader that has an entry to come is given the same one after another was published. -/
theorem publish_upcoming (hi : q.cursor i < q.log.length) (x : α) :
    (q.publish x).upcoming i = q.upcoming i := List.getElem?_append_left hi

variable [DecidableEq ι]

theorem taken_log (q : Broadcast ι α) (i : ι) : (q.taken i).log = q.log := by
  unfold taken
  split <;> rfl

theorem taken_cursor_ne (q : Broadcast ι α) (hij : j ≠ i) : (q.taken i).cursor j = q.cursor j := by
  unfold taken
  split
  · next hi => exact advance_cursor_ne hi hij
  · rfl

/-- What a reader is given does not depend on the other readers. -/
theorem taken_upcoming_ne (q : Broadcast ι α) (hij : j ≠ i) : (q.taken i).upcoming j = q.upcoming j := by
  rw [upcoming, upcoming, taken_log, taken_cursor_ne q hij]

/-- **Two readers can ask in either order.** -/
theorem taken_comm (q : Broadcast ι α) (hij : i ≠ j) :
    (q.taken i).taken j = (q.taken j).taken i := by
  refine eq_of_log_cursor (by simp only [taken_log]) ?_
  funext k
  have hself : ∀ (q : Broadcast ι α) (k : ι), (q.taken k).cursor k
      = if q.cursor k < q.log.length then q.cursor k + 1 else q.cursor k := by
    intro q k
    unfold taken
    split
    · next hk => exact advance_cursor_self hk
    · rfl
  by_cases hki : k = i
  · subst hki
    rw [taken_cursor_ne _ hij, hself, hself, taken_log, taken_cursor_ne _ hij]
  · by_cases hkj : k = j
    · subst hkj
      rw [taken_cursor_ne _ hki, hself, hself, taken_log, taken_cursor_ne _ hki]
    · rw [taken_cursor_ne _ hkj, taken_cursor_ne _ hki, taken_cursor_ne _ hki,
        taken_cursor_ne _ hkj]

/-- **An entry can be published before or after a reader takes an earlier one.** -/
theorem publish_taken (hi : q.cursor i < q.log.length) (x : α) :
    (q.publish x).taken i = (q.taken i).publish x := by
  have hi' : (q.publish x).cursor i < (q.publish x).log.length := by
    rw [publish_cursor, publish_log, List.length_append]
    omega
  rw [taken_of_lt hi, taken_of_lt hi']
  rfl

end Commute

/-! ## What has to be retained -/

variable [Fintype ι] [Nonempty ι]

/-- The lowest cursor. -/
def low (q : Broadcast ι α) : ℕ := Finset.univ.inf' Finset.univ_nonempty q.cursor

/-- The entries that some reader was not given yet. -/
def retained (q : Broadcast ι α) : List α := q.log.drop q.low

variable (q : Broadcast ι α)

theorem low_le (i : ι) : q.low ≤ q.cursor i := Finset.inf'_le _ (Finset.mem_univ i)

theorem exists_cursor_eq_low : ∃ i, q.cursor i = q.low := by
  obtain ⟨i, -, hi⟩ := Finset.exists_mem_eq_inf' (Finset.univ_nonempty (α := ι)) q.cursor
  exact ⟨i, hi.symm⟩

theorem low_le_length : q.low ≤ q.log.length := by
  obtain ⟨i, hi⟩ := q.exists_cursor_eq_low
  exact hi ▸ q.cursor_le i

/-- The lowest cursor is the one every cursor is at least and some cursor is. -/
theorem low_eq {n : ℕ} (hle : ∀ i, n ≤ q.cursor i) {i : ι} (hi : q.cursor i = n) : q.low = n :=
  Nat.le_antisymm (hi ▸ q.low_le i) (Finset.le_inf' _ _ fun j _ => hle j)

/-- **An entry is retained exactly while some reader was not given it.** -/
theorem retained_iff (k : ℕ) : q.low ≤ k ↔ ∃ i, q.cursor i ≤ k := by
  constructor
  · intro h
    obtain ⟨i, hi⟩ := q.exists_cursor_eq_low
    exact ⟨i, hi ▸ h⟩
  · rintro ⟨i, hi⟩
    exact (q.low_le i).trans hi

@[simp] theorem empty_low : (empty : Broadcast ι α).low = 0 :=
  low_eq _ (fun _ => Nat.zero_le _) (i := Classical.arbitrary ι) rfl

theorem publish_low (x : α) : (q.publish x).low = q.low := rfl

theorem publish_retained (x : α) : (q.publish x).retained = q.retained ++ [x] := by
  simp [retained, publish_low, List.drop_append_of_le_length q.low_le_length]

variable [DecidableEq ι] {q} {i : ι} (hi : q.cursor i < q.log.length)

/-- A reader that is not alone at the lowest cursor moves on without releasing anything. -/
theorem advance_low_of_other {j : ι} (hj : j ≠ i) (hle : q.cursor j ≤ q.cursor i) :
    (q.advance i hi).low = q.low := by
  obtain ⟨k, hk⟩ := q.exists_cursor_eq_low
  -- some reader other than `i` stands at the lowest cursor
  have hne : ∃ k, k ≠ i ∧ q.cursor k = q.low := by
    by_cases hki : k = i
    · exact ⟨j, hj, Nat.le_antisymm (by rw [← hk, hki]; exact hle) (q.low_le j)⟩
    · exact ⟨k, hki, hk⟩
  obtain ⟨k, hki, hk⟩ := hne
  refine low_eq _ ?_ (i := k) (by rw [advance_cursor_ne hi hki, hk])
  intro l
  by_cases hl : l = i
  · subst hl
    rw [advance_cursor_self]
    exact (q.low_le l).trans (Nat.le_succ _)
  · rw [advance_cursor_ne hi hl]
    exact q.low_le l

/-- The last reader to be given an entry releases it. -/
theorem advance_low_of_last (hlast : ∀ j, j ≠ i → q.cursor i < q.cursor j) :
    (q.advance i hi).low = q.low + 1 ∧ q.low = q.cursor i := by
  have hlow : q.low = q.cursor i := by
    refine low_eq q ?_ (i := i) rfl
    intro j
    by_cases hj : j = i
    · rw [hj]
    · exact (hlast j hj).le
  refine ⟨?_, hlow⟩
  rw [hlow]
  refine low_eq _ ?_ (i := i) (by simp)
  intro j
  by_cases hj : j = i
  · subst hj; simp
  · rw [advance_cursor_ne hi hj]
    exact hlast j hj

/-- The lowest cursor never moves back. -/
theorem low_le_taken_low (q : Broadcast ι α) (i : ι) : q.low ≤ (q.taken i).low := by
  obtain ⟨j, hj⟩ := (q.taken i).exists_cursor_eq_low
  rw [← hj]
  refine (q.low_le j).trans ?_
  unfold taken
  split
  · next hi =>
      by_cases hji : j = i
      · subst hji
        rw [advance_cursor_self]
        exact Nat.le_succ _
      · rw [advance_cursor_ne hi hji]
  · exact Nat.le_refl _

end Broadcast
