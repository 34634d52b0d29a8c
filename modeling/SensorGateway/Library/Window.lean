import Mathlib.Algebra.BigOperators.Group.List.Basic
import Mathlib.Data.List.Rotate
import Mathlib.Data.Int.ModEq
import SensorGateway.Library.Loop

set_option autoImplicit false

/-! # The last readings of a stream in a ring of cells

A ring of `L` cells, each empty or filled, in which reading number `j` of a stream is written to
cell `j % L`. `HoldsWindow cells rs` says that the ring holds the last `L` readings of `rs` (all of
them if there are fewer). Writing the next reading keeps it (`HoldsWindow.push`), and a full ring is
a rotation of the last `L` readings (`HoldsWindow.toList_eq`), so that sums over the ring are sums
over those readings. -/

variable {α : Type} {L : ℕ} {cells : Vector (Option α) L} {rs : List α}

/-- Each of the last `L` readings `rs[j]` is in cell `j % L`. -/
def HoldsWindow (cells : Vector (Option α) L) (rs : List α) : Prop :=
  ∀ j < rs.length, rs.length ≤ j + L → cells[j % L]? = some rs[j]?

theorem holdsWindow_nil (cells : Vector (Option α) L) : HoldsWindow cells [] :=
  fun _ hj => absurd hj (Nat.not_lt_zero _)

/-- **Writing the next reading** to its cell drops the oldest one from the window. -/
theorem HoldsWindow.push (h : HoldsWindow cells rs) (hlt : rs.length % L < L) (r : α) :
    HoldsWindow (cells.set (rs.length % L) (some r)) (rs ++ [r]) := by
  intro j hj hwindow
  simp only [List.length_append, List.length_singleton] at hj hwindow
  by_cases hlast : j = rs.length
  · subst hlast
    rw [List.getElem?_concat_length, Vector.getElem?_set_self]
  · have hold : j < rs.length := by omega
    have hne : rs.length % L ≠ j % L := fun heq => by
      -- two readings of one window are less than `L` apart
      have hdvd : L ∣ rs.length - j := (Nat.modEq_iff_dvd' hold.le).1 heq.symm
      have := Nat.le_of_dvd (by omega) hdvd
      omega
    rw [Vector.getElem?_set_ne hlt hne, List.getElem?_append_left hold]
    exact h j hold (by omega)

/-- **A full ring is a rotation of the last `L` readings.** -/
theorem HoldsWindow.toList_eq (h : HoldsWindow cells rs) (hL : 0 < L) (hfull : L ≤ rs.length) :
    cells.toList = ((rs.drop (rs.length - L)).rotate (L - rs.length % L)).map some := by
  have hlen : (rs.drop (rs.length - L)).length = L := by
    rw [List.length_drop]
    omega
  refine List.ext_getElem? ?_
  intro i
  by_cases hi : i < L
  · -- the reading in cell `i` is number `j`, at place `m` of the window
    have hmod := Nat.mod_lt rs.length hL
    obtain ⟨m, hm, hmlt⟩ : ∃ m, m = (i + (L - rs.length % L)) % L ∧ m < L :=
      ⟨_, rfl, Nat.mod_lt _ hL⟩
    have hcell : (rs.length - L + m) % L = i := by
      have hdiv := Nat.div_add_mod rs.length L
      have hstep : rs.length - L + m + L * (((i + (L - rs.length % L)) / L))
          = i + L * (rs.length / L) := by
        have hm' := Nat.div_add_mod (i + (L - rs.length % L)) L
        omega
      have hcong := congrArg (· % L) hstep
      simpa [Nat.add_mul_mod_self_left, Nat.mod_eq_of_lt hi] using hcong
    have hread := h (rs.length - L + m) (by omega) (by omega)
    rw [hcell] at hread
    rw [List.getElem?_map, List.getElem?_rotate (by omega), hlen, ← hm, List.getElem?_drop]
    rw [Vector.getElem?_toList, hread, List.getElem?_eq_getElem (by omega), Option.map_some]
  · rw [List.getElem?_eq_none (by simpa using Nat.le_of_not_lt hi),
      List.getElem?_eq_none (by
        rw [List.length_map, List.length_rotate, hlen]
        exact Nat.le_of_not_lt hi)]

/-! ## Sums over the ring -/

/-- The sum of filled cells; a fault if a cell is empty. -/
def sumCells [Zero α] [Add α] (cells : List (Option α)) : Option α :=
  cells.foldlM (fun total cell => cell.map (total + ·)) 0

theorem foldlM_map_some [Add α] (xs : List α) (total : α) :
    (xs.map some).foldlM (fun total cell => cell.map (total + ·)) total
      = some (xs.foldl (· + ·) total) := by
  induction xs generalizing total with
  | nil => rfl
  | cons x xs ih => exact ih (total + x)

/-- A full ring has a sum. -/
theorem HoldsWindow.sumCells_isSome [Zero α] [Add α] (h : HoldsWindow cells rs) (hL : 0 < L)
    (hfull : L ≤ rs.length) : ∃ total, sumCells cells.toList = some total := by
  rw [h.toList_eq hL hfull]
  exact ⟨_, foldlM_map_some _ 0⟩

/-- **The sum of a full ring is the sum of the last `L` readings.** -/
theorem HoldsWindow.sumCells_eq [AddCommMonoid α] (h : HoldsWindow cells rs) (hL : 0 < L)
    (hfull : L ≤ rs.length) :
    sumCells cells.toList = some (rs.drop (rs.length - L)).sum := by
  rw [h.toList_eq hL hfull, sumCells, foldlM_map_some, ← List.sum_eq_foldl,
    (List.rotate_perm _ _).sum_eq]

/-! ## The cell of a reading by repeated subtraction -/

/-- The body of a loop that subtracts `L` from a counter while it is at least `L`, and notes the
    counter when it falls below. -/
def subtractBody (L : ℕ) : ℤ × Option ℤ → Option (LoopStep (ℤ × Option ℤ) (Option ℤ))
  | (n, position) =>
      if (L : ℤ) ≤ n then
        some (.next (n - L, if n - L < L then some (n - L) else position))
      else
        some (.exit position)

/-- **Repeated subtraction computes the remainder.** -/
theorem loop_subtractBody (hL : 0 < L) {n fuel : ℕ} (hn : L ≤ n) (hfuel : n < fuel) :
    loop (subtractBody L) fuel ((n : ℤ), none) = some (some ((n % L : ℕ) : ℤ)) := by
  have hbody : ∀ s : ℤ × Option ℤ,
      (0 ≤ s.1 ∧ s.1 % L = n % L ∧ (s.1 < L → s.2 = some s.1)) →
      (∃ s', subtractBody L s = some (.next s') ∧
        (0 ≤ s'.1 ∧ s'.1 % L = n % L ∧ (s'.1 < L → s'.2 = some s'.1)) ∧
        s'.1.toNat < s.1.toNat) ∨
      ∃ r, subtractBody L s = some (.exit r) ∧ r = some ((n % L : ℕ) : ℤ) := by
    rintro ⟨k, position⟩ ⟨hpos, hmod, hnoted⟩
    dsimp only at hpos hmod hnoted
    by_cases hk : (L : ℤ) ≤ k
    · refine Or.inl ⟨(k - L, if k - L < L then some (k - L) else position),
        by rw [subtractBody, if_pos hk], ⟨by simpa using hk, ?_, fun hlt => if_pos hlt⟩, ?_⟩
      · rw [← hmod]
        exact Int.sub_emod_right k L
      · show (k - L).toNat < k.toNat
        omega
    · refine Or.inr ⟨_, by rw [subtractBody, if_neg hk], ?_⟩
      have hlt : k < L := by omega
      rw [hnoted hlt, Int.natCast_mod, ← hmod, Int.emod_eq_of_lt hpos hlt]
  obtain ⟨r, hloop, rfl⟩ := loop_total (fun s : ℤ × Option ℤ => s.1.toNat) hbody
    (s := ((n : ℤ), none)) ⟨by simp, rfl, fun hlt => absurd hlt (by simpa using hn)⟩ (by simpa)
  exact hloop
