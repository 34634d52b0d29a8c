import Mathlib.Data.List.Induction
import Mathlib.Data.List.Perm.Basic
import Mathlib.Data.Nat.Notation
import Mathlib.Order.Defs.Unbundled

set_option autoImplicit false

/-! # Bubble sort with a shrinking boundary

Passes of neighbour exchanges over a list, each of which ends where the last one did less one, until a
pass exchanges nothing. `swap c x y` says whether comparison number `c`, of `x` with its successor
`y`, exchanges the two: it may be any function, in particular one that is no order and does not answer
the same each time. Whatever it says, the result is a permutation (`bubbleSort_perm`). If it says that
`x` does not precede `y` in a total preorder, the result is sorted (`bubbleSort_sorted`): what is
behind the boundary is sorted and above the rest (`Settled`). -/

variable {α : Type} (swap : ℕ → α → α → Bool)

/-- A pass from the element `x`, which is carried to the right until a pair is not exchanged; also
    whether any pair was. -/
def bubblePass : ℕ → α → List α → List α × Bool
  | _, x, [] => ([x], false)
  | c, x, y :: rest =>
      if swap c x y = true then
        (y :: (bubblePass (c + 1) x rest).1, true)
      else
        (x :: (bubblePass (c + 1) y rest).1, (bubblePass (c + 1) y rest).2)

/-- Passes of `m`, `m - 1`, ... comparisons until one exchanges nothing; also the number of the next
    comparison. -/
def bubbleSort : ℕ → ℕ → List α → List α × ℕ
  | 0, c, xs => (xs, c)
  | _ + 1, c, [] => ([], c)
  | m + 1, c, x :: xs =>
      let pass := bubblePass swap c x (xs.take (m + 1))
      let ys := pass.1 ++ xs.drop (m + 1)
      if pass.2 = true then bubbleSort m (c + (m + 1)) ys else (ys, c + (m + 1))

/-! ## Nothing is lost -/

theorem bubblePass_perm (c : ℕ) (x : α) (xs : List α) :
    (bubblePass swap c x xs).1.Perm (x :: xs) := by
  induction xs generalizing c x with
  | nil => exact List.Perm.refl _
  | cons y rest ih =>
      rw [bubblePass]
      split
      · exact ((ih (c + 1) x).cons y).trans (List.Perm.swap x y rest)
      · exact (ih (c + 1) y).cons x

theorem bubbleSort_perm (m c : ℕ) (xs : List α) : (bubbleSort swap m c xs).1.Perm xs := by
  induction m generalizing c xs with
  | zero => rw [bubbleSort]
  | succ m ih =>
      cases xs with
      | nil => rw [bubbleSort]
      | cons x xs =>
          have hpass : ((bubblePass swap c x (xs.take (m + 1))).1 ++ xs.drop (m + 1)).Perm
              (x :: xs) := by
            have happend := (bubblePass_perm swap c x (xs.take (m + 1))).append_right
              (xs.drop (m + 1))
            rwa [List.cons_append, List.take_append_drop] at happend
          rw [bubbleSort]
          split
          · exact (ih _ _).trans hpass
          · exact hpass

/-! ## The order -/

section Order

variable {swap} {le : α → α → Prop}

/-- A pass over a sorted list exchanges nothing. -/
theorem bubblePass_of_sorted (hswap : ∀ c x y, swap c x y = true ↔ ¬ le x y) {x : α} {xs : List α}
    (hsorted : (x :: xs).Pairwise le) (c : ℕ) : bubblePass swap c x xs = (x :: xs, false) := by
  induction xs generalizing c x with
  | nil => rfl
  | cons y rest ih =>
      obtain ⟨hx, hrest⟩ := List.pairwise_cons.1 hsorted
      have hle : ¬ swap c x y = true := fun h => (hswap c x y).1 h (hx y (List.mem_cons_self ..))
      rw [bubblePass, if_neg hle, ih hrest]

theorem bubbleSort_of_sorted (hswap : ∀ c x y, swap c x y = true ↔ ¬ le x y) {xs : List α}
    (hsorted : xs.Pairwise le) (m c : ℕ) : (bubbleSort swap m c xs).1 = xs := by
  cases m with
  | zero => rw [bubbleSort]
  | succ m =>
      cases xs with
      | nil => rw [bubbleSort]
      | cons x xs =>
          have htake : (x :: xs.take (m + 1)).Pairwise le :=
            hsorted.sublist ((List.take_sublist _ _).cons_cons x)
          rw [bubbleSort, bubblePass_of_sorted hswap htake]
          exact congrArg (x :: ·) (List.take_append_drop _ _)

/-- What is behind the first `m + 1` elements is sorted and above them. -/
def Settled (le : α → α → Prop) (m : ℕ) (xs : List α) : Prop :=
  (xs.drop (m + 1)).Pairwise le ∧ ∀ x ∈ xs.take (m + 1), ∀ y ∈ xs.drop (m + 1), le x y

/-- The boundary moves on if a greatest element is in front of it. -/
theorem settled_append {m : ℕ} {front back : List α} {last : α} (hlen : front.length = m + 1)
    (hback : back.Pairwise le) (hlast : ∀ z ∈ front, le z last)
    (hle : ∀ z ∈ front ++ [last], ∀ y ∈ back, le z y) : Settled le m (front ++ last :: back) := by
  have hdrop : (front ++ last :: back).drop (m + 1) = last :: back := List.drop_left' hlen
  have htake : (front ++ last :: back).take (m + 1) = front := List.take_left' hlen
  rw [Settled, hdrop, htake]
  refine ⟨List.pairwise_cons.2 ⟨hle last (by simp), hback⟩, ?_⟩
  intro z hz y hy
  rcases List.mem_cons.1 hy with rfl | hy
  · exact hlast z hz
  · exact hle z (List.mem_append_left _ hz) y hy

variable (hswap : ∀ c x y, swap c x y = true ↔ ¬ le x y)
include hswap

/-- A pass that exchanges nothing has seen a sorted list. -/
theorem bubblePass_settled [IsTrans α le] {c : ℕ} {x : α} {xs : List α}
    (hpass : (bubblePass swap c x xs).2 = false) :
    (bubblePass swap c x xs).1 = x :: xs ∧ (x :: xs).Pairwise le := by
  induction xs generalizing c x with
  | nil => exact ⟨rfl, List.pairwise_singleton _ _⟩
  | cons y rest ih =>
      rw [bubblePass] at hpass ⊢
      split at hpass
      · exact absurd hpass (by simp)
      · next hle =>
          have hxy : le x y := by
            by_contra hnot
            exact hle ((hswap c x y).2 hnot)
          obtain ⟨heq, hsorted⟩ := ih hpass
          rw [if_neg hle, heq]
          refine ⟨rfl, List.pairwise_cons.2 ⟨?_, hsorted⟩⟩
          intro z hz
          rcases List.mem_cons.1 hz with rfl | hz
          · exact hxy
          · exact IsTrans.trans _ _ _ hxy ((List.pairwise_cons.1 hsorted).1 z hz)

/-- **A pass carries a greatest element to the end.** -/
theorem bubblePass_last [IsTrans α le] [Std.Total le] (c : ℕ) (x : α) (xs : List α) :
    ∃ front last, (bubblePass swap c x xs).1 = front ++ [last] ∧ ∀ z ∈ x :: xs, le z last := by
  induction xs generalizing c x with
  | nil =>
      refine ⟨[], x, rfl, ?_⟩
      intro z hz
      obtain rfl := List.mem_singleton.1 hz
      exact (Std.Total.total (r := le) z z).elim id id
  | cons y rest ih =>
      rw [bubblePass]
      split
      · next hnot =>
          have hyx : le y x := (Std.Total.total (r := le) x y).resolve_left ((hswap c x y).1 hnot)
          obtain ⟨front, last, heq, hle⟩ := ih (c + 1) x
          refine ⟨y :: front, last, by rw [heq, List.cons_append], ?_⟩
          intro z hz
          rcases List.mem_cons.1 hz with rfl | hz
          · exact hle z (List.mem_cons_self ..)
          · rcases List.mem_cons.1 hz with rfl | hz
            · exact IsTrans.trans _ _ _ hyx (hle x (List.mem_cons_self ..))
            · exact hle z (List.mem_cons_of_mem _ hz)
      · next hle' =>
          have hxy : le x y := by
            by_contra hnot
            exact hle' ((hswap c x y).2 hnot)
          obtain ⟨front, last, heq, hle⟩ := ih (c + 1) y
          refine ⟨x :: front, last, by rw [heq, List.cons_append], ?_⟩
          intro z hz
          rcases List.mem_cons.1 hz with rfl | hz
          · exact IsTrans.trans _ _ _ hxy (hle y (List.mem_cons_self ..))
          · exact hle z hz

/-- **Bubble sort sorts** a list whose elements behind the boundary are settled. -/
theorem bubbleSort_sorted [IsTrans α le] [Std.Total le] {m : ℕ} {xs : List α} (hm : m < xs.length)
    (h : Settled le m xs) (c : ℕ) : (bubbleSort swap m c xs).1.Pairwise le := by
  induction m generalizing c xs with
  | zero =>
      obtain ⟨hback, hle⟩ := h
      rw [bubbleSort]
      cases xs with
      | nil => exact List.Pairwise.nil
      | cons x xs => exact List.pairwise_cons.2 ⟨fun y hy => hle x (by simp) y hy, hback⟩
  | succ m ih =>
      cases xs with
      | nil => exact List.Pairwise.nil
      | cons x xs =>
          obtain ⟨hback, hle⟩ := h
          rw [List.drop_succ_cons] at hback hle
          rw [List.take_succ_cons] at hle
          have hperm := bubblePass_perm swap c x (xs.take (m + 1))
          have hle' : ∀ z ∈ (bubblePass swap c x (xs.take (m + 1))).1, ∀ y ∈ xs.drop (m + 1),
              le z y := fun z hz => hle z (hperm.mem_iff.1 hz)
          rw [bubbleSort]
          split
          · obtain ⟨front, last, heq, hlast⟩ := bubblePass_last hswap c x (xs.take (m + 1))
            have hlen := hperm.length_eq
            rw [heq] at hle' hperm hlen ⊢
            simp only [List.length_append, List.length_cons, List.length_nil, List.length_take]
              at hlen hm
            rw [List.append_assoc, List.singleton_append]
            refine ih ?_ (settled_append (by omega) hback (fun z hz => ?_) hle') _
            · simp only [List.length_append, List.length_cons]
              omega
            · exact hlast z (hperm.mem_iff.1 (List.mem_append_left _ hz))
          · next hdone =>
              obtain ⟨heq, hsorted⟩ := bubblePass_settled hswap (eq_false_of_ne_true hdone)
              rw [heq]
              exact List.pairwise_append.2 ⟨hsorted, hback, hle⟩

end Order

/-! ## Sorting and inserting -/

/-- Sort, and insert `e` in front of the first element that satisfies `P`. -/
def sortInsert (swap : ℕ → α → α → Bool) (P : α → Bool) (e : α) (xs : List α) : List α :=
  let sorted := (bubbleSort swap (xs.length - 1) 0 xs).1
  sorted.insertIdx (sorted.findIdx P) e

section Insert

variable {swap} {le : α → α → Prop} {front back xs : List α} {e : α} {P : α → Bool}

/-- The first element that does not precede `e` splits a sorted list into those that precede it and
    those that do not. -/
theorem exists_insert_split [IsTrans α le] (hsorted : xs.Pairwise le)
    (hP : ∀ z, P z = true ↔ ¬ le z e) :
    ∃ front back, xs = front ++ back ∧ xs.insertIdx (xs.findIdx P) e = front ++ e :: back ∧
      (∀ z ∈ front, le z e) ∧ ∀ z ∈ back, ¬ le z e := by
  induction xs with
  | nil => exact ⟨[], [], rfl, rfl, by simp, by simp⟩
  | cons x xs ih =>
      obtain ⟨hx, hxs⟩ := List.pairwise_cons.1 hsorted
      rw [List.findIdx_cons]
      cases hPx : P x with
      | true =>
          have hnot := (hP x).1 hPx
          refine ⟨[], x :: xs, rfl, List.insertIdx_zero, by simp, ?_⟩
          intro z hz hle
          rcases List.mem_cons.1 hz with rfl | hz
          · exact hnot hle
          · exact hnot (IsTrans.trans _ _ _ (hx z hz) hle)
      | false =>
          obtain ⟨front, back, hsplit, hinsert, hfront, hback⟩ := ih hxs
          refine ⟨x :: front, back, congrArg (x :: ·) hsplit, ?_, ?_, hback⟩
          · rw [cond_false, List.insertIdx_succ_cons, hinsert, List.cons_append]
          · intro z hz
            rcases List.mem_cons.1 hz with rfl | hz
            · by_contra hnot
              rw [(hP z).2 hnot] at hPx
              exact absurd hPx (by simp)
            · exact hfront z hz

/-- An element between those that precede it and those that do not keeps a list sorted. -/
theorem pairwise_insert [Std.Total le] (hsorted : (front ++ back).Pairwise le)
    (hfront : ∀ z ∈ front, le z e) (hback : ∀ z ∈ back, ¬ le z e) :
    (front ++ e :: back).Pairwise le := by
  obtain ⟨hfronts, hbacks, hle⟩ := List.pairwise_append.1 hsorted
  refine List.pairwise_append.2 ⟨hfronts, List.pairwise_cons.2 ⟨?_, hbacks⟩, ?_⟩
  · intro z hz
    exact (Std.Total.total (r := le) z e).resolve_left (hback z hz)
  · intro x hx y hy
    rcases List.mem_cons.1 hy with rfl | hy
    · exact hfront x hx
    · exact hle x hx y hy

/-- **The result is sorted** and has the old elements and the new one. If the list was sorted, its
    elements stay as they are, and the new one is behind all that precede it. -/
theorem sortInsert_sorted [IsTrans α le] [Std.Total le]
    (hswap : ∀ c x y, swap c x y = true ↔ ¬ le x y) (hP : ∀ z, P z = true ↔ ¬ le z e)
    (xs : List α) :
    (sortInsert swap P e xs).Pairwise le ∧ (sortInsert swap P e xs).Perm (e :: xs) ∧
      (xs.Pairwise le → ∃ front back, xs = front ++ back ∧
        sortInsert swap P e xs = front ++ e :: back ∧ (∀ z ∈ front, le z e) ∧
          ∀ z ∈ back, ¬ le z e) := by
  have hsorted : (bubbleSort swap (xs.length - 1) 0 xs).1.Pairwise le := by
    cases xs with
    | nil => exact List.Pairwise.nil
    | cons x xs =>
        -- nothing is behind the first boundary
        have hsettled : Settled le ((x :: xs).length - 1) (x :: xs) := by
          rw [Settled, List.drop_eq_nil_of_le (by simp)]
          exact ⟨List.Pairwise.nil, by simp⟩
        exact bubbleSort_sorted hswap (by simp) hsettled 0
  have hperm := bubbleSort_perm swap (xs.length - 1) 0 xs
  obtain ⟨front, back, hsplit, hinsert, hfront, hback⟩ := exists_insert_split hsorted hP
  have hresult : sortInsert swap P e xs = front ++ e :: back := hinsert
  rw [hresult]
  refine ⟨pairwise_insert (hsplit ▸ hsorted) hfront hback,
    List.perm_middle.trans ((hsplit ▸ hperm).cons e), ?_⟩
  intro hxs
  rw [bubbleSort_of_sorted hswap hxs] at hsplit
  exact ⟨front, back, hsplit, rfl, hfront, hback⟩

end Insert
