import Mathlib.Data.List.Basic
import Mathlib.Data.Nat.Notation

set_option autoImplicit false

/-! # Reading lines into a bounded buffer

`takeLine eol n` reads up to `n` symbols of a stream and stops after an end-of-line symbol, as the
line readers of most libraries do. `Reads` is what calling it until the stream is empty yields. A
line comes back in one piece exactly if it is short enough; `pieces` are the ones it comes back
in. -/

variable {α : Type}

/-! ## Pieces of a line -/

/-- The pieces in which the line `text` with its end-of-line symbol comes back. -/
def pieces (eol : α) (n : ℕ) (text : List α) : List (List α) :=
  if text.length < n ∨ n = 0 then [text ++ [eol]]
  else text.take n :: pieces eol n (text.drop n)
termination_by text.length
decreasing_by
  rw [List.length_drop]
  omega

variable {eol : α} {n : ℕ} {text rest : List α}

theorem pieces_short (hn : text.length < n) : pieces eol n text = [text ++ [eol]] := by
  rw [pieces, if_pos (Or.inl hn)]

theorem pieces_long (hpos : 0 < n) (hn : n ≤ text.length) :
    pieces eol n text = text.take n :: pieces eol n (text.drop n) := by
  rw [pieces, if_neg (by omega)]

theorem pieces_ne_nil (eol : α) (n : ℕ) (text : List α) : pieces eol n text ≠ [] := by
  rw [pieces]
  split
  · exact List.cons_ne_nil _ _
  · exact List.cons_ne_nil _ _

/-- The first line of a stream is determined. -/
theorem line_unique {text' rest' : List α} (htext : eol ∉ text) (htext' : eol ∉ text')
    (h : text ++ eol :: rest = text' ++ eol :: rest') : text = text' := by
  induction text generalizing text' with
  | nil =>
      cases text' with
      | nil => rfl
      | cons c text' =>
          rw [List.nil_append, List.cons_append, List.cons.injEq] at h
          exact absurd (h.1 ▸ List.mem_cons_self) htext'
  | cons c text ih =>
      cases text' with
      | nil =>
          rw [List.nil_append, List.cons_append, List.cons.injEq] at h
          exact absurd (h.1 ▸ List.mem_cons_self) htext
      | cons c' text' =>
          rw [List.cons_append, List.cons_append, List.cons.injEq] at h
          rw [List.mem_cons, not_or] at htext htext'
          rw [h.1, ih htext.2 htext'.2 h.2]

/-! ## Reads -/

variable [DecidableEq α] (eol)

/-- Read up to `n` symbols, stopping after an `eol`; what was read and the rest of the stream. -/
def takeLine : ℕ → List α → List α × List α
  | 0, s => ([], s)
  | _ + 1, [] => ([], [])
  | n + 1, c :: s =>
      if c = eol then ([c], s) else (c :: (takeLine n s).1, (takeLine n s).2)

/-- Reading up to `n` symbols at a time until the stream is empty yields `chunks`. -/
inductive Reads (n : ℕ) : List α → List (List α) → Prop
  | done : Reads n [] []
  | read {s : List α} {chunks : List (List α)} (hs : s ≠ [])
      (h : Reads n (takeLine eol n s).2 chunks) : Reads n s ((takeLine eol n s).1 :: chunks)

variable {eol}

theorem takeLine_short (hn : text.length < n) (htext : eol ∉ text) :
    takeLine eol n (text ++ eol :: rest) = (text ++ [eol], rest) := by
  induction text generalizing n with
  | nil =>
      obtain ⟨n, rfl⟩ : ∃ k, n = k + 1 := ⟨n - 1, by simp at hn; omega⟩
      rw [List.nil_append, takeLine, if_pos rfl]
      rfl
  | cons c text ih =>
      obtain ⟨n, rfl⟩ : ∃ k, n = k + 1 := ⟨n - 1, by simp at hn; omega⟩
      rw [List.mem_cons, not_or] at htext
      rw [List.cons_append, takeLine, if_neg (Ne.symm htext.1), ih (by simpa using hn) htext.2]
      rfl

theorem takeLine_long (hn : n ≤ text.length) (htext : eol ∉ text) :
    takeLine eol n (text ++ eol :: rest) = (text.take n, text.drop n ++ eol :: rest) := by
  induction text generalizing n with
  | nil =>
      obtain rfl : n = 0 := Nat.le_zero.1 hn
      rfl
  | cons c text ih =>
      cases n with
      | zero => rfl
      | succ n =>
          rw [List.mem_cons, not_or] at htext
          rw [List.cons_append, takeLine, if_neg (Ne.symm htext.1), ih (by simpa using hn) htext.2]
          rfl

/-- Every read makes progress. -/
theorem length_takeLine_lt (hn : 0 < n) {s : List α} (hs : s ≠ []) :
    (takeLine eol n s).2.length < s.length := by
  have hle : ∀ (n : ℕ) (s : List α), (takeLine eol n s).2.length ≤ s.length := by
    intro n
    induction n with
    | zero => exact fun s => Nat.le_refl _
    | succ n ih =>
        intro s
        cases s with
        | nil => exact Nat.le_refl _
        | cons c s =>
            rw [takeLine]
            split
            · exact Nat.le_succ _
            · exact Nat.le_trans (ih s) (Nat.le_succ _)
  obtain ⟨n, rfl⟩ : ∃ k, n = k + 1 := ⟨n - 1, by omega⟩
  obtain ⟨c, s, rfl⟩ := List.exists_cons_of_ne_nil hs
  rw [takeLine]
  split
  · exact Nat.lt_succ_self _
  · exact Nat.lt_succ_of_le (hle n s)

theorem Reads.length_le (hn : 0 < n) {s : List α} {chunks : List (List α)}
    (h : Reads eol n s chunks) : chunks.length ≤ s.length := by
  induction h with
  | done => exact Nat.le_refl _
  | @read s chunks hs h ih =>
      have hlt : (takeLine eol n s).2.length < s.length := length_takeLine_lt hn hs
      rw [List.length_cons]
      omega

/-- **A line comes back in its pieces**, and the next line is read from its start. -/
theorem Reads.line (hn : 0 < n) (htext : eol ∉ text) {chunks : List (List α)}
    (h : Reads eol n rest chunks) :
    Reads eol n (text ++ eol :: rest) (pieces eol n text ++ chunks) := by
  induction text using pieces.induct n with
  | case1 text hshort =>
      have hlt : text.length < n := by omega
      have htake : takeLine eol n (text ++ eol :: rest) = (text ++ [eol], rest) :=
        takeLine_short hlt htext
      have hread : Reads eol n (text ++ eol :: rest)
          ((takeLine eol n (text ++ eol :: rest)).1 :: chunks) :=
        .read (List.append_ne_nil_of_right_ne_nil _ (List.cons_ne_nil _ _)) (by rw [htake]; exact h)
      rw [htake] at hread
      rw [pieces_short hlt]
      exact hread
  | case2 text hlong ih =>
      have hle : n ≤ text.length := by omega
      have htake : takeLine eol n (text ++ eol :: rest) = (text.take n, text.drop n ++ eol :: rest) :=
        takeLine_long hle htext
      have hrest := ih fun hmem => htext (List.mem_of_mem_drop hmem)
      have hread : Reads eol n (text ++ eol :: rest)
          ((takeLine eol n (text ++ eol :: rest)).1 :: (pieces eol n (text.drop n) ++ chunks)) :=
        .read (List.append_ne_nil_of_right_ne_nil _ (List.cons_ne_nil _ _))
          (by rw [htake]; exact hrest)
      rw [htake] at hread
      rw [pieces_long hn hle]
      exact hread
