import Mathlib.Data.List.Nodup
import SensorGateway.Library.Heap

set_option autoImplicit false

/-! # A heap that holds a sequence

`Blocks h as xs` says that the live blocks of the heap are `as`, each once, and that they hold `xs`
in this order. So a program that keeps pointers to blocks (in whatever structure) and reads and writes
through them works on the sequence `xs`: writing through the `k`-th pointer is `List.set`, allocating
is `List.insertIdx`, and a block that is allocated and freed again leaves no trace. -/

variable {α : Type}

/-- The live blocks are `as`, and they hold `xs`. -/
structure Blocks (h : Heap α) (as : List Addr) (xs : List α) : Prop where
  nodup : as.Nodup
  lookup_eq : as.map h.lookup = xs.map some
  owned : ∀ a ∈ h, a ∈ as

section Blocks

variable {h : Heap α} {as : List Addr} {xs : List α} {a : Addr} {x : α} {k : ℕ}

theorem blocks_empty : Blocks (∅ : Heap α) [] [] where
  nodup := .nil
  lookup_eq := rfl
  owned _ ha := absurd ha Finmap.notMem_empty

theorem Blocks.length_eq (hb : Blocks h as xs) : as.length = xs.length := by
  simpa using congrArg List.length hb.lookup_eq

/-- The block at place `k` holds the value at place `k`. -/
theorem Blocks.lookup (hb : Blocks h as xs) (ha : as[k]? = some a) : h.lookup a = xs[k]? := by
  have hk := congrArg (·[k]?) hb.lookup_eq
  simp only [List.getElem?_map, ha, Option.map_some] at hk
  obtain ⟨x, hx⟩ : ∃ x, xs[k]? = some x := by
    cases hx : xs[k]? with
    | none => rw [hx] at hk; exact absurd hk (by simp)
    | some x => exact ⟨x, rfl⟩
  rw [hx, Option.map_some] at hk
  rw [hx]
  exact Option.some.inj hk

theorem Blocks.exists_value (hb : Blocks h as xs) (ha : as[k]? = some a) :
    ∃ x, xs[k]? = some x ∧ h.lookup a = some x := by
  obtain ⟨hk, -⟩ := List.getElem?_eq_some_iff.1 ha
  have hk' : k < xs.length := hb.length_eq ▸ hk
  exact ⟨xs[k], List.getElem?_eq_getElem hk',
    (hb.lookup ha).trans (List.getElem?_eq_getElem hk')⟩

/-- Reading all blocks gives the sequence. -/
theorem Blocks.mapM_lookup (hb : Blocks h as xs) : as.mapM h.lookup = some xs := by
  have hlookup := hb.lookup_eq
  clear hb
  induction as generalizing xs with
  | nil =>
      obtain rfl : xs = [] := by simpa using hlookup.symm
      rfl
  | cons a as ih =>
      cases xs with
      | nil => exact absurd hlookup (by simp)
      | cons x xs =>
          obtain ⟨ha, has⟩ := List.cons.inj hlookup
          have ha : h.lookup a = some x := ha
          rw [List.mapM_cons, ha, ih has]
          rfl

theorem Blocks.mem_iff (hb : Blocks h as xs) : a ∈ h ↔ a ∈ as := by
  refine ⟨hb.owned a, fun ha => ?_⟩
  obtain ⟨k, hk, rfl⟩ := List.mem_iff_getElem.1 ha
  obtain ⟨x, -, hx⟩ := hb.exists_value (List.getElem?_eq_getElem hk)
  exact Finmap.mem_of_lookup_eq_some hx

/-- **Writing through a pointer** sets the value at its place. -/
theorem Blocks.set (hb : Blocks h as xs) (ha : as[k]? = some a) (x : α) :
    Blocks (h.insert a x) as (xs.set k x) where
  nodup := hb.nodup
  lookup_eq := by
    obtain ⟨hk, rfl⟩ := List.getElem?_eq_some_iff.1 ha
    refine List.ext_getElem (by simp [hb.length_eq]) fun j hj hj' => ?_
    have hj : j < as.length := by simpa using hj
    have hget := hb.lookup (List.getElem?_eq_getElem hj)
    have hj' : j < xs.length := hb.length_eq ▸ hj
    simp only [List.getElem_map, List.getElem_set]
    by_cases hjk : k = j
    · subst hjk
      rw [if_pos rfl, Finmap.lookup_insert]
    · rw [if_neg hjk, Finmap.lookup_insert_of_ne _ fun he => hjk ?_, hget,
        List.getElem?_eq_getElem hj']
      exact (hb.nodup.getElem_inj_iff.1 he).symm
  owned a' ha' := by
    rcases Finmap.mem_insert.1 ha' with rfl | hmem
    · exact List.mem_of_getElem? ha
    · exact hb.owned a' hmem

/-- **A new block** at place `k`. -/
theorem Blocks.insertIdx (hb : Blocks h as xs) (ha : a ∉ h) (x : α) (hk : k ≤ as.length) :
    Blocks (h.insert a x) (as.insertIdx k a) (xs.insertIdx k x) where
  nodup := by
    rw [(List.perm_insertIdx a as hk).nodup_iff, List.nodup_cons]
    exact ⟨fun hmem => ha (hb.mem_iff.2 hmem), hb.nodup⟩
  lookup_eq := by
    have hframe : as.map (h.insert a x).lookup = as.map h.lookup :=
      List.map_congr_left fun a' ha' =>
        Finmap.lookup_insert_of_ne _ fun he => ha (hb.mem_iff.2 (he ▸ ha'))
    rw [List.map_insertIdx, hframe, hb.lookup_eq, Finmap.lookup_insert, List.map_insertIdx]
  owned a' ha' := by
    rw [List.mem_insertIdx hk]
    exact (Finmap.mem_insert.1 ha').imp id (hb.owned a')

/-- A new block at the end. -/
theorem Blocks.concat (hb : Blocks h as xs) (ha : a ∉ h) (x : α) :
    Blocks (h.insert a x) (as ++ [a]) (xs ++ [x]) := by
  have hinsert := hb.insertIdx ha x (Nat.le_refl _)
  rwa [List.insertIdx_length_self, hb.length_eq, List.insertIdx_length_self] at hinsert

/-- **Freeing the block** at place `k`. -/
theorem Blocks.eraseIdx (hb : Blocks h as xs) (ha : as[k]? = some a) :
    Blocks (h.erase a) (as.eraseIdx k) (xs.eraseIdx k) := by
  obtain ⟨hk, rfl⟩ := List.getElem?_eq_some_iff.1 ha
  have hperm := List.getElem_cons_eraseIdx_perm hk
  obtain ⟨hnot, hnodup⟩ := List.nodup_cons.1 (hperm.nodup_iff.2 hb.nodup)
  refine ⟨hnodup, ?_, fun a' ha' => ?_⟩
  · have hframe : (as.eraseIdx k).map (h.erase as[k]).lookup = (as.eraseIdx k).map h.lookup :=
      List.map_congr_left fun a' ha' => Finmap.lookup_erase_ne fun he => hnot (he ▸ ha')
    rw [hframe, ← List.eraseIdx_map, hb.lookup_eq, List.eraseIdx_map]
  · obtain ⟨hne, hmem⟩ := Finmap.mem_erase.1 ha'
    exact (List.mem_cons.1 (hperm.mem_iff.2 (hb.owned a' hmem))).resolve_left hne

/-- Freeing a block that was just written. -/
theorem free_written (h : Heap α) (a : Addr) (x : α) :
    Heap.free (h.insert a x) (some a) = some (h.erase a) := by
  rw [Heap.free_some (Finmap.lookup_insert h)]
  refine congrArg some (Finmap.ext_lookup fun a' => ?_)
  by_cases he : a' = a
  · rw [he, Finmap.lookup_erase, Finmap.lookup_erase]
  · rw [Finmap.lookup_erase_ne he, Finmap.lookup_erase_ne he, Finmap.lookup_insert_of_ne h he]

/-- **A block that is allocated and freed again leaves no trace.** -/
theorem free_insert (ha : a ∉ h) (x : α) : Heap.free (h.insert a x) (some a) = some h := by
  rw [free_written]
  refine congrArg some (Finmap.ext_lookup fun a' => ?_)
  by_cases he : a' = a
  · rw [he, Finmap.lookup_erase, Finmap.lookup_eq_none.2 ha]
  · rw [Finmap.lookup_erase_ne he]

/-- Freeing all blocks, in order, leaves nothing. -/
theorem Blocks.freeAll (hb : Blocks h as xs) :
    as.foldlM (fun h a => Heap.free h (some a)) h = some ∅ := by
  induction as generalizing h xs with
  | nil =>
      refine congrArg some (Finmap.ext_lookup fun a => ?_)
      rw [Finmap.lookup_empty]
      exact Finmap.lookup_eq_none.2 fun ha => absurd (hb.owned a ha) List.not_mem_nil
  | cons a as ih =>
      obtain ⟨x, -, hx⟩ := hb.exists_value (k := 0) (a := a) rfl
      obtain ⟨hnot, hnodup⟩ := List.nodup_cons.1 hb.nodup
      have hrest : Blocks (h.erase a) as xs.tail := by
        refine ⟨hnodup, ?_, ?_⟩
        · have hframe : as.map (h.erase a).lookup = as.map h.lookup :=
            List.map_congr_left fun a' ha' =>
              Finmap.lookup_erase_ne fun he => hnot (he ▸ ha')
          rw [hframe, List.map_tail, ← hb.lookup_eq, List.map_cons, List.tail_cons]
        · intro a' ha'
          obtain ⟨hne, hmem⟩ := Finmap.mem_erase.1 ha'
          exact (List.mem_cons.1 (hb.owned a' hmem)).resolve_left hne
      rw [List.foldlM_cons, Heap.free_some hx]
      exact ih hrest

/-- The blocks that are live are as many as the values. -/
theorem Blocks.card_keys (hb : Blocks h as xs) : h.keys.card = xs.length := by
  rw [Heap.card_keys hb.nodup fun a => hb.mem_iff, hb.length_eq]

end Blocks
