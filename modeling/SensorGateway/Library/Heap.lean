import Mathlib.Data.Finmap
import SensorGateway.Library.Loop

set_option autoImplicit false

/-! # A heap of cells and NULL-terminated chains

Addresses are natural numbers, `NULL` is `none`, and a heap is a finite map from the live addresses
to their cells. Loading or updating through `NULL` or through an address that is not live (never
allocated, or freed) is a fault (`none`).

`Seg next h p cells q` says that following `next` from `p` visits exactly the cells `cells` (each
with its address) and arrives at `q`. A segment that ends in `NULL` never revisits a cell
(`Seg.nodup`), so the number of live cells bounds the length of every walk along it. -/

/-- An address of a cell. -/
abbrev Addr := ℕ

/-- A pointer: `none` is `NULL`. -/
abbrev Ptr := Option Addr

/-- The live cells by address. -/
abbrev Heap (α : Type) := Finmap fun _ : Addr => α

namespace Heap

variable {α : Type}

/-- Read the cell `p` points to. -/
def load (h : Heap α) (p : Ptr) : Option α := p.bind fun a => h.lookup a

/-- Replace the cell `p` points to by its image under `f`. -/
def modify (h : Heap α) (p : Ptr) (f : α → α) : Option (Heap α) :=
  p.bind fun a => (h.lookup a).map fun c => h.insert a (f c)

/-- Free the cell `p` points to: freeing `NULL` does nothing, freeing a dead address is a fault. -/
def free (h : Heap α) : Ptr → Option (Heap α)
  | none => some h
  | some a => (h.lookup a).map fun _ => h.erase a

/-- A budget for any walk along a chain that does not revisit a cell. -/
def walkFuel (h : Heap α) : ℕ := h.keys.card + 1

@[simp] theorem load_some (h : Heap α) (a : Addr) : h.load (some a) = h.lookup a := rfl

@[simp] theorem load_none (h : Heap α) : h.load none = none := rfl

theorem modify_some {h : Heap α} {a : Addr} {c : α} (hc : h.lookup a = some c) (f : α → α) :
    h.modify (some a) f = some (h.insert a (f c)) := by
  simp [modify, hc]

theorem free_some {h : Heap α} {a : Addr} {c : α} (hc : h.lookup a = some c) :
    h.free (some a) = some (h.erase a) := by
  simp [free, hc]

theorem card_keys {h : Heap α} {as : List Addr} (hnodup : as.Nodup) (hmem : ∀ a, a ∈ h ↔ a ∈ as) :
    h.keys.card = as.length := by
  have hkeys : h.keys = as.toFinset := by
    ext a
    rw [Finmap.mem_keys, List.mem_toFinset, hmem]
  rw [hkeys, List.toFinset_card_of_nodup hnodup]

end Heap

/-! ## Singly linked segments -/

section Seg

variable {α : Type} {next : α → Ptr} {h h' : Heap α}

/-- Following `next` from `p` visits exactly `cells` and arrives at `q`. -/
def Seg (next : α → Ptr) (h : Heap α) : Ptr → List (Addr × α) → Ptr → Prop
  | p, [], q => p = q
  | p, (a, c) :: rest, q => p = some a ∧ h.lookup a = some c ∧ Seg next h (next c) rest q

@[simp] theorem seg_nil (p q : Ptr) : Seg next h p [] q ↔ p = q := Iff.rfl

@[simp] theorem seg_cons (p q : Ptr) (a : Addr) (c : α) (rest : List (Addr × α)) :
    Seg next h p ((a, c) :: rest) q ↔
      p = some a ∧ h.lookup a = some c ∧ Seg next h (next c) rest q := Iff.rfl

theorem seg_append {p q : Ptr} {xs ys : List (Addr × α)} :
    Seg next h p (xs ++ ys) q ↔ ∃ r, Seg next h p xs r ∧ Seg next h r ys q := by
  induction xs generalizing p with
  | nil => simp
  | cons x xs ih =>
      obtain ⟨a, c⟩ := x
      simp only [List.cons_append, seg_cons, ih]
      constructor
      · rintro ⟨hp, hc, r, hxs, hys⟩
        exact ⟨r, ⟨hp, hc, hxs⟩, hys⟩
      · rintro ⟨r, ⟨hp, hc, hxs⟩, hys⟩
        exact ⟨hp, hc, r, hxs, hys⟩

theorem Seg.lookup {p q : Ptr} {cells : List (Addr × α)} (hs : Seg next h p cells q)
    {a : Addr} {c : α} (hmem : (a, c) ∈ cells) : h.lookup a = some c := by
  induction cells generalizing p with
  | nil => simp at hmem
  | cons x rest ih =>
      obtain ⟨a', c'⟩ := x
      rcases List.mem_cons.1 hmem with heq | hrest
      · obtain ⟨rfl, rfl⟩ := Prod.mk.inj heq
        exact hs.2.1
      · exact ih hs.2.2 hrest

/-- Every address on a segment is live. -/
theorem Seg.live {p q : Ptr} {cells : List (Addr × α)} (hs : Seg next h p cells q)
    {a : Addr} (hmem : a ∈ cells.map Prod.fst) : a ∈ h := by
  obtain ⟨⟨a', c⟩, hcell, rfl⟩ := List.mem_map.1 hmem
  exact Finmap.mem_of_lookup_eq_some (hs.lookup hcell)

/-- **Frame rule.** A segment only depends on the heap at its own addresses. -/
theorem Seg.frame {h' : Heap α} {p q : Ptr} {cells : List (Addr × α)} (hs : Seg next h p cells q)
    (hframe : ∀ a ∈ cells.map Prod.fst, h'.lookup a = h.lookup a) : Seg next h' p cells q := by
  induction cells generalizing p with
  | nil => exact hs
  | cons x rest ih =>
      obtain ⟨a, c⟩ := x
      obtain ⟨hp, hc, hrest⟩ := hs
      refine ⟨hp, ?_, ih hrest fun a' ha' => hframe a' (List.mem_cons_of_mem _ ha')⟩
      rw [hframe a (List.mem_cons_self ..), hc]

/-- Two NULL-terminated segments from the same pointer are the same. -/
theorem Seg.unique {p : Ptr} {xs ys : List (Addr × α)} (hx : Seg next h p xs none)
    (hy : Seg next h p ys none) : xs = ys := by
  induction xs generalizing p ys with
  | nil =>
      cases ys with
      | nil => rfl
      | cons y ys => exact absurd (hx.symm.trans hy.1) (by simp)
  | cons x xs ih =>
      obtain ⟨a, c⟩ := x
      cases ys with
      | nil => exact absurd (hx.1.symm.trans hy) (by simp)
      | cons y ys =>
          obtain ⟨a', c'⟩ := y
          obtain rfl : a = a' := Option.some.inj (hx.1.symm.trans hy.1)
          obtain rfl : c = c' := Option.some.inj (hx.2.1.symm.trans hy.2.1)
          rw [ih hx.2.2 hy.2.2]

/-- **A NULL-terminated segment never revisits an address**: the rest of the walk is determined by
    where it is, so a second visit would have to be followed by a walk of a different length. -/
theorem Seg.nodup {p : Ptr} {cells : List (Addr × α)} (hs : Seg next h p cells none) :
    (cells.map Prod.fst).Nodup := by
  induction cells generalizing p with
  | nil => simp
  | cons x rest ih =>
      obtain ⟨a, c⟩ := x
      refine List.nodup_cons.2 ⟨?_, ih hs.2.2⟩
      intro hmem
      obtain ⟨⟨a', c'⟩, hcell, haa⟩ := List.mem_map.1 hmem
      dsimp only at haa
      subst haa
      obtain ⟨xs, ys, rfl⟩ := List.append_of_mem hcell
      obtain ⟨r, -, hr⟩ := seg_append.1 hs.2.2
      -- two walks from the address visited twice, one a proper part of the other
      have hagain : Seg next h (some a') ((a', c) :: (xs ++ (a', c') :: ys)) none :=
        ⟨rfl, hs.2.1, hs.2.2⟩
      have htail : Seg next h (some a') ((a', c') :: ys) none := ⟨rfl, hr.2.1, hr.2.2⟩
      have hlen := congrArg List.length (hagain.unique htail)
      simp at hlen
      omega

/-- A NULL-terminated segment starts at its first cell. -/
theorem Seg.head_eq {p : Ptr} {cells : List (Addr × α)} (hs : Seg next h p cells none) :
    p = cells.head?.map Prod.fst := by
  cases cells with
  | nil => exact hs
  | cons x rest => exact hs.1

/-- The successor of a cell is the address of the one behind it. -/
theorem Seg.next_getElem {p : Ptr} {cells : List (Addr × α)} (hs : Seg next h p cells none)
    {k : ℕ} (hk : k < cells.length) : next cells[k].2 = cells[k + 1]?.map Prod.fst := by
  induction cells generalizing p k with
  | nil => exact absurd hk (Nat.not_lt_zero k)
  | cons x rest ih =>
      obtain ⟨a, c⟩ := x
      cases k with
      | zero =>
          rw [List.getElem_cons_zero, List.getElem?_cons_succ, ← List.head?_eq_getElem?]
          exact hs.2.2.head_eq
      | succ k => exact ih hs.2.2 (Nat.lt_of_succ_lt_succ hk)

/-- Two heaps that hold the same segment and nothing else are equal. -/
theorem Seg.heap_unique {p p' : Ptr} {cells : List (Addr × α)} (hs : Seg next h p cells none)
    (hs' : Seg next h' p' cells none) (howned : ∀ a ∈ h, a ∈ cells.map Prod.fst)
    (howned' : ∀ a ∈ h', a ∈ cells.map Prod.fst) : h = h' := by
  refine Finmap.ext_lookup ?_
  intro a
  by_cases ha : a ∈ cells.map Prod.fst
  · obtain ⟨⟨a', c⟩, hcell, rfl⟩ := List.mem_map.1 ha
    rw [hs.lookup hcell, hs'.lookup hcell]
  · rw [Finmap.lookup_eq_none.2 (mt (howned a) ha), Finmap.lookup_eq_none.2 (mt (howned' a) ha)]

/-- The cell in the middle of a NULL-terminated segment occurs in neither half. -/
theorem Seg.middle_not_mem {p : Ptr} {xs ys : List (Addr × α)} {a : Addr} {c : α}
    (hs : Seg next h p (xs ++ (a, c) :: ys) none) :
    a ∉ xs.map Prod.fst ∧ a ∉ ys.map Prod.fst := by
  have hnodup := hs.nodup
  rw [List.map_append, List.map_cons, List.nodup_middle, List.nodup_cons, List.mem_append,
    not_or] at hnodup
  exact hnodup.1

/-- Overwriting a cell without changing its successor keeps the segment. -/
theorem Seg.update {p : Ptr} {xs ys : List (Addr × α)} {a : Addr} {c c' : α}
    (hs : Seg next h p (xs ++ (a, c) :: ys) none) (hnext : next c' = next c) :
    Seg next (h.insert a c') p (xs ++ (a, c') :: ys) none := by
  obtain ⟨hxs, hys⟩ := hs.middle_not_mem
  obtain ⟨r, hseg, rfl, -, hrest⟩ := seg_append.1 hs
  have hframe : ∀ a' : Addr, a' ≠ a → (h.insert a c').lookup a' = h.lookup a' :=
    fun a' ha' => Finmap.lookup_insert_of_ne h ha'
  -- both halves stay off the address that is written
  refine seg_append.2 ⟨some a, hseg.frame fun a' ha' => hframe a' ?_, rfl,
    Finmap.lookup_insert h, ?_⟩
  · exact fun he => hxs (he ▸ ha')
  · rw [hnext]
    exact hrest.frame fun a' ha' => hframe a' fun he => hys (he ▸ ha')

/-- Linking a fresh last cell behind the old last one. -/
theorem Seg.snoc {p : Ptr} {xs : List (Addr × α)} {l a : Addr} {c c' n : α}
    (hs : Seg next h p (xs ++ [(l, c)]) none) (ha : a ∉ h) (hc' : next c' = some a)
    (hn : next n = none) :
    Seg next ((h.insert a n).insert l c') p (xs ++ [(l, c'), (a, n)]) none := by
  obtain ⟨hxs, -⟩ := hs.middle_not_mem
  have hla : a ≠ l := fun he => ha (he ▸ hs.live (by simp))
  have hax : a ∉ xs.map Prod.fst := fun hmem => ha (hs.live (by
    rw [List.map_append]; exact List.mem_append_left _ hmem))
  obtain ⟨r, hseg, rfl, -, -⟩ := seg_append.1 hs
  refine seg_append.2 ⟨some l, hseg.frame ?_, rfl, Finmap.lookup_insert _, hc', ?_,
    hn⟩
  · intro a' ha'
    have hl : a' ≠ l := fun he => hxs (he ▸ ha')
    have ha : a' ≠ a := fun he => hax (he ▸ ha')
    rw [Finmap.lookup_insert_of_ne _ hl, Finmap.lookup_insert_of_ne _ ha]
  · rw [Finmap.lookup_insert_of_ne _ hla, Finmap.lookup_insert]

/-- Freeing the first cell leaves the rest. -/
theorem Seg.pop {p : Ptr} {ys : List (Addr × α)} {a : Addr} {c : α}
    (hs : Seg next h p ((a, c) :: ys) none) : Seg next (h.erase a) (next c) ys none := by
  have hys : a ∉ ys.map Prod.fst := (List.nodup_cons.1 hs.nodup).1
  exact hs.2.2.frame fun a' ha' => Finmap.lookup_erase_ne fun he => hys (he ▸ ha')

theorem Seg.length_lt_walkFuel {p : Ptr} {cells : List (Addr × α)}
    (hs : Seg next h p cells none) : cells.length < h.walkFuel := by
  have hsub : (cells.map Prod.fst).toFinset ⊆ h.keys := fun a ha =>
    Finmap.mem_keys.2 (hs.live (List.mem_toFinset.1 ha))
  have hcard := Finset.card_le_card hsub
  rw [List.toFinset_card_of_nodup hs.nodup, List.length_map] at hcard
  exact Nat.lt_succ_of_le hcard

/-- The cells from `p` to `NULL`, or a fault if the walk meets a dead address or exceeds its
    budget. -/
def walk (next : α → Ptr) (h : Heap α) : ℕ → Ptr → Option (List (Addr × α))
  | _, none => some []
  | 0, some _ => none
  | fuel + 1, some a => do
      let c ← h.lookup a
      let rest ← walk next h fuel (next c)
      return (a, c) :: rest

theorem Seg.walk_eq {p : Ptr} {cells : List (Addr × α)} (hs : Seg next h p cells none)
    {fuel : ℕ} (hfuel : cells.length ≤ fuel) : walk next h fuel p = some cells := by
  induction cells generalizing p fuel with
  | nil =>
      obtain rfl : p = none := hs
      cases fuel <;> rfl
  | cons x rest ih =>
      obtain ⟨a, c⟩ := x
      obtain ⟨fuel, rfl⟩ : ∃ k, fuel = k + 1 :=
        ⟨fuel - 1, by simp only [List.length_cons] at hfuel; omega⟩
      obtain ⟨rfl, hc, hrest⟩ := hs
      simp [walk, hc, ih hrest (by simpa using hfuel)]

end Seg
