import SensorGateway.Library.Heap

set_option autoImplicit false

/-! # Doubly linked segments

`DSeg L h b p cells l q` says that the cells `cells` (addresses with payloads) are linked in both
directions: `next` leads from `p` through them to `q`, and each cell's `prev` is the cell before it,
`b` for the first one; `l` is the last cell (`b` if there is none). Splitting a segment at any place
is `dseg_append`, and changing one of the two links at its ends is `DSeg.relink_next` and
`DSeg.relink_prev`, so inserting and removing a cell anywhere is: split, relink, join.

A lookup loop along a chain counts the cells and leaves at the first one with a result (`scanBody`).
`DSeg.scan_eq` turns it into a recursion over the list of cells. -/

/-- The two links and the payload of a cell. -/
structure Links (α β : Type) where
  prev : α → Ptr
  next : α → Ptr
  val : α → β

variable {α β ρ : Type} {L : Links α β} {h h' : Heap α}

/-- `cells` are linked from `p` to `q`, and backwards from `l` to `b`. -/
def DSeg (L : Links α β) (h : Heap α) : Ptr → Ptr → List (Addr × β) → Ptr → Ptr → Prop
  | b, p, [], l, q => b = l ∧ p = q
  | b, p, (a, x) :: rest, l, q =>
      p = some a ∧ ∃ c, h.lookup a = some c ∧ L.prev c = b ∧ L.val c = x ∧
        DSeg L h (some a) (L.next c) rest l q

@[simp] theorem dseg_nil (b p l q : Ptr) : DSeg L h b p [] l q ↔ b = l ∧ p = q := Iff.rfl

@[simp] theorem dseg_cons (b p l q : Ptr) (a : Addr) (x : β) (rest : List (Addr × β)) :
    DSeg L h b p ((a, x) :: rest) l q ↔
      p = some a ∧ ∃ c, h.lookup a = some c ∧ L.prev c = b ∧ L.val c = x ∧
        DSeg L h (some a) (L.next c) rest l q := Iff.rfl

section Segments

variable {b p l q : Ptr} {xs ys : List (Addr × β)} {a : Addr} {x : β}

theorem dseg_append :
    DSeg L h b p (xs ++ ys) l q ↔ ∃ m r, DSeg L h b p xs m r ∧ DSeg L h m r ys l q := by
  induction xs generalizing b p with
  | nil => simp
  | cons cell xs ih =>
      obtain ⟨a, x⟩ := cell
      simp only [List.cons_append, dseg_cons, ih]
      constructor
      · rintro ⟨hp, c, hc, hprev, hval, m, r, hxs, hys⟩
        exact ⟨m, r, ⟨hp, c, hc, hprev, hval, hxs⟩, hys⟩
      · rintro ⟨m, r, ⟨hp, c, hc, hprev, hval, hxs⟩, hys⟩
        exact ⟨hp, c, hc, hprev, hval, m, r, hxs, hys⟩

/-- The forward links of a doubly linked segment. -/
theorem DSeg.forward (hs : DSeg L h b p xs l q) :
    ∃ nodes, Seg L.next h p nodes q ∧ xs = nodes.map (Prod.map id L.val) := by
  induction xs generalizing b p with
  | nil => exact ⟨[], hs.2, rfl⟩
  | cons cell xs ih =>
      obtain ⟨a, x⟩ := cell
      obtain ⟨hp, c, hc, -, hval, hrest⟩ := hs
      obtain ⟨nodes, hseg, rfl⟩ := ih hrest
      exact ⟨(a, c) :: nodes, ⟨hp, hc, hseg⟩, by simp [hval]⟩

/-- The same segment with the cells themselves as payloads. -/
theorem DSeg.withCells (hs : DSeg L h b p xs l q) :
    ∃ nodes, DSeg ⟨L.prev, L.next, id⟩ h b p nodes l q ∧
      xs = nodes.map fun cell => (cell.1, L.val cell.2) := by
  induction xs generalizing b p with
  | nil => exact ⟨[], hs, rfl⟩
  | cons cell xs ih =>
      obtain ⟨a, x⟩ := cell
      obtain ⟨hp, c, hc, hprev, hval, hrest⟩ := hs
      obtain ⟨nodes, hseg, rfl⟩ := ih hrest
      exact ⟨(a, c) :: nodes, ⟨hp, c, hc, hprev, rfl, hseg⟩, by simp [hval]⟩

/-- A NULL-terminated segment starts at its first cell. -/
theorem DSeg.start_eq (hs : DSeg L h b p xs l none) : p = (xs.map Prod.fst).head? := by
  cases xs with
  | nil => exact hs.2
  | cons cell xs => exact hs.1

/-- The budget for a walk is enough for all cells. -/
theorem DSeg.length_lt_walkFuel (hs : DSeg L h b p xs l none) : xs.length < h.walkFuel := by
  obtain ⟨nodes, hseg, rfl⟩ := hs.forward
  rw [List.length_map]
  exact hseg.length_lt_walkFuel

theorem DSeg.nodup (hs : DSeg L h b p xs l none) : (xs.map Prod.fst).Nodup := by
  obtain ⟨nodes, hseg, rfl⟩ := hs.forward
  simpa [Function.comp_def] using hseg.nodup

/-- Every address on a segment is live. -/
theorem DSeg.live (hs : DSeg L h b p xs l q) (ha : a ∈ xs.map Prod.fst) : a ∈ h := by
  obtain ⟨nodes, hseg, rfl⟩ := hs.forward
  exact hseg.live (by simpa [Function.comp_def] using ha)

/-- **Frame rule.** A segment only depends on the heap at its own addresses. -/
theorem DSeg.frame (hs : DSeg L h b p xs l q)
    (hframe : ∀ a ∈ xs.map Prod.fst, h'.lookup a = h.lookup a) : DSeg L h' b p xs l q := by
  induction xs generalizing b p with
  | nil => exact hs
  | cons cell xs ih =>
      obtain ⟨a, x⟩ := cell
      obtain ⟨hp, c, hc, hprev, hval, hrest⟩ := hs
      refine ⟨hp, c, ?_, hprev, hval, ih hrest fun a' ha' => hframe a' (List.mem_cons_of_mem _ ha')⟩
      rw [hframe a (List.mem_cons_self ..), hc]

theorem DSeg.frame_insert (hs : DSeg L h b p xs l q) (ha : a ∉ xs.map Prod.fst) (c : α) :
    DSeg L (h.insert a c) b p xs l q :=
  hs.frame fun _ ha' => Finmap.lookup_insert_of_ne h fun he => ha (he ▸ ha')

theorem DSeg.frame_erase (hs : DSeg L h b p xs l q) (ha : a ∉ xs.map Prod.fst) :
    DSeg L (h.erase a) b p xs l q :=
  hs.frame fun _ ha' => Finmap.lookup_erase_ne fun he => ha (he ▸ ha')

/-- The cell in the middle of a NULL-terminated segment occurs in neither half. -/
theorem DSeg.middle_not_mem (hs : DSeg L h b p (xs ++ (a, x) :: ys) l none) :
    a ∉ xs.map Prod.fst ∧ a ∉ ys.map Prod.fst := by
  have hnodup := hs.nodup
  rw [List.map_append, List.map_cons, List.nodup_middle, List.nodup_cons, List.mem_append,
    not_or] at hnodup
  exact hnodup.1

/-- A segment with a last cell ends there. -/
theorem dseg_concat :
    DSeg L h b p (xs ++ [(a, x)]) l q ↔
      l = some a ∧ ∃ m c, DSeg L h b p xs m (some a) ∧ h.lookup a = some c ∧ L.prev c = m ∧
        L.val c = x ∧ L.next c = q := by
  rw [dseg_append]
  constructor
  · rintro ⟨m, r, hxs, rfl, c, hc, hprev, hval, hl, hnext⟩
    exact ⟨hl.symm, m, c, hxs, hc, hprev, hval, hnext⟩
  · rintro ⟨rfl, m, c, hxs, hc, hprev, hval, hnext⟩
    exact ⟨m, some a, hxs, rfl, c, hc, hprev, hval, rfl, hnext⟩

/-- Overwrite the last cell, changing at most where it leads. -/
theorem DSeg.relink_next {c c' : α} (hs : DSeg L h b p (xs ++ [(a, x)]) l q)
    (ha : a ∉ xs.map Prod.fst) (hc : h.lookup a = some c) (hprev : L.prev c' = L.prev c)
    (hval : L.val c' = L.val c) :
    DSeg L (h.insert a c') b p (xs ++ [(a, x)]) (some a) (L.next c') := by
  obtain ⟨-, m, c₀, hxs, hc₀, hm, hx, -⟩ := dseg_concat.1 hs
  obtain rfl : c = c₀ := Option.some.inj (hc.symm.trans hc₀)
  exact dseg_concat.2 ⟨rfl, m, c', hxs.frame_insert ha c', Finmap.lookup_insert h,
    hprev.trans hm, hval.trans hx, rfl⟩

/-- Overwrite the first cell, changing at most what is before it. -/
theorem DSeg.relink_prev {c c' : α} (hs : DSeg L h b p ((a, x) :: ys) l q)
    (ha : a ∉ ys.map Prod.fst) (hc : h.lookup a = some c) (hnext : L.next c' = L.next c)
    (hval : L.val c' = L.val c) :
    DSeg L (h.insert a c') (L.prev c') (some a) ((a, x) :: ys) l q := by
  obtain ⟨rfl, c₀, hc₀, -, hx, hrest⟩ := hs
  obtain rfl : c = c₀ := Option.some.inj (hc.symm.trans hc₀)
  exact ⟨rfl, c', Finmap.lookup_insert h, rfl, hval.trans hx,
    hnext ▸ hrest.frame_insert ha c'⟩

/-- The links of a cell lead to the cells next to it. -/
theorem DSeg.links_eq (hs : DSeg L h b p (xs ++ (a, x) :: ys) l none) {c : α}
    (hc : h.lookup a = some c) :
    L.next c = ys.head?.map Prod.fst ∧ L.prev c = (xs.getLast?.map Prod.fst).or b := by
  obtain ⟨m, r, hxs, rfl, c₀, hc₀, hprev, -, hys⟩ := dseg_append.1 hs
  obtain rfl : c = c₀ := Option.some.inj (hc.symm.trans hc₀)
  constructor
  · cases ys with
    | nil => exact hys.2
    | cons cell ys => exact hys.1
  · rw [hprev]
    rcases List.eq_nil_or_concat xs with rfl | ⟨xs, ⟨a', y⟩, rfl⟩
    · exact hxs.1.symm
    · rw [List.concat_eq_append] at hxs ⊢
      obtain ⟨rfl, -⟩ := dseg_concat.1 hxs
      simp

/-- The links of a NULL-terminated list are inverse to each other. -/
theorem DSeg.linked (hs : DSeg L h b p xs l none) {a : Addr} (ha : a ∈ xs.map Prod.fst) {c : α}
    (hc : h.lookup a = some c) :
    (∀ a', L.next c = some a' → ∃ c', h.lookup a' = some c' ∧ L.prev c' = some a) ∧
      (∀ a', L.prev c = some a' → L.prev c ≠ b →
        ∃ c', h.lookup a' = some c' ∧ L.next c' = some a) := by
  obtain ⟨⟨a, x⟩, hcell, rfl⟩ := List.mem_map.1 ha
  obtain ⟨ys, zs, rfl⟩ := List.append_of_mem hcell
  obtain ⟨m, r, hys, rfl, c₀, hc₀, hprev, -, hzs⟩ := dseg_append.1 hs
  obtain rfl : c = c₀ := Option.some.inj (hc.symm.trans hc₀)
  constructor
  · intro a' hnext
    cases zs with
    | nil => exact absurd (hnext.symm.trans hzs.2) (by simp)
    | cons cell zs =>
        obtain ⟨hhead, c', hc', hprev', -⟩ := hzs
        obtain rfl : cell.1 = a' := Option.some.inj (hhead.symm.trans hnext)
        exact ⟨c', hc', hprev'⟩
  · intro a' ha' hne
    rcases List.eq_nil_or_concat ys with rfl | ⟨ys, ⟨a'', y⟩, rfl⟩
    · exact absurd (hprev.trans hys.1.symm) hne
    · rw [List.concat_eq_append] at hys
      obtain ⟨rfl, m', c', -, hc', -, -, hnext'⟩ := dseg_concat.1 hys
      obtain rfl : a'' = a' := Option.some.inj (hprev.symm.trans ha')
      exact ⟨c', hc', hnext'⟩

end Segments

/-! ## Lookups along a chain -/

/-- The body of a lookup: at a cell with a successor, leave if `visit` has a result and go on
    counting if not; leave at the last cell with `atLast`. -/
def scanBody (next : α → Ptr) (h : Heap α) (visit : Addr → α → ℤ → Option ρ)
    (atLast : Addr → α → ℤ → ρ) : Ptr × ℤ → Option (LoopStep (Ptr × ℤ) ρ)
  | (none, _) => none
  | (some a, i) => do
      let c ← h.lookup a
      if next c = none then
        some (.exit (atLast a c i))
      else
        match visit a c i with
        | some r => some (.exit r)
        | none => some (.next (next c, i + 1))

/-- What a lookup finds in a list of cells. -/
def scanCells (visit : Addr → β → ℤ → Option ρ) (atLast : Addr → β → ℤ → ρ) :
    List (Addr × β) → ℤ → Option ρ
  | [], _ => none
  | [(a, x)], i => some (atLast a x i)
  | (a, x) :: cell :: rest, i =>
      (visit a x i).or (scanCells visit atLast (cell :: rest) (i + 1))

section Scan

variable {visit : Addr → β → ℤ → Option ρ} {atLast : Addr → β → ℤ → ρ}

/-- **A lookup along a segment is a recursion over its cells.** -/
theorem DSeg.scan_eq {b p l : Ptr} {cells : List (Addr × β)} (hs : DSeg L h b p cells l none)
    (hne : cells ≠ []) {fuel : ℕ} (hfuel : cells.length ≤ fuel) (i : ℤ) :
    loop (scanBody L.next h (fun a c => visit a (L.val c)) fun a c => atLast a (L.val c)) fuel (p, i)
      = scanCells visit atLast cells i := by
  induction cells generalizing b p fuel i with
  | nil => exact absurd rfl hne
  | cons cell rest ih =>
      obtain ⟨a, x⟩ := cell
      obtain ⟨rfl, c, hc, -, rfl, hrest⟩ := hs
      obtain ⟨fuel, rfl⟩ : ∃ k, fuel = k + 1 :=
        ⟨fuel - 1, by simp only [List.length_cons] at hfuel; omega⟩
      cases rest with
      | nil =>
          have hnext : L.next c = none := hrest.2
          exact loop_exit (by simp [scanBody, hc, hnext]) fuel
      | cons cell' rest =>
          have hnext : L.next c ≠ none := by rw [hrest.1]; simp
          cases hv : visit a (L.val c) i with
          | some r =>
              rw [loop_exit (r := r) (by simp [scanBody, hc, hnext, hv]), scanCells, hv]
              rfl
          | none =>
              have hbody : scanBody L.next h (fun a c => visit a (L.val c))
                  (fun a c => atLast a (L.val c)) (some a, i) = some (.next (L.next c, i + 1)) := by
                simp [scanBody, hc, hnext, hv]
              rw [loop_next hbody, scanCells, hv, Option.none_or]
              exact ih hrest (by simp) (by simpa using hfuel) (i + 1)

/-- A lookup ends at the first cell that has a result. -/
theorem scanCells_found {xs ys : List (Addr × β)} {a : Addr} {x : β} {r : ρ}
    (hxs : ∀ cell ∈ xs, ∀ i, visit cell.1 cell.2 i = none) (hvisit : ∀ i, visit a x i = some r)
    (hlast : ys = [] → ∀ i, atLast a x i = r) (i : ℤ) :
    scanCells visit atLast (xs ++ (a, x) :: ys) i = some r := by
  induction xs generalizing i with
  | nil =>
      cases ys with
      | nil => exact congrArg some (hlast rfl i)
      | cons cell ys => rw [List.nil_append, scanCells, hvisit, Option.some_or]
  | cons cell xs ih =>
      obtain ⟨a', x'⟩ := cell
      have hnone : visit a' x' i = none := hxs (a', x') (List.mem_cons_self ..) i
      have ih := ih (fun cell hcell => hxs cell (List.mem_cons_of_mem _ hcell)) (i + 1)
      cases hrest : xs ++ (a, x) :: ys with
      | nil => exact absurd hrest (by simp)
      | cons cell rest =>
          rw [List.cons_append, hrest, scanCells, hnone, Option.none_or, ← hrest, ih]

/-- A lookup that finds nothing ends at the last cell. -/
theorem scanCells_absent {cells : List (Addr × β)} (hne : cells ≠ []) {r : ρ}
    (hvisit : ∀ cell ∈ cells, ∀ i, visit cell.1 cell.2 i = none)
    (hlast : ∀ cell ∈ cells, ∀ i, atLast cell.1 cell.2 i = r) (i : ℤ) :
    scanCells visit atLast cells i = some r := by
  induction cells generalizing i with
  | nil => exact absurd rfl hne
  | cons cell rest ih =>
      obtain ⟨a, x⟩ := cell
      cases rest with
      | nil => exact congrArg some (hlast (a, x) (List.mem_cons_self ..) i)
      | cons cell' rest =>
          have hnone : visit a x i = none := hvisit (a, x) (List.mem_cons_self ..) i
          rw [scanCells, hnone, Option.none_or]
          exact ih (by simp) (fun cell hcell => hvisit cell (List.mem_cons_of_mem _ hcell))
            (fun cell hcell => hlast cell (List.mem_cons_of_mem _ hcell)) (i + 1)

/-- Counting up to the first cell that satisfies `P`, or behind the last one. -/
theorem scanCells_findIdx (P : Addr × β → Bool) {cells : List (Addr × β)} (hne : cells ≠ [])
    (i : ℤ) :
    scanCells (fun a x i => if P (a, x) = true then some i else none)
        (fun a x i => if P (a, x) = true then i else i + 1) cells i
      = some (i + cells.findIdx P) := by
  induction cells generalizing i with
  | nil => exact absurd rfl hne
  | cons cell rest ih =>
      obtain ⟨a, x⟩ := cell
      by_cases hP : P (a, x) = true
      · cases rest <;> simp [scanCells, hP, List.findIdx_cons]
      · cases rest with
        | nil => simp [scanCells, hP]
        | cons cell' rest =>
            rw [scanCells, List.findIdx_cons, if_neg hP, Option.none_or, ih (by simp),
              Bool.eq_false_of_not_eq_true hP, cond_false]
            simp only [Option.some.injEq]
            omega

/-- A lookup in a list that is not empty ends. -/
theorem exists_scanCells {cells : List (Addr × β)} (hne : cells ≠ []) (i : ℤ) :
    ∃ r, scanCells visit atLast cells i = some r := by
  induction cells generalizing i with
  | nil => exact absurd rfl hne
  | cons cell rest ih =>
      obtain ⟨a, x⟩ := cell
      cases rest with
      | nil => exact ⟨_, rfl⟩
      | cons cell' rest =>
          rw [scanCells]
          cases visit a x i with
          | some r => exact ⟨r, rfl⟩
          | none => exact ih (by simp) (i + 1)

theorem scanCells_count (cells : List (Addr × β)) (hne : cells ≠ []) (i : ℤ) :
    scanCells (fun _ _ _ => none) (fun _ _ i => i) cells i = some (i + cells.length - 1) := by
  induction cells generalizing i with
  | nil => exact absurd rfl hne
  | cons cell rest ih =>
      cases rest with
      | nil => simp [scanCells]
      | cons cell' rest =>
          rw [scanCells, Option.none_or, ih (by simp)]
          simp only [List.length_cons, Option.some.injEq]
          omega

/-- A position clamped to `[0, n]`. -/
def clampIndex (index : ℤ) (n : ℕ) : ℕ := min index.toNat n

/-- A position in `[0, n]` is not clamped. -/
theorem clampIndex_of_le {k n : ℕ} (hk : k ≤ n) : clampIndex k n = k := by
  unfold clampIndex
  omega

/-- An index of a list is not clamped to its last position. -/
theorem clampIndex_of_lt {k n : ℕ} (hk : k < n) : clampIndex k (n - 1) = k :=
  clampIndex_of_le (Nat.le_sub_one_of_lt hk)

/-- Clamped to its last position, an index is one of the list. -/
theorem clampIndex_lt {cells : List α} (hne : cells ≠ []) (index : ℤ) :
    clampIndex index (cells.length - 1) < cells.length := by
  have hpos := List.length_pos_iff.2 hne
  unfold clampIndex
  omega

/-- Leaving at the first cell whose count is at least `index`. -/
theorem scanCells_atIndex (f : Addr → β → ρ) (index : ℤ) (cells : List (Addr × β)) (i : ℤ) :
    scanCells (fun a x i => if index ≤ i then some (f a x) else none) (fun a x _ => f a x) cells i
      = (cells[clampIndex (index - i) (cells.length - 1)]?).map fun cell => f cell.1 cell.2 := by
  induction cells generalizing i with
  | nil => rfl
  | cons cell rest ih =>
      obtain ⟨a, x⟩ := cell
      cases rest with
      | nil => simp [scanCells, clampIndex]
      | cons cell' rest =>
          rw [scanCells]
          by_cases hle : index ≤ i
          · have hzero : clampIndex (index - i) ((a, x) :: cell' :: rest).length.pred = 0 := by
              simp only [clampIndex]
              omega
            rw [if_pos hle, Option.some_or, ← Nat.pred_eq_sub_one, hzero]
            rfl
          · have hsucc : clampIndex (index - i) (((a, x) :: cell' :: rest).length - 1)
                = clampIndex (index - (i + 1)) ((cell' :: rest).length - 1) + 1 := by
              simp only [clampIndex, List.length_cons]
              omega
            rw [if_neg hle, Option.none_or, ih, hsucc, List.getElem?_cons_succ]

/-- The index of the first cell that satisfies `P`, or -1 if there is none. -/
def firstIndex (P : Addr × β → Bool) (cells : List (Addr × β)) : ℤ :=
  if cells.any P = true then (cells.findIdx P : ℤ) else -1

/-- Counting up to the first cell that satisfies `P`. -/
theorem scanCells_firstIndex (P : Addr × β → Bool) (cells : List (Addr × β)) (hne : cells ≠ [])
    (i : ℤ) :
    scanCells (fun a x i => if P (a, x) = true then some i else none)
        (fun a x i => if P (a, x) = true then i else -1) cells i
      = some (if cells.any P = true then i + cells.findIdx P else -1) := by
  induction cells generalizing i with
  | nil => exact absurd rfl hne
  | cons cell rest ih =>
      obtain ⟨a, x⟩ := cell
      by_cases hP : P (a, x) = true
      · cases rest <;> simp [scanCells, hP, List.findIdx_cons]
      · cases rest with
        | nil => simp [scanCells, hP]
        | cons cell' rest =>
            rw [scanCells, List.findIdx_cons, List.any_cons, if_neg hP, Option.none_or,
              ih (by simp), Bool.eq_false_of_not_eq_true hP, Bool.false_or, cond_false]
            split
            · simp only [Option.some.injEq]
              omega
            · rfl

end Scan

/-! ## Positions -/

theorem insertIdx_append_length {γ : Type} (xs ys : List γ) (x : γ) :
    (xs ++ ys).insertIdx xs.length x = xs ++ x :: ys := by
  induction xs with
  | nil => simp
  | cons x' xs ih => simp [ih]

/-- The element at a position, with what is before and behind it. -/
theorem exists_split {γ : Type} {xs : List γ} {k : ℕ} (hk : k < xs.length) :
    ∃ ys x zs, xs = ys ++ x :: zs ∧ ys.length = k :=
  ⟨xs.take k, xs[k], xs.drop (k + 1), by simp, List.length_take_of_le hk.le⟩

theorem eraseIdx_append_length {γ : Type} (xs ys : List γ) (x : γ) :
    (xs ++ x :: ys).eraseIdx xs.length = xs ++ ys := by
  simp [List.eraseIdx_append_of_length_le]

/-- Erasing at the first cell that satisfies `P`. -/
theorem eraseIdx_findIdx {P : Addr × β → Bool} {cells : List (Addr × β)}
    (hP : cells.any P = true) : cells.eraseIdx (cells.findIdx P) = cells.eraseP P := by
  induction cells with
  | nil => simp at hP
  | cons cell rest ih =>
      rw [List.findIdx_cons, List.eraseP_cons]
      cases hcell : P cell with
      | true => simp
      | false =>
          rw [List.any_cons, hcell, Bool.false_or] at hP
          rw [cond_false, List.eraseIdx_cons_succ, ih hP, cond_false]

theorem firstIndex_of_any {P : Addr × β → Bool} {cells : List (Addr × β)}
    (hP : cells.any P = true) :
    firstIndex P cells = (cells.findIdx P : ℕ) ∧ cells.findIdx P < cells.length := by
  refine ⟨by rw [firstIndex, if_pos hP], List.findIdx_lt_length_of_exists ?_⟩
  simpa using hP

theorem firstIndex_of_not_any {P : Addr × β → Bool} {cells : List (Addr × β)}
    (hP : cells.any P = false) : firstIndex P cells = -1 := by
  rw [firstIndex, hP]
  rfl

/-- A branch on whether a lookup has found anything. -/
theorem ite_firstIndex {γ : Type} (P : Addr × β → Bool) (cells : List (Addr × β)) (f : ℤ → γ) (y : γ) :
    (if firstIndex P cells ≠ -1 then f (firstIndex P cells) else y)
      = if cells.any P = true then f (cells.findIdx P : ℕ) else y := by
  cases hP : cells.any P with
  | true =>
      obtain ⟨hindex, -⟩ := firstIndex_of_any hP
      rw [hindex, if_pos (by omega), if_pos rfl]
  | false => rw [firstIndex_of_not_any hP, if_neg (by simp), if_neg (by simp)]

/-- What is not found before a cell is found there. -/
theorem findIdx_append_cons {γ : Type} {P : γ → Bool} {xs : List γ} {x : γ} (ys : List γ)
    (hbefore : ∀ y ∈ xs, P y = false) (hx : P x = true) :
    (xs ++ x :: ys).findIdx P = xs.length := by
  rw [List.findIdx_append, List.findIdx_eq_length_of_false hbefore, if_neg (Nat.lt_irrefl _),
    List.findIdx_cons, hx, cond_true, Nat.zero_add]
