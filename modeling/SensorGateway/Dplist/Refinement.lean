import SensorGateway.Dplist.Basic
import SensorGateway.Library.StepSystem

set_option autoImplicit false

/-! # The list library refines a plain sequence

`list.WellFormed cells` says that the nodes linked from the head are `cells` (references with their
elements), linked in both directions. The lookups are then recursions over `cells`, and each
operator that changes the list does to `cells` what its documentation says (`DplSeq.apply`). -/

namespace SensorGateway

variable {E : Type}

/-- The nodes of the list are `cells`, in order, linked in both directions and terminated by `NULL`
    at both ends, and there are no others on the heap. -/
structure Dplist.WellFormed (list : Dplist E) (cells : List (Addr × E)) : Prop where
  linked : ∃ last, DSeg dplLinks list.heap none list.head cells last none
  owned : ∀ a ∈ list.heap, a ∈ cells.map Prod.fst

theorem dplCreate_wellFormed (elementCopy : ℕ → E → E) (elementCompare : E → E → ℤ) :
    (dplCreate elementCopy elementCompare).WellFormed [] where
  linked := ⟨none, rfl, rfl⟩
  owned _ ha := absurd ha Finmap.notMem_empty

/-! ## Lookups -/

section Lookups

variable {list : Dplist E} {cells : List (Addr × E)}

theorem Dplist.WellFormed.head_eq (h : list.WellFormed cells) :
    list.head = cells.head?.map Prod.fst := by
  obtain ⟨last, hseg⟩ := h.linked
  rw [← List.head?_map]
  exact hseg.start_eq

theorem Dplist.WellFormed.head_eq_none (h : list.WellFormed cells) :
    list.head = none ↔ cells = [] := by
  rw [h.head_eq]
  cases cells <;> simp

theorem Dplist.WellFormed.nodup (h : list.WellFormed cells) : (cells.map Prod.fst).Nodup := by
  obtain ⟨last, hseg⟩ := h.linked
  exact hseg.nodup

theorem Dplist.WellFormed.mem_heap (h : list.WellFormed cells) (a : Addr) :
    a ∈ list.heap ↔ a ∈ cells.map Prod.fst := by
  obtain ⟨last, hseg⟩ := h.linked
  exact ⟨h.owned a, hseg.live⟩

/-- The nodes of the list are all that is on its heap. -/
theorem Dplist.WellFormed.card_keys (h : list.WellFormed cells) :
    list.heap.keys.card = cells.length := by
  rw [Heap.card_keys h.nodup h.mem_heap, List.length_map]

theorem Dplist.WellFormed.length_lt_walkFuel (h : list.WellFormed cells) :
    cells.length < list.heap.walkFuel := by
  obtain ⟨last, hseg⟩ := h.linked
  exact hseg.length_lt_walkFuel

theorem Dplist.WellFormed.elements_eq (h : list.WellFormed cells) :
    list.elements = some (cells.map Prod.snd) := by
  obtain ⟨last, hseg⟩ := h.linked
  obtain ⟨nodes, hnodes, rfl⟩ := hseg.forward
  have hwalk := hnodes.walk_eq hnodes.length_lt_walkFuel.le
  unfold Dplist.elements
  simp only [dplLinks] at hwalk
  rw [hwalk]
  simp [dplLinks]

theorem Dplist.WellFormed.scan_eq {ρ : Type} (h : list.WellFormed cells) (hne : cells ≠ [])
    (visit : Addr → E → ℤ → Option ρ) (atLast : Addr → E → ℤ → ρ) (start : ℤ) :
    list.scan visit atLast start = scanCells visit atLast cells start := by
  obtain ⟨last, hseg⟩ := h.linked
  exact hseg.scan_eq hne hseg.length_lt_walkFuel.le start

theorem Dplist.WellFormed.size_eq (h : list.WellFormed cells) :
    dplSize list = some (cells.length : ℤ) := by
  unfold dplSize
  split
  · next hhead =>
      rw [h.head_eq_none.1 hhead]
      rfl
  · next hhead =>
      have hne : cells ≠ [] := fun he => hhead (h.head_eq_none.2 he)
      rw [h.scan_eq hne, scanCells_count cells hne]
      congr 1
      omega

/-- The lookups by index find the node at the index clamped to the list. -/
theorem Dplist.WellFormed.scan_atIndex {ρ : Type} (h : list.WellFormed cells) (hne : cells ≠ [])
    (f : Addr → E → ρ) (index : ℤ) :
    list.scan (fun a x count => if index ≤ count then some (f a x) else none)
        (fun a x _ => f a x) 0
      = (cells[clampIndex index (cells.length - 1)]?).map fun cell => f cell.1 cell.2 := by
  rw [h.scan_eq hne, scanCells_atIndex f, Int.sub_zero]

theorem Dplist.WellFormed.referenceAtIndex_eq (h : list.WellFormed cells) (index : ℤ) :
    dplGetReferenceAtIndex list index
      = some ((cells[clampIndex index (cells.length - 1)]?).map Prod.fst) := by
  unfold dplGetReferenceAtIndex
  split
  · next hhead => rw [h.head_eq_none.1 hhead]; rfl
  · next hhead =>
      have hne : cells ≠ [] := fun he => hhead (h.head_eq_none.2 he)
      rw [h.scan_atIndex hne fun dummy _ => some dummy,
        List.getElem?_eq_getElem (clampIndex_lt hne index)]
      rfl

theorem Dplist.WellFormed.elementAtIndex_eq (h : list.WellFormed cells) (index : ℤ) :
    dplGetElementAtIndex list index
      = some ((cells[clampIndex index (cells.length - 1)]?).map Prod.snd) := by
  unfold dplGetElementAtIndex
  split
  · next hhead => rw [h.head_eq_none.1 hhead]; rfl
  · next hhead =>
      have hne : cells ≠ [] := fun he => hhead (h.head_eq_none.2 he)
      rw [h.scan_atIndex hne fun _ element => some element,
        List.getElem?_eq_getElem (clampIndex_lt hne index)]
      rfl

theorem Dplist.WellFormed.indexOfElement_eq (h : list.WellFormed cells) (element : E) :
    dplGetIndexOfElement list element
      = some (firstIndex (fun cell => list.elementCompare cell.2 element == 0) cells) := by
  unfold dplGetIndexOfElement
  split
  · next hhead => rw [h.head_eq_none.1 hhead]; rfl
  · next hhead =>
      have hne : cells ≠ [] := fun he => hhead (h.head_eq_none.2 he)
      have hscan := scanCells_firstIndex
        (fun cell : Addr × E => list.elementCompare cell.2 element == 0) cells hne 0
      simp only [beq_iff_eq, Int.zero_add] at hscan
      rw [h.scan_eq hne, hscan, firstIndex]

theorem Dplist.WellFormed.indexOfReference_eq (h : list.WellFormed cells) (a : Addr) :
    dplGetIndexOfReference list (some a)
      = some (firstIndex (fun cell => cell.1 == a) cells) := by
  unfold dplGetIndexOfReference
  split
  · next hhead => rw [h.head_eq_none.1 hhead]; rfl
  · next hhead =>
      have hne : cells ≠ [] := fun he => hhead (h.head_eq_none.2 he)
      have hscan := scanCells_firstIndex (fun cell : Addr × E => cell.1 == a) cells hne 0
      simp only [beq_iff_eq, Int.zero_add] at hscan
      simp only [reduceCtorEq, if_false, Option.some.injEq]
      rw [h.scan_eq hne, hscan, firstIndex]

end Lookups

/-! ## Inserting a node -/

section Insert

variable {list : Dplist E} {cells xs ys : List (Addr × E)} {a d e : Addr} {x y z : E}

/-- An address that is not on the heap is not a reference of the list. -/
theorem Dplist.WellFormed.fresh (h : list.WellFormed cells) (ha : a ∉ list.heap) :
    a ∉ cells.map Prod.fst := fun hmem => ha ((h.mem_heap a).2 hmem)

/-- Case 1 of the source: the list is empty. -/
theorem Dplist.WellFormed.insert_empty (h : list.WellFormed []) (a : Addr) (x : E) :
    ({ list with head := some a, heap := list.heap.insert a ⟨none, none, x⟩ } :
      Dplist E).WellFormed [(a, x)] where
  linked := ⟨some a, rfl, _, Finmap.lookup_insert _, rfl, rfl, rfl, rfl⟩
  owned a' ha' := by
    rcases Finmap.mem_insert.1 ha' with rfl | hmem
    · simp
    · exact absurd (h.owned a' hmem) (by simp)

/-- Case 2 of the source: a node becomes the first one. -/
theorem Dplist.WellFormed.insert_front (h : list.WellFormed ((d, y) :: ys)) (ha : a ∉ list.heap)
    (x : E) :
    ∃ heap, Heap.modify (list.heap.insert a ⟨none, some d, x⟩) (some d)
        (fun node => { node with prev := some a }) = some heap ∧
      ({ list with head := some a, heap } : Dplist E).WellFormed ((a, x) :: (d, y) :: ys) := by
  obtain ⟨last, hseg⟩ := h.linked
  obtain ⟨-, node, hnode, -⟩ := id hseg
  obtain ⟨had, hays⟩ : a ≠ d ∧ a ∉ ys.map Prod.fst := by simpa using h.fresh ha
  have hdys : d ∉ ys.map Prod.fst := (List.nodup_cons.1 h.nodup).1
  have hnode' : (list.heap.insert a ⟨none, some d, x⟩).lookup d = some node := by
    rw [Finmap.lookup_insert_of_ne _ had.symm, hnode]
  refine ⟨_, Heap.modify_some hnode' _, ⟨last, rfl, ⟨none, some d, x⟩, ?_, rfl, rfl, ?_⟩, ?_⟩
  · rw [Finmap.lookup_insert_of_ne _ had, Finmap.lookup_insert]
  · exact (hseg.frame_insert (by simp [had, hays]) _).relink_prev hdys hnode' rfl rfl
  · intro a' ha'
    rcases Finmap.mem_insert.1 ha' with rfl | ha'
    · simp
    · rcases Finmap.mem_insert.1 ha' with rfl | ha'
      · simp
      · exact List.mem_cons_of_mem _ (h.owned a' ha')

/-- Case 4 of the source: a node is put between two others. -/
theorem Dplist.WellFormed.insert_middle
    (h : list.WellFormed ((xs ++ [(e, z)]) ++ (d, y) :: ys)) (ha : a ∉ list.heap) (x : E) :
    ∃ ref heap₁ heap₂, list.heap.lookup d = some ref ∧ ref.prev = some e ∧
      Heap.modify (list.heap.insert a ⟨some e, some d, x⟩) (some e)
        (fun node => { node with next := some a }) = some heap₁ ∧
      Heap.modify heap₁ (some d) (fun node => { node with prev := some a }) = some heap₂ ∧
      ({ list with heap := heap₂ } : Dplist E).WellFormed
        ((xs ++ [(e, z)]) ++ (a, x) :: (d, y) :: ys) := by
  obtain ⟨last, hseg⟩ := h.linked
  have hsplit := hseg
  rw [List.append_assoc, List.singleton_append] at hsplit
  obtain ⟨hexs, heright⟩ := hsplit.middle_not_mem
  obtain ⟨hdleft, hdys⟩ := hseg.middle_not_mem
  obtain ⟨m, r, hleft, hright⟩ := dseg_append.1 hseg
  obtain ⟨rfl, ref, href, hprev, -⟩ := id hright
  obtain ⟨rfl, -, node, -, hnode, -, -, -⟩ := dseg_concat.1 hleft
  have hfresh := h.fresh ha
  rw [List.map_append, List.mem_append, not_or, List.map_cons, List.mem_cons, not_or] at hfresh
  obtain ⟨haleft, had, hays⟩ := hfresh
  have hae : a ≠ e := fun he => haleft (by simp [he])
  have hde : d ≠ e := fun he => hdleft (by simp [he])
  have hnode₀ : (list.heap.insert a ⟨some e, some d, x⟩).lookup e = some node := by
    rw [Finmap.lookup_insert_of_ne _ hae.symm, hnode]
  have href₁ : ((list.heap.insert a ⟨some e, some d, x⟩).insert e
      { node with next := some a }).lookup d = some ref := by
    rw [Finmap.lookup_insert_of_ne _ hde, Finmap.lookup_insert_of_ne _ (Ne.symm had), href]
  have hleft₁ := (hleft.frame_insert haleft ⟨some e, some d, x⟩).relink_next hexs hnode₀
    (rfl : dplLinks.prev { node with next := some a } = dplLinks.prev node) rfl
  have hright₁ := ((hright.frame_insert (by simp [had, hays]) ⟨some e, some d, x⟩).frame_insert
    heright { node with next := some a }).relink_prev hdys href₁
    (rfl : dplLinks.next { ref with prev := some a } = dplLinks.next ref) rfl
  refine ⟨ref, _, _, href, hprev, Heap.modify_some hnode₀ _, Heap.modify_some href₁ _,
    ⟨last, dseg_append.2 ⟨some e, some a, hleft₁.frame_insert hdleft _, rfl,
      ⟨some e, some d, x⟩, ?_, rfl, rfl, hright₁⟩⟩, ?_⟩
  · rw [Finmap.lookup_insert_of_ne _ had, Finmap.lookup_insert_of_ne _ hae, Finmap.lookup_insert]
  · intro a' ha'
    simp only [Finmap.mem_insert] at ha'
    rcases ha' with rfl | rfl | rfl | ha'
    · simp
    · simp
    · simp
    · have hold := h.owned a' ha'
      simp only [List.map_append, List.map_cons, List.mem_append, List.mem_cons] at hold ⊢
      tauto

/-- Case 3 of the source: a node becomes the last one. -/
theorem Dplist.WellFormed.insert_end (h : list.WellFormed (xs ++ [(e, z)])) (ha : a ∉ list.heap)
    (x : E) :
    ∃ ref heap, list.heap.lookup e = some ref ∧ ref.next = none ∧
      Heap.modify (list.heap.insert a ⟨some e, none, x⟩) (some e)
        (fun node => { node with next := some a }) = some heap ∧
      ({ list with heap } : Dplist E).WellFormed ((xs ++ [(e, z)]) ++ [(a, x)]) := by
  obtain ⟨last, hseg⟩ := h.linked
  obtain ⟨-, -, ref, -, href, -, -, hnext⟩ := dseg_concat.1 hseg
  obtain ⟨hexs, -⟩ := hseg.middle_not_mem
  have hfresh := h.fresh ha
  have hae : a ≠ e := fun he => hfresh (by simp [he])
  have href₀ : (list.heap.insert a ⟨some e, none, x⟩).lookup e = some ref := by
    rw [Finmap.lookup_insert_of_ne _ hae.symm, href]
  refine ⟨ref, _, href, hnext, Heap.modify_some href₀ _, ⟨some a, ?_⟩, ?_⟩
  · refine dseg_append.2 ⟨some e, some a, ?_, rfl, ⟨some e, none, x⟩, ?_, rfl, rfl, rfl, rfl⟩
    · exact (hseg.frame_insert hfresh _).relink_next hexs href₀ rfl rfl
    · rw [Finmap.lookup_insert_of_ne _ hae, Finmap.lookup_insert]
  · intro a' ha'
    simp only [Finmap.mem_insert] at ha'
    rcases ha' with rfl | rfl | ha'
    · simp
    · simp
    · rw [List.map_append]
      exact List.mem_append_left _ (h.owned a' ha')

end Insert

/-- What `insert_copy` changes is only the record of the copies. -/
theorem Dplist.newElement_wellFormed {list : Dplist E} {cells : List (Addr × E)}
    (h : list.WellFormed cells) (element : E) (insertCopy : Bool) :
    (list.newElement element insertCopy).2.WellFormed cells ∧
      (list.newElement element insertCopy).2.heap = list.heap := by
  unfold Dplist.newElement
  split
  · exact ⟨⟨h.linked, h.owned⟩, rfl⟩
  · exact ⟨h, rfl⟩

theorem Dplist.WellFormed.link {list : Dplist E} {cells : List (Addr × E)}
    (h : list.WellFormed cells) {a : Addr} (ha : a ∉ list.heap) (x : E) (index : ℤ) :
    ∃ head heap, list.link a x index = some { list with head, heap } ∧
      ({ list with head, heap } : Dplist E).WellFormed
        (cells.insertIdx (clampIndex index cells.length) (a, x)) := by
  unfold Dplist.link
  -- the four cases of the source: empty list, front, middle, end
  by_cases hcells : cells = []
  · subst hcells
    have hclamp : clampIndex index ([] : List (Addr × E)).length = 0 := Nat.min_zero _
    rw [if_pos (h.head_eq_none.2 rfl), hclamp]
    exact ⟨_, _, rfl, h.insert_empty a x⟩
  rw [if_neg fun hhead => hcells (h.head_eq_none.1 hhead)]
  by_cases hindex : index ≤ 0
  · obtain ⟨⟨d, y⟩, ys, rfl⟩ := List.exists_cons_of_ne_nil hcells
    obtain ⟨heap, hmodify, hwf⟩ := h.insert_front ha x
    have hclamp : clampIndex index ((d, y) :: ys).length = 0 := by
      unfold clampIndex
      omega
    have hhead : list.head = some d := h.head_eq
    rw [if_pos hindex, hhead, hclamp]
    simp only [Option.bind_eq_bind, hmodify, Option.bind_some]
    exact ⟨_, _, rfl, hwf⟩
  rw [if_neg hindex, h.referenceAtIndex_eq, h.size_eq]
  simp only [Option.bind_eq_bind, Option.bind_some]
  by_cases hlt : index < cells.length
  · -- the node at the index, and the one before it
    have hnat : index.toNat < cells.length := by omega
    obtain ⟨xs, ⟨d, y⟩, ys, rfl, hlen⟩ := exists_split hnat
    rcases List.eq_nil_or_concat xs with rfl | ⟨xs, ⟨e, z⟩, rfl⟩
    · simp only [List.length_nil] at hlen
      omega
    rw [List.concat_eq_append] at h hlen hlt ⊢
    obtain ⟨ref, heap₁, heap₂, href, hprev, hmodify₁, hmodify₂, hwf⟩ := h.insert_middle ha x
    have hclamp : ∀ n, (xs ++ [(e, z)]).length ≤ n →
        clampIndex index n = (xs ++ [(e, z)]).length := fun n hn => by
      unfold clampIndex
      omega
    rw [hclamp _ (by simp), hclamp _ (by simp), insertIdx_append_length,
      List.getElem?_append_right (Nat.le_refl _), Nat.sub_self]
    simp only [List.getElem?_cons_zero, Option.map_some, Heap.load_some, href, Option.bind_some,
      if_pos hlt, hprev, hmodify₁, hmodify₂]
    exact ⟨_, _, rfl, hwf⟩
  · rcases List.eq_nil_or_concat cells with rfl | ⟨xs, ⟨e, z⟩, rfl⟩
    · exact absurd rfl hcells
    rw [List.concat_eq_append] at h hlt ⊢
    obtain ⟨ref, heap, href, hnext, hmodify, hwf⟩ := h.insert_end ha x
    have hclamp : clampIndex index (xs ++ [(e, z)]).length = (xs ++ [(e, z)]).length := by
      unfold clampIndex
      omega
    have hlast : clampIndex index ((xs ++ [(e, z)]).length - 1) = xs.length := by
      unfold clampIndex
      simp only [List.length_append, List.length_singleton] at hlt ⊢
      omega
    rw [hclamp, hlast, List.insertIdx_length_self, List.getElem?_append_right (Nat.le_refl _),
      Nat.sub_self]
    simp only [List.getElem?_cons_zero, Option.map_some, Heap.load_some, href, Option.bind_some,
      if_neg hlt, hnext, if_true, hmodify]
    exact ⟨_, _, rfl, hwf⟩

/-- **`dpl_insert_at_index`** puts the element, or its copy, at the index clamped to the list. -/
theorem Dplist.WellFormed.insertAtIndex {list : Dplist E} {cells : List (Addr × E)}
    (h : list.WellFormed cells) {a : Addr} (ha : a ∉ list.heap) (element : E) (index : ℤ)
    (insertCopy : Bool) :
    ∃ head heap, dplInsertAtIndex list element index insertCopy (some a)
        = some { (list.newElement element insertCopy).2 with head, heap } ∧
      ({ (list.newElement element insertCopy).2 with head, heap } : Dplist E).WellFormed
        (cells.insertIdx (clampIndex index cells.length)
          (a, (list.newElement element insertCopy).1)) := by
  obtain ⟨hnew, hheap⟩ := list.newElement_wellFormed h element insertCopy
  exact hnew.link (hheap ▸ ha) _ index

/-! ## Removing a node -/

section Remove

variable {list : Dplist E} {xs ys : List (Addr × E)} {a d e : Addr} {x y z : E}

/-- The heap without the node taken out holds the other nodes. -/
theorem owned_erase (xs ys : List (Addr × E)) (x : E) {heap : Heap (DplNode E)}
    (howned : ∀ a' ∈ heap, a' ∈ (xs ++ (a, x) :: ys).map Prod.fst) :
    ∀ a' ∈ heap.erase a, a' ∈ (xs ++ ys).map Prod.fst := by
  intro a' ha'
  obtain ⟨hne, hmem⟩ := Finmap.mem_erase.1 ha'
  have hold := howned a' hmem
  simp only [List.map_append, List.map_cons, List.mem_append, List.mem_cons] at hold ⊢
  tauto

/-- The only node is taken out. -/
theorem Dplist.WellFormed.remove_only (h : list.WellFormed [(a, x)]) :
    ({ list with head := none, heap := list.heap.erase a } : Dplist E).WellFormed [] where
  linked := ⟨none, rfl, rfl⟩
  owned := owned_erase [] [] x h.owned

/-- The first of several nodes is taken out. -/
theorem Dplist.WellFormed.remove_front (h : list.WellFormed ((a, x) :: (d, y) :: ys)) :
    ∃ node heap, list.heap.lookup a = some node ∧ node.next = some d ∧ node.element = x ∧
      list.heap.modify (some d) (fun next => { next with prev := none }) = some heap ∧
      heap.lookup a = some node ∧
      ({ list with head := some d, heap := heap.erase a } : Dplist E).WellFormed
        ((d, y) :: ys) := by
  obtain ⟨last, hseg⟩ := h.linked
  obtain ⟨-, node, hnode, -, hval, hrest⟩ := hseg
  obtain ⟨hnext, next, hd, -⟩ := id hrest
  have hnodup := h.nodup
  simp only [List.map_cons, List.nodup_cons, List.mem_cons, not_or] at hnodup
  obtain ⟨⟨had, hays⟩, hdys, -⟩ := hnodup
  have hnode' : (list.heap.insert d { next with prev := none }).lookup a = some node := by
    rw [Finmap.lookup_insert_of_ne _ had, hnode]
  have hrest' := hrest.relink_prev hdys hd
    (rfl : dplLinks.next { next with prev := none } = dplLinks.next next) rfl
  refine ⟨node, _, hnode, hnext, hval, Heap.modify_some hd _, hnode',
    ⟨last, hrest'.frame_erase (by simp [had, hays])⟩, owned_erase [] _ x ?_⟩
  intro a' ha'
  rcases Finmap.mem_insert.1 ha' with rfl | hmem
  · simp
  · exact h.owned a' hmem

/-- A node between two others is taken out. -/
theorem Dplist.WellFormed.remove_middle
    (h : list.WellFormed ((xs ++ [(e, z)]) ++ (a, x) :: (d, y) :: ys)) :
    ∃ node heap₁ heap₂, list.heap.lookup a = some node ∧ node.prev = some e ∧
      node.next = some d ∧ node.element = x ∧
      list.heap.modify (some d) (fun next => { next with prev := some e }) = some heap₁ ∧
      Heap.modify heap₁ (some e) (fun prev => { prev with next := some d }) = some heap₂ ∧
      heap₂.lookup a = some node ∧
      ({ list with heap := heap₂.erase a } : Dplist E).WellFormed
        ((xs ++ [(e, z)]) ++ (d, y) :: ys) := by
  obtain ⟨last, hseg⟩ := h.linked
  obtain ⟨haleft, haright⟩ := hseg.middle_not_mem
  have hsplit := hseg
  rw [List.append_assoc, List.singleton_append] at hsplit
  obtain ⟨hexs, heright⟩ := hsplit.middle_not_mem
  have hsplit := hseg
  rw [List.append_cons] at hsplit
  obtain ⟨hdleft, hdys⟩ := hsplit.middle_not_mem
  obtain ⟨m, r, hleft, hright⟩ := dseg_append.1 hseg
  obtain ⟨rfl, node, hnode, hprev, hval, hrest⟩ := hright
  obtain ⟨rfl, -, prev, -, he, -, -, -⟩ := dseg_concat.1 hleft
  obtain ⟨hnext, next, hd, -⟩ := id hrest
  have hae : a ≠ e := fun he => haleft (by simp [he])
  have had : a ≠ d := fun he => haright (by simp [he])
  have hde : d ≠ e := fun he => hdleft (by simp [he])
  have he' : (list.heap.insert d { next with prev := some e }).lookup e = some prev := by
    rw [Finmap.lookup_insert_of_ne _ hde.symm, he]
  have hrest' := (hrest.relink_prev hdys hd
    (rfl : dplLinks.next { next with prev := some e } = dplLinks.next next) rfl).frame_insert
    (fun hmem => heright (List.mem_cons_of_mem _ hmem)) { prev with next := some d }
  have hdleft' : d ∉ (xs ++ [(e, z)]).map Prod.fst := fun hmem => hdleft (by
    rw [List.map_append]
    exact List.mem_append_left _ hmem)
  have hleft' := (hleft.frame_insert hdleft' { next with prev := some e }).relink_next hexs he'
    (rfl : dplLinks.prev { prev with next := some d } = dplLinks.prev prev) rfl
  refine ⟨node, _, _, hnode, hprev, hnext, hval, Heap.modify_some hd _, Heap.modify_some he' _, ?_,
    ⟨last, dseg_append.2 ⟨some e, some d, hleft'.frame_erase haleft, hrest'.frame_erase haright⟩⟩,
    owned_erase _ _ x ?_⟩
  · rw [Finmap.lookup_insert_of_ne _ hae, Finmap.lookup_insert_of_ne _ had, hnode]
  · intro a' ha'
    simp only [Finmap.mem_insert] at ha'
    rcases ha' with rfl | rfl | hmem
    · simp
    · simp
    · exact h.owned a' hmem

/-- The last of several nodes is taken out. -/
theorem Dplist.WellFormed.remove_last
    (h : list.WellFormed ((xs ++ [(e, z)]) ++ [(a, x)])) :
    ∃ node heap, list.heap.lookup a = some node ∧ node.prev = some e ∧ node.next = none ∧
      node.element = x ∧
      list.heap.modify (some e) (fun prev => { prev with next := none }) = some heap ∧
      heap.lookup a = some node ∧
      ({ list with heap := heap.erase a } : Dplist E).WellFormed (xs ++ [(e, z)]) := by
  obtain ⟨last, hseg⟩ := h.linked
  obtain ⟨haleft, -⟩ := hseg.middle_not_mem
  have hsplit := hseg
  rw [List.append_assoc, List.singleton_append] at hsplit
  obtain ⟨hexs, heright⟩ := hsplit.middle_not_mem
  obtain ⟨-, m, node, hleft, hnode, hprev, hval, hnext⟩ := dseg_concat.1 hseg
  obtain ⟨rfl, -, prev, -, he, -, -, -⟩ := dseg_concat.1 hleft
  have hae : a ≠ e := fun he => haleft (by simp [he])
  have hleft' := hleft.relink_next hexs he
    (rfl : dplLinks.prev { prev with next := none } = dplLinks.prev prev) rfl
  refine ⟨node, _, hnode, hprev, hnext, hval, Heap.modify_some he _, ?_,
    ⟨some e, hleft'.frame_erase haleft⟩, ?_⟩
  · rw [Finmap.lookup_insert_of_ne _ hae, hnode]
  · intro a' ha'
    rw [← List.append_nil (xs ++ [(e, z)])]
    refine owned_erase _ _ x ?_ a' ha'
    intro a' ha'
    rcases Finmap.mem_insert.1 ha' with rfl | hmem
    · simp
    · exact h.owned a' hmem

/-- The pointer surgery takes out the node at the clamped index, which is still to be freed. -/
theorem Dplist.WellFormed.unlink (h : list.WellFormed (xs ++ (a, x) :: ys)) {index : ℤ}
    (hindex : clampIndex index ((xs ++ (a, x) :: ys).length - 1) = xs.length) :
    ∃ head heap node, list.unlink index = some (some a, { list with head, heap }) ∧
      heap.lookup a = some node ∧ node.element = x ∧
      ({ list with head, heap := heap.erase a } : Dplist E).WellFormed (xs ++ ys) := by
  unfold Dplist.unlink
  rw [h.size_eq]
  simp only [Option.bind_eq_bind, Option.bind_some]
  unfold clampIndex at hindex
  -- only node, first node, last node and a node in between, as the source has them
  rcases List.eq_nil_or_concat xs with rfl | ⟨xs, ⟨e, z⟩, rfl⟩
  · cases ys with
    | nil =>
        obtain ⟨last, -, node, hnode, -, hval, -⟩ := h.linked
        rw [if_neg (by simp), h.referenceAtIndex_eq]
        exact ⟨none, _, node, rfl, hnode, hval, h.remove_only⟩
    | cons cell ys =>
        obtain ⟨d, y⟩ := cell
        obtain ⟨node, heap, hnode, hnext, hval, hmodify, hnode', hwf⟩ := h.remove_front
        simp only [List.nil_append, List.length_cons, List.length_nil] at hindex h ⊢
        rw [if_pos (by omega), if_pos (by omega), h.referenceAtIndex_eq]
        have hzero : clampIndex 0 (((a, x) :: (d, y) :: ys).length - 1) = 0 := Nat.zero_min _
        simp only [hzero, List.getElem?_cons_zero, Option.map_some, Option.bind_some,
          Heap.load_some, hnode, hnext, ne_eq, reduceCtorEq, not_false_eq_true, if_true, hmodify]
        exact ⟨_, _, node, rfl, hnode', hval, hwf⟩
  · rw [List.concat_eq_append] at h hindex ⊢
    have hat : ((xs ++ [(e, z)]) ++ (a, x) :: ys)[(xs ++ [(e, z)]).length]? = some (a, x) := by
      rw [List.getElem?_append_right (Nat.le_refl _), Nat.sub_self]
      rfl
    have hlen : (1 : ℤ) < ((xs ++ [(e, z)]) ++ (a, x) :: ys).length := by
      simp only [List.length_append, List.length_cons, List.length_nil]
      omega
    have hpos : ¬ index ≤ 0 := fun hle => by
      rw [Int.toNat_of_nonpos hle, Nat.zero_min] at hindex
      simp at hindex
    rw [if_pos hlen, if_neg hpos, h.referenceAtIndex_eq, clampIndex, hindex, hat]
    cases ys with
    | nil =>
        obtain ⟨node, heap, hnode, hprev, hnext, hval, hmodify, hnode', hwf⟩ := h.remove_last
        simp only [Option.map_some, Option.bind_some, Heap.load_some, hnode, hnext, hprev, ne_eq,
          not_true_eq_false, if_false, hmodify]
        exact ⟨_, _, node, rfl, hnode', hval, by rwa [List.append_nil]⟩
    | cons cell ys =>
        obtain ⟨d, y⟩ := cell
        obtain ⟨node, heap₁, heap₂, hnode, hprev, hnext, hval, hmodify₁, hmodify₂, hnode', hwf⟩ :=
          h.remove_middle
        simp only [Option.map_some, Option.bind_some, Heap.load_some, hnode, hnext, hprev, ne_eq,
          reduceCtorEq, not_false_eq_true, if_true, hmodify₁, hmodify₂]
        exact ⟨_, _, node, rfl, hnode', hval, hwf⟩

end Remove

/-- **`dpl_remove_at_index`** erases the element at the index clamped to the list, and nothing of an
    empty list. What is erased is what may be passed to `element_free`. -/
theorem Dplist.WellFormed.removeAtIndex {list : Dplist E} {cells : List (Addr × E)}
    (h : list.WellFormed cells) (index : ℤ) (freeElement : Bool) :
    ∃ head heap freed, dplRemoveAtIndex list index freeElement
        = some { list with head, heap, freed } ∧
      ({ list with head, heap, freed } : Dplist E).WellFormed
        (cells.eraseIdx (clampIndex index (cells.length - 1))) ∧
      freed = list.freed ++ if freeElement = true then
        (cells[clampIndex index (cells.length - 1)]?.map Prod.snd).toList else [] := by
  unfold dplRemoveAtIndex
  by_cases hcells : cells = []
  · subst hcells
    rw [if_pos (h.head_eq_none.2 rfl)]
    exact ⟨_, _, _, rfl, h, by simp⟩
  rw [if_neg fun hhead => hcells (h.head_eq_none.1 hhead)]
  obtain ⟨xs, ⟨a, x⟩, ys, rfl, hlen⟩ := exists_split (clampIndex_lt hcells index)
  obtain ⟨head, heap, node, hunlink, hnode, hval, hwf⟩ := h.unlink hlen.symm
  have hat : (xs ++ (a, x) :: ys)[xs.length]? = some (a, x) := by simp
  rw [← hlen, eraseIdx_append_length, hunlink, hat]
  simp only [Option.bind_eq_bind, Option.bind_some, Heap.load_some, hnode]
  cases freeElement
  · simp only [Bool.false_eq_true, if_false, Heap.free_some hnode, Option.bind_some]
    exact ⟨_, _, _, rfl, ⟨hwf.linked, hwf.owned⟩, (List.append_nil _).symm⟩
  · simp only [if_true, Heap.free_some hnode, Option.bind_some]
    exact ⟨_, _, _, rfl, ⟨hwf.linked, hwf.owned⟩, by rw [hval]; rfl⟩

/-! ## The operators by reference and by element

They insert or remove at an index, or do nothing. -/

section References

variable {list : Dplist E} {cells : List (Addr × E)}

theorem Dplist.WellFormed.insertAtReference_none (h : list.WellFormed cells) (element : E)
    (insertCopy : Bool) (block : Ptr) :
    dplInsertAtReference list element none insertCopy block
      = dplInsertAtIndex list element cells.length insertCopy block := by
  unfold dplInsertAtReference
  rw [if_pos rfl, h.size_eq]
  rfl

theorem Dplist.WellFormed.insertAtReference_some (h : list.WellFormed cells) (element : E) (a : Addr)
    (insertCopy : Bool) (block : Ptr) :
    dplInsertAtReference list element (some a) insertCopy block
      = if cells.any (fun cell => cell.1 == a) = true then
          dplInsertAtIndex list element (cells.findIdx fun cell => cell.1 == a : ℕ) insertCopy block
        else some list := by
  unfold dplInsertAtReference
  rw [if_neg (by simp), h.indexOfReference_eq]
  exact ite_firstIndex _ _ (fun index => dplInsertAtIndex list element index insertCopy block) _

theorem Dplist.WellFormed.removeAtReference_none (h : list.WellFormed cells) (freeElement : Bool) :
    dplRemoveAtReference list none freeElement
      = dplRemoveAtIndex list ((cells.length : ℤ) - 1) freeElement := by
  unfold dplRemoveAtReference
  split
  · next hhead => exact (if_pos hhead).symm
  · rw [if_pos rfl, h.size_eq]
    rfl

theorem Dplist.WellFormed.removeAtReference_some (h : list.WellFormed cells) (a : Addr)
    (freeElement : Bool) :
    dplRemoveAtReference list (some a) freeElement
      = if cells.any (fun cell => cell.1 == a) = true then
          dplRemoveAtIndex list (cells.findIdx fun cell => cell.1 == a : ℕ) freeElement
        else some list := by
  unfold dplRemoveAtReference
  split
  · next hhead =>
      rw [h.head_eq_none.1 hhead]
      rfl
  · rw [if_neg (by simp), h.indexOfReference_eq]
    exact ite_firstIndex _ _ (fun index => dplRemoveAtIndex list index freeElement) _

theorem Dplist.WellFormed.removeElement_eq (h : list.WellFormed cells) (element : E)
    (freeElement : Bool) :
    dplRemoveElement list element freeElement
      = if cells.any (fun cell => list.elementCompare cell.2 element == 0) = true then
          dplRemoveAtIndex list
            (cells.findIdx fun cell => list.elementCompare cell.2 element == 0 : ℕ) freeElement
        else some list := by
  unfold dplRemoveElement
  split
  · next hhead =>
      rw [h.head_eq_none.1 hhead]
      rfl
  · rw [h.indexOfElement_eq]
    exact ite_firstIndex _ _ (fun index => dplRemoveAtIndex list index freeElement) _

end References

end SensorGateway
