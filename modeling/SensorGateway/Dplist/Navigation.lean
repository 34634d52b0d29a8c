import SensorGateway.Dplist.Runs

set_option autoImplicit false

/-! # References, indices and elements

The navigation operators of `lib/dplist.c`, and what all lookups have in common: each of them is a
position in the list. On a well-formed list a reference, the index that it is found at and the element
there denote the same node (`dplist_lookups_agree`). -/

namespace SensorGateway

variable {E : Type}

/-! ## The operators -/

/-- The loop of the lookups by reference, which also look at the links of a node. -/
def Dplist.scanNodes {ρ : Type} (list : Dplist E) (visit : Addr → DplNode E → ℤ → Option ρ)
    (atLast : Addr → DplNode E → ℤ → ρ) : Option ρ :=
  loop (scanBody DplNode.next list.heap visit atLast) list.heap.walkFuel (list.head, 0)

/-- `dpl_get_first_reference`. -/
def dplGetFirstReference (list : Dplist E) : Option Ptr :=
  if list.head = none then some none
  else some list.head

/-- `dpl_get_last_reference`. -/
def dplGetLastReference (list : Dplist E) : Option Ptr :=
  if list.head = none then some none
  else do
    let size ← dplSize list
    dplGetReferenceAtIndex list (size - 1)

/-- `dpl_get_next_reference`: it does not compare the last node with the reference. -/
def dplGetNextReference (list : Dplist E) (reference : Ptr) : Option Ptr :=
  if list.head = none ∨ reference = none then some none
  else
    list.scanNodes (fun dummy node _ => if some dummy = reference then some node.next else none)
      fun _ _ _ => none

/-- `dpl_get_previous_reference`. -/
def dplGetPreviousReference (list : Dplist E) (reference : Ptr) : Option Ptr :=
  if list.head = none then some none
  else if reference = none then do
    let size ← dplSize list
    dplGetReferenceAtIndex list (size - 1)
  else
    list.scanNodes (fun dummy node _ => if some dummy = reference then some node.prev else none)
      fun dummy node _ => if some dummy = reference then node.prev else none

/-- `dpl_get_element_at_reference`. -/
def dplGetElementAtReference (list : Dplist E) (reference : Ptr) : Option (Option E) :=
  if list.head = none then some none
  else if reference = none then do
    let size ← dplSize list
    dplGetElementAtIndex list (size - 1)
  else
    list.scanNodes
      (fun dummy node _ => if some dummy = reference then some (some node.element) else none)
      fun dummy node _ => if some dummy = reference then some node.element else none

/-- `dpl_get_reference_of_element`. -/
def dplGetReferenceOfElement (list : Dplist E) (element : E) : Option Ptr :=
  if list.head = none then some none
  else do
    let index ← dplGetIndexOfElement list element
    if index = -1 then return none
    else dplGetReferenceAtIndex list index

/-! ## Lookups by reference -/

section References

variable {list : Dplist E} {cells xs ys : List (Addr × E)} {a b : Addr} {x : E}

theorem Dplist.WellFormed.head_ne_none (h : list.WellFormed cells) (hne : cells ≠ []) :
    list.head ≠ none := fun hhead => hne (h.head_eq_none.1 hhead)

/-- **A lookup that also looks at the links is a recursion over the nodes**, whose links lead to the
    nodes next to them. -/
theorem Dplist.WellFormed.scanNodes_eq (h : list.WellFormed cells) (hne : cells ≠ []) :
    ∃ nodes : List (Addr × DplNode E), cells = nodes.map (fun cell => (cell.1, cell.2.element)) ∧
      (∀ xs a node ys, nodes = xs ++ (a, node) :: ys →
        node.next = ys.head?.map Prod.fst ∧ node.prev = xs.getLast?.map Prod.fst) ∧
      ∀ {ρ : Type} (visit : Addr → DplNode E → ℤ → Option ρ) atLast,
        list.scanNodes visit atLast = scanCells visit atLast nodes 0 := by
  obtain ⟨last, hseg⟩ := h.linked
  obtain ⟨nodes, hnodes, hcells⟩ := hseg.withCells
  refine ⟨nodes, hcells, ?_, ?_⟩
  · rintro xs a node ys rfl
    have hnode : list.heap.lookup a = some node := by
      obtain ⟨m, r, -, -, node', hnode', -, hval, -⟩ := dseg_append.1 hnodes
      rw [hnode']
      exact congrArg some hval
    obtain ⟨hnext, hprev⟩ := hnodes.links_eq hnode
    exact ⟨hnext, hprev.trans (Option.or_none)⟩
  · intro ρ visit atLast
    have hne' : nodes ≠ [] := fun hnil => hne (by rw [hcells, hnil]; rfl)
    exact hnodes.scan_eq hne' hnodes.length_lt_walkFuel.le 0

/-- **A lookup of a reference** of the list ends at its node, which has the nodes next to it as
    neighbours. The nodes are well linked, so it does not matter that some lookups do not look at the
    last node. -/
theorem Dplist.WellFormed.scanNodes_found {ρ : Type} (h : list.WellFormed (xs ++ (a, x) :: ys)) :
    ∃ node : DplNode E, node.next = ys.head?.map Prod.fst ∧ node.prev = xs.getLast?.map Prod.fst ∧
      node.element = x ∧
      ∀ (f : DplNode E → ρ) (atLast : Addr → DplNode E → ℤ → ρ),
        (ys = [] → ∀ i, atLast a node i = f node) →
        list.scanNodes (fun dummy node _ => if some dummy = some a then some (f node) else none) atLast
          = some (f node) := by
  obtain ⟨nodes, hcells, hlinks, hscan⟩ := h.scanNodes_eq (by simp)
  have hnodup := h.nodup
  rw [List.map_append, List.map_cons, List.nodup_middle, List.nodup_cons, List.mem_append, not_or]
    at hnodup
  obtain ⟨xs', rest, rfl, hxs, hrest⟩ := List.map_eq_append_iff.1 hcells.symm
  obtain ⟨⟨a', node⟩, ys', rfl, ha, hys⟩ := List.map_eq_cons_iff.1 hrest
  obtain ⟨rfl, rfl⟩ := Prod.mk.inj ha
  obtain ⟨hnext, hprev⟩ := hlinks xs' a' node ys' rfl
  refine ⟨node, ?_, ?_, rfl, fun f atLast hlast => ?_⟩
  · rw [hnext, ← hys, List.head?_map, Option.map_map]
    rfl
  · rw [hprev, ← hxs, List.getLast?_map, Option.map_map]
    rfl
  · rw [hscan]
    refine scanCells_found ?_ (fun _ => if_pos rfl) (fun hnil => hlast (by rw [← hys, hnil]; rfl)) 0
    intro cell hcell _
    refine if_neg fun he => hnodup.1.1 ?_
    rw [← Option.some.inj he, ← hxs, List.map_map]
    exact List.mem_map_of_mem hcell

/-- A lookup of anything else ends at the last node. -/
theorem Dplist.WellFormed.scanNodes_absent {ρ : Type} (h : list.WellFormed cells)
    (hne : cells ≠ []) (ha : a ∉ cells.map Prod.fst) {r : ρ} (f : DplNode E → ρ)
    (atLast : Addr → DplNode E → ℤ → ρ) (hlast : ∀ b node i, b ≠ a → atLast b node i = r) :
    list.scanNodes (fun dummy node _ => if some dummy = some a then some (f node) else none) atLast
      = some r := by
  obtain ⟨nodes, rfl, -, hscan⟩ := h.scanNodes_eq hne
  have hother : ∀ cell ∈ nodes, cell.1 ≠ a := by
    rintro cell hcell rfl
    refine ha ?_
    rw [List.map_map]
    exact List.mem_map_of_mem hcell
  rw [hscan]
  refine scanCells_absent (fun hnil => hne (by rw [hnil]; rfl)) ?_ ?_ 0
  · intro cell hcell _
    exact if_neg fun he => hother cell hcell (Option.some.inj he)
  · intro cell hcell i
    exact hlast _ _ i (hother cell hcell)

/-! ## Each operator -/

theorem Dplist.WellFormed.nextReference_eq (h : list.WellFormed (xs ++ (a, x) :: ys)) :
    dplGetNextReference list (some a) = some (ys.head?.map Prod.fst) := by
  obtain ⟨node, hnext, -, -, hscan⟩ := h.scanNodes_found (ρ := Ptr)
  unfold dplGetNextReference
  rw [if_neg (by simp [h.head_ne_none]), ← hnext]
  refine hscan DplNode.next _ ?_
  rintro rfl _
  exact hnext.symm

theorem Dplist.WellFormed.previousReference_eq (h : list.WellFormed (xs ++ (a, x) :: ys)) :
    dplGetPreviousReference list (some a) = some (xs.getLast?.map Prod.fst) := by
  obtain ⟨node, -, hprev, -, hscan⟩ := h.scanNodes_found (ρ := Ptr)
  unfold dplGetPreviousReference
  rw [if_neg (h.head_ne_none (by simp)), if_neg (by simp), ← hprev]
  exact hscan DplNode.prev _ fun _ _ => if_pos rfl

theorem Dplist.WellFormed.elementAtReference_eq (h : list.WellFormed (xs ++ (a, x) :: ys)) :
    dplGetElementAtReference list (some a) = some (some x) := by
  obtain ⟨node, -, -, rfl, hscan⟩ := h.scanNodes_found (ρ := Option E)
  unfold dplGetElementAtReference
  rw [if_neg (h.head_ne_none (by simp)), if_neg (by simp)]
  exact hscan (fun node => some node.element) _ fun _ _ => if_pos rfl

theorem Dplist.WellFormed.indexOfReference_split (h : list.WellFormed (xs ++ (a, x) :: ys)) :
    dplGetIndexOfReference list (some a) = some (xs.length : ℤ) := by
  have hnodup := h.nodup
  rw [List.map_append, List.map_cons, List.nodup_middle, List.nodup_cons, List.mem_append, not_or]
    at hnodup
  have hany : (xs ++ (a, x) :: ys).any (fun cell => cell.1 == a) = true := by simp
  have hbefore : ∀ cell ∈ xs, (cell.1 == a) = false := by
    intro cell hcell
    rw [beq_eq_false_iff_ne]
    exact fun he => hnodup.1.1 (List.mem_map.2 ⟨cell, hcell, he⟩)
  rw [h.indexOfReference_eq, (firstIndex_of_any hany).1,
    findIdx_append_cons ys hbefore (beq_self_eq_true a)]

/-- A reference that is not one of the list gives `NULL` and -1 everywhere. -/
theorem Dplist.WellFormed.reference_absent (h : list.WellFormed cells)
    (ha : a ∉ cells.map Prod.fst) :
    dplGetNextReference list (some a) = some none ∧ dplGetPreviousReference list (some a) = some none ∧
      dplGetElementAtReference list (some a) = some none ∧
      dplGetIndexOfReference list (some a) = some (-1) := by
  by_cases hcells : cells = []
  · have hhead := h.head_eq_none.2 hcells
    simp [dplGetNextReference, dplGetPreviousReference, dplGetElementAtReference,
      dplGetIndexOfReference, hhead]
  have hhead := h.head_ne_none hcells
  refine ⟨?_, ?_, ?_, ?_⟩
  · unfold dplGetNextReference
    rw [if_neg (by simp [hhead])]
    exact h.scanNodes_absent hcells ha DplNode.next _ fun _ _ _ _ => rfl
  · unfold dplGetPreviousReference
    rw [if_neg hhead, if_neg (by simp)]
    exact h.scanNodes_absent hcells ha DplNode.prev _ fun _ _ _ hb => if_neg (by simpa using hb)
  · unfold dplGetElementAtReference
    rw [if_neg hhead, if_neg (by simp)]
    exact h.scanNodes_absent hcells ha (fun node => some node.element) _ fun _ _ _ hb =>
      if_neg (by simpa using hb)
  · have hany : cells.any (fun cell => cell.1 == a) = false := by
      rw [List.any_eq_false]
      intro cell hcell he
      exact ha (beq_iff_eq.1 he ▸ List.mem_map_of_mem hcell)
    rw [h.indexOfReference_eq, firstIndex_of_not_any hany]

/-- The reference at an index of the list, and its node. -/
theorem Dplist.WellFormed.referenceAtIndex_split (h : list.WellFormed (xs ++ (a, x) :: ys)) :
    dplGetReferenceAtIndex list xs.length = some (some a) := by
  have hlt : xs.length < (xs ++ (a, x) :: ys).length := by
    rw [List.length_append, List.length_cons]
    omega
  rw [h.referenceAtIndex_eq, clampIndex_of_lt hlt, List.getElem?_append_right (Nat.le_refl _),
    Nat.sub_self]
  rfl

/-- The reference one before the cell at index `xs.length`. -/
theorem Dplist.WellFormed.referenceAtIndex_before (h : list.WellFormed (xs ++ ys)) (hxs : xs ≠ []) :
    dplGetReferenceAtIndex list (xs.length - 1) = some (xs.getLast?.map Prod.fst) := by
  rcases List.eq_nil_or_concat xs with rfl | ⟨xs, ⟨b, y⟩, rfl⟩
  · exact absurd rfl hxs
  · rw [List.concat_eq_append, List.append_assoc] at h
    have hindex : (((xs.concat (b, y)).length : ℤ) - 1) = xs.length := by
      simp
    rw [hindex, h.referenceAtIndex_split]
    simp

/-- The reference one behind the cell at index `xs.length`. -/
theorem Dplist.WellFormed.referenceAtIndex_behind (h : list.WellFormed (xs ++ (a, x) :: ys))
    (hys : ys ≠ []) :
    dplGetReferenceAtIndex list (xs.length + 1) = some (ys.head?.map Prod.fst) := by
  obtain ⟨⟨b, y⟩, ys, rfl⟩ := List.exists_cons_of_ne_nil hys
  rw [List.append_cons] at h
  have hindex : ((xs.length : ℤ) + 1) = (xs ++ [(a, x)]).length := by simp
  rw [hindex, h.referenceAtIndex_split]
  rfl

/-- **Next and previous are inverse to each other.** -/
theorem Dplist.WellFormed.next_iff_previous (h : list.WellFormed cells) (a b : Addr) :
    dplGetNextReference list (some a) = some (some b) ↔
      dplGetPreviousReference list (some b) = some (some a) := by
  constructor
  · intro hnext
    by_cases ha : a ∈ cells.map Prod.fst
    · obtain ⟨⟨a, x⟩, hcell, rfl⟩ := List.mem_map.1 ha
      obtain ⟨xs, ys, rfl⟩ := List.append_of_mem hcell
      rw [h.nextReference_eq, Option.some.injEq] at hnext
      cases ys with
      | nil => exact absurd hnext (by simp)
      | cons cell ys =>
          obtain ⟨b', y⟩ := cell
          obtain rfl : b' = b := Option.some.inj hnext
          rw [List.append_cons] at h
          rw [h.previousReference_eq, List.getLast?_append]
          rfl
    · rw [(h.reference_absent ha).1] at hnext
      exact absurd hnext (by simp)
  · intro hprev
    by_cases hb : b ∈ cells.map Prod.fst
    · obtain ⟨⟨b, y⟩, hcell, rfl⟩ := List.mem_map.1 hb
      obtain ⟨xs, ys, rfl⟩ := List.append_of_mem hcell
      rw [h.previousReference_eq, Option.some.injEq] at hprev
      rcases List.eq_nil_or_concat xs with rfl | ⟨xs, ⟨a', x⟩, rfl⟩
      · exact absurd hprev (by simp)
      · rw [List.concat_eq_append] at h hprev
        rw [List.getLast?_append] at hprev
        obtain rfl : a' = a := Option.some.inj hprev
        rw [List.append_assoc] at h
        exact h.nextReference_eq
    · rw [(h.reference_absent hb).2.1] at hprev
      exact absurd hprev (by simp)

/-- The reference of an element is the one at its index, the least one at which an element compares
    as equal. -/
theorem Dplist.WellFormed.referenceOfElement (h : list.WellFormed cells) (element : E) :
    ∃ index reference, dplGetIndexOfElement list element = some index ∧
      dplGetReferenceOfElement list element = some reference ∧ (reference = none ↔ index = -1) ∧
      (index = -1 → ∀ cell ∈ cells, list.elementCompare cell.2 element ≠ 0) ∧
      (index ≠ -1 → dplGetReferenceAtIndex list index = some reference ∧
        ∃ (k : ℕ) (cell : Addr × E), index = k ∧ cells[k]? = some cell ∧
          list.elementCompare cell.2 element = 0 ∧
          ∀ j < k, ∀ other, cells[j]? = some other → list.elementCompare other.2 element ≠ 0) := by
  have hindex := h.indexOfElement_eq element
  cases hany : cells.any fun cell => list.elementCompare cell.2 element == 0 with
  | false =>
      rw [firstIndex_of_not_any hany] at hindex
      refine ⟨-1, none, hindex, ?_, by simp, ?_, fun hne => absurd rfl hne⟩
      · unfold dplGetReferenceOfElement
        split
        · rfl
        · rw [hindex]
          rfl
      · intro _ cell hcell he
        exact absurd (List.any_eq_false.1 hany cell hcell) (by simp [he])
  | true =>
      obtain ⟨hfirst, hlt⟩ := firstIndex_of_any hany
      rw [hfirst] at hindex
      obtain ⟨k, hk⟩ : ∃ k, k = cells.findIdx fun cell => list.elementCompare cell.2 element == 0 :=
        ⟨_, rfl⟩
      have hlt : k < cells.length := hk ▸ hlt
      have hcell : cells[k]? = some cells[k] := List.getElem?_eq_getElem _
      have hreference : dplGetReferenceAtIndex list k = some (some cells[k].1) := by
        rw [h.referenceAtIndex_eq, clampIndex_of_lt hlt, hcell]
        rfl
      rw [← hk] at hindex
      refine ⟨k, some cells[k].1, hindex, ?_, ?_, ?_, fun _ => ⟨hreference, k,
        cells[k], rfl, hcell, ?_, ?_⟩⟩
      · unfold dplGetReferenceOfElement
        rw [if_neg (h.head_ne_none (List.ne_nil_of_length_pos (by omega))), hindex]
        simp only [Option.bind_eq_bind, Option.bind_some]
        rw [if_neg (by omega), hreference]
      · exact iff_of_false (by simp) (by omega)
      · exact fun hneg => absurd hneg (by omega)
      · subst hk
        exact beq_iff_eq.1 (List.findIdx_getElem (w := hlt))
      · intro j hj other hother he
        obtain ⟨_, rfl⟩ := List.getElem?_eq_some_iff.1 hother
        have hnot := List.not_of_lt_findIdx (hk ▸ hj)
        simp [he] at hnot

/-- **References, indices and elements agree.** On every well-formed list: the element at the reference
    at any index is the element at that index; a reference of the list has the index it is at, and the
    references next to it are those at the indices next to it; next and previous are inverse to each
    other; any other reference gives `NULL` and -1; the reference of an element is the one at its
    index, the least at which an element compares as equal; and the first and the last reference are
    those at 0 and at the size less 1. -/
theorem dplist_lookups_agree (h : list.WellFormed cells) :
    (∀ index, ∃ reference element, dplGetReferenceAtIndex list index = some reference ∧
        dplGetElementAtIndex list index = some element ∧
        dplGetElementAtReference list reference = some element) ∧
      (∀ index : ℤ, 0 ≤ index → index < cells.length →
        ∃ a, dplGetReferenceAtIndex list index = some (some a) ∧
          dplGetIndexOfReference list (some a) = some index ∧
          dplGetNextReference list (some a) = (if index = cells.length - 1 then some none
            else dplGetReferenceAtIndex list (index + 1)) ∧
          dplGetPreviousReference list (some a) = (if index = 0 then some none
            else dplGetReferenceAtIndex list (index - 1))) ∧
      (∀ a b, dplGetNextReference list (some a) = some (some b) ↔
        dplGetPreviousReference list (some b) = some (some a)) ∧
      (∀ a, a ∉ cells.map Prod.fst → dplGetNextReference list (some a) = some none ∧
        dplGetPreviousReference list (some a) = some none ∧
        dplGetElementAtReference list (some a) = some none ∧
        dplGetIndexOfReference list (some a) = some (-1)) ∧
      (∀ element, ∃ index reference, dplGetIndexOfElement list element = some index ∧
        dplGetReferenceOfElement list element = some reference ∧ (reference = none ↔ index = -1) ∧
        (index = -1 → ∀ cell ∈ cells, list.elementCompare cell.2 element ≠ 0) ∧
        (index ≠ -1 → dplGetReferenceAtIndex list index = some reference ∧
          ∃ (k : ℕ) (cell : Addr × E), index = k ∧ cells[k]? = some cell ∧
            list.elementCompare cell.2 element = 0 ∧
            ∀ j < k, ∀ other, cells[j]? = some other →
              list.elementCompare other.2 element ≠ 0)) ∧
      dplSize list = some (cells.length : ℤ) ∧
      dplGetFirstReference list = dplGetReferenceAtIndex list 0 ∧
      dplGetLastReference list = dplGetReferenceAtIndex list (cells.length - 1) := by
  refine ⟨?_, ?_, h.next_iff_previous, fun a => h.reference_absent, h.referenceOfElement, h.size_eq,
    ?_, ?_⟩
  · intro index
    refine ⟨_, _, h.referenceAtIndex_eq index, h.elementAtIndex_eq index, ?_⟩
    by_cases hcells : cells = []
    · subst hcells
      exact if_pos (h.head_eq_none.2 rfl)
    · obtain ⟨xs, ⟨a, x⟩, ys, rfl, hlen⟩ := exists_split (clampIndex_lt hcells index)
      rw [← hlen, List.getElem?_append_right (Nat.le_refl _), Nat.sub_self]
      exact h.elementAtReference_eq
  · intro index hnonneg hlt
    obtain ⟨xs, ⟨a, x⟩, ys, rfl, hlen⟩ := exists_split (by omega : index.toNat < cells.length)
    obtain rfl : index = xs.length := by omega
    refine ⟨a, h.referenceAtIndex_split, h.indexOfReference_split, ?_, ?_⟩
    · rw [h.nextReference_eq]
      split
      · next hlast =>
          obtain rfl : ys = [] := by
            rw [← List.length_eq_zero_iff]
            simp only [List.length_append, List.length_cons] at hlast
            omega
          rfl
      · next hlast =>
          rw [h.referenceAtIndex_behind]
          rintro rfl
          exact hlast (by simp)
    · rw [h.previousReference_eq]
      split
      · next hfirst =>
          obtain rfl : xs = [] := by
            rw [← List.length_eq_zero_iff]
            omega
          rfl
      · next hfirst =>
          rw [h.referenceAtIndex_before]
          rintro rfl
          exact hfirst rfl
  · unfold dplGetFirstReference
    rw [h.referenceAtIndex_eq, h.head_eq]
    cases cells with
    | nil => rfl
    | cons cell cells => rw [clampIndex, Int.toNat_zero, Nat.zero_min]; simp
  · unfold dplGetLastReference
    split
    · next hhead =>
        rw [h.head_eq_none.1 hhead, h.referenceAtIndex_eq, h.head_eq_none.1 hhead]
        rfl
    · rw [h.size_eq]
      rfl

end References

/-- After `exampleDplCalls` nothing follows the node at index 1. -/
theorem dplist_lookups_agree_example :
    ∃ a, dplGetReferenceAtIndex ((dplSystem (fun _ n => n) fun (m n : ℕ) => (m : ℤ) - n).after
        exampleDplCalls) 1 = some (some a) ∧
      dplGetNextReference ((dplSystem (fun _ n => n) fun (m n : ℕ) => (m : ℤ) - n).after
        exampleDplCalls) (some a) = some none := by
  have hrefines := dplSystem_after_refines (fun _ n => n) (fun (m n : ℕ) => (m : ℤ) - n)
    exampleDplCalls (by decide)
  obtain ⟨-, hindex, -⟩ := dplist_lookups_agree hrefines.wellFormed
  obtain ⟨a, hreference, -, hnext, -⟩ := hindex 1 (by decide) (by decide)
  exact ⟨a, hreference, hnext.trans (if_pos (by decide))⟩

end SensorGateway
