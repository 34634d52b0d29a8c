import SensorGateway.Dplist.Sorted

set_option autoImplicit false

/-! # Who owns the elements

If every insertion takes a copy and every removal frees, the list owns its elements: what
`element_copy` returned is what was passed to `element_free` and what is stored, each as often
(`Dplist.Balanced`). Every operator either does nothing or inserts one copy or erases one element at
some index, so the two cases `insertAtIndex` and `removeAtIndex` carry the proof; `dpl_insert_sorted`
only permutes what is stored before it inserts. -/

namespace SensorGateway

variable {E : Type}

/-! ## All operators, and `dpl_free` -/

/-- A call of any operator that changes the list; `block` is what `malloc` returns in it. -/
inductive DplOp (E : Type) where
  | call (call : DplCall E)
  | insertSorted (element : E) (insertCopy : Bool) (block : Addr)

/-- The block that the operator allocates. -/
def DplOp.block : DplOp E → Ptr
  | .call c => c.block
  | .insertSorted _ _ block => some block

/-- Execute an operator. -/
def Dplist.op (list : Dplist E) : DplOp E → Option (Dplist E)
  | .call c => list.call c
  | .insertSorted element insertCopy block =>
      dplInsertSorted list element insertCopy (some block)

/-- All runs of all operators on a list with the given callbacks; `malloc` returns free blocks. -/
def dplOpSystem (elementCopy : ℕ → E → E) (elementCompare : E → E → ℤ) :
    StepSystem (Dplist E) (DplOp E) where
  init := dplCreate elementCopy elementCompare
  step list op := if (list.heap.load op.block).isSome = true then none else list.op op

/-- Insertions take a copy, and removals free. -/
def DplOp.Owning : DplOp E → Prop
  | .call (.insertAtIndex _ _ insertCopy _) | .call (.insertAtReference _ _ insertCopy _)
  | .insertSorted _ insertCopy _ => insertCopy = true
  | .call (.removeAtIndex _ freeElement) | .call (.removeAtReference _ freeElement)
  | .call (.removeElement _ freeElement) => freeElement = true

/-- The variables of `dpl_free`, with what was passed to `element_free`. -/
structure FreeLoop (E : Type) where
  heap : Heap (DplNode E)
  thisNode : Ptr
  freed : List E

/-- The body of the loop of `dpl_free`. -/
def freeBody (freeElement : Bool) (s : FreeLoop E) :
    Option (LoopStep (FreeLoop E) (Heap (DplNode E) × List E)) :=
  if s.thisNode = none then some (.exit (s.heap, s.freed))
  else do
    let node ← s.heap.load s.thisNode
    let freed := if freeElement = true then s.freed ++ [node.element] else s.freed
    let heap ← s.heap.free s.thisNode
    return .next ⟨heap, node.next, freed⟩

/-- `dpl_free`: the nodes that are left, and what was passed to `element_free` until then. -/
def dplFree (list : Dplist E) (freeElement : Bool) : Option (Heap (DplNode E) × List E) :=
  loop (freeBody freeElement) list.heap.walkFuel ⟨list.heap, list.head, list.freed⟩

/-! ## Freeing the list -/

section Free

variable {h : Heap (DplNode E)} {b p l : Ptr} {cells : List (Addr × E)}

/-- `dpl_free` frees the nodes from `this_node` on. -/
theorem loop_freeBody (hs : DSeg dplLinks h b p cells l none) {fuel : ℕ}
    (hfuel : cells.length < fuel) (freed : List E) :
    ∃ heap, loop (freeBody true) fuel ⟨h, p, freed⟩ = some (heap, freed ++ cells.map Prod.snd) ∧
      ∀ a ∈ heap, a ∈ h ∧ a ∉ cells.map Prod.fst := by
  induction cells generalizing h b p fuel freed with
  | nil =>
      obtain ⟨fuel, rfl⟩ : ∃ k, fuel = k + 1 := ⟨fuel - 1, by omega⟩
      obtain rfl : p = none := hs.2
      have hbody : freeBody true ⟨h, none, freed⟩ = some (.exit (h, freed)) := if_pos rfl
      rw [loop_exit hbody, List.map_nil, List.append_nil]
      exact ⟨h, rfl, fun a ha => ⟨ha, List.not_mem_nil⟩⟩
  | cons cell rest ih =>
      obtain ⟨a, x⟩ := cell
      have hfresh := (List.nodup_cons.1 hs.nodup).1
      obtain ⟨rfl, node, hnode, -, rfl, hrest⟩ := hs
      obtain ⟨fuel, rfl⟩ : ∃ k, fuel = k + 1 := ⟨fuel - 1, by omega⟩
      have hbody : freeBody true ⟨h, some a, freed⟩
          = some (.next ⟨h.erase a, node.next, freed ++ [node.element]⟩) := by
        simp [freeBody, hnode, Heap.free_some hnode]
      obtain ⟨heap, hloop, hheap⟩ := ih (hrest.frame_erase hfresh) (by simpa using hfuel)
        (freed ++ [node.element])
      refine ⟨heap, ?_, ?_⟩
      · rw [loop_next hbody]
        refine hloop.trans ?_
        rw [List.append_assoc]
        rfl
      · intro a' ha'
        obtain ⟨hmem, hnot⟩ := hheap a' ha'
        obtain ⟨hne, hmem⟩ := Finmap.mem_erase.1 hmem
        exact ⟨hmem, by simp [hne, hnot]⟩

end Free

/-- `dpl_free` frees every node, and passes the elements to `element_free` in order. -/
theorem Dplist.WellFormed.free_eq {list : Dplist E} {cells : List (Addr × E)}
    (hwf : list.WellFormed cells) :
    dplFree list true = some (∅, list.freed ++ cells.map Prod.snd) := by
  obtain ⟨last, hseg⟩ := hwf.linked
  obtain ⟨heap, hloop, hheap⟩ := loop_freeBody hseg hseg.length_lt_walkFuel list.freed
  have hempty : heap = ∅ := by
    refine Finmap.ext_lookup fun a => ?_
    rw [Finmap.lookup_empty]
    refine Finmap.lookup_eq_none.2 fun hmem => ?_
    obtain ⟨hmem, hnot⟩ := hheap a hmem
    exact hnot (hwf.owned a hmem)
  rw [← hempty]
  exact hloop

/-! ## The balance -/

/-- What was copied is what was freed and what is stored. -/
def Dplist.Balanced (list : Dplist E) : Prop :=
  ∃ cells, list.WellFormed cells ∧ list.copied.Perm (list.freed ++ cells.map Prod.snd)

section Balance

variable {list : Dplist E} {cells cells' : List (Addr × E)} {freed copied : List E}

/-- A copy that is put among the stored elements keeps the balance. -/
theorem balance_insert {copy : E} {block : Addr} {k : ℕ} (hk : k ≤ cells'.length)
    (hcells : (cells'.map Prod.snd).Perm (cells.map Prod.snd))
    (hbalance : copied.Perm (freed ++ cells.map Prod.snd)) :
    (copied ++ [copy]).Perm (freed ++ (cells'.insertIdx k (block, copy)).map Prod.snd) := by
  have hnew : ((cells'.insertIdx k (block, copy)).map Prod.snd).Perm (copy :: cells.map Prod.snd) :=
    ((List.perm_insertIdx _ cells' hk).map Prod.snd).trans (hcells.cons copy)
  calc (copied ++ [copy]).Perm (copy :: copied) := List.perm_append_singleton copy copied
    _ |>.Perm (copy :: (freed ++ cells.map Prod.snd)) := hbalance.cons copy
    _ |>.Perm (freed ++ copy :: cells.map Prod.snd) := List.perm_middle.symm
    _ |>.Perm _ := hnew.symm.append_left freed

/-- So does an element that is erased and freed. -/
theorem balance_erase {k : ℕ} (hbalance : copied.Perm (freed ++ cells.map Prod.snd)) :
    copied.Perm ((freed ++ (cells[k]?.map Prod.snd).toList) ++ (cells.eraseIdx k).map Prod.snd) := by
  by_cases hk : k < cells.length
  · obtain ⟨xs, ⟨a, x⟩, ys, rfl, rfl⟩ := exists_split hk
    have hat : (xs ++ (a, x) :: ys)[xs.length]? = some (a, x) := by simp
    rw [hat, eraseIdx_append_length, List.append_assoc]
    rw [List.map_append, List.map_cons] at hbalance
    rw [List.map_append]
    exact hbalance.trans (List.perm_middle.append_left freed)
  · rw [List.getElem?_eq_none (by omega), List.eraseIdx_of_length_le (by omega)]
    simpa using hbalance

theorem Dplist.Balanced.insertAtIndex (h : list.Balanced) {block : Addr} (hblock : block ∉ list.heap)
    (element : E) (index : ℤ) :
    ∃ list', dplInsertAtIndex list element index true (some block) = some list' ∧
      list'.Balanced := by
  obtain ⟨cells, hwf, hbalance⟩ := h
  obtain ⟨head, heap, hins, hwf'⟩ := hwf.insertAtIndex hblock element index true
  exact ⟨_, hins, _, hwf', balance_insert (Nat.min_le_right ..) (List.Perm.refl _) hbalance⟩

theorem Dplist.Balanced.insertSorted (h : list.Balanced) {block : Addr} (hblock : block ∉ list.heap)
    (element : E) :
    ∃ list', dplInsertSorted list element true (some block) = some list' ∧ list'.Balanced := by
  obtain ⟨cells, hwf, hbalance⟩ := id h
  by_cases hne : cells = []
  · have hempty : dplInsertSorted list element true (some block)
        = dplInsertAtIndex list element 0 true (some block) :=
      if_pos (hwf.head_eq_none.2 hne)
    rw [hempty]
    exact h.insertAtIndex hblock element 0
  · obtain ⟨sorted, cells', index, head, heap, -, -, hvals, -, hins, hwf'⟩ :=
      hwf.insertSorted (fun _ => list.elementCompare) hne hblock element true
    have hperm : (cells'.map Prod.snd).Perm (cells.map Prod.snd) := by
      rw [hvals]
      exact bubbleSort_perm _ _ _ _
    exact ⟨_, hins, _, hwf', balance_insert (Nat.min_le_right ..) hperm hbalance⟩

theorem Dplist.Balanced.removeAtIndex (h : list.Balanced) (index : ℤ) :
    ∃ list', dplRemoveAtIndex list index true = some list' ∧ list'.Balanced := by
  obtain ⟨cells, hwf, hbalance⟩ := h
  obtain ⟨head, heap, freed, hrem, hwf', rfl⟩ := hwf.removeAtIndex index true
  exact ⟨_, hrem, _, hwf', balance_erase hbalance⟩

theorem Dplist.Balanced.insertAtReference (h : list.Balanced) {block : Addr}
    (hblock : block ∉ list.heap) (element : E) (reference : Ptr) :
    ∃ list', dplInsertAtReference list element reference true (some block) = some list' ∧
      list'.Balanced := by
  obtain ⟨cells, hwf, -⟩ := id h
  cases reference with
  | none =>
      rw [hwf.insertAtReference_none]
      exact h.insertAtIndex hblock element _
  | some a =>
      rw [hwf.insertAtReference_some]
      split
      · exact h.insertAtIndex hblock element _
      · exact ⟨list, rfl, h⟩

theorem Dplist.Balanced.removeAtReference (h : list.Balanced) (reference : Ptr) :
    ∃ list', dplRemoveAtReference list reference true = some list' ∧ list'.Balanced := by
  obtain ⟨cells, hwf, -⟩ := id h
  cases reference with
  | none =>
      rw [hwf.removeAtReference_none]
      exact h.removeAtIndex _
  | some a =>
      rw [hwf.removeAtReference_some]
      split
      · exact h.removeAtIndex _
      · exact ⟨list, rfl, h⟩

theorem Dplist.Balanced.removeElement (h : list.Balanced) (element : E) :
    ∃ list', dplRemoveElement list element true = some list' ∧ list'.Balanced := by
  obtain ⟨cells, hwf, -⟩ := id h
  rw [hwf.removeElement_eq]
  split
  · exact h.removeAtIndex _
  · exact ⟨list, rfl, h⟩

/-- **Every owning operator keeps the balance** and does not fault. -/
theorem Dplist.Balanced.op (h : list.Balanced) {op : DplOp E} (howning : op.Owning)
    (hblock : list.heap.load op.block = none) : ∃ list', list.op op = some list' ∧ list'.Balanced := by
  cases op with
  | insertSorted element insertCopy block =>
      obtain rfl : insertCopy = true := howning
      exact h.insertSorted (Finmap.lookup_eq_none.1 hblock) element
  | call c =>
      cases c with
      | insertAtIndex element index insertCopy block =>
          obtain rfl : insertCopy = true := howning
          exact h.insertAtIndex (Finmap.lookup_eq_none.1 hblock) element index
      | insertAtReference element reference insertCopy block =>
          obtain rfl : insertCopy = true := howning
          exact h.insertAtReference (Finmap.lookup_eq_none.1 hblock) element reference
      | removeAtIndex index freeElement =>
          obtain rfl : freeElement = true := howning
          exact h.removeAtIndex index
      | removeAtReference reference freeElement =>
          obtain rfl : freeElement = true := howning
          exact h.removeAtReference reference
      | removeElement element freeElement =>
          obtain rfl : freeElement = true := howning
          exact h.removeElement element

/-- `dpl_free` frees everything that is not freed yet. -/
theorem Dplist.Balanced.free (h : list.Balanced) :
    ∃ freed, dplFree list true = some (∅, freed) ∧ freed.Perm list.copied := by
  obtain ⟨cells, hwf, hbalance⟩ := h
  obtain ⟨last, hseg⟩ := hwf.linked
  obtain ⟨heap, hloop, hheap⟩ := loop_freeBody hseg hseg.length_lt_walkFuel list.freed
  have hempty : heap = ∅ := by
    refine Finmap.ext_lookup fun a => ?_
    rw [Finmap.lookup_empty]
    refine Finmap.lookup_eq_none.2 fun hmem => ?_
    obtain ⟨hmem, hnot⟩ := hheap a hmem
    exact hnot (hwf.owned a hmem)
  subst hempty
  exact ⟨_, hloop, hbalance.symm⟩

end Balance

/-! ## All runs -/

section Runs

variable {elementCopy : ℕ → E → E} {elementCompare : E → E → ℤ} {list : Dplist E}

theorem dplOpSystem_step_iff {op : DplOp E} {list' : Dplist E} :
    (dplOpSystem elementCopy elementCompare).step list op = some list' ↔
      list.heap.load op.block = none ∧ list.op op = some list' := by
  simp only [dplOpSystem]
  cases list.heap.load op.block <;> simp

theorem dplOpSystem_balanced {ops : List (DplOp E)}
    (h : (dplOpSystem elementCopy elementCompare).exec (dplCreate elementCopy elementCompare) ops
      = some list) (howning : ∀ op ∈ ops, op.Owning) : list.Balanced := by
  refine StepSystem.run_induction (T := dplOpSystem elementCopy elementCompare)
    (motive := fun ops list => (∀ op ∈ ops, op.Owning) → list.Balanced) ?_ ?_ h howning
  · exact fun _ => ⟨[], dplCreate_wellFormed _ _, List.Perm.refl _⟩
  · intro ops list op list' _ ih hstep howning
    obtain ⟨hblock, hop⟩ := dplOpSystem_step_iff.1 hstep
    obtain ⟨list'', hop', hbalanced⟩ :=
      (ih fun op hmem => howning op (List.mem_append_left _ hmem)).op
        (howning op (by simp)) hblock
    obtain rfl : list' = list'' := Option.some.inj (hop.symm.trans hop')
    exact hbalanced

/-- **The elements balance in every run** whose insertions copy and whose removals free: what was
    copied is what was freed and what is stored. The next such operator does not fault, and
    `dpl_free` leaves no node and frees the rest, so that each copy was freed once. -/
theorem element_ownership_balances {ops : List (DplOp E)}
    (h : (dplOpSystem elementCopy elementCompare).exec (dplCreate elementCopy elementCompare) ops
      = some list) (howning : ∀ op ∈ ops, op.Owning) :
    (∃ elements, list.elements = some elements ∧
      (list.copied : Multiset E) = (list.freed : Multiset E) + (elements : Multiset E)) ∧
    (∀ op : DplOp E, op.Owning → list.heap.load op.block = none →
      ∃ list', (dplOpSystem elementCopy elementCompare).step list op = some list') ∧
    ∃ freed, dplFree list true = some (∅, freed) ∧
      (freed : Multiset E) = (list.copied : Multiset E) := by
  have hbalanced := dplOpSystem_balanced h howning
  refine ⟨?_, ?_, ?_⟩
  · obtain ⟨cells, hwf, hbalance⟩ := id hbalanced
    refine ⟨_, hwf.elements_eq, ?_⟩
    rw [Multiset.coe_add]
    exact Multiset.coe_eq_coe.2 hbalance
  · intro op howning hblock
    obtain ⟨list', hop, -⟩ := hbalanced.op howning hblock
    exact ⟨list', dplOpSystem_step_iff.2 ⟨hblock, hop⟩⟩
  · obtain ⟨freed, hfree, hperm⟩ := hbalanced.free
    exact ⟨freed, hfree, Multiset.coe_eq_coe.2 hperm⟩

end Runs

/-- Copies 10, 105 and 207 are inserted, the second of them is removed, and two removals find nothing
    to remove. -/
def exampleDplOps : List (DplOp ℕ) :=
  [.call (.removeAtIndex 3 true), .call (.insertAtIndex 10 (-1) true 1), .insertSorted 5 true 2,
    .call (.insertAtReference 7 none true 3), .call (.removeElement 105 true),
    .call (.removeAtReference (some 9) true)]

theorem element_ownership_balances_example :
    ∃ freed, dplFree ((dplOpSystem (fun n x => 100 * n + x) fun (m n : ℕ) =>
        ((m : ℤ) - n).sign).after exampleDplOps) true = some (∅, freed) ∧
      (freed : Multiset ℕ) = {10, 105, 207} := by
  exact (element_ownership_balances (StepSystem.exec_after (by decide))
    (by simp [exampleDplOps, DplOp.Owning])).2.2

end SensorGateway
