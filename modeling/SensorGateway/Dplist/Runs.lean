import SensorGateway.Dplist.Refinement

set_option autoImplicit false

/-! # All runs of the list operators

The documented meaning of a list is a sequence of references with their elements (`DplSeq`), and
`DplSeq.apply` is what `dplist.h` says that each operator does to it. Every run of the operators
from `dpl_create` does to the nodes what the documentation says, and never faults. -/

namespace SensorGateway

variable {E : Type}

/-- A call of an operator that changes the list; `block` is what `malloc` returns in it. -/
inductive DplCall (E : Type) where
  | insertAtIndex (element : E) (index : ℤ) (insertCopy : Bool) (block : Addr)
  | removeAtIndex (index : ℤ) (freeElement : Bool)
  | insertAtReference (element : E) (reference : Ptr) (insertCopy : Bool) (block : Addr)
  | removeAtReference (reference : Ptr) (freeElement : Bool)
  | removeElement (element : E) (freeElement : Bool)

/-- The block that the call allocates. -/
def DplCall.block : DplCall E → Ptr
  | .insertAtIndex _ _ _ block | .insertAtReference _ _ _ block => some block
  | .removeAtIndex .. | .removeAtReference .. | .removeElement .. => none

/-- Execute a call. -/
def Dplist.call (list : Dplist E) : DplCall E → Option (Dplist E)
  | .insertAtIndex element index insertCopy block =>
      dplInsertAtIndex list element index insertCopy (some block)
  | .removeAtIndex index freeElement => dplRemoveAtIndex list index freeElement
  | .insertAtReference element reference insertCopy block =>
      dplInsertAtReference list element reference insertCopy (some block)
  | .removeAtReference reference freeElement => dplRemoveAtReference list reference freeElement
  | .removeElement element freeElement => dplRemoveElement list element freeElement

/-- All runs of the operators on a list with the given callbacks; `malloc` returns free blocks. -/
def dplSystem (elementCopy : ℕ → E → E) (elementCompare : E → E → ℤ) :
    StepSystem (Dplist E) (DplCall E) where
  init := dplCreate elementCopy elementCompare
  step list call := if (list.heap.load call.block).isSome = true then none else list.call call

/-! ## The documented meaning -/

/-- References with their elements, and how often `element_copy` was called. -/
structure DplSeq (E : Type) where
  cells : List (Addr × E)
  copies : ℕ

section Meaning

variable (elementCopy : ℕ → E → E) (elementCompare : E → E → ℤ)

/-- Insert `element`, or a copy of it, at the index clamped to `[0, size]`. -/
def DplSeq.insert (s : DplSeq E) (element : E) (index : ℤ) (insertCopy : Bool) (block : Addr) :
    DplSeq E where
  cells := s.cells.insertIdx (clampIndex index s.cells.length)
    (block, if insertCopy = true then elementCopy s.copies element else element)
  copies := if insertCopy = true then s.copies + 1 else s.copies

/-- What the documentation says about each operator. -/
def DplSeq.apply (s : DplSeq E) : DplCall E → DplSeq E
  | .insertAtIndex element index insertCopy block =>
      s.insert elementCopy element index insertCopy block
  | .removeAtIndex index _ =>
      { s with cells := s.cells.eraseIdx (clampIndex index (s.cells.length - 1)) }
  | .insertAtReference element none insertCopy block =>
      s.insert elementCopy element s.cells.length insertCopy block
  | .insertAtReference element (some a) insertCopy block =>
      if s.cells.any (fun cell => cell.1 == a) = true then
        s.insert elementCopy element (s.cells.findIdx fun cell => cell.1 == a) insertCopy block
      else s
  | .removeAtReference none _ => { s with cells := s.cells.dropLast }
  | .removeAtReference (some a) _ => { s with cells := s.cells.eraseP fun cell => cell.1 == a }
  | .removeElement element _ =>
      { s with cells := s.cells.eraseP fun cell => elementCompare cell.2 element == 0 }

/-- The sequence after a run of calls on the empty list. -/
def dplMeaning (calls : List (DplCall E)) : DplSeq E :=
  calls.foldl (DplSeq.apply elementCopy elementCompare) ⟨[], 0⟩

end Meaning

/-! ## The refinement -/

section Refinement

variable {elementCopy : ℕ → E → E} {elementCompare : E → E → ℤ}

/-- The list has the callbacks and stands for the sequence. -/
structure DplRefines (elementCopy : ℕ → E → E) (elementCompare : E → E → ℤ) (list : Dplist E)
    (s : DplSeq E) : Prop where
  wellFormed : list.WellFormed s.cells
  copies_eq : list.copied.length = s.copies
  copy_eq : list.elementCopy = elementCopy
  compare_eq : list.elementCompare = elementCompare

variable {list : Dplist E} {s : DplSeq E}

theorem DplRefines.insertAtIndex (h : DplRefines elementCopy elementCompare list s) {block : Addr}
    (hblock : block ∉ list.heap) (element : E) (index : ℤ) (insertCopy : Bool) :
    ∃ list', dplInsertAtIndex list element index insertCopy (some block) = some list' ∧
      DplRefines elementCopy elementCompare list'
        (s.insert elementCopy element index insertCopy block) := by
  obtain ⟨head, heap, hins, hwf⟩ := h.wellFormed.insertAtIndex hblock element index insertCopy
  refine ⟨_, hins, ?_⟩
  cases insertCopy with
  | false => exact ⟨hwf, h.copies_eq, h.copy_eq, h.compare_eq⟩
  | true =>
      have hcopy : (list.newElement element true).1 = elementCopy s.copies element := by
        rw [← h.copy_eq, ← h.copies_eq]
        rfl
      rw [hcopy] at hwf
      refine ⟨hwf, ?_, h.copy_eq, h.compare_eq⟩
      show (list.copied ++ _).length = s.copies + 1
      rw [List.length_append, h.copies_eq]
      rfl

theorem DplRefines.removeAtIndex (h : DplRefines elementCopy elementCompare list s) (index : ℤ)
    (freeElement : Bool) :
    ∃ list', dplRemoveAtIndex list index freeElement = some list' ∧
      DplRefines elementCopy elementCompare list'
        { s with cells := s.cells.eraseIdx (clampIndex index (s.cells.length - 1)) } := by
  obtain ⟨head, heap, freed, hrem, hwf, -⟩ := h.wellFormed.removeAtIndex index freeElement
  exact ⟨_, hrem, hwf, h.copies_eq, h.copy_eq, h.compare_eq⟩

/-- Removing the first node that satisfies `P`. -/
theorem DplRefines.removeFirst (h : DplRefines elementCopy elementCompare list s)
    (P : Addr × E → Bool) (freeElement : Bool) :
    ∃ list', (if s.cells.any P = true then
          dplRemoveAtIndex list (s.cells.findIdx P : ℕ) freeElement else some list) = some list' ∧
      DplRefines elementCopy elementCompare list' { s with cells := s.cells.eraseP P } := by
  cases hP : s.cells.any P with
  | true =>
      obtain ⟨-, hlt⟩ := firstIndex_of_any hP
      rw [if_pos rfl, ← eraseIdx_findIdx hP]
      obtain ⟨list', hrem, hrefines⟩ := h.removeAtIndex (s.cells.findIdx P : ℕ) freeElement
      rw [clampIndex_of_lt hlt] at hrefines
      exact ⟨list', hrem, hrefines⟩
  | false =>
      have hnone : s.cells.eraseP P = s.cells := by
        rw [List.eraseP_eq_self_iff]
        simpa using hP
      rw [if_neg (by simp), hnone]
      exact ⟨list, rfl, h⟩

theorem DplRefines.insertAtReference (h : DplRefines elementCopy elementCompare list s)
    {block : Addr} (hblock : block ∉ list.heap) (element : E) (reference : Ptr)
    (insertCopy : Bool) :
    ∃ list', dplInsertAtReference list element reference insertCopy (some block) = some list' ∧
      DplRefines elementCopy elementCompare list'
        (s.apply elementCopy elementCompare
          (.insertAtReference element reference insertCopy block)) := by
  cases reference with
  | none =>
      rw [h.wellFormed.insertAtReference_none]
      exact h.insertAtIndex hblock element _ insertCopy
  | some a =>
      rw [h.wellFormed.insertAtReference_some, DplSeq.apply]
      split
      · exact h.insertAtIndex hblock element _ insertCopy
      · exact ⟨list, rfl, h⟩

theorem DplRefines.removeAtReference (h : DplRefines elementCopy elementCompare list s)
    (reference : Ptr) (freeElement : Bool) :
    ∃ list', dplRemoveAtReference list reference freeElement = some list' ∧
      DplRefines elementCopy elementCompare list'
        (s.apply elementCopy elementCompare (.removeAtReference reference freeElement)) := by
  cases reference with
  | none =>
      rw [h.wellFormed.removeAtReference_none]
      obtain ⟨list', hrem, hrefines⟩ := h.removeAtIndex ((s.cells.length : ℤ) - 1) freeElement
      have hclamp : clampIndex ((s.cells.length : ℤ) - 1) (s.cells.length - 1)
          = s.cells.length - 1 := by
        unfold clampIndex
        omega
      rw [hclamp, List.eraseIdx_length_sub_one] at hrefines
      exact ⟨list', hrem, hrefines⟩
  | some a =>
      rw [h.wellFormed.removeAtReference_some]
      exact h.removeFirst _ freeElement

theorem DplRefines.removeElement (h : DplRefines elementCopy elementCompare list s)
    (element : E) (freeElement : Bool) :
    ∃ list', dplRemoveElement list element freeElement = some list' ∧
      DplRefines elementCopy elementCompare list'
        (s.apply elementCopy elementCompare (.removeElement element freeElement)) := by
  rw [h.wellFormed.removeElement_eq, h.compare_eq]
  exact h.removeFirst _ freeElement

/-- **Every call does what its documentation says.** -/
theorem DplRefines.call (h : DplRefines elementCopy elementCompare list s) {call : DplCall E}
    (hblock : list.heap.load call.block = none) :
    ∃ list', list.call call = some list' ∧
      DplRefines elementCopy elementCompare list' (s.apply elementCopy elementCompare call) := by
  cases call with
  | insertAtIndex element index insertCopy block =>
      exact h.insertAtIndex (Finmap.lookup_eq_none.1 hblock) element index insertCopy
  | removeAtIndex index freeElement => exact h.removeAtIndex index freeElement
  | insertAtReference element reference insertCopy block =>
      exact h.insertAtReference (Finmap.lookup_eq_none.1 hblock) element reference insertCopy
  | removeAtReference reference freeElement => exact h.removeAtReference reference freeElement
  | removeElement element freeElement => exact h.removeElement element freeElement

theorem dplSystem_step_iff {call : DplCall E} {list' : Dplist E} :
    (dplSystem elementCopy elementCompare).step list call = some list' ↔
      list.heap.load call.block = none ∧ list.call call = some list' := by
  simp only [dplSystem]
  cases list.heap.load call.block <;> simp

/-- Every run stands for the meaning of its calls. -/
theorem dplSystem_refines {calls : List (DplCall E)}
    (h : (dplSystem elementCopy elementCompare).exec (dplCreate elementCopy elementCompare) calls
      = some list) :
    DplRefines elementCopy elementCompare list (dplMeaning elementCopy elementCompare calls) := by
  refine StepSystem.run_induction (T := dplSystem elementCopy elementCompare)
    (motive := fun calls list => DplRefines elementCopy elementCompare list
      (dplMeaning elementCopy elementCompare calls)) ?_ ?_ h
  · exact ⟨dplCreate_wellFormed _ _, rfl, rfl, rfl⟩
  · intro calls list call list' _ ih hstep
    obtain ⟨hblock, hcall⟩ := dplSystem_step_iff.1 hstep
    obtain ⟨list'', hcall', hrefines⟩ := ih.call hblock
    obtain rfl : list' = list'' := Option.some.inj (hcall.symm.trans hcall')
    unfold dplMeaning
    rw [List.foldl_append]
    exact hrefines

/-- A run stands for the meaning of its calls where it ends. -/
theorem dplSystem_after_refines (elementCopy : ℕ → E → E) (elementCompare : E → E → ℤ)
    (calls : List (DplCall E))
    (h : ((dplSystem elementCopy elementCompare).exec (dplCreate elementCopy elementCompare)
      calls).isSome = true) :
    DplRefines elementCopy elementCompare ((dplSystem elementCopy elementCompare).after calls)
      (dplMeaning elementCopy elementCompare calls) :=
  dplSystem_refines (StepSystem.exec_after h)

end Refinement

/-! ## The shape of the list -/

/-- The nodes linked from the head are `cells`, and their links are inverse to each other. -/
structure Dplist.Shape (list : Dplist E) (cells : List (Addr × E)) : Prop where
  chain : ∃ nodes, Seg DplNode.next list.heap list.head nodes none ∧
    cells = nodes.map fun node => (node.1, node.2.element)
  nodup : (cells.map Prod.fst).Nodup
  head_prev : ∀ node, list.heap.load list.head = some node → node.prev = none
  next_prev : ∀ a node b, list.heap.lookup a = some node → node.next = some b →
    ∃ node', list.heap.lookup b = some node' ∧ node'.prev = some a
  prev_next : ∀ a node b, list.heap.lookup a = some node → node.prev = some b →
    ∃ node', list.heap.lookup b = some node' ∧ node'.next = some a

theorem Dplist.WellFormed.shape {list : Dplist E} {cells : List (Addr × E)}
    (h : list.WellFormed cells) : list.Shape cells := by
  obtain ⟨last, hseg⟩ := h.linked
  have hmem : ∀ a node, list.heap.lookup a = some node → a ∈ cells.map Prod.fst :=
    fun a node hnode => h.owned a (Finmap.mem_of_lookup_eq_some hnode)
  refine ⟨?_, h.nodup, ?_, ?_, ?_⟩
  · obtain ⟨nodes, hnodes, hcells⟩ := hseg.forward
    exact ⟨nodes, hnodes, hcells⟩
  · intro node hnode
    cases cells with
    | nil =>
        rw [h.head_eq] at hnode
        exact absurd hnode (by simp)
    | cons cell rest =>
        obtain ⟨hhead, node', hnode', hprev, -⟩ := hseg
        rw [hhead, Heap.load_some] at hnode
        obtain rfl : node = node' := Option.some.inj (hnode.symm.trans hnode')
        exact hprev
  · intro a node b hnode hnext
    exact (hseg.linked (hmem a node hnode) hnode).1 b hnext
  · intro a node b hnode hprev
    have hne : node.prev ≠ none := by rw [hprev]; simp
    exact (hseg.linked (hmem a node hnode) hnode).2 b hprev hne

/-- **The list refines the documented sequence in every run.** After any calls on an empty list, the
    nodes are well linked in both directions and hold the sequence that the documentation says, and
    the next call, whatever its arguments, does not fault. -/
theorem dplist_refines_sequence {elementCopy : ℕ → E → E} {elementCompare : E → E → ℤ}
    {calls : List (DplCall E)} {list : Dplist E}
    (h : (dplSystem elementCopy elementCompare).exec (dplCreate elementCopy elementCompare) calls
      = some list) :
    list.Shape (dplMeaning elementCopy elementCompare calls).cells ∧
      list.elements = some ((dplMeaning elementCopy elementCompare calls).cells.map Prod.snd) ∧
      ∀ call : DplCall E, list.heap.load call.block = none →
        ∃ list', (dplSystem elementCopy elementCompare).step list call = some list' := by
  have hrefines := dplSystem_refines h
  refine ⟨hrefines.wellFormed.shape, hrefines.wellFormed.elements_eq, ?_⟩
  intro call hblock
  obtain ⟨list', hcall, -⟩ := hrefines.call hblock
  exact ⟨list', dplSystem_step_iff.2 ⟨hblock, hcall⟩⟩

/-- Elements are put at the end, in the middle, at the front and before a reference, and three are
    removed. -/
def exampleDplCalls : List (DplCall ℕ) :=
  [.insertAtIndex 10 99 false 1, .insertAtReference 20 none true 2, .insertAtIndex 30 1 false 3,
    .insertAtIndex 40 (-5) true 4, .insertAtReference 50 (some 3) false 5,
    .removeAtReference (some 1) true, .removeElement 40 true, .removeAtIndex 1 false,
    .insertAtReference 60 (some 1) true 6]

theorem dplist_refines_sequence_example :
    ((dplSystem (fun _ n => n) fun (m n : ℕ) => (m : ℤ) - n).after exampleDplCalls).elements
      = some [50, 20] :=
  (dplist_refines_sequence (StepSystem.exec_after (by decide))).2.1

end SensorGateway
