import SensorGateway.Library.DoublyLinked

set_option autoImplicit false

/-! # `lib/dplist.c`: the doubly linked list

The operators of the list library at the level of their pointers. An operation is `none` where the
source fails an `assert`, dereferences `NULL` or a freed node, or walks forever; `block` is what
`malloc` returns. Elements are non-NULL pointers of any type `E`; the callback `element_copy` may
return a new block each time, so it is given how often it was called before. Indices are C `int`s;
a list has fewer than `2^31` nodes, so no counter overflows. -/

namespace SensorGateway

variable {E : Type}

/-- `struct dplist_node`. -/
structure DplNode (E : Type) where
  prev : Ptr
  next : Ptr
  element : E

/-- `struct dplist`, with the heap of its nodes and what its callbacks were called for: the elements
    that `element_copy` returned and those that were passed to `element_free`. -/
structure Dplist (E : Type) where
  head : Ptr
  elementCopy : ℕ → E → E
  elementCompare : E → E → ℤ
  heap : Heap (DplNode E)
  copied : List E
  freed : List E

/-- The links of a node. -/
def dplLinks : Links (DplNode E) E := ⟨DplNode.prev, DplNode.next, DplNode.element⟩

/-- `dpl_create`, the allocation succeeding. -/
def dplCreate (elementCopy : ℕ → E → E) (elementCompare : E → E → ℤ) : Dplist E :=
  ⟨none, elementCopy, elementCompare, ∅, [], []⟩

/-! ## Lookups -/

/-- The loop of the lookups below, from the head with the counter at `start`. -/
def Dplist.scan {ρ : Type} (list : Dplist E) (visit : Addr → E → ℤ → Option ρ)
    (atLast : Addr → E → ℤ → ρ) (start : ℤ) : Option ρ :=
  loop (scanBody DplNode.next list.heap (fun a node => visit a node.element)
    fun a node => atLast a node.element) list.heap.walkFuel (list.head, start)

/-- `dpl_size`. -/
def dplSize (list : Dplist E) : Option ℤ :=
  if list.head = none then some 0
  else list.scan (fun _ _ _ => none) (fun _ _ count => count) 1

/-- `dpl_get_reference_at_index`. -/
def dplGetReferenceAtIndex (list : Dplist E) (index : ℤ) : Option Ptr :=
  if list.head = none then some none
  else
    list.scan (fun dummy _ count => if index ≤ count then some (some dummy) else none)
      (fun dummy _ _ => some dummy) 0

/-- `dpl_get_element_at_index`. -/
def dplGetElementAtIndex (list : Dplist E) (index : ℤ) : Option (Option E) :=
  if list.head = none then some none
  else
    list.scan (fun _ element count => if index ≤ count then some (some element) else none)
      (fun _ element _ => some element) 0

/-- `dpl_get_index_of_element`. -/
def dplGetIndexOfElement (list : Dplist E) (element : E) : Option ℤ :=
  if list.head = none then some (-1)
  else
    list.scan
      (fun _ x index => if list.elementCompare x element = 0 then some index else none)
      (fun _ x index => if list.elementCompare x element = 0 then index else -1) 0

/-- `dpl_get_index_of_reference`. -/
def dplGetIndexOfReference (list : Dplist E) (reference : Ptr) : Option ℤ :=
  if list.head = none then some (-1)
  else if reference = none then do
    let size ← dplSize list
    return size - 1
  else
    list.scan (fun dummy _ index => if some dummy = reference then some index else none)
      (fun dummy _ index => if some dummy = reference then index else -1) 0

/-! ## Inserting -/

/-- `insert_copy ? element_copy(element) : element`, recording the copy. -/
def Dplist.newElement (list : Dplist E) (element : E) (insertCopy : Bool) : E × Dplist E :=
  if insertCopy = true then
    let copy := list.elementCopy list.copied.length element
    (copy, { list with copied := list.copied ++ [copy] })
  else
    (element, list)

/-- The pointer surgery of `dpl_insert_at_index`: link the new node `listNode` into the list. -/
def Dplist.link (list : Dplist E) (listNode : Addr) (element : E) (index : ℤ) :
    Option (Dplist E) :=
  if list.head = none then
    some { list with head := some listNode, heap := list.heap.insert listNode ⟨none, none, element⟩ }
  else if index ≤ 0 then do
    let heap : Heap (DplNode E) := list.heap.insert listNode ⟨none, list.head, element⟩
    let heap ← heap.modify list.head fun node => { node with prev := some listNode }
    return { list with head := some listNode, heap }
  else do
    let refAtIndex ← dplGetReferenceAtIndex list index
    let ref ← list.heap.load refAtIndex
    let size ← dplSize list
    if index < size then
      let heap : Heap (DplNode E) := list.heap.insert listNode ⟨ref.prev, refAtIndex, element⟩
      let heap ← heap.modify ref.prev fun node => { node with next := some listNode }
      let heap ← heap.modify refAtIndex fun node => { node with prev := some listNode }
      return { list with heap }
    else if ref.next = none then
      let heap : Heap (DplNode E) := list.heap.insert listNode ⟨refAtIndex, none, element⟩
      let heap ← heap.modify refAtIndex fun node => { node with next := some listNode }
      return { list with heap }
    else
      -- `assert(ref_at_index->next == NULL)`
      none

/-- `dpl_insert_at_index`. -/
def dplInsertAtIndex (list : Dplist E) (element : E) (index : ℤ) (insertCopy : Bool)
    (block : Ptr) : Option (Dplist E) := do
  -- `assert(list_node != NULL)`
  let listNode ← block
  let (element, list) := list.newElement element insertCopy
  list.link listNode element index

/-- `dpl_insert_at_reference`. -/
def dplInsertAtReference (list : Dplist E) (element : E) (reference : Ptr) (insertCopy : Bool)
    (block : Ptr) : Option (Dplist E) :=
  if reference = none then do
    let size ← dplSize list
    dplInsertAtIndex list element size insertCopy block
  else do
    let index ← dplGetIndexOfReference list reference
    if index ≠ -1 then dplInsertAtIndex list element index insertCopy block
    else return list

/-! ## Removing -/

/-- The pointer surgery of `dpl_remove_at_index`: the node taken out, and the list without it. -/
def Dplist.unlink (list : Dplist E) (index : ℤ) : Option (Ptr × Dplist E) := do
  let size ← dplSize list
  if 1 < size then
    if index ≤ 0 then
      let dummy ← dplGetReferenceAtIndex list 0
      let node ← list.heap.load dummy
      if node.next ≠ none then
        let heap ← list.heap.modify node.next fun next => { next with prev := none }
        return (dummy, { list with head := node.next, heap })
      else
        return (dummy, { list with head := none })
    else
      let dummy ← dplGetReferenceAtIndex list index
      let node ← list.heap.load dummy
      if node.next ≠ none then
        let heap ← list.heap.modify node.next fun next => { next with prev := node.prev }
        let heap ← heap.modify node.prev fun prev => { prev with next := node.next }
        return (dummy, { list with heap })
      else
        let heap ← list.heap.modify node.prev fun prev => { prev with next := none }
        return (dummy, { list with heap })
  else
    let dummy ← dplGetReferenceAtIndex list 0
    return (dummy, { list with head := none })

/-- `dpl_remove_at_index`. -/
def dplRemoveAtIndex (list : Dplist E) (index : ℤ) (freeElement : Bool) : Option (Dplist E) :=
  if list.head = none then some list
  else do
    let (dummy, list) ← list.unlink index
    let node ← list.heap.load dummy
    let list := if freeElement = true then { list with freed := list.freed ++ [node.element] }
      else list
    let heap ← list.heap.free dummy
    return { list with heap }

/-- `dpl_remove_at_reference`. -/
def dplRemoveAtReference (list : Dplist E) (reference : Ptr) (freeElement : Bool) :
    Option (Dplist E) :=
  if list.head = none then some list
  else if reference = none then do
    let size ← dplSize list
    dplRemoveAtIndex list (size - 1) freeElement
  else do
    let index ← dplGetIndexOfReference list reference
    if index ≠ -1 then dplRemoveAtIndex list index freeElement
    else return list

/-- `dpl_remove_element`. -/
def dplRemoveElement (list : Dplist E) (element : E) (freeElement : Bool) : Option (Dplist E) :=
  if list.head = none then some list
  else do
    let index ← dplGetIndexOfElement list element
    if index ≠ -1 then dplRemoveAtIndex list index freeElement
    else return list

/-! ## Reading the list off -/

/-- The elements linked from the head, in order. -/
def Dplist.elements (list : Dplist E) : Option (List E) :=
  (walk DplNode.next list.heap list.heap.walkFuel list.head).map fun nodes =>
    nodes.map (·.2.element)

end SensorGateway
