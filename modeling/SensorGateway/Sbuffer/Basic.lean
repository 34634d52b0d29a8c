import SensorGateway.Config
import SensorGateway.Library.Heap

set_option autoImplicit false

/-! # `sbuffer.c`: the shared buffer

A singly linked list of measurements on the heap, with a read flag for each of the two managers. A
value of `Sbuffer` is a buffer that exists, so the `buffer == NULL` guards of the source have no
counterpart; an operation is `none` where the source dereferences `NULL` or a freed node or walks
forever. Each operation is one critical section under `mutex_buf`.

The two branches of `sbuffer_remove` for the data manager and the storage manager are the same code
over different flags; they are one definition with the reader as parameter. -/

namespace SensorGateway

variable {V : Type}

/-- `SBUFFER_FAILURE`, `SBUFFER_SUCCESS` and `SBUFFER_NO_DATA`. -/
inductive SbufferStatus where
  | failure
  | success
  | noData
deriving DecidableEq, Repr

/-- `sbuffer_node_t`. -/
structure SbufferNode (V : Type) where
  next : Ptr
  data : SensorData V
  datamgrReadStatus : Bool
  storagemgrReadStatus : Bool
deriving DecidableEq

/-- `struct sbuffer`, with the heap its nodes live on. -/
structure Sbuffer (V : Type) where
  head : Ptr
  tail : Ptr
  heap : Heap (SbufferNode V)

/-- The read flag of reader `r`. -/
def SbufferNode.readStatus (node : SbufferNode V) : Reader → Bool
  | .datamgr => node.datamgrReadStatus
  | .storagemgr => node.storagemgrReadStatus

/-- Set the read flag of reader `r`. -/
def SbufferNode.markRead (node : SbufferNode V) : Reader → SbufferNode V
  | .datamgr => { node with datamgrReadStatus := true }
  | .storagemgr => { node with storagemgrReadStatus := true }

/-- `sbuffer_init`, the allocation succeeding. -/
def sbufferInit : Sbuffer V := ⟨none, none, ∅⟩

/-- `sbuffer_get_first_node`. -/
def sbufferGetFirstNode (b : Sbuffer V) : Ptr := b.head

/-! ## `sbuffer_remove` -/

/-- How the search for the first node that the reader has not read ends. -/
inductive Scan where
  | found (dummy : Ptr)
  | noData

/-- The body of `while(dummy != NULL)` in `sbuffer_remove`. -/
def scanUnread (r : Reader) (heap : Heap (SbufferNode V)) (dummy : Ptr) :
    Option (LoopStep Ptr Scan) :=
  if dummy = none then
    some (.exit (.found none))
  else do
    let node ← heap.load dummy
    if node.readStatus r = false then
      some (.exit (.found dummy))
    else if node.next = none then
      some (.exit .noData)
    else
      some (.next node.next)

/-- The return code of `sbuffer_remove`, what `*data` holds afterwards, and the buffer. -/
structure RemoveResult (V : Type) where
  status : SbufferStatus
  data : SensorData V
  buffer : Sbuffer V

/-- The deletion at the end of `sbuffer_remove`: unlink the head, then `free(dummy)`. -/
def deleteRead (b : Sbuffer V) (dummy : Ptr) : Option (Sbuffer V) := do
  let unlinked ←
    if b.head = b.tail then
      some { b with head := none, tail := none }
    else do
      let first ← b.heap.load b.head
      some { b with head := first.next }
  let heap ← unlinked.heap.free dummy
  return { unlinked with heap }

/-- One of the two reader branches of `sbuffer_remove`, with the deletion that follows it. -/
def removeUnread (r : Reader) (b : Sbuffer V) (data : SensorData V) :
    Option (RemoveResult V) := do
  match ← loop (scanUnread r b.heap) b.heap.walkFuel b.head with
  | .noData => return ⟨.noData, data, b⟩
  | .found dummy =>
      let node ← b.heap.load dummy
      let heap ← b.heap.modify dummy (·.markRead r)
      let marked ← heap.load dummy
      if marked.datamgrReadStatus = true ∧ marked.storagemgrReadStatus = true then
        let b' ← deleteRead { b with heap } dummy
        return ⟨.success, node.data, b'⟩
      else
        return ⟨.success, node.data, { b with heap }⟩

/-- `sbuffer_remove(buffer, data)` called by thread `self`, `*data` holding `data`. -/
def sbufferRemove (b : Sbuffer V) (self : Thread) (data : SensorData V) :
    Option (RemoveResult V) :=
  if b.head = none then
    some ⟨.noData, data, b⟩
  else
    match self with
    | .datamgr => removeUnread .datamgr b data
    | .storagemgr => removeUnread .storagemgr b data
    | _ => some ⟨.failure, data, b⟩

/-! ## `sbuffer_insert` -/

/-- `sbuffer_insert(buffer, data)`, `malloc` returning `block`. -/
def sbufferInsert (b : Sbuffer V) (data : SensorData V) (block : Ptr) :
    Option (SbufferStatus × Sbuffer V) :=
  match block with
  | none => some (.failure, b)
  | some a =>
      let heap : Heap (SbufferNode V) := b.heap.insert a ⟨none, data, false, false⟩
      if b.tail = none then
        some (.success, ⟨some a, some a, heap⟩)
      else do
        let heap ← heap.modify b.tail fun node => { node with next := some a }
        let last ← heap.load b.tail
        return (.success, ⟨b.head, last.next, heap⟩)

/-! ## Reading the list off -/

/-- The nodes linked from `head`, as `sbuffer_print_data` walks them. -/
def Sbuffer.nodes (b : Sbuffer V) : Option (List (Addr × SbufferNode V)) :=
  walk SbufferNode.next b.heap b.heap.walkFuel b.head

/-- The measurements linked from `head`. -/
def Sbuffer.linked (b : Sbuffer V) : Option (List (SensorData V)) :=
  b.nodes.map fun cells => cells.map (·.2.data)

/-- The linked measurements that reader `r` has not read. -/
def Sbuffer.unread (b : Sbuffer V) (r : Reader) : Option (List (SensorData V)) :=
  b.nodes.map fun cells => (cells.filter fun c => !c.2.readStatus r).map (·.2.data)

end SensorGateway
