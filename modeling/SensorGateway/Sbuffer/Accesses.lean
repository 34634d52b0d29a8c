import SensorGateway.Sbuffer.Refinement

set_option autoImplicit false

/-! # The accesses of the buffer functions

The functions of `sbuffer.c` that threads call under `mutex_buf`, one access to the buffer at a time:
reading or writing `head` or `tail`, reading or writing a node, `malloc` and `free`. A program counter
names the access that comes next. Made without interruption the accesses are the functions of
`Sbuffer.Basic` (`getFirstNode_returns`, `remove_returns`, `insert_returns`). -/

namespace SensorGateway

variable {V : Type}

/-! ## `sbuffer_get_first_node` -/

inductive FirstPc where
  /-- `if(buffer -> head == NULL)` -/
  | empty
  /-- `return buffer -> head` -/
  | head
  | done (first : Ptr)

def firstAccess : FirstPc × Sbuffer V → Option (LoopStep (FirstPc × Sbuffer V) (Ptr × Sbuffer V))
  | (.empty, b) => some (.next (if b.head = none then .done none else .head, b))
  | (.head, b) => some (.next (.done b.head, b))
  | (.done first, b) => some (.exit (first, b))

/-! ## `sbuffer_remove` -/

inductive RemovePc where
  /-- `if (buffer->head == NULL)` -/
  | empty
  /-- `dummy = buffer -> head` -/
  | first
  /-- `while(dummy != NULL)` and the read status of `dummy` -/
  | status
  /-- `if(dummy -> next == NULL)` -/
  | last
  /-- `dummy = dummy -> next` -/
  | advance
  /-- `*data = dummy -> data` -/
  | copy
  /-- setting the read status of `dummy` -/
  | mark
  /-- `(dummy -> datamgr_read_status) == true` -/
  | readByDatamgr
  /-- `(dummy -> storagemgr_read_status) == true` -/
  | readByStoragemgr
  /-- `if (buffer->head == buffer->tail)` -/
  | single
  /-- `buffer->tail = NULL` -/
  | clearTail
  /-- `buffer->head = NULL` -/
  | clearHead
  /-- `buffer->head = buffer->head->next` -/
  | unlink
  /-- `free(dummy)` -/
  | free
  | done (status : SbufferStatus)
deriving DecidableEq, Repr

/-- The variables of a call: `dummy` and what `*data` holds. -/
structure RemoveFrame (V : Type) where
  pc : RemovePc
  dummy : Ptr
  data : SensorData V

/-- The next access of a call of `sbuffer_remove` by reader `r`. -/
def removeAccess (r : Reader) : RemoveFrame V × Sbuffer V →
    Option (LoopStep (RemoveFrame V × Sbuffer V) ((SbufferStatus × SensorData V) × Sbuffer V))
  | (f, b) =>
      match f.pc with
      | .empty => some (.next ({ f with pc := if b.head = none then .done .noData else .first }, b))
      | .first => some (.next ({ f with pc := .status, dummy := b.head }, b))
      | .status =>
          if f.dummy = none then some (.next ({ f with pc := .copy }, b))
          else do
            let node ← b.heap.load f.dummy
            return .next ({ f with pc := if node.readStatus r = false then .copy else .last }, b)
      | .last => do
          let node ← b.heap.load f.dummy
          return .next ({ f with pc := if node.next = none then .done .noData else .advance }, b)
      | .advance => do
          let node ← b.heap.load f.dummy
          return .next ({ f with pc := .status, dummy := node.next }, b)
      | .copy => do
          let node ← b.heap.load f.dummy
          return .next ({ f with pc := .mark, data := node.data }, b)
      | .mark => do
          let heap ← b.heap.modify f.dummy (·.markRead r)
          return .next ({ f with pc := .readByDatamgr }, { b with heap })
      | .readByDatamgr => do
          let node ← b.heap.load f.dummy
          return .next ({ f with
            pc := if node.datamgrReadStatus = true then .readByStoragemgr else .done .success }, b)
      | .readByStoragemgr => do
          let node ← b.heap.load f.dummy
          return .next ({ f with
            pc := if node.storagemgrReadStatus = true then .single else .done .success }, b)
      | .single => some (.next ({ f with pc := if b.head = b.tail then .clearTail else .unlink }, b))
      | .clearTail => some (.next ({ f with pc := .clearHead }, { b with tail := none }))
      | .clearHead => some (.next ({ f with pc := .free }, { b with head := none }))
      | .unlink => do
          let node ← b.heap.load b.head
          return .next ({ f with pc := .free }, { b with head := node.next })
      | .free => do
          let heap ← b.heap.free f.dummy
          return .next ({ f with pc := .done .success }, { b with heap })
      | .done status => some (.exit ((status, f.data), b))

/-! ## `sbuffer_insert` -/

inductive InsertPc where
  /-- `malloc`, and the assignments to the node, which is not linked yet -/
  | malloc
  /-- `if (buffer->tail == NULL)` -/
  | empty
  /-- `buffer->tail = dummy` -/
  | setTail
  /-- `buffer->head = buffer->tail` -/
  | setHead
  /-- `buffer->tail->next = dummy` -/
  | link
  /-- `buffer->tail = buffer->tail->next` -/
  | advance
  | done
deriving DecidableEq, Repr

/-- The next access of a call of `sbuffer_insert` for which `malloc` returns the block `a`. -/
def insertAccess (data : SensorData V) (a : Addr) : InsertPc × Sbuffer V →
    Option (LoopStep (InsertPc × Sbuffer V) (SbufferStatus × Sbuffer V))
  | (.malloc, b) =>
      some (.next (.empty, { b with heap := b.heap.insert a ⟨none, data, false, false⟩ }))
  | (.empty, b) => some (.next (if b.tail = none then .setTail else .link, b))
  | (.setTail, b) => some (.next (.setHead, { b with tail := some a }))
  | (.setHead, b) => some (.next (.done, { b with head := b.tail }))
  | (.link, b) => do
      let heap ← b.heap.modify b.tail fun node => { node with next := some a }
      return .next (.advance, { b with heap })
  | (.advance, b) => do
      let last ← b.heap.load b.tail
      return .next (.done, { b with tail := last.next })
  | (.done, b) => some (.exit (.success, b))

/-! ## The calls as wholes -/

section Returns

variable {b : Sbuffer V}

theorem getFirstNode_returns (b : Sbuffer V) :
    LoopReturns firstAccess (.empty, b) (sbufferGetFirstNode b, b) := by
  cases hhead : b.head with
  | none =>
      have hempty : firstAccess (.empty, b) = some (.next (.done none, b)) := by
        simp [firstAccess, hhead]
      have hdone : firstAccess (.done none, b) = some (.exit (sbufferGetFirstNode b, b)) := by
        simp [firstAccess, sbufferGetFirstNode, hhead]
      exact .next hempty (.exit hdone)
  | some a =>
      have hempty : firstAccess (.empty, b) = some (.next (.head, b)) := by
        simp [firstAccess, hhead]
      have hread : firstAccess (.head, b) = some (.next (.done b.head, b)) := rfl
      exact .next hempty (.next hread (.exit rfl))

/-- The walk to the first node that `r` has not read. -/
theorem scan_returns {r : Reader} {data : SensorData V} {fuel : ℕ} {dummy : Ptr} {scan : Scan}
    {result : (SbufferStatus × SensorData V) × Sbuffer V}
    (hscan : loop (scanUnread r b.heap) fuel dummy = some scan)
    (hfound : ∀ dummy, scan = .found dummy →
      LoopReturns (removeAccess r) (⟨.copy, dummy, data⟩, b) result)
    (hnoData : scan = .noData → result = ((.noData, data), b)) :
    LoopReturns (removeAccess r) (⟨.status, dummy, data⟩, b) result := by
  induction fuel generalizing dummy with
  | zero => exact absurd hscan (by simp [loop])
  | succ fuel ih =>
      cases dummy with
      | none =>
          have hbody : scanUnread r b.heap none = some (.exit (.found none)) := if_pos rfl
          rw [loop_exit hbody] at hscan
          have hstatus : removeAccess r (⟨.status, none, data⟩, b) =
              some (.next (⟨.copy, none, data⟩, b)) := by simp [removeAccess]
          exact .next hstatus (hfound none (Option.some.inj hscan).symm)
      | some a =>
          cases hnode : b.heap.lookup a with
          | none =>
              have hbody : scanUnread r b.heap (some a) = none := by simp [scanUnread, hnode]
              rw [loop, hbody] at hscan
              exact absurd hscan (by simp)
          | some node =>
              by_cases hread : node.readStatus r = false
              · have hbody : scanUnread r b.heap (some a) = some (.exit (.found (some a))) := by
                  simp [scanUnread, hnode, hread]
                rw [loop_exit hbody] at hscan
                have hstatus : removeAccess r (⟨.status, some a, data⟩, b) =
                    some (.next (⟨.copy, some a, data⟩, b)) := by simp [removeAccess, hnode, hread]
                exact .next hstatus (hfound (some a) (Option.some.inj hscan).symm)
              have hstatus : removeAccess r (⟨.status, some a, data⟩, b) =
                  some (.next (⟨.last, some a, data⟩, b)) := by simp [removeAccess, hnode, hread]
              refine .next hstatus ?_
              by_cases hlast : node.next = none
              · have hbody : scanUnread r b.heap (some a) = some (.exit .noData) := by
                  simp [scanUnread, hnode, hread, hlast]
                rw [loop_exit hbody] at hscan
                have hnext : removeAccess r (⟨.last, some a, data⟩, b) =
                    some (.next (⟨.done .noData, some a, data⟩, b)) := by
                  simp [removeAccess, hnode, hlast]
                rw [hnoData (Option.some.inj hscan).symm]
                exact .next hnext (.exit rfl)
              · have hbody : scanUnread r b.heap (some a) = some (.next node.next) := by
                  simp [scanUnread, hnode, hread, hlast]
                rw [loop_next hbody] at hscan
                have hnext : removeAccess r (⟨.last, some a, data⟩, b) =
                    some (.next (⟨.advance, some a, data⟩, b)) := by
                  simp [removeAccess, hnode, hlast]
                have hadvance : removeAccess r (⟨.advance, some a, data⟩, b) =
                    some (.next (⟨.status, node.next, data⟩, b)) := by simp [removeAccess, hnode]
                exact .next hnext (.next hadvance (ih hscan))

theorem delete_returns {r : Reader} {data : SensorData V} {dummy : Ptr} {b' : Sbuffer V}
    (hdelete : deleteRead b dummy = some b') :
    LoopReturns (removeAccess r) (⟨.single, dummy, data⟩, b) ((.success, data), b') := by
  have hfree : ∀ unlinked : Sbuffer V, ((unlinked.heap.free dummy).bind fun heap =>
      some { unlinked with heap }) = some b' →
      LoopReturns (removeAccess r) (⟨.free, dummy, data⟩, unlinked) ((.success, data), b') := by
    intro unlinked hdelete
    obtain ⟨heap, hheap, hdelete⟩ := Option.bind_eq_some_iff.1 hdelete
    obtain rfl := Option.some.inj hdelete
    have haccess : removeAccess r (⟨.free, dummy, data⟩, unlinked) =
        some (.next (⟨.done .success, dummy, data⟩, { unlinked with heap })) := by
      simp [removeAccess, hheap]
    exact .next haccess (.exit rfl)
  unfold deleteRead at hdelete
  by_cases hsingle : b.head = b.tail
  · rw [if_pos hsingle] at hdelete
    have haccess : removeAccess r (⟨.single, dummy, data⟩, b) =
        some (.next (⟨.clearTail, dummy, data⟩, b)) := by simp [removeAccess, hsingle]
    exact .next haccess (.next rfl (.next rfl (hfree ⟨none, none, b.heap⟩ hdelete)))
  · rw [if_neg hsingle] at hdelete
    obtain ⟨first, hfirst, hdelete⟩ := Option.bind_eq_some_iff.1 hdelete
    have haccess : removeAccess r (⟨.single, dummy, data⟩, b) =
        some (.next (⟨.unlink, dummy, data⟩, b)) := by simp [removeAccess, hsingle]
    have hunlink : removeAccess r (⟨.unlink, dummy, data⟩, b) =
        some (.next (⟨.free, dummy, data⟩, { b with head := first.next })) := by
      simp [removeAccess, hfirst]
    exact .next haccess (.next hunlink (hfree { b with head := first.next } hdelete))

theorem remove_returns {r : Reader} {data : SensorData V} {x : RemoveResult V}
    (hremove : sbufferRemove b r.thread data = some x) :
    LoopReturns (removeAccess r) (⟨.empty, none, data⟩, b) ((x.status, x.data), x.buffer) := by
  rw [sbufferRemove_thread] at hremove
  by_cases hhead : b.head = none
  · rw [if_pos hhead] at hremove
    obtain rfl := Option.some.inj hremove
    have haccess : removeAccess r (⟨.empty, none, data⟩, b) =
        some (.next (⟨.done .noData, none, data⟩, b)) := by simp [removeAccess, hhead]
    exact .next haccess (.exit rfl)
  rw [if_neg hhead] at hremove
  unfold removeUnread at hremove
  obtain ⟨scan, hscan, hremove⟩ := Option.bind_eq_some_iff.1 hremove
  have hempty : removeAccess r (⟨.empty, none, data⟩, b) =
      some (.next (⟨.first, none, data⟩, b)) := by simp [removeAccess, hhead]
  refine .next hempty (.next rfl (scan_returns hscan ?_ ?_))
  · rintro dummy rfl
    obtain ⟨node, hnode, hremove⟩ := Option.bind_eq_some_iff.1 hremove
    obtain ⟨heap, hheap, hremove⟩ := Option.bind_eq_some_iff.1 hremove
    obtain ⟨marked, hmarked, hremove⟩ := Option.bind_eq_some_iff.1 hremove
    have hcopy : removeAccess r (⟨.copy, dummy, data⟩, b) =
        some (.next (⟨.mark, dummy, node.data⟩, b)) := by simp [removeAccess, hnode]
    have hmark : removeAccess r (⟨.mark, dummy, node.data⟩, b) =
        some (.next (⟨.readByDatamgr, dummy, node.data⟩, { b with heap })) := by
      simp [removeAccess, hheap]
    refine .next hcopy (.next hmark ?_)
    by_cases hdatamgr : marked.datamgrReadStatus = true
    · have haccess : removeAccess r (⟨.readByDatamgr, dummy, node.data⟩, { b with heap }) =
          some (.next (⟨.readByStoragemgr, dummy, node.data⟩, { b with heap })) := by
        simp [removeAccess, hmarked, hdatamgr]
      refine .next haccess ?_
      by_cases hstoragemgr : marked.storagemgrReadStatus = true
      · rw [if_pos ⟨hdatamgr, hstoragemgr⟩] at hremove
        obtain ⟨b', hdelete, hremove⟩ := Option.bind_eq_some_iff.1 hremove
        obtain rfl := Option.some.inj hremove
        have haccess : removeAccess r (⟨.readByStoragemgr, dummy, node.data⟩, { b with heap }) =
            some (.next (⟨.single, dummy, node.data⟩, { b with heap })) := by
          simp [removeAccess, hmarked, hstoragemgr]
        exact .next haccess (delete_returns hdelete)
      · rw [if_neg fun hboth => hstoragemgr hboth.2] at hremove
        obtain rfl := Option.some.inj hremove
        have haccess : removeAccess r (⟨.readByStoragemgr, dummy, node.data⟩, { b with heap }) =
            some (.next (⟨.done .success, dummy, node.data⟩, { b with heap })) := by
          simp [removeAccess, hmarked, hstoragemgr]
        exact .next haccess (.exit rfl)
    · rw [if_neg fun hboth => hdatamgr hboth.1] at hremove
      obtain rfl := Option.some.inj hremove
      have haccess : removeAccess r (⟨.readByDatamgr, dummy, node.data⟩, { b with heap }) =
          some (.next (⟨.done .success, dummy, node.data⟩, { b with heap })) := by
        simp [removeAccess, hmarked, hdatamgr]
      exact .next haccess (.exit rfl)
  · rintro rfl
    obtain rfl := Option.some.inj hremove
    rfl

theorem insert_returns {data : SensorData V} {a : Addr} {status : SbufferStatus} {b' : Sbuffer V}
    (hinsert : sbufferInsert b data (some a) = some (status, b')) :
    LoopReturns (insertAccess data a) (.malloc, b) (status, b') := by
  unfold sbufferInsert at hinsert
  refine .next rfl ?_
  dsimp only at hinsert
  by_cases htail : b.tail = none
  · rw [if_pos htail] at hinsert
    obtain ⟨rfl, rfl⟩ := Prod.mk.inj (Option.some.inj hinsert)
    have hempty : ∀ heap, insertAccess data a (.empty, { b with heap }) =
        some (.next (.setTail, { b with heap })) := fun heap => by simp [insertAccess, htail]
    exact .next (hempty _) (.next rfl (.next rfl (.exit rfl)))
  · rw [if_neg htail] at hinsert
    obtain ⟨heap, hheap, hinsert⟩ := Option.bind_eq_some_iff.1 hinsert
    obtain ⟨last, hlast, hinsert⟩ := Option.bind_eq_some_iff.1 hinsert
    obtain ⟨rfl, rfl⟩ := Prod.mk.inj (Option.some.inj hinsert)
    have hempty : ∀ heap, insertAccess data a (.empty, { b with heap }) =
        some (.next (.link, { b with heap })) := fun heap => by simp [insertAccess, htail]
    have hlink : insertAccess data a
        (.link, { b with heap := b.heap.insert a ⟨none, data, false, false⟩ }) =
          some (.next (.advance, { b with heap })) := by
      simp [insertAccess, hheap]
    have hadvance : insertAccess data a (.advance, { b with heap }) =
        some (.next (.done, { b with tail := last.next, heap })) := by
      simp [insertAccess, hlast]
    exact .next (hempty _) (.next hlink (.next hadvance (.exit rfl)))

end Returns

end SensorGateway
