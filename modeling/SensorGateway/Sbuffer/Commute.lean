import SensorGateway.Sbuffer.Runs

set_option autoImplicit false

/-! # The readers of the shared buffer are independent

Two critical sections that commute on the broadcast log commute on the buffer, because the log and
the addresses of the linked nodes determine the buffer down to its heap (`Represents.unique`): which
reader performs the deletion, and whether it is the one-node case, cannot be seen afterwards. -/

namespace SensorGateway

variable {V : Type} {b b' : Sbuffer V} {q : Broadcast Reader (SensorData V)}
  {cells cells' : List (Addr × SbufferNode V)}

/-! ## The log and the addresses determine the buffer -/

theorem SbufferNode.eq_of_fields {node node' : SbufferNode V} (hnext : node.next = node'.next)
    (hdata : node.data = node'.data) (hread : ∀ r, node.readStatus r = node'.readStatus r) :
    node = node' := by
  cases node
  cases node'
  obtain rfl := hnext
  obtain rfl := hdata
  obtain rfl := hread .datamgr
  obtain rfl := hread .storagemgr
  rfl

/-- The linked measurements with their read flags, in order. -/
def Sbuffer.contents (b : Sbuffer V) : Option (List (SensorData V × (Reader → Bool))) :=
  b.nodes.map fun cells => cells.map fun c => (c.2.data, c.2.readStatus)

/-- What two representations of one log agree on at each position. -/
theorem Represents.getElem_eq (h : Represents b q cells) (h' : Represents b' q cells') {k : ℕ}
    (hk : k < cells.length) (hk' : k < cells'.length) :
    cells[k].2.data = cells'[k].2.data ∧ cells[k].2.readStatus = cells'[k].2.readStatus := by
  constructor
  · have hget := congrArg (·[k]?) (h.data_eq.trans h'.data_eq.symm)
    simpa [hk, hk'] using hget
  · funext r
    rw [h.readStatus_getElem r hk, h'.readStatus_getElem r hk']

/-- The log determines the contents. -/
theorem Represents.contents_eq (h : Represents b q cells) (h' : Represents b' q cells') :
    b.contents = b'.contents := by
  rw [Sbuffer.contents, Sbuffer.contents, h.nodes_eq, h'.nodes_eq]
  refine congrArg some (List.ext_getElem ?_ ?_)
  · rw [List.length_map, List.length_map, h.length_eq, h'.length_eq]
  · intro k hk hk'
    rw [List.getElem_map, List.getElem_map]
    obtain ⟨hdata, hread⟩ := h.getElem_eq h' (by simpa using hk) (by simpa using hk')
    rw [hdata, hread]

theorem Represents.cells_unique (h : Represents b q cells) (h' : Represents b' q cells')
    (haddr : cells.map Prod.fst = cells'.map Prod.fst) : cells = cells' := by
  have hlen : cells.length = cells'.length := h.length_eq.trans h'.length_eq.symm
  refine List.ext_getElem hlen ?_
  intro k hk hk'
  have hfst : cells[k].1 = cells'[k].1 := by
    have hget := congrArg (·[k]?) haddr
    simpa [hk, hk'] using hget
  have hnext : cells[k].2.next = cells'[k].2.next := by
    rw [h.chain.next_getElem hk, h'.chain.next_getElem hk', ← List.getElem?_map, haddr,
      List.getElem?_map]
  obtain ⟨hdata, hread⟩ := h.getElem_eq h' hk hk'
  exact Prod.ext hfst (SbufferNode.eq_of_fields hnext hdata (congrFun hread))

/-- **The log and the addresses determine the buffer.** -/
theorem Represents.unique (h : Represents b q cells) (h' : Represents b' q cells')
    (haddr : cells.map Prod.fst = cells'.map Prod.fst) : b = b' := by
  obtain rfl := h.cells_unique h' haddr
  have hhead : b.head = b'.head := h.chain.head_eq.trans h'.chain.head_eq.symm
  have htail : b.tail = b'.tail := h.tail_eq.trans h'.tail_eq.symm
  have hheap : b.heap = b'.heap := h.chain.heap_unique h'.chain h.owned h'.owned
  cases b
  cases b'
  obtain rfl := hhead
  obtain rfl := htail
  obtain rfl := hheap
  rfl

/-! ## What a critical section does, as an operation on the log -/

/-- **`sbuffer_remove` of a reader is `Broadcast.taken`**: the reader gets what is upcoming for it, or
    `SBUFFER_NO_DATA`, and the released entries are unlinked. -/
theorem sbufferRemove_spec (h : Represents b q cells) (r : Reader) (data : SensorData V) :
    ∃ b' cells', sbufferRemove b r.thread data
        = some ⟨if (q.upcoming r).isSome = true then .success else .noData,
            (q.upcoming r).getD data, b'⟩ ∧
      Represents b' (q.taken r) cells' ∧
      cells'.map Prod.fst = (cells.map Prod.fst).drop ((q.taken r).low - q.low) := by
  by_cases hr : q.cursor r < q.log.length
  · rw [Broadcast.upcoming_of_lt hr, Broadcast.taken_of_lt hr]
    exact sbufferRemove_success h hr data
  · rw [Broadcast.upcoming_of_not_lt hr, Broadcast.taken_of_not_lt hr, Nat.sub_self]
    exact ⟨b, cells, sbufferRemove_noData h (Broadcast.pending_of_not_lt hr) data, h, rfl⟩

/-- Two removes by different readers, on the log. -/
theorem sbufferRemove_twice (h : Represents b q cells) (r : Reader) (data data' : SensorData V) :
    ∃ b₁ b₂ cells₂,
      sbufferRemove b r.thread data
        = some ⟨if (q.upcoming r).isSome = true then .success else .noData,
            (q.upcoming r).getD data, b₁⟩ ∧
      sbufferRemove b₁ r.other.thread data'
        = some ⟨if (q.upcoming r.other).isSome = true then .success else .noData,
            (q.upcoming r.other).getD data', b₂⟩ ∧
      Represents b₂ ((q.taken r).taken r.other) cells₂ ∧
      cells₂.map Prod.fst
        = (cells.map Prod.fst).drop (((q.taken r).taken r.other).low - q.low) := by
  obtain ⟨b₁, cells₁, hrem₁, hrep₁, haddr₁⟩ := sbufferRemove_spec h r data
  obtain ⟨b₂, cells₂, hrem₂, hrep₂, haddr₂⟩ := sbufferRemove_spec hrep₁ r.other data'
  rw [q.taken_upcoming_ne r.other_ne] at hrem₂
  have hle := q.low_le_taken_low r
  have hle' := (q.taken r).low_le_taken_low r.other
  refine ⟨b₁, b₂, cells₂, hrem₁, hrem₂, hrep₂, ?_⟩
  rw [haddr₂, haddr₁, List.drop_drop]
  congr 1
  omega

/-! ## Commuting -/

/-- **The readers are independent.** In every reachable state the removes of the two readers can be
    made in either order, and a reader that has a measurement to come can remove it before or after
    an insert (into the same block, or failing for want of one): each call returns the same code and
    the same measurement, and the buffers are equal. -/
theorem sbuffer_readers_independent {s : BufferRun V} (h : (bufferSystem V).Reachable s) :
    (∀ r data data', ∃ x y x' y',
      sbufferRemove s.buffer (Reader.thread r) data = some x ∧
      sbufferRemove x.buffer r.other.thread data' = some y ∧
      sbufferRemove s.buffer r.other.thread data' = some y' ∧
      sbufferRemove y'.buffer r.thread data = some x' ∧
      x.status = x'.status ∧ x.data = x'.data ∧ y.status = y'.status ∧ y.data = y'.data ∧
      y.buffer = x'.buffer) ∧
    ∀ r data m block, (∀ a, block = some a → a ∉ s.buffer.heap) →
      s.buffer.unread r ≠ some [] → ∃ status b x x',
      sbufferInsert s.buffer m block = some (status, b) ∧
      sbufferRemove b (Reader.thread r) data = some x ∧
      sbufferRemove s.buffer r.thread data = some x' ∧
      x.status = x'.status ∧ x.data = x'.data ∧
      ∀ block', block'.isSome = block.isSome → (∀ a, block' = some a → a ∉ x'.buffer.heap) → ∃ b',
        sbufferInsert x'.buffer m block' = some (status, b') ∧ x.buffer.contents = b'.contents ∧
        (block' = block → x.buffer = b') := by
  obtain ⟨q, -, htracks⟩ := bufferSystem_refines h
  obtain ⟨cells, hrep⟩ := htracks.1
  constructor
  · intro r data data'
    obtain ⟨b₁, b₂, cells₂, hrem₁, hrem₂, hrep₂, haddr₂⟩ := sbufferRemove_twice hrep r data data'
    obtain ⟨b₁', b₂', cells₂', hrem₁', hrem₂', hrep₂', haddr₂'⟩ :=
      sbufferRemove_twice hrep r.other data' data
    have hrr : r.other.other = r := by cases r <;> rfl
    rw [hrr] at hrem₂' hrep₂' haddr₂'
    rw [← q.taken_comm r.other_ne.symm] at hrep₂' haddr₂'
    exact ⟨_, _, _, _, hrem₁, hrem₂, hrem₁', hrem₂', rfl, rfl, rfl, rfl,
      hrep₂.unique hrep₂' (haddr₂.trans haddr₂'.symm)⟩
  · intro r data m block hfree hunread
    have hr : q.cursor r < q.log.length := by
      by_contra hr
      exact hunread (by rw [hrep.unread_eq, Broadcast.pending_of_not_lt hr])
    obtain ⟨b', cells', hrem, hrep', haddr⟩ := sbufferRemove_spec hrep r data
    cases block with
    | none =>
        refine ⟨_, _, _, _, rfl, hrem, hrem, rfl, rfl, ?_⟩
        intro block' hnone _
        obtain rfl : block' = none := Option.not_isSome_iff_eq_none.1 (by simp [hnone])
        exact ⟨_, rfl, rfl, fun _ => rfl⟩
    | some a =>
        obtain ⟨b₁, cells₁, hins, hrep₁, haddr₁⟩ := sbufferInsert_spec hrep (hfree a rfl) m
        obtain ⟨b₂, cells₂, hrem₂, hrep₂, haddr₂⟩ := sbufferRemove_spec hrep₁ r data
        rw [Broadcast.publish_upcoming hr] at hrem₂
        rw [Broadcast.publish_taken hr] at hrep₂ haddr₂
        refine ⟨_, _, _, _, hins, hrem₂, hrem, rfl, rfl, ?_⟩
        intro block' hsome hfree'
        obtain ⟨a', rfl⟩ := Option.isSome_iff_exists.1 hsome
        obtain ⟨b₃, cells₃, hins₃, hrep₃, haddr₃⟩ := sbufferInsert_spec hrep' (hfree' a' rfl) m
        refine ⟨b₃, hins₃, hrep₂.contents_eq hrep₃, ?_⟩
        intro hblock
        obtain rfl := Option.some.inj hblock
        -- a remove releases linked nodes only, so the new address stays the last one
        have hlow : (q.taken r).low - q.low ≤ (cells.map Prod.fst).length := by
          have hle := (q.taken r).low_le_length
          rw [q.taken_log] at hle
          rw [List.length_map, hrep.length_eq]
          omega
        refine hrep₂.unique hrep₃ ?_
        rw [haddr₂, haddr₁, haddr₃, haddr, Broadcast.publish_low, Broadcast.publish_low,
          List.drop_append_of_le_length hlow]

theorem sbuffer_readers_independent_example :
    ∃ x y x' y',
      sbufferRemove ((bufferSystem ℕ).after exampleCalls).buffer .datamgr ⟨0, 0, 0⟩ = some x ∧
      sbufferRemove x.buffer .storagemgr ⟨0, 0, 0⟩ = some y ∧
      sbufferRemove ((bufferSystem ℕ).after exampleCalls).buffer .storagemgr ⟨0, 0, 0⟩ = some y' ∧
      sbufferRemove y'.buffer .datamgr ⟨0, 0, 0⟩ = some x' ∧
      x.status = x'.status ∧ x.data = x'.data ∧ y.status = y'.status ∧ y.data = y'.data ∧
      y.buffer = x'.buffer :=
  (sbuffer_readers_independent (StepSystem.reachable_after (by decide))).1 .datamgr ⟨0, 0, 0⟩
    ⟨0, 0, 0⟩

end SensorGateway
