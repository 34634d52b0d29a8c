import SensorGateway.Sbuffer.Status

set_option autoImplicit false

/-! # The end of the shared buffer

When the threads are joined, `main` prints what is left in the buffer and frees it. After any calls of
any threads these are the measurements that a manager has not read, and no node stays behind
(`sbuffer_released`). -/

namespace SensorGateway

variable {V : Type}

/-! ## `sbuffer_print_data` -/

/-- The walk of `sbuffer_print_data`, with the lines that it has printed. -/
structure PrintWalk (V : Type) where
  dummy : Ptr
  count : ℤ
  printed : List (ℤ × SensorData V)

/-- The body of `while(dummy != NULL)` in `sbuffer_print_data`. -/
def printBody (heap : Heap (SbufferNode V)) (s : PrintWalk V) :
    Option (LoopStep (PrintWalk V) (List (ℤ × SensorData V))) :=
  if s.dummy = none then
    some (.exit s.printed)
  else do
    let node ← heap.load s.dummy
    return .next ⟨node.next, wrapInt (s.count + 1), s.printed ++ [(s.count, node.data)]⟩

/-- `sbuffer_print_data`: the lines, each with its `count`. -/
def sbufferPrintData (b : Sbuffer V) : Option (SbufferStatus × List (ℤ × SensorData V)) := do
  let printed ← loop (printBody b.heap) b.heap.walkFuel ⟨b.head, 0, []⟩
  return (.success, printed)

/-! ## `sbuffer_free` -/

/-- The loop of `sbuffer_free`, with the nodes that it has freed. -/
structure FreeWalk (V : Type) where
  head : Ptr
  heap : Heap (SbufferNode V)
  freed : List Addr

/-- The body of `while ( (*buffer)->head )` in `sbuffer_free`. -/
def sbufferFreeBody (s : FreeWalk V) :
    Option (LoopStep (FreeWalk V) (List Addr × Heap (SbufferNode V))) :=
  match s.head with
  | none => some (.exit (s.freed, s.heap))
  | some dummy => do
      let node ← s.heap.load (some dummy)
      let heap ← s.heap.free (some dummy)
      return .next ⟨node.next, heap, s.freed ++ [dummy]⟩

/-- `sbuffer_free`: the nodes that it frees, in order, and the nodes that are live afterwards. -/
def sbufferFree (b : Sbuffer V) :
    Option (SbufferStatus × List Addr × Heap (SbufferNode V)) := do
  let (freed, heap) ← loop sbufferFreeBody b.heap.walkFuel ⟨b.head, b.heap, []⟩
  return (.success, freed, heap)

/-! ## What they do to a chain of nodes -/

section Chain

variable {h : Heap (SbufferNode V)} {p : Ptr} {cells : List (Addr × SbufferNode V)}

/-- The lines for measurements, counted from `k` on. -/
def printedLines (ms : List (SensorData V)) (k : ℕ) : List (ℤ × SensorData V) :=
  (ms.zipIdx k).map fun e => (wrapInt e.2, e.1)

theorem loop_printBody (hs : Seg SbufferNode.next h p cells none) {fuel : ℕ}
    (hfuel : cells.length < fuel) (k : ℕ) (printed : List (ℤ × SensorData V)) :
    loop (printBody h) fuel ⟨p, wrapInt k, printed⟩ =
      some (printed ++ printedLines (cells.map (·.2.data)) k) := by
  induction cells generalizing p fuel k printed with
  | nil =>
      obtain ⟨fuel, rfl⟩ : ∃ f, fuel = f + 1 := ⟨fuel - 1, by omega⟩
      obtain rfl : p = none := hs
      have hbody : printBody h ⟨none, wrapInt k, printed⟩ = some (.exit printed) := if_pos rfl
      rw [loop_exit hbody]
      exact congrArg some (List.append_nil printed).symm
  | cons cell rest ih =>
      obtain ⟨a, node⟩ := cell
      obtain ⟨rfl, hnode, hrest⟩ := hs
      obtain ⟨fuel, rfl⟩ : ∃ f, fuel = f + 1 := ⟨fuel - 1, by omega⟩
      have hcount : wrapInt (wrapInt k + 1) = wrapInt (k + 1 : ℕ) := Int.bmod_add_bmod
      have hbody : printBody h ⟨some a, wrapInt k, printed⟩ =
          some (.next ⟨node.next, wrapInt (k + 1 : ℕ), printed ++ [(wrapInt k, node.data)]⟩) := by
        simp only [printBody, reduceCtorEq, if_false, Heap.load_some, hnode, Option.bind_eq_bind,
          Option.bind_some, hcount]
        rfl
      rw [loop_next hbody, ih hrest (by simpa using hfuel), List.append_assoc]
      rfl

theorem loop_sbufferFreeBody (hs : Seg SbufferNode.next h p cells none) {fuel : ℕ}
    (hfuel : cells.length < fuel) (freed : List Addr) :
    ∃ heap, loop sbufferFreeBody fuel ⟨p, h, freed⟩ = some (freed ++ cells.map Prod.fst, heap) ∧
      ∀ a ∈ heap, a ∈ h ∧ a ∉ cells.map Prod.fst := by
  induction cells generalizing h p fuel freed with
  | nil =>
      obtain ⟨fuel, rfl⟩ : ∃ f, fuel = f + 1 := ⟨fuel - 1, by omega⟩
      obtain rfl : p = none := hs
      have hbody : sbufferFreeBody ⟨none, h, freed⟩ = some (.exit (freed, h)) := rfl
      rw [loop_exit hbody, List.map_nil, List.append_nil]
      exact ⟨h, rfl, fun a ha => ⟨ha, List.not_mem_nil⟩⟩
  | cons cell rest ih =>
      obtain ⟨a, node⟩ := cell
      have hpop := hs.pop
      obtain ⟨rfl, hnode, -⟩ := hs
      obtain ⟨fuel, rfl⟩ : ∃ f, fuel = f + 1 := ⟨fuel - 1, by omega⟩
      have hbody : sbufferFreeBody ⟨some a, h, freed⟩ =
          some (.next ⟨node.next, h.erase a, freed ++ [a]⟩) := by
        simp only [sbufferFreeBody, Heap.load_some, hnode, Heap.free_some hnode,
          Option.bind_eq_bind, Option.bind_some]
        rfl
      obtain ⟨heap, hloop, hheap⟩ := ih hpop (by simpa using hfuel) (freed ++ [a])
      refine ⟨heap, ?_, ?_⟩
      · rw [loop_next hbody, hloop, List.append_assoc]
        rfl
      · intro a' ha'
        obtain ⟨hmem, hnot⟩ := hheap a' ha'
        obtain ⟨hne, hmem⟩ := Finmap.mem_erase.1 hmem
        exact ⟨hmem, by simp [hne, hnot]⟩

end Chain

section Represents

variable {b : Sbuffer V} {q : Broadcast Reader (SensorData V)} {cells : List (Addr × SbufferNode V)}

theorem Represents.printData_eq (h : Represents b q cells) :
    sbufferPrintData b = some (.success, printedLines q.retained 0) := by
  have hzero : wrapInt (0 : ℕ) = 0 := wrapInt_zero
  have hloop := loop_printBody h.chain h.chain.length_lt_walkFuel 0 []
  rw [h.data_eq, hzero, List.nil_append] at hloop
  rw [sbufferPrintData, hloop]
  rfl

/-- Every node is freed once. -/
theorem Represents.free_eq (h : Represents b q cells) :
    sbufferFree b = some (.success, cells.map Prod.fst, ∅) := by
  obtain ⟨heap, hloop, hheap⟩ := loop_sbufferFreeBody h.chain h.chain.length_lt_walkFuel []
  have hempty : heap = ∅ := by
    refine Finmap.ext_lookup fun a => ?_
    rw [Finmap.lookup_empty]
    refine Finmap.lookup_eq_none.2 fun hmem => ?_
    obtain ⟨hmem, hnot⟩ := hheap a hmem
    exact hnot (h.owned a hmem)
  unfold sbufferFree
  rw [hloop, hempty]
  rfl

end Represents

/-- **What is left at the end.** After any calls of `sbuffer_insert` and `sbuffer_remove`, from any
    threads, with any of them failing: `sbuffer_print_data` comes to its end and prints the measurements
    that one of the managers has not read, in the order they were inserted; `sbuffer_free` frees each
    live node once, and no other; and the nodes it frees and those freed by `sbuffer_remove`, which
    both managers have read, are all that were ever allocated. -/
theorem sbuffer_released {s : BufferRun V} (h : (openBufferSystem V).Reachable s) :
    sbufferPrintData s.buffer = some (.success, printedLines (s.inserted.drop
        (min (s.given .datamgr).length (s.given .storagemgr).length)) 0) ∧
      ∃ freed, sbufferFree s.buffer = some (.success, freed, ∅) ∧ freed.Nodup ∧
        (∀ a, a ∈ freed ↔ a ∈ s.buffer.heap) ∧
        min (s.given .datamgr).length (s.given .storagemgr).length + freed.length =
          s.inserted.length := by
  obtain ⟨q, -, htracks⟩ := bufferSystem_refines (openBufferSystem_reachable h)
  obtain ⟨⟨cells, hrep⟩, hinserted, hgiven⟩ := htracks
  have hlow : min (s.given .datamgr).length (s.given .storagemgr).length = q.low := by
    rw [low_eq_min, hgiven, hgiven, q.length_given, q.length_given]
  rw [hlow, hinserted]
  refine ⟨hrep.printData_eq, cells.map Prod.fst, hrep.free_eq, hrep.chain.nodup, fun a => ?_, ?_⟩
  · exact (hrep.mem_heap a).symm
  · rw [List.length_map, hrep.length_eq]
    have hle := q.low_le_length
    omega

/-- The storage manager has not read two measurements. -/
theorem sbuffer_released_example :
    sbufferPrintData ((openBufferSystem ℕ).after exampleOpenCalls).buffer =
      some (.success, [(0, ⟨15, 20, 100⟩), (1, ⟨21, 18, 101⟩)]) :=
  (sbuffer_released (StepSystem.reachable_after (by decide))).1

end SensorGateway
