import SensorGateway.Library.Broadcast
import SensorGateway.Sbuffer.Basic

set_option autoImplicit false

/-! # The shared buffer refines a broadcast log

`Represents b q cells`: the linked nodes `cells` of the buffer `b` are the retained entries of the
two-reader log `q`, in order, and the read flags of a reader mark exactly the ones it was given.
This one relation carries everything that is proved about the buffer: `sbuffer_remove` of a reader
is `Broadcast.advance` (`sbufferRemove_success`, `sbufferRemove_noData`) and `sbuffer_insert` is
`Broadcast.publish` (`sbufferInsert_spec`).

The relation also says why deleting `buffer->head` is right although the node that was read is
`dummy`: a node that both readers have read is a retained entry below both cursors, and there is
none, so the node that becomes read by both is the first one (`Represents.second_reader`). -/

namespace SensorGateway

variable {V : Type}

/-- The cells linked from `head` are the retained entries of `q` with the flags `q` says. -/
structure Represents (b : Sbuffer V) (q : Broadcast Reader (SensorData V))
    (cells : List (Addr × SbufferNode V)) : Prop where
  chain : Seg SbufferNode.next b.heap b.head cells none
  tail_eq : b.tail = cells.getLast?.map Prod.fst
  data_eq : cells.map (·.2.data) = q.retained
  read_eq : ∀ r, cells.map (·.2.readStatus r) =
    List.replicate (q.cursor r - q.low) true ++ List.replicate (q.log.length - q.cursor r) false
  owned : ∀ a ∈ b.heap, a ∈ cells.map Prod.fst

/-! ## Consequences of the relation -/

section Shape

variable {b : Sbuffer V} {q : Broadcast Reader (SensorData V)}
  {cells : List (Addr × SbufferNode V)}

theorem Represents.length_eq (h : Represents b q cells) :
    cells.length = q.log.length - q.low := by
  simpa [Broadcast.retained] using congrArg List.length h.data_eq

theorem Represents.head_eq_none (h : Represents b q cells) : b.head = none ↔ cells = [] := by
  rw [h.chain.head_eq]
  cases cells <;> simp

theorem Represents.tail_eq_none (h : Represents b q cells) : b.tail = none ↔ cells = [] := by
  rw [h.tail_eq]
  cases cells <;> simp

theorem Represents.nodes_eq (h : Represents b q cells) : b.nodes = some cells :=
  h.chain.walk_eq h.chain.length_lt_walkFuel.le

theorem Represents.linked_eq (h : Represents b q cells) : b.linked = some q.retained := by
  simp [Sbuffer.linked, h.nodes_eq, h.data_eq]

/-- The flag of a linked node says whether its entry lies below the reader's cursor. -/
theorem Represents.readStatus_getElem (h : Represents b q cells) (r : Reader) {k : ℕ}
    (hk : k < cells.length) : cells[k].2.readStatus r = decide (q.low + k < q.cursor r) := by
  have hlow := q.low_le r
  have hlen := h.length_eq
  have hcell : (cells.map (·.2.readStatus r))[k]? = some (cells[k].2.readStatus r) := by simp [hk]
  rw [h.read_eq r, List.getElem?_append, List.length_replicate] at hcell
  -- the first block of `read_eq` holds the flags below the cursor, the second those above
  by_cases hlt : k < q.cursor r - q.low
  · rw [if_pos hlt, List.getElem?_replicate, if_pos hlt] at hcell
    rw [← Option.some.inj hcell, eq_comm, decide_eq_true_iff]
    omega
  · rw [if_neg hlt, List.getElem?_replicate, if_pos (by omega)] at hcell
    rw [← Option.some.inj hcell, eq_comm, decide_eq_false_iff_not]
    omega

/-- What reader `r` finds unread in the list is what the log has pending for it. -/
theorem Represents.unread_eq (h : Represents b q cells) (r : Reader) :
    b.unread r = some (q.pending r) := by
  have hlow := q.low_le r
  obtain ⟨xs, ys, rfl, hxs, hys⟩ := List.map_eq_append_iff.1 (h.read_eq r)
  have hread : ∀ c ∈ xs, ¬ (!c.2.readStatus r) = true := fun c hc => by
    have hmem : c.2.readStatus r ∈ xs.map (·.2.readStatus r) := List.mem_map_of_mem hc
    rw [hxs] at hmem
    simp [List.eq_of_mem_replicate hmem]
  have hunread : ∀ c ∈ ys, (!c.2.readStatus r) = true := fun c hc => by
    have hmem : c.2.readStatus r ∈ ys.map (·.2.readStatus r) := List.mem_map_of_mem hc
    rw [hys] at hmem
    simp [List.eq_of_mem_replicate hmem]
  have hlen : (xs.map (·.2.data)).length = q.cursor r - q.low := by
    simpa using congrArg List.length hxs
  have hdata := congrArg (List.drop (q.cursor r - q.low)) h.data_eq
  rw [List.map_append, List.drop_left' hlen, Broadcast.retained, List.drop_drop,
    Nat.add_sub_cancel' hlow] at hdata
  rw [Sbuffer.unread, h.nodes_eq, Option.map_some, List.filter_append,
    List.filter_eq_nil_iff.2 hread, List.filter_eq_self.2 hunread, List.nil_append, hdata,
    Broadcast.pending]

/-- The heap holds the linked nodes and nothing else: no node is leaked. -/
theorem Represents.mem_heap (h : Represents b q cells) (a : Addr) :
    a ∈ b.heap ↔ a ∈ cells.map Prod.fst :=
  ⟨h.owned a, h.chain.live⟩

end Shape

theorem represents_init : Represents (V := V) sbufferInit .empty [] where
  chain := rfl
  tail_eq := rfl
  data_eq := by simp [Broadcast.retained]
  read_eq r := by simp
  owned a ha := absurd ha Finmap.notMem_empty

/-! ## Flags -/

@[simp] theorem SbufferNode.markRead_next (node : SbufferNode V) (r : Reader) :
    (node.markRead r).next = node.next := by
  cases r <;> rfl

@[simp] theorem SbufferNode.markRead_data (node : SbufferNode V) (r : Reader) :
    (node.markRead r).data = node.data := by
  cases r <;> rfl

@[simp] theorem SbufferNode.markRead_readStatus_self (node : SbufferNode V) (r : Reader) :
    (node.markRead r).readStatus r = true := by
  cases r <;> rfl

@[simp] theorem SbufferNode.markRead_readStatus_other (node : SbufferNode V) (r : Reader) :
    (node.markRead r).readStatus r.other = node.readStatus r.other := by
  cases r <;> rfl

/-- After marking for `r`, the test of the deletion is whether the other reader had read the
    node. -/
theorem SbufferNode.markRead_both (node : SbufferNode V) (r : Reader) :
    ((node.markRead r).datamgrReadStatus = true ∧ (node.markRead r).storagemgrReadStatus = true) ↔
      node.readStatus r.other = true := by
  cases r <;> simp [markRead, readStatus, Reader.other]

/-! ## The search for the first unread node -/

section Scan

variable {r : Reader} {heap : Heap (SbufferNode V)}

theorem scanUnread_found {xs ys : List (Addr × SbufferNode V)} {a : Addr} {node : SbufferNode V}
    (hread : ∀ c ∈ xs, c.2.readStatus r = true) (hnode : node.readStatus r = false) {p : Ptr}
    (hs : Seg SbufferNode.next heap p (xs ++ (a, node) :: ys) none) {fuel : ℕ}
    (hfuel : xs.length < fuel) :
    loop (scanUnread r heap) fuel p = some (.found (some a)) := by
  -- induction on the nodes that the reader has read; the search passes each of them
  induction xs generalizing p fuel with
  | nil =>
      obtain ⟨fuel, rfl⟩ : ∃ k, fuel = k + 1 :=
        ⟨fuel - 1, by simp only [List.length_nil] at hfuel; omega⟩
      obtain ⟨rfl, hlookup, -⟩ := hs
      exact loop_exit (by simp [scanUnread, hlookup, hnode]) fuel
  | cons x xs ih =>
      obtain ⟨fuel, rfl⟩ : ∃ k, fuel = k + 1 :=
        ⟨fuel - 1, by simp only [List.length_cons] at hfuel; omega⟩
      obtain ⟨a', c⟩ := x
      obtain ⟨rfl, hlookup, hrest⟩ := hs
      have hc : c.readStatus r = true := hread (a', c) (List.mem_cons_self ..)
      have hnext : c.next ≠ none := by
        rw [hrest.head_eq]
        cases xs <;> simp
      have hstep : scanUnread r heap (some a') = some (.next c.next) := by
        simp [scanUnread, hlookup, hc, hnext]
      rw [loop_next hstep]
      exact ih (fun c hc => hread c (List.mem_cons_of_mem _ hc)) hrest (by simpa using hfuel)

theorem scanUnread_noData {cells : List (Addr × SbufferNode V)}
    (hread : ∀ c ∈ cells, c.2.readStatus r = true) (hne : cells ≠ []) {p : Ptr}
    (hs : Seg SbufferNode.next heap p cells none) {fuel : ℕ} (hfuel : cells.length ≤ fuel) :
    loop (scanUnread r heap) fuel p = some .noData := by
  induction cells generalizing p fuel with
  | nil => exact absurd rfl hne
  | cons x rest ih =>
      obtain ⟨fuel, rfl⟩ : ∃ k, fuel = k + 1 :=
        ⟨fuel - 1, by simp only [List.length_cons] at hfuel; omega⟩
      obtain ⟨a, c⟩ := x
      obtain ⟨rfl, hlookup, hrest⟩ := hs
      have hc : c.readStatus r = true := hread (a, c) (List.mem_cons_self ..)
      -- the search gives up at the last node, not behind it
      by_cases hnil : rest = []
      · subst hnil
        have hnext : c.next = none := hrest
        exact loop_exit (by simp [scanUnread, hlookup, hc, hnext]) fuel
      · have hnext : c.next ≠ none := by
          rw [hrest.head_eq]
          cases rest with
          | nil => exact absurd rfl hnil
          | cons y ys => simp
        have hstep : scanUnread r heap (some a) = some (.next c.next) := by
          simp [scanUnread, hlookup, hc, hnext]
        rw [loop_next hstep]
        exact ih (fun c hc => hread c (List.mem_cons_of_mem _ hc)) hnil hrest (by simpa using hfuel)

end Scan

/-! ## `sbuffer_remove` by a reader is `Broadcast.advance` -/

section Remove

variable {b : Sbuffer V} {q : Broadcast Reader (SensorData V)}
  {cells : List (Addr × SbufferNode V)} {r : Reader}

theorem sbufferRemove_thread (b : Sbuffer V) (r : Reader) (data : SensorData V) :
    sbufferRemove b r.thread data
      = if b.head = none then some ⟨.noData, data, b⟩ else removeUnread r b data := by
  cases r <;> rfl

/-- A reader that was given everything gets `SBUFFER_NO_DATA`, and nothing changes. -/
theorem sbufferRemove_noData (h : Represents b q cells) (hr : q.pending r = [])
    (data : SensorData V) : sbufferRemove b r.thread data = some ⟨.noData, data, b⟩ := by
  rw [sbufferRemove_thread]
  by_cases hhead : b.head = none
  · rw [if_pos hhead]
  · have hread : ∀ c ∈ cells, c.2.readStatus r = true := by
      have heq := h.read_eq r
      rw [(q.pending_eq_nil r).1 hr, Nat.sub_self, List.replicate_zero, List.append_nil] at heq
      intro c hc
      have hmem : c.2.readStatus r ∈ cells.map (·.2.readStatus r) := List.mem_map_of_mem hc
      rw [heq] at hmem
      exact List.eq_of_mem_replicate hmem
    rw [if_neg hhead, removeUnread, scanUnread_noData hread (mt h.head_eq_none.2 hhead) h.chain
      h.chain.length_lt_walkFuel.le]
    rfl

/-- Where the next node of a reader stands: behind the ones it has read, with the next entry of the
    log, and already read by the other reader exactly if that one is ahead. -/
theorem Represents.split (h : Represents b q cells) (hr : q.cursor r < q.log.length) :
    ∃ xs a node ys, cells = xs ++ (a, node) :: ys ∧ xs.length = q.cursor r - q.low ∧
      (∀ c ∈ xs, c.2.readStatus r = true) ∧ node.readStatus r = false ∧
      (∀ c ∈ ys, c.2.readStatus r = false) ∧ node.data = q.log[q.cursor r] ∧
      (node.readStatus r.other = true ↔ q.cursor r < q.cursor r.other) := by
  have hlow := q.low_le r
  have hlen := h.length_eq
  have hk : q.cursor r - q.low < cells.length := by omega
  refine ⟨cells.take (q.cursor r - q.low), cells[q.cursor r - q.low].1,
    cells[q.cursor r - q.low].2, cells.drop (q.cursor r - q.low + 1), ?_, ?_, ?_, ?_, ?_, ?_, ?_⟩
  · rw [Prod.mk.eta, ← List.drop_eq_getElem_cons hk, List.take_append_drop]
  · rw [List.length_take]
    omega
  · intro c hc
    obtain ⟨k, hk', rfl⟩ := List.mem_iff_getElem.1 hc
    rw [List.length_take] at hk'
    rw [List.getElem_take, h.readStatus_getElem, decide_eq_true_iff]
    omega
  · rw [h.readStatus_getElem, decide_eq_false_iff_not]
    omega
  · intro c hc
    obtain ⟨k, hk', rfl⟩ := List.mem_iff_getElem.1 hc
    rw [List.getElem_drop, h.readStatus_getElem, decide_eq_false_iff_not]
    omega
  · have hdata : (cells.map (·.2.data))[q.cursor r - q.low]?
        = some cells[q.cursor r - q.low].2.data := by simp [hk]
    rw [h.data_eq, Broadcast.retained, List.getElem?_drop, Nat.add_sub_cancel' hlow,
      List.getElem?_eq_getElem hr] at hdata
    exact (Option.some.inj hdata).symm
  · rw [h.readStatus_getElem, decide_eq_true_iff]
    omega

/-- What a reader branch does once the search has found the node at `a`. -/
theorem removeUnread_eq {xs ys : List (Addr × SbufferNode V)} {a : Addr} {node : SbufferNode V}
    (hchain : Seg SbufferNode.next b.heap b.head (xs ++ (a, node) :: ys) none)
    (hread : ∀ c ∈ xs, c.2.readStatus r = true) (hnode : node.readStatus r = false)
    (data : SensorData V) :
    removeUnread r b data
      = if node.readStatus r.other = true then
          (deleteRead { b with heap := b.heap.insert a (node.markRead r) } (some a)).map
            fun b' => ⟨.success, node.data, b'⟩
        else
          some ⟨.success, node.data, { b with heap := b.heap.insert a (node.markRead r) }⟩ := by
  have hlookup : b.heap.lookup a = some node := hchain.lookup (by simp)
  have hfuel := hchain.length_lt_walkFuel
  rw [List.length_append] at hfuel
  rw [removeUnread, scanUnread_found hread hnode hchain (by omega)]
  simp only [Option.bind_eq_bind, Option.bind_some, Heap.load_some, hlookup,
    Heap.modify_some hlookup, Finmap.lookup_insert, node.markRead_both r]
  split
  · cases deleteRead { b with heap := b.heap.insert a (node.markRead r) } (some a) <;> rfl
  · rfl

/-- The other reader still needs the node: it stays, marked. -/
theorem Represents.keep (h : Represents b q cells) (hr : q.cursor r < q.log.length)
    {xs ys : List (Addr × SbufferNode V)} {a : Addr} {node : SbufferNode V}
    (hcells : cells = xs ++ (a, node) :: ys) (hxs : xs.length = q.cursor r - q.low)
    (hread : ∀ c ∈ xs, c.2.readStatus r = true) (hys : ∀ c ∈ ys, c.2.readStatus r = false)
    (hother : q.cursor r.other ≤ q.cursor r) :
    Represents { b with heap := b.heap.insert a (node.markRead r) } (q.advance r hr)
      (xs ++ (a, node.markRead r) :: ys) := by
  have hlow : (q.advance r hr).low = q.low := q.advance_low_of_other hr r.other_ne hother
  have hfst : (xs ++ (a, node.markRead r) :: ys).map Prod.fst = cells.map Prod.fst := by
    simp [hcells]
  refine ⟨Seg.update (hcells ▸ h.chain) (node.markRead_next r), ?_, ?_, ?_, ?_⟩
  · rw [h.tail_eq, ← List.getLast?_map, ← List.getLast?_map, hfst]
  · have hdata := h.data_eq
    rw [hcells] at hdata
    simpa [Broadcast.retained, hlow] using hdata
  · intro r'
    -- the mark moves the node from the unread block of `r` to the read one
    by_cases hr' : r' = r
    · subst hr'
      have hlen := h.length_eq
      have hcursor := q.low_le r'
      rw [hcells, List.length_append, List.length_cons] at hlen
      have hleft : xs.map (·.2.readStatus r') = List.replicate (q.cursor r' - q.low) true :=
        List.eq_replicate_iff.2 ⟨by simpa using hxs, by
          simp only [List.mem_map]
          rintro _ ⟨c, hc, rfl⟩
          exact hread c hc⟩
      have hright : ys.map (·.2.readStatus r')
          = List.replicate (q.log.length - (q.cursor r' + 1)) false :=
        List.eq_replicate_iff.2 ⟨by rw [List.length_map]; omega, by
          simp only [List.mem_map]
          rintro _ ⟨c, hc, rfl⟩
          exact hys c hc⟩
      rw [Broadcast.advance_cursor_self, Broadcast.advance_log, hlow, List.map_append,
        List.map_cons, hleft, hright, SbufferNode.markRead_readStatus_self,
        Nat.sub_add_comm hcursor, List.replicate_succ', List.append_assoc, List.singleton_append]
    · obtain rfl := Reader.eq_other_of_ne hr'
      have hflags := h.read_eq r.other
      rw [hcells] at hflags
      rw [Broadcast.advance_cursor_ne hr r.other_ne, Broadcast.advance_log, hlow, ← hflags]
      simp
  · intro a' ha'
    rw [hfst]
    rcases Finmap.mem_insert.1 ha' with rfl | hmem
    · simp [hcells]
    · exact h.owned a' hmem

/-- **The second reader of a node releases it, and the node is the head**: nothing below it is
    retained, since both cursors have passed everything below. -/
theorem Represents.second_reader (h : Represents b q cells)
    {xs ys : List (Addr × SbufferNode V)} {a : Addr} {node : SbufferNode V}
    (hcells : cells = xs ++ (a, node) :: ys) (hxs : xs.length = q.cursor r - q.low)
    (hother : q.cursor r < q.cursor r.other) : xs = [] ∧ b.head = some a := by
  have hlow : q.low = q.cursor r := q.low_eq (fun j => by
    by_cases hj : j = r
    · rw [hj]
    · exact (Reader.eq_other_of_ne hj ▸ hother).le) rfl
  have hnil : xs = [] := List.eq_nil_of_length_eq_zero (by omega)
  refine ⟨hnil, ?_⟩
  rw [h.chain.head_eq, hcells, hnil]
  rfl

theorem deleteRead_single {a : Addr} {node : SbufferNode V} (hone : b.head = b.tail)
    (hlookup : b.heap.lookup a = some node) :
    deleteRead b (some a) = some ⟨none, none, b.heap.erase a⟩ := by
  simp [deleteRead, hone, Heap.free_some hlookup]

theorem deleteRead_many {a : Addr} {node : SbufferNode V} (hmany : b.head ≠ b.tail)
    (hhead : b.head = some a) (hlookup : b.heap.lookup a = some node) :
    deleteRead b (some a) = some ⟨node.next, b.tail, b.heap.erase a⟩ := by
  rw [hhead] at hmany
  simp [deleteRead, hmany, hhead, hlookup, Heap.free_some hlookup]

/-- Deleting the node that both readers have read: it is unlinked and freed, and the rest is what
    is retained after the advance. -/
theorem Represents.release (h : Represents b q cells) (hr : q.cursor r < q.log.length)
    {ys : List (Addr × SbufferNode V)} {a : Addr} {node : SbufferNode V}
    (hcells : cells = (a, node) :: ys) (hother : q.cursor r < q.cursor r.other) :
    ∃ b', deleteRead { b with heap := b.heap.insert a (node.markRead r) } (some a) = some b' ∧
      Represents b' (q.advance r hr) ys := by
  obtain ⟨hlow, hcur⟩ := q.advance_low_of_last hr fun j hj => Reader.eq_other_of_ne hj ▸ hother
  have hchain : Seg SbufferNode.next b.heap b.head ([] ++ (a, node) :: ys) none := hcells ▸ h.chain
  have hmarked : Seg SbufferNode.next (b.heap.insert a (node.markRead r)) b.head
      ((a, node.markRead r) :: ys) none := hchain.update (node.markRead_next r)
  have hlookup : (b.heap.insert a (node.markRead r)).lookup a = some (node.markRead r) :=
    Finmap.lookup_insert _
  have hrest : Seg SbufferNode.next ((b.heap.insert a (node.markRead r)).erase a) node.next ys
      none := by
    simpa using hmarked.pop
  have hdata : ys.map (·.2.data) = (q.advance r hr).retained := by
    have hdata := congrArg List.tail h.data_eq
    rw [hcells, Broadcast.retained, List.tail_drop] at hdata
    rw [Broadcast.retained, hlow]
    simpa using hdata
  have hflags : ∀ r', ys.map (·.2.readStatus r') =
      List.replicate ((q.advance r hr).cursor r' - (q.advance r hr).low) true ++
        List.replicate ((q.advance r hr).log.length - (q.advance r hr).cursor r') false := by
    intro r'
    have hflags := congrArg List.tail (h.read_eq r')
    rw [hcells, List.map_cons, List.tail_cons] at hflags
    rw [hflags, Broadcast.advance_log, hlow]
    -- `r` stood at the head, so it has no read node left; the other reader has one less
    by_cases hr' : r' = r
    · subst hr'
      rw [Broadcast.advance_cursor_self, hcur, Nat.sub_self, Nat.sub_self]
      simp [List.tail_replicate, Nat.sub_sub]
    · obtain rfl := Reader.eq_other_of_ne hr'
      obtain ⟨k, hk⟩ : ∃ k, q.cursor r.other - q.low = k + 1 :=
        ⟨q.cursor r.other - q.low - 1, by omega⟩
      rw [Broadcast.advance_cursor_ne hr r.other_ne, hk, Nat.sub_add_eq, hk]
      rfl
  have howned : ∀ a' ∈ (b.heap.insert a (node.markRead r)).erase a, a' ∈ ys.map Prod.fst := by
    intro a' ha'
    obtain ⟨hne, hmem⟩ := Finmap.mem_erase.1 ha'
    have hin := h.owned a' ((Finmap.mem_insert.1 hmem).resolve_left hne)
    rw [hcells] at hin
    exact (List.mem_cons.1 hin).resolve_left hne
  have hhead : b.head = some a := hmarked.1
  have htail := h.tail_eq
  rw [hcells] at htail
  -- `head == tail` tells the only node from the first of several
  cases ys with
  | nil =>
      have hone : b.head = b.tail := by rw [hhead, htail]; rfl
      exact ⟨_, deleteRead_single (b := { b with heap := _ }) hone hlookup, rfl, rfl, hdata, hflags,
        howned⟩
  | cons y ys =>
      have hmany : b.head ≠ b.tail := by
        have hnotin : a ∉ (y :: ys).map Prod.fst := (List.nodup_cons.1 hmarked.nodup).1
        rw [hhead, htail, List.getLast?_cons_cons, ← List.getLast?_map]
        exact fun he => hnotin (List.mem_of_getLast? he.symm)
      refine ⟨_, deleteRead_many (b := { b with heap := _ }) hmany hhead hlookup,
        by simpa using hrest, ?_, hdata, hflags, howned⟩
      rw [htail, List.getLast?_cons_cons]

/-- **`sbuffer_remove` of a reader with an entry to come** returns `SBUFFER_SUCCESS` and that entry,
    and advances the reader. The linked nodes stay the same ones, less the released entry. -/
theorem sbufferRemove_success (h : Represents b q cells) (hr : q.cursor r < q.log.length)
    (data : SensorData V) :
    ∃ b' cells', sbufferRemove b r.thread data = some ⟨.success, q.log[q.cursor r], b'⟩ ∧
      Represents b' (q.advance r hr) cells' ∧
      cells'.map Prod.fst = (cells.map Prod.fst).drop ((q.advance r hr).low - q.low) := by
  obtain ⟨xs, a, node, ys, hcells, hxs, hread, hnode, hys, hdata, hother⟩ := h.split hr
  have hhead : b.head ≠ none := fun hnone => by
    have hnil := h.head_eq_none.1 hnone
    rw [hcells] at hnil
    simp at hnil
  rw [sbufferRemove_thread, if_neg hhead, removeUnread_eq (hcells ▸ h.chain) hread hnode, hdata]
  -- the other reader is ahead exactly if it has read the node, and then the node goes
  by_cases hlt : q.cursor r < q.cursor r.other
  · obtain ⟨rfl, -⟩ := h.second_reader hcells hxs hlt
    obtain ⟨b', hdel, hrep⟩ := h.release hr hcells hlt
    obtain ⟨hlow, -⟩ := q.advance_low_of_last hr fun j hj => Reader.eq_other_of_ne hj ▸ hlt
    refine ⟨b', ys, ?_, hrep, ?_⟩
    · rw [if_pos (hother.2 hlt), hdel]
      rfl
    · rw [hlow, hcells, Nat.add_sub_cancel_left]
      rfl
  · have hle := Nat.le_of_not_lt hlt
    refine ⟨_, _, if_neg (mt hother.1 hlt), h.keep hr hcells hxs hread hys hle, ?_⟩
    rw [Broadcast.advance_low_of_other hr r.other_ne hle, hcells]
    simp

end Remove

/-! ## `sbuffer_insert` is `Broadcast.publish` -/

/-- **`sbuffer_insert` into a block that is not in use** appends one unread node. -/
theorem sbufferInsert_spec {b : Sbuffer V} {q : Broadcast Reader (SensorData V)}
    {cells : List (Addr × SbufferNode V)} (h : Represents b q cells) {a : Addr} (ha : a ∉ b.heap)
    (data : SensorData V) :
    ∃ b' cells', sbufferInsert b data (some a) = some (.success, b') ∧
      Represents b' (q.publish data) cells' ∧
      cells'.map Prod.fst = cells.map Prod.fst ++ [a] := by
  have hdata : ∀ cells' : List (Addr × SbufferNode V),
      cells'.map (·.2.data) = cells.map (·.2.data) ++ [data] →
      cells'.map (·.2.data) = (q.publish data).retained := by
    intro cells' hcells'
    rw [hcells', h.data_eq, Broadcast.publish_retained]
  have hflags : ∀ cells' : List (Addr × SbufferNode V),
      (∀ r, cells'.map (·.2.readStatus r) = cells.map (·.2.readStatus r) ++ [false]) →
      ∀ r, cells'.map (·.2.readStatus r) =
        List.replicate ((q.publish data).cursor r - (q.publish data).low) true ++
          List.replicate ((q.publish data).log.length - (q.publish data).cursor r) false := by
    intro cells' hcells' r
    have hle := q.cursor_le r
    rw [hcells' r, h.read_eq r, Broadcast.publish_low, Broadcast.publish_cursor,
      Broadcast.publish_log, List.length_append, List.length_singleton, Nat.sub_add_comm hle,
      List.replicate_succ', List.append_assoc]
  have hlookup : (b.heap.insert a ⟨none, data, false, false⟩).lookup a
      = some (⟨none, data, false, false⟩ : SbufferNode V) := Finmap.lookup_insert _
  -- an empty buffer gets both of its pointers, another one a new last node
  by_cases htail : b.tail = none
  · have hnil : cells = [] := h.tail_eq_none.1 htail
    subst hnil
    refine ⟨_, [(a, ⟨none, data, false, false⟩)], by simp [sbufferInsert, htail]; rfl,
      ⟨⟨rfl, hlookup, rfl⟩, rfl, hdata _ rfl, hflags _ ?_, ?_⟩, rfl⟩
    · intro r
      cases r <;> rfl
    · intro a' ha'
      rcases Finmap.mem_insert.1 ha' with rfl | hmem
      · simp
      · exact absurd (h.owned a' hmem) (by simp)
  · have hne : cells ≠ [] := mt h.tail_eq_none.2 htail
    obtain ⟨xs, ⟨l, last⟩, rfl⟩ := (List.eq_nil_or_concat' cells).resolve_left hne
    have htail' : b.tail = some l := by simp [h.tail_eq]
    have hlast : b.heap.lookup l = some last := h.chain.lookup (by simp)
    have hla : l ≠ a := fun he => ha (he ▸ Finmap.mem_of_lookup_eq_some hlast)
    have hlast' : (b.heap.insert a ⟨none, data, false, false⟩).lookup l = some last := by
      rw [Finmap.lookup_insert_of_ne _ hla, hlast]
    refine ⟨⟨b.head, some a, (b.heap.insert a ⟨none, data, false, false⟩).insert l
        { last with next := some a }⟩,
      xs ++ [(l, { last with next := some a }), (a, ⟨none, data, false, false⟩)], ?_,
      ⟨Seg.snoc h.chain ha rfl rfl, by simp, hdata _ (by simp), hflags _ ?_, ?_⟩, by simp⟩
    · simp [sbufferInsert, htail', Heap.modify_some hlast']
    · intro r
      cases r <;> simp [SbufferNode.readStatus]
    · intro a' ha'
      rcases Finmap.mem_insert.1 ha' with rfl | hmem
      · simp
      · rcases Finmap.mem_insert.1 hmem with rfl | hmem
        · simp
        · have hin := h.owned a' hmem
          simp only [List.map_append, List.mem_append] at hin ⊢
          exact hin.imp id fun hin => by simpa using Or.inl (by simpa using hin)

end SensorGateway
