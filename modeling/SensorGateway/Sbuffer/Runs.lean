import SensorGateway.Library.StepSystem
import SensorGateway.Sbuffer.Refinement

set_option autoImplicit false

/-! # Runs of the shared buffer

Any order of the critical sections `sbuffer_insert` (by the connection manager) and `sbuffer_remove`
(by the data manager and by the storage manager), from `sbuffer_init` on. A run keeps a record of
what was inserted and what each reader was given, so that "in order, none skipped, none twice" can
be stated. `malloc` may return any block that is not in use, in particular one that was freed
before. -/

namespace SensorGateway

variable {V : Type}

/-- One critical section: an insert into the block that `malloc` returns, or a remove by a reader
    whose `*data` holds `data` before the call. -/
inductive Call (V : Type) where
  | insert (m : SensorData V) (block : Addr)
  | remove (r : Reader) (data : SensorData V)

/-- A buffer with the measurements inserted so far and those each reader was given. -/
structure BufferRun (V : Type) where
  buffer : Sbuffer V
  inserted : List (SensorData V)
  given : Reader → List (SensorData V)

/-- Execute one call and record what it inserted or returned. -/
def BufferRun.step (s : BufferRun V) : Call V → Option (BufferRun V)
  | .insert m block =>
      -- a live block is no possible result of `malloc`
      if (s.buffer.heap.lookup block).isSome then none
      else do
        let (status, buffer) ← sbufferInsert s.buffer m (some block)
        return ⟨buffer, if status = .success then s.inserted ++ [m] else s.inserted, s.given⟩
  | .remove r data => do
      let res ← sbufferRemove s.buffer r.thread data
      return ⟨res.buffer, s.inserted, if res.status = .success then
        Function.update s.given r (s.given r ++ [res.data]) else s.given⟩

/-- All runs of the shared buffer from `sbuffer_init`. -/
def bufferSystem (V : Type) : StepSystem (BufferRun V) (Call V) where
  init := ⟨sbufferInit, [], fun _ => []⟩
  step := BufferRun.step

/-! ## One call -/

/-- The run's buffer represents the log `q`, and its records are what `q` says. -/
def Tracks (s : BufferRun V) (q : Broadcast Reader (SensorData V)) : Prop :=
  (∃ cells, Represents s.buffer q cells) ∧ s.inserted = q.log ∧ ∀ r, s.given r = q.given r

theorem tracks_init : Tracks (bufferSystem V).init .empty :=
  ⟨⟨[], represents_init⟩, rfl, fun _ => rfl⟩

theorem Tracks.insert {s : BufferRun V} {q : Broadcast Reader (SensorData V)} (h : Tracks s q)
    (m : SensorData V) {block : Addr} (hblock : block ∉ s.buffer.heap) :
    ∃ s', s.step (.insert m block) = some s' ∧ Tracks s' (q.publish m) := by
  obtain ⟨⟨cells, hrep⟩, hlog, hgiven⟩ := h
  obtain ⟨b', cells', hins, hrep', -⟩ := sbufferInsert_spec hrep hblock m
  refine ⟨⟨b', s.inserted ++ [m], s.given⟩, ?_, ⟨cells', hrep'⟩, ?_, ?_⟩
  · simp [BufferRun.step, Finmap.lookup_eq_none.2 hblock, hins]
  · rw [hlog, Broadcast.publish_log]
  · intro r
    rw [hgiven, Broadcast.publish_given]

theorem Tracks.remove_success {s : BufferRun V} {q : Broadcast Reader (SensorData V)}
    (h : Tracks s q) {r : Reader} (hr : q.cursor r < q.log.length) (data : SensorData V) :
    ∃ s', s.step (.remove r data) = some s' ∧ Tracks s' (q.advance r hr) := by
  obtain ⟨⟨cells, hrep⟩, hlog, hgiven⟩ := h
  obtain ⟨b', cells', hrem, hrep', -⟩ := sbufferRemove_success hrep hr data
  refine ⟨⟨b', s.inserted, Function.update s.given r (s.given r ++ [q.log[q.cursor r]])⟩, ?_,
    ⟨cells', hrep'⟩, hlog, ?_⟩
  · simp [BufferRun.step, hrem]
  · intro r'
    by_cases hr' : r' = r
    · subst hr'
      dsimp only
      rw [Function.update_self, hgiven, Broadcast.advance_given_self]
    · dsimp only
      rw [Function.update_of_ne hr', hgiven, Broadcast.advance_given_ne hr hr']

theorem Tracks.remove_noData {s : BufferRun V} {q : Broadcast Reader (SensorData V)}
    (h : Tracks s q) {r : Reader} (hr : ¬ q.cursor r < q.log.length) (data : SensorData V) :
    s.step (.remove r data) = some s := by
  obtain ⟨⟨cells, hrep⟩, -, -⟩ := h
  have hpending : q.pending r = [] := Broadcast.pending_of_not_lt hr
  simp [BufferRun.step, sbufferRemove_noData hrep hpending]

/-- The operation on the log that a call of the run is. -/
def Call.op : Call V → Broadcast.Op Reader (SensorData V)
  | .insert m _ => .publish m
  | .remove r _ => .take r

/-- **The buffer refines the broadcast log**: every call is the operation of the same kind. -/
theorem Tracks.step {s s' : BufferRun V} {q : Broadcast Reader (SensorData V)} {c : Call V}
    (h : Tracks s q) (hs : s.step c = some s') :
    ∃ q', (Broadcast.system Reader (SensorData V)).step q c.op = some q' ∧ Tracks s' q' := by
  cases c with
  | insert m block =>
      have hblock : block ∉ s.buffer.heap := fun hmem => by
        rw [BufferRun.step, if_pos (Finmap.lookup_isSome.2 hmem)] at hs
        exact absurd hs (by simp)
      obtain ⟨s'', hs'', htracks⟩ := h.insert m hblock
      rw [hs, Option.some.injEq] at hs''
      exact ⟨_, rfl, hs'' ▸ htracks⟩
  | remove r data =>
      refine ⟨_, rfl, ?_⟩
      by_cases hr : q.cursor r < q.log.length
      · obtain ⟨s'', hs'', htracks⟩ := h.remove_success hr data
        rw [hs, Option.some.injEq] at hs''
        rw [dif_pos hr]
        exact hs'' ▸ htracks
      · rw [h.remove_noData hr, Option.some.injEq] at hs
        rw [dif_neg hr]
        exact hs ▸ h

/-- Every reachable state of the buffer is a reachable state of the log. -/
theorem bufferSystem_refines {s : BufferRun V} (h : (bufferSystem V).Reachable s) :
    ∃ q, (Broadcast.system Reader (SensorData V)).Reachable q ∧ Tracks s q := by
  refine StepSystem.Reachable.simulate tracks_init ?_ h
  intro s q c s' htracks hs
  obtain ⟨q', hq', htracks'⟩ := htracks.step hs
  exact ⟨[c.op], q', by simp [StepSystem.exec_cons, hq'], htracks'⟩

/-- In a state that tracks a log no remove faults. -/
theorem Tracks.remove_defined {s : BufferRun V} {q : Broadcast Reader (SensorData V)}
    (h : Tracks s q) (r : Reader) (data : SensorData V) :
    ∃ s', s.step (.remove r data) = some s' := by
  by_cases hr : q.cursor r < q.log.length
  · exact (h.remove_success hr data).imp fun _ => And.left
  · exact ⟨s, h.remove_noData hr data⟩

/-! ## Order and retention -/

theorem low_eq_min (q : Broadcast Reader (SensorData V)) :
    q.low = min (q.cursor .datamgr) (q.cursor .storagemgr) := by
  rcases Nat.le_total (q.cursor .datamgr) (q.cursor .storagemgr) with hle | hle
  · rw [min_eq_left hle]
    exact q.low_eq (fun r => by cases r <;> first | exact le_rfl | exact hle) rfl
  · rw [min_eq_right hle]
    exact q.low_eq (fun r => by cases r <;> first | exact le_rfl | exact hle) rfl

theorem Tracks.linked_eq {s : BufferRun V} {q : Broadcast Reader (SensorData V)}
    (h : Tracks s q) : s.buffer.linked = some q.retained := by
  obtain ⟨⟨cells, hrep⟩, -, -⟩ := h
  exact hrep.linked_eq

/-- An insert succeeds, gives no reader anything, and links the measurement at the tail. -/
theorem Tracks.insert_linked {s : BufferRun V} {q : Broadcast Reader (SensorData V)}
    (h : Tracks s q) (m : SensorData V) {block : Addr} (hblock : block ∉ s.buffer.heap) :
    ∃ s' linked, s.step (.insert m block) = some s' ∧ s'.inserted = s.inserted ++ [m] ∧
      s'.given = s.given ∧ s.buffer.linked = some linked ∧
      s'.buffer.linked = some (linked ++ [m]) := by
  obtain ⟨s', hs, htracks⟩ := h.insert m hblock
  refine ⟨s', q.retained, hs, ?_, ?_, h.linked_eq, ?_⟩
  · rw [htracks.2.1, h.2.1, Broadcast.publish_log]
  · funext r
    rw [htracks.2.2 r, h.2.2 r, Broadcast.publish_given]
  · rw [htracks.linked_eq, Broadcast.publish_retained]

/-- A remove by the reader that is behind unlinks the entry it takes; any other remove unlinks
    nothing. -/
theorem Tracks.remove_linked {s s' : BufferRun V} {q : Broadcast Reader (SensorData V)}
    (h : Tracks s q) {r : Reader} {data : SensorData V} (hs : s.step (.remove r data) = some s') :
    (q.cursor r < q.cursor r.other → ∃ m rest, s.buffer.linked = some (m :: rest) ∧
        s'.given r = s.given r ++ [m] ∧ s'.buffer.linked = some rest) ∧
      (¬ q.cursor r < q.cursor r.other → s'.buffer.linked = s.buffer.linked) := by
  by_cases hr : q.cursor r < q.log.length
  · obtain ⟨s'', hs'', htracks⟩ := h.remove_success hr data
    obtain rfl : s' = s'' := Option.some.inj (hs.symm.trans hs'')
    refine ⟨?_, ?_⟩
    · intro hlt
      obtain ⟨hlow, hcur⟩ := q.advance_low_of_last hr fun j hj => Reader.eq_other_of_ne hj ▸ hlt
      refine ⟨q.log[q.cursor r], (q.advance r hr).retained, ?_, ?_, htracks.linked_eq⟩
      · rw [h.linked_eq, Broadcast.retained, Broadcast.retained, hlow, hcur,
          Broadcast.advance_log, ← List.drop_eq_getElem_cons hr]
      · rw [htracks.2.2 r, h.2.2 r, Broadcast.advance_given_self]
    · intro hge
      rw [htracks.linked_eq, h.linked_eq, Broadcast.retained, Broadcast.retained,
        q.advance_low_of_other hr r.other_ne (Nat.le_of_not_lt hge), Broadcast.advance_log]
  · obtain rfl : s' = s := Option.some.inj (hs.symm.trans (h.remove_noData hr data))
    exact ⟨fun hlt => absurd (hlt.trans_le (q.cursor_le r.other)) hr, fun _ => rfl⟩

/-- **The readers are given the inserted measurements in order, and a node stays exactly as long as
    one of them still needs it.** In every reachable state each reader was given a prefix of what
    was inserted; the linked measurements are the inserted ones from the first that some reader was
    not given; and a remove unlinks a node exactly when the other reader was given it before, the
    node being the one the remove returns. An insert for which `malloc` finds a block succeeds, and
    links its measurement behind the others. No call faults. -/
theorem sbuffer_delivers_in_order {s : BufferRun V} (h : (bufferSystem V).Reachable s) :
    (∀ r, s.given r <+: s.inserted) ∧
      s.buffer.linked = some (s.inserted.drop
        (min (s.given .datamgr).length (s.given .storagemgr).length)) ∧
      (∀ r data s', (bufferSystem V).step s (.remove r data) = some s' →
        ((s.given r).length < (s.given r.other).length → ∃ m rest,
          s.buffer.linked = some (m :: rest) ∧ s'.given r = s.given r ++ [m] ∧
            s'.buffer.linked = some rest) ∧
        (¬ (s.given r).length < (s.given r.other).length →
          s'.buffer.linked = s.buffer.linked)) ∧
      (∀ m block, block ∉ s.buffer.heap →
        ∃ s' linked, (bufferSystem V).step s (.insert m block) = some s' ∧
          s'.inserted = s.inserted ++ [m] ∧ s'.given = s.given ∧
          s.buffer.linked = some linked ∧ s'.buffer.linked = some (linked ++ [m])) ∧
      ∀ r data, ∃ s', (bufferSystem V).step s (.remove r data) = some s' := by
  obtain ⟨q, -, htracks⟩ := bufferSystem_refines h
  have hlen : ∀ r, (s.given r).length = q.cursor r := fun r => by
    rw [htracks.2.2 r, Broadcast.length_given]
  refine ⟨?_, ?_, ?_, fun m _ => htracks.insert_linked m, htracks.remove_defined⟩
  · intro r
    rw [htracks.2.1, htracks.2.2 r]
    exact q.given_prefix r
  · rw [htracks.linked_eq, Broadcast.retained, low_eq_min, hlen, hlen, htracks.2.1]
  · intro r data s' hs
    rw [hlen, hlen]
    exact htracks.remove_linked hs

/-- The data manager reads two measurements while the storage manager reads one and a third one
    arrives in the block that was freed. -/
def exampleCalls : List (Call ℕ) :=
  [.insert ⟨15, 20, 100⟩ 7, .insert ⟨21, 22, 101⟩ 3, .remove .datamgr ⟨0, 0, 0⟩,
    .remove .datamgr ⟨0, 0, 0⟩, .remove .storagemgr ⟨0, 0, 0⟩, .insert ⟨37, 19, 102⟩ 7]

/-- After these calls, a measurement that is inserted in the block 5 is the last one linked. -/
theorem sbuffer_delivers_in_order_example :
    ((bufferSystem ℕ).after exampleCalls).buffer.linked
        = some (((bufferSystem ℕ).after exampleCalls).inserted.drop
            (min (((bufferSystem ℕ).after exampleCalls).given .datamgr).length
              (((bufferSystem ℕ).after exampleCalls).given .storagemgr).length)) ∧
      ∃ s', (bufferSystem ℕ).step ((bufferSystem ℕ).after exampleCalls)
          (.insert ⟨49, 18, 103⟩ 5) = some s' ∧
        s'.inserted = ((bufferSystem ℕ).after exampleCalls).inserted ++ [⟨49, 18, 103⟩] ∧
        s'.buffer.linked = some [⟨21, 22, 101⟩, ⟨37, 19, 102⟩, ⟨49, 18, 103⟩] := by
  obtain ⟨-, hlinked, -, hinsert, -⟩ :=
    sbuffer_delivers_in_order (StepSystem.reachable_after (by decide) :
      (bufferSystem ℕ).Reachable ((bufferSystem ℕ).after exampleCalls))
  obtain ⟨s', linked, hs, hinserted, -, hbefore, hafter⟩ :=
    hinsert ⟨49, 18, 103⟩ 5 (Finmap.lookup_eq_none.1 (by decide))
  refine ⟨hlinked, s', hs, hinserted, ?_⟩
  obtain rfl : linked = [⟨21, 22, 101⟩, ⟨37, 19, 102⟩] :=
    Option.some.inj (hbefore.symm.trans (by decide))
  exact hafter

/-! ## The shape of the list -/

/-- The linked nodes `cells` form a list that runs from `head` to `tail`, with the read flags of
    each reader set on a prefix, and all of its pointers refer to live nodes. -/
structure Sbuffer.Shape (b : Sbuffer V) (cells : List (Addr × SbufferNode V)) : Prop where
  chain : Seg SbufferNode.next b.heap b.head cells none
  nodup : (cells.map Prod.fst).Nodup
  tail_eq : b.tail = cells.getLast?.map Prod.fst
  read_prefix : ∀ r, ∃ k, cells.map (·.2.readStatus r) =
    List.replicate k true ++ List.replicate (cells.length - k) false
  not_both : ∀ c ∈ cells, ¬ (c.2.readStatus .datamgr = true ∧ c.2.readStatus .storagemgr = true)
  one_prefix : ∃ r, ∀ c ∈ cells, c.2.readStatus r = false
  live : ∀ p ∈ b.head :: b.tail :: cells.map (·.2.next), ∀ a, p = some a → a ∈ b.heap

theorem Represents.shape {b : Sbuffer V} {q : Broadcast Reader (SensorData V)}
    {cells : List (Addr × SbufferNode V)} (h : Represents b q cells) : b.Shape cells where
  chain := h.chain
  nodup := h.chain.nodup
  tail_eq := h.tail_eq
  read_prefix r := by
    have hlow := q.low_le r
    refine ⟨q.cursor r - q.low, ?_⟩
    rw [h.read_eq r, h.length_eq]
    congr 2
    omega
  not_both c hc := by
    obtain ⟨k, hk, rfl⟩ := List.mem_iff_getElem.1 hc
    rw [h.readStatus_getElem, h.readStatus_getElem, decide_eq_true_iff, decide_eq_true_iff]
    -- a retained entry is one that some reader was not given
    obtain ⟨r, hr⟩ := (q.retained_iff (q.low + k)).1 (Nat.le_add_right _ _)
    cases r <;> omega
  one_prefix := by
    -- the reader at the lowest cursor has read none of the linked nodes
    obtain ⟨r, hr⟩ := q.exists_cursor_eq_low
    refine ⟨r, ?_⟩
    intro c hc
    obtain ⟨k, hk, rfl⟩ := List.mem_iff_getElem.1 hc
    rw [h.readStatus_getElem, hr, decide_eq_false_iff_not]
    omega
  live p hp a ha := by
    have hlast : ∀ a, cells.getLast?.map Prod.fst = some a → a ∈ cells.map Prod.fst := by
      intro a ha
      rw [← List.getLast?_map] at ha
      exact List.mem_of_getLast? ha
    subst ha
    rcases List.mem_cons.1 hp with hhead | hp
    · refine h.chain.live ?_
      rw [h.chain.head_eq, ← List.head?_map, eq_comm] at hhead
      exact List.mem_of_head? hhead
    · rcases List.mem_cons.1 hp with htail | hp
      · exact h.chain.live (hlast a (by rw [← h.tail_eq, ← htail]))
      · obtain ⟨c, hc, hnext⟩ := List.mem_map.1 hp
        obtain ⟨xs, ys, rfl⟩ := List.append_of_mem hc
        obtain ⟨-, -, -, -, hrest⟩ := seg_append.1 h.chain
        rw [hrest.head_eq, ← List.head?_map] at hnext
        exact h.chain.live (by
          rw [List.map_append, List.map_cons]
          exact List.mem_append_right _ (List.mem_cons_of_mem _ (List.mem_of_head? hnext)))

/-- A remove frees at most the head, and then the list starts at the head's successor. -/
theorem Represents.freed {b : Sbuffer V} {q : Broadcast Reader (SensorData V)}
    {cells : List (Addr × SbufferNode V)} (h : Represents b q cells) {r : Reader}
    {data : SensorData V} {res : RemoveResult V}
    (hres : sbufferRemove b r.thread data = some res) {a : Addr} (hlive : a ∈ b.heap)
    (hfreed : a ∉ res.buffer.heap) :
    b.head = some a ∧ ∃ node, b.heap.lookup a = some node ∧ res.buffer.head = node.next := by
  have hin : a ∈ cells.map Prod.fst := h.owned a hlive
  by_cases hr : q.cursor r < q.log.length
  · obtain ⟨b', cells', hrem, hrep, hfst⟩ := sbufferRemove_success h hr data
    obtain rfl : res = ⟨.success, q.log[q.cursor r], b'⟩ := Option.some.inj (hres.symm.trans hrem)
    have hout : a ∉ cells'.map Prod.fst := fun hmem => hfreed (hrep.chain.live hmem)
    by_cases hlt : q.cursor r < q.cursor r.other
    · obtain ⟨hlow, -⟩ := q.advance_low_of_last hr fun j hj => Reader.eq_other_of_ne hj ▸ hlt
      rw [hlow, Nat.add_sub_cancel_left] at hfst
      obtain ⟨⟨a', node⟩, rest, rfl⟩ : ∃ c rest, cells = c :: rest :=
        List.exists_cons_of_ne_nil (by rintro rfl; simp at hin)
      obtain ⟨hhead, hlookup, hrest⟩ := h.chain
      -- `a` was linked before and is not afterwards, and only the first node has gone
      have haa : a = a' := by
        rw [hfst] at hout
        exact (List.mem_cons.1 hin).resolve_right hout
      subst haa
      refine ⟨hhead, node, hlookup, ?_⟩
      rw [hrep.chain.head_eq, hrest.head_eq, ← List.head?_map, ← List.head?_map, hfst]
      rfl
    · rw [q.advance_low_of_other hr r.other_ne (Nat.le_of_not_lt hlt), Nat.sub_self,
        List.drop_zero] at hfst
      exact absurd (hfst ▸ hin) hout
  · have hpending : q.pending r = [] := Broadcast.pending_of_not_lt hr
    obtain rfl : res = ⟨.noData, data, b⟩ :=
      Option.some.inj (hres.symm.trans (sbufferRemove_noData h hpending data))
    exact absurd hlive hfreed

/-- **The list is well formed in every reachable state**, and a node that `sbuffer_remove` frees is
    the head that it unlinks, so no pointer of the list ever refers to a freed node. An insert for
    which `malloc` finds a block links one more node, and no call faults. -/
theorem sbuffer_well_formed {s : BufferRun V} (h : (bufferSystem V).Reachable s) :
    (s.buffer.head = none ↔ s.buffer.tail = none) ∧
      (∃ cells, s.buffer.Shape cells) ∧
      (∀ r data res, sbufferRemove s.buffer (Reader.thread r) data = some res →
        ∀ a ∈ s.buffer.heap, a ∉ res.buffer.heap →
          s.buffer.head = some a ∧
            ∃ node, s.buffer.heap.lookup a = some node ∧ res.buffer.head = node.next) ∧
      (∀ m block, block ∉ s.buffer.heap →
        ∃ s' linked, (bufferSystem V).step s (.insert m block) = some s' ∧
          s'.inserted = s.inserted ++ [m] ∧ s'.given = s.given ∧
          s.buffer.linked = some linked ∧ s'.buffer.linked = some (linked ++ [m])) ∧
      ∀ r data, ∃ s', (bufferSystem V).step s (.remove r data) = some s' := by
  obtain ⟨q, -, htracks⟩ := bufferSystem_refines h
  obtain ⟨cells, hrep⟩ := htracks.1
  exact ⟨hrep.head_eq_none.trans hrep.tail_eq_none.symm, ⟨cells, hrep.shape⟩,
    fun r data res hres a => hrep.freed hres, fun m _ => htracks.insert_linked m,
    htracks.remove_defined⟩

theorem sbuffer_well_formed_example :
    ((bufferSystem ℕ).after exampleCalls).buffer.head = none ↔
      ((bufferSystem ℕ).after exampleCalls).buffer.tail = none :=
  (sbuffer_well_formed (StepSystem.reachable_after (by decide))).1

end SensorGateway
