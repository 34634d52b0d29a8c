import SensorGateway.Sbuffer.Commute

set_option autoImplicit false

/-! # What `sbuffer_remove` returns

The managers look at `*data` and not at the return code, so it matters that a call that fails leaves
`*data` and the buffer alone (`sbufferRemove_unchanged`). Calls may come from any thread and an insert
may fail for want of memory; neither reaches a state that the readers and the successful inserts do not
reach (`openBufferSystem_reachable`). -/

namespace SensorGateway

variable {V : Type}

/-- The reader that runs in a thread. -/
def Thread.reader : Thread → Option Reader
  | .datamgr => some .datamgr
  | .storagemgr => some .storagemgr
  | .main | .connmgr => none

/-- A critical section of any thread: an insert into what `malloc` returns, or a remove. -/
inductive OpenCall (V : Type) where
  | insert (m : SensorData V) (block : Ptr)
  | remove (self : Thread) (data : SensorData V)

/-- Execute a call of any thread. -/
def BufferRun.openStep (s : BufferRun V) : OpenCall V → Option (BufferRun V)
  | .insert m (some block) => s.step (.insert m block)
  | .insert m none => do
      let (_, buffer) ← sbufferInsert s.buffer m none
      return { s with buffer }
  | .remove self data =>
      match self.reader with
      | some r => s.step (.remove r data)
      | none => do
          let res ← sbufferRemove s.buffer self data
          return { s with buffer := res.buffer }

/-- All runs of the shared buffer with calls from any thread. -/
def openBufferSystem (V : Type) : StepSystem (BufferRun V) (OpenCall V) where
  init := ⟨sbufferInit, [], fun _ => []⟩
  step := BufferRun.openStep

/-! ## A call that fails -/

/-- **A remove that does not succeed leaves no trace.** -/
theorem sbufferRemove_unchanged {b : Sbuffer V} {self : Thread} {data : SensorData V}
    {x : RemoveResult V} (h : sbufferRemove b self data = some x) (hx : x.status ≠ .success) :
    x.buffer = b ∧ x.data = data := by
  have hreader : ∀ r, removeUnread r b data = some x → x.buffer = b ∧ x.data = data := by
    intro r hr
    unfold removeUnread at hr
    simp only [Option.bind_eq_bind, Option.bind_eq_some_iff] at hr
    obtain ⟨scan, -, hr⟩ := hr
    cases scan with
    | noData =>
        obtain rfl := Option.some.inj hr
        exact ⟨rfl, rfl⟩
    | found dummy =>
        -- a found node is a success
        refine absurd ?_ hx
        simp only [Option.bind_eq_some_iff] at hr
        obtain ⟨node, -, heap, -, marked, -, hr⟩ := hr
        split at hr
        · obtain ⟨b', -, hr⟩ := Option.bind_eq_some_iff.1 hr
          rw [← Option.some.inj hr]
        · rw [← Option.some.inj hr]
  unfold sbufferRemove at h
  split at h
  · obtain rfl := Option.some.inj h
    exact ⟨rfl, rfl⟩
  · cases self with
    | datamgr => exact hreader .datamgr h
    | storagemgr => exact hreader .storagemgr h
    | main | connmgr =>
        obtain rfl := Option.some.inj h
        exact ⟨rfl, rfl⟩

/-- A thread that is no reader gets `SBUFFER_FAILURE` from a buffer that is not empty. -/
theorem sbufferRemove_failure {b : Sbuffer V} {self : Thread} (hself : self.reader = none)
    (hhead : b.head ≠ none) (data : SensorData V) :
    sbufferRemove b self data = some ⟨.failure, data, b⟩ := by
  unfold sbufferRemove
  rw [if_neg hhead]
  cases self with
  | datamgr | storagemgr => exact absurd hself (by simp [Thread.reader])
  | main | connmgr => rfl

/-! ## Every reachable state -/

/-- Calls of other threads and inserts that fail reach no new state. -/
theorem openBufferSystem_reachable {s : BufferRun V} (h : (openBufferSystem V).Reachable s) :
    (bufferSystem V).Reachable s := by
  refine StepSystem.Reachable.invariant (T := openBufferSystem V) (bufferSystem V).Reachable
    StepSystem.Reachable.init ?_ h
  intro s call s' hs hstep
  cases call with
  | insert m block =>
      cases block with
      | some block => exact hs.step (l := .insert m block) hstep
      | none =>
          obtain rfl : s = s' := Option.some.inj hstep
          exact hs
  | remove self data =>
      simp only [openBufferSystem, BufferRun.openStep] at hstep
      cases hself : self.reader with
      | some r =>
          rw [hself] at hstep
          exact hs.step (l := .remove r data) hstep
      | none =>
          rw [hself] at hstep
          obtain ⟨res, hres, hs'⟩ := Option.bind_eq_some_iff.1 hstep
          have hfail : res.status ≠ .success := by
            unfold sbufferRemove at hres
            split at hres
            · rw [← Option.some.inj hres]
              simp
            · cases self with
              | datamgr | storagemgr => exact absurd hself (by simp [Thread.reader])
              | main | connmgr =>
                  rw [← Option.some.inj hres]
                  simp
          obtain rfl : s = s' := by
            rw [← Option.some.inj hs', (sbufferRemove_unchanged hres hfail).1]
          exact hs

/-- The inserted measurements that reader `r` was not given yet, oldest first. -/
def BufferRun.pending (s : BufferRun V) (r : Reader) : List (SensorData V) :=
  s.inserted.drop (s.given r).length

theorem Tracks.pending_eq {s : BufferRun V} {q : Broadcast Reader (SensorData V)} (h : Tracks s q)
    (r : Reader) : s.pending r = q.pending r := by
  rw [BufferRun.pending, h.2.1, h.2.2 r, Broadcast.length_given]
  rfl

/-- **The return code of `sbuffer_remove` tells the truth, and failures leave no trace.** In every
    reachable state, a reader was given the front of what was inserted. It gets `SBUFFER_SUCCESS` if
    something is pending for it, and then the oldest of that, the other reader's pending sequence
    being unchanged; otherwise it gets `SBUFFER_NO_DATA`. Any other thread gets `SBUFFER_FAILURE` from
    a buffer that is not empty. Whatever is not a success changes neither the buffer nor `*data`. -/
theorem sbuffer_remove_tells_truth {s : BufferRun V} (h : (openBufferSystem V).Reachable s) :
    (∀ r, s.given r ++ s.pending r = s.inserted ∧ s.buffer.unread r = some (s.pending r)) ∧
      (∀ r data, ∃ x, sbufferRemove s.buffer (Reader.thread r) data = some x ∧
        (x.status = .success ↔ s.pending r ≠ []) ∧
        (s.pending r = [] → x.status = .noData) ∧
        ∀ m rest, s.pending r = m :: rest →
          x.data = m ∧ x.buffer.unread r = some rest ∧
            x.buffer.unread r.other = some (s.pending r.other)) ∧
      (∀ self data, Thread.reader self = none → s.buffer.linked ≠ some [] →
        ∃ x, sbufferRemove s.buffer self data = some x ∧ x.status = .failure) ∧
      ∀ self data x, sbufferRemove s.buffer self data = some x → x.status ≠ .success →
        x.buffer = s.buffer ∧ x.data = data := by
  obtain ⟨q, -, htracks⟩ := bufferSystem_refines (openBufferSystem_reachable h)
  obtain ⟨cells, hrep⟩ := htracks.1
  refine ⟨?_, ?_, ?_, fun self data x hx => sbufferRemove_unchanged hx⟩
  · intro r
    rw [htracks.pending_eq, htracks.2.1, htracks.2.2 r, hrep.unread_eq]
    exact ⟨q.given_append_pending r, rfl⟩
  · intro r data
    obtain ⟨b', cells', hremove, hrep', -⟩ := sbufferRemove_spec hrep r data
    refine ⟨_, hremove, ?_⟩
    simp only [htracks.pending_eq, hrep'.unread_eq]
    by_cases hr : q.cursor r < q.log.length
    · have hpending : q.pending r = q.log[q.cursor r] :: q.log.drop (q.cursor r + 1) :=
        List.drop_eq_getElem_cons hr
      rw [Broadcast.upcoming_of_lt hr, Broadcast.taken_of_lt hr, hpending]
      refine ⟨by simp [hr], fun hnil => absurd hnil (List.cons_ne_nil _ _), ?_⟩
      intro m rest heq
      obtain ⟨rfl, rfl⟩ := List.cons.inj heq
      refine ⟨rfl, ?_, by rw [Broadcast.advance_pending_ne hr r.other_ne]⟩
      rw [Broadcast.pending, Broadcast.advance_cursor_self, Broadcast.advance_log]
    · rw [Broadcast.upcoming_of_not_lt hr, Broadcast.pending_of_not_lt hr]
      exact ⟨by simp, fun _ => by simp, fun m rest heq => absurd heq (by simp)⟩
  · intro self data hself hlinked
    refine ⟨_, sbufferRemove_failure hself ?_ data, rfl⟩
    intro hhead
    refine hlinked ?_
    rw [Sbuffer.linked, hrep.nodes_eq, hrep.head_eq_none.1 hhead]
    rfl

/-- Two measurements are inserted, a third insert fails, and the data manager removes one. -/
def exampleOpenCalls : List (OpenCall ℕ) :=
  [.insert ⟨15, 20, 100⟩ (some 3), .insert ⟨21, 18, 101⟩ (some 5), .insert ⟨37, 19, 102⟩ none,
    .remove .connmgr ⟨0, 0, 0⟩, .remove .datamgr ⟨0, 0, 0⟩]

theorem sbuffer_remove_tells_truth_example :
    ∃ x, sbufferRemove ((openBufferSystem ℕ).after exampleOpenCalls).buffer .datamgr ⟨0, 0, 0⟩
        = some x ∧ x.data = ⟨21, 18, 101⟩ := by
  have hreachable : (openBufferSystem ℕ).Reachable ((openBufferSystem ℕ).after exampleOpenCalls) :=
    StepSystem.reachable_after (by decide)
  obtain ⟨-, hreader, -, -⟩ := sbuffer_remove_tells_truth hreachable
  obtain ⟨x, hremove, -, -, hdata⟩ := hreader .datamgr ⟨0, 0, 0⟩
  exact ⟨x, hremove, (hdata ⟨21, 18, 101⟩ [] (by decide)).1⟩

end SensorGateway
