import SensorGateway.Gateway.Delivery
import SensorGateway.Library.CriticalSection
import SensorGateway.Sbuffer.Accesses

set_option autoImplicit false

/-! # `mutex_buf`

In `Gateway` each call on the buffer is one step. Here a call is what it is in the source: the thread
locks `mutex_buf`, accesses the buffer one field or node at a time and unlocks the mutex, while the
other threads run on. Since every call is made under the mutex, the calls are atomic
(`buffer_calls_atomic`). -/

namespace SensorGateway

variable {V D : Type}

/-- The thread that makes a step. -/
def GatewayStep.thread : GatewayStep V → Thread
  | .insert .. | .connmgrExit => .connmgr
  | .manager r _ => r.thread
  | .main => .main

/-- Where a thread is while it holds `mutex_buf`. -/
inductive BufferPlace (V : Type) where
  | first (pc : FirstPc)
  | remove (r : Reader) (frame : RemoveFrame V)
  | insert (data : SensorData V) (block : Addr) (pc : InsertPc)

/-- What a call on the buffer returns. -/
inductive BufferReturn (V : Type) where
  | first (node : Ptr)
  | removed (status : SbufferStatus) (data : SensorData V)
  | inserted (status : SbufferStatus)

/-- The next access of the thread that holds `mutex_buf`. -/
def bufferAccess : BufferPlace V × Sbuffer V →
    Option (LoopStep (BufferPlace V × Sbuffer V) (BufferReturn V × Sbuffer V))
  | (.first pc, b) =>
      (firstAccess (pc, b)).map (LoopStep.map (Prod.map .first id) (Prod.map .first id))
  | (.remove r frame, b) =>
      (removeAccess r (frame, b)).map (LoopStep.map (Prod.map (.remove r) id)
        (Prod.map (fun x => .removed x.1 x.2) id))
  | (.insert data block pc, b) =>
      (insertAccess data block (pc, b)).map (LoopStep.map (Prod.map (.insert data block) id)
        (Prod.map .inserted id))

/-- The call on the buffer that a thread makes in a step. -/
def Gateway.bufferCall [Zero V] (s : Gateway V D) : GatewayStep V → Option (BufferPlace V)
  | .insert m block =>
      if s.connmgrRunning = true ∧ (s.buffer.heap.lookup block).isSome = false then
        some (.insert m block .malloc)
      else none
  | .manager r _ =>
      match s.pc r with
      | .check => some (.first .empty)
      | .remove => some (.remove r ⟨.empty, none, placeholder⟩)
      | .handle _ | .test | .exited => none
  | .connmgrExit | .main => none

/-- What a thread does with the result once it has unlocked the mutex. -/
def Gateway.afterCall : GatewayStep V → BufferReturn V → Gateway V D → Option (Gateway V D)
  | .insert m _, .inserted status, s =>
      if status = .success then some { s with inserted := s.inserted ++ [m] } else none
  | .manager r _, .first node, s => some (s.goto r (if node = none then .test else .remove))
  | .manager r _, .removed status data, s =>
      if status = .failure then none else some (s.goto r (.handle data))
  | _, _, _ => none

/-- The process with its critical sections. -/
def gatewaySections [Zero V] (process : D → SensorData V → D) (sensors : D) :
    CriticalSections (Gateway V D) (GatewayStep V) Thread (Sbuffer V) (BufferPlace V)
      (BufferReturn V) where
  atomic := gatewaySystem process sensors
  thread := GatewayStep.thread
  data := Gateway.buffer
  setData s buffer := { s with buffer }
  enter := Gateway.bufferCall
  access := bufferAccess
  leave := Gateway.afterCall

/-! ## The steps between the calls -/

section Outside

variable [Zero V] {process : D → SensorData V → D} {s s' : Gateway V D}

/-- A manager that makes no call on the buffer handles a record or tests its flag, and does not look at
    the buffer. -/
theorem manager_outside {r : Reader} {ok : Bool} (hcall : s.bufferCall (.manager r ok) = none)
    (hs : s.step process (.manager r ok) = some s') :
    (∀ b, ({ s with buffer := b } : Gateway V D).step process (.manager r ok) =
        some { s' with buffer := b }) ∧
      s'.buffer = s.buffer ∧ s'.connmgrRunning = s.connmgrRunning ∧
      ∀ r', r' ≠ r → s'.pc r' = s.pc r' := by
  have hstep : ∀ b, ({ s with buffer := b } : Gateway V D).step process (.manager r ok) =
      ({ s with buffer := b } : Gateway V D).managerStep process r ok := fun _ => rfl
  have hs : s.managerStep process r ok = some s' := hs
  simp only [hstep]
  unfold Gateway.managerStep at hs ⊢
  unfold Gateway.bufferCall at hcall
  cases hpc : s.pc r with
  | check | remove => simp [hpc] at hcall
  | exited =>
      rw [hpc] at hs
      exact absurd hs (by simp)
  | test =>
      rw [hpc] at hs
      obtain rfl := Option.some.inj hs
      refine ⟨fun b => ?_, rfl, rfl, fun r' hr' => goto_pc_ne s r _ hr'⟩
      dsimp only
      rw [hpc]
      rfl
  | handle data =>
      rw [hpc] at hs
      obtain rfl := Option.some.inj hs
      by_cases hid : data.id = 0
      · refine ⟨fun b => ?_, ?_, ?_, fun r' hr' => ?_⟩
        · simp only [hpc, if_pos hid]
          rfl
        · simp only [if_pos hid]
          rfl
        · simp only [if_pos hid]
          rfl
        · simp only [if_pos hid]
          exact goto_pc_ne s r .test hr'
      · refine ⟨fun b => ?_, ?_, ?_, fun r' hr' => ?_⟩
        · simp only [hpc, if_neg hid]
          cases r <;> cases ok <;> rfl
        · simp only [if_neg hid]
          cases r <;> cases ok <;> rfl
        · simp only [if_neg hid, handle_connmgrRunning]
          rfl
        · simp only [if_neg hid, handle_pc]
          exact goto_pc_ne s r .test hr'

/-- `main` does not look at the buffer either. -/
theorem main_outside (hs : s.step process .main = some s') :
    (∀ b, ({ s with buffer := b } : Gateway V D).step process .main = some { s' with buffer := b }) ∧
      s'.buffer = s.buffer ∧ s'.connmgrRunning = s.connmgrRunning ∧ s'.pc = s.pc := by
  have hstep : ∀ b, ({ s with buffer := b } : Gateway V D).step process .main =
      ({ s with buffer := b } : Gateway V D).mainStep := fun _ => rfl
  have hs : s.mainStep = some s' := hs
  simp only [hstep]
  unfold Gateway.mainStep at hs ⊢
  cases hmain : s.main with
  | joinConnmgr =>
      simp only [hmain] at hs ⊢
      split at hs
      · exact absurd hs (by simp)
      · next hrun =>
          obtain rfl := Option.some.inj hs
          exact ⟨fun b => if_neg hrun, rfl, rfl, rfl⟩
  | clearDatamgr | clearStoragemgr =>
      simp only [hmain] at hs ⊢
      obtain rfl := Option.some.inj hs
      exact ⟨fun b => rfl, rfl, rfl, rfl⟩
  | joinDatamgr | joinStoragemgr =>
      simp only [hmain] at hs ⊢
      split at hs
      · next hpc =>
          obtain rfl := Option.some.inj hs
          exact ⟨fun b => rfl, rfl, rfl, rfl⟩
      · exact absurd hs (by simp)
  | joined =>
      simp only [hmain] at hs
      exact absurd hs (by simp)

end Outside

/-! ## The calls -/

theorem bufferAccess_first {pc : FirstPc} {b b' : Sbuffer V} {node : Ptr}
    (h : LoopReturns firstAccess (pc, b) (node, b')) :
    LoopReturns bufferAccess (.first pc, b) (.first node, b') :=
  h.map (f := Prod.map BufferPlace.first id) (g := Prod.map BufferReturn.first id) fun _ => rfl

theorem bufferAccess_remove {r : Reader} {frame : RemoveFrame V} {b b' : Sbuffer V}
    {x : SbufferStatus × SensorData V} (h : LoopReturns (removeAccess r) (frame, b) (x, b')) :
    LoopReturns bufferAccess (.remove r frame, b) (.removed x.1 x.2, b') :=
  h.map (f := Prod.map (BufferPlace.remove r) id)
    (g := Prod.map (fun x => BufferReturn.removed x.1 x.2) id) fun _ => rfl

theorem bufferAccess_insert {data : SensorData V} {block : Addr} {pc : InsertPc} {b b' : Sbuffer V}
    {status : SbufferStatus} (h : LoopReturns (insertAccess data block) (pc, b) (status, b')) :
    LoopReturns bufferAccess (.insert data block pc, b) (.inserted status, b') :=
  h.map (f := Prod.map (BufferPlace.insert data block) id) (g := Prod.map BufferReturn.inserted id)
    fun _ => rfl

section Calls

variable [Zero V] {process : D → SensorData V → D} {sensors : D} {s : Gateway V D}

/-- A call on the buffer comes to its end, and is the step that the thread makes in `Gateway`. -/
theorem call_finish (h : (gatewaySystem process sensors).Reachable s) {l : GatewayStep V}
    {place : BufferPlace V} (hcall : s.bufferCall l = some place) : ∃ r b s',
      LoopReturns bufferAccess (place, s.buffer) (r, b) ∧
        Gateway.afterCall l r { s with buffer := b } = some s' ∧ s.step process l = some s' := by
  obtain ⟨hmanager, hinsert⟩ := gateway_never_stuck h
  cases l with
  | insert m block =>
      simp only [Gateway.bufferCall] at hcall
      split at hcall
      · next hguard =>
          obtain rfl := Option.some.inj hcall
          have hblock : block ∉ s.buffer.heap := by
            rw [← Finmap.lookup_eq_none, ← Option.not_isSome_iff_eq_none, hguard.2]
            simp
          obtain ⟨s', hs⟩ := hinsert m block hguard.1 hblock
          have hs : s.step process (.insert m block) = some s' := hs
          have hs' := hs
          unfold Gateway.step at hs'
          dsimp only at hs'
          rw [if_pos hguard] at hs'
          obtain ⟨⟨status, b⟩, hins, hs'⟩ := Option.bind_eq_some_iff.1 hs'
          exact ⟨.inserted status, b, s', bufferAccess_insert (insert_returns hins), hs', hs⟩
      · exact absurd hcall (by simp)
  | manager r ok =>
      have hpc : s.pc r ≠ .exited := fun hpc => by simp [Gateway.bufferCall, hpc] at hcall
      obtain ⟨s', hs⟩ := hmanager r ok hpc
      have hs : s.step process (.manager r ok) = some s' := hs
      have hs' : s.managerStep process r ok = some s' := hs
      unfold Gateway.managerStep at hs'
      cases hr : s.pc r with
      | check =>
          simp only [Gateway.bufferCall, hr, Option.some.injEq] at hcall
          subst hcall
          rw [hr] at hs'
          exact ⟨.first (sbufferGetFirstNode s.buffer), s.buffer, s',
            bufferAccess_first (getFirstNode_returns s.buffer), hs', hs⟩
      | remove =>
          simp only [Gateway.bufferCall, hr, Option.some.injEq] at hcall
          subst hcall
          rw [hr] at hs'
          obtain ⟨res, hremove, hs'⟩ := Option.bind_eq_some_iff.1 hs'
          exact ⟨.removed res.status res.data, res.buffer, s',
            bufferAccess_remove (remove_returns hremove), hs', hs⟩
      | handle data | test | exited => simp [Gateway.bufferCall, hr] at hcall
  | connmgrExit | main => exact absurd hcall (by simp [Gateway.bufferCall])

end Calls

/-- The parts fit together. -/
theorem gatewaySections_sound [Zero V] (process : D → SensorData V → D) (sensors : D) :
    (gatewaySections process sensors).Sound where
  data_setData _ _ := rfl
  setData_data _ := rfl
  setData_setData _ _ _ := rfl
  outside := by
    intro s l s' hcall hs b
    cases l with
    | insert m block =>
        have hcall : s.bufferCall (.insert m block) = none := hcall
        have hs : s.step process (.insert m block) = some s' := hs
        simp only [Gateway.bufferCall] at hcall
        simp only [Gateway.step] at hs
        split at hs
        · next hguard => exact absurd hcall (by simp [hguard])
        · exact absurd hs (by simp)
    | connmgrExit =>
        have hs : s.step process .connmgrExit = some s' := hs
        simp only [Gateway.step] at hs
        split at hs
        · next hrun =>
            obtain rfl := Option.some.inj hs
            exact ⟨rfl, if_pos hrun⟩
        · exact absurd hs (by simp)
    | manager r ok =>
        have hs : s.step process (.manager r ok) = some s' := hs
        obtain ⟨hstep, -⟩ := manager_outside hcall hs
        exact ⟨hcall, hstep b⟩
    | main =>
        have hs : s.step process .main = some s' := hs
        obtain ⟨hstep, -⟩ := main_outside hs
        exact ⟨rfl, hstep b⟩
  stable := by
    intro s l s' l' hcall hs hthread
    have hs : s.step process l = some s' := hs
    -- the threads other than the one that makes the step are where they were
    obtain ⟨hbuffer, hrunning, hpc⟩ : s'.buffer = s.buffer ∧
        (l.thread ≠ .connmgr → s'.connmgrRunning = s.connmgrRunning) ∧
        ∀ r, l.thread ≠ r.thread → s'.pc r = s.pc r := by
      cases l with
      | insert m block =>
          have hcall : s.bufferCall (.insert m block) = none := hcall
          simp only [Gateway.bufferCall] at hcall
          simp only [Gateway.step] at hs
          split at hs
          · next hguard => exact absurd hcall (by simp [hguard])
          · exact absurd hs (by simp)
      | connmgrExit =>
          simp only [Gateway.step] at hs
          split at hs
          · obtain rfl := Option.some.inj hs
            exact ⟨rfl, fun hne => absurd rfl hne, fun _ _ => rfl⟩
          · exact absurd hs (by simp)
      | manager r ok =>
          obtain ⟨-, hbuffer, hrunning, hpc⟩ := manager_outside hcall hs
          exact ⟨hbuffer, fun _ => hrunning, fun r' hr' => hpc r' fun he => hr' (he ▸ rfl)⟩
      | main =>
          obtain ⟨-, hbuffer, hrunning, hpc⟩ := main_outside hs
          exact ⟨hbuffer, fun _ => hrunning, fun r _ => congrFun hpc r⟩
    have hthread : l'.thread ≠ l.thread := hthread
    cases l' with
    | insert m block =>
        show s'.bufferCall (.insert m block) = s.bufferCall (.insert m block)
        rw [Gateway.bufferCall, Gateway.bufferCall, hbuffer, hrunning hthread.symm]
    | manager r ok =>
        show s'.bufferCall (.manager r ok) = s.bufferCall (.manager r ok)
        rw [Gateway.bufferCall, Gateway.bufferCall, hpc r hthread.symm]
    | connmgrExit | main => rfl
  finish h hcall := call_finish h hcall

/-- **The mutex makes the calls on the buffer atomic.** Between calls the process with `mutex_buf`, which
    makes one access at a time, is in the same states as `Gateway`, in which every call is one step.
    And whoever holds the mutex, and wherever it is in its call: it makes the accesses that are left
    without a fault, and unlocks the mutex. -/
theorem buffer_calls_atomic [Zero V] (process : D → SensorData V → D) (sensors : D) :
    (∀ s, (gatewaySections process sensors).locked.Reachable ⟨s, none⟩ ↔
      (gatewaySystem process sensors).Reachable s) ∧
    ∀ s l place, (gatewaySections process sensors).locked.Reachable ⟨s, some (l, place)⟩ →
      ∃ n s', (gatewaySections process sensors).locked.exec ⟨s, some (l, place)⟩
        (List.replicate n .access) = some ⟨s', none⟩ :=
  ⟨fun _ => (gatewaySections_sound process sensors).reachable_iff,
    fun _ _ _ => (gatewaySections_sound process sensors).releases⟩

/-- The critical sections of a process whose data manager does nothing with the measurements. -/
def exampleSections : CriticalSections (Gateway ℕ Unit) (GatewayStep ℕ) Thread (Sbuffer ℕ)
    (BufferPlace ℕ) (BufferReturn ℕ) :=
  gatewaySections (fun _ _ => ()) ()

/-- The data manager finds the buffer empty, and tests its flag while the connection manager holds the
    mutex in its first `sbuffer_insert`. -/
def insertingRun : List (LockedStep (GatewayStep ℕ)) :=
  [.lock (.manager .datamgr true), .access, .access, .lock (.insert ⟨15, 20, 100⟩ 7), .access,
    .outside (.manager .datamgr true)]

theorem buffer_calls_atomic_inserting :
    ∃ s n s', exampleSections.locked.Reachable
        ⟨s, some (.insert ⟨15, 20, 100⟩ 7, .insert ⟨15, 20, 100⟩ 7 .empty)⟩ ∧
      exampleSections.locked.exec
        ⟨s, some (.insert ⟨15, 20, 100⟩ 7, .insert ⟨15, 20, 100⟩ 7 .empty)⟩
        (List.replicate n .access) = some ⟨s', none⟩ ∧
      (gatewaySystem (V := ℕ) (fun _ _ => ()) ()).Reachable s' := by
  have hreach : exampleSections.locked.Reachable
      ⟨(exampleSections.locked.after insertingRun).state,
        some (.insert ⟨15, 20, 100⟩ 7, .insert ⟨15, 20, 100⟩ 7 .empty)⟩ :=
    StepSystem.reachable_after (by decide : (exampleSections.locked.exec
      exampleSections.locked.init insertingRun).isSome = true)
  obtain ⟨hatomic, hreleases⟩ := buffer_calls_atomic (V := ℕ) (fun _ _ => ()) ()
  obtain ⟨n, s', hs'⟩ := hreleases _ _ _ hreach
  exact ⟨_, n, s', hreach, hs', (hatomic s').1 (hreach.exec hs')⟩

end SensorGateway
