import Mathlib.Algebra.GroupWithZero.Nat
import SensorGateway.Gateway.Invariant

set_option autoImplicit false

/-! # What the managers deliver

Consequences of the accounting invariant for whole runs of the process:

* the managers handle prefixes of what was inserted, whatever happens between their check and their
  remove (`managers_handle_prefixes`);
* a shutdown loses nothing exactly if each manager leaves its loop with its backlog drained
  (`shutdown_loses_nothing_iff`), since the loops test only their flag;
* a measurement is stored or still in the buffer exactly if no `insert_sensor` call failed
  (`stored_or_unread_iff`), since the read flag is set before the call and its result is ignored. -/

namespace SensorGateway

variable {V D : Type} [Zero V] {process : D → SensorData V → D} {sensors : D}

/-! ## Check, then remove -/

/-- **The check-then-remove loops are safe under preemption.** Whatever the other threads do between
    a manager's look at the buffer and its remove, both managers handle prefixes of what was
    inserted, and never the zeroed placeholder. -/
theorem managers_handle_prefixes {s : Gateway V D}
    (h : (gatewaySystem process sensors).Reachable s) (hid : ∀ m ∈ s.inserted, m.id ≠ 0) :
    s.handled .storagemgr <+: s.inserted ∧ s.handled .datamgr <+: s.inserted ∧
      (s.handled .storagemgr <+: s.handled .datamgr ∨
        s.handled .datamgr <+: s.handled .storagemgr) ∧
      (s.failed = [] → s.table <+: s.inserted) ∧
      ∀ r, placeholder ∉ s.handled r := by
  obtain ⟨q, hinv⟩ := reachable_inv h
  -- all inserted records have an id, so the accounts leave none out
  have hgiven : ∀ r, (q.given r).filter SensorData.hasId = q.given r := fun r =>
    List.filter_eq_self.2 fun m hm => m.hasId_iff.2
      (hid m (hinv.accounts.log_eq ▸ (q.given_prefix r).subset hm))
  have hpre : ∀ r, s.handled r <+: s.inserted := fun r => by
    have heq := hinv.accounts.handled_eq r
    rw [hgiven] at heq
    rw [hinv.accounts.log_eq]
    exact (List.prefix_append _ _).trans (heq ▸ q.given_prefix r)
  refine ⟨hpre _, hpre _, List.prefix_or_prefix_of_prefix (hpre _) (hpre _),
    fun hfailed => hinv.accounts.table_eq hfailed ▸ hpre _, ?_⟩
  intro r hmem
  exact hid _ ((hpre r).subset hmem) rfl

/-- The process over natural numbers as values, the data manager keeping no state. -/
abbrev exampleGateway : StepSystem (Gateway ℕ Unit) (GatewayStep ℕ) :=
  gatewaySystem (fun _ _ => ()) ()

/-- Both managers see the only node; the storage manager is the second to remove it, so the data
    manager finds nothing on its next remove although it saw the node. -/
def preemptedRun : List (GatewayStep ℕ) :=
  [.insert ⟨15, 20, 100⟩ 7, .manager .datamgr true, .manager .datamgr true, .manager .datamgr true,
    .manager .datamgr true, .manager .datamgr true, .manager .storagemgr true,
    .manager .storagemgr true, .manager .datamgr true, .manager .datamgr true,
    .manager .storagemgr true]

theorem managers_handle_prefixes_preempted :
    (exampleGateway.after preemptedRun).handled .storagemgr <+:
      (exampleGateway.after preemptedRun).inserted :=
  (managers_handle_prefixes (StepSystem.reachable_after (by decide))
    (by decide)).1

/-! ## Counting -/

section Counting

variable [DecidableEq V] {s : Gateway V D} {q : Broadcast Reader (SensorData V)}

omit [Zero V] in
/-- A measurement with an id was inserted as often as it was handled and is still pending, once the
    manager holds nothing. -/
theorem Gateway.Accounts.count_inserted (h : s.Accounts q) {r : Reader}
    (hhand : (s.pc r).inHand = []) {m : SensorData V} (hm : m.id ≠ 0) :
    s.inserted.count m = (s.handled r).count m + (q.pending r).count m := by
  have hhandled := h.handled_eq r
  rw [hhand, List.append_nil] at hhandled
  rw [hhandled, List.count_filter (m.hasId_iff.2 hm), h.log_eq, ← q.given_append_pending r,
    List.count_append]

omit [Zero V] in
theorem Gateway.Accounts.count_calls (h : s.Accounts q) (m : SensorData V) :
    (s.handled .storagemgr).count m = s.table.count m + s.failed.count m := by
  rw [← h.calls_perm.count_eq m, List.count_append]

end Counting

omit [Zero V] in
/-- `insert_sensor` is called for measurements with an id only. -/
theorem Gateway.Accounts.failed_id {s : Gateway V D} {q : Broadcast Reader (SensorData V)}
    (h : s.Accounts q) {m : SensorData V} (hm : m ∈ s.failed) : m.id ≠ 0 := by
  have hcall : m ∈ s.handled .storagemgr :=
    h.calls_perm.subset (List.mem_append_right _ hm)
  have hgiven : m ∈ (q.given .storagemgr).filter SensorData.hasId := by
    rw [← h.handled_eq .storagemgr]
    exact List.mem_append_left _ hcall
  exact m.hasId_iff.1 (List.mem_filter.1 hgiven).2

/-! ## No step faults -/

/-- **The threads never fault and never wait for each other.** In every reachable state a manager
    that is still in its loop can make its next step, and so can a connection manager that is still
    running, whatever free block `malloc` returns. -/
theorem gateway_never_stuck {s : Gateway V D} (h : (gatewaySystem process sensors).Reachable s) :
    (∀ r ok, s.pc r ≠ .exited →
      ∃ s', (gatewaySystem process sensors).step s (.manager r ok) = some s') ∧
    ∀ m block, s.connmgrRunning = true → block ∉ s.buffer.heap →
      ∃ s', (gatewaySystem process sensors).step s (.insert m block) = some s' := by
  obtain ⟨q, hinv⟩ := reachable_inv h
  obtain ⟨cells, hrep⟩ := hinv.rep
  constructor
  · intro r ok hpc
    show ∃ s', s.managerStep process r ok = some s'
    unfold Gateway.managerStep
    cases hr : s.pc r with
    | check => exact ⟨_, rfl⟩
    | remove =>
        by_cases hcur : q.cursor r < q.log.length
        · obtain ⟨b', cells', hrem, -, -⟩ := sbufferRemove_success hrep hcur placeholder
          exact ⟨_, by simp only [hrem, Option.bind_eq_bind, Option.bind_some, reduceCtorEq,
            if_false]; rfl⟩
        · have hpending : q.pending r = [] := Broadcast.pending_of_not_lt hcur
          exact ⟨_, by simp only [sbufferRemove_noData hrep hpending, Option.bind_eq_bind,
            Option.bind_some, reduceCtorEq, if_false]; rfl⟩
    | handle data => exact ⟨_, rfl⟩
    | test => exact ⟨_, rfl⟩
    | exited => exact absurd hr hpc
  · intro m block hrun hblock
    obtain ⟨b', cells', hins, -, -⟩ := sbufferInsert_spec hrep hblock m
    have hfree : (s.buffer.heap.lookup block).isSome = false := by
      rw [Finmap.lookup_eq_none.2 hblock]
      rfl
    show ∃ s', s.step process (.insert m block) = some s'
    unfold Gateway.step
    exact ⟨_, by simp only [hrun, hfree, and_self, if_true, hins, Option.bind_eq_bind,
      Option.bind_some]; rfl⟩

/-! ## Shutdown -/

/-- The step takes manager `r` out of its loop. -/
def LeavesLoop (s : Gateway V D) (l : GatewayStep V) (r : Reader) : Prop :=
  (∃ ok, l = .manager r ok) ∧ s.pc r = .test ∧ s.run r = false

/-- If the step takes a manager out of its loop, the manager has no unread measurement with an id. -/
def ExitDrained (s : Gateway V D) (l : GatewayStep V) : Prop :=
  ∀ r, LeavesLoop s l r → ∀ ms, s.buffer.unread r = some ms → ∀ m ∈ ms, m.id = 0

/-- No manager that has left its loop has an unread measurement with an id. -/
def Gateway.Drained (s : Gateway V D) : Prop :=
  ∀ r, s.pc r = .exited → ∀ ms, s.buffer.unread r = some ms → ∀ m ∈ ms, m.id = 0

section Shutdown

variable {s s' : Gateway V D} {q q' : Broadcast Reader (SensorData V)} {l : GatewayStep V}
  {r : Reader}

omit [Zero V] in
theorem goto_exited_iff {r' : Reader} {pc' : ManagerPc V} (hpc : s.pc r' ≠ .exited)
    (hpc' : pc' ≠ .exited) : (s.goto r' pc').pc r = .exited ↔ s.pc r = .exited := by
  by_cases hr : r = r'
  · subst hr
    rw [goto_pc_self]
    exact iff_of_false hpc' hpc
  · rw [goto_pc_ne _ _ _ hr]

/-- A manager has left its loop after a step exactly if it had before or the step takes it out. -/
theorem GatewayMove.exited_iff (hm : GatewayMove process q s l q' s') :
    s'.pc r = .exited ↔ s.pc r = .exited ∨ LeavesLoop s l r := by
  -- a manager step is about one reader, whose `pc` the move names
  have hstay : ∀ {r' : Reader} {ok : Bool} {pc : ManagerPc V}, s.pc r' = pc →
      (pc = .test → s.run r' = true) → ¬ LeavesLoop s (.manager r' ok) r := by
    rintro r' ok pc hpc hrun ⟨⟨ok', hl⟩, htest, hfalse⟩
    obtain ⟨rfl, -⟩ := GatewayStep.manager.inj hl
    exact absurd (hfalse.symm.trans (hrun (hpc.symm.trans htest))) (by decide)
  have hother : ∀ l : GatewayStep V, (∀ ok, l ≠ .manager r ok) →
      (s.pc r = .exited ↔ s.pc r = .exited ∨ LeavesLoop s l r) :=
    fun l hl => (or_iff_left fun hleave => hl _ hleave.1.choose_spec).symm
  cases hm with
  | look r' ok pc' hpc hpc' =>
      rw [or_iff_left (hstay hpc nofun)]
      refine goto_exited_iff (by rw [hpc]; exact nofun) ?_
      rcases hpc' with rfl | rfl <;> exact nofun
  | take r' ok b' hpc hr =>
      rw [or_iff_left (hstay hpc nofun)]
      exact goto_exited_iff (s := { s with buffer := b' }) (by rw [hpc]; exact nofun) nofun
  | noData r' ok hpc hr =>
      rw [or_iff_left (hstay hpc nofun)]
      exact goto_exited_iff (by rw [hpc]; exact nofun) nofun
  | skip r' ok data hpc hid =>
      rw [or_iff_left (hstay hpc nofun)]
      exact goto_exited_iff (by rw [hpc]; exact nofun) nofun
  | handle r' ok data hpc hid =>
      rw [or_iff_left (hstay hpc nofun), handle_pc]
      exact goto_exited_iff (by rw [hpc]; exact nofun) nofun
  | again r' ok hpc hrun =>
      rw [or_iff_left (hstay hpc fun _ => hrun)]
      exact goto_exited_iff (by rw [hpc]; exact nofun) nofun
  | exit r' ok hpc hrun =>
      by_cases hr : r = r'
      · subst hr
        rw [goto_pc_self]
        exact iff_of_true rfl (Or.inr ⟨⟨ok, rfl⟩, hpc, hrun⟩)
      · rw [goto_pc_ne _ _ _ hr, or_iff_left]
        rintro ⟨⟨ok', hl⟩, -, -⟩
        exact hr (GatewayStep.manager.inj hl).1.symm
  | insert | connmgrExit | joinConnmgr | clearDatamgr | clearStoragemgr | joinDatamgr
  | joinStoragemgr => exact hother _ fun _ => nofun

/-- Nothing is inserted any more once a manager has left its loop, so its backlog is final. -/
theorem Gateway.Inv.pending_of_exited (h : s.Inv q) (hm : GatewayMove process q s l q' s')
    (hr : s'.pc r = .exited) : q'.pending r = q.pending r := by
  cases hm with
  | insert m block b' hrun =>
      -- a cleared flag means that the connection manager was joined, so it cannot insert
      have hdone : s.connmgrRunning = false :=
        h.control.connmgr_done (h.control.cleared r (h.control.exited r hr))
      exact absurd (hdone.symm.trans hrun) (by decide)
  | take r' ok b' hpc hcur =>
      by_cases hrr : r = r'
      · subst hrr
        rw [goto_pc_self] at hr
        exact absurd hr nofun
      · exact Broadcast.advance_pending_ne hcur hrr
  | look | noData | skip | handle | again | exit | connmgrExit | joinConnmgr | clearDatamgr
  | clearStoragemgr | joinDatamgr | joinStoragemgr => rfl

/-- A step keeps the backlogs drained exactly if it is no exit with a backlog. -/
theorem Gateway.Inv.drained_step (h : s.Inv q) (h' : s'.Inv q')
    (hm : GatewayMove process q s l q' s') : s'.Drained ↔ s.Drained ∧ ExitDrained s l := by
  simp only [Gateway.Drained, ExitDrained, h.unread_eq, h'.unread_eq, Option.some.injEq,
    forall_eq', hm.exited_iff]
  constructor
  · intro hdrained
    have hpending : ∀ r, s.pc r = .exited ∨ LeavesLoop s l r → ∀ m ∈ q.pending r, m.id = 0 :=
      fun r hr => h.pending_of_exited hm (hm.exited_iff.2 hr) ▸ hdrained r hr
    exact ⟨fun r hr => hpending r (Or.inl hr), fun r hr => hpending r (Or.inr hr)⟩
  · rintro ⟨hdrained, hexit⟩ r hr
    rw [h.pending_of_exited hm (hm.exited_iff.2 hr)]
    exact hr.elim (hdrained r) (hexit r)

theorem drained_iff_allSteps {ls : List (GatewayStep V)}
    (h : (gatewaySystem process sensors).exec (.initial sensors) ls = some s) :
    s.Drained ↔
      (gatewaySystem process sensors).AllSteps ExitDrained (.initial sensors) ls := by
  refine StepSystem.allSteps_iff (T := gatewaySystem process sensors) (fun s => ∃ q, s.Inv q)
    ⟨.empty, inv_initial⟩ (fun r hr => absurd hr nofun) ?_ h
  rintro s l s' ⟨q, hinv⟩ hs
  obtain ⟨q', hm, hinv'⟩ := hinv.step hs
  exact ⟨⟨q', hinv'⟩, hinv.drained_step hinv' hm⟩

end Shutdown

/-- **What a shutdown loses.** Once both managers are joined, each of them has handled every
    measurement with an id that was inserted, as often as it was inserted, exactly if no manager left
    its loop with an unread one: the loops test their flag and not the buffer. -/
theorem shutdown_loses_nothing_iff [DecidableEq V] {ls : List (GatewayStep V)} {s : Gateway V D}
    (h : (gatewaySystem process sensors).exec (.initial sensors) ls = some s)
    (hjoined : s.main = .joined) :
    (∀ r m, m.id ≠ 0 → s.inserted.count m ≤ (s.handled r).count m) ↔
      (gatewaySystem process sensors).AllSteps ExitDrained (.initial sensors) ls := by
  obtain ⟨q, hinv⟩ := reachable_inv ⟨ls, h⟩
  have hexited : ∀ r, s.pc r = .exited := hinv.control.joined hjoined
  -- both managers are out of their loops and hold nothing: handled and pending is all
  have hcount : ∀ r m, m.id ≠ 0 →
      s.inserted.count m = (s.handled r).count m + (q.pending r).count m := fun r m hm =>
    hinv.accounts.count_inserted (by rw [hexited r]; rfl) hm
  rw [← drained_iff_allSteps h]
  simp only [Gateway.Drained, hinv.unread_eq, Option.some.injEq, forall_eq']
  constructor
  · intro hall r _ m hmem
    by_contra hid
    have hpos := List.count_pos_iff.2 hmem
    have hle := hall r m hid
    have heq := hcount r m hid
    omega
  · intro hdrained r m hid
    have hzero : (q.pending r).count m = 0 :=
      List.count_eq_zero.2 fun hmem => hid (hdrained r (hexited r) m hmem)
    rw [hcount r m hid, hzero, Nat.add_zero]

/-- Two measurements arrive; each manager handles the first one, and the flags are cleared before it
    tests them. -/
def backlogRun : List (GatewayStep ℕ) :=
  [.insert ⟨15, 20, 100⟩ 7, .insert ⟨15, 21, 101⟩ 3, .manager .datamgr true,
    .manager .datamgr true, .manager .datamgr true, .manager .storagemgr true,
    .manager .storagemgr true, .manager .storagemgr true, .connmgrExit, .main, .main, .main,
    .manager .datamgr true, .manager .storagemgr true, .main, .main]

/-- A shutdown can lose a measurement although every `insert_sensor` call succeeds. -/
theorem shutdown_loses_backlog :
    ¬ ∀ (ls : List (GatewayStep ℕ)) (s : Gateway ℕ Unit),
      exampleGateway.exec (.initial ()) ls = some s →
      s.main = .joined → s.failed = [] →
      ∀ r m, m.id ≠ 0 → s.inserted.count m ≤ (s.handled r).count m := by
  intro hall
  have hle := hall backlogRun _ (StepSystem.exec_after (by decide)) (by decide) (by decide)
    .datamgr ⟨15, 21, 101⟩ (by decide)
  exact absurd hle (by decide)

theorem shutdown_loses_nothing_iff_backlog :
    (∀ r m, m.id ≠ 0 → (exampleGateway.after backlogRun).inserted.count m
        ≤ ((exampleGateway.after backlogRun).handled r).count m) ↔
      exampleGateway.AllSteps ExitDrained (.initial ()) backlogRun :=
  shutdown_loses_nothing_iff (StepSystem.exec_after (by decide))
    (by decide)

/-! ## Database failures -/

/-- If the step makes an `insert_sensor` call, the call succeeds. -/
def InsertSucceeds (s : Gateway V D) (l : GatewayStep V) : Prop :=
  ∀ ok data, l = .manager .storagemgr ok → s.pc .storagemgr = .handle data → data.id ≠ 0 →
    ok = true

theorem GatewayMove.failed_nil_iff {s s' : Gateway V D} {q q' : Broadcast Reader (SensorData V)}
    {l : GatewayStep V} (hm : GatewayMove process q s l q' s') :
    s'.failed = [] ↔ s.failed = [] ∧ InsertSucceeds s l := by
  have hother : ∀ l : GatewayStep V,
      (∀ ok data, l = .manager .storagemgr ok → s.pc .storagemgr = .handle data → data.id = 0) →
      (s.failed = [] ↔ s.failed = [] ∧ InsertSucceeds s l) := fun l hl =>
    (and_iff_left fun ok data heq hpc hid => absurd (hl ok data heq hpc) hid).symm
  -- a manager that is not about to handle a record makes no call
  have hidle : ∀ {r : Reader} {ok : Bool} {pc : ManagerPc V}, s.pc r = pc →
      (∀ data, pc = .handle data → data.id = 0) →
      (s.failed = [] ↔ s.failed = [] ∧ InsertSucceeds s (.manager r ok)) := by
    intro r ok pc hpc hnone
    refine hother _ ?_
    intro ok' data heq hhandle
    obtain ⟨rfl, -⟩ := GatewayStep.manager.inj heq
    exact hnone data (hpc.symm.trans hhandle)
  cases hm with
  | look r ok pc' hpc hpc' => exact hidle hpc fun _ heq => absurd heq (by simp)
  | take r ok b' hpc hr => exact hidle hpc fun _ heq => absurd heq (by simp)
  | noData r ok hpc hr => exact hidle hpc fun _ heq => absurd heq (by simp)
  | skip r ok data hpc hid => exact hidle hpc fun data' heq => ManagerPc.handle.inj heq ▸ hid
  | again r ok hpc hrun => exact hidle hpc fun _ heq => absurd heq (by simp)
  | exit r ok hpc hrun => exact hidle hpc fun _ heq => absurd heq (by simp)
  | handle r ok data hpc hid =>
      cases r with
      | datamgr => exact hother _ fun _ _ heq _ => absurd (GatewayStep.manager.inj heq).1 (by decide)
      | storagemgr =>
          -- the only move that makes a call, and `ok` is its outcome
          have hcall : InsertSucceeds s (.manager .storagemgr ok) ↔ ok = true := by
            refine ⟨fun hsucc => hsucc ok data rfl hpc hid, ?_⟩
            intro hok ok' data' heq _ _
            rw [← (GatewayStep.manager.inj heq).2, hok]
          rw [hcall]
          cases ok with
          | true => exact (and_iff_left rfl).symm
          | false => simp [Gateway.handle]
  | insert | connmgrExit | joinConnmgr | clearDatamgr | clearStoragemgr | joinDatamgr
  | joinStoragemgr => exact hother _ fun _ _ heq => absurd heq (by simp)

theorem failed_nil_iff_allSteps {ls : List (GatewayStep V)} {s : Gateway V D}
    (h : (gatewaySystem process sensors).exec (.initial sensors) ls = some s) :
    s.failed = [] ↔
      (gatewaySystem process sensors).AllSteps InsertSucceeds (.initial sensors) ls := by
  refine StepSystem.allSteps_iff (T := gatewaySystem process sensors) (J := fun s => s.failed = [])
    (fun s => ∃ q, s.Inv q) ⟨.empty, inv_initial⟩ rfl ?_ h
  rintro s l s' ⟨q, hinv⟩ hs
  obtain ⟨q', hm, hinv'⟩ := hinv.step hs
  exact ⟨⟨q', hinv'⟩, hm.failed_nil_iff⟩

/-- **What a database failure loses.** Between two iterations of the storage manager, every
    measurement with an id that was inserted is in the table or still unread in the buffer exactly if
    no `insert_sensor` call failed: the read flag is set before the call, and a failed call is not
    repeated. -/
theorem stored_or_unread_iff [DecidableEq V] {ls : List (GatewayStep V)} {s : Gateway V D}
    (h : (gatewaySystem process sensors).exec (.initial sensors) ls = some s)
    (hidle : ∀ data, s.pc .storagemgr ≠ .handle data) :
    (∃ unread, s.buffer.unread .storagemgr = some unread ∧
        ∀ m, m.id ≠ 0 → s.inserted.count m ≤ s.table.count m + unread.count m) ↔
      (gatewaySystem process sensors).AllSteps InsertSucceeds (.initial sensors) ls := by
  obtain ⟨q, hinv⟩ := reachable_inv ⟨ls, h⟩
  have hcount : ∀ m, m.id ≠ 0 → s.inserted.count m =
      s.table.count m + s.failed.count m + (q.pending .storagemgr).count m := fun m hm => by
    rw [hinv.accounts.count_inserted (ManagerPc.inHand_of_idle hidle) hm, hinv.accounts.count_calls]
  rw [← failed_nil_iff_allSteps h]
  simp only [hinv.unread_eq, Option.some.injEq, exists_eq_left']
  constructor
  · intro hall
    refine List.eq_nil_iff_forall_not_mem.2 ?_
    intro m hmem
    have hid := hinv.accounts.failed_id hmem
    have hpos := List.count_pos_iff.2 hmem
    have hle := hall m hid
    have heq := hcount m hid
    omega
  · intro hfailed m hid
    have heq := hcount m hid
    rw [hfailed, List.count_nil] at heq
    omega

/-- The storage manager takes the only measurement, and its `insert_sensor` call fails. -/
def failedInsertRun : List (GatewayStep ℕ) :=
  [.insert ⟨15, 20, 100⟩ 7, .manager .storagemgr true, .manager .storagemgr true,
    .manager .storagemgr false]

/-- A database failure can lose a measurement. -/
theorem failed_insert_loses :
    ¬ ∀ (ls : List (GatewayStep ℕ)) (s : Gateway ℕ Unit),
      exampleGateway.exec (.initial ()) ls = some s →
      (∀ data, s.pc .storagemgr ≠ .handle data) →
      ∃ unread, s.buffer.unread .storagemgr = some unread ∧
        ∀ m, m.id ≠ 0 → s.inserted.count m ≤ s.table.count m + unread.count m := by
  intro hall
  obtain ⟨unread, hunread, hle⟩ := hall failedInsertRun _ (StepSystem.exec_after (by decide)) nofun
  obtain rfl : [] = unread := Option.some.inj (Eq.trans (by decide) hunread)
  exact absurd (hle ⟨15, 20, 100⟩ (by decide)) (by decide)

theorem stored_or_unread_iff_failed :
    (∃ unread, (exampleGateway.after failedInsertRun).buffer.unread .storagemgr = some unread ∧
        ∀ m, m.id ≠ 0 → (exampleGateway.after failedInsertRun).inserted.count m
          ≤ (exampleGateway.after failedInsertRun).table.count m + unread.count m) ↔
      exampleGateway.AllSteps InsertSucceeds (.initial ()) failedInsertRun :=
  stored_or_unread_iff (StepSystem.exec_after (by decide)) nofun

end SensorGateway
