import SensorGateway.Gateway.Basic

set_option autoImplicit false

/-! # What a step of the gateway can do, and what holds in every reachable state

`GatewayMove` lists what a step can do once the buffer is replaced by the broadcast log it
represents: every step of the process is one of these moves (`step_move`), so every invariant is a
case analysis over them and none of them looks at the heap again.

The invariant `Gateway.Inv` accounts for every measurement: what a manager has handled, followed by
what it holds, is what it was given, less the records with id 0. -/

namespace SensorGateway

variable {V D : Type}

/-- The measurement has an id other than the 0 of the placeholder. -/
def SensorData.hasId (m : SensorData V) : Bool := m.id != 0

@[simp] theorem SensorData.hasId_iff (m : SensorData V) : m.hasId = true ↔ m.id ≠ 0 := by
  simp [hasId]

/-- The record that a manager holds and is going to handle. -/
def ManagerPc.inHand : ManagerPc V → List (SensorData V)
  | .handle data => [data].filter SensorData.hasId
  | .check | .remove | .test | .exited => []

theorem ManagerPc.inHand_of_idle {pc : ManagerPc V} (h : ∀ data, pc ≠ .handle data) :
    pc.inHand = [] := by
  cases pc with
  | handle data => exact absurd rfl (h data)
  | check | remove | test | exited => rfl

@[simp] theorem placeholder_hasId [Zero V] : (placeholder : SensorData V).hasId = false := rfl

/-! ## Moves -/

/-- `GatewayMove process q s l q' s'`: the step `l` takes the process from `s` to `s'`, and the log
    that its buffer represents from `q` to `q'`. -/
inductive GatewayMove [Zero V] (process : D → SensorData V → D)
    (q : Broadcast Reader (SensorData V)) (s : Gateway V D) :
    GatewayStep V → Broadcast Reader (SensorData V) → Gateway V D → Prop where
  | insert (m : SensorData V) (block : Addr) (b' : Sbuffer V) (hrun : s.connmgrRunning = true) :
      GatewayMove process q s (.insert m block) (q.publish m)
        { s with buffer := b', inserted := s.inserted ++ [m] }
  | connmgrExit (hrun : s.connmgrRunning = true) :
      GatewayMove process q s .connmgrExit q { s with connmgrRunning := false }
  | look (r : Reader) (ok : Bool) (pc' : ManagerPc V) (hpc : s.pc r = .check)
      (hpc' : pc' = .test ∨ pc' = .remove) :
      GatewayMove process q s (.manager r ok) q (s.goto r pc')
  | take (r : Reader) (ok : Bool) (b' : Sbuffer V) (hpc : s.pc r = .remove)
      (hr : q.cursor r < q.log.length) :
      GatewayMove process q s (.manager r ok) (q.advance r hr)
        ({ s with buffer := b' }.goto r (.handle q.log[q.cursor r]))
  | noData (r : Reader) (ok : Bool) (hpc : s.pc r = .remove) (hr : q.pending r = []) :
      GatewayMove process q s (.manager r ok) q (s.goto r (.handle placeholder))
  | skip (r : Reader) (ok : Bool) (data : SensorData V) (hpc : s.pc r = .handle data)
      (hid : data.id = 0) :
      GatewayMove process q s (.manager r ok) q (s.goto r .test)
  | handle (r : Reader) (ok : Bool) (data : SensorData V) (hpc : s.pc r = .handle data)
      (hid : data.id ≠ 0) :
      GatewayMove process q s (.manager r ok) q ((s.goto r .test).handle process r data ok)
  | again (r : Reader) (ok : Bool) (hpc : s.pc r = .test) (hrun : s.run r = true) :
      GatewayMove process q s (.manager r ok) q (s.goto r .check)
  | exit (r : Reader) (ok : Bool) (hpc : s.pc r = .test) (hrun : s.run r = false) :
      GatewayMove process q s (.manager r ok) q (s.goto r .exited)
  | joinConnmgr (hmain : s.main = .joinConnmgr) (hrun : s.connmgrRunning = false) :
      GatewayMove process q s .main q { s with main := .clearDatamgr }
  | clearDatamgr (hmain : s.main = .clearDatamgr) :
      GatewayMove process q s .main q
        { s with main := .clearStoragemgr, run := Function.update s.run .datamgr false }
  | clearStoragemgr (hmain : s.main = .clearStoragemgr) :
      GatewayMove process q s .main q
        { s with main := .joinDatamgr, run := Function.update s.run .storagemgr false }
  | joinDatamgr (hmain : s.main = .joinDatamgr) (hpc : s.pc .datamgr = .exited) :
      GatewayMove process q s .main q { s with main := .joinStoragemgr }
  | joinStoragemgr (hmain : s.main = .joinStoragemgr) (hpc : s.pc .storagemgr = .exited) :
      GatewayMove process q s .main q { s with main := .joined }

section Moves

variable [Zero V] {process : D → SensorData V → D} {q : Broadcast Reader (SensorData V)}
  {s s' : Gateway V D}

theorem managerStep_move (hrep : ∃ cells, Represents s.buffer q cells) {r : Reader} {ok : Bool}
    (hs : s.managerStep process r ok = some s') :
    ∃ q', GatewayMove process q s (.manager r ok) q' s' ∧
      ∃ cells, Represents s'.buffer q' cells := by
  unfold Gateway.managerStep at hs
  split at hs
  · next hpc =>
      obtain rfl := Option.some.inj hs
      refine ⟨q, .look r ok _ hpc ?_, hrep⟩
      split
      · exact Or.inl rfl
      · exact Or.inr rfl
  · next hpc =>
      obtain ⟨cells, hcells⟩ := hrep
      -- the node seen at the check may be gone or read by now: the remove may find nothing
      by_cases hr : q.cursor r < q.log.length
      · obtain ⟨b', cells', hrem, hrep', -⟩ := sbufferRemove_success hcells hr placeholder
        simp only [hrem, Option.bind_eq_bind, Option.bind_some, reduceCtorEq, if_false,
          Option.some.injEq] at hs
        subst hs
        exact ⟨_, .take r ok b' hpc hr, cells', hrep'⟩
      · have hpending : q.pending r = [] := Broadcast.pending_of_not_lt hr
        simp only [sbufferRemove_noData hcells hpending, Option.bind_eq_bind, Option.bind_some,
          reduceCtorEq, if_false, Option.some.injEq] at hs
        subst hs
        exact ⟨q, .noData r ok hpc hpending, cells, hcells⟩
  · next data hpc =>
      obtain rfl := Option.some.inj hs
      by_cases hid : data.id = 0
      · rw [if_pos hid]
        exact ⟨q, .skip r ok data hpc hid, hrep⟩
      · rw [if_neg hid]
        refine ⟨q, .handle r ok data hpc hid, ?_⟩
        cases r <;> cases ok <;> exact hrep
  · next hpc =>
      obtain rfl := Option.some.inj hs
      by_cases hrun : s.run r = true
      · rw [if_pos hrun]
        exact ⟨q, .again r ok hpc hrun, hrep⟩
      · rw [if_neg hrun]
        exact ⟨q, .exit r ok hpc (by simpa using hrun), hrep⟩
  · exact absurd hs (by simp)

theorem mainStep_move (hrep : ∃ cells, Represents s.buffer q cells) (hs : s.mainStep = some s') :
    ∃ q', GatewayMove process q s .main q' s' ∧ ∃ cells, Represents s'.buffer q' cells := by
  unfold Gateway.mainStep at hs
  split at hs
  · next hmain =>
      split at hs
      · exact absurd hs (by simp)
      · next hrun =>
          obtain rfl := Option.some.inj hs
          exact ⟨q, .joinConnmgr hmain (by simpa using hrun), hrep⟩
  · next hmain =>
      obtain rfl := Option.some.inj hs
      exact ⟨q, .clearDatamgr hmain, hrep⟩
  · next hmain =>
      obtain rfl := Option.some.inj hs
      exact ⟨q, .clearStoragemgr hmain, hrep⟩
  · next hmain =>
      split at hs
      · next hpc =>
          obtain rfl := Option.some.inj hs
          exact ⟨q, .joinDatamgr hmain hpc, hrep⟩
      · exact absurd hs (by simp)
  · next hmain =>
      split at hs
      · next hpc =>
          obtain rfl := Option.some.inj hs
          exact ⟨q, .joinStoragemgr hmain hpc, hrep⟩
      · exact absurd hs (by simp)
  · exact absurd hs (by simp)

/-- **Every step of the process is a move.** -/
theorem step_move (hrep : ∃ cells, Represents s.buffer q cells) {l : GatewayStep V}
    (hs : s.step process l = some s') :
    ∃ q', GatewayMove process q s l q' s' ∧ ∃ cells, Represents s'.buffer q' cells := by
  cases l with
  | insert m block =>
      simp only [Gateway.step] at hs
      split at hs
      · next hfree =>
          have hblock : block ∉ s.buffer.heap := fun hmem => by
            rw [Finmap.lookup_isSome.2 hmem] at hfree
            exact absurd hfree.2 (by simp)
          obtain ⟨cells, hcells⟩ := hrep
          obtain ⟨b', cells', hins, hrep', -⟩ := sbufferInsert_spec hcells hblock m
          simp only [hins, Option.bind_eq_bind, Option.bind_some, if_true,
            Option.some.injEq] at hs
          subst hs
          exact ⟨_, .insert m block b' hfree.1, cells', hrep'⟩
      · exact absurd hs (by simp)
  | connmgrExit =>
      simp only [Gateway.step] at hs
      split at hs
      · next hrun =>
          obtain rfl := Option.some.inj hs
          exact ⟨q, .connmgrExit hrun, hrep⟩
      · exact absurd hs (by simp)
  | manager r ok => exact managerStep_move hrep hs
  | main => exact mainStep_move hrep hs

end Moves

/-! ## Frame lemmas of the state updates -/

section Frame

variable (s : Gateway V D) (r : Reader) (pc : ManagerPc V)

@[simp] theorem goto_pc_self : (s.goto r pc).pc r = pc := Function.update_self ..

theorem goto_pc_ne {r' : Reader} (hr : r' ≠ r) : (s.goto r pc).pc r' = s.pc r' :=
  Function.update_of_ne hr ..

variable (process : D → SensorData V → D) (data : SensorData V) (ok : Bool)

@[simp] theorem handle_handled_self :
    (s.handle process r data ok).handled r = s.handled r ++ [data] := by
  cases r <;> cases ok <;> simp [Gateway.handle]

theorem handle_handled_ne {r' : Reader} (hr : r' ≠ r) :
    (s.handle process r data ok).handled r' = s.handled r' := by
  cases r <;> cases ok <;> simp [Gateway.handle, hr]

@[simp] theorem handle_pc : (s.handle process r data ok).pc = s.pc := by
  cases r <;> cases ok <;> rfl

@[simp] theorem handle_run : (s.handle process r data ok).run = s.run := by
  cases r <;> cases ok <;> rfl

@[simp] theorem handle_main : (s.handle process r data ok).main = s.main := by
  cases r <;> cases ok <;> rfl

@[simp] theorem handle_inserted : (s.handle process r data ok).inserted = s.inserted := by
  cases r <;> cases ok <;> rfl

@[simp] theorem handle_connmgrRunning :
    (s.handle process r data ok).connmgrRunning = s.connmgrRunning := by
  cases r <;> cases ok <;> rfl

end Frame

/-! ## The invariant -/

/-- How far the threads can be: `main` goes on only after the connection manager is done, a flag is
    cleared only after that, a manager leaves its loop only after its flag is cleared, and `main`
    ends only after both managers have left. -/
structure Gateway.Control (s : Gateway V D) : Prop where
  connmgr_done : s.main ≠ .joinConnmgr → s.connmgrRunning = false
  cleared : ∀ r, s.run r = false → s.main ≠ .joinConnmgr
  exited : ∀ r, s.pc r = .exited → s.run r = false
  joined_datamgr : s.main = .joinStoragemgr → s.pc .datamgr = .exited
  joined : s.main = .joined → ∀ r, s.pc r = .exited

/-- Where every measurement is: what a manager has handled and holds is what it was given, less the
    records with id 0, and every `insert_sensor` call either stored its row or failed. -/
structure Gateway.Accounts (s : Gateway V D) (q : Broadcast Reader (SensorData V)) : Prop where
  log_eq : s.inserted = q.log
  handled_eq : ∀ r, s.handled r ++ (s.pc r).inHand = (q.given r).filter SensorData.hasId
  calls_perm : (s.table ++ s.failed).Perm (s.handled .storagemgr)
  table_eq : s.failed = [] → s.table = s.handled .storagemgr

/-- What holds of every reachable state, with the log `q` that its buffer represents. -/
structure Gateway.Inv (s : Gateway V D) (q : Broadcast Reader (SensorData V)) : Prop where
  rep : ∃ cells, Represents s.buffer q cells
  control : s.Control
  accounts : s.Accounts q

section Control

variable {s : Gateway V D} {r : Reader}

theorem Gateway.Control.of_eq {s' : Gateway V D} (h : s.Control) (hmain : s'.main = s.main)
    (hrun : s'.run = s.run) (hpc : s'.pc = s.pc)
    (hconn : s'.connmgrRunning = s.connmgrRunning) : s'.Control where
  connmgr_done := by rw [hmain, hconn]; exact h.connmgr_done
  cleared := by rw [hmain, hrun]; exact h.cleared
  exited := by rw [hpc, hrun]; exact h.exited
  joined_datamgr := by rw [hmain, hpc]; exact h.joined_datamgr
  joined := by rw [hmain, hpc]; exact h.joined

/-- A manager that is still in its loop moves; it may leave the loop if its flag is cleared. -/
theorem Gateway.Control.goto (h : s.Control) (hpc : s.pc r ≠ .exited) {pc' : ManagerPc V}
    (hexit : pc' = .exited → s.run r = false) : (s.goto r pc').Control where
  connmgr_done := h.connmgr_done
  cleared := h.cleared
  exited r' hr' := by
    by_cases hrr : r' = r
    · subst hrr
      rw [goto_pc_self] at hr'
      exact hexit hr'
    · rw [goto_pc_ne _ _ _ hrr] at hr'
      exact h.exited r' hr'
  joined_datamgr hmain := by
    have hdm := h.joined_datamgr hmain
    -- `r` is still in its loop, so it is not the data manager, which `main` has joined
    have hr : .datamgr ≠ r := fun he => hpc (he ▸ hdm)
    rw [goto_pc_ne _ _ _ hr, hdm]
  joined hmain := absurd (h.joined hmain r) hpc

theorem Gateway.Control.move [Zero V] {process : D → SensorData V → D}
    {q q' : Broadcast Reader (SensorData V)} {s' : Gateway V D} {l : GatewayStep V}
    (h : s.Control) (hm : GatewayMove process q s l q' s') : s'.Control := by
  cases hm with
  | insert m block b' hrun => exact h.of_eq rfl rfl rfl rfl
  | connmgrExit hrun =>
      exact ⟨fun _ => rfl, h.cleared, h.exited, h.joined_datamgr, h.joined⟩
  | look r ok pc' hpc hpc' =>
      refine h.goto (by rw [hpc]; exact nofun) ?_
      intro he
      rcases hpc' with rfl | rfl <;> exact absurd he nofun
  | take r ok b' hpc hr =>
      exact (h.of_eq rfl rfl rfl rfl : ({ s with buffer := b' } : Gateway V D).Control).goto
        (by show s.pc r ≠ .exited; rw [hpc]; exact nofun) nofun
  | noData r ok hpc hr => exact h.goto (by rw [hpc]; exact nofun) nofun
  | skip r ok data hpc hid => exact h.goto (by rw [hpc]; exact nofun) nofun
  | handle r ok data hpc hid =>
      have hgoto : (s.goto r .test).Control := h.goto (by rw [hpc]; exact nofun) nofun
      exact hgoto.of_eq (handle_main ..) (handle_run ..) (handle_pc ..) (handle_connmgrRunning ..)
  | again r ok hpc hrun => exact h.goto (by rw [hpc]; exact nofun) nofun
  | exit r ok hpc hrun => exact h.goto (by rw [hpc]; exact nofun) fun _ => hrun
  | joinConnmgr hmain hrun =>
      exact ⟨fun _ => hrun, fun _ _ => nofun, h.exited, nofun, nofun⟩
  | clearDatamgr hmain =>
      have hpast : s.main ≠ .joinConnmgr := by rw [hmain]; exact nofun
      refine ⟨fun _ => h.connmgr_done hpast, fun _ _ => nofun, ?_, nofun, nofun⟩
      intro r hr
      cases r with
      | datamgr => exact Function.update_self Reader.datamgr false s.run
      | storagemgr => exact h.exited .storagemgr hr
  | clearStoragemgr hmain =>
      have hpast : s.main ≠ .joinConnmgr := by rw [hmain]; exact nofun
      refine ⟨fun _ => h.connmgr_done hpast, fun _ _ => nofun, ?_, nofun, nofun⟩
      intro r hr
      cases r with
      | datamgr => exact h.exited .datamgr hr
      | storagemgr => exact Function.update_self Reader.storagemgr false s.run
  | joinDatamgr hmain hpc =>
      have hpast : s.main ≠ .joinConnmgr := by rw [hmain]; exact nofun
      exact ⟨fun _ => h.connmgr_done hpast, fun _ _ => nofun, h.exited, fun _ => hpc, nofun⟩
  | joinStoragemgr hmain hpc =>
      have hpast : s.main ≠ .joinConnmgr := by rw [hmain]; exact nofun
      refine ⟨fun _ => h.connmgr_done hpast, fun _ _ => nofun, h.exited, nofun, ?_⟩
      intro _ r
      cases r with
      | datamgr => exact h.joined_datamgr hmain
      | storagemgr => exact hpc

end Control

section Accounts

variable {s : Gateway V D} {q : Broadcast Reader (SensorData V)} {r : Reader}

/-- A move of a manager that neither takes nor drops a record. -/
theorem Gateway.Accounts.goto (h : s.Accounts q) {pc' : ManagerPc V}
    (hin : pc'.inHand = (s.pc r).inHand) : (s.goto r pc').Accounts q where
  log_eq := h.log_eq
  handled_eq r' := by
    by_cases hr : r' = r
    · subst hr
      rw [goto_pc_self, hin]
      exact h.handled_eq r'
    · rw [goto_pc_ne _ _ _ hr]
      exact h.handled_eq r'
  calls_perm := h.calls_perm
  table_eq := h.table_eq

theorem Gateway.Accounts.insert (h : s.Accounts q) (m : SensorData V) (b' : Sbuffer V) :
    ({ s with buffer := b', inserted := s.inserted ++ [m] } : Gateway V D).Accounts
      (q.publish m) where
  log_eq := by rw [Broadcast.publish_log, h.log_eq]
  handled_eq r := by rw [Broadcast.publish_given]; exact h.handled_eq r
  calls_perm := h.calls_perm
  table_eq := h.table_eq

theorem Gateway.Accounts.take (h : s.Accounts q) (b' : Sbuffer V) (hpc : s.pc r = .remove)
    (hr : q.cursor r < q.log.length) :
    (({ s with buffer := b' } : Gateway V D).goto r (.handle q.log[q.cursor r])).Accounts
      (q.advance r hr) where
  log_eq := h.log_eq
  handled_eq r' := by
    by_cases hrr : r' = r
    · subst hrr
      -- what `r` takes is at once what it holds
      have hgiven := h.handled_eq r'
      rw [hpc] at hgiven
      rw [goto_pc_self, Broadcast.advance_given_self, List.filter_append, ← hgiven,
        ManagerPc.inHand, ManagerPc.inHand, List.append_nil]
      rfl
    · rw [goto_pc_ne _ _ _ hrr, Broadcast.advance_given_ne hr hrr]
      exact h.handled_eq r'
  calls_perm := h.calls_perm
  table_eq := h.table_eq

theorem Gateway.Accounts.handle (process : D → SensorData V → D) (h : s.Accounts q)
    {data : SensorData V} (ok : Bool) (hpc : s.pc r = .handle data) (hid : data.id ≠ 0) :
    ((s.goto r .test).handle process r data ok).Accounts q where
  log_eq := by rw [handle_inserted]; exact h.log_eq
  handled_eq r' := by
    have hgiven := h.handled_eq r'
    rw [handle_pc]
    by_cases hrr : r' = r
    · subst hrr
      have hdata : data.hasId = true := data.hasId_iff.2 hid
      rw [hpc, ManagerPc.inHand, List.filter_cons_of_pos hdata, List.filter_nil] at hgiven
      rw [handle_handled_self, goto_pc_self, ← hgiven, ManagerPc.inHand, List.append_nil]
      rfl
    · rw [handle_handled_ne _ _ _ _ _ hrr, goto_pc_ne _ _ _ hrr]
      exact hgiven
  calls_perm := by
    have hperm := h.calls_perm
    cases r with
    | datamgr => simpa [Gateway.handle, Gateway.goto] using hperm
    | storagemgr =>
        cases ok with
        | true =>
            have hswap : (s.table ++ [data] ++ s.failed).Perm (s.table ++ s.failed ++ [data]) := by
              rw [List.append_assoc, List.append_assoc]
              exact List.perm_append_comm.append_left _
            simpa [Gateway.handle, Gateway.goto] using hswap.trans (hperm.append_right [data])
        | false =>
            simpa [Gateway.handle, Gateway.goto] using hperm.append_right [data]
  table_eq := by
    have htable := h.table_eq
    cases r with
    | datamgr => simpa [Gateway.handle, Gateway.goto] using htable
    | storagemgr =>
        cases ok with
        | true =>
            intro hfailed
            have hfailed : s.failed = [] := hfailed
            simp [Gateway.handle, Gateway.goto, htable hfailed]
        | false => simp [Gateway.handle, Gateway.goto]

theorem Gateway.Accounts.of_eq {s' : Gateway V D} (h : s.Accounts q)
    (hins : s'.inserted = s.inserted) (hhandled : s'.handled = s.handled) (hpc : s'.pc = s.pc)
    (htable : s'.table = s.table) (hfailed : s'.failed = s.failed) : s'.Accounts q where
  log_eq := by rw [hins]; exact h.log_eq
  handled_eq := by rw [hhandled, hpc]; exact h.handled_eq
  calls_perm := by rw [htable, hfailed, hhandled]; exact h.calls_perm
  table_eq := by rw [htable, hfailed, hhandled]; exact h.table_eq

theorem Gateway.Accounts.move [Zero V] {process : D → SensorData V → D}
    {q' : Broadcast Reader (SensorData V)} {s' : Gateway V D} {l : GatewayStep V}
    (h : s.Accounts q) (hm : GatewayMove process q s l q' s') : s'.Accounts q' := by
  cases hm with
  | insert m block b' hrun => exact h.insert m b'
  | connmgrExit hrun => exact h.of_eq rfl rfl rfl rfl rfl
  | look r ok pc' hpc hpc' =>
      refine h.goto ?_
      rcases hpc' with rfl | rfl <;> rw [hpc] <;> rfl
  | take r ok b' hpc hr => exact h.take b' hpc hr
  | noData r ok hpc hr =>
      -- the untouched placeholder has no id, so it counts for nothing
      exact h.goto (by rw [hpc]; simp [ManagerPc.inHand])
  | skip r ok data hpc hid =>
      refine h.goto ?_
      have hdata : ¬ data.hasId = true := fun hd => data.hasId_iff.1 hd hid
      rw [hpc, ManagerPc.inHand, ManagerPc.inHand, List.filter_cons_of_neg hdata, List.filter_nil]
  | handle r ok data hpc hid => exact h.handle process ok hpc hid
  | again r ok hpc hrun => exact h.goto (by rw [hpc]; rfl)
  | exit r ok hpc hrun => exact h.goto (by rw [hpc]; rfl)
  | joinConnmgr hmain hrun => exact h.of_eq rfl rfl rfl rfl rfl
  | clearDatamgr hmain => exact h.of_eq rfl rfl rfl rfl rfl
  | clearStoragemgr hmain => exact h.of_eq rfl rfl rfl rfl rfl
  | joinDatamgr hmain hpc => exact h.of_eq rfl rfl rfl rfl rfl
  | joinStoragemgr hmain hpc => exact h.of_eq rfl rfl rfl rfl rfl

end Accounts

/-! ## Every reachable state -/

section Reachable

variable [Zero V] {process : D → SensorData V → D} {sensors : D}

omit [Zero V] in
theorem inv_initial : (Gateway.initial (V := V) sensors).Inv .empty where
  rep := ⟨[], represents_init⟩
  control := ⟨fun h => absurd rfl h, fun _ => nofun, fun _ => nofun, nofun, nofun⟩
  accounts := ⟨rfl, fun _ => rfl, .refl _, fun _ => rfl⟩

theorem Gateway.Inv.step {s s' : Gateway V D} {q : Broadcast Reader (SensorData V)}
    {l : GatewayStep V} (h : s.Inv q) (hs : s.step process l = some s') :
    ∃ q', GatewayMove process q s l q' s' ∧ s'.Inv q' := by
  obtain ⟨q', hm, hrep⟩ := step_move h.rep hs
  exact ⟨q', hm, hrep, h.control.move hm, h.accounts.move hm⟩

theorem reachable_inv {s : Gateway V D} (h : (gatewaySystem process sensors).Reachable s) :
    ∃ q, s.Inv q := by
  refine StepSystem.Reachable.invariant (fun s => ∃ q, s.Inv q) ⟨.empty, inv_initial⟩ ?_ h
  rintro s l s' ⟨q, hinv⟩ hs
  obtain ⟨q', -, hinv'⟩ := hinv.step hs
  exact ⟨q', hinv'⟩

omit [Zero V] in
theorem Gateway.Inv.unread_eq {s : Gateway V D} {q : Broadcast Reader (SensorData V)}
    (h : s.Inv q) (r : Reader) : s.buffer.unread r = some (q.pending r) := by
  obtain ⟨cells, hrep⟩ := h.rep
  exact hrep.unread_eq r

/-! ## What the data manager has computed -/

/-- Only handling a measurement changes the sensor list. -/
theorem GatewayMove.sensors_eq {s s' : Gateway V D} {q q' : Broadcast Reader (SensorData V)}
    {l : GatewayStep V} (hm : GatewayMove process q s l q' s')
    (h : s.sensors = (s.handled .datamgr).foldl process sensors) :
    s'.sensors = (s'.handled .datamgr).foldl process sensors := by
  cases hm with
  | handle r ok data hpc hid =>
      cases r with
      | datamgr =>
          rw [handle_handled_self, List.foldl_append, List.foldl_cons, List.foldl_nil]
          show process s.sensors data = process ((s.handled .datamgr).foldl process sensors) data
          rw [h]
      | storagemgr =>
          rw [handle_handled_ne _ _ _ _ _ (by decide)]
          cases ok with
          | true => exact h
          | false => exact h
  | insert | connmgrExit | look | take | noData | skip | again | exit | joinConnmgr
  | clearDatamgr | clearStoragemgr | joinDatamgr | joinStoragemgr => exact h

/-- The sensor list is the result of the measurements handled so far. -/
theorem reachable_sensors {s : Gateway V D} (h : (gatewaySystem process sensors).Reachable s) :
    s.sensors = (s.handled .datamgr).foldl process sensors := by
  have hboth : (∃ q, s.Inv q) ∧ s.sensors = (s.handled .datamgr).foldl process sensors := by
    refine StepSystem.Reachable.invariant (fun s => (∃ q, s.Inv q) ∧
      s.sensors = (s.handled .datamgr).foldl process sensors) ⟨⟨.empty, inv_initial⟩, rfl⟩ ?_ h
    rintro s l s' ⟨⟨q, hinv⟩, heq⟩ hs
    obtain ⟨q', hm, hinv'⟩ := hinv.step hs
    exact ⟨⟨q', hinv'⟩, hm.sensors_eq heq⟩
  exact hboth.2

/-- A manager that has read all and is not about to handle a record has handled every measurement
    with an id. -/
theorem reachable_handled {s : Gateway V D} (h : (gatewaySystem process sensors).Reachable s)
    {r : Reader} (hread : s.buffer.unread r = some []) (hidle : ∀ data, s.pc r ≠ .handle data) :
    s.handled r = s.inserted.filter SensorData.hasId := by
  obtain ⟨q, hinv⟩ := reachable_inv h
  have hpending : q.pending r = [] := by
    rw [hinv.unread_eq r] at hread
    exact Option.some.inj hread
  have hgiven : q.given r = q.log := by
    rw [← q.given_append_pending r, hpending, List.append_nil]
  rw [hinv.accounts.log_eq, ← hgiven, ← hinv.accounts.handled_eq r,
    ManagerPc.inHand_of_idle hidle, List.append_nil]

end Reachable

end SensorGateway
