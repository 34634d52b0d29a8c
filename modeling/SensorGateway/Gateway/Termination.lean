import Mathlib.Order.Interval.Set.Infinite
import SensorGateway.Gateway.StorageManager

set_option autoImplicit false

/-! # The end of the parent process

Once `main` has cleared the flags, there are few steps left, whoever makes them (`shutdown_bounded`).
Before that, the process goes on as long as its clients do; but from every state it gets to its end if
they are silent, so the threads never block each other (`can_shut_down`). -/

namespace SensorGateway

variable {V D : Type}

/-! ## How far the threads are -/

/-- The steps that a manager makes at most before it leaves its loop, the flag being cleared. -/
def ManagerPc.remaining : ManagerPc V → ℕ
  | .check => 4
  | .remove => 3
  | .handle _ => 2
  | .test => 1
  | .exited => 0

/-- The steps that `main` has before it. -/
def MainPc.remaining : MainPc → ℕ
  | .joinConnmgr => 5
  | .clearDatamgr => 4
  | .clearStoragemgr => 3
  | .joinDatamgr => 2
  | .joinStoragemgr => 1
  | .joined => 0

/-- An attempt to connect, and what it may have to be closed again. -/
def StoragePc.remaining : StoragePc → ℕ
  | .connecting attemptNr => 2 * (4 - attemptNr)
  | .connected | .gaveUp => 0

/-- The steps that `connmgr_listen` has before it and its thread exits, if no more clients turn up. -/
def Listen.remaining (s : Listen V) : ℕ :=
  match s.pc with
  | .accept => s.clients.length + 5
  | .scan i => s.clients.length - i + 3
  | .select => 3
  | .leave => 2
  | .returned => 1

/-- The steps of `main` and of the managers. -/
def Gateway.remaining (g : Gateway V D) : ℕ :=
  g.main.remaining + (g.pc .datamgr).remaining + (g.pc .storagemgr).remaining

/-- The steps of all threads. -/
def ParentProcess.remaining (s : ParentProcess V D) : ℕ :=
  s.main.gateway.remaining + s.main.storage.remaining + (if s.conn = none then 0 else 1) +
    if s.main.gateway.connmgrRunning = true then s.main.listen.remaining else 0

/-- `main` has cleared both flags. -/
def MainPc.Cleared (pc : MainPc) : Prop := pc = .joinDatamgr ∨ pc = .joinStoragemgr ∨ pc = .joined

/-! ## The order of the shutdown -/

/-- `main` goes on only after the connection manager is done, and clears one flag after the other. -/
structure Gateway.Ending (g : Gateway V D) : Prop where
  connmgr_done : g.main ≠ .joinConnmgr → g.connmgrRunning = false
  half : g.main = .clearStoragemgr → g.run .datamgr = false
  cleared : g.main.Cleared → ∀ r, g.run r = false

/-- The connection manager exits when `connmgr_listen` has returned; a storage manager that gave up
    has left. -/
structure MainProcess.Ending (s : MainProcess V D) : Prop where
  gateway : s.gateway.Ending
  returned : s.gateway.connmgrRunning = false → s.listen.pc = .returned
  gaveUp : s.storage = .gaveUp → s.gateway.pc .storagemgr = .exited

section Ending

variable [Zero V] {cfg : ListenConfig V} {process : D → SensorData V → D} {sensors : D}

omit [Zero V] in
theorem Gateway.Ending.of_eq {g g' : Gateway V D} (h : g.Ending) (hmain : g'.main = g.main)
    (hrun : g'.run = g.run) (hconn : g'.connmgrRunning = g.connmgrRunning) : g'.Ending where
  connmgr_done := by rw [hmain, hconn]; exact h.connmgr_done
  half := by rw [hmain, hrun]; exact h.half
  cleared := by rw [hmain, hrun]; exact h.cleared

theorem Gateway.Ending.move {q q' : Broadcast Reader (SensorData V)} {g g' : Gateway V D}
    {l : GatewayStep V} (h : g.Ending) (hm : GatewayMove process q g l q' g') : g'.Ending := by
  cases hm with
  | connmgrExit hrun => exact ⟨fun _ => rfl, h.half, h.cleared⟩
  | insert | look | take | noData | skip | again | exit => exact h.of_eq rfl rfl rfl
  | handle r ok data =>
      exact h.of_eq (handle_main ..) (handle_run ..) (handle_connmgrRunning ..)
  | joinConnmgr hmain hrun =>
      exact ⟨fun _ => hrun, by simp, by simp [MainPc.Cleared]⟩
  | clearDatamgr hmain =>
      refine ⟨fun _ => h.connmgr_done (by rw [hmain]; simp), fun _ => ?_, by simp [MainPc.Cleared]⟩
      exact Function.update_self Reader.datamgr false g.run
  | clearStoragemgr hmain =>
      refine ⟨fun _ => h.connmgr_done (by rw [hmain]; simp), by simp, fun _ r => ?_⟩
      cases r with
      | datamgr => exact h.half hmain
      | storagemgr => exact Function.update_self Reader.storagemgr false g.run
  | joinDatamgr hmain hpc =>
      exact ⟨fun _ => h.connmgr_done (by rw [hmain]; simp), by simp,
        fun _ => h.cleared (Or.inl hmain)⟩
  | joinStoragemgr hmain hpc =>
      exact ⟨fun _ => h.connmgr_done (by rw [hmain]; simp), by simp,
        fun _ => h.cleared (Or.inr (Or.inl hmain))⟩

theorem GatewayMove.connmgrRunning_eq {q q' : Broadcast Reader (SensorData V)} {g g' : Gateway V D}
    {l : GatewayStep V} (hm : GatewayMove process q g l q' g') (hl : l ≠ .connmgrExit) :
    g'.connmgrRunning = g.connmgrRunning := by
  cases hm with
  | connmgrExit => exact absurd rfl hl
  | handle r ok data => exact handle_connmgrRunning ..
  | insert | look | take | noData | skip | again | exit | joinConnmgr | clearDatamgr
  | clearStoragemgr | joinDatamgr | joinStoragemgr => rfl

variable {s s' : MainProcess V D} {l : ProcessStep V}

omit [Zero V] in
/-- Nothing follows the end of `connmgr_listen`. -/
theorem listen_step_returned {t : Listen V} (hpc : t.pc = .returned) (l : ListenStep V) :
    t.step cfg l = none := by
  unfold Listen.step
  rw [hpc]

theorem ending_gateway {l : GatewayStep V} (h : s.Ending) (hinv : s.Inv cfg) (hl : l ≠ .connmgrExit)
    (hs : (s.gateway.step process l).map (fun gateway => { s with gateway }) = some s') :
    s'.Ending := by
  obtain ⟨gateway, hstep, rfl⟩ := Option.map_eq_some_iff.1 hs
  obtain ⟨q, hrep⟩ := hinv.buffer
  obtain ⟨q', hm, -⟩ := step_move hrep hstep
  refine ⟨h.gateway.move hm, ?_, fun hgaveUp => hm.exited_iff.2 (Or.inl (h.gaveUp hgaveUp))⟩
  rw [hm.connmgrRunning_eq hl]
  exact h.returned

theorem MainProcess.Ending.step (h : s.Ending) (hinv : s.Inv cfg)
    (hs : s.step cfg process l = some s') : s'.Ending := by
  cases l with
  | connmgr l block =>
      obtain ⟨listen, hlisten, hs⟩ := Option.bind_eq_some_iff.1 hs
      obtain ⟨gateway, hgateway, hs⟩ := Option.bind_eq_some_iff.1 hs
      obtain rfl := Option.some.inj hs
      obtain ⟨buffer, rfl⟩ := insertAll_eq hgateway
      refine ⟨h.gateway.of_eq rfl rfl rfl, fun hdone => ?_, h.gaveUp⟩
      rw [listen_step_returned (h.returned hdone)] at hlisten
      exact absurd hlisten (by simp)
  | connmgrExit =>
      simp only [MainProcess.step] at hs
      split at hs
      · next hreturned =>
          obtain ⟨gateway, hstep, rfl⟩ := Option.map_eq_some_iff.1 hs
          obtain ⟨q, hrep⟩ := hinv.buffer
          obtain ⟨q', hm, -⟩ := SensorGateway.step_move hrep hstep
          exact ⟨h.gateway.move hm, fun _ => hreturned,
            fun hgaveUp => hm.exited_iff.2 (Or.inl (h.gaveUp hgaveUp))⟩
      · exact absurd hs (by simp)
  | initConnection connected =>
      simp only [MainProcess.step, MainProcess.initConnection] at hs
      split at hs
      · split at hs
        · obtain rfl := Option.some.inj hs
          exact ⟨h.gateway.of_eq rfl rfl rfl, h.returned, fun _ => goto_pc_self ..⟩
        · obtain rfl := Option.some.inj hs
          exact ⟨h.gateway, h.returned, by simp⟩
        · obtain rfl := Option.some.inj hs
          exact ⟨h.gateway, h.returned, by simp⟩
      · exact absurd hs (by simp)
      · exact absurd hs (by simp)
  | manager r ok =>
      simp only [MainProcess.step, MainProcess.managerStep] at hs
      split at hs
      · exact absurd hs (by simp)
      · exact ending_gateway h hinv (by simp) hs
  | main => exact ending_gateway h hinv (by simp) hs

theorem reachable_ending (h : (mainSystem cfg process sensors).Reachable s) : s.Ending := by
  refine h.strengthen MainProcess.Ending ⟨⟨?_, ?_, ?_⟩, ?_, ?_⟩ ?_
  · exact fun hmain => absurd rfl hmain
  · simp [mainSystem, MainProcess.initial, Gateway.initial]
  · simp [mainSystem, MainProcess.initial, Gateway.initial, MainPc.Cleared]
  · simp [mainSystem, MainProcess.initial, Gateway.initial]
  · simp [mainSystem, MainProcess.initial]
  · intro s l s' hreach hending hs
    exact hending.step (reachable_mainProcess hreach) hs

end Ending

/-! ## Fewer and fewer steps -/

section Remaining

variable [Zero V] {cfg : ListenConfig V} {process : D → SensorData V → D}

omit [Zero V] in
theorem goto_remaining (g : Gateway V D) (r : Reader) (pc : ManagerPc V) :
    (g.goto r pc).remaining + (g.pc r).remaining = g.remaining + pc.remaining := by
  cases r with
  | datamgr =>
      simp only [Gateway.remaining, goto_pc_self, goto_pc_ne g .datamgr pc (by simp : .storagemgr ≠ _)]
      simp only [Gateway.goto]
      omega
  | storagemgr =>
      simp only [Gateway.remaining, goto_pc_self, goto_pc_ne g .storagemgr pc (by simp : .datamgr ≠ _)]
      simp only [Gateway.goto]
      omega

omit [Zero V] in
theorem goto_remaining_lt {g : Gateway V D} {r : Reader} {pc : ManagerPc V}
    (hlt : pc.remaining < (g.pc r).remaining) : (g.goto r pc).remaining < g.remaining := by
  have hsum := goto_remaining g r pc
  omega

/-- Once the flags are cleared, every step of `main` and of the managers brings the end nearer. -/
theorem GatewayMove.remaining_lt {q q' : Broadcast Reader (SensorData V)} {g g' : Gateway V D}
    {l : GatewayStep V} (hm : GatewayMove process q g l q' g') (hcleared : ∀ r, g.run r = false)
    (hinsert : ∀ m block, l ≠ .insert m block) (hexit : l ≠ .connmgrExit) :
    g'.remaining < g.remaining := by
  have hmain : ∀ pc : MainPc, pc.remaining < g.main.remaining →
      ({ g with main := pc } : Gateway V D).remaining < g.remaining := by
    intro pc hlt
    simp only [Gateway.remaining]
    omega
  cases hm with
  | insert m block => exact absurd rfl (hinsert m block)
  | connmgrExit => exact absurd rfl hexit
  | look r ok pc' hpc hpc' =>
      refine goto_remaining_lt ?_
      rw [hpc]
      rcases hpc' with rfl | rfl
      · exact (by decide : 1 < 4)
      · exact (by decide : 3 < 4)
  | take r ok b' hpc hr =>
      have hlt : (({ g with buffer := b' } : Gateway V D).goto r (.handle q.log[q.cursor r])).remaining
          < ({ g with buffer := b' } : Gateway V D).remaining :=
        goto_remaining_lt (by rw [hpc]; exact (by decide : 2 < 3))
      exact hlt
  | noData r ok hpc => exact goto_remaining_lt (by rw [hpc]; exact (by decide : 2 < 3))
  | skip r ok data hpc => exact goto_remaining_lt (by rw [hpc]; exact (by decide : 1 < 2))
  | handle r ok data hpc =>
      have hlt : (g.goto r .test).remaining < g.remaining :=
        goto_remaining_lt (by rw [hpc]; exact (by decide : 1 < 2))
      simpa only [Gateway.remaining, handle_pc, handle_main] using hlt
  | again r ok hpc hrun => exact absurd ((hcleared r).symm.trans hrun) (by simp)
  | exit r ok hpc => exact goto_remaining_lt (by rw [hpc]; exact (by decide : 0 < 1))
  | joinConnmgr hpc => exact hmain _ (by rw [hpc]; decide)
  | clearDatamgr hpc => exact hmain _ (by rw [hpc]; decide)
  | clearStoragemgr hpc => exact hmain _ (by rw [hpc]; decide)
  | joinDatamgr hpc => exact hmain _ (by rw [hpc]; decide)
  | joinStoragemgr hpc => exact hmain _ (by rw [hpc]; decide)

theorem GatewayMove.cleared {q q' : Broadcast Reader (SensorData V)} {g g' : Gateway V D}
    {l : GatewayStep V} (hm : GatewayMove process q g l q' g') (h : g.main.Cleared) :
    g'.main.Cleared := by
  cases hm with
  | handle r ok data => rwa [handle_main]
  | joinConnmgr hmain | clearDatamgr hmain | clearStoragemgr hmain =>
      rw [hmain] at h
      simp [MainPc.Cleared] at h
  | joinDatamgr => exact Or.inr (Or.inl rfl)
  | joinStoragemgr => exact Or.inr (Or.inr rfl)
  | insert | connmgrExit | look | take | noData | skip | again | exit => exact h

theorem MainPc.Cleared.past {pc : MainPc} (h : pc.Cleared) : pc ≠ .joinConnmgr := by
  rcases h with rfl | rfl | rfl <;> simp

/-- A step of the threads after the flags are cleared. -/
theorem MainProcess.Ending.remaining_lt {s s' : MainProcess V D} {l : ProcessStep V} (h : s.Ending)
    (hinv : s.Inv cfg) (hcleared : s.gateway.main.Cleared)
    (hinit : ∀ connected, l ≠ .initConnection connected) (hs : s.step cfg process l = some s') :
    s'.gateway.remaining < s.gateway.remaining ∧ s'.gateway.main.Cleared ∧
      s'.storage = s.storage := by
  have hdone := h.gateway.connmgr_done hcleared.past
  obtain ⟨q, hrep⟩ := hinv.buffer
  have hgateway : ∀ l' : GatewayStep V, (∀ m block, l' ≠ .insert m block) → l' ≠ .connmgrExit →
      (s.gateway.step process l').map (fun gateway => { s with gateway }) = some s' →
      s'.gateway.remaining < s.gateway.remaining ∧ s'.gateway.main.Cleared ∧
        s'.storage = s.storage := by
    intro l' hinsert hexit hs'
    obtain ⟨gateway, hstep, rfl⟩ := Option.map_eq_some_iff.1 hs'
    obtain ⟨q', hm, -⟩ := SensorGateway.step_move hrep hstep
    exact ⟨hm.remaining_lt (h.gateway.cleared hcleared) hinsert hexit, hm.cleared hcleared, rfl⟩
  cases l with
  | connmgr l block =>
      obtain ⟨listen, hlisten, -⟩ := Option.bind_eq_some_iff.1 hs
      rw [listen_step_returned (h.returned hdone)] at hlisten
      exact absurd hlisten (by simp)
  | connmgrExit =>
      simp only [MainProcess.step, Gateway.step, hdone] at hs
      simp at hs
  | initConnection connected => exact absurd rfl (hinit connected)
  | manager r ok =>
      simp only [MainProcess.step, MainProcess.managerStep] at hs
      split at hs
      · exact absurd hs (by simp)
      · exact hgateway _ (by simp) (by simp) hs
  | main => exact hgateway _ (by simp) (by simp) hs

/-- An `init_connection` call uses up one of the three attempts. -/
theorem initConnection_remaining {s s' : MainProcess V D} {connected : Bool} {attemptNr : ℕ}
    (hstorage : s.storage = .connecting attemptNr) (hle : attemptNr ≤ 3)
    (hs : s.step cfg process (.initConnection connected) = some s') :
    s'.gateway.remaining ≤ s.gateway.remaining ∧ s'.gateway.main = s.gateway.main ∧
      s'.gateway.connmgrRunning = s.gateway.connmgrRunning ∧ s'.listen = s.listen ∧
      s'.storage.remaining + (if connected = true then 1 else 0) < s.storage.remaining := by
  have hexit : (s.gateway.goto .storagemgr .exited).remaining ≤ s.gateway.remaining := by
    have hsum := goto_remaining s.gateway .storagemgr .exited
    have hzero : (ManagerPc.exited : ManagerPc V).remaining = 0 := rfl
    omega
  simp only [MainProcess.step, MainProcess.initConnection, hstorage, storagemgrInit] at hs
  rw [hstorage]
  cases connected with
  | true =>
      simp only [if_true, Option.some.injEq] at hs
      subst hs
      refine ⟨Nat.le_refl _, rfl, rfl, rfl, ?_⟩
      simp only [StoragePc.remaining, if_true]
      omega
  | false =>
      by_cases hlast : attemptNr < 3
      · simp only [Bool.false_eq_true, if_false, hlast, if_true, Option.some.injEq] at hs
        subst hs
        refine ⟨Nat.le_refl _, rfl, rfl, rfl, ?_⟩
        simp only [StoragePc.remaining, Bool.false_eq_true, if_false]
        omega
      · simp only [Bool.false_eq_true, if_false, hlast, Option.some.injEq] at hs
        subst hs
        refine ⟨hexit, rfl, rfl, rfl, ?_⟩
        simp only [StoragePc.remaining, Bool.false_eq_true, if_false]
        omega

end Remaining

/-! ## The threads do not wait for each other -/

section Progress

variable [Zero V] {cfg : ListenConfig V} {process : D → SensorData V → D}

/-- A manager in its loop can make its next step. -/
theorem Gateway.BufferOk.manager_step {g : Gateway V D} (h : g.BufferOk) {r : Reader}
    (hpc : g.pc r ≠ .exited) (ok : Bool) :
    ∃ g', g.step process (.manager r ok) = some g' := by
  obtain ⟨q, cells, hrep⟩ := h
  show ∃ g', g.managerStep process r ok = some g'
  unfold Gateway.managerStep
  cases hr : g.pc r with
  | check => exact ⟨_, rfl⟩
  | remove =>
      by_cases hcur : q.cursor r < q.log.length
      · obtain ⟨b', cells', hrem, -, -⟩ := sbufferRemove_success hrep hcur placeholder
        simp only [hrem, Option.bind_eq_bind, Option.bind_some, reduceCtorEq, if_false]
        exact ⟨_, rfl⟩
      · have hpending : q.pending r = [] := Broadcast.pending_of_not_lt hcur
        simp only [sbufferRemove_noData hrep hpending, Option.bind_eq_bind, Option.bind_some,
          reduceCtorEq, if_false]
        exact ⟨_, rfl⟩
  | handle data => exact ⟨_, rfl⟩
  | test => exact ⟨_, rfl⟩
  | exited => exact absurd hr hpc

omit [Zero V] in
theorem scanFrom_remaining (s : Listen V) (i : ℕ) :
    (s.scanFrom i).remaining ≤ s.clients.length - i + 3 := by
  unfold Listen.scanFrom
  by_cases hi : i < s.clients.length
  · rw [if_pos hi]
    exact Nat.le_refl _
  · rw [if_neg hi]
    exact Nat.le_add_left 3 _

/-- An iteration of the scan with a client that delivers nothing. -/
def Visit.silent : Visit V := ⟨0, fun _ _ => .failed false, placeholder, true⟩

/-- With silent clients and no more than one that turns up, `connmgr_listen` comes to its end. -/
theorem Listen.Inv.silent_step {s : Listen V} (h : s.Inv cfg) (hpc : s.pc ≠ .returned) :
    ∃ l s', s.step cfg l = some s' ∧ s'.inserted = s.inserted ∧ s'.remaining < s.remaining := by
  cases hp : s.pc with
  | select =>
      obtain ⟨args, hargs, -⟩ := selectArguments_spec cfg.listener s.clients
      have hempty : selectFds args.1 args.2 (fun _ => false) = ∅ := by
        simp [selectFds]
      refine ⟨.select fun _ => false, { s with readFds := ∅, pc := .leave }, ?_, rfl, ?_⟩
      · simp only [Listen.step, hp, Listen.select, hargs, Option.bind_eq_bind, Option.bind_some,
          hempty, if_true]
        rfl
      · simp only [Listen.remaining, hp]
        omega
  | accept =>
      obtain ⟨sd, hsd, hfresh⟩ := (Set.Ici_infinite (0 : ℤ)).exists_notMem_finset s.openSds
      have hsd : 0 ≤ sd := hsd
      refine ⟨.accept sd, s.add sd, ?_, ?_, ?_⟩
      · simp only [Listen.step, hp, Listen.accept, insertAtIndex_length, Listen.add]
        rw [if_pos ⟨hsd, hfresh⟩]
      · rw [inserted_record rfl]
        exact List.append_nil _
      · have hle := scanFrom_remaining ({ s with
          clients := s.clients ++ [Client.mk (newSensorInfo sd) s.accepted]
          openSds := insert sd s.openSds
          accepted := s.accepted + 1 }.record s.accepted (.accepted sd)) 0
        have hlt : s.remaining = s.clients.length + 5 := by rw [Listen.remaining, hp]
        rw [hlt, Listen.add]
        simp only [Listen.record, List.length_append, List.length_singleton] at hle ⊢
        omega
  | scan i =>
      obtain ⟨xs, c, ys, hat, rfl⟩ := h.scanAt hp
      obtain ⟨s', hs', hm⟩ := h.connected.visit_spec cfg hat Visit.silent
      have hlt : s.remaining = ys.length + 4 := by
        rw [Listen.remaining, hp, hat.clients_eq, List.length_append, List.length_cons]
        dsimp only
        omega
      have hsilent : ∀ c' : Client, ((Visit.silent : Visit V).answer 0 c'.info.sd).delivers = false :=
        fun _ => rfl
      have hstep : s.step cfg (.visit .silent) = some s' := by
        simp only [Listen.step, hp]
        exact hs'
      refine ⟨.visit .silent, s', hstep, ?_, ?_⟩
      · cases hm with
        | closed | expired => exact (inserted_record rfl).trans (List.append_nil _)
        | measured v xs' c' ys' m hat' hready hread hdelivers =>
            exact absurd (hdelivers.symm.trans (hsilent c')) (by simp)
        | pass => rfl
      · rw [hlt]
        -- the scan goes on behind `c`, which is removed or stays
        cases hm with
        | closed v xs' c' ys' hat' | expired v xs' c' ys' hat' =>
            obtain ⟨rfl, rfl, rfl⟩ := hat.unique hat'
            refine lt_of_le_of_lt (scanFrom_remaining _ _) ?_
            simp only [Listen.record, List.length_append]
            omega
        | measured v xs' c' ys' m hat' hready hread hdelivers =>
            exact absurd (hdelivers.symm.trans (hsilent c')) (by simp)
        | pass v xs' c' ys' hat' =>
            obtain ⟨rfl, rfl, rfl⟩ := hat.unique hat'
            refine lt_of_le_of_lt (scanFrom_remaining _ _) ?_
            rw [hat.clients_eq, List.length_append, List.length_cons]
            omega
  | leave =>
      have hclose := tcpClose_accepted cfg.listener_nonneg true s.openSds
      have hserver : cfg.serverSocket = acceptedSocket cfg.listener := rfl
      refine ⟨.leave true, { s with
        pc := .returned
        clients := []
        openSds := s.clients.foldl elementFreeConnmgr (s.openSds.erase cfg.listener) }, ?_, rfl, ?_⟩
      · simp only [Listen.step, hp, Listen.leave, hserver, hclose, ne_eq, not_true_eq_false, if_false,
          if_true]
      · simp only [Listen.remaining, hp]
        omega
  | returned => exact absurd hp hpc

variable {sqlite : Sqlite V} {asLiteral : V → V} {sensors : D} {db : Database V}
  {s s' : ParentProcess V D} {l : ParentStep V}

/-- A manager in its loop can make its next step, whatever SQLite makes of it. -/
theorem ParentProcess.manager_step (hbuffer : s.main.gateway.BufferOk) {r : Reader}
    (hpc : s.main.gateway.pc r ≠ .exited) (hready : r = .storagemgr → s.main.storage = .connected) :
    ∃ s', s.step cfg process sqlite asLiteral (.manager r) = some s' := by
  have hmain : ∀ ok, ∃ main, s.main.managerStep process r ok = some main := by
    intro ok
    have hstep : ∃ gateway, s.main.gateway.step process (.manager r ok) = some gateway :=
      hbuffer.manager_step hpc ok
    obtain ⟨gateway, hgateway⟩ := hstep
    unfold MainProcess.managerStep
    rw [if_neg fun hnot => hnot.2 (hready hnot.1), hgateway]
    exact ⟨_, rfl⟩
  simp only [ParentProcess.step, ParentProcess.managerStep]
  cases s.main.gateway.insertCall r with
  | none =>
      obtain ⟨main, hmain⟩ := hmain true
      rw [hmain]
      exact ⟨_, rfl⟩
  | some data =>
      obtain ⟨main, hmain⟩ :=
        hmain ((s.db.insertSensor sqlite asLiteral data.id data.value data.ts).1 = 0)
      dsimp only
      rw [hmain]
      exact ⟨_, rfl⟩

omit [Zero V] in
theorem ParentProcess.remaining_of_done (h : s.main.gateway.connmgrRunning = false) :
    s.remaining =
      s.main.gateway.remaining + s.main.storage.remaining + if s.conn = none then 0 else 1 := by
  rw [ParentProcess.remaining, h]
  rfl

/-- Once the flags are cleared, every step brings the end nearer. -/
theorem ParentProcess.remaining_lt
    (h : (parentSystem cfg process sqlite asLiteral sensors db).Reachable s)
    (hcleared : s.main.gateway.main.Cleared) (hs : s.step cfg process sqlite asLiteral l = some s') :
    s'.main.gateway.main.Cleared ∧ s'.remaining < s.remaining := by
  have hmain := s.reachable_main h
  have hinv := reachable_mainProcess hmain
  have hending := reachable_ending hmain
  obtain ⟨fails, hconnects⟩ := s.exists_connects h
  have hdone := hending.gateway.connmgr_done hcleared.past
  have hthreads : ∀ (l' : ProcessStep V) (main : MainProcess V D),
      (∀ connected, l' ≠ .initConnection connected) → s.main.step cfg process l' = some main →
      main.gateway.main.Cleared ∧ ∀ db', ({ s with main, db := db' } : ParentProcess V D).remaining
        < s.remaining := by
    intro l' main hinit hstep
    obtain ⟨hlt, hcleared', hstorage⟩ := hending.remaining_lt hinv hcleared hinit hstep
    refine ⟨hcleared', fun db' => ?_⟩
    rw [s.remaining_of_done hdone, ParentProcess.remaining_of_done
      ((hending.step hinv hstep).gateway.connmgr_done hcleared'.past), hstorage]
    dsimp only
    omega
  rcases s.step_cases hs with ⟨l', main, hstep, hinit, -, -, rfl⟩ | ⟨main, hstep, rfl⟩ |
    ⟨data, main, -, hstep, rfl⟩ | ⟨-, hconn, rfl⟩
  · obtain ⟨hcleared', hlt⟩ := hthreads l' main hinit hstep
    exact ⟨hcleared', hlt s.db⟩
  · obtain ⟨attemptNr, hstorage, -⟩ := initConnection_storage hstep
    have hnone : s.conn = none := hconnects.unconnected (by rw [hstorage]; simp)
    have hle : attemptNr ≤ 3 := by
      rcases hconnects.attempts with ⟨hgaveUp, -⟩ | ⟨hconnected, -⟩ | ⟨hconnecting, hle⟩
      · exact absurd (hstorage.symm.trans hgaveUp) (by simp)
      · exact absurd (hstorage.symm.trans hconnected) (by simp)
      · have hnr := StoragePc.connecting.inj (hstorage.symm.trans hconnecting)
        omega
    obtain ⟨hgateway, hmain', hconnmgr, -, hlt⟩ := initConnection_remaining hstorage hle hstep
    refine ⟨by rw [hmain']; exact hcleared, ?_⟩
    rw [s.remaining_of_done hdone, ParentProcess.remaining_of_done (by rw [hconnmgr, hdone]), hnone]
    -- a connection that is made is one more thing to undo
    cases hconn : (SensorGateway.initConnection sqlite s.db 1).1 with
    | none =>
        simp only [hconn, Option.isSome_none, Bool.false_eq_true, if_false] at hlt
        simp only [if_true]
        omega
    | some handle =>
        simp only [hconn, Option.isSome_some, if_true] at hlt
        simp only [if_true, reduceCtorEq, if_false]
        omega
  · obtain ⟨hcleared', hlt⟩ := hthreads _ main (by simp) hstep
    exact ⟨hcleared', hlt _⟩
  · refine ⟨hcleared, ?_⟩
    have hdone' : ({ s with db := s.db.close.write .lost, conn := none } :
        ParentProcess V D).main.gateway.connmgrRunning = false := hdone
    have heq := ParentProcess.remaining_of_done hdone'
    rw [if_pos rfl] at heq
    rw [heq, s.remaining_of_done hdone, if_neg hconn]
    exact Nat.lt_succ_self _

/-- `main` goes on, unless it waits for the storage manager to disconnect. -/
theorem ParentProcess.main_step {gateway : Gateway V D}
    (hs : s.main.gateway.mainStep = some gateway)
    (hjoin : s.main.gateway.main = .joinStoragemgr → s.conn = none) :
    s.step cfg process sqlite asLiteral .main =
      some { s with main := { s.main with gateway } } := by
  have hmain : s.main.step cfg process .main = some { s.main with gateway } := by
    simp only [MainProcess.step, Gateway.step, hs, Option.map_some]
  simp only [ParentProcess.step]
  rw [if_neg fun hnot => hnot.2 (hjoin hnot.1), hmain]
  rfl

/-- Where `main` waits for a manager, somebody can go on. -/
theorem ParentProcess.cleared_step
    (h : (parentSystem cfg process sqlite asLiteral sensors db).Reachable s)
    (hcloses : ∀ k, sqlite.closes k = true)
    (hjoin : s.main.gateway.main = .joinDatamgr ∨ s.main.gateway.main = .joinStoragemgr) :
    ∃ l s', s.step cfg process sqlite asLiteral l = some s' := by
  have hreach := s.reachable_main h
  have hbuffer := (reachable_mainProcess hreach).buffer
  have hending := reachable_ending hreach
  obtain ⟨fails, hconnects⟩ := s.exists_connects h
  rcases hjoin with hmain | hmain
  · by_cases hpc : s.main.gateway.pc .datamgr = .exited
    · have hstep : s.main.gateway.mainStep = some { s.main.gateway with main := .joinStoragemgr } := by
        simp only [Gateway.mainStep, hmain, hpc]
      exact ⟨.main, _, ParentProcess.main_step hstep (by rw [hmain]; simp)⟩
    · exact ⟨.manager .datamgr, s.manager_step hbuffer hpc (by simp)⟩
  · have hlast : s.main.gateway.pc .storagemgr = .exited → s.conn = none →
        ∃ l s', s.step cfg process sqlite asLiteral l = some s' := by
      intro hpc hconn
      have hstep : s.main.gateway.mainStep = some { s.main.gateway with main := .joined } := by
        simp only [Gateway.mainStep, hmain, hpc]
      exact ⟨.main, _, ParentProcess.main_step hstep fun _ => hconn⟩
    cases hstorage : s.main.storage with
    | connecting attemptNr =>
        have hinit : ∀ connected, ∃ main, s.main.initConnection connected = some main := by
          intro connected
          simp only [MainProcess.initConnection, hstorage]
          split
          · exact ⟨_, rfl⟩
          · exact ⟨_, rfl⟩
          · exact ⟨_, rfl⟩
        obtain ⟨main, hinit⟩ := hinit (initConnection sqlite s.db 1).1.isSome
        refine ⟨.initConnection, ⟨main, (initConnection sqlite s.db 1).2,
          (initConnection sqlite s.db 1).1⟩, ?_⟩
        simp only [ParentProcess.step, hinit, Option.map_some]
    | connected =>
        by_cases hpc : s.main.gateway.pc .storagemgr = .exited
        · by_cases hconn : s.conn = none
          · exact hlast hpc hconn
          · refine ⟨.disconnect, { s with db := s.db.close.write .lost, conn := none }, ?_⟩
            simp only [ParentProcess.step, ParentProcess.disconnect, hpc, SensorGateway.disconnect,
              if_neg hconn, hcloses, Bool.true_eq_false, if_false, Option.map_some]
        · exact ⟨.manager .storagemgr, s.manager_step hbuffer hpc fun _ => hstorage⟩
    | gaveUp =>
        exact hlast (hending.gaveUp hstorage) (hconnects.unconnected (by rw [hstorage]; simp))

/-- Until `main` is through, some step brings the end nearer. -/
theorem ParentProcess.progress
    (h : (parentSystem cfg process sqlite asLiteral sensors db).Reachable s)
    (hcloses : ∀ k, sqlite.closes k = true) (hgoing : s.main.gateway.main ≠ .joined) :
    ∃ l s', s.step cfg process sqlite asLiteral l = some s' ∧ s'.remaining < s.remaining := by
  have hreach := s.reachable_main h
  have hinv := reachable_mainProcess hreach
  have hmain : ∀ gateway : Gateway V D, s.main.gateway.mainStep = some gateway →
      gateway.remaining < s.main.gateway.remaining →
      gateway.connmgrRunning = s.main.gateway.connmgrRunning →
      s.main.gateway.main ≠ .joinStoragemgr →
      ∃ l s', s.step cfg process sqlite asLiteral l = some s' ∧ s'.remaining < s.remaining := by
    intro gateway hstep hlt hrun hne
    refine ⟨.main, _, ParentProcess.main_step hstep fun he => absurd he hne, ?_⟩
    simp only [ParentProcess.remaining, hrun]
    omega
  have hcleared : s.main.gateway.main = .joinDatamgr ∨ s.main.gateway.main = .joinStoragemgr →
      ∃ l s', s.step cfg process sqlite asLiteral l = some s' ∧ s'.remaining < s.remaining := by
    intro hjoin
    obtain ⟨l, s', hs'⟩ := s.cleared_step h hcloses hjoin
    exact ⟨l, s', hs', (s.remaining_lt h (hjoin.imp_right Or.inl) hs').2⟩
  by_cases hrun : s.main.gateway.connmgrRunning = true
  · by_cases hpc : s.main.listen.pc = .returned
    · refine ⟨.connmgrExit, { s with
        main := { s.main with gateway := { s.main.gateway with connmgrRunning := false } } }, ?_, ?_⟩
      · simp only [ParentProcess.step, MainProcess.step, Gateway.step, hpc, hrun, if_true,
          Option.map_some]
      · simp only [ParentProcess.remaining, hrun, if_true, Listen.remaining, hpc]
        exact Nat.lt_succ_self _
    · obtain ⟨l, listen, hlisten, hinserted, hlt⟩ := hinv.listen.silent_step hpc
      refine ⟨.connmgr l 0, { s with main := { s.main with listen } }, ?_, ?_⟩
      · simp only [ParentProcess.step, MainProcess.step, hlisten, hinserted, List.drop_length,
          Gateway.insertAll, List.foldlM_nil, Option.bind_eq_bind, Option.bind_some]
        rfl
      · simp only [ParentProcess.remaining, hrun, if_true]
        omega
  · cases hpc : s.main.gateway.main with
    | joinConnmgr =>
        refine hmain { s.main.gateway with main := .clearDatamgr } ?_ ?_ rfl (by rw [hpc]; simp)
        · simp only [Gateway.mainStep, hpc, if_neg hrun]
        · simp only [Gateway.remaining, hpc, MainPc.remaining]
          omega
    | clearDatamgr =>
        refine hmain { s.main.gateway with
          main := .clearStoragemgr
          run := Function.update s.main.gateway.run .datamgr false } ?_ ?_ rfl (by rw [hpc]; simp)
        · simp only [Gateway.mainStep, hpc]
        · simp only [Gateway.remaining, hpc, MainPc.remaining]
          omega
    | clearStoragemgr =>
        refine hmain { s.main.gateway with
          main := .joinDatamgr
          run := Function.update s.main.gateway.run .storagemgr false } ?_ ?_ rfl (by rw [hpc]; simp)
        · simp only [Gateway.mainStep, hpc]
        · simp only [Gateway.remaining, hpc, MainPc.remaining]
          omega
    | joinDatamgr => exact hcleared (Or.inl hpc)
    | joinStoragemgr => exact hcleared (Or.inr hpc)
    | joined => exact absurd hpc hgoing

omit [Zero V] in
/-- What is left to be done by a storage manager that has made its attempts one after the other. -/
theorem ParentProcess.Connects.remaining_le {fails : List DbEvent} (h : s.Connects db fails) :
    s.main.storage.remaining + (if s.conn = none then 0 else 1) ≤ 6 := by
  rcases h.attempts with ⟨hgaveUp, -⟩ | ⟨hconnected, -⟩ | ⟨hconnecting, -⟩
  · rw [hgaveUp]
    simp only [StoragePc.remaining]
    split
    · omega
    · omega
  · rw [hconnected]
    simp only [StoragePc.remaining]
    split
    · omega
    · omega
  · rw [hconnecting, if_pos (h.unconnected (by rw [hconnecting]; simp))]
    simp only [StoragePc.remaining]
    omega

omit [Zero V] in
theorem ManagerPc.remaining_le (pc : ManagerPc V) : pc.remaining ≤ 4 := by
  cases pc <;> simp [ManagerPc.remaining]

omit [Zero V] in
theorem Listen.remaining_le (t : Listen V) : t.remaining ≤ t.clients.length + 5 := by
  unfold Listen.remaining
  split
  all_goals omega

/-- **The shutdown comes to its end.** From a reachable state in which `main` has cleared both flags, no
    run has more than 16 steps, whoever makes them and whatever SQLite refuses; and if connections can
    be closed, a run that cannot be continued has joined all threads. -/
theorem shutdown_bounded (cfg : ListenConfig V) (process : D → SensorData V → D) (sqlite : Sqlite V)
    (asLiteral : V → V) (sensors : D) (db : Database V) {s s' : ParentProcess V D}
    {ls : List (ParentStep V)}
    (h : (parentSystem cfg process sqlite asLiteral sensors db).Reachable s)
    (hcleared : s.main.gateway.main.Cleared)
    (hs : (parentSystem cfg process sqlite asLiteral sensors db).exec s ls = some s') :
    ls.length ≤ 16 ∧ ((∀ k, sqlite.closes k = true) →
      (∀ l, (parentSystem cfg process sqlite asLiteral sensors db).step s' l = none) →
      s'.main.gateway.main = .joined) := by
  have hstep : ∀ (t : ParentProcess V D) (l : ParentStep V) (t' : ParentProcess V D),
      (parentSystem cfg process sqlite asLiteral sensors db).Reachable t ∧
        t.main.gateway.main.Cleared →
      (parentSystem cfg process sqlite asLiteral sensors db).step t l = some t' →
      ((parentSystem cfg process sqlite asLiteral sensors db).Reachable t' ∧
        t'.main.gateway.main.Cleared) ∧ t'.remaining < t.remaining := by
    rintro t l t' ⟨ht, hcleared⟩ ht'
    obtain ⟨hcleared', hlt⟩ := t.remaining_lt ht hcleared ht'
    exact ⟨⟨ht.step ht', hcleared'⟩, hlt⟩
  obtain ⟨⟨hreach', -⟩, hle⟩ := StepSystem.exec_length_le hstep ⟨h, hcleared⟩ hs
  refine ⟨?_, fun hcloses hstuck => ?_⟩
  · obtain ⟨fails, hconnects⟩ := s.exists_connects h
    have hstorage := hconnects.remaining_le
    have hdone := (reachable_ending (s.reachable_main h)).gateway.connmgr_done hcleared.past
    have hmain : s.main.gateway.main.remaining ≤ 2 := by
      rcases hcleared with hpc | hpc | hpc <;> rw [hpc] <;> decide
    have hdatamgr := (s.main.gateway.pc .datamgr).remaining_le
    have hstoragemgr := (s.main.gateway.pc .storagemgr).remaining_le
    rw [s.remaining_of_done hdone, Gateway.remaining] at hle
    omega
  · by_contra hgoing
    obtain ⟨l, s'', hs'', -⟩ := s'.progress hreach' hcloses hgoing
    exact absurd ((hstuck l).symm.trans hs'') (by simp)

/-- No client turns up, and `main` clears the flags before the storage manager has connected. -/
def closingRun : List (ParentStep (BitVec 64)) :=
  [.connmgr (.select (readySds [])) 0, .connmgr (.leave true) 0, .connmgrExit, .main, .main, .main]

/-- The steps that are left then, if the first attempt to connect succeeds. -/
def closingSteps : List (ParentStep (BitVec 64)) :=
  [.initConnection, .manager .datamgr, .manager .datamgr, .main, .manager .storagemgr,
    .manager .storagemgr, .disconnect, .main]

/-- After these eight steps there is no other, and all threads are joined. -/
theorem shutdown_bounded_closing :
    ∃ s', exampleParent.exec (exampleParent.after closingRun) closingSteps = some s' ∧
      closingSteps.length ≤ 16 ∧ (∀ l, exampleParent.step s' l = none) ∧
      s'.main.gateway.main = .joined := by
  have hreach : exampleParent.Reachable (exampleParent.after closingRun) :=
    StepSystem.reachable_after (by decide)
  obtain ⟨s', hs'⟩ := Option.isSome_iff_exists.1 (by decide :
    (exampleParent.exec (exampleParent.after closingRun) closingSteps).isSome = true)
  have hend : (exampleParent.exec (exampleParent.after closingRun) closingSteps).map
      (fun s => (s.main.gateway.main, s.remaining)) = some (.joined, 0) := by decide
  rw [hs', Option.map_some, Option.some.injEq, Prod.mk.injEq] at hend
  obtain ⟨hmain, hremaining⟩ := hend
  have hstuck : ∀ l, exampleParent.step s' l = none := by
    intro l
    cases hl : exampleParent.step s' l with
    | none => rfl
    | some t =>
        have hlt := (s'.remaining_lt (hreach.exec hs') (Or.inr (Or.inr hmain)) hl).2
        rw [hremaining] at hlt
        exact absurd hlt (Nat.not_lt_zero _)
  obtain ⟨hlength, hjoined⟩ := shutdown_bounded exampleListen (fun _ _ => ()) freeSqlite
    (fun v => v) () (noTable (BitVec 64)) hreach (Or.inl (by decide)) hs'
  exact ⟨s', hs', hlength, hstuck, hjoined freeSqlite_reliable.closes hstuck⟩

/-- **The process can always be shut down.** From every reachable state, with `n` clients in the list, the
    threads can come to the end of `main` in at most `n + 24` steps if connections can be closed: no
    thread waits for another one for good. -/
theorem can_shut_down (cfg : ListenConfig V) (process : D → SensorData V → D) (sqlite : Sqlite V)
    (asLiteral : V → V) (sensors : D) (db : Database V) {s : ParentProcess V D}
    (hcloses : ∀ k, sqlite.closes k = true)
    (h : (parentSystem cfg process sqlite asLiteral sensors db).Reachable s) :
    ∃ ls s', (parentSystem cfg process sqlite asLiteral sensors db).exec s ls = some s' ∧
      s'.main.gateway.main = .joined ∧ ls.length ≤ s.main.listen.clients.length + 24 := by
  have hstep : ∀ t : ParentProcess V D,
      (parentSystem cfg process sqlite asLiteral sensors db).Reachable t →
      ¬ t.main.gateway.main = .joined →
      ∃ l t', (parentSystem cfg process sqlite asLiteral sensors db).step t l = some t' ∧
        (parentSystem cfg process sqlite asLiteral sensors db).Reachable t' ∧
        t'.remaining < t.remaining := by
    intro t ht hgoing
    obtain ⟨l, t', ht', hlt⟩ := t.progress ht hcloses hgoing
    exact ⟨l, t', ht', StepSystem.Reachable.step (l := l) ht ht', hlt⟩
  obtain ⟨ls, s', hls, hjoined, hle⟩ := StepSystem.exists_exec hstep h
  refine ⟨ls, s', hls, hjoined, hle.trans ?_⟩
  obtain ⟨fails, hconnects⟩ := s.exists_connects h
  have hstorage := hconnects.remaining_le
  have hmain : s.main.gateway.main.remaining ≤ 5 := by
    cases s.main.gateway.main <;> decide
  have hdatamgr := (s.main.gateway.pc .datamgr).remaining_le
  have hstoragemgr := (s.main.gateway.pc .storagemgr).remaining_le
  have hlisten := s.main.listen.remaining_le
  rw [ParentProcess.remaining, Gateway.remaining]
  by_cases hrun : s.main.gateway.connmgrRunning = true
  · rw [if_pos hrun]
    omega
  · rw [if_neg hrun]
    omega

theorem can_shut_down_storing :
    ∃ ls s', exampleParent.exec (exampleParent.after storingRun) ls = some s' ∧
      s'.main.gateway.main = .joined := by
  obtain ⟨ls, s', hls, hjoined, -⟩ := can_shut_down exampleListen (fun _ _ => ()) freeSqlite
    (fun v => v) () (noTable (BitVec 64)) freeSqlite_reliable.closes storingRun_reachable
  exact ⟨ls, s', hls, hjoined⟩

end Progress

end SensorGateway
