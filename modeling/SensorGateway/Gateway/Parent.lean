import SensorGateway.Gateway.Delivery
import SensorGateway.Gateway.Unreachable
import SensorGateway.Storage.Queries

set_option autoImplicit false

/-! # The parent process and its database

`MainProcess` leaves the outcome of the `init_connection` and `insert_sensor` calls to the environment.
Here they are the calls of `sensor_db.c` on a database, and `storagemgr_function` goes on to its end:
behind its loop it disconnects, and `main` joins it only then. What SQLite refuses is still open.

Every step is a step of `MainProcess` or leaves it alone (`ParentProcess.reachable_main`). -/

namespace SensorGateway

variable {V D : Type}

/-- The parent process: its threads, the database, and `connection` of `storagemgr_function` (`none`
    also once it is disconnected). -/
structure ParentProcess (V D : Type) where
  main : MainProcess V D
  db : Database V
  conn : Option ℕ

/-- Who makes a step, with the choices of the environment. -/
inductive ParentStep (V : Type) where
  | connmgr (l : ListenStep V) (block : Addr)
  | connmgrExit
  | initConnection
  | manager (r : Reader)
  | disconnect
  | main

section System

variable [Zero V] (cfg : ListenConfig V) (process : D → SensorData V → D) (sqlite : Sqlite V)
  (asLiteral : V → V)

/-- The measurement for which the next step of manager `r` calls `insert_sensor`. -/
def Gateway.insertCall (g : Gateway V D) (r : Reader) : Option (SensorData V) :=
  match r, g.pc r with
  | .storagemgr, .handle data => if data.id = 0 then none else some data
  | _, _ => none

/-- One step of the loop of a manager. -/
def ParentProcess.managerStep (s : ParentProcess V D) (r : Reader) : Option (ParentProcess V D) :=
  match s.main.gateway.insertCall r with
  | none => (s.main.managerStep process r true).map fun main => { s with main }
  | some data =>
      let (result, db) := s.db.insertSensor sqlite asLiteral data.id data.value data.ts
      (s.main.managerStep process r (result = 0)).map fun main => { s with main, db }

/-- `disconnect` in `storagemgr_function`, behind the loop. -/
def ParentProcess.disconnect (s : ParentProcess V D) : Option (ParentProcess V D) :=
  match s.main.gateway.pc .storagemgr with
  | .exited =>
      if s.conn = none then none
      else (SensorGateway.disconnect sqlite s.db).map fun db => { s with db, conn := none }
  | _ => none

/-- One step of the parent process. -/
def ParentProcess.step (s : ParentProcess V D) : ParentStep V → Option (ParentProcess V D)
  | .connmgr l block =>
      (s.main.step cfg process (.connmgr l block)).map fun main => { s with main }
  | .connmgrExit => (s.main.step cfg process .connmgrExit).map fun main => { s with main }
  | .initConnection =>
      let (conn, db) := initConnection sqlite s.db 1
      (s.main.initConnection conn.isSome).map fun main => { main, db, conn }
  | .manager r => s.managerStep process sqlite asLiteral r
  | .disconnect => s.disconnect sqlite
  | .main =>
      -- the thread of the storage manager exits once it is disconnected
      if s.main.gateway.main = .joinStoragemgr ∧ s.conn ≠ none then none
      else (s.main.step cfg process .main).map fun main => { s with main }

/-- All runs of the parent process on the database `db`. -/
def parentSystem (sensors : D) (db : Database V) :
    StepSystem (ParentProcess V D) (ParentStep V) where
  init := ⟨.initial cfg sensors, db, none⟩
  step := ParentProcess.step cfg process sqlite asLiteral

end System

/-! ## What a step of a manager stores -/

section Calls

variable [Zero V] {process : D → SensorData V → D}

omit [Zero V] in
theorem insertCall_eq_some {g : Gateway V D} {r : Reader} {data : SensorData V} :
    g.insertCall r = some data ↔
      r = .storagemgr ∧ g.pc .storagemgr = .handle data ∧ data.id ≠ 0 := by
  cases r with
  | datamgr => simp [Gateway.insertCall]
  | storagemgr =>
      simp only [Gateway.insertCall]
      cases hpc : g.pc .storagemgr with
      | handle data' =>
          by_cases hid : data'.id = 0
          · simp only [hid, if_true, reduceCtorEq, ManagerPc.handle.injEq, true_and, false_iff,
              not_and]
            rintro rfl
            exact not_not.2 hid
          · simp only [hid, if_false, Option.some.injEq, ManagerPc.handle.injEq, true_and]
            refine ⟨?_, And.left⟩
            rintro rfl
            exact ⟨rfl, hid⟩
      | check | remove | test | exited => simp

/-- An `insert_sensor` call stores its measurement or fails, and no other step does either. -/
theorem GatewayMove.insertCall {q q' : Broadcast Reader (SensorData V)} {g g' : Gateway V D}
    {l : GatewayStep V} (hm : GatewayMove process q g l q' g') :
    (∃ data ok, l = .manager .storagemgr ok ∧ g.insertCall .storagemgr = some data ∧
      g'.table = (if ok = true then g.table ++ [data] else g.table) ∧
      g'.failed = (if ok = true then g.failed else g.failed ++ [data]) ∧
      g'.handled .storagemgr = g.handled .storagemgr ++ [data]) ∨
    (∀ ok, l = .manager .storagemgr ok → g.insertCall .storagemgr = none) ∧
      g'.table = g.table ∧ g'.failed = g.failed ∧
      g'.handled .storagemgr = g.handled .storagemgr := by
  have hidle : ∀ {r : Reader} {ok : Bool} {pc : ManagerPc V}, g.pc r = pc →
      (∀ data, pc = .handle data → data.id = 0) →
      ∀ ok', (.manager r ok : GatewayStep V) = .manager .storagemgr ok' →
        g.insertCall .storagemgr = none := by
    intro r ok pc hpc hnone ok' heq
    obtain ⟨rfl, -⟩ := GatewayStep.manager.inj heq
    rw [Option.eq_none_iff_forall_ne_some]
    intro data hdata
    obtain ⟨-, hhandle, hid⟩ := insertCall_eq_some.1 hdata
    exact hid (hnone data (hpc.symm.trans hhandle))
  cases hm with
  | handle r ok data hpc hid =>
      cases r with
      | datamgr => exact Or.inr ⟨by simp, rfl, rfl, handle_handled_ne _ _ _ _ _ (by simp)⟩
      | storagemgr =>
          refine Or.inl ⟨data, ok, rfl, insertCall_eq_some.2 ⟨rfl, hpc, hid⟩, ?_, ?_,
            handle_handled_self ..⟩
          · cases ok <;> rfl
          · cases ok <;> rfl
  | look r ok pc' hpc => exact Or.inr ⟨hidle hpc (by simp), rfl, rfl, rfl⟩
  | take r ok b' hpc => exact Or.inr ⟨hidle hpc (by simp), rfl, rfl, rfl⟩
  | noData r ok hpc => exact Or.inr ⟨hidle hpc (by simp), rfl, rfl, rfl⟩
  | skip r ok data hpc hid =>
      refine Or.inr ⟨hidle hpc ?_, rfl, rfl, rfl⟩
      intro data' heq
      exact ManagerPc.handle.inj heq ▸ hid
  | again r ok hpc => exact Or.inr ⟨hidle hpc (by simp), rfl, rfl, rfl⟩
  | exit r ok hpc => exact Or.inr ⟨hidle hpc (by simp), rfl, rfl, rfl⟩
  | insert | connmgrExit | joinConnmgr | clearDatamgr | clearStoragemgr | joinDatamgr
  | joinStoragemgr => exact Or.inr ⟨by simp, rfl, rfl, rfl⟩

/-- Inserting measurements changes the buffer only. -/
theorem insertAll_eq {block : Addr} {ms : List (SensorData V)} {g g' : Gateway V D}
    (hs : g.insertAll process block ms = some g') :
    ∃ buffer, g' = { g with buffer, inserted := g.inserted ++ ms } := by
  induction ms generalizing g with
  | nil =>
      obtain rfl := Option.some.inj hs
      exact ⟨g.buffer, by rw [List.append_nil]⟩
  | cons m ms ih =>
      obtain ⟨g₁, hinsert, hs⟩ := Option.bind_eq_some_iff.1 hs
      obtain ⟨buffer, rfl⟩ : ∃ buffer, g₁ = { g with buffer, inserted := g.inserted ++ [m] } := by
        simp only [Gateway.step] at hinsert
        split at hinsert
        · obtain ⟨⟨status, buffer⟩, -, hinsert⟩ := Option.bind_eq_some_iff.1 hinsert
          dsimp only at hinsert
          split at hinsert
          · exact ⟨buffer, (Option.some.inj hinsert).symm⟩
          · exact absurd hinsert (by simp)
        · exact absurd hinsert (by simp)
      obtain ⟨buffer', rfl⟩ := ih hs
      exact ⟨buffer', by simp⟩

end Calls

/-! ## The steps of the main process -/

section Steps

variable [Zero V] {cfg : ListenConfig V} {process : D → SensorData V → D} {sensors : D}
  {s s' : MainProcess V D}

theorem reachable_mainProcess (h : (mainSystem cfg process sensors).Reachable s) : s.Inv cfg :=
  h.invariant (MainProcess.Inv cfg) mainProcess_inv_initial fun _ _ _ hinv hs => (hinv.step hs).2

theorem main_step_reachable {l : ProcessStep V} (h : (mainSystem cfg process sensors).Reachable s)
    (hs : s.step cfg process l = some s') : (mainSystem cfg process sensors).Reachable s' :=
  StepSystem.Reachable.step (l := l) h hs

/-- What a step leaves of the storage manager that neither connects nor calls `insert_sensor`. -/
structure MainProcess.SameStorage (s : MainProcess V D) (l : ProcessStep V)
    (s' : MainProcess V D) : Prop where
  storage_eq : s'.storage = s.storage
  table_eq : s'.gateway.table = s.gateway.table
  failed_eq : s'.gateway.failed = s.gateway.failed
  exited : s.gateway.pc .storagemgr = .exited → s'.gateway.pc .storagemgr = .exited
  waits : s.storage ≠ .connected → s'.gateway.pc .storagemgr = s.gateway.pc .storagemgr
  joined : s'.gateway.main = .joined → s.gateway.main = .joined ∨
    l = .main ∧ s.gateway.main = .joinStoragemgr ∧ s.gateway.pc .storagemgr = .exited

/-- Where a step of the threads takes the storage manager and `main`. -/
theorem GatewayMove.control_eq {q q' : Broadcast Reader (SensorData V)} {g g' : Gateway V D}
    {l : GatewayStep V} (hm : GatewayMove process q g l q' g') :
    ((∀ ok, l ≠ .manager .storagemgr ok) → g'.pc .storagemgr = g.pc .storagemgr) ∧
      (g'.main = .joined → g.main = .joined ∨
        l = .main ∧ g.main = .joinStoragemgr ∧ g.pc .storagemgr = .exited) := by
  have hmanager : ∀ {r : Reader} {ok : Bool} {pc : ManagerPc V} (e : Gateway V D), e.pc = g.pc →
      (∀ ok', (.manager r ok : GatewayStep V) ≠ .manager .storagemgr ok') →
      (e.goto r pc).pc .storagemgr = g.pc .storagemgr := by
    intro r ok pc e hpc hl
    rw [goto_pc_ne _ _ _ fun he => hl ok (by rw [he]), hpc]
  cases hm with
  | insert | connmgrExit => exact ⟨fun _ => rfl, Or.inl⟩
  | look r ok => exact ⟨hmanager g rfl, Or.inl⟩
  | take r ok b' => exact ⟨hmanager { g with buffer := b' } rfl, Or.inl⟩
  | noData r ok => exact ⟨hmanager g rfl, Or.inl⟩
  | skip r ok => exact ⟨hmanager g rfl, Or.inl⟩
  | handle r ok data =>
      refine ⟨fun hl => ?_, fun hjoined => Or.inl ?_⟩
      · rw [handle_pc]
        exact hmanager g rfl hl
      · rw [handle_main] at hjoined
        exact hjoined
  | again r ok => exact ⟨hmanager g rfl, Or.inl⟩
  | exit r ok => exact ⟨hmanager g rfl, Or.inl⟩
  | joinConnmgr | clearDatamgr | clearStoragemgr | joinDatamgr =>
      exact ⟨fun _ => rfl, fun hjoined => absurd hjoined (by simp)⟩
  | joinStoragemgr hmain hpc => exact ⟨fun _ => rfl, fun _ => Or.inr ⟨rfl, hmain, hpc⟩⟩

theorem sameStorage_gateway {l : GatewayStep V} {l' : ProcessStep V} (hinv : s.Inv cfg)
    (hl : l = .main → l' = .main)
    (hcall : ∀ ok, l = .manager .storagemgr ok →
      s.storage = .connected ∧ s.gateway.insertCall .storagemgr = none)
    (hs : (s.gateway.step process l).map (fun gateway => { s with gateway }) = some s') :
    s.SameStorage l' s' := by
  obtain ⟨gateway, hstep, rfl⟩ := Option.map_eq_some_iff.1 hs
  obtain ⟨q, hrep⟩ := hinv.buffer
  obtain ⟨q', hm, -⟩ := step_move hrep hstep
  rcases hm.insertCall with ⟨data, ok, hcalled, hdata, -⟩ | ⟨-, htable, hfailed, -⟩
  · exact absurd (hdata.symm.trans (hcall ok hcalled).2) (by simp)
  · obtain ⟨hpc, hjoined⟩ := hm.control_eq
    exact ⟨rfl, htable, hfailed, fun hexited => hm.exited_iff.2 (Or.inl hexited),
      fun hnot => hpc fun ok hcalled => hnot (hcall ok hcalled).1,
      fun h => (hjoined h).imp id (And.imp hl id)⟩

theorem MainProcess.Inv.sameStorage {l : ProcessStep V} (hinv : s.Inv cfg)
    (hs : s.step cfg process l = some s') (hinit : ∀ connected, l ≠ .initConnection connected)
    (hcall : ∀ ok, l = .manager .storagemgr ok → s.gateway.insertCall .storagemgr = none) :
    s.SameStorage l s' := by
  cases l with
  | connmgr l block =>
      obtain ⟨listen, -, hs⟩ := Option.bind_eq_some_iff.1 hs
      obtain ⟨gateway, hgateway, hs⟩ := Option.bind_eq_some_iff.1 hs
      obtain rfl := Option.some.inj hs
      obtain ⟨buffer, rfl⟩ := insertAll_eq hgateway
      exact ⟨rfl, rfl, rfl, id, fun _ => rfl, Or.inl⟩
  | connmgrExit =>
      simp only [MainProcess.step] at hs
      split at hs
      · exact sameStorage_gateway hinv (by simp) (by simp) hs
      · exact absurd hs (by simp)
  | initConnection connected => exact absurd rfl (hinit connected)
  | manager r ok =>
      simp only [MainProcess.step, MainProcess.managerStep] at hs
      split at hs
      · exact absurd hs (by simp)
      · next hconnected =>
          refine sameStorage_gateway hinv (by simp) ?_ hs
          intro ok' heq
          obtain ⟨rfl, rfl⟩ := GatewayStep.manager.inj heq
          exact ⟨by simpa using hconnected, hcall ok rfl⟩
  | main => exact sameStorage_gateway hinv (fun _ => rfl) (by simp) hs

/-- What an `insert_sensor` call leaves behind. -/
theorem MainProcess.Inv.insertCall {data : SensorData V} {ok : Bool} (hinv : s.Inv cfg)
    (hdata : s.gateway.insertCall .storagemgr = some data)
    (hs : s.step cfg process (.manager .storagemgr ok) = some s') :
    s.storage = .connected ∧ s'.storage = .connected ∧
      s'.gateway.table = (if ok = true then s.gateway.table ++ [data] else s.gateway.table) ∧
      s'.gateway.failed = (if ok = true then s.gateway.failed else s.gateway.failed ++ [data]) ∧
      (s'.gateway.main = .joined → s.gateway.main = .joined) := by
  simp only [MainProcess.step, MainProcess.managerStep] at hs
  split at hs
  · exact absurd hs (by simp)
  · next hconnected =>
      have hstorage : s.storage = .connected := by simpa using hconnected
      obtain ⟨gateway, hstep, rfl⟩ := Option.map_eq_some_iff.1 hs
      obtain ⟨q, hrep⟩ := hinv.buffer
      obtain ⟨q', hm, -⟩ := SensorGateway.step_move hrep hstep
      rcases hm.insertCall with ⟨data', ok', hl, hdata', htable, hfailed, -⟩ | ⟨hnone, -⟩
      · obtain ⟨-, rfl⟩ := GatewayStep.manager.inj hl
        obtain rfl := Option.some.inj (hdata.symm.trans hdata')
        exact ⟨hstorage, hstorage, htable, hfailed,
          fun hjoined => (hm.control_eq.2 hjoined).resolve_right (by simp)⟩
      · exact absurd (hdata.symm.trans (hnone ok rfl)) (by simp)

/-- An `init_connection` call is made while the storage manager is connecting. -/
theorem initConnection_storage {connected : Bool}
    (hs : s.step cfg process (.initConnection connected) = some s') :
    ∃ attemptNr, s.storage = .connecting attemptNr ∧
      s'.storage = storagemgrInit attemptNr connected ∧ s'.gateway.table = s.gateway.table ∧
      s'.gateway.failed = s.gateway.failed ∧ s'.gateway.main = s.gateway.main ∧
      ∀ attemptNr', s'.storage = .connecting attemptNr' →
        s'.gateway.pc .storagemgr = s.gateway.pc .storagemgr := by
  simp only [MainProcess.step, MainProcess.initConnection] at hs
  split at hs
  · next attemptNr hstorage =>
      refine ⟨attemptNr, hstorage, ?_⟩
      split at hs
      · next hgaveUp =>
          obtain rfl := Option.some.inj hs
          exact ⟨hgaveUp.symm, rfl, rfl, rfl, by simp⟩
      · next attemptNr' hagain =>
          obtain rfl := Option.some.inj hs
          exact ⟨hagain.symm, rfl, rfl, rfl, fun _ _ => rfl⟩
      · next hconnected =>
          obtain rfl := Option.some.inj hs
          exact ⟨hconnected.symm, rfl, rfl, rfl, by simp⟩
  · exact absurd hs (by simp)
  · exact absurd hs (by simp)

end Steps

/-! ## The steps of the parent process -/

section Cases

variable [Zero V] {cfg : ListenConfig V} {process : D → SensorData V → D} {sqlite : Sqlite V}
  {asLiteral : V → V} {s s' : ParentProcess V D} {l : ParentStep V}

/-- **What a step can do**: a step of the threads that does not call SQLite, or one of the three calls. -/
theorem ParentProcess.step_cases (hs : s.step cfg process sqlite asLiteral l = some s') :
    (∃ l' main, s.main.step cfg process l' = some main ∧
      (∀ connected, l' ≠ .initConnection connected) ∧
      (∀ ok, l' = .manager .storagemgr ok → s.main.gateway.insertCall .storagemgr = none) ∧
      (l' = .main → s.main.gateway.main = .joinStoragemgr → s.conn = none) ∧
      s' = { s with main }) ∨
    (∃ main, s.main.step cfg process (.initConnection (initConnection sqlite s.db 1).1.isSome)
        = some main ∧
      s' = ⟨main, (initConnection sqlite s.db 1).2, (initConnection sqlite s.db 1).1⟩) ∨
    (∃ data main, s.main.gateway.insertCall .storagemgr = some data ∧
      s.main.step cfg process (.manager .storagemgr
        ((s.db.insertSensor sqlite asLiteral data.id data.value data.ts).1 = 0)) = some main ∧
      s' = { s with main, db := (s.db.insertSensor sqlite asLiteral data.id data.value data.ts).2 }) ∨
    (s.main.gateway.pc .storagemgr = .exited ∧ s.conn ≠ none ∧
      s' = { s with db := s.db.close.write .lost, conn := none }) := by
  cases l with
  | connmgr l block =>
      obtain ⟨main, hmain, rfl⟩ := Option.map_eq_some_iff.1 hs
      exact Or.inl ⟨_, main, hmain, by simp, by simp, by simp, rfl⟩
  | connmgrExit =>
      obtain ⟨main, hmain, rfl⟩ := Option.map_eq_some_iff.1 hs
      exact Or.inl ⟨_, main, hmain, by simp, by simp, by simp, rfl⟩
  | initConnection =>
      obtain ⟨main, hmain, rfl⟩ := Option.map_eq_some_iff.1 hs
      exact Or.inr (Or.inl ⟨main, hmain, rfl⟩)
  | manager r =>
      simp only [ParentProcess.step, ParentProcess.managerStep] at hs
      split at hs
      · next hnone =>
          obtain ⟨main, hmain, rfl⟩ := Option.map_eq_some_iff.1 hs
          refine Or.inl ⟨.manager r true, main, hmain, by simp, ?_, by simp, rfl⟩
          intro ok heq
          obtain ⟨rfl, -⟩ := ProcessStep.manager.inj heq
          exact hnone
      · next data hdata =>
          obtain ⟨main, hmain, rfl⟩ := Option.map_eq_some_iff.1 hs
          obtain ⟨rfl, -⟩ := insertCall_eq_some.1 hdata
          exact Or.inr (Or.inr (Or.inl ⟨data, main, hdata, hmain, rfl⟩))
  | disconnect =>
      simp only [ParentProcess.step, ParentProcess.disconnect] at hs
      split at hs
      · next hpc =>
          split at hs
          · exact absurd hs (by simp)
          · next hconn =>
              obtain ⟨db, hclose, rfl⟩ := Option.map_eq_some_iff.1 hs
              unfold SensorGateway.disconnect at hclose
              split at hclose
              · exact absurd hclose (by simp)
              · obtain rfl := Option.some.inj hclose
                exact Or.inr (Or.inr (Or.inr ⟨hpc, hconn, rfl⟩))
      · exact absurd hs (by simp)
  | main =>
      simp only [ParentProcess.step] at hs
      split at hs
      · exact absurd hs (by simp)
      · next hguard =>
          obtain ⟨main, hmain, rfl⟩ := Option.map_eq_some_iff.1 hs
          exact Or.inl ⟨.main, main, hmain, by simp, by simp,
            fun _ hjoin => not_not.1 fun hconn => hguard ⟨hjoin, hconn⟩, rfl⟩

/-- The main process is as it is on its own. -/
theorem ParentProcess.reachable_main {sensors : D} {db : Database V}
    (h : (parentSystem cfg process sqlite asLiteral sensors db).Reachable s) :
    (mainSystem cfg process sensors).Reachable s.main := by
  refine h.invariant (fun s => (mainSystem cfg process sensors).Reachable s.main) .init ?_
  intro s l s' ih hs
  rcases s.step_cases hs with ⟨l', main, hmain, -, -, -, rfl⟩ | ⟨main, hmain, rfl⟩ |
    ⟨data, main, -, hmain, rfl⟩ | ⟨-, -, rfl⟩
  · exact main_step_reachable ih hmain
  · exact main_step_reachable ih hmain
  · exact main_step_reachable ih hmain
  · exact ih

end Cases

end SensorGateway
