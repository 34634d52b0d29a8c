import SensorGateway.Gateway.Locking
import SensorGateway.Gateway.Outcome
import SensorGateway.Gateway.Termination
import SensorGateway.Library.Announce

set_option autoImplicit false

/-! # What the threads report

The messages for the log come from three threads: the connection manager reports connections, the
data manager temperatures and unknown sensors, and the storage manager its database connection. What
a thread has reported depends on its own steps only, and it reports nothing any more once `main` can
join it (`loggedParent_sound`, `not_canLog_of_joined`). -/

namespace SensorGateway

variable {V D : Type}

/-- What a message is about. -/
inductive GatewayEvent (V : Type) where
  | sensor (event : LogEvent V)
  | database (event : DbEvent)
deriving DecidableEq

/-- The thread that makes a step. -/
def ProcessStep.thread : ProcessStep V → Thread
  | .connmgr .. | .connmgrExit => .connmgr
  | .initConnection _ => .storagemgr
  | .manager r _ => r.thread
  | .main => .main

/-- The thread that makes a step. -/
def ParentStep.thread : ParentStep V → Thread
  | .connmgr .. | .connmgrExit => .connmgr
  | .initConnection | .disconnect => .storagemgr
  | .manager r => r.thread
  | .main => .main

/-! ## What a step leaves alone -/

section Frame

variable [Zero V] {process : D → SensorData V → D}

/-- The data manager is where the steps of the other threads found it. -/
theorem GatewayMove.datamgr_eq {q q' : Broadcast Reader (SensorData V)} {g g' : Gateway V D}
    {l : GatewayStep V} (hm : GatewayMove process q g l q' g') (hl : l.thread ≠ .datamgr) :
    g'.sensors = g.sensors ∧ g'.pc .datamgr = g.pc .datamgr := by
  have hne : ∀ {r : Reader} {ok : Bool}, (.manager r ok : GatewayStep V).thread ≠ .datamgr →
      Reader.datamgr ≠ r := by
    rintro r ok hr rfl
    exact hr rfl
  cases hm with
  | look | take | noData | skip | again | exit => exact ⟨rfl, goto_pc_ne _ _ _ (hne hl)⟩
  | handle r ok data =>
      cases r with
      | datamgr => exact absurd rfl hl
      | storagemgr =>
          rw [handle_pc]
          refine ⟨?_, goto_pc_ne _ _ _ (hne hl)⟩
          cases ok <;> rfl
  | insert | connmgrExit | joinConnmgr | clearDatamgr | clearStoragemgr | joinDatamgr
  | joinStoragemgr => exact ⟨rfl, rfl⟩

/-- What a step of `thread` leaves alone: the other threads. -/
structure MainProcess.Frame (s : MainProcess V D) (thread : Thread) (s' : MainProcess V D) :
    Prop where
  listen : thread ≠ .connmgr → s'.listen = s.listen
  sensors : thread ≠ .datamgr → s'.gateway.sensors = s.gateway.sensors
  pc : thread ≠ .datamgr → s'.gateway.pc .datamgr = s.gateway.pc .datamgr
  storage : thread ≠ .storagemgr → s'.storage = s.storage

variable {cfg : ListenConfig V} {s s' : MainProcess V D}

/-- What a step can do to the threads: a move of the thread that makes it, insertions, or the outcome
    of an attempt to connect. -/
theorem MainProcess.Inv.gateway_cases {l : ProcessStep V} (hinv : s.Inv cfg)
    (hs : s.step cfg process l = some s') :
    (∃ q l' q', l'.thread = l.thread ∧ GatewayMove process q s.gateway l' q' s'.gateway ∧
      s'.listen = s.listen ∧ s'.storage = s.storage) ∨
    (l.thread = .connmgr ∧ s'.storage = s.storage ∧
      ∃ buffer inserted, s'.gateway = { s.gateway with buffer, inserted }) ∨
    (l.thread = .storagemgr ∧ s'.listen = s.listen ∧
      (s'.gateway = s.gateway ∨ s'.gateway = s.gateway.goto .storagemgr .exited)) := by
  have hmove : ∀ {l' : GatewayStep V}, l'.thread = l.thread →
      (s.gateway.step process l').map (fun gateway => { s with gateway }) = some s' →
      ∃ q l' q', l'.thread = l.thread ∧ GatewayMove process q s.gateway l' q' s'.gateway ∧
        s'.listen = s.listen ∧ s'.storage = s.storage := by
    intro l' hl hs'
    obtain ⟨gateway, hstep, rfl⟩ := Option.map_eq_some_iff.1 hs'
    obtain ⟨q, hrep⟩ := hinv.buffer
    obtain ⟨q', hm, -⟩ := SensorGateway.step_move hrep hstep
    exact ⟨q, l', q', hl, hm, rfl, rfl⟩
  cases l with
  | connmgr l block =>
      obtain ⟨listen, -, hs⟩ := Option.bind_eq_some_iff.1 hs
      obtain ⟨gateway, hgateway, hs⟩ := Option.bind_eq_some_iff.1 hs
      obtain rfl := Option.some.inj hs
      obtain ⟨buffer, rfl⟩ := insertAll_eq hgateway
      exact Or.inr (Or.inl ⟨rfl, rfl, _, _, rfl⟩)
  | connmgrExit =>
      simp only [MainProcess.step] at hs
      split at hs
      · exact Or.inl (hmove rfl hs)
      · exact absurd hs (by simp)
  | initConnection connected =>
      simp only [MainProcess.step, MainProcess.initConnection] at hs
      split at hs
      · split at hs
        · obtain rfl := Option.some.inj hs
          exact Or.inr (Or.inr ⟨rfl, rfl, Or.inr rfl⟩)
        · obtain rfl := Option.some.inj hs
          exact Or.inr (Or.inr ⟨rfl, rfl, Or.inl rfl⟩)
        · obtain rfl := Option.some.inj hs
          exact Or.inr (Or.inr ⟨rfl, rfl, Or.inl rfl⟩)
      · exact absurd hs (by simp)
      · exact absurd hs (by simp)
  | manager r ok =>
      simp only [MainProcess.step, MainProcess.managerStep] at hs
      split at hs
      · exact absurd hs (by simp)
      · exact Or.inl (hmove rfl hs)
  | main => exact Or.inl (hmove rfl hs)

theorem MainProcess.Inv.frame {l : ProcessStep V} (hinv : s.Inv cfg)
    (hs : s.step cfg process l = some s') : s.Frame l.thread s' := by
  rcases hinv.gateway_cases hs with ⟨q, l', q', hl', hm, hlisten, hstorage⟩ |
    ⟨hl, hstorage, buffer, inserted, hgateway⟩ | ⟨hl, hlisten, hgateway | hgateway⟩
  · rw [← hl']
    exact ⟨fun _ => hlisten, fun hne => (hm.datamgr_eq hne).1, fun hne => (hm.datamgr_eq hne).2,
      fun _ => hstorage⟩
  · exact ⟨fun hne => absurd hl hne, fun _ => by rw [hgateway], fun _ => by rw [hgateway],
      fun _ => hstorage⟩
  · exact ⟨fun _ => hlisten, fun _ => by rw [hgateway], fun _ => by rw [hgateway],
      fun hne => absurd hl hne⟩
  · refine ⟨fun _ => hlisten, fun _ => by rw [hgateway]; rfl, fun _ => ?_,
      fun hne => absurd hl hne⟩
    rw [hgateway]
    exact goto_pc_ne _ _ _ (by simp)

variable {sqlite : Sqlite V} {asLiteral : V → V} {t t' : ParentProcess V D} {l : ParentStep V}

/-- A step of a thread is a step of that thread in `MainProcess`, and only the storage manager calls
    SQLite. -/
theorem ParentProcess.step_thread (hs : t.step cfg process sqlite asLiteral l = some t') :
    ((∃ l', l'.thread = l.thread ∧ t.main.step cfg process l' = some t'.main) ∨
      l.thread = .storagemgr ∧ t'.main = t.main) ∧
    (l.thread ≠ .storagemgr → t'.db = t.db ∧ t'.conn = t.conn) := by
  cases l with
  | connmgr l block =>
      obtain ⟨main, hmain, rfl⟩ := Option.map_eq_some_iff.1 hs
      exact ⟨Or.inl ⟨_, rfl, hmain⟩, fun _ => ⟨rfl, rfl⟩⟩
  | connmgrExit =>
      obtain ⟨main, hmain, rfl⟩ := Option.map_eq_some_iff.1 hs
      exact ⟨Or.inl ⟨_, rfl, hmain⟩, fun _ => ⟨rfl, rfl⟩⟩
  | initConnection =>
      obtain ⟨main, hmain, rfl⟩ := Option.map_eq_some_iff.1 hs
      exact ⟨Or.inl ⟨.initConnection _, rfl, hmain⟩, fun hne => absurd rfl hne⟩
  | manager r =>
      simp only [ParentProcess.step, ParentProcess.managerStep] at hs
      split at hs
      · obtain ⟨main, hmain, rfl⟩ := Option.map_eq_some_iff.1 hs
        exact ⟨Or.inl ⟨.manager r true, rfl, hmain⟩, fun _ => ⟨rfl, rfl⟩⟩
      · next data hdata =>
          obtain ⟨main, hmain, rfl⟩ := Option.map_eq_some_iff.1 hs
          obtain ⟨rfl, -⟩ := insertCall_eq_some.1 hdata
          exact ⟨Or.inl ⟨.manager .storagemgr _, rfl, hmain⟩, fun hne => absurd rfl hne⟩
  | disconnect =>
      simp only [ParentProcess.step, ParentProcess.disconnect] at hs
      split at hs
      · split at hs
        · exact absurd hs (by simp)
        · obtain ⟨db, hclose, rfl⟩ := Option.map_eq_some_iff.1 hs
          exact ⟨Or.inr ⟨rfl, rfl⟩, fun hne => absurd rfl hne⟩
      · exact absurd hs (by simp)
  | main =>
      simp only [ParentProcess.step] at hs
      split at hs
      · exact absurd hs (by simp)
      · obtain ⟨main, hmain, rfl⟩ := Option.map_eq_some_iff.1 hs
        exact ⟨Or.inl ⟨.main, rfl, hmain⟩, fun _ => ⟨rfl, rfl⟩⟩

theorem ParentProcess.frame (hinv : t.main.Inv cfg)
    (hs : t.step cfg process sqlite asLiteral l = some t') : t.main.Frame l.thread t'.main := by
  rcases (t.step_thread hs).1 with ⟨l', hl', hmain⟩ | ⟨-, hmain⟩
  · rw [← hl']
    exact hinv.frame hmain
  · rw [hmain]
    exact ⟨fun _ => rfl, fun _ => rfl, fun _ => rfl, fun _ => rfl⟩

end Frame

/-! ## What a step reports -/

section Reports

theorem ListenMove.logged_append {cfg : ListenConfig V} {s s' : Listen V} {l : ListenStep V}
    (hm : ListenMove cfg s l s') : ∃ events, s'.logged = s.logged ++ events := by
  have hrecord : ∀ conn (event : ConnEvent V), s'.trace = s.trace ++ [(conn, event)] →
      ∃ events, s'.logged = s.logged ++ events :=
    fun conn event htrace => ⟨event.logged, logged_record htrace⟩
  cases hm with
  | silent | connecting | scanning | pass | leave => exact ⟨[], (List.append_nil _).symm⟩
  | accept | closed | measured | expired => exact hrecord _ _ rfl

/-- A step of the connection manager reports something only before `connmgr_listen` returns. -/
theorem MainProcess.Inv.connmgr_reports [Zero V] {cfg : ListenConfig V}
    {process : D → SensorData V → D} {s s' : MainProcess V D} {l : ProcessStep V}
    (hinv : s.Inv cfg) (hl : l.thread = .connmgr) (hs : s.step cfg process l = some s') :
    ∃ events, s'.listen.logged = s.listen.logged ++ events ∧
      (events ≠ [] → s.listen.pc ≠ .returned) := by
  cases l with
  | connmgr l block =>
      obtain ⟨listen, hlisten, hs⟩ := Option.bind_eq_some_iff.1 hs
      obtain ⟨gateway, hgateway, hs⟩ := Option.bind_eq_some_iff.1 hs
      obtain rfl := Option.some.inj hs
      obtain ⟨events, hlogged⟩ := (hinv.listen.step hlisten).1.logged_append
      refine ⟨events, hlogged, fun _ hpc => ?_⟩
      rw [listen_step_returned hpc] at hlisten
      exact absurd hlisten (by simp)
  | connmgrExit =>
      simp only [MainProcess.step] at hs
      split at hs
      · obtain ⟨gateway, -, rfl⟩ := Option.map_eq_some_iff.1 hs
        exact ⟨[], (List.append_nil _).symm, fun hne => absurd rfl hne⟩
      · exact absurd hs (by simp)
  | initConnection => exact absurd hl (by simp [ProcessStep.thread])
  | manager r ok => cases r <;> exact absurd hl (by simp [ProcessStep.thread, Reader.thread])
  | main => exact absurd hl (by simp [ProcessStep.thread])

/-- A step of the data manager is made in its loop, and handles at most one measurement. -/
theorem MainProcess.Inv.datamgr_step [Zero V] {cfg : ListenConfig V}
    {process : D → SensorData V → D} {s s' : MainProcess V D} {l : ProcessStep V}
    (hinv : s.Inv cfg) (hl : l.thread = .datamgr) (hs : s.step cfg process l = some s') :
    s.gateway.pc .datamgr ≠ .exited ∧ (s'.gateway.sensors = s.gateway.sensors ∨
      ∃ data, s'.gateway.sensors = process s.gateway.sensors data) := by
  cases l with
  | manager r ok =>
      cases r with
      | storagemgr => exact absurd hl (by simp [ProcessStep.thread, Reader.thread])
      | datamgr =>
          simp only [MainProcess.step, MainProcess.managerStep] at hs
          split at hs
          · exact absurd hs (by simp)
          · obtain ⟨gateway, hstep, rfl⟩ := Option.map_eq_some_iff.1 hs
            obtain ⟨q, hrep⟩ := hinv.buffer
            obtain ⟨q', hm, -⟩ := SensorGateway.step_move hrep hstep
            cases hm with
            | handle r ok data hpc =>
                exact ⟨by rw [hpc]; simp, Or.inr ⟨data, rfl⟩⟩
            | look r ok pc' hpc => exact ⟨by rw [hpc]; simp, Or.inl rfl⟩
            | take r ok b' hpc => exact ⟨by rw [hpc]; simp, Or.inl rfl⟩
            | noData r ok hpc => exact ⟨by rw [hpc]; simp, Or.inl rfl⟩
            | skip r ok data hpc => exact ⟨by rw [hpc]; simp, Or.inl rfl⟩
            | again r ok hpc => exact ⟨by rw [hpc]; simp, Or.inl rfl⟩
            | exit r ok hpc => exact ⟨by rw [hpc]; simp, Or.inl rfl⟩
  | connmgr | connmgrExit | initConnection | main => exact absurd hl (by simp [ProcessStep.thread])

/-- The storage manager reports something only while it connects or is connected. -/
theorem ParentProcess.storagemgr_reports [Zero V] {cfg : ListenConfig V}
    {process : D → SensorData V → D} {sqlite : Sqlite V} {asLiteral : V → V}
    {s s' : ParentProcess V D} {l : ParentStep V}
    (hs : s.step cfg process sqlite asLiteral l = some s') :
    ∃ events, s'.db.log = s.db.log ++ events ∧
      (events ≠ [] → s.conn ≠ none ∨ ∃ attemptNr, s.main.storage = .connecting attemptNr) := by
  rcases s.step_cases hs with ⟨l', main, -, -, -, -, rfl⟩ | ⟨main, hmain, rfl⟩ |
    ⟨data, main, -, -, rfl⟩ | ⟨-, hconn, rfl⟩
  · exact ⟨[], (List.append_nil _).symm, fun hne => absurd rfl hne⟩
  · obtain ⟨attemptNr, hstorage, -⟩ := initConnection_storage hmain
    rcases initConnection_outcome sqlite s.db 1 with ⟨-, event, -, hlog⟩ | ⟨-, hlog⟩
    · exact ⟨_, hlog, fun _ => Or.inr ⟨attemptNr, hstorage⟩⟩
    · exact ⟨_, hlog, fun _ => Or.inr ⟨attemptNr, hstorage⟩⟩
  · refine ⟨[], ?_, fun hne => absurd rfl hne⟩
    rw [insertSensor_frame sqlite asLiteral s.db data.id data.value data.ts]
    exact (List.append_nil _).symm
  · exact ⟨[.lost], rfl, fun _ => Or.inl hconn⟩

variable [Zero V] [Add V] [Div V] [NatCast V] [LT V] [DecidableLT V] {L : ℕ}

/-- Handling a measurement takes no event back. -/
theorem datamgrHandle_events {thresholds : Thresholds V} {d d' : Datamgr V L} {data : SensorData V}
    (h : datamgrHandle thresholds d data = some d') : ∃ events, d'.events = d.events ++ events := by
  rw [datamgrHandle, reading_eq] at h
  split at h
  · obtain rfl := Option.some.inj h
    exact ⟨_, rfl⟩
  · next k hplace =>
      obtain ⟨hk, -⟩ := List.getElem?_eq_some_iff.1 (placeOf_some hplace)
      have hk : k < d.sensors.length := by simpa [sensorIds] using hk
      have hnode : d.sensors[k]? = some d.sensors[k] := List.getElem?_eq_getElem hk
      rw [record_eq thresholds hplace hnode] at h
      obtain ⟨node, -, rfl⟩ := Option.map_eq_some_iff.1 h
      exact ⟨_, rfl⟩

end Reports

/-! ## The threads with their reports -/

/-- What a thread has reported. -/
def ParentProcess.logged {L : ℕ} (s : ParentProcess V (Option (Datamgr V L))) :
    Thread → List (GatewayEvent V)
  | .main => []
  | .connmgr => s.main.listen.logged.map .sensor
  | .datamgr => ((s.main.gateway.sensors.map Datamgr.events).getD []).map .sensor
  | .storagemgr => s.db.log.map .database

/-- A thread that can still have something to report. -/
def ParentProcess.CanLog (s : ParentProcess V D) : Thread → Prop
  | .main => False
  | .connmgr => s.main.listen.pc ≠ .returned
  | .datamgr => s.main.gateway.pc .datamgr ≠ .exited
  | .storagemgr => s.conn ≠ none ∨ ∃ attemptNr, s.main.storage = .connecting attemptNr

section Logged

variable [Zero V] [Add V] [Div V] [NatCast V] [LT V] [DecidableLT V] {L : ℕ}
  (cfg : ListenConfig V) (thresholds : Thresholds V) (sqlite : Sqlite V) (asLiteral : V → V)
  (clock : ℕ → Int64) (map : List Char) (db : Database V)

/-- The parent process with the reports of its threads; a step in which the data manager faults is
    no step. -/
def loggedParent : EventSystem (ParentProcess V (Option (Datamgr V L))) (ParentStep V) Thread
    (GatewayEvent V) where
  system := {
    init := (parentDatamgr cfg thresholds sqlite asLiteral clock map db).init
    step := fun s l =>
      ((parentDatamgr cfg thresholds sqlite asLiteral clock map db).step s l).filter
        fun s' => s'.main.gateway.sensors.isSome }
  thread := ParentStep.thread
  logged := ParentProcess.logged

variable {cfg thresholds sqlite asLiteral clock map db}
  {s s' : ParentProcess V (Option (Datamgr V L))} {l : ParentStep V}

theorem loggedParent_step
    (hs : (loggedParent cfg thresholds sqlite asLiteral clock map db).system.step s l = some s') :
    s.step cfg (datamgrProcess thresholds) sqlite asLiteral l = some s' ∧
      ∃ d, s'.main.gateway.sensors = some d := by
  obtain ⟨hstep, hsome⟩ := Option.filter_eq_some_iff.1 hs
  exact ⟨hstep, Option.isSome_iff_exists.1 hsome⟩

theorem loggedParent_reachable
    (h : (loggedParent cfg thresholds sqlite asLiteral clock map db).system.Reachable s) :
    (parentDatamgr cfg thresholds sqlite asLiteral clock map db).Reachable s := by
  refine h.invariant (parentDatamgr cfg thresholds sqlite asLiteral clock map db).Reachable ?_ ?_
  · exact .init
  · intro s l s' hreach hs
    exact hreach.step (loggedParent_step hs).1

/-- **What a thread reports depends on its own steps**, and it reports only while it can. -/
theorem loggedParent_sound (hdb : db.log = []) :
    (loggedParent (L := L) cfg thresholds sqlite asLiteral clock map db).Sound
      ParentProcess.CanLog where
  init t := by
    cases t with
    | main | connmgr | datamgr => rfl
    | storagemgr => exact congrArg (List.map GatewayEvent.database) hdb
  produces s l s' hreach hs := by
    obtain ⟨hstep, d', hd'⟩ := loggedParent_step hs
    have hparent := loggedParent_reachable hreach
    have hinv := reachable_mainProcess (s.reachable_main hparent)
    show ∃ events, s'.logged l.thread = s.logged l.thread ++ events ∧
      (events ≠ [] → s.CanLog l.thread)
    -- the step that `MainProcess` does not know is one of the storage manager
    have hmain : l.thread ≠ .storagemgr → ∃ l', l'.thread = l.thread ∧
        s.main.step cfg (datamgrProcess thresholds) l' = some s'.main :=
      fun hne => (s.step_thread hstep).1.resolve_right fun hstorage => hne hstorage.1
    cases hl : l.thread with
    | main => exact ⟨[], rfl, fun hne => absurd rfl hne⟩
    | connmgr =>
        obtain ⟨l', hl', hs'⟩ := hmain (by rw [hl]; simp)
        obtain ⟨events, hlogged, hcan⟩ := hinv.connmgr_reports (hl'.trans hl) hs'
        refine ⟨events.map .sensor, ?_, fun hne => hcan fun hnil => hne (by rw [hnil]; rfl)⟩
        show s'.main.listen.logged.map GatewayEvent.sensor = _
        rw [hlogged, List.map_append]
        rfl
    | datamgr =>
        obtain ⟨l', hl', hs'⟩ := hmain (by rw [hl]; simp)
        obtain ⟨hcan, hsensors⟩ := hinv.datamgr_step (hl'.trans hl) hs'
        obtain ⟨events, hevents⟩ : ∃ events, d'.events =
            (s.main.gateway.sensors.map Datamgr.events).getD [] ++ events := by
          rcases hsensors with hsensors | ⟨data, hsensors⟩
          · rw [← hsensors, hd']
            exact ⟨[], (List.append_nil _).symm⟩
          · obtain ⟨d, hd, hhandle⟩ := Option.bind_eq_some_iff.1 (hsensors.symm.trans hd')
            rw [hd]
            exact datamgrHandle_events hhandle
        refine ⟨events.map .sensor, ?_, fun _ => hcan⟩
        show ((s'.main.gateway.sensors.map Datamgr.events).getD []).map GatewayEvent.sensor = _
        rw [hd', Option.map_some, Option.getD_some, hevents, List.map_append]
        rfl
    | storagemgr =>
        obtain ⟨events, hlog, hcan⟩ := s.storagemgr_reports hstep
        refine ⟨events.map .database, ?_, fun hne => hcan fun hnil => hne (by rw [hnil]; rfl)⟩
        show s'.db.log.map GatewayEvent.database = _
        rw [hlog, List.map_append]
        rfl
  frame s l s' t hreach hs ht := by
    obtain ⟨hstep, -⟩ := loggedParent_step hs
    have hinv := reachable_mainProcess (s.reachable_main (loggedParent_reachable hreach))
    have hframe := s.frame hinv hstep
    show s'.logged t = s.logged t ∧ (s.CanLog t → s'.CanLog t)
    cases t with
    | main => exact ⟨rfl, id⟩
    | connmgr =>
        unfold ParentProcess.logged ParentProcess.CanLog
        rw [hframe.listen ht.symm]
        exact ⟨rfl, id⟩
    | datamgr =>
        unfold ParentProcess.logged ParentProcess.CanLog
        rw [hframe.sensors ht.symm, hframe.pc ht.symm]
        exact ⟨rfl, id⟩
    | storagemgr =>
        obtain ⟨hdb, hconn⟩ := (s.step_thread hstep).2 ht.symm
        unfold ParentProcess.logged ParentProcess.CanLog
        rw [hdb, hconn, hframe.storage ht.symm]
        exact ⟨rfl, id⟩

end Logged

/-! ## The end of the threads -/

section Joined

variable [Zero V] {cfg : ListenConfig V} {process : D → SensorData V → D} {sensors : D}

/-- `main` has joined the data manager. -/
def Gateway.DatamgrJoined (g : Gateway V D) : Prop := g.main = .joinStoragemgr ∨ g.main = .joined

/-- `main` joins the data manager once it has left its loop, and does not go back. -/
theorem GatewayMove.joined {q q' : Broadcast Reader (SensorData V)} {g g' : Gateway V D}
    {l : GatewayStep V} (hm : GatewayMove process q g l q' g') :
    (g'.DatamgrJoined → g.DatamgrJoined ∨ g.pc .datamgr = .exited) ∧
      (g.main = .joined → g'.main = .joined) := by
  cases hm with
  | handle r ok data =>
      rw [Gateway.DatamgrJoined, handle_main]
      exact ⟨Or.inl, id⟩
  | insert | connmgrExit | look | take | noData | skip | again | exit => exact ⟨Or.inl, id⟩
  | joinConnmgr hmain | clearDatamgr hmain | clearStoragemgr hmain =>
      simp [Gateway.DatamgrJoined, hmain]
  | joinDatamgr hmain hpc => simp [hpc, hmain]
  | joinStoragemgr hmain => simp [Gateway.DatamgrJoined, hmain]

theorem MainProcess.Inv.joined_step {s s' : MainProcess V D} {l : ProcessStep V} (hinv : s.Inv cfg)
    (hs : s.step cfg process l = some s') (hmain : s.gateway.main = .joined) :
    s'.gateway.main = .joined := by
  rcases hinv.gateway_cases hs with ⟨q, l', q', -, hm, -⟩ | ⟨-, -, buffer, inserted, heq⟩ |
    ⟨-, -, heq | heq⟩
  · exact hm.joined.2 hmain
  · rw [heq]
    exact hmain
  · rw [heq]
    exact hmain
  · rw [heq]
    exact hmain

theorem reachable_datamgrJoined {s : MainProcess V D}
    (h : (mainSystem cfg process sensors).Reachable s) (hjoined : s.gateway.DatamgrJoined) :
    s.gateway.pc .datamgr = .exited := by
  refine h.strengthen (fun s => s.gateway.DatamgrJoined → s.gateway.pc .datamgr = .exited) ?_ ?_
    hjoined
  · simp [mainSystem, MainProcess.initial, Gateway.initial, Gateway.DatamgrJoined]
  · intro s l s' hreach ih hs hjoined'
    rcases (reachable_mainProcess hreach).gateway_cases hs with ⟨q, l', q', -, hm, -⟩ |
      ⟨-, -, buffer, inserted, heq⟩ | ⟨-, -, heq | heq⟩
    · exact hm.exited_iff.2 (Or.inl ((hm.joined.1 hjoined').elim ih id))
    · rw [heq] at hjoined' ⊢
      exact ih hjoined'
    · rw [heq] at hjoined' ⊢
      exact ih hjoined'
    · rw [heq, goto_pc_ne _ _ _ (by simp)]
      rw [heq] at hjoined'
      exact ih hjoined'

/-- **A joined thread has nothing to report any more.** -/
theorem not_canLog_of_joined {sqlite : Sqlite V} {asLiteral : V → V} {db : Database V}
    {s : ParentProcess V D} (h : (parentSystem cfg process sqlite asLiteral sensors db).Reachable s)
    (hjoined : s.main.gateway.main = .joined) (t : Thread) : ¬ s.CanLog t := by
  have hmain := s.reachable_main h
  cases t with
  | main => exact id
  | connmgr =>
      have hending := reachable_ending hmain
      exact not_not.2 (hending.returned (hending.gateway.connmgr_done (by rw [hjoined]; simp)))
  | datamgr => exact not_not.2 (reachable_datamgrJoined hmain (Or.inr hjoined))
  | storagemgr =>
      obtain ⟨fails, hconnects⟩ := s.exists_connects h
      obtain ⟨hconn, hstorage⟩ := hconnects.joined hjoined
      rintro (hne | ⟨attemptNr, hconnecting⟩)
      · exact hne hconn
      · exact hstorage attemptNr hconnecting

end Joined

end SensorGateway
