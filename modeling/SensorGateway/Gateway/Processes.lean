import SensorGateway.Gateway.Events
import SensorGateway.Log.Shutdown

set_option autoImplicit false

/-! # The two processes

The parent process with its threads, and the log process that reads what they write to the FIFO. A
thread with something to report locks `mutex_fifo`, opens the FIFO, writes the message and closes
it; it goes on with its step when all that the step reports is written. `main` sends `SIGTERM` once
it has joined the threads.

`Logging` takes it for granted that nobody writes after the signal. Here this is so because of what
the threads do (`sigterm_after_last_report`), and the messages are those of their steps
(`reports_in_transit`, `gateway_log_complete_iff`). The messages written here fit the buffer of
`fifo_to_log`; what it does with longer ones is in `log_numbers_events_iff`. -/

namespace SensorGateway

variable {V : Type} {L : ℕ}

/-- The message if it fits the buffer of `fifo_to_log`. -/
def LogMessage.fitting (m : LogMessage) : Option FittingMessage :=
  if h : m.line.length < fifoMax then some ⟨m, h⟩ else none

/-- The state of the two processes. `writer` is the thread that holds `mutex_fifo`. -/
structure GatewayProcesses (V : Type) (L : ℕ) where
  parent : Announcing (ParentProcess V (Option (Datamgr V L))) Thread (GatewayEvent V)
  writer : Option Thread
  logging : Logging

/-- Who makes a step. -/
inductive ProcessesStep (V : Type) where
  /-- the thread that is about to make the step `l` opens the FIFO to report something of it; `time`
      is the time in the message -/
  | openFifo (l : ParentStep V) (time : Int64)
  | write
  | close
  | thread (l : ParentStep V)
  | kill
  | handler
  | log

section System

variable [Zero V] [Add V] [Div V] [NatCast V] [LT V] [DecidableLT V] [DecidableEq V]
  {formatValue : V → List Char} (hplain : ∀ v, Plain (formatValue v)) {tableName : List Char}
  (hname : Plain tableName) (cfg : ListenConfig V) (thresholds : Thresholds V) (sqlite : Sqlite V)
  (asLiteral : V → V) (clock : ℕ → Int64) (map : List Char) (db : Database V)

omit [Zero V] [Add V] [Div V] [NatCast V] [LT V] [DecidableLT V] [DecidableEq V] in
/-- The message of an event. -/
def GatewayEvent.message (time : Int64) : GatewayEvent V → LogMessage
  | .sensor event => event.message hplain time
  | .database event => event.message hname time

/-- One step of the two processes. -/
def GatewayProcesses.step (s : GatewayProcesses V L) :
    ProcessesStep V → Option (GatewayProcesses V L)
  | .openFifo l time =>
      if s.writer = none then do
        let (event, parent) ←
          (loggedParent cfg thresholds sqlite asLiteral clock map db).announce s.parent l
        let m ← (event.message hplain hname time).fitting
        return { parent, writer := some l.thread
                 logging := { s.logging with writer := .opened m } }
      else none
  | .write => (s.logging.step .write).map fun logging => { s with logging }
  | .close => (s.logging.step .close).map fun logging => { s with writer := none, logging }
  | .thread l =>
      if s.writer = some l.thread then none
      else ((loggedParent cfg thresholds sqlite asLiteral clock map db).take s.parent l).map
        fun parent => { s with parent }
  | .kill =>
      if s.parent.state.main.gateway.main = .joined then
        some { s with logging := { s.logging with terminated := true } }
      else none
  | .handler => (s.logging.step .handler).map fun logging => { s with logging }
  | .log => (s.logging.step .log).map fun logging => { s with logging }

/-- All runs of the two processes. -/
def processesSystem : StepSystem (GatewayProcesses V L) (ProcessesStep V) where
  init := ⟨(loggedParent cfg thresholds sqlite asLiteral clock map db).start, none, .initial⟩
  step := GatewayProcesses.step hplain hname cfg thresholds sqlite asLiteral clock map db

end System

/-! ## The invariant -/

/-- The message that is about to be written. -/
def WriterPc.inHand : WriterPc → List FittingMessage
  | .opened m => [m]
  | .idle | .written => []

/-- The message `m` is about the event. -/
def Says {formatValue : V → List Char} (hplain : ∀ v, Plain (formatValue v)) {tableName : List Char}
    (hname : Plain tableName) (event : GatewayEvent V) (m : FittingMessage) : Prop :=
  ∃ time, m.toLogMessage = event.message hplain hname time

/-- If the step is the one that leaves the loop of `fifo_to_log`, there is nothing in the FIFO. -/
def LeavesLogEmpty (s : GatewayProcesses V L) : ProcessesStep V → Prop
  | .log => LeavesEmpty s.logging .log
  | .openFifo .. | .write | .close | .thread _ | .kill | .handler => True

section Invariant

variable [Zero V] [Add V] [Div V] [NatCast V] [LT V] [DecidableLT V] [DecidableEq V]
  {formatValue : V → List Char} {hplain : ∀ v, Plain (formatValue v)} {tableName : List Char}
  {hname : Plain tableName} {cfg : ListenConfig V} {thresholds : Thresholds V} {sqlite : Sqlite V}
  {asLiteral : V → V} {clock : ℕ → Int64} {map : List Char} {db : Database V}

/-- What holds at any time. -/
structure GatewayProcesses.Inv (hplain : ∀ v, Plain (formatValue v)) (hname : Plain tableName)
    (cfg : ListenConfig V) (thresholds : Thresholds V) (sqlite : Sqlite V) (asLiteral : V → V)
    (clock : ℕ → Int64) (map : List Char) (db : Database V) (s : GatewayProcesses V L) : Prop where
  announced : AnnounceInv (loggedParent cfg thresholds sqlite asLiteral clock map db)
    ParentProcess.CanLog s.parent
  logging : loggingSystem.Reachable s.logging
  writer_eq : s.writer = none ↔ s.logging.writer = .idle
  writing : ∀ t, s.writer = some t → s.parent.announced t ≠ []
  joined : s.logging.terminated = true → s.parent.state.main.gateway.main = .joined
  said : List.Forall₂ (Says hplain hname) (s.parent.history.map Prod.snd)
    (s.logging.written ++ s.logging.writer.inHand)

variable {s s' : GatewayProcesses V L} {l : ProcessesStep V}

omit [Zero V] [Add V] [Div V] [NatCast V] [LT V] [DecidableLT V] [DecidableEq V] in
theorem fitting_eq_some {message : LogMessage} {m : FittingMessage}
    (h : message.fitting = some m) : m.toLogMessage = message := by
  unfold LogMessage.fitting at h
  split at h
  · rw [← Option.some.inj h]
  · exact absurd h (by simp)

omit [Zero V] [Add V] [Div V] [NatCast V] [LT V] [DecidableLT V] [DecidableEq V] in
theorem logging_step_reachable {t t' : Logging} {l : LoggingStep} (h : loggingSystem.Reachable t)
    (hs : t.step l = some t') : loggingSystem.Reachable t' :=
  StepSystem.Reachable.step (l := l) h hs

omit [DecidableEq V] in
/-- After the threads are joined, nobody writes to the FIFO. -/
theorem GatewayProcesses.Inv.silent
    (h : s.Inv hplain hname cfg thresholds sqlite asLiteral clock map db)
    (hjoined : s.parent.state.main.gateway.main = .joined) :
    (∀ t, s.parent.announced t = []) ∧ s.writer = none := by
  have hnil : ∀ t, s.parent.announced t = [] := by
    intro t
    by_contra hne
    exact not_canLog_of_joined (loggedParent_reachable h.announced.reachable) hjoined t
      (h.announced.can_of_announced t hne)
  refine ⟨hnil, ?_⟩
  cases hwriter : s.writer with
  | none => rfl
  | some t => exact absurd (hnil t) (h.writing t hwriter)

omit [DecidableEq V] in
/-- Then what was written are the messages of all that the threads have reported. -/
theorem GatewayProcesses.Inv.reported
    (h : s.Inv hplain hname cfg thresholds sqlite asLiteral clock map db)
    (hjoined : s.parent.state.main.gateway.main = .joined) :
    (∀ t, historyOf s.parent.history t = s.parent.state.logged t) ∧
      List.Forall₂ (Says hplain hname) (s.parent.history.map Prod.snd) s.logging.written := by
  have hsaid := h.said
  rw [h.writer_eq.1 (h.silent hjoined).2, WriterPc.inHand, List.append_nil] at hsaid
  refine ⟨fun t => ?_, hsaid⟩
  exact h.announced.history_eq_of_done
    (not_canLog_of_joined (loggedParent_reachable h.announced.reachable) hjoined t)

theorem GatewayProcesses.Inv.initial (hdb : db.log = []) :
    (processesSystem (L := L) hplain hname cfg thresholds sqlite asLiteral clock map db).init.Inv
      hplain hname cfg thresholds sqlite asLiteral clock map db where
  announced := (loggedParent_sound hdb).start
  logging := .init
  writer_eq := iff_of_true rfl rfl
  writing _ h := absurd h (by simp [processesSystem])
  joined h := absurd h (by simp [processesSystem, Logging.initial])
  said := .nil

/-- Opening the FIFO: a thread that has something to report has not been joined. -/
theorem GatewayProcesses.Inv.openFifo (hdb : db.log = [])
    (h : s.Inv hplain hname cfg thresholds sqlite asLiteral clock map db) {l : ParentStep V}
    {time : Int64}
    (hs : s.step hplain hname cfg thresholds sqlite asLiteral clock map db (.openFifo l time)
      = some s') :
    s'.Inv hplain hname cfg thresholds sqlite asLiteral clock map db ∧
      ∃ m, s.logging.step (.openFifo m) = some s'.logging := by
  simp only [GatewayProcesses.step] at hs
  split at hs
  · next hwriter =>
      obtain ⟨⟨event, parent⟩, hannounce, hs⟩ := Option.bind_eq_some_iff.1 hs
      obtain ⟨m, hm, hs⟩ := Option.bind_eq_some_iff.1 hs
      obtain rfl := Option.some.inj hs
      have hidle : s.logging.writer = .idle := h.writer_eq.1 hwriter
      have hannounced := h.announced.announce (loggedParent_sound hdb) hannounce
      obtain ⟨⟨e, es, hproduced⟩, rfl⟩ := announce_eq_some hannounce
      have hrunning : s.logging.terminated = false := by
        by_contra hterm
        have hjoined := h.joined (by simpa using hterm)
        exact not_canLog_of_joined (loggedParent_reachable h.announced.reachable) hjoined l.thread
          (((loggedParent_sound hdb).produced h.announced.reachable hproduced).2 (by simp))
      have hopen : s.logging.step (.openFifo m) = some { s.logging with writer := .opened m } := by
        simp [Logging.step, hidle, hrunning]
      refine ⟨⟨hannounced, logging_step_reachable h.logging hopen,
        iff_of_false (by simp) (by simp), ?_, ?_, ?_⟩, m, hopen⟩
      · intro t ht
        obtain rfl := Option.some.inj ht
        show Function.update s.parent.announced l.thread (s.parent.announced l.thread ++ [event])
          l.thread ≠ []
        rw [Function.update_self]
        simp
      · exact fun hterm => absurd (hrunning.symm.trans hterm) (by simp)
      · have hsaid := h.said
        rw [hidle, WriterPc.inHand, List.append_nil] at hsaid
        rw [List.map_append]
        exact List.rel_append hsaid (.cons ⟨time, fitting_eq_some hm⟩ .nil)
  · exact absurd hs (by simp)

omit [DecidableEq V] in
/-- Writing the message, and closing the FIFO. -/
theorem GatewayProcesses.Inv.write
    (h : s.Inv hplain hname cfg thresholds sqlite asLiteral clock map db) {logging : Logging}
    (hs : s.logging.step .write = some logging) :
    ({ s with logging } : GatewayProcesses V L).Inv hplain hname cfg thresholds sqlite asLiteral
      clock map db := by
  have hlogging := logging_step_reachable h.logging hs
  simp only [Logging.step] at hs
  split at hs
  · next m hopened =>
      obtain rfl := Option.some.inj hs
      have hwriter : s.writer ≠ none := fun hnone => by
        rw [h.writer_eq.1 hnone] at hopened
        exact absurd hopened (by simp)
      have hsaid := h.said
      rw [hopened, WriterPc.inHand] at hsaid
      refine ⟨h.announced, hlogging, iff_of_false hwriter (by simp), h.writing, h.joined, ?_⟩
      rw [WriterPc.inHand, List.append_nil]
      exact hsaid
  · exact absurd hs (by simp)
  · exact absurd hs (by simp)

omit [DecidableEq V] in
theorem GatewayProcesses.Inv.close
    (h : s.Inv hplain hname cfg thresholds sqlite asLiteral clock map db) {logging : Logging}
    (hs : s.logging.step .close = some logging) :
    ({ s with writer := none, logging } : GatewayProcesses V L).Inv hplain hname cfg thresholds
      sqlite asLiteral clock map db := by
  have hlogging := logging_step_reachable h.logging hs
  simp only [Logging.step] at hs
  split at hs
  · next hwritten =>
      obtain rfl := Option.some.inj hs
      have hsaid := h.said
      rw [hwritten, WriterPc.inHand] at hsaid
      exact ⟨h.announced, hlogging, iff_of_true rfl rfl, fun _ ht => absurd ht (by simp), h.joined,
        hsaid⟩
  · exact absurd hs (by simp)
  · exact absurd hs (by simp)

omit [DecidableEq V] in
/-- What the log process and its signal handler leave alone. -/
theorem GatewayProcesses.Inv.frame
    (h : s.Inv hplain hname cfg thresholds sqlite asLiteral clock map db) {logging : Logging}
    (hlogging : loggingSystem.Reachable logging) (hwriter : logging.writer = s.logging.writer)
    (hwritten : logging.written = s.logging.written)
    (hterm : logging.terminated = true → s.parent.state.main.gateway.main = .joined) :
    ({ s with logging } : GatewayProcesses V L).Inv hplain hname cfg thresholds sqlite asLiteral
      clock map db where
  announced := h.announced
  logging := hlogging
  writer_eq := by rw [hwriter]; exact h.writer_eq
  writing := h.writing
  joined := hterm
  said := by rw [hwriter, hwritten]; exact h.said

/-- `main` stays where it is once it has joined the others. -/
theorem GatewayProcesses.Inv.joined_take
    (h : s.Inv hplain hname cfg thresholds sqlite asLiteral clock map db) {l : ParentStep V}
    {parent : Announcing (ParentProcess V (Option (Datamgr V L))) Thread (GatewayEvent V)}
    (htake : (loggedParent cfg thresholds sqlite asLiteral clock map db).take s.parent l
      = some parent)
    (hjoined : s.parent.state.main.gateway.main = .joined) :
    parent.state.main.gateway.main = .joined := by
  obtain ⟨state, hstate, -, rfl⟩ := take_eq_some htake
  have hparent := loggedParent_reachable h.announced.reachable
  rcases (s.parent.state.step_thread (loggedParent_step hstate).1).1 with ⟨l', -, hmain⟩ |
    ⟨-, hmain⟩
  · exact (reachable_mainProcess (s.parent.state.reachable_main hparent)).joined_step hmain hjoined
  · show state.main.gateway.main = .joined
    rw [hmain]
    exact hjoined

theorem GatewayProcesses.Inv.thread (hdb : db.log = [])
    (h : s.Inv hplain hname cfg thresholds sqlite asLiteral clock map db) {l : ParentStep V}
    (hs : s.step hplain hname cfg thresholds sqlite asLiteral clock map db (.thread l) = some s') :
    s'.Inv hplain hname cfg thresholds sqlite asLiteral clock map db ∧ s'.logging = s.logging := by
  simp only [GatewayProcesses.step] at hs
  split at hs
  · exact absurd hs (by simp)
  · next hholder =>
      obtain ⟨parent, htake, rfl⟩ := Option.map_eq_some_iff.1 hs
      have hannounced := h.announced.take (loggedParent_sound hdb) htake
      have hjoined := fun hterm => h.joined_take htake (h.joined hterm)
      obtain ⟨state, -, -, rfl⟩ := take_eq_some htake
      refine ⟨⟨hannounced, h.logging, h.writer_eq, ?_, hjoined, h.said⟩, rfl⟩
      -- the thread that makes the step is not the one that is writing
      intro t ht
      have hne : t ≠ l.thread := fun he => hholder (by rw [ht, he])
      show Function.update s.parent.announced l.thread [] t ≠ []
      rw [Function.update_of_ne hne]
      exact h.writing t ht

theorem GatewayProcesses.Inv.kill
    (h : s.Inv hplain hname cfg thresholds sqlite asLiteral clock map db)
    (hs : s.step hplain hname cfg thresholds sqlite asLiteral clock map db .kill = some s') :
    s'.Inv hplain hname cfg thresholds sqlite asLiteral clock map db ∧
      s.logging.step .kill = some s'.logging := by
  simp only [GatewayProcesses.step] at hs
  split at hs
  · next hjoined =>
      obtain rfl := Option.some.inj hs
      have hidle : s.logging.writer = .idle := h.writer_eq.1 (h.silent hjoined).2
      have hkill : s.logging.step .kill = some { s.logging with terminated := true } := by
        simp [Logging.step, hidle]
      exact ⟨h.frame (logging_step_reachable h.logging hkill) rfl rfl fun _ => hjoined, hkill⟩
  · exact absurd hs (by simp)

/-- What a step of the log process leaves alone. -/
theorem logStep_frame {t t' : Logging} (hs : t.logStep = some t') :
    t'.writer = t.writer ∧ t'.written = t.written ∧ t'.terminated = t.terminated := by
  unfold Logging.logStep at hs
  split at hs
  · split at hs
    · obtain rfl := Option.some.inj hs
      exact ⟨rfl, rfl, rfl⟩
    · split at hs
      · obtain rfl := Option.some.inj hs
        exact ⟨rfl, rfl, rfl⟩
      · exact absurd hs (by simp)
      · exact absurd hs (by simp)
  · obtain rfl := Option.some.inj hs
    exact ⟨rfl, rfl, rfl⟩
  · exact absurd hs (by simp)

/-- **One step** keeps the invariant; what it does to the log is a step of `Logging`, or nothing. -/
theorem GatewayProcesses.Inv.step (hdb : db.log = [])
    (h : s.Inv hplain hname cfg thresholds sqlite asLiteral clock map db)
    (hs : s.step hplain hname cfg thresholds sqlite asLiteral clock map db l = some s') :
    s'.Inv hplain hname cfg thresholds sqlite asLiteral clock map db ∧
      (s'.logging = s.logging ∧ (LeavesLogEmpty s l ↔ True) ∨
        ∃ l', s.logging.step l' = some s'.logging ∧
          (LeavesLogEmpty s l ↔ LeavesEmpty s.logging l')) := by
  cases l with
  | openFifo l time =>
      obtain ⟨hinv, m, hopen⟩ := h.openFifo hdb hs
      exact ⟨hinv, Or.inr ⟨_, hopen, Iff.rfl⟩⟩
  | write =>
      obtain ⟨logging, hwrite, rfl⟩ := Option.map_eq_some_iff.1 hs
      exact ⟨h.write hwrite, Or.inr ⟨_, hwrite, Iff.rfl⟩⟩
  | close =>
      obtain ⟨logging, hclose, rfl⟩ := Option.map_eq_some_iff.1 hs
      exact ⟨h.close hclose, Or.inr ⟨_, hclose, Iff.rfl⟩⟩
  | thread l =>
      obtain ⟨hinv, hsame⟩ := h.thread hdb hs
      exact ⟨hinv, Or.inl ⟨hsame, Iff.rfl⟩⟩
  | kill =>
      obtain ⟨hinv, hkill⟩ := h.kill hs
      exact ⟨hinv, Or.inr ⟨_, hkill, Iff.rfl⟩⟩
  | handler =>
      obtain ⟨logging, hhandler, rfl⟩ := Option.map_eq_some_iff.1 hs
      refine ⟨?_, Or.inr ⟨_, hhandler, Iff.rfl⟩⟩
      have hlogging := logging_step_reachable h.logging hhandler
      simp only [Logging.step] at hhandler
      split at hhandler
      · next hterm =>
          obtain rfl := Option.some.inj hhandler
          exact h.frame hlogging rfl rfl fun _ => h.joined hterm
      · exact absurd hhandler (by simp)
  | log =>
      obtain ⟨logging, hlog, rfl⟩ := Option.map_eq_some_iff.1 hs
      obtain ⟨hwriter, hwritten, hterm⟩ := logStep_frame hlog
      refine ⟨h.frame (logging_step_reachable h.logging hlog) hwriter hwritten fun he => ?_,
        Or.inr ⟨_, hlog, Iff.rfl⟩⟩
      exact h.joined (hterm.symm.trans he)

/-- Once `main` has joined the threads, no step opens the FIFO or writes to it. -/
theorem GatewayProcesses.Inv.joined_step (hdb : db.log = [])
    (h : s.Inv hplain hname cfg thresholds sqlite asLiteral clock map db)
    (hjoined : s.parent.state.main.gateway.main = .joined)
    (hs : s.step hplain hname cfg thresholds sqlite asLiteral clock map db l = some s') :
    s'.parent.state.main.gateway.main = .joined ∧ s'.parent.history = s.parent.history ∧
      s'.logging.written = s.logging.written := by
  have hidle : s.logging.writer = .idle := h.writer_eq.1 (h.silent hjoined).2
  cases l with
  | openFifo l time =>
      simp only [GatewayProcesses.step] at hs
      split at hs
      · obtain ⟨⟨event, parent⟩, hannounce, -⟩ := Option.bind_eq_some_iff.1 hs
        obtain ⟨⟨e, es, hproduced⟩, -⟩ := announce_eq_some hannounce
        exact absurd
          (((loggedParent_sound hdb).produced h.announced.reachable hproduced).2 (by simp))
          (not_canLog_of_joined (loggedParent_reachable h.announced.reachable) hjoined l.thread)
      · exact absurd hs (by simp)
  | write =>
      obtain ⟨logging, hwrite, rfl⟩ := Option.map_eq_some_iff.1 hs
      simp [Logging.step, hidle] at hwrite
  | close =>
      obtain ⟨logging, hclose, rfl⟩ := Option.map_eq_some_iff.1 hs
      simp [Logging.step, hidle] at hclose
  | thread l =>
      simp only [GatewayProcesses.step] at hs
      split at hs
      · exact absurd hs (by simp)
      · obtain ⟨parent, htake, rfl⟩ := Option.map_eq_some_iff.1 hs
        refine ⟨h.joined_take htake hjoined, ?_, rfl⟩
        obtain ⟨state, -, -, rfl⟩ := take_eq_some htake
        rfl
  | kill =>
      rw [GatewayProcesses.step, if_pos hjoined] at hs
      obtain rfl := Option.some.inj hs
      exact ⟨hjoined, rfl, rfl⟩
  | handler =>
      obtain ⟨logging, hhandler, rfl⟩ := Option.map_eq_some_iff.1 hs
      simp only [Logging.step] at hhandler
      split at hhandler
      · obtain rfl := Option.some.inj hhandler
        exact ⟨hjoined, rfl, rfl⟩
      · exact absurd hhandler (by simp)
  | log =>
      obtain ⟨logging, hlog, rfl⟩ := Option.map_eq_some_iff.1 hs
      exact ⟨hjoined, rfl, (logStep_frame hlog).2.1⟩

/-- The invariant holds in every reachable state. -/
theorem reachable_processes (hdb : db.log = [])
    (h : (processesSystem hplain hname cfg thresholds sqlite asLiteral clock map db).Reachable s) :
    s.Inv hplain hname cfg thresholds sqlite asLiteral clock map db :=
  h.invariant _ (.initial hdb) fun _ _ _ hinv hs => (hinv.step hdb hs).1

/-- What was read and what is still in the FIFO. -/
theorem reachable_logging {t : Logging} (h : loggingSystem.Reachable t) :
    ∃ read pending, t.Inv read pending := by
  refine h.invariant (fun t => ∃ read pending, t.Inv read pending) ⟨[], [], .initial⟩ ?_
  rintro t l t' ⟨read, pending, hinv⟩ hs
  exact (hinv.step hs).1

end Invariant

/-! ## Runs of an example -/

/-- The two processes of the examples, with the data manager for sensor 15. -/
def exampleProcesses : StepSystem (GatewayProcesses (BitVec 64) 2) (ProcessesStep (BitVec 64)) :=
  processesSystem (fun v : BitVec 64 => plain_digits v.toNat)
    (by decide : Plain "SensorData".toList) exampleListen ⟨18, 25⟩ freeSqlite (fun v => v)
    (fun _ => 0) oneSensorMap (noTable (BitVec 64))

/-- The thread that is about to make the step `l` reports one thing. -/
def report (l : ParentStep V) : List (ProcessesStep V) := [.openFifo l 0, .write, .close]

/-- The client delivers its first measurement. -/
def firstRecord : ParentStep (BitVec 64) :=
  .connmgr (.visit (recordVisit ⟨15, 20, 101⟩ 101)) 7

/-- The storage manager connects, a client delivers a measurement, and all threads come to their
    end; then the log process reads the four messages, finds the FIFO empty and is terminated. -/
def reportingRun : List (ProcessesStep (BitVec 64)) :=
  report .initConnection ++ report .initConnection ++
    [.initConnection, .connmgr (.select (readySds [3])) 0, .connmgr (.accept 4) 0,
      .connmgr (.visit (idleVisit 100)) 0, .connmgr (.select (readySds [4])) 0].map .thread ++
    report firstRecord ++
    [firstRecord, .connmgr (.select (readySds [])) 0, .connmgr (.leave true) 0, .connmgrExit,
      .main, .main, .main, .manager .storagemgr, .manager .storagemgr, .manager .storagemgr,
      .manager .storagemgr, .manager .datamgr, .manager .datamgr, .manager .datamgr,
      .manager .datamgr, .main].map .thread ++
    report .disconnect ++ [.disconnect, .main].map .thread ++
    [.kill, .log, .log, .log, .log, .log, .handler, .log]

/-! ## The log of the gateway -/

section Results

variable [Zero V] [Add V] [Div V] [NatCast V] [LT V] [DecidableLT V] [DecidableEq V]
  {formatValue : V → List Char} {hplain : ∀ v, Plain (formatValue v)} {tableName : List Char}
  {hname : Plain tableName} {cfg : ListenConfig V} {thresholds : Thresholds V} {sqlite : Sqlite V}
  {asLiteral : V → V} {clock : ℕ → Int64} {map : List Char} {db : Database V}
  {s : GatewayProcesses V L}

/-- **No report is lost, doubled or overtaken on its way.** In every reachable state of the two
    processes there is a history of reports such that those of each thread are what the steps of the
    thread have reported, in order, followed by those already made of a step that is still to come;
    the messages of the history are, in order, the numbered lines of the log, the lines in the FIFO,
    and the one that is about to be written. -/
theorem reports_in_transit (hdb : db.log = [])
    (h : (processesSystem hplain hname cfg thresholds sqlite asLiteral clock map db).Reachable s) :
    ∃ (history : List (Thread × GatewayEvent V)) (read pending : List FittingMessage),
      (∀ t, historyOf history t = s.parent.state.logged t ++ s.parent.announced t) ∧
      (∀ t, s.parent.announced t ≠ [] → s.parent.state.CanLog t) ∧
      List.Forall₂ (Says hplain hname) (history.map Prod.snd)
        (read ++ pending ++ s.logging.writer.inHand) ∧
      s.logging.process.log = chunkLog 0 (linesOf read) ∧
      s.logging.fifo = (linesOf pending).flatten := by
  have hinv := reachable_processes hdb h
  obtain ⟨read, pending, hlogging⟩ := reachable_logging hinv.logging
  refine ⟨s.parent.history, read, pending, hinv.announced.history_eq,
    hinv.announced.can_of_announced, ?_, ?_, hlogging.fifo⟩
  · rw [← hlogging.written]
    exact hinv.said
  · rw [hlogging.process]

/-- The storage manager is about to write its second message; it has not made the step yet. -/
theorem reports_in_transit_reporting :
    ∃ (history : List (Thread × GatewayEvent (BitVec 64))) (read pending : List FittingMessage),
      historyOf history .storagemgr = [.database .established, .database .tableCreated] ∧
      (exampleProcesses.after (reportingRun.take 4)).logging.process.log
        = chunkLog 0 (linesOf read) ∧
      (exampleProcesses.after (reportingRun.take 4)).logging.fifo = (linesOf pending).flatten := by
  obtain ⟨history, read, pending, hhistory, -, -, hlog, hfifo⟩ := reports_in_transit
    (s := exampleProcesses.after (reportingRun.take 4)) rfl
    (StepSystem.reachable_after (by decide))
  exact ⟨history, read, pending, (hhistory .storagemgr).trans (by decide), hlog, hfifo⟩

/-- **`SIGTERM` comes after the last report.** Once `main` has joined the threads, nobody holds
    `mutex_fifo`; there is a history in which the reports of each thread are all that its steps have
    reported, in order, and what was written are exactly its messages; and however the run goes on,
    nothing more is written. So what the two processes do to the log is a run of `Logging`, in which
    nobody writes after the signal. -/
theorem sigterm_after_last_report (hdb : db.log = [])
    (h : (processesSystem hplain hname cfg thresholds sqlite asLiteral clock map db).Reachable s)
    (hjoined : s.parent.state.main.gateway.main = .joined) :
    s.writer = none ∧ loggingSystem.Reachable s.logging ∧
      (∀ t, historyOf s.parent.history t = s.parent.state.logged t) ∧
      List.Forall₂ (Says hplain hname) (s.parent.history.map Prod.snd) s.logging.written ∧
      ∀ ls s', (processesSystem hplain hname cfg thresholds sqlite asLiteral clock map db).exec s ls
          = some s' →
        s'.parent.history = s.parent.history ∧ s'.logging.written = s.logging.written := by
  have hinv := reachable_processes hdb h
  obtain ⟨hhistory, hsaid⟩ := hinv.reported hjoined
  refine ⟨(hinv.silent hjoined).2, hinv.logging, hhistory, hsaid, fun ls s' hs => ?_⟩
  have hrun : (s'.Inv hplain hname cfg thresholds sqlite asLiteral clock map db ∧
        s'.parent.state.main.gateway.main = .joined) ∧ s'.parent.history = s.parent.history ∧
        s'.logging.written = s.logging.written := by
    refine StepSystem.exec_induction (motive := fun _ s' =>
      (s'.Inv hplain hname cfg thresholds sqlite asLiteral clock map db ∧
        s'.parent.state.main.gateway.main = .joined) ∧ s'.parent.history = s.parent.history ∧
        s'.logging.written = s.logging.written) ⟨⟨hinv, hjoined⟩, rfl, rfl⟩ ?_ hs
    rintro ls s₁ l s₂ - ⟨⟨hinv₁, hjoined₁⟩, hhistory, hwritten⟩ hstep
    obtain ⟨hjoined₂, hhistory', hwritten'⟩ := hinv₁.joined_step hdb hjoined₁ hstep
    exact ⟨⟨(hinv₁.step hdb hstep).1, hjoined₂⟩, hhistory'.trans hhistory,
      hwritten'.trans hwritten⟩
  exact hrun.2

/-- The four messages written are those of the four reports. -/
theorem sigterm_after_last_report_reporting :
    (exampleProcesses.after reportingRun).writer = none ∧
      historyOf (exampleProcesses.after reportingRun).parent.history .connmgr
        = [.sensor (.connectionOpened 15)] ∧
      List.Forall₂
        (Says (fun v : BitVec 64 => plain_digits v.toNat) (by decide : Plain "SensorData".toList))
        [.database .established, .database .tableCreated, .sensor (.connectionOpened 15),
          .database .lost]
        (exampleProcesses.after reportingRun).logging.written := by
  obtain ⟨hwriter, -, hhistory, hsaid, -⟩ := sigterm_after_last_report
    (s := exampleProcesses.after reportingRun) rfl (StepSystem.reachable_after (by decide))
    (by decide)
  have hevents : (exampleProcesses.after reportingRun).parent.history.map Prod.snd =
      [.database .established, .database .tableCreated, .sensor (.connectionOpened 15),
        .database .lost] := by decide
  exact ⟨hwriter, (hhistory .connmgr).trans (by decide), hevents ▸ hsaid⟩

/-- **When the log of the gateway is complete.** In every run of the two processes at whose end
    `fifo_to_log` has returned, `main` has joined the threads; what was written are the messages of
    a history in which the reports of each thread are all that its steps have reported, in order;
    and the log has them all, each on a line with its number, exactly if the FIFO was empty when the
    loop of `fifo_to_log` was left. -/
theorem gateway_log_complete_iff (hdb : db.log = []) {ls : List (ProcessesStep V)}
    (h : (processesSystem hplain hname cfg thresholds sqlite asLiteral clock map db).exec
      (processesSystem hplain hname cfg thresholds sqlite asLiteral clock map db).init ls = some s)
    (hret : s.logging.pc = .returned) :
    s.parent.state.main.gateway.main = .joined ∧
    ∃ history : List (Thread × GatewayEvent V),
      (∀ t, historyOf history t = s.parent.state.logged t) ∧
      List.Forall₂ (Says hplain hname) (history.map Prod.snd) s.logging.written ∧
      (s.logging.process.log = chunkLog 0 (linesOf s.logging.written) ↔
        (processesSystem (L := L) hplain hname cfg thresholds sqlite asLiteral clock map
          db).AllSteps LeavesLogEmpty
          (processesSystem hplain hname cfg thresholds sqlite asLiteral clock map db).init ls) := by
  have hinv := reachable_processes hdb ⟨ls, h⟩
  obtain ⟨read, pending, hlogging⟩ := reachable_logging hinv.logging
  have hterm := hlogging.signalled (hlogging.stopped hret)
  have hjoined := hinv.joined hterm
  obtain ⟨hhistory, hsaid⟩ := hinv.reported hjoined
  refine ⟨hjoined, s.parent.history, hhistory, hsaid, ?_⟩
  rw [hlogging.log_eq_iff hret]
  refine StepSystem.allSteps_iff (J := fun s => s.logging.Complete) _
    (GatewayProcesses.Inv.initial hdb)
    (by simp [Logging.Complete, processesSystem, Logging.initial])
    ?_ h
  intro s l s' hinv hs
  obtain ⟨hinv', ⟨hsame, hleaves⟩ | ⟨l', hstep, hleaves⟩⟩ := hinv.step hdb hs
  · exact ⟨hinv', by rw [hsame, hleaves, and_true]⟩
  · obtain ⟨read, pending, hlogging⟩ := reachable_logging hinv.logging
    exact ⟨hinv', by rw [hleaves]; exact (hlogging.step hstep).2⟩

theorem gateway_log_complete_iff_reporting :
    ∃ history : List (Thread × GatewayEvent (BitVec 64)),
      historyOf history .storagemgr
        = [.database .established, .database .tableCreated, .database .lost] ∧
      ((exampleProcesses.after reportingRun).logging.process.log
          = chunkLog 0 (linesOf (exampleProcesses.after reportingRun).logging.written) ↔
        exampleProcesses.AllSteps LeavesLogEmpty exampleProcesses.init reportingRun) := by
  have hrun : exampleProcesses.exec exampleProcesses.init reportingRun
      = some (exampleProcesses.after reportingRun) := StepSystem.exec_after (by decide)
  obtain ⟨-, history, hhistory, -, hiff⟩ := gateway_log_complete_iff rfl hrun (by decide)
  exact ⟨history, (hhistory .storagemgr).trans (by decide), hiff⟩

end Results

end SensorGateway
