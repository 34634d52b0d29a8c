import SensorGateway.Library.StepSystem
import SensorGateway.Log.Numbering

set_option autoImplicit false

/-! # Shutting the log process down

The threads that write to the FIFO, the log process that reads from it, and the `SIGTERM` that `main`
sends once the threads are done. `fifo_to_log` tests its flag only after `fgets` has returned `NULL`;
a message that is written between these two steps is lost if the flag is cleared before the test
(`log_complete_iff`).

All calls of `write_to_fifo` are made under `mutex_fifo`, so there is one writer at a time. `fgets`
returns `NULL` when the FIFO is empty and has no writer; while it has one, an empty FIFO makes it
wait. -/

namespace SensorGateway

/-- A message that fits the buffer of `fifo_to_log`. -/
structure FittingMessage extends LogMessage where
  fits : toLogMessage.line.length < fifoMax

/-- Where the thread is that holds `mutex_fifo`, in `write_to_fifo`. -/
inductive WriterPc where
  /-- no thread holds it -/
  | idle
  | opened (m : FittingMessage)
  /-- the message is in the FIFO, which is not closed yet -/
  | written

/-- Where the log process is in `fifo_to_log`. -/
inductive LogPc where
  /-- before `fgets` -/
  | read
  /-- before the test of `run_logprocess` -/
  | test
  | returned
deriving DecidableEq, Repr

/-- The state of both processes, as far as it is about the log, with the messages written so far. -/
structure Logging where
  fifo : List Char
  writer : WriterPc
  /-- `SIGTERM` has been sent -/
  terminated : Bool
  /-- `run_logprocess` -/
  run : Bool
  pc : LogPc
  process : LogProcess
  written : List FittingMessage

/-- Who makes a step. -/
inductive LoggingStep where
  /-- a thread opens the FIFO to write `m` -/
  | openFifo (m : FittingMessage)
  | write
  | close
  /-- `main` sends `SIGTERM` -/
  | kill
  /-- the signal handler `end_log_process` runs in the log process -/
  | handler
  | log

/-- One step of the log process. -/
def Logging.logStep (s : Logging) : Option Logging :=
  match s.pc with
  | .read =>
      match fgets fifoMax s.fifo with
      | some (infoMessage, fifo) => some { s with fifo, process := s.process.write infoMessage }
      | none =>
          match s.writer with
          | .idle => some { s with pc := .test }
          -- `fgets` waits for the writer
          | .opened _ | .written => none
  | .test => some { s with pc := if s.run = true then .read else .returned }
  | .returned => none

/-- One step. `main` has joined the threads when it sends the signal, so none of them writes then or
    later. -/
def Logging.step (s : Logging) : LoggingStep → Option Logging
  | .openFifo m =>
      match s.writer with
      | .idle => if s.terminated = true then none else some { s with writer := .opened m }
      | .opened _ | .written => none
  | .write =>
      match s.writer with
      | .opened m =>
          some { s with
            fifo := writeToFifo s.fifo m.line
            writer := .written
            written := s.written ++ [m] }
      | .idle | .written => none
  | .close =>
      match s.writer with
      | .written => some { s with writer := .idle }
      | .idle | .opened _ => none
  | .kill =>
      match s.writer with
      | .idle => some { s with terminated := true }
      | .opened _ | .written => none
  | .handler => if s.terminated = true then some { s with run := false } else none
  | .log => s.logStep

/-- The log process before its first `fgets`. -/
def Logging.initial : Logging := ⟨[], .idle, false, true, .read, ⟨0, []⟩, []⟩

/-- All runs of the two processes. -/
def loggingSystem : StepSystem Logging LoggingStep where
  init := .initial
  step := Logging.step

/-! ## Lines and their log -/

/-- The lines of messages. -/
def linesOf (ms : List FittingMessage) : List (List Char) := ms.map fun m => m.line

/-- The counter after it has counted on for `n` messages. -/
def countOn (k : ℤ) : ℕ → ℤ
  | 0 => k
  | n + 1 => countOn (wrapInt (k + 1)) n

theorem chunkLog_append (k : ℤ) (chunks chunks' : List (List Char)) :
    chunkLog k (chunks ++ chunks') =
      chunkLog k chunks ++ chunkLog (countOn k chunks.length) chunks' := by
  induction chunks generalizing k with
  | nil => rfl
  | cons chunk chunks ih => simp [chunkLog, ih, countOn]

theorem chunkLog_eq_nil {k : ℤ} {chunks : List (List Char)} (h : chunkLog k chunks = []) :
    chunks = [] := by
  cases chunks with
  | nil => rfl
  | cons chunk chunks => exact absurd h (by simp [chunkLog])

theorem countOn_succ (k : ℤ) (n : ℕ) : countOn k (n + 1) = wrapInt (countOn k n + 1) := by
  induction n generalizing k with
  | zero => rfl
  | succ n ih =>
      have hcons : countOn k (n + 1 + 1) = countOn (wrapInt (k + 1)) (n + 1) := by rw [countOn]
      rw [hcons, ih, countOn]

/-- What the log process does with a line. -/
theorem write_line (p : LogProcess) (m : LogMessage) :
    p.write m.line =
      ⟨wrapInt (p.sequenceNumber + 1), p.log ++ chunkLog p.sequenceNumber [m.line]⟩ := by
  have hnul : ∀ chunk ∈ [m.line], '\x00' ∉ chunk := by simpa using line_nul_notMem m
  have hlog := foldl_write hnul p
  have hwrite : p.write m.line = ⟨wrapInt (p.sequenceNumber + 1), (p.write m.line).log⟩ := rfl
  rw [hwrite]
  exact congrArg (LogProcess.mk _) hlog

/-- `fgets` takes the next message. -/
theorem fgets_line (m : FittingMessage) (rest : List Char) :
    fgets fifoMax (m.line ++ rest) = some (m.line, rest) := by
  have hlen : m.text.length < fifoMax - 1 := by
    have hfits := m.fits
    rw [length_line] at hfits
    have hmax : fifoMax = 200 := rfl
    omega
  have hline : m.line ++ rest = m.text ++ '\n' :: rest := by
    rw [LogMessage.line, List.append_assoc]
    rfl
  rw [fgets, if_neg (by simp [hline]), hline, takeLine_short hlen m.plain.1]
  rfl

theorem fgets_eq_none {size : ℕ} {fifo : List Char} : fgets size fifo = none ↔ fifo = [] := by
  unfold fgets
  split <;> simp_all

theorem linesOf_concat (ms : List FittingMessage) (m : FittingMessage) :
    linesOf (ms ++ [m]) = linesOf ms ++ [m.line] := by simp [linesOf]

theorem flatten_linesOf_eq_nil {ms : List FittingMessage} : (linesOf ms).flatten = [] ↔ ms = [] := by
  cases ms with
  | nil => simp [linesOf]
  | cons m ms => simp [linesOf, LogMessage.line]

/-! ## The invariant -/

/-- The messages that were read, and those that are still in the FIFO. The clauses about the signal
    say that nobody writes any more once the log process can leave its loop. -/
structure Logging.Inv (s : Logging) (read pending : List FittingMessage) : Prop where
  written : s.written = read ++ pending
  fifo : s.fifo = (linesOf pending).flatten
  process : s.process = ⟨countOn 0 read.length, chunkLog 0 (linesOf read)⟩
  idle : s.terminated = true → s.writer = .idle
  signalled : s.run = false → s.terminated = true
  stopped : s.pc = .returned → s.run = false

theorem Logging.Inv.initial : Logging.initial.Inv [] [] where
  written := rfl
  fifo := rfl
  process := rfl
  idle _ := rfl
  signalled h := by simp [Logging.initial] at h
  stopped h := by simp [Logging.initial] at h

/-- The log process left its loop on an empty FIFO only. -/
def Logging.Complete (s : Logging) : Prop := s.pc = .returned → s.fifo = []

/-- If the step is the one that leaves the loop, there is nothing in the FIFO. -/
def LeavesEmpty (s : Logging) : LoggingStep → Prop
  | .log => s.pc = .test → s.run = false → s.fifo = []
  | .openFifo _ | .write | .close | .kill | .handler => True

section Step

variable {s s' : Logging} {read pending : List FittingMessage}

/-- What `fgets` does: it takes the oldest message, or the FIFO is empty. -/
theorem Logging.Inv.fgets_cases (h : s.Inv read pending) :
    (∃ m rest, pending = m :: rest ∧
      fgets fifoMax s.fifo = some (m.line, (linesOf rest).flatten)) ∨
    (pending = [] ∧ fgets fifoMax s.fifo = none) := by
  cases pending with
  | nil => exact Or.inr ⟨rfl, fgets_eq_none.2 h.fifo⟩
  | cons m rest =>
      refine Or.inl ⟨m, rest, rfl, ?_⟩
      rw [h.fifo]
      exact fgets_line m _

/-- The oldest message is the next one in the log. -/
theorem Logging.Inv.write {m : FittingMessage} (h : s.Inv read (m :: pending)) :
    s.process.write m.line =
      ⟨countOn 0 (read ++ [m]).length, chunkLog 0 (linesOf (read ++ [m]))⟩ := by
  rw [linesOf_concat, chunkLog_append, List.length_append, List.length_singleton, countOn_succ,
    h.process, write_line]
  simp [linesOf]

theorem Logging.Inv.logStep (h : s.Inv read pending) (hstep : s.logStep = some s') :
    (∃ read' pending', s'.Inv read' pending') ∧
    (s'.Complete ↔ s.Complete ∧ LeavesEmpty s .log) := by
  unfold Logging.logStep at hstep
  cases hpc : s.pc with
  | read =>
      rw [hpc] at hstep
      have hstay : s.Complete ∧ LeavesEmpty s .log := by simp [Logging.Complete, LeavesEmpty, hpc]
      obtain ⟨m, rest, rfl, hfgets⟩ | ⟨rfl, hfgets⟩ := h.fgets_cases
      · obtain rfl : _ = s' := by simpa [hfgets] using hstep
        exact ⟨⟨read ++ [m], rest, by simp [h.written], rfl, h.write, h.idle, h.signalled, by simp⟩,
          iff_of_true (by simp [Logging.Complete]) hstay⟩
      · cases hwriter : s.writer with
        | idle =>
            obtain rfl : _ = s' := by simpa [hfgets, hwriter] using hstep
            exact ⟨⟨read, [], h.written, h.fifo, h.process, fun _ => rfl, h.signalled, by simp⟩,
              iff_of_true (by simp [Logging.Complete]) hstay⟩
        | opened m | written => simp [hfgets, hwriter] at hstep
  | test =>
      obtain rfl : _ = s' := by simpa [hpc] using hstep
      refine ⟨⟨read, pending, h.written, h.fifo, h.process, h.idle, h.signalled, by simp⟩, ?_⟩
      simp [Logging.Complete, LeavesEmpty, hpc]
  | returned => simp [hpc] at hstep

/-- **One step.** Only the step that leaves the loop decides whether the log is complete: after it
    nobody writes. -/
theorem Logging.Inv.step {l : LoggingStep} (h : s.Inv read pending) (hstep : s.step l = some s') :
    (∃ read' pending', s'.Inv read' pending') ∧ (s'.Complete ↔ s.Complete ∧ LeavesEmpty s l) := by
  cases l with
  | openFifo m =>
      cases hwriter : s.writer with
      | idle =>
          obtain ⟨hterm, rfl⟩ : s.terminated = false ∧ _ = s' := by
            simpa [Logging.step, hwriter] using hstep
          exact ⟨⟨read, pending, h.written, h.fifo, h.process, by simp [hterm], h.signalled,
            h.stopped⟩, (and_iff_left trivial).symm⟩
      | opened m | written => simp [Logging.step, hwriter] at hstep
  | write =>
      cases hwriter : s.writer with
      | opened m =>
          obtain rfl : _ = s' := by simpa [Logging.step, hwriter] using hstep
          have hterm : s.terminated ≠ true := fun he => by simp [h.idle he] at hwriter
          have hrunning : s.pc ≠ .returned := fun he => hterm (h.signalled (h.stopped he))
          refine ⟨⟨read, pending ++ [m], ?_, ?_, h.process, fun he => absurd he hterm, h.signalled,
            h.stopped⟩, ?_⟩
          · simp [h.written]
          · simp [h.fifo, writeToFifo, cString_of_notMem (line_nul_notMem _), linesOf]
          · exact iff_of_true (fun he => absurd he hrunning)
              ⟨fun he => absurd he hrunning, trivial⟩
      | idle | written => simp [Logging.step, hwriter] at hstep
  | close =>
      cases hwriter : s.writer with
      | written =>
          obtain rfl : _ = s' := by simpa [Logging.step, hwriter] using hstep
          exact ⟨⟨read, pending, h.written, h.fifo, h.process, fun _ => rfl, h.signalled,
            h.stopped⟩, (and_iff_left trivial).symm⟩
      | idle | opened m => simp [Logging.step, hwriter] at hstep
  | kill =>
      cases hwriter : s.writer with
      | idle =>
          obtain rfl : _ = s' := by simpa [Logging.step, hwriter] using hstep
          exact ⟨⟨read, pending, h.written, h.fifo, h.process, fun _ => rfl, fun _ => rfl,
            h.stopped⟩, (and_iff_left trivial).symm⟩
      | opened m | written => simp [Logging.step, hwriter] at hstep
  | handler =>
      obtain ⟨hterm, rfl⟩ : s.terminated = true ∧ _ = s' := by
        simpa [Logging.step] using hstep
      exact ⟨⟨read, pending, h.written, h.fifo, h.process, h.idle, fun _ => hterm, fun _ => rfl⟩,
        (and_iff_left trivial).symm⟩
  | log => exact h.logStep hstep

/-- A log process that has returned has written all messages exactly if it left nothing behind. -/
theorem Logging.Inv.log_eq_iff (h : s.Inv read pending) (hret : s.pc = .returned) :
    s.process.log = chunkLog 0 (linesOf s.written) ↔ s.Complete := by
  have happend : linesOf s.written = linesOf read ++ linesOf pending := by
    rw [h.written, linesOf, List.map_append]
    rfl
  rw [h.process, happend, chunkLog_append, List.self_eq_append_right, Logging.Complete, h.fifo,
    flatten_linesOf_eq_nil]
  constructor
  · intro hnil _
    exact List.map_eq_nil_iff.1 (chunkLog_eq_nil hnil)
  · intro hpending
    rw [hpending hret]
    rfl

end Step

/-! ## Runs -/

/-- In every run at whose end `fifo_to_log` has returned, all messages that were written are in the
    log, each with its number, exactly if the FIFO was empty when the loop was left. -/
theorem log_complete_iff {ls : List LoggingStep} {s : Logging}
    (h : loggingSystem.exec loggingSystem.init ls = some s) (hret : s.pc = .returned) :
    s.process.log = chunkLog 0 (linesOf s.written) ↔
      loggingSystem.AllSteps LeavesEmpty loggingSystem.init ls := by
  have hinit : ∃ read pending, loggingSystem.init.Inv read pending :=
    ⟨[], [], Logging.Inv.initial⟩
  have hstep : ∀ s l s', (∃ read pending, Logging.Inv s read pending) →
      loggingSystem.step s l = some s' →
      (∃ read pending, Logging.Inv s' read pending) ∧
        (s'.Complete ↔ s.Complete ∧ LeavesEmpty s l) := by
    rintro s l s' ⟨read, pending, hinv⟩ hs'
    exact hinv.step hs'
  have hreach : loggingSystem.Reachable s := ⟨ls, h⟩
  obtain ⟨read, pending, hinv⟩ :=
    hreach.invariant _ hinit fun s l s' hinv hs' => (hstep s l s' hinv hs').1
  rw [hinv.log_eq_iff hret]
  exact StepSystem.allSteps_iff _ hinit (by simp [Logging.Complete, loggingSystem, Logging.initial])
    hstep h

/-- The message `"hot"`. -/
def hotMessage : FittingMessage where
  text := ['h', 'o', 't']
  plain := by decide
  fits := by decide

/-- A message that arrives before the log process has seen the end of the FIFO. -/
def readInTime : List LoggingStep :=
  [.openFifo hotMessage, .write, .close, .kill, .log, .log, .handler, .log]

theorem log_complete_iff_in_time :
    (loggingSystem.after readInTime).process.log = chunkLog 0 (linesOf [hotMessage]) ↔
      loggingSystem.AllSteps LeavesEmpty loggingSystem.init readInTime :=
  log_complete_iff (s := loggingSystem.after readInTime) rfl rfl

/-- `fgets` has returned `NULL`; then a message arrives, and the signal is handled before the flag is
    tested. -/
def writtenTooLate : List LoggingStep :=
  [.log, .openFifo hotMessage, .write, .close, .kill, .handler, .log]

theorem late_message_lost :
    ¬ ∀ (ls : List LoggingStep) (s : Logging),
        loggingSystem.exec loggingSystem.init ls = some s → s.pc = .returned →
        s.process.log = chunkLog 0 (linesOf s.written) := by
  intro h
  have hlog : [] = chunkLog 0 (linesOf [hotMessage]) :=
    h writtenTooLate (loggingSystem.after writtenTooLate) rfl rfl
  exact absurd (chunkLog_eq_nil hlog.symm) (by simp [linesOf])

end SensorGateway
