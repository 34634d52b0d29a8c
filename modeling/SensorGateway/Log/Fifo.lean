import SensorGateway.Library.Lines
import SensorGateway.Library.Loop
import SensorGateway.Log.Message

set_option autoImplicit false

/-! # `main.c`: the log process and its FIFO

`write_to_fifo` and `fifo_to_log`. A writer opens the FIFO, writes one message and closes it, so the
end-of-file condition, on which `fgets` returns `NULL`, is met between two messages only. What the
log process reads is therefore a list of batches, each the bytes that arrive until the next end
of file; the outer loop goes once through its body for each of them. -/

namespace SensorGateway

/-- `MAX`: the size of the buffer of `fifo_to_log`. -/
def fifoMax : ℕ := 200

/-- The string that starts at the front of `s`: what `fputs` and `%s` write. -/
def cString (s : List Char) : List Char := s.takeWhile (· ≠ '\x00')

/-- `write_to_fifo`: the content of the FIFO afterwards. -/
def writeToFifo (fifo infoMessage : List Char) : List Char := fifo ++ cString infoMessage

/-- `fgets(buf, size, fifo)`: what was read and the rest, `none` for `NULL`. -/
def fgets (size : ℕ) (fifo : List Char) : Option (List Char × List Char) :=
  if fifo = [] then none else some (takeLine '\n' (size - 1) fifo)

/-- The state of `fifo_to_log`. `sequenceNumber` is an `int`. -/
structure LogProcess where
  sequenceNumber : ℤ
  log : List Char

/-- What `fifo_to_log` does with the string that `fgets` returned: the string
    `"%d %s"` goes to the log. -/
def LogProcess.write (p : LogProcess) (infoMessage : List Char) : LogProcess :=
  let sequenceNumber := wrapInt (p.sequenceNumber + 1)
  let strResult := formatD sequenceNumber ++ ' ' :: cString infoMessage
  ⟨sequenceNumber, p.log ++ cString strResult⟩

/-- The body of the inner loop of `fifo_to_log`. -/
def fifoBody (s : List Char × LogProcess) : Option (LoopStep (List Char × LogProcess) LogProcess) :=
  match fgets fifoMax s.1 with
  | none => some (.exit s.2)
  | some (infoMessage, fifo) => some (.next (fifo, s.2.write infoMessage))

/-- `fifo_to_log`: the content of the log. -/
def fifoToLog (batches : List (List Char)) : Option (List Char) :=
  (batches.foldlM (fun p fifo => loop fifoBody (fifo.length + 1) (fifo, p)) ⟨0, []⟩).map
    LogProcess.log

end SensorGateway
