import Mathlib.Data.List.TakeWhile
import SensorGateway.Log.Fifo

set_option autoImplicit false

/-! # What the log numbers

`fifo_to_log` numbers what `fgets` returns, and that is a whole message only if the message fits the
buffer. So the log has one numbered line for each event exactly if all messages fit
(`log_numbers_events_iff`), as long as the `int` counter can count them. -/

namespace SensorGateway

/-- The log that numbers the messages, the first one with `k + 1`. -/
def eventLog (k : ℕ) : List LogMessage → List Char
  | [] => []
  | m :: ms => digits (k + 1) ++ ' ' :: (m.line ++ eventLog (k + 1) ms)

/-- What the messages look like in the FIFO. -/
def fifoOf (ms : List LogMessage) : List Char :=
  ms.foldl (fun fifo m => writeToFifo fifo m.line) []

/-- The log of the strings that `fgets` returns. -/
def chunkLog (sequenceNumber : ℤ) : List (List Char) → List Char
  | [] => []
  | chunk :: chunks =>
      formatD (wrapInt (sequenceNumber + 1)) ++ ' ' ::
        (chunk ++ chunkLog (wrapInt (sequenceNumber + 1)) chunks)

/-! ## NUL -/

theorem cString_of_notMem {s : List Char} (hs : '\x00' ∉ s) : cString s = s := by
  unfold cString
  rw [List.takeWhile_eq_self_iff]
  intro c hc
  exact decide_eq_true fun he => hs (he ▸ hc)

theorem line_nul_notMem (m : LogMessage) : '\x00' ∉ m.line := by
  rw [LogMessage.line, List.mem_append, not_or]
  exact ⟨m.plain.2, by decide⟩

theorem fifoOf_eq (ms : List LogMessage) : fifoOf ms = ms.flatMap LogMessage.line := by
  have hfold : ∀ fifo, ms.foldl (fun fifo m => writeToFifo fifo m.line) fifo
      = fifo ++ ms.flatMap LogMessage.line := by
    induction ms with
    | nil => exact fun fifo => (List.append_nil fifo).symm
    | cons m ms ih =>
        intro fifo
        rw [List.foldl_cons, ih, writeToFifo, cString_of_notMem (line_nul_notMem m),
          List.flatMap_cons, List.append_assoc]
  exact hfold []

/-! ## The loops -/

/-- The strings that come back for the messages. -/
def chunksOf (ms : List LogMessage) : List (List Char) :=
  ms.flatMap fun m => pieces '\n' (fifoMax - 1) m.text

theorem chunksOf_append (ms ms' : List LogMessage) :
    chunksOf (ms ++ ms') = chunksOf ms ++ chunksOf ms' := List.flatMap_append

theorem reads_fifoOf (ms : List LogMessage) :
    Reads '\n' (fifoMax - 1) (fifoOf ms) (chunksOf ms) := by
  rw [fifoOf_eq]
  induction ms with
  | nil => exact .done
  | cons m ms ih =>
      have hline := ih.line (by decide) m.plain.1
      rw [List.flatMap_cons, LogMessage.line, List.append_assoc]
      exact hline

/-- **The inner loop** writes what `fgets` returns, string by string. -/
theorem loop_fifoBody {fifo : List Char} {chunks : List (List Char)}
    (h : Reads '\n' (fifoMax - 1) fifo chunks) (p : LogProcess) {fuel : ℕ}
    (hfuel : chunks.length < fuel) :
    loop fifoBody fuel (fifo, p) = some (chunks.foldl LogProcess.write p) := by
  induction h generalizing p fuel with
  | done =>
      obtain ⟨fuel, rfl⟩ : ∃ k, fuel = k + 1 := ⟨fuel - 1, by omega⟩
      exact loop_exit rfl fuel
  | read hs h ih =>
      obtain ⟨fuel, rfl⟩ : ∃ k, fuel = k + 1 := ⟨fuel - 1, by omega⟩
      rw [List.length_cons] at hfuel
      rw [List.foldl_cons, ← ih (p.write _) (Nat.lt_of_succ_lt_succ hfuel)]
      refine loop_next ?_ fuel
      unfold fifoBody fgets
      rw [if_neg hs]

/-- **The outer loop** makes one run of the inner loop out of all batches. -/
theorem fifoToLog_eq (batches : List (List LogMessage)) :
    fifoToLog (batches.map fifoOf) =
      some ((chunksOf batches.flatten).foldl LogProcess.write ⟨0, []⟩).log := by
  have hfold : ∀ p : LogProcess, (batches.map fifoOf).foldlM
      (fun p fifo => loop fifoBody (fifo.length + 1) (fifo, p)) p
        = some ((chunksOf batches.flatten).foldl LogProcess.write p) := by
    induction batches with
    | nil => exact fun p => rfl
    | cons ms batches ih =>
        intro p
        have hreads := reads_fifoOf ms
        have hlen := hreads.length_le (by decide)
        rw [List.map_cons, List.foldlM_cons, loop_fifoBody hreads p (by omega),
          Option.bind_eq_bind, Option.bind_some, ih, List.flatten_cons, chunksOf_append,
          List.foldl_append]
  unfold fifoToLog
  rw [hfold]
  rfl

/-! ## The log as text -/

theorem nul_notMem_pieces {text : List Char} (htext : '\x00' ∉ text) {n : ℕ} :
    ∀ chunk ∈ pieces '\n' n text, '\x00' ∉ chunk := by
  induction text using pieces.induct n with
  | case1 text hshort =>
      rw [pieces, if_pos hshort]
      intro chunk hchunk
      rw [List.mem_singleton.1 hchunk, List.mem_append, not_or]
      exact ⟨htext, by decide⟩
  | case2 text hlong ih =>
      rw [pieces, if_neg hlong]
      intro chunk hchunk
      rcases List.mem_cons.1 hchunk with rfl | hchunk
      · exact fun hmem => htext (List.mem_of_mem_take hmem)
      · exact ih (fun hmem => htext (List.mem_of_mem_drop hmem)) chunk hchunk

theorem foldl_write {chunks : List (List Char)} (h : ∀ chunk ∈ chunks, '\x00' ∉ chunk)
    (p : LogProcess) :
    (chunks.foldl LogProcess.write p).log = p.log ++ chunkLog p.sequenceNumber chunks := by
  induction chunks generalizing p with
  | nil => exact (List.append_nil _).symm
  | cons chunk chunks ih =>
      rw [List.forall_mem_cons] at h
      have hnumber : '\x00' ∉ formatD (wrapInt (p.sequenceNumber + 1)) ++ ' ' :: chunk := by
        rw [List.mem_append, List.mem_cons, not_or, not_or]
        exact ⟨(plain_formatD _).2, by decide, h.1⟩
      rw [List.foldl_cons, ih h.2, LogProcess.write, cString_of_notMem h.1,
        cString_of_notMem hnumber, chunkLog]
      simp

/-- The log is what the strings that `fgets` returns leave in it. -/
theorem fifoToLog_chunkLog (batches : List (List LogMessage)) :
    fifoToLog (batches.map fifoOf) = some (chunkLog 0 (chunksOf batches.flatten)) := by
  have hchunks : ∀ chunk ∈ chunksOf batches.flatten, '\x00' ∉ chunk := by
    intro chunk hchunk
    obtain ⟨m, -, hmem⟩ := List.mem_flatMap.1 hchunk
    exact nul_notMem_pieces m.plain.2 chunk hmem
  rw [fifoToLog_eq, foldl_write hchunks]
  rfl

/-! ## When the messages are numbered -/

/-- A line that comes back in pieces has become longer: each piece has a number of its own. -/
theorem chunkLog_line {text : List Char} (htext : '\n' ∉ text) (sequenceNumber : ℤ)
    (chunks : List (List Char)) :
    ∃ logged rest,
      chunkLog sequenceNumber (pieces '\n' (fifoMax - 1) text ++ chunks) = logged ++ '\n' :: rest ∧
      '\n' ∉ logged ∧ text.length < logged.length := by
  have hplain : ∀ n, '\n' ∉ formatD n := fun n => (plain_formatD n).1
  -- no piece but the last one ends the line that the log shows
  induction text using pieces.induct (fifoMax - 1) generalizing sequenceNumber with
  | case1 text hshort =>
      rw [pieces, if_pos hshort, List.singleton_append, chunkLog]
      refine ⟨formatD (wrapInt (sequenceNumber + 1)) ++ ' ' :: text,
        chunkLog (wrapInt (sequenceNumber + 1)) chunks, by simp, ?_, by simp; omega⟩
      rw [List.mem_append, List.mem_cons, not_or, not_or]
      exact ⟨hplain _, by decide, htext⟩
  | case2 text hlong ih =>
      rw [pieces, if_neg hlong, List.cons_append, chunkLog]
      obtain ⟨logged, rest, heq, hlogged, hlen⟩ :=
        ih (fun hmem => htext (List.mem_of_mem_drop hmem)) (wrapInt (sequenceNumber + 1))
      refine ⟨formatD (wrapInt (sequenceNumber + 1)) ++
        ' ' :: (text.take (fifoMax - 1) ++ logged), rest, by simp [heq], ?_, ?_⟩
      · rw [List.mem_append, List.mem_cons, List.mem_append, not_or, not_or, not_or]
        exact ⟨hplain _, by decide, fun hmem => htext (List.mem_of_mem_take hmem), hlogged⟩
      · rw [List.length_drop] at hlen
        rw [List.length_append, List.length_cons, List.length_append, List.length_take]
        omega

theorem length_line (m : LogMessage) : m.line.length = m.text.length + 1 := by
  rw [LogMessage.line, List.length_append, List.length_singleton]

/-- The counter is negative once it has reached `2 ^ 31`, so the number it shows is another one. -/
theorem chunkLog_overflow {k : ℕ} (hk : k + 1 = 2147483648) (m : LogMessage)
    (chunks : List (List Char)) (rest : List Char) :
    chunkLog k (pieces '\n' (fifoMax - 1) m.text ++ chunks) ≠ digits (k + 1) ++ rest := by
  obtain ⟨chunk, pieces', hpieces⟩ :=
    List.exists_cons_of_ne_nil (pieces_ne_nil '\n' (fifoMax - 1) m.text)
  have hcast : (k : ℤ) + 1 = 2147483648 := by omega
  intro heq
  rw [hpieces, List.cons_append, chunkLog, hcast, wrapInt_overflow, formatD, if_pos (by decide)] at heq
  obtain ⟨c, cs, hdigits⟩ := List.exists_cons_of_ne_nil (digits_ne_nil (k + 1))
  have hdigit : c.isDigit = true := isDigit_of_mem_digits (n := k + 1) (by rw [hdigits]; simp)
  rw [hdigits, List.cons_append, List.cons_append] at heq
  rw [← (List.cons.inj heq).1] at hdigit
  exact absurd hdigit (by decide)

/-- From the message after the `k`-th on, the log is right exactly if the messages fit the buffer and the
    counter can count them. -/
theorem chunkLog_eq_eventLog_iff {k : ℕ} (hk : k < 2147483648) (ms : List LogMessage) :
    chunkLog k (chunksOf ms) = eventLog k ms ↔
      (∀ m ∈ ms, m.line.length < fifoMax) ∧ k + ms.length < 2147483648 := by
  induction ms generalizing k with
  | nil => exact iff_of_true rfl ⟨by simp, by simpa using hk⟩
  | cons m ms ih =>
      have hchunks : chunksOf (m :: ms) = pieces '\n' (fifoMax - 1) m.text ++ chunksOf ms :=
        List.flatMap_cons
      rw [List.forall_mem_cons, List.length_cons, hchunks, eventLog]
      -- the counter either takes this message or overflows at it
      rcases Nat.lt_or_eq_of_le (Nat.succ_le_of_lt hk) with hlt | hlast
      · have hnumber : wrapInt (k + 1) = ((k + 1 : ℕ) : ℤ) := wrapInt_of_lt (by omega) (by omega)
        have hmax : fifoMax = 200 := rfl
        by_cases hfits : m.line.length < fifoMax
        · -- the message comes back whole
          rw [pieces_short (by rw [length_line] at hfits; omega), List.singleton_append, chunkLog,
            hnumber, formatD_natCast, List.append_cancel_left_eq, List.cons.injEq,
            ← LogMessage.line, List.append_cancel_left_eq, ih hlt, and_iff_right rfl,
            and_iff_right hfits]
          have hcount : k + 1 + ms.length = k + (ms.length + 1) := by omega
          rw [hcount]
        · -- its first line in the log is longer than it should be
          refine iff_of_false ?_ fun h => hfits h.1.1
          intro heq
          have hback : '\n' ∉ m.text.drop (fifoMax - 1) :=
            fun hmem => m.plain.1 (List.mem_of_mem_drop hmem)
          obtain ⟨logged, rest, hlogged, hnewline, hlen⟩ :=
            chunkLog_line hback (k + 1 : ℕ) (chunksOf ms)
          have hline : m.line ++ eventLog (k + 1) ms = m.text.take (fifoMax - 1) ++
              (m.text.drop (fifoMax - 1) ++ '\n' :: eventLog (k + 1) ms) := by
            rw [← List.append_assoc, List.take_append_drop, LogMessage.line, List.append_assoc]
            rfl
          rw [pieces_long (by decide) (by rw [length_line] at hfits; omega), List.cons_append, chunkLog,
            hnumber, formatD_natCast, hlogged, hline] at heq
          have htail := List.append_cancel_left (List.cons.inj (List.append_cancel_left heq)).2
          rw [line_unique hnewline hback htail] at hlen
          exact Nat.lt_irrefl _ hlen
      · refine iff_of_false (chunkLog_overflow hlast m _ _) ?_
        intro h
        omega

/-- **When the log numbers events.** Messages are written to the FIFO one after another and all of them
    are read, in any batches. The log consists of one line for each message, in order, with its
    number in front, exactly if every message with its newline fits the buffer of `fgets` and there
    are fewer than `2 ^ 31` messages. -/
theorem log_numbers_events_iff (batches : List (List LogMessage)) :
    fifoToLog (batches.map fifoOf) = some (eventLog 0 batches.flatten) ↔
      (∀ m ∈ batches.flatten, m.line.length < fifoMax) ∧ batches.flatten.length < 2147483648 := by
  have hiff := chunkLog_eq_eventLog_iff (by decide : 0 < 2147483648) batches.flatten
  rw [Nat.zero_add] at hiff
  rw [fifoToLog_chunkLog, Option.some.injEq]
  exact hiff

/-- The too hot message shows all digits of the average, so it has no largest length. -/
theorem length_tooHot (time : Int64) (id : UInt16) (average : ℕ) :
    80 + (digits average).length
      < (LogEvent.message plain_formatF time (.tooHot id (average : ℚ))).line.length := by
  have htime : 0 < (formatD time.toInt).length := by
    rw [List.length_pos_iff]
    unfold formatD
    split
    · exact List.cons_ne_nil _ _
    · exact digits_ne_nil _
  rw [length_line]
  show 80 + (digits average).length < (LogEvent.text formatF time (.tooHot id average)).length + 1
  rw [LogEvent.text, formatF_natCast]
  simp only [List.length_append, List.length_cons, List.length_replicate, List.length_nil,
    String.length_toList]
  have hnode : " The sensor node with ".length = 22 := by decide
  have hhot : " reports it's too hot (running avg temperature = ".length = 49 := by decide
  omega

/-- The message of sensor 15 when its last readings were all `2 ^ 400`. -/
def hugeMessage : LogMessage :=
  LogEvent.message plain_formatF 1579600000 (.tooHot 15 ((2 ^ 200 * 2 ^ 200 : ℕ) : ℚ))

theorem fifoMax_le_hugeMessage : fifoMax ≤ hugeMessage.line.length := by
  have hdigits : 120 < (digits (2 ^ 200 * 2 ^ 200)).length := by
    rw [digits, ← Nat.not_le, Nat.length_toDigits_le_iff (by decide) (by decide)]
    decide
  have hlen := length_tooHot 1579600000 15 (2 ^ 200 * 2 ^ 200)
  have hmax : fifoMax = 200 := rfl
  show fifoMax ≤ (LogEvent.message plain_formatF 1579600000 _).line.length
  omega

/-- A message that does not fit the buffer gets two numbers. -/
theorem log_splits_message :
    ¬ ∀ batches : List (List LogMessage),
      fifoToLog (batches.map fifoOf) = some (eventLog 0 batches.flatten) := by
  intro hall
  have hlog := hall [[hugeMessage]]
  rw [fifoToLog_chunkLog, Option.some.injEq] at hlog
  have hfits := (chunkLog_eq_eventLog_iff (by decide) [[hugeMessage]].flatten).1 hlog
  exact absurd (hfits.1 hugeMessage (by simp)) (Nat.not_lt.2 fifoMax_le_hugeMessage)

end SensorGateway
