import SensorGateway.Connmgr.Sessions

set_option autoImplicit false

/-! # Which clients time out

The timeout branch compares the clock of the gateway with the last timestamp of the sensor. How long a
client seems to be silent is how long it has been silent plus how far its timestamp was behind the
clock of the gateway when it arrived, so a live sensor with a slow clock is removed
(`live_sensor_kept_iff`). -/

namespace SensorGateway

variable {V : Type} {cfg : ListenConfig V} {s s' : Listen V} {l : ListenStep V}

/-- The clock of the gateway when a measurement was received. -/
def ConnEvent.receivedAt : ConnEvent V → Option Int64
  | .received _ now _ => some now
  | .accepted _ | .removed .. => none

/-- The clock of the gateway when the last measurement of a connection was received. -/
def lastHeard (h : List (ConnEvent V)) : Option Int64 := (h.filterMap ConnEvent.receivedAt).getLast?

/-- The client is removed by the timeout branch only after `TIMEOUT` seconds without a measurement. -/
def TimedOutRight (timeout : Int64) (earlier : List (ConnEvent V)) : ConnEvent V → Prop
  | .removed true now _ =>
      ∃ heard, lastHeard earlier = some heard ∧ timeout.toInt ≤ now.toInt - heard.toInt
  | .removed false _ _ | .accepted _ | .received .. => True

/-- No live client was removed by the timeout branch. -/
def Listen.LiveKept (cfg : ListenConfig V) (s : Listen V) : Prop :=
  ∀ conn, EachEvent (TimedOutRight cfg.timeout) (s.history conn)

/-- A client that is not ready, and that the gateway has heard of less than `TIMEOUT` seconds ago, sent
    a timestamp that was not so far behind the clock of the gateway that the two add up to
    `TIMEOUT`. -/
def ClockKeepsUp (cfg : ListenConfig V) (s : Listen V) : ListenStep V → Prop
  | .visit v => ∀ c, s.current = some c → c.info.sd ∉ s.readFds → c.info.ts ≠ 0 →
      ∀ heard, lastHeard (s.history c.conn) = some heard →
        v.now.toInt - heard.toInt < cfg.timeout.toInt →
        (v.now - heard) + (heard - c.info.ts) < cfg.timeout
  | .select _ | .accept _ | .leave _ => True

/-- A connection that has delivered something was heard. -/
theorem exists_lastHeard {h : List (ConnEvent V)} (hdelivered : delivered h ≠ []) :
    ∃ heard, lastHeard h = some heard := by
  rw [← Option.isSome_iff_exists, lastHeard, List.getLast?_isSome]
  intro hnone
  apply hdelivered
  rw [List.filterMap_eq_nil_iff] at hnone
  refine List.flatMap_eq_nil_iff.2 ?_
  intro e he
  cases e with
  | accepted | removed => rfl
  | received => exact absurd (hnone _ he) (by simp [ConnEvent.receivedAt])

theorem Listen.Sessions.exists_heard (h : s.Sessions) {c : Client} (hc : c ∈ s.clients)
    (hts : c.info.ts ≠ 0) : ∃ heard, lastHeard (s.history c.conn) = some heard := by
  refine exists_lastHeard ?_
  intro hnone
  apply hts
  rw [(h.entry c hc).ts_eq, hnone]
  rfl

/-- The silence and the lag of the timestamp add up to what the code looks at. -/
theorem silence_add_lag (now heard ts : Int64) : (now - heard) + (heard - ts) = now - ts := by
  grind

/-- A step that records an event keeps live clients exactly if the event is right. -/
theorem liveKept_record {conn : ℕ} {event : ConnEvent V}
    (htrace : s'.trace = s.trace ++ [(conn, event)]) :
    s'.LiveKept cfg ↔ s.LiveKept cfg ∧ TimedOutRight cfg.timeout (s.history conn) event := by
  simp only [Listen.LiveKept, Listen.history, htrace]
  exact forall_eachEvent_concat

theorem clockKeepsUp_ready {v : Visit V} {xs ys : List Client} {c : Client} (hat : s.ScanAt xs c ys)
    (hready : c.info.sd ∈ s.readFds) : ClockKeepsUp cfg s (.visit v) := by
  intro c' hc' hnot
  rw [hat.current_eq, Option.some.injEq] at hc'
  subst hc'
  exact absurd hready hnot

theorem Listen.Sessions.liveKept_step (h : s.Sessions) (hm : ListenMove cfg s l s') :
    s'.LiveKept cfg ↔ s.LiveKept cfg ∧ ClockKeepsUp cfg s l := by
  cases hm with
  | silent | connecting | scanning | leave => exact (and_iff_left trivial).symm
  | accept sd =>
      rw [liveKept_record (s := s) rfl]
      exact Iff.rfl
  | closed v xs c ys hat hready =>
      rw [liveKept_record (s := s) rfl, and_iff_left (clockKeepsUp_ready hat hready)]
      exact and_iff_left trivial
  | measured v xs c ys m hat hready =>
      rw [liveKept_record (s := s) rfl, and_iff_left (clockKeepsUp_ready hat hready)]
      exact and_iff_left trivial
  | expired v xs c ys hat hexpired =>
      obtain ⟨hready, hts, hexpired⟩ := hexpired
      obtain ⟨heard, hheard⟩ := h.exists_heard hat.mem hts
      rw [liveKept_record (s := s) rfl]
      refine and_congr_right fun _ => ?_
      simp only [TimedOutRight, ClockKeepsUp, hat.current_eq, Option.some.injEq, forall_eq',
        hheard, exists_eq_left', silence_add_lag, hready, hts, not_false_eq_true, ne_eq,
        forall_const]
      constructor
      · intro hlong hshort
        omega
      · intro hkeeps
        by_contra hshort
        exact absurd hexpired (Int64.not_le.2 (hkeeps (by omega)))
  | pass v xs c ys hat hread hstays =>
      refine (and_iff_left ?_).symm
      intro c' hc' hready hts heard _ _
      rw [hat.current_eq, Option.some.injEq] at hc'
      subst hc'
      rw [silence_add_lag]
      refine Int64.not_le.1 ?_
      intro hexpired
      exact hstays (Or.inr ⟨hready, hts, hexpired⟩)

/-- **When a live sensor is never timed out.** In every run, whatever the clocks of the sensors, the
    timeout branch removes a client only if at least `TIMEOUT` seconds have passed on the clock of the
    gateway since it received a measurement of the client, exactly if at every visit of a client that
    is not ready and was heard of less than `TIMEOUT` seconds ago, the time since then and the lag of
    its timestamp do not add up to `TIMEOUT`. -/
theorem live_sensor_kept_iff (cfg : ListenConfig V) {ls : List (ListenStep V)}
    (h : (listenSystem cfg).exec (.initial cfg) ls = some s) :
    s.LiveKept cfg ↔ (listenSystem cfg).AllSteps (ClockKeepsUp cfg) (.initial cfg) ls := by
  refine listen_allSteps_iff sessions_initial (fun _ => eachEvent_nil _) ?_ h
  intro s l s' hinv hsessions hmove
  exact ⟨hsessions.step hinv hmove, hsessions.liveKept_step hmove⟩

/-- A sensor whose clock is 60 seconds slow delivers a measurement; a second later another client
    connects. -/
def slowClockRun : List (ListenStep (BitVec 64)) :=
  [.select (readySds [3]), .accept 4, .visit (idleVisit 1000),
    .select (readySds [4]), .visit (recordVisit ⟨15, 20, 940⟩ 1000),
    .select (readySds [3]), .accept 5, .visit (idleVisit 1001)]

/-- The sensor is removed although it was heard a second ago. -/
theorem slow_clock_timed_out :
    ¬ ∀ (ls : List (ListenStep (BitVec 64))) (s : Listen (BitVec 64)),
      (listenSystem exampleListen).exec (.initial exampleListen) ls = some s →
      s.LiveKept exampleListen := by
  intro hall
  have hkept := hall slowClockRun _ (StepSystem.exec_after (by decide)) 0
  have hhistory : ((listenSystem exampleListen).after slowClockRun).history 0 =
      [.accepted 4, .received ⟨15, 20, 940⟩ 1000 [.connectionOpened 15]] ++
        .removed true 1001 [] :: [] := by decide
  obtain ⟨heard, hheard, hle⟩ := hkept _ _ _ hhistory
  obtain rfl : (1000 : Int64) = heard := Option.some.inj hheard
  exact absurd hle (by decide)

theorem live_sensor_kept_iff_slow_clock :
    ((listenSystem exampleListen).after slowClockRun).LiveKept exampleListen ↔
      (listenSystem exampleListen).AllSteps (ClockKeepsUp exampleListen) (.initial exampleListen)
        slowClockRun :=
  live_sensor_kept_iff exampleListen (StepSystem.exec_after (by decide))

end SensorGateway
