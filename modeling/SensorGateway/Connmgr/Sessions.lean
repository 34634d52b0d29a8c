import SensorGateway.Connmgr.Clients

set_option autoImplicit false

/-! # What the log says about connections

The connection manager takes a `ts` of 0 in the entry of a client for a client that has not been
announced yet. So the log is right about every connection exactly as long as no measurement with
a timestamp of 0 is followed by another one, no peer closes before its first measurement, and no
client is removed by the timeout branch, which logs nothing (`sessions_logged_iff`). -/

namespace SensorGateway

variable {V : Type} {cfg : ListenConfig V} {s s' : Listen V} {l : ListenStep V}

/-! ## Histories and entries -/

/-- The measurements of a history. -/
def delivered (h : List (ConnEvent V)) : List (SensorData V) := h.flatMap ConnEvent.inserted

theorem delivered_concat (h : List (ConnEvent V)) (e : ConnEvent V) :
    delivered (h ++ [e]) = delivered h ++ e.inserted := by
  rw [delivered, List.flatMap_append, List.flatMap_singleton]
  rfl

/-- What the log should say at an event, given the events of the connection before it: the connection
    is opened at its first measurement, and closed when the client is removed if it was opened. -/
def expectedLog (earlier : List (ConnEvent V)) : ConnEvent V → List (LogEvent V)
  | .accepted _ => []
  | .received m _ _ =>
      match delivered earlier with
      | [] => [.connectionOpened m.id]
      | _ :: _ => []
  | .removed .. =>
      match delivered earlier with
      | [] => []
      | first :: _ => [.connectionClosed first.id]

/-- The log is right about a connection with this history. -/
def HistoryLogged (h : List (ConnEvent V)) : Prop :=
  EachEvent (fun earlier e => e.logged = expectedLog earlier e) h

/-- The entry of a client whose connection has this history. As long as the log is right, its id is
    that of the first measurement. -/
structure SensorInfo.EntryOf (info : SensorInfo) (h : List (ConnEvent V)) : Prop where
  ts_eq : info.ts = ((delivered h).getLast?.map SensorData.ts).getD 0
  id_eq : HistoryLogged h → info.id = ((delivered h).head?.map SensorData.id).getD 0

/-- The client was removed from the list. -/
def ConnEvent.isRemoved : ConnEvent V → Bool
  | .removed .. => true
  | .accepted _ | .received .. => false

/-- Nothing happens to a connection after its client was removed. -/
def RemovedLast (h : List (ConnEvent V)) : Prop :=
  EachEvent (fun earlier _ => ∀ e ∈ earlier, e.isRemoved = false) h

/-- The entries of the clients are what their histories make of them, and a client that was removed is
    not in the list any more. -/
structure Listen.Sessions (s : Listen V) : Prop where
  trace_lt : ∀ e ∈ s.trace, e.1 < s.accepted
  entry : ∀ c ∈ s.clients, c.info.EntryOf (s.history c.conn)
  live : ∀ c ∈ s.clients, ∀ e ∈ s.history c.conn, e.isRemoved = false
  removedLast : ∀ conn, RemovedLast (s.history conn)

/-- A new client has delivered nothing. -/
theorem entryOf_new (sd : ℤ) : (newSensorInfo sd).EntryOf [ConnEvent.accepted (V := V) sd] :=
  ⟨rfl, fun _ => rfl⟩

/-- A measurement is logged right exactly if the entry tells whether it is the first one. -/
theorem announced_eq_iff {info : SensorInfo} {h : List (ConnEvent V)} (hinfo : info.EntryOf h)
    (m : SensorData V) (now : Int64) :
    info.announced m = expectedLog h (.received m now (info.announced m)) ↔
      ∀ last, (delivered h).getLast? = some last → last.ts ≠ 0 := by
  have hts := hinfo.ts_eq
  rw [SensorInfo.announced, expectedLog]
  cases hdelivered : delivered h with
  | nil =>
      rw [hdelivered] at hts
      have hzero : info.ts = 0 := hts
      rw [if_pos hzero]
      simp
  | cons first rest =>
      have hlast := List.getLast?_eq_some_getLast (List.cons_ne_nil first rest)
      rw [hdelivered, hlast] at hts
      rw [hlast]
      by_cases hzero : info.ts = 0
      · rw [if_pos hzero]
        refine iff_of_false (by simp) fun hall => hall _ rfl ?_
        exact hts.symm.trans hzero
      · rw [if_neg hzero]
        refine iff_of_true rfl ?_
        rintro last ⟨⟩ hlast
        exact hzero (hts.trans hlast)

/-- The entry after a measurement. -/
theorem SensorInfo.EntryOf.measured {info : SensorInfo} {h : List (ConnEvent V)}
    (hinfo : info.EntryOf h) (m : SensorData V) (now : Int64) :
    (info.measured m).EntryOf (h ++ [.received m now (info.announced m)]) := by
  have hdelivered : delivered (h ++ [.received m now (info.announced m)]) = delivered h ++ [m] :=
    delivered_concat h _
  constructor
  · rw [hdelivered, List.getLast?_concat]
    rfl
  · intro hright
    obtain ⟨hright, hlogged⟩ := eachEvent_concat.1 hright
    have hts := hinfo.ts_eq
    have hid := hinfo.id_eq hright
    have hlast := (announced_eq_iff hinfo m now).1 hlogged
    rw [hdelivered]
    cases hd : delivered h with
    | nil =>
        rw [hd] at hts
        exact if_pos hts
    | cons first rest =>
        -- the last timestamp is not 0, so the entry keeps its id
        rw [hd] at hts hid hlast
        have hsome := List.getLast?_eq_some_getLast (List.cons_ne_nil first rest)
        rw [hsome] at hts
        have hne : info.ts ≠ 0 := fun hzero => hlast _ hsome (hts.symm.trans hzero)
        exact (if_neg hne).trans hid

/-! ## Every step keeps the entries right -/

theorem Listen.Sessions.frame (h : s.Sessions) (hclients : s'.clients = s.clients)
    (htrace : s'.trace = s.trace) (haccepted : s'.accepted = s.accepted) : s'.Sessions := by
  have hhistory : s'.history = s.history := by
    funext conn
    show historyOf s'.trace conn = historyOf s.trace conn
    rw [htrace]
  constructor
  · rw [htrace, haccepted]
    exact h.trace_lt
  · rw [hclients, hhistory]
    exact h.entry
  · rw [hclients, hhistory]
    exact h.live
  · rw [hhistory]
    exact h.removedLast

/-- A step that records an event of connection `conn`, which has not been removed. The clients
    afterwards are one with this number, if any, and others that were in the list before. -/
theorem Listen.Sessions.record (h : s.Sessions) {conn : ℕ} {event : ConnEvent V}
    (htrace : s'.trace = s.trace ++ [(conn, event)]) (hle : s.accepted ≤ s'.accepted)
    (hconn : conn < s'.accepted) (hlive : ∀ e ∈ s.history conn, e.isRemoved = false)
    (hclients : ∀ c ∈ s'.clients, (c ∈ s.clients ∧ conn ≠ c.conn) ∨
      (c.conn = conn ∧ c.info.EntryOf (s.history conn ++ [event]) ∧ event.isRemoved = false)) :
    s'.Sessions := by
  have hself : s'.history conn = s.history conn ++ [event] := by
    rw [Listen.history, htrace, historyOf_concat_self]
    rfl
  have hother : ∀ {conn'}, conn ≠ conn' → s'.history conn' = s.history conn' := by
    intro conn' hne
    rw [Listen.history, htrace, historyOf_concat_ne hne]
    rfl
  constructor
  · intro e he
    rw [htrace, List.mem_append, List.mem_singleton] at he
    rcases he with he | rfl
    · exact (h.trace_lt e he).trans_le hle
    · exact hconn
  · intro c hc
    rcases hclients c hc with ⟨hmem, hne⟩ | ⟨rfl, hentry, -⟩
    · rw [hother hne]
      exact h.entry c hmem
    · rw [hself]
      exact hentry
  · intro c hc
    rcases hclients c hc with ⟨hmem, hne⟩ | ⟨rfl, -, hevent⟩
    · rw [hother hne]
      exact h.live c hmem
    · rw [hself]
      intro e he
      rcases List.mem_append.1 he with he | he
      · exact hlive e he
      · rw [List.mem_singleton.1 he]
        exact hevent
  · show ∀ conn', RemovedLast (historyOf s'.trace conn')
    rw [htrace]
    exact forall_eachEvent_concat.2 ⟨h.removedLast, hlive⟩

theorem Listen.Sessions.add (hinv : s.Inv cfg) (h : s.Sessions) (sd : ℤ) : (s.add sd).Sessions := by
  have hnew : s.history s.accepted = [] := historyOf_eq_nil fun e he => (h.trace_lt e he).ne
  refine h.record rfl (Nat.le_succ _) (Nat.lt_succ_self _) (by simp [hnew]) ?_
  intro c hc
  have hmem : c ∈ s.clients ++ [Client.mk (newSensorInfo sd) s.accepted] := hc
  rcases List.mem_append.1 hmem with hmem | hmem
  · exact Or.inl ⟨hmem, (hinv.conn_lt c hmem).ne'⟩
  · obtain rfl := List.mem_singleton.1 hmem
    rw [hnew]
    exact Or.inr ⟨rfl, entryOf_new sd, rfl⟩

theorem Listen.Sessions.remove (hinv : s.Inv cfg) (h : s.Sessions) {xs ys : List Client} {c : Client}
    (hat : s.ScanAt xs c ys) (closed : Bool) (event : ConnEvent V) :
    (s.remove xs c ys closed event).Sessions := by
  refine h.record rfl (Nat.le_refl _) (hinv.conn_lt c hat.mem) (h.live c hat.mem) ?_
  intro c' hc'
  exact Or.inl ⟨hat.sublist.subset hc', hinv.conn_ne hat.clients_eq hc'⟩

theorem Listen.Sessions.measure (hinv : s.Inv cfg) (h : s.Sessions) {xs ys : List Client} {c : Client}
    (hat : s.ScanAt xs c ys) (m : SensorData V) (now : Int64) : (s.measure xs c ys m now).Sessions := by
  refine h.record rfl (Nat.le_refl _) (hinv.conn_lt c hat.mem) (h.live c hat.mem) ?_
  intro c' hc'
  rcases mem_measure hc' with rfl | hmem
  · exact Or.inr ⟨rfl, (h.entry c hat.mem).measured m now, rfl⟩
  · exact Or.inl ⟨hat.sublist.subset hmem, hinv.conn_ne hat.clients_eq hmem⟩

theorem Listen.Sessions.step (hinv : s.Inv cfg) (h : s.Sessions) (hm : ListenMove cfg s l s') :
    s'.Sessions := by
  cases hm with
  | silent | connecting | scanning | pass => exact h.frame rfl rfl rfl
  | accept sd => exact h.add hinv sd
  | closed v xs c ys hat => exact h.remove hinv hat _ _
  | measured v xs c ys m hat => exact h.measure hinv hat m v.now
  | expired v xs c ys hat =>
      -- `read_fds` is part of neither the list nor the histories
      exact (h.remove hinv hat v.shutdownOk (.removed true v.now [])).frame rfl rfl rfl
  | leave shutdownOk hpc => exact ⟨h.trace_lt, by simp, by simp, h.removedLast⟩

theorem sessions_initial : (Listen.initial cfg).Sessions :=
  ⟨by simp [Listen.initial], by simp [Listen.initial], by simp [Listen.initial],
    fun _ => eachEvent_nil _⟩

theorem listen_sessions (h : (listenSystem cfg).Reachable s) : s.Sessions := by
  refine (h.invariant (fun s => s.Inv cfg ∧ s.Sessions) ⟨listen_inv_initial, sessions_initial⟩ ?_).2
  rintro s l s' ⟨hinv, hsessions⟩ hs
  obtain ⟨hmove, hinv'⟩ := hinv.step hs
  exact ⟨hinv', hsessions.step hinv hmove⟩

/-! ## When the log is right -/

/-- The log is right about every connection. -/
def Listen.LoggedRight (s : Listen V) : Prop := ∀ conn, HistoryLogged (s.history conn)

/-- The step handles no client that delivers again after a timestamp of 0, closes before its first
    measurement or has expired. -/
def KeepsLog (cfg : ListenConfig V) (s : Listen V) : ListenStep V → Prop
  | .visit v => ∀ c, s.current = some c →
      (c.info.sd ∈ s.readFds → (v.answer 0 c.info.sd).delivers = true →
        ∀ last, (delivered (s.history c.conn)).getLast? = some last → last.ts ≠ 0) ∧
      (c.info.sd ∈ s.readFds → (v.answer 0 c.info.sd).closes = true →
        delivered (s.history c.conn) ≠ []) ∧
      ¬ s.Expired cfg c v
  | .select _ | .accept _ | .leave _ => True

/-- A step that records an event keeps the log right exactly if the event is logged right. -/
theorem loggedRight_record {conn : ℕ} {event : ConnEvent V}
    (htrace : s'.trace = s.trace ++ [(conn, event)]) :
    s'.LoggedRight ↔ s.LoggedRight ∧ event.logged = expectedLog (s.history conn) event := by
  simp only [Listen.LoggedRight, HistoryLogged, Listen.history, htrace]
  exact forall_eachEvent_concat

theorem keepsLog_visit {v : Visit V} {xs ys : List Client} {c : Client} (hat : s.ScanAt xs c ys) :
    KeepsLog cfg s (.visit v) ↔
      (c.info.sd ∈ s.readFds → (v.answer 0 c.info.sd).delivers = true →
        ∀ last, (delivered (s.history c.conn)).getLast? = some last → last.ts ≠ 0) ∧
      (c.info.sd ∈ s.readFds → (v.answer 0 c.info.sd).closes = true →
        delivered (s.history c.conn) ≠ []) ∧
      ¬ s.Expired cfg c v := by
  rw [KeepsLog, hat.current_eq]
  simp only [Option.some.injEq, forall_eq']

theorem Listen.Sessions.loggedRight_step (h : s.Sessions) (hm : ListenMove cfg s l s') :
    s'.LoggedRight ↔ s.LoggedRight ∧ KeepsLog cfg s l := by
  cases hm with
  | silent | connecting | scanning | leave => exact (and_iff_left trivial).symm
  | accept sd =>
      rw [loggedRight_record (s := s) rfl, KeepsLog]
      exact and_congr_right fun _ => iff_of_true rfl trivial
  | closed v xs c ys hat hready hcloses =>
      rw [loggedRight_record (s := s) rfl, keepsLog_visit hat]
      refine and_congr_right ?_
      intro hright
      have hid := (h.entry c hat.mem).id_eq (hright c.conn)
      have hsilent := Recv.not_delivers_of_closes hcloses
      have hlive : ¬ s.Expired cfg c v := fun hexpired => hexpired.1 hready
      simp only [hready, hcloses, hsilent, hlive, Bool.false_eq_true, forall_const, not_false_eq_true,
        false_implies, true_and, and_true, ConnEvent.logged, expectedLog]
      cases hd : delivered (s.history c.conn) with
      | nil => simp
      | cons first rest =>
          rw [hd] at hid
          refine iff_of_true ?_ (List.cons_ne_nil _ _)
          rw [hid]
          rfl
  | measured v xs c ys m hat hready hread hdelivers =>
      rw [loggedRight_record (s := s) rfl, keepsLog_visit hat]
      refine and_congr_right fun _ => ?_
      have hopen : (v.answer 0 c.info.sd).closes = false := by
        refine Bool.eq_false_iff.2 ?_
        intro hcloses
        exact absurd (Recv.not_delivers_of_closes hcloses) (by simp [hdelivers])
      have hlive : ¬ s.Expired cfg c v := fun hexpired => hexpired.1 hready
      simp only [hready, hdelivers, hopen, hlive, Bool.false_eq_true, forall_const,
        not_false_eq_true, false_implies, and_true]
      exact announced_eq_iff (h.entry c hat.mem) m v.now
  | expired v xs c ys hat hexpired =>
      rw [loggedRight_record (s := s) rfl, keepsLog_visit hat]
      refine and_congr_right fun _ => ?_
      refine iff_of_false ?_ fun hkeeps => hkeeps.2.2 hexpired
      -- an expired client has delivered something, so it should be logged as closed
      have hts := (h.entry c hat.mem).ts_eq
      show [] ≠ expectedLog (s.history c.conn) (.removed true v.now [])
      rw [expectedLog]
      cases hd : delivered (s.history c.conn) with
      | nil =>
          rw [hd] at hts
          exact absurd hts hexpired.2.1
      | cons first rest => simp
  | pass v xs c ys hat hread hstays =>
      rw [keepsLog_visit hat]
      refine (and_iff_left ⟨?_, ?_, ?_⟩).symm
      · intro hready hdelivers
        exact absurd (hread hready) (by simp [hdelivers])
      · intro hready hcloses
        exact absurd (Or.inl ⟨hready, hcloses⟩) hstays
      · intro hexpired
        exact absurd (Or.inr hexpired) hstays

/-- **When the log is right about connections.** In every run, each connection is logged as opened at
    its first measurement and at no other, and when its client is removed it is logged as closed with
    the same id if it was opened, and not at all otherwise, exactly if no client delivered again after
    a measurement with timestamp 0, none closed before its first measurement and none was removed by
    the timeout branch. -/
theorem sessions_logged_iff (cfg : ListenConfig V) {ls : List (ListenStep V)}
    (h : (listenSystem cfg).exec (.initial cfg) ls = some s) :
    s.LoggedRight ↔ (listenSystem cfg).AllSteps (KeepsLog cfg) (.initial cfg) ls := by
  refine listen_allSteps_iff sessions_initial (fun _ => eachEvent_nil _) ?_ h
  intro s l s' hinv hsessions hmove
  exact ⟨hsessions.step hinv hmove, hsessions.loggedRight_step hmove⟩

/-- The log about a connection: nothing before its first measurement, then that it is opened, and once
    its client was removed that it is closed. -/
def connectionLog (h : List (ConnEvent V)) : List (LogEvent V) :=
  match delivered h with
  | [] => []
  | first :: _ =>
      .connectionOpened first.id ::
        if h.any ConnEvent.isRemoved = true then [.connectionClosed first.id] else []

theorem connectionLog_of_logged {h : List (ConnEvent V)} (hlogged : HistoryLogged h)
    (hlast : RemovedLast h) : h.flatMap ConnEvent.logged = connectionLog h := by
  induction h using List.reverseRecOn with
  | nil => rfl
  | append_singleton h e ih =>
      obtain ⟨hlogged, he⟩ := eachEvent_concat.1 hlogged
      obtain ⟨hlast, hlive⟩ := eachEvent_concat.1 hlast
      have hany : h.any ConnEvent.isRemoved = false := by
        simpa using hlive
      rw [List.flatMap_append, List.flatMap_singleton, ih hlogged hlast, he, connectionLog,
        connectionLog, delivered_concat, List.any_append, hany]
      cases e with
      | accepted sd =>
          cases delivered h <;> simp [expectedLog, ConnEvent.inserted, ConnEvent.isRemoved]
      | received m now logged =>
          rw [expectedLog]
          cases delivered h <;> simp [ConnEvent.inserted, ConnEvent.isRemoved]
      | removed timedOut now logged =>
          rw [expectedLog]
          cases delivered h <;> simp [ConnEvent.inserted, ConnEvent.isRemoved]

/-- As long as the log is right, all that it says about a connection is that it is opened and closed
    once, with one id. -/
theorem connectionLog_eq (h : (listenSystem cfg).Reachable s) (hright : s.LoggedRight) (conn : ℕ) :
    (s.history conn).flatMap ConnEvent.logged = connectionLog (s.history conn) :=
  connectionLog_of_logged (hright conn) ((listen_sessions h).removedLast conn)

/-- A client delivers two measurements, the first with timestamp 0. -/
def reopenRun : List (ListenStep (BitVec 64)) :=
  [.select (readySds [3]), .accept 4, .visit (idleVisit 100),
    .select (readySds [4]), .visit (recordVisit ⟨15, 20, 0⟩ 100),
    .select (readySds [4]), .visit (recordVisit ⟨15, 21, 101⟩ 101)]

/-- The connection is logged as opened at its second measurement too. -/
theorem reopened_in_log :
    ¬ ∀ (ls : List (ListenStep (BitVec 64))) (s : Listen (BitVec 64)),
      (listenSystem exampleListen).exec (.initial exampleListen) ls = some s → s.LoggedRight := by
  intro hall
  have hright := hall reopenRun _ (StepSystem.exec_after (by decide)) 0
  have hhistory : ((listenSystem exampleListen).after reopenRun).history 0 =
      [.accepted 4, .received ⟨15, 20, 0⟩ 100 [.connectionOpened 15]] ++
        .received ⟨15, 21, 101⟩ 101 [.connectionOpened 15] :: [] := by decide
  exact absurd (hright _ _ _ hhistory) (by decide)

theorem sessions_logged_iff_reopen :
    ((listenSystem exampleListen).after reopenRun).LoggedRight ↔
      (listenSystem exampleListen).AllSteps (KeepsLog exampleListen) (.initial exampleListen)
        reopenRun :=
  sessions_logged_iff exampleListen (StepSystem.exec_after (by decide))

end SensorGateway
