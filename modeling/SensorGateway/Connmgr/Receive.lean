import SensorGateway.Connmgr.Tcpsock
import SensorGateway.Library.Loop
import SensorGateway.Log.Event

set_option autoImplicit false

/-! # `connmgr.c`: receiving measurements

What `connmgr_listen` does with a client whose descriptor is ready (`connmgrReceive`), and what
becomes of one connection while the bytes of its stream keep it ready (`connmgrServe`). The other
clients of the list have sockets and entries of their own. -/

namespace SensorGateway

variable {V : Type}

/-- `sensor_info_t`: the entry of a client. -/
structure SensorInfo where
  socket : Option TcpSock
  ts : Int64
  sd : ℤ
  id : UInt16
deriving DecidableEq, Repr

/-- The entry of a new connection; its id is unknown until the first measurement. -/
def newSensorInfo (sd : ℤ) : SensorInfo := ⟨some (acceptedSocket sd), 0, sd, 0⟩

/-- What handling a ready client leads to: its entry (`none` if it was removed), the measurements
    inserted in the buffer, the log events, and the connection afterwards. -/
structure Receipt (V : Type) where
  client : Option SensorInfo
  inserted : List (SensorData V)
  events : List (LogEvent V)
  conn : Connection

/-- The code for a client whose descriptor is in `read_fds`. `garbage` is what the memory that `malloc`
    returned for the measurement holds. The results of the second and the third `tcp_receive` are
    overwritten without being looked at, and so are the numbers of bytes. `none` if a call waits
    for good. -/
def connmgrReceive (abi : Abi V) (client : SensorInfo) (garbage : SensorData V) (c : Connection) :
    Option (Receipt V) := do
  let id ← tcpReceive client.socket (abi.id.encode garbage.id) c
  if id.result = .connectionClosed then
    return ⟨none, [], [.connectionClosed client.id], id.conn⟩
  else if id.result = .noError ∧ 0 < id.bufSize then
    let value ← tcpReceive client.socket (abi.value.encode garbage.value) id.conn
    let ts ← tcpReceive client.socket (abi.ts.encode garbage.ts) value.conn
    let measurement : SensorData V :=
      ⟨abi.id.decode id.buffer, abi.value.decode value.buffer, abi.ts.decode ts.buffer⟩
    if client.ts = 0 then
      return ⟨some { client with id := measurement.id, ts := measurement.ts }, [measurement],
        [.connectionOpened measurement.id], ts.conn⟩
    else
      return ⟨some { client with ts := measurement.ts }, [measurement], [], ts.conn⟩
  else
    return ⟨some client, [], [], id.conn⟩

/-! ## The same code for any answers of `recv` -/

/-- What the three `tcp_receive` calls make of a ready client. -/
inductive Reading (V : Type) where
  /-- the connection is reported as closed -/
  | closed
  /-- a measurement, in whatever state the calls left it -/
  | measured (m : SensorData V)
  | nothing
deriving DecidableEq, Repr

/-- The calls of `tcp_receive` for a ready client; `answer k sd` is what the `recv` call returns that
    call `k` makes on descriptor `sd`. -/
def connmgrRead (abi : Abi V) (socket : Option TcpSock) (garbage : SensorData V)
    (answer : ℕ → ℤ → Recv) : Reading V :=
  let id := tcpReceiveFrom socket (abi.id.encode garbage.id) (answer 0)
  if id.result = .connectionClosed then .closed
  else if id.result = .noError ∧ 0 < id.bufSize then
    let value := tcpReceiveFrom socket (abi.value.encode garbage.value) (answer 1)
    let ts := tcpReceiveFrom socket (abi.ts.encode garbage.ts) (answer 2)
    .measured
      ⟨abi.id.decode id.buffer, abi.value.decode value.buffer, abi.ts.decode ts.buffer⟩
  else .nothing

/-- The entry of a client after it delivered `m`. -/
def SensorInfo.measured (client : SensorInfo) (m : SensorData V) : SensorInfo :=
  { client with id := if client.ts = 0 then m.id else client.id, ts := m.ts }

/-- The log events when a client delivers `m`; a `ts` of 0 stands for a client that is new. -/
def SensorInfo.announced (client : SensorInfo) (m : SensorData V) : List (LogEvent V) :=
  if client.ts = 0 then [.connectionOpened m.id] else []

/-- What follows from a reading: the entry, the measurements inserted and the log events. -/
def Reading.outcome (client : SensorInfo) :
    Reading V → Option SensorInfo × List (SensorData V) × List (LogEvent V)
  | .closed => (none, [], [.connectionClosed client.id])
  | .measured m => (some (client.measured m), [m], client.announced m)
  | .nothing => (some client, [], [])

/-- On a connection, handling a ready client is what follows from the answers that the connection
    gives. -/
theorem connmgrReceive_outcome {abi : Abi V} {client : SensorInfo} {garbage : SensorData V}
    {c : Connection} {r : Receipt V} (h : connmgrReceive abi client garbage c = some r) :
    ∃ answer, (connmgrRead abi client.socket garbage answer).outcome client =
      (r.client, r.inserted, r.events) := by
  unfold connmgrReceive at h
  obtain ⟨id, hid, h⟩ := Option.bind_eq_some_iff.1 h
  obtain ⟨idAnswer, hid⟩ := tcpReceive_from hid
  by_cases hclosed : id.result = .connectionClosed
  · rw [if_pos hclosed] at h
    obtain rfl := Option.some.inj h
    refine ⟨fun _ _ => idAnswer, ?_⟩
    rw [connmgrRead, hid, if_pos hclosed]
    rfl
  rw [if_neg hclosed] at h
  by_cases hopen : id.result = .noError ∧ 0 < id.bufSize
  · rw [if_pos hopen] at h
    obtain ⟨value, hvalue, h⟩ := Option.bind_eq_some_iff.1 h
    obtain ⟨ts, hts, h⟩ := Option.bind_eq_some_iff.1 h
    obtain ⟨valueAnswer, hvalue⟩ := tcpReceive_from hvalue
    obtain ⟨tsAnswer, hts⟩ := tcpReceive_from hts
    -- calls 0, 1 and 2 are for the id, the value and the timestamp
    refine ⟨fun k _ => [idAnswer, valueAnswer, tsAnswer].getD k idAnswer, ?_⟩
    simp only [connmgrRead, List.getD_cons_zero, List.getD_cons_succ, hid, hvalue, hts,
      if_neg hclosed, if_pos hopen, Reading.outcome]
    by_cases hnew : client.ts = 0
    · rw [if_pos hnew] at h
      obtain rfl := Option.some.inj h
      simp [SensorInfo.measured, SensorInfo.announced, hnew]
    · rw [if_neg hnew] at h
      obtain rfl := Option.some.inj h
      simp [SensorInfo.measured, SensorInfo.announced, hnew]
  · rw [if_neg hopen] at h
    obtain rfl := Option.some.inj h
    refine ⟨fun _ _ => idAnswer, ?_⟩
    simp only [connmgrRead, hid, if_neg hclosed, if_neg hopen]
    rfl

/-! ### Which answers lead where -/

/-- The answers that `tcp_receive` reports as a closed connection: no bytes, or `ENOTCONN`. -/
def Recv.closes : Recv → Bool
  | .received bytes => bytes.isEmpty
  | .failed notConnected => notConnected

/-- The answers with bytes. -/
def Recv.delivers : Recv → Bool
  | .received bytes => !bytes.isEmpty
  | .failed _ => false

theorem Recv.not_delivers_of_closes {answer : Recv} (h : answer.closes = true) :
    answer.delivers = false := by
  cases answer with
  | received bytes => simpa [Recv.delivers, Recv.closes] using h
  | failed notConnected => rfl

/-- The first call decides what kind of reading it is. -/
theorem connmgrRead_accepted (abi : Abi V) (sd : ℤ) (garbage : SensorData V)
    (answer : ℕ → ℤ → Recv) :
    (connmgrRead abi (some (acceptedSocket sd)) garbage answer = .closed ↔
        (answer 0 sd).closes = true) ∧
      ((∃ m, connmgrRead abi (some (acceptedSocket sd)) garbage answer = .measured m) ↔
        (answer 0 sd).delivers = true) := by
  unfold connmgrRead
  rw [tcpReceiveFrom_accepted]
  cases answer 0 sd with
  | received bytes =>
      cases bytes with
      | nil => simp [Recv.closes, Recv.delivers]
      | cons b bs =>
          have hpos : (0 : ℤ) < (b :: bs).length := Int.natCast_pos.2 (by simp)
          simp only [reduceCtorEq, if_false, true_and, if_pos hpos, Recv.closes, Recv.delivers]
          simp
  | failed notConnected =>
      cases notConnected with
      | false => simp [Recv.closes, Recv.delivers]
      | true => simp [Recv.closes, Recv.delivers]

/-- The reading depends on what is received on the descriptor of the client only. -/
theorem connmgrRead_congr (abi : Abi V) (sd : ℤ) (garbage : SensorData V)
    {answer answer' : ℕ → ℤ → Recv} (h : ∀ k, answer k sd = answer' k sd) :
    connmgrRead abi (some (acceptedSocket sd)) garbage answer =
      connmgrRead abi (some (acceptedSocket sd)) garbage answer' := by
  have hcall : ∀ {n : ℕ} (buffer : Vector UInt8 n) (k : ℕ),
      tcpReceiveFrom (some (acceptedSocket sd)) buffer (answer k) =
        tcpReceiveFrom (some (acceptedSocket sd)) buffer (answer' k) := by
    intro n buffer k
    rw [tcpReceiveFrom_accepted, tcpReceiveFrom_accepted, h]
  simp only [connmgrRead, hcall]

/-! ## One connection -/

/-- What has come of a connection: the measurements inserted and the events logged for it. -/
structure Served (V : Type) where
  inserted : List (SensorData V)
  events : List (LogEvent V)

/-- A connection while it is served. `rounds` counts how often the client was found ready. -/
structure Serving (V : Type) where
  client : SensorInfo
  conn : Connection
  rounds : ℕ
  served : Served V

/-- A round of the loop of `connmgr_listen`, as far as it is about this client. It ends when `select`
    does not report the client any more, when its entry is removed or when a call waits for
    good. `garbage k` is what `malloc` returns in round `k`. -/
def serveBody (abi : Abi V) (garbage : ℕ → SensorData V) (s : Serving V) :
    Option (LoopStep (Serving V) (Served V)) :=
  if s.conn.readable = true then
    match connmgrReceive abi s.client (garbage s.rounds) s.conn with
    | none => some (.exit s.served)
    | some r =>
        let served : Served V := ⟨s.served.inserted ++ r.inserted, s.served.events ++ r.events⟩
        match r.client with
        | none => some (.exit served)
        | some client => some (.next ⟨client, r.conn, s.rounds + 1, served⟩)
  else
    some (.exit s.served)

/-- What `connmgr_listen` does with a connection that was accepted with descriptor `sd`. -/
def connmgrServe (abi : Abi V) (garbage : ℕ → SensorData V) (sd : ℤ) (c : Connection) :
    Option (Served V) :=
  loop (serveBody abi garbage) (c.pending.length + 2) ⟨newSensorInfo sd, c, 0, ⟨[], []⟩⟩

end SensorGateway
