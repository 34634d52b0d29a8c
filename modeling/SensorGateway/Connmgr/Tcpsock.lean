import Mathlib.Data.Finset.Erase
import SensorGateway.Config

set_option autoImplicit false

/-! # `tcpsock.c`: receiving from a connection, and closing it

`tcp_receive` on top of `recv`. A connection is what the system holds for the receiver: the bytes of
the stream that have not been received yet, how many of them each `recv` call is going to return
(`cut`, TCP promises no more than one), and what comes after the last byte. `tcpReceiveFrom` is the
same function for whatever `recv` may return; it is for the callers that have many connections. -/

namespace SensorGateway

/-- The return codes of the socket functions. -/
inductive TcpResult where
  | noError
  | socketError
  | addressError
  | sockopError
  | connectionClosed
  | memoryError
deriving DecidableEq, Repr

/-- `MAGIC_COOKIE`. -/
def magicCookie : Int64 := 0xA2E1CF37D35

/-- `tcpsock_t`: the fields that receiving looks at. -/
structure TcpSock where
  cookie : Int64
  sd : ℤ
deriving DecidableEq, Repr

/-- The socket that `tcp_wait_for_connection` returns for the descriptor of a new connection. -/
def acceptedSocket (sd : ℤ) : TcpSock := ⟨magicCookie, sd⟩

/-! ## `recv` -/

/-- What happens on a connection after the last byte of its stream. -/
inductive Ending where
  /-- nothing -/
  | quiet
  /-- the peer closes the connection -/
  | closed
  /-- the connection is reset: `recv` fails once -/
  | reset
deriving DecidableEq, Repr

/-- The receiving end of a connection. `cut k` is how many bytes call number `k` returns, as far as
    they were asked for and are there, but at least one. -/
structure Connection where
  pending : List UInt8
  cut : ℕ → ℕ
  calls : ℕ
  ending : Ending

namespace Connection

variable (c : Connection) (size : ℕ)

/-- The number of bytes that the next `recv` call for `size` bytes returns. -/
def granted : ℕ := max 1 (min (c.cut c.calls) (min size c.pending.length))

/-- The bytes that the next `recv` call for `size` bytes returns. -/
def front : List UInt8 := c.pending.take (c.granted size)

/-- The connection after that call. -/
def advance : Connection :=
  { c with pending := c.pending.drop (c.granted size), calls := c.calls + 1 }

/-- The condition for which `select` waits: a `recv` call would return. -/
def readable : Bool := c.pending ≠ [] || c.ending ≠ .quiet

end Connection

/-- How a `recv` call returns: with bytes (none of them if the peer has closed), or with an error,
    `ENOTCONN` or another one. -/
inductive Recv where
  | received (bytes : List UInt8)
  | failed (notConnected : Bool)
deriving DecidableEq, Repr

/-- `recv(sd, buffer, size, 0)`, with the connection afterwards; `none` if it waits for good. -/
def recv (size : ℕ) (c : Connection) : Option (Recv × Connection) :=
  if c.pending = [] then
    match c.ending with
    | .quiet => none
    | .closed => some (.received [], c)
    | .reset => some (.failed false, { c with ending := .closed })
  else
    some (.received (c.front size), c.advance size)

/-! ## `tcp_receive` -/

/-- What `tcp_receive` returns, the number it leaves in `*buf_size`, the buffer and the connection
    afterwards. -/
structure TcpReceipt (n : ℕ) where
  result : TcpResult
  bufSize : ℤ
  buffer : Vector UInt8 n
  conn : Connection

/-- `tcp_receive(socket, buffer, buf_size)` for a buffer of `*buf_size = n` bytes. -/
def tcpReceive {n : ℕ} (socket : Option TcpSock) (buffer : Vector UInt8 n) (c : Connection) :
    Option (TcpReceipt n) :=
  match socket with
  | none => some ⟨.socketError, n, buffer, c⟩
  | some s =>
      if s.cookie ≠ magicCookie then some ⟨.socketError, n, buffer, c⟩
      else do
        match ← recv n c with
        | (.received [], c) => return ⟨.connectionClosed, 0, buffer, c⟩
        | (.received bytes, c) => return ⟨.noError, bytes.length, overlay buffer bytes, c⟩
        | (.failed notConnected, c) =>
            return ⟨if notConnected = true then .connectionClosed else .sockopError, -1, buffer, c⟩

/-- What `tcp_receive` returns, the number it leaves in `*buf_size` and the buffer afterwards. -/
structure TcpReply (n : ℕ) where
  result : TcpResult
  bufSize : ℤ
  buffer : Vector UInt8 n
deriving DecidableEq

/-- `tcp_receive(socket, buffer, buf_size)` when a `recv` call on descriptor `sd` returns
    `answer sd`. -/
def tcpReceiveFrom {n : ℕ} (socket : Option TcpSock) (buffer : Vector UInt8 n) (answer : ℤ → Recv) :
    TcpReply n :=
  match socket with
  | none => ⟨.socketError, n, buffer⟩
  | some s =>
      if s.cookie ≠ magicCookie then ⟨.socketError, n, buffer⟩
      else
        match answer s.sd with
        | .received [] => ⟨.connectionClosed, 0, buffer⟩
        | .received bytes => ⟨.noError, bytes.length, overlay buffer bytes⟩
        | .failed notConnected =>
            ⟨if notConnected = true then .connectionClosed else .sockopError, -1, buffer⟩

theorem tcpReceiveFrom_accepted {n : ℕ} (sd : ℤ) (buffer : Vector UInt8 n) (answer : ℤ → Recv) :
    tcpReceiveFrom (some (acceptedSocket sd)) buffer answer =
      match answer sd with
      | .received [] => ⟨.connectionClosed, 0, buffer⟩
      | .received bytes => ⟨.noError, bytes.length, overlay buffer bytes⟩
      | .failed notConnected =>
          ⟨if notConnected = true then .connectionClosed else .sockopError, -1, buffer⟩ := by
  simp only [tcpReceiveFrom, acceptedSocket, ne_eq, not_true_eq_false, if_false]

/-- On a connection, `tcp_receive` does what it does for the answer that the connection gives. -/
theorem tcpReceive_from {n : ℕ} {socket : Option TcpSock} {buffer : Vector UInt8 n} {c : Connection}
    {t : TcpReceipt n} (h : tcpReceive socket buffer c = some t) :
    ∃ answer, tcpReceiveFrom socket buffer (fun _ => answer) = ⟨t.result, t.bufSize, t.buffer⟩ := by
  unfold tcpReceive at h
  unfold tcpReceiveFrom
  cases socket with
  | none =>
      obtain rfl := Option.some.inj h
      exact ⟨.received [], rfl⟩
  | some s =>
      dsimp only at h ⊢
      by_cases hcookie : s.cookie ≠ magicCookie
      · rw [if_pos hcookie] at h
        obtain rfl := Option.some.inj h
        exact ⟨.received [], if_pos hcookie⟩
      · rw [if_neg hcookie] at h
        obtain ⟨⟨answer, c'⟩, -, h⟩ := Option.bind_eq_some_iff.1 h
        refine ⟨answer, (if_neg hcookie).trans ?_⟩
        cases answer with
        | received bytes =>
            cases bytes with
            | nil =>
                obtain rfl := Option.some.inj h
                rfl
            | cons b bs =>
                obtain rfl := Option.some.inj h
                rfl
        | failed notConnected =>
            obtain rfl := Option.some.inj h
            rfl

/-! ## `tcp_close` -/

/-- What `tcp_close` returns, the socket variable afterwards and the descriptors that are open. -/
structure TcpClosing where
  result : TcpResult
  socket : Option TcpSock
  openSds : Finset ℤ

/-- `tcp_close(&socket)` while the descriptors `openSds` are open. `shutdownOk` is whether the
    `shutdown` call succeeds; only then is `close` called. -/
def tcpClose (socket : Option TcpSock) (shutdownOk : Bool) (openSds : Finset ℤ) : TcpClosing :=
  match socket with
  | none => ⟨.socketError, none, openSds⟩
  | some s =>
      ⟨.noError, none,
        if s.cookie = magicCookie ∧ 0 ≤ s.sd ∧ shutdownOk = true then openSds.erase s.sd
        else openSds⟩

/-- Closing a bound socket releases its descriptor exactly if `shutdown` succeeds. -/
theorem tcpClose_accepted {sd : ℤ} (hsd : 0 ≤ sd) (shutdownOk : Bool) (openSds : Finset ℤ) :
    tcpClose (some (acceptedSocket sd)) shutdownOk openSds =
      ⟨.noError, none, if shutdownOk = true then openSds.erase sd else openSds⟩ := by
  simp [tcpClose, acceptedSocket, hsd]

/-! ## What arrives -/

namespace Connection

variable {c : Connection} {size : ℕ}

theorem granted_le (hsize : 0 < size) (hpending : c.pending ≠ []) :
    0 < c.granted size ∧ c.granted size ≤ size ∧ c.granted size ≤ c.pending.length := by
  have hlen := List.length_pos_iff.2 hpending
  unfold granted
  omega

theorem length_advance (hsize : 0 < size) (hpending : c.pending ≠ []) :
    (c.advance size).pending.length < c.pending.length ∧
      c.pending.length ≤ (c.advance size).pending.length + size := by
  have hgranted := granted_le hsize hpending
  rw [advance, List.length_drop]
  omega

theorem front_ne_nil (hpending : c.pending ≠ []) : c.front size ≠ [] := by
  have hlen := List.length_pos_iff.2 hpending
  rw [front, ← List.length_pos_iff, List.length_take, granted]
  omega

variable {n : ℕ} {α : Type} {r : ByteRepr n α} {a : α} {rest : List UInt8}

/-- The call returns all bytes of a field. -/
theorem front_full (hn : 0 < n) (hpending : c.pending = r.bytes a ++ rest)
    (hcut : n ≤ c.cut c.calls) :
    c.front n = r.bytes a ∧ c.advance n = { c with pending := rest, calls := c.calls + 1 } := by
  have hgranted : c.granted n = n := by
    unfold granted
    rw [hpending, List.length_append, r.length_bytes]
    omega
  rw [front, advance, hgranted, hpending, List.take_left' (r.length_bytes a),
    List.drop_left' (r.length_bytes a)]
  exact ⟨rfl, rfl⟩

/-- The call returns some bytes of a field, but not all. -/
theorem front_short (hn : 1 < n) (hpending : c.pending = r.bytes a ++ rest)
    (hcut : c.cut c.calls < n) : ∃ k < n, c.front n = (r.bytes a).take k := by
  have hgranted : c.granted n < n := by
    unfold granted
    omega
  refine ⟨c.granted n, hgranted, ?_⟩
  rw [front, hpending, List.take_append_of_le_length (by rw [r.length_bytes]; exact hgranted.le)]

end Connection

theorem tcpReceive_pending {n : ℕ} {c : Connection} (hpending : c.pending ≠ []) (sd : ℤ)
    (buffer : Vector UInt8 n) :
    tcpReceive (some (acceptedSocket sd)) buffer c =
      some ⟨.noError, (c.front n).length, overlay buffer (c.front n), c.advance n⟩ := by
  unfold tcpReceive recv
  rw [if_neg hpending]
  dsimp only [acceptedSocket]
  rw [if_neg (not_not_intro rfl)]
  have hne : c.front n ≠ [] := Connection.front_ne_nil hpending
  obtain ⟨b, bs, hfront⟩ := List.exists_cons_of_ne_nil hne
  simp only [Option.bind_eq_bind, Option.bind_some, hfront]
  rfl

/-- After the last byte `tcp_receive` waits for good, or reports the end of the connection. -/
theorem tcpReceive_nil {n : ℕ} {c : Connection} (hpending : c.pending = []) (sd : ℤ)
    (buffer : Vector UInt8 n) :
    tcpReceive (some (acceptedSocket sd)) buffer c =
      match c.ending with
      | .quiet => none
      | .closed => some ⟨.connectionClosed, 0, buffer, c⟩
      | .reset => some ⟨.sockopError, -1, buffer, { c with ending := .closed }⟩ := by
  unfold tcpReceive recv
  rw [if_pos hpending]
  dsimp only [acceptedSocket]
  rw [if_neg (not_not_intro rfl)]
  cases c.ending with
  | quiet | closed | reset => rfl

end SensorGateway
