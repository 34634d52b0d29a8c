import Mathlib.Data.Finset.Erase
import SensorGateway.Connmgr.Tcpsock
import SensorGateway.Library.Blocks
import SensorGateway.Library.StepSystem

set_option autoImplicit false

/-! # `tcpsock.c`: the life of a socket

The functions that open, accept and close sockets, with the memory that they work on: the structs, the
address strings and the descriptors that are open. A program calls them on its variables in any order,
and any system call and any `malloc` may fail.

No call faults (`sockets_never_fault`). A call that fails frees what it has allocated, but never closes
the descriptor that it has opened; when exactly memory and descriptors stay behind is
`sockets_accounted_iff`. -/

namespace SensorGateway

/-- `MIN_PORT` and `MAX_PORT`. -/
def minPort : ℤ := 1024
def maxPort : ℤ := 65536

/-- `struct tcpsock`. -/
structure TcpSockMem where
  cookie : Int64
  sd : ℤ
  ipAddr : Ptr
  port : ℤ
deriving DecidableEq, Repr

/-- The structs and the strings that are live, and the descriptors that are open. -/
structure TcpWorld where
  socks : Heap TcpSockMem
  strings : Heap String
  openSds : Finset ℤ

/-- What a function returns, the socket variable afterwards and the world. -/
structure TcpOutcome where
  result : TcpResult
  sock : Ptr
  world : TcpWorld

/-- What the system does in `tcp_passive_open`: the block that `malloc` returns, the descriptor that
    `socket` returns (negative if it fails), and whether `bind` and `listen` succeed. -/
structure PassiveOpenEnv where
  block : Ptr
  sd : ℤ
  bindOk : Bool
  listenOk : Bool

/-- The same for `tcp_active_open`: whether `inet_aton`, `connect` and `getsockname` succeed, the block
    for the string, and the address and port of this end. -/
structure ActiveOpenEnv where
  block : Ptr
  sd : ℤ
  atonOk : Bool
  connectOk : Bool
  sockNameOk : Bool
  ipBlock : Ptr
  ip : String
  port : UInt16

/-- The same for `tcp_wait_for_connection`: the descriptor that `accept` returns, -1 if it fails, and
    the address and port of the peer. -/
structure AcceptEnv where
  block : Ptr
  sd : ℤ
  ipBlock : Ptr
  ip : String
  port : UInt16

namespace TcpWorld

/-- `tcp_sock_create`. -/
def sockCreate (w : TcpWorld) (block : Ptr) : Ptr × TcpWorld :=
  match block with
  | none => (none, w)
  | some a => (some a, { w with socks := w.socks.insert a ⟨0, -1, none, -1⟩ })

/-- Write to the struct that `s` points to. -/
def write (w : TcpWorld) (s : Ptr) (f : TcpSockMem → TcpSockMem) : Option TcpWorld :=
  (w.socks.modify s f).map fun socks => { w with socks }

/-- `free(s); return result`, the variable being left alone. -/
def giveUp (w : TcpWorld) (s : Ptr) (sock : Ptr) (result : TcpResult) : Option TcpOutcome :=
  (w.socks.free s).map fun socks => ⟨result, sock, { w with socks }⟩

/-- The string for an address, if `malloc` returns a block. -/
def copyIp (w : TcpWorld) (ipBlock : Ptr) (ip : String) : TcpWorld :=
  match ipBlock with
  | none => w
  | some p => { w with strings := w.strings.insert p ip }

/-- `tcp_passive_open(&sock, port)`. -/
def tcpPassiveOpen (w : TcpWorld) (sock : Ptr) (port : ℤ) (env : PassiveOpenEnv) :
    Option TcpOutcome := do
  if port < minPort ∨ maxPort < port then return ⟨.addressError, sock, w⟩
  let (s, w) := w.sockCreate env.block
  if s = none then return ⟨.memoryError, sock, w⟩
  let w ← w.write s fun t => { t with sd := env.sd }
  if env.sd < 0 then return ← w.giveUp s sock .sockopError
  let w := { w with openSds := insert env.sd w.openSds }
  if env.bindOk = false then return ← w.giveUp s sock .sockopError
  if env.listenOk = false then return ← w.giveUp s sock .sockopError
  let w ← w.write s fun t => { t with ipAddr := none, port, cookie := magicCookie }
  return ⟨.noError, s, w⟩

/-- `tcp_active_open(&sock, remote_port, remote_ip)`; `remoteIp` is whether `remote_ip` is not NULL. -/
def tcpActiveOpen (w : TcpWorld) (sock : Ptr) (remotePort : ℤ) (remoteIp : Bool)
    (env : ActiveOpenEnv) : Option TcpOutcome := do
  if remotePort < minPort ∨ maxPort < remotePort then return ⟨.addressError, sock, w⟩
  if remoteIp = false then return ⟨.addressError, sock, w⟩
  let (client, w) := w.sockCreate env.block
  if client = none then return ⟨.memoryError, sock, w⟩
  let w ← w.write client fun t => { t with sd := env.sd }
  if env.sd < 0 then return ← w.giveUp client sock .sockopError
  let w := { w with openSds := insert env.sd w.openSds }
  if env.atonOk = false then return ← w.giveUp client sock .addressError
  if env.connectOk = false then return ← w.giveUp client sock .sockopError
  if env.sockNameOk = false then return ← w.giveUp client sock .sockopError
  let w ← w.write client fun t => { t with ipAddr := env.ipBlock }
  if env.ipBlock = none then return ← w.giveUp client sock .memoryError
  let w ← (w.copyIp env.ipBlock env.ip).write client fun t =>
    { t with port := env.port.toNat, cookie := magicCookie }
  return ⟨.noError, client, w⟩

/-- `tcp_wait_for_connection(socket, &newSocket)`. -/
def tcpWaitForConnection (w : TcpWorld) (socket newSocket : Ptr) (env : AcceptEnv) :
    Option TcpOutcome := do
  if socket = none then return ⟨.socketError, newSocket, w⟩
  let t ← w.socks.load socket
  if t.cookie ≠ magicCookie then return ⟨.socketError, newSocket, w⟩
  let (s, w) := w.sockCreate env.block
  if s = none then return ⟨.memoryError, newSocket, w⟩
  let w ← w.write s fun t => { t with sd := env.sd }
  if env.sd = -1 then return ← w.giveUp s newSocket .sockopError
  let w := { w with openSds := insert env.sd w.openSds }
  let w ← w.write s fun t => { t with ipAddr := env.ipBlock }
  if env.ipBlock = none then return ← w.giveUp s newSocket .memoryError
  let w ← (w.copyIp env.ipBlock env.ip).write s fun t =>
    { t with port := env.port.toNat, cookie := magicCookie }
  return ⟨.noError, s, w⟩

/-- `tcp_close(&sock)`. -/
def tcpClose (w : TcpWorld) (sock : Ptr) (shutdownOk : Bool) : Option TcpOutcome := do
  if sock = none then return ⟨.socketError, sock, w⟩
  let s ← w.socks.load sock
  let strings ← if s.cookie = magicCookie then w.strings.free s.ipAddr else some w.strings
  let openSds := if s.cookie = magicCookie ∧ 0 ≤ s.sd ∧ shutdownOk = true then w.openSds.erase s.sd
    else w.openSds
  let w ← ({ w with strings, openSds } : TcpWorld).write sock fun _ => ⟨0, -1, none, -1⟩
  let socks ← w.socks.free sock
  return ⟨.noError, none, { w with socks }⟩

/-- `tcp_get_ip_addr`, `tcp_get_port` and `tcp_get_sd`: a field of the socket. -/
def getField {α : Type} (w : TcpWorld) (socket : Ptr) (field : TcpSockMem → α) :
    Option (TcpResult × Option α) := do
  if socket = none then return (.socketError, none)
  let s ← w.socks.load socket
  if s.cookie ≠ magicCookie then return (.socketError, none)
  return (.noError, some (field s))

def tcpGetIpAddr (w : TcpWorld) (socket : Ptr) : Option (TcpResult × Option Ptr) :=
  w.getField socket TcpSockMem.ipAddr

def tcpGetPort (w : TcpWorld) (socket : Ptr) : Option (TcpResult × Option ℤ) :=
  w.getField socket TcpSockMem.port

def tcpGetSd (w : TcpWorld) (socket : Ptr) : Option (TcpResult × Option ℤ) :=
  w.getField socket TcpSockMem.sd

end TcpWorld

/-! ## What an opening call comes to -/

/-- What comes of a call that opens a socket: nothing, an open descriptor that nobody holds, or a
    socket, with its string if it has one. -/
inductive Attempt where
  | refused (result : TcpResult)
  | stranded (result : TcpResult) (sd : ℤ)
  | opened (a : Addr) (t : TcpSockMem) (string : Option (Addr × String))

def PassiveOpenEnv.attempt (env : PassiveOpenEnv) (port : ℤ) : Attempt :=
  if port < minPort ∨ maxPort < port then .refused .addressError
  else
    match env.block with
    | none => .refused .memoryError
    | some a =>
        if env.sd < 0 then .refused .sockopError
        else if env.bindOk = false ∨ env.listenOk = false then .stranded .sockopError env.sd
        else .opened a ⟨magicCookie, env.sd, none, port⟩ none

def ActiveOpenEnv.attempt (env : ActiveOpenEnv) (port : ℤ) (remoteIp : Bool) : Attempt :=
  if (port < minPort ∨ maxPort < port) ∨ remoteIp = false then .refused .addressError
  else
    match env.block with
    | none => .refused .memoryError
    | some a =>
        if env.sd < 0 then .refused .sockopError
        else if env.atonOk = false then .stranded .addressError env.sd
        else if env.connectOk = false ∨ env.sockNameOk = false then .stranded .sockopError env.sd
        else
          match env.ipBlock with
          | none => .stranded .memoryError env.sd
          | some p => .opened a ⟨magicCookie, env.sd, some p, env.port.toNat⟩ (some (p, env.ip))

/-- `bound` is whether there is a socket to wait on. -/
def AcceptEnv.attempt (env : AcceptEnv) (bound : Bool) : Attempt :=
  if bound = false then .refused .socketError
  else
    match env.block with
    | none => .refused .memoryError
    | some a =>
        if env.sd = -1 then .refused .sockopError
        else
          match env.ipBlock with
          | none => .stranded .memoryError env.sd
          | some p => .opened a ⟨magicCookie, env.sd, some p, env.port.toNat⟩ (some (p, env.ip))

/-- The effect of an attempt. -/
def Attempt.outcome (w : TcpWorld) (sock : Ptr) : Attempt → TcpOutcome
  | .refused result => ⟨result, sock, w⟩
  | .stranded result sd => ⟨result, sock, { w with openSds := insert sd w.openSds }⟩
  | .opened a t none =>
      ⟨.noError, some a, ⟨w.socks.insert a t, w.strings, insert t.sd w.openSds⟩⟩
  | .opened a t (some (p, ip)) =>
      ⟨.noError, some a, ⟨w.socks.insert a t, w.strings.insert p ip, insert t.sd w.openSds⟩⟩

namespace TcpWorld

variable {w : TcpWorld} {sock : Ptr} {a : Addr}

section Calls

variable {h : Heap TcpSockMem} {strings : Heap String} {sds : Finset ℤ}

theorem write_insert (t : TcpSockMem) (f : TcpSockMem → TcpSockMem) :
    (⟨h.insert a t, strings, sds⟩ : TcpWorld).write (some a) f =
      some ⟨h.insert a (f t), strings, sds⟩ := by
  simp only [write, Heap.modify_some (Finmap.lookup_insert h), Finmap.insert_insert,
    Option.map_some]

/-- A struct that is given up leaves no trace. -/
theorem giveUp_insert (ha : a ∉ h) (t : TcpSockMem) (result : TcpResult) :
    (⟨h.insert a t, strings, sds⟩ : TcpWorld).giveUp (some a) sock result =
      some ⟨result, sock, ⟨h, strings, sds⟩⟩ := by
  simp only [giveUp, free_insert ha, Option.map_some]

end Calls

/-- `tcp_passive_open` in one piece. -/
theorem tcpPassiveOpen_eq {env : PassiveOpenEnv} (hblock : ∀ a, env.block = some a → a ∉ w.socks)
    (port : ℤ) :
    w.tcpPassiveOpen sock port env = some ((env.attempt port).outcome w sock) := by
  unfold tcpPassiveOpen PassiveOpenEnv.attempt
  by_cases hport : port < minPort ∨ maxPort < port
  · rw [if_pos hport, if_pos hport]
    rfl
  rw [if_neg hport, if_neg hport]
  cases hb : env.block with
  | none => rfl
  | some a =>
      simp only [sockCreate, reduceCtorEq, if_false, write_insert, giveUp_insert (hblock a hb),
        Option.bind_eq_bind, Option.bind_some]
      by_cases hsd : env.sd < 0
      · rw [if_pos hsd, if_pos hsd]
        rfl
      rw [if_neg hsd, if_neg hsd]
      by_cases hbind : env.bindOk = false
      · rw [if_pos hbind, if_pos (Or.inl hbind)]
        rfl
      rw [if_neg hbind]
      by_cases hlisten : env.listenOk = false
      · rw [if_pos hlisten, if_pos (Or.inr hlisten)]
        rfl
      · rw [if_neg hlisten, if_neg (not_or.2 ⟨hbind, hlisten⟩)]
        rfl

/-- `tcp_active_open` in one piece. -/
theorem tcpActiveOpen_eq {env : ActiveOpenEnv} (hblock : ∀ a, env.block = some a → a ∉ w.socks)
    (port : ℤ) (remoteIp : Bool) :
    w.tcpActiveOpen sock port remoteIp env =
      some ((env.attempt port remoteIp).outcome w sock) := by
  unfold tcpActiveOpen ActiveOpenEnv.attempt
  by_cases hport : port < minPort ∨ maxPort < port
  · rw [if_pos hport, if_pos (Or.inl hport)]
    rfl
  rw [if_neg hport]
  by_cases hip : remoteIp = false
  · rw [if_pos hip, if_pos (Or.inr hip)]
    rfl
  rw [if_neg hip, if_neg (not_or.2 ⟨hport, hip⟩)]
  cases hb : env.block with
  | none => rfl
  | some a =>
      simp only [sockCreate, reduceCtorEq, if_false, write_insert, giveUp_insert (hblock a hb),
        Option.bind_eq_bind, Option.bind_some]
      by_cases hsd : env.sd < 0
      · rw [if_pos hsd, if_pos hsd]
        rfl
      rw [if_neg hsd, if_neg hsd]
      by_cases haton : env.atonOk = false
      · rw [if_pos haton, if_pos haton]
        rfl
      rw [if_neg haton, if_neg haton]
      by_cases hconnect : env.connectOk = false
      · rw [if_pos hconnect, if_pos (Or.inl hconnect)]
        rfl
      rw [if_neg hconnect]
      by_cases hname : env.sockNameOk = false
      · rw [if_pos hname, if_pos (Or.inr hname)]
        rfl
      rw [if_neg hname, if_neg (not_or.2 ⟨hconnect, hname⟩)]
      cases env.ipBlock with
      | none => rfl
      | some p =>
          simp only [copyIp, reduceCtorEq, if_false, write_insert, Option.bind_some]
          rfl

/-- `tcp_wait_for_connection` in one piece. -/
theorem tcpWaitForConnection_eq {env : AcceptEnv} (hblock : ∀ a, env.block = some a → a ∉ w.socks)
    {socket : Ptr}
    (hsocket : ∀ a, socket = some a → ∃ t, w.socks.lookup a = some t ∧ t.cookie = magicCookie) :
    w.tcpWaitForConnection socket sock env =
      some ((env.attempt socket.isSome).outcome w sock) := by
  unfold tcpWaitForConnection AcceptEnv.attempt
  cases socket with
  | none => rfl
  | some b =>
      obtain ⟨t, ht, hcookie⟩ := hsocket b rfl
      simp only [reduceCtorEq, if_false, Heap.load_some, ht, Option.bind_eq_bind, Option.bind_some,
        hcookie, ne_eq, not_true_eq_false, Option.isSome_some, Bool.true_eq_false]
      cases hb : env.block with
      | none => rfl
      | some a =>
          simp only [sockCreate, reduceCtorEq, if_false, write_insert, giveUp_insert (hblock a hb),
            Option.bind_some]
          by_cases hsd : env.sd = -1
          · rw [if_pos hsd, if_pos hsd]
            rfl
          rw [if_neg hsd, if_neg hsd]
          cases env.ipBlock with
          | none => rfl
          | some p =>
              simp only [copyIp, reduceCtorEq, if_false, write_insert, Option.bind_some]
              rfl

/-- `tcp_close` of a socket: its struct and its string are freed, and its descriptor is closed if
    `shutdown` succeeds. -/
theorem tcpClose_eq {t : TcpSockMem} (ht : w.socks.lookup a = some t)
    (hcookie : t.cookie = magicCookie) (hsd : 0 ≤ t.sd)
    (hip : ∀ p, t.ipAddr = some p → p ∈ w.strings) (shutdownOk : Bool) :
    w.tcpClose (some a) shutdownOk = some ⟨.noError, none, w.socks.erase a,
      t.ipAddr.elim w.strings fun p => w.strings.erase p,
      if shutdownOk = true then w.openSds.erase t.sd else w.openSds⟩ := by
  have hstrings : w.strings.free t.ipAddr =
      some (t.ipAddr.elim w.strings fun p => w.strings.erase p) := by
    cases hp : t.ipAddr with
    | none => rfl
    | some p =>
        obtain ⟨ip, hlookup⟩ := Finmap.mem_iff.1 (hip p hp)
        exact Heap.free_some hlookup
  simp only [tcpClose, reduceCtorEq, if_false, Heap.load_some, ht, Option.bind_eq_bind,
    Option.bind_some, hcookie, if_true, hstrings, hsd, true_and, write, Heap.modify_some ht,
    Option.map_some, free_written]
  rfl

end TcpWorld

/-! ## Programs -/

/-- A program that uses sockets: its variables, and what it has allocated. -/
structure TcpProgram where
  world : TcpWorld
  vars : ℕ → Ptr

/-- A call, with the numbers of the variables that it is given and what the system does in it. -/
inductive TcpCall where
  | passiveOpen (i : ℕ) (port : ℤ) (env : PassiveOpenEnv)
  | activeOpen (i : ℕ) (port : ℤ) (remoteIp : Bool) (env : ActiveOpenEnv)
  | waitForConnection (i j : ℕ) (env : AcceptEnv)
  | close (i : ℕ) (shutdownOk : Bool)

/-- `malloc` returns no block that is live, and the system no descriptor that is open. -/
def TcpCall.possible (w : TcpWorld) : TcpCall → Bool
  | .passiveOpen _ _ env =>
      env.block.all (fun a => a ∉ w.socks) && (env.sd < 0 || env.sd ∉ w.openSds)
  | .activeOpen _ _ _ env =>
      env.block.all (fun a => a ∉ w.socks) && env.ipBlock.all (fun p => p ∉ w.strings) &&
        (env.sd < 0 || env.sd ∉ w.openSds)
  | .waitForConnection _ _ env =>
      env.block.all (fun a => a ∉ w.socks) && env.ipBlock.all (fun p => p ∉ w.strings) &&
        (env.sd = -1 || (0 ≤ env.sd && env.sd ∉ w.openSds))
  | .close _ _ => true

/-- What an attempt takes from the system is new, and what it opens is bound. -/
def Attempt.Fresh (w : TcpWorld) : Attempt → Prop
  | .refused _ => True
  | .stranded _ sd => 0 ≤ sd ∧ sd ∉ w.openSds
  | .opened a t string => a ∉ w.socks ∧ t.cookie = magicCookie ∧ 0 ≤ t.sd ∧ t.sd ∉ w.openSds ∧
      t.ipAddr = string.map Prod.fst ∧ ∀ p, t.ipAddr = some p → p ∉ w.strings

section Fresh

variable {w : TcpWorld}

theorem passiveOpen_fresh {env : PassiveOpenEnv} {i : ℕ} {port : ℤ}
    (h : (TcpCall.passiveOpen i port env).possible w = true) : (env.attempt port).Fresh w := by
  simp only [TcpCall.possible, Bool.and_eq_true, Bool.or_eq_true, decide_eq_true_eq] at h
  unfold PassiveOpenEnv.attempt
  split
  · trivial
  cases hb : env.block with
  | none => trivial
  | some a =>
      rw [hb] at h
      have ha : a ∉ w.socks := by simpa using h.1
      dsimp only
      split
      · trivial
      · next hsd =>
          have hsd : 0 ≤ env.sd ∧ env.sd ∉ w.openSds := ⟨by omega, h.2.resolve_left hsd⟩
          split
          · exact hsd
          · exact ⟨ha, rfl, hsd.1, hsd.2, rfl, by simp⟩

theorem activeOpen_fresh {env : ActiveOpenEnv} {i : ℕ} {port : ℤ} {remoteIp : Bool}
    (h : (TcpCall.activeOpen i port remoteIp env).possible w = true) :
    (env.attempt port remoteIp).Fresh w := by
  simp only [TcpCall.possible, Bool.and_eq_true, Bool.or_eq_true, decide_eq_true_eq] at h
  unfold ActiveOpenEnv.attempt
  split
  · trivial
  cases hb : env.block with
  | none => trivial
  | some a =>
      rw [hb] at h
      have ha : a ∉ w.socks := by simpa using h.1.1
      dsimp only
      split
      · trivial
      · next hsd =>
          have hsd : 0 ≤ env.sd ∧ env.sd ∉ w.openSds := ⟨by omega, h.2.resolve_left hsd⟩
          split
          · exact hsd
          split
          · exact hsd
          cases hp : env.ipBlock with
          | none => exact hsd
          | some p =>
              rw [hp] at h
              have hp : p ∉ w.strings := by simpa using h.1.2
              exact ⟨ha, rfl, hsd.1, hsd.2, rfl, by simpa using hp⟩

theorem waitForConnection_fresh {env : AcceptEnv} {i j : ℕ}
    (h : (TcpCall.waitForConnection i j env).possible w = true) (bound : Bool) :
    (env.attempt bound).Fresh w := by
  simp only [TcpCall.possible, Bool.and_eq_true, Bool.or_eq_true, decide_eq_true_eq] at h
  unfold AcceptEnv.attempt
  split
  · trivial
  cases hb : env.block with
  | none => trivial
  | some a =>
      rw [hb] at h
      have ha : a ∉ w.socks := by simpa using h.1.1
      dsimp only
      split
      · trivial
      · next hsd =>
          have hsd : 0 ≤ env.sd ∧ env.sd ∉ w.openSds := h.2.resolve_left hsd
          cases hp : env.ipBlock with
          | none => exact hsd
          | some p =>
              rw [hp] at h
              have hp : p ∉ w.strings := by simpa using h.1.2
              exact ⟨ha, rfl, hsd.1, hsd.2, rfl, by simpa using hp⟩

end Fresh

namespace TcpProgram

/-- A call stores what it leaves in variable `i`. -/
def store (s : TcpProgram) (i : ℕ) (r : TcpOutcome) : TcpProgram :=
  ⟨r.world, Function.update s.vars i r.sock⟩

/-- Execute a call. -/
def call (s : TcpProgram) : TcpCall → Option TcpProgram
  | .passiveOpen i port env => (s.world.tcpPassiveOpen (s.vars i) port env).map (s.store i)
  | .activeOpen i port remoteIp env =>
      (s.world.tcpActiveOpen (s.vars i) port remoteIp env).map (s.store i)
  | .waitForConnection i j env =>
      (s.world.tcpWaitForConnection (s.vars i) (s.vars j) env).map (s.store j)
  | .close i shutdownOk => (s.world.tcpClose (s.vars i) shutdownOk).map (s.store i)

/-- All runs of programs whose variables are NULL at the start. -/
def system : StepSystem TcpProgram TcpCall where
  init := ⟨⟨∅, ∅, ∅⟩, fun _ => none⟩
  step s l := if l.possible s.world = true then s.call l else none

/-- The attempt that an opening call is, and the variable that it stores to. -/
def attempt (s : TcpProgram) : TcpCall → Option (ℕ × Attempt)
  | .passiveOpen i port env => some (i, env.attempt port)
  | .activeOpen i port remoteIp env => some (i, env.attempt port remoteIp)
  | .waitForConnection i j env => some (j, env.attempt (s.vars i).isSome)
  | .close _ _ => none

/-- The call stores a new socket to a variable that holds one. -/
def Overwrites (s : TcpProgram) (l : TcpCall) : Prop :=
  ∃ i a t string, s.attempt l = some (i, .opened a t string) ∧ s.vars i ≠ none

/-- The call fails after it has got a descriptor, or `shutdown` fails for the socket that it closes. -/
def Strands (s : TcpProgram) (l : TcpCall) : Prop :=
  (∃ i result sd, s.attempt l = some (i, .stranded result sd)) ∨
    ∃ i, l = .close i false ∧ s.vars i ≠ none

/-! ## What holds of the live structs -/

/-- The variables hold different live structs; every live struct is bound to an open descriptor of its
    own, and may have a live string of its own; and every live string is that of a live struct. -/
structure Inv (s : TcpProgram) : Prop where
  live : ∀ i a, s.vars i = some a → a ∈ s.world.socks
  distinct : ∀ i j a, s.vars i = some a → s.vars j = some a → i = j
  cookie : ∀ a t, s.world.socks.lookup a = some t → t.cookie = magicCookie
  sd_nonneg : ∀ a t, s.world.socks.lookup a = some t → 0 ≤ t.sd
  sd_open : ∀ a t, s.world.socks.lookup a = some t → t.sd ∈ s.world.openSds
  sd_inj : ∀ a b t u, s.world.socks.lookup a = some t → s.world.socks.lookup b = some u →
    t.sd = u.sd → a = b
  ip_live : ∀ a t p, s.world.socks.lookup a = some t → t.ipAddr = some p → p ∈ s.world.strings
  ip_inj : ∀ a b t u p, s.world.socks.lookup a = some t → s.world.socks.lookup b = some u →
    t.ipAddr = some p → u.ipAddr = some p → a = b
  ip_owned : ∀ p ∈ s.world.strings, ∃ a t, s.world.socks.lookup a = some t ∧ t.ipAddr = some p

/-- `TcpMove s l s'`: what the call `l` does. -/
inductive Move (s : TcpProgram) : TcpCall → TcpProgram → Prop where
  | refused (l : TcpCall) (hattempt : ∀ i a, s.attempt l = some (i, a) → ∃ result, a = .refused result)
      (hclose : ∀ i shutdownOk, l = .close i shutdownOk → s.vars i = none) : Move s l s
  | stranded (l : TcpCall) (i : ℕ) (result : TcpResult) (sd : ℤ)
      (hattempt : s.attempt l = some (i, .stranded result sd)) (hsd : 0 ≤ sd)
      (hfresh : sd ∉ s.world.openSds) :
      Move s l ⟨{ s.world with openSds := insert sd s.world.openSds }, s.vars⟩
  | opened (l : TcpCall) (i : ℕ) (a : Addr) (t : TcpSockMem) (string : Option (Addr × String))
      (hattempt : s.attempt l = some (i, .opened a t string)) (ha : a ∉ s.world.socks)
      (hcookie : t.cookie = magicCookie) (hsd : 0 ≤ t.sd) (hfresh : t.sd ∉ s.world.openSds)
      (hip : t.ipAddr = string.map Prod.fst) (hstring : ∀ p, t.ipAddr = some p → p ∉ s.world.strings) :
      Move s l (s.store i ((Attempt.opened a t string).outcome s.world (s.vars i)))
  | closed (i : ℕ) (a : Addr) (t : TcpSockMem) (shutdownOk : Bool) (hvar : s.vars i = some a)
      (ht : s.world.socks.lookup a = some t) :
      Move s (.close i shutdownOk) ⟨⟨s.world.socks.erase a,
        t.ipAddr.elim s.world.strings fun p => s.world.strings.erase p,
        if shutdownOk = true then s.world.openSds.erase t.sd else s.world.openSds⟩,
        Function.update s.vars i none⟩

section Steps

variable {s s' : TcpProgram} {l : TcpCall}

theorem move_of_attempt {i : ℕ} {a : Attempt} (hattempt : s.attempt l = some (i, a))
    (hfresh : a.Fresh s.world) (hclose : ∀ i shutdownOk, l ≠ .close i shutdownOk) :
    Move s l (s.store i (a.outcome s.world (s.vars i))) := by
  have hsame : ∀ w, s.store i ⟨.noError, s.vars i, w⟩ = ⟨w, s.vars⟩ := fun w => by
    rw [store, Function.update_eq_self]
  cases a with
  | refused result =>
      have heq : s.store i ((Attempt.refused result).outcome s.world (s.vars i)) = s := hsame _
      rw [heq]
      refine .refused l (fun j b hb => ?_) fun j ok hl => absurd hl (hclose j ok)
      obtain ⟨-, rfl⟩ := Prod.mk.inj (Option.some.inj (hattempt.symm.trans hb))
      exact ⟨result, rfl⟩
  | stranded result sd =>
      have heq : s.store i ((Attempt.stranded result sd).outcome s.world (s.vars i)) =
          ⟨{ s.world with openSds := insert sd s.world.openSds }, s.vars⟩ := hsame _
      rw [heq]
      exact .stranded l i result sd hattempt hfresh.1 hfresh.2
  | opened a t string =>
      obtain ⟨ha, hcookie, hsd, hsd', hip, hstring⟩ := hfresh
      exact .opened l i a t string hattempt ha hcookie hsd hsd' hip hstring

/-- **What a call can do**; it never faults. -/
theorem Inv.call_move (h : s.Inv) (hl : l.possible s.world = true) :
    ∃ s', s.call l = some s' ∧ Move s l s' := by
  have hblock : ∀ {block : Ptr}, block.all (fun a => a ∉ s.world.socks) = true →
      ∀ a, block = some a → a ∉ s.world.socks := by
    rintro block hb a rfl
    simpa using hb
  cases l with
  | passiveOpen i port env =>
      have hb : env.block.all (fun a => a ∉ s.world.socks) = true := by
        simp only [TcpCall.possible, Bool.and_eq_true] at hl
        exact hl.1
      refine ⟨_, ?_, move_of_attempt rfl (passiveOpen_fresh hl) (by simp)⟩
      simp only [call, TcpWorld.tcpPassiveOpen_eq (hblock hb), Option.map_some]
  | activeOpen i port remoteIp env =>
      have hb : env.block.all (fun a => a ∉ s.world.socks) = true := by
        simp only [TcpCall.possible, Bool.and_eq_true] at hl
        exact hl.1.1
      refine ⟨_, ?_, move_of_attempt rfl (activeOpen_fresh hl) (by simp)⟩
      simp only [call, TcpWorld.tcpActiveOpen_eq (hblock hb), Option.map_some]
  | waitForConnection i j env =>
      have hb : env.block.all (fun a => a ∉ s.world.socks) = true := by
        simp only [TcpCall.possible, Bool.and_eq_true] at hl
        exact hl.1.1
      have hsocket : ∀ a, s.vars i = some a →
          ∃ t, s.world.socks.lookup a = some t ∧ t.cookie = magicCookie := by
        intro a ha
        obtain ⟨t, ht⟩ := Finmap.mem_iff.1 (h.live i a ha)
        exact ⟨t, ht, h.cookie a t ht⟩
      refine ⟨_, ?_, move_of_attempt rfl (waitForConnection_fresh hl _) (by simp)⟩
      simp only [call, TcpWorld.tcpWaitForConnection_eq (hblock hb) hsocket, Option.map_some]
  | close i shutdownOk =>
      cases hi : s.vars i with
      | none =>
          refine ⟨s, ?_, .refused _ (by simp [attempt]) ?_⟩
          · have heq : s.store i ⟨.socketError, none, s.world⟩ = s := by
              rw [store, ← hi, Function.update_eq_self]
            simp only [call, hi, TcpWorld.tcpClose, if_true, Option.map_some, Option.pure_def, heq]
          · rintro j ok heq
            obtain ⟨rfl, -⟩ := TcpCall.close.inj heq
            exact hi
      | some a =>
          obtain ⟨t, ht⟩ := Finmap.mem_iff.1 (h.live i a hi)
          refine ⟨_, ?_, .closed i a t shutdownOk hi ht⟩
          simp only [call, hi, TcpWorld.tcpClose_eq ht (h.cookie a t ht) (h.sd_nonneg a t ht)
            (fun p => h.ip_live a t p ht), Option.map_some]
          rfl

theorem Inv.step_move (h : s.Inv) (hs : system.step s l = some s') : Move s l s' := by
  have hl : l.possible s.world = true := by
    by_contra hnot
    have hnone : system.step s l = none := if_neg hnot
    exact absurd (hnone.symm.trans hs) (by simp)
  obtain ⟨s'', hcall, hmove⟩ := h.call_move hl
  have heq : system.step s l = some s'' := (if_pos hl).trans hcall
  obtain rfl := Option.some.inj (heq.symm.trans hs)
  exact hmove

end Steps

/-! ### The invariant in every run -/

section Lookup

variable {h : Heap TcpSockMem} {a b : Addr} {t u : TcpSockMem}

theorem lookup_insert_iff :
    (h.insert a t).lookup b = some u ↔ (b = a ∧ u = t) ∨ (b ≠ a ∧ h.lookup b = some u) := by
  by_cases hb : b = a
  · subst hb
    simp [Finmap.lookup_insert, eq_comm]
  · simp [Finmap.lookup_insert_of_ne h hb, hb]

theorem lookup_erase_iff : (h.erase a).lookup b = some u ↔ b ≠ a ∧ h.lookup b = some u := by
  by_cases hb : b = a
  · subst hb
    simp [Finmap.lookup_erase]
  · simp [Finmap.lookup_erase_ne hb, hb]

end Lookup

theorem inv_init : system.init.Inv where
  live _ _ h := absurd h (by simp [system])
  distinct _ _ _ h := absurd h (by simp [system])
  cookie _ _ h := absurd h (by simp [system])
  sd_nonneg _ _ h := absurd h (by simp [system])
  sd_open _ _ h := absurd h (by simp [system])
  sd_inj _ _ _ _ h := absurd h (by simp [system])
  ip_live _ _ _ h := absurd h (by simp [system])
  ip_inj _ _ _ _ _ h := absurd h (by simp [system])
  ip_owned _ h := absurd h Finmap.notMem_empty

section Invariant

variable {s s' : TcpProgram} {l : TcpCall}

/-- An open descriptor that no struct is bound to does no harm. -/
theorem Inv.stranded (h : s.Inv) (sd : ℤ) :
    Inv ⟨{ s.world with openSds := insert sd s.world.openSds }, s.vars⟩ :=
  { h with sd_open := fun a t ht => Finset.mem_insert_of_mem (h.sd_open a t ht) }

/-- The world after a socket is opened. -/
theorem opened_world (w : TcpWorld) (sock : Ptr) (a : Addr) (t : TcpSockMem)
    (string : Option (Addr × String)) :
    ∃ strings, (Attempt.opened a t string).outcome w sock =
        ⟨.noError, some a, ⟨w.socks.insert a t, strings, insert t.sd w.openSds⟩⟩ ∧
      ∀ p, p ∈ strings ↔ p ∈ w.strings ∨ string.map Prod.fst = some p := by
  cases string with
  | none => exact ⟨w.strings, rfl, fun p => by simp⟩
  | some q =>
      obtain ⟨p, ip⟩ := q
      exact ⟨w.strings.insert p ip, rfl, fun p' => by simp [or_comm, eq_comm]⟩

theorem Inv.opened (h : s.Inv) {i : ℕ} {a : Addr} {t : TcpSockMem}
    {string : Option (Addr × String)} (ha : a ∉ s.world.socks) (hcookie : t.cookie = magicCookie)
    (hsd : 0 ≤ t.sd) (hfresh : t.sd ∉ s.world.openSds) (hip : t.ipAddr = string.map Prod.fst)
    (hstring : ∀ p, t.ipAddr = some p → p ∉ s.world.strings) :
    Inv (s.store i ((Attempt.opened a t string).outcome s.world (s.vars i))) := by
  obtain ⟨strings, heq, hmem⟩ := opened_world s.world (s.vars i) a t string
  rw [heq, ← hip] at *
  -- a variable that holds the new struct is the one stored to, any other is as before
  have hvar : ∀ j b, (s.store i ⟨.noError, some a, ⟨s.world.socks.insert a t, strings,
      insert t.sd s.world.openSds⟩⟩).vars j = some b →
      (j = i ∧ b = a) ∨ (b ≠ a ∧ s.vars j = some b) := by
    intro j b hj
    by_cases hji : j = i
    · subst hji
      have hj : Function.update s.vars j (some a) j = some b := hj
      rw [Function.update_self] at hj
      exact Or.inl ⟨rfl, (Option.some.inj hj).symm⟩
    · have hj : s.vars j = some b := (Function.update_of_ne hji ..).symm.trans hj
      exact Or.inr ⟨fun hb => ha (hb ▸ h.live j b hj), hj⟩
  constructor
  · intro j b hj
    rcases hvar j b hj with ⟨-, rfl⟩ | ⟨-, hj⟩
    · exact Finmap.mem_insert.2 (Or.inl rfl)
    · exact Finmap.mem_insert.2 (Or.inr (h.live j b hj))
  · intro j k b hj hk
    rcases hvar j b hj with ⟨rfl, rfl⟩ | ⟨hne, hj⟩
    · exact ((hvar k _ hk).resolve_right fun hk => hk.1 rfl).1.symm
    · exact h.distinct j k b hj ((hvar k b hk).resolve_left fun hk => hne hk.2).2
  · intro b u hu
    rcases lookup_insert_iff.1 hu with ⟨-, rfl⟩ | ⟨-, hu⟩
    · exact hcookie
    · exact h.cookie b u hu
  · intro b u hu
    rcases lookup_insert_iff.1 hu with ⟨-, rfl⟩ | ⟨-, hu⟩
    · exact hsd
    · exact h.sd_nonneg b u hu
  · intro b u hu
    rcases lookup_insert_iff.1 hu with ⟨-, rfl⟩ | ⟨-, hu⟩
    · exact Finset.mem_insert_self ..
    · exact Finset.mem_insert_of_mem (h.sd_open b u hu)
  · intro b c u v hu hv huv
    rcases lookup_insert_iff.1 hu with ⟨rfl, rfl⟩ | ⟨-, hu'⟩ <;>
      rcases lookup_insert_iff.1 hv with ⟨rfl, rfl⟩ | ⟨-, hv'⟩
    · rfl
    · exact absurd (huv ▸ h.sd_open c v hv') hfresh
    · exact absurd (huv ▸ h.sd_open b u hu') hfresh
    · exact h.sd_inj b c u v hu' hv' huv
  · intro b u p hu hp
    rcases lookup_insert_iff.1 hu with ⟨-, rfl⟩ | ⟨-, hu⟩
    · exact (hmem p).2 (Or.inr hp)
    · exact (hmem p).2 (Or.inl (h.ip_live b u p hu hp))
  · intro b c u v p hu hv hup hvp
    rcases lookup_insert_iff.1 hu with ⟨rfl, rfl⟩ | ⟨-, hu'⟩ <;>
      rcases lookup_insert_iff.1 hv with ⟨rfl, rfl⟩ | ⟨-, hv'⟩
    · rfl
    · exact absurd (h.ip_live c v p hv' hvp) (hstring p hup)
    · exact absurd (h.ip_live b u p hu' hup) (hstring p hvp)
    · exact h.ip_inj b c u v p hu' hv' hup hvp
  · intro p hp
    rcases (hmem p).1 hp with hp | hp
    · obtain ⟨b, u, hu, hup⟩ := h.ip_owned p hp
      have hba : b ≠ a := fun hb => ha (hb ▸ Finmap.mem_of_lookup_eq_some hu)
      exact ⟨b, u, lookup_insert_iff.2 (Or.inr ⟨hba, hu⟩), hup⟩
    · exact ⟨a, t, lookup_insert_iff.2 (Or.inl ⟨rfl, rfl⟩), hp⟩

theorem Inv.closed (h : s.Inv) {i : ℕ} {a : Addr} {t : TcpSockMem} (hvar : s.vars i = some a)
    (ht : s.world.socks.lookup a = some t) (shutdownOk : Bool) :
    Inv ⟨⟨s.world.socks.erase a, t.ipAddr.elim s.world.strings fun p => s.world.strings.erase p,
      if shutdownOk = true then s.world.openSds.erase t.sd else s.world.openSds⟩,
      Function.update s.vars i none⟩ := by
  have hvars : ∀ j b, Function.update s.vars i none j = some b → s.vars j = some b ∧ b ≠ a := by
    intro j b hj
    by_cases hji : j = i
    · subst hji
      exact absurd ((Function.update_self ..).symm.trans hj) (by simp)
    · have hj : s.vars j = some b := (Function.update_of_ne hji ..).symm.trans hj
      exact ⟨hj, fun hb => hji (h.distinct j i a (hb ▸ hj) hvar)⟩
  have hstrings : ∀ p, p ∈ (t.ipAddr.elim s.world.strings fun p => s.world.strings.erase p) ↔
      p ∈ s.world.strings ∧ t.ipAddr ≠ some p := by
    intro p
    cases hp : t.ipAddr with
    | none => simp
    | some q => simp [Finmap.mem_erase, and_comm, eq_comm]
  constructor
  · intro j b hj
    obtain ⟨hj, hb⟩ := hvars j b hj
    exact Finmap.mem_erase.2 ⟨hb, h.live j b hj⟩
  · intro j k b hj hk
    exact h.distinct j k b (hvars j b hj).1 (hvars k b hk).1
  · exact fun b u hu => h.cookie b u (lookup_erase_iff.1 hu).2
  · exact fun b u hu => h.sd_nonneg b u (lookup_erase_iff.1 hu).2
  · intro b u hu
    obtain ⟨hb, hu⟩ := lookup_erase_iff.1 hu
    have hopen := h.sd_open b u hu
    have hne : u.sd ≠ t.sd := fun he => hb (h.sd_inj b a u t hu ht he)
    dsimp only
    split
    · exact Finset.mem_erase.2 ⟨hne, hopen⟩
    · exact hopen
  · intro b c u v hu hv
    exact h.sd_inj b c u v (lookup_erase_iff.1 hu).2 (lookup_erase_iff.1 hv).2
  · intro b u p hu hp
    obtain ⟨hb, hu⟩ := lookup_erase_iff.1 hu
    exact (hstrings p).2 ⟨h.ip_live b u p hu hp, fun htp => hb (h.ip_inj b a u t p hu ht hp htp)⟩
  · intro b c u v p hu hv
    exact h.ip_inj b c u v p (lookup_erase_iff.1 hu).2 (lookup_erase_iff.1 hv).2
  · intro p hp
    obtain ⟨hp, hne⟩ := (hstrings p).1 hp
    obtain ⟨b, u, hu, hup⟩ := h.ip_owned p hp
    have hb : b ≠ a := by
      rintro rfl
      obtain rfl := Option.some.inj (hu.symm.trans ht)
      exact hne hup
    exact ⟨b, u, lookup_erase_iff.2 ⟨hb, hu⟩, hup⟩

/-- **Step lemma.** -/
theorem Inv.move (h : s.Inv) (hm : Move s l s') : s'.Inv := by
  cases hm with
  | refused => exact h
  | stranded l i result sd => exact h.stranded sd
  | opened l i a t string _ ha hcookie hsd hfresh hip hstring =>
      exact h.opened ha hcookie hsd hfresh hip hstring
  | closed i a t shutdownOk hvar ht => exact h.closed hvar ht shutdownOk

theorem Inv.step (h : s.Inv) (hs : system.step s l = some s') : s'.Inv := h.move (h.step_move hs)

theorem reachable_inv (h : system.Reachable s) : s.Inv :=
  h.invariant Inv inv_init fun _ _ _ => Inv.step

end Invariant

/-! ## What stays behind -/

/-- Some variable holds the struct. -/
def Held (s : TcpProgram) (a : Addr) : Prop := ∃ i, s.vars i = some a

/-- Some variable holds a socket with the descriptor. -/
def Bound (s : TcpProgram) (sd : ℤ) : Prop :=
  ∃ i a t, s.vars i = some a ∧ s.world.socks.lookup a = some t ∧ t.sd = sd

section Accounting

variable {s s' : TcpProgram} {l : TcpCall}

theorem overwrites_iff {i : ℕ} {a : Addr} {t : TcpSockMem} {string : Option (Addr × String)}
    (hattempt : s.attempt l = some (i, .opened a t string)) :
    s.Overwrites l ↔ s.vars i ≠ none := by
  refine ⟨?_, fun hi => ⟨i, a, t, string, hattempt, hi⟩⟩
  rintro ⟨j, b, u, string', hl, hj⟩
  obtain ⟨rfl, -⟩ := Prod.mk.inj (Option.some.inj (hattempt.symm.trans hl))
  exact hj

theorem not_overwrites (hattempt : ∀ i a t string, s.attempt l ≠ some (i, .opened a t string)) :
    ¬ s.Overwrites l := fun ⟨i, a, t, string, hl, _⟩ => hattempt i a t string hl

theorem not_strands {i : ℕ} {a : Addr} {t : TcpSockMem} {string : Option (Addr × String)}
    (hattempt : s.attempt l = some (i, .opened a t string)) : ¬ s.Strands l := by
  rintro (⟨j, result, sd, hl⟩ | ⟨j, rfl, -⟩)
  · exact absurd (hattempt.symm.trans hl) (by simp)
  · exact absurd hattempt (by simp [attempt])

/-- A struct that no variable holds stays behind, and only a call that overwrites a variable leaves
    one. -/
theorem Inv.held_iff (h : s.Inv) (hm : Move s l s') :
    (∀ a ∈ s'.world.socks, s'.Held a) ↔ (∀ a ∈ s.world.socks, s.Held a) ∧ ¬ s.Overwrites l := by
  cases hm with
  | refused l hattempt _ =>
      refine (and_iff_left (not_overwrites fun i a t string hl => ?_)).symm
      obtain ⟨_, hresult⟩ := hattempt i _ hl
      exact absurd hresult (by simp)
  | stranded l i result sd hattempt =>
      refine (and_iff_left (not_overwrites fun j a t string hl => ?_)).symm
      exact absurd (hattempt.symm.trans hl) (by simp)
  | closed i a t shutdownOk hvar ht =>
      refine Iff.trans ⟨fun hall b hb => ?_, fun hall b hb => ?_⟩
        (and_iff_left (not_overwrites (by simp [attempt]))).symm
      · by_cases hba : b = a
        · exact hba ▸ ⟨i, hvar⟩
        · obtain ⟨j, hj⟩ := hall b (Finmap.mem_erase.2 ⟨hba, hb⟩)
          refine ⟨j, ?_⟩
          by_cases hji : j = i
          · exact absurd hj (by simp [hji])
          · exact (Function.update_of_ne hji ..).symm.trans hj
      · obtain ⟨hba, hb⟩ := Finmap.mem_erase.1 hb
        obtain ⟨j, hj⟩ := hall b hb
        have hji : j ≠ i := by
          rintro rfl
          exact hba (Option.some.inj (hj.symm.trans hvar))
        exact ⟨j, (Function.update_of_ne hji ..).trans hj⟩
  | opened l i a t string hattempt ha =>
      obtain ⟨strings, heq, -⟩ := opened_world s.world (s.vars i) a t string
      rw [heq, overwrites_iff hattempt, not_not]
      constructor
      · intro hall
        have hold : ∀ b ∈ s.world.socks, ∃ j, j ≠ i ∧ s.vars j = some b := by
          intro b hb
          obtain ⟨j, hj⟩ := hall b (Finmap.mem_insert.2 (Or.inr hb))
          have hj : Function.update s.vars i (some a) j = some b := hj
          by_cases hji : j = i
          · rw [hji, Function.update_self] at hj
            exact absurd (Option.some.inj hj ▸ hb) ha
          · exact ⟨j, hji, (Function.update_of_ne hji ..).symm.trans hj⟩
        refine ⟨fun b hb => (hold b hb).imp fun j hj => hj.2, ?_⟩
        -- what variable `i` holds would be held by another variable too
        cases hi : s.vars i with
        | none => rfl
        | some b =>
            obtain ⟨j, hji, hj⟩ := hold b (h.live i b hi)
            exact absurd (h.distinct j i b hj hi) hji
      · rintro ⟨hall, hi⟩ b hb
        rcases Finmap.mem_insert.1 hb with rfl | hb
        · exact ⟨i, Function.update_self ..⟩
        · obtain ⟨j, hj⟩ := hall b hb
          have hji : j ≠ i := by
            rintro rfl
            exact absurd (hi.symm.trans hj) (by simp)
          exact ⟨j, (Function.update_of_ne hji ..).trans hj⟩

/-- A descriptor that is bound in no variable stays behind; such a descriptor comes from a call that
    overwrites a variable, fails too late or closes a socket that cannot be shut down. -/
theorem Inv.bound_iff (h : s.Inv) (hm : Move s l s') :
    (∀ sd ∈ s'.world.openSds, s'.Bound sd) ↔
      (∀ sd ∈ s.world.openSds, s.Bound sd) ∧ ¬ s.Overwrites l ∧ ¬ s.Strands l := by
  cases hm with
  | refused l hattempt hclose =>
      refine (and_iff_left ⟨not_overwrites fun i a t string hl => ?_, ?_⟩).symm
      · obtain ⟨_, hresult⟩ := hattempt i _ hl
        exact absurd hresult (by simp)
      · rintro (⟨i, result, sd, hl⟩ | ⟨i, rfl, hi⟩)
        · obtain ⟨_, hresult⟩ := hattempt i _ hl
          exact absurd hresult (by simp)
        · exact hi (hclose i false rfl)
  | stranded l i result sd hattempt _ hfresh =>
      refine ⟨fun hall => ?_, fun ⟨_, _, hnot⟩ => absurd (Or.inl ⟨i, result, sd, hattempt⟩) hnot⟩
      obtain ⟨j, b, u, -, hu, rfl⟩ := hall sd (Finset.mem_insert_self ..)
      exact absurd (h.sd_open b u hu) hfresh
  | closed i a t shutdownOk hvar ht =>
      -- the other sockets are bound as before
      have hbound : ∀ sd, sd ≠ t.sd → ((∃ j b u, Function.update s.vars i none j = some b ∧
          (s.world.socks.erase a).lookup b = some u ∧ u.sd = sd) ↔ s.Bound sd) := by
        intro sd hsd
        constructor
        · rintro ⟨j, b, u, hj, hu, rfl⟩
          have hji : j ≠ i := fun hji => absurd hj (by simp [hji])
          exact ⟨j, b, u, (Function.update_of_ne hji ..).symm.trans hj,
            (lookup_erase_iff.1 hu).2, rfl⟩
        · rintro ⟨j, b, u, hj, hu, rfl⟩
          have hba : b ≠ a := by
            rintro rfl
            exact hsd (congrArg TcpSockMem.sd (Option.some.inj (hu.symm.trans ht)))
          have hji : j ≠ i := by
            rintro rfl
            exact hba (Option.some.inj (hj.symm.trans hvar))
          exact ⟨j, b, u, (Function.update_of_ne hji ..).trans hj, lookup_erase_iff.2 ⟨hba, hu⟩, rfl⟩
      have hown : s.Bound t.sd := ⟨i, a, t, hvar, ht, rfl⟩
      cases shutdownOk with
      | true =>
          have hnot : ¬ s.Overwrites (.close i true) ∧ ¬ s.Strands (.close i true) :=
            ⟨not_overwrites (by simp [attempt]), by simp [Strands, attempt]⟩
          refine Iff.trans ⟨fun hall sd hsd => ?_, fun hall sd hsd => ?_⟩ (and_iff_left hnot).symm
          · by_cases hne : sd = t.sd
            · exact hne ▸ hown
            · exact (hbound sd hne).1 (hall sd (Finset.mem_erase.2 ⟨hne, hsd⟩))
          · obtain ⟨hne, hsd⟩ := Finset.mem_erase.1 hsd
            exact (hbound sd hne).2 (hall sd hsd)
      | false =>
          refine ⟨fun hall => ?_, fun ⟨_, _, hnot⟩ => absurd (Or.inr ⟨i, rfl, by simp [hvar]⟩) hnot⟩
          obtain ⟨j, b, u, -, hu, hsd⟩ := hall t.sd (h.sd_open a t ht)
          obtain ⟨hba, hu⟩ := lookup_erase_iff.1 hu
          exact absurd (h.sd_inj b a u t hu ht hsd) hba
  | opened l i a t string hattempt ha _ _ hfresh =>
      obtain ⟨strings, heq, -⟩ := opened_world s.world (s.vars i) a t string
      rw [heq, overwrites_iff hattempt, not_not, and_iff_left (not_strands hattempt)]
      constructor
      · intro hall
        have hold : ∀ sd ∈ s.world.openSds, ∃ j b u, j ≠ i ∧ s.vars j = some b ∧
            s.world.socks.lookup b = some u ∧ u.sd = sd := by
          intro sd hsd
          obtain ⟨j, b, u, hj, hu, hud⟩ := hall sd (Finset.mem_insert_of_mem hsd)
          have hj : Function.update s.vars i (some a) j = some b := hj
          rcases lookup_insert_iff.1 hu with ⟨-, rfl⟩ | ⟨hba, hu⟩
          · exact absurd (hud ▸ hsd) hfresh
          · have hji : j ≠ i := by
              rintro rfl
              rw [Function.update_self] at hj
              exact hba (Option.some.inj hj).symm
            exact ⟨j, b, u, hji, (Function.update_of_ne hji ..).symm.trans hj, hu, hud⟩
        refine ⟨fun sd hsd => ?_, ?_⟩
        · obtain ⟨j, b, u, -, hbound⟩ := hold sd hsd
          exact ⟨j, b, u, hbound⟩
        cases hi : s.vars i with
        | none => rfl
        | some c =>
            obtain ⟨v, hv⟩ := Finmap.mem_iff.1 (h.live i c hi)
            obtain ⟨j, b, u, hji, hj, hu, hud⟩ := hold v.sd (h.sd_open c v hv)
            obtain rfl := h.sd_inj b c u v hu hv hud
            exact absurd (h.distinct j i b hj hi) hji
      · rintro ⟨hall, hi⟩ sd hsd
        rcases Finset.mem_insert.1 hsd with rfl | hsd
        · exact ⟨i, a, t, Function.update_self .., lookup_insert_iff.2 (Or.inl ⟨rfl, rfl⟩), rfl⟩
        · obtain ⟨j, b, u, hj, hu, hud⟩ := hall sd hsd
          have hji : j ≠ i := by
            rintro rfl
            exact absurd (hi.symm.trans hj) (by simp)
          have hba : b ≠ a := fun hba => ha (hba ▸ h.live j b hj)
          exact ⟨j, b, u, (Function.update_of_ne hji ..).trans hj,
            lookup_insert_iff.2 (Or.inr ⟨hba, hu⟩), hud⟩

/-- **When everything is accounted for.** After any run every live struct is held by a variable exactly
    if no call has stored a socket to a variable that held one, and every open descriptor is bound in a
    variable exactly if besides no call has left a descriptor open (a call that failed after `socket` or
    `accept`, or a `tcp_close` whose `shutdown` failed). Every string belongs to a live struct. -/
theorem sockets_accounted_iff {ls : List TcpCall} (hls : system.exec system.init ls = some s) :
    ((∀ a ∈ s.world.socks, s.Held a) ↔
        system.AllSteps (fun s l => ¬ s.Overwrites l) system.init ls) ∧
      ((∀ sd ∈ s.world.openSds, s.Bound sd) ↔
        system.AllSteps (fun s l => ¬ s.Overwrites l ∧ ¬ s.Strands l) system.init ls) ∧
      ∀ p ∈ s.world.strings, ∃ a t, s.world.socks.lookup a = some t ∧ t.ipAddr = some p := by
  have hheld : ∀ a ∈ system.init.world.socks, system.init.Held a :=
    fun a ha => absurd ha Finmap.notMem_empty
  have hbound : ∀ sd ∈ system.init.world.openSds, system.init.Bound sd :=
    fun sd hsd => absurd hsd (Finset.notMem_empty sd)
  refine ⟨?_, ?_, (reachable_inv ⟨ls, hls⟩).ip_owned⟩
  · exact StepSystem.allSteps_iff (J := fun s => ∀ a ∈ s.world.socks, s.Held a) Inv inv_init hheld
      (fun s l s' h hs => ⟨h.step hs, h.held_iff (h.step_move hs)⟩) hls
  · exact StepSystem.allSteps_iff (J := fun s => ∀ sd ∈ s.world.openSds, s.Bound sd) Inv inv_init
      hbound (fun s l s' h hs => ⟨h.step hs, h.bound_iff (h.step_move hs)⟩) hls

/-- A server accepts two clients into the same variable, and fails to accept a third. -/
def acceptTwice : List TcpCall :=
  [.passiveOpen 0 5678 ⟨some 1, 3, true, true⟩,
    .waitForConnection 0 1 ⟨some 2, 4, some 1, "10.0.0.1", 40000⟩,
    .waitForConnection 0 1 ⟨some 3, 5, some 2, "10.0.0.2", 40001⟩,
    .waitForConnection 0 2 ⟨some 4, 6, none, "10.0.0.3", 40002⟩,
    .close 1 true, .close 0 true]

theorem sockets_accounted_twice :
    let s := system.after acceptTwice
    s.world.socks.keys = {2} ∧ s.world.openSds = {4, 6} ∧
      ((∀ a ∈ s.world.socks, s.Held a) ↔
        system.AllSteps (fun s l => ¬ s.Overwrites l) system.init acceptTwice) ∧
      ((∀ sd ∈ s.world.openSds, s.Bound sd) ↔
        system.AllSteps (fun s l => ¬ s.Overwrites l ∧ ¬ s.Strands l) system.init acceptTwice) ∧
      ∀ p ∈ s.world.strings, ∃ a t, s.world.socks.lookup a = some t ∧ t.ipAddr = some p :=
  ⟨by decide, by decide, sockets_accounted_iff (StepSystem.exec_after (by decide))⟩

/-- **No call faults**, in whatever state a run ends: the functions that read a socket refuse a NULL
    variable and return the fields of any other, whose descriptor is open and in no other variable. -/
theorem sockets_never_fault (hs : system.Reachable s) :
    (∀ l, l.possible s.world = true → (s.call l).isSome = true) ∧
      (∀ i, s.vars i = none →
        s.world.tcpGetIpAddr (s.vars i) = some (.socketError, none) ∧
          s.world.tcpGetPort (s.vars i) = some (.socketError, none) ∧
          s.world.tcpGetSd (s.vars i) = some (.socketError, none)) ∧
      ∀ i a, s.vars i = some a → ∃ t, s.world.socks.lookup a = some t ∧
        s.world.tcpGetIpAddr (s.vars i) = some (.noError, some t.ipAddr) ∧
        s.world.tcpGetPort (s.vars i) = some (.noError, some t.port) ∧
        s.world.tcpGetSd (s.vars i) = some (.noError, some t.sd) ∧
        t.sd ∈ s.world.openSds ∧
        ∀ j b u, j ≠ i → s.vars j = some b → s.world.socks.lookup b = some u → u.sd ≠ t.sd := by
  have h : s.Inv := reachable_inv hs
  refine ⟨fun l hl => ?_, fun i hi => ?_, fun i a hi => ?_⟩
  · obtain ⟨s', hcall, -⟩ := h.call_move hl
    rw [hcall]
    rfl
  · rw [hi]
    exact ⟨rfl, rfl, rfl⟩
  · obtain ⟨t, ht⟩ := Finmap.mem_iff.1 (h.live i a hi)
    have hget : ∀ {α : Type} (field : TcpSockMem → α),
        s.world.getField (some a) field = some (.noError, some (field t)) := fun field => by
      simp only [TcpWorld.getField, reduceCtorEq, if_false, Heap.load_some, ht, h.cookie a t ht,
        ne_eq, not_true_eq_false, Option.pure_def, Option.bind_eq_bind, Option.bind_some]
    rw [hi]
    refine ⟨t, ht, hget _, hget _, hget _, h.sd_open a t ht, fun j b u hji hj hu he => ?_⟩
    obtain rfl := h.sd_inj b a u t hu ht he
    exact hji (h.distinct j i b hj hi)

theorem sockets_never_fault_twice :
    ((system.after acceptTwice).call (.close 0 true)).isSome = true ∧
      (system.after acceptTwice).world.tcpGetSd ((system.after acceptTwice).vars 1) =
        some (.socketError, none) :=
  have h := sockets_never_fault (s := system.after acceptTwice)
    (StepSystem.reachable_after (by decide))
  ⟨h.1 (.close 0 true) (by decide), (h.2.1 1 (by decide)).2.2⟩

end Accounting

end TcpProgram

end SensorGateway
