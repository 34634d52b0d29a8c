import SensorGateway.Connmgr.Receive
import SensorGateway.Dplist.Refinement
import SensorGateway.Library.History
import SensorGateway.Library.StepSystem

set_option autoImplicit false

/-! # `connmgr.c`: the loop of `connmgr_listen`

The whole loop with its list of clients: `select`, accepting, and the scan over `client_list`. A step
is one `select` call, one accepted connection, one iteration of the scan or the end of the function;
its label holds everything the environment decides in it (which descriptors are ready, the
descriptor `accept` returns, what the `recv` calls return, the clock, whether `shutdown` succeeds).
A call that ends the process with `exit(EXIT_FAILURE)` is no step.

An `fd_set` is the set of its descriptors. `client_list` is the sequence of its elements; the section
below says that the operators of `dplist.c` do to a list what the functions used here do to its
sequence. -/

namespace SensorGateway

variable {V : Type}

/-! ## `client_list` -/

section ClientList

variable {E : Type}

/-- `dpl_get_element_at_index`. -/
def elementAtIndex (elements : List E) (index : ℤ) : Option E :=
  elements[clampIndex index (elements.length - 1)]?

/-- `dpl_insert_at_index`. -/
def insertAtIndex (elements : List E) (element : E) (index : ℤ) : List E :=
  elements.insertIdx (clampIndex index elements.length) element

/-- `dpl_remove_at_index`. -/
def removeAtIndex (elements : List E) (index : ℤ) : List E :=
  elements.eraseIdx (clampIndex index (elements.length - 1))

variable {list : Dplist E} {cells : List (Addr × E)}

theorem dplGetElementAtIndex_elements (h : list.WellFormed cells) (index : ℤ) :
    dplGetElementAtIndex list index = some (elementAtIndex (cells.map Prod.snd) index) := by
  rw [h.elementAtIndex_eq, elementAtIndex, List.length_map, List.getElem?_map]

theorem dplInsertAtIndex_elements (h : list.WellFormed cells) {a : Addr} (ha : a ∉ list.heap)
    (element : E) (index : ℤ) :
    ∃ list' cells', dplInsertAtIndex list element index true (some a) = some list' ∧
      list'.WellFormed cells' ∧ cells'.map Prod.snd =
        insertAtIndex (cells.map Prod.snd) (list.elementCopy list.copied.length element) index := by
  obtain ⟨head, heap, hins, hwf⟩ := h.insertAtIndex ha element index true
  refine ⟨_, _, hins, hwf, ?_⟩
  rw [insertAtIndex, List.length_map, List.map_insertIdx]
  rfl

theorem dplRemoveAtIndex_elements (h : list.WellFormed cells) (index : ℤ) :
    ∃ list' cells', dplRemoveAtIndex list index true = some list' ∧ list'.WellFormed cells' ∧
      cells'.map Prod.snd = removeAtIndex (cells.map Prod.snd) index := by
  obtain ⟨head, heap, freed, hrem, hwf, -⟩ := h.removeAtIndex index true
  refine ⟨_, _, hrem, hwf, ?_⟩
  rw [removeAtIndex, List.length_map, List.eraseIdx_map]

/-- Within the list, an index is not clamped. -/
theorem elementAtIndex_of_lt {elements : List E} {i : ℕ} (hi : i < elements.length) :
    elementAtIndex elements i = some elements[i] := by
  rw [elementAtIndex, clampIndex_of_lt hi, List.getElem?_eq_getElem hi]

theorem insertAtIndex_length (elements : List E) (element : E) :
    insertAtIndex elements element elements.length = elements ++ [element] := by
  rw [insertAtIndex, clampIndex_of_le (Nat.le_refl _), List.insertIdx_length_self]

theorem elementAtIndex_split (xs ys : List E) (x : E) :
    elementAtIndex (xs ++ x :: ys) xs.length = some x := by
  rw [elementAtIndex_of_lt (by simp)]
  simp

theorem removeAtIndex_split (xs ys : List E) (x : E) :
    removeAtIndex (xs ++ x :: ys) xs.length = xs ++ ys := by
  have hlt : xs.length < (xs ++ x :: ys).length := by
    rw [List.length_append, List.length_cons]
    omega
  rw [removeAtIndex, clampIndex_of_lt hlt, eraseIdx_append_length]

end ClientList

/-- An element of `client_list`. `conn` is not part of the program: it numbers the connections in the
    order in which they were accepted. -/
structure Client where
  info : SensorInfo
  conn : ℕ
deriving DecidableEq, Repr

/-! ## The set for `select` -/

/-- The loop variable, `read_fds` and `fdmax` while the set is built. -/
structure FdScan where
  i : ℕ
  fds : Finset ℤ
  fdmax : ℤ

/-- The body of the loop that adds the client sockets to the set; a NULL element ends the process. -/
def fdSetBody (clients : List Client) (s : FdScan) : Option (LoopStep FdScan (Finset ℤ × ℤ)) :=
  if s.i < clients.length then do
    let client ← elementAtIndex clients s.i
    let sd := client.info.sd
    return .next ⟨s.i + 1, if 0 < sd then insert sd s.fds else s.fds,
      if s.fdmax < sd then sd else s.fdmax⟩
  else
    some (.exit (s.fds, s.fdmax))

/-- `read_fds` and `fdmax` as they are passed to `select`. -/
def selectArguments (listener : ℤ) (clients : List Client) : Option (Finset ℤ × ℤ) :=
  loop (fdSetBody clients) (clients.length + 1) ⟨0, {listener}, listener⟩

/-- What `select(fdmax + 1, &fds, …)` leaves in `fds` when the descriptors in `ready` are ready. -/
def selectFds (fds : Finset ℤ) (fdmax : ℤ) (ready : ℤ → Bool) : Finset ℤ :=
  fds.filter fun sd => sd < fdmax + 1 ∧ ready sd = true

/-! ## The state -/

/-- What is fixed while the loop runs: the layout of records, `TIMEOUT` and the descriptor of the
    listening socket. -/
structure ListenConfig (V : Type) where
  abi : Abi V
  timeout : Int64
  listener : ℤ
  listener_nonneg : 0 ≤ listener

/-- `server_socket`. -/
def ListenConfig.serverSocket (cfg : ListenConfig V) : TcpSock := ⟨magicCookie, cfg.listener⟩

/-- What happens to a connection; `now` is the clock of the gateway. -/
inductive ConnEvent (V : Type) where
  | accepted (sd : ℤ)
  /-- the measurement `m` was inserted in the buffer -/
  | received (m : SensorData V) (now : Int64) (logged : List (LogEvent V))
  /-- the client was removed from the list, by the timeout branch or because its peer has closed -/
  | removed (timedOut : Bool) (now : Int64) (logged : List (LogEvent V))
deriving DecidableEq

/-- Where `connmgr_listen` is. -/
inductive ListenPc where
  /-- at the start of a round -/
  | select
  /-- before `tcp_wait_for_connection` -/
  | accept
  /-- in the scan, before the element at index `i` -/
  | scan (i : ℕ)
  /-- behind the loop -/
  | leave
  | returned
deriving DecidableEq, Repr

/-- The state of `connmgr_listen`, with the descriptors it opened that are still open, the number of
    connections accepted and what happened to them so far. -/
structure Listen (V : Type) where
  pc : ListenPc
  clients : List Client
  readFds : Finset ℤ
  openSds : Finset ℤ
  accepted : ℕ
  trace : List (ℕ × ConnEvent V)

/-- The environment of one iteration of the scan: the clock, what `recv` call `k` returns on each
    descriptor, the memory that `malloc` returns and whether `shutdown` succeeds. -/
structure Visit (V : Type) where
  now : Int64
  answer : ℕ → ℤ → Recv
  garbage : SensorData V
  shutdownOk : Bool

/-- A step, with what the environment decides in it. -/
inductive ListenStep (V : Type) where
  | select (ready : ℤ → Bool)
  | accept (sd : ℤ)
  | visit (v : Visit V)
  | leave (shutdownOk : Bool)

/-! ## The steps -/

/-- The test of the loop over `client_list`. -/
def Listen.scanFrom (s : Listen V) (i : ℕ) : Listen V :=
  { s with pc := if i < s.clients.length then .scan i else .select }

/-- Record what happened to a connection. -/
def Listen.record (s : Listen V) (conn : ℕ) (event : ConnEvent V) : Listen V :=
  { s with trace := s.trace ++ [(conn, event)] }

/-- From the start of a round to the accepting of connections, or to the scan. -/
def Listen.select (cfg : ListenConfig V) (s : Listen V) (ready : ℤ → Bool) : Option (Listen V) := do
  let (fds, fdmax) ← selectArguments cfg.listener s.clients
  let readFds := selectFds fds fdmax ready
  if readFds = ∅ then
    -- `activity == 0`: nothing became ready within TIMEOUT seconds
    return { s with readFds, pc := .leave }
  else if cfg.listener ∈ readFds then
    return { s with readFds, pc := .accept }
  else
    return { s with readFds }.scanFrom 0

/-- `tcp_wait_for_connection` with the descriptor that `accept` returns, and the new element of the
    list. -/
def Listen.accept (s : Listen V) (sd : ℤ) : Option (Listen V) :=
  if 0 ≤ sd ∧ sd ∉ s.openSds then
    let newSensor : Client := ⟨newSensorInfo sd, s.accepted⟩
    some (({ s with
      clients := insertAtIndex s.clients newSensor s.clients.length
      openSds := insert sd s.openSds
      accepted := s.accepted + 1 }.record s.accepted (.accepted sd)).scanFrom 0)
  else none

/-- One iteration of the scan, for the element at index `i`. -/
def Listen.visit (cfg : ListenConfig V) (s : Listen V) (i : ℕ) (v : Visit V) :
    Option (Listen V) := do
  let client ← elementAtIndex s.clients i
  if client.info.sd ∈ s.readFds then
    match connmgrRead cfg.abi client.info.socket v.garbage v.answer with
    | .closed =>
        let closing := tcpClose client.info.socket v.shutdownOk s.openSds
        if closing.result ≠ .noError then none
        else
          return ({ s with
            clients := removeAtIndex s.clients i
            openSds := closing.openSds }.record client.conn
              (.removed false v.now [.connectionClosed client.info.id])).scanFrom (i + 1)
    | .measured m =>
        return ({ s with
          clients := s.clients.set i { client with info := client.info.measured m } }.record
            client.conn (.received m v.now (client.info.announced m))).scanFrom (i + 1)
    | .nothing => return s.scanFrom (i + 1)
  else if cfg.timeout ≤ v.now - client.info.ts ∧ client.info.ts ≠ 0 then
    -- the result of `tcp_close` is not looked at here, and nothing is logged
    return ({ s with
      readFds := s.readFds.erase client.info.sd
      clients := removeAtIndex s.clients i
      openSds := (tcpClose client.info.socket v.shutdownOk s.openSds).openSds }.record client.conn
        (.removed true v.now [])).scanFrom (i + 1)
  else
    return s.scanFrom (i + 1)

/-- `element_free_connmgr` frees the entry of a client; it leaves the socket of the client alone. -/
def elementFreeConnmgr (openSds : Finset ℤ) (_client : Client) : Finset ℤ := openSds

/-- Closing the server socket and freeing the list. -/
def Listen.leave (cfg : ListenConfig V) (s : Listen V) (shutdownOk : Bool) : Option (Listen V) :=
  let closing := tcpClose (some cfg.serverSocket) shutdownOk s.openSds
  if closing.result ≠ .noError then none
  else
    some { s with
      pc := .returned
      clients := []
      openSds := s.clients.foldl elementFreeConnmgr closing.openSds }

/-- One step of `connmgr_listen`. -/
def Listen.step (cfg : ListenConfig V) (s : Listen V) (l : ListenStep V) : Option (Listen V) :=
  match s.pc, l with
  | .select, .select ready => s.select cfg ready
  | .accept, .accept sd => s.accept sd
  | .scan i, .visit v => s.visit cfg i v
  | .leave, .leave shutdownOk => s.leave cfg shutdownOk
  | _, _ => none

/-- The state at the start of the first round. -/
def Listen.initial (cfg : ListenConfig V) : Listen V := ⟨.select, [], ∅, {cfg.listener}, 0, []⟩

/-- All runs of `connmgr_listen`. -/
def listenSystem (cfg : ListenConfig V) : StepSystem (Listen V) (ListenStep V) where
  init := .initial cfg
  step := Listen.step cfg

/-! ## What came of a run -/

/-- The measurements an event of a connection inserts in the buffer. -/
def ConnEvent.inserted : ConnEvent V → List (SensorData V)
  | .received m _ _ => [m]
  | .accepted _ | .removed .. => []

/-- The log events of an event of a connection. -/
def ConnEvent.logged : ConnEvent V → List (LogEvent V)
  | .received _ _ logged | .removed _ _ logged => logged
  | .accepted _ => []

/-- The measurements that were inserted in the buffer, in order. -/
def Listen.inserted (s : Listen V) : List (SensorData V) :=
  s.trace.flatMap fun e => e.2.inserted

/-- The log events of the clients, in order. -/
def Listen.logged (s : Listen V) : List (LogEvent V) :=
  s.trace.flatMap fun e => e.2.logged

/-- The history of a connection. -/
def Listen.history (s : Listen V) (conn : ℕ) : List (ConnEvent V) :=
  historyOf s.trace conn

/-- The element that the scan is about to handle. -/
def Listen.current (s : Listen V) : Option Client :=
  match s.pc with
  | .scan i => s.clients[i]?
  | .select | .accept | .leave | .returned => none

end SensorGateway
