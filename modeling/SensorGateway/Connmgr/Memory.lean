import SensorGateway.Connmgr.Clients
import SensorGateway.Connmgr.Sockets
import SensorGateway.Dplist.Ownership

set_option autoImplicit false

/-! # The connection manager and its pointers

`connmgr_listen` with the memory that it works on: `client_list` is a list of pointers to the blocks of
the clients, each with a pointer to a socket, and a measurement is received in a block of its own. What
`malloc` returns is chosen by the environment, but it is not live. An operation is `none` where the
source goes through `NULL` or a block that is not live, frees one that is not, or ends the process.

`Listen` is about the sequence of the clients instead. Each step here does to the memory what its
counterpart there does to the sequence (`connmgr_memory_refines`), and the memory holds nothing but the
clients and their sockets; but the sockets of the clients that are in the list when the function
returns stay behind (`connmgr_leaves_sockets`). -/

namespace SensorGateway

variable {V : Type}

/-- `sensor_info_t`. -/
structure SensorInfoMem where
  socket : Ptr
  ts : Int64
  sd : ℤ
  id : UInt16
deriving DecidableEq, Repr

/-- The state of `connmgr_listen` with its memory: `client_list`, the blocks of the clients and of the
    measurements, the sockets, and the list nodes that `dpl_free` leaves. -/
structure ListenMemory (V : Type) where
  pc : ListenPc
  clientList : Option (Dplist Addr)
  infos : Heap SensorInfoMem
  measurements : Heap (SensorData V)
  world : TcpWorld
  serverSocket : Ptr
  readFds : Finset ℤ
  leftNodes : Heap (DplNode Addr)
  inserted : List (SensorData V)
  logged : List (LogEvent V)

/-! ## The steps -/

namespace ListenMemory

/-- From the start of the function to the first round, with the descriptor of the listener. `copies k` is
    what `malloc` returns in call number `k` of `element_copy_connmgr`. -/
def start (copies : ℕ → Addr) (port : ℤ) (env : PassiveOpenEnv) :
    Option (ListenMemory V × ℤ) := do
  let clientList := dplCreate (fun k _ => copies k) fun _ _ => 0
  let opening ← (⟨∅, ∅, ∅⟩ : TcpWorld).tcpPassiveOpen none port env
  if opening.result ≠ .noError then none
  else
    let (result, sd) ← opening.world.tcpGetSd opening.sock
    if result ≠ .noError then none
    else
      let listener ← sd
      return (⟨.select, some clientList, ∅, ∅, opening.world, opening.sock, ∅, ∅, [], []⟩, listener)

/-- The body of the loop that adds the client sockets to the set. -/
def fdSetBody (s : ListenMemory V) (list : Dplist Addr) (x : FdScan) :
    Option (LoopStep FdScan (Finset ℤ × ℤ)) := do
  let size ← dplSize list
  if (x.i : ℤ) < size then
    let thisClient ← dplGetElementAtIndex list x.i
    let client ← s.infos.load thisClient
    return .next ⟨x.i + 1, if 0 < client.sd then insert client.sd x.fds else x.fds,
      if x.fdmax < client.sd then client.sd else x.fdmax⟩
  else
    return .exit (x.fds, x.fdmax)

/-- The test of the loop over `client_list`. -/
def scanFrom (s : ListenMemory V) (i : ℕ) : Option (ListenMemory V) := do
  let list ← s.clientList
  let size ← dplSize list
  return { s with pc := if (i : ℤ) < size then .scan i else .select }

/-- From the start of a round to the accepting of connections, or to the scan. -/
def select (cfg : ListenConfig V) (s : ListenMemory V) (ready : ℤ → Bool) :
    Option (ListenMemory V) := do
  let list ← s.clientList
  let size ← dplSize list
  let (fds, fdmax) ← loop (s.fdSetBody list) (size.toNat + 1) ⟨0, {cfg.listener}, cfg.listener⟩
  let readFds := selectFds fds fdmax ready
  if readFds = ∅ then return { s with readFds, pc := .leave }
  else if cfg.listener ∈ readFds then return { s with readFds, pc := .accept }
  else scanFrom { s with readFds } 0

/-- Accepting a connection. `newSensor` is where the variable `new_sensor` is, and `node` the block for
    the node of the list. -/
def accept (s : ListenMemory V) (env : AcceptEnv) (newSensor node : Addr) :
    Option (ListenMemory V) := do
  let accepting ← s.world.tcpWaitForConnection s.serverSocket none env
  if accepting.result ≠ .noError then none
  else
    let (_, newSd) ← accepting.world.tcpGetSd accepting.sock
    let sd ← newSd
    let infos : Heap SensorInfoMem := s.infos.insert newSensor ⟨accepting.sock, 0, sd, 0⟩
    let list ← s.clientList
    let size ← dplSize list
    -- `element_copy_connmgr`
    let element ← infos.load (some newSensor)
    let infos : Heap SensorInfoMem :=
      infos.insert (list.elementCopy list.copied.length newSensor) element
    let list ← dplInsertAtIndex list newSensor size true (some node)
    let infos ← infos.free (some newSensor)
    scanFrom { s with clientList := some list, infos, world := accepting.world } 0

/-- What `tcp_receive` reads of a socket. -/
def socketAt (w : TcpWorld) (socket : Ptr) : Option (Option TcpSock) :=
  match socket with
  | none => some none
  | some a => (w.socks.lookup a).map fun t => some ⟨t.cookie, t.sd⟩

/-- `tcp_close(&this_client->socket)`. -/
def closeClient (s : ListenMemory V) (thisClient : Ptr) (shutdownOk : Bool) :
    Option (TcpResult × ListenMemory V) := do
  let client ← s.infos.load thisClient
  let closing ← s.world.tcpClose client.socket shutdownOk
  let infos ← s.infos.modify thisClient fun client => { client with socket := closing.sock }
  return (closing.result, { s with infos, world := closing.world })

/-- `element_free_connmgr` for the elements that were passed to it. -/
def freeClients (infos : Heap SensorInfoMem) (freed : List Addr) : Option (Heap SensorInfoMem) :=
  freed.foldlM (fun infos a => Heap.free infos (some a)) infos

/-- `dpl_remove_at_index(client_list, i, true)`. -/
def removeClient (s : ListenMemory V) (i : ℤ) : Option (ListenMemory V) := do
  let list ← s.clientList
  let removed ← dplRemoveAtIndex list i true
  let infos ← freeClients s.infos (removed.freed.drop list.freed.length)
  return { s with clientList := some removed, infos }

/-- What an iteration of the scan does with the client that `thisClient` points to, and with the block
    of the measurement. -/
def serve (cfg : ListenConfig V) (s : ListenMemory V) (i : ℕ) (thisClient : Ptr)
    (client : SensorInfoMem) (v : Visit V) (block : Addr) : Option (ListenMemory V) :=
  if client.sd ∈ s.readFds then do
    let socket ← socketAt s.world client.socket
    match connmgrRead cfg.abi socket v.garbage v.answer with
    | .closed =>
        let s : ListenMemory V := { s with
          logged := s.logged ++ [LogEvent.connectionClosed client.id] }
        let (result, s) ← s.closeClient thisClient v.shutdownOk
        if result ≠ .noError then none else s.removeClient i
    | .measured m =>
        let measurements ← s.measurements.modify (some block) fun _ => m
        let infos ← s.infos.modify thisClient fun client =>
          { client with id := if client.ts = 0 then m.id else client.id, ts := m.ts }
        let measurement ← measurements.load (some block)
        return { s with
          infos
          measurements
          inserted := s.inserted ++ [measurement]
          logged := s.logged ++ if client.ts = 0 then [.connectionOpened m.id] else [] }
    | .nothing => return s
  else if cfg.timeout ≤ v.now - client.ts ∧ client.ts ≠ 0 then do
    let s : ListenMemory V := { s with readFds := s.readFds.erase client.sd }
    let (_, s) ← s.closeClient thisClient v.shutdownOk
    s.removeClient i
  else
    some s

/-- One iteration of the scan; `block` is what `malloc` returns for the measurement. -/
def visit (cfg : ListenConfig V) (s : ListenMemory V) (i : ℕ) (v : Visit V) (block : Addr) :
    Option (ListenMemory V) := do
  let list ← s.clientList
  let thisClient ← dplGetElementAtIndex list i
  let s := { s with measurements := s.measurements.insert block v.garbage }
  let client ← s.infos.load thisClient
  let s ← s.serve cfg i thisClient client v block
  let measurements ← s.measurements.free (some block)
  scanFrom { s with measurements } (i + 1)

/-- Closing the server socket and freeing the list. -/
def leave (s : ListenMemory V) (shutdownOk : Bool) : Option (ListenMemory V) := do
  let closing ← s.world.tcpClose s.serverSocket shutdownOk
  if closing.result ≠ .noError then none
  else
    let list ← s.clientList
    let (leftNodes, freed) ← dplFree list true
    let infos ← freeClients s.infos (freed.drop list.freed.length)
    return { s with
      pc := .returned
      clientList := none
      infos
      world := closing.world
      serverSocket := closing.sock
      leftNodes }

end ListenMemory

/-- A step, with what the environment decides in it. -/
inductive ListenCall (V : Type) where
  | select (ready : ℤ → Bool)
  | accept (env : AcceptEnv) (newSensor node : Addr)
  | visit (v : Visit V) (block : Addr)
  | leave (shutdownOk : Bool)

/-- `malloc` returns no block that is live, and accepting a connection succeeds (the process ends
    otherwise) with a descriptor that is not open. -/
def ListenCall.possible (s : ListenMemory V) : ListenCall V → Bool
  | .accept env newSensor node =>
      match env.block, env.ipBlock, s.clientList with
      | some a, some p, some list =>
          let copy := list.elementCopy list.copied.length newSensor
          a ∉ s.world.socks ∧ p ∉ s.world.strings ∧ (0 ≤ env.sd ∧ env.sd ∉ s.world.openSds) ∧
            newSensor ∉ s.infos ∧ copy ∉ s.infos ∧ copy ≠ newSensor ∧ node ∉ list.heap
      | _, _, _ => false
  | .visit _ block => block ∉ s.measurements
  | .select _ | .leave _ => true

/-- Execute a step. -/
def ListenMemory.call (cfg : ListenConfig V) (s : ListenMemory V) (l : ListenCall V) :
    Option (ListenMemory V) :=
  match s.pc, l with
  | .select, .select ready => s.select cfg ready
  | .accept, .accept env newSensor node => s.accept env newSensor node
  | .scan i, .visit v block => s.visit cfg i v block
  | .leave, .leave shutdownOk => s.leave shutdownOk
  | _, _ => none

/-- The state before the first round, the struct of the listening socket being in block `server`. -/
def ListenMemory.initial (cfg : ListenConfig V) (copies : ℕ → Addr) (server : Addr) (port : ℤ) :
    ListenMemory V where
  pc := .select
  clientList := some (dplCreate (fun k _ => copies k) fun _ _ => 0)
  infos := ∅
  measurements := ∅
  world := ⟨(∅ : Heap TcpSockMem).insert server ⟨magicCookie, cfg.listener, none, port⟩, ∅,
    {cfg.listener}⟩
  serverSocket := some server
  readFds := ∅
  leftNodes := ∅
  inserted := []
  logged := []

/-- All runs of `connmgr_listen` with its memory. -/
def listenMemorySystem (cfg : ListenConfig V) (copies : ℕ → Addr) (server : Addr) (port : ℤ) :
    StepSystem (ListenMemory V) (ListenCall V) where
  init := .initial cfg copies server port
  step s l := if l.possible s = true then s.call cfg l else none

/-- The step of `Listen` that a step is. -/
def ListenCall.onClients : ListenCall V → ListenStep V
  | .select ready => .select ready
  | .accept env _ _ => .accept env.sd
  | .visit v _ => .visit v
  | .leave shutdownOk => .leave shutdownOk

/-- The function gets to its first round if the listening socket can be opened. -/
theorem ListenMemory.start_eq (cfg : ListenConfig V) (copies : ℕ → Addr) {server : Addr} {port : ℤ}
    (hport : minPort ≤ port ∧ port ≤ maxPort) :
    ListenMemory.start copies port ⟨some server, cfg.listener, true, true⟩ =
      some (.initial cfg copies server port, cfg.listener) := by
  have hport' : ¬ (port < minPort ∨ maxPort < port) := by omega
  have hsd : ¬ cfg.listener < 0 := not_lt.2 cfg.listener_nonneg
  have hblock : ∀ a, some server = some a → a ∉ (∅ : Heap TcpSockMem) := fun a _ =>
    Finmap.notMem_empty
  unfold ListenMemory.start
  rw [TcpWorld.tcpPassiveOpen_eq hblock]
  simp only [PassiveOpenEnv.attempt, if_neg hport', if_neg hsd, Bool.true_eq_false, or_self,
    if_false, Attempt.outcome, Option.bind_eq_bind, Option.bind_some, ne_eq, not_true_eq_false,
    TcpWorld.tcpGetSd, TcpWorld.getField, reduceCtorEq, Heap.load_some, Finmap.lookup_insert]
  rfl

/-! ## The memory holds the clients -/

/-- A client with what belongs to it: the node of the list, its entry, its socket and the string with
    the address of its peer. -/
structure OwnedClient where
  client : Client
  node : Addr
  info : Addr
  sock : Addr
  ip : Addr
  port : ℤ
  text : String

/-- The node of the list, with its element. -/
def OwnedClient.cell (o : OwnedClient) : Addr × Addr := (o.node, o.info)

/-- The entry. -/
def OwnedClient.infoMem (o : OwnedClient) : SensorInfoMem :=
  ⟨some o.sock, o.client.info.ts, o.client.info.sd, o.client.info.id⟩

/-- The socket. -/
def OwnedClient.sockMem (o : OwnedClient) : TcpSockMem :=
  ⟨magicCookie, o.client.info.sd, some o.ip, o.port⟩

/-- The client after it delivered `m`. -/
def OwnedClient.measured (o : OwnedClient) (m : SensorData V) : OwnedClient :=
  { o with client := { o.client with info := o.client.info.measured m } }

/-- The world when the client is closed. -/
def OwnedClient.close (o : OwnedClient) (w : TcpWorld) (shutdownOk : Bool) : TcpWorld :=
  ⟨w.socks.erase o.sock, w.strings.erase o.ip,
    if shutdownOk = true then w.openSds.erase o.client.info.sd else w.openSds⟩

/-- The list, the entries, the sockets and the strings are those of the clients and of the listening
    socket in block `server`, and nothing else is live. -/
structure ClientMemory (server : Addr) (listening : TcpSockMem) (clientList : Option (Dplist Addr))
    (infos : Heap SensorInfoMem) (world : TcpWorld) (list : Dplist Addr) (own : List OwnedClient) :
    Prop where
  list_eq : clientList = some list
  wellFormed : list.WellFormed (own.map OwnedClient.cell)
  infos : Blocks infos (own.map OwnedClient.info) (own.map OwnedClient.infoMem)
  socks : Blocks world.socks (server :: own.map OwnedClient.sock)
    (listening :: own.map OwnedClient.sockMem)
  strings : Blocks world.strings (own.map OwnedClient.ip) (own.map OwnedClient.text)

namespace ClientMemory

variable {server : Addr} {listening : TcpSockMem} {s : ListenMemory V} {list : Dplist Addr}
  {own : List OwnedClient} {i : ℕ} {o : OwnedClient}

theorem size_eq (h : ClientMemory server listening s.clientList s.infos s.world list own) :
    dplSize list = some (own.length : ℤ) := by
  rw [h.wellFormed.size_eq, List.length_map]

theorem element_eq (h : ClientMemory server listening s.clientList s.infos s.world list own)
    (ho : own[i]? = some o) : dplGetElementAtIndex list i = some (some o.info) := by
  obtain ⟨hi, rfl⟩ := List.getElem?_eq_some_iff.1 ho
  have hi' : i < (own.map OwnedClient.cell).length := by rwa [List.length_map]
  rw [h.wellFormed.elementAtIndex_eq, clampIndex_of_lt hi', List.getElem?_map, ho]
  rfl

theorem info_eq (h : ClientMemory server listening s.clientList s.infos s.world list own)
    (ho : own[i]? = some o) : s.infos.lookup o.info = some o.infoMem := by
  rw [h.infos.lookup (k := i) (by simp [ho])]
  simp [ho]

theorem sock_eq (h : ClientMemory server listening s.clientList s.infos s.world list own)
    (ho : own[i]? = some o) : s.world.socks.lookup o.sock = some o.sockMem := by
  rw [h.socks.lookup (k := i + 1) (by simp [ho])]
  simp [ho]

/-- `tcp_close` frees the socket of a client and its string. -/
theorem closeClient_eq (h : ClientMemory server listening s.clientList s.infos s.world list own)
    (ho : own[i]? = some o) (hsd : 0 ≤ o.client.info.sd) (shutdownOk : Bool) :
    s.closeClient (some o.info) shutdownOk = some (.noError, { s with
      infos := s.infos.insert o.info { o.infoMem with socket := none }
      world := o.close s.world shutdownOk }) := by
  have hip : ∀ p, o.sockMem.ipAddr = some p → p ∈ s.world.strings := by
    intro p hp
    obtain rfl := Option.some.inj hp
    exact h.strings.mem_iff.2 (List.mem_map_of_mem (List.mem_of_getElem? ho))
  have hclosing := TcpWorld.tcpClose_eq (h.sock_eq ho) rfl hsd hip shutdownOk
  have hsocket : o.infoMem.socket = some o.sock := rfl
  simp only [ListenMemory.closeClient, Heap.load_some, h.info_eq ho, Option.bind_eq_bind,
    Option.bind_some, hsocket, hclosing, Heap.modify_some (h.info_eq ho)]
  rfl

/-- A client whose connection was closed leaves the list, with everything that belongs to it. -/
theorem removeClient (h : ClientMemory server listening s.clientList s.infos s.world list own)
    (ho : own[i]? = some o) (shutdownOk : Bool) :
    ∃ list', ({ s with
        infos := s.infos.insert o.info { o.infoMem with socket := none }
        world := o.close s.world shutdownOk } : ListenMemory V).removeClient i = some { s with
          clientList := some list'
          infos := s.infos.erase o.info
          world := o.close s.world shutdownOk } ∧
      ClientMemory server listening (some list') (s.infos.erase o.info)
        (o.close s.world shutdownOk) list' (own.eraseIdx i) := by
  obtain ⟨hi, rfl⟩ := List.getElem?_eq_some_iff.1 ho
  have hi' : i < (own.map OwnedClient.cell).length := by rwa [List.length_map]
  obtain ⟨head, heap, freed, hremove, hwf, hfreed⟩ := h.wellFormed.removeAtIndex i true
  rw [clampIndex_of_lt hi'] at hwf hfreed
  have hdrop : freed.drop list.freed.length = [own[i].info] := by
    rw [hfreed, if_pos rfl, List.drop_left, List.getElem?_map, ho]
    rfl
  refine ⟨{ list with head, heap, freed }, ?_, rfl, ?_, ?_, ?_, ?_⟩
  · simp only [ListenMemory.removeClient, h.list_eq, Option.bind_eq_bind, Option.bind_some, hremove,
      hdrop, ListenMemory.freeClients, List.foldlM_cons, List.foldlM_nil, free_written]
    rfl
  · rwa [← List.eraseIdx_map]
  · rw [← List.eraseIdx_map, ← List.eraseIdx_map]
    exact h.infos.eraseIdx (by simp [hi])
  · rw [← List.eraseIdx_map, ← List.eraseIdx_map]
    exact h.socks.eraseIdx (k := i + 1) (by simp [hi])
  · rw [← List.eraseIdx_map, ← List.eraseIdx_map]
    exact h.strings.eraseIdx (by simp [hi])

end ClientMemory

/-- While the function runs, the memory holds what the state of `Listen` is about. -/
structure ListenMemory.Represents (cfg : ListenConfig V) (server : Addr) (port : ℤ)
    (s : ListenMemory V) (t : Listen V) (list : Dplist Addr) (own : List OwnedClient) : Prop where
  memory : ClientMemory server ⟨magicCookie, cfg.listener, none, port⟩ s.clientList s.infos s.world
    list own
  clients_eq : own.map OwnedClient.client = t.clients
  pc_eq : s.pc = t.pc
  measurements_eq : s.measurements = ∅
  server_eq : s.serverSocket = some server
  readFds_eq : s.readFds = t.readFds
  openSds_eq : s.world.openSds = t.openSds
  inserted_eq : s.inserted = t.inserted
  logged_eq : s.logged = t.logged

section Steps

variable {cfg : ListenConfig V} {server : Addr} {port : ℤ} {s : ListenMemory V} {t : Listen V}
  {list : Dplist Addr} {own : List OwnedClient} {i : ℕ} {o : OwnedClient}

namespace ListenMemory.Represents

theorem length_eq (h : s.Represents cfg server port t list own) :
    own.length = t.clients.length := by
  rw [← h.clients_eq, List.length_map]

theorem client_eq (h : s.Represents cfg server port t list own) (ho : own[i]? = some o) :
    elementAtIndex t.clients i = some o.client := by
  obtain ⟨hi, rfl⟩ := List.getElem?_eq_some_iff.1 ho
  have hi' : i < (own.map OwnedClient.client).length := by rwa [List.length_map]
  rw [← h.clients_eq, elementAtIndex_of_lt hi', List.getElem_map]

theorem scanFrom (h : s.Represents cfg server port t list own) (i : ℕ) :
    ∃ s', s.scanFrom i = some s' ∧ s'.Represents cfg server port (t.scanFrom i) list own := by
  refine ⟨{ s with pc := if (i : ℤ) < (own.length : ℤ) then .scan i else .select }, ?_, h.memory,
    h.clients_eq, ?_, h.measurements_eq, h.server_eq, h.readFds_eq, h.openSds_eq, h.inserted_eq,
    h.logged_eq⟩
  · simp only [ListenMemory.scanFrom, h.memory.list_eq, h.memory.size_eq, Option.bind_eq_bind,
      Option.bind_some]
    rfl
  · simp only [Listen.scanFrom, Int.ofNat_lt, h.length_eq]

/-- The set for `select` is built from the clients. -/
theorem fdSetBody_eq (h : s.Represents cfg server port t list own) :
    s.fdSetBody list = SensorGateway.fdSetBody t.clients := by
  funext x
  unfold ListenMemory.fdSetBody SensorGateway.fdSetBody
  simp only [h.memory.size_eq, Option.bind_eq_bind, Option.bind_some, Int.ofNat_lt, ← h.length_eq]
  by_cases hi : x.i < own.length
  · have ho := List.getElem?_eq_getElem hi
    rw [if_pos hi, if_pos hi, h.memory.element_eq ho, h.client_eq ho]
    simp only [Option.bind_some, Heap.load_some, h.memory.info_eq ho]
    rfl
  · rw [if_neg hi, if_neg hi]
    rfl

theorem select (h : s.Represents cfg server port t list own) (ready : ℤ → Bool) :
    ∃ s' t', s.select cfg ready = some s' ∧ t.select cfg ready = some t' ∧
      s'.Represents cfg server port t' list own := by
  obtain ⟨⟨fds, fdmax⟩, hargs, -⟩ := selectArguments_spec cfg.listener t.clients
  have hloop : loop (s.fdSetBody list) (own.length + 1) ⟨0, {cfg.listener}, cfg.listener⟩
      = some (fds, fdmax) := by
    rw [h.fdSetBody_eq, h.length_eq]
    exact hargs
  unfold ListenMemory.select Listen.select
  simp only [h.memory.list_eq, h.memory.size_eq, Option.bind_eq_bind, Option.bind_some,
    Int.toNat_natCast, hloop, hargs]
  rw [← h.memory.list_eq]
  -- with the set that `select` leaves, both are in the same state
  have hset : ∀ pc, ({ s with readFds := selectFds fds fdmax ready, pc } : ListenMemory V).Represents
      cfg server port { t with readFds := selectFds fds fdmax ready, pc } list own :=
    fun pc => ⟨h.memory, h.clients_eq, rfl, h.measurements_eq, h.server_eq, rfl, h.openSds_eq,
      h.inserted_eq, h.logged_eq⟩
  by_cases hempty : selectFds fds fdmax ready = ∅
  · rw [if_pos hempty, if_pos hempty]
    exact ⟨_, _, rfl, rfl, hset .leave⟩
  rw [if_neg hempty, if_neg hempty]
  by_cases hlistener : cfg.listener ∈ selectFds fds fdmax ready
  · rw [if_pos hlistener, if_pos hlistener]
    exact ⟨_, _, rfl, rfl, hset .accept⟩
  · rw [if_neg hlistener, if_neg hlistener]
    obtain ⟨s', hs', hrep⟩ := (hset t.pc).scanFrom 0
    rw [← h.pc_eq] at hs'
    exact ⟨s', _, hs', rfl, hrep⟩

/-- **Accepting** puts the new client, with all that belongs to it, at the end of the list; the
    variable `new_sensor` is gone. -/
theorem accept (h : s.Represents cfg server port t list own) {env : AcceptEnv}
    {newSensor node : Addr}
    (hpossible : (ListenCall.accept env newSensor node : ListenCall V).possible s = true) :
    ∃ s' t' list' own', s.accept env newSensor node = some s' ∧ t.accept env.sd = some t' ∧
      s'.Represents cfg server port t' list' own' := by
  unfold ListenCall.possible at hpossible
  rw [h.memory.list_eq] at hpossible
  cases ha : env.block with
  | none => simp [ha] at hpossible
  | some a =>
  cases hp : env.ipBlock with
  | none => simp [ha, hp] at hpossible
  | some p =>
  simp only [ha, hp, decide_eq_true_eq] at hpossible
  obtain ⟨hsock, hstring, hsd, hnew, hcopy, hne, hnode⟩ := hpossible
  obtain ⟨copy, hcopyEq⟩ : ∃ copy, copy = list.elementCopy list.copied.length newSensor := ⟨_, rfl⟩
  rw [← hcopyEq] at hcopy hne
  obtain ⟨o, ho⟩ : ∃ o : OwnedClient, o =
    ⟨⟨newSensorInfo env.sd, t.accepted⟩, node, copy, a, p, env.port.toNat, env.ip⟩ := ⟨_, rfl⟩
  obtain ⟨world, hworld⟩ : ∃ world : TcpWorld, world =
    ⟨s.world.socks.insert a o.sockMem, s.world.strings.insert p env.ip,
      insert env.sd s.world.openSds⟩ := ⟨_, rfl⟩
  have hserver : ∀ b, s.serverSocket = some b →
      ∃ u, s.world.socks.lookup b = some u ∧ u.cookie = magicCookie := by
    intro b hb
    obtain rfl := Option.some.inj (h.server_eq.symm.trans hb)
    exact ⟨_, h.memory.socks.lookup (k := 0) rfl, rfl⟩
  have haccepting : s.world.tcpWaitForConnection s.serverSocket none env =
      some ⟨.noError, some a, world⟩ := by
    have hattempt : env.attempt true = .opened a o.sockMem (some (p, env.ip)) := by
      simp [AcceptEnv.attempt, ha, hp, ho, show env.sd ≠ -1 by omega, OwnedClient.sockMem,
        newSensorInfo]
    rw [TcpWorld.tcpWaitForConnection_eq (fun b hb => by
      obtain rfl := Option.some.inj (ha.symm.trans hb)
      exact hsock) hserver, h.server_eq, Option.isSome_some, hattempt, hworld, ho]
    rfl
  have hgetSd : world.tcpGetSd (some a) = some (.noError, some env.sd) := by
    rw [hworld, ho]
    simp [TcpWorld.tcpGetSd, TcpWorld.getField, OwnedClient.sockMem, newSensorInfo]
  obtain ⟨head, heap, hinsert, hwf⟩ := h.memory.wellFormed.insertAtIndex hnode newSensor
    (own.length : ℤ) true
  have hnewElement : (list.newElement newSensor true).1 = copy := hcopyEq.symm
  rw [List.length_map, clampIndex_of_le (Nat.le_refl _), hnewElement, ← List.length_map
    OwnedClient.cell, List.insertIdx_length_self] at hwf
  -- allocated first and freed last, the variable leaves the block of the copy only
  have hfree : Heap.free (Finmap.insert copy o.infoMem (Finmap.insert newSensor o.infoMem s.infos))
      (some newSensor) = some (s.infos.insert copy o.infoMem) := by
    rw [Finmap.insert_insert_of_ne _ hne.symm]
    exact free_insert (fun hmem => (Finmap.mem_insert.1 hmem).elim (fun he => hne he.symm) hnew) _
  obtain ⟨list', hlist'⟩ : ∃ list' : Dplist Addr, list' =
    { (list.newElement newSensor true).2 with head, heap } := ⟨_, rfl⟩
  rw [← hlist'] at hinsert hwf
  have hrep : ({ s with
      clientList := some list'
      infos := s.infos.insert copy o.infoMem
      world } : ListenMemory V).Represents cfg server port ({ t with
        clients := t.clients ++ [o.client]
        openSds := insert env.sd t.openSds
        accepted := t.accepted + 1 }.record t.accepted (.accepted env.sd)) list' (own ++ [o]) := by
    refine ⟨⟨rfl, ?_, ?_, ?_, ?_⟩, ?_, h.pc_eq, h.measurements_eq, h.server_eq, h.readFds_eq, ?_,
      ?_, ?_⟩
    · simpa [OwnedClient.cell, ho] using hwf
    · have hblocks := h.memory.infos.concat hcopy o.infoMem
      simpa [ho] using hblocks
    · have hblocks := h.memory.socks.concat hsock o.sockMem
      simpa [ho, hworld] using hblocks
    · have hblocks := h.memory.strings.concat hstring env.ip
      simpa [ho, hworld] using hblocks
    · rw [List.map_append, h.clients_eq]
      rfl
    · rw [hworld, ← h.openSds_eq]
      rfl
    · calc s.inserted = t.inserted := h.inserted_eq
        _ = t.inserted ++ (ConnEvent.accepted env.sd).inserted := (List.append_nil _).symm
        _ = _ := (inserted_record rfl).symm
    · calc s.logged = t.logged := h.logged_eq
        _ = t.logged ++ (ConnEvent.accepted env.sd).logged := (List.append_nil _).symm
        _ = _ := (logged_record rfl).symm
  obtain ⟨s', hs', hrep'⟩ := hrep.scanFrom 0
  have hclient : Client.mk (newSensorInfo env.sd) t.accepted = o.client := by rw [ho]
  refine ⟨s', _, list', own ++ [o], ?_, ?_, hrep'⟩
  · have hinfo : (⟨some a, 0, env.sd, 0⟩ : SensorInfoMem) = o.infoMem := by rw [ho]; rfl
    unfold ListenMemory.accept
    simp only [haccepting, Option.bind_eq_bind, Option.bind_some, ne_eq, not_true_eq_false, if_false,
      hgetSd, hinfo, h.memory.list_eq, h.memory.size_eq, Heap.load_some, Finmap.lookup_insert,
      ← hcopyEq, hinsert, hfree]
    exact hs'
  · rw [Listen.accept, if_pos (h.openSds_eq ▸ hsd)]
    dsimp only
    rw [insertAtIndex_length, hclient]

/-- The client at index `i` is gone, and what is logged about it. -/
theorem removed (h : s.Represents cfg server port t list own) (ho : own[i]? = some o) (v : Visit V)
    (timedOut : Bool) (logged : List (LogEvent V)) (readFds : Finset ℤ) {list' : Dplist Addr}
    (hmemory : ClientMemory server ⟨magicCookie, cfg.listener, none, port⟩ (some list')
      (s.infos.erase o.info) (o.close s.world v.shutdownOk) list' (own.eraseIdx i)) :
    ({ s with
      clientList := some list'
      infos := s.infos.erase o.info
      world := o.close s.world v.shutdownOk
      readFds
      logged := s.logged ++ logged } : ListenMemory V).Represents cfg server port ({ t with
        readFds
        clients := removeAtIndex t.clients i
        openSds := if v.shutdownOk = true then t.openSds.erase o.client.info.sd
          else t.openSds }.record o.client.conn (.removed timedOut v.now logged))
      list' (own.eraseIdx i) := by
  obtain ⟨hi, -⟩ := List.getElem?_eq_some_iff.1 ho
  refine ⟨hmemory, ?_, h.pc_eq, h.measurements_eq, h.server_eq, rfl, ?_, ?_, ?_⟩
  · rw [← List.eraseIdx_map, h.clients_eq, removeAtIndex, clampIndex_of_lt (h.length_eq ▸ hi)]
    rfl
  · rw [OwnedClient.close, h.openSds_eq]
    rfl
  · calc s.inserted = t.inserted := h.inserted_eq
      _ = t.inserted ++ (ConnEvent.removed timedOut v.now logged).inserted :=
        (List.append_nil _).symm
      _ = _ := (inserted_record rfl).symm
  · calc s.logged ++ logged = t.logged ++ (ConnEvent.removed timedOut v.now logged).logged := by
          rw [h.logged_eq]
          rfl
      _ = _ := (logged_record rfl).symm

/-- The client at index `i` delivered `m`. -/
theorem measured (h : s.Represents cfg server port t list own) (ho : own[i]? = some o)
    (m : SensorData V) (now : Int64) :
    ({ s with
      infos := s.infos.insert o.info (o.measured m).infoMem
      inserted := s.inserted ++ [m]
      logged := s.logged ++ o.client.info.announced m } : ListenMemory V).Represents cfg server port
        ({ t with clients := t.clients.set i (o.measured m).client }.record o.client.conn
          (.received m now (o.client.info.announced m))) list (own.set i (o.measured m)) := by
  have hsame : ∀ {β : Type} (f : OwnedClient → β), f (o.measured m) = f o →
      (own.set i (o.measured m)).map f = own.map f := by
    intro β f hf
    obtain ⟨hi, rfl⟩ := List.getElem?_eq_some_iff.1 ho
    rw [List.map_set, hf, ← List.getElem_map f (h := by rwa [List.length_map]),
      List.set_getElem_self]
  refine ⟨⟨h.memory.list_eq, ?_, ?_, ?_, ?_⟩, ?_, h.pc_eq, h.measurements_eq, h.server_eq,
    h.readFds_eq, h.openSds_eq, ?_, ?_⟩
  · rw [hsame OwnedClient.cell rfl]
    exact h.memory.wellFormed
  · rw [hsame OwnedClient.info rfl, List.map_set]
    exact h.memory.infos.set (by simp [ho]) _
  · rw [hsame OwnedClient.sock rfl, hsame OwnedClient.sockMem rfl]
    exact h.memory.socks
  · rw [hsame OwnedClient.ip rfl, hsame OwnedClient.text rfl]
    exact h.memory.strings
  · rw [List.map_set, h.clients_eq]
    rfl
  · calc s.inserted ++ [m]
        = t.inserted ++ (ConnEvent.received m now (o.client.info.announced m)).inserted := by
          rw [h.inserted_eq]
          rfl
      _ = _ := (inserted_record rfl).symm
  · calc s.logged ++ o.client.info.announced m
        = t.logged ++ (ConnEvent.received m now (o.client.info.announced m)).logged := by
          rw [h.logged_eq]
          rfl
      _ = _ := (logged_record rfl).symm

/-- What an iteration does with the client at index `i`, up to the test of the loop. -/
theorem serve (h : s.Represents cfg server port t list own) (hconnected : t.Connected)
    (ho : own[i]? = some o) (v : Visit V) {block : Addr} (hblock : block ∉ s.measurements) :
    ∃ s₁ t₁ list' own',
      ({ s with measurements := s.measurements.insert block v.garbage } : ListenMemory V).serve cfg i
        (some o.info) o.infoMem v block = some s₁ ∧
      s₁.measurements.free (some block) = some s.measurements ∧
      t.visit cfg i v = some (t₁.scanFrom (i + 1)) ∧
      ({ s₁ with measurements := s.measurements } : ListenMemory V).Represents cfg server port t₁
        list' own' := by
  have hmem : o.client ∈ t.clients := by
    rw [← h.clients_eq]
    exact List.mem_map_of_mem (List.mem_of_getElem? ho)
  obtain ⟨hsocket, hsd⟩ := hconnected _ hmem
  have hclosing := tcpClose_accepted hsd v.shutdownOk t.openSds
  have hsocketAt : socketAt s.world o.infoMem.socket = some o.client.info.socket := by
    rw [hsocket]
    simp only [socketAt, OwnedClient.infoMem, h.memory.sock_eq ho]
    rfl
  have hinfoSd : o.infoMem.sd = o.client.info.sd := rfl
  have hinfoTs : o.infoMem.ts = o.client.info.ts := rfl
  have hinfoId : o.infoMem.id = o.client.info.id := rfl
  unfold ListenMemory.serve Listen.visit
  simp only [h.client_eq ho, Option.bind_eq_bind, Option.bind_some, hsocketAt, hinfoSd, hinfoTs,
    hinfoId]
  by_cases hready : o.client.info.sd ∈ s.readFds
  · rw [if_pos hready, if_pos (h.readFds_eq ▸ hready)]
    cases hr : connmgrRead cfg.abi o.client.info.socket v.garbage v.answer with
    | closed =>
        obtain ⟨list', hremove, hmemory⟩ := h.memory.removeClient ho v.shutdownOk (s := { s with
          measurements := s.measurements.insert block v.garbage
          logged := s.logged ++ [LogEvent.connectionClosed o.client.info.id] })
        have hclose := h.memory.closeClient_eq ho hsd v.shutdownOk (s := { s with
          measurements := s.measurements.insert block v.garbage
          logged := s.logged ++ [LogEvent.connectionClosed o.client.info.id] })
        simp only [hclose, Option.bind_some, ne_eq, not_true_eq_false, if_false, hremove, hsocket,
          hclosing]
        rw [← h.readFds_eq]
        exact ⟨_, _, list', own.eraseIdx i, rfl, free_insert hblock _, rfl,
          h.removed ho v false _ _ hmemory⟩
    | measured m =>
        have hmodify : Heap.modify (s.measurements.insert block v.garbage) (some block) (fun _ => m)
            = some (s.measurements.insert block m) := by
          rw [Heap.modify_some (Finmap.lookup_insert _), Finmap.insert_insert]
        simp only [hmodify, Option.bind_some, Heap.modify_some (h.memory.info_eq ho), Heap.load_some,
          Finmap.lookup_insert]
        exact ⟨_, _, list, own.set i (o.measured m), rfl, free_insert hblock _, rfl,
          h.measured ho m v.now⟩
    | nothing => exact ⟨_, t, list, own, rfl, free_insert hblock _, rfl, h⟩
  · have hready' : o.client.info.sd ∉ t.readFds := h.readFds_eq ▸ hready
    rw [if_neg hready, if_neg hready']
    by_cases hexpired : cfg.timeout ≤ v.now - o.client.info.ts ∧ o.client.info.ts ≠ 0
    · rw [if_pos hexpired, if_pos hexpired]
      obtain ⟨list', hremove, hmemory⟩ := h.memory.removeClient ho v.shutdownOk (s := { s with
        measurements := s.measurements.insert block v.garbage
        readFds := s.readFds.erase o.client.info.sd })
      have hclose := h.memory.closeClient_eq ho hsd v.shutdownOk (s := { s with
        measurements := s.measurements.insert block v.garbage
        readFds := s.readFds.erase o.client.info.sd })
      simp only [hclose, Option.bind_some, hremove, hsocket, hclosing]
      have hrep := h.removed ho v true [] (s.readFds.erase o.client.info.sd) hmemory
      rw [List.append_nil] at hrep
      rw [← h.readFds_eq]
      exact ⟨_, _, list', own.eraseIdx i, rfl, free_insert hblock _, rfl, hrep⟩
    · rw [if_neg hexpired, if_neg hexpired]
      exact ⟨_, t, list, own, rfl, free_insert hblock _, rfl, h⟩

/-- **One iteration of the scan**; the block of the measurement is gone. -/
theorem visit (h : s.Represents cfg server port t list own) (hconnected : t.Connected)
    (hi : i < own.length) (v : Visit V) {block : Addr} (hblock : block ∉ s.measurements) :
    ∃ s' t' list' own', s.visit cfg i v block = some s' ∧ t.visit cfg i v = some t' ∧
      s'.Represents cfg server port t' list' own' := by
  have ho := List.getElem?_eq_getElem hi
  obtain ⟨s₁, t₁, list', own', hserve, hfree, hvisit, hrep⟩ := h.serve hconnected ho v hblock
  obtain ⟨s', hs', hrep'⟩ := hrep.scanFrom (i + 1)
  refine ⟨s', _, list', own', ?_, hvisit, hrep'⟩
  unfold ListenMemory.visit
  simp only [h.memory.list_eq, h.memory.element_eq ho, Option.bind_eq_bind, Option.bind_some,
    Heap.load_some, h.memory.info_eq ho]
  rw [← h.memory.list_eq, hserve]
  simp only [Option.bind_some, hfree]
  exact hs'

end ListenMemory.Represents

/-- The entry of a client, read through the pointer in the list. -/
def ListenMemory.infoAt (s : ListenMemory V) (a : Addr) : Option SensorInfo := do
  let info ← s.infos.lookup a
  let socket ← socketAt s.world info.socket
  return ⟨socket, info.ts, info.sd, info.id⟩

/-- The pointers in the list lead to the entries of the clients, in order. -/
theorem ListenMemory.Represents.infoAt_eq (h : s.Represents cfg server port t list own)
    (hconnected : t.Connected) :
    (own.map OwnedClient.info).map s.infoAt = t.clients.map fun c => some c.info := by
  rw [← h.clients_eq, List.map_map, List.map_map]
  refine List.map_congr_left fun o hmem => ?_
  obtain ⟨i, ho⟩ := List.getElem?_of_mem hmem
  obtain ⟨hsocket, -⟩ := hconnected o.client (h.clients_eq ▸ List.mem_map_of_mem hmem)
  have hsocketAt : socketAt s.world o.infoMem.socket = some o.client.info.socket := by
    rw [hsocket]
    simp only [socketAt, OwnedClient.infoMem, h.memory.sock_eq ho]
    rfl
  simp only [Function.comp_apply, ListenMemory.infoAt, h.memory.info_eq ho, Option.bind_eq_bind,
    Option.bind_some, hsocketAt]
  rfl

/-- When the function has returned, the sockets of the clients that were in the list are left, with
    their strings, and nothing else. -/
structure ListenMemory.Leaves (s : ListenMemory V) (t : Listen V) (own : List OwnedClient) :
    Prop where
  list_eq : s.clientList = none
  infos_eq : s.infos = ∅
  leftNodes_eq : s.leftNodes = ∅
  socks : Blocks s.world.socks (own.map OwnedClient.sock) (own.map OwnedClient.sockMem)
  strings : Blocks s.world.strings (own.map OwnedClient.ip) (own.map OwnedClient.text)
  clients_eq : t.clients = []
  pc_eq : s.pc = .returned
  returned : t.pc = .returned
  measurements_eq : s.measurements = ∅
  openSds_eq : s.world.openSds = t.openSds
  inserted_eq : s.inserted = t.inserted
  logged_eq : s.logged = t.logged

theorem foldl_elementFreeConnmgr (clients : List Client) (openSds : Finset ℤ) :
    clients.foldl elementFreeConnmgr openSds = openSds := by
  induction clients with
  | nil => rfl
  | cons c clients ih => exact ih

/-- **The end of the function.** -/
theorem ListenMemory.Represents.leave (h : s.Represents cfg server port t list own)
    (shutdownOk : Bool) :
    ∃ s' t', s.leave shutdownOk = some s' ∧ t.leave cfg shutdownOk = some t' ∧ s'.Leaves t' own := by
  have hserver := h.memory.socks.lookup (k := 0) rfl
  have hclosing := TcpWorld.tcpClose_eq hserver rfl cfg.listener_nonneg (by simp) shutdownOk
  have hclosing' : tcpClose (some cfg.serverSocket) shutdownOk t.openSds = _ :=
    tcpClose_accepted cfg.listener_nonneg shutdownOk t.openSds
  have hinfos : freeClients s.infos ((own.map OwnedClient.cell).map Prod.snd) = some ∅ := by
    rw [List.map_map]
    exact h.memory.infos.freeAll
  unfold ListenMemory.leave Listen.leave
  simp only [h.server_eq, hclosing, hclosing', Option.bind_eq_bind, Option.bind_some, ne_eq,
    not_true_eq_false, if_false, h.memory.list_eq, h.memory.wellFormed.free_eq, List.drop_left, hinfos,
    foldl_elementFreeConnmgr]
  refine ⟨_, _, rfl, rfl, rfl, rfl, rfl, h.memory.socks.eraseIdx (k := 0) rfl, h.memory.strings, rfl,
    rfl, rfl, h.measurements_eq, ?_, h.inserted_eq, h.logged_eq⟩
  rw [h.openSds_eq]

end Steps

/-! ## Runs -/

/-- The place in the function that a step is for. -/
def ListenCall.fits : ListenPc → ListenCall V → Bool
  | .select, .select _ | .accept, .accept .. | .scan _, .visit .. | .leave, .leave _ => true
  | _, _ => false

/-- The memory holds the clients, or what they leave. -/
def ListenMemory.Holds (cfg : ListenConfig V) (server : Addr) (port : ℤ) (s : ListenMemory V)
    (t : Listen V) : Prop :=
  (∃ list own, s.Represents cfg server port t list own) ∨ ∃ own, s.Leaves t own

section Runs

variable {cfg : ListenConfig V} {copies : ℕ → Addr} {server : Addr} {port : ℤ} {s : ListenMemory V}
  {t : Listen V} {l : ListenCall V}

theorem ListenMemory.represents_initial (cfg : ListenConfig V) (copies : ℕ → Addr) (server : Addr)
    (port : ℤ) :
    (ListenMemory.initial cfg copies server port).Represents cfg server port (.initial cfg)
      (dplCreate (fun k _ => copies k) fun _ _ => 0) [] where
  memory := {
    list_eq := rfl
    wellFormed := dplCreate_wellFormed _ _
    infos := blocks_empty
    socks := blocks_empty.concat Finmap.notMem_empty _
    strings := blocks_empty }
  clients_eq := rfl
  pc_eq := rfl
  measurements_eq := rfl
  server_eq := rfl
  readFds_eq := rfl
  openSds_eq := rfl
  inserted_eq := rfl
  logged_eq := rfl

/-- A step for another place is none. -/
theorem ListenMemory.call_of_not_fits (hfits : l.fits s.pc = false) : s.call cfg l = none := by
  unfold ListenMemory.call
  cases hpc : s.pc <;> cases l <;> first
    | rfl
    | exact absurd (hpc ▸ hfits) (by simp [ListenCall.fits])

theorem ListenCall.step_of_not_fits (hfits : l.fits t.pc = false) :
    t.step cfg l.onClients = none := by
  unfold Listen.step
  cases hpc : t.pc <;> cases l <;> first
    | rfl
    | exact absurd (hpc ▸ hfits) (by simp [ListenCall.fits])

theorem ListenMemory.Holds.pc_eq (h : s.Holds cfg server port t) : s.pc = t.pc := by
  rcases h with ⟨list, own, h⟩ | ⟨own, h⟩
  · exact h.pc_eq
  · rw [h.pc_eq, h.returned]

/-- **One step does not fault**, and does to the memory what it does to the clients. -/
theorem ListenMemory.Holds.call (h : s.Holds cfg server port t) (hinv : t.Inv cfg)
    (hl : l.possible s = true) (hfits : l.fits s.pc = true) :
    ∃ s' t', s.call cfg l = some s' ∧ t.step cfg l.onClients = some t' ∧
      s'.Holds cfg server port t' := by
  rcases h with ⟨list, own, h⟩ | ⟨own, h⟩
  · cases hpc : s.pc with
    | select =>
        have hpc' : t.pc = .select := h.pc_eq ▸ hpc
        cases l with
        | select ready =>
            obtain ⟨s', t', hs', ht', hrep⟩ := h.select ready
            exact ⟨s', t', by simp only [ListenMemory.call, hpc, hs'],
              by simp only [Listen.step, hpc', ListenCall.onClients, ht'], Or.inl ⟨list, own, hrep⟩⟩
        | accept | visit | leave => exact absurd (hpc ▸ hfits) (by simp [ListenCall.fits])
    | accept =>
        have hpc' : t.pc = .accept := h.pc_eq ▸ hpc
        cases l with
        | accept env newSensor node =>
            obtain ⟨s', t', list', own', hs', ht', hrep⟩ := h.accept hl
            exact ⟨s', t', by simp only [ListenMemory.call, hpc, hs'],
              by simp only [Listen.step, hpc', ListenCall.onClients, ht'], Or.inl ⟨list', own', hrep⟩⟩
        | select | visit | leave => exact absurd (hpc ▸ hfits) (by simp [ListenCall.fits])
    | scan i =>
        have hpc' : t.pc = .scan i := h.pc_eq ▸ hpc
        cases l with
        | visit v block =>
            have hi : i < own.length := h.length_eq ▸ hinv.scan_lt i hpc'
            obtain ⟨s', t', list', own', hs', ht', hrep⟩ :=
              h.visit hinv.connected hi v (of_decide_eq_true hl)
            exact ⟨s', t', by simp only [ListenMemory.call, hpc, hs'],
              by simp only [Listen.step, hpc', ListenCall.onClients, ht'], Or.inl ⟨list', own', hrep⟩⟩
        | select | accept | leave => exact absurd (hpc ▸ hfits) (by simp [ListenCall.fits])
    | leave =>
        have hpc' : t.pc = .leave := h.pc_eq ▸ hpc
        cases l with
        | leave shutdownOk =>
            obtain ⟨s', t', hs', ht', hleaves⟩ := h.leave shutdownOk
            exact ⟨s', t', by simp only [ListenMemory.call, hpc, hs'],
              by simp only [Listen.step, hpc', ListenCall.onClients, ht'], Or.inr ⟨own, hleaves⟩⟩
        | select | accept | visit => exact absurd (hpc ▸ hfits) (by simp [ListenCall.fits])
    | returned => cases l <;> exact absurd (hpc ▸ hfits) (by simp [ListenCall.fits])
  · cases l <;> exact absurd (h.pc_eq ▸ hfits) (by simp [ListenCall.fits])

/-- Possible steps keep the memory and the clients in lockstep. -/
theorem listenMemory_lockstep (hholds : s.Holds cfg server port t ∧ t.Inv cfg)
    (hl : l.possible s = true) :
    Option.Rel (fun s t => s.Holds cfg server port t ∧ t.Inv cfg)
      ((listenMemorySystem cfg copies server port).step s l)
      ((listenSystem cfg).step t l.onClients) := by
  obtain ⟨h, hinv⟩ := hholds
  have hstep : (listenMemorySystem cfg copies server port).step s l = s.call cfg l := if_pos hl
  rw [hstep]
  cases hfits : l.fits s.pc with
  | false =>
      rw [ListenMemory.call_of_not_fits hfits]
      have hnone : (listenSystem cfg).step t l.onClients = none :=
        ListenCall.step_of_not_fits (h.pc_eq ▸ hfits)
      rw [hnone]
      exact .none
  | true =>
      obtain ⟨s', t', hs', ht', h'⟩ := h.call hinv hl hfits
      have ht : (listenSystem cfg).step t l.onClients = some t' := ht'
      rw [hs', ht]
      exact .some ⟨h', (hinv.step ht').2⟩

theorem listenMemory_lockstep_run {ls : List (ListenCall V)}
    (hpossible : (listenMemorySystem cfg copies server port).AllSteps (fun s l => l.possible s = true)
      (.initial cfg copies server port) ls) :
    Option.Rel (fun s t => s.Holds cfg server port t ∧ t.Inv cfg)
      ((listenMemorySystem cfg copies server port).exec (.initial cfg copies server port) ls)
      ((listenSystem cfg).exec (.initial cfg) (ls.map ListenCall.onClients)) :=
  StepSystem.exec_lockstep (fun _ _ _ => listenMemory_lockstep)
    ⟨Or.inl ⟨_, _, ListenMemory.represents_initial cfg copies server port⟩, listen_inv_initial⟩
    hpossible

theorem listenMemorySystem_possible {s' : ListenMemory V}
    (h : (listenMemorySystem cfg copies server port).step s l = some s') : l.possible s = true := by
  by_contra hl
  simp only [listenMemorySystem, if_neg hl] at h
  exact absurd h (by simp)

/-- After a run, the memory holds the clients. -/
theorem ListenMemory.holds_of_exec {ls : List (ListenCall V)}
    (h : (listenMemorySystem cfg copies server port).exec (.initial cfg copies server port) ls
      = some s) : ∃ t, s.Holds cfg server port t ∧ t.Inv cfg := by
  have hpossible := StepSystem.AllSteps.of_exec (fun s l s' => listenMemorySystem_possible) h
  have hrel := listenMemory_lockstep_run hpossible
  rw [h] at hrel
  obtain ⟨t, -, hholds⟩ := StepSystem.exists_of_some_rel hrel
  exact ⟨t, hholds⟩

end Runs

/-- Two clients are accepted and the first delivers a measurement; then all is silent. The variable
    `new_sensor` is in block 1, the measurements are in block 9, and the entries are at 100. -/
def exampleListenCalls : List (ListenCall (BitVec 64)) :=
  [.select (readySds [3]), .accept ⟨some 21, 4, some 31, "a", 5000⟩ 1 41, .visit (idleVisit 100) 9,
    .select (readySds [3, 4]), .accept ⟨some 22, 5, some 32, "b", 5001⟩ 1 42,
    .visit (recordVisit ⟨15, 20, 101⟩ 101) 9, .visit (idleVisit 101) 9,
    .select (readySds [])]

/-- The memory after these calls. -/
def exampleListenMemory : ListenMemory (BitVec 64) :=
  (listenMemorySystem exampleListen (100 + ·) 20 4000).after exampleListenCalls

theorem exampleListenMemory_exec :
    (listenMemorySystem exampleListen (100 + ·) 20 4000).exec
      (.initial exampleListen (100 + ·) 20 4000) exampleListenCalls = some exampleListenMemory :=
  StepSystem.exec_after (by decide +kernel)

/-- **The pointers hold the clients.** In every run in which `malloc` returns no live block and
    accepting succeeds, the function goes on with its memory exactly if it does on the sequence of
    the clients. It inserts and logs the same, the same descriptors are open, and while it runs the
    pointers in `client_list` are distinct and lead to the entries of the clients in order, and
    through these to their sockets. -/
theorem connmgr_memory_refines (cfg : ListenConfig V) (copies : ℕ → Addr) (server : Addr) (port : ℤ)
    {ls : List (ListenCall V)}
    (hpossible : (listenMemorySystem cfg copies server port).AllSteps (fun s l => l.possible s = true)
      (.initial cfg copies server port) ls) :
    ((listenSystem cfg).exec (.initial cfg) (ls.map ListenCall.onClients) = none →
      (listenMemorySystem cfg copies server port).exec (.initial cfg copies server port) ls = none) ∧
    ∀ t, (listenSystem cfg).exec (.initial cfg) (ls.map ListenCall.onClients) = some t →
      ∃ s, (listenMemorySystem cfg copies server port).exec (.initial cfg copies server port) ls
          = some s ∧
        s.pc = t.pc ∧ s.inserted = t.inserted ∧ s.logged = t.logged ∧ s.world.openSds = t.openSds ∧
        (t.pc ≠ .returned → ∃ list elements, s.clientList = some list ∧
          list.elements = some elements ∧ elements.Nodup ∧
          elements.map s.infoAt = t.clients.map fun c => some c.info) := by
  have hrel := listenMemory_lockstep_run hpossible
  constructor
  · intro ht
    rw [ht] at hrel
    exact StepSystem.eq_none_of_rel hrel
  · intro t ht
    rw [ht] at hrel
    obtain ⟨s, hs, h, hinv⟩ := StepSystem.exists_of_rel_some hrel
    rcases h with ⟨list, own, h⟩ | ⟨own, h⟩
    · refine ⟨s, hs, h.pc_eq, h.inserted_eq, h.logged_eq, h.openSds_eq, fun _ => ?_⟩
      have helements : (own.map OwnedClient.cell).map Prod.snd = own.map OwnedClient.info :=
        List.map_map
      refine ⟨list, _, h.memory.list_eq, h.memory.wellFormed.elements_eq, ?_, ?_⟩
      · rw [helements]
        exact h.memory.infos.nodup
      · rw [helements]
        exact h.infoAt_eq hinv.connected
    · exact ⟨s, hs, h.pc_eq.trans h.returned.symm, h.inserted_eq, h.logged_eq, h.openSds_eq,
        fun hpc => absurd h.returned hpc⟩

theorem connmgr_memory_refines_example :
    ∃ t list elements, (listenSystem exampleListen).exec (.initial exampleListen)
        (exampleListenCalls.map ListenCall.onClients) = some t ∧
      exampleListenMemory.clientList = some list ∧ list.elements = some elements ∧
      elements.map exampleListenMemory.infoAt = t.clients.map fun c => some c.info := by
  obtain ⟨hnone, hsome⟩ := connmgr_memory_refines exampleListen (100 + ·) 20 4000
    (StepSystem.AllSteps.of_exec (fun _ _ _ => listenMemorySystem_possible) exampleListenMemory_exec)
  cases ht : (listenSystem exampleListen).exec (.initial exampleListen)
      (exampleListenCalls.map ListenCall.onClients) with
  | none => exact absurd (exampleListenMemory_exec.symm.trans (hnone ht)) (by simp)
  | some t =>
      obtain ⟨s, hs, hpc, -, -, -, hlist⟩ := hsome t ht
      obtain rfl : s = exampleListenMemory := Option.some.inj (hs.symm.trans exampleListenMemory_exec)
      have hrunning : exampleListenMemory.pc ≠ .returned := by decide +kernel
      obtain ⟨list, elements, hclients, helements, -, hinfos⟩ := hlist (hpc ▸ hrunning)
      exact ⟨t, list, elements, rfl, hclients, helements, hinfos⟩

/-- **No fault.** Whatever clients and the system do, as long as `malloc` returns no live block and
    accepting succeeds, the function goes on: it never goes through `NULL` or a pointer to a block
    that is not live, and frees none twice. -/
theorem connmgr_memory_safe {cfg : ListenConfig V} {copies : ℕ → Addr} {server : Addr} {port : ℤ}
    {s : ListenMemory V} (hs : (listenMemorySystem cfg copies server port).Reachable s)
    {l : ListenCall V} (hl : l.possible s = true) (hfits : l.fits s.pc = true) :
    ∃ s', (listenMemorySystem cfg copies server port).step s l = some s' := by
  obtain ⟨ls, hls⟩ := hs
  obtain ⟨t, h, hinv⟩ := ListenMemory.holds_of_exec hls
  obtain ⟨s', -, hs', -⟩ := h.call hinv hl hfits
  exact ⟨s', (if_pos hl).trans hs'⟩

theorem connmgr_memory_safe_example :
    ∃ s', (listenMemorySystem exampleListen (100 + ·) 20 4000).step exampleListenMemory
      (.leave true) = some s' :=
  connmgr_memory_safe ⟨_, exampleListenMemory_exec⟩ rfl (by decide +kernel)

/-- **What is left.** Between its steps the function has one entry, one node of the list, one socket
    and one string for each client, besides the listening socket, and no measurement. When it returns,
    the entries and the list are gone; but the sockets of the clients that were in it are left, with
    their strings. -/
theorem connmgr_leaves_sockets {cfg : ListenConfig V} {copies : ℕ → Addr} {server : Addr} {port : ℤ}
    {s : ListenMemory V} (hs : (listenMemorySystem cfg copies server port).Reachable s)
    (hpc : s.pc ≠ .returned) :
    s.measurements = ∅ ∧
    (∃ list, ∃ n : ℕ, s.clientList = some list ∧ dplSize list = some (n : ℤ) ∧
      list.heap.keys.card = n ∧ s.infos.keys.card = n ∧ s.world.socks.keys.card = n + 1 ∧
      s.world.strings.keys.card = n ∧
      ∀ shutdownOk s',
        (listenMemorySystem cfg copies server port).step s (.leave shutdownOk) = some s' →
        s'.clientList = none ∧ s'.leftNodes = ∅ ∧ s'.infos = ∅ ∧ s'.measurements = ∅ ∧
          s'.world.socks.keys.card = n ∧ s'.world.strings.keys.card = n) := by
  obtain ⟨ls, hls⟩ := hs
  obtain ⟨t, h, hinv⟩ := ListenMemory.holds_of_exec hls
  rcases h with ⟨list, own, h⟩ | ⟨own, h⟩
  · refine ⟨h.measurements_eq, list, own.length, h.memory.list_eq, h.memory.size_eq, ?_, ?_, ?_, ?_,
      ?_⟩
    · rw [h.memory.wellFormed.card_keys, List.length_map]
    · rw [h.memory.infos.card_keys, List.length_map]
    · rw [h.memory.socks.card_keys, List.length_cons, List.length_map]
    · rw [h.memory.strings.card_keys, List.length_map]
    · intro shutdownOk s' hs'
      obtain ⟨s'', t', hs'', -, hleaves⟩ := h.leave shutdownOk
      have hcall : s.call cfg (.leave shutdownOk) = some s' := hs'
      have hleave : s.leave shutdownOk = some s' := by
        unfold ListenMemory.call at hcall
        cases hp : s.pc <;> rw [hp] at hcall <;> first
          | exact hcall
          | exact absurd hcall (by simp)
      obtain rfl : s'' = s' := Option.some.inj (hs''.symm.trans hleave)
      refine ⟨hleaves.list_eq, hleaves.leftNodes_eq, hleaves.infos_eq, hleaves.measurements_eq, ?_, ?_⟩
      · rw [hleaves.socks.card_keys, List.length_map]
      · rw [hleaves.strings.card_keys, List.length_map]
  · exact absurd h.pc_eq hpc

/-- Two sockets are left. -/
theorem connmgr_leaves_sockets_example :
    ∃ s', (listenMemorySystem exampleListen (100 + ·) 20 4000).step exampleListenMemory
        (.leave true) = some s' ∧ s'.infos = ∅ ∧ s'.world.socks.keys.card = 2 := by
  obtain ⟨-, list, n, -, -, -, hinfos, -, -, hleave⟩ :=
    connmgr_leaves_sockets (s := exampleListenMemory) ⟨_, exampleListenMemory_exec⟩ (by decide +kernel)
  have hn : n = 2 := hinfos.symm.trans (by decide +kernel)
  cases hs : (listenMemorySystem exampleListen (100 + ·) 20 4000).step exampleListenMemory
      (.leave true) with
  | none => exact absurd hs (by decide +kernel)
  | some s' =>
      obtain ⟨-, -, hempty, -, hsocks, -⟩ := hleave true s' hs
      exact ⟨s', rfl, hempty, hn ▸ hsocks⟩

end SensorGateway
