import SensorGateway.Connmgr.Streams
import SensorGateway.Gateway.Outcome

set_option autoImplicit false

/-! # Sensor nodes and the gateway

The parent process together with the connections of the sensor nodes: a node sends records and ends its
connection whenever it likes, `select` reports the clients whose connections are readable, and a
visit receives what is there. A call that waits for bytes is a step that comes after they are sent.

If every `recv` call returns the bytes it asks for, no record is lost, doubled or moved on its
connection, in whatever order nodes and threads run (`network_delivers`). -/

namespace SensorGateway

variable {V D : Type}

/-- The nodes and the parent process. Connection `k` is the one that is accepted as number `k`; a node
    can send before that. -/
structure Network (V D : Type) where
  parent : ParentProcess V D
  /-- the receiving ends -/
  conns : ℕ → Connection
  /-- the records that the node sent -/
  sent : ℕ → List (SensorData V)

/-- Who makes a step, with the choices of the environment. -/
inductive NetworkStep (V : Type) where
  | send (conn : ℕ) (m : SensorData V)
  | hangUp (conn : ℕ) (ending : Ending)
  /-- `request` is whether there is a connection to accept -/
  | select (request : Bool)
  | accept (sd : ℤ)
  | visit (now : Int64) (garbage : SensorData V) (shutdownOk : Bool) (block : Addr)
  | leave (shutdownOk : Bool)
  | connmgrExit
  | initConnection
  | manager (r : Reader)
  | disconnect
  | main

section System

variable [Zero V] (cfg : ListenConfig V) (process : D → SensorData V → D) (sqlite : Sqlite V)
  (asLiteral : V → V)

/-- The descriptors that `select` reports. -/
def Network.ready (s : Network V D) (request : Bool) (sd : ℤ) : Bool :=
  if sd = cfg.listener then request
  else s.parent.main.listen.clients.any fun c => c.info.sd = sd && (s.conns c.conn).readable

/-- A step of the parent process. -/
def Network.parentStep (s : Network V D) (l : ParentStep V) : Option (Network V D) :=
  (s.parent.step cfg process sqlite asLiteral l).map fun parent => { s with parent }

/-- An iteration of the scan of `connmgr_listen`. -/
def Network.visit (s : Network V D) (now : Int64) (garbage : SensorData V) (shutdownOk : Bool)
    (block : Addr) : Option (Network V D) := do
  let c ← s.parent.main.listen.current
  if c.info.sd ∈ s.parent.main.listen.readFds then
    let (answers, conn) ← (s.conns c.conn).readRecord
    let parent ← s.parent.step cfg process sqlite asLiteral
      (.connmgr (.visit ⟨now, fun k _ => answers k, garbage, shutdownOk⟩) block)
    return { s with parent, conns := Function.update s.conns c.conn conn }
  else
    s.parentStep cfg process sqlite asLiteral
      (.connmgr (.visit ⟨now, fun _ _ => .failed false, garbage, shutdownOk⟩) block)

/-- One step of the nodes or of the parent process. -/
def Network.step (s : Network V D) : NetworkStep V → Option (Network V D)
  | .send conn m =>
      if (s.conns conn).ending = .quiet then
        some { s with
          conns := Function.update s.conns conn
            { s.conns conn with pending := (s.conns conn).pending ++ cfg.abi.record m }
          sent := Function.update s.sent conn (s.sent conn ++ [m]) }
      else none
  | .hangUp conn ending =>
      if (s.conns conn).ending = .quiet then
        some { s with conns := Function.update s.conns conn { s.conns conn with ending } }
      else none
  | .select request =>
      s.parentStep cfg process sqlite asLiteral (.connmgr (.select (s.ready cfg request)) 0)
  | .accept sd => s.parentStep cfg process sqlite asLiteral (.connmgr (.accept sd) 0)
  | .visit now garbage shutdownOk block =>
      s.visit cfg process sqlite asLiteral now garbage shutdownOk block
  | .leave shutdownOk => s.parentStep cfg process sqlite asLiteral (.connmgr (.leave shutdownOk) 0)
  | .connmgrExit => s.parentStep cfg process sqlite asLiteral .connmgrExit
  | .initConnection => s.parentStep cfg process sqlite asLiteral .initConnection
  | .manager r => s.parentStep cfg process sqlite asLiteral (.manager r)
  | .disconnect => s.parentStep cfg process sqlite asLiteral .disconnect
  | .main => s.parentStep cfg process sqlite asLiteral .main

/-- All runs of the nodes and the parent process; call `i` of `recv` on connection `k` returns at most
    `cut k i` bytes. -/
def networkSystem (sensors : D) (db : Database V) (cut : ℕ → ℕ → ℕ) :
    StepSystem (Network V D) (NetworkStep V) where
  init := ⟨⟨.initial cfg sensors, db, none⟩, fun k => ⟨[], cut k, 0, .quiet⟩, fun _ => []⟩
  step := Network.step cfg process sqlite asLiteral

end System

/-! ## What a step can do -/

section Steps

variable [Zero V] {cfg : ListenConfig V} {process : D → SensorData V → D} {sqlite : Sqlite V}
  {asLiteral : V → V} {sensors : D} {db : Database V} {cut : ℕ → ℕ → ℕ}

theorem connmgr_listen {s s' : ParentProcess V D} {l : ListenStep V} {block : Addr}
    (hs : s.step cfg process sqlite asLiteral (.connmgr l block) = some s') :
    s.main.listen.step cfg l = some s'.main.listen := by
  obtain ⟨main, hstep, rfl⟩ := Option.map_eq_some_iff.1 hs
  obtain ⟨listen, hlisten, hstep⟩ := Option.bind_eq_some_iff.1 hstep
  obtain ⟨gateway, -, hstep⟩ := Option.bind_eq_some_iff.1 hstep
  obtain rfl := Option.some.inj hstep
  exact hlisten

/-- What a step of the parent process does to `connmgr_listen`. -/
theorem ParentProcess.listen_eq {s s' : ParentProcess V D} {l : ParentStep V}
    (hinv : s.main.Inv cfg) (hs : s.step cfg process sqlite asLiteral l = some s') :
    (∃ l' block, l = .connmgr l' block ∧ s.main.listen.step cfg l' = some s'.main.listen) ∨
      s'.main.listen = s.main.listen := by
  have hmain : ∀ (l' : ProcessStep V) {main : MainProcess V D},
      (∀ l'' block, l' ≠ .connmgr l'' block) → s.main.step cfg process l' = some main →
      main.listen = s.main.listen := by
    intro l' main hl hstep
    cases (hinv.step hstep).1 with
    | connmgr l'' block => exact absurd rfl (hl l'' block)
    | other l' main hl hlisten => exact hlisten
  cases l with
  | connmgr l block =>
      exact Or.inl ⟨l, block, rfl, connmgr_listen hs⟩
  | connmgrExit =>
      obtain ⟨main, hstep, rfl⟩ := Option.map_eq_some_iff.1 hs
      exact Or.inr (hmain _ (by simp) hstep)
  | initConnection =>
      obtain ⟨main, hstep, rfl⟩ := Option.map_eq_some_iff.1 hs
      refine Or.inr (hmain (.initConnection _) ?_ hstep)
      simp
  | manager r =>
      simp only [ParentProcess.step, ParentProcess.managerStep] at hs
      split at hs
      · obtain ⟨main, hstep, rfl⟩ := Option.map_eq_some_iff.1 hs
        exact Or.inr (hmain (.manager r true) (by simp) hstep)
      · obtain ⟨main, hstep, rfl⟩ := Option.map_eq_some_iff.1 hs
        exact Or.inr (hmain (.manager r _) (by simp) hstep)
  | disconnect =>
      simp only [ParentProcess.step, ParentProcess.disconnect] at hs
      split at hs
      · split at hs
        · exact absurd hs (by simp)
        · obtain ⟨db, -, rfl⟩ := Option.map_eq_some_iff.1 hs
          exact Or.inr rfl
      · exact absurd hs (by simp)
  | main =>
      simp only [ParentProcess.step] at hs
      split at hs
      · exact absurd hs (by simp)
      · obtain ⟨main, hstep, rfl⟩ := Option.map_eq_some_iff.1 hs
        exact Or.inr (hmain _ (by simp) hstep)

variable {s s' : Network V D} {l : NetworkStep V}

/-- **What a step can do**: a node sends or ends its connection, a ready client is handled, or the parent
    process does something else. -/
theorem Network.step_cases (hs : s.step cfg process sqlite asLiteral l = some s') :
    (∃ conn m, s' = { s with
        conns := Function.update s.conns conn
          { s.conns conn with pending := (s.conns conn).pending ++ cfg.abi.record m }
        sent := Function.update s.sent conn (s.sent conn ++ [m]) }) ∨
    (∃ conn ending,
      s' = { s with conns := Function.update s.conns conn { s.conns conn with ending } }) ∨
    (∃ c answers conn v block parent, s.parent.main.listen.current = some c ∧
      c.info.sd ∈ s.parent.main.listen.readFds ∧
      (s.conns c.conn).readRecord = some (answers, conn) ∧ (v.answer = fun k _ => answers k) ∧
      s.parent.step cfg process sqlite asLiteral (.connmgr (.visit v) block) = some parent ∧
      s' = { s with parent, conns := Function.update s.conns c.conn conn }) ∨
    (∃ l' parent, s.parent.step cfg process sqlite asLiteral l' = some parent ∧
      (∀ v block c, l' = .connmgr (.visit v) block → s.parent.main.listen.current = some c →
        c.info.sd ∉ s.parent.main.listen.readFds) ∧
      s' = { s with parent }) := by
  have hparent : ∀ l', (∀ v block, l' ≠ .connmgr (.visit v) block) →
      s.parentStep cfg process sqlite asLiteral l' = some s' →
      ∃ l' parent, s.parent.step cfg process sqlite asLiteral l' = some parent ∧
        (∀ v block c, l' = .connmgr (.visit v) block → s.parent.main.listen.current = some c →
          c.info.sd ∉ s.parent.main.listen.readFds) ∧
        s' = { s with parent } := by
    intro l' hl hs'
    obtain ⟨parent, hstep, rfl⟩ := Option.map_eq_some_iff.1 hs'
    exact ⟨l', parent, hstep, fun v block c hvisit => absurd hvisit (hl v block), rfl⟩
  cases l with
  | send conn m =>
      simp only [Network.step] at hs
      split at hs
      · exact Or.inl ⟨conn, m, (Option.some.inj hs).symm⟩
      · exact absurd hs (by simp)
  | hangUp conn ending =>
      simp only [Network.step] at hs
      split at hs
      · exact Or.inr (Or.inl ⟨conn, ending, (Option.some.inj hs).symm⟩)
      · exact absurd hs (by simp)
  | visit now garbage shutdownOk block =>
      refine Or.inr (Or.inr ?_)
      obtain ⟨c, hcurrent, hs⟩ := Option.bind_eq_some_iff.1 hs
      split at hs
      · next hready =>
          obtain ⟨⟨answers, conn⟩, hread, hs⟩ := Option.bind_eq_some_iff.1 hs
          obtain ⟨parent, hstep, hs⟩ := Option.bind_eq_some_iff.1 hs
          exact Or.inl ⟨c, answers, conn, _, block, parent, hcurrent, hready, hread, rfl, hstep,
            (Option.some.inj hs).symm⟩
      · next hready =>
          obtain ⟨parent, hstep, rfl⟩ := Option.map_eq_some_iff.1 hs
          refine Or.inr ⟨_, parent, hstep, ?_, rfl⟩
          rintro v block c' - hcurrent'
          obtain rfl := Option.some.inj (hcurrent.symm.trans hcurrent')
          exact hready
  | select request => exact Or.inr (Or.inr (Or.inr (hparent _ (by simp) hs)))
  | accept sd => exact Or.inr (Or.inr (Or.inr (hparent _ (by simp) hs)))
  | leave shutdownOk => exact Or.inr (Or.inr (Or.inr (hparent _ (by simp) hs)))
  | connmgrExit | initConnection | manager r | disconnect | main =>
      exact Or.inr (Or.inr (Or.inr (hparent _ (by simp) hs)))

/-- What holds of the parent process in all its runs holds of it here. -/
theorem Network.reachable_parent
    (h : (networkSystem cfg process sqlite asLiteral sensors db cut).Reachable s) :
    (parentSystem cfg process sqlite asLiteral sensors db).Reachable s.parent := by
  refine h.invariant
    (fun s => (parentSystem cfg process sqlite asLiteral sensors db).Reachable s.parent) .init ?_
  intro s l s' ih hs
  rcases s.step_cases hs with ⟨conn, m, rfl⟩ | ⟨conn, ending, rfl⟩ |
    ⟨c, answers, conn, v, block, parent, -, -, -, -, hstep, rfl⟩ | ⟨l', parent, hstep, -, rfl⟩
  · exact ih
  · exact ih
  · exact StepSystem.Reachable.step (l := .connmgr (.visit v) block) ih hstep
  · exact StepSystem.Reachable.step (l := l') ih hstep

/-! ## What is delivered -/

/-- On every connection, what was received and what is left is what was sent. -/
def Network.Delivers (abi : Abi V) (cut : ℕ → ℕ → ℕ) (s : Network V D) : Prop :=
  ∀ k, (s.conns k).Delivers abi (cut k) (s.parent.main.listen.received k) (s.sent k)

theorem Network.Delivers.step (h : s.Delivers cfg.abi cut)
    (hwhole : ∀ k i, requested i ≤ cut k i) (hinv : s.parent.main.Inv cfg)
    (hs : s.step cfg process sqlite asLiteral l = some s') : s'.Delivers cfg.abi cut := by
  intro k
  rcases s.step_cases hs with ⟨conn, m, rfl⟩ | ⟨conn, ending, rfl⟩ |
    ⟨c, answers, conn, v, block, parent, hcurrent, hready, hread, hanswer, hstep, rfl⟩ |
    ⟨l', parent, hstep, hidle, rfl⟩
  · by_cases hk : k = conn
    · subst hk
      simp only [Function.update_self]
      exact (h k).send m
    · simp only [Function.update_of_ne hk]
      exact h k
  · by_cases hk : k = conn
    · subst hk
      simp only [Function.update_self]
      exact (h k).hangUp ending
    · simp only [Function.update_of_ne hk]
      exact h k
  · have hmove := hinv.listen.move (connmgr_listen hstep)
    rw [hmove.received_visit hinv.listen hcurrent hready k, hanswer]
    by_cases hk : k = c.conn
    · subst hk
      simp only [Function.update_self, if_true]
      exact (h c.conn).read (hwhole c.conn) hread c.info.sd v.garbage
    · simp only [Function.update_of_ne hk, if_neg hk, List.append_nil]
      exact h k
  · have hreceived : parent.main.listen.received k = s.parent.main.listen.received k := by
      rcases s.parent.listen_eq hinv hstep with ⟨l'', block, rfl, hlisten⟩ | heq
      · refine (hinv.listen.move hlisten).received_idle ?_ k
        rintro v c rfl hcurrent
        exact hidle v block c rfl hcurrent
      · rw [heq]
    rw [hreceived]
    exact h k

theorem Network.reachable_delivers (hwhole : ∀ k i, requested i ≤ cut k i)
    (h : (networkSystem cfg process sqlite asLiteral sensors db cut).Reachable s) :
    s.Delivers cfg.abi cut := by
  refine h.strengthen (fun s => s.Delivers cfg.abi cut) ?_ ?_
  · exact fun k => ⟨rfl, Nat.dvd_zero 3, [], rfl, rfl⟩
  · intro s l s' hreach hdelivers hs
    exact hdelivers.step hwhole
      (reachable_mainProcess (s.parent.reachable_main (s.reachable_parent hreach))) hs

end Steps

/-- **What the nodes send arrives.** Let every `recv` call return all it asks for. However many nodes
    there are, whatever they send and whenever they end their connections, in whatever order nodes and
    threads run: what was inserted in the buffer is a shuffle of what was received on each connection;
    and what was received on a connection, followed by the records that are still unread on it, is
    what its node sent. -/
theorem network_delivers [Zero V] (cfg : ListenConfig V) (process : D → SensorData V → D)
    (sqlite : Sqlite V) (asLiteral : V → V) (sensors : D) (db : Database V) {cut : ℕ → ℕ → ℕ}
    (hwhole : ∀ k i, requested i ≤ cut k i) {s : Network V D}
    (h : (networkSystem cfg process sqlite asLiteral sensors db cut).Reachable s) :
    ∃ inserted : List (ℕ × SensorData V),
      s.parent.main.gateway.inserted = inserted.map Prod.snd ∧
      ∀ k, ∃ unread, (s.conns k).pending = cfg.abi.records unread ∧
        historyOf inserted k ++ unread = s.sent k := by
  have hinv := reachable_mainProcess (s.parent.reachable_main (s.reachable_parent h))
  refine ⟨s.parent.main.listen.receivedFrom, ?_, fun k => ?_⟩
  · rw [receivedFrom_snd, hinv.inserted]
  · rw [historyOf_receivedFrom]
    exact (s.reachable_delivers hwhole h k).split

/-- The network of the examples, with any number of nodes. -/
def exampleNetwork : StepSystem (Network (BitVec 64) Unit) (NetworkStep (BitVec 64)) :=
  networkSystem exampleListen (fun _ _ => ()) freeSqlite (fun v => v) () (noTable (BitVec 64))
    fun _ _ => 8

theorem requested_le (i : ℕ) : requested i ≤ 8 := by
  unfold requested
  split
  · decide
  · decide

/-- Two nodes connect; the second one sends first. -/
def twoNodesRun : List (NetworkStep (BitVec 64)) :=
  [.select true, .accept 4, .visit 100 ⟨0, 0, 0⟩ true 0, .send 1 ⟨21, 19, 100⟩, .send 0 ⟨15, 20, 101⟩,
    .select true, .accept 5, .visit 101 ⟨0, 0, 0⟩ true 7, .visit 101 ⟨0, 0, 0⟩ true 8, .select false,
    .visit 102 ⟨0, 0, 0⟩ true 8, .visit 102 ⟨0, 0, 0⟩ true 8]

theorem network_delivers_two :
    ∃ inserted : List (ℕ × SensorData (BitVec 64)), ∃ unread,
      (exampleNetwork.after twoNodesRun).parent.main.gateway.inserted = inserted.map Prod.snd ∧
      historyOf inserted 0 ++ unread = [⟨15, 20, 101⟩] := by
  obtain ⟨inserted, hinserted, hsent⟩ := network_delivers exampleListen (fun _ _ => ()) freeSqlite
    (fun v => v) () (noTable (BitVec 64)) (fun _ => requested_le)
    (StepSystem.reachable_after (by decide : (exampleNetwork.exec exampleNetwork.init
      twoNodesRun).isSome = true))
  obtain ⟨unread, -, hunread⟩ := hsent 0
  exact ⟨inserted, unread, hinserted, hunread⟩

/-- Both records are processed and stored before the shutdown. -/
def twoStoredRun : List (NetworkStep (BitVec 64)) :=
  twoNodesRun ++ [.initConnection] ++ List.replicate 7 (.manager .storagemgr) ++
    List.replicate 7 (.manager .datamgr) ++ [.select false, .leave true, .connmgrExit, .main, .main,
      .main, .manager .storagemgr, .manager .datamgr, .main, .disconnect, .main]

/-- **What the nodes send is processed and stored.** Let every `recv` call return all it asks for and
    SQLite refuse nothing, and let `main` have joined the managers, which left no measurement with an
    id in the buffer. Then the data manager has processed and the database holds the same shuffle of
    the records with an id that were received on the connections; and for each connection these are
    the ones that its node sent, but for those that are still unread on it. -/
theorem network_stores [Zero V] (cfg : ListenConfig V) (process : D → SensorData V → D)
    {sqlite : Sqlite V} (hsqlite : sqlite.Reliable) (asLiteral : V → V) (sensors : D) (db : Database V)
    {cut : ℕ → ℕ → ℕ} (hwhole : ∀ k i, requested i ≤ cut k i) {s : Network V D}
    (h : (networkSystem cfg process sqlite asLiteral sensors db cut).Reachable s)
    (hjoined : s.parent.main.gateway.main = .joined) (hdrained : s.parent.main.gateway.Drained) :
    ∃ stored : List (ℕ × SensorData V),
      s.parent.main.gateway.sensors = (stored.map Prod.snd).foldl process sensors ∧
      (∀ f, (findSensorAll sqlite s.parent.db f).2.1 = (callbackRows f []
        (((stored.map Prod.snd).zipIdx 1).map (rowOf asLiteral))).1) ∧
      ∀ k, ∃ unread, (s.conns k).pending = cfg.abi.records unread ∧
        historyOf stored k ++ unread.filter SensorData.hasId =
          (s.sent k).filter SensorData.hasId := by
  have hparent := s.reachable_parent h
  have hstored : (s.parent.main.listen.receivedFrom.filter fun e => e.2.hasId).map Prod.snd =
      s.parent.main.listen.inserted.filter SensorData.hasId := by
    rw [← receivedFrom_snd, List.filter_map]
    rfl
  refine ⟨s.parent.main.listen.receivedFrom.filter fun e => e.2.hasId, ?_, ?_, fun k => ?_⟩
  · rw [hstored]
    exact s.parent.joined_sensors hsqlite hparent hjoined hdrained
  · rw [hstored]
    exact findSensorAll_insertAll hsqlite (s.parent.joined_table hsqlite hparent hjoined hdrained)
  · obtain ⟨unread, hpending, hsent⟩ := (s.reachable_delivers hwhole h k).split
    refine ⟨unread, hpending, ?_⟩
    rw [historyOf_filter, historyOf_receivedFrom, ← List.filter_append, hsent]

theorem network_stores_two :
    ∃ stored : List (ℕ × SensorData (BitVec 64)),
      (findSensorAll freeSqlite (exampleNetwork.after twoStoredRun).parent.db fun _ _ => 0).2.1 =
        (callbackRows (fun _ _ => 0) []
          (((stored.map Prod.snd).zipIdx 1).map (rowOf fun v => v))).1 ∧
      ∃ unread, historyOf stored 1 ++ unread = [⟨21, 19, 100⟩] := by
  have hunread : ∀ r,
      (exampleNetwork.after twoStoredRun).parent.main.gateway.buffer.unread r = some [] := by
    intro r
    cases r with
    | datamgr | storagemgr => decide
  have hdrained : (exampleNetwork.after twoStoredRun).parent.main.gateway.Drained := by
    intro r _ ms hms m hm
    obtain rfl := Option.some.inj ((hunread r).symm.trans hms)
    exact absurd hm List.not_mem_nil
  obtain ⟨stored, -, hrows, hsent⟩ := network_stores exampleListen (fun _ _ => ())
    freeSqlite_reliable (fun v => v) () (noTable (BitVec 64)) (fun _ => requested_le)
    (StepSystem.reachable_after (by decide : (exampleNetwork.exec exampleNetwork.init
      twoStoredRun).isSome = true)) (by decide) hdrained
  obtain ⟨unread, -, hunread⟩ := hsent 1
  exact ⟨stored, hrows _, unread.filter SensorData.hasId, hunread⟩

end SensorGateway
