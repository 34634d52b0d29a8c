import SensorGateway.Gateway.Parent

set_option autoImplicit false

/-! # The storage manager and its database

What `storagemgr_function` makes of its database in the runs of the parent process: how it connects and
disconnects (`storage_connections`), and which rows there are (`stored_rows`). The first assumes
nothing of SQLite, the second its laws. SQLite may refuse any call. -/

namespace SensorGateway

variable {V D : Type}

/-! ## Connecting -/

theorem exec_log (sqlite : Sqlite V) (db : Database V) (statement : Statement V) :
    (db.exec sqlite statement).2.log = db.log := by
  rw [exec_frame sqlite db statement]

theorem clearUp_log (sqlite : Sqlite V) (db : Database V) (clearUpFlag : Int8) :
    (db.clearUp sqlite clearUpFlag).2.log = db.log := by
  unfold Database.clearUp
  split
  · exact exec_log sqlite db _
  · rfl

/-- The table that was created is empty. -/
theorem Sqlite.Lawful.exec_createTable_empty {sqlite : Sqlite V} (hlawful : sqlite.Lawful)
    (db : Database V) (h : (db.exec sqlite .createTable).1 ≠ none) :
    (db.exec sqlite .createTable).2.table = some .empty := by
  rcases exec_cases sqlite db .createTable with hexec | ⟨rows, table, hrun, hexec⟩
  · rw [hexec] at h
    exact absurd rfl h
  · rw [hlawful.run_eq] at hrun
    dsimp only [Statement.run] at hrun
    split at hrun
    · exact absurd hrun (by simp)
    · obtain ⟨-, rfl⟩ := Prod.mk.inj (Option.some.inj hrun)
      rw [hexec]

/-- What `init_connection` says, in any environment: it fails, or it returns a connection. -/
theorem initConnection_outcome (sqlite : Sqlite V) (db : Database V) (clearUpFlag : Int8) :
    ((initConnection sqlite db clearUpFlag).1 = none ∧
      ∃ event, (event = .unableToConnect ∨ event = .established) ∧
        (initConnection sqlite db clearUpFlag).2.log = db.log ++ [event]) ∨
    ((initConnection sqlite db clearUpFlag).1 = some db.opened ∧
      (initConnection sqlite db clearUpFlag).2.log = db.log ++ [.established, .tableCreated]) := by
  have hlog := clearUp_log sqlite ({ db with opened := db.opened + 1 }.write .established) clearUpFlag
  have hlog' := exec_log sqlite (({ db with opened := db.opened + 1 }.write .established).clearUp
    sqlite clearUpFlag).2 .createTable
  rw [hlog] at hlog'
  unfold initConnection
  dsimp only
  split
  · exact Or.inl ⟨rfl, _, Or.inl rfl, rfl⟩
  · split
    · exact Or.inl ⟨rfl, _, Or.inr rfl, hlog⟩
    · split
      · exact Or.inl ⟨rfl, _, Or.inr rfl, hlog'⟩
      · refine Or.inr ⟨rfl, ?_⟩
        have hwrite : ∀ db' : Database V, (db'.write .tableCreated).log
          = db'.log ++ [.tableCreated] := fun _ => rfl
        rw [hwrite, hlog']
        exact List.append_assoc db.log [.established] [.tableCreated]

/-- The connection that `init_connection` returns is to a database with an empty table. -/
theorem Sqlite.Lawful.initConnection_table {sqlite : Sqlite V} (hlawful : sqlite.Lawful)
    (db : Database V) (clearUpFlag : Int8) (h : (initConnection sqlite db clearUpFlag).1 ≠ none) :
    (initConnection sqlite db clearUpFlag).2.table = some .empty := by
  have hempty := hlawful.exec_createTable_empty
    (({ db with opened := db.opened + 1 }.write .established).clearUp sqlite clearUpFlag).2
  unfold initConnection at h ⊢
  dsimp only at h ⊢
  split at h
  · exact absurd rfl h
  · next hopens =>
      split at h
      · exact absurd rfl h
      · next hclear =>
          split at h
          · exact absurd rfl h
          · next hcreated =>
              rw [if_neg hopens, if_neg hclear, if_neg hcreated]
              exact hempty fun hnone => hcreated (by rw [hnone]; rfl)

/-- The messages of the session of the storage manager, once there is a connection. -/
def ParentProcess.sessionLog (s : ParentProcess V D) : List DbEvent :=
  if s.main.storage = .connected then
    [.established, .tableCreated] ++ if s.conn = none then [.lost] else []
  else []

/-- The attempts of the storage manager to connect, of which `fails` failed, and its session after
    them. -/
structure ParentProcess.Connects (db : Database V) (s : ParentProcess V D)
    (fails : List DbEvent) : Prop where
  failed : ∀ event ∈ fails, event = .unableToConnect ∨ event = .established
  attempts : s.main.storage = .gaveUp ∧ fails.length = 3 ∨
    s.main.storage = .connected ∧ fails.length ≤ 2 ∨
    s.main.storage = .connecting (fails.length + 1) ∧ fails.length ≤ 2
  opened_eq : s.db.opened =
    db.opened + fails.length + if s.main.storage = .connected then 1 else 0
  closed_eq : s.db.opened + db.closed = s.db.closed + db.opened + if s.conn = none then 0 else 1
  log_eq : s.db.log = db.log ++ fails ++ s.sessionLog
  unconnected : s.main.storage ≠ .connected → s.conn = none
  disconnected : s.main.storage = .connected → s.conn = none →
    s.main.gateway.pc .storagemgr = .exited
  waiting : ∀ attemptNr, s.main.storage = .connecting attemptNr →
    s.main.gateway.pc .storagemgr = .check
  joined : s.main.gateway.main = .joined →
    s.conn = none ∧ ∀ attemptNr, s.main.storage ≠ .connecting attemptNr

section Connects

variable {cfg : ListenConfig V} {process : D → SensorData V → D} {sqlite : Sqlite V}
  {asLiteral : V → V} {sensors : D} {db : Database V} {s s' : ParentProcess V D} {l : ParentStep V}
  {fails : List DbEvent}

theorem connects_initial :
    (⟨.initial cfg sensors, db, none⟩ : ParentProcess V D).Connects db [] where
  failed := nofun
  attempts := Or.inr (Or.inr ⟨rfl, Nat.zero_le _⟩)
  opened_eq := rfl
  closed_eq := Nat.add_comm _ _
  log_eq := by rw [List.append_nil]; exact (List.append_nil _).symm
  unconnected _ := rfl
  disconnected h := absurd h (by simp [MainProcess.initial])
  waiting _ _ := rfl
  joined h := absurd h (by simp [MainProcess.initial, Gateway.initial])

theorem ParentProcess.Connects.sameStorage (h : s.Connects db fails) {l : ProcessStep V}
    {main : MainProcess V D} (hsame : s.main.SameStorage l main)
    (hguard : l = .main → s.main.gateway.main = .joinStoragemgr → s.conn = none) :
    ({ s with main } : ParentProcess V D).Connects db fails where
  failed := h.failed
  attempts := by rw [hsame.storage_eq]; exact h.attempts
  opened_eq := by rw [hsame.storage_eq]; exact h.opened_eq
  closed_eq := h.closed_eq
  log_eq := by rw [ParentProcess.sessionLog, hsame.storage_eq]; exact h.log_eq
  unconnected := by rw [hsame.storage_eq]; exact h.unconnected
  disconnected := by
    rw [hsame.storage_eq]
    exact fun hstorage hconn => hsame.exited (h.disconnected hstorage hconn)
  waiting attemptNr hstorage := by
    rw [hsame.storage_eq] at hstorage
    exact (hsame.waits (by rw [hstorage]; simp)).trans (h.waiting attemptNr hstorage)
  joined hmain := by
    rw [hsame.storage_eq]
    rcases hsame.joined hmain with hjoined | ⟨hl, hjoin, hpc⟩
    · exact h.joined hjoined
    · refine ⟨hguard hl hjoin, fun attemptNr hstorage => ?_⟩
      exact absurd (hpc.symm.trans (h.waiting attemptNr hstorage)) (by simp)

/-- An attempt fails, and its message says so, or it is the one that succeeds. -/
theorem ParentProcess.Connects.initConnection [Zero V] (h : s.Connects db fails)
    {main : MainProcess V D}
    (hs : s.main.step cfg process (.initConnection (initConnection sqlite s.db 1).1.isSome)
      = some main) :
    ∃ fails', (⟨main, (SensorGateway.initConnection sqlite s.db 1).2,
      (SensorGateway.initConnection sqlite s.db 1).1⟩ : ParentProcess V D).Connects db fails' := by
  obtain ⟨attemptNr, hstorage, hmain, -, -, hjoin, hpc⟩ := initConnection_storage hs
  have hwaiting : ∀ attemptNr', main.storage = .connecting attemptNr' →
      main.gateway.pc .storagemgr = .check :=
    fun attemptNr' h' => (hpc attemptNr' h').trans (h.waiting attemptNr hstorage)
  have hgoing : ¬ main.gateway.main = .joined := by
    rw [hjoin]
    exact fun hjoined => (h.joined hjoined).2 attemptNr hstorage
  obtain ⟨hnr, hle⟩ : attemptNr = fails.length + 1 ∧ fails.length ≤ 2 := by
    rcases h.attempts with ⟨hgaveUp, -⟩ | ⟨hconnected, -⟩ | ⟨hconnecting, hle⟩
    · exact absurd (hstorage.symm.trans hgaveUp) (by simp)
    · exact absurd (hstorage.symm.trans hconnected) (by simp)
    · exact ⟨StoragePc.connecting.inj (hstorage.symm.trans hconnecting), hle⟩
  have hnone : s.conn = none := h.unconnected (by rw [hstorage]; simp)
  have hopened := h.opened_eq
  have hclosed := h.closed_eq
  have hlog := h.log_eq
  rw [ParentProcess.sessionLog, if_neg (by rw [hstorage]; simp), List.append_nil] at hlog
  rw [if_neg (by rw [hstorage]; simp)] at hopened
  rw [if_pos hnone] at hclosed
  obtain ⟨hopened', hclosed'⟩ := initConnection_handles sqlite s.db 1
  rcases initConnection_outcome sqlite s.db 1 with ⟨hconn, event, hevent, hlog'⟩ |
    ⟨hconn, hlog'⟩
  · rw [hconn, Option.isSome_none, storagemgrInit, if_neg (by simp)] at hmain
    rw [if_pos hconn] at hclosed'
    have hnot : main.storage ≠ .connected := by
      rw [hmain]
      split
      · simp
      · simp
    refine ⟨fails ++ [event], ?_, ?_, ?_, ?_, ?_, fun _ => hconn, fun hc => absurd hc hnot,
      hwaiting, fun hjoined => absurd hjoined hgoing⟩
    · intro event' hmem
      rcases List.mem_append.1 hmem with hmem | hmem
      · exact h.failed event' hmem
      · rw [List.mem_singleton.1 hmem]
        exact hevent
    · rw [List.length_append, List.length_singleton]
      by_cases hlast : attemptNr < 3
      · rw [if_pos hlast] at hmain
        exact Or.inr (Or.inr ⟨hmain.trans (by rw [hnr]), by omega⟩)
      · rw [if_neg hlast] at hmain
        exact Or.inl ⟨hmain, by omega⟩
    · rw [if_neg hnot, List.length_append, List.length_singleton]
      dsimp only
      omega
    · rw [if_pos hconn]
      dsimp only
      omega
    · rw [ParentProcess.sessionLog, if_neg hnot, List.append_nil]
      dsimp only
      rw [hlog', hlog, List.append_assoc]
  · rw [hconn, Option.isSome_some, storagemgrInit, if_pos rfl] at hmain
    rw [if_neg (by rw [hconn]; simp)] at hclosed'
    refine ⟨fails, h.failed, Or.inr (Or.inl ⟨hmain, hle⟩), ?_, ?_, ?_,
      fun hnot => absurd hmain hnot, fun _ hnone' => ?_, hwaiting,
      fun hjoined => absurd hjoined hgoing⟩
    · rw [if_pos hmain]
      dsimp only
      omega
    · rw [if_neg (by rw [hconn]; simp)]
      dsimp only
      omega
    · rw [ParentProcess.sessionLog, if_pos hmain, if_neg (by rw [hconn]; simp), List.append_nil]
      dsimp only
      rw [hlog', hlog]
    · exact absurd (hconn.symm.trans hnone') (by simp)

/-- An `insert_sensor` call needs the connection, and says nothing. -/
theorem ParentProcess.Connects.insertSensor [Zero V] (h : s.Connects db fails)
    (hinv : s.main.Inv cfg) {data : SensorData V} {ok : Bool} {main : MainProcess V D}
    (hdata : s.main.gateway.insertCall .storagemgr = some data)
    (hs : s.main.step cfg process (.manager .storagemgr ok) = some main) {db' : Database V}
    (hopened : db'.opened = s.db.opened) (hclosed : db'.closed = s.db.closed)
    (hlog : db'.log = s.db.log) :
    ({ s with main, db := db' } : ParentProcess V D).Connects db fails := by
  obtain ⟨hstorage, hstorage', -, -, hmain⟩ := hinv.insertCall hdata hs
  have heq : main.storage = s.main.storage := hstorage'.trans hstorage.symm
  obtain ⟨-, hpc, -⟩ := insertCall_eq_some.1 hdata
  have hconn : s.conn ≠ none := fun hnone =>
    -- a storage manager that handles a measurement is still in its loop
    absurd (hpc.symm.trans (h.disconnected hstorage hnone)) (by simp)
  refine ⟨h.failed, ?_, ?_, ?_, ?_, fun hnot => absurd hstorage' hnot,
    fun _ hnone => absurd hnone hconn, fun attemptNr hconnecting => ?_, fun hjoined => ?_⟩
  · rw [heq]
    exact h.attempts
  · rw [heq]
    exact hopened.trans h.opened_eq
  · dsimp only
    rw [hopened, hclosed]
    exact h.closed_eq
  · rw [ParentProcess.sessionLog, heq]
    exact hlog.trans h.log_eq
  · exact absurd (hstorage'.symm.trans hconnecting) (by simp)
  · exact absurd (h.joined (hmain hjoined)).1 hconn

theorem ParentProcess.Connects.disconnect (h : s.Connects db fails)
    (hpc : s.main.gateway.pc .storagemgr = .exited) (hconn : s.conn ≠ none) :
    ({ s with db := s.db.close.write .lost, conn := none } : ParentProcess V D).Connects db fails := by
  have hstorage : s.main.storage = .connected := not_not.1 fun hnot => hconn (h.unconnected hnot)
  have hclosed := h.closed_eq
  have hlog := h.log_eq
  rw [if_neg hconn] at hclosed
  rw [ParentProcess.sessionLog, if_pos hstorage, if_neg hconn, List.append_nil] at hlog
  refine ⟨h.failed, h.attempts, h.opened_eq, ?_, ?_, fun _ => rfl, fun _ _ => hpc, h.waiting,
    fun hjoined => absurd (h.joined hjoined).1 hconn⟩
  · rw [if_pos rfl]
    dsimp only [Database.write, Database.close]
    omega
  · rw [ParentProcess.sessionLog, if_pos hstorage, if_pos rfl]
    dsimp only [Database.write, Database.close]
    rw [hlog, List.append_assoc, List.append_assoc]

/-- The invariant holds in every reachable state. -/
theorem ParentProcess.exists_connects [Zero V]
    (h : (parentSystem cfg process sqlite asLiteral sensors db).Reachable s) :
    ∃ fails, s.Connects db fails := by
  refine h.strengthen (fun s => ∃ fails, s.Connects db fails) ⟨[], connects_initial⟩ ?_
  rintro s l s' hreach ⟨fails, hconnects⟩ hs
  have hinv := reachable_mainProcess (s.reachable_main hreach)
  rcases s.step_cases hs with ⟨l', main, hmain, hinit, hcall, hguard, rfl⟩ | ⟨main, hmain, rfl⟩ |
    ⟨data, main, hdata, hmain, rfl⟩ | ⟨hpc, hconn, rfl⟩
  · exact ⟨fails, hconnects.sameStorage (hinv.sameStorage hmain hinit hcall) hguard⟩
  · exact hconnects.initConnection hmain
  · have hframe := insertSensor_frame sqlite asLiteral s.db data.id data.value data.ts
    exact ⟨fails, hconnects.insertSensor hinv hdata hmain (by rw [hframe]) (by rw [hframe])
      (by rw [hframe])⟩
  · exact ⟨fails, hconnects.disconnect hpc hconn⟩

/-- The parent process of the examples, on a database without a table. -/
def exampleParent : StepSystem (ParentProcess (BitVec 64) Unit) (ParentStep (BitVec 64)) :=
  parentSystem exampleListen (fun _ _ => ()) freeSqlite (fun v => v) () (noTable (BitVec 64))

/-- The storage manager connects, and stores the first measurement of a client. -/
def storingRun : List (ParentStep (BitVec 64)) :=
  [.initConnection, .connmgr (.select (readySds [3])) 0, .connmgr (.accept 4) 0,
    .connmgr (.visit (idleVisit 100)) 0, .connmgr (.select (readySds [4])) 0,
    .connmgr (.visit (recordVisit ⟨15, 20, 101⟩ 101)) 7, .manager .storagemgr,
    .manager .storagemgr, .manager .storagemgr]

theorem storingRun_reachable : exampleParent.Reachable (exampleParent.after storingRun) :=
  StepSystem.reachable_after (by decide)

end Connects

/-! ## The rows -/

section Rows

variable [Zero V] {cfg : ListenConfig V} {process : D → SensorData V → D} {sqlite : Sqlite V}
  {asLiteral : V → V} {sensors : D} {db : Database V} {s s' : ParentProcess V D} {l : ParentStep V}

/-- The table holds the measurements that were stored since `init_connection` created it. -/
structure ParentProcess.Stored (asLiteral : V → V) (s : ParentProcess V D) : Prop where
  table_eq : s.main.storage = .connected →
    s.db.table = some (Table.empty.insertAll asLiteral s.main.gateway.table)
  nothing : ∀ attemptNr, s.main.storage = .connecting attemptNr → s.main.gateway.table = []

omit [Zero V] in
theorem insertAll_concat (asLiteral : V → V) (table : Table V) (ms : List (SensorData V))
    (m : SensorData V) :
    table.insertAll asLiteral (ms ++ [m]) =
      (table.insertAll asLiteral ms).insert { m with value := asLiteral m.value } :=
  List.foldl_concat ..

theorem ParentProcess.Stored.step (hlawful : sqlite.Lawful) (h : s.Stored asLiteral)
    (hinv : s.main.Inv cfg) (hs : s.step cfg process sqlite asLiteral l = some s') :
    s'.Stored asLiteral := by
  rcases s.step_cases hs with ⟨l', main, hmain, hinit, hcall, -, rfl⟩ | ⟨main, hmain, rfl⟩ |
    ⟨data, main, hdata, hmain, rfl⟩ | ⟨-, -, rfl⟩
  · have hsame := hinv.sameStorage hmain hinit hcall
    refine ⟨?_, ?_⟩
    · rw [hsame.storage_eq, hsame.table_eq]
      exact h.table_eq
    · rw [hsame.storage_eq, hsame.table_eq]
      exact h.nothing
  · obtain ⟨attemptNr, hstorage, hmain', htable, -⟩ := initConnection_storage hmain
    have hnothing : main.gateway.table = [] := htable.trans (h.nothing attemptNr hstorage)
    refine ⟨fun hconnected => ?_, fun _ _ => hnothing⟩
    by_cases hconn : (initConnection sqlite s.db 1).1 = none
    · rw [hconn, Option.isSome_none, storagemgrInit, if_neg (by simp)] at hmain'
      rw [hmain'] at hconnected
      split at hconnected
      · exact absurd hconnected (by simp)
      · exact absurd hconnected (by simp)
    · rw [hnothing]
      exact hlawful.initConnection_table s.db 1 hconn
  · obtain ⟨hstorage, hstorage', htable, -, -⟩ := hinv.insertCall hdata hmain
    refine ⟨fun _ => ?_, fun attemptNr hconnecting => ?_⟩
    · have hrows := h.table_eq hstorage
      rcases hlawful.insertSensor_cases asLiteral s.db data.id data.value data.ts with
        ⟨table, hdb, hinsert⟩ | hinsert
      · rw [hinsert] at htable ⊢
        obtain rfl := Option.some.inj (hdb.symm.trans hrows)
        rw [if_pos (by simp)] at htable
        rw [htable, insertAll_concat]
      · rw [hinsert] at htable ⊢
        rw [if_neg (by simp)] at htable
        rw [htable]
        exact hrows
    · exact absurd (hstorage'.symm.trans hconnecting) (by simp)
  · exact ⟨h.table_eq, h.nothing⟩

theorem ParentProcess.reachable_stored (hlawful : sqlite.Lawful)
    (h : (parentSystem cfg process sqlite asLiteral sensors db).Reachable s) :
    s.Stored asLiteral := by
  refine h.strengthen (ParentProcess.Stored asLiteral) ⟨?_, fun _ _ => rfl⟩ ?_
  · simp [parentSystem, MainProcess.initial]
  · intro s l s' hreach hstored hs
    exact hstored.step hlawful (reachable_mainProcess (s.reachable_main hreach)) hs

/-- What was stored is some of what was handled, in order. -/
theorem table_sublist {g : Gateway V D} (h : (gatewaySystem process sensors).Reachable g) :
    g.table.Sublist (g.handled .storagemgr) := by
  refine h.strengthen (fun g => g.table.Sublist (g.handled .storagemgr)) .slnil ?_
  intro g l g' hreach hsub hs
  obtain ⟨q, hinv⟩ := reachable_inv hreach
  obtain ⟨q', hm, -⟩ := step_move hinv.rep hs
  rcases hm.insertCall with ⟨data, ok, -, -, htable, -, hhandled⟩ | ⟨-, htable, -, hhandled⟩
  · rw [htable, hhandled]
    split
    · exact hsub.append (.refl _)
    · exact hsub.trans (List.sublist_append_left ..)
  · rw [htable, hhandled]
    exact hsub

/-- **What the database holds.** In every reachable state with a connection made, whatever SQLite
    refuses and in whatever order the threads run, the rows are those of some of the received
    measurements with an id, in the order they were received and numbered from 1; and every other one
    of these was refused by SQLite, is in the hand of the storage manager or is unread in the buffer. -/
theorem stored_rows (cfg : ListenConfig V) (process : D → SensorData V → D) {sqlite : Sqlite V}
    (hlawful : sqlite.Lawful) (asLiteral : V → V) (sensors : D) (db : Database V)
    {s : ParentProcess V D}
    (h : (parentSystem cfg process sqlite asLiteral sensors db).Reachable s)
    (hconnected : s.main.storage = .connected) :
    ∃ stored unread, s.db.rows = (stored.zipIdx 1).map (rowOf asLiteral) ∧
      stored.Sublist (s.main.listen.inserted.filter SensorData.hasId) ∧
      s.main.gateway.buffer.unread .storagemgr = some unread ∧
      (stored ++ s.main.gateway.failed ++ (s.main.gateway.pc .storagemgr).inHand ++
        unread.filter SensorData.hasId).Perm (s.main.listen.inserted.filter SensorData.hasId) := by
  have hmain := s.reachable_main h
  have hgateway := reachable_gateway hmain (by rw [hconnected]; simp)
  obtain ⟨q, hinv⟩ := reachable_inv hgateway
  have hreceived : s.main.listen.inserted = q.log := by
    rw [← (reachable_mainProcess hmain).inserted, hinv.accounts.log_eq]
  have hsplit : s.main.listen.inserted.filter SensorData.hasId =
      s.main.gateway.handled .storagemgr ++ (s.main.gateway.pc .storagemgr).inHand ++
        (q.pending .storagemgr).filter SensorData.hasId := by
    rw [hreceived, hinv.accounts.handled_eq, ← List.filter_append, q.given_append_pending]
  refine ⟨s.main.gateway.table, q.pending .storagemgr, ?_, ?_, hinv.unread_eq .storagemgr, ?_⟩
  · rw [Database.rows, (s.reachable_stored hlawful h).table_eq hconnected, Option.map_some,
      Option.getD_some, table_rows_insertAll]
    rfl
  · rw [hsplit, List.append_assoc]
    exact (table_sublist hgateway).trans (List.sublist_append_left ..)
  · rw [hsplit]
    exact (hinv.accounts.calls_perm.append_right _).append_right _

theorem stored_rows_storing :
    ∃ stored : List (SensorData (BitVec 64)),
      (exampleParent.after storingRun).db.rows = (stored.zipIdx 1).map (rowOf fun v => v) ∧
      stored.Sublist [⟨15, 20, 101⟩] := by
  obtain ⟨stored, -, hrows, hsub, -⟩ := stored_rows exampleListen (fun _ _ => ())
    freeSqlite_lawful (fun v => v) () (noTable (BitVec 64)) storingRun_reachable (by decide)
  exact ⟨stored, hrows, hsub⟩

end Rows

end SensorGateway
