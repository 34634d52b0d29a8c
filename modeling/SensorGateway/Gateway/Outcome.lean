import SensorGateway.Datamgr.RingIndex
import SensorGateway.Gateway.StorageManager

set_option autoImplicit false

/-! # What comes of a run

If SQLite refuses nothing and the managers have read all measurements before they leave their loops,
the order in which the threads ran makes no difference: the sensor list and the table are functions
of the measurements that were received (`shutdown_outcome`). -/

namespace SensorGateway

variable {V D : Type} [Zero V]

section Reliable

variable {cfg : ListenConfig V} {process : D → SensorData V → D} {sqlite : Sqlite V}
  {asLiteral : V → V} {sensors : D} {db : Database V} {s s' : ParentProcess V D} {l : ParentStep V}

/-- The first attempt to connect succeeds, and so does every `insert_sensor` call. -/
structure ParentProcess.Unrefused (s : ParentProcess V D) : Prop where
  storage : s.main.storage = .connecting 1 ∨ s.main.storage = .connected
  failed : s.main.gateway.failed = []

theorem ParentProcess.Unrefused.step (hsqlite : sqlite.Reliable) (h : s.Unrefused)
    (hinv : s.main.Inv cfg) (hstored : s.Stored asLiteral)
    (hs : s.step cfg process sqlite asLiteral l = some s') : s'.Unrefused := by
  rcases s.step_cases hs with ⟨l', main, hmain, hinit, hcall, -, rfl⟩ | ⟨main, hmain, rfl⟩ |
    ⟨data, main, hdata, hmain, rfl⟩ | ⟨-, -, rfl⟩
  · have hsame := hinv.sameStorage hmain hinit hcall
    exact ⟨by rw [hsame.storage_eq]; exact h.storage, hsame.failed_eq.trans h.failed⟩
  · obtain ⟨attemptNr, -, hstorage, -, hfailed, -⟩ := initConnection_storage hmain
    refine ⟨Or.inr ?_, hfailed.trans h.failed⟩
    have hinit := initConnection_eq hsqlite s.db 1
    dsimp only at hinit
    rw [if_pos (Or.inl rfl)] at hinit
    rw [hstorage, hinit, Option.isSome_some, storagemgrInit, if_pos rfl]
  · obtain ⟨hstorage, hstorage', -, hfailed, -⟩ := hinv.insertCall hdata hmain
    rw [insertSensor_eq hsqlite (hstored.table_eq hstorage), if_pos (by simp)] at hfailed
    exact ⟨Or.inr hstorage', hfailed.trans h.failed⟩
  · exact ⟨h.storage, h.failed⟩

theorem ParentProcess.reachable_unrefused (hsqlite : sqlite.Reliable)
    (h : (parentSystem cfg process sqlite asLiteral sensors db).Reachable s) : s.Unrefused := by
  refine h.strengthen ParentProcess.Unrefused ⟨Or.inl rfl, rfl⟩ ?_
  intro s l s' hreach hun hs
  exact hun.step hsqlite (reachable_mainProcess (s.reachable_main hreach))
    (s.reachable_stored hsqlite.toLawful hreach) hs

omit [Zero V] in
/-- A manager that has left its loop with nothing unread has handled all that was received. -/
theorem Gateway.Drained.handled_eq {g : Gateway V D} {q : Broadcast Reader (SensorData V)}
    (h : g.Drained) (hinv : g.Inv q) {r : Reader} (hpc : g.pc r = .exited) :
    g.handled r = g.inserted.filter SensorData.hasId := by
  have hnone : (q.pending r).filter SensorData.hasId = [] := by
    rw [List.filter_eq_nil_iff]
    intro m hm hid
    exact m.hasId_iff.1 hid (h r hpc _ (hinv.unread_eq r) m hm)
  have hgiven := hinv.accounts.handled_eq r
  rw [hpc, ManagerPc.inHand, List.append_nil] at hgiven
  rw [hinv.accounts.log_eq, ← q.given_append_pending r, List.filter_append, hnone, List.append_nil,
    hgiven]

/-- A shutdown that leaves nothing unread has stored all that was received. -/
theorem ParentProcess.joined_table (hsqlite : sqlite.Reliable)
    (h : (parentSystem cfg process sqlite asLiteral sensors db).Reachable s)
    (hjoined : s.main.gateway.main = .joined) (hdrained : s.main.gateway.Drained) :
    s.db.table = some (Table.empty.insertAll asLiteral
      (s.main.listen.inserted.filter SensorData.hasId)) := by
  have hmain := s.reachable_main h
  have hun := s.reachable_unrefused hsqlite h
  obtain ⟨fails, hconnects⟩ := s.exists_connects h
  have hconnected : s.main.storage = .connected :=
    hun.storage.resolve_left ((hconnects.joined hjoined).2 1)
  have hgateway := reachable_gateway hmain (by rw [hconnected]; simp)
  obtain ⟨q, hinv⟩ := reachable_inv hgateway
  have htable := (s.reachable_stored hsqlite.toLawful h).table_eq hconnected
  rwa [hinv.accounts.table_eq hun.failed,
    hdrained.handled_eq hinv (hinv.control.joined hjoined .storagemgr),
    (reachable_mainProcess hmain).inserted] at htable

/-- A shutdown that leaves nothing unread has processed all that was received. -/
theorem ParentProcess.joined_sensors (hsqlite : sqlite.Reliable)
    (h : (parentSystem cfg process sqlite asLiteral sensors db).Reachable s)
    (hjoined : s.main.gateway.main = .joined) (hdrained : s.main.gateway.Drained) :
    s.main.gateway.sensors =
      (s.main.listen.inserted.filter SensorData.hasId).foldl process sensors := by
  have hmain := s.reachable_main h
  have hgoing : s.main.storage ≠ .gaveUp := by
    rcases (s.reachable_unrefused hsqlite h).storage with hstorage | hstorage
    · simp [hstorage]
    · simp [hstorage]
  have hgateway := reachable_gateway hmain hgoing
  obtain ⟨q, hinv⟩ := reachable_inv hgateway
  rw [reachable_sensors hgateway,
    hdrained.handled_eq hinv (hinv.control.joined hjoined .datamgr),
    (reachable_mainProcess hmain).inserted]

end Reliable

omit [Zero V] in
/-- What `find_sensor_all` passes to its callback. -/
theorem findSensorAll_insertAll {sqlite : Sqlite V} (hsqlite : sqlite.Reliable) {db : Database V}
    {asLiteral : V → V} {ms : List (SensorData V)}
    (htable : db.table = some (Table.empty.insertAll asLiteral ms)) (f : List (Row V) → Row V → ℤ) :
    (findSensorAll sqlite db f).2.1 =
      (callbackRows f [] ((ms.zipIdx 1).map (rowOf asLiteral))).1 := by
  unfold findSensorAll
  rw [findSensor_eq hsqlite htable, table_rows_insertAll, List.filter_true]
  rfl

/-! ## The outcome -/

section Outcome

variable [Add V] [Div V] [NatCast V] [LT V] [DecidableLT V] {L : ℕ} {cfg : ListenConfig V}
  {thresholds : Thresholds V} {sqlite : Sqlite V} {asLiteral : V → V} {clock : ℕ → Int64}
  {map : List Char} {db : Database V} {s : ParentProcess V (Option (Datamgr V L))}

/-- The parent process whose data manager starts with the room/sensor map. -/
abbrev parentDatamgr (cfg : ListenConfig V) (thresholds : Thresholds V) (sqlite : Sqlite V)
    (asLiteral : V → V) (clock : ℕ → Int64) (map : List Char) (db : Database V) :
    StepSystem (ParentProcess V (Option (Datamgr V L))) (ParentStep V) :=
  parentSystem cfg (datamgrProcess thresholds) sqlite asLiteral
    (some ⟨parseSensorMap clock map, []⟩) db

/-- **What comes of a run.** Let SQLite refuse nothing, and let `main` have joined the managers, which
    left no measurement with an id in the buffer. In whatever order the threads ran, the data manager
    is where its loop gets from the map with the received measurements that have an id, in the order
    they were received; the rows that a query finds are theirs in this order; and no connection to the
    database is open. -/
theorem shutdown_outcome (hsqlite : sqlite.Reliable)
    (h : (parentDatamgr cfg thresholds sqlite asLiteral clock map db).Reachable s)
    (hjoined : s.main.gateway.main = .joined) (hdrained : s.main.gateway.Drained) :
    s.main.gateway.sensors = (s.main.listen.inserted.filter SensorData.hasId).foldlM
        (datamgrHandle thresholds) ⟨parseSensorMap clock map, []⟩ ∧
      (∀ f, (findSensorAll sqlite s.db f).2.1 = (callbackRows f []
        (((s.main.listen.inserted.filter SensorData.hasId).zipIdx 1).map (rowOf asLiteral))).1) ∧
      s.db.opened + db.closed = s.db.closed + db.opened := by
  refine ⟨?_, findSensorAll_insertAll hsqlite (s.joined_table hsqlite h hjoined hdrained), ?_⟩
  · rw [s.joined_sensors hsqlite h hjoined hdrained]
    exact foldl_bind (datamgrHandle thresholds) _ _
  · obtain ⟨fails, hconnects⟩ := s.exists_connects h
    have hclosed := hconnects.closed_eq
    rwa [if_pos (hconnects.joined hjoined).1] at hclosed

/-- The parent process of the examples, with a data manager for sensor 15. -/
abbrev exampleDatamgr :
    StepSystem (ParentProcess (BitVec 64) (Option (Datamgr (BitVec 64) 2))) (ParentStep (BitVec 64)) :=
  parentDatamgr exampleListen ⟨18, 25⟩ freeSqlite (fun v => v) (fun _ => 0) oneSensorMap
    (noTable (BitVec 64))

/-- The data manager also takes the measurement; then the clients fall silent. -/
def completeRun : List (ParentStep (BitVec 64)) :=
  storingRun ++ [.manager .datamgr, .manager .datamgr, .manager .datamgr,
    .connmgr (.select (readySds [])) 0, .connmgr (.leave true) 0, .connmgrExit, .main, .main, .main,
    .manager .storagemgr, .manager .datamgr, .main, .disconnect, .main]

theorem shutdown_outcome_complete :
    (findSensorAll freeSqlite (exampleDatamgr.after completeRun).db fun _ _ => 0).2.1
      = [⟨1, ⟨15, 20, 101⟩⟩] := by
  have hunread : ∀ r, (exampleDatamgr.after completeRun).main.gateway.buffer.unread r = some [] := by
    intro r
    cases r with
    | datamgr | storagemgr => decide
  have hdrained : (exampleDatamgr.after completeRun).main.gateway.Drained := by
    intro r _ ms hms m hm
    obtain rfl := Option.some.inj ((hunread r).symm.trans hms)
    exact absurd hm List.not_mem_nil
  exact (shutdown_outcome freeSqlite_reliable (StepSystem.reachable_after (by decide)) (by decide)
    hdrained).2.1 _

end Outcome

end SensorGateway
