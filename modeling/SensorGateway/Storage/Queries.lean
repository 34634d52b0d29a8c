import SensorGateway.Library.Rounding
import SensorGateway.Storage.DbSessions

set_option autoImplicit false

/-! # `sensor_db.c`: finding what was inserted

A query goes through the table that `init_connection(1)` created and a sequence of insertions filled
(`exec_insertions`), and its callback gets the rows that meet the condition. Timestamps are written
to the statements as they are, so a query for them finds exactly what was inserted
(`timestamp_queries_exact`). Values are exact numbers here, and `%f` writes them with six decimals, in
the statement that inserts and in the one that searches: see `value_queries_exact_iff`. -/

namespace SensorGateway

variable {V : Type}

/-- The row of the measurement that was inserted as number `p.2`. -/
def rowOf (asLiteral : V → V) (p : SensorData V × ℕ) : Row V :=
  ⟨p.2, { p.1 with value := asLiteral p.1.value }⟩

/-- The rows of those measurements of `ms` that meet a condition, as they were handed to
    `insert_sensor`. -/
def rowsWhere (asLiteral : V → V) (ms : List (SensorData V)) (condition : SensorData V → Bool) :
    List (Row V) :=
  ((ms.zipIdx 1).filter fun p => condition p.1).map (rowOf asLiteral)

/-- A database that is cleared up, and the measurements `ms` inserted. -/
def insertionCalls (ms : List (SensorData V)) : List (DbCall V) :=
  .initConnection 1 :: ms.map .insertSensor

/-! ## Selecting -/

/-- If `p` holds wherever `q` does, selecting by `p` gives more unless `q` holds wherever `p` does. -/
theorem map_filter_eq_iff {α β : Type} (g : α → β) {p q : α → Bool}
    (hqp : ∀ x, q x = true → p x = true) (xs : List α) :
    (xs.filter p).map g = (xs.filter q).map g ↔ ∀ x ∈ xs, p x = true → q x = true := by
  constructor
  · intro heq x hx hpx
    have hlen : (xs.filter q).length = (xs.filter p).length := by
      simpa using (congrArg List.length heq).symm
    have hfilter := (List.monotone_filter_right xs hqp).eq_of_length hlen
    have hmem : x ∈ xs.filter q := by
      rw [hfilter]
      exact List.mem_filter.2 ⟨hx, hpx⟩
    exact (List.mem_filter.1 hmem).2
  · intro hpq
    refine congrArg (List.map g) (List.filter_congr fun x hx => ?_)
    rw [Bool.eq_iff_iff]
    exact ⟨hpq x hx, hqp x⟩

/-- A callback gets all rows of the result if it never asks to stop. -/
theorem callbackRows_zero (earlier rows : List (Row V)) :
    callbackRows (fun _ _ => 0) earlier rows = (earlier ++ rows, true) := by
  induction rows generalizing earlier with
  | nil => rw [callbackRows, List.append_nil]
  | cons row rows ih =>
      rw [callbackRows, if_neg (by simp), ih, List.append_assoc]
      rfl

section Queries

variable {sqlite : Sqlite V} {asLiteral : V → V} {db : Database V}

/-- The rows that insertions add are numbered from the last id on. -/
theorem table_rows_insertAll (asLiteral : V → V) (ms : List (SensorData V)) (table : Table V) :
    (table.insertAll asLiteral ms).rows =
      table.rows ++ (ms.zipIdx (table.lastId + 1)).map (rowOf asLiteral) := by
  induction ms generalizing table with
  | nil => exact (List.append_nil _).symm
  | cons m ms ih =>
      rw [List.zipIdx_cons, List.map_cons, Table.insertAll, List.foldl_cons, ← Table.insertAll, ih,
        table_rows_insert, List.append_assoc]
      rfl

/-- **The table after the insertions** holds the row of each measurement, and nothing else. -/
theorem Sqlite.Reliable.exec_insertions (h : sqlite.Reliable) (asLiteral : V → V) (db : Database V)
    (ms : List (SensorData V)) :
    ∃ s table, (dbSystem sqlite asLiteral db).exec (dbSystem sqlite asLiteral db).init
        (insertionCalls ms) = some s ∧
      s.db.table = some table ∧ table.rows = (ms.zipIdx 1).map (rowOf asLiteral) := by
  obtain ⟨s, hexec, -, htable, -⟩ :=
    h.exec_connected asLiteral db (Or.inl rfl : (1 : Int8) = 1 ∨ db.table = none) ms
  exact ⟨s, _, hexec, htable, table_rows_insertAll asLiteral ms .empty⟩

/-- A query on a table that is there. -/
theorem findSensor_eq (h : sqlite.Reliable) {table : Table V} (htable : db.table = some table)
    (condition : SensorData V → Bool) (f : List (Row V) → Row V → ℤ) :
    (findSensor sqlite db condition f).2.1 =
      (callbackRows f [] (table.rows.filter fun row => condition row.data)).1 := by
  unfold findSensor
  rw [h.exec_eq, htable, ← h.callback_eq]
  dsimp only [Statement.run, Option.map_some]
  split
  · rfl
  · rfl

/-- The query invokes any callback just as if it got the rows of those measurements that met
    `condition` when they were handed to `insert_sensor`. -/
def FindsInserted (sqlite : Sqlite V) (asLiteral : V → V) (db : Database V) (ms : List (SensorData V))
    (condition : SensorData V → Bool)
    (query : Database V → (List (Row V) → Row V → ℤ) → ℤ × List (Row V) × Database V) : Prop :=
  ∃ s, (dbSystem sqlite asLiteral db).exec (dbSystem sqlite asLiteral db).init (insertionCalls ms)
      = some s ∧
    ∀ f, (query s.db f).2.1 = (callbackRows f [] (rowsWhere asLiteral ms condition)).1

/-- A query finds what was inserted if its condition and that of its `WHERE`, on the values as they
    are stored, select the same. -/
theorem Sqlite.Reliable.findsInserted_iff (h : sqlite.Reliable) (ms : List (SensorData V))
    (condition selected : SensorData V → Bool) :
    FindsInserted sqlite asLiteral db ms condition
        (fun db f => findSensor sqlite db selected f) ↔
      rowsWhere asLiteral ms (fun m => selected { m with value := asLiteral m.value }) =
        rowsWhere asLiteral ms condition := by
  obtain ⟨s, table, hexec, htable, hrows⟩ := h.exec_insertions asLiteral db ms
  have hselect : (table.rows.filter fun row => selected row.data) =
      rowsWhere asLiteral ms fun m => selected { m with value := asLiteral m.value } := by
    rw [hrows, List.filter_map]
    rfl
  constructor
  · rintro ⟨s', hexec', hfinds⟩
    obtain rfl := Option.some.inj (hexec.symm.trans hexec')
    have hall := hfinds fun _ _ => 0
    rwa [findSensor_eq h htable, hselect, callbackRows_zero, callbackRows_zero] at hall
  · intro heq
    refine ⟨s, hexec, fun f => ?_⟩
    rw [findSensor_eq h htable, hselect, heq]

theorem forall_mem_zipIdx (P : SensorData V → Prop) (ms : List (SensorData V)) (k : ℕ) :
    (∀ p ∈ ms.zipIdx k, P p.1) ↔ ∀ m ∈ ms, P m := by
  have hmap := List.forall_mem_map (l := ms.zipIdx k) (f := Prod.fst) (P := P)
  rw [List.zipIdx_map_fst] at hmap
  exact hmap.symm

/-- **Timestamps are found as they were inserted**, whatever happens to the values. -/
theorem timestamp_queries_exact (h : sqlite.Reliable) (ms : List (SensorData V)) (ts : Int64) :
    FindsInserted sqlite asLiteral db ms (fun m => m.ts = ts)
        (fun db f => findSensorByTimestamp sqlite db ts f) ∧
      FindsInserted sqlite asLiteral db ms (fun m => ts < m.ts)
        (fun db f => findSensorAfterTimestamp sqlite db ts f) ∧
      FindsInserted sqlite asLiteral db ms (fun _ => true)
        (fun db f => findSensorAll sqlite db f) :=
  ⟨(h.findsInserted_iff ms _ _).2 rfl, (h.findsInserted_iff ms _ _).2 rfl,
    (h.findsInserted_iff ms _ _).2 rfl⟩

end Queries

/-! ## Values with six decimals -/

/-- The number that `%f` writes. -/
def sixDecimals (r : NearestInt ℚ) (value : ℚ) : ℚ := r.onGrid 1000000 value

section Values

variable {sqlite : Sqlite ℚ} {db : Database ℚ}

/-- A query for a value finds all that is stored as it is. -/
theorem Sqlite.Reliable.findsByValue_iff (h : sqlite.Reliable) (r : NearestInt ℚ)
    (ms : List (SensorData ℚ)) (v : ℚ) :
    FindsInserted sqlite (sixDecimals r) db ms (fun m => m.value = v)
        (fun db f => findSensorByValue sqlite (sixDecimals r) db v f) ↔
      ∀ m ∈ ms, sixDecimals r m.value = sixDecimals r v → m.value = v := by
  have hwider : ∀ p : SensorData ℚ × ℕ, decide (p.1.value = v) = true →
      decide (sixDecimals r p.1.value = sixDecimals r v) = true := by
    intro p hp
    rw [of_decide_eq_true hp, decide_eq_true rfl]
  unfold findSensorByValue
  rw [h.findsInserted_iff, rowsWhere, rowsWhere, map_filter_eq_iff _ hwider]
  simp only [decide_eq_true_eq]
  exact forall_mem_zipIdx (fun m => sixDecimals r m.value = sixDecimals r v → m.value = v) ms 1

/-- A query for what exceeds a value finds nothing that does not, but may lose some of it. -/
theorem Sqlite.Reliable.findsExceedValue_iff (h : sqlite.Reliable) (r : NearestInt ℚ)
    (ms : List (SensorData ℚ)) (v : ℚ) :
    FindsInserted sqlite (sixDecimals r) db ms (fun m => v < m.value)
        (fun db f => findSensorExceedValue sqlite (sixDecimals r) db v f) ↔
      ∀ m ∈ ms, v < m.value → sixDecimals r v < sixDecimals r m.value := by
  have hnarrower : ∀ p : SensorData ℚ × ℕ,
      decide (sixDecimals r v < sixDecimals r p.1.value) = true →
        decide (v < p.1.value) = true := by
    intro p hp
    exact decide_eq_true (r.lt_of_onGrid_lt (by norm_num) (of_decide_eq_true hp))
  unfold findSensorExceedValue
  rw [h.findsInserted_iff, eq_comm, rowsWhere, rowsWhere, map_filter_eq_iff _ hnarrower]
  simp only [decide_eq_true_eq]
  exact forall_mem_zipIdx (fun m => v < m.value → sixDecimals r v < sixDecimals r m.value) ms 1

/-- **Both queries find exactly what was inserted** if and only if no inserted value other than `v`
    has the same six decimals as `v`. -/
theorem value_queries_exact_iff (h : sqlite.Reliable) (r : NearestInt ℚ) (db : Database ℚ)
    (ms : List (SensorData ℚ)) (v : ℚ) :
    (FindsInserted sqlite (sixDecimals r) db ms (fun m => m.value = v)
          (fun db f => findSensorByValue sqlite (sixDecimals r) db v f) ∧
        FindsInserted sqlite (sixDecimals r) db ms (fun m => v < m.value)
          (fun db f => findSensorExceedValue sqlite (sixDecimals r) db v f)) ↔
      ∀ m ∈ ms, m.value ≠ v → sixDecimals r m.value ≠ sixDecimals r v := by
  rw [h.findsByValue_iff, h.findsExceedValue_iff]
  constructor
  · rintro ⟨hvalue, -⟩ m hm hne heq
    exact hne (hvalue m hm heq)
  · intro hdistinct
    refine ⟨fun m hm heq => ?_, fun m hm hlt => ?_⟩
    · by_contra hne
      exact hdistinct m hm hne heq
    · have hle : sixDecimals r v ≤ sixDecimals r m.value := r.onGrid_mono (by norm_num) hlt.le
      exact lt_of_le_of_ne hle (hdistinct m hm hlt.ne').symm

/-- Numbers with at most six decimals are written as they are, so they are told apart. -/
theorem sixDecimals_ne (r : NearestInt ℚ) {x v : ℚ} (hx : ∃ n : ℤ, x = n / 1000000)
    (hv : ∃ n : ℤ, v = n / 1000000) (hne : x ≠ v) : sixDecimals r x ≠ sixDecimals r v := by
  obtain ⟨n, rfl⟩ := hx
  obtain ⟨k, rfl⟩ := hv
  unfold sixDecimals
  rwa [r.onGrid_intCast_div (by norm_num), r.onGrid_intCast_div (by norm_num)]

end Values

theorem value_queries_exact_iff_example :
    FindsInserted freeSqlite (sixDecimals (nearestAway ℚ)) (noTable ℚ)
        [⟨15, 20, 0⟩, ⟨21, 41 / 2, 10⟩] (fun m => m.value = 20)
        (fun db f => findSensorByValue freeSqlite (sixDecimals (nearestAway ℚ)) db 20 f) ∧
      FindsInserted freeSqlite (sixDecimals (nearestAway ℚ)) (noTable ℚ)
        [⟨15, 20, 0⟩, ⟨21, 41 / 2, 10⟩] (fun m => 20 < m.value)
        (fun db f => findSensorExceedValue freeSqlite (sixDecimals (nearestAway ℚ)) db 20 f) := by
  refine (value_queries_exact_iff freeSqlite_reliable (nearestAway ℚ) (noTable ℚ) _ 20).2 ?_
  intro m hm hne
  rcases List.mem_pair.1 hm with rfl | rfl
  · exact absurd rfl hne
  · exact sixDecimals_ne (nearestAway ℚ) ⟨20500000, by norm_num⟩ ⟨20000000, by norm_num⟩ hne

/-- The measurement 20.0000001 is found as one of 20, and not as one that exceeds 20. -/
theorem seventh_decimal_lost :
    ¬ FindsInserted freeSqlite (sixDecimals (nearestAway ℚ)) (noTable ℚ)
        [⟨15, 200000001 / 10000000, 0⟩] (fun m => m.value = 20)
        (fun db f => findSensorByValue freeSqlite (sixDecimals (nearestAway ℚ)) db 20 f) ∧
      ¬ FindsInserted freeSqlite (sixDecimals (nearestAway ℚ)) (noTable ℚ)
        [⟨15, 200000001 / 10000000, 0⟩] (fun m => 20 < m.value)
        (fun db f => findSensorExceedValue freeSqlite (sixDecimals (nearestAway ℚ)) db 20 f) := by
  rw [freeSqlite_reliable.findsByValue_iff, freeSqlite_reliable.findsExceedValue_iff]
  have hround : sixDecimals (nearestAway ℚ) (200000001 / 10000000) =
      sixDecimals (nearestAway ℚ) 20 := by decide +kernel
  refine ⟨fun h => ?_, fun h => ?_⟩
  · exact absurd (h _ (List.mem_singleton_self _) hround) (by norm_num)
  · exact absurd (h _ (List.mem_singleton_self _) (by norm_num)) (not_lt.2 hround.le)

end SensorGateway
