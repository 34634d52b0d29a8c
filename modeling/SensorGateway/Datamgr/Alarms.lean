import SensorGateway.Datamgr.Window

set_option autoImplicit false

/-! # The alarms of the data manager

What the data manager should log about a measurement, given the measurements before it
(`alarmsFor`), and that it logs this and nothing else in every run
(`alarms_right_in_every_run`). -/

namespace SensorGateway

variable {L : ℕ} {cfg : Thresholds ℚ} {sensors : List (SensorNode ℚ L)}

/-- The log events for the measurement `m` after the measurements `earlier`, for sensors with the ids
    `ids`: an unknown id is reported; a known sensor that has `L` readings, this one included, is
    reported as too cold or too hot by the mean of its last `L` readings. -/
def alarmsFor (L : ℕ) (cfg : Thresholds ℚ) (ids : List UInt16) (earlier : List (SensorData ℚ))
    (m : SensorData ℚ) : List (LogEvent ℚ) :=
  let readings := readingsOf (earlier ++ [m]) m.id
  let mean := (readings.drop (readings.length - L)).sum / L
  if m.id ∉ ids then [.invalidId m.id]
  else if readings.length < L then []
  else
    (if mean < cfg.minTemp then [.tooCold m.id mean] else []) ++
      (if cfg.maxTemp < mean then [.tooHot m.id mean] else [])

/-- The log events for measurements, in order. -/
def alarmLog (L : ℕ) (cfg : Thresholds ℚ) (ids : List UInt16) (ms : List (SensorData ℚ)) :
    List (LogEvent ℚ) :=
  ms.zipIdx.flatMap fun p => alarmsFor L cfg ids (ms.take p.2) p.1

theorem alarmLog_concat (ids : List UInt16) (ms : List (SensorData ℚ)) (m : SensorData ℚ) :
    alarmLog L cfg ids (ms ++ [m]) = alarmLog L cfg ids ms ++ alarmsFor L cfg ids ms m := by
  unfold alarmLog
  rw [List.zipIdx_append, List.flatMap_append, List.zipIdx_singleton, List.flatMap_singleton,
    Nat.zero_add, List.take_left]
  congr 1
  -- what comes before an earlier measurement is the same with and without `m`
  refine List.flatMap_congr ?_
  rintro ⟨m', i⟩ hmem
  have hi := (List.mem_zipIdx hmem).2.1
  rw [List.take_append_of_le_length (by omega)]

theorem placeOf_eq_none_iff {ids : List UInt16} {id : UInt16} : placeOf ids id = none ↔ id ∉ ids := by
  unfold placeOf
  rw [List.findIdx?_eq_none_iff]
  constructor
  · intro hall hmem
    exact absurd (hall id hmem) (by simp)
  · rintro hnot id' hmem
    refine beq_eq_false_iff_ne.2 ?_
    rintro rfl
    exact hnot hmem

/-- The alarms of a node that has seen the readings `rs` are those of the mean of the last `L`. -/
theorem SensorNode.Holds.alarms_eq {node : SensorNode ℚ L} {rs : List ℚ} (h : node.Holds rs)
    (hL : 0 < L) (hlt : rs.length < 2147483648) :
    node.alarms cfg =
      if rs.length < L then [] else averageEvents cfg node.sensorId (meanOfLast L rs) := by
  unfold SensorNode.alarms
  rw [h.mean hL hlt, h.nr_eq, wrapInt_of_lt (by omega) (by omega)]
  by_cases hfull : L ≤ rs.length
  · rw [if_pos (by omega), if_neg (by omega)]
  · rw [if_neg (by omega), if_pos (by omega)]

/-- The node at the place of a sensor has its id. -/
theorem Datamgr.Tracks.sensorId_eq {d : Datamgr ℚ L} {ms : List (SensorData ℚ)}
    (h : d.Tracks sensors ms) {id : UInt16} {k : ℕ} (hplace : placeOf (sensorIds sensors) id = some k)
    {node : SensorNode ℚ L} (hnode : d.sensors[k]? = some node) : node.sensorId = id := by
  have hid := placeOf_some hplace
  rw [← h.ids_eq, sensorIds, List.getElem?_map, hnode] at hid
  exact Option.some.inj hid

/-- **A measurement is logged right.** -/
theorem Datamgr.Tracks.handle_events {d : Datamgr ℚ L} {ms : List (SensorData ℚ)}
    (h : d.Tracks sensors ms) (cfg : Thresholds ℚ) (hL : 0 < L) (m : SensorData ℚ)
    (hlt : (readingsOf (ms ++ [m]) m.id).length < 2147483648) :
    ∃ d', datamgrHandle cfg d m = some d' ∧ d'.Tracks sensors (ms ++ [m]) ∧
      d'.events = d.events ++ alarmsFor L cfg (sensorIds sensors) ms m := by
  unfold datamgrHandle
  cases hplace : placeOf (sensorIds sensors) m.id with
  | none =>
      obtain ⟨d', hread, -, htracks⟩ : ∃ d', d.reading cfg m.id m.value (Int64.ofNat m.id.toNat)
          [.invalidId m.id] = some d' ∧ d'.sensors = d.sensors ∧ d'.Tracks sensors (ms ++ [m]) :=
        h.reading_unknown hplace
      refine ⟨d', hread, htracks, ?_⟩
      rw [reading_eq, h.ids_eq, hplace] at hread
      obtain rfl := Option.some.inj hread
      rw [alarmsFor, if_pos (placeOf_eq_none_iff.1 hplace)]
  | some k =>
      have hcount := hlt
      rw [readingsOf_concat_self, List.length_append, List.length_singleton] at hcount
      obtain ⟨d', hread, -, htracks⟩ : ∃ d', d.reading cfg m.id m.value (Int64.ofNat m.id.toNat)
          [.invalidId m.id] = some d' ∧ (∀ j, j ≠ k → d'.sensors[j]? = d.sensors[j]?) ∧
          d'.Tracks sensors (ms ++ [m]) :=
        h.reading_known hL hplace (by omega)
      refine ⟨d', hread, htracks, ?_⟩
      -- the events are the alarms of the node as it is after the reading
      obtain ⟨node, hnode, hholds⟩ := h.holds m.id k hplace
      obtain ⟨node', htake, hholds', hid, -⟩ :=
        hholds.take hL (by omega) m.value (Int64.ofNat m.id.toNat)
      have hplace' : placeOf (sensorIds d.sensors) m.id = some k := by rw [h.ids_eq, hplace]
      rw [reading_eq, hplace'] at hread
      dsimp only at hread
      rw [record_eq cfg hplace' hnode, htake] at hread
      obtain rfl := Option.some.inj hread
      have hknown : ¬ m.id ∉ sensorIds sensors := by
        rw [← placeOf_eq_none_iff, hplace]
        simp
      rw [← readingsOf_concat_self] at hholds'
      dsimp only
      rw [hholds'.alarms_eq hL hlt, hid, h.sensorId_eq hplace hnode, alarmsFor, if_neg hknown]
      split
      · rfl
      · next hfull =>
          rw [meanOfLast, if_pos (Nat.le_of_not_lt hfull)]
          rfl

/-- **The alarms are right in every run.** After any measurements, fewer than `2 ^ 31` for each
    sensor, the data manager has logged, for each of them in order, that no node has its id, or
    nothing if its sensor has fewer than `L` readings so far, or that the sensor is too cold or too hot
    by the exact mean of its last `L` readings, and nothing else. -/
theorem alarms_right_in_every_run (cfg : Thresholds ℚ) (hL : 0 < L)
    (hfresh : ∀ node ∈ sensors, node.IsFresh) {ms : List (SensorData ℚ)}
    (hcount : ∀ id, (readingsOf ms id).length < 2147483648) :
    ∃ d, ms.foldlM (datamgrHandle cfg) ⟨sensors, []⟩ = some d ∧
      d.events = alarmLog L cfg (sensorIds sensors) ms := by
  -- the nodes have to be followed along with the events
  suffices hrun : ∃ d, ms.foldlM (datamgrHandle cfg) ⟨sensors, []⟩ = some d ∧
      d.Tracks sensors ms ∧ d.events = alarmLog L cfg (sensorIds sensors) ms by
    obtain ⟨d, hd, -, hevents⟩ := hrun
    exact ⟨d, hd, hevents⟩
  induction ms using List.reverseRecOn with
  | nil => exact ⟨_, rfl, tracks_fresh hfresh hL, rfl⟩
  | append_singleton ms m ih =>
      have hmono : ∀ id, (readingsOf ms id).length ≤ (readingsOf (ms ++ [m]) id).length := by
        intro id
        rw [readingsOf, readingsOf, List.filter_append, List.map_append, List.length_append]
        exact Nat.le_add_right _ _
      obtain ⟨d, hd, htracks, hevents⟩ := ih fun id => (hmono id).trans_lt (hcount id)
      obtain ⟨d', hhandle, htracks', hevents'⟩ := htracks.handle_events cfg hL m (hcount m.id)
      refine ⟨d', ?_, htracks', ?_⟩
      · rw [List.foldlM_append, hd]
        simp only [Option.bind_eq_bind, Option.bind_some, List.foldlM_cons, List.foldlM_nil, hhandle]
        rfl
      · rw [hevents', hevents, alarmLog_concat]

theorem alarms_right_in_every_run_example :
    ∃ d : Datamgr ℚ 2, exampleReadings.foldlM (datamgrHandle ⟨19, 21⟩) ⟨exampleSensors, []⟩ = some d ∧
      d.events = [.invalidId 37, .tooHot 15 ((22 + 27) / 2)] := by
  have hfresh : ∀ node ∈ exampleSensors, node.IsFresh := by
    intro node hnode
    simp only [exampleSensors, List.mem_cons, List.not_mem_nil, or_false] at hnode
    rcases hnode with rfl | rfl | rfl <;> exact ⟨rfl, rfl⟩
  have hcount : ∀ id, (readingsOf exampleReadings id).length < 2147483648 := fun id =>
    (readingsOf_length_le exampleReadings id).trans_lt (by decide)
  obtain ⟨d, hd, hevents⟩ := alarms_right_in_every_run ⟨19, 21⟩ (by decide) hfresh hcount
  refine ⟨d, hd, hevents.trans ?_⟩
  decide +kernel

end SensorGateway
