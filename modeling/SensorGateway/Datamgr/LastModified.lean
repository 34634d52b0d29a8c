import SensorGateway.Datamgr.Window

set_option autoImplicit false

/-! # `datamgr_get_last_modified`

A reading sets the timestamp of the node that is found for its sensor, and of no other. After any
run the getter returns what was stored for the last measurement of the sensor
(`deliver_lastModified`). The buffer path stores the id of the measurement there, so this is the time
of the last measurement only where the two are equal (`last_modified_is_time_iff`). -/

namespace SensorGateway

variable {V : Type} {L : ℕ}

/-- `datamgr_get_last_modified`. -/
def datamgrGetLastModified [Zero V] (d : Datamgr V L) (id : UInt16) : Option Int64 := do
  let found ← getSensorNodeWithId d.sensors id
  let thisSensorNode ← found
  let node ← d.sensors[thisSensorNode]?
  return node.timestamp

/-- The last measurement of sensor `id`. -/
def lastOf (ms : List (SensorData V)) (id : UInt16) : Option (SensorData V) :=
  (ms.filter fun m => m.id == id).getLast?

@[simp] theorem lastOf_nil (id : UInt16) : lastOf ([] : List (SensorData V)) id = none := rfl

theorem lastOf_concat_self (ms : List (SensorData V)) (m : SensorData V) :
    lastOf (ms ++ [m]) m.id = some m := by
  simp [lastOf]

theorem lastOf_concat_ne (ms : List (SensorData V)) {m : SensorData V} {id : UInt16}
    (hid : m.id ≠ id) : lastOf (ms ++ [m]) id = lastOf ms id := by
  simp [lastOf, hid]

/-- The last measurement of a sensor is one of that sensor. -/
theorem lastOf_id {ms : List (SensorData V)} {id : UInt16} {m : SensorData V}
    (h : lastOf ms id = some m) : m.id = id := by
  have hmem := List.mem_of_getLast? h
  simpa using (List.mem_filter.1 hmem).2

/-! ## One reading -/

theorem datamgrGetLastModified_eq [Zero V] (d : Datamgr V L) (id : UInt16) :
    datamgrGetLastModified d id =
      (placeOf (sensorIds d.sensors) id).bind fun k => d.sensors[k]?.map SensorNode.timestamp := by
  unfold datamgrGetLastModified
  rw [getSensorNodeWithId_eq, Option.bind_eq_bind, Option.bind_some]
  refine Option.bind_congr ?_
  intro k _
  exact (Option.map_eq_bind ..).symm

section Readings

variable [Zero V] [Add V] [Div V] [NatCast V]

theorem SensorNode.take_timestamp {node node' : SensorNode V L} {value : V} {timestamp : Int64}
    (h : node.take value timestamp = some node') :
    node'.timestamp = timestamp ∧ node'.sensorId = node.sensorId := by
  unfold SensorNode.take at h
  simp only [Option.bind_eq_bind, Option.bind_eq_some_iff] at h
  obtain ⟨position, -, temperatures, -, average, -, hnode⟩ := h
  obtain rfl := Option.some.inj hnode
  exact ⟨rfl, rfl⟩

variable [LT V] [DecidableLT V] {cfg : Thresholds V} {d d' : Datamgr V L}

/-- **A reading sets the timestamp of its sensor**, and leaves those of the others alone. -/
theorem reading_lastModified {id : UInt16} {value : V} {timestamp : Int64}
    {unknown : List (LogEvent V)} (h : d.reading cfg id value timestamp unknown = some d') :
    sensorIds d'.sensors = sensorIds d.sensors ∧
      (placeOf (sensorIds d.sensors) id ≠ none → datamgrGetLastModified d' id = some timestamp) ∧
      ∀ id', id' ≠ id → datamgrGetLastModified d' id' = datamgrGetLastModified d id' := by
  rw [reading_eq] at h
  cases hplace : placeOf (sensorIds d.sensors) id with
  | none =>
      rw [hplace] at h
      obtain rfl := Option.some.inj h
      exact ⟨rfl, fun hne => absurd rfl hne, fun _ _ => rfl⟩
  | some k =>
      obtain ⟨hk, -⟩ := List.getElem?_eq_some_iff.1 (placeOf_some hplace)
      have hk : k < d.sensors.length := by simpa [sensorIds] using hk
      have hnode : d.sensors[k]? = some d.sensors[k] := List.getElem?_eq_getElem hk
      rw [hplace] at h
      dsimp only at h
      rw [record_eq cfg hplace hnode] at h
      obtain ⟨node', htake, rfl⟩ := Option.map_eq_some_iff.1 h
      obtain ⟨htime, hid⟩ := SensorNode.take_timestamp htake
      have hids := sensorIds_set hnode hid
      refine ⟨hids, fun _ => ?_, ?_⟩
      · rw [datamgrGetLastModified_eq, hids, hplace, Option.bind_some, List.getElem?_set_self hk,
          Option.map_some, htime]
      · intro id' hne
        rw [datamgrGetLastModified_eq, datamgrGetLastModified_eq, hids]
        refine Option.bind_congr ?_
        intro j hj
        -- two sensors have different places
        have hkj : k ≠ j := by
          rintro rfl
          exact hne (Option.some.inj ((placeOf_some hj).symm.trans (placeOf_some hplace)))
        rw [List.getElem?_set_ne hkj]

/-! ## Runs of readings -/

variable (stamp : SensorData V → Int64) (report : SensorData V → List (LogEvent V))

/-- **After a run the getter returns the stamp of the last measurement of the sensor.** -/
theorem deliver_lastModified {ms : List (SensorData V)}
    (h : Datamgr.deliver cfg stamp report d ms = some d') :
    sensorIds d'.sensors = sensorIds d.sensors ∧
      ∀ id m, placeOf (sensorIds d.sensors) id ≠ none → lastOf ms id = some m →
        datamgrGetLastModified d' id = some (stamp m) := by
  induction ms using List.reverseRecOn generalizing d' with
  | nil =>
      obtain rfl : d = d' := Option.some.inj h
      exact ⟨rfl, fun id m _ hlast => absurd hlast (by simp)⟩
  | append_singleton ms m ih =>
      rw [deliver_concat] at h
      obtain ⟨d₁, hd₁, hread⟩ := Option.bind_eq_some_iff.1 h
      obtain ⟨hids, htimes⟩ := ih hd₁
      obtain ⟨hids', hself, hother⟩ := reading_lastModified hread
      refine ⟨hids'.trans hids, ?_⟩
      intro id m' hknown hlast
      by_cases hid : m.id = id
      · subst hid
        rw [lastOf_concat_self] at hlast
        obtain rfl := Option.some.inj hlast
        exact hself (by rwa [hids])
      · rw [lastOf_concat_ne ms hid] at hlast
        rw [hother id (Ne.symm hid)]
        exact htimes id m' hknown hlast

/-- **When the reading time is kept.** After any measurements from the buffer,
    `datamgr_get_last_modified` returns the time of the last measurement of every known sensor that
    has one, and a measurement of another sensor does not change it, exactly if the time of each of
    those last measurements is, as a number, the id of its sensor. -/
theorem last_modified_is_time_iff (cfg : Thresholds V) {sensors : List (SensorNode V L)}
    {ms : List (SensorData V)} {d : Datamgr V L}
    (h : ms.foldlM (datamgrHandle cfg) ⟨sensors, []⟩ = some d) :
    ((∀ id m, getSensorNodeWithId sensors id ≠ some none → lastOf ms id = some m →
        datamgrGetLastModified d id = some m.ts) ∧
      ∀ m d', datamgrHandle cfg d m = some d' →
        ∀ id, id ≠ m.id → datamgrGetLastModified d' id = datamgrGetLastModified d id) ↔
      ∀ id m, getSensorNodeWithId sensors id ≠ some none → lastOf ms id = some m →
        m.ts = Int64.ofNat id.toNat := by
  obtain ⟨-, hlast⟩ :=
    deliver_lastModified (fun m => Int64.ofNat m.id.toNat) (fun m => [.invalidId m.id]) h
  have hstored : ∀ id m, getSensorNodeWithId sensors id ≠ some none → lastOf ms id = some m →
      datamgrGetLastModified d id = some (Int64.ofNat id.toNat) := by
    intro id m hknown hm
    rw [getSensorNodeWithId_eq, ne_eq, Option.some.injEq] at hknown
    rw [hlast id m hknown hm, lastOf_id hm]
  constructor
  · rintro ⟨htime, -⟩ id m hknown hm
    exact Option.some.inj ((htime id m hknown hm).symm.trans (hstored id m hknown hm))
  · intro heq
    refine ⟨?_, ?_⟩
    · intro id m hknown hm
      rw [hstored id m hknown hm, heq id m hknown hm]
    · intro m d' hhandle id hid
      exact (reading_lastModified hhandle).2.2 id hid

end Readings

/-- One measurement of sensor 15, at time 100. -/
def timedReading : List (SensorData ℚ) := [⟨15, 20, 100⟩]

/-- The sensor list after it. -/
def timedDatamgr : Datamgr ℚ 2 :=
  ⟨[{ (newSensorNode 1 15 0 : SensorNode ℚ 2) with
      temperatures := (Vector.replicate 2 none).set 0 (some 20)
      timestamp := 15
      nrOfMeass := 1 }, newSensorNode 2 21 0, newSensorNode 3 15 0], []⟩

theorem timedReading_handled :
    timedReading.foldlM (datamgrHandle ⟨19, 21⟩) ⟨exampleSensors, []⟩ = some timedDatamgr := by
  rfl

theorem last_modified_is_time_iff_example :
    ((∀ id m, getSensorNodeWithId exampleSensors id ≠ some none → lastOf timedReading id = some m →
        datamgrGetLastModified timedDatamgr id = some m.ts) ∧
      ∀ m d', datamgrHandle ⟨19, 21⟩ timedDatamgr m = some d' → ∀ id, id ≠ m.id →
        datamgrGetLastModified d' id = datamgrGetLastModified timedDatamgr id) ↔
      ∀ id m, getSensorNodeWithId exampleSensors id ≠ some none → lastOf timedReading id = some m →
        m.ts = Int64.ofNat id.toNat :=
  last_modified_is_time_iff ⟨19, 21⟩ timedReading_handled

/-- The time of the measurement is 100, and the getter returns 15. -/
theorem last_modified_is_id :
    ¬ ∀ (sensors : List (SensorNode ℚ 2)) (ms : List (SensorData ℚ)) (d : Datamgr ℚ 2),
      (∀ m ∈ ms, m.id ≠ 0) → ms.foldlM (datamgrHandle ⟨19, 21⟩) ⟨sensors, []⟩ = some d →
      ∀ id m, getSensorNodeWithId sensors id ≠ some none → lastOf ms id = some m →
        datamgrGetLastModified d id = some m.ts := by
  intro hall
  have htime := hall exampleSensors timedReading timedDatamgr (by decide) timedReading_handled 15
    ⟨15, 20, 100⟩ (by decide) rfl
  exact absurd htime (by decide)

end SensorGateway
