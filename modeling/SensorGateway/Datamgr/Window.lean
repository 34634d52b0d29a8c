import Mathlib.Algebra.Order.Ring.Rat
import SensorGateway.Datamgr.Basic

set_option autoImplicit false

/-! # The window of every sensor

What a reading does to the sensor list: it changes at most the node that is found for its id, and
that node as `SensorNode.take` says (`record_eq`, `reading_eq`). From this one fact follows, by
induction over the readings, that the ring of every sensor holds its last readings (`Tracks`), and
for exact values that its running average is their mean (`window_right_in_every_run`). -/

namespace SensorGateway

variable {V : Type} {L : ℕ}

/-! ## Lookup -/

/-- The place of the first of `ids` that is `id`. -/
def placeOf (ids : List UInt16) (id : UInt16) : Option ℕ := ids.findIdx? (· == id)

/-- The ids of the nodes, in order. -/
def sensorIds (sensors : List (SensorNode V L)) : List UInt16 := sensors.map SensorNode.sensorId

theorem placeOf_some {ids : List UInt16} {id : UInt16} {k : ℕ} (h : placeOf ids id = some k) :
    ids[k]? = some id := by
  obtain ⟨hk, hid, -⟩ := List.findIdx?_eq_some_iff_getElem.1 h
  rw [List.getElem?_eq_getElem hk, beq_iff_eq.1 hid]

/-- The comparison is 0 exactly for nodes with one id. -/
theorem elementCompareDatamgr_eq_zero_iff (x y : SensorNode V L) :
    elementCompareDatamgr x y = 0 ↔ x.sensorId = y.sensorId := by
  unfold elementCompareDatamgr
  split
  · next hgt =>
      refine iff_of_false (by decide) ?_
      intro he
      rw [he] at hgt
      exact absurd hgt (UInt16.lt_irrefl y.sensorId)
  · split
    · next heq => exact iff_of_true rfl heq
    · next hne => exact iff_of_false (by decide) hne

/-- The loop finds the first node that has the id of the probe node, and nothing if there is none. -/
theorem loop_lookupBody (sensors : List (SensorNode V L)) (probe : SensorNode V L) :
    loop (lookupBody sensors probe) (sensors.length + 1) 0 =
      some (placeOf (sensorIds sensors) probe.sensorId) := by
  obtain ⟨id, hprobe⟩ : ∃ id, probe.sensorId = id := ⟨_, rfl⟩
  -- invariant of the loop: no node in front of `index` has the id
  have hbody : ∀ index : ℕ, (∀ j < index, (sensorIds sensors)[j]? ≠ some id) →
      (∃ index', lookupBody sensors probe index = some (.next index') ∧
        (∀ j < index', (sensorIds sensors)[j]? ≠ some id) ∧
        sensors.length - index' < sensors.length - index) ∨
      ∃ r, lookupBody sensors probe index = some (.exit r) ∧
        r = placeOf (sensorIds sensors) id := by
    intro index hbefore
    unfold lookupBody
    by_cases hlt : index < sensors.length
    · have hids : index < (sensorIds sensors).length := by simpa [sensorIds] using hlt
      have hid : (sensorIds sensors)[index] = sensors[index].sensorId := by simp [sensorIds]
      rw [if_pos hlt, List.getElem?_eq_getElem hlt]
      simp only [Option.bind_eq_bind, Option.bind_some]
      have hcompare : elementCompareDatamgr probe sensors[index] = 0 ↔
          sensors[index].sensorId = id :=
        (elementCompareDatamgr_eq_zero_iff _ _).trans (by rw [hprobe, eq_comm])
      by_cases hfound : sensors[index].sensorId = id
      · rw [if_pos (hcompare.2 hfound)]
        refine Or.inr ⟨_, rfl, Eq.symm (List.findIdx?_eq_some_iff_getElem.2 ⟨hids, ?_, ?_⟩)⟩
        · rw [hid, hfound]
          exact beq_self_eq_true id
        · intro j hj
          have hne := hbefore j hj
          rw [List.getElem?_eq_getElem (hj.trans hids), ne_eq, Option.some.injEq] at hne
          simpa using hne
      · rw [if_neg fun he => hfound (hcompare.1 he)]
        refine Or.inl ⟨_, rfl, ?_, by omega⟩
        intro j hj
        rcases Nat.lt_succ_iff_lt_or_eq.1 hj with hj | rfl
        · exact hbefore j hj
        · rw [List.getElem?_eq_getElem hids, hid, ne_eq, Option.some.injEq]
          exact hfound
    · rw [if_neg hlt]
      refine Or.inr ⟨_, rfl, Eq.symm (List.findIdx?_eq_none_iff.2 fun x hx => ?_)⟩
      obtain ⟨j, hj, rfl⟩ := List.mem_iff_getElem.1 hx
      have hlen : (sensorIds sensors).length = sensors.length := by simp [sensorIds]
      have hne := hbefore j (by omega)
      rw [List.getElem?_eq_getElem hj, ne_eq, Option.some.injEq] at hne
      simpa using hne
  obtain ⟨r, hloop, rfl⟩ := loop_total (fun index => sensors.length - index) hbody
    (fun j hj => absurd hj (Nat.not_lt_zero j)) (by omega : sensors.length - 0 < sensors.length + 1)
  rw [hloop, hprobe]

/-- **`get_sensor_node_with_id` finds the first node with the id**, and nothing if there is none. -/
theorem getSensorNodeWithId_eq [Zero V] (sensors : List (SensorNode V L)) (id : UInt16) :
    getSensorNodeWithId sensors id = some (placeOf (sensorIds sensors) id) :=
  loop_lookupBody sensors (newSensorNode 0 id 0)

/-! ## The place in the ring -/

/-- **The loop computes the number of readings modulo the length of the ring.** -/
theorem arrayPosition_natCast (hL : 0 < L) (n : ℕ) :
    arrayPosition L n = some ((n % L : ℕ) : ℤ) := by
  unfold arrayPosition
  split
  · next hlt => rw [Nat.mod_eq_of_lt (by omega)]
  · next hge =>
      rw [loop_subtractBody hL (by omega) (by simp)]
      rfl

theorem arrayPosition_neg {n : ℤ} (hn : n < 0) : arrayPosition L n = some n := by
  unfold arrayPosition
  rw [if_pos (by omega)]

theorem writeTemperature_natCast (temperatures : Vector (Option V) L) {n : ℕ} (hn : n < L)
    (value : V) :
    writeTemperature temperatures n value = some (temperatures.set n (some value)) := by
  unfold writeTemperature
  rw [dif_pos ⟨by omega, by omega⟩]
  rfl

theorem writeTemperature_neg (temperatures : Vector (Option V) L) {n : ℤ} (hn : n < 0)
    (value : V) : writeTemperature temperatures n value = none := by
  unfold writeTemperature
  rw [dif_neg fun h => absurd h.1 (by omega)]

/-! ## What a reading does to its node -/

section Take

variable [Zero V] [Add V] [Div V] [NatCast V]

/-- The average that `datamgr_get_avg` returns for the node. -/
def SensorNode.average (node : SensorNode V L) : Option V :=
  if L ≤ node.nrOfMeass then (sumCells node.temperatures.toList).map (· / (L : V)) else some 0

/-- The node after a reading. -/
def SensorNode.take (node : SensorNode V L) (value : V) (timestamp : Int64) :
    Option (SensorNode V L) := do
  let position ← arrayPosition L node.nrOfMeass
  let temperatures ← writeTemperature node.temperatures position value
  let node := { node with timestamp, temperatures, nrOfMeass := wrapInt (node.nrOfMeass + 1) }
  let average ← node.average
  return { node with runningAvg := average }

variable [LT V] [DecidableLT V]

/-- The alarms that the average of the node raises. -/
def SensorNode.alarms (cfg : Thresholds V) (node : SensorNode V L) : List (LogEvent V) :=
  if L ≤ node.nrOfMeass then averageEvents cfg node.sensorId node.runningAvg else []

omit [Zero V] [Add V] [Div V] [NatCast V] [LT V] [DecidableLT V] in
theorem sensorIds_set {sensors : List (SensorNode V L)} {k : ℕ} {node node' : SensorNode V L}
    (hnode : sensors[k]? = some node) (hid : node'.sensorId = node.sensorId) :
    sensorIds (sensors.set k node') = sensorIds sensors := by
  obtain ⟨hk, rfl⟩ := List.getElem?_eq_some_iff.1 hnode
  unfold sensorIds
  have hk' : k < (sensors.map SensorNode.sensorId).length := by simpa using hk
  have hget : (sensors.map SensorNode.sensorId)[k] = sensors[k].sensorId := List.getElem_map _
  rw [List.map_set, hid, ← hget, List.set_getElem_self]

/-- `datamgr_get_avg` of a sensor whose node is at place `k`. -/
theorem datamgrGetAvg_eq (cfg : Thresholds V) {d : Datamgr V L} {id : UInt16} {k : ℕ}
    {node : SensorNode V L} (hplace : placeOf (sensorIds d.sensors) id = some k)
    (hnode : d.sensors[k]? = some node) :
    datamgrGetAvg cfg d id = node.average.map fun average =>
      (average, if L ≤ node.nrOfMeass then
          { sensors := d.sensors.set k { node with runningAvg := average }
            events := d.events ++ averageEvents cfg node.sensorId average }
        else d) := by
  unfold datamgrGetAvg SensorNode.average
  rw [getSensorNodeWithId_eq, hplace]
  simp only [Option.bind_eq_bind, Option.bind_some, hnode]
  split
  · cases sumCells node.temperatures.toList <;> rfl
  · rfl

/-- **A reading changes its node and no other.** -/
theorem record_eq (cfg : Thresholds V) {d : Datamgr V L} {id : UInt16} {k : ℕ}
    {node : SensorNode V L} (hplace : placeOf (sensorIds d.sensors) id = some k)
    (hnode : d.sensors[k]? = some node) (value : V) (timestamp : Int64) :
    d.record cfg k id value timestamp = (node.take value timestamp).map fun node' =>
      { sensors := d.sensors.set k node', events := d.events ++ node'.alarms cfg } := by
  obtain ⟨hk, -⟩ := List.getElem?_eq_some_iff.1 hnode
  unfold Datamgr.record SensorNode.take
  simp only [Option.bind_eq_bind, Option.bind_some, hnode]
  cases arrayPosition L node.nrOfMeass with
  | none => rfl
  | some position =>
      simp only [Option.bind_some]
      cases writeTemperature node.temperatures position value with
      | none => rfl
      | some temperatures =>
          simp only [Option.bind_some]
          -- the average is computed for the node just written
          obtain ⟨written, hwritten⟩ : ∃ written : SensorNode V L, written = { node with
            timestamp, temperatures, nrOfMeass := wrapInt (node.nrOfMeass + 1) } := ⟨_, rfl⟩
          have hids : sensorIds (d.sensors.set k written) = sensorIds d.sensors :=
            sensorIds_set hnode (by rw [hwritten])
          rw [← hwritten, datamgrGetAvg_eq cfg (by rw [hids]; exact hplace)
            (List.getElem?_set_self hk)]
          cases written.average with
          | none => rfl
          | some average =>
              simp only [Option.map_some, Option.bind_some, SensorNode.alarms]
              subst hwritten
              split
              · next hfull =>
                  have hfull : L ≤ wrapInt (node.nrOfMeass + 1) := hfull
                  simp [hk, hfull]
              · next hfull =>
                  have hfull : ¬ L ≤ wrapInt (node.nrOfMeass + 1) := hfull
                  simp [hk, hfull]

theorem reading_eq (cfg : Thresholds V) (d : Datamgr V L) (id : UInt16) (value : V)
    (timestamp : Int64) (unknown : List (LogEvent V)) :
    d.reading cfg id value timestamp unknown =
      match placeOf (sensorIds d.sensors) id with
      | none => some { d with events := d.events ++ unknown }
      | some k => d.record cfg k id value timestamp := by
  unfold Datamgr.reading
  rw [getSensorNodeWithId_eq]
  rfl

end Take

/-! ## The readings of a sensor -/

/-- The values of the measurements of sensor `id`. -/
def readingsOf (ms : List (SensorData V)) (id : UInt16) : List V :=
  (ms.filter fun m => m.id == id).map SensorData.value

theorem readingsOf_concat_self (ms : List (SensorData V)) (m : SensorData V) :
    readingsOf (ms ++ [m]) m.id = readingsOf ms m.id ++ [m.value] := by
  simp [readingsOf]

theorem readingsOf_concat_ne (ms : List (SensorData V)) {m : SensorData V} {id : UInt16}
    (hid : m.id ≠ id) : readingsOf (ms ++ [m]) id = readingsOf ms id := by
  simp [readingsOf, hid]

/-- More measurements are more readings of every sensor. -/
theorem readingsOf_append_le (ms ms' : List (SensorData V)) (id : UInt16) :
    (readingsOf ms id).length ≤ (readingsOf (ms ++ ms') id).length := by
  simp [readingsOf]

/-! ## The counter and the ring -/

section Holds

variable [Zero V] [Add V] [Div V] [NatCast V]

/-- The node has seen the readings `rs`: it counts them, its ring holds the last of them, and its
    running average is the average of its ring. -/
structure SensorNode.Holds (node : SensorNode V L) (rs : List V) : Prop where
  nr_eq : node.nrOfMeass = wrapInt rs.length
  window : HoldsWindow node.temperatures rs
  average_eq : node.average = some node.runningAvg

/-- A node that has seen no reading. -/
def SensorNode.IsFresh (node : SensorNode V L) : Prop := node.nrOfMeass = 0 ∧ node.runningAvg = 0

theorem SensorNode.IsFresh.holds {node : SensorNode V L} (h : node.IsFresh) (hL : 0 < L) :
    node.Holds [] where
  nr_eq := h.1.trans wrapInt_zero.symm
  window := holdsWindow_nil _
  average_eq := by
    unfold SensorNode.average
    rw [if_neg (by rw [h.1]; omega), h.2]

variable {node : SensorNode V L} {rs : List V}

theorem SensorNode.take_eq {value : V} {timestamp : Int64} {position : ℤ}
    {temperatures : Vector (Option V) L} (hposition : arrayPosition L node.nrOfMeass = some position)
    (hwrite : writeTemperature node.temperatures position value = some temperatures) :
    node.take value timestamp = (SensorNode.average { node with
        timestamp, temperatures, nrOfMeass := wrapInt (node.nrOfMeass + 1) }).map fun average =>
      { node with
        timestamp, temperatures, nrOfMeass := wrapInt (node.nrOfMeass + 1), runningAvg := average } := by
  unfold SensorNode.take
  rw [hposition, Option.bind_eq_bind, Option.bind_some, hwrite, Option.bind_eq_bind,
    Option.bind_some]
  exact (Option.map_eq_bind ..).symm

/-- **A reading is recorded** while the counter has not overflowed. -/
theorem SensorNode.Holds.take (h : node.Holds rs) (hL : 0 < L) (hlt : rs.length < 2147483648)
    (value : V) (timestamp : Int64) :
    ∃ node', node.take value timestamp = some node' ∧ node'.Holds (rs ++ [value]) ∧
      node'.sensorId = node.sensorId ∧ node'.roomId = node.roomId := by
  have hmod := Nat.mod_lt rs.length hL
  have hnr : node.nrOfMeass = rs.length := by
    rw [h.nr_eq, wrapInt_of_lt (by omega) (by omega)]
  have hwindow := h.window.push hmod value
  rw [SensorNode.take_eq (by rw [hnr]; exact arrayPosition_natCast hL rs.length)
    (writeTemperature_natCast _ hmod value), hnr]
  obtain ⟨average, haverage⟩ : ∃ average, SensorNode.average { node with
      timestamp, temperatures := node.temperatures.set (rs.length % L) (some value)
      nrOfMeass := wrapInt (rs.length + 1) } = some average := by
    unfold SensorNode.average
    dsimp only
    split
    · next hfull =>
        -- a full counter has not overflowed, so the ring is full
        have hlen : rs.length + 1 < 2147483648 := by
          by_contra hge
          have heq : (rs.length : ℤ) + 1 = 2147483648 := by omega
          rw [heq, wrapInt_overflow] at hfull
          omega
        rw [wrapInt_of_lt (by omega) (by omega)] at hfull
        obtain ⟨total, htotal⟩ := hwindow.sumCells_isSome hL
          (by rw [List.length_append, List.length_singleton]; omega)
        rw [htotal]
        exact ⟨_, rfl⟩
    · exact ⟨0, rfl⟩
  rw [haverage]
  refine ⟨_, rfl, ⟨?_, hwindow, haverage⟩, rfl, rfl⟩
  rw [List.length_append, List.length_singleton, Nat.cast_succ]

/-- After `2 ^ 31` readings the counter is negative, and the next reading is written outside the
    ring. -/
theorem SensorNode.Holds.take_overflow (h : node.Holds rs) (hlen : rs.length = 2147483648) (value : V)
    (timestamp : Int64) : node.take value timestamp = none := by
  have hnr : node.nrOfMeass = -2147483648 := by
    have hcast : (rs.length : ℤ) = 2147483648 := by omega
    rw [h.nr_eq, hcast, wrapInt_overflow]
  unfold SensorNode.take
  rw [hnr, arrayPosition_neg (by omega)]
  simp only [Option.bind_eq_bind, Option.bind_some, writeTemperature_neg node.temperatures
    (by omega : (-2147483648 : ℤ) < 0), Option.bind_none]

end Holds

/-- The nodes built from the map have seen no reading. -/
theorem parseSensorMap_isFresh [Zero V] (clock : ℕ → Int64) (map : List Char) :
    ∀ node ∈ (parseSensorMap clock map : List (SensorNode V L)), node.IsFresh := by
  have hlines : ∀ (lines : List (List Char)) (s : MapLoop V L),
      (∀ node ∈ s.sensors, node.IsFresh) →
      ∀ node ∈ (lines.foldl (MapLoop.line clock) s).sensors, node.IsFresh := by
    intro lines
    induction lines with
    | nil => exact fun s hs => hs
    | cons line lines ih =>
        intro s hs
        refine ih _ ?_
        intro node hnode
        rcases List.eq_or_mem_of_mem_insertIdx hnode with rfl | hmem
        · exact ⟨rfl, rfl⟩
        · exact hs node hmem
  exact hlines _ _ (by simp)

/-! ## Runs -/

section Runs

variable [Zero V] [Add V] [Div V] [NatCast V] [LT V] [DecidableLT V]

/-- Readings delivered one after another. `stamp` and `unknown` are what the two ways to feed the
    data manager differ in. -/
def Datamgr.deliver (cfg : Thresholds V) (stamp : SensorData V → Int64)
    (unknown : SensorData V → List (LogEvent V)) (d : Datamgr V L) (ms : List (SensorData V)) :
    Option (Datamgr V L) :=
  ms.foldlM (fun d m => d.reading cfg m.id m.value (stamp m) (unknown m)) d

theorem deliver_concat (cfg : Thresholds V) (stamp : SensorData V → Int64)
    (unknown : SensorData V → List (LogEvent V)) (d : Datamgr V L) (ms : List (SensorData V))
    (m : SensorData V) :
    Datamgr.deliver cfg stamp unknown d (ms ++ [m]) =
      (Datamgr.deliver cfg stamp unknown d ms).bind fun d =>
        d.reading cfg m.id m.value (stamp m) (unknown m) := by
  unfold Datamgr.deliver
  rw [List.foldlM_append]
  exact Option.bind_congr fun d _ => Option.bind_fun_some _

omit [LT V] [DecidableLT V] in
/-- What the sensor list is after the readings `ms` were delivered to a data manager that started
    with `sensors`: every sensor holds its readings. -/
structure Datamgr.Tracks (d : Datamgr V L) (sensors : List (SensorNode V L))
    (ms : List (SensorData V)) : Prop where
  ids_eq : sensorIds d.sensors = sensorIds sensors
  holds : ∀ id k, placeOf (sensorIds sensors) id = some k →
    ∃ node, d.sensors[k]? = some node ∧ node.Holds (readingsOf ms id)

omit [LT V] [DecidableLT V] in
theorem tracks_fresh {sensors : List (SensorNode V L)} (hfresh : ∀ node ∈ sensors, node.IsFresh)
    (hL : 0 < L) : (⟨sensors, []⟩ : Datamgr V L).Tracks sensors [] where
  ids_eq := rfl
  holds id k hplace := by
    have hid := placeOf_some hplace
    obtain ⟨hk, -⟩ := List.getElem?_eq_some_iff.1 hid
    have hk : k < sensors.length := by simpa [sensorIds] using hk
    exact ⟨sensors[k], List.getElem?_eq_getElem hk, (hfresh _ (List.getElem_mem hk)).holds hL⟩

variable {cfg : Thresholds V} {sensors : List (SensorNode V L)} {ms : List (SensorData V)}
  {d : Datamgr V L} {m : SensorData V} {k : ℕ} {timestamp : Int64} {unknown : List (LogEvent V)}

/-- A measurement of an unknown sensor changes no node. -/
theorem Datamgr.Tracks.reading_unknown (h : d.Tracks sensors ms)
    (hplace : placeOf (sensorIds sensors) m.id = none) :
    ∃ d', d.reading cfg m.id m.value timestamp unknown = some d' ∧ d'.sensors = d.sensors ∧
      d'.Tracks sensors (ms ++ [m]) := by
  rw [reading_eq, h.ids_eq, hplace]
  refine ⟨_, rfl, rfl, h.ids_eq, ?_⟩
  intro id k hk
  have hne : m.id ≠ id := by
    rintro rfl
    exact absurd (hplace.symm.trans hk) (by simp)
  rw [readingsOf_concat_ne ms hne]
  exact h.holds id k hk

/-- **A measurement of a known sensor is recorded in its node**, and no other node changes. -/
theorem Datamgr.Tracks.reading_known (h : d.Tracks sensors ms) (hL : 0 < L)
    (hplace : placeOf (sensorIds sensors) m.id = some k)
    (hlt : (readingsOf ms m.id).length < 2147483648) :
    ∃ d', d.reading cfg m.id m.value timestamp unknown = some d' ∧
      (∀ j, j ≠ k → d'.sensors[j]? = d.sensors[j]?) ∧ d'.Tracks sensors (ms ++ [m]) := by
  obtain ⟨node, hnode, hholds⟩ := h.holds m.id k hplace
  obtain ⟨node', htake, hholds', hid, -⟩ := hholds.take hL hlt m.value timestamp
  have hplace' : placeOf (sensorIds d.sensors) m.id = some k := by rw [h.ids_eq, hplace]
  obtain ⟨hk, -⟩ := List.getElem?_eq_some_iff.1 hnode
  rw [reading_eq, hplace']
  dsimp only
  rw [record_eq cfg hplace' hnode, htake]
  refine ⟨_, rfl, fun j hj => List.getElem?_set_ne (Ne.symm hj), ?_, fun id k' hk' => ?_⟩
  · exact (sensorIds_set hnode hid).trans h.ids_eq
  · by_cases hm : m.id = id
    · subst hm
      obtain rfl : k = k' := Option.some.inj (hplace.symm.trans hk')
      rw [readingsOf_concat_self]
      exact ⟨node', List.getElem?_set_self hk, hholds'⟩
    · have hne : k ≠ k' := by
        rintro rfl
        exact hm (Option.some.inj ((placeOf_some hplace).symm.trans (placeOf_some hk')))
      rw [readingsOf_concat_ne ms hm]
      obtain ⟨node₀, hnode₀, hholds₀⟩ := h.holds id k' hk'
      exact ⟨node₀, (List.getElem?_set_ne hne).trans hnode₀, hholds₀⟩

/-- A sensor has no room for more than `2 ^ 31` readings. -/
theorem Datamgr.Tracks.reading_overflow (h : d.Tracks sensors ms)
    (hplace : placeOf (sensorIds sensors) m.id = some k)
    (hlen : (readingsOf ms m.id).length = 2147483648) :
    d.reading cfg m.id m.value timestamp unknown = none := by
  obtain ⟨node, hnode, hholds⟩ := h.holds m.id k hplace
  have hplace' : placeOf (sensorIds d.sensors) m.id = some k := by rw [h.ids_eq, hplace]
  rw [reading_eq, hplace']
  dsimp only
  rw [record_eq cfg hplace' hnode, hholds.take_overflow hlen]
  rfl

variable {stamp : SensorData V → Int64} {report : SensorData V → List (LogEvent V)}

/-- **Every run of readings keeps the windows**, and it faults exactly if some known sensor gets more
    than `2 ^ 31` of them. -/
theorem deliver_spec (hfresh : ∀ node ∈ sensors, node.IsFresh) (hL : 0 < L)
    (ms : List (SensorData V)) :
    (∀ d, Datamgr.deliver cfg stamp report ⟨sensors, []⟩ ms = some d →
        d.Tracks sensors ms ∧ ∀ id, placeOf (sensorIds sensors) id ≠ none →
          (readingsOf ms id).length ≤ 2147483648) ∧
      ((∀ id, placeOf (sensorIds sensors) id ≠ none → (readingsOf ms id).length ≤ 2147483648) →
        ∃ d, Datamgr.deliver cfg stamp report ⟨sensors, []⟩ ms = some d) := by
  -- both directions need the state before the last reading, so the runs grow at their end
  induction ms using List.reverseRecOn with
  | nil =>
      refine ⟨?_, fun _ => ⟨_, rfl⟩⟩
      intro d hd
      obtain rfl : (⟨sensors, []⟩ : Datamgr V L) = d := Option.some.inj hd
      exact ⟨tracks_fresh hfresh hL, fun id _ => Nat.zero_le _⟩
  | append_singleton ms m ih =>
      obtain ⟨ih₁, ih₂⟩ := ih
      simp only [deliver_concat]
      constructor
      · intro d' hd'
        obtain ⟨d, hd, hread⟩ := Option.bind_eq_some_iff.1 hd'
        obtain ⟨htracks, hle⟩ := ih₁ d hd
        cases hplace : placeOf (sensorIds sensors) m.id with
        | none =>
            obtain ⟨d'', hread', -, htracks'⟩ := htracks.reading_unknown hplace
            obtain rfl : d' = d'' := Option.some.inj (hread.symm.trans hread')
            refine ⟨htracks', ?_⟩
            intro id hid
            have hm : m.id ≠ id := fun he => hid (by rw [← he, hplace])
            rw [readingsOf_concat_ne ms hm]
            exact hle id hid
        | some k =>
            have hlt : (readingsOf ms m.id).length < 2147483648 := by
              refine Nat.lt_of_le_of_ne (hle m.id (by rw [hplace]; simp)) ?_
              intro hlen
              rw [htracks.reading_overflow hplace hlen] at hread
              exact absurd hread (by simp)
            obtain ⟨d'', hread', -, htracks'⟩ := htracks.reading_known hL hplace hlt
            obtain rfl : d' = d'' := Option.some.inj (hread.symm.trans hread')
            refine ⟨htracks', ?_⟩
            intro id hid
            by_cases hm : m.id = id
            · subst hm
              rw [readingsOf_concat_self, List.length_append, List.length_singleton]
              omega
            · rw [readingsOf_concat_ne ms hm]
              exact hle id hid
      · intro hle
        obtain ⟨d, hd⟩ := ih₂ fun id hid => (readingsOf_append_le ms [m] id).trans (hle id hid)
        obtain ⟨htracks, -⟩ := ih₁ d hd
        rw [hd, Option.bind_some]
        cases hplace : placeOf (sensorIds sensors) m.id with
        | none =>
            obtain ⟨d', hread, -⟩ := htracks.reading_unknown hplace
            exact ⟨d', hread⟩
        | some k =>
            have hlast := hle m.id (by rw [hplace]; simp)
            rw [readingsOf_concat_self, List.length_append, List.length_singleton] at hlast
            obtain ⟨d', hread, -⟩ := htracks.reading_known hL hplace (by omega)
            exact ⟨d', hread⟩

end Runs

/-! ## Exact averages -/

/-- The exact mean of the last `L` readings, 0 if there are fewer. -/
def meanOfLast (L : ℕ) (rs : List ℚ) : ℚ :=
  if L ≤ rs.length then (rs.drop (rs.length - L)).sum / L else 0

theorem SensorNode.Holds.mean {node : SensorNode ℚ L} {rs : List ℚ} (h : node.Holds rs)
    (hL : 0 < L) (hlt : rs.length < 2147483648) : node.runningAvg = meanOfLast L rs := by
  have haverage := h.average_eq
  unfold SensorNode.average at haverage
  unfold meanOfLast
  rw [h.nr_eq, wrapInt_of_lt (by omega) (by omega)] at haverage
  by_cases hfull : L ≤ rs.length
  · rw [if_pos (by omega), h.window.sumCells_eq hL hfull] at haverage
    rw [if_pos hfull]
    exact (Option.some.inj haverage).symm
  · rw [if_neg (by omega)] at haverage
    rw [if_neg hfull]
    exact (Option.some.inj haverage).symm

/-- **The window is right for every sensor in every run.** After any measurements, fewer than `2 ^ 31`
    for each sensor, the node that is found for a sensor counts its readings, has reading number
    `j` in cell `j % L` for each of the last `L`, and has their exact mean as its running average (0
    while there are fewer); and the next measurement changes no other node. -/
theorem window_right_in_every_run (cfg : Thresholds ℚ) (hL : 0 < L)
    {sensors : List (SensorNode ℚ L)} (hfresh : ∀ node ∈ sensors, node.IsFresh)
    {ms : List (SensorData ℚ)} (hcount : ∀ id, (readingsOf ms id).length < 2147483648) :
    ∃ d, ms.foldlM (datamgrHandle cfg) ⟨sensors, []⟩ = some d ∧
      (∀ id k, getSensorNodeWithId sensors id = some (some k) →
        getSensorNodeWithId d.sensors id = some (some k) ∧
        ∃ node, d.sensors[k]? = some node ∧ node.nrOfMeass = (readingsOf ms id).length ∧
          (∀ j < (readingsOf ms id).length, (readingsOf ms id).length ≤ j + L →
            node.temperatures[j % L]? = some (readingsOf ms id)[j]?) ∧
          node.runningAvg = meanOfLast L (readingsOf ms id)) ∧
      ∀ m : SensorData ℚ, ∃ d', datamgrHandle cfg d m = some d' ∧
        ∀ k, getSensorNodeWithId sensors m.id ≠ some (some k) → d'.sensors[k]? = d.sensors[k]? := by
  obtain ⟨d, hd⟩ : ∃ d, ms.foldlM (datamgrHandle cfg) ⟨sensors, []⟩ = some d :=
    (deliver_spec hfresh hL ms).2 fun id _ => (hcount id).le
  obtain ⟨htracks, -⟩ := (deliver_spec hfresh hL ms).1 d hd
  refine ⟨d, hd, ?_, ?_⟩
  · intro id k hk
    rw [getSensorNodeWithId_eq, Option.some.injEq] at hk
    obtain ⟨node, hnode, hholds⟩ := htracks.holds id k hk
    refine ⟨by rw [getSensorNodeWithId_eq, htracks.ids_eq, hk], node, hnode, ?_, hholds.window,
      hholds.mean hL (hcount id)⟩
    have hlt := hcount id
    rw [hholds.nr_eq, wrapInt_of_lt (by omega) (by omega)]
  · intro m
    rw [getSensorNodeWithId_eq]
    simp only [ne_eq, Option.some.injEq]
    cases hplace : placeOf (sensorIds sensors) m.id with
    | none =>
        obtain ⟨d', hread, hsame, -⟩ := htracks.reading_unknown hplace
        exact ⟨d', hread, fun k _ => by rw [hsame]⟩
    | some k =>
        obtain ⟨d', hread, hsame, -⟩ := htracks.reading_known hL hplace (hcount m.id)
        exact ⟨d', hread, fun j hj => hsame j fun he => hj (congrArg some he.symm)⟩

/-- Sensors 15 and 21, and a second node for sensor 15. -/
def exampleSensors : List (SensorNode ℚ 2) :=
  [newSensorNode 1 15 0, newSensorNode 2 21 0, newSensorNode 3 15 0]

def exampleReadings : List (SensorData ℚ) :=
  [⟨15, 20, 100⟩, ⟨21, 18, 101⟩, ⟨15, 22, 102⟩, ⟨37, 19, 103⟩, ⟨15, 27, 104⟩]

theorem readingsOf_length_le (ms : List (SensorData V)) (id : UInt16) :
    (readingsOf ms id).length ≤ ms.length := by
  rw [readingsOf, List.length_map]
  exact List.length_filter_le _ _

theorem window_right_in_every_run_example :
    ∃ d : Datamgr ℚ 2, exampleReadings.foldlM (datamgrHandle ⟨19, 21⟩) ⟨exampleSensors, []⟩ = some d ∧
      ∃ node, d.sensors[0]? = some node ∧ node.runningAvg = (22 + 27) / 2 := by
  have hfresh : ∀ node ∈ exampleSensors, node.IsFresh := by
    intro node hnode
    simp only [exampleSensors, List.mem_cons, List.not_mem_nil, or_false] at hnode
    rcases hnode with rfl | rfl | rfl <;> exact ⟨rfl, rfl⟩
  have hcount : ∀ id, (readingsOf exampleReadings id).length < 2147483648 := fun id =>
    (readingsOf_length_le exampleReadings id).trans_lt (by decide)
  obtain ⟨d, hd, hnode, -⟩ := window_right_in_every_run ⟨19, 21⟩ (by decide) hfresh hcount
  obtain ⟨-, node, hat, -, -, haverage⟩ := hnode 15 0 (by decide)
  have hreadings : readingsOf exampleReadings 15 = [20, 22, 27] := rfl
  refine ⟨d, hd, node, hat, ?_⟩
  rw [haverage, hreadings]
  simp [meanOfLast]

end SensorGateway
