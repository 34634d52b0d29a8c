import SensorGateway.Datamgr.Paths

set_option autoImplicit false

/-! # The index of the ring in long runs

`array_position` is computed from `nr_of_meass`, which is never reset. It is in bounds until the
counter overflows: the reading that follows `2 ^ 31` others of its sensor is written to a negative
index. Both ways to feed the data manager are runs of `Datamgr.reading`, so one result about those
(`allSteps_indexInBounds_iff`) covers them. -/

namespace SensorGateway

variable {V : Type} {L : ℕ}

/-- Where a reading of sensor `id` is written, if there is a node for it, `array_position` is assigned
    and inside the ring. -/
def Datamgr.IndexInBounds [Zero V] (d : Datamgr V L) (id : UInt16) : Prop :=
  ∀ k node, getSensorNodeWithId d.sensors id = some (some k) → d.sensors[k]? = some node →
    ∃ position, arrayPosition L node.nrOfMeass = some position ∧ 0 ≤ position ∧ position < L

section Readings

variable [Zero V] [Add V] [Div V] [NatCast V]

/-- After at most `2 ^ 31` readings, the index for the next one is in bounds exactly if there were
    fewer. -/
theorem Datamgr.Tracks.indexInBounds_iff {d : Datamgr V L} {sensors : List (SensorNode V L)}
    {ms : List (SensorData V)} (h : d.Tracks sensors ms) (hL : 0 < L) {id : UInt16}
    (hle : placeOf (sensorIds sensors) id ≠ none → (readingsOf ms id).length ≤ 2147483648) :
    d.IndexInBounds id ↔
      (placeOf (sensorIds sensors) id ≠ none → (readingsOf ms id).length < 2147483648) := by
  unfold Datamgr.IndexInBounds
  rw [getSensorNodeWithId_eq, h.ids_eq]
  cases hplace : placeOf (sensorIds sensors) id with
  | none => simp
  | some k =>
      obtain ⟨node, hnode, hholds⟩ := h.holds id k hplace
      have hle := hle (by rw [hplace]; simp)
      have hsame : (∀ k' node', some (some k) = some (some k') → d.sensors[k']? = some node' →
            ∃ position, arrayPosition L node'.nrOfMeass = some position ∧ 0 ≤ position ∧
              position < L) ↔
          ∃ position, arrayPosition L node.nrOfMeass = some position ∧ 0 ≤ position ∧
            position < L := by
        constructor
        · exact fun hall => hall k node rfl hnode
        · rintro hone k' node' hk' hnode'
          obtain rfl := Option.some.inj (Option.some.inj hk')
          obtain rfl := Option.some.inj (hnode.symm.trans hnode')
          exact hone
      rw [hsame, hholds.nr_eq]
      constructor
      · rintro ⟨position, hposition, hpos, -⟩ -
        refine Nat.lt_of_le_of_ne hle ?_
        intro hlen
        have hcast : ((readingsOf ms id).length : ℤ) = 2147483648 := by omega
        rw [hcast, wrapInt_overflow, arrayPosition_neg (by omega)] at hposition
        have := Option.some.inj hposition
        omega
      · intro hlt
        have hlt := hlt (by simp)
        rw [wrapInt_of_lt (by omega) (by omega), arrayPosition_natCast hL]
        have hmod := Nat.mod_lt (readingsOf ms id).length hL
        exact ⟨_, rfl, by omega, by omega⟩

variable [LT V] [DecidableLT V]

/-- The data manager as a system whose steps are readings. -/
def readingSystem (cfg : Thresholds V) (stamp : SensorData V → Int64)
    (report : SensorData V → List (LogEvent V)) (sensors : List (SensorNode V L)) :
    StepSystem (Datamgr V L) (SensorData V) where
  init := ⟨sensors, []⟩
  step d m := d.reading cfg m.id m.value (stamp m) (report m)

variable (cfg : Thresholds V) (stamp : SensorData V → Int64)
  (report : SensorData V → List (LogEvent V)) {sensors : List (SensorNode V L)}

theorem readingSystem_exec (d : Datamgr V L) (ms : List (SensorData V)) :
    (readingSystem cfg stamp report sensors).exec d ms = Datamgr.deliver cfg stamp report d ms := by
  induction ms generalizing d with
  | nil => rfl
  | cons m ms ih => exact Option.bind_congr fun d _ => ih d

/-- **Every index of a run of readings is in bounds** exactly if no known sensor gets more than
    `2 ^ 31` of them. -/
theorem allSteps_indexInBounds_iff (hfresh : ∀ node ∈ sensors, node.IsFresh) (hL : 0 < L)
    (ms : List (SensorData V)) :
    (readingSystem cfg stamp report sensors).AllSteps (fun d m => d.IndexInBounds m.id)
        ⟨sensors, []⟩ ms ↔
      ∀ id, placeOf (sensorIds sensors) id ≠ none → (readingsOf ms id).length ≤ 2147483648 := by
  induction ms using List.reverseRecOn with
  | nil => exact iff_of_true trivial fun id _ => Nat.zero_le _
  | append_singleton ms m ih =>
      cases hd : Datamgr.deliver cfg stamp report ⟨sensors, []⟩ ms with
      | none =>
          -- the run has left the ring before `m`
          have hmany : ¬ ∀ id, placeOf (sensorIds sensors) id ≠ none →
              (readingsOf ms id).length ≤ 2147483648 := fun hle => by
            obtain ⟨d, hd'⟩ := (deliver_spec hfresh hL ms).2 hle
            exact absurd (hd.symm.trans hd') (by simp)
          refine iff_of_false (fun hall => hmany (ih.1 hall.of_append)) ?_
          exact fun hall => hmany fun id hid => (readingsOf_append_le ms [m] id).trans (hall id hid)
      | some d =>
          obtain ⟨htracks, hle⟩ := (deliver_spec hfresh hL ms).1 d hd
          rw [StepSystem.allSteps_concat ((readingSystem_exec cfg stamp report _ ms).trans hd), ih,
            htracks.indexInBounds_iff hL (hle m.id)]
          constructor
          · rintro ⟨-, hlt⟩ id hid
            by_cases hm : m.id = id
            · subst hm
              rw [readingsOf_concat_self, List.length_append, List.length_singleton]
              exact hlt hid
            · rw [readingsOf_concat_ne ms hm]
              exact hle id hid
          · intro hall
            refine ⟨hle, fun hid => ?_⟩
            have hlast := hall m.id hid
            rw [readingsOf_concat_self, List.length_append, List.length_singleton] at hlast
            exact hlast

/-! ## The two paths -/

/-- The id that the loop of `datamgr_parse_sensor_files` reads next. -/
def FileLoop.nextId (abi : Abi V) (s : FileLoop V L) : UInt16 := (abi.id.readInto (-1) s.file).1

/-- The loop over the file is where the run of what it reads is. -/
theorem loopVisits_fileBody_iff (P : Datamgr V L → UInt16 → Prop) (abi : Abi V) {file : List UInt8}
    {fuel : ℕ} (hfuel : file.length < fuel) (temperature : V) (ts : Int64) (d : Datamgr V L) :
    (∀ s, LoopVisits (fileBody cfg abi) ⟨file, temperature, ts, d⟩ s → 2 ≤ s.file.length →
        P s.datamgr (s.nextId abi)) ↔
      (readingSystem cfg SensorData.ts (fun _ => []) sensors).AllSteps (fun d m => P d m.id) d
        (abi.recordsRead (fun m => (m.value, m.ts)) fuel (temperature, ts) file) := by
  induction fuel generalizing file temperature ts d with
  | zero => exact absurd hfuel (Nat.not_lt_zero _)
  | succ fuel ih =>
      by_cases hshort : file.length < 2
      · have hexit : fileBody cfg abi ⟨file, temperature, ts, d⟩ = some (.exit d) := if_pos hshort
        rw [abi.recordsRead_short _ fuel _ hshort]
        refine iff_of_true ?_ trivial
        intro s hvisits hlong
        rcases loopVisits_iff.1 hvisits with rfl | ⟨s₁, hs₁, -⟩
        · exact absurd hshort (Nat.not_lt.2 hlong)
        · exact absurd (hexit.symm.trans hs₁) (by simp)
      · obtain ⟨m, rest, hread⟩ : ∃ m rest, abi.readRecord (temperature, ts) file = (m, rest) :=
          ⟨_, _, rfl⟩
        have hrest : rest.length < fuel := by
          rw [Abi.readRecord_rest hread, List.length_drop]
          omega
        have hbody := fileBody_long cfg hshort hread d
        have hid : (⟨file, temperature, ts, d⟩ : FileLoop V L).nextId abi = m.id :=
          congrArg (fun read => read.1.id) hread
        have ih := fun d' => ih hrest m.value m.ts d'
        rw [abi.recordsRead_long _ fuel hshort hread]
        constructor
        · intro hall
          have hfirst := hall _ .start (Nat.le_of_not_lt hshort)
          rw [hid] at hfirst
          refine ⟨hfirst, fun d' hd' => (ih d').1 ?_⟩
          intro s hvisits
          refine hall s (loopVisits_iff.2 (Or.inr ⟨_, ?_, hvisits⟩))
          rw [hbody, show d.reading cfg m.id m.value m.ts [] = some d' from hd', Option.map_some]
        · rintro ⟨hfirst, hlater⟩ s hvisits
          rcases loopVisits_iff.1 hvisits with rfl | ⟨s₁, hs₁, hvisits⟩
          · rw [hid]
            exact fun _ => hfirst
          · rw [hbody] at hs₁
            obtain ⟨d', hd', hnext⟩ := Option.map_eq_some_iff.1 hs₁
            obtain rfl := LoopStep.next.inj hnext
            exact (ih d').2 (hlater d' hd') s hvisits

/-- The loop of `datamgr_parse_sensor_data` as a system whose steps are the measurements it handles:
    those with an id, for it drops a measurement of sensor 0 without looking for a node. -/
def datamgrSystem (cfg : Thresholds V) (clock : ℕ → Int64) (map : List Char) :
    StepSystem (Datamgr V L) (SensorData V) where
  init := ⟨parseSensorMap clock map, []⟩
  step := datamgrHandle cfg

/-- **When the ring index is in bounds.** In every run of `datamgr_parse_sensor_data`, which is on
    measurements with an id, and whenever `datamgr_parse_sensor_files` records a reading,
    `array_position` is assigned and inside the ring, exactly if no sensor of the map gets more than
    `2 ^ 31` readings in the run or from the file. -/
theorem ring_index_in_bounds_iff (cfg : Thresholds V) (hL : 0 < L) (clock : ℕ → Int64)
    (map : List Char) :
    (∀ ms, (datamgrSystem (L := L) cfg clock map).AllSteps (fun d m => d.IndexInBounds m.id)
          (datamgrSystem cfg clock map).init ms ↔
        ∀ id, getSensorNodeWithId (parseSensorMap clock map : List (SensorNode V L)) id ≠ some none →
          (readingsOf ms id).length ≤ 2147483648) ∧
      ∀ (abi : Abi V) file,
        (∀ s : FileLoop V L, LoopVisits (fileBody cfg abi) ⟨file, 0, 0, parseSensorMap clock map, []⟩ s →
          2 ≤ s.file.length → s.datamgr.IndexInBounds (s.nextId abi)) ↔
        ∀ id, getSensorNodeWithId (parseSensorMap clock map : List (SensorNode V L)) id ≠ some none →
          (readingsOf (abi.datamgrRecords file) id).length ≤ 2147483648 := by
  have hfresh := parseSensorMap_isFresh (V := V) (L := L) clock map
  simp only [getSensorNodeWithId_eq, ne_eq, Option.some.injEq]
  constructor
  · intro ms
    exact allSteps_indexInBounds_iff cfg (fun m => Int64.ofNat m.id.toNat)
      (fun m => [.invalidId m.id]) hfresh hL ms
  · intro abi file
    rw [loopVisits_fileBody_iff cfg (fun d id => d.IndexInBounds id) abi (Nat.lt_succ_self _)]
    exact allSteps_indexInBounds_iff cfg SensorData.ts (fun _ => []) hfresh hL _

end Readings

/-- A map with sensor 15 in room 1. -/
def oneSensorMap : List Char := ['1', ' ', '1', '5', '\n']

theorem ring_index_in_bounds_iff_example :
    (∀ ms, (datamgrSystem (L := 5) ⟨19, 21⟩ (fun _ => 0) oneSensorMap).AllSteps
          (fun (d : Datamgr ℚ 5) m => d.IndexInBounds m.id)
          (datamgrSystem ⟨19, 21⟩ (fun _ => 0) oneSensorMap).init ms ↔
        ∀ id, getSensorNodeWithId (parseSensorMap (fun _ => 0) oneSensorMap :
            List (SensorNode ℚ 5)) id ≠ some none →
          (readingsOf ms id).length ≤ 2147483648) ∧
      ∀ (abi : Abi ℚ) file,
        (∀ s : FileLoop ℚ 5, LoopVisits (fileBody ⟨19, 21⟩ abi)
            ⟨file, 0, 0, parseSensorMap (fun _ => 0) oneSensorMap, []⟩ s →
          2 ≤ s.file.length → s.datamgr.IndexInBounds (s.nextId abi)) ↔
        ∀ id, getSensorNodeWithId (parseSensorMap (fun _ => 0) oneSensorMap :
            List (SensorNode ℚ 5)) id ≠ some none →
          (readingsOf (abi.datamgrRecords file) id).length ≤ 2147483648 :=
  ring_index_in_bounds_iff ⟨19, 21⟩ (by decide) (fun _ => 0) oneSensorMap

/-- The reading after `2 ^ 31` others of sensor 15 is written outside the ring. -/
theorem ring_index_overflows :
    ¬ ∀ ms : List (SensorData ℚ),
      (datamgrSystem (L := 5) ⟨19, 21⟩ (fun _ => 0) oneSensorMap).AllSteps
        (fun d m => d.IndexInBounds m.id)
        (datamgrSystem ⟨19, 21⟩ (fun _ => 0) oneSensorMap).init ms := by
  intro hall
  have hmany := (allSteps_indexInBounds_iff ⟨19, 21⟩ (fun m => Int64.ofNat m.id.toNat)
    (fun m => [.invalidId m.id]) (parseSensorMap_isFresh (fun _ => 0) oneSensorMap) (by decide) _).1
    (hall (List.replicate 2147483649 ⟨15, 20, 100⟩))
  have hcount := hmany 15 (by decide)
  rw [readingsOf, List.filter_replicate_of_pos (by decide), List.length_map,
    List.length_replicate] at hcount
  exact absurd hcount (by decide)

end SensorGateway
