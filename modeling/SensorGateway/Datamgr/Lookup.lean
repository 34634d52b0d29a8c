import SensorGateway.Datamgr.Window
import SensorGateway.Dplist.Runs

set_option autoImplicit false

/-! # `datamgr.c`: looking a node up in the linked list

`get_sensor_node_with_id` at the level of `lib/dplist.c`, with `dpl_size` and
`dpl_get_element_at_index`. It finds what `getSensorNodeWithId` says that it finds in the sequence of
the elements (`getSensorNodeWithId_elements`), and what `dpl_get_index_of_element` finds: see
`lookup_agrees_with_search`. -/

namespace SensorGateway

variable {V : Type} {L : ℕ}

/-- `sensor_list` and `index` in the loop of `get_sensor_node_with_id`. -/
structure LookupLoop (V : Type) (L : ℕ) where
  sensorList : Dplist (SensorNode V L)
  index : ℕ

/-- The body of the loop of `get_sensor_node_with_id`, which leaves with the node that it returns; a
    NULL element would be dereferenced by the comparison. -/
def LookupLoop.body (thisSensorNode : SensorNode V L) (s : LookupLoop V L) :
    Option (LoopStep (LookupLoop V L) (Option (SensorNode V L) × Dplist (SensorNode V L))) := do
  let size ← dplSize s.sensorList
  if (s.index : ℤ) < size then
    let element ← dplGetElementAtIndex s.sensorList s.index
    let dummySensorNode ← element
    if elementCompareDatamgr thisSensorNode dummySensorNode = 0 then
      return .exit (some dummySensorNode, s.sensorList)
    else
      return .next { s with index := s.index + 1 }
  else
    return .exit (none, s.sensorList)

/-- `get_sensor_node_with_id`: the node that it returns (`none` for `NULL`), and `sensor_list`. The
    probe node is what `malloc` returned, `garbage`, with the id. -/
def Dplist.getSensorNodeWithId (garbage : SensorNode V L) (sensorList : Dplist (SensorNode V L))
    (id : UInt16) : Option (Option (SensorNode V L) × Dplist (SensorNode V L)) := do
  let size ← dplSize sensorList
  loop (LookupLoop.body { garbage with sensorId := id }) (size.toNat + 1) ⟨sensorList, 0⟩

/-! ## The loops -/

section Lookup

variable {list : Dplist (SensorNode V L)} {cells : List (Addr × SensorNode V L)}

/-- The loop over the linked list takes the steps of the one over the sequence of its elements: its
    index is never clamped, since it is below the size. -/
theorem lookupLoop_body_eq (h : list.WellFormed cells) (probe : SensorNode V L) (index : ℕ) :
    LookupLoop.body probe ⟨list, index⟩ =
      (lookupBody (cells.map Prod.snd) probe index).map (LoopStep.map (LookupLoop.mk list)
        fun found => (found.bind fun k => (cells.map Prod.snd)[k]?, list)) := by
  unfold LookupLoop.body lookupBody
  rw [List.length_map]
  simp only [h.size_eq, h.elementAtIndex_eq, Option.bind_eq_bind, Option.bind_some]
  by_cases hlt : index < cells.length
  · rw [if_pos (by exact_mod_cast hlt), if_pos hlt, clampIndex_of_lt hlt, List.getElem?_map,
      List.getElem?_eq_getElem hlt, Option.map_some, Option.bind_some, Option.bind_some]
    split
    · simp [LoopStep.map, hlt]
    · rfl
  · rw [if_neg (by exact_mod_cast hlt), if_neg hlt]
    rfl

/-- **`get_sensor_node_with_id` on the linked list** returns the node at the place that it has in the
    sequence, and leaves the list alone. -/
theorem getSensorNodeWithId_elements (h : list.WellFormed cells) (garbage : SensorNode V L)
    (id : UInt16) :
    list.getSensorNodeWithId garbage id =
      some ((cells.map Prod.snd).find? fun node => node.sensorId == id, list) := by
  have hlookup := loop_lookupBody (cells.map Prod.snd) { garbage with sensorId := id }
  unfold Dplist.getSensorNodeWithId
  rw [h.size_eq, Option.bind_eq_bind, Option.bind_some, Int.toNat_natCast,
    loop_map (lookupLoop_body_eq h _), ← List.length_map (f := Prod.snd), hlookup, Option.map_some,
    placeOf, sensorIds, List.findIdx?_map, List.find?_eq_bind_findIdx?_getElem?]
  rfl

/-- **The two searches agree**: `get_sensor_node_with_id` returns the first node with the id, which is
    the one at the index that `dpl_get_index_of_element` returns for a probe node, and NULL if that
    index is -1. -/
theorem lookup_agrees_with_search (h : list.WellFormed cells)
    (hcompare : list.elementCompare = elementCompareDatamgr) (garbage probe : SensorNode V L)
    (id : UInt16) :
    ∃ index found,
      dplGetIndexOfElement list { probe with sensorId := id } = some index ∧
      list.getSensorNodeWithId garbage id = some (found, list) ∧
      found = (cells.map Prod.snd).find? (fun node => node.sensorId == id) ∧
      (found = none ↔ index = -1) ∧
      (index ≠ -1 → dplGetElementAtIndex list index = some found) := by
  -- the comparator gets its arguments the other way round, which does not matter for 0
  have hP : (fun cell : Addr × SensorNode V L =>
      list.elementCompare cell.2 { probe with sensorId := id } == 0) =
      fun cell => cell.2.sensorId == id := by
    funext cell
    rw [hcompare, Bool.eq_iff_iff, beq_iff_eq, beq_iff_eq, elementCompareDatamgr_eq_zero_iff]
  have hfind : (cells.map Prod.snd).find? (fun node => node.sensorId == id) =
      (cells[cells.findIdx fun cell => cell.2.sensorId == id]?).map Prod.snd := by
    rw [List.find?_map, List.find?_eq_getElem?_findIdx]
    rfl
  refine ⟨_, _, h.indexOfElement_eq _, getSensorNodeWithId_elements h garbage id, rfl, ?_⟩
  rw [hP, hfind]
  cases hany : cells.any fun cell => cell.2.sensorId == id with
  | true =>
      obtain ⟨hindex, hlt⟩ := firstIndex_of_any hany
      rw [hindex, List.getElem?_eq_getElem hlt, h.elementAtIndex_eq, clampIndex_of_lt hlt,
        List.getElem?_eq_getElem hlt]
      refine ⟨iff_of_false (by simp) (by omega), fun _ => rfl⟩
  | false =>
      have habsent : cells.findIdx (fun cell => cell.2.sensorId == id) = cells.length :=
        List.findIdx_eq_length_of_false fun cell hcell => by
          simpa using List.any_eq_false.1 hany cell hcell
      rw [firstIndex_of_not_any hany, habsent, List.getElem?_eq_none (Nat.le_refl _)]
      exact ⟨iff_of_true rfl rfl, fun hne => absurd rfl hne⟩

end Lookup

/-- Two nodes of sensor 15 before the end, and one of sensor 21. -/
def exampleSensorCalls : List (DplCall (SensorNode ℚ 2)) :=
  [.insertAtIndex (newSensorNode 1 15 0) 1 true 1, .insertAtIndex (newSensorNode 2 15 0) 2 true 2,
    .insertAtIndex (newSensorNode 3 21 0) 3 true 3]

/-- The list that these calls make. -/
def exampleSensorList : Dplist (SensorNode ℚ 2) :=
  (dplSystem (fun _ node => node) elementCompareDatamgr).after exampleSensorCalls

/-- The first of two nodes with one id is found, at index 0, and no node with an id that is not there. -/
theorem lookup_agrees_with_search_example :
    exampleSensorList.getSensorNodeWithId (newSensorNode 0 0 0) 15 =
        some (some (newSensorNode 1 15 0), exampleSensorList) ∧
      dplGetIndexOfElement exampleSensorList (newSensorNode 0 15 0) = some 0 ∧
      exampleSensorList.getSensorNodeWithId (newSensorNode 0 0 0) 7 =
        some (none, exampleSensorList) := by
  have hrefines := dplSystem_after_refines (fun _ node => node) elementCompareDatamgr
    exampleSensorCalls (by decide)
  obtain ⟨-, found, -, hlookup, hfound, -⟩ := lookup_agrees_with_search
    hrefines.wellFormed hrefines.compare_eq (newSensorNode 0 0 0) (newSensorNode 0 0 0) 15
  obtain ⟨-, found', -, hlookup', hfound', -⟩ := lookup_agrees_with_search
    hrefines.wellFormed hrefines.compare_eq (newSensorNode 0 0 0) (newSensorNode 0 0 0) 7
  obtain rfl : found = some (newSensorNode 1 15 0) := hfound.trans rfl
  obtain rfl : found' = none := hfound'.trans rfl
  exact ⟨hlookup, rfl, hlookup'⟩

end SensorGateway
