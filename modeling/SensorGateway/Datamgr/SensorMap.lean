import Mathlib.Data.List.TakeWhile
import SensorGateway.Datamgr.LastModified
import SensorGateway.Dplist.Refinement
import SensorGateway.Log.Fifo

set_option autoImplicit false

/-! # The room/sensor map

`datamgr_parse_sensor_data` and `datamgr_parse_sensor_files` build the sensor list with the same loop
over the lines of the map. On the list itself (`parseSensorList`) it inserts every node at the end, and
the sequence of its elements is `parseSensorMap` (`parseSensorList_spec`).

The loop ignores what `sscanf` returns. A line that does not start with two numbers gets a node with
what its variables held before, so the list is the map only if there is no such line
(`sensor_list_is_map_iff`). -/

namespace SensorGateway

variable {V : Type} {L : ℕ}

/-! ## The lines of a map -/

/-- An unsigned decimal number in 0..65535 at the front of a text, after white space. -/
def unsignedNumber (s : List Char) : Option (UInt16 × List Char) :=
  let s := s.dropWhile isSpace
  let digits := s.takeWhile Char.isDigit
  let n := digits.foldl (fun n c => 10 * n + (c.toNat - '0'.toNat)) 0
  if digits = [] ∨ 65535 < n then none
  else some (UInt16.ofNat n, s.dropWhile Char.isDigit)

/-- The room and the sensor of a line that starts with two such numbers. -/
def mapEntry (line : List Char) : Option (UInt16 × UInt16) := do
  let (room, rest) ← unsignedNumber line
  let (sensor, _) ← unsignedNumber rest
  return (room, sensor)

/-- The entries of a map, in order. -/
def mapEntries (map : List Char) : List (UInt16 × UInt16) := (getLines map).filterMap mapEntry

theorem dropWhile_takeWhile {α : Type} {p q : α → Bool} (h : ∀ x, p x = true → q x = true)
    (xs : List α) : (xs.takeWhile q).dropWhile p = (xs.dropWhile p).takeWhile q := by
  induction xs with
  | nil => rfl
  | cons x xs ih =>
      by_cases hp : p x = true
      · rw [List.takeWhile_cons_of_pos (h x hp), List.dropWhile_cons_of_pos hp, ih,
          List.dropWhile_cons_of_pos hp]
      · rw [List.dropWhile_cons_of_neg hp]
        by_cases hq : q x = true
        · rw [List.takeWhile_cons_of_pos hq, List.dropWhile_cons_of_neg hp]
        · rw [List.takeWhile_cons_of_neg hq, List.dropWhile_nil]

theorem takeWhile_takeWhile_of_imp {α : Type} {p q : α → Bool} (h : ∀ x, p x = true → q x = true)
    (xs : List α) : (xs.takeWhile q).takeWhile p = xs.takeWhile p := by
  have hand : (fun x => decide (p x = true ∧ q x = true)) = p := by
    funext x
    cases hp : p x <;> simp [hp, h]
  rw [List.takeWhile_takeWhile, hand]

theorem ne_nul_of_isSpace (c : Char) (h : isSpace c = true) : decide (c ≠ '\x00') = true := by
  rw [decide_eq_true_eq]
  rintro rfl
  exact absurd h (by decide)

theorem ne_nul_of_isDigit (c : Char) (h : c.isDigit = true) : decide (c ≠ '\x00') = true := by
  rw [decide_eq_true_eq]
  rintro rfl
  exact absurd h (by decide)

/-- **`%hu` reads an unsigned number in range as it is**, and leaves what is behind it. -/
theorem scanHu_cString {s : List Char} {n : UInt16} {rest : List Char}
    (h : unsignedNumber s = some (n, rest)) : scanHu (cString s) = some (n, cString rest) := by
  unfold unsignedNumber at h
  dsimp only at h
  split at h
  · exact absurd h (by simp)
  next hnum =>
  rw [not_or, Nat.not_lt] at hnum
  obtain ⟨hdigits, hle⟩ := hnum
  obtain ⟨rfl, rfl⟩ := Prod.mk.inj (Option.some.inj h)
  -- a number starts with a digit, so `%hu` sees no sign
  obtain ⟨t, ht⟩ : ∃ t, t = s.dropWhile isSpace := ⟨_, rfl⟩
  rw [← ht] at hdigits hle ⊢
  have hcut : (cString s).dropWhile isSpace = cString t := by
    rw [ht]
    exact dropWhile_takeWhile ne_nul_of_isSpace s
  have hhead : ∃ c t', t = c :: t' ∧ c.isDigit = true := by
    cases t with
    | nil => exact absurd rfl hdigits
    | cons c t' =>
        refine ⟨c, t', rfl, ?_⟩
        by_contra hc
        exact hdigits (List.takeWhile_cons_of_neg hc)
  obtain ⟨c, t', rfl, hc⟩ := hhead
  have hsign : c ≠ '-' ∧ c ≠ '+' := by
    constructor <;> (rintro rfl; exact absurd hc (by decide))
  have htake : (cString (c :: t')).takeWhile Char.isDigit = (c :: t').takeWhile Char.isDigit :=
    takeWhile_takeWhile_of_imp ne_nul_of_isDigit _
  have hdrop : (cString (c :: t')).dropWhile Char.isDigit
      = cString ((c :: t').dropWhile Char.isDigit) := dropWhile_takeWhile ne_nul_of_isDigit _
  have hcons : ∃ u, cString (c :: t') = c :: u :=
    ⟨_, List.takeWhile_cons_of_pos (ne_nul_of_isDigit c hc)⟩
  obtain ⟨u, hu⟩ := hcons
  unfold scanHu
  rw [hcut, hu]
  dsimp only
  split
  · next heq => exact absurd (List.cons.inj heq).1 hsign.1
  · next heq => exact absurd (List.cons.inj heq).1 hsign.2
  · simp only [← hu, htake, hdrop, if_neg hdigits, Bool.false_eq_true, if_false]
    rw [if_neg (by omega)]

theorem scanRoomSensor_of_mapEntry {line : List Char} {room sensor : UInt16}
    (h : mapEntry line = some (room, sensor)) (idRoom idSensor : UInt16) :
    scanRoomSensor line idRoom idSensor = (room, sensor) := by
  unfold mapEntry at h
  simp only [Option.bind_eq_bind, Option.bind_eq_some_iff] at h
  obtain ⟨⟨room', rest⟩, hroom, ⟨sensor', rest'⟩, hsensor, heq⟩ := h
  obtain ⟨rfl, rfl⟩ := Prod.mk.inj (Option.some.inj heq)
  have hroom := scanHu_cString hroom
  have hsensor := scanHu_cString hsensor
  unfold scanRoomSensor
  rw [show scanHu (line.takeWhile (· ≠ '\x00')) = _ from hroom]
  dsimp only at hsensor ⊢
  rw [hsensor]

/-! ## The sensor list as a linked list -/

/-- The loop over the lines of the map, fewer than `2 ^ 31`, with the list that it inserts into. -/
structure SensorListLoop (V : Type) (L : ℕ) where
  list : Dplist (SensorNode V L)
  nrOfLines : ℕ
  idRoom : UInt16
  idSensor : UInt16

section SensorList

variable [Zero V]

/-- The body of the loop; `malloc` returns `block k` for the list node of line `k`. -/
def SensorListLoop.line (clock : ℕ → Int64) (block : ℕ → Addr) (s : SensorListLoop V L)
    (line : List Char) : Option (SensorListLoop V L) := do
  let nrOfLines := s.nrOfLines + 1
  let (idRoom, idSensor) := scanRoomSensor line s.idRoom s.idSensor
  let node := newSensorNode idRoom idSensor (clock nrOfLines)
  let list ← dplInsertAtIndex s.list node nrOfLines true (some (block nrOfLines))
  return { list, nrOfLines, idRoom, idSensor }

/-- The `sensor_list` built from the map. `element_copy_datamgr` returns a new element with the same
    contents. -/
def parseSensorList (clock : ℕ → Int64) (block : ℕ → Addr) (map : List Char) :
    Option (Dplist (SensorNode V L)) := do
  let s ← (getLines map).foldlM (SensorListLoop.line clock block)
    ⟨dplCreate (fun _ node => node) elementCompareDatamgr, 0, -1, -1⟩
  return s.list

/-- The two loops are at the same line: the elements of the list are the nodes, in blocks that were
    allocated for the lines so far. -/
structure SensorListLoop.Refines (s : SensorListLoop V L) (block : ℕ → Addr) (t : MapLoop V L)
    (cells : List (Addr × SensorNode V L)) : Prop where
  wellFormed : s.list.WellFormed cells
  elements_eq : cells.map Prod.snd = t.sensors
  copy_eq : s.list.elementCopy = fun _ node => node
  nr_eq : s.nrOfLines = t.nrOfLines
  room_eq : s.idRoom = t.idRoom
  sensor_eq : s.idSensor = t.idSensor
  blocks : ∀ a ∈ cells.map Prod.fst, ∃ k ≤ s.nrOfLines, a = block k

theorem SensorListLoop.Refines.line {s : SensorListLoop V L} {block : ℕ → Addr} {t : MapLoop V L}
    {cells : List (Addr × SensorNode V L)} (h : s.Refines block t cells)
    (hblock : Function.Injective block) (clock : ℕ → Int64) (line : List Char) :
    ∃ s' cells', s.line clock block line = some s' ∧ s'.Refines block (t.line clock line) cells' := by
  obtain ⟨node, hnode⟩ : ∃ node : SensorNode V L, node = newSensorNode
    (scanRoomSensor line s.idRoom s.idSensor).1 (scanRoomSensor line s.idRoom s.idSensor).2
    (clock (s.nrOfLines + 1)) := ⟨_, rfl⟩
  have hfree : block (s.nrOfLines + 1) ∉ s.list.heap := fun hmem => by
    obtain ⟨k, hk, heq⟩ := h.blocks _ ((h.wellFormed.mem_heap _).1 hmem)
    have := hblock heq
    omega
  obtain ⟨head, heap, hinsert, hwf⟩ :=
    h.wellFormed.insertAtIndex hfree node ((s.nrOfLines + 1 : ℕ) : ℤ) true
  have hcopy : (s.list.newElement node true).1 = node := congrFun (congrFun h.copy_eq _) _
  rw [hcopy] at hwf
  have hclamp : clampIndex ((s.nrOfLines + 1 : ℕ) : ℤ) cells.length
      = min (s.nrOfLines + 1) cells.length := rfl
  have hline : s.line clock block line = some ⟨{ (s.list.newElement node true).2 with head, heap },
      s.nrOfLines + 1, (scanRoomSensor line s.idRoom s.idSensor).1,
      (scanRoomSensor line s.idRoom s.idSensor).2⟩ := by
    unfold SensorListLoop.line
    dsimp only
    rw [← hnode, hinsert]
    rfl
  refine ⟨_, _, hline, hwf, ?_, h.copy_eq, congrArg (· + 1) h.nr_eq, ?_, ?_, ?_⟩
  · have hlen : cells.length = t.sensors.length := by rw [← h.elements_eq, List.length_map]
    rw [hclamp, List.map_insertIdx, h.elements_eq, hlen, hnode]
    simp only [MapLoop.line, h.nr_eq, h.room_eq, h.sensor_eq]
  · simp only [MapLoop.line, h.room_eq, h.sensor_eq]
  · simp only [MapLoop.line, h.room_eq, h.sensor_eq]
  · intro a ha
    obtain ⟨cell, hcell, rfl⟩ := List.mem_map.1 ha
    rcases List.eq_or_mem_of_mem_insertIdx hcell with rfl | hmem
    · exact ⟨s.nrOfLines + 1, Nat.le_refl _, rfl⟩
    · obtain ⟨k, hk, heq⟩ := h.blocks _ (List.mem_map_of_mem hmem)
      exact ⟨k, Nat.le_succ_of_le hk, heq⟩

theorem SensorListLoop.Refines.lines {s : SensorListLoop V L} {block : ℕ → Addr} {t : MapLoop V L}
    {cells : List (Addr × SensorNode V L)} (h : s.Refines block t cells)
    (hblock : Function.Injective block) (clock : ℕ → Int64) (lines : List (List Char)) :
    ∃ s' cells', lines.foldlM (SensorListLoop.line clock block) s = some s' ∧
      s'.Refines block (lines.foldl (MapLoop.line clock) t) cells' := by
  induction lines generalizing s t cells with
  | nil => exact ⟨s, cells, rfl, h⟩
  | cons line lines ih =>
      obtain ⟨s₁, cells₁, hline, h₁⟩ := h.line hblock clock line
      obtain ⟨s', cells', hlines, h'⟩ := ih h₁
      refine ⟨s', cells', ?_, h'⟩
      rw [List.foldlM_cons, hline]
      exact hlines

/-- **The linked list holds the sequence that `parseSensorMap` says.** -/
theorem parseSensorList_spec (clock : ℕ → Int64) {block : ℕ → Addr}
    (hblock : Function.Injective block) (map : List Char) :
    ∃ list cells, parseSensorList clock block map = some list ∧ list.WellFormed cells ∧
      cells.map Prod.snd = (parseSensorMap clock map : List (SensorNode V L)) := by
  have hstart : (⟨dplCreate (fun _ node => node) elementCompareDatamgr, 0, -1, -1⟩ :
      SensorListLoop V L).Refines block ⟨[], 0, -1, -1⟩ [] :=
    ⟨dplCreate_wellFormed _ _, rfl, rfl, rfl, rfl, rfl, by simp⟩
  obtain ⟨s', cells', hlines, h'⟩ := hstart.lines hblock clock (getLines map)
  refine ⟨s'.list, cells', ?_, h'.wellFormed, h'.elements_eq⟩
  unfold parseSensorList
  rw [hlines]
  rfl

/-! ## One node for each line -/

/-- What a line of the map determines of its node. -/
def SensorNode.mapped (node : SensorNode V L) : UInt16 × UInt16 × ℤ × V :=
  (node.roomId, node.sensorId, node.nrOfMeass, node.runningAvg)

/-- The loop inserts one node for each line. -/
theorem length_foldl_line (clock : ℕ → Int64) (lines : List (List Char)) (s : MapLoop V L) :
    (lines.foldl (MapLoop.line clock) s).sensors.length = s.sensors.length + lines.length := by
  induction lines generalizing s with
  | nil => rfl
  | cons line lines ih =>
      have hline : (s.line clock line).sensors.length = s.sensors.length + 1 := by
        simp only [MapLoop.line]
        rw [List.length_insertIdx_of_le_length (Nat.min_le_right _ _)]
      rw [List.foldl_cons, ih, hline, List.length_cons]
      omega

/-- Lines that start with two numbers get a node with those numbers, behind the others. -/
theorem mapped_foldl_line (clock : ℕ → Int64) {lines : List (List Char)}
    (hlines : ∀ line ∈ lines, mapEntry line ≠ none) {s : MapLoop V L}
    (hs : s.nrOfLines = s.sensors.length) :
    (lines.foldl (MapLoop.line clock) s).sensors.map SensorNode.mapped
      = s.sensors.map SensorNode.mapped ++
        (lines.filterMap mapEntry).map fun entry => (entry.1, entry.2, 0, 0) := by
  induction lines generalizing s with
  | nil => simp
  | cons line lines ih =>
      obtain ⟨⟨room, sensor⟩, hentry⟩ := Option.ne_none_iff_exists'.1 (hlines line (by simp))
      have hline : s.line clock line
          = ⟨s.sensors ++ [newSensorNode room sensor (clock (s.nrOfLines + 1))], s.nrOfLines + 1,
            room, sensor⟩ := by
        have hmin : min (s.nrOfLines + 1) s.sensors.length = s.sensors.length := by omega
        simp only [MapLoop.line, scanRoomSensor_of_mapEntry hentry, hmin, List.insertIdx_length_self]
      rw [List.foldl_cons, hline, ih (fun line' hmem => hlines line' (List.mem_cons_of_mem _ hmem))
        (by simp [hs]), List.filterMap_cons_some hentry]
      simp [SensorNode.mapped, newSensorNode]

/-- **When the sensor list is the map.** The loop builds a list, and its elements are one node for each
    line that starts with two numbers, in order, with those numbers as room and sensor, no measurement
    and the average 0, exactly if every line starts with two numbers. -/
theorem sensor_list_is_map_iff (clock : ℕ → Int64) {block : ℕ → Addr}
    (hblock : Function.Injective block) (map : List Char) :
    ∃ (list : Dplist (SensorNode V L)) (nodes : List (SensorNode V L)),
      parseSensorList clock block map = some list ∧ list.elements = some nodes ∧
      (nodes.map SensorNode.mapped = (mapEntries map).map (fun entry => (entry.1, entry.2, 0, 0)) ↔
        ∀ line ∈ getLines map, mapEntry line ≠ none) := by
  obtain ⟨list, cells, hlist, hwf, hcells⟩ := parseSensorList_spec (V := V) (L := L) clock hblock map
  refine ⟨list, parseSensorMap clock map, hlist, hcells ▸ hwf.elements_eq, ?_, ?_⟩
  · intro heq
    have hlen := congrArg List.length heq
    rw [List.length_map, List.length_map, mapEntries, parseSensorMap, length_foldl_line,
      List.length_nil, Nat.zero_add, eq_comm, List.filterMap_length_eq_length] at hlen
    exact fun line hline => Option.isSome_iff_ne_none.1 (hlen line hline)
  · intro hlines
    exact mapped_foldl_line clock hlines rfl

end SensorList

/-- Sensors 15 and 21 in rooms 1 and 2. -/
def twoSensorMap : List Char := ['1', ' ', '1', '5', '\n', '2', ' ', '2', '1', '\n']

theorem sensor_list_is_map_iff_example :
    ∃ (list : Dplist (SensorNode ℚ 5)) (nodes : List (SensorNode ℚ 5)),
      parseSensorList (fun _ => 0) id twoSensorMap = some list ∧ list.elements = some nodes ∧
      (nodes.map SensorNode.mapped
          = (mapEntries twoSensorMap).map (fun entry => (entry.1, entry.2, 0, 0)) ↔
        ∀ line ∈ getLines twoSensorMap, mapEntry line ≠ none) :=
  sensor_list_is_map_iff (fun _ => 0) Function.injective_id twoSensorMap

/-- A blank line gets a second node for the sensor of the line before it. -/
theorem blank_line_inserted :
    ¬ ∀ map : List Char, ∃ (list : Dplist (SensorNode ℚ 5)) (nodes : List (SensorNode ℚ 5)),
      parseSensorList (fun _ => 0) id map = some list ∧ list.elements = some nodes ∧
      nodes.map SensorNode.mapped = (mapEntries map).map fun entry => (entry.1, entry.2, 0, 0) := by
  intro hall
  obtain ⟨list, nodes, hlist, hnodes, heq⟩ := hall ['1', ' ', '1', '5', '\n', '\n']
  obtain ⟨list', cells, hlist', hwf, hcells⟩ := parseSensorList_spec (V := ℚ) (L := 5) (fun _ => 0)
    Function.injective_id ['1', ' ', '1', '5', '\n', '\n']
  obtain rfl := Option.some.inj (hlist.symm.trans hlist')
  rw [hwf.elements_eq, hcells, Option.some.injEq] at hnodes
  rw [← hnodes] at heq
  exact absurd heq (by decide)

end SensorGateway
