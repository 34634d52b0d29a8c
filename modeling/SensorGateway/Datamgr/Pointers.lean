import SensorGateway.Datamgr.LastModified
import SensorGateway.Datamgr.SensorMap
import SensorGateway.Dplist.Ownership
import SensorGateway.Library.Blocks

set_option autoImplicit false

/-! # The data manager and its pointers

`datamgr.c` with the memory that it works on: `sensor_list` is a list of pointers, each to the block of
a sensor node, and `get_sensor_node_with_id` returns such a pointer, through which a reading is
recorded in place. Every block that `malloc` returns is chosen by the environment, but it is not live.
An operation is `none` where the source goes through `NULL` or a block that is not live, or frees one
that is not.

`Datamgr.Basic` is about the sequence of the sensor nodes instead. Each operation here does to the
blocks what its counterpart there does to the sequence (`DatamgrMemory.Represents`), so all that is
proved about the sequence holds of the memory.

The loop over the map does not look for an id in the list before it inserts a node, so
`datamgr_get_total_sensors`, which counts the nodes, counts an id as often as it is in the map
(`total_sensors_distinct_iff`). -/

namespace SensorGateway

variable {V : Type} {L : ℕ}

/-- `sensor_list` (`none` for `NULL`), the blocks of sensor nodes that are live, the log events, and the
    variables of the loop over the map, which has fewer than `2 ^ 31` lines. -/
structure DatamgrMemory (V : Type) (L : ℕ) where
  sensorList : Option (Dplist Addr)
  nodes : Heap (SensorNode V L)
  events : List (LogEvent V)
  nrOfLines : ℕ
  idRoom : UInt16
  idSensor : UInt16

/-- `datamgr_parse_sensor_data` after `dpl_create`. `copies k` is what `malloc` returns in call number
    `k` of `element_copy_datamgr`; the list library is never asked to compare. -/
def DatamgrMemory.initial (copies : ℕ → Addr) (elementCompare : Addr → Addr → ℤ) :
    DatamgrMemory V L :=
  ⟨some (dplCreate (fun k _ => copies k) elementCompare), ∅, [], 0, -1, -1⟩

/-! ## The map -/

/-- The body of the loop over the lines of the map: the node is built in the block `template`, copied by
    `element_copy_datamgr`, and freed. `block` is for the node of the list. -/
def DatamgrMemory.line [Zero V] (s : DatamgrMemory V L) (line : List Char) (now : Int64)
    (template block : Addr) : Option (DatamgrMemory V L) := do
  let nrOfLines := s.nrOfLines + 1
  let (idRoom, idSensor) := scanRoomSensor line s.idRoom s.idSensor
  let nodes : Heap (SensorNode V L) := s.nodes.insert template (newSensorNode idRoom idSensor now)
  let list ← s.sensorList
  let element ← nodes.load (some template)
  let nodes : Heap (SensorNode V L) :=
    nodes.insert (list.elementCopy list.copied.length template) element
  let list ← dplInsertAtIndex list template nrOfLines true (some block)
  let nodes ← nodes.free (some template)
  return { s with sensorList := some list, nodes, nrOfLines, idRoom, idSensor }

/-! ## Looking a node up -/

/-- The body of the loop of `get_sensor_node_with_id`, which leaves with the pointer that it returns. -/
def pointerLookupBody (nodes : Heap (SensorNode V L)) (sensorList : Dplist Addr)
    (thisSensorNode : Addr) (index : ℕ) : Option (LoopStep ℕ Ptr) := do
  let size ← dplSize sensorList
  if (index : ℤ) < size then
    let dummySensorNode ← dplGetElementAtIndex sensorList index
    let x ← nodes.load (some thisSensorNode)
    let y ← nodes.load dummySensorNode
    if elementCompareDatamgr x y = 0 then return .exit dummySensorNode
    else return .next (index + 1)
  else
    return .exit none

/-- `get_sensor_node_with_id`: the pointer that it returns. The probe node is in the block `probe`,
    which held `garbage`. -/
def DatamgrMemory.getSensorNodeWithId (s : DatamgrMemory V L) (garbage : SensorNode V L)
    (probe : Addr) (id : UInt16) : Option (Ptr × DatamgrMemory V L) := do
  let nodes : Heap (SensorNode V L) := s.nodes.insert probe { garbage with sensorId := id }
  let list ← s.sensorList
  let size ← dplSize list
  let found ← loop (pointerLookupBody nodes list probe) (size.toNat + 1) 0
  let nodes ← nodes.free (some probe)
  return (found, { s with nodes })

/-- `datamgr_get_room_id`. -/
def DatamgrMemory.getRoomId (s : DatamgrMemory V L) (garbage : SensorNode V L) (probe : Addr)
    (id : UInt16) : Option (UInt16 × DatamgrMemory V L) := do
  let (thisSensorNode, s) ← s.getSensorNodeWithId garbage probe id
  let node ← s.nodes.load thisSensorNode
  return (node.roomId, s)

/-- `datamgr_get_total_sensors`. -/
def DatamgrMemory.getTotalSensors (s : DatamgrMemory V L) : Option ℤ :=
  match s.sensorList with
  | none => some 0
  | some list => dplSize list

/-- The nodes that `sensor_list` points to, in order. -/
def DatamgrMemory.listedNodes (s : DatamgrMemory V L) : Option (List (SensorNode V L)) := do
  let list ← s.sensorList
  let elements ← list.elements
  elements.mapM s.nodes.lookup

/-! ## A reading -/

section Reading

variable [Zero V] [Add V] [Div V] [NatCast V] [LT V] [DecidableLT V]

/-- `datamgr_get_avg`. -/
def DatamgrMemory.getAvg (cfg : Thresholds V) (s : DatamgrMemory V L) (garbage : SensorNode V L)
    (probe : Addr) (id : UInt16) : Option (V × DatamgrMemory V L) := do
  let (thisSensorNode, s) ← s.getSensorNodeWithId garbage probe id
  let node ← s.nodes.load thisSensorNode
  if L ≤ node.nrOfMeass then
    let total ← sumCells node.temperatures.toList
    let average := total / (L : V)
    let nodes ← s.nodes.modify thisSensorNode fun node => { node with runningAvg := average }
    return (average,
      { s with nodes, events := s.events ++ averageEvents cfg node.sensorId average })
  else
    return (0, s)

/-- Record a reading in the node that `this` points to. -/
def DatamgrMemory.record (cfg : Thresholds V) (s : DatamgrMemory V L) (this : Ptr)
    (garbage : SensorNode V L) (probe : Addr) (id : UInt16) (value : V) (timestamp : Int64) :
    Option (DatamgrMemory V L) := do
  let nodes ← s.nodes.modify this fun node => { node with timestamp }
  let node ← nodes.load this
  let position ← arrayPosition L node.nrOfMeass
  let temperatures ← writeTemperature node.temperatures position value
  let nodes ← nodes.modify this fun node =>
    { node with temperatures, nrOfMeass := wrapInt (node.nrOfMeass + 1) }
  let (average, s) ← DatamgrMemory.getAvg cfg { s with nodes } garbage probe id
  let nodes ← s.nodes.modify this fun node => { node with runningAvg := average }
  return { s with nodes }

/-- What `datamgr_parse_sensor_data` does with a measurement with an id, taken from the buffer. The node
    is looked up twice, here and in `datamgr_get_avg`. -/
def DatamgrMemory.handle (cfg : Thresholds V) (s : DatamgrMemory V L) (m : SensorData V)
    (garbage : SensorNode V L) (probe : Addr) (garbage' : SensorNode V L) (probe' : Addr) :
    Option (DatamgrMemory V L) := do
  let (dummySensorNode, s) ← s.getSensorNodeWithId garbage probe m.id
  if dummySensorNode = none then
    return { s with events := s.events ++ [.invalidId m.id] }
  else
    DatamgrMemory.record cfg s dummySensorNode garbage' probe' m.id m.value (Int64.ofNat m.id.toNat)

end Reading

/-! ## `datamgr_free` -/

/-- `datamgr_free`, with the nodes of the list that are left on the heap. `dpl_free` sets `sensor_list`
    to `NULL`, so `datamgr_get_total_sensors` returns 0 and what is freed then is `NULL`. -/
def DatamgrMemory.free (s : DatamgrMemory V L) :
    Option (DatamgrMemory V L × Heap (DplNode Addr)) := do
  let list ← s.sensorList
  let (heap, freed) ← dplFree list true
  -- `element_free_datamgr` for the elements passed to it by this call
  let nodes ← (freed.drop list.freed.length).foldlM (fun h a => Heap.free h (some a)) s.nodes
  return ({ s with sensorList := none, nodes }, heap)

/-! ## Runs -/

/-- A step of `datamgr_parse_sensor_data`, with the blocks that `malloc` returns in it: a line of the
    map, or a measurement. -/
inductive DatamgrCall (V : Type) (L : ℕ) where
  | line (line : List Char) (now : Int64) (template block : Addr)
  | measurement (m : SensorData V) (garbage : SensorNode V L) (probe : Addr)
      (garbage' : SensorNode V L) (probe' : Addr)

/-- `malloc` returns no block that is live. -/
def DatamgrCall.fresh (s : DatamgrMemory V L) : DatamgrCall V L → Bool
  | .line _ _ template block =>
      match s.sensorList with
      | none => false
      | some list =>
          let copy := list.elementCopy list.copied.length template
          template ∉ s.nodes ∧ copy ∉ s.nodes ∧ copy ≠ template ∧ block ∉ list.heap
  | .measurement _ _ probe _ probe' => probe ∉ s.nodes ∧ probe' ∉ s.nodes

section Runs

variable [Zero V] [Add V] [Div V] [NatCast V] [LT V] [DecidableLT V]

/-- Execute a step. -/
def DatamgrMemory.call (cfg : Thresholds V) (s : DatamgrMemory V L) :
    DatamgrCall V L → Option (DatamgrMemory V L)
  | .line line now template block => s.line line now template block
  | .measurement m garbage probe garbage' probe' => s.handle cfg m garbage probe garbage' probe'

/-- All runs of the data manager. -/
def datamgrMemorySystem (cfg : Thresholds V) (copies : ℕ → Addr)
    (elementCompare : Addr → Addr → ℤ) : StepSystem (DatamgrMemory V L) (DatamgrCall V L) where
  init := .initial copies elementCompare
  step s l := if l.fresh s = true then s.call cfg l else none

/-- What `malloc` returns: for line `k` of the map the block of the template and that of the list node,
    and for measurement `k` the blocks of the two probe nodes with what they held before. -/
structure DatamgrBlocks (V : Type) (L : ℕ) where
  template : ℕ → Addr
  listNode : ℕ → Addr
  probe : ℕ → SensorNode V L × Addr
  probe' : ℕ → SensorNode V L × Addr

/-- The steps of `datamgr_parse_sensor_data` for a map and the measurements that the buffer delivers. -/
def datamgrCalls (env : DatamgrBlocks V L) (clock : ℕ → Int64) (map : List Char)
    (ms : List (SensorData V)) : List (DatamgrCall V L) :=
  (getLines map).zipIdx.map (fun p =>
      .line p.1 (clock (p.2 + 1)) (env.template p.2) (env.listNode p.2)) ++
    ms.zipIdx.map fun p =>
      .measurement p.1 (env.probe p.2).1 (env.probe p.2).2 (env.probe' p.2).1 (env.probe' p.2).2

/-- What a step does to the sequence of the sensor nodes. -/
def DatamgrCall.onSequence (cfg : Thresholds V) (t : MapLoop V L × List (LogEvent V)) :
    DatamgrCall V L → Option (MapLoop V L × List (LogEvent V))
  | .line text now _ _ => some (t.1.line (fun _ => now) text, t.2)
  | .measurement m _ _ _ _ =>
      (datamgrHandle cfg ⟨t.1.sensors, t.2⟩ m).map fun d =>
        ({ t.1 with sensors := d.sensors }, d.events)

end Runs

/-! ## The memory holds the sequence -/

/-- The elements of `sensor_list` are pointers to distinct blocks, which hold the sensor nodes in order,
    and no other block is live. -/
structure DatamgrMemory.Represents (s : DatamgrMemory V L) (t : MapLoop V L × List (LogEvent V))
    (list : Dplist Addr) (cells : List (Addr × Addr)) : Prop where
  list_eq : s.sensorList = some list
  wellFormed : list.WellFormed cells
  blocks : Blocks s.nodes (cells.map Prod.snd) t.1.sensors
  events_eq : s.events = t.2
  nr_eq : s.nrOfLines = t.1.nrOfLines
  room_eq : s.idRoom = t.1.idRoom
  sensor_eq : s.idSensor = t.1.idSensor

section Refinement

variable {s : DatamgrMemory V L} {t : MapLoop V L × List (LogEvent V)} {list : Dplist Addr}
  {cells : List (Addr × Addr)}

theorem DatamgrMemory.represents_initial (copies : ℕ → Addr) (elementCompare : Addr → Addr → ℤ) :
    (DatamgrMemory.initial copies elementCompare : DatamgrMemory V L).Represents
      (⟨[], 0, -1, -1⟩, []) (dplCreate (fun k _ => copies k) elementCompare) [] where
  list_eq := rfl
  wellFormed := dplCreate_wellFormed _ _
  blocks := blocks_empty
  events_eq := rfl
  nr_eq := rfl
  room_eq := rfl
  sensor_eq := rfl

theorem DatamgrMemory.Represents.length_eq (h : s.Represents t list cells) :
    cells.length = t.1.sensors.length := by
  rw [← h.blocks.length_eq, List.length_map]

/-- **A line of the map** adds a node to the sequence, in the block of the copy; the template is gone. -/
theorem DatamgrMemory.Represents.line [Zero V] (h : s.Represents t list cells) (line : List Char)
    (now : Int64) {template block : Addr}
    (hfresh : (DatamgrCall.line line now template block : DatamgrCall V L).fresh s = true) :
    ∃ s' list' cells', s.line line now template block = some s' ∧
      s'.Represents (t.1.line (fun _ => now) line, t.2) list' cells' := by
  simp only [DatamgrCall.fresh, h.list_eq, decide_eq_true_eq] at hfresh
  obtain ⟨htemplate, hcopy, hne, hblock⟩ := hfresh
  obtain ⟨copy, hcopyEq⟩ : ∃ copy, copy = list.elementCopy list.copied.length template := ⟨_, rfl⟩
  rw [← hcopyEq] at hcopy hne
  obtain ⟨node, hnode⟩ : ∃ node : SensorNode V L, node = newSensorNode
    (scanRoomSensor line s.idRoom s.idSensor).1 (scanRoomSensor line s.idRoom s.idSensor).2 now :=
    ⟨_, rfl⟩
  obtain ⟨head, heap, hinsert, hwf⟩ :=
    h.wellFormed.insertAtIndex hblock template ((s.nrOfLines + 1 : ℕ) : ℤ) true
  have hnew : (list.newElement template true).1 = copy := hcopyEq.symm
  rw [hnew] at hwf
  -- allocated first and freed last, the template leaves the block of the copy only
  have hfree : Heap.free (Finmap.insert copy node (Finmap.insert template node s.nodes))
      (some template) = some (s.nodes.insert copy node) := by
    rw [Finmap.insert_insert_of_ne _ hne.symm]
    exact free_insert (fun hmem => (Finmap.mem_insert.1 hmem).elim (fun he => hne he.symm) htemplate)
      node
  have hline : s.line line now template block = some { s with
      sensorList := some { (list.newElement template true).2 with head, heap }
      nodes := s.nodes.insert copy node
      nrOfLines := s.nrOfLines + 1
      idRoom := (scanRoomSensor line s.idRoom s.idSensor).1
      idSensor := (scanRoomSensor line s.idRoom s.idSensor).2 } := by
    unfold DatamgrMemory.line
    simp only [h.list_eq, ← hnode, Heap.load_some, Finmap.lookup_insert, ← hcopyEq,
      Option.bind_eq_bind, Option.bind_some, hinsert, hfree]
    rfl
  have hlen := h.length_eq
  have hclamp : clampIndex ((s.nrOfLines + 1 : ℕ) : ℤ) cells.length
      = min (t.1.nrOfLines + 1) t.1.sensors.length := by
    rw [h.nr_eq, ← hlen]
    rfl
  refine ⟨_, _, _, hline, rfl, hwf, ?_, h.events_eq, congrArg (· + 1) h.nr_eq, ?_, ?_⟩
  · rw [List.map_insertIdx, hclamp]
    simp only [MapLoop.line, ← h.room_eq, ← h.sensor_eq, ← hnode]
    refine h.blocks.insertIdx hcopy node ?_
    rw [List.length_map, hlen]
    exact Nat.min_le_right _ _
  · simp only [MapLoop.line, h.room_eq, h.sensor_eq]
  · simp only [MapLoop.line, h.room_eq, h.sensor_eq]

/-- The loop over the pointers takes the steps of the one over the sequence. -/
theorem pointerLookupBody_eq (hwf : list.WellFormed cells) {nodes : Heap (SensorNode V L)}
    {sensors : List (SensorNode V L)}
    (hnodes : (cells.map Prod.snd).map nodes.lookup = sensors.map some) {this : Addr}
    {probe : SensorNode V L} (hthis : nodes.lookup this = some probe) (index : ℕ) :
    pointerLookupBody nodes list this index =
      (lookupBody sensors probe index).map (LoopStep.map id
        fun found => found.bind fun k => (cells.map Prod.snd)[k]?) := by
  have hlen : cells.length = sensors.length := by simpa using congrArg List.length hnodes
  unfold pointerLookupBody lookupBody
  simp only [hwf.size_eq, hwf.elementAtIndex_eq, Option.bind_eq_bind, Option.bind_some, ← hlen]
  by_cases hlt : index < cells.length
  · have hlt' : index < sensors.length := hlen ▸ hlt
    have hload : nodes.lookup cells[index].2 = some sensors[index] := by
      have hget := congrArg (·[index]?) hnodes
      simpa [hlt, hlt'] using hget
    rw [if_pos (by exact_mod_cast hlt), if_pos hlt, clampIndex_of_lt hlt,
      List.getElem?_eq_getElem hlt, List.getElem?_eq_getElem hlt']
    simp only [Option.map_some, Heap.load_some, hthis, hload, Option.bind_some]
    split
    · simp [LoopStep.map, hlt]
    · rfl
  · rw [if_neg (by exact_mod_cast hlt), if_neg hlt]
    rfl

/-- **`get_sensor_node_with_id` returns the pointer to the first node with the id**, and leaves the
    memory as it was. -/
theorem DatamgrMemory.Represents.getSensorNodeWithId_eq (h : s.Represents t list cells)
    (garbage : SensorNode V L) {probe : Addr} (hprobe : probe ∉ s.nodes) (id : UInt16) :
    s.getSensorNodeWithId garbage probe id =
      some ((placeOf (sensorIds t.1.sensors) id).bind fun k => (cells.map Prod.snd)[k]?, s) := by
  have hnodes : (cells.map Prod.snd).map
      (s.nodes.insert probe { garbage with sensorId := id }).lookup = t.1.sensors.map some := by
    rw [← h.blocks.lookup_eq]
    exact List.map_congr_left fun a ha => Finmap.lookup_insert_of_ne _ fun he =>
      hprobe (h.blocks.mem_iff.2 (he ▸ ha))
  have hloop := loop_map (pointerLookupBody_eq h.wellFormed hnodes
    (Finmap.lookup_insert s.nodes)) (t.1.sensors.length + 1) 0
  rw [loop_lookupBody] at hloop
  unfold DatamgrMemory.getSensorNodeWithId
  simp only [h.list_eq, h.wellFormed.size_eq, Option.bind_eq_bind, Option.bind_some,
    Int.toNat_natCast, h.length_eq]
  rw [hloop]
  simp only [Option.map_some, Option.bind_some, free_insert hprobe]
  rw [← h.list_eq]
  rfl

section Readings

variable [Zero V] [Add V] [Div V] [NatCast V] [LT V] [DecidableLT V] {cfg : Thresholds V}
  {id : UInt16} {k : ℕ} {a probe : Addr} {node : SensorNode V L}

/-- `datamgr_get_avg` of a sensor whose node is in block `a`. -/
theorem DatamgrMemory.Represents.getAvg_eq (h : s.Represents t list cells)
    (hplace : placeOf (sensorIds t.1.sensors) id = some k) (ha : (cells.map Prod.snd)[k]? = some a)
    (hnode : s.nodes.lookup a = some node) (garbage : SensorNode V L) (hprobe : probe ∉ s.nodes) :
    s.getAvg cfg garbage probe id = node.average.map fun average =>
      (average, if L ≤ node.nrOfMeass then
          { s with
            nodes := s.nodes.insert a { node with runningAvg := average }
            events := s.events ++ averageEvents cfg node.sensorId average }
        else s) := by
  unfold DatamgrMemory.getAvg SensorNode.average
  rw [h.getSensorNodeWithId_eq garbage hprobe id, hplace]
  simp only [Option.bind_eq_bind, Option.bind_some, ha, Heap.load_some, hnode,
    Heap.modify_some hnode]
  split
  · cases sumCells node.temperatures.toList <;> rfl
  · rfl

/-- **A reading is recorded in its block**: through the pointers, the node becomes what it becomes in
    the sequence. -/
theorem DatamgrMemory.Represents.record_node (h : s.Represents t list cells)
    (hplace : placeOf (sensorIds t.1.sensors) id = some k) (ha : (cells.map Prod.snd)[k]? = some a)
    (hnode : s.nodes.lookup a = some node) (garbage : SensorNode V L) (hprobe : probe ∉ s.nodes)
    (value : V) (timestamp : Int64) :
    s.record cfg (some a) garbage probe id value timestamp =
      (node.take value timestamp).map fun node' =>
        { s with nodes := s.nodes.insert a node', events := s.events ++ node'.alarms cfg } := by
  unfold DatamgrMemory.record SensorNode.take
  simp only [Option.bind_eq_bind, Heap.modify_some hnode, Option.bind_some, Heap.load_some,
    Finmap.lookup_insert]
  cases arrayPosition L node.nrOfMeass with
  | none => rfl
  | some position =>
      simp only [Option.bind_some]
      cases writeTemperature node.temperatures position value with
      | none => rfl
      | some temperatures =>
          simp only [Option.bind_some]
          obtain ⟨written, hwritten⟩ : ∃ written : SensorNode V L, written = { node with
            timestamp, temperatures, nrOfMeass := wrapInt (node.nrOfMeass + 1) } := ⟨_, rfl⟩
          have hmodify : Heap.modify (s.nodes.insert a { node with timestamp }) (some a)
              (fun node => { node with temperatures, nrOfMeass := wrapInt (node.nrOfMeass + 1) })
              = some (s.nodes.insert a written) := by
            rw [Heap.modify_some (Finmap.lookup_insert s.nodes), Finmap.insert_insert, hwritten]
          -- the memory in which the average is computed holds the written node
          have hsensor : t.1.sensors[k]? = some node := by rw [← h.blocks.lookup ha, hnode]
          have hrep : DatamgrMemory.Represents { s with nodes := s.nodes.insert a written }
              ({ t.1 with sensors := t.1.sensors.set k written }, t.2) list cells :=
            ⟨h.list_eq, h.wellFormed, h.blocks.set ha written, h.events_eq, h.nr_eq, h.room_eq,
              h.sensor_eq⟩
          have hids : sensorIds (t.1.sensors.set k written) = sensorIds t.1.sensors :=
            sensorIds_set hsensor (by rw [hwritten])
          have hprobe' : probe ∉ s.nodes.insert a written := fun hmem => by
            rcases Finmap.mem_insert.1 hmem with rfl | hmem
            · exact hprobe (Finmap.mem_of_lookup_eq_some hnode)
            · exact hprobe hmem
          rw [hmodify, Option.bind_some, hrep.getAvg_eq (hids.symm ▸ hplace) ha
            (Finmap.lookup_insert s.nodes) garbage hprobe', ← hwritten]
          cases written.average with
          | none => rfl
          | some average =>
              simp only [Option.map_some, Option.bind_some, SensorNode.alarms]
              subst hwritten
              by_cases hfull : L ≤ wrapInt (node.nrOfMeass + 1)
              · simp [hfull, Heap.modify_some (Finmap.lookup_insert _)]
              · simp [hfull, Heap.modify_some (Finmap.lookup_insert _)]

/-- **A measurement** does to the blocks what it does to the sequence, and faults if that does. -/
theorem DatamgrMemory.Represents.handle (h : s.Represents t list cells) (cfg : Thresholds V)
    (m : SensorData V) (garbage garbage' : SensorNode V L) {probe' : Addr} (hprobe : probe ∉ s.nodes)
    (hprobe' : probe' ∉ s.nodes) :
    match datamgrHandle cfg ⟨t.1.sensors, t.2⟩ m with
    | none => s.handle cfg m garbage probe garbage' probe' = none
    | some d => ∃ s', s.handle cfg m garbage probe garbage' probe' = some s' ∧
        s'.Represents ({ t.1 with sensors := d.sensors }, d.events) list cells := by
  unfold DatamgrMemory.handle datamgrHandle
  rw [reading_eq, h.getSensorNodeWithId_eq garbage hprobe]
  simp only [Option.bind_eq_bind, Option.bind_some]
  cases hplace : placeOf (sensorIds t.1.sensors) m.id with
  | none =>
      refine ⟨_, if_pos rfl, h.list_eq, h.wellFormed, h.blocks, ?_, h.nr_eq, h.room_eq, h.sensor_eq⟩
      rw [h.events_eq]
  | some k =>
      have hk : k < t.1.sensors.length := by
        obtain ⟨hk, -⟩ := List.getElem?_eq_some_iff.1 (placeOf_some hplace)
        simpa [sensorIds] using hk
      have hk' : k < (cells.map Prod.snd).length := by
        rw [List.length_map, h.length_eq]
        exact hk
      obtain ⟨a, ha⟩ : ∃ a, (cells.map Prod.snd)[k]? = some a :=
        ⟨_, List.getElem?_eq_getElem hk'⟩
      obtain ⟨node, hsensor, hnode⟩ := h.blocks.exists_value ha
      simp only [Option.bind_some, ha, reduceCtorEq, if_false]
      rw [record_eq cfg hplace hsensor, h.record_node hplace ha hnode garbage' hprobe']
      cases node.take m.value (Int64.ofNat m.id.toNat) with
      | none => rfl
      | some node' =>
          refine ⟨_, rfl, h.list_eq, h.wellFormed, h.blocks.set ha node', ?_, h.nr_eq, h.room_eq,
            h.sensor_eq⟩
          rw [h.events_eq]

/-- **One step.** -/
theorem DatamgrMemory.Represents.call (h : s.Represents t list cells) (cfg : Thresholds V)
    {l : DatamgrCall V L} (hfresh : l.fresh s = true) :
    Option.Rel (fun s t => ∃ list cells, s.Represents t list cells) (s.call cfg l)
      (l.onSequence cfg t) := by
  cases l with
  | line line now template block =>
      obtain ⟨s', list', cells', hs', hrep⟩ := h.line line now hfresh
      have hcall : s.call cfg (.line line now template block) = some s' := hs'
      rw [hcall]
      exact .some ⟨list', cells', hrep⟩
  | measurement m garbage probe garbage' probe' =>
      simp only [DatamgrCall.fresh, decide_eq_true_eq] at hfresh
      have hhandle := h.handle cfg m garbage garbage' hfresh.1 hfresh.2
      simp only [DatamgrCall.onSequence, DatamgrMemory.call]
      cases hd : datamgrHandle cfg ⟨t.1.sensors, t.2⟩ m with
      | none =>
          rw [hd] at hhandle
          rw [hhandle]
          exact .none
      | some d =>
          rw [hd] at hhandle
          obtain ⟨s', hs', hrep⟩ := hhandle
          rw [hs']
          exact .some ⟨list, cells, hrep⟩

/-- **A run**, as long as `malloc` returns no block that is live. -/
theorem DatamgrMemory.Represents.run {copies : ℕ → Addr} {elementCompare : Addr → Addr → ℤ}
    {ls : List (DatamgrCall V L)} (h : s.Represents t list cells)
    (hfresh : (datamgrMemorySystem cfg copies elementCompare).AllSteps
      (fun s l => l.fresh s = true) s ls) :
    Option.Rel (fun s t => ∃ list cells, s.Represents t list cells)
      ((datamgrMemorySystem cfg copies elementCompare).exec s ls)
      (ls.foldlM (fun t l => l.onSequence cfg t) t) := by
  have hstep : ∀ (s : DatamgrMemory V L) (t : MapLoop V L × List (LogEvent V)) (l : DatamgrCall V L),
      (∃ list cells, s.Represents t list cells) → l.fresh s = true →
      Option.Rel (fun s t => ∃ list cells, s.Represents t list cells)
        ((datamgrMemorySystem cfg copies elementCompare).step s l) (l.onSequence cfg t) := by
    rintro s t l ⟨list, cells, h⟩ hl
    have hcall : (datamgrMemorySystem cfg copies elementCompare).step s l = s.call cfg l := if_pos hl
    rw [hcall]
    exact h.call cfg hl
  have hrun := StepSystem.exec_lockstep (U := ⟨t, fun t l => l.onSequence cfg t⟩) (f := id) hstep
    ⟨list, cells, h⟩ hfresh
  rwa [List.map_id, StepSystem.exec_eq_foldlM t] at hrun

end Readings

/-- **`datamgr_free`** frees every sensor node once and every node of the list. -/
theorem DatamgrMemory.Represents.free (h : s.Represents t list cells) :
    s.free = some ({ s with sensorList := none, nodes := ∅ }, ∅) := by
  unfold DatamgrMemory.free
  simp only [h.list_eq, Option.bind_eq_bind, Option.bind_some, h.wellFormed.free_eq,
    List.drop_left]
  rw [h.blocks.freeAll]
  rfl

end Refinement

/-! ## The data manager in a run of the process -/

section Process

variable [Zero V] [Add V] [Div V] [NatCast V] [LT V] [DecidableLT V] {cfg : Thresholds V}

/-- On the sequence, the lines of the map do what `parseSensorMap` does. -/
theorem foldlM_onSequence_map (env : DatamgrBlocks V L) (clock : ℕ → Int64)
    (lines : List (List Char)) (t : MapLoop V L) (events : List (LogEvent V)) (start : ℕ)
    (hstart : t.nrOfLines = start) :
    ((lines.zipIdx start).map fun p => (.line p.1 (clock (p.2 + 1)) (env.template p.2)
      (env.listNode p.2) : DatamgrCall V L)).foldlM (fun t l => l.onSequence cfg t) (t, events)
      = some (lines.foldl (MapLoop.line clock) t, events) := by
  induction lines generalizing t start with
  | nil => rfl
  | cons line lines ih =>
      have hline : t.line (fun _ => clock (start + 1)) line = t.line clock line := by
        simp only [MapLoop.line, hstart]
      rw [List.zipIdx_cons, List.map_cons, List.foldlM_cons, List.foldl_cons, ← hline]
      exact ih _ (start + 1) (congrArg (· + 1) hstart)

/-- The measurements do what `datamgrHandle` does. -/
theorem foldlM_onSequence_measurements (env : DatamgrBlocks V L) (ms : List (SensorData V))
    (t : MapLoop V L) (events : List (LogEvent V)) (start : ℕ) :
    ((ms.zipIdx start).map fun p => (.measurement p.1 (env.probe p.2).1 (env.probe p.2).2
      (env.probe' p.2).1 (env.probe' p.2).2 : DatamgrCall V L)).foldlM
        (fun t l => l.onSequence cfg t) (t, events)
      = (ms.foldlM (datamgrHandle cfg) ⟨t.sensors, events⟩).map fun d =>
          ({ t with sensors := d.sensors }, d.events) := by
  induction ms generalizing t events start with
  | nil => rfl
  | cons m ms ih =>
      rw [List.zipIdx_cons, List.map_cons, List.foldlM_cons, List.foldlM_cons]
      simp only [DatamgrCall.onSequence]
      cases datamgrHandle cfg ⟨t.sensors, events⟩ m with
      | none => rfl
      | some d => exact ih { t with sensors := d.sensors } d.events (start + 1)

theorem foldlM_datamgrCalls (cfg : Thresholds V) (env : DatamgrBlocks V L) (clock : ℕ → Int64)
    (map : List Char) (ms : List (SensorData V)) :
    ∃ loop : MapLoop V L,
      (datamgrCalls env clock map ms).foldlM (fun t l => l.onSequence cfg t) (⟨[], 0, -1, -1⟩, [])
        = (ms.foldlM (datamgrHandle cfg) ⟨parseSensorMap clock map, []⟩).map fun d =>
            ({ loop with sensors := d.sensors }, d.events) := by
  refine ⟨(getLines map).foldl (MapLoop.line clock) ⟨[], 0, -1, -1⟩, ?_⟩
  unfold datamgrCalls
  rw [List.foldlM_append, foldlM_onSequence_map env clock (getLines map) _ [] 0 rfl]
  exact foldlM_onSequence_measurements env ms _ [] 0

theorem datamgrMemorySystem_fresh {copies : ℕ → Addr} {elementCompare : Addr → Addr → ℤ}
    {s s' : DatamgrMemory V L} {l : DatamgrCall V L}
    (h : (datamgrMemorySystem cfg copies elementCompare).step s l = some s') :
    l.fresh s = true := by
  by_contra hl
  simp only [datamgrMemorySystem, if_neg hl] at h
  exact absurd h (by simp)

/-- The templates and the probe nodes reuse block 1; the copies are at 100, the list nodes at 200. -/
def exampleBlocks : DatamgrBlocks ℚ 2 :=
  ⟨fun _ => 1, (200 + ·), fun _ => (newSensorNode 0 0 0, 1), fun _ => (newSensorNode 0 0 0, 1)⟩

/-- The memory after the readings of sensors 15 and 21 and of the unknown sensor 37. -/
def exampleMemory : DatamgrMemory ℚ 2 :=
  (datamgrMemorySystem ⟨19, 21⟩ (100 + ·) fun _ _ => 0).after
    (datamgrCalls exampleBlocks (fun _ => 0) twoSensorMap exampleReadings)

theorem exampleMemory_exec :
    (datamgrMemorySystem ⟨19, 21⟩ (100 + ·) fun _ _ => 0).exec (.initial (100 + ·) fun _ _ => 0)
      (datamgrCalls exampleBlocks (fun _ => 0) twoSensorMap exampleReadings) = some exampleMemory :=
  StepSystem.exec_after (by decide +kernel)

theorem exampleMemory_fresh :
    (datamgrMemorySystem ⟨19, 21⟩ (100 + ·) fun _ _ => 0).AllSteps (fun s l => l.fresh s = true)
      (.initial (100 + ·) fun _ _ => 0)
      (datamgrCalls exampleBlocks (fun _ => 0) twoSensorMap exampleReadings) :=
  StepSystem.AllSteps.of_exec (fun _ _ _ h => datamgrMemorySystem_fresh h) exampleMemory_exec

/-- **The pointers hold the sequence.** In every run on a map and measurements in which `malloc`
    returns no live block, the data manager faults exactly if it does on the sequence of its nodes.
    Otherwise the blocks that `sensor_list` points to are distinct and hold that sequence in order. -/
theorem datamgr_memory_refines (cfg : Thresholds V) (copies : ℕ → Addr)
    (elementCompare : Addr → Addr → ℤ) (env : DatamgrBlocks V L) (clock : ℕ → Int64)
    (map : List Char) (ms : List (SensorData V))
    (hfresh : (datamgrMemorySystem cfg copies elementCompare).AllSteps
      (fun s l => l.fresh s = true) (.initial copies elementCompare)
      (datamgrCalls env clock map ms)) :
    (ms.foldlM (datamgrHandle cfg) (⟨parseSensorMap clock map, []⟩ : Datamgr V L) = none →
      (datamgrMemorySystem cfg copies elementCompare).exec (.initial copies elementCompare)
        (datamgrCalls env clock map ms) = none) ∧
    ∀ d, ms.foldlM (datamgrHandle cfg) ⟨parseSensorMap clock map, []⟩ = some d →
      ∃ s list elements,
        (datamgrMemorySystem cfg copies elementCompare).exec (.initial copies elementCompare)
          (datamgrCalls env clock map ms) = some s ∧
        s.sensorList = some list ∧ list.elements = some elements ∧ elements.Nodup ∧
        elements.map s.nodes.lookup = d.sensors.map some ∧ s.events = d.events := by
  have hrun := (DatamgrMemory.represents_initial copies elementCompare).run hfresh
  obtain ⟨loop, hloop⟩ := foldlM_datamgrCalls cfg env clock map ms
  rw [hloop] at hrun
  constructor
  · intro hd
    rw [hd] at hrun
    exact StepSystem.eq_none_of_rel hrun
  · intro d hd
    rw [hd] at hrun
    obtain ⟨s, hs, list, cells, hrep⟩ := StepSystem.exists_of_rel_some hrun
    exact ⟨s, list, _, hs, hrep.list_eq, hrep.wellFormed.elements_eq, hrep.blocks.nodup,
      hrep.blocks.lookup_eq, hrep.events_eq⟩

theorem datamgr_memory_refines_example :
    ∃ d list elements, exampleReadings.foldlM (datamgrHandle ⟨19, 21⟩)
        ⟨parseSensorMap (fun _ => 0) twoSensorMap, []⟩ = some d ∧
      exampleMemory.sensorList = some list ∧ list.elements = some elements ∧
      elements.map exampleMemory.nodes.lookup = d.sensors.map some := by
  obtain ⟨hnone, hsome⟩ := datamgr_memory_refines ⟨19, 21⟩ (100 + ·) (fun _ _ => 0) exampleBlocks
    (fun _ => 0) twoSensorMap exampleReadings exampleMemory_fresh
  cases hd : exampleReadings.foldlM (datamgrHandle ⟨19, 21⟩)
      (⟨parseSensorMap (fun _ => 0) twoSensorMap, []⟩ : Datamgr ℚ 2) with
  | none => exact absurd (exampleMemory_exec.symm.trans (hnone hd)) (by simp)
  | some d =>
      obtain ⟨s, list, elements, hs, hlist, helements, -, hlookup, -⟩ := hsome d hd
      obtain rfl : s = exampleMemory := Option.some.inj (hs.symm.trans exampleMemory_exec)
      exact ⟨d, list, elements, rfl, hlist, helements, hlookup⟩

/-- A run ends with the memory holding the sequence that the sequence-level run ends with. -/
theorem DatamgrMemory.represents_of_exec {copies : ℕ → Addr} {elementCompare : Addr → Addr → ℤ}
    {env : DatamgrBlocks V L} {clock : ℕ → Int64} {map : List Char} {ms : List (SensorData V)}
    {s : DatamgrMemory V L}
    (h : (datamgrMemorySystem cfg copies elementCompare).exec (.initial copies elementCompare)
      (datamgrCalls env clock map ms) = some s) :
    ∃ d t list cells, ms.foldlM (datamgrHandle cfg) ⟨parseSensorMap clock map, []⟩ = some d ∧
      t.1.sensors = d.sensors ∧ s.Represents t list cells := by
  have hfresh := StepSystem.AllSteps.of_exec (fun s l s' => datamgrMemorySystem_fresh) h
  have hrun := (DatamgrMemory.represents_initial copies elementCompare).run hfresh
  obtain ⟨loop, hloop⟩ := foldlM_datamgrCalls cfg env clock map ms
  rw [hloop] at hrun
  rw [h] at hrun
  obtain ⟨t, ht, list, cells, hrep⟩ := StepSystem.exists_of_some_rel hrun
  obtain ⟨d, hd, rfl⟩ := Option.map_eq_some_iff.1 ht
  exact ⟨d, _, list, cells, hd, rfl, hrep⟩

/-! ## What a measurement leaves as it is -/

/-- The room and the sensor of a node. -/
def SensorNode.entry (node : SensorNode V L) : UInt16 × UInt16 := (node.roomId, node.sensorId)

omit [LT V] [DecidableLT V] in
theorem SensorNode.take_entry {node node' : SensorNode V L} {value : V} {timestamp : Int64}
    (h : node.take value timestamp = some node') : node'.entry = node.entry := by
  unfold SensorNode.take at h
  simp only [Option.bind_eq_bind, Option.bind_eq_some_iff] at h
  obtain ⟨position, -, temperatures, -, average, -, h⟩ := h
  rw [← Option.some.inj h]
  rfl

/-- A measurement moves no sensor to another room. -/
theorem datamgrHandle_entries {d d' : Datamgr V L} {m : SensorData V}
    (h : datamgrHandle cfg d m = some d') :
    d'.sensors.map SensorNode.entry = d.sensors.map SensorNode.entry := by
  unfold datamgrHandle at h
  rw [reading_eq] at h
  cases hplace : placeOf (sensorIds d.sensors) m.id with
  | none =>
      rw [hplace] at h
      rw [← Option.some.inj h]
  | some k =>
      obtain ⟨hk, -⟩ := List.getElem?_eq_some_iff.1 (placeOf_some hplace)
      have hk : k < d.sensors.length := by simpa [sensorIds] using hk
      have hnode := List.getElem?_eq_getElem hk
      rw [hplace] at h
      dsimp only at h
      rw [record_eq cfg hplace hnode] at h
      obtain ⟨node', htake, rfl⟩ := Option.map_eq_some_iff.1 h
      have hk' : k < (d.sensors.map SensorNode.entry).length := by rwa [List.length_map]
      have hget : (d.sensors.map SensorNode.entry)[k] = d.sensors[k].entry := List.getElem_map _
      rw [List.map_set, SensorNode.take_entry htake, ← hget, List.set_getElem_self]

theorem foldlM_datamgrHandle_entries {ms : List (SensorData V)} {d d' : Datamgr V L}
    (h : ms.foldlM (datamgrHandle cfg) d = some d') :
    d'.sensors.map SensorNode.entry = d.sensors.map SensorNode.entry := by
  induction ms generalizing d with
  | nil =>
      obtain rfl : d = d' := Option.some.inj h
      rfl
  | cons m ms ih =>
      obtain ⟨d₁, hd₁, hrest⟩ := Option.bind_eq_some_iff.1 h
      rw [ih hrest, datamgrHandle_entries hd₁]

/-- If every line of the map starts with two numbers, the nodes are in the rooms of the map. -/
theorem entries_of_run {clock : ℕ → Int64} {map : List Char} {ms : List (SensorData V)}
    {d : Datamgr V L} (hlines : ∀ line ∈ getLines map, mapEntry line ≠ none)
    (h : ms.foldlM (datamgrHandle cfg) ⟨parseSensorMap clock map, []⟩ = some d) :
    d.sensors.map SensorNode.entry = mapEntries map := by
  have hmapped : (parseSensorMap clock map : List (SensorNode V L)).map SensorNode.mapped
      = (mapEntries map).map fun entry => (entry.1, entry.2, 0, 0) :=
    mapped_foldl_line clock hlines rfl
  have hentries := congrArg
    (List.map fun data : UInt16 × UInt16 × ℤ × V => (data.1, data.2.1)) hmapped
  rw [List.map_map, List.map_map] at hentries
  rw [foldlM_datamgrHandle_entries h]
  exact hentries.trans (List.map_id _)

/-- **The room of a sensor.** If every line of the map starts with two numbers, `datamgr_get_room_id`
    returns the room of the first entry of the map for the sensor after any measurements, and goes
    through `NULL` exactly for the sensors that the map does not list. -/
theorem room_id_from_map {copies : ℕ → Addr} {elementCompare : Addr → Addr → ℤ}
    {env : DatamgrBlocks V L} {clock : ℕ → Int64} {map : List Char} {ms : List (SensorData V)}
    {s : DatamgrMemory V L} (hlines : ∀ line ∈ getLines map, mapEntry line ≠ none)
    (h : (datamgrMemorySystem cfg copies elementCompare).exec (.initial copies elementCompare)
      (datamgrCalls env clock map ms) = some s) (garbage : SensorNode V L) {probe : Addr}
    (hprobe : probe ∉ s.nodes) (id : UInt16) :
    s.getRoomId garbage probe id =
      ((mapEntries map).find? fun entry => entry.2 == id).map fun entry => (entry.1, s) := by
  obtain ⟨d, t, list, cells, hd, hsensors, hrep⟩ := DatamgrMemory.represents_of_exec h
  have hentries := entries_of_run hlines hd
  have hplace : placeOf (sensorIds t.1.sensors) id
      = (mapEntries map).findIdx? fun entry => entry.2 == id := by
    rw [← hentries, List.findIdx?_map, hsensors, placeOf, sensorIds, List.findIdx?_map]
    rfl
  unfold DatamgrMemory.getRoomId
  rw [hrep.getSensorNodeWithId_eq garbage hprobe id, hplace, List.find?_eq_bind_findIdx?_getElem?]
  simp only [Option.bind_eq_bind, Option.bind_some]
  cases hk : (mapEntries map).findIdx? fun entry => entry.2 == id with
  | none => rfl
  | some k =>
      obtain ⟨hlt, -, -⟩ := List.findIdx?_eq_some_iff_getElem.1 hk
      have hlt' : k < (cells.map Prod.snd).length := by
        rw [hrep.blocks.length_eq, hsensors, ← List.length_map SensorNode.entry, hentries]
        exact hlt
      obtain ⟨node, hnode, hload⟩ :=
        hrep.blocks.exists_value (List.getElem?_eq_getElem hlt')
      have hentry : (mapEntries map)[k]? = some node.entry := by
        rw [← hentries, List.getElem?_map, ← hsensors, hnode, Option.map_some]
      simp only [Option.bind_some, hentry, List.getElem?_eq_getElem hlt', Heap.load_some, hload,
        Option.map_some]
      rfl

theorem room_id_from_map_example :
    exampleMemory.getRoomId (newSensorNode 0 0 0) 1 21 = some (2, exampleMemory) :=
  (room_id_from_map (by decide) exampleMemory_exec (newSensorNode 0 0 0) (by decide +kernel) 21).trans
    (congrArg (Option.map fun entry => (entry.1, exampleMemory))
      (by decide : (mapEntries twoSensorMap).find? (fun entry => entry.2 == 21) = some (2, 21)))

/-- **No leak.** In every run there are as many sensor nodes on the heap as the map has lines, and as
    many nodes of the list, however many measurements there were; and `datamgr_free` frees each of
    them once, goes through no dead pointer, and leaves nothing. -/
theorem datamgr_leaks_nothing {copies : ℕ → Addr} {elementCompare : Addr → Addr → ℤ}
    {env : DatamgrBlocks V L} {clock : ℕ → Int64} {map : List Char} {ms : List (SensorData V)}
    {s : DatamgrMemory V L}
    (h : (datamgrMemorySystem cfg copies elementCompare).exec (.initial copies elementCompare)
      (datamgrCalls env clock map ms) = some s) :
    s.nodes.keys.card = (getLines map).length ∧
    (∃ list, s.sensorList = some list ∧ dplSize list = some ((getLines map).length : ℤ) ∧
      list.heap.keys.card = (getLines map).length) ∧
    ∃ s', s.free = some (s', ∅) ∧ s'.sensorList = none ∧ s'.nodes = ∅ := by
  obtain ⟨d, t, list, cells, hd, hsensors, hrep⟩ := DatamgrMemory.represents_of_exec h
  have hlength : d.sensors.length = (getLines map).length := by
    have hentries := congrArg List.length (foldlM_datamgrHandle_entries hd)
    rw [List.length_map, List.length_map] at hentries
    rw [hentries, parseSensorMap, length_foldl_line, List.length_nil, Nat.zero_add]
  refine ⟨?_, ⟨list, hrep.list_eq, ?_, ?_⟩, { s with sensorList := none, nodes := ∅ }, hrep.free,
    rfl, rfl⟩
  · rw [hrep.blocks.card_keys, hsensors, hlength]
  · rw [hrep.wellFormed.size_eq, hrep.length_eq, hsensors, hlength]
  · rw [hrep.wellFormed.card_keys, hrep.length_eq, hsensors, hlength]

theorem datamgr_leaks_nothing_example :
    exampleMemory.nodes.keys.card = 2 ∧ ∃ s', exampleMemory.free = some (s', ∅) :=
  have hmemory := datamgr_leaks_nothing exampleMemory_exec
  ⟨hmemory.1.trans (by decide), hmemory.2.2.imp fun _ h => h.1⟩

/-- **When the total is the number of distinct sensors.** For a map whose lines all start with two
    numbers, after any measurements, `datamgr_get_total_sensors` returns the number of distinct
    sensor ids in the nodes of the sensor list exactly if the map lists no sensor twice. -/
theorem total_sensors_distinct_iff {copies : ℕ → Addr} {elementCompare : Addr → Addr → ℤ}
    {env : DatamgrBlocks V L} {clock : ℕ → Int64} {map : List Char} {ms : List (SensorData V)}
    {s : DatamgrMemory V L} (hlines : ∀ line ∈ getLines map, mapEntry line ≠ none)
    (h : (datamgrMemorySystem cfg copies elementCompare).exec (.initial copies elementCompare)
      (datamgrCalls env clock map ms) = some s) :
    ∃ nodes, s.listedNodes = some nodes ∧
      (s.getTotalSensors = some ((sensorIds nodes).toFinset.card : ℤ) ↔
        ((mapEntries map).map Prod.snd).Nodup) := by
  obtain ⟨d, t, list, cells, hd, hsensors, hrep⟩ := DatamgrMemory.represents_of_exec h
  have hnodes : s.listedNodes = some d.sensors := by
    unfold DatamgrMemory.listedNodes
    rw [hrep.list_eq, Option.bind_eq_bind, Option.bind_some, hrep.wellFormed.elements_eq,
      Option.bind_eq_bind, Option.bind_some, hrep.blocks.mapM_lookup, hsensors]
  have htotal : s.getTotalSensors = some ((sensorIds d.sensors).length : ℤ) := by
    unfold DatamgrMemory.getTotalSensors
    rw [hrep.list_eq]
    dsimp only
    rw [hrep.wellFormed.size_eq, hrep.length_eq, hsensors, sensorIds, List.length_map]
  have hids : sensorIds d.sensors = (mapEntries map).map Prod.snd := by
    rw [← entries_of_run hlines hd, List.map_map]
    rfl
  refine ⟨d.sensors, hnodes, ?_⟩
  rw [← hids, htotal, Option.some.injEq, Int.natCast_inj]
  constructor
  · intro heq
    exact Multiset.toFinset_card_eq_card_iff_nodup.1 heq.symm
  · intro hnodup
    exact (List.toFinset_card_of_nodup hnodup).symm

theorem total_sensors_distinct_iff_example :
    ∃ nodes, exampleMemory.listedNodes = some nodes ∧
      exampleMemory.getTotalSensors = some ((sensorIds nodes).toFinset.card : ℤ) := by
  obtain ⟨nodes, hnodes, hiff⟩ := total_sensors_distinct_iff (by decide) exampleMemory_exec
  exact ⟨nodes, hnodes, hiff.2 (by decide)⟩

/-- Sensor 15 is in two rooms, and the total is 2. -/
theorem repeated_sensor_counted_twice :
    ¬ ∀ (map : List Char) (ms : List (SensorData ℚ)) (s : DatamgrMemory ℚ 2),
      (∀ line ∈ getLines map, mapEntry line ≠ none) →
      (datamgrMemorySystem ⟨19, 21⟩ (100 + ·) fun _ _ => 0).exec (.initial (100 + ·) fun _ _ => 0)
        (datamgrCalls exampleBlocks (fun _ => 0) map ms) = some s →
      ∃ nodes, s.listedNodes = some nodes ∧
        s.getTotalSensors = some ((sensorIds nodes).toFinset.card : ℤ) := by
  intro hall
  let map := ['1', ' ', '1', '5', '\n', '2', ' ', '1', '5', '\n']
  let s := (datamgrMemorySystem ⟨19, 21⟩ (100 + ·) fun _ _ => 0).after
    (datamgrCalls exampleBlocks (fun _ => 0) map [⟨15, 20, 100⟩])
  obtain ⟨nodes, hnodes, htotal⟩ := hall map [⟨15, 20, 100⟩] s (by decide)
    (StepSystem.exec_after (by decide +kernel))
  have hids : s.listedNodes.map sensorIds = some [15, 15] := by decide +kernel
  have htwo : s.getTotalSensors = some 2 := by decide +kernel
  rw [hnodes, Option.map_some, Option.some.injEq] at hids
  rw [htwo, hids] at htotal
  exact absurd htotal (by decide)

end Process

end SensorGateway
