import SensorGateway.Sbuffer.Runs

set_option autoImplicit false

/-! # The threads of the gateway process

The connection manager, the two manager loops (`datamgr_parse_sensor_data`,
`storagemgr_parse_sensor_data`) and the shutdown sequence of `main`, interleaved in any order. A
step is what a thread does between two points where another thread can interfere: one critical
section on the buffer, one handled measurement, one test of a flag.

The two manager loops are the same loop over different readers and flags: look whether the buffer
has a first node, remove into a zeroed record, handle the record if its id is not 0, and go on
while the flag is set. They differ in what handling is. The data manager updates its sensor list;
here that is any function `process` on any state `D`. The storage manager calls `insert_sensor`,
whose outcome the environment decides; its return value is ignored, as in the source. -/

namespace SensorGateway

variable {V D : Type}

/-- Where a manager thread stands in its `do … while` loop. -/
inductive ManagerPc (V : Type) where
  /-- before `sbuffer_get_first_node` -/
  | check
  /-- a first node was seen; before `sbuffer_remove` -/
  | remove
  /-- `sbuffer_remove` returned; `*first_data_node` holds `data` -/
  | handle (data : SensorData V)
  /-- before the test of the flag -/
  | test
  /-- the loop was left -/
  | exited
deriving DecidableEq

/-- Where `main` stands in its shutdown sequence. -/
inductive MainPc where
  | joinConnmgr
  | clearDatamgr
  | clearStoragemgr
  | joinDatamgr
  | joinStoragemgr
  | joined
deriving DecidableEq, Repr

/-- The state of the process, with a record of the measurements inserted and handled so far. -/
structure Gateway (V D : Type) where
  buffer : Sbuffer V
  connmgrRunning : Bool
  main : MainPc
  /-- `run_datamgr` and `run_storagemgr` -/
  run : Reader → Bool
  pc : Reader → ManagerPc V
  /-- the state of the data manager (`sensor_list`) -/
  sensors : D
  /-- the rows of the database table -/
  table : List (SensorData V)
  /-- the measurements of the `insert_sensor` calls that failed -/
  failed : List (SensorData V)
  inserted : List (SensorData V)
  /-- the measurements processed by the data manager, and those passed to `insert_sensor` -/
  handled : Reader → List (SensorData V)

/-- Who makes a step, with the choices of the environment: the measurement received and the block
    `malloc` returns for it, and whether an `insert_sensor` call made in the step succeeds. -/
inductive GatewayStep (V : Type) where
  | insert (m : SensorData V) (block : Addr)
  | connmgrExit
  | manager (r : Reader) (dbOk : Bool)
  | main

/-- The zeroed record that a manager hands to `sbuffer_remove`. -/
def placeholder [Zero V] : SensorData V := ⟨0, 0, 0⟩

/-- The body of `if (first_data_node->id != 0)`. -/
def Gateway.handle (process : D → SensorData V → D) (s : Gateway V D) (r : Reader)
    (data : SensorData V) (dbOk : Bool) : Gateway V D :=
  let s := { s with handled := Function.update s.handled r (s.handled r ++ [data]) }
  match r, dbOk with
  | .datamgr, _ => { s with sensors := process s.sensors data }
  | .storagemgr, true => { s with table := s.table ++ [data] }
  | .storagemgr, false => { s with failed := s.failed ++ [data] }

/-- Move the manager `r` to `pc`. -/
def Gateway.goto (s : Gateway V D) (r : Reader) (pc : ManagerPc V) : Gateway V D :=
  { s with pc := Function.update s.pc r pc }

/-- One step of a manager loop. -/
def Gateway.managerStep [Zero V] (process : D → SensorData V → D) (s : Gateway V D) (r : Reader)
    (dbOk : Bool) : Option (Gateway V D) :=
  match s.pc r with
  | .check => some (s.goto r (if sbufferGetFirstNode s.buffer = none then .test else .remove))
  | .remove => do
      let res ← sbufferRemove s.buffer r.thread placeholder
      -- `SBUFFER_REMOVE_ERROR`: the process exits
      if res.status = .failure then none
      else some ({ s with buffer := res.buffer }.goto r (.handle res.data))
  | .handle data =>
      let s := s.goto r .test
      some (if data.id = 0 then s else s.handle process r data dbOk)
  | .test => some (s.goto r (if s.run r = true then .check else .exited))
  | .exited => none

/-- One step of `main`; a join is possible once the thread has left its loop. -/
def Gateway.mainStep (s : Gateway V D) : Option (Gateway V D) :=
  match s.main with
  | .joinConnmgr => if s.connmgrRunning = true then none else some { s with main := .clearDatamgr }
  | .clearDatamgr =>
      some { s with main := .clearStoragemgr, run := Function.update s.run .datamgr false }
  | .clearStoragemgr =>
      some { s with main := .joinDatamgr, run := Function.update s.run .storagemgr false }
  | .joinDatamgr =>
      match s.pc .datamgr with
      | .exited => some { s with main := .joinStoragemgr }
      | _ => none
  | .joinStoragemgr =>
      match s.pc .storagemgr with
      | .exited => some { s with main := .joined }
      | _ => none
  | .joined => none

/-- One step of the process. -/
def Gateway.step [Zero V] (process : D → SensorData V → D) (s : Gateway V D) :
    GatewayStep V → Option (Gateway V D)
  | .insert m block =>
      if s.connmgrRunning = true ∧ (s.buffer.heap.lookup block).isSome = false then do
        let (status, buffer) ← sbufferInsert s.buffer m (some block)
        -- `SBUFFER_INSERT_ERROR`: the process exits
        if status = .success then some { s with buffer, inserted := s.inserted ++ [m] }
        else none
      else none
  | .connmgrExit => if s.connmgrRunning = true then some { s with connmgrRunning := false } else none
  | .manager r dbOk => s.managerStep process r dbOk
  | .main => s.mainStep

/-- The process once `main` has created the threads, the data manager starting from `sensors`. -/
def Gateway.initial (sensors : D) : Gateway V D where
  buffer := sbufferInit
  connmgrRunning := true
  main := .joinConnmgr
  run _ := true
  pc _ := .check
  sensors := sensors
  table := []
  failed := []
  inserted := []
  handled _ := []

/-- All runs of the gateway process. -/
def gatewaySystem [Zero V] (process : D → SensorData V → D) (sensors : D) :
    StepSystem (Gateway V D) (GatewayStep V) where
  init := .initial sensors
  step := Gateway.step process

end SensorGateway
