import Mathlib.Data.BitVec
import SensorGateway.Connmgr.Clients
import SensorGateway.Gateway.Invariant

set_option autoImplicit false

/-! # When the database is unreachable

`storagemgr_function` makes three attempts to connect to the database. When the third one fails, its
thread exits, and that is all that happens: the loop of `connmgr_listen` is left only when nothing
happens for `TIMEOUT` seconds, and `main` waits for the connection manager before it looks at the
other threads. So the gateway goes on as long as there are clients (`gateway_closes_iff`).

The steps of `connmgr_listen` are interleaved with those of the managers and of `main`; a measurement
that it inserts goes to the buffer of `Gateway`. -/

namespace SensorGateway

variable {V D : Type}

/-- Where the storage manager is in `storagemgr_function`. -/
inductive StoragePc where
  /-- before the `init_connection` call that is attempt number `attemptNr` -/
  | connecting (attemptNr : ℕ)
  /-- there is a connection, and `storagemgr_parse_sensor_data` is called -/
  | connected
  /-- the thread has exited because there is no connection -/
  | gaveUp
deriving DecidableEq, Repr

/-- What comes after an `init_connection` call. -/
def storagemgrInit (attemptNr : ℕ) (connected : Bool) : StoragePc :=
  if connected = true then .connected
  else if attemptNr < 3 then .connecting (attemptNr + 1)
  else .gaveUp

/-- The state of the main process, down to the loop of `connmgr_listen`. -/
structure MainProcess (V D : Type) where
  gateway : Gateway V D
  listen : Listen V
  storage : StoragePc

/-- Who makes a step, with the choices of the environment. -/
inductive ProcessStep (V : Type) where
  /-- a step of `connmgr_listen`; a measurement that it inserts goes to the block that `malloc`
      returns -/
  | connmgr (l : ListenStep V) (block : Addr)
  /-- `connmgr_listen` has returned, and the thread exits -/
  | connmgrExit
  | initConnection (connected : Bool)
  | manager (r : Reader) (dbOk : Bool)
  | main

section System

variable [Zero V] (cfg : ListenConfig V) (process : D → SensorData V → D)

/-- Insert measurements in the buffer. -/
def Gateway.insertAll (s : Gateway V D) (block : Addr) (ms : List (SensorData V)) :
    Option (Gateway V D) :=
  ms.foldlM (fun s m => s.step process (.insert m block)) s

/-- One step of the loop of a manager; the loop of the storage manager needs a connection. -/
def MainProcess.managerStep (s : MainProcess V D) (r : Reader) (dbOk : Bool) :
    Option (MainProcess V D) :=
  if r = .storagemgr ∧ s.storage ≠ .connected then none
  else (s.gateway.step process (.manager r dbOk)).map fun gateway => { s with gateway }

/-- An `init_connection` call of the storage manager, and what follows up to the next one. -/
def MainProcess.initConnection (s : MainProcess V D) (connected : Bool) :
    Option (MainProcess V D) :=
  match s.storage with
  | .connecting attemptNr =>
      match storagemgrInit attemptNr connected with
      | .gaveUp =>
          -- `pthread_exit`
          some { s with gateway := s.gateway.goto .storagemgr .exited, storage := .gaveUp }
      | .connecting attemptNr => some { s with storage := .connecting attemptNr }
      | .connected => some { s with storage := .connected }
  | .connected | .gaveUp => none

/-- One step of the main process. -/
def MainProcess.step (s : MainProcess V D) : ProcessStep V → Option (MainProcess V D)
  | .connmgr l block => do
      let listen ← s.listen.step cfg l
      let gateway ←
        s.gateway.insertAll process block (listen.inserted.drop s.listen.inserted.length)
      return { s with gateway, listen }
  | .connmgrExit =>
      if s.listen.pc = .returned then
        (s.gateway.step process .connmgrExit).map fun gateway => { s with gateway }
      else none
  | .initConnection connected => s.initConnection connected
  | .manager r dbOk => s.managerStep process r dbOk
  | .main => (s.gateway.step process .main).map fun gateway => { s with gateway }

/-- The main process once the threads are created. -/
def MainProcess.initial (sensors : D) : MainProcess V D where
  gateway := .initial sensors
  listen := .initial cfg
  storage := .connecting 1

/-- All runs of the main process. -/
def mainSystem (sensors : D) : StepSystem (MainProcess V D) (ProcessStep V) where
  init := .initial cfg sensors
  step := MainProcess.step cfg process

end System

/-! ## What a step can do -/

section Step

variable [Zero V] {cfg : ListenConfig V} {process : D → SensorData V → D} {sensors : D}

/-- Only the connection manager inserts. -/
theorem GatewayMove.inserted_eq {q q' : Broadcast Reader (SensorData V)} {g g' : Gateway V D}
    {l : GatewayStep V} (hm : GatewayMove process q g l q' g') (hl : ∀ m block, l ≠ .insert m block) :
    g'.inserted = g.inserted := by
  cases hm with
  | insert m block => exact absurd rfl (hl m block)
  | handle r ok data => exact handle_inserted ..
  | connmgrExit | look | take | noData | skip | again | exit | joinConnmgr | clearDatamgr
  | clearStoragemgr | joinDatamgr | joinStoragemgr => rfl

/-- The buffer holds a log that both managers read. -/
def Gateway.BufferOk (g : Gateway V D) : Prop := ∃ q cells, Represents g.buffer q cells

theorem Gateway.BufferOk.step {g g' : Gateway V D} {l : GatewayStep V} (h : g.BufferOk)
    (hs : g.step process l = some g') :
    g'.BufferOk ∧ ((∀ m block, l ≠ .insert m block) → g'.inserted = g.inserted) := by
  obtain ⟨q, hrep⟩ := h
  obtain ⟨q', hm, hrep'⟩ := step_move hrep hs
  exact ⟨⟨q', hrep'⟩, hm.inserted_eq⟩

theorem Gateway.BufferOk.insertAll {block : Addr} {ms : List (SensorData V)} {g g' : Gateway V D}
    (h : g.BufferOk) (hs : g.insertAll process block ms = some g') :
    g'.BufferOk ∧ g'.inserted = g.inserted ++ ms := by
  induction ms generalizing g with
  | nil =>
      obtain rfl := Option.some.inj hs
      exact ⟨h, (List.append_nil _).symm⟩
  | cons m ms ih =>
      obtain ⟨g₁, hinsert, hs⟩ := Option.bind_eq_some_iff.1 hs
      obtain ⟨q, hrep⟩ := h
      obtain ⟨q', hm, hrep'⟩ := step_move hrep hinsert
      obtain ⟨hok, heq⟩ := ih ⟨q', hrep'⟩ hs
      refine ⟨hok, ?_⟩
      cases hm with
      | insert m block b' hrun => rw [heq, List.append_assoc, List.singleton_append]

/-- `ProcessMove cfg s l s'`: what the step `l` does to the loop of `connmgr_listen`, to the attempts
    to connect and to what is inserted. -/
inductive ProcessMove (cfg : ListenConfig V) (s : MainProcess V D) :
    ProcessStep V → MainProcess V D → Prop where
  | connmgr (l : ListenStep V) (block : Addr) (listen : Listen V) (gateway : Gateway V D)
      (hlisten : s.listen.step cfg l = some listen)
      (hinserted : gateway.inserted =
        s.gateway.inserted ++ listen.inserted.drop s.listen.inserted.length) :
      ProcessMove cfg s (.connmgr l block) { s with gateway, listen }
  | other (l : ProcessStep V) (s' : MainProcess V D) (hl : ∀ l' block, l ≠ .connmgr l' block)
      (hlisten : s'.listen = s.listen) (hinserted : s'.gateway.inserted = s.gateway.inserted)
      (hstorage : s.storage = .gaveUp → s'.storage = .gaveUp) :
      ProcessMove cfg s l s'

/-- A step of `Gateway` that is not an insertion. -/
theorem processMove_gateway {s : MainProcess V D} {l : ProcessStep V} {l' : GatewayStep V}
    {s' : MainProcess V D} (h : s.gateway.BufferOk) (hl : ∀ l' block, l ≠ .connmgr l' block)
    (hl' : ∀ m block, l' ≠ .insert m block)
    (hs : (s.gateway.step process l').map (fun gateway => { s with gateway }) = some s') :
    ProcessMove cfg s l s' ∧ s'.gateway.BufferOk := by
  obtain ⟨gateway, hstep, rfl⟩ := Option.map_eq_some_iff.1 hs
  obtain ⟨hok, hinserted⟩ := h.step hstep
  exact ⟨.other l _ hl rfl (hinserted hl') id, hok⟩

theorem MainProcess.step_move {s s' : MainProcess V D} {l : ProcessStep V} (h : s.gateway.BufferOk)
    (hs : s.step cfg process l = some s') : ProcessMove cfg s l s' ∧ s'.gateway.BufferOk := by
  cases l with
  | connmgr l block =>
      obtain ⟨listen, hlisten, hs⟩ := Option.bind_eq_some_iff.1 hs
      obtain ⟨gateway, hgateway, hs⟩ := Option.bind_eq_some_iff.1 hs
      obtain rfl := Option.some.inj hs
      obtain ⟨hok, hinserted⟩ := h.insertAll hgateway
      exact ⟨.connmgr l block listen gateway hlisten hinserted, hok⟩
  | connmgrExit =>
      simp only [MainProcess.step] at hs
      split at hs
      · exact processMove_gateway h (by simp) (by simp) hs
      · exact absurd hs (by simp)
  | initConnection connected =>
      simp only [MainProcess.step, MainProcess.initConnection] at hs
      split at hs
      · next attemptNr hstorage =>
          have hnot : s.storage ≠ .gaveUp := by rw [hstorage]; simp
          split at hs
          · obtain rfl := Option.some.inj hs
            exact ⟨.other _ _ (by simp) rfl rfl fun _ => rfl, h⟩
          · obtain rfl := Option.some.inj hs
            exact ⟨.other _ _ (by simp) rfl rfl fun he => absurd he hnot, h⟩
          · obtain rfl := Option.some.inj hs
            exact ⟨.other _ _ (by simp) rfl rfl fun he => absurd he hnot, h⟩
      · exact absurd hs (by simp)
      · exact absurd hs (by simp)
  | manager r ok =>
      simp only [MainProcess.step, MainProcess.managerStep] at hs
      split at hs
      · exact absurd hs (by simp)
      · exact processMove_gateway h (by simp) (by simp) hs
  | main => exact processMove_gateway h (by simp) (by simp) hs

end Step

/-! ## The components -/

section Components

variable [Zero V] {cfg : ListenConfig V} {process : D → SensorData V → D} {sensors : D}

theorem gateway_step_reachable {g g' : Gateway V D} {l : GatewayStep V}
    (h : (gatewaySystem process sensors).Reachable g) (hs : g.step process l = some g') :
    (gatewaySystem process sensors).Reachable g' := StepSystem.Reachable.step (l := l) h hs

theorem insertAll_reachable {block : Addr} {ms : List (SensorData V)} {g g' : Gateway V D}
    (h : (gatewaySystem process sensors).Reachable g)
    (hs : g.insertAll process block ms = some g') :
    (gatewaySystem process sensors).Reachable g' := by
  induction ms generalizing g with
  | nil =>
      obtain rfl := Option.some.inj hs
      exact h
  | cons m ms ih =>
      obtain ⟨g₁, hinsert, hs⟩ := Option.bind_eq_some_iff.1 hs
      exact ih (gateway_step_reachable h hinsert) hs

/-- Until the storage manager gives up, a step is made of steps of `Gateway`. -/
theorem MainProcess.step_reachable {s s' : MainProcess V D} {l : ProcessStep V}
    (h : s.storage ≠ .gaveUp → (gatewaySystem process sensors).Reachable s.gateway)
    (hs : s.step cfg process l = some s') (hgoing : s'.storage ≠ .gaveUp) :
    (gatewaySystem process sensors).Reachable s'.gateway := by
  cases l with
  | connmgr l block =>
      obtain ⟨listen, hlisten, hs⟩ := Option.bind_eq_some_iff.1 hs
      obtain ⟨gateway, hgateway, hs⟩ := Option.bind_eq_some_iff.1 hs
      obtain rfl := Option.some.inj hs
      exact insertAll_reachable (h hgoing) hgateway
  | connmgrExit =>
      simp only [MainProcess.step] at hs
      split at hs
      · obtain ⟨gateway, hstep, rfl⟩ := Option.map_eq_some_iff.1 hs
        exact gateway_step_reachable (h hgoing) hstep
      · exact absurd hs (by simp)
  | initConnection connected =>
      simp only [MainProcess.step, MainProcess.initConnection] at hs
      split at hs
      · next attemptNr hstorage =>
          have hreach := h (by rw [hstorage]; simp)
          split at hs
          · obtain rfl := Option.some.inj hs
            exact absurd rfl hgoing
          · obtain rfl := Option.some.inj hs
            exact hreach
          · obtain rfl := Option.some.inj hs
            exact hreach
      · exact absurd hs (by simp)
      · exact absurd hs (by simp)
  | manager r ok =>
      simp only [MainProcess.step, MainProcess.managerStep] at hs
      split at hs
      · exact absurd hs (by simp)
      · obtain ⟨gateway, hstep, rfl⟩ := Option.map_eq_some_iff.1 hs
        exact gateway_step_reachable (h hgoing) hstep
  | main =>
      obtain ⟨gateway, hstep, rfl⟩ := Option.map_eq_some_iff.1 hs
      exact gateway_step_reachable (h hgoing) hstep

/-- **What holds of `Gateway` holds of the whole process** until the storage manager gives up. -/
theorem reachable_gateway {s : MainProcess V D} (h : (mainSystem cfg process sensors).Reachable s)
    (hgoing : s.storage ≠ .gaveUp) : (gatewaySystem process sensors).Reachable s.gateway := by
  refine h.invariant (fun s => s.storage ≠ .gaveUp →
    (gatewaySystem process sensors).Reachable s.gateway) (fun _ => .init) ?_ hgoing
  intro s l s' ih hs
  exact MainProcess.step_reachable ih hs

end Components

/-! ## Rounds in which nothing happens -/

section Rounds

variable {cfg : ListenConfig V} {s₁ s s' : Listen V} {l : ListenStep V}

/-- Since `s₁` no measurement was inserted, and no connection was accepted or is about to be. -/
def Listen.ClosedSince (s₁ s : Listen V) : Prop :=
  s.inserted = s₁.inserted ∧ s.accepted = s₁.accepted ∧ s.pc ≠ .accept

/-- The listening socket is not ready, and no client that is ready delivers anything. -/
def Listen.Quiet (cfg : ListenConfig V) (s : Listen V) : ListenStep V → Prop
  | .select ready => ready cfg.listener = false
  | .visit v => ∀ c, s.current = some c → c.info.sd ∈ s.readFds →
      (v.answer 0 c.info.sd).delivers = false
  | .accept _ | .leave _ => True

/-- A connection is accepted if the listening socket is ready. -/
theorem select_pc_eq_accept {ready : ℤ → Bool} (hs : s.select cfg ready = some s') :
    s'.pc = .accept ↔ ready cfg.listener = true := by
  obtain ⟨args, hargs, hfds, hmax, -⟩ := selectArguments_spec cfg.listener s.clients
  have hmem : cfg.listener ∈ selectFds args.1 args.2 ready ↔ ready cfg.listener = true := by
    rw [selectFds, Finset.mem_filter, hfds]
    constructor
    · exact fun h => h.2.2
    · exact fun h => ⟨Or.inl rfl, by omega, h⟩
  rw [← hmem]
  simp only [Listen.select, hargs, Option.bind_eq_bind, Option.bind_some] at hs
  split at hs
  · next hempty =>
      obtain rfl := Option.some.inj hs
      simp [hempty]
  · split at hs
    · next hlistener =>
        obtain rfl := Option.some.inj hs
        exact iff_of_true rfl hlistener
    · next hlistener =>
        obtain rfl := Option.some.inj hs
        exact iff_of_false (scanFrom_pc_ne_accept _ _) hlistener

/-- What was inserted is not taken back. -/
theorem ListenMove.inserted_prefix (hm : ListenMove cfg s l s') : s.inserted <+: s'.inserted := by
  have hrecord : ∀ conn (event : ConnEvent V), s'.trace = s.trace ++ [(conn, event)] →
      s.inserted <+: s'.inserted := by
    intro conn event htrace
    rw [inserted_record htrace]
    exact List.prefix_append _ _
  cases hm with
  | silent | connecting | scanning | pass | leave => exact List.prefix_rfl
  | accept | closed | measured | expired => exact hrecord _ _ rfl

theorem ListenMove.accepted_le (hm : ListenMove cfg s l s') : s.accepted ≤ s'.accepted := by
  cases hm with
  | accept => exact Nat.le_succ _
  | silent | connecting | scanning | closed | measured | expired | pass | leave => exact Nat.le_refl _

/-- A step that inserts nothing and accepts nothing. -/
theorem closedSince_frame (hinserted : s'.inserted = s.inserted) (haccepted : s'.accepted = s.accepted)
    (hpc : s.pc ≠ .accept) (hpc' : s'.pc ≠ .accept) : s₁.ClosedSince s' ↔ s₁.ClosedSince s := by
  rw [Listen.ClosedSince, Listen.ClosedSince, hinserted, haccepted, and_iff_left hpc,
    and_iff_left hpc']

theorem Listen.ScanAt.pc_ne {xs ys : List Client} {c : Client} (hat : s.ScanAt xs c ys) :
    s.pc ≠ .accept := by
  rw [hat.pc_eq]
  simp

theorem quiet_visit {v : Visit V} {xs ys : List Client} {c : Client} (hat : s.ScanAt xs c ys) :
    s.Quiet cfg (.visit v) ↔
      (c.info.sd ∈ s.readFds → (v.answer 0 c.info.sd).delivers = false) := by
  rw [Listen.Quiet, hat.current_eq]
  simp only [Option.some.injEq, forall_eq']

/-- **One step.** The two steps that end the silence are a `select` call that reports the listening
    socket, and a visit in which something is delivered. -/
theorem Listen.Inv.closedSince_step (hinv : s.Inv cfg) (hinserted : s₁.inserted <+: s.inserted)
    (haccepted : s₁.accepted ≤ s.accepted) (hs : s.step cfg l = some s') :
    s₁.ClosedSince s' ↔ s₁.ClosedSince s ∧ s.Quiet cfg l := by
  have hselect : ∀ ready, s.pc = .select → l = .select ready →
      (s'.pc = .accept ↔ ready cfg.listener = true) := by
    rintro ready hpc rfl
    refine select_pc_eq_accept (s := s) ?_
    simpa only [Listen.step, hpc] using hs
  cases hinv.move hs with
  | silent ready hpc =>
      have hquiet : s.Quiet cfg (.select ready) :=
        Bool.eq_false_iff.2 fun he => absurd ((hselect ready hpc rfl).2 he) (by simp)
      rw [and_iff_left hquiet]
      exact closedSince_frame rfl rfl (by rw [hpc]; simp) (by simp)
  | connecting ready fds hpc hready hlistener =>
      refine iff_of_false (fun hclosed => hclosed.2.2 rfl) ?_
      rintro ⟨-, hquiet⟩
      exact absurd (hready _ hlistener) (by rw [hquiet]; simp)
  | scanning ready fds hpc hready =>
      have hquiet : s.Quiet cfg (.select ready) :=
        Bool.eq_false_iff.2 fun he => absurd ((hselect ready hpc rfl).2 he) (scanFrom_pc_ne_accept _ _)
      rw [and_iff_left hquiet]
      exact closedSince_frame rfl rfl (by rw [hpc]; simp) (scanFrom_pc_ne_accept _ _)
  | accept sd hpc =>
      refine iff_of_false ?_ fun hand => hand.1.2.2 hpc
      intro hclosed
      have heq : s.accepted + 1 = s₁.accepted := hclosed.2.1
      omega
  | closed v xs c ys hat hready hcloses =>
      rw [quiet_visit hat, and_iff_left fun _ => Recv.not_delivers_of_closes hcloses]
      exact closedSince_frame ((inserted_record rfl).trans (List.append_nil _)) rfl hat.pc_ne
        (scanFrom_pc_ne_accept _ _)
  | measured v xs c ys m hat hready hread hdelivers =>
      rw [quiet_visit hat]
      refine iff_of_false ?_ fun hand => absurd hdelivers (by rw [hand.2 hready]; simp)
      intro hclosed
      have hle := hinserted.length_le
      have heq : s.inserted ++ [m] = s₁.inserted := (inserted_record rfl).symm.trans hclosed.1
      rw [← heq, List.length_append, List.length_singleton] at hle
      omega
  | expired v xs c ys hat hexpired =>
      rw [quiet_visit hat, and_iff_left fun hready => absurd hready hexpired.1]
      exact closedSince_frame ((inserted_record rfl).trans (List.append_nil _)) rfl hat.pc_ne
        (scanFrom_pc_ne_accept _ _)
  | pass v xs c ys hat hread =>
      rw [quiet_visit hat, and_iff_left hread]
      exact closedSince_frame rfl rfl hat.pc_ne (scanFrom_pc_ne_accept _ _)
  | leave shutdownOk hpc =>
      have hne : s.pc ≠ .accept := by simp [hpc]
      have hquiet : s.Quiet cfg (.leave shutdownOk) := trivial
      rw [and_iff_left hquiet]
      exact closedSince_frame rfl rfl hne (by simp)

end Rounds

/-! ## Runs of the process -/

/-- The loop of `connmgr_listen` and the buffer are as they are on their own, and they agree on what
    was inserted. -/
structure MainProcess.Inv (cfg : ListenConfig V) (s : MainProcess V D) : Prop where
  listen : s.listen.Inv cfg
  buffer : s.gateway.BufferOk
  inserted : s.gateway.inserted = s.listen.inserted

/-- Since `s₁` no measurement was inserted in the buffer, and no connection was accepted or is about
    to be. -/
def MainProcess.ClosedSince (s₁ s : MainProcess V D) : Prop :=
  s.gateway.inserted = s₁.gateway.inserted ∧ s.listen.accepted = s₁.listen.accepted ∧
    s.listen.pc ≠ .accept

/-- No connection request arrives, and no client that is ready delivers anything. -/
def MainProcess.Quiet (cfg : ListenConfig V) (s : MainProcess V D) : ProcessStep V → Prop
  | .connmgr l _ => s.listen.Quiet cfg l
  | .connmgrExit | .initConnection _ | .manager .. | .main => True

section Runs

variable {cfg : ListenConfig V} {process : D → SensorData V → D} {sensors : D}
  {s₁ s s' : MainProcess V D} {l : ProcessStep V}

theorem mainProcess_inv_initial : (MainProcess.initial cfg sensors).Inv cfg where
  listen := listen_inv_initial
  buffer := ⟨.empty, [], represents_init⟩
  inserted := rfl

theorem MainProcess.Inv.step [Zero V] (h : s.Inv cfg) (hs : s.step cfg process l = some s') :
    ProcessMove cfg s l s' ∧ s'.Inv cfg := by
  obtain ⟨hm, hbuffer⟩ := s.step_move h.buffer hs
  refine ⟨hm, ?_⟩
  cases hm with
  | connmgr l block listen gateway hlisten hinserted =>
      obtain ⟨hmove, hinv⟩ := h.listen.step hlisten
      refine ⟨hinv, hbuffer, ?_⟩
      obtain ⟨new, hnew⟩ := hmove.inserted_prefix
      rw [hinserted, h.inserted, ← hnew, List.drop_left]
  | other l s' hl hlisten hinserted =>
      refine ⟨?_, hbuffer, ?_⟩
      · rw [hlisten]
        exact h.listen
      · rw [hinserted, hlisten]
        exact h.inserted

theorem MainProcess.Inv.closedSince_step [Zero V] (h₁ : s₁.Inv cfg) (h : s.Inv cfg)
    (hinserted : s₁.listen.inserted <+: s.listen.inserted)
    (haccepted : s₁.listen.accepted ≤ s.listen.accepted)
    (hs : s.step cfg process l = some s') :
    s₁.ClosedSince s' ↔ s₁.ClosedSince s ∧ s.Quiet cfg l := by
  have hlisten : ∀ t : MainProcess V D, t.Inv cfg →
      (s₁.ClosedSince t ↔ s₁.listen.ClosedSince t.listen) := by
    intro t ht
    rw [MainProcess.ClosedSince, Listen.ClosedSince, ht.inserted, h₁.inserted]
  obtain ⟨hm, hinv'⟩ := h.step hs
  rw [hlisten s' hinv', hlisten s h]
  cases hm with
  | connmgr l block listen gateway hstep =>
      exact h.listen.closedSince_step hinserted haccepted hstep
  | other l s' hl heq =>
      rw [heq]
      refine (and_iff_left ?_).symm
      cases l with
      | connmgr l' block => exact absurd rfl (hl l' block)
      | connmgrExit | initConnection | manager | main => trivial

/-- What the run from `s₁` keeps: the invariant, what was there at `s₁`, and that the storage manager
    has given up. -/
structure MainProcess.After (cfg : ListenConfig V) (s₁ s : MainProcess V D) : Prop where
  inv : s.Inv cfg
  inserted : s₁.listen.inserted <+: s.listen.inserted
  accepted : s₁.listen.accepted ≤ s.listen.accepted
  gaveUp : s₁.storage = .gaveUp → s.storage = .gaveUp

theorem MainProcess.After.step [Zero V] (h : s₁.After cfg s) (hs : s.step cfg process l = some s') :
    s₁.After cfg s' := by
  obtain ⟨hm, hinv⟩ := h.inv.step hs
  cases hm with
  | connmgr l block listen gateway hlisten =>
      have hmove := h.inv.listen.move hlisten
      exact ⟨hinv, h.inserted.trans hmove.inserted_prefix, h.accepted.trans hmove.accepted_le,
        h.gaveUp⟩
  | other l s' hl hlisten hinserted hstorage =>
      refine ⟨hinv, ?_, ?_, fun hgaveUp => hstorage (h.gaveUp hgaveUp)⟩
      · rw [hlisten]
        exact h.inserted
      · rw [hlisten]
        exact h.accepted

/-- **When the gateway closes.** Let the third attempt to connect to the database have failed. From
    then on, once a round of `connmgr_listen` is over, whatever the threads do and in whatever order:
    the storage manager makes no attempt any more, and no measurement is inserted and no connection
    accepted exactly if no connection request arrives and no client delivers anything. -/
theorem gateway_closes_iff [Zero V] (cfg : ListenConfig V) (process : D → SensorData V → D)
    (sensors : D) {s₁ s : MainProcess V D} (h : (mainSystem cfg process sensors).Reachable s₁)
    (hfailed : s₁.storage = .gaveUp) (hround : s₁.listen.pc = .select) {ls : List (ProcessStep V)}
    (hrun : (mainSystem cfg process sensors).exec s₁ ls = some s) :
    s.storage = .gaveUp ∧ (s₁.ClosedSince s ↔
      (mainSystem cfg process sensors).AllSteps (MainProcess.Quiet cfg) s₁ ls) := by
  have hinv₁ : s₁.Inv cfg :=
    h.invariant (MainProcess.Inv cfg) mainProcess_inv_initial fun _ _ _ hinv hs => (hinv.step hs).2
  have hafter₁ : s₁.After cfg s₁ := ⟨hinv₁, List.prefix_rfl, Nat.le_refl _, id⟩
  have hstep : ∀ s l s', s₁.After cfg s → (mainSystem cfg process sensors).step s l = some s' →
      s₁.After cfg s' ∧ (s₁.ClosedSince s' ↔ s₁.ClosedSince s ∧ s.Quiet cfg l) := by
    intro s l s' hafter hs
    exact ⟨hafter.step hs, hinv₁.closedSince_step hafter.inv hafter.inserted hafter.accepted hs⟩
  constructor
  · have hafter : s₁.After cfg s := StepSystem.exec_induction (T := mainSystem cfg process sensors)
      (motive := fun _ s => s₁.After cfg s) hafter₁
      (fun _ s l s' _ hafter hs => (hstep s l s' hafter hs).1) hrun
    exact hafter.gaveUp hfailed
  · exact StepSystem.allSteps_from_iff (s₁.After cfg) hafter₁ ⟨rfl, rfl, by simp [hround]⟩ hstep hrun

/-- The gateway of the examples, with nothing for the data manager to do. -/
def exampleProcess : StepSystem (MainProcess (BitVec 64) Unit) (ProcessStep (BitVec 64)) :=
  mainSystem exampleListen (fun _ _ => ()) ()

/-- The three attempts fail; then the round that the connection manager is in is completed. -/
def givenUpRun : List (ProcessStep (BitVec 64)) :=
  [.initConnection false, .initConnection false, .initConnection false,
    .connmgr (.select (readySds [3])) 0, .connmgr (.accept 4) 0, .connmgr (.visit (idleVisit 100)) 0]

/-- In the next round a second client connects, and the first one delivers a measurement. -/
def goesOnRun : List (ProcessStep (BitVec 64)) :=
  [.connmgr (.select (readySds [3, 4])) 0, .connmgr (.accept 5) 0,
    .connmgr (.visit (recordVisit ⟨15, 20, 101⟩ 101)) 7, .connmgr (.visit (idleVisit 101)) 0]

/-- The gateway goes on without a database. -/
theorem unreachable_gateway_goes_on :
    ¬ ∀ s₁ : MainProcess (BitVec 64) Unit, exampleProcess.Reachable s₁ → s₁.storage = .gaveUp →
      s₁.listen.pc = .select → ∀ ls s, exampleProcess.exec s₁ ls = some s →
        s.gateway.inserted = s₁.gateway.inserted ∧ s.listen.accepted = s₁.listen.accepted := by
  intro hall
  have hclosed := hall (exampleProcess.after givenUpRun)
    (StepSystem.reachable_after (by decide)) (by decide) (by decide) goesOnRun _ rfl
  exact absurd hclosed.2 (by decide)

theorem gateway_closes_iff_goes_on :
    (exampleProcess.after (givenUpRun ++ goesOnRun)).storage = .gaveUp ∧
      ((exampleProcess.after givenUpRun).ClosedSince (exampleProcess.after (givenUpRun ++ goesOnRun)) ↔
        exampleProcess.AllSteps (MainProcess.Quiet exampleListen) (exampleProcess.after givenUpRun)
          goesOnRun) :=
  gateway_closes_iff exampleListen (fun _ _ => ()) () (StepSystem.reachable_after (by decide))
    (by decide) (by decide) (by rfl)

end Runs

end SensorGateway
