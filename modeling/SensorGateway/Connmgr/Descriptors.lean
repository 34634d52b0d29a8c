import SensorGateway.Connmgr.Clients

set_option autoImplicit false

/-! # The descriptors of `connmgr_listen`

Which of the descriptors that `connmgr_listen` creates are still open. `tcp_close` calls `close` only
after a `shutdown` that succeeded, and freeing the client list does not close the sockets of the
clients that are still in it; a descriptor that was lost in one of these two ways is never
closed. -/

namespace SensorGateway

variable {V : Type} {cfg : ListenConfig V} {s s' : Listen V} {l : ListenStep V}

/-- The descriptors of the listener and of the clients in the list. -/
def Listen.heldSds (cfg : ListenConfig V) (s : Listen V) : Finset ℤ :=
  (cfg.listener :: s.clients.map (·.info.sd)).toFinset

/-- No descriptor has leaked: the open ones are those of the listener and the clients, and none after
    the function has returned. -/
def Listen.Accounted (cfg : ListenConfig V) (s : Listen V) : Prop :=
  if s.pc = .returned then s.openSds = ∅ else s.openSds = s.heldSds cfg

/-- Every `shutdown` call of the step succeeds, and the step does not end the function while there are
    clients in the list. -/
def ClosesAll (cfg : ListenConfig V) (s : Listen V) : ListenStep V → Prop
  | .visit v => ∀ c, s.current = some c → s.Removes cfg c v → v.shutdownOk = true
  | .leave shutdownOk => shutdownOk = true ∧ s.clients = []
  | .select _ | .accept _ => True

theorem accounted_iff (hpc : s.pc ≠ .returned) :
    s.Accounted cfg ↔ s.openSds = s.heldSds cfg := by
  rw [Listen.Accounted, if_neg hpc]

/-- The held descriptors are open. -/
theorem Listen.Inv.held_subset (h : s.Inv cfg) (hpc : s.pc ≠ .returned) :
    s.heldSds cfg ⊆ s.openSds := by
  intro sd hsd
  exact h.isOpen hpc sd (List.mem_toFinset.1 hsd)

/-- A step that changes neither the descriptors nor those of the clients. -/
theorem accounted_frame (hpc : s.pc ≠ .returned) (hpc' : s'.pc ≠ .returned)
    (hclients : s'.clients.map (·.info.sd) = s.clients.map (·.info.sd))
    (hopen : s'.openSds = s.openSds) : s'.Accounted cfg ↔ s.Accounted cfg := by
  rw [accounted_iff hpc, accounted_iff hpc', Listen.heldSds, hclients, hopen]
  rfl

theorem Listen.Inv.accounted_add (h : s.Inv cfg) (hpc : s.pc = .accept) {sd : ℤ}
    (hfresh : sd ∉ s.openSds) : (s.add sd).Accounted cfg ↔ s.Accounted cfg := by
  have hpc₀ : s.pc ≠ .returned := by rw [hpc]; simp
  have hheld : (s.add sd).heldSds cfg = insert sd (s.heldSds cfg) := by
    show (cfg.listener :: (s.clients ++ [Client.mk (newSensorInfo sd) s.accepted]).map
      (·.info.sd)).toFinset = _
    ext d
    simp [Listen.heldSds, newSensorInfo, or_left_comm]
  have hnew : sd ∉ s.heldSds cfg := fun hsd => hfresh (h.held_subset hpc₀ hsd)
  have hpc' : (s.add sd).pc ≠ .returned := scanFrom_pc_ne_returned _ _
  rw [accounted_iff hpc₀, accounted_iff hpc', hheld]
  show insert sd s.openSds = insert sd (s.heldSds cfg) ↔ _
  constructor
  · intro heq
    rw [← Finset.erase_insert hfresh, heq, Finset.erase_insert hnew]
  · intro heq
    rw [heq]

/-- Removing a client keeps the account exactly if its descriptor is released. -/
theorem Listen.Inv.accounted_remove (h : s.Inv cfg) {xs ys : List Client} {c : Client}
    (hat : s.ScanAt xs c ys) (closed : Bool) (event : ConnEvent V) :
    (s.remove xs c ys closed event).Accounted cfg ↔ s.Accounted cfg ∧ closed = true := by
  have hpc₀ : s.pc ≠ .returned := by rw [hat.pc_eq]; simp
  have hopen : c.info.sd ∈ s.openSds :=
    h.isOpen hpc₀ _ (List.mem_cons_of_mem _ (List.mem_map_of_mem hat.mem))
  have hrest : c.info.sd ∉ (s.remove xs c ys closed event).heldSds cfg := fun hsd =>
    h.sd_unique hat.clients_eq (List.mem_toFinset.1 hsd)
  have hheld : s.heldSds cfg = insert c.info.sd ((s.remove xs c ys closed event).heldSds cfg) := by
    show _ = insert c.info.sd (cfg.listener :: (xs ++ ys).map (·.info.sd)).toFinset
    ext d
    simp [Listen.heldSds, hat.clients_eq, or_left_comm]
  have hpc' : (s.remove xs c ys closed event).pc ≠ .returned := scanFrom_pc_ne_returned _ _
  rw [accounted_iff hpc₀, accounted_iff hpc', hheld]
  show (if closed = true then s.openSds.erase c.info.sd else s.openSds) = _ ↔ _
  cases closed with
  | true =>
      rw [if_pos rfl, and_iff_left rfl]
      exact Finset.erase_eq_iff_eq_insert hopen hrest
  | false =>
      rw [if_neg (by simp)]
      refine iff_of_false ?_ fun hand => absurd hand.2 (by simp)
      intro heq
      rw [heq] at hopen
      exact hrest hopen

/-- Returning leaves nothing open exactly if the listener is released and no client is left. -/
theorem Listen.Inv.accounted_leave (h : s.Inv cfg) (hpc : s.pc = .leave) (shutdownOk : Bool) :
    (if shutdownOk = true then s.openSds.erase cfg.listener else s.openSds) = ∅ ↔
      s.Accounted cfg ∧ shutdownOk = true ∧ s.clients = [] := by
  have hpc₀ : s.pc ≠ .returned := by rw [hpc]; simp
  have hlistener : cfg.listener ∈ s.openSds := h.isOpen hpc₀ _ List.mem_cons_self
  rw [accounted_iff hpc₀]
  cases shutdownOk with
  | false =>
      rw [if_neg (by simp)]
      refine iff_of_false ?_ fun hand => absurd hand.2.1 (by simp)
      intro hempty
      rw [hempty] at hlistener
      exact absurd hlistener (Finset.notMem_empty _)
  | true =>
      rw [if_pos rfl, and_iff_right rfl,
        Finset.erase_eq_iff_eq_insert hlistener (Finset.notMem_empty _)]
      constructor
      · intro heq
        -- any client would hold an open descriptor other than the listener
        have hclients : s.clients = [] := by
          refine List.eq_nil_iff_forall_not_mem.2 ?_
          intro c hc
          have hmem : c.info.sd ∈ s.clients.map (·.info.sd) := List.mem_map_of_mem hc
          have hsd : c.info.sd ∈ s.openSds := h.isOpen hpc₀ _ (List.mem_cons_of_mem _ hmem)
          rw [heq, Finset.mem_insert, or_iff_left (Finset.notMem_empty _)] at hsd
          exact (List.nodup_cons.1 h.distinct).1 (hsd ▸ hmem)
        exact ⟨by rw [heq, Listen.heldSds, hclients]; rfl, hclients⟩
      · rintro ⟨heq, hclients⟩
        rw [heq, Listen.heldSds, hclients]
        rfl

theorem Listen.Inv.accounted_step (h : s.Inv cfg) (hm : ListenMove cfg s l s') :
    s'.Accounted cfg ↔ s.Accounted cfg ∧ ClosesAll cfg s l := by
  cases hm with
  | silent ready hpc | connecting ready fds hpc =>
      rw [ClosesAll, and_true]
      exact accounted_frame (by rw [hpc]; simp) (by simp) rfl rfl
  | scanning ready fds hpc =>
      rw [ClosesAll, and_true]
      exact accounted_frame (by rw [hpc]; simp) (scanFrom_pc_ne_returned _ _) rfl rfl
  | accept sd hpc hsd hfresh =>
      rw [ClosesAll, and_true]
      exact h.accounted_add hpc hfresh
  | closed v xs c ys hat hready hcloses =>
      rw [h.accounted_remove hat, ClosesAll, hat.current_eq]
      have hremoves : s.Removes cfg c v := Or.inl ⟨hready, hcloses⟩
      simp [hremoves]
  | expired v xs c ys hat hexpired =>
      have hframe : ({ s with readFds := s.readFds.erase c.info.sd } : Listen V).Inv cfg :=
        h.frame h.scan_lt (by rw [hat.pc_eq]; simp) rfl rfl rfl rfl
      rw [hframe.accounted_remove ⟨hat.pc_eq, hat.clients_eq⟩, ClosesAll, hat.current_eq]
      have hremoves : s.Removes cfg c v := Or.inr hexpired
      simp only [Option.some.injEq, forall_eq', hremoves, forall_const]
      exact and_congr_left fun _ => Iff.rfl
  | measured v xs c ys m hat hready hread hdelivers =>
      have hstays : ClosesAll cfg s (.visit v) := by
        intro c' hc' hremoves
        rw [hat.current_eq, Option.some.injEq] at hc'
        subst hc'
        rcases hremoves with ⟨-, hcloses⟩ | hexpired
        · exact absurd hdelivers (by rw [Recv.not_delivers_of_closes hcloses]; simp)
        · exact absurd hready hexpired.1
      rw [and_iff_left hstays]
      exact accounted_frame (by rw [hat.pc_eq]; simp) (scanFrom_pc_ne_returned _ _)
        (measure_map (·.info.sd) rfl hat.clients_eq v.now) rfl
  | pass v xs c ys hat hread hstays =>
      have hstays' : ClosesAll cfg s (.visit v) := by
        intro c' hc' hremoves
        rw [hat.current_eq, Option.some.injEq] at hc'
        exact absurd (hc' ▸ hremoves) hstays
      rw [and_iff_left hstays']
      exact accounted_frame (by rw [hat.pc_eq]; simp) (scanFrom_pc_ne_returned _ _) rfl rfl
  | leave shutdownOk hpc =>
      rw [Listen.Accounted, if_pos rfl, ClosesAll]
      exact h.accounted_leave hpc shutdownOk

/-- **When descriptors leak.** After any run the open descriptors are exactly those of the listener
    and of the clients in the list, and none are open once the function has returned, exactly if
    every `shutdown` call succeeded and the list was empty when the function returned. -/
theorem descriptors_accounted_iff (cfg : ListenConfig V) {ls : List (ListenStep V)}
    (h : (listenSystem cfg).exec (.initial cfg) ls = some s) :
    s.Accounted cfg ↔ (listenSystem cfg).AllSteps (ClosesAll cfg) (.initial cfg) ls := by
  have hinitial : (Listen.initial cfg).Accounted cfg := by
    rw [accounted_iff (by simp [Listen.initial])]
    simp [Listen.initial, Listen.heldSds]
  refine listen_allSteps_iff (K := fun _ => True) trivial hinitial ?_ h
  intro s l s' hinv _ hmove
  exact ⟨trivial, hinv.accounted_step hmove⟩

/-- A client is accepted, its peer resets the connection, and `shutdown` fails. -/
def leakRun : List (ListenStep (BitVec 64)) :=
  [.select (readySds [3]), .accept 4, .visit (idleVisit 100),
    .select (readySds [4]), .visit (closingVisit 101 false)]

/-- After a `shutdown` that fails, a descriptor is open at the start of the next round that belongs to
    no client. -/
theorem shutdown_failure_leaks :
    ¬ ∀ (ls : List (ListenStep (BitVec 64))) (s : Listen (BitVec 64)),
      (listenSystem exampleListen).exec (.initial exampleListen) ls = some s →
      (s.pc = .select → s.openSds = s.heldSds exampleListen) ∧
        (s.pc = .returned → s.openSds = ∅) := by
  intro hall
  have heq := (hall leakRun _ (StepSystem.exec_after (by decide))).1 (by decide)
  exact absurd heq (by decide)

theorem descriptors_accounted_iff_leak :
    ((listenSystem exampleListen).after leakRun).Accounted exampleListen ↔
      (listenSystem exampleListen).AllSteps (ClosesAll exampleListen) (.initial exampleListen)
        leakRun :=
  descriptors_accounted_iff exampleListen (StepSystem.exec_after (by decide))

end SensorGateway
