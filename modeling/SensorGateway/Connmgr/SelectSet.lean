import SensorGateway.Connmgr.Clients

set_option autoImplicit false

/-! # `connmgr.c`: the indices of the descriptor set

An `fd_set` is an array of `FD_SETSIZE` bits, and `FD_SET`, `FD_ISSET` and `FD_CLR` index it with a
descriptor without a test. `Listen.fdCalls` lists the calls of these macros in a step; they account for
everything that happens to `read_fds` (`selectArguments_replay`, `readFds_replay`). No step compares a
descriptor with `FD_SETSIZE`, so the calls are in range exactly as far as `accept` returns small
descriptors: see `select_set_in_range_iff`. -/

namespace SensorGateway

variable {V : Type} {cfg : ListenConfig V}

/-! ## The calls -/

/-- A call of a macro that indexes a descriptor set. -/
inductive FdCall where
  | set (sd : ℤ)
  | isSet (sd : ℤ)
  | clr (sd : ℤ)
deriving DecidableEq, Repr

/-- The descriptor that the set is indexed with. -/
def FdCall.sd : FdCall → ℤ
  | .set sd | .isSet sd | .clr sd => sd

/-- What a call leaves in the set. -/
def FdCall.apply (fds : Finset ℤ) : FdCall → Finset ℤ
  | .set sd => insert sd fds
  | .isSet _ => fds
  | .clr sd => fds.erase sd

/-- `FD_SETSIZE`. -/
def fdSetsize : ℤ := 1024

/-- The descriptor is an index of the set. -/
def FdInRange (sd : ℤ) : Prop := 0 ≤ sd ∧ sd < fdSetsize

instance (sd : ℤ) : Decidable (FdInRange sd) := inferInstanceAs (Decidable (_ ∧ _))

/-- The calls that build the set for `select`. -/
def fdSetCalls (listener : ℤ) (clients : List Client) : List FdCall :=
  .set listener :: clients.flatMap fun client =>
    if 0 < client.info.sd then [.set client.info.sd] else []

/-- The calls in a step. -/
def Listen.fdCalls (cfg : ListenConfig V) (s : Listen V) : ListenStep V → List FdCall
  | .select ready =>
      match selectArguments cfg.listener s.clients with
      | none => fdSetCalls cfg.listener s.clients
      | some (fds, fdmax) =>
          -- after a timeout the loop is left before the first `FD_ISSET`
          fdSetCalls cfg.listener s.clients ++
            if selectFds fds fdmax ready = ∅ then [] else [.isSet cfg.listener]
  | .visit v =>
      match s.current with
      | none => []
      | some client =>
          .isSet client.info.sd ::
            if client.info.sd ∉ s.readFds ∧ cfg.timeout ≤ v.now - client.info.ts ∧
              client.info.ts ≠ 0 then [.clr client.info.sd] else []
  | .accept _ | .leave _ => []

/-- All calls in a step are in range. -/
def FdCallsInRange (cfg : ListenConfig V) (s : Listen V) (l : ListenStep V) : Prop :=
  ∀ call ∈ s.fdCalls cfg l, FdInRange call.sd

instance (s : Listen V) (l : ListenStep V) : Decidable (FdCallsInRange cfg s l) :=
  inferInstanceAs (Decidable (∀ call ∈ s.fdCalls cfg l, FdInRange call.sd))

/-- What the step gets from the environment fits into the set: the descriptor of the server socket, and
    the one that `accept` returns. -/
def SdFits (cfg : ListenConfig V) : ListenStep V → Prop
  | .select _ => cfg.listener < fdSetsize
  | .accept sd => sd < fdSetsize
  | .visit _ | .leave _ => True

/-! ## Nothing else happens to the set -/

theorem mem_clientCalls (clients : List Client) (fds : Finset ℤ) (sd : ℤ) :
    sd ∈ (clients.flatMap fun client =>
        if 0 < client.info.sd then [FdCall.set client.info.sd] else []).foldl FdCall.apply fds ↔
      sd ∈ fds ∨ ∃ c ∈ clients, c.info.sd = sd ∧ 0 < sd := by
  induction clients generalizing fds with
  | nil => simp
  | cons c clients ih =>
      rw [List.flatMap_cons, List.foldl_append, ih]
      by_cases hpos : 0 < c.info.sd
      · rw [if_pos hpos, List.foldl_cons, List.foldl_nil, FdCall.apply, Finset.mem_insert]
        simp only [List.mem_cons, or_and_right, exists_or, exists_eq_left]
        have hsd : sd = c.info.sd ↔ c.info.sd = sd ∧ 0 < sd := by
          refine ⟨?_, fun h => h.1.symm⟩
          rintro rfl
          exact ⟨rfl, hpos⟩
        rw [hsd, or_comm (b := sd ∈ fds), or_assoc]
      · rw [if_neg hpos, List.foldl_nil]
        simp only [List.mem_cons, or_and_right, exists_or, exists_eq_left]
        have hsd : ¬ (c.info.sd = sd ∧ 0 < sd) := by
          rintro ⟨rfl, hpos'⟩
          exact hpos hpos'
        rw [or_iff_right hsd]

/-- The set for `select` is what the calls that build it make of the empty set. -/
theorem selectArguments_replay {listener : ℤ} {clients : List Client} {args : Finset ℤ × ℤ}
    (hargs : selectArguments listener clients = some args) :
    args.1 = (fdSetCalls listener clients).foldl FdCall.apply ∅ := by
  obtain ⟨args', hargs', hfds, -⟩ := selectArguments_spec listener clients
  obtain rfl := Option.some.inj (hargs'.symm.trans hargs)
  ext sd
  rw [hfds, fdSetCalls, List.foldl_cons, mem_clientCalls, FdCall.apply, Finset.mem_insert,
    or_iff_left (Finset.notMem_empty sd)]

variable {s s' : Listen V} {l : ListenStep V}

/-- The calls for the client `c`. -/
theorem fdCalls_visit {xs ys : List Client} {c : Client} (hat : s.ScanAt xs c ys) (v : Visit V) :
    (s.Expired cfg c v → s.fdCalls cfg (.visit v) = [.isSet c.info.sd, .clr c.info.sd]) ∧
      (¬ s.Expired cfg c v → s.fdCalls cfg (.visit v) = [.isSet c.info.sd]) := by
  unfold Listen.fdCalls
  dsimp only
  rw [hat.current_eq]
  dsimp only
  constructor
  · intro hexpired
    rw [if_pos ⟨hexpired.1, hexpired.2.2, hexpired.2.1⟩]
  · intro hlive
    rw [if_neg fun hexpired => hlive ⟨hexpired.1, hexpired.2.2, hexpired.2.1⟩]

/-- After `select`, the set changes by the calls only. -/
theorem readFds_replay (h : s.Inv cfg) (hs : s.step cfg l = some s')
    (hl : ∀ ready, l ≠ .select ready) :
    s'.readFds = (s.fdCalls cfg l).foldl FdCall.apply s.readFds := by
  cases h.move hs with
  | silent ready hpc | connecting ready fds hpc | scanning ready fds hpc => exact absurd rfl (hl ready)
  | accept sd hpc hsd hfresh => rfl
  | closed v xs c ys hat hready hcloses =>
      rw [(fdCalls_visit hat v).2 fun hexpired => hexpired.1 hready]
      rfl
  | measured v xs c ys m hat hready hread hdelivers =>
      rw [(fdCalls_visit hat v).2 fun hexpired => hexpired.1 hready]
      rfl
  | expired v xs c ys hat hexpired =>
      rw [(fdCalls_visit hat v).1 hexpired]
      rfl
  | pass v xs c ys hat hread hstays =>
      rw [(fdCalls_visit hat v).2 fun hexpired => hstays (Or.inr hexpired)]
      rfl
  | leave shutdownOk hpc => rfl

/-! ## Calls in range -/

/-- The descriptors of all clients are below `FD_SETSIZE`. -/
def Listen.ClientsFit (s : Listen V) : Prop := ∀ c ∈ s.clients, c.info.sd < fdSetsize

theorem clientsFit_congr (h : s'.clients.map (·.info.sd) = s.clients.map (·.info.sd)) :
    s'.ClientsFit ↔ s.ClientsFit := by
  have hmap : ∀ clients : List Client, (∀ sd ∈ clients.map (·.info.sd), sd < fdSetsize) ↔
      ∀ c ∈ clients, c.info.sd < fdSetsize := fun _ => List.forall_mem_map
  unfold Listen.ClientsFit
  rw [← hmap, h, hmap]

theorem fdCallsInRange_visit (h : s.Inv cfg) {xs ys : List Client} {c : Client}
    (hat : s.ScanAt xs c ys) (v : Visit V) :
    FdCallsInRange cfg s (.visit v) ↔ c.info.sd < fdSetsize := by
  have hrange : FdInRange c.info.sd ↔ c.info.sd < fdSetsize :=
    and_iff_right (h.nonneg c hat.mem)
  unfold FdCallsInRange
  by_cases hexpired : s.Expired cfg c v
  · rw [(fdCalls_visit hat v).1 hexpired]
    simp [FdCall.sd, hrange]
  · rw [(fdCalls_visit hat v).2 hexpired]
    simp [FdCall.sd, hrange]

theorem fdCallsInRange_select (h : s.Inv cfg) (ready : ℤ → Bool) :
    FdCallsInRange cfg s (.select ready) ↔ cfg.listener < fdSetsize ∧ s.ClientsFit := by
  have hlistener : FdInRange cfg.listener ↔ cfg.listener < fdSetsize :=
    and_iff_right cfg.listener_nonneg
  have hbuild : (∀ call ∈ fdSetCalls cfg.listener s.clients, FdInRange call.sd) ↔
      cfg.listener < fdSetsize ∧ s.ClientsFit := by
    unfold fdSetCalls
    rw [List.forall_mem_cons, FdCall.sd, hlistener, List.forall_mem_flatMap]
    refine and_congr_right fun _ => forall₂_congr fun c hc => ?_
    have hnonneg := h.nonneg c hc
    split
    · rw [List.forall_mem_singleton]
      exact and_iff_right hnonneg
    · -- `FD_SET` is not called for descriptor 0
      refine iff_of_true (by simp) ?_
      unfold fdSetsize
      omega
  obtain ⟨args, hargs, -⟩ := selectArguments_spec cfg.listener s.clients
  unfold FdCallsInRange Listen.fdCalls
  dsimp only
  rw [hargs]
  dsimp only
  rw [List.forall_mem_append, hbuild]
  refine and_iff_left_of_imp fun hfit => ?_
  split
  · simp
  · rw [List.forall_mem_singleton]
    exact hlistener.2 hfit.1

/-- What a step before the end of the loop does: the descriptors it uses and the clients it leaves fit
    exactly if the clients before it fit and what it gets from the environment does. -/
theorem Listen.Inv.clientsFit_step (h : s.Inv cfg) (hm : ListenMove cfg s l s')
    (hpc : s.pc ≠ .leave) :
    s.ClientsFit ∧ SdFits cfg l ↔ FdCallsInRange cfg s l ∧ s'.ClientsFit := by
  have hmem : ∀ {xs ys : List Client} {c : Client}, s.ScanAt xs c ys →
      (s.ClientsFit ↔ c.info.sd < fdSetsize ∧ ∀ c' ∈ xs ++ ys, c'.info.sd < fdSetsize) := by
    intro xs ys c hat
    unfold Listen.ClientsFit
    rw [hat.clients_eq, List.forall_mem_append, List.forall_mem_cons, List.forall_mem_append]
    exact and_left_comm
  cases hm with
  | silent ready | connecting ready | scanning ready =>
      rw [fdCallsInRange_select h ready, SdFits]
      constructor
      · exact fun ⟨hfit, hlistener⟩ => ⟨⟨hlistener, hfit⟩, hfit⟩
      · exact fun ⟨⟨hlistener, hfit⟩, _⟩ => ⟨hfit, hlistener⟩
  | accept sd =>
      have hnone : FdCallsInRange cfg s (.accept sd) := by
        intro call hcall
        exact absurd hcall List.not_mem_nil
      rw [and_iff_right hnone]
      show _ ↔ ∀ c ∈ s.clients ++ [Client.mk (newSensorInfo sd) s.accepted], c.info.sd < fdSetsize
      rw [List.forall_mem_append, List.forall_mem_singleton]
      rfl
  | closed v xs c ys hat | expired v xs c ys hat =>
      rw [fdCallsInRange_visit h hat v, hmem hat, SdFits, and_true]
      rfl
  | measured v xs c ys m hat =>
      have hfit : (s.measure xs c ys m v.now).ClientsFit ↔ s.ClientsFit :=
        clientsFit_congr (measure_map (·.info.sd) rfl hat.clients_eq v.now)
      rw [fdCallsInRange_visit h hat v, SdFits, and_true, hfit]
      exact (and_iff_right_of_imp fun hall => hall c hat.mem).symm
  | pass v xs c ys hat =>
      rw [fdCallsInRange_visit h hat v, SdFits, and_true]
      exact (and_iff_right_of_imp fun hall => hall c hat.mem).symm
  | leave shutdownOk hleave => exact absurd hleave hpc

/-- Where the loop has ended, the clients fit if the calls of the last step were in range: the last
    `select` has used the descriptors of all clients, or the list is freed. -/
theorem Listen.Inv.clientsFit_end (h : s.Inv cfg) (hm : ListenMove cfg s l s')
    (hend : s'.pc = .leave ∨ s'.pc = .returned) (hcalls : FdCallsInRange cfg s l) :
    s'.ClientsFit := by
  have hscan : ∀ {t : Listen V} {i : ℕ},
      ¬ ((t.scanFrom i).pc = .leave ∨ (t.scanFrom i).pc = .returned) := by
    intro t i
    rw [not_or]
    exact ⟨scanFrom_pc_ne t i (by simp) (by simp), scanFrom_pc_ne t i (by simp) (by simp)⟩
  cases hm with
  | silent ready => exact ((fdCallsInRange_select h ready).1 hcalls).2
  | connecting ready => exact absurd hend (by simp)
  | scanning ready | accept sd | closed v | measured v | expired v | pass v => exact absurd hend hscan
  | leave shutdownOk => exact fun c hc => absurd hc List.not_mem_nil

/-- A step that ends the function uses no descriptor. -/
theorem leave_calls (hm : ListenMove cfg s l s') (hpc : s.pc = .leave) :
    SdFits cfg l ∧ FdCallsInRange cfg s l ∧ s'.pc = .returned := by
  cases hm with
  | leave shutdownOk => exact ⟨trivial, fun call hcall => absurd hcall List.not_mem_nil, rfl⟩
  | silent ready hpc' | connecting ready fds hpc' | scanning ready fds hpc' | accept sd hpc' =>
      exact absurd (hpc.symm.trans hpc') (by simp)
  | closed v xs c ys hat | measured v xs c ys m hat | expired v xs c ys hat | pass v xs c ys hat =>
      exact absurd (hpc.symm.trans hat.pc_eq) (by simp)

/-- What the run `ls`, which ends in `s`, has done: its calls are in range and its clients fit exactly
    if all that the environment handed out fits, and where the loop has ended the calls tell alone. -/
structure RunFits (cfg : ListenConfig V) (ls : List (ListenStep V)) (s : Listen V) : Prop where
  fits_iff : (∀ l ∈ ls, SdFits cfg l) ↔
    (listenSystem cfg).AllSteps (FdCallsInRange cfg) (listenSystem cfg).init ls ∧ s.ClientsFit
  ended : s.pc = .leave ∨ s.pc = .returned →
    (listenSystem cfg).AllSteps (FdCallsInRange cfg) (listenSystem cfg).init ls → s.ClientsFit

/-- **All runs.** -/
theorem runFits {ls : List (ListenStep V)}
    (hexec : (listenSystem cfg).exec (listenSystem cfg).init ls = some s) : RunFits cfg ls s := by
  refine StepSystem.run_induction (motive := RunFits cfg) ?_ ?_ hexec
  · have hfit : (listenSystem cfg).init.ClientsFit := fun c hc => absurd hc List.not_mem_nil
    exact ⟨iff_of_true (by simp) ⟨trivial, hfit⟩, fun _ _ => hfit⟩
  · intro ls s l s' hls ih hs
    have hinv : s.Inv cfg := listen_inv ⟨ls, hls⟩
    have hmove := hinv.move hs
    constructor
    · rw [StepSystem.allSteps_concat hls, List.forall_mem_append, List.forall_mem_singleton,
        ih.fits_iff]
      by_cases hpc : s.pc = .leave
      · obtain ⟨hfits, hcalls, hpc'⟩ := leave_calls hmove hpc
        have hfit := hinv.clientsFit_end hmove (Or.inr hpc') hcalls
        rw [and_iff_left hfits, and_iff_left hcalls, and_iff_left hfit]
        exact and_iff_left_of_imp (ih.ended (Or.inl hpc))
      · rw [and_assoc, and_assoc, hinv.clientsFit_step hmove hpc]
    · rw [StepSystem.allSteps_concat hls]
      exact fun hend hcalls => hinv.clientsFit_end hmove hend hcalls.2

/-- **The set is never indexed out of range** in a run in which the descriptor of the server socket and
    those that `accept` returns are below `FD_SETSIZE`, and once the loop has ended, in no other. -/
theorem select_set_in_range_iff (cfg : ListenConfig V) {ls : List (ListenStep V)}
    (h : (listenSystem cfg).exec (listenSystem cfg).init ls = some s) :
    ((∀ l ∈ ls, SdFits cfg l) →
        (listenSystem cfg).AllSteps (FdCallsInRange cfg) (listenSystem cfg).init ls) ∧
      (s.pc = .leave ∨ s.pc = .returned →
        ((listenSystem cfg).AllSteps (FdCallsInRange cfg) (listenSystem cfg).init ls ↔
          ∀ l ∈ ls, SdFits cfg l)) := by
  have hrun := runFits h
  refine ⟨fun hfits => (hrun.fits_iff.1 hfits).1, fun hpc => ?_⟩
  rw [hrun.fits_iff]
  exact (and_iff_left_of_imp (hrun.ended hpc)).symm

/-- The client with descriptor `sd` is accepted and looked at, and nothing comes after it. -/
def acceptedRun (sd : ℤ) : List (ListenStep (BitVec 64)) :=
  [.select (readySds [3]), .accept sd, .visit (idleVisit 100), .select (readySds []), .leave true]

theorem select_set_in_range_iff_example :
    (listenSystem exampleListen).AllSteps (FdCallsInRange exampleListen)
        (listenSystem exampleListen).init (acceptedRun 1023) ∧
      ¬ (listenSystem exampleListen).AllSteps (FdCallsInRange exampleListen)
        (listenSystem exampleListen).init (acceptedRun 1024) := by
  have hrun : (listenSystem exampleListen).exec (listenSystem exampleListen).init
      (acceptedRun 1023) = some ((listenSystem exampleListen).after (acceptedRun 1023)) :=
    StepSystem.exec_after (by decide)
  have hrun' : (listenSystem exampleListen).exec (listenSystem exampleListen).init
      (acceptedRun 1024) = some ((listenSystem exampleListen).after (acceptedRun 1024)) :=
    StepSystem.exec_after (by decide)
  constructor
  · refine (select_set_in_range_iff exampleListen hrun).1 ?_
    simp [acceptedRun, SdFits, exampleListen, fdSetsize]
  · rw [(select_set_in_range_iff exampleListen hrun').2 (Or.inr (by decide))]
    simp [acceptedRun, SdFits, exampleListen, fdSetsize]

/-- `FD_ISSET` is called for descriptor 1024. -/
theorem descriptor_out_of_range :
    ¬ ∀ (ls : List (ListenStep (BitVec 64))) (s : Listen (BitVec 64)),
      (listenSystem exampleListen).exec (listenSystem exampleListen).init ls = some s →
      (listenSystem exampleListen).AllSteps (FdCallsInRange exampleListen)
        (listenSystem exampleListen).init ls := by
  intro hall
  have hcalls := hall [.select (readySds [3]), .accept 1024, .visit (idleVisit 100)] _
    (StepSystem.exec_after (by decide))
  have hbefore : (listenSystem exampleListen).exec (listenSystem exampleListen).init
      [.select (readySds [3]), .accept 1024] =
      some ((listenSystem exampleListen).after [.select (readySds [3]), .accept 1024]) :=
    StepSystem.exec_after (by decide)
  have hvisit := ((StepSystem.allSteps_concat hbefore).1 hcalls).2
  exact absurd hvisit (by decide)

end SensorGateway
