import SensorGateway.Connmgr.Listen

set_option autoImplicit false

/-! # What a step of `connmgr_listen` can do, and what holds of its clients

`ListenMove` lists what a step can do, with the list split at the client that the scan is about to
handle. The invariant `Listen.Inv` says that the list is kept in the order of acceptance and that
descriptors, sockets and entries belong together; with it every step is one of these moves
(`Listen.Inv.move`), and every property of runs is a case analysis over them. -/

namespace SensorGateway

variable {V : Type} {cfg : ListenConfig V}

/-! ## The set for `select` -/

/-- The set and `fdmax` while the clients before index `i` are in them. -/
structure FdScan.Built (s : FdScan) (listener : ℤ) (clients : List Client) : Prop where
  le : s.i ≤ clients.length
  fds : ∀ sd, sd ∈ s.fds ↔ sd = listener ∨ ∃ c ∈ clients.take s.i, c.info.sd = sd ∧ 0 < sd
  listener_le : listener ≤ s.fdmax
  clients_le : ∀ c ∈ clients.take s.i, c.info.sd ≤ s.fdmax

theorem FdScan.Built.next {s : FdScan} {listener : ℤ} {clients : List Client}
    (h : s.Built listener clients) (hi : s.i < clients.length) :
    FdScan.Built ⟨s.i + 1,
      if 0 < clients[s.i].info.sd then insert clients[s.i].info.sd s.fds else s.fds,
      if s.fdmax < clients[s.i].info.sd then clients[s.i].info.sd else s.fdmax⟩ listener clients := by
  refine ⟨hi, ?_, ?_, ?_⟩
  · -- the set grows by the descriptor of this client, if it is positive
    intro sd
    rw [List.take_succ_eq_append_getElem hi]
    simp only [List.mem_append, List.mem_singleton, or_and_right, exists_or, exists_eq_left,
      ← or_assoc, ← h.fds]
    by_cases hpos : 0 < clients[s.i].info.sd
    · rw [if_pos hpos, Finset.mem_insert, or_comm]
      refine or_congr_right ⟨?_, ?_⟩
      · rintro rfl
        exact ⟨rfl, hpos⟩
      · rintro ⟨rfl, -⟩
        rfl
    · rw [if_neg hpos]
      refine (or_iff_left ?_).symm
      rintro ⟨rfl, hpos'⟩
      exact hpos hpos'
  · have hlistener := h.listener_le
    dsimp only
    split
    · omega
    · exact hlistener
  · intro c hc
    rw [List.take_succ_eq_append_getElem hi, List.mem_append, List.mem_singleton] at hc
    dsimp only
    rcases hc with hc | rfl
    · have hle := h.clients_le c hc
      split
      · omega
      · exact hle
    · split
      · exact le_refl _
      · omega

/-- The set passed to `select` holds the listener and the positive descriptors of the clients, none of
    them above `fdmax`. -/
theorem selectArguments_spec (listener : ℤ) (clients : List Client) :
    ∃ args, selectArguments listener clients = some args ∧
      (∀ sd, sd ∈ args.1 ↔ sd = listener ∨ ∃ c ∈ clients, c.info.sd = sd ∧ 0 < sd) ∧
      listener ≤ args.2 ∧ ∀ c ∈ clients, c.info.sd ≤ args.2 := by
  have hbody : ∀ s : FdScan, s.Built listener clients →
      (∃ s', fdSetBody clients s = some (.next s') ∧ s'.Built listener clients ∧
        clients.length - s'.i < clients.length - s.i) ∨
      (∃ args, fdSetBody clients s = some (.exit args) ∧
        (∀ sd, sd ∈ args.1 ↔ sd = listener ∨ ∃ c ∈ clients, c.info.sd = sd ∧ 0 < sd) ∧
        listener ≤ args.2 ∧ ∀ c ∈ clients, c.info.sd ≤ args.2) := by
    intro s hs
    unfold fdSetBody
    by_cases hi : s.i < clients.length
    · rw [if_pos hi, elementAtIndex_of_lt hi]
      exact Or.inl ⟨_, rfl, hs.next hi, by dsimp only; omega⟩
    · rw [if_neg hi]
      have htake : clients.take s.i = clients := List.take_of_length_le (Nat.le_of_not_lt hi)
      obtain ⟨-, hfds, hlistener, hmax⟩ := hs
      rw [htake] at hfds hmax
      exact Or.inr ⟨_, rfl, hfds, hlistener, hmax⟩
  exact loop_total (fun s => clients.length - s.i) hbody
    ⟨Nat.zero_le _, by simp, le_refl _, by simp⟩ (by simp)

/-! ## The test of the scan -/

theorem scanFrom_pc_eq_scan {s : Listen V} {i j : ℕ} (h : (s.scanFrom i).pc = .scan j) :
    j < s.clients.length := by
  unfold Listen.scanFrom at h
  dsimp only at h
  split at h
  · next hi =>
      obtain rfl := ListenPc.scan.inj h
      exact hi
  · exact absurd h (by simp)

theorem scanFrom_pc_ne (s : Listen V) (i : ℕ) {pc : ListenPc} (hscan : ∀ j, pc ≠ .scan j)
    (hselect : pc ≠ .select) : (s.scanFrom i).pc ≠ pc := by
  unfold Listen.scanFrom
  dsimp only
  split
  · exact (hscan i).symm
  · exact hselect.symm

@[simp] theorem scanFrom_pc_ne_returned (s : Listen V) (i : ℕ) : (s.scanFrom i).pc ≠ .returned :=
  scanFrom_pc_ne s i (by simp) (by simp)

@[simp] theorem scanFrom_pc_ne_accept (s : Listen V) (i : ℕ) : (s.scanFrom i).pc ≠ .accept :=
  scanFrom_pc_ne s i (by simp) (by simp)

/-! ## Moves -/

/-- The scan is about to handle `c`, with `xs` before and `ys` behind it in the list. -/
structure Listen.ScanAt (s : Listen V) (xs : List Client) (c : Client) (ys : List Client) : Prop where
  pc_eq : s.pc = .scan xs.length
  clients_eq : s.clients = xs ++ c :: ys

/-- A connection with descriptor `sd` is accepted. -/
def Listen.add (s : Listen V) (sd : ℤ) : Listen V :=
  ({ s with
    clients := s.clients ++ [Client.mk (newSensorInfo sd) s.accepted]
    openSds := insert sd s.openSds
    accepted := s.accepted + 1 }.record s.accepted (.accepted sd)).scanFrom 0

/-- The iteration that removes `c`, between `xs` and `ys`; `closed` is whether its descriptor is
    released. -/
def Listen.remove (s : Listen V) (xs : List Client) (c : Client) (ys : List Client) (closed : Bool)
    (event : ConnEvent V) : Listen V :=
  ({ s with
    clients := xs ++ ys
    openSds := if closed = true then s.openSds.erase c.info.sd else s.openSds }.record c.conn
      event).scanFrom (xs.length + 1)

/-- The iteration that inserts the measurement `m` of `c`. -/
def Listen.measure (s : Listen V) (xs : List Client) (c : Client) (ys : List Client)
    (m : SensorData V) (now : Int64) : Listen V :=
  ({ s with clients := xs ++ { c with info := c.info.measured m } :: ys }.record c.conn
    (.received m now (c.info.announced m))).scanFrom (xs.length + 1)

/-- The client is not ready and its timestamp is too far behind the clock. -/
def Listen.Expired (cfg : ListenConfig V) (s : Listen V) (c : Client) (v : Visit V) : Prop :=
  c.info.sd ∉ s.readFds ∧ c.info.ts ≠ 0 ∧ cfg.timeout ≤ v.now - c.info.ts

/-- The visit removes the client: it is ready and reported as closed, or it has expired. -/
def Listen.Removes (cfg : ListenConfig V) (s : Listen V) (c : Client) (v : Visit V) : Prop :=
  (c.info.sd ∈ s.readFds ∧ (v.answer 0 c.info.sd).closes = true) ∨ s.Expired cfg c v

/-- `ListenMove cfg s l s'`: the step `l` takes `connmgr_listen` from `s` to `s'`. -/
inductive ListenMove (cfg : ListenConfig V) (s : Listen V) : ListenStep V → Listen V → Prop where
  | silent (ready : ℤ → Bool) (hpc : s.pc = .select) :
      ListenMove cfg s (.select ready) { s with readFds := ∅, pc := .leave }
  | connecting (ready : ℤ → Bool) (fds : Finset ℤ) (hpc : s.pc = .select)
      (hready : ∀ sd ∈ fds, ready sd = true) (hlistener : cfg.listener ∈ fds) :
      ListenMove cfg s (.select ready) { s with readFds := fds, pc := .accept }
  | scanning (ready : ℤ → Bool) (fds : Finset ℤ) (hpc : s.pc = .select)
      (hready : ∀ sd ∈ fds, ready sd = true) :
      ListenMove cfg s (.select ready) ({ s with readFds := fds }.scanFrom 0)
  | accept (sd : ℤ) (hpc : s.pc = .accept) (hsd : 0 ≤ sd) (hfresh : sd ∉ s.openSds) :
      ListenMove cfg s (.accept sd) (s.add sd)
  | closed (v : Visit V) (xs : List Client) (c : Client) (ys : List Client) (hat : s.ScanAt xs c ys)
      (hready : c.info.sd ∈ s.readFds) (hcloses : (v.answer 0 c.info.sd).closes = true) :
      ListenMove cfg s (.visit v)
        (s.remove xs c ys v.shutdownOk (.removed false v.now [.connectionClosed c.info.id]))
  | measured (v : Visit V) (xs : List Client) (c : Client) (ys : List Client) (m : SensorData V)
      (hat : s.ScanAt xs c ys) (hready : c.info.sd ∈ s.readFds)
      (hread : connmgrRead cfg.abi c.info.socket v.garbage v.answer = .measured m)
      (hdelivers : (v.answer 0 c.info.sd).delivers = true) :
      ListenMove cfg s (.visit v) (s.measure xs c ys m v.now)
  | expired (v : Visit V) (xs : List Client) (c : Client) (ys : List Client)
      (hat : s.ScanAt xs c ys) (hexpired : s.Expired cfg c v) :
      ListenMove cfg s (.visit v)
        ({ s with readFds := s.readFds.erase c.info.sd }.remove xs c ys v.shutdownOk
          (.removed true v.now []))
  | pass (v : Visit V) (xs : List Client) (c : Client) (ys : List Client) (hat : s.ScanAt xs c ys)
      (hread : c.info.sd ∈ s.readFds → (v.answer 0 c.info.sd).delivers = false)
      (hstays : ¬ s.Removes cfg c v) :
      ListenMove cfg s (.visit v) (s.scanFrom (xs.length + 1))
  | leave (shutdownOk : Bool) (hpc : s.pc = .leave) :
      ListenMove cfg s (.leave shutdownOk) { s with
        pc := .returned
        clients := []
        openSds := if shutdownOk = true then s.openSds.erase cfg.listener else s.openSds }

/-! ## The invariant -/

/-- A client as it was accepted. -/
def Client.acceptance (c : Client) : ℕ × ConnEvent V := (c.conn, .accepted c.info.sd)

/-- What holds of the clients in every reachable state. -/
structure Listen.Inv (cfg : ListenConfig V) (s : Listen V) : Prop where
  /-- the scan does not run past the end of the list -/
  scan_lt : ∀ i, s.pc = .scan i → i < s.clients.length
  /-- the clients are in the order in which they were accepted, each with its descriptor -/
  accepted : (s.clients.map Client.acceptance).Sublist s.trace
  ordered : (s.clients.map Client.conn).Pairwise (· < ·)
  conn_lt : ∀ c ∈ s.clients, c.conn < s.accepted
  socket : ∀ c ∈ s.clients, c.info.socket = some (acceptedSocket c.info.sd)
  nonneg : ∀ c ∈ s.clients, 0 ≤ c.info.sd
  distinct : (cfg.listener :: s.clients.map (·.info.sd)).Nodup
  isOpen : s.pc ≠ .returned → ∀ sd ∈ cfg.listener :: s.clients.map (·.info.sd), sd ∈ s.openSds

section Step

variable {s s' : Listen V} {l : ListenStep V}

theorem Listen.Inv.scanAt (h : s.Inv cfg) {i : ℕ} (hpc : s.pc = .scan i) :
    ∃ xs c ys, s.ScanAt xs c ys ∧ xs.length = i := by
  obtain ⟨xs, c, ys, hclients, hlen⟩ := exists_split (h.scan_lt i hpc)
  exact ⟨xs, c, ys, ⟨by rw [hpc, hlen], hclients⟩, hlen⟩

theorem Listen.ScanAt.mem {xs ys : List Client} {c : Client} (h : s.ScanAt xs c ys) :
    c ∈ s.clients := by
  rw [h.clients_eq]
  simp

theorem Listen.ScanAt.current_eq {xs ys : List Client} {c : Client} (h : s.ScanAt xs c ys) :
    s.current = some c := by
  rw [Listen.current, h.pc_eq, h.clients_eq]
  simp

theorem Listen.ScanAt.sublist {xs ys : List Client} {c : Client} (h : s.ScanAt xs c ys) :
    (xs ++ ys).Sublist s.clients := by
  rw [h.clients_eq]
  exact (List.Sublist.refl xs).append (List.sublist_cons_self c ys)

/-- The scan is at one client. -/
theorem Listen.ScanAt.unique {xs xs' ys ys' : List Client} {c c' : Client} (h : s.ScanAt xs c ys)
    (h' : s.ScanAt xs' c' ys') : xs' = xs ∧ c' = c ∧ ys' = ys := by
  have hlen : xs'.length = xs.length := ListenPc.scan.inj (h'.pc_eq.symm.trans h.pc_eq)
  obtain ⟨hxs, hcons⟩ := List.append_inj (h'.clients_eq.symm.trans h.clients_eq) hlen
  obtain ⟨hc, hys⟩ := List.cons.inj hcons
  exact ⟨hxs, hc, hys⟩

/-- Every entry holds the socket of its descriptor. -/
def Listen.Connected (s : Listen V) : Prop :=
  ∀ c ∈ s.clients, c.info.socket = some (acceptedSocket c.info.sd) ∧ 0 ≤ c.info.sd

theorem Listen.Inv.connected (h : s.Inv cfg) : s.Connected :=
  fun c hc => ⟨h.socket c hc, h.nonneg c hc⟩

/-- What an iteration of the scan does; it never fails. -/
theorem Listen.Connected.visit_spec (h : s.Connected) (cfg : ListenConfig V) {xs ys : List Client}
    {c : Client} (hat : s.ScanAt xs c ys) (v : Visit V) :
    ∃ s', s.visit cfg xs.length v = some s' ∧ ListenMove cfg s (.visit v) s' := by
  obtain ⟨hsocket, hsd⟩ := h c hat.mem
  have hclose := tcpClose_accepted hsd v.shutdownOk s.openSds
  have hread := connmgrRead_accepted cfg.abi c.info.sd v.garbage v.answer
  have hset : ∀ c', (xs ++ c :: ys).set xs.length c' = xs ++ c' :: ys := by simp
  unfold Listen.visit
  simp only [hat.clients_eq, elementAtIndex_split, removeAtIndex_split, hset, hsocket, hclose,
    Option.bind_eq_bind, Option.bind_some]
  by_cases hready : c.info.sd ∈ s.readFds
  · rw [if_pos hready]
    cases hr : connmgrRead cfg.abi (some (acceptedSocket c.info.sd)) v.garbage v.answer with
    | closed =>
        simp only [ne_eq, not_true_eq_false, if_false]
        exact ⟨_, rfl, .closed v xs c ys hat hready (hread.1.1 hr)⟩
    | measured m =>
        have hr' : connmgrRead cfg.abi c.info.socket v.garbage v.answer = .measured m := by
          rw [hsocket]
          exact hr
        exact ⟨_, rfl, .measured v xs c ys m hat hready hr' (hread.2.1 ⟨m, hr⟩)⟩
    | nothing =>
        rw [hr] at hread
        refine ⟨_, rfl, .pass v xs c ys hat ?_ ?_⟩
        · intro _
          exact Bool.eq_false_iff.2 fun hdelivers => absurd (hread.2.2 hdelivers) (by simp)
        · rintro (⟨-, hcloses⟩ | hexpired)
          · exact absurd (hread.1.2 hcloses) (by simp)
          · exact hexpired.1 hready
  · rw [if_neg hready]
    by_cases hexpired : cfg.timeout ≤ v.now - c.info.ts ∧ c.info.ts ≠ 0
    · rw [if_pos hexpired]
      exact ⟨_, rfl, .expired v xs c ys hat ⟨hready, hexpired.2, hexpired.1⟩⟩
    · rw [if_neg hexpired]
      refine ⟨_, rfl, .pass v xs c ys hat (fun h => absurd h hready) ?_⟩
      rintro (⟨hready', -⟩ | hexpired')
      · exact hready hready'
      · exact hexpired ⟨hexpired'.2.2, hexpired'.2.1⟩

/-- **What a step can do.** -/
theorem Listen.Inv.move (h : s.Inv cfg) (hs : s.step cfg l = some s') : ListenMove cfg s l s' := by
  unfold Listen.step at hs
  split at hs
  · next ready hpc =>
      obtain ⟨⟨fds, fdmax⟩, hargs, -⟩ := selectArguments_spec cfg.listener s.clients
      have hready : ∀ sd ∈ selectFds fds fdmax ready, ready sd = true := by
        intro sd hsd
        exact (Finset.mem_filter.1 hsd).2.2
      simp only [Listen.select, hargs, Option.bind_eq_bind, Option.bind_some] at hs
      split at hs
      · next hempty =>
          obtain rfl := Option.some.inj hs
          rw [hempty]
          exact .silent ready hpc
      · split at hs
        · next hlistener =>
            obtain rfl := Option.some.inj hs
            exact .connecting ready _ hpc hready hlistener
        · obtain rfl := Option.some.inj hs
          exact .scanning ready _ hpc hready
  · next sd hpc =>
      unfold Listen.accept at hs
      split at hs
      · next hsd =>
          obtain rfl := Option.some.inj hs
          rw [insertAtIndex_length]
          exact .accept sd hpc hsd.1 hsd.2
      · exact absurd hs (by simp)
  · next i v hpc =>
      obtain ⟨xs, c, ys, hat, rfl⟩ := h.scanAt hpc
      obtain ⟨s'', hs'', hmove⟩ := h.connected.visit_spec cfg hat v
      obtain rfl := Option.some.inj (hs''.symm.trans hs)
      exact hmove
  · next shutdownOk hpc =>
      have hclose := tcpClose_accepted cfg.listener_nonneg shutdownOk s.openSds
      have hfree : ∀ (clients : List Client) (sds : Finset ℤ),
          clients.foldl elementFreeConnmgr sds = sds := by
        intro clients sds
        induction clients with
        | nil => rfl
        | cons c clients ih => exact ih
      have hserver : cfg.serverSocket = acceptedSocket cfg.listener := rfl
      simp only [Listen.leave, hserver, hclose, hfree, ne_eq, not_true_eq_false, if_false] at hs
      obtain rfl := Option.some.inj hs
      exact .leave shutdownOk hpc
  · exact absurd hs (by simp)

/-! ## Every step keeps the invariant -/

/-- A step that leaves the clients and the descriptors alone keeps the invariant. -/
theorem Listen.Inv.frame (h : s.Inv cfg) (hscan : ∀ i, s'.pc = .scan i → i < s'.clients.length)
    (hpc : s.pc ≠ .returned) (hclients : s'.clients = s.clients) (htrace : s'.trace = s.trace)
    (haccepted : s'.accepted = s.accepted) (hopen : s'.openSds = s.openSds) : s'.Inv cfg where
  scan_lt := hscan
  accepted := by rw [hclients, htrace]; exact h.accepted
  ordered := by rw [hclients]; exact h.ordered
  conn_lt := by rw [hclients, haccepted]; exact h.conn_lt
  socket := by rw [hclients]; exact h.socket
  nonneg := by rw [hclients]; exact h.nonneg
  distinct := by rw [hclients]; exact h.distinct
  isOpen := by rw [hclients, hopen]; exact fun _ => h.isOpen hpc

theorem Listen.Inv.add (h : s.Inv cfg) (hpc : s.pc = .accept) {sd : ℤ} (hsd : 0 ≤ sd)
    (hfresh : sd ∉ s.openSds) : (s.add sd).Inv cfg := by
  have hopen := h.isOpen (by rw [hpc]; simp)
  have hclients : (s.add sd).clients = s.clients ++ [⟨newSensorInfo sd, s.accepted⟩] := rfl
  -- the new descriptor is none of the open ones, so it is none of the listener and the clients
  have hnew : sd ∉ cfg.listener :: s.clients.map (·.info.sd) := fun hmem => hfresh (hopen sd hmem)
  constructor
  · exact fun i hi => scanFrom_pc_eq_scan hi
  · rw [hclients, List.map_append]
    exact h.accepted.append (List.Sublist.refl _)
  · rw [hclients, List.map_append, List.pairwise_append]
    refine ⟨h.ordered, List.pairwise_singleton _ _, ?_⟩
    intro a ha b hb
    obtain ⟨c, hc, rfl⟩ := List.mem_map.1 ha
    obtain rfl := List.mem_singleton.1 hb
    exact h.conn_lt c hc
  · intro c hc
    rw [hclients, List.mem_append, List.mem_singleton] at hc
    show c.conn < s.accepted + 1
    rcases hc with hc | rfl
    · exact Nat.lt_succ_of_lt (h.conn_lt c hc)
    · exact Nat.lt_succ_self _
  · intro c hc
    rw [hclients, List.mem_append, List.mem_singleton] at hc
    rcases hc with hc | rfl
    · exact h.socket c hc
    · rfl
  · intro c hc
    rw [hclients, List.mem_append, List.mem_singleton] at hc
    rcases hc with hc | rfl
    · exact h.nonneg c hc
    · exact hsd
  · rw [hclients, List.map_append, ← List.cons_append]
    exact h.distinct.append (List.nodup_singleton _) (List.disjoint_singleton.2 hnew)
  · intro _ d hd
    rw [hclients, List.map_append, ← List.cons_append, List.mem_append] at hd
    rcases hd with hd | hd
    · exact Finset.mem_insert_of_mem (hopen d hd)
    · rw [List.mem_singleton.1 hd]
      exact Finset.mem_insert_self _ _

/-- The descriptor of a client is not that of the listener or of another client. -/
theorem Listen.Inv.sd_unique (h : s.Inv cfg) {xs ys : List Client} {c : Client}
    (hclients : s.clients = xs ++ c :: ys) :
    c.info.sd ∉ cfg.listener :: (xs ++ ys).map (·.info.sd) := by
  have hdistinct := h.distinct
  have hperm : (cfg.listener :: (xs ++ c :: ys).map (·.info.sd)).Perm
      (c.info.sd :: cfg.listener :: (xs ++ ys).map (·.info.sd)) := by
    have hmiddle : (xs ++ c :: ys).Perm (c :: (xs ++ ys)) := List.perm_middle
    exact ((hmiddle.map _).cons _).trans (List.Perm.swap _ _ _)
  rw [hclients, hperm.nodup_iff] at hdistinct
  exact (List.nodup_cons.1 hdistinct).1

/-- The number of a client is not that of another one. -/
theorem Listen.Inv.conn_ne (h : s.Inv cfg) {xs ys : List Client} {c c' : Client}
    (hclients : s.clients = xs ++ c :: ys) (hc' : c' ∈ xs ++ ys) : c.conn ≠ c'.conn := by
  have hordered := h.ordered
  rw [hclients, List.map_append, List.map_cons, List.pairwise_append, List.pairwise_cons] at hordered
  obtain ⟨-, ⟨hys, -⟩, hxs⟩ := hordered
  rcases List.mem_append.1 hc' with hmem | hmem
  · have hlt := hxs c'.conn (List.mem_map_of_mem hmem) c.conn List.mem_cons_self
    exact hlt.ne'
  · have hlt := hys c'.conn (List.mem_map_of_mem hmem)
    exact hlt.ne

theorem Listen.Inv.remove (h : s.Inv cfg) {xs ys : List Client} {c : Client} (hat : s.ScanAt xs c ys)
    (closed : Bool) (event : ConnEvent V) : (s.remove xs c ys closed event).Inv cfg := by
  have hopen := h.isOpen (by rw [hat.pc_eq]; simp)
  have hclients : (s.remove xs c ys closed event).clients = xs ++ ys := rfl
  have hsub := hat.sublist
  constructor
  · exact fun i hi => scanFrom_pc_eq_scan hi
  · rw [hclients]
    exact ((hsub.map _).trans h.accepted).trans (List.sublist_append_left _ _)
  · rw [hclients]
    exact h.ordered.sublist (hsub.map _)
  · exact fun c' hc' => h.conn_lt c' (hsub.subset hc')
  · exact fun c' hc' => h.socket c' (hsub.subset hc')
  · exact fun c' hc' => h.nonneg c' (hsub.subset hc')
  · rw [hclients]
    exact h.distinct.sublist ((hsub.map _).cons_cons _)
  · intro _ d hd
    rw [hclients] at hd
    have hd' : d ∈ s.openSds := hopen d (((hsub.map _).cons_cons _).subset hd)
    show d ∈ if closed = true then s.openSds.erase c.info.sd else s.openSds
    split
    · refine Finset.mem_erase.2 ⟨?_, hd'⟩
      rintro rfl
      exact h.sd_unique hat.clients_eq hd
    · exact hd'

/-- What a measurement leaves alone in the entries. -/
theorem measure_map {β : Type} (f : Client → β) {m : SensorData V} {c : Client}
    (hf : f { c with info := c.info.measured m } = f c) {xs ys : List Client}
    (hclients : s.clients = xs ++ c :: ys) (now : Int64) :
    (s.measure xs c ys m now).clients.map f = s.clients.map f := by
  show (xs ++ { c with info := c.info.measured m } :: ys).map f = s.clients.map f
  rw [hclients, List.map_append, List.map_cons, hf, List.map_append, List.map_cons]

/-- A client after the measurement is the one that delivered it or another one. -/
theorem mem_measure {m : SensorData V} {xs ys : List Client} {c c' : Client} {now : Int64}
    (hc' : c' ∈ (s.measure xs c ys m now).clients) :
    c' = { c with info := c.info.measured m } ∨ c' ∈ xs ++ ys := by
  rw [List.mem_append, or_left_comm, ← List.mem_cons, ← List.mem_append]
  exact hc'

/-- A property of the entries that a measurement does not touch. -/
theorem measure_forall {P : Client → Prop} {m : SensorData V} {xs ys : List Client} {c : Client}
    (hat : s.ScanAt xs c ys) (hP : P c → P { c with info := c.info.measured m })
    (h : ∀ c ∈ s.clients, P c) (now : Int64) :
    ∀ c' ∈ (s.measure xs c ys m now).clients, P c' := by
  intro c' hc'
  rcases mem_measure hc' with rfl | hmem
  · exact hP (h c hat.mem)
  · exact h c' (hat.sublist.subset hmem)

theorem Listen.Inv.measure (h : s.Inv cfg) {xs ys : List Client} {c : Client}
    (hat : s.ScanAt xs c ys) (m : SensorData V) (now : Int64) :
    (s.measure xs c ys m now).Inv cfg := by
  have hsds := measure_map (·.info.sd) (m := m) rfl hat.clients_eq now
  constructor
  · exact fun i hi => scanFrom_pc_eq_scan hi
  · rw [measure_map Client.acceptance rfl hat.clients_eq]
    exact h.accepted.trans (List.sublist_append_left _ _)
  · rw [measure_map Client.conn rfl hat.clients_eq]
    exact h.ordered
  · exact measure_forall hat (P := fun c => c.conn < s.accepted) id h.conn_lt now
  · exact measure_forall hat (P := fun c => c.info.socket = some (acceptedSocket c.info.sd)) id
      h.socket now
  · exact measure_forall hat (P := fun c => 0 ≤ c.info.sd) id h.nonneg now
  · rw [hsds]
    exact h.distinct
  · rw [hsds]
    exact fun _ => h.isOpen (by rw [hat.pc_eq]; simp)

theorem Listen.Inv.step (h : s.Inv cfg) (hs : s.step cfg l = some s') :
    ListenMove cfg s l s' ∧ s'.Inv cfg := by
  have hmove := h.move hs
  refine ⟨hmove, ?_⟩
  cases hmove with
  | silent ready hpc => exact h.frame (by simp) (by rw [hpc]; simp) rfl rfl rfl rfl
  | connecting ready fds hpc => exact h.frame (by simp) (by rw [hpc]; simp) rfl rfl rfl rfl
  | scanning ready fds hpc =>
      exact h.frame (fun i hi => scanFrom_pc_eq_scan hi) (by rw [hpc]; simp) rfl rfl rfl rfl
  | accept sd hpc hsd hfresh => exact h.add hpc hsd hfresh
  | closed v xs c ys hat => exact h.remove hat _ _
  | measured v xs c ys m hat => exact h.measure hat m v.now
  | expired v xs c ys hat =>
      have hframe : ({ s with readFds := s.readFds.erase c.info.sd } : Listen V).Inv cfg :=
        h.frame h.scan_lt (by rw [hat.pc_eq]; simp) rfl rfl rfl rfl
      exact hframe.remove ⟨hat.pc_eq, hat.clients_eq⟩ _ _
  | pass v xs c ys hat =>
      exact h.frame (fun i hi => scanFrom_pc_eq_scan hi) (by rw [hat.pc_eq]; simp) rfl rfl rfl rfl
  | leave shutdownOk hpc =>
      exact ⟨by simp, by simp, by simp, by simp, by simp, by simp, by simp, by simp⟩

theorem listen_inv_initial : (Listen.initial cfg).Inv cfg where
  scan_lt := by simp [Listen.initial]
  accepted := List.Sublist.refl []
  ordered := List.Pairwise.nil
  conn_lt := by simp [Listen.initial]
  socket := by simp [Listen.initial]
  nonneg := by simp [Listen.initial]
  distinct := by simp [Listen.initial]
  isOpen := by simp [Listen.initial]

theorem listen_inv (h : (listenSystem cfg).Reachable s) : s.Inv cfg :=
  h.invariant (Listen.Inv cfg) listen_inv_initial fun _ _ _ hinv hs => (hinv.step hs).2

/-- A condition on all steps of a run, from what it means for one move. `K` is what else the moves
    keep. -/
theorem listen_allSteps_iff {K J : Listen V → Prop} {P : Listen V → ListenStep V → Prop}
    (hK : K (.initial cfg)) (hJ : J (.initial cfg))
    (hstep : ∀ s l s', s.Inv cfg → K s → ListenMove cfg s l s' → K s' ∧ (J s' ↔ J s ∧ P s l))
    {ls : List (ListenStep V)} (h : (listenSystem cfg).exec (.initial cfg) ls = some s) :
    J s ↔ (listenSystem cfg).AllSteps P (.initial cfg) ls := by
  refine StepSystem.allSteps_iff (T := listenSystem cfg) (fun s => s.Inv cfg ∧ K s)
    ⟨listen_inv_initial, hK⟩ hJ ?_ h
  rintro s l s' ⟨hinv, hk⟩ hs
  obtain ⟨hmove, hinv'⟩ := hinv.step hs
  obtain ⟨hk', hiff⟩ := hstep s l s' hinv hk hmove
  exact ⟨⟨hinv', hk'⟩, hiff⟩

/-! ## What a step inserts -/

/-- What is inserted by a step that records an event. -/
theorem inserted_record {conn : ℕ} {event : ConnEvent V}
    (htrace : s'.trace = s.trace ++ [(conn, event)]) :
    s'.inserted = s.inserted ++ event.inserted := by
  rw [Listen.inserted, htrace, List.flatMap_append, List.flatMap_singleton]
  rfl

/-- What is logged by a step that records an event. -/
theorem logged_record {conn : ℕ} {event : ConnEvent V}
    (htrace : s'.trace = s.trace ++ [(conn, event)]) : s'.logged = s.logged ++ event.logged := by
  rw [Listen.logged, htrace, List.flatMap_append, List.flatMap_singleton]
  rfl

/-- A step that inserts a measurement is the visit of a ready client, and what it does depends on what
    is received on the descriptor of that client only. -/
theorem Listen.Inv.inserted_step (h : s.Inv cfg) (hs : s.step cfg l = some s')
    (hinserted : s'.inserted ≠ s.inserted) :
    ∃ c v, s.current = some c ∧ l = .visit v ∧ c.info.sd ∈ s.readFds ∧
      ∀ answer, (∀ k, answer k c.info.sd = v.answer k c.info.sd) →
        s.step cfg (.visit { v with answer }) = some s' := by
  -- only a measurement adds something that is inserted to the trace
  have hsame : ∀ conn (event : ConnEvent V), s'.trace = s.trace ++ [(conn, event)] →
      event.inserted ≠ [] := by
    intro conn event htrace hevent
    apply hinserted
    rw [inserted_record htrace, hevent, List.append_nil]
  cases h.move hs with
  | silent | connecting | scanning | pass | leave => exact absurd rfl hinserted
  | accept => exact absurd rfl (hsame _ _ rfl)
  | closed => exact absurd rfl (hsame _ _ rfl)
  | expired => exact absurd rfl (hsame _ _ rfl)
  | measured v xs c ys m hat hready hread =>
      refine ⟨c, v, hat.current_eq, rfl, hready, ?_⟩
      intro answer hanswer
      have hsocket := h.socket c hat.mem
      rw [← hs]
      have hread' := connmgrRead_congr cfg.abi c.info.sd v.garbage hanswer
      unfold Listen.step
      simp only [hat.pc_eq]
      unfold Listen.visit
      simp only [hat.clients_eq, elementAtIndex_split, Option.bind_eq_bind, Option.bind_some,
        hsocket, hread']

end Step

/-- **A ready descriptor identifies one client.** Whatever connections come, send, close and time out
    in whatever order: at every `select` call the clients are in the order in which they were
    accepted, each with the socket of its own descriptor; the descriptors are different from each
    other and from the listener; and the set passed to `select` holds the listener and the positive
    ones, none of them above `fdmax`. So a ready descriptor is the listener or that of one client, and
    a measurement is inserted only while a client whose descriptor is ready is handled, from what
    is received on that descriptor. -/
theorem ready_descriptor_identifies_client (cfg : ListenConfig V) {s : Listen V}
    (h : (listenSystem cfg).Reachable s) :
    (s.pc = .select →
      (s.clients.map Client.acceptance).Sublist s.trace ∧
      (s.clients.map Client.conn).Pairwise (· < ·) ∧
      (∀ c ∈ s.clients, c.info.socket = some (acceptedSocket c.info.sd)) ∧
      (cfg.listener :: s.clients.map (·.info.sd)).Nodup ∧
      ∃ args, selectArguments cfg.listener s.clients = some args ∧
        (∀ sd, sd ∈ args.1 ↔ sd = cfg.listener ∨ ∃ c ∈ s.clients, c.info.sd = sd ∧ 0 < sd) ∧
        (∀ sd ∈ args.1, sd ≤ args.2) ∧
        ∀ ready, ∀ sd ∈ selectFds args.1 args.2 ready, sd ≠ cfg.listener →
          ∃! c, c ∈ s.clients ∧ c.info.sd = sd) ∧
    ∀ l s', (listenSystem cfg).step s l = some s' → s'.inserted ≠ s.inserted →
      ∃ c v, s.current = some c ∧ l = .visit v ∧ c.info.sd ∈ s.readFds ∧
        ∀ answer, (∀ k, answer k c.info.sd = v.answer k c.info.sd) →
          (listenSystem cfg).step s (.visit { v with answer }) = some s' := by
  have hinv := listen_inv h
  refine ⟨fun _ => ⟨hinv.accepted, hinv.ordered, hinv.socket, hinv.distinct, ?_⟩,
    fun l s' hs => hinv.inserted_step hs⟩
  obtain ⟨args, hargs, hfds, hlistener, hmax⟩ := selectArguments_spec cfg.listener s.clients
  refine ⟨args, hargs, hfds, ?_, ?_⟩
  · intro sd hsd
    rcases (hfds sd).1 hsd with rfl | ⟨c, hc, rfl, -⟩
    · exact hlistener
    · exact hmax c hc
  · intro ready sd hsd hne
    obtain ⟨c, hc, hcsd, -⟩ := ((hfds sd).1 (Finset.mem_filter.1 hsd).1).resolve_left hne
    refine ⟨c, ⟨hc, hcsd⟩, ?_⟩
    rintro c' ⟨hc', hcsd'⟩
    exact List.inj_on_of_nodup_map (List.nodup_cons.1 hinv.distinct).2 hc' hc
      (hcsd'.trans hcsd.symm)

/-! ## Runs of an example -/

/-- A listener with descriptor 3 that times out after 5 seconds. -/
def exampleListen : ListenConfig (BitVec 64) := ⟨wordAbi, 5, 3, by decide⟩

/-- A visit at which nothing is received. -/
def idleVisit (now : Int64) : Visit (BitVec 64) := ⟨now, fun _ _ => .failed false, ⟨0, 0, 0⟩, true⟩

/-- A visit at which the record of `m` is received. -/
def recordVisit (m : SensorData (BitVec 64)) (now : Int64) : Visit (BitVec 64) :=
  { idleVisit now with
    answer := fun k _ => .received
      ([wordAbi.id.bytes m.id, wordAbi.value.bytes m.value, wordAbi.ts.bytes m.ts].getD k []) }

/-- A visit at which the peer has closed; `shutdownOk` is whether `shutdown` succeeds. -/
def closingVisit (now : Int64) (shutdownOk : Bool) : Visit (BitVec 64) :=
  { idleVisit now with answer := fun _ _ => .received [], shutdownOk }

/-- The descriptors that are ready. -/
def readySds (sds : List ℤ) (sd : ℤ) : Bool := sd ∈ sds

/-- Two clients are accepted; the first delivers a measurement and closes, and a third one gets the
    descriptor of the first. -/
def reuseRun : List (ListenStep (BitVec 64)) :=
  [.select (readySds [3]), .accept 4, .visit (idleVisit 100),
    .select (readySds [3, 4]), .accept 5, .visit (recordVisit ⟨15, 20, 101⟩ 101),
    .visit (idleVisit 101),
    .select (readySds [4]), .visit (closingVisit 102 true),
    .select (readySds [3]), .accept 4, .visit (idleVisit 103), .visit (idleVisit 103)]

theorem ready_descriptor_identifies_client_reuse :
    (exampleListen.listener ::
      ((listenSystem exampleListen).after reuseRun).clients.map (·.info.sd)).Nodup :=
  ((ready_descriptor_identifies_client exampleListen
    (StepSystem.reachable_after (by decide))).1 (by decide)).2.2.2.1

end SensorGateway
