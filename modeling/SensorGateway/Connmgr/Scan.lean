import SensorGateway.Connmgr.Clients

set_option autoImplicit false

/-! # The scan over the clients

One execution of the loop over `client_list`. The loop counts on after it has removed an element, so
the client behind a removed one is not looked at; the scan serves every client exactly if it
removes none but the last (`scan_serves_all_iff`). -/

namespace SensorGateway

variable {V : Type} {cfg : ListenConfig V} {s : Listen V}

/-- What should come of a client in a scan: its entry (`none` if it is removed) and what happens to its
    connection. A ready client delivers a measurement or is removed as closed, and one that is not
    ready is removed if its timestamp is too far behind the clock. -/
def Listen.served (cfg : ListenConfig V) (s : Listen V) (c : Client) (v : Visit V) :
    Option Client × List (ConnEvent V) :=
  if c.info.sd ∈ s.readFds then
    match connmgrRead cfg.abi c.info.socket v.garbage v.answer with
    | .closed => (none, [.removed false v.now [.connectionClosed c.info.id]])
    | .measured m =>
        (some { c with info := c.info.measured m }, [.received m v.now (c.info.announced m)])
    | .nothing => (some c, [])
  else if cfg.timeout ≤ v.now - c.info.ts ∧ c.info.ts ≠ 0 then
    (none, [.removed true v.now []])
  else (some c, [])

/-- A running scan, with the number of iterations done and the clients they looked at. -/
structure ScanRun (V : Type) where
  listen : Listen V
  iteration : ℕ
  examined : List Client

/-- The body of the loop; `env k` is the environment of iteration `k`. -/
def scanBody (cfg : ListenConfig V) (env : ℕ → Visit V) (r : ScanRun V) :
    Option (LoopStep (ScanRun V) (ScanRun V)) :=
  match r.listen.pc with
  | .scan i => do
      let client ← elementAtIndex r.listen.clients i
      let listen ← r.listen.visit cfg i (env r.iteration)
      return .next ⟨listen, r.iteration + 1, r.examined ++ [client]⟩
  | .select | .accept | .leave | .returned => some (.exit r)

/-- The scan over the clients of `s`. Every receive call returns: one that blocks for good has no
    outcome, and is no environment of the scan. -/
def scanLoop (cfg : ListenConfig V) (env : ℕ → Visit V) (s : Listen V) : Option (ScanRun V) :=
  loop (scanBody cfg env) (s.clients.length + 1) ⟨s, 0, []⟩

/-! ## One iteration -/

/-- What should come of a client depends on `read_fds` only. -/
theorem served_congr {s' : Listen V} (h : s'.readFds = s.readFds) (c : Client) (v : Visit V) :
    s'.served cfg c v = s.served cfg c v ∧ (s'.Removes cfg c v ↔ s.Removes cfg c v) := by
  simp only [Listen.served, Listen.Removes, Listen.Expired, h, and_self]

/-- The entry of a client that stays is about the same socket. -/
theorem served_socket {c c' : Client} {v : Visit V} (h : (s.served cfg c v).1 = some c') :
    c'.info.socket = c.info.socket ∧ c'.info.sd = c.info.sd := by
  unfold Listen.served at h
  split at h
  · split at h
    · exact absurd h (by simp)
    · obtain rfl := Option.some.inj h
      exact ⟨rfl, rfl⟩
    · obtain rfl := Option.some.inj h
      exact ⟨rfl, rfl⟩
  · split at h
    · exact absurd h (by simp)
    · obtain rfl := Option.some.inj h
      exact ⟨rfl, rfl⟩

/-- The entries of the clients that stay still hold their sockets. -/
theorem Listen.Connected.served {s' : Listen V} (h : s.Connected) {xs ys : List Client} {c : Client}
    {v : Visit V} (hclients : s.clients = xs ++ c :: ys)
    (hclients' : s'.clients = xs ++ (s.served cfg c v).1.toList ++ ys) : s'.Connected := by
  intro c' hc'
  simp only [hclients', List.mem_append, Option.mem_toList] at hc'
  rw [Listen.Connected, hclients] at h
  rcases hc' with (hxs | hkept) | hys
  · exact h c' (by simp [hxs])
  · obtain ⟨hsocket, hsd⟩ := served_socket hkept
    rw [hsocket, hsd]
    exact h c (by simp)
  · exact h c' (by simp [hys])

/-- An iteration does with its client what it should. -/
theorem Listen.Connected.visit_served (h : s.Connected) (cfg : ListenConfig V) {xs ys : List Client}
    {c : Client} (hat : s.ScanAt xs c ys) (v : Visit V) :
    ∃ s', s.visit cfg xs.length v = some s' ∧
      s'.pc = (s'.scanFrom (xs.length + 1)).pc ∧
      s'.clients = xs ++ (s.served cfg c v).1.toList ++ ys ∧
      s'.trace = s.trace ++ (s.served cfg c v).2.map (Prod.mk c.conn) ∧
      (s.Removes cfg c v ↔ (s.served cfg c v).1 = none) ∧
      (¬ s.Removes cfg c v → s'.readFds = s.readFds) := by
  obtain ⟨s', hs', hmove⟩ := h.visit_spec cfg hat v
  refine ⟨s', hs', ?_⟩
  have hread := connmgrRead_accepted cfg.abi c.info.sd v.garbage v.answer
  rw [← (h c hat.mem).1] at hread
  cases hmove with
  | closed _ xs' c' ys' hat' hready hcloses =>
      obtain ⟨rfl, rfl, rfl⟩ := hat.unique hat'
      have hserved : s.served cfg c' v =
          (none, [.removed false v.now [.connectionClosed c'.info.id]]) := by
        rw [Listen.served, if_pos hready, hread.1.2 hcloses]
      rw [hserved]
      exact ⟨rfl, (List.append_nil _ ▸ rfl), rfl, iff_of_true (Or.inl ⟨hready, hcloses⟩) rfl,
        fun _ => rfl⟩
  | measured _ xs' c' ys' m hat' hready hreading hdelivers =>
      obtain ⟨rfl, rfl, rfl⟩ := hat.unique hat'
      have hserved : s.served cfg c' v = (some { c' with info := c'.info.measured m },
          [.received m v.now (c'.info.announced m)]) := by
        rw [Listen.served, if_pos hready, hreading]
      have hstays : ¬ s.Removes cfg c' v := by
        rintro (⟨-, hcloses⟩ | hexpired)
        · exact absurd (Recv.not_delivers_of_closes hcloses) (by simp [hdelivers])
        · exact hexpired.1 hready
      rw [hserved]
      refine ⟨rfl, ?_, rfl, iff_of_false hstays (by simp), fun _ => rfl⟩
      rw [Option.toList_some, List.append_assoc]
      rfl
  | expired _ xs' c' ys' hat' hexpired =>
      obtain ⟨rfl, rfl, rfl⟩ := hat.unique hat'
      have hserved : s.served cfg c' v = (none, [.removed true v.now []]) := by
        rw [Listen.served, if_neg hexpired.1, if_pos ⟨hexpired.2.2, hexpired.2.1⟩]
      rw [hserved]
      exact ⟨rfl, (List.append_nil _ ▸ rfl), rfl, iff_of_true (Or.inr hexpired) rfl,
        fun hstays => absurd (Or.inr hexpired) hstays⟩
  | pass _ xs' c' ys' hat' hsilent hstays =>
      obtain ⟨rfl, rfl, rfl⟩ := hat.unique hat'
      have hserved : s.served cfg c' v = (some c', []) := by
        unfold Listen.served
        split
        · next hready =>
            cases hreading : connmgrRead cfg.abi c'.info.socket v.garbage v.answer with
            | closed => exact absurd (Or.inl ⟨hready, hread.1.1 hreading⟩) hstays
            | measured m => exact absurd (hread.2.1 ⟨m, hreading⟩) (by simp [hsilent hready])
            | nothing => rfl
        · next hready =>
            rw [if_neg]
            rintro ⟨hle, hts⟩
            exact hstays (Or.inr ⟨hready, hts, hle⟩)
      rw [hserved]
      refine ⟨rfl, ?_, (List.append_nil _).symm, iff_of_false hstays (by simp), fun _ => rfl⟩
      rw [Option.toList_some, List.append_assoc]
      exact hat'.clients_eq

/-! ## The whole loop -/

/-- What an iteration contributes to the clients, and to the trace. -/
def Listen.kept (cfg : ListenConfig V) (s : Listen V) (env : ℕ → Visit V) (p : Client × ℕ) :
    Option Client := (s.served cfg p.1 (env p.2)).1

def Listen.events (cfg : ListenConfig V) (s : Listen V) (env : ℕ → Visit V) (p : Client × ℕ) :
    List (ℕ × ConnEvent V) := (s.served cfg p.1 (env p.2)).2.map (Prod.mk p.1.conn)

/-- What the loop has done when it ends, if it started at iteration `k` with the clients `rest` still
    ahead and `xs` behind it. -/
structure ScanResult (cfg : ListenConfig V) (env : ℕ → Visit V) (s : Listen V) (k : ℕ)
    (xs rest examined : List Client) (s' : Listen V) : Prop where
  length_le : examined.length ≤ rest.length
  /-- if none but the last is removed, everyone is served -/
  served : (∀ p ∈ rest.dropLast.zipIdx k, ¬ s.Removes cfg p.1 (env p.2)) →
    examined = rest ∧ s'.clients = xs ++ (rest.zipIdx k).filterMap (s.kept cfg env) ∧
      s'.trace = s.trace ++ (rest.zipIdx k).flatMap (s.events cfg env)
  /-- otherwise someone is left out -/
  skipped : ¬ (∀ p ∈ rest.dropLast.zipIdx k, ¬ s.Removes cfg p.1 (env p.2)) →
    examined.length < rest.length

variable {env : ℕ → Visit V} {k : ℕ} {xs ys examined : List Client} {c : Client}

theorem mem_dropLast_cons {rest : List Client} (hne : rest ≠ []) :
    (c, k) ∈ (c :: rest).dropLast.zipIdx k := by
  rw [List.dropLast_cons_of_ne_nil hne, List.zipIdx_cons]
  exact List.mem_cons_self

/-- The last client may be removed. -/
theorem ScanResult.last_removed {s₁ s' : Listen V} (hremoves : (s.served cfg c (env k)).1 = none)
    (htrace : s₁.trace = s.trace ++ (s.served cfg c (env k)).2.map (Prod.mk c.conn))
    (hrest : ScanResult cfg env s₁ (k + 1) xs [] examined s') :
    ScanResult cfg env s k xs [c] (c :: examined) s' := by
  have hnil : examined = [] := List.length_eq_zero_iff.1 (Nat.le_zero.1 hrest.length_le)
  obtain ⟨-, hclients', htrace'⟩ := hrest.served (by simp)
  subst hnil
  refine ⟨Nat.le_refl _, fun _ => ⟨rfl, ?_, ?_⟩, fun hskipped => absurd (by simp) hskipped⟩
  · rw [hclients']
    simp [Listen.kept, hremoves]
  · rw [htrace', htrace]
    simp [Listen.events]

/-- A client that is removed hides the one behind it. -/
theorem ScanResult.next_skipped {s₁ s' : Listen V} {c' : Client} {rest : List Client}
    (hremoves : s.Removes cfg c (env k))
    (hrest : ScanResult cfg env s₁ (k + 1) (xs ++ [c']) rest examined s') :
    ScanResult cfg env s k xs (c :: c' :: rest) (c :: examined) s' := by
  have hlen := hrest.length_le
  have hlt : (c :: examined).length < (c :: c' :: rest).length := by
    simp only [List.length_cons]
    omega
  refine ⟨hlt.le, ?_, fun _ => hlt⟩
  intro hall
  exact absurd hremoves (hall (c, k) (mem_dropLast_cons (List.cons_ne_nil c' rest)))

/-- A client that stays leaves the others to the rest of the loop. -/
theorem ScanResult.next_served {s₁ s' : Listen V} {c' : Client}
    (hstays : ¬ s.Removes cfg c (env k)) (hkept : (s.served cfg c (env k)).1 = some c')
    (htrace : s₁.trace = s.trace ++ (s.served cfg c (env k)).2.map (Prod.mk c.conn))
    (hfds : s₁.readFds = s.readFds)
    (hrest : ScanResult cfg env s₁ (k + 1) (xs ++ [c']) ys examined s') :
    ScanResult cfg env s k xs (c :: ys) (c :: examined) s' := by
  have hremoves : ∀ c v, s₁.Removes cfg c v ↔ s.Removes cfg c v := fun c v => (served_congr hfds c v).2
  have hkept' : s₁.kept cfg env = s.kept cfg env := by
    funext p
    rw [Listen.kept, (served_congr hfds p.1 (env p.2)).1]
    rfl
  have hevents : s₁.events cfg env = s.events cfg env := by
    funext p
    rw [Listen.events, (served_congr hfds p.1 (env p.2)).1]
    rfl
  -- the first client is no obstacle, so the condition is about the others
  have hcond : (∀ p ∈ (c :: ys).dropLast.zipIdx k, ¬ s.Removes cfg p.1 (env p.2)) ↔
      ∀ p ∈ ys.dropLast.zipIdx (k + 1), ¬ s₁.Removes cfg p.1 (env p.2) := by
    simp only [hremoves]
    cases ys with
    | nil => simp
    | cons c'' ys =>
        rw [List.dropLast_cons_of_ne_nil (List.cons_ne_nil c'' ys), List.zipIdx_cons,
          List.forall_mem_cons]
        exact and_iff_right hstays
  refine ⟨Nat.succ_le_succ hrest.length_le, ?_, ?_⟩
  · intro hall
    obtain ⟨rfl, hclients', htrace'⟩ := hrest.served (hcond.1 hall)
    have hfirst : s.kept cfg env (c, k) = some c' := hkept
    refine ⟨rfl, ?_, ?_⟩
    · rw [hclients', hkept', List.zipIdx_cons, List.filterMap_cons_some hfirst, List.append_assoc]
      rfl
    · rw [htrace', htrace, hevents, List.zipIdx_cons, List.flatMap_cons, List.append_assoc]
      rfl
  · intro hskipped
    exact Nat.succ_lt_succ (hrest.skipped fun hall => hskipped (hcond.2 hall))

/-- The loop ends, and it serves everyone exactly if it removes none but the last. -/
theorem scan_rest (env : ℕ → Visit V) {n : ℕ} {rest xs : List Client} {r : ScanRun V} {fuel : ℕ}
    (hn : rest.length = n) (h : r.listen.Connected) (hclients : r.listen.clients = xs ++ rest)
    (hpc : r.listen.pc = (r.listen.scanFrom xs.length).pc) (hfuel : n < fuel) :
    ∃ r' examined, loop (scanBody cfg env) fuel r = some r' ∧
      r'.examined = r.examined ++ examined ∧
      ScanResult cfg env r.listen r.iteration xs rest examined r'.listen := by
  -- an iteration takes one client off `rest`, or two if it removes the first
  induction n using Nat.strong_induction_on generalizing rest xs r fuel with
  | _ n ih =>
  obtain ⟨fuel, rfl⟩ : ∃ f, fuel = f + 1 := ⟨fuel - 1, by omega⟩
  cases rest with
  | nil =>
      have hselect : r.listen.pc = .select := by
        rw [hpc, Listen.scanFrom, hclients, List.append_nil]
        exact if_neg (Nat.lt_irrefl _)
      refine ⟨r, [], loop_exit ?_ fuel, (List.append_nil _).symm, Nat.le_refl _, ?_, ?_⟩
      · rw [scanBody, hselect]
      · intro _
        rw [hclients]
        simp
      · intro hskipped
        simp at hskipped
  | cons c ys =>
      rw [List.length_cons] at hn
      have hat : r.listen.ScanAt xs c ys := by
        refine ⟨?_, hclients⟩
        rw [hpc, Listen.scanFrom, hclients]
        exact if_pos (by simp)
      obtain ⟨s', hvisit, hpc', hclients', htrace', hremoves, hfds⟩ :=
        h.visit_served cfg hat (env r.iteration)
      have hbody : scanBody cfg env r =
          some (.next ⟨s', r.iteration + 1, r.examined ++ [c]⟩) := by
        rw [scanBody, hat.pc_eq]
        dsimp only
        rw [hclients, elementAtIndex_split, hvisit]
        rfl
      -- the loop goes on behind the clients `xs'`, with `rest'` ahead
      have hgo : ∀ xs' rest', rest'.length ≤ ys.length → s'.clients = xs' ++ rest' →
          s'.pc = (s'.scanFrom xs'.length).pc →
          ∃ r' examined, loop (scanBody cfg env) (fuel + 1) r = some r' ∧
            r'.examined = r.examined ++ c :: examined ∧
            ScanResult cfg env s' (r.iteration + 1) xs' rest' examined r'.listen := by
        intro xs' rest' hlen hsplit hpc''
        obtain ⟨r', examined, hloop, hexamined, hresult⟩ := ih rest'.length (by omega)
          (r := ⟨s', r.iteration + 1, r.examined ++ [c]⟩) rfl (h.served hclients hclients') hsplit hpc''
          (by omega : rest'.length < fuel)
        refine ⟨r', examined, (loop_next hbody fuel).trans hloop, ?_, hresult⟩
        rw [hexamined, List.append_assoc]
        rfl
      cases hkept : (r.listen.served cfg c (env r.iteration)).1 with
      | some c' =>
          have hstays : ¬ r.listen.Removes cfg c (env r.iteration) := by
            rw [hremoves, hkept]
            simp
          rw [hkept, Option.toList_some] at hclients'
          obtain ⟨r', examined, hloop, hexamined, hresult⟩ := hgo (xs ++ [c']) ys (Nat.le_refl _)
            hclients' (by rw [List.length_append]; exact hpc')
          exact ⟨r', c :: examined, hloop, hexamined,
            hresult.next_served hstays hkept htrace' (hfds hstays)⟩
      | none =>
          cases ys with
          | nil =>
              have hxs : s'.clients = xs := by simpa [hkept] using hclients'
              have hend : s'.pc = (s'.scanFrom xs.length).pc := by
                rw [hpc', Listen.scanFrom, Listen.scanFrom, hxs]
                simp
              obtain ⟨r', examined, hloop, hexamined, hresult⟩ := hgo xs [] (Nat.le_refl _)
                (by simpa using hxs) hend
              exact ⟨r', c :: examined, hloop, hexamined,
                hresult.last_removed hkept htrace'⟩
          | cons c' ys =>
              have hsplit : s'.clients = xs ++ [c'] ++ ys := by simpa [hkept] using hclients'
              obtain ⟨r', examined, hloop, hexamined, hresult⟩ := hgo (xs ++ [c']) ys
                (Nat.le_succ _) hsplit (by rw [List.length_append]; exact hpc')
              exact ⟨r', c :: examined, hloop, hexamined,
                hresult.next_skipped (hremoves.2 hkept)⟩

/-- **What a scan leaves out.** One scan in which every receive call returns, whatever the clients,
    the descriptors that are ready, the clock and what is received: it ends, and it looks at every
    client that was in the list once, so that every ready client delivers or is removed as closed and
    every expired one is removed, exactly if no client but the last one is removed. -/
theorem scan_serves_all_iff (cfg : ListenConfig V) {s : Listen V} (h : s.Connected)
    (hstart : s.pc = (s.scanFrom 0).pc) (env : ℕ → Visit V) :
    ∃ r, scanLoop cfg env s = some r ∧
      ((r.examined = s.clients ∧
          r.listen.clients = s.clients.zipIdx.filterMap (s.kept cfg env) ∧
          r.listen.trace = s.trace ++ s.clients.zipIdx.flatMap (s.events cfg env)) ↔
        ∀ p ∈ s.clients.dropLast.zipIdx, ¬ s.Removes cfg p.1 (env p.2)) := by
  have hsplit : s.clients = [] ++ s.clients := rfl
  obtain ⟨r, examined, hloop, hexamined, hresult⟩ := scan_rest env (r := ⟨s, 0, []⟩) rfl
    h hsplit hstart (Nat.lt_succ_self _)
  refine ⟨r, hloop, ?_⟩
  rw [List.nil_append] at hexamined
  subst hexamined
  constructor
  · rintro ⟨hall, -, -⟩
    by_contra hskipped
    have hlt := hresult.skipped hskipped
    rw [hall] at hlt
    exact Nat.lt_irrefl _ hlt
  · exact hresult.served

/-- Two clients are accepted, and both are ready in the next round. -/
def twoReadyRun : List (ListenStep (BitVec 64)) :=
  [.select (readySds [3]), .accept 4, .visit (idleVisit 100),
    .select (readySds [3]), .accept 5, .visit (idleVisit 101), .visit (idleVisit 101),
    .select (readySds [4, 5])]

/-- The state before the scan of that round. -/
abbrev twoReady : Listen (BitVec 64) := (listenSystem exampleListen).after twoReadyRun

/-- The first client has closed; all others deliver a measurement. -/
def firstCloses : ℕ → Visit (BitVec 64)
  | 0 => closingVisit 102 true
  | _ + 1 => recordVisit ⟨15, 20, 102⟩ 102

/-- The second client is ready and is not looked at. -/
theorem scan_skips_client :
    ¬ ∀ (s : Listen (BitVec 64)), (listenSystem exampleListen).Reachable s →
      s.pc = (s.scanFrom 0).pc → ∀ env, ∃ r, scanLoop exampleListen env s = some r ∧
        r.examined = s.clients := by
  intro hall
  obtain ⟨r, hloop, hexamined⟩ := hall twoReady (StepSystem.reachable_after (by decide)) (by decide)
    firstCloses
  have hlength : (scanLoop exampleListen firstCloses twoReady).map (fun r => r.examined.length) =
      some 1 := by decide
  rw [hloop, Option.map_some, hexamined] at hlength
  exact absurd hlength (by decide)

theorem scan_serves_all_iff_first_closes :
    ∃ r, scanLoop exampleListen firstCloses twoReady = some r ∧
      ((r.examined = twoReady.clients ∧
          r.listen.clients =
            twoReady.clients.zipIdx.filterMap (twoReady.kept exampleListen firstCloses) ∧
          r.listen.trace = twoReady.trace ++
            twoReady.clients.zipIdx.flatMap (twoReady.events exampleListen firstCloses)) ↔
        ∀ p ∈ twoReady.clients.dropLast.zipIdx,
          ¬ twoReady.Removes exampleListen p.1 (firstCloses p.2)) :=
  scan_serves_all_iff exampleListen (listen_inv (StepSystem.reachable_after (by decide))).connected
    (by decide) firstCloses

end SensorGateway
