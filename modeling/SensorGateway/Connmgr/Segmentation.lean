import SensorGateway.Connmgr.Receive

set_option autoImplicit false

/-! # The connection manager and TCP segmentation

A record is received with three calls, none of which is checked for the number of bytes it returned.
So the measurements inserted for a connection are the records sent exactly if every call returns
all bytes of its field (`segmentation_harmless_iff`): the first one that does not leaves a part of
the measurement as `malloc` returned it. -/

namespace SensorGateway

variable {V : Type} {abi : Abi V} {c : Connection} {client : SensorInfo} {sd : ℤ}

/-! ## Every connection is served to its end -/

/-- How often a call on the connection can still make progress. -/
def Connection.left (c : Connection) : ℕ :=
  c.pending.length + if c.ending = .reset then 1 else 0

theorem tcpReceive_left {n : ℕ} (hn : 0 < n) {buffer : Vector UInt8 n} {t : TcpReceipt n}
    (h : tcpReceive (some (acceptedSocket sd)) buffer c = some t) :
    t.conn.left ≤ c.left ∧ (t.result = .connectionClosed ∨ t.conn.left < c.left) := by
  by_cases hpending : c.pending = []
  · rw [tcpReceive_nil hpending] at h
    cases hending : c.ending with
    | quiet =>
        rw [hending] at h
        exact absurd h nofun
    | closed =>
        rw [hending] at h
        obtain rfl := Option.some.inj h
        exact ⟨Nat.le_refl _, Or.inl rfl⟩
    | reset =>
        rw [hending] at h
        obtain rfl := Option.some.inj h
        simp [Connection.left, hending]
  · rw [tcpReceive_pending hpending] at h
    obtain rfl := Option.some.inj h
    have hlt := (Connection.length_advance hn hpending).1
    have hleft : (c.advance n).left < c.left := Nat.add_lt_add_right hlt _
    exact ⟨hleft.le, Or.inr hleft⟩

/-- A client that stays in the list keeps its socket, and its connection has made progress. -/
theorem connmgrReceive_left (hsocket : client.socket = some (acceptedSocket sd))
    {garbage : SensorData V} {r : Receipt V} (h : connmgrReceive abi client garbage c = some r)
    {client' : SensorInfo} (hclient : r.client = some client') :
    client'.socket = some (acceptedSocket sd) ∧ r.conn.left < c.left := by
  unfold connmgrReceive at h
  rw [hsocket] at h
  obtain ⟨id, hid, h⟩ := Option.bind_eq_some_iff.1 h
  obtain ⟨-, hprogress⟩ := tcpReceive_left (by decide) hid
  split at h
  · obtain rfl := Option.some.inj h
    exact absurd hclient nofun
  · next hopen =>
      have hprogress := hprogress.resolve_left hopen
      split at h
      · obtain ⟨value, hvalue, h⟩ := Option.bind_eq_some_iff.1 h
        obtain ⟨ts, hts, h⟩ := Option.bind_eq_some_iff.1 h
        have hle₁ := (tcpReceive_left (by decide) hvalue).1
        have hle₂ := (tcpReceive_left (by decide) hts).1
        split at h
        · obtain rfl := Option.some.inj h
          obtain rfl := Option.some.inj hclient
          exact ⟨rfl, by dsimp only; omega⟩
        · obtain rfl := Option.some.inj h
          obtain rfl := Option.some.inj hclient
          exact ⟨rfl, by dsimp only; omega⟩
      · obtain rfl := Option.some.inj h
        obtain rfl := Option.some.inj hclient
        exact ⟨hsocket, hprogress⟩

/-- **Serving a connection comes to an end**, and what was inserted stays inserted. -/
theorem loop_serveBody (garbage : ℕ → SensorData V) {s : Serving V}
    (hsocket : s.client.socket = some (acceptedSocket sd)) {fuel : ℕ} (hfuel : s.conn.left < fuel) :
    ∃ served, loop (serveBody abi garbage) fuel s = some served ∧
      s.served.inserted <+: served.inserted := by
  have hbody : ∀ s' : Serving V, (s'.client.socket = some (acceptedSocket sd) ∧
        s.served.inserted <+: s'.served.inserted) →
      (∃ s'', serveBody abi garbage s' = some (.next s'') ∧
        (s''.client.socket = some (acceptedSocket sd) ∧
          s.served.inserted <+: s''.served.inserted) ∧ s''.conn.left < s'.conn.left) ∨
      ∃ served, serveBody abi garbage s' = some (.exit served) ∧
        s.served.inserted <+: served.inserted := by
    rintro s' ⟨hsocket', hpre⟩
    unfold serveBody
    split
    · cases hr : connmgrReceive abi s'.client (garbage s'.rounds) s'.conn with
      | none => exact Or.inr ⟨_, rfl, hpre⟩
      | some r =>
          have hpre' := hpre.trans (List.prefix_append _ r.inserted)
          dsimp only
          cases hclient : r.client with
          | none => exact Or.inr ⟨_, rfl, hpre'⟩
          | some client =>
              obtain ⟨hsocket'', hleft⟩ := connmgrReceive_left hsocket' hr hclient
              exact Or.inl ⟨_, rfl, ⟨hsocket'', hpre'⟩, hleft⟩
    · exact Or.inr ⟨_, rfl, hpre⟩
  exact loop_total (fun s' => s'.conn.left) hbody ⟨hsocket, List.prefix_rfl⟩ hfuel

/-! ## A round with a record pending -/

/-- The measurement that three calls leave in the memory of `garbage`. -/
def arrived (abi : Abi V) (garbage : SensorData V) (c : Connection) : SensorData V where
  id := abi.id.decode (overlay (abi.id.encode garbage.id) (c.front 2))
  value := abi.value.decode (overlay (abi.value.encode garbage.value) ((c.advance 2).front 8))
  ts := abi.ts.decode (overlay (abi.ts.encode garbage.ts) (((c.advance 2).advance 8).front 8))

/-- The connection after the three calls. -/
def Connection.advanceRecord (c : Connection) : Connection := ((c.advance 2).advance 8).advance 8

/-- A record's worth of bytes is enough for a measurement to be inserted. -/
theorem connmgrReceive_long (hsocket : client.socket = some (acceptedSocket sd))
    (hlen : 18 ≤ c.pending.length) (garbage : SensorData V) :
    ∃ r, connmgrReceive abi client garbage c = some r ∧
      r.client ≠ none ∧ r.inserted = [arrived abi garbage c] ∧ r.conn = c.advanceRecord := by
  have hid : c.pending ≠ [] := List.ne_nil_of_length_pos (by omega)
  have hlen₁ := (Connection.length_advance (by decide : 0 < 2) hid).2
  have hvalue : (c.advance 2).pending ≠ [] := List.ne_nil_of_length_pos (by omega)
  have hlen₂ := (Connection.length_advance (by decide : 0 < 8) hvalue).2
  have hts : ((c.advance 2).advance 8).pending ≠ [] := List.ne_nil_of_length_pos (by omega)
  have hfront : 0 < ((c.front 2).length : ℤ) :=
    Int.natCast_pos.2 (List.length_pos_iff.2 (Connection.front_ne_nil hid))
  unfold connmgrReceive
  simp only [hsocket, tcpReceive_pending hid, tcpReceive_pending hvalue, tcpReceive_pending hts,
    Option.bind_eq_bind, Option.bind_some, reduceCtorEq, if_false, true_and, if_pos hfront]
  split
  · exact ⟨_, rfl, Option.some_ne_none _, rfl, rfl⟩
  · exact ⟨_, rfl, Option.some_ne_none _, rfl, rfl⟩

section Record

variable {m : SensorData V} {rest : List UInt8}

theorem arrived_full (hpending : c.pending = abi.record m ++ rest) (hid : 2 ≤ c.cut c.calls)
    (hvalue : 8 ≤ c.cut (c.calls + 1)) (hts : 8 ≤ c.cut (c.calls + 2)) (garbage : SensorData V) :
    arrived abi garbage c = m ∧
      c.advanceRecord = { c with pending := rest, calls := c.calls + 3 } := by
  rw [Abi.record, List.append_assoc, List.append_assoc] at hpending
  obtain ⟨hfront₁, hnext₁⟩ := Connection.front_full (by decide) hpending hid
  obtain ⟨hfront₂, hnext₂⟩ := Connection.front_full (c := c.advance 2) (by decide : 0 < 8)
    (by rw [hnext₁]) (by rw [hnext₁]; exact hvalue)
  obtain ⟨hfront₃, hnext₃⟩ := Connection.front_full (c := (c.advance 2).advance 8)
    (by decide : 0 < 8) (by rw [hnext₂]) (by rw [hnext₂, hnext₁]; exact hts)
  constructor
  · rw [arrived, hfront₁, hfront₂, hfront₃, ByteRepr.decode_overlay_full,
      ByteRepr.decode_overlay_full, ByteRepr.decode_overlay_full]
  · rw [Connection.advanceRecord, hnext₃, hnext₂, hnext₁]

/-- The measurement all of whose bytes differ from those of `m`. -/
def Abi.garble (abi : Abi V) (m : SensorData V) : SensorData V :=
  ⟨abi.id.garble m.id, abi.value.garble m.value, abi.ts.garble m.ts⟩

/-- If one of the three calls returns too few bytes, another measurement than the one sent can be
    inserted. -/
theorem arrived_short (hpending : c.pending = abi.record m ++ rest)
    (hcut : ¬ (2 ≤ c.cut c.calls ∧ 8 ≤ c.cut (c.calls + 1) ∧ 8 ≤ c.cut (c.calls + 2))) :
    arrived abi (abi.garble m) c ≠ m := by
  intro harrived
  rw [Abi.record, List.append_assoc, List.append_assoc] at hpending
  -- the first of the three calls that is short leaves a byte of the memory in its field
  by_cases hid : 2 ≤ c.cut c.calls
  · obtain ⟨-, hnext₁⟩ := Connection.front_full (by decide) hpending hid
    have hpending₁ : (c.advance 2).pending =
        abi.value.bytes m.value ++ (abi.ts.bytes m.ts ++ rest) := by rw [hnext₁]
    have hcut₁ : (c.advance 2).cut (c.advance 2).calls = c.cut (c.calls + 1) := by rw [hnext₁]
    by_cases hvalue : 8 ≤ c.cut (c.calls + 1)
    · obtain ⟨-, hnext₂⟩ := Connection.front_full (by decide) hpending₁ (by rw [hcut₁]; exact hvalue)
      obtain ⟨k, hk, hfront⟩ := Connection.front_short (c := (c.advance 2).advance 8)
        (r := abi.ts) (by decide) (by rw [hnext₂])
        (by rw [hnext₂, hnext₁]; show c.cut (c.calls + 2) < 8; omega)
      have hts := congrArg SensorData.ts harrived
      rw [arrived, hfront] at hts
      exact abi.ts.decode_overlay_short m.ts hk hts
    · obtain ⟨k, hk, hfront⟩ := Connection.front_short (by decide) hpending₁ (by omega)
      have hval := congrArg SensorData.value harrived
      rw [arrived, hfront] at hval
      exact abi.value.decode_overlay_short m.value hk hval
  · obtain ⟨k, hk, hfront⟩ := Connection.front_short (by decide) hpending (by omega)
    have hid := congrArg SensorData.id harrived
    rw [arrived, hfront] at hid
    exact abi.id.decode_overlay_short m.id hk hid

end Record

/-! ## A stream of records -/

/-- The number of bytes that call number `i` asks for, while the calls stay in step with the records. -/
def requested (i : ℕ) : ℕ := if i % 3 = 0 then 2 else 8

/-- The calls from number `k` on return all they ask for, for `n` records. -/
def GrantsAll (cut : ℕ → ℕ) (k n : ℕ) : Prop := ∀ i < 3 * n, requested i ≤ cut (k + i)

theorem grantsAll_succ {cut : ℕ → ℕ} {k n : ℕ} :
    GrantsAll cut k (n + 1) ↔
      (2 ≤ cut k ∧ 8 ≤ cut (k + 1) ∧ 8 ≤ cut (k + 2)) ∧ GrantsAll cut (k + 3) n := by
  constructor
  · intro h
    refine ⟨⟨h 0 (by omega), h 1 (by omega), h 2 (by omega)⟩, ?_⟩
    intro i hi
    have hlater := h (i + 3) (by omega)
    rw [requested, Nat.add_mod_right] at hlater
    rw [Nat.add_assoc, Nat.add_comm 3 i]
    exact hlater
  · rintro ⟨⟨h₀, h₁, h₂⟩, h⟩ i hi
    match i with
    | 0 => exact h₀
    | 1 => exact h₁
    | 2 => exact h₂
    | i + 3 =>
        have hlater := h i (by omega)
        rw [Nat.add_assoc, Nat.add_comm 3 i] at hlater
        rw [requested, Nat.add_mod_right]
        exact hlater

variable {s : Serving V} {m : SensorData V} {rest : List UInt8} {cut : ℕ → ℕ} {ending : Ending}

/-- A round with a record pending inserts one measurement. -/
theorem serveBody_record (hsocket : s.client.socket = some (acceptedSocket sd))
    (hpending : s.conn.pending = abi.record m ++ rest) (garbage : ℕ → SensorData V) :
    ∃ s', serveBody abi garbage s = some (.next s') ∧
      s'.client.socket = some (acceptedSocket sd) ∧ s'.conn.left < s.conn.left ∧
      s'.conn = s.conn.advanceRecord ∧
      s'.served.inserted = s.served.inserted ++ [arrived abi (garbage s.rounds) s.conn] := by
  have hlen : 18 ≤ s.conn.pending.length := by
    rw [hpending, List.length_append, length_record]
    omega
  obtain ⟨r, hr, hclient, hinserted, hconn⟩ : ∃ r : Receipt V, _ :=
    connmgrReceive_long hsocket hlen (garbage s.rounds)
  obtain ⟨client', hclient⟩ := Option.ne_none_iff_exists'.1 hclient
  obtain ⟨hsocket', hleft⟩ := connmgrReceive_left hsocket hr hclient
  have hreadable : s.conn.readable = true := by
    rw [Connection.readable, Bool.or_eq_true]
    exact Or.inl (decide_eq_true (List.ne_nil_of_length_pos (by omega)))
  unfold serveBody
  rw [if_pos hreadable, hr]
  dsimp only
  rw [hclient]
  exact ⟨_, rfl, hsocket', hleft, hconn, by rw [hinserted]⟩

/-- A round in which all bytes of the record arrive inserts the record. -/
theorem serveBody_record_full {ms : List (SensorData V)} {k : ℕ}
    (hsocket : s.client.socket = some (acceptedSocket sd))
    (hconn : s.conn = ⟨abi.records (m :: ms), cut, k, ending⟩)
    (hcut : 2 ≤ cut k ∧ 8 ≤ cut (k + 1) ∧ 8 ≤ cut (k + 2)) (garbage : ℕ → SensorData V) :
    ∃ s', serveBody abi garbage s = some (.next s') ∧
      s'.client.socket = some (acceptedSocket sd) ∧
      s'.conn = ⟨abi.records ms, cut, k + 3, ending⟩ ∧ s'.conn.left < s.conn.left ∧
      s'.served.inserted = s.served.inserted ++ [m] := by
  have hpending : s.conn.pending = abi.record m ++ abi.records ms := by
    rw [hconn]
    exact List.flatMap_cons
  obtain ⟨s', hbody, hsocket', hleft, hconn', hinserted⟩ :=
    serveBody_record hsocket hpending garbage
  obtain ⟨harrived, hadvance⟩ := arrived_full hpending (by rw [hconn]; exact hcut.1)
    (by rw [hconn]; exact hcut.2.1) (by rw [hconn]; exact hcut.2.2) (garbage s.rounds)
  rw [hadvance] at hconn'
  exact ⟨s', hbody, hsocket', by rw [hconn', hconn], hleft, by rw [hinserted, harrived]⟩

/-- After the last record nothing more is inserted. -/
theorem loop_serveBody_nil (hsocket : s.client.socket = some (acceptedSocket sd))
    (hpending : s.conn.pending = []) (garbage : ℕ → SensorData V) {fuel : ℕ}
    (hfuel : s.conn.left < fuel) :
    ∃ served, loop (serveBody abi garbage) fuel s = some served ∧
      served.inserted = s.served.inserted := by
  -- after a reset the client is found ready once more, so there can be a second round
  have hbody : ∀ s' : Serving V, (s'.client.socket = some (acceptedSocket sd) ∧
        s'.conn.pending = [] ∧ s'.served.inserted = s.served.inserted) →
      (∃ s'', serveBody abi garbage s' = some (.next s'') ∧
        (s''.client.socket = some (acceptedSocket sd) ∧ s''.conn.pending = [] ∧
          s''.served.inserted = s.served.inserted) ∧ s''.conn.left < s'.conn.left) ∨
      ∃ served, serveBody abi garbage s' = some (.exit served) ∧
        served.inserted = s.served.inserted := by
    rintro s' ⟨hsocket', hpending', hinserted⟩
    have hreceive := tcpReceive_nil hpending' sd (abi.id.encode (garbage s'.rounds).id)
    rw [← hsocket'] at hreceive
    unfold serveBody connmgrReceive
    cases hending : s'.conn.ending with
    | quiet =>
        rw [if_neg (by simp [Connection.readable, hpending', hending])]
        exact Or.inr ⟨_, rfl, hinserted⟩
    | closed =>
        rw [hending] at hreceive
        rw [if_pos (by simp [Connection.readable, hending]), hreceive]
        exact Or.inr ⟨_, rfl, (List.append_nil _).trans hinserted⟩
    | reset =>
        rw [hending] at hreceive
        rw [if_pos (by simp [Connection.readable, hending]), hreceive]
        refine Or.inl ⟨_, rfl, ⟨hsocket', hpending', (List.append_nil _).trans hinserted⟩, ?_⟩
        simp [Connection.left, hending]
  exact loop_total (fun s' => s'.conn.left) hbody ⟨hsocket, hpending, rfl⟩ hfuel

/-- If every call returns all it asks for, the records are inserted. -/
theorem loop_records_full (garbage : ℕ → SensorData V) {ms : List (SensorData V)} {k fuel : ℕ}
    (hsocket : s.client.socket = some (acceptedSocket sd))
    (hconn : s.conn = ⟨abi.records ms, cut, k, ending⟩) (hfuel : s.conn.left < fuel)
    (hgrants : GrantsAll cut k ms.length) :
    ∃ served, loop (serveBody abi garbage) fuel s = some served ∧
      served.inserted = s.served.inserted ++ ms := by
  induction ms generalizing s k fuel with
  | nil =>
      rw [List.append_nil]
      exact loop_serveBody_nil hsocket (by rw [hconn]; rfl) garbage hfuel
  | cons m ms ih =>
      obtain ⟨hcut, hgrants⟩ := grantsAll_succ.1 hgrants
      obtain ⟨s', hbody, hsocket', hconn', hleft, hinserted⟩ :=
        serveBody_record_full hsocket hconn hcut garbage
      obtain ⟨fuel, rfl⟩ : ∃ f, fuel = f + 1 := ⟨fuel - 1, by omega⟩
      have hfuel' : s'.conn.left < fuel := by omega
      obtain ⟨served, hloop, heq⟩ := ih hsocket' hconn' hfuel' hgrants
      refine ⟨served, (loop_next hbody fuel).trans hloop, ?_⟩
      rw [heq, hinserted, List.append_assoc]
      rfl

/-- If some call does not return all it asks for, other measurements can be inserted. -/
theorem loop_records_short (abi : Abi V) (sd : ℤ) (ending : Ending) {ms : List (SensorData V)} {k : ℕ}
    (hgrants : ¬ GrantsAll cut k ms.length) :
    ∃ garbage, ∀ (s : Serving V) (fuel : ℕ), s.client.socket = some (acceptedSocket sd) →
      s.conn = ⟨abi.records ms, cut, k, ending⟩ → s.conn.left < fuel →
      ∀ served, loop (serveBody abi garbage) fuel s = some served →
        served.inserted ≠ s.served.inserted ++ ms := by
  induction ms generalizing k with
  | nil => exact absurd (fun i hi => absurd hi (Nat.not_lt_zero i)) hgrants
  | cons m ms ih =>
      by_cases hcut : 2 ≤ cut k ∧ 8 ≤ cut (k + 1) ∧ 8 ≤ cut (k + 2)
      · -- the first call that is short is in a later record
        obtain ⟨garbage, hlater⟩ := ih fun h => hgrants (grantsAll_succ.2 ⟨hcut, h⟩)
        refine ⟨garbage, ?_⟩
        intro s fuel hsocket hconn hfuel served hloop heq
        obtain ⟨s', hbody, hsocket', hconn', hleft, hinserted⟩ :=
          serveBody_record_full hsocket hconn hcut garbage
        obtain ⟨fuel, rfl⟩ : ∃ f, fuel = f + 1 := ⟨fuel - 1, by omega⟩
        rw [loop_next hbody] at hloop
        refine hlater s' fuel hsocket' hconn' (by omega) served hloop ?_
        rw [heq, hinserted, List.append_assoc]
        rfl
      · -- the memory differs from this record in every byte
        refine ⟨fun _ => abi.garble m, ?_⟩
        intro s fuel hsocket hconn hfuel served hloop heq
        have hpending : s.conn.pending = abi.record m ++ abi.records ms := by
          rw [hconn]
          exact List.flatMap_cons
        obtain ⟨s', hbody, hsocket', hleft, -, hinserted⟩ :=
          serveBody_record hsocket hpending fun _ => abi.garble m
        obtain ⟨fuel, rfl⟩ : ∃ f, fuel = f + 1 := ⟨fuel - 1, by omega⟩
        have hfuel' : s'.conn.left < fuel := by omega
        obtain ⟨served', hloop', hpre⟩ := loop_serveBody (fun _ => abi.garble m) hsocket' hfuel'
        rw [loop_next hbody, hloop'] at hloop
        rw [Option.some.inj hloop, hinserted, heq, List.prefix_append_right_inj,
          List.cons_prefix_cons] at hpre
        exact arrived_short hpending (by rw [hconn]; exact hcut) hpre.1

theorem newSensorInfo_left (abi : Abi V) (records : List (SensorData V)) (cut : ℕ → ℕ)
    (ending : Ending) :
    (⟨abi.records records, cut, 0, ending⟩ : Connection).left
      < (abi.records records).length + 2 := by
  show (abi.records records).length + (if ending = .reset then 1 else 0) < _
  split
  · omega
  · omega

/-- **When segmentation is harmless.** Records are sent back to back on one connection, and call number
    `i` to `recv` returns at most `cut i` bytes. Whatever memory `malloc` returns for the
    measurements and whatever happens after the last record, the measurements inserted are the records
    sent, exactly if every call returns all it asks for. -/
theorem segmentation_harmless_iff (abi : Abi V) (sd : ℤ) (records : List (SensorData V))
    (cut : ℕ → ℕ) (ending : Ending) :
    (∀ garbage, ∃ served,
        connmgrServe abi garbage sd ⟨abi.records records, cut, 0, ending⟩ = some served ∧
        served.inserted = records) ↔
      ∀ i < 3 * records.length, requested i ≤ cut i := by
  have hgrants : GrantsAll cut 0 records.length ↔
      ∀ i < 3 * records.length, requested i ≤ cut i := by
    simp only [GrantsAll, Nat.zero_add]
  rw [← hgrants]
  constructor
  · intro hall
    by_contra hshort
    obtain ⟨garbage, hne⟩ := loop_records_short abi sd ending hshort
    obtain ⟨served, hserve, hinserted⟩ := hall garbage
    exact hne _ _ rfl rfl (newSensorInfo_left abi records cut ending) served hserve hinserted
  · intro hfull garbage
    exact loop_records_full garbage rfl rfl (newSensorInfo_left abi records cut ending) hfull

/-- One record whose id arrives in two pieces. -/
theorem segmentation_breaks_record :
    ¬ ∀ (records : List (SensorData (BitVec 64))) (cut : ℕ → ℕ) (ending : Ending)
      (garbage : ℕ → SensorData (BitVec 64)), ∃ served,
      connmgrServe wordAbi garbage 5 ⟨wordAbi.records records, cut, 0, ending⟩ = some served ∧
        served.inserted = records := by
  intro hall
  obtain ⟨served, hserve, hinserted⟩ :=
    hall [⟨15, 20, 100⟩] (fun _ => 1) .closed fun _ => ⟨0, 0, 0⟩
  have hlength : (connmgrServe wordAbi (fun _ => ⟨0, 0, 0⟩) 5
      ⟨wordAbi.records [⟨15, 20, 100⟩], fun _ => 1, 0, .closed⟩).map
        (fun served => served.inserted.length) = some 6 := by decide
  rw [hserve, Option.map_some, hinserted] at hlength
  exact absurd hlength (by decide)

end SensorGateway
