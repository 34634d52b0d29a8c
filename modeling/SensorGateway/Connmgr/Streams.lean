import SensorGateway.Connmgr.Clients
import SensorGateway.Connmgr.Segmentation

set_option autoImplicit false

/-! # The streams of the clients

`Listen` leaves to the environment what the `recv` calls return. Here a visit takes its answers from
the connection of its client (`Connection.readRecord`), as `connmgrReceive` does; so what is inserted
for a connection (`Listen.received`) can be compared with what was sent on it. -/

namespace SensorGateway

variable {V : Type} {abi : Abi V} {c : Connection} {sd : ℤ}

/-! ## The answers of a connection -/

/-- What the calls of `tcp_receive` for a ready client get from its connection, and the connection
    afterwards; `none` if a call waits for bytes. -/
def Connection.readRecord (c : Connection) : Option ((ℕ → Recv) × Connection) := do
  let (id, c) ← recv 2 c
  if id.delivers = true then
    let (value, c) ← recv 8 c
    let (ts, c) ← recv 8 c
    return (fun k => [id, value, ts].getD k id, c)
  else
    return (fun _ => id, c)

/-- The measurements that a reading inserts. -/
def Reading.inserted : Reading V → List (SensorData V)
  | .measured m => [m]
  | .closed | .nothing => []

/-- A reply together with the connection afterwards. -/
def TcpReply.receipt {n : ℕ} (r : TcpReply n) (c : Connection) : TcpReceipt n :=
  ⟨r.result, r.bufSize, r.buffer, c⟩

theorem tcpReceive_recv {n : ℕ} (buffer : Vector UInt8 n) (c : Connection) (sd : ℤ) :
    tcpReceive (some (acceptedSocket sd)) buffer c = (recv n c).map fun r =>
      (tcpReceiveFrom (some (acceptedSocket sd)) buffer fun _ => r.1).receipt r.2 := by
  have hcookie : ¬ (acceptedSocket sd).cookie ≠ magicCookie := not_not_intro rfl
  simp only [tcpReceive, if_neg hcookie, tcpReceiveFrom_accepted]
  cases recv n c with
  | none => rfl
  | some r =>
      obtain ⟨answer, c'⟩ := r
      cases answer with
      | received bytes =>
          cases bytes with
          | nil => rfl
          | cons b bs => rfl
      | failed notConnected => rfl

/-- **Handling a ready client is a reading of its connection.** -/
theorem connmgrReceive_eq (abi : Abi V) {client : SensorInfo}
    (hsocket : client.socket = some (acceptedSocket sd)) (garbage : SensorData V) (c : Connection) :
    (connmgrReceive abi client garbage c).map (fun r => ((r.client, r.inserted, r.events), r.conn)) =
      c.readRecord.map fun r =>
        ((connmgrRead abi client.socket garbage fun k _ => r.1 k).outcome client, r.2) := by
  unfold connmgrReceive Connection.readRecord
  rw [hsocket]
  simp only [tcpReceive_recv, connmgrRead, tcpReceiveFrom_accepted]
  cases recv 2 c with
  | none => rfl
  | some r =>
      obtain ⟨id, c₁⟩ := r
      cases id with
      | received bytes =>
          cases bytes with
          | nil => rfl
          | cons b bs =>
              -- the id has arrived, so there are two more calls
              have hpos : (0 : ℤ) < (b :: bs).length := Int.natCast_pos.2 (by simp)
              simp only [Option.map_some, Option.bind_eq_bind, Option.bind_some, TcpReply.receipt,
                reduceCtorEq, if_false, true_and, if_pos hpos, Recv.delivers, List.isEmpty_cons,
                Bool.not_false, if_true]
              cases recv 8 c₁ with
              | none => rfl
              | some r =>
                  obtain ⟨value, c₂⟩ := r
                  simp only [Option.map_some, Option.bind_some]
                  cases recv 8 c₂ with
                  | none => rfl
                  | some r =>
                      obtain ⟨ts, c₃⟩ := r
                      by_cases hnew : client.ts = 0
                      · simp [hnew, hsocket, Reading.outcome, SensorInfo.measured, SensorInfo.announced]
                      · simp [hnew, hsocket, Reading.outcome, SensorInfo.measured, SensorInfo.announced]
      | failed notConnected =>
          cases notConnected with
          | true => rfl
          | false => rfl

/-! ## Streams of records -/

/-- Every call returns all it asks for, while the calls stay in step with the records. -/
def Connection.Whole (c : Connection) : Prop := ∀ i, requested i ≤ c.cut i

theorem recv_pending {size : ℕ} (h : c.pending ≠ []) :
    recv size c = some (.received (c.front size), c.advance size) := by
  rw [recv, if_neg h]

theorem tcpReceiveFrom_bytes {n : ℕ} (sd : ℤ) (buffer : Vector UInt8 n) {bytes : List UInt8}
    (hne : bytes ≠ []) :
    tcpReceiveFrom (some (acceptedSocket sd)) buffer (fun _ => .received bytes) =
      ⟨.noError, bytes.length, overlay buffer bytes⟩ := by
  obtain ⟨b, bs, rfl⟩ := List.exists_cons_of_ne_nil hne
  rw [tcpReceiveFrom_accepted]

theorem bytes_ne_nil {n : ℕ} {α : Type} (r : ByteRepr n α) (hn : 0 < n) (a : α) :
    r.bytes a ≠ [] := by
  rw [← List.length_pos_iff, r.length_bytes]
  exact hn

/-- A record that is there is read. -/
theorem Connection.Whole.readRecord_record (h : c.Whole) (hcalls : 3 ∣ c.calls) {m : SensorData V}
    {rest : List UInt8} (hpending : c.pending = abi.record m ++ rest) (sd : ℤ)
    (garbage : SensorData V) :
    ∃ answers, c.readRecord = some (answers, { c with pending := rest, calls := c.calls + 3 }) ∧
      connmgrRead abi (some (acceptedSocket sd)) garbage (fun k _ => answers k) = .measured m := by
  obtain ⟨n, hn⟩ := hcalls
  have hcut : 2 ≤ c.cut c.calls ∧ 8 ≤ c.cut (c.calls + 1) ∧ 8 ≤ c.cut (c.calls + 2) := by
    have h₀ := h c.calls
    have h₁ := h (c.calls + 1)
    have h₂ := h (c.calls + 2)
    rw [requested, if_pos (by omega)] at h₀
    rw [requested, if_neg (by omega)] at h₁ h₂
    exact ⟨h₀, h₁, h₂⟩
  rw [Abi.record, List.append_assoc, List.append_assoc] at hpending
  have hid := bytes_ne_nil abi.id (by decide) m.id
  have hvalue := bytes_ne_nil abi.value (by decide) m.value
  have hts := bytes_ne_nil abi.ts (by decide) m.ts
  obtain ⟨hfront₁, hnext₁⟩ := front_full (by decide : 0 < 2) hpending hcut.1
  obtain ⟨hfront₂, hnext₂⟩ := front_full (c := c.advance 2) (by decide : 0 < 8) (by rw [hnext₁])
    (by rw [hnext₁]; exact hcut.2.1)
  obtain ⟨hfront₃, hnext₃⟩ := front_full (c := (c.advance 2).advance 8) (by decide : 0 < 8)
    (by rw [hnext₂]) (by rw [hnext₂, hnext₁]; exact hcut.2.2)
  have hrecv₁ : recv 2 c = some (.received (abi.id.bytes m.id), c.advance 2) := by
    rw [recv_pending (by rw [hpending]; simp [hid]), hfront₁]
  have hrecv₂ : recv 8 (c.advance 2) =
      some (.received (abi.value.bytes m.value), (c.advance 2).advance 8) := by
    rw [recv_pending (by rw [hnext₁]; simp [hvalue]), hfront₂]
  have hrecv₃ : recv 8 ((c.advance 2).advance 8) =
      some (.received (abi.ts.bytes m.ts), ((c.advance 2).advance 8).advance 8) := by
    rw [recv_pending (by rw [hnext₂]; simp [hts]), hfront₃]
  have hdelivers : (Recv.received (abi.id.bytes m.id)).delivers = true := by
    simp [Recv.delivers, hid]
  refine ⟨fun k => [.received (abi.id.bytes m.id), .received (abi.value.bytes m.value),
    .received (abi.ts.bytes m.ts)].getD k (.received (abi.id.bytes m.id)), ?_, ?_⟩
  · simp only [Connection.readRecord, hrecv₁, hrecv₂, hrecv₃, hdelivers, Option.bind_eq_bind,
      Option.bind_some, if_true]
    rw [hnext₃, hnext₂, hnext₁]
    rfl
  · have hpos : (0 : ℤ) < (abi.id.bytes m.id).length :=
      Int.natCast_pos.2 (List.length_pos_iff.2 hid)
    simp only [connmgrRead, List.getD_cons_zero, List.getD_cons_succ, tcpReceiveFrom_bytes sd _ hid,
      tcpReceiveFrom_bytes sd _ hvalue, tcpReceiveFrom_bytes sd _ hts, reduceCtorEq, if_false,
      true_and, if_pos hpos, ByteRepr.decode_overlay_full]

/-- After the last record nothing is read. -/
theorem Connection.readRecord_nil (abi : Abi V) (hpending : c.pending = [])
    {answers : ℕ → Recv} {c' : Connection}
    (h : c.readRecord = some (answers, c')) (sd : ℤ) (garbage : SensorData V) :
    c'.pending = [] ∧ c'.calls = c.calls ∧ c'.cut = c.cut ∧
      (connmgrRead abi (some (acceptedSocket sd)) garbage fun k _ => answers k).inserted = [] := by
  have hread : ∀ answer : Recv, answer.delivers = false →
      (connmgrRead abi (some (acceptedSocket sd)) garbage fun _ _ => answer).inserted = [] := by
    intro answer hanswer
    have hnone := (connmgrRead_accepted abi sd garbage fun _ _ => answer).2
    cases hr : connmgrRead abi (some (acceptedSocket sd)) garbage fun _ _ => answer with
    | closed | nothing => rfl
    | measured m =>
        rw [hnone.1 ⟨m, hr⟩] at hanswer
        exact absurd hanswer (by simp)
  unfold Connection.readRecord recv at h
  rw [if_pos hpending] at h
  cases hending : c.ending with
  | quiet =>
      simp [hending] at h
  | closed =>
      simp only [hending, Option.bind_eq_bind, Option.bind_some, Recv.delivers, List.isEmpty_nil,
        Bool.not_true, Bool.false_eq_true, if_false, Option.pure_def, Option.some.injEq,
        Prod.mk.injEq] at h
      obtain ⟨rfl, rfl⟩ := h
      exact ⟨hpending, rfl, rfl, hread _ rfl⟩
  | reset =>
      simp only [hending, Option.bind_eq_bind, Option.bind_some, Recv.delivers, Bool.false_eq_true,
        if_false, Option.pure_def, Option.some.injEq, Prod.mk.injEq] at h
      obtain ⟨rfl, rfl⟩ := h
      exact ⟨hpending, rfl, rfl, hread _ rfl⟩

/-- A connection on which `received` was read of the records `sent`: what is left is the others. -/
structure Connection.Delivers (abi : Abi V) (cut : ℕ → ℕ) (c : Connection)
    (received sent : List (SensorData V)) : Prop where
  cut_eq : c.cut = cut
  calls : 3 ∣ c.calls
  split : ∃ rest, c.pending = abi.records rest ∧ received ++ rest = sent

section Delivers

variable {cut : ℕ → ℕ} {received sent : List (SensorData V)}

theorem Connection.Delivers.send (h : c.Delivers abi cut received sent) (m : SensorData V) :
    ({ c with pending := c.pending ++ abi.record m } : Connection).Delivers abi cut received
      (sent ++ [m]) := by
  obtain ⟨rest, hpending, rfl⟩ := h.split
  refine ⟨h.cut_eq, h.calls, rest ++ [m], ?_, (List.append_assoc ..).symm⟩
  simp [hpending, Abi.records]

theorem Connection.Delivers.hangUp (h : c.Delivers abi cut received sent) (ending : Ending) :
    ({ c with ending } : Connection).Delivers abi cut received sent :=
  ⟨h.cut_eq, h.calls, h.split⟩

/-- What is read is the next record, if there is one. -/
theorem Connection.Delivers.read (h : c.Delivers abi cut received sent)
    (hwhole : ∀ i, requested i ≤ cut i) {answers : ℕ → Recv} {c' : Connection}
    (hread : c.readRecord = some (answers, c')) (sd : ℤ) (garbage : SensorData V) :
    c'.Delivers abi cut (received ++
      (connmgrRead abi (some (acceptedSocket sd)) garbage fun k _ => answers k).inserted) sent := by
  obtain ⟨rest, hpending, hsent⟩ := h.split
  cases rest with
  | nil =>
      obtain ⟨hpending', hcalls, hcut, hinserted⟩ :=
        Connection.readRecord_nil abi hpending hread sd garbage
      refine ⟨hcut.trans h.cut_eq, hcalls ▸ h.calls, [], hpending', ?_⟩
      rw [hinserted, List.append_nil, hsent]
  | cons m rest =>
      have hwhole' : c.Whole := fun i => by rw [h.cut_eq]; exact hwhole i
      obtain ⟨answers', hread', hmeasured⟩ := hwhole'.readRecord_record h.calls
        (hpending.trans (abi.records_cons m rest)) sd garbage
      obtain ⟨rfl, rfl⟩ := Prod.mk.inj (Option.some.inj (hread.symm.trans hread'))
      refine ⟨h.cut_eq, (Nat.dvd_add_self_right).2 h.calls, rest, rfl, ?_⟩
      rw [hmeasured, Reading.inserted, List.append_assoc]
      exact hsent

end Delivers

/-! ## What was received -/

/-- The measurements that were inserted for a connection. -/
def Listen.received (s : Listen V) (conn : ℕ) : List (SensorData V) :=
  (s.history conn).flatMap ConnEvent.inserted

/-- The measurements that were inserted in the buffer, in order, each with its connection. -/
def Listen.receivedFrom (s : Listen V) : List (ℕ × SensorData V) :=
  s.trace.flatMap fun e => e.2.inserted.map fun m => (e.1, m)

theorem receivedFrom_snd (s : Listen V) : s.receivedFrom.map Prod.snd = s.inserted := by
  rw [Listen.receivedFrom, Listen.inserted, List.map_flatMap]
  simp

theorem historyOf_receivedFrom (s : Listen V) (conn : ℕ) :
    historyOf s.receivedFrom conn = s.received conn := by
  unfold Listen.receivedFrom Listen.received Listen.history
  induction s.trace with
  | nil => rfl
  | cons e trace ih =>
      have htag : historyOf (e.2.inserted.map fun m => (e.1, m)) conn =
          if e.1 = conn then e.2.inserted else [] := by
        by_cases he : e.1 = conn
        · simp [historyOf, he, List.filter_map, Function.comp_def]
        · simp [historyOf, he, List.filter_map, Function.comp_def]
      unfold historyOf at ih htag ⊢
      rw [List.flatMap_cons, List.filter_append, List.map_append, ih, htag]
      by_cases he : e.1 = conn
      · rw [if_pos he, List.filter_cons_of_pos (by simpa using he)]
        rfl
      · rw [if_neg he, List.filter_cons_of_neg (by simpa using he)]
        rfl

section Received

variable {cfg : ListenConfig V} {s s' : Listen V} {l : ListenStep V}

theorem received_record {conn : ℕ} {event : ConnEvent V}
    (htrace : s'.trace = s.trace ++ [(conn, event)]) (k : ℕ) :
    s'.received k = s.received k ++ if k = conn then event.inserted else [] := by
  unfold Listen.received Listen.history
  rw [htrace]
  by_cases hk : k = conn
  · rw [hk, historyOf_concat_self, List.flatMap_append, List.flatMap_singleton, if_pos rfl]
  · rw [historyOf_concat_ne (Ne.symm hk), if_neg hk, List.append_nil]

/-- Only the visit of a ready client receives something. -/
theorem ListenMove.received_idle (hm : ListenMove cfg s l s')
    (hidle : ∀ v client, l = .visit v → s.current = some client → client.info.sd ∉ s.readFds) (k : ℕ) :
    s'.received k = s.received k := by
  have hnothing : ∀ {conn : ℕ} {event : ConnEvent V}, event.inserted = [] →
      s'.trace = s.trace ++ [(conn, event)] → s'.received k = s.received k := by
    intro conn event hevent htrace
    rw [received_record htrace k, hevent, ite_self, List.append_nil]
  cases hm with
  | silent | connecting | scanning | pass | leave => rfl
  | accept sd => exact hnothing rfl rfl
  | closed v xs c ys hat hready => exact absurd hready (hidle v c rfl hat.current_eq)
  | measured v xs c ys m hat hready => exact absurd hready (hidle v c rfl hat.current_eq)
  | expired v => exact hnothing rfl rfl

/-- **What the visit of a ready client receives** is what is read from its connection. -/
theorem ListenMove.received_visit {v : Visit V} (hm : ListenMove cfg s (.visit v) s')
    (hinv : s.Inv cfg) {client : Client} (hcurrent : s.current = some client)
    (hready : client.info.sd ∈ s.readFds) (k : ℕ) :
    s'.received k = s.received k ++ if k = client.conn then
      (connmgrRead cfg.abi (some (acceptedSocket client.info.sd)) v.garbage v.answer).inserted
      else [] := by
  have hat : ∀ {xs ys : List Client} {c : Client}, s.ScanAt xs c ys →
      c = client ∧ client.info.socket = some (acceptedSocket client.info.sd) := by
    intro xs ys c hat
    obtain rfl := Option.some.inj (hat.current_eq.symm.trans hcurrent)
    exact ⟨rfl, hinv.socket c hat.mem⟩
  have hread := connmgrRead_accepted cfg.abi client.info.sd v.garbage v.answer
  cases hm with
  | closed v xs c ys hat' _ hcloses =>
      obtain ⟨rfl, -⟩ := hat hat'
      rw [hread.1.2 hcloses]
      refine (received_record (s := s) rfl k).trans ?_
      rfl
  | measured v xs c ys m hat' _ hmeasured =>
      obtain ⟨rfl, hsocket⟩ := hat hat'
      rw [← hsocket, hmeasured]
      refine (received_record (s := s) rfl k).trans ?_
      rfl
  | expired v xs c ys hat' hexpired =>
      obtain ⟨rfl, -⟩ := hat hat'
      exact absurd hready hexpired.1
  | pass v xs c ys hat' hnothing =>
      obtain ⟨rfl, -⟩ := hat hat'
      have hinserted :
          (connmgrRead cfg.abi (some (acceptedSocket c.info.sd)) v.garbage v.answer).inserted = [] := by
        cases hr : connmgrRead cfg.abi (some (acceptedSocket c.info.sd)) v.garbage v.answer with
        | closed | nothing => rfl
        | measured m =>
            exact absurd (hread.2.1 ⟨m, hr⟩) (by rw [hnothing hready]; simp)
      rw [hinserted, ite_self, List.append_nil]
      rfl

end Received

end SensorGateway
