import SensorGateway.Connmgr.Segmentation

set_option autoImplicit false

/-! # Connections that end in the middle of a record

Only the first of the three `tcp_receive` calls for a measurement is looked at, so once a byte has
arrived a measurement is inserted, even if the connection ends before the rest of it does. A round
takes at most the 18 bytes of a record, so the bytes of a partial record behind complete ones make
one measurement too many (`truncated_record_inserted`). -/

namespace SensorGateway

variable {V : Type} {abi : Abi V} {c : Connection} {sd : ℤ}

/-- On a connection that has ended, `tcp_receive` never waits. It takes at most the bytes it asks for. -/
theorem tcpReceive_ended (sd : ℤ) {n : ℕ} (hn : 0 < n) (hending : c.ending ≠ .quiet)
    (buffer : Vector UInt8 n) :
    ∃ t, tcpReceive (some (acceptedSocket sd)) buffer c = some t ∧ t.conn.ending ≠ .quiet ∧
      c.pending.length ≤ t.conn.pending.length + n := by
  by_cases hpending : c.pending = []
  · rw [tcpReceive_nil hpending]
    cases hend : c.ending with
    | quiet => exact absurd hend hending
    | closed => exact ⟨_, rfl, hending, by simp [hpending]⟩
    | reset => exact ⟨_, rfl, by simp, by simp [hpending]⟩
  · rw [tcpReceive_pending hpending]
    exact ⟨_, rfl, hending, (Connection.length_advance hn hpending).2⟩

/-- Once a byte is there, a measurement is inserted. -/
theorem connmgrReceive_ended (abi : Abi V) {client : SensorInfo}
    (hsocket : client.socket = some (acceptedSocket sd)) (hpending : c.pending ≠ [])
    (hending : c.ending ≠ .quiet) (garbage : SensorData V) :
    ∃ r client' m, connmgrReceive abi client garbage c = some r ∧ r.client = some client' ∧
      r.inserted = [m] ∧ r.conn.ending ≠ .quiet ∧
      c.pending.length ≤ r.conn.pending.length + 18 := by
  have hfront : 0 < ((c.front 2).length : ℤ) :=
    Int.natCast_pos.2 (List.length_pos_iff.2 (Connection.front_ne_nil hpending))
  have hlen := (Connection.length_advance (by decide : 0 < 2) hpending).2
  obtain ⟨value, hvalue, hending₁, hlen₁⟩ := tcpReceive_ended sd (c := c.advance 2)
    (by decide : 0 < 8) hending (abi.value.encode garbage.value)
  obtain ⟨ts, hts, hending₂, hlen₂⟩ := tcpReceive_ended sd (c := value.conn)
    (by decide : 0 < 8) hending₁ (abi.ts.encode garbage.ts)
  have hbound : c.pending.length ≤ ts.conn.pending.length + 18 := by omega
  unfold connmgrReceive
  simp only [hsocket, tcpReceive_pending hpending, Option.bind_eq_bind, Option.bind_some,
    reduceCtorEq, if_false, true_and, if_pos hfront, hvalue, hts]
  split
  · exact ⟨_, _, _, rfl, rfl, rfl, hending₂, hbound⟩
  · exact ⟨_, _, _, rfl, rfl, rfl, hending₂, hbound⟩

/-- Every 18 bytes, and what is left over, make a measurement. -/
theorem loop_serveBody_ended (abi : Abi V) (garbage : ℕ → SensorData V) {s : Serving V}
    (hsocket : s.client.socket = some (acceptedSocket sd)) (hending : s.conn.ending ≠ .quiet) {fuel : ℕ}
    (hfuel : s.conn.left < fuel) :
    ∃ served, loop (serveBody abi garbage) fuel s = some served ∧
      s.conn.pending.length + 18 * s.served.inserted.length ≤ 18 * served.inserted.length := by
  induction fuel generalizing s with
  | zero => exact absurd hfuel (Nat.not_lt_zero _)
  | succ fuel ih =>
      by_cases hpending : s.conn.pending = []
      · obtain ⟨served, hloop, hinserted⟩ := loop_serveBody_nil hsocket hpending garbage hfuel
        refine ⟨served, hloop, ?_⟩
        rw [hpending, hinserted, List.length_nil, Nat.zero_add]
      · obtain ⟨r, client', m, hr, hclient, hinserted, hending', hlen⟩ :=
          connmgrReceive_ended abi hsocket hpending hending (garbage s.rounds)
        obtain ⟨hsocket', hleft⟩ := connmgrReceive_left hsocket hr hclient
        have hbody : serveBody abi garbage s = some (.next ⟨client', r.conn, s.rounds + 1,
            ⟨s.served.inserted ++ r.inserted, s.served.events ++ r.events⟩⟩) := by
          unfold serveBody
          rw [if_pos (by simp [Connection.readable, hending]), hr]
          dsimp only
          rw [hclient]
        obtain ⟨served, hloop, hle⟩ := ih (s := ⟨client', r.conn, s.rounds + 1,
          ⟨s.served.inserted ++ r.inserted, s.served.events ++ r.events⟩⟩) hsocket' hending'
          (by dsimp only; omega)
        refine ⟨served, (loop_next hbody fuel).trans hloop, ?_⟩
        dsimp only at hle
        rw [hinserted, List.length_append, List.length_singleton] at hle
        omega

/-- **A partial record is inserted.** Whatever complete records come first, wherever the last record is
    cut off behind its first byte, however the bytes arrive, whatever memory `malloc` returns, and
    whether the peer closes or the connection is reset: what is inserted is never the complete
    records only. -/
theorem truncated_record_inserted (abi : Abi V) (sd : ℤ) (records : List (SensorData V))
    (m : SensorData V) {k : ℕ} (hpos : 0 < k) (hlt : k < 18) (cut : ℕ → ℕ) {ending : Ending}
    (hending : ending ≠ .quiet) (garbage : ℕ → SensorData V) :
    ∃ served, connmgrServe abi garbage sd
        ⟨abi.records records ++ (abi.record m).take k, cut, 0, ending⟩ = some served ∧
      records.length < served.inserted.length ∧ served.inserted ≠ records := by
  have hlen : (abi.records records ++ (abi.record m).take k).length = 18 * records.length + k := by
    rw [List.length_append, length_records, List.length_take, length_record]
    omega
  have hfuel : (⟨abi.records records ++ (abi.record m).take k, cut, 0, ending⟩ : Connection).left <
      (abi.records records ++ (abi.record m).take k).length + 2 := by
    unfold Connection.left
    dsimp only
    split
    · omega
    · omega
  obtain ⟨served, hloop, hle⟩ := loop_serveBody_ended abi garbage (s := ⟨newSensorInfo sd,
    ⟨abi.records records ++ (abi.record m).take k, cut, 0, ending⟩, 0, ⟨[], []⟩⟩) rfl hending hfuel
  dsimp only at hle
  rw [hlen, List.length_nil] at hle
  have hmore : records.length < served.inserted.length := by omega
  refine ⟨served, hloop, hmore, ?_⟩
  rintro rfl
  exact Nat.lt_irrefl _ hmore

/-- A record of which only the id arrives before the peer closes. -/
theorem truncated_record_counterexample :
    ¬ ∀ (records : List (SensorData (BitVec 64))) (m : SensorData (BitVec 64)) (k : ℕ), 0 < k → k < 18 →
      ∀ (cut : ℕ → ℕ) (ending : Ending), ending ≠ .quiet → ∀ garbage, ∃ served,
        connmgrServe wordAbi garbage 5
          ⟨wordAbi.records records ++ (wordAbi.record m).take k, cut, 0, ending⟩ = some served ∧
        served.inserted = records := by
  intro hall
  obtain ⟨served, hserve, hinserted⟩ := hall [] ⟨15, 20, 100⟩ 2 (by decide) (by decide)
    (fun _ => 18) .closed (by decide) fun _ => ⟨0, 0, 0⟩
  have hrun : (connmgrServe wordAbi (fun _ => ⟨0, 0, 0⟩) 5
      ⟨wordAbi.records [] ++ (wordAbi.record ⟨15, 20, 100⟩).take 2, fun _ => 18, 0, .closed⟩).map
        (fun served => served.inserted) = some [⟨15, 0, 0⟩] := by decide
  rw [hserve, Option.map_some, hinserted] at hrun
  exact absurd hrun (by decide)

theorem truncated_record_inserted_id :
    ∃ served, connmgrServe wordAbi (fun _ => ⟨0, 0, 0⟩) 5
        ⟨wordAbi.records [⟨15, 20, 100⟩] ++ (wordAbi.record ⟨15, 21, 101⟩).take 2, fun _ => 18, 0,
          .reset⟩ = some served ∧
      [(⟨15, 20, 100⟩ : SensorData (BitVec 64))].length < served.inserted.length ∧
      served.inserted ≠ [⟨15, 20, 100⟩] :=
  truncated_record_inserted wordAbi 5 [⟨15, 20, 100⟩] ⟨15, 21, 101⟩ (by decide) (by decide)
    (fun _ => 18) (by decide) fun _ => ⟨0, 0, 0⟩

end SensorGateway
