import Mathlib.Data.Nat.Notation

set_option autoImplicit false

/-! # Loops with exits

An imperative loop whose body either continues with a new state or leaves the loop with a result,
run under an iteration budget (`fuel`). A body that faults (`none`) makes the loop fault, and so
does a loop that exhausts its budget, so `loop body fuel s = some r` says that the loop *terminates*
with `r`. `loop_total` is the rule for total correctness: an invariant, a natural measure that drops
with every iteration, and a postcondition on exit. -/

variable {σ ρ : Type}

/-- What one execution of a loop body does: continue with the next state, or leave the loop. -/
inductive LoopStep (σ ρ : Type) where
  | next (s : σ)
  | exit (r : ρ)

/-- Iterate `body` from `s`, at most `fuel` times. -/
def loop (body : σ → Option (LoopStep σ ρ)) : ℕ → σ → Option ρ
  | 0, _ => none
  | fuel + 1, s =>
      match body s with
      | none => none
      | some (.next s') => loop body fuel s'
      | some (.exit r) => some r

theorem loop_next {body : σ → Option (LoopStep σ ρ)} {s s' : σ} (h : body s = some (.next s'))
    (fuel : ℕ) : loop body (fuel + 1) s = loop body fuel s' := by
  rw [loop, h]

theorem loop_exit {body : σ → Option (LoopStep σ ρ)} {s : σ} {r : ρ} (h : body s = some (.exit r))
    (fuel : ℕ) : loop body (fuel + 1) s = some r := by
  rw [loop, h]

/-- **Total correctness of a loop.** If every state of the invariant either steps to a state of the
    invariant with a smaller measure or exits with `Post`, the loop exits with `Post` within any
    budget above the measure. -/
theorem loop_total {body : σ → Option (LoopStep σ ρ)} {Inv : σ → Prop} {Post : ρ → Prop}
    (measure : σ → ℕ)
    (hbody : ∀ s, Inv s →
      (∃ s', body s = some (.next s') ∧ Inv s' ∧ measure s' < measure s) ∨
      (∃ r, body s = some (.exit r) ∧ Post r))
    {fuel : ℕ} {s : σ} (hs : Inv s) (hfuel : measure s < fuel) :
    ∃ r, loop body fuel s = some r ∧ Post r := by
  induction fuel generalizing s with
  | zero => exact absurd hfuel (Nat.not_lt_zero _)
  | succ fuel ih =>
      rcases hbody s hs with ⟨s', hnext, hs', hlt⟩ | ⟨r, hexit, hr⟩
      · rw [loop_next hnext]
        exact ih hs' (by omega)
      · exact ⟨r, loop_exit hexit fuel, hr⟩

/-! ## The states of a loop -/

/-- The loop that starts in `s₀` executes its body in `s`. -/
inductive LoopVisits (body : σ → Option (LoopStep σ ρ)) (s₀ : σ) : σ → Prop where
  | start : LoopVisits body s₀ s₀
  | next {s s' : σ} : LoopVisits body s₀ s → body s = some (.next s') → LoopVisits body s₀ s'

/-- **The invariant rule of loops.** What holds at the start and is kept by every iteration that goes
    on holds whenever the body is executed. -/
theorem LoopVisits.invariant {body : σ → Option (LoopStep σ ρ)} {s₀ : σ} (Inv : σ → Prop)
    (hstart : Inv s₀) (hbody : ∀ s s', Inv s → body s = some (.next s') → Inv s') {s : σ}
    (h : LoopVisits body s₀ s) : Inv s := by
  induction h with
  | start => exact hstart
  | next _ hnext ih => exact hbody _ _ ih hnext

/-- A loop executes its body where it starts, and where the loop goes on from the next state. -/
theorem loopVisits_iff {body : σ → Option (LoopStep σ ρ)} {s₀ s : σ} :
    LoopVisits body s₀ s ↔ s = s₀ ∨ ∃ s₁, body s₀ = some (.next s₁) ∧ LoopVisits body s₁ s := by
  constructor
  · intro h
    induction h with
    | start => exact Or.inl rfl
    | next hvisits hnext ih =>
        rcases ih with rfl | ⟨s₁, hs₁, hrest⟩
        · exact Or.inr ⟨_, hnext, .start⟩
        · exact Or.inr ⟨s₁, hs₁, hrest.next hnext⟩
  · rintro (rfl | ⟨s₁, hs₁, hrest⟩)
    · exact .start
    · exact hrest.invariant (LoopVisits body s₀) (LoopVisits.start.next hs₁) fun _ _ => .next

/-- The loop that starts in `s` returns `r`, within whatever budget. -/
inductive LoopReturns (body : σ → Option (LoopStep σ ρ)) : σ → ρ → Prop where
  | exit {s : σ} {r : ρ} : body s = some (.exit r) → LoopReturns body s r
  | next {s s' : σ} {r : ρ} : body s = some (.next s') → LoopReturns body s' r → LoopReturns body s r

theorem LoopReturns.of_loop {body : σ → Option (LoopStep σ ρ)} {fuel : ℕ} {s : σ} {r : ρ}
    (h : loop body fuel s = some r) : LoopReturns body s r := by
  induction fuel generalizing s with
  | zero => exact absurd h (by simp [loop])
  | succ fuel ih =>
      rw [loop] at h
      split at h
      · exact absurd h (by simp)
      · next s' hnext => exact .next hnext (ih h)
      · next r' hexit =>
          obtain rfl := Option.some.inj h
          exact .exit hexit

/-- Wherever a loop that returns executes its body, the rest of the loop returns the same. -/
theorem LoopVisits.returns {body : σ → Option (LoopStep σ ρ)} {s₀ s : σ} {r : ρ}
    (h : LoopVisits body s₀ s) (hr : LoopReturns body s₀ r) : LoopReturns body s r := by
  refine h.invariant (fun s => LoopReturns body s r) hr ?_
  intro s s' hs hnext
  cases hs with
  | exit hexit => exact absurd (hexit.symm.trans hnext) (by simp)
  | next hnext' hs' =>
      obtain rfl := LoopStep.next.inj (Option.some.inj (hnext'.symm.trans hnext))
      exact hs'

/-- A loop that returns executes its body without a fault. -/
theorem LoopVisits.body_ne_none {body : σ → Option (LoopStep σ ρ)} {s₀ s : σ}
    (h : LoopVisits body s₀ s) {fuel : ℕ} {r : ρ} (hloop : loop body fuel s₀ = some r) :
    body s ≠ none := by
  cases h.returns (.of_loop hloop) with
  | exit hexit => simp [hexit]
  | next hnext _ => simp [hnext]

/-! ## Refinement -/

section Refinement

variable {τ κ : Type}

/-- A step, with other names for states and results. -/
def LoopStep.map (f : σ → τ) (g : ρ → κ) : LoopStep σ ρ → LoopStep τ κ
  | .next s => .next (f s)
  | .exit r => .exit (g r)

/-- **Refinement of loops.** If the body of one loop does to `f s` what that of another does to `s`,
    the loops do so too. -/
theorem loop_map {body : σ → Option (LoopStep σ ρ)} {body' : τ → Option (LoopStep τ κ)} {f : σ → τ}
    {g : ρ → κ} (h : ∀ s, body' (f s) = (body s).map (LoopStep.map f g)) (fuel : ℕ) (s : σ) :
    loop body' fuel (f s) = (loop body fuel s).map g := by
  induction fuel generalizing s with
  | zero => rfl
  | succ fuel ih =>
      cases hbody : body s with
      | none => rw [loop, loop, h, hbody]; rfl
      | some step =>
          cases step with
          | next s' =>
              rw [loop_next (hbody ▸ h s), loop_next hbody]
              exact ih s'
          | exit r =>
              rw [loop_exit (hbody ▸ h s), loop_exit hbody]
              rfl

theorem LoopReturns.map {body : σ → Option (LoopStep σ ρ)} {body' : τ → Option (LoopStep τ κ)}
    {f : σ → τ} {g : ρ → κ} (h : ∀ s, body' (f s) = (body s).map (LoopStep.map f g)) {s : σ} {r : ρ}
    (hr : LoopReturns body s r) : LoopReturns body' (f s) (g r) := by
  induction hr with
  | exit hexit => exact .exit (by rw [h, hexit]; rfl)
  | next hnext _ ih => exact .next (by rw [h, hnext]; rfl) ih

end Refinement
