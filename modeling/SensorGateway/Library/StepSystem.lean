import Mathlib.Data.List.Induction

set_option autoImplicit false

/-! # Labelled step systems

A system is an initial state and an executable step function. The label of a step carries every
choice that the program does not make itself (which thread runs, the block an allocator returns, the
outcome of a call to the environment), so a run is a list of labels and its execution is a function.
`step s l = none` says that `l` is not possible in `s`.

`run_induction` packages the induction over runs once: what holds of the empty run and is kept by
appending one step holds of every run. Invariants (`Reachable.invariant`) and forward simulations
(`Reachable.simulate`) are its two instances. -/

/-- A deterministic labelled transition system with an executable step. -/
structure StepSystem (σ ι : Type) where
  init : σ
  step : σ → ι → Option σ

namespace StepSystem

variable {σ ι τ κ : Type} (T : StepSystem σ ι)

/-- Execute a list of labels from `s`. -/
def exec : σ → List ι → Option σ
  | s, [] => some s
  | s, l :: ls => (T.step s l).bind fun s' => exec s' ls

/-- The states some run from the initial state ends in. -/
def Reachable (s : σ) : Prop := ∃ ls, T.exec T.init ls = some s

/-- The state the run `ls` ends in (the initial state if `ls` is not a run). -/
def after (ls : List ι) : σ := (T.exec T.init ls).getD T.init

/-- Every step of the execution of `ls` from `s` meets `P` (a condition on the state before the step
    and the label). -/
def AllSteps (P : σ → ι → Prop) : σ → List ι → Prop
  | _, [] => True
  | s, l :: ls => P s l ∧ ∀ s', T.step s l = some s' → AllSteps P s' ls

variable {T}

@[simp] theorem exec_nil (s : σ) : T.exec s [] = some s := rfl

theorem exec_cons (s : σ) (l : ι) (ls : List ι) :
    T.exec s (l :: ls) = (T.step s l).bind fun s' => T.exec s' ls := rfl

theorem exec_eq_foldlM (s : σ) (ls : List ι) : T.exec s ls = ls.foldlM T.step s := by
  induction ls generalizing s with
  | nil => rfl
  | cons l ls ih =>
      rw [exec_cons, List.foldlM_cons]
      exact congrArg (Option.bind (T.step s l)) (funext ih)

theorem exec_append (s : σ) (ls ls' : List ι) :
    T.exec s (ls ++ ls') = (T.exec s ls).bind fun s' => T.exec s' ls' := by
  induction ls generalizing s with
  | nil => rfl
  | cons l ls ih =>
      simp only [List.cons_append, exec_cons]
      cases T.step s l with
      | none => rfl
      | some s' => exact ih s'

theorem exec_concat {s s' s'' : σ} {ls : List ι} {l : ι} (h : T.exec s ls = some s')
    (hstep : T.step s' l = some s'') : T.exec s (ls ++ [l]) = some s'' := by
  simp [exec_append, h, exec_cons, hstep]

theorem exec_concat_inv {s s'' : σ} {ls : List ι} {l : ι} (h : T.exec s (ls ++ [l]) = some s'') :
    ∃ s', T.exec s ls = some s' ∧ T.step s' l = some s'' := by
  rw [exec_append] at h
  obtain ⟨s', hs', h⟩ := Option.bind_eq_some_iff.1 h
  refine ⟨s', hs', ?_⟩
  simpa [exec_cons, Option.bind_eq_some_iff] using h

/-- **Induction over runs**, one step at a time from the end. -/
theorem exec_induction {s₀ : σ} {motive : List ι → σ → Prop} (nil : motive [] s₀)
    (concat : ∀ ls s l s', T.exec s₀ ls = some s → motive ls s → T.step s l = some s' →
      motive (ls ++ [l]) s')
    {ls : List ι} {s : σ} (h : T.exec s₀ ls = some s) : motive ls s := by
  induction ls using List.reverseRecOn generalizing s with
  | nil =>
      obtain rfl : s₀ = s := by simpa using h
      exact nil
  | append_singleton ls l ih =>
      obtain ⟨s', hs', hstep⟩ := exec_concat_inv h
      exact concat ls s' l s hs' (ih hs') hstep

/-- Induction over the runs from the initial state. -/
theorem run_induction {motive : List ι → σ → Prop} (nil : motive [] T.init)
    (concat : ∀ ls s l s', T.exec T.init ls = some s → motive ls s → T.step s l = some s' →
      motive (ls ++ [l]) s')
    {ls : List ι} {s : σ} (h : T.exec T.init ls = some s) : motive ls s :=
  exec_induction nil concat h

theorem exec_after {ls : List ι} (h : (T.exec T.init ls).isSome = true) :
    T.exec T.init ls = some (T.after ls) := by
  obtain ⟨s, hs⟩ := Option.isSome_iff_exists.1 h
  simp [after, hs]

theorem reachable_after {ls : List ι} (h : (T.exec T.init ls).isSome = true) :
    T.Reachable (T.after ls) := ⟨ls, exec_after h⟩

theorem Reachable.init : T.Reachable T.init := ⟨[], rfl⟩

theorem Reachable.step {s s' : σ} {l : ι} (h : T.Reachable s) (hstep : T.step s l = some s') :
    T.Reachable s' := by
  obtain ⟨ls, hls⟩ := h
  exact ⟨ls ++ [l], exec_concat hls hstep⟩

theorem Reachable.exec {s s' : σ} {ls : List ι} (h : T.Reachable s) (hs : T.exec s ls = some s') :
    T.Reachable s' := by
  obtain ⟨ls₀, hls₀⟩ := h
  refine ⟨ls₀ ++ ls, ?_⟩
  rw [exec_append, hls₀]
  exact hs

/-- An invariant of the initial state and of every step holds of every reachable state. -/
theorem Reachable.invariant (Inv : σ → Prop) (hinit : Inv T.init)
    (hstep : ∀ s l s', Inv s → T.step s l = some s' → Inv s')
    {s : σ} (h : T.Reachable s) : Inv s := by
  obtain ⟨ls, hls⟩ := h
  exact run_induction (motive := fun _ s => Inv s) hinit (fun _ s l s' _ => hstep s l s') hls

/-- The same, where what is known of reachable states helps the step. -/
theorem Reachable.strengthen (Inv : σ → Prop) (hinit : Inv T.init)
    (hstep : ∀ s l s', T.Reachable s → Inv s → T.step s l = some s' → Inv s')
    {s : σ} (h : T.Reachable s) : Inv s :=
  (h.invariant (fun s => T.Reachable s ∧ Inv s) ⟨Reachable.init, hinit⟩
    fun s l s' hs hs' => ⟨hs.1.step hs', hstep s l s' hs.1 hs.2 hs'⟩).2

/-- **Forward simulation.** If `R` relates the initial states and every step of `T` is matched by
    zero or more steps of `U`, every reachable state of `T` is related to a reachable one of `U`. -/
theorem Reachable.simulate {U : StepSystem τ κ} {R : σ → τ → Prop} (hinit : R T.init U.init)
    (hstep : ∀ s t l s', R s t → T.step s l = some s' → ∃ ks t', U.exec t ks = some t' ∧ R s' t')
    {s : σ} (h : T.Reachable s) : ∃ t, U.Reachable t ∧ R s t := by
  refine Reachable.invariant (fun s => ∃ t, U.Reachable t ∧ R s t)
    ⟨U.init, Reachable.init, hinit⟩ ?_ h
  rintro s l s' ⟨t, ht, hR⟩ hs'
  obtain ⟨ks, t', hks, hR'⟩ := hstep s t l s' hR hs'
  exact ⟨t', ht.exec hks, hR'⟩

/-! ## Lockstep -/

section Rel

variable {R : σ → τ → Prop} {s : σ} {t : τ} {x : Option σ} {y : Option τ}

theorem eq_none_of_rel (h : Option.Rel R x none) : x = none := by
  cases h
  rfl

theorem exists_of_rel_some (h : Option.Rel R x (some t)) : ∃ s, x = some s ∧ R s t := by
  cases h with
  | some hR => exact ⟨_, rfl, hR⟩

theorem exists_of_some_rel (h : Option.Rel R (some s) y) : ∃ t, y = some t ∧ R s t := by
  cases h with
  | some hR => exact ⟨_, rfl, hR⟩

end Rel

/-- **Lockstep.** If for every label that meets `P` related states both take a step, to related states
    again, or neither takes one, the same holds of runs. -/
theorem exec_lockstep {U : StepSystem τ κ} {R : σ → τ → Prop} {P : σ → ι → Prop} {f : ι → κ}
    (hstep : ∀ s t l, R s t → P s l → Option.Rel R (T.step s l) (U.step t (f l))) {s : σ} {t : τ}
    {ls : List ι} (hR : R s t) (hP : T.AllSteps P s ls) :
    Option.Rel R (T.exec s ls) (U.exec t (ls.map f)) := by
  induction ls generalizing s t with
  | nil => exact .some hR
  | cons l ls ih =>
      have hrel := hstep s t l hR hP.1
      rw [List.map_cons, exec_cons, exec_cons]
      cases hs : T.step s l with
      | none =>
          cases ht : U.step t (f l) with
          | none => exact .none
          | some t' => simp [hs, ht] at hrel
      | some s' =>
          rw [hs] at hrel
          obtain ⟨t', ht, hR'⟩ := exists_of_some_rel hrel
          rw [ht]
          exact ih hR' (hP.2 s' hs)

/-! ## Conditions on all steps -/

theorem allSteps_concat {P : σ → ι → Prop} {s s' : σ} {ls : List ι} {l : ι}
    (h : T.exec s ls = some s') :
    T.AllSteps P s (ls ++ [l]) ↔ T.AllSteps P s ls ∧ P s' l := by
  induction ls generalizing s with
  | nil =>
      obtain rfl : s = s' := by simpa using h
      simp [AllSteps]
  | cons l₀ ls ih =>
      obtain ⟨s₁, hs₁, hrest⟩ := Option.bind_eq_some_iff.1 h
      simp only [List.cons_append, AllSteps, hs₁, Option.some.injEq, forall_eq', ih hrest, and_assoc]

theorem AllSteps.of_append {P : σ → ι → Prop} {s : σ} {ls ls' : List ι}
    (h : T.AllSteps P s (ls ++ ls')) : T.AllSteps P s ls := by
  induction ls generalizing s with
  | nil => trivial
  | cons l ls ih => exact ⟨h.1, fun s' hs' => ih (h.2 s' hs')⟩

/-- What every possible step meets, every step of a run meets. -/
theorem AllSteps.of_exec {P : σ → ι → Prop} (hP : ∀ s l s', T.step s l = some s' → P s l) {s s' : σ}
    {ls : List ι} (h : T.exec s ls = some s') : T.AllSteps P s ls := by
  induction ls generalizing s with
  | nil => trivial
  | cons l ls ih =>
      obtain ⟨s₁, hs₁, hrest⟩ := Option.bind_eq_some_iff.1 h
      refine ⟨hP s l s₁ hs₁, fun s₂ hs₂ => ih ?_⟩
      rw [← Option.some.inj (hs₁.symm.trans hs₂)]
      exact hrest

/-- **Characterising a condition on all steps by the last state.** If a property `J` of states holds
    at the start and holds after a step exactly if it held before and the step met `P`, it holds of
    the last state of a run exactly if all steps of the run met `P`. -/
theorem allSteps_from_iff (Inv : σ → Prop) {J : σ → Prop} {P : σ → ι → Prop} {s₀ : σ} (hinit : Inv s₀)
    (hJ : J s₀)
    (hstep : ∀ s l s', Inv s → T.step s l = some s' → Inv s' ∧ (J s' ↔ J s ∧ P s l))
    {ls : List ι} {s : σ} (h : T.exec s₀ ls = some s) : J s ↔ T.AllSteps P s₀ ls := by
  refine (exec_induction (motive := fun ls s => Inv s ∧ (J s ↔ T.AllSteps P s₀ ls))
    ⟨hinit, by simp [AllSteps, hJ]⟩ ?_ h).2
  rintro ls s l s' hexec ⟨hInv, ih⟩ hs'
  obtain ⟨hInv', hiff⟩ := hstep s l s' hInv hs'
  exact ⟨hInv', by rw [hiff, ih, allSteps_concat hexec]⟩

theorem allSteps_iff (Inv : σ → Prop) {J : σ → Prop} {P : σ → ι → Prop} (hinit : Inv T.init)
    (hJ : J T.init)
    (hstep : ∀ s l s', Inv s → T.step s l = some s' → Inv s' ∧ (J s' ↔ J s ∧ P s l))
    {ls : List ι} {s : σ} (h : T.exec T.init ls = some s) : J s ↔ T.AllSteps P T.init ls :=
  allSteps_from_iff Inv hinit hJ hstep h

/-! ## Termination -/

/-- If every step from a state that meets `Inv` makes `μ` smaller, a run is no longer than `μ`. -/
theorem exec_length_le {Inv : σ → Prop} {μ : σ → ℕ}
    (hstep : ∀ s l s', Inv s → T.step s l = some s' → Inv s' ∧ μ s' < μ s) {s s' : σ} {ls : List ι}
    (hInv : Inv s) (h : T.exec s ls = some s') : Inv s' ∧ ls.length + μ s' ≤ μ s := by
  refine exec_induction (motive := fun ls s' => Inv s' ∧ ls.length + μ s' ≤ μ s) ⟨hInv, by simp⟩ ?_ h
  rintro ls s₁ l s₂ - ⟨hInv₁, hle⟩ hs₂
  obtain ⟨hInv₂, hlt⟩ := hstep s₁ l s₂ hInv₁ hs₂
  rw [List.length_append, List.length_singleton]
  exact ⟨hInv₂, by omega⟩

/-- If from every state that meets `Inv` and not `Q` some step makes `μ` smaller, a state that meets `Q`
    is reached in at most `μ` steps. -/
theorem exists_exec {Inv Q : σ → Prop} {μ : σ → ℕ}
    (hstep : ∀ s, Inv s → ¬ Q s → ∃ l s', T.step s l = some s' ∧ Inv s' ∧ μ s' < μ s) {s : σ}
    (hInv : Inv s) : ∃ ls s', T.exec s ls = some s' ∧ Q s' ∧ ls.length ≤ μ s := by
  induction hμ : μ s using Nat.strongRecOn generalizing s with
  | ind n ih =>
      by_cases hQ : Q s
      · exact ⟨[], s, rfl, hQ, Nat.zero_le _⟩
      · obtain ⟨l, s₁, hs₁, hInv₁, hlt⟩ := hstep s hInv hQ
        obtain ⟨ls, s', hls, hQ', hle⟩ := ih (μ s₁) (hμ ▸ hlt) hInv₁ rfl
        refine ⟨l :: ls, s', by rw [exec_cons, hs₁]; exact hls, hQ', ?_⟩
        rw [List.length_cons]
        omega

end StepSystem
