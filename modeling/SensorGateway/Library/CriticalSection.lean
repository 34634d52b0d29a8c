import SensorGateway.Library.Loop
import SensorGateway.Library.StepSystem

set_option autoImplicit false

/-! # Critical sections

A system whose steps are taken to be atomic, although some of them are critical sections: programs that
access data under a lock, one access at a time. `CriticalSections` has both views of such a system. In
`locked` a thread takes the lock, makes its accesses one by one, and other threads go on between them
as long as they stay out of critical sections.

If the parts fit together (`CriticalSections.Sound`), the lock makes the sections atomic: between
sections the two systems reach the same states (`reachable_iff`), and a thread that holds the lock can
always make the accesses that are left and release it (`releases`). -/

/-- A system with states `σ`, labels `ι` and threads `θ`. `β` is the data that the lock protects, `μ`
    the places in a section, and `ρ` what a section returns. -/
structure CriticalSections (σ ι θ β μ ρ : Type) where
  /-- the system in which every section is one step -/
  atomic : StepSystem σ ι
  thread : ι → θ
  data : σ → β
  setData : σ → β → σ
  /-- where the section begins that the step is; `none` for a step that is not a section -/
  enter : σ → ι → Option μ
  /-- one access, or the end of the section -/
  access : μ × β → Option (LoopStep (μ × β) (ρ × β))
  /-- what the thread does with the result when it releases the lock -/
  leave : ι → ρ → σ → Option σ

/-- A state, with the step and the place in its section of the thread that holds the lock. -/
structure Locked (σ ι μ : Type) where
  state : σ
  holder : Option (ι × μ)

/-- A step outside of sections, the taking of the lock, or what the holder of the lock does next. -/
inductive LockedStep (ι : Type) where
  | outside (l : ι)
  | lock (l : ι)
  | access

namespace CriticalSections

variable {σ ι θ β μ ρ : Type} (C : CriticalSections σ ι θ β μ ρ)

/-- The next access of the thread that makes the step `l`. -/
def accessStep (state : σ) (l : ι) (m : μ) : Option (Locked σ ι μ) :=
  match C.access (m, C.data state) with
  | none => none
  | some (.next (m', b)) => some ⟨C.setData state b, some (l, m')⟩
  | some (.exit (r, b)) => (C.leave l r (C.setData state b)).map fun state => ⟨state, none⟩

/-- One step; a thread in a section makes no other step. -/
def step [DecidableEq θ] (s : Locked σ ι μ) : LockedStep ι → Option (Locked σ ι μ)
  | .outside l =>
      if (C.enter s.state l).isNone = true ∧
          (s.holder.all fun h => C.thread h.1 ≠ C.thread l) = true then
        (C.atomic.step s.state l).map fun state => { s with state }
      else none
  | .lock l =>
      if s.holder.isNone = true then
        (C.enter s.state l).map fun m => { s with holder := some (l, m) }
      else none
  | .access => s.holder.bind fun h => C.accessStep s.state h.1 h.2

/-- The system with a lock. -/
def locked [DecidableEq θ] : StepSystem (Locked σ ι μ) (LockedStep ι) where
  init := ⟨C.atomic.init, none⟩
  step := C.step

/-- What makes sections atomic. -/
structure Sound : Prop where
  data_setData : ∀ s b, C.data (C.setData s b) = b
  setData_data : ∀ s, C.setData s (C.data s) = s
  setData_setData : ∀ s b b', C.setData (C.setData s b) b' = C.setData s b'
  /-- a step outside of sections does not look at the data -/
  outside : ∀ {s l s'}, C.enter s l = none → C.atomic.step s l = some s' → ∀ b,
    C.enter (C.setData s b) l = none ∧ C.atomic.step (C.setData s b) l = some (C.setData s' b)
  /-- and does not interfere with the section that another thread is in -/
  stable : ∀ {s l s' l'}, C.enter s l = none → C.atomic.step s l = some s' →
    C.thread l' ≠ C.thread l → C.enter s' l' = C.enter s l'
  /-- a section comes to its end, and is the step -/
  finish : ∀ {s l m}, C.atomic.Reachable s → C.enter s l = some m → ∃ r b s',
    LoopReturns C.access (m, C.data s) (r, b) ∧ C.leave l r (C.setData s b) = some s' ∧
      C.atomic.step s l = some s'

variable {C} {s : Locked σ ι μ} {t : σ}

/-- `t` is the state that `s` would be in if the holder of the lock had not yet begun. -/
def Behind (C : CriticalSections σ ι θ β μ ρ) (s : Locked σ ι μ) (t : σ) : Prop :=
  match s.holder with
  | none => s.state = t
  | some (l, m) => s.state = C.setData t (C.data s.state) ∧
      ∃ m₀, C.enter t l = some m₀ ∧ LoopVisits C.access (m₀, C.data t) (m, C.data s.state)

namespace Sound

variable (h : C.Sound)
include h

/-- A step outside of sections leaves the data alone. -/
theorem data_eq {s s' : σ} {l : ι} (henter : C.enter s l = none)
    (hs : C.atomic.step s l = some s') : C.data s' = C.data s := by
  have hsame := (h.outside henter hs (C.data s)).2
  rw [h.setData_data, hs] at hsame
  rw [Option.some.inj hsame, h.data_setData]

/-- What the holder of the lock does next is the rest of its section. -/
theorem returns_of_behind {state : σ} {l : ι} {m : μ} (hbehind : C.Behind ⟨state, some (l, m)⟩ t)
    (ht : C.atomic.Reachable t) : ∃ r b s',
      LoopReturns C.access (m, C.data state) (r, b) ∧
        C.leave l r (C.setData state b) = some s' ∧ C.atomic.step t l = some s' := by
  obtain ⟨hstate, m₀, hm₀, hvisits⟩ := hbehind
  obtain ⟨r, b, s', hreturns, hleave, hs'⟩ := h.finish ht hm₀
  dsimp only at hstate
  refine ⟨r, b, s', hvisits.returns hreturns, ?_, hs'⟩
  rw [hstate, h.setData_setData]
  exact hleave

theorem behind_access {state : σ} {l : ι} {m : μ} {s' : Locked σ ι μ}
    (hbehind : C.Behind ⟨state, some (l, m)⟩ t) (ht : C.atomic.Reachable t)
    (hs : C.accessStep state l m = some s') : ∃ t', C.atomic.Reachable t' ∧ C.Behind s' t' := by
  obtain ⟨r, b, s₁, hreturns, hleave, hs₁⟩ := h.returns_of_behind hbehind ht
  unfold accessStep at hs
  cases hreturns with
  | exit hexit =>
      simp only [hexit, hleave, Option.map_some, Option.some.injEq] at hs
      subst hs
      exact ⟨s₁, ht.step hs₁, rfl⟩
  | @next _ next _ hnext _ =>
      obtain ⟨m', b'⟩ := next
      simp only [hnext, Option.some.injEq] at hs
      subst hs
      obtain ⟨hstate, m₀, hm₀, hvisits⟩ := hbehind
      refine ⟨t, ht, ?_, m₀, hm₀, ?_⟩
      · dsimp only at hstate ⊢
        rw [h.data_setData, hstate, h.setData_setData]
      · rw [h.data_setData]
        exact hvisits.next hnext

variable [DecidableEq θ]

theorem behind_outside {l : ι} {state' : σ} (hbehind : C.Behind s t)
    (henter : C.enter s.state l = none)
    (hother : (s.holder.all fun h => C.thread h.1 ≠ C.thread l) = true)
    (hs : C.atomic.step s.state l = some state') :
    ∃ t', C.atomic.step t l = some t' ∧ C.Behind { s with state := state' } t' := by
  obtain ⟨state, holder⟩ := s
  cases holder with
  | none =>
      obtain rfl : state = t := hbehind
      exact ⟨state', hs, rfl⟩
  | some holder =>
      obtain ⟨l', m⟩ := holder
      obtain ⟨hstate, m₀, hm₀, hvisits⟩ := hbehind
      have hne : C.thread l' ≠ C.thread l := by simpa using hother
      have hdata := h.data_eq henter hs
      -- the step makes the same of the data at the beginning of the section
      obtain ⟨henter', hs'⟩ := h.outside henter hs (C.data t)
      have ht : C.setData state (C.data t) = t := by
        dsimp only at hstate
        rw [hstate, h.setData_setData, h.setData_data]
      dsimp only at henter' hs' hdata
      rw [ht] at henter' hs'
      refine ⟨_, hs', ?_, m₀, ?_, ?_⟩
      · rw [h.setData_setData]
        exact (h.setData_data state').symm
      · exact (h.stable henter' hs' hne).trans hm₀
      · rw [h.data_setData]
        exact hdata.symm ▸ hvisits

/-- **Every state is behind an atomic one.** -/
theorem reachable_behind (hs : C.locked.Reachable s) : ∃ t, C.atomic.Reachable t ∧ C.Behind s t := by
  have hinit : C.Behind C.locked.init C.atomic.init := rfl
  refine hs.invariant (fun s => ∃ t, C.atomic.Reachable t ∧ C.Behind s t)
    ⟨C.atomic.init, StepSystem.Reachable.init, hinit⟩ ?_
  rintro s l s' ⟨t, ht, hbehind⟩ hs'
  cases l with
  | outside l =>
      simp only [locked, step] at hs'
      split at hs'
      · next hguard =>
          obtain ⟨state', hstep, rfl⟩ := Option.map_eq_some_iff.1 hs'
          obtain ⟨t', ht', hbehind'⟩ :=
            h.behind_outside hbehind (Option.isNone_iff_eq_none.1 hguard.1) hguard.2 hstep
          exact ⟨t', ht.step ht', hbehind'⟩
      · exact absurd hs' (by simp)
  | lock l =>
      simp only [locked, step] at hs'
      split at hs'
      · next hfree =>
          obtain ⟨m, hm, rfl⟩ := Option.map_eq_some_iff.1 hs'
          obtain ⟨state, holder⟩ := s
          obtain rfl : holder = none := Option.isNone_iff_eq_none.1 hfree
          obtain rfl : state = t := hbehind
          exact ⟨state, ht, (h.setData_data state).symm, m, hm, .start⟩
      · exact absurd hs' (by simp)
  | access =>
      obtain ⟨state, holder⟩ := s
      cases holder with
      | none => exact absurd hs' (by simp [locked, step])
      | some holder => exact h.behind_access hbehind ht hs'

/-- A section is executed access by access. -/
theorem exec_access {p : μ × β} {q : ρ × β} (hreturns : LoopReturns C.access p q) {state s' : σ}
    {l : ι} (hdata : C.data state = p.2) (hleave : C.leave l q.1 (C.setData state q.2) = some s') :
    ∃ n, C.locked.exec ⟨state, some (l, p.1)⟩ (List.replicate n .access) = some ⟨s', none⟩ := by
  induction hreturns generalizing state with
  | @exit p q hexit =>
      obtain ⟨m, b⟩ := p
      refine ⟨1, ?_⟩
      rw [List.replicate_one, StepSystem.exec_cons]
      simp only [locked, step, Option.bind_some, accessStep, hdata, hexit, hleave, Option.map_some,
        StepSystem.exec_nil]
  | @next p p' q hnext _ ih =>
      obtain ⟨m, b⟩ := p
      obtain ⟨n, hn⟩ := ih (h.data_setData state p'.2) (by rw [h.setData_setData]; exact hleave)
      refine ⟨n + 1, ?_⟩
      rw [List.replicate_succ, StepSystem.exec_cons]
      simp only [locked, step, Option.bind_some, accessStep, hdata, hnext]
      exact hn

/-- **The lock makes sections atomic**: between sections the two systems reach the same states. -/
theorem reachable_iff : C.locked.Reachable ⟨t, none⟩ ↔ C.atomic.Reachable t := by
  constructor
  · intro hs
    obtain ⟨t', ht', hbehind⟩ := h.reachable_behind hs
    obtain rfl : t = t' := hbehind
    exact ht'
  · intro ht
    refine ht.strengthen (fun t => C.locked.Reachable ⟨t, none⟩) StepSystem.Reachable.init ?_
    intro s l s' hreach hs hs'
    cases henter : C.enter s l with
    | none =>
        refine hs.step (l := .outside l) ?_
        simp [locked, step, henter, hs']
    | some m =>
        obtain ⟨r, b, s'', hreturns, hleave, hs''⟩ := h.finish hreach henter
        obtain rfl := Option.some.inj (hs''.symm.trans hs')
        have hlock : C.locked.step ⟨s, none⟩ (.lock l) = some ⟨s, some (l, m)⟩ := by
          simp [locked, step, henter]
        obtain ⟨n, hn⟩ := h.exec_access hreturns rfl hleave
        exact (hs.step hlock).exec hn

/-- **A section comes to its end**: the accesses that are left do not fault, and lead to the state
    after the step. -/
theorem releases {state : σ} {l : ι} {m : μ} (hs : C.locked.Reachable ⟨state, some (l, m)⟩) :
    ∃ n s', C.locked.exec ⟨state, some (l, m)⟩ (List.replicate n .access) = some ⟨s', none⟩ := by
  obtain ⟨t, ht, hbehind⟩ := h.reachable_behind hs
  obtain ⟨r, b, s', hreturns, hleave, -⟩ := h.returns_of_behind hbehind ht
  obtain ⟨n, hn⟩ := h.exec_access hreturns rfl hleave
  exact ⟨n, s', hn⟩

end Sound

end CriticalSections
