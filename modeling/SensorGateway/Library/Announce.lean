import Mathlib.Logic.Function.Basic
import SensorGateway.Library.History
import SensorGateway.Library.StepSystem

set_option autoImplicit false

/-! # Steps whose events are announced

The threads of a system make steps, and a step may produce events. Here a thread announces the
events of its next step, one after another, before it makes the step; other threads announce and
make steps in between. `history` has all announcements in order.

If the events of a thread depend on its own steps only (`EventSystem.Sound`), the announcements of
each thread are the events it has produced, in order, followed by those of the step that it is about
to make (`AnnounceInv.history_eq`); and they are just the former once the thread produces none any
more (`AnnounceInv.history_eq_of_done`). -/

variable {σ ι θ ε : Type}

/-- A system of threads; `logged s t` are the events that thread `t` has produced so far. -/
structure EventSystem (σ ι θ ε : Type) where
  system : StepSystem σ ι
  thread : ι → θ
  logged : σ → θ → List ε

/-- The state of the system with what the threads have announced: for the next steps, and in all. -/
structure Announcing (σ θ ε : Type) where
  state : σ
  announced : θ → List ε
  history : List (θ × ε)

namespace EventSystem

variable (T : EventSystem σ ι θ ε)

/-- The events that a step produces. -/
def produced (s : σ) (l : ι) : Option (List ε) :=
  (T.system.step s l).map fun s' =>
    (T.logged s' (T.thread l)).drop (T.logged s (T.thread l)).length

/-- Nothing is announced yet. -/
def start : Announcing σ θ ε := ⟨T.system.init, fun _ => [], []⟩

section Steps

variable [DecidableEq θ] [DecidableEq ε]

/-- The thread that is about to make the step `l` announces the next event of it. -/
def announce (a : Announcing σ θ ε) (l : ι) : Option (ε × Announcing σ θ ε) := do
  let events ← T.produced a.state l
  let announced := a.announced (T.thread l)
  if announced.isPrefixOf events = true then
    let event ← events[announced.length]?
    return (event, { a with
      announced := Function.update a.announced (T.thread l) (announced ++ [event])
      history := a.history ++ [(T.thread l, event)] })
  else none

/-- A thread makes a step whose events it has announced. -/
def take (a : Announcing σ θ ε) (l : ι) : Option (Announcing σ θ ε) := do
  let events ← T.produced a.state l
  let state ← T.system.step a.state l
  if a.announced (T.thread l) = events then
    return { a with state, announced := Function.update a.announced (T.thread l) [] }
  else none

end Steps

/-- The events of a thread depend on its own steps, and it produces them only while it `can`. -/
structure Sound (can : σ → θ → Prop) : Prop where
  init : ∀ t, T.logged T.system.init t = []
  produces : ∀ s l s', T.system.Reachable s → T.system.step s l = some s' →
    ∃ events, T.logged s' (T.thread l) = T.logged s (T.thread l) ++ events ∧
      (events ≠ [] → can s (T.thread l))
  frame : ∀ s l s' t, T.system.Reachable s → T.system.step s l = some s' → t ≠ T.thread l →
    T.logged s' t = T.logged s t ∧ (can s t → can s' t)

end EventSystem

/-- What holds of the announcements at any time. -/
structure AnnounceInv [DecidableEq θ] (T : EventSystem σ ι θ ε) (can : σ → θ → Prop)
    (a : Announcing σ θ ε) : Prop where
  reachable : T.system.Reachable a.state
  history_eq : ∀ t, historyOf a.history t = T.logged a.state t ++ a.announced t
  can_of_announced : ∀ t, a.announced t ≠ [] → can a.state t

section Invariant

variable [DecidableEq θ] [DecidableEq ε] {T : EventSystem σ ι θ ε} {can : σ → θ → Prop}
  {a a' : Announcing σ θ ε} {l : ι} {event : ε}

omit [DecidableEq ε] in
theorem EventSystem.Sound.start (h : T.Sound can) : AnnounceInv T can T.start where
  reachable := .init
  history_eq t := (congrArg (· ++ []) (h.init t)).symm
  can_of_announced _ ht := absurd rfl ht

omit [DecidableEq θ] [DecidableEq ε] in
/-- What a step produces is what it adds to the events of its thread. -/
theorem EventSystem.Sound.produced {s : σ} {events : List ε} (h : T.Sound can)
    (hreach : T.system.Reachable s) (hproduced : T.produced s l = some events) :
    (∀ s', T.system.step s l = some s' →
      T.logged s' (T.thread l) = T.logged s (T.thread l) ++ events) ∧
    (events ≠ [] → can s (T.thread l)) := by
  obtain ⟨s', hs, rfl⟩ := Option.map_eq_some_iff.1 hproduced
  obtain ⟨events, hlogged, hcan⟩ := h.produces s l s' hreach hs
  rw [hlogged, List.drop_left]
  refine ⟨fun s'' hs'' => ?_, hcan⟩
  rw [← Option.some.inj (hs.symm.trans hs''), hlogged]

theorem announce_eq_some (hs : T.announce a l = some (event, a')) :
    (∃ e es, T.produced a.state l = some (e :: es)) ∧
      a' = { a with
        announced := Function.update a.announced (T.thread l) (a.announced (T.thread l) ++ [event])
        history := a.history ++ [(T.thread l, event)] } := by
  unfold EventSystem.announce at hs
  obtain ⟨events, hevents, hs⟩ := Option.bind_eq_some_iff.1 hs
  dsimp only at hs
  split at hs
  · obtain ⟨event', hevent, hs⟩ := Option.bind_eq_some_iff.1 hs
    obtain ⟨rfl, rfl⟩ := Prod.mk.inj (Option.some.inj hs)
    refine ⟨?_, rfl⟩
    cases events with
    | nil => exact absurd hevent (by simp)
    | cons e es => exact ⟨e, es, hevents⟩
  · exact absurd hs (by simp)

theorem take_eq_some (hs : T.take a l = some a') :
    ∃ state, T.system.step a.state l = some state ∧
      T.produced a.state l = some (a.announced (T.thread l)) ∧
      a' = { a with state, announced := Function.update a.announced (T.thread l) [] } := by
  unfold EventSystem.take at hs
  obtain ⟨events, hevents, hs⟩ := Option.bind_eq_some_iff.1 hs
  obtain ⟨state, hstate, hs⟩ := Option.bind_eq_some_iff.1 hs
  split at hs
  · next hannounced =>
      obtain rfl := Option.some.inj hs
      exact ⟨state, hstate, by rw [hannounced]; exact hevents, rfl⟩
  · exact absurd hs (by simp)

/-- **Announcing** an event. -/
theorem AnnounceInv.announce (ha : AnnounceInv T can a) (h : T.Sound can)
    (hs : T.announce a l = some (event, a')) : AnnounceInv T can a' := by
  obtain ⟨⟨e, es, hproduced⟩, rfl⟩ := announce_eq_some hs
  refine ⟨ha.reachable, fun t => ?_, fun t ht => ?_⟩
  · by_cases hne : T.thread l = t
    · subst hne
      simp only [historyOf_concat_self, ha.history_eq, Function.update_self, List.append_assoc]
    · simp only [historyOf_concat_ne hne, ha.history_eq, Function.update_of_ne (Ne.symm hne)]
  · by_cases hne : t = T.thread l
    · rw [hne]
      exact (h.produced ha.reachable hproduced).2 (by simp)
    · simp only [Function.update_of_ne hne] at ht
      exact ha.can_of_announced t ht

/-- **Making a step** whose events are announced. -/
theorem AnnounceInv.take (ha : AnnounceInv T can a) (h : T.Sound can) (hs : T.take a l = some a') :
    AnnounceInv T can a' := by
  obtain ⟨state, hstate, hproduced, rfl⟩ := take_eq_some hs
  have hlogged := (h.produced ha.reachable hproduced).1 state hstate
  refine ⟨ha.reachable.step hstate, fun t => ?_, fun t ht => ?_⟩
  · by_cases hne : t = T.thread l
    · subst hne
      simp only [ha.history_eq, Function.update_self, List.append_nil, hlogged]
    · simp only [ha.history_eq, Function.update_of_ne hne,
        (h.frame _ _ _ _ ha.reachable hstate hne).1]
  · by_cases hne : t = T.thread l
    · subst hne
      exact absurd (Function.update_self _ _ _) ht
    · simp only [Function.update_of_ne hne] at ht
      exact (h.frame _ _ _ _ ha.reachable hstate hne).2 (ha.can_of_announced t ht)

omit [DecidableEq ε] in
/-- What a thread has announced that produces no more events. -/
theorem AnnounceInv.history_eq_of_done (ha : AnnounceInv T can a) {t : θ}
    (hdone : ¬ can a.state t) :
    historyOf a.history t = T.logged a.state t := by
  have hnil : a.announced t = [] := by
    by_contra hne
    exact hdone (ha.can_of_announced t hne)
  rw [ha.history_eq, hnil, List.append_nil]

end Invariant
