import Mathlib.Data.List.Induction
import Mathlib.Data.Nat.Notation

set_option autoImplicit false

/-! # Histories

A trace lists events in order, each with the key of the object it happened to; the history of an
object is the list of its own events. `EachEvent Q h` says that every event of a history meets `Q`
together with the events before it. Appending an event to a trace appends it to one history
(`historyOf_concat_self`, `historyOf_concat_ne`), so what all histories meet has to be shown of the
last event only (`forall_eachEvent_concat`). -/

variable {κ ε : Type}

/-- Every event of the history meets `Q`, given the events before it. -/
def EachEvent (Q : List ε → ε → Prop) (h : List ε) : Prop :=
  ∀ earlier e later, h = earlier ++ e :: later → Q earlier e

theorem eachEvent_nil (Q : List ε → ε → Prop) : EachEvent Q [] := by
  intro earlier e later heq
  exact absurd heq (by simp)

theorem eachEvent_concat {Q : List ε → ε → Prop} {h : List ε} {e : ε} :
    EachEvent Q (h ++ [e]) ↔ EachEvent Q h ∧ Q h e := by
  constructor
  · intro hall
    refine ⟨?_, hall h e [] rfl⟩
    intro earlier e' later heq
    refine hall earlier e' (later ++ [e]) ?_
    rw [heq, List.append_assoc]
    rfl
  · rintro ⟨hall, hlast⟩ earlier e' later heq
    -- the event is the last one, or one of `h`
    rcases List.eq_nil_or_concat later with rfl | ⟨later, e'', rfl⟩
    · obtain ⟨rfl, hsingle⟩ := List.append_inj' heq rfl
      obtain rfl := List.singleton_inj.1 hsingle
      exact hlast
    · rw [List.concat_eq_append, ← List.cons_append, ← List.append_assoc] at heq
      exact hall earlier e' later (List.append_inj' heq rfl).1

section Traces

variable [DecidableEq κ]

/-- The events of the object with key `k`. -/
def historyOf (trace : List (κ × ε)) (k : κ) : List ε :=
  (trace.filter fun e => e.1 = k).map Prod.snd

theorem historyOf_concat_self (trace : List (κ × ε)) (k : κ) (e : ε) :
    historyOf (trace ++ [(k, e)]) k = historyOf trace k ++ [e] := by
  simp [historyOf]

theorem historyOf_concat_ne {k k' : κ} (hne : k ≠ k') (trace : List (κ × ε)) (e : ε) :
    historyOf (trace ++ [(k, e)]) k' = historyOf trace k' := by
  simp [historyOf, hne]

theorem historyOf_filter (trace : List (κ × ε)) (p : ε → Bool) (k : κ) :
    historyOf (trace.filter fun e => p e.2) k = (historyOf trace k).filter p := by
  rw [historyOf, historyOf, List.filter_map, List.filter_filter, List.filter_filter]
  simp only [Bool.and_comm, Function.comp_apply]

theorem historyOf_eq_nil {trace : List (κ × ε)} {k : κ} (h : ∀ e ∈ trace, e.1 ≠ k) :
    historyOf trace k = [] := by
  rw [historyOf, List.map_eq_nil_iff, List.filter_eq_nil_iff]
  intro e he
  simpa using h e he

theorem forall_eachEvent_concat {Q : List ε → ε → Prop} {trace : List (κ × ε)} {k : κ} {e : ε} :
    (∀ k', EachEvent Q (historyOf (trace ++ [(k, e)]) k')) ↔
      (∀ k', EachEvent Q (historyOf trace k')) ∧ Q (historyOf trace k) e := by
  constructor
  · intro hall
    have hself := hall k
    rw [historyOf_concat_self, eachEvent_concat] at hself
    refine ⟨?_, hself.2⟩
    intro k'
    by_cases hk : k = k'
    · exact hk ▸ hself.1
    · have hk' := hall k'
      rwa [historyOf_concat_ne hk] at hk'
  · rintro ⟨hall, hlast⟩ k'
    by_cases hk : k = k'
    · subst hk
      rw [historyOf_concat_self, eachEvent_concat]
      exact ⟨hall k, hlast⟩
    · rw [historyOf_concat_ne hk]
      exact hall k'

end Traces
