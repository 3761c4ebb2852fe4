import OpenEvent.Lib.LabelledRun

/-!
A flag that any thread may try to raise with a value of its own. The one that finds
it down raises it and then calls a handler with its value; the others do nothing.
-/

/-- `notifying thread` is the value with which the thread is about to call the
handler, `handled` the calls so far. -/
structure OneShotLatch (Thread Value : Type*) where
  flag : Option Value := none
  notifying : Thread → Option Value := fun _ => none
  handled : List Value := []

namespace OneShotLatch

variable {Thread Value : Type*} {latch next : OneShotLatch Thread Value} {value : Value}

inductive Step [DecidableEq Thread] (latch : OneShotLatch Thread Value) :
    OneShotLatch Thread Value → Prop
  | quiet : Step latch latch
  | raise (thread : Thread) (value : Value) : latch.flag = none → latch.notifying thread = none →
      Step latch
        { latch with
          flag := some value
          notifying := Function.update latch.notifying thread (some value) }
  | notify (thread : Thread) (value : Value) : latch.notifying thread = some value →
      Step latch
        { latch with
          notifying := Function.update latch.notifying thread none
          handled := latch.handled ++ [value] }

/-- Only the thread that raised the flag calls the handler, and it has not done so
yet. -/
structure Sound (latch : OneShotLatch Thread Value) : Prop where
  down : latch.flag = none → latch.handled = []
  handled : latch.handled = [] ∨ ∃ value, latch.flag = some value ∧ latch.handled = [value]
  notifying : ∀ thread value, latch.notifying thread = some value →
    latch.flag = some value ∧ latch.handled = []
  alone : ∀ first second, latch.notifying first ≠ none → latch.notifying second ≠ none →
    first = second

theorem Sound.initial : Sound ({} : OneShotLatch Thread Value) where
  down _ := rfl
  handled := Or.inl rfl
  notifying _ _ h := nomatch h
  alone _ _ h := absurd rfl h

/-- A flag that was raised before the threads started. -/
theorem Sound.raised (value : Value) :
    Sound ({ flag := some value, handled := [value] } : OneShotLatch Thread Value) where
  down h := nomatch h
  handled := Or.inr ⟨value, rfl, rfl⟩
  notifying _ _ h := nomatch h
  alone _ _ h := absurd rfl h

variable [DecidableEq Thread]

theorem Sound.step (h : Sound latch) (hstep : Step latch next) : Sound next := by
  cases hstep with
  | quiet => exact h
  | raise thread value hdown hidle =>
      have hnone : latch.handled = [] := h.down hdown
      have hothers (other : Thread) : latch.notifying other = none := by
        rw [Option.eq_none_iff_forall_ne_some]
        intro held hheld
        have hflag := (h.notifying other held hheld).1
        rw [hdown] at hflag
        cases hflag
      refine ⟨nofun, Or.inl hnone, ?_, ?_⟩
      · intro other held hheld
        dsimp only at hheld ⊢
        by_cases heq : other = thread
        · subst heq
          rw [Function.update_self] at hheld
          exact ⟨hheld, hnone⟩
        · rw [Function.update_of_ne heq, hothers] at hheld
          cases hheld
      · have hself (other : Thread)
            (hother : Function.update latch.notifying thread (some value) other ≠ none) :
            other = thread := by
          by_contra hne
          rw [Function.update_of_ne hne] at hother
          exact hother (hothers other)
        intro first second hfirst hsecond
        rw [hself first hfirst, hself second hsecond]
  | notify thread value hnotifying =>
      obtain ⟨hflag, hnone⟩ := h.notifying thread value hnotifying
      have hidle (other : Thread) : Function.update latch.notifying thread none other = none := by
        by_cases heq : other = thread
        · rw [heq, Function.update_self]
        · rw [Function.update_of_ne heq]
          by_contra hother
          exact heq (h.alone other thread hother (by simp [hnotifying]))
      refine ⟨?_, Or.inr ⟨value, hflag, by simp [hnone]⟩, ?_, ?_⟩
      · intro hdown
        rw [hflag] at hdown
        cases hdown
      · intro other held hheld
        dsimp only at hheld
        rw [hidle] at hheld
        cases hheld
      · intro first _ hfirst
        exact absurd (hidle first) hfirst

/-- A raised flag keeps its value. -/
theorem Step.flag (hstep : Step latch next) (h : latch.flag = some value) :
    next.flag = some value := by
  cases hstep with
  | quiet => exact h
  | raise _ _ hdown _ =>
      rw [hdown] at h
      cases h
  | notify _ _ _ => exact h

end OneShotLatch
