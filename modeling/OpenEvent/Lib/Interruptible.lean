import Mathlib.Logic.Basic

/-!
Programs over a state that may stop before their last step and leave the state
they have reached, with rules for what holds when they return and when they stop.
-/

abbrev Interruptible (State Stop α : Type) := ExceptT Stop (StateM State) α

namespace Interruptible

variable {State Stop α β : Type}

/-- The result and the state that are left when the program runs from `state`. -/
def exec (program : Interruptible State Stop α) (state : State) : Except Stop α × State :=
  StateT.run (ExceptT.run program) state

/-- Stops the program. -/
def halt (reason : Stop) : Interruptible State Stop α := throwThe Stop reason

/-- Reads from the state. -/
def observe (view : State → α) : Interruptible State Stop α :=
  fun state => (.ok (view state), state)

/-- Changes the state. -/
def update (change : State → State) : Interruptible State Stop Unit :=
  fun state => (.ok (), change state)

/-- From `state` the program returns only as `post` says and stops only as `stop`
says. -/
def Leads (state : State) (program : Interruptible State Stop α) (post : α → State → Prop)
    (stop : Stop → State → Prop) : Prop :=
  match program.exec state with
  | (.ok value, after) => post value after
  | (.error reason, after) => stop reason after

theorem exec_bind (program : Interruptible State Stop α) (next : α → Interruptible State Stop β)
    (state : State) :
    (program >>= next).exec state =
      match program.exec state with
      | (.ok value, after) => (next value).exec after
      | (.error reason, after) => (.error reason, after) := by
  show StateT.run (ExceptT.run (program >>= next)) state = _
  rw [ExceptT.run_bind]
  unfold exec
  simp only [StateT.run_bind]
  cases StateT.run (ExceptT.run program) state with
  | mk result after =>
      cases result with
      | ok value => rfl
      | error reason => rfl

namespace Leads

variable {state : State} {post : α → State → Prop} {stop : Stop → State → Prop}

theorem pure {value : α} (h : post value state) :
    Leads state (Pure.pure value : Interruptible State Stop α) post stop := h

theorem halt {reason : Stop} (h : stop reason state) :
    Leads state (Interruptible.halt reason : Interruptible State Stop α) post stop := h

theorem observe {view : State → α} (h : post (view state) state) :
    Leads state (Interruptible.observe view : Interruptible State Stop α) post stop := h

theorem update {post : Unit → State → Prop} {change : State → State} (h : post () (change state)) :
    Leads state (Interruptible.update change : Interruptible State Stop Unit) post stop := h

theorem bind {program : Interruptible State Stop α} {next : α → Interruptible State Stop β}
    {result : β → State → Prop} (h : Leads state program post stop)
    (hnext : ∀ value after, post value after → Leads after (next value) result stop) :
    Leads state (program >>= next) result stop := by
  unfold Leads at h ⊢
  rw [exec_bind]
  revert h
  cases program.exec state with
  | mk outcome after =>
      cases outcome with
      | ok value => exact hnext value after
      | error reason => exact id

theorem halt_bind {reason : Stop} {next : α → Interruptible State Stop β}
    {result : β → State → Prop} (h : stop reason state) :
    Leads state (Interruptible.halt reason >>= next) result stop := h

theorem observe_bind {view : State → α} {next : α → Interruptible State Stop β}
    {result : β → State → Prop} (h : Leads state (next (view state)) result stop) :
    Leads state (Interruptible.observe view >>= next) result stop := h

theorem update_bind {change : State → State} {next : Unit → Interruptible State Stop β}
    {result : β → State → Prop} (h : Leads (change state) (next ()) result stop) :
    Leads state (Interruptible.update change >>= next) result stop := h

theorem imp {program : Interruptible State Stop α} {post' : α → State → Prop}
    {stop' : Stop → State → Prop} (h : Leads state program post stop)
    (hpost : ∀ value after, post value after → post' value after)
    (hstop : ∀ reason after, stop reason after → stop' reason after) :
    Leads state program post' stop' := by
  unfold Leads at h ⊢
  revert h
  cases program.exec state with
  | mk outcome after =>
      cases outcome with
      | ok value => exact hpost value after
      | error reason => exact hstop reason after

/-- The result and the state that it returns with are those of its run. -/
theorem traced {program : Interruptible State Stop α} (h : Leads state program post stop) :
    Leads state program
      (fun value after => program.exec state = (.ok value, after) ∧ post value after) stop := by
  unfold Leads at h ⊢
  rcases hrun : program.exec state with ⟨outcome, after⟩
  rw [hrun] at h
  cases outcome with
  | ok value => exact ⟨rfl, h⟩
  | error reason => exact h

theorem returns {program : Interruptible State Stop α} {value : α} {after : State}
    (h : Leads state program post stop) (hexec : program.exec state = (.ok value, after)) :
    post value after := by
  unfold Leads at h
  rw [hexec] at h
  exact h

theorem stops {program : Interruptible State Stop α} {reason : Stop} {after : State}
    (h : Leads state program post stop) (hexec : program.exec state = (.error reason, after)) :
    stop reason after := by
  unfold Leads at h
  rw [hexec] at h
  exact h

end Leads

end Interruptible
