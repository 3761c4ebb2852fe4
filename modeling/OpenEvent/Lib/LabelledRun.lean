import Mathlib.Tactic

/-!
Finite runs of a labelled transition relation, with the rules by which a fact
about one step becomes a fact about every run.
-/

variable {State Label : Type*}

/-- `Run step s labels t`: the steps named by `labels` lead from `s` to `t`. -/
inductive Run (step : State → Label → State → Prop) : State → List Label → State → Prop
  | nil (state : State) : Run step state [] state
  | snoc {start middle finish : State} {labels : List Label} {label : Label} :
      Run step start labels middle → step middle label finish →
      Run step start (labels ++ [label]) finish

namespace Run

variable {step : State → Label → State → Prop}

theorem append {start middle finish : State} {first second : List Label}
    (hfirst : Run step start first middle) (hsecond : Run step middle second finish) :
    Run step start (first ++ second) finish := by
  induction hsecond with
  | nil => simpa using hfirst
  | snoc _ hstep ih =>
      rw [← List.append_assoc]
      exact ih.snoc hstep

theorem single {start finish : State} {label : Label} (h : step start label finish) :
    Run step start [label] finish :=
  (Run.nil start).snoc h

theorem step_of_single {start finish : State} {label : Label}
    (h : Run step start [label] finish) : step start label finish := by
  generalize hlabels : [label] = labels at h
  cases h with
  | nil => cases hlabels
  | snoc hbefore hstep =>
      obtain ⟨hnil, hlast⟩ := List.append_inj' (List.nil_append [label] |>.trans hlabels) rfl
      obtain rfl : label = _ := by simpa using hlast
      subst hnil
      generalize hnone : ([] : List Label) = none at hbefore
      cases hbefore with
      | nil => exact hstep
      | snoc => simp at hnone

/-- A run splits wherever its label list splits. -/
theorem split {start finish : State} {first second : List Label}
    (h : Run step start (first ++ second) finish) :
    ∃ middle, Run step start first middle ∧ Run step middle second finish := by
  induction second using List.reverseRecOn generalizing finish with
  | nil => exact ⟨finish, by simpa using h, Run.nil finish⟩
  | append_singleton rest label ih =>
      rw [← List.append_assoc] at h
      generalize hlabels : (first ++ rest) ++ [label] = labels at h
      cases h with
      | nil => simp at hlabels
      | snoc hrun hstep =>
          obtain ⟨hfront, hlast⟩ := List.append_inj' hlabels rfl
          obtain rfl : label = _ := by simpa using hlast
          rw [← hfront] at hrun
          obtain ⟨middle, hbefore, hafter⟩ := ih hrun
          exact ⟨middle, hbefore, hafter.snoc hstep⟩

/-- An invariant of every step is an invariant of every run. -/
theorem invariant {P : State → Prop} {start finish : State} {labels : List Label}
    (hrun : Run step start labels finish) (hstart : P start)
    (hstep : ∀ s label t, P s → step s label t → P t) : P finish := by
  induction hrun with
  | nil => exact hstart
  | snoc _ h ih => exact hstep _ _ _ ih h

/-- The same for facts about a state and the labels that led to it. -/
theorem history {P : List Label → State → Prop} {start finish : State} {labels : List Label}
    (hrun : Run step start labels finish) (hstart : P [] start)
    (hstep : ∀ labels s label t, Run step start labels s → P labels s → step s label t →
      P (labels ++ [label]) t) : P labels finish := by
  induction hrun with
  | nil => exact hstart
  | snoc hbefore h ih => exact hstep _ _ _ _ hbefore ih h

/-- A reflexive and transitive relation kept by every step from states that
satisfy an invariant relates the two ends of every run. -/
theorem relates {P : State → Prop} {R : State → State → Prop} {start finish : State}
    {labels : List Label} (hrun : Run step start labels finish) (hstart : P start)
    (hinv : ∀ s label t, P s → step s label t → P t)
    (hrefl : ∀ s, R s s) (htrans : ∀ s t u, R s t → R t u → R s u)
    (hstep : ∀ s label t, P s → step s label t → R s t) : R start finish := by
  have both : P finish ∧ R start finish := by
    induction hrun with
    | nil => exact ⟨hstart, hrefl _⟩
    | snoc _ h ih => exact ⟨hinv _ _ _ ih.1 h, htrans _ _ _ ih.2 (hstep _ _ _ ih.1 h)⟩
  exact both.2

theorem countP_snoc (counts : Label → Bool) (labels : List Label) (label : Label) :
    (labels ++ [label]).countP counts = labels.countP counts + (counts label).toNat := by
  rw [List.countP_append, List.countP_singleton]
  cases counts label <;> rfl

/-- A quantity that no step raises, and that each step of one kind lowers while
something of it is left, is lowered by all the steps of that kind. -/
theorem lowers {P : State → Prop} {quantity : State → Nat} {counts : Label → Bool}
    {start finish : State} {labels : List Label} (hrun : Run step start labels finish)
    (hstart : P start) (hinv : ∀ s label t, P s → step s label t → P t)
    (hstep : ∀ s label t, P s → step s label t →
      quantity t ≤ quantity s - (counts label).toNat) :
    quantity finish ≤ quantity start - labels.countP counts := by
  have both : P finish ∧ quantity finish ≤ quantity start - labels.countP counts := by
    induction hrun with
    | nil => exact ⟨hstart, le_refl _⟩
    | @snoc middle finish _ label _ h ih =>
        have hlast := hstep _ _ _ ih.1 h
        have hbefore := ih.2
        refine ⟨hinv _ _ _ ih.1 h, ?_⟩
        rw [countP_snoc]
        omega
  exact both.2

/-- A quantity that pays for each step of one kind bounds their number. -/
theorem pays {P : State → Prop} {quantity : State → Nat} {counts : Label → Bool}
    {start finish : State} {labels : List Label} (hrun : Run step start labels finish)
    (hstart : P start) (hinv : ∀ s label t, P s → step s label t → P t)
    (hstep : ∀ s label t, P s → step s label t →
      quantity t + (counts label).toNat ≤ quantity s) :
    quantity finish + labels.countP counts ≤ quantity start := by
  have both : P finish ∧ quantity finish + labels.countP counts ≤ quantity start := by
    induction hrun with
    | nil => exact ⟨hstart, le_refl _⟩
    | @snoc middle finish _ label _ h ih =>
        have hlast := hstep _ _ _ ih.1 h
        have hbefore := ih.2
        refine ⟨hinv _ _ _ ih.1 h, ?_⟩
        rw [countP_snoc]
        omega
  exact both.2

/-- A run under other labels. -/
theorem map {Other : Type*} {project : Label → Other} {other : State → Other → State → Prop}
    {start finish : State} {labels : List Label} (hrun : Run step start labels finish)
    (hstep : ∀ s label t, step s label t → other s (project label) t) :
    Run other start (labels.map project) finish := by
  induction hrun with
  | nil => exact .nil _
  | snoc _ h ih =>
      rw [List.map_append]
      exact ih.snoc (hstep _ _ _ h)

/-- The labels have one that sets a fact and none after it that resets it. -/
def SetSince (sets resets : Label → Prop) (labels : List Label) : Prop :=
  ∃ before label after, labels = before ++ label :: after ∧ sets label ∧
    ∀ later ∈ after, ¬ resets later

theorem setSince_snoc {sets resets : Label → Prop} {labels : List Label} {last : Label} :
    SetSince sets resets (labels ++ [last]) ↔
      sets last ∨ SetSince sets resets labels ∧ ¬ resets last := by
  constructor
  · rintro ⟨before, label, after, hsplit, hsets, hkept⟩
    rcases List.eq_nil_or_concat after with rfl | ⟨rest, final, rfl⟩
    · obtain ⟨_, hlast⟩ := List.append_inj' hsplit rfl
      obtain rfl : last = label := by simpa using hlast
      exact Or.inl hsets
    · rw [List.concat_eq_append, ← List.cons_append, ← List.append_assoc] at hsplit
      obtain ⟨hfront, hlast⟩ := List.append_inj' hsplit rfl
      obtain rfl : last = final := by simpa using hlast
      refine Or.inr ⟨⟨before, label, rest, hfront, hsets, ?_⟩, hkept last (by simp)⟩
      intro later hlater
      exact hkept later (by simp [hlater])
  · rintro (hsets | ⟨⟨before, label, after, rfl, hsets, hkept⟩, hlast⟩)
    · exact ⟨labels, last, [], rfl, hsets, by simp⟩
    · refine ⟨before, label, after ++ [last], by simp, hsets, ?_⟩
      intro later hlater
      rcases List.mem_append.mp hlater with hold | hnew
      · exact hkept later hold
      · obtain rfl := List.mem_singleton.mp hnew
        exact hlast

/-- A fact that some steps set and some reset holds when it was set and has not
been reset since. -/
theorem holds_iff_setSince {P H : State → Prop} {sets resets : Label → Prop}
    {start finish : State} {labels : List Label} (hrun : Run step start labels finish)
    (hstart : P start) (hfresh : ¬ H start)
    (hstep : ∀ s label t, P s → step s label t → P t ∧ (H t ↔ sets label ∨ H s ∧ ¬ resets label)) :
    H finish ↔ SetSince sets resets labels := by
  have both : P finish ∧ (H finish ↔ SetSince sets resets labels) := by
    induction hrun with
    | nil =>
        refine ⟨hstart, iff_of_false hfresh ?_⟩
        rintro ⟨before, label, after, hsplit, _⟩
        simp at hsplit
    | snoc _ h ih =>
        obtain ⟨hinv, hholds⟩ := hstep _ _ _ ih.1 h
        refine ⟨hinv, ?_⟩
        rw [hholds, setSince_snoc, ih.2]
  exact both.2

end Run

/-! ### Runs with their states -/

/-- One step with the states around it. -/
structure StepRecord (State Label : Type*) where
  before : State
  label : Label
  after : State

/-- The same steps, with the states around each in its label. -/
def Recorded (step : State → Label → State → Prop) (state : State)
    (record : StepRecord State Label) (next : State) : Prop :=
  record.before = state ∧ record.after = next ∧ step state record.label next

theorem Run.recorded {step : State → Label → State → Prop} {start finish : State}
    {labels : List Label} (hrun : Run step start labels finish) :
    ∃ records, records.map StepRecord.label = labels ∧
      Run (Recorded step) start records finish := by
  induction hrun with
  | nil => exact ⟨[], rfl, .nil _⟩
  | @snoc middle finish _ label _ hstep ih =>
      obtain ⟨records, hlabels, hrun⟩ := ih
      refine ⟨records ++ [⟨middle, label, finish⟩], ?_, hrun.snoc ⟨rfl, rfl, hstep⟩⟩
      rw [List.map_append, hlabels]
      rfl

/-! ### Execution of step functions -/

variable {Action Event : Type*}

/-- The run that a list of actions makes, if each of them is possible. -/
def execute (step : State → Action → Option (State × Event)) :
    State → List Action → Option (List (Action × Event) × State)
  | state, [] => some ([], state)
  | state, action :: rest =>
      match step state action with
      | none => none
      | some (next, event) =>
          (execute step next rest).map (fun found => ((action, event) :: found.1, found.2))

theorem execute_run {step : State → Action → Option (State × Event)}
    {relation : State → Action × Event → State → Prop}
    (hstep : ∀ state action next event, step state action = some (next, event) →
      relation state (action, event) next)
    {actions : List Action} {start : State} {found : List (Action × Event) × State}
    (h : execute step start actions = some found) : Run relation start found.1 found.2 := by
  induction actions generalizing start found with
  | nil =>
      obtain rfl := Option.some.inj h
      exact .nil start
  | cons action rest ih =>
      rw [execute] at h
      split at h
      · cases h
      · rename_i next event hfirst
        obtain ⟨later, hlater, rfl⟩ := Option.map_eq_some_iff.mp h
        exact (Run.single (hstep _ _ _ _ hfirst)).append (ih hlater)
