import Mathlib.Tactic

/-!
Rules for computations in `Except` written as `do` blocks: what follows from
their success, and how a property of every error is kept by sequencing.
-/

namespace Fallible

variable {ε α β : Type}

@[simp] theorem ok_bind (value : α) (next : α → Except ε β) :
    ((.ok value : Except ε α) >>= next) = next value := rfl

@[simp] theorem error_bind (error : ε) (next : α → Except ε β) :
    ((.error error : Except ε α) >>= next) = .error error := rfl

theorem bind_eq {first other : Except ε α} {next otherNext : α → Except ε β}
    (hfirst : first = other) (hnext : ∀ value, next value = otherNext value) :
    first >>= next = other >>= otherNext := by
  rw [hfirst]
  exact bind_congr hnext

theorem bind_ok {first : Except ε α} {next : α → Except ε β} {result : β}
    (h : first >>= next = .ok result) :
    ∃ value, first = .ok value ∧ next value = .ok result := by
  cases first with
  | error _ => cases h
  | ok value => exact ⟨value, rfl, h⟩

/-- A guard that throws: the rest has run, so the condition was false. -/
theorem guard_ok {condition : Prop} [Decidable condition] {error : ε}
    {rest : Unit → Except ε β} {result : β}
    (h : (if condition then throw error >>= rest else rest ()) = .ok result) :
    ¬ condition ∧ rest () = .ok result := by
  split at h
  · cases h
  · exact ⟨‹_›, h⟩

/-! ### Lists -/

/-- The steps over a list succeed with the results of the single steps. -/
theorem mapM_ok_iff {step : α → Except ε β} {items : List α} {results : List β} :
    items.mapM step = .ok results ↔
      List.Forall₂ (fun item result => step item = .ok result) items results := by
  induction items generalizing results with
  | nil =>
      rw [List.mapM_nil, List.forall₂_nil_left_iff]
      constructor
      · intro h
        exact (Except.ok.inj h).symm
      · rintro rfl
        rfl
  | cons item rest ih =>
      rw [List.mapM_cons]
      constructor
      · intro h
        obtain ⟨result, hresult, h⟩ := bind_ok h
        obtain ⟨others, hothers, h⟩ := bind_ok h
        obtain rfl := Except.ok.inj h
        exact .cons hresult (ih.mp hothers)
      · intro h
        cases h with
        | cons hresult hothers =>
            rw [hresult, ok_bind, ih.mpr hothers]
            rfl

/-- The steps over a list fail as the first of the single steps that fails. -/
theorem mapM_error_iff {step : α → Except ε β} {items : List α} {error : ε} :
    items.mapM step = .error error ↔
      ∃ before item after, items = before ++ item :: after ∧
        (∀ passed ∈ before, ∃ result, step passed = .ok result) ∧ step item = .error error := by
  induction items with
  | nil => simp [pure, Except.pure]
  | cons item rest ih =>
      rw [List.mapM_cons]
      cases hfirst : step item with
      | error raised =>
          rw [error_bind, Except.error.injEq]
          constructor
          · rintro rfl
            exact ⟨[], item, rest, rfl, by simp, hfirst⟩
          · rintro ⟨before, failed, after, hitems, hpassed, hfailed⟩
            cases before with
            | nil =>
                obtain ⟨rfl, _⟩ := List.cons.inj hitems
                exact Except.error.inj (hfirst.symm.trans hfailed)
            | cons passed others =>
                obtain ⟨rfl, _⟩ := List.cons.inj hitems
                obtain ⟨result, hresult⟩ := hpassed _ List.mem_cons_self
                rw [hfirst] at hresult
                cases hresult
      | ok result =>
          have hrest : (rest.mapM step >>= fun results => pure (result :: results)) = .error error ↔
              rest.mapM step = .error error := by
            cases rest.mapM step with
            | error raised => rw [error_bind]
            | ok results =>
                rw [ok_bind]
                exact iff_of_false (fun h => nomatch h) (fun h => nomatch h)
          rw [ok_bind, hrest, ih]
          constructor
          · rintro ⟨before, failed, after, rfl, hpassed, hfailed⟩
            refine ⟨item :: before, failed, after, rfl, ?_, hfailed⟩
            rintro passed hmem
            rcases List.mem_cons.mp hmem with rfl | hmem
            · exact ⟨result, hfirst⟩
            · exact hpassed passed hmem
          · rintro ⟨before, failed, after, hitems, hpassed, hfailed⟩
            cases before with
            | nil =>
                obtain ⟨rfl, _⟩ := List.cons.inj hitems
                rw [hfirst] at hfailed
                cases hfailed
            | cons passed others =>
                obtain ⟨rfl, rfl⟩ := List.cons.inj hitems
                exact ⟨others, failed, after, rfl,
                  fun other hmem => hpassed other (List.mem_cons_of_mem _ hmem), hfailed⟩

/-- Every error that the computation ends with has the property. -/
def Errors (P : ε → Prop) (computation : Except ε α) : Prop :=
  ∀ error, computation = .error error → P error

namespace Errors

variable {P : ε → Prop}

theorem ok (value : α) : Errors P (.ok value) := by
  intro error h
  cases h

theorem error {error : ε} (h : P error) : Errors P (.error error : Except ε α) := by
  intro other heq
  cases heq
  exact h

theorem bind {first : Except ε α} {next : α → Except ε β} (hfirst : Errors P first)
    (hnext : ∀ value, first = .ok value → Errors P (next value)) : Errors P (first >>= next) := by
  cases hvalue : first with
  | error raised => exact .error (hfirst raised hvalue)
  | ok value => exact hnext value hvalue

theorem guard {condition : Prop} [Decidable condition] {raised : ε} {rest : Unit → Except ε β}
    (hraised : P raised) (hrest : ¬ condition → Errors P (rest ())) :
    Errors P (if condition then throw raised >>= rest else rest ()) := by
  split
  · exact .error hraised
  · exact hrest ‹_›

end Errors

end Fallible
