import ListingFilter.Fault
import ListingFilter.Proofs.Outcomes
/-!
# Where a computation fails

A computation fails exactly where a proposition holds, and then by a fault of some value that it was
given. The rules put such propositions together along the computation: a sequence fails where one of
its halves does, a map or a fold where it fails for an element.
-/

namespace ListingFilter

/-- A value is a moment outside the calendar, or an integer that is too long to be written. -/
def Fault.IsOfValue : Fault → Prop
  | .outsideCalendar => True
  | .numeralTooLong => True
  | _ => False

/-- The computation fails exactly if `p` holds, and then because of a value. -/
structure FailsIff {α : Type} (p : Prop) (outcome : Except Fault α) : Prop where
  fails : p → ∃ fault, outcome = .error fault ∧ fault.IsOfValue
  returns : ¬ p → ∃ result, outcome = .ok result

namespace FailsIff

variable {α β σ : Type} {p q : Prop} {outcome : Except Fault α}

theorem of_ok {result : α} (h : outcome = .ok result) (hp : ¬ p) : FailsIff p outcome :=
  ⟨fun hfails => absurd hfails hp, fun _ => ⟨result, h⟩⟩

theorem of_error {fault : Fault} (h : outcome = .error fault) (hfault : fault.IsOfValue) (hp : p) :
    FailsIff p outcome :=
  ⟨fun _ => ⟨fault, h, hfault⟩, fun hreturns => absurd hp hreturns⟩

theorem congr (h : FailsIff p outcome) (hiff : q ↔ p) : FailsIff q outcome := by
  rwa [propext hiff]

theorem exists_error_iff (h : FailsIff p outcome) : (∃ fault, outcome = .error fault) ↔ p := by
  constructor
  · rintro ⟨fault, hfault⟩
    by_contra hp
    obtain ⟨result, hresult⟩ := h.returns hp
    rw [hresult] at hfault
    cases hfault
  · intro hp
    obtain ⟨fault, hfault, -⟩ := h.fails hp
    exact ⟨fault, hfault⟩

theorem bind {next : α → Except Fault β} (h : FailsIff p outcome)
    (hnext : ∀ result, outcome = .ok result → FailsIff q (next result)) :
    FailsIff (p ∨ q) (outcome >>= next) := by
  by_cases hp : p
  · obtain ⟨fault, hfault, hvalue⟩ := h.fails hp
    exact of_error (by rw [hfault]; rfl) hvalue (.inl hp)
  · obtain ⟨result, hresult⟩ := h.returns hp
    have hstep : outcome >>= next = next result := by
      rw [hresult]
      rfl
    rw [hstep]
    exact (hnext result hresult).congr (or_iff_right hp)

theorem map (h : FailsIff p outcome) (f : α → β) : FailsIff p (outcome.map f) where
  fails hp := by
    obtain ⟨fault, rfl, hvalue⟩ := h.fails hp
    exact ⟨fault, rfl, hvalue⟩
  returns hp := by
    obtain ⟨result, rfl⟩ := h.returns hp
    exact ⟨f result, rfl⟩

/-- A map fails if it fails for some element. -/
theorem mapM {f : α → Except Fault β} {fails : α → Prop} {values : List α}
    (h : ∀ value ∈ values, FailsIff (fails value) (f value)) :
    FailsIff (∃ value ∈ values, fails value) (values.mapM f) := by
  induction values with
  | nil => exact of_ok rfl (by simp)
  | cons value values ih =>
    rw [List.mapM_cons]
    have hrest := ih fun other hmem => h other (List.mem_cons_of_mem value hmem)
    refine FailsIff.congr ?_ (List.exists_mem_cons_iff _ _ _)
    exact (h value List.mem_cons_self).bind fun result _ => hrest.map (result :: ·)

/-- A fold fails if a step fails for some element, whatever state it has come to. -/
theorem foldlM {step : σ → α → Except Fault σ} {fails : α → Prop} {values : List α}
    (h : ∀ state, ∀ value ∈ values, FailsIff (fails value) (step state value)) (start : σ) :
    FailsIff (∃ value ∈ values, fails value) (values.foldlM step start) := by
  induction values generalizing start with
  | nil => exact of_ok rfl (by simp)
  | cons value values ih =>
    rw [List.foldlM_cons]
    have hrest := ih fun state other hmem => h state other (List.mem_cons_of_mem value hmem)
    refine FailsIff.congr ?_ (List.exists_mem_cons_iff _ _ _)
    exact (h start value List.mem_cons_self).bind fun next _ => hrest next

end FailsIff

end ListingFilter
