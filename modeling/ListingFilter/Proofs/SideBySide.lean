import ListingFilter.Proofs.NumberedBindings
/-!
# Computations side by side

Two computations are compared step by step: both fail with the same fault, or both give results that
are related. Computations that bind parameters start from the same numbered ones and end with the
same ones, as their values do not depend on what is related.
-/

namespace ListingFilter

variable {ε α β α' β' : Type} {R : α → β → Prop} {S : α' → β' → Prop}

theorem isEmpty_eq_of_forall₂ {values : List α} {others : List β}
    (h : List.Forall₂ R values others) : values.isEmpty = others.isEmpty := by
  cases h <;> rfl

/-- The same fault, or results that are related. -/
inductive SameOutcome (R : α → β → Prop) : Except ε α → Except ε β → Prop
  | ok {first : α} {second : β} (h : R first second) : SameOutcome R (.ok first) (.ok second)
  | error (fault : ε) : SameOutcome R (.error fault) (.error fault)

namespace SameOutcome

variable {first : Except ε α} {second : Except ε β}

theorem bind {next : α → Except ε α'} {next' : β → Except ε β'} (h : SameOutcome R first second)
    (hnext : ∀ value value', R value value' → SameOutcome S (next value) (next' value')) :
    SameOutcome S (first >>= next) (second >>= next') := by
  cases h with
  | ok h => exact hnext _ _ h
  | error fault => exact error fault

theorem map {f : α → α'} {g : β → β'} (h : SameOutcome R first second)
    (hmap : ∀ value value', R value value' → S (f value) (g value')) :
    SameOutcome S (first.map f) (second.map g) := by
  cases h with
  | ok h => exact ok (hmap _ _ h)
  | error fault => exact error fault

/-- A map over a list gives related results if each element does. -/
theorem mapM {γ : Type} {f : γ → Except ε α} {g : γ → Except ε β} {values : List γ}
    (h : ∀ value ∈ values, SameOutcome R (f value) (g value)) :
    SameOutcome (List.Forall₂ R) (values.mapM f) (values.mapM g) := by
  induction values with
  | nil => exact ok .nil
  | cons value values ih =>
    obtain ⟨hvalue, hvalues⟩ := List.forall_mem_cons.1 h
    rw [List.mapM_cons, List.mapM_cons]
    refine hvalue.bind fun result result' hresult => (ih hvalues).bind fun rest rest' hrest => ?_
    exact ok (.cons hresult hrest)

/-- What every step preserves, two runs over the same values preserve. -/
theorem foldlM {γ : Type} {step : α → γ → Except ε α} {step' : β → γ → Except ε β}
    {values : List γ}
    (hstep : ∀ value ∈ values, ∀ state state', R state state' →
      SameOutcome R (step state value) (step' state' value))
    {start : α} {start' : β} (h : R start start') :
    SameOutcome R (values.foldlM step start) (values.foldlM step' start') := by
  induction values generalizing start start' with
  | nil => exact ok h
  | cons value values ih =>
    obtain ⟨hvalue, hvalues⟩ := List.forall_mem_cons.1 hstep
    rw [List.foldlM_cons, List.foldlM_cons]
    exact (hvalue start start' h).bind fun _ _ hnext => ih hvalues hnext

theorem cases (h : SameOutcome R first second) :
    (∃ fault, first = .error fault ∧ second = .error fault) ∨
      ∃ value value', first = .ok value ∧ second = .ok value' ∧ R value value' := by
  cases h with
  | ok h => exact .inr ⟨_, _, rfl, rfl, h⟩
  | error fault => exact .inl ⟨fault, rfl, rfl⟩

/-- Results that are the images of others. -/
theorem eq_map {f : α → β} (h : SameOutcome (fun value image => image = f value) first second) :
    second = first.map f := by
  cases h with
  | ok h => rw [h, Except.map]
  | error fault => rfl

end SameOutcome

namespace Sql

/-- No brace opens in a parameter. -/
theorem notMem_param (n : Nat) : '\x7b' ∉ (":" ++ paramName n).toList := by
  intro hmem
  simp only [paramName, String.toList_append, List.mem_append] at hmem
  rcases hmem with hmem | hmem | hmem
  · exact absurd hmem (by decide +kernel)
  · exact absurd hmem (by decide +kernel)
  · rcases Numeral.mem_toString (n := n) hmem with heq | hdigit
    · cases heq
    · cases hdigit

/-- From the same numbered parameters both computations give related results, and again the same
numbered parameters, or fail with the same fault. -/
def SideBySide (R : α → β → Prop) (first : Binding α) (second : Binding β) : Prop :=
  ∀ ⦃start : Bindings⦄, start.IsNumbered →
    SameOutcome (fun result result' =>
      R result.1 result'.1 ∧ result.2 = result'.2 ∧ result.2.IsNumbered)
      (first start) (second start)

namespace SideBySide

variable {first : Binding α} {second : Binding β}

theorem pure {value : α} {value' : β} (h : R value value') :
    SideBySide R (Pure.pure value) (Pure.pure value') :=
  fun _ hstart => .ok ⟨h, rfl, hstart⟩

theorem bind {next : α → Binding α'} {next' : β → Binding β'} (h : SideBySide R first second)
    (hnext : ∀ value value', R value value' → SideBySide S (next value) (next' value')) :
    SideBySide S (first >>= next) (second >>= next') := by
  intro start hstart
  refine (h hstart).bind ?_
  rintro ⟨value, middle⟩ ⟨value', middle'⟩ ⟨hvalue, rfl, hmiddle⟩
  exact hnext value value' hvalue hmiddle

theorem map {f : α → α'} {g : β → β'} (h : SideBySide R first second)
    (hmap : ∀ value value', R value value' → S (f value) (g value')) :
    SideBySide S (f <$> first) (g <$> second) := by
  rw [map_eq_pure_bind, map_eq_pure_bind]
  exact h.bind fun value value' hvalue => pure (hmap value value' hvalue)

/-- A literal is the same text on both sides, and no brace opens in it. -/
theorem literal (value : Json) :
    SideBySide (fun text text' => text = text' ∧ '\x7b' ∉ text.toList) (literal value)
      (literal value) := by
  intro start hstart
  unfold Sql.literal
  cases hinline : inline? value with
  | some outcome =>
    cases outcome with
    | error fault => exact .error fault
    | ok text =>
      have hbrace : '\x7b' ∉ text.toList := by
        intro hmem
        cases isNumberCharacter_of_inline? hinline _ hmem
      exact .ok ⟨⟨rfl, hbrace⟩, rfl, hstart⟩
  | none =>
    cases value.display? with
    | none => exact .error _
    | some text =>
      obtain ⟨hname, -, hnext⟩ := hstart.bind text
      have hbrace : '\x7b' ∉ (start.bind text).1.toList := by
        rw [hname]
        exact notMem_param _
      exact .ok ⟨⟨rfl, hbrace⟩, rfl, hnext⟩

end SideBySide

end Sql

end ListingFilter
