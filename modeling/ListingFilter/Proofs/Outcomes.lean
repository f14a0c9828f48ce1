import Mathlib.Data.List.Forall2
/-!
# Computations that may fail

A computation in `Except` that gives a result is taken apart into its steps: a sequence into its two
halves, a map over a list into one result for each element.
-/

namespace ListingFilter

variable {ε α β : Type}

theorem eq_ok_of_toOption {outcome : Except ε α} {result : α}
    (h : outcome.toOption = some result) : outcome = .ok result := by
  cases outcome with
  | error fault => cases h
  | ok value => rw [Option.some.inj h]

theorem map_eq_ok_iff {outcome : Except ε α} {f : α → β} {result : β} :
    outcome.map f = .ok result ↔ ∃ value, outcome = .ok value ∧ f value = result := by
  cases outcome <;> simp [Except.map]

theorem map_eq_error_iff {outcome : Except ε α} {f : α → β} {fault : ε} :
    outcome.map f = .error fault ↔ outcome = .error fault := by
  cases outcome <;> simp [Except.map]

theorem bind_eq_ok_iff {outcome : Except ε α} {next : α → Except ε β} {result : β} :
    (outcome >>= next) = .ok result ↔ ∃ value, outcome = .ok value ∧ next value = .ok result := by
  cases outcome <;> simp [Bind.bind, Except.bind]

/-- A map over a list gives results if each element gives its own. -/
theorem mapM_eq_ok_iff {f : α → Except ε β} {values : List α} {results : List β} :
    values.mapM f = .ok results ↔
      List.Forall₂ (fun value result => f value = .ok result) values results := by
  induction values generalizing results with
  | nil => cases results <;> simp [pure, Except.pure]
  | cons value values ih =>
    rw [List.mapM_cons, bind_eq_ok_iff, List.forall₂_cons_left_iff]
    constructor
    · rintro ⟨result, hvalue, hrest⟩
      obtain ⟨rest, hvalues, hpure⟩ := bind_eq_ok_iff.1 hrest
      exact ⟨result, rest, hvalue, ih.1 hvalues, (Except.ok.inj hpure).symm⟩
    · rintro ⟨result, rest, hvalue, hvalues, rfl⟩
      exact ⟨result, hvalue, bind_eq_ok_iff.2 ⟨rest, ih.2 hvalues, rfl⟩⟩

/-- Each result is that of some element. -/
theorem exists_mem_of_mapM_eq_ok {f : α → Except ε β} {values : List α} {results : List β}
    (h : values.mapM f = .ok results) {result : β} (hmem : result ∈ results) :
    ∃ value ∈ values, f value = .ok result := by
  induction mapM_eq_ok_iff.1 h with
  | nil => cases hmem
  | @cons value first values rest hvalue hrest ih =>
    rcases List.mem_cons.1 hmem with rfl | hmem
    · exact ⟨value, List.mem_cons_self, hvalue⟩
    · obtain ⟨other, hother, hresult⟩ := ih (mapM_eq_ok_iff.2 hrest) hmem
      exact ⟨other, List.mem_cons_of_mem value hother, hresult⟩

/-- A map over a list fails where it fails for some element. -/
theorem exists_mem_of_mapM_eq_error {f : α → Except ε β} {values : List α} {fault : ε}
    (h : values.mapM f = .error fault) : ∃ value ∈ values, f value = .error fault := by
  induction values with
  | nil => cases h
  | cons value values ih =>
    rw [List.mapM_cons] at h
    cases hvalue : f value with
    | error other =>
      rw [hvalue] at h
      exact ⟨value, List.mem_cons_self, by rw [hvalue, ← Except.error.inj h]⟩
    | ok result =>
      rw [hvalue] at h
      cases hrest : values.mapM f with
      | ok results => simp [hrest, bind, Except.bind, pure, Except.pure] at h
      | error other =>
        simp only [hrest, bind, Except.bind] at h
        obtain ⟨found, hfound, hfault⟩ := ih (by rw [hrest, ← Except.error.inj h])
        exact ⟨found, List.mem_cons_of_mem value hfound, hfault⟩

/-- What every step preserves, a run preserves. -/
theorem foldlM_preserves {holds : β → Prop} {step : β → α → Except ε β} {values : List α}
    {start result : β}
    (hstep : ∀ state value next, holds state → step state value = .ok next → holds next)
    (hstart : holds start) (h : values.foldlM step start = .ok result) : holds result := by
  induction values generalizing start with
  | nil =>
    obtain rfl := Except.ok.inj h
    exact hstart
  | cons value values ih =>
    obtain ⟨next, hnext, hrest⟩ := bind_eq_ok_iff.1 h
    exact ih (hstep start value next hstart hnext) hrest

/-! ### Computations with a state -/

section State

variable {σ : Type}

theorem stateBind_eq_ok_iff {first : StateT σ (Except ε) α} {next : α → StateT σ (Except ε) β}
    {state : σ} {result : β × σ} :
    (first >>= next) state = .ok result ↔
      ∃ value state', first state = .ok (value, state') ∧ next value state' = .ok result := by
  constructor
  · intro h
    obtain ⟨⟨value, state'⟩, hfirst, hnext⟩ := bind_eq_ok_iff.1 h
    exact ⟨value, state', hfirst, hnext⟩
  · rintro ⟨value, state', hfirst, hnext⟩
    exact bind_eq_ok_iff.2 ⟨(value, state'), hfirst, hnext⟩

theorem stateMap_eq_ok_iff {first : StateT σ (Except ε) α} {f : α → β} {state state' : σ}
    {result : β} :
    (f <$> first) state = .ok (result, state') ↔
      ∃ value, first state = .ok (value, state') ∧ f value = result := by
  rw [map_eq_pure_bind, stateBind_eq_ok_iff]
  constructor
  · rintro ⟨value, middle, hfirst, hpure⟩
    obtain ⟨rfl, rfl⟩ := Prod.mk.inj (Except.ok.inj hpure)
    exact ⟨value, hfirst, rfl⟩
  · rintro ⟨value, hfirst, rfl⟩
    exact ⟨value, state', hfirst, rfl⟩

/-- Each result of a map is that of its element, in some state. -/
theorem forall₂_of_mapM_eq_ok {f : α → StateT σ (Except ε) β} {values : List α} {results : List β}
    {state state' : σ} (h : values.mapM f state = .ok (results, state')) :
    List.Forall₂ (fun value result => ∃ before after, f value before = .ok (result, after))
      values results := by
  induction values generalizing results state with
  | nil =>
    obtain ⟨rfl, -⟩ := Prod.mk.inj (Except.ok.inj h)
    exact List.Forall₂.nil
  | cons value values ih =>
    rw [List.mapM_cons] at h
    obtain ⟨result, middle, hvalue, hrest⟩ := stateBind_eq_ok_iff.1 h
    obtain ⟨rest, last, hvalues, hpure⟩ := stateBind_eq_ok_iff.1 hrest
    obtain ⟨rfl, rfl⟩ := Prod.mk.inj (Except.ok.inj hpure)
    exact List.Forall₂.cons ⟨state, middle, hvalue⟩ (ih hvalues)

theorem mapM_append_singleton_eq_ok {f : α → StateT σ (Except ε) β} {values : List α} {last : α}
    {state middle state' : σ} {results : List β} {result : β}
    (hvalues : values.mapM f state = .ok (results, middle))
    (hlast : f last middle = .ok (result, state')) :
    (values ++ [last]).mapM f state = .ok (results ++ [result], state') := by
  rw [List.mapM_append, stateBind_eq_ok_iff]
  refine ⟨results, middle, hvalues, ?_⟩
  rw [List.mapM_cons, List.mapM_nil, bind_assoc, stateBind_eq_ok_iff]
  exact ⟨result, state', hlast, rfl⟩

end State

end ListingFilter
