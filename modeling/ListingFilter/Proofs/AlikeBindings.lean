import ListingFilter.Sql.Bindings
import ListingFilter.Proofs.Outcomes
/-!
# Computations that do not depend on the bound texts

Two computations are alike if they give the same result, and bind parameters of the same names,
whenever they start from parameters of the same names. What the parameters stand for may differ. A
literal of a text is alike to a literal of any other text, as only the name of its parameter enters
the statement.
-/

namespace ListingFilter.Sql

namespace Bindings

/-- The names of the parameters, in order. -/
def names (bindings : Bindings) : List String := bindings.entries.map (·.1)

/-- Parameters of the same names, with the same stem for names to come. -/
structure SameNames (first second : Bindings) : Prop where
  stem : first.stem = second.stem
  names : first.names = second.names

theorem SameNames.length {first second : Bindings} (h : first.SameNames second) :
    first.entries.length = second.entries.length := by
  simpa [Bindings.names] using congrArg List.length h.names

/-- The next name depends on the names only. -/
theorem SameNames.freshName {first second : Bindings} (h : first.SameNames second) :
    first.freshName = second.freshName := by
  have hnames : first.entries.map (·.1) = second.entries.map (·.1) := h.names
  rw [Bindings.freshName, Bindings.freshName, h.stem, h.length, hnames]

theorem SameNames.bind {first second : Bindings} (h : first.SameNames second)
    (value other : String) :
    (first.bind value).1 = (second.bind other).1 ∧
      (first.bind value).2.SameNames (second.bind other).2 := by
  refine ⟨?_, h.stem, ?_⟩
  · simp only [Bindings.bind, h.freshName]
  · have hnames : first.entries.map (·.1) = second.entries.map (·.1) := h.names
    simp only [Bindings.bind, Bindings.names, List.map_append, hnames, List.map_cons, List.map_nil,
      h.freshName]

end Bindings

variable {α β : Type}

/-- The same result under the same names, if both give one. -/
def Alike (first second : Binding α) : Prop :=
  ∀ ⦃start start' : Bindings⦄ ⦃result result' : α × Bindings⦄, start.SameNames start' →
    first start = .ok result → second start' = .ok result' →
    result.1 = result'.1 ∧ result.2.SameNames result'.2

namespace Alike

theorem pure (value : α) : Alike (pure value) (pure value) := by
  intro start start' result result' hstart hfirst hsecond
  obtain rfl := Except.ok.inj hfirst
  obtain rfl := Except.ok.inj hsecond
  exact ⟨rfl, hstart⟩

theorem bind {first second : Binding α} {next next' : α → Binding β} (h : Alike first second)
    (hnext : ∀ value, Alike (next value) (next' value)) :
    Alike (first >>= next) (second >>= next') := by
  intro start start' result result' hstart hfirst hsecond
  obtain ⟨value, middle, hvalue, hrest⟩ := stateBind_eq_ok_iff.1 hfirst
  obtain ⟨value', middle', hvalue', hrest'⟩ := stateBind_eq_ok_iff.1 hsecond
  obtain ⟨heq, hmiddle⟩ := h hstart hvalue hvalue'
  obtain rfl : value = value' := heq
  exact hnext value hmiddle hrest hrest'

theorem map {first second : Binding α} (f : α → β) (h : Alike first second) :
    Alike (f <$> first) (f <$> second) := by
  rw [map_eq_pure_bind, map_eq_pure_bind]
  exact h.bind fun value => Alike.pure (f value)

theorem ite {p q : Prop} [Decidable p] [Decidable q] {first second first' second' : Binding α}
    (hiff : p ↔ q) (hthen : Alike first second) (helse : Alike first' second') :
    Alike (if p then first else first') (if q then second else second') := by
  by_cases hp : p
  · rwa [if_pos hp, if_pos (hiff.1 hp)]
  · rwa [if_neg hp, if_neg fun hq => hp (hiff.2 hq)]

/-- Texts are bound, so their literals do not tell them apart. -/
theorem literal_text (value other : String) :
    Alike (literal (.text value)) (literal (.text other)) := by
  intro start start' result result' hstart hfirst hsecond
  obtain rfl := Except.ok.inj hfirst
  obtain rfl := Except.ok.inj hsecond
  exact hstart.bind value other

theorem containsPattern (part other : String) :
    Alike (containsPattern part) (containsPattern other) :=
  literal_text _ _

/-- A value is alike to itself, whether it is inlined or bound. -/
theorem literal (value : Json) : Alike (literal value) (literal value) := by
  intro start start' result result' hstart hfirst hsecond
  unfold Sql.literal at hfirst hsecond
  cases hinline : inline? value with
  | some outcome =>
    cases outcome with
    | error fault => simp [hinline] at hfirst
    | ok text =>
      simp only [hinline, Except.ok.injEq] at hfirst hsecond
      exact hfirst ▸ hsecond ▸ ⟨rfl, hstart⟩
  | none =>
    cases hdisplay : value.display? with
    | none => simp [hinline, hdisplay] at hfirst
    | some text =>
      simp only [hinline, hdisplay, Except.ok.injEq] at hfirst hsecond
      exact hfirst ▸ hsecond ▸ hstart.bind text text

end Alike

end ListingFilter.Sql
