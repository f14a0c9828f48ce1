import ListingFilter.Clause.FreeText
import ListingFilter.Proofs.Controls
import ListingFilter.Proofs.Failures
/-!
# Conditions that cannot be written

Texts are bound as parameters and always may be. An integer stands in the condition itself, so a
condition cannot be written exactly if it compares a column with an integer that is too long.
-/

namespace ListingFilter

open Sql (Binding literal containsPattern)

/-! ### Bindings -/

/-- The computation fails exactly if `p` holds, whatever is bound before it. -/
def BindsUnless {α : Type} (p : Prop) (binding : Binding α) : Prop :=
  ∀ bindings, FailsIff p (binding bindings)

namespace BindsUnless

variable {α β : Type} {p q : Prop} {binding : Binding α}

theorem pure (value : α) : BindsUnless False (Pure.pure value : Binding α) :=
  fun _ => FailsIff.of_ok rfl not_false

theorem congr (h : BindsUnless p binding) (hiff : q ↔ p) : BindsUnless q binding :=
  fun bindings => (h bindings).congr hiff

theorem bind {next : α → Binding β} (h : BindsUnless p binding)
    (hnext : ∀ value, BindsUnless q (next value)) : BindsUnless (p ∨ q) (binding >>= next) :=
  fun bindings => (h bindings).bind fun result _ => hnext result.1 result.2

/-- What follows a computation may decide alone, or the computation may. -/
theorem bind_next {next : α → Binding β} (h : BindsUnless False binding)
    (hnext : ∀ value, BindsUnless q (next value)) : BindsUnless q (binding >>= next) :=
  (h.bind hnext).congr (by rw [false_or])

theorem bind_first {next : α → Binding β} (h : BindsUnless p binding)
    (hnext : ∀ value, BindsUnless False (next value)) : BindsUnless p (binding >>= next) :=
  (h.bind hnext).congr (by rw [or_false])

theorem map (h : BindsUnless p binding) (f : α → β) : BindsUnless p (f <$> binding) := by
  rw [map_eq_pure_bind]
  exact h.bind_first fun value => pure (f value)

end BindsUnless

/-! ### Literals -/

theorem bindsUnless_text (text : String) : BindsUnless False (literal (.text text)) :=
  fun _ => FailsIff.of_ok rfl not_false

theorem bindsUnless_containsPattern (part : String) : BindsUnless False (containsPattern part) :=
  bindsUnless_text _

/-- The keyword is an integer that is too long to be written. -/
def Keyword.IsTooLong (keyword : Keyword) : Prop :=
  keyword.type = .integer ∧ 10 ^ Numeral.digitLimit ≤ keyword.integer.natAbs

theorem Keyword.IsTooLong.isNumeric {keyword : Keyword} (h : keyword.IsTooLong) :
    keyword.isNumeric = true := by
  simp [Keyword.isNumeric, h.1, ValueType.isNumeric]

/-- A number stands in a condition as it is written. -/
theorem bindsUnless_number (keyword : Keyword) :
    BindsUnless keyword.IsTooLong (literal keyword.number) := by
  intro bindings
  by_cases htype : keyword.type = .integer
  · rw [Keyword.number, if_pos htype, literal, Sql.inline?, Numeral.write?_eq]
    by_cases hshort : keyword.integer.natAbs < 10 ^ Numeral.digitLimit
    · rw [if_pos hshort]
      exact FailsIff.of_ok rfl fun hlong => absurd hshort (not_lt.2 hlong.2)
    · rw [if_neg hshort]
      exact FailsIff.of_error rfl trivial ⟨htype, not_lt.1 hshort⟩
  · rw [Keyword.number, if_neg htype, literal, Sql.inline?]
    split_ifs <;> exact FailsIff.of_ok rfl fun hlong => htype hlong.1

namespace Condition

/-- The keyword compares a number with an expression of the type. -/
def ComparesNumber (type : ValueType) (keyword : Keyword) : Prop :=
  type.isNumeric = true ∧
    ∃ comparison ∈ [Comparison.equal, .above, .below], keyword.relation = .column comparison

theorem bindsUnless_onColumn (expr : String) (type : ValueType) (keyword : Keyword) :
    BindsUnless (keyword.IsTooLong ∧ ComparesNumber type keyword) (onColumn expr type keyword) := by
  unfold onColumn ComparesNumber
  cases hrelation : keyword.relation with
  | none => exact (BindsUnless.pure _).congr (by simp)
  | approx => exact (BindsUnless.pure _).congr (by simp)
  | column comparison =>
    cases comparison with
    | approx =>
      exact ((bindsUnless_containsPattern _).bind_next fun _ => BindsUnless.pure _).congr (by simp)
    | regexp => exact ((bindsUnless_text _).bind_next fun _ => BindsUnless.pure _).congr (by simp)
    | equal | above | below =>
      dsimp only [Comparison.operator?]
      split_ifs with hnumeric hempty
      · rw [Bool.and_eq_true] at hnumeric
        exact ((bindsUnless_number keyword).bind_first fun _ => BindsUnless.pure _).congr
          (by simp [hnumeric.2])
      all_goals
        refine ((bindsUnless_text _).bind_next fun _ => BindsUnless.pure _).congr ?_
        refine iff_of_false ?_ not_false
        rintro ⟨hlong, htype, -⟩
        simp [hlong.isNumeric, htype] at hnumeric

theorem bindsUnless_onReference (table type : String) (keyword : Keyword) :
    BindsUnless False (onReference table type keyword) := by
  unfold onReference
  split_ifs
  · exact BindsUnless.pure _
  · exact (bindsUnless_text _).bind_next fun _ => BindsUnless.pure _

theorem bindsUnless_hasTag (table resourceType tag : String) :
    BindsUnless False (hasTag table resourceType tag) :=
  (bindsUnless_text _).bind_next fun _ => BindsUnless.pure _

theorem bindsUnless_onTagColumn (column : String) (comparison : Comparison) (text : String) :
    BindsUnless False (onTagColumn column comparison text) := by
  cases comparison with
  | equal | regexp => exact (bindsUnless_text _).bind_next fun _ => BindsUnless.pure _
  | approx => exact (bindsUnless_containsPattern _).bind_next fun _ => BindsUnless.pure _
  | above | below => exact BindsUnless.pure _

theorem bindsUnless_onTag (table resourceType : String) (comparison : Comparison) (text : String) :
    BindsUnless False (onTag table resourceType comparison text) := by
  unfold onTag
  refine (bindsUnless_onTagColumn _ _ _).bind_next fun name => ?_
  cases name with
  | none => exact BindsUnless.pure _
  | some nameCondition =>
    dsimp only
    split
    · exact (BindsUnless.pure _).bind_next fun _ =>
        (bindsUnless_hasTag _ _ _).bind_next fun _ => BindsUnless.pure _
    · exact (bindsUnless_onTagColumn _ _ _).bind_next fun _ =>
        (BindsUnless.pure _).bind_next fun _ =>
          (bindsUnless_hasTag _ _ _).bind_next fun _ => BindsUnless.pure _

theorem bindsUnless_onTagId (table resourceType : String) (comparison : Comparison)
    (text : String) : BindsUnless False (onTagId table resourceType comparison text) := by
  unfold onTagId
  split_ifs
  · exact (bindsUnless_text _).bind_next fun _ =>
      (bindsUnless_hasTag _ _ _).bind_next fun _ => BindsUnless.pure _
  · exact BindsUnless.pure _

theorem bindsUnless_onTagTerm (table resourceType column : String) (keyword : Keyword) :
    BindsUnless False (onTagTerm table resourceType column keyword) := by
  unfold onTagTerm
  split
  · split_ifs
    · exact bindsUnless_onTagId _ _ _ _
    · exact bindsUnless_onTag _ _ _ _
  · exact BindsUnless.pure _

end Condition

/-! ### Free text -/

theorem bindsUnless_freeTextOperand (keyword : Keyword) (regexp : Bool) :
    BindsUnless False (freeTextOperand keyword regexp) := by
  unfold freeTextOperand
  split
  · exact bindsUnless_containsPattern _
  · exact bindsUnless_text _

/-- An exact text that is a number is compared with every numeric column. -/
theorem bindsUnless_bindProbes (keyword : Keyword) (regexp : Bool) (shared : Option String)
    (columns : List Column) :
    BindsUnless (keyword.IsTooLong ∧ keyword.equal = true ∧
      ∃ column ∈ columns, column.type.isNumeric = true)
      (bindProbes keyword regexp shared columns) := by
  induction columns generalizing shared with
  | nil => exact (BindsUnless.pure _).congr (by simp)
  | cons column rest ih =>
    unfold bindProbes
    split_ifs with hnumeric
    · simp only [Bool.and_eq_true] at hnumeric
      obtain ⟨⟨hequal, -⟩, htype⟩ := hnumeric
      refine ((bindsUnless_number keyword).bind fun _ =>
        (ih shared).bind_first fun _ => BindsUnless.pure _).congr ?_
      simp only [List.exists_mem_cons_iff, hequal, htype, true_or, true_and, and_true]
      exact (or_iff_left_of_imp And.left).symm
    · have hcolumn : keyword.IsTooLong → keyword.equal = true → column.type.isNumeric = false := by
        intro hlong hequal
        simpa [hlong.isNumeric, hequal] using hnumeric
      have hiff : (keyword.IsTooLong ∧ keyword.equal = true ∧
          ∃ other ∈ column :: rest, other.type.isNumeric = true) ↔
          keyword.IsTooLong ∧ keyword.equal = true ∧
            ∃ other ∈ rest, other.type.isNumeric = true := by
        rw [List.exists_mem_cons_iff]
        refine and_congr_right fun hlong => and_congr_right fun hequal => ?_
        rw [hcolumn hlong hequal]
        exact or_iff_right Bool.false_ne_true
      cases shared with
      | some operand =>
        exact ((BindsUnless.pure operand).bind_next fun operand =>
          (ih (some operand)).bind_first fun _ => BindsUnless.pure _).congr hiff
      | none =>
        exact ((bindsUnless_freeTextOperand keyword regexp).bind_next fun operand =>
          (ih (some operand)).bind_first fun _ => BindsUnless.pure _).congr hiff

end ListingFilter
