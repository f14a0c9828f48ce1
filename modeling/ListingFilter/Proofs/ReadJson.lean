import ListingFilter.Json.Reader
import ListingFilter.Proofs.CalendarBounds
import ListingFilter.Proofs.Controls
import ListingFilter.Proofs.Entries
/-!
# JSON that is read can be written

A value can be written if every integer in it can be. The reader refuses an integer with more digits
than a numeral may have, so whatever it reads can be written, however deep the value is nested.
-/

namespace ListingFilter.Json

/-! ### Values that can be written -/

/-- The value has a text. -/
def IsWritable (value : Json) : Prop := value.shown?.isSome = true

theorem isWritable_integer {n : Int} (h : n.natAbs < 10 ^ Numeral.digitLimit) :
    (Json.integer n).IsWritable := by
  rw [IsWritable, shown?, Numeral.write?_eq, if_pos h]
  rfl

theorem isSome_shownItems?_iff {items : List Json} :
    (shownItems? items).isSome = true ↔ ∀ item ∈ items, item.IsWritable := by
  induction items with
  | nil => simp [shownItems?]
  | cons item rest ih =>
    rw [List.forall_mem_cons, ← ih, IsWritable, shownItems?]
    cases item.shown? <;> cases shownItems? rest <;> simp

theorem isSome_shownMembers?_iff {members : List (String × Json)} :
    (shownMembers? members).isSome = true ↔ ∀ member ∈ members, member.2.IsWritable := by
  induction members with
  | nil => simp [shownMembers?]
  | cons member rest ih =>
    rw [List.forall_mem_cons, ← ih, IsWritable, shownMembers?]
    cases member.2.shown? <;> cases shownMembers? rest <;> simp

theorem isWritable_array_iff {items : List Json} :
    (Json.array items).IsWritable ↔ ∀ item ∈ items, item.IsWritable := by
  rw [IsWritable, shown?, Option.isSome_map, isSome_shownItems?_iff]

theorem isWritable_object_iff {members : List (String × Json)} :
    (Json.object members).IsWritable ↔ ∀ member ∈ members, member.2.IsWritable := by
  rw [IsWritable, shown?, Option.isSome_map, isSome_shownMembers?_iff]

/-- A value that can be written has a text by itself. -/
theorem IsWritable.exists_display? {value : Json} (h : value.IsWritable) :
    ∃ text, value.display? = some text := by
  obtain ⟨text, htext⟩ := Option.isSome_iff_exists.1 h
  cases value with
  | text own => exact ⟨own, rfl⟩
  | _ => exact ⟨text, htext⟩

/-! ### Values that are read -/

variable {cs rest : List Char} {value : Json}

theorem isWritable_of_number? {negative : Bool}
    (h : number? Numeral.digitLimit negative cs = some (value, rest)) : value.IsWritable := by
  simp only [number?] at h
  split_ifs at h with hempty hwhole hlength
  · obtain ⟨rfl, -⟩ := Prod.mk.inj (Option.some.inj h)
    refine isWritable_integer ?_
    rw [Numeral.natAbs_signed]
    exact (Numeral.value_lt _).trans_le (Nat.pow_le_pow_right (by decide) hlength)
  · obtain ⟨rfl, -⟩ := Prod.mk.inj (Option.some.inj h)
    rfl

theorem isWritable_of_simple? (h : simple? Numeral.digitLimit cs = some (value, rest)) :
    value.IsWritable := by
  unfold simple? at h
  split at h
  case h_8 => exact isWritable_of_number? h
  case h_9 => exact isWritable_of_number? h
  all_goals
    obtain ⟨read, -, hread⟩ := Option.map_eq_some_iff.1 h
    obtain ⟨rfl, -⟩ := Prod.mk.inj hread
    rfl

/-! The steps of the reader: what it read of a value, of an array or of an object, and what with. -/

variable {maxDigits fuel : Nat}

theorem value?_cases (h : value? maxDigits (fuel + 1) cs = some (value, rest)) :
    (∃ items, value = .array items ∧
      (items = [] ∨ ∃ cs rest, items? maxDigits fuel cs = some (items, rest))) ∨
    (∃ members, value = .object members ∧
      (members = [] ∨ ∃ cs rest, members? maxDigits fuel [] cs = some (members, rest))) ∨
    simple? maxDigits cs = some (value, rest) := by
  unfold value? at h
  split at h
  case h_1 hfuel => cases hfuel
  case h_2 after hfuel =>
    cases hfuel
    split at h
    · obtain ⟨rfl, -⟩ := Prod.mk.inj (Option.some.inj h)
      exact .inl ⟨[], rfl, .inl rfl⟩
    · obtain ⟨⟨items, after⟩, hitems, hread⟩ := Option.map_eq_some_iff.1 h
      obtain ⟨rfl, -⟩ := Prod.mk.inj hread
      exact .inl ⟨items, rfl, .inr ⟨_, after, hitems⟩⟩
  case h_3 after hfuel =>
    cases hfuel
    split at h
    · obtain ⟨rfl, -⟩ := Prod.mk.inj (Option.some.inj h)
      exact .inr (.inl ⟨[], rfl, .inl rfl⟩)
    · obtain ⟨⟨members, after⟩, hmembers, hread⟩ := Option.map_eq_some_iff.1 h
      obtain ⟨rfl, -⟩ := Prod.mk.inj hread
      exact .inr (.inl ⟨members, rfl, .inr ⟨_, after, hmembers⟩⟩)
  case h_4 => exact .inr (.inr h)

theorem items?_cases {items : List Json}
    (h : items? maxDigits (fuel + 1) cs = some (items, rest)) :
    ∃ first after, value? maxDigits fuel cs = some (first, after) ∧
      (items = [first] ∨ ∃ others cs rest, items? maxDigits fuel cs = some (others, rest) ∧
        items = first :: others) := by
  simp only [items?] at h
  split at h
  · cases h
  · rename_i first after hfirst
    refine ⟨first, after, hfirst, ?_⟩
    split at h
    · obtain ⟨⟨others, after⟩, hothers, hread⟩ := Option.map_eq_some_iff.1 h
      obtain ⟨rfl, -⟩ := Prod.mk.inj hread
      exact .inr ⟨others, _, after, hothers, rfl⟩
    · obtain ⟨rfl, -⟩ := Prod.mk.inj (Option.some.inj h)
      exact .inl rfl
    · cases h

theorem members?_cases {done members : List (String × Json)}
    (h : members? maxDigits (fuel + 1) done cs = some (members, rest)) :
    ∃ name own cs after, value? maxDigits fuel cs = some (own, after) ∧
      (members = assign done name own ∨
        ∃ cs rest, members? maxDigits fuel (assign done name own) cs = some (members, rest)) := by
  unfold members? at h
  split at h
  case h_1 hfuel => cases hfuel
  case h_2 hfuel =>
    cases hfuel
    split at h
    · cases h
    · rename_i name _ _
      split at h
      · split at h
        · cases h
        · rename_i own after hown
          refine ⟨name, own, _, after, hown, ?_⟩
          simp only at h
          split at h
          · exact .inr ⟨_, rest, h⟩
          · exact .inl (Prod.mk.inj (Option.some.inj h)).1.symm
          · cases h
      · cases h
  case h_3 => cases h

/-- What the reader reads can be written: a value, the items of an array, and the members of an
object if those before them can be. -/
theorem isWritable_of_reader (fuel : Nat) :
    (∀ cs value rest, value? Numeral.digitLimit fuel cs = some (value, rest) →
      value.IsWritable) ∧
    (∀ cs items rest, items? Numeral.digitLimit fuel cs = some (items, rest) →
      ∀ item ∈ items, item.IsWritable) ∧
    ∀ done cs members rest, members? Numeral.digitLimit fuel done cs = some (members, rest) →
      (∀ member ∈ done, member.2.IsWritable) → ∀ member ∈ members, member.2.IsWritable := by
  induction fuel with
  | zero =>
    refine ⟨fun cs value rest h => ?_, fun cs items rest h => ?_, fun done cs members rest h => ?_⟩
    · simp [value?] at h
    · simp [items?] at h
    · simp [members?] at h
  | succ fuel ih =>
    obtain ⟨ihvalue, ihitems, ihmembers⟩ := ih
    refine ⟨fun cs value rest h => ?_, fun cs items rest h => ?_,
      fun done cs members rest h hdone => ?_⟩
    · rcases value?_cases h with ⟨items, rfl, rfl | ⟨cs, rest, hitems⟩⟩ |
        ⟨members, rfl, rfl | ⟨cs, rest, hmembers⟩⟩ | hsimple
      · exact isWritable_array_iff.2 (List.forall_mem_nil _)
      · exact isWritable_array_iff.2 (ihitems cs items rest hitems)
      · exact isWritable_object_iff.2 (List.forall_mem_nil _)
      · exact isWritable_object_iff.2
          (ihmembers [] cs members rest hmembers (List.forall_mem_nil _))
      · exact isWritable_of_simple? hsimple
    · obtain ⟨first, after, hfirst, rfl | ⟨others, cs, rest, hothers, rfl⟩⟩ := items?_cases h
      · exact List.forall_mem_singleton.2 (ihvalue _ _ _ hfirst)
      · exact List.forall_mem_cons.2 ⟨ihvalue _ _ _ hfirst, ihitems cs others rest hothers⟩
    · obtain ⟨name, own, cs, after, hown, hmembers⟩ := members?_cases h
      have hassigned : ∀ member ∈ assign done name own, member.2.IsWritable := by
        intro member hmember
        rcases mem_assign hmember with hmember | rfl
        · exact hdone member hmember
        · exact ihvalue cs own after hown
      rcases hmembers with rfl | ⟨cs, rest, hmembers⟩
      · exact hassigned
      · exact ihmembers _ cs members rest hmembers hassigned

/-- A value that a text holds can be written. -/
theorem isWritable_of_read? {source : String}
    (h : read? Numeral.digitLimit source = some value) : value.IsWritable := by
  simp only [read?] at h
  split at h
  · rename_i found rest hfound
    split_ifs at h
    obtain rfl := Option.some.inj h
    exact (isWritable_of_reader _).1 _ _ _ hfound
  · cases h

end ListingFilter.Json
