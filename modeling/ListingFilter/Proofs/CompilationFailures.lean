import ListingFilter.Proofs.BoundNames
import ListingFilter.Proofs.ConditionFailures
import ListingFilter.Proofs.SplitFailures
/-!
# Filters that cannot be compiled

A filter on a built-in resource type cannot be compiled if its term cannot be split, or if a
condition would hold an integer that is too long. Nothing else fails: the slots of the sort
templates are known and plain, and the page is made of integers that were checked when the term was
split.
-/

namespace ListingFilter

/-! ### Sort templates -/

namespace Sql.Template

/-- The slots that a sort template may have. -/
def slotNames : List String := ["column", "table", "direction"]

/-- The piece is a character, or a plain slot that a sort template may have. -/
def Piece.IsFillable : Piece → Prop
  | .text _ => True
  | .slot s => s.IsPlain ∧ String.ofList s.name ∈ slotNames
  | .broken => False

instance (piece : Piece) : Decidable piece.IsFillable :=
  match piece with
  | .text _ => .isTrue trivial
  | .slot slot =>
    inferInstanceAs (Decidable (slot.IsPlain ∧ String.ofList slot.name ∈ slotNames))
  | .broken => .isFalse not_false

/-- Whatever the values of its slots are, the template can be filled. -/
def IsFillable (cs : List Char) : Prop := ∀ piece ∈ pieces .text cs, piece.IsFillable

instance (cs : List Char) : Decidable (IsFillable cs) :=
  inferInstanceAs (Decidable (∀ piece ∈ pieces .text cs, piece.IsFillable))

/-- The name of a slot of a sort template is no number. -/
theorem position?_of_slotNames {name : String} (h : name ∈ slotNames) :
    position? name.toList = .ok none ∧ name.toList.isEmpty = false := by
  simp only [slotNames, List.mem_cons, List.not_mem_nil, or_false] at h
  rcases h with rfl | rfl | rfl <;> exact ⟨rfl, rfl⟩

variable {values : Values}

/-- A plain slot stands for its value. -/
theorem fillPiece_slot {slot : Slot} (hslot : (Piece.slot slot).IsFillable) {value : Option String}
    (hlookup : lookup? values (String.ofList slot.name) = some value)
    (expand : List Char → Except Fault (List Char)) :
    fillPiece expand values (.slot slot) = .ok (value.getD missingText).toList := by
  obtain ⟨⟨hpath, hconversion, hlayout⟩, hname⟩ := hslot
  obtain ⟨hposition, hnonempty⟩ := position?_of_slotNames hname
  rw [String.toList_ofList] at hposition hnonempty
  have hvalue : valueOf values slot = .ok value := by
    simp only [valueOf, hposition, hnonempty, hlookup, hpath]
    rfl
  simp [fillPiece, hvalue, hconversion, hlayout, convert, layOut]

theorem failsIff_fillPiece {expand : List Char → Except Fault (List Char)} {piece : Piece}
    (hvalues : ∀ name ∈ slotNames, name ∈ keys values) (hpiece : piece.IsFillable) :
    FailsIff False (fillPiece expand values piece) := by
  cases piece with
  | text c => exact FailsIff.of_ok rfl not_false
  | broken => exact hpiece.elim
  | slot slot =>
    obtain ⟨value, hlookup⟩ : ∃ value, lookup? values (String.ofList slot.name) = some value := by
      rw [← Option.ne_none_iff_exists']
      exact fun hnone => lookup?_eq_none_iff.1 hnone (hvalues _ hpiece.2)
    exact FailsIff.of_ok (fillPiece_slot hpiece hlookup expand) not_false

/-- A template that needs nothing else than its values can be filled with them. -/
theorem failsIff_fill {template : String} (hvalues : ∀ name ∈ slotNames, name ∈ keys values)
    (htemplate : IsFillable template.toList) : FailsIff False (fill values template) := by
  have hpieces : FailsIff (∃ piece ∈ pieces .text template.toList, False)
      ((pieces .text template.toList).mapM (fillPiece (fillChars values 1) values)) :=
    FailsIff.mapM fun piece hmem => failsIff_fillPiece hvalues (htemplate piece hmem)
  exact ((hpieces.congr (by simp)).map _).map _

end Sql.Template

section Scopes

variable {scope : Scope}

/-! ### What a filter is compiled against -/

/-- What a filter is compiled against is complete: the rows have a table, the sort templates can be
filled, and free text is looked for in some column of numbers. -/
structure Scope.IsComplete (scope : Scope) : Prop where
  table : ∃ table, nonempty scope.table = some table
  sorts : ∀ sort ∈ scope.sorts, Sql.Template.IsFillable sort.2.toList
  numeric : ∃ name ∈ scope.filterColumns, isOutOfReach name = false ∧
    ∃ column ∈ Column.resolve? scope.selectColumns scope.whereColumns name,
      column.type.isNumeric = true

/-! ### The order -/

theorem failsIff_templateTerm? {field direction : String} {expr : Option String}
    {outcome : Except Fault String} (h : scope.IsComplete)
    (houtcome : templateTerm? scope.toSortScope field direction expr = some outcome) :
    FailsIff False outcome := by
  unfold templateTerm? at houtcome
  cases htemplate : nonempty (lookup? scope.sorts field) with
  | none => simp [htemplate] at houtcome
  | some template =>
    simp only [htemplate] at houtcome
    split_ifs at houtcome
    obtain rfl := Option.some.inj houtcome
    have hfound : lookup? scope.sorts field = some template :=
      (Option.filter_eq_some_iff.1 htemplate).1
    exact Sql.Template.failsIff_fill (by simp [Sql.Template.slotNames, keys])
      (h.sorts _ (mem_of_lookup? hfound))

theorem failsIff_orderTerm {primary : Bool} {field direction : String} (h : scope.IsComplete) :
    FailsIff False (orderTerm scope.toSortScope primary field direction) := by
  unfold orderTerm
  dsimp only
  split_ifs
  · exact FailsIff.of_ok rfl not_false
  · cases htemplate : templateTerm? scope.toSortScope field direction
        ((Column.resolve? scope.selectColumns scope.whereColumns field).map (·.select)) with
    | none => exact FailsIff.of_ok rfl not_false
    | some outcome => exact (failsIff_templateTerm? h htemplate).map some
  · exact FailsIff.of_ok rfl not_false

theorem failsIff_addControl {draft : Draft} {column : String} {keyword : Keyword}
    (h : scope.IsComplete) : FailsIff False (draft.addControl scope column keyword) := by
  unfold Draft.addControl
  split_ifs
  · obtain ⟨term, hterm⟩ : ∃ term, orderTerm scope.toSortScope draft.order.isEmpty
        (Text.trim keyword.text) (sortDirection column) = .ok term :=
      (failsIff_orderTerm h).returns not_false
    rw [hterm]
    exact FailsIff.of_ok rfl not_false
  all_goals exact FailsIff.of_ok rfl not_false

/-! ### Conditions -/

/-- A keyword on `column` compares a number with a value of the resource: the column names neither
tags nor another resource, and its values are numbers. -/
def Keyword.ComparesColumn (selected filtered : List Column) (column : String)
    (keyword : Keyword) : Prop :=
  column ∉ tagColumns ∧ Condition.referencedType? column = none ∧
    ∃ found ∈ Column.resolve? selected filtered column,
      Condition.ComparesNumber found.type keyword

/-- The value of the keyword is compared as a number: the keyword is an exact text, or it compares a
number with a value of the resource on a column that restricts the listing by a condition. -/
def Keyword.IsComparedAsNumber (selected filtered : List Column) (keyword : Keyword) : Prop :=
  match keyword.column with
  | none => keyword.equal = true
  | some column => column ∉ controlColumns ∧ column ∉ extractedColumns ∧
    keyword.ComparesColumn selected filtered column

/-- A control, and a column that restricts the listing by itself, is compared with nothing. -/
theorem Keyword.not_isComparedAsNumber {selected filtered : List Column} {column : String}
    {keyword : Keyword} (hname : keyword.column = some column)
    (h : column ∈ controlColumns ∨ column ∈ extractedColumns) :
    ¬ keyword.IsComparedAsNumber selected filtered := by
  simp only [IsComparedAsNumber, hname]
  rintro ⟨hcontrol, hextracted, -⟩
  exact h.elim hcontrol hextracted

theorem bindsUnless_columnCondition {column : String} {keyword : Keyword} (h : scope.IsComplete) :
    BindsUnless (keyword.IsTooLong ∧
      keyword.ComparesColumn scope.selectColumns scope.whereColumns column)
      (Draft.columnCondition scope column keyword) := by
  obtain ⟨table, htable⟩ := h.table
  unfold Draft.columnCondition Keyword.ComparesColumn
  rw [htable]
  dsimp only
  split_ifs with htag
  · refine (Condition.bindsUnless_onTagTerm _ _ _ _).congr (iff_of_false ?_ not_false)
    exact fun hfails => hfails.2.1 (List.contains_iff_mem.1 htag)
  · rw [List.contains_iff_mem] at htag
    cases htype : Condition.referencedType? column with
    | some type =>
      exact ((Condition.bindsUnless_onReference _ _ _).map some).congr (by simp)
    | none =>
      cases hfound : Column.resolve? scope.selectColumns scope.whereColumns column with
      | some found =>
        exact (Condition.bindsUnless_onColumn _ _ _).congr (by simp [htag])
      | none => exact (BindsUnless.pure _).congr (by simp)

/-- An exact text is looked for in every column that free text is looked for in at all. -/
theorem exists_numeric_target {keyword : Keyword} (h : scope.IsComplete)
    (hequal : keyword.equal = true) :
    ∃ column ∈ scope.filterColumns.filterMap
        (freeTextTarget? scope.selectColumns scope.whereColumns scope.enums keyword),
      column.type.isNumeric = true := by
  obtain ⟨name, hname, hreach, column, hcolumn, hnumeric⟩ := h.numeric
  refine ⟨column, List.mem_filterMap.2 ⟨name, hname, ?_⟩, hnumeric⟩
  simpa [freeTextTarget?, hreach, hequal] using hcolumn

theorem bindsUnless_condition {span : Span} {keyword : Keyword} (h : scope.IsComplete)
    (hcolumn : ∀ column ∈ keyword.column, column ∉ controlColumns ∧ column ∉ extractedColumns) :
    BindsUnless (keyword.IsTooLong ∧
      keyword.IsComparedAsNumber scope.selectColumns scope.whereColumns)
      (Draft.condition scope span keyword) := by
  unfold Draft.condition Keyword.IsComparedAsNumber
  cases hname : keyword.column with
  | none =>
    refine ((bindsUnless_bindProbes _ _ _ _).bind_first fun _ => BindsUnless.pure _).congr ?_
    exact and_congr_right fun _ => (and_iff_left_of_imp (exists_numeric_target h)).symm
  | some column =>
    obtain ⟨hcontrol, hextracted⟩ := hcolumn column hname
    refine ((bindsUnless_columnCondition h).bind_first fun _ => BindsUnless.pure _).congr ?_
    simp [hcontrol, hextracted]

/-! ### Keywords -/

theorem failsIff_addTerm {draft : Draft} {keyword : Keyword} (h : scope.IsComplete)
    (hcolumn : ∀ column ∈ keyword.column, column ∉ controlColumns ∧ column ∉ extractedColumns) :
    FailsIff (keyword.IsTooLong ∧
      keyword.IsComparedAsNumber scope.selectColumns scope.whereColumns)
      (draft.addTerm scope keyword) := by
  have hcondition : FailsIff _ (Draft.condition scope draft.span keyword draft.bindings) :=
    bindsUnless_condition h hcolumn draft.bindings
  constructor
  · intro hfails
    obtain ⟨fault, hfault, hvalue⟩ := hcondition.fails hfails
    exact ⟨fault, by rw [Draft.addTerm, hfault], hvalue⟩
  · intro hreturns
    obtain ⟨⟨⟨condition, negated⟩, bindings⟩, hresult⟩ := hcondition.returns hreturns
    exact ⟨_, by rw [Draft.addTerm, hresult]⟩

theorem failsIff_add {draft : Draft} {keyword : Keyword} (h : scope.IsComplete) :
    FailsIff (keyword.IsTooLong ∧
      keyword.IsComparedAsNumber scope.selectColumns scope.whereColumns)
      (draft.add scope keyword) := by
  unfold Draft.add
  cases hoperator : keyword.operator? with
  | some operator =>
    refine FailsIff.of_ok rfl ?_
    rintro ⟨-, hcompared⟩
    have hcolumn := Keyword.column_eq_none_of_operator hoperator
    simp only [Keyword.IsComparedAsNumber, hcolumn] at hcompared
    simp [Keyword.operator?, hcompared] at hoperator
  | none =>
    cases hname : keyword.column with
    | none => exact failsIff_addTerm h (by simp [hname])
    | some column =>
      have hextracted : column ∈ extractedColumns ↔ column = "permission" ∨ column = "owner" := by
        simp [extractedColumns]
      have hnot : column ∈ controlColumns ∨ column ∈ extractedColumns → ¬ (keyword.IsTooLong ∧
          keyword.IsComparedAsNumber scope.selectColumns scope.whereColumns) :=
        fun hmem hfails => Keyword.not_isComparedAsNumber hname hmem hfails.2
      dsimp only
      split_ifs with hcontrol hpermission howner
      · have hmem := List.contains_iff_mem.1 hcontrol
        exact (failsIff_addControl h).congr (iff_of_false (hnot (.inl hmem)) not_false)
      · exact FailsIff.of_ok rfl (hnot (.inr (hextracted.2 (.inl hpermission))))
      · exact FailsIff.of_ok rfl (hnot (.inr (hextracted.2 (.inr howner))))
      · refine failsIff_addTerm h fun other hother => ?_
        obtain rfl : column = other := Option.some.inj (hname.symm.trans hother)
        rw [List.contains_iff_mem] at hcontrol
        exact ⟨hcontrol, fun hmem => (hextracted.1 hmem).elim hpermission howner⟩

/-- Keywords cannot be compiled exactly if one of them is compared as a number that is too long. -/
theorem failsIff_ofKeywords (h : scope.IsComplete) (keywords : List Keyword) :
    FailsIff (∃ keyword ∈ keywords, keyword.IsTooLong ∧
      keyword.IsComparedAsNumber scope.selectColumns scope.whereColumns)
      (Clause.ofKeywords scope keywords) :=
  (FailsIff.foldlM (fun _ _ _ => failsIff_add h) _).map _

/-- A filter cannot be compiled exactly if its term cannot be split or its keywords cannot be
compiled. -/
theorem failsIff_clause {clock : Clock} (hclock : clock.IsFinite) (h : scope.IsComplete)
    (term : String) :
    FailsIff
      ((∃ fault, split clock term scope.settings.defaultSort = .error fault) ∨
        ∃ keywords, split clock term scope.settings.defaultSort = .ok keywords ∧
          ∃ keyword ∈ keywords, keyword.IsTooLong ∧
            keyword.IsComparedAsNumber scope.selectColumns scope.whereColumns)
      (Clause.compile clock scope term) := by
  have hsplit := failsIff_split hclock term scope.settings.defaultSort
  have hsteps : Clause.compile clock scope term =
      split clock term scope.settings.defaultSort >>= Clause.ofKeywords scope := by
    rw [Clause.compile]
    cases split clock term scope.settings.defaultSort <;> rfl
  rw [hsplit.exists_error_iff, hsteps]
  refine hsplit.bind fun keywords hkeywords => ?_
  refine (failsIff_ofKeywords h keywords).congr ?_
  rw [hkeywords]
  simp only [Except.ok.injEq, exists_eq_left']

end Scopes

/-! ### Built-in resource types -/

namespace ResourceType

variable {type : ResourceType}

theorem isFillable_sortTemplates {template : String} (h : template ∈ sortTemplates) :
    Sql.Template.IsFillable template.toList := by
  have hall : ∀ template ∈ sortTemplates, ∃ cs ∈ Text.asciiChars? template,
      Sql.Template.IsFillable cs := by decide +kernel
  exact Text.of_asciiChars? (hall template h)

/-- A column is found by its name in whatever table it stands. -/
theorem find?_bindColumn (table name : String) (columns : List Column) :
    (columns.map (bindColumn table)).find? (·.hasName name) =
      (columns.find? (·.hasName name)).map (bindColumn table) := by
  rw [List.find?_map]
  rfl

/-- Free text is looked for in the time of creation, whatever the resources are. -/
theorem exists_numeric_builtin (h : type ∈ builtin) (trash : Bool) :
    ∃ name ∈ type.filterColumns, isOutOfReach name = false ∧
      ∃ column ∈ Column.resolve? (type.selected trash) (type.filtered trash) name,
        column.type.isNumeric = true := by
  have hcreated : ∀ type ∈ builtin, "created" ∈ type.filterColumns ∧
      ∃ column ∈ type.selectColumns.find? (·.hasName "created"), column.type.isNumeric = true := by
    decide +kernel
  obtain ⟨hname, column, hcolumn, hnumeric⟩ := hcreated type h
  refine ⟨"created", hname, by decide, bindColumn (type.tableName trash) column, ?_, hnumeric⟩
  have hfound : (type.selected trash).find? (·.hasName "created") =
      some (bindColumn (type.tableName trash) column) := by
    rw [selected, find?_bindColumn, Option.mem_def.1 hcolumn]
    rfl
  simp [Column.resolve?, Column.findIn?, hfound]

theorem isComplete_typeScope {registry : Registry} (h : type ∈ builtin)
    (hregistered : lookup? registry (Text.lower type.name) = some type)
    (options : CompileOptions) : (registry.typeScope type options).IsComplete where
  table := by
    have hnonempty : ∀ type ∈ builtin, ∀ trash, (type.tableName trash != "") = true := by
      decide +kernel
    exact ⟨type.tableName options.trash, Option.filter_eq_some_iff.2 ⟨rfl, hnonempty type h _⟩⟩
  sorts := by
    rw [sorts_typeScope hregistered]
    exact fun sort hsort => isFillable_sortTemplates (mem_sortTemplates h hsort)
  numeric := exists_numeric_builtin h options.trash

end ResourceType

/-- The resource type that a name refers to is built in, and registered under its own name. -/
theorem Registry.builtin_of_find {name : Option String} {type : ResourceType}
    (h : Registry.builtin.find name = .ok type) :
    type ∈ ResourceType.builtin ∧
      lookup? Registry.builtin (Text.lower type.name) = some type := by
  unfold Registry.find at h
  cases hlookup : lookup? Registry.builtin (Text.lower (Text.trim (name.getD ""))) with
  | none => simp [hlookup] at h
  | some found =>
    rw [hlookup] at h
    obtain rfl : found = type := Except.ok.inj h
    obtain ⟨builtin, hbuiltin, hentry⟩ := List.mem_map.1 (mem_of_lookup? hlookup)
    obtain ⟨hname, rfl⟩ := Prod.mk.inj hentry
    exact ⟨hbuiltin, by rw [ResourceType.lower_name_builtin hbuiltin, hname, hlookup]⟩

/-! ### Relative times -/

/-- The part `created>Nd`, where `N` is the amount. -/
def createdSince (amount : Int) : WrittenPart :=
  ⟨.column "created" .above, (toString amount).toList ++ ['d'], none⟩

section CreatedSince

variable {amount : Int}

theorem isWriting_createdSince : IsWriting [([], createdSince amount)] [] := by
  have hname : (Lead.column "created" .above).isWellNamed = true := by decide +kernel
  have hbody : ∀ c ∈ (createdSince amount).body, isNameCharacter c = true := by
    intro c hc
    rcases List.mem_append.1 hc with hdigit | hunit
    · exact Numeral.isNameCharacter_of_mem_toString hdigit
    · rw [List.mem_singleton.1 hunit]
      rfl
  have hwellFormed : (createdSince amount).IsWellFormed :=
    WrittenPart.isWellFormed_of_isNameCharacter (by simp [createdSince]) hname
      (by simp [createdSince]) hbody
  exact ⟨by simpa using hwellFormed, by simp, by simp, by simp⟩

theorem keyword_createdSince (now : Int) (h : amount.natAbs < 10 ^ Numeral.digitLimit) :
    (createdSince amount).part.keyword (.whole now) =
      .ok ((createdSince amount).part.typed (some "created") (.column .above)
        (.integer (now + amount * 86400))) := by
  have hlead : (Lead.column "created" .above).lower = .column "created" .above := by
    decide +kernel
  have hvalue : TypedValue.of (.whole now) (some "created")
      (String.ofList ((toString amount).toList ++ ['d'])) =
        .ok (.integer (now + amount * 86400)) := by
    refine (TypedValue.of_eq_integer_iff (by decide +kernel)).2 (.relative ?_)
    rw [String.toList_ofList]
    exact TypedValue.relativeTime?_days now h
  rw [WrittenPart.part, createdSince, hlead, Keyword.keyword_column hvalue]
  exact Keyword.legal_of_not_control rfl (by decide +kernel) (by decide)

/-- A number of days that can be read becomes an integer, even if that cannot be written. -/
theorem split_createdSince (now : Int) (h : amount.natAbs < 10 ^ Numeral.digitLimit)
    (defaultSort : Option String) :
    ∃ keyword keywords,
      split (.whole now) (String.ofList (writtenTerm [([], createdSince amount)] [])) defaultSort =
        .ok keywords ∧ keyword ∈ keywords ∧ keyword.column = some "created" ∧
      keyword.relation = .column .above ∧ keyword.type = .integer ∧
      keyword.integer = now + amount * 86400 := by
  have hfirst : ∀ keyword : Keyword, keyword.repeats [] = false := by
    intro keyword
    unfold Keyword.repeats
    split <;> rfl
  rw [split_writtenTerm _ _ isWriting_createdSince, List.map_cons, List.map_nil, List.mapM_cons,
    keyword_createdSince now h]
  refine ⟨(createdSince amount).part.typed (some "created") (.column .above)
    (.integer (now + amount * 86400)), _, rfl, List.mem_append_left _ ?_, rfl, rfl, rfl, rfl⟩
  simp [withoutRepeats, hfirst]

end CreatedSince

/-! ### Filters -/

/-- Which filters fail, and that a value is the reason then. A term cannot be split exactly if some
part holds a date on the first day of the calendar, or sets the page to a relative time that is too
long to be written. A filter on a built-in resource type cannot be compiled exactly if its term
cannot be split, or if one of its keywords is an integer that is too long and compared as a
number. -/
theorem Registry.failsIff_compile {clock : Clock} (hclock : clock.IsFinite) (term : String) :
    (∀ defaultSort, FailsIff (∃ part ∈ Part.ofTerm term, part.IsOutOfRange clock)
      (split clock term defaultSort)) ∧
    ∀ name type options, Registry.builtin.find name = .ok type →
      FailsIff
        ((∃ fault, split clock term options.settings.defaultSort = .error fault) ∨
          ∃ keywords, split clock term options.settings.defaultSort = .ok keywords ∧
            ∃ keyword ∈ keywords, keyword.IsTooLong ∧
              keyword.IsComparedAsNumber (type.selected options.trash)
                (type.filtered options.trash))
        (Registry.builtin.compile clock name options term) := by
  refine ⟨failsIff_split hclock term, fun name type options hfind => ?_⟩
  obtain ⟨hbuiltin, hregistered⟩ := Registry.builtin_of_find hfind
  rw [Registry.compile, hfind]
  exact failsIff_clause hclock
    (ResourceType.isComplete_typeScope hbuiltin hregistered options) term

/-- A date on the first day of the calendar cannot be read. The longest number of days can, but the
seconds that it stands for cannot be written. -/
theorem Registry.failsIff_compile_extremes :
    let days := String.ofList
      (writtenTerm [([], createdSince ((10 ^ Numeral.digitLimit - 1 : Nat) : Int))] [])
    let options : CompileOptions := {}
    Clock.IsFinite (.whole 0) ∧
      Registry.builtin.find (some "task") = .ok ResourceType.taskType ∧
      (∃ fault, split (.whole 0) "created>0001-01-01" none = .error fault ∧ fault.IsOfValue) ∧
      (∃ keywords, split (.whole 0) days options.settings.defaultSort = .ok keywords) ∧
      ∃ fault, Registry.builtin.compile (.whole 0) (some "task") options days = .error fault ∧
        fault.IsOfValue := by
  intro days options
  have hclock : Clock.IsFinite (.whole 0) := trivial
  have hfind : Registry.builtin.find (some "task") = .ok ResourceType.taskType :=
    eq_ok_of_toOption (by decide +kernel)
  have hdate : ∃ part ∈ Part.ofTerm "created>0001-01-01", part.IsOutOfRange (.whole 0) :=
    ⟨⟨.column "created" .above, "0001-01-01", false⟩, by decide +kernel,
      .inl ⟨0, by decide +kernel⟩⟩
  have hlimit : 10 ≤ 10 ^ Numeral.digitLimit := Nat.le_self_pow (by decide) 10
  obtain ⟨keyword, keywords, hsplit, hmem, hcolumn, hrelation, htype, hinteger⟩ :=
    @split_createdSince ((10 ^ Numeral.digitLimit - 1 : Nat) : Int) 0
      (by rw [Int.natAbs_natCast]; omega) options.settings.defaultSort
  have hlong : keyword.IsTooLong := ⟨htype, by omega⟩
  have hcompared : keyword.IsComparedAsNumber (ResourceType.taskType.selected false)
      (ResourceType.taskType.filtered false) := by
    simp only [Keyword.IsComparedAsNumber, hcolumn]
    exact ⟨by decide, by decide, by decide, by decide +kernel,
      .named "created" "tasks.creation_time" .integer, by decide +kernel, rfl, .above, by simp,
      hrelation⟩
  obtain ⟨hterm, -⟩ := Registry.failsIff_compile hclock "created>0001-01-01"
  obtain ⟨-, hcompile⟩ := Registry.failsIff_compile hclock days
  exact ⟨hclock, hfind, (hterm none).fails hdate, ⟨keywords, hsplit⟩,
    (hcompile (some "task") ResourceType.taskType options hfind).fails
      (.inr ⟨keywords, hsplit, keyword, hmem, hlong, hcompared⟩)⟩

end ListingFilter
