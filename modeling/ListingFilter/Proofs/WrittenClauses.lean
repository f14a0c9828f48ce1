import Mathlib.Order.Nat
import ListingFilter.Proofs.ClauseMeaning
import ListingFilter.Proofs.WrittenConditions
import ListingFilter.Query
/-!
# The condition of a clause as a row of tokens

Free text is a row of probes in parentheses. What stands between two conditions leads from the end
of one to the beginning of the next, so the conditions of a draft stay one row while keywords are
added. In the end the condition of the clause refers to all its parameters and to no others.
-/

namespace ListingFilter

open Sql (Binds Operand IsWritten)

variable {Atom : String → Prop}

/-! ### Free text -/

section FreeText

variable {keyword : Keyword} {regexp : Bool}

def operandNumbers : List Operand → Set ℕ
  | [] => ∅
  | operand :: operands => operand.numbers ∪ operandNumbers operands

/-- The probe compares a sound expression with the operand. -/
structure Probe.IsSound (Atom : String → Prop) (probe : Probe) (operand : Operand) : Prop where
  expr : Atom probe.expr
  text : probe.operand = operand.text
  plain : operand.IsPlain

theorem binds_freeTextOperand :
    Binds (freeTextOperand keyword regexp) fun numbers text =>
      ∃ operand : Operand, operand.IsPlain ∧ text = operand.text ∧ numbers = operand.numbers := by
  unfold freeTextOperand
  cases freeTextOperator keyword regexp with
  | contains => exact Sql.binds_containsPattern _
  | equal | regexp => exact Sql.binds_literal _

theorem binds_bindProbes {columns : List Column} (hcolumns : ∀ column ∈ columns, Atom column.select)
    (shared : Option Operand) (hshared : ∀ operand ∈ shared, operand.IsPlain) :
    Binds (bindProbes keyword regexp (shared.map Operand.text) columns) fun numbers probes =>
      ∃ operands : List Operand, List.Forall₂ (Probe.IsSound Atom) probes operands ∧
        operandNumbers shared.toList ∪ numbers =
          operandNumbers shared.toList ∪ operandNumbers operands := by
  -- The shared operand is bound at the first text column, and again referred to at later ones: its
  -- number is among those of the probes whether it was bound before or is bound here.
  induction columns generalizing shared with
  | nil => exact Binds.pure ⟨[], .nil, rfl⟩
  | cons column rest ih =>
    obtain ⟨hexpr, hrest⟩ := List.forall_mem_cons.1 hcolumns
    unfold bindProbes
    split_ifs with hnumeric
    · refine (Sql.binds_literal _).bind ?_
      rintro _ _ ⟨operand, hplain, rfl, rfl⟩
      refine (ih hrest shared hshared).bind ?_
      rintro numbers probes ⟨operands, hsound, hnumbers⟩
      refine Binds.pure ⟨operand :: operands, .cons ⟨hexpr, rfl, hplain⟩ hsound, ?_⟩
      rw [Set.union_empty, Set.union_left_comm, hnumbers, Set.union_left_comm, operandNumbers]
    · cases shared with
      | some operand =>
        dsimp only [Option.map_some]
        rw [pure_bind]
        have hplain : operand.IsPlain := hshared operand rfl
        refine (ih hrest (some operand) hshared).bind ?_
        rintro numbers probes ⟨operands, hsound, hnumbers⟩
        refine Binds.pure ⟨operand :: operands, .cons ⟨hexpr, rfl, hplain⟩ hsound, ?_⟩
        rw [Set.union_empty, hnumbers]
        simp [operandNumbers, ← Set.union_assoc]
      | none =>
        dsimp only [Option.map_none]
        refine binds_freeTextOperand.bind ?_
        rintro _ _ ⟨operand, hplain, rfl, rfl⟩
        have hsome : ∀ other ∈ some operand, other.IsPlain := by
          rintro _ ⟨⟩
          exact hplain
        refine (ih hrest (some operand) hsome).bind ?_
        rintro numbers probes ⟨operands, hsound, hnumbers⟩
        refine Binds.pure ⟨operand :: operands, .cons ⟨hexpr, rfl, hplain⟩ hsound, ?_⟩
        simpa [operandNumbers] using hnumbers

/-- What stands before the next position after a probe. A negated one is in parentheses. -/
def probeEdge (negated : Bool) : Sql.Edge := if negated then .other else .operand

theorem isWritten_probe {probe : Probe} {operand : Operand} (h : probe.IsSound Atom operand)
    (negated : Bool) {edge : Sql.Edge} (hedge : edge ≠ .operand) :
    IsWritten Atom ⟨1, edge⟩ ⟨1, probeEdge negated⟩ operand.numbers (probe.text negated) := by
  have htype : (if probe.numeric then "NUMERIC" else "TEXT") ∈ ["NUMERIC", "TEXT"] := by
    split_ifs <;> decide
  have hoperator : probe.operator.text negated ∈ ["!=", "=", "NOT ILIKE", "ILIKE", "!~", "~"] := by
    cases probe.operator <;> cases negated <;> decide
  simp only [Probe.text, h.text]
  generalize (if probe.numeric then "NUMERIC" else "TEXT") = type at htype
  generalize probe.operator.text negated = operator at hoperator
  cases negated with
  | false =>
    refine IsWritten.of_tokens [.fixed "CAST(", .declared probe.expr, .fixed " AS ", .fixed type,
      .fixed ") ", .fixed operator, .fixed " ", .value operand] ?_ ?_ ?_ ?_
    · simp [String.append_assoc, toString]
    · simp
    · simp [h.expr, h.plain]
    · simp only [List.map_cons, List.map_nil, Sql.Token.erase]
      revert type
      revert operator
      revert edge
      decide +kernel
  | true =>
    refine IsWritten.of_tokens [.fixed "(", .declared probe.expr, .fixed " IS NULL OR ",
      .fixed "CAST(", .declared probe.expr, .fixed " AS ", .fixed type, .fixed ") ",
      .fixed operator, .fixed " ", .value operand, .fixed ")"] ?_ ?_ ?_ ?_
    · simp [String.append_assoc, toString]
    · simp
    · simp [h.expr, h.plain]
    · simp only [List.map_cons, List.map_nil, Sql.Token.erase]
      revert type
      revert operator
      revert edge
      decide +kernel

theorem isWritten_probes {negated : Bool} {separator : String}
    (hseparator : (Sql.Position.mk 1 (probeEdge negated)).after (.fixed separator) =
      some ⟨1, .blank⟩) {probe : Probe} {probes : List Probe} {operand : Operand}
    {operands : List Operand} (hfirst : probe.IsSound Atom operand)
    (hrest : List.Forall₂ (Probe.IsSound Atom) probes operands) {edge : Sql.Edge}
    (hedge : edge ≠ .operand) :
    IsWritten Atom ⟨1, edge⟩ ⟨1, probeEdge negated⟩ (operandNumbers (operand :: operands))
      (String.intercalate separator ((probe :: probes).map (Probe.text negated))) := by
  induction hrest generalizing probe operand edge with
  | nil => simpa [operandNumbers] using isWritten_probe hfirst negated hedge
  | @cons next operand' probes operands hnext hrest ih =>
    rw [List.map_cons, List.map_cons, String.intercalate_cons_cons, operandNumbers]
    have hmore := (IsWritten.fixed hseparator).append (ih hnext (by decide))
    rw [Set.empty_union, List.map_cons] at hmore
    rw [String.append_assoc]
    exact (isWritten_probe hfirst negated hedge).append hmore

theorem isCondition_freeText {probes : List Probe} {operands : List Operand} (negated : Bool)
    (h : List.Forall₂ (Probe.IsSound Atom) probes operands) :
    IsConditionIfAny Atom (operandNumbers operands) (freeTextCondition negated probes) := by
  cases h with
  | nil => rfl
  | @cons probe operand probes operands hfirst hrest =>
    have hseparator : (Sql.Position.mk 1 (probeEdge negated)).after
        (.fixed (if negated then " AND " else " OR ")) = some ⟨1, .blank⟩ := by
      cases negated <;> decide +kernel
    have hclose : (Sql.Position.mk 1 (probeEdge negated)).after (.fixed ")") =
        some ⟨0, .other⟩ := by
      cases negated <;> decide +kernel
    intro edge hedge
    have hopen : (Sql.Position.mk 0 edge).after (.fixed "(") = some ⟨1, .other⟩ := by
      revert edge
      decide +kernel
    have hrow := ((IsWritten.fixed hopen).append
      (isWritten_probes hseparator hfirst hrest (by decide))).append (IsWritten.fixed hclose)
    simpa using hrow

theorem mem_of_resolve? {selectColumns whereColumns : List Column} {name : String} {column : Column}
    (h : Column.resolve? selectColumns whereColumns name = some column) :
    column ∈ selectColumns ++ whereColumns := by
  have hfind : ∀ {columns : List Column}, Column.findIn? columns name = some column →
      column ∈ columns := by
    intro columns hfound
    rcases Option.or_eq_some_iff.1 hfound with hfound | ⟨-, hfound⟩
    · exact List.mem_of_find?_eq_some hfound
    · exact List.mem_of_find?_eq_some hfound
  rw [Column.resolve?] at h
  split_ifs at h
  rcases Option.or_eq_some_iff.1 h with h | ⟨-, h⟩
  · exact List.mem_append_left _ (hfind h)
  · exact List.mem_append_right _ (hfind h)

theorem binds_freeText {selectColumns whereColumns : List Column}
    (hcolumns : ∀ column ∈ selectColumns ++ whereColumns, Atom column.select)
    (enums : List (String × List String)) (filterColumns : List String) :
    Binds (freeTextProbes selectColumns whereColumns enums keyword regexp filterColumns)
      fun numbers probes => ∃ operands : List Operand,
        List.Forall₂ (Probe.IsSound Atom) probes operands ∧ numbers = operandNumbers operands := by
  have htargets : ∀ column ∈ filterColumns.filterMap
      (freeTextTarget? selectColumns whereColumns enums keyword), Atom column.select := by
    intro column hmem
    obtain ⟨name, -, htarget⟩ := List.mem_filterMap.1 hmem
    rw [freeTextTarget?] at htarget
    split_ifs at htarget
    exact hcolumns column (mem_of_resolve? htarget)
  unfold freeTextProbes
  refine (binds_bindProbes htargets none (by simp)).mono ?_
  rintro numbers probes ⟨operands, hsound, hnumbers⟩
  exact ⟨operands, hsound, by simpa [operandNumbers] using hnumbers⟩

end FreeText

/-! ### Terms -/

/-- What conditions are made of satisfies `Atom`. -/
structure Scope.IsSound (Atom : String → Prop) (scope : Scope) : Prop where
  columns : ∀ column ∈ scope.selectColumns ++ scope.whereColumns, Atom column.select
  table : ∀ table ∈ scope.table, Atom table
  types : ∀ type, isIdentifiedType type = true → Atom type

/-- A name of a type holds only what its lower-case form holds. -/
theorem notMem_of_isIdentifiedType {c : Char} (hascii : c.toNat < 128) (hlower : c.toLower = c)
    (hnames : ∀ name ∈ identifiedTypes, c ∉ name.toList) {type : String}
    (h : isIdentifiedType type = true) : c ∉ type.toList :=
  fun hc => hnames _ (List.contains_iff_mem.1 h) (Text.mem_lower hc hascii hlower)

theorem isPlain_of_isIdentifiedType {type : String} (h : isIdentifiedType type = true) :
    Text.IsPlain type := by
  have hopen := notMem_of_isIdentifiedType (c := '(') (by decide) (by decide) (by decide +kernel) h
  have hclose := notMem_of_isIdentifiedType (c := ')') (by decide) (by decide) (by decide +kernel) h
  have hcolon := notMem_of_isIdentifiedType (c := ':') (by decide) (by decide) (by decide +kernel) h
  intro c hc
  refine ⟨?_, ?_, ?_⟩ <;> rintro rfl
  · exact hopen hc
  · exact hclose hc
  · exact hcolon hc

theorem isIdentifiedType_of_referencedType? {column type : String}
    (h : Condition.referencedType? column = some type) : isIdentifiedType type = true := by
  simp only [Condition.referencedType?] at h
  split_ifs at h with hreference
  rw [← Option.some.inj h]
  exact (Bool.and_eq_true_iff.1 hreference).2

namespace Draft

variable {scope : Scope} {draft next : Draft} {keyword : Keyword}

theorem binds_columnCondition (hscope : scope.IsSound Atom) (column : String) :
    Binds (columnCondition scope column keyword) (IsConditionIfAny Atom) := by
  have htable : ∀ table, nonempty scope.table = some table → Atom table :=
    fun table h => hscope.table table (Option.filter_eq_some_iff.1 h).1
  unfold columnCondition
  dsimp only
  split_ifs with htag
  · cases hnonempty : nonempty scope.table with
    | none => exact Binds.pure rfl
    | some table => exact binds_onTagTerm (htable table hnonempty) _ _
  · split
    · rename_i type table htype hnonempty
      have hidentified := isIdentifiedType_of_referencedType? htype
      exact (binds_onReference (htable table hnonempty) (hscope.types type hidentified)).map some
    · split
      · rename_i found hfound
        exact binds_onColumn (hscope.columns found (mem_of_resolve? hfound)) _
      · exact Binds.pure rfl

theorem binds_condition (hscope : scope.IsSound Atom) (span : Span) :
    Binds (condition scope span keyword) fun numbers result =>
      IsConditionIfAny Atom numbers result.1 := by
  unfold condition
  cases hcolumn : keyword.column with
  | none =>
    refine (binds_freeText hscope.columns _ _).bind ?_
    rintro _ probes ⟨operands, hsound, rfl⟩
    refine Binds.pure ?_
    rw [Set.union_empty]
    exact isCondition_freeText span.negated hsound
  | some column =>
    refine (binds_columnCondition hscope column).bind ?_
    intro numbers condition? hcondition
    refine Binds.pure ?_
    rwa [Set.union_empty]

/-- The parameters are numbered, and the conditions are a row that refers to all of them. -/
structure IsSound (Atom : String → Prop) (draft : Draft) : Prop where
  numbered : draft.bindings.IsNumbered
  nothing : draft.terms = [] → draft.bindings.entries = []
  written : draft.terms ≠ [] → IsWritten Atom ⟨0, .other⟩ ⟨0, .other⟩
    (Set.Iio draft.bindings.entries.length) (conditionText draft.terms)

theorem isSound_empty (scope : Scope) : (empty scope).IsSound Atom where
  numbered := ⟨rfl, rfl⟩
  nothing _ := rfl
  written h := absurd rfl h

/-- The words in front of a condition lead to its beginning. -/
theorem isWritten_join (join : Join) :
    ∃ edge ≠ Sql.Edge.operand,
      IsWritten Atom ⟨0, .other⟩ ⟨0, edge⟩ ∅ join.text := by
  obtain ⟨junction, negated⟩ := join
  by_cases hfirst : junction = none ∧ negated = false
  · obtain ⟨rfl, rfl⟩ := hfirst
    exact ⟨.other, by decide, IsWritten.fixed (by decide +kernel)⟩
  · refine ⟨.blank, by decide, IsWritten.fixed ?_⟩
    cases negated <;> rcases junction with _ | _ | _
    · exact absurd ⟨rfl, rfl⟩ hfirst
    all_goals decide +kernel

theorem conditionText_append (terms : List (Join × String)) (join : Join) (condition : String) :
    conditionText (terms ++ [(join, condition)]) =
      conditionText terms ++ (join.text ++ condition) := by
  simp [conditionText]

theorem IsSound.addTerm (h : draft.IsSound Atom) (hscope : scope.IsSound Atom)
    (hnext : draft.addTerm scope keyword = .ok next) : next.IsSound Atom := by
  obtain ⟨condition?, negated, bindings, hcondition, rfl⟩ := addTerm_cases hnext
  obtain ⟨hnumbered, hle, hwritten⟩ := binds_condition hscope draft.span h.numbered hcondition
  cases condition? with
  -- A term without a condition binds nothing, so the row of the terms before it still names all.
  | none =>
    have hsame : bindings.entries.length = draft.bindings.entries.length :=
      le_antisymm (not_lt.1 (Set.Ico_eq_empty_iff.1 hwritten)) hle
    refine ⟨hnumbered, fun hnil => ?_, fun hne => ?_⟩
    · rw [← List.length_eq_zero_iff, hsame, h.nothing (by simpa using hnil), List.length_nil]
    · simpa [hsame] using h.written (by simpa using hne)
  | some condition =>
    refine ⟨hnumbered, fun hnil => by simp at hnil, fun _ => ?_⟩
    obtain ⟨edge, hedge, hjoin⟩ :=
      @isWritten_join Atom (draft.span.join draft.terms.isEmpty negated)
    have hterm := hjoin.append (hwritten edge hedge)
    rw [Set.empty_union] at hterm
    by_cases hterms : draft.terms = []
    · have hbelow : Set.Ico 0 bindings.entries.length = Set.Iio bindings.entries.length :=
        Set.Ico_bot
      simpa [hterms, h.nothing hterms, conditionText, hbelow] using hterm
    · have hrow := (h.written hterms).append hterm
      rw [Set.Iio_union_Ico_eq_Iio hle] at hrow
      simpa only [Option.map_some, Option.toList_some, conditionText_append] using hrow

theorem IsSound.add (h : draft.IsSound Atom) (hscope : scope.IsSound Atom)
    (hnext : draft.add scope keyword = .ok next) : next.IsSound Atom := by
  rcases add_cases hnext with ⟨operator, -, rfl⟩ | ⟨-, hterm⟩ | ⟨-, column, -, -, hcontrol⟩ |
    ⟨-, -, rfl⟩ | ⟨-, -, rfl⟩
  · exact ⟨h.numbered, h.nothing, h.written⟩
  · exact h.addTerm hscope hterm
  · obtain ⟨-, hterms, hbindings, -⟩ := addControl_frame hcontrol
    refine ⟨hbindings ▸ h.numbered, ?_, ?_⟩
    · rw [hterms, hbindings]
      exact h.nothing
    · rw [hterms, hbindings]
      exact h.written
  · exact ⟨h.numbered, h.nothing, h.written⟩
  · exact ⟨h.numbered, h.nothing, h.written⟩

end Draft

/-- What is declared for a resource type is what its filters are compiled against, for its table. -/
theorem ResourceType.isSound_typeScope {type : ResourceType} (registry : Registry)
    (options : CompileOptions)
    (hcolumns : ∀ column ∈ type.selectColumns ++ type.whereColumns,
      Atom (bindColumn (type.tableName options.trash) column).select)
    (htable : Atom (type.tableName options.trash))
    (hplain : ∀ name, Text.IsPlain name → Atom name) :
    (registry.typeScope type options).IsSound Atom where
  columns := by
    intro column hmem
    have hbound : column ∈ (type.selectColumns ++ type.whereColumns).map
        (bindColumn (type.tableName options.trash)) := by
      rw [List.map_append]
      exact hmem
    obtain ⟨declared, hdeclared, rfl⟩ := List.mem_map.1 hbound
    exact hcolumns declared hdeclared
  table := by
    rintro _ ⟨⟩
    exact htable
  types name hname := hplain name (isPlain_of_isIdentifiedType hname)

/-! ### Clauses -/

namespace Clause

variable {scope : Scope} {clause : Clause}

/-- The condition is a row of tokens that refers to exactly the parameters of the clause, which are
numbered. -/
structure IsSound (Atom : String → Prop) (clause : Clause) : Prop where
  numbered : clause.params.map (·.1) = (List.range clause.params.length).map Sql.paramName
  nothing : clause.condition = none → clause.params = []
  written : ∀ condition ∈ clause.condition,
    IsWritten Atom ⟨0, .other⟩ ⟨0, .other⟩ (Set.Iio clause.params.length) condition

theorem isSound_ofKeywords (hscope : scope.IsSound Atom) {keywords : List Keyword}
    (h : Clause.ofKeywords scope keywords = .ok clause) : clause.IsSound Atom := by
  obtain ⟨draft, hdraft, rfl⟩ := map_eq_ok_iff.1 h
  have hsound : draft.IsSound Atom :=
    foldlM_preserves (fun _ _ _ hdraft hnext => hdraft.add hscope hnext) (Draft.isSound_empty scope)
      hdraft
  refine ⟨hsound.numbered.names, fun hnone => ?_, fun condition hcondition => ?_⟩
  · refine hsound.nothing ?_
    simpa [Draft.clause] using hnone
  · simp only [Draft.clause] at hcondition
    split_ifs at hcondition with hterms
    · cases hcondition
    · obtain rfl := Option.some.inj hcondition
      exact hsound.written (by simpa using hterms)

end Clause

/-! ### Terms -/

/-- The keywords of a term, with those that it leaves to the defaults. -/
def Term.keywords (clock : Clock) (defaultSort : Option String) : Term → Except Fault (List Keyword)
  | .text term => split clock term defaultSort
  | .listed literals =>
    (literals.mapM Literal.keyword).map fun keywords =>
      keywords ++ defaultKeywords defaultSort keywords

/-- However a term is given, its clause is that of its keywords. -/
theorem Term.clause_eq_ok {clock : Clock} {scope : Scope} {term : Term} {clause : Clause}
    (h : term.clause clock scope = .ok clause) :
    ∃ keywords, term.keywords clock scope.settings.defaultSort = .ok keywords ∧
      Clause.ofKeywords scope keywords = .ok clause := by
  cases term with
  | text term => exact Clause.compile_eq_ok_iff.1 h
  | listed literals =>
    simp only [Term.clause, Clause.compileListed] at h
    split_ifs at h
    cases hkeywords : literals.mapM Literal.keyword with
    | error fault => simp [hkeywords] at h
    | ok keywords =>
      rw [hkeywords] at h
      exact ⟨_, by rw [Term.keywords, hkeywords]; rfl, h⟩

end ListingFilter
