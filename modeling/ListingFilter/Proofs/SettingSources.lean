import ListingFilter.Proofs.ReadJson
import ListingFilter.Settings.Resolve
/-!
# The sources of the settings

Whatever the environment and the configuration file hold, the settings can be resolved. Each is read
off the value that its first source states, and a value that cannot be used gives the default: no
later source is asked for another. A setting depends on nothing but that value.
-/

namespace ListingFilter

/-! ### The configuration file -/

namespace Configuration

/-- What a file counts as holding: the members of the object that it holds in UTF-8. There are none
if there is no file, and if what it holds is no text, not JSON or not an object. -/
inductive Holds : FileContent → Configuration → Prop
  | absent : Holds none []
  | object {octets : List Nat} {text : String} {members : List (String × Json)} :
      Text.Utf8.decode? octets = some text →
      Json.read? Numeral.digitLimit text = some (.object members) → Holds (some octets) members
  | notText {octets : List Nat} : Text.Utf8.decode? octets = none → Holds (some octets) []
  | notJson {octets : List Nat} {text : String} : Text.Utf8.decode? octets = some text →
      Json.read? Numeral.digitLimit text = none → Holds (some octets) []
  | notObject {octets : List Nat} {text : String} {value : Json} :
      Text.Utf8.decode? octets = some text → Json.read? Numeral.digitLimit text = some value →
      (∀ members, value ≠ .object members) → Holds (some octets) []

theorem holds_ofFile (file : FileContent) : Holds file (ofFile file) := by
  cases file with
  | none => exact .absent
  | some octets =>
    cases htext : Text.Utf8.decode? octets with
    | none =>
      rw [show ofFile (some octets) = [] by simp [ofFile, ofOctets?, htext]]
      exact .notText htext
    | some text =>
      cases hread : Json.read? Numeral.digitLimit text with
      | none =>
        rw [show ofFile (some octets) = [] by simp [ofFile, ofOctets?, htext, hread]]
        exact .notJson htext hread
      | some value =>
        cases value with
        | object members =>
          rw [show ofFile (some octets) = members by simp [ofFile, ofOctets?, htext, hread]]
          exact .object htext hread
        | _ =>
          rw [show ofFile (some octets) = [] by simp [ofFile, ofOctets?, htext, hread]]
          exact .notObject htext hread (by simp)

/-- What a file holds can be written. -/
theorem Holds.isWritable {file : FileContent} {members : Configuration} (h : Holds file members) :
    ∀ member ∈ members, member.2.IsWritable := by
  cases h with
  | object _ hread => exact Json.isWritable_object_iff.1 (Json.isWritable_of_read? hread)
  | _ => exact List.forall_mem_nil _

end Configuration

namespace Settings

/-! ### The value that a setting is read off -/

section Sources

variable {environment : Environment} {members : Configuration} {key : Key} {value : Json}

/-- The value that a setting is stated with. The first source that has the setting states it: the
environment, even with the empty text, the section of the filters, even with null, and the
configuration. A setting that no source has is stated with null. -/
inductive IsStated (environment : Environment) (members : Configuration) (key : Key) : Json → Prop
  | inEnvironment {text : String} : environment.get? key.variableName = some text →
      IsStated environment members key (.text text)
  | inSection {filters : List (String × Json)} {value : Json} :
      environment.get? key.variableName = none →
      lookup? members "filters" = some (.object filters) → lookup? filters key.name = some value →
      IsStated environment members key value
  | outside {value : Json} : environment.get? key.variableName = none →
      (∀ filters, lookup? members "filters" = some (.object filters) →
        lookup? filters key.name = none) →
      lookup? members key.name = some value → IsStated environment members key value
  | nowhere : environment.get? key.variableName = none →
      (∀ filters, lookup? members "filters" = some (.object filters) →
        lookup? filters key.name = none) →
      lookup? members key.name = none → IsStated environment members key .null

/-- The value of a setting in the section of the filters. -/
def inSection? (members : Configuration) (key : Key) : Option Json :=
  match lookup? members "filters" with
  | some (.object filters) => lookup? filters key.name
  | _ => none

theorem inSection?_eq_some_iff :
    inSection? members key = some value ↔
      ∃ filters, lookup? members "filters" = some (.object filters) ∧
        lookup? filters key.name = some value := by
  rw [inSection?]
  split
  · rename_i filters hfilters
    simp [hfilters]
  · rename_i hother
    simp only [reduceCtorEq, false_iff, not_exists, not_and]
    exact fun filters hfilters => absurd hfilters (hother filters)

theorem inSection?_eq_none_iff :
    inSection? members key = none ↔
      ∀ filters, lookup? members "filters" = some (.object filters) →
        lookup? filters key.name = none := by
  simp only [Option.eq_none_iff_forall_ne_some, ne_eq, inSection?_eq_some_iff, not_exists, not_and]
  exact ⟨fun h filters hfilters value => h value filters hfilters,
    fun h value filters hfilters => h filters hfilters value⟩

theorem configured_eq (members : Configuration) (key : Key) :
    configured (.object members) key =
      ((inSection? members key).or (lookup? members key.name)).getD .null := by
  simp only [configured, Json.member?]
  cases hsection : inSection? members key with
  | some value =>
    obtain ⟨filters, hfilters, hvalue⟩ := inSection?_eq_some_iff.1 hsection
    rw [hfilters]
    simp only [hvalue]
    rfl
  | none =>
    split
    · rename_i filters hfilters
      rw [inSection?_eq_none_iff.1 hsection filters hfilters]
      rfl
    · rfl

theorem isStated_stated (environment : Environment) (members : Configuration) (key : Key) :
    IsStated environment members key (stated environment (.object members) key) := by
  rw [stated]
  cases hvariable : environment.get? key.variableName with
  | some text => exact .inEnvironment hvariable
  | none =>
    rw [configured_eq]
    cases hsection : inSection? members key with
    | some value =>
      obtain ⟨filters, hfilters, hvalue⟩ := inSection?_eq_some_iff.1 hsection
      exact .inSection hvariable hfilters hvalue
    | none =>
      cases houter : lookup? members key.name with
      | some value => exact .outside hvariable (inSection?_eq_none_iff.1 hsection) houter
      | none => exact .nowhere hvariable (inSection?_eq_none_iff.1 hsection) houter

/-- A setting is stated with one value only. -/
theorem IsStated.stated_eq (h : IsStated environment members key value) :
    stated environment (.object members) key = value := by
  rw [stated]
  cases h with
  | inEnvironment hvariable => rw [hvariable]
  | inSection hvariable hfilters hvalue =>
    rw [hvariable, configured_eq, inSection?_eq_some_iff.2 ⟨_, hfilters, hvalue⟩]
    rfl
  | outside hvariable hsection hvalue =>
    rw [hvariable, configured_eq, inSection?_eq_none_iff.2 hsection, hvalue]
    rfl
  | nowhere hvariable hsection hvalue =>
    rw [hvariable, configured_eq, inSection?_eq_none_iff.2 hsection, hvalue]
    rfl

/-- What is stated can be written if the configuration can be. -/
theorem IsStated.isWritable (h : IsStated environment members key value)
    (hmembers : ∀ member ∈ members, member.2.IsWritable) : value.IsWritable := by
  cases h with
  | inEnvironment => rfl
  | inSection _ hfilters hvalue =>
    exact Json.isWritable_object_iff.1 (hmembers _ (mem_of_lookup? hfilters)) _
      (mem_of_lookup? hvalue)
  | outside _ _ hvalue => exact hmembers _ (mem_of_lookup? hvalue)
  | nowhere => rfl

end Sources

/-! ### What a value stands for -/

/-- The integer that a value stands for: the one that its text holds between blanks, or the default
if it is null, if its text holds none or if the integer is below the least. -/
inductive StandsForInteger (fallback least : Int) : Json → Int → Prop
  | null : StandsForInteger fallback least .null fallback
  | usable {value : Json} {text : String} {n : Int} : value.display? = some text →
      Numeral.parse? (Text.trim text) = some n → least ≤ n →
      StandsForInteger fallback least value n
  | notInteger {value : Json} {text : String} : value.display? = some text →
      Numeral.parse? (Text.trim text) = none → StandsForInteger fallback least value fallback
  | tooSmall {value : Json} {text : String} {n : Int} : value.display? = some text →
      Numeral.parse? (Text.trim text) = some n → n < least →
      StandsForInteger fallback least value fallback

theorem StandsForInteger.least_le {fallback least n : Int} {value : Json}
    (h : StandsForInteger fallback least value n) (hfallback : least ≤ fallback) : least ≤ n := by
  cases h with
  | usable _ _ hleast => exact hleast
  | _ => exact hfallback

theorem standsForInteger_integerOr (fallback least : Int) {value : Json} (h : value.IsWritable) :
    StandsForInteger fallback least value (integerOr fallback least value) := by
  obtain ⟨text, htext⟩ := h.exists_display?
  simp only [integerOr, htext, Option.bind_some]
  cases hparse : Numeral.parse? (Text.trim text) with
  | none => exact .notInteger htext hparse
  | some n =>
    simp only
    split_ifs with hleast
    · exact .tooSmall htext hparse hleast
    · exact .usable htext hparse (not_lt.1 hleast)

/-- A value that is neither null, a truth value nor a number. -/
def IsWorded : Json → Prop
  | .text _ | .array _ | .object _ => True
  | _ => False

/-- The flag that a value stands for: a truth value for itself, a number for whether it differs from
zero, and another value for what its word says. Null and a value that is no such word stand for the
default. -/
inductive StandsForFlag (fallback : Bool) : Json → Bool → Prop
  | null : StandsForFlag fallback .null fallback
  | bool (flag : Bool) : StandsForFlag fallback (.bool flag) flag
  | integer (n : Int) : StandsForFlag fallback (.integer n) (n != 0)
  | real (x : Binary64) : StandsForFlag fallback (.real x) !x.isZero
  | yes {value : Json} {text : String} : IsWorded value → value.display? = some text →
      Flag.wordOf text ∈ Flag.trueWords → StandsForFlag fallback value true
  | no {value : Json} {text : String} : IsWorded value → value.display? = some text →
      Flag.wordOf text ∈ Flag.falseWords → StandsForFlag fallback value false
  | noWord {value : Json} {text : String} : IsWorded value → value.display? = some text →
      Flag.wordOf text ∉ Flag.trueWords → Flag.wordOf text ∉ Flag.falseWords →
      StandsForFlag fallback value fallback

theorem flagOr_of_isWorded (fallback : Bool) {value : Json} {text : String} (h : IsWorded value)
    (htext : value.display? = some text) :
    flagOr fallback value = .ok ((Flag.ofText? text).getD fallback) := by
  cases value with
  | text own => simp [flagOr, htext]
  | array items => simp [flagOr, htext]
  | object members => simp [flagOr, htext]
  | _ => exact h.elim

theorem exists_flagOr (fallback : Bool) {value : Json} (h : value.IsWritable) :
    ∃ flag, flagOr fallback value = .ok flag ∧ StandsForFlag fallback value flag := by
  obtain ⟨text, htext⟩ := h.exists_display?
  have hworded : IsWorded value →
      ∃ flag, flagOr fallback value = .ok flag ∧ StandsForFlag fallback value flag := by
    intro hworded
    refine ⟨_, flagOr_of_isWorded fallback hworded htext, ?_⟩
    by_cases htrue : Flag.wordOf text ∈ Flag.trueWords
    · rw [Flag.ofText?, if_pos (List.contains_iff_mem.2 htrue)]
      exact .yes hworded htext htrue
    · rw [Flag.ofText?, if_neg (mt List.contains_iff_mem.1 htrue)]
      by_cases hfalse : Flag.wordOf text ∈ Flag.falseWords
      · rw [if_pos (List.contains_iff_mem.2 hfalse)]
        exact .no hworded htext hfalse
      · rw [if_neg (mt List.contains_iff_mem.1 hfalse)]
        exact .noWord hworded htext htrue hfalse
  cases value with
  | null => exact ⟨fallback, rfl, .null⟩
  | bool flag => exact ⟨flag, rfl, .bool flag⟩
  | integer n => exact ⟨n != 0, rfl, .integer n⟩
  | real x => exact ⟨!x.isZero, rfl, .real x⟩
  | _ => exact hworded trivial

/-! ### The settings -/

/-- The settings are read off what is stated, each with its own default. -/
structure IsResolved (environment : Environment) (members : Configuration) (settings : Settings) :
    Prop where
  rowsPerPage : ∃ value, IsStated environment members .rowsPerPage value ∧
    StandsForInteger 10 1 value settings.rowsPerPage
  maxRowsPerPage : ∃ value, IsStated environment members .maxRowsPerPage value ∧
    StandsForInteger 1000 0 value settings.maxRowsPerPage
  strictColumns : ∃ value, IsStated environment members .strictColumns value ∧
    StandsForFlag false value settings.strictColumns
  tableOrder : ∃ value, IsStated environment members .tableOrder value ∧
    StandsForFlag false value settings.tableOrder

/-- What one of the settings is. -/
def valueOf (settings : Settings) : Key → Json
  | .rowsPerPage => .integer settings.rowsPerPage
  | .maxRowsPerPage => .integer settings.maxRowsPerPage
  | .strictColumns => .bool settings.strictColumns
  | .tableOrder => .bool settings.tableOrder

variable {environment environment' : Environment} {configuration configuration' : Json}
  {members : Configuration} {settings settings' : Settings}

theorem resolve_eq_ok_iff :
    resolve environment configuration = .ok settings ↔
      settings.rowsPerPage = integerOr 10 1 (stated environment configuration .rowsPerPage) ∧
      settings.maxRowsPerPage =
        integerOr 1000 0 (stated environment configuration .maxRowsPerPage) ∧
      flagOr false (stated environment configuration .strictColumns) =
        .ok settings.strictColumns ∧
      flagOr false (stated environment configuration .tableOrder) = .ok settings.tableOrder := by
  obtain ⟨rows, bound, strict, order⟩ := settings
  simp only [resolve]
  cases flagOr false (stated environment configuration .strictColumns) with
  | error fault => simp
  | ok strict' =>
    cases flagOr false (stated environment configuration .tableOrder) with
    | error fault => simp
    | ok order' => simp [eq_comm]

/-- A setting depends on the value that is stated for it and on nothing else. -/
theorem valueOf_eq_of_stated_eq (h : resolve environment configuration = .ok settings)
    (h' : resolve environment' configuration' = .ok settings') {key : Key}
    (hstated : stated environment configuration key = stated environment' configuration' key) :
    settings.valueOf key = settings'.valueOf key := by
  obtain ⟨hrows, hbound, hstrict, horder⟩ := resolve_eq_ok_iff.1 h
  obtain ⟨hrows', hbound', hstrict', horder'⟩ := resolve_eq_ok_iff.1 h'
  cases key with
  | rowsPerPage => rw [valueOf, valueOf, hrows, hrows', hstated]
  | maxRowsPerPage => rw [valueOf, valueOf, hbound, hbound', hstated]
  | strictColumns =>
    rw [hstated, hstrict'] at hstrict
    rw [valueOf, valueOf, Except.ok.inj hstrict]
  | tableOrder =>
    rw [hstated, horder'] at horder
    rw [valueOf, valueOf, Except.ok.inj horder]

/-- The settings can be resolved under every configuration that can be written. -/
theorem exists_resolve (environment : Environment)
    (hmembers : ∀ member ∈ members, member.2.IsWritable) :
    ∃ settings, resolve environment (.object members) = .ok settings ∧
      IsResolved environment members settings := by
  have hstated := isStated_stated environment members
  have hwritable key := (hstated key).isWritable hmembers
  obtain ⟨strict, hstrict, hstands⟩ := exists_flagOr false (hwritable .strictColumns)
  obtain ⟨order, horder, hstands'⟩ := exists_flagOr false (hwritable .tableOrder)
  refine ⟨⟨_, _, strict, order⟩, resolve_eq_ok_iff.2 ⟨rfl, rfl, hstrict, horder⟩, ?_⟩
  exact {
    rowsPerPage := ⟨_, hstated _, standsForInteger_integerOr 10 1 (hwritable _)⟩
    maxRowsPerPage := ⟨_, hstated _, standsForInteger_integerOr 1000 0 (hwritable _)⟩
    strictColumns := ⟨_, hstated _, hstands⟩
    tableOrder := ⟨_, hstated _, hstands'⟩ }

/-- The settings can be resolved whatever the environment and the file hold, and they are in range.
Each is read off what its first source states; two runs that state the same for a setting resolve it
alike, whatever else differs. -/
theorem exists_ofSources (environment : Environment) (file : FileContent) :
    ∃ settings, ofSources environment file = .ok settings ∧
      1 ≤ settings.rowsPerPage ∧ 0 ≤ settings.maxRowsPerPage ∧
      Configuration.Holds file (Configuration.ofFile file) ∧
      IsResolved environment (Configuration.ofFile file) settings ∧
      ∀ environment' file' settings', ofSources environment' file' = .ok settings' →
        ∀ key value, IsStated environment (Configuration.ofFile file) key value →
          IsStated environment' (Configuration.ofFile file') key value →
          settings'.valueOf key = settings.valueOf key := by
  have hfile := Configuration.holds_ofFile file
  obtain ⟨settings, hsettings, hresolved⟩ := exists_resolve environment hfile.isWritable
  obtain ⟨_, -, hrows⟩ := hresolved.rowsPerPage
  obtain ⟨_, -, hbound⟩ := hresolved.maxRowsPerPage
  refine ⟨settings, hsettings, hrows.least_le (by decide), hbound.least_le (by decide), hfile,
    hresolved, fun environment' file' settings' hsettings' key value hvalue hvalue' => ?_⟩
  refine valueOf_eq_of_stated_eq hsettings' hsettings ?_
  rw [hvalue.stated_eq, hvalue'.stated_eq]

/-- An empty variable and a null in the section hide the values of later sources. -/
example :
    (ofSources [("VULNMANAGE_MAX_ROWS_PER_PAGE", "")]
      (some ("\x7b\"filters\": \x7b\"rows_per_page\": null\x7d, ".toList ++
        "\"rows_per_page\": 7, \"max_rows_per_page\": 8\x7d".toList |>.map Char.toNat))).toOption =
      some {} := by decide +kernel

end Settings

end ListingFilter
