import ListingFilter.Proofs.LowerCase
import ListingFilter.Proofs.Registration
/-!
# Runs of registrations

A look-up searches for a text trimmed and in lower case, a registration keeps its type under the
name as it is. A type that was registered is therefore found by its name exactly if the name is
trimmed and in lower case. Whatever is registered, the look-up of a text is changed only by a name
that is the same text trimmed and in lower case.
-/

namespace ListingFilter.Registry

/-- The registry after the registration of some types, one after the other. -/
def registerAll (registry : Registry) (types : List ResourceType) : Registry :=
  types.foldl register registry

/-- The name that a look-up of `text` searches for. -/
def soughtName (text : String) : String := Text.lower (Text.trim text)

variable {registry : Registry} {types before after : List ResourceType} {type : ResourceType}
  {name text : String}

/-! ### Names that are searched for -/

theorem lower_soughtName (text : String) : Text.lower (soughtName text) = soughtName text :=
  Text.lower_lower _

/-- A name that is searched for is found under itself. -/
theorem soughtName_soughtName (text : String) : soughtName (soughtName text) = soughtName text := by
  rw [soughtName, soughtName, Text.trim_lower_trim, Text.lower_lower]

theorem find_of_lookup? (h : lookup? registry (soughtName text) = some type) :
    registry.find (some text) = .ok type := by
  have hsought : lookup? registry (Text.lower (Text.trim text)) = some type := h
  simp only [find, Option.getD_some, hsought]

theorem lookup?_of_find (h : registry.find (some text) = .ok type) :
    lookup? registry (soughtName text) = some type := by
  rw [find, Option.getD_some] at h
  split at h
  · rename_i found hfound
    rw [← Except.ok.inj h]
    exact hfound
  · cases h

/-- A look-up depends on what is registered under the name that it searches for. -/
theorem find_congr {registry' : Registry}
    (h : lookup? registry (soughtName text) = lookup? registry' (soughtName text)) :
    registry.find (some text) = registry'.find (some text) := by
  have hsought : lookup? registry (Text.lower (Text.trim text)) =
      lookup? registry' (Text.lower (Text.trim text)) := h
  simp only [find, Option.getD_some, hsought]

/-! ### Entries and their names -/

/-- Every resource type is registered under its name. -/
def IsNamed (registry : Registry) : Prop := ∀ entry ∈ registry, entry.2.name = entry.1

theorem isNamed_builtin : builtin.IsNamed := by
  intro entry hentry
  obtain ⟨type, -, rfl⟩ := List.mem_map.1 hentry
  rfl

theorem IsNamed.register (h : registry.IsNamed) (type : ResourceType) :
    (registry.register type).IsNamed := by
  intro entry hentry
  rcases mem_assign hentry with hold | rfl
  · exact h entry hold
  · rfl

theorem IsNamed.registerAll (h : registry.IsNamed) (types : List ResourceType) :
    (registry.registerAll types).IsNamed := by
  induction types generalizing registry with
  | nil => exact h
  | cons type types ih => exact ih (h.register type)

/-! ### Runs -/

/-- A run leaves alone what is registered under other names. -/
theorem lookup?_registerAll_of_ne (h : ∀ type ∈ types, type.name ≠ name) :
    lookup? (registry.registerAll types) name = lookup? registry name := by
  induction types generalizing registry with
  | nil => rfl
  | cons type types ih =>
    obtain ⟨hfirst, hrest⟩ := List.forall_mem_cons.1 h
    calc lookup? (registry.registerAll (type :: types)) name
        = lookup? (registry.register type) name := ih hrest
      _ = lookup? registry name := lookup?_assign.trans (if_neg hfirst)

/-- After a run the last type registered under a name is there. -/
theorem lookup?_registerAll_last (h : ∀ later ∈ after, later.name ≠ type.name) :
    lookup? (registry.registerAll (before ++ type :: after)) type.name = some type := by
  have hrun : registry.registerAll (before ++ type :: after) =
      ((registry.registerAll before).register type).registerAll after := by
    rw [registerAll, List.foldl_append]
    rfl
  rw [hrun, lookup?_registerAll_of_ne h, lookup?_register]

/-- After any run of registrations the last type registered under its name is found by it exactly
if the name is trimmed and in lower case, and then a filter on it is compiled against its own
tables. The look-up of a text gives what it gave before the run, unless the name of a type
registered in it is the same text trimmed and in lower case. -/
theorem find_registerAll (types : List ResourceType) :
    (∀ before type after, types = before ++ type :: after →
      (∀ later ∈ after, later.name ≠ type.name) →
        ((builtin.registerAll types).find (some type.name) = .ok type ↔
          soughtName type.name = type.name) ∧
        (soughtName type.name = type.name → ∀ clock options term,
          (builtin.registerAll types).compile clock (some type.name) options term =
            Clause.compile clock (type.ownScope options) term)) ∧
    ∀ text, (∀ type ∈ types, soughtName type.name ≠ soughtName text) →
      (builtin.registerAll types).find (some text) = builtin.find (some text) := by
  constructor
  · rintro before type after rfl hlast
    have hlookup := @lookup?_registerAll_last builtin before after type hlast
    have hfind : soughtName type.name = type.name →
        (builtin.registerAll (before ++ type :: after)).find (some type.name) = .ok type :=
      fun hname => find_of_lookup? (by rw [hname, hlookup])
    refine ⟨⟨fun hfound => ?_, hfind⟩, fun hname clock options term => ?_⟩
    · have hentry := mem_of_lookup? (lookup?_of_find hfound)
      exact (isNamed_builtin.registerAll _ _ hentry).symm
    · have hlower : Text.lower type.name = type.name := by rw [← hname, lower_soughtName]
      simp only [compile, hfind hname, compileType, typeScope_of_registered hlower hlookup]
  · intro text hother
    refine find_congr (lookup?_registerAll_of_ne fun type htype hname => hother type htype ?_)
    rw [hname, soughtName_soughtName]

/-- A built-in type is replaced twice, and another type is registered after it. -/
theorem find_registerAll_host :
    let first : ResourceType := .declare
      { name := "host", table := "machines", filterColumns := ["name"]
        selectColumns := [.named "name" "\x7btable\x7d.name" .string] }
    let host : ResourceType := { first with table := "servers" }
    let widget : ResourceType := { first with name := "Widget " }
    let registry := builtin.registerAll [first, host, widget]
    soughtName host.name = host.name ∧ registry.find (some host.name) = .ok host ∧
      registry.compile (.whole 0) (some host.name) {} "name=a" =
        Clause.compile (.whole 0) (host.ownScope {}) "name=a" ∧
      (∀ type ∈ [first, host, widget], soughtName type.name ≠ soughtName " Task ") ∧
      registry.find (some " Task ") = builtin.find (some " Task ") := by
  intro first host widget registry
  obtain ⟨hregistered, hother⟩ := find_registerAll [first, host, widget]
  have hname : soughtName host.name = host.name := by decide +kernel
  have hnames : ∀ type ∈ [first, host, widget], soughtName type.name ≠ soughtName " Task " := by
    decide +kernel
  obtain ⟨hfind, hcompile⟩ := hregistered [first] host [widget] rfl (by decide +kernel)
  exact ⟨hname, hfind.2 hname, hcompile hname _ _ _, hnames, hother " Task " hnames⟩

/-- A type is registered under a name with a capital letter, and no look-up finds it by its name. -/
theorem find_registerAll_capital :
    let widget : ResourceType := .declare
      { name := "Widget", table := "widgets", filterColumns := ["name"]
        selectColumns := [.named "name" "\x7btable\x7d.name" .string] }
    let registry := builtin.registerAll [widget]
    registry.find (some widget.name) = .error (.unknownResourceType (some "Widget")) ∧
      registry.find (some widget.name) ≠ .ok widget ∧
      registry.compile (.whole 0) (some widget.name) {} "name=a" =
        .error (.unknownResourceType (some "Widget")) := by
  intro widget registry
  have hlookup : lookup? registry (Text.lower (Text.trim "Widget")) = none := by decide +kernel
  have hfind : registry.find (some widget.name) =
      .error (.unknownResourceType (some "Widget")) := by
    simp only [find, Option.getD_some, widget, ResourceType.declare, hlookup]
  refine ⟨hfind, fun hfound => ?_, by rw [compile, hfind]⟩
  rw [hfind] at hfound
  cases hfound

end ListingFilter.Registry
