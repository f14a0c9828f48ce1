import Mathlib.Data.List.Nodup
import Mathlib.Data.Nat.Init
import ListingFilter.Proofs.AlikeBindings
import ListingFilter.Proofs.Entries
/-!
# Names of new parameters

The name of a new parameter is made from the number of the parameters before it, and it need not be
free where other clauses have bound parameters too. It is lengthened until it is; every lengthening
leaves a name of the parameters behind, so the search ends. The main result is
`bindsFreshly_calls`: whatever parameters a clause starts from, each value that it binds gets a name
of its own, and no parameter is changed.
-/

namespace ListingFilter.Sql

/-! ### The search for a free name -/

/-- Lengthened while it is among `taken`, the name becomes `free`. -/
inductive LengthensTo (taken : List String) : String → String → Prop
  | free {name : String} (hfree : name ∉ taken) : LengthensTo taken name name
  | lengthened {name free : String} (htaken : name ∈ taken)
    (hlonger : LengthensTo taken (name ++ "_") free) : LengthensTo taken name free

section Search

variable {taken : List String} {name free : String}

theorem LengthensTo.notMem (h : LengthensTo taken name free) : free ∉ taken := by
  induction h with
  | free hfree => exact hfree
  | lengthened _ _ ih => exact ih

/-- The names that a search from `name` may still meet. -/
def namesFrom (taken : List String) (name : String) : List String :=
  taken.filter fun other => name.length ≤ other.length

theorem mem_namesFrom (h : name ∈ taken) : name ∈ namesFrom taken name := by
  simp [namesFrom, h]

/-- A search that goes on leaves a name behind. -/
theorem length_namesFrom_lt (h : name ∈ taken) :
    (namesFrom taken (name ++ "_")).length < (namesFrom taken name).length := by
  have hfilter : namesFrom taken (name ++ "_") =
      (namesFrom taken name).filter fun other => (name ++ "_").length ≤ other.length := by
    rw [namesFrom, namesFrom, List.filter_filter]
    refine List.filter_congr fun other _ => ?_
    simp only [String.length_append, ← Bool.decide_and, decide_eq_decide]
    omega
  rw [hfilter, List.length_filter_lt_length_iff_exists]
  have hlonger : name.length < (name ++ "_").length := by
    rw [String.length_append]
    exact Nat.lt_add_of_pos_right (by decide)
  exact ⟨name, mem_namesFrom h, fun hle => Nat.not_le.2 hlonger (of_decide_eq_true hle)⟩

/-- As many steps as there are names to meet bring the search to its end. -/
theorem lengthensTo_freshen {fuel : Nat} (h : (namesFrom taken name).length ≤ fuel) :
    LengthensTo taken name (Bindings.freshen taken fuel name) := by
  induction fuel generalizing name with
  | zero =>
    have hnone : namesFrom taken name = [] := List.length_eq_zero_iff.1 (Nat.le_zero.1 h)
    refine .free fun htaken => ?_
    exact absurd (hnone ▸ mem_namesFrom htaken) List.not_mem_nil
  | succ fuel ih =>
    by_cases htaken : name ∈ taken
    · have hless := length_namesFrom_lt htaken
      rw [Bindings.freshen, if_pos (List.contains_iff_mem.2 htaken)]
      exact .lengthened htaken (ih (by omega))
    · rw [Bindings.freshen, if_neg fun hcontains => htaken (List.contains_iff_mem.1 hcontains)]
      exact .free htaken

end Search

namespace Bindings

/-- The name that is tried first for a new parameter. -/
def firstName (bindings : Bindings) : String :=
  bindings.stem ++ "_" ++ toString bindings.entries.length

variable {bindings : Bindings} {name text : String} {value : Json}

theorem lengthensTo_freshName (bindings : Bindings) :
    LengthensTo bindings.names bindings.firstName bindings.freshName := by
  refine lengthensTo_freshen ?_
  calc (namesFrom bindings.names bindings.firstName).length
      ≤ bindings.names.length := List.length_filter_le _ _
    _ = bindings.entries.length := List.length_map _

theorem freshName_notMem (bindings : Bindings) : bindings.freshName ∉ bindings.names :=
  bindings.lengthensTo_freshName.notMem

/-- A parameter keeps its value when another one is bound. -/
theorem lookup?_bind (h : lookup? bindings.entries name = some value) :
    lookup? (bindings.bind text).2.entries name = some value := by
  rw [bind, lookup?_append, h, Option.some_or]

theorem lookup?_bind_freshName (bindings : Bindings) (text : String) :
    lookup? (bindings.bind text).2.entries bindings.freshName = some (.text text) := by
  have hnone : lookup? bindings.entries bindings.freshName = none :=
    lookup?_eq_none_iff.2 bindings.freshName_notMem
  rw [bind, lookup?_append, hnone, Option.none_or, lookup?_cons, if_pos rfl]

theorem names_bind (bindings : Bindings) (text : String) :
    (bindings.bind text).2.names = bindings.names ++ [bindings.freshName] := by
  simp [names, bind]

/-- Parameters of different names stay so. -/
theorem nodup_names_bind (h : bindings.names.Nodup) (text : String) :
    (bindings.bind text).2.names.Nodup := by
  rw [names_bind, ← List.concat_eq_append]
  exact h.concat bindings.freshName_notMem

end Bindings

/-! ### Values that are bound -/

/-- The text that a value is bound to. A boolean and a finite number stand in the statement
themselves. -/
def boundText? : Json → Option String
  | .text value => some value
  | .null => some "None"
  | .real .nan => some "nan"
  | .real (.infinite negative) => some (if negative then "-inf" else "inf")
  | .bool _ | .integer _ | .real (.finite ..) => none
  | value => value.display?

/-- Either a value is bound to its text, or it is inlined unless it has none. -/
theorem inline?_cases (value : Json) :
    (inline? value = none ∧ boundText? value = value.display?) ∨
      boundText? value = none ∧ ∃ outcome, inline? value = some outcome ∧
        ((∃ fault, outcome = .error fault) ↔ value.display? = none) := by
  cases value with
  | null | text | array | object => exact .inl ⟨rfl, rfl⟩
  | bool value => exact .inr ⟨rfl, _, rfl, by simp [Json.display?, Json.shown?]⟩
  | integer n =>
    refine .inr ⟨rfl, _, rfl, ?_⟩
    simp only [Json.display?, Json.shown?]
    cases Numeral.write? n <;> simp
  | real number =>
    cases number with
    | nan | infinite => exact .inl ⟨rfl, rfl⟩
    | finite => exact .inr ⟨rfl, _, rfl, by simp [Json.display?, Json.shown?]⟩

/-! ### Calls -/

/-- A call on the fragments of a clause. -/
inductive Call
  | literal (value : Json)
  | containsPattern (part : String)
  | append (fragment : String)

/-- The text that a call binds. -/
def Call.boundText? : Call → Option String
  | .literal value => Sql.boundText? value
  | .containsPattern part => some ("%" ++ part ++ "%")
  | .append _ => none

/-- The call asks for the literal of a value that has no text. -/
def Call.IsUnwritable (call : Call) : Prop :=
  ∃ value, call = .literal value ∧ value.display? = none

namespace Fragments

/-- What a computation that may bind parameters gives, and the fragments after it. -/
def compute (fragments : Fragments) (computation : Binding String) :
    Except Fault (Option String) × Fragments :=
  match computation fragments.bindings with
  | .ok (text, bindings) => (.ok (some text), { fragments with bindings := bindings })
  | .error fault => (.error fault, fragments)

/-- What a call returns, and the fragments after it. A call that fails changes nothing. -/
def step (fragments : Fragments) : Call → Except Fault (Option String) × Fragments
  | .literal value => fragments.compute (Sql.literal value)
  | .containsPattern part => fragments.compute (Sql.containsPattern part)
  | .append fragment => (.ok none, fragments.append fragment)

/-- All that a call can do. -/
inductive Effect (fragments : Fragments) (call : Call) :
    Except Fault (Option String) → Bindings → Prop
  | binds {text : String} (htext : call.boundText? = some text)
    (hwritable : ¬ call.IsUnwritable) :
    Effect fragments call (.ok (some (":" ++ fragments.bindings.freshName)))
      (fragments.bindings.bind text).2
  | leaves {answer : Option String} (hnone : call.boundText? = none)
    (hwritable : ¬ call.IsUnwritable) : Effect fragments call (.ok answer) fragments.bindings
  | fails {fault : Fault} (hnone : call.boundText? = none) (hunwritable : call.IsUnwritable) :
    Effect fragments call (.error fault) fragments.bindings

theorem effect_step (fragments : Fragments) (call : Call) :
    Effect fragments call (fragments.step call).1 (fragments.step call).2.bindings := by
  cases call with
  | append fragment => exact .leaves rfl (by simp [Call.IsUnwritable])
  | containsPattern part => exact .binds rfl (by simp [Call.IsUnwritable])
  | literal value =>
    rw [step, compute, Sql.literal]
    -- A value that is not inlined is bound, so it fails for want of a text only.
    rcases inline?_cases value with ⟨hinline, hbound⟩ | ⟨hbound, outcome, hinline, hfails⟩
    · cases hdisplay : value.display? with
      | some text =>
        rw [hinline]
        exact .binds (hbound.trans hdisplay) (by simp [Call.IsUnwritable, hdisplay])
      | none =>
        rw [hinline]
        exact .fails (hbound.trans hdisplay) ⟨value, rfl, hdisplay⟩
    · rw [hinline]
      cases outcome with
      | ok text => exact .leaves hbound (by simpa [Call.IsUnwritable] using hfails)
      | error fault => exact .fails hbound ⟨value, rfl, hfails.1 ⟨fault, rfl⟩⟩

variable {fragments : Fragments} {call : Call} {answer : Except Fault (Option String)}
  {after : Bindings}

/-- No call changes or removes a parameter. -/
theorem Effect.lookup?_eq (h : Effect fragments call answer after) {name : String} {value : Json}
    (hvalue : lookup? fragments.bindings.entries name = some value) :
    lookup? after.entries name = some value := by
  cases h with
  | binds => exact Bindings.lookup?_bind hvalue
  | leaves | fails => exact hvalue

theorem Effect.stem_eq (h : Effect fragments call answer after) :
    after.stem = fragments.bindings.stem := by
  cases h with
  | binds | leaves | fails => rfl

theorem Effect.nodup (h : Effect fragments call answer after)
    (hnodup : fragments.bindings.names.Nodup) : after.names.Nodup := by
  cases h with
  | binds => exact Bindings.nodup_names_bind hnodup _
  | leaves | fails => exact hnodup

/-! ### Runs -/

/-- The fragments before the call at position `i`, and at the end after the last one. -/
def stateAt (start : Fragments) (calls : List Call) (i : Nat) : Fragments :=
  (calls.take i).foldl (fun fragments call => (fragments.step call).2) start

/-- The parameters before the call at position `i`. -/
def bindingsAt (start : Fragments) (calls : List Call) (i : Nat) : Bindings :=
  (stateAt start calls i).bindings

/-- What the call at position `i` returns, if there is one. -/
def answerAt (start : Fragments) (calls : List Call) (i : Nat) :
    Option (Except Fault (Option String)) :=
  calls[i]?.map fun call => ((stateAt start calls i).step call).1

variable (start : Fragments) {calls : List Call} {i j : Nat}

theorem stateAt_succ (h : calls[i]? = some call) :
    stateAt start calls (i + 1) = ((stateAt start calls i).step call).2 := by
  rw [stateAt, List.take_add_one, h, Option.toList_some, List.foldl_concat]
  rfl

theorem stateAt_succ_of_none (h : calls[i]? = none) :
    stateAt start calls (i + 1) = stateAt start calls i := by
  rw [stateAt, List.take_add_one, h, Option.toList_none, List.append_nil]
  rfl

/-- The call at a position has its effect there. -/
theorem effect_at (h : calls[i]? = some call) :
    ∃ answer, answerAt start calls i = some answer ∧
      Effect (stateAt start calls i) call answer (bindingsAt start calls (i + 1)) := by
  refine ⟨_, by rw [answerAt, h, Option.map_some], ?_⟩
  rw [bindingsAt, stateAt_succ start h]
  exact effect_step _ call

/-- What every effect keeps holds from then on. -/
theorem bindingsAt_preserves (holds : Bindings → Prop)
    (heffect : ∀ fragments call answer after, Effect fragments call answer after →
      holds fragments.bindings → holds after)
    (hij : i ≤ j) (h : holds (bindingsAt start calls i)) : holds (bindingsAt start calls j) := by
  induction j, hij using Nat.le_induction with
  | base => exact h
  | succ j hij ih =>
    cases hcall : calls[j]? with
    | none => rwa [bindingsAt, stateAt_succ_of_none start hcall]
    | some call =>
      obtain ⟨answer, -, hat⟩ := effect_at start hcall
      exact heffect _ _ _ _ hat ih

/-- A parameter keeps its value for the rest of the run. -/
theorem lookup?_bindingsAt {name : String} {value : Json} (hij : i ≤ j)
    (h : lookup? (bindingsAt start calls i).entries name = some value) :
    lookup? (bindingsAt start calls j).entries name = some value :=
  bindingsAt_preserves start (fun bindings => lookup? bindings.entries name = some value)
    (fun _ _ _ _ heffect hvalue => heffect.lookup?_eq hvalue) hij h

/-- A call that binds a text has the next free name for it, and returns this name. -/
theorem bound_at {text : String} (hcall : calls[i]? = some call)
    (htext : call.boundText? = some text) :
    answerAt start calls i = some (.ok (some (":" ++ (bindingsAt start calls i).freshName))) ∧
      bindingsAt start calls (i + 1) = ((bindingsAt start calls i).bind text).2 := by
  obtain ⟨answer, hanswer, heffect⟩ := effect_at start hcall
  generalize bindingsAt start calls (i + 1) = after at heffect
  cases heffect with
  | binds htext' =>
    obtain rfl := Option.some.inj (htext.symm.trans htext')
    exact ⟨hanswer, rfl⟩
  | leaves hnone | fails hnone =>
    rw [htext] at hnone
    cases hnone

theorem lookup?_bound_at {text : String} (hcall : calls[i]? = some call)
    (htext : call.boundText? = some text) (hij : i < j) :
    lookup? (bindingsAt start calls j).entries (bindingsAt start calls i).freshName =
      some (.text text) := by
  refine lookup?_bindingsAt start (Nat.succ_le_of_lt hij) ?_
  rw [(bound_at start hcall htext).2]
  exact Bindings.lookup?_bind_freshName _ text

/-- The name of a later parameter is not that of an earlier one. -/
theorem freshName_ne {text : String} (hcall : calls[i]? = some call)
    (htext : call.boundText? = some text) (hij : i < j) :
    (bindingsAt start calls i).freshName ≠ (bindingsAt start calls j).freshName := by
  intro heq
  have hmem := mem_of_lookup? (lookup?_bound_at start hcall htext hij)
  rw [heq] at hmem
  exact (bindingsAt start calls j).freshName_notMem (List.mem_map_of_mem hmem)

/-- What holds of every run of calls, whatever parameters there are at its start. -/
structure BindsFreshly (start : Fragments) (calls : List Call) : Prop where
  /-- No parameter is ever changed or removed. -/
  kept : ∀ i j name value, i ≤ j →
    lookup? (bindingsAt start calls i).entries name = some value →
      lookup? (bindingsAt start calls j).entries name = some value
  /-- All names are made from the stem that was given at the start. -/
  stem : ∀ i, (bindingsAt start calls i).stem = start.bindings.stem
  /-- Different parameters have different names if those at the start do. -/
  nodup : start.bindings.names.Nodup → ∀ i, (bindingsAt start calls i).names.Nodup
  /-- A text to be bound gets a new parameter and no other is added. Its name, which the call
  returns, is where the search for a free one ends, and it stands for the text from then on. -/
  bound : ∀ i call text, calls[i]? = some call → call.boundText? = some text →
    ∃ name, answerAt start calls i = some (.ok (some (":" ++ name))) ∧
      LengthensTo (bindingsAt start calls i).names (bindingsAt start calls i).firstName name ∧
      name ∉ (bindingsAt start calls i).names ∧
      (bindingsAt start calls (i + 1)).entries =
        (bindingsAt start calls i).entries ++ [(name, .text text)] ∧
      ∀ j, i < j → lookup? (bindingsAt start calls j).entries name = some (.text text)
  /-- A call that binds nothing adds nothing. -/
  inlined : ∀ i call, calls[i]? = some call → call.boundText? = none →
    bindingsAt start calls (i + 1) = bindingsAt start calls i
  /-- Two calls that bind a text each return different names. -/
  apart : ∀ i j call later text other, i < j →
    calls[i]? = some call → call.boundText? = some text →
    calls[j]? = some later → later.boundText? = some other →
      answerAt start calls i ≠ answerAt start calls j
  /-- The literal of a value without a text fails, and no other call does. -/
  fails : ∀ i call, calls[i]? = some call →
    ((∃ fault, answerAt start calls i = some (.error fault)) ↔ call.IsUnwritable)

/-- Literals never collide, in any run of calls on any parameters. -/
theorem bindsFreshly_calls (start : Fragments) (calls : List Call) : BindsFreshly start calls where
  kept i j name value hij h := lookup?_bindingsAt start hij h
  stem i :=
    bindingsAt_preserves start (fun bindings => bindings.stem = start.bindings.stem)
      (fun _ _ _ _ heffect hstem => heffect.stem_eq.trans hstem) (Nat.zero_le i) rfl
  nodup hstart i :=
    bindingsAt_preserves start (fun bindings => bindings.names.Nodup)
      (fun _ _ _ _ heffect hnodup => heffect.nodup hnodup) (Nat.zero_le i) hstart
  bound i call text hcall htext := by
    obtain ⟨hanswer, hnext⟩ := bound_at start hcall htext
    refine ⟨_, hanswer, Bindings.lengthensTo_freshName _, Bindings.freshName_notMem _, ?_,
      fun j hij => lookup?_bound_at start hcall htext hij⟩
    rw [hnext]
    rfl
  inlined i call hcall hnone := by
    obtain ⟨answer, -, heffect⟩ := effect_at start hcall
    generalize bindingsAt start calls (i + 1) = after at heffect
    cases heffect with
    | binds htext =>
      rw [hnone] at htext
      cases htext
    | leaves | fails => rfl
  apart i j call later text other hij hcall htext hlater hother heq := by
    rw [(bound_at start hcall htext).1, (bound_at start hlater hother).1] at heq
    exact freshName_ne start hcall htext hij (by simpa using heq)
  fails i call hcall := by
    obtain ⟨answer, hanswer, heffect⟩ := effect_at start hcall
    rw [hanswer]
    generalize bindingsAt start calls (i + 1) = after at heffect
    cases heffect with
    | binds _ hwritable | leaves _ hwritable => simpa using hwritable
    | fails _ hunwritable => simpa using hunwritable

/-- Two lengthenings, a value that is not bound, and a name that is free at once. -/
example :
    let start : Fragments := { bindings := ⟨"fp", [("fp_2", .text "x"), ("fp_2_", .null)]⟩ }
    let calls : List Call := [.literal (.text "y"), .literal (.bool true), .containsPattern "z"]
    (List.range 3).map (answerAt start calls) =
        [some (.ok (some ":fp_2__")), some (.ok (some "1")), some (.ok (some ":fp_3"))] ∧
      (bindingsAt start calls 3).entries =
        [("fp_2", .text "x"), ("fp_2_", .null), ("fp_2__", .text "y"), ("fp_3", .text "%z%")] :=
  ⟨rfl, rfl⟩

end Fragments

end ListingFilter.Sql
