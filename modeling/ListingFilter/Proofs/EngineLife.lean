import Mathlib.Data.Nat.Basic
import ListingFilter.Database.Engine
import ListingFilter.Proofs.Outcomes
/-!
# The life of the shared engine

The engine, its session factory and its request sessions come and go together, and an engine lasts
until it is disposed of, whatever the environment becomes. `Shared.Move` is all that one step can
do; every invariant is kept by a move, and so by a run. A run from the start is read by positions:
`stateAt` is what is shared before a step, `answerAt` is what the step gives, so that two steps of
one run can be compared wherever they stand.
-/

namespace ListingFilter.Database

/-! ### Sources of a blueprint -/

namespace Shared

variable {shared next : Shared} {step : EngineStep} {result : Option (Except Fault Engine)}
  {engine : Engine} {least : Nat}

/-! ### One step -/

namespace Move

end Move

/-! ### Runs -/

/-- What is shared after the first `i` steps. -/
def stateAt (steps : List EngineStep) (i : Nat) : Shared := (run {} (steps.take i)).2

/-- The result of step `i`; none if it asks for nothing. -/
def answerAt (steps : List EngineStep) (i : Nat) : Option (Except Fault Engine) :=
  ((run {} steps).1[i]?).join

variable {steps : List EngineStep} {i j : Nat}

theorem stateAt_succ_of_none (h : steps[i]? = none) : stateAt steps (i + 1) = stateAt steps i := by
  have hlength := List.getElem?_eq_none_iff.1 h
  rw [stateAt, stateAt, List.take_of_length_le hlength,
    List.take_of_length_le (Nat.le_succ_of_le hlength)]

/-- A request that fails, two that share an engine whatever the second one names, and one after a
disposal. -/
example :
    (run {} [.get [("SQLALCHEMY_ECHO", "yes")] none, .get [] none,
      .get [("DATABASE_URL", "no url")] none, .dispose, .get [("PGUSER", "web")] none]).1.map
        (fun result => result.map fun answer => answer.toOption.map (·.number)) =
      [some none, some (some 0), some (some 0), none, some (some 1)] := by
  decide +kernel

end Shared

end ListingFilter.Database
