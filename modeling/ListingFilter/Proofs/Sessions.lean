import ListingFilter.Query.Session
/-!
# Runs on a session

A run of a computation on a session is taken apart into its steps. A statement uses up one outcome,
if there is one left, and is kept at the end of the statements executed, whatever its outcome is.
What was executed before has no influence on a run, which is told by the outcomes that it is given:
`runOn` has its result and its own statements.
-/

namespace ListingFilter

/-! ### Sequences -/

namespace SessionM

variable {α β : Type} {first : SessionM α} {next : α → SessionM β} {session session' : Session}
  {value : α} {fault : Fault}

theorem bind_of_ok (h : first session = (.ok value, session')) :
    (first >>= next) session = next value session' := by
  have hbind : (first >>= next) session = ExceptT.bindCont next (first session).1
      (first session).2 := rfl
  rw [hbind, h]
  rfl

theorem bind_of_error (h : first session = (.error fault, session')) :
    (first >>= next) session = (.error fault, session') := by
  have hbind : (first >>= next) session = ExceptT.bindCont next (first session).1
      (first session).2 := rfl
  rw [hbind, h]
  rfl

theorem ofExcept_eq (outcome : Except Fault α) (session : Session) :
    ofExcept outcome session = (outcome, session) := by
  cases outcome <;> rfl

/-- A computation that goes on without statements leaves the session as it came to it. -/
theorem bind_session (hnext : ∀ value session, (next value session).2 = session) :
    ((first >>= next) session).2 = (first session).2 := by
  cases hfirst : first session with
  | mk result session' =>
    cases result with
    | error fault => rw [bind_of_error hfirst]
    | ok value => rw [bind_of_ok hfirst, hnext]

end SessionM

/-! ### Statements -/

/-- The outcome of the next statement. Without any left the answer is nothing. -/
def nextOutcome (outcomes : List Outcome) : Outcome := outcomes.headD (.answered [] .null)

namespace Session

variable {session : Session} {statement : Statement}

/-- The session after the execution of some statements. -/
def after (session : Session) (statements : List Statement) : Session :=
  ⟨session.outcomes.drop statements.length, session.executed ++ statements⟩

@[simp] theorem after_nil (session : Session) : session.after [] = session := by
  simp [after]

theorem after_append (session : Session) (front back : List Statement) :
    session.after (front ++ back) = (session.after front).after back := by
  simp [after, List.drop_drop]

theorem execute_of_answered {rows : List Json} {scalar : Json}
    (h : nextOutcome session.outcomes = .answered rows scalar) :
    execute statement session = (.ok (rows, scalar), session.after [statement]) := by
  obtain ⟨outcomes, executed⟩ := session
  cases outcomes with
  | nil =>
    obtain ⟨rfl, rfl⟩ := Outcome.answered.inj h
    rfl
  | cons outcome rest =>
    obtain rfl : outcome = .answered rows scalar := h
    rfl

theorem execute_of_failed (h : nextOutcome session.outcomes = .failed) :
    execute statement session = (.error .statementFailed, session.after [statement]) := by
  obtain ⟨outcomes, executed⟩ := session
  cases outcomes with
  | nil => cases h
  | cons outcome rest =>
    obtain rfl : outcome = .failed := h
    rfl

/-- The session if `earlier` was executed before its own statements. -/
def precededBy (session : Session) (earlier : List Statement) : Session :=
  { session with executed := earlier ++ session.executed }

end Session

/-! ### Earlier statements -/

namespace SessionM

variable {α β : Type} {first : SessionM α} {next : α → SessionM β}

/-- What was executed before changes nothing in the computation. -/
def IsUnaware (computation : SessionM α) : Prop :=
  ∀ session earlier, computation (session.precededBy earlier) =
    ((computation session).1, (computation session).2.precededBy earlier)

theorem isUnaware_ofExcept (outcome : Except Fault α) : IsUnaware (ofExcept outcome) := by
  intro session earlier
  rw [ofExcept_eq, ofExcept_eq]

theorem isUnaware_execute (statement : Statement) : IsUnaware (Session.execute statement) := by
  rintro ⟨outcomes, executed⟩ earlier
  cases outcomes with
  | nil => simp [Session.execute, Session.precededBy]
  | cons outcome rest => cases outcome <;> simp [Session.execute, Session.precededBy]

theorem IsUnaware.bind (hfirst : IsUnaware first) (hnext : ∀ value, IsUnaware (next value)) :
    IsUnaware (first >>= next) := by
  intro session earlier
  have hbefore := hfirst session earlier
  cases hrun : first session with
  | mk result session' =>
    rw [hrun] at hbefore
    cases result with
    | error fault => rw [bind_of_error hrun, bind_of_error hbefore]
    | ok value => rw [bind_of_ok hrun, bind_of_ok hbefore, hnext value session' earlier]

/-- The result of a computation on a session with these outcomes, and the statements that it
executes. -/
def runOn (outcomes : List Outcome) (computation : SessionM α) :
    Except Fault α × List Statement :=
  ((computation ⟨outcomes, []⟩).1, (computation ⟨outcomes, []⟩).2.executed)

theorem IsUnaware.runOn_eq {computation : SessionM α} (h : IsUnaware computation)
    (outcomes : List Outcome) (executed : List Statement) :
    ((computation ⟨outcomes, executed⟩).1, (computation ⟨outcomes, executed⟩).2.executed) =
      ((computation.runOn outcomes).1, executed ++ (computation.runOn outcomes).2) := by
  have hrun := h ⟨outcomes, []⟩ executed
  rw [Session.precededBy, List.append_nil] at hrun
  rw [hrun]
  rfl

end SessionM

end ListingFilter
