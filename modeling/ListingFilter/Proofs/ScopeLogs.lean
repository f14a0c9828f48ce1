import Mathlib.Data.List.Infix
import ListingFilter.Database.SessionScope
/-!
# What is known of some work afterwards

The log of some work has its scopes, its requests and its failures, each in its place, whatever
sessions the scopes were given. The events are those of the scopes: a scope opens with the use of
its session, and closes as its body and its place tell.
-/

namespace ListingFilter.Database

/-! ### Failures -/

/-- The failure of the work if there were no sessions. -/
def Work.failure : Work → Option String
  | .rest => none
  | .fail failure => some failure
  | .cleanUp => none
  | .scope _ body => body.failure
  | .request _ body => body.failure
  | .attempt _ => none
  | .both first next => first.failure.or next.failure

/-- What a scope does after its body has no influence on the failure. -/
theorem Work.failure_run (work : Work) (inRequest : Bool) (scopes : Scopes) :
    (work.run inRequest scopes).failure = work.failure := by
  induction work generalizing inRequest scopes with
  | rest => rfl
  | fail failure => rfl
  | cleanUp => rfl
  | scope inTransaction body ih => exact ih inRequest _
  | request cleansUp body ih => exact ih true _
  | attempt body => rfl
  | both first next ih ih' =>
    have hfirst := ih inRequest scopes
    simp only [run, failure]
    cases houtcome : (first.run inRequest scopes).failure with
    | some failure =>
      rw [← hfirst, houtcome]
      rfl
    | none =>
      rw [← hfirst, houtcome]
      exact ih' inRequest _

/-! ### The scopes of the work -/

/-- The scopes and requests of some work, as they would be without sessions. -/
structure Plan where
  /-- For each scope whether it is in a request, whether its body leaves the session in a
  transaction and how the body fails. -/
  scopes : List (Bool × Bool × Option String) := []
  /-- The scopes of this request in their order, with `false` for a clean-up. -/
  moments : List Bool := []
  requests : List (List Bool) := []

def Plan.append (plan next : Plan) : Plan :=
  ⟨plan.scopes ++ next.scopes, plan.moments ++ next.moments, plan.requests ++ next.requests⟩

/-- What the work does with scopes, inside a request or not. -/
def Work.plan : Work → Bool → Plan
  | .rest, _ => {}
  | .fail _, _ => {}
  | .cleanUp, _ => { moments := [false] }
  | .scope inTransaction body, inRequest =>
    let plan := body.plan inRequest
    { plan with
      scopes := (inRequest, inTransaction, body.failure) :: plan.scopes
      moments := true :: plan.moments }
  | .request _ body, _ =>
    let plan := body.plan true
    { plan with moments := [], requests := plan.moments :: plan.requests }
  | .attempt body, inRequest => body.plan inRequest
  | .both first next, inRequest =>
    match first.failure with
    | some _ => first.plan inRequest
    | none => (first.plan inRequest).append (next.plan inRequest)

/-- The plan that a log tells of. -/
def WorkLog.plan (log : WorkLog) : Plan :=
  ⟨log.records.map fun record => (record.inRequest, record.inTransaction, record.bodyFailure),
    log.moments.map Option.isSome, log.requests.map (·.map Option.isSome)⟩

theorem WorkLog.plan_append (log next : WorkLog) :
    (log.append next).plan = log.plan.append next.plan := by
  simp only [WorkLog.plan, append, Plan.append, List.map_append]

/-- The log has the scopes and requests of the work, each in its place. -/
theorem Work.plan_run (work : Work) (inRequest : Bool) (scopes : Scopes) :
    (work.run inRequest scopes).log.plan = work.plan inRequest := by
  induction work generalizing inRequest scopes with
  | rest => rfl
  | fail failure => rfl
  | cleanUp => rfl
  | scope inTransaction body ih =>
    have hbody := ih inRequest (scopes.begin inRequest).2
    rw [plan, ← hbody, ← body.failure_run inRequest (scopes.begin inRequest).2]
    rfl
  | request cleansUp body ih =>
    rw [plan, ← ih true { scopes with requestSession := none }]
    rfl
  | attempt body ih => exact ih inRequest scopes
  | both first next ih ih' =>
    have hfirst := first.failure_run inRequest scopes
    simp only [run, plan]
    cases houtcome : (first.run inRequest scopes).failure with
    | some failure =>
      rw [← hfirst, houtcome]
      exact ih inRequest scopes
    | none =>
      rw [← hfirst, houtcome]
      exact (WorkLog.plan_append _ _).trans (by rw [ih, ih'])

/-! ### The events of the scopes -/

/-- The events tell what the scopes of the log did. -/
structure WorkLog.Accounts (log : WorkLog) : Prop where
  /-- The events of a scope are together. -/
  together : ∀ record ∈ log.records, record.events <:+: log.events
  opening : ∀ record ∈ log.records, record.inRequest = false →
    record.opening = [.created record.session, .used record.session]
  closing : ∀ record ∈ log.records, record.closing =
    (if record.bodyFailure.isSome && record.inTransaction then [.rolledBack record.session]
      else []) ++ (if record.inRequest then [] else [.closed record.session])
  created : ∀ session, log.events.count (.created session) ≤
    log.records.countP (·.session = session)
  used : ∀ session, log.events.count (.used session) = log.records.countP (·.session = session)
  rolledBack : ∀ session, log.events.count (.rolledBack session) =
    log.records.countP fun record =>
      record.session = session ∧ record.bodyFailure.isSome ∧ record.inTransaction
  closed : ∀ session, log.events.count (.closed session) =
    log.records.countP fun record => record.session = session ∧ record.inRequest = false
  /-- Each scope is a moment, of a request or outside all of them. -/
  moments : ∀ session, (log.moments :: log.requests).flatten.count (some session) =
    log.records.countP (·.session = session)

namespace Scopes

theorem count_closing_of_ne {event : ScopeEvent} (inRequest : Bool) (body : Body) (session : Nat)
    (hrolledBack : event ≠ .rolledBack session) (hclosed : event ≠ .closed session) :
    (closing inRequest body session).count event = 0 := by
  refine List.count_eq_zero.2 fun hmem => ?_
  rcases List.mem_append.1 hmem with hmem | hmem
  · split_ifs at hmem
    · exact hrolledBack (List.mem_singleton.1 hmem)
    · cases hmem
  · split_ifs at hmem
    · cases hmem
    · exact hclosed (List.mem_singleton.1 hmem)

theorem count_rolledBack_closing (inRequest : Bool) (body : Body) (session other : Nat) :
    (closing inRequest body session).count (.rolledBack other) =
      if session = other ∧ body.fails ∧ body.inTransaction then 1 else 0 := by
  obtain ⟨fails, inTransaction⟩ := body
  cases inRequest <;> cases fails <;> cases inTransaction <;> simp [closing, List.count_cons]

theorem count_closed_closing (inRequest : Bool) (body : Body) (session other : Nat) :
    (closing inRequest body session).count (.closed other) =
      if session = other ∧ inRequest = false then 1 else 0 := by
  cases inRequest <;> cases hrolls : body.fails && body.inTransaction <;>
    simp [closing, hrolls, List.count_cons]

end Scopes

namespace WorkLog.Accounts

variable {log next : WorkLog}

theorem append (h : log.Accounts) (h' : next.Accounts) : (log.append next).Accounts where
  together record hrecord := by
    rcases List.mem_append.1 hrecord with hrecord | hrecord
    · exact (h.together record hrecord).trans (List.prefix_append _ _).isInfix
    · exact (h'.together record hrecord).trans (List.suffix_append _ _).isInfix
  opening record hrecord := (List.mem_append.1 hrecord).elim (h.opening record) (h'.opening record)
  closing record hrecord := (List.mem_append.1 hrecord).elim (h.closing record) (h'.closing record)
  created session := by
    rw [WorkLog.append, List.count_append, List.countP_append]
    exact Nat.add_le_add (h.created session) (h'.created session)
  used session := by
    rw [WorkLog.append, List.count_append, List.countP_append, h.used, h'.used]
  rolledBack session := by
    rw [WorkLog.append, List.count_append, List.countP_append, h.rolledBack, h'.rolledBack]
  closed session := by
    rw [WorkLog.append, List.count_append, List.countP_append, h.closed, h'.closed]
  moments session := by
    have hlog := h.moments session
    have hnext := h'.moments session
    simp only [WorkLog.append, List.flatten_cons, List.flatten_append, List.count_append,
      List.countP_append] at hlog hnext ⊢
    omega

/-- The events of a scope are counted with those of its body. -/
theorem ofScope {record : ScopeRecord} {creation : List ScopeEvent} (h : log.Accounts)
    (hduring : record.during = log.events)
    (hopening : record.opening = creation ++ [.used record.session])
    (hcreation : creation = [.created record.session] ∨ creation = [] ∧ record.inRequest = true)
    (hclosing : record.closing = Scopes.closing record.inRequest
      ⟨record.bodyFailure.isSome, record.inTransaction⟩ record.session) :
    (ofScope record log).Accounts := by
  have hcount : ∀ event, (WorkLog.ofScope record log).events.count event =
      creation.count event + [.used record.session].count event + log.events.count event +
        record.closing.count event := by
    intro event
    rw [WorkLog.ofScope, ScopeRecord.events, hduring, hopening, List.count_append,
      List.count_append, List.count_append]
  refine ⟨List.forall_mem_cons.2 ⟨List.infix_rfl, fun inner hinner => ?_⟩,
    List.forall_mem_cons.2 ⟨fun hown => ?_, h.opening⟩,
    List.forall_mem_cons.2 ⟨hclosing, h.closing⟩, fun session => ?_, fun session => ?_,
    fun session => ?_, fun session => ?_, fun session => ?_⟩
  · refine (h.together inner hinner).trans ⟨record.opening, record.closing, ?_⟩
    rw [← hduring]
    rfl
  · rcases hcreation with rfl | ⟨-, hin⟩
    · exact hopening
    · rw [hown] at hin
      cases hin
  · have hcreated : creation.count (.created session) ≤
        if record.session = session then 1 else 0 := by
      rcases hcreation with rfl | ⟨rfl, -⟩ <;> simp [List.count_cons]
    have hused : [ScopeEvent.used record.session].count (.created session) = 0 := by simp
    have hbody := h.created session
    rw [hcount, hclosing, Scopes.count_closing_of_ne _ _ _ (by simp) (by simp), hused,
      WorkLog.ofScope, List.countP_cons]
    simp only [decide_eq_true_eq]
    omega
  · have hcreated : creation.count (.used session) = 0 := by
      rcases hcreation with rfl | ⟨rfl, -⟩ <;> simp
    rw [hcount, hclosing, Scopes.count_closing_of_ne _ _ _ (by simp) (by simp), hcreated,
      h.used, WorkLog.ofScope, List.countP_cons]
    simp [List.count_cons, Nat.add_comm]
  · have hcreated : creation.count (.rolledBack session) = 0 := by
      rcases hcreation with rfl | ⟨rfl, -⟩ <;> simp
    have hused : [ScopeEvent.used record.session].count (.rolledBack session) = 0 := by simp
    rw [hcount, hclosing, Scopes.count_rolledBack_closing, hcreated, hused, h.rolledBack,
      WorkLog.ofScope, List.countP_cons]
    simp
  · have hcreated : creation.count (.closed session) = 0 := by
      rcases hcreation with rfl | ⟨rfl, -⟩ <;> simp
    have hused : [ScopeEvent.used record.session].count (.closed session) = 0 := by simp
    rw [hcount, hclosing, Scopes.count_closed_closing, hcreated, hused, h.closed,
      WorkLog.ofScope, List.countP_cons]
    simp
  · have hbody := h.moments session
    simp only [WorkLog.ofScope, List.flatten_cons, List.cons_append, List.count_cons,
      List.countP_cons, beq_iff_eq, Option.some.injEq, decide_eq_true_eq] at hbody ⊢
    rw [hbody]

/-- Where no scope is, nothing happens to a session. -/
theorem of_removed {events : List ScopeEvent} {moments : List (Option Nat)}
    (hevents : ∀ event ∈ events, event = .removed) (hmoments : ∀ moment ∈ moments, moment = none) :
    WorkLog.Accounts { events, moments } := by
  have hcount : ∀ event, event ≠ .removed → events.count event = 0 := fun event hevent =>
    List.count_eq_zero.2 fun hmem => hevent (hevents event hmem)
  have hnone : ∀ session, moments.count (some session) = 0 := fun session =>
    List.count_eq_zero.2 fun hmem => by cases hmoments _ hmem
  constructor <;> simp [hcount, hnone]

/-- The clean-up after a request is no event of a session. -/
theorem ofRequest {cleaning : List ScopeEvent} (h : log.Accounts)
    (hcleaning : ∀ event ∈ cleaning, event = .removed) : (log.ofRequest cleaning).Accounts := by
  have hwhole := h.append (of_removed hcleaning (List.forall_mem_nil _))
  have hrecords : (log.append { events := cleaning }).records = log.records := List.append_nil _
  obtain ⟨htogether, hopening, hclosing, hcreated, hused, hrolledBack, hclosed, -⟩ := hwhole
  rw [hrecords] at htogether hopening hclosing hcreated hused hrolledBack hclosed
  exact ⟨htogether, hopening, hclosing, hcreated, hused, hrolledBack, hclosed, h.moments⟩

end WorkLog.Accounts

theorem Scopes.beginShared_events (scopes : Scopes) :
    scopes.beginShared.1.events = [.created scopes.beginShared.1.session] ∨
      scopes.beginShared.1.events = [] := by
  unfold beginShared
  split
  · exact .inr rfl
  · exact .inr rfl
  · exact .inl rfl

theorem Work.accounts (work : Work) (inRequest : Bool) (scopes : Scopes) :
    (work.run inRequest scopes).log.Accounts := by
  induction work generalizing inRequest scopes with
  | rest => exact .of_removed (by simp) (by simp)
  | fail failure => exact .of_removed (by simp) (by simp)
  | cleanUp => exact .of_removed (by simp) (by simp)
  | scope inTransaction body ih =>
    refine .ofScope (ih inRequest _) rfl rfl ?_ rfl
    cases inRequest with
    | true => exact scopes.beginShared_events.imp_right fun h => ⟨h, rfl⟩
    | false => exact .inl rfl
  | request cleansUp body ih =>
    cases cleansUp with
    | true => exact (ih true _).ofRequest (by simp)
    | false => exact (ih true _).ofRequest (by simp)
  | attempt body ih => exact ih inRequest scopes
  | both first next ih ih' =>
    simp only [run]
    split
    · exact ih inRequest scopes
    · exact (ih inRequest scopes).append (ih' inRequest _)

end ListingFilter.Database
