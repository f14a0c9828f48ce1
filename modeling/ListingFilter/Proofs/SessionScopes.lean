import Mathlib.Data.List.Chain
import ListingFilter.Proofs.ScopeLogs
/-!
# Sessions are cleaned up

Whatever is done in scopes and requests, in whatever order and with whatever failures, a scope
outside a request has a session of its own that is closed once, after the body; the scopes of a
request share a session between two clean-ups and none of them closes it; a scope rolls back if its
body fails in a transaction, before anything is closed; and the failure reaches the caller.

The run lemma is an induction on the work. A session that is made outside a request is neither that
of the request nor that of the provider, so no later scope is given it, and this is preserved by
everything that is done.
-/

namespace ListingFilter.Database

variable {scopes scopes' : Scopes} {session : Nat} {inRequest : Bool}

/-! ### Sessions apart from the others -/

namespace Scopes

/-- The session may be given to a scope that begins in a request. -/
def Knows (scopes : Scopes) (session : Nat) : Prop :=
  scopes.requestSession = some session ∨ scopes.provided = some session

/-- The sessions of the request and of the provider were made. -/
def IsValid (scopes : Scopes) : Prop := ∀ session, scopes.Knows session → session ≤ scopes.made

/-- The session was made and is given to no scope any more. -/
def IsForeign (scopes : Scopes) (session : Nat) : Prop :=
  session ≤ scopes.made ∧ ¬ scopes.Knows session

/-- A step forgets sessions or makes new ones. -/
structure LeadsTo (scopes scopes' : Scopes) : Prop where
  made_le : scopes.made ≤ scopes'.made
  valid : scopes'.IsValid
  foreign : ∀ session, scopes.IsForeign session → scopes'.IsForeign session

theorem LeadsTo.trans {scopes'' : Scopes} (h : scopes.LeadsTo scopes')
    (h' : scopes'.LeadsTo scopes'') : scopes.LeadsTo scopes'' :=
  ⟨h.made_le.trans h'.made_le, h'.valid,
    fun session hs => h'.foreign session (h.foreign session hs)⟩

/-- Fewer sessions are known. -/
theorem leadsTo_of_knows (hvalid : scopes.IsValid) (hmade : scopes'.made = scopes.made)
    (hknows : ∀ session, scopes'.Knows session → scopes.Knows session) :
    scopes.LeadsTo scopes' := by
  refine ⟨hmade.ge, fun session hs => ?_, fun session hs => ?_⟩
  · rw [hmade]
    exact hvalid session (hknows session hs)
  · exact ⟨hmade ▸ hs.1, fun h => hs.2 (hknows session h)⟩

theorem LeadsTo.refl (hvalid : scopes.IsValid) : scopes.LeadsTo scopes :=
  leadsTo_of_knows hvalid rfl fun _ => id

/-- A request begins without a session. -/
theorem leadsTo_enter (hvalid : scopes.IsValid) :
    scopes.LeadsTo { scopes with requestSession := none } := by
  refine leadsTo_of_knows hvalid rfl fun session hs => ?_
  rcases hs with hs | hs
  · cases hs
  · exact .inr hs

theorem leadsTo_cleanUp (hvalid : scopes.IsValid) : scopes.LeadsTo scopes.cleanUp.2 := by
  refine leadsTo_of_knows hvalid rfl fun session hs => ?_
  rcases hs with hs | hs <;> cases hs

/-- An own session is new, and known to the scope only. -/
theorem beginOwn_spec (hvalid : scopes.IsValid) :
    scopes.LeadsTo scopes.beginOwn.2 ∧ scopes.made < scopes.beginOwn.1.session ∧
      scopes.beginOwn.2.IsForeign scopes.beginOwn.1.session := by
  refine ⟨⟨Nat.le_succ _, fun session hs => Nat.le_succ_of_le (hvalid session hs), ?_⟩,
    Nat.lt_succ_self _, le_rfl, fun hs => ?_⟩
  · exact fun session hs => ⟨Nat.le_succ_of_le hs.1, hs.2⟩
  · exact absurd (hvalid _ hs) (Nat.not_succ_le_self _)

/-- A shared session is the one that the request has afterwards, and before if it had one. -/
theorem beginShared_spec (hvalid : scopes.IsValid) :
    scopes.LeadsTo scopes.beginShared.2 ∧
      scopes.beginShared.2.requestSession = some scopes.beginShared.1.session ∧
      (∀ session, scopes.IsForeign session → scopes.beginShared.1.session ≠ session) ∧
      ∀ session ∈ scopes.requestSession, session = scopes.beginShared.1.session := by
  obtain ⟨made, requestSession, provided⟩ := scopes
  cases requestSession with
  | some current =>
    refine ⟨.refl hvalid, rfl, ?_, fun session hs => (Option.some.inj hs).symm⟩
    rintro session hs rfl
    exact hs.2 (.inl rfl)
  | none =>
    cases provided with
    | some current =>
      refine ⟨leadsTo_of_knows hvalid rfl fun session hs => ?_, rfl, ?_, by simp⟩
      · rcases hs with hs | hs
        · exact .inr hs
        · exact .inr hs
      · rintro session hs rfl
        exact hs.2 (.inr rfl)
    | none =>
      have hknows : ∀ session, Knows ⟨made + 1, some (made + 1), some (made + 1)⟩ session →
          session = made + 1 := by
        rintro session (hs | hs) <;> exact (Option.some.inj hs).symm
      refine ⟨⟨Nat.le_succ _, fun session hs => (hknows session hs).le, fun session hs => ?_⟩, rfl,
        fun session hs => ?_, by simp⟩
      · exact ⟨Nat.le_succ_of_le hs.1,
          fun h => absurd (hknows session h ▸ hs.1) (Nat.not_succ_le_self _)⟩
      · exact (Nat.lt_succ_of_le hs.1).ne'

end Scopes

/-- What some work does to the sessions made before it, and the scopes of the work that are outside
a request. -/
structure KeepsApart (inRequest : Bool) (scopes : Scopes) (outcome : WorkOutcome) : Prop where
  leadsTo : scopes.LeadsTo outcome.scopes
  avoids : ∀ session, scopes.IsForeign session →
    ∀ record ∈ outcome.log.records, record.session ≠ session
  session_le : ∀ record ∈ outcome.log.records, record.session ≤ outcome.scopes.made
  shared : inRequest = true → ∀ record ∈ outcome.log.records, record.inRequest = true
  own : ∀ record ∈ outcome.log.records, record.inRequest = false →
    scopes.made < record.session ∧ outcome.scopes.IsForeign record.session ∧
      outcome.log.records.countP (·.session = record.session) = 1

namespace KeepsApart

variable {outcome outcome' : WorkOutcome}

/-- Without a scope there is nothing to keep apart. -/
theorem of_records (h : scopes.LeadsTo outcome.scopes) (hnone : outcome.log.records = []) :
    KeepsApart inRequest scopes outcome :=
  ⟨h, by simp [hnone], by simp [hnone], by simp [hnone], by simp [hnone]⟩

/-- The failure of the work is of no importance to the sessions. -/
theorem of_eq (h : KeepsApart inRequest scopes outcome) (hscopes : outcome'.scopes = outcome.scopes)
    (hrecords : outcome'.log.records = outcome.log.records) :
    KeepsApart inRequest scopes outcome' := by
  obtain ⟨hleadsTo, havoids, hle, hshared, hown⟩ := h
  rw [← hscopes] at hleadsTo hle hown
  rw [← hrecords] at havoids hle hshared hown
  exact ⟨hleadsTo, havoids, hle, hshared, hown⟩

theorem countP_eq_zero {records : List ScopeRecord}
    (h : ∀ record ∈ records, record.session ≠ session) :
    records.countP (·.session = session) = 0 := by
  simpa [List.countP_eq_zero] using h

/-- The sessions of the first part are foreign to the second one, and those of the second part are
new. -/
theorem append (h : KeepsApart inRequest scopes outcome)
    (h' : KeepsApart inRequest outcome.scopes outcome') :
    KeepsApart inRequest scopes { outcome' with log := outcome.log.append outcome'.log } := by
  refine ⟨h.leadsTo.trans h'.leadsTo, fun session hs record hrecord => ?_,
    fun record hrecord => ?_, fun hin record hrecord => ?_, fun record hrecord hown => ?_⟩
  · rcases List.mem_append.1 hrecord with hrecord | hrecord
    · exact h.avoids session hs record hrecord
    · exact h'.avoids session (h.leadsTo.foreign session hs) record hrecord
  · rcases List.mem_append.1 hrecord with hrecord | hrecord
    · exact (h.session_le record hrecord).trans h'.leadsTo.made_le
    · exact h'.session_le record hrecord
  · rcases List.mem_append.1 hrecord with hrecord | hrecord
    · exact h.shared hin record hrecord
    · exact h'.shared hin record hrecord
  · simp only [WorkLog.append, List.countP_append]
    rcases List.mem_append.1 hrecord with hrecord | hrecord
    · obtain ⟨hnew, hforeign, hcount⟩ := h.own record hrecord hown
      have hnone := countP_eq_zero (h'.avoids _ hforeign)
      exact ⟨hnew, h'.leadsTo.foreign _ hforeign, by rw [hcount, hnone]⟩
    · obtain ⟨hnew, hforeign, hcount⟩ := h'.own record hrecord hown
      have hnone : outcome.log.records.countP (·.session = record.session) = 0 :=
        countP_eq_zero fun earlier hearlier =>
          ((h.session_le earlier hearlier).trans_lt hnew).ne
      exact ⟨h.leadsTo.made_le.trans_lt hnew, hforeign, by rw [hcount, hnone]⟩

/-- A scope inside a request. -/
theorem ofShared {record : ScopeRecord} (hvalid : scopes.IsValid)
    (h : KeepsApart true scopes.beginShared.2 outcome)
    (hsession : record.session = scopes.beginShared.1.session) (hin : record.inRequest = true) :
    KeepsApart true scopes { outcome with log := .ofScope record outcome.log } := by
  obtain ⟨hbegin, hrequest, hother, -⟩ := Scopes.beginShared_spec hvalid
  refine ⟨hbegin.trans h.leadsTo, fun session hs => ?_, ?_, fun _ => ?_, ?_⟩
  · exact List.forall_mem_cons.2
      ⟨hsession ▸ hother session hs, h.avoids session (hbegin.foreign session hs)⟩
  · refine List.forall_mem_cons.2 ⟨?_, h.session_le⟩
    rw [hsession]
    exact (hbegin.valid _ (.inl hrequest)).trans h.leadsTo.made_le
  · exact List.forall_mem_cons.2 ⟨hin, h.shared rfl⟩
  · intro inner hinner hown
    rcases List.mem_cons.1 hinner with rfl | hinner
    · simp [hin] at hown
    · simp [h.shared rfl inner hinner] at hown

/-- A scope outside a request. What its body does is done with other sessions. -/
theorem ofOwn {record : ScopeRecord} (hvalid : scopes.IsValid)
    (h : KeepsApart false scopes.beginOwn.2 outcome)
    (hsession : record.session = scopes.beginOwn.1.session) :
    KeepsApart false scopes { outcome with log := .ofScope record outcome.log } := by
  obtain ⟨hbegin, hnew, hforeign⟩ := Scopes.beginOwn_spec hvalid
  rw [← hsession] at hnew hforeign
  refine ⟨hbegin.trans h.leadsTo, fun session hs => ?_, ?_, by simp, ?_⟩
  · exact List.forall_mem_cons.2
      ⟨(hs.1.trans_lt hnew).ne', h.avoids session (hbegin.foreign session hs)⟩
  · exact List.forall_mem_cons.2 ⟨hforeign.1.trans h.leadsTo.made_le, h.session_le⟩
  · simp only [WorkLog.ofScope, List.countP_cons]
    refine List.forall_mem_cons.2 ⟨fun _ => ⟨hnew, h.leadsTo.foreign _ hforeign, ?_⟩,
      fun inner hinner hown => ?_⟩
    · simp [countP_eq_zero (h.avoids _ hforeign)]
    · obtain ⟨hlater, hforeign', hcount⟩ := h.own inner hinner hown
      have hother : record.session ≠ inner.session := (hforeign.1.trans_lt hlater).ne
      exact ⟨hbegin.made_le.trans_lt hlater, hforeign', by simp [hcount, hother]⟩

/-- A request, which remembers the session of the request around it. -/
theorem ofRequest {cleaning : List ScopeEvent} {ended : Scopes} (hvalid : scopes.IsValid)
    (h : KeepsApart true { scopes with requestSession := none } outcome)
    (hended : outcome.scopes.LeadsTo ended) (failure : Option String) :
    KeepsApart inRequest scopes ⟨failure, { ended with requestSession := scopes.requestSession },
      outcome.log.ofRequest cleaning⟩ := by
  have henter := Scopes.leadsTo_enter hvalid
  have hleads := (henter.trans h.leadsTo).trans hended
  refine ⟨⟨hleads.made_le, fun session hs => ?_, fun session hs => ?_⟩, fun session hs => ?_,
    fun record hrecord => ?_, fun _ => h.shared rfl, fun record hrecord hown => ?_⟩
  · rcases hs with hs | hs
    · exact (hvalid session (.inl hs)).trans hleads.made_le
    · exact hended.valid session (.inr hs)
  · obtain ⟨hmade, hunknown⟩ := hleads.foreign session hs
    refine ⟨hmade, fun hknown => ?_⟩
    rcases hknown with hknown | hknown
    · exact hs.2 (.inl hknown)
    · exact hunknown (.inr hknown)
  · exact h.avoids session (henter.foreign session hs)
  · exact (h.session_le record hrecord).trans hended.made_le
  · simp [h.shared rfl record hrecord] at hown

end KeepsApart

theorem Work.keepsApart (work : Work) (inRequest : Bool) (hvalid : scopes.IsValid) :
    KeepsApart inRequest scopes (work.run inRequest scopes) := by
  induction work generalizing inRequest scopes with
  | rest => exact .of_records (.refl hvalid) rfl
  | fail failure => exact .of_records (.refl hvalid) rfl
  | cleanUp => exact .of_records (Scopes.leadsTo_cleanUp hvalid) rfl
  | scope inTransaction body ih =>
    cases inRequest with
    | true => exact .ofShared hvalid (ih true (Scopes.beginShared_spec hvalid).1.valid) rfl rfl
    | false => exact .ofOwn hvalid (ih false (Scopes.beginOwn_spec hvalid).1.valid) rfl
  | request cleansUp body ih =>
    have hbody := ih true (Scopes.leadsTo_enter hvalid).valid
    cases cleansUp with
    | true => exact .ofRequest hvalid hbody (Scopes.leadsTo_cleanUp hbody.leadsTo.valid) _
    | false => exact .ofRequest hvalid hbody (.refl hbody.leadsTo.valid) _
  | attempt body ih => exact (ih inRequest hvalid).of_eq rfl rfl
  | both first next ih ih' =>
    have hfirst := ih inRequest hvalid
    simp only [run]
    split
    · exact hfirst
    · exact hfirst.append (ih' inRequest hfirst.leadsTo.valid)

/-! ### The sessions of a request -/

/-- Of two moments after one another one is a clean-up, or they have the same session. -/
def IsKept (first second : Option Nat) : Prop := first = none ∨ second = none ∨ first = second

/-- Between two clean-ups all scopes of a request have the same session. -/
def SharesSession (moments : List (Option Nat)) : Prop :=
  ∀ between first second, some first :: (between ++ [some second]) <:+: moments →
    none ∉ between → first = second

theorem eq_of_isChain {between : List (Option Nat)} {first second : Nat}
    (h : (some first :: (between ++ [some second])).IsChain IsKept) (hnone : none ∉ between) :
    first = second := by
  induction between generalizing first with
  | nil => simpa [IsKept] using h
  | cons moment between ih =>
    rw [List.mem_cons, not_or] at hnone
    obtain ⟨session, rfl⟩ := Option.ne_none_iff_exists'.1 (Ne.symm hnone.1)
    obtain ⟨hkept, hrest⟩ := List.isChain_cons_cons.1 h
    obtain rfl : first = session := by simpa [IsKept] using hkept
    exact ih hrest hnone.2

theorem sharesSession_of_isChain {moments : List (Option Nat)} (h : moments.IsChain IsKept) :
    SharesSession moments := by
  intro between first second hpart hnone
  have hchain := h.infix hpart
  exact eq_of_isChain hchain hnone

/-- What some work in a request does to the session of the request. -/
structure KeepsSession (scopes : Scopes) (outcome : WorkOutcome) : Prop where
  isChain : (scopes.requestSession :: outcome.log.moments).IsChain IsKept
  last : (scopes.requestSession :: outcome.log.moments).getLast? =
    some outcome.scopes.requestSession

namespace KeepsSession

variable {outcome outcome' : WorkOutcome}

theorem append (h : KeepsSession scopes outcome) (h' : KeepsSession outcome.scopes outcome') :
    KeepsSession scopes { outcome' with log := outcome.log.append outcome'.log } := by
  obtain ⟨hnext, hchain⟩ := List.isChain_cons.1 h'.isChain
  constructor
  · refine List.isChain_append.2 ⟨h.isChain, hchain, fun last hlast next hmem => ?_⟩
    rw [h.last] at hlast
    obtain rfl := Option.some.inj hlast
    exact hnext next hmem
  · have hlast := h'.last
    rw [List.getLast?_cons] at hlast
    rw [WorkLog.append, ← List.cons_append, List.getLast?_append, h.last, ← hlast]
    cases outcome'.log.moments.getLast? <;> rfl

theorem ofShared {record : ScopeRecord} (hvalid : scopes.IsValid)
    (h : KeepsSession scopes.beginShared.2 outcome)
    (hsession : record.session = scopes.beginShared.1.session) :
    KeepsSession scopes { outcome with log := .ofScope record outcome.log } := by
  obtain ⟨-, hrequest, -, hsame⟩ := Scopes.beginShared_spec hvalid
  obtain ⟨hchain, hlast⟩ := h
  rw [hrequest, ← hsession] at hchain hlast
  have hkept : IsKept scopes.requestSession (some record.session) := by
    cases hcurrent : scopes.requestSession with
    | none => exact .inl rfl
    | some session => exact .inr (.inr (by rw [hsame session hcurrent, hsession]))
  refine ⟨List.isChain_cons_cons.2 ⟨hkept, hchain⟩, ?_⟩
  rw [WorkLog.ofScope, List.getLast?_cons_cons, hlast]

end KeepsSession

theorem Work.keepsSession (work : Work) (hvalid : scopes.IsValid) :
    KeepsSession scopes (work.run true scopes) := by
  induction work generalizing scopes with
  | rest => exact ⟨.singleton _, rfl⟩
  | fail failure => exact ⟨.singleton _, rfl⟩
  | cleanUp => exact ⟨List.isChain_cons_cons.2 ⟨.inr (.inl rfl), .singleton _⟩, rfl⟩
  | scope inTransaction body ih =>
    exact .ofShared hvalid (ih (Scopes.beginShared_spec hvalid).1.valid) rfl
  | request cleansUp body => exact ⟨.singleton _, rfl⟩
  | attempt body ih => exact ⟨(ih hvalid).isChain, (ih hvalid).last⟩
  | both first next ih ih' =>
    simp only [run]
    split
    · exact ih hvalid
    · exact (ih hvalid).append (ih' (first.keepsApart true hvalid).leadsTo.valid)

/-- The work around a request has no part in the moments of the request. -/
theorem Work.sharesSession (work : Work) (inRequest : Bool) (hvalid : scopes.IsValid) :
    ∀ moments ∈ (work.run inRequest scopes).log.requests, SharesSession moments := by
  induction work generalizing inRequest scopes with
  | rest => simp [run]
  | fail failure => simp [run]
  | cleanUp => simp [run]
  | scope inTransaction body ih =>
    cases inRequest with
    | true => exact ih true (Scopes.beginShared_spec hvalid).1.valid
    | false => exact ih false (Scopes.beginOwn_spec hvalid).1.valid
  | request cleansUp body ih =>
    have hentered := (Scopes.leadsTo_enter hvalid).valid
    refine List.forall_mem_cons.2 ⟨sharesSession_of_isChain ?_, ih true hentered⟩
    exact (body.keepsSession hentered).isChain.tail
  | attempt body ih => exact ih inRequest hvalid
  | both first next ih ih' =>
    simp only [run]
    split
    · exact ih inRequest hvalid
    · intro moments hmoments
      rcases List.mem_append.1 hmoments with hmoments | hmoments
      · exact ih inRequest hvalid moments hmoments
      · exact ih' inRequest (first.keepsApart inRequest hvalid).leadsTo.valid moments hmoments

/-! ### Everything that a program does -/

theorem eq_of_countP_eq_one {records : List ScopeRecord} {p : ScopeRecord → Bool}
    {first second : ScopeRecord} (h : records.countP p = 1) (hfirst : first ∈ records)
    (hsecond : second ∈ records) (hp : p first = true) (hp' : p second = true) :
    first = second := by
  rw [List.countP_eq_length_filter] at h
  obtain ⟨only, honly⟩ := List.length_eq_one_iff.1 h
  have hmem := honly ▸ List.mem_filter.2 ⟨hfirst, hp⟩
  have hmem' := honly ▸ List.mem_filter.2 ⟨hsecond, hp'⟩
  exact (List.mem_singleton.1 hmem).trans (List.mem_singleton.1 hmem').symm

namespace KeepsApart

variable {outcome : WorkOutcome} {record : ScopeRecord}

/-- The session of a scope outside a request is made, used and closed once. -/
theorem count_of_own (h : KeepsApart inRequest scopes outcome) (haccounts : outcome.log.Accounts)
    (hrecord : record ∈ outcome.log.records) (hown : record.inRequest = false) :
    outcome.log.events.count (.created record.session) = 1 ∧
      outcome.log.events.count (.used record.session) = 1 ∧
      outcome.log.events.count (.closed record.session) = 1 := by
  obtain ⟨-, -, hcount⟩ := h.own record hrecord hown
  have hcreated : .created record.session ∈ outcome.log.events := by
    refine (haccounts.together record hrecord).subset ?_
    simp [ScopeRecord.events, haccounts.opening record hrecord hown]
  have hclosed : 0 < outcome.log.events.count (.closed record.session) := by
    rw [haccounts.closed, List.countP_pos_iff]
    exact ⟨record, hrecord, by simp [hown]⟩
  have honce : outcome.log.events.count (.closed record.session) ≤ 1 := by
    rw [haccounts.closed, ← hcount]
    exact List.countP_mono_left fun other _ hother => by simp_all
  refine ⟨le_antisymm ?_ (List.count_pos_iff.2 hcreated), ?_, le_antisymm honce hclosed⟩
  · exact (haccounts.created _).trans_eq hcount
  · exact (haccounts.used _).trans hcount

/-- The session of a scope inside a request is no session of a scope that closes one. -/
theorem count_closed_of_shared (h : KeepsApart inRequest scopes outcome)
    (haccounts : outcome.log.Accounts) (hrecord : record ∈ outcome.log.records)
    (hin : record.inRequest = true) : outcome.log.events.count (.closed record.session) = 0 := by
  rw [haccounts.closed, List.countP_eq_zero]
  intro other hother hboth
  simp only [decide_eq_true_eq] at hboth
  obtain ⟨-, -, hcount⟩ := h.own other hother hboth.2
  have hsame : record = other :=
    eq_of_countP_eq_one hcount hrecord hother (by simp [hboth.1]) (by simp)
  rw [hsame, hboth.2] at hin
  cases hin

end KeepsApart

/-- Whatever a program does with scopes and requests: the failure is that of its own parts, and its
scopes are those of the log; a scope outside a request has a session that no other scope has, which
is made for it and closed once, after the body; a scope inside a request closes no session, and
nobody closes the session that it has; a scope rolls back exactly if its body fails in a
transaction, before it closes anything; and between two clean-ups all scopes of a request have the
same session. -/
theorem Work.run_cleansUp (work : Work) :
    let outcome := work.run false {}
    let log := outcome.log
    outcome.failure = work.failure ∧ log.plan = work.plan false ∧
      (∀ record ∈ log.records, record.events <:+: log.events ∧
        record.closing = (if record.bodyFailure.isSome && record.inTransaction then
            [.rolledBack record.session] else []) ++
          (if record.inRequest then [] else [.closed record.session])) ∧
      (∀ record ∈ log.records, record.inRequest = false →
        record.opening = [.created record.session, .used record.session] ∧
          log.events.count (.created record.session) = 1 ∧
          log.events.count (.used record.session) = 1 ∧
          log.events.count (.closed record.session) = 1) ∧
      (∀ record ∈ log.records, record.inRequest = true →
        log.events.count (.closed record.session) = 0) ∧
      (∀ session, log.events.count (.rolledBack session) = log.records.countP fun record =>
        record.session = session ∧ record.bodyFailure.isSome ∧ record.inTransaction) ∧
      (∀ session, (log.moments :: log.requests).flatten.count (some session) =
        log.records.countP (·.session = session)) ∧
      ∀ moments ∈ log.requests, SharesSession moments := by
  intro outcome log
  have hvalid : Scopes.IsValid {} := by
    rintro session (hs | hs) <;> cases hs
  have hapart := work.keepsApart false hvalid
  have haccounts := work.accounts false {}
  exact ⟨work.failure_run false {}, work.plan_run false {},
    fun record hrecord => ⟨haccounts.together record hrecord, haccounts.closing record hrecord⟩,
    fun record hrecord hown =>
      ⟨haccounts.opening record hrecord hown, hapart.count_of_own haccounts hrecord hown⟩,
    fun record hrecord hin => hapart.count_closed_of_shared haccounts hrecord hin,
    haccounts.rolledBack, haccounts.moments, work.sharesSession false hvalid⟩

-- the failure of the inner scope ends the outer one, and each of them closes its own session
example : ((Work.scope true (.scope true (.fail "failed"))).run false {}).log.events =
    [.created 1, .used 1, .created 2, .used 2, .rolledBack 2, .closed 2, .rolledBack 1,
      .closed 1] := rfl

end ListingFilter.Database
