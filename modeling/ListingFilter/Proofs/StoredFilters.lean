import ListingFilter.Proofs.RequestCourse
/-!
# Stored filters

A request that names a stored filter is answered as one that has the term of the filter in its
place: after the statement that looks the term up come the same statements, with the same results.
The service looks the term up before it checks its columns, and then asks for the rows with the term
in place, so it executes no other statements, unless the check refuses the term.
-/

namespace ListingFilter.Http

/-! ### From the term on -/

section Fetching

variable {site : Site} {resource : ResourceRef} {request : ListingRequest} {access : Access}
  {session : Session} {term : Json} {question : Question}

/-- The query of a request whose term is there. -/
def Question.query (site : Site) (resource : ResourceRef) (request : ListingRequest)
    (access : Access) (term : Json) : Question → Except Fault Query
  | .page => site.listing resource request access (some term)
  | .total => site.counting resource request access (some term)

/-- One page of a resource type, once the term is there. -/
def fetchRows (site : Site) (resource : ResourceRef) (request : ListingRequest) (access : Access)
    (term : Json) : SessionM (List Json × Clause) := do
  let query ← SessionM.ofExcept (Question.query site resource request access term .page)
  let (rows, _) ← Session.execute query.statement
  return (rows, query.clause)

/-- The number of rows of a resource type, once the term is there. -/
def fetchCount (site : Site) (resource : ResourceRef) (request : ListingRequest) (access : Access)
    (term : Json) : SessionM Int := do
  let query ← SessionM.ofExcept (Question.query site resource request access term .total)
  let (_, scalar) ← Session.execute query.statement
  SessionM.ofExcept (countOf scalar)

theorem getRows_eq_bind (site : Site) (resource : ResourceRef) (request : ListingRequest)
    (access : Access) : site.getRows resource request access =
      request.resolveTerm true >>= fetchRows site resource request access := rfl

theorem countRows_eq_bind (site : Site) (resource : ResourceRef) (request : ListingRequest)
    (access : Access) : site.countRows resource request access =
      request.resolveTerm true >>= fetchCount site resource request access := rfl

theorem isUnaware_fetchRows (site : Site) (resource : ResourceRef) (request : ListingRequest)
    (access : Access) (term : Json) :
    (fetchRows site resource request access term).IsUnaware := by
  refine (SessionM.isUnaware_ofExcept _).bind fun query => ?_
  exact (SessionM.isUnaware_execute _).bind fun answer => SessionM.isUnaware_ofExcept (.ok _)

theorem isUnaware_fetchCount (site : Site) (resource : ResourceRef) (request : ListingRequest)
    (access : Access) (term : Json) :
    (fetchCount site resource request access term).IsUnaware := by
  refine (SessionM.isUnaware_ofExcept _).bind fun query => ?_
  exact (SessionM.isUnaware_execute _).bind fun answer => SessionM.isUnaware_ofExcept _

/-- The query of a request with the term in its place is the one of the request. -/
theorem query_inlined (site : Site) (resource : ResourceRef) (request : ListingRequest)
    (access : Access) (term : Json) (question : Question) :
    question.query site resource (inlined request term) access (inlined request term).inlineTerm =
      question.query site resource request access term := by
  cases question with
  | page =>
    rw [Question.query, Question.query, Site.listing, Site.listing]
    cases site.typeOf resource with
    | error fault => rfl
    | ok type =>
      simp only [clauseOf_inlined]
      rfl
  | total =>
    rw [Question.query, Question.query, Site.counting, Site.counting]
    cases site.typeOf resource with
    | error fault => rfl
    | ok type =>
      simp only [clauseOf_inlined]
      rfl

theorem getRows_inlined : site.getRows resource (inlined request term) access session =
    fetchRows site resource request access term session := by
  rw [getRows_eq_bind, SessionM.bind_of_ok (resolveTerm_inlined request term session), fetchRows,
    query_inlined, fetchRows]

theorem countRows_inlined : site.countRows resource (inlined request term) access session =
    fetchCount site resource request access term session := by
  rw [countRows_eq_bind, SessionM.bind_of_ok (resolveTerm_inlined request term session),
    fetchCount, query_inlined, fetchCount]

end Fetching

/-! ### The statement that looks the term up -/

/-- A run after the statement that looks up the stored filter `id`. -/
def afterLookup {α : Type} (id : String) (run : Except Fault α × List Statement) :
    Except Fault α × List Statement :=
  (run.1, storedTermStatement (.text id) :: run.2)

section Lookup

variable {request : ListingRequest} {id : String} {rows : List Json} {term : Json}
  {rest : List Outcome}

theorem storedFilter?_text (hid : request.storedFilter = .text id) (hgiven : id ≠ "")
    (hzero : id ≠ "0") : request.storedFilter? = some (.text id) := by
  simp [ListingRequest.storedFilter?, hid, hgiven, hzero]

/-- Once the term is found, the rest of the run is that of the term. -/
theorem runOn_resolveTerm {α : Type} {fetch : Json → SessionM α}
    (hunaware : ∀ term, (fetch term).IsUnaware)
    (hstored : request.storedFilter? = some (.text id)) (hfound : term ≠ .null) :
    (request.resolveTerm true >>= fetch).runOn (.answered rows term :: rest) =
      afterLookup id ((fetch term).runOn rest) := by
  have hresolve := @resolveTerm_of_found request ⟨.answered rows term :: rest, []⟩ term rows
    (.text id) hstored rfl hfound
  rw [SessionM.runOn, SessionM.bind_of_ok hresolve]
  exact (hunaware term).runOn_eq rest [storedTermStatement (.text id)]

end Lookup

/-! ### The service -/

section Service

variable {site : Site} {type : ResourceType} {request : ListingRequest} {term : Json}
  {question : Question} {session session' : Session} {fault : Fault}

/-- A check of columns that fails without refusing any column fails because of the term, and the
term cannot be compiled either. -/
theorem exists_fault_of_checkColumns (hcheck : checkColumns site type term request.trash =
      .error fault) (hfault : ∀ unknown, fault ≠ .invalidFilterColumns unknown) :
    ∃ fault', site.clauseOf type request (some term) = .error fault' := by
  cases hclause : site.clauseOf type request (some term) with
  | error fault' => exact ⟨fault', rfl⟩
  | ok clause =>
    obtain ⟨read, hread⟩ := exists_ofJson hclause
    obtain ⟨unknown, hunknown⟩ := exists_refusedColumns hread hclause
    rw [checkColumns_eq hread hunknown] at hcheck
    split_ifs at hcheck
    exact absurd (Except.error.inj hcheck).symm (hfault unknown)

/-- The session after the run of a question from the term on. -/
def Question.sessionAfter (site : Site) (resource : ResourceRef) (request : ListingRequest)
    (term : Json) (session : Session) : Question → Session
  | .page => (fetchRows site resource request {} term session).2
  | .total => (fetchCount site resource request {} term session).2

/-- What is answered after the statement on the data needs no statement. -/
theorem session_fetch : (question.fetch site type request term session).2 =
    question.sessionAfter site (.given type) request term session := by
  cases question with
  | page =>
    rw [Question.sessionAfter, ← getRows_inlined, Question.fetch]
    refine SessionM.bind_session fun answer session' => ?_
    refine (SessionM.bind_session fun _ _ => rfl).trans ?_
    rw [SessionM.ofExcept_eq]
  | total =>
    rw [Question.sessionAfter, ← countRows_inlined, Question.fetch]
    exact SessionM.bind_session fun _ _ => rfl

theorem sessionAfter_of_fault
    (hclause : site.clauseOf type request (some term) = .error fault) :
    question.sessionAfter site (.given type) request term session = session := by
  cases question with
  | page =>
    have hquery : Question.query site (.given type) request {} term .page = .error fault := by
      simp only [Question.query, Site.listing, Site.typeOf, hclause]
      rfl
    rw [Question.sessionAfter, fetchRows, hquery,
      SessionM.bind_of_error (SessionM.ofExcept_eq _ _)]
  | total =>
    have hquery : Question.query site (.given type) request {} term .total = .error fault := by
      simp only [Question.query, Site.counting, Site.typeOf, hclause]
      rfl
    rw [Question.sessionAfter, fetchCount, hquery,
      SessionM.bind_of_error (SessionM.ofExcept_eq _ _)]

/-- The service leaves the session as a run from the term on does, unless it refuses the term. -/
theorem session_ask (hresolve : request.resolveTerm true session = (.ok term, session'))
    (hrefused : ∀ unknown, checkColumns site type term request.trash ≠
      .error (.invalidFilterColumns unknown)) :
    (question.ask site type request session).2 =
      question.sessionAfter site (.given type) request term session' := by
  rw [question.ask_eq]
  cases hcheck : checkColumns site type term request.trash with
  | ok checked =>
    have hchecked : checkedTerm site type request session = (.ok term, session') := by
      rw [checkedTerm, SessionM.bind_of_ok hresolve, hcheck]
      rfl
    rw [SessionM.bind_of_ok hchecked, session_fetch]
  | error fault =>
    have hchecked : checkedTerm site type request session = (.error fault, session') := by
      rw [checkedTerm, SessionM.bind_of_ok hresolve, hcheck]
      rfl
    obtain ⟨fault', hclause⟩ := exists_fault_of_checkColumns hcheck fun unknown hfault =>
      hrefused unknown (by rw [hcheck, hfault])
    rw [SessionM.bind_of_error hchecked, sessionAfter_of_fault hclause]

/-- A resource type that is found is as good as one that is given. -/
theorem sessionAfter_given {resource : ResourceRef} (htype : site.typeOf resource = .ok type) :
    question.sessionAfter site resource request term session =
      question.sessionAfter site (.given type) request term session := by
  have hgiven : site.typeOf (.given type) = .ok type := rfl
  have hquery : ∀ question : Question, question.query site resource request {} term =
      question.query site (.given type) request {} term := by
    intro question
    cases question <;> simp only [Question.query, Site.listing, Site.counting, htype, hgiven]
  cases question <;> simp only [Question.sessionAfter, fetchRows, fetchCount, hquery]

end Service

/-! ### Stored and inline terms -/

/-- The statements that a question about a resource type executes. -/
def Question.statementsOn (site : Site) (resource : ResourceRef) (request : ListingRequest)
    (outcomes : List Outcome) : Question → List Statement
  | .page => ((site.getRows resource request {}).runOn outcomes).2
  | .total => ((site.countRows resource request {}).runOn outcomes).2

section Stored

variable {site : Site} {request : ListingRequest} {id : String} {rows : List Json} {term : Json}
  {rest : List Outcome}

theorem sessionAfter_lookup (question : Question) (resource : ResourceRef) :
    (question.sessionAfter site resource request term
        ⟨rest, [storedTermStatement (.text id)]⟩).executed =
      storedTermStatement (.text id) ::
        question.statementsOn site resource (inlined request term) rest := by
  cases question with
  | page =>
    have hrun := (isUnaware_fetchRows site resource request {} term).runOn_eq rest
      [storedTermStatement (.text id)]
    rw [Question.statementsOn, SessionM.runOn, getRows_inlined]
    exact congrArg Prod.snd hrun
  | total =>
    have hrun := (isUnaware_fetchCount site resource request {} term).runOn_eq rest
      [storedTermStatement (.text id)]
    rw [Question.statementsOn, SessionM.runOn, countRows_inlined]
    exact congrArg Prod.snd hrun

/-- A request that names a stored filter looks up its term, and from then on it is the request that
has the term in its place: it executes the same statements, and returns or fails with the same. The
service executes these statements too, unless it refuses columns of the term. -/
theorem runOn_stored (hid : request.storedFilter = .text id) (hgiven : id ≠ "") (hzero : id ≠ "0")
    (hfound : term ≠ .null) :
    (∀ resource access,
      (site.getRows resource request access).runOn (.answered rows term :: rest) =
          afterLookup id ((site.getRows resource (inlined request term) access).runOn rest) ∧
        (site.countRows resource request access).runOn (.answered rows term :: rest) =
          afterLookup id ((site.countRows resource (inlined request term) access).runOn rest)) ∧
    ∀ (call : Request) (question : Question) (name : String) (healthy : Bool)
        (resource : ResourceRef) (type : ResourceType),
      call.method = "GET" → name ≠ "" → '/' ∉ name.toList → call.path = question.path name →
      call.listing = .ok request → site.registry.find (some name) = .ok type →
      site.typeOf resource = .ok type →
      (∀ unknown, checkColumns site type term request.trash ≠
        .error (.invalidFilterColumns unknown)) →
      (respond site healthy call ⟨.answered rows term :: rest, []⟩).2.executed =
        storedTermStatement (.text id) ::
          question.statementsOn site resource (inlined request term) rest := by
  have hstored := storedFilter?_text hid hgiven hzero
  refine ⟨fun resource access => ⟨?_, ?_⟩, ?_⟩
  · rw [getRows_eq_bind, runOn_resolveTerm (isUnaware_fetchRows _ _ _ _) hstored hfound,
      SessionM.runOn, SessionM.runOn, getRows_inlined]
  · rw [countRows_eq_bind, runOn_resolveTerm (isUnaware_fetchCount _ _ _ _) hstored hfound,
      SessionM.runOn, SessionM.runOn, countRows_inlined]
  · intro call question name healthy resource type hmethod hname hslash hpath hlisting hfind htype
      hrefused
    have hresolve := @resolveTerm_of_found request ⟨.answered rows term :: rest, []⟩ term rows
      (.text id) hstored rfl hfound
    have hask := @session_ask site type request term question _ _ hresolve hrefused
    have hrun : withType site call name (fun type listing => question.ask site type listing)
        ⟨.answered rows term :: rest, []⟩ =
          question.ask site type request ⟨.answered rows term :: rest, []⟩ := by
      rw [withType, hfind, SessionM.bind_of_ok (SessionM.ofExcept_eq _ _), hlisting,
        SessionM.bind_of_ok (SessionM.ofExcept_eq _ _)]
    cases hanswer : question.ask site type request ⟨.answered rows term :: rest, []⟩ with
    | mk result session' =>
      rw [hanswer] at hask hrun
      rw [respond_eq hmethod hname hslash hpath hrun, hask, ← sessionAfter_given htype]
      exact sessionAfter_lookup question resource

end Stored

/-- Under strict settings, an empty stored term in place of a filter that would be refused, and a
stored term whose statement on the data fails. -/
theorem runOn_stored_strict :
    let site : Site := { settings := { strictColumns := true } }
    let call : Request :=
      ⟨"GET", "/api/resources/task/count", [("filter", "bogus=1"), ("filt_id", "f-1")], .empty⟩
    let request : ListingRequest := { filter := .text "bogus=1", storedFilter := .text "f-1" }
    let access : Access :=
      { condition := "tasks.tenant = :tenant", params := [("tenant", .integer 3)] }
    (site.getRows (.named "task") request access).runOn
        [.answered [] (.text "name=stored rows=3"), .failed] =
      afterLookup "f-1" ((site.getRows (.named "task")
        (inlined request (.text "name=stored rows=3")) access).runOn [.failed]) ∧
    (respond site true call ⟨[.answered [] (.text ""), .answered [] (.integer 7)], []⟩).2.executed =
      storedTermStatement (.text "f-1") :: Question.total.statementsOn site (.named "task")
        (inlined request (.text "")) [.answered [] (.integer 7)] := by
  intro site call request access
  have hfind : site.registry.find (some "task") = .ok ResourceType.taskType :=
    eq_ok_of_toOption (by decide +kernel)
  have hcheck : checkColumns site ResourceType.taskType (.text "") false = .ok () :=
    eq_ok_of_toOption (by decide +kernel)
  have hstored := @runOn_stored site request "f-1" []
  refine ⟨((hstored rfl (by decide) (by decide) (by simp)).1 _ access).1, ?_⟩
  refine (hstored rfl (by decide) (by decide) (by simp)).2 call .total "task" true (.named "task")
    ResourceType.taskType rfl (by decide) (by decide) (by decide +kernel) rfl hfind hfind ?_
  intro unknown hrefused
  rw [hcheck] at hrefused
  cases hrefused

end ListingFilter.Http
