import ListingFilter.Proofs.EndpointRuns
/-!
# The course of a request

A request for the rows of a resource type, or for their number, takes one of a few courses. First
the resource type is found, then the term, for which at most one statement is executed, then the
columns of the term are checked, and then the one statement of the listing or the count is executed.
-/

namespace ListingFilter.Http

/-! ### What a request says -/

/-- The parameters of the request are texts, if they are given. -/
def Request.IsTextual (request : Request) : Prop :=
  ∀ name, request.value name = .null ∨ ∃ text, request.value name = .text text

/-- The stored filter that a request names. -/
def Request.storedId? (request : Request) : Option String :=
  match request.value "filt_id" with
  | .text id => if id = "" || id = "0" then none else some id
  | _ => none

/-- The term of a request that names no stored filter. -/
def Request.ownTerm (request : Request) : String :=
  match request.value "filter" with
  | .text term => term
  | _ => ""

section Requests

variable {request : Request}

theorem exists_flag (h : request.IsTextual) (name : String) :
    ∃ value, request.flag name = .ok value := by
  rcases h name with hvalue | ⟨text, hvalue⟩
  · exact ⟨false, by rw [Request.flag, hvalue]; rfl⟩
  · exact ⟨_, by rw [Request.flag, hvalue]; rfl⟩

theorem exists_listing (h : request.IsTextual) :
    ∃ listing, request.listing = .ok listing ∧ listing.filter = request.value "filter" ∧
      listing.storedFilter = request.value "filt_id" := by
  obtain ⟨trash, htrash⟩ := exists_flag h "trash"
  obtain ⟨ignoreCap, hcap⟩ := exists_flag h "ignore_max_rows_per_page"
  obtain ⟨ignorePagination, hpagination⟩ := exists_flag h "ignore_pagination"
  rw [Request.listing, htrash, hcap, hpagination]
  exact ⟨_, rfl, rfl, rfl⟩

variable {listing : ListingRequest}

theorem storedFilter?_eq (h : request.IsTextual)
    (hstored : listing.storedFilter = request.value "filt_id") :
    listing.storedFilter? = request.storedId?.map .text := by
  rw [ListingRequest.storedFilter?, Request.storedId?, hstored]
  rcases h "filt_id" with hvalue | ⟨text, hvalue⟩
  · rw [hvalue]
    rfl
  · rw [hvalue]
    simp only
    split_ifs <;> rfl

theorem inlineTerm_eq (h : request.IsTextual)
    (hfilter : listing.filter = request.value "filter") :
    listing.inlineTerm = .text request.ownTerm := by
  rw [ListingRequest.inlineTerm, Request.ownTerm, hfilter]
  rcases h "filter" with hvalue | ⟨text, hvalue⟩
  · rw [hvalue]
    rfl
  · rw [hvalue]
    by_cases htext : text = ""
    · simp [htext]
    · simp [Json.isGiven, htext]

end Requests

/-! ### Terms and courses -/

/-- The term that a request applies, with the statements that look it up. -/
inductive Applies (request : Request) (outcomes : List Outcome) : List Statement → Json → Prop
  | own (h : request.storedId? = none) : Applies request outcomes [] (.text request.ownTerm)
  | stored {id : String} {rows : List Json} {term : Json} (hid : request.storedId? = some id)
      (hanswer : nextOutcome outcomes = .answered rows term) (hfound : term ≠ .null) :
      Applies request outcomes [storedTermStatement (.text id)] term

/-- The request gets as far as the statement on the data: its resource type and its term are found,
no column of the term is refused, and the term is compiled. -/
structure IsAdmitted (site : Site) (request : Request) (listing : ListingRequest) (name : String)
    (outcomes : List Outcome) (type : ResourceType) (lookup : List Statement) (term : Json)
    (read : Term) (clause : Clause) : Prop where
  found : site.registry.find (some name) = .ok type
  applied : Applies request outcomes lookup term
  isRead : Term.ofJson term = .ok read
  unrefused : refusedColumns site type listing.trash read = .ok []
  compiled : site.clauseOf type listing (some term) = .ok clause

/-- The statements that a request executes and its response, by what the database answers. -/
inductive Course (site : Site) (request : Request) (listing : ListingRequest) (name : String)
    (question : Question) (outcomes : List Outcome) : List Statement → Response → Prop
  | unknownType
      (hfind : site.registry.find (some name) = .error (.unknownResourceType (some name))) :
      Course site request listing name question outcomes []
        (.notFound request ("No column tables for resource type " ++ Text.quoted name))
  | lookupFailed {type : ResourceType} {id : String}
      (hfind : site.registry.find (some name) = .ok type) (hid : request.storedId? = some id)
      (hanswer : nextOutcome outcomes = .failed) :
      Course site request listing name question outcomes [storedTermStatement (.text id)]
        (.failure "database error")
  | filterMissing {type : ResourceType} {id : String} {rows : List Json}
      (hfind : site.registry.find (some name) = .ok type) (hid : request.storedId? = some id)
      (hanswer : nextOutcome outcomes = .answered rows .null) :
      Course site request listing name question outcomes [storedTermStatement (.text id)]
        (.notFound request ("Failed to find filter " ++ Text.quoted id))
  | refused {type : ResourceType} {lookup : List Statement} {term : Json} {read : Term}
      {unknown : List String} (hfind : site.registry.find (some name) = .ok type)
      (hterm : Applies request outcomes lookup term) (hread : Term.ofJson term = .ok read)
      (hunknown : refusedColumns site type listing.trash read = .ok unknown)
      (hsome : unknown ≠ []) :
      Course site request listing name question outcomes lookup
        (.badRequest request ("Invalid filter column: " ++ String.intercalate ", " unknown))
  | statementFailed {type : ResourceType} {lookup : List Statement} {term : Json} {read : Term}
      {clause : Clause}
      (hadmitted : IsAdmitted site request listing name outcomes type lookup term read clause)
      (hanswer : nextOutcome (outcomes.drop lookup.length) = .failed) :
      Course site request listing name question outcomes
        (lookup ++ [question.statement type listing clause]) (.failure "database error")
  | answered {type : ResourceType} {lookup : List Statement} {term : Json} {read : Term}
      {clause : Clause} {rows : List Json} {scalar : Json} {members : List (String × Json)}
      (hadmitted : IsAdmitted site request listing name outcomes type lookup term read clause)
      (hanswer : nextOutcome (outcomes.drop lookup.length) = .answered rows scalar)
      (hmembers : question.members site listing read clause rows scalar = .ok members)
      (hwritable : (Response.success members).body.shown?.isSome = true) :
      Course site request listing name question outcomes
        (lookup ++ [question.statement type listing clause]) (.success members)
  | unwritten {type : ResourceType} {lookup : List Statement} {term : Json} {read : Term}
      {clause : Clause} {rows : List Json} {scalar : Json}
      (hadmitted : IsAdmitted site request listing name outcomes type lookup term read clause)
      (hanswer : nextOutcome (outcomes.drop lookup.length) = .answered rows scalar)
      (hmembers : ∀ members, question.members site listing read clause rows scalar = .ok members →
        (Response.success members).body.shown?.isSome = false) :
      Course site request listing name question outcomes
        (lookup ++ [question.statement type listing clause]) .internalError

/-! ### Looking a term up -/

section Resolution

variable {request : Request} {listing : ListingRequest} {session : Session}
  {lookup : List Statement} {term : Json} {rows : List Json}

/-- The look-up fails, finds nothing, or there is a term that the request applies. -/
theorem resolution_cases (request : Request) (outcomes : List Outcome) :
    (∃ id, request.storedId? = some id ∧ nextOutcome outcomes = .failed) ∨
    (∃ id rows, request.storedId? = some id ∧ nextOutcome outcomes = .answered rows .null) ∨
    ∃ lookup term, Applies request outcomes lookup term := by
  cases hid : request.storedId? with
  | none => exact .inr (.inr ⟨_, _, .own hid⟩)
  | some id =>
    cases houtcome : nextOutcome outcomes with
    | failed => exact .inl ⟨id, rfl, rfl⟩
    | answered rows term =>
      by_cases hnull : term = .null
      · exact .inr (.inl ⟨id, rows, rfl, by rw [hnull]⟩)
      · exact .inr (.inr ⟨_, term, .stored hid houtcome hnull⟩)

theorem resolveTerm_stored {id : Json} (h : listing.storedFilter? = some id) :
    listing.resolveTerm true = Session.execute (storedTermStatement id) >>= fun answer =>
      match answer.2 with
      | .null => throw (.filterNotFound id)
      | term => pure term := by
  rw [ListingRequest.resolveTerm, h]
  rfl

theorem resolveTerm_of_failed {id : Json} (h : listing.storedFilter? = some id)
    (hanswer : nextOutcome session.outcomes = .failed) :
    listing.resolveTerm true session =
      (.error .statementFailed, session.after [storedTermStatement id]) := by
  rw [resolveTerm_stored h]
  exact SessionM.bind_of_error (Session.execute_of_failed hanswer)

theorem resolveTerm_of_null {id : Json} (h : listing.storedFilter? = some id)
    (hanswer : nextOutcome session.outcomes = .answered rows .null) :
    listing.resolveTerm true session =
      (.error (.filterNotFound id), session.after [storedTermStatement id]) := by
  rw [resolveTerm_stored h, SessionM.bind_of_ok (Session.execute_of_answered hanswer)]
  rfl

theorem resolveTerm_of_found {id : Json} (h : listing.storedFilter? = some id)
    (hanswer : nextOutcome session.outcomes = .answered rows term) (hfound : term ≠ .null) :
    listing.resolveTerm true session = (.ok term, session.after [storedTermStatement id]) := by
  rw [resolveTerm_stored h, SessionM.bind_of_ok (Session.execute_of_answered hanswer)]
  cases term with
  | null => exact absurd rfl hfound
  | _ => rfl

theorem resolveTerm_of_applies (hstored : listing.storedFilter? = request.storedId?.map .text)
    (hown : listing.inlineTerm = .text request.ownTerm)
    (h : Applies request session.outcomes lookup term) :
    listing.resolveTerm true session = (.ok term, session.after lookup) := by
  cases h with
  | own hid =>
    rw [ListingRequest.resolveTerm, hstored, hid, hown, Session.after_nil]
    rfl
  | stored hid hanswer hfound =>
    rw [hid] at hstored
    exact resolveTerm_of_found hstored hanswer hfound

end Resolution

/-! ### Every request takes a course -/

section Courses

variable {site : Site} {request : Request} {listing : ListingRequest} {type : ResourceType}
  {session : Session} {lookup lookup' : List Statement} {term term' : Json} {clause : Clause}
  {question : Question} {rows : List Json} {scalar : Json} {name : String} {healthy : Bool}
  {outcomes : List Outcome} {statements : List Statement} {response : Response}

theorem respond_eq (hmethod : request.method = "GET") (hname : name ≠ "")
    (hslash : '/' ∉ name.toList) (hpath : request.path = question.path name)
    {result : Except Fault Response} {session' : Session}
    (h : withType site request name (fun type listing => question.ask site type listing) session =
      (result, session')) :
    respond site healthy request session = (.ofExcept request result, session') := by
  have hanswer : answer site healthy request (question.endpoint name) session =
      (result, session') := by
    rw [← h]
    cases question <;> rfl
  have hget : ¬ request.method = "OPTIONS" := by
    rw [hmethod]
    decide
  have hbody : ¬ request.method = "HEAD" := by
    rw [hmethod]
    decide
  have hroute : route request.method request.path = .to (question.endpoint name) := by
    rw [hmethod, hpath]
    exact question.route_path hname hslash
  simp only [respond, hroute, respondAt, if_neg hget, hanswer, if_neg hbody]

theorem withType_of_unresolved (htype : site.registry.find (some name) = .ok type)
    (hlisting : request.listing = .ok listing) {fault : Fault} {session' : Session}
    (hresolve : listing.resolveTerm true session = (.error fault, session')) :
    withType site request name (fun type listing => question.ask site type listing) session =
      (.error fault, session') := by
  have hchecked : checkedTerm site type listing session = (.error fault, session') :=
    SessionM.bind_of_error hresolve
  rw [withType, htype, SessionM.bind_of_ok (SessionM.ofExcept_eq _ _), hlisting,
    SessionM.bind_of_ok (SessionM.ofExcept_eq _ _), question.ask_eq]
  exact SessionM.bind_of_error hchecked

theorem withType_of_resolved (htype : site.registry.find (some name) = .ok type)
    (hlisting : request.listing = .ok listing)
    (hresolve : listing.resolveTerm true session = (.ok term, session.after lookup)) {read : Term}
    (hread : Term.ofJson term = .ok read) {unknown : List String}
    (hunknown : refusedColumns site type listing.trash read = .ok unknown) :
    withType site request name (fun type listing => question.ask site type listing) session =
      if unknown = [] then question.fetch site type listing term (session.after lookup)
      else (.error (.invalidFilterColumns unknown), session.after lookup) := by
  have hchecked := checkedTerm_eq hresolve hread hunknown
  rw [withType, htype, SessionM.bind_of_ok (SessionM.ofExcept_eq _ _), hlisting,
    SessionM.bind_of_ok (SessionM.ofExcept_eq _ _), question.ask_eq]
  by_cases hnone : unknown = []
  · rw [if_pos hnone] at hchecked ⊢
    exact SessionM.bind_of_ok hchecked
  · rw [if_neg hnone] at hchecked ⊢
    exact SessionM.bind_of_error hchecked

/-- An admitted request executes its statement on the data, and its response is by the outcome. -/
theorem exists_fetch {read : Term}
    (h : IsAdmitted site request listing name session.outcomes type lookup term read clause) :
    ∃ result, question.fetch site type listing term (session.after lookup) =
        (result, session.after (lookup ++ [question.statement type listing clause])) ∧
      Course site request listing name question session.outcomes
        (lookup ++ [question.statement type listing clause]) (.ofExcept request result) := by
  rw [Session.after_append]
  cases hanswer : nextOutcome (session.after lookup).outcomes with
  | failed => exact ⟨_, fetch_of_failed h.compiled hanswer, .statementFailed h hanswer⟩
  | answered rows scalar =>
    refine ⟨_, fetch_of_answered h.isRead h.compiled hanswer, ?_⟩
    cases hmembers : question.members site listing read clause rows scalar with
    | error fault =>
      have hinternal : Response.ofExcept request (.error fault) = .internalError :=
        isHidden_members h.isRead h.compiled hmembers request
      rw [Except.map, hinternal]
      refine .unwritten h hanswer fun members hother => ?_
      rw [hmembers] at hother
      cases hother
    | ok members =>
      have hwritten : Response.ofExcept request (.ok (.success members)) =
          if (Response.success members).body.shown?.isSome then .success members
          else .internalError := rfl
      rw [Except.map, hwritten]
      split_ifs with hwritable
      · exact .answered h hanswer hmembers hwritable
      · refine .unwritten h hanswer fun others hothers => ?_
        obtain rfl := Except.ok.inj (hmembers.symm.trans hothers)
        exact Bool.eq_false_iff.2 hwritable

/-- Every request takes a course, and leaves nothing behind but its statements. -/
theorem exists_course (hmethod : request.method = "GET") (hname : name ≠ "")
    (hslash : '/' ∉ name.toList) (hpath : request.path = question.path name)
    (hlisting : request.listing = .ok listing)
    (hstored : listing.storedFilter? = request.storedId?.map .text)
    (hown : listing.inlineTerm = .text request.ownTerm)
    (hcompiles : ∀ type lookup term, site.registry.find (some name) = .ok type →
      Applies request session.outcomes lookup term →
        ∃ clause, site.clauseOf type listing (some term) = .ok clause) :
    ∃ statements, (respond site healthy request session).2 = session.after statements ∧
      Course site request listing name question session.outcomes statements
        (respond site healthy request session).1 := by
  cases hfind : site.registry.find (some name) with
  | error fault =>
    obtain rfl := find_eq_error hfind
    have hrun : withType site request name (fun type listing => question.ask site type listing)
        session = (.error (.unknownResourceType (some name)), session) := by
      rw [withType, hfind]
      exact SessionM.bind_of_error (SessionM.ofExcept_eq _ _)
    rw [respond_eq hmethod hname hslash hpath hrun]
    exact ⟨[], session.after_nil.symm, .unknownType hfind⟩
  | ok type =>
    rcases resolution_cases request session.outcomes with ⟨id, hid, hanswer⟩ |
      ⟨id, rows, hid, hanswer⟩ | ⟨lookup, term, hterm⟩
    · rw [hid] at hstored
      have hrun := @withType_of_unresolved site request listing type session question name hfind
        hlisting _ _ (resolveTerm_of_failed hstored hanswer)
      rw [respond_eq hmethod hname hslash hpath hrun]
      exact ⟨_, rfl, .lookupFailed hfind hid hanswer⟩
    · rw [hid] at hstored
      have hrun := @withType_of_unresolved site request listing type session question name hfind
        hlisting _ _ (resolveTerm_of_null hstored hanswer)
      rw [respond_eq hmethod hname hslash hpath hrun]
      exact ⟨_, rfl, .filterMissing hfind hid hanswer⟩
    · obtain ⟨clause, hclause⟩ := hcompiles type lookup term hfind hterm
      obtain ⟨read, hread⟩ := exists_ofJson hclause
      obtain ⟨unknown, hunknown⟩ := exists_refusedColumns hread hclause
      have hrun := @withType_of_resolved site request listing type session lookup term question
        name hfind hlisting (resolveTerm_of_applies hstored hown hterm) read hread unknown hunknown
      by_cases hnone : unknown = []
      · subst hnone
        obtain ⟨result, hfetch, hcourse⟩ := @exists_fetch site request listing type session lookup
          term clause question name read ⟨hfind, hterm, hread, hunknown, hclause⟩
        rw [if_pos rfl, hfetch] at hrun
        rw [respond_eq hmethod hname hslash hpath hrun]
        exact ⟨_, rfl, hcourse⟩
      · rw [if_neg hnone] at hrun
        rw [respond_eq hmethod hname hslash hpath hrun]
        exact ⟨lookup, rfl, .refused hfind hterm hread hunknown hnone⟩

/-! ### What all courses have in common -/

theorem Applies.unique (h : Applies request outcomes lookup term)
    (h' : Applies request outcomes lookup' term') : lookup = lookup' ∧ term = term' := by
  cases h with
  | own hid =>
    cases h' with
    | own => exact ⟨rfl, rfl⟩
    | stored hid' => simp [hid] at hid'
  | stored hid hanswer =>
    cases h' with
    | own hid' => simp [hid] at hid'
    | stored hid' hanswer' =>
      obtain rfl := Option.some.inj (hid.symm.trans hid')
      obtain ⟨-, rfl⟩ := Outcome.answered.inj (hanswer.symm.trans hanswer')
      exact ⟨rfl, rfl⟩

/-- At most one statement looks a term up. -/
theorem Applies.lookup_eq (h : Applies request outcomes lookup term) :
    lookup = [] ∨ ∃ id, lookup = [storedTermStatement (.text id)] := by
  cases h with
  | own => exact .inl rfl
  | stored => exact .inr ⟨_, rfl⟩

namespace Course

theorem length_le_two
    (h : Course site request listing name question outcomes statements response) :
    statements.length ≤ 2 := by
  have hlookup : ∀ {lookup term}, Applies request outcomes lookup term → lookup.length ≤ 1 := by
    intro lookup term hterm
    rcases hterm.lookup_eq with rfl | ⟨id, rfl⟩ <;> simp
  cases h with
  | unknownType | lookupFailed | filterMissing => simp
  | refused hfind hterm =>
    have := hlookup hterm
    omega
  | statementFailed hadmitted | answered hadmitted | unwritten hadmitted =>
    have := hlookup hadmitted.applied
    simp only [List.length_append, List.length_singleton]
    omega

/-- A request that is rejected executes no statement on the data. -/
theorem lookup_of_rejected
    (h : Course site request listing name question outcomes statements response)
    (hstatus : response.status = 400 ∨ response.status = 404) :
    statements = [] ∨ ∃ id, statements = [storedTermStatement (.text id)] := by
  cases h with
  | unknownType => exact .inl rfl
  | lookupFailed | filterMissing => exact .inr ⟨_, rfl⟩
  | refused hfind hterm => exact hterm.lookup_eq
  | statementFailed | answered | unwritten =>
    simp [Response.failure, Response.success, Response.internalError] at hstatus

end Course

/-- The database answers with rows that can be written, or with a number of rows that can be. -/
def Question.IsAnsweredBy (rows : List Json) (scalar : Json) : Question → Prop
  | .page => (Json.array rows).shown?.isSome = true
  | .total => scalar = .null ∨ ∃ count : Int, scalar = .integer count ∧
      count.natAbs < 10 ^ Numeral.digitLimit

theorem Question.exists_members {text : String}
    (hclause : site.clauseOf type listing (some (.text text)) = .ok clause)
    (hsettings : site.settings.IsWritable) (hanswer : question.IsAnsweredBy rows scalar) :
    ∃ members, question.members site listing (.text text) clause rows scalar = .ok members ∧
      (Response.success members).body.shown?.isSome = true := by
  cases question with
  | page =>
    have hcompile : Clause.compile site.clock (site.registry.typeScope type
        { settings := site.settings, trash := listing.trash, ignoreCap := listing.ignoreCap })
        text = .ok clause := hclause
    obtain ⟨hfirst, hmax⟩ := Clause.natAbs_page hsettings hcompile
    obtain ⟨keywords, hsplit, -⟩ := Clause.compile_eq_ok_iff.1 hcompile
    obtain ⟨cleaned, hcleaned⟩ := @exists_clean _ _ _ _ listing.ignoreCap hsettings hsplit
    refine ⟨_, map_eq_ok_iff.2 ⟨cleaned, hcleaned, rfl⟩, Response.isSome_shown?_success ?_⟩
    simp only [List.forall_mem_cons]
    exact ⟨hanswer, Json.isWritable_integer hfirst, Json.isWritable_integer hmax, rfl, by simp⟩
  | total =>
    obtain ⟨count, hcount, hshort⟩ : ∃ count, countOf scalar = .ok count ∧
        count.natAbs < 10 ^ Numeral.digitLimit := by
      rcases hanswer with rfl | ⟨count, rfl, hshort⟩
      · exact ⟨0, rfl, Numeral.lt_digitLimit_of_natAbs_lt (by decide)⟩
      · refine ⟨count, ?_, hshort⟩
        by_cases hzero : count = 0
        · rw [hzero]
          rfl
        · simp [countOf, Json.isGiven, hzero]
    refine ⟨_, map_eq_ok_iff.2 ⟨count, hcount, rfl⟩, Response.isSome_shown?_success ?_⟩
    simp only [List.forall_mem_cons]
    exact ⟨Json.isWritable_integer hshort, by simp⟩

/-- Under settings that can be written, the answer to a term that is a text can be written. -/
theorem Course.status_of_answered {text : String}
    (h : Course site request listing name question outcomes statements response)
    (hadmitted : IsAdmitted site request listing name outcomes type lookup (.text text) (.text text)
      clause)
    (hanswer : nextOutcome (outcomes.drop lookup.length) = .answered rows scalar)
    (hsettings : site.settings.IsWritable) (hwritable : question.IsAnsweredBy rows scalar) :
    response.status = 200 := by
  obtain ⟨hfind, hterm, hread, hunrefused, hclause⟩ := hadmitted
  cases h with
  | unknownType hother => simp [hfind] at hother
  | lookupFailed hother hid hfailed =>
    cases hterm with
    | own hown => simp [hid] at hown
    | stored hid' hfound => simp [hfailed] at hfound
  | filterMissing hother hid hmissing =>
    cases hterm with
    | own hown => simp [hid] at hown
    | stored hid' hfound => simp [hmissing] at hfound
  | refused hfind' hterm' hread' hunknown hsome =>
    obtain rfl := Except.ok.inj (hfind.symm.trans hfind')
    obtain ⟨rfl, rfl⟩ := hterm.unique hterm'
    obtain rfl := Except.ok.inj (hread.symm.trans hread')
    exact absurd (Except.ok.inj (hunknown.symm.trans hunrefused)) hsome
  | statementFailed hadmitted' hfailed =>
    obtain ⟨rfl, rfl⟩ := hterm.unique hadmitted'.applied
    simp [hfailed] at hanswer
  | answered => rfl
  | unwritten hadmitted' hanswer' hmembers =>
    obtain rfl := Except.ok.inj (hfind.symm.trans hadmitted'.found)
    obtain ⟨rfl, rfl⟩ := hterm.unique hadmitted'.applied
    obtain rfl := Except.ok.inj (hread.symm.trans hadmitted'.isRead)
    obtain rfl := Except.ok.inj (hclause.symm.trans hadmitted'.compiled)
    obtain ⟨rfl, rfl⟩ := Outcome.answered.inj (hanswer.symm.trans hanswer')
    obtain ⟨members, hok, hsome⟩ := Question.exists_members hclause hsettings hwritable
    rw [hmembers members hok] at hsome
    cases hsome

/-- The course of a request whose term can be compiled: an unknown resource type is answered at
once; a stored filter is looked up by one statement, whose failure or empty answer ends the course;
unknown columns are refused under strict settings; and only then the one statement on the data is
executed. Its failure is reported, and its success is answered, unless the answer cannot be
written. A rejected request executes no statement on the data. -/
theorem respond_course (hmethod : request.method = "GET") (hname : name ≠ "")
    (hslash : '/' ∉ name.toList) (hpath : request.path = question.path name)
    (htextual : request.IsTextual)
    (hcompiles : ∀ listing type lookup term, request.listing = .ok listing →
      site.registry.find (some name) = .ok type → Applies request session.outcomes lookup term →
        ∃ clause, site.clauseOf type listing (some term) = .ok clause) :
    ∃ listing statements, request.listing = .ok listing ∧
      (respond site healthy request session).2 = session.after statements ∧
      Course site request listing name question session.outcomes statements
        (respond site healthy request session).1 ∧
      statements.length ≤ 2 ∧
      ((respond site healthy request session).1.status = 400 ∨
          (respond site healthy request session).1.status = 404 →
        statements = [] ∨ ∃ id, statements = [storedTermStatement (.text id)]) ∧
      ∀ type lookup text clause rows scalar,
        IsAdmitted site request listing name session.outcomes type lookup (.text text) (.text text)
          clause →
        nextOutcome (session.outcomes.drop lookup.length) = .answered rows scalar →
        site.settings.IsWritable → question.IsAnsweredBy rows scalar →
        (respond site healthy request session).1.status = 200 := by
  obtain ⟨listing, hlisting, hfilter, hfilt_id⟩ := exists_listing htextual
  obtain ⟨statements, hsession, hcourse⟩ := @exists_course site request listing session question
    name healthy hmethod hname hslash hpath hlisting (storedFilter?_eq htextual hfilt_id)
    (inlineTerm_eq htextual hfilter) fun type lookup term => hcompiles listing type lookup term
      hlisting
  refine ⟨listing, statements, hlisting, hsession, hcourse, hcourse.length_le_two,
    hcourse.lookup_of_rejected, ?_⟩
  intro type lookup text clause rows scalar hadmitted hanswer hsettings hwritable
  exact hcourse.status_of_answered hadmitted hanswer hsettings hwritable

end Courses

/-- A stored filter in place of the one that the request says, under strict settings. -/
theorem respond_course_stored :
    let site : Site := { settings := { strictColumns := true, maxRowsPerPage := 100 } }
    let request : Request :=
      ⟨"GET", "/api/resources/task", [("filter", "bogus=1"), ("filt_id", "f-1")], .empty⟩
    let session : Session :=
      ⟨[.answered [] (.text "name=stored"), .answered [.object [("id", .integer 1)]] .null], []⟩
    ∃ listing statements, request.listing = .ok listing ∧
      (respond site true request session).2.executed = statements ∧ statements.length ≤ 2 ∧
      Course site request listing "task" .page session.outcomes statements
        (respond site true request session).1 ∧
      (respond site true request session).1.status = 200 := by
  intro site request session
  have htextual : request.IsTextual := by
    intro name
    have hvalue : request.value name =
        ((lookup? request.query name).map Json.text).getD .null := rfl
    cases hfound : lookup? request.query name with
    | none => exact .inl (by rw [hvalue, hfound]; rfl)
    | some text => exact .inr ⟨text, by rw [hvalue, hfound]; rfl⟩
  have hfind : site.registry.find (some "task") = .ok ResourceType.taskType :=
    eq_ok_of_toOption (by decide +kernel)
  have hread : request.listing = .ok { filter := .text "bogus=1", storedFilter := .text "f-1" } :=
    rfl
  have hid : request.storedId? = some "f-1" := by decide +kernel
  have hterm : Applies request session.outcomes [storedTermStatement (.text "f-1")]
      (.text "name=stored") := .stored hid rfl (by simp)
  have hreturns : (site.clauseOf ResourceType.taskType
      { filter := .text "bogus=1", storedFilter := .text "f-1" }
      (some (.text "name=stored"))).toOption.isSome = true := by
    decide +kernel
  obtain ⟨clause, hclause⟩ := Option.isSome_iff_exists.1 hreturns
  have hcompiles : ∀ listing type lookup term, request.listing = .ok listing →
      site.registry.find (some "task") = .ok type → Applies request session.outcomes lookup term →
        ∃ clause, site.clauseOf type listing (some term) = .ok clause := by
    intro listing type lookup term hlisting hfound hother
    obtain rfl := Except.ok.inj (hread.symm.trans hlisting)
    obtain rfl := Except.ok.inj (hfind.symm.trans hfound)
    obtain ⟨-, rfl⟩ := hterm.unique hother
    exact ⟨clause, eq_ok_of_toOption hclause⟩
  obtain ⟨listing, statements, hlisting, hsession, hcourse, hlength, -, hanswered⟩ :=
    @respond_course site request session .page "task" true rfl (by decide) (by decide)
      (by decide +kernel) htextual hcompiles
  have hadmitted : IsAdmitted site request listing "task" session.outcomes ResourceType.taskType
      [storedTermStatement (.text "f-1")] (.text "name=stored") (.text "name=stored") clause := by
    obtain rfl := Except.ok.inj (hread.symm.trans hlisting)
    exact ⟨hfind, hterm, rfl, eq_ok_of_toOption (by decide +kernel), eq_ok_of_toOption hclause⟩
  have hsettings : site.settings.IsWritable :=
    ⟨Numeral.lt_digitLimit_of_natAbs_lt (by decide),
      Numeral.lt_digitLimit_of_natAbs_lt (by decide)⟩
  have hrows : (Json.array [.object [("id", .integer 1)]]).shown?.isSome = true := by
    decide +kernel
  exact ⟨listing, statements, hlisting, by rw [hsession]; rfl, hlength, hcourse,
    hanswered ResourceType.taskType _ _ _ _ _ hadmitted rfl hsettings hrows⟩

/-- A number of rows in the settings that is too long to be written, and one in a row: the statement
on the data succeeds, and the answer is an internal error. -/
theorem respond_unwritten :
    let long : Int := (Nat.pow 10 Numeral.digitLimit : Nat)
    let site : Site := { settings := { rowsPerPage := long, maxRowsPerPage := 0 } }
    let request : Request := ⟨"GET", "/api/resources/task", [], .empty⟩
    let session : Session := ⟨[.answered [] .null], []⟩
    let session' : Session := ⟨[.answered [.object [("id", .integer long)]] .null], []⟩
    (∃ clause, site.clauseOf ResourceType.taskType {} (some (.text "")) = .ok clause) ∧
      (respond site true request session).2.executed.length = 1 ∧
      (respond site true request session).1.status = 500 ∧
      (∃ clause, Site.clauseOf {} ResourceType.taskType {} (some (.text "")) = .ok clause) ∧
      (respond {} true request session').2.executed.length = 1 ∧
      (respond {} true request session').1.status = 500 := by
  intro long site request session session'
  have hclause : (site.clauseOf ResourceType.taskType {} (some (.text ""))).toOption.isSome =
      true := by
    decide +kernel
  have hclause' : (Site.clauseOf {} ResourceType.taskType {} (some (.text ""))).toOption.isSome =
      true := by
    decide +kernel
  obtain ⟨clause, hclause⟩ := Option.isSome_iff_exists.1 hclause
  obtain ⟨clause', hclause'⟩ := Option.isSome_iff_exists.1 hclause'
  exact ⟨⟨clause, eq_ok_of_toOption hclause⟩, by decide +kernel, by decide +kernel,
    ⟨clause', eq_ok_of_toOption hclause'⟩, by decide +kernel, by decide +kernel⟩

end ListingFilter.Http
