import ListingFilter.Http.Service
import ListingFilter.Proofs.Routing
import ListingFilter.Proofs.Sessions
import ListingFilter.Proofs.WritableAnswers
/-!
# Runs of an endpoint

The endpoints of a resource type differ in the statement that they execute and in what they answer
to its outcome. A term that can be compiled has its columns checked without a fault of its own, and
then one statement is executed. If it succeeds, nothing can go wrong any more but that the answer
cannot be made, and the sender of the request does not learn why.
-/

namespace ListingFilter.Http

/-! ### What is executed and answered -/

/-- What a request asks of a resource type. -/
inductive Question
  /-- One page of the rows. -/
  | page
  /-- The number of rows. -/
  | total
  deriving DecidableEq, Repr

namespace Question

/-- The path of a resource type. -/
def path (name : String) : Question → String
  | .page => "/api/resources/" ++ name
  | .total => "/api/resources/" ++ name ++ "/count"

/-- The endpoint of a resource type. -/
def endpoint (name : String) : Question → Endpoint
  | .page => .listing name
  | .total => .counting name

theorem route_path {name : String} (question : Question) (hname : name ≠ "")
    (hslash : '/' ∉ name.toList) :
    route "GET" (question.path name) = .to (question.endpoint name) := by
  cases question with
  | page => exact route_listing hname hslash
  | total => exact route_counting hname hslash

/-- The answer of the endpoint. -/
def ask (site : Site) (type : ResourceType) (listing : ListingRequest) :
    Question → SessionM Response
  | .page => listRows site type listing
  | .total => countRows site type listing

/-- The statement on the data. -/
def statement (type : ResourceType) (listing : ListingRequest) (clause : Clause) :
    Question → Statement
  | .page => (type.listing listing {} clause).statement
  | .total => (type.counting listing {} clause).statement

/-- What is answered beside `ok` after the statement on the data: the rows with the page and the
cleaned filter, or the number of rows. -/
def members (site : Site) (listing : ListingRequest) (term : Term) (clause : Clause)
    (rows : List Json) (scalar : Json) : Question → Except Fault (List (String × Json))
  | .page =>
    (term.clean site.clock site.settings listing.ignoreCap none).map fun cleaned =>
      [("rows", .array rows), ("first", .integer clause.first), ("max", .integer clause.max),
        ("filter", .text cleaned)]
  | .total => (countOf scalar).map fun count => [("count", .integer count)]

/-- What is done with a term whose columns were checked. -/
def fetch (site : Site) (type : ResourceType) (listing : ListingRequest) (term : Json) :
    Question → SessionM Response
  | .page => do
    let (rows, clause) ← site.getRows (.given type) (inlined listing term) {}
    let cleaned ← SessionM.ofExcept do
      (← Term.ofJson term).clean site.clock site.settings listing.ignoreCap none
    return .success [
      ("rows", .array rows),
      ("first", .integer clause.first),
      ("max", .integer clause.max),
      ("filter", .text cleaned)]
  | .total => do
    let count ← site.countRows (.given type) (inlined listing term) {}
    return .success [("count", .integer count)]

theorem ask_eq (question : Question) (site : Site) (type : ResourceType)
    (listing : ListingRequest) :
    question.ask site type listing =
      checkedTerm site type listing >>= fun term => question.fetch site type listing term := by
  cases question <;> rfl

end Question

/-- The columns for which strict settings refuse a term. -/
def refusedColumns (site : Site) (type : ResourceType) (trash : Bool) :
    Term → Except Fault (List String)
  | .text term =>
    if site.settings.strictColumns then
      unknownColumns site.clock (type.selected trash) (type.filtered trash) term
    else .ok []
  | .listed _ => .ok []

/-! ### Runs -/

section Runs

variable {site : Site} {request : Request} {listing : ListingRequest} {type : ResourceType}
  {session : Session} {lookup : List Statement} {term : Json} {read : Term} {clause : Clause}
  {question : Question} {rows : List Json} {scalar : Json}

theorem find_eq_error {registry : Registry} {name : Option String} {fault : Fault}
    (h : registry.find name = .error fault) : fault = .unknownResourceType name := by
  unfold Registry.find at h
  cases hfound : lookup? registry (Text.lower (Text.trim (name.getD ""))) with
  | some type => simp [hfound] at h
  | none =>
    rw [hfound] at h
    exact (Except.error.inj h).symm

theorem exists_ofJson (hclause : site.clauseOf type listing (some term) = .ok clause) :
    ∃ read, Term.ofJson term = .ok read := by
  simp only [Site.clauseOf, Option.getD_some] at hclause
  cases hread : Term.ofJson term with
  | error fault => simp [hread] at hclause
  | ok read => exact ⟨read, rfl⟩

theorem checkColumns_eq {unknown : List String} (hread : Term.ofJson term = .ok read)
    (hunknown : refusedColumns site type listing.trash read = .ok unknown) :
    checkColumns site type term listing.trash =
      if unknown = [] then .ok () else .error (.invalidFilterColumns unknown) := by
  rw [checkColumns]
  cases hstrict : site.settings.strictColumns with
  | false =>
    obtain rfl : unknown = [] := by
      cases read with
      | text text => simpa [refusedColumns, hstrict] using hunknown.symm
      | listed literals => exact (Except.ok.inj hunknown).symm
    rfl
  | true =>
    rw [hread, if_pos rfl]
    cases read with
    | listed literals =>
      obtain rfl := Except.ok.inj hunknown
      rfl
    | text text =>
      simp only [refusedColumns, hstrict, if_true] at hunknown
      simp only [bind, Except.bind, hunknown, List.isEmpty_iff]

/-- A term that can be compiled has its columns checked. -/
theorem exists_refusedColumns (hread : Term.ofJson term = .ok read)
    (hclause : site.clauseOf type listing (some term) = .ok clause) :
    ∃ unknown, refusedColumns site type listing.trash read = .ok unknown := by
  cases read with
  | listed literals => exact ⟨[], rfl⟩
  | text text =>
    simp only [refusedColumns]
    split_ifs
    · simp only [Site.clauseOf, Option.getD_some, hread] at hclause
      obtain ⟨keywords, hsplit, -⟩ := Clause.compile_eq_ok_iff.1 hclause
      obtain ⟨written, hwritten, -⟩ := split_none_of_split hsplit
      exact ⟨_, by rw [unknownColumns, hwritten]; rfl⟩
    · exact ⟨[], rfl⟩

theorem checkedTerm_eq {unknown : List String}
    (hresolve : listing.resolveTerm true session = (.ok term, session.after lookup))
    (hread : Term.ofJson term = .ok read)
    (hunknown : refusedColumns site type listing.trash read = .ok unknown) :
    checkedTerm site type listing session =
      (if unknown = [] then .ok term else .error (.invalidFilterColumns unknown),
        session.after lookup) := by
  rw [checkedTerm, SessionM.bind_of_ok hresolve, checkColumns_eq hread hunknown]
  split_ifs
  · exact SessionM.bind_of_ok (SessionM.ofExcept_eq _ _)
  · exact SessionM.bind_of_error (SessionM.ofExcept_eq _ _)

/-! ### The statement on the data -/

theorem ofJson_inlineTerm (listing : ListingRequest) (term : Json) :
    Term.ofJson (inlined listing term).inlineTerm = Term.ofJson term := by
  have hinline : (inlined listing term).inlineTerm = if term.isGiven then term else .text "" := rfl
  rw [hinline]
  split_ifs with hgiven
  · rfl
  · cases term with
    | text text =>
      obtain rfl : text = "" := by simpa [Json.isGiven] using hgiven
      rfl
    | array items =>
      cases items with
      | nil => rfl
      | cons item rest => simp [Json.isGiven] at hgiven
    | _ => simp_all [Term.ofJson]

/-- Without a stored filter, and with the term in its place, a request is compiled as before. -/
theorem clauseOf_inlined (site : Site) (type : ResourceType) (listing : ListingRequest)
    (term : Json) :
    site.clauseOf type (inlined listing term) (some (inlined listing term).inlineTerm) =
      site.clauseOf type listing (some term) := by
  simp only [Site.clauseOf, Option.getD_some, ofJson_inlineTerm]
  rfl

theorem resolveTerm_inlined (listing : ListingRequest) (term : Json) (session : Session) :
    (inlined listing term).resolveTerm true session =
      (.ok (inlined listing term).inlineTerm, session) := rfl

theorem getRows_eq (hclause : site.clauseOf type listing (some term) = .ok clause) :
    site.getRows (.given type) (inlined listing term) {} session =
      (Session.execute (Question.statement type listing clause .page) >>= fun answer =>
        pure (answer.1, clause)) session := by
  have hlisting : site.listing (.given type) (inlined listing term) {}
      (some (inlined listing term).inlineTerm) = .ok (type.listing listing {} clause) := by
    simp only [Site.listing, Site.typeOf, clauseOf_inlined, hclause]
    rfl
  rw [Site.getRows, SessionM.bind_of_ok (resolveTerm_inlined listing term session), hlisting,
    SessionM.bind_of_ok (SessionM.ofExcept_eq _ _)]
  rfl

theorem countRows_eq (hclause : site.clauseOf type listing (some term) = .ok clause) :
    site.countRows (.given type) (inlined listing term) {} session =
      (Session.execute (Question.statement type listing clause .total) >>= fun answer =>
        SessionM.ofExcept (countOf answer.2)) session := by
  have hcounting : site.counting (.given type) (inlined listing term) {}
      (some (inlined listing term).inlineTerm) = .ok (type.counting listing {} clause) := by
    simp only [Site.counting, Site.typeOf, clauseOf_inlined, hclause]
    rfl
  rw [Site.countRows, SessionM.bind_of_ok (resolveTerm_inlined listing term session), hcounting,
    SessionM.bind_of_ok (SessionM.ofExcept_eq _ _)]
  rfl

theorem fetch_of_failed (hclause : site.clauseOf type listing (some term) = .ok clause)
    (hanswer : nextOutcome session.outcomes = .failed) :
    question.fetch site type listing term session =
      (.error .statementFailed, session.after [question.statement type listing clause]) := by
  have hexecute := @Session.execute_of_failed session (question.statement type listing clause)
    hanswer
  cases question with
  | page =>
    exact SessionM.bind_of_error
      ((getRows_eq hclause).trans (SessionM.bind_of_error hexecute))
  | total =>
    exact SessionM.bind_of_error
      ((countRows_eq hclause).trans (SessionM.bind_of_error hexecute))

theorem fetch_of_answered (hread : Term.ofJson term = .ok read)
    (hclause : site.clauseOf type listing (some term) = .ok clause)
    (hanswer : nextOutcome session.outcomes = .answered rows scalar) :
    question.fetch site type listing term session =
      ((question.members site listing read clause rows scalar).map Response.success,
        session.after [question.statement type listing clause]) := by
  have hexecute := @Session.execute_of_answered session (question.statement type listing clause)
    rows scalar hanswer
  cases question with
  | page =>
    have hrows := (@getRows_eq site listing type session term clause hclause).trans
      (SessionM.bind_of_ok hexecute)
    have hcleaned : (do
        (← Term.ofJson term).clean site.clock site.settings listing.ignoreCap none) =
          read.clean site.clock site.settings listing.ignoreCap none := by
      rw [hread]
      rfl
    rw [Question.fetch, SessionM.bind_of_ok hrows, Question.members, hcleaned]
    cases read.clean site.clock site.settings listing.ignoreCap none with
    | error fault => exact SessionM.bind_of_error (SessionM.ofExcept_eq _ _)
    | ok cleaned => exact SessionM.bind_of_ok (SessionM.ofExcept_eq _ _)
  | total =>
    have hcount := (@countRows_eq site listing type session term clause hclause).trans
      ((SessionM.bind_of_ok hexecute).trans (SessionM.ofExcept_eq _ _))
    rw [Question.fetch, Question.members]
    cases hvalue : countOf scalar with
    | error fault =>
      rw [hvalue] at hcount
      exact SessionM.bind_of_error hcount
    | ok count =>
      rw [hvalue] at hcount
      exact SessionM.bind_of_ok hcount

/-! ### Faults of an answer -/

/-- A fault that the sender of a request learns nothing about. -/
def IsHidden (fault : Fault) : Prop :=
  ∀ request, Response.ofFault request fault = .internalError

theorem isHidden_countOf {fault : Fault} (h : countOf scalar = .error fault) :
    IsHidden fault := by
  unfold countOf at h
  split_ifs at h
  split at h
  · cases h
  · cases h
  · unfold Clock.truncated at h
    split at h
    · cases h
    · cases h
      exact fun _ => rfl
    · split at h
      · cases h
      · cases h
        exact fun _ => rfl
  · split at h
    · cases h
    · cases h
      exact fun _ => rfl
  · cases h
    exact fun _ => rfl

theorem isHidden_writeTerm {settings : Settings} {ignoreCap : Bool} {remove : Option String}
    {keywords : List Keyword} {fault : Fault}
    (h : writeTerm settings ignoreCap remove keywords = .error fault) : IsHidden fault := by
  obtain ⟨keyword, -, hwritten⟩ := exists_mem_of_mapM_eq_error (map_eq_error_iff.1 h)
  unfold Keyword.written at hwritten
  split_ifs at hwritten
  split at hwritten
  · cases hwritten
  · cases hwritten
    exact fun _ => rfl

theorem isHidden_writtenLiteral {literal : Literal} {fault : Fault}
    (h : literal.written = .error fault) : IsHidden fault := by
  rw [Literal.written] at h
  cases hquoted : literal.quoted with
  | false =>
    rw [hquoted, Bool.not_false, if_pos rfl] at h
    cases h
    exact fun _ => rfl
  | true =>
    rw [hquoted, Bool.not_true, if_neg Bool.false_ne_true] at h
    have htext : literal.text = .error fault := map_eq_error_iff.1 h
    unfold Literal.text at htext
    split at htext
    · cases htext
    · cases htext
      exact fun _ => rfl

/-- A term that was compiled cannot be cleaned for a hidden reason only. -/
theorem isHidden_clean {ignoreCap : Bool} {fault : Fault} (hread : Term.ofJson term = .ok read)
    (hclause : site.clauseOf type listing (some term) = .ok clause)
    (h : read.clean site.clock site.settings ignoreCap none = .error fault) : IsHidden fault := by
  simp only [Site.clauseOf, Option.getD_some, hread] at hclause
  cases read with
  | text text =>
    obtain ⟨keywords, hsplit, -⟩ := Clause.compile_eq_ok_iff.1 hclause
    have hkeywords : split site.clock text site.settings.defaultSort = .ok keywords := hsplit
    simp only [Term.clean, clean, hkeywords] at h
    exact isHidden_writeTerm h
  | listed literals =>
    simp only [Term.clean, cleanListed] at h
    cases hpieces : literals.mapM Literal.written with
    | error other =>
      simp only [hpieces, Except.error.injEq] at h
      obtain ⟨literal, -, hwritten⟩ := exists_mem_of_mapM_eq_error hpieces
      exact h ▸ isHidden_writtenLiteral hwritten
    | ok pieces =>
      cases hrest : writeTerm site.settings ignoreCap none
          (defaultKeywords site.settings.defaultSort []) with
      | error other =>
        simp only [hpieces, hrest, Except.error.injEq] at h
        exact h ▸ isHidden_writeTerm hrest
      | ok rest => simp [hpieces, hrest] at h

theorem isHidden_members {fault : Fault} (hread : Term.ofJson term = .ok read)
    (hclause : site.clauseOf type listing (some term) = .ok clause)
    (h : question.members site listing read clause rows scalar = .error fault) :
    IsHidden fault := by
  cases question with
  | page => exact isHidden_clean hread hclause (map_eq_error_iff.1 h)
  | total => exact isHidden_countOf (map_eq_error_iff.1 h)

end Runs

end ListingFilter.Http
