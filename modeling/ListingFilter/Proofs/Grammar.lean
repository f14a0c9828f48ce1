import ListingFilter.Proofs.Characters
/-!
# The grammar of filter terms

`WrittenPart` is one part of a term as somebody writes it: a lead with the column name in any case
of letters, a body, and the quotation mark around the body if there is one. Not every such record
reads back as it was written; `WrittenPart.IsWellFormed` lists what the grammar asks for. The main
statement is `Part.ofTerm_writtenTerm`: the scanner finds exactly the parts that were written,
whatever blank space stands between them.

The scanner is followed through `Scanner.parts`, the parts that it still finds in the characters to
come. Its laws are stated for every continuation, so that one part is read without a look at the
next one.
-/

namespace ListingFilter

/-! ### Parts as they are written -/

/-! What is asked of some characters is decided at these, and not at all characters that exist. -/

local instance (priority := high) decidableOption (p : Char → Prop) [DecidablePred p]
    (c? : Option Char) : Decidable (∀ c ∈ c?, p c) :=
  Option.decidableForallMem c?

local instance (priority := high) decidableList (p : Char → Prop) [DecidablePred p]
    (cs : List Char) : Decidable (∀ c ∈ cs, p c) :=
  List.decidableBAll p cs

/-- The lead as it is written. -/
def Lead.text : Lead → List Char
  | .bare => []
  | .exact => ['=']
  | .approx => ['~']
  | .column name comparison => name.toList ++ [comparison.symbol]

/-- The lead with its column name in lower case, which is what the scanner keeps of it. -/
def Lead.lower : Lead → Lead
  | .column name comparison =>
    .column (String.ofList (name.toList.map Char.toLower)) comparison
  | lead => lead

/-- The column name of the lead, if it has one, is one by the rules. -/
def Lead.isWellNamed : Lead → Bool
  | .column name _ => isColumnName name.toList
  | _ => true

theorem Lead.lower_eq_bare_iff (lead : Lead) : lead.lower = .bare ↔ lead = .bare := by
  cases lead <;> simp [Lead.lower]

theorem Lead.lower_lower (lead : Lead) : lead.lower.lower = lead.lower := by
  cases lead with
  | column name comparison =>
    simp only [Lead.lower, String.toList_ofList, List.map_map, Function.comp_def, toLower_toLower]
  | bare | exact | approx => rfl

theorem Lead.isWellNamed_lower {lead : Lead} (h : lead.isWellNamed = true) :
    lead.lower.isWellNamed = true := by
  cases lead with
  | column name comparison => simpa [Lead.lower, isWellNamed] using isColumnName_map_toLower h
  | bare | exact | approx => rfl

/-- A column name directly followed by the symbol of a comparison stands at the start. -/
def StartsWithColumn (cs : List Char) : Prop :=
  ∃ name c rest, cs = name ++ c :: rest ∧ isColumnName name = true ∧
    (Comparison.ofSymbol? c).isSome = true

/-- The column name is the longest run of name characters, as no symbol is a name character. -/
theorem startsWithColumn_iff (cs : List Char) :
    StartsWithColumn cs ↔ isColumnName (cs.takeWhile isNameCharacter) = true ∧
      ∃ c ∈ (cs.dropWhile isNameCharacter).head?, (Comparison.ofSymbol? c).isSome = true := by
  constructor
  · rintro ⟨name, c, rest, rfl, hname, hc⟩
    have hchars := isNameCharacter_of_isColumnName hname
    have hstop : isNameCharacter c = false := by
      refine Bool.eq_false_iff.2 fun hplain => ?_
      simp [(isNameCharacter_plain hplain).2.2] at hc
    rw [List.takeWhile_append_of_pos hchars, List.dropWhile_append_of_pos hchars]
    simpa [hstop] using ⟨hname, hc⟩
  · rintro ⟨hname, c, hhead, hc⟩
    obtain ⟨rest, hrest⟩ := List.head?_eq_some_iff.1 hhead
    exact ⟨_, c, rest, by rw [← hrest, List.takeWhile_append_dropWhile], hname, hc⟩

instance (cs : List Char) : Decidable (StartsWithColumn cs) :=
  decidable_of_iff (isColumnName (cs.takeWhile isNameCharacter) = true ∧
      ((cs.dropWhile isNameCharacter).head?.any fun c => (Comparison.ofSymbol? c).isSome) = true)
    (by simp [startsWithColumn_iff, Option.any_eq_true])

/-- One part of a term as it is written. -/
structure WrittenPart where
  lead : Lead
  body : List Char
  /-- The quotation mark around the body, if there is one. -/
  mark : Option Char

namespace WrittenPart

/-- The characters of the part. -/
def text (part : WrittenPart) : List Char :=
  part.lead.text ++
    match part.mark with
    | none => part.body
    | some mark => mark :: part.body ++ [mark]

/-- The part that the scanner should find. -/
def part (written : WrittenPart) : Part :=
  ⟨written.lead.lower, String.ofList written.body, written.mark.isSome⟩

/-- What the grammar asks of a part. A quoted body does not hold its own mark. Any other body holds
no separator and does not start with a mark; without a lead it must not look like a lead. -/
structure IsWellFormed (part : WrittenPart) : Prop where
  lead : part.lead.isWellNamed = true
  quoted : ∀ mark ∈ part.mark, isQuoteMark mark = true ∧ mark ∉ part.body
  unquoted : part.mark = none →
    (∀ c ∈ part.body, isSeparator c = false) ∧ ∀ c ∈ part.body.head?, isQuoteMark c = false
  bare : part.mark = none → part.lead = .bare →
    part.body ≠ [] ∧ (∀ c ∈ part.body.head?, c ≠ '=' ∧ c ≠ '~') ∧ ¬ StartsWithColumn part.body

instance (part : WrittenPart) : Decidable part.IsWellFormed :=
  decidable_of_iff (_ ∧ _ ∧ _ ∧ _)
    ⟨fun h => ⟨h.1, h.2.1, h.2.2.1, h.2.2.2⟩, fun h => ⟨h.lead, h.quoted, h.unquoted, h.bare⟩⟩

end WrittenPart

/-- A term: each part with the blank space in front of it, and the blank space at the end. -/
def writtenTerm (pieces : List (List Char × WrittenPart)) (trailing : List Char) : List Char :=
  match pieces with
  | [] => trailing
  | (gap, part) :: rest => gap ++ part.text ++ writtenTerm rest trailing

/-! ### Laws of the scanner -/

namespace Scanner

/-- The parts that the scanner finds in the characters to come. -/
def parts (scanner : Scanner) (cs : List Char) : List Part :=
  (scanner.run cs).1 ++ (scanner.run cs).2.finish.toList

theorem parts_nil (scanner : Scanner) : scanner.parts [] = scanner.finish.toList := rfl

theorem parts_cons (scanner : Scanner) (c : Char) (rest : List Char) :
    scanner.parts (c :: rest) =
      (scanner.step c).1.toList ++ (scanner.step c).2.parts rest := by
  simp [parts, run, List.append_assoc]

/-- A character that completes no part only moves the scanner. -/
theorem parts_cons_of_step {scanner next : Scanner} {c : Char} (h : scanner.step c = (none, next))
    (rest : List Char) : scanner.parts (c :: rest) = next.parts rest := by
  rw [parts_cons, h]
  rfl

/-- A character that completes a part gives the part before the others. -/
theorem parts_cons_of_step_some {scanner next : Scanner} {c : Char} {part : Part}
    (h : scanner.step c = (some part, next)) (rest : List Char) :
    scanner.parts (c :: rest) = part :: next.parts rest := by
  rw [parts_cons, h]
  rfl

theorem step_between_separator {c : Char} (h : isSeparator c = true) :
    between.step c = (none, between) := by
  simp [step, h]

theorem step_between_mark {c : Char} (h : isQuoteMark c = true) :
    between.step c = (none, quoted c .bare []) := by
  have hsep : isSeparator c = false := by
    rcases (isQuoteMark_iff c).1 h with rfl | rfl <;> rfl
  simp [step, h, hsep]

theorem step_between_plain {c : Char} (hsep : isSeparator c = false)
    (hquote : isQuoteMark c = false) (hequal : c ≠ '=') (happrox : c ≠ '~') :
    between.step c = (none, inside .bare [c]) := by
  simp [step, hsep, hquote, hequal, happrox]

theorem step_inside_separator (lead : Lead) (body : List Char) {c : Char}
    (h : isSeparator c = true) :
    (inside lead body).step c = (some ⟨lead, String.ofList body.reverse, false⟩, between) := by
  simp [step, h]

theorem step_inside_mark {lead : Lead} {c : Char} (hlead : lead ≠ .bare)
    (h : isQuoteMark c = true) : (inside lead []).step c = (none, quoted c lead []) := by
  have hsep : isSeparator c = false := by
    rcases (isQuoteMark_iff c).1 h with rfl | rfl <;> rfl
  simp [step, h, hsep, hlead]

theorem step_inside_symbol {body : List Char} (comparison : Comparison)
    (h : isColumnName body.reverse = true) :
    (inside .bare body).step comparison.symbol =
      (none, inside
        (.column (String.ofList (body.reverse.map Char.toLower)) comparison) []) := by
  have hsep : isSeparator comparison.symbol = false := by cases comparison <;> rfl
  have hquote : isQuoteMark comparison.symbol = false := by cases comparison <;> rfl
  simp [step, hsep, hquote, h]

/-- The character `c` goes on with the body `body`, which is kept in reverse. -/
structure GoesOn (lead : Lead) (body : List Char) (c : Char) : Prop where
  separator : isSeparator c = false
  mark : lead ≠ .bare → body = [] → isQuoteMark c = false
  symbol : lead = .bare → (Comparison.ofSymbol? c).isSome = true →
    isColumnName body.reverse = false

theorem step_inside_of_goesOn {lead : Lead} {body : List Char} {c : Char}
    (h : GoesOn lead body c) : (inside lead body).step c = (none, inside lead (c :: body)) := by
  have hopen : (isQuoteMark c && body.isEmpty && lead != .bare) = false := by
    by_cases hlead : lead = .bare
    · simp [hlead]
    · cases body with
      | nil => simp [h.mark hlead rfl]
      | cons _ _ => simp
  by_cases hlead : lead = .bare
  · subst hlead
    cases hsymbol : Comparison.ofSymbol? c with
    | none => simp [step, h.separator, hsymbol]
    | some comparison =>
      have hname : isColumnName body.reverse = false := h.symbol rfl (by simp [hsymbol])
      simp [step, h.separator, hsymbol, hname]
  · simp only [step, h.separator, hopen, Bool.false_eq_true, if_false]
    cases lead <;> simp_all

theorem parts_between_gap {gap : List Char} (h : ∀ c ∈ gap, isSeparator c = true)
    (rest : List Char) : between.parts (gap ++ rest) = between.parts rest := by
  induction gap with
  | nil => rfl
  | cons c gap ih =>
    rw [List.cons_append,
      parts_cons_of_step (step_between_separator (h c List.mem_cons_self))]
    exact ih fun d hd => h d (List.mem_cons_of_mem c hd)

/-- A body that is not quoted is read up to its end. -/
theorem parts_inside (lead : Lead) (body cs rest : List Char)
    (h : ∀ front c back, cs = front ++ c :: back → GoesOn lead (front.reverse ++ body) c) :
    (inside lead body).parts (cs ++ rest) = (inside lead (cs.reverse ++ body)).parts rest := by
  induction cs generalizing body with
  | nil => rfl
  | cons c cs ih =>
    have hc : GoesOn lead body c := h [] c cs rfl
    rw [List.cons_append, parts_cons_of_step (step_inside_of_goesOn hc), ih]
    · simp
    · rintro front d back rfl
      simpa using h (c :: front) d back rfl

/-- A body that is not quoted ends where a separator follows, or nothing. -/
theorem parts_inside_end (lead : Lead) (body : List Char) {rest : List Char}
    (h : ∀ c ∈ rest.head?, isSeparator c = true) :
    (inside lead body).parts rest =
      ⟨lead, String.ofList body.reverse, false⟩ :: between.parts rest := by
  cases rest with
  | nil => rfl
  | cons c rest =>
    have hc : isSeparator c = true := h c rfl
    rw [parts_cons_of_step_some (step_inside_separator lead body hc),
      parts_cons_of_step (step_between_separator hc)]

/-- A quoted body ends at the next mark, and its part is complete there. -/
theorem parts_quoted {mark : Char} (lead : Lead) {cs : List Char} (h : mark ∉ cs)
    (body rest : List Char) :
    (quoted mark lead body).parts (cs ++ mark :: rest) =
      ⟨lead, String.ofList (body.reverse ++ cs), true⟩ :: between.parts rest := by
  induction cs generalizing body with
  | nil =>
    have hstep : (quoted mark lead body).step mark =
        (some ⟨lead, String.ofList body.reverse, true⟩, between) := by simp [step]
    simp [parts_cons_of_step_some hstep]
  | cons c cs ih =>
    have hc : c ≠ mark := fun heq => h (heq ▸ List.mem_cons_self)
    have hstep : (quoted mark lead body).step c = (none, quoted mark lead (c :: body)) := by
      simp [step, hc]
    rw [List.cons_append, parts_cons_of_step hstep,
      ih fun hmem => h (List.mem_cons_of_mem c hmem)]
    simp

end Scanner

/-! ### Reading what was written -/

namespace Scanner

/-- A column name and a symbol are read as the lead of a part. -/
theorem parts_column {name : List Char} (h : isColumnName name = true) (comparison : Comparison)
    (rest : List Char) :
    between.parts (name ++ comparison.symbol :: rest) =
      (inside (.column (String.ofList (name.map Char.toLower)) comparison) []).parts rest := by
  have hchars := isNameCharacter_of_isColumnName h
  cases name with
  | nil => cases h
  | cons first name =>
    have hfirst := isNameCharacter_plain (hchars first List.mem_cons_self)
    have hstart : between.step first = (none, inside .bare [first]) := by
      refine step_between_plain hfirst.1 hfirst.2.1 ?_ ?_ <;> rintro rfl <;> cases hfirst.2.2
    have hname : isColumnName (name.reverse ++ [first]).reverse = true := by simpa using h
    have hmiddle := parts_inside .bare [first] name (comparison.symbol :: rest) (by
        rintro front c back rfl
        have hc := isNameCharacter_plain (hchars c (by simp))
        exact ⟨hc.1, fun hlead => absurd rfl hlead, fun _ hsymbol => by simp [hc.2.2] at hsymbol⟩)
    rw [List.cons_append, parts_cons_of_step hstart, hmiddle,
      parts_cons_of_step (step_inside_symbol comparison hname)]
    simp

/-- A lead is read as it is written, but for the case of its letters. -/
theorem parts_lead {lead : Lead} (hlead : lead ≠ .bare) (hname : lead.isWellNamed = true)
    (rest : List Char) :
    between.parts (lead.text ++ rest) = (inside lead.lower []).parts rest := by
  cases lead with
  | bare => exact absurd rfl hlead
  | exact => exact parts_cons_of_step rfl rest
  | approx => exact parts_cons_of_step rfl rest
  | column name comparison =>
    have h := parts_column hname comparison rest
    simpa [Lead.text, Lead.lower] using h

theorem parts_quotedPart {part : WrittenPart} (h : part.IsWellFormed) {mark : Char}
    (hmark : part.mark = some mark) (rest : List Char) :
    between.parts (part.text ++ rest) = part.part :: between.parts rest := by
  obtain ⟨hquote, hbody⟩ := h.quoted mark hmark
  have htext : part.text ++ rest = part.lead.text ++ mark :: (part.body ++ mark :: rest) := by
    simp [WrittenPart.text, hmark]
  have hpart : part.part = ⟨part.lead.lower, String.ofList part.body, true⟩ := by
    simp [WrittenPart.part, hmark]
  rw [htext, hpart]
  by_cases hlead : part.lead = .bare
  · rw [hlead, Lead.text, List.nil_append, parts_cons_of_step (step_between_mark hquote),
      parts_quoted .bare hbody]
    simp [Lead.lower]
  · have hlower : part.lead.lower ≠ .bare := by simpa [Lead.lower_eq_bare_iff] using hlead
    rw [parts_lead hlead h.lead, parts_cons_of_step (step_inside_mark hlower hquote),
      parts_quoted _ hbody]
    simp

theorem parts_unquotedPart {part : WrittenPart} (h : part.IsWellFormed) (hmark : part.mark = none)
    {rest : List Char} (apart : ∀ c ∈ rest.head?, isSeparator c = true) :
    between.parts (part.text ++ rest) = part.part :: between.parts rest := by
  obtain ⟨hseparator, hquote⟩ := h.unquoted hmark
  have htext : part.text ++ rest = part.lead.text ++ (part.body ++ rest) := by
    simp [WrittenPart.text, hmark]
  have hpart : part.part = ⟨part.lead.lower, String.ofList part.body, false⟩ := by
    simp [WrittenPart.part, hmark]
  rw [htext, hpart]
  by_cases hlead : part.lead = .bare
  · obtain ⟨hne, hsign, hcolumn⟩ := h.bare hmark hlead
    obtain ⟨first, body, hbody⟩ := List.exists_cons_of_ne_nil hne
    rw [hbody] at hseparator hquote hsign hcolumn
    have hstart := step_between_plain (hseparator first List.mem_cons_self) (hquote first rfl)
      (hsign first rfl).1 (hsign first rfl).2
    -- the characters before a symbol are no column name, by well-formedness
    have hmiddle := parts_inside .bare [first] body rest (by
      rintro front c back rfl
      refine ⟨hseparator c (by simp), fun hne => absurd rfl hne,
        fun _ hsymbol => Bool.eq_false_iff.2 fun hname => ?_⟩
      exact hcolumn ⟨first :: front, c, back, rfl, by simpa using hname, hsymbol⟩)
    rw [hlead, hbody, Lead.text, List.nil_append, List.cons_append, parts_cons_of_step hstart,
      hmiddle, parts_inside_end _ _ apart]
    simp [Lead.lower]
  · have hlower : part.lead.lower ≠ .bare := by simpa [Lead.lower_eq_bare_iff] using hlead
    have hmiddle := parts_inside part.lead.lower [] part.body rest (by
      intro front c back hsplit
      refine ⟨hseparator c (by simp [hsplit]), fun _ hfront => ?_, fun hbare => absurd hbare hlower⟩
      have hnil : front = [] := by simpa using hfront
      exact hquote c (by simp [hsplit, hnil]))
    rw [parts_lead hlead h.lead, hmiddle, parts_inside_end _ _ apart]
    simp

/-- A part reads back as it was written if a separator follows, or nothing. -/
theorem parts_writtenPart {part : WrittenPart} (h : part.IsWellFormed) {rest : List Char}
    (apart : ∀ c ∈ rest.head?, isSeparator c = true) :
    between.parts (part.text ++ rest) = part.part :: between.parts rest := by
  cases hmark : part.mark with
  | none => exact parts_unquotedPart h hmark apart
  | some mark => exact parts_quotedPart h hmark rest

end Scanner

/-- A term as somebody may write it: well-formed parts, blank space around them, and some of it
between two of them. -/
structure IsWriting (pieces : List (List Char × WrittenPart)) (trailing : List Char) : Prop where
  wellFormed : ∀ piece ∈ pieces, piece.2.IsWellFormed
  blank : ∀ piece ∈ pieces, ∀ c ∈ piece.1, isSeparator c = true
  apart : ∀ piece ∈ pieces.tail, piece.1 ≠ []
  trailing : ∀ c ∈ trailing, isSeparator c = true

instance (pieces : List (List Char × WrittenPart)) (trailing : List Char) :
    Decidable (IsWriting pieces trailing) :=
  decidable_of_iff (_ ∧ _ ∧ _ ∧ _)
    ⟨fun h => ⟨h.1, h.2.1, h.2.2.1, h.2.2.2⟩,
      fun h => ⟨h.wellFormed, h.blank, h.apart, h.trailing⟩⟩

/-- What follows a part in a term starts with a separator, if anything follows. -/
theorem IsWriting.head_rest {piece : List Char × WrittenPart}
    {rest : List (List Char × WrittenPart)} {trailing : List Char}
    (h : IsWriting (piece :: rest) trailing) :
    ∀ c ∈ (writtenTerm rest trailing).head?, isSeparator c = true := by
  cases rest with
  | nil => exact fun c hc => h.trailing c (List.mem_of_mem_head? hc)
  | cons next rest =>
    obtain ⟨gap, part⟩ := next
    have hne : gap ≠ [] := h.apart (gap, part) List.mem_cons_self
    obtain ⟨first, gap', rfl⟩ := List.exists_cons_of_ne_nil hne
    have hfirst : isSeparator first = true :=
      h.blank (first :: gap', part) (by simp) first List.mem_cons_self
    intro c hc
    simp only [writtenTerm, List.cons_append, List.head?_cons, Option.mem_some_iff] at hc
    exact hc ▸ hfirst

theorem IsWriting.tail {piece : List Char × WrittenPart} {rest : List (List Char × WrittenPart)}
    {trailing : List Char} (h : IsWriting (piece :: rest) trailing) : IsWriting rest trailing where
  wellFormed other hother := h.wellFormed other (List.mem_cons_of_mem piece hother)
  blank other hother := h.blank other (List.mem_cons_of_mem piece hother)
  apart other hother := h.apart other (List.mem_of_mem_tail hother)
  trailing := h.trailing

/-- The scanner finds the parts of a written term, in order. -/
theorem Part.ofTerm_writtenTerm {pieces : List (List Char × WrittenPart)} {trailing : List Char}
    (h : IsWriting pieces trailing) :
    Part.ofTerm (String.ofList (writtenTerm pieces trailing)) =
      pieces.map fun piece => piece.2.part := by
  have hparts : ∀ {pieces : List (List Char × WrittenPart)}, IsWriting pieces trailing →
      Scanner.between.parts (writtenTerm pieces trailing) =
        pieces.map fun piece => piece.2.part := by
    intro pieces h
    induction pieces with
    | nil =>
      have hgap := Scanner.parts_between_gap h.trailing []
      rwa [List.append_nil] at hgap
    | cons piece rest ih =>
      rw [writtenTerm, List.append_assoc,
        Scanner.parts_between_gap (h.blank piece List.mem_cons_self),
        Scanner.parts_writtenPart (h.wellFormed piece List.mem_cons_self) h.head_rest,
        ih h.tail, List.map_cons]
  rw [← hparts h]
  simp [Part.ofTerm, Scanner.parts]

end ListingFilter
