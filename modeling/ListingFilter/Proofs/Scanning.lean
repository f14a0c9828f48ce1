import ListingFilter.Proofs.Grammar
/-!
# What the scanner finds

The converse of the grammar: every part that the scanner finds, in any text, could have been written
by the rules of the grammar. The invariant is that the part which the scanner stands in is such a
part already, so that a part is one as soon as it is complete, also at the end of the text. Its lead
is in lower case, and the characters of its body are taken from the text.
-/

namespace ListingFilter

theorem Comparison.symbol_of_ofSymbol? {c : Char} {comparison : Comparison}
    (h : Comparison.ofSymbol? c = some comparison) : c = comparison.symbol := by
  simp only [Comparison.ofSymbol?] at h
  split_ifs at h with h₁ h₂ h₃ h₄ h₅ <;> cases h <;> assumption

theorem startsWithColumn_append_singleton (cs : List Char) (c : Char) :
    StartsWithColumn (cs ++ [c]) ↔
      StartsWithColumn cs ∨
        isColumnName cs = true ∧ (Comparison.ofSymbol? c).isSome = true := by
  constructor
  · rintro ⟨name, d, rest, hsplit, hname, hd⟩
    rcases List.eq_nil_or_concat rest with rfl | ⟨rest, last, rfl⟩
    · obtain ⟨rfl, hdc⟩ := List.append_inj' hsplit rfl
      obtain rfl : c = d := by simpa using hdc
      exact .inr ⟨hname, hd⟩
    · have hassoc : cs ++ [c] = (name ++ d :: rest) ++ [last] := by simpa using hsplit
      exact .inl ⟨name, d, rest, (List.append_inj' hassoc rfl).1, hname, hd⟩
  · rintro (⟨name, d, rest, rfl, hname, hd⟩ | ⟨hname, hc⟩)
    · exact ⟨name, d, rest ++ [c], by simp, hname, hd⟩
    · exact ⟨cs, c, [], rfl, hname, hc⟩

/-- A part as it can be found in `source`. -/
structure WrittenPart.IsScanned (source : List Char) (part : WrittenPart) : Prop where
  wellFormed : part.IsWellFormed
  lower : part.lead.lower = part.lead
  body : ∀ c ∈ part.body, c ∈ source

/-- A part found in the text is the part that the scanner should find. -/
theorem WrittenPart.IsScanned.part_eq {source : List Char} {written : WrittenPart}
    (h : written.IsScanned source) :
    written.part = ⟨written.lead, String.ofList written.body, written.mark.isSome⟩ := by
  rw [WrittenPart.part, h.lower]

namespace WrittenPart.IsScanned

variable {source : List Char} {lead : Lead} {c : Char}

theorem ofLead (hlead : lead ≠ .bare) (hlower : lead.lower = lead)
    (hname : lead.isWellNamed = true) : IsScanned source ⟨lead, [], none⟩ where
  wellFormed := ⟨hname, by simp, by simp, fun _ hbare => absurd hbare hlead⟩
  lower := hlower
  body := by simp

theorem ofMark (hquote : isQuoteMark c = true) (hlower : lead.lower = lead)
    (hname : lead.isWellNamed = true) : IsScanned source ⟨lead, [], some c⟩ where
  wellFormed := by
    refine ⟨hname, fun mark hmark => ?_, by simp, by simp⟩
    obtain rfl : c = mark := by simpa using hmark
    exact ⟨hquote, by simp⟩
  lower := hlower
  body := by simp

theorem ofFirst (hc : c ∈ source) (hsep : isSeparator c = false) (hquote : isQuoteMark c = false)
    (hsign : c ≠ '=' ∧ c ≠ '~') : IsScanned source ⟨.bare, [c], none⟩ where
  wellFormed := by
    refine ⟨rfl, by simp, fun _ => ⟨by simpa using hsep, by simpa using hquote⟩, fun _ _ => ?_⟩
    refine ⟨by simp, by simpa using hsign, ?_⟩
    rw [← List.nil_append [c], startsWithColumn_append_singleton]
    rintro (⟨name, d, rest, hnil, -⟩ | ⟨hname, -⟩)
    · simp at hnil
    · cases hname
  lower := rfl
  body := by simpa using hc

theorem quoted_append {mark : Char} {body : List Char}
    (h : IsScanned source ⟨lead, body, some mark⟩) (hc : c ∈ source) (hne : c ≠ mark) :
    IsScanned source ⟨lead, body ++ [c], some mark⟩ where
  wellFormed := by
    refine ⟨h.wellFormed.lead, fun other hother => ?_, by simp, by simp⟩
    obtain rfl : mark = other := by simpa using hother
    obtain ⟨hquote, hbody⟩ := h.wellFormed.quoted mark rfl
    exact ⟨hquote, by simpa [hne.symm] using hbody⟩
  lower := h.lower
  body d hd := by
    rcases List.mem_append.1 hd with hd | hd
    · exact h.body d hd
    · obtain rfl : d = c := by simpa using hd
      exact hc

theorem unquoted_append {body : List Char} (h : IsScanned source ⟨lead, body, none⟩)
    (hc : c ∈ source) (hgoes : Scanner.GoesOn lead body.reverse c) :
    IsScanned source ⟨lead, body ++ [c], none⟩ where
  wellFormed := by
    obtain ⟨hseparator, hquote⟩ := h.wellFormed.unquoted rfl
    have hbare := h.wellFormed.bare rfl
    -- the first character changes only where the body was empty
    have hhead : body ≠ [] → (body ++ [c]).head? = body.head? := fun hne => by
      obtain ⟨d, rest, rfl⟩ := List.exists_cons_of_ne_nil hne
      rfl
    refine ⟨h.wellFormed.lead, by simp, fun _ => ⟨?_, ?_⟩, fun _ hlead => ?_⟩
    · intro d hd
      rcases List.mem_append.1 hd with hd | hd
      · exact hseparator d hd
      · obtain rfl : d = c := by simpa using hd
        exact hgoes.separator
    · intro d hd
      by_cases hbody : body = []
      · have hlead : lead ≠ .bare := fun hlead => (hbare hlead).1 hbody
        obtain rfl : c = d := by simpa [hbody] using hd
        exact hgoes.mark hlead (by simp [hbody])
      · exact hquote d (hhead hbody ▸ hd)
    · obtain ⟨hne, hsign, hcolumn⟩ := hbare hlead
      refine ⟨by simp, fun d hd => hsign d (hhead hne ▸ hd), ?_⟩
      rw [startsWithColumn_append_singleton]
      rintro (hstarts | ⟨hname, hsymbol⟩)
      · exact hcolumn hstarts
      · have hno := hgoes.symbol hlead hsymbol
        rw [List.reverse_reverse] at hno
        rw [hno] at hname
        cases hname
  lower := h.lower
  body d hd := by
    rcases List.mem_append.1 hd with hd | hd
    · exact h.body d hd
    · obtain rfl : d = c := by simpa using hd
      exact hc

end WrittenPart.IsScanned

namespace Scanner

/-- The part that the scanner stands in can be found in `source`, as far as it has been read. -/
def IsSound (source : List Char) : Scanner → Prop
  | between => True
  | inside lead body => WrittenPart.IsScanned source ⟨lead, body.reverse, none⟩
  | quoted mark lead body => WrittenPart.IsScanned source ⟨lead, body.reverse, some mark⟩

/-- The part can be found in `source`. -/
def Finds (source : List Char) (part : Part) : Prop :=
  ∃ written : WrittenPart, written.IsScanned source ∧ written.part = part

theorem isSound_step_between {source : List Char} {c : Char} (hc : c ∈ source) :
    IsSound source (between.step c).2 ∧ (between.step c).1 = none := by
  by_cases hsep : isSeparator c = true
  · rw [step_between_separator hsep]
    exact ⟨trivial, rfl⟩
  by_cases hquote : isQuoteMark c = true
  · rw [step_between_mark hquote]
    exact ⟨.ofMark hquote rfl rfl, rfl⟩
  by_cases hequal : c = '='
  · subst hequal
    exact ⟨.ofLead (by simp) rfl rfl, rfl⟩
  by_cases happrox : c = '~'
  · subst happrox
    exact ⟨.ofLead (by simp) rfl rfl, rfl⟩
  rw [Bool.not_eq_true] at hsep hquote
  rw [step_between_plain hsep hquote hequal happrox]
  exact ⟨.ofFirst hc hsep hquote ⟨hequal, happrox⟩, rfl⟩

theorem isSound_step_quoted {source : List Char} {c mark : Char} {lead : Lead} {body : List Char}
    (hc : c ∈ source) (h : IsSound source (quoted mark lead body)) :
    IsSound source ((quoted mark lead body).step c).2 ∧
      ∀ part ∈ ((quoted mark lead body).step c).1, Finds source part := by
  by_cases hmark : c = mark
  · subst hmark
    have hstep : (quoted c lead body).step c =
        (some ⟨lead, String.ofList body.reverse, true⟩, between) := by simp [step]
    rw [hstep]
    refine ⟨trivial, fun part hpart => ⟨_, h, ?_⟩⟩
    rw [h.part_eq]
    simpa using hpart
  · have hstep : (quoted mark lead body).step c = (none, quoted mark lead (c :: body)) := by
      simp [step, hmark]
    rw [hstep]
    refine ⟨?_, by simp⟩
    simpa [IsSound] using h.quoted_append hc hmark

theorem isSound_step_inside {source : List Char} {c : Char} {lead : Lead} {body : List Char}
    (hc : c ∈ source) (h : IsSound source (inside lead body)) :
    IsSound source ((inside lead body).step c).2 ∧
      ∀ part ∈ ((inside lead body).step c).1, Finds source part := by
  by_cases hsep : isSeparator c = true
  · rw [step_inside_separator lead body hsep]
    refine ⟨trivial, fun part hpart => ⟨_, h, ?_⟩⟩
    rw [h.part_eq]
    simpa using hpart
  by_cases hopen : isQuoteMark c = true ∧ body = [] ∧ lead ≠ .bare
  · obtain ⟨hquote, rfl, hlead⟩ := hopen
    rw [step_inside_mark hlead hquote]
    exact ⟨.ofMark hquote h.lower h.wellFormed.lead, by simp⟩
  by_cases hcolumn : lead = .bare ∧ isColumnName body.reverse = true ∧
      (Comparison.ofSymbol? c).isSome = true
  · obtain ⟨rfl, hname, hsymbol⟩ := hcolumn
    obtain ⟨comparison, hcomparison⟩ := Option.isSome_iff_exists.1 hsymbol
    obtain rfl := Comparison.symbol_of_ofSymbol? hcomparison
    rw [step_inside_symbol comparison hname]
    -- the new lead is the lower-case form of the lead as it is written
    have hlead : (Lead.column (String.ofList body.reverse) comparison).isWellNamed = true := by
      simpa [Lead.isWellNamed] using hname
    have hlower := Lead.lower_lower (.column (String.ofList body.reverse) comparison)
    have hnamed := Lead.isWellNamed_lower hlead
    rw [Lead.lower, String.toList_ofList] at hlower hnamed
    exact ⟨.ofLead (by simp) hlower hnamed, by simp⟩
  · have hgoes : GoesOn lead body c := by
      refine ⟨by simpa using hsep, fun hlead hbody => ?_, fun hlead hsymbol => ?_⟩
      · exact Bool.eq_false_iff.2 fun hquote => hopen ⟨hquote, hbody, hlead⟩
      · exact Bool.eq_false_iff.2 fun hname => hcolumn ⟨hlead, hname, hsymbol⟩
    rw [step_inside_of_goesOn hgoes]
    refine ⟨?_, by simp⟩
    have happend := h.unquoted_append hc (by rwa [List.reverse_reverse])
    simpa [IsSound] using happend

/-- One character keeps the scanner sound, and the part that it completes can be found. -/
theorem isSound_step {source : List Char} {c : Char} (hc : c ∈ source) {scanner : Scanner}
    (h : scanner.IsSound source) :
    IsSound source (scanner.step c).2 ∧ ∀ part ∈ (scanner.step c).1, Finds source part := by
  cases scanner with
  | between =>
    obtain ⟨hsound, hnone⟩ := isSound_step_between hc
    exact ⟨hsound, by simp [hnone]⟩
  | inside lead body => exact isSound_step_inside hc h
  | quoted mark lead body => exact isSound_step_quoted hc h

/-- The end of the text completes a part that can be found. -/
theorem IsSound.finish {source : List Char} {scanner : Scanner} (h : scanner.IsSound source) :
    ∀ part ∈ scanner.finish, Finds source part := by
  intro part hpart
  cases scanner with
  | between => cases hpart
  | inside lead body =>
    refine ⟨_, h, ?_⟩
    rw [h.part_eq]
    simpa [Scanner.finish] using hpart
  | quoted mark lead body =>
    refine ⟨_, h, ?_⟩
    rw [h.part_eq]
    simpa [Scanner.finish] using hpart

/-- A sound scanner finds only parts that the grammar allows. -/
theorem IsSound.parts {source cs : List Char} (hcs : ∀ c ∈ cs, c ∈ source) {scanner : Scanner}
    (h : scanner.IsSound source) : ∀ part ∈ scanner.parts cs, Finds source part := by
  induction cs generalizing scanner with
  | nil =>
    intro part hpart
    rw [parts_nil] at hpart
    exact h.finish part (by simpa using hpart)
  | cons c cs ih =>
    obtain ⟨hsound, hfinds⟩ := isSound_step (hcs c List.mem_cons_self) h
    intro part hpart
    rw [parts_cons] at hpart
    rcases List.mem_append.1 hpart with hpart | hpart
    · exact hfinds part (by simpa using hpart)
    · exact ih (fun d hd => hcs d (List.mem_cons_of_mem c hd)) hsound part hpart

end Scanner

/-- Every part of a term could have been written by the rules of the grammar, with a lead in lower
case and a body taken from the term. -/
theorem Part.ofTerm_finds {term : String} {part : Part} (h : part ∈ Part.ofTerm term) :
    Scanner.Finds term.toList part := by
  have hsound : Scanner.IsSound term.toList .between := trivial
  exact hsound.parts (fun _ hc => hc) part h

end ListingFilter
