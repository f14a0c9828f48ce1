import Mathlib.Data.List.Basic
import ListingFilter.Text.Percent
/-!
# Percent-encoded texts

The reader of UTF-8 reads the octets of a text as the characters of the text, whatever they are. It
follows that percent-decoding takes every octet back that was percent-encoded: a form-encoded text
is decoded to itself but for its spaces, which are written as plus signs and read as such.
-/

namespace ListingFilter.Text

/-! ### UTF-8 -/

namespace Utf8

variable {held rest : List Nat} {owed code least greatest octet : Nat}

theorem step_inside (hleast : least ≤ octet) (hgreatest : octet ≤ greatest) :
    step (.inside held owed code least greatest) octet =
      if owed ≤ 1 then ([.char (Char.ofNat (code * 0x40 + (octet - 0x80)))], .between)
      else ([], .inside (held ++ [octet]) (owed - 1) (code * 0x40 + (octet - 0x80)) 0x80 0xBF) := by
  simp [step, hleast, hgreatest]

/-- The last octet that is owed completes the character. -/
theorem decodeFrom_last (hleast : least ≤ octet) (hgreatest : octet ≤ greatest) :
    decodeFrom (.inside held 1 code least greatest) (octet :: rest) =
      .char (Char.ofNat (code * 0x40 + (octet - 0x80))) :: decodeFrom .between rest := by
  rw [decodeFrom, step_inside hleast hgreatest]
  rfl

theorem decodeFrom_more (owed : Nat) (hleast : least ≤ octet) (hgreatest : octet ≤ greatest) :
    decodeFrom (.inside held (owed + 2) code least greatest) (octet :: rest) =
      decodeFrom (.inside (held ++ [octet]) (owed + 1) (code * 0x40 + (octet - 0x80)) 0x80 0xBF)
        rest := by
  rw [decodeFrom, step_inside hleast hgreatest, if_neg (by omega)]
  rfl

/-- Octets after the second are bounded alike. -/
theorem decodeFrom_last_tail {n : Nat} :
    decodeFrom (.inside held 1 code 0x80 0xBF) ((0x80 + n % 0x40) :: rest) =
      .char (Char.ofNat (code * 0x40 + n % 0x40)) :: decodeFrom .between rest := by
  rw [decodeFrom_last (by omega) (by omega), Nat.add_sub_cancel_left]

theorem decodeFrom_lead {state : State} (h : lead octet = ([], state)) :
    decodeFrom .between (octet :: rest) = decodeFrom state rest := by
  rw [decodeFrom, step, h]
  rfl

theorem lead_two {n : Nat} (hleast : 0x80 ≤ n) (hless : n < 0x800) :
    lead (0xC0 + n / 0x40) = ([], .inside [0xC0 + n / 0x40] 1 (n / 0x40) 0x80 0xBF) := by
  have hrange : 0xC2 ≤ 0xC0 + n / 0x40 ∧ 0xC0 + n / 0x40 ≤ 0xDF := by omega
  rw [lead, if_neg (by omega), if_pos (by simpa using hrange), Nat.add_sub_cancel_left]

/-- Of a character of three octets the first bounds the second, so that the character is none that
two octets could encode and no surrogate. -/
theorem exists_lead_three {n : Nat} (hleast : 0x800 ≤ n) (hless : n < 0x10000)
    (hvalid : n.isValidChar) :
    ∃ least greatest,
      lead (0xE0 + n / 0x1000) =
        ([], .inside [0xE0 + n / 0x1000] 2 (n / 0x1000) least greatest) ∧
      least ≤ 0x80 + n / 0x40 % 0x40 ∧ 0x80 + n / 0x40 % 0x40 ≤ greatest := by
  simp only [Nat.isValidChar] at hvalid
  by_cases hlow : n / 0x1000 = 0
  · refine ⟨0xA0, 0xBF, ?_, by omega, by omega⟩
    rw [hlow]
    rfl
  · by_cases hhigh : n / 0x1000 = 0xD
    · refine ⟨0x80, 0x9F, ?_, by omega, by omega⟩
      rw [hhigh]
      rfl
    · refine ⟨0x80, 0xBF, ?_, by omega, by omega⟩
      have hrange : 0xE1 ≤ 0xE0 + n / 0x1000 ∧ 0xE0 + n / 0x1000 ≤ 0xEF := by omega
      rw [lead, if_neg (by omega), if_neg (by simp; omega), if_neg (by omega), if_neg (by omega),
        if_pos (by simpa using hrange), Nat.add_sub_cancel_left]

/-- Of a character of four octets the first bounds the second, so that the character is none that
three octets could encode and none beyond the last. -/
theorem exists_lead_four {n : Nat} (hleast : 0x10000 ≤ n) (hvalid : n.isValidChar) :
    ∃ least greatest,
      lead (0xF0 + n / 0x40000) =
        ([], .inside [0xF0 + n / 0x40000] 3 (n / 0x40000) least greatest) ∧
      least ≤ 0x80 + n / 0x1000 % 0x40 ∧ 0x80 + n / 0x1000 % 0x40 ≤ greatest := by
  simp only [Nat.isValidChar] at hvalid
  by_cases hlow : n / 0x40000 = 0
  · refine ⟨0x90, 0xBF, ?_, by omega, by omega⟩
    rw [hlow]
    rfl
  · by_cases hhigh : n / 0x40000 = 4
    · refine ⟨0x80, 0x8F, ?_, by omega, by omega⟩
      rw [hhigh]
      rfl
    · refine ⟨0x80, 0xBF, ?_, by omega, by omega⟩
      have hrange : n / 0x40000 = 1 ∨ n / 0x40000 = 2 ∨ n / 0x40000 = 3 := by omega
      rcases hrange with h | h | h <;> rw [h] <;> rfl

/-- The octets of a character are read as the character. -/
theorem decodeFrom_encodeChar (c : Char) (rest : List Nat) :
    decodeFrom .between (encodeChar c ++ rest) = .char c :: decodeFrom .between rest := by
  have hvalid : c.toNat.isValidChar := c.valid
  have hchar : ∀ {n}, n = c.toNat → Char.ofNat n = c := by
    rintro _ rfl
    exact Char.ofNat_toNat c
  simp only [encodeChar]
  split_ifs with hone htwo hthree
  · have hlead : lead c.toNat = ([.char c], .between) := by
      rw [lead, if_pos hone, Char.ofNat_toNat]
    rw [List.singleton_append, decodeFrom, step, hlead]
    rfl
  · simp only [List.cons_append, List.nil_append]
    rw [decodeFrom_lead (lead_two (by omega) htwo), decodeFrom_last_tail, hchar (by omega)]
  · obtain ⟨least, greatest, hlead, hleast, hgreatest⟩ :=
      exists_lead_three (by omega) hthree hvalid
    simp only [List.cons_append, List.nil_append]
    rw [decodeFrom_lead hlead, decodeFrom_more 0 hleast hgreatest, Nat.add_sub_cancel_left,
      decodeFrom_last_tail, hchar (by omega)]
  · obtain ⟨least, greatest, hlead, hleast, hgreatest⟩ := exists_lead_four (by omega) hvalid
    simp only [List.cons_append, List.nil_append]
    rw [decodeFrom_lead hlead, decodeFrom_more 1 hleast hgreatest, Nat.add_sub_cancel_left,
      decodeFrom_more 0 (Nat.le_add_right _ _) (by omega), Nat.add_sub_cancel_left,
      decodeFrom_last_tail, hchar (by omega)]

theorem decodeFrom_encode (cs : List Char) :
    decodeFrom .between (cs.flatMap encodeChar) = cs.map .char := by
  induction cs with
  | nil => rfl
  | cons c cs ih => rw [List.flatMap_cons, decodeFrom_encodeChar, ih, List.map_cons]

/-- The octets of a text are read as the text. -/
theorem decodeLossy_encode (cs : List Char) :
    decodeLossy (cs.flatMap encodeChar) = String.ofList cs := by
  rw [decodeLossy, decodeWith, decodeFrom_encode, List.flatMap_map, List.flatMap_singleton']

theorem lt_of_mem_encodeChar {c : Char} (h : octet ∈ encodeChar c) : octet < 0x100 := by
  have hvalid : c.toNat.isValidChar := c.valid
  simp only [Nat.isValidChar] at hvalid
  simp only [encodeChar] at h
  split_ifs at h <;> simp only [List.mem_cons, List.not_mem_nil, or_false] at h <;> omega

end Utf8

/-! ### Percent-encoding -/

namespace Percent

variable {c d : Char} {cs rest : List Char}

theorem octets_cons (h : c ≠ '%') : octets (c :: rest) = Utf8.encodeChar c ++ octets rest := by
  rw [octets]
  rintro high low after rfl
  exact absurd rfl h

/-- Characters other than the percent sign stand for their own octets. -/
theorem octets_of_not_mem (h : '%' ∉ cs) : octets cs = cs.flatMap Utf8.encodeChar := by
  induction cs with
  | nil => rfl
  | cons c cs ih =>
    obtain ⟨hc, hcs⟩ := not_or.1 (mt List.mem_cons.2 h)
    rw [octets_cons (Ne.symm hc), ih hcs, List.flatMap_cons]

theorem hexValue?_hexDigit : ∀ n < 16, hexValue? (hexDigit n) = some n := by
  decide

theorem isUnreserved_hexDigit : ∀ n < 16, isUnreserved (hexDigit n) = true := by
  decide

theorem octets_encodeOctet {octet : Nat} (h : octet < 0x100) :
    octets (encodeOctet octet ++ rest) = octet :: octets rest := by
  have hhigh := hexValue?_hexDigit (octet / 16) (by omega)
  have hlow := hexValue?_hexDigit (octet % 16) (by omega)
  simp only [encodeOctet, List.cons_append, List.nil_append, octets, hhigh, hlow]
  rw [Nat.div_add_mod]

theorem octets_flatMap_encodeOctet {os : List Nat} (h : ∀ octet ∈ os, octet < 0x100) :
    octets (os.flatMap encodeOctet ++ rest) = os ++ octets rest := by
  induction os with
  | nil => rfl
  | cons octet os ih =>
    obtain ⟨hoctet, hos⟩ := List.forall_mem_cons.1 h
    rw [List.flatMap_cons, List.append_assoc, octets_encodeOctet hoctet, ih hos, List.cons_append]

/-- What a character of a form-encoded text is decoded to: a plus sign if it is a space, and else
itself. -/
def plussedChar (c : Char) : Char := if c = ' ' then '+' else c

/-- A text with a plus sign for every space. -/
def plussed (text : String) : String := String.ofList (text.toList.map plussedChar)

theorem plussed_eq_self_iff {text : String} : plussed text = text ↔ ' ' ∉ text.toList := by
  rw [plussed, ← String.toList_inj, String.toList_ofList]
  constructor
  · intro h hspace
    rw [← h] at hspace
    obtain ⟨c, -, hc⟩ := List.mem_map.1 hspace
    rw [plussedChar] at hc
    split_ifs at hc with hne
    · exact absurd hc (by decide)
    · exact hne hc
  · intro h
    have hsame : ∀ c ∈ text.toList, plussedChar c = id c := by
      intro c hc
      rw [plussedChar, if_neg (ne_of_mem_of_not_mem hc h), id]
    rw [List.map_congr_left hsame, List.map_id]

theorem octets_encodeChar :
    octets (encodeChar c ++ rest) = Utf8.encodeChar (plussedChar c) ++ octets rest := by
  rw [encodeChar, plussedChar]
  split_ifs with hspace hunreserved
  · exact octets_cons (by decide)
  · refine octets_cons ?_
    rintro rfl
    exact absurd hunreserved (by decide)
  · exact octets_flatMap_encodeOctet fun octet => Utf8.lt_of_mem_encodeChar

theorem octets_encode :
    octets (cs.flatMap encodeChar) = (cs.map plussedChar).flatMap Utf8.encodeChar := by
  induction cs with
  | nil => rfl
  | cons c cs ih => rw [List.flatMap_cons, octets_encodeChar, ih, List.map_cons, List.flatMap_cons]

/-- A form-encoded text is decoded to itself but for its spaces. -/
theorem decode_encodeForm (text : String) : decode (encodeForm text) = plussed text := by
  rw [decode, encodeForm, String.toList_ofList, octets_encode, Utf8.decodeLossy_encode, plussed]

/-- A text without percent signs is decoded to itself. -/
theorem decode_of_not_mem {text : String} (h : '%' ∉ text.toList) : decode text = text := by
  rw [decode, octets_of_not_mem h, Utf8.decodeLossy_encode, String.ofList_toList]

/-- The characters of a form-encoded text. -/
theorem mem_encodeForm {text : String} (h : d ∈ (encodeForm text).toList) :
    d = '+' ∨ d = '%' ∨ isUnreserved d = true := by
  rw [encodeForm, String.toList_ofList] at h
  obtain ⟨c, -, hd⟩ := List.mem_flatMap.1 h
  simp only [encodeChar] at hd
  split_ifs at hd with hspace hunreserved
  · exact .inl (List.mem_singleton.1 hd)
  · exact .inr (.inr (List.mem_singleton.1 hd ▸ hunreserved))
  · obtain ⟨octet, hoctet, hd⟩ := List.mem_flatMap.1 hd
    have hlimit := Utf8.lt_of_mem_encodeChar hoctet
    simp only [encodeOctet, List.mem_cons, List.not_mem_nil, or_false] at hd
    rcases hd with rfl | rfl | rfl
    · exact .inr (.inl rfl)
    · exact .inr (.inr (isUnreserved_hexDigit _ (by omega)))
    · exact .inr (.inr (isUnreserved_hexDigit _ (by omega)))

end Percent

end ListingFilter.Text
