/-!
# Parts of a text

Search for a text inside another, and replacement of a placeholder.
-/

namespace ListingFilter.Text

/-- `part` is a contiguous part of the characters. -/
def occursIn (part : List Char) : List Char → Bool
  | [] => part.isEmpty
  | c :: rest => part.isPrefixOf (c :: rest) || occursIn part rest

/-- `part` is a contiguous part of `text`. -/
def contains (text part : String) : Bool := occursIn part.toList text.toList

/-- The characters, with `value` for every occurrence of `slot`, from left to right. -/
def substituteChars (slot value : List Char) (cs : List Char) : List Char :=
  match cs with
  | [] => []
  | c :: rest =>
    if slot.isPrefixOf (c :: rest) then
      value ++ substituteChars slot value (rest.drop (slot.length - 1))
    else c :: substituteChars slot value rest
termination_by cs.length
decreasing_by
  · simp only [List.length_drop, List.length_cons]; omega
  · simp

/-- `text` with `value` for every occurrence of `slot`. -/
def substitute (slot value text : String) : String :=
  String.ofList (substituteChars slot.toList value.toList text.toList)

/-- The part of `text` before the first `c`, and the part after it if there is one. -/
def cutAt (c : Char) (text : String) : String × Option String :=
  let cs := text.toList
  (String.ofList (cs.takeWhile (· != c)),
    match cs.dropWhile (· != c) with
    | [] => none
    | _ :: rest => some (String.ofList rest))

/-- The runs of characters between the occurrences of `c`; there is one more of them than of `c`. -/
def splitOn (c : Char) : List Char → List (List Char)
  | [] => [[]]
  | d :: rest =>
    if d = c then [] :: splitOn c rest
    else
      match splitOn c rest with
      | run :: runs => (d :: run) :: runs
      | [] => [[d]]

end ListingFilter.Text
