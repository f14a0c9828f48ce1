import ListingFilter.Text.Substring
import ListingFilter.Text.Utf8
/-!
# Percent-encoding

In a URL a character outside the unreserved ones is written as its UTF-8 octets, each as a percent
sign and two upper-case hexadecimal digits; in a form-encoded text a space is a plus sign.
-/

namespace ListingFilter.Text.Percent

/-- Letters, digits and `_ . - ~` stand for themselves. -/
def isUnreserved (c : Char) : Bool :=
  c.isAlphanum || c == '_' || c == '.' || c == '-' || c == '~'

/-- The upper-case hexadecimal digit of `n`, for `n < 16`. -/
def hexDigit (n : Nat) : Char :=
  if n < 10 then Char.ofNat (48 + n) else Char.ofNat (55 + n)

/-- The value of a hexadecimal digit of either case. -/
def hexValue? (c : Char) : Option Nat :=
  if '0' ≤ c && c ≤ '9' then some (c.toNat - 48)
  else if 'A' ≤ c && c ≤ 'F' then some (c.toNat - 55)
  else if 'a' ≤ c && c ≤ 'f' then some (c.toNat - 87)
  else none

/-- One octet as a percent sign and two digits. -/
def encodeOctet (octet : Nat) : List Char := ['%', hexDigit (octet / 16), hexDigit (octet % 16)]

/-- One character of a form-encoded text. -/
def encodeChar (c : Char) : List Char :=
  if c = ' ' then ['+']
  else if isUnreserved c then [c]
  else (Utf8.encodeChar c).flatMap encodeOctet

/-- A text, form-encoded. -/
def encodeForm (text : String) : String := String.ofList (text.toList.flatMap encodeChar)

/-- One character of a text in which the characters in `kept` stand for themselves. -/
def encodeCharKeeping (kept : List Char) (c : Char) : List Char :=
  if kept.contains c || isUnreserved c then [c] else (Utf8.encodeChar c).flatMap encodeOctet

/-- A user name or a password, percent-encoded. -/
def encodeCredential (text : String) : String :=
  String.ofList (text.toList.flatMap (encodeCharKeeping [' ', '+']))

/-- A path, percent-encoded. -/
def encodePath (text : String) : String :=
  String.ofList (text.toList.flatMap (encodeCharKeeping [' ', '+', '/']))

/-- The octets of a percent-encoded text. A percent sign without two hexadecimal digits after it
stands for itself. -/
def octets : List Char → List Nat
  | [] => []
  | '%' :: high :: low :: rest =>
    match hexValue? high, hexValue? low with
    | some a, some b => (16 * a + b) :: octets rest
    | _, _ => 37 :: octets (high :: low :: rest)
  | c :: rest => Utf8.encodeChar c ++ octets rest

/-- The text that a percent-encoded text stands for. -/
def decode (text : String) : String := Utf8.decodeLossy (octets text.toList)

/-- The text that a form-encoded text stands for, with `mend octets` for octets that encode no
character. -/
def decodeForm (mend : List Nat → List Char) (text : String) : String :=
  Utf8.decodeWith mend (octets (text.toList.map fun c => if c = '+' then ' ' else c))

/-- One field of a form: a name, and the value after an equals sign. A field without one has the
empty value. -/
def field (mend : List Nat → List Char) (cs : List Char) : String × String :=
  let (name, value) := Text.cutAt '=' (String.ofList cs)
  (decodeForm mend name, decodeForm mend (value.getD ""))

/-- The fields of a form, in order. -/
def fieldsWith (mend : List Nat → List Char) (text : String) : List (String × String) :=
  ((Text.splitOn '&' text.toList).filter (!·.isEmpty)).map (field mend)

/-- The fields of a form, in order. Octets that encode no character stay percent-encoded. -/
def fields (text : String) : List (String × String) := fieldsWith (·.flatMap encodeOctet) text

/-- The fields of a form that have a value. -/
def filledFields (text : String) : List (String × String) :=
  (fieldsWith Utf8.replacement text).filter fun (_, value) => value != ""

end ListingFilter.Text.Percent
