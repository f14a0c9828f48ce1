/-!
# UTF-8

Octets are natural numbers below 256. The reader walks the octets once; between two characters it
waits for a leading octet, inside one it knows how many octets are owed and which values the next
one may have. An octet that does not fit ends the broken character, which is reported with the
octets that it has, and is read again as a leading octet.
-/

namespace ListingFilter.Text.Utf8

/-- The octets of one character. -/
def encodeChar (c : Char) : List Nat :=
  let n := c.toNat
  if n < 0x80 then [n]
  else if n < 0x800 then [0xC0 + n / 0x40, 0x80 + n % 0x40]
  else if n < 0x10000 then [0xE0 + n / 0x1000, 0x80 + n / 0x40 % 0x40, 0x80 + n % 0x40]
  else [0xF0 + n / 0x40000, 0x80 + n / 0x1000 % 0x40, 0x80 + n / 0x40 % 0x40, 0x80 + n % 0x40]

/-- What octets are read as. -/
inductive Piece
  | char (c : Char)
  /-- Octets that encode no character. -/
  | broken (octets : List Nat)
  deriving DecidableEq, Repr

/-- Where the reader stands. -/
inductive State
  /-- Between two characters. -/
  | between
  /-- Inside a character of which the octets `held` were read: `owed` octets are missing, `code`
  holds the bits read so far, and the next octet lies between `least` and `greatest`. -/
  | inside (held : List Nat) (owed code least greatest : Nat)
  deriving DecidableEq, Repr

/-- Reads a leading octet. An octet that begins no character is broken by itself. -/
def lead (octet : Nat) : List Piece × State :=
  if octet < 0x80 then ([.char (Char.ofNat octet)], .between)
  else if 0xC2 ≤ octet && octet ≤ 0xDF then ([], .inside [octet] 1 (octet - 0xC0) 0x80 0xBF)
  else if octet = 0xE0 then ([], .inside [octet] 2 0 0xA0 0xBF)
  else if octet = 0xED then ([], .inside [octet] 2 0xD 0x80 0x9F)
  else if 0xE1 ≤ octet && octet ≤ 0xEF then ([], .inside [octet] 2 (octet - 0xE0) 0x80 0xBF)
  else if octet = 0xF0 then ([], .inside [octet] 3 0 0x90 0xBF)
  else if 0xF1 ≤ octet && octet ≤ 0xF3 then ([], .inside [octet] 3 (octet - 0xF0) 0x80 0xBF)
  else if octet = 0xF4 then ([], .inside [octet] 3 4 0x80 0x8F)
  else ([.broken [octet]], .between)

/-- Reads one octet. -/
def step : State → Nat → List Piece × State
  | .between, octet => lead octet
  | .inside held owed code least greatest, octet =>
    if least ≤ octet && octet ≤ greatest then
      let code := code * 0x40 + (octet - 0x80)
      if owed ≤ 1 then ([.char (Char.ofNat code)], .between)
      else ([], .inside (held ++ [octet]) (owed - 1) code 0x80 0xBF)
    else
      let (read, state) := lead octet
      (.broken held :: read, state)

/-- The pieces that the octets are read as. -/
def decodeFrom : State → List Nat → List Piece
  | .between, [] => []
  | .inside held .., [] => [.broken held]
  | state, octet :: rest =>
    let (read, state) := step state octet
    read ++ decodeFrom state rest

/-- The character of a piece that is one. -/
def Piece.char? : Piece → Option Char
  | .char c => some c
  | .broken _ => none

/-- The text that the octets encode, if they are well formed. -/
def decode? (octets : List Nat) : Option String :=
  let read := (decodeFrom .between octets).map Piece.char?
  if read.all Option.isSome then some (String.ofList (read.filterMap id)) else none

/-- The text that the octets encode, with the characters `mend octets` for octets that encode no
character. -/
def decodeWith (mend : List Nat → List Char) (octets : List Nat) : String :=
  String.ofList ((decodeFrom .between octets).flatMap fun
    | .char c => [c]
    | .broken octets => mend octets)

/-- Broken octets stand for one replacement character. -/
def replacement : List Nat → List Char := fun _ => [Char.ofNat 0xFFFD]

/-- The text that the octets encode, with a replacement character wherever they encode none. -/
def decodeLossy (octets : List Nat) : String := decodeWith replacement octets

end ListingFilter.Text.Utf8
