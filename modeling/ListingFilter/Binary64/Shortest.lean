import ListingFilter.Binary64
/-!
# Shortest decimal text

A number is written with the fewest digits that read back as the same number; of the decimals with
that many digits the nearest is taken, and of two equally near ones the even one. The decimals that
read back as a number are those between the midpoints to its two neighbours, the midpoints included
if the mantissa is even. Where some decimal with a given number of digits lies there, so does one of
the two next to the number itself, so only these two are tested.
-/

namespace ListingFilter.Binary64

/-- A decimal `0.d₁d₂… × 10 ^ point`. -/
structure Decimal where
  digits : List Char
  point : Int
  deriving DecidableEq, Repr

/-- The factor of ten that `n / d < 1` lacks to reach 1, counted up to `fuel`. -/
def leadingZeros (d : Nat) : Nat → Nat → Nat
  | 0, _ => 0
  | fuel + 1, n => if d ≤ n * 10 then 0 else 1 + leadingZeros d fuel (n * 10)

/-- The `p` with `10 ^ (p - 1) ≤ n / d < 10 ^ p`. -/
def pointOf (n d : Nat) : Int :=
  if d ≤ n then ((Nat.toDigits 10 (n / d)).length : Int)
  else -(leadingZeros d 400 n : Int)

/-- The distance of two natural numbers. -/
def distance (a b : Nat) : Nat := (a - b) + (b - a)

/-- The best decimal with digits in steps of `10 ^ place`, if one reads back: `low`, `mid` and
`high` over `d` are the lower midpoint, the number and the upper midpoint. -/
def candidate? (closed : Bool) (low mid high d : Nat) (place : Int) : Option Nat :=
  let unit := if place < 0 then d else Nat.pow 10 place.natAbs * d
  let scale := if place < 0 then Nat.pow 10 place.natAbs else 1
  let reads (k : Nat) : Bool :=
    let x := k * unit
    if closed then low * scale ≤ x && x ≤ high * scale else low * scale < x && x < high * scale
  let below := mid * scale / unit
  let above := below + 1
  let far (k : Nat) : Nat := distance (k * unit) (mid * scale)
  match reads below, reads above with
  | false, false => none
  | true, false => some below
  | false, true => some above
  | true, true =>
    if far below < far above then some below
    else if far above < far below then some above
    else if below % 2 = 0 then some below else some above

/-- Tries the digit counts from `count` on, `fuel` of them. -/
def search (closed : Bool) (low mid high d : Nat) (point : Int) : Nat → Nat → Option (Nat × Int)
  | 0, _ => none
  | fuel + 1, count =>
    let place := point - count
    match candidate? closed low mid high d place with
    | some k => some (k, place)
    | none => search closed low mid high d point fuel (count + 1)

/-- The digits without the zeros at their end. -/
def dropZerosAtEnd (ds : List Char) : List Char := (ds.reverse.dropWhile (· == '0')).reverse

/-- The shortest decimal of a positive number. -/
def shortest (mantissa : Nat) (exponent : Int) : Decimal :=
  let (n, d) := ratio mantissa (exponent - 2)
  let unit := n / mantissa
  let mid := 4 * n
  let high := mid + 2 * unit
  let low :=
    if mantissa = Nat.pow 2 52 && leastExponent < exponent then mid - unit else mid - 2 * unit
  match search (mantissa % 2 = 0) low mid high d (pointOf mid d) 17 1 with
  | none => ⟨['0'], 1⟩
  | some (k, place) =>
    let ds := Nat.toDigits 10 k
    ⟨dropZerosAtEnd ds, (ds.length : Int) + place⟩

/-- An exponent of ten: a sign and at least two digits. -/
def exponentText (e : Int) : List Char :=
  let ds := Nat.toDigits 10 e.natAbs
  (if e < 0 then '-' else '+') :: List.replicate (2 - ds.length) '0' ++ ds

/-- A decimal is written positionally, with at least one digit on each side of the point, if its
first digit stands at a place from `10 ^ -4` up to `10 ^ 15`; otherwise with an exponent. -/
def Decimal.text (x : Decimal) : List Char :=
  if -4 < x.point && x.point ≤ 16 then
    if x.point ≤ 0 then '0' :: '.' :: List.replicate x.point.natAbs '0' ++ x.digits
    else
      let whole := x.digits.take x.point.natAbs
      let fraction := x.digits.drop x.point.natAbs
      whole ++ List.replicate (x.point.natAbs - whole.length) '0' ++
        '.' :: (if fraction.isEmpty then ['0'] else fraction)
  else
    let fraction := x.digits.drop 1
    x.digits.take 1 ++ (if fraction.isEmpty then [] else '.' :: fraction) ++
      'e' :: exponentText (x.point - 1)

/-- The text of a number. -/
def text : Binary64 → String
  | .nan => "nan"
  | .infinite negative => if negative then "-inf" else "inf"
  | .finite negative mantissa exponent =>
    let digits := if mantissa = 0 then ['0', '.', '0'] else (shortest mantissa exponent).text
    String.ofList (if negative then '-' :: digits else digits)

end ListingFilter.Binary64
