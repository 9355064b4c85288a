import MarkupTree.Decimal.Shortest

namespace MarkupTree.Decimal

/-- Digits before and after the point, which stands after the first `whole` digits; `whole` may be
negative or lie past the last digit. At least one digit stands on either side. -/
def positional (digits : List Char) (whole : Int) : List Char :=
  if whole ≤ 0 then
    '0' :: '.' :: (List.replicate (-whole).toNat '0' ++ digits)
  else
    let n := whole.toNat
    let padded := digits ++ List.replicate (n - digits.length) '0'
    let fraction := padded.drop n
    padded.take n ++ '.' :: (if fraction.isEmpty then ['0'] else fraction)

/-- One digit before the point, no point without further digits, and an exponent with its sign and
at least two digits. -/
def scientific (digits : List Char) (exponent : Int) : List Char :=
  let power := Nat.toDigits 10 exponent.natAbs
  let power := if power.length < 2 then '0' :: power else power
  digits.take 1 ++ (if digits.length < 2 then [] else '.' :: digits.drop 1) ++
    'e' :: (if exponent < 0 then '-' else '+') :: power

/-- Positional from `10 ^ (-4)` up to below `10 ^ 16`, with an exponent outside. -/
def decimalForm (digits : Nat) (exponent : Int) : List Char :=
  let ds := Nat.toDigits 10 digits
  let first := exponent + ds.length - 1
  if -4 ≤ first ∧ first < 16 then positional ds (first + 1) else scientific ds first

def Binary64.text : Binary64 → String
  | .nan => "nan"
  | .infinite negative => if negative then "-inf" else "inf"
  | .finite negative m e =>
    let body := if m = 0 then ['0', '.', '0'] else
      let (digits, exponent) := shortest m e
      decimalForm digits exponent
    String.ofList (if negative then '-' :: body else body)

def readDigits (acc : Nat) : List Char → Nat × List Char
  | c :: rest =>
    if '0' ≤ c ∧ c ≤ '9' then readDigits (10 * acc + (c.toNat - '0'.toNat)) rest
    else (acc, c :: rest)
  | [] => (acc, [])

def readSign : List Char → Bool × List Char
  | '-' :: rest => (true, rest)
  | '+' :: rest => (false, rest)
  | rest => (false, rest)

/-- The part of a numeral after the fraction: nothing, or a power of ten. -/
def readExponent : List Char → Int
  | c :: rest =>
    if c = 'e' ∨ c = 'E' then
      let (negative, digits) := readSign rest
      let n : Int := (readDigits 0 digits).1
      if negative then -n else n
    else 0
  | [] => 0

def Binary64.read (text : String) : Binary64 :=
  let (negative, body) := readSign text.toList
  match body with
  | 'n' :: _ => .nan
  | 'i' :: _ => .infinite negative
  | _ =>
    let (whole, rest) := readDigits 0 body
    match rest with
    | '.' :: rest =>
      let (digits, tail) := readDigits whole rest
      .ofDecimal negative digits (readExponent tail - (rest.length - tail.length : Nat))
    | _ => .ofDecimal negative whole (readExponent rest)

end MarkupTree.Decimal
