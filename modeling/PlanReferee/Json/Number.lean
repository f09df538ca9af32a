import PlanReferee.Json.Reader

/-! JSON numbers. Only natural numbers are of use here, but any number has to be read to its end, and
one beyond the range of double precision is refused as text. -/

namespace PlanReferee.Json

structure Numeral where
  negative : Bool
  whole : List Char
  fraction : List Char := []
  hasFraction : Bool := false
  exponent : Int := 0
  hasExponent : Bool := false
deriving DecidableEq, Repr

def digitsOf (cs : List Char) : List Char := cs.takeWhile Char.isDigit

def afterDigits (cs : List Char) : List Char := cs.dropWhile Char.isDigit

def someDigits (atEnd : Flaw) (cs : List Char) : Except Flaw (List Char × List Char) :=
  match cs with
  | [] => .error atEnd
  | c :: _ => if c.isDigit then .ok (digitsOf cs, afterDigits cs) else .error .malformed

/-- Takes the whole part, which has no zero in front of other digits. -/
def wholePart (atEnd : Flaw) (cs : List Char) : Except Flaw (List Char × List Char) :=
  match cs with
  | '0' :: c :: _ => if c.isDigit then .error .malformed else someDigits atEnd cs
  | _ => someDigits atEnd cs

def fractionPart (atEnd : Flaw) (numeral : Numeral) : Reader Numeral
  | '.' :: cs =>
    match someDigits atEnd cs with
    | .error flaw => .error flaw
    | .ok (digits, rest) => .ok ({ numeral with fraction := digits, hasFraction := true }, rest)
  | cs => .ok (numeral, cs)

/-- The sign in front of an exponent, as a factor. -/
def exponentSign : List Char → Int × List Char
  | '+' :: cs => (1, cs)
  | '-' :: cs => (-1, cs)
  | cs => (1, cs)

def exponentPart (atEnd : Flaw) (numeral : Numeral) : Reader Numeral
  | c :: cs =>
    if c = 'e' ∨ c = 'E' then
      let (sign, cs) := exponentSign cs
      match someDigits atEnd cs with
      | .error flaw => .error flaw
      | .ok (digits, rest) =>
        .ok ({ numeral with
          exponent := sign * (Nat.ofDigitChars 10 digits 0 : Int)
          hasExponent := true }, rest)
    else .ok (numeral, c :: cs)
  | [] => .ok (numeral, [])

/-- Takes a number. What its text may lack at the end counts as the flaw given. -/
def numeral (atEnd : Flaw) (cs : List Char) : Except Flaw (Numeral × List Char) :=
  let (negative, cs) := match cs with
    | '-' :: cs => (true, cs)
    | cs => (false, cs)
  match wholePart atEnd cs with
  | .error flaw => .error flaw
  | .ok (whole, cs) =>
    match fractionPart atEnd { negative, whole } cs with
    | .error flaw => .error flaw
    | .ok (read, cs) => exponentPart atEnd read cs

def maxWord : Nat := UInt64.size - 1

/-- Adds digits to a number as long as it stays within 64 bits. Gives the number and how many digits
went into it. -/
def gather (n count : Nat) : List Char → Nat × Nat
  | [] => (n, count)
  | c :: cs =>
    let next := 10 * n + (c.toNat - '0'.toNat)
    if next ≤ maxWord then gather next (count + 1) cs else (n, count)

/-- The nearest number of 53 significant bits, the even one of two. -/
def roundToDouble (n : Nat) : Nat :=
  let shift := n.log2 - 52
  let unit := Nat.pow 2 shift
  let whole := n / unit
  let twice := 2 * (n % unit)
  if unit < twice ∨ (unit = twice ∧ whole % 2 = 1) then (whole + 1) * unit else whole * unit

/-- The least number that is rounded to infinity. -/
def firstInfinite : Nat := Nat.pow 2 1024 - Nat.pow 2 970

namespace Numeral

/-- The digits that count, as a number, and the power of ten it is to be multiplied by. -/
def scaled (numeral : Numeral) : Nat × Int :=
  let (n, used) := gather 0 0 numeral.whole
  let dropped := numeral.whole.length - used
  let (n, places) := gather n 0 numeral.fraction
  (n, (dropped : Int) - places + numeral.exponent)

/-- Too large for double precision. -/
def overflows (numeral : Numeral) : Bool :=
  let (n, exponent) := numeral.scaled
  n != 0 && (308 < exponent || (0 ≤ exponent
    && firstInfinite ≤ roundToDouble n * roundToDouble (Nat.pow 10 exponent.toNat)))

/-- The value of a number written as a natural number of at most 64 bits. -/
def natural? (numeral : Numeral) : Option Nat :=
  let n := Nat.ofDigitChars 10 numeral.whole 0
  if numeral.negative || numeral.hasFraction || numeral.hasExponent || maxWord < n then none
  else some n

end Numeral

/-- Takes a number, and gives its value if it is natural. -/
def number : Reader (Option Nat) := fun cs =>
  match numeral .ended cs with
  | .error flaw => .error flaw
  | .ok (read, rest) => if read.overflows then .error .malformed else .ok (read.natural?, rest)

def isNumberStart (c : Char) : Bool := c == '-' || c.isDigit

end PlanReferee.Json
