import CopyTrader.Lib.Text
import Mathlib.Algebra.Order.Ring.Rat

/-!
# Decimal numbers with infinities

A double as the number it stands for, an infinity or no number. Finite values are exact; what
rounds to a value out of range is an infinity.
-/

namespace CopyTrader.Lib

inductive F64 where
  | finite (x : ℚ)
  | infinite (negative : Bool)
  | nan
  deriving DecidableEq, Repr

namespace F64

instance : OfScientific F64 where
  ofScientific mantissa negative exponent := .finite (OfScientific.ofScientific mantissa negative exponent)

def isFinite : F64 → Bool
  | .finite _ => true
  | .infinite _ | .nan => false

/-- The least magnitude that rounds to an infinity. -/
def overflow : ℚ := 2 ^ 1024 - 2 ^ 970

def ofRat (x : ℚ) : F64 := if overflow ≤ |x| then .infinite (x < 0) else .finite x

def neg : F64 → F64
  | .finite x => .finite (-x)
  | .infinite negative => .infinite !negative
  | .nan => .nan

def abs : F64 → F64
  | .finite x => .finite |x|
  | .infinite _ => .infinite false
  | .nan => .nan

/-- `x.max(0.0)`: zero is also the larger one of zero and no number. -/
def maxZero : F64 → F64
  | .finite x => .finite (max x 0)
  | .infinite false => .infinite false
  | .infinite true | .nan => .finite 0

@[simp] theorem isFinite_abs (x : F64) : x.abs.isFinite = x.isFinite := by cases x <;> rfl

/-! ### Reading -/

/-- What is left after the digits, with their number and their value. -/
def takeDigits (cs : List Char) : ℕ × ℕ × List Char :=
  let digits := cs.takeWhile Char.isDigit
  (digits.length, Nat.ofDigitChars 10 digits 0, cs.dropWhile Char.isDigit)

def parseExponent : List Char → Option ℤ
  | [] => some 0
  | c :: cs =>
    if c = 'e' ∨ c = 'E' then
      let (negative, cs) := match cs with
        | '-' :: rest => (true, rest)
        | '+' :: rest => (false, rest)
        | rest => (false, rest)
      match takeDigits cs with
      | (0, _, _) => none
      | (_, value, []) => some (if negative then -value else value)
      | (_, _, _ :: _) => none
    else none

/-- Digits with at most one point among them, at least one digit, and perhaps an exponent. -/
def parseDecimal (cs : List Char) : Option ℚ :=
  let (whole, wholeValue, rest) := takeDigits cs
  let (places, fraction, rest) := match rest with
    | '.' :: rest => takeDigits rest
    | rest => (0, 0, rest)
  if whole + places = 0 then none
  else
    (parseExponent rest).map fun exponent : ℤ =>
      ((wholeValue * 10 ^ places + fraction : ℕ) : ℚ) * 10 ^ (exponent - (places : ℤ))

def parseMagnitude (cs : List Char) : Option F64 :=
  match String.ofList (cs.map Char.toLower) with
  | "inf" | "infinity" => some (.infinite false)
  | "nan" => some .nan
  | _ => (parseDecimal cs).map ofRat

def parse (s : String) : Except String F64 :=
  let value := match s.toList with
    | '-' :: cs => (parseMagnitude cs).map neg
    | '+' :: cs => parseMagnitude cs
    | cs => parseMagnitude cs
  if s = "" then .error "cannot parse float from empty string"
  else value.elim (.error "invalid float literal") .ok

example : parse "-.5e1" = .ok (.finite (-5)) := by decide +kernel

example : parse "1e999" = .ok (.infinite false) := by decide +kernel

end F64

end CopyTrader.Lib
