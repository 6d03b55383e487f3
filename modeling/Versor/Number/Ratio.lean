import Versor.Number.DecimalDigit
import Versor.Number.Power

/-!
# Text of rationals

A rational is written as an integer or as a quotient of integers in lowest
terms.  Reading also takes decimals with an exponent, digits in groups with
single underscores between them, and blanks around the number.  No integer
may have too many digits, in whichever direction.
-/

namespace Versor

/-- The most digits that the text of an integer has. -/
def maxIntegerDigits : Nat := 4300

/-- Whether the text of an integer is not too long. -/
def isShortInteger
    (value : Int) :
    Bool :=
  value.natAbs < tenTo maxIntegerDigits

/-- Text of a rational in lowest terms, unless it is too long; an integer has no denominator. -/
def ratText?
    (value : Rat) :
    Option String :=
  if !(isShortInteger value.num && isShortInteger value.den) then none
  else if value.den = 1 then some (toString value.num)
  else some (toString value.num ++ "/" ++ toString value.den)

namespace Ratio

/-- Whether a character may stand around a number. -/
def isBlank
    (character : Char) :
    Bool :=
  let code := character.toNat
  (9 ≤ code && code ≤ 13) || (28 ≤ code && code ≤ 32) ||
    (8192 ≤ code && code ≤ 8202) ||
    [133, 160, 5760, 8232, 8233, 8239, 8287, 12288].contains code

/-- Digits in groups with single underscores between them, and what follows them. -/
def takeDigits : List Char → List Nat × List Char
  | '_' :: next :: rest =>
      match DecimalDigit.value? next with
      | some digit =>
          let (digits, rest) := takeDigits rest
          (digit :: digits, rest)
      | none => ([], '_' :: next :: rest)
  | first :: rest =>
      match DecimalDigit.value? first with
      | some digit =>
          let (digits, rest) := takeDigits rest
          (digit :: digits, rest)
      | none => ([], first :: rest)
  | [] => ([], [])

/-- The digits at the start of a text, which do not start with an underscore. -/
def takeNumber : List Char → List Nat × List Char
  | '_' :: rest => ([], '_' :: rest)
  | characters => takeDigits characters

/-- The number that digits stand for, unless they are too many; without digits it is zero. -/
def ofDigits?
    (digits : List Nat) :
    Option Nat :=
  if maxIntegerDigits < digits.length then none
  else some (digits.foldl (fun total digit => 10 * total + digit) 0)

/-- A sign, which may be missing, and what follows it. -/
def takeSign : List Char → Int × List Char
  | '-' :: rest => (-1, rest)
  | '+' :: rest => (1, rest)
  | rest => (1, rest)

/-- An exponent of ten, which may be missing, at the end of a text. -/
def exponent? : List Char → Option Int
  | [] => some 0
  | mark :: rest =>
      let (sign, rest) := takeSign rest
      let (digits, rest) := takeNumber rest
      if mark.toLower = 'e' ∧ digits ≠ [] ∧ rest = [] then
        (ofDigits? digits).map fun value => sign * (value : Int)
      else none

/-- Numerator and denominator of what is behind a sign; the denominator may be zero. -/
def unsigned?
    (characters : List Char) :
    Option (Nat × Nat) :=
  match takeNumber characters with
  | (whole, '/' :: rest) =>
      match takeNumber rest with
      | (divisor, []) =>
          if whole = [] ∨ divisor = [] then none
          else do some (← ofDigits? whole, ← ofDigits? divisor)
      | _ => none
  | (whole, rest) => do
      let (fraction, rest) :=
        match rest with
        | '.' :: rest => takeNumber rest
        | rest => ([], rest)
      if whole = [] ∧ fraction = [] then none
      else
        let number :=
          (← ofDigits? whole) * tenTo fraction.length + (← ofDigits? fraction)
        let exponent ← exponent? rest
        some
          (number * tenTo exponent.toNat,
            tenTo fraction.length * tenTo (-exponent).toNat)

/-- Numerator and denominator of the number that a text stands for; the latter may be zero. -/
def read?
    (text : String) :
    Option (Int × Nat) :=
  let trimmed :=
    ((text.toList.dropWhile isBlank).reverse.dropWhile isBlank).reverse
  let (sign, rest) := takeSign trimmed
  (unsigned? rest).map fun (numerator, denominator) => (sign * numerator, denominator)

end Ratio

end Versor
