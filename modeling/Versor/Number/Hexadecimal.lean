import Versor.CodePoint
import Versor.Number.Binary

/-!
# Hexadecimal text of a double

The significand is written with one digit before the point and thirteen
after it, followed by the binary exponent; values below the normal range
keep the exponent `-1022` and a leading zero.  Reading takes any number of
digits, also without a prefix, and rounds to the nearest double.
-/

namespace Versor
namespace Hexadecimal

/-- A hexadecimal digit. -/
def digit
    (value : Nat) :
    Char :=
  if value < 10 then Char.ofNat ('0'.toNat + value)
  else Char.ofNat ('a'.toNat + (value - 10))

/-- The low digits of a number, the most significant one first. -/
def digits
    (count value : Nat) :
    List Char :=
  (List.range count).map fun position =>
    digit (value / twoTo (4 * (count - 1 - position)) % 16)

/-- Text of a double. -/
def render
    (value : Float) :
    String :=
  match FloatValue.ofFloat value with
  | .indefinite => "nan"
  | .infinite negative => if negative then "-inf" else "inf"
  | .finite negative magnitude =>
      let sign := if negative then "-" else ""
      if magnitude.significand = 0 then sign ++ "0x0.0p+0"
      else
        let fraction := String.ofList (digits 13 (magnitude.significand % twoTo 52))
        if magnitude.significand < twoTo 52 then
          sign ++ "0x0." ++ fraction ++ "p-1022"
        else
          let exponent := magnitude.exponent + 52
          let mark := if exponent < 0 then "-" else "+"
          sign ++ "0x1." ++ fraction ++ "p" ++ mark ++ toString exponent.natAbs

/-- Text of a double with some low bits of a finite one rounded away, a half upwards. -/
def renderRounded
    (lowBits : Nat)
    (value : Float) :
    String :=
  match FloatValue.ofFloat value with
  | .finite _ _ =>
      let bits := value.toBits.toNat
      let half := twoTo lowBits / 2
      render
        (Float.ofBits
          (UInt64.ofNat ((bits + half) / twoTo lowBits * twoTo lowBits)))
  | _ => render value

/-- The value of a hexadecimal digit. -/
def digitValue?
    (character : Char) :
    Option Nat :=
  let code := character.toNat
  if 48 ≤ code ∧ code ≤ 57 then some (code - 48)
  else if 97 ≤ code ∧ code ≤ 102 then some (code - 87)
  else if 65 ≤ code ∧ code ≤ 70 then some (code - 55)
  else none

/-- The number that a row of hexadecimal digits stands for. -/
def readDigits?
    (characters : List Char) :
    Option Nat :=
  characters.foldlM
    (fun total character => (digitValue? character).map (16 * total + ·)) 0

/-- Why a text is no number. -/
inductive Fault
  | malformed
  | tooLarge
  /-- There is half a pair of code points, so the text cannot be encoded. -/
  | unencodable
deriving DecidableEq

/-- Whether a character may stand around a number. -/
def isBlank
    (character : Char) :
    Bool :=
  character = ' ' || ('\t' ≤ character && character ≤ '\r')

/-- A sign, which may be missing, and what follows it; the flag tells a minus. -/
def takeSign : List Char → Bool × List Char
  | '-' :: rest => (true, rest)
  | '+' :: rest => (false, rest)
  | rest => (false, rest)

/-- The characters in front of the first one that is not of a kind, and the others. -/
def split
    (kind : Char → Bool)
    (characters : List Char) :
    List Char × List Char :=
  (characters.takeWhile kind, characters.dropWhile kind)

/-- An exponent behind its mark, which may be missing, and what follows it. -/
def takeExponent?
    (characters : List Char) :
    Option (Int × List Char) :=
  match characters with
  | mark :: rest =>
      if mark.toLower = 'p' then do
        let (negative, rest) := takeSign rest
        let (digits, rest) := split Char.isDigit rest
        let value ← (String.ofList digits).toNat?
        some (if negative then -(value : Int) else (value : Int), rest)
      else some (0, characters)
  | [] => some (0, [])

/-- The double closest to a number times a power of two, unless it is too large. -/
def scaled?
    (significand : Nat)
    (exponent : Int) :
    Option Float :=
  let height := exponent + (Nat.log2 significand : Int)
  if significand = 0 ∨ height < -1100 then some 0.0
  else if 1100 < height then none
  else Format.binary64.roundRat? (Dyadic.toRat ⟨significand, exponent⟩)

/-- The words for doubles that are not finite. -/
def words : List (List Char × Float) :=
  [("infinity".toList, 1.0 / 0.0), ("inf".toList, 1.0 / 0.0), ("nan".toList, 0.0 / 0.0)]

/-- An unsigned number at the start of a text, and what follows it. -/
def takeUnsigned
    (characters : List Char) :
    Except Fault (Float × List Char) :=
  let lowered := characters.map Char.toLower
  match words.find? fun word => word.1.isPrefixOf lowered with
  | some word => .ok (word.2, characters.drop word.1.length)
  | none =>
      let digits :=
        if ['0', 'x'].isPrefixOf lowered then characters.drop 2 else characters
      let isDigit := fun character => (digitValue? character).isSome
      let (whole, rest) := split isDigit digits
      let (fraction, rest) :=
        match rest with
        | '.' :: rest => split isDigit rest
        | rest => ([], rest)
      match readDigits? (whole ++ fraction), takeExponent? rest with
      | some significand, some (exponent, rest) =>
          if whole.isEmpty && fraction.isEmpty then .error .malformed
          else
            match scaled? significand (exponent - 4 * (fraction.length : Int)) with
            | some value => .ok (value, rest)
            | none => .error .tooLarge
      | _, _ => .error .malformed

/--
The double that a text stands for: hexadecimal digits with or without the
`0x` in front, or a word for what is not finite.
-/
def read
    (text : String) :
    Except Fault Float := do
  if CodePoint.hasHalf text then throw .unencodable
  let (negative, unsigned) := takeSign (text.toList.dropWhile isBlank)
  let (value, rest) ← takeUnsigned unsigned
  if rest.all isBlank then .ok (if negative then -value else value)
  else .error .malformed

end Hexadecimal
end Versor
