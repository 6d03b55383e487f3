import Versor.Json.Basic
import Versor.Literal.Rational
import Versor.Number.Hexadecimal
import Versor.Number.Ratio

/-!
# Literals written in JSON

There are two ways to write a literal in JSON.  A plain value stands for
itself.  A marked value has more kinds of numbers: a text is the hexadecimal
form of a double, an object with the member `q` is a fraction, and one with
the member `str` is the text in it.
-/

namespace Versor
namespace Literal

/-- A number as a literal. -/
def ofNumber : JsonNumber → Literal
  | .integer value => .integer value
  | .real value => .real value
  | .indefinite _ => .real (0.0 / 0.0)

mutual

/-- A value that stands for itself. -/
def ofPlain : Json → Literal
  | .null => .nothing
  | .boolean value => .boolean value
  | .number value => ofNumber value
  | .text value => .text value
  | .array elements => .sequence (ofPlainElements elements)
  | .object members => .table (ofPlainMembers members)

/-- Elements that stand for themselves. -/
def ofPlainElements : List Json → List Literal
  | [] => []
  | value :: rest => ofPlain value :: ofPlainElements rest

/-- Members that stand for themselves. -/
def ofPlainMembers : List (String × Json) → List (String × Literal)
  | [] => []
  | (name, value) :: rest => (name, ofPlain value) :: ofPlainMembers rest

end

/-- A number as a plain value, which is what it was given as. -/
def toPlain : Literal → Json
  | .boolean value => .boolean value
  | .real value => .real value
  | literal => .integer (literal.toInt?.getD 0)

/-- The double that a text in hexadecimal form stands for. -/
def readReal
    (text : String) :
    Except Error Float :=
  match Hexadecimal.read text with
  | .ok value => .ok value
  | .error .malformed => .error .malformedNumber
  | .error .tooLarge => .error .numberTooLarge
  | .error .unencodable => .error .unencodableText

/-- The fraction that a marked text or number stands for. -/
def readFraction : Json → Except Error Rat
  | .text value =>
      match Ratio.read? value with
      | some (numerator, denominator) =>
          if denominator = 0 then .error .zeroDivisor
          else .ok (mkRat numerator denominator)
      | none => .error .malformedNumber
  | value => (ofPlain value).toCoefficient

/-- What the members of an object mark; without a mark they are a table. -/
def ofMembers
    (members : List (String × Json)) :
    Except Error Literal :=
  match members.lookup "q", members.lookup "str" with
  | some value, _ => do .ok (.fraction (← readFraction value))
  | none, some value => .ok (ofPlain value)
  | none, none => .ok (.table (ofPlainMembers members))

mutual

/-- A marked value. -/
def ofMarked : Json → Except Error Literal
  | .null => .ok .nothing
  | .boolean value => .ok (.boolean value)
  | .number value => .ok (ofNumber value)
  | .text value => do .ok (.real (← readReal value))
  | .array elements => do .ok (.sequence (← ofMarkedElements elements))
  | .object members => ofMembers members

/-- Marked elements. -/
def ofMarkedElements : List Json → Except Error (List Literal)
  | [] => .ok []
  | value :: rest => do
      let value ← ofMarked value
      let rest ← ofMarkedElements rest
      .ok (value :: rest)

end

end Literal
end Versor
