import Versor.CodePoint
import Versor.Literal.Printable
import Versor.Number.Ratio
import Versor.Number.Shortest
import Versor.Spelling

/-!
# Literals

A literal is a value as a caller hands it over, before it is known to be the
kind of number that an operation wants: an integer of any size, a double, an
exact fraction, or something that is no number at all.  `Literal.render` is
its text in messages, and `Literal.rational?` the rational that it is equal to.
-/

namespace Versor

/-- A value as handed over by a caller. -/
inductive Literal
  | nothing
  | boolean (value : Bool)
  | integer (value : Int)
  | real (value : Float)
  | fraction (value : Rat)
  | text (value : String)
  | sequence (values : List Literal)
  | table (members : List (String × Literal))

namespace Literal

/-- The escape of a character by its code point, with as few digits as its size allows. -/
def escapeCode
    (code : Nat) :
    String :=
  let digits := String.ofList (Nat.toDigits 16 code)
  if code < 256 then "\\x" ++ NumberLayout.padded 2 digits
  else if code < 65536 then "\\u" ++ NumberLayout.padded 4 digits
  else "\\U" ++ NumberLayout.padded 8 digits

/-- A code point inside quotes. -/
def quotedPoint
    (quote : Char)
    (code : Nat) :
    String :=
  if code = quote.toNat ∨ code = '\\'.toNat then
    "\\" ++ (Char.ofNat code).toString
  else if code = '\n'.toNat then "\\n"
  else if code = '\r'.toNat then "\\r"
  else if code = '\t'.toNat then "\\t"
  else if Printable.isVisible code then (Char.ofNat code).toString
  else escapeCode code

/-- A text in single quotes, or in double quotes when it holds single quotes only. -/
def quoted
    (value : String) :
    String :=
  let points := CodePoint.ofText value
  let quote :=
    if '\''.toNat ∈ points ∧ '"'.toNat ∉ points then '"' else '\''
  quote.toString ++ String.join (points.map (quotedPoint quote)) ++ quote.toString

mutual

/-- Text of a literal in messages. -/
def render : Literal → String
  | .nothing => "None"
  | .boolean value => if value then "True" else "False"
  | .integer value => toString value
  | .real value => NumberLayout.plain.render value
  | .fraction value =>
      "Fraction(" ++ toString value.num ++ ", " ++ toString value.den ++ ")"
  | .text value => quoted value
  | .sequence values => "[" ++ ", ".intercalate (renderAll values) ++ "]"
  | .table members => "\x7b" ++ ", ".intercalate (renderMembers members) ++ "\x7d"

/-- Texts of several literals. -/
def renderAll : List Literal → List String
  | [] => []
  | value :: rest => render value :: renderAll rest

/-- Texts of the members of a table. -/
def renderMembers : List (String × Literal) → List String
  | [] => []
  | (name, value) :: rest =>
      (quoted name ++ ": " ++ render value) :: renderMembers rest

end

/-- Text of a literal without quotes around it. -/
def shown : Literal → String
  | .text value => value
  | literal => literal.render

/-- Text of several literals in parentheses: a single one keeps its comma. -/
def renderTuple
    (values : List Literal) :
    String :=
  match values with
  | [value] => "(" ++ render value ++ ",)"
  | _ => "(" ++ ", ".intercalate (renderAll values) ++ ")"

/-- The name of a literal's kind in messages. -/
def kindName : Literal → String
  | .nothing => "NoneType"
  | .boolean _ => "bool"
  | .integer _ => "int"
  | .real _ => "float"
  | .fraction _ => "Fraction"
  | .text _ => "str"
  | .sequence _ => "list"
  | .table _ => "dict"

/-- Integers count as such, and truth values as `0` and `1`. -/
def toInt? : Literal → Option Int
  | .integer value => some value
  | .boolean value => some (if value then 1 else 0)
  | _ => none

/-- Whether a literal is a number or a truth value, which can be compared with numbers. -/
def isNumeric : Literal → Bool
  | .boolean _ | .integer _ | .real _ | .fraction _ => true
  | _ => false

mutual

/-- Whether a literal has a text: no integer in it has too many digits. -/
def isPrintable : Literal → Bool
  | .integer value => isShortInteger value
  | .fraction value => isShortInteger value.num && isShortInteger value.den
  | .sequence values => arePrintable values
  | .table members => areMembersPrintable members
  | _ => true

/-- Whether several literals have texts. -/
def arePrintable : List Literal → Bool
  | [] => true
  | value :: rest => isPrintable value && arePrintable rest

/-- Whether the members of a table have texts. -/
def areMembersPrintable : List (String × Literal) → Bool
  | [] => true
  | (_, value) :: rest => isPrintable value && areMembersPrintable rest

end

/-- Whether a literal is an integer, truth values not being counted as such. -/
def isInteger : Literal → Bool
  | .integer _ => true
  | _ => false

/-- Whether a literal is a double. -/
def isReal : Literal → Bool
  | .real _ => true
  | _ => false

/-- Whether a literal is a truth value. -/
def isTruth : Literal → Bool
  | .boolean _ => true
  | _ => false

/-- How several integers were given. -/
def spelling
    (literals : List Literal) :
    Spelling :=
  .ofFlags (literals.map isTruth)

/-- An integer as it was given. -/
def given
    (isTruth : Bool)
    (value : Nat) :
    Literal :=
  if isTruth then .boolean (value != 0) else .integer value

/-- Several integers as they were given. -/
def spelled
    (spelling : Spelling)
    (values : List Nat) :
    List Literal :=
  values.mapIdx fun place value => given (spelling.contains place) value

/-- The rational that a literal is equal to, if there is one. -/
def rational? : Literal → Option Rat
  | .boolean value => some (if value then 1 else 0)
  | .integer value => some value
  | .real value => ratOfFloat? value
  | .fraction value => some value
  | _ => none

end Literal

end Versor
