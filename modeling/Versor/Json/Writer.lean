import Versor.CodePoint
import Versor.Json.Basic
import Versor.Number.Shortest

/-!
# Writing JSON

Text outside the printable ASCII range is written with escapes, a character
beyond the basic plane as a pair of them.  `render` leaves out all white
space; `renderIndented` puts every element and member on a line of its own.
-/

namespace Versor
namespace Json

/-- Four hexadecimal digits after the mark of an escape. -/
def escapeUnit
    (unit : Nat) :
    String :=
  "\\u" ++ NumberLayout.padded 4 (String.ofList (Nat.toDigits 16 unit))

/-- A code point of a text, escaped where it has to be. -/
def escapePoint
    (code : Nat) :
    String :=
  if code = '"'.toNat then "\\\""
  else if code = '\\'.toNat then "\\\\"
  else if code = '\n'.toNat then "\\n"
  else if code = '\r'.toNat then "\\r"
  else if code = '\t'.toNat then "\\t"
  else if code = 8 then "\\b"
  else if code = 12 then "\\f"
  else if 32 ≤ code ∧ code ≤ 126 then (Char.ofNat code).toString
  else if code < 65536 then escapeUnit code
  else
    escapeUnit (55296 + (code - 65536) / 1024) ++
      escapeUnit (56320 + (code - 65536) % 1024)

/-- A text in quotes. -/
def renderText
    (value : String) :
    String :=
  "\"" ++ String.join ((CodePoint.ofText value).map escapePoint) ++ "\""

/-- A number. -/
def renderNumber : JsonNumber → String
  | .integer value => toString value
  | .real value => NumberLayout.interchange.render value
  | .indefinite _ => NumberLayout.interchange.indefinite

/-- A value without parts. -/
def renderAtom : Json → String
  | .null => "null"
  | .boolean value => if value then "true" else "false"
  | .number value => renderNumber value
  | .text value => renderText value
  | .array _ => "[]"
  | .object _ => "\x7b\x7d"

mutual

/-- A value on one line, without white space. -/
def render : Json → String
  | .array elements => "[" ++ ",".intercalate (renderElements elements) ++ "]"
  | .object members =>
      "\x7b" ++ ",".intercalate (renderMembers members) ++ "\x7d"
  | value => renderAtom value

/-- The elements of an array. -/
def renderElements : List Json → List String
  | [] => []
  | value :: rest => render value :: renderElements rest

/-- The members of an object. -/
def renderMembers : List (String × Json) → List String
  | [] => []
  | (name, value) :: rest =>
      (renderText name ++ ":" ++ render value) :: renderMembers rest

end

/-- A new line at some depth, two blanks for each level. -/
def lineBreak
    (depth : Nat) :
    String :=
  "\n" ++ String.ofList (List.replicate (2 * depth) ' ')

/-- Parts between brackets, each on a line of its own. -/
def block
    (opening closing : String)
    (depth : Nat)
    (parts : List String) :
    String :=
  match parts with
  | [] => opening ++ closing
  | _ =>
      opening ++
        ",".intercalate (parts.map fun part => lineBreak (depth + 1) ++ part) ++
        lineBreak depth ++ closing

mutual

/-- A value over several lines, starting at some depth. -/
def renderAt
    (depth : Nat) :
    Json → String
  | .array elements => block "[" "]" depth (renderElementsAt (depth + 1) elements)
  | .object members =>
      block "\x7b" "\x7d" depth (renderMembersAt (depth + 1) members)
  | value => renderAtom value

/-- The elements of an array over several lines. -/
def renderElementsAt
    (depth : Nat) :
    List Json → List String
  | [] => []
  | value :: rest => renderAt depth value :: renderElementsAt depth rest

/-- The members of an object over several lines. -/
def renderMembersAt
    (depth : Nat) :
    List (String × Json) → List String
  | [] => []
  | (name, value) :: rest =>
      (renderText name ++ ": " ++ renderAt depth value) ::
        renderMembersAt depth rest

end

/-- A value over several lines. -/
def renderIndented
    (value : Json) :
    String :=
  renderAt 0 value

end Json
end Versor
