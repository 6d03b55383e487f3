import Versor.CodePoint
import Versor.Error
import Versor.Json.Basic
import Versor.Number.Ratio

/-!
# Reading JSON

The reader takes standard JSON and the names `NaN`, `Infinity` and
`-Infinity`.  Of two members with one name the later value wins and the
earlier place is kept.  A decimal number becomes the nearest double.  Arrays
and objects may stand inside one another only to a certain depth, and a text
that goes deeper is refused where it does.  The readers of nested values are
bounded by a fuel that `read` takes from the length of the text: every call
of one of them uses up a character or hands the same characters to a reader
that does.
-/

namespace Versor
namespace Json

/-- How many arrays and objects may be open at once. -/
def maxDepth : Nat := 988

/-- White space between tokens. -/
def isBlank
    (character : Char) :
    Bool :=
  character = ' ' ∨ character = '\t' ∨ character = '\n' ∨ character = '\r'

/-- The text from its first character that is not white space. -/
def skipBlanks
    (characters : List Char) :
    List Char :=
  characters.dropWhile isBlank

/-- The value of a hexadecimal digit in an escape. -/
def unitDigit?
    (character : Char) :
    Option Nat :=
  let code := character.toNat
  if 48 ≤ code ∧ code ≤ 57 then some (code - 48)
  else if 97 ≤ code ∧ code ≤ 102 then some (code - 87)
  else if 65 ≤ code ∧ code ≤ 70 then some (code - 55)
  else none

/-- Four hexadecimal digits and the text after them. -/
def readUnit?
    (characters : List Char) :
    Option (Nat × List Char) :=
  match characters with
  | first :: second :: third :: fourth :: rest =>
      match [first, second, third, fourth].mapM unitDigit? with
      | some digits =>
          some (digits.foldl (fun total digit => 16 * total + digit) 0, rest)
      | none => none
  | _ => none

/-- The character of an escape that is not a number. -/
def simpleEscape?
    (character : Char) :
    Option Char :=
  match character with
  | '"' => some '"'
  | '\\' => some '\\'
  | '/' => some '/'
  | 'b' => some (Char.ofNat 8)
  | 'f' => some (Char.ofNat 12)
  | 'n' => some '\n'
  | 'r' => some '\r'
  | 't' => some '\t'
  | _ => none

/-- The code point of a numeric escape, a pair of which may stand for one character. -/
def readEscape?
    (characters : List Char) :
    Option (Nat × List Char) :=
  match readUnit? characters with
  | none => none
  | some (unit, rest) =>
      if 55296 ≤ unit ∧ unit < 56320 then
        match rest with
        | '\\' :: 'u' :: low =>
            match readUnit? low with
            | some (second, after) =>
                if 56320 ≤ second ∧ second < 57344 then
                  some
                    (65536 + (unit - 55296) * 1024 + (second - 56320), after)
                else some (unit, rest)
            | none => none
        | _ => some (unit, rest)
      else some (unit, rest)

/-- The rest of a text after its opening quote. -/
def readCharacters
    (fuel : Nat)
    (collected : List Nat)
    (characters : List Char) :
    Except Error (String × List Char) :=
  match fuel with
  | 0 => .error .malformedText
  | fuel + 1 =>
      match characters with
      | [] => .error .malformedText
      | '"' :: rest => .ok (CodePoint.toText collected.reverse, rest)
      | '\\' :: 'u' :: rest =>
          match readEscape? rest with
          | some (point, after) => readCharacters fuel (point :: collected) after
          | none => .error .malformedText
      | '\\' :: character :: rest =>
          match simpleEscape? character with
          | some escaped =>
              readCharacters fuel (escaped.toNat :: collected) rest
          | none => .error .malformedText
      | character :: rest =>
          if character = CodePoint.mark then
            match rest with
            | second :: after =>
                readCharacters fuel (CodePoint.behindMark second :: collected) after
            | [] => .error .malformedText
          else if character.toNat < 32 ∨ character = '\\' then
            .error .malformedText
          else readCharacters fuel (character.toNat :: collected) rest

/-- The number that ASCII digits stand for. -/
def digitsValue
    (digits : List Char) :
    Nat :=
  digits.foldl (fun total digit => 10 * total + (digit.toNat - 48)) 0

/-- The double nearest to `digits * 10 ^ exponent`, infinite when too large. -/
def decimalFloat
    (negative : Bool)
    (digits : Nat)
    (exponent : Int) :
    Float :=
  let length := (Nat.toDigits 10 digits).length
  let magnitude : Float :=
    if digits = 0 ∨ exponent + (length : Int) < -400 then 0.0
    else if 400 < exponent + (length : Int) then 1.0 / 0.0
    else
      let value : Rat :=
        if exponent < 0 then mkRat (digits : Int) (tenTo (-exponent).toNat)
        else ((digits * tenTo exponent.toNat : Nat) : Rat)
      (Format.binary64.roundRat? value).getD (1.0 / 0.0)
  if negative then -magnitude else magnitude

/-- The exponent of a number, if it has one, and the text after it. -/
def readExponent
    (characters : List Char) :
    Option Int × List Char :=
  let unsigned (negative : Bool) (rest : List Char) : Option (Int × List Char) :=
    match rest.takeWhile Char.isDigit with
    | [] => none
    | digits =>
        let value : Int := digitsValue digits
        some (if negative then -value else value, rest.dropWhile Char.isDigit)
  let signed (rest : List Char) : Option (Int × List Char) :=
    match rest with
    | '-' :: after => unsigned true after
    | '+' :: after => unsigned false after
    | after => unsigned false after
  match characters with
  | mark :: rest =>
      if mark = 'e' ∨ mark = 'E' then
        match signed rest with
        | some (value, after) => (some value, after)
        | none => (none, characters)
      else (none, characters)
  | [] => (none, [])

/-- The fraction digits of a number, none if there is no fraction, and the text after it. -/
def readFraction
    (characters : List Char) :
    List Char × List Char :=
  match characters with
  | '.' :: rest =>
      match rest.takeWhile Char.isDigit with
      | [] => ([], characters)
      | digits => (digits, rest.dropWhile Char.isDigit)
  | _ => ([], characters)

/-- A number without its sign. -/
def readMagnitude
    (negative : Bool)
    (characters : List Char) :
    Except Error (Json × List Char) :=
  let whole? : Option (List Char × List Char) :=
    match characters with
    | '0' :: rest => some (['0'], rest)
    | _ =>
        match characters.takeWhile Char.isDigit with
        | [] => none
        | digits => some (digits, characters.dropWhile Char.isDigit)
  match whole? with
  | none => .error .malformedText
  | some (whole, afterWhole) =>
      let (fraction, afterFraction) := readFraction afterWhole
      let (exponent?, rest) := readExponent afterFraction
      match fraction, exponent? with
      | [], none =>
          let value : Int := digitsValue whole
          if maxIntegerDigits < whole.length then .error .integerTooLarge
          else .ok (.integer (if negative then -value else value), rest)
      | _, _ =>
          let exponent := exponent?.getD 0 - (fraction.length : Int)
          .ok
            (.real (decimalFloat negative (digitsValue (whole ++ fraction)) exponent),
              rest)

/-- The text after a given word. -/
def afterWord?
    (word : String)
    (characters : List Char) :
    Option (List Char) :=
  let letters := word.toList
  if letters.isPrefixOf characters then some (characters.drop letters.length)
  else none

/-- A value that is written as a word. -/
def readWord?
    (characters : List Char) :
    Option (Json × List Char) :=
  let word (name : String) (value : Json) : Option (Json × List Char) :=
    (afterWord? name characters).map fun rest => (value, rest)
  word "null" .null
    <|> word "true" (.boolean true)
    <|> word "false" (.boolean false)
    <|> word "NaN" (.indefinite 0)
    <|> word "Infinity" (.real (1.0 / 0.0))
    <|> word "-Infinity" (.real (-1.0 / 0.0))

/-- A value without parts other than a text. -/
def readAtom
    (characters : List Char) :
    Except Error (Json × List Char) :=
  match readWord? characters with
  | some found => .ok found
  | none =>
      match characters with
      | '-' :: rest => readMagnitude true rest
      | rest => readMagnitude false rest

mutual

/-- A value at the start of a text, with room for `depth` open arrays and objects. -/
def readValue
    (fuel depth : Nat)
    (characters : List Char) :
    Except Error (Json × List Char) :=
  match fuel with
  | 0 => .error .malformedText
  | fuel + 1 =>
      match characters, depth with
      | '"' :: rest, _ => do
          let (value, after) ← readCharacters (rest.length + 1) [] rest
          .ok (.text value, after)
      | '[' :: _, 0 => .error .nestedTooDeeply
      | '[' :: rest, depth + 1 =>
          match skipBlanks rest with
          | ']' :: after => .ok (.array [], after)
          | inner => readElements fuel depth [] inner
      | '\x7b' :: _, 0 => .error .nestedTooDeeply
      | '\x7b' :: rest, depth + 1 =>
          match skipBlanks rest with
          | '\x7d' :: after => .ok (.object [], after)
          | inner => readMembers fuel depth [] inner
      | _, _ => readAtom characters

/-- The elements of an array that has some, up to its closing bracket. -/
def readElements
    (fuel depth : Nat)
    (collected : List Json)
    (characters : List Char) :
    Except Error (Json × List Char) :=
  match fuel with
  | 0 => .error .malformedText
  | fuel + 1 => do
      let (value, rest) ← readValue fuel depth characters
      match skipBlanks rest with
      | ',' :: after => readElements fuel depth (value :: collected) (skipBlanks after)
      | ']' :: after => .ok (.array (value :: collected).reverse, after)
      | _ => .error .malformedText

/-- The members of an object that has some, up to its closing bracket. -/
def readMembers
    (fuel depth : Nat)
    (collected : List (String × Json))
    (characters : List Char) :
    Except Error (Json × List Char) :=
  match fuel with
  | 0 => .error .malformedText
  | fuel + 1 =>
      match characters with
      | '"' :: quoted => do
          let (name, rest) ← readCharacters (quoted.length + 1) [] quoted
          match skipBlanks rest with
          | ':' :: after =>
              let (value, rest) ← readValue fuel depth (skipBlanks after)
              let members := setMember collected name value
              match skipBlanks rest with
              | ',' :: after => readMembers fuel depth members (skipBlanks after)
              | '\x7d' :: after => .ok (.object members, after)
              | _ => .error .malformedText
          | _ => .error .malformedText
      | _ => .error .malformedText

end

/-- The value that a whole text stands for. -/
def read
    (text : String) :
    Except Error Json := do
  let characters := skipBlanks text.toList
  let (value, rest) ← readValue (2 * characters.length + 2) maxDepth characters
  if (skipBlanks rest).isEmpty then .ok value else .error .malformedText

end Json
end Versor
