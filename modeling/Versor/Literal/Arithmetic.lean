import Versor.Error

/-!
# Arithmetic of literals

Numbers that meet before an expression is involved are combined as they are:
integers and truth values stay exact, a fraction makes the result a fraction
and a double makes it a double.  Two integers divide to the double closest to
their quotient.  The signs of the products of elements act on the binary
digits of integers, negative ones having infinitely many leading ones.
-/

namespace Versor
namespace Literal

/-- The double closest to a rational, which must not be too large. -/
def nearestFloat
    (value : Rat) :
    Except Error Float :=
  match Format.binary64.roundRat? value with
  | some rounded => .ok rounded
  | none => .error .numberTooLarge

/-- The double closest to a number. -/
def toFloat : Literal → Except Error Float
  | .real value => .ok value
  | literal =>
      match literal.rational? with
      | some value => nearestFloat value
      | none => .error .notNumeric

/-- Combine two numbers as integers, as fractions or as doubles. -/
def combine
    (integers : Int → Int → Int)
    (fractions : Rat → Rat → Rat)
    (floats : Float → Float → Float)
    (left right : Literal) :
    Except Error Literal :=
  match left.toInt?, right.toInt? with
  | some first, some second => .ok (.integer (integers first second))
  | _, _ =>
      if !(left.isNumeric && right.isNumeric) then .error .notNumeric
      else if left.isReal || right.isReal then do
        let first ← left.toFloat
        let second ← right.toFloat
        .ok (.real (floats first second))
      else
        match left.rational?, right.rational? with
        | some first, some second => .ok (.fraction (fractions first second))
        | _, _ => .error .notNumeric

/-- Sum; texts and sequences are put one after the other. -/
def add
    (left right : Literal) :
    Except Error Literal :=
  match left, right with
  | .text first, .text second => .ok (.text (first ++ second))
  | .sequence first, .sequence second => .ok (.sequence (first ++ second))
  | left, right => combine (· + ·) (· + ·) (· + ·) left right

/-- Difference. -/
def subtract
    (left right : Literal) :
    Except Error Literal :=
  combine (· - ·) (· - ·) (· - ·) left right

/-- The most members that a text or a sequence may be repeated to. -/
def maxMembers : Nat := twoTo 32

/--
How often something of a length is repeated: not at all for a count below
one, and nothing gets too long; `counted` is the largest length that is
counted up to.
-/
def repetitions
    (counted : Option Nat)
    (length : Nat)
    (count : Int) :
    Except Error Nat :=
  if count < -(twoTo 63 : Int) ∨ (twoTo 63 : Int) ≤ count then .error .numberTooLarge
  else
    let times := if length = 0 then 0 else count.toNat
    if counted.any (· < length * times) then .error .numberTooLarge
    else if maxMembers < length * times then .error .outOfMemory
    else .ok times

/-- A text repeated. -/
def repeatText
    (text : String) :
    Nat → String
  | 0 => ""
  | times + 1 =>
      let half := repeatText text ((times + 1) / 2)
      if (times + 1) % 2 = 0 then half ++ half else half ++ half ++ text
termination_by times => times

/-- A text or a sequence repeated, if it is one. -/
def repeated?
    (literal count : Literal) :
    Option (Except Error Literal) :=
  match literal, count.toInt? with
  | .text value, some count =>
      let length := (CodePoint.ofText value).length
      some ((repetitions (some (twoTo 63 - 1)) length count).map fun times =>
        .text (repeatText value times))
  | .sequence values, some count =>
      some ((repetitions none values.length count).map fun times =>
        .sequence (List.replicate times values).flatten)
  | _, _ => none

/-- Product; an integer repeats a text or a sequence. -/
def multiply
    (left right : Literal) :
    Except Error Literal :=
  match repeated? left right, repeated? right left with
  | some result, _ => result
  | none, some result => result
  | none, none => combine (· * ·) (· * ·) (· * ·) left right

/-- Quotient; nothing is divided by zero, and zero by a negative integer is a negative zero. -/
def divide
    (left right : Literal) :
    Except Error Literal := do
  if !(left.isNumeric && right.isNumeric) then
    throw .notNumeric
  if left.isReal || right.isReal then
    let first ← left.toFloat
    let second ← right.toFloat
    if second == 0.0 then
      throw .zeroDivisor
    return .real (first / second)
  match left.rational?, right.rational? with
  | some first, some second =>
      if second = 0 then
        throw .zeroDivisor
      if (left.toInt?).isSome && (right.toInt?).isSome then
        let quotient ← nearestFloat (first / second)
        return .real (if first = 0 ∧ second < 0 then -quotient else quotient)
      return .fraction (first / second)
  | _, _ => throw .notNumeric

/-- An operation on the binary digits of two integers. -/
def onDigits
    (operation : Nat → Nat → Nat)
    (left right : Int) :
    Int :=
  let length := max (binaryLength left.natAbs) (binaryLength right.natAbs) + 1
  let power := twoTo length
  let digits (value : Int) : Nat := (value % (power : Int)).toNat
  Int.bmod (operation (digits left) (digits right) : Nat) power

/-- Combine two integers digit by digit; two truth values give a truth value. -/
def bitwise
    (operation : Nat → Nat → Nat)
    (left right : Literal) :
    Except Error Literal :=
  match left.toInt?, right.toInt? with
  | some first, some second =>
      let result := onDigits operation first second
      if left.isTruth && right.isTruth then .ok (.boolean (result != 0))
      else .ok (.integer result)
  | _, _ => .error .notNumeric

/-- The members of a table with one of them set; a new one comes last. -/
def setMember
    (name : String)
    (value : Literal) :
    List (String × Literal) → List (String × Literal)
  | [] => [(name, value)]
  | (other, old) :: rest =>
      if other = name then (name, value) :: rest
      else (other, old) :: setMember name value rest

/-- The union of two tables, or integers combined where either has a digit that is set. -/
def unite
    (left right : Literal) :
    Except Error Literal :=
  match left, right with
  | .table first, .table second =>
      .ok (.table (second.foldl (fun members entry => setMember entry.1 entry.2 members) first))
  | _, _ => bitwise Nat.lor left right

/-- A number as the result of an operation; a truth value becomes an integer. -/
def plus
    (literal : Literal) :
    Except Error Literal :=
  match literal.toInt? with
  | some value => .ok (.integer value)
  | none => if literal.isNumeric then .ok literal else .error .notNumeric

/-- The negative of a number. -/
def negate
    (literal : Literal) :
    Except Error Literal := do
  match ← literal.plus with
  | .integer value => return .integer (-value)
  | .real value => return .real (-value)
  | .fraction value => return .fraction (-value)
  | _ => throw .notNumeric

/-- The integer with the opposite binary digits. -/
def invert
    (literal : Literal) :
    Except Error Literal :=
  match literal.toInt? with
  | some value => .ok (.integer (-value - 1))
  | none => .error .notNumeric

end Literal
end Versor
