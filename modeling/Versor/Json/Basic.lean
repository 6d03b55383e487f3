import Versor.Number.Binary

/-!
# JSON values

Objects keep the order of their members.  A number written without a
fraction or an exponent is an integer of any size; every other one is a
double.  The value which is no number is a kind of its own: it carries a
serial number of the reading that produced it, because two of them are the
same value only when they come from the same place.  Text reads all of its
own occurrences under serial number `0`.
-/

namespace Versor

/-- A number in JSON. -/
inductive JsonNumber
  | integer (value : Int)
  | real (value : Float)
  | indefinite (origin : Nat)

/-- A JSON value. -/
inductive Json
  | null
  | boolean (value : Bool)
  | number (value : JsonNumber)
  | text (value : String)
  | array (elements : List Json)
  | object (members : List (String × Json))

namespace JsonNumber

/-- Whether a double is exactly an integer. -/
def isInteger
    (real : Float)
    (value : Int) :
    Bool :=
  ratOfFloat? real == some (value : Rat)

/-- Equality by exact value; the two kinds of numbers mix. -/
def same : JsonNumber → JsonNumber → Bool
  | .integer first, .integer second => first == second
  | .real first, .real second => first == second
  | .integer first, .real second => isInteger second first
  | .real first, .integer second => isInteger first second
  | .indefinite first, .indefinite second => first == second
  | _, _ => false

/-- Whether a number is less than zero. -/
def isNegative : JsonNumber → Bool
  | .integer value => value < 0
  | .real value => value < 0.0
  | .indefinite _ => false

/-- Whether a number is greater than zero. -/
def isPositive : JsonNumber → Bool
  | .integer value => 0 < value
  | .real value => 0.0 < value
  | .indefinite _ => false

/-- Whether a number is equal to zero. -/
def isZero : JsonNumber → Bool
  | .integer value => value == 0
  | .real value => value == 0.0
  | .indefinite _ => false

end JsonNumber

namespace Json

/-- An integer as a value. -/
@[match_pattern]
def integer
    (value : Int) :
    Json :=
  .number (.integer value)

/-- A double as a value. -/
@[match_pattern]
def real
    (value : Float) :
    Json :=
  .number (.real value)

/-- What is no number, as a value. -/
@[match_pattern]
def indefinite
    (origin : Nat) :
    Json :=
  .number (.indefinite origin)

/-- The member of an object with a given name. -/
def member?
    (value : Json)
    (name : String) :
    Option Json :=
  match value with
  | .object members => members.lookup name
  | _ => none

/-- Members with one of them set: in its old place if it was there, else at the end. -/
def setMember
    (members : List (String × Json))
    (name : String)
    (value : Json) :
    List (String × Json) :=
  match members with
  | [] => [(name, value)]
  | (other, old) :: rest =>
      if other = name then (name, value) :: rest
      else (other, old) :: setMember rest name value

/-- Whether a value counts as true: all but zeros and what is empty do. -/
def truth : Json → Bool
  | .null => false
  | .boolean value => value
  | .number value => !value.isZero
  | .text value => value != ""
  | .array elements => !elements.isEmpty
  | .object members => !members.isEmpty

/-- The number that a value counts as: truth values count as one and zero. -/
def toNumber? : Json → Option JsonNumber
  | .number value => some value
  | .boolean value => some (.integer (if value then 1 else 0))
  | _ => none

/-- Equality of two values without parts, by number if they have one. -/
def sameNumber
    (left right : Json) :
    Bool :=
  match left.toNumber?, right.toNumber? with
  | some first, some second => first.same second
  | _, _ => false

mutual

/-- Equality of values; the order of an object's members does not matter. -/
def same : Json → Json → Bool
  | .null, .null => true
  | .text first, .text second => first == second
  | .array first, .array second => sameElements first second
  | .object first, .object second =>
      first.length == second.length && sameMembers first second
  | first, second => sameNumber first second

/-- Equality of arrays, element by element. -/
def sameElements : List Json → List Json → Bool
  | [], [] => true
  | first :: firsts, second :: seconds =>
      same first second && sameElements firsts seconds
  | _, _ => false

/-- Every member of the first object is an equal member of the second one. -/
def sameMembers : List (String × Json) → List (String × Json) → Bool
  | [], _ => true
  | (name, value) :: rest, others =>
      (match others.lookup name with
        | some other => same value other
        | none => false) && sameMembers rest others

end

mutual

/-- Whether arrays and objects are open inside one another at most to a depth. -/
def nestsWithin
    (depth : Nat) :
    Json → Bool
  | .array elements => depth ≠ 0 && elementsNestWithin (depth - 1) elements
  | .object members => depth ≠ 0 && membersNestWithin (depth - 1) members
  | _ => true

/-- Whether all elements of an array nest at most to a depth. -/
def elementsNestWithin
    (depth : Nat) :
    List Json → Bool
  | [] => true
  | first :: rest => nestsWithin depth first && elementsNestWithin depth rest

/-- Whether all members of an object nest at most to a depth. -/
def membersNestWithin
    (depth : Nat) :
    List (String × Json) → Bool
  | [] => true
  | (_, first) :: rest => nestsWithin depth first && membersNestWithin depth rest

end

end Json

end Versor
