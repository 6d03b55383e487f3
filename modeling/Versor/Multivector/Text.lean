import Versor.Multivector.Spelled

/-!
# Text of multivectors

A multivector reads as a sum of terms such as `-x0*x3 e12 + 1/2 e0123`: a
coefficient of one is left out in front of indeterminates, a coefficient of
minus one there becomes a sign, and a sum with a negative term reads as a
difference.
-/

namespace Versor
namespace SpelledMultivector

/-- Text of one entry. -/
def renderEntry
    (algebra : Algebra)
    (spelled : SpelledEntry) :
    Except Error String := do
  if !Literal.arePrintable spelled.ids then
    throw .integerTooLarge
  let slots := spelled.ids.map fun id => "x" ++ id.render
  let value? := spelled.coefficient.rational?
  let factors ←
    if value? = some (-1) ∧ slots ≠ [] then
      Except.ok ("-" ++ "*".intercalate slots)
    else if value? ≠ some 1 ∨ slots = [] then do
      let coefficient ← spelled.renderCoefficient
      Except.ok ("*".intercalate (coefficient :: slots))
    else Except.ok ("*".intercalate slots)
  .ok (factors ++ " " ++ algebra.bladeName spelled.entry.blade)

/-- Text of an entry behind another one, given its own text. -/
def joinFollowing
    (text : String) :
    String :=
  match text.toList with
  | '-' :: rest => " - " ++ String.ofList rest
  | rest => " + " ++ String.ofList rest

/-- Text of a multivector. -/
def format
    (element : SpelledMultivector) :
    Except Error String := do
  match ← (← element.entries).mapM (renderEntry element.value.algebra) with
  | [] => return "0"
  | first :: rest => return first ++ String.join (rest.map joinFollowing)

/-- Text of a multivector with its kind. -/
def render
    (element : SpelledMultivector) :
    Except Error String := do
  let text ← element.format
  .ok ("Multivector(" ++ text ++ ")")

end SpelledMultivector
end Versor
