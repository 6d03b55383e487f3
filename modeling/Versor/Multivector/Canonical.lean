import Versor.Multivector.Basic

/-!
# Canonical form

Entries are ordered by blade, then by the number of their ids, then by the
ids.  A canonical list is strictly ascending in this order and has no zero
coefficient, so it is a polynomial written in one way only.  `mergeEntries`
adds two such lists, and the canonical form of any list is the sum of its
members, taken pairwise so that the work stays close to linear.
-/

namespace Versor
namespace Entry

/-- Lexicographic order of id lists. -/
def compareIds : List SourceId → List SourceId → Ordering
  | [], [] => .eq
  | [], _ :: _ => .lt
  | _ :: _, [] => .gt
  | first :: firsts, second :: seconds =>
      (compareOfLessAndEq first second).then (compareIds firsts seconds)

/-- The order of entries: blade, number of ids, ids. -/
def order
    (left right : Entry) :
    Ordering :=
  (compare left.blade right.blade).then
    ((compare left.ids.length right.ids.length).then
      (compareIds left.ids right.ids))

end Entry

/--
Put one entry into a canonical list; `rest` goes on with what remains of the
list behind the place of the entry.
-/
def mergeEntry
    (entry : Entry)
    (rest : List Entry → List Entry) :
    List Entry → List Entry
  | [] => entry :: rest []
  | other :: others =>
      match entry.order other with
      | .lt => entry :: rest (other :: others)
      | .gt => other :: mergeEntry entry rest others
      | .eq =>
          let total := entry.value + other.value
          if total = 0 then rest others
          else { entry with value := total } :: rest others

/-- The sum of two canonical lists. -/
def mergeEntries : List Entry → List Entry → List Entry
  | [] => fun others => others
  | entry :: entries => mergeEntry entry (mergeEntries entries)

/-- The canonical list of one entry. -/
def singleEntry
    (entry : Entry) :
    List Entry :=
  if entry.value = 0 then [] else [entry]

/-- Add neighbouring lists in pairs. -/
def mergePairs : List (List Entry) → List (List Entry)
  | first :: second :: rest => mergeEntries first second :: mergePairs rest
  | lists => lists

/-- The sum of canonical lists, after some rounds of adding neighbours. -/
def mergeRounds
    (rounds : Nat)
    (lists : List (List Entry)) :
    List Entry :=
  match rounds, lists with
  | _, [] => []
  | _, [single] => single
  | 0, lists => lists.foldr mergeEntries []
  | rounds + 1, lists => mergeRounds rounds (mergePairs lists)

/-- The canonical list with the same sum as a list of entries with sorted ids. -/
def canonicalEntries
    (entries : List Entry) :
    List Entry :=
  mergeRounds entries.length (entries.map singleEntry)

namespace Multivector

/--
The canonical form of a multivector: like monomials on a blade merged, zeros
dropped, and the terms in the order of entries.
-/
def canonicalize
    (element : Multivector) :
    Multivector :=
  ofEntries element.algebra (canonicalEntries element.entries)

end Multivector
end Versor
