/-!
# Code points of texts

A text may hold code points that are no characters: one half of a pair of
units without the other half.  A string holds characters only, so such a half
is kept as two of them, a mark and a character that counts the half among all
halves.  The mark, which is the last of all code points, is itself kept as
two marks, so every sequence of code points has one string.
-/

namespace Versor
namespace CodePoint

/-- The first of the code points that are halves of pairs. -/
def firstHalf : Nat := 55296

/-- Number of code points that are halves of pairs. -/
def halfCount : Nat := 2048

/-- The character in front of what is kept as two characters. -/
def mark : Char := Char.ofNat 1114111

/-- Whether a code point is one half of a pair. -/
def isHalf
    (point : Nat) :
    Bool :=
  firstHalf ≤ point && point < firstHalf + halfCount

/-- The characters that a code point is kept as. -/
def characters
    (point : Nat) :
    List Char :=
  if isHalf point then [mark, Char.ofNat (point - firstHalf)]
  else if point = mark.toNat then [mark, mark]
  else [Char.ofNat point]

/-- The code point that is kept as the mark and another character. -/
def behindMark
    (character : Char) :
    Nat :=
  if character.toNat < halfCount then firstHalf + character.toNat
  else character.toNat

/-- The code points that characters are kept for. -/
def ofCharacters : List Char → List Nat
  | first :: second :: rest =>
      if first = mark then behindMark second :: ofCharacters rest
      else first.toNat :: ofCharacters (second :: rest)
  | [last] => [last.toNat]
  | [] => []

/-- The code points of a text. -/
def ofText
    (text : String) :
    List Nat :=
  ofCharacters text.toList

/-- Whether a text holds half a pair, so that it cannot be encoded. -/
def hasHalf
    (text : String) :
    Bool :=
  (ofText text).any isHalf

/-- The text of code points. -/
def toText
    (points : List Nat) :
    String :=
  String.ofList (points.flatMap characters)

/-- The text of characters each of which is a code point. -/
def ofPlain
    (text : String) :
    String :=
  if text.contains mark then toText (text.toList.map Char.toNat) else text

end CodePoint
end Versor
