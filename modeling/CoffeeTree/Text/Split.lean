import CoffeeTree.Text.Blank

/-!
# Splitting a text

The pieces of a text between separators. There is one piece more than there are separators, so a
text without separators is one piece, also if it is empty.
-/

namespace CoffeeTree.Text

/-- The pieces of a text between the characters that satisfy `p`. -/
def split (p : Char → Bool) : List Char → List (List Char)
  | [] => [[]]
  | c :: rest =>
    if p c then [] :: split p rest
    else
      match split p rest with
      | [] => [[c]]
      | piece :: pieces => (c :: piece) :: pieces

/-- The words of a text, which blanks divide. -/
def splitBlanks (text : List Char) : List (List Char) := (split isBlank text).filter (!·.isEmpty)

end CoffeeTree.Text
