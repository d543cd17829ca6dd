/-!
# Scanners

A scanner takes something off the front of a text. It returns what it found together with the rest
and the fact that the rest is shorter, so that a loop over scanners ends by the length of what
remains. The operations on results keep that fact, and scanners built from them need no proofs of
their own.
-/

namespace CoffeeTree.Text

theorem length_dropWhile_le {p : Char → Bool} (text : List Char) :
    (text.dropWhile p).length ≤ text.length :=
  (List.dropWhile_suffix p).length_le

theorem length_drop_le (n : Nat) (text : List Char) : (text.drop n).length ≤ text.length :=
  (List.drop_suffix n text).length_le

/-- What a scanner found, and what it left of a text with `bound` characters. -/
structure Scanned (α : Type) (bound : Nat) where
  value : α
  rest : List Char
  shorter : rest.length < bound

namespace Scanned

variable {α β : Type} {n m : Nat}

/-- Something that was found just before `rest`. -/
def here (value : α) (rest : List Char) : Scanned α (rest.length + 1) :=
  ⟨value, rest, Nat.lt_succ_self _⟩

/-- Changes what was found. -/
def map (f : α → β) (s : Scanned α n) : Scanned β n := ⟨f s.value, s.rest, s.shorter⟩

/-- The same, in a text that is no shorter. -/
def weaken (h : n ≤ m) (s : Scanned α n) : Scanned α m :=
  ⟨s.value, s.rest, Nat.lt_of_lt_of_le s.shorter h⟩

/-- The same, in a text that starts `k` characters earlier. -/
def back (k : Nat) (s : Scanned α n) : Scanned α (n + k) := s.weaken (Nat.le_add_right n k)

/-- What was found behind something else. -/
def after (s : Scanned α n) (t : Scanned β s.rest.length) : Scanned β n :=
  t.weaken (Nat.le_of_lt s.shorter)

/-- Passes over the characters that satisfy `p`. -/
def skip (p : Char → Bool) (s : Scanned α n) : Scanned α n :=
  ⟨s.value, s.rest.dropWhile p, Nat.lt_of_le_of_lt (length_dropWhile_le s.rest) s.shorter⟩

/-- Passes over one given character, which has to be there. -/
def drop? (c : Char) : Scanned α n → Option (Scanned α n)
  | ⟨_, [], _⟩ => none
  | ⟨value, d :: rest, shorter⟩ =>
    if d = c then some ⟨value, rest, Nat.lt_of_succ_lt shorter⟩ else none

end Scanned

/-- One given character. -/
def scanChar? (c : Char) : (text : List Char) → Option (Scanned Unit text.length)
  | [] => none
  | d :: rest => if d = c then some (.here () rest) else none

end CoffeeTree.Text
