import CoffeeTree.Literal.Quoted
import Mathlib.Algebra.Group.Nat.Defs
import Mathlib.Data.List.Chain
import Mathlib.Tactic.MkIffOfInductiveProp

/-!
# Decoding strings

The text between the quotes of a literal is a sequence of *pieces* (`Literal.Piece`): characters
that stand for themselves, escapes, and backslashes that mean nothing. Each has a spelling and a
meaning, and a literal is meant to denote the meanings of its pieces, one after the other.

The decoder does not look for pieces. It removes the backslashes that mean nothing from the whole
literal, and then reads what is left by other rules. So the proof follows the pieces through each of
its steps: the first stage leaves them as they are but for those backslashes
(`dropUnknownEscapes_quoted`), the scanner takes exactly them (`Scans.flatMap`), and the second
stage gives their meanings (`unescape?_flatMap`).

Only the last step can go wrong, and only in one way. A zero behind a backslash takes up to two
octal digits that follow it, and a digit that has lost its backslash is such a digit. If no zero
stands before an octal digit, then a literal denotes what its pieces mean (`string?_quoted`);
otherwise the zero and the digit become one character (`string?_quoted_zero_digit`).
-/

namespace CoffeeTree

namespace Text

/-! ### Numerals and code points -/

/-- A digit is smaller than its base. -/
theorem digitIn?_lt {base n : Nat} {c : Char} (h : digitIn? base c = some n) : n < base := by
  obtain ⟨-, hlt⟩ := Option.filter_eq_some_iff.1 h
  exact of_decide_eq_true hlt

/-- What the digits of a numeral make of the number that was read before them. -/
theorem foldlM_digits_lt {base n k : Nat} {digits : List Char}
    (h : digits.foldlM (fun n c ↦ (digitIn? base c).map (base * n + ·)) k = some n) :
    n < (k + 1) * base ^ digits.length := by
  induction digits generalizing k with
  | nil =>
    obtain rfl : k = n := Option.some.inj h
    simp
  | cons c rest ih =>
    obtain ⟨next, hnext, hrest⟩ := Option.bind_eq_some_iff.1 h
    obtain ⟨digit, hdigit, rfl⟩ := Option.map_eq_some_iff.1 hnext
    have hlt := digitIn?_lt hdigit
    calc n < (base * k + digit + 1) * base ^ rest.length := ih hrest
      _ ≤ (base * k + base) * base ^ rest.length := Nat.mul_le_mul_right _ (by omega)
      _ = (k + 1) * base * base ^ rest.length := by rw [Nat.mul_comm base k, Nat.succ_mul]
      _ = (k + 1) * base ^ (c :: rest).length := by
        rw [List.length_cons, Nat.pow_succ', Nat.mul_assoc]

/-- So a numeral with a few digits has a small value, which bounds the codes of escapes. -/
theorem numeral?_lt {base n : Nat} {digits : List Char} (h : numeral? base digits = some n) :
    n < base ^ digits.length := by
  simpa using foldlM_digits_lt h

theorem exists_digit_of_foldlM {base n k : Nat} {digits : List Char}
    (h : digits.foldlM (fun n c ↦ (digitIn? base c).map (base * n + ·)) k = some n) :
    ∀ c ∈ digits, ∃ digit, digitIn? base c = some digit := by
  induction digits generalizing k with
  | nil => exact fun c hc ↦ absurd hc List.not_mem_nil
  | cons c rest ih =>
    obtain ⟨next, hnext, hrest⟩ := Option.bind_eq_some_iff.1 h
    obtain ⟨digit, hdigit, -⟩ := Option.map_eq_some_iff.1 hnext
    exact List.forall_mem_cons.2 ⟨⟨digit, hdigit⟩, ih hrest⟩

/-- Whatever is read as a numeral consists of digits. -/
theorem exists_digit_of_numeral? {base n : Nat} {digits : List Char}
    (h : numeral? base digits = some n) : ∀ c ∈ digits, ∃ digit, digitIn? base c = some digit :=
  exists_digit_of_foldlM h

/-- The code of a character is read as that character: it is never half of a surrogate pair. -/
theorem scalar?_toNat (surrogates : Surrogates) (c : Char) :
    scalar? surrogates c.toNat = some c := by
  have hvalid : c.toNat.isValidChar := c.valid
  unfold scalar?
  rw [if_neg (by omega), if_pos (by omega), Char.ofNat_toNat]

/-- The code points of characters denote these characters, as none of them is half of a surrogate
pair. -/
theorem charsOfUnits16_map_toNat (surrogates : Surrogates) (chars : List Char) :
    charsOfUnits16 surrogates (chars.map Char.toNat) = some chars := by
  induction chars with
  | nil => rfl
  | cons c rest ih =>
    rcases rest with _ | ⟨d, rest⟩
    · rw [List.map_cons, List.map_nil, charsOfUnits16, scalar?_toNat]
      rfl
    · have hvalid : c.toNat.isValidChar := c.valid
      rw [List.map_cons, List.map_cons, charsOfUnits16, if_neg (by omega), scalar?_toNat,
        ← List.map_cons, ih]
      rfl

/-- Without a carriage return there is no line end to unify. -/
theorem unifyLineEnds_of_not_mem {text : List Char} (h : '\r' ∉ text) :
    unifyLineEnds text = text := by
  induction text with
  | nil => rfl
  | cons c rest ih =>
    obtain ⟨hne, hrest⟩ := not_or.1 (mt List.mem_cons.2 h)
    have hc : c ≠ '\r' := Ne.symm hne
    rw [unifyLineEnds, ih hrest]
    · exact fun _ hc' _ ↦ hc hc'
    · exact hc

end Text

namespace Literal

/-! ### Pieces -/

/-- What a character stands for behind a backslash, if that is one character. -/
def escaped? : Char → Option Char
  | 'b' => some '\x08'
  | 'f' => some '\x0c'
  | 'n' => some '\n'
  | 'r' => some '\r'
  | 't' => some '\t'
  | 'v' => some '\x0b'
  | '\'' => some '\''
  | '"' => some '"'
  | '\\' => some '\\'
  | _ => none

/-- A character that stands for itself between quotes. -/
@[mk_iff]
structure IsPlain (quote c : Char) : Prop where
  ne_quote : c ≠ quote
  ne_backslash : c ≠ '\\'
  ne_feed : c ≠ '\n'
  ne_return : c ≠ '\r'
  ne_nul : c ≠ '\x00'

instance (quote c : Char) : Decidable (IsPlain quote c) := decidable_of_iff' _ (isPlain_iff quote c)

/-- A character that does not give a meaning to a backslash before it. -/
@[mk_iff]
structure IsUnknown (c : Char) : Prop where
  not_known : isKnownEscape c = false
  ne_return : c ≠ '\r'
  ne_nul : c ≠ '\x00'

instance (c : Char) : Decidable (IsUnknown c) := decidable_of_iff' _ (isUnknown_iff c)

/-- A unit of the text between two quotes. -/
inductive Piece (quote : Char) where
  /-- A character that stands for itself. -/
  | plain (c : Char) (isPlain : IsPlain quote c)
  /-- A backslash and a letter, a quote or a backslash. -/
  | escape (mark meaning : Char) (escaped : escaped? mark = some meaning)
  /-- A line that goes on behind a backslash. -/
  | joint
  /-- A character by two hexadecimal digits. -/
  | byte (digits : List Char) (code : Nat) (length_eq : digits.length = 2)
      (denotes : Text.numeral? 16 digits = some code)
  /-- A character by four hexadecimal digits. -/
  | unicode (digits : List Char) (code : Nat) (length_eq : digits.length = 4)
      (denotes : Text.numeral? 16 digits = some code)
      (not_surrogate : code < 0xD800 ∨ 0xDFFF < code)
  /-- The character with the code zero. -/
  | zero
  /-- A backslash that means nothing. -/
  | unknown (c : Char) (isUnknown : IsUnknown c)

namespace Piece

variable {quote : Char}

def spelling : Piece quote → List Char
  | plain c _ => [c]
  | escape mark _ _ => ['\\', mark]
  | joint => ['\\', '\n']
  | byte digits _ _ _ => '\\' :: 'x' :: digits
  | unicode digits _ _ _ _ => '\\' :: 'u' :: digits
  | zero => ['\\', '0']
  | unknown c _ => ['\\', c]

def meaning : Piece quote → List Char
  | plain c _ => [c]
  | escape _ meaning _ => [meaning]
  | joint => []
  | byte _ code _ _ => [Char.ofNat code]
  | unicode _ code _ _ _ => [Char.ofNat code]
  | zero => ['\x00']
  | unknown c _ => [c]

/-- What the first stage leaves of the spelling. -/
def stripped : Piece quote → List Char
  | unknown c _ => [c]
  | piece => piece.spelling

/-- The octal digit that the piece is, with a backslash before it or without. -/
def octal? : Piece quote → Option Nat
  | plain c _ => Text.digitIn? 8 c
  | unknown c _ => Text.digitIn? 8 c
  | _ => none

end Piece

variable {quote : Char}

/-- The literal with these pieces. -/
def quoted (pieces : List (Piece quote)) : List Char :=
  quote :: (pieces.flatMap Piece.spelling ++ [quote])

/-- What the pieces mean, one after the other. -/
def meanings (pieces : List (Piece quote)) : List Char := pieces.flatMap Piece.meaning

/-- No zero stands directly before an octal digit. -/
def Separate (pieces : List (Piece quote)) : Prop :=
  pieces.IsChain fun piece next ↦ piece = .zero → next.octal? = none

/-! ### Characters of pieces -/

/-- An escape with a meaning is kept by the first stage. -/
theorem isKnownEscape_of_escaped? {mark meaning : Char} (h : escaped? mark = some meaning) :
    isKnownEscape mark = true := by
  unfold escaped? at h
  split at h
  case h_10 => exact absurd h (by simp)
  all_goals rfl

/-- So is an escaped quote. -/
theorem isKnownEscape_of_isQuote (hquote : isQuote quote = true) : isKnownEscape quote = true := by
  simp [isKnownEscape, hquote]

/-- The characters that a literal cannot hold do not give a meaning to a backslash either. -/
theorem ne_return_and_ne_nul {mark : Char} (h : isKnownEscape mark = true) :
    mark ≠ '\r' ∧ mark ≠ '\x00' := by
  constructor
  · rintro rfl
    exact absurd h (by decide)
  · rintro rfl
    exact absurd h (by decide)

/-- A hexadecimal digit is no quote, no backslash and no line end. -/
theorem isPlain_of_digit (hquote : isQuote quote = true) {c : Char} {digit : Nat}
    (h : Text.digitIn? 16 c = some digit) : IsPlain quote c := by
  have hne : ∀ d, Text.digitIn? 16 d = none → c ≠ d := by
    rintro d hd rfl
    exact absurd h (by simp [hd])
  have hquotes : quote = '\'' ∨ quote = '"' := by simpa [isQuote] using hquote
  refine ⟨?_, hne _ (by decide), hne _ (by decide), hne _ (by decide), hne _ (by decide)⟩
  rcases hquotes with rfl | rfl
  · exact hne _ (by decide)
  · exact hne _ (by decide)

theorem IsUnknown.ne_of_known {c mark : Char} (h : IsUnknown c)
    (hmark : isKnownEscape mark = true) : c ≠ mark := by
  rintro rfl
  exact absurd (hmark.symm.trans h.not_known) (by simp)

/-- A character after a backslash that is dropped stands for itself. -/
theorem IsUnknown.isPlain (hquote : isQuote quote = true) {c : Char} (h : IsUnknown c) :
    IsPlain quote c := by
  have hknown := isKnownEscape_of_isQuote hquote
  exact ⟨h.ne_of_known hknown, h.ne_of_known rfl, h.ne_of_known rfl, h.ne_return, h.ne_nul⟩

/-- The digits of an escape are plain, so the scanner goes past them one by one. -/
theorem isPlain_of_numeral? (hquote : isQuote quote = true) {digits : List Char} {code : Nat}
    (h : Text.numeral? 16 digits = some code) : ∀ c ∈ digits, IsPlain quote c := by
  intro c hc
  obtain ⟨digit, hdigit⟩ := Text.exists_digit_of_numeral? h c hc
  exact isPlain_of_digit hquote hdigit

/-- After the first stage a piece is a plain character, or a backslash with a character that gives
it a meaning and plain digits behind the two. -/
theorem Piece.stripped_cases (hquote : isQuote quote = true) (piece : Piece quote) :
    (∃ c, IsPlain quote c ∧ piece.stripped = [c]) ∨
      ∃ mark digits, isKnownEscape mark = true ∧ (∀ c ∈ digits, IsPlain quote c) ∧
        piece.stripped = '\\' :: mark :: digits := by
  have hnone : ∀ c ∈ ([] : List Char), IsPlain quote c := fun c hc ↦ absurd hc List.not_mem_nil
  cases piece with
  | plain c isPlain => exact .inl ⟨c, isPlain, rfl⟩
  | escape mark meaning escaped =>
    exact .inr ⟨mark, [], isKnownEscape_of_escaped? escaped, hnone, rfl⟩
  | joint => exact .inr ⟨'\n', [], rfl, hnone, rfl⟩
  | byte digits code _ denotes =>
    exact .inr ⟨'x', digits, rfl, isPlain_of_numeral? hquote denotes, rfl⟩
  | unicode digits code _ denotes _ =>
    exact .inr ⟨'u', digits, rfl, isPlain_of_numeral? hquote denotes, rfl⟩
  | zero => exact .inr ⟨'0', [], rfl, hnone, rfl⟩
  | unknown c isUnknown => exact .inl ⟨c, isUnknown.isPlain hquote, rfl⟩

/-! ### The first stage -/

theorem dropUnknownEscapes_cons {c : Char} (h : c ≠ '\\') (rest : List Char) :
    dropUnknownEscapes (c :: rest) = c :: dropUnknownEscapes rest := by
  rw [dropUnknownEscapes]
  exact fun _ _ hc _ ↦ h hc

/-- The first stage leaves plain characters alone. -/
theorem dropUnknownEscapes_plains {chars : List Char} (h : ∀ c ∈ chars, IsPlain quote c)
    (rest : List Char) :
    dropUnknownEscapes (chars ++ rest) = chars ++ dropUnknownEscapes rest := by
  induction chars with
  | nil => rfl
  | cons c chars ih =>
    obtain ⟨hc, hchars⟩ := List.forall_mem_cons.1 h
    rw [List.cons_append, dropUnknownEscapes_cons hc.ne_backslash, ih hchars, List.cons_append]

/-- It leaves known escapes alone, of which it takes both characters at once. -/
theorem dropUnknownEscapes_known {mark : Char} (h : isKnownEscape mark = true)
    (rest : List Char) :
    dropUnknownEscapes ('\\' :: mark :: rest) = '\\' :: mark :: dropUnknownEscapes rest := by
  rw [dropUnknownEscapes, if_pos h]

/-- What is stripped stays as it is: the first stage can be repeated. -/
theorem dropUnknownEscapes_stripped (hquote : isQuote quote = true) (piece : Piece quote)
    (rest : List Char) :
    dropUnknownEscapes (piece.stripped ++ rest) = piece.stripped ++ dropUnknownEscapes rest := by
  rcases piece.stripped_cases hquote with ⟨c, hc, hpiece⟩ | ⟨mark, digits, hmark, hdigits, hpiece⟩
  · rw [hpiece]
    exact dropUnknownEscapes_cons hc.ne_backslash rest
  · rw [hpiece, List.cons_append, List.cons_append, dropUnknownEscapes_known hmark,
      dropUnknownEscapes_plains hdigits]
    rfl

/-- **The first stage strips a piece**, and what follows is not touched. -/
theorem dropUnknownEscapes_piece (hquote : isQuote quote = true) (piece : Piece quote)
    (rest : List Char) :
    dropUnknownEscapes (piece.spelling ++ rest) = piece.stripped ++ dropUnknownEscapes rest := by
  have hstripped := dropUnknownEscapes_stripped hquote piece rest
  cases piece with
  | unknown c isUnknown =>
    show dropUnknownEscapes ('\\' :: c :: rest) = c :: dropUnknownEscapes rest
    rw [dropUnknownEscapes, isUnknown.not_known, if_neg Bool.false_ne_true]
  | _ => exact hstripped

theorem ne_backslash_of_isQuote (hquote : isQuote quote = true) : quote ≠ '\\' := by
  rintro rfl
  exact absurd hquote (by decide)

/-- **The first stage only removes the backslashes that mean nothing.** -/
theorem dropUnknownEscapes_quoted (hquote : isQuote quote = true) (pieces : List (Piece quote)) :
    dropUnknownEscapes (quoted pieces) = quote :: (pieces.flatMap Piece.stripped ++ [quote]) := by
  have hne := ne_backslash_of_isQuote hquote
  have hpieces : dropUnknownEscapes (pieces.flatMap Piece.spelling ++ [quote]) =
      pieces.flatMap Piece.stripped ++ [quote] := by
    induction pieces with
    | nil => exact dropUnknownEscapes_cons hne []
    | cons piece rest ih =>
      rw [List.flatMap_cons, List.append_assoc, dropUnknownEscapes_piece hquote, ih,
        List.flatMap_cons, List.append_assoc]
  rw [quoted, dropUnknownEscapes_cons hne, hpieces]

/-! ### The scanner -/

/-- The scanner takes a text up to the quote that ends it, and leaves what follows. -/
def Scans (quote : Char) (text inner after : List Char) : Prop :=
  ∃ part, scanSingle quote text = some part ∧ part.value = inner ∧ part.rest = after

namespace Scans

variable {text inner after : List Char} {c : Char}

/-- The quote that opened the part closes it. -/
theorem close (h : quote ≠ '\\') (rest : List Char) : Scans quote (quote :: rest) [] rest := by
  rw [Scans, scanSingle, if_pos rfl]
  · exact ⟨_, rfl, rfl, rfl⟩
  · exact fun _ _ hc _ ↦ h hc

/-- A backslash takes the next character with it, even the quote. -/
theorem pair (h : Scans quote text inner after) (c : Char) :
    Scans quote ('\\' :: c :: text) ('\\' :: c :: inner) after := by
  obtain ⟨part, hpart, rfl, rfl⟩ := h
  rw [Scans, scanSingle, hpart]
  exact ⟨_, rfl, rfl, rfl⟩

/-- Any other character is taken by itself. -/
theorem plain (h : Scans quote text inner after) (hc : IsPlain quote c) :
    Scans quote (c :: text) (c :: inner) after := by
  obtain ⟨part, hpart, rfl, rfl⟩ := h
  have hstop : ¬ (decide (c = '\n') || decide (c = '\\')) = true := by
    simp [hc.ne_feed, hc.ne_backslash]
  rw [Scans, scanSingle, if_neg hc.ne_quote, if_neg hstop, hpart]
  · exact ⟨_, rfl, rfl, rfl⟩
  · exact fun _ _ hback _ ↦ hc.ne_backslash hback

theorem plains (h : Scans quote text inner after) {chars : List Char}
    (hchars : ∀ c ∈ chars, IsPlain quote c) :
    Scans quote (chars ++ text) (chars ++ inner) after := by
  induction chars with
  | nil => exact h
  | cons c chars ih =>
    obtain ⟨hc, hchars⟩ := List.forall_mem_cons.1 hchars
    exact (ih hchars).plain hc

/-- A stripped piece is taken as a whole. -/
theorem piece (hquote : isQuote quote = true) (h : Scans quote text inner after)
    (piece : Piece quote) :
    Scans quote (piece.stripped ++ text) (piece.stripped ++ inner) after := by
  rcases piece.stripped_cases hquote with ⟨c, hc, hpiece⟩ | ⟨mark, digits, -, hdigits, hpiece⟩
  · rw [hpiece]
    exact h.plain hc
  · rw [hpiece]
    exact (h.plains hdigits).pair mark

/-- **The scanner takes exactly the pieces.** -/
theorem flatMap (hquote : isQuote quote = true) (pieces : List (Piece quote))
    (rest : List Char) :
    Scans quote (pieces.flatMap Piece.stripped ++ quote :: rest)
      (pieces.flatMap Piece.stripped) rest := by
  induction pieces with
  | nil => exact close (ne_backslash_of_isQuote hquote) rest
  | cons piece pieces ih =>
    rw [List.flatMap_cons, List.append_assoc]
    exact ih.piece hquote piece

end Scans

/-- A part that does not start with its own quote cannot have three of them. -/
theorem scanPart_of_ne {c : Char} (h : c ≠ quote) (text : List Char) :
    scanPart quote (c :: text) = scanSingle quote (c :: text) := by
  rcases text with _ | ⟨d, text⟩
  · rfl
  · have hc : ¬ (decide (c = quote) && decide (d = quote)) = true := by simp [h]
    rw [scanPart, if_neg hc]

/-- What follows the opening quote is not taken for a triple quote. -/
theorem scanPart_flatMap (hquote : isQuote quote = true) (pieces : List (Piece quote)) :
    scanPart quote (pieces.flatMap Piece.stripped ++ [quote]) =
      scanSingle quote (pieces.flatMap Piece.stripped ++ [quote]) := by
  rcases pieces with _ | ⟨piece, pieces⟩
  · rfl
  · rw [List.flatMap_cons, List.append_assoc]
    rcases piece.stripped_cases hquote with ⟨c, hc, hpiece⟩ | ⟨mark, digits, -, -, hpiece⟩
    · rw [hpiece]
      exact scanPart_of_ne hc.ne_quote _
    · rw [hpiece]
      exact scanPart_of_ne (ne_backslash_of_isQuote hquote).symm _

/-! ### From the literal to its escapes -/

/-- A quote by itself opens a part without a marker in front of it. -/
theorem opening?_of_isQuote (hquote : isQuote quote = true) (text : List Char) :
    opening? (quote :: text) = some ⟨false, quote, text⟩ :=
  if_pos hquote

/-- A text with one part and nothing behind it denotes what the escapes of that part denote. -/
theorem parts?_of_scans (hquote : isQuote quote = true) {text inner : List Char}
    (hpart : scanPart quote text = scanSingle quote text) (h : Scans quote text inner []) :
    parts? (quote :: text) = unescape? inner := by
  obtain ⟨part, hscan, rfl, hrest⟩ := h
  have hopening := opening?_of_isQuote hquote text
  have hgap : skipGap part.rest = [] := by rw [hrest, skipGap]
  -- The definition names the results of its tests for its termination, so they are split here and
  -- not rewritten.
  rw [parts?]
  split
  · rename_i hnone
    exact absurd (hopening.symm.trans hnone) (by simp)
  · rename_i o hsome
    obtain rfl : ⟨false, quote, text⟩ = o := Option.some.inj (hopening.symm.trans hsome)
    rw [hpart, hscan]
    rcases hcodes : unescape? part.value with _ | codes
    · simp only [hcodes, Bool.false_eq_true, if_false]
      rfl
    · simp only [hcodes, Bool.false_eq_true, if_false, Option.bind_eq_bind, Option.bind_some]
      split
      · rfl
      · rename_i hcons
        exact absurd (hgap.symm.trans hcons) (by simp)

/-- Quotes around a text make a string literal of it, which is evaluated after the first stage. -/
theorem string?_of_quotes (hquote : isQuote quote = true) (text : List Char) :
    string? (quote :: (text ++ [quote])) =
      evaluate? (dropUnknownEscapes (quote :: (text ++ [quote]))) := by
  have hlast : (quote :: (text ++ [quote])).getLast? = some quote := by
    rw [← List.cons_append, List.getLast?_concat]
  obtain ⟨c, rest, hrest⟩ : ∃ c rest, text ++ [quote] = c :: rest := by
    rcases text with _ | ⟨c, text⟩
    · exact ⟨quote, [], rfl⟩
    · exact ⟨c, text ++ [quote], rfl⟩
  rw [hrest] at hlast ⊢
  rw [string?, hquote, hlast, decide_eq_true rfl, if_pos (by rfl)]

/-- No piece brings in a carriage return or a null character, which would not be evaluated. -/
theorem forall_mem_stripped (hquote : isQuote quote = true) (pieces : List (Piece quote)) :
    ∀ c ∈ pieces.flatMap Piece.stripped, c ≠ '\r' ∧ c ≠ '\x00' := by
  refine List.forall_mem_flatMap.2 fun piece _ ↦ ?_
  rcases piece.stripped_cases hquote with ⟨c, hc, hpiece⟩ | ⟨mark, digits, hmark, hdigits, hpiece⟩
  · rw [hpiece, List.forall_mem_singleton]
    exact ⟨hc.ne_return, hc.ne_nul⟩
  · rw [hpiece, List.forall_mem_cons, List.forall_mem_cons]
    exact ⟨ne_return_and_ne_nul rfl, ne_return_and_ne_nul hmark, fun c hc ↦
      ⟨(hdigits c hc).ne_return, (hdigits c hc).ne_nul⟩⟩

/-- **A literal denotes what the second stage makes of its pieces.** -/
theorem string?_quoted_eq (hquote : isQuote quote = true) (pieces : List (Piece quote)) :
    string? (quoted pieces) = (unescape? (pieces.flatMap Piece.stripped)).map charsOfCodes := by
  have hends := ne_return_and_ne_nul (isKnownEscape_of_isQuote hquote)
  have hclean : ∀ c ∈ quote :: (pieces.flatMap Piece.stripped ++ [quote]),
      c ≠ '\r' ∧ c ≠ '\x00' := by
    rw [List.forall_mem_cons, List.forall_mem_append, List.forall_mem_singleton]
    exact ⟨hends, forall_mem_stripped hquote pieces, hends⟩
  have hreturn : '\r' ∉ quote :: (pieces.flatMap Piece.stripped ++ [quote]) :=
    fun hmem ↦ (hclean _ hmem).1 rfl
  have hnul : ¬ (quote :: (pieces.flatMap Piece.stripped ++ [quote])).contains '\x00' = true := by
    rw [List.contains_iff_mem]
    exact fun hmem ↦ (hclean _ hmem).2 rfl
  have hparts := parts?_of_scans hquote (scanPart_flatMap hquote pieces)
    (Scans.flatMap hquote pieces [])
  rw [quoted, string?_of_quotes hquote, ← quoted, dropUnknownEscapes_quoted hquote, evaluate?,
    if_neg hnul, Text.unifyLineEnds_of_not_mem hreturn, hparts]

/-! ### The second stage -/

/-- The octal digit that a text starts with. -/
def leadingOctal? (text : List Char) : Option Nat := text.head?.bind (Text.digitIn? 8)

/-- Whether a text starts with an octal digit is up to its first piece. -/
theorem leadingOctal?_piece (piece : Piece quote) (rest : List Char) :
    leadingOctal? (piece.stripped ++ rest) = piece.octal? := by
  cases piece <;> rfl

/-- For a list of pieces it is up to the first one, and to the rest if there is none. -/
theorem leadingOctal?_flatMap {pieces : List (Piece quote)} {rest : List Char}
    (h : ∀ piece ∈ pieces.head?, piece.octal? = none) (hrest : leadingOctal? rest = none) :
    leadingOctal? (pieces.flatMap Piece.stripped ++ rest) = none := by
  rcases pieces with _ | ⟨piece, pieces⟩
  · exact hrest
  · rw [List.flatMap_cons, List.append_assoc, leadingOctal?_piece]
    exact h piece rfl

theorem unescape?_cons {c : Char} (h : c ≠ '\\') (rest : List Char) :
    unescape? (c :: rest) = (unescape? rest).map (c.toNat :: ·) := by
  rw [unescape?]
  all_goals simp [h]

/-- An escape with a meaning gives that meaning. -/
theorem unescape?_escape {mark meaning : Char} (h : escaped? mark = some meaning)
    (rest : List Char) :
    unescape? ('\\' :: mark :: rest) = (unescape? rest).map (meaning.toNat :: ·) := by
  unfold escaped? at h
  split at h
  case h_10 => exact absurd h (by simp)
  all_goals
    obtain rfl := Option.some.inj h
    rfl

/-- A zero gives the null character if no octal digit follows. -/
theorem unescape?_zero {rest : List Char} (h : leadingOctal? rest = none) :
    unescape? ('\\' :: '0' :: rest) = (unescape? rest).map (0 :: ·) := by
  rcases rest with _ | ⟨a, rest⟩
  · rfl
  · have ha : Text.digitIn? 8 a = none := h
    rw [unescape?, ha]

/-- A zero takes an octal digit that follows it. -/
theorem unescape?_zero_digit {a : Char} {m : Nat} (ha : Text.digitIn? 8 a = some m)
    {rest : List Char} (h : leadingOctal? rest = none) :
    unescape? ('\\' :: '0' :: a :: rest) = (unescape? rest).map (m :: ·) := by
  rcases rest with _ | ⟨b, rest⟩
  · simp only [unescape?, ha, Option.map_some]
  · have hb : Text.digitIn? 8 b = none := h
    rw [unescape?, ha]
    simp only [hb]

/-- A zero takes two octal digits that follow it, and no more. -/
theorem unescape?_zero_digits {a b : Char} {m n : Nat} (ha : Text.digitIn? 8 a = some m)
    (hb : Text.digitIn? 8 b = some n) (rest : List Char) :
    unescape? ('\\' :: '0' :: a :: b :: rest) = (unescape? rest).map ((8 * m + n) :: ·) := by
  rw [unescape?, ha]
  simp only [hb]

/-- Four hexadecimal digits name a character unless they name half of a surrogate pair. -/
theorem toNat_ofNat_of_lt {code : Nat} (hcode : code < 0x10000)
    (h : code < 0xD800 ∨ 0xDFFF < code) : (Char.ofNat code).toNat = code := by
  have hvalid : code.isValidChar := by omega
  rw [Char.ofNat, dif_pos hvalid]
  rfl

/-- **The second stage takes a piece to its meaning.** The zero is left out, since what it gives is
up to what follows. -/
theorem unescape?_piece {piece : Piece quote} (h : piece ≠ .zero) (rest : List Char) :
    unescape? (piece.stripped ++ rest) =
      (unescape? rest).map (piece.meaning.map Char.toNat ++ ·) := by
  cases piece with
  | plain c isPlain => exact unescape?_cons isPlain.ne_backslash rest
  | escape mark meaning escaped => exact unescape?_escape escaped rest
  | joint => exact Option.map_id'.symm
  | byte digits code length_eq denotes =>
    -- Two digits stay below the surrogates.
    have hlt : code < 16 ^ 2 := length_eq ▸ Text.numeral?_lt denotes
    obtain ⟨a, b, rfl⟩ := List.length_eq_two.1 length_eq
    show unescape? ('\\' :: 'x' :: a :: b :: rest) =
      (unescape? rest).map ((Char.ofNat code).toNat :: ·)
    rw [unescape?, denotes, toNat_ofNat_of_lt (by omega) (by omega)]
    rfl
  | unicode digits code length_eq denotes not_surrogate =>
    have hlt : code < 16 ^ 4 := length_eq ▸ Text.numeral?_lt denotes
    obtain ⟨a, b, c, d, rfl⟩ := List.length_eq_four.1 length_eq
    show unescape? ('\\' :: 'u' :: a :: b :: c :: d :: rest) =
      (unescape? rest).map ((Char.ofNat code).toNat :: ·)
    rw [unescape?, denotes, toNat_ofNat_of_lt hlt not_surrogate]
    rfl
  | zero => exact absurd rfl h
  | unknown c isUnknown => exact unescape?_cons (isUnknown.ne_of_known rfl) rest

/-- **The second stage gives the meanings of the pieces**, if no zero stands before an octal
digit. -/
theorem unescape?_flatMap {pieces : List (Piece quote)} (h : Separate pieces) {rest : List Char}
    (hrest : leadingOctal? rest = none) :
    unescape? (pieces.flatMap Piece.stripped ++ rest) =
      (unescape? rest).map ((meanings pieces).map Char.toNat ++ ·) := by
  induction pieces with
  | nil => exact Option.map_id'.symm
  | cons piece pieces ih =>
    obtain ⟨hnext, htail⟩ := List.isChain_cons.1 h
    -- Only a zero looks beyond its own characters.
    have hpiece : unescape? (piece.stripped ++ (pieces.flatMap Piece.stripped ++ rest)) =
        (unescape? (pieces.flatMap Piece.stripped ++ rest)).map
          (piece.meaning.map Char.toNat ++ ·) := by
      by_cases hzero : piece = .zero
      · subst hzero
        have hoctal : ∀ next ∈ pieces.head?, next.octal? = none := fun next hmem ↦
          hnext next hmem rfl
        exact unescape?_zero (leadingOctal?_flatMap hoctal hrest)
      · exact unescape?_piece hzero _
    rw [List.flatMap_cons, List.append_assoc, hpiece, ih htail, Option.map_map]
    simp [meanings, Function.comp_def]

/-- The codes of characters are read back as those characters. -/
theorem charsOfCodes_map_toNat (chars : List Char) :
    charsOfCodes (chars.map Char.toNat) = chars := by
  rw [charsOfCodes, Text.charsOfUnits16_map_toNat, Option.getD_some]

/-! ### Whole literals -/

/-- Both stages in one: the codes of the escapes are those of the value. -/
theorem string?_quoted_of_unescape? (hquote : isQuote quote = true)
    {pieces : List (Piece quote)} {chars : List Char}
    (h : unescape? (pieces.flatMap Piece.stripped) = some (chars.map Char.toNat)) :
    string? (quoted pieces) = some chars := by
  rw [string?_quoted_eq hquote, h, Option.map_some, charsOfCodes_map_toNat]

/-- If no zero stands before an octal digit, then the second stage takes the pieces to their
meanings one by one. -/
theorem unescape?_pieces {pieces : List (Piece quote)} (h : Separate pieces) :
    unescape? (pieces.flatMap Piece.stripped) = some ((meanings pieces).map Char.toNat) := by
  have hend : leadingOctal? [] = none := rfl
  have hcodes := unescape?_flatMap h hend
  rwa [List.append_nil, unescape?, Option.map_some, List.append_nil] at hcodes

/-- **A literal denotes what its pieces mean**, if no zero stands before an octal digit. -/
theorem string?_quoted (hquote : isQuote quote = true) {pieces : List (Piece quote)}
    (h : Separate pieces) : string? (quoted pieces) = some (meanings pieces) :=
  string?_quoted_of_unescape? hquote (unescape?_pieces h)

/-- Pieces of every sort between single quotes. The other quote is plain, and the zero stands before
a digit that is not octal. -/
def assortedPieces : List (Piece '\'') :=
  [.plain '"' (by decide), .escape '\\' '\\' rfl, .unknown 'N' (by decide),
    .byte ['4', 'a'] 0x4A rfl (by decide), .joint,
    .unicode ['0', '0', 'E', '9'] 0xE9 rfl (by decide) (by decide), .zero,
    .unknown '8' (by decide), .escape 'n' '\n' rfl, .zero]

theorem assortedPieces_separate : Separate assortedPieces := by
  have hdigit : Text.digitIn? 8 '8' = none := by decide
  simp [Separate, assortedPieces, Piece.octal?, hdigit]

theorem string?_quoted_assorted :
    Separate assortedPieces ∧
      string? ['\'', '"', '\\', '\\', '\\', 'N', '\\', 'x', '4', 'a', '\\', '\n', '\\', 'u', '0',
        '0', 'E', '9', '\\', '0', '\\', '8', '\\', 'n', '\\', '0', '\''] =
        some ['"', '\\', 'N', 'J', 'é', '\x00', '8', '\n', '\x00'] :=
  ⟨assortedPieces_separate, string?_quoted rfl assortedPieces_separate⟩

/-! ### A zero before an octal digit -/

/-- An octal digit is no escape by itself, so its backslash is dropped by the first stage. -/
theorem isUnknown_of_octal {d : Char} (h : '1' ≤ d ∧ d ≤ '7') : IsUnknown d := by
  have hne : ∀ c, ¬ ('1' ≤ c ∧ c ≤ '7') → d ≠ c := by
    rintro c hc rfl
    exact hc h
  refine ⟨Bool.not_eq_true _ ▸ fun hknown ↦ ?_, hne _ (by decide), hne _ (by decide)⟩
  simp only [isKnownEscape, isQuote, Bool.or_eq_true, decide_eq_true_iff, or_assoc] at hknown
  rcases hknown with
    rfl | rfl | rfl | rfl | rfl | rfl | rfl | rfl | rfl | rfl | rfl | rfl | rfl
  all_goals exact absurd h (by decide)

theorem digitIn?_of_octal {d : Char} (h : '1' ≤ d ∧ d ≤ '7') :
    Text.digitIn? 8 d = some (d.toNat - '0'.toNat) := by
  have hlower : '1'.toNat ≤ d.toNat := UInt32.le_iff_toNat_le.1 h.1
  have hupper : d.toNat ≤ '7'.toNat := UInt32.le_iff_toNat_le.1 h.2
  have hdecimal : '0' ≤ d ∧ d ≤ '9' :=
    ⟨Char.le_trans (by decide) h.1, Char.le_trans h.2 (by decide)⟩
  rw [Text.digitIn?, Text.hexDigit?, if_pos hdecimal, Option.filter_eq_some_iff]
  refine ⟨rfl, decide_eq_true ?_⟩
  have hbounds : '0'.toNat = 48 ∧ '7'.toNat = 55 := ⟨rfl, rfl⟩
  omega

/-- A piece that is an octal digit is one character after the first stage. -/
theorem Piece.exists_of_octal? {piece : Piece quote} {n : Nat} (h : piece.octal? = some n) :
    ∃ c, piece.stripped = [c] ∧ Text.digitIn? 8 c = some n := by
  cases piece with
  | plain c isPlain => exact ⟨c, rfl, h⟩
  | unknown c isUnknown => exact ⟨c, rfl, h⟩
  | _ => exact absurd h (by simp [octal?])

section

variable {before after : List (Piece quote)} {d : Char}

/-- What comes before a zero is decoded by itself. -/
theorem unescape?_append_zero (hbefore : Separate before) (after : List (Piece quote)) :
    unescape? ((before ++ .zero :: after).flatMap Piece.stripped) =
      (unescape? ('\\' :: '0' :: after.flatMap Piece.stripped)).map
        ((meanings before).map Char.toNat ++ ·) := by
  rw [List.flatMap_append]
  exact unescape?_flatMap hbefore rfl

/-- A zero and a digit without its backslash become one character, if no octal digit follows. -/
theorem unescape?_zero_unknown (hbefore : Separate before) (hafter : Separate after)
    (hd : IsUnknown d) {m : Nat} (hm : Text.digitIn? 8 d = some m)
    (hnext : ∀ next ∈ after.head?, next.octal? = none) :
    unescape? ((before ++ .zero :: .unknown d hd :: after).flatMap Piece.stripped) =
      some ((meanings before ++ Char.ofNat m :: meanings after).map Char.toNat) := by
  have hend : leadingOctal? [] = none := rfl
  have hoctal := leadingOctal?_flatMap hnext hend
  rw [List.append_nil] at hoctal
  have hlt := Text.digitIn?_lt hm
  have hcode : (Char.ofNat m).toNat = m := toNat_ofNat_of_lt (by omega) (by omega)
  rw [unescape?_append_zero hbefore]
  show (unescape? ('\\' :: '0' :: d :: after.flatMap Piece.stripped)).map _ = _
  rw [unescape?_zero_digit hm hoctal, unescape?_pieces hafter, List.map_append, List.map_cons,
    hcode]
  rfl

/-- A zero, a digit without its backslash and an octal digit behind it become one character. -/
theorem unescape?_zero_unknown_octal (hbefore : Separate before) {next : Piece quote}
    (hafter : Separate (next :: after)) (hd : IsUnknown d) {m n : Nat}
    (hm : Text.digitIn? 8 d = some m) (hn : next.octal? = some n) :
    unescape? ((before ++ .zero :: .unknown d hd :: next :: after).flatMap Piece.stripped) =
      some ((meanings before ++ Char.ofNat (8 * m + n) :: meanings after).map Char.toNat) := by
  obtain ⟨c, hstripped, hc⟩ := Piece.exists_of_octal? hn
  have hlt := Text.digitIn?_lt hm
  have hlt' := Text.digitIn?_lt hc
  have hcode : (Char.ofNat (8 * m + n)).toNat = 8 * m + n :=
    toNat_ofNat_of_lt (by omega) (by omega)
  rw [unescape?_append_zero hbefore, List.flatMap_cons, List.flatMap_cons, hstripped]
  show (unescape? ('\\' :: '0' :: d :: c :: after.flatMap Piece.stripped)).map _ = _
  rw [unescape?_zero_digits hm hc, unescape?_pieces (List.isChain_cons.1 hafter).2,
    List.map_append, List.map_cons, hcode]
  rfl

/-- **A zero takes a digit that has lost its backslash.** The two become the character with the code
of the digit, or, if another octal digit follows, the three become the character with the code of
the two digits. The rest is decoded as its pieces mean. -/
theorem string?_quoted_zero_digit (hquote : isQuote quote = true) (hbefore : Separate before)
    (hafter : Separate after) (hd : '1' ≤ d ∧ d ≤ '7') :
    ((∀ next ∈ after.head?, next.octal? = none) →
      string? (quoted (before ++ .zero :: .unknown d (isUnknown_of_octal hd) :: after)) =
        some (meanings before ++ Char.ofNat (d.toNat - '0'.toNat) :: meanings after)) ∧
    ∀ next rest n, after = next :: rest → next.octal? = some n →
      string? (quoted (before ++ .zero :: .unknown d (isUnknown_of_octal hd) :: after)) =
        some (meanings before ++ Char.ofNat (8 * (d.toNat - '0'.toNat) + n) :: meanings rest) := by
  have hm := digitIn?_of_octal hd
  constructor
  · intro hnext
    exact string?_quoted_of_unescape? hquote (unescape?_zero_unknown hbefore hafter _ hm hnext)
  · rintro next rest n rfl hn
    exact string?_quoted_of_unescape? hquote
      (unescape?_zero_unknown_octal hbefore hafter _ hm hn)

end

/-- The digits one and two stand behind a zero, each with a backslash of its own. They make a line
feed, and the third digit is left alone. -/
theorem string?_quoted_zero_digit_feed :
    string? ['"', 'a', '\\', '0', '\\', '1', '\\', '2', '3', '"'] = some ['a', '\n', '3'] := by
  have hbefore : Separate [(.plain 'a' (by decide) : Piece '"')] := .singleton _
  have hafter : Separate [(.unknown '2' (by decide) : Piece '"'), .plain '3' (by decide)] := by
    simp [Separate]
  exact (string?_quoted_zero_digit rfl hbefore hafter (by decide)).2 _ _ 2 rfl (by decide)

/-- **A backslash that is dropped can change what the escape before it means.** -/
theorem not_forall_string?_zero_digit :
    ¬ ∀ (quote : Char) (before after : List (Piece quote)) (d : Char) (hd : '1' ≤ d ∧ d ≤ '7'),
      isQuote quote = true → Separate before → Separate after →
      string? (quoted (before ++ .zero :: .unknown d (isUnknown_of_octal hd) :: after)) =
        some (meanings before ++ '\x00' :: d :: meanings after) := by
  intro h
  have hvalue := h '"' [] [] '1' (by decide) rfl .nil .nil
  rw [string?_quoted_eq rfl] at hvalue
  exact absurd hvalue (by decide)

end Literal

end CoffeeTree
