import CoffeeTree.Literal.Number
import CoffeeTree.Proofs.Equations
import CoffeeTree.Proofs.Literals.Strings
import CoffeeTree.Proofs.Outside
import Mathlib.Data.List.Forall2

/-!
# Reading integers

How an integer is written (`Literal.Writes`), and that each of its spellings is read as that integer
(`Literal.number?_writes`). A numeral has the digits of the number in its base, most significant
first, with an optional underscore between two of them. In base ten there are no zeros in front; in
the other bases a prefix tells the base, letters may be small or capital, and zeros and an
underscore may follow the prefix.

Reading goes through several steps, and a numeral passes each of them unchanged: it is ASCII without
blanks (`mapM_toAscii?_eq`, `trim_eq`), it has no sign, its underscores are removed
(`ungroup?_cons_of_grouped`), and its digits denote the number (`Text.numeral?_toDigits`). So the
exact way succeeds, and the floating point way, which would round, is not tried.
-/

namespace CoffeeTree

namespace Text

/-! ### Digits -/

section Digits

variable {base d n : Nat} {c : Char} {digits : List Char}

/-- A digit is read alike in both cases. -/
theorem hexDigit?_digitChar :
    ∀ d < 16, hexDigit? d.digitChar = some d ∧ hexDigit? d.digitChar.toUpper = some d := by
  decide

/-- A digit is read as its value, small or capital. -/
theorem digitIn?_digitChar (hbase : base ≤ 16) (hd : d < base) :
    digitIn? base d.digitChar = some d ∧ digitIn? base d.digitChar.toUpper = some d := by
  obtain ⟨hsmall, hcapital⟩ := hexDigit?_digitChar d (by omega)
  rw [digitIn?, digitIn?, hsmall, hcapital]
  simp [hd]

/-- A further digit moves the others up by one place. -/
theorem numeral?_concat (h : numeral? base digits = some n) (hc : digitIn? base c = some d) :
    numeral? base (digits ++ [c]) = some (base * n + d) := by
  rw [numeral?] at h ⊢
  rw [List.foldlM_append, h]
  simp [hc]

/-- **The digits of a number denote it.** -/
theorem numeral?_toDigits (hbase : 1 < base) (hle : base ≤ 16) (n : Nat) :
    numeral? base (Nat.toDigits base n) = some n := by
  induction n using Nat.base_induction base hbase with
  | single m hm =>
    have hdigit := (digitIn?_digitChar hle hm).1
    rw [Nat.toDigits_of_lt_base hm, numeral?]
    simp [hdigit]
  | digit m k hk hm ih =>
    rw [← Nat.toDigits_append_toDigits hbase hm hk, Nat.toDigits_of_lt_base hk]
    exact numeral?_concat ih (digitIn?_digitChar hle hk).1

/-- Zeros in front do not count. -/
theorem numeral?_replicate_append (hbase : 0 < base) (zeros : Nat) (digits : List Char) :
    numeral? base (List.replicate zeros '0' ++ digits) = numeral? base digits := by
  have hzero : digitIn? base '0' = some 0 := by simp [digitIn?, hexDigit?, hbase]
  induction zeros with
  | zero => rfl
  | succ zeros ih =>
    rw [List.replicate_succ, List.cons_append, ← ih, numeral?, List.foldlM_cons, hzero]
    rfl

/-- The digits that are written for a number are those of the base. -/
theorem exists_digitChar_of_mem_toDigits (hbase : 1 < base) (hc : c ∈ Nat.toDigits base n) :
    ∃ d < base, c = d.digitChar := by
  induction n using Nat.base_induction base hbase with
  | single m hm =>
    rw [Nat.toDigits_of_lt_base hm, List.mem_singleton] at hc
    exact ⟨m, hm, hc⟩
  | digit m k hk hm ih =>
    rw [← Nat.toDigits_append_toDigits hbase hm hk, Nat.toDigits_of_lt_base hk,
      List.mem_append, List.mem_singleton] at hc
    rcases hc with hc | rfl
    · exact ih hc
    · exact ⟨k, hk, rfl⟩

/-- No number but zero starts with a zero. -/
theorem head?_toDigits_ne (hbase : 1 < base) (hn : n ≠ 0) :
    (Nat.toDigits base n).head? ≠ some '0' := by
  induction n using Nat.base_induction base hbase with
  | single m hm =>
    rw [Nat.toDigits_of_lt_base hm]
    simpa using hn
  | digit m k hk hm ih =>
    have hfirst := ih (Nat.ne_of_gt hm)
    rw [← Nat.toDigits_append_toDigits hbase hm hk,
      List.head?_append_of_ne_nil _ Nat.toDigits_ne_nil]
    exact hfirst

/-- Digits with the same values make the same numeral. -/
theorem numeral?_congr {digits' : List Char}
    (h : List.Forall₂ (fun c c' ↦ digitIn? base c = digitIn? base c') digits digits') :
    numeral? base digits = numeral? base digits' := by
  rw [numeral?, numeral?]
  generalize 0 = start
  induction h generalizing start with
  | nil => rfl
  | cons hc _ ih =>
    rw [List.foldlM_cons, List.foldlM_cons, hc]
    exact bind_congr fun n ↦ ih n

/-- A digit of a numeral is one of these characters. -/
theorem bounds_of_digitIn? (h : digitIn? base c = some d) :
    '0' ≤ c ∧ c ≤ '9' ∨ 'a' ≤ c ∧ c ≤ 'f' ∨ 'A' ≤ c ∧ c ≤ 'F' := by
  obtain ⟨hdigit, -⟩ := Option.filter_eq_some_iff.1 h
  rw [hexDigit?] at hdigit
  split at hdigit
  · next hc => exact .inl hc
  · split at hdigit
    · next hc => exact .inr (.inl hc)
    · split at hdigit
      · next hc => exact .inr (.inr hc)
      · exact absurd hdigit (by simp)

end Digits

end Text

namespace Literal

/-! ### Spellings -/

/-- The bases in which an integer is written. -/
inductive Base where
  | decimal
  | hexadecimal
  | octal
  | binary
  deriving DecidableEq, Repr

def Base.radix : Base → Nat
  | decimal => 10
  | hexadecimal => 16
  | octal => 8
  | binary => 2

/-- The letter behind the zero of the prefix. Base ten has no prefix. -/
def Base.mark? : Base → Option Char
  | decimal => none
  | hexadecimal => some 'x'
  | octal => some 'o'
  | binary => some 'b'

/-- The second character is the first one, or its capital. -/
def EitherCase (small c : Char) : Prop := c = small ∨ c = small.toUpper

/-- The text has these characters in order, with at most one underscore before each of them. -/
inductive Grouped : List Char → List Char → Prop where
  | nil : Grouped [] []
  | next {c : Char} {chars text : List Char} (h : Grouped chars text) :
      Grouped (c :: chars) (c :: text)
  | underscore {c : Char} {chars text : List Char} (h : Grouped chars text) :
      Grouped (c :: chars) ('_' :: c :: text)

/-- **The text is a numeral of the number in the base.** -/
inductive Writes (n : Nat) : Base → List Char → Prop where
  | decimal {first : Char} {digits text : List Char}
      (hdigits : Nat.toDigits 10 n = first :: digits) (hgroups : Grouped digits text) :
      Writes n .decimal (first :: text)
  | prefixed {base : Base} {mark letter : Char} {zeros : Nat} {digits text : List Char}
      (hmark : base.mark? = some mark) (hletter : EitherCase mark letter)
      (hdigits : List.Forall₂ EitherCase
        (List.replicate zeros '0' ++ Nat.toDigits base.radix n) digits)
      (hgroups : Grouped digits text) : Writes n base ('0' :: letter :: text)

/-- A numeral without underscores is grouped as well. -/
theorem grouped_self (chars : List Char) : Grouped chars chars := by
  induction chars with
  | nil => exact .nil
  | cons c chars ih => exact .next ih

/-- Every number has a numeral in every base. -/
theorem exists_writes (n : Nat) (base : Base) : ∃ text, Writes n base text := by
  by_cases hbase : base = .decimal
  · subst hbase
    obtain ⟨first, digits, hdigits⟩ := List.exists_cons_of_ne_nil (Nat.toDigits_ne_nil (b := 10))
    exact ⟨_, .decimal hdigits (grouped_self digits)⟩
  · obtain ⟨mark, hmark⟩ : ∃ mark, base.mark? = some mark := by
      cases base with
      | decimal => exact absurd rfl hbase
      | _ => exact ⟨_, rfl⟩
    have hsame : List.Forall₂ EitherCase (List.replicate 0 '0' ++ Nat.toDigits base.radix n)
        (Nat.toDigits base.radix n) := List.forall₂_same.2 fun c _ ↦ .inl rfl
    exact ⟨_, .prefixed hmark (.inl rfl) hsame (grouped_self _)⟩

/-- Grouping brings in underscores and nothing else. -/
theorem Grouped.mem {chars text : List Char} (h : Grouped chars text) {c : Char} (hc : c ∈ text) :
    c = '_' ∨ c ∈ chars := by
  induction h with
  | nil => exact absurd hc List.not_mem_nil
  | next _ ih =>
    rcases List.mem_cons.1 hc with rfl | hc
    · exact .inr List.mem_cons_self
    · exact (ih hc).imp_right (List.mem_cons_of_mem _)
  | underscore _ ih =>
    rcases List.mem_cons.1 hc with rfl | hc
    · exact .inl rfl
    · rcases List.mem_cons.1 hc with rfl | hc
      · exact .inr List.mem_cons_self
      · exact (ih hc).imp_right (List.mem_cons_of_mem _)

/-! ### Characters that reading leaves as they are -/

/-- A character of ASCII that is no blank. -/
def IsInked (c : Char) : Prop := c.toNat < 0x7F ∧ Text.isAsciiBlank c = false

instance (c : Char) : Decidable (IsInked c) := inferInstanceAs (Decidable (_ ∧ _))

/-- A digit is inked, in any base. -/
theorem isInked_of_digitIn? {base d : Nat} {c : Char} (h : Text.digitIn? base c = some d) :
    IsInked c := by
  have hle : ∀ {a b : Char}, a ≤ b → a.toNat ≤ b.toNat := fun hab ↦ UInt32.le_iff_toNat_le.1 hab
  have hbounds : 48 ≤ c.toNat ∧ c.toNat ≤ 102 := by
    rcases Text.bounds_of_digitIn? h with ⟨h1, h2⟩ | ⟨h1, h2⟩ | ⟨h1, h2⟩
    · exact ⟨hle h1, Nat.le_trans (hle h2) (by decide)⟩
    · exact ⟨Nat.le_trans (by decide) (hle h1), hle h2⟩
    · exact ⟨Nat.le_trans (by decide) (hle h1), Nat.le_trans (hle h2) (by decide)⟩
  refine ⟨by omega, ?_⟩
  have hspace : c ≠ ' ' := by
    rintro rfl
    exact absurd hbounds.1 (by decide)
  have hreturn : ¬ c ≤ '\r' := fun hc ↦ by
    have hlow : c.toNat ≤ 13 := hle hc
    omega
  simp [Text.isAsciiBlank, hspace, hreturn]

/-- What is inked is ASCII already. -/
theorem mapM_toAscii?_eq {text : List Char} (h : ∀ c ∈ text, IsInked c) :
    text.mapM toAscii? = some text := by
  induction text with
  | nil => rfl
  | cons c rest ih =>
    obtain ⟨hc, hrest⟩ := List.forall_mem_cons.1 h
    have hascii : toAscii? c = some c := if_pos hc.1
    rw [List.mapM_cons, hascii, ih hrest]
    rfl

theorem dropWhile_isAsciiBlank {text : List Char} (h : ∀ c ∈ text, IsInked c) :
    text.dropWhile Text.isAsciiBlank = text := by
  rcases text with _ | ⟨c, rest⟩
  · rfl
  · exact List.dropWhile_cons_of_neg (by simp [(h c List.mem_cons_self).2])

/-- There are no blanks to trim. -/
theorem trim_eq {text : List Char} (h : ∀ c ∈ text, IsInked c) : trim text = text := by
  have hreverse : ∀ c ∈ text.reverse, IsInked c := fun c hc ↦ h c (List.mem_reverse.1 hc)
  rw [trim, dropWhile_isAsciiBlank h, dropWhile_isAsciiBlank hreverse, List.reverse_reverse]

/-- A text that starts with a digit has no sign. -/
theorem splitSign_cons {c : Char} (hc : Text.isAsciiDigit c = true) (rest : List Char) :
    splitSign (c :: rest) = (false, c :: rest) := by
  unfold splitSign
  split
  · next heq =>
    obtain ⟨rfl, -⟩ := List.cons.inj heq
    exact absurd hc (by decide)
  · next heq =>
    obtain ⟨rfl, -⟩ := List.cons.inj heq
    exact absurd hc (by decide)
  · rfl

/-- An integer without a sign is its magnitude. -/
theorem integer?_cons {c : Char} {rest : List Char} (hc : Text.isAsciiDigit c = true)
    (h : ∀ d ∈ c :: rest, IsInked d) :
    integer? (c :: rest) = (magnitude? (c :: rest)).map Int.ofNat := by
  rw [integer?, trim_eq h, splitSign_cons hc]
  rcases hmagnitude : magnitude? (c :: rest) with _ | n
  · simp only [hmagnitude]
    rfl
  · simp only [hmagnitude]
    rfl

/-- What is read as an integer is that number: no other reading comes first. -/
theorem number?_of_integer? {text : List Char} {n : Int} (h : ∀ c ∈ text, IsInked c)
    (hn : integer? text = some n) : number? text = some (.int n) := by
  rw [number?, mapM_toAscii?_eq h]
  simp only [Option.bind_eq_bind, Option.bind_some, hn]

/-! ### Underscores -/

/-- Underscores may stand between digits, but not at either end and not next to each other. -/
theorem ungroup?_eq_some_iff {text digits : List Char} :
    ungroup? text = some digits ↔
      (∀ group ∈ Text.splitWords text, group ≠ []) ∧ (Text.splitWords text).flatten = digits := by
  simp [ungroup?]

theorem splitWords_underscore (text : List Char) :
    Text.splitWords ('_' :: text) = [] :: Text.splitWords text := by
  rw [Text.splitWords, Text.split, if_pos (by simp), ← Text.splitWords]

/-- A character other than the underscore goes into the first group, if there is one. -/
theorem splitWords_cons {c : Char} (hc : c ≠ '_') (text : List Char) :
    Text.splitWords (c :: text) =
      (c :: (Text.splitWords text).headD []) :: (Text.splitWords text).tail := by
  rw [Text.splitWords, Text.split, if_neg (by simp [hc]), ← Text.splitWords]
  cases Text.splitWords text <;> rfl

/-- A digit in front joins the first group. -/
theorem ungroup?_cons {c : Char} {text digits : List Char} (hc : c ≠ '_')
    (h : ungroup? text = some digits) : ungroup? (c :: text) = some (c :: digits) := by
  rw [ungroup?_eq_some_iff] at h ⊢
  rw [splitWords_cons hc]
  rcases hgroups : Text.splitWords text with _ | ⟨group, groups⟩
  · simp_all
  · simp_all

/-- An underscore after a character is passed over, if a group follows. -/
theorem ungroup?_underscore {c : Char} {text digits : List Char} (hc : c ≠ '_')
    (h : ungroup? text = some digits) : ungroup? (c :: '_' :: text) = some (c :: digits) := by
  rw [ungroup?_eq_some_iff] at h ⊢
  rw [splitWords_cons hc, splitWords_underscore]
  simp_all

/-- **The underscores of a numeral are removed.** -/
theorem ungroup?_cons_of_grouped {c : Char} {digits text : List Char} (h : Grouped digits text)
    (hdigits : ∀ d ∈ c :: digits, d ≠ '_') : ungroup? (c :: text) = some (c :: digits) := by
  induction h generalizing c with
  | nil =>
    rw [ungroup?_eq_some_iff, splitWords_cons (hdigits c List.mem_cons_self)]
    simp [Text.splitWords, Text.split]
  | next _ ih =>
    obtain ⟨hc, hrest⟩ := List.forall_mem_cons.1 hdigits
    exact ungroup?_cons hc (ih hrest)
  | underscore _ ih =>
    obtain ⟨hc, hrest⟩ := List.forall_mem_cons.1 hdigits
    exact ungroup?_underscore hc (ih hrest)

/-! ### Magnitudes -/

/-- Without a letter behind a leading zero a numeral is decimal. -/
theorem magnitude?_eq_decimal? {text : List Char}
    (h : ∀ letter rest, text = '0' :: letter :: rest → Text.isAsciiDigit letter = true) :
    magnitude? text = decimal? text := by
  unfold magnitude?
  split
  · next letter rest =>
    have hletter := h letter rest rfl
    have hne : ∀ c, Text.isAsciiDigit c = false → letter ≠ c := by
      rintro c hc rfl
      exact absurd (hletter.symm.trans hc) (by simp)
    rw [if_neg (by simp [hne 'x' rfl, hne 'X' rfl]), if_neg (by simp [hne 'o' rfl, hne 'O' rfl]),
      if_neg (by simp [hne 'b' rfl, hne 'B' rfl])]
  · rfl

/-- The letter after the zero chooses the base, in either case. -/
theorem magnitude?_prefixed {base : Base} {mark letter : Char} (hmark : base.mark? = some mark)
    (hletter : EitherCase mark letter) (text : List Char) :
    magnitude? ('0' :: letter :: text) = prefixed? base.radix text := by
  cases base with
  | decimal => exact absurd hmark (by simp [Base.mark?])
  | _ =>
    obtain rfl := Option.some.inj hmark
    rcases hletter with rfl | rfl <;> rfl

/-- The zeros in front of a decimal numeral are refused, unless it denotes zero. -/
theorem decimal?_of_grouped {first : Char} {digits text : List Char} {n : Nat}
    (hgroups : Grouped digits text) (hn : Text.numeral? 10 (first :: digits) = some n)
    (hdigits : ∀ c ∈ first :: digits, c ≠ '_') :
    decimal? (first :: text) =
      if Text.maxDigits < (first :: digits).length || first = '0' && n ≠ 0 then none
      else some n := by
  rw [decimal?, ungroup?_cons_of_grouped hgroups hdigits]
  simp [hn]

/-- One underscore may stand between the mark of a base and the digits. -/
theorem prefixed?_underscore (base : Nat) (text : List Char) :
    prefixed? base ('_' :: text) = (ungroup? text).bind (Text.numeral? base) := rfl

theorem prefixed?_cons {base : Nat} {first : Char} {text : List Char} (hfirst : first ≠ '_') :
    prefixed? base (first :: text) = (ungroup? (first :: text)).bind (Text.numeral? base) := by
  delta prefixed?
  split
  · next rest heq => exact absurd (List.cons.inj heq).1 hfirst
  · rfl

/-- After the letter come the digits in groups. -/
theorem prefixed?_of_grouped {base n : Nat} {digits text : List Char}
    (hgroups : Grouped digits text) (hn : Text.numeral? base digits = some n) (hne : digits ≠ [])
    (hdigits : ∀ c ∈ digits, c ≠ '_') : prefixed? base text = some n := by
  cases hgroups with
  | nil => exact absurd rfl hne
  | next hgroups =>
    rw [prefixed?_cons (hdigits _ List.mem_cons_self), ungroup?_cons_of_grouped hgroups hdigits]
    exact hn
  | underscore hgroups =>
    rw [prefixed?_underscore, ungroup?_cons_of_grouped hgroups hdigits]
    exact hn

/-! ### Numerals -/

section

variable {base : Base} {n : Nat} {text : List Char}

/-- Every base has its digits among the hexadecimal ones. -/
theorem Base.radix_bounds (base : Base) : 1 < base.radix ∧ base.radix ≤ 16 := by
  cases base <;> decide

/-- What the digits of a numeral are not. -/
theorem forall_mem_of_numeral? {radix : Nat} {digits : List Char}
    (h : Text.numeral? radix digits = some n) : ∀ c ∈ digits, IsInked c ∧ c ≠ '_' := by
  intro c hc
  obtain ⟨d, hd⟩ := Text.exists_digit_of_numeral? h c hc
  refine ⟨isInked_of_digitIn? hd, ?_⟩
  rintro rfl
  exact absurd (Text.bounds_of_digitIn? hd) (by decide)

/-- The case of the digits does not matter. -/
theorem numeral?_of_eitherCase {radix : Nat} (hradix : radix ≤ 16) {small digits : List Char}
    (hsmall : ∀ c ∈ small, ∃ d < radix, c = d.digitChar)
    (h : List.Forall₂ EitherCase small digits) :
    Text.numeral? radix digits = Text.numeral? radix small := by
  refine (Text.numeral?_congr ?_).symm
  induction h with
  | nil => exact .nil
  | cons hcase _ ih =>
    obtain ⟨⟨d, hd, rfl⟩, hrest⟩ := List.forall_mem_cons.1 hsmall
    obtain ⟨hdigit, hcapital⟩ := Text.digitIn?_digitChar hradix hd
    refine .cons ?_ (ih hrest)
    rcases hcase with rfl | rfl
    · rfl
    · rw [hdigit, hcapital]

/-- Neither zeros in front nor the case of the digits change the value. -/
theorem numeral?_prefixed {zeros : Nat} {digits : List Char}
    (h : List.Forall₂ EitherCase
      (List.replicate zeros '0' ++ Nat.toDigits base.radix n) digits) :
    Text.numeral? base.radix digits = some n := by
  obtain ⟨hone, hle⟩ := base.radix_bounds
  have hsmall : ∀ c ∈ List.replicate zeros '0' ++ Nat.toDigits base.radix n,
      ∃ d < base.radix, c = d.digitChar := by
    intro c hc
    rcases List.mem_append.1 hc with hc | hc
    · exact ⟨0, by omega, List.eq_of_mem_replicate hc⟩
    · exact Text.exists_digitChar_of_mem_toDigits hone hc
  rw [numeral?_of_eitherCase hle hsmall h, Text.numeral?_replicate_append (by omega),
    Text.numeral?_toDigits hone hle]

/-- Underscores are inked too. -/
theorem Grouped.isInked {digits : List Char} (h : Grouped digits text)
    (hdigits : ∀ c ∈ digits, IsInked c) : ∀ c ∈ text, IsInked c := by
  intro c hc
  rcases h.mem hc with rfl | hc
  · decide
  · exact hdigits c hc

namespace Writes

/-- A numeral is ASCII without blanks. -/
theorem isInked (h : Writes n base text) : ∀ c ∈ text, IsInked c := by
  cases h with
  | decimal hdigits hgroups =>
    have hn := Text.numeral?_toDigits (by decide : 1 < 10) (by decide) n
    rw [hdigits] at hn
    obtain ⟨hfirst, hrest⟩ := List.forall_mem_cons.1 (forall_mem_of_numeral? hn)
    exact List.forall_mem_cons.2 ⟨hfirst.1, hgroups.isInked fun c hc ↦ (hrest c hc).1⟩
  | prefixed hmark hletter hdigits hgroups =>
    have hinked := forall_mem_of_numeral? (numeral?_prefixed hdigits)
    refine List.forall_mem_cons.2 ⟨by decide, List.forall_mem_cons.2 ⟨?_, ?_⟩⟩
    · cases base with
      | decimal => exact absurd hmark (by simp [Base.mark?])
      | _ =>
        obtain rfl := Option.some.inj hmark
        rcases hletter with rfl | rfl <;> decide
    · exact hgroups.isInked fun c hc ↦ (hinked c hc).1

/-- A numeral starts with a digit. -/
theorem exists_cons (h : Writes n base text) : ∃ first rest, text = first :: rest ∧
    Text.isAsciiDigit first = true ∧ Text.isDecimalDigit first = true := by
  cases h with
  | @decimal first digits rest hdigits hgroups =>
    have hdigit : ∀ d < 10, Text.isAsciiDigit d.digitChar = true ∧
        Text.isDecimalDigit d.digitChar = true := by decide
    have hmem : first ∈ Nat.toDigits 10 n := hdigits ▸ List.mem_cons_self
    obtain ⟨d, hd, rfl⟩ := Text.exists_digitChar_of_mem_toDigits (by decide : 1 < 10) hmem
    exact ⟨_, _, rfl, hdigit d hd⟩
  | prefixed => exact ⟨_, _, rfl, by decide, by decide⟩

/-- A written integer starts with a digit, so it is taken for a number. -/
theorem looksNumeric (h : Writes n base text) : looksNumeric text = true := by
  obtain ⟨first, rest, rfl, -, hfirst⟩ := h.exists_cons
  simp [Literal.looksNumeric, hfirst]

/-- **A numeral denotes its number.** -/
theorem magnitude?_eq (h : Writes n base text)
    (hlength : base = .decimal → (Nat.toDigits 10 n).length ≤ Text.maxDigits) :
    magnitude? text = some n := by
  cases h with
  | @decimal first digits rest hdigits hgroups =>
    have hn := Text.numeral?_toDigits (by decide : 1 < 10) (by decide) n
    have hshort := hlength rfl
    rw [hdigits] at hn hshort
    -- Only zero starts with a zero, and then it is the only digit.
    have hzero : first = '0' → n = 0 := by
      rintro rfl
      by_contra hne
      exact Text.head?_toDigits_ne (by decide : 1 < 10) hne (by rw [hdigits, List.head?_cons])
    have halone : first = '0' → rest = [] := by
      intro hfirst
      rw [hzero hfirst, Nat.toDigits_zero] at hdigits
      obtain ⟨-, rfl⟩ := List.cons.inj hdigits
      cases hgroups
      rfl
    rw [magnitude?_eq_decimal?, decimal?_of_grouped hgroups hn
      fun c hc ↦ (forall_mem_of_numeral? hn c hc).2, if_neg]
    · simp only [Bool.or_eq_true, Bool.and_eq_true, decide_eq_true_eq, not_or, not_and]
      exact ⟨Nat.not_lt.2 hshort, fun hfirst hne ↦ hne (hzero hfirst)⟩
    · intro letter tail heq
      obtain ⟨hfirst, htail⟩ := List.cons.inj heq
      exact absurd (htail.symm.trans (halone hfirst)) (by simp)
  | prefixed hmark hletter hdigits hgroups =>
    have hn := numeral?_prefixed hdigits
    rw [magnitude?_prefixed hmark hletter]
    refine prefixed?_of_grouped hgroups hn ?_ fun c hc ↦ (forall_mem_of_numeral? hn c hc).2
    rintro rfl
    exact absurd (List.forall₂_nil_right_iff.1 hdigits) (by simp)

/-- **A written integer is read back.** Decimal ones are read up to a number of digits. -/
theorem number?_eq (h : Writes n base text)
    (hlength : base = .decimal → (Nat.toDigits 10 n).length ≤ Text.maxDigits) :
    number? text = some (.int n) := by
  have hinked := h.isInked
  have hmagnitude := h.magnitude?_eq hlength
  obtain ⟨first, rest, rfl, hfirst, -⟩ := h.exists_cons
  refine number?_of_integer? hinked ?_
  rw [integer?_cons hfirst hinked, hmagnitude]
  rfl

end Writes

end

end Literal

/-! ### Integer nodes -/

/-- A literal that is read as an integer becomes a node for that integer. -/
theorem Convert.expr_integer (source : Source) (ancestors : List String)
    (location : Option Location) {text : List Char} {n : Int}
    (hlooks : Literal.looksNumeric text = true) (hn : Literal.number? text = some (.int n)) :
    expr source ancestors (.literal ⟨location, String.ofList text⟩) =
      Node.build source location (.int n) := by
  have hshape : literalShape (String.ofList text) = .ok (.int n) := by
    rw [literalShape, String.toList_ofList, if_pos hlooks, hn]
  rw [expr_literal, hshape]
  rfl

namespace Literal

/-- **Integers are read exactly, at any size and in each base.** A number can be written in every
base. Each of its numerals looks like a number and is read as that integer, and a literal with that
text becomes an integer node with that value, where the source has the lines of its location. Only
in base ten there is a limit, on the number of digits. -/
theorem number?_writes (n : Nat) (base : Base)
    (hlength : base = .decimal → (Nat.toDigits 10 n).length ≤ 4300) :
    (∃ text, Writes n base text) ∧
      ∀ text, Writes n base text →
        looksNumeric text = true ∧ number? text = some (.int n) ∧
          ∀ (source : Source) (ancestors : List String) (location : Option Location),
            (∃ node, (Convert.expr source ancestors
                (.literal ⟨location, String.ofList text⟩)).result = .ok node ∧
              node.shape = .int n) ↔
            ∀ loc ∈ location,
              loc.first.line < source.lineCount ∧ loc.last.line < source.lineCount := by
  refine ⟨exists_writes n base, fun text h ↦ ?_⟩
  have hlooks := h.looksNumeric
  have hn := h.number?_eq hlength
  refine ⟨hlooks, hn, fun source ancestors location ↦ ?_⟩
  rw [Convert.expr_integer source ancestors location hlooks hn]
  exact Node.exists_build_iff

/-- A numeral with capital and small letters, a zero in front and underscores. -/
def mixedNumeral : List Char := ['0', 'X', '_', '0', 'b', 'E', '_', 'e', 'F']

theorem writes_mixedNumeral : Writes 0xBEEF .hexadecimal mixedNumeral := by
  have hdigits : List.Forall₂ EitherCase (List.replicate 1 '0' ++ Nat.toDigits 16 0xBEEF)
      ['0', 'b', 'E', 'e', 'F'] :=
    .cons (.inl rfl) (.cons (.inl rfl) (.cons (.inr rfl)
      (.cons (.inl rfl) (.cons (.inr rfl) .nil))))
  exact .prefixed rfl (.inr rfl) hdigits
    (.underscore (.next (.next (.underscore (.next .nil)))))

theorem number?_writes_mixed :
    number? mixedNumeral = some (.int 0xBEEF) ∧
      number? ['1', '_', '0', '0', '0'] = some (.int 1000) ∧
      ∃ node, (Convert.expr ⟨mixedNumeral, Source.unnamed⟩ ["Block"]
          (.literal ⟨some ⟨⟨0, 0⟩, ⟨0, 8⟩⟩, String.ofList mixedNumeral⟩)).result = .ok node ∧
        node.shape = .int 0xBEEF := by
  have hthousand : Writes 1000 .decimal ['1', '_', '0', '0', '0'] :=
    .decimal rfl (.underscore (.next (.next .nil)))
  obtain ⟨-, hread, hconverts⟩ :=
    (number?_writes 0xBEEF .hexadecimal fun h ↦ absurd h (by decide)).2 _ writes_mixedNumeral
  refine ⟨hread, ((number?_writes 1000 .decimal fun _ ↦ by decide).2 _ hthousand).2.1,
    (hconverts _ _ _).2 ?_⟩
  rintro loc ⟨⟩
  decide

end Literal

end CoffeeTree
