import CoffeeTree.Proofs.Literals.Integers
import CoffeeTree.Proofs.Rounding
import Mathlib.Data.List.TakeWhile

/-!
# Zeros in front of a decimal integer

A decimal integer with zeros in front is none to the exact reader, unless it denotes zero. It goes
the other way, through a double, and comes back as the integer that the double is. So the zeros do
not change the number as long as it is a double itself, which all numbers up to `2 ^ 53` are
(`Literal.number?_leading_zeros`). A longer number becomes the double nearest to it, and a number
that is too great for a double is no number at all.
-/

namespace CoffeeTree

namespace Literal

/-! ### Digits -/

theorem isAsciiDigit_of_isDigit {c : Char} (h : c.isDigit = true) :
    Text.isAsciiDigit c = true := by
  simpa [Char.isDigit, Text.isAsciiDigit, Char.le_def] using h

/-- A digit of ASCII is a decimal digit. -/
theorem digitIn?_ten {c : Char} (h : Text.isAsciiDigit c = true) :
    Text.digitIn? 10 c = some (c.toNat - '0'.toNat) := by
  have hbounds : '0' ≤ c ∧ c ≤ '9' := by simpa [Text.isAsciiDigit] using h
  have hupper : c.toNat ≤ '9'.toNat := UInt32.le_iff_toNat_le.1 hbounds.2
  have hzero : '0'.toNat = 48 ∧ '9'.toNat = 57 := ⟨rfl, rfl⟩
  rw [Text.digitIn?, Text.hexDigit?, if_pos hbounds, Option.filter_eq_some_iff]
  exact ⟨rfl, decide_eq_true (by omega)⟩

/-- Decimal digits denote their value. -/
theorem numeral?_ten {digits : List Char} (h : ∀ c ∈ digits, Text.isAsciiDigit c = true) :
    Text.numeral? 10 digits = some (Nat.ofDigitChars 10 digits 0) := by
  rw [Text.numeral?]
  generalize 0 = start
  induction digits generalizing start with
  | nil => rfl
  | cons c rest ih =>
    obtain ⟨hc, hrest⟩ := List.forall_mem_cons.1 h
    rw [List.foldlM_cons, digitIn?_ten hc, Nat.ofDigitChars_cons]
    exact ih hrest _

theorem forall_isInked {text : List Char} (h : ∀ c ∈ text, Text.isAsciiDigit c = true) :
    ∀ c ∈ text, IsInked c :=
  fun c hc ↦ isInked_of_digitIn? (digitIn?_ten (h c hc))

/-! ### The floating point way -/

/-- There are no underscores to drop. -/
theorem dropUnderscores?_eq {text : List Char} (h : ∀ c ∈ text, c ≠ '_') (previous : Char) :
    dropUnderscores? previous text = some text := by
  induction text generalizing previous with
  | nil => rfl
  | cons c rest ih =>
    obtain ⟨hc, hrest⟩ := List.forall_mem_cons.1 h
    rw [dropUnderscores?, ih hrest]
    · rfl
    · exact fun _ _ hunderscore _ ↦ hc hunderscore
    · exact fun hunderscore _ ↦ hc hunderscore

/-- Digits alone are read as the double for their value. -/
theorem double?_digits {c : Char} {rest : List Char} {n : Nat}
    (h : ∀ d ∈ c :: rest, Text.isAsciiDigit d = true)
    (hn : Text.numeral? 10 (c :: rest) = some n) :
    double? (c :: rest) = some (.ofDecimal false n 0) := by
  have hunderscore : ∀ d ∈ c :: rest, d ≠ '_' := fun d hd ↦ (forall_mem_of_numeral? hn d hd).2
  have hwhole : (c :: rest).takeWhile Text.isAsciiDigit = c :: rest :=
    List.takeWhile_eq_self_iff.2 h
  have hafter : (c :: rest).dropWhile Text.isAsciiDigit = [] := List.dropWhile_eq_nil_iff.2 h
  rw [double?, trim_eq (forall_isInked h), dropUnderscores?_eq hunderscore]
  simp only [Option.bind_eq_bind, Option.bind_some, splitSign_cons (h c List.mem_cons_self),
    hwhole, hafter]
  simp [exponent?, hn]

section

variable {text : List Char} {n : Nat}

/-- Where the exact way fails, the integer that the double is counts. -/
theorem number?_of_finite {mantissa : Nat} {exponent value : Int} (h : ∀ c ∈ text, IsInked c)
    (hinteger : integer? text = none)
    (hdouble : double? text = some (.finite false mantissa exponent))
    (hvalue : Binary64.toInt? (.finite false mantissa exponent) = some value) :
    number? text = some (.int value) := by
  rw [number?, mapM_toAscii?_eq h]
  simp only [Option.bind_eq_bind, Option.bind_some, hinteger, hdouble, hvalue]

/-- What is too large for a double is no number. -/
theorem number?_of_infinite (h : ∀ c ∈ text, IsInked c) (hinteger : integer? text = none)
    (hdouble : double? text = some (.infinite false)) : number? text = none := by
  rw [number?, mapM_toAscii?_eq h]
  simp only [Option.bind_eq_bind, Option.bind_some, hinteger, hdouble]

end

/-! ### Leading zeros -/

section Zeros

variable {second : Char} {rest : List Char} {n : Nat}
  (hdigits : ∀ c ∈ '0' :: second :: rest, Text.isAsciiDigit c = true)
  (hn : Text.numeral? 10 ('0' :: second :: rest) = some n)

include hdigits hn

/-- The exact way refuses zeros in front of any other number than zero. -/
theorem integer?_leading_zero :
    integer? ('0' :: second :: rest) =
      if Text.maxDigits < ('0' :: second :: rest).length || n ≠ 0 then none
      else some (n : Int) := by
  have hdecimal : magnitude? ('0' :: second :: rest) = decimal? ('0' :: second :: rest) := by
    refine magnitude?_eq_decimal? fun letter tail heq ↦ ?_
    obtain ⟨rfl, -⟩ := List.cons.inj (List.cons.inj heq).2
    exact hdigits second (List.mem_cons_of_mem _ List.mem_cons_self)
  rw [integer?_cons rfl (forall_isInked hdigits), hdecimal,
    decimal?_of_grouped (grouped_self _) hn fun c hc ↦ (forall_mem_of_numeral? hn c hc).2]
  simp only [decide_true, Bool.true_and]
  split <;> rfl

/-- An integer with a zero in front is not read as one, unless it is zero. -/
theorem integer?_of_ne_zero (hne : n ≠ 0) : integer? ('0' :: second :: rest) = none := by
  rw [integer?_leading_zero hdigits hn, if_pos]
  simp [hne]

/-- Zeros in front of zero do not matter, however many there are. -/
theorem number?_of_zero (hzero : n = 0) : number? ('0' :: second :: rest) = some (.int 0) := by
  subst hzero
  have hinteger := integer?_leading_zero hdigits hn
  split at hinteger
  · exact number?_of_finite (forall_isInked hdigits) hinteger (double?_digits hdigits hn)
      (Binary64.toInt?_zero _)
  · exact number?_of_integer? (forall_isInked hdigits) hinteger

/-- Instead it is read as a double, and rounded. -/
theorem number?_of_lt_overflow (h : n < Binary64.overflow) :
    ∃ double : Nat, number? ('0' :: second :: rest) = some (.int double) ∧
      Binary64.IsNearest n double := by
  by_cases hzero : n = 0
  · refine ⟨0, number?_of_zero hdigits hn hzero, ?_⟩
    rw [hzero]
    exact Binary64.isNearest_self (Binary64.isExact_of_lt (by decide))
  · have hinteger := integer?_of_ne_zero hdigits hn hzero
    have hdouble := double?_digits hdigits hn
    rw [Binary64.ofDecimal_natural hzero] at hdouble
    obtain ⟨mantissa, exponent, double, hratio, hvalue, hnearest⟩ :=
      Binary64.exists_ofRatio_one hzero h
    rw [hratio] at hdouble
    exact ⟨double, number?_of_finite (forall_isInked hdigits) hinteger hdouble hvalue, hnearest⟩

theorem number?_of_overflow_le (h : Binary64.overflow ≤ n) :
    number? ('0' :: second :: rest) = none := by
  have hzero : n ≠ 0 := by
    have hle := Nat.le_trans (Binary64.two_pow_le_mul 970) h
    exact Nat.ne_of_gt (Nat.lt_of_lt_of_le (Nat.two_pow_pos 53) hle)
  have hinteger := integer?_of_ne_zero hdigits hn hzero
  have hdouble := double?_digits hdigits hn
  rw [Binary64.ofDecimal_natural hzero, Binary64.ofRatio_one_of_le h] at hdouble
  exact number?_of_infinite (forall_isInked hdigits) hinteger hdouble

end Zeros

/-- **Zeros in front of a decimal integer change nothing exactly when the number is a double**, as
all numbers up to `2 ^ 53` are. Below the overflow the integer is the double nearest to the number,
and from there on the text denotes no number. -/
theorem number?_leading_zeros {digits : List Char} (hne : digits ≠ [])
    (hdigits : ∀ c ∈ digits, c.isDigit = true) {zeros : Nat} (hzeros : 1 ≤ zeros) {n : Nat}
    (hn : Nat.ofDigitChars 10 digits 0 = n) :
    (number? (List.replicate zeros '0' ++ digits) = some (.int n) ↔ Binary64.IsExact n) ∧
      (n ≤ 2 ^ 53 → number? (List.replicate zeros '0' ++ digits) = some (.int n)) ∧
      (n < Binary64.overflow →
        ∃ double : Nat, number? (List.replicate zeros '0' ++ digits) = some (.int double) ∧
          Binary64.IsNearest n double) ∧
      (Binary64.overflow ≤ n → number? (List.replicate zeros '0' ++ digits) = none) := by
  have hascii : ∀ c ∈ List.replicate zeros '0' ++ digits, Text.isAsciiDigit c = true := by
    intro c hc
    rcases List.mem_append.1 hc with hc | hc
    · rw [List.eq_of_mem_replicate hc]
      decide
    · exact isAsciiDigit_of_isDigit (hdigits c hc)
  have hvalue : Text.numeral? 10 (List.replicate zeros '0' ++ digits) = some n := by
    rw [Text.numeral?_replicate_append (by decide),
      numeral?_ten fun c hc ↦ isAsciiDigit_of_isDigit (hdigits c hc), hn]
  -- A zero and something behind it, which is the form that the reader refuses as an integer.
  obtain ⟨second, rest, htext⟩ :
      ∃ second rest, List.replicate zeros '0' ++ digits = '0' :: second :: rest := by
    obtain ⟨k, rfl⟩ := Nat.exists_eq_add_of_le' hzeros
    have hrest : List.replicate k '0' ++ digits ≠ [] := by simp [hne]
    obtain ⟨second, rest, hcons⟩ := List.exists_cons_of_ne_nil hrest
    exact ⟨second, rest, by rw [List.replicate_succ, List.cons_append, hcons]⟩
  rw [htext] at hascii hvalue ⊢
  have hnearest := number?_of_lt_overflow hascii hvalue
  have hover := number?_of_overflow_le hascii hvalue
  -- The nearest double is the number itself just when the number is a double.
  have hexact : number? ('0' :: second :: rest) = some (.int n) ↔ Binary64.IsExact n := by
    rcases Nat.lt_or_ge n Binary64.overflow with hlt | hge
    · obtain ⟨double, hnumber, hdouble⟩ := hnearest hlt
      rw [hnumber, ← hdouble.eq_iff]
      simp only [Option.some_inj, Number.int.injEq, Int.natCast_inj]
    · rw [hover hge]
      exact iff_of_false (by simp) fun hn ↦ absurd hn.lt_overflow (Nat.not_lt.2 hge)
  exact ⟨hexact, fun hle ↦ hexact.2 (Binary64.isExact_of_le hle), hnearest, hover⟩

/-- The greatest number up to which all are doubles. -/
def greatestSafe : List Char :=
  ['9', '0', '0', '7', '1', '9', '9', '2', '5', '4', '7', '4', '0', '9', '9', '2']

theorem number?_leading_zeros_greatestSafe :
    (∀ c ∈ greatestSafe, c.isDigit = true) ∧
      number? ('0' :: '0' :: greatestSafe) = some (.int (2 ^ 53)) := by
  have hdigits : ∀ c ∈ greatestSafe, c.isDigit = true := List.all_eq_true.1 (by decide)
  have hvalue : Nat.ofDigitChars 10 greatestSafe 0 = 2 ^ 53 := by decide
  have htwo : 1 ≤ 2 := by decide
  exact ⟨hdigits, (number?_leading_zeros (by decide) hdigits htwo hvalue).2.1 (Nat.le_refl _)⟩

/-- **A zero in front can change a number.** The one after the greatest safe number is no double,
and the nearest ones are as far below it as above. -/
theorem not_forall_number?_leading_zeros :
    ¬ ∀ (digits : List Char) (zeros : Nat), digits ≠ [] →
      (∀ c ∈ digits, c.isDigit = true) → 1 ≤ zeros → zeros + digits.length ≤ 4300 →
      number? (List.replicate zeros '0' ++ digits) =
        some (.int (Nat.ofDigitChars 10 digits 0)) := by
  intro h
  have hvalue := h
    ['9', '0', '0', '7', '1', '9', '9', '2', '5', '4', '7', '4', '0', '9', '9', '3'] 1
    (by decide) (List.all_eq_true.1 (by decide)) (by decide) (by decide)
  exact absurd hvalue (by decide +kernel)

end Literal

end CoffeeTree
