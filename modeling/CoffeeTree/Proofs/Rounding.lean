import CoffeeTree.Number.Binary64
import Mathlib.Algebra.Group.Nat.Defs
import Mathlib.Data.Nat.Dist

/-!
# Rounding integers to doubles

Which double an integer becomes. `IsExact` says which integers are doubles, and `IsNearest` what the
nearest one is, without a word on how it is found: no double is nearer, and if another one is as
near, the mantissa is even. Reading a decimal integer gives the nearest double up to the overflow
(`exists_ofRatio_one`), and infinity from there on (`ofRatio_one_of_le`).

The reader divides by a power of two and rounds the quotient. For a number of more than 53 bits the
doubles with as many bits are the multiples of that power, its *spacing*, so the nearest double is
the nearest multiple (`isNearest_roundQuotient`). A shorter number is a double itself.

Powers of two with an exponent that is a large numeral are never computed here. What is said about
them is said for any exponent first.
-/

namespace CoffeeTree.Binary64

/-! ### Rounding a quotient -/

section Quotient

variable {num den : Nat}

/-- A quotient is rounded down below the half and up above it, and a half goes to the even side. -/
theorem roundQuotient_cases (num den : Nat) :
    roundQuotient num den = num / den ∧ 2 * (num % den) ≤ den ∧
        (2 * (num % den) = den → num / den % 2 = 0) ∨
      roundQuotient num den = num / den + 1 ∧ den ≤ 2 * (num % den) ∧
        (2 * (num % den) = den → num / den % 2 = 1) := by
  simp only [roundQuotient]
  split
  · exact .inl ⟨rfl, by omega, by omega⟩
  · split
    · exact .inr ⟨rfl, by omega, by omega⟩
    · split
      · exact .inl ⟨rfl, by omega, fun _ ↦ by assumption⟩
      · exact .inr ⟨rfl, by omega, by omega⟩

theorem mul_add_le_of_lt {j k : Nat} (h : j < k) (den : Nat) : j * den + den ≤ k * den := by
  rw [← Nat.succ_mul]
  exact Nat.mul_le_mul_right den h

/-- **No multiple is nearer to a number than the one it is rounded to**, and where another one is as
near, the number was rounded to an even one. -/
theorem roundQuotient_nearest (hden : 0 < den) (j : Nat) :
    num.dist (roundQuotient num den * den) ≤ num.dist (j * den) ∧
      (j ≠ roundQuotient num den →
        num.dist (j * den) = num.dist (roundQuotient num den * den) →
          roundQuotient num den % 2 = 0) := by
  have hnum : num / den * den + num % den = num := Nat.div_add_mod' num den
  have hlt := Nat.mod_lt num hden
  -- The products are atoms from here on: each side is compared with the one it is next to.
  rcases roundQuotient_cases num den with ⟨heq, hhalf, heven⟩ | ⟨heq, hhalf, hodd⟩
  · rw [heq]
    unfold Nat.dist
    rcases Nat.lt_trichotomy j (num / den) with hj | rfl | hj
    · have hprod := mul_add_le_of_lt hj den
      omega
    · omega
    · have hprod := mul_add_le_of_lt hj den
      omega
  · rw [heq, Nat.succ_mul]
    unfold Nat.dist
    rcases Nat.lt_trichotomy j (num / den + 1) with hj | rfl | hj
    · have hprod := mul_add_le_of_lt hj den
      rw [Nat.succ_mul] at hprod
      omega
    · rw [Nat.succ_mul]
      omega
    · have hprod := mul_add_le_of_lt hj den
      rw [Nat.succ_mul] at hprod
      omega

/-- Above an odd quotient the half is rounded up. -/
theorem roundQuotient_le_iff (hden : 0 < den) {m : Nat} (hodd : m % 2 = 1) (hle : num / den ≤ m) :
    roundQuotient num den ≤ m ↔ 2 * num < 2 * (m * den) + den := by
  have hnum : num / den * den + num % den = num := Nat.div_add_mod' num den
  have hlt := Nat.mod_lt num hden
  rcases Nat.lt_or_eq_of_le hle with hsmall | rfl
  · have hprod := mul_add_le_of_lt hsmall den
    refine iff_of_true ?_ (by omega)
    rcases roundQuotient_cases num den with ⟨heq, -⟩ | ⟨heq, -⟩
    · omega
    · omega
  · rcases roundQuotient_cases num den with ⟨heq, hhalf, heven⟩ | ⟨heq, hhalf, -⟩
    · refine iff_of_true (by omega) ?_
      omega
    · refine iff_of_false (by omega) (by omega)

end Quotient

/-! ### Integers that are doubles -/

/-- The natural numbers that are doubles. -/
def IsExact (n : Nat) : Prop :=
  ∃ mantissa exponent, mantissa < 2 ^ 53 ∧ exponent ≤ 971 ∧ n = mantissa * 2 ^ exponent

/-- A double that is nearest to a number. If another one is as near, its mantissa of 53 bits is
even. -/
structure IsNearest (n double : Nat) : Prop where
  isExact : IsExact double
  dist_le : ∀ other, IsExact other → n.dist double ≤ n.dist other
  even : ∀ other, IsExact other → other ≠ double → n.dist other = n.dist double →
    ∃ half exponent, 2 ^ 51 ≤ half ∧ half < 2 ^ 52 ∧ double = 2 * half * 2 ^ exponent

/-- The least number that is not rounded to a double: it is halfway between the greatest double and
the power of two that comes next. -/
def overflow : Nat := (2 ^ 54 - 1) * 2 ^ 970

theorem two_pow_le_mul (k : Nat) : 2 ^ 53 ≤ (2 ^ 54 - 1) * 2 ^ k :=
  calc 2 ^ 53 ≤ 2 ^ 54 - 1 := by decide
    _ ≤ (2 ^ 54 - 1) * 2 ^ k := Nat.le_mul_of_pos_right _ (Nat.two_pow_pos k)

/-- Three bits are no more than a decimal digit. -/
theorem mul_le_ten_pow {k digits : Nat} (h : 54 + k ≤ 3 * digits) :
    (2 ^ 54 - 1) * 2 ^ k ≤ 10 ^ digits :=
  calc (2 ^ 54 - 1) * 2 ^ k ≤ 2 ^ 54 * 2 ^ k := Nat.mul_le_mul_right _ (Nat.sub_le _ _)
    _ = 2 ^ (54 + k) := (Nat.pow_add 2 54 k).symm
    _ ≤ 2 ^ (3 * digits) := Nat.pow_le_pow_right (by decide) h
    _ = (2 ^ 3) ^ digits := Nat.pow_mul 2 3 digits
    _ ≤ 10 ^ digits := Nat.pow_le_pow_left (by decide) digits

/-- A number with more digits is at least this large. -/
theorem ten_pow_le_of_lt_digitCount {n digits : Nat} (hpos : 0 < digits)
    (h : digits < digitCount n) : 10 ^ digits ≤ n := by
  by_contra hlt
  exact absurd ((Nat.length_toDigits_le_iff (by decide) hpos).2 (Nat.not_le.1 hlt))
    (Nat.not_le.2 h)

/-- A number of 53 bits is a double. -/
theorem isExact_of_lt {n : Nat} (h : n < 2 ^ 53) : IsExact n :=
  ⟨n, 0, h, Nat.zero_le _, (Nat.mul_one n).symm⟩

theorem isExact_of_le {n : Nat} (h : n ≤ 2 ^ 53) : IsExact n := by
  rcases Nat.lt_or_eq_of_le h with hlt | rfl
  · exact isExact_of_lt hlt
  · exact ⟨2 ^ 52, 1, by decide, by decide, by decide⟩

theorem mul_two_pow_lt {mantissa exponent k : Nat} (hmantissa : mantissa < 2 ^ 53)
    (hexponent : exponent ≤ k + 1) : mantissa * 2 ^ exponent < (2 ^ 54 - 1) * 2 ^ k := by
  have hle : mantissa * 2 ^ exponent ≤ (2 ^ 53 - 1) * 2 ^ (k + 1) :=
    Nat.mul_le_mul (Nat.le_pred_of_lt hmantissa) (Nat.pow_le_pow_right (by decide) hexponent)
  have hpos := Nat.two_pow_pos k
  rw [Nat.pow_succ] at hle
  omega

/-- No double is as large as what overflows. -/
theorem IsExact.lt_overflow {n : Nat} (h : IsExact n) : n < overflow := by
  obtain ⟨mantissa, exponent, hmantissa, hexponent, rfl⟩ := h
  exact mul_two_pow_lt hmantissa hexponent

/-- The nearest double to a double is itself. -/
theorem IsNearest.eq_iff {n double : Nat} (h : IsNearest n double) : double = n ↔ IsExact n := by
  constructor
  · rintro rfl
    exact h.isExact
  · intro hn
    have hdist := h.dist_le n hn
    rw [Nat.dist_self, Nat.le_zero] at hdist
    exact (Nat.eq_of_dist_eq_zero hdist).symm

/-- A double is nearest to itself. -/
theorem isNearest_self {n : Nat} (h : IsExact n) : IsNearest n n where
  isExact := h
  dist_le other _ := by
    rw [Nat.dist_self]
    exact Nat.zero_le _
  even other _ hne htie := by
    rw [Nat.dist_self] at htie
    exact absurd (Nat.eq_of_dist_eq_zero htie).symm hne

/-! ### Numbers of more than 53 bits -/

section Long

variable {n : Nat}

/-- The distance between doubles around a number that has more than 53 bits. -/
def spacing (n : Nat) : Nat := 2 ^ (n.log2 - 52)

theorem spacing_pos (n : Nat) : 0 < spacing n := Nat.two_pow_pos _

variable (hlong : 52 < n.log2)

include hlong

theorem ne_zero_of_lt_log2 : n ≠ 0 := by
  rintro rfl
  exact absurd hlong (by decide)

/-- The leading bit is 52 places above the last one that is kept. -/
theorem two_pow_log2_eq : 2 ^ n.log2 = 2 ^ 52 * spacing n := by
  rw [spacing, ← Nat.pow_add]
  congr 1
  omega

theorem mul_spacing_le : 2 ^ 52 * spacing n ≤ n :=
  two_pow_log2_eq hlong ▸ Nat.log2_self_le (ne_zero_of_lt_log2 hlong)

/-- Cut off after the last bit that is kept, a number has 53 bits. -/
theorem quotient_bounds : 2 ^ 52 ≤ n / spacing n ∧ n / spacing n < 2 ^ 53 := by
  have hpos := spacing_pos n
  have hpow := two_pow_log2_eq hlong
  constructor
  · rw [Nat.le_div_iff_mul_le hpos, ← hpow]
    exact Nat.log2_self_le (ne_zero_of_lt_log2 hlong)
  · have hlt : n < 2 ^ (n.log2 + 1) := Nat.lt_log2_self
    rw [Nat.pow_succ, hpow] at hlt
    rw [Nat.div_lt_iff_lt_mul hpos]
    omega

/-- The mantissa has 53 bits, or rounding has carried it to the next power of two. -/
theorem roundQuotient_bounds :
    2 ^ 52 ≤ roundQuotient n (spacing n) ∧ roundQuotient n (spacing n) ≤ 2 ^ 53 := by
  obtain ⟨hlower, hupper⟩ := quotient_bounds hlong
  rcases roundQuotient_cases n (spacing n) with ⟨heq, -⟩ | ⟨heq, -⟩
  · omega
  · omega

/-- Doubles that have as many bits as the number are multiples of the spacing. -/
theorem IsExact.exists_mul {u : Nat} (hu : IsExact u) (hle : 2 ^ n.log2 ≤ u) :
    ∃ j, u = j * spacing n := by
  obtain ⟨m, e, hm, -, rfl⟩ := hu
  have he : n.log2 - 52 ≤ e := by
    by_contra hlt
    have hpow : 2 ^ e * 2 ≤ spacing n := by
      rw [← Nat.pow_succ, spacing]
      exact Nat.pow_le_pow_right (by decide) (by omega)
    have hprod : m * 2 ^ e < 2 ^ 53 * 2 ^ e := Nat.mul_lt_mul_of_pos_right hm (Nat.two_pow_pos e)
    rw [two_pow_log2_eq hlong] at hle
    omega
  refine ⟨m * 2 ^ (e - (n.log2 - 52)), ?_⟩
  rw [spacing, Nat.mul_assoc, ← Nat.pow_add, Nat.sub_add_cancel he]

/-- **The nearest double is the nearest multiple of the spacing.** Doubles with fewer bits are
farther away than the least one with as many bits as the number. -/
theorem isNearest_roundQuotient (h : IsExact (roundQuotient n (spacing n) * spacing n)) :
    IsNearest n (roundQuotient n (spacing n) * spacing n) := by
  have hpos := spacing_pos n
  have hself := mul_spacing_le hlong
  -- Doubles with fewer bits are further away than the least one of the same length.
  have hshort : ∀ u, u < 2 ^ n.log2 →
      n.dist (roundQuotient n (spacing n) * spacing n) < n.dist u := by
    intro u hu
    have hleast : n.dist (roundQuotient n (spacing n) * spacing n) ≤
        n.dist (2 ^ 52 * spacing n) := (roundQuotient_nearest hpos (2 ^ 52)).1
    rw [two_pow_log2_eq hlong] at hu
    refine Nat.lt_of_le_of_lt hleast ?_
    rw [Nat.dist_eq_sub_of_le_right hself, Nat.dist_eq_sub_of_le_right (by omega)]
    omega
  refine ⟨h, fun other hother ↦ ?_, fun other hother hne htie ↦ ?_⟩
  · rcases Nat.lt_or_ge other (2 ^ n.log2) with hlt | hge
    · exact Nat.le_of_lt (hshort other hlt)
    · obtain ⟨j, rfl⟩ := hother.exists_mul hlong hge
      exact (roundQuotient_nearest hpos j).1
  · rcases Nat.lt_or_ge other (2 ^ n.log2) with hlt | hge
    · exact absurd htie.symm (Nat.ne_of_lt (hshort other hlt))
    · obtain ⟨j, rfl⟩ := hother.exists_mul hlong hge
      have hj : j ≠ roundQuotient n (spacing n) := by
        rintro rfl
        exact hne rfl
      have heven := (roundQuotient_nearest hpos j).2 hj htie
      obtain ⟨hlower, hupper⟩ := roundQuotient_bounds hlong
      -- In a tie the even one is taken. It is even also if rounding up gave one bit more.
      rcases Nat.lt_or_eq_of_le hupper with hlt | heq
      · refine ⟨roundQuotient n (spacing n) / 2, n.log2 - 52, by omega, by omega, ?_⟩
        rw [← spacing]
        congr 1
        omega
      · refine ⟨2 ^ 51, n.log2 - 51, Nat.le_refl _, by decide, ?_⟩
        have hspacing : 2 ^ (n.log2 - 51) = 2 * spacing n := by
          rw [spacing, ← Nat.pow_succ']
          congr 1
          omega
        rw [heq, hspacing]
        omega

/-- **When the nearest multiple of the spacing has an exponent up to a bound.** Only at the bound
does it depend on the mantissa, and there the half is too much, because the greatest mantissa is
odd. -/
theorem lt_mul_two_pow_iff (k : Nat) :
    n < (2 ^ 54 - 1) * 2 ^ k ↔ n.log2 - 52 ≤ k + 1 ∧
      (roundQuotient n (spacing n) = 2 ^ 53 → n.log2 - 52 ≤ k) := by
  have hlower := mul_spacing_le hlong
  have hupper : n < 2 ^ 52 * spacing n * 2 := by
    rw [← two_pow_log2_eq hlong, ← Nat.pow_succ]
    exact Nat.lt_log2_self
  have hmantissa := (roundQuotient_bounds hlong).2
  have hcarry : roundQuotient n (spacing n) ≤ 2 ^ 53 - 1 ↔
      2 * n < 2 * ((2 ^ 53 - 1) * spacing n) + spacing n :=
    roundQuotient_le_iff (spacing_pos n) (by decide) (Nat.le_pred_of_lt (quotient_bounds hlong).2)
  -- Only at one exponent does it matter whether the number is rounded up.
  rcases Nat.lt_trichotomy (n.log2 - 52) (k + 1) with hlt | heq | hgt
  · have hspacing : spacing n ≤ 2 ^ k := Nat.pow_le_pow_right (by decide) (by omega)
    refine iff_of_true ?_ ⟨by omega, fun _ ↦ by omega⟩
    generalize spacing n = s at *
    generalize 2 ^ k = unit at *
    omega
  · have hspacing : spacing n = 2 * 2 ^ k := by rw [spacing, heq, ← Nat.pow_succ']
    have hexponent : ¬ n.log2 - 52 ≤ k := by omega
    have hlt : n < (2 ^ 54 - 1) * 2 ^ k ↔ roundQuotient n (spacing n) ≤ 2 ^ 53 - 1 := by
      rw [hcarry, hspacing]
      generalize 2 ^ k = unit
      omega
    rw [hlt]
    constructor
    · intro hle
      exact ⟨by omega, fun hcarried ↦ absurd (hcarried ▸ hle) (by decide)⟩
    · rintro ⟨-, hnot⟩
      have hne : roundQuotient n (spacing n) ≠ 2 ^ 53 := fun hcarried ↦ hexponent (hnot hcarried)
      exact Nat.le_pred_of_lt (Nat.lt_of_le_of_ne hmantissa hne)
  · have hspacing : 2 ^ k * 2 ^ 2 ≤ spacing n := by
      rw [← Nat.pow_add]
      exact Nat.pow_le_pow_right (by decide) (by omega)
    refine iff_of_false ?_ fun h ↦ by omega
    generalize spacing n = s at *
    generalize 2 ^ k = unit at *
    omega

/-- A number overflows if its exponent does, after it was rounded up. -/
theorem lt_overflow_iff :
    n < overflow ↔ n.log2 - 52 ≤ 971 ∧
      (roundQuotient n (spacing n) = 2 ^ 53 → n.log2 - 52 ≤ 970) :=
  lt_mul_two_pow_iff hlong 970

end Long

/-! ### Reading an integer as a double -/

section Reading

variable {n : Nat}

/-- The exponent of an integer is that of its leading bit. -/
theorem binaryExponent_one (hn : n ≠ 0) : binaryExponent n 1 = n.log2 := by
  have hlog : (n.log2 : Int) - ((1 : Nat).log2 : Int) = n.log2 := Int.sub_zero _
  have hneg : (-(n.log2 : Int)).toNat = 0 := by omega
  rw [binaryExponent, hlog, Int.toNat_natCast, hneg, if_pos]
  show 1 * 2 ^ n.log2 ≤ n * 1
  rw [Nat.one_mul, Nat.mul_one]
  exact Nat.log2_self_le hn

/-- A double with an exponent that is not negative is an integer. -/
theorem toInt?_natCast (mantissa exponent : Nat) :
    toInt? (finite false mantissa exponent) = some ((mantissa * 2 ^ exponent : Nat) : Int) := by
  have hneg : (-(exponent : Int)).toNat = 0 := by omega
  simp only [toInt?, hneg, Int.toNat_natCast]
  simp [Nat.mod_one]

/-- Zero has no leading bit, hence a lemma of its own. -/
theorem toInt?_zero (exponent : Int) : toInt? (finite false 0 exponent) = some 0 := by
  simp [toInt?]

/-- A double whose bits behind the point are all zero is an integer. -/
theorem toInt?_neg (n bits : Nat) :
    toInt? (finite false (n * 2 ^ bits) (-(bits : Int))) = some (n : Int) := by
  have hneg : (-(bits : Int)).toNat = 0 := by omega
  have hscale : Nat.pow 2 bits = 2 ^ bits := rfl
  simp only [toInt?, Int.neg_neg, hneg, Int.toNat_natCast, hscale, Nat.mul_mod_left,
    Nat.mul_div_cancel n (Nat.two_pow_pos bits)]
  simp

/-- The double that a mantissa and an exponent make after rounding. A mantissa of 54 bits is carried
into the exponent. -/
theorem ofRatio_eq {num den mantissa : Nat} {exponent : Int} (hnum : num ≠ 0)
    (hexponent : max (binaryExponent num den - 52) leastExponent = exponent)
    (hmantissa : roundQuotient (num * Nat.pow 2 (-exponent).toNat)
      (den * Nat.pow 2 exponent.toNat) = mantissa) :
    ofRatio false num den =
      if mantissa = 2 ^ 53 then
        if greatestExponent < exponent + 1 then infinite false
        else finite false (2 ^ 52) (exponent + 1)
      else if greatestExponent < exponent then infinite false
      else finite false mantissa exponent := by
  simp only [ofRatio, if_neg hnum, hexponent, hmantissa]
  by_cases hcarry : mantissa = 2 ^ 53
  · have hcarry' : mantissa = Nat.pow 2 53 := hcarry
    rw [if_pos hcarry, if_pos hcarry']
    rfl
  · have hcarry' : ¬ mantissa = Nat.pow 2 53 := hcarry
    rw [if_neg hcarry, if_neg hcarry']

/-- A short number is moved up to 53 bits and not rounded. -/
theorem ofRatio_one_short (hn : n ≠ 0) (hshort : n.log2 ≤ 52) :
    ofRatio false n 1 = finite false (n * 2 ^ (52 - n.log2)) (-((52 - n.log2 : Nat) : Int)) := by
  have hexponent : max (binaryExponent n 1 - 52) leastExponent = -((52 - n.log2 : Nat) : Int) := by
    rw [binaryExponent_one hn, leastExponent]
    omega
  have hone : roundQuotient (n * 2 ^ (52 - n.log2)) 1 = n * 2 ^ (52 - n.log2) := by
    simp [roundQuotient, Nat.mod_one]
  -- Moved up, the number has 53 bits, so it is not carried.
  have hlt : n * 2 ^ (52 - n.log2) < 2 ^ 53 := by
    have hn : n < 2 ^ (n.log2 + 1) := Nat.lt_log2_self
    calc n * 2 ^ (52 - n.log2) < 2 ^ (n.log2 + 1) * 2 ^ (52 - n.log2) :=
          Nat.mul_lt_mul_of_pos_right hn (Nat.two_pow_pos _)
      _ = 2 ^ 53 := by
        rw [← Nat.pow_add]
        congr 1
        omega
  have hmantissa : roundQuotient (n * 2 ^ (- -((52 - n.log2 : Nat) : Int)).toNat)
      (1 * 2 ^ (-((52 - n.log2 : Nat) : Int)).toNat) = n * 2 ^ (52 - n.log2) := by
    have hneg : (-((52 - n.log2 : Nat) : Int)).toNat = 0 := by omega
    rw [Int.neg_neg, Int.toNat_natCast, hneg]
    exact hone
  rw [ofRatio_eq hn hexponent hmantissa, if_neg (Nat.ne_of_lt hlt), if_neg]
  rw [greatestExponent]
  omega

/-- A long one is rounded. Rounding up may need one bit more, which moves the exponent. -/
theorem ofRatio_one_long (hlong : 52 < n.log2) :
    ofRatio false n 1 =
      if roundQuotient n (spacing n) = 2 ^ 53 then
        if 970 < n.log2 - 52 then infinite false
        else finite false (2 ^ 52) ((n.log2 - 52 + 1 : Nat) : Int)
      else if 971 < n.log2 - 52 then infinite false
      else finite false (roundQuotient n (spacing n)) ((n.log2 - 52 : Nat) : Int) := by
  have hexponent : max (binaryExponent n 1 - 52) leastExponent = ((n.log2 - 52 : Nat) : Int) := by
    rw [binaryExponent_one (ne_zero_of_lt_log2 hlong), leastExponent]
    omega
  have hmantissa : roundQuotient (n * Nat.pow 2 (-((n.log2 - 52 : Nat) : Int)).toNat)
      (1 * Nat.pow 2 ((n.log2 - 52 : Nat) : Int).toNat) = roundQuotient n (spacing n) := by
    have hneg : (-((n.log2 - 52 : Nat) : Int)).toNat = 0 := by omega
    show roundQuotient (n * 2 ^ (-((n.log2 - 52 : Nat) : Int)).toNat)
      (1 * 2 ^ ((n.log2 - 52 : Nat) : Int).toNat) = roundQuotient n (spacing n)
    rw [hneg, Int.toNat_natCast, Nat.one_mul, Nat.pow_zero, Nat.mul_one, spacing]
  have hcarried : greatestExponent < ((n.log2 - 52 : Nat) : Int) + 1 ↔ 970 < n.log2 - 52 := by
    rw [greatestExponent]
    omega
  have hplain : greatestExponent < ((n.log2 - 52 : Nat) : Int) ↔ 971 < n.log2 - 52 := by
    rw [greatestExponent]
    omega
  rw [ofRatio_eq (ne_zero_of_lt_log2 hlong) hexponent hmantissa]
  simp only [hcarried, hplain]
  rfl

/-- **Up to the overflow an integer is read as the nearest double.** -/
theorem exists_ofRatio_one (hn : n ≠ 0) (h : n < overflow) :
    ∃ mantissa exponent double, ofRatio false n 1 = finite false mantissa exponent ∧
      toInt? (finite false mantissa exponent) = some ((double : Nat) : Int) ∧
      IsNearest n double := by
  rcases Nat.lt_or_ge 52 n.log2 with hlong | hshort
  · obtain ⟨hplain, hcarried⟩ := (lt_overflow_iff hlong).1 h
    have hbounds := roundQuotient_bounds hlong
    rw [ofRatio_one_long hlong]
    by_cases hcarry : roundQuotient n (spacing n) = 2 ^ 53
    · -- Rounded up to the next power of two, with the exponent moved.
      have hle := hcarried hcarry
      have hdouble : 2 ^ 52 * 2 ^ (n.log2 - 52 + 1) = roundQuotient n (spacing n) * spacing n := by
        rw [hcarry, spacing, Nat.pow_succ']
        omega
      have hexact : IsExact (roundQuotient n (spacing n) * spacing n) :=
        ⟨2 ^ 52, n.log2 - 52 + 1, by decide, by omega, hdouble.symm⟩
      rw [if_pos hcarry, if_neg (by omega)]
      refine ⟨_, _, _, rfl, toInt?_natCast _ _, ?_⟩
      rw [hdouble]
      exact isNearest_roundQuotient hlong hexact
    · have hexact : IsExact (roundQuotient n (spacing n) * spacing n) :=
        ⟨_, _, Nat.lt_of_le_of_ne hbounds.2 hcarry, hplain, rfl⟩
      rw [if_neg hcarry, if_neg (by omega)]
      exact ⟨_, _, _, rfl, toInt?_natCast _ _, isNearest_roundQuotient hlong hexact⟩
  · have hlt : n < 2 ^ 53 := (Nat.log2_lt hn).1 (by omega)
    exact ⟨_, _, n, ofRatio_one_short hn hshort, toInt?_neg n _,
      isNearest_self (isExact_of_lt hlt)⟩

/-- From the overflow on an integer is read as infinity. -/
theorem ofRatio_one_of_le (h : overflow ≤ n) : ofRatio false n 1 = infinite false := by
  have hlong : 52 < n.log2 := by
    have hle := Nat.le_trans (two_pow_le_mul 970) h
    have hn : n ≠ 0 := Nat.ne_of_gt (Nat.lt_of_lt_of_le (Nat.two_pow_pos 53) hle)
    exact (Nat.le_log2 hn).2 hle
  have hnot := mt (lt_overflow_iff hlong).2 (Nat.not_lt.2 h)
  rw [ofRatio_one_long hlong]
  by_cases hcarry : roundQuotient n (spacing n) = 2 ^ 53
  · rw [if_pos hcarry, if_pos]
    by_contra hle
    exact hnot ⟨by omega, fun _ ↦ by omega⟩
  · rw [if_neg hcarry, if_pos]
    by_contra hle
    exact hnot ⟨by omega, fun hcarried ↦ absurd hcarried hcarry⟩

/-- An integer is read from its digits as it is from its value. Where the number of digits settles
the answer, the value is beyond the overflow. -/
theorem ofDecimal_natural (hn : n ≠ 0) : ofDecimal false n 0 = ofRatio false n 1 := by
  have hguard : ¬ (decide (n = 0) || decide ((digitCount n : Int) + 0 < -400)) = true := by
    simp only [Bool.or_eq_true, decide_eq_true_eq, hn, false_or]
    omega
  rw [ofDecimal, if_neg hguard]
  split
  · next hdigits =>
    have hcount : 400 < digitCount n := by omega
    have hle := ten_pow_le_of_lt_digitCount (by decide) hcount
    exact (ofRatio_one_of_le (Nat.le_trans (mul_le_ten_pow (by decide)) hle)).symm
  · show ofRatio false (n * 1) 1 = ofRatio false n 1
    rw [Nat.mul_one]

end Reading

end CoffeeTree.Binary64
