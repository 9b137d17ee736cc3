import Mathlib.Algebra.Order.Field.Basic
import Mathlib.Data.List.DropRight
import Mathlib.Data.Rat.Floor
import Mathlib.Tactic.FieldSimp
import Mathlib.Tactic.Positivity

/-!
Decimal digits and decimal numerals.

A string of digits spells a natural number, and behind a point a fraction. Zeros in front
of a number and behind a fraction change nothing, and without them the digits are
determined by what they spell. A `Numeral` is written without them, so that two numerals
of one value are the same.
-/

namespace Decimal

/-- The number that the digits spell. -/
def value (cs : List Char) : ℕ := Nat.ofDigitChars 10 cs 0

def IsDigits (cs : List Char) : Prop := ∀ c ∈ cs, c.isDigit = true

instance (cs : List Char) : Decidable (IsDigits cs) :=
  inferInstanceAs (Decidable (∀ c ∈ cs, c.isDigit = true))

/-! ### What digits spell -/

section Value

variable {xs ys cs : List Char} {c : Char}

@[simp] theorem value_nil : value [] = 0 := rfl

@[simp] theorem value_append (xs ys : List Char) :
    value (xs ++ ys) = value xs * 10 ^ ys.length + value ys := by
  rw [value, Nat.ofDigitChars_append, Nat.ofDigitChars_eq_ofDigitChars_zero, Nat.mul_comm]
  rfl

@[simp] theorem value_singleton (c : Char) : value [c] = c.toNat - 48 := by
  simp [value, Nat.ofDigitChars_cons, Nat.ofDigitChars_nil]

@[simp] theorem value_replicate_zero (n : ℕ) : value (List.replicate n '0') = 0 := by
  rw [value, Nat.ofDigitChars_replicate_zero, Nat.mul_zero]

theorem value_toDigits (n : ℕ) : value (Nat.toDigits 10 n) = n := Nat.ofDigitChars_ten_toDigits

theorem isDigits_toDigits (n : ℕ) : IsDigits (Nat.toDigits 10 n) := fun _ hc =>
  Nat.isDigit_of_mem_toDigits (by decide) (by decide) hc

theorem isDigits_append : IsDigits (xs ++ ys) ↔ IsDigits xs ∧ IsDigits ys := List.forall_mem_append

@[simp] theorem isDigits_nil : IsDigits [] := fun _ hc => absurd hc List.not_mem_nil

theorem isDigits_replicate_zero (n : ℕ) : IsDigits (List.replicate n '0') := fun _ hc => by
  rw [List.eq_of_mem_replicate hc]
  rfl

@[simp] theorem isDigits_zero : IsDigits ['0'] := isDigits_replicate_zero 1

theorem digit_range (h : c.isDigit = true) : 48 ≤ c.toNat ∧ c.toNat ≤ 57 :=
  Char.isDigit_iff_toNat.mp h

theorem value_lt (h : IsDigits cs) : value cs < 10 ^ cs.length := by
  induction cs using List.reverseRecOn with
  | nil => decide
  | append_singleton cs c ih =>
      obtain ⟨hcs, hc⟩ := isDigits_append.mp h
      have hrange := digit_range (hc c List.mem_cons_self)
      have hlt := ih hcs
      rw [value_append, value_singleton, List.length_append, List.length_singleton, pow_succ]
      omega

/-- Digits are told apart by their number and what they spell. -/
theorem eq_of_value_eq (hxs : IsDigits xs) (hys : IsDigits ys) (hlen : xs.length = ys.length)
    (h : value xs = value ys) : xs = ys := by
  induction xs using List.reverseRecOn generalizing ys with
  | nil => exact (List.eq_nil_of_length_eq_zero hlen.symm).symm
  | append_singleton xs x ih =>
      rcases List.eq_nil_or_concat ys with rfl | ⟨ys, y, rfl⟩
      · simp at hlen
      · rw [List.concat_eq_append] at hys hlen h ⊢
        obtain ⟨hxs, hx⟩ := isDigits_append.mp hxs
        obtain ⟨hys, hy⟩ := isDigits_append.mp hys
        have hxrange := digit_range (hx x List.mem_cons_self)
        have hyrange := digit_range (hy y List.mem_cons_self)
        simp only [value_append, value_singleton, List.length_singleton, pow_one] at h
        have heq : xs = ys := ih hxs hys (by simpa using hlen) (by omega)
        have hlast : x = y := Char.toNat_inj.mp (by omega)
        rw [heq, hlast]

end Value

/-! ### Zeros in front -/

section Leading

variable {xs ys cs : List Char}

/-- The digits without the zeros in front. -/
def dropZeros (cs : List Char) : List Char := cs.dropWhile (· == '0')

theorem exists_eq_zeros_append (cs : List Char) :
    ∃ n, cs = List.replicate n '0' ++ dropZeros cs := by
  refine ⟨(cs.takeWhile (· == '0')).length, ?_⟩
  have hzeros : cs.takeWhile (· == '0') =
      List.replicate (cs.takeWhile (· == '0')).length '0' :=
    List.eq_replicate_of_mem fun c hc => by simpa using List.mem_takeWhile_imp hc
  rw [dropZeros, ← hzeros, List.takeWhile_append_dropWhile]

@[simp] theorem value_dropZeros (cs : List Char) : value (dropZeros cs) = value cs := by
  obtain ⟨n, hn⟩ := exists_eq_zeros_append cs
  conv_rhs => rw [hn, value_append, value_replicate_zero, Nat.zero_mul, Nat.zero_add]

theorem isDigits_dropZeros (h : IsDigits cs) : IsDigits (dropZeros cs) := fun _ hc =>
  h _ ((List.dropWhile_sublist _).mem hc)

theorem head?_dropZeros (cs : List Char) : (dropZeros cs).head? ≠ some '0' := by
  intro h
  have hnot := List.head?_dropWhile_not (· == '0') cs
  rw [← dropZeros, h] at hnot
  simp at hnot

theorem dropZeros_eq_self (h : cs.head? ≠ some '0') : dropZeros cs = cs := by
  cases cs with
  | nil => rfl
  | cons c cs =>
      have hc : ¬ c = '0' := fun heq => h (congrArg some heq)
      exact List.dropWhile_cons_of_neg (by simpa using hc)

@[simp] theorem dropZeros_zeros_append (n : ℕ) (cs : List Char) :
    dropZeros (List.replicate n '0' ++ cs) = dropZeros cs :=
  List.dropWhile_append_of_pos fun c hc => by simpa using List.eq_of_mem_replicate hc

/-- Something is left of the digits unless they spell zero. -/
theorem dropZeros_eq_nil_iff (h : IsDigits cs) : dropZeros cs = [] ↔ value cs = 0 := by
  constructor
  · intro hnil
    rw [← value_dropZeros, hnil, value_nil]
  · intro hzero
    rw [← value_dropZeros] at hzero
    have hlead := head?_dropZeros cs
    have hdigits := isDigits_dropZeros h
    cases hcs : dropZeros cs with
    | nil => rfl
    | cons c rest =>
        rw [hcs] at hzero hlead hdigits
        rw [← List.singleton_append, value_append, value_singleton] at hzero
        have hrange := digit_range (hdigits c List.mem_cons_self)
        have hne : c.toNat ≠ 48 := fun heq => hlead (congrArg some (Char.toNat_inj.mp heq))
        have hpos : 0 < (c.toNat - 48) * 10 ^ rest.length :=
          Nat.mul_pos (by omega) (Nat.pow_pos (by decide))
        omega

/-- Without zeros in front, the digits are those of the number that they spell. -/
theorem toDigits_value (h : IsDigits cs) (hne : cs ≠ []) (hlead : cs.head? ≠ some '0') :
    Nat.toDigits 10 (value cs) = cs := by
  induction cs using List.reverseRecOn with
  | nil => exact absurd rfl hne
  | append_singleton cs c ih =>
      obtain ⟨hcs, hc⟩ := isDigits_append.mp h
      have hrange := digit_range (hc c List.mem_cons_self)
      have hchar : (c.toNat - 48).digitChar = c := by
        refine Char.toNat_inj.mp ?_
        rw [Nat.toNat_digitChar_of_lt_ten (by omega)]
        omega
      rw [value_append, value_singleton, List.length_singleton, pow_one]
      by_cases hnil : cs = []
      · rw [hnil, value_nil, Nat.zero_mul, Nat.zero_add, Nat.toDigits_of_lt_base (by omega), hchar]
        rfl
      · have hlead' : cs.head? ≠ some '0' := by rwa [List.head?_append_of_ne_nil _ hnil] at hlead
        have hpos : 0 < value cs := by
          refine Nat.pos_of_ne_zero fun hzero => ?_
          rw [← dropZeros_eq_nil_iff hcs, dropZeros_eq_self hlead'] at hzero
          exact hnil hzero
        rw [Nat.mul_comm, ← Nat.toDigits_append_toDigits (by decide) hpos (by omega),
          ih hcs hnil hlead', Nat.toDigits_of_lt_base (by omega), hchar]

theorem head?_toDigits {n : ℕ} (h : n ≠ 0) : (Nat.toDigits 10 n).head? ≠ some '0' := by
  have hdigits := isDigits_dropZeros (isDigits_toDigits n)
  have hne : dropZeros (Nat.toDigits 10 n) ≠ [] := by
    rw [ne_eq, dropZeros_eq_nil_iff (isDigits_toDigits n), value_toDigits]
    exact h
  have heq := toDigits_value hdigits hne (head?_dropZeros _)
  rw [value_dropZeros, value_toDigits] at heq
  rw [heq]
  exact head?_dropZeros _

end Leading

/-! ### Fractions -/

section Fraction

variable {xs ys cs : List Char}

/-- What the digits spell behind a point. -/
def fraction (cs : List Char) : ℚ := value cs / 10 ^ cs.length

/-- The digits without the zeros behind. -/
def trimZeros (cs : List Char) : List Char := cs.rdropWhile (· == '0')

@[simp] theorem fraction_nil : fraction [] = 0 := by simp [fraction]

theorem fraction_nonneg (cs : List Char) : 0 ≤ fraction cs := by
  rw [fraction]
  positivity

theorem fraction_lt_one (h : IsDigits cs) : fraction cs < 1 := by
  rw [fraction, div_lt_one (by positivity)]
  exact_mod_cast value_lt h

/-- The digits behind the first ones count for less. -/
theorem fraction_append (xs ys : List Char) :
    fraction (xs ++ ys) = fraction xs + fraction ys / 10 ^ xs.length := by
  simp only [fraction, value_append, List.length_append, Nat.cast_add, Nat.cast_mul, Nat.cast_pow,
    Nat.cast_ofNat, pow_add]
  field_simp

@[simp] theorem fraction_append_zeros (cs : List Char) (n : ℕ) :
    fraction (cs ++ List.replicate n '0') = fraction cs := by
  have hzero : fraction (List.replicate n '0') = 0 := by
    rw [fraction, value_replicate_zero, Nat.cast_zero, zero_div]
  rw [fraction_append, hzero, zero_div, add_zero]

theorem exists_eq_append_zeros (cs : List Char) :
    ∃ n, cs = trimZeros cs ++ List.replicate n '0' := by
  induction cs using List.reverseRecOn with
  | nil => exact ⟨0, rfl⟩
  | append_singleton cs c ih =>
      rw [trimZeros, List.rdropWhile_concat]
      split
      · rename_i hc
        obtain ⟨n, hn⟩ := ih
        refine ⟨n + 1, ?_⟩
        rw [List.replicate_succ', ← List.append_assoc, ← trimZeros, ← hn, eq_of_beq hc]
      · exact ⟨0, by rw [List.replicate_zero, List.append_nil]⟩

@[simp] theorem fraction_trimZeros (cs : List Char) : fraction (trimZeros cs) = fraction cs := by
  obtain ⟨n, hn⟩ := exists_eq_append_zeros cs
  conv_rhs => rw [hn, fraction_append_zeros]

theorem isDigits_trimZeros (h : IsDigits cs) : IsDigits (trimZeros cs) := fun _ hc =>
  h _ ((List.rdropWhile_prefix _ _).mem hc)

theorem getLast?_trimZeros (cs : List Char) : (trimZeros cs).getLast? ≠ some '0' := by
  intro h
  have hne : trimZeros cs ≠ [] := by
    rintro hnil
    rw [hnil] at h
    cases h
  have hlast := List.rdropWhile_last_not (· == '0') cs hne
  rw [List.getLast?_eq_some_getLast hne, Option.some.injEq] at h
  exact hlast (beq_iff_eq.mpr h)

theorem trimZeros_append_zeros (h : cs.getLast? ≠ some '0') (n : ℕ) :
    trimZeros (cs ++ List.replicate n '0') = cs := by
  induction n with
  | zero =>
      rw [List.replicate_zero, List.append_nil]
      refine List.rdropWhile_eq_self_iff.mpr fun hne hlast => h ?_
      rw [List.getLast?_eq_some_getLast hne, beq_iff_eq.mp hlast]
  | succ n ih =>
      rw [List.replicate_succ', ← List.append_assoc, trimZeros,
        List.rdropWhile_concat_pos _ _ _ rfl]
      exact ih

/-- Without zeros behind, digits are told apart by the fraction that they spell. -/
theorem eq_of_fraction_eq (hxs : IsDigits xs) (hys : IsDigits ys) (hx : xs.getLast? ≠ some '0')
    (hy : ys.getLast? ≠ some '0') (h : fraction xs = fraction ys) : xs = ys := by
  have hvalue : value (xs ++ List.replicate ys.length '0') =
      value (ys ++ List.replicate xs.length '0') := by
    rw [fraction, fraction, div_eq_div_iff (by positivity) (by positivity)] at h
    simp only [value_append, value_replicate_zero, List.length_replicate, Nat.add_zero]
    exact_mod_cast h
  have heq := eq_of_value_eq
    (isDigits_append.mpr ⟨hxs, isDigits_replicate_zero ys.length⟩)
    (isDigits_append.mpr ⟨hys, isDigits_replicate_zero xs.length⟩)
    (by simp only [List.length_append, List.length_replicate]; exact Nat.add_comm _ _) hvalue
  rw [← trimZeros_append_zeros hx ys.length, heq, trimZeros_append_zeros hy]

/-- The first places of a fraction, with zeros where it has none. -/
theorem floor_fraction_mul_pow (h : IsDigits cs) (n : ℕ) :
    ⌊fraction cs * 10 ^ n⌋₊ = value ((cs ++ List.replicate (n - cs.length) '0').take n) := by
  have hall := isDigits_append.mpr ⟨h, isDigits_replicate_zero (n - cs.length)⟩
  have hlen : n ≤ (cs ++ List.replicate (n - cs.length) '0').length := by
    rw [List.length_append, List.length_replicate]
    omega
  rw [← fraction_append_zeros cs (n - cs.length)]
  generalize cs ++ List.replicate (n - cs.length) '0' = padded at hall hlen ⊢
  have hrest : IsDigits (padded.drop n) := fun c hc => hall c (List.mem_of_mem_drop hc)
  have htake : (padded.take n).length = n := by rw [List.length_take, min_eq_left hlen]
  have hsplit : fraction padded * 10 ^ n = fraction (padded.drop n) + value (padded.take n) := by
    conv_lhs => rw [← List.take_append_drop n padded, fraction_append]
    rw [htake, fraction, htake]
    field_simp
    ring
  rw [hsplit, Nat.floor_add_natCast (fraction_nonneg _),
    Nat.floor_eq_zero.mpr (fraction_lt_one hrest), Nat.zero_add]

end Fraction

/-! ### Moving the point -/

/-- Moving the point to the right adds to a number with a whole part. -/
theorem mul_pow_lt_one_of_floor_eq {y : ℚ} (hy : 0 ≤ y) {k : ℕ} (hk : k ≠ 0)
    (h : ⌊y⌋₊ = ⌊y * 10 ^ k⌋₊) : y * 10 ^ k < 1 := by
  by_contra hge
  have hpos : 1 ≤ ⌊y * 10 ^ k⌋₊ := Nat.le_floor (by simpa using not_lt.mp hge)
  have hten : (10 : ℚ) ≤ 10 ^ k := by
    calc (10 : ℚ) = 10 ^ 1 := (pow_one _).symm
      _ ≤ 10 ^ k := pow_le_pow_right₀ (by norm_num) (Nat.one_le_iff_ne_zero.mpr hk)
  have hle : 10 * ⌊y⌋₊ ≤ ⌊y * 10 ^ k⌋₊ := by
    refine Nat.le_floor ?_
    calc ((10 * ⌊y⌋₊ : ℕ) : ℚ) = ⌊y⌋₊ * 10 := by push_cast; ring
      _ ≤ y * 10 ^ k := mul_le_mul (Nat.floor_le hy) hten (by norm_num) hy
  omega

theorem lt_one_of_mul_pow_lt_one {y : ℚ} (hy : 0 ≤ y) {k : ℕ} (h : y * 10 ^ k < 1) : y < 1 :=
  (le_mul_of_one_le_right hy (one_le_pow₀ (by norm_num))).trans_lt h

/-- A power of ten other than one leaves the whole part of a number as it is if and only
if there is none, before and after. -/
theorem floor_mul_zpow_eq_iff {y : ℚ} (hy : 0 ≤ y) (e : ℤ) :
    ⌊y⌋₊ = ⌊y * 10 ^ e⌋₊ ↔ e = 0 ∨ (y < 1 ∧ y * 10 ^ e < 1) := by
  constructor
  · intro h
    by_cases hzero : e = 0
    · exact .inl hzero
    · refine .inr ?_
      obtain ⟨k, rfl | rfl⟩ := Int.eq_nat_or_neg e
      · rw [zpow_natCast] at h ⊢
        have hlt := mul_pow_lt_one_of_floor_eq hy (by simpa using hzero) h
        exact ⟨lt_one_of_mul_pow_lt_one hy hlt, hlt⟩
      · have hback : y * 10 ^ (-(k : ℤ)) * 10 ^ k = y := by
          rw [zpow_neg, zpow_natCast, mul_assoc, inv_mul_cancel₀ (by positivity), mul_one]
        have hnonneg : 0 ≤ y * 10 ^ (-(k : ℤ)) := mul_nonneg hy (zpow_nonneg (by norm_num) _)
        have hlt : y < 1 := by
          have hlt := mul_pow_lt_one_of_floor_eq hnonneg (k := k) (by simpa using hzero)
            (by rw [hback, h])
          rwa [hback] at hlt
        exact ⟨hlt, lt_one_of_mul_pow_lt_one hnonneg (by rwa [hback])⟩
  · rintro (rfl | ⟨hlt, hlt'⟩)
    · rw [zpow_zero, mul_one]
    · rw [Nat.floor_eq_zero.mpr hlt, Nat.floor_eq_zero.mpr hlt']

/-! ### Digits with a point -/

section Point

variable {whole frac whole' frac' : List Char}

/-- The digits with a point before the fraction, if there is one. -/
def pointText (whole frac : List Char) : List Char :=
  whole ++ if frac = [] then [] else '.' :: frac

theorem takeWhile_pointText (h : IsDigits whole) (frac : List Char) :
    (pointText whole frac).takeWhile Char.isDigit = whole := by
  rw [pointText, List.takeWhile_append_of_pos h]
  split
  · exact List.append_nil _
  · exact List.append_nil _

/-- The digits are read back from the text. -/
theorem pointText_injective (h : IsDigits whole) (h' : IsDigits whole')
    (heq : pointText whole frac = pointText whole' frac') : whole = whole' ∧ frac = frac' := by
  have hwhole : whole = whole' := by
    rw [← takeWhile_pointText h frac, heq, takeWhile_pointText h']
  refine ⟨hwhole, ?_⟩
  rw [pointText, pointText, hwhole, List.append_cancel_left_eq] at heq
  split at heq
  · split at heq
    · exact ‹frac = []›.trans ‹frac' = []›.symm
    · cases heq
  · split at heq
    · cases heq
    · exact (List.cons.inj heq).2

end Point

/-! ### Numerals -/

/-- A decimal number as it is written: no zeros in front but the one of a fraction, none
behind, no point without a fraction, and no sign at zero. -/
@[ext]
structure Numeral where
  negative : Bool
  whole : List Char
  frac : List Char
  whole_digits : IsDigits whole
  whole_ne : whole ≠ []
  no_zeros_in_front : whole.head? = some '0' → whole = ['0']
  frac_digits : IsDigits frac
  no_zeros_behind : frac.getLast? ≠ some '0'
  no_signed_zero : negative = true → whole ≠ ['0'] ∨ frac ≠ []

namespace Numeral

variable (n : Numeral)

def abs : ℚ := value n.whole + fraction n.frac

def toRat : ℚ := if n.negative then -n.abs else n.abs

def unsigned : List Char := pointText n.whole n.frac

def text : String := String.ofList (if n.negative then '-' :: n.unsigned else n.unsigned)

/-- Zero is one digit. -/
def zero : Numeral where
  negative := false
  whole := ['0']
  frac := []
  whole_digits := isDigits_zero
  whole_ne := List.cons_ne_nil _ _
  no_zeros_in_front := fun _ => rfl
  frac_digits := isDigits_nil
  no_zeros_behind := by decide
  no_signed_zero := by decide

variable {n} {m : Numeral}

theorem abs_nonneg : 0 ≤ n.abs := add_nonneg (Nat.cast_nonneg _) (fraction_nonneg _)

theorem abs_pos_of_negative (h : n.negative = true) : 0 < n.abs := by
  rcases n.no_signed_zero h with hwhole | hfrac
  · have hlead : n.whole.head? ≠ some '0' := fun h0 => hwhole (n.no_zeros_in_front h0)
    have hpos : value n.whole ≠ 0 := by
      rw [ne_eq, ← dropZeros_eq_nil_iff n.whole_digits, dropZeros_eq_self hlead]
      exact n.whole_ne
    exact add_pos_of_pos_of_nonneg (Nat.cast_pos.mpr (Nat.pos_of_ne_zero hpos)) (fraction_nonneg _)
  · have hpos : fraction n.frac ≠ 0 := fun hzero => hfrac <|
      eq_of_fraction_eq n.frac_digits isDigits_nil n.no_zeros_behind
        (by simp) (by rw [hzero, fraction_nil])
    exact add_pos_of_nonneg_of_pos (Nat.cast_nonneg _)
      (lt_of_le_of_ne (fraction_nonneg _) hpos.symm)

theorem negative_iff : n.negative = true ↔ n.toRat < 0 := by
  rw [toRat]
  cases h : n.negative with
  | true => simpa using abs_pos_of_negative h
  | false => simpa using n.abs_nonneg

/-- The digits before the point are determined by the number. -/
theorem whole_eq (h : value n.whole = value m.whole) : n.whole = m.whole := by
  have hzero : ∀ k : Numeral, k.whole.head? = some '0' ↔ value k.whole = 0 := by
    intro k
    constructor
    · intro h0
      rw [k.no_zeros_in_front h0]
      rfl
    · intro h0
      by_contra hlead
      rw [← dropZeros_eq_nil_iff k.whole_digits, dropZeros_eq_self hlead] at h0
      exact k.whole_ne h0
  by_cases h0 : value n.whole = 0
  · rw [n.no_zeros_in_front ((hzero n).mpr h0), m.no_zeros_in_front ((hzero m).mpr (h ▸ h0))]
  · rw [← toDigits_value n.whole_digits n.whole_ne fun hn => h0 ((hzero n).mp hn), h,
      toDigits_value m.whole_digits m.whole_ne fun hm => h0 (h ▸ (hzero m).mp hm)]

theorem eq_of_abs_eq (hsign : n.negative = m.negative) (h : n.abs = m.abs) : n = m := by
  have hfloor : ∀ k : Numeral, ⌊k.abs⌋₊ = value k.whole := fun k => by
    rw [abs, add_comm, Nat.floor_add_natCast (fraction_nonneg _),
      Nat.floor_eq_zero.mpr (fraction_lt_one k.frac_digits), Nat.zero_add]
  have hvalue : value n.whole = value m.whole := by rw [← hfloor, ← hfloor, h]
  have hfrac : fraction n.frac = fraction m.frac := by
    rw [abs, abs, hvalue] at h
    exact add_left_cancel h
  exact Numeral.ext hsign (whole_eq hvalue)
    (eq_of_fraction_eq n.frac_digits m.frac_digits n.no_zeros_behind m.no_zeros_behind hfrac)

/-- Two numerals of one number are the same. -/
theorem toRat_injective (h : n.toRat = m.toRat) : n = m := by
  have hsign : n.negative = m.negative := by
    rw [Bool.eq_iff_iff, negative_iff, negative_iff, h]
  refine eq_of_abs_eq hsign ?_
  rw [toRat, toRat, hsign] at h
  split at h
  · exact neg_injective h
  · exact h

/-! #### Texts of numerals -/

theorem head?_unsigned : n.unsigned.head? ≠ some '-' := by
  intro h
  rw [unsigned, pointText, List.head?_append_of_ne_nil _ n.whole_ne] at h
  have hdigit := n.whole_digits '-' (List.mem_of_mem_head? h)
  cases hdigit

/-- Two numerals with one text are the same. -/
theorem text_injective (h : n.text = m.text) : n = m := by
  have hlist := String.ofList_inj.mp h
  cases hn : n.negative with
  | true =>
      cases hm : m.negative with
      | true =>
          rw [hn, hm, if_pos rfl, if_pos rfl] at hlist
          obtain ⟨hwhole, hfrac⟩ :=
            pointText_injective n.whole_digits m.whole_digits (List.cons.inj hlist).2
          exact Numeral.ext (hn.trans hm.symm) hwhole hfrac
      | false =>
          rw [hn, hm, if_pos rfl, if_neg Bool.false_ne_true] at hlist
          exact absurd (congrArg List.head? hlist).symm head?_unsigned
  | false =>
      cases hm : m.negative with
      | true =>
          rw [hn, hm, if_neg Bool.false_ne_true, if_pos rfl] at hlist
          exact absurd (congrArg List.head? hlist) head?_unsigned
      | false =>
          rw [hn, hm, if_neg Bool.false_ne_true, if_neg Bool.false_ne_true] at hlist
          obtain ⟨hwhole, hfrac⟩ := pointText_injective n.whole_digits m.whole_digits hlist
          exact Numeral.ext (hn.trans hm.symm) hwhole hfrac

/-- A numeral and its text say the same of the number. -/
theorem text_eq_iff : n.text = m.text ↔ n.toRat = m.toRat := by
  constructor
  · intro h
    rw [text_injective h]
  · intro h
    rw [toRat_injective h]

end Numeral

end Decimal
