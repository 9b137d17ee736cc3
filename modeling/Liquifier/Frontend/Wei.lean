import Liquifier.Frontend.LiveData
import Liquifier.Lib.Decimal

/-!
Amounts in the wizard.

The user types an amount in whole tokens and the page sends it in the smallest unit.
`Number()` says whether the text is a number, and `toWei` moves the point in the text:
it cuts the text at the point and does not look at what stands on either side. So it
reads an exponent, a sign or a blank that `Number()` accepts as if it were a digit, unless
that stands behind the places that it keeps.
-/

namespace Liquifier.Frontend

open Decimal

/-! ### `Number` of a text -/

/-- A decimal literal: the digits before the point and behind it, and the exponent. -/
structure DecimalLiteral where
  negative : Bool
  whole : List Char
  frac : List Char
  exponent : ℤ
  deriving DecidableEq

namespace DecimalLiteral

variable (d : DecimalLiteral)

def mantissa : ℚ := value d.whole + fraction d.frac

def toRat : ℚ := (if d.negative then -d.mantissa else d.mantissa) * 10 ^ d.exponent

end DecimalLiteral

inductive StrNumericLiteral where
  | decimal (d : DecimalLiteral)
  | nonDecimal (n : ℕ)
  | infinity (negative : Bool)
  deriving DecidableEq

/-- `ExponentPart`, or nothing. -/
def exponentPart : List Char → Option ℤ
  | [] => some 0
  | c :: cs => if c = 'e' ∨ c = 'E' then signedValue cs else none

/-- `StrUnsignedDecimalLiteral` but `Infinity`. -/
def unsignedDecimal (negative : Bool) (cs : List Char) : Option DecimalLiteral :=
  let whole := cs.takeWhile Char.isDigit
  match cs.dropWhile Char.isDigit with
  | '.' :: rest =>
      let frac := rest.takeWhile Char.isDigit
      if whole = [] ∧ frac = [] then none
      else (exponentPart (rest.dropWhile Char.isDigit)).map (⟨negative, whole, frac, ·⟩)
  | rest =>
      if whole = [] then none
      else (exponentPart rest).map (⟨negative, whole, [], ·⟩)

def strUnsignedDecimalLiteral (negative : Bool) (cs : List Char) : Option StrNumericLiteral :=
  if cs = "Infinity".toList then some (.infinity negative)
  else (unsignedDecimal negative cs).map .decimal

def strDecimalLiteral : List Char → Option StrNumericLiteral
  | '-' :: cs => strUnsignedDecimalLiteral true cs
  | '+' :: cs => strUnsignedDecimalLiteral false cs
  | cs => strUnsignedDecimalLiteral false cs

/-- The literal that `Number(s)` reads, and `none` where it is `NaN`. A text of blanks is
zero. -/
def stringNumericLiteral (s : String) : Option StrNumericLiteral :=
  let cs := strTrim s.toList
  if cs = [] then some (.decimal ⟨false, [], [], 0⟩)
  else
    match radixPrefix cs with
    | some (radix, ds) => (digitsValue radix ds).map .nonDecimal
    | none => strDecimalLiteral cs

def isNaN (s : String) : Bool := (stringNumericLiteral s).isNone

/-- The finite number that a text denotes. -/
def finiteNumber (s : String) : Option ℚ :=
  (stringNumericLiteral s).bind fun
    | .decimal d => some d.toRat
    | .nonDecimal n => some n
    | .infinity _ => none

/-! ### The wizard -/

/-- `s.padEnd(n, "0")`. -/
def padEnd (cs : List Char) (n : ℕ) : List Char := cs ++ List.replicate (n - cs.length) '0'

/-- `s.padStart(n, "0")`. -/
def padStart (cs : List Char) (n : ℕ) : List Char := List.replicate (n - cs.length) '0' ++ cs

/-- The first two parts of `s.split(".")`, the second one empty where there is no point. -/
def splitPoint (cs : List Char) : List Char × List Char :=
  (cs.takeWhile (· != '.'), ((cs.dropWhile (· != '.')).drop 1).takeWhile (· != '.'))

def toWei (amount : String) (decimals : ℕ) : String :=
  if amount = "" || isNaN amount then "0"
  else
    let (whole, frac) := splitPoint amount.toList
    let paddedFrac := (padEnd frac decimals).take decimals
    orZero (String.ofList (dropZeros (whole ++ paddedFrac)))

def fromWei (wei : String) (decimals : ℕ) : String :=
  if wei = "" || wei = "0" then "0"
  else
    let padded := padStart wei.toList (decimals + 1)
    let whole := orZero (String.ofList (padded.take (padded.length - decimals)))
    let frac := padded.drop (padded.length - decimals)
    let trimmed := trimZeros frac
    if trimmed = [] then whole else whole ++ "." ++ String.ofList trimmed

/-- What the page shows beside the amount, and `none` where `BigInt` throws. -/
def amountExceedsBalance (walletBalanceWei : Option String) (totalAmount : String)
    (sellDecimals : ℕ) : Option Bool :=
  match walletBalanceWei.filter (· ≠ "") with
  | none => some false
  | some balance =>
      if totalAmount = "" || isNaN totalAmount then some false
      else do
        let amount ← bigInt (toWei totalAmount sellDecimals)
        let balance ← bigInt balance
        some (balance < amount)

/-- The amount that a button fills in where there is a balance, and `none` where `BigInt`
throws. Its division rounds to zero. -/
def setAmountPercent (walletBalanceWei : Option String) (pct sellDecimals : ℕ) :
    Option (Option String) :=
  (walletBalanceWei.filter (· ≠ "")).mapM fun balance => do
    let balance ← bigInt balance
    let raw := Int.tdiv (balance * pct) 100
    some (fromWei (toString raw) sellDecimals)

/-! ### Texts that are digits up to a point -/

section Literals

variable {whole tail cs : List Char} {c : Char} {s : String}

theorem isDigit_ne {d : Char} (h : c.isDigit = true) (hd : d.isDigit = false) : c ≠ d := by
  rintro rfl
  rw [h] at hd
  cases hd

theorem takeWhile_digits (h : IsDigits whole) (hc : c.isDigit = false) (tail : List Char) :
    (whole ++ c :: tail).takeWhile Char.isDigit = whole := by
  rw [List.takeWhile_append_of_pos h, List.takeWhile_cons_of_neg (by simp [hc]), List.append_nil]

theorem dropWhile_digits (h : IsDigits whole) (hc : c.isDigit = false) (tail : List Char) :
    (whole ++ c :: tail).dropWhile Char.isDigit = c :: tail := by
  rw [List.dropWhile_append_of_pos h, List.dropWhile_cons_of_neg (by simp [hc])]

theorem unsignedDecimal_point (h : IsDigits whole) (tail : List Char) :
    unsignedDecimal false (whole ++ '.' :: tail) =
      if whole = [] ∧ tail.takeWhile Char.isDigit = [] then none
      else (exponentPart (tail.dropWhile Char.isDigit)).map
        (⟨false, whole, tail.takeWhile Char.isDigit, ·⟩) := by
  simp only [unsignedDecimal, takeWhile_digits h (c := '.') rfl, dropWhile_digits h (c := '.') rfl]

theorem unsignedDecimal_digits (h : IsDigits whole) (hne : whole ≠ []) :
    unsignedDecimal false whole = some ⟨false, whole, [], 0⟩ := by
  simp only [unsignedDecimal, List.takeWhile_eq_self_iff.mpr h, List.dropWhile_eq_nil_iff.mpr h,
    if_neg hne]
  rfl

/-- A text has no point, or it is what stands before the first one and behind it. -/
theorem splitPoint_cases (cs : List Char) :
    splitPoint cs = (cs, []) ∨ ∃ tail, cs = (splitPoint cs).1 ++ '.' :: tail ∧
      (splitPoint cs).2 = tail.takeWhile (· != '.') := by
  have happend := List.takeWhile_append_dropWhile (p := (· != '.')) (l := cs)
  cases hdrop : cs.dropWhile (· != '.') with
  | nil =>
      rw [hdrop, List.append_nil] at happend
      left
      rw [splitPoint, hdrop, happend]
      rfl
  | cons c tail =>
      have hpoint : c = '.' := by
        have hnot := List.head?_dropWhile_not (· != '.') cs
        rw [hdrop] at hnot
        simpa using hnot
      rw [hdrop, hpoint] at happend
      right
      refine ⟨tail, happend.symm, ?_⟩
      rw [splitPoint, hdrop]
      rfl

/-- The first character of such a text is a digit or the point. -/
theorem isDigit_or_point_of_cons (h : IsDigits (splitPoint (c :: cs)).1) :
    c.isDigit = true ∨ c = '.' := by
  by_cases hpoint : c = '.'
  · exact .inr hpoint
  · refine .inl (h c ?_)
    rw [splitPoint, List.takeWhile_cons_of_pos (by simpa using hpoint)]
    exact List.mem_cons_self

/-- It has no radix and no sign, and it is not `Infinity`. -/
theorem strDecimalLiteral_of_digits (h : IsDigits (splitPoint (c :: cs)).1) :
    radixPrefix (c :: cs) = none ∧
      strDecimalLiteral (c :: cs) = (unsignedDecimal false (c :: cs)).map .decimal := by
  have hne : ∀ d : Char, d.isDigit = false → d ≠ '.' → c ≠ d := by
    intro d hd hpoint
    rcases isDigit_or_point_of_cons h with hc | rfl
    · exact isDigit_ne hc hd
    · exact hpoint.symm
  constructor
  · cases cs with
    | nil => rfl
    | cons r cs =>
        rw [radixPrefix]
        by_cases hzero : c = '0'
        · have htail : IsDigits (splitPoint (r :: cs)).1 := by
            intro d hd
            refine h d ?_
            rw [splitPoint, List.takeWhile_cons_of_pos (by rw [hzero]; rfl)]
            exact List.mem_cons_of_mem c hd
          have hr := isDigit_or_point_of_cons htail
          have hletter : ∀ d : Char, d.isDigit = false → d ≠ '.' → r ≠ d := by
            intro d hd hpoint
            rcases hr with hr | rfl
            · exact isDigit_ne hr hd
            · exact hpoint.symm
          simp [hletter 'x' rfl (by decide), hletter 'X' rfl (by decide),
            hletter 'o' rfl (by decide), hletter 'O' rfl (by decide),
            hletter 'b' rfl (by decide), hletter 'B' rfl (by decide)]
        · exact if_pos hzero
  · have hinfinity : ¬ c :: cs = "Infinity".toList := fun heq =>
      hne 'I' rfl (by decide) (List.cons.inj heq).1
    rw [strDecimalLiteral.eq_def]
    split
    · rename_i heq
      exact absurd (List.cons.inj heq).1 (hne '-' rfl (by decide))
    · rename_i heq
      exact absurd (List.cons.inj heq).1 (hne '+' rfl (by decide))
    · exact if_neg hinfinity

/-- Blanks at the end go, and the digits behind the point stay. -/
theorem strTrim_point (h : IsDigits whole) (tail : List Char) :
    ∃ rest, strTrim (whole ++ '.' :: tail) = whole ++ '.' :: rest ∧
      rest.takeWhile Char.isDigit = tail.takeWhile Char.isDigit := by
  refine ⟨tail.rdropWhile isStrWhiteSpace, ?_, ?_⟩
  · have hfront : ∀ c ∈ whole ++ ['.'], isStrWhiteSpace c = false := by
      intro c hc
      rcases List.mem_append.mp hc with hc | hc
      · exact isStrWhiteSpace_of_isDigit (h c hc)
      · rw [List.mem_singleton.mp hc]
        rfl
    have htrim := Trim.trimBy_append_right hfront (by simp) tail
    rwa [List.append_assoc, List.append_assoc] at htrim
  · have hback : ∀ c ∈ tail.rtakeWhile isStrWhiteSpace, c.isDigit = false := by
      intro c hc
      by_contra hdigit
      have hblank := List.mem_rtakeWhile_imp hc
      rw [isStrWhiteSpace_of_isDigit (Bool.eq_true_of_not_eq_false hdigit)] at hblank
      cases hblank
    conv_rhs => rw [← List.rdropWhile_append_rtakeWhile (p := isStrWhiteSpace) (l := tail)]
    exact (Trim.takeWhile_append_of_neg hback _).symm

theorem splitPoint_digits (h : IsDigits whole) (tail : List Char) :
    splitPoint (whole ++ '.' :: tail) = (whole, tail.takeWhile (· != '.')) := by
  have hpos : ∀ c ∈ whole, (c != '.') = true := fun c hc => by
    simpa using isDigit_ne (h c hc) (d := '.') rfl
  rw [splitPoint, List.takeWhile_append_of_pos hpos, List.dropWhile_append_of_pos hpos]
  simp

theorem stringNumericLiteral_of_trim (htrim : strTrim s.toList = c :: cs)
    (h : IsDigits (splitPoint (c :: cs)).1) :
    stringNumericLiteral s = (unsignedDecimal false (c :: cs)).map .decimal := by
  obtain ⟨hradix, hliteral⟩ := strDecimalLiteral_of_digits h
  simp only [stringNumericLiteral, htrim, hradix]
  rw [if_neg (List.cons_ne_nil c cs), hliteral]

/-- What `Number` reads in a text that is digits up to the point. -/
theorem literal_of_digits (hne : s ≠ "") (h : IsDigits (splitPoint s.toList).1)
    {lit : StrNumericLiteral} (hlit : stringNumericLiteral s = some lit) :
    ∃ e, lit = .decimal ⟨false, (splitPoint s.toList).1,
      (splitPoint s.toList).2.takeWhile Char.isDigit, e⟩ := by
  have hnil : s.toList ≠ [] := fun heq => hne (String.toList_eq_nil_iff.mp heq)
  rcases splitPoint_cases s.toList with hsplit | ⟨tail, hcs, hfrac⟩
  · rw [hsplit] at h ⊢
    obtain ⟨c, cs, hcons⟩ := List.exists_cons_of_ne_nil hnil
    have htrim : strTrim s.toList = c :: cs := by
      rw [← hcons]
      exact strTrim_eq_self fun d hd => isStrWhiteSpace_of_isDigit (h d hd)
    rw [stringNumericLiteral_of_trim htrim (by rw [← hcons, hsplit]; exact h), ← hcons,
      unsignedDecimal_digits h hnil] at hlit
    exact ⟨0, (Option.some.inj hlit).symm⟩
  · generalize (splitPoint s.toList).1 = whole at h hcs ⊢
    obtain ⟨rest, htrim, hdigits⟩ := strTrim_point h tail
    -- The digits behind the point end before a second one.
    have htake : (tail.takeWhile (· != '.')).takeWhile Char.isDigit =
        tail.takeWhile Char.isDigit := by
      rw [List.takeWhile_takeWhile]
      refine congrArg (List.takeWhile · tail) (funext fun d => ?_)
      cases hdigit : d.isDigit with
      | true => simp [isDigit_ne hdigit (d := '.') rfl]
      | false => simp
    obtain ⟨c, cs, hcons⟩ := List.exists_cons_of_ne_nil
      (show whole ++ '.' :: rest ≠ [] by simp)
    rw [stringNumericLiteral_of_trim (by rw [hcs, htrim, hcons])
      (by rw [← hcons, splitPoint_digits h]; exact h), ← hcons, unsignedDecimal_point h,
      hdigits] at hlit
    rw [hfrac, htake]
    split at hlit
    · cases hlit
    · cases he : exponentPart (rest.dropWhile Char.isDigit) with
      | none =>
          rw [he] at hlit
          cases hlit
      | some e =>
          rw [he] at hlit
          exact ⟨e, (Option.some.inj hlit).symm⟩

end Literals

/-! ### When the text is the amount -/

section ToWei

variable {amount : String} {decimals : ℕ} {cs whole frac : List Char} {n : ℕ}

theorem toList_orZero (s : String) :
    (orZero s).toList = if s.toList = [] then ['0'] else s.toList := by
  rw [orZero]
  by_cases hs : s = ""
  · rw [hs]
    rfl
  · rw [if_neg hs, if_neg (fun hnil => hs (String.toList_eq_nil_iff.mp hnil))]

theorem isDigits_orZero_dropZeros :
    IsDigits (orZero (String.ofList (dropZeros cs))).toList ↔ IsDigits cs := by
  obtain ⟨n, hn⟩ := exists_eq_zeros_append cs
  have hdrop : IsDigits cs ↔ IsDigits (dropZeros cs) := by
    conv_lhs => rw [hn, isDigits_append]
    exact and_iff_right (isDigits_replicate_zero n)
  rw [toList_orZero, String.toList_ofList, hdrop]
  split
  · rename_i hnil
    rw [hnil]
    exact iff_of_true isDigits_zero isDigits_nil
  · rfl

theorem value_orZero_dropZeros :
    value (orZero (String.ofList (dropZeros cs))).toList = value cs := by
  rw [toList_orZero, String.toList_ofList]
  split
  · rename_i hnil
    conv_rhs => rw [← value_dropZeros, hnil]
    rfl
  · rw [value_dropZeros]

/-- Only the places that are kept count. -/
theorem isDigits_take_padEnd :
    IsDigits ((padEnd frac n).take n) ↔ IsDigits (frac.take n) := by
  have hzeros : IsDigits ((List.replicate (n - frac.length) '0').take (n - frac.length)) :=
    fun c hc => isDigits_replicate_zero _ c (List.mem_of_mem_take hc)
  rw [padEnd, List.take_append, isDigits_append]
  exact and_iff_left hzeros

theorem take_padEnd_takeWhile (h : IsDigits (frac.take n)) :
    (padEnd (frac.takeWhile Char.isDigit) n).take n = (padEnd frac n).take n := by
  rcases le_total n frac.length with hlen | hlen
  · have htake : (frac.take n).length = n := by rw [List.length_take, min_eq_left hlen]
    have hwhile : frac.takeWhile Char.isDigit =
        frac.take n ++ (frac.drop n).takeWhile Char.isDigit := by
      conv_lhs => rw [← List.take_append_drop n frac, List.takeWhile_append_of_pos h]
    rw [padEnd, padEnd, hwhile, List.append_assoc, List.take_append_of_le_length htake.ge,
      List.take_append_of_le_length hlen, List.take_take, min_self]
  · rw [List.take_of_length_le hlen] at h
    rw [List.takeWhile_eq_self_iff.mpr h]

/-- `BigInt` reads digits as the number that they spell. -/
theorem bigInt_digits {s : String} (h : IsDigits s.toList) :
    bigInt s = some (value s.toList : ℤ) := by
  cases hs : s.toList with
  | nil =>
      rw [String.toList_eq_nil_iff.mp hs]
      rfl
  | cons c cs =>
      rw [hs] at h
      have hc := h c List.mem_cons_self
      have hdigits : digitsValue 10 (c :: cs) = some (value (c :: cs)) := by
        rw [digitsValue, if_neg (List.cons_ne_nil c cs), mapM_digitOf h, Option.map_some,
          List.foldl_map, ← Nat.ofDigitChars_eq_foldl, value]
      rw [bigInt_eq_signedValue hs (isStrWhiteSpace_of_isDigit hc)
        fun d hd => h d (List.mem_cons_of_mem c hd), signedValue, if_neg (isDigit_ne hc rfl),
        if_neg (isDigit_ne hc rfl), hdigits]
      rfl

/-- Up to the point there are digits, behind it as many as are kept, and the exponent is
zero or of no effect on less than one unit. -/
def WeiExact (amount : String) (decimals : ℕ) : Prop :=
  IsDigits (splitPoint amount.toList).1 ∧ IsDigits ((splitPoint amount.toList).2.take decimals) ∧
    ∃ d, stringNumericLiteral amount = some (.decimal d) ∧
      (d.exponent = 0 ∨
        d.mantissa * 10 ^ decimals < 1 ∧ d.mantissa * 10 ^ decimals * 10 ^ d.exponent < 1)

theorem toWei_of_number (hne : amount ≠ "") (hnan : isNaN amount = false) :
    toWei amount decimals = orZero (String.ofList (dropZeros ((splitPoint amount.toList).1 ++
      (padEnd (splitPoint amount.toList).2 decimals).take decimals))) := by
  simp only [toWei, hne, hnan, decide_false, Bool.or_self, Bool.false_eq_true, if_false]

/-- The places that are kept spell the whole part of the mantissa in units. -/
theorem value_of_digits (h : IsDigits (frac.take n)) :
    value (whole ++ (padEnd frac n).take n) =
      ⌊(value whole + fraction (frac.takeWhile Char.isDigit)) * 10 ^ n⌋₊ := by
  have hdigits : IsDigits (frac.takeWhile Char.isDigit) := fun c hc => List.mem_takeWhile_imp hc
  have hlen : ((padEnd frac n).take n).length = n := by
    rw [List.length_take, padEnd, List.length_append, List.length_replicate]
    omega
  have hwhole : ((value whole : ℚ) + fraction (frac.takeWhile Char.isDigit)) * 10 ^ n =
      fraction (frac.takeWhile Char.isDigit) * 10 ^ n + (value whole * 10 ^ n : ℕ) := by
    push_cast
    ring
  rw [value_append, hlen, hwhole, Nat.floor_add_natCast
    (mul_nonneg (fraction_nonneg _) (by positivity)), floor_fraction_mul_pow hdigits, Nat.add_comm]
  exact congrArg (value · + value whole * 10 ^ n) (take_padEnd_takeWhile h).symm

theorem amountExceedsBalance_of_digits {balance : String} {b : ℤ} (hbalance : balance ≠ "")
    (hb : bigInt balance = some b) (hne : amount ≠ "") (hnan : isNaN amount = false)
    (h : IsDigits (toWei amount decimals).toList) :
    amountExceedsBalance (some balance) amount decimals =
      some (decide (b < value (toWei amount decimals).toList)) := by
  simp [amountExceedsBalance, Option.filter, hbalance, hne, hnan, bigInt_digits h, hb]

/-- A number that is typed is sent as its whole part in units, and the comparison with the
balance does not throw, if and only if the text is one that the cut at the point reads. -/
theorem toWei_exact_iff {x : ℚ} (hne : amount ≠ "") (hx : finiteNumber amount = some x) :
    (IsDigits (toWei amount decimals).toList ∧
      value (toWei amount decimals).toList = ⌊x * 10 ^ decimals⌋₊ ∧
      ∀ balance b, balance ≠ "" → bigInt balance = some b →
        amountExceedsBalance (some balance) amount decimals =
          some (decide (b < (⌊x * 10 ^ decimals⌋₊ : ℤ)))) ↔
      WeiExact amount decimals := by
  obtain ⟨lit, hlit, hvalue⟩ := Option.bind_eq_some_iff.mp hx
  have hnan : isNaN amount = false := by rw [isNaN, hlit, Option.isNone_some]
  have hdigits : IsDigits (toWei amount decimals).toList ↔ IsDigits (splitPoint amount.toList).1 ∧
      IsDigits ((splitPoint amount.toList).2.take decimals) := by
    rw [toWei_of_number hne hnan, isDigits_orZero_dropZeros, isDigits_append, isDigits_take_padEnd]
  -- With digits in the two places, what is sent is the mantissa without the exponent.
  have hfloor : IsDigits (splitPoint amount.toList).1 →
      IsDigits ((splitPoint amount.toList).2.take decimals) →
      ∃ d, lit = .decimal d ∧ 0 ≤ d.mantissa ∧
        value (toWei amount decimals).toList = ⌊d.mantissa * 10 ^ decimals⌋₊ ∧
        x * 10 ^ decimals = d.mantissa * 10 ^ decimals * 10 ^ d.exponent := by
    intro hwhole hfrac
    obtain ⟨e, rfl⟩ := literal_of_digits hne hwhole hlit
    refine ⟨_, rfl, add_nonneg (Nat.cast_nonneg _) (fraction_nonneg _), ?_, ?_⟩
    · rw [toWei_of_number hne hnan, value_orZero_dropZeros, value_of_digits hfrac]
      rfl
    · rw [← Option.some.inj hvalue, DecimalLiteral.toRat, if_neg Bool.false_ne_true]
      ring
  constructor
  · rintro ⟨hsent, hexact, -⟩
    obtain ⟨hwhole, hfrac⟩ := hdigits.mp hsent
    obtain ⟨d, rfl, hnonneg, hmantissa, hscale⟩ := hfloor hwhole hfrac
    rw [hmantissa, hscale] at hexact
    exact ⟨hwhole, hfrac, d, hlit,
      (floor_mul_zpow_eq_iff (mul_nonneg hnonneg (by positivity)) _).mp hexact⟩
  · rintro ⟨hwhole, hfrac, d, hd, hexponent⟩
    obtain ⟨d, rfl, hnonneg, hmantissa, hscale⟩ := hfloor hwhole hfrac
    obtain rfl : d = _ := StrNumericLiteral.decimal.inj (Option.some.inj (hlit.symm.trans hd))
    have hsent := hdigits.mpr ⟨hwhole, hfrac⟩
    have hexact : value (toWei amount decimals).toList = ⌊x * 10 ^ decimals⌋₊ := by
      rw [hmantissa, hscale]
      exact (floor_mul_zpow_eq_iff (mul_nonneg hnonneg (by positivity)) _).mpr hexponent
    refine ⟨hsent, hexact, fun balance b hbalance hb => ?_⟩
    rw [amountExceedsBalance_of_digits hbalance hb hne hnan hsent, hexact]

theorem toWei_one_and_a_half :
    finiteNumber "1.5" = some (3 / 2) ∧
      ((IsDigits (toWei "1.5" 18).toList ∧
        value (toWei "1.5" 18).toList = ⌊(3 / 2 : ℚ) * 10 ^ 18⌋₊ ∧
        ∀ balance b, balance ≠ "" → bigInt balance = some b →
          amountExceedsBalance (some balance) "1.5" 18 =
            some (decide (b < (⌊(3 / 2 : ℚ) * 10 ^ 18⌋₊ : ℤ)))) ↔
        WeiExact "1.5" 18) := by
  have hx : finiteNumber "1.5" = some (3 / 2) := by decide +kernel
  exact ⟨hx, toWei_exact_iff (by decide) hx⟩

/-- An exponent is a number for `Number`, and the zeros are put behind it. -/
theorem toWei_exponent :
    finiteNumber "1e3" = some 1000 ∧ toWei "1e3" 18 = "1e3000000000000000000" ∧
      ¬ IsDigits (toWei "1e3" 18).toList ∧
      amountExceedsBalance (some "5") "1e3" 18 = none := by
  have hlit : stringNumericLiteral "1e3" = some (.decimal ⟨false, ['1'], [], 3⟩) := by
    decide +kernel
  have hwei : toWei "1e3" 18 = "1e3000000000000000000" := by decide +kernel
  have hvalue : value ['1'] = 1 := rfl
  refine ⟨?_, hwei, fun hdigits => ?_, by decide +kernel⟩
  · rw [finiteNumber, hlit, Option.bind_some]
    norm_num [DecimalLiteral.toRat, DecimalLiteral.mantissa, hvalue]
  · rw [hwei] at hdigits
    exact absurd (hdigits 'e' (by simp)) (by decide)

end ToWei

/-! ### What the buttons fill in -/

section FromWei

variable {whole frac : List Char} {n decimals : ℕ}

theorem splitPoint_eq_self (h : IsDigits whole) : splitPoint whole = (whole, []) := by
  have hpos : ∀ c ∈ whole, (c != '.') = true := fun c hc => by
    simpa using isDigit_ne (h c hc) (d := '.') rfl
  rw [splitPoint, List.takeWhile_eq_self_iff.mpr hpos, List.dropWhile_eq_nil_iff.mpr hpos]
  rfl

theorem splitPoint_pointText (hwhole : IsDigits whole) (hfrac : IsDigits frac) :
    splitPoint (pointText whole frac) = (whole, frac) := by
  rw [pointText]
  split
  · rename_i hnil
    rw [List.append_nil, splitPoint_eq_self hwhole, hnil]
  · have hpos : ∀ c ∈ frac, (c != '.') = true := fun c hc => by
      simpa using isDigit_ne (hfrac c hc) (d := '.') rfl
    rw [splitPoint_digits hwhole, List.takeWhile_eq_self_iff.mpr hpos]

theorem isNaN_pointText (hwhole : IsDigits whole) (hne : whole ≠ []) (hfrac : IsDigits frac) :
    isNaN (String.ofList (pointText whole frac)) = false := by
  have hsplit := splitPoint_pointText hwhole hfrac
  have htrim : strTrim (pointText whole frac) = pointText whole frac := by
    refine strTrim_eq_self fun c hc => ?_
    rw [pointText] at hc
    rcases List.mem_append.mp hc with hc | hc
    · exact isStrWhiteSpace_of_isDigit (hwhole c hc)
    · split at hc
      · cases hc
      · rcases List.mem_cons.mp hc with rfl | hc
        · rfl
        · exact isStrWhiteSpace_of_isDigit (hfrac c hc)
  have hliteral : (unsignedDecimal false (pointText whole frac)).isSome := by
    rw [pointText]
    split
    · rw [List.append_nil, unsignedDecimal_digits hwhole hne]
      rfl
    · rw [unsignedDecimal_point hwhole, if_neg (fun hnil => hne hnil.1),
        List.dropWhile_eq_nil_iff.mpr hfrac]
      rfl
  obtain ⟨c, cs, hcons⟩ := List.exists_cons_of_ne_nil
    (show pointText whole frac ≠ [] from List.append_ne_nil_of_left_ne_nil hne _)
  rw [hcons] at hsplit htrim hliteral ⊢
  have hnumber := stringNumericLiteral_of_trim
    (show strTrim (String.ofList (c :: cs)).toList = c :: cs by rw [String.toList_ofList, htrim])
    (by rw [hsplit]; exact hwhole)
  rw [isNaN, hnumber, Option.isNone_map, ← Option.not_isSome, hliteral]
  rfl

theorem toList_toString (n : ℕ) : (toString n).toList = Nat.toDigits 10 n := Nat.toList_repr

/-- The text of an amount is its digits, cut where the point stands. -/
theorem fromWei_toString (hn : n ≠ 0) (decimals : ℕ) :
    ∃ whole frac, whole ≠ [] ∧ IsDigits whole ∧ IsDigits frac ∧ frac.length = decimals ∧
      dropZeros (whole ++ frac) = Nat.toDigits 10 n ∧
      fromWei (toString n) decimals = String.ofList (pointText whole (trimZeros frac)) := by
  have hempty : toString n ≠ "" := fun heq =>
    Nat.toDigits_ne_nil ((toList_toString n).symm.trans (String.toList_eq_nil_iff.mpr heq))
  have hzero : toString n ≠ "0" := fun heq => by
    have hvalue := value_toDigits n
    rw [← toList_toString, heq] at hvalue
    exact hn hvalue.symm
  obtain ⟨padded, hpadded⟩ : ∃ padded, padStart (Nat.toDigits 10 n) (decimals + 1) = padded :=
    ⟨_, rfl⟩
  have hlen : decimals + 1 ≤ padded.length := by
    rw [← hpadded, padStart, List.length_append, List.length_replicate]
    omega
  have hdigits : IsDigits padded := by
    rw [← hpadded]
    exact isDigits_append.mpr ⟨isDigits_replicate_zero _, isDigits_toDigits n⟩
  have hdrop : dropZeros padded = Nat.toDigits 10 n := by
    rw [← hpadded, padStart, dropZeros_zeros_append, dropZeros_eq_self (head?_toDigits hn)]
  have hwhole : padded.take (padded.length - decimals) ≠ [] := by
    rw [← List.length_pos_iff, List.length_take]
    omega
  refine ⟨padded.take (padded.length - decimals), padded.drop (padded.length - decimals), hwhole,
    fun c hc => hdigits c (List.mem_of_mem_take hc),
    fun c hc => hdigits c (List.mem_of_mem_drop hc), ?_, ?_, ?_⟩
  · rw [List.length_drop]
    omega
  · rw [List.take_append_drop, hdrop]
  · have hfull : orZero (String.ofList (padded.take (padded.length - decimals))) =
        String.ofList (padded.take (padded.length - decimals)) := if_neg (by simpa using hwhole)
    simp only [fromWei, hempty, hzero, decide_false, Bool.or_self, Bool.false_eq_true, if_false,
      toList_toString, hpadded, hfull, pointText]
    split
    · rw [List.append_nil]
    · have hpoint : "." = String.ofList ['.'] := rfl
      rw [hpoint, ← String.ofList_append, ← String.ofList_append, List.append_assoc,
        List.singleton_append]

theorem padEnd_trimZeros (h : frac.length = n) : (padEnd (trimZeros frac) n).take n = frac := by
  obtain ⟨k, hk⟩ := exists_eq_append_zeros frac
  have hlen : n - (trimZeros frac).length = k := by
    have hcount := congrArg List.length hk
    rw [List.length_append, List.length_replicate, h] at hcount
    omega
  rw [padEnd, hlen, ← hk, ← h, List.take_length]

theorem toWei_pointText (hwhole : IsDigits whole) (hne : whole ≠ []) (hfrac : IsDigits frac) :
    toWei (String.ofList (pointText whole frac)) decimals =
      orZero (String.ofList (dropZeros (whole ++ (padEnd frac decimals).take decimals))) := by
  have hempty : String.ofList (pointText whole frac) ≠ "" := by
    simpa [pointText] using fun hnil : whole = [] => absurd hnil hne
  rw [toWei_of_number hempty (isNaN_pointText hwhole hne hfrac), String.toList_ofList,
    splitPoint_pointText hwhole hfrac]

theorem toWei_fromWei_toString (n decimals : ℕ) :
    toWei (fromWei (toString n) decimals) decimals = toString n := by
  by_cases hn : n = 0
  · have htext : fromWei (toString n) decimals = String.ofList (pointText ['0'] []) := by
      rw [hn]
      rfl
    have hzeros : ['0'] ++ (padEnd [] decimals).take decimals =
        List.replicate (decimals + 1) '0' ++ [] := by
      rw [padEnd, List.nil_append, List.length_nil, Nat.sub_zero, List.take_replicate, min_self,
        List.append_nil, List.replicate_succ, List.singleton_append]
    rw [htext, toWei_pointText isDigits_zero (List.cons_ne_nil _ _) isDigits_nil, hzeros,
      dropZeros_zeros_append, hn]
    rfl
  · obtain ⟨whole, frac, hne, hwhole, hfrac, hlen, hdigits, htext⟩ := fromWei_toString hn decimals
    have hprint : String.ofList (Nat.toDigits 10 n) = toString n := by
      rw [← toList_toString, String.ofList_toList]
    have hfull : toString n ≠ "" := fun heq =>
      Nat.toDigits_ne_nil ((toList_toString n).symm.trans (String.toList_eq_nil_iff.mpr heq))
    rw [htext, toWei_pointText hwhole hne (isDigits_trimZeros hfrac), padEnd_trimZeros hlen,
      hdigits, hprint]
    exact if_neg hfull

/-- An amount comes back from its text, and a button submits the share of the balance that
it has computed. -/
theorem toWei_fromWei (n decimals : ℕ) :
    toWei (fromWei (toString n) decimals) decimals = toString n ∧
      ∀ (balance : String) (b pct : ℕ), balance ≠ "" → bigInt balance = some (b : ℤ) →
        ∃ amount, setAmountPercent (some balance) pct decimals = some (some amount) ∧
          toWei amount decimals = toString (b * pct / 100) := by
  refine ⟨toWei_fromWei_toString n decimals, fun balance b pct hbalance hb => ?_⟩
  refine ⟨fromWei (toString (b * pct / 100)) decimals, ?_, toWei_fromWei_toString _ decimals⟩
  have hraw : toString (Int.tdiv (b * pct) 100) = toString (b * pct / 100) := by
    rw [Int.tdiv_eq_ediv_of_nonneg (by positivity)]
    rfl
  have hfilter : (some balance).filter (· ≠ "") = some balance := by simp [hbalance]
  simp only [setAmountPercent, hfilter, Option.mapM_some, hb, Option.bind_eq_bind, Option.bind_some,
    hraw, Option.map_eq_map, Option.map_some]

end FromWei

end Liquifier.Frontend
