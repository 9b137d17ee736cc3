import Liquifier.Common.Text
import Liquifier.Lib.Decimal

/-!
What an email says of an amount.

Amounts are kept in the smallest unit, as decimal texts, and `format_wei_as_ether` moves
the point by eighteen places in the text. A text that is no integer is printed as it is.
-/

namespace Liquifier.Gateway

open Decimal

/-- The digits of an amount with a point in front of the last eighteen. `trimZeros` is
`trim_end_matches('0')`. -/
def formatDigits (digits : List Char) : List Char :=
  if digits.length ≤ 18 then
    let fractional := trimZeros (List.replicate (18 - digits.length) '0' ++ digits)
    if fractional = [] then ['0'] else '0' :: '.' :: fractional
  else
    let split := digits.length - 18
    let integer := digits.take split
    let fractional := trimZeros (digits.drop split)
    if fractional = [] then integer else integer ++ '.' :: fractional

/-- `strip_prefix('-')`. -/
def stripMinus : List Char → Bool × List Char
  | '-' :: stripped => (true, stripped)
  | trimmed => (false, trimmed)

def formatWeiAsEther (amountWei : String) : String :=
  let trimmed := trimChars amountWei.toList
  if trimmed = [] then "0"
  else
    let (isNegative, digits) := stripMinus trimmed
    if !digits.all Char.isDigit then amountWei
    else
      let digits := dropZeros digits
      if digits = [] then "0"
      else
        let formatted := formatDigits digits
        String.ofList (if isNegative then '-' :: formatted else formatted)

/-! ### Integers with blanks around them -/

/-- An optional sign and digits between blanks. -/
structure WeiText where
  front : List Char
  negative : Bool
  digits : List Char
  back : List Char
  front_blank : ∀ c ∈ front, isWhitespace c = true
  digits_digit : IsDigits digits
  back_blank : ∀ c ∈ back, isWhitespace c = true

namespace WeiText

variable (t : WeiText)

def signed : List Char := if t.negative then '-' :: t.digits else t.digits

def text : String := String.ofList (t.front ++ t.signed ++ t.back)

def toInt : ℤ := if t.negative then -(value t.digits : ℤ) else value t.digits

theorem isWhitespace_of_isDigit {c : Char} (h : c.isDigit = true) : isWhitespace c = false := by
  have hrange := digit_range h
  simp only [isWhitespace, Bool.or_eq_false_iff, Bool.and_eq_false_iff, decide_eq_false_iff_not,
    beq_eq_false_iff_ne]
  omega

theorem trimChars_text : trimChars t.text.toList = t.signed := by
  have hsigned : ∀ c ∈ t.signed, isWhitespace c = false := by
    intro c hc
    rw [signed] at hc
    split at hc
    · rcases List.mem_cons.mp hc with rfl | hc
      · decide
      · exact isWhitespace_of_isDigit (t.digits_digit c hc)
    · exact isWhitespace_of_isDigit (t.digits_digit c hc)
  rw [text, String.toList_ofList]
  exact (Trim.trimBy_append t.front_blank t.back_blank t.signed).trans
    (Trim.trimBy_eq_self hsigned)

theorem stripMinus_signed : stripMinus t.signed = (t.negative, t.digits) := by
  rw [signed]
  cases t.negative with
  | true => rfl
  | false =>
      rw [if_neg Bool.false_ne_true, stripMinus.eq_def]
      split
      · rename_i stripped heq
        have hdigit := t.digits_digit '-' (heq ▸ List.mem_cons_self)
        cases hdigit
      · rfl

/-- The amount without its zeros in front, where it is not zero. -/
theorem formatWeiAsEther_text :
    formatWeiAsEther t.text =
      if value t.digits = 0 then "0"
      else String.ofList (if t.negative then '-' :: formatDigits (dropZeros t.digits)
        else formatDigits (dropZeros t.digits)) := by
  have hall : t.digits.all Char.isDigit = true := List.all_eq_true.mpr t.digits_digit
  rw [formatWeiAsEther, trimChars_text, stripMinus_signed]
  simp only [hall, Bool.not_true, Bool.false_eq_true, if_false]
  by_cases hzero : value t.digits = 0
  · have hnil := (dropZeros_eq_nil_iff t.digits_digit).mpr hzero
    rw [if_pos hnil, if_pos hzero, ite_self]
  · have hne : ¬ dropZeros t.digits = [] := fun hnil =>
      hzero ((dropZeros_eq_nil_iff t.digits_digit).mp hnil)
    have hsigned : ¬ t.signed = [] := by
      rw [signed]
      split
      · exact List.cons_ne_nil _ _
      · rintro hnil
        rw [hnil] at hne
        exact hne rfl
    rw [if_neg hsigned, if_neg hne, if_neg hzero]

end WeiText

/-! ### The numeral of an amount -/

section Digits

variable {digits : List Char}

/-- The digits before the point. -/
def etherWhole (digits : List Char) : List Char :=
  if digits.length ≤ 18 then ['0'] else digits.take (digits.length - 18)

/-- The digits behind the point. -/
def etherFrac (digits : List Char) : List Char :=
  if digits.length ≤ 18 then trimZeros (List.replicate (18 - digits.length) '0' ++ digits)
  else trimZeros (digits.drop (digits.length - 18))

theorem formatDigits_eq (digits : List Char) :
    formatDigits digits = pointText (etherWhole digits) (etherFrac digits) := by
  simp only [formatDigits, etherWhole, etherFrac, pointText]
  split
  · split <;> rfl
  · split
    · rw [List.append_nil]
    · rfl

theorem isDigits_etherWhole (h : IsDigits digits) : IsDigits (etherWhole digits) := by
  rw [etherWhole]
  split
  · exact isDigits_zero
  · exact fun c hc => h c (List.mem_of_mem_take hc)

theorem isDigits_etherFrac (h : IsDigits digits) : IsDigits (etherFrac digits) := by
  rw [etherFrac]
  split
  · exact isDigits_trimZeros (isDigits_append.mpr ⟨isDigits_replicate_zero _, h⟩)
  · exact isDigits_trimZeros fun c hc => h c (List.mem_of_mem_drop hc)

theorem etherWhole_ne_nil (digits : List Char) : etherWhole digits ≠ [] := by
  rw [etherWhole]
  split
  · exact List.cons_ne_nil _ _
  · rw [← List.length_pos_iff, List.length_take]
    omega

/-- The point is moved by eighteen places. -/
theorem value_ether (digits : List Char) :
    (value (etherWhole digits) : ℚ) + fraction (etherFrac digits) = value digits / 10 ^ 18 := by
  rw [etherWhole, etherFrac]
  split
  · rename_i hshort
    have hlen : (List.replicate (18 - digits.length) '0' ++ digits).length = 18 := by
      rw [List.length_append, List.length_replicate]
      omega
    rw [fraction_trimZeros, fraction, hlen, value_append, value_replicate_zero, Nat.zero_mul,
      Nat.zero_add, show value ['0'] = 0 from rfl, Nat.cast_zero, zero_add]
  · rename_i hlong
    have hlen : (digits.drop (digits.length - 18)).length = 18 := by
      rw [List.length_drop]
      omega
    have hvalue := value_append (digits.take (digits.length - 18))
      (digits.drop (digits.length - 18))
    rw [List.take_append_drop, hlen] at hvalue
    rw [fraction_trimZeros, fraction, hlen, hvalue]
    push_cast
    ring

theorem head?_etherWhole (hlead : digits.head? ≠ some '0')
    (h : (etherWhole digits).head? = some '0') : etherWhole digits = ['0'] := by
  rw [etherWhole] at h ⊢
  split
  · rfl
  · rename_i hlong
    rw [if_neg hlong, List.head?_take, if_neg (by omega)] at h
    exact absurd h hlead

/-- Digits that spell more than zero and have no zeros in front. -/
def etherNumeral (negative : Bool) (digits : List Char) (hdigits : IsDigits digits)
    (hlead : digits.head? ≠ some '0') (hne : digits ≠ []) : Numeral where
  negative := negative
  whole := etherWhole digits
  frac := etherFrac digits
  whole_digits := isDigits_etherWhole hdigits
  whole_ne := etherWhole_ne_nil digits
  no_zeros_in_front := head?_etherWhole hlead
  frac_digits := isDigits_etherFrac hdigits
  no_zeros_behind := by
    rw [etherFrac]
    split <;> exact getLast?_trimZeros _
  no_signed_zero := by
    intro _
    by_contra hzero
    obtain ⟨hwhole, hfrac⟩ := not_or.mp hzero
    have hvalue := value_ether digits
    rw [not_not.mp hwhole, not_not.mp hfrac, fraction_nil, add_zero,
      show value ['0'] = 0 from rfl, Nat.cast_zero, eq_comm, div_eq_zero_iff] at hvalue
    have hpos : value digits = 0 := by simpa using hvalue
    rw [← dropZeros_eq_nil_iff hdigits, dropZeros_eq_self hlead] at hpos
    exact hne hpos

end Digits

namespace WeiText

variable (t : WeiText)

/-- An amount is printed as the numeral of its eighteenth power of ten. -/
theorem exists_numeral : ∃ n : Numeral, formatWeiAsEther t.text = n.text ∧
    n.toRat = (t.toInt : ℚ) / 10 ^ 18 := by
  rw [formatWeiAsEther_text]
  by_cases hzero : value t.digits = 0
  · refine ⟨Numeral.zero, if_pos hzero, ?_⟩
    rw [toInt, hzero]
    simp [Numeral.toRat, Numeral.abs, Numeral.zero]
  · have hne : dropZeros t.digits ≠ [] := fun hnil =>
      hzero ((dropZeros_eq_nil_iff t.digits_digit).mp hnil)
    refine ⟨etherNumeral t.negative (dropZeros t.digits) (isDigits_dropZeros t.digits_digit)
      (head?_dropZeros _) hne, ?_, ?_⟩
    · rw [if_neg hzero, formatDigits_eq]
      rfl
    · have hvalue := value_ether (dropZeros t.digits)
      rw [value_dropZeros] at hvalue
      rw [Numeral.toRat, Numeral.abs, etherNumeral, hvalue, toInt]
      cases t.negative with
      | true => simp [neg_div]
      | false => simp

/-- What is printed is the canonical notation of the amount, and amounts are told apart
by it. -/
theorem formatWeiAsEther_canonical :
    (∃ n : Numeral, formatWeiAsEther t.text = n.text ∧ n.toRat = (t.toInt : ℚ) / 10 ^ 18) ∧
      ∀ u : WeiText, formatWeiAsEther t.text = formatWeiAsEther u.text ↔ t.toInt = u.toInt := by
  refine ⟨t.exists_numeral, fun u => ?_⟩
  obtain ⟨n, hn, hnvalue⟩ := t.exists_numeral
  obtain ⟨m, hm, hmvalue⟩ := u.exists_numeral
  rw [hn, hm, Numeral.text_eq_iff, hnvalue, hmvalue, div_left_inj' (by positivity)]
  exact Int.cast_inj

end WeiText

end Liquifier.Gateway
