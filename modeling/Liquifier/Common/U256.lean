import Mathlib.Tactic.Linarith
import Mathlib.Data.Nat.Basic

/-!
256-bit words, read as the naturals below `2 ^ 256`. The operators `+` and `*`
wrap; the saturating forms are used where the source asks for them.
-/

namespace Liquifier.U256

def modulus : ℕ := 2 ^ 256

/-- `U256::MAX`. -/
def max : ℕ := modulus - 1

def wrappingAdd (x y : ℕ) : ℕ := (x + y) % modulus

def wrappingMul (x y : ℕ) : ℕ := x * y % modulus

def saturatingAdd (x y : ℕ) : ℕ := min (x + y) max

def saturatingMul (x y : ℕ) : ℕ := min (x * y) max

/-- The value of a digit of `from_str_radix`, of any radix up to 36. -/
def digitValue (c : Char) : Option ℕ :=
  if '0' ≤ c ∧ c ≤ '9' then some (c.toNat - '0'.toNat)
  else if 'a' ≤ c ∧ c ≤ 'z' then some (c.toNat - 'a'.toNat + 10)
  else if 'A' ≤ c ∧ c ≤ 'Z' then some (c.toNat - 'A'.toNat + 10)
  else none

/-- The digits of a text in base `radix`, most significant first; underscores
are skipped. -/
def digits (radix : ℕ) : List Char → Option (List ℕ)
  | [] => some []
  | c :: cs =>
      if c = '_' then digits radix cs
      else
        match digitValue c with
        | some d => if d < radix then (digits radix cs).map (d :: ·) else none
        | none => none

/-- `U256::from_str_radix(s, radix).ok()`. -/
def fromStrRadix (s : String) (radix : ℕ) : Option ℕ :=
  (digits radix s.toList).bind fun ds =>
    let n := ds.foldl (fun acc d => acc * radix + d) 0
    if n < modulus then some n else none

/-- A `NUMERIC(78, 0)` column, printed and read back as a `U256`; a value out of
range reads as zero. -/
def ofNumeric (n : ℕ) : ℕ := if n < modulus then n else 0

theorem modulus_pos : 0 < modulus := Nat.two_pow_pos 256

theorem ofNumeric_lt (n : ℕ) : ofNumeric n < modulus := by
  unfold ofNumeric
  split
  · assumption
  · exact modulus_pos

theorem ofNumeric_le (n : ℕ) : ofNumeric n ≤ n := by
  unfold ofNumeric
  split
  · exact le_rfl
  · exact Nat.zero_le n

theorem ofNumeric_of_lt {n : ℕ} (h : n < modulus) : ofNumeric n = n := if_pos h

theorem ofNumeric_of_pos {n : ℕ} (h : 0 < ofNumeric n) : ofNumeric n = n := by
  unfold ofNumeric at h ⊢
  split at h
  · rw [if_pos ‹_›]
  · exact absurd h (Nat.lt_irrefl 0)

/-- Without an overflow the wrapping sum is the sum. -/
theorem wrappingAdd_of_lt {x y : ℕ} (h : x + y < modulus) : wrappingAdd x y = x + y :=
  Nat.mod_eq_of_lt h

theorem saturatingAdd_le (x y : ℕ) : saturatingAdd x y ≤ max := Nat.min_le_right _ _

theorem wrappingMul_le (x y : ℕ) : wrappingMul x y ≤ x * y := Nat.mod_le _ _

/-- Dividing a wrapped product loses nothing if and only if the product fits. -/
theorem div_le_wrappingMul_div_iff {x y d : ℕ} (hd : 0 < d) (hle : d ≤ modulus) :
    x * y / d ≤ wrappingMul x y / d ↔ x * y < modulus := by
  constructor
  · intro h
    by_contra hge
    have hlt : x * y % modulus < modulus := Nat.mod_lt _ modulus_pos
    have hsub : x * y % modulus + d ≤ x * y := by
      have hmod := Nat.mod_add_div (x * y) modulus
      have hone : modulus ≤ modulus * (x * y / modulus) :=
        Nat.le_mul_of_pos_right _ (Nat.div_pos (Nat.le_of_not_lt hge) modulus_pos)
      omega
    have hdiv : x * y % modulus / d + 1 ≤ x * y / d := by
      rw [← Nat.add_div_right _ hd]
      exact Nat.div_le_div_right hsub
    rw [wrappingMul] at h
    omega
  · intro h
    rw [wrappingMul, Nat.mod_eq_of_lt h]

example : fromStrRadix "1_000" 10 = some 1000 := by decide

end Liquifier.U256
