import Mathlib.Data.List.Induction
import Mathlib.Tactic.Ring

/-!
Numbers as big-endian byte strings.

`ofBytes` reads a string of any length and `toBytes` writes the low bytes of a number
into a string of a given width. Reading back a written number loses what the width
does not hold, and writing back a read string loses nothing.
-/

namespace BigEndian

/-- The number that the bytes spell, most significant first. -/
def ofBytes (bytes : List UInt8) : ℕ := bytes.foldl (fun acc b => 256 * acc + b.toNat) 0

/-- The low `width` bytes of a number, most significant first. -/
def toBytes : ℕ → ℕ → List UInt8
  | 0, _ => []
  | width + 1, n => toBytes width (n / 256) ++ [UInt8.ofNat n]

@[simp] theorem ofBytes_nil : ofBytes [] = 0 := rfl

@[simp] theorem ofBytes_concat (bytes : List UInt8) (b : UInt8) :
    ofBytes (bytes ++ [b]) = 256 * ofBytes bytes + b.toNat := by
  simp [ofBytes]

theorem ofBytes_lt (bytes : List UInt8) : ofBytes bytes < 256 ^ bytes.length := by
  induction bytes using List.reverseRecOn with
  | nil => decide
  | append_singleton bytes b ih =>
      have hb : b.toNat < 256 := b.toNat_lt
      rw [ofBytes_concat, List.length_append, List.length_singleton, pow_succ]
      omega

@[simp] theorem length_toBytes (width n : ℕ) : (toBytes width n).length = width := by
  induction width generalizing n with
  | zero => rfl
  | succ width ih => rw [toBytes, List.length_append, ih, List.length_singleton]

/-- The last bytes of a number are its low bytes. -/
theorem toBytes_add (front back n : ℕ) :
    toBytes (front + back) n = toBytes front (n / 256 ^ back) ++ toBytes back n := by
  induction back generalizing n with
  | zero => simp [toBytes]
  | succ back ih =>
      rw [Nat.add_succ, toBytes, ih, toBytes, Nat.div_div_eq_div_mul, pow_succ', List.append_assoc]

/-- Only the low bytes of a number are written. -/
@[simp] theorem ofBytes_toBytes (width n : ℕ) : ofBytes (toBytes width n) = n % 256 ^ width := by
  induction width generalizing n with
  | zero => rw [toBytes, ofBytes_nil, pow_zero, Nat.mod_one]
  | succ width ih =>
      have hbyte : (UInt8.ofNat n).toNat = n % 256 := UInt8.toNat_ofNat'
      rw [toBytes, ofBytes_concat, ih, hbyte, pow_succ', Nat.mod_mul]
      ring

theorem ofBytes_toBytes_of_lt {width n : ℕ} (h : n < 256 ^ width) :
    ofBytes (toBytes width n) = n := by
  rw [ofBytes_toBytes, Nat.mod_eq_of_lt h]

/-- Writing back a read string. -/
theorem toBytes_ofBytes (bytes : List UInt8) : toBytes bytes.length (ofBytes bytes) = bytes := by
  induction bytes using List.reverseRecOn with
  | nil => rfl
  | append_singleton bytes b ih =>
      have hb : b.toNat < 256 := b.toNat_lt
      have hrest : (256 * ofBytes bytes + b.toNat) / 256 = ofBytes bytes := by omega
      rw [List.length_append, List.length_singleton, toBytes, ofBytes_concat, hrest, ih]
      congr 2
      rw [UInt8.ofNat_eq_iff_mod_eq_toNat]
      omega

theorem toBytes_zero (width : ℕ) : toBytes width 0 = List.replicate width 0 := by
  induction width with
  | zero => rfl
  | succ width ih => rw [toBytes, Nat.zero_div, ih, List.replicate_succ']; rfl

end BigEndian
