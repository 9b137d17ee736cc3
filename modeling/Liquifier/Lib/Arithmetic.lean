import Mathlib.Data.Nat.Notation

/-!
Arithmetic on words of a fixed size.

A computation is written once, over the operations that it is run with. The exact ones
stop at the first result that is no word; in the wrapping ones of a release build only a
division by zero stops. What an exact run returns, the wrapping run returns as well.
-/

namespace Arithmetic

/-- The operations of a computation. -/
structure Ops (m : Type → Type) where
  add : ℕ → ℕ → m ℕ
  sub : ℕ → ℕ → m ℕ
  mul : ℕ → ℕ → m ℕ
  div : ℕ → ℕ → m ℕ

inductive Fault where
  | overflow
  | underflow
  | divisionByZero
  deriving DecidableEq

/-- A result that has to be a word. -/
def word (size n : ℕ) : Except Fault ℕ := if n < size then .ok n else .error .overflow

def divide (x y : ℕ) : Except Fault ℕ := if y = 0 then .error .divisionByZero else .ok (x / y)

def exact (size : ℕ) : Ops (Except Fault) where
  add x y := word size (x + y)
  sub x y := if y ≤ x then word size (x - y) else .error .underflow
  mul x y := word size (x * y)
  div := divide

def wrapping (size : ℕ) : Ops (Except Fault) where
  add x y := .ok ((x + y) % size)
  sub x y := .ok ((x + size - y) % size)
  mul x y := .ok (x * y % size)
  div := divide

@[simp] theorem ok_bind {α β : Type} (a : α) (f : α → Except Fault β) :
    (Except.ok a >>= f) = f a := rfl

/-! ### Exact operations -/

section Exact

variable {size x y : ℕ}

theorem exact_add (h : x + y < size) : (exact size).add x y = .ok (x + y) := if_pos h

theorem exact_sub (hle : y ≤ x) (h : x - y < size) : (exact size).sub x y = .ok (x - y) :=
  (if_pos hle).trans (if_pos h)

theorem exact_mul (h : x * y < size) : (exact size).mul x y = .ok (x * y) := if_pos h

theorem exact_div (h : y ≠ 0) : (exact size).div x y = .ok (x / y) := if_neg h

end Exact

/-! ### One run agrees with another -/

/-- What the first run returns, the second returns as well. -/
def Agrees {α : Type} (x y : Except Fault α) : Prop := ∀ a, x = .ok a → y = .ok a

namespace Agrees

variable {α β : Type} {x y : Except Fault α} {f g : α → Except Fault β}

theorem refl (x : Except Fault α) : Agrees x x := fun _ h => h

theorem bind (h : Agrees x y) (hf : ∀ a, Agrees (f a) (g a)) : Agrees (x >>= f) (y >>= g) := by
  intro b hb
  cases x with
  | error e => cases hb
  | ok a =>
      rw [h a rfl]
      exact hf a b hb

theorem ite {c : Prop} [Decidable c] {x' y' : Except Fault α} (h : Agrees x y)
    (h' : Agrees x' y') : Agrees (if c then x else x') (if c then y else y') := by
  split
  · exact h
  · exact h'

/-- A word is not changed by wrapping it. -/
theorem word_mod (size n : ℕ) : Agrees (word size n) (.ok (n % size)) := by
  intro a ha
  rw [word] at ha
  split at ha
  · rename_i hlt
    rw [Nat.mod_eq_of_lt hlt, ← Except.ok.inj ha]
  · cases ha

end Agrees

/-- One choice of operations agrees with another. -/
structure Ops.Agree (o o' : Ops (Except Fault)) : Prop where
  add : ∀ x y, Agrees (o.add x y) (o'.add x y)
  sub : ∀ x y, Agrees (o.sub x y) (o'.sub x y)
  mul : ∀ x y, Agrees (o.mul x y) (o'.mul x y)
  div : ∀ x y, Agrees (o.div x y) (o'.div x y)

theorem exact_agree_wrapping (size : ℕ) : (exact size).Agree (wrapping size) where
  add x y := Agrees.word_mod size (x + y)
  sub x y := by
    intro a ha
    simp only [exact] at ha
    split at ha
    · rename_i hle
      have hsum : x + size - y = x - y + size := by omega
      have hmod : (x + size - y) % size = (x - y) % size := by rw [hsum, Nat.add_mod_right]
      exact (congrArg Except.ok hmod).trans (Agrees.word_mod size (x - y) a ha)
    · cases ha
  mul x y := Agrees.word_mod size (x * y)
  div x y := Agrees.refl (divide x y)

end Arithmetic
