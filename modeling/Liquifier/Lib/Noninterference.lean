import Mathlib.Data.List.Basic

/-!
What an observer of a machine can tell.

A machine answers each of its inputs. Some inputs are the observer's own, and some others
concern what the observer may see, which can depend on the state; the rest is none of the
observer's business. `Unwinding` asks for a relation between a state and one that has missed
such inputs: a missed input keeps it, an input on both sides keeps it, and related states
give the observer the same answers. Striking out all that does not concern the observer then
changes none of the observer's answers, over a whole run.

The relation need not be an equivalence. The conditions `ok` are asked of the full run only.
-/

namespace Noninterference

variable {σ α ο : Type*}

/-- Which inputs are the observer's own, and which concern the observer. -/
structure Observer (σ α : Type*) where
  asks : α → Bool
  concerns : σ → α → Bool

section Machine

variable (step : σ → α → ο × σ) (ob : Observer σ α) (ok : σ → α → Prop)

def run (s : σ) (inputs : List α) : σ := inputs.foldl (fun s a => (step s a).2) s

/-- The answers to the observer's own inputs. -/
def answers : σ → List α → List ο
  | _, [] => []
  | s, a :: inputs =>
      if ob.asks a then (step s a).1 :: answers (step s a).2 inputs
      else answers (step s a).2 inputs

/-- The inputs that concern the observer. -/
def purge : σ → List α → List α
  | _, [] => []
  | s, a :: inputs =>
      if ob.concerns s a then a :: purge (step s a).2 inputs else purge (step s a).2 inputs

/-- Every input of the run meets the condition in the state before it. -/
def Allowed : σ → List α → Prop
  | _, [] => True
  | s, a :: inputs => ok s a ∧ Allowed (step s a).2 inputs

instance decidableAllowed [∀ s a, Decidable (ok s a)] :
    (s : σ) → (inputs : List α) → Decidable (Allowed step ok s inputs)
  | _, [] => isTrue trivial
  | s, a :: inputs => @instDecidableAnd _ _ _ (decidableAllowed (step s a).2 inputs)

structure Unwinding (R : σ → σ → Prop) : Prop where
  own : ∀ s a, ob.asks a = true → ob.concerns s a = true
  away : ∀ {s t a}, R s t → ok s a → ob.concerns s a = false → R (step s a).2 t
  together : ∀ {s t a}, R s t → ok s a → ob.concerns s a = true → R (step s a).2 (step t a).2
  answer : ∀ {s t a}, R s t → ok s a → ob.asks a = true → (step s a).1 = (step t a).1

variable {step ob ok} {R : σ → σ → Prop} {s t : σ} {inputs : List α}

namespace Unwinding

variable (h : Unwinding step ob ok R)
include h

theorem asks_eq_false {a : α} (ha : ob.concerns s a = false) : ob.asks a = false := by
  cases hasks : ob.asks a with
  | false => rfl
  | true => rw [h.own s a hasks] at ha; cases ha

/-- The run that is left over ends in a related state. -/
theorem run_purge (hR : R s t) (hok : Allowed step ok s inputs) :
    R (run step s inputs) (run step t (purge step ob s inputs)) := by
  induction inputs generalizing s t with
  | nil => exact hR
  | cons a inputs ih =>
      obtain ⟨ha, hrest⟩ := hok
      rw [purge]
      cases hconcerns : ob.concerns s a with
      | true => exact ih (h.together hR ha hconcerns) hrest
      | false => exact ih (h.away hR ha hconcerns) hrest

/-- The observer cannot tell the two runs apart. -/
theorem answers_purge (hR : R s t) (hok : Allowed step ok s inputs) :
    answers step ob s inputs = answers step ob t (purge step ob s inputs) := by
  induction inputs generalizing s t with
  | nil => rfl
  | cons a inputs ih =>
      obtain ⟨ha, hrest⟩ := hok
      rw [purge, answers]
      cases hconcerns : ob.concerns s a with
      | true =>
          have hafter := ih (h.together hR ha hconcerns) hrest
          simp only [if_true, answers]
          cases hasks : ob.asks a with
          | true => simp only [if_true, h.answer hR ha hasks, hafter]
          | false => exact hafter
      | false =>
          have hasks := h.asks_eq_false hconcerns
          simp only [hasks, Bool.false_eq_true, if_false]
          exact ih (h.away hR ha hconcerns) hrest

end Unwinding

end Machine

end Noninterference
