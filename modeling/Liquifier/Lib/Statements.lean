import Mathlib.Data.Nat.Notation

/-!
Statements to a database that commits each of them by itself.

A program sends its statements one after another and stops, or goes on in another way, at
the first that does not answer. What the statements before it have written stays, and so does
what it has written itself, if only its answer was lost.
-/

namespace Statements

/-- What becomes of a statement. -/
inductive Outcome where
  /-- It runs and answers. -/
  | done
  /-- It runs, and its answer is lost. -/
  | lost
  /-- It does not run. -/
  | refused
  deriving DecidableEq

variable {σ : Type*}

/-- Whether a statement answers, and the state after it. A statement is `none` in a state
that does not allow it. -/
def Outcome.send (outcome : Outcome) (statement : σ → Option σ) (s : σ) : Bool × σ :=
  match outcome, statement s with
  | .done, some s' => (true, s')
  | .lost, some s' => (false, s')
  | _, _ => (false, s)

/-- The statements in their order, up to the first that does not answer; `outcomes n` is
the outcome of the one at the position `n`. -/
def sendAll : List (σ → Option σ) → (ℕ → Outcome) → σ → Bool × σ
  | [], _, s => (true, s)
  | statement :: statements, outcomes, s =>
      match (outcomes 0).send statement s with
      | (true, s') => sendAll statements (fun n => outcomes (n + 1)) s'
      | (false, s') => (false, s')

/-- All statements run, each where the one before it has left off. -/
def runAll (statements : List (σ → Option σ)) (s : σ) : Option σ :=
  statements.foldlM (fun s statement => statement s) s

/-! ### One statement -/

section Send

variable {outcome : Outcome} {statement : σ → Option σ} {s s' : σ}

theorem send_answered_iff : outcome.send statement s = (true, s') ↔
    outcome = .done ∧ statement s = some s' := by
  cases outcome with
  | done => cases h : statement s <;> simp [Outcome.send, h]
  | lost => cases h : statement s <;> simp [Outcome.send, h]
  | refused => simp [Outcome.send]

/-- A statement that does not answer has run, or the state is the old one. -/
theorem send_unanswered (h : outcome.send statement s = (false, s')) :
    s' = s ∨ statement s = some s' := by
  cases outcome with
  | done => cases hs : statement s <;> simp_all [Outcome.send]
  | lost => cases hs : statement s <;> simp_all [Outcome.send]
  | refused => simp_all [Outcome.send]

theorem send_lost (h : statement s = some s') : Outcome.lost.send statement s = (false, s') := by
  simp [Outcome.send, h]

theorem send_refused (h : outcome = .refused ∨ statement s = none) :
    outcome.send statement s = (false, s) := by
  rcases h with rfl | h
  · rfl
  · cases outcome <;> simp [Outcome.send, h]

/-- A step under an outcome, for a program that `step` tells how to go on: after a statement
that answers, and after one that does not run. A lost answer has the effect of the first, and
the program goes on as after the second. -/
def Outcome.step {φ : Type*} (outcome : Outcome) (step : Bool → σ → Option (σ × φ)) (s : σ) :
    Option (σ × φ) :=
  match outcome with
  | .done => step true s
  | .lost => (step true s).bind fun written => (step false s).map fun next => (written.1, next.2)
  | .refused => step false s

theorem step_lost_eq_some {φ : Type*} {step : Bool → σ → Option (σ × φ)} {p : φ} :
    Outcome.lost.step step s = some (s', p) ↔
      (∃ q, step true s = some (s', q)) ∧ ∃ t, step false s = some (t, p) := by
  simp only [Outcome.step, Option.bind_eq_some_iff, Option.map_eq_some_iff]
  constructor
  · rintro ⟨⟨t, q⟩, hrun, ⟨t', p'⟩, hfail, heq⟩
    obtain ⟨rfl, rfl⟩ := Prod.mk.inj heq
    exact ⟨⟨q, hrun⟩, t', hfail⟩
  · rintro ⟨⟨q, hrun⟩, t, hfail⟩
    exact ⟨(s', q), hrun, (t, p), hfail, rfl⟩

end Send

/-! ### All statements -/

section SendAll

variable {statements : List (σ → Option σ)} {outcomes : ℕ → Outcome} {s s' : σ}

/-- All statements answer if and only if each is done where the one before has left off. -/
theorem sendAll_answered_iff : sendAll statements outcomes s = (true, s') ↔
    (∀ n < statements.length, outcomes n = .done) ∧ runAll statements s = some s' := by
  induction statements generalizing outcomes s with
  | nil => simp [sendAll, runAll]
  | cons statement statements ih =>
      have hdone : (∀ n < (statement :: statements).length, outcomes n = .done) ↔
          outcomes 0 = .done ∧ ∀ n < statements.length, outcomes (n + 1) = .done := by
        constructor
        · exact fun h => ⟨h 0 (Nat.zero_lt_succ _), fun n hn => h (n + 1) (Nat.succ_lt_succ hn)⟩
        · rintro ⟨hzero, hsucc⟩ n hn
          cases n with
          | zero => exact hzero
          | succ n => exact hsucc n (Nat.lt_of_succ_lt_succ hn)
      rw [hdone, runAll, List.foldlM_cons, sendAll]
      split
      · rename_i s₁ hsend
        obtain ⟨hzero, hs₁⟩ := send_answered_iff.mp hsend
        rw [ih, hs₁]
        exact ⟨fun h => ⟨⟨hzero, h.1⟩, h.2⟩, fun h => ⟨h.1.2, h.2⟩⟩
      · rename_i s₁ hsend
        constructor
        · intro h
          cases h
        · rintro ⟨⟨hzero, -⟩, hrun⟩
          obtain ⟨s₂, hs₂, -⟩ := Option.bind_eq_some_iff.mp hrun
          rw [send_answered_iff.mpr ⟨hzero, hs₂⟩] at hsend
          cases hsend

/-- What every statement preserves, the run preserves, wherever it stops. -/
theorem sendAll_preserves {P : σ → Prop}
    (hstep : ∀ statement ∈ statements, ∀ s s', P s → statement s = some s' → P s') (h : P s) :
    P (sendAll statements outcomes s).2 := by
  induction statements generalizing outcomes s with
  | nil => exact h
  | cons statement statements ih =>
      have hrun := hstep statement List.mem_cons_self
      rw [sendAll]
      split
      · rename_i s₁ hsend
        exact ih (fun st hst => hstep st (List.mem_cons_of_mem _ hst))
          (hrun s s₁ h (send_answered_iff.mp hsend).2)
      · rename_i s₁ hsend
        rcases send_unanswered hsend with rfl | hs₁
        · exact h
        · exact hrun s s₁ h hs₁

end SendAll

end Statements
