/-!
`common::retry::retry`: an operation is called again after an error, with a
pause between the calls, up to a fixed number of attempts. The operation may
change the world it is called in, so a call is a function of the world; which
answer it gets at each attempt is the business of `f`.
-/

namespace Liquifier

variable {ω ε α : Type}

/-- The attempts `attempt, …, attempt + left - 1`; `none` is the source's
`unreachable!()`. -/
def retryFrom (f : Nat → ω → Except ε α × ω) (attempt : Nat) :
    Nat → ω → Option (Except ε α) × ω
  | 0, w => (none, w)
  | left + 1, w =>
      match f attempt w with
      | (.ok val, w') => (some (.ok val), w')
      | (.error e, w') =>
          if left = 0 then (some (.error e), w') else retryFrom f (attempt + 1) left w'

def retry (maxAttempts : Nat) (f : Nat → ω → Except ε α × ω) (w : ω) :
    Option (Except ε α) × ω :=
  retryFrom f 1 maxAttempts w

end Liquifier
