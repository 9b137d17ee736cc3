import Mathlib.Data.Option.Basic

/-!
The errors of the services: the codes of the HTTP gateway, and the codes with a
message of the gRPC services behind it.
-/

namespace Liquifier

/-- `axum::http::StatusCode`, the errors among them that the handlers answer. -/
inductive StatusCode where
  | badRequest
  | unauthorized
  | forbidden
  | notFound
  | conflict
  | unprocessableEntity
  | tooManyRequests
  | internalServerError
  | badGateway
  | serviceUnavailable
  deriving DecidableEq

/-- `tonic::Status`. -/
inductive Status where
  | invalidArgument (message : String)
  | notFound (message : String)
  | failedPrecondition (message : String)
  | internal (message : String)
  deriving DecidableEq

/-- `ok_or`, `ok_or_else` and `map_err` on an answer that is `none` for an error. -/
def okOr {ε α : Type} (e : ε) : Option α → Except ε α
  | some a => .ok a
  | none => .error e

/-- `if !condition { return Err(e) }`. -/
def ensure {ε : Type} (condition : Bool) (e : ε) : Except ε Unit :=
  if condition then .ok () else .error e

section Bind

variable {ε α β : Type}

theorem bind_eq_ok {x : Except ε α} {f : α → Except ε β} {b : β} :
    x >>= f = .ok b ↔ ∃ a, x = .ok a ∧ f a = .ok b := by
  cases x with
  | ok a => simp [bind, Except.bind]
  | error e => simp [bind, Except.bind]

theorem map_eq_ok {x : Except ε α} {f : α → β} {b : β} :
    x.map f = .ok b ↔ ∃ a, x = .ok a ∧ f a = b := by
  cases x with
  | ok a => simp [Except.map]
  | error e => simp [Except.map]

theorem okOr_eq_ok {e : ε} {o : Option α} {a : α} : okOr e o = .ok a ↔ o = some a := by
  cases o <;> simp [okOr]

theorem ensure_eq_ok {condition : Bool} {e : ε} {u : Unit} :
    ensure condition e = .ok u ↔ condition = true := by
  cases condition <;> simp [ensure]

theorem ok_of_toOption {x : Except ε α} {a : α} (h : x.toOption = some a) : x = .ok a := by
  cases x with
  | ok b => exact congrArg Except.ok (Option.some.inj h)
  | error e => cases h

end Bind

end Liquifier
