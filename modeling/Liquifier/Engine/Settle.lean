import Liquifier.Engine.RecordTrade

/-!
The two paths that settle a recorded trade by its receipt:
`finalize_trade_status_from_receipt`, which the task that sold waits for, and
the passes of `reconcile_submitted_trades_once` over the trades that are still
submitted. Both are given statement by statement; what a look-up of a receipt
answers is an input.

A statement that fails is one that is not carried out. One that is carried out and whose
reply is lost ends the settling with an error as well (`finalizeStep_lost`). A confirmation
whose reply is lost leaves the row confirmed and without its amount, as an update of the amount
that fails does: marking the trade as failed after that does not change a confirmed row.
-/

namespace Liquifier.Engine

/-- The answer of `fetch_receipt_with_received`. -/
inductive Lookup where
  | pending
  | error (e : String)
  | success (received : Option ℕ)
  | reverted
  deriving DecidableEq

/-- What a step waits for: a look-up, with whether the deadline has passed by
then, or a statement. -/
inductive SettleInput where
  | lookup (outcome : Lookup) (deadlinePassed : Bool)
  | statement (ok : Bool)
  deriving DecidableEq

def markTradeConfirmedError : String := "Failed to mark trade confirmed"
def markTradeFailedError : String := "Failed to mark trade failed"
def updateTradeReceivedError : String := "Failed to update trade final_received"
def transactionReverted : String := "transaction_reverted"
def receiptLookupError (e : String) : String := "receipt_lookup_error: " ++ e

/-! ### The task that sold -/

structure TradeFinalization where
  status : TradeStatus
  failureReason : Option String
  receivedAmount : Option ℕ
  deriving DecidableEq

inductive FinalizePhase where
  | lookup
  | markConfirmed (received : Option ℕ)
  | updateReceived (received : ℕ)
  | markFailed (reason : String)
  | returned (result : Except String TradeFinalization)

/-- A trade without a transaction hash is left as it is. -/
def finalizeStart (sellTxHash : Option String) : FinalizePhase :=
  match (sellTxHash.map trim).filter (· ≠ "") with
  | none => .returned (.ok ⟨.submitted, none, none⟩)
  | some _ => .lookup

def finalizeStep (tradeId : Uuid) (targetToken : String) (input : SettleInput) (db : Database) :
    FinalizePhase → Option (Database × FinalizePhase)
  | .lookup =>
      match input with
      | .lookup (.success received) _ => some (db, .markConfirmed received)
      | .lookup .reverted _ => some (db, .markFailed transactionReverted)
      | .lookup .pending deadlinePassed =>
          if deadlinePassed then some (db, .returned (.ok ⟨.submitted, none, none⟩))
          else some (db, .lookup)
      | .lookup (.error e) _ => some (db, .markFailed (receiptLookupError e))
      | .statement _ => none
  | .markConfirmed received =>
      match input with
      | .statement true =>
          match received with
          | some amount => some (db.markTradeConfirmed tradeId, .updateReceived amount)
          | none =>
              some (db.markTradeConfirmed tradeId, .returned (.ok ⟨.confirmed, none, none⟩))
      | .statement false => some (db, .returned (.error markTradeConfirmedError))
      | .lookup _ _ => none
  | .updateReceived amount =>
      match input with
      | .statement true =>
          some (db.updateTradeReceived tradeId amount targetToken,
            .returned (.ok ⟨.confirmed, none, some amount⟩))
      | .statement false => some (db, .returned (.error updateTradeReceivedError))
      | .lookup _ _ => none
  | .markFailed reason =>
      match input with
      | .statement true =>
          some (db.markTradeFailed tradeId reason, .returned (.ok ⟨.failed, some reason, none⟩))
      | .statement false => some (db, .returned (.error markTradeFailedError))
      | .lookup _ _ => none
  | .returned _ => none

/-! ### Reconciliation -/

/-- A submitted trade with the columns of its session that settling it needs. -/
structure PendingTrade where
  tradeId : Uuid
  sessionId : Uuid
  chain : String
  walletId : Uuid
  targetToken : String
  sellTxHash : String
  deriving DecidableEq

/-- The rows of the query of a pass. -/
def pendingTrades (db : Database) : List PendingTrade :=
  db.submittedTrades.filterMap fun t =>
    match Table.get (·.id) db.sessions t.sessionId, t.sellTxHash with
    | some s, some hash => some ⟨t.id, t.sessionId, s.chain, s.walletId, s.targetToken, hash⟩
    | _, _ => none

inductive PassPhase where
  | query
  /-- The wallet of the first of these trades is looked up next. -/
  | loop (rest : List PendingTrade)
  | lookup (trade : PendingTrade) (rest : List PendingTrade)
  | markConfirmed (trade : PendingTrade) (received : Option ℕ) (rest : List PendingTrade)
  | updateReceived (trade : PendingTrade) (received : ℕ) (rest : List PendingTrade)
  | markFailed (trade : PendingTrade) (rest : List PendingTrade)
  | returned (ok : Bool)
  deriving DecidableEq

inductive PassInput where
  | wallet (row : Option (Option (String × String)))
  | settle (input : SettleInput)

def passStep (input : PassInput) (db : Database) : PassPhase → Option (Database × PassPhase)
  | .query =>
      match input with
      | .settle (.statement true) => some (db, .loop (pendingTrades db))
      | .settle (.statement false) => some (db, .returned false)
      | _ => none
  | .loop [] => some (db, .returned true)
  | .loop (trade :: rest) =>
      match input with
      | .wallet row =>
          match resolveSessionWalletAddress row trade.chain with
          | some _ => some (db, .lookup trade rest)
          | none => some (db, .loop rest)
      | _ => none
  | .lookup trade rest =>
      match input with
      | .settle (.lookup (.success received) _) => some (db, .markConfirmed trade received rest)
      | .settle (.lookup .reverted _) => some (db, .markFailed trade rest)
      | .settle (.lookup .pending _) => some (db, .loop rest)
      | .settle (.lookup (.error _) _) => some (db, .loop rest)
      | _ => none
  | .markConfirmed trade received rest =>
      match input with
      | .settle (.statement true) =>
          match received with
          | some amount =>
              some (db.markTradeConfirmed trade.tradeId, .updateReceived trade amount rest)
          | none => some (db.markTradeConfirmed trade.tradeId, .loop rest)
      | .settle (.statement false) => some (db, .returned false)
      | _ => none
  | .updateReceived trade amount rest =>
      match input with
      | .settle (.statement true) =>
          some (db.updateTradeReceived trade.tradeId amount trade.targetToken, .loop rest)
      | .settle (.statement false) => some (db, .returned false)
      | _ => none
  | .markFailed trade rest =>
      match input with
      | .settle (.statement true) =>
          some (db.markTradeFailed trade.tradeId transactionReverted, .loop rest)
      | .settle (.statement false) => some (db, .returned false)
      | _ => none
  | .returned _ => none

/-! ### The moves of the two paths -/

/-- All that a step of `finalize_trade_status_from_receipt` can do. -/
inductive FinalizeMove (tradeId : Uuid) (targetToken : String) (db : Database) :
    SettleInput → FinalizePhase → Database → FinalizePhase → Prop where
  | success {received : Option ℕ} {late : Bool} :
      FinalizeMove tradeId targetToken db (.lookup (.success received) late) .lookup db
        (.markConfirmed received)
  | reverted {late : Bool} :
      FinalizeMove tradeId targetToken db (.lookup .reverted late) .lookup db
        (.markFailed transactionReverted)
  | expired :
      FinalizeMove tradeId targetToken db (.lookup .pending true) .lookup db
        (.returned (.ok ⟨.submitted, none, none⟩))
  | pending : FinalizeMove tradeId targetToken db (.lookup .pending false) .lookup db .lookup
  | lookupError {e : String} {late : Bool} :
      FinalizeMove tradeId targetToken db (.lookup (.error e) late) .lookup db
        (.markFailed (receiptLookupError e))
  | confirmed :
      FinalizeMove tradeId targetToken db (.statement true) (.markConfirmed none)
        (db.markTradeConfirmed tradeId) (.returned (.ok ⟨.confirmed, none, none⟩))
  | confirmedAmount {amount : ℕ} :
      FinalizeMove tradeId targetToken db (.statement true) (.markConfirmed (some amount))
        (db.markTradeConfirmed tradeId) (.updateReceived amount)
  | confirmError {received : Option ℕ} :
      FinalizeMove tradeId targetToken db (.statement false) (.markConfirmed received) db
        (.returned (.error markTradeConfirmedError))
  | received {amount : ℕ} :
      FinalizeMove tradeId targetToken db (.statement true) (.updateReceived amount)
        (db.updateTradeReceived tradeId amount targetToken)
        (.returned (.ok ⟨.confirmed, none, some amount⟩))
  | receivedError {amount : ℕ} :
      FinalizeMove tradeId targetToken db (.statement false) (.updateReceived amount) db
        (.returned (.error updateTradeReceivedError))
  | failed {reason : String} :
      FinalizeMove tradeId targetToken db (.statement true) (.markFailed reason)
        (db.markTradeFailed tradeId reason) (.returned (.ok ⟨.failed, some reason, none⟩))
  | failError {reason : String} :
      FinalizeMove tradeId targetToken db (.statement false) (.markFailed reason) db
        (.returned (.error markTradeFailedError))

/-- All that a step of a reconciliation pass can do. -/
inductive PassMove (db : Database) : PassInput → PassPhase → Database → PassPhase → Prop where
  | queried : PassMove db (.settle (.statement true)) .query db (.loop (pendingTrades db))
  | queryError : PassMove db (.settle (.statement false)) .query db (.returned false)
  | done {input : PassInput} : PassMove db input (.loop []) db (.returned true)
  | resolved {row : Option (Option (String × String))} {trade : PendingTrade}
      {rest : List PendingTrade} :
      PassMove db (.wallet row) (.loop (trade :: rest)) db (.lookup trade rest)
  | unresolved {row : Option (Option (String × String))} {trade : PendingTrade}
      {rest : List PendingTrade} :
      PassMove db (.wallet row) (.loop (trade :: rest)) db (.loop rest)
  | success {received : Option ℕ} {late : Bool} {trade : PendingTrade}
      {rest : List PendingTrade} :
      PassMove db (.settle (.lookup (.success received) late)) (.lookup trade rest) db
        (.markConfirmed trade received rest)
  | reverted {late : Bool} {trade : PendingTrade} {rest : List PendingTrade} :
      PassMove db (.settle (.lookup .reverted late)) (.lookup trade rest) db
        (.markFailed trade rest)
  | skipped {outcome : Lookup} {late : Bool} {trade : PendingTrade} {rest : List PendingTrade} :
      PassMove db (.settle (.lookup outcome late)) (.lookup trade rest) db (.loop rest)
  | confirmed {trade : PendingTrade} {rest : List PendingTrade} :
      PassMove db (.settle (.statement true)) (.markConfirmed trade none rest)
        (db.markTradeConfirmed trade.tradeId) (.loop rest)
  | confirmedAmount {amount : ℕ} {trade : PendingTrade} {rest : List PendingTrade} :
      PassMove db (.settle (.statement true)) (.markConfirmed trade (some amount) rest)
        (db.markTradeConfirmed trade.tradeId) (.updateReceived trade amount rest)
  | received {amount : ℕ} {trade : PendingTrade} {rest : List PendingTrade} :
      PassMove db (.settle (.statement true)) (.updateReceived trade amount rest)
        (db.updateTradeReceived trade.tradeId amount trade.targetToken) (.loop rest)
  | failed {trade : PendingTrade} {rest : List PendingTrade} :
      PassMove db (.settle (.statement true)) (.markFailed trade rest)
        (db.markTradeFailed trade.tradeId transactionReverted) (.loop rest)
  | statementError {phase : PassPhase} :
      PassMove db (.settle (.statement false)) phase db (.returned false)

variable {db db' : Database}

theorem finalizeStep_move {tradeId : Uuid} {targetToken : String} {input : SettleInput}
    {phase phase' : FinalizePhase}
    (h : finalizeStep tradeId targetToken input db phase = some (db', phase')) :
    FinalizeMove tradeId targetToken db input phase db' phase' := by
  cases phase with
  | lookup =>
      cases input with
      | lookup outcome late =>
          cases outcome with
          | pending =>
              cases late with
              | true => cases h; exact .expired
              | false => cases h; exact .pending
          | error e => cases h; exact .lookupError
          | success received => cases h; exact .success
          | reverted => cases h; exact .reverted
      | statement ok => cases h
  | markConfirmed received =>
      cases input with
      | lookup outcome late => cases h
      | statement ok =>
          cases ok with
          | true =>
              cases received with
              | none => cases h; exact .confirmed
              | some amount => cases h; exact .confirmedAmount
          | false => cases h; exact .confirmError
  | updateReceived amount =>
      cases input with
      | lookup outcome late => cases h
      | statement ok =>
          cases ok with
          | true => cases h; exact .received
          | false => cases h; exact .receivedError
  | markFailed reason =>
      cases input with
      | lookup outcome late => cases h
      | statement ok =>
          cases ok with
          | true => cases h; exact .failed
          | false => cases h; exact .failError
  | returned result => cases h

theorem passStep_move {input : PassInput} {phase phase' : PassPhase}
    (h : passStep input db phase = some (db', phase')) : PassMove db input phase db' phase' := by
  cases phase with
  | query =>
      rcases input with row | ⟨outcome, late⟩ | ⟨_ | _⟩
      · cases h
      · cases h
      · cases h; exact .statementError
      · cases h; exact .queried
  | loop rest =>
      cases rest with
      | nil => cases h; exact .done
      | cons trade rest =>
          cases input with
          | settle input => cases h
          | wallet row =>
              simp only [passStep] at h
              split at h
              · cases h; exact .resolved
              · cases h; exact .unresolved
  | lookup trade rest =>
      rcases input with row | ⟨outcome, late⟩ | ok
      · cases h
      · cases outcome with
        | pending => cases h; exact .skipped
        | error e => cases h; exact .skipped
        | success received => cases h; exact .success
        | reverted => cases h; exact .reverted
      · cases h
  | markConfirmed trade received rest =>
      rcases input with row | ⟨outcome, late⟩ | ⟨_ | _⟩
      · cases h
      · cases h
      · cases h; exact .statementError
      · cases received with
        | none => cases h; exact .confirmed
        | some amount => cases h; exact .confirmedAmount
  | updateReceived trade amount rest =>
      rcases input with row | ⟨outcome, late⟩ | ⟨_ | _⟩
      · cases h
      · cases h
      · cases h; exact .statementError
      · cases h; exact .received
  | markFailed trade rest =>
      rcases input with row | ⟨outcome, late⟩ | ⟨_ | _⟩
      · cases h
      · cases h
      · cases h; exact .statementError
      · cases h; exact .failed
  | returned ok => cases h

/-- A lost reply ends the settling with an error, and leaves what the statement has written. -/
theorem finalizeStep_lost {tradeId : Uuid} {targetToken : String} {phase phase' : FinalizePhase}
    (h : Statements.Outcome.lost.step
      (fun ok db => finalizeStep tradeId targetToken (.statement ok) db phase) db =
        some (db', phase')) :
    (∃ e, phase' = .returned (.error e)) ∧
      ∃ next, finalizeStep tradeId targetToken (.statement true) db phase = some (db', next) := by
  obtain ⟨hrun, dbOld, hfail⟩ := Statements.step_lost_eq_some.mp h
  refine ⟨?_, hrun⟩
  cases finalizeStep_move hfail with
  | confirmError => exact ⟨_, rfl⟩
  | receivedError => exact ⟨_, rfl⟩
  | failError => exact ⟨_, rfl⟩

/-- A lost reply ends a pass likewise; after its last trade it has no statement left. -/
theorem passStep_lost {phase phase' : PassPhase}
    (h : Statements.Outcome.lost.step
      (fun ok db => passStep (.settle (.statement ok)) db phase) db = some (db', phase')) :
    phase = .loop [] ∨ phase' = .returned false ∧
      ∃ next, passStep (.settle (.statement true)) db phase = some (db', next) := by
  obtain ⟨hrun, dbOld, hfail⟩ := Statements.step_lost_eq_some.mp h
  cases passStep_move hfail with
  | done => exact .inl rfl
  | queryError => exact .inr ⟨rfl, hrun⟩
  | statementError => exact .inr ⟨rfl, hrun⟩

/-- Settling a trade touches no session and none of the lasting columns. -/
theorem FinalizeMove.frame {tradeId : Uuid} {targetToken : String} {input : SettleInput}
    {phase phase' : FinalizePhase}
    (h : FinalizeMove tradeId targetToken db input phase db' phase') :
    db'.sessions = db.sessions ∧ db'.trades.map TradeRow.core = db.trades.map TradeRow.core := by
  cases h <;> simp

theorem PassMove.frame {input : PassInput} {phase phase' : PassPhase}
    (h : PassMove db input phase db' phase') :
    db'.sessions = db.sessions ∧ db'.trades.map TradeRow.core = db.trades.map TradeRow.core := by
  cases h <;> simp

end Liquifier.Engine
