import Liquifier.Engine.Worker

/-!
What the moves of the engine make of the rows of `trades`.

Two statements write the status of a row: the one that confirms it clears the reason,
and the one that gives it up spares a confirmed row. A new row is submitted and has no
reason. Everything about the life of a row follows from these cases.
-/

namespace Liquifier.Engine

variable {env : Environment}

/-- What a statement makes of the row `r`. -/
inductive RowStep (r r' : TradeRow) : Prop where
  | kept (hid : r'.id = r.id) (hstatus : r'.status = r.status)
      (hreason : r'.failureReason = r.failureReason)
  | confirmed (hid : r'.id = r.id) (hstatus : r'.status = .confirmed)
      (hreason : r'.failureReason = none)
  | failed (hid : r'.id = r.id) (hold : r.status ≠ .confirmed) (hstatus : r'.status = .failed)
      (hreason : r'.failureReason.isSome = true)

/-- A row as it is inserted. -/
def Inserted (r : TradeRow) : Prop := r.status = .submitted ∧ r.failureReason = none

namespace RowStep

variable {r r' : TradeRow}

theorem refl (r : TradeRow) : RowStep r r := .kept rfl rfl rfl

theorem id_eq (h : RowStep r r') : r'.id = r.id := by
  cases h <;> assumption

theorem confirmed_stays (h : RowStep r r') (hr : r.status = .confirmed) :
    r'.status = .confirmed := by
  cases h with
  | kept _ hstatus => rw [hstatus, hr]
  | confirmed _ hstatus => exact hstatus
  | failed _ hold => exact absurd hr hold

end RowStep

/-! ### The statements -/

/-- What a statement makes of the rows. -/
abbrev RowsStep (rows rows' : List TradeRow) : Prop := Table.Follows RowStep Inserted rows rows'

section Statements

variable (db : Database)

theorem rowsStep_refl : RowsStep db.trades db.trades := .refl RowStep.refl

theorem rowsStep_markTradeConfirmed (id : Uuid) :
    RowsStep db.trades (db.markTradeConfirmed id).trades :=
  .update RowStep.refl fun _ _ _ => .confirmed rfl rfl rfl

theorem rowsStep_markTradeFailed (id : Uuid) (reason : String) :
    RowsStep db.trades (db.markTradeFailed id reason).trades := by
  refine .update RowStep.refl fun r _ _ => ?_
  split
  · exact .refl r
  · exact .failed rfl ‹_› rfl rfl

theorem rowsStep_updateTradeReceived (id : Uuid) (amount : ℕ) (token : String) :
    RowsStep db.trades (db.updateTradeReceived id amount token).trades :=
  .update RowStep.refl fun _ _ _ => .kept rfl rfl rfl

end Statements

theorem RecordMove.rowsStep {call : RecordCall} {ok : Bool} {db db' : Database}
    {phase phase' : RecordPhase} (h : RecordMove env call db ok phase db' phase') :
    RowsStep db.trades db'.trades := by
  cases h with
  | inserted _ _ _ htrades =>
      rw [htrades]
      exact .append RowStep.refl ⟨rfl, rfl⟩
  | _ => exact rowsStep_refl _

theorem FinalizeMove.rowsStep {tradeId : Uuid} {targetToken : String} {input : SettleInput}
    {db db' : Database} {phase phase' : FinalizePhase}
    (h : FinalizeMove tradeId targetToken db input phase db' phase') :
    RowsStep db.trades db'.trades := by
  cases h with
  | confirmed => exact rowsStep_markTradeConfirmed _ _
  | confirmedAmount => exact rowsStep_markTradeConfirmed _ _
  | received => exact rowsStep_updateTradeReceived _ _ _ _
  | failed => exact rowsStep_markTradeFailed _ _ _
  | _ => exact rowsStep_refl _

theorem PassMove.rowsStep {input : PassInput} {db db' : Database} {phase phase' : PassPhase}
    (h : PassMove db input phase db' phase') : RowsStep db.trades db'.trades := by
  cases h with
  | confirmed => exact rowsStep_markTradeConfirmed _ _
  | confirmedAmount => exact rowsStep_markTradeConfirmed _ _
  | received => exact rowsStep_updateTradeReceived _ _ _ _
  | failed => exact rowsStep_markTradeFailed _ _ _
  | _ => exact rowsStep_refl _

theorem TaskMove.rowsStep {w w' : World} {t t' : Task} {a : Act} (h : TaskMove env w t a w' t') :
    RowsStep w.db.trades w'.db.trades := by
  cases h with
  | delivery h =>
      cases h with
      | recorded h => exact h.rowsStep
      | finalized h => exact h.rowsStep
      | markedFailed => exact rowsStep_markTradeFailed _ _ _
      | _ => exact rowsStep_refl _
  | pass h => exact h.rowsStep
  | _ => exact rowsStep_refl _

end Liquifier.Engine
