import Liquifier.Engine.Plan
import Liquifier.Lib.Statements
import Liquifier.Store.Database

/-!
`record_trade`, statement by statement.

`recordStep` is the move of one statement, so that calls may interleave and any
statement may fail; `recordTrade` is a call that nothing interrupts. The two
agree (`recordStep_insert` and what follows it), and `RecordTable` is the system
of any number of calls over one database.

A statement that fails is one that is not carried out. One that is carried out and whose
reply is lost ends the call with an error (`recordStep_lost`): for the rows it is the statement
carried out, and then a stop of the call.
-/

namespace Liquifier.Engine

/-- The arguments of a call that reach a column. -/
structure RecordCall where
  session : SessionInfo
  event : DexSwapEvent
  sellAmount : ℕ
  priceImpactBps : ℕ
  sellTxHash : Option String
  deriving DecidableEq

structure RecordedTrade where
  tradeId : Uuid
  inserted : Bool
  deriving DecidableEq

/-- The statement that comes next, or the result of the call. -/
inductive RecordPhase where
  | insert
  | update (tradeId : Uuid)
  | select
  | returned (result : Except String RecordedTrade)

namespace RecordCall

variable (call : RecordCall)

def trigger : TriggerKey := call.event.triggerKey call.session.id

/-- The values bound to the insertion; the trade sells into the pool of its
trigger. -/
def newTrade : Database.NewTrade where
  sessionId := call.session.id
  chain := call.session.chain
  triggerTxHash := call.event.txHash
  triggerPool := call.event.poolAddress
  triggerLogIndex := asI32 call.event.logIndex
  sellAmount := call.sellAmount
  sellTxHash := call.sellTxHash
  sellPool := call.event.poolAddress
  priceImpactBps := call.priceImpactBps

def entry : TradeEntry := ⟨call.trigger, call.sellTxHash, call.sellAmount⟩

/-- The row of the call counts for its session. -/
theorem recordedAmount_append_row (trades : List TradeRow) (tradeId id : Uuid) :
    recordedAmount (trades ++ [call.newTrade.row tradeId]) id =
      recordedAmount trades id + if call.session.id = id then call.sellAmount else 0 := by
  rw [recordedAmount_append, recordedAmount_singleton]
  rfl

end RecordCall

def numericError (raw field : String) : String :=
  "Invalid NUMERIC value for " ++ field ++ ": " ++ raw

variable (env : Environment)

/-- The next statement of a call, `ok` telling whether the database carries it
out. The values are parsed before the first statement. -/
def recordStep (call : RecordCall) (ok : Bool) (db : Database) :
    RecordPhase → Option (Database × RecordPhase)
  | .insert =>
      match env.decimalFromStr call.event.amountOut with
      | none => some (db, .returned (.error (numericError call.event.amountOut
          "trigger_buy_amount")))
      | some _ =>
          match if ok then db.insertTrade call.newTrade else none with
          | none => some (db, .returned (.error "Failed to record trade"))
          | some (db', some tradeId) => some (db', .update tradeId)
          | some (db', none) => some (db', .select)
  | .update tradeId =>
      if ok then
        some (db.addAmountSold call.session.id call.sellAmount, .returned (.ok ⟨tradeId, true⟩))
      else some (db, .returned (.error "Failed to update session"))
  | .select =>
      match if ok then db.selectTradeByTrigger call.trigger else none with
      | some tradeId => some (db, .returned (.ok ⟨tradeId, false⟩))
      | none =>
          some (db, .returned (.error "Failed to fetch existing trade for duplicate trigger"))
  | .returned _ => none

/-- A call of `record_trade` that runs without interruption. -/
def recordTrade (call : RecordCall) (insertOk updateOk selectOk : Bool) (db : Database) :
    Database × Except String RecordedTrade :=
  match env.decimalFromStr call.event.amountOut with
  | none => (db, .error (numericError call.event.amountOut "trigger_buy_amount"))
  | some _ =>
      match if insertOk then db.insertTrade call.newTrade else none with
      | none => (db, .error "Failed to record trade")
      | some (db', some tradeId) =>
          if updateOk then
            (db'.addAmountSold call.session.id call.sellAmount, .ok ⟨tradeId, true⟩)
          else (db', .error "Failed to update session")
      | some (db', none) =>
          match if selectOk then db'.selectTradeByTrigger call.trigger else none with
          | some tradeId => (db', .ok ⟨tradeId, false⟩)
          | none => (db', .error "Failed to fetch existing trade for duplicate trigger")

/-! ### The moves of a call -/

variable {env} {call : RecordCall} {db db' : Database} {phase phase' : RecordPhase} {ok : Bool}

/-- All that a statement of `record_trade` can do. -/
inductive RecordMove (env : Environment) (call : RecordCall) (db : Database) :
    Bool → RecordPhase → Database → RecordPhase → Prop where
  /-- A value does not parse, or the insertion fails. -/
  | insertError {ok : Bool} {e : String}
      (h : ok = false ∨ env.decimalFromStr call.event.amountOut = none ∨
        call.session.id ∉ db.sessions.map (·.id)) :
      RecordMove env call db ok .insert db (.returned (.error e))
  | inserted {db' : Database} (hnew : call.trigger ∉ db.trades.map TradeRow.trigger)
      (hsession : call.session.id ∈ db.sessions.map (·.id)) (hsessions : db'.sessions = db.sessions)
      (htrades : db'.trades = db.trades ++ [call.newTrade.row db.freshTradeId]) :
      RecordMove env call db true .insert db' (.update db.freshTradeId)
  | conflict (hold : call.trigger ∈ db.trades.map TradeRow.trigger) :
      RecordMove env call db true .insert db .select
  | updated {tradeId : Uuid} :
      RecordMove env call db true (.update tradeId)
        (db.addAmountSold call.session.id call.sellAmount) (.returned (.ok ⟨tradeId, true⟩))
  | updateError {tradeId : Uuid} {e : String} :
      RecordMove env call db false (.update tradeId) db (.returned (.error e))
  | selected {tradeId : Uuid} :
      RecordMove env call db true .select db (.returned (.ok ⟨tradeId, false⟩))
  | selectError {ok : Bool} {e : String} :
      RecordMove env call db ok .select db (.returned (.error e))

theorem recordStep_move (h : recordStep env call ok db phase = some (db', phase')) :
    RecordMove env call db ok phase db' phase' := by
  cases phase with
  | insert =>
      simp only [recordStep] at h
      split at h
      · rename_i hparse
        obtain ⟨rfl, rfl⟩ := Prod.mk.inj (Option.some.inj h)
        exact .insertError (.inr (.inl hparse))
      · cases ok with
        | false =>
            obtain ⟨rfl, rfl⟩ := Prod.mk.inj (Option.some.inj h)
            exact .insertError (.inl rfl)
        | true =>
            simp only [if_true] at h
            split at h
            · rename_i hinsert
              obtain ⟨rfl, rfl⟩ := Prod.mk.inj (Option.some.inj h)
              exact .insertError (.inr (.inr (db.sessionId_notMem_of_insertTrade hinsert)))
            · rename_i hinsert
              obtain ⟨rfl, rfl⟩ := Prod.mk.inj (Option.some.inj h)
              rcases db.insertTrade_cases hinsert with ⟨hnone, _⟩ | ⟨hid, hnew, hs, hdb, ht⟩
              · cases hnone
              · cases hid
                exact .inserted hnew hs hdb ht
            · rename_i hinsert
              obtain ⟨rfl, rfl⟩ := Prod.mk.inj (Option.some.inj h)
              rcases db.insertTrade_cases hinsert with ⟨_, rfl, hold⟩ | ⟨hid, _⟩
              · exact .conflict hold
              · cases hid
  | update tradeId =>
      cases ok with
      | true =>
          obtain ⟨rfl, rfl⟩ := Prod.mk.inj (Option.some.inj h)
          exact .updated
      | false =>
          obtain ⟨rfl, rfl⟩ := Prod.mk.inj (Option.some.inj h)
          exact .updateError
  | select =>
      simp only [recordStep] at h
      split at h
      · obtain ⟨rfl, rfl⟩ := Prod.mk.inj (Option.some.inj h)
        cases ok with
        | true => exact .selected
        | false => simp at *
      · obtain ⟨rfl, rfl⟩ := Prod.mk.inj (Option.some.inj h)
        exact .selectError
  | returned result => cases h

/-- A lost reply ends the call, and leaves what the statement has written. -/
theorem recordStep_lost
    (h : Statements.Outcome.lost.step (fun ok db => recordStep env call ok db phase) db =
      some (db', phase')) :
    (∃ e, phase' = .returned (.error e)) ∧
      ∃ next, recordStep env call true db phase = some (db', next) := by
  obtain ⟨hrun, dbOld, hfail⟩ := Statements.step_lost_eq_some.mp h
  refine ⟨?_, hrun⟩
  cases recordStep_move hfail with
  | insertError => exact ⟨_, rfl⟩
  | updateError => exact ⟨_, rfl⟩
  | selectError => exact ⟨_, rfl⟩

namespace RecordMove

/-- No statement of `record_trade` adds or removes a session. -/
theorem session_ids (h : RecordMove env call db ok phase db' phase') :
    db'.sessions.map (·.id) = db.sessions.map (·.id) := by
  cases h with
  | inserted _ _ hsessions => rw [hsessions]
  | updated => exact db.session_ids_addAmountSold _ _
  | _ => rfl

/-- Rows of `trades` are only added. -/
theorem trades_append (h : RecordMove env call db ok phase db' phase') :
    ∃ new, db'.trades = db.trades ++ new := by
  cases h with
  | inserted _ _ _ htrades => exact ⟨_, htrades⟩
  | _ => exact ⟨[], (List.append_nil _).symm⟩

end RecordMove

namespace Sample

/-- One active session and no trade yet. -/
def database : Database where
  sessions := [row 1]
  sessionPools := [(1, pool)]
  trades := []
  session_ids := by decide
  trade_ids := by decide
  trade_triggers := by decide
  trade_sessions := by simp

def recordCall : RecordCall where
  session := session 1
  event := event "0xa"
  sellAmount := 500
  priceImpactBps := 4
  sellTxHash := some "0xb"

end Sample

end Liquifier.Engine
