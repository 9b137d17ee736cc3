import Liquifier.Common.Types
import Liquifier.Lib.Table

/-!
The tables that the engine and the session service share, and the SQL
statements that they send to them.

The constraints of the schema are fields of `Database`: primary keys, the unique
index `uq_trades_session_trigger` and the reference from a trade to its session.
A statement is one move on the whole database. A value that leaves the range of
its column is one of the reasons for which a statement may fail.
-/

namespace Liquifier

inductive TradeStatus where
  | submitted
  | confirmed
  | failed
  | routing
  deriving DecidableEq

/-- The columns of `uq_trades_session_trigger`. -/
structure TriggerKey where
  sessionId : Uuid
  triggerTxHash : String
  triggerPool : String
  triggerLogIndex : ℤ
  deriving DecidableEq

/-- A row of `trades`. -/
structure TradeRow where
  id : Uuid
  sessionId : Uuid
  chain : String
  status : TradeStatus
  triggerTxHash : String
  triggerPool : String
  triggerLogIndex : ℤ
  sellAmount : ℕ
  sellTxHash : Option String
  sellPool : String
  priceImpactBps : ℕ
  failureReason : Option String
  finalReceived : Option ℕ
  finalToken : Option String
  deriving DecidableEq

def TradeRow.trigger (t : TradeRow) : TriggerKey :=
  ⟨t.sessionId, t.triggerTxHash, t.triggerPool, t.triggerLogIndex⟩

/-- `log_index as i32`. -/
def asI32 (n : UInt32) : ℤ := if n.toNat < 2 ^ 31 then n.toNat else n.toNat - 2 ^ 32

/-- What is booked with a trade and never changed afterwards. -/
structure TradeEntry where
  trigger : TriggerKey
  sellTxHash : Option String
  sellAmount : ℕ
  deriving DecidableEq

def TradeRow.entry (t : TradeRow) : TradeEntry := ⟨t.trigger, t.sellTxHash, t.sellAmount⟩

/-- The columns that no statement changes once the row is there. -/
def TradeRow.core (t : TradeRow) : Uuid × TradeEntry := (t.id, t.entry)

/-- The key under which the trade of a session for an event is recorded. -/
def DexSwapEvent.triggerKey (event : DexSwapEvent) (sessionId : Uuid) : TriggerKey :=
  ⟨sessionId, event.txHash, event.poolAddress, asI32 event.logIndex⟩

structure Database where
  sessions : List SessionRow
  sessionPools : List (Uuid × PoolInfo)
  trades : List TradeRow
  session_ids : (sessions.map (·.id)).Nodup
  trade_ids : (trades.map (·.id)).Nodup
  trade_triggers : (trades.map TradeRow.trigger).Nodup
  trade_sessions : ∀ t ∈ trades, t.sessionId ∈ sessions.map (·.id)

namespace Database

/-! ### Updates by primary key -/

/-- `UPDATE sessions SET f WHERE id = id`. -/
def updateSession (db : Database) (id : Uuid) (f : SessionRow → SessionRow)
    (hf : ∀ r, (f r).id = r.id) : Database where
  sessions := Table.update (·.id) db.sessions id f
  sessionPools := db.sessionPools
  trades := db.trades
  session_ids := by
    rw [Table.map_update hf]
    exact db.session_ids
  trade_ids := db.trade_ids
  trade_triggers := db.trade_triggers
  trade_sessions := by
    rw [Table.map_update hf]
    exact db.trade_sessions

/-- `UPDATE trades SET f WHERE id = id`. -/
def updateTrade (db : Database) (id : Uuid) (f : TradeRow → TradeRow)
    (hid : ∀ t, (f t).id = t.id) (htrigger : ∀ t, (f t).trigger = t.trigger) : Database where
  sessions := db.sessions
  sessionPools := db.sessionPools
  trades := Table.update (·.id) db.trades id f
  session_ids := db.session_ids
  trade_ids := by
    rw [Table.map_update hid]
    exact db.trade_ids
  trade_triggers := by
    rw [Table.map_update htrigger]
    exact db.trade_triggers
  trade_sessions := by
    intro t ht
    rcases Table.mem_update ht with ⟨ht, _⟩ | ⟨u, hu, _, rfl⟩
    · exact db.trade_sessions t ht
    · rw [show (f u).sessionId = u.sessionId from congrArg TriggerKey.sessionId (htrigger u)]
      exact db.trade_sessions u hu

variable (db : Database)

/-- A value of `uuid_generate_v4()`: no row has it. -/
def freshTradeId : Uuid := db.trades.foldr (fun t n => max (t.id + 1) n) 0

theorem lt_freshTradeId {t : TradeRow} (ht : t ∈ db.trades) : t.id < db.freshTradeId := by
  unfold freshTradeId
  generalize db.trades = rows at ht
  induction rows with
  | nil => cases ht
  | cons u rows ih =>
      rw [List.foldr_cons]
      rcases List.mem_cons.mp ht with rfl | ht
      · exact Nat.lt_of_lt_of_le (Nat.lt_succ_self _) (Nat.le_max_left _ _)
      · exact Nat.lt_of_lt_of_le (ih ht) (Nat.le_max_right _ _)

theorem freshTradeId_notMem : db.freshTradeId ∉ db.trades.map (·.id) := by
  intro h
  obtain ⟨t, ht, heq⟩ := List.mem_map.mp h
  exact absurd heq (db.lt_freshTradeId ht).ne

/-- A row at the end of `trades`, where no constraint forbids it. -/
def appendTrade (t : TradeRow) (hid : t.id ∉ db.trades.map (·.id))
    (htrigger : t.trigger ∉ db.trades.map TradeRow.trigger)
    (hsession : t.sessionId ∈ db.sessions.map (·.id)) : Database where
  sessions := db.sessions
  sessionPools := db.sessionPools
  trades := db.trades ++ [t]
  session_ids := db.session_ids
  trade_ids := by
    rw [List.map_append]
    exact db.trade_ids.append (List.nodup_singleton _) (List.disjoint_singleton.mpr hid)
  trade_triggers := by
    rw [List.map_append]
    exact db.trade_triggers.append (List.nodup_singleton _) (List.disjoint_singleton.mpr htrigger)
  trade_sessions := by
    intro u hu
    rcases List.mem_append.mp hu with hu | hu
    · exact db.trade_sessions u hu
    · rw [List.mem_singleton.mp hu]
      exact hsession

/-! ### The statements -/

/-- The values bound to the `INSERT INTO trades` of `record_trade`. -/
structure NewTrade where
  sessionId : Uuid
  chain : String
  triggerTxHash : String
  triggerPool : String
  triggerLogIndex : ℤ
  sellAmount : ℕ
  sellTxHash : Option String
  sellPool : String
  priceImpactBps : ℕ
  deriving DecidableEq

@[reducible]
def NewTrade.row (t : NewTrade) (id : Uuid) : TradeRow where
  id := id
  sessionId := t.sessionId
  chain := t.chain
  status := .submitted
  triggerTxHash := t.triggerTxHash
  triggerPool := t.triggerPool
  triggerLogIndex := t.triggerLogIndex
  sellAmount := t.sellAmount
  sellTxHash := t.sellTxHash
  sellPool := t.sellPool
  priceImpactBps := t.priceImpactBps
  failureReason := none
  finalReceived := none
  finalToken := none

@[reducible]
def NewTrade.trigger (t : NewTrade) : TriggerKey :=
  ⟨t.sessionId, t.triggerTxHash, t.triggerPool, t.triggerLogIndex⟩

/-- `INSERT INTO trades … ON CONFLICT (session_id, trigger_tx_hash, trigger_pool,
trigger_log_index) DO NOTHING RETURNING id`. Without a session to refer to the
statement is refused. -/
def insertTrade (t : NewTrade) : Option (Database × Option Uuid) :=
  if htrigger : t.trigger ∈ db.trades.map TradeRow.trigger then some (db, none)
  else if hsession : t.sessionId ∈ db.sessions.map (·.id) then
    some (db.appendTrade (t.row db.freshTradeId) db.freshTradeId_notMem htrigger hsession,
      some db.freshTradeId)
  else none

/-- `UPDATE sessions SET amount_sold = amount_sold + $1 WHERE id = $2`. -/
def addAmountSold (id : Uuid) (amount : ℕ) : Database :=
  db.updateSession id (fun r => { r with amountSold := r.amountSold + amount }) fun _ => rfl

/-- `UPDATE sessions SET status = $1 WHERE id = $2`. -/
def setSessionStatus (id : Uuid) (status : SessionStatus) : Database :=
  db.updateSession id (fun r => { r with status := status }) fun _ => rfl

/-- The trade recorded for a trigger, the most recent one if there were several. -/
def selectTradeByTrigger (key : TriggerKey) : Option Uuid :=
  (db.trades.filter fun t => t.trigger = key).getLast?.map (·.id)

/-- `UPDATE trades SET status = 'confirmed', failure_reason = NULL WHERE id = $1`. -/
def markTradeConfirmed (id : Uuid) : Database :=
  db.updateTrade id (fun t => { t with status := .confirmed, failureReason := none })
    (fun _ => rfl) fun _ => rfl

/-- `UPDATE trades SET status = 'failed', failure_reason = $1 WHERE id = $2 AND
status <> 'confirmed'`. -/
def markTradeFailed (id : Uuid) (reason : String) : Database :=
  db.updateTrade id
    (fun t => if t.status = .confirmed then t
      else { t with status := .failed, failureReason := some reason })
    (fun t => by split <;> rfl) fun t => by split <;> rfl

/-- `UPDATE trades SET final_received = $1, final_token = $2 WHERE id = $3`. -/
def updateTradeReceived (id : Uuid) (amount : ℕ) (token : String) : Database :=
  db.updateTrade id (fun t => { t with finalReceived := some amount, finalToken := some token })
    (fun _ => rfl) fun _ => rfl

def poolsOf (id : Uuid) : List PoolInfo := (db.sessionPools.filter fun p => p.1 = id).map (·.2)

/-- The rows of the query for the active sessions of a chain that watch a pool. -/
def activeSessions (chain poolAddress : String) : List SessionRow :=
  db.sessions.filter fun s =>
    s.chain = chain && s.status = .active &&
      (db.poolsOf s.id).any fun p => eqIgnoreAsciiCase p.poolAddress poolAddress

/-- What `get_active_sessions_for_token` may answer: the rows in some order, each
with its pools in some order, or with none where that second query failed. -/
def answersActiveSessions (chain poolAddress : String) (answer : List SessionInfo) : Bool :=
  (answer.map (·.toSessionRow)).isPerm (db.activeSessions chain poolAddress) &&
    answer.all fun s => s.pools = [] || s.pools.isPerm (db.poolsOf s.id)

/-- The trades that a reconciliation pass looks at. Rows stand in the order of
`executed_at`. -/
def submittedTrades : List TradeRow :=
  (db.trades.filter fun t =>
    t.status = .submitted && t.sellTxHash.any (· ≠ "")).take 25

/-! ### What the statements leave alone -/

theorem session_ids_updateSession (id : Uuid) (f : SessionRow → SessionRow)
    (hf : ∀ r, (f r).id = r.id) :
    (db.updateSession id f hf).sessions.map (·.id) = db.sessions.map (·.id) :=
  Table.map_update hf _ _

@[simp] theorem sessions_addAmountSold (id : Uuid) (amount : ℕ) :
    (db.addAmountSold id amount).sessions =
      Table.update (·.id) db.sessions id
        (fun r => { r with amountSold := r.amountSold + amount }) := rfl

@[simp] theorem session_ids_addAmountSold (id : Uuid) (amount : ℕ) :
    (db.addAmountSold id amount).sessions.map (·.id) = db.sessions.map (·.id) :=
  db.session_ids_updateSession _ _ _

@[simp] theorem trades_addAmountSold (id : Uuid) (amount : ℕ) :
    (db.addAmountSold id amount).trades = db.trades := rfl

@[simp] theorem sessions_setSessionStatus (id : Uuid) (status : SessionStatus) :
    (db.setSessionStatus id status).sessions =
      Table.update (·.id) db.sessions id (fun r => { r with status := status }) := rfl

@[simp] theorem session_ids_setSessionStatus (id : Uuid) (status : SessionStatus) :
    (db.setSessionStatus id status).sessions.map (·.id) = db.sessions.map (·.id) :=
  db.session_ids_updateSession _ _ _

@[simp] theorem trades_setSessionStatus (id : Uuid) (status : SessionStatus) :
    (db.setSessionStatus id status).trades = db.trades := rfl

@[simp] theorem sessions_markTradeConfirmed (id : Uuid) :
    (db.markTradeConfirmed id).sessions = db.sessions := rfl

@[simp] theorem sessions_markTradeFailed (id : Uuid) (reason : String) :
    (db.markTradeFailed id reason).sessions = db.sessions := rfl

@[simp] theorem sessions_updateTradeReceived (id : Uuid) (amount : ℕ) (token : String) :
    (db.updateTradeReceived id amount token).sessions = db.sessions := rfl

theorem core_updateTrade (id : Uuid) (f : TradeRow → TradeRow) (hid htrigger)
    (hcore : ∀ t, (f t).core = t.core) :
    (db.updateTrade id f hid htrigger).trades.map TradeRow.core = db.trades.map TradeRow.core :=
  Table.map_update hcore _ _

theorem entries_of_core {trades trades' : List TradeRow}
    (h : trades'.map TradeRow.core = trades.map TradeRow.core) :
    trades'.map TradeRow.entry = trades.map TradeRow.entry := by
  have hmap (rows : List TradeRow) :
      rows.map TradeRow.entry = (rows.map TradeRow.core).map (·.2) := by
    rw [List.map_map]
    rfl
  rw [hmap, hmap, h]

@[simp] theorem core_markTradeConfirmed (id : Uuid) :
    (db.markTradeConfirmed id).trades.map TradeRow.core = db.trades.map TradeRow.core :=
  db.core_updateTrade _ _ _ _ fun _ => rfl

@[simp] theorem core_markTradeFailed (id : Uuid) (reason : String) :
    (db.markTradeFailed id reason).trades.map TradeRow.core = db.trades.map TradeRow.core :=
  db.core_updateTrade _ _ _ _ fun t => by split <;> rfl

@[simp] theorem core_updateTradeReceived (id : Uuid) (amount : ℕ) (token : String) :
    (db.updateTradeReceived id amount token).trades.map TradeRow.core =
      db.trades.map TradeRow.core :=
  db.core_updateTrade _ _ _ _ fun _ => rfl

/-- The three outcomes of the insertion. -/
theorem insertTrade_cases {t : NewTrade} {db' : Database} {inserted : Option Uuid}
    (h : db.insertTrade t = some (db', inserted)) :
    (inserted = none ∧ db' = db ∧ t.trigger ∈ db.trades.map TradeRow.trigger) ∨
      (inserted = some db.freshTradeId ∧ t.trigger ∉ db.trades.map TradeRow.trigger ∧
        t.sessionId ∈ db.sessions.map (·.id) ∧ db'.sessions = db.sessions ∧
        db'.trades = db.trades ++ [t.row db.freshTradeId]) := by
  unfold insertTrade at h
  split at h
  · obtain ⟨rfl, rfl⟩ := Prod.mk.inj (Option.some.inj h)
    exact .inl ⟨rfl, rfl, ‹_›⟩
  · split at h
    · obtain ⟨rfl, rfl⟩ := Prod.mk.inj (Option.some.inj h)
      exact .inr ⟨rfl, ‹_›, ‹_›, rfl, rfl⟩
    · cases h

theorem insertTrade_of_new {t : NewTrade} (htrigger : t.trigger ∉ db.trades.map TradeRow.trigger)
    (hsession : t.sessionId ∈ db.sessions.map (·.id)) :
    ∃ db', db.insertTrade t = some (db', some db.freshTradeId) ∧ db'.sessions = db.sessions ∧
      db'.trades = db.trades ++ [t.row db.freshTradeId] := by
  unfold insertTrade
  rw [dif_neg htrigger, dif_pos hsession]
  exact ⟨_, rfl, rfl, rfl⟩

theorem sessionId_notMem_of_insertTrade {t : NewTrade} (h : db.insertTrade t = none) :
    t.sessionId ∉ db.sessions.map (·.id) := by
  unfold insertTrade at h
  split at h
  · cases h
  · split at h
    · cases h
    · assumption

/-! ### The amount sold -/

/-- `amount_sold` of a session, zero where there is none. -/
def amountSold (id : Uuid) : ℕ := ((Table.get (·.id) db.sessions id).map (·.amountSold)).getD 0

variable {db}

theorem amountSold_of_mem {r : SessionRow} (hr : r ∈ db.sessions) :
    db.amountSold r.id = r.amountSold := by
  rw [amountSold, Table.get_of_mem db.session_ids hr]
  rfl

theorem amountSold_eq_zero {id : Uuid} (h : id ∉ db.sessions.map (·.id)) : db.amountSold id = 0 := by
  cases hr : Table.get (·.id) db.sessions id with
  | none => rw [amountSold, hr]; rfl
  | some r =>
      exact absurd (Table.key_of_get hr ▸ List.mem_map_of_mem (Table.mem_of_get hr)) h

theorem amountSold_congr {db' : Database} (h : db'.sessions = db.sessions) (id : Uuid) :
    db'.amountSold id = db.amountSold id := by
  rw [amountSold, h, amountSold]

theorem get_session_of_mem {id : Uuid} (h : id ∈ db.sessions.map (·.id)) :
    ∃ r, Table.get (·.id) db.sessions id = some r := by
  obtain ⟨r, hr, rfl⟩ := List.mem_map.mp h
  exact ⟨r, Table.get_of_mem db.session_ids hr⟩

theorem amountSold_addAmountSold {id : Uuid} (h : id ∈ db.sessions.map (·.id)) (amount : ℕ)
    (other : Uuid) :
    (db.addAmountSold id amount).amountSold other =
      db.amountSold other + if other = id then amount else 0 := by
  obtain ⟨r, hr⟩ := get_session_of_mem h
  by_cases heq : other = id
  · subst heq
    simp [amountSold, Table.get_update, hr]
  · simp [amountSold, Table.get_update, heq]

theorem amountSold_setSessionStatus (id : Uuid) (status : SessionStatus) (other : Uuid) :
    (db.setSessionStatus id status).amountSold other = db.amountSold other := by
  rw [amountSold, sessions_setSessionStatus, Table.get_update fun r => by rfl, amountSold]
  cases Table.get (·.id) db.sessions other with
  | none => rfl
  | some r => by_cases h : other = id <;> simp [h]

end Database

/-- The sell amounts of the trades recorded for a session. -/
def recordedAmount (trades : List TradeRow) (id : Uuid) : ℕ :=
  Table.sumWhere (fun t => t.sessionId = id) (·.sellAmount) trades

theorem recordedAmount_eq_entries (trades : List TradeRow) (id : Uuid) :
    recordedAmount trades id =
      Table.sumWhere (fun e => e.trigger.sessionId = id) (·.sellAmount)
        (trades.map TradeRow.entry) :=
  Table.sumWhere_map TradeRow.entry (fun e => e.trigger.sessionId = id) (·.sellAmount) trades

/-- Settling a trade does not change what is recorded. -/
theorem recordedAmount_congr {trades trades' : List TradeRow}
    (h : trades'.map TradeRow.entry = trades.map TradeRow.entry) (id : Uuid) :
    recordedAmount trades' id = recordedAmount trades id := by
  rw [recordedAmount_eq_entries, recordedAmount_eq_entries, h]

theorem recordedAmount_of_append {trades trades' : List TradeRow} {e : TradeEntry}
    (h : trades'.map TradeRow.entry = trades.map TradeRow.entry ++ [e]) (id : Uuid) :
    recordedAmount trades' id =
      recordedAmount trades id + if e.trigger.sessionId = id then e.sellAmount else 0 := by
  rw [recordedAmount_eq_entries, recordedAmount_eq_entries, h, Table.sumWhere_append,
    Table.sumWhere_cons, Table.sumWhere_nil, Nat.add_zero]
  simp only [decide_eq_true_eq]

@[simp] theorem recordedAmount_append (trades new : List TradeRow) (id : Uuid) :
    recordedAmount (trades ++ new) id = recordedAmount trades id + recordedAmount new id :=
  Table.sumWhere_append _ _ _ _

@[simp] theorem recordedAmount_singleton (t : TradeRow) (id : Uuid) :
    recordedAmount [t] id = if t.sessionId = id then t.sellAmount else 0 := by
  simp [recordedAmount]

end Liquifier
