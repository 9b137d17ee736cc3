import Liquifier.Engine.Settle
import Liquifier.Lib.Batch

/-!
How far the reconciliation passes get.

A pass looks at the 25 oldest submitted trades. One that it cannot settle, because its
receipt or its wallet is not there, stays submitted and is among the oldest of the next
pass too. So a trade is reached if and only if fewer than 25 such trades are older. The
passes here are alone with the tables and nothing fails in them.
-/

namespace Liquifier.Engine

/-! ### Passes in which nothing fails -/

/-- What the passes are shown: the rows of `wallets` and the receipts. -/
structure Lookups where
  wallet : Uuid → Option (String × String)
  receipt : PendingTrade → Lookup

namespace Lookups

variable (o : Lookups)

def answer : PassPhase → PassInput
  | .loop (trade :: _) => .wallet (some (o.wallet trade.walletId))
  | .lookup trade _ => .settle (.lookup (o.receipt trade) false)
  | _ => .settle (.statement true)

/-- The wallet of the trade resolves. -/
def resolves (trade : PendingTrade) : Bool :=
  (resolveSessionWalletAddress (some (o.wallet trade.walletId)) trade.chain).isSome

/-- The receipt of the trade is available. -/
def available (trade : PendingTrade) : Bool :=
  match o.receipt trade with
  | .success _ | .reverted => true
  | .pending | .error _ => false

def stuck (trade : PendingTrade) : Bool := !(o.resolves trade && o.available trade)

end Lookups

/-- The steps of a pass to its end. -/
inductive PassRun (o : Lookups) : Database → PassPhase → Database → Prop where
  | returned {db : Database} {ok : Bool} : PassRun o db (.returned ok) db
  | step {db db' db'' : Database} {phase phase' : PassPhase}
      (h : passStep (o.answer phase) db phase = some (db', phase'))
      (hrun : PassRun o db' phase' db'') : PassRun o db phase db''

/-- `n` passes, one after the other. -/
inductive Passes (o : Lookups) : ℕ → Database → Database → Prop where
  | zero {db : Database} : Passes o 0 db db
  | succ {n : ℕ} {db db' db'' : Database} (h : PassRun o db .query db')
      (hrest : Passes o n db' db'') : Passes o (n + 1) db db''

/-! ### The trades that wait -/

/-- The columns of the query for a row that it selects. -/
def pendingTrade (sessions : List SessionRow) (t : TradeRow) : Option PendingTrade :=
  if t.status = .submitted && t.sellTxHash.any (· ≠ "") then
    match Table.get (·.id) sessions t.sessionId, t.sellTxHash with
    | some s, some hash => some ⟨t.id, t.sessionId, s.chain, s.walletId, s.targetToken, hash⟩
    | _, _ => none
  else none

/-- The rows of the query of a pass without its limit. -/
def waiting (db : Database) : List PendingTrade :=
  db.trades.filterMap (pendingTrade db.sessions)

/-- No trade whose receipt is available and whose wallet resolves is submitted. -/
def Reconciled (o : Lookups) (db : Database) : Prop := ∀ trade ∈ waiting db, o.stuck trade = true

section Waiting

variable {db : Database}

theorem tradeId_of_pendingTrade {sessions : List SessionRow} {t : TradeRow} {trade : PendingTrade}
    (h : pendingTrade sessions t = some trade) : trade.tradeId = t.id ∧ t.status = .submitted := by
  obtain ⟨hcond, h⟩ := Option.ite_none_right_eq_some.mp h
  refine ⟨?_, of_decide_eq_true (Bool.and_eq_true_iff.mp hcond).1⟩
  split at h
  · cases h
    rfl
  · cases h

/-- A row that the query selects has a session and a hash. -/
theorem isSome_pendingTrade {t : TradeRow} (ht : t ∈ db.trades)
    (hcond : (t.status = .submitted && t.sellTxHash.any (· ≠ "")) = true) :
    (pendingTrade db.sessions t).isSome = true := by
  obtain ⟨s, hs, hid⟩ := List.mem_map.mp (db.trade_sessions t ht)
  obtain ⟨hash, hhash, -⟩ := (Option.any_eq_true _ _).mp (Bool.and_eq_true_iff.mp hcond).2
  rw [pendingTrade, if_pos hcond, ← hid, Table.get_of_mem db.session_ids hs, hhash]
  rfl

theorem waiting_eq_filterMap (db : Database) :
    waiting db = (db.trades.filter fun t =>
      t.status = .submitted && t.sellTxHash.any (· ≠ "")).filterMap (pendingTrade db.sessions) := by
  rw [List.filterMap_filter]
  refine List.filterMap_congr fun t _ => ?_
  split
  · rfl
  · rw [pendingTrade, if_neg ‹_›]

theorem take_filterMap {α β : Type*} {f : α → Option β} {l : List α}
    (h : ∀ x ∈ l, (f x).isSome = true) (n : ℕ) :
    (l.filterMap f).take n = (l.take n).filterMap f := by
  induction l generalizing n with
  | nil => simp
  | cons x l ih =>
      obtain ⟨y, hy⟩ := Option.isSome_iff_exists.mp (h x List.mem_cons_self)
      cases n with
      | zero => rfl
      | succ n =>
          rw [List.filterMap_cons_some hy, List.take_succ_cons, List.take_succ_cons,
            List.filterMap_cons_some hy, ih fun z hz => h z (List.mem_cons_of_mem _ hz)]

/-- A pass takes the first 25 of the trades that wait. -/
theorem pendingTrades_eq_take (db : Database) : pendingTrades db = (waiting db).take 25 := by
  rw [waiting_eq_filterMap, take_filterMap]
  · refine List.filterMap_congr fun t ht => ?_
    have hcond := (List.mem_filter.mp (List.mem_of_mem_take ht)).2
    exact (if_pos hcond).symm
  · intro t ht
    exact isSome_pendingTrade (List.mem_filter.mp ht).1 (List.mem_filter.mp ht).2

theorem waiting_nodup (db : Database) : ((waiting db).map (·.tradeId)).Nodup := by
  rw [List.Nodup, List.pairwise_map]
  refine List.Pairwise.filterMap _ ?_ (List.pairwise_map.mp db.trade_ids)
  intro t u hne trade htrade trade' htrade' heq
  rw [(tradeId_of_pendingTrade htrade).1, (tradeId_of_pendingTrade htrade').1] at heq
  exact hne heq

theorem length_waiting_le (db : Database) :
    (waiting db).length ≤ db.trades.countP (·.status = .submitted) := by
  rw [waiting_eq_filterMap]
  refine (List.length_filterMap_le _ _).trans ?_
  rw [← List.countP_eq_length_filter]
  exact List.countP_mono_left fun t _ ht => (Bool.and_eq_true_iff.mp ht).1

theorem filter_pendingTrade (sessions : List SessionRow) (t : TradeRow) (id : Uuid) :
    (pendingTrade sessions t).filter (fun trade => trade.tradeId ≠ id) =
      if t.id = id then none else pendingTrade sessions t := by
  cases htrade : pendingTrade sessions t with
  | none => simp
  | some trade =>
      rw [← (tradeId_of_pendingTrade htrade).1]
      simp [Option.filter]

/-- An update after which the row does not wait any more. -/
theorem waiting_updateTrade {id : Uuid} {f : TradeRow → TradeRow} {hid htrigger}
    (hf : ∀ t, pendingTrade db.sessions (f t) = none) :
    waiting (db.updateTrade id f hid htrigger) =
      (waiting db).filter fun trade => trade.tradeId ≠ id := by
  rw [waiting, waiting, List.filter_filterMap]
  refine (List.filterMap_map).trans (List.filterMap_congr fun t _ => ?_)
  rw [Function.comp_apply, filter_pendingTrade]
  split
  · exact hf t
  · rfl

/-- An update of columns that the query does not read. -/
theorem waiting_updateTrade_same {id : Uuid} {f : TradeRow → TradeRow} {hid htrigger}
    (hf : ∀ t, pendingTrade db.sessions (f t) = pendingTrade db.sessions t) :
    waiting (db.updateTrade id f hid htrigger) = waiting db := by
  refine (List.filterMap_map).trans (List.filterMap_congr fun t _ => ?_)
  rw [Function.comp_apply]
  split
  · exact hf t
  · rfl

end Waiting

/-! ### What a pass does -/

namespace Lookups

variable (o : Lookups)

/-- A trade of the list of a pass. -/
def settleTrade (db : Database) (trade : PendingTrade) : Database :=
  if o.resolves trade then
    match o.receipt trade with
    | .success none => db.markTradeConfirmed trade.tradeId
    | .success (some amount) =>
        (db.markTradeConfirmed trade.tradeId).updateTradeReceived trade.tradeId amount
          trade.targetToken
    | .reverted => db.markTradeFailed trade.tradeId transactionReverted
    | .pending | .error _ => db
  else db

/-- A whole pass. -/
def reconcile (db : Database) : Database := (pendingTrades db).foldl o.settleTrade db

end Lookups

section Passes

variable {o : Lookups} {db db' : Database}

/-- From the answer about a receipt to the next trade. -/
theorem passRun_lookup {trade : PendingTrade} {rest : List PendingTrade}
    (hwallet : o.resolves trade = true)
    (hrest : PassRun o (o.settleTrade db trade) (.loop rest) db') :
    PassRun o db (.lookup trade rest) db' := by
  rw [Lookups.settleTrade, if_pos hwallet] at hrest
  have hlookup (phase : PassPhase)
      (hstep : passStep (.settle (.lookup (o.receipt trade) false)) db (.lookup trade rest) =
        some (db, phase))
      (hrun : PassRun o db phase db') : PassRun o db (.lookup trade rest) db' := .step hstep hrun
  cases hreceipt : o.receipt trade with
  | pending =>
      simp only [hreceipt] at hrest hlookup
      exact hlookup (.loop rest) rfl hrest
  | error e =>
      simp only [hreceipt] at hrest hlookup
      exact hlookup (.loop rest) rfl hrest
  | success received =>
      cases received with
      | none =>
          simp only [hreceipt] at hrest hlookup
          exact hlookup (.markConfirmed trade none rest) rfl (.step rfl hrest)
      | some amount =>
          simp only [hreceipt] at hrest hlookup
          exact hlookup (.markConfirmed trade (some amount) rest) rfl
            (.step rfl (.step rfl hrest))
  | reverted =>
      simp only [hreceipt] at hrest hlookup
      exact hlookup (.markFailed trade rest) rfl (.step rfl hrest)

theorem passRun_loop (db : Database) (rest : List PendingTrade) :
    PassRun o db (.loop rest) (rest.foldl o.settleTrade db) := by
  induction rest generalizing db with
  | nil => exact .step rfl .returned
  | cons trade rest ih =>
      have hrest := ih (o.settleTrade db trade)
      rw [List.foldl_cons]
      cases hwallet : resolveSessionWalletAddress (some (o.wallet trade.walletId)) trade.chain with
      | none =>
          have hstep : passStep (o.answer (.loop (trade :: rest))) db (.loop (trade :: rest)) =
              some (db, .loop rest) := by
            simp only [passStep, Lookups.answer, hwallet]
          have hskip : o.settleTrade db trade = db := by
            rw [Lookups.settleTrade, if_neg (by simp [Lookups.resolves, hwallet])]
          rw [hskip] at hrest ⊢
          exact .step hstep hrest
      | some recipient =>
          have hstep : passStep (o.answer (.loop (trade :: rest))) db (.loop (trade :: rest)) =
              some (db, .lookup trade rest) := by
            simp only [passStep, Lookups.answer, hwallet]
          exact .step hstep (passRun_lookup (by simp [Lookups.resolves, hwallet]) hrest)

/-- The answers leave a pass no choice. -/
theorem PassRun.unique {phase : PassPhase} {db₁ db₂ : Database} (h₁ : PassRun o db phase db₁)
    (h₂ : PassRun o db phase db₂) : db₁ = db₂ := by
  induction h₁ with
  | returned =>
      cases h₂ with
      | returned => rfl
      | step h => cases h
  | step h _ ih =>
      cases h₂ with
      | returned => cases h
      | step h' hrun =>
          rw [h] at h'
          cases h'
          exact ih hrun

theorem passRun_iff : PassRun o db .query db' ↔ db' = o.reconcile db := by
  have hrun : PassRun o db .query (o.reconcile db) := .step rfl (passRun_loop db _)
  constructor
  · intro h
    exact h.unique hrun
  · rintro rfl
    exact hrun

theorem passes_iff {n : ℕ} : Passes o n db db' ↔ db' = o.reconcile^[n] db := by
  induction n generalizing db with
  | zero =>
      constructor
      · rintro ⟨⟩
        rfl
      · rintro rfl
        exact .zero
  | succ n ih =>
      rw [Function.iterate_succ_apply]
      constructor
      · rintro (_ | ⟨h, hrest⟩)
        rw [passRun_iff.mp h] at hrest
        exact ih.mp hrest
      · intro h
        exact .succ (passRun_iff.mpr rfl) (ih.mpr h)

/-! ### The trades that wait after a pass -/

theorem waiting_settleTrade (trade : PendingTrade) :
    waiting (o.settleTrade db trade) =
      (waiting db).filter fun u => o.stuck trade || u.tradeId ≠ trade.tradeId := by
  have hconfirmed : waiting (db.markTradeConfirmed trade.tradeId) =
      (waiting db).filter fun u => u.tradeId ≠ trade.tradeId :=
    waiting_updateTrade fun t => rfl
  have hskip (h : o.stuck trade = true) :
      waiting db = (waiting db).filter fun u => o.stuck trade || u.tradeId ≠ trade.tradeId := by
    simp [h]
  unfold Lookups.settleTrade
  split
  · rename_i hwallet
    cases hreceipt : o.receipt trade with
    | pending => exact hskip (by simp [Lookups.stuck, Lookups.available, hreceipt])
    | error e => exact hskip (by simp [Lookups.stuck, Lookups.available, hreceipt])
    | success received =>
        have hstuck : o.stuck trade = false := by
          simp [Lookups.stuck, Lookups.available, hwallet, hreceipt]
        simp only [hstuck, Bool.false_or]
        cases received with
        | none => exact hconfirmed
        | some amount =>
            rw [← hconfirmed]
            exact waiting_updateTrade_same fun t => rfl
    | reverted =>
        have hstuck : o.stuck trade = false := by
          simp [Lookups.stuck, Lookups.available, hwallet, hreceipt]
        simp only [hstuck, Bool.false_or]
        refine waiting_updateTrade fun t => ?_
        split
        · rename_i hconfirmed
          simp [pendingTrade, hconfirmed]
        · rfl
  · rename_i hwallet
    exact hskip (by simp [Lookups.stuck, hwallet])

theorem waiting_foldl (ts : List PendingTrade) :
    waiting (ts.foldl o.settleTrade db) =
      (waiting db).filter fun u => ts.all fun t => o.stuck t || u.tradeId ≠ t.tradeId := by
  induction ts generalizing db with
  | nil => simp
  | cons t ts ih =>
      rw [List.foldl_cons, ih, waiting_settleTrade, List.filter_filter]
      refine List.filter_congr fun u _ => ?_
      rw [List.all_cons, Bool.and_comm]

/-- A pass is a round on the trades that wait. -/
theorem waiting_reconcile : waiting (o.reconcile db) = Batch.round 25 o.stuck (waiting db) := by
  rw [Lookups.reconcile, waiting_foldl, pendingTrades_eq_take]
  exact Batch.filter_keys_eq_round (waiting_nodup db)

theorem waiting_iterate_reconcile (n : ℕ) :
    waiting (o.reconcile^[n] db) = (Batch.round 25 o.stuck)^[n] (waiting db) := by
  induction n generalizing db with
  | zero => rfl
  | succ n ih => rw [Function.iterate_succ_apply, Function.iterate_succ_apply, ih, waiting_reconcile]

end Passes

/-- As many passes as there are submitted trades settle every trade that they can settle,
if and only if fewer than 25 trades that they cannot settle are older than it. Where this
is not so, no number of passes does. -/
theorem reconciled_iff_fair (o : Lookups) (db : Database) :
    ((∃ db', Passes o (db.trades.countP (·.status = .submitted)) db db' ∧ Reconciled o db') ↔
      Batch.Fair 25 o.stuck (waiting db)) ∧
    (¬ Batch.Fair 25 o.stuck (waiting db) → ∀ n db', Passes o n db db' → ¬ Reconciled o db') := by
  constructor
  · rw [Batch.fair_iff_all_stuck (length_waiting_le db), ← waiting_iterate_reconcile]
    constructor
    · rintro ⟨db', hpasses, h⟩
      rwa [passes_iff.mp hpasses] at h
    · intro h
      exact ⟨_, passes_iff.mpr rfl, h⟩
  · intro hfair n db' hpasses h
    obtain ⟨trade, htrade, hstuck⟩ := Batch.exists_of_not_fair hfair n
    rw [← waiting_iterate_reconcile, ← passes_iff.mp hpasses] at htrade
    rw [h trade htrade] at hstuck
    cases hstuck

namespace Sample

/-- The `i`-th trade of session 1. -/
def submittedRow (i : ℕ) : TradeRow where
  id := i
  sessionId := 1
  chain := "bsc"
  status := .submitted
  triggerTxHash := "0xa"
  triggerPool := poolAddress
  triggerLogIndex := i
  sellAmount := 500
  sellTxHash := some ("0xb" ++ toString i)
  sellPool := poolAddress
  priceImpactBps := 4
  failureReason := none
  finalReceived := none
  finalToken := none

theorem submittedRow_ids (n : ℕ) :
    (((List.range n).map submittedRow).map (·.id)).Nodup := by
  simpa [Function.comp_def, submittedRow] using List.nodup_range

theorem submittedRow_triggers (n : ℕ) :
    (((List.range n).map submittedRow).map TradeRow.trigger).Nodup := by
  rw [List.map_map]
  exact List.nodup_range.map fun i j h => by simpa [submittedRow, TradeRow.trigger] using h

/-- 26 submitted trades. -/
def submittedDatabase : Database where
  sessions := [row 1]
  sessionPools := [(1, pool)]
  trades := (List.range 26).map submittedRow
  session_ids := List.nodup_singleton _
  trade_ids := submittedRow_ids 26
  trade_triggers := submittedRow_triggers 26
  trade_sessions := by
    rintro t ht
    obtain ⟨i, -, rfl⟩ := List.mem_map.mp ht
    exact List.mem_cons_self

/-- The wallet resolves, and the last of the 26 trades is the only one with a receipt. -/
def lookups : Lookups where
  wallet := fun _ => some (walletAddress, "bsc")
  receipt := fun trade => if trade.tradeId = 25 then .success (some 5) else .pending

end Sample

/-- The receipts of the 25 oldest trades never come, and the next one is not looked at. -/
theorem submitted_behind_pending :
    ¬ ∀ o db, ∃ n ≤ db.trades.countP (·.status = .submitted), ∃ db',
      Passes o n db db' ∧ Reconciled o db' := by
  intro h
  obtain ⟨n, -, db', hpasses, hdone⟩ := h Sample.lookups Sample.submittedDatabase
  have hfair : ¬ Batch.Fair 25 Sample.lookups.stuck (waiting Sample.submittedDatabase) := by
    intro hfair
    have hlt := hfair ((waiting Sample.submittedDatabase).take 25)
      ⟨25, 1, "bsc", 1, Sample.targetToken, "0xb25"⟩ [] (by decide +kernel) (by decide +kernel)
    exact absurd hlt (by decide +kernel)
  obtain ⟨trade, htrade, hstuck⟩ := Batch.exists_of_not_fair hfair n
  rw [← waiting_iterate_reconcile, ← passes_iff.mp hpasses] at htrade
  rw [hdone trade htrade] at hstuck
  cases hstuck

end Liquifier.Engine
