import Liquifier.Lib.Grouping
import Liquifier.Lib.MapM
import Liquifier.Store.Database
import Mathlib.Algebra.Ring.Int.Defs
import Mathlib.Data.Prod.Lex
import Mathlib.Order.OrderDual

/-!
The migration that makes triggers unique.

Before there was a key for the trigger of a trade, a retry could book a trade again. The
migration keeps one trade for each trigger, sums up anew what the sessions have sold, and
creates the unique index. It is one transaction, which the index and a sum that does not
fit its column roll back.
-/

namespace Liquifier.Store

/-- A row of `trades` before the migration. -/
structure LegacyTrade where
  id : Uuid
  sessionId : Uuid
  status : TradeStatus
  triggerTxHash : String
  triggerPool : String
  sellAmount : ℤ
  executedAt : Option ℤ
  createdAt : ℤ
  deriving DecidableEq

structure DatedTrade extends LegacyTrade where
  triggerLogIndex : ℤ
  deriving DecidableEq

namespace DatedTrade

variable (t : DatedTrade)

def trigger : TriggerKey := ⟨t.sessionId, t.triggerTxHash, t.triggerPool, t.triggerLogIndex⟩

/-- `CASE status::text`. The type has no other value. -/
def statusRank : ℕ :=
  match t.status with
  | .confirmed => 0
  | .submitted => 1
  | .routing => 2
  | .failed => 3

/-- The `ORDER BY` of a part; what is `DESC` stands in the dual order. -/
def rank : ℕ ×ₗ ℤᵒᵈ ×ₗ ℤᵒᵈ ×ₗ Uuidᵒᵈ :=
  toLex (t.statusRank, toLex (OrderDual.toDual (t.executedAt.getD t.createdAt),
    toLex (OrderDual.toDual t.createdAt, OrderDual.toDual t.id)))

end DatedTrade

/-- The columns of `sessions` that the migration reads and writes. -/
structure SessionSold where
  id : Uuid
  amountSold : ℤ
  deriving DecidableEq

/-- `ADD COLUMN IF NOT EXISTS trigger_log_index INT NOT NULL DEFAULT 0`, to a table without
the column or with it. -/
def addTriggerLogIndex : List LegacyTrade ⊕ List DatedTrade → List DatedTrade
  | .inl trades => trades.map fun t => { t with triggerLogIndex := 0 }
  | .inr trades => trades

structure LegacyDatabase where
  sessions : List SessionSold
  trades : List LegacyTrade ⊕ List DatedTrade
  primaryKey : ((addTriggerLogIndex trades).map (·.id)).Nodup

/-- With `uq_trades_session_trigger`. -/
structure MigratedDatabase where
  sessions : List SessionSold
  trades : List DatedTrade
  uqTradesSessionTrigger : (trades.map (·.trigger)).Nodup

/-- `DELETE … USING ranked`. -/
def deleteDuplicates (trades : List DatedTrade) : List DatedTrade :=
  Grouping.withoutLater (·.trigger) (·.rank) (·.id) trades

/-- `NUMERIC(78, 0)`. -/
def fitsNumeric (n : ℤ) : Prop := n.natAbs < 10 ^ 78

instance (n : ℤ) : Decidable (fitsNumeric n) := inferInstanceAs (Decidable (n.natAbs < 10 ^ 78))

/-- `UPDATE sessions … FROM agg`. -/
def updateFromSums (trades : List DatedTrade) (sessions : List SessionSold) :
    Option (List SessionSold) :=
  let agg := Grouping.sums (·.sessionId) (·.sellAmount) trades
  sessions.mapM fun s =>
    match agg.lookup s.id with
    | some totalSold =>
        if fitsNumeric totalSold then some { s with amountSold := totalSold } else none
    | none => some s

/-- `UPDATE sessions SET amount_sold = 0 WHERE id NOT IN …`. -/
def zeroWithoutTrades (trades : List DatedTrade) (sessions : List SessionSold) :
    List SessionSold :=
  sessions.map fun s =>
    if s.id ∉ (trades.map (·.sessionId)).dedup then { s with amountSold := 0 } else s

/-- The migration, and `none` where it is rolled back. -/
def migrate (db : LegacyDatabase) : Option MigratedDatabase := do
  let trades := deleteDuplicates (addTriggerLogIndex db.trades)
  let sessions ← updateFromSums trades db.sessions
  let sessions := zeroWithoutTrades trades sessions
  if h : (trades.map (·.trigger)).Nodup then some ⟨sessions, trades, h⟩ else none

/-! ### What is left -/

section Duplicates

variable {trades : List DatedTrade} {t : DatedTrade}

/-- The last of the sort keys tells the rows apart. -/
theorem id_eq_of_rank_eq {t u : DatedTrade} (h : t.rank = u.rank) : t.id = u.id := by
  have hkeys := congrArg ofLex h
  simp only [DatedTrade.rank, ofLex_toLex, Prod.mk.injEq, EmbeddingLike.apply_eq_iff_eq] at hkeys
  exact hkeys.2.2.2

variable (hids : (trades.map (·.id)).Nodup)
include hids

theorem mem_deleteDuplicates : t ∈ deleteDuplicates trades ↔
    Grouping.IsLeast (·.trigger) (·.rank) trades t :=
  Grouping.mem_withoutLater hids fun _ _ _ _ h => id_eq_of_rank_eq h

theorem nodup_trigger_deleteDuplicates :
    ((deleteDuplicates trades).map (·.trigger)).Nodup :=
  Grouping.nodup_withoutLater hids fun _ _ _ _ h => id_eq_of_rank_eq h

end Duplicates

/-! ### What the sessions have sold -/

/-- The sum of the trades of a session. -/
def sold (trades : List DatedTrade) (sessionId : Uuid) : ℤ :=
  ((trades.filter fun t => t.sessionId = sessionId).map (·.sellAmount)).sum

section Sold

variable {trades : List DatedTrade} {sessions : List SessionSold}

theorem mapM_ite {α β : Type} {p : α → Prop} [DecidablePred p] (f : α → β) (xs : List α) :
    (xs.mapM fun x => if p x then some (f x) else none) =
      if ∀ x ∈ xs, p x then some (xs.map f) else none := by
  by_cases hall : ∀ x ∈ xs, p x
  · rw [if_pos hall]
    exact MapM.mapM_of_forall fun x hx => if_pos (hall x hx)
  · rw [if_neg hall, ← Option.not_isSome_iff_eq_none, MapM.isSome_mapM]
    refine fun hsome => hall fun x hx => ?_
    by_contra hp
    have hnone := hsome x hx
    rw [if_neg hp] at hnone
    cases hnone

theorem updateFromSums_eq (trades : List DatedTrade) (sessions : List SessionSold) :
    updateFromSums trades sessions =
      if ∀ s ∈ sessions, fitsNumeric (sold trades s.id) then
        some (sessions.map fun s =>
          if s.id ∈ trades.map (·.sessionId) then { s with amountSold := sold trades s.id } else s)
      else none := by
  rw [updateFromSums, ← mapM_ite]
  refine congrArg (List.mapM · sessions) (funext fun s => ?_)
  rw [Grouping.lookup_sums]
  by_cases hs : s.id ∈ trades.map (·.sessionId)
  · rw [if_pos hs, if_pos hs]
    rfl
  · have hzero : sold trades s.id = 0 := Grouping.total_of_not_mem hs
    rw [if_neg hs, if_neg hs, hzero, if_pos (by decide)]

/-- Sessions with trades get their sum and sessions without get zero. -/
theorem zeroWithoutTrades_updated (trades : List DatedTrade) (sessions : List SessionSold) :
    zeroWithoutTrades trades (sessions.map fun s =>
        if s.id ∈ trades.map (·.sessionId) then { s with amountSold := sold trades s.id } else s) =
      sessions.map fun s => { s with amountSold := sold trades s.id } := by
  rw [zeroWithoutTrades, List.map_map]
  refine List.map_congr_left fun s _ => ?_
  rw [Function.comp_apply]
  by_cases hs : s.id ∈ trades.map (·.sessionId)
  · rw [if_pos hs, if_neg (not_not.mpr (List.mem_dedup.mpr hs))]
  · have hzero : sold trades s.id = 0 := Grouping.total_of_not_mem hs
    rw [if_neg hs, if_pos (fun hmem => hs (List.mem_dedup.mp hmem)), hzero]

end Sold

/-- The migration leaves for each trigger the one trade that comes first, and the sessions
with what is left of theirs; only a sum that does not fit its column stops it. -/
theorem migrate_spec (db : LegacyDatabase) :
    ((migrate db).isSome ↔ ∀ s ∈ db.sessions,
        fitsNumeric (sold (deleteDuplicates (addTriggerLogIndex db.trades)) s.id)) ∧
      ∀ db', migrate db = some db' →
        (db'.trades.map (·.trigger)).Nodup ∧
        (∀ t, t ∈ db'.trades ↔ t ∈ addTriggerLogIndex db.trades ∧
          ∀ u ∈ addTriggerLogIndex db.trades, u.trigger = t.trigger → t.rank ≤ u.rank) ∧
        (∀ t ∈ addTriggerLogIndex db.trades, ∃ u ∈ db'.trades, u.trigger = t.trigger) ∧
        db'.sessions = db.sessions.map fun s => { s with amountSold := sold db'.trades s.id } := by
  have hmigrate : migrate db =
      if ∀ s ∈ db.sessions,
          fitsNumeric (sold (deleteDuplicates (addTriggerLogIndex db.trades)) s.id) then
        some ⟨db.sessions.map fun s => { s with
            amountSold := sold (deleteDuplicates (addTriggerLogIndex db.trades)) s.id },
          deleteDuplicates (addTriggerLogIndex db.trades),
          nodup_trigger_deleteDuplicates db.primaryKey⟩
      else none := by
    simp only [migrate, updateFromSums_eq]
    split
    · simp only [Option.bind_eq_bind, Option.bind_some, zeroWithoutTrades_updated]
      exact dif_pos (nodup_trigger_deleteDuplicates db.primaryKey)
    · rfl
  rw [hmigrate]
  constructor
  · split
    · rename_i hfits
      exact iff_of_true rfl hfits
    · rename_i hfits
      exact iff_of_false (by simp) hfits
  · intro db' hdb'
    split at hdb'
    · obtain rfl := Option.some.inj hdb'
      refine ⟨nodup_trigger_deleteDuplicates db.primaryKey,
        fun t => mem_deleteDuplicates db.primaryKey, fun t ht => ?_, rfl⟩
      obtain ⟨u, hu, htrigger⟩ : ∃ u, Grouping.IsLeast (·.trigger) (·.rank)
          (addTriggerLogIndex db.trades) u ∧ u.trigger = t.trigger := Grouping.exists_isLeast ht
      exact ⟨u, (mem_deleteDuplicates db.primaryKey).mpr hu, htrigger⟩
    · cases hdb'

end Liquifier.Store
