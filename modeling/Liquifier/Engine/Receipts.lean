import Liquifier.Engine.Rows
import Liquifier.Engine.Sound

/-!
The status of a trade against the receipts that were looked up for it.

Two paths settle a trade: the delivery that sold, and the reconciliation passes.
A pass that cannot look the receipt up leaves the trade to the next pass. The
delivery marks it as failed, also when the chain has executed the swap and only
the statement that says so fails. No pass looks at a failed trade again.
-/

namespace Liquifier.Engine

open TaskSystem TaskSystem.System

variable {env : Environment}

/-! ### Receipts and statuses -/

/-- Some look-up of the trade has returned a reverted receipt. -/
def Reverted (w : World) (id : Uuid) : Prop := (id, Lookup.reverted) ∈ w.lookups

/-- Some look-up of the trade has returned the receipt of an executed swap. -/
def Executed (w : World) (id : Uuid) : Prop := ∃ received, (id, Lookup.success received) ∈ w.lookups

def Confirmed (db : Database) (id : Uuid) : Prop :=
  ∃ r ∈ db.trades, r.id = id ∧ r.status = .confirmed

/-- An attempt to mark the trade as failed does no harm. -/
def Settled (w : World) (id : Uuid) : Prop := Reverted w id ∨ Confirmed w.db id

instance (w : World) (id : Uuid) : Decidable (Settled w id) :=
  inferInstanceAs (Decidable ((id, Lookup.reverted) ∈ w.lookups ∨
    ∃ r ∈ w.db.trades, r.id = id ∧ r.status = .confirmed))

/-- A trade is failed only if a receipt says so, and while no receipt has said
anything it stays submitted, for the next pass. -/
structure StatusFromReceipts (w : World) : Prop where
  failed : ∀ r ∈ w.db.trades, r.status = .failed → Reverted w r.id
  unsettled : ∀ r ∈ w.db.trades, ¬ Reverted w r.id → ¬ Executed w r.id → r.status = .submitted

/-- The trade that a step of a delivery is about to give up for an error: the
look-up fails, or the statement that confirms the trade. -/
def Task.errs : Task → Act → Option Uuid
  | .delivery ⟨_, _, .finalize _ tradeId .lookup⟩, .settle (.lookup (.error _) _) => some tradeId
  | .delivery ⟨_, _, .finalize _ tradeId (.markConfirmed _)⟩, .settle (.statement false) =>
      some tradeId
  | _, _ => none

/-- Such an error meets only trades that are settled already. -/
def ErrsSettled (c : Config World Task) (t : Task) (a : Act) : Prop :=
  ∀ id ∈ t.errs a, Settled c.store id

instance (c : Config World Task) (t : Task) (a : Act) : Decidable (ErrsSettled c t a) :=
  inferInstanceAs (Decidable (∀ id ∈ t.errs a, _))

/-! ### Confirmed trades stay confirmed -/

section Database

variable {db : Database} {id : Uuid}

theorem Confirmed.rowsStep {db' : Database} (hid : Confirmed db id)
    (h : RowsStep db.trades db'.trades) : Confirmed db' id := by
  refine h.exists_mem (P := fun r : TradeRow => r.id = id ∧ r.status = .confirmed) ?_ hid
  rintro r r' hstep ⟨rfl, hr⟩
  exact ⟨hstep.id_eq, hstep.confirmed_stays hr⟩

theorem confirmed_markTradeConfirmed (h : id ∈ db.trades.map (·.id)) :
    Confirmed (db.markTradeConfirmed id) id := by
  obtain ⟨r, hr, rfl⟩ := List.mem_map.mp h
  refine ⟨_, List.mem_map_of_mem hr, ?_⟩
  rw [if_pos rfl]
  exact ⟨rfl, rfl⟩

/-- The row had its status before, or the update has set it. -/
theorem status_updateTrade {f : TradeRow → TradeRow} {hid htrigger} {key : Uuid} {r' : TradeRow}
    (h : r' ∈ (db.updateTrade key f hid htrigger).trades) :
    (∃ r ∈ db.trades, r.id = r'.id ∧ r.status = r'.status) ∨
      ∃ r ∈ db.trades, r.id = key ∧ r' = f r := by
  rcases Table.mem_update h with ⟨hr, _⟩ | ⟨r, hr, hkey, rfl⟩
  · exact .inl ⟨r', hr, rfl, rfl⟩
  · exact .inr ⟨r, hr, hkey, rfl⟩

end Database

/-- What a task knows of the receipts and the confirmed trades stays true. -/
structure Learned (w w' : World) : Prop where
  confirmed : ∀ id, Confirmed w.db id → Confirmed w'.db id
  lookups : w.lookups ⊆ w'.lookups

namespace Learned

variable {w w' : World}

theorem reverted (h : Learned w w') {id : Uuid} (hid : Reverted w id) : Reverted w' id :=
  h.lookups hid

theorem executed (h : Learned w w') {id : Uuid} (hid : Executed w id) : Executed w' id := by
  obtain ⟨received, hid⟩ := hid
  exact ⟨received, h.lookups hid⟩

theorem settled (h : Learned w w') {id : Uuid} (hid : Settled w id) : Settled w' id :=
  hid.imp h.reverted (h.confirmed id)

end Learned

theorem TaskMove.learned {w w' : World} {t t' : Task} {a : Act} (h : TaskMove env w t a w' t') :
    Learned w w' where
  confirmed _ hid := hid.rowsStep h.rowsStep
  lookups := by
    cases h with
    | delivery h =>
        cases h with
        | finalized => exact List.subset_append_left _ _
        | _ => exact List.Subset.refl _
    | pass => exact List.subset_append_left _ _
    | _ => exact List.Subset.refl _

/-! ### Where a status comes from -/

namespace Task

/-- The trade that the next statement of a task marks as confirmed. -/
def confirming : Task → Option Uuid
  | .delivery ⟨_, _, .finalize _ tradeId (.markConfirmed _)⟩ => some tradeId
  | .pass (.markConfirmed trade _ _) => some trade.tradeId
  | _ => none

/-- The trade that the next statement of a task marks as failed. -/
def failing : Task → Option Uuid
  | .delivery ⟨_, _, .finalize _ tradeId (.markFailed _)⟩ => some tradeId
  | .delivery ⟨_, _, .finalizationError _ tradeId _⟩ => some tradeId
  | .pass (.markFailed trade _) => some trade.tradeId
  | _ => none

end Task

/-- Where the status of the row `r'` comes from in a move of the task `t`. -/
inductive StatusFrom (db : Database) (t : Task) (r' : TradeRow) : Prop where
  | new (hstatus : r'.status = .submitted)
  | kept {r : TradeRow} (hr : r ∈ db.trades) (hid : r.id = r'.id) (hstatus : r.status = r'.status)
  | confirmed (ht : t.confirming = some r'.id) (hstatus : r'.status = .confirmed)
  | failed (ht : t.failing = some r'.id) (hold : ¬ Confirmed db r'.id)
      (hstatus : r'.status = .failed)

section StatusFrom

variable {db : Database} {t : Task} {tradeId : Uuid} {r' : TradeRow}

theorem statusFrom_markTradeConfirmed (ht : t.confirming = some tradeId)
    (h : r' ∈ (db.markTradeConfirmed tradeId).trades) : StatusFrom db t r' := by
  rcases status_updateTrade h with ⟨r, hr, hid, hstatus⟩ | ⟨r, _, rfl, rfl⟩
  · exact .kept hr hid hstatus
  · exact .confirmed ht rfl

theorem statusFrom_markTradeFailed {reason : String} (ht : t.failing = some tradeId)
    (h : r' ∈ (db.markTradeFailed tradeId reason).trades) : StatusFrom db t r' := by
  rcases status_updateTrade h with ⟨r, hr, hid, hstatus⟩ | ⟨r, hr, rfl, rfl⟩
  · exact .kept hr hid hstatus
  · split
    · exact .kept hr rfl rfl
    · rename_i hne
      refine .failed ht ?_ rfl
      rintro ⟨q, hq, hid, hconfirmed⟩
      rw [List.inj_on_of_nodup_map db.trade_ids hq hr hid] at hconfirmed
      exact hne hconfirmed

theorem statusFrom_updateTradeReceived {amount : ℕ} {token : String}
    (h : r' ∈ (db.updateTradeReceived tradeId amount token).trades) : StatusFrom db t r' := by
  rcases status_updateTrade h with ⟨r, hr, hid, hstatus⟩ | ⟨r, hr, _, rfl⟩
  · exact .kept hr hid hstatus
  · exact .kept hr rfl rfl

end StatusFrom

theorem DeliveryMove.statusFrom {w w' : World} {d d' : Delivery} {a : Act}
    (h : DeliveryMove env w d a w' d') {r' : TradeRow} (hr' : r' ∈ w'.db.trades) :
    StatusFrom w.db (.delivery d) r' := by
  cases h with
  | recorded h =>
      cases h with
      | inserted _ _ _ htrades =>
          rcases List.mem_append.mp (htrades ▸ hr') with hr | hr
          · exact .kept hr rfl rfl
          · rw [List.mem_singleton.mp hr]
            exact .new rfl
      | _ => exact .kept hr' rfl rfl
  | finalized h =>
      cases h with
      | confirmed => exact statusFrom_markTradeConfirmed rfl hr'
      | confirmedAmount => exact statusFrom_markTradeConfirmed rfl hr'
      | received => exact statusFrom_updateTradeReceived hr'
      | failed => exact statusFrom_markTradeFailed rfl hr'
      | _ => exact .kept hr' rfl rfl
  | markedFailed => exact statusFrom_markTradeFailed rfl hr'
  | _ => exact .kept hr' rfl rfl

theorem TaskMove.statusFrom {w w' : World} {t t' : Task} {a : Act} (h : TaskMove env w t a w' t')
    {r' : TradeRow} (hr' : r' ∈ w'.db.trades) : StatusFrom w.db t r' := by
  cases h with
  | delivery h => exact h.statusFrom hr'
  | pass h =>
      cases h with
      | confirmed => exact statusFrom_markTradeConfirmed rfl hr'
      | confirmedAmount => exact statusFrom_markTradeConfirmed rfl hr'
      | received => exact statusFrom_updateTradeReceived hr'
      | failed => exact statusFrom_markTradeFailed rfl hr'
      | _ => exact .kept hr' rfl rfl
  | _ => exact .kept hr' rfl rfl

/-! ### What a task knows of the trade on hand -/

/-- A trade is confirmed after the receipt of an executed swap, and given up only
where that does no harm. -/
def Task.Informed (w : World) : Task → Prop
  | .delivery ⟨_, _, .finalize _ tradeId (.markConfirmed _)⟩ => Executed w tradeId
  | .delivery ⟨_, _, .finalize _ tradeId (.updateReceived _)⟩ => Confirmed w.db tradeId
  | .delivery ⟨_, _, .finalize _ tradeId (.markFailed _)⟩ => Settled w tradeId
  | .delivery ⟨_, _, .finalizationError _ tradeId _⟩ => Settled w tradeId
  | .pass (.markConfirmed trade _ _) => Executed w trade.tradeId
  | .pass (.markFailed trade _) => Settled w trade.tradeId
  | _ => True

namespace Task.Informed

variable {w w' : World} {t : Task}

theorem learned (h : t.Informed w) (hw : Learned w w') : t.Informed w' := by
  unfold Informed at h ⊢
  split at h
  · exact hw.executed h
  · exact hw.confirmed _ h
  · exact hw.settled h
  · exact hw.settled h
  · exact hw.executed h
  · exact hw.settled h
  · trivial

theorem of_isNew (h : t.isNew = true) : t.Informed w := by
  cases t with
  | delivery d =>
      obtain ⟨event, rest, phase⟩ := d
      cases phase with
      | finalize sent tradeId phase => cases rest <;> cases h
      | finalizationError sent tradeId reason => cases rest <;> cases h
      | _ => trivial
  | pass phase =>
      cases phase with
      | query => trivial
      | _ => cases h
  | request sessionId status done => trivial

theorem confirming (h : t.Informed w) {id : Uuid} (hid : t.confirming = some id) :
    Executed w id := by
  unfold Task.confirming at hid
  split at hid
  · cases hid; exact h
  · cases hid; exact h
  · cases hid

theorem failing (h : t.Informed w) {id : Uuid} (hid : t.failing = some id) : Settled w id := by
  unfold Task.failing at hid
  split at hid
  · cases hid; exact h
  · cases hid; exact h
  · cases hid; exact h
  · cases hid

end Task.Informed

theorem DeliveryMove.informed {w w' : World} {d d' : Delivery} {a : Act}
    (h : DeliveryMove env w d a w' d') (hsound : d.Sound env w.db)
    (hd : (Task.delivery d).Informed w) (herrs : ∀ id ∈ (Task.delivery d).errs a, Settled w id) :
    (Task.delivery d').Informed w' := by
  have hl : Learned w w' := TaskMove.learned (.delivery h)
  have hd' := hd.learned hl
  cases h with
  | recorded h =>
      cases h with
      | updated =>
          simp only [Sent.afterRecord, finalizeStart]
          split <;> trivial
      | _ => trivial
  | finalized h =>
      cases h with
      | success => exact ⟨_, List.mem_append_right _ List.mem_cons_self⟩
      | reverted => exact .inl (List.mem_append_right _ List.mem_cons_self)
      | lookupError => exact hl.settled (herrs _ rfl)
      | confirmedAmount => exact confirmed_markTradeConfirmed (hsound.trade _ rfl)
      | confirmError => exact hl.settled (herrs _ rfl)
      | receivedError => exact .inr hd'
      | failError => exact hd'
      | _ => trivial
  | @published event rest sent => cases sent.soldOut <;> trivial
  | _ => trivial

theorem PassMove.informed {w : World} {input : PassInput} {phase phase' : PassPhase}
    {db : Database} (h : PassMove w.db input phase db phase') :
    (Task.pass phase').Informed
      { w with db := db, lookups := w.lookups ++ phase.lookedUp input } := by
  cases h with
  | success => exact ⟨_, List.mem_append_right _ List.mem_cons_self⟩
  | reverted => exact .inl (List.mem_append_right _ List.mem_cons_self)
  | _ => trivial

section Runs

variable {c : Config World Task} {db : Database}

theorem engine_informed {w₀ : World} (h : (engine env).Run (onActs ErrsSettled) ⟨w₀, []⟩ c) :
    ∀ t ∈ c.tasks, t.Informed c.store := by
  refine h.assertions (J := fun w t => t.Informed w) (by simp) ?_ ?_ ?_
  · intro c t _ _ hentry
    exact .of_isNew hentry
  · intro c i a t w' t' hrun hJ hg hacts
    have ht := hJ t hacts.mem
    have hsound := engine_sound hrun t hacts.mem
    have herrs : ErrsSettled c t a := onActs_acts hg hacts
    cases engine_move hacts with
    | delivery hmove => exact hmove.informed hsound ht herrs
    | pass hmove => exact hmove.informed
    | _ => trivial
  · intro c i a t w' t' _ hJ _ hacts u hu
    exact (hJ u hu).learned (engine_move hacts).learned

/-- In a run in which the errors of a delivery meet only settled trades, every
status agrees with the receipts that were seen. -/
theorem statusFromReceipts_of_errsSettled (hdb : ∀ r ∈ db.trades, r.status = .submitted)
    (h : (engine env).Run (onActs ErrsSettled) ⟨boot db, []⟩ c) :
    StatusFromReceipts c.store := by
  refine h.store_invariant (I := StatusFromReceipts) ⟨?_, fun r hr _ _ => hdb r hr⟩ ?_
  · intro r hr hfailed
    rw [hdb r hr] at hfailed
    cases hfailed
  · intro c i a t w' t' hrun hI _ hacts
    have ht := engine_informed hrun t hacts.mem
    have hmove := engine_move hacts
    have hl := hmove.learned
    refine ⟨fun r' hr' hfailed => ?_, fun r' hr' hreverted hexecuted => ?_⟩
    · cases hmove.statusFrom hr' with
      | new hstatus => rw [hstatus] at hfailed; cases hfailed
      | kept hr hid hstatus => exact hid ▸ hl.reverted (hI.failed _ hr (hstatus.trans hfailed))
      | confirmed _ hstatus => rw [hstatus] at hfailed; cases hfailed
      | failed hfailing hold _ => exact hl.reverted ((ht.failing hfailing).resolve_right hold)
    · cases hmove.statusFrom hr' with
      | new hstatus => exact hstatus
      | kept hr hid hstatus =>
          rw [← hid] at hreverted hexecuted
          rw [← hstatus]
          exact hI.unsettled _ hr (fun h => hreverted (hl.reverted h))
            fun h => hexecuted (hl.executed h)
      | confirmed hconfirming _ => exact absurd (hl.executed (ht.confirming hconfirming)) hexecuted
      | failed hfailing hold _ =>
          exact absurd (hl.reverted ((ht.failing hfailing).resolve_right hold)) hreverted

end Runs

namespace Sample

/-- A sell whose delivery ends before its transaction is mined. -/
def unsettledSell : List (Move Task Act) :=
  sell 0 "0xa1" "0xb1" (session 1) ++ statements 0 [true, true] ++
    [.act 0 (.settle (.lookup .pending true)), .act 0 (.call true), .act 0 (.plan answers)]

/-- A pass as the task at index `i`, up to the receipt of its first trade. -/
def pass (i : ℕ) (outcome : Lookup) : List (Move Task Act) :=
  [.spawn (.pass .query)] ++ statements i [true] ++
    [.act i (.wallet (some (some (walletAddress, "bsc")))),
      .act i (.settle (.lookup outcome true))]

end Sample

/-- The first pass cannot look the receipt up, and the second finds it reverted. -/
theorem statusFromReceipts_of_errsSettled_sample :
    ∃ c : Config World Task, (∃ r ∈ c.store.db.trades, r.status = .failed) ∧
      StatusFromReceipts c.store := by
  obtain ⟨c, hrun, hc⟩ := exists_of_runIf (engine Sample.directEnv) (onActs ErrsSettled)
    ⟨boot Sample.database, []⟩
    (Sample.unsettledSell ++ Sample.pass 1 (.error "timeout") ++
      Sample.pass 2 .reverted ++ Sample.statements 2 [true])
    (fun c => c.store.db.trades.any fun r => r.status = .failed) (by decide +kernel)
  simp only [List.any_eq_true, decide_eq_true_eq] at hc
  exact ⟨c, hc, statusFromReceipts_of_errsSettled (by decide) hrun⟩

/-- The delivery cannot look the receipt up and marks the trade as failed. -/
theorem failed_without_receipt :
    ¬ ∀ c, (engine Sample.directEnv).Reaches ⟨boot Sample.database, []⟩ c →
      StatusFromReceipts c.store := by
  intro h
  obtain ⟨c, hrun, hc⟩ := exists_of_run (engine Sample.directEnv)
    ⟨boot Sample.database, []⟩
    (Sample.sell 0 "0xa1" "0xb1" (Sample.session 1) ++ Sample.statements 0 [true, true] ++
      Sample.settle 0 (.error "timeout"))
    (fun c => c.store.db.trades.any fun r =>
      r.status = .failed && !decide ((r.id, Lookup.reverted) ∈ c.store.lookups))
    (by decide +kernel)
  simp only [List.any_eq_true, Bool.and_eq_true, decide_eq_true_eq, Bool.not_eq_true',
    decide_eq_false_iff_not] at hc
  obtain ⟨r, hr, hfailed, hreverted⟩ := hc
  exact hreverted ((h c hrun).failed r hr hfailed)

end Liquifier.Engine
