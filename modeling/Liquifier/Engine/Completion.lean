import Liquifier.Engine.Counter

/-!
The completion of a session.

A delivery completes its session when the amount that it read and the amount
that it sold reach the total. It looks neither at the counter as it is by then
nor at how the trades were settled. So a completion is lost when two deliveries
finish the session together, and it comes too early when one of the counted
trades has failed.
-/

namespace Liquifier.Engine

open TaskSystem TaskSystem.System

variable {env : Environment}

/-- The session that a step sets to `completed`. -/
def Task.completes : Task → Act → Option Uuid
  | .delivery ⟨_, _, .complete sent⟩, .settle (.statement true) => some sent.session.id
  | _, _ => none

/-! ### Completions and the trades behind them -/

/-- The sell amounts of the trades of a session that have not failed. -/
def soldAmount (trades : List TradeRow) (id : Uuid) : ℕ :=
  Table.sumWhere (fun t => decide (t.sessionId = id) && decide (t.status ≠ .failed)) (·.sellAmount)
    trades

/-- No trade of the session has failed. -/
def NoneFailed (trades : List TradeRow) (id : Uuid) : Prop :=
  ∀ t ∈ trades, t.sessionId = id → t.status ≠ .failed

instance (trades : List TradeRow) (id : Uuid) : Decidable (NoneFailed trades id) :=
  inferInstanceAs (Decidable (∀ t ∈ trades, _ → _))

/-- Where the engine completes a session, no trade of it has failed. -/
def CompletesUnfailed (c : Config World Task) (t : Task) (a : Act) : Prop :=
  ∀ id ∈ t.completes a, NoneFailed c.store.db.trades id

instance (c : Config World Task) (t : Task) (a : Act) : Decidable (CompletesUnfailed c t a) :=
  inferInstanceAs (Decidable (∀ id ∈ t.completes a, _))

/-- Where the engine completes a session, the trades that have not failed cover
its total. -/
def CompletesCovered (c : Config World Task) (t : Task) (a : Act) : Prop :=
  ∀ id ∈ t.completes a, ∀ r ∈ c.store.db.sessions, r.id = id →
    r.totalAmount ≤ soldAmount c.store.db.trades id

instance (c : Config World Task) (t : Task) (a : Act) : Decidable (CompletesCovered c t a) :=
  inferInstanceAs (Decidable (∀ id ∈ t.completes a, ∀ r ∈ c.store.db.sessions, _ → _))

theorem soldAmount_eq_recorded {trades : List TradeRow} {id : Uuid} (h : NoneFailed trades id) :
    soldAmount trades id = recordedAmount trades id := by
  refine Table.sumWhere_congr _ fun t ht => ?_
  by_cases hid : t.sessionId = id
  · simp [hid, h t ht hid]
  · simp [hid]

/-- A delivery that completes a session has sold at least its total, by the
counter as it is now. -/
theorem total_le_amountSold {d : Delivery} {db : Database} {sent : Sent} (hd : d.Sound env db)
    (hphase : d.phase.finishing = some sent) (hsale : d.phase.sale = some sent.toSale)
    (hcounted : d.phase.counted = some sent) :
    sent.session.totalAmount ≤ db.amountSold sent.session.id := by
  obtain ⟨-, ans, hplan⟩ := hd.sale _ hsale
  have hsold := hd.finishing sent hphase
  rw [Sent.soldOut, decide_eq_true_eq, hplan.wrappingAdd_eq, hplan.total_eq_totalAmount] at hsold
  have hread := hplan.sold_le
  have hcount := hd.counted sent hcounted
  omega

/-- In a run in which no session is completed while it has a failed trade, the
trades that have not failed cover the total of every session at its completion. -/
theorem completesCovered_of_unfailed {db : Database} {c : Config World Task} (hdb : Unsold db)
    (h : (engine env).Run (onActs CompletesUnfailed) ⟨boot db, []⟩ c) {m : Move Task Act}
    (hm : onActs CompletesUnfailed c m) : onActs CompletesCovered c m := by
  cases m with
  | spawn t => trivial
  | act i a =>
      intro t ht id hid r hr hrid
      have hnone := hm t ht id hid
      have hsound := engine_sound h t (List.mem_of_getElem? ht)
      rw [soldAmount_eq_recorded hnone]
      have hcounter := amountSold_add_owes_le hdb h id
      unfold Task.completes at hid
      split at hid
      · rename_i event rest sent
        cases hid
        have htotal := total_le_amountSold hsound rfl rfl rfl
        have hsnapshot := (hsound.sale sent.toSale rfl).1
        rw [hsnapshot.totalAmount_eq hr hrid]
        omega
      · cases hid

namespace Sample

/-- Two sells into one session, 500 and the 300 that are left, up to the
completion of the session. -/
def twoSells (first : Lookup) : List (Move Task Act) :=
  sell 0 "0xa1" "0xb1" (session 1) ++ statements 0 [true, true] ++ settle 0 first ++
    sell 1 "0xa2" "0xb2" { session 1 with amountSold := 500 } ++ statements 1 [true, true] ++
    settle 1 (.success none)

def completion : Move Task Act := .act 1 (.settle (.statement true))

end Sample

/-- Both sells are confirmed. -/
theorem completesCovered_of_unfailed_sample :
    ∃ c : Config World Task, soldAmount c.store.db.trades 1 = 800 ∧
      onActs CompletesCovered c Sample.completion := by
  obtain ⟨c, hrun, hc⟩ := exists_of_runIf (engine Sample.directEnv)
    (onActs CompletesUnfailed) ⟨boot Sample.database, []⟩
    (Sample.twoSells (.success none))
    (fun c => soldAmount c.store.db.trades 1 == 800 &&
      decide (onActs CompletesUnfailed c Sample.completion)) (by decide +kernel)
  simp only [Bool.and_eq_true, beq_iff_eq, decide_eq_true_eq] at hc
  exact ⟨c, hc.1, completesCovered_of_unfailed ⟨rfl, by decide⟩ hrun hc.2⟩

/-- The first sell is reverted, and the second completes the session all the
same: 300 of 800 are sold. -/
theorem completed_below_total :
    ¬ ∀ c m, (engine Sample.directEnv).Reaches ⟨boot Sample.database, []⟩ c →
      onActs CompletesCovered c m := by
  intro h
  obtain ⟨c, hrun, hc⟩ := exists_of_run (engine Sample.directEnv)
    ⟨boot Sample.database, []⟩ (Sample.twoSells .reverted)
    (fun c => !decide (onActs CompletesCovered c Sample.completion)) (by decide +kernel)
  simp only [Bool.not_eq_true', decide_eq_false_iff_not] at hc
  exact hc (h c _ hrun)

/-! ### Sessions that are sold out -/

namespace Task

/-- The sale of a delivery, once the counter of its session includes it. -/
def counted : Task → Option Sent
  | .delivery d => d.phase.counted
  | _ => none

/-- The delivery has finished the session by what it knows, and is on its way to
close it. -/
def Closes (id : Uuid) (t : Task) : Prop :=
  ∃ sent, t.counted = some sent ∧ sent.session.id = id ∧ sent.soldOut = true

/-- The status of a session is set from outside the engine. -/
def setsStatus : Task → Bool
  | .request _ _ _ => true
  | _ => false

def isDone : Task → Bool
  | .delivery d => d.phase.isDone
  | .pass (.returned _) => true
  | .pass _ => false
  | .request _ _ done => done

theorem counted_of_isDone {t : Task} (h : t.isDone = true) : t.counted = none := by
  cases t with
  | delivery d =>
      obtain ⟨event, rest, phase⟩ := d
      cases phase with
      | returned ok => rfl
      | stopped => rfl
      | _ => cases h
  | _ => rfl

end Task

/-- No statement fails, no task is stopped, and nothing but the engine sets the
status of a session. -/
def Undisturbed (_ : Config World Task) (t : Task) (a : Act) : Prop :=
  a.fails = false ∧ t.setsStatus = false

/-- In addition, an update that takes a counter to the total is made by a
delivery that was selling all that its snapshot had left. -/
def LastSellKnown (c : Config World Task) (t : Task) (a : Act) : Prop :=
  Undisturbed c t a ∧ ∀ p ∈ t.pending, p.inserted = true →
    c.store.db.amountSold p.sessionId < p.sent.session.totalAmount →
    p.sent.session.totalAmount ≤ c.store.db.amountSold p.sessionId + p.amount →
    p.sent.session.amountSold + p.amount = p.sent.session.totalAmount

instance (c : Config World Task) (t : Task) (a : Act) : Decidable (Undisturbed c t a) :=
  inferInstanceAs (Decidable (_ ∧ _))

instance (c : Config World Task) (t : Task) (a : Act) : Decidable (LastSellKnown c t a) :=
  inferInstanceAs (Decidable (_ ∧ ∀ p ∈ t.pending, _ → _ → _ → _))

def Completed (db : Database) (id : Uuid) : Prop :=
  ∀ r ∈ db.sessions, r.id = id → r.status = .completed

/-- A session that is sold out is completed, swept and checked for its refund. -/
def SoldOutClosed (w : World) : Prop :=
  ∀ r ∈ w.db.sessions, r.totalAmount ≤ r.amountSold →
    r.status = .completed ∧ r.id ∈ w.swept ∧ r.id ∈ w.refundChecked

/-! ### What a move does to the sessions -/

theorem completed_updateSession {db : Database} {id : Uuid} (h : Completed db id) (key : Uuid)
    (f : SessionRow → SessionRow) (hf)
    (hstatus : ∀ r, r.status = .completed → (f r).status = .completed) :
    Completed (db.updateSession key f hf) id := by
  intro r hr hid
  rcases Table.mem_update hr with ⟨hr, _⟩ | ⟨q, hq, _, rfl⟩
  · exact h r hr hid
  · exact hstatus q (h q hq ((hf q).symm.trans hid))

theorem completed_setSessionStatus (db : Database) (id : Uuid) :
    Completed (db.setSessionStatus id .completed) id := by
  intro r hr hid
  rcases Table.mem_update hr with ⟨_, hne⟩ | ⟨q, _, _, rfl⟩
  · exact absurd hid hne
  · rfl

/-- All that a move of a delivery or a pass can do to the rows of `sessions`. -/
inductive SessionMove (w w' : World) : Task → Act → Task → Prop where
  | kept {t t' : Task} {a : Act} (h : w'.db.sessions = w.db.sessions) : SessionMove w w' t a t'
  | counted {t t' : Task} {a : Act} {p : Pending} (hp : t.pending = some p)
      (hinserted : p.inserted = true) (hdb : w'.db = w.db.addAmountSold p.sessionId p.amount)
      (ht' : t'.counted = some p.sent) : SessionMove w w' t a t'
  | completed {t t' : Task} {a : Act} {id : Uuid} (hid : t.completes a = some id)
      (hdb : w'.db = w.db.setSessionStatus id .completed) : SessionMove w w' t a t'

theorem DeliveryMove.sessionMove {w w' : World} {d d' : Delivery} {a : Act}
    (h : DeliveryMove env w d a w' d') : SessionMove w w' (.delivery d) a (.delivery d') := by
  cases h with
  | recorded h =>
      cases h with
      | inserted _ _ hsessions => exact .kept hsessions
      | updated =>
          refine .counted rfl rfl rfl ?_
          rw [Task.counted, Sent.afterRecord, Sent.counted_afterFinalize]
      | _ => exact .kept rfl
  | finalized h => exact .kept h.frame.1
  | completed => exact .completed rfl rfl
  | _ => exact .kept rfl

theorem TaskMove.sessionMove {w w' : World} {t t' : Task} {a : Act}
    (h : TaskMove env w t a w' t') (hset : t.setsStatus = false) : SessionMove w w' t a t' := by
  cases h with
  | delivery h => exact h.sessionMove
  | pass h => exact .kept h.frame.1
  | passStopped => exact .kept rfl
  | request => cases hset
  | requestError => cases hset

/-- What was done to close a session stays done. -/
structure Onward (w w' : World) : Prop where
  completed : ∀ id, Completed w.db id → Completed w'.db id
  swept : w.swept ⊆ w'.swept
  refundChecked : w.refundChecked ⊆ w'.refundChecked

theorem SessionMove.completed_stays {w w' : World} {t t' : Task} {a : Act}
    (h : SessionMove w w' t a t') {id : Uuid} (hid : Completed w.db id) : Completed w'.db id := by
  cases h with
  | kept h =>
      intro r hr
      exact hid r (h ▸ hr)
  | counted _ _ hdb =>
      rw [hdb]
      exact completed_updateSession hid _ _ _ fun _ h => h
  | completed _ hdb =>
      rw [hdb]
      exact completed_updateSession hid _ _ _ fun _ _ => rfl

theorem TaskMove.onward {w w' : World} {t t' : Task} {a : Act} (h : TaskMove env w t a w' t')
    (hset : t.setsStatus = false) : Onward w w' := by
  refine ⟨fun id hid => (h.sessionMove hset).completed_stays hid, ?_, ?_⟩
  · cases h with
    | delivery h =>
        cases h with
        | swept => exact List.subset_append_left _ _
        | _ => exact List.Subset.refl _
    | _ => exact List.Subset.refl _
  · cases h with
    | delivery h =>
        cases h with
        | refunded => exact List.subset_append_left _ _
        | _ => exact List.Subset.refl _
    | _ => exact List.Subset.refl _

/-! ### From the last sell to the refund check -/

/-- What has been done for the session of a delivery that closes it. -/
def Phase.Closing (w : World) : Phase → Prop
  | .sweep sent => Completed w.db sent.session.id
  | .refund sent => Completed w.db sent.session.id ∧ sent.session.id ∈ w.swept
  | _ => True

def Task.Closing (w : World) : Task → Prop
  | .delivery d => d.phase.Closing w
  | _ => True

theorem Phase.Closing.onward {w w' : World} {phase : Phase} (h : phase.Closing w)
    (hw : Onward w w') : phase.Closing w' := by
  cases phase with
  | sweep sent => exact hw.completed _ h
  | refund sent => exact ⟨hw.completed _ h.1, hw.swept h.2⟩
  | _ => trivial

theorem Sent.closing_afterFinalize (w : World) (sent : Sent) (tradeId : Uuid)
    (phase : FinalizePhase) : (sent.afterFinalize tradeId phase).Closing w :=
  sent.afterFinalize_rule tradeId phase (fun _ => trivial) (fun _ => trivial) fun _ => trivial

theorem Sent.closing_afterRecord (w : World) (sent : Sent) (phase : RecordPhase) :
    (sent.afterRecord phase).Closing w :=
  sent.afterRecord_rule phase (fun _ => trivial) trivial trivial (sent.closing_afterFinalize w)

theorem DeliveryMove.closing {w w' : World} {d d' : Delivery} {a : Act}
    (h : DeliveryMove env w d a w' d') (ha : a.fails = false) (hd : d.phase.Closing w)
    (hw : Onward w w') : d'.phase.Closing w' := by
  have hd' := hd.onward hw
  cases h with
  | recorded => exact Sent.closing_afterRecord _ _ _
  | finalized => exact Sent.closing_afterFinalize _ _ _ _
  | @published event rest sent => dsimp only; cases sent.soldOut <;> trivial
  | completed => exact completed_setSessionStatus _ _
  | completeError => cases ha
  | swept => exact ⟨hd', List.mem_append_right _ List.mem_cons_self⟩
  | _ => trivial

/-- A delivery that closes its session goes on with it to the refund check. -/
theorem DeliveryMove.closes {w w' : World} {d d' : Delivery} {a : Act} {id : Uuid}
    (h : DeliveryMove env w d a w' d') (ha : a.fails = false) (hd : d.phase.Closing w)
    (hw : Onward w w') (hc : (Task.delivery d).Closes id) :
    (Task.delivery d').Closes id ∨
      Completed w'.db id ∧ id ∈ w'.swept ∧ id ∈ w'.refundChecked := by
  have hd' := hd.onward hw
  obtain ⟨sent, hcounted, hid, hsold⟩ := hc
  cases h with
  | stopped => cases ha
  | recorded => cases hcounted
  | finalized => cases hcounted; exact .inl ⟨sent, Sent.counted_afterFinalize _ _ _, hid, hsold⟩
  | markError => cases ha
  | published =>
      cases hcounted
      refine .inl ⟨sent, ?_, hid, hsold⟩
      rw [Task.counted, hsold]
      rfl
  | completeError => cases ha
  | refunded =>
      cases hcounted
      cases hid
      exact .inr ⟨hd'.1, hd'.2, List.mem_append_right _ List.mem_cons_self⟩
  | markedFailed => cases hcounted; exact .inl ⟨sent, rfl, hid, hsold⟩
  | completed => cases hcounted; exact .inl ⟨sent, rfl, hid, hsold⟩
  | swept => cases hcounted; exact .inl ⟨sent, rfl, hid, hsold⟩
  | _ => cases hcounted

/-- A delivery that was selling all that its snapshot had left takes its session
for sold out. -/
theorem soldOut_of_planned {event : DexSwapEvent} {sent : Sent} {ans : SwapAnswers}
    (h : Planned env event sent.session ans sent.plan)
    (hlast : sent.session.amountSold + sent.plan.sellAmount = sent.session.totalAmount) :
    sent.soldOut = true := by
  have hle : sent.session.amountSold ≤ sent.session.totalAmount := by omega
  rw [Sent.soldOut, decide_eq_true_eq, h.wrappingAdd_eq, h.total_eq_totalAmount,
    sold_of_fresh h hle, hlast]

section Runs

variable {db : Database} {c : Config World Task} {w₀ : World}

/-- In every state of an undisturbed run the deliveries that close a session have
done what their phase says. -/
theorem closing_sound (h : (engine env).Run (onActs Undisturbed) ⟨w₀, []⟩ c) :
    ∀ t ∈ c.tasks, t.Closing c.store := by
  refine h.assertions (J := fun w t => t.Closing w) (by simp) ?_ ?_ ?_
  · intro c t _ _ hentry
    cases t with
    | delivery d =>
        obtain ⟨event, rest, phase⟩ := d
        cases rest <;> cases phase <;> trivial
    | _ => trivial
  · intro c i a t w' t' _ hJ hg hacts
    have hundisturbed : Undisturbed c t a := onActs_acts hg hacts
    have ht := hJ t hacts.mem
    have hmove := engine_move hacts
    have hw := hmove.onward hundisturbed.2
    cases hmove with
    | delivery hmove => exact hmove.closing hundisturbed.1 ht hw
    | _ => trivial
  · intro c i a t w' t' _ hJ hg hacts u hu
    have hundisturbed : Undisturbed c t a := onActs_acts hg hacts
    have hclosing := hJ u hu
    cases u with
    | delivery d =>
        exact Phase.Closing.onward hclosing ((engine_move hacts).onward hundisturbed.2)
    | _ => trivial

/-- The session `id` is sold out. -/
def SoldOut (w : World) (id : Uuid) : Prop :=
  ∃ r ∈ w.db.sessions, r.id = id ∧ r.totalAmount ≤ r.amountSold

/-- A session gets sold out only by a delivery that knows it. -/
theorem SessionMove.soldOut {w w' : World} {t t' : Task} {a : Act} {id : Uuid}
    (h : SessionMove w w' t a t') (hid : SoldOut w' id)
    (hsound : ∀ p, t.pending = some p → Snapshot w.db p.sent.session ∧
      ∃ ans, Planned env p.event p.sent.session ans p.sent.plan)
    (hlast : ∀ p, t.pending = some p → p.inserted = true →
      w.db.amountSold p.sessionId < p.sent.session.totalAmount →
      p.sent.session.totalAmount ≤ w.db.amountSold p.sessionId + p.amount →
      p.sent.session.amountSold + p.amount = p.sent.session.totalAmount) :
    SoldOut w id ∨ t'.Closes id := by
  obtain ⟨r', hr', rfl, hfull⟩ := hid
  cases h with
  | kept h => exact .inl ⟨r', h ▸ hr', rfl, hfull⟩
  | counted hp hinserted hdb ht' =>
      rename_i p
      rw [hdb] at hr'
      rcases Table.mem_update hr' with ⟨hr, _⟩ | ⟨r, hr, hid, rfl⟩
      · exact .inl ⟨r', hr, rfl, hfull⟩
      · by_cases hold : r.totalAmount ≤ r.amountSold
        · exact .inl ⟨r, hr, rfl, hold⟩
        · obtain ⟨hsnapshot, ans, hplan⟩ := hsound p hp
          have htotal : r.totalAmount = p.sent.session.totalAmount :=
            hsnapshot.totalAmount_eq hr hid
          have hsold : w.db.amountSold p.sessionId = r.amountSold := by
            rw [← hid, Database.amountSold_of_mem hr]
          have hknown := hlast p hp hinserted (by omega) (by rw [hsold, ← htotal]; exact hfull)
          exact .inr ⟨p.sent, ht', hid.symm, soldOut_of_planned hplan hknown⟩
  | completed _ hdb =>
      rw [hdb] at hr'
      rcases Table.mem_update hr' with ⟨hr, _⟩ | ⟨r, hr, _, rfl⟩
      · exact .inl ⟨r', hr, rfl, hfull⟩
      · exact .inl ⟨r, hr, rfl, hfull⟩

/-- In a run in which the deliveries that take the counters to the totals know
it, every session that is sold out is closed once no task is in progress. -/
theorem soldOutClosed_of_lastSellKnown (hdb : ∀ r ∈ db.sessions, r.amountSold < r.totalAmount)
    (h : (engine env).Run (onActs LastSellKnown) ⟨boot db, []⟩ c)
    (hdone : ∀ t ∈ c.tasks, t.isDone = true) : SoldOutClosed c.store := by
  have hundisturbed {c} (h : (engine env).Run (onActs LastSellKnown) ⟨boot db, []⟩ c) :
      (engine env).Run (onActs Undisturbed) ⟨boot db, []⟩ c := by
    refine h.mono fun c m hm => ?_
    cases m with
    | spawn t => trivial
    | act i a => exact fun t ht => (hm t ht).1
  intro r hr hfull
  have hduty := h.duty (fun w => SoldOut w r.id)
    (fun w => Completed w.db r.id ∧ r.id ∈ w.swept ∧ r.id ∈ w.refundChecked)
    (Task.Closes r.id) ?_ ?_ ?_ ?_ ⟨r, hr, rfl, hfull⟩
  · rcases hduty with ⟨hcompleted, hswept, hrefund⟩ | ⟨t, ht, sent, hcounted, _⟩
    · exact ⟨hcompleted r hr rfl, hswept, hrefund⟩
    · rw [Task.counted_of_isDone (hdone t ht)] at hcounted
      cases hcounted
  · rintro ⟨q, hq, _, hle⟩
    exact absurd (hdb q hq) (Nat.not_lt_of_le hle)
  · intro c i a t w' t' hrun hg hacts hid
    have hlast : LastSellKnown c t a := onActs_acts hg hacts
    exact ((engine_move hacts).sessionMove hlast.1.2).soldOut hid
      (fun p hp => pending_sound hrun hacts.mem hp) hlast.2
  · intro c i a t w' t' hrun hg hacts hcloses
    have hlast : LastSellKnown c t a := onActs_acts hg hacts
    have hclosing := closing_sound (hundisturbed hrun) t hacts.mem
    have hmove := engine_move hacts
    have hw := hmove.onward hlast.1.2
    cases hmove with
    | delivery hmove => exact hmove.closes hlast.1.1 hclosing hw hcloses
    | _ => obtain ⟨sent, hcounted, _⟩ := hcloses; cases hcounted
  · rintro c i a t w' t' _ hg hacts ⟨hcompleted, hswept, hrefund⟩
    have hlast : LastSellKnown c t a := onActs_acts hg hacts
    have hw := (engine_move hacts).onward hlast.1.2
    exact ⟨hw.completed _ hcompleted, hw.swept hswept, hw.refundChecked hrefund⟩

end Runs

namespace Sample

/-- The completion of a session, its sweep and its refund check, and the end of
the loop. -/
def close (i : ℕ) : List (Move Task Act) :=
  statements i [true] ++ [.act i (.call true), .act i (.call true), .act i (.plan answers)]

end Sample

/-- Two buys are sold into one after the other, and the second sell closes the
session. -/
theorem soldOutClosed_of_lastSellKnown_sample :
    ∃ c : Config World Task, c.store.db.amountSold 1 = 800 ∧ SoldOutClosed c.store := by
  obtain ⟨c, hrun, hc⟩ := exists_of_runIf (engine Sample.directEnv)
    (onActs LastSellKnown) ⟨boot Sample.database, []⟩
    (Sample.twoSells (.success none) ++ Sample.close 1 ++ [.act 0 (.plan Sample.answers)])
    (fun c => c.store.db.amountSold 1 == 800 && c.tasks.all Task.isDone) (by decide +kernel)
  simp only [Bool.and_eq_true, beq_iff_eq, List.all_eq_true] at hc
  exact ⟨c, hc.1, soldOutClosed_of_lastSellKnown (by decide) hrun hc.2⟩

/-- Two buys are sold into on the same snapshot: 500 and 500 of 800, and neither
of the two deliveries completes the session. -/
theorem completion_lost :
    ¬ ∀ c, (engine Sample.directEnv).Run (onActs Undisturbed) ⟨boot Sample.database, []⟩ c →
      (∀ t ∈ c.tasks, t.isDone = true) →
      ∀ r ∈ c.store.db.sessions, r.totalAmount ≤ r.amountSold → r.status ≠ .active := by
  intro h
  obtain ⟨c, hrun, hc⟩ := exists_of_runIf (engine Sample.directEnv) (onActs Undisturbed)
    ⟨boot Sample.database, []⟩
    (Sample.sell 0 "0xa1" "0xb1" (Sample.session 1) ++
      Sample.sell 1 "0xa2" "0xb2" (Sample.session 1) ++ Sample.statements 0 [true, true] ++
      Sample.statements 1 [true, true] ++ Sample.settle 0 (.success none) ++
      Sample.settle 1 (.success none) ++
      [.act 0 (.plan Sample.answers), .act 1 (.plan Sample.answers)])
    (fun c => c.tasks.all Task.isDone && c.store.db.sessions.any fun r =>
      r.totalAmount ≤ r.amountSold && r.status = .active) (by decide +kernel)
  simp only [Bool.and_eq_true, List.all_eq_true, List.any_eq_true, decide_eq_true_eq] at hc
  obtain ⟨hdone, r, hr, hfull, hactive⟩ := hc
  exact h c hrun hdone r hr hfull hactive

end Liquifier.Engine
