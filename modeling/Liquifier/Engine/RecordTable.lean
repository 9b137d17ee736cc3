import Liquifier.Engine.RecordTrade
import Liquifier.Lib.TaskSystem

/-!
Any number of `record_trade` calls over one database.

The row and the counter are written by two statements, so the counter lags
behind by what the calls between the two statements still hold. A call whose
insertion took effect and whose update fails never pays this back: the trade is
found as a duplicate from then on.
-/

namespace Liquifier

namespace Engine

open TaskSystem TaskSystem.System

variable (env : Environment)

structure RecordTask where
  call : RecordCall
  phase : RecordPhase

namespace RecordPhase

def isInsert : RecordPhase → Bool
  | .insert => true
  | _ => false

def isUpdate : RecordPhase → Bool
  | .update _ => true
  | _ => false

def isReturned : RecordPhase → Bool
  | .returned _ => true
  | _ => false

end RecordPhase

/-- The calls interleave at their statements. -/
def recordTable : System Database RecordTask Bool where
  entry t := t.phase.isInsert
  step ok db t :=
    (recordStep env t.call ok db t.phase).map fun r => (r.1, { t with phase := r.2 })

/-- No update of `amount_sold` fails. -/
def UpdatesSucceed (_ : Config Database RecordTask) (t : RecordTask) (ok : Bool) : Prop :=
  t.phase.isUpdate = true → ok = true

instance (c : Config Database RecordTask) (t : RecordTask) (ok : Bool) :
    Decidable (UpdatesSucceed c t ok) :=
  inferInstanceAs (Decidable (t.phase.isUpdate = true → ok = true))

variable {env}

theorem recordTable_move {c : Config Database RecordTask} {i : ℕ} {ok : Bool} {t t' : RecordTask}
    {db' : Database} (h : (recordTable env).Acts c i ok t db' t') :
    t'.call = t.call ∧ RecordMove env t.call c.store ok t.phase db' t'.phase := by
  have hstep := h.step
  simp only [recordTable, Option.map_eq_some_iff] at hstep
  obtain ⟨⟨db, phase⟩, hrec, heq⟩ := hstep
  obtain ⟨rfl, rfl⟩ := Prod.mk.inj heq
  exact ⟨rfl, recordStep_move hrec⟩

/-! ### A call on its own -/

/-- The insertion of the call adds a row and its update then fails. -/
def Strands (env : Environment) (call : RecordCall) (insertOk updateOk : Bool) (db : Database) :
    Prop :=
  (env.decimalFromStr call.event.amountOut).isSome ∧ insertOk = true ∧
    call.trigger ∉ db.trades.map TradeRow.trigger ∧ call.session.id ∈ db.sessions.map (·.id) ∧
    updateOk = false

/-- A call that answers with an error leaves the tables as they were. -/
def ErrorLeavesTables (env : Environment) (call : RecordCall) (insertOk updateOk selectOk : Bool)
    (db : Database) : Prop :=
  ∀ db' e, recordTrade env call insertOk updateOk selectOk db = (db', .error e) → db' = db

/-- A call that nothing interrupts is one of the runs of the system. -/
theorem recordTrade_reaches (call : RecordCall) (insertOk updateOk selectOk : Bool)
    (db : Database) :
    (recordTable env).Reaches ⟨db, []⟩
      ⟨(recordTrade env call insertOk updateOk selectOk db).1,
        [⟨call, .returned (recordTrade env call insertOk updateOk selectOk db).2⟩]⟩ := by
  have hstart : (recordTable env).Reaches ⟨db, []⟩ ⟨db, [⟨call, .insert⟩]⟩ :=
    .step .refl trivial (m := .spawn ⟨call, .insert⟩) rfl
  unfold recordTrade
  split
  · rename_i hparse
    exact hstart.of_run [.act 0 insertOk]
      (by simp [System.run, System.next, recordTable, recordStep, hparse])
  · rename_i hparse
    split
    · rename_i hinsert
      exact hstart.of_run [.act 0 insertOk]
        (by simp [System.run, System.next, recordTable, recordStep, hparse, hinsert])
    · rename_i hinsert
      refine hstart.of_run [.act 0 insertOk, .act 0 updateOk] ?_
      cases updateOk <;>
        simp [System.run, System.next, recordTable, recordStep, hparse, hinsert]
    · rename_i hinsert
      refine hstart.of_run [.act 0 insertOk, .act 0 selectOk] ?_
      cases hselect : (if selectOk then Database.selectTradeByTrigger _ call.trigger else none) <;>
        simp [System.run, System.next, recordTable, recordStep, hparse, hinsert, hselect]

theorem recordTrade_of_strands {call : RecordCall} {insertOk updateOk : Bool} {db : Database}
    (h : Strands env call insertOk updateOk db) (selectOk : Bool) :
    ∃ db' e, recordTrade env call insertOk updateOk selectOk db = (db', .error e) ∧
      db'.trades.length = db.trades.length + 1 := by
  obtain ⟨hparse, rfl, hnew, hsession, rfl⟩ := h
  obtain ⟨_, hparse⟩ := Option.isSome_iff_exists.mp hparse
  obtain ⟨db', hinsert, _, htrades⟩ := db.insertTrade_of_new (t := call.newTrade) hnew hsession
  refine ⟨db', "Failed to update session", ?_, ?_⟩
  · simp [recordTrade, hparse, hinsert]
  · simp [htrades]

theorem errorLeavesTables_of_not_strands {call : RecordCall} {insertOk updateOk selectOk : Bool}
    {db : Database} (h : ¬ Strands env call insertOk updateOk db) :
    ErrorLeavesTables env call insertOk updateOk selectOk db := by
  intro db' e hcall
  unfold recordTrade at hcall
  split at hcall
  · exact (Prod.mk.inj hcall).1.symm
  · rename_i hparse
    split at hcall
    · exact (Prod.mk.inj hcall).1.symm
    · rename_i hinsert
      split at hcall
      · cases (Prod.mk.inj hcall).2
      · rename_i hupdate
        rw [Option.ite_none_right_eq_some] at hinsert
        rcases db.insertTrade_cases hinsert.2 with ⟨hnone, _⟩ | ⟨_, hnew, hsession, _⟩
        · cases hnone
        · exact absurd ⟨by simp [hparse], hinsert.1, hnew, hsession, by simpa using hupdate⟩ h
    · rename_i db₁ hinsert
      have hdb : db' = db₁ := by
        split at hcall
        · cases (Prod.mk.inj hcall).2
        · exact (Prod.mk.inj hcall).1.symm
      rw [Option.ite_none_right_eq_some] at hinsert
      rcases db.insertTrade_cases hinsert.2 with ⟨_, hsame, _⟩ | ⟨hsome, _⟩
      · rw [hdb, hsame]
      · cases hsome

/-- The exact condition under which a failed call has changed nothing. -/
theorem errorLeavesTables_iff (call : RecordCall) (insertOk updateOk selectOk : Bool)
    (db : Database) :
    ErrorLeavesTables env call insertOk updateOk selectOk db ↔
      ¬ Strands env call insertOk updateOk db := by
  constructor
  · intro h hstrands
    obtain ⟨db', e, hcall, hlength⟩ := recordTrade_of_strands hstrands selectOk
    rw [h db' e hcall] at hlength
    omega
  · exact errorLeavesTables_of_not_strands

/-! ### Runs -/

section Runs

variable {db₀ : Database} {c : Config Database RecordTask}
  {G : Config Database RecordTask → Move RecordTask Bool → Prop}

theorem recordTable_session_ids (h : (recordTable env).Run G ⟨db₀, []⟩ c) :
    c.store.sessions.map (·.id) = db₀.sessions.map (·.id) := by
  refine h.store_invariant
    (I := fun db => db.sessions.map (·.id) = db₀.sessions.map (·.id)) rfl ?_
  intro c i ok t db' t' _ hI _ hacts
  exact (recordTable_move hacts).2.session_ids.trans hI

theorem recordTable_trades (h : (recordTable env).Run G ⟨db₀, []⟩ c) :
    ∃ new, c.store.trades = db₀.trades ++ new := by
  refine h.store_invariant (I := fun db => ∃ new, db.trades = db₀.trades ++ new)
    ⟨[], (List.append_nil _).symm⟩ ?_
  intro c i ok t db' t' _ hI _ hacts
  obtain ⟨new, hnew⟩ := hI
  obtain ⟨more, hmore⟩ := (recordTable_move hacts).2.trades_append
  exact ⟨new ++ more, by rw [hmore, hnew, List.append_assoc]⟩

/-- A call between its two statements has found its session. -/
theorem recordTable_update_session (h : (recordTable env).Run G ⟨db₀, []⟩ c) :
    ∀ t ∈ c.tasks, t.phase.isUpdate = true → t.call.session.id ∈ db₀.sessions.map (·.id) := by
  refine h.assertions
    (J := fun _ t => t.phase.isUpdate = true → t.call.session.id ∈ db₀.sessions.map (·.id))
    (by simp) ?_ ?_ ?_
  · rintro c ⟨call, phase⟩ _ _ hentry hupdate
    cases phase <;> simp_all [recordTable, RecordPhase.isInsert, RecordPhase.isUpdate]
  · intro c i ok t db' t' hrun _ _ hacts
    obtain ⟨hcall, hmove⟩ := recordTable_move hacts
    rw [hcall, ← recordTable_session_ids hrun]
    intro hupdate
    generalize t.phase = phase, t'.phase = phase' at hmove hupdate
    cases hmove with
    | inserted _ hsession => exact hsession
    | _ => simp [RecordPhase.isUpdate] at hupdate
  · intro c i ok t db' t' _ hJ _ _
    exact hJ

/-- What a call still owes to the counter of the session `id`. -/
def RecordTask.owes (id : Uuid) (t : RecordTask) : ℕ :=
  if t.phase.isUpdate = true ∧ t.call.session.id = id then t.call.sellAmount else 0

/-- The counter and what the calls between their two statements owe to it make up
the recorded amounts, up to what they were at the start. -/
theorem amountSold_add_owes (h : (recordTable env).Run (onActs UpdatesSucceed) ⟨db₀, []⟩ c)
    (id : Uuid) :
    c.store.amountSold id + recordedAmount db₀.trades id + tally (RecordTask.owes id) c.tasks =
      db₀.amountSold id + recordedAmount c.store.trades id := by
  refine h.tally_balance (Φ := fun db => db.amountSold id + recordedAmount db₀.trades id)
    (Ψ := fun db => db₀.amountSold id + recordedAmount db.trades id) (by simp) ?_ ?_
  · rintro c ⟨call, phase⟩ _ _ hentry
    cases phase <;> simp_all [recordTable, RecordPhase.isInsert, RecordPhase.isUpdate,
      RecordTask.owes]
  · rintro c i ok ⟨call, phase⟩ db' ⟨call', phase'⟩ hrun _ hg hacts
    have hsession := recordTable_update_session hrun _ hacts.mem
    rw [← recordTable_session_ids hrun] at hsession
    have hok : phase.isUpdate = true → ok = true := onActs_acts hg hacts
    obtain ⟨rfl, hmove⟩ := recordTable_move hacts
    simp only [RecordTask.owes] at hsession hmove ⊢
    cases hmove with
    | inserted _ _ hsessions htrades =>
        refine ⟨if call'.session.id = id then call'.sellAmount else 0, ?_, ?_⟩
        · simp [RecordPhase.isUpdate, Database.amountSold_congr hsessions]
        · rw [htrades, RecordCall.recordedAmount_append_row, Nat.add_assoc]
    | updated =>
        refine ⟨0, ?_, rfl⟩
        rw [Database.amountSold_addAmountSold (hsession rfl)]
        by_cases hid : call'.session.id = id
        · simp [RecordPhase.isUpdate, hid]
          omega
        · simp [RecordPhase.isUpdate, hid, Ne.symm hid]
    | updateError => cases hok rfl
    | insertError => exact ⟨0, by simp [RecordPhase.isUpdate], rfl⟩
    | conflict => exact ⟨0, by simp [RecordPhase.isUpdate], rfl⟩
    | selected => exact ⟨0, by simp [RecordPhase.isUpdate], rfl⟩
    | selectError => exact ⟨0, by simp [RecordPhase.isUpdate], rfl⟩

/-- Whenever no call is in progress, the counters have grown by the rows that are new. -/
theorem counted_of_returned (h : (recordTable env).Run (onActs UpdatesSucceed) ⟨db₀, []⟩ c)
    (hquiet : ∀ t ∈ c.tasks, t.phase.isReturned = true) :
    ∃ new, c.store.trades = db₀.trades ++ new ∧
      ∀ id, c.store.amountSold id = db₀.amountSold id + recordedAmount new id := by
  obtain ⟨new, hnew⟩ := recordTable_trades h
  refine ⟨new, hnew, fun id => ?_⟩
  have hsum := amountSold_add_owes h id
  have howes : tally (RecordTask.owes id) c.tasks = 0 := by
    refine tally_eq_zero fun t ht => if_neg ?_
    have hreturned := hquiet t ht
    generalize t.phase = phase at hreturned ⊢
    cases phase <;> simp_all [RecordPhase.isReturned, RecordPhase.isUpdate]
  rw [hnew, recordedAmount_append, howes] at hsum
  omega

end Runs

/-- The statements of `record_trade` are not one transaction. A failed call has
changed nothing exactly where it is not the case that its insertion added a row
and its update then failed. In a run in which no update fails, whenever no call
is in progress, the counter of every session has grown by the rows that were
recorded for it. -/
theorem recordTrade_consistent_iff (env : Environment) :
    (∀ call insertOk updateOk selectOk db,
      ErrorLeavesTables env call insertOk updateOk selectOk db ↔
        ¬ Strands env call insertOk updateOk db) ∧
    ∀ db₀ c, (recordTable env).Run (onActs UpdatesSucceed) ⟨db₀, []⟩ c →
      (∀ t ∈ c.tasks, t.phase.isReturned = true) →
        ∃ new, c.store.trades = db₀.trades ++ new ∧
          ∀ id, c.store.amountSold id = db₀.amountSold id + recordedAmount new id :=
  ⟨errorLeavesTables_iff, fun _ _ => counted_of_returned⟩

/-- One call, and the redelivery of its trigger. -/
def Sample.recordMoves : List (Move RecordTask Bool) :=
  [.spawn ⟨recordCall, .insert⟩, .act 0 true, .act 0 true,
    .spawn ⟨recordCall, .insert⟩, .act 1 true, .act 1 true]

theorem recordTrade_consistent_iff_sample :
    ∃ (c : Config Database RecordTask) (new : List TradeRow), c.tasks.length = 2 ∧
      c.store.trades = Sample.database.trades ++ new ∧
        ∀ id, c.store.amountSold id = Sample.database.amountSold id + recordedAmount new id := by
  obtain ⟨c, hrun, hc⟩ := exists_of_runIf (recordTable Sample.directEnv)
    (onActs UpdatesSucceed) ⟨Sample.database, []⟩ Sample.recordMoves
    (fun c => c.tasks.all (·.phase.isReturned) && c.tasks.length == 2) (by decide +kernel)
  simp only [Bool.and_eq_true, List.all_eq_true, beq_iff_eq] at hc
  obtain ⟨new, hnew⟩ := (recordTrade_consistent_iff _).2 _ c hrun hc.1
  exact ⟨c, new, hc.2, hnew⟩

/-- The insertion succeeds and the update fails; the redelivered trigger then
finds its row and leaves the counter at zero for good. -/
theorem recordTrade_strands_amount :
    (¬ ErrorLeavesTables Sample.directEnv
      Sample.recordCall true false true Sample.database) ∧
    ∃ c, (recordTable Sample.directEnv).Reaches
        ⟨Sample.database, []⟩ c ∧
      (c.tasks.all (·.phase.isReturned) && c.store.amountSold 1 == 0 &&
        recordedAmount c.store.trades 1 == 500) = true := by
  constructor
  · rw [errorLeavesTables_iff, not_not]
    exact ⟨by decide +kernel, rfl, by decide, by decide, rfl⟩
  · exact exists_of_run _ _ [.spawn ⟨Sample.recordCall, .insert⟩, .act 0 true, .act 0 false,
      .spawn ⟨Sample.recordCall, .insert⟩, .act 1 true, .act 1 true] _ (by decide +kernel)

end Engine

end Liquifier
