import Liquifier.Engine.RecordTable

/-!
Every trigger is recorded once, whatever the order of the statements.

The unique index lets one insertion of a trigger through. The call that made it
is the one that answers `inserted`; a call that comes later finds the row, and the
row stays. So where no statement fails, every call whose values parse answers, and once
all calls have returned, the answers agree with the rows and the counters with the
rows that are new.
-/

namespace Liquifier.Engine

open TaskSystem TaskSystem.System

variable {env : Environment}

/-! ### Triggers -/

theorem asI32_injective {m n : UInt32} (h : asI32 m = asI32 n) : m = n := by
  have hm := m.toNat_lt
  have hn := n.toNat_lt
  apply UInt32.toNat_inj.mp
  unfold asI32 at h
  split at h <;> split at h <;> omega

/-- The session, the transaction, the pool and the log index of a call. -/
def RecordCall.key (call : RecordCall) : Uuid × String × String × UInt32 :=
  (call.session.id, call.event.txHash, call.event.poolAddress, call.event.logIndex)

/-- The columns of the unique index tell triggers apart as the events do. -/
theorem RecordCall.key_eq_iff {call other : RecordCall} :
    other.key = call.key ↔ other.trigger = call.trigger := by
  constructor
  · intro h
    simp only [key, Prod.mk.injEq] at h
    obtain ⟨hsession, htx, hpool, hlog⟩ := h
    rw [trigger, trigger, DexSwapEvent.triggerKey, DexSwapEvent.triggerKey, hsession, htx, hpool,
      hlog]
  · intro h
    simp only [trigger, DexSwapEvent.triggerKey, TriggerKey.mk.injEq] at h
    obtain ⟨hsession, htx, hpool, hlog⟩ := h
    rw [key, key, hsession, htx, hpool, asI32_injective hlog]

/-! ### What the calls have answered -/

namespace RecordTask

/-- The answer of a call that has returned without an error. -/
def answer (t : RecordTask) : Option RecordedTrade :=
  match t.phase with
  | .returned (.ok trade) => some trade
  | _ => none

def answersInserted (t : RecordTask) : Bool := t.answer.any (·.inserted)

theorem phase_of_answer {t : RecordTask} (h : t.answer.isSome) :
    ∃ trade, t.phase = .returned (.ok trade) := by
  unfold answer at h
  split at h
  · exact ⟨_, ‹_›⟩
  · cases h

/-- The insertion of the call took effect. -/
def hasInserted (t : RecordTask) : Bool := t.phase.isUpdate || t.answersInserted

end RecordTask

/-- The next statement of the call is carried out: the database is there for it, and an
insertion finds its session. -/
def StatementSucceeds (c : Config Database RecordTask) (t : RecordTask) (ok : Bool) : Prop :=
  ok = true ∧ (t.phase.isInsert = true → t.call.session.id ∈ c.store.sessions.map (·.id))

instance (c : Config Database RecordTask) (t : RecordTask) (ok : Bool) :
    Decidable (StatementSucceeds c t ok) :=
  inferInstanceAs (Decidable (_ ∧ (_ → _)))

/-- The amount of the event is a decimal number. -/
def AmountParses (env : Environment) (t : RecordTask) : Prop :=
  (env.decimalFromStr t.call.event.amountOut).isSome

instance (env : Environment) (t : RecordTask) : Decidable (AmountParses env t) :=
  inferInstanceAs (Decidable (_ = true))

/-- All calls have returned. -/
def AllReturned (c : Config Database RecordTask) : Prop := ∀ t ∈ c.tasks, t.phase.isReturned = true

instance (c : Config Database RecordTask) : Decidable (AllReturned c) :=
  inferInstanceAs (Decidable (∀ t ∈ c.tasks, t.phase.isReturned = true))

/-- The calls have recorded every trigger once, on top of the rows of `db₀`. -/
structure RecordedOnce (db₀ : Database) (c : Config Database RecordTask) : Prop where
  one_row : ∀ t ∈ c.tasks, c.store.trades.countP (·.trigger = t.call.trigger) = 1
  /-- For a new trigger, one of its calls has answered `inserted`. -/
  inserted_once : ∀ t ∈ c.tasks, t.call.trigger ∉ db₀.trades.map TradeRow.trigger →
    c.tasks.countP (fun u => u.call.key = t.call.key && u.answersInserted) = 1
  /-- A trigger that had its row before is answered as a duplicate. -/
  not_inserted : ∀ t ∈ c.tasks, t.call.trigger ∈ db₀.trades.map TradeRow.trigger →
    t.answersInserted = false
  answers_row : ∀ t ∈ c.tasks, ∃ r ∈ c.store.trades, r.trigger = t.call.trigger ∧
    t.answer.map (·.tradeId) = some r.id
  counted : ∃ new, c.store.trades = db₀.trades ++ new ∧
    ∀ id, c.store.amountSold id = db₀.amountSold id + recordedAmount new id

/-! ### The row of a call -/

/-- What a call knows of the rows: it has inserted its row, it has found that there is
one, or it has answered with the id of the row. -/
def RecordTask.Knows (db : Database) (t : RecordTask) : Prop :=
  match t.phase with
  | .insert => True
  | .update id => ∃ r ∈ db.trades, r.trigger = t.call.trigger ∧ r.id = id
  | .select => t.call.trigger ∈ db.trades.map TradeRow.trigger
  | .returned (.ok trade) => ∃ r ∈ db.trades, r.trigger = t.call.trigger ∧ r.id = trade.tradeId
  | .returned (.error _) => True

theorem RecordTask.Knows.append {db db' : Database} {t : RecordTask} (h : t.Knows db)
    (hrows : ∃ new, db'.trades = db.trades ++ new) : t.Knows db' := by
  obtain ⟨new, hnew⟩ := hrows
  unfold Knows at h ⊢
  split at h
  · trivial
  · obtain ⟨r, hr, h⟩ := h
    exact ⟨r, hnew ▸ List.mem_append_left new hr, h⟩
  · rw [hnew, List.map_append]
    exact List.mem_append_left _ h
  · obtain ⟨r, hr, h⟩ := h
    exact ⟨r, hnew ▸ List.mem_append_left new hr, h⟩
  · trivial

theorem selectTradeByTrigger_eq_some {db : Database} {key : TriggerKey} {id : Uuid}
    (h : db.selectTradeByTrigger key = some id) : ∃ r ∈ db.trades, r.trigger = key ∧ r.id = id := by
  obtain ⟨r, hr, rfl⟩ := Option.map_eq_some_iff.mp h
  have hmem := List.mem_filter.mp (List.mem_of_getLast? hr)
  exact ⟨r, hmem.1, by simpa using hmem.2, rfl⟩

theorem exists_of_trigger_mem {db : Database} {key : TriggerKey}
    (h : key ∈ db.trades.map TradeRow.trigger) : ∃ id, db.selectTradeByTrigger key = some id := by
  obtain ⟨r, hr, htrigger⟩ := List.mem_map.mp h
  have hmem : r ∈ db.trades.filter fun t => t.trigger = key :=
    List.mem_filter.mpr ⟨hr, by simpa using htrigger⟩
  obtain ⟨last, hlast⟩ := Option.isSome_iff_exists.mp
    (List.getLast?_isSome.mpr (List.ne_nil_of_mem hmem))
  exact ⟨last.id, by rw [Database.selectTradeByTrigger, hlast, Option.map_some]⟩

/-- The second look-up answers with the row that is there. -/
theorem selected_row {call : RecordCall} {ok : Bool} {db db' : Database} {trade : RecordedTrade}
    (h : recordStep env call ok db .select = some (db', .returned (.ok trade))) :
    db' = db ∧ ∃ r ∈ db.trades, r.trigger = call.trigger ∧ r.id = trade.tradeId := by
  simp only [recordStep] at h
  split at h
  · rename_i hselect
    cases h
    rw [Option.ite_none_right_eq_some] at hselect
    exact ⟨rfl, selectTradeByTrigger_eq_some hselect.2⟩
  · cases h

section Runs

variable {db₀ : Database} {c : Config Database RecordTask}

theorem recordTable_knows (h : (recordTable env).Reaches ⟨db₀, []⟩ c) :
    ∀ t ∈ c.tasks, t.Knows c.store := by
  refine h.assertions (J := fun db t => t.Knows db) (by simp) ?_ ?_ ?_
  · rintro c ⟨call, phase⟩ _ _ hentry
    cases phase with
    | insert => trivial
    | _ => cases hentry
  · rintro c i ok ⟨call, phase⟩ db' ⟨call', phase'⟩ _ hJ _ hacts
    have hknows := hJ _ hacts.mem
    have hstep := hacts.step
    obtain ⟨rfl, hmove⟩ := recordTable_move hacts
    cases hmove with
    | insertError => trivial
    | inserted _ _ _ htrades =>
        exact ⟨_, htrades ▸ List.mem_append_right _ List.mem_cons_self, rfl, rfl⟩
    | conflict hold => exact hold
    | updated => exact hknows
    | updateError => trivial
    | selected =>
        simp only [recordTable, Option.map_eq_some_iff, Prod.mk.injEq, RecordTask.mk.injEq] at hstep
        obtain ⟨⟨db', phase⟩, hrec, rfl, -, rfl⟩ := hstep
        exact (selected_row hrec).2
    | selectError => trivial
  · intro c i ok t db' t' _ hJ _ hacts u hu
    exact (hJ u hu).append (recordTable_move hacts).2.trades_append

/-! ### One insertion for each row -/

/-- The rows of a trigger are the old ones and those that the calls have inserted. -/
theorem count_add_inserted (h : (recordTable env).Run (onActs UpdatesSucceed) ⟨db₀, []⟩ c)
    (key : TriggerKey) :
    db₀.trades.countP (·.trigger = key) +
        c.tasks.countP (fun t => t.call.trigger = key && t.hasInserted) =
      c.store.trades.countP (·.trigger = key) := by
  rw [← tally_ite fun t : RecordTask => decide (t.call.trigger = key) && t.hasInserted]
  refine h.tally_balance (Φ := fun _ => db₀.trades.countP (·.trigger = key))
    (Ψ := fun db => db.trades.countP (·.trigger = key)) (by simp) ?_ ?_
  · rintro c ⟨call, phase⟩ _ _ hentry
    cases phase with
    | insert => simp [RecordTask.hasInserted, RecordTask.answersInserted, RecordTask.answer,
        RecordPhase.isUpdate]
    | _ => cases hentry
  · rintro c i ok ⟨call, phase⟩ db' ⟨call', phase'⟩ hrun _ hg hacts
    have hok : phase.isUpdate = true → ok = true := onActs_acts hg hacts
    obtain ⟨rfl, hmove⟩ := recordTable_move hacts
    simp only [RecordTask.hasInserted, RecordTask.answersInserted, RecordTask.answer] at hmove ⊢
    cases hmove with
    | inserted _ _ _ htrades =>
        refine ⟨if call'.trigger = key then 1 else 0, by simp [RecordPhase.isUpdate], ?_⟩
        rw [htrades, List.countP_append, List.countP_singleton]
        simp only [decide_eq_true_eq]
        rfl
    | updated => exact ⟨0, by simp [RecordPhase.isUpdate], rfl⟩
    | updateError => cases hok rfl
    | _ => exact ⟨0, by simp [RecordPhase.isUpdate], rfl⟩

/-- No call returns an error: what it inserts has a session, and a trigger that is found
twice has its row. -/
theorem recordTable_unfailed (h : (recordTable env).Run (onActs StatementSucceeds) ⟨db₀, []⟩ c) :
    ∀ t ∈ c.tasks, AmountParses env t → t.phase.isReturned = true → t.answer.isSome := by
  refine h.assertions (J := fun _ t => AmountParses env t → t.phase.isReturned = true →
    t.answer.isSome) (by simp) ?_ ?_ ?_
  · rintro c ⟨call, phase⟩ _ _ hentry _ hreturned
    cases phase with
    | insert => cases hreturned
    | _ => cases hentry
  · rintro c i ok ⟨call, phase⟩ db' ⟨call', phase'⟩ hrun _ hg hacts hparses hreturned
    obtain ⟨rfl, hsession⟩ := onActs_acts hg hacts
    have hknows := recordTable_knows hrun.reaches _ hacts.mem
    have hstep := hacts.step
    obtain ⟨rfl, hmove⟩ := recordTable_move hacts
    cases hmove with
    | insertError h =>
        rcases h with h | h | h
        · cases h
        · rw [AmountParses, h] at hparses
          cases hparses
        · exact absurd (hsession rfl) h
    | inserted => cases hreturned
    | conflict => cases hreturned
    | updated => rfl
    | selected => rfl
    -- the row of the trigger is there
    | selectError =>
        obtain ⟨tradeId, hselect⟩ := exists_of_trigger_mem hknows
        simp [recordTable, recordStep, hselect] at hstep
  · intro c i ok t db' t' _ hJ _ _ u hu
    exact hJ u hu

theorem count_trigger {db : Database} {key : TriggerKey}
    (h : key ∈ db.trades.map TradeRow.trigger) : db.trades.countP (·.trigger = key) = 1 := by
  have hcount := List.count_eq_one_of_mem db.trade_triggers h
  rw [List.count, List.countP_map] at hcount
  rw [← hcount]
  refine List.countP_congr fun r _ => ?_
  simp

theorem count_trigger_eq_zero {db : Database} {key : TriggerKey}
    (h : key ∉ db.trades.map TradeRow.trigger) : db.trades.countP (·.trigger = key) = 0 := by
  refine List.countP_eq_zero.mpr fun r hr => ?_
  rw [decide_eq_true_eq]
  rintro rfl
  exact h (List.mem_map_of_mem hr)

end Runs

/-- Once all calls have returned, in whatever order their statements ran and none of them
failed, every trigger has one row, one call for each new trigger has answered `inserted`
and all others the id of that row as a duplicate, and the counters have grown by the rows
that are new. -/
theorem recordedOnce_of_allReturned {db₀ : Database} {c : Config Database RecordTask}
    (h : (recordTable env).Run (onActs StatementSucceeds) ⟨db₀, []⟩ c)
    (hparses : ∀ t ∈ c.tasks, AmountParses env t) (hc : AllReturned c) : RecordedOnce db₀ c := by
  have hreaches := h.reaches
  have hrun : (recordTable env).Run (onActs UpdatesSucceed) ⟨db₀, []⟩ c :=
    h.mono fun _ _ hg => onActs_mono (fun _ _ _ hok _ => hok.1) hg
  have hphase := fun t ht =>
    RecordTask.phase_of_answer (recordTable_unfailed h t ht (hparses t ht) (hc t ht))
  have hrow : ∀ t ∈ c.tasks, ∃ r ∈ c.store.trades, r.trigger = t.call.trigger ∧
      t.answer.map (·.tradeId) = some r.id := by
    intro t ht
    have hknows := recordTable_knows hreaches t ht
    obtain ⟨trade, ht⟩ := hphase t ht
    simp only [RecordTask.Knows, RecordTask.answer, ht] at hknows ⊢
    obtain ⟨r, hr, htrigger, hid⟩ := hknows
    exact ⟨r, hr, htrigger, congrArg some hid.symm⟩
  have hone : ∀ t ∈ c.tasks, c.store.trades.countP (·.trigger = t.call.trigger) = 1 := by
    intro t ht
    obtain ⟨r, hr, htrigger, _⟩ := hrow t ht
    exact count_trigger (htrigger ▸ List.mem_map_of_mem hr)
  have hinserted : ∀ t ∈ c.tasks, t.hasInserted = t.answersInserted := by
    intro t ht
    obtain ⟨trade, ht⟩ := hphase t ht
    simp [RecordTask.hasInserted, ht, RecordPhase.isUpdate]
  have hcount (t : RecordTask) := count_add_inserted hrun t.call.trigger
  refine ⟨hone, fun t ht hnew => ?_, fun t ht hold => ?_, hrow, ?_⟩
  -- the one row of a new trigger has been inserted by a call
  · have hsum := hcount t
    rw [count_trigger_eq_zero hnew, hone t ht, Nat.zero_add] at hsum
    rw [← hsum]
    refine List.countP_congr fun u hu => ?_
    rw [hinserted u hu]
    simp [RecordCall.key_eq_iff]
  -- the one row of an old trigger is the old one
  · have hsum := hcount t
    rw [count_trigger hold, hone t ht, Nat.add_eq_left, List.countP_eq_zero] at hsum
    rw [← hinserted t ht]
    simpa using hsum t ht
  · exact counted_of_returned hrun hc

/-- Two calls with the trigger of one event but different amounts: the insertion of
the second comes between the two statements of the first. -/
theorem recordedOnce_of_allReturned_sample :
    ∃ c : Config Database RecordTask, c.tasks.length = 2 ∧ RecordedOnce Sample.database c := by
  obtain ⟨c, hrun, hc⟩ := exists_of_runIf (recordTable Sample.directEnv)
    (onActs StatementSucceeds) ⟨Sample.database, []⟩
    [.spawn ⟨Sample.recordCall, .insert⟩,
      .spawn ⟨{ Sample.recordCall with sellAmount := 300 }, .insert⟩,
      .act 0 true, .act 1 true, .act 1 true, .act 0 true]
    (fun c => decide (c.tasks.length = 2 ∧ (∀ t ∈ c.tasks, AmountParses Sample.directEnv t) ∧
      AllReturned c)) (by decide +kernel)
  obtain ⟨hlength, hparses, hreturned⟩ := of_decide_eq_true hc
  exact ⟨c, hlength, recordedOnce_of_allReturned hrun hparses hreturned⟩

/-- A call whose amount is no number returns without a statement, and its trigger has no
row. -/
theorem not_recordedOnce_of_unparsed :
    ¬ ∀ env db₀ c, (recordTable env).Run (onActs StatementSucceeds) ⟨db₀, []⟩ c →
      AllReturned c → RecordedOnce db₀ c := by
  intro h
  let call : RecordCall :=
    { Sample.recordCall with event := { Sample.event "0xa" with amountOut := "many" } }
  obtain ⟨c, hrun, hc⟩ := exists_of_runIf (recordTable Sample.directEnv)
    (onActs StatementSucceeds) ⟨Sample.database, []⟩ [.spawn ⟨call, .insert⟩, .act 0 true]
    (fun c => decide (AllReturned c ∧ c.store.trades = []) && !c.tasks.isEmpty)
    (by decide +kernel)
  obtain ⟨hc, htasks⟩ := Bool.and_eq_true_iff.mp hc
  obtain ⟨hreturned, htrades⟩ := of_decide_eq_true hc
  obtain ⟨t, ht⟩ := List.exists_mem_of_ne_nil c.tasks (by simpa using htasks)
  have hrow := (h Sample.directEnv Sample.database c hrun hreturned).one_row t ht
  rw [htrades] at hrow
  cases hrow

end Liquifier.Engine
