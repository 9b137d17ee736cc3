import Liquifier.Engine.RecordOnce

/-!
What the calls of `record_trade` have booked for one session.

A call books its trade by its second statement. Every trade is in the hands of one call,
so a sum over the calls that leaves out the trades with a property loses exactly the
amount of a trade when the trade gets the property.
-/

namespace Liquifier

namespace Database

/-- `total_amount` of a session, zero where there is none. -/
def totalAmount (db : Database) (id : Uuid) : ℕ :=
  ((Table.get (·.id) db.sessions id).map (·.totalAmount)).getD 0

theorem totalAmount_congr {db db' : Database} (h : db'.sessions = db.sessions) (id : Uuid) :
    db'.totalAmount id = db.totalAmount id := by
  rw [totalAmount, h, totalAmount]

theorem totalAmount_addAmountSold (db : Database) (id other : Uuid) (amount : ℕ) :
    (db.addAmountSold id amount).totalAmount other = db.totalAmount other := by
  rw [totalAmount, sessions_addAmountSold, Table.get_update fun r => by rfl, totalAmount]
  cases Table.get (·.id) db.sessions other with
  | none => rfl
  | some r => by_cases h : other = id <;> simp [h]

end Database

namespace Engine

open TaskSystem TaskSystem.System

variable {env : Environment}

namespace RecordTask

/-- The trade that the call has inserted. -/
def inserted (t : RecordTask) : Option Uuid :=
  match t.phase with
  | .update tradeId => some tradeId
  | .returned (.ok ⟨tradeId, true⟩) => some tradeId
  | _ => none

/-- The trade that the call has booked for the session. -/
def booked (id : Uuid) (t : RecordTask) : Option Uuid :=
  match t.phase with
  | .returned (.ok ⟨tradeId, true⟩) => if t.call.session.id = id then some tradeId else none
  | _ => none

/-- What the call has booked for the session by a trade without the property. -/
def bookedOutside (id : Uuid) (seen : Uuid → Bool) (t : RecordTask) : ℕ :=
  match t.booked id with
  | some tradeId => if seen tradeId then 0 else t.call.sellAmount
  | none => 0

variable {id tradeId : Uuid} {t : RecordTask}

theorem booked_eq_some : t.booked id = some tradeId ↔
    t.phase = .returned (.ok ⟨tradeId, true⟩) ∧ t.call.session.id = id := by
  unfold booked
  split
  · rename_i heq
    rw [heq]
    simp [and_comm]
  · rename_i hne
    simp only [reduceCtorEq, false_iff, not_and]
    intro hphase
    exact absurd hphase (hne tradeId)

theorem inserted_of_booked (h : t.booked id = some tradeId) : t.inserted = some tradeId := by
  rw [inserted, (booked_eq_some.mp h).1]

theorem bookedOutside_of_booked (h : t.booked id = some tradeId) (seen : Uuid → Bool) :
    t.bookedOutside id seen = if seen tradeId then 0 else t.call.sellAmount := by
  rw [bookedOutside, h]

theorem bookedOutside_of_not_booked (h : t.booked id = none) (seen : Uuid → Bool) :
    t.bookedOutside id seen = 0 := by
  rw [bookedOutside, h]

end RecordTask

/-- The trade and the amount that a move books for the session. -/
def books (id : Uuid) (c : Config Database RecordTask) : Move RecordTask Bool → Option (Uuid × ℕ)
  | .act i true =>
      match c.tasks[i]? with
      | some ⟨call, .update tradeId⟩ =>
          if call.session.id = id then some (tradeId, call.sellAmount) else none
      | _ => none
  | _ => none

/-! ### One call for each trade -/

section Runs

variable {db₀ : Database} {c c' : Config Database RecordTask}

theorem mem_trades_of_inserted (h : (recordTable env).Reaches ⟨db₀, []⟩ c) {t : RecordTask}
    (ht : t ∈ c.tasks) {tradeId : Uuid} (hinserted : t.inserted = some tradeId) :
    tradeId ∈ c.store.trades.map (·.id) := by
  have hknows := recordTable_knows h t ht
  unfold RecordTask.inserted at hinserted
  unfold RecordTask.Knows at hknows
  split at hinserted
  · rename_i hphase
    cases hinserted
    rw [hphase] at hknows
    obtain ⟨r, hr, _, hid⟩ := hknows
    exact List.mem_map.mpr ⟨r, hr, hid⟩
  · rename_i hphase
    cases hinserted
    rw [hphase] at hknows
    obtain ⟨r, hr, _, hid⟩ := hknows
    exact List.mem_map.mpr ⟨r, hr, hid⟩
  · cases hinserted

/-- No trade is in the hands of two calls. -/
theorem countP_inserted_le_one (h : (recordTable env).Reaches ⟨db₀, []⟩ c) (tradeId : Uuid) :
    c.tasks.countP (·.inserted = some tradeId) ≤ 1 := by
  refine h.exclusive (by simp) ?_ ?_
  · rintro ⟨call, phase⟩ hentry
    cases phase with
    | insert => rfl
    | _ => cases hentry
  · rintro c i ok ⟨call, phase⟩ db' ⟨call', phase'⟩ hrun _ hacts hholds
    obtain ⟨rfl, hmove⟩ := recordTable_move hacts
    simp only [decide_eq_true_eq] at hholds ⊢
    cases hmove with
    | inserted =>
        right
        intro u hu
        rw [decide_eq_false_iff_not]
        intro hother
        have hrow := mem_trades_of_inserted hrun hu hother
        cases hholds
        exact c.store.freshTradeId_notMem hrow
    | updated => exact .inl hholds
    | _ => cases hholds

/-- When a trade of a call gets the property, its amount drops out. -/
theorem tally_bookedOutside_insert (h : (recordTable env).Reaches ⟨db₀, []⟩ c) {t : RecordTask}
    (ht : t ∈ c.tasks) {id tradeId : Uuid} (hbooked : t.booked id = some tradeId)
    {seen seen' : Uuid → Bool} (hnew : seen tradeId = false)
    (hseen : ∀ u, seen' u = (u == tradeId || seen u)) :
    tally (RecordTask.bookedOutside id seen') c.tasks + t.call.sellAmount =
      tally (RecordTask.bookedOutside id seen) c.tasks := by
  obtain ⟨before, after, htasks⟩ := List.append_of_mem ht
  have hone := countP_inserted_le_one h tradeId
  rw [htasks, List.countP_append, List.countP_cons,
    if_pos (decide_eq_true (RecordTask.inserted_of_booked hbooked))] at hone
  have hothers : ∀ ts : List RecordTask, ts.countP (·.inserted = some tradeId) = 0 →
      tally (RecordTask.bookedOutside id seen') ts =
        tally (RecordTask.bookedOutside id seen) ts := by
    intro ts hnone
    refine tally_congr fun u hu => ?_
    cases hcase : u.booked id with
    | none =>
        rw [RecordTask.bookedOutside_of_not_booked hcase,
          RecordTask.bookedOutside_of_not_booked hcase]
    | some v =>
        have hne : v ≠ tradeId := by
          rintro rfl
          exact List.countP_eq_zero.mp hnone u hu
            (decide_eq_true (RecordTask.inserted_of_booked hcase))
        rw [RecordTask.bookedOutside_of_booked hcase, RecordTask.bookedOutside_of_booked hcase,
          hseen, beq_eq_false_iff_ne.mpr hne, Bool.false_or]
  have hbefore := hothers before (by omega)
  have hafter := hothers after (by omega)
  simp only [htasks, tally_append, tally_cons, hbefore, hafter,
    RecordTask.bookedOutside_of_booked hbooked, hnew, hseen, BEq.rfl, Bool.true_or]
  simp only [if_true, Bool.false_eq_true, if_false]
  omega

/-! ### One move -/

/-- What a move makes of a call that has returned. -/
theorem getElem?_of_booked {m : Move RecordTask Bool} (h : (recordTable env).next c m = some c')
    {i : ℕ} {t : RecordTask} (ht : c.tasks[i]? = some t) {id tradeId : Uuid}
    (hbooked : t.booked id = some tradeId) : c'.tasks[i]? = some t := by
  rcases next_cases h with ⟨u, rfl, _, rfl⟩ | ⟨j, ok, u, db', u', rfl, hacts, rfl⟩
  · rw [List.getElem?_append_left (List.getElem?_eq_some_iff.mp ht).1]
    exact ht
  · have hne : j ≠ i := by
      rintro rfl
      have hstep := hacts.step
      cases hacts.at_index.symm.trans ht
      simp [recordTable, recordStep, (RecordTask.booked_eq_some.mp hbooked).1] at hstep
    rw [List.getElem?_set_ne hne]
    exact ht

/-- A call that a move finds booked was booked before, or the move books it. -/
theorem mem_of_booked {m : Move RecordTask Bool} (h : (recordTable env).next c m = some c')
    {id : Uuid} (hbooks : books id c m = none) {t : RecordTask} (ht : t ∈ c'.tasks)
    (hbooked : (t.booked id).isSome) : t ∈ c.tasks := by
  rcases next_cases h with ⟨u, rfl, hentry, rfl⟩ | ⟨i, ok, u, db', u', rfl, hacts, rfl⟩
  · rcases List.mem_append.mp ht with ht | ht
    · exact ht
    · obtain rfl := List.mem_singleton.mp ht
      obtain ⟨call, phase⟩ := t
      cases phase with
      | insert => cases hbooked
      | _ => cases hentry
  · rcases List.mem_or_eq_of_mem_set ht with ht | rfl
    · exact ht
    · have hindex := hacts.at_index
      obtain ⟨call, phase⟩ := u
      obtain ⟨call', phase'⟩ := t
      obtain ⟨rfl, hmove⟩ := recordTable_move hacts
      simp only at hmove
      cases hmove with
      | updated =>
          simp only [books, hindex, ite_eq_right_iff, reduceCtorEq, imp_false] at hbooks
          simp [RecordTask.booked, hbooks] at hbooked
      | _ => cases hbooked

/-- A call that has booked nothing before and after counts nothing. -/
theorem tally_bookedOutside_set {ts : List RecordTask} {i : ℕ} {t : RecordTask}
    (ht : ts[i]? = some t) (t' : RecordTask) (id : Uuid) (hold : t.booked id = none) (hnew : t'.booked id = none)
    (seen : Uuid → Bool) :
    tally (RecordTask.bookedOutside id seen) (ts.set i t') =
      tally (RecordTask.bookedOutside id seen) ts := by
  obtain ⟨r, hr, hset⟩ := tally_set (RecordTask.bookedOutside id seen) ht t'
  rw [hr, hset, RecordTask.bookedOutside_of_not_booked hold,
    RecordTask.bookedOutside_of_not_booked hnew]

/-- A move changes the amount sold of a session, and what is booked for it, by what it
books. -/
theorem books_spec (h : (recordTable env).Reaches ⟨db₀, []⟩ c) {m : Move RecordTask Bool}
    (hnext : (recordTable env).next c m = some c') (id : Uuid) :
    c'.store.totalAmount id = c.store.totalAmount id ∧
      c'.store.amountSold id = c.store.amountSold id + ((books id c m).map (·.2)).getD 0 ∧
      ∀ seen, tally (RecordTask.bookedOutside id seen) c'.tasks =
        tally (RecordTask.bookedOutside id seen) c.tasks +
          ((books id c m).map fun b => if seen b.1 then 0 else b.2).getD 0 := by
  rcases next_cases hnext with ⟨⟨call, phase⟩, rfl, hentry, rfl⟩ |
    ⟨i, ok, ⟨call, phase⟩, db', ⟨call', phase'⟩, rfl, hacts, rfl⟩
  · refine ⟨rfl, rfl, fun seen => ?_⟩
    have hnone : RecordTask.booked id ⟨call, phase⟩ = none := by
      cases phase with
      | insert => rfl
      | _ => cases hentry
    rw [tally_append, tally_cons, RecordTask.bookedOutside_of_not_booked hnone]
    rfl
  · have hsession := recordTable_update_session h _ hacts.mem
    rw [← recordTable_session_ids h] at hsession
    have hindex := hacts.at_index
    obtain ⟨rfl, hmove⟩ := recordTable_move hacts
    -- the statements that leave the amounts alone
    have hother := tally_bookedOutside_set hindex ⟨call', phase'⟩ id
    simp only at hmove
    cases hmove with
    | inserted _ _ hsessions =>
        refine ⟨Database.totalAmount_congr hsessions id, ?_, fun seen => ?_⟩
        · simp [books, hindex, Database.amountSold_congr hsessions]
        · simp [books, hindex, hother rfl rfl seen]
    | @updated tradeId =>
        refine ⟨Database.totalAmount_addAmountSold _ _ _ _, ?_, fun seen => ?_⟩
        · rw [Database.amountSold_addAmountSold (hsession rfl)]
          by_cases hid : call'.session.id = id
          · simp [books, hindex, hid]
          · simp [books, hindex, hid, Ne.symm hid]
        · by_cases hid : call'.session.id = id
          · obtain ⟨r, hr, hset⟩ := tally_set (RecordTask.bookedOutside id seen) hindex
              ⟨call', .returned (.ok ⟨tradeId, true⟩)⟩
            rw [hr, hset]
            simp [books, hindex, hid, RecordTask.bookedOutside, RecordTask.booked]
            omega
          · have hnone : RecordTask.booked id
                ⟨call', .returned (.ok ⟨tradeId, true⟩)⟩ = none := if_neg hid
            simp [books, hindex, hid, hother rfl hnone seen]
    | insertError => cases ok <;> simp [books, hindex, hother rfl rfl]
    | conflict => simp [books, hindex, hother rfl rfl]
    | updateError => simp [books, hother rfl rfl]
    | selected => simp [books, hindex, hother rfl rfl]
    | selectError => cases ok <;> simp [books, hindex, hother rfl rfl]

end Runs

end Engine

end Liquifier
