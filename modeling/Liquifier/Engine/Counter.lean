import Liquifier.Engine.Ledger

/-!
The counter of a session against its total.

A sell is clamped to what the snapshot of the session leaves, and it is added to
whatever the counter is by then. The two agree where the counter is still what
the snapshot said, and the clamp then keeps the counter within the total.
-/

namespace Liquifier.Engine

open TaskSystem TaskSystem.System

/-- Where the counter of a session is updated, it is still what the delivery has
read. -/
def FreshCounter (c : Config World Task) (t : Task) (a : Act) : Prop :=
  ∀ p ∈ t.pending, p.inserted = true → a.fails = false →
    c.store.db.amountSold p.sessionId = p.sent.session.amountSold

instance (c : Config World Task) (t : Task) (a : Act) : Decidable (FreshCounter c t a) :=
  inferInstanceAs (Decidable (∀ p ∈ t.pending, _ → _ → _))

/-- No session has sold more than its total. -/
def WithinTotals (db : Database) : Prop := ∀ r ∈ db.sessions, r.amountSold ≤ r.totalAmount

variable {env : Environment}

/-- A sale that was planned on the amount that the counter has. -/
theorem sold_of_fresh {event : DexSwapEvent} {session : SessionInfo} {ans : SwapAnswers}
    {plan : SwapPlan} (h : Planned env event session ans plan)
    (hle : session.amountSold ≤ session.totalAmount) : plan.sold = session.amountSold := by
  rw [h.sold_eq]
  refine U256.ofNumeric_of_lt (Nat.lt_of_le_of_lt hle ?_)
  rw [← h.total_eq_totalAmount, h.total_eq]
  exact U256.ofNumeric_lt _

/-- In a run in which every update of a counter finds what its delivery has read,
no session sells more than its total. -/
theorem withinTotals_of_freshCounter {db : Database} {c : Config World Task}
    (hdb : WithinTotals db) (h : (engine env).Run (onActs FreshCounter) ⟨boot db, []⟩ c) :
    WithinTotals c.store.db := by
  refine h.store_invariant (I := fun w => WithinTotals w.db) hdb ?_
  intro c i a t w' t' hrun hI hg hacts r' hr'
  obtain ⟨r, hr, hid, htotal⟩ := (engine_move hacts).later.exists_old hr'
  have hle := hI r hr
  rw [← Database.amountSold_of_mem hr, hid, htotal] at hle
  rw [← Database.amountSold_of_mem hr']
  have hfresh : FreshCounter c t a := onActs_acts hg hacts
  have hsound := fun p => pending_sound hrun hacts.mem (p := p)
  have hmove := (engine_move hacts).ledger
  simp only [FreshCounter] at hfresh
  generalize t.pending = p, t'.pending = p' at hmove hfresh hsound
  cases hmove with
  | idle h => rw [h.amountSold]; exact hle
  | submitted _ _ hdb => rw [hdb]; exact hle
  | lost _ _ _ hdb => rw [hdb]; exact hle
  | inserted _ _ hsold => rw [hsold]; exact hle
  | conflict h => rw [h.amountSold]; exact hle
  | dropped h => rw [h.amountSold]; exact hle
  | @updated event sent _ hact _ _ hsold =>
      obtain ⟨hsnapshot, ans, hplan⟩ := hsound _ rfl
      rw [hsold hsnapshot.mem_ids]
      by_cases hsession : r'.id = sent.session.id
      · have hread : c.store.db.amountSold sent.session.id = sent.session.amountSold :=
          hfresh _ rfl rfl hact
        have hsame : r'.totalAmount = sent.session.totalAmount := by
          rw [← htotal, hsnapshot.totalAmount_eq hr (hid.trans hsession)]
        rw [hsession, hread, hsame] at hle
        have hbound := hplan.newSold_le
        rw [sold_of_fresh hplan hle, hplan.total_eq_totalAmount] at hbound
        simpa [hsession, hread, hsame] using hbound
      · simpa [hsession] using hle

/-- Two buys are sold into one after the other, each on a new snapshot. -/
theorem withinTotals_of_freshCounter_sample :
    ∃ c : Config World Task, c.store.db.amountSold 1 = 800 ∧ WithinTotals c.store.db := by
  obtain ⟨c, hrun, hc⟩ := exists_of_runIf (engine Sample.directEnv) (onActs FreshCounter)
    ⟨boot Sample.database, []⟩
    (Sample.sell 0 "0xa1" "0xb1" (Sample.session 1) ++ Sample.statements 0 [true, true] ++
      Sample.sell 1 "0xa2" "0xb2" { Sample.session 1 with amountSold := 500 } ++
      Sample.statements 1 [true, true])
    (fun c => c.store.db.amountSold 1 == 800) (by decide +kernel)
  exact ⟨c, by simpa using hc, withinTotals_of_freshCounter (by unfold WithinTotals; decide) hrun⟩

/-- Two buys are sold into on the same snapshot: 500 and 500 of 800. -/
theorem session_oversold :
    ¬ ∀ c, (engine Sample.directEnv).Reaches ⟨boot Sample.database, []⟩ c →
      WithinTotals c.store.db := by
  intro h
  obtain ⟨c, hrun, hc⟩ := exists_of_run (engine Sample.directEnv)
    ⟨boot Sample.database, []⟩
    (Sample.sell 0 "0xa1" "0xb1" (Sample.session 1) ++
      Sample.sell 1 "0xa2" "0xb2" (Sample.session 1) ++ Sample.statements 0 [true, true] ++
      Sample.statements 1 [true, true])
    (fun c => c.store.db.sessions.any fun r => r.totalAmount < r.amountSold)
    (by decide +kernel)
  simp only [List.any_eq_true, decide_eq_true_eq] at hc
  obtain ⟨r, hr, hlt⟩ := hc
  exact absurd (h c hrun r hr) (Nat.not_le_of_lt hlt)

end Liquifier.Engine
