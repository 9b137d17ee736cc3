import Liquifier.Engine.Receipts

/-!
The life of a row of `trades`.

Every move makes of a row one of the few things that `RowStep` lists. Neither the
order of the statements nor the number of the tasks that send them enters into this.
-/

namespace Liquifier.Engine

open TaskSystem TaskSystem.System

variable {env : Environment}

/-- A row has a reason exactly where it is failed. -/
def Reasoned (r : TradeRow) : Prop := r.failureReason.isSome = true ↔ r.status = .failed

instance (r : TradeRow) : Decidable (Reasoned r) :=
  inferInstanceAs (Decidable (r.failureReason.isSome = true ↔ r.status = .failed))

namespace RowStep

variable {r r' : TradeRow}

theorem reasoned (h : RowStep r r') (hr : Reasoned r) : Reasoned r' := by
  unfold Reasoned at hr ⊢
  cases h with
  | kept _ hstatus hreason => rw [hstatus, hreason, hr]
  | confirmed _ hstatus hreason => simp [hstatus, hreason]
  | failed _ _ hstatus hreason => simp [hstatus, hreason]

theorem of_submitted (h : RowStep r r') (hr : r.status = .submitted) :
    r'.status ∈ [.submitted, .confirmed, .failed] := by
  cases h with
  | kept _ hstatus => simp [hstatus, hr]
  | confirmed _ hstatus => simp [hstatus]
  | failed _ _ hstatus => simp [hstatus]

end RowStep

theorem Inserted.reasoned {r : TradeRow} (h : Inserted r) : Reasoned r := by
  simp [Reasoned, h.1, h.2]

/-! ### Runs -/

theorem engine_rowsStep {c c' : Config World Task} {m : Move Task Act}
    (h : (engine env).next c m = some c') :
    RowsStep c.store.db.trades c'.store.db.trades := by
  rcases next_cases h with ⟨t, rfl, _, rfl⟩ | ⟨i, a, t, w', t', rfl, hacts, rfl⟩
  · exact rowsStep_refl _
  · exact (engine_move hacts).rowsStep

theorem engine_reasoned {db : Database} {c : Config World Task}
    (hdb : ∀ r ∈ db.trades, Reasoned r) (h : (engine env).Reaches ⟨boot db, []⟩ c) :
    ∀ r ∈ c.store.db.trades, Reasoned r := by
  refine h.invariant (I := fun c => ∀ r ∈ c.store.db.trades, Reasoned r) hdb ?_
  intro c c' m _ hI _ hn
  exact (engine_rowsStep hn).forall_mem (fun _ _ => RowStep.reasoned) (fun _ => Inserted.reasoned) hI

theorem engine_confirmed {c c' : Config World Task} (h : (engine env).Reaches c c') {id : Uuid}
    (hid : Confirmed c.store.db id) : Confirmed c'.store.db id := by
  refine h.invariant (I := fun c => Confirmed c.store.db id) hid ?_
  intro c c' m _ hI _ hn
  exact hI.rowsStep (engine_rowsStep hn)

/-- In every run of deliveries, passes and status requests, statement by statement: a
row has a reason exactly where it is failed, a confirmed row is confirmed in every
later state, and no move takes a submitted row anywhere but to the statuses
'confirmed' and 'failed'. -/
theorem tradeStatus_of_reaches {db : Database} {c : Config World Task}
    (hdb : ∀ r ∈ db.trades, Reasoned r) (h : (engine env).Reaches ⟨boot db, []⟩ c) :
    (∀ r ∈ c.store.db.trades, Reasoned r) ∧
      (∀ c', (engine env).Reaches c c' →
        ∀ id, Confirmed c.store.db id → Confirmed c'.store.db id) ∧
      ∀ m c', (engine env).next c m = some c' →
        ∀ r ∈ c.store.db.trades, r.status = .submitted →
          ∃ r' ∈ c'.store.db.trades, r'.id = r.id ∧
            r'.status ∈ [.submitted, .confirmed, .failed] := by
  refine ⟨engine_reasoned hdb h, fun c' hc' id => engine_confirmed hc', ?_⟩
  intro m c' hn r hr hsubmitted
  obtain ⟨r', hr', hstep⟩ := (engine_rowsStep hn).old r hr
  exact ⟨r', hr', hstep.id_eq, hstep.of_submitted hsubmitted⟩

/-- The delivery gives its trade up while a pass holds the receipt of the executed swap,
and the pass then confirms it. -/
theorem tradeStatus_of_reaches_sample :
    ∃ c : Config World Task, (∃ r ∈ c.store.db.trades, r.status = .confirmed) ∧
      (∀ r ∈ c.store.db.trades, Reasoned r) ∧
        ∀ c', (engine Sample.directEnv).Reaches c c' →
          ∀ id, Confirmed c.store.db id → Confirmed c'.store.db id := by
  obtain ⟨c, hrun, hc⟩ := exists_of_run (engine Sample.directEnv) ⟨boot Sample.database, []⟩
    (Sample.sell 0 "0xa1" "0xb1" (Sample.session 1) ++ Sample.statements 0 [true, true] ++
      Sample.pass 1 (.success none) ++ Sample.settle 0 (.error "timeout") ++
      Sample.statements 1 [true])
    (fun c => c.store.db.trades.any fun r => r.status = .confirmed) (by decide +kernel)
  simp only [List.any_eq_true, decide_eq_true_eq] at hc
  have hstatus := tradeStatus_of_reaches (by decide) hrun
  exact ⟨c, hc, hstatus.1, hstatus.2.1⟩

end Liquifier.Engine
