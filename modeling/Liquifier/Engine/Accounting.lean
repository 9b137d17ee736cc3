import Liquifier.Engine.Ledger
import Mathlib.Algebra.BigOperators.Group.Multiset.Basic

/-!
Whether every swap that the node accepted is accounted for: one row of `trades`
with its hash, and its amount in the counter of its session.

The pipeline from the submission to the counter is three separate effects. It is
kept together by nothing but the success of each of them: the reply of the node
must arrive, both statements of `record_trade` must succeed, the worker must not
stop in between, and the trigger must not have a row of another swap already.
-/

namespace Liquifier.Engine

open TaskSystem TaskSystem.System

/-- The reply to a transaction that the node accepts reaches the engine. -/
def ReplyArrives : Act → Prop
  | .submit _ replies => decisiveReply replies ≠ some .lose
  | _ => True

instance (a : Act) : Decidable (ReplyArrives a) :=
  match a with
  | .submit _ replies => inferInstanceAs (Decidable (decisiveReply replies ≠ some .lose))
  | .query _ | .plan _ | .settle _ | .wallet _ | .call _ | .stop => isTrue trivial

/-- A sale that was submitted is recorded: no statement of its `record_trade`
fails, its values parse and the worker does not stop before the counter is
updated. -/
def Records (env : Environment) (t : Task) (a : Act) : Prop :=
  ∀ p ∈ t.pending, a.fails = false ∧ (env.decimalFromStr p.event.amountOut).isSome = true

instance (env : Environment) (t : Task) (a : Act) : Decidable (Records env t a) :=
  inferInstanceAs (Decidable (∀ p ∈ t.pending, _))

/-- The condition on the moves of a run under which every swap is accounted for. -/
def PipelineHolds (env : Environment) (c : Config World Task) (t : Task) (a : Act) : Prop :=
  FirstSell env c t a ∧ ReplyArrives a ∧ Records env t a

instance (env : Environment) (c : Config World Task) (t : Task) (a : Act) :
    Decidable (PipelineHolds env c t a) :=
  inferInstanceAs (Decidable (_ ∧ _ ∧ _))

/-- No delivery of the event is being processed. -/
def settled (c : Config World Task) (event : DexSwapEvent) : Bool :=
  c.tasks.all fun
    | .delivery d => d.event ≠ event || d.phase.isDone
    | _ => true

/-- Every accepted swap, of the events that are not being processed, has one row
with its hash, and the counters include their amounts. -/
structure Accounted (c : Config World Task) : Prop where
  one_row : ∀ tx ∈ c.store.accepted, settled c tx.event = true →
    c.store.db.trades.countP (fun t => t.sellTxHash = some tx.hash) = 1
  counted : ∀ r ∈ c.store.db.sessions,
    acceptedAmount (settled c) r.id c.store.accepted ≤ r.amountSold

variable {env : Environment}

/-! ### The rows are the accepted swaps -/

section Runs

variable {db : Database} {c : Config World Task}

theorem firstSell_of_pipelineHolds {c : Config World Task} {m : Move Task Act}
    (h : onActs (PipelineHolds env) c m) : onActs (FirstSell env) c m := by
  cases m with
  | spawn t => trivial
  | act i a => exact fun t ht => (h t ht).1

/-- The amounts that entries book for a session. -/
def entriesAmount (id : Uuid) : Multiset TradeEntry →+ ℕ :=
  Multiset.sumAddMonoidHom.comp
    (Multiset.mapAddMonoidHom fun e => if e.trigger.sessionId = id then e.sellAmount else 0)

theorem entriesAmount_singleton (id : Uuid) (e : TradeEntry) :
    entriesAmount id {e} = if e.trigger.sessionId = id then e.sellAmount else 0 := by
  simp [entriesAmount]

theorem entriesAmount_coe (id : Uuid) (entries : List TradeEntry) :
    entriesAmount id entries =
      Table.sumWhere (fun e => e.trigger.sessionId = id) (·.sellAmount) entries := by
  induction entries with
  | nil => rfl
  | cons e entries ih =>
      rw [Table.sumWhere_cons, ← ih, ← Multiset.cons_coe, ← Multiset.singleton_add, map_add,
        entriesAmount_singleton]
      simp only [decide_eq_true_eq]

theorem countP_accepted (key : TriggerKey) (accepted : List SwapTx) :
    (accepted.map SwapTx.entry : Multiset TradeEntry).countP (·.trigger = key) =
      acceptedCount key accepted := by
  rw [Multiset.coe_countP, List.countP_map]
  rfl

/-- A trigger with a row has no second swap, so none finds its row taken. -/
theorem no_conflict {c : Config World Task} {t : Task} (event : DexSwapEvent) (sent : Sent)
    (hbalance : (c.store.entries : Multiset TradeEntry) + tally Task.inserting c.tasks =
      (c.store.accepted.map SwapTx.entry : Multiset TradeEntry))
    (honce : acceptedCount (event.triggerKey sent.session.id) c.store.accepted ≤ 1)
    (ht : t ∈ c.tasks) (hp : t.pending = some ⟨event, sent, false⟩) :
    event.triggerKey sent.session.id ∉ c.store.entries.map (·.trigger) := by
  intro hold
  obtain ⟨i, hi⟩ := List.mem_iff_getElem?.mp ht
  obtain ⟨r, hts, -⟩ := tally_set Task.inserting hi t
  have hcount := congrArg
    (Multiset.countP (·.trigger = event.triggerKey sent.session.id)) hbalance
  rw [countP_accepted, hts, Task.inserting, hp, Multiset.countP_add, Multiset.countP_add] at hcount
  have hmine : Multiset.countP (·.trigger = event.triggerKey sent.session.id)
      {(sent.tx event).entry} = 1 := by
    rw [← Multiset.cons_zero, Multiset.countP_cons_of_pos _ (by rfl), Multiset.countP_zero]
  have hrow : 0 < Multiset.countP (·.trigger = event.triggerKey sent.session.id)
      (c.store.entries : Multiset TradeEntry) := by
    obtain ⟨e, he, htrigger⟩ := List.mem_map.mp hold
    exact Multiset.countP_pos.mpr ⟨e, he, htrigger⟩
  rw [hmine] at hcount
  omega

/-- Rows and pending insertions are the accepted swaps, one for one. -/
theorem entries_add_inserting (hdb : Unsold db)
    (h : (engine env).Run (onActs (PipelineHolds env)) ⟨boot db, []⟩ c) :
    (c.store.entries : Multiset TradeEntry) + tally Task.inserting c.tasks =
      (c.store.accepted.map SwapTx.entry : Multiset TradeEntry) := by
  refine h.tally_balance (Φ := fun w => (w.entries : Multiset TradeEntry))
    (φ := Task.inserting) (Ψ := fun w => (w.accepted.map SwapTx.entry : Multiset TradeEntry))
    ?_ ?_ ?_
  · simp [boot, World.entries, hdb.trades]
  · intro c t _ _ hentry
    rw [Task.inserting, pending_of_entry hentry]
  · intro c i a t w' t' hrun hI hg hacts
    have hpipe : PipelineHolds env c t a := onActs_acts hg hacts
    have hsession := fun p => pending_session hrun hacts.mem (p := p)
    have honce (key : TriggerKey) : acceptedCount key c.store.accepted ≤ 1 :=
      Nat.le_of_add_right_le
        (accepted_add_selling_le rfl (fun _ _ => firstSell_of_pipelineHolds) hrun key)
    have hconflict := fun event sent => no_conflict event sent hI (honce _) hacts.mem
    have hrecords := hpipe.2.2
    have hmove := (engine_move hacts).ledger
    -- from here on the step is seen through what is pending before and after it
    simp only [Task.inserting, Records] at hrecords ⊢
    generalize t.pending = p, t'.pending = p' at hmove hsession hconflict hrecords
    cases hmove with
    | idle h => exact ⟨0, by simp [h.entries], by simp [h.accepted]⟩
    | @submitted event sent _ _ haccepted hdb =>
        exact ⟨{(sent.tx event).entry}, by simp [World.entries, hdb],
          by simp [haccepted, ← Multiset.coe_add]⟩
    | lost _ hreply => exact absurd hreply hpipe.2.1
    | inserted haccepted hentries =>
        exact ⟨0, by simp [hentries, ← Multiset.coe_add], by simp [haccepted]⟩
    | conflict _ hold => exact absurd hold (hconflict _ _ rfl)
    | updated _ haccepted hentries => exact ⟨0, by simp [hentries], by simp [haccepted]⟩
    | @dropped p _ _ hcause =>
        obtain ⟨hfails, hparse⟩ := hrecords p rfl
        rcases hcause with hcause | ⟨_, hcause | hcause⟩
        · simp [hfails] at hcause
        · simp [hcause] at hparse
        · exact absurd (hsession p rfl) hcause

/-- The counter and what is owed to it are the recorded amounts. -/
theorem amountSold_add_owes_eq (hdb : Unsold db)
    (h : (engine env).Run (onActs (PipelineHolds env)) ⟨boot db, []⟩ c) (id : Uuid) :
    c.store.db.amountSold id + tally (Task.owes id) c.tasks =
      recordedAmount c.store.db.trades id := by
  refine h.tally_balance (Φ := fun w => w.db.amountSold id) (φ := Task.owes id)
    (Ψ := fun w => recordedAmount w.db.trades id) ?_ ?_ ?_
  · simp [boot, hdb.amountSold, hdb.trades, recordedAmount]
  · intro c t _ _ hentry
    rw [Task.owes, pending_of_entry hentry]
  · intro c i a t w' t' hrun _ hg hacts
    have hrecords := (onActs_acts hg hacts).2.2
    have hsession := fun p => pending_session hrun hacts.mem (p := p)
    have hmove := (engine_move hacts).ledger
    simp only [Task.owes, Records] at hrecords ⊢
    generalize t.pending = p, t'.pending = p' at hmove hsession hrecords
    cases hmove with
    | idle h => exact ⟨0, by simp [h.amountSold], recordedAmount_congr h.entries id⟩
    | submitted _ _ hdb => exact ⟨0, by simp [hdb], by simp [hdb]⟩
    | lost _ _ _ hdb => exact ⟨0, by simp [hdb], by simp [hdb]⟩
    | @inserted event sent _ _ hentries hsold =>
        exact ⟨if sent.session.id = id then sent.plan.sellAmount else 0, by simp [hsold],
          recordedAmount_of_append hentries id⟩
    | conflict h => exact ⟨0, by simp [h.amountSold], recordedAmount_congr h.entries id⟩
    | updated _ _ hentries hsold =>
        refine ⟨0, ?_, recordedAmount_congr hentries id⟩
        rw [hsold (hsession _ rfl), Nat.add_zero, Nat.add_zero]
        simp only [eq_comm]
    | @dropped p _ h hcause =>
        obtain ⟨hfails, hparse⟩ := hrecords p rfl
        rcases hcause with hcause | ⟨_, hcause | hcause⟩
        · simp [hfails] at hcause
        · simp [hcause] at hparse
        · exact absurd (hsession p rfl) hcause

/-- Every amount that is recorded, or pending for its row, was accepted. -/
theorem recordedAmount_add_inserting (hdb : Unsold db)
    (h : (engine env).Run (onActs (PipelineHolds env)) ⟨boot db, []⟩ c) (id : Uuid) :
    recordedAmount c.store.db.trades id + tally (fun t => entriesAmount id t.inserting) c.tasks =
      acceptedAmount (fun _ => true) id c.store.accepted := by
  have hbalance := congrArg (entriesAmount id) (entries_add_inserting hdb h)
  rw [map_add, map_tally, entriesAmount_coe, entriesAmount_coe] at hbalance
  rw [recordedAmount_eq_entries]
  refine hbalance.trans ?_
  rw [← Table.sumWhere_map SwapTx.entry]
  simp only [acceptedAmount, Bool.true_and]
  rfl

/-- An event with a pending sale is being processed. -/
theorem settled_eq_false {t : Task} (ht : t ∈ c.tasks) {p : Pending} (hp : t.pending = some p) :
    settled c p.event = false := by
  rw [settled, List.all_eq_false]
  refine ⟨t, ht, ?_⟩
  cases t with
  | delivery d =>
      obtain ⟨event, rest, phase⟩ := d
      cases phase with
      | record sent phase => cases phase <;> cases hp <;> simp [Phase.isDone]
      | _ => cases hp
  | _ => cases hp

/-- What is in flight belongs to events that are being processed. -/
theorem inFlight_unsettled (c : Config World Task) (id : Uuid) :
    tally (Task.inFlight (fun event => !settled c event) id) c.tasks =
      tally (fun t => entriesAmount id t.inserting) c.tasks + tally (Task.owes id) c.tasks := by
  rw [← tally_add]
  refine tally_congr fun t ht => ?_
  have hunsettled := fun p => settled_eq_false ht (p := p)
  simp only [Task.inFlight, Task.inserting, Task.owes]
  generalize t.pending = p at hunsettled
  cases p with
  | none => simp
  | some p =>
      obtain ⟨event, sent, inserted⟩ := p
      have hevent : settled c event = false := hunsettled _ rfl
      cases inserted with
      | true => simp [hevent]
      | false =>
          simp only [hevent, entriesAmount_singleton, Bool.not_false, Bool.true_and,
            decide_eq_true_eq, Nat.add_zero]
          rfl

/-- The counters include what was accepted for the events that are settled. -/
theorem accepted_settled_le (hdb : Unsold db)
    (h : (engine env).Run (onActs (PipelineHolds env)) ⟨boot db, []⟩ c) (id : Uuid) :
    acceptedAmount (settled c) id c.store.accepted ≤ c.store.db.amountSold id := by
  have hcounter := amountSold_add_owes_eq hdb h id
  have hrecorded := recordedAmount_add_inserting hdb h id
  have hflight := inFlight_le_accepted h (fun event => !settled c event) id
  rw [inFlight_unsettled] at hflight
  have hsplit : acceptedAmount (fun _ => true) id c.store.accepted =
      acceptedAmount (settled c) id c.store.accepted +
        acceptedAmount (fun event => !settled c event) id c.store.accepted := by
    simp only [acceptedAmount, Bool.true_and]
    rw [Table.sumWhere_split _ _ fun tx => settled c tx.event]
    simp only [Bool.and_comm]
  omega

/-- A swap of a settled event has one row. -/
theorem one_row_of_settled (hdb : Unsold db)
    (h : (engine env).Run (onActs (PipelineHolds env)) ⟨boot db, []⟩ c) {tx : SwapTx}
    (htx : tx ∈ c.store.accepted) (hsettled : settled c tx.event = true) :
    c.store.db.trades.countP (fun t => t.sellTxHash = some tx.hash) = 1 := by
  have hbalance := congrArg (Multiset.countP (·.sellTxHash = some tx.hash))
    (entries_add_inserting hdb h)
  rw [Multiset.countP_add, Multiset.coe_countP, Multiset.coe_countP, List.countP_map,
    World.entries, List.countP_map] at hbalance
  have hhashes := accepted_hashes h
  have haccepted : c.store.accepted.countP
      ((fun e : TradeEntry => decide (e.sellTxHash = some tx.hash)) ∘ SwapTx.entry) = 1 := by
    have hcount := List.count_eq_one_of_mem hhashes (List.mem_map_of_mem htx)
    rw [List.count, List.countP_map] at hcount
    rw [← hcount]
    refine List.countP_congr fun other _ => ?_
    simp [SwapTx.entry]
  have hinserting : Multiset.countP (·.sellTxHash = some tx.hash)
      (tally Task.inserting c.tasks) = 0 := by
    rw [← Multiset.coe_countPAddMonoidHom, map_tally]
    refine tally_eq_zero fun t ht => ?_
    have hsettled' := fun p => settled_eq_false ht (p := p)
    have hpending := pending_accepted h t ht
    simp only [Task.inserting]
    generalize t.pending = p at hsettled' hpending
    rcases p with _ | ⟨event, sent, _ | _⟩
    · simp
    · -- a pending insertion with this hash would be for this very event
      have hne : sent.sellTxHash ≠ tx.hash := by
        intro hhash
        have hsame : sent.tx event = tx :=
          List.inj_on_of_nodup_map hhashes (hpending _ rfl) htx hhash
        have hunsettled : settled c event = false := hsettled' _ rfl
        rw [← hsame] at hsettled
        exact absurd hsettled (by rw [Sent.tx, hunsettled]; simp)
      change Multiset.countP (·.sellTxHash = some tx.hash) {(sent.tx event).entry} = 0
      rw [← Multiset.cons_zero,
        Multiset.countP_cons_of_neg _ (by simpa [SwapTx.entry, Sent.tx] using hne),
        Multiset.countP_zero]
    · simp
  rw [haccepted, hinserting] at hbalance
  exact hbalance

/-- Where every sell is the first for its trigger, every accepted swap is replied
to and every submitted one is recorded without a failure, the accepted swaps of
the events that are not being processed are all accounted for. -/
theorem accounted_of_pipelineHolds (hdb : Unsold db)
    (h : (engine env).Run (onActs (PipelineHolds env)) ⟨boot db, []⟩ c) : Accounted c where
  one_row _ htx hsettled := one_row_of_settled hdb h htx hsettled
  counted r hr := by
    rw [← Database.amountSold_of_mem hr]
    exact accepted_settled_le hdb h r.id

end Runs

theorem Sample.unsold : Unsold Sample.database := ⟨rfl, by decide⟩

/-- A swap that is recorded and settled. -/
theorem accounted_of_pipelineHolds_sample :
    ∃ c : Config World Task, (c.store.accepted.length = 1 ∧
      settled c (Sample.event "0xa") = true) ∧ Accounted c := by
  obtain ⟨c, hrun, hc⟩ := exists_of_runIf (engine Sample.directEnv)
    (onActs (PipelineHolds Sample.directEnv)) ⟨boot Sample.database, []⟩
    (Sample.sell 0 "0xa" "0xb" (Sample.session 1) ++ Sample.statements 0 [true, true] ++
      [.act 0 (.settle (.lookup (.success none) false)), .act 0 (.settle (.statement true)),
        .act 0 (.call true), .act 0 (.plan Sample.answers)])
    (fun c => c.store.accepted.length == 1 && settled c (Sample.event "0xa"))
    (by decide +kernel)
  exact ⟨c, by simpa using hc, accounted_of_pipelineHolds Sample.unsold hrun⟩

/-- The node accepts the swap and its reply is lost: the two attempts that follow
are answered with an error, and the delivery goes on as if nothing was sent. -/
theorem accepted_swap_unaccounted :
    ¬ ∀ c, (engine Sample.directEnv).Reaches ⟨boot Sample.database, []⟩ c → Accounted c := by
  intro h
  obtain ⟨c, hrun, hc⟩ := exists_of_run (engine Sample.directEnv)
    ⟨boot Sample.database, []⟩
    ([.spawn (.delivery ⟨Sample.event "0xa", [], .query⟩),
      .act 0 (.query (some [Sample.session 1])), .act 0 (.plan Sample.answers),
      .act 0 (.submit (some "0xb") [.lose, .deliver, .deliver]), .act 0 (.plan Sample.answers)])
    (fun c => c.store.accepted.any fun tx => settled c tx.event &&
      c.store.db.trades.countP (fun t => t.sellTxHash = some tx.hash) == 0) (by decide +kernel)
  simp only [List.any_eq_true, Bool.and_eq_true, beq_iff_eq] at hc
  obtain ⟨tx, htx, hsettled, hnone⟩ := hc
  have hone := (h c hrun).one_row tx htx hsettled
  omega

end Liquifier.Engine
