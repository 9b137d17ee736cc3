import Liquifier.Engine.Announced

/-!
The received amounts of confirmed trades.

The status of a trade and the amount of its receipt are written by two statements, by a
delivery as well as by a pass. Passes look at submitted rows only, so that nobody writes
the amount of a confirmed row any more unless a task is on its way to do so. So the
amount is as safe as the second of the two statements.
-/

namespace Liquifier.Engine

open TaskSystem TaskSystem.System

variable {env : Environment}

/-! ### Confirmed trades and their amounts -/

/-- The trades that a pass has still to settle. -/
def PassPhase.trades : PassPhase → List PendingTrade
  | .query => []
  | .loop rest => rest
  | .lookup trade rest => trade :: rest
  | .markConfirmed trade _ rest => trade :: rest
  | .updateReceived trade _ rest => trade :: rest
  | .markFailed trade rest => trade :: rest
  | .returned _ => []

namespace Task

/-- The trades that a task may still write to. -/
def inHand : Task → List Uuid
  | .delivery d => d.phase.trade.toList
  | .pass phase => phase.trades.map (·.tradeId)
  | .request _ _ _ => []

/-- The trade that a task confirms next, and the amount that its receipt shows. -/
def confirms : Task → Option (Uuid × Option ℕ)
  | .delivery ⟨_, _, .finalize _ tradeId (.markConfirmed received)⟩ => some (tradeId, received)
  | .pass (.markConfirmed trade received _) => some (trade.tradeId, received)
  | _ => none

/-- The trade whose amount a task writes next. -/
def receives : Task → Option (Uuid × ℕ)
  | .delivery ⟨_, _, .finalize _ tradeId (.updateReceived amount)⟩ => some (tradeId, amount)
  | .pass (.updateReceived trade amount _) => some (trade.tradeId, amount)
  | _ => none

/-- The trade whose receipt a step is shown, and its amount. -/
def answers : Task → Act → Option (Uuid × Option ℕ)
  | .delivery ⟨_, _, .finalize _ tradeId .lookup⟩, .settle (.lookup (.success received) _) =>
      some (tradeId, received)
  | .pass (.lookup trade _), .settle (.lookup (.success received) _) =>
      some (trade.tradeId, received)
  | _, _ => none

/-- The amount that a task does not write, because the statement fails or the task stops
before it. -/
def drops (t : Task) : Act → Option (Uuid × ℕ)
  | .settle (.statement false) => t.receives
  | .stop => t.receives
  | _ => none

end Task

/-- The row of the trade has the amount. -/
def HasAmount (db : Database) (id : Uuid) (amount : ℕ) : Prop :=
  ∀ r ∈ db.trades, r.id = id → r.finalReceived = some amount

instance (db : Database) (id : Uuid) (amount : ℕ) : Decidable (HasAmount db id amount) :=
  inferInstanceAs (Decidable (∀ r ∈ db.trades, r.id = id → r.finalReceived = some amount))

section Amounts

variable (receipt : Uuid → Option ℕ)

/-- Every confirmed trade whose receipt shows an amount has it. -/
def Received (db : Database) : Prop :=
  ∀ r ∈ db.trades, r.status = .confirmed → ∀ n ∈ receipt r.id, r.finalReceived = some n

instance (db : Database) : Decidable (Received receipt db) :=
  inferInstanceAs (Decidable (∀ r ∈ db.trades, _ → ∀ n ∈ receipt r.id, _))

/-- The node shows the receipts of `receipt`. -/
def AnswersReceipt (_ : Config World Task) (t : Task) (a : Act) : Prop :=
  ∀ x ∈ t.answers a, x.2 = receipt x.1

instance (c : Config World Task) (t : Task) (a : Act) : Decidable (AnswersReceipt receipt c t a) :=
  inferInstanceAs (Decidable (∀ x ∈ t.answers a, _))

/-- An amount that is not written is in its row already, or another task is about to
write it. -/
def KeepsAmounts (c : Config World Task) (t : Task) (a : Act) : Prop :=
  ∀ d ∈ t.drops a, HasAmount c.store.db d.1 d.2 ∨ 2 ≤ c.tasks.countP (·.receives = some d)

instance (c : Config World Task) (t : Task) (a : Act) : Decidable (KeepsAmounts c t a) :=
  inferInstanceAs (Decidable (∀ d ∈ t.drops a, _))

/-- The runs in which the node shows the receipts and no amount is dropped. -/
abbrev KeepingRun (env : Environment) (c₀ c : Config World Task) : Prop :=
  (engine env).Run (onActs fun c t a => AnswersReceipt receipt c t a ∧ KeepsAmounts c t a) c₀ c

end Amounts

/-! ### What a step makes of an amount -/

/-- What a step of the task `t`, which becomes `t'`, makes of the row `r`. -/
structure AmountStep (t t' : Task) (r r' : TradeRow) : Prop where
  id_eq : r'.id = r.id
  amount : r'.finalReceived = r.finalReceived ∨
    ∃ n, t.receives = some (r.id, n) ∧ r'.finalReceived = some n
  confirmed : r'.status = .confirmed → r.status = .confirmed ∨
    ∃ x, t.confirms = some (r.id, x) ∧ ∀ n ∈ x, t'.receives = some (r.id, n)
  stays : r.status = .confirmed → r'.status = .confirmed

abbrev AmountsStep (t t' : Task) (rows rows' : List TradeRow) : Prop :=
  Table.Follows (AmountStep t t') Inserted rows rows'

section Steps

variable {t t' : Task}

theorem AmountStep.refl (r : TradeRow) : AmountStep t t' r r :=
  ⟨rfl, .inl rfl, .inl, fun h => h⟩

theorem amountsStep_refl (rows : List TradeRow) : AmountsStep t t' rows rows := .refl .refl

theorem amountsStep_markTradeConfirmed {db : Database} {id : Uuid} {x : Option ℕ}
    (ht : t.confirms = some (id, x)) (ht' : ∀ n ∈ x, t'.receives = some (id, n)) :
    AmountsStep t t' db.trades (db.markTradeConfirmed id).trades := by
  refine .update .refl fun r _ hid => ⟨rfl, .inl rfl, fun _ => .inr ⟨x, ?_, ?_⟩, fun _ => rfl⟩
  · exact hid ▸ ht
  · exact hid ▸ ht'

theorem amountsStep_markTradeFailed (db : Database) (id : Uuid) (reason : String) :
    AmountsStep t t' db.trades (db.markTradeFailed id reason).trades := by
  refine .update .refl fun r _ _ => ?_
  split
  · exact .refl r
  · rename_i hne
    exact ⟨rfl, .inl rfl, (fun h => by cases h), fun h => absurd h hne⟩

theorem amountsStep_updateTradeReceived {db : Database} {id : Uuid} {amount : ℕ}
    (ht : t.receives = some (id, amount)) (token : String) :
    AmountsStep t t' db.trades (db.updateTradeReceived id amount token).trades :=
  .update .refl fun _ _ hid => ⟨rfl, .inr ⟨amount, hid ▸ ht, rfl⟩, .inl, fun h => h⟩

theorem TaskMove.amountsStep {w w' : World} {a : Act} (h : TaskMove env w t a w' t') :
    AmountsStep t t' w.db.trades w'.db.trades := by
  cases h with
  | delivery h =>
      cases h with
      | recorded h =>
          cases h with
          | inserted _ _ _ htrades =>
              rw [htrades]
              exact .append .refl ⟨rfl, rfl⟩
          | _ => exact amountsStep_refl _
      | finalized h =>
          cases h with
          | confirmed => exact amountsStep_markTradeConfirmed rfl (by simp)
          | confirmedAmount =>
              exact amountsStep_markTradeConfirmed rfl fun n hn => by cases hn; rfl
          | received => exact amountsStep_updateTradeReceived rfl _
          | failed => exact amountsStep_markTradeFailed _ _ _
          | _ => exact amountsStep_refl _
      | markedFailed => exact amountsStep_markTradeFailed _ _ _
      | _ => exact amountsStep_refl _
  | pass h =>
      cases h with
      | confirmed => exact amountsStep_markTradeConfirmed rfl (by simp)
      | confirmedAmount => exact amountsStep_markTradeConfirmed rfl fun n hn => by cases hn; rfl
      | received => exact amountsStep_updateTradeReceived rfl _
      | failed => exact amountsStep_markTradeFailed _ _ _
      | _ => exact amountsStep_refl _
  | _ => exact amountsStep_refl _

theorem hasAmount_updateTradeReceived (db : Database) (id : Uuid) (amount : ℕ) (token : String) :
    HasAmount (db.updateTradeReceived id amount token) id amount := by
  intro r hr hid
  rcases Table.mem_update hr with ⟨_, hne⟩ | ⟨q, _, _, rfl⟩
  · exact absurd hid hne
  · rfl

/-- An amount is written or dropped. -/
theorem drops_or_hasAmount {w w' : World} {a : Act} {d : Uuid × ℕ}
    (h : taskStep env a w t = some (w', t')) (hd : t.receives = some d) :
    t.drops a = some d ∨ HasAmount w'.db d.1 d.2 := by
  have hdrops := hd
  unfold Task.receives at hd
  split at hd
  · cases hd
    cases a with
    | settle input =>
        rcases input with ⟨outcome, late⟩ | ⟨_ | _⟩
        · cases h
        · exact .inl hdrops
        · cases h
          exact .inr (hasAmount_updateTradeReceived _ _ _ _)
    | stop => exact .inl hdrops
    | _ => cases h
  · cases hd
    cases a with
    | settle input =>
        rcases input with ⟨outcome, late⟩ | ⟨_ | _⟩
        · cases h
        · exact .inl hdrops
        · cases h
          exact .inr (hasAmount_updateTradeReceived _ _ _ _)
    | stop => exact .inl hdrops
    | _ => cases h
  · cases hd

/-- The tables stay as they are when an amount is dropped. -/
theorem db_of_drops {w w' : World} {a : Act} {d : Uuid × ℕ}
    (h : taskStep env a w t = some (w', t')) (hd : t.drops a = some d) : w'.db = w.db := by
  unfold Task.drops at hd
  split at hd
  · unfold Task.receives at hd
    split at hd
    · cases h
      rfl
    · cases h
      rfl
    · cases hd
  · cases t with
    | delivery d =>
        obtain ⟨⟨w₁, d'⟩, hdelivery, h⟩ := Option.map_eq_some_iff.mp h
        cases h
        cases deliveryStep_move hdelivery
        rfl
    | pass phase =>
        cases h
        rfl
    | request => cases hd
  · cases hd

end Steps

/-! ### What a task knows of the amounts -/

/-- The trades in the hands of a task are there. It confirms a trade with the amount of
its receipt, and writes this amount once the trade is confirmed. -/
structure Task.Receipted (receipt : Uuid → Option ℕ) (db : Database) (t : Task) : Prop where
  inHand : ∀ id ∈ t.inHand, id ∈ db.trades.map (·.id)
  confirms : ∀ d ∈ t.confirms, d.2 = receipt d.1
  receives : ∀ d ∈ t.receives, receipt d.1 = some d.2 ∧ Confirmed db d.1

section Receipted

variable {receipt : Uuid → Option ℕ} {w w' : World}

/-- A task that neither confirms a trade nor writes an amount next. -/
theorem Task.Receipted.quiet {db : Database} {t : Task}
    (hinHand : ∀ id ∈ t.inHand, id ∈ db.trades.map (·.id)) (hconfirms : t.confirms = none)
    (hreceives : t.receives = none) : t.Receipted receipt db where
  inHand := hinHand
  confirms d hd := by rw [hconfirms] at hd; cases hd
  receives d hd := by rw [hreceives] at hd; cases hd

/-- A step of another task breaks nothing. -/
theorem Task.Receipted.other {t t' u : Task} {a : Act} (hu : u.Receipted receipt w.db)
    (h : TaskMove env w t a w' t') : u.Receipted receipt w'.db where
  inHand id hid := h.later.mem_trade_ids (hu.inHand id hid)
  confirms := hu.confirms
  receives d hd := ⟨(hu.receives d hd).1, (hu.receives d hd).2.rowsStep h.rowsStep⟩

/-- A delivery that has recorded its trade looks the receipt up first. -/
theorem Sent.afterRecord_quiet (sent : Sent) (event : DexSwapEvent) (rest : List SessionInfo)
    (phase : RecordPhase) :
    (Task.delivery ⟨event, rest, sent.afterRecord phase⟩).confirms = none ∧
      (Task.delivery ⟨event, rest, sent.afterRecord phase⟩).receives = none := by
  cases phase with
  | returned result =>
      rcases result with e | ⟨tradeId, _ | _⟩
      · exact ⟨rfl, rfl⟩
      · exact ⟨rfl, rfl⟩
      · rw [Sent.afterRecord]
        unfold finalizeStart
        split
        · exact ⟨rfl, rfl⟩
        · exact ⟨rfl, rfl⟩
  | _ => exact ⟨rfl, rfl⟩

theorem DeliveryMove.receipted {d d' : Delivery} {a : Act} (h : DeliveryMove env w d a w' d')
    (hsound : d.Sound env w.db) (hd : (Task.delivery d).Receipted receipt w.db)
    (hanswers : ∀ x ∈ (Task.delivery d).answers a, x.2 = receipt x.1) :
    (Task.delivery d').Receipted receipt w'.db := by
  have hinHand (id : Uuid) (hid : id ∈ (Task.delivery d').inHand) :
      id ∈ w'.db.trades.map (·.id) :=
    (hsound.step h).trade id (Option.mem_toList.mp hid)
  cases h with
  | @recorded event rest sent _ _ phase' =>
      obtain ⟨hconfirms, hreceives⟩ := sent.afterRecord_quiet event rest phase'
      exact .quiet hinHand hconfirms hreceives
  | finalized h =>
      cases h with
      | success =>
          refine ⟨hinHand, ?_, ?_⟩
          · rintro _ ⟨⟩
            exact hanswers _ rfl
          · rintro _ ⟨⟩
      | @confirmedAmount amount =>
          refine ⟨hinHand, ?_, ?_⟩
          · rintro _ ⟨⟩
          · rintro _ ⟨⟩
            exact ⟨(hd.confirms _ rfl).symm,
              confirmed_markTradeConfirmed (hsound.trade _ rfl)⟩
      | _ => exact .quiet hinHand rfl rfl
  | @published _ _ sent =>
      refine .quiet hinHand ?_ ?_
      · cases sent.soldOut <;> rfl
      · cases sent.soldOut <;> rfl
  | _ => exact .quiet hinHand rfl rfl

/-- A pass begins with submitted trades. -/
theorem submitted_of_mem_pendingTrades {db : Database} {trade : PendingTrade}
    (h : trade ∈ pendingTrades db) :
    ∃ r ∈ db.trades, r.id = trade.tradeId ∧ r.status = .submitted := by
  obtain ⟨r, hr, htrade⟩ := List.mem_filterMap.mp h
  obtain ⟨hmem, hfilter⟩ := List.mem_filter.mp (List.mem_of_mem_take hr)
  refine ⟨r, hmem, ?_, of_decide_eq_true (Bool.and_eq_true_iff.mp hfilter).1⟩
  split at htrade
  · cases htrade
    rfl
  · cases htrade

/-- A pass settles the trades of its list only. -/
theorem PassMove.trades {db db' : Database} {input : PassInput} {phase phase' : PassPhase}
    (h : PassMove db input phase db' phase') {trade : PendingTrade} (ht : trade ∈ phase'.trades) :
    trade ∈ phase.trades ∨ trade ∈ pendingTrades db := by
  cases h with
  | queried => exact .inr ht
  | queryError => cases ht
  | done => cases ht
  | resolved => exact .inl ht
  | unresolved => exact .inl (List.mem_cons_of_mem _ ht)
  | success => exact .inl ht
  | reverted => exact .inl ht
  | skipped => exact .inl (List.mem_cons_of_mem _ ht)
  | confirmed => exact .inl (List.mem_cons_of_mem _ ht)
  | confirmedAmount => exact .inl ht
  | received => exact .inl (List.mem_cons_of_mem _ ht)
  | failed => exact .inl (List.mem_cons_of_mem _ ht)
  | statementError => cases ht

theorem PassMove.inHand {db db' : Database} {input : PassInput} {phase phase' : PassPhase}
    (h : PassMove db input phase db' phase') {id : Uuid} (hid : id ∈ (Task.pass phase').inHand) :
    id ∈ (Task.pass phase).inHand ∨ ∃ r ∈ db.trades, r.id = id ∧ r.status = .submitted := by
  obtain ⟨trade, htrade, rfl⟩ := List.mem_map.mp hid
  rcases h.trades htrade with htrade | htrade
  · exact .inl (List.mem_map_of_mem htrade)
  · exact .inr (submitted_of_mem_pendingTrades htrade)

theorem passTask_receipted {phase : PassPhase} {t' : Task} {a : Act}
    (h : taskStep env a w (.pass phase) = some (w', t'))
    (ht : (Task.pass phase).Receipted receipt w.db)
    (hanswers : ∀ x ∈ (Task.pass phase).answers a, x.2 = receipt x.1) :
    t'.Receipted receipt w'.db := by
  have hmove := taskStep_move h
  rcases passTask_cases h with ⟨-, rfl, rfl⟩ | ⟨input, db, phase', hinput, hpass, rfl, rfl⟩
  · exact .quiet (by rintro _ ⟨⟩) rfl rfl
  · have hinHand (id : Uuid) (hid : id ∈ (Task.pass phase').inHand) :
        id ∈ db.trades.map (·.id) := by
      refine hmove.later.mem_trade_ids ?_
      rcases hpass.inHand hid with hid | ⟨r, hr, rfl, -⟩
      · exact ht.inHand id hid
      · exact List.mem_map_of_mem hr
    cases hpass with
    | success =>
        obtain rfl := eq_settle_of_passInput hinput
        refine ⟨hinHand, ?_, ?_⟩
        · rintro _ ⟨⟩
          exact hanswers _ rfl
        · rintro _ ⟨⟩
    | confirmedAmount =>
        refine ⟨hinHand, ?_, ?_⟩
        · rintro _ ⟨⟩
        · rintro _ ⟨⟩
          exact ⟨(ht.confirms _ rfl).symm,
            confirmed_markTradeConfirmed (ht.inHand _ List.mem_cons_self)⟩
    | _ => exact .quiet hinHand rfl rfl

end Receipted

/-! ### Runs -/

section Runs

variable {receipt : Uuid → Option ℕ} {c c₀ : Config World Task} {db : Database}

/-- A task at its beginning has no trade in its hands. -/
theorem quiet_of_isNew {t : Task} (h : t.isNew = true) :
    t.inHand = [] ∧ t.confirms = none ∧ t.receives = none := by
  cases t with
  | delivery d =>
      obtain ⟨event, rest, phase⟩ := d
      cases phase with
      | query => exact ⟨rfl, rfl, rfl⟩
      | _ => cases rest <;> cases h
  | pass phase =>
      cases phase with
      | query => exact ⟨rfl, rfl, rfl⟩
      | _ => cases h
  | request => exact ⟨rfl, rfl, rfl⟩

theorem engine_receipted {w₀ : World} (h : KeepingRun receipt env ⟨w₀, []⟩ c) :
    ∀ t ∈ c.tasks, t.Receipted receipt c.store.db := by
  refine h.assertions (J := fun w t => t.Receipted receipt w.db) (by simp) ?_ ?_ ?_
  · intro c t _ _ hentry
    obtain ⟨hinHand, hconfirms, hreceives⟩ := quiet_of_isNew hentry
    exact .quiet (by simp [hinHand]) hconfirms hreceives
  · intro c i a t w' t' hrun hJ hg hacts
    have hanswers : AnswersReceipt receipt c t a := (onActs_acts hg hacts).1
    have ht := hJ t hacts.mem
    have hsound := engine_sound hrun t hacts.mem
    have hstep : taskStep env a c.store t = some (w', t') := hacts.step
    cases taskStep_move hstep with
    | delivery hmove => exact hmove.receipted hsound ht hanswers
    | pass => exact passTask_receipted hstep ht hanswers
    | passStopped => exact .quiet (by rintro _ ⟨⟩) rfl rfl
    | request => exact .quiet (by rintro _ ⟨⟩) rfl rfl
    | requestError => exact .quiet (by rintro _ ⟨⟩) rfl rfl
  · intro c i a t w' t' _ hJ _ hacts u hu
    exact (hJ u hu).other (engine_move hacts)

/-- The amount of every confirmed trade is in its row, or a task is about to write it. -/
def AmountsInHand (receipt : Uuid → Option ℕ) (c : Config World Task) : Prop :=
  ∀ r ∈ c.store.db.trades, r.status = .confirmed → ∀ n ∈ receipt r.id,
    r.finalReceived = some n ∨ ∃ t ∈ c.tasks, t.receives = some (r.id, n)

/-- Of two tasks that are about to write an amount one is left after a step. -/
theorem exists_receives_of_two {ts : List Task} {i : ℕ} {t t' : Task} {d : Uuid × ℕ}
    (ht : ts[i]? = some t) (h : 2 ≤ ts.countP (·.receives = some d)) :
    ∃ u ∈ ts.set i t', u.receives = some d := by
  obtain ⟨hi, rfl⟩ := List.getElem?_eq_some_iff.mp ht
  have hpos : 0 < (ts.set i t').countP (·.receives = some d) := by
    rw [List.countP_set hi]
    split <;> split <;> omega
  obtain ⟨u, hu, hreceives⟩ := List.countP_pos_iff.mp hpos
  exact ⟨u, hu, of_decide_eq_true hreceives⟩

/-- A step leaves an amount that is due to the row or to some task. -/
theorem inHand_step {i : ℕ} {a : Act} {t t' u : Task} {w' : World} {d : Uuid × ℕ}
    (hacts : (engine env).Acts c i a t w' t') (hkeeps : KeepsAmounts c t a) (hu : u ∈ c.tasks)
    (hd : u.receives = some d) :
    HasAmount c.store.db d.1 d.2 ∨ HasAmount w'.db d.1 d.2 ∨
      ∃ v ∈ c.tasks.set i t', v.receives = some d := by
  rcases mem_set_or_eq hacts.at_index t' hu with hu | rfl
  · exact .inr (.inr ⟨u, hu, hd⟩)
  · rcases drops_or_hasAmount hacts.step hd with hdrops | hrow
    · rcases hkeeps d hdrops with hrow | htwo
      · exact .inl hrow
      · exact .inr (.inr (exists_receives_of_two hacts.at_index htwo))
    · exact .inr (.inl hrow)

theorem engine_amountsInHand (hdb : Received receipt db)
    (h : KeepingRun receipt env ⟨boot db, []⟩ c) : AmountsInHand receipt c := by
  refine h.invariant (I := AmountsInHand receipt) ?_ ?_
  · intro r hr hconfirmed n hn
    exact .inl (hdb r hr hconfirmed n hn)
  · intro c c' m hrun hI hg hn
    rcases next_cases hn with ⟨t, rfl, _, rfl⟩ | ⟨i, a, t, w', t', rfl, hacts, rfl⟩
    · intro r hr hconfirmed n hn
      rcases hI r hr hconfirmed n hn with hrow | ⟨u, hu, hd⟩
      · exact .inl hrow
      · exact .inr ⟨u, List.mem_append_left _ hu, hd⟩
    · intro r' hr' hconfirmed n hn
      have ht := engine_receipted hrun t hacts.mem
      rcases (engine_move hacts).amountsStep.new r' hr' with ⟨r, hr, hstep⟩ | hnew
      · rw [hstep.id_eq] at hn ⊢
        rcases hstep.amount with hsame | ⟨m, hd, hamount⟩
        · rcases hstep.confirmed hconfirmed with hold | ⟨x, hx, hnext⟩
          · rcases hI r hr hold n hn with hrow | ⟨u, hu, hd⟩
            · exact .inl (hsame.trans hrow)
            · rcases inHand_step hacts (onActs_acts hg hacts).2 hu hd with hrow | hrow | hother
              · exact .inl (hsame.trans (hrow r hr rfl))
              · exact .inl (hrow r' hr' hstep.id_eq)
              · exact .inr hother
          · have hreceipt : x = receipt r.id := ht.confirms _ hx
            exact .inr ⟨t', hacts.mem_after, hnext n (hreceipt ▸ hn)⟩
        · -- the amount that is written is the one of the receipt
          have hreceipt : receipt r.id = some m := (ht.receives _ hd).1
          rw [hreceipt] at hn
          cases hn
          exact .inl hamount
      · rw [hnew.1] at hconfirmed
        cases hconfirmed

/-! ### Amounts that are lost -/

/-- The trade is confirmed without its amount, and no task has it in hand. -/
structure Lost (c : Config World Task) (id : Uuid) (n : ℕ) : Prop where
  row : ∃ r ∈ c.store.db.trades, r.id = id ∧ r.status = .confirmed ∧ r.finalReceived ≠ some n
  tasks : ∀ t ∈ c.tasks, id ∉ t.inHand

theorem Lost.not_received {id : Uuid} {n : ℕ} (h : Lost c id n) (hn : receipt id = some n) :
    ¬ Received receipt c.store.db := by
  intro hreceived
  obtain ⟨r, hr, rfl, hconfirmed, hne⟩ := h.row
  exact hne (hreceived r hr hconfirmed n hn)

theorem mem_inHand_of_receives {t : Task} {d : Uuid × ℕ} (h : t.receives = some d) :
    d.1 ∈ t.inHand := by
  unfold Task.receives at h
  split at h
  · cases h
    exact List.mem_cons_self
  · cases h
    exact List.mem_cons_self
  · cases h

/-- A task takes new and submitted trades in hand only. -/
theorem TaskMove.inHand {w w' : World} {t t' : Task} {a : Act} (h : TaskMove env w t a w' t')
    {id : Uuid} (hid : id ∈ t'.inHand) :
    id ∈ t.inHand ∨ id = w.db.freshTradeId ∨
      ∃ r ∈ w.db.trades, r.id = id ∧ r.status = .submitted := by
  cases h with
  | delivery hmove =>
      rcases hmove.trade (Option.mem_toList.mp hid) with hold | hfresh
      · exact .inl (Option.mem_toList.mpr hold)
      · exact .inr (.inl hfresh)
  | pass hpass =>
      rcases hpass.inHand hid with hold | hsubmitted
      · exact .inl hold
      · exact .inr (.inr hsubmitted)
  | _ => cases hid

/-- What is lost once stays lost. -/
theorem Lost.stays {c' : Config World Task} {id : Uuid} {n : ℕ} (h : Lost c id n)
    (hrun : (engine env).Reaches c c') : Lost c' id n := by
  refine hrun.invariant (I := fun c => Lost c id n) h ?_
  rintro c c' m - ⟨⟨r, hr, rfl, hconfirmed, hne⟩, htasks⟩ - hn
  rcases next_cases hn with ⟨t, rfl, hentry, rfl⟩ | ⟨i, a, t, w', t', rfl, hacts, rfl⟩
  · refine ⟨⟨r, hr, rfl, hconfirmed, hne⟩, fun u hu => ?_⟩
    rcases List.mem_append.mp hu with hu | hu
    · exact htasks u hu
    · rw [List.mem_singleton.mp hu, (quiet_of_isNew hentry).1]
      exact List.not_mem_nil
  · have hmove := engine_move hacts
    constructor
    · obtain ⟨r', hr', hstep⟩ := hmove.amountsStep.old r hr
      refine ⟨r', hr', hstep.id_eq, hstep.stays hconfirmed, ?_⟩
      rcases hstep.amount with hsame | ⟨k, hd, -⟩
      · rwa [hsame]
      · exact absurd (mem_inHand_of_receives hd) (htasks t hacts.mem)
    · intro u hu hid
      rcases List.mem_or_eq_of_mem_set hu with hu | rfl
      · exact htasks u hu hid
      · rcases hmove.inHand hid with hold | hfresh | ⟨q, hq, heq, hsubmitted⟩
        · exact htasks t hacts.mem hold
        · exact c.store.db.freshTradeId_notMem (hfresh ▸ List.mem_map_of_mem hr)
        · rw [List.inj_on_of_nodup_map c.store.db.trade_ids hq hr heq, hconfirmed] at hsubmitted
          cases hsubmitted

/-- The end of a task that stops where it is. -/
def Task.halt : Task → Task
  | .delivery d => .delivery (if d.phase.isDone then d else { d with phase := .stopped })
  | .pass _ => .pass (.returned false)
  | t => t

theorem Task.inHand_halt (t : Task) : t.halt.inHand = [] := by
  cases t with
  | delivery d =>
      obtain ⟨event, rest, phase⟩ := d
      cases phase <;> rfl
  | _ => rfl

/-- Every task may stop. -/
theorem halt_step (w : World) (t : Task) :
    t.halt = t ∨ ∃ a, (engine env).step a w t = some (w, t.halt) := by
  cases t with
  | delivery d =>
      obtain ⟨event, rest, phase⟩ := d
      cases phase with
      | returned => exact .inl rfl
      | stopped => exact .inl rfl
      | _ => exact .inr ⟨.stop, rfl⟩
  | pass => exact .inr ⟨.stop, rfl⟩
  | request => exact .inl rfl

theorem receives_of_drops {t : Task} {a : Act} {d : Uuid × ℕ} (h : t.drops a = some d) :
    t.receives = some d := by
  unfold Task.drops at h
  split at h
  · exact h
  · exact h
  · cases h

/-- An amount that is dropped may be lost. -/
theorem exists_lost {i : ℕ} {a : Act} {t t' : Task} {w' : World} {w₀ : World} {d : Uuid × ℕ}
    (h : KeepingRun receipt env ⟨w₀, []⟩ c) (hacts : (engine env).Acts c i a t w' t')
    (hd : t.drops a = some d) (hrow : ¬ HasAmount c.store.db d.1 d.2) :
    receipt d.1 = some d.2 ∧
      ∃ c', (engine env).Reaches ⟨w', c.tasks.set i t'⟩ c' ∧ Lost c' d.1 d.2 := by
  obtain ⟨hreceipt, r, hr, hid, hconfirmed⟩ :=
    (engine_receipted h t hacts.mem).receives d (receives_of_drops hd)
  refine ⟨hreceipt, _, reaches_map halt_step _, ⟨r, ?_, hid, hconfirmed, ?_⟩, ?_⟩
  · rw [db_of_drops hacts.step hd]
    exact hr
  · intro hamount
    refine hrow fun q hq hqid => ?_
    rw [List.inj_on_of_nodup_map c.store.db.trade_ids hq hr (hqid.trans hid.symm)]
    exact hamount
  · intro u hu
    obtain ⟨v, _, rfl⟩ := List.mem_map.mp hu
    rw [v.inHand_halt]
    exact List.not_mem_nil

end Runs

/-- As long as every amount that is not written is in its row already or in the hands of
another task, every confirmed trade has the amount of its receipt as soon as no task is
between the two statements. Any other step may lose the amount for good, whatever the
passes do from then on. -/
theorem received_of_keepsAmounts (env : Environment) (receipt : Uuid → Option ℕ) {db : Database}
    (hdb : Received receipt db) :
    (∀ c, KeepingRun receipt env ⟨boot db, []⟩ c → (∀ t ∈ c.tasks, t.receives = none) →
      Received receipt c.store.db) ∧
    ∀ c c' m, KeepingRun receipt env ⟨boot db, []⟩ c → ¬ onActs KeepsAmounts c m →
      (engine env).next c m = some c' →
        ∃ d, (engine env).Reaches c' d ∧
          ∀ e, (engine env).Reaches d e → ¬ Received receipt e.store.db := by
  constructor
  · intro c h hidle r hr hconfirmed n hn
    rcases engine_amountsInHand hdb h r hr hconfirmed n hn with hrow | ⟨t, ht, hd⟩
    · exact hrow
    · rw [hidle t ht] at hd
      cases hd
  · intro c c' m h hkeeps hnext
    obtain ⟨i, a, t, w', t', hkeeps, hacts, rfl⟩ := next_of_not_onActs hkeeps hnext
    simp only [KeepsAmounts, not_forall, not_or] at hkeeps
    obtain ⟨x, hx, hrow, -⟩ := hkeeps
    obtain ⟨hreceipt, d, hd, hlost⟩ := exists_lost h hacts hx hrow
    exact ⟨d, hd, fun e he => (hlost.stays he).not_received hreceipt⟩

namespace Sample

/-- The amount of every receipt. -/
def receipt : Uuid → Option ℕ := fun _ => some 5

theorem received_database : Received receipt database := by decide

end Sample

/-- A sell is confirmed and has its amount. -/
theorem received_of_keepsAmounts_sample :
    ∃ c : Config World Task, HasStatus c.store.db 0 .confirmed ∧
      Received Sample.receipt c.store.db := by
  obtain ⟨c, hrun, hc⟩ := exists_of_runIf (engine Sample.directEnv)
    (onActs fun c t a => AnswersReceipt Sample.receipt c t a ∧ KeepsAmounts c t a)
    ⟨boot Sample.database, []⟩ (Sample.received true)
    (fun c => decide (HasStatus c.store.db 0 .confirmed) && c.tasks.all (·.receives = none))
    (by decide +kernel)
  obtain ⟨hrow, hidle⟩ := Bool.and_eq_true_iff.mp hc
  refine ⟨c, of_decide_eq_true hrow, ?_⟩
  exact (received_of_keepsAmounts Sample.directEnv Sample.receipt Sample.received_database).1 c hrun
    fun t ht => of_decide_eq_true (List.all_eq_true.mp hidle t ht)

/-- The statement that writes the amount fails, and whatever the passes do from then on,
the trade is confirmed and its amount is missing. -/
theorem confirmed_without_amount :
    ∃ c, (engine Sample.directEnv).Run (onActs (AnswersReceipt Sample.receipt))
        ⟨boot Sample.database, []⟩ c ∧
      ∀ d, (engine Sample.directEnv).Reaches c d → ¬ Received Sample.receipt d.store.db := by
  obtain ⟨c, hrun, hc⟩ := exists_of_runIf (engine Sample.directEnv)
    (onActs (AnswersReceipt Sample.receipt)) ⟨boot Sample.database, []⟩
    (Sample.received false ++ [Sample.message])
    (fun c => c.store.db.trades.any (fun r => r.id = 0 ∧ r.status = .confirmed ∧
      r.finalReceived ≠ some 5) && c.tasks.all (0 ∉ ·.inHand)) (by decide +kernel)
  obtain ⟨hrow, htasks⟩ := Bool.and_eq_true_iff.mp hc
  obtain ⟨r, hr, hlost⟩ := List.any_eq_true.mp hrow
  have h : Lost c 0 5 := ⟨⟨r, hr, of_decide_eq_true hlost⟩,
    fun t ht => of_decide_eq_true (List.all_eq_true.mp htasks t ht)⟩
  exact ⟨c, hrun, fun d hd => (h.stays hd).not_received rfl⟩

end Liquifier.Engine
