import Liquifier.Engine.Worker

/-!
What every task of the engine may rely on, whatever the schedule.

The database only moves forward (`Later`): sessions keep their totals and never
lose sold amounts, and recorded trades keep their lasting columns. So what a
delivery has read stays a lower bound of what the database holds. `Sound` is the
assertion of a delivery, and `engine_sound` gives it in every state of every run.
-/

namespace Liquifier.Engine

open TaskSystem TaskSystem.System

/-! ### The database moves forward -/

structure Later (db db' : Database) : Prop where
  session_ids : db'.sessions.map (·.id) = db.sessions.map (·.id)
  sessions : ∀ r ∈ db.sessions, ∃ r' ∈ db'.sessions,
    r'.id = r.id ∧ r'.totalAmount = r.totalAmount ∧ r.amountSold ≤ r'.amountSold
  trades : ∃ new, db'.trades.map TradeRow.core = db.trades.map TradeRow.core ++ new

namespace Later

variable {db db' : Database}

theorem of_frame (hsessions : db'.sessions = db.sessions)
    (htrades : db'.trades.map TradeRow.core = db.trades.map TradeRow.core) : Later db db' where
  session_ids := by rw [hsessions]
  sessions r hr := ⟨r, hsessions ▸ hr, rfl, rfl, Nat.le_refl _⟩
  trades := ⟨[], by rw [htrades, List.append_nil]⟩

theorem refl (db : Database) : Later db db := of_frame rfl rfl

theorem of_updateSession (db : Database) (id : Uuid) (f : SessionRow → SessionRow) (hf)
    (htotal : ∀ r, (f r).totalAmount = r.totalAmount)
    (hsold : ∀ r, r.amountSold ≤ (f r).amountSold) : Later db (db.updateSession id f hf) where
  session_ids := db.session_ids_updateSession id f hf
  sessions r hr := by
    refine ⟨if r.id = id then f r else r, List.mem_map_of_mem hr, ?_⟩
    split
    · exact ⟨hf r, htotal r, hsold r⟩
    · exact ⟨rfl, rfl, Nat.le_refl _⟩
  trades := ⟨[], (List.append_nil _).symm⟩

theorem addAmountSold (db : Database) (id : Uuid) (amount : ℕ) :
    Later db (db.addAmountSold id amount) :=
  of_updateSession db id _ _ (fun _ => rfl) fun _ => Nat.le_add_right _ _

theorem setSessionStatus (db : Database) (id : Uuid) (status : SessionStatus) :
    Later db (db.setSessionStatus id status) :=
  of_updateSession db id _ _ (fun _ => rfl) fun _ => Nat.le_refl _

/-- Every row was there before. -/
theorem exists_old (h : Later db db') {r' : SessionRow} (hr' : r' ∈ db'.sessions) :
    ∃ r ∈ db.sessions, r.id = r'.id ∧ r.totalAmount = r'.totalAmount := by
  have hid : r'.id ∈ db.sessions.map (·.id) := h.session_ids ▸ List.mem_map_of_mem hr'
  obtain ⟨r, hr, heq⟩ := List.mem_map.mp hid
  obtain ⟨q, hq, hqid, htotal, _⟩ := h.sessions r hr
  have hsame : q = r' := List.inj_on_of_nodup_map db'.session_ids hq hr' (hqid.trans heq)
  exact ⟨r, hr, heq, hsame ▸ htotal.symm⟩

theorem amountSold_le (h : Later db db') (id : Uuid) : db.amountSold id ≤ db'.amountSold id := by
  by_cases hid : id ∈ db.sessions.map (·.id)
  · obtain ⟨r, hr, rfl⟩ := List.mem_map.mp hid
    obtain ⟨r', hr', hid', _, hsold⟩ := h.sessions r hr
    rw [Database.amountSold_of_mem hr, ← hid', Database.amountSold_of_mem hr']
    exact hsold
  · rw [Database.amountSold_eq_zero hid]
    exact Nat.zero_le _

theorem mem_trade_ids (h : Later db db') {id : Uuid} (hid : id ∈ db.trades.map (·.id)) :
    id ∈ db'.trades.map (·.id) := by
  have hcore (rows : List TradeRow) : rows.map (·.id) = (rows.map TradeRow.core).map (·.1) := by
    rw [List.map_map]
    rfl
  obtain ⟨new, hnew⟩ := h.trades
  rw [hcore] at hid ⊢
  rw [hnew, List.map_append]
  exact List.mem_append_left _ hid

end Later

/-! ### What a delivery has read -/

/-- The row of a session has the total of the snapshot and at least its sold
amount. -/
def Snapshot (db : Database) (s : SessionInfo) : Prop :=
  ∃ r ∈ db.sessions, r.id = s.id ∧ r.totalAmount = s.totalAmount ∧ s.amountSold ≤ r.amountSold

namespace Snapshot

variable {db db' : Database} {s : SessionInfo}

theorem later (h : Snapshot db s) (hl : Later db db') : Snapshot db' s := by
  obtain ⟨r, hr, hid, htotal, hsold⟩ := h
  obtain ⟨r', hr', hid', htotal', hsold'⟩ := hl.sessions r hr
  exact ⟨r', hr', hid'.trans hid, htotal'.trans htotal, hsold.trans hsold'⟩

theorem mem_ids (h : Snapshot db s) : s.id ∈ db.sessions.map (·.id) := by
  obtain ⟨r, hr, hid, _⟩ := h
  exact hid ▸ List.mem_map_of_mem hr

theorem amountSold_le (h : Snapshot db s) : s.amountSold ≤ db.amountSold s.id := by
  obtain ⟨r, hr, hid, _, hsold⟩ := h
  rw [← hid, Database.amountSold_of_mem hr]
  exact hsold

theorem totalAmount_eq (h : Snapshot db s) {r : SessionRow} (hr : r ∈ db.sessions)
    (hid : r.id = s.id) : r.totalAmount = s.totalAmount := by
  obtain ⟨q, hq, hqid, htotal, _⟩ := h
  rw [← htotal, List.inj_on_of_nodup_map db.session_ids hr hq (hid.trans hqid.symm)]

theorem of_answer {chain poolAddress : String} {answer : List SessionInfo}
    (h : db.answersActiveSessions chain poolAddress answer = true) (hs : s ∈ answer) :
    Snapshot db s := by
  rw [Database.answersActiveSessions, Bool.and_eq_true, List.isPerm_iff] at h
  have hrow : s.toSessionRow ∈ db.activeSessions chain poolAddress :=
    h.1.subset (List.mem_map_of_mem hs)
  exact ⟨s.toSessionRow, List.mem_of_mem_filter hrow, rfl, rfl, Nat.le_refl _⟩

end Snapshot

namespace Phase

/-- The sale on hand. -/
def sale : Phase → Option Sale
  | .submit sale => some sale
  | .record sent _ | .finalize sent _ _ | .finalizationError sent _ _ | .publish sent _ _
  | .complete sent | .sweep sent | .refund sent => some sent.toSale
  | .query | .loop | .returned _ | .stopped => none

/-- The trade that this delivery has inserted. -/
def trade : Phase → Option Uuid
  | .record _ (.update tradeId) => some tradeId
  | .finalize _ tradeId _ | .finalizationError _ tradeId _ | .publish _ tradeId _ => some tradeId
  | _ => none

/-- The sale, once the counter of its session includes it. -/
def counted : Phase → Option Sent
  | .finalize sent _ _ | .finalizationError sent _ _ | .publish sent _ _
  | .complete sent | .sweep sent | .refund sent => some sent
  | _ => none

/-- The sale that finishes its session. -/
def finishing : Phase → Option Sent
  | .complete sent | .sweep sent | .refund sent => some sent
  | _ => none

end Phase

namespace Sent

variable (sent : Sent) (tradeId : Uuid) (phase : FinalizePhase)

/-- The three phases that a finalization may lead to. -/
theorem afterFinalize_cases :
    sent.afterFinalize tradeId phase = .finalize sent tradeId phase ∨
      (∃ finalization, phase = .returned (.ok finalization) ∧
        sent.afterFinalize tradeId phase = .publish sent tradeId finalization) ∨
      ∃ e, phase = .returned (.error e) ∧ sent.afterFinalize tradeId phase =
        .finalizationError sent tradeId ("receipt_finalization_error: " ++ e) := by
  cases phase with
  | returned result =>
      cases result with
      | ok finalization => exact .inr (.inl ⟨finalization, rfl, rfl⟩)
      | error e => exact .inr (.inr ⟨e, rfl, rfl⟩)
  | _ => exact .inl rfl

/-- What holds of these three phases holds after a finalization. -/
@[elab_as_elim] theorem afterFinalize_rule {P : Phase → Prop}
    (hfinalize : ∀ phase, P (.finalize sent tradeId phase))
    (hpublish : ∀ finalization, P (.publish sent tradeId finalization))
    (herror : ∀ reason, P (.finalizationError sent tradeId reason)) :
    P (sent.afterFinalize tradeId phase) := by
  rcases sent.afterFinalize_cases tradeId phase with h | ⟨finalization, -, h⟩ | ⟨e, -, h⟩
  · rw [h]
    exact hfinalize phase
  · rw [h]
    exact hpublish finalization
  · rw [h]
    exact herror _

/-- The phases that a statement of `record_trade` may lead to. -/
theorem afterRecord_cases (phase : RecordPhase) :
    sent.afterRecord phase = .record sent phase ∨ sent.afterRecord phase = .returned false ∨
      sent.afterRecord phase = .loop ∨ ∃ tradeId,
        phase = .returned (.ok ⟨tradeId, true⟩) ∧ sent.afterRecord phase =
          sent.afterFinalize tradeId (finalizeStart (some sent.sellTxHash)) := by
  cases phase with
  | returned result =>
      rcases result with e | ⟨tradeId, _ | _⟩
      · exact .inr (.inl rfl)
      · exact .inr (.inr (.inl rfl))
      · exact .inr (.inr (.inr ⟨tradeId, rfl, rfl⟩))
  | _ => exact .inl rfl

/-- What holds of the first three phases, and after a finalization, holds after a
statement of `record_trade`. -/
@[elab_as_elim] theorem afterRecord_rule {P : Phase → Prop} (phase : RecordPhase)
    (hrecord : ∀ phase, P (.record sent phase)) (hreturned : P (.returned false)) (hloop : P .loop)
    (hfinalize : ∀ tradeId phase, P (sent.afterFinalize tradeId phase)) :
    P (sent.afterRecord phase) := by
  rcases sent.afterRecord_cases phase with h | h | h | ⟨tradeId, -, h⟩
  · rw [h]
    exact hrecord phase
  · rw [h]
    exact hreturned
  · rw [h]
    exact hloop
  · rw [h]
    exact hfinalize tradeId _

@[simp] theorem sale_afterFinalize :
    (sent.afterFinalize tradeId phase).sale = some sent.toSale :=
  sent.afterFinalize_rule tradeId phase (fun _ => rfl) (fun _ => rfl) fun _ => rfl

@[simp] theorem trade_afterFinalize : (sent.afterFinalize tradeId phase).trade = some tradeId :=
  sent.afterFinalize_rule tradeId phase (fun _ => rfl) (fun _ => rfl) fun _ => rfl

@[simp] theorem finishing_afterFinalize :
    (sent.afterFinalize tradeId phase).finishing = none :=
  sent.afterFinalize_rule tradeId phase (fun _ => rfl) (fun _ => rfl) fun _ => rfl

@[simp] theorem counted_afterFinalize :
    (sent.afterFinalize tradeId phase).counted = some sent :=
  sent.afterFinalize_rule tradeId phase (fun _ => rfl) (fun _ => rfl) fun _ => rfl

end Sent

theorem forall_of_eq_none {α : Type} {o : Option α} {p : α → Prop} (h : o = none) :
    ∀ a, o = some a → p a := by
  simp [h]

/-- The assertion of a delivery. -/
structure Delivery.Sound (env : Environment) (db : Database) (d : Delivery) : Prop where
  rest : ∀ s ∈ d.rest, Snapshot db s
  sale : ∀ sale, d.phase.sale = some sale →
    Snapshot db sale.session ∧ ∃ ans, Planned env d.event sale.session ans sale.plan
  trade : ∀ tradeId, d.phase.trade = some tradeId → tradeId ∈ db.trades.map (·.id)
  counted : ∀ sent, d.phase.counted = some sent →
    sent.session.amountSold + sent.plan.sellAmount ≤ db.amountSold sent.session.id
  finishing : ∀ sent, d.phase.finishing = some sent → sent.soldOut = true

variable {env : Environment}

theorem Delivery.Sound.later {db db' : Database} {d : Delivery} (h : d.Sound env db)
    (hl : Later db db') : d.Sound env db' where
  rest s hs := (h.rest s hs).later hl
  sale sale hsale := ⟨(h.sale sale hsale).1.later hl, (h.sale sale hsale).2⟩
  trade tradeId htrade := hl.mem_trade_ids (h.trade tradeId htrade)
  counted sent hsent := (h.counted sent hsent).trans (hl.amountSold_le _)
  finishing := h.finishing

/-- A delivery with no sale on hand. -/
theorem Delivery.Sound.idle {db : Database} {d : Delivery} (hrest : ∀ s ∈ d.rest, Snapshot db s)
    (hsale : d.phase.sale = none) (htrade : d.phase.trade = none) : d.Sound env db where
  rest := hrest
  sale := forall_of_eq_none hsale
  trade := forall_of_eq_none htrade
  counted := forall_of_eq_none (by revert hsale; cases d.phase <;> simp [Phase.sale, Phase.counted])
  finishing :=
    forall_of_eq_none (by revert hsale; cases d.phase <;> simp [Phase.sale, Phase.finishing])

/-- A delivery whose sale is not counted yet. -/
theorem Delivery.Sound.selling {db : Database} {d : Delivery}
    (hrest : ∀ s ∈ d.rest, Snapshot db s)
    (hsale : ∀ sale, d.phase.sale = some sale →
      Snapshot db sale.session ∧ ∃ ans, Planned env d.event sale.session ans sale.plan)
    (htrade : d.phase.trade = none) (hcounted : d.phase.counted = none) : d.Sound env db where
  rest := hrest
  sale := hsale
  trade := forall_of_eq_none htrade
  counted := forall_of_eq_none hcounted
  finishing := forall_of_eq_none (by
    revert hcounted; cases d.phase <;> simp [Phase.counted, Phase.finishing])

/-! ### Every move goes forward -/

theorem RecordMove.later {call : RecordCall} {ok : Bool} {db db' : Database}
    {phase phase' : RecordPhase} (h : RecordMove env call db ok phase db' phase') :
    Later db db' := by
  cases h with
  | inserted _ _ hsessions htrades =>
      exact {
        session_ids := by rw [hsessions]
        sessions := fun r hr => ⟨r, hsessions ▸ hr, rfl, rfl, Nat.le_refl _⟩
        trades := ⟨_, by rw [htrades, List.map_append]⟩ }
  | updated => exact .addAmountSold _ _ _
  | _ => exact .refl _

theorem DeliveryMove.later {w w' : World} {d d' : Delivery} {a : Act}
    (h : DeliveryMove env w d a w' d') : Later w.db w'.db := by
  cases h with
  | recorded h => exact h.later
  | finalized h => exact .of_frame h.frame.1 h.frame.2
  | markedFailed => exact .of_frame rfl (Database.core_markTradeFailed _ _ _)
  | completed => exact .setSessionStatus _ _ _
  | _ => exact .refl _

theorem TaskMove.later {w w' : World} {t t' : Task} {a : Act} (h : TaskMove env w t a w' t') :
    Later w.db w'.db := by
  cases h with
  | delivery h => exact h.later
  | pass h => exact .of_frame h.frame.1 h.frame.2
  | request => exact .setSessionStatus _ _ _
  | _ => exact .refl _

/-! ### Every delivery is sound -/

theorem Delivery.Sound.step {w w' : World} {d d' : Delivery} {a : Act} (hd : d.Sound env w.db)
    (h : DeliveryMove env w d a w' d') : d'.Sound env w'.db := by
  have hl := h.later
  have hd' := hd.later hl
  cases h with
  | stopped => exact .idle hd'.rest rfl rfl
  | queryError => exact .idle hd'.rest rfl rfl
  | queried h => exact .idle (fun s hs => .of_answer h hs) rfl rfl
  | finished => exact .idle hd'.rest rfl rfl
  | skipped => exact .idle (fun s hs => hd'.rest s (List.mem_cons_of_mem _ hs)) rfl rfl
  | planned h =>
      refine .selling (fun s hs => hd'.rest s (List.mem_cons_of_mem _ hs)) ?_ rfl rfl
      rintro sale ⟨⟩
      exact ⟨hd'.rest _ List.mem_cons_self, _, planSwap_planned h⟩
  | submitted => exact .selling hd'.rest hd'.sale rfl rfl
  | submitError => exact .idle hd'.rest rfl rfl
  | recorded h =>
      have hsale := hd'.sale _ rfl
      have hold := (hd.sale _ rfl).1
      cases h with
      | insertError => exact .idle hd'.rest rfl rfl
      | inserted _ _ _ htrades =>
          refine ⟨hd'.rest, hd'.sale, ?_, forall_of_eq_none rfl, forall_of_eq_none rfl⟩
          rintro tradeId ⟨⟩
          simp [htrades]
      | conflict => exact .selling hd'.rest hd'.sale rfl rfl
      | updated =>
          refine ⟨hd'.rest, ?_, ?_, ?_, forall_of_eq_none (by simp [Sent.afterRecord])⟩
          · intro sale heq
            rw [Sent.afterRecord, Sent.sale_afterFinalize] at heq
            cases heq
            exact hsale
          · intro tradeId heq
            rw [Sent.afterRecord, Sent.trade_afterFinalize] at heq
            cases heq
            exact hd'.trade _ rfl
          · intro sent' heq
            rw [Sent.afterRecord, Sent.counted_afterFinalize] at heq
            cases heq
            -- the counter was at least what the snapshot says, and it grew by the sell
            have hsold := hold.amountSold_le
            simp only [Sent.recordCall]
            rw [Database.amountSold_addAmountSold hold.mem_ids, if_pos rfl]
            omega
      | updateError => exact .idle hd'.rest rfl rfl
      | selected => exact .idle hd'.rest rfl rfl
      | selectError => exact .idle hd'.rest rfl rfl
  | finalized h =>
      refine ⟨hd'.rest, ?_, ?_, ?_, forall_of_eq_none (by simp)⟩
      · intro sale heq
        rw [Sent.sale_afterFinalize] at heq
        exact hd'.sale sale heq
      · intro tradeId heq
        rw [Sent.trade_afterFinalize] at heq
        exact hd'.trade tradeId heq
      · intro sent heq
        rw [Sent.counted_afterFinalize] at heq
        exact hd'.counted sent heq
  | markedFailed => exact ⟨hd'.rest, hd'.sale, hd'.trade, hd'.counted, forall_of_eq_none rfl⟩
  | markError => exact .idle hd'.rest rfl rfl
  | @published event rest sent =>
      cases hsold : sent.soldOut with
      | true =>
          refine ⟨hd'.rest, hd'.sale, forall_of_eq_none rfl, hd'.counted, ?_⟩
          rintro _ ⟨⟩
          exact hsold
      | false => exact .idle hd'.rest rfl rfl
  | completed => exact ⟨hd'.rest, hd'.sale, forall_of_eq_none rfl, hd'.counted, hd'.finishing⟩
  | completeError =>
      exact ⟨hd'.rest, hd'.sale, forall_of_eq_none rfl, hd'.counted, hd'.finishing⟩
  | swept => exact ⟨hd'.rest, hd'.sale, forall_of_eq_none rfl, hd'.counted, hd'.finishing⟩
  | refunded => exact .idle hd'.rest rfl rfl

/-- The assertion of a task; a pass knows the trades that it has still to settle. -/
def Task.Sound (env : Environment) (db : Database) : Task → Prop
  | .delivery d => d.Sound env db
  | .pass _ => True
  | .request _ _ _ => True

/-- In every state of every run every delivery is sound. -/
theorem engine_sound {G : Config World Task → Move Task Act → Prop} {w₀ : World}
    {c : Config World Task} (h : (engine env).Run G ⟨w₀, []⟩ c) :
    ∀ t ∈ c.tasks, t.Sound env c.store.db := by
  refine h.assertions (J := fun w t => t.Sound env w.db) (by simp) ?_ ?_ ?_
  · intro c t _ _ hentry
    cases t with
    | delivery d =>
        obtain ⟨event, rest, phase⟩ := d
        cases rest <;> cases phase <;> simp_all [engine, Task.isNew]
        exact .idle (by simp) rfl rfl
    | pass phase => trivial
    | request sessionId status done => trivial
  · intro c i a t w' t' _ hJ _ hacts
    have ht := hJ t hacts.mem
    cases engine_move hacts with
    | delivery hmove => exact Delivery.Sound.step ht hmove
    | _ => trivial
  · intro c i a t w' t' _ hJ _ hacts u hu
    have hl := (engine_move hacts).later
    have hsound := hJ u hu
    cases u with
    | delivery d => exact Delivery.Sound.later hsound hl
    | pass phase => trivial
    | request sessionId status done => trivial

end Liquifier.Engine
