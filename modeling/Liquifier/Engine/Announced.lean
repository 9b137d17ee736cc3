import Liquifier.Engine.Receipts

/-!
The `trade_completed` messages against the rows of their trades.

A delivery builds the status of its message from what its own statements returned. The
row has other writers: a pass may settle the trade meanwhile, and the statement that
marks a trade as failed spares a confirmed row without saying so. So a message agrees
with the row as long as a delivery settles only on a status that its row takes, and
no pass writes another one before the message is out.
-/

namespace Liquifier.Engine

open TaskSystem TaskSystem.System

variable {env : Environment}

/-! ### Messages -/

/-- The row of the trade has the status. -/
def HasStatus (db : Database) (id : Uuid) (status : TradeStatus) : Prop :=
  ∃ r ∈ db.trades, r.id = id ∧ r.status = status

instance (db : Database) (id : Uuid) (status : TradeStatus) :
    Decidable (HasStatus db id status) :=
  inferInstanceAs (Decidable (∃ r ∈ db.trades, r.id = id ∧ r.status = status))

namespace Task

/-- The message that a step publishes. -/
def publishes : Task → Act → Option TradeCompleted
  | .delivery ⟨_, _, .publish sent tradeId finalization⟩, .call true =>
      some (sent.tradeCompleted tradeId finalization)
  | _, _ => none

/-- The trade and the status of the message that comes next. -/
def announces : Task → Option (Uuid × TradeStatus)
  | .delivery ⟨_, _, .publish _ tradeId finalization⟩ => some (tradeId, finalization.status)
  | _ => none

/-- The trade and the status on which a step of a delivery settles, other than
'confirmed'. -/
def decides : Task → Act → Option (Uuid × TradeStatus)
  | .delivery ⟨_, _, .record sent (.update tradeId)⟩, .settle (.statement true) =>
      match finalizeStart (some sent.sellTxHash) with
      | .returned _ => some (tradeId, .submitted)
      | _ => none
  | .delivery ⟨_, _, .finalize _ tradeId .lookup⟩, .settle (.lookup .pending true) =>
      some (tradeId, .submitted)
  | .delivery ⟨_, _, .finalize _ tradeId (.markFailed _)⟩, .settle (.statement true) =>
      some (tradeId, .failed)
  | .delivery ⟨_, _, .finalizationError _ tradeId _⟩, .settle (.statement true) =>
      some (tradeId, .failed)
  | _, _ => none

/-- The trade and the status that a step of a pass writes. -/
def reconciles : Task → Act → Option (Uuid × TradeStatus)
  | .pass (.markConfirmed trade _ _), .settle (.statement true) =>
      some (trade.tradeId, .confirmed)
  | .pass (.markFailed trade _), .settle (.statement true) => some (trade.tradeId, .failed)
  | _, _ => none

end Task

/-- The status of a published message is the status of the row of its trade by then. -/
def PublishesStatus (c : Config World Task) (t : Task) (a : Act) : Prop :=
  ∀ e ∈ t.publishes a, HasStatus c.store.db e.tradeId e.status

instance (c : Config World Task) (t : Task) (a : Act) : Decidable (PublishesStatus c t a) :=
  inferInstanceAs (Decidable (∀ e ∈ t.publishes a, _))

/-- The row is still submitted, or it is not confirmed and takes the status 'failed'. -/
def Takes (db : Database) (id : Uuid) : TradeStatus → Prop
  | .failed => ¬ Confirmed db id
  | status => HasStatus db id status

instance (db : Database) (id : Uuid) (status : TradeStatus) : Decidable (Takes db id status) := by
  unfold Takes
  split
  · exact inferInstanceAs (Decidable (¬ HasStatus db id .confirmed))
  · infer_instance

/-- A delivery settles only on a status that its row takes, and a pass changes no
status that the next message of a delivery has. -/
structure KeepsMessages (c : Config World Task) (t : Task) (a : Act) : Prop where
  taken : ∀ d ∈ t.decides a, Takes c.store.db d.1 d.2
  unchanged : ∀ d ∈ t.reconciles a, ∀ u ∈ c.tasks, ∀ m ∈ u.announces, m.1 = d.1 →
    m.2 = d.2 ∨ m.2 = .confirmed

instance (c : Config World Task) (t : Task) (a : Act) : Decidable (KeepsMessages c t a) :=
  decidable_of_iff
    ((∀ d ∈ t.decides a, Takes c.store.db d.1 d.2) ∧
      ∀ d ∈ t.reconciles a, ∀ u ∈ c.tasks, ∀ m ∈ u.announces, m.1 = d.1 →
        m.2 = d.2 ∨ m.2 = .confirmed)
    ⟨fun h => ⟨h.1, h.2⟩, fun h => ⟨h.taken, h.unchanged⟩⟩

/-! ### One delivery for each trade -/

/-- The trade that a delivery has inserted and not yet done with. -/
def Task.trade : Task → Option Uuid
  | .delivery d => d.phase.trade
  | _ => none

def Task.holdsTrade (id : Uuid) (t : Task) : Bool := t.trade = some id

theorem DeliveryMove.trade {w w' : World} {d d' : Delivery} {a : Act}
    (h : DeliveryMove env w d a w' d') {id : Uuid} (hid : d'.phase.trade = some id) :
    d.phase.trade = some id ∨ id = w.db.freshTradeId := by
  cases h with
  | recorded h =>
      cases h with
      | inserted =>
          right
          exact (Option.some.inj hid).symm
      | updated =>
          left
          rw [Sent.afterRecord, Sent.trade_afterFinalize] at hid
          exact hid
      | _ => cases hid
  | finalized =>
      rw [Sent.trade_afterFinalize] at hid
      exact .inl hid
  | markedFailed => exact .inl hid
  | @published _ _ sent =>
      simp only at hid
      split at hid <;> cases hid
  | _ => cases hid

/-- One delivery at most is at work on a trade. -/
theorem holdsTrade_exclusive {G : Config World Task → Move Task Act → Prop} {w₀ : World}
    {c : Config World Task} (h : (engine env).Run G ⟨w₀, []⟩ c) (id : Uuid) :
    c.tasks.countP (Task.holdsTrade id) ≤ 1 := by
  refine h.exclusive (Nat.zero_le _) ?_ ?_
  · intro t hentry
    cases t with
    | delivery d =>
        obtain ⟨event, rest, phase⟩ := d
        cases rest <;> cases phase <;> first | rfl | cases hentry
    | _ => rfl
  · intro c i a t w' t' hrun _ hacts hholds
    have hid := of_decide_eq_true hholds
    cases engine_move hacts with
    | delivery hmove =>
        rcases hmove.trade hid with hold | rfl
        · exact .inl (decide_eq_true hold)
        · right
          intro u hu
          refine decide_eq_false fun hutrade => c.store.db.freshTradeId_notMem ?_
          have hsound := engine_sound hrun u hu
          cases u with
          | delivery d => exact Delivery.Sound.trade hsound _ hutrade
          | _ => cases hutrade
    | _ => cases hid

/-! ### What the statements make of a status -/

section Statements

variable {db : Database} {id key : Uuid} {status : TradeStatus}

/-- A row has one status. -/
theorem HasStatus.eq (h : HasStatus db id status) {status' : TradeStatus}
    (h' : HasStatus db id status') : status = status' := by
  obtain ⟨r, hr, rfl, rfl⟩ := h
  obtain ⟨q, hq, hid, rfl⟩ := h'
  rw [List.inj_on_of_nodup_map db.trade_ids hq hr hid]

theorem HasStatus.mem_ids (h : HasStatus db id status) : id ∈ db.trades.map (·.id) := by
  obtain ⟨r, hr, rfl, _⟩ := h
  exact List.mem_map_of_mem hr

theorem HasStatus.markTradeConfirmed (h : HasStatus db id status)
    (hkey : key = id → status = .confirmed) : HasStatus (db.markTradeConfirmed key) id status := by
  obtain ⟨r, hr, rfl, rfl⟩ := h
  refine ⟨_, List.mem_map_of_mem hr, ?_⟩
  split
  · exact ⟨rfl, (hkey (by symm; assumption)).symm⟩
  · exact ⟨rfl, rfl⟩

theorem HasStatus.markTradeFailed (h : HasStatus db id status)
    (hkey : key = id → status = .failed ∨ status = .confirmed) (reason : String) :
    HasStatus (db.markTradeFailed key reason) id status := by
  obtain ⟨r, hr, rfl, rfl⟩ := h
  refine ⟨_, List.mem_map_of_mem hr, ?_⟩
  split
  · rename_i heq
    dsimp only
    split
    · exact ⟨rfl, rfl⟩
    · rename_i hne
      exact ⟨rfl, ((hkey heq.symm).resolve_right hne).symm⟩
  · exact ⟨rfl, rfl⟩

theorem HasStatus.updateTradeReceived (h : HasStatus db id status) (amount : ℕ)
    (token : String) : HasStatus (db.updateTradeReceived key amount token) id status := by
  obtain ⟨r, hr, rfl, rfl⟩ := h
  refine ⟨_, List.mem_map_of_mem hr, ?_⟩
  split
  · exact ⟨rfl, rfl⟩
  · exact ⟨rfl, rfl⟩

/-- A row that is there and not confirmed becomes failed. -/
theorem hasStatus_markTradeFailed (h : id ∈ db.trades.map (·.id)) (hopen : ¬ Confirmed db id)
    (reason : String) : HasStatus (db.markTradeFailed id reason) id .failed := by
  obtain ⟨r, hr, rfl⟩ := List.mem_map.mp h
  refine ⟨_, List.mem_map_of_mem hr, ?_⟩
  rw [if_pos rfl]
  dsimp only
  rw [if_neg fun hconfirmed => hopen ⟨r, hr, rfl, hconfirmed⟩]
  exact ⟨rfl, rfl⟩

end Statements

section Moves

variable {w w' : World} {id : Uuid} {status : TradeStatus}

/-- A delivery leaves the rows of other trades alone. -/
theorem DeliveryMove.hasStatus {d d' : Delivery} {a : Act} (h : DeliveryMove env w d a w' d')
    (hs : HasStatus w.db id status) (hid : d.phase.trade ≠ some id) :
    HasStatus w'.db id status := by
  have hother {key : Uuid} {P : Prop} (hkey : d.phase.trade = some key) (heq : key = id) : P :=
    absurd (heq ▸ hkey) hid
  cases h with
  | recorded h =>
      cases h with
      | inserted _ _ _ htrades =>
          obtain ⟨r, hr, hrow⟩ := hs
          exact ⟨r, htrades ▸ List.mem_append_left _ hr, hrow⟩
      | _ => exact hs
  | finalized h =>
      cases h with
      | confirmed => exact hs.markTradeConfirmed (hother rfl)
      | confirmedAmount => exact hs.markTradeConfirmed (hother rfl)
      | received => exact hs.updateTradeReceived _ _
      | failed => exact hs.markTradeFailed (hother rfl) _
      | _ => exact hs
  | markedFailed => exact hs.markTradeFailed (hother rfl) _
  | _ => exact hs

/-- A pass changes a status only as it says. -/
theorem PassMove.hasStatus {input : PassInput} {phase phase' : PassPhase} {db : Database} {a : Act}
    (h : PassMove w.db input phase db phase') (hinput : passInput a = some input)
    (hs : HasStatus w.db id status)
    (hkeeps : ∀ d ∈ (Task.pass phase).reconciles a, d.1 = id → status = d.2 ∨ status = .confirmed) :
    HasStatus db id status := by
  cases h with
  | confirmed =>
      obtain rfl := eq_settle_of_passInput hinput
      exact hs.markTradeConfirmed fun heq => or_self_iff.mp (hkeeps _ rfl heq)
  | confirmedAmount =>
      obtain rfl := eq_settle_of_passInput hinput
      exact hs.markTradeConfirmed fun heq => or_self_iff.mp (hkeeps _ rfl heq)
  | received => exact hs.updateTradeReceived _ _
  | failed =>
      obtain rfl := eq_settle_of_passInput hinput
      exact hs.markTradeFailed (hkeeps _ rfl) _
  | _ => exact hs

theorem passTask_hasStatus {phase : PassPhase} {t' : Task} {a : Act}
    (h : taskStep env a w (.pass phase) = some (w', t')) (hs : HasStatus w.db id status)
    (hkeeps : ∀ d ∈ (Task.pass phase).reconciles a, d.1 = id → status = d.2 ∨ status = .confirmed) :
    HasStatus w'.db id status := by
  rcases passTask_cases h with ⟨-, rfl, -⟩ | ⟨input, db, phase', hinput, hmove, rfl, -⟩
  · exact hs
  · exact hmove.hasStatus hinput hs hkeeps

/-- Where a pass writes a status, the row has it, unless it was confirmed before. -/
theorem hasStatus_of_reconciles {t t' : Task} {a : Act} {d : Uuid × TradeStatus}
    (h : taskStep env a w t = some (w', t')) (hd : t.reconciles a = some d)
    (hs : HasStatus w.db d.1 status) (hne : status ≠ .confirmed) : HasStatus w'.db d.1 d.2 := by
  unfold Task.reconciles at hd
  split at hd
  · rename_i trade received rest
    cases hd
    have hrow := confirmed_markTradeConfirmed hs.mem_ids
    cases received with
    | none => cases h; exact hrow
    | some amount => cases h; exact hrow
  · cases hd
    cases h
    exact hasStatus_markTradeFailed hs.mem_ids (fun hconfirmed => hne (hs.eq hconfirmed)) _
  · cases hd

end Moves

/-! ### What a delivery knows of the row of its message -/

/-- The row has the status of the next message, and it is confirmed before its amount is
written. -/
def Task.Truthful (w : World) : Task → Prop
  | .delivery ⟨_, _, .finalize _ tradeId (.updateReceived _)⟩ => Confirmed w.db tradeId
  | .delivery ⟨_, _, .publish _ tradeId finalization⟩ =>
      HasStatus w.db tradeId finalization.status
  | _ => True

theorem Task.Truthful.announces {w : World} {t : Task} (h : t.Truthful w)
    {m : Uuid × TradeStatus} (hm : m ∈ t.announces) : HasStatus w.db m.1 m.2 := by
  unfold Task.announces at hm
  split at hm
  · cases hm
    exact h
  · cases hm

theorem Task.Truthful.of_isNew {w : World} {t : Task} (h : t.isNew = true) : t.Truthful w := by
  cases t with
  | delivery d =>
      obtain ⟨event, rest, phase⟩ := d
      cases phase with
      | query => trivial
      | _ => cases rest <;> cases h
  | _ => trivial

/-- The end of a finalization that has nothing to look up. -/
theorem Sent.truthful_afterRecord {w : World} {sent : Sent} {event : DexSwapEvent}
    {rest : List SessionInfo} {tradeId : Uuid}
    (h : ∀ m ∈ Task.decides (.delivery ⟨event, rest, .record sent (.update tradeId)⟩)
      (.settle (.statement true)), Takes w.db m.1 m.2) :
    (Task.delivery ⟨event, rest,
      sent.afterFinalize tradeId (finalizeStart (some sent.sellTxHash))⟩).Truthful w := by
  simp only [Task.decides] at h
  cases hstart : finalizeStart (some sent.sellTxHash) with
  | returned result =>
      rw [hstart] at h
      have hrow : HasStatus w.db tradeId .submitted := h (tradeId, .submitted) rfl
      unfold finalizeStart at hstart
      split at hstart
      · cases hstart
        exact hrow
      · cases hstart
  | lookup => trivial
  | _ =>
      unfold finalizeStart at hstart
      split at hstart <;> cases hstart

theorem DeliveryMove.truthful {w w' : World} {d d' : Delivery} {a : Act}
    (h : DeliveryMove env w d a w' d') (hsound : d.Sound env w.db)
    (hd : (Task.delivery d).Truthful w)
    (hdecides : ∀ m ∈ (Task.delivery d).decides a, Takes w.db m.1 m.2) :
    (Task.delivery d').Truthful w' := by
  cases h with
  | recorded h =>
      cases h with
      | updated => exact Sent.truthful_afterRecord hdecides
      | _ => trivial
  | finalized h =>
      cases h with
      | expired => exact hdecides _ rfl
      | confirmed => exact confirmed_markTradeConfirmed (hsound.trade _ rfl)
      | confirmedAmount => exact confirmed_markTradeConfirmed (hsound.trade _ rfl)
      | received => exact HasStatus.updateTradeReceived hd _ _
      | failed => exact hasStatus_markTradeFailed (hsound.trade _ rfl) (hdecides _ rfl) _
      | _ => trivial
  | markedFailed => exact hasStatus_markTradeFailed (hsound.trade _ rfl) (hdecides _ rfl) _
  | @published _ _ sent => cases sent.soldOut <;> trivial
  | _ => trivial

/-- A step of another task leaves the row of a message as it is. -/
theorem truthful_other {c : Config World Task} {i : ℕ} {t t' u : Task} {a : Act} {w' : World}
    (hacts : (engine env).Acts c i a t w' t') (hkeeps : KeepsMessages c t a)
    (hone : ∀ id, c.tasks.countP (Task.holdsTrade id) ≤ 1) (hu : u ∈ c.tasks)
    (h : u.Truthful c.store) : u.Truthful w' := by
  have hmove := engine_move hacts
  unfold Task.Truthful at h ⊢
  split
  · exact Confirmed.rowsStep h hmove.rowsStep
  · rename_i event rest sent tradeId finalization
    have hstep : taskStep env a c.store t = some (w', t') := hacts.step
    cases hmove with
    | @delivery d d' _ _ hmove =>
        by_cases hsame : d.phase.trade = some tradeId
        · -- there is one delivery of the trade, which publishes its message next
          have heq := eq_of_countP_le_one (hone tradeId) hacts.mem hu (decide_eq_true hsame)
            (decide_eq_true rfl)
          cases heq
          cases hmove with
          | published => exact h
          | stopped => exact h
        · exact hmove.hasStatus h hsame
    | pass =>
        exact passTask_hasStatus hstep h fun m hm heq =>
          hkeeps.unchanged m hm _ hu _ rfl heq.symm
    | _ => exact h
  · trivial

/-! ### Runs -/

section Runs

variable {db : Database} {c : Config World Task}

theorem engine_truthful {w₀ : World} (h : (engine env).Run (onActs KeepsMessages) ⟨w₀, []⟩ c) :
    ∀ t ∈ c.tasks, t.Truthful c.store := by
  refine h.assertions (J := fun w t => t.Truthful w) (by simp) ?_ ?_ ?_
  · intro c t _ _ hentry
    exact .of_isNew hentry
  · intro c i a t w' t' hrun hJ hg hacts
    have hkeeps : KeepsMessages c t a := onActs_acts hg hacts
    have hsound := engine_sound hrun t hacts.mem
    cases engine_move hacts with
    | delivery hmove => exact hmove.truthful hsound (hJ _ hacts.mem) hkeeps.taken
    | _ => trivial
  · intro c i a t w' t' hrun hJ hg hacts u hu
    exact truthful_other hacts (onActs_acts hg hacts) (holdsTrade_exclusive hrun) hu (hJ u hu)

/-- A task whose message has another status than its row publishes it next. -/
theorem publishes_other {i : ℕ} {t : Task} {m : Uuid × TradeStatus} (ht : c.tasks[i]? = some t)
    (hm : m ∈ t.announces) (hother : ¬ HasStatus c.store.db m.1 m.2) :
    ((engine env).next c (.act i (.call true))).isSome ∧
      ¬ onActs PublishesStatus c (.act i (.call true)) := by
  unfold Task.announces at hm
  split at hm
  · rename_i event rest sent tradeId finalization
    cases hm
    constructor
    · simp [next, ht, engine, taskStep, deliveryStep]
    · intro h
      exact hother (h _ ht _ rfl)
  · cases hm

/-- A confirmed row does not become failed. -/
theorem not_hasStatus_failed {db : Database} {id : Uuid} (h : Confirmed db id) (reason : String) :
    ¬ HasStatus (db.markTradeFailed id reason) id .failed := by
  intro hfailed
  have hstatus := hfailed.eq (HasStatus.markTradeFailed h (fun _ => .inr rfl) reason)
  cases hstatus

/-- A delivery announces what it settles on, and the row has another status if it does
not take this one. -/
theorem announces_of_decides {t t' : Task} {a : Act} {w w' : World} {m : Uuid × TradeStatus}
    (h : taskStep env a w t = some (w', t')) (hm : m ∈ t.decides a) (hrow : ¬ Takes w.db m.1 m.2) :
    m ∈ t'.announces ∧ ¬ HasStatus w'.db m.1 m.2 := by
  unfold Task.decides at hm
  split at hm
  · rename_i event rest sent tradeId
    cases h
    cases hstart : finalizeStart (some sent.sellTxHash) with
    | returned result =>
        rw [hstart] at hm
        cases hm
        refine ⟨?_, hrow⟩
        show (tradeId, TradeStatus.submitted) ∈ Task.announces (.delivery ⟨event, rest,
          sent.afterFinalize tradeId (finalizeStart (some sent.sellTxHash))⟩)
        unfold finalizeStart at hstart ⊢
        split at hstart
        · rfl
        · cases hstart
    | _ =>
        rw [hstart] at hm
        cases hm
  · cases hm
    cases h
    exact ⟨rfl, hrow⟩
  · cases hm
    cases h
    exact ⟨rfl, not_hasStatus_failed (not_not.mp hrow) _⟩
  · cases hm
    cases h
    exact ⟨rfl, not_hasStatus_failed (not_not.mp hrow) _⟩
  · cases hm

end Runs

/-- As long as every delivery settles on a status that its row takes, and no pass changes
the status that the next message of a delivery has, every message has the status of its
row when it is published. Every other step is followed by a message that has not, if it
is published next. -/
theorem publishesStatus_of_keepsMessages (env : Environment) (db : Database) :
    (∀ c m, (engine env).Run (onActs KeepsMessages) ⟨boot db, []⟩ c → onActs PublishesStatus c m) ∧
    ∀ c c' m, (engine env).Run (onActs KeepsMessages) ⟨boot db, []⟩ c →
      ¬ onActs KeepsMessages c m → (engine env).next c m = some c' →
        ∃ i, ((engine env).next c' (.act i (.call true))).isSome ∧
          ¬ onActs PublishesStatus c' (.act i (.call true)) := by
  constructor
  · intro c m h
    cases m with
    | spawn t => trivial
    | act i a =>
        intro t ht e he
        have htruthful := engine_truthful h t (List.mem_of_getElem? ht)
        unfold Task.publishes at he
        split at he
        · cases he
          exact htruthful
        · cases he
  · intro c c' m h hkeeps hnext
    obtain ⟨i, a, t, w', t', hkeeps, hacts, rfl⟩ := next_of_not_onActs hkeeps hnext
    by_cases htaken : ∀ d ∈ t.decides a, Takes c.store.db d.1 d.2
    · -- a pass has written another status than a message has
      have hchanged : ¬ ∀ d ∈ t.reconciles a, ∀ u ∈ c.tasks, ∀ m ∈ u.announces, m.1 = d.1 →
          m.2 = d.2 ∨ m.2 = .confirmed := fun hunchanged => hkeeps ⟨htaken, hunchanged⟩
      simp only [not_forall, not_or] at hchanged
      obtain ⟨d, hd, u, hu, m, hm, hid, hne, hconfirmed⟩ := hchanged
      obtain ⟨j, hj, rfl⟩ := List.getElem_of_mem hu
      have hrow := (engine_truthful h _ hu).announces hm
      rw [hid] at hrow
      have hafter := hasStatus_of_reconciles hacts.step hd hrow hconfirmed
      have hstays : (c.tasks.set i t')[j]? = some c.tasks[j] := by
        rw [List.getElem?_set_ne, List.getElem?_eq_getElem hj]
        rintro rfl
        -- the pass announces nothing
        have htask := hacts.at_index
        rw [List.getElem?_eq_getElem hj] at htask
        rw [Option.some.inj htask] at hm
        unfold Task.reconciles at hd
        split at hd <;> first | cases hm | cases hd
      refine ⟨j, publishes_other (c := ⟨w', _⟩) hstays hm fun hstatus => hne ?_⟩
      rw [hid] at hstatus
      exact hstatus.eq hafter
    · simp only [not_forall] at htaken
      obtain ⟨d, hd, hrow⟩ := htaken
      obtain ⟨hm, hother⟩ := announces_of_decides hacts.step hd hrow
      exact ⟨i, publishes_other (c := ⟨w', _⟩) hacts.at_index_after hm hother⟩

namespace Sample

/-- A sell up to its message, where the statement that writes the amount may fail. -/
def received (ok : Bool) : List (Move Task Act) :=
  sell 0 "0xa1" "0xb1" (session 1) ++ statements 0 [true, true] ++
    [.act 0 (.settle (.lookup (.success (some 5)) false))] ++
    statements 0 (if ok then [true, true] else [true, false, true])

def message : Move Task Act := .act 0 (.call true)

end Sample

/-- A sell is confirmed, and its message says so. -/
theorem publishesStatus_of_keepsMessages_sample :
    ∃ c : Config World Task, HasStatus c.store.db 0 .confirmed ∧
      ((engine Sample.directEnv).next c Sample.message).isSome ∧
      onActs PublishesStatus c Sample.message := by
  obtain ⟨c, hrun, hc⟩ := exists_of_runIf (engine Sample.directEnv) (onActs KeepsMessages)
    ⟨boot Sample.database, []⟩ (Sample.received true)
    (fun c => decide (HasStatus c.store.db 0 .confirmed) &&
      ((engine Sample.directEnv).next c Sample.message).isSome) (by decide +kernel)
  obtain ⟨hrow, hnext⟩ := Bool.and_eq_true_iff.mp hc
  exact ⟨c, of_decide_eq_true hrow, hnext,
    (publishesStatus_of_keepsMessages Sample.directEnv Sample.database).1 c _ hrun⟩

/-- The row is confirmed, the statement that writes its amount fails, and the message says
'failed'. -/
theorem failed_message_of_confirmed :
    ¬ ∀ c m, (engine Sample.directEnv).Reaches ⟨boot Sample.database, []⟩ c →
      onActs PublishesStatus c m := by
  intro h
  obtain ⟨c, hrun, hc⟩ := exists_of_run (engine Sample.directEnv) ⟨boot Sample.database, []⟩
    (Sample.received false) (fun c => !decide (onActs PublishesStatus c Sample.message))
    (by decide +kernel)
  simp [h c _ hrun] at hc

end Liquifier.Engine
