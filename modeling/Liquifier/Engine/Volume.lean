import Liquifier.Engine.Accounting
import Liquifier.Engine.Guards
import Liquifier.Lib.Charge

/-!
What a session sells is a share of the volume.

Every swap is an answer to one event, and sells no more than the session's percentage of
what was bought there. The rows of `trades` have a trigger each, so the counter of a session
is paid for by distinct buys in its pools, whatever is delivered twice, fails or stops. Of
what the node accepts the same holds where nothing is sold into twice.
-/

namespace Liquifier.Engine

open TaskSystem TaskSystem.System

/-! ### What the engine leaves alone -/

/-- The columns of a session that no statement of the engine changes. -/
def terms (r : SessionRow) : SessionRow := { r with status := .pending, amountSold := 0 }

theorem eq_of_terms {r r' : SessionRow} (h : terms r = terms r') :
    r.id = r'.id ∧ r.chain = r'.chain ∧ r.sellToken = r'.sellToken ∧
      r.povPercent = r'.povPercent := by
  simp only [terms, SessionRow.mk.injEq] at h
  obtain ⟨hid, -, -, hchain, -, hsell, -, -, -, -, -, -, -, hpov, -⟩ := h
  exact ⟨hid, hchain, hsell, hpov⟩

/-- The sessions and their pools are the same up to what the engine writes. -/
structure SameTerms (db db' : Database) : Prop where
  sessions : db'.sessions.map terms = db.sessions.map terms
  pools : db'.sessionPools = db.sessionPools

namespace SameTerms

variable {db db' db'' : Database}

theorem refl (db : Database) : SameTerms db db := ⟨rfl, rfl⟩

theorem trans (h : SameTerms db db') (h' : SameTerms db' db'') : SameTerms db db'' :=
  ⟨h'.sessions.trans h.sessions, h'.pools.trans h.pools⟩

theorem updateSession (db : Database) (id : Uuid) {f : SessionRow → SessionRow}
    (hf : ∀ r, (f r).id = r.id) (hterms : ∀ r, terms (f r) = terms r) :
    SameTerms db (db.updateSession id f hf) := by
  refine ⟨?_, rfl⟩
  simp only [Database.updateSession, Table.update, List.map_map]
  refine List.map_congr_left fun r _ => ?_
  simp only [Function.comp_apply]
  split
  · exact hterms r
  · rfl

theorem setSessionStatus (db : Database) (id : Uuid) (status : SessionStatus) :
    SameTerms db (db.setSessionStatus id status) :=
  .updateSession db id _ fun _ => rfl

theorem of_insertTrade {t : Database.NewTrade} {id : Option Uuid}
    (h : db.insertTrade t = some (db', id)) : SameTerms db db' := by
  unfold Database.insertTrade at h
  split at h
  · cases h
    exact .refl db
  · split at h
    · cases h
      exact ⟨rfl, rfl⟩
    · cases h

theorem of_mem (h : SameTerms db db') {r : SessionRow} (hr : r ∈ db'.sessions) :
    ∃ r₀ ∈ db.sessions, terms r₀ = terms r :=
  List.mem_map.mp (h.sessions ▸ List.mem_map_of_mem hr)

theorem poolsOf (h : SameTerms db db') (id : Uuid) : db'.poolsOf id = db.poolsOf id := by
  rw [Database.poolsOf, h.pools, Database.poolsOf]

end SameTerms

variable {env : Environment}

theorem recordStep_sameTerms {call : RecordCall} {ok : Bool} {db db' : Database}
    {phase phase' : RecordPhase} (h : recordStep env call ok db phase = some (db', phase')) :
    SameTerms db db' := by
  cases phase with
  | insert =>
      simp only [recordStep] at h
      split at h
      · cases h
        exact .refl db
      · split at h
        · cases h
          exact .refl db
        · rename_i hinsert
          cases h
          exact .of_insertTrade (Option.ite_none_right_eq_some.mp hinsert).2
        · rename_i hinsert
          cases h
          exact .of_insertTrade (Option.ite_none_right_eq_some.mp hinsert).2
  | update tradeId =>
      simp only [recordStep] at h
      split at h
      · cases h
        exact .updateSession db _ _ fun _ => rfl
      · cases h
        exact .refl db
  | select =>
      simp only [recordStep] at h
      split at h <;> cases h <;> exact .refl db
  | returned result => cases h

theorem FinalizeMove.sameTerms {tradeId : Uuid} {targetToken : String} {db db' : Database}
    {input : SettleInput} {phase phase' : FinalizePhase}
    (h : FinalizeMove tradeId targetToken db input phase db' phase') : SameTerms db db' := by
  cases h <;> exact ⟨rfl, rfl⟩

theorem PassMove.sameTerms {db db' : Database} {input : PassInput} {phase phase' : PassPhase}
    (h : PassMove db input phase db' phase') : SameTerms db db' := by
  cases h <;> exact ⟨rfl, rfl⟩

theorem deliveryStep_sameTerms {a : Act} {w w' : World} {d d' : Delivery}
    (h : deliveryStep env a w d = some (w', d')) : SameTerms w.db w'.db := by
  have hmove := deliveryStep_move h
  cases hmove with
  | @recorded event rest sent ok phase phase' db hrecorded =>
      obtain ⟨⟨db', phase''⟩, hstep, heq⟩ := Option.map_eq_some_iff.mp h
      obtain ⟨hworld, -⟩ := Prod.mk.inj heq
      rw [← hworld]
      exact recordStep_sameTerms hstep
  | finalized hfinalized => exact hfinalized.sameTerms
  | markedFailed => exact ⟨rfl, rfl⟩
  | completed => exact .setSessionStatus _ _ _
  | _ => exact .refl _

theorem taskStep_sameTerms {a : Act} {w w' : World} {t t' : Task}
    (h : taskStep env a w t = some (w', t')) : SameTerms w.db w'.db := by
  cases t with
  | delivery d =>
      obtain ⟨⟨w₁, d'⟩, hstep, heq⟩ := Option.map_eq_some_iff.mp h
      cases heq
      exact deliveryStep_sameTerms hstep
  | pass phase =>
      rcases passTask_cases h with ⟨-, rfl, -⟩ | ⟨input, db, phase', -, hmove, rfl, -⟩
      · exact .refl _
      · exact hmove.sameTerms
  | request sessionId status done =>
      cases taskStep_move h with
      | request => exact .setSessionStatus _ _ _
      | requestError => exact .refl _

/-! ### The share of a session -/

/-- `povBps` of a row. -/
def rowBps (env : Environment) (r : SessionRow) : ℕ := povBps env { r with pools := [] }

/-- Somebody has bought the token that the session sells, in one of its pools. -/
def isBuy (db : Database) (r : SessionRow) (e : DexSwapEvent) : Bool :=
  decide (r.chain = e.chain) && (db.poolsOf r.id).any fun p =>
    eqIgnoreAsciiCase p.poolAddress e.poolAddress &&
      eqIgnoreAsciiCase (resolvedTokenOut e p) r.sellToken

/-- The percentage of each of the buys, rounded down. -/
def volumeShare (env : Environment) (db : Database) (r : SessionRow)
    (events : List DexSwapEvent) : ℕ :=
  ∑ e ∈ events.toFinset with isBuy db r e, buyAmount e * rowBps env r / 10000

/-- The amount is a share of the buy, for the session with the id. -/
def Shares (env : Environment) (db : Database) (e : DexSwapEvent) (id : Uuid) (amount : ℕ) :
    Prop :=
  ∀ r ∈ db.sessions, r.id = id →
    isBuy db r e = true ∧ amount ≤ buyAmount e * rowBps env r / 10000

/-- A session that was read from the tables for the event. -/
structure Watched (db : Database) (e : DexSwapEvent) (s : SessionInfo) : Prop where
  row : ∃ r ∈ db.sessions, terms r = terms s.toSessionRow
  chain : s.chain = e.chain
  pools : ∀ p ∈ s.pools, p ∈ db.poolsOf s.id

theorem watched_of_answer {db₀ db : Database} (hterms : SameTerms db₀ db) {e : DexSwapEvent}
    {answer : List SessionInfo}
    (h : db.answersActiveSessions e.chain e.poolAddress answer = true) {s : SessionInfo}
    (hs : s ∈ answer) : Watched db₀ e s := by
  rw [Database.answersActiveSessions, Bool.and_eq_true, List.isPerm_iff, List.all_eq_true] at h
  have hactive : s.toSessionRow ∈ db.activeSessions e.chain e.poolAddress :=
    h.1.subset (List.mem_map_of_mem hs)
  rw [Database.activeSessions, List.mem_filter] at hactive
  obtain ⟨hrow, hactive⟩ := hactive
  refine ⟨hterms.of_mem hrow, ?_, fun p hp => ?_⟩
  · simp only [Bool.and_eq_true, decide_eq_true_eq] at hactive
    exact hactive.1.1
  · have hpools := h.2 s hs
    rw [Bool.or_eq_true, decide_eq_true_eq, List.isPerm_iff] at hpools
    rcases hpools with hnone | hperm
    · rw [hnone] at hp
      cases hp
    · rw [← hterms.poolsOf]
      exact hperm.subset hp

/-- What is planned for a session is a share of the buy. -/
theorem shares_of_planSwap {db : Database} {e : DexSwapEvent} {s : SessionInfo}
    {ans : SwapAnswers} {plan : SwapPlan} (hs : Watched db e s)
    (h : planSwap env e s ans = some plan) : Shares env db e s.id plan.sellAmount := by
  intro r hr hid
  have hplanned := planSwap_planned h
  obtain ⟨r', hr', hterms⟩ := hs.row
  obtain ⟨hid', hchain, hsell, hpov⟩ := eq_of_terms hterms
  obtain rfl : r = r' := List.inj_on_of_nodup_map db.session_ids hr hr' (hid.trans hid'.symm)
  constructor
  · have hpool := hs.pools _ (List.mem_of_find?_eq_some hplanned.pool_found)
    have haddress := List.find?_some hplanned.pool_found
    rw [isBuy, hchain, hs.chain, hsell, hid, Bool.and_eq_true]
    exact ⟨decide_eq_true rfl, List.any_eq_true.mpr
      ⟨plan.pool, hpool, by rw [Bool.and_eq_true]; exact ⟨haddress, hplanned.token_out⟩⟩⟩
  · have hbps : rowBps env r = povBps env s := by rw [rowBps, povBps, povBps, hpov]
    rw [hbps]
    exact hplanned.sellShare

/-! ### The swaps of a run -/

/-- The event of a delivery. -/
def Task.event : Task → Option DexSwapEvent
  | .delivery d => some d.event
  | _ => none

/-- The events that were delivered, each as often as it was. -/
def delivered (c : Config World Task) : List DexSwapEvent := c.tasks.filterMap Task.event

/-- What is read is watched, and what is sold is a share. -/
structure Delivery.Shared (env : Environment) (db : Database) (d : Delivery) : Prop where
  rest : ∀ s ∈ d.rest, Watched db d.event s
  sale : ∀ sale, d.phase.sale = some sale →
    Shares env db d.event sale.session.id sale.plan.sellAmount

/-- A move keeps the event; its sessions are old or just read, and so is its sale. -/
theorem DeliveryMove.sources {w w' : World} {d d' : Delivery} {a : Act}
    (h : DeliveryMove env w d a w' d') :
    d'.event = d.event ∧
    (d'.rest ⊆ d.rest ∨
      w.db.answersActiveSessions d.event.chain d.event.poolAddress d'.rest = true) ∧
    ∀ sale, d'.phase.sale = some sale → d.phase.sale = some sale ∨
      ∃ ans, sale.session ∈ d.rest ∧ planSwap env d.event sale.session ans = some sale.plan := by
  have hsame (rest : List SessionInfo) : rest ⊆ rest := List.Subset.refl _
  cases h with
  | queried h => exact ⟨rfl, .inr h, forall_of_eq_none rfl⟩
  | skipped h => exact ⟨rfl, .inl (List.subset_cons_self _ _), forall_of_eq_none rfl⟩
  | @planned event session rest ans plan h =>
      refine ⟨rfl, .inl (List.subset_cons_self _ _), fun sale hsale => .inr ⟨ans, ?_⟩⟩
      obtain rfl := Option.some.inj hsale
      exact ⟨List.mem_cons_self, h⟩
  | @recorded event rest sent ok phase phase' db h =>
      refine ⟨rfl, .inl (hsame _), fun sale hsale => .inl ?_⟩
      cases h with
      | updated =>
          rw [Sent.afterRecord, Sent.sale_afterFinalize] at hsale
          exact hsale
      | inserted => exact hsale
      | conflict => exact hsale
      | _ => cases hsale
  | finalized h =>
      refine ⟨rfl, .inl (hsame _), fun sale hsale => .inl ?_⟩
      rw [Sent.sale_afterFinalize] at hsale
      exact hsale
  | @published event rest sent =>
      refine ⟨rfl, .inl (hsame _), fun sale hsale => .inl ?_⟩
      cases hsold : sent.soldOut with
      | true =>
          rw [hsold] at hsale
          exact hsale
      | false =>
          rw [hsold] at hsale
          cases hsale
  | submitted => exact ⟨rfl, .inl (hsame _), fun sale hsale => .inl hsale⟩
  | markedFailed => exact ⟨rfl, .inl (hsame _), fun sale hsale => .inl hsale⟩
  | completed => exact ⟨rfl, .inl (hsame _), fun sale hsale => .inl hsale⟩
  | completeError => exact ⟨rfl, .inl (hsame _), fun sale hsale => .inl hsale⟩
  | swept => exact ⟨rfl, .inl (hsame _), fun sale hsale => .inl hsale⟩
  | _ => exact ⟨rfl, .inl (hsame _), forall_of_eq_none rfl⟩

theorem Delivery.Shared.step {db₀ : Database} {w w' : World} {d d' : Delivery} {a : Act}
    (hd : d.Shared env db₀) (hterms : SameTerms db₀ w.db) (h : DeliveryMove env w d a w' d') :
    d'.Shared env db₀ := by
  obtain ⟨hevent, hrest, hsale⟩ := h.sources
  refine ⟨fun s hs => ?_, fun sale hsale' => ?_⟩
  · rw [hevent]
    rcases hrest with hsub | hanswer
    · exact hd.rest s (hsub hs)
    · exact watched_of_answer hterms hanswer hs
  · rw [hevent]
    rcases hsale sale hsale' with hold | ⟨ans, hmem, hplan⟩
    · exact hd.sale sale hold
    · exact shares_of_planSwap (hd.rest _ hmem) hplan

/-- The node takes no swap, or the swap of a delivery that submits. -/
theorem DeliveryMove.accepted {w w' : World} {d d' : Delivery} {a : Act}
    (h : DeliveryMove env w d a w' d') :
    w'.accepted = w.accepted ∨ ∃ sale hash, d.phase.sale = some sale ∧
      w'.accepted = w.accepted ++ [⟨hash, sale.session.id, d.event, sale.plan.sellAmount⟩] := by
  cases h with
  | submitted h =>
      cases h with
      | submitted => exact .inr ⟨_, _, rfl, rfl⟩
  | submitError h =>
      cases h with
      | lost => exact .inr ⟨_, _, rfl, rfl⟩
      | refused => exact .inl rfl
  | _ => exact .inl rfl

/-- What a run has read, submitted and recorded comes from the events that were delivered. -/
structure SharesSound (env : Environment) (db : Database) (c : Config World Task) : Prop where
  terms : SameTerms db c.store.db
  deliveries : ∀ d, .delivery d ∈ c.tasks → d.Shared env db
  accepted : ∀ tx ∈ c.store.accepted,
    tx.event ∈ delivered c ∧ Shares env db tx.event tx.sessionId tx.sellAmount
  entries : ∀ e ∈ c.store.entries, ∃ tx ∈ c.store.accepted, tx.entry = e

section Runs

variable {db : Database} {c : Config World Task} {G : Config World Task → Move Task Act → Prop}

theorem TaskMove.event_eq {w w' : World} {t t' : Task} {a : Act} (h : TaskMove env w t a w' t') :
    t'.event = t.event := by
  cases h with
  | delivery h => exact congrArg some h.sources.1
  | _ => rfl

theorem mem_delivered {e : DexSwapEvent} : e ∈ delivered c ↔ ∃ t ∈ c.tasks, t.event = some e :=
  List.mem_filterMap

/-- A swap that the node takes is an old one, or the sale of the delivery that moves. -/
theorem TaskMove.accepted {w w' : World} {t t' : Task} {a : Act} (h : TaskMove env w t a w' t')
    {tx : SwapTx} (htx : tx ∈ w'.accepted) :
    tx ∈ w.accepted ∨ ∃ d sale hash, t = .delivery d ∧ d.phase.sale = some sale ∧
      tx = ⟨hash, sale.session.id, d.event, sale.plan.sellAmount⟩ := by
  cases h with
  | @delivery d _ _ _ h =>
      rcases h.accepted with heq | ⟨sale, hash, hsale, heq⟩
      · exact .inl (heq ▸ htx)
      · rw [heq] at htx
        rcases List.mem_append.mp htx with htx | htx
        · exact .inl htx
        · exact .inr ⟨d, sale, hash, rfl, hsale, List.mem_singleton.mp htx⟩
  | _ => exact .inl htx

/-- What was delivered stays so. -/
theorem delivered_subset_of_next {c' : Config World Task} {m : Move Task Act}
    (h : (engine env).next c m = some c') : delivered c ⊆ delivered c' := by
  intro e he
  obtain ⟨u, hu, hevent⟩ := mem_delivered.mp he
  rcases next_cases h with ⟨t, rfl, -, rfl⟩ | ⟨i, a, t, w', t', rfl, hacts, rfl⟩
  · exact mem_delivered.mpr ⟨u, List.mem_append_left _ hu, hevent⟩
  · rcases System.mem_set_or_eq hacts.at_index t' hu with hu | rfl
    · exact mem_delivered.mpr ⟨u, hu, hevent⟩
    · exact mem_delivered.mpr
        ⟨t', hacts.mem_after, (engine_move hacts).event_eq.trans hevent⟩

/-- A delivery that begins has read nothing. -/
theorem Delivery.shared_of_entry {d : Delivery} (h : (engine env).entry (.delivery d) = true) :
    d.Shared env db := by
  obtain ⟨event, rest, phase⟩ := d
  cases rest <;> cases phase <;> simp_all [engine, Task.isNew]
  exact ⟨fun s hs => absurd hs List.not_mem_nil, forall_of_eq_none rfl⟩

/-- What a move adds to the books was accepted before it. -/
theorem entries_of_move (h : (engine env).Run G ⟨boot db, []⟩ c) {i : ℕ} {a : Act} {t t' : Task}
    {w' : World} (hacts : (engine env).Acts c i a t w' t')
    (hI : ∀ e ∈ c.store.entries, ∃ tx ∈ c.store.accepted, tx.entry = e) :
    ∀ e ∈ w'.entries, ∃ tx ∈ w'.accepted, tx.entry = e := by
  have hledger := (engine_move hacts).ledger
  have hsub := hledger.accepted_subset
  have hpending := pending_accepted h t hacts.mem
  have hsame : w'.entries = c.store.entries →
      ∀ e ∈ w'.entries, ∃ tx ∈ w'.accepted, tx.entry = e := by
    intro heq e he
    obtain ⟨tx, htx, hentry⟩ := hI e (heq ▸ he)
    exact ⟨tx, hsub htx, hentry⟩
  generalize t.pending = p, t'.pending = p' at hledger hpending
  cases hledger with
  | idle h => exact hsame h.entries
  | submitted _ _ hdb => exact hsame (by rw [World.entries, hdb, World.entries])
  | lost _ _ _ hdb => exact hsame (by rw [World.entries, hdb, World.entries])
  | @inserted event sent _ haccepted hentries =>
      intro e he
      rw [hentries] at he
      rcases List.mem_append.mp he with he | he
      · obtain ⟨tx, htx, hentry⟩ := hI e he
        exact ⟨tx, hsub htx, hentry⟩
      · exact ⟨sent.tx event, hsub (hpending _ rfl), (List.mem_singleton.mp he).symm⟩
  | conflict h => exact hsame h.entries
  | updated _ _ hentries => exact hsame hentries
  | dropped h => exact hsame h.entries

theorem sharesSound_of_run (hdb : Unsold db) (h : (engine env).Run G ⟨boot db, []⟩ c) :
    SharesSound env db c := by
  refine h.invariant (I := SharesSound env db) ?_ ?_
  · refine ⟨.refl db, fun d hd => absurd hd List.not_mem_nil,
      fun tx htx => absurd htx List.not_mem_nil, fun e he => ?_⟩
    rw [World.entries, boot, hdb.trades] at he
    cases he
  · intro c c' m hrun hI _ hn
    have hdelivered := delivered_subset_of_next hn
    rcases next_cases hn with ⟨t, rfl, hentry, rfl⟩ | ⟨i, a, t, w', t', rfl, hacts, rfl⟩
    · refine ⟨hI.terms, fun d hd => ?_, fun tx htx => ?_, hI.entries⟩
      · rcases List.mem_append.mp hd with hd | hd
        · exact hI.deliveries d hd
        · rw [← List.mem_singleton.mp hd] at hentry
          exact Delivery.shared_of_entry hentry
      · exact ⟨hdelivered (hI.accepted tx htx).1, (hI.accepted tx htx).2⟩
    · have hmove := engine_move hacts
      refine ⟨hI.terms.trans (taskStep_sameTerms hacts.step), fun d hd => ?_, fun tx htx => ?_,
        entries_of_move hrun hacts hI.entries⟩
      · rcases List.mem_or_eq_of_mem_set hd with hd | rfl
        · exact hI.deliveries d hd
        · cases hmove with
          | @delivery d₀ _ _ _ hmove => exact (hI.deliveries d₀ hacts.mem).step hI.terms hmove
      · rcases hmove.accepted htx with hold | ⟨d, sale, hash, rfl, hsale, rfl⟩
        · exact ⟨hdelivered (hI.accepted tx hold).1, (hI.accepted tx hold).2⟩
        · exact ⟨hdelivered (mem_delivered.mpr ⟨_, hacts.mem, rfl⟩),
            (hI.deliveries d hacts.mem).sale sale hsale⟩

/-- Rows have different triggers, so they are paid for by different sources. -/
theorem recordedAmount_le_sum {σ : Type*} [DecidableEq σ] {w : World} {id : Uuid}
    (keyOf : σ → TriggerKey) {sources : Finset σ} {v : σ → ℕ}
    (hpaid : ∀ e ∈ w.entries, e.trigger.sessionId = id →
      ∃ s ∈ sources, e.trigger = keyOf s ∧ e.sellAmount ≤ v s) :
    recordedAmount w.db.trades id ≤ ∑ s ∈ sources, v s := by
  have htriggers : (w.entries.map (·.trigger)).Nodup := by
    rw [World.entries, List.map_map]
    exact w.db.trade_triggers
  have hone : ∀ (e e' : TradeEntry) (s : σ), e.trigger = keyOf s → e'.trigger = keyOf s →
      e.trigger = e'.trigger := fun _ _ _ h h' => h.trans h'.symm
  rw [recordedAmount_eq_entries, Table.sumWhere]
  refine Charge.sum_le_sum_sources (htriggers.sublist (List.filter_sublist.map _)) hone ?_
  intro e he
  obtain ⟨he, hid⟩ := List.mem_filter.mp he
  exact hpaid e he (of_decide_eq_true hid)

/-- What the node has accepted is paid for by the buy that it answers. -/
theorem SharesSound.paid (hsound : SharesSound env db c) {r : SessionRow} (hr : r ∈ db.sessions)
    {tx : SwapTx} (htx : tx ∈ c.store.accepted) (hid : tx.sessionId = r.id) :
    tx.event ∈ (delivered c).toFinset.filter (isBuy db r ·) ∧
      tx.trigger = tx.event.triggerKey r.id ∧
      tx.sellAmount ≤ buyAmount tx.event * rowBps env r / 10000 := by
  obtain ⟨hevent, hshares⟩ := hsound.accepted tx htx
  obtain ⟨hbuy, hle⟩ := hshares r hr hid.symm
  refine ⟨Finset.mem_filter.mpr ⟨List.mem_toFinset.mpr hevent, hbuy⟩, ?_, hle⟩
  rw [← hid]
  rfl

/-- In every run, with any number of deliveries of any events in any order and whatever
fails or stops, the amount that a session has sold, and the amount that is recorded for it,
is at most its percentage of the volume: the sum over the different events that were
delivered, and that are buys of its sell token in its pools. -/
theorem sold_le_volumeShare (hdb : Unsold db) (h : (engine env).Run G ⟨boot db, []⟩ c)
    {r : SessionRow} (hr : r ∈ db.sessions) :
    c.store.db.amountSold r.id ≤ recordedAmount c.store.db.trades r.id ∧
      recordedAmount c.store.db.trades r.id ≤ volumeShare env db r (delivered c) := by
  have hsound := sharesSound_of_run hdb h
  refine ⟨(Nat.le_add_right _ _).trans (amountSold_add_owes_le hdb h r.id), ?_⟩
  refine recordedAmount_le_sum (·.triggerKey r.id) fun e he hid => ?_
  obtain ⟨tx, htx, rfl⟩ := hsound.entries e he
  exact ⟨tx.event, hsound.paid hr htx hid⟩

/-- Two buys of 1000 are sold into at once, at half of the volume. -/
theorem sold_le_volumeShare_sample : ∃ c : Config World Task,
    c.store.db.amountSold 1 = 1000 ∧ 1000 ≤ volumeShare Sample.directEnv Sample.database
      (Sample.row 1) (delivered c) := by
  obtain ⟨c, hrun, hc⟩ := exists_of_run (engine Sample.directEnv) ⟨boot Sample.database, []⟩
    (Sample.sell 0 "0xa1" "0xb1" (Sample.session 1) ++
      Sample.sell 1 "0xa2" "0xb2" (Sample.session 1) ++
      Sample.statements 0 [true, true] ++ Sample.statements 1 [true, true])
    (fun c => c.store.db.amountSold 1 = 1000) (by decide +kernel)
  have hsold := of_decide_eq_true hc
  obtain ⟨hle, hshare⟩ := sold_le_volumeShare Sample.unsold hrun (r := Sample.row 1)
    List.mem_cons_self
  exact ⟨c, hsold, hsold ▸ hle.trans hshare⟩

/-- In every run in which every sell is the first one for its trigger, what the node accepts
for a session is at most the session's percentage of the volume. -/
theorem accepted_le_volumeShare (hdb : Unsold db)
    (h : (engine env).Run (onActs (FirstSell env)) ⟨boot db, []⟩ c) {r : SessionRow}
    (hr : r ∈ db.sessions) :
    acceptedAmount (fun _ => true) r.id c.store.accepted ≤ volumeShare env db r (delivered c) := by
  have hsound := sharesSound_of_run hdb h
  let swaps := (c.store.accepted.filter (·.sessionId = r.id)).map SwapTx.entry
  have hamount : acceptedAmount (fun _ => true) r.id c.store.accepted =
      (swaps.map (·.sellAmount)).sum := by
    simp only [swaps, acceptedAmount, Table.sumWhere, Bool.true_and, List.map_map]
    rfl
  have hone : ∀ (e e' : TradeEntry) (event : DexSwapEvent), e.trigger = event.triggerKey r.id →
      e'.trigger = event.triggerKey r.id → e.trigger = e'.trigger :=
    fun _ _ _ h h' => h.trans h'.symm
  rw [hamount]
  refine Charge.sum_le_sum_sources ?_ hone fun e he => ?_
  · have htriggers : (c.store.accepted.map (·.trigger)).Nodup := by
      refine List.nodup_iff_count_le_one.mpr fun key => ?_
      rw [List.count_eq_countP, List.countP_map]
      refine le_of_eq_of_le (List.countP_congr fun tx _ => ?_) (submittedOnce_of_firstSell h key)
      simp
    rw [List.map_map]
    exact htriggers.sublist (List.filter_sublist.map _)
  · obtain ⟨tx, htx, rfl⟩ := List.mem_map.mp he
    obtain ⟨htx, hid⟩ := List.mem_filter.mp htx
    exact ⟨tx.event, hsound.paid hr htx (of_decide_eq_true hid)⟩

/-- A buy of 1000 is sold into once. -/
theorem accepted_le_volumeShare_sample : ∃ c : Config World Task,
    acceptedAmount (fun _ => true) 1 c.store.accepted = 500 ∧
      500 ≤ volumeShare Sample.directEnv Sample.database (Sample.row 1) (delivered c) := by
  obtain ⟨c, hrun, hc⟩ := exists_of_runIf (engine Sample.directEnv)
    (onActs (FirstSell Sample.directEnv)) ⟨boot Sample.database, []⟩
    (Sample.sell 0 "0xa1" "0xb1" (Sample.session 1))
    (fun c => acceptedAmount (fun _ => true) 1 c.store.accepted = 500) (by decide +kernel)
  have haccepted := of_decide_eq_true hc
  exact ⟨c, haccepted, haccepted ▸ accepted_le_volumeShare Sample.unsold hrun
    (r := Sample.row 1) List.mem_cons_self⟩

end Runs

end Liquifier.Engine
