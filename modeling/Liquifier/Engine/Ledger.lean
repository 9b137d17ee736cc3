import Liquifier.Engine.Idempotency
import Mathlib.Algebra.Order.Group.Multiset

/-!
The books of the engine: the swaps that the node accepted, the rows of `trades`,
the counters of the sessions, and what the deliveries hold in between.

Of a delivery the books see only whether it stands before the insertion or
before the update of a `record_trade` (`Task.pending`). `LedgerMove` says what a
move does to the books, and every balance below is derived from it.
-/

namespace Liquifier.Engine

open TaskSystem TaskSystem.System

def SwapTx.entry (tx : SwapTx) : TradeEntry := ⟨tx.trigger, some tx.hash, tx.sellAmount⟩

def Sent.tx (sent : Sent) (event : DexSwapEvent) : SwapTx :=
  ⟨sent.sellTxHash, sent.session.id, event, sent.plan.sellAmount⟩

/-- A submitted sale that is not yet in the counter of its session; `inserted`
once it has its row. -/
structure Pending where
  event : DexSwapEvent
  sent : Sent
  inserted : Bool
  deriving DecidableEq

namespace Pending

variable (p : Pending)

def tx : SwapTx := p.sent.tx p.event

def sessionId : Uuid := p.sent.session.id

def amount : ℕ := p.sent.plan.sellAmount

end Pending

def Task.pending : Task → Option Pending
  | .delivery ⟨event, _, .record sent .insert⟩ => some ⟨event, sent, false⟩
  | .delivery ⟨event, _, .record sent (.update _)⟩ => some ⟨event, sent, true⟩
  | _ => none

/-- The task is stopped, or its statement fails. -/
def Act.fails : Act → Bool
  | .stop => true
  | .settle (.statement ok) => !ok
  | _ => false

/-- The swaps accepted for a session in answer to the events that satisfy `p`. -/
def acceptedAmount (p : DexSwapEvent → Bool) (id : Uuid) (accepted : List SwapTx) : ℕ :=
  Table.sumWhere (fun tx => p tx.event && decide (tx.sessionId = id)) (·.sellAmount) accepted

theorem acceptedAmount_append_tx (p : DexSwapEvent → Bool) (id : Uuid) (accepted : List SwapTx)
    (sent : Sent) (event : DexSwapEvent) :
    acceptedAmount p id (accepted ++ [sent.tx event]) = acceptedAmount p id accepted +
      if p event && decide (sent.session.id = id) then sent.plan.sellAmount else 0 := by
  rw [acceptedAmount, Table.sumWhere_append, Table.sumWhere_cons, Table.sumWhere_nil, Nat.add_zero]
  rfl

def World.entries (w : World) : List TradeEntry := w.db.trades.map TradeRow.entry

/-- The three books are the same. -/
structure SameBooks (w w' : World) : Prop where
  accepted : w'.accepted = w.accepted
  entries : w'.entries = w.entries
  amountSold : ∀ id, w'.db.amountSold id = w.db.amountSold id

/-- All that a move can do to the books. -/
inductive LedgerMove (env : Environment) (w w' : World) :
    Option Pending → Act → Option Pending → Prop where
  | idle {p : Option Pending} {a : Act} (h : SameBooks w w') : LedgerMove env w w' p a p
  | submitted {event : DexSwapEvent} {sent : Sent} {a : Act}
      (hnew : known sent.sellTxHash w.accepted = false)
      (haccepted : w'.accepted = w.accepted ++ [sent.tx event]) (hdb : w'.db = w.db) :
      LedgerMove env w w' none a (some ⟨event, sent, false⟩)
  | lost {tx : SwapTx} {signed : Option String} {replies : List NodeReply}
      (hnew : known tx.hash w.accepted = false) (hreply : decisiveReply replies = some .lose)
      (haccepted : w'.accepted = w.accepted ++ [tx]) (hdb : w'.db = w.db) :
      LedgerMove env w w' none (.submit signed replies) none
  | inserted {event : DexSwapEvent} {sent : Sent} {a : Act}
      (haccepted : w'.accepted = w.accepted)
      (hentries : w'.entries = w.entries ++ [(sent.tx event).entry])
      (hsold : ∀ id, w'.db.amountSold id = w.db.amountSold id) :
      LedgerMove env w w' (some ⟨event, sent, false⟩) a (some ⟨event, sent, true⟩)
  | conflict {event : DexSwapEvent} {sent : Sent} {a : Act} (h : SameBooks w w')
      (hold : event.triggerKey sent.session.id ∈ w.entries.map (·.trigger)) :
      LedgerMove env w w' (some ⟨event, sent, false⟩) a none
  | updated {event : DexSwapEvent} {sent : Sent} {a : Act} (hact : a.fails = false)
      (haccepted : w'.accepted = w.accepted) (hentries : w'.entries = w.entries)
      (hsold : sent.session.id ∈ w.db.sessions.map (·.id) → ∀ id, w'.db.amountSold id =
        w.db.amountSold id + if id = sent.session.id then sent.plan.sellAmount else 0) :
      LedgerMove env w w' (some ⟨event, sent, true⟩) a none
  | dropped {p : Pending} {a : Act} (h : SameBooks w w')
      (hcause : a.fails = true ∨ p.inserted = false ∧
        (env.decimalFromStr p.event.amountOut = none ∨
          p.sessionId ∉ w.db.sessions.map (·.id))) :
      LedgerMove env w w' (some p) a none

variable {env : Environment}

theorem SameBooks.refl (w : World) : SameBooks w w := ⟨rfl, rfl, fun _ => rfl⟩

theorem SameBooks.of_frame {w w' : World} (haccepted : w'.accepted = w.accepted)
    (hsessions : w'.db.sessions = w.db.sessions)
    (htrades : w'.db.trades.map TradeRow.core = w.db.trades.map TradeRow.core) :
    SameBooks w w' :=
  ⟨haccepted, Database.entries_of_core htrades, Database.amountSold_congr hsessions⟩

/-! ### Where nothing is pending -/

section NotPending

variable (event : DexSwapEvent) (rest : List SessionInfo) (sent : Sent)

@[simp] theorem pending_afterFinalize (tradeId : Uuid) (phase : FinalizePhase) :
    (Task.delivery ⟨event, rest, sent.afterFinalize tradeId phase⟩).pending = none :=
  sent.afterFinalize_rule tradeId phase (fun _ => rfl) (fun _ => rfl) fun _ => rfl

theorem pending_of_isNew {t : Task} (h : t.isNew = true) : t.pending = none := by
  cases t with
  | delivery d =>
      obtain ⟨event, rest, phase⟩ := d
      cases phase with
      | record sent phase => cases rest <;> cases h
      | _ => rfl
  | _ => rfl

end NotPending

/-! ### The moves of the books -/

theorem DeliveryMove.ledger {w w' : World} {d d' : Delivery} {a : Act}
    (h : DeliveryMove env w d a w' d') :
    LedgerMove env w w' (Task.delivery d).pending a (Task.delivery d').pending := by
  cases h with
  | @stopped event rest phase =>
      cases phase with
      | record sent phase =>
          cases phase with
          | insert => exact .dropped (.refl w) (.inl rfl)
          | update tradeId => exact .dropped (.refl w) (.inl rfl)
          | select => exact .idle (.refl w)
          | returned result => exact .idle (.refl w)
      | _ => exact .idle (.refl w)
  | submitted h =>
      cases h with
      | submitted hnew => exact .submitted hnew rfl rfl
  | submitError h =>
      cases h with
      | lost hnew hreply => exact .lost hnew hreply rfl rfl
      | refused => exact .idle (.refl w)
  | @recorded event rest sent ok phase phase' db h =>
      cases h with
      | insertError hcause =>
          refine .dropped ⟨rfl, rfl, fun _ => rfl⟩ ?_
          rcases hcause with rfl | hcause
          · exact .inl rfl
          · exact .inr ⟨rfl, hcause⟩
      | inserted _ _ hsessions htrades =>
          refine .inserted rfl ?_ (Database.amountSold_congr hsessions)
          simp only [World.entries, htrades, List.map_append, List.map_cons, List.map_nil]
          rfl
      | conflict hold =>
          refine .conflict ⟨rfl, rfl, fun _ => rfl⟩ ?_
          rw [World.entries, List.map_map]
          exact hold
      | updated =>
          rw [Sent.afterRecord, pending_afterFinalize]
          exact .updated rfl rfl rfl fun hsession id =>
            Database.amountSold_addAmountSold hsession _ id
      | updateError => exact .dropped (.refl w) (.inl rfl)
      | selected => exact .idle (.refl w)
      | selectError => exact .idle (.refl w)
  | finalized h =>
      rw [pending_afterFinalize]
      exact .idle (.of_frame rfl h.frame.1 h.frame.2)
  | markedFailed => exact .idle (.of_frame rfl rfl (Database.core_markTradeFailed _ _ _))
  | @published event rest sent =>
      cases sent.soldOut <;> exact .idle ⟨rfl, rfl, fun _ => rfl⟩
  | completed => exact .idle ⟨rfl, rfl, Database.amountSold_setSessionStatus _ _⟩
  | _ => exact .idle ⟨rfl, rfl, fun _ => rfl⟩

theorem TaskMove.ledger {w w' : World} {t t' : Task} {a : Act} (h : TaskMove env w t a w' t') :
    LedgerMove env w w' t.pending a t'.pending := by
  cases h with
  | delivery h => exact h.ledger
  | pass h => exact .idle (.of_frame rfl h.frame.1 h.frame.2)
  | request => exact .idle ⟨rfl, rfl, Database.amountSold_setSessionStatus _ _⟩
  | _ => exact .idle (.refl w)

/-- No swap that was accepted is forgotten. -/
theorem LedgerMove.accepted_subset {w w' : World} {p p' : Option Pending} {a : Act}
    (h : LedgerMove env w w' p a p') : w.accepted ⊆ w'.accepted := by
  cases h with
  | idle h => rw [h.accepted]; exact List.Subset.refl _
  | submitted _ haccepted => rw [haccepted]; exact List.subset_append_left _ _
  | lost _ _ haccepted => rw [haccepted]; exact List.subset_append_left _ _
  | inserted haccepted => rw [haccepted]; exact List.Subset.refl _
  | conflict h => rw [h.accepted]; exact List.Subset.refl _
  | updated _ haccepted => rw [haccepted]; exact List.Subset.refl _
  | dropped h => rw [h.accepted]; exact List.Subset.refl _

theorem nodup_hashes_append {accepted : List SwapTx} {tx : SwapTx}
    (h : (accepted.map (·.hash)).Nodup) (hnew : known tx.hash accepted = false) :
    ((accepted ++ [tx]).map (·.hash)).Nodup := by
  rw [List.map_append]
  refine h.append (List.nodup_singleton _) (List.disjoint_singleton.mpr ?_)
  simpa [known] using hnew

/-! ### What the deliveries hold -/

namespace Task

/-- The trade that a delivery is about to insert. -/
def inserting (t : Task) : Multiset TradeEntry :=
  match t.pending with
  | some ⟨event, sent, false⟩ => {(sent.tx event).entry}
  | _ => 0

/-- What a delivery owes to the counter of the session `id`. -/
def owes (id : Uuid) (t : Task) : ℕ :=
  match t.pending with
  | some ⟨_, sent, true⟩ => if sent.session.id = id then sent.plan.sellAmount else 0
  | _ => 0

/-- What a delivery of an event that satisfies `p` has submitted for the session
`id` and not yet counted. -/
def inFlight (p : DexSwapEvent → Bool) (id : Uuid) (t : Task) : ℕ :=
  match t.pending with
  | some ⟨event, sent, _⟩ =>
      if p event && decide (sent.session.id = id) then sent.plan.sellAmount else 0
  | none => 0

end Task

/-- No trade is recorded and nothing is counted yet. -/
structure Unsold (db : Database) : Prop where
  trades : db.trades = []
  sessions : ∀ r ∈ db.sessions, r.amountSold = 0

theorem Unsold.amountSold {db : Database} (h : Unsold db) (id : Uuid) : db.amountSold id = 0 := by
  by_cases hid : id ∈ db.sessions.map (·.id)
  · obtain ⟨r, hr, rfl⟩ := List.mem_map.mp hid
    rw [Database.amountSold_of_mem hr, h.sessions r hr]
  · exact Database.amountSold_eq_zero hid

section Runs

variable {db : Database} {c : Config World Task} {G : Config World Task → Move Task Act → Prop}

theorem pending_of_entry {t : Task} (h : (engine env).entry t = true) : t.pending = none :=
  pending_of_isNew h

/-- A pending sale was planned for a session that is in the table. -/
theorem pending_sound {w₀ : World} (h : (engine env).Run G ⟨w₀, []⟩ c) {t : Task}
    (ht : t ∈ c.tasks) {p : Pending} (hp : t.pending = some p) :
    Snapshot c.store.db p.sent.session ∧
      ∃ ans, Planned env p.event p.sent.session ans p.sent.plan := by
  have hsound := engine_sound h t ht
  cases t with
  | delivery d =>
      obtain ⟨event, rest, phase⟩ := d
      cases phase with
      | record sent phase =>
          have hsale := hsound.sale sent.toSale rfl
          cases phase <;> cases hp <;> exact hsale
      | _ => cases hp
  | _ => cases hp

theorem pending_session {w₀ : World} (h : (engine env).Run G ⟨w₀, []⟩ c) {t : Task}
    (ht : t ∈ c.tasks) {p : Pending} (hp : t.pending = some p) :
    p.sessionId ∈ c.store.db.sessions.map (·.id) :=
  (pending_sound h ht hp).1.mem_ids

/-- Nothing is counted that is not recorded. -/
theorem amountSold_add_owes_le (hdb : Unsold db) (h : (engine env).Run G ⟨boot db, []⟩ c)
    (id : Uuid) : c.store.db.amountSold id + tally (Task.owes id) c.tasks ≤
      recordedAmount c.store.db.trades id := by
  refine h.tally_le (Φ := fun w => w.db.amountSold id) (φ := Task.owes id)
    (Ψ := fun w => recordedAmount w.db.trades id) ?_ ?_ ?_
  · simp [boot, hdb.amountSold]
  · intro c t _ _ hentry
    rw [Task.owes, pending_of_entry hentry]
  · intro c i a t w' t' hrun _ _ hacts
    have hsession := fun p => pending_session hrun hacts.mem (p := p)
    have hmove := (engine_move hacts).ledger
    simp only [Task.owes]
    generalize t.pending = p, t'.pending = p' at hmove hsession
    cases hmove with
    | idle h =>
        exact ⟨0, by simp [h.amountSold], by simp [recordedAmount_congr h.entries]⟩
    | submitted _ _ hdb => exact ⟨0, by simp [hdb], by simp [hdb]⟩
    | lost _ _ _ hdb => exact ⟨0, by simp [hdb], by simp [hdb]⟩
    | @inserted event sent _ _ hentries hsold =>
        refine ⟨if sent.session.id = id then sent.plan.sellAmount else 0, by simp [hsold], ?_⟩
        rw [recordedAmount_of_append hentries]
        exact Nat.le_refl _
    | conflict h => exact ⟨0, by simp [h.amountSold], by simp [recordedAmount_congr h.entries]⟩
    | updated _ _ hentries hsold =>
        refine ⟨0, ?_, by simp [recordedAmount_congr hentries]⟩
        rw [hsold (hsession _ rfl), Nat.add_zero, Nat.add_zero]
        simp only [eq_comm, Nat.le_refl]
    | dropped h =>
        exact ⟨0, by simp [h.amountSold], by simp [recordedAmount_congr h.entries]⟩

/-- What the deliveries hold was accepted by the node. -/
theorem inFlight_le_accepted (h : (engine env).Run G ⟨boot db, []⟩ c)
    (p : DexSwapEvent → Bool) (id : Uuid) :
    tally (Task.inFlight p id) c.tasks ≤ acceptedAmount p id c.store.accepted := by
  have hle := h.tally_le (Φ := fun _ => 0) (φ := Task.inFlight p id)
    (Ψ := fun w => acceptedAmount p id w.accepted) (by simp [boot, acceptedAmount]) ?_ ?_
  · simpa using hle
  · intro c t _ _ hentry
    rw [Task.inFlight, pending_of_entry hentry]
  · intro c i a t w' t' hrun _ _ hacts
    have hmove := (engine_move hacts).ledger
    simp only [Task.inFlight]
    generalize t.pending = q, t'.pending = q' at hmove
    cases hmove with
    | idle h => exact ⟨0, by simp, by simp [h.accepted]⟩
    | @submitted event sent _ _ haccepted =>
        refine ⟨if p event && decide (sent.session.id = id) then sent.plan.sellAmount else 0,
          by simp, ?_⟩
        rw [haccepted, acceptedAmount_append_tx]
    | lost _ _ haccepted => exact ⟨0, by simp, by simp [haccepted, acceptedAmount]⟩
    | inserted haccepted => exact ⟨0, by simp, by simp [haccepted]⟩
    | conflict h => exact ⟨0, by simp, by simp [h.accepted]⟩
    | updated _ haccepted => exact ⟨0, by simp, by simp [haccepted]⟩
    | dropped h => exact ⟨0, by simp, by simp [h.accepted]⟩

/-- A pending sale is one of the accepted swaps. -/
theorem pending_accepted {w₀ : World} (h : (engine env).Run G ⟨w₀, []⟩ c) :
    ∀ t ∈ c.tasks, ∀ p, t.pending = some p → p.tx ∈ c.store.accepted := by
  refine h.assertions (J := fun w t => ∀ p, t.pending = some p → p.tx ∈ w.accepted)
    (by simp) ?_ ?_ ?_
  · intro c t _ _ hentry p hp
    rw [pending_of_entry hentry] at hp
    cases hp
  · intro c i a t w' t' hrun hJ _ hacts p hp
    have ht := hJ t hacts.mem
    have hmove := (engine_move hacts).ledger
    generalize t.pending = q, t'.pending = q' at hmove ht hp
    cases hmove with
    | idle h => rw [h.accepted]; exact ht p hp
    | submitted _ haccepted => cases hp; rw [haccepted]; simp [Pending.tx]
    | inserted haccepted => cases hp; rw [haccepted]; exact ht ⟨_, _, false⟩ rfl
    | _ => cases hp
  · intro c i a t w' t' hrun hJ _ hacts u hu p hp
    have hmove := (engine_move hacts).ledger
    exact hmove.accepted_subset (hJ u hu p hp)

/-- The node takes every hash once. -/
theorem accepted_hashes (h : (engine env).Run G ⟨boot db, []⟩ c) :
    (c.store.accepted.map (·.hash)).Nodup := by
  refine h.store_invariant (I := fun w => (w.accepted.map (·.hash)).Nodup) (by simp [boot]) ?_
  intro c i a t w' t' _ hI _ hacts
  have hmove := (engine_move hacts).ledger
  generalize t.pending = p, t'.pending = p' at hmove
  cases hmove with
  | idle h => rw [h.accepted]; exact hI
  | submitted hnew haccepted => rw [haccepted]; exact nodup_hashes_append hI hnew
  | lost hnew _ haccepted => rw [haccepted]; exact nodup_hashes_append hI hnew
  | inserted haccepted => rw [haccepted]; exact hI
  | conflict h => rw [h.accepted]; exact hI
  | updated _ haccepted => rw [haccepted]; exact hI
  | dropped h => rw [h.accepted]; exact hI

end Runs

end Liquifier.Engine
