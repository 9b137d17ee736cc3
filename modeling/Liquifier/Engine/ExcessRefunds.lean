import Liquifier.Engine.Plan
import Liquifier.Gateway.RefundReview
import Liquifier.Gateway.SessionViews

/-!
The refund requests that the engine makes for what is left of the sell token when a
session completes.

The engine writes a row without a token and without the flag `verified`, which a later
migration has added to the table. Only a token sets the flag, and only rows with the
flag are listed for an administrator, so no request ever brings such a row into the
list. `ON CONFLICT DO NOTHING` stands beside a fresh id, so nothing keeps a second row
for the same wallet and token away.
-/

namespace Liquifier.Engine

open Gateway Kms Trace

/-! ### The completion of a session -/

/-- What the end of a session meets outside of the tables. -/
structure CompletionEnv where
  now : ℕ
  /-- The query for the address of the wallet succeeds. -/
  selectsAddress : Bool
  nodes : Nodes
  /-- The query for the wallet of the session succeeds. -/
  selectsWallet : Bool
  /-- `Uuid::new_v4` for the request. -/
  refundId : Uuid
  writes : Bool

section Completion

variable (cfg : Settings) (db : RefundStore) (session : SessionRow) (env : CompletionEnv)

/-- What the node of the chain says that the wallet of the session holds of the sell
token. -/
def remainingBalance : Option ℕ := do
  let wallet := if env.selectsAddress then
      some ((Table.get (·.id) db.wallets session.walletId).map fun w => (w.address, w.chain))
    else none
  let sender ← resolveSessionWalletAddress wallet session.chain
  let rpcUrl ← chainRpcUrl cfg session.chain
  let url ← if env.nodes.parsesUrl rpcUrl then some rpcUrl else none
  let sellToken ← Address.parse session.sellToken
  env.nodes.balanceOf url sellToken sender

/-- `SELECT w.id, w.user_id FROM wallets w WHERE w.id = (SELECT wallet_id FROM sessions
WHERE id = $1)`. -/
def sessionWallet : Option WalletRow :=
  if env.selectsWallet then
    (Table.get (·.id) db.sessions session.id).bind fun s => Table.get (·.id) db.wallets s.walletId
  else none

/-- The values bound to the `INSERT`; the columns it does not name keep their defaults. -/
def excessRow (remaining : ℕ) (wallet : WalletRow) : RefundRow where
  id := env.refundId
  userId := wallet.userId
  walletId := wallet.id
  amount := toString remaining
  tokenAddress := session.sellToken
  tokenSymbol := session.sellTokenSymbol
  status := .pending
  createdAt := env.now
  updatedAt := env.now

/-- The row that `check_and_create_excess_refund` wants to insert. -/
def excessRefund : Option RefundRow := do
  let remaining ← remainingBalance cfg db session env
  if remaining = 0 then none
  else
    let wallet ← sessionWallet db session env
    return excessRow session env remaining wallet

/-- The row, if the `INSERT` succeeds; its failure is not reported. -/
def insertedExcess : Option (RefundRow × RefundStore) :=
  (excessRefund cfg db session env).bind fun row =>
    (db.insert row env.writes).map fun db' => (row, db')

def checkAndCreateExcessRefund : RefundStore :=
  match insertedExcess cfg db session env with
  | some (_, db') => db'
  | none => db

/-- Nothing is left in the wallet, or the row for it is not made: the wallet is not found
in the tables or the `INSERT` is refused. -/
def LeavesNothing : Prop :=
  ∀ n ∈ remainingBalance cfg db session env, ∀ w ∈ sessionWallet db session env,
    n = 0 ∨ env.writes = false ∨ env.refundId ∈ db.refunds.map (·.id) ∨
      w.userId ∉ db.users.rows.map (·.id)

instance : Decidable (LeavesNothing cfg db session env) :=
  inferInstanceAs (Decidable (∀ n ∈ remainingBalance cfg db session env, _))

end Completion

/-! ### Runs -/

inductive RefundEvent where
  | request (r : RefundRequest) (env : RefundEnv)
  | completed (session : SessionRow) (env : CompletionEnv)

section Runs

variable (cfg : Settings) (lib : Crates) (f64FromStr : String → Option ℚ)

def nextEvent (db : RefundStore) : RefundEvent → RefundStore
  | .request r env => nextRefunds cfg lib f64FromStr db (r, env)
  | .completed session env => checkAndCreateExcessRefund cfg db session env

def autoCreated (db : RefundStore) (_ : List Uuid) : RefundEvent → List Uuid
  | .request _ _ => []
  | .completed session env =>
      ((insertedExcess cfg db session env).map fun inserted => inserted.1.id).toList

/-- The requests that the engine has made in a run. -/
def autoCreatedIn (db : RefundStore) (es : List RefundEvent) : List Uuid :=
  notes (nextEvent cfg lib f64FromStr) (autoCreated cfg) db es

def eventsAfter (db : RefundStore) (es : List RefundEvent) : RefundStore :=
  es.foldl (nextEvent cfg lib f64FromStr) db

/-- The request is in the list of an administrator. -/
def Listed (id : Uuid) (db : RefundStore) : Prop := ∃ entry ∈ listedRefunds db, entry.1.id = id

/-- Some requests bring each row of the engine into the list of an administrator. -/
def Reviewable (db : RefundStore) (es : List RefundEvent) : Prop :=
  ∀ id ∈ autoCreatedIn cfg lib f64FromStr db es, ∃ rs : List (RefundRequest × RefundEnv),
    Listed id (refundsAfter cfg lib f64FromStr (eventsAfter cfg lib f64FromStr db es) rs)

/-- For one wallet and token, one row of the engine at most is undecided. -/
def OneUndecided (db : RefundStore) (es : List RefundEvent) : Prop :=
  ∀ r₁ ∈ (eventsAfter cfg lib f64FromStr db es).refunds,
    ∀ r₂ ∈ (eventsAfter cfg lib f64FromStr db es).refunds,
      r₁.id ∈ autoCreatedIn cfg lib f64FromStr db es →
        r₂.id ∈ autoCreatedIn cfg lib f64FromStr db es →
          r₁.decided = false → r₂.decided = false →
            r₁.walletId = r₂.walletId → r₁.tokenAddress = r₂.tokenAddress → r₁.id = r₂.id

/-- A session that completes leaves nothing to give back. -/
def EventLeavesNothing (db : RefundStore) : RefundEvent → Prop
  | .request _ _ => True
  | .completed session env => LeavesNothing cfg db session env

instance (db : RefundStore) : (e : RefundEvent) → Decidable (EventLeavesNothing cfg db e)
  | .request _ _ => isTrue trivial
  | .completed session env => inferInstanceAs (Decidable (LeavesNothing cfg db session env))

end Runs

variable {cfg : Settings} {lib : Crates} {f64FromStr : String → Option ℚ} {db : RefundStore}

/-! ### A row without a token -/

/-- The row with the id is there, and no token can verify it. -/
def Unverifiable (id : Uuid) (db : RefundStore) : Prop :=
  (∃ r ∈ db.refunds, r.id = id) ∧
    ∀ r ∈ db.refunds, r.id = id → r.verified = false ∧ r.verificationToken = none

theorem Unverifiable.next {id : Uuid} (h : Unverifiable id db) (e : RefundRequest × RefundEnv) :
    Unverifiable id (nextRefunds cfg lib f64FromStr db e) := by
  obtain ⟨⟨q, hq, hid⟩, hall⟩ := h
  obtain ⟨new, hnext, hnew⟩ := nextRefunds_refunds cfg lib f64FromStr db e
  rw [Unverifiable, hnext]
  constructor
  · exact ⟨rowAfter lib e q, List.mem_append_left _ (List.mem_map_of_mem hq),
      (rowAfter_id e q).trans hid⟩
  · intro r' hr' hid'
    rcases List.mem_append.mp hr' with hr' | hr'
    · obtain ⟨r, hr, rfl⟩ := List.mem_map.mp hr'
      rw [rowAfter_id] at hid'
      obtain ⟨hverified, htoken⟩ := hall r hr hid'
      cases rowAfter_cases lib e r with
      | kept heq =>
          rw [heq]
          exact ⟨hverified, htoken⟩
      | verified _ hawaits => simp [RefundRow.awaits, htoken] at hawaits
      | decided _ _ heq =>
          rw [heq]
          exact ⟨hverified, htoken⟩
    · -- a new row has an id of its own
      have hthere : r'.id ∈ db.refunds.map (·.id) := by
        rw [hid', ← hid]
        exact List.mem_map_of_mem hq
      exact absurd hthere (hnew r' hr').2

theorem Unverifiable.after {id : Uuid} (h : Unverifiable id db)
    (rs : List (RefundRequest × RefundEnv)) :
    Unverifiable id (refundsAfter cfg lib f64FromStr db rs) := by
  induction rs generalizing db with
  | nil => exact h
  | cons e rs ih => exact ih (h.next e)

theorem Unverifiable.not_listed {id : Uuid} (h : Unverifiable id db) : ¬ Listed id db := by
  rintro ⟨entry, hentry, hid⟩
  obtain ⟨hmem, hverified, -⟩ := mem_listedRefunds.mp hentry
  rw [(h.2 entry.1 hmem hid).1] at hverified
  cases hverified

/-- No request of the gateway brings it into the list. -/
theorem Unverifiable.never_listed {id : Uuid} (h : Unverifiable id db)
    (rs : List (RefundRequest × RefundEnv)) :
    ¬ Listed id (refundsAfter cfg lib f64FromStr db rs) :=
  (h.after rs).not_listed

/-! ### The row of the engine -/

theorem excessRefund_eq_some {session : SessionRow} {env : CompletionEnv} {row : RefundRow} :
    excessRefund cfg db session env = some row ↔
      ∃ n w, remainingBalance cfg db session env = some n ∧ n ≠ 0 ∧
        sessionWallet db session env = some w ∧ excessRow session env n w = row := by
  simp only [excessRefund, Option.bind_eq_bind, Option.bind_eq_some_iff,
    Option.ite_none_left_eq_some, pure, Option.some_inj]
  constructor
  · rintro ⟨n, hn, hne, w, hw, hrow⟩
    exact ⟨n, w, hn, hne, hw, hrow⟩
  · rintro ⟨n, w, hn, hne, hw, hrow⟩
    exact ⟨n, hn, hne, w, hw, hrow⟩

theorem insertedExcess_eq_some {session : SessionRow} {env : CompletionEnv} {row : RefundRow}
    {db' : RefundStore} (h : insertedExcess cfg db session env = some (row, db')) :
    Unverifiable row.id db' := by
  obtain ⟨row', hrow, h⟩ := Option.bind_eq_some_iff.mp h
  obtain ⟨db'', hinsert, heq⟩ := Option.map_eq_some_iff.mp h
  obtain ⟨rfl, rfl⟩ := Prod.mk.inj heq
  obtain ⟨hrefunds, hfresh⟩ := insert_refunds hinsert
  obtain ⟨n, w, -, -, -, rfl⟩ := excessRefund_eq_some.mp hrow
  refine ⟨⟨excessRow session env n w, by simp [hrefunds], rfl⟩, fun r hr hid => ?_⟩
  rw [hrefunds] at hr
  rcases List.mem_append.mp hr with hr | hr
  · exact absurd (hid ▸ List.mem_map_of_mem hr) hfresh
  · rw [List.mem_singleton.mp hr]
    exact ⟨rfl, rfl⟩

theorem sessionWallet_mem {session : SessionRow} {env : CompletionEnv} {w : WalletRow}
    (h : sessionWallet db session env = some w) : w.id ∈ db.wallets.map (·.id) := by
  obtain ⟨-, h⟩ := Option.ite_none_right_eq_some.mp h
  obtain ⟨s, -, hw⟩ := Option.bind_eq_some_iff.mp h
  exact List.mem_map_of_mem (Table.mem_of_get hw)

/-- A completion makes no row exactly if it leaves nothing. -/
theorem insertedExcess_eq_none {session : SessionRow} {env : CompletionEnv} :
    insertedExcess cfg db session env = none ↔ LeavesNothing cfg db session env := by
  unfold insertedExcess LeavesNothing
  rw [Option.bind_eq_none_iff]
  constructor
  · intro h n hn w hw
    by_contra hleaves
    simp only [not_or, not_not, Bool.not_eq_false] at hleaves
    obtain ⟨hne, hwrites, hfresh, howner⟩ := hleaves
    have hnone := h _ (excessRefund_eq_some.mpr ⟨n, w, hn, hne, hw, rfl⟩)
    rw [Option.map_eq_none_iff, insert_eq_none] at hnone
    exact hnone ⟨hwrites, hfresh, howner, sessionWallet_mem hw⟩
  · intro h row hrow
    obtain ⟨n, w, hn, hne, hw, rfl⟩ := excessRefund_eq_some.mp hrow
    rw [Option.map_eq_none_iff, insert_eq_none]
    rintro ⟨hwrites, hfresh, howner, -⟩
    rcases h n hn w hw with hzero | hfails | htaken | hnobody
    · exact hne hzero
    · exact Bool.false_ne_true (hfails.symm.trans hwrites)
    · exact hfresh htaken
    · exact hnobody howner

/-! ### Runs of the engine and the gateway -/

theorem autoCreatedIn_concat (es : List RefundEvent) (e : RefundEvent) :
    autoCreatedIn cfg lib f64FromStr db (es ++ [e]) = autoCreatedIn cfg lib f64FromStr db es ++
      autoCreated cfg (eventsAfter cfg lib f64FromStr db es) [] e :=
  notes_concat db es e

theorem eventsAfter_concat (es : List RefundEvent) (e : RefundEvent) :
    eventsAfter cfg lib f64FromStr db (es ++ [e]) =
      nextEvent cfg lib f64FromStr (eventsAfter cfg lib f64FromStr db es) e := by
  simp [eventsAfter]

theorem autoCreated_eq_nil {e : RefundEvent} :
    autoCreated cfg db [] e = [] ↔ EventLeavesNothing cfg db e := by
  cases e with
  | request r env => simp [autoCreated, EventLeavesNothing]
  | completed session env =>
      simp only [autoCreated, EventLeavesNothing, Option.toList_eq_nil_iff, Option.map_eq_none_iff,
        insertedExcess_eq_none]

/-- A row that the engine has just made cannot be reviewed. -/
theorem not_reviewable_concat (es : List RefundEvent) {session : SessionRow} {env : CompletionEnv}
    (h : ¬ LeavesNothing cfg (eventsAfter cfg lib f64FromStr db es) session env) :
    ¬ Reviewable cfg lib f64FromStr db (es ++ [.completed session env]) := by
  intro hreview
  rw [← insertedExcess_eq_none, ← ne_eq, Option.ne_none_iff_exists'] at h
  obtain ⟨⟨row, db'⟩, hinserted⟩ := h
  have hcreated : row.id ∈
      autoCreatedIn cfg lib f64FromStr db (es ++ [.completed session env]) := by
    rw [autoCreatedIn_concat]
    simp [autoCreated, hinserted]
  have hafter : eventsAfter cfg lib f64FromStr db (es ++ [.completed session env]) = db' := by
    rw [eventsAfter_concat, nextEvent, checkAndCreateExcessRefund, hinserted]
  obtain ⟨rs, hlisted⟩ := hreview row.id hcreated
  rw [hafter] at hlisted
  exact (insertedExcess_eq_some hinserted).never_listed rs hlisted

/-- All along a run every row of the engine can be brought into the list of an
administrator, and one of them at most is undecided for a wallet and a token, if and only
if no session that completes leaves anything to give back: no row of the engine is ever
reviewed. -/
theorem reviewable_iff_leavesNothing (cfg : Settings) (lib : Crates)
    (f64FromStr : String → Option ℚ) (db : RefundStore) (es : List RefundEvent) :
    (∀ es', es' <+: es → Reviewable cfg lib f64FromStr db es' ∧
      OneUndecided cfg lib f64FromStr db es') ↔
    Guarded (nextEvent cfg lib f64FromStr) (EventLeavesNothing cfg) db es := by
  have hnone : (∀ es', es' <+: es → autoCreatedIn cfg lib f64FromStr db es' = []) ↔
      Guarded (nextEvent cfg lib f64FromStr) (EventLeavesNothing cfg) db es := by
    refine forall_prefix_iff_guarded rfl fun es e h => ?_
    rw [autoCreatedIn_concat, h, List.nil_append, autoCreated_eq_nil]
    rfl
  constructor
  · intro h
    -- the first row of the engine would make the run fail
    refine hnone.mp fun es' hpre => ?_
    induction es' using List.reverseRecOn with
    | nil => rfl
    | append_singleton es' e ih =>
        rw [autoCreatedIn_concat, ih ((List.prefix_append es' [e]).trans hpre), List.nil_append,
          autoCreated_eq_nil]
        cases e with
        | request r env => trivial
        | completed session env =>
            by_contra hleaves
            exact not_reviewable_concat _ hleaves (h _ hpre).1
  · intro hguard es' hpre
    have hnil := hnone.mpr hguard es' hpre
    refine ⟨fun id hid => ?_, fun r₁ _ r₂ _ hr₁ => ?_⟩
    · rw [hnil] at hid
      cases hid
    · rw [hnil] at hr₁
      cases hr₁

namespace Sample

def soldOut (id : Uuid) : SessionRow := (Gateway.Sample.sessionRecord id 1).toSessionRow

/-- Two sessions on the wallet of user 1. -/
def refundStore : RefundStore :=
  { Gateway.Sample.refundStore with sessions := [soldOut 1, soldOut 2] }

/-- What is left in the wallet, as the node says. -/
def completionEnv (refundId : Uuid) (remaining : ℕ) : CompletionEnv where
  now := 0
  selectsAddress := true
  nodes := ⟨fun _ => true, fun _ _ => none, fun _ _ => none, fun _ _ _ => some remaining⟩
  selectsWallet := true
  refundId := refundId
  writes := true

end Sample

/-- A session completes with an empty wallet, and its user asks for a refund. -/
theorem reviewable_iff_leavesNothing_sample :
    Reviewable Gateway.Sample.settings Gateway.Sample.crates Gateway.Sample.readsF64
      Sample.refundStore [.completed (Sample.soldOut 1) (Sample.completionEnv 1 0),
        .request Gateway.Sample.requestRefund (Gateway.Sample.refundEnv 2)] :=
  ((reviewable_iff_leavesNothing Gateway.Sample.settings Gateway.Sample.crates
    Gateway.Sample.readsF64 Sample.refundStore _).mpr (by decide +kernel) _ List.prefix_rfl).1

/-- Two sessions complete with something left in their wallet. -/
theorem two_excess_requests :
    ∃ es : List RefundEvent,
      ¬ Reviewable Gateway.Sample.settings Gateway.Sample.crates Gateway.Sample.readsF64
        Sample.refundStore es ∧
      ¬ OneUndecided Gateway.Sample.settings Gateway.Sample.crates Gateway.Sample.readsF64
        Sample.refundStore es := by
  refine ⟨[.completed (Sample.soldOut 1) (Sample.completionEnv 1 5),
    .completed (Sample.soldOut 2) (Sample.completionEnv 2 5)], ?_, ?_⟩
  · exact not_reviewable_concat [.completed (Sample.soldOut 1) (Sample.completionEnv 1 5)]
      (by decide +kernel)
  · unfold OneUndecided
    decide +kernel

end Liquifier.Engine
