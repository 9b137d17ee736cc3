import Liquifier.Gateway.Refunds
import Liquifier.Gateway.Tokens

/-!
Decisions about refund requests, against their confirmation by the owner.

The list of an administrator shows confirmed requests only, but the update takes the id
of any request. What it decides before the owner has confirmed is put back to
`pending` by the confirmation, which looks at the flag and not at the status.
-/

namespace Liquifier.Gateway

open Trace

/-! ### The record of confirmations -/

section Review

variable (cfg : Settings) (lib : Crates) (f64FromStr : String → Option ℚ)

/-- The requests that are confirmed: with the token that was mailed to the owner. -/
def confirmations (db : RefundStore) (_ : List Uuid) (e : RefundRequest × RefundEnv) : List Uuid :=
  match e.1 with
  | .verify (some token) =>
      if e.2.writes then (db.refunds.filter (·.awaits token e.2.now)).map (·.id) else []
  | _ => []

/-- The requests that were confirmed in a run. -/
def confirmedIn (db : RefundStore) (es : List (RefundRequest × RefundEnv)) : List Uuid :=
  notes (nextRefunds cfg lib f64FromStr) confirmations db es

def refundsAfter (db : RefundStore) (es : List (RefundRequest × RefundEnv)) : RefundStore :=
  es.foldl (nextRefunds cfg lib f64FromStr) db

/-- After the run, a request is decided only if it was confirmed. -/
def DecidedConfirmed (db : RefundStore) (es : List (RefundRequest × RefundEnv)) : Prop :=
  ∀ r ∈ (refundsAfter cfg lib f64FromStr db es).refunds, r.decided = true →
    r.id ∈ confirmedIn cfg lib f64FromStr db es

/-- The request with the id is decided. -/
def IsDecided (id : Uuid) (db : RefundStore) : Prop :=
  ∃ r ∈ db.refunds, r.id = id ∧ r.decided = true

/-- What an administrator decides is verified. -/
def DecidesVerified (db : RefundStore) (e : RefundRequest × RefundEnv) : Prop :=
  ∀ r ∈ db.refunds, decidedId lib e = some r.id → r.verified = true

instance (db : RefundStore) (e : RefundRequest × RefundEnv) :
    Decidable (DecidesVerified lib db e) :=
  inferInstanceAs (Decidable (∀ r ∈ db.refunds, decidedId lib e = some r.id → r.verified = true))

end Review

variable {cfg : Settings} {lib : Crates} {f64FromStr : String → Option ℚ} {db : RefundStore}

/-- The e-mail with the token of a request goes to the owner of the request. -/
theorem mail_to_owner {env : RefundEnv} {user : AuthUser} {body : CreateRefundBody}
    {reply : RefundReply} {db' : RefundStore} {mail : RefundMail}
    (h : createRefundRequest cfg lib f64FromStr db env user body = (.ok reply, db'))
    (hmail : reply.mail = some mail) :
    ∃ row owner, db'.refunds = db.refunds ++ [row] ∧ db.users.byId row.userId = some owner ∧
      mail.toEmail = owner.email ∧ row.verificationToken = some mail.token := by
  unfold createRefundRequest at h
  split at h
  · cases (Prod.mk.inj h).1
  · rename_i row hrow
    split at h
    · cases (Prod.mk.inj h).1
    · rename_i hinsert
      obtain ⟨hreply, rfl⟩ := Prod.mk.inj h
      simp only [confirmRefund, bind_eq_ok, okOr_eq_ok] at hreply
      obtain ⟨-, -, owner, howner, hreply⟩ := hreply
      obtain rfl := Except.ok.inj hreply
      obtain ⟨-, hmail⟩ := Option.ite_none_right_eq_some.mp hmail
      obtain rfl := Option.some.inj hmail
      exact ⟨row, owner, (insert_refunds hinsert).1, howner, rfl, (newRefund_row hrow).2⟩

/-! ### One request -/

theorem confirmedIn_concat (es : List (RefundRequest × RefundEnv)) (e : RefundRequest × RefundEnv) :
    confirmedIn cfg lib f64FromStr db (es ++ [e]) =
      confirmedIn cfg lib f64FromStr db es ++
        confirmations (refundsAfter cfg lib f64FromStr db es) [] e :=
  notes_concat db es e

theorem refundsAfter_concat (es : List (RefundRequest × RefundEnv))
    (e : RefundRequest × RefundEnv) :
    refundsAfter cfg lib f64FromStr db (es ++ [e]) =
      nextRefunds cfg lib f64FromStr (refundsAfter cfg lib f64FromStr db es) e := by
  simp [refundsAfter]

theorem mem_awaiting {r : RefundRow} (hr : r ∈ db.refunds) {token : String} {now : ℕ} :
    r.id ∈ (db.refunds.filter (·.awaits token now)).map (·.id) ↔ r.awaits token now = true := by
  constructor
  · intro h
    obtain ⟨q, hq, hid⟩ := List.mem_map.mp h
    obtain ⟨hq, hawaits⟩ := List.mem_filter.mp hq
    rwa [← List.inj_on_of_nodup_map db.refund_ids hq hr hid]
  · intro h
    exact List.mem_map_of_mem (List.mem_filter.mpr ⟨hr, h⟩)

theorem confirmations_subset (db : RefundStore) (e : RefundRequest × RefundEnv) :
    confirmations db [] e ⊆ db.refunds.map (·.id) := by
  unfold confirmations
  split
  · split
    · exact (List.filter_sublist.map _).subset
    · exact List.nil_subset _
  · exact List.nil_subset _

/-- A row is verified by a request exactly if the request confirms it. -/
theorem verified_rowAfter (e : RefundRequest × RefundEnv) {r : RefundRow} (hr : r ∈ db.refunds) :
    (rowAfter lib e r).verified = true ↔ r.verified = true ∨ r.id ∈ confirmations db [] e := by
  obtain ⟨request, env⟩ := e
  cases request with
  | create user body => simp [rowAfter, confirmations]
  | verify token =>
      cases token with
      | none =>
          simp only [rowAfter, confirmations, List.not_mem_nil, or_false]
          split <;> rfl
      | some token =>
          simp only [rowAfter, confirmations, Option.map_some, Option.getD_some]
          split
          · rw [mem_awaiting hr]
            unfold RefundRow.verifyIf
            split
            · rename_i hawaits
              simp [RefundRow.verify, hawaits]
            · rename_i hawaits
              simp [hawaits]
          · simp
  | adminUpdate user refundId status adminNote =>
      simp only [rowAfter, confirmations, List.not_mem_nil, or_false]
      split
      · split
        · unfold RefundRow.decideIf
          split <;> rfl
        · rfl
      · rfl

/-- What an update of an administrator makes of the row that it is about. -/
theorem rowAfter_of_decidedId {e : RefundRequest × RefundEnv} {r : RefundRow}
    (h : decidedId lib e = some r.id) : (rowAfter lib e r).decided = true := by
  cases rowAfter_cases lib e r with
  | kept _ hid => exact absurd h hid
  | verified hverify =>
      rw [decidedId, hverify] at h
      cases h
  | decided hstatus _ heq =>
      rw [heq]
      exact decide_eq_true hstatus

/-- A row is decided by an administrator, or it was so before. -/
theorem decided_of_rowAfter {e : RefundRequest × RefundEnv} {r : RefundRow}
    (h : (rowAfter lib e r).decided = true) : decidedId lib e = some r.id ∨ r.decided = true := by
  cases rowAfter_cases lib e r with
  | kept heq =>
      rw [heq] at h
      exact .inr h
  | verified _ _ heq =>
      rw [heq] at h
      cases h
  | decided _ hid => exact .inl hid

/-- A decision about a verified row is final: only other decisions follow. -/
theorem decided_rowAfter (e : RefundRequest × RefundEnv) {r : RefundRow}
    (hdecided : r.decided = true) (hverified : r.verified = true) :
    (rowAfter lib e r).decided = true := by
  cases rowAfter_cases lib e r with
  | kept heq =>
      rw [heq]
      exact hdecided
  -- a verified row awaits no token
  | verified _ hawaits => simp [RefundRow.awaits, hverified] at hawaits
  | decided hstatus _ heq =>
      rw [heq]
      exact decide_eq_true hstatus

theorem confirmations_of_decidedId {e : RefundRequest × RefundEnv} {id : Uuid}
    (h : decidedId lib e = some id) : confirmations db [] e = [] := by
  obtain ⟨request, env⟩ := e
  cases request with
  | create user body => cases h
  | verify token => cases h
  | adminUpdate user refundId status adminNote => rfl

/-! ### Runs -/

section Runs

variable (hdb : ∀ r ∈ db.refunds, Requested r)
include hdb

/-- A row is verified exactly if the run has confirmed it, and what the run has confirmed
is there. -/
theorem verified_iff_confirmed (es : List (RefundRequest × RefundEnv)) :
    (∀ r ∈ (refundsAfter cfg lib f64FromStr db es).refunds,
      r.verified = true ↔ r.id ∈ confirmedIn cfg lib f64FromStr db es) ∧
    confirmedIn cfg lib f64FromStr db es ⊆
      (refundsAfter cfg lib f64FromStr db es).refunds.map (·.id) := by
  induction es using List.reverseRecOn with
  | nil =>
      refine ⟨fun r hr => ?_, List.nil_subset _⟩
      rw [(hdb r hr).2]
      exact ⟨fun h => absurd h Bool.false_ne_true, fun h => absurd h List.not_mem_nil⟩
  | append_singleton es e ih =>
      obtain ⟨hverified, hsubset⟩ := ih
      obtain ⟨new, hnext, hnew⟩ := nextRefunds_refunds cfg lib f64FromStr
        (refundsAfter cfg lib f64FromStr db es) e
      rw [refundsAfter_concat, confirmedIn_concat, hnext]
      have hconfirmations := confirmations_subset (refundsAfter cfg lib f64FromStr db es) e
      constructor
      · intro r' hr'
        rcases List.mem_append.mp hr' with hr' | hr'
        · obtain ⟨r, hr, rfl⟩ := List.mem_map.mp hr'
          rw [verified_rowAfter e hr, rowAfter_id, hverified r hr, List.mem_append]
        · obtain ⟨⟨-, hunverified⟩, hfresh⟩ := hnew r' hr'
          rw [hunverified, List.mem_append]
          refine ⟨fun h => absurd h Bool.false_ne_true, fun h => ?_⟩
          -- what is confirmed was there before, a new row was not
          rcases h with h | h
          · exact absurd (hsubset h) hfresh
          · exact absurd (hconfirmations h) hfresh
      · have hids :
            ((refundsAfter cfg lib f64FromStr db es).refunds.map (rowAfter lib e)).map (·.id) =
              (refundsAfter cfg lib f64FromStr db es).refunds.map (·.id) := by
          rw [List.map_map]
          exact List.map_congr_left fun r _ => rowAfter_id e r
        rw [List.map_append, hids]
        intro id hid
        refine List.mem_append_left _ ?_
        rcases List.mem_append.mp hid with hid | hid
        · exact hsubset hid
        · exact hconfirmations hid

/-- What a request has to be about to keep decisions behind confirmations. -/
theorem decidedConfirmed_concat {es : List (RefundRequest × RefundEnv)}
    {e : RefundRequest × RefundEnv} (h : DecidedConfirmed cfg lib f64FromStr db es) :
    DecidedConfirmed cfg lib f64FromStr db (es ++ [e]) ↔
      DecidesVerified lib (refundsAfter cfg lib f64FromStr db es) e := by
  have hverified : ∀ r ∈ (refundsAfter cfg lib f64FromStr db es).refunds,
      r.verified = true ↔ r.id ∈ confirmedIn cfg lib f64FromStr db es :=
    (verified_iff_confirmed hdb es).1
  obtain ⟨new, hnext, hnew⟩ := nextRefunds_refunds cfg lib f64FromStr
    (refundsAfter cfg lib f64FromStr db es) e
  unfold DecidedConfirmed
  rw [refundsAfter_concat, confirmedIn_concat, hnext]
  constructor
  · intro hall r hr hid
    have hconfirmed := hall _ (List.mem_append_left _ (List.mem_map_of_mem hr))
      (rowAfter_of_decidedId hid)
    rw [rowAfter_id, confirmations_of_decidedId hid, List.append_nil] at hconfirmed
    exact (hverified r hr).mpr hconfirmed
  · intro hguard r' hr' hdecided
    refine List.mem_append_left _ ?_
    rcases List.mem_append.mp hr' with hr' | hr'
    · obtain ⟨r, hr, rfl⟩ := List.mem_map.mp hr'
      rw [rowAfter_id]
      rcases decided_of_rowAfter hdecided with hid | hold
      · exact (hverified r hr).mp (hguard r hr hid)
      · exact h r hr hold
    · obtain ⟨⟨hpending, -⟩, -⟩ := hnew r' hr'
      simp [RefundRow.decided, hpending] at hdecided

theorem isDecided_next {es : List (RefundRequest × RefundEnv)}
    (h : DecidedConfirmed cfg lib f64FromStr db es) {id : Uuid}
    (hdecided : IsDecided id (refundsAfter cfg lib f64FromStr db es))
    (e : RefundRequest × RefundEnv) :
    IsDecided id (nextRefunds cfg lib f64FromStr (refundsAfter cfg lib f64FromStr db es) e) := by
  obtain ⟨r, hr, rfl, hdecided⟩ := hdecided
  obtain ⟨new, hnext, -⟩ := nextRefunds_refunds cfg lib f64FromStr
    (refundsAfter cfg lib f64FromStr db es) e
  have hverified : r.verified = true :=
    ((verified_iff_confirmed hdb es).1 r hr).mpr (h r hr hdecided)
  refine ⟨rowAfter lib e r, ?_, rowAfter_id e r, decided_rowAfter e hdecided hverified⟩
  rw [hnext]
  exact List.mem_append_left _ (List.mem_map_of_mem hr)

end Runs

/-- The run starts with requests that nobody has confirmed or decided. All along it what
is decided was confirmed before, and what is once decided stays so, if and only if the
administrators decide about verified rows only. -/
theorem decidedConfirmed_iff (cfg : Settings) (lib : Crates) (f64FromStr : String → Option ℚ)
    (hdb : ∀ r ∈ db.refunds, Requested r) (es : List (RefundRequest × RefundEnv)) :
    ((∀ es', es' <+: es → DecidedConfirmed cfg lib f64FromStr db es') ∧
      ∀ id, Stable (nextRefunds cfg lib f64FromStr) (IsDecided id) db es) ↔
    Guarded (nextRefunds cfg lib f64FromStr) (DecidesVerified lib) db es := by
  have hstart : DecidedConfirmed cfg lib f64FromStr db [] := by
    intro r hr hdecided
    simp [RefundRow.decided, (hdb r hr).1] at hdecided
  have hprefix : (∀ es', es' <+: es → DecidedConfirmed cfg lib f64FromStr db es') ↔
      Guarded (nextRefunds cfg lib f64FromStr) (DecidesVerified lib) db es :=
    forall_prefix_iff_guarded hstart fun es e h => decidedConfirmed_concat hdb h
  constructor
  · intro h
    exact hprefix.mp h.1
  · intro hguard
    have hall := hprefix.mpr hguard
    refine ⟨hall, fun id es₁ es₂ hpre hdecided => ?_⟩
    -- the requests after the decision, one by one
    induction es₂ using List.reverseRecOn with
    | nil => rwa [List.append_nil]
    | append_singleton es₂ e ih =>
        rw [← List.append_assoc] at hpre ⊢
        have hbefore := (List.prefix_append (es₁ ++ es₂) [e]).trans hpre
        rw [List.foldl_append, List.foldl_cons, List.foldl_nil]
        exact isDecided_next hdb (hall _ hbefore) (ih hbefore) e

namespace Sample

def userOf (id : Uuid) : User where
  id := id
  email := String.ofList (List.replicate id 'u')
  passwordHash := ""
  verificationToken := none
  verificationTokenExpiresAt := none
  role := .common

def oneUser : Users := ⟨[userOf 1], by decide, by decide⟩

/-- User 1 has a wallet, and there are no requests yet. -/
def refundStore : RefundStore where
  users := oneUser
  wallets := [walletOf 1]
  sessions := []
  refunds := []
  refund_ids := by decide
  refund_users := by simp
  refund_wallets := by simp

/-- A token is worth a dollar, and the wallet holds a thousand of them. -/
def refundEnv (refundId : Uuid) : RefundEnv where
  now := 0
  selects := true
  pick := 0
  kmsConnects := true
  balance := some "1000000000000000000000"
  oraclePool := .ok "0xp"
  usdPrice36 := some (10 ^ 36)
  refundId := refundId
  verificationToken := "token"
  writes := true
  selectsEmail := true
  sendsEmail := true

def readsF64 (s : String) : Option ℚ := (decimalFromStr s).map fun n => n

def requestRefund : RefundRequest :=
  .create ⟨1, "common"⟩ ⟨100, "0x5555555555555555555555555555555555555555"⟩

def approveRefund : RefundRequest := .adminUpdate ⟨7, "admin"⟩ "1" "approved" none

end Sample

/-- A request is confirmed and then approved. -/
theorem decidedConfirmed_iff_sample :
    IsDecided 1 (refundsAfter Sample.settings Sample.crates Sample.readsF64 Sample.refundStore
      [(Sample.requestRefund, Sample.refundEnv 1), (.verify (some "token"), Sample.refundEnv 2),
        (Sample.approveRefund, Sample.refundEnv 3)]) ∧
    Stable (nextRefunds Sample.settings Sample.crates Sample.readsF64) (IsDecided 1)
      Sample.refundStore
      [(Sample.requestRefund, Sample.refundEnv 1), (.verify (some "token"), Sample.refundEnv 2),
        (Sample.approveRefund, Sample.refundEnv 3)] := by
  constructor
  · unfold IsDecided
    decide +kernel
  · exact ((decidedConfirmed_iff Sample.settings Sample.crates Sample.readsF64
      (by simp [Sample.refundStore]) _).mpr (by decide +kernel)).2 1

/-- An administrator approves a request that is not confirmed yet, and the confirmation
takes the decision back. -/
theorem approved_before_confirmed :
    ¬ ∀ es : List (RefundRequest × RefundEnv),
      (∀ es', es' <+: es → DecidedConfirmed Sample.settings Sample.crates Sample.readsF64
        Sample.refundStore es') ∧
      ∀ id, Stable (nextRefunds Sample.settings Sample.crates Sample.readsF64) (IsDecided id)
        Sample.refundStore es := by
  intro h
  have hstable := (h [(Sample.requestRefund, Sample.refundEnv 1),
    (Sample.approveRefund, Sample.refundEnv 2),
    (.verify (some "token"), Sample.refundEnv 3)]).2 1
  have hreturned := hstable [(Sample.requestRefund, Sample.refundEnv 1),
    (Sample.approveRefund, Sample.refundEnv 2)] [(.verify (some "token"), Sample.refundEnv 3)]
    List.prefix_rfl
  revert hreturned
  unfold IsDecided
  decide +kernel

end Liquifier.Gateway
