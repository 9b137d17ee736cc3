import Liquifier.Common.Retry
import Liquifier.Engine.Plan
import Liquifier.Store.Database
import Mathlib.Data.List.GetD

/-!
`build_sign_and_submit_tx`: the signed bytes are sent up to three times, and
whatever is an error at the end counts as not sent.

The node is the list of the transactions that it accepted. It takes a hash once
and answers with an error when it knows it; a reply may be lost after the
transaction was accepted. Fetching the nonce, estimating gas and signing come
before and have no effect on this list; `Chain.Transactions` has them one by one.
-/

namespace Liquifier.Engine

/-- A signed swap, and the session and event it was made for. -/
structure SwapTx where
  hash : String
  sessionId : Uuid
  event : DexSwapEvent
  sellAmount : ℕ
  deriving DecidableEq

def SwapTx.trigger (tx : SwapTx) : TriggerKey := tx.event.triggerKey tx.sessionId

/-- What becomes of one call of `send_raw_transaction`. -/
inductive NodeReply where
  | deliver
  | lose
  | refuse
  deriving DecidableEq

def known (hash : String) (accepted : List SwapTx) : Bool := accepted.any fun tx => tx.hash = hash

def sendRawTransaction (tx : SwapTx) (reply : NodeReply) (accepted : List SwapTx) :
    Except String String × List SwapTx :=
  match reply with
  | .refuse => (.error "server returned an error response", accepted)
  | .deliver =>
      if known tx.hash accepted then (.error "already known", accepted)
      else (.ok tx.hash, accepted ++ [tx])
  | .lose =>
      (.error "error sending request",
        if known tx.hash accepted then accepted else accepted ++ [tx])

/-- The hash under which the transaction was submitted, where the caller hears of
it, and the transactions that the node has accepted by then. `signed` is `none`
where a step before the first attempt fails. -/
def buildSignAndSubmitTx (sessionId : Uuid) (event : DexSwapEvent) (sellAmount : ℕ)
    (signed : Option String) (replies : List NodeReply) (accepted : List SwapTx) :
    Option String × List SwapTx :=
  match signed with
  | none => (none, accepted)
  | some hash =>
      let send := fun attempt =>
        sendRawTransaction ⟨hash, sessionId, event, sellAmount⟩
          (replies.getD (attempt - 1) .refuse)
      match retry 3 send accepted with
      | (some (.ok submittedHash), accepted') => (some submittedHash, accepted')
      | (_, accepted') => (none, accepted')

/-- The reply that decides: the first attempt that is not refused. -/
def decisiveReply (replies : List NodeReply) : Option NodeReply :=
  (replies.take 3).find? (· ≠ .refuse)

/-- All that a submission can do. -/
inductive SubmitMove (sessionId : Uuid) (event : DexSwapEvent) (sellAmount : ℕ)
    (replies : List NodeReply) (accepted : List SwapTx) :
    Option String → List SwapTx → Prop where
  | submitted {hash : String} (hnew : known hash accepted = false)
      (hreply : decisiveReply replies = some .deliver) :
      SubmitMove sessionId event sellAmount replies accepted (some hash)
        (accepted ++ [⟨hash, sessionId, event, sellAmount⟩])
  | lost {hash : String} (hnew : known hash accepted = false)
      (hreply : decisiveReply replies = some .lose) :
      SubmitMove sessionId event sellAmount replies accepted none
        (accepted ++ [⟨hash, sessionId, event, sellAmount⟩])
  | refused : SubmitMove sessionId event sellAmount replies accepted none accepted

/-! ### What a submission does -/

variable {tx : SwapTx} {accepted : List SwapTx}

theorem known_append_self : known tx.hash (accepted ++ [tx]) = true := by
  simp [known]

/-- Nothing happens to a transaction that the node knows. -/
theorem sendRawTransaction_of_known (h : known tx.hash accepted = true) (reply : NodeReply) :
    ∃ e, sendRawTransaction tx reply accepted = (.error e, accepted) := by
  cases reply <;> simp [sendRawTransaction, h]

variable (tx) in
theorem retryFrom_of_known (h : known tx.hash accepted = true) (replies : List NodeReply)
    (attempt left : ℕ) :
    ∃ r, retryFrom (fun n => sendRawTransaction tx (replies.getD (n - 1) .refuse)) attempt left
      accepted = (r, accepted) ∧ ∀ hash, r ≠ some (.ok hash) := by
  induction left generalizing attempt with
  | zero => exact ⟨none, rfl, by simp⟩
  | succ left ih =>
      obtain ⟨e, he⟩ := sendRawTransaction_of_known h (replies.getD (attempt - 1) .refuse)
      simp only [retryFrom, he]
      split
      · exact ⟨_, rfl, by simp⟩
      · exact ih (attempt + 1)

variable (tx) in
/-- The attempts that are left, on the replies that are left. -/
theorem retryFrom_cases (hnew : known tx.hash accepted = false) (replies : List NodeReply)
    (attempt left : ℕ) :
    let r := retryFrom (fun n => sendRawTransaction tx (replies.getD (n - 1) .refuse))
      (attempt + 1) left accepted
    let decisive := ((replies.drop attempt).take left).find? (· ≠ NodeReply.refuse)
    (r = (some (.ok tx.hash), accepted ++ [tx]) ∧ decisive = some .deliver) ∨
      ((∀ hash, r.1 ≠ some (.ok hash)) ∧
        ((r.2 = accepted ++ [tx] ∧ decisive = some .lose) ∨ r.2 = accepted)) := by
  induction left generalizing attempt with
  | zero => exact .inr ⟨by simp [retryFrom], .inr rfl⟩
  | succ left ih =>
      have hdrop (reply : NodeReply) (h : replies.getD attempt .refuse = reply)
          (hne : reply ≠ .refuse) :
          ((replies.drop attempt).take (left + 1)).find? (· ≠ NodeReply.refuse) = some reply := by
        have hlt : attempt < replies.length := by
          by_contra hle
          rw [List.getD_eq_default _ _ (Nat.le_of_not_lt hle)] at h
          exact hne h.symm
        rw [List.getD_eq_getElem _ _ hlt] at h
        rw [List.drop_eq_getElem_cons hlt, h, List.take_succ_cons, List.find?_cons_of_pos]
        simpa using hne
      simp only [retryFrom, Nat.add_sub_cancel]
      cases hreply : replies.getD attempt NodeReply.refuse with
      | deliver =>
          left
          simp only [sendRawTransaction, hnew, Bool.false_eq_true, if_false, true_and]
          exact hdrop _ hreply (by simp)
      | lose =>
          right
          simp only [sendRawTransaction, hnew, Bool.false_eq_true, if_false]
          have hknown : known tx.hash (accepted ++ [tx]) = true := known_append_self
          obtain ⟨r, hr, hne⟩ := retryFrom_of_known tx hknown replies (attempt + 1 + 1) left
          rw [hr]
          split
          · exact ⟨by simp, .inl ⟨rfl, hdrop _ hreply (by simp)⟩⟩
          · exact ⟨hne, .inl ⟨rfl, hdrop _ hreply (by simp)⟩⟩
      | refuse =>
          simp only [sendRawTransaction]
          split
          · exact .inr ⟨by simp, .inr rfl⟩
          · have hskip : ((replies.drop attempt).take (left + 1)).find?
                (· ≠ NodeReply.refuse) =
                ((replies.drop (attempt + 1)).take left).find? (· ≠ NodeReply.refuse) := by
              rcases Nat.lt_or_ge attempt replies.length with hlt | hge
              · rw [List.getD_eq_getElem _ _ hlt] at hreply
                rw [List.drop_eq_getElem_cons hlt, hreply, List.take_succ_cons,
                  List.find?_cons_of_neg (by simp)]
              · rw [List.drop_eq_nil_of_le hge, List.drop_eq_nil_of_le (by omega)]
                simp
            rw [hskip]
            exact ih (attempt + 1)

theorem buildSignAndSubmitTx_move {sessionId : Uuid} {event : DexSwapEvent} {sellAmount : ℕ}
    {signed : Option String} {replies : List NodeReply} {accepted accepted' : List SwapTx}
    {result : Option String}
    (h : buildSignAndSubmitTx sessionId event sellAmount signed replies accepted =
      (result, accepted')) :
    SubmitMove sessionId event sellAmount replies accepted result accepted' := by
  cases signed with
  | none =>
      obtain ⟨rfl, rfl⟩ := Prod.mk.inj h
      exact .refused
  | some hash =>
      simp only [buildSignAndSubmitTx, retry] at h
      cases hknown : known hash accepted with
      | true =>
          obtain ⟨r, hr, hne⟩ := retryFrom_of_known
            ⟨hash, sessionId, event, sellAmount⟩ hknown replies 1 3
          rw [hr] at h
          split at h
          · rename_i heq
            exact absurd (Prod.mk.inj heq).1 (hne _)
          · rename_i heq
            obtain ⟨rfl, rfl⟩ := Prod.mk.inj h
            rw [← (Prod.mk.inj heq).2]
            exact .refused
      | false =>
          have hcases := retryFrom_cases
            ⟨hash, sessionId, event, sellAmount⟩ hknown replies 0 3
          simp only [List.drop_zero, Nat.zero_add] at hcases
          rcases hcases with ⟨hr, hdecisive⟩ | ⟨hne, hstate⟩
          · rw [hr] at h
            obtain ⟨rfl, rfl⟩ := Prod.mk.inj h
            exact .submitted hknown hdecisive
          · split at h
            · rename_i heq
              exact absurd (congrArg Prod.fst heq) (hne _)
            · rename_i heq
              obtain ⟨rfl, rfl⟩ := Prod.mk.inj h
              rw [heq] at hstate
              rcases hstate with ⟨rfl, hdecisive⟩ | rfl
              · exact .lost hknown hdecisive
              · exact .refused

end Liquifier.Engine
