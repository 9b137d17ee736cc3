import Liquifier.Common.Address
import Liquifier.Engine.Submit
import Liquifier.Lib.TaskSystem

/-!
The transactions of the wallets.

Three functions in two services sign for a wallet: `build_sign_and_submit_tx` in the
engine, for swaps, approvals and sweeps, and `admin_withdraw_session` and
`fund_session_wallet_gas` in the gateway. Each of them asks a node for the number of
the mined transactions of the wallet, takes it as the nonce, has the KMS sign and
sends what was signed. Nothing is reserved between these calls, so every one of them
is a step of its own here, and the steps of all callers interleave.

A node mines what it has accepted at any later time, and only what is mined is counted.
-/

namespace Liquifier.Chain

open TaskSystem
open Engine (NodeReply)

/-- A wallet is unique by its chain and address, and every chain counts the transactions
of an address apart. -/
structure Account where
  chainId : ℕ
  address : Address
  deriving DecidableEq

/-- `TransactionRequest`, as the three functions fill it. -/
structure TransactionRequest where
  sender : Address
  toAddr : Address
  value : ℕ
  input : List UInt8
  nonce : ℕ
  chainId : ℕ
  gasLimit : ℕ
  gasPrice : ℕ
  deriving DecidableEq

def TransactionRequest.account (tx : TransactionRequest) : Account := ⟨tx.chainId, tx.sender⟩

/-! ### The callers -/

/-- A word of a call, most significant byte first. -/
def abiWord (n : ℕ) : List UInt8 :=
  (List.range 32).map fun i => UInt8.ofNat (n / 256 ^ (31 - i) % 256)

/-- `transferCall { to, amount }.abi_encode()`. -/
def transferCall (toAddr : Address) (amount : ℕ) : List UInt8 :=
  [0xa9, 0x05, 0x9c, 0xbb] ++ abiWord toAddr.toNat ++ abiWord amount

/-- A call of one of the functions that sign, with what it has worked out before it
reads the nonce. -/
inductive Call where
  | buildSignAndSubmitTx (chainId : ℕ) (sender toAddr : Address) (calldata : List UInt8)
      (value : ℕ)
  | adminWithdrawSession (chainId : ℕ) (walletAddr tokenAddress destAddr : Address)
      (amount : ℕ)
  | fundSessionWalletGas (chainId : ℕ) (gasWalletAddr walletAddr : Address)
      (deficit gasPrice : ℕ)
  deriving DecidableEq

/-- The wallet that signs. -/
def Call.account : Call → Account
  | .buildSignAndSubmitTx chainId sender _ _ _ => ⟨chainId, sender⟩
  | .adminWithdrawSession chainId walletAddr _ _ _ => ⟨chainId, walletAddr⟩
  | .fundSessionWalletGas chainId gasWalletAddr _ _ _ => ⟨chainId, gasWalletAddr⟩

/-- The unsigned transaction. -/
def Call.tx (call : Call) (nonce gasLimit gasPrice : ℕ) : TransactionRequest :=
  match call with
  | .buildSignAndSubmitTx chainId sender toAddr calldata value =>
      ⟨sender, toAddr, value, calldata, nonce, chainId, gasLimit, gasPrice⟩
  | .adminWithdrawSession chainId walletAddr tokenAddress destAddr amount =>
      ⟨walletAddr, tokenAddress, 0, transferCall destAddr amount, nonce, chainId, gasLimit,
        gasPrice⟩
  | .fundSessionWalletGas chainId gasWalletAddr walletAddr deficit _ =>
      ⟨gasWalletAddr, walletAddr, deficit, [], nonce, chainId, gasLimit, gasPrice⟩

/-- How often the call sends before it gives up. -/
def Call.attempts : Call → ℕ
  | .buildSignAndSubmitTx .. => 3
  | .adminWithdrawSession .. => 1
  | .fundSessionWalletGas .. => 1

/-- Where a call stands: which answer it waits for, and what it has been told. -/
inductive Phase where
  | nonce
  | estimateGas (nonce : ℕ)
  | gasPrice (nonce gasLimit : ℕ)
  | sign (nonce gasLimit gasPrice : ℕ)
  | send (tx : TransactionRequest) (attempts : ℕ)
  | done
  deriving DecidableEq

/-- With the nonce the engine estimates gas, a withdrawal asks for the price, and a
funding signs at the price it has. -/
def Call.afterNonce (call : Call) (nonce : ℕ) : Phase :=
  match call with
  | .buildSignAndSubmitTx .. => .estimateGas nonce
  | .adminWithdrawSession .. => .gasPrice nonce 80000
  | .fundSessionWalletGas _ _ _ _ gasPrice => .sign nonce 21000 gasPrice

/-- `gas_estimate.saturating_mul(120) / 100`. -/
def bufferedGas (gasEstimate : ℕ) : ℕ := min (gasEstimate * 120) (2 ^ 64 - 1) / 100

/-- Errors are tried again while attempts are left. -/
def afterSent (tx : TransactionRequest) (attempts : ℕ) (ok : Bool) : Phase :=
  if ok || attempts ≤ 1 then .done else .send tx (attempts - 1)

/-! ### The nodes and the KMS -/

/-- What the KMS has signed, and what the nodes hold of it. Transactions that were
mined before are only counted. -/
structure Chains where
  earlier : Account → ℕ
  signed : List TransactionRequest
  accepted : List TransactionRequest
  mined : List TransactionRequest

/-- Nothing is signed yet. -/
def Chains.start (earlier : Account → ℕ) : Chains := ⟨earlier, [], [], []⟩

namespace Chains

variable (w : Chains)

/-- The number of the mined transactions of the wallet. -/
def getTransactionCount (account : Account) : ℕ :=
  w.earlier account + w.mined.countP (·.account = account)

def knows (tx : TransactionRequest) : Bool := tx ∈ w.accepted ++ w.mined

/-- A node takes a transaction once, and a reply may be lost after it was taken. -/
def sendRawTransaction (tx : TransactionRequest) (reply : NodeReply) : Bool × Chains :=
  let taken := if w.knows tx then w else { w with accepted := w.accepted ++ [tx] }
  match reply with
  | .deliver => (!w.knows tx, taken)
  | .lose => (false, taken)
  | .refuse => (false, w)

/-- The KMS signs what it is asked to sign; a caller whose reply is lost hears an
error. -/
def signTransaction (tx : TransactionRequest) (reply : NodeReply) : Bool × Chains :=
  match reply with
  | .deliver => (true, { w with signed := w.signed ++ [tx] })
  | .lose => (false, { w with signed := w.signed ++ [tx] })
  | .refuse => (false, w)

def mine (tx : TransactionRequest) : Chains :=
  { w with accepted := w.accepted.erase tx, mined := w.mined ++ [tx] }

end Chains

/-! ### The system -/

/-- A call under way, or the mining of the chains. -/
inductive Task where
  | call (call : Call) (phase : Phase)
  | mining
  deriving DecidableEq

/-- What a task hears, and what it then does. -/
inductive Answer where
  | transactionCount (ok : Bool)
  | gasEstimate (result : Option ℕ)
  | gasPrice (result : Option ℕ)
  | signed (reply : NodeReply)
  | sent (reply : NodeReply)
  | mined (tx : TransactionRequest)
  deriving DecidableEq

def step : Answer → Chains → Task → Option (Chains × Task)
  | .transactionCount ok, w, .call call .nonce =>
      let phase := if ok then call.afterNonce (w.getTransactionCount call.account) else .done
      some (w, .call call phase)
  | .gasEstimate result, w, .call call (.estimateGas nonce) =>
      let phase := match result with
        | some gasEstimate => .gasPrice nonce (bufferedGas gasEstimate)
        | none => .done
      some (w, .call call phase)
  | .gasPrice result, w, .call call (.gasPrice nonce gasLimit) =>
      let phase := match result with
        | some gasPrice => .sign nonce gasLimit gasPrice
        | none => .done
      some (w, .call call phase)
  -- the transaction may be signed without the caller hearing of it
  | .signed reply, w, .call call (.sign nonce gasLimit gasPrice) =>
      let tx := call.tx nonce gasLimit gasPrice
      let (ok, w') := w.signTransaction tx reply
      some (w', .call call (if ok then .send tx call.attempts else .done))
  | .sent reply, w, .call call (.send tx attempts) =>
      let (ok, w') := w.sendRawTransaction tx reply
      some (w', .call call (afterSent tx attempts ok))
  -- nothing but the acceptance is asked: what was accepted is mined at any later step
  | .mined tx, w, .mining => if tx ∈ w.accepted then some (w.mine tx, .mining) else none
  | _, _, _ => none

/-- Calls arrive at any time, each at its first step. -/
def system : System Chains Task Answer where
  entry
    | .call _ phase => phase = .nonce
    | .mining => true
  step := step

/-- The nonce that the task is about to sign with, and for which wallet. -/
def Task.nonce : Task → Option (Account × ℕ)
  | .call c (.estimateGas nonce) => some (c.account, nonce)
  | .call c (.gasPrice nonce _) => some (c.account, nonce)
  | .call c (.sign nonce _ _) => some (c.account, nonce)
  | _ => none

/-- The transaction that the task is sending. -/
def Task.sending : Task → Option TransactionRequest
  | .call _ (.send tx _) => some tx
  | _ => none

/-- All that a step can do. -/
inductive Move (w : Chains) (t : Task) : Answer → Chains → Task → Prop where
  | count {call : Call} (ht : t = .call call .nonce) :
      Move w t (.transactionCount true) w
        (.call call (call.afterNonce (w.getTransactionCount call.account)))
  | wait {a : Answer} {t' : Task} (hnonce : t'.nonce = t.nonce) (hsending : t'.sending = none) :
      Move w t a w t'
  | fail {a : Answer} {call : Call} : Move w t a w (.call call .done)
  | sign {reply : NodeReply} {tx : TransactionRequest} {t' : Task}
      (ht : t.nonce = some (tx.account, tx.nonce)) (hnonce : t'.nonce = none)
      (hsending : ∀ tx' ∈ t'.sending, tx' = tx) :
      Move w t (.signed reply) { w with signed := w.signed ++ [tx] } t'
  | send {reply : NodeReply} {tx : TransactionRequest} {t' : Task} (ht : t.sending = some tx)
      (hnonce : t'.nonce = none) (hsending : ∀ tx' ∈ t'.sending, tx' = tx) :
      Move w t (.sent reply) (w.sendRawTransaction tx reply).2 t'
  | mine {tx : TransactionRequest} (hmem : tx ∈ w.accepted) (ht : t = .mining) :
      Move w t (.mined tx) (w.mine tx) t

@[simp] theorem account_tx (call : Call) (nonce gasLimit gasPrice : ℕ) :
    (call.tx nonce gasLimit gasPrice).account = call.account := by
  cases call <;> rfl

@[simp] theorem nonce_tx (call : Call) (nonce gasLimit gasPrice : ℕ) :
    (call.tx nonce gasLimit gasPrice).nonce = nonce := by
  cases call <;> rfl

theorem nonce_afterNonce (call : Call) (nonce : ℕ) :
    (Task.call call (call.afterNonce nonce)).nonce = some (call.account, nonce) := by
  cases call <;> rfl

theorem sending_afterNonce (call : Call) (nonce : ℕ) :
    (Task.call call (call.afterNonce nonce)).sending = none := by
  cases call <;> rfl

theorem sending_afterSent (call : Call) (tx : TransactionRequest) (attempts : ℕ) (ok : Bool) :
    (Task.call call (afterSent tx attempts ok)).nonce = none ∧
      ∀ tx' ∈ (Task.call call (afterSent tx attempts ok)).sending, tx' = tx := by
  rw [afterSent]
  split
  · exact ⟨rfl, fun tx' h => nomatch h⟩
  · exact ⟨rfl, fun tx' h => (Option.some.inj h).symm⟩

theorem step_move {w w' : Chains} {a : Answer} {t t' : Task} (h : step a w t = some (w', t')) :
    Move w t a w' t' := by
  cases a with
  | transactionCount ok =>
      rcases t with ⟨call, phase⟩ | _ <;> try cases phase
      all_goals cases h
      cases ok with
      | true => exact .count rfl
      | false => exact .fail
  | gasEstimate result =>
      rcases t with ⟨call, phase⟩ | _ <;> try cases phase
      all_goals cases h
      cases result with
      | some gasEstimate => exact .wait rfl rfl
      | none => exact .fail
  | gasPrice result =>
      rcases t with ⟨call, phase⟩ | _ <;> try cases phase
      all_goals cases h
      cases result with
      | some gasPrice => exact .wait rfl rfl
      | none => exact .fail
  | signed reply =>
      rcases t with ⟨call, phase⟩ | _ <;> try cases phase
      all_goals cases h
      rename_i nonce gasLimit gasPrice
      have ht : (Task.call call (.sign nonce gasLimit gasPrice)).nonce =
          some ((call.tx nonce gasLimit gasPrice).account,
            (call.tx nonce gasLimit gasPrice).nonce) := by
        rw [account_tx, nonce_tx]
        rfl
      cases reply with
      | deliver => exact .sign ht rfl (fun tx' h => (Option.some.inj h).symm)
      | lose => exact .sign ht rfl (fun tx' h => nomatch h)
      | refuse => exact .fail
  | sent reply =>
      rcases t with ⟨call, phase⟩ | _ <;> try cases phase
      all_goals cases h
      exact .send rfl (sending_afterSent call _ _ _).1 (sending_afterSent call _ _ _).2
  | mined tx =>
      cases t with
      | call call phase => cases h
      | mining =>
          obtain ⟨hmem, h⟩ := Option.ite_none_right_eq_some.mp h
          cases h
          exact .mine hmem rfl

/-! ### The attempts -/

/-- One call of `send_raw_transaction`, as `retry` makes it. -/
def attempt (tx : TransactionRequest) (replies : ℕ → NodeReply) (n : ℕ) (w : Chains) :
    Except String Unit × Chains :=
  match w.sendRawTransaction tx (replies n) with
  | (true, w') => (.ok (), w')
  | (false, w') => (.error "Failed to submit transaction to RPC", w')

/-- The attempts of a call that nobody interrupts are those of `retry`. -/
theorem exists_run_attempts (call : Call) (tx : TransactionRequest) (replies : ℕ → NodeReply)
    (n left : ℕ) {w : Chains} {ts : List Task} {i : ℕ}
    (hi : ts[i]? = some (.call call (.send tx (left + 1)))) :
    ∃ ms, system.run ⟨w, ts⟩ ms =
      some ⟨(retryFrom (attempt tx replies) n (left + 1) w).2, ts.set i (.call call .done)⟩ := by
  induction left generalizing n w ts with
  | zero =>
      refine ⟨[.act i (.sent (replies n))], ?_⟩
      have hdone (ok : Bool) : afterSent tx 1 ok = .done := by simp [afterSent]
      simp only [System.run, System.next, system, step, hi, hdone, retryFrom, attempt,
        Option.bind_some, Option.map_some]
      cases w.sendRawTransaction tx (replies n) with
      | mk ok w' => cases ok <;> rfl
  | succ left ih =>
      obtain ⟨ok, w', hsend⟩ : ∃ ok w', w.sendRawTransaction tx (replies n) = (ok, w') :=
        ⟨_, _, rfl⟩
      have hlt : i < ts.length := (List.getElem?_eq_some_iff.mp hi).1
      have hnext : system.next ⟨w, ts⟩ (.act i (.sent (replies n))) =
          some ⟨w', ts.set i (.call call (afterSent tx (left + 1 + 1) ok))⟩ := by
        simp [System.next, system, step, hi, hsend]
      cases ok with
      | true =>
          refine ⟨[.act i (.sent (replies n))], ?_⟩
          rw [System.run, hnext]
          simp [System.run, afterSent, retryFrom, attempt, hsend]
      | false =>
          have hset : (ts.set i (.call call (.send tx (left + 1))))[i]? =
              some (.call call (.send tx (left + 1))) := List.getElem?_set_self hlt
          obtain ⟨ms, hms⟩ := @ih (n + 1) w' _ hset
          refine ⟨.act i (.sent (replies n)) :: ms, ?_⟩
          have hretry : retryFrom (attempt tx replies) n (left + 1 + 1) w =
              retryFrom (attempt tx replies) (n + 1) (left + 1) w' := by
            rw [retryFrom, attempt, hsend]
            rfl
          rw [System.run, hnext, hretry, Option.bind_some]
          simpa [afterSent, List.set_set] using hms

/-- Alone, a call sends as `retry` does with as many attempts. -/
theorem exists_run_retry (call : Call) (tx : TransactionRequest) (replies : ℕ → NodeReply)
    {w : Chains} {ts : List Task} {i : ℕ}
    (hi : ts[i]? = some (.call call (.send tx call.attempts))) :
    ∃ ms, system.run ⟨w, ts⟩ ms =
      some ⟨(retry call.attempts (attempt tx replies) w).2, ts.set i (.call call .done)⟩ := by
  cases call with
  | buildSignAndSubmitTx => exact exists_run_attempts _ tx replies 1 2 hi
  | adminWithdrawSession | fundSessionWalletGas => exact exists_run_attempts _ tx replies 1 0 hi

end Liquifier.Chain
