import Liquifier.Chain.Ledger
import Liquifier.Chain.Nonces
import Liquifier.Gateway.GasFunding
import Liquifier.Gateway.Withdrawals

/-!
What can take a token out of a wallet.

Swaps, sweeps, withdrawals and fundings interleave, each from what it reads to the
transactions that it signs. Nodes mine what they have accepted, and everybody else does
what they like with their own accounts and contracts. A wallet counts as held when the key
service alone has its key; what is shown is about the held wallets. Tokens and routers are
parameters of the environment, with the readers of their inputs.

The engine lets only routers take a token, and lets them without a limit. So what a check of
an allowance has found once is never used up by a token that keeps unlimited allowances,
whatever else the engine does meanwhile, and nobody but a router can take a token of a
wallet.
-/

namespace Liquifier.Chain

open Engine (Approval SweepAnswers SwapAnswers SwapPlan approvalOf approveCall chainNameToId
  planSwap planSwap_planned planSwap_prepared prepareSwap resolveSessionWalletAddress resolveToken
  sweepToInvestor sweepToInvestor_swept)
open Gateway (AuthUser Crates GasAnswers WithdrawAnswers WithdrawBody adminWithdrawSession
  adminWithdrawSession_withdrawn fundSessionWalletGas)
open TaskSystem

/-! ### Jobs -/

structure FundsEnv (T : Type) where
  engine : Engine.Environment
  lib : Crates
  investorWallet : String
  abi : Abi
  /-- The code of the tokens, whose states are of the type `T`. -/
  token : Erc20.Contract Address T

/-- What signs for a wallet, with what it is answered: one pass of the session loop of
`process_swap_event`, a sweep, a withdrawal or a funding. -/
inductive Job where
  | swap (event : DexSwapEvent) (session : SessionInfo) (ans : SwapAnswers)
  | sweep (session : SessionInfo) (ans : SweepAnswers)
  | withdraw (user : AuthUser) (body : WithdrawBody) (ans : WithdrawAnswers)
  | fund (paddingPct : ℕ) (ans : GasAnswers)

section Jobs

variable {T : Type} (env : FundsEnv T)

/-- What a swap asks `ensure_token_approval` for; a native token needs none. -/
def Job.approval : Job → Option Approval
  | .swap event session ans =>
      (prepareSwap env.engine event session ans).bind fun prepared =>
        if isNativeTokenPlaceholder prepared.1 then none
        else approvalOf env.engine session prepared
  | _ => none

/-- What the node answers for the allowance. -/
def Job.allowance : Job → Option ℕ
  | .swap _ _ ans => ans.allowance
  | _ => none

/-- The approval is confirmed before the deadline. -/
def Job.approved : Job → Bool
  | .swap _ _ ans => ans.approved
  | _ => false

def swapCall (session : SessionInfo) (plan : SwapPlan) : Call :=
  .buildSignAndSubmitTx (chainNameToId env.engine.settings session.chain) plan.recipient
    plan.routerAddress (env.abi.encode plan.calldata) plan.txValue

/-- The transaction that the job is for, if it comes to it. -/
def Job.call : Job → Option Call
  | .swap event session ans =>
      (planSwap env.engine event session ans).map (swapCall env session)
  | .sweep session ans => sweepToInvestor env.engine.settings session env.investorWallet ans
  | .withdraw user body ans =>
      (adminWithdrawSession env.engine.settings env.lib user body ans).toOption
  | .fund paddingPct ans =>
      match fundSessionWalletGas paddingPct ans with
      | .ok (.ok call) => call
      | _ => none

end Jobs

/-! ### The system -/

structure Funds (T : Type) where
  chains : Chains
  ledger : Ledger T
  /-- The mined transactions that have not failed. -/
  executed : List TransactionRequest

/-- Where a job is. -/
inductive JobPhase where
  | check
  | approving (phase : Phase)
  /-- It polls for the receipt of the approval. -/
  | await (tx : TransactionRequest)
  | plan
  | calling (phase : Phase)
  | ended

/-- A job, and the calls that it has begun. -/
structure JobTask where
  job : Job
  approval : Option Approval
  call : Option Call
  phase : JobPhase

def JobTask.calls (t : JobTask) : List Call :=
  (t.approval.map Approval.call).toList ++ t.call.toList

inductive FundsTask where
  | job (t : JobTask)
  | mining
  /-- Everybody else. -/
  | outside

inductive JobAct where
  | check
  | answer (a : Answer)
  | receipt (confirmed : Bool)
  | plan

inductive FundsAct where
  | job (a : JobAct)
  /-- A transaction is mined. -/
  | mined (tx : TransactionRequest) (calls : Calls) (reverts : Bool)
  /-- One is mined that nobody here has signed. -/
  | outside (tx : TransactionRequest) (calls : Calls)

/-- A step of one of the functions that sign. -/
def advance (call : Call) (phase : Phase) (a : Answer) (w : Chains) : Option (Chains × Phase) :=
  (step a w (.call call phase)).bind fun r =>
    match r.2 with
    | .call _ phase' => some (r.1, phase')
    | .mining => none

/-- The transaction that the node has just accepted. -/
def acceptedNow : Phase → Answer → Chains → Option TransactionRequest
  | .send tx _, .sent reply, w => if (w.sendRawTransaction tx reply).1 then some tx else none
  | _, _, _ => none

def afterApproval (phase : Phase) (a : Answer) (w : Chains) : Phase → JobPhase
  | .done =>
      match acceptedNow phase a w with
      | some tx => .await tx
      | none => .ended
  | next => .approving next

def afterCall : Phase → JobPhase
  | .done => .ended
  | next => .calling next

section Steps

variable {T : Type} (env : FundsEnv T)

/-- The allowance for the router of an approval. -/
def FundsEnv.allowed (l : Ledger T) (a : Approval) : ℕ :=
  env.token.allowance (l a.chainId a.token) a.owner a.router

def jobStep (s : Funds T) (t : JobTask) : JobAct → Option (Funds T × JobTask)
  | .check =>
      match t.phase with
      | .check =>
          match t.job.approval env with
          | none => some (s, { t with phase := .plan })
          | some a =>
              match t.job.allowance with
              | none => some (s, { t with phase := .ended })
              | some allowance =>
                  if allowance ≠ env.allowed s.ledger a then none
                  else if a.amount ≤ allowance then some (s, { t with phase := .plan })
                  else some (s, { t with approval := some a, phase := .approving .nonce })
      | _ => none
  | .answer answer =>
      match t.phase with
      | .approving phase =>
          t.approval.bind fun a => (advance a.call phase answer s.chains).map fun r =>
            ({ s with chains := r.1 }, { t with phase := afterApproval phase answer s.chains r.2 })
      | .calling phase =>
          t.call.bind fun call => (advance call phase answer s.chains).map fun r =>
            ({ s with chains := r.1 }, { t with phase := afterCall r.2 })
      | _ => none
  | .receipt confirmed =>
      match t.phase with
      | .await tx =>
          if t.job.approved ≠ confirmed then none
          else if confirmed then
            if tx ∈ s.executed then some (s, { t with phase := .plan }) else none
          else some (s, { t with phase := .ended })
      | _ => none
  | .plan =>
      match t.phase with
      | .plan =>
          match t.job.call env with
          | some call => some (s, { t with call := some call, phase := .calling .nonce })
          | none => some (s, { t with phase := .ended })
      | _ => none

def fundsStep : FundsAct → Funds T → FundsTask → Option (Funds T × FundsTask)
  | .job a, s, .job t => (jobStep env s t a).map fun r => (r.1, .job r.2)
  | .mined tx calls reverts, s, .mining =>
      if tx ∈ s.chains.accepted then
        match if reverts then none else s.ledger.execute env.token tx.chainId calls with
        | some ledger => some (⟨s.chains.mine tx, ledger, s.executed ++ [tx]⟩, .mining)
        | none => some ({ s with chains := s.chains.mine tx }, .mining)
      else none
  | .outside tx calls, s, .outside =>
      (s.ledger.execute env.token tx.chainId calls).map fun ledger =>
        ({ s with ledger }, .outside)
  | _, _, _ => none

def FundsTask.isNew : FundsTask → Bool
  | .job t => t.approval.isNone && t.call.isNone &&
      match t.job, t.phase with
      | .swap _ _ _, .check => true
      | .swap _ _ _, _ => false
      | _, .plan => true
      | _, _ => false
  | _ => true

def funds : System (Funds T) FundsTask FundsAct := ⟨FundsTask.isNew, fundsStep env⟩

/-- Nothing has been signed. -/
def fundsStart (earlier : Account → ℕ) (ledger : Ledger T) : Config (Funds T) FundsTask :=
  ⟨⟨.start earlier, ledger, []⟩, []⟩

/-- The routers of the configuration. -/
def configuredRouters (cfg : Settings) (chainId : ℕ) : List Address :=
  cfg.chains.flatMap fun c =>
    if c.2.chainId = chainId then
      c.2.dexFactories.filterMap fun dex => Address.parse (trim dex.routerAddress)
    else []

/-- The held wallets that are on the chain of a transaction. -/
def heldOn (held : List Account) (chainId : ℕ) : List Address :=
  (held.filter (·.chainId = chainId)).map (·.address)

/-- The others sign for their own accounts, and a transaction does with the tokens of the held
wallets only what a transaction can. -/
def Apart (held : List Account) (_ : Config (Funds T) FundsTask) :
    TaskSystem.Move FundsTask FundsAct → Prop
  | .act _ (.mined tx calls _) => ∀ wallet ∈ heldOn held tx.chainId,
      Conforms env.abi (configuredRouters env.engine.settings tx.chainId) tx calls wallet
  | .act _ (.outside tx calls) => tx.account ∉ held ∧ ∀ wallet ∈ heldOn held tx.chainId,
      Conforms env.abi (configuredRouters env.engine.settings tx.chainId) tx calls wallet
  | _ => True

instance (held : List Account) (c : Config (Funds T) FundsTask)
    (m : TaskSystem.Move FundsTask FundsAct) : Decidable (Apart env held c m) := by
  unfold Apart
  split <;> infer_instance

/-! ### What a step does -/

/-- All that a step can do. -/
inductive FundsMove (s : Funds T) : FundsTask → FundsAct → Funds T → FundsTask → Prop
  | gaveUp {t : JobTask} {a : JobAct} :
      FundsMove s (.job t) (.job a) s (.job { t with phase := .ended })
  | allowed {t : JobTask} (hphase : t.phase = .check)
      (hallowed : ∀ a ∈ t.job.approval env, a.amount ≤ env.allowed s.ledger a) :
      FundsMove s (.job t) (.job .check) s (.job { t with phase := .plan })
  | approves {t : JobTask} {a : Approval} (hphase : t.phase = .check)
      (happroval : t.job.approval env = some a) :
      FundsMove s (.job t) (.job .check) s
        (.job { t with approval := some a, phase := .approving .nonce })
  | approving {t : JobTask} {a : Approval} {phase next : Phase} {answer : Answer} {w : Chains}
      (hphase : t.phase = .approving phase) (happroval : t.approval = some a)
      (h : advance a.call phase answer s.chains = some (w, next)) :
      FundsMove s (.job t) (.job (.answer answer)) { s with chains := w }
        (.job { t with phase := afterApproval phase answer s.chains next })
  | confirmed {t : JobTask} {tx : TransactionRequest} (hphase : t.phase = .await tx)
      (hexecuted : tx ∈ s.executed) :
      FundsMove s (.job t) (.job (.receipt true)) s (.job { t with phase := .plan })
  | planned {t : JobTask} {call : Call} (hphase : t.phase = .plan)
      (hcall : t.job.call env = some call) :
      FundsMove s (.job t) (.job .plan) s
        (.job { t with call := some call, phase := .calling .nonce })
  | calling {t : JobTask} {call : Call} {phase next : Phase} {answer : Answer} {w : Chains}
      (hphase : t.phase = .calling phase) (hcall : t.call = some call)
      (h : advance call phase answer s.chains = some (w, next)) :
      FundsMove s (.job t) (.job (.answer answer)) { s with chains := w }
        (.job { t with phase := afterCall next })
  | executes {tx : TransactionRequest} {calls : Calls} {ledger : Ledger T}
      (htx : tx ∈ s.chains.accepted)
      (h : s.ledger.execute env.token tx.chainId calls = some ledger) :
      FundsMove s .mining (.mined tx calls false)
        ⟨s.chains.mine tx, ledger, s.executed ++ [tx]⟩ .mining
  | reverts {tx : TransactionRequest} {calls : Calls} {reverts : Bool}
      (htx : tx ∈ s.chains.accepted) :
      FundsMove s .mining (.mined tx calls reverts) { s with chains := s.chains.mine tx } .mining
  | outside {tx : TransactionRequest} {calls : Calls} {ledger : Ledger T}
      (h : s.ledger.execute env.token tx.chainId calls = some ledger) :
      FundsMove s .outside (.outside tx calls) { s with ledger } .outside

end Steps

section Moves

variable {T : Type} {env : FundsEnv T} {s s' : Funds T} {t t' : FundsTask} {a : FundsAct}

theorem jobStep_move {j j' : JobTask} {act : JobAct} (h : jobStep env s j act = some (s', j')) :
    FundsMove env s (.job j) (.job act) s' (.job j') := by
  unfold jobStep at h
  split at h
  · split at h
    · rename_i hphase
      split at h
      · rename_i hnone
        cases h
        refine .allowed hphase fun a ha => ?_
        rw [hnone] at ha
        cases ha
      · rename_i a happroval
        split at h
        · cases h
          exact .gaveUp
        · rename_i allowance hallowance
          obtain ⟨hread, h⟩ := Option.ite_none_left_eq_some.mp h
          have hread : allowance = env.allowed s.ledger a := not_not.mp hread
          split at h
          · rename_i hle
            cases h
            refine .allowed hphase fun b hb => ?_
            obtain rfl : a = b := Option.some.inj (happroval.symm.trans hb)
            exact hle.trans_eq hread
          · cases h
            exact .approves hphase happroval
    · cases h
  · rename_i answer
    split at h
    · rename_i phase hphase
      obtain ⟨a, ha, h⟩ := Option.bind_eq_some_iff.mp h
      obtain ⟨⟨w, next⟩, hadvance, heq⟩ := Option.map_eq_some_iff.mp h
      cases heq
      exact .approving hphase ha hadvance
    · rename_i phase hphase
      obtain ⟨call, hcall, h⟩ := Option.bind_eq_some_iff.mp h
      obtain ⟨⟨w, next⟩, hadvance, heq⟩ := Option.map_eq_some_iff.mp h
      cases heq
      exact .calling hphase hcall hadvance
    · cases h
  · rename_i confirmed
    split at h
    · rename_i tx hphase
      obtain ⟨-, h⟩ := Option.ite_none_left_eq_some.mp h
      cases confirmed with
      | true =>
          obtain ⟨hexecuted, h⟩ := Option.ite_none_right_eq_some.mp h
          cases h
          exact .confirmed hphase hexecuted
      | false =>
          cases h
          exact .gaveUp
    · cases h
  · split at h
    · rename_i hphase
      split at h
      · rename_i call hcall
        cases h
        exact .planned hphase hcall
      · cases h
        exact .gaveUp
    · cases h

theorem fundsStep_move (h : fundsStep env a s t = some (s', t')) : FundsMove env s t a s' t' := by
  unfold fundsStep at h
  split at h
  · obtain ⟨⟨s', j'⟩, hstep, heq⟩ := Option.map_eq_some_iff.mp h
    cases heq
    exact jobStep_move hstep
  · obtain ⟨htx, h⟩ := Option.ite_none_right_eq_some.mp h
    split at h
    · rename_i ledger hledger
      obtain ⟨hreverts, hledger⟩ := Option.ite_none_left_eq_some.mp hledger
      cases h
      rw [Bool.not_eq_true] at hreverts
      subst hreverts
      exact .executes htx hledger
    · cases h
      exact .reverts htx
  · obtain ⟨ledger, hledger, heq⟩ := Option.map_eq_some_iff.mp h
    cases heq
    exact .outside hledger
  · cases h

theorem funds_move {c : Config (Funds T) FundsTask} {i : ℕ} (h : (funds env).Acts c i a t s' t') :
    FundsMove env c.store t a s' t' :=
  fundsStep_move h.step

end Moves

end Liquifier.Chain
