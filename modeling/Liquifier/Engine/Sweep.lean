import Liquifier.Chain.Transactions
import Liquifier.Engine.Plan

/-!
What the engine signs for a session beside its swaps.

Before a swap it lets the router take the sell token, and when a session completes it
sends what the wallet holds of the target token to the wallet of the investor.
-/

namespace Liquifier.Engine

open Chain (abiWord transferCall)

/-- `chain_name_to_id`. -/
def chainNameToId (cfg : Settings) (name : String) : ℕ := ((cfg.chain name).map (·.chainId)).getD 1

/-! ### The sweep -/

/-- What the database and the nodes answer to `sweep_to_investor`. -/
structure SweepAnswers where
  /-- Address and chain of the wallet, where it is found. -/
  wallet : Option (Option (String × String))
  nativeBalance : Option ℕ
  gasPrice : Option ℕ
  /-- What the wallet holds of the target token. -/
  balance : Option ℕ

/-- `sweep_to_investor` up to its call of `build_sign_and_submit_tx`; `none` is an error,
or nothing to send. -/
def sweepToInvestor (cfg : Settings) (session : SessionInfo) (investorAddr : String)
    (ans : SweepAnswers) : Option Chain.Call := do
  let investor ← Address.parse investorAddr
  let sender ← resolveSessionWalletAddress ans.wallet session.chain
  let chainCfg ← cfg.enabledChain session.chain
  if isNativeTokenPlaceholder session.targetToken then
    let balance ← rpc cfg session.chain ans.nativeBalance
    guard (balance ≠ 0)
    let gasPrice ← ans.gasPrice
    -- about 21000 gas are kept for the transfer itself
    let gasCost := 21000 * min (gasPrice * 2) (2 ^ 128 - 1)
    let sendAmount := balance - gasCost
    guard (sendAmount ≠ 0)
    some (.buildSignAndSubmitTx chainCfg.chainId sender investor [] sendAmount)
  else
    let tokenAddress ← rpc cfg session.chain (Address.parse session.targetToken)
    let balance ← ans.balance
    guard (balance ≠ 0)
    some (.buildSignAndSubmitTx chainCfg.chainId sender tokenAddress
      (transferCall investor balance) 0)

/-- What a sweep sends: some of the native balance, or all that the wallet holds of the
target token. -/
inductive Swept (session : SessionInfo) (investor : Address) (ans : SweepAnswers) :
    Chain.Call → Prop
  | native {chainId balance sendAmount : ℕ} {sender : Address}
      (hnative : isNativeTokenPlaceholder session.targetToken = true)
      (hbalance : ans.nativeBalance = some balance) (hpos : 0 < sendAmount)
      (hle : sendAmount ≤ balance) :
      Swept session investor ans (.buildSignAndSubmitTx chainId sender investor [] sendAmount)
  | token {chainId balance : ℕ} {sender tokenAddress : Address}
      (hsender : resolveSessionWalletAddress ans.wallet session.chain = some sender)
      (htoken : Address.parse session.targetToken = some tokenAddress)
      (hbalance : ans.balance = some balance) (hpos : 0 < balance) :
      Swept session investor ans
        (.buildSignAndSubmitTx chainId sender tokenAddress (transferCall investor balance) 0)

theorem rpc_eq_some {α : Type} {cfg : Settings} {chain : String} {answer : Option α} {a : α}
    (h : rpc cfg chain answer = some a) : answer = some a := by
  obtain ⟨_, -, h⟩ := Option.bind_eq_some_iff.mp h
  exact h

theorem sweepToInvestor_swept {cfg : Settings} {session : SessionInfo} {investorAddr : String}
    {ans : SweepAnswers} {call : Chain.Call}
    (h : sweepToInvestor cfg session investorAddr ans = some call) :
    ∃ investor, Address.parse investorAddr = some investor ∧ Swept session investor ans call := by
  simp only [sweepToInvestor, Option.bind_eq_bind, Option.bind_eq_some_iff] at h
  obtain ⟨investor, hinvestor, sender, hsender, chainCfg, -, h⟩ := h
  refine ⟨investor, hinvestor, ?_⟩
  split at h
  · rename_i hnative
    simp only [Option.bind_eq_some_iff, Option.guard_eq_some', Option.some.injEq] at h
    obtain ⟨balance, hbalance, -, -, gasPrice, -, -, hsend, rfl⟩ := h
    exact .native hnative (rpc_eq_some hbalance) (Nat.pos_of_ne_zero hsend) (Nat.sub_le _ _)
  · simp only [Option.bind_eq_some_iff, Option.guard_eq_some', Option.some.injEq] at h
    obtain ⟨tokenAddress, htoken, balance, hbalance, -, hpos, rfl⟩ := h
    exact .token hsender (rpc_eq_some htoken) hbalance (Nat.pos_of_ne_zero hpos)

/-! ### The approval -/

/-- `approveCall { spender, amount }.abi_encode()`. -/
def approveCall (spender : Address) (amount : ℕ) : List UInt8 :=
  [0x09, 0x5e, 0xa7, 0xb3] ++ abiWord spender.toNat ++ abiWord amount

/-- The arguments of `ensure_token_approval`, with the token as it parses it. -/
structure Approval where
  chainId : ℕ
  owner : Address
  token : Address
  router : Address
  amount : ℕ
  deriving DecidableEq

/-- The transaction that `ensure_token_approval` submits. -/
def Approval.call (a : Approval) : Chain.Call :=
  .buildSignAndSubmitTx a.chainId a.owner a.token (approveCall a.router U256.max) 0

/-- The loop of `process_swap_event` up to `ensure_token_approval`: the sell token, and the
arguments. -/
def prepareSwap (env : Environment) (event : DexSwapEvent) (session : SessionInfo)
    (ans : SwapAnswers) : Option (String × ℕ × Address × Address) := do
  let pool ← session.pools.find? fun p => eqIgnoreAsciiCase p.poolAddress event.poolAddress
  let tokenOut := resolvedTokenOut event pool
  guard (eqIgnoreAsciiCase tokenOut session.sellToken = true)
  let poolType ← poolTypeFromStr pool.poolType
  guard (buyTriggerMet env event session tokenOut ans = true)
  let _marketCapUsd ← marketCapSnapshot env event session tokenOut ans
  let remaining := U256.ofNumeric session.totalAmount - U256.ofNumeric session.amountSold
  guard (remaining ≠ 0)
  let sellAmount := min (povSellAmount env event session) remaining
  let route ← parsePoolSwapRoute env.jsonFromStr pool.swapPathJson event.poolAddress
  let sellToken ← route.hopTokens.head?
  let priceImpactBps ←
    calculatePriceImpact env session.chain event.poolAddress poolType sellToken sellAmount ans.pool
  guard (priceImpactBps ≤ maxImpactBps env session)
  let router ← env.settings.dexRouterForChain session.chain pool.dexName poolType
  let routerAddress ← Address.parse router
  let recipient ← resolveSessionWalletAddress ans.wallet session.chain
  some (sellToken, sellAmount, routerAddress, recipient)

/-- What `ensure_token_approval` is called with, and `none` where it reports an error
before it asks for the allowance. -/
def approvalOf (env : Environment) (session : SessionInfo)
    (prepared : String × ℕ × Address × Address) :
    Option Approval := do
  let (sellToken, sellAmount, routerAddress, recipient) := prepared
  let token ← rpc env.settings session.chain (Address.parse sellToken)
  some ⟨chainNameToId env.settings session.chain, recipient, token, routerAddress, sellAmount⟩

/-- A plan has come by `ensure_token_approval`. -/
theorem planSwap_prepared {env : Environment} {event : DexSwapEvent} {session : SessionInfo}
    {ans : SwapAnswers} {plan : SwapPlan} (h : planSwap env event session ans = some plan) :
    ∃ sellToken, plan.route.hopTokens.head? = some sellToken ∧
      prepareSwap env event session ans =
        some (sellToken, plan.sellAmount, plan.routerAddress, plan.recipient) := by
  simp only [planSwap, Option.bind_eq_bind, Option.bind_eq_some_iff, Option.guard_eq_some',
    Option.some.injEq] at h
  obtain ⟨pool, hpool, _, htoken, poolType, htype, _, htrigger, cap, hcap, _, hrem, route, hroute,
    sellToken, hsell, impact, himpact, _, hmax, router, hrouter, routerAddress, haddr, recipient,
    hrecipient, _, happroval, expected, hquote, calldata, hcall, rfl⟩ := h
  refine ⟨sellToken, hsell, ?_⟩
  simp only [prepareSwap, Option.bind_eq_bind, Option.bind_eq_some_iff, Option.guard_eq_some',
    Option.some.injEq]
  exact ⟨pool, hpool, (), htoken, poolType, htype, (), htrigger, cap, hcap, (), hrem, route, hroute,
    sellToken, hsell, impact, himpact, (), hmax, router, hrouter, routerAddress, haddr, recipient,
    hrecipient, rfl⟩

end Liquifier.Engine
