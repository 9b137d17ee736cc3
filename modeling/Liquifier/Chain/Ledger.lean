import Liquifier.Chain.Calldata

/-!
What transactions do to the tokens of the chains.

The contracts are not ours: a mined transaction makes them call tokens, and the trace of
these calls is all that is looked at. `Conforms` is what is known of a trace beforehand. A
wallet has no code, so it calls a token by a transaction of its own and in no other way;
and a router takes tokens of its caller only, what the caller sells, once. Pools,
aggregators and everybody else call whatever they like.
-/

namespace Liquifier.Chain

open Engine (RouterCall decodePath)

/-! ### Routers -/

/-- The token that the caller of a router sells, and how much of it. -/
def sells : RouterCall → Option (Address × ℕ)
  | .swapExactETHForTokensSupportingFeeOnTransferTokens _ _ _ _ => none
  | .swapExactTokensForETHSupportingFeeOnTransferTokens amountIn _ path _ _ =>
      path.head?.map fun token => (token, amountIn)
  | .swapExactTokensForTokensSupportingFeeOnTransferTokens amountIn _ path _ _ =>
      path.head?.map fun token => (token, amountIn)
  | .exactInput path _ _ amountIn _ =>
      (Address.ofBytes (path.take 20)).map fun token => (token, amountIn)

theorem ofBytes_take_of_decodePath {bytes : List UInt8} {path : List Address × List ℕ}
    (h : decodePath bytes = some path) : Address.ofBytes (bytes.take 20) = path.1.head? := by
  rw [decodePath] at h
  split at h
  · rename_i token htoken
    cases h
    have hlen : bytes.length = 20 := by
      by_contra hne
      rw [Address.ofBytes, dif_neg hne] at htoken
      cases htoken
    rw [List.take_of_length_le hlen.le, htoken]
    rfl
  · obtain ⟨-, h⟩ := Option.ite_none_left_eq_some.mp h
    obtain ⟨token, htoken, h⟩ := Option.bind_eq_some_iff.mp h
    obtain ⟨rest, -, rfl⟩ := Option.map_eq_some_iff.mp h
    exact htoken

/-- What the caller sells is the first token of the order, as much as the order says. -/
theorem order_of_sells {call : RouterCall} {order : Order} {token : Address} {amount : ℕ}
    (h : sells call = some (token, amount)) (horder : orderOf call = some order) :
    order.amountIn = some amount ∧ order.tokens.head? = some token := by
  cases call with
  | swapExactETHForTokensSupportingFeeOnTransferTokens => cases h
  | swapExactTokensForETHSupportingFeeOnTransferTokens =>
      obtain ⟨first, hfirst, heq⟩ := Option.map_eq_some_iff.mp h
      cases heq
      cases horder
      exact ⟨rfl, hfirst⟩
  | swapExactTokensForTokensSupportingFeeOnTransferTokens =>
      obtain ⟨first, hfirst, heq⟩ := Option.map_eq_some_iff.mp h
      cases heq
      cases horder
      exact ⟨rfl, hfirst⟩
  | exactInput =>
      obtain ⟨first, hfirst, heq⟩ := Option.map_eq_some_iff.mp h
      cases heq
      obtain ⟨hops, hdecode, rfl⟩ := Option.map_eq_some_iff.mp horder
      exact ⟨rfl, (ofBytes_take_of_decodePath hdecode).symm.trans hfirst⟩

/-! ### Transactions -/

/-- The tokens of each chain by their addresses. -/
abbrev Ledger (T : Type) := ℕ → Address → T

/-- The calls of tokens that a transaction makes the contracts make, in their order. -/
abbrev Calls := List (Erc20.Message Address)

/-- The ledger after the calls of a transaction, where none of them fails. -/
def Ledger.execute {T : Type} (token : Erc20.Contract Address T) (l : Ledger T) (chainId : ℕ)
    (calls : Calls) : Option (Ledger T) :=
  (Erc20.run token (l chainId) calls).map (Function.update l chainId)

/-- What a transaction lets the contracts do with the tokens of a wallet. -/
structure Conforms (abi : Abi) (routers : List Address) (tx : TransactionRequest)
    (calls : Calls) (wallet : Address) : Prop where
  /-- The wallet calls the token that its transaction is sent to, as the token reads it. -/
  own : ∀ m ∈ calls, m.caller = wallet →
    tx.sender = wallet ∧ tx.toAddr = m.token ∧ abi.readToken tx.input = some m.call
  made : tx.sender = wallet → ∀ call ∈ abi.readToken tx.input, ⟨tx.toAddr, wallet, call⟩ ∈ calls
  /-- A router that takes from the wallet has been called by it, to sell what it takes. -/
  pulls : ∀ m ∈ calls, m.caller ∈ routers → m.call.src = some wallet →
    tx.sender = wallet ∧ tx.toAddr = m.caller ∧
      ∃ sale ∈ (abi.readRouter tx.input).bind sells, m.token = sale.1 ∧ m.call.amount ≤ sale.2
  once : (calls.countP fun m => Erc20.Takes (· ∈ routers) wallet m.caller m.call) ≤ 1

instance (abi : Abi) (routers : List Address) (tx : TransactionRequest) (calls : Calls)
    (wallet : Address) : Decidable (Conforms abi routers tx calls wallet) :=
  decidable_of_iff
    ((∀ m ∈ calls, m.caller = wallet →
        tx.sender = wallet ∧ tx.toAddr = m.token ∧ abi.readToken tx.input = some m.call) ∧
      (tx.sender = wallet →
        ∀ call ∈ abi.readToken tx.input, ⟨tx.toAddr, wallet, call⟩ ∈ calls) ∧
      (∀ m ∈ calls, m.caller ∈ routers → m.call.src = some wallet →
        tx.sender = wallet ∧ tx.toAddr = m.caller ∧
          ∃ sale ∈ (abi.readRouter tx.input).bind sells,
            m.token = sale.1 ∧ m.call.amount ≤ sale.2) ∧
      (calls.countP fun m => Erc20.Takes (· ∈ routers) wallet m.caller m.call) ≤ 1)
    ⟨fun ⟨own, made, pulls, once⟩ => ⟨own, made, pulls, once⟩,
      fun h => ⟨h.own, h.made, h.pulls, h.once⟩⟩

variable {T : Type} {token : Erc20.Contract Address T} {l l' : Ledger T}

/-- A transaction changes the tokens of its chain, by the calls. -/
theorem Ledger.execute_cases {chainId : ℕ} {calls : Calls}
    (h : l.execute token chainId calls = some l') :
    ∃ ts, Erc20.run token (l chainId) calls = some ts ∧ l' chainId = ts ∧
      ∀ c, c ≠ chainId → l' c = l c := by
  obtain ⟨ts, hrun, rfl⟩ := Option.map_eq_some_iff.mp h
  exact ⟨ts, hrun, Function.update_self _ _ _, fun c hc => Function.update_of_ne hc _ _⟩

end Liquifier.Chain
