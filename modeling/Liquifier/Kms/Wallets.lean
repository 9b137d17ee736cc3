import Liquifier.Common.Status
import Liquifier.Common.Types
import Liquifier.Lib.Table

/-!
The wallets of the key service and the balance that it answers.

A balance is asked by the id of a wallet alone: nothing in the request says who
asks. The token is read on the chain of the wallet.
-/

namespace Liquifier.Kms

/-- A row of `wallets`, without the key. -/
structure WalletRow where
  id : Uuid
  userId : Uuid
  chain : String
  address : String
  deriving DecidableEq

structure GetBalanceRequest where
  walletId : String
  tokenAddress : String
  rpcUrl : String

structure GetBalanceResponse where
  balance : String
  decimals : ℕ
  deriving DecidableEq

/-- The nodes behind the URLs; `none` is an error. -/
structure Nodes where
  parsesUrl : String → Bool
  nativeBalance : (rpcUrl : String) → (owner : Address) → Option ℕ
  decimals : (rpcUrl : String) → (token : Address) → Option ℕ
  balanceOf : (rpcUrl : String) → (token owner : Address) → Option ℕ

/-- The token that a text stands for on a chain: the native one, or a contract. -/
def tokenOf (cfg : Settings) (chain tokenAddress : String) : Option (Option Address) :=
  let token := cfg.normalizeTokenForChain chain (trim tokenAddress)
  if token = "" then some none else (Address.parse token).map some

def configuredRpcUrl (cfg : Settings) (chain : String) : Option String :=
  (cfg.chain chain).bind fun c =>
    let url := trim c.rpcUrl
    if url = "" then none else some url

/-- The URL of the request, or else the one of the configuration. -/
def rpcUrlFor (cfg : Settings) (chain rpcUrlOverride : String) : Except Status String :=
  if rpcUrlOverride ≠ "" then .ok rpcUrlOverride
  else
    okOr (.failedPrecondition ("No RPC URL configured for chain " ++ chain))
      (configuredRpcUrl cfg chain)

/-- `get_balance`; `selects` tells whether the database answers. -/
def getBalance (cfg : Settings) (uuidFromStr : String → Option Uuid) (nodes : Nodes)
    (wallets : List WalletRow) (selects : Bool) (req : GetBalanceRequest) :
    Except Status GetBalanceResponse := do
  let walletId ← okOr (.invalidArgument "Invalid wallet_id") (uuidFromStr req.walletId)
  ensure selects (.internal "DB error")
  let wallet ← okOr (.notFound "Wallet not found") (Table.get (·.id) wallets walletId)
  let rpcUrlOverride := trim req.rpcUrl
  let rpcUrl ← rpcUrlFor cfg wallet.chain rpcUrlOverride
  ensure (nodes.parsesUrl rpcUrl)
    (if rpcUrlOverride = "" then
      .failedPrecondition ("Invalid RPC URL configured for chain " ++ wallet.chain)
    else .invalidArgument "Invalid rpc_url")
  let address ← okOr (.internal "Invalid wallet address in DB") (Address.parse wallet.address)
  let token ← okOr (.invalidArgument "Invalid token_address")
    (tokenOf cfg wallet.chain req.tokenAddress)
  match token with
  | none =>
      let balance ← okOr (.internal "RPC error") (nodes.nativeBalance rpcUrl address)
      return ⟨toString balance, 18⟩
  | some token =>
      let decimals ← okOr (.internal "decimals() call failed") (nodes.decimals rpcUrl token)
      let balance ← okOr (.internal "balanceOf() call failed")
        (nodes.balanceOf rpcUrl token address)
      return ⟨toString balance, decimals⟩

/-- What a node says that an address holds of a token. -/
def Nodes.holding (nodes : Nodes) (rpcUrl : String) (owner : Address) :
    Option Address → Option ℕ
  | none => nodes.nativeBalance rpcUrl owner
  | some token => nodes.balanceOf rpcUrl token owner

/-- What is answered is what some node says that the wallet holds. -/
theorem getBalance_holding {cfg : Settings} {uuidFromStr : String → Option Uuid} {nodes : Nodes}
    {wallets : List WalletRow} {selects : Bool} {req : GetBalanceRequest}
    {resp : GetBalanceResponse}
    (h : getBalance cfg uuidFromStr nodes wallets selects req = .ok resp) :
    ∃ id wallet address token rpcUrl balance, uuidFromStr req.walletId = some id ∧
      Table.get (·.id) wallets id = some wallet ∧ Address.parse wallet.address = some address ∧
      tokenOf cfg wallet.chain req.tokenAddress = some token ∧
      nodes.holding rpcUrl address token = some balance ∧ resp.balance = toString balance := by
  simp only [getBalance, bind_eq_ok, okOr_eq_ok] at h
  obtain ⟨id, hid, _, _, wallet, hwallet, rpcUrl, _, _, _, address, haddress, token, htoken, h⟩ := h
  cases token with
  | none =>
      simp only [bind_eq_ok, okOr_eq_ok] at h
      obtain ⟨balance, hbalance, h⟩ := h
      cases h
      exact ⟨id, wallet, address, none, rpcUrl, balance, hid, hwallet, haddress, htoken, hbalance,
        rfl⟩
  | some token =>
      simp only [bind_eq_ok, okOr_eq_ok] at h
      obtain ⟨_, _, balance, hbalance, h⟩ := h
      cases h
      exact ⟨id, wallet, address, some token, rpcUrl, balance, hid, hwallet, haddress, htoken,
        hbalance, rfl⟩

end Liquifier.Kms
