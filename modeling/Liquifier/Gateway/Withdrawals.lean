import Liquifier.Chain.Transactions
import Liquifier.Common.Status
import Liquifier.Gateway.Auth

/-!
Withdrawals of an administrator.

The handler checks the administrator and the code, reads the session, the wallet and the
balance, and only then signs. Its errors are texts, and no step before the signature
changes anything.
-/

namespace Liquifier.Gateway

/-- `AdminWithdrawBody`. -/
structure WithdrawBody where
  destinationWallet : String
  amount : Option String
  totpCode : String

/-- What `admin_withdraw_session` is answered. -/
structure WithdrawAnswers where
  now : ℕ
  /-- The second factor of the administrator: whether it is on, and its secret. -/
  totp : Option (Bool × List UInt8)
  /-- `TOTP::new` takes the secret. -/
  totpInit : Bool
  /-- The session service is there. -/
  connects : Bool
  session : Option SessionInfo
  walletAddress : Option String
  parsesUrl : Bool
  /-- What the wallet holds of the target token. -/
  balance : Option ℕ

section Handler

variable (cfg : Settings) (lib : Crates) (user : AuthUser) (body : WithdrawBody)
  (ans : WithdrawAnswers)

/-- The amount of a withdrawal: the one of the request, or all. -/
def withdrawalAmount (onChainBalance : ℕ) : Option String → Except (StatusCode × String) ℕ
  | some amtStr => do
      let amt ← okOr (.badRequest, "Invalid amount") (U256.fromStrRadix amtStr 10)
      ensure (amt ≠ 0) (.badRequest, "Amount must be non-zero")
      ensure (amt ≤ onChainBalance) (.unprocessableEntity, "Amount exceeds on-chain balance")
      return amt
  | none => return onChainBalance

/-- `admin_withdraw_session` up to the reading of the nonce. -/
def adminWithdrawSession : Except (StatusCode × String) Chain.Call := do
  ensure (user.role = "admin") (.forbidden, "Admin access required")
  let (totpEnabled, totpSecret) ← okOr (.internalServerError, "DB error") ans.totp
  ensure totpEnabled (.forbidden, "TOTP not configured for this admin")
  ensure ans.totpInit (.internalServerError, "TOTP init error")
  let valid ← okOr (.internalServerError, "TOTP check error")
    (lib.totpCheck totpSecret ans.now body.totpCode)
  ensure valid (.unauthorized, "Invalid TOTP code")
  let destAddr ← okOr (.badRequest, "Invalid destination wallet address")
    (Address.parse body.destinationWallet)
  ensure ans.connects (.serviceUnavailable, "Session service unavailable")
  let session ← okOr (.notFound, "Session not found") ans.session
  let chainCfg ← okOr (.badRequest, "Unknown chain") (cfg.chain session.chain)
  let walletAddress ← okOr (.internalServerError, "Wallet not found") ans.walletAddress
  let walletAddr ← okOr (.internalServerError, "Invalid wallet address in DB")
    (Address.parse walletAddress)
  ensure ans.parsesUrl (.internalServerError, "Invalid RPC URL")
  let tokenAddress ← okOr (.internalServerError, "Invalid target token address")
    (Address.parse session.targetToken)
  let onChainBalance ← okOr (.internalServerError, "Failed to fetch token balance") ans.balance
  ensure (onChainBalance ≠ 0) (.unprocessableEntity, "No token balance in session wallet")
  let amount ← withdrawalAmount onChainBalance body.amount
  return .adminWithdrawSession chainCfg.chainId walletAddr tokenAddress destAddr amount

/-- The withdrawal is one of the session's target token to the address that an
administrator names, with a right code, and of no more than the wallet holds. -/
structure Withdrawn (call : Chain.Call) : Prop where
  admin : user.role = "admin"
  code : ∃ totpSecret, ans.totp = some (true, totpSecret) ∧
    lib.totpCheck totpSecret ans.now body.totpCode = some true
  transfer : ∃ session chainId walletAddr tokenAddress destAddr balance amount,
    ans.session = some session ∧ Address.parse session.targetToken = some tokenAddress ∧
    Address.parse body.destinationWallet = some destAddr ∧
    ans.walletAddress.bind Address.parse = some walletAddr ∧
    ans.balance = some balance ∧ 0 < amount ∧ amount ≤ balance ∧
    call = .adminWithdrawSession chainId walletAddr tokenAddress destAddr amount

end Handler

variable {cfg : Settings} {lib : Crates} {user : AuthUser} {body : WithdrawBody}
  {ans : WithdrawAnswers}

theorem withdrawalAmount_eq_ok {onChainBalance amount : ℕ} {requested : Option String}
    (hpos : onChainBalance ≠ 0) (h : withdrawalAmount onChainBalance requested = .ok amount) :
    0 < amount ∧ amount ≤ onChainBalance := by
  cases requested with
  | none =>
      obtain rfl := Except.ok.inj h
      exact ⟨Nat.pos_of_ne_zero hpos, le_rfl⟩
  | some amtStr =>
      simp only [withdrawalAmount, bind_eq_ok, okOr_eq_ok, ensure_eq_ok, decide_eq_true_eq] at h
      obtain ⟨amt, -, -, hne, -, hle, heq⟩ := h
      obtain rfl := Except.ok.inj heq
      exact ⟨Nat.pos_of_ne_zero hne, hle⟩

theorem adminWithdrawSession_withdrawn {call : Chain.Call}
    (h : adminWithdrawSession cfg lib user body ans = .ok call) :
    Withdrawn lib user body ans call := by
  simp only [adminWithdrawSession, bind_eq_ok, okOr_eq_ok, ensure_eq_ok, decide_eq_true_eq,
    Prod.exists] at h
  obtain ⟨-, hadmin, totpEnabled, totpSecret, htotp, -, henabled, -, -, valid, hcode, -, hvalid,
    destAddr, hdest, -, -, session, hsession, chainCfg, -, walletAddress, hwallet, walletAddr,
    haddr, -, -, tokenAddress, htoken, balance, hbalance, -, hpos, amount, hamount, heq⟩ := h
  obtain rfl := Except.ok.inj heq
  obtain ⟨hamountpos, hle⟩ := withdrawalAmount_eq_ok hpos hamount
  subst henabled hvalid
  refine ⟨hadmin, ⟨totpSecret, htotp, hcode⟩, session, chainCfg.chainId, walletAddr, tokenAddress,
    destAddr, balance, amount, hsession, htoken, hdest, ?_, hbalance, hamountpos, hle, rfl⟩
  rw [hwallet]
  exact haddr

end Liquifier.Gateway
