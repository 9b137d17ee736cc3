import Liquifier.Chain.Transactions
import Liquifier.Lib.Arithmetic
import Mathlib.Algebra.Order.Floor.Div
import Mathlib.Tactic.Ring

/-!
Gas for the wallet of a session.

When a session starts, `fund_session_wallet_gas` works out how many swaps the session may
take, what they cost at most, and sends the wallet what it lacks. The estimate is computed
in 256-bit words, so it is written over their operations: the exact run shows that nothing
goes wrong in it, and the run that wraps returns the same.
-/

namespace Liquifier.Gateway

open Arithmetic

structure GasEstimate where
  remaining : ℕ
  minSellPerSwap : ℕ
  numSwaps : ℕ
  totalGasNeeded : ℕ
  deficit : ℕ
  deriving DecidableEq

section Estimate

variable {m : Type → Type} [Monad m] (ops : Ops m)

/-- What a swap sells at least. -/
def minSellPerSwap (totalAmount remaining povBps : ℕ) : m ℕ :=
  if 0 < povBps then do
    let share ← ops.mul totalAmount povBps
    let chunk ← ops.div share 100000
    if chunk = 0 then ops.div remaining 1000 else pure chunk
  else ops.div remaining 1000

/-- Ceiling division. -/
def swapCount (remaining minSell : ℕ) : m ℕ :=
  if minSell = 0 then pure 1000
  else do
    let sum ← ops.add remaining minSell
    let last ← ops.sub sum 1
    ops.div last minSell

/-- `cost_per_swap * num_swaps * (100 + padding_pct) / 100`. -/
def paddedGas (costPerSwap numSwaps paddingPct : ℕ) : m ℕ := do
  let cost ← ops.mul costPerSwap numSwaps
  let padded ← ops.mul cost (100 + paddingPct)
  ops.div padded 100

/-- The estimate of `fund_session_wallet_gas`, and `none` where the session is sold out.
Two differences are `saturating_sub`. -/
def estimateGas (totalAmount amountSold povBps gasPrice paddingPct currentBalance : ℕ) :
    m (Option GasEstimate) := do
  let costPerSwap ← ops.mul 300000 gasPrice
  let remaining := totalAmount - amountSold
  if remaining = 0 then pure none
  else do
    let minSell ← minSellPerSwap ops totalAmount remaining povBps
    let count ← swapCount ops remaining minSell
    let numSwaps := min count 5000
    let totalGasNeeded ← paddedGas ops costPerSwap numSwaps paddingPct
    pure (some {
      remaining
      minSellPerSwap := minSell
      numSwaps
      totalGasNeeded
      deficit := totalGasNeeded - currentBalance })

end Estimate

/-- What the session service, the database and the nodes answer. -/
structure GasAnswers where
  sessionId : String
  session : SessionInfo
  /-- `(session.pov_percent * 100.0) as u64`. -/
  povBps : ℕ
  chainId : ℕ
  walletAddr : Address
  currentBalance : ℕ
  gasPrice : ℕ
  gasWalletAddr : Address
  gasWalletBalance : ℕ

/-- `fund_session_wallet_gas` up to the transfer, if it makes one. -/
def fundSessionWalletGas (paddingPct : ℕ) (ans : GasAnswers) :
    Except Fault (Except String (Option Chain.Call)) := do
  let estimate ← estimateGas (wrapping U256.modulus) (U256.ofNumeric ans.session.totalAmount)
    (U256.ofNumeric ans.session.amountSold) ans.povBps ans.gasPrice paddingPct ans.currentBalance
  match estimate with
  | none => pure (.ok none)
  | some e =>
      if e.deficit = 0 then pure (.ok none)
      else if ans.gasWalletBalance < e.deficit then
        pure (.error ("Gas wallet insufficient: has " ++ toString ans.gasWalletBalance ++
          " but needs " ++ toString e.deficit ++ " (deficit for session " ++ ans.sessionId ++ ")"))
      else
        pure (.ok (some (.fundSessionWalletGas ans.chainId ans.gasWalletAddr ans.walletAddr
          e.deficit ans.gasPrice)))

/-! ### The run that wraps -/

section Agreement

variable {ops ops' : Ops (Except Fault)} (h : ops.Agree ops')
include h

theorem minSellPerSwap_agrees (totalAmount remaining povBps : ℕ) :
    Agrees (minSellPerSwap ops totalAmount remaining povBps)
      (minSellPerSwap ops' totalAmount remaining povBps) := by
  refine Agrees.ite ?_ (h.div _ _)
  refine (h.mul _ _).bind fun share => (h.div _ _).bind fun chunk => ?_
  exact Agrees.ite (h.div _ _) (Agrees.refl _)

theorem swapCount_agrees (remaining minSell : ℕ) :
    Agrees (swapCount ops remaining minSell) (swapCount ops' remaining minSell) := by
  refine Agrees.ite (Agrees.refl _) ?_
  exact (h.add _ _).bind fun sum => (h.sub _ _).bind fun last => h.div _ _

theorem paddedGas_agrees (costPerSwap numSwaps paddingPct : ℕ) :
    Agrees (paddedGas ops costPerSwap numSwaps paddingPct)
      (paddedGas ops' costPerSwap numSwaps paddingPct) :=
  (h.mul _ _).bind fun _ => (h.mul _ _).bind fun _ => h.div _ _

theorem estimateGas_agrees (totalAmount amountSold povBps gasPrice paddingPct currentBalance : ℕ) :
    Agrees
      (estimateGas ops totalAmount amountSold povBps gasPrice paddingPct currentBalance)
      (estimateGas ops' totalAmount amountSold povBps gasPrice paddingPct currentBalance) := by
  refine (h.mul _ _).bind fun costPerSwap => Agrees.ite (Agrees.refl _) ?_
  refine (minSellPerSwap_agrees h _ _ _).bind fun minSell => ?_
  refine (swapCount_agrees h _ _).bind fun count => ?_
  exact (paddedGas_agrees h _ _ _).bind fun totalGasNeeded => Agrees.refl _

end Agreement

/-! ### The exact run -/

section Exact

variable {size totalAmount remaining povBps minSell costPerSwap numSwaps paddingPct : ℕ}

/-- No swap is taken to sell more than the session has in all. -/
theorem minSellPerSwap_exact (hpov : povBps < 100000) (hshare : totalAmount * povBps < size)
    (hremaining : remaining ≤ totalAmount) :
    ∃ minSell ≤ totalAmount,
      minSellPerSwap (exact size) totalAmount remaining povBps = .ok minSell := by
  have hpart : remaining / 1000 ≤ totalAmount := (Nat.div_le_self _ _).trans hremaining
  have hrest : (exact size).div remaining 1000 = .ok (remaining / 1000) := exact_div (by decide)
  have hchunk : totalAmount * povBps / 100000 ≤ totalAmount :=
    Nat.div_le_of_le_mul (by
      rw [Nat.mul_comm 100000]
      exact Nat.mul_le_mul_left _ hpov.le)
  rw [minSellPerSwap, exact_mul hshare]
  split
  · rw [ok_bind, exact_div (by decide), ok_bind]
    split
    · exact ⟨remaining / 1000, hpart, hrest⟩
    · exact ⟨totalAmount * povBps / 100000, hchunk, rfl⟩
  · exact ⟨remaining / 1000, hpart, hrest⟩

/-- There is a swap, and with that many of them everything is sold. -/
theorem swapCount_exact (hpos : 0 < remaining) (hsum : remaining + minSell < size) :
    ∃ count, swapCount (exact size) remaining minSell = .ok count ∧ 1 ≤ count ∧
      (0 < minSell → remaining ≤ count * minSell) := by
  rw [swapCount]
  by_cases hzero : minSell = 0
  · exact ⟨1000, if_pos hzero, by decide, fun hmin => absurd hzero hmin.ne'⟩
  · have hmin : 0 < minSell := Nat.pos_of_ne_zero hzero
    have hsold : remaining ≤ (remaining ⌈/⌉ minSell) * minSell := by
      rw [Nat.mul_comm]
      exact le_smul_ceilDiv hmin
    refine ⟨remaining ⌈/⌉ minSell, ?_, ?_, fun _ => hsold⟩
    · rw [if_neg hzero, exact_add hsum, ok_bind, exact_sub (by omega) (by omega), ok_bind,
        exact_div hzero, Nat.ceilDiv_eq_add_pred_div]
    · by_contra hnone
      rw [Nat.lt_one_iff.mp (not_le.mp hnone), Nat.zero_mul] at hsold
      exact absurd hpos (not_lt.mpr hsold)

theorem paddedGas_exact (h : costPerSwap * numSwaps * (100 + paddingPct) < size) :
    paddedGas (exact size) costPerSwap numSwaps paddingPct =
      .ok (costPerSwap * numSwaps * (100 + paddingPct) / 100) := by
  have hcost : costPerSwap * numSwaps < size :=
    (Nat.le_mul_of_pos_right _ (by omega)).trans_lt h
  rw [paddedGas, exact_mul hcost, ok_bind, exact_mul h, ok_bind, exact_div (by decide)]

end Exact

/-- The largest estimate that the ranges of its factors allow is a word. -/
theorem paddedGas_lt {gasPrice numSwaps paddingPct : ℕ} (hprice : gasPrice < 2 ^ 128)
    (hswaps : numSwaps ≤ 5000) (hpadding : paddingPct < 2 ^ 32) :
    300000 * gasPrice * numSwaps * (100 + paddingPct) < U256.modulus := by
  calc 300000 * gasPrice * numSwaps * (100 + paddingPct)
      ≤ 300000 * 2 ^ 128 * 5000 * (100 + 2 ^ 32) := by gcongr
    _ < U256.modulus := by decide

section Funding

variable {paddingPct : ℕ} {ans : GasAnswers}

theorem estimateGas_exact {totalAmount amountSold povBps gasPrice : ℕ} (currentBalance : ℕ)
    (htotal : totalAmount < 2 ^ 128) (hsold : amountSold < totalAmount) (hpov : povBps < 100000)
    (hprice : gasPrice < 2 ^ 128) (hpadding : paddingPct < 2 ^ 32) :
    ∃ e, estimateGas (exact U256.modulus) totalAmount amountSold povBps gasPrice paddingPct
        currentBalance = .ok (some e) ∧
      e.remaining = totalAmount - amountSold ∧ 1 ≤ e.numSwaps ∧ e.numSwaps ≤ 5000 ∧
      (0 < e.minSellPerSwap → e.numSwaps < 5000 →
        e.remaining ≤ e.numSwaps * e.minSellPerSwap) ∧
      e.totalGasNeeded * 100 = 300000 * gasPrice * e.numSwaps * (100 + paddingPct) ∧
      e.deficit = e.totalGasNeeded - currentBalance := by
  have hword : (2 : ℕ) ^ 128 * 300000 < U256.modulus := by decide
  have hcost : 300000 * gasPrice < U256.modulus := by omega
  have hshare : totalAmount * povBps < U256.modulus := by
    calc totalAmount * povBps ≤ 2 ^ 128 * 100000 := Nat.mul_le_mul htotal.le hpov.le
      _ < U256.modulus := by decide
  obtain ⟨minSell, hle, hmin⟩ := minSellPerSwap_exact hpov hshare (Nat.sub_le _ amountSold)
  have hsum : totalAmount - amountSold + minSell < U256.modulus := by omega
  obtain ⟨count, hcount, hone, hall⟩ := swapCount_exact (by omega) hsum
  have hgas := paddedGas_lt hprice (min_le_right count 5000) hpadding
  have hall' : 0 < minSell → min count 5000 < 5000 →
      totalAmount - amountSold ≤ min count 5000 * minSell := by
    intro hpos hlt
    have huncapped : min count 5000 = count := min_eq_left (by omega)
    rw [huncapped]
    exact hall hpos
  have hexact : 300000 * gasPrice * min count 5000 * (100 + paddingPct) / 100 * 100 =
      300000 * gasPrice * min count 5000 * (100 + paddingPct) :=
    Nat.div_mul_cancel
      (Dvd.intro (3000 * gasPrice * min count 5000 * (100 + paddingPct)) (by ring))
  refine ⟨⟨totalAmount - amountSold, minSell, min count 5000,
    300000 * gasPrice * min count 5000 * (100 + paddingPct) / 100,
    300000 * gasPrice * min count 5000 * (100 + paddingPct) / 100 - currentBalance⟩,
    ?_, rfl, le_min hone (by decide), min_le_right _ _, hall', hexact, rfl⟩
  rw [estimateGas, exact_mul hcost, ok_bind]
  simp only [if_neg (show totalAmount - amountSold ≠ 0 by omega), hmin, hcount,
    paddedGas_exact hgas, ok_bind]
  rfl

/-- Nothing goes wrong in the estimate: the exact run returns one, and the run that wraps
the same. It counts a swap at least and enough of them for what is left, as far as the cap
allows, and with the transfer the wallet has what they cost. -/
theorem fundSessionWalletGas_spec (htotal : ans.session.totalAmount < 2 ^ 128)
    (hsold : ans.session.amountSold < ans.session.totalAmount) (hpov : ans.povBps < 100000)
    (hprice : ans.gasPrice < 2 ^ 128) (hpadding : paddingPct < 2 ^ 32) :
    ∃ e, estimateGas (exact U256.modulus) ans.session.totalAmount ans.session.amountSold
          ans.povBps ans.gasPrice paddingPct ans.currentBalance = .ok (some e) ∧
      estimateGas (wrapping U256.modulus) ans.session.totalAmount ans.session.amountSold
          ans.povBps ans.gasPrice paddingPct ans.currentBalance = .ok (some e) ∧
      e.remaining = ans.session.totalAmount - ans.session.amountSold ∧
      1 ≤ e.numSwaps ∧ e.numSwaps ≤ 5000 ∧
      (0 < e.minSellPerSwap → e.numSwaps < 5000 →
        e.remaining ≤ e.numSwaps * e.minSellPerSwap) ∧
      e.totalGasNeeded * 100 = 300000 * ans.gasPrice * e.numSwaps * (100 + paddingPct) ∧
      e.totalGasNeeded ≤ ans.currentBalance + e.deficit ∧
      fundSessionWalletGas paddingPct ans =
        if e.deficit = 0 then .ok (.ok none)
        else if ans.gasWalletBalance < e.deficit then
          .ok (.error ("Gas wallet insufficient: has " ++ toString ans.gasWalletBalance ++
            " but needs " ++ toString e.deficit ++ " (deficit for session " ++ ans.sessionId ++
            ")"))
        else .ok (.ok (some (.fundSessionWalletGas ans.chainId ans.gasWalletAddr ans.walletAddr
          e.deficit ans.gasPrice))) := by
  obtain ⟨e, hexact, hremaining, hone, hcap, hall, hgas, hdeficit⟩ :=
    estimateGas_exact ans.currentBalance htotal hsold hpov hprice hpadding
  have hwraps := estimateGas_agrees (exact_agree_wrapping U256.modulus) ans.session.totalAmount
    ans.session.amountSold ans.povBps ans.gasPrice paddingPct ans.currentBalance (some e) hexact
  refine ⟨e, hexact, hwraps, hremaining, hone, hcap, hall, hgas, by omega, ?_⟩
  have hword : (2 : ℕ) ^ 128 < U256.modulus := by decide
  rw [fundSessionWalletGas, U256.ofNumeric_of_lt (htotal.trans hword),
    U256.ofNumeric_of_lt (hsold.trans (htotal.trans hword)), hwraps, ok_bind]
  dsimp only
  split
  · rfl
  · split
    · rfl
    · rfl

end Funding

namespace Sample

/-- Half of every buy is sold, and a swap costs a little. -/
def gasAnswers : GasAnswers where
  sessionId := "1"
  session := Engine.Sample.session 1
  povBps := 5000
  chainId := 56
  walletAddr := Address.zero
  currentBalance := 100
  gasPrice := 3
  gasWalletAddr := Address.zero
  gasWalletBalance := 10 ^ 9

end Sample

theorem fundSessionWalletGas_session :
    ∃ e, estimateGas (exact U256.modulus) 800 0 5000 3 20 100 = .ok (some e) ∧
      e.remaining = 800 ∧ e.totalGasNeeded ≤ 100 + e.deficit := by
  obtain ⟨e, hexact, -, hremaining, -, -, -, -, hfunded, -⟩ :=
    @fundSessionWalletGas_spec 20 Sample.gasAnswers (by decide) (by decide) (by decide) (by decide)
      (by decide)
  exact ⟨e, hexact, hremaining, hfunded⟩

end Liquifier.Gateway
