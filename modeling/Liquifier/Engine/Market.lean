import Liquifier.Engine.Volume
import Liquifier.Indexer.Swaps
import Liquifier.Lib.Product

/-!
From the logs of a chain to what is sold on it.

The indexer of a chain and the engine run side by side, and of that chain the engine is
handed nothing but what the indexer has published. A block may be processed again and an
event delivered again; each log still pays for one trade of a session at most, with the
session's percentage of what left the pool.
-/

namespace Liquifier

open TaskSystem TaskSystem.System

/-! ### Amounts as texts -/

theorem U256.digits_of_isDigit {cs : List Char} (h : ∀ c ∈ cs, c.isDigit = true) :
    digits 10 cs = some (cs.map fun c => c.toNat - '0'.toNat) := by
  induction cs with
  | nil => rfl
  | cons c cs ih =>
      have hc := h c List.mem_cons_self
      have hrange : '0' ≤ c ∧ c ≤ '9' := by simpa [Char.isDigit, Char.le_def] using hc
      have hne : c ≠ '_' := by
        rintro rfl
        cases hc
      have hle : c.toNat ≤ 57 := UInt32.le_iff_toNat_le.mp hrange.2
      have hlt : c.toNat - '0'.toNat < 10 := show c.toNat - 48 < 10 by omega
      rw [digits, if_neg hne, digitValue, if_pos hrange]
      simp only [if_pos hlt, ih fun d hd => h d (List.mem_cons_of_mem _ hd), Option.map_some,
        List.map_cons]

theorem U256.fromStrRadix_toString {n : ℕ} (h : n < modulus) :
    fromStrRadix (toString n) 10 = some n := by
  have htext : (toString n).toList = Nat.toDigits 10 n := Nat.toList_repr
  have hdigits : ∀ c ∈ Nat.toDigits 10 n, c.isDigit = true := fun c hc =>
    Nat.isDigit_of_mem_toDigits (by decide) (by decide) hc
  have hvalue : ((Nat.toDigits 10 n).map fun c => c.toNat - '0'.toNat).foldl
      (fun acc d => acc * 10 + d) 0 = n := by
    rw [List.foldl_map]
    simp only [Nat.mul_comm _ 10]
    rw [← Nat.ofDigitChars_eq_foldl, Nat.ofDigitChars_ten_toDigits]
  rw [fromStrRadix, htext, digits_of_isDigit hdigits, Option.bind_some, hvalue]
  exact if_pos h

namespace Engine

open Indexer

/-! ### The chain and the engine -/

def market (chain : String) (contracts : Contracts) (env : Environment) :
    System (Index × World) (LogTask ⊕ Task) (LogAct ⊕ Act) :=
  (indexer chain contracts).product (engine env)

abbrev Market := Config (Index × World) (LogTask ⊕ Task)

/-- Nothing is indexed, and the engine has just started. -/
def opening (db : Database) : Market := ⟨(⟨[], []⟩, boot db), []⟩

/-- A delivery of an event of the chain is of an event in its stream. -/
def Streamed (chain : String) (c : Market) : Move (LogTask ⊕ Task) (LogAct ⊕ Act) → Prop
  | .spawn (.inr t) => ∀ e ∈ t.event, e.chain = chain → e ∈ c.store.1.published
  | _ => True

instance (chain : String) (c : Market) (m : Move (LogTask ⊕ Task) (LogAct ⊕ Act)) :
    Decidable (Streamed chain c m) :=
  match m with
  | .spawn (.inr t) =>
      inferInstanceAs (Decidable (∀ e ∈ t.event, e.chain = chain → e ∈ c.store.1.published))
  | .spawn (.inl _) | .act _ _ => isTrue trivial

variable {chain : String} {contracts : Contracts} {env : Environment} {db : Database} {c : Market}

theorem delivered_of_next {c c' : Config World Task} {m : Move Task Act}
    (h : (engine env).next c m = some c') {e : DexSwapEvent} (he : e ∈ delivered c') :
    e ∈ delivered c ∨ ∃ t, m = .spawn t ∧ t.event = some e := by
  obtain ⟨u, hu, hevent⟩ := mem_delivered.mp he
  rcases next_cases h with ⟨t, rfl, -, rfl⟩ | ⟨i, a, t, w', t', rfl, hacts, rfl⟩
  · rcases List.mem_append.mp hu with hu | hu
    · exact .inl (mem_delivered.mpr ⟨u, hu, hevent⟩)
    · obtain rfl := List.mem_singleton.mp hu
      exact .inr ⟨u, rfl, hevent⟩
  · refine .inl (mem_delivered.mpr ?_)
    rcases List.mem_or_eq_of_mem_set hu with hu | rfl
    · exact ⟨u, hu, hevent⟩
    · exact ⟨t, hacts.mem, (engine_move hacts).event_eq.symm.trans hevent⟩

/-- What the engine has been handed of the chain is in the stream. -/
theorem published_of_delivered
    (h : (market chain contracts env).Run (Streamed chain) (opening db) c) :
    ∀ e ∈ delivered c.right, e.chain = chain → e ∈ c.left.store.published := by
  refine h.invariant (I := fun c : Market =>
    ∀ e ∈ delivered c.right, e.chain = chain → e ∈ c.left.store.published)
    (fun e he => absurd he List.not_mem_nil) ?_
  intro c c' m _ hI hstreamed hn e he hchain
  have hgrows {m : Move LogTask LogAct}
      (hleft : (indexer chain contracts).next c.left m = some c'.left) :
      c.left.store.published ⊆ c'.left.store.published :=
    published_subset_of_run (show (indexer chain contracts).run c.left [m] = some c'.left by
      rw [run, hleft]; rfl)
  rcases product_next_cases hn with
    ⟨hright, ⟨t, -, hleft⟩ | ⟨i, j, a, -, hleft⟩⟩ | ⟨hleft, ⟨t, rfl, hright⟩ | ⟨i, j, a, rfl, hright⟩⟩
  · rw [hright] at he
    exact hgrows hleft (hI e he hchain)
  · rw [hright] at he
    exact hgrows hleft (hI e he hchain)
  · rw [hleft]
    rcases delivered_of_next hright he with he | ⟨u, heq, hevent⟩
    · exact hI e he hchain
    · cases heq
      exact hstreamed e hevent hchain
  · rw [hleft]
    rcases delivered_of_next hright he with he | ⟨u, heq, -⟩
    · exact hI e he hchain
    · cases heq

/-! ### What the logs pay for -/

/-- The trigger of a session's trade for the swap of a log. -/
def logKey (id : Uuid) (log : Log) : TriggerKey :=
  ⟨id, (log.transactionHash.map B256.debug).getD "", log.address.debug,
    asI32 (UInt32.ofNat (log.logIndex.getD 0))⟩

/-- The swap takes the token that the session sells out of one of its pools. -/
def isBuyLog (db : Database) (r : SessionRow) (log : Log) : Bool :=
  decide (IsV2SwapLog log ∨ IsV3SwapLog log) && (db.poolsOf r.id).any fun p =>
    eqIgnoreAsciiCase p.poolAddress log.address.debug &&
      eqIgnoreAsciiCase (if token0In log then p.token1 else p.token0) r.sellToken

/-- The percentage of what each log has taken out of the pools, rounded down. -/
def logShare (env : Environment) (db : Database) (r : SessionRow) (logs : List Log) : ℕ :=
  ∑ log ∈ logs.toFinset with isBuyLog db r log, amountOut log * rowBps env r / 10000

section Swaps

variable {log : Log} {e : DexSwapEvent}

theorem triggerKey_of_swapOf (h : SwapOf chain log e) (id : Uuid) :
    e.triggerKey id = logKey id log := by
  rw [DexSwapEvent.triggerKey, h.txHash, h.pool, h.logIndex, logKey]

theorem buyAmount_of_swapOf (h : SwapOf chain log e) : buyAmount e = amountOut log := by
  rw [buyAmount, h.amount, U256.fromStrRadix_toString (amountOut_lt log), Option.getD_some]

theorem isBuyLog_of_swapOf {r : SessionRow} (h : SwapOf chain log e) (hbuy : isBuy db r e = true) :
    isBuyLog db r log = true := by
  rw [isBuy, Bool.and_eq_true] at hbuy
  rw [isBuyLog, Bool.and_eq_true, decide_eq_true_eq]
  refine ⟨h.isSwap, ?_⟩
  simpa only [resolvedTokenOut, h.pool, h.direction] using hbuy.2

end Swaps

namespace Sample

/-- 1000 units of the sell token leave the pool. -/
def buyLog : Log where
  address := ⟨List.replicate 20 0x33, rfl⟩
  topics := [uniswapV2SwapSig, ⟨List.replicate 32 0x23, rfl⟩,
    ⟨List.replicate 32 0x24, rfl⟩]
  data := encodeWords [0, 5, 1000, 0]
  blockNumber := some 1
  transactionHash := some ⟨List.replicate 32 0xa1, rfl⟩
  logIndex := some 0

def directContracts : Contracts where
  token0 := fun _ => ⟨List.replicate 20 0x11, rfl⟩
  token1 := fun _ => ⟨List.replicate 20 0x22, rfl⟩

def buyEvent : DexSwapEvent :=
  { event (B256.debug ⟨List.replicate 32 0xa1, rfl⟩) with
    dexType := "uniswap_v2"
    amountIn := "5"
    sender := Address.debug ⟨List.replicate 20 0x23, rfl⟩
    recipient := Address.debug ⟨List.replicate 20 0x24, rfl⟩ }

/-- The block is processed twice, the second time over the cached tokens, and each of the
two messages is delivered. -/
def marketMoves : List (Move (LogTask ⊕ Task) (LogAct ⊕ Act)) :=
  [.spawn (.inl ⟨buyLog, 1, .new⟩), .act 0 (.inl (.read true)),
    .act 0 (.inl (.answer (some (directContracts.token0 buyLog.address))
      (some (directContracts.token1 buyLog.address)) true)),
    .spawn (.inl ⟨buyLog, 1, .new⟩), .act 1 (.inl (.read true)),
    .spawn (.inr (.delivery ⟨buyEvent, [], .query⟩)),
    .act 2 (.inr (.query (some [session 1]))), .act 2 (.inr (.plan answers)),
    .act 2 (.inr (.submit (some "0xb1") [.deliver])),
    .spawn (.inr (.delivery ⟨buyEvent, [], .query⟩)),
    .act 2 (.inr (.settle (.statement true))), .act 2 (.inr (.settle (.statement true)))]

end Sample

end Engine

end Liquifier
