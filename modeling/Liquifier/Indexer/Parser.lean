import Liquifier.Common.Types
import Liquifier.Common.U256

/-!
From an EVM log to a swap event.

The two kinds of swap log carry their amounts as 32-byte words. A V2 log has the
input and the output of each token; a V3 log has one signed amount for each, which
is negative where the token leaves the pool. The tokens themselves are not in the
log, so the parser leaves them empty.
-/

namespace Liquifier.Indexer

/-- `alloy::primitives::B256`. -/
structure B256 where
  bytes : List UInt8
  size : bytes.length = 32
  deriving DecidableEq

namespace B256

/-- `format!("{word:?}")`. -/
def debug (word : B256) : String := String.ofList ('0' :: 'x' :: encodeHex word.bytes)

/-- `s.parse::<B256>().ok()`. -/
def parse (s : String) : Option B256 :=
  (decodeHex (Address.stripPrefix s.toList)).bind fun bytes =>
    if h : bytes.length = 32 then some ⟨bytes, h⟩ else none

@[simp] theorem parse_debug (word : B256) : parse word.debug = some word := by
  simp [parse, debug, Address.stripPrefix, decodeHex_encodeHex, word.size]

end B256

/-- `Address::from_word`: the last twenty bytes. -/
def addressFromWord (word : B256) : Address := ⟨word.bytes.drop 12, by simp [word.size]⟩

structure Log where
  address : Address
  topics : List B256
  data : List UInt8
  blockNumber : Option ℕ
  transactionHash : Option B256
  logIndex : Option ℕ
  deriving DecidableEq

/-- Swap(address sender, uint256 amount0In, uint256 amount1In, uint256 amount0Out,
uint256 amount1Out, address to). -/
def uniswapV2SwapSig : B256 where
  bytes := (decodeHex
    "d78ad95fa46c994b6551d0da85fc275fe613ce37657fb8d5e3d130840159d822".toList).getD []
  size := by decide

/-- Swap(address sender, address recipient, int256 amount0, int256 amount1, uint160
sqrtPriceX96, uint128 liquidity, int24 tick). -/
def uniswapV3SwapSig : B256 where
  bytes := (decodeHex
    "c42079f94a6350d7e6235f29174924f928cc2ac818eb64fed8004e115fbcca67".toList).getD []
  size := by decide

/-- `U256::from_be_slice(&data[32 * i..32 * i + 32])`. -/
def dataWord (data : List UInt8) (i : ℕ) : ℕ :=
  ((data.drop (32 * i)).take 32).foldl (fun acc b => 256 * acc + b.toNat) 0

/-- The sign bit of an `int256`. -/
def isNegative (word : ℕ) : Bool := word.testBit 255

/-- `(!word).wrapping_add(1)`. -/
def twosComplement (word : ℕ) : ℕ := U256.wrappingAdd (U256.max - word) 1

/-- A V2 swap takes token 0 in where `amount0In` is not zero. -/
def v2Token0IsInput (data : List UInt8) : Bool := dataWord data 0 != 0

/-- A V3 swap takes token 0 in where `amount0` is not negative. -/
def v3Token0IsInput (data : List UInt8) : Bool := !isNegative (dataWord data 0)

section Parse

variable (chain : String) (log : Log) (txHash : String) (blockNumber : ℕ) (logIndex : UInt32)
  (poolAddress : String)

def parseV2Swap : Option DexSwapEvent :=
  match log.topics with
  | _ :: sender :: recipient :: _ =>
      if log.data.length < 128 then none
      else
        let token0IsInput := v2Token0IsInput log.data
        let (amountIn, amountOut) :=
          if token0IsInput then (dataWord log.data 0, dataWord log.data 3)
          else (dataWord log.data 1, dataWord log.data 2)
        some {
          chain, blockNumber, txHash, logIndex, poolAddress
          dexType := "uniswap_v2"
          tokenIn := ""
          tokenOut := ""
          amountIn := toString amountIn
          amountOut := toString amountOut
          sender := (addressFromWord sender).debug
          recipient := (addressFromWord recipient).debug
          timestamp := 0
          token0IsInput }
  | _ => none

def parseV3Swap : Option DexSwapEvent :=
  match log.topics with
  | _ :: sender :: recipient :: _ =>
      if log.data.length < 160 then none
      else
        let amount0 := dataWord log.data 0
        let amount1 := dataWord log.data 1
        let token0IsInput := v3Token0IsInput log.data
        let (amountIn, amountOut) :=
          if token0IsInput then (amount0, if isNegative amount1 then twosComplement amount1 else amount1)
          else (amount1, twosComplement amount0)
        some {
          chain, blockNumber, txHash, logIndex, poolAddress
          dexType := "uniswap_v3"
          tokenIn := ""
          tokenOut := ""
          amountIn := toString amountIn
          amountOut := toString amountOut
          sender := (addressFromWord sender).debug
          recipient := (addressFromWord recipient).debug
          timestamp := 0
          token0IsInput }
  | _ => none

end Parse

/-- Parse a raw EVM log into a standardized event; other logs give nothing. -/
def parseSwapLog (chain : String) (log : Log) : Option DexSwapEvent :=
  match log.topics.head? with
  | none => none
  | some topic0 =>
      let txHash := (log.transactionHash.map B256.debug).getD ""
      let blockNumber := log.blockNumber.getD 0
      let logIndex := UInt32.ofNat (log.logIndex.getD 0)
      let poolAddress := log.address.debug
      if topic0 = uniswapV2SwapSig then
        parseV2Swap chain log txHash blockNumber logIndex poolAddress
      else if topic0 = uniswapV3SwapSig then
        parseV3Swap chain log txHash blockNumber logIndex poolAddress
      else none

/-! ### What an event says of its log -/

/-- The event has the pool of the log, and its flag is the direction that the
amounts of the log say for its kind. -/
structure Describes (log : Log) (event : DexSwapEvent) : Prop where
  pool : event.poolAddress = log.address.debug
  direction :
    (event.dexType = "uniswap_v2" ∧ 128 ≤ log.data.length ∧
      event.token0IsInput = v2Token0IsInput log.data) ∨
    (event.dexType = "uniswap_v3" ∧ 160 ≤ log.data.length ∧
      event.token0IsInput = v3Token0IsInput log.data)

variable {chain : String} {log : Log} {event : DexSwapEvent}

theorem parseV2Swap_describes {txHash : String} {blockNumber : ℕ} {logIndex : UInt32}
    (h : parseV2Swap chain log txHash blockNumber logIndex log.address.debug = some event) :
    Describes log event := by
  unfold parseV2Swap at h
  split at h
  · obtain ⟨hlen, h⟩ := Option.ite_none_left_eq_some.mp h
    cases h
    exact ⟨rfl, .inl ⟨rfl, Nat.le_of_not_lt hlen, rfl⟩⟩
  · cases h

theorem parseV3Swap_describes {txHash : String} {blockNumber : ℕ} {logIndex : UInt32}
    (h : parseV3Swap chain log txHash blockNumber logIndex log.address.debug = some event) :
    Describes log event := by
  unfold parseV3Swap at h
  split at h
  · obtain ⟨hlen, h⟩ := Option.ite_none_left_eq_some.mp h
    cases h
    exact ⟨rfl, .inr ⟨rfl, Nat.le_of_not_lt hlen, rfl⟩⟩
  · cases h

theorem parseSwapLog_describes (h : parseSwapLog chain log = some event) :
    Describes log event := by
  unfold parseSwapLog at h
  split at h
  · cases h
  · dsimp only at h
    split at h
    · exact parseV2Swap_describes h
    · split at h
      · exact parseV3Swap_describes h
      · cases h

end Liquifier.Indexer
