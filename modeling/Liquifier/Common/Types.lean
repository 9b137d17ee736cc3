import Liquifier.Common.Address
import Mathlib.Data.Rat.Defs

/-!
The shared vocabulary of the services: the configuration, the event that the
indexer publishes and the messages that describe pools and sessions.

Prices and percentages are exact rationals. `NUMERIC(78, 0)` columns, which the
messages carry as decimal texts, are naturals.
-/

namespace Liquifier

abbrev Uuid := ℕ

inductive PoolType where
  | v2
  | v3
  deriving DecidableEq

/-- Parse pool type string as stored in API/proto payloads. -/
def poolTypeFromStr (value : String) : Option PoolType :=
  let value := toAsciiLowercase (trim value)
  if value = "v2" then some .v2 else if value = "v3" then some .v3 else none

def PoolType.toText : PoolType → String
  | .v2 => "v2"
  | .v3 => "v3"

@[simp] theorem poolTypeFromStr_toText (t : PoolType) : poolTypeFromStr t.toText = some t := by
  cases t <;> decide

/-! ### Configuration -/

structure DexFactoryConfig where
  name : String
  factoryAddress : String
  routerAddress : String
  poolType : PoolType
  feeTiers : List ℕ

structure BaseToken where
  address : String
  symbol : String

structure ChainConfig where
  enabled : Bool
  chainId : ℕ
  rpcUrl : String
  baseTokens : List BaseToken
  dexFactories : List DexFactoryConfig

structure ExecutionSettings where
  maxPriceImpactBps : ℕ
  sellToken : String
  sellTokenSymbol : String
  sellTokenDecimals : ℕ
  targetToken : String
  targetTokenSymbol : String
  targetTokenDecimals : ℕ
  sessionChain : String
  povPercent : ℚ
  sessionMaxPriceImpact : ℚ
  buyTriggerOracleAddress : String

structure Settings where
  chains : List (String × ChainConfig)
  execution : ExecutionSettings

namespace Settings

variable (cfg : Settings)

def chain (name : String) : Option ChainConfig := cfg.chains.lookup name

def enabledChain (name : String) : Option ChainConfig := (cfg.chain name).filter (·.enabled)

def dexFactoriesForChain (chain : String) : List DexFactoryConfig :=
  ((cfg.enabledChain chain).map (·.dexFactories)).getD []

def baseTokensForChain (chain : String) : List String :=
  ((cfg.enabledChain chain).map fun c => c.baseTokens.map (·.address)).getD []

def dexConfigForChain (chain dexName : String) (poolType : PoolType) : Option DexFactoryConfig :=
  (cfg.enabledChain chain).bind fun c =>
    c.dexFactories.find? fun d => eqIgnoreAsciiCase d.name dexName && d.poolType == poolType

/-- Resolve the configured router for a chain/DEX/pool-type triple. -/
def dexRouterForChain (chain dexName : String) (poolType : PoolType) : Option String :=
  (cfg.dexConfigForChain chain dexName poolType).bind fun dex =>
    let router := trim dex.routerAddress
    if router = "" then none else some router

end Settings

/-! ### Native and wrapped native tokens -/

/-- `NATIVE_TOKEN_PLACEHOLDER`. -/
def nativeTokenPlaceholder : String := "0xeeeeeeeeeeeeeeeeeeeeeeeeeeeeeeeeeeeeeeee"

def wrappedNativeSymbols : List String :=
  ["WETH", "WBNB", "WMATIC", "WAVAX", "WFTM", "WONE", "WCELO", "WGLMR", "WKLAY", "WOKT", "WSEI"]

def toAsciiUppercase (s : String) : String := String.ofList (s.toList.map Char.toUpper)

def isNativeTokenPlaceholder (address : String) : Bool :=
  eqIgnoreAsciiCase (trim address) nativeTokenPlaceholder

namespace Settings

variable (cfg : Settings)

/-- Resolve the wrapped-native token address configured for a chain. -/
def wrappedNativeTokenForChain (chain : String) : Option String :=
  (cfg.chain chain).bind fun c =>
    (c.baseTokens.find? fun token =>
      wrappedNativeSymbols.contains (toAsciiUppercase (trim token.symbol))).map (·.address)

/-- Native placeholders become the chain's wrapped-native token. -/
def normalizeTokenForChain (chain tokenAddress : String) : String :=
  let token := trim tokenAddress
  if isNativeTokenPlaceholder token then (cfg.wrappedNativeTokenForChain chain).getD token else token

/-- The wrapped-native token becomes the native placeholder. -/
def displayTokenForChain (chain tokenAddress : String) : String :=
  let token := trim tokenAddress
  match cfg.wrappedNativeTokenForChain chain with
  | some wrapped => if eqIgnoreAsciiCase token wrapped then nativeTokenPlaceholder else token
  | none => token

end Settings

/-! ### Messages -/

/-- Standardized DEX swap event published to NATS. -/
structure DexSwapEvent where
  chain : String
  blockNumber : ℕ
  txHash : String
  logIndex : UInt32
  poolAddress : String
  dexType : String
  tokenIn : String
  tokenOut : String
  amountIn : String
  amountOut : String
  sender : String
  recipient : String
  timestamp : ℕ
  token0IsInput : Bool
  deriving DecidableEq

structure PoolInfo where
  poolAddress : String
  poolType : String
  dexName : String
  token0 : String
  token1 : String
  feeTier : ℕ
  reserve0 : String := ""
  reserve1 : String := ""
  liquidity : String := ""
  balance0 : String := ""
  balance1 : String := ""
  swapPathJson : String
  deriving DecidableEq

inductive SessionStatus where
  | pending
  | active
  | paused
  | completed
  | cancelled
  | error
  deriving DecidableEq

/-- A row of `sessions`. -/
structure SessionRow where
  id : Uuid
  userId : Uuid
  walletId : Uuid
  chain : String
  status : SessionStatus
  sellToken : String
  sellTokenSymbol : String
  sellTokenDecimals : ℕ
  targetToken : String
  targetTokenSymbol : String
  targetTokenDecimals : ℕ
  totalAmount : ℕ
  amountSold : ℕ
  povPercent : ℚ
  maxPriceImpact : ℚ
  minBuyTriggerUsd : ℚ
  minMarketCapUsd : ℚ
  deriving DecidableEq

/-- A session as the session service answers it: the row and its pools. -/
structure SessionInfo extends SessionRow where
  pools : List PoolInfo
  deriving DecidableEq

end Liquifier
