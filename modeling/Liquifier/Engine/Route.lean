import Liquifier.Common.Json
import Liquifier.Common.Types
import Liquifier.Common.U256
import Liquifier.Lib.MapM

/-!
The route of a pool: the JSON text stored with it, the token path that a router
receives and the call that the engine sends to it.

`serde_json::from_str` is a parameter. ABI encoding is left out: a call is the
function with its arguments, which is what the encoding determines.
-/

namespace Liquifier.Engine

structure PoolSwapRoute where
  hops : List String
  hopTokens : List String
  feeTiers : List ℕ
  deriving DecidableEq

/-- `Deserialize for PoolSwapRoute`. The derived reader takes an object, or an
array with the fields in their order; `fee_tiers` may be missing. -/
def PoolSwapRoute.ofJson : Json → Option PoolSwapRoute
  | .object fields => do
      let hops ← Json.uniqueField fields "hops"
      let hopTokens ← Json.uniqueField fields "hop_tokens"
      let feeTiers ← Json.uniqueField fields "fee_tiers"
      let hops ← (← hops).asVec Json.asStr
      let hopTokens ← (← hopTokens).asVec Json.asStr
      let feeTiers ← (feeTiers.getD (.array [])).asVec Json.asU32
      some ⟨hops, hopTokens, feeTiers⟩
  | .array [hops, hopTokens] => do
      some ⟨← hops.asVec Json.asStr, ← hopTokens.asVec Json.asStr, []⟩
  | .array [hops, hopTokens, feeTiers] => do
      some ⟨← hops.asVec Json.asStr, ← hopTokens.asVec Json.asStr, ← feeTiers.asVec Json.asU32⟩
  | _ => none

def parsePoolSwapRoute (jsonFromStr : String → Option Json) (raw poolAddress : String) :
    Option PoolSwapRoute :=
  let trimmed := trim raw
  if trimmed = "" then none
  else do
    let route ← (jsonFromStr trimmed).bind PoolSwapRoute.ofJson
    let first ← route.hops.head?
    if !eqIgnoreAsciiCase first poolAddress then none
    else if route.hopTokens.length ≠ route.hops.length + 1 then none
    else some route

/-! ### The path of a route -/

def parseRouteTokenAddresses (route : PoolSwapRoute) : Option (List Address) :=
  route.hopTokens.mapM Address.parse

/-- `wrapped_native_token_for_chain` of the engine: the configured token, as an
address. -/
def wrappedNativeAddressForChain (cfg : Settings) (chain : String) : Option Address :=
  (cfg.wrappedNativeTokenForChain chain).bind Address.parse

/-- The tokens of the route with the native placeholders replaced by the wrapped
token, and whether the first and the last token were placeholders. -/
def resolveRouteTokensForNative (cfg : Settings) (route : PoolSwapRoute) (chain : String) :
    Option (List Address × Bool × Bool) := do
  let path ← parseRouteTokenAddresses route
  let nativeInput := (route.hopTokens.head?.map isNativeTokenPlaceholder).getD false
  let nativeOutput := (route.hopTokens.getLast?.map isNativeTokenPlaceholder).getD false
  if route.hopTokens.any isNativeTokenPlaceholder then
    let wrappedNative ← wrappedNativeAddressForChain cfg chain
    let path := List.zipWith
      (fun token slot => if isNativeTokenPlaceholder token then wrappedNative else slot)
      route.hopTokens path
    some (path, nativeInput, nativeOutput)
  else some (path, nativeInput, nativeOutput)

/-- Without a fee for every hop in the route, the fee tier of the pool stands
for all of them, or 3000 where it is zero. -/
def routeFeeTiers (route : PoolSwapRoute) (defaultFeeTier tokenCount : ℕ) : Option (List ℕ) :=
  if tokenCount < 2 then none
  else
    let expectedFees := tokenCount - 1
    if route.feeTiers.length = expectedFees then some route.feeTiers
    else
      let fee := if defaultFeeTier = 0 then 3000 else defaultFeeTier
      some (List.replicate expectedFees fee)

/-- Three bytes of a fee, big end first. -/
def feeBytes (fee : ℕ) : List UInt8 :=
  [UInt8.ofNat (fee / 2 ^ 16), UInt8.ofNat (fee / 2 ^ 8), UInt8.ofNat fee]

/-- The loop of `encode_uniswap_v3_path` and the last token behind it. -/
def encodeHops : List Address → List ℕ → Option (List UInt8)
  | token :: tokens, fee :: fees =>
      if 0x00FFFFFF < fee then none
      else (encodeHops tokens fees).map fun rest => token.bytes ++ feeBytes fee ++ rest
  | [token], [] => some token.bytes
  | _, _ => none

def encodeUniswapV3Path (tokens : List Address) (feeTiers : List ℕ) : Option (List UInt8) :=
  if tokens.length < 2 then none
  else if feeTiers.length ≠ tokens.length - 1 then none
  else encodeHops tokens feeTiers

/-! ### The call -/

/-- What the engine asks a router to do. -/
inductive RouterCall where
  | swapExactETHForTokensSupportingFeeOnTransferTokens
      (amountOutMin : ℕ) (path : List Address) (recipient : Address) (deadline : ℕ)
  | swapExactTokensForETHSupportingFeeOnTransferTokens
      (amountIn amountOutMin : ℕ) (path : List Address) (recipient : Address) (deadline : ℕ)
  | swapExactTokensForTokensSupportingFeeOnTransferTokens
      (amountIn amountOutMin : ℕ) (path : List Address) (recipient : Address) (deadline : ℕ)
  | exactInput (path : List UInt8) (recipient : Address) (deadline amountIn amountOutMinimum : ℕ)
  deriving DecidableEq

/-- `base_amount * (10000 - slippage_bps) / 10000`, where the product wraps. -/
def amountOutMinimum (baseAmount slippageBps : ℕ) : ℕ :=
  U256.wrappingMul baseAmount (10000 - slippageBps) / 10000

/-- Build swap calldata for a router swap target with slippage protection; `now`
is the clock in seconds. -/
def buildSwapCalldata (cfg : Settings) (amount expectedOutput : ℕ) (route : PoolSwapRoute)
    (poolType : PoolType) (defaultFeeTier : ℕ) (recipient : Address) (chain : String)
    (slippageBps now : ℕ) : Option RouterCall := do
  let (path, nativeInput, nativeOutput) ← resolveRouteTokensForNative cfg route chain
  let deadline := min (now + 300) (2 ^ 64 - 1)
  let baseAmount := if expectedOutput = 0 then amount else expectedOutput
  if 10000 ≤ slippageBps then none
  else
    let amountOutMin := amountOutMinimum baseAmount slippageBps
    if amountOutMin = 0 then none
    else
      match poolType with
      | .v2 =>
          if nativeInput then
            some (.swapExactETHForTokensSupportingFeeOnTransferTokens amountOutMin path recipient
              deadline)
          else if nativeOutput then
            some (.swapExactTokensForETHSupportingFeeOnTransferTokens amount amountOutMin path
              recipient deadline)
          else
            some (.swapExactTokensForTokensSupportingFeeOnTransferTokens amount amountOutMin path
              recipient deadline)
      | .v3 => do
          let feeTiers ← routeFeeTiers route defaultFeeTier path.length
          let encodedPath ← encodeUniswapV3Path path feeTiers
          some (.exactInput encodedPath recipient deadline amount amountOutMin)

/-! ### What a path names -/

/-- The route of a JSON value, in which every key has one value. -/
def PoolSwapRoute.ofValue (value : Json) : Option PoolSwapRoute := do
  let hops ← (value.get "hops").bind (Json.asVec Json.asStr)
  let hopTokens ← (value.get "hop_tokens").bind (Json.asVec Json.asStr)
  let feeTiers ← ((value.get "fee_tiers").getD (.array [])).asVec Json.asU32
  some ⟨hops, hopTokens, feeTiers⟩

theorem parsePoolSwapRoute_reads {jsonFromStr : String → Option Json} {raw poolAddress : String}
    {route : PoolSwapRoute} (h : parsePoolSwapRoute jsonFromStr raw poolAddress = some route) :
    (jsonFromStr (trim raw)).bind PoolSwapRoute.ofJson = some route := by
  simp only [parsePoolSwapRoute, Option.bind_eq_bind, Option.ite_none_left_eq_some] at h
  obtain ⟨_, h⟩ := h
  obtain ⟨route', hroute, h⟩ := Option.bind_eq_some_iff.mp h
  obtain ⟨first, _, h⟩ := Option.bind_eq_some_iff.mp h
  simp only [Option.ite_none_left_eq_some, Option.some.injEq] at h
  obtain ⟨_, _, rfl⟩ := h
  exact hroute

/-- A route begins with the pool that it is given for. -/
theorem parsePoolSwapRoute_head {jsonFromStr : String → Option Json} {raw poolAddress : String}
    {route : PoolSwapRoute} (h : parsePoolSwapRoute jsonFromStr raw poolAddress = some route) :
    ∃ first, route.hops.head? = some first ∧ eqIgnoreAsciiCase first poolAddress = true := by
  simp only [parsePoolSwapRoute, Option.bind_eq_bind, Option.ite_none_left_eq_some] at h
  obtain ⟨_, h⟩ := h
  obtain ⟨route', _, h⟩ := Option.bind_eq_some_iff.mp h
  obtain ⟨first, hfirst, h⟩ := Option.bind_eq_some_iff.mp h
  simp only [Option.ite_none_left_eq_some, Option.some.injEq, Bool.not_eq_true,
    Bool.not_eq_false'] at h
  obtain ⟨hpool, _, rfl⟩ := h
  exact ⟨first, hfirst, hpool⟩

/-- The address that stands in the path for a token of the route. -/
def resolveToken (cfg : Settings) (chain token : String) : Option Address :=
  if isNativeTokenPlaceholder token then wrappedNativeAddressForChain cfg chain
  else Address.parse token

theorem map_zipWith_placeholder {tokens : List String} {path : List Address} {wrapped : Address}
    (h : tokens.mapM Address.parse = some path) :
    (List.zipWith (fun token slot => if isNativeTokenPlaceholder token then wrapped else slot)
      tokens path).map some =
        tokens.map fun token =>
          if isNativeTokenPlaceholder token then some wrapped else Address.parse token := by
  have hslot : ∀ token slot, some (if isNativeTokenPlaceholder token then wrapped else slot) =
      if isNativeTokenPlaceholder token then some wrapped else some slot :=
    fun _ _ => apply_ite ..
  calc (List.zipWith (fun token slot => if isNativeTokenPlaceholder token then wrapped else slot)
        tokens path).map some
      = List.zipWith (fun token slot =>
          if isNativeTokenPlaceholder token then some wrapped else slot) tokens (path.map some) := by
        simp only [List.map_zipWith, List.zipWith_map_right, hslot]
    _ = _ := by rw [← MapM.mapM_eq_some_iff.mp h, List.zipWith_map_right, List.zipWith_self]

/-- A resolved path stands token by token for the route. -/
theorem map_resolved {cfg : Settings} {route : PoolSwapRoute} {chain : String}
    {path : List Address} {nativeInput nativeOutput : Bool}
    (h : resolveRouteTokensForNative cfg route chain = some (path, nativeInput, nativeOutput)) :
    path.map some = route.hopTokens.map (resolveToken cfg chain) ∧
      nativeInput = (route.hopTokens.head?.map isNativeTokenPlaceholder).getD false ∧
      nativeOutput = (route.hopTokens.getLast?.map isNativeTokenPlaceholder).getD false := by
  simp only [resolveRouteTokensForNative, parseRouteTokenAddresses, Option.bind_eq_bind,
    Option.bind_eq_some_iff] at h
  obtain ⟨parsed, hparsed, h⟩ := h
  split at h
  · obtain ⟨wrapped, hwrapped, h⟩ := Option.bind_eq_some_iff.mp h
    cases h
    refine ⟨?_, rfl, rfl⟩
    rw [map_zipWith_placeholder hparsed]
    refine List.map_congr_left fun token _ => ?_
    rw [resolveToken, hwrapped]
  · rename_i hnone
    cases h
    refine ⟨?_, rfl, rfl⟩
    rw [← MapM.mapM_eq_some_iff.mp hparsed]
    refine List.map_congr_left fun token htoken => ?_
    have hplain : isNativeTokenPlaceholder token = false := by
      rw [Bool.eq_false_iff]
      exact fun hplaceholder => hnone (List.any_eq_true.mpr ⟨token, htoken, hplaceholder⟩)
    simp [resolveToken, hplain]

/-- An encoded path begins with its first token and ends with its last. -/
theorem encodeHops_ends {tokens : List Address} {fees : List ℕ} {bytes : List UInt8}
    (h : encodeHops tokens fees = some bytes) :
    (∀ a, tokens.head? = some a → a.bytes <+: bytes) ∧
      ∀ a, tokens.getLast? = some a → a.bytes <:+ bytes := by
  induction tokens generalizing fees bytes with
  | nil => cases fees <;> cases h
  | cons token tokens ih =>
      cases fees with
      | nil =>
          cases tokens with
          | nil =>
              cases h
              exact ⟨fun a ha => by cases ha; exact List.prefix_refl _,
                fun a ha => by cases ha; exact List.suffix_refl _⟩
          | cons _ _ => cases h
      | cons fee fees =>
          simp only [encodeHops, Option.ite_none_left_eq_some, Option.map_eq_some_iff] at h
          obtain ⟨_, rest, hrest, rfl⟩ := h
          refine ⟨fun a ha => ?_, fun a ha => ?_⟩
          · cases ha
            rw [List.append_assoc]
            exact List.prefix_append _ _
          · cases tokens with
            | nil => cases fees <;> cases hrest
            | cons t ts =>
                rw [List.getLast?_cons_cons] at ha
                exact ((ih hrest).2 a ha).trans (List.suffix_append _ _)

theorem encodeUniswapV3Path_ends {tokens : List Address} {fees : List ℕ} {bytes : List UInt8}
    (h : encodeUniswapV3Path tokens fees = some bytes) :
    (∀ a, tokens.head? = some a → a.bytes <+: bytes) ∧
      ∀ a, tokens.getLast? = some a → a.bytes <:+ bytes := by
  simp only [encodeUniswapV3Path, Option.ite_none_left_eq_some] at h
  exact encodeHops_ends h.2.2

/-- The call for a path: which function it is, and what it says of the path. -/
inductive CallShape (amount : ℕ) (path : List Address) (nativeInput nativeOutput : Bool) :
    PoolType → RouterCall → Prop where
  | ethForTokens {amountOutMin deadline : ℕ} {recipient : Address} (hin : nativeInput = true) :
      CallShape amount path nativeInput nativeOutput .v2
        (.swapExactETHForTokensSupportingFeeOnTransferTokens amountOutMin path recipient deadline)
  | tokensForEth {amountOutMin deadline : ℕ} {recipient : Address} (hin : nativeInput = false)
      (hout : nativeOutput = true) :
      CallShape amount path nativeInput nativeOutput .v2
        (.swapExactTokensForETHSupportingFeeOnTransferTokens amount amountOutMin path recipient
          deadline)
  | tokensForTokens {amountOutMin deadline : ℕ} {recipient : Address} (hin : nativeInput = false)
      (hout : nativeOutput = false) :
      CallShape amount path nativeInput nativeOutput .v2
        (.swapExactTokensForTokensSupportingFeeOnTransferTokens amount amountOutMin path recipient
          deadline)
  | exactInput {amountOutMin deadline : ℕ} {recipient : Address} {fees : List ℕ}
      {bytes : List UInt8} (hbytes : encodeUniswapV3Path path fees = some bytes) :
      CallShape amount path nativeInput nativeOutput .v3
        (.exactInput bytes recipient deadline amount amountOutMin)

theorem buildSwapCalldata_shape {cfg : Settings} {amount expectedOutput : ℕ}
    {route : PoolSwapRoute} {poolType : PoolType} {defaultFeeTier : ℕ} {recipient : Address}
    {chain : String} {slippageBps now : ℕ} {call : RouterCall}
    (h : buildSwapCalldata cfg amount expectedOutput route poolType defaultFeeTier recipient chain
      slippageBps now = some call) :
    (expectedOutput = 0 → 0 < amount) ∧ ∃ path nativeInput nativeOutput,
      resolveRouteTokensForNative cfg route chain = some (path, nativeInput, nativeOutput) ∧
      CallShape amount path nativeInput nativeOutput poolType call := by
  simp only [buildSwapCalldata, Option.bind_eq_bind, Option.bind_eq_some_iff,
    Option.ite_none_left_eq_some] at h
  obtain ⟨⟨path, nativeInput, nativeOutput⟩, hpath, _, hmin, h⟩ := h
  refine ⟨fun hexpected => ?_, path, nativeInput, nativeOutput, hpath, ?_⟩
  · refine Nat.pos_of_ne_zero fun hamount => hmin ?_
    simp [hexpected, hamount, amountOutMinimum, U256.wrappingMul]
  · cases poolType with
    | v2 =>
        dsimp only at h
        split at h
        · cases h; exact .ethForTokens ‹_›
        · split at h
          · cases h; exact .tokensForEth (Bool.eq_false_iff.mpr ‹_›) ‹_›
          · cases h
            exact .tokensForTokens (Bool.eq_false_iff.mpr ‹_›) (Bool.eq_false_iff.mpr ‹_›)
    | v3 =>
        simp only [Option.bind_eq_some_iff, Option.some.injEq] at h
        obtain ⟨fees, _, bytes, hbytes, rfl⟩ := h
        exact .exactInput hbytes

end Liquifier.Engine
