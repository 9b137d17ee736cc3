import Liquifier.Engine.Direction
import Liquifier.Engine.StoredRoute

/-!
The routes that the services make themselves.

There are three: the default route of a discovered pool, and a computed path as
`start_selling` prints it and as the session wizard sends it back. They differ in the
fields beside the hops and the tokens. The engine reads from each of them the route that
was made, and the fee tier that the default route of a V3 pool has.
-/

namespace Liquifier.Engine

open SessionApi

/-! ### The texts -/

/-- The JSON of `start_selling` for a computed path. -/
def startSellingPath (path : ScoredPath) : Json :=
  .object [("hops", .array (path.hops.map .string)),
    ("hop_tokens", .array (path.hopTokens.map .string)),
    ("fee_tiers", .array []),
    ("estimated_output", .string path.estimatedOutput),
    ("estimated_price_impact", .number (.float path.estimatedPriceImpact)),
    ("fee_percent", .number (.float path.feePercent))]

/-- The JSON of a computed path in the response of the gateway, which the wizard sends
back; `display` is what the gateway makes of a token. -/
def responsePath (display : String → String) (path : ScoredPath) : Json :=
  .object [("rank", .number (.posInt path.rank)),
    ("hops", .array (path.hops.map .string)),
    ("hop_tokens", .array ((path.hopTokens.map display).map .string)),
    ("estimated_output", .string path.estimatedOutput),
    ("estimated_price_impact", .number (.float path.estimatedPriceImpact)),
    ("fee_percent", .number (.float path.feePercent))]

/-- The tokens of the default route of a pool. -/
def defaultHopTokens (pool : DiscoveredPool) (tokenAddress : String) : List String :=
  if eqIgnoreAsciiCase pool.token0 tokenAddress then [pool.token0, pool.token1]
  else if eqIgnoreAsciiCase pool.token1 tokenAddress then [pool.token1, pool.token0]
  else [pool.token0, pool.token1]

def defaultFeeTiers (pool : DiscoveredPool) : List ℕ :=
  if pool.poolType = .v3 then [pool.feeTier] else []

/-! ### From the producer to the engine -/

/-- Both services accept the text for the pool, and the engine reads the route from
whatever text is read back for the value that was stored. -/
structure RouteAccepted (lib : Library) (text poolAddress : String) (route : PoolSwapRoute) :
    Prop where
  gateway : Gateway.validatePoolSwapPathJson lib text poolAddress = true
  session : ∃ value, parsePoolSwapPathJson lib text poolAddress = .ok value ∧
    ∀ stored, ReadsBack lib value stored →
      parsePoolSwapRoute lib.jsonFromStr stored poolAddress = some route

/-- A value that is a route for a pool. -/
structure IsRoute (value : Json) (poolAddress : String) (route : PoolSwapRoute) : Prop where
  get_hops : value.get "hops" = some (.array (route.hops.map .string))
  get_hopTokens : value.get "hop_tokens" = some (.array (route.hopTokens.map .string))
  get_feeTiers : ((value.get "fee_tiers").getD (.array [])).asVec Json.asU32 = some route.feeTiers
  first : ∃ first, route.hops.head? = some first ∧ eqIgnoreAsciiCase first poolAddress = true
  length : route.hopTokens.length = route.hops.length + 1

section Accepted

variable {lib : Library} {value : Json} {text poolAddress : String} {route : PoolSwapRoute}

theorem IsRoute.ofValue (h : IsRoute value poolAddress route) :
    PoolSwapRoute.ofValue value = some route := by
  have hstrings (texts : List String) :
      (Json.array (texts.map .string)).asVec Json.asStr = some texts :=
    mapM_asStr_eq_some.mpr rfl
  rw [PoolSwapRoute.ofValue, h.get_hops, h.get_hopTokens, h.get_feeTiers, Option.bind_some,
    Option.bind_some, hstrings, hstrings]
  rfl

/-- An array of strings is stored as it is. -/
theorem eq_of_stored_strings {texts : List String} {elems : List Json}
    (h : List.Forall₂ Json.Stored (texts.map .string) elems) : elems = texts.map .string := by
  induction texts generalizing elems with
  | nil =>
      cases h
      rfl
  | cons text texts ih =>
      cases h with
      | cons hhead hrest =>
          cases hhead
          rw [ih hrest, List.map_cons]

theorem get_of_stored {w : Json} (hstored : Json.Stored value w) {key : String}
    {texts : List String} (h : value.get key = some (.array (texts.map .string))) :
    w.get key = some (.array (texts.map .string)) := by
  cases hstored with
  | @object fields fields' _ hrel =>
      have hkey := hrel key
      rw [show fields.reverse.lookup key = some (.array (texts.map .string)) from h] at hkey
      cases hlookup : fields'.reverse.lookup key with
      | none =>
          rw [hlookup] at hkey
          cases hkey
      | some v =>
          rw [hlookup] at hkey
          cases hkey with
          | some hv =>
              cases hv with
              | array helems =>
                  rw [eq_of_stored_strings helems] at hlookup
                  exact hlookup
  | _ => cases h

theorem IsRoute.checked (h : IsRoute value poolAddress route) {w : Json}
    (hstored : Json.Stored value w) :
    RouteChecked w poolAddress (route.hops.map .string) (route.hopTokens.map .string) := by
  obtain ⟨first, hfirst, hpool⟩ := h.first
  exact ⟨get_of_stored hstored h.get_hops, get_of_stored hstored h.get_hopTokens,
    ⟨first, by rw [List.head?_map, hfirst, Option.map_some], hpool⟩, by simp [h.length]⟩

theorem IsRoute.congr (h : IsRoute value poolAddress route) {poolAddress' : String}
    (heq : eqIgnoreAsciiCase poolAddress poolAddress' = true) :
    IsRoute value poolAddress' route := by
  obtain ⟨first, hfirst, hpool⟩ := h.first
  exact { h with first := ⟨first, hfirst, eqIgnoreAsciiCase_trans hpool heq⟩ }

/-- What is read back of a stored route is the route. -/
theorem IsRoute.parsed (h : IsRoute value poolAddress route) (htext : ReadsBack lib value text) :
    parsePoolSwapRoute lib.jsonFromStr text poolAddress = some route := by
  obtain ⟨first, hfirst, hpool⟩ := h.first
  have hchecked : RouteChecked value poolAddress (route.hops.map .string)
      (route.hopTokens.map .string) :=
    ⟨h.get_hops, h.get_hopTokens, ⟨first, by rw [List.head?_map, hfirst, Option.map_some], hpool⟩,
      by simp [h.length]⟩
  rw [parsePoolSwapRoute_eq hchecked htext, h.ofValue]

/-- The text of a route is accepted, and the engine reads the route. -/
theorem IsRoute.accepted (h : IsRoute value poolAddress route) (htext : ReadsBack lib value text) :
    RouteAccepted lib text poolAddress route := by
  obtain ⟨w, hw, hstored⟩ := htext.stored
  have hparse : parsePoolSwapPathJson lib text poolAddress = .ok w :=
    parsePoolSwapPathJson_iff.mpr ⟨htext.not_blank, hw, _, _, h.checked hstored⟩
  refine ⟨validatePoolSwapPathJson_iff.mpr ⟨w, hparse⟩, w, hparse, fun stored hback => ?_⟩
  rw [parsePoolSwapRoute_eq (h.checked hstored) hback, PoolSwapRoute.ofValue_of_stored hstored,
    h.ofValue]

end Accepted

/-! ### The default route -/

theorem isRoute_default {pool : DiscoveredPool} (hfee : pool.feeTier < 2 ^ 32)
    (tokenAddress : String) :
    IsRoute (buildDefaultPoolSwapPath pool tokenAddress) pool.poolAddress
      ⟨[pool.poolAddress], defaultHopTokens pool tokenAddress, defaultFeeTiers pool⟩ where
  get_hops := rfl
  get_hopTokens := by
    simp only [buildDefaultPoolSwapPath, defaultHopTokens, Json.get]
    split
    · rfl
    · split
      · rfl
      · rfl
  get_feeTiers := by
    show (Json.array ((defaultFeeTiers pool).map fun fee => .number (.posInt fee))).asVec
      Json.asU32 = _
    unfold defaultFeeTiers
    split
    · have hfee : pool.feeTier < 4294967296 := hfee
      simp [Json.asVec, Json.asArray, Json.asU32, hfee]
    · rfl
  first := ⟨_, rfl, eqIgnoreAsciiCase_refl _⟩
  length := by
    simp only [defaultHopTokens]
    split
    · rfl
    · split
      · rfl
      · rfl

/-- The text is a printed address, in any case. -/
def PrintsAddress (text : String) : Prop :=
  ∃ address : Address, eqIgnoreAsciiCase text address.debug = true

/-- A discovered pool has a printed address, and its fee fits into the path of a V3 router. -/
theorem discovered {cfg : Settings} {provider : Provider} {chain tokenAddress : String}
    {pools : List DiscoveredPool} {pool : DiscoveredPool}
    (h : discoverPools cfg provider chain tokenAddress = some pools) (hpool : pool ∈ pools) :
    PrintsAddress pool.poolAddress ∧ pool.feeTier < 2 ^ 24 := by
  obtain ⟨token, base, factoryAddr, factory, -, hmem⟩ := exists_pair_of_mem h hpool
  unfold discoverPair at hmem
  split at hmem
  · rw [Option.mem_toList] at hmem
    simp only [discoverV2Pool, Option.bind_eq_bind, Option.bind_eq_some_iff,
      Option.ite_none_left_eq_some, Option.some.injEq] at hmem
    obtain ⟨_, _, _, _, _, _, _, rfl⟩ := hmem
    exact ⟨⟨_, eqIgnoreAsciiCase_refl _⟩, Nat.two_pow_pos 24⟩
  · obtain ⟨fee, -, hmem⟩ := List.mem_filterMap.mp hmem
    simp only [discoverV3Pool, Option.bind_eq_bind, Option.bind_eq_some_iff, Option.guard_eq_some',
      Option.ite_none_left_eq_some, Option.some.injEq] at hmem
    obtain ⟨_, hfee, _, _, _, rfl⟩ := hmem
    exact ⟨⟨_, eqIgnoreAsciiCase_refl _⟩, hfee⟩

/-! ### A computed path -/

/-- A path that answers a request begins with its pool and has a token more than hops. -/
structure IsPath (poolAddress : String) (path : ScoredPath) : Prop where
  first : ∃ first, path.hops.head? = some first ∧ eqIgnoreAsciiCase first poolAddress = true
  length : path.hopTokens.length = path.hops.length + 1

theorem isPath_of_compute {texts : Texts} {cfg : Settings} {provider : Provider}
    {req : ComputePoolPathRequest} {path : ScoredPath}
    (h : req.compute texts cfg provider = some (some path)) : IsPath req.poolAddress path := by
  obtain ⟨pools, -, hpath⟩ := compute_eq_some_iff.mp h
  obtain ⟨built, hbuilt, rfl⟩ := Option.map_eq_some_iff.mp hpath
  rcases buildSwapPath_cases texts hbuilt with rfl | ⟨bridgePool, -, rfl⟩
  · exact ⟨⟨_, rfl, eqIgnoreAsciiCase_refl _⟩, rfl⟩
  · exact ⟨⟨_, rfl, eqIgnoreAsciiCase_refl _⟩, rfl⟩

/-- A printed address has the lower case of its own spellings only. -/
theorem PrintsAddress.eq_of_toLowercase {texts : Texts} {s t : String} (ht : PrintsAddress t)
    (h : texts.toLowercase s = texts.toLowercase t) : eqIgnoreAsciiCase s t = true := by
  obtain ⟨address, haddress⟩ := ht
  have hs : texts.toLowercase s = texts.toLowercase address.debug :=
    h.trans (texts.toLowercase_eq t address.debug haddress)
  exact eqIgnoreAsciiCase_trans (texts.eq_of_toLowercase s address hs)
    (eqIgnoreAsciiCase_symm haddress)

/-- A path of the service is one for the pool of the request, also when the cache has it. -/
theorem isPath_of_serve {texts : Texts} {cfg : Settings} {provider : Provider}
    {calls : List (ComputePoolPathRequest × ℕ)} {req : ComputePoolPathRequest} {now : ℕ}
    {path : ScoredPath} (hpool : PrintsAddress req.poolAddress)
    (h : (servePoolPath texts cfg provider (cacheAfter texts cfg provider calls) req now).1 =
      .ok (some path)) :
    IsPath req.poolAddress path := by
  unfold servePoolPath at h
  dsimp only at h
  split at h
  · cases h
  · split at h
    · rename_i entry hhit
      obtain ⟨call, -, hfills⟩ := exists_fills (Option.filter_eq_some_iff.mp hhit).1
      have hcomputed := hfills.computed
      rw [Except.ok.inj h] at hcomputed
      obtain ⟨⟨first, hfirst, hfilled⟩, hlength⟩ := isPath_of_compute hcomputed
      have hkey := hfills.key_eq
      rw [normalize_poolAddress] at hfilled
      simp only [ComputePoolPathRequest.cacheKey, Prod.mk.injEq, normalize_poolAddress] at hkey
      exact ⟨⟨first, hfirst,
        eqIgnoreAsciiCase_trans hfilled (hpool.eq_of_toLowercase hkey.2.1)⟩, hlength⟩
    · split at h
      · rename_i hcomputed
        rw [Except.ok.inj h] at hcomputed
        have hpath := isPath_of_compute hcomputed
        rwa [normalize_poolAddress] at hpath
      · cases h

theorem IsPath.isRoute_startSelling {poolAddress : String} {path : ScoredPath}
    (h : IsPath poolAddress path) :
    IsRoute (startSellingPath path) poolAddress ⟨path.hops, path.hopTokens, []⟩ :=
  ⟨rfl, rfl, rfl, h.first, h.length⟩

theorem IsPath.isRoute_response {poolAddress : String} {path : ScoredPath}
    (h : IsPath poolAddress path) (display : String → String) :
    IsRoute (responsePath display path) poolAddress ⟨path.hops, path.hopTokens.map display, []⟩ :=
  ⟨rfl, rfl, rfl, h.first, by rw [List.length_map]; exact h.length⟩

/-- The routes of the three producers are accepted for their pool, and the engine reads
their hops and tokens; of the default route of a V3 pool it reads the fee tier. -/
theorem producedRoutes_accepted (texts : Texts) (cfg : Settings) (provider : Provider)
    (lib : Library) :
    (∀ chain token pools pool tokenAddress text,
      discoverPools cfg provider chain token = some pools → pool ∈ pools →
      ReadsBack lib (buildDefaultPoolSwapPath pool tokenAddress) text →
        PrintsAddress pool.poolAddress ∧ ∃ route, RouteAccepted lib text pool.poolAddress route ∧
          route.hops = [pool.poolAddress] ∧ route.hopTokens = defaultHopTokens pool tokenAddress ∧
          (pool.poolType = .v3 → ∀ defaultFeeTier,
            routeFeeTiers route defaultFeeTier route.hopTokens.length = some [pool.feeTier])) ∧
    (∀ calls req now path text, PrintsAddress req.poolAddress →
      (servePoolPath texts cfg provider (cacheAfter texts cfg provider calls) req now).1 =
        .ok (some path) →
      ReadsBack lib (startSellingPath path) text →
        ∃ route, RouteAccepted lib text req.poolAddress route ∧
          route.hops = path.hops ∧ route.hopTokens = path.hopTokens) ∧
    ∀ calls req now path display text, PrintsAddress req.poolAddress →
      (servePoolPath texts cfg provider (cacheAfter texts cfg provider calls) req now).1 =
        .ok (some path) →
      ReadsBack lib (responsePath display path) text →
        ∃ route, RouteAccepted lib text req.poolAddress route ∧
          route.hops = path.hops ∧ route.hopTokens = path.hopTokens.map display := by
  refine ⟨?_, ?_, ?_⟩
  · intro chain token pools pool tokenAddress text hpools hpool htext
    obtain ⟨hprints, hfee⟩ := discovered hpools hpool
    refine ⟨hprints, _, (isRoute_default (by omega) tokenAddress).accepted htext, rfl, rfl, ?_⟩
    intro htype defaultFeeTier
    have hdefault : IsRoute (buildDefaultPoolSwapPath pool tokenAddress) pool.poolAddress
        ⟨[pool.poolAddress], defaultHopTokens pool tokenAddress, defaultFeeTiers pool⟩ :=
      isRoute_default (by omega) tokenAddress
    have hlength := hdefault.length
    simp only at hlength ⊢
    rw [routeFeeTiers, hlength]
    simp [defaultFeeTiers, htype]
  · intro calls req now path text hpool hserved htext
    exact ⟨_, (isPath_of_serve hpool hserved).isRoute_startSelling.accepted htext, rfl, rfl⟩
  · intro calls req now path display text hpool hserved htext
    exact ⟨_, ((isPath_of_serve hpool hserved).isRoute_response display).accepted htext, rfl, rfl⟩

namespace Sample

/-- The pool that is discovered for the lower token. -/
def discoveredPool : DiscoveredPool where
  poolAddress := v3Pool.debug
  poolType := .v3
  dexName := "pancakeswap"
  token0 := lower.debug
  token1 := higher.debug
  feeTier := 500
  reserve0 := none
  reserve1 := none
  liquidity := none
  balance0 := none
  balance1 := none

theorem discoverPools_eq :
    discoverPools (v3Settings higher) provider "bsc" lower.debug = some [discoveredPool] := by
  decide +kernel

def discoveredText : String :=
  objectText ("\"fee_tiers\":[500],\"hop_tokens\":[\"" ++ lower.debug ++ "\",\"" ++
    higher.debug ++ "\"],\"hops\":[\"" ++ v3Pool.debug ++ "\"]")

def sellingText : String :=
  objectText ("\"estimated_output\":\"0\",\"estimated_price_impact\":0.125," ++
    "\"fee_percent\":0.05,\"fee_tiers\":[],\"hop_tokens\":[\"" ++ SessionApi.Sample.sellToken ++
    "\",\"" ++ SessionApi.Sample.targetToken ++ "\"],\"hops\":[\"" ++
    SessionApi.Sample.poolAddress ++ "\"]")

theorem strings_stored (texts : List String) :
    Json.Stored (.array (texts.map .string)) (.array (texts.map .string)) :=
  .array_self fun _ h => by
    obtain ⟨text, -, rfl⟩ := List.mem_map.mp h
    exact .string text

theorem default_readsBack :
    ReadsBack (textLibrary discoveredText (buildDefaultPoolSwapPath discoveredPool lower.debug))
      (buildDefaultPoolSwapPath discoveredPool lower.debug) discoveredText := by
  refine textLibrary_readsBack _ (.object_self (by simp) ?_)
  simp only [List.mem_cons, List.not_mem_nil, or_false, forall_eq_or_imp, forall_eq]
  refine ⟨strings_stored [_], strings_stored [_, _], .array_self ?_⟩
  intro fee hfee
  obtain ⟨fee, -, rfl⟩ := List.mem_map.mp hfee
  exact .number rfl

theorem poolAddress_printsAddress : PrintsAddress SessionApi.Sample.poolAddress :=
  ⟨⟨List.replicate 20 0x44, by simp⟩, by decide +kernel⟩

theorem selling_readsBack :
    ReadsBack (textLibrary sellingText (startSellingPath SessionApi.Sample.directPath))
      (startSellingPath SessionApi.Sample.directPath) sellingText := by
  refine textLibrary_readsBack _ (.object_self (by simp) ?_)
  simp only [List.mem_cons, List.not_mem_nil, or_false, forall_eq_or_imp, forall_eq]
  exact ⟨strings_stored _, strings_stored _, .array_self (by simp), .string _, .number rfl,
    .number rfl⟩

end Sample

/-- The default route of a discovered V3 pool, and a path that the service has in its cache. -/
theorem producedRoutes_accepted_sample :
    (∃ route, RouteAccepted
      (Sample.textLibrary Sample.discoveredText
        (buildDefaultPoolSwapPath Sample.discoveredPool Sample.lower.debug))
      Sample.discoveredText Sample.v3Pool.debug route ∧
      routeFeeTiers route 0 route.hopTokens.length = some [500]) ∧
    ∃ route, RouteAccepted
      (Sample.textLibrary Sample.sellingText (startSellingPath SessionApi.Sample.directPath))
      Sample.sellingText SessionApi.Sample.poolAddress route ∧
      route.hops = [SessionApi.Sample.poolAddress] := by
  constructor
  · obtain ⟨-, route, haccepted, -, -, hfees⟩ :=
      (producedRoutes_accepted SessionApi.Sample.asciiTexts (Sample.v3Settings Sample.higher)
        Sample.provider _).1 _ _ _ Sample.discoveredPool Sample.lower.debug _
        Sample.discoverPools_eq (List.mem_singleton.mpr rfl) Sample.default_readsBack
    exact ⟨route, haccepted, hfees rfl 0⟩
  · obtain ⟨entry, hhit, hpath⟩ := SessionApi.Sample.hit_direct SessionApi.Sample.targetToken
    have hserved := servePoolPath_of_hit SessionApi.Sample.provider
      (SessionApi.Sample.accepted SessionApi.Sample.targetToken) hhit
    rw [hpath] at hserved
    obtain ⟨route, haccepted, hhops, -⟩ :=
      (producedRoutes_accepted SessionApi.Sample.asciiTexts SessionApi.Sample.settings
        SessionApi.Sample.provider _).2.1 _ _ _ _ _ Sample.poolAddress_printsAddress hserved
        Sample.selling_readsBack
    exact ⟨route, haccepted, hhops⟩

end Liquifier.Engine
