import Liquifier.Common.NativeTokens
import Liquifier.Gateway.OraclePools
import Liquifier.Lib.TaskSystem

/-!
The price of a token, by the pool that was once selected for it.

A request that finds no pool for its token asks the session service for the pools, selects
one and stores it, for good: nothing else writes the entry, and only a quote that fails
makes a request select again. Requests run side by side over one cache, its calls may fail,
and the pools that the service answers change. Whatever the schedule, the pool of a price is
the one that was selected, from an answer that this run has had, for the chain and the token
of the request.
-/

namespace Liquifier.Gateway

open TaskSystem TaskSystem.System SessionApi

/-! ### Texts -/

theorem toLower_toLower (c : Char) : c.toLower.toLower = c.toLower :=
  apply_toLower (f := Char.toLower) (by decide) c

theorem trimChars_map_toLower (cs : List Char) :
    trimChars (cs.map Char.toLower) = (trimChars cs).map Char.toLower := by
  have hcomp : isWhitespace ∘ Char.toLower = isWhitespace := funext isWhitespace_toLower
  simp only [trimChars, List.dropWhile_map, hcomp, ← List.map_reverse]

theorem trim_toAsciiLowercase (s : String) :
    trim (toAsciiLowercase s) = toAsciiLowercase (trim s) := by
  rw [trim, toAsciiLowercase, String.toList_ofList, trimChars_map_toLower, toAsciiLowercase, trim,
    String.toList_ofList]

@[simp] theorem toAsciiLowercase_toAsciiLowercase (s : String) :
    toAsciiLowercase (toAsciiLowercase s) = toAsciiLowercase s := by
  have hmap : (s.toList.map Char.toLower).map Char.toLower = s.toList.map Char.toLower := by
    rw [List.map_map]
    exact List.map_congr_left fun c _ => toLower_toLower c
  rw [toAsciiLowercase, toAsciiLowercase, String.toList_ofList, hmap]

/-! ### The cache -/

def tokenPoolCacheKey (chain tokenAddress : String) : String :=
  "oracle_pool:" ++ (toAsciiLowercase (trim chain) ++ ":" ++ toAsciiLowercase (trim tokenAddress))

def validateHexAddress (value : String) : Bool :=
  match (trim value).toList with
  | '0' :: 'x' :: cs => cs.length = 40 && (decodeHex cs).isSome
  | _ => false

namespace CachedOraclePool

def toJson (entry : CachedOraclePool) : Json :=
  .object [("pool_address", .string entry.poolAddress),
    ("version", .number (.posInt entry.version))]

/-- A `u8`. -/
def asU8 : Json → Option ℕ
  | .number (.posInt n) => if n < 2 ^ 8 then some n else none
  | _ => none

/-- The derived `Deserialize`: an object, or its fields in a row. -/
def fromJson : Json → Option CachedOraclePool
  | .object fields => do
      let poolAddress ← (← Json.uniqueField fields "pool_address").bind Json.asStr
      let version ← (← Json.uniqueField fields "version").bind asU8
      some ⟨poolAddress, version⟩
  | .array [poolAddress, version] => do
      let poolAddress ← poolAddress.asStr
      let version ← asU8 version
      some ⟨poolAddress, version⟩
  | _ => none

theorem fromJson_toJson {entry : CachedOraclePool} (h : entry.version < 2 ^ 8) :
    fromJson entry.toJson = some entry := by
  have hversion : asU8 (.number (.posInt entry.version)) = some entry.version := if_pos h
  simp [fromJson, toJson, Json.uniqueField, Json.asStr, hversion]

end CachedOraclePool

/-- An entry of the cache, where it can be used. -/
def cachedEntry (lib : Library) (cached : String) : Option CachedOraclePool :=
  ((lib.jsonFromStr cached).bind CachedOraclePool.fromJson).filter fun entry =>
    validateHexAddress entry.poolAddress && (entry.version = 2 || entry.version = 3)

theorem length_of_validateHexAddress {value : String} (h : validateHexAddress value = true) :
    (trim value).toList.length = 42 := by
  unfold validateHexAddress at h
  split at h
  · rename_i cs htext
    rw [Bool.and_eq_true, decide_eq_true_eq] at h
    rw [htext, List.length_cons, List.length_cons, h.1]
  · cases h

theorem append_inj_of_length {s s' t t' : String} (hlength : t.toList.length = t'.toList.length)
    (h : s ++ t = s' ++ t') : s = s' ∧ t = t' := by
  have hlist := congrArg String.toList h
  rw [String.toList_append, String.toList_append] at hlist
  obtain ⟨hs, ht⟩ := List.append_inj' hlist hlength
  exact ⟨String.toList_inj.mp hs, String.toList_inj.mp ht⟩

/-- The length of an address tells where the name of the chain ends. -/
theorem tokenPoolCacheKey_inj {chain chain' token token' : String}
    (htoken : validateHexAddress token = true) (htoken' : validateHexAddress token' = true)
    (h : tokenPoolCacheKey chain token = tokenPoolCacheKey chain' token') :
    toAsciiLowercase (trim chain) = toAsciiLowercase (trim chain') ∧
      toAsciiLowercase (trim token) = toAsciiLowercase (trim token') := by
  have hlength {token : String} (h : validateHexAddress token = true) :
      (toAsciiLowercase (trim token)).toList.length = 42 := by
    rw [toAsciiLowercase, String.toList_ofList, List.length_map, length_of_validateHexAddress h]
  rw [tokenPoolCacheKey, tokenPoolCacheKey, String.append_right_inj] at h
  obtain ⟨hchain, htoken⟩ :=
    append_inj_of_length ((hlength htoken).trans (hlength htoken').symm) h
  exact ⟨(String.append_left_inj ":").mp hchain, htoken⟩

/-! ### The requests -/

structure TokenUsdPriceQuery where
  chain : String
  tokenAddress : String
  deriving DecidableEq

/-- The handlers that ask for a price. `start_selling` does so for the chain of the
wallet. -/
inductive PriceRequest where
  | getTokenUsdPrice (query : TokenUsdPriceQuery)
  | createRefundRequest
  | startSelling (effectiveChain : String)
  deriving DecidableEq

/-- What a handler asks the price of, and where. -/
structure PriceCall where
  rpcUrl : String
  oracleAddress : Address
  chain : String
  tokenAddress : String
  deriving DecidableEq

def PriceCall.cacheKey (call : PriceCall) : String :=
  tokenPoolCacheKey call.chain call.tokenAddress

/-- The three handlers up to `resolve_cached_oracle_pool`. -/
def PriceRequest.call (cfg : Settings) : PriceRequest → Except StatusCode PriceCall
  | .getTokenUsdPrice query => do
      let chain := toAsciiLowercase (trim query.chain)
      ensure (chain ≠ "") .badRequest
      let normalizedToken :=
        toAsciiLowercase (cfg.normalizeTokenForChain chain (trim query.tokenAddress))
      ensure (validateHexAddress normalizedToken) .badRequest
      let chainCfg ← okOr .badRequest (cfg.chain chain)
      let rpcUrl := trim chainCfg.rpcUrl
      ensure (rpcUrl ≠ "") .badRequest
      let oracleAddress ← okOr .internalServerError
        (Address.parse cfg.execution.buyTriggerOracleAddress)
      return ⟨rpcUrl, oracleAddress, chain, normalizedToken⟩
  | .createRefundRequest => do
      let oracleAddress ← okOr .internalServerError
        (Address.parse cfg.execution.buyTriggerOracleAddress)
      let chainCfg ← okOr .internalServerError (cfg.chain cfg.execution.sessionChain)
      let rpcUrl := trim chainCfg.rpcUrl
      ensure (rpcUrl ≠ "") .internalServerError
      return ⟨rpcUrl, oracleAddress, cfg.execution.sessionChain, cfg.execution.sellToken⟩
  | .startSelling effectiveChain => do
      let chainCfg ← okOr .badRequest (cfg.chain effectiveChain)
      let rpcUrl := trim chainCfg.rpcUrl
      let oracleAddress ← okOr .internalServerError
        (Address.parse cfg.execution.buyTriggerOracleAddress)
      let normalized :=
        toAsciiLowercase (cfg.normalizeTokenForChain effectiveChain (trim cfg.execution.sellToken))
      return ⟨rpcUrl, oracleAddress, effectiveChain, normalized⟩

/-- Where a request stands: in `resolve_cached_oracle_pool` before the cache, the session
service or the `SET`, at the oracle, or behind it. `unpriced` is `start_selling` with the
price 0. -/
inductive PricePhase where
  | resolve
  | discover
  | cache (selected : CachedOraclePool)
  | fetch (pool : CachedOraclePool) (fromCache : Bool)
  | priced (pool : CachedOraclePool) (usdPrice36 : ℕ)
  | unpriced
  | failed (status : StatusCode)
  deriving DecidableEq

/-- What a request makes of an error. -/
def PriceRequest.fail (status : StatusCode) : PriceRequest → PricePhase
  | .startSelling _ => .unpriced
  | _ => .failed status

/-- What a request makes of a quote that fails: only `get_token_usd_price` selects again,
and only when the pool was an old one. -/
def PriceRequest.unquoted (fromCache : Bool) : PriceRequest → PricePhase
  | .getTokenUsdPrice _ => if fromCache then .discover else .failed .badGateway
  | .createRefundRequest => .failed .internalServerError
  | .startSelling _ => .unpriced

structure PriceTask where
  request : PriceRequest
  call : PriceCall
  phase : PricePhase

/-! ### The system -/

/-- What `discover_pools` has answered. -/
structure PoolAnswer where
  chain : String
  tokenAddress : String
  pools : List PoolInfo

/-- What `getUsdPrice` has answered. -/
structure UsdQuote where
  rpcUrl : String
  oracleAddress : Address
  token : Address
  pair : Address
  version : ℕ
  usdPrice36 : ℕ

/-- The cache, and a record of what the services have answered. -/
structure PriceStore where
  redis : String → Option String
  answers : List PoolAnswer
  quotes : List UsdQuote

namespace PriceStore

def empty : PriceStore := ⟨fun _ => none, [], []⟩

def set (s : PriceStore) (key value : String) : PriceStore :=
  { s with redis := fun k => if k = key then some value else s.redis k }

end PriceStore

/-- What a request is answered at its next step. -/
inductive PriceAct where
  /-- `GET`: the entry as it is, or an error or an entry that has been evicted. -/
  | get (answers : Bool)
  /-- No connection. -/
  | disconnect
  /-- `discover_pools`. -/
  | discoverPools (pools : Option (List PoolInfo))
  /-- `SET`, which may fail. -/
  | set (written : Bool)
  /-- `getUsdPrice`; the endpoint may be no URL. -/
  | getUsdPrice (quote : Option ℕ)

section Pricing

variable (cfg : Settings) (lib : Library)

/-- `fetch_oracle_usd_price_36`, given what the oracle answers. -/
def fetchOracleUsdPrice36 (call : PriceCall) (pool : CachedOraclePool) (quote : Option ℕ) :
    Option UsdQuote := do
  let token ← Address.parse call.tokenAddress
  let pair ← Address.parse pool.poolAddress
  let usdPrice36 ← quote
  some ⟨call.rpcUrl, call.oracleAddress, token, pair, pool.version, usdPrice36⟩

def priceStep (a : PriceAct) (s : PriceStore) (t : PriceTask) : Option (PriceStore × PriceTask) :=
  match t.phase, a with
  | .resolve, .get answers =>
      match (if answers then s.redis t.call.cacheKey else none).bind (cachedEntry lib) with
      | some entry => some (s, { t with phase := .fetch entry true })
      | none => some (s, { t with phase := .discover })
  | .discover, .disconnect => some (s, { t with phase := t.request.fail .serviceUnavailable })
  | .discover, .discoverPools none => some (s, { t with phase := t.request.fail .badGateway })
  | .discover, .discoverPools (some pools) =>
      let s' := { s with answers := ⟨t.call.chain, t.call.tokenAddress, pools⟩ :: s.answers }
      match chooseBestOraclePool pools t.call.tokenAddress with
      | some selected => some (s', { t with phase := .cache selected })
      | none => some (s', { t with phase := t.request.fail .notFound })
  | .cache selected, .set written =>
      let s' := if written then s.set t.call.cacheKey (lib.jsonToString selected.toJson) else s
      some (s', { t with phase := .fetch selected false })
  | .fetch pool fromCache, .getUsdPrice quote =>
      match fetchOracleUsdPrice36 t.call pool quote with
      | some q =>
          some ({ s with quotes := q :: s.quotes }, { t with phase := .priced pool q.usdPrice36 })
      | none => some (s, { t with phase := t.request.unquoted fromCache })
  | _, _ => none

/-- The requests over one cache. A request that is refused before it asks for a price
is none. -/
def pricing : System PriceStore PriceTask PriceAct where
  entry t := t.phase = .resolve && (t.request.call cfg).toOption = some t.call
  step := priceStep lib

end Pricing

/-! ### Selected pools -/

theorem exists_of_chooseBestOraclePool {pools : List PoolInfo} {tokenAddress : String}
    {entry : CachedOraclePool} (h : chooseBestOraclePool pools tokenAddress = some entry) :
    ∃ pool ∈ pools, oracleEntry pool = some entry := by
  by_cases hdeep : ∃ pool ∈ pools, 0 < depth tokenAddress pool
  · obtain ⟨pool, deepest, hfirst, -, hentry, hchoice⟩ := chooseBestOraclePool_of_pos hdeep
    rw [h] at hchoice
    exact ⟨pool, hfirst.mem, hchoice ▸ hentry⟩
  · rw [chooseBestOraclePool_of_empty fun pool hpool =>
      Nat.eq_zero_of_not_pos fun hpos => hdeep ⟨pool, hpool, hpos⟩] at h
    exact List.exists_of_findSome?_eq_some h

theorem version_of_oracleEntry {pool : PoolInfo} {entry : CachedOraclePool}
    (h : oracleEntry pool = some entry) : entry.version = 2 ∨ entry.version = 3 := by
  obtain ⟨version, hversion, rfl⟩ := Option.map_eq_some_iff.mp h
  simp only [poolTypeToVersion] at hversion
  split at hversion
  · exact .inl (Option.some.inj hversion).symm
  · split at hversion
    · exact .inr (Option.some.inj hversion).symm
    · cases hversion

/-- The pool is the best one of an answer about the chain and the token of the key. -/
def PriceStore.Selected (s : PriceStore) (key : String) (pool : CachedOraclePool) : Prop :=
  ∃ answer ∈ s.answers, tokenPoolCacheKey answer.chain answer.tokenAddress = key ∧
    chooseBestOraclePool answer.pools answer.tokenAddress = some pool

/-- The oracle has given the price for the token of the call and the pool. -/
def PriceStore.Quoted (s : PriceStore) (call : PriceCall) (pool : CachedOraclePool)
    (usdPrice36 : ℕ) : Prop :=
  ∃ token pair, Address.parse call.tokenAddress = some token ∧
    Address.parse pool.poolAddress = some pair ∧
    ⟨call.rpcUrl, call.oracleAddress, token, pair, pool.version, usdPrice36⟩ ∈ s.quotes

/-- The services have answered what they had, and maybe more. -/
structure PriceStore.Extends (s s' : PriceStore) : Prop where
  answers : s.answers ⊆ s'.answers
  quotes : s.quotes ⊆ s'.quotes

namespace PriceStore

variable {s s' : PriceStore} {key : String} {pool : CachedOraclePool}

theorem Extends.selected (h : s.Extends s') (hpool : s.Selected key pool) :
    s'.Selected key pool := by
  obtain ⟨answer, hanswer, hselected⟩ := hpool
  exact ⟨answer, h.answers hanswer, hselected⟩

theorem Extends.quoted {call : PriceCall} {usdPrice36 : ℕ} (h : s.Extends s')
    (hquote : s.Quoted call pool usdPrice36) : s'.Quoted call pool usdPrice36 := by
  obtain ⟨token, pair, htoken, hpair, hmem⟩ := hquote
  exact ⟨token, pair, htoken, hpair, h.quotes hmem⟩

theorem Selected.version (h : s.Selected key pool) : pool.version = 2 ∨ pool.version = 3 := by
  obtain ⟨answer, -, -, hchoice⟩ := h
  obtain ⟨row, -, hentry⟩ := exists_of_chooseBestOraclePool hchoice
  exact version_of_oracleEntry hentry

end PriceStore

/-! ### What a step can do -/

section Steps

variable {lib : Library}

/-- The steps of a request: the store and the phase after them. -/
inductive PriceTask.Moves (lib : Library) (s : PriceStore) (t : PriceTask) :
    PriceStore → PricePhase → Prop where
  | hit {text : String} {entry : CachedOraclePool} (htext : s.redis t.call.cacheKey = some text)
      (hentry : cachedEntry lib text = some entry) : Moves lib s t s (.fetch entry true)
  | select {pools : List PoolInfo} {selected : CachedOraclePool}
      (hchoice : chooseBestOraclePool pools t.call.tokenAddress = some selected) :
      Moves lib s t { s with answers := ⟨t.call.chain, t.call.tokenAddress, pools⟩ :: s.answers }
        (.cache selected)
  | unsupported {pools : List PoolInfo} :
      Moves lib s t { s with answers := ⟨t.call.chain, t.call.tokenAddress, pools⟩ :: s.answers }
        (t.request.fail .notFound)
  | store {selected : CachedOraclePool} (hphase : t.phase = .cache selected) :
      Moves lib s t (s.set t.call.cacheKey (lib.jsonToString selected.toJson))
        (.fetch selected false)
  | unstored {selected : CachedOraclePool} (hphase : t.phase = .cache selected) :
      Moves lib s t s (.fetch selected false)
  | price {pool : CachedOraclePool} {fromCache : Bool} {token pair : Address} {usdPrice36 : ℕ}
      (hphase : t.phase = .fetch pool fromCache)
      (htoken : Address.parse t.call.tokenAddress = some token)
      (hpair : Address.parse pool.poolAddress = some pair) :
      Moves lib s t { s with
          quotes := ⟨t.call.rpcUrl, t.call.oracleAddress, token, pair, pool.version, usdPrice36⟩ ::
            s.quotes }
        (.priced pool usdPrice36)
  | discover : Moves lib s t s .discover
  | fail (status : StatusCode) : Moves lib s t s (t.request.fail status)
  | unquoted (fromCache : Bool) : Moves lib s t s (t.request.unquoted fromCache)

theorem priceStep_cases {a : PriceAct} {s s' : PriceStore} {t t' : PriceTask}
    (h : priceStep lib a s t = some (s', t')) :
    t'.request = t.request ∧ t'.call = t.call ∧ t.Moves lib s s' t'.phase := by
  unfold priceStep at h
  split at h
  · split at h
    · rename_i answers _ entry hentry
      cases h
      obtain ⟨text, htext, hentry⟩ := Option.bind_eq_some_iff.mp hentry
      split at htext
      · exact ⟨rfl, rfl, .hit htext hentry⟩
      · cases htext
    · cases h
      exact ⟨rfl, rfl, .discover⟩
  · cases h
    exact ⟨rfl, rfl, .fail _⟩
  · cases h
    exact ⟨rfl, rfl, .fail _⟩
  · split at h
    · rename_i hchoice
      cases h
      exact ⟨rfl, rfl, .select hchoice⟩
    · cases h
      exact ⟨rfl, rfl, .unsupported⟩
  · rename_i selected written hphase
    cases h
    cases written with
    | true => exact ⟨rfl, rfl, .store hphase⟩
    | false => exact ⟨rfl, rfl, .unstored hphase⟩
  · rename_i pool fromCache quote hphase
    split at h
    · rename_i q hquote
      cases h
      simp only [fetchOracleUsdPrice36, Option.bind_eq_bind, Option.bind_eq_some_iff] at hquote
      obtain ⟨token, htoken, pair, hpair, usdPrice36, -, hq⟩ := hquote
      obtain rfl := Option.some.inj hq
      exact ⟨rfl, rfl, .price hphase htoken hpair⟩
    · cases h
      exact ⟨rfl, rfl, .unquoted fromCache⟩
  · cases h

/-- Answers are not forgotten. -/
theorem PriceTask.Moves.extends {s s' : PriceStore} {t : PriceTask} {phase : PricePhase}
    (h : t.Moves lib s s' phase) : s.Extends s' := by
  cases h with
  | select => exact ⟨List.subset_cons_self _ _, List.Subset.refl _⟩
  | unsupported => exact ⟨List.subset_cons_self _ _, List.Subset.refl _⟩
  | price => exact ⟨List.Subset.refl _, List.subset_cons_self _ _⟩
  | _ => exact ⟨List.Subset.refl _, List.Subset.refl _⟩

end Steps

/-! ### What the cache holds -/

/-- The text of an entry is read as the entry. -/
def ReadsEntries (lib : Library) : Prop :=
  ∀ entry : CachedOraclePool, entry.version = 2 ∨ entry.version = 3 →
    lib.jsonFromStr (lib.jsonToString entry.toJson) = some entry.toJson

/-- Every entry was selected for its key. -/
def PriceStore.Sound (lib : Library) (s : PriceStore) : Prop :=
  ∀ key text, s.redis key = some text →
    ∃ pool, text = lib.jsonToString pool.toJson ∧ s.Selected key pool

/-- The pool that a request has in hand was selected for its key, and the price is the one
of this pool. -/
def PricePhase.Sound (s : PriceStore) (call : PriceCall) : PricePhase → Prop
  | .cache selected => s.Selected call.cacheKey selected
  | .fetch pool _ => s.Selected call.cacheKey pool
  | .priced pool usdPrice36 => s.Selected call.cacheKey pool ∧ s.Quoted call pool usdPrice36
  | _ => True

section Sound

variable {cfg : Settings} {lib : Library} {s s' : PriceStore} {call : PriceCall}
  {phase : PricePhase}

theorem PricePhase.Sound.mono (h : s.Extends s') (hphase : phase.Sound s call) :
    phase.Sound s' call := by
  cases phase with
  | cache selected => exact h.selected hphase
  | fetch pool fromCache => exact h.selected hphase
  | priced pool usdPrice36 => exact ⟨h.selected hphase.1, h.quoted hphase.2⟩
  | _ => trivial

theorem PriceRequest.fail_sound (request : PriceRequest) (status : StatusCode) :
    (request.fail status).Sound s call := by
  cases request <;> trivial

theorem PriceRequest.unquoted_sound (request : PriceRequest) (fromCache : Bool) :
    (request.unquoted fromCache).Sound s call := by
  cases request <;> cases fromCache <;> trivial

theorem PriceStore.Sound.mono (hs : s.Sound lib) (h : s.Extends s') (hredis : s'.redis = s.redis) :
    s'.Sound lib := by
  intro key text htext
  rw [hredis] at htext
  obtain ⟨pool, hpool, hselected⟩ := hs key text htext
  exact ⟨pool, hpool, h.selected hselected⟩

theorem PriceStore.Sound.set {key : String} {pool : CachedOraclePool} (hs : s.Sound lib)
    (hpool : s.Selected key pool) : (s.set key (lib.jsonToString pool.toJson)).Sound lib := by
  intro k text htext
  simp only [PriceStore.set] at htext
  split at htext
  · rename_i hkey
    obtain rfl := Option.some.inj htext
    exact ⟨pool, rfl, hkey ▸ hpool⟩
  · exact hs k text htext

variable (hlib : ReadsEntries lib)
include hlib

/-- What is read from the cache is what was selected. -/
theorem PriceStore.Sound.selected {key text : String} {entry : CachedOraclePool}
    (hs : s.Sound lib) (htext : s.redis key = some text)
    (hentry : cachedEntry lib text = some entry) : s.Selected key entry := by
  obtain ⟨pool, rfl, hpool⟩ := hs key text htext
  have hversion : pool.version < 2 ^ 8 := by
    have := hpool.version
    omega
  rw [cachedEntry, hlib pool hpool.version, Option.bind_some,
    CachedOraclePool.fromJson_toJson hversion, Option.filter_eq_some_iff] at hentry
  exact Option.some.inj hentry.1 ▸ hpool

theorem PriceTask.Moves.sound {t : PriceTask} (hs : s.Sound lib) (ht : t.phase.Sound s t.call)
    (h : t.Moves lib s s' phase) : s'.Sound lib ∧ phase.Sound s' t.call := by
  have hextends := h.extends
  cases h with
  | hit htext hentry => exact ⟨hs, hs.selected hlib htext hentry⟩
  | select hchoice =>
      exact ⟨hs.mono hextends rfl, _, List.mem_cons_self, rfl, hchoice⟩
  | unsupported => exact ⟨hs.mono hextends rfl, PriceRequest.fail_sound _ _⟩
  | store hphase =>
      rw [hphase] at ht
      exact ⟨hs.set ht, hextends.selected ht⟩
  | unstored hphase =>
      rw [hphase] at ht
      exact ⟨hs, ht⟩
  | price hphase htoken hpair =>
      rw [hphase] at ht
      exact ⟨hs.mono hextends rfl, hextends.selected ht, _, _, htoken, hpair, List.mem_cons_self⟩
  | discover => exact ⟨hs, trivial⟩
  | fail status => exact ⟨hs, PriceRequest.fail_sound _ _⟩
  | unquoted fromCache => exact ⟨hs, PriceRequest.unquoted_sound _ _⟩

theorem pricing_sound {c : Config PriceStore PriceTask}
    (h : (pricing cfg lib).Reaches ⟨.empty, []⟩ c) :
    c.store.Sound lib ∧ ∀ t ∈ c.tasks,
      (t.request.call cfg).toOption = some t.call ∧ t.phase.Sound c.store t.call := by
  refine h.invariant (I := fun c => c.store.Sound lib ∧ ∀ t ∈ c.tasks,
    (t.request.call cfg).toOption = some t.call ∧ t.phase.Sound c.store t.call) ?_ ?_
  · constructor
    · intro key text htext
      cases htext
    · intro t ht
      cases ht
  · rintro c c' m - ⟨hs, htasks⟩ - hn
    rcases next_cases hn with ⟨t, rfl, hentry, rfl⟩ | ⟨i, a, t, s', t', rfl, hacts, rfl⟩
    · refine ⟨hs, fun u hu => ?_⟩
      rcases List.mem_append.mp hu with hu | hu
      · exact htasks u hu
      · rw [List.mem_singleton.mp hu]
        simp only [pricing, Bool.and_eq_true, decide_eq_true_eq] at hentry
        exact ⟨hentry.2, hentry.1 ▸ trivial⟩
    · obtain ⟨hcall, ht⟩ := htasks t hacts.mem
      obtain ⟨hrequest, hcall', hmoves⟩ := priceStep_cases hacts.step
      obtain ⟨hs', ht'⟩ := hmoves.sound hlib hs ht
      refine ⟨hs', fun u hu => ?_⟩
      rcases List.mem_or_eq_of_mem_set hu with hu | rfl
      · exact ⟨(htasks u hu).1, (htasks u hu).2.mono hmoves.extends⟩
      · rw [hrequest, hcall']
        exact ⟨hcall, ht'⟩

end Sound

/-! ### Where a price comes from -/

/-- The token of a query is an address before a price is asked for. -/
theorem call_getTokenUsdPrice {cfg : Settings} {query : TokenUsdPriceQuery} {call : PriceCall}
    (h : PriceRequest.call cfg (.getTokenUsdPrice query) = .ok call) :
    validateHexAddress call.tokenAddress = true ∧
      toAsciiLowercase (trim call.chain) = toAsciiLowercase (trim query.chain) ∧
      call.tokenAddress =
        toAsciiLowercase (cfg.normalizeTokenForChain (toAsciiLowercase (trim query.chain))
          query.tokenAddress) := by
  simp only [PriceRequest.call, bind_eq_ok, okOr_eq_ok, ensure_eq_ok,
    Settings.normalizeTokenForChain_trim] at h
  obtain ⟨-, -, -, htoken, chainCfg, -, -, -, oracleAddress, -, heq⟩ := h
  obtain rfl := Except.ok.inj heq
  refine ⟨htoken, ?_, rfl⟩
  rw [trim_toAsciiLowercase, trim_trim, toAsciiLowercase_toAsciiLowercase]

/-- In whatever order the requests move, and whatever the cache and the services answer
them, a price is one that the oracle gave for the token of the request and a pool that was
the best one of an answer under the same key. For a query, an answer about an address is
one about its own chain and token. -/
theorem pool_of_pricingRun {cfg : Settings} {lib : Library} (hlib : ReadsEntries lib)
    {c : Config PriceStore PriceTask} (h : (pricing cfg lib).Reaches ⟨.empty, []⟩ c)
    {t : PriceTask} (ht : t ∈ c.tasks) {pool : CachedOraclePool} {usdPrice36 : ℕ}
    (hphase : t.phase = .priced pool usdPrice36) :
    (pool.version = 2 ∨ pool.version = 3) ∧
    ∃ call answer, t.request.call cfg = .ok call ∧ c.store.Quoted call pool usdPrice36 ∧
      answer ∈ c.store.answers ∧
      chooseBestOraclePool answer.pools answer.tokenAddress = some pool ∧
      tokenPoolCacheKey answer.chain answer.tokenAddress = call.cacheKey ∧
      ∀ query, t.request = .getTokenUsdPrice query →
        validateHexAddress answer.tokenAddress = true →
        toAsciiLowercase (trim answer.chain) = toAsciiLowercase (trim query.chain) ∧
        toAsciiLowercase (trim answer.tokenAddress) =
          toAsciiLowercase (trim (cfg.normalizeTokenForChain
            (toAsciiLowercase (trim query.chain)) query.tokenAddress)) := by
  obtain ⟨-, htasks⟩ := pricing_sound hlib h
  obtain ⟨hcall, hsound⟩ := htasks t ht
  rw [hphase] at hsound
  obtain ⟨hselected, hquoted⟩ := hsound
  have hversion := hselected.version
  obtain ⟨answer, hanswer, hkey, hchoice⟩ := hselected
  have hcall := ok_of_toOption hcall
  refine ⟨hversion, t.call, answer, hcall, hquoted, hanswer, hchoice, hkey, ?_⟩
  intro query hquery haddress
  rw [hquery] at hcall
  obtain ⟨hvalid, hchain, hnormalized⟩ := call_getTokenUsdPrice hcall
  obtain ⟨hsame, hsameToken⟩ := tokenPoolCacheKey_inj haddress hvalid hkey
  constructor
  · exact hsame.trans hchain
  · rw [hsameToken, hnormalized, trim_toAsciiLowercase, toAsciiLowercase_toAsciiLowercase]

namespace PricingSample

def entryStart : List Char := "\x7b\"pool_address\":\"".toList

def entryEnd (version : ℕ) : List Char :=
  if version = 2 then "\",\"version\":2\x7d".toList else "\",\"version\":3\x7d".toList

/-- The library, on entries of the two versions. -/
def lib : Library where
  jsonFromStr text :=
    let body := text.toList.drop entryStart.length
    let poolAddress := String.ofList (body.take (body.length - 14))
    let version := if body.drop (body.length - 14) = entryEnd 2 then 2 else 3
    some (CachedOraclePool.mk poolAddress version).toJson
  jsonToString
    | .object [(_, .string poolAddress), (_, .number (.posInt version))] =>
        String.ofList (entryStart ++ poolAddress.toList ++ entryEnd version)
    | _ => ""
  uuidFromStr _ := none
  uuidToString _ := ""
  numericFromStr _ := none

theorem readsEntries : ReadsEntries lib := by
  rintro ⟨poolAddress, version⟩ hversion
  have hlength : (entryEnd version).length = 14 := by
    rcases hversion with rfl | rfl <;> rfl
  have hread : (if entryEnd version = entryEnd 2 then 2 else 3) = version := by
    rcases hversion with rfl | rfl <;> rfl
  simp only [lib, CachedOraclePool.toJson, String.toList_ofList, List.append_assoc,
    List.drop_left, List.length_append, hlength, Nat.add_sub_cancel, List.take_left, hread,
    String.ofList_toList]

def poolAddress : String := "0x4444444444444444444444444444444444444444"

/-- A pool that holds the sell token. -/
def pools : List PoolInfo := [{
  poolAddress := poolAddress
  poolType := "v2"
  dexName := "PancakeSwap"
  token0 := NativeTokens.wbnb
  token1 := poolAddress
  feeTier := 2500
  reserve0 := "1000"
  swapPathJson := "" }]

/-- A query for the native token. -/
def query : TokenUsdPriceQuery := ⟨" BSC ", NativeTokens.checksummed⟩

def task (request : PriceRequest) (call : PriceCall) : PriceTask := ⟨request, call, .resolve⟩

def call (tokenAddress : String) : PriceCall where
  rpcUrl := "http://localhost:8545"
  oracleAddress := ((Address.parse NativeTokens.wbnb).getD .zero)
  chain := "bsc"
  tokenAddress := tokenAddress

/-- A refund request stores the pool, and a query reads it. Its quote fails, and it selects
again. -/
def moves : List (Move PriceTask PriceAct) := [
  .spawn (task .createRefundRequest (call NativeTokens.wbnb)),
  .act 0 (.get true), .act 0 (.discoverPools (some pools)), .act 0 (.set true),
  .spawn (task (.getTokenUsdPrice query) (call (toAsciiLowercase NativeTokens.wbnb))),
  .act 1 (.get true), .act 1 (.getUsdPrice none), .act 1 (.discoverPools (some pools)),
  .act 0 (.getUsdPrice (some 600)), .act 1 (.set false), .act 1 (.getUsdPrice (some 601))]

def isPriced (c : Config PriceStore PriceTask) : Bool :=
  c.tasks.any fun t => t.request = .getTokenUsdPrice query && t.phase = .priced ⟨poolAddress, 2⟩ 601

end PricingSample

/-- The price of the native token is one by the pool of an answer about it. -/
theorem pool_of_pricingRun_sample :
    ∃ c, (pricing NativeTokens.settings PricingSample.lib).Reaches ⟨.empty, []⟩ c ∧
      ∃ answer ∈ c.store.answers,
        chooseBestOraclePool answer.pools answer.tokenAddress =
          some ⟨PricingSample.poolAddress, 2⟩ := by
  obtain ⟨c, hreaches, hpriced⟩ := exists_of_run (pricing NativeTokens.settings PricingSample.lib)
    ⟨.empty, []⟩ PricingSample.moves PricingSample.isPriced (by decide +kernel)
  obtain ⟨t, ht, hphase⟩ := List.any_eq_true.mp hpriced
  rw [Bool.and_eq_true, decide_eq_true_eq, decide_eq_true_eq] at hphase
  obtain ⟨-, _, answer, -, -, hanswer, hchoice, -⟩ :=
    pool_of_pricingRun PricingSample.readsEntries hreaches ht hphase.2
  exact ⟨c, hreaches, answer, hanswer, hchoice⟩

end Liquifier.Gateway
