import Liquifier.Lib.Selection
import Liquifier.SessionApi.Session
import Mathlib.Algebra.Order.Ring.Unbundled.Rat

/-!
The path from the sell token to the target token through one pool.

The pool is compared with the two tokens of the session by `eq_ignore_ascii_case`,
and the pools that could lead on are compared by `to_lowercase`. A pool that holds the
target is a path of its own, whichever of its tokens is the target: sold against
itself, a token gets a path that no pool can carry out.
-/

namespace Liquifier.SessionApi

/-! ### Paths with their estimates -/

/-- `SwapPath` with the columns that the estimates fill. -/
structure ScoredPath extends SwapPath where
  rank : ℕ
  estimatedOutput : String
  estimatedPriceImpact : ℚ
  feePercent : ℚ
  deriving DecidableEq

def estimatePriceImpact (hopCount : ℕ) (feePercent : ℚ) : ℚ :=
  (max hopCount 1 : ℕ) * (1 / 10) + feePercent * (1 / 2)

/-- What the paths need of Rust's texts and of its `f64`s. -/
structure Texts where
  /-- `str::to_lowercase`. -/
  toLowercase : String → String
  /-- An amount less a fee, printed without decimals, if the text is a finite positive
  `f64`. -/
  lessFee : String → ℚ → Option String
  toLowercase_eq : ∀ s t, eqIgnoreAsciiCase s t = true → toLowercase s = toLowercase t
  /-- No other character has a digit or the letter of a printed address for its lower case. -/
  eq_of_toLowercase : ∀ s (address : Address), toLowercase s = toLowercase address.debug →
    eqIgnoreAsciiCase s address.debug = true

namespace Texts

variable (texts : Texts)

/-- The texts are the same ignoring case. -/
def Same (s t : String) : Prop := texts.toLowercase s = texts.toLowercase t

instance (s t : String) : Decidable (texts.Same s t) :=
  inferInstanceAs (Decidable (texts.toLowercase s = texts.toLowercase t))

def estimateOutput (amountHint : Option String) (feePercent : ℚ) : String :=
  match (amountHint.map trim).filter (· ≠ "") with
  | none => "0"
  | some rawAmount => (texts.lessFee rawAmount feePercent).getD rawAmount

/-- The pool has the two tokens, in either order. -/
def joins (otherToken targetToken : String) (pool : DiscoveredPool) : Bool :=
  let otherLower := texts.toLowercase otherToken
  let targetLower := texts.toLowercase targetToken
  let token0 := texts.toLowercase pool.token0
  let token1 := texts.toLowercase pool.token1
  (token0 = otherLower && token1 = targetLower) || (token1 = otherLower && token0 = targetLower)

section Build

variable (poolAddress token0 token1 : String) (feeTier : ℕ) (sellToken targetToken : String)
  (targetPools : List DiscoveredPool) (amountHint : Option String)

def directPath : ScoredPath where
  rank := 0
  hops := [poolAddress]
  hopTokens := [sellToken, targetToken]
  estimatedOutput := texts.estimateOutput amountHint (feePercentFromTier feeTier)
  estimatedPriceImpact := estimatePriceImpact 1 (feePercentFromTier feeTier)
  feePercent := feePercentFromTier feeTier

def bridgedPath (otherToken : String) (bridgePool : DiscoveredPool) : ScoredPath :=
  let totalFeePercent := feePercentFromTier feeTier + feePercentFromTier bridgePool.feeTier
  { rank := 0
    hops := [poolAddress, bridgePool.poolAddress]
    hopTokens := [sellToken, otherToken, targetToken]
    estimatedOutput := texts.estimateOutput amountHint totalFeePercent
    estimatedPriceImpact := estimatePriceImpact 2 totalFeePercent
    feePercent := totalFeePercent }

/-- `build_swap_path`. -/
def buildSwapPath : Option ScoredPath := do
  let otherToken ← otherTokenInPool sellToken token0 token1
  if eqIgnoreAsciiCase token0 targetToken || eqIgnoreAsciiCase token1 targetToken then
    some (texts.directPath poolAddress feeTier sellToken targetToken amountHint)
  else
    let bridgePool ← minByFee (targetPools.filter (texts.joins otherToken targetToken))
    some (texts.bridgedPath poolAddress feeTier sellToken targetToken amountHint otherToken
      bridgePool)

/-- Where `to_lowercase` changes ASCII letters only, this is the path of `compute_pool_path`
with its estimates. -/
theorem buildSwapPath_toSwapPath (hlower : ∀ s, texts.toLowercase s = toAsciiLowercase s) :
    (texts.buildSwapPath poolAddress token0 token1 feeTier sellToken targetToken targetPools
        amountHint).map (·.toSwapPath) =
      SessionApi.buildSwapPath poolAddress token0 token1 sellToken targetToken targetPools := by
  have hjoins (otherToken : String) : texts.joins otherToken targetToken =
      fun pool => (toAsciiLowercase pool.token0 = toAsciiLowercase otherToken &&
          toAsciiLowercase pool.token1 = toAsciiLowercase targetToken) ||
        (toAsciiLowercase pool.token1 = toAsciiLowercase otherToken &&
          toAsciiLowercase pool.token0 = toAsciiLowercase targetToken) := by
    funext pool
    simp only [joins, hlower]
  simp only [buildSwapPath, SessionApi.buildSwapPath, Option.bind_eq_bind, Option.map_bind]
  refine Option.bind_congr fun otherToken _ => ?_
  simp only [Function.comp_apply, hjoins]
  split
  · rfl
  · rw [Option.map_bind]
    rfl

end Build

end Texts

/-! ### The cheapest bridge -/

theorem minByFee_eq_none {pools : List DiscoveredPool} : minByFee pools = none ↔ pools = [] := by
  cases pools with
  | nil => exact iff_of_true rfl rfl
  | cons pool pools => exact iff_of_false (Option.some_ne_none _) (List.cons_ne_nil pool pools)

theorem isFirstLeast_of_minByFee {pools : List DiscoveredPool} {pool : DiscoveredPool}
    (h : minByFee pools = some pool) :
    Selection.IsFirstLeast (fun p => feePercentFromTier p.feeTier) pools pool := by
  cases pools with
  | nil => cases h
  | cons first pools =>
      cases h
      exact Selection.isFirstLeast_foldl first pools

/-! ### The three cases of a path -/

/-- The pool of the two tokens holds the token. -/
def Holds (token0 token1 token : String) : Prop :=
  eqIgnoreAsciiCase token0 token = true ∨ eqIgnoreAsciiCase token1 token = true

/-- The token of the pool that is not sold. -/
def otherToken (sellToken token0 token1 : String) : String :=
  if eqIgnoreAsciiCase token0 sellToken then token1 else token0

theorem otherTokenInPool_of_holds {sellToken token0 token1 : String}
    (h : Holds token0 token1 sellToken) :
    otherTokenInPool sellToken token0 token1 = some (otherToken sellToken token0 token1) := by
  rw [otherTokenInPool, otherToken]
  split
  · rfl
  · rw [if_pos (h.resolve_left ‹_›)]

theorem otherTokenInPool_of_not_holds {sellToken token0 token1 : String}
    (h : ¬ Holds token0 token1 sellToken) : otherTokenInPool sellToken token0 token1 = none := by
  rw [Holds, not_or] at h
  rw [otherTokenInPool, if_neg h.1, if_neg h.2]

section Cases

variable (texts : Texts) {poolAddress token0 token1 : String} {feeTier : ℕ}
  {sellToken targetToken : String} {targetPools : List DiscoveredPool}
  {amountHint : Option String}

theorem buildSwapPath_of_not_holds (h : ¬ Holds token0 token1 sellToken) :
    texts.buildSwapPath poolAddress token0 token1 feeTier sellToken targetToken targetPools
      amountHint = none := by
  rw [Texts.buildSwapPath, otherTokenInPool_of_not_holds h]
  rfl

theorem buildSwapPath_direct (hsell : Holds token0 token1 sellToken)
    (htarget : Holds token0 token1 targetToken) :
    texts.buildSwapPath poolAddress token0 token1 feeTier sellToken targetToken targetPools
        amountHint =
      some (texts.directPath poolAddress feeTier sellToken targetToken amountHint) := by
  rw [Texts.buildSwapPath, otherTokenInPool_of_holds hsell]
  exact if_pos (Bool.or_eq_true_iff.mpr htarget)

theorem buildSwapPath_bridged (hsell : Holds token0 token1 sellToken)
    (htarget : ¬ Holds token0 token1 targetToken) :
    texts.buildSwapPath poolAddress token0 token1 feeTier sellToken targetToken targetPools
        amountHint =
      (minByFee (targetPools.filter
        (texts.joins (otherToken sellToken token0 token1) targetToken))).map
          (texts.bridgedPath poolAddress feeTier sellToken targetToken amountHint
            (otherToken sellToken token0 token1)) := by
  have hdirect : ¬ (eqIgnoreAsciiCase token0 targetToken ||
      eqIgnoreAsciiCase token1 targetToken) = true := fun h =>
    htarget (Bool.or_eq_true_iff.mp h)
  rw [Texts.buildSwapPath, otherTokenInPool_of_holds hsell, Option.map_eq_bind]
  exact if_neg hdirect

/-- A path is over the pool alone or over one of the target pools. -/
theorem buildSwapPath_cases {path : ScoredPath}
    (h : texts.buildSwapPath poolAddress token0 token1 feeTier sellToken targetToken targetPools
      amountHint = some path) :
    path = texts.directPath poolAddress feeTier sellToken targetToken amountHint ∨
      ∃ bridgePool ∈ targetPools, path = texts.bridgedPath poolAddress feeTier sellToken
        targetToken amountHint (otherToken sellToken token0 token1) bridgePool := by
  by_cases hsell : Holds token0 token1 sellToken
  · by_cases htarget : Holds token0 token1 targetToken
    · rw [buildSwapPath_direct texts hsell htarget] at h
      exact .inl (Option.some.inj h).symm
    · rw [buildSwapPath_bridged texts hsell htarget] at h
      obtain ⟨bridgePool, hbridge, rfl⟩ := Option.map_eq_some_iff.mp h
      obtain ⟨before, after, rfl, _⟩ := (isFirstLeast_of_minByFee hbridge).of_filter
      exact .inr ⟨bridgePool, List.mem_append_right before List.mem_cons_self, rfl⟩
  · rw [buildSwapPath_of_not_holds texts hsell] at h
    cases h

/-- The first of the pools that lead on from one token to the other with the least
fee. -/
def BestBridge (otherToken targetToken : String) (targetPools : List DiscoveredPool)
    (bridgePool : DiscoveredPool) : Prop :=
  ∃ before after, targetPools = before ++ bridgePool :: after ∧
    texts.joins otherToken targetToken bridgePool = true ∧
    (∀ pool ∈ before, texts.joins otherToken targetToken pool = true →
      feePercentFromTier bridgePool.feeTier < feePercentFromTier pool.feeTier) ∧
    ∀ pool ∈ after, texts.joins otherToken targetToken pool = true →
      feePercentFromTier bridgePool.feeTier ≤ feePercentFromTier pool.feeTier

/-- A path exists if and only if the pool holds the sell token and holds the target
or is joined to it. The pool alone is taken where it holds both, and else the first of
the pools that lead on with the least fee, so that no route costs less. -/
theorem buildSwapPath_best :
    ((texts.buildSwapPath poolAddress token0 token1 feeTier sellToken targetToken targetPools
        amountHint).isSome ↔
      Holds token0 token1 sellToken ∧ (Holds token0 token1 targetToken ∨
        ∃ pool ∈ targetPools,
          texts.joins (otherToken sellToken token0 token1) targetToken pool = true)) ∧
    (Holds token0 token1 sellToken → Holds token0 token1 targetToken →
      texts.buildSwapPath poolAddress token0 token1 feeTier sellToken targetToken targetPools
        amountHint =
          some (texts.directPath poolAddress feeTier sellToken targetToken amountHint)) ∧
    (¬ Holds token0 token1 targetToken → ∀ path ∈ texts.buildSwapPath poolAddress token0 token1
        feeTier sellToken targetToken targetPools amountHint,
      (∃ bridgePool,
        BestBridge texts (otherToken sellToken token0 token1) targetToken targetPools bridgePool ∧
        path = texts.bridgedPath poolAddress feeTier sellToken targetToken amountHint
          (otherToken sellToken token0 token1) bridgePool) ∧
      ∀ pool ∈ targetPools,
        texts.joins (otherToken sellToken token0 token1) targetToken pool = true →
          path.feePercent ≤ feePercentFromTier feeTier + feePercentFromTier pool.feeTier) := by
  refine ⟨?_, buildSwapPath_direct texts, ?_⟩
  · by_cases hsell : Holds token0 token1 sellToken
    · by_cases htarget : Holds token0 token1 targetToken
      · rw [buildSwapPath_direct texts hsell htarget]
        exact iff_of_true rfl ⟨hsell, .inl htarget⟩
      · rw [buildSwapPath_bridged texts hsell htarget, Option.isSome_map,
          ← Option.ne_none_iff_isSome, ne_eq, minByFee_eq_none, List.filter_eq_nil_iff]
        simp only [hsell, htarget, true_and, false_or, not_forall, not_not, exists_prop]
    · rw [buildSwapPath_of_not_holds texts hsell]
      exact iff_of_false Bool.false_ne_true fun h => hsell h.1
  · intro htarget path hpath
    by_cases hsell : Holds token0 token1 sellToken
    · rw [buildSwapPath_bridged texts hsell htarget] at hpath
      obtain ⟨bridgePool, hbridge, rfl⟩ := Option.map_eq_some_iff.mp hpath
      have hleast := isFirstLeast_of_minByFee hbridge
      refine ⟨⟨bridgePool, hleast.of_filter, rfl⟩, ?_⟩
      intro pool hpool hjoins
      exact add_le_add_right (hleast.le (List.mem_filter.mpr ⟨hpool, hjoins⟩)) _
    · rw [buildSwapPath_of_not_holds texts hsell] at hpath
      exact absurd hpath (Option.not_mem_none path)

/-! ### Routes -/

/-- A pool with the two tokens that it exchanges. -/
structure Hop where
  address : String
  token0 : String
  token1 : String

def DiscoveredPool.hop (pool : DiscoveredPool) : Hop := ⟨pool.poolAddress, pool.token0, pool.token1⟩

/-- The hop exchanges the one token for the other. -/
def Hop.Exchanges (hop : Hop) (tokenIn tokenOut : String) : Prop :=
  (texts.Same hop.token0 tokenIn ∧ texts.Same hop.token1 tokenOut) ∨
    (texts.Same hop.token1 tokenIn ∧ texts.Same hop.token0 tokenOut)

/-- The path leads from the sell token to the target token, over the given pool first
and then over target pools, and each hop exchanges the tokens on its two sides. -/
structure IsRoute (first : Hop) (sellToken targetToken : String)
    (targetPools : List DiscoveredPool) (path : ScoredPath) : Prop where
  hops : ∃ bridges : List Hop, path.hops = (first :: bridges).map Hop.address ∧
    (∀ hop ∈ bridges, ∃ pool ∈ targetPools, hop = pool.hop) ∧
    List.Forall₂ (fun hop (sides : String × String) => hop.Exchanges texts sides.1 sides.2)
      (first :: bridges) (path.hopTokens.zip path.hopTokens.tail)
  length : path.hopTokens.length = path.hops.length + 1
  sell : path.hopTokens.head? = some sellToken
  target : path.hopTokens.getLast? = some targetToken

theorem joins_iff_exchanges {otherToken targetToken : String} {pool : DiscoveredPool} :
    texts.joins otherToken targetToken pool = true ↔
      pool.hop.Exchanges texts otherToken targetToken := by
  simp [Texts.joins, Hop.Exchanges, Texts.Same, DiscoveredPool.hop]

theorem exchanges_otherToken (h : Holds token0 token1 sellToken) :
    Hop.Exchanges texts ⟨poolAddress, token0, token1⟩ sellToken
      (otherToken sellToken token0 token1) := by
  rw [otherToken]
  split
  · exact .inl ⟨texts.toLowercase_eq _ _ ‹_›, rfl⟩
  · exact .inr ⟨texts.toLowercase_eq _ _ (h.resolve_left ‹_›), rfl⟩

theorem exchanges_direct (hsell : Holds token0 token1 sellToken)
    (htarget : Holds token0 token1 targetToken)
    (hne : ¬ eqIgnoreAsciiCase sellToken targetToken = true) :
    Hop.Exchanges texts ⟨poolAddress, token0, token1⟩ sellToken targetToken := by
  have hboth : ∀ token, eqIgnoreAsciiCase token sellToken = true →
      ¬ eqIgnoreAsciiCase token targetToken = true := fun _ h h' =>
    hne (eqIgnoreAsciiCase_trans (eqIgnoreAsciiCase_symm h) h')
  rcases hsell with hsell | hsell
  · exact .inl ⟨texts.toLowercase_eq _ _ hsell,
      texts.toLowercase_eq _ _ (htarget.resolve_left (hboth token0 hsell))⟩
  · exact .inr ⟨texts.toLowercase_eq _ _ hsell,
      texts.toLowercase_eq _ _ (htarget.resolve_right (hboth token1 hsell))⟩

theorem isRoute_directPath (h : Hop.Exchanges texts ⟨poolAddress, token0, token1⟩ sellToken
    targetToken) :
    IsRoute texts ⟨poolAddress, token0, token1⟩ sellToken targetToken targetPools
      (texts.directPath poolAddress feeTier sellToken targetToken amountHint) where
  hops := ⟨[], rfl, fun _ h => absurd h List.not_mem_nil, .cons h .nil⟩
  length := rfl
  sell := rfl
  target := rfl

theorem isRoute_bridgedPath {bridgePool : DiscoveredPool} (hsell : Holds token0 token1 sellToken)
    (hmem : bridgePool ∈ targetPools)
    (hjoins : texts.joins (otherToken sellToken token0 token1) targetToken bridgePool = true) :
    IsRoute texts ⟨poolAddress, token0, token1⟩ sellToken targetToken targetPools
      (texts.bridgedPath poolAddress feeTier sellToken targetToken amountHint
        (otherToken sellToken token0 token1) bridgePool) where
  hops := ⟨[bridgePool.hop], rfl, fun _ h => ⟨bridgePool, hmem, List.mem_singleton.mp h⟩,
    .cons (exchanges_otherToken texts hsell)
      (.cons ((joins_iff_exchanges texts).mp hjoins) .nil)⟩
  length := rfl
  sell := rfl
  target := rfl

/-- The path from a token to itself over one hop. -/
theorem not_isRoute_directPath (hdiff : ¬ texts.Same token0 token1)
    (hsame : texts.Same sellToken targetToken) :
    ¬ IsRoute texts ⟨poolAddress, token0, token1⟩ sellToken targetToken targetPools
      (texts.directPath poolAddress feeTier sellToken targetToken amountHint) := by
  intro h
  obtain ⟨bridges, _, _, hsides⟩ := h.hops
  obtain ⟨hsell, htarget⟩ | ⟨hsell, htarget⟩ := (List.forall₂_cons.mp hsides).1
  · exact hdiff (hsell.trans (hsame.trans htarget.symm))
  · exact hdiff (htarget.trans (hsame.symm.trans hsell.symm))

/-- Every path of a pool with two different tokens is a route if and only if the pool
does not hold a token that is sold against itself. -/
theorem buildSwapPath_isRoute_iff (hdiff : ¬ texts.Same token0 token1) :
    (∀ path ∈ texts.buildSwapPath poolAddress token0 token1 feeTier sellToken targetToken
        targetPools amountHint,
      IsRoute texts ⟨poolAddress, token0, token1⟩ sellToken targetToken targetPools path) ↔
    ¬ (Holds token0 token1 sellToken ∧ eqIgnoreAsciiCase sellToken targetToken = true) := by
  constructor
  · rintro h ⟨hsell, hsame⟩
    have htarget : Holds token0 token1 targetToken :=
      hsell.imp (eqIgnoreAsciiCase_trans · hsame) (eqIgnoreAsciiCase_trans · hsame)
    exact not_isRoute_directPath texts hdiff (texts.toLowercase_eq _ _ hsame)
      (h _ (buildSwapPath_direct texts hsell htarget))
  · intro hne path hpath
    by_cases hsell : Holds token0 token1 sellToken
    · by_cases htarget : Holds token0 token1 targetToken
      · rw [buildSwapPath_direct texts hsell htarget] at hpath
        cases hpath
        exact isRoute_directPath texts
          (exchanges_direct texts hsell htarget fun h => hne ⟨hsell, h⟩)
      · rw [buildSwapPath_bridged texts hsell htarget] at hpath
        obtain ⟨bridgePool, hbridge, rfl⟩ := Option.map_eq_some_iff.mp hpath
        obtain ⟨before, after, rfl, hjoins, _⟩ := (isFirstLeast_of_minByFee hbridge).of_filter
        exact isRoute_bridgedPath texts hsell
          (List.mem_append_right before List.mem_cons_self) hjoins
    · rw [buildSwapPath_of_not_holds texts hsell] at hpath
      exact absurd hpath (Option.not_mem_none path)

end Cases

/-! ### A token sold against itself -/

namespace Sample

/-- Texts of ASCII characters, without an amount. -/
def asciiTexts : Texts where
  toLowercase := toAsciiLowercase
  lessFee := fun _ _ => none
  toLowercase_eq := fun _ _ h => congrArg String.ofList (eqIgnoreAsciiCase_iff.mp h)
  eq_of_toLowercase := fun _ _ h => eqIgnoreAsciiCase_of_lowercase h

def bridge : DiscoveredPool where
  poolAddress := "0xBB"
  poolType := .v3
  dexName := "dex"
  token0 := "0xC0"
  token1 := "0xB0"
  feeTier := 500
  reserve0 := none
  reserve1 := none
  liquidity := none
  balance0 := none
  balance1 := none

end Sample

open Sample in
/-- The pool of `0xa0` and `0xb0` is to exchange the first for itself. -/
theorem self_path_not_route :
    ¬ asciiTexts.Same "0xa0" "0xb0" ∧
      ∃ path, asciiTexts.buildSwapPath "0xaa" "0xa0" "0xb0" 3000 "0xa0" "0xa0" [] none = some path ∧
        path.hops = ["0xaa"] ∧ path.hopTokens = ["0xa0", "0xa0"] ∧
        ¬ IsRoute asciiTexts ⟨"0xaa", "0xa0", "0xb0"⟩ "0xa0" "0xa0" [] path :=
  ⟨by decide, _, buildSwapPath_direct asciiTexts (.inl (by decide)) (.inl (by decide)), rfl, rfl,
    not_isRoute_directPath asciiTexts (by decide) rfl⟩

open Sample in
theorem bridged_path_route :
    ¬ asciiTexts.Same "0xa0" "0xb0" ∧
      ((∀ path ∈ asciiTexts.buildSwapPath "0xaa" "0xa0" "0xb0" 3000 "0xA0" "0xc0" [bridge] none,
        IsRoute asciiTexts ⟨"0xaa", "0xa0", "0xb0"⟩ "0xA0" "0xc0" [bridge] path) ↔
        ¬ (Holds "0xa0" "0xb0" "0xA0" ∧ eqIgnoreAsciiCase "0xA0" "0xc0" = true)) ∧
      ∃ path, asciiTexts.buildSwapPath "0xaa" "0xa0" "0xb0" 3000 "0xA0" "0xc0" [bridge] none =
          some path ∧ path.hopTokens = ["0xA0", "0xb0", "0xc0"] :=
  ⟨by decide, buildSwapPath_isRoute_iff asciiTexts (by decide), _, by rfl, by decide⟩

end Liquifier.SessionApi
