import Liquifier.SessionApi.SwapPaths
import Mathlib.Data.List.Sort
import Mathlib.Tactic.Linarith

/-!
The answer of `get_swap_paths`: of all paths over the pools of the sell token the five
best, each route once.

Routes are told apart by a text that joins their parts with commas and a bar, and of
one route the path that was found first stays.
-/

namespace Liquifier.SessionApi

structure GetSwapPathsRequest where
  chain : String
  sellToken : String
  targetToken : String
  amount : String

/-- What `compare_path_score` compares. -/
def pathScore (path : ScoredPath) : ℚ := path.estimatedPriceImpact + path.feePercent

/-- `texts.join(",")`. -/
def joinCommas (texts : List String) : List Char := [','].intercalate (texts.map String.toList)

/-- `format!("{}|{}", path.hops.join(","), path.hop_tokens.join(","))`. -/
def pathKey (path : ScoredPath) : String :=
  String.ofList (['|'].intercalate [joinCommas path.hops, joinCommas path.hopTokens])

def dedupePaths (paths : List ScoredPath) : List ScoredPath := Selection.dedupBy pathKey paths

/-- The paths that are answered, with their ranks. -/
def rankPaths (paths : List ScoredPath) : List ScoredPath :=
  (((dedupePaths paths).insertionSort fun a b => pathScore a ≤ pathScore b).take 5).mapIdx
    fun idx path => { path with rank := idx + 1 }

section Request

variable (texts : Texts)

/-- The paths over the sell pools, in the order of the pools. -/
def candidatePaths (sellPools targetPools : List DiscoveredPool) (sellToken targetToken : String)
    (amountHint : Option String) : List ScoredPath :=
  sellPools.filterMap fun pool =>
    texts.buildSwapPath pool.poolAddress pool.token0 pool.token1 pool.feeTier sellToken targetToken
      targetPools amountHint

def getSwapPaths (cfg : Settings) (provider : Provider) (req : GetSwapPathsRequest) :
    Except Status (List ScoredPath) := do
  let sellToken := cfg.normalizeTokenForChain req.chain req.sellToken
  let targetToken := cfg.normalizeTokenForChain req.chain req.targetToken
  let sellPools ← okOr (.internal "Pool discovery failed")
    (discoverPools cfg provider req.chain sellToken)
  let targetPools ← okOr (.internal "Pool discovery failed")
    (if eqIgnoreAsciiCase sellToken targetToken then some []
      else discoverPools cfg provider req.chain targetToken)
  return rankPaths (candidatePaths texts sellPools targetPools sellToken targetToken req.amount)

end Request

/-! ### Routes and their keys -/

/-- The pools of a path, and its tokens. -/
def ScoredPath.route (path : ScoredPath) : List String × List String := (path.hops, path.hopTokens)

/-- The text has none of the two separators. -/
def Plain (text : String) : Prop := ',' ∉ text.toList ∧ '|' ∉ text.toList

instance (text : String) : Decidable (Plain text) :=
  inferInstanceAs (Decidable (',' ∉ text.toList ∧ '|' ∉ text.toList))

structure ScoredPath.IsPlain (path : ScoredPath) : Prop where
  hops : ∀ text ∈ path.hops, Plain text
  hopTokens : ∀ text ∈ path.hopTokens, Plain text
  hops_ne : path.hops ≠ []
  hopTokens_ne : path.hopTokens ≠ []

theorem splitOn_joinCommas {texts : List String} (hplain : ∀ text ∈ texts, Plain text)
    (hne : texts ≠ []) : ((joinCommas texts).splitOn ',').map String.ofList = texts := by
  have hsep : ∀ cs ∈ texts.map String.toList, ',' ∉ cs := by
    intro cs hcs
    obtain ⟨text, htext, rfl⟩ := List.mem_map.mp hcs
    exact (hplain text htext).1
  rw [joinCommas, List.splitOn_intercalate ',' hsep (by simpa using hne), List.map_map]
  simp

theorem joinCommas_injective {texts texts' : List String} (hplain : ∀ text ∈ texts, Plain text)
    (hplain' : ∀ text ∈ texts', Plain text) (hne : texts ≠ []) (hne' : texts' ≠ [])
    (h : joinCommas texts = joinCommas texts') : texts = texts' := by
  rw [← splitOn_joinCommas hplain hne, h, splitOn_joinCommas hplain' hne']

theorem joinCommas_plain {texts : List String} (hplain : ∀ text ∈ texts, Plain text) :
    '|' ∉ joinCommas texts := by
  rw [joinCommas]
  induction texts with
  | nil => exact List.not_mem_nil
  | cons text texts ih =>
      have htext : '|' ∉ text.toList := (hplain text List.mem_cons_self).2
      have hrest := ih fun t ht => hplain t (List.mem_cons_of_mem text ht)
      cases texts with
      | nil => simpa using htext
      | cons next texts =>
          rw [List.map_cons, List.map_cons, List.intercalate_cons_cons]
          simp only [List.mem_append, List.mem_singleton, not_or]
          exact ⟨⟨htext, by decide⟩, hrest⟩

theorem pathKey_eq_iff {p q : ScoredPath} (hp : p.IsPlain) (hq : q.IsPlain) :
    pathKey p = pathKey q ↔ p.route = q.route := by
  constructor
  · intro h
    have hparts : ∀ {r : ScoredPath}, r.IsPlain →
        (['|'].intercalate [joinCommas r.hops, joinCommas r.hopTokens]).splitOn '|' =
          [joinCommas r.hops, joinCommas r.hopTokens] := by
      intro r hr
      refine List.splitOn_intercalate '|' ?_ (List.cons_ne_nil _ _)
      rintro cs (_ | ⟨_, _ | ⟨_, hnil⟩⟩)
      · exact joinCommas_plain hr.hops
      · exact joinCommas_plain hr.hopTokens
      · cases hnil
    have hsplit := congrArg (List.splitOn '|') (String.ofList_inj.mp h)
    rw [hparts hp, hparts hq, List.cons.injEq, List.cons.injEq] at hsplit
    exact Prod.ext (joinCommas_injective hp.hops hq.hops hp.hops_ne hq.hops_ne hsplit.1)
      (joinCommas_injective hp.hopTokens hq.hopTokens hp.hopTokens_ne hq.hopTokens_ne hsplit.2.1)
  · intro h
    obtain ⟨hhops, htokens⟩ := Prod.mk.inj h
    rw [pathKey, pathKey, hhops, htokens]

/-! ### The candidates -/

structure DiscoveredPool.IsPlain (pool : DiscoveredPool) : Prop where
  poolAddress : Plain pool.poolAddress
  token0 : Plain pool.token0
  token1 : Plain pool.token1

instance (pool : DiscoveredPool) : Decidable pool.IsPlain :=
  decidable_of_iff (Plain pool.poolAddress ∧ Plain pool.token0 ∧ Plain pool.token1)
    ⟨fun ⟨h, h0, h1⟩ => ⟨h, h0, h1⟩, fun ⟨h, h0, h1⟩ => ⟨h, h0, h1⟩⟩

section Candidates

variable {texts : Texts} {sellPools targetPools : List DiscoveredPool}
  {sellToken targetToken : String} {amountHint : Option String}

theorem isPlain_of_mem_candidatePaths (hsell : Plain sellToken) (htarget : Plain targetToken)
    (hsellPools : ∀ pool ∈ sellPools, pool.IsPlain)
    (htargetPools : ∀ pool ∈ targetPools, pool.IsPlain) {path : ScoredPath}
    (hpath : path ∈ candidatePaths texts sellPools targetPools sellToken targetToken amountHint) :
    path.IsPlain := by
  obtain ⟨pool, hpool, hbuild⟩ := List.mem_filterMap.mp hpath
  have hfirst := hsellPools pool hpool
  rcases buildSwapPath_cases texts hbuild with rfl | ⟨bridgePool, hbridge, rfl⟩
  · exact {
      hops := List.forall_mem_singleton.mpr hfirst.poolAddress
      hopTokens := List.forall_mem_cons.mpr ⟨hsell, List.forall_mem_singleton.mpr htarget⟩
      hops_ne := List.cons_ne_nil _ _
      hopTokens_ne := List.cons_ne_nil _ _ }
  · have hother : Plain (otherToken sellToken pool.token0 pool.token1) := by
      rw [otherToken]
      split
      · exact hfirst.token1
      · exact hfirst.token0
    exact {
      hops := List.forall_mem_cons.mpr ⟨hfirst.poolAddress,
        List.forall_mem_singleton.mpr (htargetPools bridgePool hbridge).poolAddress⟩
      hopTokens := List.forall_mem_cons.mpr ⟨hsell,
        List.forall_mem_cons.mpr ⟨hother, List.forall_mem_singleton.mpr htarget⟩⟩
      hops_ne := List.cons_ne_nil _ _
      hopTokens_ne := List.cons_ne_nil _ _ }

end Candidates

/-! ### The answer -/

/-- The answer has the best of the candidates, where of each route the first one
counts. -/
structure IsBest (candidates answer : List ScoredPath) : Prop where
  length_le : answer.length ≤ 5
  distinct : answer.Pairwise fun p q => p.route ≠ q.route
  ranks : answer.map (·.rank) = List.range' 1 answer.length
  sorted : answer.Pairwise fun p q => pathScore p ≤ pathScore q
  chosen : ∀ p ∈ answer, ∃ c, Selection.IsFirst ScoredPath.route candidates c ∧
    p = { c with rank := p.rank }
  /-- A route is left out of a full answer only, and it scores at least as much as all
  that are answered. -/
  left : ∀ c, Selection.IsFirst ScoredPath.route candidates c →
    (∃ rank, { c with rank } ∈ answer) ∨
      answer.length = 5 ∧ ∀ p ∈ answer, pathScore p ≤ pathScore c
  all : (candidates.map ScoredPath.route).dedup.length < 6 →
    ∀ c, Selection.IsFirst ScoredPath.route candidates c → ∃ rank, { c with rank } ∈ answer

instance : Std.Total fun a b : ScoredPath => pathScore a ≤ pathScore b :=
  ⟨fun a b => le_total (pathScore a) (pathScore b)⟩

instance : IsTrans ScoredPath fun a b => pathScore a ≤ pathScore b :=
  ⟨fun _ _ _ => le_trans⟩

section Ranks

variable {front : List ScoredPath}

/-- A rank for each path, from one on. -/
abbrev withRanks (front : List ScoredPath) : List ScoredPath :=
  front.mapIdx fun idx path => { path with rank := idx + 1 }

/-- The ranks change nothing else. -/
theorem map_withRanks {α : Type} (g : ScoredPath → α)
    (hg : ∀ path rank, g { path with rank } = g path) : (withRanks front).map g = front.map g := by
  refine List.ext_getElem (by simp) fun i h h' => ?_
  simp [hg]

theorem ranks_withRanks : (withRanks front).map (·.rank) = List.range' 1 (withRanks front).length := by
  refine List.ext_getElem (by simp) fun i h h' => ?_
  simp [Nat.add_comm]

theorem pairwise_withRanks {α : Type} (r : α → α → Prop) (g : ScoredPath → α)
    (hg : ∀ path rank, g { path with rank } = g path)
    (h : front.Pairwise fun p q => r (g p) (g q)) :
    (withRanks front).Pairwise fun p q => r (g p) (g q) := by
  rw [← List.pairwise_map, map_withRanks g hg]
  exact List.pairwise_map.mpr h

theorem mem_withRanks {p : ScoredPath} (h : p ∈ withRanks front) :
    ∃ c ∈ front, p = { c with rank := p.rank } := by
  obtain ⟨i, hi, rfl⟩ := List.mem_mapIdx.mp h
  exact ⟨front[i], List.getElem_mem hi, rfl⟩

theorem exists_mem_withRanks {c : ScoredPath} (h : c ∈ front) :
    ∃ rank, { c with rank } ∈ withRanks front := by
  obtain ⟨i, hi, rfl⟩ := List.mem_iff_getElem.mp h
  exact ⟨i + 1, List.mem_mapIdx.mpr ⟨i, hi, rfl⟩⟩

end Ranks

theorem rankPaths_isBest {paths : List ScoredPath} (hplain : ∀ p ∈ paths, p.IsPlain) :
    IsBest paths (rankPaths paths) := by
  have hdedupe : dedupePaths paths = Selection.dedupBy ScoredPath.route paths :=
    Selection.dedupBy_congr fun p hp q hq => pathKey_eq_iff (hplain p hp) (hplain q hq)
  let best := (dedupePaths paths).insertionSort fun a b => pathScore a ≤ pathScore b
  have hsorted : best.Pairwise fun a b => pathScore a ≤ pathScore b :=
    List.pairwise_insertionSort _ _
  have hmem : ∀ {p}, p ∈ best ↔ Selection.IsFirst ScoredPath.route paths p := by
    intro p
    rw [List.mem_insertionSort, hdedupe, Selection.mem_dedupBy]
  have hdistinct : best.Pairwise fun p q => p.route ≠ q.route := by
    refine ((List.perm_insertionSort _ _).symm.pairwise_iff fun h => Ne.symm h).mp ?_
    rw [hdedupe]
    exact Selection.pairwise_dedupBy paths
  have hanswer : rankPaths paths = withRanks (best.take 5) := rfl
  rw [hanswer]
  constructor
  · rw [List.length_mapIdx]
    exact List.length_take_le 5 best
  · exact pairwise_withRanks (· ≠ ·) ScoredPath.route (fun _ _ => rfl) (hdistinct.take)
  · exact ranks_withRanks
  · exact pairwise_withRanks (· ≤ ·) pathScore (fun _ _ => rfl) (hsorted.take)
  · intro p hp
    obtain ⟨c, hc, heq⟩ := mem_withRanks hp
    exact ⟨c, hmem.mp (List.mem_of_mem_take hc), heq⟩
  · intro c hc
    by_cases hfront : c ∈ best.take 5
    · exact .inl (exists_mem_withRanks hfront)
    · obtain ⟨hfull, hle⟩ := Selection.rel_of_notMem_take hsorted (hmem.mpr hc) hfront
      refine .inr ⟨by rw [List.length_mapIdx, hfull], fun p hp => ?_⟩
      obtain ⟨c', hc', heq⟩ := mem_withRanks hp
      rw [heq]
      exact hle c' hc'
  · intro hfew c hc
    have hlength : best.length ≤ 5 := by
      rw [List.length_insertionSort, hdedupe, Selection.length_dedupBy]
      exact Nat.le_of_lt_succ hfew
    refine exists_mem_withRanks ?_
    rw [List.take_of_length_le hlength]
    exact hmem.mpr hc

section Answer

variable (texts : Texts) {sellPools targetPools : List DiscoveredPool}
  {sellToken targetToken : String} (amountHint : Option String)

/-- For all lists of pools the paths that are answered are the best of the candidates. -/
theorem rankPaths_candidatePaths (hsell : Plain sellToken) (htarget : Plain targetToken)
    (hsellPools : ∀ pool ∈ sellPools, pool.IsPlain)
    (htargetPools : ∀ pool ∈ targetPools, pool.IsPlain) :
    IsBest (candidatePaths texts sellPools targetPools sellToken targetToken amountHint)
      (rankPaths (candidatePaths texts sellPools targetPools sellToken targetToken amountHint)) :=
  rankPaths_isBest fun _ hp =>
    isPlain_of_mem_candidatePaths hsell htarget hsellPools htargetPools hp

end Answer

/-! ### The texts of a discovery -/

theorem hexValue_of_mem_decodeHex {cs : List Char} {bytes : List UInt8} {c : Char}
    (h : decodeHex cs = some bytes) (hc : c ∈ cs) : hexValue c ≠ none := by
  induction cs using decodeHex.induct generalizing bytes with
  | case1 => exact absurd hc List.not_mem_nil
  | case2 => cases h
  | case3 hi lo cs ih =>
      simp only [decodeHex, Option.bind_eq_bind, Option.bind_eq_some_iff] at h
      obtain ⟨v, hv, w, hw, rest, hrest, _⟩ := h
      rcases List.mem_cons.mp hc with rfl | hc
      · exact Option.ne_none_iff_exists'.mpr ⟨v, hv⟩
      · rcases List.mem_cons.mp hc with rfl | hc
        · exact Option.ne_none_iff_exists'.mpr ⟨w, hw⟩
        · exact ih hrest hc

/-- The text of an address has neither separator. -/
theorem plain_of_parse {s : String} {a : Address} (h : Address.parse s = some a) : Plain s := by
  obtain ⟨bytes, hbytes, _⟩ := Option.bind_eq_some_iff.mp h
  have hnot : ∀ sep, hexValue sep = none → sep ≠ '0' → sep ≠ 'x' → sep ∉ s.toList := by
    intro sep hsep h0 hx hmem
    refine hexValue_of_mem_decodeHex hbytes ?_ hsep
    rw [Address.stripPrefix.eq_def]
    split
    · rename_i cs hcs
      rw [hcs] at hmem
      exact (List.mem_cons.mp ((List.mem_cons.mp hmem).resolve_left h0)).resolve_left hx
    · exact hmem
  exact ⟨hnot ',' (by decide) (by decide) (by decide), hnot '|' (by decide) (by decide) (by decide)⟩

theorem Plain.congr {s t : String} (h : Plain s) (heq : eqIgnoreAsciiCase s t = true) :
    Plain t := by
  have hcomma : ∀ c : Char, decide (c.toLower = ',') = decide (c = ',') :=
    apply_toLower (f := fun c => decide (c = ',')) (by decide)
  have hbar : ∀ c : Char, decide (c.toLower = '|') = decide (c = '|') :=
    apply_toLower (f := fun c => decide (c = '|')) (by decide)
  have hnot : ∀ sep : Char, sep.toLower = sep → (∀ c : Char, c.toLower = sep → c = sep) →
      sep ∉ s.toList → sep ∉ t.toList := by
    intro sep hsep hinv hs ht
    have hmem : sep ∈ s.toList.map Char.toLower := by
      rw [eqIgnoreAsciiCase_iff.mp heq, List.mem_map]
      exact ⟨sep, ht, hsep⟩
    obtain ⟨c, hc, hlower⟩ := List.mem_map.mp hmem
    exact hs (hinv c hlower ▸ hc)
  exact ⟨hnot ',' (by decide) (fun c => (decide_eq_decide.mp (hcomma c)).mp) h.1,
    hnot '|' (by decide) (fun c => (decide_eq_decide.mp (hbar c)).mp) h.2⟩

theorem isPlain_of_discoverPools {cfg : Settings} {provider : Provider} {chain token : String}
    {pools : List DiscoveredPool} (h : discoverPools cfg provider chain token = some pools) :
    ∀ pool ∈ pools, pool.IsPlain := by
  intro pool hpool
  have hdebug : ∀ {text} (a : Address), text = a.debug → Plain text := fun a htext =>
    plain_of_parse (htext ▸ Address.parse_debug a)
  obtain ⟨token, base, factoryAddr, factory, _, hpair⟩ := exists_pair_of_mem h hpool
  have hdescribed : Described provider token (pool.poolInfo (fun _ => "") "") :=
    discoverPair_described hpair
  cases hdescribed with
  | v2 _ haddr _ _ h0 h1 => exact ⟨hdebug _ haddr, hdebug _ h0, hdebug _ h1⟩
  | v3 _ haddr _ _ h0 h1 => exact ⟨hdebug _ haddr, hdebug _ h0, hdebug _ h1⟩

theorem plain_of_discoverPools {cfg : Settings} {provider : Provider} {chain token : String}
    {pools : List DiscoveredPool} (h : discoverPools cfg provider chain token = some pools) :
    Plain token := by
  obtain ⟨a, ha, _⟩ := Option.bind_eq_some_iff.mp h
  exact plain_of_parse ha

/-- What the service answers is always the best of its candidates: the separators never
occur in the texts of a discovery. -/
theorem getSwapPaths_isBest {texts : Texts} {cfg : Settings} {provider : Provider}
    {req : GetSwapPathsRequest} {answer : List ScoredPath}
    (h : getSwapPaths texts cfg provider req = .ok answer) :
    ∃ sellPools targetPools,
      IsBest (candidatePaths texts sellPools targetPools
        (cfg.normalizeTokenForChain req.chain req.sellToken)
        (cfg.normalizeTokenForChain req.chain req.targetToken) req.amount) answer := by
  simp only [getSwapPaths, bind_eq_ok, okOr_eq_ok, pure, Except.pure, Except.ok.injEq] at h
  obtain ⟨sellPools, hsell, targetPools, htarget, rfl⟩ := h
  refine ⟨sellPools, targetPools, ?_⟩
  have hplain := plain_of_discoverPools hsell
  split at htarget
  · rename_i hsame
    cases htarget
    exact rankPaths_candidatePaths texts req.amount hplain (hplain.congr hsame)
      (isPlain_of_discoverPools hsell) fun _ h => absurd h List.not_mem_nil
  · exact rankPaths_candidatePaths texts req.amount hplain (plain_of_discoverPools htarget)
      (isPlain_of_discoverPools hsell) (isPlain_of_discoverPools htarget)

namespace Sample

def sellPool (poolAddress : String) (feeTier : ℕ) : DiscoveredPool :=
  { bridge with poolAddress, token0 := "0xa0", token1 := "0xc0", feeTier }

/-- Seven pools, two of them with one address. -/
def sellPools : List DiscoveredPool :=
  [sellPool "0x01" 3000, sellPool "0x02" 500, sellPool "0x02" 100, sellPool "0x03" 10000,
    sellPool "0x04" 100, sellPool "0x05" 2500, sellPool "0x06" 20000]

end Sample

open Sample in
/-- The most expensive route is left out, and the second path of a route too. -/
theorem rankPaths_sample :
    IsBest (candidatePaths asciiTexts sellPools [] "0xa0" "0xc0" none)
        (rankPaths (candidatePaths asciiTexts sellPools [] "0xa0" "0xc0" none)) ∧
      (rankPaths (candidatePaths asciiTexts sellPools [] "0xa0" "0xc0" none)).map
          (fun p => (p.rank, p.hops)) =
        [(1, ["0x04"]), (2, ["0x02"]), (3, ["0x05"]), (4, ["0x01"]), (5, ["0x03"])] :=
  ⟨rankPaths_candidatePaths asciiTexts none (by decide) (by decide) (by decide) (by simp),
    by decide +kernel⟩

end Liquifier.SessionApi
