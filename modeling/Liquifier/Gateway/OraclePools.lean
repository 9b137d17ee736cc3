import Liquifier.Gateway.Sessions
import Liquifier.Lib.Selection

/-!
The pool by which the oracle prices a token.

`choose_best_oracle_pool` goes through the pools once. It keeps the deepest pool so far,
which only a deeper one replaces, and the first pool that the oracle can read at all.
`start_selling` looks for the deepest pool of the sell token with `max_by`, for which a
pool without an amount holds nothing and the last of equal pools wins.
-/

namespace Liquifier.Gateway

structure CachedOraclePool where
  poolAddress : String
  version : ℕ
  deriving DecidableEq

def poolTypeToVersion (poolType : String) : Option ℕ :=
  let value := toAsciiLowercase (trim poolType)
  if value = "v2" then some 2 else if value = "v3" then some 3 else none

/-- The pool as the oracle reads it, if its type is supported. -/
def oracleEntry (pool : PoolInfo) : Option CachedOraclePool :=
  (poolTypeToVersion pool.poolType).map fun version => ⟨pool.poolAddress, version⟩

/-- The two variables of the loop. -/
structure OracleChoice where
  best : Option (ℕ × CachedOraclePool)
  fallback : Option CachedOraclePool
  deriving DecidableEq

namespace OracleChoice

variable (tokenAddress : String)

def start : OracleChoice := ⟨none, none⟩

/-- The loop body. -/
def visit (c : OracleChoice) (pool : PoolInfo) : OracleChoice :=
  match poolTypeToVersion pool.poolType with
  | none => c
  | some version =>
      let entry : CachedOraclePool := ⟨pool.poolAddress, version⟩
      let fallback := if c.fallback.isNone then some entry else c.fallback
      match poolTokenLiquidityMetric pool tokenAddress with
      | none => { c with fallback }
      | some metric =>
          if metric = 0 then { c with fallback }
          else
            match c.best with
            | some (bestMetric, _) =>
                if bestMetric < metric then ⟨some (metric, entry), fallback⟩
                else { c with fallback }
            | none => ⟨some (metric, entry), fallback⟩

end OracleChoice

def chooseBestOraclePool (pools : List PoolInfo) (tokenAddress : String) :
    Option CachedOraclePool :=
  let c := pools.foldl (OracleChoice.visit tokenAddress) OracleChoice.start
  (c.best.map (·.2)).or c.fallback

/-! ### Depths -/

/-- What a pool holds of the token, nothing where it does not say. -/
def depth (tokenAddress : String) (pool : PoolInfo) : ℕ :=
  (poolTokenLiquidityMetric pool tokenAddress).getD 0

theorem poolTypeToVersion_eq_none_iff {poolType : String} :
    poolTypeToVersion poolType = none ↔ poolTypeFromStr poolType = none := by
  simp only [poolTypeToVersion, poolTypeFromStr]
  split
  · exact iff_of_false (Option.some_ne_none _) (Option.some_ne_none _)
  · split
    · exact iff_of_false (Option.some_ne_none _) (Option.some_ne_none _)
    · exact iff_of_true rfl rfl

/-- A pool of another type has no depth. -/
theorem depth_of_unsupported {tokenAddress : String} {pool : PoolInfo}
    (h : poolTypeToVersion pool.poolType = none) : depth tokenAddress pool = 0 := by
  rw [depth, poolTokenLiquidityMetric, poolTypeToVersion_eq_none_iff.mp h]
  split <;> rfl

theorem exists_bestPool (sellToken : String) {pools : List PoolInfo} {pool : PoolInfo}
    (h : pool ∈ pools) : ∃ best, bestPool sellToken pools = some best := by
  cases pools with
  | nil => cases h
  | cons first pools => exact ⟨_, rfl⟩

/-- The pool that `start_selling` selects is as deep as any. -/
theorem depth_le_of_bestPool {sellToken : String} {pools : List PoolInfo} {best : PoolInfo}
    (h : bestPool sellToken pools = some best) :
    best ∈ pools ∧ ∀ pool ∈ pools, depth sellToken pool ≤ depth sellToken best := by
  cases pools with
  | nil => cases h
  | cons first pools =>
      cases h
      exact Selection.foldl_greatest first pools

/-! ### The loop -/

section Loop

variable {tokenAddress : String}

/-- What the variables of the loop hold after some pools. -/
structure OracleChoice.Covers (tokenAddress : String) (pools : List PoolInfo)
    (c : OracleChoice) : Prop where
  fallback : c.fallback = pools.findSome? oracleEntry
  empty : c.best = none → ∀ pool ∈ pools, depth tokenAddress pool = 0
  deepest : ∀ metric entry, c.best = some (metric, entry) → 0 < metric ∧
    ∃ pool, Selection.IsFirstGreatest (depth tokenAddress) pools pool ∧
      depth tokenAddress pool = metric ∧ oracleEntry pool = some entry

namespace OracleChoice

variable {pools : List PoolInfo} {c : OracleChoice} {pool : PoolInfo}

theorem covers_start : start.Covers tokenAddress [] :=
  ⟨rfl, fun _ _ h => absurd h List.not_mem_nil, fun _ _ h => nomatch h⟩

/-- The first of the supported pools stays. -/
theorem fallback_visit (hc : c.fallback = pools.findSome? oracleEntry) :
    (c.visit tokenAddress pool).fallback = (pools ++ [pool]).findSome? oracleEntry := by
  rw [List.findSome?_append, ← hc, List.findSome?_singleton, visit, oracleEntry]
  cases poolTypeToVersion pool.poolType with
  | none => simp
  | some version =>
      have hfallback : ∀ entry : CachedOraclePool,
          (if c.fallback.isNone then some entry else c.fallback) = c.fallback.or (some entry) := by
        intro entry
        cases c.fallback <;> rfl
      dsimp only
      rw [hfallback]
      cases poolTokenLiquidityMetric pool tokenAddress with
      | none => rfl
      | some metric =>
          dsimp only
          split
          · rfl
          · split
            · split <;> rfl
            · rfl

/-- The best pool changes when a deeper pool comes. -/
theorem best_visit : (c.visit tokenAddress pool).best =
    if (c.best.map (·.1)).getD 0 < depth tokenAddress pool then
      (oracleEntry pool).map fun entry => (depth tokenAddress pool, entry)
    else c.best := by
  cases hversion : poolTypeToVersion pool.poolType with
  | none =>
      rw [depth_of_unsupported hversion, if_neg (Nat.not_lt_zero _), visit, hversion]
  | some version =>
      simp only [visit, hversion, oracleEntry, depth, Option.map_some]
      cases poolTokenLiquidityMetric pool tokenAddress with
      | none => rfl
      | some metric =>
          by_cases hzero : metric = 0
          · simp [hzero]
          · cases hbest : c.best with
            | none => simp [hzero, Nat.pos_of_ne_zero hzero]
            | some best =>
                by_cases hdeeper : best.1 < metric <;> simp [hzero, hdeeper]

theorem Covers.visit (h : c.Covers tokenAddress pools) :
    (c.visit tokenAddress pool).Covers tokenAddress (pools ++ [pool]) := by
  have hle : ∀ q ∈ pools, depth tokenAddress q ≤ (c.best.map (·.1)).getD 0 := by
    intro q hq
    cases hbest : c.best with
    | none => exact (h.empty hbest q hq).le
    | some best =>
        obtain ⟨_, p, hfirst, hmetric, _⟩ := h.deepest best.1 best.2 hbest
        exact (hfirst.le hq).trans hmetric.le
  refine ⟨fallback_visit h.fallback, ?_, ?_⟩
  · intro hnone q hq
    rw [best_visit] at hnone
    split at hnone
    · rename_i hdeeper
      have hunsupported := Option.map_eq_none_iff.mp (Option.map_eq_none_iff.mp hnone)
      rw [depth_of_unsupported hunsupported] at hdeeper
      exact absurd hdeeper (Nat.not_lt_zero _)
    · rename_i hshallow
      rw [hnone] at hshallow
      rcases List.mem_append.mp hq with hq | hq
      · exact h.empty hnone q hq
      · rw [List.mem_singleton.mp hq]
        exact Nat.eq_zero_of_not_pos hshallow
  · intro metric entry hbest
    rw [best_visit] at hbest
    split at hbest
    · rename_i hdeeper
      obtain ⟨_, hentry, hbest⟩ := Option.map_eq_some_iff.mp hbest
      obtain ⟨rfl, rfl⟩ := Prod.mk.inj hbest
      refine ⟨Nat.zero_lt_of_lt hdeeper, pool, ?_, rfl, hentry⟩
      exact Selection.isFirstLeast_concat fun q hq => (hle q hq).trans_lt hdeeper
    · rename_i hshallow
      obtain ⟨hpos, p, hfirst, hmetric, hentry⟩ := h.deepest metric entry hbest
      refine ⟨hpos, p, hfirst.concat ?_, hmetric, hentry⟩
      rw [hbest] at hshallow
      exact (not_lt.mp hshallow).trans hmetric.ge

theorem covers_foldl (tokenAddress : String) (pools : List PoolInfo) :
    (pools.foldl (OracleChoice.visit tokenAddress) start).Covers tokenAddress pools := by
  induction pools using List.reverseRecOn with
  | nil => exact covers_start
  | append_singleton pools pool ih =>
      rw [List.foldl_append, List.foldl_cons, List.foldl_nil]
      exact ih.visit

end OracleChoice

theorem chooseBestOraclePool_of_empty {pools : List PoolInfo}
    (h : ∀ pool ∈ pools, depth tokenAddress pool = 0) :
    chooseBestOraclePool pools tokenAddress = pools.findSome? oracleEntry := by
  have hcovers := OracleChoice.covers_foldl tokenAddress pools
  rw [chooseBestOraclePool]
  cases hbest : (pools.foldl (OracleChoice.visit tokenAddress) OracleChoice.start).best with
  | none => exact hcovers.fallback
  | some best =>
      obtain ⟨hpos, pool, hfirst, hmetric, _⟩ := hcovers.deepest best.1 best.2 hbest
      rw [← hmetric, h pool hfirst.mem] at hpos
      exact absurd hpos (Nat.lt_irrefl 0)

theorem chooseBestOraclePool_of_pos {pools : List PoolInfo}
    (h : ∃ pool ∈ pools, 0 < depth tokenAddress pool) :
    ∃ pool entry, Selection.IsFirstGreatest (depth tokenAddress) pools pool ∧
      0 < depth tokenAddress pool ∧ oracleEntry pool = some entry ∧
      chooseBestOraclePool pools tokenAddress = some entry := by
  have hcovers := OracleChoice.covers_foldl tokenAddress pools
  obtain ⟨deep, hdeep, hpos⟩ := h
  rw [chooseBestOraclePool]
  cases hbest : (pools.foldl (OracleChoice.visit tokenAddress) OracleChoice.start).best with
  | none => exact absurd (hcovers.empty hbest deep hdeep) hpos.ne'
  | some best =>
      obtain ⟨hmetric_pos, pool, hfirst, hmetric, hentry⟩ := hcovers.deepest best.1 best.2 hbest
      exact ⟨pool, best.2, hfirst, hmetric ▸ hmetric_pos, hentry, rfl⟩

end Loop

/-- The first of the supported pools is found unless there is none. -/
theorem findSome?_oracleEntry_eq_none {pools : List PoolInfo} :
    pools.findSome? oracleEntry = none ↔
      ∀ pool ∈ pools, poolTypeToVersion pool.poolType = none := by
  simp only [List.findSome?_eq_none_iff, oracleEntry, Option.map_eq_none_iff]

/-- The oracle gets a pool unless none has a type that it can read. It is the first of
the deepest, as deep as the one that is sold through, and the first that can be read
where none has a depth. -/
theorem chooseBestOraclePool_spec (pools : List PoolInfo) (tokenAddress : String) :
    (chooseBestOraclePool pools tokenAddress = none ↔
      ∀ pool ∈ pools, poolTypeToVersion pool.poolType = none) ∧
    ((∃ pool ∈ pools, 0 < depth tokenAddress pool) →
      ∃ before pool after version, pools = before ++ pool :: after ∧
        poolTypeToVersion pool.poolType = some version ∧
        chooseBestOraclePool pools tokenAddress = some ⟨pool.poolAddress, version⟩ ∧
        0 < depth tokenAddress pool ∧
        (∀ q ∈ before, depth tokenAddress q < depth tokenAddress pool) ∧
        (∀ q ∈ after, depth tokenAddress q ≤ depth tokenAddress pool) ∧
        ∃ best, bestPool tokenAddress pools = some best ∧
          depth tokenAddress best = depth tokenAddress pool) ∧
    ((¬ ∃ pool ∈ pools, 0 < depth tokenAddress pool) →
      chooseBestOraclePool pools tokenAddress = pools.findSome? oracleEntry) := by
  have hempty (h : ¬ ∃ pool ∈ pools, 0 < depth tokenAddress pool) :
      chooseBestOraclePool pools tokenAddress = pools.findSome? oracleEntry :=
    chooseBestOraclePool_of_empty fun pool hpool =>
      Nat.eq_zero_of_not_pos fun hpos => h ⟨pool, hpool, hpos⟩
  refine ⟨?_, fun hdeep => ?_, hempty⟩
  · by_cases hdeep : ∃ pool ∈ pools, 0 < depth tokenAddress pool
    · obtain ⟨pool, entry, hfirst, _, hentry, hchoice⟩ := chooseBestOraclePool_of_pos hdeep
      refine iff_of_false (hchoice ▸ Option.some_ne_none entry) fun hnone => ?_
      rw [oracleEntry, hnone pool hfirst.mem] at hentry
      cases hentry
    · rw [hempty hdeep, findSome?_oracleEntry_eq_none]
  · obtain ⟨pool, entry, hfirst, hpos, hentry, hchoice⟩ := chooseBestOraclePool_of_pos hdeep
    obtain ⟨version, hversion, rfl⟩ := Option.map_eq_some_iff.mp hentry
    obtain ⟨best, hbest⟩ := exists_bestPool tokenAddress hfirst.mem
    obtain ⟨hmem, hge⟩ := depth_le_of_bestPool hbest
    obtain ⟨before, after, rfl, hbefore, hafter⟩ := Selection.isFirstGreatest_iff.mp hfirst
    exact ⟨before, pool, after, version, rfl, hversion, hchoice, hpos, hbefore, hafter, best,
      hbest, le_antisymm (hfirst.le hmem) (hge pool hfirst.mem)⟩

end Liquifier.Gateway
