import Liquifier.Indexer.Parser
import Liquifier.Lib.BigEndian

/-!
What a swap event says of the amounts in its log.

The direction of an event is read off one amount alone: off `amount0In` for a V2
log, and off the sign of `amount0` for a V3 log. The amounts themselves may say
otherwise. A V2 pair can receive both tokens and send one of them back, and a V3
pool can move nothing of token 0.
-/

namespace Liquifier.Indexer

/-! ### Words -/

theorem dataWord_eq (data : List UInt8) (i : ℕ) :
    dataWord data i = BigEndian.ofBytes ((data.drop (32 * i)).take 32) := rfl

theorem dataWord_lt (data : List UInt8) (i : ℕ) : dataWord data i < 2 ^ 256 := by
  have hlen : ((data.drop (32 * i)).take 32).length ≤ 32 := List.length_take_le 32 _
  calc dataWord data i
      < 256 ^ ((data.drop (32 * i)).take 32).length := BigEndian.ofBytes_lt _
    _ ≤ 256 ^ 32 := Nat.pow_le_pow_right (by decide) hlen
    _ = 2 ^ 256 := by decide

/-- The data of a log: 32 bytes for each word. -/
def encodeWords (words : List ℕ) : List UInt8 := words.flatMap (BigEndian.toBytes 32)

@[simp] theorem length_encodeWords (words : List ℕ) :
    (encodeWords words).length = 32 * words.length := by
  induction words with
  | nil => rfl
  | cons word words ih =>
      rw [encodeWords, List.flatMap_cons, List.length_append, BigEndian.length_toBytes,
        ← encodeWords, ih, List.length_cons]
      omega

/-- Every list of words is the data of a log. -/
theorem dataWord_encodeWords {words : List ℕ} (hwords : ∀ word ∈ words, word < 2 ^ 256) {i : ℕ}
    (hi : i < words.length) : dataWord (encodeWords words) i = words[i] := by
  induction words generalizing i with
  | nil => exact absurd hi (Nat.not_lt_zero i)
  | cons word words ih =>
      have hlen : (BigEndian.toBytes 32 word).length = 32 := BigEndian.length_toBytes 32 word
      rw [dataWord_eq, encodeWords, List.flatMap_cons, ← encodeWords]
      cases i with
      | zero =>
          rw [Nat.mul_zero, List.drop_zero, List.take_left' hlen, List.getElem_cons_zero]
          exact BigEndian.ofBytes_toBytes_of_lt (hwords word List.mem_cons_self)
      | succ i =>
          have hdrop : 32 * (i + 1) = (BigEndian.toBytes 32 word).length + 32 * i := by omega
          rw [hdrop, List.drop_length_add_append, List.getElem_cons_succ]
          exact ih (fun w hw => hwords w (List.mem_cons_of_mem _ hw)) (Nat.lt_of_succ_lt_succ hi)

/-! ### Signed words -/

/-- The `int256` that a word encodes. -/
def int256 (word : ℕ) : ℤ := if word < 2 ^ 255 then word else word - 2 ^ 256

theorem isNegative_iff {word : ℕ} (h : word < 2 ^ 256) :
    isNegative word = true ↔ int256 word < 0 := by
  rw [isNegative, Nat.testBit_eq_decide_div_mod_eq, decide_eq_true_eq, int256]
  split <;> omega

theorem natAbs_int256 {word : ℕ} (h : word < 2 ^ 256) :
    (int256 word).natAbs = if isNegative word then twosComplement word else word := by
  have hsign := isNegative_iff h
  unfold int256 at hsign ⊢
  split
  · have hpos : ¬ isNegative word = true := fun hneg => by
      have := hsign.mp hneg
      omega
    rw [if_neg hpos]
    omega
  · have hneg : isNegative word = true := hsign.mpr (by omega)
    rw [if_pos hneg, twosComplement, U256.wrappingAdd, U256.max, U256.modulus]
    omega

theorem natAbs_int256_of_nonneg {word : ℕ} (h : word < 2 ^ 256) (hpos : 0 ≤ int256 word) :
    (int256 word).natAbs = word := by
  rw [natAbs_int256 h, if_neg]
  exact fun hneg => not_lt.mpr hpos ((isNegative_iff h).mp hneg)

/-! ### Swap logs -/

/-- A swap log of the kind with this signature: the sender and the recipient are
indexed, and the data has its words. -/
structure IsSwapLog (sig : B256) (size : ℕ) (log : Log) : Prop where
  topic : log.topics.head? = some sig
  indexed : 3 ≤ log.topics.length
  words : size ≤ log.data.length

abbrev IsV2SwapLog (log : Log) : Prop := IsSwapLog uniswapV2SwapSig 128 log

abbrev IsV3SwapLog (log : Log) : Prop := IsSwapLog uniswapV3SwapSig 160 log

theorem IsSwapLog.topics_eq {sig : B256} {size : ℕ} {log : Log} (h : IsSwapLog sig size log) :
    ∃ sender recipient rest, log.topics = sig :: sender :: recipient :: rest := by
  obtain ⟨htopic, hlen, _⟩ := h
  match htopics : log.topics with
  | [] => cases htopics ▸ htopic
  | [_] | [_, _] => simp [htopics] at hlen
  | topic0 :: sender :: recipient :: rest =>
      rw [htopics, List.head?_cons, Option.some.injEq] at htopic
      exact ⟨sender, recipient, rest, by rw [htopic]⟩

/-! ### V2 amounts -/

section V2

variable (data : List UInt8)

abbrev amount0In : ℕ := dataWord data 0
abbrev amount1In : ℕ := dataWord data 1
abbrev amount0Out : ℕ := dataWord data 2
abbrev amount1Out : ℕ := dataWord data 3

/-- The event reports the output of the pair and the input of the other token. -/
structure ReportsV2 (event : DexSwapEvent) : Prop where
  amountOut : event.amountOut =
    toString (if amount0Out data ≠ 0 then amount0Out data else amount1Out data)
  direction : event.token0IsInput = true ↔ amount1Out data ≠ 0
  amountIn : event.amountIn =
    toString (if amount0Out data ≠ 0 then amount1In data else amount0In data)

end V2

variable {chain : String} {log : Log}

theorem parseSwapLog_v2 (chain : String) (h : IsV2SwapLog log) :
    ∃ event, parseSwapLog chain log = some event ∧
      event.token0IsInput = (amount0In log.data != 0) ∧
      event.amountIn =
        toString (if amount0In log.data ≠ 0 then amount0In log.data else amount1In log.data) ∧
      event.amountOut =
        toString (if amount0In log.data ≠ 0 then amount1Out log.data else amount0Out log.data) := by
  obtain ⟨sender, recipient, rest, htopics⟩ := h.topics_eq
  have hlen : ¬ log.data.length < 128 := Nat.not_lt.mpr h.words
  simp only [parseSwapLog, htopics, List.head?_cons, if_true, parseV2Swap, if_neg hlen]
  refine ⟨_, rfl, rfl, ?_, ?_⟩ <;> by_cases h0 : amount0In log.data = 0 <;>
    simp [v2Token0IsInput, h0]

/-- With one output, an event reports the amounts of its log if and only if token 0
goes in exactly when token 1 comes out. -/
theorem parseSwapLog_v2_reports_iff (hlog : IsV2SwapLog log)
    (hout : amount0Out log.data ≠ 0 ↔ ¬ amount1Out log.data ≠ 0) :
    (∃ event, parseSwapLog chain log = some event ∧ ReportsV2 log.data event) ↔
      (amount0In log.data ≠ 0 ↔ amount1Out log.data ≠ 0) := by
  obtain ⟨event, hparse, hflag, hamountIn, hamountOut⟩ := parseSwapLog_v2 chain hlog
  simp only [hparse, Option.some.injEq, exists_eq_left']
  constructor
  · intro hreports
    have hdirection := hreports.direction
    rwa [hflag, bne_iff_ne] at hdirection
  · intro hiff
    -- the branch on the input of token 0 is a branch on the output of token 0
    have hside : amount0In log.data ≠ 0 ↔ ¬ amount0Out log.data ≠ 0 := by
      rw [hiff, hout, not_not]
    refine ⟨?_, by rw [hflag, bne_iff_ne, hiff], ?_⟩
    · rw [hamountOut, if_congr hside rfl rfl, ite_not]
    · rw [hamountIn, if_congr hside rfl rfl, ite_not]

/-! ### V3 amounts -/

section V3

variable (data : List UInt8)

/-- What the pool receives of token 0. -/
abbrev amount0 : ℤ := int256 (dataWord data 0)

/-- What the pool receives of token 1. -/
abbrev amount1 : ℤ := int256 (dataWord data 1)

/-- The event reports what goes into the pool as its input and what leaves it as its
output. -/
structure ReportsV3 (event : DexSwapEvent) : Prop where
  amountIn : event.amountIn = toString (max (amount0 data) (amount1 data)).natAbs
  amountOut : event.amountOut = toString (min (amount0 data) (amount1 data)).natAbs
  direction : event.token0IsInput = true ↔ 0 < amount0 data ∨ amount1 data < 0

end V3

theorem parseSwapLog_v3 (chain : String) (h : IsV3SwapLog log) :
    ∃ event, parseSwapLog chain log = some event ∧
      event.token0IsInput = decide (0 ≤ amount0 log.data) ∧
      event.amountIn =
        toString (if 0 ≤ amount0 log.data then dataWord log.data 0 else dataWord log.data 1) ∧
      event.amountOut =
        toString (if 0 ≤ amount0 log.data then (amount1 log.data).natAbs
          else (amount0 log.data).natAbs) := by
  obtain ⟨sender, recipient, rest, htopics⟩ := h.topics_eq
  have hlen : ¬ log.data.length < 160 := Nat.not_lt.mpr h.words
  have hsig : uniswapV3SwapSig ≠ uniswapV2SwapSig := by decide +kernel
  have hneg := isNegative_iff (dataWord_lt log.data 0)
  have h0 := natAbs_int256 (dataWord_lt log.data 0)
  have h1 := natAbs_int256 (dataWord_lt log.data 1)
  simp only [parseSwapLog, htopics, List.head?_cons, if_neg hsig, if_true, parseV3Swap,
    if_neg hlen]
  refine ⟨_, rfl, ?_⟩
  cases hsign : isNegative (dataWord log.data 0) with
  | true =>
      have hlt : ¬ 0 ≤ amount0 log.data := not_le.mpr (hneg.mp hsign)
      simp [v3Token0IsInput, hsign, hlt, h0]
  | false =>
      have hle : 0 ≤ amount0 log.data := not_lt.mp (fun h => by simp [hneg.mpr h] at hsign)
      simp [v3Token0IsInput, hsign, hle, h1]

/-- With amounts of opposite signs, an event reports them if and only if token 1 does
not go in against nothing of token 0. -/
theorem parseSwapLog_v3_reports_iff (hlog : IsV3SwapLog log)
    (hsigns : (0 ≤ amount0 log.data ∧ amount1 log.data ≤ 0) ∨
      (amount0 log.data ≤ 0 ∧ 0 ≤ amount1 log.data))
    (hmoves : ¬ (amount0 log.data = 0 ∧ amount1 log.data = 0)) :
    (∃ event, parseSwapLog chain log = some event ∧ ReportsV3 log.data event) ↔
      ¬ (amount0 log.data = 0 ∧ 0 < amount1 log.data) := by
  obtain ⟨event, hparse, hflag, hamountIn, hamountOut⟩ := parseSwapLog_v3 chain hlog
  simp only [hparse, Option.some.injEq, exists_eq_left']
  constructor
  · rintro ⟨_, _, hdirection⟩ ⟨hzero, hpos⟩
    rw [hflag, decide_eq_true_eq, hzero] at hdirection
    rcases hdirection.mp le_rfl with h | h
    · exact absurd h (lt_irrefl 0)
    · exact lt_asymm h hpos
  · intro hdust
    by_cases h0 : 0 ≤ amount0 log.data
    · have h1 : amount1 log.data ≤ 0 := by omega
      rw [if_pos h0] at hamountIn hamountOut
      refine ⟨?_, ?_, ?_⟩
      · rw [hamountIn, max_eq_left (h1.trans h0),
          natAbs_int256_of_nonneg (dataWord_lt log.data 0) h0]
      · rw [hamountOut, min_eq_right (h1.trans h0)]
      · rw [hflag, decide_eq_true_eq]
        omega
    · have h1 : 0 ≤ amount1 log.data := by omega
      have hle : amount0 log.data ≤ amount1 log.data := by omega
      rw [if_neg h0] at hamountIn hamountOut
      refine ⟨?_, ?_, ?_⟩
      · rw [hamountIn, max_eq_right hle, natAbs_int256_of_nonneg (dataWord_lt log.data 1) h1]
      · rw [hamountOut, min_eq_left hle]
      · rw [hflag, decide_eq_true_eq]
        omega

/-! ### Logs with two inputs, and with none of token 0 -/

namespace Sample

def swapLog (sig : B256) (words : List ℕ) : Log where
  address := ⟨List.replicate 20 0x91, by decide⟩
  topics := [sig, ⟨List.replicate 32 0x21, by decide⟩, ⟨List.replicate 32 0x22, by decide⟩]
  data := encodeWords words
  blockNumber := some 300
  transactionHash := none
  logIndex := some 5

theorem isSwapLog_swapLog {sig : B256} {words : List ℕ} {size : ℕ} (h : size = 32 * words.length) :
    IsSwapLog sig size (swapLog sig words) :=
  ⟨rfl, le_rfl, h.trans_le (length_encodeWords words).ge⟩

/-- A buy of token 0 with 5 units of token 1. -/
def v2Buy : Log := swapLog uniswapV2SwapSig [0, 5, 7, 0]

/-- The same buy, with a unit of token 0 reflected into the pair. -/
def v2Reflection : Log := swapLog uniswapV2SwapSig [1, 5, 7, 0]

/-- A sale of 5 units of token 0. -/
def v3Sale : Log := swapLog uniswapV3SwapSig [5, 2 ^ 256 - 7, 1, 1, 0]

/-- A unit of token 1 goes in, which is too little for any of token 0. -/
def v3Dust : Log := swapLog uniswapV3SwapSig [0, 1, 1, 1, 0]

/-- What an event says of the amounts. -/
def reported (log : Log) : Option (String × String × Bool) :=
  (parseSwapLog "bsc" log).map fun event => (event.amountIn, event.amountOut, event.token0IsInput)

theorem dataWord_swapLog {sig : B256} {words : List ℕ} (hwords : ∀ word ∈ words, word < 2 ^ 256)
    {i : ℕ} (hi : i < words.length) : dataWord (swapLog sig words).data i = words[i] :=
  dataWord_encodeWords hwords hi

theorem amounts_v2Reflection : amount0In v2Reflection.data = 1 ∧ amount1In v2Reflection.data = 5 ∧
    amount0Out v2Reflection.data = 7 ∧ amount1Out v2Reflection.data = 0 := by
  refine ⟨?_, ?_, ?_, ?_⟩ <;> exact dataWord_swapLog (by decide) (by decide)

theorem amounts_v2Buy : amount0Out v2Buy.data = 7 ∧ amount1Out v2Buy.data = 0 := by
  refine ⟨?_, ?_⟩ <;> exact dataWord_swapLog (by decide) (by decide)

theorem amounts_v3Dust : amount0 v3Dust.data = 0 ∧ amount1 v3Dust.data = 1 := by
  refine ⟨congrArg int256 (?_ : _ = 0), congrArg int256 (?_ : _ = 1)⟩ <;>
    exact dataWord_swapLog (by decide) (by decide)

theorem amounts_v3Sale : amount0 v3Sale.data = 5 ∧ amount1 v3Sale.data = -7 := by
  refine ⟨congrArg int256 (?_ : _ = 5), congrArg int256 (?_ : _ = 2 ^ 256 - 7)⟩ <;>
    exact dataWord_swapLog (by decide) (by decide)

end Sample

open Sample in
/-- The buy is reported with an output of zero. -/
theorem reflection_misreported :
    IsV2SwapLog v2Reflection ∧
      (amount0Out v2Reflection.data ≠ 0 ↔ ¬ amount1Out v2Reflection.data ≠ 0) ∧
      (amount0In v2Reflection.data ≠ 0 ∨ amount1In v2Reflection.data ≠ 0) ∧
      reported v2Reflection = some ("1", "0", true) ∧
      ¬ ∃ event, parseSwapLog "bsc" v2Reflection = some event ∧
        ReportsV2 v2Reflection.data event := by
  have hlog : IsV2SwapLog v2Reflection := isSwapLog_swapLog rfl
  obtain ⟨h0in, _, h0out, h1out⟩ := amounts_v2Reflection
  obtain ⟨event, hparse, hflag, hamountIn, hamountOut⟩ := parseSwapLog_v2 "bsc" hlog
  rw [h0in, if_pos one_ne_zero] at hamountIn
  rw [h0in, if_pos one_ne_zero, h1out] at hamountOut
  rw [h0in] at hflag
  refine ⟨hlog, by simp [h0out, h1out], by simp [h0in], ?_, ?_⟩
  · rw [reported, hparse, Option.map_some, hamountIn, hamountOut, hflag]
    rfl
  · rintro ⟨event', hparse', hreports⟩
    cases hparse.symm.trans hparse'
    have hout := hreports.direction.mp hflag
    exact hout h1out

open Sample in
theorem buy_reported :
    IsV2SwapLog v2Buy ∧ (amount0Out v2Buy.data ≠ 0 ↔ ¬ amount1Out v2Buy.data ≠ 0) ∧
      ((∃ event, parseSwapLog "bsc" v2Buy = some event ∧ ReportsV2 v2Buy.data event) ↔
        (amount0In v2Buy.data ≠ 0 ↔ amount1Out v2Buy.data ≠ 0)) :=
  have hout : amount0Out v2Buy.data ≠ 0 ↔ ¬ amount1Out v2Buy.data ≠ 0 := by
    simp [amounts_v2Buy]
  ⟨isSwapLog_swapLog rfl, hout, parseSwapLog_v2_reports_iff (isSwapLog_swapLog rfl) hout⟩

open Sample in
/-- The unit of token 1 is reported as the output. -/
theorem dust_misreported :
    IsV3SwapLog v3Dust ∧ amount0 v3Dust.data = 0 ∧ amount1 v3Dust.data = 1 ∧
      reported v3Dust = some ("0", "1", true) ∧
      ¬ ∃ event, parseSwapLog "bsc" v3Dust = some event ∧ ReportsV3 v3Dust.data event := by
  have hlog : IsV3SwapLog v3Dust := isSwapLog_swapLog rfl
  obtain ⟨h0, h1⟩ := amounts_v3Dust
  obtain ⟨event, hparse, hflag, hamountIn, hamountOut⟩ := parseSwapLog_v3 "bsc" hlog
  rw [h0] at hflag
  refine ⟨hlog, h0, h1, ?_, ?_⟩
  · have hword : dataWord v3Dust.data 0 = 0 := dataWord_swapLog (by decide) (by decide)
    rw [h0, if_pos le_rfl, hword] at hamountIn
    rw [h0, if_pos le_rfl, h1] at hamountOut
    rw [reported, hparse, Option.map_some, hamountIn, hamountOut, hflag]
    rfl
  · rintro ⟨event', hparse', hreports⟩
    cases hparse.symm.trans hparse'
    have hmoves := hreports.direction.mp hflag
    omega

open Sample in
theorem sale_reported :
    IsV3SwapLog v3Sale ∧ amount0 v3Sale.data = 5 ∧ amount1 v3Sale.data = -7 ∧
      ((∃ event, parseSwapLog "bsc" v3Sale = some event ∧ ReportsV3 v3Sale.data event) ↔
        ¬ (amount0 v3Sale.data = 0 ∧ 0 < amount1 v3Sale.data)) :=
  have hsale := amounts_v3Sale
  ⟨isSwapLog_swapLog rfl, hsale.1, hsale.2,
    parseSwapLog_v3_reports_iff (isSwapLog_swapLog rfl) (by omega) (by omega)⟩

end Liquifier.Indexer
