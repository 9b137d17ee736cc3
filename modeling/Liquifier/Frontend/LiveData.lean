import Liquifier.Common.U256
import Liquifier.Lib.MapM
import Liquifier.Lib.Trim
import Mathlib.Algebra.Order.Ring.Int
import Mathlib.Data.List.Basic
import Mathlib.Logic.Function.Basic

/-!
The live data that the dashboard keeps of its sessions.

Amounts are texts. A message of a completed trade moves the two amounts of its session by
what was sold, unless the list of the session already has the trade; seeding puts in what
the page has read.
-/

namespace Liquifier.Frontend

/-! ### `BigInt` of a text -/

/-- `StrWhiteSpaceChar`. -/
def isStrWhiteSpace (c : Char) : Bool :=
  let n := c.toNat
  (9 ≤ n && n ≤ 13) || n == 0x20 || n == 0xA0 || n == 0x1680 || (0x2000 ≤ n && n ≤ 0x200A) ||
    n == 0x2028 || n == 0x2029 || n == 0x202F || n == 0x205F || n == 0x3000 || n == 0xFEFF

def strTrim (cs : List Char) : List Char :=
  ((cs.dropWhile isStrWhiteSpace).reverse.dropWhile isStrWhiteSpace).reverse

def digitOf (radix : ℕ) (c : Char) : Option ℕ := (U256.digitValue c).filter (· < radix)

/-- One digit or more of the radix. -/
def digitsValue (radix : ℕ) (cs : List Char) : Option ℕ :=
  if cs = [] then none
  else (cs.mapM (digitOf radix)).map (·.foldl (fun n d => radix * n + d) 0)

/-- The radix of `0x`, `0o` or `0b`, and what follows. -/
def radixPrefix : List Char → Option (ℕ × List Char)
  | c :: r :: cs =>
      if c ≠ '0' then none
      else if r = 'x' ∨ r = 'X' then some (16, cs)
      else if r = 'o' ∨ r = 'O' then some (8, cs)
      else if r = 'b' ∨ r = 'B' then some (2, cs)
      else none
  | _ => none

/-- Decimal digits, behind a sign or without one. -/
def signedValue : List Char → Option ℤ
  | [] => none
  | c :: cs =>
      if c = '-' then (digitsValue 10 cs).map fun n => -(n : ℤ)
      else if c = '+' then (digitsValue 10 cs).map Int.ofNat
      else (digitsValue 10 (c :: cs)).map Int.ofNat

/-- `BigInt(s)`, and `none` where it throws. -/
def bigInt (s : String) : Option ℤ :=
  let cs := strTrim s.toList
  if cs = [] then some 0
  else
    match radixPrefix cs with
    | some (radix, ds) => (digitsValue radix ds).map Int.ofNat
    | none => signedValue cs

theorem digitOf_of_isDigit {c : Char} (h : c.isDigit = true) :
    digitOf 10 c = some (c.toNat - '0'.toNat) := by
  have hrange : '0' ≤ c ∧ c ≤ '9' := by
    simpa [Char.isDigit, Char.le_def] using h
  have hle : c.toNat ≤ 57 := UInt32.le_iff_toNat_le.mp hrange.2
  rw [digitOf, U256.digitValue, if_pos hrange, Option.filter_some, if_pos]
  exact decide_eq_true (show c.toNat - 48 < 10 by omega)

theorem mapM_digitOf {cs : List Char} (h : ∀ c ∈ cs, c.isDigit = true) :
    cs.mapM (digitOf 10) = some (cs.map fun c => c.toNat - '0'.toNat) :=
  MapM.mapM_of_forall fun c hc => digitOf_of_isDigit (h c hc)

theorem digitsValue_toDigits (n : ℕ) : digitsValue 10 (Nat.toDigits 10 n) = some n := by
  have hdigits : ∀ c ∈ Nat.toDigits 10 n, c.isDigit = true := fun c hc =>
    Nat.isDigit_of_mem_toDigits (by decide) (by decide) hc
  rw [digitsValue, if_neg Nat.toDigits_ne_nil, mapM_digitOf hdigits, Option.map_some,
    List.foldl_map, ← Nat.ofDigitChars_eq_foldl, Nat.ofDigitChars_ten_toDigits]

theorem isStrWhiteSpace_of_isDigit {c : Char} (h : c.isDigit = true) :
    isStrWhiteSpace c = false := by
  have hrange : 48 ≤ c.toNat ∧ c.toNat ≤ 57 := by
    simp only [Char.isDigit, Bool.and_eq_true, decide_eq_true_eq] at h
    exact ⟨UInt32.le_iff_toNat_le.mp h.1, UInt32.le_iff_toNat_le.mp h.2⟩
  simp only [isStrWhiteSpace, Bool.or_eq_false_iff, Bool.and_eq_false_iff, decide_eq_false_iff_not,
    beq_eq_false_iff_ne]
  omega

theorem strTrim_eq_self {cs : List Char} (h : ∀ c ∈ cs, isStrWhiteSpace c = false) :
    strTrim cs = cs := Trim.trimBy_eq_self h

/-- A letter or a sign is no digit. -/
theorem radixPrefix_eq_none {c : Char} {cs : List Char} (h : ∀ d ∈ cs, d.isDigit = true) :
    radixPrefix (c :: cs) = none := by
  cases cs with
  | nil => rfl
  | cons r cs =>
      have hr := h r List.mem_cons_self
      have hne : ∀ d : Char, d.isDigit = false → r ≠ d := by
        rintro d hd rfl
        rw [hr] at hd
        cases hd
      simp [radixPrefix, hne 'x' rfl, hne 'X' rfl, hne 'o' rfl, hne 'O' rfl, hne 'b' rfl,
        hne 'B' rfl]

theorem bigInt_eq_signedValue {s : String} {c : Char} {cs : List Char} (hs : s.toList = c :: cs)
    (hc : isStrWhiteSpace c = false) (hcs : ∀ d ∈ cs, d.isDigit = true) :
    bigInt s = signedValue (c :: cs) := by
  have htrim : strTrim s.toList = c :: cs := by
    rw [hs]
    refine strTrim_eq_self fun d hd => ?_
    rcases List.mem_cons.mp hd with rfl | hd
    · exact hc
    · exact isStrWhiteSpace_of_isDigit (hcs d hd)
  simp only [bigInt, htrim, radixPrefix_eq_none hcs]
  rw [if_neg (List.cons_ne_nil c cs)]

/-- `BigInt` reads back what `toString` prints. -/
theorem bigInt_toString (z : ℤ) : bigInt (toString z) = some z := by
  have hdigits : ∀ n : ℕ, ∀ c ∈ Nat.toDigits 10 n, c.isDigit = true := fun n c hc =>
    Nat.isDigit_of_mem_toDigits (by decide) (by decide) hc
  cases z with
  | ofNat n =>
      have htext : (toString (Int.ofNat n)).toList = Nat.toDigits 10 n := Nat.toList_repr
      obtain ⟨c, cs, hcs⟩ := List.exists_cons_of_ne_nil (Nat.toDigits_ne_nil (n := n) (b := 10))
      have hall := hdigits n
      rw [hcs] at hall
      have hc := hall c List.mem_cons_self
      have hsign : c ≠ '-' ∧ c ≠ '+' := by
        constructor
        · rintro rfl
          cases hc
        · rintro rfl
          cases hc
      rw [bigInt_eq_signedValue (htext.trans hcs) (isStrWhiteSpace_of_isDigit hc)
        fun d hd => hall d (List.mem_cons_of_mem c hd), signedValue, if_neg hsign.1,
        if_neg hsign.2, ← hcs, digitsValue_toDigits]
      rfl
  | negSucc n =>
      have htext : (toString (Int.negSucc n)).toList = '-' :: Nat.toDigits 10 (n + 1) := by
        show ("-" ++ (n + 1).repr).toList = _
        rw [String.toList_append, Nat.toList_repr]
        rfl
      rw [bigInt_eq_signedValue htext (by decide) (hdigits (n + 1)), signedValue, if_pos rfl,
        digitsValue_toDigits]
      rfl

/-- `s || "0"`. -/
def orZero (s : String) : String := if s = "" then "0" else s

theorem bigInt_orZero_toString (z : ℤ) : bigInt (orZero (toString z)) = some z := by
  unfold orZero
  split
  · rename_i hempty
    have hz := bigInt_toString z
    rw [hempty] at hz
    rw [← hz]
    rfl
  · exact bigInt_toString z

/-! ### The store -/

/-- What a trade shows beside its amount sold. -/
structure TradeDetails where
  chain : String
  status : Option String
  receivedAmount : String
  txHash : String
  priceImpactBps : ℤ
  marketCapUsd : Option String
  failureReason : Option String
  executedAt : String
  deriving DecidableEq

/-- A trade. The message `trade_completed` has the same fields. -/
structure Trade extends TradeDetails where
  tradeId : String
  sessionId : String
  sellAmount : String
  deriving DecidableEq

/-- The message `session_update`. -/
structure WsSessionUpdate where
  sessionId : String
  status : String
  amountSold : String
  remaining : String
  convertedValueUsd : String

inductive WsMessage where
  | sessionUpdate (msg : WsSessionUpdate)
  | tradeCompleted (trade : Trade)

structure SessionLiveData where
  amountSold : String
  remaining : String
  convertedValueUsd : String
  status : String
  recentTrades : List Trade
  deriving DecidableEq

/-- `Partial<SessionLiveData>`. -/
structure SeedData where
  amountSold : Option String
  remaining : Option String
  convertedValueUsd : Option String
  status : Option String
  recentTrades : Option (List Trade)

/-- The live data by session id. -/
abbrev LiveSessions := String → Option SessionLiveData

def tradeIds (trades : List Trade) : List String := trades.map (·.tradeId)

namespace SessionLiveData

variable (existing : SessionLiveData) (trade : Trade)

def dedupedTrades : List Trade := existing.recentTrades.filter (·.tradeId ≠ trade.tradeId)

def isDuplicateTrade : Bool :=
  (existing.dedupedTrades trade).length ≠ existing.recentTrades.length

def nextAmountSold : String :=
  if existing.isDuplicateTrade trade then existing.amountSold
  else
    match bigInt (orZero existing.amountSold), bigInt (orZero trade.sellAmount) with
    | some amountSold, some sellAmount => toString (amountSold + sellAmount)
    | _, _ => existing.amountSold

def nextRemaining : String :=
  if existing.isDuplicateTrade trade then existing.remaining
  else
    match bigInt (orZero existing.remaining), bigInt (orZero trade.sellAmount) with
    | some currentRemaining, some soldAmount =>
        if soldAmount < currentRemaining then toString (currentRemaining - soldAmount) else "0"
    | _, _ => existing.remaining

/-- The live data after a completed trade. -/
def complete : SessionLiveData :=
  { existing with
    amountSold := existing.nextAmountSold trade
    remaining := existing.nextRemaining trade
    recentTrades := trade :: existing.dedupedTrades trade }

end SessionLiveData

/-- What `updateSession` completes where the store has no data of the session. -/
def noLiveData : SessionLiveData := ⟨"0", "0", "0", "active", []⟩

def updateSession (msg : WsMessage) (sessions : LiveSessions) : LiveSessions :=
  match msg with
  | .sessionUpdate msg =>
      Function.update sessions msg.sessionId <| some
        { amountSold := msg.amountSold
          remaining := msg.remaining
          convertedValueUsd := msg.convertedValueUsd
          status := msg.status
          recentTrades := ((sessions msg.sessionId).map (·.recentTrades)).getD [] }
  | .tradeCompleted trade =>
      Function.update sessions trade.sessionId <|
        some (((sessions trade.sessionId).getD noLiveData).complete trade)

/-- What `seedSession` completes where the store has no data of the session. -/
def unseeded : SessionLiveData := ⟨"0", "0", "0.00", "pending", []⟩

def seedSession (sessionId : String) (data : SeedData) (sessions : LiveSessions) : LiveSessions :=
  let existing := (sessions sessionId).getD unseeded
  Function.update sessions sessionId <| some
    { amountSold := data.amountSold.getD existing.amountSold
      remaining := data.remaining.getD existing.remaining
      convertedValueUsd := data.convertedValueUsd.getD existing.convertedValueUsd
      status := data.status.getD existing.status
      recentTrades := data.recentTrades.getD existing.recentTrades }

/-! ### A completed trade -/

namespace SessionLiveData

variable {existing : SessionLiveData} {trade : Trade} {sold left : ℤ} {amount : ℕ}

theorem mem_tradeIds_complete {tradeId : String} :
    tradeId ∈ tradeIds (existing.complete trade).recentTrades ↔
      tradeId = trade.tradeId ∨ tradeId ∈ tradeIds existing.recentTrades := by
  simp only [tradeIds, complete, dedupedTrades, List.map_cons, List.mem_cons, List.mem_map,
    List.mem_filter, decide_eq_true_eq]
  constructor
  · rintro (rfl | ⟨t, ⟨ht, _⟩, rfl⟩)
    · exact .inl rfl
    · exact .inr ⟨t, ht, rfl⟩
  · rintro (rfl | ⟨t, ht, rfl⟩)
    · exact .inl rfl
    · by_cases heq : t.tradeId = trade.tradeId
      · exact .inl heq
      · exact .inr ⟨t, ⟨ht, heq⟩, rfl⟩

theorem isDuplicateTrade_iff :
    existing.isDuplicateTrade trade = true ↔ trade.tradeId ∈ tradeIds existing.recentTrades := by
  rw [isDuplicateTrade, decide_eq_true_eq, dedupedTrades, ne_eq, List.length_filter_eq_length_iff]
  simp [tradeIds]

/-- A trade of the list moves no amount. -/
theorem complete_of_mem (h : trade.tradeId ∈ tradeIds existing.recentTrades) :
    (existing.complete trade).amountSold = existing.amountSold ∧
      (existing.complete trade).remaining = existing.remaining := by
  have hduplicate := isDuplicateTrade_iff.mpr h
  constructor
  · exact if_pos hduplicate
  · exact if_pos hduplicate

/-- A new trade moves both amounts, as long as no more is sold than is left. -/
theorem complete_of_notMem (h : trade.tradeId ∉ tradeIds existing.recentTrades)
    (hsold : existing.amountSold = toString sold) (hleft : existing.remaining = toString left)
    (hamount : trade.sellAmount = toString (amount : ℤ)) (hle : (amount : ℤ) ≤ left) :
    (existing.complete trade).amountSold = toString (sold + amount) ∧
      (existing.complete trade).remaining = toString (left - amount) := by
  have hnew : ¬ existing.isDuplicateTrade trade = true := fun hd => h (isDuplicateTrade_iff.mp hd)
  constructor
  · show existing.nextAmountSold trade = _
    rw [nextAmountSold, if_neg hnew, hsold, hamount, bigInt_orZero_toString,
      bigInt_orZero_toString]
  · show existing.nextRemaining trade = _
    rw [nextRemaining, if_neg hnew, hleft, hamount, bigInt_orZero_toString,
      bigInt_orZero_toString]
    rcases hle.lt_or_eq with hlt | heq
    · exact if_pos hlt
    · simp only [heq, lt_irrefl, if_false, sub_self]
      rfl

end SessionLiveData

end Liquifier.Frontend
