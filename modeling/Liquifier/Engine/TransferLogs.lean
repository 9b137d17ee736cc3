import Liquifier.Common.Json
import Liquifier.Engine.Settle
import Liquifier.Indexer.Parser
import Liquifier.Lib.BigEndian
import Mathlib.Algebra.BigOperators.Group.List.Basic

/-!
The amount that a receipt shows.

`extract_received_from_logs` goes through the logs of a receipt as JSON and adds up what
the logs of the target token say has come in. A log that it cannot read is passed over,
but for one of the token without a list of topics, which ends the search. The amounts are
added in 256 bits, which wrap.
-/

namespace Liquifier.Engine

open Indexer (B256 addressFromWord)

/-- A slice that does not begin at a character is a panic. -/
inductive Panic where
  | charBoundary
  deriving DecidableEq

/-! ### Hexadecimal texts -/

/-- `trim_start_matches` of `0` and a letter, which takes them off as often as they come. -/
def trimStartPair (letter : Char) : List Char → List Char
  | '0' :: c :: cs => if c = letter then trimStartPair letter cs else '0' :: c :: cs
  | cs => cs

/-- A text without blanks around it and `0x` or `0X` in front. -/
def hexTrimmed (s : String) : List Char :=
  trimStartPair 'X' (trimStartPair 'x' (trimChars s.toList))

def parseU256FromHex (hexStr : String) : Option ℕ :=
  let trimmed := hexTrimmed hexStr
  if trimmed = [] then none else U256.fromStrRadix (String.ofList trimmed) 16

/-- `str::len`. -/
def utf8Len (cs : List Char) : ℕ := (cs.map Char.utf8Size).sum

/-- `&s[s.len() - n..]`, of a text of `n` bytes or more. -/
def lastBytes (n : ℕ) : List Char → Except Panic (List Char)
  | [] => if n = 0 then .ok [] else .error .charBoundary
  | c :: cs => if utf8Len (c :: cs) = n then .ok (c :: cs) else lastBytes n cs

def parseAddressFromTopic (topic : String) : Except Panic (Option Address) :=
  let trimmed := hexTrimmed topic
  if utf8Len trimmed < 40 then .ok none
  else (lastBytes 40 trimmed).map fun addrHex =>
    Address.parse (String.ofList ('0' :: 'x' :: addrHex))

/-! ### The logs of a receipt -/

def logAddress (log : Json) : String :=
  toAsciiLowercase (((log.get "address").bind Json.asStr).getD "")

def logTopics (log : Json) : Option (List Json) := (log.get "topics").bind Json.asArray

def logData (log : Json) : String := ((log.get "data").bind Json.asStr).getD ""

def topicText (topics : List Json) (i : ℕ) : String := ((topics[i]?).bind Json.asStr).getD ""

/-- The total with the amount in the data, if there is one. -/
def addAmount (total : ℕ) (log : Json) : ℕ :=
  match parseU256FromHex (logData log) with
  | some amount => U256.wrappingAdd total amount
  | none => total

section Extract

variable (tokenAddress : String) (eventTopic : B256) (recipientFilter : Option Address)
  (amountInDataOnly : Bool)

/-- The total behind a log, and `none` where the function returns. -/
def addLog (total : ℕ) (log : Json) : Except Panic (Option ℕ) :=
  if logAddress log ≠ tokenAddress then .ok (some total)
  else
    match logTopics log with
    | none => .ok none
    | some topics =>
        match B256.parse (topicText topics 0) with
        | none => .ok (some total)
        | some topic0 =>
            if topic0 ≠ eventTopic then .ok (some total)
            else if amountInDataOnly then .ok (some (addAmount total log))
            else
              match recipientFilter with
              | none => .ok (some (addAmount total log))
              | some filterAddr =>
                  (parseAddressFromTopic (topicText topics 2)).map fun toAddr =>
                    some (if toAddr ≠ some filterAddr then total else addAmount total log)

def addLogs : ℕ → List Json → Except Panic (Option ℕ)
  | total, [] => .ok (some total)
  | total, log :: logs => do
      match ← addLog tokenAddress eventTopic recipientFilter amountInDataOnly total log with
      | none => .ok none
      | some total => addLogs total logs

def extractReceivedFromLogs (receipt : Json) : Except Panic (Option ℕ) :=
  match (receipt.get "logs").bind Json.asArray with
  | none => .ok none
  | some logs =>
      (addLogs tokenAddress eventTopic recipientFilter amountInDataOnly 0 logs).map fun total =>
        total.filter (· ≠ 0)

end Extract

/-- Transfer(address from, address to, uint256 amount). -/
def transferTopic : B256 where
  bytes := (decodeHex
    "ddf252ad1be2c89b69c2b068fc378daa952ba7f163c4a11628f55a4df523b3ef".toList).getD []
  size := by decide

/-- Withdrawal(address src, uint256 wad). -/
def withdrawalTopic : B256 where
  bytes := (decodeHex
    "7fcf532c15f0a6db0bd6d0e038bea71d30d808c7d98cb3bf7268a95bf5081b65".toList).getD []
  size := by decide

/-! ### Looking a receipt up -/

/-- `u64::from_str_radix(s, radix).ok()`. -/
def u64FromStrRadix (cs : List Char) (radix : ℕ) : Option ℕ :=
  let digits := match cs with
    | '+' :: cs => cs
    | cs => cs
  if digits = [] then none
  else
    (digits.mapM fun c => (U256.digitValue c).filter (· < radix)).bind fun ds =>
      let n := ds.foldl (fun acc d => acc * radix + d) 0
      if n < 2 ^ 64 then some n else none

def parseReceiptSuccessFromJson (receipt : Json) : Option Bool :=
  match receipt.get "status" with
  | some (.bool v) => some v
  | some (.number (.posInt n)) => some (n != 0)
  | some (.string v) =>
      match trimChars v.toList with
      | '0' :: 'x' :: raw | '0' :: 'X' :: raw => (u64FromStrRadix raw 16).map (· != 0)
      | raw => (u64FromStrRadix raw 10).map (· != 0)
  | _ => none

/-- What an executed swap has brought in. The native token comes in as a withdrawal of the
wrapped one. -/
def receivedAmount (cfg : Settings) (chain targetToken : String) (recipient : Address)
    (receipt : Json) : Except Panic (Option ℕ) :=
  if isNativeTokenPlaceholder targetToken then
    let wrappedNative := toAsciiLowercase ((cfg.wrappedNativeTokenForChain chain).getD "")
    extractReceivedFromLogs wrappedNative withdrawalTopic none true receipt
  else
    extractReceivedFromLogs (toAsciiLowercase targetToken) transferTopic (some recipient) false
      receipt

/-- `fetch_receipt_with_received` behind the answer of the node. -/
def fetchReceiptWithReceived (cfg : Settings) (chain targetToken : String) (recipient : Address)
    (receipt : Option Json) : Except Panic Lookup :=
  match receipt with
  | none => .ok .pending
  | some receipt =>
      match parseReceiptSuccessFromJson receipt with
      | none => .ok .pending
      | some false => .ok .reverted
      | some true => (receivedAmount cfg chain targetToken recipient receipt).map .success

/-! ### Which logs count -/

/-- The text at a place of the topics. -/
def topicAt (log : Json) (i : ℕ) : Option String :=
  (logTopics log).bind fun topics => (topics[i]?).bind Json.asStr

/-- The address that the last forty characters spell. -/
def spelledAddress (topic : String) : Option Address :=
  let cs := trimChars topic.toList
  (decodeHex (cs.drop (cs.length - 40))).bind Address.ofBytes

/-- The number that the data spells, however large. -/
def logAmount (log : Json) : ℕ :=
  ((U256.digits 16 (hexTrimmed (logData log))).map
    (·.foldl (fun acc d => acc * 16 + d) 0)).getD 0

/-- The log is a transfer of the token to the recipient. -/
structure Counts (token recipient : Address) (log : Json) : Prop where
  address : ((log.get "address").bind Json.asStr).map toAsciiLowercase = some token.debug
  transfer : (topicAt log 0).bind B256.parse = some transferTopic
  recipient : (topicAt log 2).bind spelledAddress = some recipient

/-- The topics of a log are a list, and its texts are ASCII. -/
structure WellFormed (log : Json) : Prop where
  topics : (logTopics log).isSome = true
  ascii : ∀ i, ∀ t ∈ topicAt log i, ∀ c ∈ t.toList, c.toNat < 128

section Counts

variable (token recipient : Address) {log : Json} {logs : List Json} {total : ℕ}

instance (log : Json) : Decidable (Counts token recipient log) :=
  decidable_of_iff (((log.get "address").bind Json.asStr).map toAsciiLowercase = some token.debug ∧
      (topicAt log 0).bind B256.parse = some transferTopic ∧
      (topicAt log 2).bind spelledAddress = some recipient)
    ⟨fun h => ⟨h.1, h.2.1, h.2.2⟩, fun h => ⟨h.address, h.transfer, h.recipient⟩⟩

/-- The sum of the transfers of the token to the recipient. -/
def received (logs : List Json) : ℕ :=
  ((logs.filter fun log => Counts token recipient log).map logAmount).sum

end Counts

/-! ### Reading topics and data -/

section Texts

variable {cs : List Char} {s : String} {letter : Char} {n : ℕ}

theorem trimStartPair_suffix (letter : Char) (cs : List Char) :
    ∃ front, cs = front ++ trimStartPair letter cs ∧
      (front = [] ∨ front.getLast? = some letter) := by
  induction cs using trimStartPair.induct letter with
  | case1 cs ih =>
      obtain ⟨front, hcs, hfront⟩ := ih
      refine ⟨'0' :: letter :: front, ?_, .inr ?_⟩
      · rw [trimStartPair, if_pos rfl, List.cons_append, List.cons_append, ← hcs]
      · rcases hfront with rfl | hlast
        · rfl
        · rw [List.getLast?_cons_cons, List.getLast?_cons, hlast]
          rfl
  | case2 c cs hne => exact ⟨[], by rw [trimStartPair, if_neg hne, List.nil_append], .inl rfl⟩
  | case3 cs hcs =>
      refine ⟨[], ?_, .inl rfl⟩
      rw [trimStartPair.eq_def]
      split
      · exact absurd rfl (hcs _ _)
      · rfl

/-- What is taken off in front ends with a letter that is no digit. -/
theorem hexTrimmed_suffix (s : String) :
    ∃ front, trimChars s.toList = front ++ hexTrimmed s ∧
      (front = [] ∨ front.getLast? = some 'x' ∨ front.getLast? = some 'X') := by
  obtain ⟨front, hfront, hlast⟩ := trimStartPair_suffix 'x' (trimChars s.toList)
  obtain ⟨front', hfront', hlast'⟩ :=
    trimStartPair_suffix 'X' (trimStartPair 'x' (trimChars s.toList))
  refine ⟨front ++ front', by rw [List.append_assoc, hexTrimmed, ← hfront', ← hfront], ?_⟩
  rcases hlast' with rfl | hlast'
  · rw [List.append_nil]
    exact hlast.imp_right .inl
  · exact .inr (.inr (by rw [List.getLast?_append, hlast']; rfl))

theorem mem_of_mem_hexTrimmed {c : Char} (h : c ∈ hexTrimmed s) : c ∈ s.toList := by
  obtain ⟨front, hfront, -⟩ := hexTrimmed_suffix s
  obtain ⟨head, back, hs, -, -⟩ := Trim.exists_eq_append (p := isWhitespace) s.toList
  rw [hs]
  refine List.mem_append_left _ (List.mem_append_right _ ?_)
  show c ∈ trimChars s.toList
  rw [hfront]
  exact List.mem_append_right _ h

theorem utf8Len_of_ascii (h : ∀ c ∈ cs, c.toNat < 128) : utf8Len cs = cs.length := by
  have hone : ∀ c ∈ cs, c.utf8Size = 1 := fun c hc =>
    Char.utf8Size_eq_one_iff.mpr (UInt32.le_iff_toNat_le.mpr (Nat.le_of_lt_succ (h c hc)))
  rw [utf8Len, List.map_congr_left hone, List.map_const', List.sum_replicate_nat, Nat.mul_one]

theorem lastBytes_of_ascii (h : ∀ c ∈ cs, c.toNat < 128) (hn : n ≤ cs.length) :
    lastBytes n cs = .ok (cs.drop (cs.length - n)) := by
  induction cs with
  | nil =>
      rw [lastBytes, if_pos (Nat.le_zero.mp hn), List.drop_nil]
  | cons c cs ih =>
      rw [lastBytes, utf8Len_of_ascii h]
      split
      · rename_i heq
        rw [heq, Nat.sub_self, List.drop_zero]
      · rename_i hne
        rw [List.length_cons] at hn hne
        have hdrop : (c :: cs).length - n = (cs.length - n) + 1 := by
          rw [List.length_cons]
          omega
        rw [ih (fun d hd => h d (List.mem_cons_of_mem c hd)) (by omega), hdrop,
          List.drop_succ_cons]

theorem parse_prefixed (cs : List Char) :
    Address.parse (String.ofList ('0' :: 'x' :: cs)) = (decodeHex cs).bind Address.ofBytes := by
  rw [Address.parse, String.toList_ofList, Address.stripPrefix]

/-- An ASCII topic is read as the address at its end. -/
theorem parseAddressFromTopic_of_ascii (h : ∀ c ∈ s.toList, c.toNat < 128) :
    parseAddressFromTopic s = .ok (spelledAddress s) := by
  have hascii : ∀ c ∈ hexTrimmed s, c.toNat < 128 := fun c hc => h c (mem_of_mem_hexTrimmed hc)
  obtain ⟨front, hfront, hlast⟩ := hexTrimmed_suffix s
  simp only [parseAddressFromTopic, spelledAddress, utf8Len_of_ascii hascii, hfront]
  split
  · -- Fewer than forty characters are left, so a letter that is no digit is among the last ones.
    rename_i hshort
    refine congrArg Except.ok (Option.bind_eq_none_iff.mpr fun bytes hbytes => dif_neg ?_).symm
    intro hsize
    have hlen := length_of_decodeHex hbytes
    rw [hsize, List.length_drop, List.length_append] at hlen
    have hdrop : (front ++ hexTrimmed s).length - 40 < front.length := by
      rw [List.length_append]
      omega
    rw [List.drop_append_of_le_length hdrop.le] at hbytes
    have hmem : ∀ c, front.getLast? = some c → (hexValue c).isSome = true := by
      intro c hc
      refine hexValue_isSome_of_decodeHex hbytes c (List.mem_append_left _ ?_)
      refine List.mem_of_getLast? ?_
      rw [List.getLast?_drop, if_neg (not_le.mpr hdrop), hc]
    rcases hlast with rfl | hx | hx
    · exact absurd hdrop (Nat.not_lt_zero _)
    · exact absurd (hmem 'x' hx) (by decide)
    · exact absurd (hmem 'X' hx) (by decide)
  · rename_i hlong
    have hle : 40 ≤ (hexTrimmed s).length := not_lt.mp hlong
    have hdrop : (front ++ hexTrimmed s).drop ((front ++ hexTrimmed s).length - 40) =
        (hexTrimmed s).drop ((hexTrimmed s).length - 40) := by
      rw [List.length_append, Nat.add_sub_assoc hle, List.drop_length_add_append]
    rw [lastBytes_of_ascii hascii hle, hdrop, Except.map, parse_prefixed]

/-- What the data spells is read, if there are digits and it fits. -/
theorem addAmount_of_lt {total : ℕ} {log : Json} (h : total + logAmount log < U256.modulus) :
    addAmount total log = total + logAmount log := by
  rw [addAmount, parseU256FromHex]
  rw [logAmount] at h ⊢
  generalize hexTrimmed (logData log) = cs at h ⊢
  by_cases hnil : cs = []
  · rw [hnil]
    rfl
  · rw [if_neg hnil, U256.fromStrRadix, String.toList_ofList]
    cases hdigits : U256.digits 16 cs with
    | none => rfl
    | some ds =>
        rw [hdigits, Option.map_some, Option.getD_some] at h
        have hfits : ds.foldl (fun acc d => acc * 16 + d) 0 < U256.modulus :=
          (Nat.le_add_left _ _).trans_lt h
        simp only [Option.bind_some, if_pos hfits, Option.map_some, Option.getD_some]
        exact U256.wrappingAdd_of_lt h

end Texts

/-! ### What is added up -/

section Sum

variable {token recipient : Address} {log : Json} {logs : List Json} {total : ℕ}

theorem logAddress_eq_iff :
    logAddress log = token.debug ↔
      ((log.get "address").bind Json.asStr).map toAsciiLowercase = some token.debug := by
  rw [logAddress]
  cases (log.get "address").bind Json.asStr with
  | none =>
      refine iff_of_false (fun h => ?_) (by simp)
      have hnil := congrArg String.toList h
      simp [Address.debug, toAsciiLowercase] at hnil
  | some a => rw [Option.getD_some, Option.map_some, Option.some.injEq]

theorem topicText_eq {topics : List Json} (htopics : logTopics log = some topics) (i : ℕ) :
    topicText topics i = (topicAt log i).getD "" := by
  rw [topicText, topicAt, htopics, Option.bind_some]

/-- No topic is as good as one that cannot be read. -/
theorem topicText_bind {α : Type} {f : String → Option α} (hf : f "" = none) {topics : List Json}
    (htopics : logTopics log = some topics) (i : ℕ) :
    f (topicText topics i) = (topicAt log i).bind f := by
  rw [topicText_eq htopics]
  cases topicAt log i with
  | none => exact hf
  | some t => rfl

theorem WellFormed.ascii_topicText (h : WellFormed log) {topics : List Json}
    (htopics : logTopics log = some topics) (i : ℕ) :
    ∀ c ∈ (topicText topics i).toList, c.toNat < 128 := by
  rw [topicText_eq htopics]
  cases ht : topicAt log i with
  | none => exact fun c hc => absurd hc List.not_mem_nil
  | some t => exact h.ascii i t ht

/-- A log that counts adds its amount, and no other one changes the total. -/
theorem addLog_of_wellFormed (h : WellFormed log) (total : ℕ) :
    addLog token.debug transferTopic (some recipient) false total log =
      .ok (some (if Counts token recipient log then addAmount total log else total)) := by
  obtain ⟨topics, htopics⟩ := Option.isSome_iff_exists.mp h.topics
  have hevent := topicText_bind (f := B256.parse) (by decide) htopics 0
  have hthird : parseAddressFromTopic (topicText topics 2) =
      .ok ((topicAt log 2).bind spelledAddress) := by
    rw [parseAddressFromTopic_of_ascii (h.ascii_topicText htopics 2),
      topicText_bind (f := spelledAddress) (by decide) htopics 2]
  rw [addLog]
  split
  · rename_i haddress
    rw [if_neg fun hcounts => haddress (logAddress_eq_iff.mpr hcounts.address)]
  · rename_i haddress
    simp only [htopics, hevent]
    cases htopic0 : (topicAt log 0).bind B256.parse with
    | none =>
        have hcounts : ¬ Counts token recipient log := fun hcounts => by
          have htransfer := hcounts.transfer
          rw [htopic0] at htransfer
          cases htransfer
        rw [if_neg hcounts]
    | some topic0 =>
        by_cases htransfer : topic0 = transferTopic
        · have hcounts : Counts token recipient log ↔
              (topicAt log 2).bind spelledAddress = some recipient :=
            ⟨fun hcounts => hcounts.recipient, fun hto =>
              ⟨logAddress_eq_iff.mp (not_not.mp haddress), by rw [htopic0, htransfer], hto⟩⟩
          simp only [htransfer, ne_eq, not_true_eq_false, if_false, Bool.false_eq_true, hthird,
            Except.map, hcounts, ite_not]
        · have hcounts : ¬ Counts token recipient log := fun hcounts =>
            htransfer (Option.some.inj (htopic0.symm.trans hcounts.transfer))
          simp only [ne_eq, htransfer, not_false_eq_true, if_true, if_neg hcounts]

theorem received_cons (log : Json) (logs : List Json) :
    received token recipient (log :: logs) =
      (if Counts token recipient log then logAmount log else 0) +
        received token recipient logs := by
  simp only [received, List.filter_cons, decide_eq_true_eq]
  split
  · rw [List.map_cons, List.sum_cons]
  · rw [Nat.zero_add]

/-- While the total fits, the loop adds up what counts. -/
theorem addLogs_of_wellFormed (h : ∀ log ∈ logs, WellFormed log)
    (hfits : total + received token recipient logs < U256.modulus) :
    addLogs token.debug transferTopic (some recipient) false total logs =
      .ok (some (total + received token recipient logs)) := by
  induction logs generalizing total with
  | nil => rfl
  | cons log logs ih =>
      rw [received_cons, ← Nat.add_assoc] at hfits ⊢
      have hstep : (if Counts token recipient log then addAmount total log else total) =
          total + if Counts token recipient log then logAmount log else 0 := by
        split
        · rename_i hcounts
          rw [if_pos hcounts] at hfits
          exact addAmount_of_lt ((Nat.le_add_right _ _).trans_lt hfits)
        · rfl
      rw [addLogs, addLog_of_wellFormed (h log List.mem_cons_self), hstep]
      exact ih (fun log hlog => h log (List.mem_cons_of_mem _ hlog)) hfits

end Sum

/-! ### The logs of the chain -/

/-- The JSON of a log. Its other fields are not read. -/
structure Serializes (v : Json) (log : Indexer.Log) : Prop where
  address : v.get "address" = some (.string log.address.debug)
  topics : v.get "topics" = some (.array (log.topics.map fun word => .string word.debug))
  data : v.get "data" = some (.string (String.ofList ('0' :: 'x' :: encodeHex log.data)))

def logJson (log : Indexer.Log) : Json :=
  .object [("address", .string log.address.debug),
    ("topics", .array (log.topics.map fun word => .string word.debug)),
    ("data", .string (String.ofList ('0' :: 'x' :: encodeHex log.data)))]

theorem serializes_logJson (log : Indexer.Log) : Serializes (logJson log) log where
  address := by simp [logJson, Json.get, List.lookup_cons]
  topics := by simp [logJson, Json.get, List.lookup_cons]
  data := by simp [logJson, Json.get]

section Words

variable {bytes : List UInt8}

theorem hexTrimmed_encodeHex (bytes : List UInt8) :
    hexTrimmed (String.ofList ('0' :: 'x' :: encodeHex bytes)) = encodeHex bytes := by
  have htrim : trimChars ('0' :: 'x' :: encodeHex bytes) = '0' :: 'x' :: encodeHex bytes :=
    Trim.trimBy_eq_self fun c hc => isWhitespace_of_mem_encodeHex hc
  -- No digit is the letter of a prefix.
  have hself : ∀ letter, hexValue letter = none →
      trimStartPair letter (encodeHex bytes) = encodeHex bytes := by
    intro letter hletter
    have hvalue := hexValue_isSome_of_decodeHex (decodeHex_encodeHex bytes)
    rw [trimStartPair.eq_def]
    split
    · rename_i c cs heq
      rw [heq] at hvalue ⊢
      refine if_neg fun hc => ?_
      have hsome := hvalue c (List.mem_cons_of_mem _ List.mem_cons_self)
      rw [hc, hletter] at hsome
      cases hsome
    · rfl
  rw [hexTrimmed, String.toList_ofList, htrim, trimStartPair, if_pos rfl, hself 'x' (by decide),
    hself 'X' (by decide)]

theorem digits_hexDigit {n : ℕ} (h : n < 16) (cs : List Char) :
    U256.digits 16 (hexDigit n :: cs) = (U256.digits 16 cs).map (n :: ·) := by
  have hdigit : ∀ n < 16, hexDigit n ≠ '_' ∧ U256.digitValue (hexDigit n) = some n := by decide
  simp only [U256.digits, if_neg (hdigit n h).1, (hdigit n h).2, if_pos h]

theorem digits_encodeHex (bytes : List UInt8) :
    U256.digits 16 (encodeHex bytes) =
      some (bytes.flatMap fun b => [b.toNat / 16, b.toNat % 16]) := by
  induction bytes with
  | nil => rfl
  | cons b bytes ih =>
      have hhigh : b.toNat / 16 < 16 := by
        have hb := b.toNat_lt
        omega
      rw [encodeHex] at ih
      simp only [encodeHex, List.flatMap_cons, List.cons_append, List.nil_append,
        digits_hexDigit hhigh, digits_hexDigit (Nat.mod_lt b.toNat (show 0 < 16 by decide)), ih,
        Option.map_some]

/-- Two digits of base sixteen are one of base 256. -/
theorem foldl_nibbles (bytes : List UInt8) :
    (bytes.flatMap fun b => [b.toNat / 16, b.toNat % 16]).foldl (fun acc d => acc * 16 + d) 0 =
      BigEndian.ofBytes bytes := by
  have hbyte : ∀ (acc : ℕ) (b : UInt8),
      (acc * 16 + b.toNat / 16) * 16 + b.toNat % 16 = 256 * acc + b.toNat := by
    intro acc b
    omega
  rw [List.foldl_flatMap, BigEndian.ofBytes]
  simp only [List.foldl_cons, List.foldl_nil, hbyte]

theorem spelledAddress_debug (word : B256) :
    spelledAddress word.debug = some (addressFromWord word) := by
  have htrim :
      trimChars ('0' :: 'x' :: encodeHex word.bytes) = '0' :: 'x' :: encodeHex word.bytes :=
    Trim.trimBy_eq_self fun c hc => isWhitespace_of_mem_encodeHex hc
  have hlast : ('0' :: 'x' :: encodeHex word.bytes).drop
      (('0' :: 'x' :: encodeHex word.bytes).length - 40) = encodeHex (word.bytes.drop 12) := by
    have hsplit : '0' :: 'x' :: encodeHex word.bytes =
        ('0' :: 'x' :: encodeHex (word.bytes.take 12)) ++ encodeHex (word.bytes.drop 12) := by
      rw [List.cons_append, List.cons_append, ← encodeHex_append, List.take_append_drop]
    have hlen : ('0' :: 'x' :: encodeHex word.bytes).length - 40 =
        ('0' :: 'x' :: encodeHex (word.bytes.take 12)).length := by
      simp [word.size]
    rw [hlen, hsplit, List.drop_left]
  rw [spelledAddress, B256.debug, String.toList_ofList, htrim]
  simp only [hlast, decodeHex_encodeHex, Option.bind_some]
  exact dif_pos (addressFromWord word).size

end Words

section Chain

variable {token recipient : Address} {v : Json} {log : Indexer.Log}

theorem Serializes.topicAt_eq (h : Serializes v log) (i : ℕ) :
    topicAt v i = (log.topics[i]?).map B256.debug := by
  rw [topicAt, logTopics, h.topics, Option.bind_some, Json.asArray, Option.bind_some,
    List.getElem?_map, Option.bind_map]
  cases log.topics[i]? with
  | none => rfl
  | some word => rfl

theorem Serializes.wellFormed (h : Serializes v log) : WellFormed v where
  topics := by
    rw [logTopics, h.topics]
    rfl
  ascii := by
    intro i t ht c hc
    rw [h.topicAt_eq] at ht
    obtain ⟨word, -, rfl⟩ := Option.map_eq_some_iff.mp ht
    rw [B256.debug, String.toList_ofList] at hc
    rcases List.mem_cons.mp hc with rfl | hc
    · decide
    · rcases List.mem_cons.mp hc with rfl | hc
      · decide
      · exact forall_mem_encodeHex (P := fun c => c.toNat < 128) (by decide) word.bytes c hc

/-- A log of the chain counts if it is a transfer of the token to the recipient. -/
theorem Serializes.counts_iff (h : Serializes v log) :
    Counts token recipient v ↔ log.address = token ∧ log.topics[0]? = some transferTopic ∧
      (log.topics[2]?).map addressFromWord = some recipient := by
  have haddress : ((v.get "address").bind Json.asStr).map toAsciiLowercase = some token.debug ↔
      log.address = token := by
    rw [h.address, Option.bind_some, Json.asStr, Option.map_some, Option.some.injEq,
      toAsciiLowercase, Address.map_toLower_debug, String.ofList_toList]
    exact ⟨fun heq => Address.eqIgnoreAsciiCase_debug.mp (heq ▸ eqIgnoreAsciiCase_refl _),
      congrArg Address.debug⟩
  have htransfer : (topicAt v 0).bind B256.parse = log.topics[0]? := by
    rw [h.topicAt_eq, Option.bind_map]
    cases log.topics[0]? with
    | none => rfl
    | some word => rw [Option.bind_some, Function.comp_apply, B256.parse_debug]
  have hrecipient : (topicAt v 2).bind spelledAddress = (log.topics[2]?).map addressFromWord := by
    rw [h.topicAt_eq, Option.bind_map]
    cases log.topics[2]? with
    | none => rfl
    | some word =>
        rw [Option.bind_some, Function.comp_apply, spelledAddress_debug, Option.map_some]
  constructor
  · intro hcounts
    exact ⟨haddress.mp hcounts.address, htransfer.symm.trans hcounts.transfer,
      hrecipient.symm.trans hcounts.recipient⟩
  · rintro ⟨htoken, hevent, hto⟩
    exact ⟨haddress.mpr htoken, htransfer.trans hevent, hrecipient.trans hto⟩

/-- Its amount is the number that its data are. -/
theorem Serializes.logAmount_eq (h : Serializes v log) :
    logAmount v = BigEndian.ofBytes log.data := by
  rw [logAmount, logData, h.data, Option.bind_some, Json.asStr, Option.getD_some,
    hexTrimmed_encodeHex, digits_encodeHex, Option.map_some, Option.getD_some,
    foldl_nibbles]

end Chain

/-! ### The amount of a receipt -/

/-- The logs of a receipt. Its other fields are not read. -/
def HasLogs (receipt : Json) (logs : List Json) : Prop := receipt.get "logs" = some (.array logs)

namespace Sample

theorem length_account (b : UInt8) : (List.replicate 20 b).length = 20 := List.length_replicate

/-- Twenty times the same byte. -/
def account (b : UInt8) : Address := ⟨List.replicate 20 b, length_account b⟩

/-- A transfer from the address of zeros. -/
def transferLog (token : Address) (receiver amount : UInt8) : Indexer.Log where
  address := token
  topics := [transferTopic, ⟨List.replicate 32 0, by simp⟩,
    ⟨List.replicate 12 0 ++ (account receiver).bytes, by simp [(account receiver).size]⟩]
  data := [amount]
  blockNumber := none
  transactionHash := none
  logIndex := none

/-- Of two transfers of a token, one goes to the first account. -/
def transfers : List Json :=
  [logJson (transferLog (account 2) 3 9), logJson (transferLog (account 2) 1 15)]

def transferReceipt : Json := .object [("logs", .array transfers)]

end Sample

section Receipt

variable {receipt : Json} {logs : List Json} {token recipient : Address}

theorem extractReceivedFromLogs_of_wellFormed (hlogs : HasLogs receipt logs)
    (h : ∀ log ∈ logs, WellFormed log) (hfits : received token recipient logs < 2 ^ 256) :
    extractReceivedFromLogs token.debug transferTopic (some recipient) false receipt =
      .ok (if received token recipient logs = 0 then none
        else some (received token recipient logs)) := by
  have hsum : addLogs token.debug transferTopic (some recipient) false 0 logs =
      .ok (some (0 + received token recipient logs)) :=
    addLogs_of_wellFormed h (by rwa [Nat.zero_add])
  rw [Nat.zero_add] at hsum
  rw [extractReceivedFromLogs, hlogs, Option.bind_some, Json.asArray]
  simp only [hsum, Except.map, Option.filter_some, ne_eq, decide_not, Bool.not_eq_true',
    decide_eq_false_iff_not, ite_not]

/-- The transfers of the token to the recipient are added up, in whatever order the logs
stand and whatever other logs stand between them. -/
theorem extractReceivedFromLogs_spec (token recipient : Address) (hlogs : HasLogs receipt logs)
    (hwf : ∀ log ∈ logs, WellFormed log) (hfits : received token recipient logs < 2 ^ 256) :
    extractReceivedFromLogs token.debug transferTopic (some recipient) false receipt =
        .ok (if received token recipient logs = 0 then none
          else some (received token recipient logs)) ∧
      (∀ receipt' logs', HasLogs receipt' logs' → logs'.Perm logs →
        extractReceivedFromLogs token.debug transferTopic (some recipient) false receipt' =
          extractReceivedFromLogs token.debug transferTopic (some recipient) false receipt) ∧
      (∀ receipt' front log back, logs = front ++ back → HasLogs receipt' (front ++ log :: back) →
        WellFormed log → ¬ Counts token recipient log →
        extractReceivedFromLogs token.debug transferTopic (some recipient) false receipt' =
          extractReceivedFromLogs token.debug transferTopic (some recipient) false receipt) ∧
      ∀ v log, Serializes v log → WellFormed v ∧
        (Counts token recipient v ↔ log.address = token ∧ log.topics[0]? = some transferTopic ∧
          (log.topics[2]?).map addressFromWord = some recipient) ∧
        logAmount v = BigEndian.ofBytes log.data := by
  have hsame : ∀ receipt' logs', HasLogs receipt' logs' → (∀ log ∈ logs', WellFormed log) →
      received token recipient logs' = received token recipient logs →
      extractReceivedFromLogs token.debug transferTopic (some recipient) false receipt' =
        extractReceivedFromLogs token.debug transferTopic (some recipient) false receipt := by
    intro receipt' logs' hlogs' hwf' hsum
    rw [extractReceivedFromLogs_of_wellFormed hlogs' hwf' (hsum ▸ hfits), hsum,
      extractReceivedFromLogs_of_wellFormed hlogs hwf hfits]
  refine ⟨extractReceivedFromLogs_of_wellFormed hlogs hwf hfits, ?_, ?_, ?_⟩
  · intro receipt' logs' hlogs' hperm
    refine hsame receipt' logs' hlogs' (fun log hlog => hwf log (hperm.mem_iff.mp hlog)) ?_
    exact ((hperm.filter _).map _).sum_eq
  · rintro receipt' front log back rfl hlogs' hlog hcounts
    refine hsame receipt' _ hlogs' (fun other hother => ?_) ?_
    · rcases List.mem_append.mp hother with hother | hother
      · exact hwf other (List.mem_append_left _ hother)
      · rcases List.mem_cons.mp hother with rfl | hother
        · exact hlog
        · exact hwf other (List.mem_append_right _ hother)
    · simp only [received, List.filter_append, List.filter_cons, decide_eq_true_eq, if_neg hcounts]
  · exact fun v log h => ⟨h.wellFormed, h.counts_iff, h.logAmount_eq⟩

theorem extractReceivedFromLogs_transfers :
    extractReceivedFromLogs (Sample.account 2).debug transferTopic (some (Sample.account 1)) false
      Sample.transferReceipt = .ok (some 15) := by
  have hwf : ∀ log ∈ Sample.transfers, WellFormed log := by
    intro log hlog
    rcases List.mem_cons.mp hlog with rfl | hlog
    · exact (serializes_logJson _).wellFormed
    · rw [List.mem_singleton.mp hlog]
      exact (serializes_logJson _).wellFormed
  have hsum : received (Sample.account 2) (Sample.account 1) Sample.transfers = 15 := by
    decide +kernel
  have hlogs : HasLogs Sample.transferReceipt Sample.transfers := rfl
  have hspec := (extractReceivedFromLogs_spec (Sample.account 2) (Sample.account 1) hlogs hwf
    (by rw [hsum]; decide)).1
  rw [hsum] at hspec
  exact hspec

/-- The look-up of an executed swap tells the engine that amount. -/
theorem fetchReceiptWithReceived_of_success {cfg : Settings} {chain targetToken : String}
    (htoken : eqIgnoreAsciiCase targetToken token.debug = true)
    (hnative : isNativeTokenPlaceholder targetToken = false)
    (hsuccess : parseReceiptSuccessFromJson receipt = some true) (hlogs : HasLogs receipt logs)
    (hwf : ∀ log ∈ logs, WellFormed log) (hfits : received token recipient logs < 2 ^ 256) :
    fetchReceiptWithReceived cfg chain targetToken recipient (some receipt) =
      .ok (.success (if received token recipient logs = 0 then none
        else some (received token recipient logs))) := by
  have hlower : toAsciiLowercase targetToken = token.debug := by
    rw [toAsciiLowercase, eqIgnoreAsciiCase_iff.mp htoken, Address.map_toLower_debug,
      String.ofList_toList]
  have hextract := extractReceivedFromLogs_of_wellFormed hlogs hwf hfits
  simp only [fetchReceiptWithReceived, hsuccess, receivedAmount, hnative, Bool.false_eq_true,
    if_false, hlower, hextract]
  rfl

end Receipt

end Liquifier.Engine
