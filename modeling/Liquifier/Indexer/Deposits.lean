import Liquifier.Gateway.Deposits
import Liquifier.Indexer.Parser

/-!
The transfers to the wallets of the users that the indexer publishes.

The indexer keeps the wallets of common users by their addresses and loads them anew from
time to time. A worker takes a block, and of every `Transfer` log in it whose recipient is
in the map it makes a message. The map does not tell chains apart, and what it says of a
wallet is as old as the last load.
-/

namespace Liquifier.Indexer

open Gateway (Crates DepositEvent Users)
open Kms (WalletRow)

/-- Transfer(address from, address to, uint256 value). -/
def erc20TransferSig : B256 where
  bytes := (decodeHex
    "ddf252ad1be2c89b69c2b068fc378daa952ba7f163c4a11628f55a4df523b3ef".toList).getD []
  size := rfl

/-- A wallet and its user, as texts, by the address of the wallet; later entries come
first. -/
abbrev WalletLookup := List (Address × (String × String))

/-- `SELECT w.address, w.id::text, w.user_id::text FROM wallets w JOIN users u ON u.id =
w.user_id WHERE u.role = 'common'`, in some order. -/
def commonWallets (lib : Crates) (users : Users) (wallets : List WalletRow) :
    List (String × String × String) :=
  (wallets.filter fun w => (users.byId w.userId).any (·.role = .common)).map fun w =>
    (w.address, lib.uuidToString w.id, lib.uuidToString w.userId)

/-- One turn of the loop of `refresh_wallet_lookup`. -/
def insertWallet (map : WalletLookup) (row : String × String × String) : WalletLookup :=
  match Address.parse row.1 with
  | some parsed => (parsed, row.2) :: map
  | none => map

def walletLookup (rows : List (String × String × String)) : WalletLookup :=
  rows.foldl insertWallet []

/-- Try to parse an ERC-20 Transfer log as a deposit to a known wallet. -/
def tryParseDeposit (chain : String) (log : Log) (lookup : WalletLookup) : Option DepositEvent :=
  match log.topics with
  | _ :: fromTopic :: toTopic :: _ =>
      if log.data.length < 32 then none
      else
        (lookup.lookup (addressFromWord toTopic)).map fun wallet => {
          chain
          blockNumber := UInt64.ofNat (log.blockNumber.getD 0)
          txHash := (log.transactionHash.map B256.debug).getD ""
          logIndex := UInt32.ofNat (log.logIndex.getD 0)
          tokenAddress := log.address.debug
          fromAddress := (addressFromWord fromTopic).debug
          toAddress := (addressFromWord toTopic).debug
          amount := toString (dataWord log.data 0)
          walletId := wallet.1
          userId := wallet.2 }
  | _ => none

/-- What `process_receipt_log` makes for the stream of deposits. -/
def depositOf (chain : String) (log : Log) (lookup : WalletLookup) : Option DepositEvent :=
  match log.topics.head? with
  | some topic0 => if topic0 = erc20TransferSig then tryParseDeposit chain log lookup else none
  | none => none

/-! ### Blocks -/

/-- A log that `process_receipt_log` has been called with, under the map that it found.
`publishes` tells whether its message, if there is one, has reached the stream. -/
structure ProcessedLog where
  chain : String
  log : Log
  lookup : WalletLookup
  publishes : Bool

def ProcessedLog.deposit (p : ProcessedLog) : Option DepositEvent :=
  depositOf p.chain p.log p.lookup

/-- The messages on the stream. -/
def published (processed : List ProcessedLog) : List DepositEvent :=
  processed.filterMap fun p => if p.publishes then p.deposit else none

theorem mem_published {processed : List ProcessedLog} {d : DepositEvent} :
    d ∈ published processed ↔ ∃ p ∈ processed, p.publishes = true ∧ p.deposit = some d := by
  simp [published, Option.ite_none_right_eq_some]

/-- Where `process_block` is: the logs behind it and the logs to come. -/
inductive BlockPhase where
  | fetch
  | receipts
  | logs (before rest : List Log)
  /-- An error, no block, no receipts, or a block that is too old. -/
  | ended

/-- The answers of the node: `none` is an error, and `some none` is an answer without the
block or the receipts. -/
inductive BlockAct where
  | block (timestamp : Option (Option ℕ)) (now : ℕ)
  | receipts (logs : Option (Option (List (List Log))))
  | log (publishes : Bool)

/-- `process_block`, and what it processes. -/
def blockStep (chain : String) (maxBlockAgeSecs : ℕ) (lookup : WalletLookup) :
    BlockPhase → BlockAct → Option (List ProcessedLog × BlockPhase)
  | .fetch, .block (some (some timestamp)) now =>
      some ([], if maxBlockAgeSecs < now - timestamp then .ended else .receipts)
  | .fetch, .block _ _ => some ([], .ended)
  | .receipts, .receipts (some (some receipts)) => some ([], .logs [] receipts.flatten)
  | .receipts, .receipts _ => some ([], .ended)
  | .logs before (log :: rest), .log publishes =>
      some ([⟨chain, log, lookup, publishes⟩], .logs (before ++ [log]) rest)
  | _, _ => none

/-- All that a step of `process_block` can do. -/
theorem blockStep_cases {chain : String} {maxBlockAgeSecs : ℕ} {lookup : WalletLookup}
    {phase phase' : BlockPhase} {a : BlockAct} {new : List ProcessedLog}
    (h : blockStep chain maxBlockAgeSecs lookup phase a = some (new, phase')) :
    (new = [] ∧ (∀ before rest, phase' = .logs before rest → before = [])) ∨
      ∃ before log rest publishes, phase = .logs before (log :: rest) ∧
        new = [⟨chain, log, lookup, publishes⟩] ∧ phase' = .logs (before ++ [log]) rest := by
  unfold blockStep at h
  split at h
  · cases h
    refine .inl ⟨rfl, fun before rest hphase => ?_⟩
    split at hphase <;> cases hphase
  · cases h
    exact .inl ⟨rfl, fun before rest hphase => by cases hphase⟩
  · cases h
    exact .inl ⟨rfl, fun before rest hphase => by cases hphase; rfl⟩
  · cases h
    exact .inl ⟨rfl, fun before rest hphase => by cases hphase⟩
  · rename_i before log rest publishes
    cases h
    exact .inr ⟨before, log, rest, publishes, rfl, rfl, rfl⟩
  · cases h

/-! ### What a message says -/

/-- The message is about the transfer of the log to the wallet. -/
structure Announces (lib : Crates) (chain : String) (log : Log) (w : WalletRow) (d : DepositEvent) :
    Prop where
  transfer : log.topics.head? = some erc20TransferSig
  data : 32 ≤ log.data.length
  recipient : ∃ toTopic, log.topics[2]? = some toTopic ∧
    Address.parse w.address = some (addressFromWord toTopic) ∧
    d.toAddress = (addressFromWord toTopic).debug
  sender : ∃ fromTopic, log.topics[1]? = some fromTopic ∧
    d.fromAddress = (addressFromWord fromTopic).debug
  chain : d.chain = chain
  token : d.tokenAddress = log.address.debug
  amount : d.amount = toString (dataWord log.data 0)
  txHash : d.txHash = (log.transactionHash.map B256.debug).getD ""
  logIndex : d.logIndex = UInt32.ofNat (log.logIndex.getD 0)
  wallet : d.walletId = lib.uuidToString w.id ∧ d.userId = lib.uuidToString w.userId

/-- Every entry is for a wallet of the table, under its address. -/
def LookupSound (lib : Crates) (wallets : List WalletRow) (lookup : WalletLookup) : Prop :=
  ∀ entry ∈ lookup, ∃ w ∈ wallets, Address.parse w.address = some entry.1 ∧
    entry.2 = (lib.uuidToString w.id, lib.uuidToString w.userId)

section Sound

variable {lib : Crates} {wallets : List WalletRow} {lookup : WalletLookup}

theorem LookupSound.mono {wallets' : List WalletRow} (h : LookupSound lib wallets lookup)
    (hsub : wallets ⊆ wallets') : LookupSound lib wallets' lookup := by
  intro entry hentry
  obtain ⟨w, hw, haddress, hids⟩ := h entry hentry
  exact ⟨w, hsub hw, haddress, hids⟩

/-- By induction on the rows: an entry comes from a row of the query. -/
theorem mem_foldl_insertWallet {rows : List (String × String × String)} {map : WalletLookup}
    {entry : Address × (String × String)} (h : entry ∈ rows.foldl insertWallet map) :
    entry ∈ map ∨ ∃ row ∈ rows, Address.parse row.1 = some entry.1 ∧ row.2 = entry.2 := by
  induction rows generalizing map with
  | nil => exact .inl h
  | cons row rows ih =>
      rcases ih h with h | ⟨row', hrow', hentry⟩
      · unfold insertWallet at h
        split at h
        · rename_i parsed hparsed
          rcases List.mem_cons.mp h with rfl | h
          · exact .inr ⟨row, List.mem_cons_self, hparsed, rfl⟩
          · exact .inl h
        · exact .inl h
      · exact .inr ⟨row', List.mem_cons_of_mem row hrow', hentry⟩

theorem lookupSound_walletLookup {users : Users} {rows : List (String × String × String)}
    (h : rows.Perm (commonWallets lib users wallets)) :
    LookupSound lib wallets (walletLookup rows) := by
  intro entry hentry
  rcases mem_foldl_insertWallet hentry with hnil | ⟨row, hrow, haddress, hids⟩
  · cases hnil
  · obtain ⟨w, hw, rfl⟩ := List.mem_map.mp (h.mem_iff.mp hrow)
    exact ⟨w, (List.mem_filter.mp hw).1, haddress, hids.symm⟩

theorem tryParseDeposit_announces {chain : String} {log : Log} {d : DepositEvent}
    (hlookup : LookupSound lib wallets lookup) (htopic0 : log.topics.head? = some erc20TransferSig)
    (h : tryParseDeposit chain log lookup = some d) :
    ∃ w ∈ wallets, Announces lib chain log w d := by
  unfold tryParseDeposit at h
  split at h
  · rename_i topic fromTopic toTopic more htopics
    obtain ⟨hdata, h⟩ := Option.ite_none_left_eq_some.mp h
    obtain ⟨ids, hids, rfl⟩ := Option.map_eq_some_iff.mp h
    obtain ⟨before, after, hsplit, -⟩ := List.lookup_eq_some_iff.mp hids
    obtain ⟨w, hw, haddress, heq⟩ := hlookup (addressFromWord toTopic, ids) (by simp [hsplit])
    obtain rfl : ids = _ := heq
    exact ⟨w, hw, ⟨htopic0, Nat.le_of_not_lt hdata, ⟨toTopic, by rw [htopics]; rfl, haddress, rfl⟩,
      ⟨fromTopic, by rw [htopics]; rfl, rfl⟩, rfl, rfl, rfl, rfl, rfl, rfl, rfl⟩⟩
  · cases h

theorem depositOf_announces {chain : String} {log : Log} {d : DepositEvent}
    (hlookup : LookupSound lib wallets lookup) (h : depositOf chain log lookup = some d) :
    ∃ w ∈ wallets, Announces lib chain log w d := by
  unfold depositOf at h
  split at h
  · rename_i topic0 htopic0
    obtain ⟨rfl, hdeposit⟩ := Option.ite_none_right_eq_some.mp h
    exact tryParseDeposit_announces hlookup htopic0 hdeposit
  · cases h

end Sound

end Liquifier.Indexer
