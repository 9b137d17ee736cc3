import Liquifier.Frontend.LiveData
import Liquifier.Lib.Redelivery
import Mathlib.Data.Finset.Dedup

/-!
Trades that are delivered more than once.

The messages of completed trades reach a page in any order, and some of them again. What
the live data say of them is determined by which trades have come: the amounts of a session
are moved once for each of its trades, and each is listed once.
-/

namespace Liquifier.Frontend

open Redelivery

/-! ### What a message says -/

namespace Trade

variable (trade : Trade)

/-- The trades of a session are told apart by their ids. -/
def key : String × String := (trade.sessionId, trade.tradeId)

/-- What was sold, and `none` where `BigInt` throws. -/
def amount : Option ℤ := bigInt (orZero trade.sellAmount)

def delivery : String × String × Option ℤ := (trade.sessionId, trade.tradeId, trade.amount)

end Trade

/-- Messages of one trade say the same of what was sold, and that is not negative. -/
structure Consistent (trades : List Trade) : Prop where
  same : ∀ t ∈ trades, ∀ u ∈ trades, t.key = u.key → t.amount = u.amount
  nonneg : ∀ t ∈ trades, ∀ n, t.amount = some n → 0 ≤ n

/-! ### The totals of a session -/

/-- A text that is a number is moved, and another stays. -/
def moveText (f : ℤ → ℤ) (text : String) : String :=
  ((bigInt (orZero text)).map fun n => toString (f n)).getD text

theorem moveText_moveText (f g : ℤ → ℤ) (text : String) :
    moveText f (moveText g text) = moveText (f ∘ g) text := by
  cases h : bigInt (orZero text) with
  | none =>
      have hstays : ∀ k : ℤ → ℤ, moveText k text = text := fun k => by rw [moveText, h]; rfl
      rw [hstays, hstays, hstays]
  | some n =>
      have hmoves : ∀ k : ℤ → ℤ, moveText k text = toString (k n) := fun k => by
        rw [moveText, h]
        rfl
      rw [hmoves, hmoves, moveText, bigInt_orZero_toString]
      rfl

/-- The live data of a session without its trades. -/
structure LiveTotals where
  amountSold : String
  remaining : String
  convertedValueUsd : String
  status : String

namespace LiveTotals

/-- The totals after a sale; no less than nothing remains. -/
def sell (totals : LiveTotals) (amount : Option ℤ) : LiveTotals :=
  match amount with
  | some n =>
      { totals with
        amountSold := moveText (· + n) totals.amountSold
        remaining := moveText (fun left => max (left - n) 0) totals.remaining }
  | none => totals

/-- Taking off more than there is and then something else leaves nothing either way. -/
theorem sell_comm {a b : Option ℤ} (ha : ∀ n, a = some n → 0 ≤ n) (hb : ∀ n, b = some n → 0 ≤ n)
    (totals : LiveTotals) : (totals.sell a).sell b = (totals.sell b).sell a := by
  cases a with
  | none => rfl
  | some n =>
      cases b with
      | none => rfl
      | some k =>
          have hn := ha n rfl
          have hk := hb k rfl
          have hsold : (· + k) ∘ (· + n) = (· + n) ∘ (· + k) := by
            funext x
            exact Int.add_right_comm x n k
          have hleft : (fun left : ℤ => max (left - k) 0) ∘ (fun left => max (left - n) 0) =
              (fun left => max (left - n) 0) ∘ fun left => max (left - k) 0 := by
            funext x
            simp only [Function.comp_apply]
            omega
          simp only [sell, moveText_moveText, hsold, hleft]

end LiveTotals

namespace SessionLiveData

variable (existing : SessionLiveData) (trade : Trade)

def totals : LiveTotals :=
  ⟨existing.amountSold, existing.remaining, existing.convertedValueUsd, existing.status⟩

/-- The ids of the trades and the totals. -/
def summary : Finset String × LiveTotals :=
  ((tradeIds existing.recentTrades).toFinset, existing.totals)

variable {existing trade}

theorem mem_summary {tradeId : String} :
    tradeId ∈ existing.summary.1 ↔ tradeId ∈ tradeIds existing.recentTrades := List.mem_toFinset

theorem nextAmountSold_of_notMem (h : trade.tradeId ∉ tradeIds existing.recentTrades) :
    existing.nextAmountSold trade = (existing.totals.sell trade.amount).amountSold := by
  rw [nextAmountSold, if_neg fun hd => h (isDuplicateTrade_iff.mp hd), ← Trade.amount]
  cases trade.amount with
  | none => cases bigInt (orZero existing.amountSold) <;> rfl
  | some n =>
      simp only [LiveTotals.sell, totals, moveText]
      cases bigInt (orZero existing.amountSold) <;> rfl

theorem nextRemaining_of_notMem (h : trade.tradeId ∉ tradeIds existing.recentTrades) :
    existing.nextRemaining trade = (existing.totals.sell trade.amount).remaining := by
  rw [nextRemaining, if_neg fun hd => h (isDuplicateTrade_iff.mp hd), ← Trade.amount]
  cases trade.amount with
  | none => cases bigInt (orZero existing.remaining) <;> rfl
  | some n =>
      simp only [LiveTotals.sell, totals, moveText]
      cases bigInt (orZero existing.remaining) with
      | none => rfl
      | some left =>
          simp only [Option.map_some, Option.getD_some]
          split
          · rename_i hlt
            rw [max_eq_left (by omega)]
          · rename_i hge
            rw [max_eq_right (by omega)]
            rfl

/-- `updateSession` is a receiver that remembers the trades. -/
theorem summary_complete (existing : SessionLiveData) (trade : Trade) :
    (existing.complete trade).summary =
      receive LiveTotals.sell existing.summary (trade.tradeId, trade.amount) := by
  have hids : ∀ seen : Finset String, (∀ k, k ∈ seen ↔
      k = trade.tradeId ∨ k ∈ tradeIds existing.recentTrades) →
      (existing.complete trade).summary.1 = seen := fun seen hseen => by
    ext k
    rw [mem_summary, mem_tradeIds_complete, hseen]
  by_cases h : trade.tradeId ∈ tradeIds existing.recentTrades
  · obtain ⟨hsold, hleft⟩ := complete_of_mem h
    rw [receive_of_mem (mem_summary.mpr h)]
    refine Prod.ext (hids _ fun k => ?_) ?_
    · rw [mem_summary]
      exact ⟨.inr, fun hk => hk.elim (fun heq => heq ▸ h) id⟩
    · simp only [summary, totals, hsold, hleft]
      rfl
  · rw [receive_of_notMem (mt mem_summary.mp h)]
    refine Prod.ext (hids _ fun k => ?_) ?_
    · rw [Finset.mem_insert, mem_summary]
    · have hsold := nextAmountSold_of_notMem h
      have hleft := nextRemaining_of_notMem h
      simp only [summary, totals, complete, hsold, hleft]
      cases trade.amount <;> rfl

theorem nodup_complete (trade : Trade) (h : (tradeIds existing.recentTrades).Nodup) :
    (tradeIds (existing.complete trade).recentTrades).Nodup := by
  rw [complete, tradeIds, List.map_cons, List.nodup_cons]
  constructor
  · rw [List.mem_map]
    rintro ⟨t, ht, heq⟩
    rw [dedupedTrades, List.mem_filter, decide_eq_true_eq] at ht
    exact ht.2 heq
  · exact h.sublist (List.filter_sublist.map _)

end SessionLiveData

/-! ### The store -/

/-- The store after the messages of completed trades. -/
def updateSessions (trades : List Trade) (sessions : LiveSessions) : LiveSessions :=
  trades.foldl (fun sessions trade => updateSession (.tradeCompleted trade) sessions) sessions

/-- No session lists a trade twice. -/
def UniqueTrades (sessions : LiveSessions) : Prop :=
  ∀ sessionId live, sessions sessionId = some live → (tradeIds live.recentTrades).Nodup

/-- The live data of two pages say the same but for the order of the trades and their
details, and list each trade once. -/
structure SameLiveData (live live' : SessionLiveData) : Prop where
  amountSold : live.amountSold = live'.amountSold
  remaining : live.remaining = live'.remaining
  convertedValueUsd : live.convertedValueUsd = live'.convertedValueUsd
  status : live.status = live'.status
  trades : ∀ tradeId, tradeId ∈ tradeIds live.recentTrades ↔ tradeId ∈ tradeIds live'.recentTrades
  nodup : (tradeIds live.recentTrades).Nodup
  nodup' : (tradeIds live'.recentTrades).Nodup

def summaries (sessions : LiveSessions) (sessionId : String) :
    Option (Finset String × LiveTotals) :=
  (sessions sessionId).map (·.summary)

/-- The receivers of all sessions. -/
def receiveTrade : (String → Option (Finset String × LiveTotals)) →
    String × String × Option ℤ → String → Option (Finset String × LiveTotals) :=
  route (create noLiveData.summary (receive LiveTotals.sell))

section Store

variable {sessions : LiveSessions} {ms ms' trades : List Trade}

theorem summaries_updateSession (sessions : LiveSessions) (trade : Trade) :
    summaries (updateSession (.tradeCompleted trade) sessions) =
      receiveTrade (summaries sessions) trade.delivery := by
  funext sessionId
  by_cases heq : sessionId = trade.sessionId
  · simp only [summaries, updateSession, receiveTrade, route, create, Trade.delivery, heq,
      Function.update_self, Option.map_some, SessionLiveData.summary_complete, Option.getD_map]
  · simp only [summaries, updateSession, receiveTrade, route, Trade.delivery,
      Function.update_of_ne heq]

theorem summaries_updateSessions (trades : List Trade) (sessions : LiveSessions) :
    summaries (updateSessions trades sessions) =
      (trades.map Trade.delivery).foldl receiveTrade (summaries sessions) := by
  rw [updateSessions, List.foldl_map]
  exact (List.foldl_hom summaries fun sessions trade =>
    (summaries_updateSession sessions trade).symm).symm

theorem tolerates_deliveries (h : Consistent trades) :
    Tolerates receiveTrade {m | m ∈ trades.map Trade.delivery} := by
  have hmem : ∀ {sessionId : String} {m : String × Option ℤ},
      (sessionId, m) ∈ trades.map Trade.delivery →
        ∃ t ∈ trades, t.sessionId = sessionId ∧ t.tradeId = m.1 ∧ t.amount = m.2 := by
    intro sessionId m hm
    obtain ⟨t, ht, hdelivery⟩ := List.mem_map.mp hm
    obtain ⟨hsession, hrest⟩ := Prod.mk.inj hdelivery
    obtain ⟨hid, hamount⟩ := Prod.mk.inj hrest
    exact ⟨t, ht, hsession, hid, hamount⟩
  refine Tolerates.route fun sessionId => Tolerates.create (tolerates_receive ?_ ?_) _
  · intro m hm m' hm' heq
    obtain ⟨t, ht, hsession, hid, hamount⟩ := hmem hm
    obtain ⟨u, hu, hsession', hid', hamount'⟩ := hmem hm'
    rw [← hamount, ← hamount']
    have hkey : t.key = u.key :=
      Prod.ext (hsession.trans hsession'.symm) (hid.trans (heq.trans hid'.symm))
    exact h.same t ht u hu hkey
  · intro m hm m' hm' totals
    obtain ⟨t, ht, -, -, hamount⟩ := hmem hm
    obtain ⟨u, hu, -, -, hamount'⟩ := hmem hm'
    exact LiveTotals.sell_comm (hamount ▸ h.nonneg t ht) (hamount' ▸ h.nonneg u hu) totals

/-- With messages that say the same of a trade, the same trades are the same messages but
for their order and number. -/
theorem mem_deliveries_iff (h : Consistent (ms ++ ms'))
    (hsame : ∀ key, key ∈ ms.map Trade.key ↔ key ∈ ms'.map Trade.key)
    (m : String × String × Option ℤ) :
    m ∈ ms.map Trade.delivery ↔ m ∈ ms'.map Trade.delivery := by
  have hsub : ∀ xs ys : List Trade, (∀ t ∈ xs, t ∈ ms ++ ms') → (∀ t ∈ ys, t ∈ ms ++ ms') →
      (∀ key ∈ xs.map Trade.key, key ∈ ys.map Trade.key) →
      m ∈ xs.map Trade.delivery → m ∈ ys.map Trade.delivery := by
    intro xs ys hxs hys hkeys hm
    obtain ⟨t, ht, rfl⟩ := List.mem_map.mp hm
    obtain ⟨u, hu, hkey⟩ := List.mem_map.mp (hkeys t.key (List.mem_map_of_mem ht))
    have hamount := h.same u (hys u hu) t (hxs t ht) hkey
    obtain ⟨hsession, hid⟩ := Prod.mk.inj hkey
    refine List.mem_map.mpr ⟨u, hu, ?_⟩
    rw [Trade.delivery, Trade.delivery, hsession, hid, hamount]
  have hleft : ∀ t ∈ ms, t ∈ ms ++ ms' := fun t ht => List.mem_append_left _ ht
  have hright : ∀ t ∈ ms', t ∈ ms ++ ms' := fun t ht => List.mem_append_right _ ht
  constructor
  · exact hsub ms ms' hleft hright fun key => (hsame key).mp
  · exact hsub ms' ms hright hleft fun key => (hsame key).mpr

theorem unique_updateSession (h : UniqueTrades sessions) (trade : Trade) :
    UniqueTrades (updateSession (.tradeCompleted trade) sessions) := by
  intro sessionId live hlive
  by_cases heq : sessionId = trade.sessionId
  · rw [heq, updateSession, Function.update_self] at hlive
    obtain rfl := Option.some.inj hlive
    refine SessionLiveData.nodup_complete trade ?_
    cases hold : sessions trade.sessionId with
    | none => exact List.nodup_nil
    | some live => exact h _ _ hold
  · rw [updateSession, Function.update_of_ne heq] at hlive
    exact h sessionId live hlive

theorem unique_updateSessions (h : UniqueTrades sessions) (trades : List Trade) :
    UniqueTrades (updateSessions trades sessions) :=
  List.foldlRecOn trades _ h fun _ hsessions trade _ => unique_updateSession hsessions trade

theorem SameLiveData.of_summary {live live' : SessionLiveData} (h : live.summary = live'.summary)
    (hnodup : (tradeIds live.recentTrades).Nodup) (hnodup' : (tradeIds live'.recentTrades).Nodup) :
    SameLiveData live live' := by
  obtain ⟨hids, htotals⟩ := Prod.mk.inj h
  exact {
    amountSold := congrArg LiveTotals.amountSold htotals
    remaining := congrArg LiveTotals.remaining htotals
    convertedValueUsd := congrArg LiveTotals.convertedValueUsd htotals
    status := congrArg LiveTotals.status htotals
    trades := fun tradeId => by
      rw [← SessionLiveData.mem_summary, h, SessionLiveData.mem_summary]
    nodup := hnodup
    nodup' := hnodup' }

/-- Two sequences of messages with the same trades, in any order and each any number of
times, leave the same live data of every session. -/
theorem updateSessions_redelivered (hunique : UniqueTrades sessions)
    (hconsistent : Consistent (ms ++ ms'))
    (hsame : ∀ key, key ∈ ms.map Trade.key ↔ key ∈ ms'.map Trade.key) (sessionId : String) :
    Option.Rel SameLiveData (updateSessions ms sessions sessionId)
      (updateSessions ms' sessions sessionId) := by
  have hall : ∀ m ∈ ms.map Trade.delivery, m ∈ (ms ++ ms').map Trade.delivery := fun m hm => by
    rw [List.map_append]
    exact List.mem_append_left _ hm
  have hsummaries : summaries (updateSessions ms sessions) =
      summaries (updateSessions ms' sessions) := by
    rw [summaries_updateSessions, summaries_updateSessions]
    exact (tolerates_deliveries hconsistent).foldl_eq hall (mem_deliveries_iff hconsistent hsame) _
  have hsummary := congrFun hsummaries sessionId
  rw [summaries, summaries] at hsummary
  cases hlive : updateSessions ms sessions sessionId with
  | none =>
      rw [hlive, Option.map_none, eq_comm, Option.map_eq_none_iff] at hsummary
      rw [hsummary]
      exact .none
  | some live =>
      rw [hlive, Option.map_some, eq_comm, Option.map_eq_some_iff] at hsummary
      obtain ⟨live', hlive', heq⟩ := hsummary
      rw [hlive']
      exact .some (.of_summary heq.symm (unique_updateSessions hunique ms _ _ hlive)
        (unique_updateSessions hunique ms' _ _ hlive'))

end Store

namespace Sample

/-- The first trade of a session that has three. -/
def soldBefore : Trade where
  chain := "bsc"
  status := some "confirmed"
  receivedAmount := "7"
  txHash := "0x01"
  priceImpactBps := 12
  marketCapUsd := none
  failureReason := none
  executedAt := "2026-01-01T00:00:00Z"
  tradeId := "a"
  sessionId := "1"
  sellAmount := "300"

def soldNext : Trade := { soldBefore with tradeId := "b", sellAmount := "200" }

/-- What it sells is more than is left. -/
def soldLast : Trade := { soldBefore with tradeId := "c", sellAmount := "400" }

def liveSessions : LiveSessions := fun sessionId =>
  if sessionId = "1" then some ⟨"300", "500", "0.00", "active", [soldBefore]⟩ else none

theorem liveSessions_unique : UniqueTrades liveSessions := by
  intro sessionId live h
  obtain ⟨-, hlive⟩ := Option.ite_none_right_eq_some.mp h
  cases hlive
  decide

theorem consistent_trades : Consistent ([soldNext, soldLast, soldNext] ++ [soldLast, soldNext]) where
  same := by decide +kernel
  nonneg := by
    have hamount : ∀ t ∈ [soldNext, soldLast, soldNext] ++ [soldLast, soldNext],
        t.amount = some 200 ∨ t.amount = some 400 := by decide +kernel
    intro t ht n hn
    rcases hamount t ht with h | h
    · cases h.symm.trans hn
      decide
    · cases h.symm.trans hn
      decide

end Sample

/-- Two trades, of which one comes twice. -/
theorem updateSessions_redelivered_sample :
    Option.Rel SameLiveData (updateSessions [Sample.soldNext, Sample.soldLast, Sample.soldNext]
        Sample.liveSessions "1")
      (updateSessions [Sample.soldLast, Sample.soldNext] Sample.liveSessions "1") ∧
    (updateSessions [Sample.soldLast, Sample.soldNext] Sample.liveSessions "1").map
      (fun live => (live.amountSold, live.remaining)) = some ("900", "0") :=
  ⟨updateSessions_redelivered Sample.liveSessions_unique Sample.consistent_trades
    (by simp [Sample.soldNext, Sample.soldLast, Trade.key, or_comm]) "1", by decide +kernel⟩

end Liquifier.Frontend
