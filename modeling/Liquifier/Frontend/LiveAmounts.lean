import Liquifier.Frontend.Dashboard

/-!
The amounts of the live data against the session in the database.

The books of the page balance as long as every event is in step: the amount sold of the
live data and what the calls have booked by trades that the page does not list make up
the amount sold in the database. A message of a new trade moves an amount from the second
to the first, a booking adds to the second, and seeding from reads that agree starts the
balance. Once all messages have come, the second is zero.
-/

namespace Liquifier.Frontend

open Engine TaskSystem

variable {env : Environment} {lib : SessionApi.Library} {id : Uuid} {db₀ : Database}

/-! ### Seeding -/

/-- The amounts of an answer are numerals, the total that of the session. -/
def Session.Numeral (s : Session) (total : ℕ) : Prop :=
  s.totalAmount = toString total ∧ ∃ sold : ℕ, s.amountSold = toString sold

theorem numeral_sessionOfRow (row : SessionRow) :
    (sessionOfRow row).Numeral row.totalAmount :=
  ⟨rfl, row.amountSold, rfl⟩

/-- The live data that seeding leaves. -/
def SeedData.Seeds (data : SeedData) (total : ℕ) (sold : ℕ) (trades : List Trade) : Prop :=
  data.amountSold = some (toString sold) ∧
    data.remaining = some (toString ((total : ℤ) - (sold : ℤ))) ∧ data.recentTrades = some trades

theorem bigInt_toString_nat (n : ℕ) : bigInt (toString n) = some (n : ℤ) := bigInt_toString n

namespace Render

variable {r : Render} {sessionId : String} {data : SeedData} {total : ℕ}

/-- Only a render that has seen both answers and no trade of the live data seeds. -/
theorem seeds_of_seed (hnumeral : ∀ s, r.session = some s → s.Numeral total)
    (h : r.seed sessionId = some data) : ∃ sold trades, data.Seeds total sold trades := by
  unfold seed at h
  split at h
  · rename_i session trades hsession _
    obtain ⟨htotal, sold, hsold⟩ := hnumeral session hsession
    rw [htotal, hsold, bigInt_toString_nat, bigInt_toString_nat] at h
    simp only [Option.ite_none_left_eq_some, Option.some.injEq] at h
    obtain ⟨_, _, rfl⟩ := h
    exact ⟨sold, trades, rfl, rfl, rfl⟩
  · cases h

theorem seed_isSome (hnumeral : ∀ s, r.session = some s → s.Numeral total)
    (hid : sessionId ≠ "") (hsession : r.session.isSome) (htrades : r.trades.isSome)
    (hnone : r.liveData = none) : (r.seed sessionId).isSome := by
  obtain ⟨session, hsession⟩ := Option.isSome_iff_exists.mp hsession
  obtain ⟨trades, htrades⟩ := Option.isSome_iff_exists.mp htrades
  obtain ⟨htotal, sold, hsold⟩ := hnumeral session hsession
  rw [seed, hsession, htrades]
  simp only [if_neg hid, hnone, Option.map_none, Option.getD_none, lt_irrefl, if_false, htotal,
    hsold, bigInt_toString_nat, Option.isSome_some]

end Render

theorem seedSession_of_seeds {sessionId : String} {data : SeedData} {total sold : ℕ}
    {trades : List Trade} (h : data.Seeds total sold trades) (sessions : LiveSessions) :
    ∃ live, seedSession sessionId data sessions sessionId = some live ∧
      live.amountSold = toString sold ∧ live.remaining = toString ((total : ℤ) - (sold : ℤ)) ∧
        live.recentTrades = trades := by
  obtain ⟨hsold, hleft, htrades⟩ := h
  refine ⟨_, Function.update_self _ _ _, ?_, ?_, ?_⟩
  · simp [hsold]
  · simp [hleft]
  · simp [htrades]

/-! ### The invariant -/

/-- The calls have booked the trade of the message. -/
def IsMessage (lib : SessionApi.Library) (id : Uuid) (c : Config Database RecordTask)
    (trade : Trade) : Prop :=
  ∃ t ∈ c.tasks, ∃ tradeId details, t.booked id = some tradeId ∧
    trade = tradeCompleted lib t.call tradeId details

namespace Page

theorem recentTrades_of_live {sessionId : String} {page : Page} {live : SessionLiveData}
    (h : page.live sessionId = some live) : page.recentTrades sessionId = live.recentTrades := by
  rw [recentTrades, h]
  rfl

/-- The answers of the page are numerals. Data of both queries has been seeded unless the
effect has still to run, and an effect does not forget live data. -/
structure Sound (sessionId : String) (total : ℕ) (page : Page) : Prop where
  answer : ∀ s, page.sessionAnswer = some s → s.Numeral total
  session : ∀ s, page.session = some s → s.Numeral total
  effect : ∀ r, page.effect = some r → page.deps = some r.deps ∧
    (∀ s, r.session = some s → s.Numeral total) ∧
    (r.liveData.isSome → (page.live sessionId).isSome)
  seeded : page.effect = none → ∀ d : Deps, page.deps = some d → d.2.2.1.isSome →
    d.2.2.2.isSome → (page.live sessionId).isSome

end Page

namespace Dashboard

/-- The books of the page balance. -/
def Balanced (lib : SessionApi.Library) (id : Uuid) (w : Dashboard) (live : SessionLiveData) :
    Prop :=
  ∃ sold : ℤ, live.amountSold = toString sold ∧
    live.remaining = toString ((w.totalAmount id : ℤ) - sold) ∧
      sold + (w.missing lib id live.recentTrades : ℤ) = (w.amountSold id : ℤ)

structure Inv (env : Environment) (lib : SessionApi.Library) (id : Uuid) (db₀ : Database)
    (w : Dashboard) : Prop where
  server : (recordTable env).Reaches ⟨db₀, []⟩ w.server
  within : ∀ t ∈ w.server.tasks, (t.booked id).isSome → w.amountSold id ≤ w.totalAmount id
  messages : ∀ trade ∈ w.inFlight, IsMessage lib id w.server trade
  /-- A trade whose message is out is listed, or the message is on its way. -/
  published : ∀ i ∈ w.published, ∃ t tradeId, w.server.tasks[i]? = some t ∧
    t.booked id = some tradeId ∧ (lib.uuidToString tradeId ∈ tradeIds w.inFlight ∨
      lib.uuidToString tradeId ∈ tradeIds (w.page.recentTrades (lib.uuidToString id)))
  page : w.page.Sound (lib.uuidToString id) (w.totalAmount id)
  /-- The books balance unless the page is still to be seeded. -/
  balanced : ∀ live, w.page.live (lib.uuidToString id) = some live →
    w.page.seed (lib.uuidToString id) = none → w.Balanced lib id live

theorem inv_start (db : Database) : (start db).Inv env lib id db where
  server := .refl
  within := by simp [start]
  messages := by simp [start]
  published := by simp [start]
  page := ⟨by simp [start], by simp [start], by simp [start], by simp [start]⟩
  balanced := by simp [start]

variable {w : Dashboard}

theorem Balanced.of_eq {w' : Dashboard} {live : SessionLiveData} (h : w.Balanced lib id live)
    (htotal : w'.totalAmount id = w.totalAmount id) {amount : ℕ}
    (hsold : w'.amountSold id = w.amountSold id + amount)
    (hmissing : w'.missing lib id live.recentTrades =
      w.missing lib id live.recentTrades + amount) : w'.Balanced lib id live := by
  obtain ⟨sold, hamount, hleft, hsum⟩ := h
  refine ⟨sold, hamount, ?_, ?_⟩
  · rw [htotal, hleft]
  · rw [hmissing, hsold]
    omega

/-! ### The calls -/

theorem Inv.record (h : w.Inv env lib id db₀) {m : Move RecordTask Bool}
    {server : Config Database RecordTask} (hnext : (recordTable env).next w.server m = some server)
    (hstep : w.InStep lib id (.record m)) :
    ({ w with server := server } : Dashboard).Inv env lib id db₀ := by
  obtain ⟨htotal, hsold, hmissing⟩ := books_spec h.server hnext id
  refine ⟨h.server.step trivial hnext, ?_, ?_, ?_, ?_, ?_⟩
  · intro t ht hbooked
    show server.store.amountSold id ≤ server.store.totalAmount id
    rw [htotal, hsold]
    cases hbooks : books id w.server m with
    | none => exact h.within t (mem_of_booked hnext hbooks ht hbooked) hbooked
    | some b => exact (hstep b hbooks).1
  · intro trade htrade
    obtain ⟨t, ht, tradeId, details, hbooked, heq⟩ := h.messages trade htrade
    obtain ⟨i, hi⟩ := List.mem_iff_getElem?.mp ht
    exact ⟨t, List.mem_of_getElem? (getElem?_of_booked hnext hi hbooked), tradeId, details,
      hbooked, heq⟩
  · intro i hi
    obtain ⟨t, tradeId, ht, hbooked, hlisted⟩ := h.published i hi
    exact ⟨t, tradeId, getElem?_of_booked hnext ht hbooked, hbooked, hlisted⟩
  · have hpage := h.page
    rw [totalAmount, ← htotal] at hpage
    exact hpage
  · intro live hlive hseed
    refine (h.balanced live hlive hseed).of_eq htotal hsold ?_
    refine (hmissing _).trans (congrArg (w.missing lib id live.recentTrades + ·) ?_)
    cases hbooks : books id w.server m with
    | none => rfl
    | some b =>
        have hnew := (hstep b hbooks).2
        rw [Page.recentTrades_of_live hlive] at hnew
        apply if_neg
        rw [lists, decide_eq_true_eq]
        exact hnew

theorem Inv.publish (h : w.Inv env lib id db₀) (i : ℕ) (details : TradeDetails) :
    (w.publish lib id i details).Inv env lib id db₀ := by
  unfold Dashboard.publish
  split
  · rename_i t ht
    split
    · rename_i tradeId hbooked
      refine ⟨h.server, h.within, ?_, ?_, h.page, h.balanced⟩
      · intro trade htrade
        rcases List.mem_append.mp htrade with htrade | htrade
        · exact h.messages trade htrade
        · exact ⟨t, List.mem_of_getElem? ht, tradeId, details, hbooked,
            List.mem_singleton.mp htrade⟩
      · intro j hj
        rcases List.mem_cons.mp hj with rfl | hj
        · exact ⟨t, tradeId, ht, hbooked, .inl (by simp [tradeIds, tradeCompleted])⟩
        · obtain ⟨u, tradeId', hu, hbooked', hlisted⟩ := h.published j hj
          refine ⟨u, tradeId', hu, hbooked', hlisted.imp_left fun hflight => ?_⟩
          rw [tradeIds, List.map_append]
          exact List.mem_append_left _ hflight
    · exact h
  · exact h

/-! ### Messages -/

theorem live_deliver {trade : Trade} {sessionId : String} (hid : trade.sessionId = sessionId)
    (sessions : LiveSessions) :
    updateSession (.tradeCompleted trade) sessions sessionId =
      some (((sessions sessionId).getD noLiveData).complete trade) := by
  subst hid
  exact Function.update_self _ _ _

/-- The list has one trade more, unless it had it before. -/
theorem lists_complete (hx : Gateway.Exact lib) {live : SessionLiveData} {trade : Trade}
    {tradeId : Uuid} (hname : trade.tradeId = lib.uuidToString tradeId) (u : Uuid) :
    lists lib (live.complete trade).recentTrades u =
      (u == tradeId || lists lib live.recentTrades u) := by
  rw [Bool.eq_iff_iff, lists, lists, Bool.or_eq_true, beq_iff_eq, decide_eq_true_eq,
    decide_eq_true_eq, SessionLiveData.mem_tradeIds_complete, hname]
  apply or_congr_left
  constructor
  · intro heq
    have hread := hx.uuid u
    rw [heq, hx.uuid] at hread
    exact (Option.some.inj hread).symm
  · rintro rfl
    rfl

/-- A message moves what it has sold from the missing amount to the amount sold. -/
theorem Balanced.complete (hx : Gateway.Exact lib) (h : w.Inv env lib id db₀)
    {live : SessionLiveData} (hlive : w.Balanced lib id live) {trade : Trade}
    (hmessage : IsMessage lib id w.server trade) :
    w.Balanced lib id (live.complete trade) := by
  obtain ⟨sold, hamount, hleft, hsum⟩ := hlive
  obtain ⟨t, ht, tradeId, details, hbooked, htrade⟩ := hmessage
  have hname : trade.tradeId = lib.uuidToString tradeId := by rw [htrade]; rfl
  have hsells : trade.sellAmount = toString (t.call.sellAmount : ℤ) := by rw [htrade]; rfl
  have hwithin := h.within t ht (by rw [hbooked]; rfl)
  have hlists : ∀ u, lists lib (live.complete trade).recentTrades u =
      (u == tradeId || lists lib live.recentTrades u) := lists_complete hx hname
  by_cases hmem : trade.tradeId ∈ tradeIds live.recentTrades
  · obtain ⟨hsame, hsame'⟩ := SessionLiveData.complete_of_mem hmem
    have hold : lists lib (live.complete trade).recentTrades = lists lib live.recentTrades := by
      ext u
      rw [hlists u]
      by_cases hu : u = tradeId
      · simp [hu, lists, ← hname, hmem]
      · simp [hu]
    refine ⟨sold, hsame.trans hamount, hsame'.trans hleft, ?_⟩
    rw [missing, hold]
    exact hsum
  · have hnew : lists lib live.recentTrades tradeId = false := by
      rw [lists, ← hname]
      exact decide_eq_false hmem
    have hdrop := tally_bookedOutside_insert h.server ht hbooked hnew hlists
    rw [missing] at hsum
    have hle : (t.call.sellAmount : ℤ) ≤ (w.totalAmount id : ℤ) - sold := by omega
    obtain ⟨hsold', hleft'⟩ :=
      SessionLiveData.complete_of_notMem hmem hamount hleft hsells hle
    refine ⟨sold + t.call.sellAmount, hsold', ?_, ?_⟩
    · rw [hleft', sub_sub]
    · rw [missing]
      omega

/-- A message that is taken from the list takes its own trade with it and no other. -/
theorem mem_tradeIds_eraseIdx {messages : List Trade} {i : ℕ} {trade : Trade}
    (hi : messages[i]? = some trade) {tradeId : String} (hne : tradeId ≠ trade.tradeId)
    (h : tradeId ∈ tradeIds messages) : tradeId ∈ tradeIds (messages.eraseIdx i) := by
  obtain ⟨m, hm, hname⟩ := List.mem_map.mp h
  obtain ⟨k, hk⟩ := List.mem_iff_getElem?.mp hm
  have hother : k ≠ i := by
    rintro rfl
    cases hk.symm.trans hi
    exact hne hname.symm
  have hstays : m ∈ messages.eraseIdx i := List.mem_eraseIdx_iff_getElem?.mpr ⟨k, hother, hk⟩
  exact List.mem_map.mpr ⟨m, hstays, hname⟩

theorem Inv.deliver (hx : Gateway.Exact lib) (h : w.Inv env lib id db₀) {i : ℕ} {again : Bool}
    (hstep : w.InStep lib id (.deliver i again)) : (w.deliver i again).Inv env lib id db₀ := by
  unfold Dashboard.deliver
  split
  · rename_i trade htrade
    have hmessage := h.messages trade (List.mem_of_getElem? htrade)
    have hsession : trade.sessionId = lib.uuidToString id := by
      obtain ⟨t, _, tradeId, details, hbooked, rfl⟩ := hmessage
      rw [← (RecordTask.booked_eq_some.mp hbooked).2]
      rfl
    have hlive := live_deliver hsession w.page.live
    have hsub : ∀ m ∈ (if again then w.inFlight else w.inFlight.eraseIdx i), m ∈ w.inFlight := by
      intro m hm
      split at hm
      · exact hm
      · exact List.mem_of_mem_eraseIdx hm
    refine ⟨h.server, h.within, fun m hm => h.messages m (hsub m hm), ?_, ?_, ?_⟩
    · intro j hj
      obtain ⟨t, tradeId, ht, hbooked, hlisted⟩ := h.published j hj
      refine ⟨t, tradeId, ht, hbooked, ?_⟩
      rw [Page.recentTrades_of_live hlive, SessionLiveData.mem_tradeIds_complete]
      rcases hlisted with hflight | hlisted
      · by_cases heq : lib.uuidToString tradeId = trade.tradeId
        · exact .inr (.inl heq)
        · left
          split
          · exact hflight
          · exact mem_tradeIds_eraseIdx htrade heq hflight
      · refine .inr (.inr ?_)
        rw [Page.recentTrades] at hlisted
        cases hold : w.page.live (lib.uuidToString id) with
        | none => rw [hold] at hlisted; cases hlisted
        | some live => rw [hold] at hlisted; exact hlisted
    · have hpage := h.page
      refine ⟨hpage.answer, hpage.session, fun r hr => ?_, fun _ _ _ _ _ => ?_⟩
      · obtain ⟨hdeps, hnumeral, _⟩ := hpage.effect r hr
        exact ⟨hdeps, hnumeral, fun _ => by simp [hlive]⟩
      · simp [hlive]
    · intro live hnow hseed
      obtain rfl := Option.some.inj (hlive.symm.trans hnow)
      have hisSome : (w.page.live (lib.uuidToString id)).isSome := by
        refine hstep.resolve_right fun hseeds => ?_
        change w.page.seed (lib.uuidToString id) = none at hseed
        rw [hseed] at hseeds
        cases hseeds
      obtain ⟨live, hold⟩ := Option.isSome_iff_exists.mp hisSome
      rw [hold, Option.getD_some]
      exact Balanced.complete hx h (h.balanced live hold hseed) hmessage
  · exact h

/-! ### The page -/

/-- A page with the same live data, where no effect that seeds has come or gone. -/
theorem Inv.setPage (h : w.Inv env lib id db₀) {page : Page}
    (hpage : page.Sound (lib.uuidToString id) (w.totalAmount id))
    (hlive : page.live = w.page.live)
    (hseed : (page.live (lib.uuidToString id)).isSome → page.seed (lib.uuidToString id) = none →
      w.page.seed (lib.uuidToString id) = none) :
    ({ w with page := page } : Dashboard).Inv env lib id db₀ := by
  refine ⟨h.server, h.within, h.messages, ?_, hpage, ?_⟩
  · intro i hi
    obtain ⟨t, tradeId, ht, hbooked, hlisted⟩ := h.published i hi
    refine ⟨t, tradeId, ht, hbooked, ?_⟩
    rwa [Page.recentTrades, hlive]
  · intro live hnow hnone
    refine h.balanced live ?_ (hseed ?_ hnone)
    · rw [← hlive]
      exact hnow
    · exact Option.isSome_iff_exists.mpr ⟨live, hnow⟩

theorem Inv.answerSession (h : w.Inv env lib id db₀) :
    (w.answerSession id).Inv env lib id db₀ := by
  unfold Dashboard.answerSession
  split
  · rename_i row hrow
    have htotal : row.totalAmount = w.totalAmount id := by
      rw [totalAmount, Database.totalAmount, hrow]
      rfl
    refine h.setPage ⟨fun s hs => ?_, h.page.session, h.page.effect, h.page.seeded⟩ rfl
      fun _ hseed => hseed
    cases hs
    exact htotal ▸ numeral_sessionOfRow row
  · exact h

theorem Inv.receiveSession (h : w.Inv env lib id db₀) :
    ({ w with page := w.page.receiveSession } : Dashboard).Inv env lib id db₀ := by
  unfold Page.receiveSession
  split
  · rename_i session hsession
    refine h.setPage ⟨fun s hs => ?_, fun s hs => ?_, h.page.effect, h.page.seeded⟩ rfl
      fun _ hseed => hseed
    · cases hs
    · exact h.page.answer s (hsession.trans hs)
  · exact h

theorem Inv.answerTrades (h : w.Inv env lib id db₀) (details : TradeRow → TradeDetails) :
    (w.answerTrades lib id details).Inv env lib id db₀ :=
  h.setPage ⟨h.page.answer, h.page.session, h.page.effect, h.page.seeded⟩ rfl
    fun _ hseed => hseed

theorem Inv.receiveTrades (h : w.Inv env lib id db₀) :
    ({ w with page := w.page.receiveTrades } : Dashboard).Inv env lib id db₀ := by
  unfold Page.receiveTrades
  split
  · exact h.setPage ⟨h.page.answer, h.page.session, h.page.effect, h.page.seeded⟩ rfl
      fun _ hseed => hseed
  · exact h

theorem Inv.render (h : w.Inv env lib id db₀) (remade : Bool) :
    ({ w with page := w.page.render (lib.uuidToString id) remade } : Dashboard).Inv
      env lib id db₀ := by
  unfold Page.render
  split
  · exact h
  · rename_i hidle
    have hnone : w.page.effect = none := by simpa using hidle
    split
    · refine h.setPage ⟨h.page.answer, h.page.session, fun r hr => ?_, fun hnone => ?_⟩ rfl
        fun _ _ => by simp [Page.seed, hnone]
      · cases hr
        exact ⟨rfl, h.page.session, fun hlive => hlive⟩
      · cases hnone
    · exact h

/-- The effect seeds. -/
theorem Inv.seed (h : w.Inv env lib id db₀) {data : SeedData}
    (hseed : w.page.seed (lib.uuidToString id) = some data) (hagree : w.ReadsAgree lib id data)
    (hlisted : ∀ tradeId ∈ tradeIds (w.page.recentTrades (lib.uuidToString id)),
      tradeId ∈ tradeIds (data.recentTrades.getD [])) :
    ({ w with page :=
      { w.page with
        live := seedSession (lib.uuidToString id) data w.page.live
        effect := none } } : Dashboard).Inv env lib id db₀ := by
  obtain ⟨r, hr, hdata⟩ := Option.bind_eq_some_iff.mp hseed
  obtain ⟨sold, trades, hseeds⟩ := Render.seeds_of_seed (h.page.effect r hr).2.1 hdata
  obtain ⟨live, hlive, hsold, hleft, htrades⟩ := seedSession_of_seeds hseeds w.page.live
  refine ⟨h.server, h.within, h.messages, ?_, ?_, ?_⟩
  · intro i hi
    obtain ⟨t, tradeId, ht, hbooked, hflight⟩ := h.published i hi
    refine ⟨t, tradeId, ht, hbooked, hflight.imp_right fun hmem => ?_⟩
    rw [Page.recentTrades_of_live hlive, htrades]
    simpa only [hseeds.2.2, Option.getD_some] using hlisted _ hmem
  · refine ⟨h.page.answer, h.page.session, fun r hr => ?_, fun _ _ _ _ _ => ?_⟩
    · cases hr
    · simp [hlive]
  · intro live' hnow _
    obtain rfl := Option.some.inj (hlive.symm.trans hnow)
    refine ⟨sold, hsold, hleft, ?_⟩
    rw [ReadsAgree, hseeds.1, hseeds.2.2, Option.bind_some, bigInt_toString_nat,
      Option.some.injEq, Option.getD_some] at hagree
    rw [htrades]
    show (sold : ℤ) + (w.missing lib id trades : ℤ) = (w.amountSold id : ℤ)
    omega

/-- There is nothing to seed: an answer is missing, or the store has data of the session. -/
theorem Inv.skipEffect (hid : lib.uuidToString id ≠ "") (h : w.Inv env lib id db₀)
    (hseed : w.page.seed (lib.uuidToString id) = none) :
    ({ w with page := { w.page with effect := none } } : Dashboard).Inv env lib id db₀ := by
  refine h.setPage ⟨h.page.answer, h.page.session, fun r hr => ?_,
    fun _ d hd hsession htrades => ?_⟩ rfl fun _ _ => hseed
  · cases hr
  · cases heffect : w.page.effect with
    | none => exact h.page.seeded heffect d hd hsession htrades
    | some r =>
        obtain ⟨hdeps, hnumeral, hkeeps⟩ := h.page.effect r heffect
        obtain rfl := Option.some.inj (hdeps.symm.trans hd)
        cases hlive : r.liveData with
        | some live => exact hkeeps (by simp [hlive])
        | none =>
            have hseeds := Render.seed_isSome hnumeral hid hsession htrades hlive
            rw [Page.seed, heffect, Option.bind_some] at hseed
            rw [hseed] at hseeds
            cases hseeds

theorem Inv.runEffect (hid : lib.uuidToString id ≠ "") (h : w.Inv env lib id db₀)
    (hstep : w.InStep lib id .runEffect) :
    ({ w with page := w.page.runEffect (lib.uuidToString id) } : Dashboard).Inv
      env lib id db₀ := by
  unfold Page.runEffect
  split
  · rename_i data hseed
    obtain ⟨hagree, hlisted⟩ := hstep data hseed
    exact h.seed hseed hagree hlisted
  · rename_i hseed
    exact h.skipEffect hid hseed

/-! ### Runs -/

theorem Inv.next (hx : Gateway.Exact lib) (hid : lib.uuidToString id ≠ "")
    (h : w.Inv env lib id db₀) {e : Event} (hstep : w.InStep lib id e) :
    (w.next env lib id e).Inv env lib id db₀ := by
  cases e with
  | record m =>
      simp only [Dashboard.next]
      split
      · rename_i hnext
        exact h.record hnext hstep
      · exact h
  | publish i details => exact h.publish i details
  | deliver i again => exact h.deliver hx hstep
  | answerSession => exact h.answerSession
  | receiveSession => exact h.receiveSession
  | answerTrades details => exact h.answerTrades details
  | receiveTrades => exact h.receiveTrades
  | render remade => exact h.render remade
  | runEffect => exact h.runEffect hid hstep

theorem showsAmounts_of_settled (h : w.Inv env lib id db₀) (hsettled : w.Settled lib id) :
    w.ShowsAmounts lib id := by
  have hnone : w.page.effect = none := by simpa using hsettled.rendered.2
  obtain ⟨live, hlive⟩ := Option.isSome_iff_exists.mp
    (h.page.seeded hnone _ hsettled.rendered.1 hsettled.session hsettled.trades)
  obtain ⟨sold, hsold, hleft, hsum⟩ := h.balanced live hlive (by simp [Page.seed, hnone])
  have hzero : w.missing lib id live.recentTrades = 0 := by
    refine System.tally_eq_zero fun t ht => ?_
    cases hbooked : t.booked id with
    | none => exact RecordTask.bookedOutside_of_not_booked hbooked _
    | some tradeId =>
        obtain ⟨i, hi⟩ := List.mem_iff_getElem?.mp ht
        have hpublished := hsettled.delivered.1 i (List.getElem?_eq_some_iff.mp hi).1
          (by simp [hi, hbooked])
        obtain ⟨u, tradeId', hu, hbooked', hlisted⟩ := h.published i hpublished
        cases hi.symm.trans hu
        cases hbooked.symm.trans hbooked'
        rw [hsettled.delivered.2, Page.recentTrades_of_live hlive] at hlisted
        rw [RecordTask.bookedOutside_of_booked hbooked]
        exact if_pos (decide_eq_true (hlisted.resolve_left List.not_mem_nil))
  have hall : sold = (w.amountSold id : ℤ) := by omega
  rw [ShowsAmounts, hlive, Option.map_some, hsold, hleft, hall]
  rfl

end Dashboard

/-- In every run whose events are all in step, the live data of the page shows the amounts
of the database whenever both reads have arrived and all messages were delivered. -/
theorem showsAmounts_of_inStep (env : Environment) (hx : Gateway.Exact lib)
    (hid : lib.uuidToString id ≠ "") (db : Database) (events : List Event)
    (h : Trace.Guarded (Dashboard.next env lib id) (Dashboard.InStep lib id)
      (Dashboard.start db) events)
    (hsettled : (events.foldl (Dashboard.next env lib id) (Dashboard.start db)).Settled lib id) :
    (events.foldl (Dashboard.next env lib id) (Dashboard.start db)).ShowsAmounts lib id := by
  have hinv := h.invariant (I := fun w => w.Inv env lib id db) (Dashboard.inv_start db)
    fun w e hw hstep => hw.next hx hid hstep
  exact Dashboard.showsAmounts_of_settled hinv hsettled

namespace Sample

def details : TradeDetails where
  chain := "ethereum"
  status := some "confirmed"
  receivedAmount := "0"
  txHash := "0xb"
  priceImpactBps := 4
  marketCapUsd := none
  failureReason := none
  executedAt := ""

def next : Dashboard → Event → Dashboard :=
  Dashboard.next Engine.Sample.directEnv Gateway.Sample.library 1

/-- A session of 800 of which nothing is sold. -/
def opened : Dashboard := Dashboard.start Engine.Sample.database

def renders : List Event := [.render false, .runEffect]

def readsSession : List Event := [.answerSession, .receiveSession] ++ renders

def readsTrades : List Event := [.answerTrades fun _ => details, .receiveTrades] ++ renders

/-- A trade of 500 is recorded, and the page hears of it. -/
def trades : List Event :=
  [.record (.spawn ⟨Engine.Sample.recordCall, .insert⟩), .record (.act 0 true),
    .record (.act 0 true), .publish 0 details, .deliver 0 false] ++ renders

def final (events : List Event) : Dashboard := events.foldl next opened

end Sample

/-- Both reads come before the trade. -/
theorem showsAmounts_of_inStep_sample :
    (Sample.final (Sample.readsSession ++ Sample.readsTrades ++ Sample.trades)).amountSold 1 = 500 ∧
      (Sample.final (Sample.readsSession ++ Sample.readsTrades ++ Sample.trades)).ShowsAmounts
        Gateway.Sample.library 1 :=
  ⟨by decide +kernel, showsAmounts_of_inStep Engine.Sample.directEnv Gateway.Sample.library_exact
    (by decide) Engine.Sample.database _ (by decide +kernel) (by decide +kernel)⟩

/-- The message of the trade comes before the trades are read: the page is never seeded,
and nothing remains of the 300 that are left. -/
theorem unseeded_of_early_message :
    ¬ ∀ events, (Sample.final events).Settled Gateway.Sample.library 1 →
      (Sample.final events).ShowsAmounts Gateway.Sample.library 1 := by
  intro h
  have hshows := h (Sample.readsSession ++ Sample.trades ++ Sample.readsTrades)
    (by decide +kernel)
  revert hshows
  decide +kernel

end Liquifier.Frontend
