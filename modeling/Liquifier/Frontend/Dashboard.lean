import Liquifier.Engine.Bookings
import Liquifier.Frontend.LiveData
import Liquifier.Gateway.SessionViews
import Liquifier.Lib.Trace

/-!
The dashboard of one session beside the calls that record its trades.

The page is opened under the id of the session as the database prints it. It reads the
session and its trades by two requests, seeds its live data from the two answers in an
effect, and moves the amounts on with the messages of the service. The effect sees what
was there when the page was rendered. The statements of the calls, the two answers, their
arrivals, the renders, the effects and the messages come in any order, and a message may
come more than once.
-/

namespace Liquifier.Frontend

open Engine TaskSystem

/-! ### The page -/

/-- What the page reads of a session. -/
structure Session where
  totalAmount : String
  amountSold : String
  status : String
  deriving DecidableEq

/-- What a render has seen. -/
structure Render where
  session : Option Session
  trades : Option (List Trade)
  liveData : Option SessionLiveData

/-- The dependencies of the effect that change: `liveData?.convertedValueUsd`,
`liveData?.recentTrades.length`, `session` and `sessionTradesQuery.data`. -/
abbrev Deps := Option String × Option ℕ × Option Session × Option (List Trade)

namespace Render

variable (r : Render)

def deps : Deps :=
  (r.liveData.map (·.convertedValueUsd), r.liveData.map (·.recentTrades.length), r.session,
    r.trades)

/-- What the effect of the render seeds, if it comes to that. -/
def seed (sessionId : String) : Option SeedData :=
  match r.session, r.trades with
  | some session, some trades =>
      if sessionId = "" then none
      else if 0 < (r.liveData.map (·.recentTrades.length)).getD 0 then none
      else
        match bigInt session.totalAmount, bigInt session.amountSold with
        | some totalAmount, some amountSold =>
            some
              { amountSold := some session.amountSold
                remaining := some (toString (totalAmount - amountSold))
                convertedValueUsd := some ((r.liveData.map (·.convertedValueUsd)).getD "0.00")
                status := some session.status
                recentTrades := some trades }
        | _, _ => none
  | _, _ => none

end Render

/-- The answers on their way, the data of the two queries, the store, the dependencies of
the last render, and its effect while it has not run. -/
structure Page where
  sessionAnswer : Option Session
  tradesAnswer : Option (List Trade)
  session : Option Session
  trades : Option (List Trade)
  live : LiveSessions
  deps : Option Deps
  effect : Option Render

namespace Page

variable (sessionId : String) (page : Page)

def rendered : Render := ⟨page.session, page.trades, page.live sessionId⟩

/-- A render waits for the effect of the one before. The effect of a render runs if a
dependency has changed; an object that is made anew counts as changed. -/
def render (remade : Bool) : Page :=
  if page.effect.isSome then page
  else if remade ∨ page.deps ≠ some (page.rendered sessionId).deps then
    { page with
      deps := some (page.rendered sessionId).deps
      effect := some (page.rendered sessionId) }
  else page

/-- What the effect that waits is going to seed. -/
def seed : Option SeedData := page.effect.bind (·.seed sessionId)

def runEffect : Page :=
  match page.seed sessionId with
  | some data => { page with live := seedSession sessionId data page.live, effect := none }
  | none => { page with effect := none }

/-- The answer of the first query arrives. -/
def receiveSession : Page :=
  match page.sessionAnswer with
  | some session => { page with session := some session, sessionAnswer := none }
  | none => page

/-- The answer of the second query arrives. -/
def receiveTrades : Page :=
  match page.tradesAnswer with
  | some trades => { page with trades := some trades, tradesAnswer := none }
  | none => page

/-- The trades of the live data. -/
def recentTrades : List Trade := ((page.live sessionId).map (·.recentTrades)).getD []

/-- The page has rendered what it holds, and the effect of the render has run. -/
def Rendered : Prop := page.deps = some (page.rendered sessionId).deps ∧ page.effect.isNone

instance : Decidable (page.Rendered sessionId) := inferInstanceAs (Decidable (_ ∧ _))

end Page

/-! ### The page and the services -/

/-- The calls that record trades, those of them that have published, the messages on
their way to the page, and the page. -/
structure Dashboard where
  server : Config Database RecordTask
  published : List ℕ
  inFlight : List Trade
  page : Page

inductive Event where
  /-- A call of `record_trade` begins or takes its next statement. -/
  | record (m : Move RecordTask Bool)
  | publish (i : ℕ) (details : TradeDetails)
  /-- A message reaches the page, and it may come `again`. -/
  | deliver (i : ℕ) (again : Bool)
  | answerSession
  | receiveSession
  | answerTrades (details : TradeRow → TradeDetails)
  | receiveTrades
  | render (remade : Bool)
  | runEffect

section System

variable (env : Environment) (lib : SessionApi.Library) (id : Uuid)

/-- The message `trade_completed` of a call. -/
def tradeCompleted (call : RecordCall) (tradeId : Uuid) (details : TradeDetails) : Trade :=
  { details with
    tradeId := lib.uuidToString tradeId
    sessionId := lib.uuidToString call.session.id
    sellAmount := toString call.sellAmount }

def sessionOfRow (row : SessionRow) : Session where
  totalAmount := toString row.totalAmount
  amountSold := toString row.amountSold
  status := SessionApi.statusText row.status

def tradeOfRow (details : TradeRow → TradeDetails) (row : TradeRow) : Trade :=
  { details row with
    tradeId := lib.uuidToString row.id
    sessionId := lib.uuidToString row.sessionId
    sellAmount := toString row.sellAmount }

/-- The rows of the trades, newest first; the page asks for a thousand. -/
def tradeRows (db : Database) : List TradeRow :=
  (db.trades.filter (·.sessionId = id)).reverse.take (Gateway.clampTradesLimit 1000).toNat

namespace Dashboard

/-- The page is opened while no call is in progress. -/
def start (db : Database) : Dashboard :=
  ⟨⟨db, []⟩, [], [], ⟨none, none, none, none, fun _ => none, none, none⟩⟩

variable (w : Dashboard)

def publish (i : ℕ) (details : TradeDetails) : Dashboard :=
  match w.server.tasks[i]? with
  | some t =>
      match t.booked id with
      | some tradeId =>
          { w with
            published := i :: w.published
            inFlight := w.inFlight ++ [tradeCompleted lib t.call tradeId details] }
      | none => w
  | none => w

def deliver (i : ℕ) (again : Bool) : Dashboard :=
  match w.inFlight[i]? with
  | some trade =>
      { w with
        inFlight := if again then w.inFlight else w.inFlight.eraseIdx i
        page := { w.page with live := updateSession (.tradeCompleted trade) w.page.live } }
  | none => w

def answerSession : Dashboard :=
  match Table.get (·.id) w.server.store.sessions id with
  | some row => { w with page := { w.page with sessionAnswer := some (sessionOfRow row) } }
  | none => w

def answerTrades (details : TradeRow → TradeDetails) : Dashboard :=
  { w with
    page := { w.page with
      tradesAnswer := some ((tradeRows id w.server.store).map (tradeOfRow lib details)) } }

/-- One event; one that cannot happen changes nothing. -/
def next (w : Dashboard) : Event → Dashboard
  | .record m =>
      match (recordTable env).next w.server m with
      | some server => { w with server := server }
      | none => w
  | .publish i details => w.publish lib id i details
  | .deliver i again => w.deliver i again
  | .answerSession => w.answerSession id
  | .receiveSession => { w with page := w.page.receiveSession }
  | .answerTrades details => w.answerTrades lib id details
  | .receiveTrades => { w with page := w.page.receiveTrades }
  | .render remade => { w with page := w.page.render (lib.uuidToString id) remade }
  | .runEffect => { w with page := w.page.runEffect (lib.uuidToString id) }

def amountSold : ℕ := w.server.store.amountSold id

def totalAmount : ℕ := w.server.store.totalAmount id

/-- The messages of all trades that the calls have booked were published and delivered. -/
def Delivered : Prop :=
  (∀ i < w.server.tasks.length,
    (w.server.tasks[i]?.bind (RecordTask.booked id)).isSome → i ∈ w.published) ∧ w.inFlight = []

instance : Decidable (w.Delivered id) := inferInstanceAs (Decidable (_ ∧ _))

/-- Both reads have arrived, and there is nothing left to render or to deliver. -/
structure Settled : Prop where
  session : w.page.session.isSome
  trades : w.page.trades.isSome
  rendered : w.page.Rendered (lib.uuidToString id)
  delivered : w.Delivered id

instance : Decidable (w.Settled lib id) :=
  decidable_of_iff
    (w.page.session.isSome ∧ w.page.trades.isSome ∧ w.page.Rendered (lib.uuidToString id) ∧
      w.Delivered id)
    ⟨fun h => ⟨h.1, h.2.1, h.2.2.1, h.2.2.2⟩,
      fun h => ⟨h.session, h.trades, h.rendered, h.delivered⟩⟩

/-- The amount sold of the live data is that of the session in the database, and the
remaining amount is what is left of the total. -/
def ShowsAmounts : Prop :=
  (w.page.live (lib.uuidToString id)).map (fun live => (live.amountSold, live.remaining)) =
    some (toString (w.amountSold id),
      toString ((w.totalAmount id : ℤ) - (w.amountSold id : ℤ)))

instance : Decidable (w.ShowsAmounts lib id) := inferInstanceAs (Decidable (_ = _))

/-! ### The condition -/

def lists (trades : List Trade) (tradeId : Uuid) : Bool :=
  lib.uuidToString tradeId ∈ tradeIds trades

/-- The amount that the calls have booked by trades which the list does not have. -/
def missing (trades : List Trade) : ℕ :=
  System.tally (RecordTask.bookedOutside id (lists lib trades)) w.server.tasks

/-- The session was read with the same trades as the list of the trades: what it lacks of
the amount sold is what the trades have booked that the list lacks. -/
def ReadsAgree (data : SeedData) : Prop :=
  data.amountSold.bind bigInt =
    some ((w.amountSold id : ℤ) - w.missing lib id (data.recentTrades.getD []))

instance (data : SeedData) : Decidable (w.ReadsAgree lib id data) :=
  inferInstanceAs (Decidable (_ = _))

/-- A trade is booked within the total and before the page lists it; a message comes when
the page is seeded or about to be; and it is seeded from reads that agree and have all
trades of which messages came before. -/
def InStep (w : Dashboard) : Event → Prop
  | .record m => ∀ b ∈ books id w.server m,
      w.amountSold id + b.2 ≤ w.totalAmount id ∧
        lib.uuidToString b.1 ∉ tradeIds (w.page.recentTrades (lib.uuidToString id))
  | .deliver _ _ => (w.page.live (lib.uuidToString id)).isSome ∨
      (w.page.seed (lib.uuidToString id)).isSome
  | .runEffect => ∀ data ∈ w.page.seed (lib.uuidToString id),
      w.ReadsAgree lib id data ∧
        ∀ tradeId ∈ tradeIds (w.page.recentTrades (lib.uuidToString id)),
          tradeId ∈ tradeIds (data.recentTrades.getD [])
  | _ => True

instance (w : Dashboard) : ∀ e, Decidable (w.InStep lib id e)
  | .record m => inferInstanceAs (Decidable (∀ b ∈ books id w.server m, _))
  | .deliver _ _ => inferInstanceAs (Decidable (_ ∨ _))
  | .runEffect => inferInstanceAs (Decidable (∀ data ∈ w.page.seed (lib.uuidToString id), _))
  | .publish _ _ | .answerSession | .receiveSession | .answerTrades _ | .receiveTrades
  | .render _ => inferInstanceAs (Decidable True)

end Dashboard

end System

end Liquifier.Frontend
