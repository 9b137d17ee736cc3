import Liquifier.Gateway.Auth
import Liquifier.Lib.TaskSystem
import Liquifier.SessionApi.Views

/-!
The WebSocket service, with the requests that meet in it as tasks.

A connection passes three points: the handler of the request, the subscription to
the channel of its session, and the messages that are forwarded to the client one by
one. The channels are one map for all clients. Between any two of these steps sharing
may be switched by the session service, and messages may be broadcast by the other
services.
-/

namespace Liquifier.Websocket

open SessionApi Gateway TaskSystem

/-! ### Messages -/

structure SessionUpdateEvent where
  sessionId : String
  status : String
  amountSold : String
  remaining : String
  convertedValueUsd : String

structure TradeCompletedEvent where
  tradeId : String
  sessionId : String
  chain : String
  sellAmount : String
  receivedAmount : String
  txHash : String
  priceImpactBps : ℕ
  marketCapUsd : String
  executedAt : String

def SessionUpdateEvent.payload (event : SessionUpdateEvent) : Json :=
  .object [
    ("type", .string "session_update"),
    ("session_id", .string event.sessionId),
    ("status", .string event.status),
    ("amount_sold", .string event.amountSold),
    ("remaining", .string event.remaining),
    ("converted_value_usd", .string event.convertedValueUsd)]

def TradeCompletedEvent.payload (event : TradeCompletedEvent) : Json :=
  .object [
    ("type", .string "trade_completed"),
    ("trade_id", .string event.tradeId),
    ("session_id", .string event.sessionId),
    ("chain", .string event.chain),
    ("sell_amount", .string event.sellAmount),
    ("received_amount", .string event.receivedAmount),
    ("tx_hash", .string event.txHash),
    ("price_impact_bps", .number (.posInt event.priceImpactBps)),
    ("market_cap_usd", .string event.marketCapUsd),
    ("executed_at", .string event.executedAt)]

/-- What asks for a broadcast: the two calls of the metrics service, and a message of
the stream, which is `none` if it is no JSON. -/
inductive Update where
  | sessionUpdate (event : SessionUpdateEvent)
  | tradeCompleted (event : TradeCompletedEvent)
  | stream (value : Option Json)

/-- The session of the channel and the JSON value of the message. -/
def Update.message : Update → Option (String × Json)
  | .sessionUpdate event => some (event.sessionId, event.payload)
  | .tradeCompleted event => some (event.sessionId, event.payload)
  | .stream value =>
      value.bind fun value =>
        ((value.get "session_id").bind Json.asStr).map fun sessionId => (sessionId, value)

/-! ### Channels -/

/-- A message of a channel. Whether its session was shared when it was broadcast is
noted beside it, and the service does not read it. -/
structure Sent where
  payload : String
  shared : Bool

/-- The tables and the map of the channels, each with all that was ever sent on it. -/
structure Hub where
  db : Tables
  channels : String → Option (List Sent)

namespace Hub

variable (lib : Library) (hub : Hub)

/-- `public_sharing_enabled` of the session with the id. -/
def shared (sessionId : String) : Bool :=
  hub.db.sessions.any fun s => lib.uuidToString s.id = sessionId && s.publicSharingEnabled

def setChannel (sessionId : String) (sent : List Sent) : Hub :=
  { hub with channels := Function.update hub.channels sessionId (some sent) }

@[simp] theorem setChannel_db (sessionId : String) (sent : List Sent) :
    (hub.setChannel sessionId sent).db = hub.db := rfl

@[simp] theorem channels_setChannel (sessionId : String) (sent : List Sent) (key : String) :
    (hub.setChannel sessionId sent).channels key =
      if key = sessionId then some sent else hub.channels key := by
  simp [setChannel, Function.update_apply]

/-- `tx.send`, if the session has a channel. -/
def broadcast (sessionId payload : String) : Hub :=
  match hub.channels sessionId with
  | some sent => hub.setChannel sessionId (sent ++ [⟨payload, hub.shared lib sessionId⟩])
  | none => hub

def update (u : Update) : Hub :=
  match u.message with
  | some (sessionId, value) => hub.broadcast lib sessionId (lib.jsonToString value)
  | none => hub

/-- The channel of a session, which its first subscriber creates. -/
def channel (sessionId : String) : List Sent := (hub.channels sessionId).getD []

theorem channel_eq {sent : List Sent} {sessionId : String}
    (h : hub.channels sessionId = some sent) : hub.channel sessionId = sent := by
  rw [channel, h, Option.getD_some]

@[simp] theorem channel_setChannel (sessionId : String) (sent : List Sent) (key : String) :
    (hub.setChannel sessionId sent).channel key =
      if key = sessionId then sent else hub.channel key := by
  simp only [channel, channels_setChannel]
  split <;> rfl

/-- A new subscriber does not change what was sent. -/
theorem channel_subscribe (sessionId : String) :
    (hub.setChannel sessionId (hub.channel sessionId)).channel sessionId =
      hub.channel sessionId := by
  rw [channel_setChannel, if_pos rfl]

end Hub

/-- `broadcast::channel(256)`. -/
def capacity : ℕ := 256

inductive Received where
  | message (m : Sent)
  /-- `RecvError::Lagged`. -/
  | lagged

/-- `rx.recv()` of a receiver that has come to `cursor`; `none` while it waits. -/
def recv (sent : List Sent) (cursor : ℕ) : Option Received :=
  if capacity < sent.length - cursor then some .lagged else sent[cursor]?.map .message

/-! ### Handlers -/

/-- What the handler of a connection meets: the clock, the answer to the query for the
role of a user, and whether the query for the session succeeds. -/
structure ConnectEnv where
  now : ℕ
  role : Uuid → Option (Option String)
  selects : Bool

section Handlers

variable (lib : Library) (crates : Crates) (jwtSecret : String)

/-- The checks of `ws_session_handler`. -/
def wsSessionHandler (db : Tables) (env : ConnectEnv) (token : Option String)
    (sessionId : String) : Except StatusCode Unit := do
  let token ← okOr .unauthorized (token.filter (· ≠ ""))
  let claims ← okOr .unauthorized (crates.decode env.now token jwtSecret)
  ensure (claims.tokenType = "access") .unauthorized
  let userId ← okOr .unauthorized (crates.uuidFromStr claims.sub)
  let sessionUuid ← okOr .badRequest (crates.uuidFromStr sessionId)
  let row ← okOr .internalServerError (env.role userId)
  let role ← okOr .unauthorized row
  ensure env.selects .internalServerError
  ensure (db.sessions.any fun s => s.id = sessionUuid && (role = "admin" || s.userId = userId))
    .forbidden

/-- The session of `ws_public_handler`. -/
def wsPublicHandler (db : Tables) (env : ConnectEnv) (slug : String) :
    Except StatusCode String := do
  ensure env.selects .internalServerError
  let session ← okOr .notFound
    (db.sessions.find? fun s => s.publicSlug = some slug && s.publicSharingEnabled)
  return lib.uuidToString session.id

end Handlers

/-! ### Tasks -/

inductive Client where
  | anonymous
  | authenticated
  deriving DecidableEq

inductive Party where
  /-- A request to `/ws/public/{slug}`. -/
  | publicRequest (slug : String)
  /-- A request to `/ws/session/{session_id}`. -/
  | sessionRequest (token : Option String) (sessionId : String)
  | upgrading (client : Client) (sessionId : String)
  | connected (client : Client) (sessionId : String) (cursor : ℕ) (received : List Sent)
  | disconnected (client : Client) (received : List Sent)
  | refused (status : StatusCode)
  /-- A request to the session service. -/
  | toggleRequest (sessionId : String) (enabled : Bool)
  | update (u : Update)
  | done

inductive Act where
  | handle (env : ConnectEnv)
  | subscribe
  | forward
  | disconnect
  | toggle (ans : ViewAnswers)
  | broadcast

def entry : Party → Bool
  | .publicRequest _ | .sessionRequest _ _ | .toggleRequest _ _ | .update _ => true
  | _ => false

/-- The connection goes on to its upgrade or ends with a status. -/
def upgradeOrRefuse (client : Client) : Except StatusCode String → Party
  | .ok sessionId => .upgrading client sessionId
  | .error status => .refused status

def forwarded (client : Client) (sessionId : String) (cursor : ℕ) (received : List Sent) :
    Received → Party
  | .message m => .connected client sessionId (cursor + 1) (received ++ [m])
  | .lagged => .disconnected client received

section Step

variable (lib : Library) (fmt : Formats) (crates : Crates) (jwtSecret : String)

def Hub.toggle (hub : Hub) (ans : ViewAnswers) (sessionId : String) (enabled : Bool) : Hub :=
  { hub with db := (SessionApi.togglePublicSharing lib fmt hub.db ans sessionId enabled).2 }

def step : Act → Hub → Party → Option (Hub × Party)
  | .handle env, hub, .publicRequest slug =>
      some (hub, upgradeOrRefuse .anonymous (wsPublicHandler lib hub.db env slug))
  | .handle env, hub, .sessionRequest token sessionId =>
      some (hub, upgradeOrRefuse .authenticated
        ((wsSessionHandler crates jwtSecret hub.db env token sessionId).map fun _ => sessionId))
  | .subscribe, hub, .upgrading client sessionId =>
      let sent := hub.channel sessionId
      some (hub.setChannel sessionId sent, .connected client sessionId sent.length [])
  | .forward, hub, .connected client sessionId cursor received =>
      (recv (hub.channel sessionId) cursor).map fun r =>
        (hub, forwarded client sessionId cursor received r)
  | .disconnect, hub, .upgrading client _ => some (hub, .disconnected client [])
  | .disconnect, hub, .connected client _ _ received => some (hub, .disconnected client received)
  | .toggle ans, hub, .toggleRequest sessionId enabled =>
      some (hub.toggle lib fmt ans sessionId enabled, .done)
  | .broadcast, hub, .update u => some (hub.update lib u, .done)
  | _, _, _ => none

def service : System Hub Party Act where
  entry := entry
  step := step lib fmt crates jwtSecret

end Step

/-- The service at its start. -/
def start (db : Tables) : Config Hub Party := ⟨⟨db, fun _ => none⟩, []⟩

/-! ### What a step does -/

/-- All that a step of a task can do. -/
inductive Does (lib : Library) (fmt : Formats) (hub : Hub) : Act → Party → Hub → Party → Prop
  | refuse {a p status} : Does lib fmt hub a p hub (.refused status)
  | acceptPublic {a slug env sessionId} (h : wsPublicHandler lib hub.db env slug = .ok sessionId) :
      Does lib fmt hub a (.publicRequest slug) hub (.upgrading .anonymous sessionId)
  | accept {a p sessionId} : Does lib fmt hub a p hub (.upgrading .authenticated sessionId)
  | subscribe {a client sessionId} :
      Does lib fmt hub a (.upgrading client sessionId)
        (hub.setChannel sessionId (hub.channel sessionId))
        (.connected client sessionId (hub.channel sessionId).length [])
  | forward {a client sessionId cursor received r}
      (h : recv (hub.channel sessionId) cursor = some r) :
      Does lib fmt hub a (.connected client sessionId cursor received) hub
        (forwarded client sessionId cursor received r)
  | cancel {a client sessionId} :
      Does lib fmt hub a (.upgrading client sessionId) hub (.disconnected client [])
  | disconnect {a client sessionId cursor received} :
      Does lib fmt hub a (.connected client sessionId cursor received) hub
        (.disconnected client received)
  | toggle {ans sessionId enabled} :
      Does lib fmt hub (.toggle ans) (.toggleRequest sessionId enabled)
        (hub.toggle lib fmt ans sessionId enabled) .done
  | update {a u} : Does lib fmt hub a (.update u) (hub.update lib u) .done

variable {lib : Library} {fmt : Formats} {crates : Crates} {jwtSecret : String}

theorem does_of_step {a : Act} {hub hub' : Hub} {p p' : Party}
    (h : step lib fmt crates jwtSecret a hub p = some (hub', p')) :
    Does lib fmt hub a p hub' p' := by
  unfold step at h
  split at h
  · rename_i env slug
    obtain ⟨rfl, rfl⟩ := Prod.mk.inj (Option.some.inj h)
    cases hok : wsPublicHandler lib hub.db env slug with
    | ok sessionId => exact .acceptPublic hok
    | error status => exact .refuse
  · rename_i env token sessionId
    obtain ⟨rfl, rfl⟩ := Prod.mk.inj (Option.some.inj h)
    cases wsSessionHandler crates jwtSecret hub.db env token sessionId with
    | ok _ => exact .accept
    | error status => exact .refuse
  · obtain ⟨rfl, rfl⟩ := Prod.mk.inj (Option.some.inj h)
    exact .subscribe
  · obtain ⟨r, hr, h⟩ := Option.map_eq_some_iff.mp h
    obtain ⟨rfl, rfl⟩ := Prod.mk.inj h
    exact .forward hr
  · obtain ⟨rfl, rfl⟩ := Prod.mk.inj (Option.some.inj h)
    exact .cancel
  · obtain ⟨rfl, rfl⟩ := Prod.mk.inj (Option.some.inj h)
    exact .disconnect
  · obtain ⟨rfl, rfl⟩ := Prod.mk.inj (Option.some.inj h)
    exact .toggle
  · obtain ⟨rfl, rfl⟩ := Prod.mk.inj (Option.some.inj h)
    exact .update
  · cases h

end Liquifier.Websocket
