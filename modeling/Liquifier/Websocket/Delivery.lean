import Liquifier.Gateway.SessionViews
import Liquifier.Gateway.Tokens
import Liquifier.Websocket.Service

/-!
What a client receives of the events of its session.

The handler of a connection authorises the session that its path denotes, and the
channel is the one of the path itself. A path can be spelled in other ways than the
publishers spell the session. Such a client is let in, and it listens to a channel that
nobody sends on.
-/

namespace Liquifier.Websocket

open SessionApi Gateway TaskSystem

/-- An event as it is published. -/
structure Published where
  sessionId : String
  payload : String
  deriving DecidableEq

/-- What a step publishes. -/
def publishedBy (lib : Library) : Act → Party → Option Published
  | .broadcast, .update u => u.message.map fun m => ⟨m.1, lib.jsonToString m.2⟩
  | _, _ => none

/-- The payloads of the events with a property. -/
def payloadsOf (events : List Published) (p : Published → Bool) : List String :=
  (events.filter p).map (·.payload)

theorem payloadsOf_append (events events' : List Published) (p : Published → Bool) :
    payloadsOf (events ++ events') p = payloadsOf events p ++ payloadsOf events' p := by
  rw [payloadsOf, List.filter_append, List.map_append]
  rfl

/-- An event with the session id of the channel. -/
def spelled (path : String) (event : Published) : Bool := event.sessionId = path

section Step

variable {lib : Library} {fmt : Formats} {crates : Crates} {jwtSecret : String}
  {hub hub' : Hub} {a : Act} {p p' : Party} {path : String}

theorem channels_update (u : Update) (hsome : (hub.channels path).isSome) :
    ((hub.update lib u).channels path).isSome ∧
      ∃ new, (hub.update lib u).channel path = hub.channel path ++ new ∧
        new.map (·.payload) =
          payloadsOf (publishedBy lib .broadcast (.update u)).toList (spelled path) := by
  rw [publishedBy, Hub.update]
  cases hmessage : u.message with
  | none => exact ⟨hsome, [], (List.append_nil _).symm, rfl⟩
  | some m =>
      obtain ⟨sessionId, value⟩ := m
      by_cases hpath : sessionId = path
      · subst hpath
        obtain ⟨sent, hsent⟩ := Option.isSome_iff_exists.mp hsome
        simp [Hub.broadcast, hsent, hub.channel_eq hsent, payloadsOf, spelled]
      · have hother : (hub.broadcast lib sessionId (lib.jsonToString value)).channels path =
            hub.channels path := by
          unfold Hub.broadcast
          split
          · rw [Hub.channels_setChannel, if_neg (Ne.symm hpath)]
          · rfl
        refine ⟨by simp only [hother, hsome], [], ?_, by simp [payloadsOf, spelled, hpath]⟩
        simp only [Hub.channel, hother, List.append_nil]

/-- A channel gets what is published under its name, behind what it has. -/
theorem channels_step (h : step lib fmt crates jwtSecret a hub p = some (hub', p'))
    (hsome : (hub.channels path).isSome) :
    (hub'.channels path).isSome ∧
      ∃ new, hub'.channel path = hub.channel path ++ new ∧
        new.map (·.payload) = payloadsOf (publishedBy lib a p).toList (spelled path) := by
  have hsame : ∀ {hub' : Hub}, hub'.channels = hub.channels →
      (hub'.channels path).isSome ∧ ∃ new : List Sent, hub'.channel path = hub.channel path ++ new ∧
        new.map (·.payload) = [] := by
    intro hub' heq
    refine ⟨by rwa [heq], [], ?_, rfl⟩
    rw [Hub.channel, heq, ← Hub.channel, List.append_nil]
  unfold step at h
  split at h
  · cases h
    exact hsame rfl
  · cases h
    exact hsame rfl
  · rename_i client sessionId
    cases h
    refine ⟨?_, [], ?_, rfl⟩
    · rw [Hub.channels_setChannel]
      split
      · rfl
      · exact hsome
    · rw [Hub.channel_setChannel, List.append_nil]
      split
      · rename_i heq
        rw [heq]
      · rfl
  · obtain ⟨r, _, h⟩ := Option.map_eq_some_iff.mp h
    cases h
    exact hsame rfl
  · cases h
    exact hsame rfl
  · cases h
    exact hsame rfl
  · cases h
    exact hsame rfl
  · cases h
    exact channels_update _ hsome
  · cases h

/-- A connected client goes on to the next message, or it is disconnected. -/
theorem step_connected {client : Client} {cursor : ℕ} {received : List Sent}
    (h : step lib fmt crates jwtSecret a hub (.connected client path cursor received) =
      some (hub', p')) :
    hub' = hub ∧ publishedBy lib a (.connected client path cursor received) = none ∧
      (p' = .disconnected client received ∨ ∃ m, (hub.channel path)[cursor]? = some m ∧
        p' = .connected client path (cursor + 1) (received ++ [m])) := by
  cases a with
  | forward =>
      obtain ⟨r, hr, h⟩ := Option.map_eq_some_iff.mp h
      cases h
      refine ⟨rfl, rfl, ?_⟩
      rw [recv] at hr
      split at hr
      · cases hr
        exact .inl rfl
      · obtain ⟨m, hm, rfl⟩ := Option.map_eq_some_iff.mp hr
        exact .inr ⟨m, hm, rfl⟩
  | disconnect =>
      cases h
      exact ⟨rfl, rfl, .inl rfl⟩
  | handle | subscribe | toggle | broadcast => cases h

end Step

/-! ### A client along a run -/

section Run

variable (lib : Library) (fmt : Formats) (crates : Crates) (jwtSecret : String)

def publishedIn (c : Config Hub Party) : Move Party Act → Option Published
  | .spawn _ => none
  | .act i a => c.tasks[i]?.bind (publishedBy lib a)

/-- The events that the moves publish, in their order. -/
def publishedAlong (c : Config Hub Party) : List (Move Party Act) → List Published
  | [] => []
  | m :: ms =>
      (publishedIn lib c m).toList ++
        (((service lib fmt crates jwtSecret).next c m).elim [] fun c' => publishedAlong c' ms)

/-- What the client has received, and what waits for it in the channel. -/
def stream (hub : Hub) (path : String) (cursor : ℕ) (received : List Sent) : List String :=
  (received ++ (hub.channel path).drop cursor).map (·.payload)

/-- The client is subscribed to the channel of the path. -/
structure Subscribed (c : Config Hub Party) (i : ℕ) (client : Client) (path : String) (cursor : ℕ)
    (received : List Sent) : Prop where
  at_index : c.tasks[i]? = some (.connected client path cursor received)
  isSome : (c.store.channels path).isSome
  cursor_le : cursor ≤ (c.store.channel path).length

variable {lib fmt crates jwtSecret} {c c' : Config Hub Party} {i : ℕ} {client : Client}
  {path : String} {cursor : ℕ} {received : List Sent} {m : Move Party Act}
  {ms : List (Move Party Act)}

/-- One move adds to the stream of a client what it publishes under the path, unless it
disconnects the client. -/
theorem Subscribed.next (h : Subscribed c i client path cursor received)
    (hnext : (service lib fmt crates jwtSecret).next c m = some c') :
    (∃ received', c'.tasks[i]? = some (.disconnected client received')) ∨
      ∃ cursor' received', Subscribed c' i client path cursor' received' ∧
        stream c'.store path cursor' received' =
          stream c.store path cursor received ++
            payloadsOf (publishedIn lib c m).toList (spelled path) := by
  have hlt : i < c.tasks.length := (List.getElem?_eq_some_iff.mp h.at_index).1
  rcases System.next_cases hnext with ⟨t, rfl, _, rfl⟩ | ⟨j, a, t, hub', t', rfl, hacts, rfl⟩
  · refine .inr ⟨cursor, received, ⟨?_, h.isSome, h.cursor_le⟩, (List.append_nil _).symm⟩
    rw [List.getElem?_append_left hlt, h.at_index]
  · have hpublished : publishedIn lib c (.act j a) = publishedBy lib a t := by
      rw [publishedIn, hacts.at_index, Option.bind_some]
    rw [hpublished]
    by_cases hij : j = i
    · subst hij
      obtain rfl : t = .connected client path cursor received :=
        Option.some.inj (hacts.at_index.symm.trans h.at_index)
      obtain ⟨rfl, hnone, rfl | ⟨msg, hmsg, rfl⟩⟩ := step_connected hacts.step
      · exact .inl ⟨received, hacts.at_index_after⟩
      · obtain ⟨hcursor, hget⟩ := List.getElem?_eq_some_iff.mp hmsg
        refine .inr ⟨cursor + 1, received ++ [msg], ⟨hacts.at_index_after, h.isSome, hcursor⟩, ?_⟩
        rw [hnone, stream, stream, List.drop_eq_getElem_cons hcursor, hget, List.append_assoc]
        exact (List.append_nil _).symm
    · obtain ⟨hsome, new, hchannel, hnew⟩ := channels_step hacts.step h.isSome
      refine .inr ⟨cursor, received, ⟨?_, hsome, ?_⟩, ?_⟩
      · rw [List.getElem?_set_ne hij, h.at_index]
      · rw [hchannel, List.length_append]
        exact Nat.le_add_right_of_le h.cursor_le
      · rw [stream, stream, hchannel, List.drop_append_of_le_length h.cursor_le,
          ← List.append_assoc, List.map_append, hnew]

theorem disconnected_next (h : c.tasks[i]? = some (.disconnected client received))
    (hnext : (service lib fmt crates jwtSecret).next c m = some c') :
    c'.tasks[i]? = some (.disconnected client received) := by
  rcases System.next_cases hnext with ⟨t, rfl, _, rfl⟩ | ⟨j, a, t, hub', t', rfl, hacts, rfl⟩
  · rw [List.getElem?_append_left (List.getElem?_eq_some_iff.mp h).1, h]
  · by_cases hij : j = i
    · subst hij
      obtain rfl : t = .disconnected client received :=
        Option.some.inj (hacts.at_index.symm.trans h)
      cases a <;> cases hacts.step
    · rw [List.getElem?_set_ne hij, h]

theorem disconnected_run (h : c.tasks[i]? = some (.disconnected client received))
    (hrun : (service lib fmt crates jwtSecret).run c ms = some c') :
    c'.tasks[i]? = some (.disconnected client received) := by
  induction ms generalizing c with
  | nil =>
      cases hrun
      exact h
  | cons m ms ih =>
      obtain ⟨d, hnext, hrun⟩ := Option.bind_eq_some_iff.mp hrun
      exact ih (disconnected_next h hnext) hrun

/-- By induction on the run: a client that is still connected has, received or waiting,
what was published under its path. -/
theorem Subscribed.run (h : Subscribed c i client path cursor received)
    (hrun : (service lib fmt crates jwtSecret).run c ms = some c') {cursor' : ℕ}
    {received' : List Sent} (hi : c'.tasks[i]? = some (.connected client path cursor' received')) :
    Subscribed c' i client path cursor' received' ∧
      stream c'.store path cursor' received' =
        stream c.store path cursor received ++
          payloadsOf (publishedAlong lib fmt crates jwtSecret c ms) (spelled path) := by
  induction ms generalizing c cursor received with
  | nil =>
      cases hrun
      cases h.at_index.symm.trans hi
      exact ⟨h, (List.append_nil _).symm⟩
  | cons m ms ih =>
      obtain ⟨d, hnext, hrun⟩ := Option.bind_eq_some_iff.mp hrun
      rcases h.next hnext with ⟨received'', hgone⟩ | ⟨cursor'', received'', hd, hstream⟩
      · cases (disconnected_run hgone hrun).symm.trans hi
      · obtain ⟨hconn, heq⟩ := ih hd hrun
        refine ⟨hconn, ?_⟩
        rw [heq, hstream, publishedAlong, hnext, Option.elim_some, payloadsOf_append,
          List.append_assoc]

/-- A client that is not too far behind receives all that waits for it. -/
theorem Subscribed.run_forwards (h : Subscribed c i client path cursor received)
    (hbehind : (c.store.channel path).length - cursor ≤ capacity) :
    (service lib fmt crates jwtSecret).run c
        (List.replicate ((c.store.channel path).length - cursor) (.act i .forward)) =
      some ⟨c.store, c.tasks.set i (.connected client path (c.store.channel path).length
        (received ++ (c.store.channel path).drop cursor))⟩ := by
  obtain ⟨n, hn⟩ : ∃ n, (c.store.channel path).length - cursor = n := ⟨_, rfl⟩
  induction n generalizing c cursor received with
  | zero =>
      have hend : cursor = (c.store.channel path).length :=
        le_antisymm h.cursor_le (Nat.le_of_sub_eq_zero hn)
      obtain ⟨hlt, hget⟩ := List.getElem?_eq_some_iff.mp h.at_index
      rw [hn, ← hend, List.drop_eq_nil_of_le hend.ge, List.append_nil, ← hget,
        List.set_getElem_self]
      rfl
  | succ n ih =>
      have hlt : cursor < (c.store.channel path).length := by omega
      have hrecv : recv (c.store.channel path) cursor =
          some (.message (c.store.channel path)[cursor]) := by
        rw [recv, if_neg (Nat.not_lt.mpr hbehind), List.getElem?_eq_getElem hlt, Option.map_some]
      have hacts : (service lib fmt crates jwtSecret).Acts c i .forward
          (.connected client path cursor received) c.store
          (.connected client path (cursor + 1)
            (received ++ [(c.store.channel path)[cursor]])) :=
        ⟨h.at_index, by simp only [service, step, hrecv, Option.map_some, forwarded]⟩
      have hnext : Subscribed ⟨c.store, c.tasks.set i (.connected client path (cursor + 1)
          (received ++ [(c.store.channel path)[cursor]]))⟩ i client path (cursor + 1)
          (received ++ [(c.store.channel path)[cursor]]) :=
        ⟨hacts.at_index_after, h.isSome, hlt⟩
      have hcount : (c.store.channel path).length - cursor =
          (c.store.channel path).length - (cursor + 1) + 1 := by omega
      have hrest := ih hnext (by simp only; omega) (by simp only; omega)
      rw [hcount, List.replicate_succ, System.run, System.next_act hacts, Option.bind_some, hrest,
        List.set_set, List.append_assoc, List.singleton_append, ← List.drop_eq_getElem_cons hlt]

end Run

/-! ### The events of a session -/

section Session

variable {lib : Library} {fmt : Formats} {crates : Crates} {jwtSecret : String}
  {c₀ c₁ c₂ : Config Hub Party} {i : ℕ} {path : String} {u : Uuid} {cursor : ℕ}
  {received : List Sent} {ms : List (Move Party Act)}

/-- The event is one of the session, however its id is spelled. -/
def forSession (crates : Crates) (u : Uuid) (event : Published) : Bool :=
  crates.uuidFromStr event.sessionId = some u

theorem payloadsOf_eq_iff (events : List Published) (hu : crates.uuidFromStr path = some u) :
    payloadsOf events (spelled path) = payloadsOf events (forSession crates u) ↔
      ∀ event ∈ events, crates.uuidFromStr event.sessionId = some u → event.sessionId = path := by
  have hspelled : ∀ event : Published, (spelled path event && forSession crates u event) =
      spelled path event := by
    intro event
    by_cases heq : event.sessionId = path
    · simp [spelled, forSession, heq, hu]
    · simp [spelled, heq]
  have hfilter : (events.filter (forSession crates u)).filter (spelled path) =
      events.filter (spelled path) := by
    rw [List.filter_filter]
    exact List.filter_congr fun event _ => hspelled event
  constructor
  · intro heq event hevent hfor
    have hlength : ((events.filter (forSession crates u)).filter (spelled path)).length =
        (events.filter (forSession crates u)).length := by
      rw [hfilter]
      simpa [payloadsOf] using congrArg List.length heq
    exact of_decide_eq_true (List.length_filter_eq_length_iff.mp hlength event
      (List.mem_filter.mpr ⟨hevent, decide_eq_true hfor⟩))
  · intro hall
    rw [payloadsOf, payloadsOf, ← hfilter, List.filter_eq_self.mpr]
    intro event hevent
    obtain ⟨hmem, hfor⟩ := List.mem_filter.mp hevent
    exact decide_eq_true (hall event hmem (of_decide_eq_true hfor))

theorem subscribed_of_subscribe {client : Client}
    (h₀ : c₀.tasks[i]? = some (.upgrading client path))
    (hsub : (service lib fmt crates jwtSecret).next c₀ (.act i .subscribe) = some c₁) :
    ∃ cursor, Subscribed c₁ i client path cursor [] ∧ stream c₁.store path cursor [] = [] := by
  have hacts : (service lib fmt crates jwtSecret).Acts c₀ i .subscribe (.upgrading client path)
      (c₀.store.setChannel path (c₀.store.channel path))
      (.connected client path (c₀.store.channel path).length []) := ⟨h₀, rfl⟩
  rw [System.next_act hacts] at hsub
  cases hsub
  refine ⟨_, ⟨hacts.at_index_after, by simp, by simp⟩, ?_⟩
  rw [stream, Hub.channel_subscribe, List.drop_length]
  rfl

/-- A client that is subscribed under a path of the session gets exactly the events of
the session if and only if these spell the session as the path does. Unless it is too
far behind, it can go on to receive all of them. -/
theorem delivers_iff (h₀ : c₀.tasks[i]? = some (.upgrading .authenticated path))
    (hu : crates.uuidFromStr path = some u)
    (hsub : (service lib fmt crates jwtSecret).next c₀ (.act i .subscribe) = some c₁)
    (hrun : (service lib fmt crates jwtSecret).run c₁ ms = some c₂)
    (hi : c₂.tasks[i]? = some (.connected .authenticated path cursor received)) :
    (stream c₂.store path cursor received =
        payloadsOf (publishedAlong lib fmt crates jwtSecret c₁ ms) (forSession crates u) ↔
      ∀ event ∈ publishedAlong lib fmt crates jwtSecret c₁ ms,
        crates.uuidFromStr event.sessionId = some u → event.sessionId = path) ∧
    ((c₂.store.channel path).length - cursor ≤ capacity →
      (service lib fmt crates jwtSecret).run c₂
          (List.replicate ((c₂.store.channel path).length - cursor) (.act i .forward)) =
        some ⟨c₂.store, c₂.tasks.set i (.connected .authenticated path
          (c₂.store.channel path).length (received ++ (c₂.store.channel path).drop cursor))⟩) := by
  obtain ⟨cursor₁, hsubscribed, hempty⟩ := subscribed_of_subscribe h₀ hsub
  obtain ⟨hconnected, hstream⟩ := hsubscribed.run hrun hi
  refine ⟨?_, hconnected.run_forwards⟩
  rw [hstream, hempty, List.nil_append]
  exact payloadsOf_eq_iff _ hu

/-- Publishers print the id of a session. They spell it as the path does if the path is
that text, and otherwise only where they publish nothing for the session. -/
theorem spelled_iff_canonical {events : List Published}
    (hround : ∀ id, crates.uuidFromStr (lib.uuidToString id) = some id)
    (hprinted : ∀ event ∈ events, ∃ id, event.sessionId = lib.uuidToString id) :
    (∀ event ∈ events, crates.uuidFromStr event.sessionId = some u → event.sessionId = path) ↔
      path = lib.uuidToString u ∨
        ∀ event ∈ events, crates.uuidFromStr event.sessionId ≠ some u := by
  constructor
  · intro h
    by_cases hnone : ∀ event ∈ events, crates.uuidFromStr event.sessionId ≠ some u
    · exact .inr hnone
    · simp only [not_forall, not_not] at hnone
      obtain ⟨event, hevent, hfor⟩ := hnone
      obtain ⟨id, hid⟩ := hprinted event hevent
      left
      rw [← h event hevent hfor, hid]
      rw [hid, hround] at hfor
      rw [Option.some.inj hfor]
  · rintro (rfl | hnone) event hevent hfor
    · obtain ⟨id, hid⟩ := hprinted event hevent
      rw [hid, hround] at hfor
      rw [hid, Option.some.inj hfor]
    · exact absurd hfor (hnone event hevent)

end Session

/-! ### Two spellings of one session -/

namespace Spellings

/-- `Uuid::parse_str` on 32 hexadecimal digits, with the usual hyphens or without any. -/
def uuidFromStr (s : String) : Option Uuid :=
  let groups := s.toList.splitOn '-'
  if groups.map List.length ∈ [[32], [8, 4, 4, 4, 12]] then
    (groups.flatten.mapM hexValue).map fun digits => digits.foldl (fun n d => 16 * n + d) 0
  else none

def crates : Crates :=
  { Gateway.Sample.crates with
    decode := fun _ _ _ =>
      some ⟨"00000000-0000-0000-0000-000000000001", 3600, 0, "access", "common"⟩
    uuidFromStr }

def library : Library := { Gateway.Sample.library with jsonToString := fun _ => "event" }

def tables : Tables where
  sessions := [Gateway.Sample.sessionRecord 0xab 1]
  pools := []
  trades := []
  session_ids := by decide

def env : ConnectEnv := ⟨0, fun _ => some (some "common"), true⟩

def lowerCase : String := "00000000-0000-0000-0000-0000000000ab"

def upperCase : String := "00000000-0000-0000-0000-0000000000AB"

def statusUpdate : Update := .sessionUpdate ⟨lowerCase, "active", "10", "990", "0"⟩

def server : System Hub Party Act :=
  service library Gateway.Sample.formats crates ""

/-- The owner of the session asks for the path. -/
def connects (path : String) : List (Move Party Act) :=
  [.spawn (.sessionRequest (some "token") path), .act 0 (.handle env)]

def upgraded (path : String) : Config Hub Party :=
  ⟨⟨tables, fun _ => none⟩, [.upgrading .authenticated path]⟩

def listening (path : String) : Config Hub Party :=
  ⟨(upgraded path).store.setChannel path [], [.connected .authenticated path 0 []]⟩

def informs : List (Move Party Act) := [.spawn (.update statusUpdate), .act 1 .broadcast]

def informed (path : String) : Config Hub Party :=
  ⟨(listening path).store.update library statusUpdate,
    [.connected .authenticated path 0 [], .done]⟩

theorem run_connects {path : String}
    (h : wsSessionHandler crates "" tables env (some "token") path = .ok ()) :
    server.run (start tables) (connects path) = some (upgraded path) := by
  simp [connects, System.run, System.next, server, service, entry, start, step, h,
    upgradeOrRefuse, upgraded, Except.map]

theorem next_subscribe (path : String) :
    server.next (upgraded path) (.act 0 .subscribe) = some (listening path) := rfl

theorem run_informs (path : String) : server.run (listening path) informs = some (informed path) :=
  rfl

theorem publishedAlong_informs (path : String) :
    publishedAlong library Gateway.Sample.formats crates "" (listening path) informs =
      [⟨lowerCase, "event"⟩] := rfl

end Spellings

open Spellings in
/-- The owner asks for the session in upper case, is let in, and an event of the session
does not come. -/
theorem upper_case_hears_nothing :
    server.run (start tables) (connects upperCase) = some (upgraded upperCase) ∧
      (upgraded upperCase).tasks[0]? = some (.upgrading .authenticated upperCase) ∧
      crates.uuidFromStr upperCase = some 0xab ∧
      server.next (upgraded upperCase) (.act 0 .subscribe) = some (listening upperCase) ∧
      server.run (listening upperCase) informs = some (informed upperCase) ∧
      (informed upperCase).tasks[0]? = some (.connected .authenticated upperCase 0 []) ∧
      payloadsOf (publishedAlong library Gateway.Sample.formats crates "" (listening upperCase)
        informs) (forSession crates 0xab) = ["event"] ∧
      stream (informed upperCase).store upperCase 0 [] = [] :=
  ⟨run_connects (by decide +kernel), rfl, by decide +kernel, next_subscribe _, run_informs _, rfl,
    by rw [publishedAlong_informs]; decide +kernel, by decide +kernel⟩

open Spellings in
theorem lower_case_hears :
    server.run (start tables) (connects lowerCase) = some (upgraded lowerCase) ∧
      ((stream (informed lowerCase).store lowerCase 0 [] =
          payloadsOf (publishedAlong library Gateway.Sample.formats crates ""
            (listening lowerCase) informs) (forSession crates 0xab)) ∧
        stream (informed lowerCase).store lowerCase 0 [] = ["event"]) := by
  refine ⟨run_connects (by decide +kernel), ?_, by decide +kernel⟩
  have h₀ : (upgraded lowerCase).tasks[0]? = some (.upgrading .authenticated lowerCase) := rfl
  refine (delivers_iff h₀ (by decide +kernel) (next_subscribe _) (run_informs _) rfl).1.mpr
    fun event hevent _ => ?_
  rw [publishedAlong_informs, List.mem_singleton] at hevent
  rw [hevent]

end Liquifier.Websocket
