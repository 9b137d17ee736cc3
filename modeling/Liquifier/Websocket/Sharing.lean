import Liquifier.Gateway.SessionViews
import Liquifier.Gateway.Tokens
import Liquifier.Websocket.Service

/-!
What clients without a token receive, against the switch of public sharing.

The switch is read once, by the handler of the connection. From then on the connection
is one receiver of the channel among others, so a message reaches it whether its
session is still shared or not. What keeps the messages of a session that is not shared
from such clients is that nobody switches sharing off while one of them listens.
-/

namespace Liquifier.Websocket

open SessionApi Gateway TaskSystem

/-! ### Clients without a token -/

/-- What a client without a token has received. -/
def Party.heard : Party → List Sent
  | .connected .anonymous _ _ received => received
  | .disconnected .anonymous received => received
  | _ => []

/-- Clients without a token have received what was broadcast while its session was
shared, and nothing else. -/
def OnlyShared (c : Config Hub Party) : Prop := ∀ p ∈ c.tasks, ∀ m ∈ p.heard, m.shared = true

instance (c : Config Hub Party) : Decidable (OnlyShared c) :=
  inferInstanceAs (Decidable (∀ p ∈ c.tasks, ∀ m ∈ p.heard, m.shared = true))

/-- A client without a token is about to subscribe to the channel, or it is subscribed
and not too far behind to receive what comes next. -/
def Listens (hub : Hub) (sessionId : String) : Party → Bool
  | .upgrading .anonymous sid => sid = sessionId
  | .connected .anonymous sid cursor _ =>
      sid = sessionId && (hub.channel sid).length - cursor ≤ capacity
  | _ => false

/-- The session for which a step switches sharing off. -/
def switchesOff (lib : Library) : Party → Act → Option Uuid
  | .toggleRequest sessionId false, .toggle ans =>
      if ans.updates then lib.uuidFromStr sessionId else none
  | _, _ => none

/-- Sharing is switched off only for a session to which no client without a token
listens. -/
def SparesListeners (lib : Library) (c : Config Hub Party) (p : Party) (a : Act) : Prop :=
  ∀ id ∈ switchesOff lib p a, ∀ q ∈ c.tasks, Listens c.store (lib.uuidToString id) q = false

instance (lib : Library) (c : Config Hub Party) (p : Party) (a : Act) :
    Decidable (SparesListeners lib c p a) :=
  inferInstanceAs (Decidable (∀ id ∈ switchesOff lib p a, _))

/-! ### The channels -/

variable {lib : Library} {fmt : Formats} {crates : Crates} {jwtSecret : String} {hub hub' : Hub}
  {p : Party} {sessionId : String}

/-- The channels only grow, and what is new in the channel of a shared session is marked
so. -/
structure Extends (lib : Library) (hub hub' : Hub) : Prop where
  isSome : ∀ key, (hub.channels key).isSome → (hub'.channels key).isSome
  channel : ∀ key, ∃ new, hub'.channel key = hub.channel key ++ new ∧
    (hub.shared lib key = true → ∀ m ∈ new, m.shared = true)

theorem Extends.refl (h : hub'.channels = hub.channels) : Extends lib hub hub' where
  isSome key hkey := by rwa [h]
  channel key := ⟨[], by rw [Hub.channel, h, ← Hub.channel, List.append_nil], by simp⟩

theorem extends_setChannel (sessionId : String) (new : List Sent)
    (hnew : hub.shared lib sessionId = true → ∀ m ∈ new, m.shared = true) :
    Extends lib hub (hub.setChannel sessionId (hub.channel sessionId ++ new)) where
  isSome key hkey := by
    rw [Hub.channels_setChannel]
    split
    · rfl
    · exact hkey
  channel key := by
    rw [Hub.channel_setChannel]
    by_cases hkey : key = sessionId
    · subst hkey
      exact ⟨new, if_pos rfl, hnew⟩
    · exact ⟨[], by rw [if_neg hkey, List.append_nil], by simp⟩

theorem extends_subscribe (sessionId : String) :
    Extends lib hub (hub.setChannel sessionId (hub.channel sessionId)) := by
  have h : Extends lib hub (hub.setChannel sessionId (hub.channel sessionId ++ [])) :=
    extends_setChannel sessionId [] (by simp)
  rwa [List.append_nil] at h

theorem extends_update (u : Update) : Extends lib hub (hub.update lib u) := by
  unfold Hub.update
  split
  · rename_i key value _
    unfold Hub.broadcast
    split
    · rename_i sent hsent
      rw [← hub.channel_eq hsent]
      refine extends_setChannel _ _ fun hshared m hm => ?_
      rw [List.mem_singleton.mp hm]
      exact hshared
    · exact .refl rfl
  · exact .refl rfl

theorem shared_update (u : Update) (key : String) :
    (hub.update lib u).shared lib key = hub.shared lib key := by
  unfold Hub.update
  split
  · unfold Hub.broadcast
    split <;> rfl
  · rfl

/-- A switch keeps a session shared unless it switches off this very session. -/
theorem shared_toggle {ans : ViewAnswers} {enabled : Bool} {key : String}
    (hkeep : ∀ id ∈ switchesOff lib (.toggleRequest sessionId enabled) (.toggle ans),
      lib.uuidToString id ≠ key) (h : hub.shared lib key = true) :
    (hub.toggle lib fmt ans sessionId enabled).shared lib key = true := by
  unfold Hub.toggle SessionApi.togglePublicSharing
  split
  · exact h
  · rename_i id hid
    split
    · rename_i hupdates
      obtain ⟨s, hs, hkey⟩ := List.any_eq_true.mp h
      obtain ⟨hsid, hshared⟩ := Bool.and_eq_true_iff.mp hkey
      refine List.any_eq_true.mpr ⟨_, List.mem_map_of_mem hs, ?_⟩
      split
      · rename_i heq
        cases enabled with
        | true => exact Bool.and_eq_true_iff.mpr ⟨hsid, rfl⟩
        | false =>
            have heq : s.id = id := heq
            refine absurd (of_decide_eq_true hsid) ?_
            rw [heq]
            exact hkeep id (by simp [switchesOff, hupdates, hid])
      · exact hkey
    · exact h

/-! ### The invariant -/

/-- A subscribed client: what it has received and what lies ahead of it was broadcast
while the session was shared, and the session still is, unless the client is too far
behind. -/
structure Connection (lib : Library) (hub : Hub) (sessionId : String) (cursor : ℕ)
    (received : List Sent) : Prop where
  isSome : (hub.channels sessionId).isSome
  cursor_le : cursor ≤ (hub.channel sessionId).length
  received : ∀ m ∈ received, m.shared = true
  ahead : (hub.channel sessionId).length - cursor ≤ capacity →
    hub.shared lib sessionId = true ∧ ∀ m ∈ (hub.channel sessionId).drop cursor, m.shared = true

/-- The assertion of a task. -/
def Keeps (lib : Library) (hub : Hub) : Party → Prop
  | .upgrading .anonymous sessionId => hub.shared lib sessionId = true
  | .connected .anonymous sessionId cursor received => Connection lib hub sessionId cursor received
  | .disconnected .anonymous received => ∀ m ∈ received, m.shared = true
  | _ => True

theorem Keeps.heard (h : Keeps lib hub p) : ∀ m ∈ p.heard, m.shared = true := by
  unfold Party.heard
  split
  · exact Connection.received h
  · exact h
  · simp

/-- The assertion of a task that stays where it is. -/
theorem Keeps.mono (h : Keeps lib hub p) (hext : Extends lib hub hub')
    (hshared : ∀ key, Listens hub key p = true → hub.shared lib key = true →
      hub'.shared lib key = true) : Keeps lib hub' p := by
  unfold Keeps at h ⊢
  split
  · rename_i sessionId
    exact hshared sessionId (by simp [Listens]) h
  · rename_i sessionId cursor received
    obtain ⟨new, hnew, hnewShared⟩ := hext.channel sessionId
    refine ⟨hext.isSome _ h.isSome, ?_, h.received, ?_⟩
    · rw [hnew, List.length_append]
      exact Nat.le_add_right_of_le h.cursor_le
    · rw [hnew, List.length_append, List.drop_append_of_le_length h.cursor_le]
      intro hpending
      -- a client that is not too far behind now was not so before
      have hold : (hub.channel sessionId).length - cursor ≤ capacity := by omega
      obtain ⟨hon, hahead⟩ := h.ahead hold
      refine ⟨hshared sessionId (by simp [Listens, hold]) hon, fun m hm => ?_⟩
      rcases List.mem_append.mp hm with hm | hm
      · exact hahead m hm
      · exact hnewShared hon m hm
  · exact h
  · trivial

/-- A client that receives a message or finds itself too far behind. -/
theorem keeps_forward {client : Client} {cursor : ℕ} {received : List Sent} {r : Received}
    (h : Keeps lib hub (.connected client sessionId cursor received))
    (hr : recv (hub.channel sessionId) cursor = some r) :
    Keeps lib hub (forwarded client sessionId cursor received r) := by
  cases client with
  | authenticated => cases r <;> trivial
  | anonymous =>
      have hconn : Connection lib hub sessionId cursor received := h
      unfold recv at hr
      split at hr
      · obtain rfl := Option.some.inj hr
        exact hconn.received
      · rename_i hpending
        obtain ⟨m, hm, rfl⟩ := Option.map_eq_some_iff.mp hr
        obtain ⟨hon, hahead⟩ := hconn.ahead (Nat.le_of_not_lt hpending)
        obtain ⟨hlt, -⟩ := List.getElem?_eq_some_iff.mp hm
        refine ⟨hconn.isSome, hlt, ?_, fun _ => ⟨hon, ?_⟩⟩
        · intro m' hm'
          rcases List.mem_append.mp hm' with hm' | hm'
          · exact hconn.received m' hm'
          · rw [List.mem_singleton.mp hm']
            refine hahead m (List.mem_of_getElem? (i := 0) ?_)
            rw [List.getElem?_drop]
            exact hm
        · intro m' hm'
          refine hahead m' ?_
          rw [← List.drop_drop] at hm'
          exact List.mem_of_mem_drop hm'

theorem shared_of_wsPublicHandler {env : ConnectEnv} {slug : String}
    (h : wsPublicHandler lib hub.db env slug = .ok sessionId) :
    hub.shared lib sessionId = true := by
  simp only [wsPublicHandler, bind_eq_ok, okOr_eq_ok, pure, Except.pure, Except.ok.injEq] at h
  obtain ⟨-, -, s, hs, rfl⟩ := h
  have hfound := List.find?_some hs
  simp only [Bool.and_eq_true] at hfound
  exact List.any_eq_true.mpr ⟨s, List.mem_of_find?_eq_some hs, by simp [hfound.2]⟩

section Step

variable {c : Config Hub Party} {a : Act} {p' : Party}

/-- The task that takes a step. -/
theorem keeps_does (h : Does lib fmt hub a p hub' p') (hp : Keeps lib hub p) :
    Keeps lib hub' p' := by
  cases h with
  | acceptPublic h => exact shared_of_wsPublicHandler h
  | @subscribe _ client sessionId =>
      cases client with
      | authenticated => trivial
      | anonymous =>
          refine ⟨by simp, by rw [Hub.channel_subscribe], by simp, fun _ => ⟨hp, ?_⟩⟩
          rw [Hub.channel_subscribe, List.drop_length]
          simp
  | forward hr => exact keeps_forward hp hr
  | @cancel _ client =>
      cases client with
      | authenticated => trivial
      | anonymous => simp [Keeps]
  | @disconnect _ client =>
      cases client with
      | authenticated => trivial
      | anonymous => exact hp.received
  | refuse => trivial
  | accept => trivial
  | toggle => trivial
  | update => trivial

/-- The tasks that stay where they are. -/
theorem keeps_other (h : Does lib fmt c.store a p hub' p') (hspares : SparesListeners lib c p a)
    {q : Party} (hq : q ∈ c.tasks) (hkeeps : Keeps lib c.store q) : Keeps lib hub' q := by
  cases h with
  | subscribe => exact hkeeps.mono (extends_subscribe _) fun _ _ hon => hon
  | update =>
      refine hkeeps.mono (extends_update _) fun key _ hon => ?_
      rw [shared_update]
      exact hon
  | toggle =>
      -- only a session to which nobody listens stops being shared
      refine hkeeps.mono (.refl rfl) fun key hlistens hon => shared_toggle ?_ hon
      rintro id hid rfl
      exact absurd (hspares id hid q hq) (by simp [hlistens])
  | refuse | acceptPublic | accept | forward | cancel | disconnect => exact hkeeps

end Step

/-- The runs in which every switch spares those who listen. -/
abbrev SparingRun (lib : Library) (fmt : Formats) (crates : Crates) (jwtSecret : String)
    (c₀ c : Config Hub Party) : Prop :=
  (service lib fmt crates jwtSecret).Run (System.onActs (SparesListeners lib)) c₀ c

theorem keeps_of_sparingRun {db : Tables} {c : Config Hub Party}
    (h : SparingRun lib fmt crates jwtSecret (start db) c) :
    ∀ q ∈ c.tasks, Keeps lib c.store q := by
  refine h.assertions (J := fun hub q => Keeps lib hub q) (by simp [start]) ?_ ?_ ?_
  · intro c t _ _ hentry
    cases t with
    | publicRequest | sessionRequest | toggleRequest | update => trivial
    | upgrading | connected | disconnected | refused | done => cases hentry
  · intro c i a t s' t' _ hkeeps _ hacts
    exact keeps_does (does_of_step hacts.step) (hkeeps t hacts.mem)
  · intro c i a t s' t' _ hkeeps hguard hacts q hq
    exact keeps_other (does_of_step hacts.step) (System.onActs_acts hguard hacts) hq (hkeeps q hq)

/-! ### A switch that does not -/

section Leak

variable {c : Config Hub Party} {i : ℕ} {client : Client} {cursor : ℕ} {received : List Sent}

/-- A client that is not too far behind receives all that there is. -/
theorem reaches_end (hi : c.tasks[i]? = some (.connected client sessionId cursor received))
    (hcursor : cursor ≤ (c.store.channel sessionId).length)
    (hpending : (c.store.channel sessionId).length - cursor ≤ capacity) :
    ∃ received', (service lib fmt crates jwtSecret).Reaches c ⟨c.store, c.tasks.set i
      (.connected client sessionId (c.store.channel sessionId).length received')⟩ := by
  obtain ⟨k, hk⟩ := Nat.exists_eq_add_of_le hcursor
  induction k generalizing c cursor received with
  | zero =>
      refine ⟨received, ?_⟩
      obtain ⟨hlt, hget⟩ := List.getElem?_eq_some_iff.mp hi
      rw [hk, Nat.add_zero, ← hget, List.set_getElem_self]
      exact .refl
  | succ k ih =>
      have hlt : cursor < (c.store.channel sessionId).length := by omega
      have hrecv : recv (c.store.channel sessionId) cursor =
          some (.message (c.store.channel sessionId)[cursor]) := by
        rw [recv, if_neg (by omega), List.getElem?_eq_getElem hlt, Option.map_some]
      have hacts : (service lib fmt crates jwtSecret).Acts c i .forward
          (.connected client sessionId cursor received) c.store
          (.connected client sessionId (cursor + 1)
            (received ++ [(c.store.channel sessionId)[cursor]])) :=
        ⟨hi, by simp only [service, step, hrecv, Option.map_some, forwarded]⟩
      obtain ⟨received', hrest⟩ := ih (c := ⟨c.store, c.tasks.set i _⟩) hacts.at_index_after hlt
        (by simp only; omega) (by simp only; omega)
      rw [List.set_set] at hrest
      exact ⟨received', hacts.reaches.trans hrest⟩

theorem channel_update (hsome : (hub.channels sessionId).isSome) :
    ∃ payload, (hub.update lib (.sessionUpdate ⟨sessionId, "", "", "", ""⟩)).channel sessionId =
      hub.channel sessionId ++ [⟨payload, hub.shared lib sessionId⟩] := by
  obtain ⟨sent, hsent⟩ := Option.isSome_iff_exists.mp hsome
  refine ⟨lib.jsonToString (SessionUpdateEvent.payload ⟨sessionId, "", "", "", ""⟩), ?_⟩
  rw [hub.channel_eq hsent]
  simp only [Hub.update, Update.message, Hub.broadcast, hsent, Hub.channel_setChannel, if_true]

/-- A message about a session that is not shared reaches a client that has received all
before it. -/
theorem reaches_leak {c : Config Hub Party}
    (hi : c.tasks[i]? = some (.connected .anonymous sessionId
      (c.store.channel sessionId).length received))
    (hsome : (c.store.channels sessionId).isSome) (hoff : c.store.shared lib sessionId = false) :
    ∃ c', (service lib fmt crates jwtSecret).Reaches c c' ∧ ¬ OnlyShared c' := by
  -- an update arrives, it is broadcast, and the client receives it
  let u : Update := .sessionUpdate ⟨sessionId, "", "", "", ""⟩
  obtain ⟨payload, hpayload⟩ : ∃ payload, (c.store.update lib u).channel sessionId = _ :=
    channel_update hsome
  have hlt : i < c.tasks.length := (List.getElem?_eq_some_iff.mp hi).1
  have hspawn : (service lib fmt crates jwtSecret).next c (.spawn (.update u)) =
      some ⟨c.store, c.tasks ++ [.update u]⟩ := by
    simp [System.next, service, entry]
  have hbroadcast : (service lib fmt crates jwtSecret).Acts ⟨c.store, c.tasks ++ [.update u]⟩
      c.tasks.length .broadcast (.update u) (c.store.update lib u) .done :=
    ⟨by simp, rfl⟩
  have hstays : ((c.tasks ++ [Party.update u]).set c.tasks.length .done)[i]? =
      some (.connected .anonymous sessionId (c.store.channel sessionId).length received) := by
    rw [List.getElem?_set_ne (Nat.ne_of_gt hlt), List.getElem?_append_left hlt, hi]
  have hrecv : recv ((c.store.update lib u).channel sessionId)
      (c.store.channel sessionId).length = some (.message ⟨payload, false⟩) := by
    rw [hpayload, hoff, recv, if_neg (by simp [capacity]), List.getElem?_concat_length,
      Option.map_some]
  have hforward : (service lib fmt crates jwtSecret).Acts
      ⟨c.store.update lib u, (c.tasks ++ [Party.update u]).set c.tasks.length .done⟩ i .forward
      (.connected .anonymous sessionId (c.store.channel sessionId).length received)
      (c.store.update lib u)
      (.connected .anonymous sessionId ((c.store.channel sessionId).length + 1)
        (received ++ [⟨payload, false⟩])) :=
    ⟨hstays, by simp only [service, step, hrecv, Option.map_some, forwarded]⟩
  refine ⟨_, ((System.Run.refl.step trivial hspawn).trans hbroadcast.reaches).trans
    hforward.reaches, fun honly => ?_⟩
  have hleak := honly _ hforward.mem_after ⟨payload, false⟩
    (List.mem_append_right _ List.mem_cons_self)
  cases hleak

/-- It reaches every client that listens. -/
theorem reaches_leak_of_listens {c : Config Hub Party} {q : Party} (hi : c.tasks[i]? = some q)
    (hlistens : Listens c.store sessionId q = true)
    (hconn : ∀ cursor received, q = .connected .anonymous sessionId cursor received →
      (c.store.channels sessionId).isSome ∧ cursor ≤ (c.store.channel sessionId).length)
    (hoff : c.store.shared lib sessionId = false) :
    ∃ c', (service lib fmt crates jwtSecret).Reaches c c' ∧ ¬ OnlyShared c' := by
  have hlt : i < c.tasks.length := (List.getElem?_eq_some_iff.mp hi).1
  unfold Listens at hlistens
  split at hlistens
  · obtain rfl := of_decide_eq_true hlistens
    rename_i sessionId
    have hacts : (service lib fmt crates jwtSecret).Acts c i .subscribe
        (.upgrading .anonymous sessionId) (c.store.setChannel sessionId (c.store.channel sessionId))
        (.connected .anonymous sessionId (c.store.channel sessionId).length []) := ⟨hi, rfl⟩
    have hi' : (c.tasks.set i (.connected .anonymous sessionId
        (c.store.channel sessionId).length []))[i]? = some (.connected .anonymous sessionId
          ((c.store.setChannel sessionId (c.store.channel sessionId)).channel sessionId).length
          []) := by
      rw [List.getElem?_set_self hlt, Hub.channel_subscribe]
    obtain ⟨c', hreach, hleak⟩ := reaches_leak (c := ⟨_, _⟩) hi' (by simp) hoff
    exact ⟨c', hacts.reaches.trans hreach, hleak⟩
  -- a client that is connected first receives what is pending
  · rename_i sid cursor received
    obtain ⟨hsid, hpending⟩ := Bool.and_eq_true_iff.mp hlistens
    obtain rfl := of_decide_eq_true hsid
    obtain ⟨hsome, hcursor⟩ := hconn cursor received rfl
    obtain ⟨received', hend⟩ := reaches_end hi hcursor (of_decide_eq_true hpending)
    have hi' := List.getElem?_set_self hlt
      (a := Party.connected .anonymous sid (c.store.channel sid).length received')
    obtain ⟨c', hreach, hleak⟩ := reaches_leak (c := ⟨_, _⟩) hi' hsome hoff
    exact ⟨c', hend.trans hreach, hleak⟩
  · cases hlistens

theorem switchesOff_cases {a : Act} {id : Uuid} (h : id ∈ switchesOff lib p a) :
    ∃ sessionId ans, p = .toggleRequest sessionId false ∧ a = .toggle ans := by
  unfold switchesOff at h
  split at h
  · exact ⟨_, _, rfl, rfl⟩
  · cases h

/-- The session is not shared once it is switched off. -/
theorem shared_switchedOff (hx : Exact lib) {ans : ViewAnswers} {enabled : Bool} {id : Uuid}
    (h : id ∈ switchesOff lib (.toggleRequest sessionId enabled) (.toggle ans)) :
    (hub.toggle lib fmt ans sessionId enabled).shared lib (lib.uuidToString id) = false := by
  cases enabled with
  | true => cases h
  | false =>
      simp only [switchesOff, Option.mem_def, Option.ite_none_right_eq_some] at h
      obtain ⟨hupdates, hid⟩ := h
      unfold Hub.toggle SessionApi.togglePublicSharing
      rw [hid]
      simp only [hupdates, if_true]
      refine List.any_eq_false.mpr fun s hs => ?_
      obtain ⟨r, hr, rfl⟩ := List.mem_map.mp hs
      split
      · simp [SessionRecord.share]
      · rename_i hne
        have hname : lib.uuidToString r.id ≠ lib.uuidToString id := by
          intro heq
          have hrid := hx.uuid r.id
          rw [heq, hx.uuid] at hrid
          exact hne (Option.some.inj hrid).symm
        simp [hname]

end Leak

/-- In every run in which sharing is switched off only while no client without a token
listens to the session, such clients receive only what was broadcast while its session
was shared. Every other switch lets a run go on to the contrary. -/
theorem onlyShared_of_sparingRun (fmt : Formats) (crates : Crates) (jwtSecret : String)
    (hx : Exact lib) (db : Tables) :
    (∀ c, SparingRun lib fmt crates jwtSecret (start db) c → OnlyShared c) ∧
    ∀ c c' m, SparingRun lib fmt crates jwtSecret (start db) c →
      ¬ System.onActs (SparesListeners lib) c m →
        (service lib fmt crates jwtSecret).next c m = some c' →
          ∃ c'', (service lib fmt crates jwtSecret).Reaches c' c'' ∧ ¬ OnlyShared c'' := by
  constructor
  · intro c h p hp
    exact (keeps_of_sparingRun h p hp).heard
  · intro c c' m hrun hspares hnext
    obtain ⟨i, a, t, s', t', hlistens, hacts, rfl⟩ := System.next_of_not_onActs hspares hnext
    simp only [SparesListeners, not_forall] at hlistens
    obtain ⟨id, hid, q, hq, hlistens⟩ := hlistens
    rw [Bool.not_eq_false] at hlistens
    obtain ⟨sessionId, ans, rfl, rfl⟩ := switchesOff_cases hid
    obtain ⟨rfl, rfl⟩ := Prod.mk.inj (Option.some.inj hacts.step)
    obtain ⟨j, hj, rfl⟩ := List.getElem_of_mem hq
    have hstays : (c.tasks.set i .done)[j]? = some c.tasks[j] := by
      rw [List.getElem?_set_ne, List.getElem?_eq_getElem hj]
      rintro rfl
      -- the task that asks for the switch listens to nothing
      have htoggle := hacts.at_index
      rw [List.getElem?_eq_getElem hj] at htoggle
      rw [Option.some.inj htoggle] at hlistens
      cases hlistens
    refine reaches_leak_of_listens (c := ⟨_, _⟩) hstays hlistens ?_ (shared_switchedOff hx hid)
    intro cursor received hconnected
    have hkeeps := keeps_of_sparingRun hrun _ hq
    rw [hconnected] at hkeeps
    exact ⟨hkeeps.isSome, hkeeps.cursor_le⟩

namespace Sample

/-- Session 1 is shared under a slug. -/
def tables : Tables where
  sessions := [{ Gateway.Sample.sessionRecord 1 1 with publicSlug := some "slug" }]
  pools := []
  trades := []
  session_ids := by decide

def connectEnv : ConnectEnv := ⟨0, fun _ => none, true⟩

def statusUpdate : Update := .sessionUpdate ⟨"11", "active", "10", "990", "0"⟩

def service : System Hub Party Act :=
  Websocket.service Gateway.Sample.library Gateway.Sample.formats Gateway.Sample.crates ""

/-- A client connects by the slug. -/
def connects : List (Move Party Act) :=
  [.spawn (.publicRequest "slug"), .act 0 (.handle connectEnv), .act 0 .subscribe]

/-- A message is broadcast, and the client receives it. -/
def informs (i : ℕ) : List (Move Party Act) :=
  [.spawn (.update statusUpdate), .act i .broadcast, .act 0 .forward]

def switchesOff (i : ℕ) : List (Move Party Act) :=
  [.spawn (.toggleRequest "11" false), .act i (.toggle Gateway.Sample.viewEnv.toViewAnswers)]

def hears (c : Config Hub Party) : Bool := c.tasks.any fun p => !p.heard.isEmpty

end Sample

/-- A client receives a message and leaves before sharing is switched off. -/
theorem onlyShared_of_sparingRun_sample :
    ∃ c : Config Hub Party, Sample.hears c = true ∧ OnlyShared c := by
  obtain ⟨c, hrun, hhears⟩ := System.exists_of_runIf Sample.service
    (System.onActs (SparesListeners Gateway.Sample.library)) (start Sample.tables)
    (Sample.connects ++ Sample.informs 1 ++ [.act 0 .disconnect] ++ Sample.switchesOff 2)
    Sample.hears (by decide +kernel)
  exact ⟨c, hhears, (onlyShared_of_sparingRun Gateway.Sample.formats Gateway.Sample.crates ""
    Gateway.Sample.library_exact Sample.tables).1 c hrun⟩

/-- Sharing is switched off while a client listens, and the next message reaches it. -/
theorem heard_after_switch :
    ¬ ∀ c, Sample.service.Reaches (start Sample.tables) c → OnlyShared c := by
  intro h
  obtain ⟨c, hreach, hleak⟩ := System.exists_of_run Sample.service (start Sample.tables)
    (Sample.connects ++ Sample.switchesOff 1 ++ Sample.informs 2)
    (fun c => !decide (OnlyShared c)) (by decide +kernel)
  simp [h c hreach] at hleak

end Liquifier.Websocket
