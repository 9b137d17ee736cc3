import Liquifier.Engine.Plan
import Liquifier.Gateway.Sessions
import Liquifier.SessionApi.PathCache

/-!
The routes that are stored against the routes that the engine reads.

The gateway and the session service check the text of a route by hand, the first hop of
it and the two lengths. The engine reads the stored value into a structure with typed
fields. So a text with an element of another type passes both checks and is no route for
the engine. Every route that the services make themselves is one.
-/

namespace Liquifier

/-! ### What is read back of a stored value -/

/-- The number is read as the same `u32`, or neither is one. -/
def JsonNumber.SameU32 (m n : JsonNumber) : Prop := Json.asU32 (.number m) = Json.asU32 (.number n)

/-- The value that is read back of a `JSONB` column: every key of an object has one value,
the last that it had, whatever the order of the keys and the spelling of the numbers. -/
inductive Json.Stored : Json → Json → Prop where
  | null : Stored .null .null
  | bool (b : Bool) : Stored (.bool b) (.bool b)
  | number {m n : JsonNumber} (h : m.SameU32 n) : Stored (.number m) (.number n)
  | string (s : String) : Stored (.string s) (.string s)
  | array {elems elems' : List Json} (h : List.Forall₂ Stored elems elems') :
      Stored (.array elems) (.array elems')
  | object {fields fields' : List (String × Json)} (hkeys : (fields'.map (·.1)).Nodup)
      (h : ∀ key, Option.Rel Stored (fields.reverse.lookup key) (fields'.reverse.lookup key)) :
      Stored (.object fields) (.object fields')

namespace Json

variable {v w : Json}

theorem Stored.asStr (h : Stored v w) : w.asStr = v.asStr := by
  cases h <;> rfl

theorem Stored.asU32 (h : Stored v w) : w.asU32 = v.asU32 := by
  cases h with
  | number h => exact h.symm
  | _ => rfl

theorem mapM_of_forall₂ {α : Type} {f : Json → Option α}
    (hf : ∀ {v w : Json}, Stored v w → f w = f v) {elems elems' : List Json}
    (h : List.Forall₂ Stored elems elems') : elems'.mapM f = elems.mapM f := by
  induction h with
  | nil => rfl
  | cons hhead _ ih => rw [List.mapM_cons, List.mapM_cons, hf hhead, ih]

/-- A list is read back as it was. -/
theorem Stored.asVec {α : Type} {f : Json → Option α}
    (hf : ∀ {v w : Json}, Stored v w → f w = f v) (h : Stored v w) : w.asVec f = v.asVec f := by
  cases h with
  | array h => exact mapM_of_forall₂ hf h
  | _ => rfl

/-- A value without repeated keys is read back as it is. -/
theorem Stored.array_self {elems : List Json} (h : ∀ e ∈ elems, Stored e e) :
    Stored (.array elems) (.array elems) :=
  .array (List.forall₂_same.mpr h)

theorem Stored.object_self {fields : List (String × Json)} (hkeys : (fields.map (·.1)).Nodup)
    (h : ∀ f ∈ fields, Stored f.2 f.2) : Stored (.object fields) (.object fields) := by
  refine .object hkeys fun key => ?_
  cases hlookup : fields.reverse.lookup key with
  | none => exact .none
  | some v =>
      obtain ⟨before, after, heq, -⟩ := List.lookup_eq_some_iff.mp hlookup
      have hmem : (key, v) ∈ fields.reverse := by rw [heq]; simp
      exact .some (h _ (List.mem_reverse.mp hmem))

/-- A key that occurs once has the value that is found for it. -/
theorem uniqueField_of_nodup {fields : List (String × Json)} (h : (fields.map (·.1)).Nodup)
    (key : String) : uniqueField fields key = some (fields.reverse.lookup key) := by
  induction fields with
  | nil => rfl
  | cons field fields ih =>
      obtain ⟨k, v⟩ := field
      rw [List.map_cons, List.nodup_cons] at h
      rw [List.reverse_cons, List.lookup_append]
      by_cases hk : k = key
      · subst hk
        have hnone : fields.filter (fun f => f.1 = k) = [] :=
          List.filter_eq_nil_iff.mpr fun f hf hfk =>
            h.1 (List.mem_map.mpr ⟨f, hf, of_decide_eq_true hfk⟩)
        have hlookup : fields.reverse.lookup k = none :=
          List.lookup_eq_none_iff.mpr fun f hf => bne_iff_ne.mpr fun heq =>
            h.1 (List.mem_map.mpr ⟨f, List.mem_reverse.mp hf, heq.symm⟩)
        simp [uniqueField, hnone, hlookup]
      · have hlookup : [(k, v)].lookup key = none :=
          List.lookup_eq_none_iff.mpr (by simpa using fun heq => hk heq.symm)
        rw [hlookup, Option.or_none, ← ih h.2, uniqueField, List.filter_cons_of_neg (by simpa)]
        rfl

section Fields

variable {α : Type} {f : Json → Option α} {a b : Option Json}
  (hf : ∀ {v w : Json}, Stored v w → f w = f v) (h : Option.Rel Stored a b)
include hf h

/-- A list under a key is read back as it was. -/
theorem bind_asVec_of_rel : b.bind (Json.asVec f) = a.bind (Json.asVec f) := by
  cases h with
  | none => rfl
  | some h => exact h.asVec hf

theorem asVec_getD_of_rel (d : Json) : (b.getD d).asVec f = (a.getD d).asVec f := by
  cases h with
  | none => rfl
  | some h => exact h.asVec hf

end Fields

end Json

namespace Engine

open SessionApi

/-- The route of a value, and of what is stored of it. -/
theorem PoolSwapRoute.ofValue_of_stored {v w : Json} (h : Json.Stored v w) :
    PoolSwapRoute.ofValue w = PoolSwapRoute.ofValue v := by
  cases h with
  | object _ h =>
      simp only [PoolSwapRoute.ofValue, Json.get]
      rw [Json.bind_asVec_of_rel Json.Stored.asStr (h "hops"),
        Json.bind_asVec_of_rel Json.Stored.asStr (h "hop_tokens"),
        Json.asVec_getD_of_rel Json.Stored.asU32 (h "fee_tiers")]
  | _ => rfl

/-- The engine reads of a stored object the route that the object is. -/
theorem PoolSwapRoute.ofJson_of_stored {fields : List (String × Json)} {w : Json}
    (h : Json.Stored (.object fields) w) :
    PoolSwapRoute.ofJson w = PoolSwapRoute.ofValue (.object fields) := by
  rw [← PoolSwapRoute.ofValue_of_stored h]
  cases h with
  | object hkeys _ =>
      simp only [PoolSwapRoute.ofJson, PoolSwapRoute.ofValue, Json.get,
        Json.uniqueField_of_nodup hkeys, Option.bind_eq_bind, Option.bind_some]
      rw [Option.bind_assoc]
      refine Option.bind_congr fun hops _ => Option.bind_congr fun hops _ => ?_
      rw [Option.bind_assoc]

/-! ### The three checks -/

/-- What the gateway and the session service check of a value. -/
structure RouteChecked (value : Json) (poolAddress : String) (hops hopTokens : List Json) :
    Prop where
  get_hops : value.get "hops" = some (.array hops)
  get_hopTokens : value.get "hop_tokens" = some (.array hopTokens)
  first : ∃ first, hops.head? = some (.string first) ∧ eqIgnoreAsciiCase first poolAddress = true
  length : hopTokens.length = hops.length + 1

/-- Every hop and every token is a string, and the fee tiers, if there are any, are
integers of 32 bits. -/
structure RouteTyped (value : Json) : Prop where
  hops : ∀ hops, value.get "hops" = some (.array hops) → ∀ hop ∈ hops, hop.asStr.isSome = true
  hopTokens : ∀ tokens, value.get "hop_tokens" = some (.array tokens) →
    ∀ token ∈ tokens, token.asStr.isSome = true
  feeTiers : ∀ v, value.get "fee_tiers" = some v →
    ∃ fees, v = .array fees ∧ ∀ fee ∈ fees, fee.asU32.isSome = true

theorem asArray_eq_some {v : Json} {elems : List Json} : v.asArray = some elems ↔ v = .array elems := by
  cases v <;> simp [Json.asArray]

theorem asStr_eq_some {v : Json} {s : String} : v.asStr = some s ↔ v = .string s := by
  cases v <;> simp [Json.asStr]

theorem parsePoolSwapPathJson_iff {lib : Library} {path poolAddress : String} {value : Json} :
    parsePoolSwapPathJson lib path poolAddress = .ok value ↔
      trim path ≠ "" ∧ lib.jsonFromStr (trim path) = some value ∧
        ∃ hops hopTokens, RouteChecked value poolAddress hops hopTokens := by
  simp only [parsePoolSwapPathJson, bind_eq_ok, okOr_eq_ok, ensure_eq_ok, pure, Except.pure,
    Except.ok.injEq, decide_eq_true_eq, Option.bind_eq_some_iff, asArray_eq_some, asStr_eq_some]
  constructor
  · rintro ⟨_, hblank, value, hvalue, hops, ⟨_, hhops, rfl⟩, _, -, first, ⟨_, hfirst, rfl⟩, _,
      hpool, hopTokens, ⟨_, htokens, rfl⟩, _, hlength, rfl⟩
    exact ⟨hblank, hvalue, hops, hopTokens, hhops, htokens, ⟨first, hfirst, hpool⟩, hlength⟩
  · rintro ⟨hblank, hvalue, hops, hopTokens, hhops, htokens, ⟨first, hfirst, hpool⟩, hlength⟩
    have hne : (!hops.isEmpty) = true := by
      cases hops with
      | nil => cases hfirst
      | cons => rfl
    exact ⟨(), hblank, value, hvalue, hops, ⟨_, hhops, rfl⟩, (), hne, first, ⟨_, hfirst, rfl⟩, (),
      hpool, hopTokens, ⟨_, htokens, rfl⟩, (), hlength, rfl⟩

/-- The gateway accepts what the session service accepts. -/
theorem validatePoolSwapPathJson_iff {lib : Library} {path poolAddress : String} :
    Gateway.validatePoolSwapPathJson lib path poolAddress = true ↔
      ∃ value, parsePoolSwapPathJson lib path poolAddress = .ok value := by
  simp only [parsePoolSwapPathJson_iff]
  constructor
  · intro h
    unfold Gateway.validatePoolSwapPathJson at h
    dsimp only at h
    split at h
    · cases h
    · rename_i hblank
      split at h
      · cases h
      · rename_i value hvalue
        split at h
        · cases h
        · rename_i hops hhops
          obtain ⟨_, hhops, helems⟩ := Option.bind_eq_some_iff.mp hhops
          obtain rfl := asArray_eq_some.mp helems
          split at h
          · cases h
          · split at h
            · cases h
            · rename_i first hfirst
              obtain ⟨_, hfirst, hstr⟩ := Option.bind_eq_some_iff.mp hfirst
              obtain rfl := asStr_eq_some.mp hstr
              split at h
              · cases h
              · rename_i hpool
                split at h
                · cases h
                · rename_i hopTokens htokens
                  obtain ⟨_, htokens, helems⟩ := Option.bind_eq_some_iff.mp htokens
                  obtain rfl := asArray_eq_some.mp helems
                  exact ⟨value, hblank, hvalue, hops, hopTokens, hhops, htokens,
                    ⟨first, hfirst, by simpa using hpool⟩, of_decide_eq_true h⟩
  · rintro ⟨value, hblank, hvalue, hops, hopTokens, h⟩
    obtain ⟨first, hfirst, hpool⟩ := h.first
    have hne : hops.isEmpty = false := by
      cases hops with
      | nil => cases hfirst
      | cons => rfl
    simp [Gateway.validatePoolSwapPathJson, hblank, hvalue, h.get_hops, h.get_hopTokens,
      Json.asArray, hne, hfirst, Json.asStr, hpool, h.length]

/-- The text that is read back for the value of a route. -/
structure ReadsBack (lib : Library) (value : Json) (text : String) : Prop where
  not_blank : trim text ≠ ""
  stored : ∃ w, lib.jsonFromStr (trim text) = some w ∧ Json.Stored value w

/-- The strings of an array. -/
theorem mapM_asStr_eq_some {elems : List Json} {texts : List String} :
    elems.mapM Json.asStr = some texts ↔ elems = texts.map .string := by
  rw [MapM.mapM_eq_some_iff]
  induction elems generalizing texts with
  | nil => cases texts <;> simp
  | cons elem elems ih =>
      cases texts with
      | nil => simp
      | cons text rest => simp only [List.map_cons, List.cons.injEq, asStr_eq_some, ih]

/-- A route that was read has the hops and the tokens of the value. -/
theorem ofValue_eq_some {value : Json} {poolAddress : String} {hops hopTokens : List Json}
    (hchecked : RouteChecked value poolAddress hops hopTokens) {route : PoolSwapRoute}
    (h : PoolSwapRoute.ofValue value = some route) :
    hops = route.hops.map .string ∧ hopTokens = route.hopTokens.map .string := by
  simp only [PoolSwapRoute.ofValue, hchecked.get_hops, hchecked.get_hopTokens, Option.bind_eq_bind,
    Option.bind_some, Option.bind_eq_some_iff, Option.some.injEq] at h
  obtain ⟨hops', hhops, tokens', htokens, _, _, rfl⟩ := h
  exact ⟨mapM_asStr_eq_some.mp hhops, mapM_asStr_eq_some.mp htokens⟩

theorem ofValue_isSome_iff {value : Json} {poolAddress : String} {hops hopTokens : List Json}
    (hchecked : RouteChecked value poolAddress hops hopTokens) :
    (PoolSwapRoute.ofValue value).isSome = true ↔ RouteTyped value := by
  have hfees : (((value.get "fee_tiers").getD (.array [])).asVec Json.asU32).isSome = true ↔
      ∀ v, value.get "fee_tiers" = some v →
        ∃ fees, v = .array fees ∧ ∀ fee ∈ fees, fee.asU32.isSome = true := by
    cases value.get "fee_tiers" with
    | none => simp [Json.asVec, Json.asArray]
    | some v =>
        rw [Option.getD_some]
        cases v with
        | array fees => simp [Json.asVec, Json.asArray, MapM.isSome_mapM]
        | _ => simp [Json.asVec, Json.asArray]
  constructor
  · intro h
    obtain ⟨route, hroute⟩ := Option.isSome_iff_exists.mp h
    simp only [PoolSwapRoute.ofValue, hchecked.get_hops, hchecked.get_hopTokens,
      Option.bind_eq_bind, Option.bind_some, Option.bind_eq_some_iff] at hroute
    obtain ⟨_, hhops, _, htokens, _, hread, _⟩ := hroute
    refine ⟨fun elems helems => ?_, fun elems helems => ?_,
      hfees.mp (Option.isSome_of_eq_some hread)⟩
    · cases hchecked.get_hops.symm.trans helems
      exact MapM.isSome_mapM.mp (Option.isSome_of_eq_some hhops)
    · cases hchecked.get_hopTokens.symm.trans helems
      exact MapM.isSome_mapM.mp (Option.isSome_of_eq_some htokens)
  · intro h
    obtain ⟨texts, hhops⟩ := Option.isSome_iff_exists.mp (MapM.isSome_mapM.mpr (h.hops _ hchecked.get_hops))
    obtain ⟨tokens, htokens⟩ := Option.isSome_iff_exists.mp
      (MapM.isSome_mapM.mpr (h.hopTokens _ hchecked.get_hopTokens))
    obtain ⟨fees, hread⟩ := Option.isSome_iff_exists.mp (hfees.mpr h.feeTiers)
    rw [PoolSwapRoute.ofValue, hchecked.get_hops, hchecked.get_hopTokens, hread]
    simp [Json.asVec, Json.asArray, hhops, htokens]

/-- The engine reads the route that the stored value is, and no other check of its own
fails. -/
theorem parsePoolSwapRoute_eq {lib : Library} {value : Json} {text poolAddress : String}
    {hops hopTokens : List Json} (hchecked : RouteChecked value poolAddress hops hopTokens)
    (htext : ReadsBack lib value text) :
    parsePoolSwapRoute lib.jsonFromStr text poolAddress = PoolSwapRoute.ofValue value := by
  obtain ⟨w, hw, hstored⟩ := htext.stored
  have hread : PoolSwapRoute.ofJson w = PoolSwapRoute.ofValue value := by
    cases value with
    | object fields => exact PoolSwapRoute.ofJson_of_stored hstored
    | _ => cases hchecked.get_hops
  unfold parsePoolSwapRoute
  dsimp only
  rw [if_neg htext.not_blank, hw, Option.bind_some, hread]
  cases hroute : PoolSwapRoute.ofValue value with
  | none => rfl
  | some route =>
      obtain ⟨rfl, rfl⟩ := ofValue_eq_some hchecked hroute
      obtain ⟨first, hfirst, hpool⟩ := hchecked.first
      have hlength := hchecked.length
      rw [List.head?_map, Option.map_eq_some_iff] at hfirst
      obtain ⟨_, hhead, heq⟩ := hfirst
      cases heq
      rw [List.length_map, List.length_map] at hlength
      simp [hhead, hpool, hlength]

/-- The gateway accepts the text of a route if and only if the session service does. The
engine accepts what was stored of it if and only if all its hops and tokens are strings
and its fee tiers, if it has any, are integers of 32 bits. -/
theorem routeChecks_agree (lib : Library) (path poolAddress : String) :
    (Gateway.validatePoolSwapPathJson lib path poolAddress = true ↔
      ∃ value, parsePoolSwapPathJson lib path poolAddress = .ok value) ∧
    ∀ value text, parsePoolSwapPathJson lib path poolAddress = .ok value →
      ReadsBack lib value text →
        ((parsePoolSwapRoute lib.jsonFromStr text poolAddress).isSome = true ↔
          RouteTyped value) := by
  refine ⟨validatePoolSwapPathJson_iff, fun value text hparse htext => ?_⟩
  obtain ⟨-, -, hops, hopTokens, hchecked⟩ := parsePoolSwapPathJson_iff.mp hparse
  rw [parsePoolSwapRoute_eq hchecked htext]
  exact ofValue_isSome_iff hchecked

namespace Sample

/-- A library that knows one text. -/
def textLibrary (text : String) (value : Json) : Library where
  jsonFromStr := fun s => if s = text then some value else none
  jsonToString := fun _ => text
  uuidFromStr := fun _ => none
  uuidToString := fun _ => ""
  numericFromStr := fun _ => none

/-- The text of an object with the fields. -/
def objectText (fields : String) : String := "\x7b" ++ fields ++ "\x7d"

theorem trim_objectText (fields : String) : trim (objectText fields) = objectText fields := by
  have hchars : (objectText fields).toList = '\x7b' :: (fields.toList ++ ['\x7d']) := by
    simp [objectText]
  have hopen : isWhitespace '\x7b' = false := by decide
  have hclose : isWhitespace '\x7d' = false := by decide
  rw [← String.ofList_toList (s := objectText fields), hchars]
  simp [trim, trimChars, hopen, hclose]

theorem trim_objectText_ne_empty (fields : String) : trim (objectText fields) ≠ "" := by
  rw [trim_objectText]
  simp [objectText]

theorem textLibrary_read (fields : String) (value : Json) :
    (textLibrary (objectText fields) value).jsonFromStr (trim (objectText fields)) =
      some value := by
  rw [trim_objectText]
  exact if_pos rfl

/-- A value that is read back as it is. -/
theorem textLibrary_readsBack (fields : String) {value : Json} (h : Json.Stored value value) :
    ReadsBack (textLibrary (objectText fields) value) value (objectText fields) :=
  ⟨trim_objectText_ne_empty fields, value, textLibrary_read fields value, h⟩

/-- The route of one hop, with the tokens `a` and `b`. -/
def oneHop (a b : Json) : Json :=
  .object [("hop_tokens", .array [a, b]), ("hops", .array [.string poolAddress])]

def typedFields : String := "\"hop_tokens\":[\"0xa\",\"0xb\"],\"hops\":[\"" ++ poolAddress ++ "\"]"

def numbersFields : String := "\"hop_tokens\":[1,2],\"hops\":[\"" ++ poolAddress ++ "\"]"

theorem oneHop_stored {a b : Json} (ha : Json.Stored a a) (hb : Json.Stored b b) :
    Json.Stored (oneHop a b) (oneHop a b) :=
  .object_self (by simp) (by
    simpa using ⟨.array_self (by simpa using ⟨ha, hb⟩),
      .array_self (by simpa using .string poolAddress)⟩)

theorem oneHop_checked (a b : Json) :
    RouteChecked (oneHop a b) poolAddress [.string poolAddress] [a, b] where
  get_hops := rfl
  get_hopTokens := rfl
  first := ⟨poolAddress, rfl, eqIgnoreAsciiCase_refl _⟩
  length := rfl

/-- The text is accepted, and read back as it is. -/
theorem oneHop_text (fields : String) {a b : Json} (ha : Json.Stored a a)
    (hb : Json.Stored b b) :
    parsePoolSwapPathJson (textLibrary (objectText fields) (oneHop a b)) (objectText fields)
        poolAddress = .ok (oneHop a b) ∧
      ReadsBack (textLibrary (objectText fields) (oneHop a b)) (oneHop a b) (objectText fields) :=
  ⟨parsePoolSwapPathJson_iff.mpr ⟨trim_objectText_ne_empty fields, textLibrary_read fields _,
    _, _, oneHop_checked a b⟩, textLibrary_readsBack fields (oneHop_stored ha hb)⟩

end Sample

/-- A route of strings is a route for the engine. -/
theorem routeChecks_agree_sample :
    (parsePoolSwapRoute
      (Sample.textLibrary (Sample.objectText Sample.typedFields)
        (Sample.oneHop (.string "0xa") (.string "0xb"))).jsonFromStr
      (Sample.objectText Sample.typedFields) Sample.poolAddress).isSome = true := by
  obtain ⟨hparse, hback⟩ := Sample.oneHop_text Sample.typedFields (.string "0xa") (.string "0xb")
  refine ((routeChecks_agree _ _ _).2 _ _ hparse hback).mpr ⟨?_, ?_, ?_⟩
  · rintro _ ⟨⟩
    simp [Json.asStr]
  · rintro _ ⟨⟩
    simp [Json.asStr]
  · rintro _ ⟨⟩

/-- Both services accept a route whose tokens are numbers, and the engine reads no route. -/
theorem accepted_and_unreadable :
    ¬ ∀ lib path poolAddress value text,
      parsePoolSwapPathJson lib path poolAddress = .ok value → ReadsBack lib value text →
        (parsePoolSwapRoute lib.jsonFromStr text poolAddress).isSome = true := by
  intro h
  obtain ⟨hparse, hback⟩ := Sample.oneHop_text Sample.numbersFields
    (.number (m := .posInt 1) rfl) (.number (m := .posInt 2) rfl)
  have hroute := h _ _ _ _ _ hparse hback
  rw [parsePoolSwapRoute_eq (Sample.oneHop_checked _ _) hback] at hroute
  cases hroute

end Engine

end Liquifier
