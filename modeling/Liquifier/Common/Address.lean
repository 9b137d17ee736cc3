import Liquifier.Common.Text

/-!
20-byte addresses and their hexadecimal text. `Address.debug` is what
`format!("{addr:?}")` prints and `Address.parse` is `str::parse::<Address>()`,
which takes the digits in either case and the prefix `0x` or none. The prefix `0X` is taken
for digits, and so refused; a version of the library that strips it too reads more texts.
-/

namespace Liquifier

/-- Sixteen digits, the lower case ones for the values from ten on. -/
def hexDigit (n : ℕ) : Char := "0123456789abcdef".toList.getD n '0'

def hexValue (c : Char) : Option ℕ :=
  if '0' ≤ c ∧ c ≤ '9' then some (c.toNat - '0'.toNat)
  else if 'a' ≤ c ∧ c ≤ 'f' then some (c.toNat - 'a'.toNat + 10)
  else if 'A' ≤ c ∧ c ≤ 'F' then some (c.toNat - 'A'.toNat + 10)
  else none

def encodeHex (bytes : List UInt8) : List Char :=
  bytes.flatMap fun b => [hexDigit (b.toNat / 16), hexDigit (b.toNat % 16)]

def decodeHex : List Char → Option (List UInt8)
  | [] => some []
  | [_] => none
  | hi :: lo :: cs => do
      let h ← hexValue hi
      let l ← hexValue lo
      let rest ← decodeHex cs
      some (UInt8.ofNat (16 * h + l) :: rest)

/-- `alloy::primitives::Address`. -/
structure Address where
  bytes : List UInt8
  size : bytes.length = 20
  deriving DecidableEq

namespace Address

/-- The number that the bytes spell, most significant first. Addresses are
ordered by it. -/
def toNat (a : Address) : ℕ := a.bytes.foldl (fun acc b => 256 * acc + b.toNat) 0

/-- `format!("{a:?}")`. -/
def debug (a : Address) : String := String.ofList ('0' :: 'x' :: encodeHex a.bytes)

def ofBytes (bytes : List UInt8) : Option Address :=
  if h : bytes.length = 20 then some ⟨bytes, h⟩ else none

/-- `Address::ZERO`. -/
def zero : Address := ⟨List.replicate 20 0, by simp⟩

/-- The prefix `0x`, where there is one, is not part of the digits. -/
def stripPrefix : List Char → List Char
  | '0' :: 'x' :: cs => cs
  | cs => cs

/-- `s.parse::<Address>().ok()`. -/
def parse (s : String) : Option Address := (decodeHex (stripPrefix s.toList)).bind ofBytes

end Address

/-! ### The text of an address denotes it -/

theorem hexValue_hexDigit {n : ℕ} (h : n < 16) : hexValue (hexDigit n) = some n := by
  revert n
  decide

theorem toLower_hexDigit {n : ℕ} (h : n < 16) : (hexDigit n).toLower = hexDigit n := by
  revert n
  decide

/-- A digit has its value in either case. -/
theorem hexValue_toLower (c : Char) : hexValue c.toLower = hexValue c :=
  apply_toLower (by decide) c

theorem decodeHex_map_toLower (cs : List Char) :
    decodeHex (cs.map Char.toLower) = decodeHex cs := by
  induction cs using decodeHex.induct with
  | case1 => rfl
  | case2 => rfl
  | case3 hi lo cs ih => simp only [List.map_cons, decodeHex, hexValue_toLower, ih]

theorem decodeHex_encodeHex (bytes : List UInt8) : decodeHex (encodeHex bytes) = some bytes := by
  induction bytes with
  | nil => rfl
  | cons b bytes ih =>
      have hhi : hexValue (hexDigit (b.toNat / 16)) = some (b.toNat / 16) :=
        hexValue_hexDigit (by have := b.toNat_lt; omega)
      have hlo : hexValue (hexDigit (b.toNat % 16)) = some (b.toNat % 16) :=
        hexValue_hexDigit (Nat.mod_lt _ (by omega))
      have hb : UInt8.ofNat (16 * (b.toNat / 16) + b.toNat % 16) = b := by
        rw [Nat.div_add_mod, UInt8.ofNat_toNat]
      rw [encodeHex] at ih
      simp only [encodeHex, List.flatMap_cons, List.cons_append, List.nil_append, decodeHex,
        hhi, hlo, ih, hb, Option.bind_eq_bind, Option.bind_some]

theorem map_toLower_encodeHex (bytes : List UInt8) :
    (encodeHex bytes).map Char.toLower = encodeHex bytes := by
  induction bytes with
  | nil => rfl
  | cons b bytes ih =>
      have hhi := toLower_hexDigit (n := b.toNat / 16) (by have := b.toNat_lt; omega)
      have hlo := toLower_hexDigit (n := b.toNat % 16) (Nat.mod_lt _ (by omega))
      simp only [encodeHex, List.flatMap_cons, List.map_append, List.map_cons, List.map_nil] at ih ⊢
      rw [hhi, hlo, ih]

/-- Every digit has a value. -/
theorem hexValue_isSome_of_decodeHex {cs : List Char} {bytes : List UInt8}
    (h : decodeHex cs = some bytes) : ∀ c ∈ cs, (hexValue c).isSome = true := by
  induction cs using decodeHex.induct generalizing bytes with
  | case1 => exact fun c hc => absurd hc List.not_mem_nil
  | case2 => cases h
  | case3 hi lo cs ih =>
      simp only [decodeHex, Option.bind_eq_bind, Option.bind_eq_some_iff] at h
      obtain ⟨high, hhi, low, hlo, rest, hrest, -⟩ := h
      intro c hc
      rcases List.mem_cons.mp hc with rfl | hc
      · rw [hhi]
        rfl
      · rcases List.mem_cons.mp hc with rfl | hc
        · rw [hlo]
          rfl
        · exact ih hrest c hc

/-- Two digits make a byte. -/
theorem length_of_decodeHex {cs : List Char} {bytes : List UInt8} (h : decodeHex cs = some bytes) :
    cs.length = 2 * bytes.length := by
  induction cs using decodeHex.induct generalizing bytes with
  | case1 =>
      obtain rfl := Option.some.inj h
      rfl
  | case2 => cases h
  | case3 hi lo cs ih =>
      simp only [decodeHex, Option.bind_eq_bind, Option.bind_eq_some_iff] at h
      obtain ⟨high, hhi, low, hlo, rest, hrest, hbytes⟩ := h
      rw [← Option.some.inj hbytes, List.length_cons, List.length_cons, List.length_cons, ih hrest]
      omega

@[simp] theorem length_encodeHex (bytes : List UInt8) :
    (encodeHex bytes).length = 2 * bytes.length :=
  length_of_decodeHex (decodeHex_encodeHex bytes)

/-- What holds of the sixteen digits holds of all of a text. -/
theorem forall_mem_encodeHex {P : Char → Prop} (h : ∀ n < 16, P (hexDigit n))
    (bytes : List UInt8) : ∀ c ∈ encodeHex bytes, P c := by
  intro c hc
  obtain ⟨b, -, hc⟩ := List.mem_flatMap.mp hc
  have hb := b.toNat_lt
  simp only [List.mem_cons, List.not_mem_nil, or_false] at hc
  rcases hc with rfl | rfl
  · exact h _ (by omega)
  · exact h _ (Nat.mod_lt _ (by decide))

/-- A prefixed text has no blanks. -/
theorem isWhitespace_of_mem_encodeHex {bytes : List UInt8} {c : Char}
    (h : c ∈ '0' :: 'x' :: encodeHex bytes) : isWhitespace c = false := by
  rcases List.mem_cons.mp h with rfl | h
  · decide
  · rcases List.mem_cons.mp h with rfl | h
    · decide
    · exact forall_mem_encodeHex (P := fun c => isWhitespace c = false) (by decide) bytes c h

theorem encodeHex_append (xs ys : List UInt8) :
    encodeHex (xs ++ ys) = encodeHex xs ++ encodeHex ys := List.flatMap_append

namespace Address

theorem decodeHex_prefixed (cs : List Char) : decodeHex ('0' :: 'x' :: cs) = none := by
  have hx : hexValue 'x' = none := by decide
  simp [decodeHex, hx]

/-- Digits have no prefix. -/
theorem stripPrefix_of_decodeHex {cs : List Char} {bytes : List UInt8}
    (h : decodeHex cs = some bytes) : stripPrefix cs = cs := by
  rw [stripPrefix.eq_def]
  split
  · rw [decodeHex_prefixed] at h
    cases h
  · rfl

theorem map_toLower_debug (a : Address) :
    a.debug.toList.map Char.toLower = a.debug.toList := by
  have h0 : Char.toLower '0' = '0' := by decide
  have hx : Char.toLower 'x' = 'x' := by decide
  simp [debug, map_toLower_encodeHex, h0, hx]

@[simp] theorem parse_debug (a : Address) : parse a.debug = some a := by
  simp [parse, debug, stripPrefix, decodeHex_encodeHex, ofBytes, a.size]

/-- The printed addresses are told apart, also when case is ignored. -/
@[simp] theorem eqIgnoreAsciiCase_debug {a b : Address} :
    eqIgnoreAsciiCase a.debug b.debug = true ↔ a = b := by
  constructor
  · intro h
    rw [eqIgnoreAsciiCase_iff, map_toLower_debug, map_toLower_debug] at h
    have htext : a.debug = b.debug := String.toList_inj.mp h
    have hparse : parse a.debug = parse b.debug := congrArg parse htext
    simpa using hparse
  · rintro rfl
    exact eqIgnoreAsciiCase_refl _

/-- A text that is the one of an address but for the case denotes no other address. -/
theorem eq_of_parse {s : String} {a b : Address} (h : eqIgnoreAsciiCase s a.debug = true)
    (hparse : parse s = some b) : b = a := by
  rw [eqIgnoreAsciiCase_iff, map_toLower_debug, debug, String.toList_ofList] at h
  rw [parse, stripPrefix.eq_def] at hparse
  split at hparse
  · rename_i cs hs
    rw [hs, List.map_cons, List.map_cons, List.cons.injEq, List.cons.injEq] at h
    rw [← decodeHex_map_toLower, h.2.2, decodeHex_encodeHex] at hparse
    simp only [Option.bind_some, ofBytes, a.size] at hparse
    exact (Option.some.inj hparse).symm
  · rw [← decodeHex_map_toLower, h, decodeHex_prefixed] at hparse
    cases hparse

theorem isWhitespace_of_mem_debug {a : Address} {c : Char} (h : c ∈ a.debug.toList) :
    isWhitespace c = false := by
  rw [debug, String.toList_ofList] at h
  exact isWhitespace_of_mem_encodeHex h

theorem trim_eq_of_debug {s : String} {a : Address} (h : eqIgnoreAsciiCase s a.debug = true) :
    trim s = s := by
  rw [eqIgnoreAsciiCase_iff, map_toLower_debug] at h
  refine trim_eq_self fun c hc => ?_
  have hlower : c.toLower ∈ a.debug.toList := h ▸ List.mem_map_of_mem hc
  rw [← isWhitespace_toLower, isWhitespace_of_mem_debug hlower]

end Address

end Liquifier
