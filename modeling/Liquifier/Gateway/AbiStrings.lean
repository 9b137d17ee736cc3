import Liquifier.Common.Address
import Liquifier.Lib.BigEndian

/-!
The string that a token contract answers.

`decode_abi_string` reads an offset and a length out of what the contract returned and
checks each against the size of the data before it takes a slice. The checks add in
`usize`, which wraps in a release build, so what they let through may still be no slice
of the data. A slice whose ends are out of order or out of the data is a panic.
-/

namespace Liquifier.Gateway

inductive Panic where
  | sliceIndex
  | copyFromSlice
  deriving DecidableEq

/-- `data[start..end]`. -/
def slice (data : List UInt8) (start finish : ℕ) : Except Panic (List UInt8) :=
  if start ≤ finish ∧ finish ≤ data.length then .ok ((data.take finish).drop start)
  else .error .sliceIndex

/-- `usize::from_be_bytes`, of a slice that is copied to eight bytes. -/
def usizeFromBeBytes (bytes : List UInt8) : Except Panic ℕ :=
  if bytes.length = 8 then .ok (BigEndian.ofBytes bytes) else .error .copyFromSlice

/-- `x + y` in `usize`. -/
def usizeAdd (x y : ℕ) : ℕ := (x + y) % 2 ^ 64

/-- `decode_abi_string` behind the digits. -/
def decodeAbiData (data : List UInt8) : Except Panic (Option String) :=
  if data.length < 64 then .ok none
  else do
    let offset ← usizeFromBeBytes (← slice data 24 32)
    if data.length < usizeAdd offset 32 then .ok none
    else do
      let length ← usizeFromBeBytes
        (← slice data (usizeAdd offset 24) (usizeAdd offset 32))
      if data.length < usizeAdd (usizeAdd offset 32) length then .ok none
      else
        (slice data (usizeAdd offset 32) (usizeAdd (usizeAdd offset 32) length)).map
          fun bytes => String.fromUTF8? ⟨bytes.toArray⟩

def decodeAbiString (hexData : String) : Except Panic (Option String) :=
  match decodeHex (Address.stripPrefix hexData.toList) with
  | none => .ok none
  | some data => decodeAbiData data

/-! ### Slices -/

theorem slice_append (front mid back : List UInt8) :
    slice (front ++ mid ++ back) front.length (front.length + mid.length) = .ok mid := by
  rw [slice, if_pos ⟨Nat.le_add_right _ _, by simp⟩, ← List.length_append, List.take_left,
    List.drop_left]

theorem slice_ok {data : List UInt8} {start finish : ℕ} (hle : start ≤ finish)
    (hlen : finish ≤ data.length) : slice data start finish = .ok ((data.take finish).drop start) :=
  if_pos ⟨hle, hlen⟩

theorem slice_error {data : List UInt8} {start finish : ℕ} (h : finish < start) :
    slice data start finish = .error .sliceIndex := if_neg fun hle => absurd hle.1 (not_le.mpr h)

theorem length_slice {data : List UInt8} {start finish : ℕ} (hlen : finish ≤ data.length) :
    ((data.take finish).drop start).length = finish - start := by
  rw [List.length_drop, List.length_take, min_eq_left hlen]

/-- Eight bytes that end where the data still goes on. -/
def usizeBefore (data : List UInt8) (finish : ℕ) : ℕ :=
  BigEndian.ofBytes ((data.take finish).drop (finish - 8))

theorem usizeFromBeBytes_slice {data : List UInt8} {start finish : ℕ} (heq : start + 8 = finish)
    (hlen : finish ≤ data.length) :
    (slice data start finish >>= usizeFromBeBytes) = .ok (usizeBefore data finish) := by
  have hstart : finish - 8 = start := by omega
  rw [slice_ok (by omega) hlen, usizeBefore, hstart]
  exact if_pos ((length_slice hlen).trans (by omega))

theorem usizeBefore_lt (data : List UInt8) {finish : ℕ} (hlen : finish ≤ data.length) :
    usizeBefore data finish < 2 ^ 64 := by
  have hlt := BigEndian.ofBytes_lt ((data.take finish).drop (finish - 8))
  rw [length_slice hlen] at hlt
  refine hlt.trans_le ?_
  calc 256 ^ (finish - (finish - 8)) ≤ 256 ^ 8 := Nat.pow_le_pow_right (by decide) (by omega)
    _ = 2 ^ 64 := by decide

theorem usizeAdd_of_lt {x y : ℕ} (h : x + y < 2 ^ 64) : usizeAdd x y = x + y := Nat.mod_eq_of_lt h

/-- A sum of two words that wraps is short of either of them. -/
theorem usizeAdd_of_le {x y : ℕ} (hx : x < 2 ^ 64) (hy : y < 2 ^ 64) (h : 2 ^ 64 ≤ x + y) :
    usizeAdd x y = x + y - 2 ^ 64 := by
  rw [usizeAdd, Nat.mod_eq_sub_mod h, Nat.mod_eq_of_lt (by omega)]

/-! ### Offsets and lengths in range -/

section Data

variable (data : List UInt8)

/-- The offset, less what a `usize` does not hold. -/
def abiOffset : ℕ := usizeBefore data 32

/-- Where the word of the length ends. -/
def lengthEnd : ℕ := usizeAdd (abiOffset data) 32

/-- The length, less what a `usize` does not hold. -/
def abiLength : ℕ := usizeBefore data (lengthEnd data)

/-- The last eight bytes of the length do not begin behind their own end. -/
def OffsetInRange : Prop :=
  ¬ (2 ^ 64 - 32 ≤ abiOffset data ∧ abiOffset data < 2 ^ 64 - 24)

/-- The offset is in range, and where a length stands at it, the length leads to no
address behind the last one. -/
structure InRange : Prop where
  offset : OffsetInRange data
  length : lengthEnd data ≤ data.length → lengthEnd data + abiLength data < 2 ^ 64

end Data

variable {data : List UInt8}

theorem abiOffset_lt (hlen : 64 ≤ data.length) : abiOffset data < 2 ^ 64 :=
  usizeBefore_lt data (le_trans (by decide) hlen)

theorem lengthEnd_lt (data : List UInt8) : lengthEnd data < 2 ^ 64 :=
  Nat.mod_lt _ (Nat.two_pow_pos 64)

/-- The two ends of the length are in order if and only if the offset is in range. -/
theorem offsetInRange_iff (hlen : 64 ≤ data.length) :
    OffsetInRange data ↔ usizeAdd (abiOffset data) 24 + 8 = lengthEnd data := by
  have hoffset := abiOffset_lt hlen
  rw [OffsetInRange, lengthEnd]
  by_cases hwrap : abiOffset data + 32 < 2 ^ 64
  · rw [usizeAdd_of_lt hwrap, usizeAdd_of_lt (by omega)]
    omega
  · rw [usizeAdd_of_le (y := 32) hoffset (by decide) (by omega)]
    by_cases hstart : abiOffset data + 24 < 2 ^ 64
    · rw [usizeAdd_of_lt hstart]
      omega
    · rw [usizeAdd_of_le hoffset (by decide) (by omega)]
      omega

/-- Otherwise the length ends within the first eight bytes and begins behind the last. -/
theorem lengthEnd_of_not_offsetInRange (hlen : 64 ≤ data.length) (h : ¬ OffsetInRange data) :
    lengthEnd data < 8 ∧ lengthEnd data < usizeAdd (abiOffset data) 24 := by
  have hoffset := abiOffset_lt hlen
  obtain ⟨hge, hlt⟩ := not_not.mp h
  rw [lengthEnd, usizeAdd_of_le (y := 32) hoffset (by decide) (by omega),
    usizeAdd_of_lt (by omega)]
  omega

theorem decodeAbiData_eq_bind (hlen : 64 ≤ data.length) (hend : lengthEnd data ≤ data.length) :
    decodeAbiData data =
      ((slice data (usizeAdd (abiOffset data) 24) (lengthEnd data) >>= usizeFromBeBytes) >>=
        fun length =>
          if data.length < usizeAdd (lengthEnd data) length then .ok none
          else
            (slice data (lengthEnd data) (usizeAdd (lengthEnd data) length)).map
              fun bytes => String.fromUTF8? ⟨bytes.toArray⟩) := by
  have hoffset := usizeFromBeBytes_slice (show 24 + 8 = 32 from rfl)
    (hlen.trans' (show 32 ≤ 64 by decide))
  rw [decodeAbiData, if_neg (not_lt.mpr hlen), ← bind_assoc, hoffset]
  show (if data.length < lengthEnd data then _ else _) = _
  rw [if_neg (not_lt.mpr hend), bind_assoc]
  rfl

/-- Where both checks are passed. -/
theorem decodeAbiData_eq (hlen : 64 ≤ data.length) (hoffset : OffsetInRange data)
    (hend : lengthEnd data ≤ data.length) :
    decodeAbiData data =
      if data.length < usizeAdd (lengthEnd data) (abiLength data) then .ok none
      else
        (slice data (lengthEnd data) (usizeAdd (lengthEnd data) (abiLength data))).map
          fun bytes => String.fromUTF8? ⟨bytes.toArray⟩ := by
  rw [decodeAbiData_eq_bind hlen hend,
    usizeFromBeBytes_slice ((offsetInRange_iff hlen).mp hoffset) hend]
  rfl

theorem decodeAbiData_of_inRange (hlen : 64 ≤ data.length) (h : InRange data)
    (hend : lengthEnd data ≤ data.length) :
    decodeAbiData data =
      if data.length < lengthEnd data + abiLength data then .ok none
      else .ok (String.fromUTF8?
        ⟨((data.take (lengthEnd data + abiLength data)).drop (lengthEnd data)).toArray⟩) := by
  rw [decodeAbiData_eq hlen h.offset hend, usizeAdd_of_lt (h.length hend)]
  split
  · rfl
  · rename_i hfits
    rw [slice_ok (Nat.le_add_right _ _) (not_lt.mp hfits)]
    rfl

/-- Nothing panics if and only if the offset and the length are in range. -/
theorem decodeAbiData_ok_iff (hlen : 64 ≤ data.length) :
    (∃ result, decodeAbiData data = .ok result) ↔ InRange data := by
  by_cases hend : lengthEnd data ≤ data.length
  · by_cases hoffset : OffsetInRange data
    · by_cases hlength : lengthEnd data + abiLength data < 2 ^ 64
      · have h : InRange data := ⟨hoffset, fun _ => hlength⟩
        refine iff_of_true ?_ h
        rw [decodeAbiData_of_inRange hlen h hend]
        split <;> exact ⟨_, rfl⟩
      · refine iff_of_false ?_ fun h => hlength (h.length hend)
        have hadd := usizeAdd_of_le (lengthEnd_lt data) (usizeBefore_lt data hend)
          (not_lt.mp hlength)
        have hlt : abiLength data < 2 ^ 64 := usizeBefore_lt data hend
        change usizeAdd (lengthEnd data) (abiLength data) =
          lengthEnd data + abiLength data - 2 ^ 64 at hadd
        rw [decodeAbiData_eq hlen hoffset hend, if_neg (by omega), slice_error (by omega)]
        rintro ⟨_, ⟨⟩⟩
    · refine iff_of_false ?_ fun h => hoffset h.offset
      rw [decodeAbiData_eq_bind hlen hend, slice_error ?_]
      · rintro ⟨_, ⟨⟩⟩
      · exact (lengthEnd_of_not_offsetInRange hlen hoffset).2
  · refine iff_of_true ⟨none, ?_⟩ ⟨?_, fun h => absurd h hend⟩
    · have hoffset := usizeFromBeBytes_slice (show 24 + 8 = 32 from rfl)
        (hlen.trans' (show 32 ≤ 64 by decide))
      rw [decodeAbiData, if_neg (not_lt.mpr hlen), ← bind_assoc, hoffset]
      exact if_pos (not_le.mp hend)
    · by_contra hoffset
      have hlt := (lengthEnd_of_not_offsetInRange hlen hoffset).1
      omega

/-- What is no hexadecimal text of 64 bytes or more is refused before anything is read. -/
theorem decodeAbiString_ok_iff (hexData : String) :
    (∃ result, decodeAbiString hexData = .ok result) ↔
      ∀ data, decodeHex (Address.stripPrefix hexData.toList) = some data → 64 ≤ data.length →
        InRange data := by
  cases hdecode : decodeHex (Address.stripPrefix hexData.toList) with
  | none =>
      rw [decodeAbiString, hdecode]
      exact iff_of_true ⟨none, rfl⟩ fun _ h => nomatch h
  | some data =>
      rw [decodeAbiString, hdecode]
      by_cases hlen : 64 ≤ data.length
      · rw [decodeAbiData_ok_iff hlen]
        constructor
        · rintro h _ ⟨⟩ _
          exact h
        · exact fun h => h data rfl hlen
      · refine iff_of_true ⟨none, if_pos (not_le.mp hlen)⟩ ?_
        rintro _ ⟨⟩ hlen'
        exact absurd hlen' hlen

/-- A contract answers an offset whose end is the first address again. -/
theorem decodeAbiString_panics :
    decodeAbiString (String.ofList ('0' :: 'x' ::
      encodeHex (BigEndian.toBytes 32 (2 ^ 64 - 32) ++ BigEndian.toBytes 32 0))) =
        .error .sliceIndex := by
  decide +kernel

/-! ### Standard encodings -/

/-- The zeros up to the next word. -/
def padding (size : ℕ) : ℕ := (32 - size % 32) % 32

/-- The ABI encoding of one returned string: where it stands, its size, and its bytes up
to a whole number of words. -/
def encodeAbiString (s : String) : List UInt8 :=
  let bytes := s.toUTF8.data.toList
  BigEndian.toBytes 32 32 ++ BigEndian.toBytes 32 bytes.length ++ bytes ++
    List.replicate (padding bytes.length) 0

theorem usizeBefore_append (front back : List UInt8) {n : ℕ} (h : n < 2 ^ 64) :
    usizeBefore (front ++ BigEndian.toBytes 32 n ++ back) (front.length + 32) = n := by
  have hfront : (front ++ BigEndian.toBytes 32 n).length = front.length + 32 := by simp
  rw [usizeBefore, ← hfront, List.take_left, show 32 = 24 + 8 from rfl, BigEndian.toBytes_add,
    ← List.append_assoc, List.drop_left' (by simp)]
  exact BigEndian.ofBytes_toBytes_of_lt h

theorem fromUTF8?_toUTF8 (s : String) : String.fromUTF8? s.toUTF8 = some s := by
  rw [String.fromUTF8?, String.toUTF8_eq_toByteArray, dif_pos s.isValidUTF8]
  rfl

theorem decodeAbiData_encode {s : String} (hsize : s.utf8ByteSize < 2 ^ 63) :
    decodeAbiData (encodeAbiString s) = .ok (some s) := by
  have hbytes : s.toUTF8.data.toList.length = s.utf8ByteSize := rfl
  generalize hs : s.toUTF8.data.toList = bytes at hbytes
  have hdata : encodeAbiString s = BigEndian.toBytes 32 32 ++ BigEndian.toBytes 32 bytes.length ++
      bytes ++ List.replicate (padding bytes.length) 0 := by rw [encodeAbiString, hs]
  generalize encodeAbiString s = data at hdata
  have hlen : 64 + bytes.length ≤ data.length := by
    simp only [hdata, List.length_append, BigEndian.length_toBytes]
    omega
  have hoffset : abiOffset data = 32 := by
    have h := usizeBefore_append [] (BigEndian.toBytes 32 bytes.length ++ bytes ++
      List.replicate (padding bytes.length) 0) (show 32 < 2 ^ 64 by decide)
    rwa [List.nil_append, ← List.append_assoc, ← List.append_assoc, ← hdata] at h
  have hend : lengthEnd data = 64 := by rw [lengthEnd, hoffset]; rfl
  have hlength : abiLength data = bytes.length := by
    have h := usizeBefore_append (BigEndian.toBytes 32 32) (bytes ++
      List.replicate (padding bytes.length) 0) (show bytes.length < 2 ^ 64 by omega)
    rw [← List.append_assoc, ← hdata, BigEndian.length_toBytes] at h
    rw [abiLength, hend]
    exact h
  have hrange : InRange data := by
    refine ⟨?_, fun _ => ?_⟩
    · rw [OffsetInRange, hoffset]
      decide
    · rw [hend, hlength]
      omega
  have hslice : (data.take (64 + bytes.length)).drop 64 = bytes := by
    have h := slice_append (BigEndian.toBytes 32 32 ++ BigEndian.toBytes 32 bytes.length) bytes
      (List.replicate (padding bytes.length) 0)
    rw [← hdata, List.length_append, BigEndian.length_toBytes, BigEndian.length_toBytes,
      slice_ok (Nat.le_add_right _ _) hlen] at h
    exact Except.ok.inj h
  rw [decodeAbiData_of_inRange (by omega) hrange (by omega), hend, hlength,
    if_neg (not_lt.mpr hlen), hslice, ← hs]
  exact congrArg Except.ok (fromUTF8?_toUTF8 s)

/-- The digits of a standard encoding are read back, in either case and with the prefix
`0x` or without it. -/
theorem decodeAbiString_encode {s hexData : String} (hsize : s.utf8ByteSize < 2 ^ 63)
    (hhex : hexData.toList.map Char.toLower = encodeHex (encodeAbiString s)) :
    decodeAbiString hexData = .ok (some s) ∧ decodeAbiString ("0x" ++ hexData) = .ok (some s) := by
  have hdecode : decodeHex hexData.toList = some (encodeAbiString s) := by
    rw [← decodeHex_map_toLower, hhex, decodeHex_encodeHex]
  have hprefixed : ("0x" ++ hexData).toList = '0' :: 'x' :: hexData.toList := by
    rw [String.toList_append]
    rfl
  constructor
  · rw [decodeAbiString, Address.stripPrefix_of_decodeHex hdecode, hdecode]
    exact decodeAbiData_encode hsize
  · rw [decodeAbiString, hprefixed, Address.stripPrefix, hdecode]
    exact decodeAbiData_encode hsize

theorem decodeAbiString_usdt :
    decodeAbiString ("0x" ++ String.ofList (encodeHex (BigEndian.toBytes 32 32 ++
      BigEndian.toBytes 32 4 ++ [0x55, 0x53, 0x44, 0x54] ++ List.replicate 28 0))) =
        .ok (some "USDT") :=
  (decodeAbiString_encode (s := "USDT") (by decide +kernel) (by decide +kernel)).2

end Liquifier.Gateway
