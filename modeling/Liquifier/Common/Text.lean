import Liquifier.Lib.Trim
import Mathlib.Data.List.Basic

/-!
The parts of Rust's `str` that the services use: trimming, ASCII case and the
comparison that ignores it. Strings are read through their lists of characters.
-/

namespace Liquifier

/-- `char::is_whitespace`: the characters with the Unicode property White_Space. -/
def isWhitespace (c : Char) : Bool :=
  let n := c.toNat
  (9 ≤ n && n ≤ 13) || n == 0x20 || n == 0x85 || n == 0xA0 || n == 0x1680 ||
    (0x2000 ≤ n && n ≤ 0x200A) || n == 0x2028 || n == 0x2029 || n == 0x202F ||
    n == 0x205F || n == 0x3000

def trimChars (cs : List Char) : List Char :=
  ((cs.dropWhile isWhitespace).reverse.dropWhile isWhitespace).reverse

/-- `str::trim`. -/
def trim (s : String) : String := String.ofList (trimChars s.toList)

/-- `str::to_ascii_lowercase`; on the hexadecimal texts of this program also
`str::to_lowercase` and SQL's `LOWER`. -/
def toAsciiLowercase (s : String) : String := String.ofList (s.toList.map Char.toLower)

/-- `str::eq_ignore_ascii_case`. -/
def eqIgnoreAsciiCase (s t : String) : Bool := s.toList.map Char.toLower == t.toList.map Char.toLower

theorem eqIgnoreAsciiCase_iff {s t : String} :
    eqIgnoreAsciiCase s t = true ↔ s.toList.map Char.toLower = t.toList.map Char.toLower := by
  simp [eqIgnoreAsciiCase]

@[simp] theorem eqIgnoreAsciiCase_refl (s : String) : eqIgnoreAsciiCase s s = true := by
  simp [eqIgnoreAsciiCase]

theorem eqIgnoreAsciiCase_symm {s t : String} (h : eqIgnoreAsciiCase s t = true) :
    eqIgnoreAsciiCase t s = true :=
  eqIgnoreAsciiCase_iff.mpr (eqIgnoreAsciiCase_iff.mp h).symm

theorem eqIgnoreAsciiCase_of_lowercase {s t : String}
    (h : toAsciiLowercase s = toAsciiLowercase t) : eqIgnoreAsciiCase s t = true :=
  eqIgnoreAsciiCase_iff.mpr (String.ofList_inj.mp h)

theorem eqIgnoreAsciiCase_trans {s t u : String} (hst : eqIgnoreAsciiCase s t = true)
    (htu : eqIgnoreAsciiCase t u = true) : eqIgnoreAsciiCase s u = true :=
  eqIgnoreAsciiCase_iff.mpr ((eqIgnoreAsciiCase_iff.mp hst).trans (eqIgnoreAsciiCase_iff.mp htu))

/-- What a function makes of the letters in either case, it makes of all characters. -/
theorem apply_toLower {α : Type} {f : Char → α}
    (hf : ∀ k < 91, 65 ≤ k → f (Char.ofNat k).toLower = f (Char.ofNat k)) (c : Char) :
    f c.toLower = f c := by
  by_cases hupper : c.val ≥ 'A'.val ∧ c.val ≤ 'Z'.val
  · have hge : 65 ≤ c.toNat := UInt32.le_iff_toNat_le.mp hupper.1
    have hle : c.toNat ≤ 90 := UInt32.le_iff_toNat_le.mp hupper.2
    have hletter := hf c.toNat (by omega) hge
    rwa [Char.ofNat_toNat] at hletter
  · have heq : c.toLower = c := dif_neg hupper
    rw [heq]

theorem isWhitespace_toLower (c : Char) : isWhitespace c.toLower = isWhitespace c :=
  apply_toLower (by decide) c

theorem trim_eq_self {s : String} (h : ∀ c ∈ s.toList, isWhitespace c = false) : trim s = s := by
  have htrim : trimChars s.toList = s.toList := Trim.trimBy_eq_self h
  rw [trim, htrim, String.ofList_toList]

@[simp] theorem trim_trim (s : String) : trim (trim s) = trim s := by
  have htrim : trimChars (trimChars s.toList) = trimChars s.toList := Trim.trimBy_trimBy s.toList
  rw [trim, trim, String.toList_ofList, htrim]

end Liquifier
