import Mathlib.Data.List.DropRight
import Mathlib.Data.List.TakeWhile

/-!
Lists without the elements of a kind at their two ends.
-/

namespace Trim

variable {α : Type*} (p : α → Bool)

/-- The list from the first to the last element without `p`. -/
def trimBy (xs : List α) : List α := ((xs.dropWhile p).reverse.dropWhile p).reverse

variable {p}

theorem dropWhile_eq_self {xs : List α} (h : ∀ x ∈ xs, p x = false) : xs.dropWhile p = xs := by
  refine List.dropWhile_eq_self_iff.mpr fun hpos => ?_
  rw [h _ (List.getElem_mem hpos)]
  exact Bool.false_ne_true

theorem trimBy_eq_self {xs : List α} (h : ∀ x ∈ xs, p x = false) : trimBy p xs = xs := by
  rw [trimBy, dropWhile_eq_self h, dropWhile_eq_self (by simpa using h), List.reverse_reverse]

theorem dropWhile_append {front xs : List α} (h : ∀ x ∈ front, p x = true) :
    (front ++ xs).dropWhile p = xs.dropWhile p := by
  rw [List.dropWhile_append, List.dropWhile_eq_nil_iff.mpr h, List.isEmpty_nil,
    if_pos rfl]

/-- What stands at the ends does not matter. -/
theorem trimBy_append {front back : List α} (hfront : ∀ x ∈ front, p x = true)
    (hback : ∀ x ∈ back, p x = true) (xs : List α) :
    trimBy p (front ++ xs ++ back) = trimBy p xs := by
  rw [trimBy, List.append_assoc, dropWhile_append hfront, List.dropWhile_append]
  split
  · rename_i hnil
    rw [List.isEmpty_iff] at hnil
    rw [trimBy, hnil, List.dropWhile_eq_nil_iff.mpr hback]
  · rw [List.reverse_append, dropWhile_append (by simpa using hback), trimBy]

/-- The list is what is left of it between two runs of `p`. -/
theorem exists_eq_append (xs : List α) :
    ∃ front back, xs = front ++ trimBy p xs ++ back ∧ (∀ x ∈ front, p x = true) ∧
      ∀ x ∈ back, p x = true := by
  refine ⟨xs.takeWhile p, ((xs.dropWhile p).reverse.takeWhile p).reverse, ?_,
    fun x hx => List.mem_takeWhile_imp hx, fun x hx => List.mem_takeWhile_imp (by simpa using hx)⟩
  rw [trimBy, List.append_assoc, ← List.reverse_append, List.takeWhile_append_dropWhile,
    List.reverse_reverse, List.takeWhile_append_dropWhile]

theorem trimBy_trimBy (xs : List α) : trimBy p (trimBy p xs) = trimBy p xs := by
  obtain ⟨front, back, heq, hfront, hback⟩ := exists_eq_append (p := p) xs
  rw [← trimBy_append hfront hback (trimBy p xs), ← heq]

/-- A list that does not begin with `p` is only trimmed at its end, and there not beyond
what comes before. -/
theorem trimBy_append_right {xs : List α} (h : ∀ x ∈ xs, p x = false) (hne : xs ≠ [])
    (ys : List α) : trimBy p (xs ++ ys) = xs ++ ys.rdropWhile p := by
  obtain ⟨x, front, rfl⟩ := List.exists_cons_of_ne_nil hne
  have hx : ¬ p x = true := by simp [h x List.mem_cons_self]
  rw [trimBy, List.cons_append, List.dropWhile_cons_of_neg hx, ← List.cons_append,
    List.reverse_append, List.dropWhile_append, List.rdropWhile]
  split
  · rename_i hnil
    rw [List.isEmpty_iff] at hnil
    rw [hnil, dropWhile_eq_self fun y hy => h y (List.mem_reverse.mp hy), List.reverse_reverse,
      List.reverse_nil, List.append_nil]
  · rw [List.reverse_append, List.reverse_reverse]

/-- A run of `p` does not reach what has none of it. -/
theorem takeWhile_append_of_neg {ys : List α} (h : ∀ y ∈ ys, p y = false) (xs : List α) :
    (xs ++ ys).takeWhile p = xs.takeWhile p := by
  have hnil : ys.takeWhile p = [] := by
    cases ys with
    | nil => rfl
    | cons y ys => exact List.takeWhile_cons_of_neg (by simp [h y List.mem_cons_self])
  rw [List.takeWhile_append]
  split
  · rename_i hlen
    rw [hnil, List.append_nil]
    exact ((List.takeWhile_prefix p).eq_of_length hlen).symm
  · rfl

end Trim
