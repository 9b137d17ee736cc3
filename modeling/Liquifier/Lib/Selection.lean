import Mathlib.Data.List.Dedup
import Mathlib.Data.List.Induction
import Mathlib.Order.Lattice

/-!
Choosing from a list: the first occurrence of each key, the first of the least or the
greatest elements, and the front of a sorted list.
-/

namespace Selection

variable {α β κ : Type*}

/-! ### First occurrences -/

section Dedup

variable (key : α → κ)

/-- Nothing before the element has its key. -/
def IsFirst (xs : List α) (x : α) : Prop :=
  ∃ before after, xs = before ++ x :: after ∧ ∀ y ∈ before, key y ≠ key x

variable {key}

theorem IsFirst.mem {xs : List α} {x : α} (h : IsFirst key xs x) : x ∈ xs := by
  obtain ⟨before, after, rfl, _⟩ := h
  exact List.mem_append_right before List.mem_cons_self

theorem isFirst_cons {y x : α} {xs : List α} :
    IsFirst key (y :: xs) x ↔ y = x ∨ (key y ≠ key x ∧ IsFirst key xs x) := by
  constructor
  · rintro ⟨_ | ⟨z, before⟩, after, heq, hbefore⟩
    · exact .inl (List.cons.inj heq).1
    · obtain ⟨rfl, rfl⟩ := List.cons.inj heq
      exact .inr ⟨hbefore y List.mem_cons_self, before, after, rfl,
        fun z hz => hbefore z (List.mem_cons_of_mem y hz)⟩
  · rintro (rfl | ⟨hne, before, after, rfl, hbefore⟩)
    · exact ⟨[], xs, rfl, fun _ h => absurd h List.not_mem_nil⟩
    · exact ⟨y :: before, after, rfl, List.forall_mem_cons.mpr ⟨hne, hbefore⟩⟩

theorem exists_isFirst {xs : List α} {x : α} (hx : x ∈ xs) :
    ∃ y, IsFirst key xs y ∧ key y = key x := by
  induction xs with
  | nil => exact absurd hx List.not_mem_nil
  | cons z xs ih =>
      by_cases heq : key z = key x
      · exact ⟨z, isFirst_cons.mpr (.inl rfl), heq⟩
      · rcases List.mem_cons.mp hx with rfl | hx
        · exact absurd rfl heq
        · obtain ⟨y, hfirst, hy⟩ := ih hx
          exact ⟨y, isFirst_cons.mpr (.inr ⟨fun h => heq (h.trans hy), hfirst⟩), hy⟩

variable [DecidableEq κ] (key)

/-- Keep what has a key that was not seen before. -/
def dedupFrom (seen : List κ) : List α → List α
  | [] => []
  | x :: xs => if key x ∈ seen then dedupFrom seen xs else x :: dedupFrom (key x :: seen) xs

def dedupBy (xs : List α) : List α := dedupFrom key [] xs

variable {key}

theorem mem_dedupFrom {seen : List κ} {xs : List α} {x : α} :
    x ∈ dedupFrom key seen xs ↔ key x ∉ seen ∧ IsFirst key xs x := by
  induction xs generalizing seen with
  | nil =>
      refine iff_of_false List.not_mem_nil ?_
      rintro ⟨_, hfirst⟩
      exact List.not_mem_nil hfirst.mem
  | cons y xs ih =>
      rw [dedupFrom, isFirst_cons]
      split
      · rename_i hseen
        rw [ih]
        constructor
        · rintro ⟨hx, hfirst⟩
          exact ⟨hx, .inr ⟨fun heq => hx (heq ▸ hseen), hfirst⟩⟩
        · rintro ⟨hx, rfl | ⟨_, hfirst⟩⟩
          · exact absurd hseen hx
          · exact ⟨hx, hfirst⟩
      · rename_i hnew
        rw [List.mem_cons, ih, List.mem_cons, not_or]
        constructor
        · rintro (rfl | ⟨⟨hne, hx⟩, hfirst⟩)
          · exact ⟨hnew, .inl rfl⟩
          · exact ⟨hx, .inr ⟨Ne.symm hne, hfirst⟩⟩
        · rintro ⟨hx, rfl | ⟨hne, hfirst⟩⟩
          · exact .inl rfl
          · exact .inr ⟨⟨Ne.symm hne, hx⟩, hfirst⟩

theorem mem_dedupBy {xs : List α} {x : α} : x ∈ dedupBy key xs ↔ IsFirst key xs x :=
  mem_dedupFrom.trans (and_iff_right List.not_mem_nil)

theorem pairwise_dedupFrom (seen : List κ) (xs : List α) :
    (dedupFrom key seen xs).Pairwise fun x y => key x ≠ key y := by
  induction xs generalizing seen with
  | nil => exact List.Pairwise.nil
  | cons y xs ih =>
      rw [dedupFrom]
      split
      · exact ih seen
      · refine List.pairwise_cons.mpr ⟨fun x hx heq => ?_, ih (key y :: seen)⟩
        exact (mem_dedupFrom.mp hx).1 (heq ▸ List.mem_cons_self)

/-- No two of the kept elements have one key. -/
theorem pairwise_dedupBy (xs : List α) :
    (dedupBy key xs).Pairwise fun x y => key x ≠ key y := pairwise_dedupFrom [] xs

theorem dedupFrom_congr {κ' : Type*} [DecidableEq κ'] {key' : α → κ'} {all seen xs : List α}
    (h : ∀ y ∈ all, ∀ z ∈ all, key y = key z ↔ key' y = key' z) (hseen : seen ⊆ all)
    (hxs : xs ⊆ all) :
    dedupFrom key (seen.map key) xs = dedupFrom key' (seen.map key') xs := by
  induction xs generalizing seen with
  | nil => rfl
  | cons x xs ih =>
      obtain ⟨hx, hxs⟩ := List.cons_subset.mp hxs
      have hmem : key x ∈ seen.map key ↔ key' x ∈ seen.map key' := by
        simp only [List.mem_map]
        exact exists_congr fun y => and_congr_right fun hy => h y (hseen hy) x hx
      simp only [dedupFrom, hmem, ← List.map_cons, ih hseen hxs,
        ih (List.cons_subset.mpr ⟨hx, hseen⟩) hxs]

/-- Keys that agree about equality keep the same elements. -/
theorem dedupBy_congr {κ' : Type*} [DecidableEq κ'] {key' : α → κ'} {xs : List α}
    (h : ∀ y ∈ xs, ∀ z ∈ xs, key y = key z ↔ key' y = key' z) :
    dedupBy key xs = dedupBy key' xs :=
  dedupFrom_congr h (List.nil_subset xs) (List.Subset.refl xs)

/-- One element is kept for each key. -/
theorem length_dedupBy (xs : List α) : (dedupBy key xs).length = (xs.map key).dedup.length := by
  have hnodup : ((dedupBy key xs).map key).Nodup := List.pairwise_map.mpr (pairwise_dedupBy xs)
  rw [← List.length_map key]
  refine ((List.perm_ext_iff_of_nodup hnodup (List.nodup_dedup _)).mpr fun k => ?_).length_eq
  rw [List.mem_dedup, List.mem_map, List.mem_map]
  constructor
  · rintro ⟨x, hx, rfl⟩
    exact ⟨x, (mem_dedupBy.mp hx).mem, rfl⟩
  · rintro ⟨x, hx, rfl⟩
    obtain ⟨y, hfirst, hy⟩ : ∃ y, IsFirst key xs y ∧ key y = key x := exists_isFirst hx
    exact ⟨y, mem_dedupBy.mpr hfirst, hy⟩

end Dedup

/-! ### The first of the least -/

section Least

variable [LinearOrder β] (f : α → β)

/-- Everything before the element is above it, and nothing behind it is below. -/
def IsFirstLeast (xs : List α) (x : α) : Prop :=
  ∃ before after, xs = before ++ x :: after ∧
    (∀ y ∈ before, f x < f y) ∧ ∀ y ∈ after, f x ≤ f y

variable {f}

theorem IsFirstLeast.le {xs : List α} {x y : α} (h : IsFirstLeast f xs x) (hy : y ∈ xs) :
    f x ≤ f y := by
  obtain ⟨before, after, rfl, hbefore, hafter⟩ := h
  rcases List.mem_append.mp hy with hy | hy
  · exact (hbefore y hy).le
  · rcases List.mem_cons.mp hy with rfl | hy
    · exact le_rfl
    · exact hafter y hy

/-- An element that is not below the first of the least changes nothing. -/
theorem IsFirstLeast.concat {xs : List α} {x y : α} (h : IsFirstLeast f xs x) (hge : f x ≤ f y) :
    IsFirstLeast f (xs ++ [y]) x := by
  obtain ⟨before, after, rfl, hbefore, hafter⟩ := h
  refine ⟨before, after ++ [y], by rw [List.append_assoc, List.cons_append], hbefore, ?_⟩
  intro z hz
  rcases List.mem_append.mp hz with hz | hz
  · exact hafter z hz
  · rwa [List.mem_singleton.mp hz]

/-- An element below all others is the first of the least. -/
theorem isFirstLeast_concat {xs : List α} {y : α} (h : ∀ z ∈ xs, f y < f z) :
    IsFirstLeast f (xs ++ [y]) y :=
  ⟨xs, [], rfl, h, fun _ hz => absurd hz List.not_mem_nil⟩

/-- A running minimum that only a smaller element replaces. -/
theorem isFirstLeast_foldl (x : α) (xs : List α) :
    IsFirstLeast f (x :: xs) (xs.foldl (fun best y => if f y < f best then y else best) x) := by
  induction xs using List.reverseRecOn with
  | nil =>
      have hnone : ∀ z ∈ ([] : List α), f x < f z := fun _ h => absurd h List.not_mem_nil
      exact isFirstLeast_concat hnone
  | append_singleton xs y ih =>
      rw [List.foldl_append, List.foldl_cons, List.foldl_nil, ← List.cons_append]
      split
      · rename_i hlt
        exact isFirstLeast_concat fun z hz => hlt.trans_le (ih.le hz)
      · rename_i hge
        exact ih.concat (not_lt.mp hge)

/-- The first of the least among the elements with a property. -/
theorem IsFirstLeast.of_filter {p : α → Bool} {xs : List α} {x : α}
    (h : IsFirstLeast f (xs.filter p) x) :
    ∃ before after, xs = before ++ x :: after ∧ p x = true ∧
      (∀ y ∈ before, p y = true → f x < f y) ∧ ∀ y ∈ after, p y = true → f x ≤ f y := by
  obtain ⟨before, after, heq, hbefore, hafter⟩ := h
  obtain ⟨front, back, rfl, rfl, hback⟩ := List.filter_eq_append_iff.mp heq
  obtain ⟨skipped, after', rfl, hskipped, hx, rfl⟩ := List.filter_eq_cons_iff.mp hback
  refine ⟨front ++ skipped, after', by rw [List.append_assoc], hx, ?_, ?_⟩
  · intro y hy hpy
    rcases List.mem_append.mp hy with hy | hy
    · exact hbefore y (List.mem_filter.mpr ⟨hy, hpy⟩)
    · exact absurd hpy (hskipped y hy)
  · exact fun y hy hpy => hafter y (List.mem_filter.mpr ⟨hy, hpy⟩)

end Least

/-! ### The greatest -/

section Greatest

variable [LinearOrder β] (f : α → β)

/-- Everything before the element is below it, and nothing behind it is above. -/
def IsFirstGreatest (xs : List α) (x : α) : Prop :=
  IsFirstLeast (fun y => OrderDual.toDual (f y)) xs x

variable {f}

theorem isFirstGreatest_iff {xs : List α} {x : α} :
    IsFirstGreatest f xs x ↔ ∃ before after, xs = before ++ x :: after ∧
      (∀ y ∈ before, f y < f x) ∧ ∀ y ∈ after, f y ≤ f x := Iff.rfl

theorem IsFirstGreatest.mem {xs : List α} {x : α} (h : IsFirstGreatest f xs x) : x ∈ xs := by
  obtain ⟨before, after, rfl, _⟩ := h
  exact List.mem_append_right before List.mem_cons_self

theorem IsFirstGreatest.le {xs : List α} {x y : α} (h : IsFirstGreatest f xs x) (hy : y ∈ xs) :
    f y ≤ f x := IsFirstLeast.le (f := fun z => OrderDual.toDual (f z)) h hy

/-- A running maximum that an equal element replaces is no smaller than any element. -/
theorem foldl_greatest (x : α) (xs : List α) :
    xs.foldl (fun best y => if f best ≤ f y then y else best) x ∈ x :: xs ∧
      ∀ y ∈ x :: xs, f y ≤ f (xs.foldl (fun best y => if f best ≤ f y then y else best) x) := by
  induction xs using List.reverseRecOn with
  | nil => simp
  | append_singleton xs z ih =>
      obtain ⟨hmem, hle⟩ := ih
      rw [List.foldl_append, List.foldl_cons, List.foldl_nil, ← List.cons_append]
      split
      · rename_i hge
        refine ⟨List.mem_append_right _ List.mem_cons_self, fun y hy => ?_⟩
        rcases List.mem_append.mp hy with hy | hy
        · exact (hle y hy).trans hge
        · rw [List.mem_singleton.mp hy]
      · rename_i hlt
        refine ⟨List.mem_append_left _ hmem, fun y hy => ?_⟩
        rcases List.mem_append.mp hy with hy | hy
        · exact hle y hy
        · rw [List.mem_singleton.mp hy]
          exact (not_le.mp hlt).le

end Greatest

/-! ### The front of a sorted list -/

/-- What does not fit into the front is related to all of it, and the front is full. -/
theorem rel_of_notMem_take {r : α → α → Prop} {xs : List α} (h : xs.Pairwise r) {k : ℕ} {x : α}
    (hx : x ∈ xs) (hnot : x ∉ xs.take k) : (xs.take k).length = k ∧ ∀ y ∈ xs.take k, r y x := by
  have hdrop : x ∈ xs.drop k := by
    rw [← List.take_append_drop k xs] at hx
    exact (List.mem_append.mp hx).resolve_left hnot
  constructor
  · have hpos : 0 < (xs.drop k).length := List.length_pos_of_mem hdrop
    rw [List.length_drop] at hpos
    rw [List.length_take]
    omega
  · intro y hy
    rw [← List.take_append_drop k xs, List.pairwise_append] at h
    exact h.2.2 y hy x hdrop

end Selection
