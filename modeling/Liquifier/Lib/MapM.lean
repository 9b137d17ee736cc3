import Mathlib.Data.List.Basic

/-!
Lists that are read element by element.

`List.mapM` with a partial function succeeds if the function does on every element, and
the results are then those of the elements, one for each and in their order.
-/

namespace MapM

variable {α β : Type*} {f : α → Option β} {xs : List α} {ys : List β}

theorem mapM_eq_some_iff : xs.mapM f = some ys ↔ xs.map f = ys.map some := by
  induction xs generalizing ys with
  | nil => cases ys <;> simp
  | cons x xs ih =>
      simp only [List.mapM_cons, Option.pure_def, Option.bind_eq_bind, Option.bind_eq_some_iff,
        Option.some.injEq, ih, List.map_cons]
      constructor
      · rintro ⟨y, hy, rest, hrest, rfl⟩
        rw [hy, hrest, List.map_cons]
      · intro h
        cases ys with
        | nil => cases h
        | cons y rest =>
            obtain ⟨hy, hrest⟩ := List.cons.inj h
            exact ⟨y, hy, rest, hrest, rfl⟩

theorem exists_of_mapM (h : xs.mapM f = some ys) {y : β} (hy : y ∈ ys) :
    ∃ x ∈ xs, f x = some y := by
  have hmem : some y ∈ xs.map f := mapM_eq_some_iff.mp h ▸ List.mem_map_of_mem hy
  exact List.mem_map.mp hmem

/-- Every element is read as `g` says. -/
theorem mapM_of_forall {g : α → β} (h : ∀ x ∈ xs, f x = some (g x)) :
    xs.mapM f = some (xs.map g) := by
  rw [mapM_eq_some_iff, List.map_map]
  exact List.map_congr_left h

theorem isSome_mapM : (xs.mapM f).isSome = true ↔ ∀ x ∈ xs, (f x).isSome = true := by
  rw [Option.isSome_iff_exists]
  constructor
  · rintro ⟨ys, hys⟩ x hx
    have hmem : f x ∈ ys.map some := mapM_eq_some_iff.mp hys ▸ List.mem_map_of_mem hx
    obtain ⟨y, -, hy⟩ := List.mem_map.mp hmem
    rw [← hy, Option.isSome_some]
  · intro h
    induction xs with
    | nil => exact ⟨[], rfl⟩
    | cons x xs ih =>
        obtain ⟨hx, hxs⟩ := List.forall_mem_cons.mp h
        obtain ⟨y, hy⟩ := Option.isSome_iff_exists.mp hx
        obtain ⟨ys, hys⟩ := ih hxs
        refine ⟨y :: ys, mapM_eq_some_iff.mpr ?_⟩
        rw [List.map_cons, List.map_cons, hy, mapM_eq_some_iff.mp hys]

end MapM
