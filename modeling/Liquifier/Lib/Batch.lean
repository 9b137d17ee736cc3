import Mathlib.Data.List.Nodup
import Mathlib.Logic.Function.Iterate

/-!
A queue that is worked off in rounds, of which each looks at the first `k` elements.

What a round finishes leaves the queue, and what is stuck stays where it is, so that it
takes one of the `k` places again in the next round. Whether every element is reached
is decided by how many stuck ones stand before it: `Fair` says fewer than `k`. A round
neither makes an unfair queue fair nor a fair one unfair, and in a fair one it finishes
something as long as there is anything to finish.
-/

namespace Batch

variable {α : Type*} (k : ℕ) (stuck : α → Bool)

/-- The queue after a round. -/
def round (l : List α) : List α := (l.take k).filter stuck ++ l.drop k

/-- Fewer than `k` stuck elements stand before an element that is not. -/
def Fair (l : List α) : Prop :=
  ∀ before x after, l = before ++ x :: after → stuck x = false → before.countP stuck < k

variable {k stuck} {l : List α}

/-- What is not stuck stands behind the elements that a round keeps. -/
theorem round_split {before after : List α} {x : α} (h : round k stuck l = before ++ x :: after)
    (hx : stuck x = false) :
    ∃ rest, before = (l.take k).filter stuck ++ rest ∧ l.drop k = rest ++ x :: after := by
  rcases List.append_eq_append_iff.mp h with ⟨rest, hbefore, hdrop⟩ | ⟨rest, hkept, hrest⟩
  · exact ⟨rest, hbefore, hdrop⟩
  · cases rest with
    | nil => exact ⟨[], by simpa using hkept.symm, hrest.symm⟩
    | cons y rest =>
        obtain ⟨rfl, -⟩ := List.cons.inj hrest
        have hmem : x ∈ (l.take k).filter stuck := by rw [hkept]; simp
        rw [(List.mem_filter.mp hmem).2] at hx
        cases hx

/-- As many stuck elements stand before an element after the round as before it. -/
theorem countP_filter_append (stuck : α → Bool) (l rest : List α) :
    (l.filter stuck ++ rest).countP stuck = (l ++ rest).countP stuck := by
  rw [List.countP_append, List.countP_append, List.countP_filter]
  simp only [Bool.and_self]

theorem fair_round_iff : Fair k stuck (round k stuck l) ↔ Fair k stuck l := by
  constructor
  · intro h before x after hl hx
    by_contra hge
    have hlen : k ≤ before.length := Nat.le_trans (Nat.not_lt.mp hge) List.countP_le_length
    have htake : l.take k = before.take k := by rw [hl, List.take_append_of_le_length hlen]
    have hround : round k stuck l =
        ((before.take k).filter stuck ++ before.drop k) ++ x :: after := by
      rw [round, htake, hl, List.drop_append_of_le_length hlen, List.append_assoc]
    have hlt := h _ x after hround hx
    rw [countP_filter_append, List.take_append_drop] at hlt
    exact hge hlt
  · intro h before x after hround hx
    obtain ⟨rest, rfl, hdrop⟩ := round_split hround hx
    rw [countP_filter_append]
    refine h _ x after ?_ hx
    rw [List.append_assoc, ← hdrop, List.take_append_drop]

/-- A round that takes the elements out by their keys. -/
theorem filter_keys_eq_round {κ : Type*} [DecidableEq κ] {key : α → κ} (h : (l.map key).Nodup) :
    (l.filter fun x => (l.take k).all fun y => stuck y || key x ≠ key y) = round k stuck l := by
  conv_lhs =>
    arg 2
    rw [← List.take_append_drop k l]
  rw [List.filter_append, round]
  congr 1
  · refine List.filter_congr fun x hx => Bool.eq_iff_iff.mpr ⟨fun hall => ?_, fun hx' => ?_⟩
    · simpa using List.all_eq_true.mp hall x hx
    · refine List.all_eq_true.mpr fun y hy => ?_
      by_cases hkey : key x = key y
      · have heq : x = y := List.inj_on_of_nodup_map h (List.mem_of_mem_take hx)
          (List.mem_of_mem_take hy) hkey
        simp [← heq, hx']
      · simp [hkey]
  · refine List.filter_eq_self.mpr fun x hx => List.all_eq_true.mpr fun y hy => ?_
    rw [← List.take_append_drop k l, List.map_append] at h
    have hkey : key x ≠ key y := fun heq =>
      List.disjoint_of_nodup_append h (List.mem_map_of_mem hy) (heq ▸ List.mem_map_of_mem hx)
    simp [hkey]

/-- In a fair queue the first `k` elements are all stuck only if all are. -/
theorem Fair.all_stuck (h : Fair k stuck l) (hfirst : ∀ x ∈ l.take k, stuck x = true) :
    ∀ x ∈ l, stuck x = true := by
  intro x hx
  by_contra hstuck
  rw [← List.take_append_drop k l] at hx
  rcases List.mem_append.mp hx with hx | hx
  · exact hstuck (hfirst x hx)
  · obtain ⟨rest, after, hdrop⟩ := List.append_of_mem hx
    have hl : l = (l.take k ++ rest) ++ x :: after := by
      rw [List.append_assoc, ← hdrop, List.take_append_drop]
    have hlt := h _ x after hl (Bool.not_eq_true _ ▸ hstuck)
    have hlen : k ≤ l.length := Nat.le_of_lt (List.lt_length_of_take_ne_self fun heq => by
      rw [← heq, List.drop_take] at hx
      simp at hx)
    rw [List.countP_append, List.countP_eq_length.mpr hfirst, List.length_take_of_le hlen] at hlt
    omega

theorem round_eq_self (h : ∀ x ∈ l, stuck x = true) : round k stuck l = l := by
  rw [round, List.filter_eq_self.mpr fun x hx => h x (List.mem_of_mem_take hx),
    List.take_append_drop]

/-- A round finishes something in a fair queue that is not all stuck. -/
theorem Fair.progress (h : Fair k stuck l) :
    (∀ x ∈ l, stuck x = true) ∨ (round k stuck l).length < l.length := by
  by_cases hfirst : ∀ x ∈ l.take k, stuck x = true
  · exact .inl (h.all_stuck hfirst)
  · right
    have hlt : ((l.take k).filter stuck).length < (l.take k).length :=
      List.length_filter_lt_length_iff_exists.mpr (by simpa using hfirst)
    have hl : (l.take k).length + (l.drop k).length = l.length := by
      rw [← List.length_append, List.take_append_drop]
    rw [round, List.length_append]
    omega

/-- As many rounds as there are elements finish a fair queue. -/
theorem Fair.all_stuck_of_length_le {n : ℕ} (h : Fair k stuck l) (hn : l.length ≤ n) :
    ∀ x ∈ (round k stuck)^[n] l, stuck x = true := by
  induction n generalizing l with
  | zero =>
      rw [List.eq_nil_of_length_eq_zero (Nat.le_zero.mp hn)]
      exact fun x hx => absurd hx List.not_mem_nil
  | succ n ih =>
      rw [Function.iterate_succ_apply]
      rcases h.progress with hall | hlt
      · have hfix : (round k stuck)^[n] (round k stuck l) = l := by
          rw [round_eq_self hall]
          exact Function.iterate_fixed (round_eq_self hall) n
        rw [hfix]
        exact hall
      · exact ih (fair_round_iff.mpr h) (by omega)

theorem fair_iterate_round_iff (n : ℕ) :
    Fair k stuck ((round k stuck)^[n] l) ↔ Fair k stuck l := by
  induction n generalizing l with
  | zero => exact Iff.rfl
  | succ n ih =>
      rw [Function.iterate_succ_apply, ih]
      exact fair_round_iff

/-- What is all stuck is fair. -/
theorem fair_of_all_stuck (h : ∀ x ∈ l, stuck x = true) : Fair k stuck l := by
  intro before x after hl hx
  rw [h x (by rw [hl]; simp)] at hx
  cases hx

/-- Rounds finish a queue if and only if it is fair, and then as many as it has elements
are enough. -/
theorem fair_iff_all_stuck {n : ℕ} (hn : l.length ≤ n) :
    Fair k stuck l ↔ ∀ x ∈ (round k stuck)^[n] l, stuck x = true :=
  ⟨fun h => h.all_stuck_of_length_le hn,
    fun h => (fair_iterate_round_iff n).mp (fair_of_all_stuck h)⟩

/-- An unfair queue is never finished. -/
theorem exists_of_not_fair (h : ¬ Fair k stuck l) (n : ℕ) :
    ∃ x ∈ (round k stuck)^[n] l, stuck x = false := by
  by_contra hall
  refine h ((fair_iterate_round_iff n).mp (fair_of_all_stuck fun x hx => ?_))
  by_contra hx'
  exact hall ⟨x, hx, Bool.not_eq_true _ ▸ hx'⟩

end Batch
