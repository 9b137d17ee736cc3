import Mathlib.Data.List.Induction

/-!
Runs of a deterministic machine on a list of inputs.

`Guarded` asks something of every input in the state in which the input arrives.
`Guarded.history` is the induction over such runs for statements that speak of the
inputs so far, and `Guarded.invariant` the one for statements about the state.
`notes` keeps a record of a run that the machine itself does not keep. A property is
stable on a run when no input of the run ends it.
-/

namespace Trace

variable {σ ι : Type*} (next : σ → ι → σ)

/-- Every input satisfies `G` in the state in which it arrives. -/
def Guarded (G : σ → ι → Prop) (s : σ) : List ι → Prop
  | [] => True
  | e :: es => G s e ∧ Guarded G (next s e) es

instance (G : σ → ι → Prop) [∀ s e, Decidable (G s e)] :
    ∀ (s : σ) (es : List ι), Decidable (Guarded next G s es)
  | _, [] => isTrue trivial
  | s, e :: es =>
      have := instDecidableGuarded G (next s e) es
      inferInstanceAs (Decidable (G s e ∧ Guarded next G (next s e) es))

variable {next} {G H : σ → ι → Prop} {s : σ}

theorem guarded_append {es fs : List ι} :
    Guarded next G s (es ++ fs) ↔ Guarded next G s es ∧ Guarded next G (es.foldl next s) fs := by
  induction es generalizing s with
  | nil => simp [Guarded]
  | cons e es ih => simp [Guarded, ih, and_assoc]

theorem guarded_concat {es : List ι} {e : ι} :
    Guarded next G s (es ++ [e]) ↔ Guarded next G s es ∧ G (es.foldl next s) e := by
  simp [guarded_append, Guarded]

theorem Guarded.mono {es : List ι} (h : Guarded next G s es) (hGH : ∀ s e, G s e → H s e) :
    Guarded next H s es := by
  induction es generalizing s with
  | nil => trivial
  | cons e es ih => exact ⟨hGH s e h.1, ih h.2⟩

/-- A guard, and what holds of every input whatever the state. -/
theorem Guarded.and_mem {P : ι → Prop} {es : List ι} (h : Guarded next G s es)
    (hP : ∀ e ∈ es, P e) : Guarded next (fun s e => G s e ∧ P e) s es := by
  induction es generalizing s with
  | nil => trivial
  | cons e es ih =>
      exact ⟨⟨h.1, hP e List.mem_cons_self⟩,
        ih h.2 fun f hf => hP f (List.mem_cons_of_mem e hf)⟩

/-- A statement about the inputs so far holds of the whole run if every input keeps it. -/
theorem Guarded.history {P : List ι → Prop} {es : List ι} (h : Guarded next G s es) (h₀ : P [])
    (hstep : ∀ es e, Guarded next G s es → P es → G (es.foldl next s) e → P (es ++ [e])) :
    P es := by
  induction es using List.reverseRecOn with
  | nil => exact h₀
  | append_singleton es e ih =>
      obtain ⟨hes, he⟩ := guarded_concat.mp h
      exact hstep es e hes (ih hes) he

/-- A property of the state holds at the end of the run if every input keeps it. -/
theorem Guarded.invariant {I : σ → Prop} {es : List ι} (h : Guarded next G s es) (h₀ : I s)
    (hstep : ∀ s e, I s → G s e → I (next s e)) : I (es.foldl next s) := by
  refine h.history (P := fun es => I (es.foldl next s)) h₀ fun es e _ hI he => ?_
  rw [List.foldl_append]
  exact hstep _ e hI he

/-- A statement holds all along the run if and only if the inputs satisfy what each of
them needs to keep it. -/
theorem forall_prefix_iff_guarded {P : List ι → Prop} {es : List ι} (h₀ : P [])
    (hstep : ∀ es e, P es → (P (es ++ [e]) ↔ G (es.foldl next s) e)) :
    (∀ es', es' <+: es → P es') ↔ Guarded next G s es := by
  induction es using List.reverseRecOn with
  | nil =>
      refine ⟨fun _ => trivial, fun _ es' hpre => ?_⟩
      rw [List.prefix_nil.mp hpre]
      exact h₀
  | append_singleton es e ih =>
      rw [guarded_concat, ← ih]
      constructor
      · intro h
        exact ⟨fun es' hpre => h es' (hpre.trans (List.prefix_append es [e])),
          (hstep es e (h es (List.prefix_append es [e]))).mp (h _ List.prefix_rfl)⟩
      · rintro ⟨hall, he⟩ es' hpre
        rcases List.prefix_concat_iff.mp hpre with rfl | hpre
        · exact (hstep es e (hall es List.prefix_rfl)).mpr he
        · exact hall es' hpre

/-! ### Notes on the side -/

section Notes

variable {ν : Type*} (next) (note : σ → List ν → ι → List ν)

/-- One input, and what is noted of it in view of the notes so far. -/
def noted (g : σ × List ν) (e : ι) : σ × List ν := (next g.1 e, g.2 ++ note g.1 g.2 e)

/-- The notes of a run. -/
def notes (s : σ) (es : List ι) : List ν := (es.foldl (noted next note) (s, [])).2

variable {next note}

/-- The notes do not touch the run. -/
theorem foldl_noted_fst (g : σ × List ν) (es : List ι) :
    (es.foldl (noted next note) g).1 = es.foldl next g.1 := by
  induction es generalizing g with
  | nil => rfl
  | cons e es ih => exact ih (noted next note g e)

theorem notes_concat (s : σ) (es : List ι) (e : ι) :
    notes next note s (es ++ [e]) =
      notes next note s es ++ note (es.foldl next s) (notes next note s es) e := by
  rw [notes, List.foldl_append, List.foldl_cons, List.foldl_nil, noted, foldl_noted_fst, ← notes]

/-- A note was left by some input of the run. -/
theorem mem_notes_iff {es : List ι} {v : ν} :
    v ∈ notes next note s es ↔ ∃ pre e post, es = pre ++ e :: post ∧
      v ∈ note (pre.foldl next s) (notes next note s pre) e := by
  induction es using List.reverseRecOn with
  | nil => simp [notes]
  | append_singleton es e ih =>
      rw [notes_concat, List.mem_append, ih]
      constructor
      · rintro (⟨pre, f, post, rfl, hv⟩ | hv)
        · exact ⟨pre, f, post ++ [e], by simp, hv⟩
        · exact ⟨es, e, [], rfl, hv⟩
      · rintro ⟨pre, f, post, heq, hv⟩
        cases post using List.reverseRecOn with
        | nil =>
            obtain ⟨rfl, hf⟩ := List.append_inj' heq rfl
            obtain rfl := List.singleton_inj.mp hf
            exact .inr hv
        | append_singleton post g =>
            rw [← List.cons_append, ← List.append_assoc] at heq
            obtain ⟨rfl, -⟩ := List.append_inj' heq rfl
            exact .inl ⟨pre, f, post, rfl, hv⟩

end Notes

/-! ### Stable properties -/

/-- Once `P` holds in a state of the run, it holds in all later ones. -/
def Stable (next : σ → ι → σ) (P : σ → Prop) (s : σ) (es : List ι) : Prop :=
  ∀ es₁ es₂, es₁ ++ es₂ <+: es → P (es₁.foldl next s) → P ((es₁ ++ es₂).foldl next s)

/-- A property is stable on a run if and only if no single input ends it. -/
theorem stable_iff_guarded {P : σ → Prop} {es : List ι} :
    Stable next P s es ↔ Guarded next (fun s e => P s → P (next s e)) s es := by
  induction es using List.reverseRecOn with
  | nil =>
      refine ⟨fun _ => trivial, fun _ es₁ es₂ hpre hP => ?_⟩
      obtain ⟨rfl, rfl⟩ := List.append_eq_nil_iff.mp (List.prefix_nil.mp hpre)
      exact hP
  | append_singleton es e ih =>
      rw [guarded_concat, ← ih]
      constructor
      · intro h
        refine ⟨fun es₁ es₂ hpre => h es₁ es₂ (hpre.trans (List.prefix_append es [e])), ?_⟩
        have hlast := h es [e] List.prefix_rfl
        rwa [List.foldl_append] at hlast
      · rintro ⟨hstable, hlast⟩ es₁ es₂ hpre hP
        rcases List.prefix_concat_iff.mp hpre with heq | hpre
        · cases es₂ using List.reverseRecOn with
          | nil => simpa using hP
          | append_singleton es₂ f =>
              rw [← List.append_assoc] at heq ⊢
              obtain ⟨rfl, hf⟩ := List.append_inj' heq rfl
              rw [List.foldl_append, List.singleton_inj.mp hf]
              exact hlast (hstable es₁ es₂ List.prefix_rfl hP)
        · exact hstable es₁ es₂ hpre hP

end Trace
