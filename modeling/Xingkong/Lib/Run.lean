import Mathlib.Data.List.Basic

/-!
# Runs of a deterministic system

`step : S → A → S` takes one action. `final` is the state after a list of actions and
`trace` lists the steps on the way. An invariant is proved once per step; the rules here
carry it to every step of a run. The latch rule is for at-most-once results: while a latch
is open a step is quiet or closes it, and once it is closed every step is quiet.
-/

namespace Run

open List

variable {S A : Type}

/-- One step of a run. -/
structure Ev (S A : Type) where
  before : S
  act : A
  after : S

variable (step : S → A → S)

def final (s : S) (as : List A) : S := as.foldl step s

def trace : S → List A → List (Ev S A)
  | _, [] => []
  | s, a :: as => ⟨s, a, step s a⟩ :: trace (step s a) as

variable {step} {s : S} {as bs : List A} {P : S → Prop}

@[simp] theorem final_nil : final step s [] = s := rfl

@[simp] theorem final_cons {a : A} : final step s (a :: as) = final step (step s a) as := rfl

theorem final_append : final step s (as ++ bs) = final step (final step s as) bs :=
  foldl_append

theorem forall_concat_prefix {P : List A → A → Prop} {b : A} :
    (∀ pre a, pre ++ [a] <+: as ++ [b] → P pre a) ↔
      (∀ pre a, pre ++ [a] <+: as → P pre a) ∧ P as b := by
  constructor
  · intro h
    exact ⟨fun pre a hpre => h pre a (hpre.trans (prefix_append as [b])), h as b (prefix_refl _)⟩
  · rintro ⟨hpre, h1⟩ pre a h
    rcases prefix_concat_iff.1 h with heq | h
    · obtain ⟨hpre', hab⟩ := append_inj' heq rfl
      rw [hpre', singleton_inj.1 hab]
      exact h1
    · exact hpre pre a h

variable {G : S → A → Prop} {e : Ev S A}

theorem final_invariant (h0 : P s) (h : ∀ s, ∀ a ∈ as, P s → P (step s a)) :
    P (final step s as) := by
  induction as generalizing s with
  | nil => exact h0
  | cons a as ih =>
    exact ih (h s a mem_cons_self h0) fun s b hb => h s b (mem_cons_of_mem _ hb)

theorem trace_invariant (h0 : P s) (h : ∀ s, ∀ a ∈ as, P s → P (step s a))
    (he : e ∈ trace step s as) : P e.before ∧ e.act ∈ as ∧ e.after = step e.before e.act := by
  induction as generalizing s with
  | nil => cases he
  | cons a as ih =>
    rcases mem_cons.1 he with rfl | he
    · exact ⟨h0, mem_cons_self, rfl⟩
    · obtain ⟨h1, h2, h3⟩ := ih (h s a mem_cons_self h0)
        (fun s b hb => h s b (mem_cons_of_mem _ hb)) he
      exact ⟨h1, mem_cons_of_mem _ h2, h3⟩

/-- An invariant that steps under a condition preserve, in runs whose steps all meet it. -/
theorem guarded_invariant (h0 : P s) (hg : ∀ e ∈ trace step s as, G e.before e.act)
    (h : ∀ s a, G s a → P s → P (step s a)) (he : e ∈ trace step s as) :
    P e.before ∧ e.after = step e.before e.act ∧ P e.after := by
  induction as generalizing s with
  | nil => cases he
  | cons a as ih =>
    have h1 := h s a (hg _ mem_cons_self) h0
    rcases mem_cons.1 he with rfl | he
    · exact ⟨h0, rfl, h1⟩
    · exact ih h1 (fun e he => hg e (mem_cons_of_mem _ he)) he

theorem guarded_final (h0 : P s) (hg : ∀ e ∈ trace step s as, G e.before e.act)
    (h : ∀ s a, G s a → P s → P (step s a)) : P (final step s as) := by
  induction as generalizing s with
  | nil => exact h0
  | cons a as ih =>
    exact ih (h s a (hg _ mem_cons_self) h0) fun e he => hg e (mem_cons_of_mem _ he)

/-- If a step from a good state leads to a good state exactly when it meets a condition, then the
states of a run are all good exactly when its steps all meet it. -/
theorem forall_after_iff (h0 : P s) (hstep : ∀ s a, P s → (P (step s a) ↔ G s a)) :
    (∀ e ∈ trace step s as, P e.after) ↔ ∀ e ∈ trace step s as, G e.before e.act := by
  induction as generalizing s with
  | nil =>
    constructor <;> intro _ e he <;> cases he
  | cons a as ih =>
    unfold trace
    rw [forall_mem_cons, forall_mem_cons]
    constructor
    · rintro ⟨h, hrest⟩
      exact ⟨(hstep s a h0).1 h, (ih h).1 hrest⟩
    · rintro ⟨h1, hrest⟩
      have h := (hstep s a h0).2 h1
      exact ⟨h, (ih h).2 hrest⟩

section Latch

variable {Open : S → Prop} {Quiet : Ev S A → Prop}

theorem quiet_of_closed (h0 : P s) (h : ∀ s, ∀ a ∈ as, P s → P (step s a))
    (hclosed : ∀ s, ∀ a ∈ as, P s → ¬ Open s → Quiet ⟨s, a, step s a⟩ ∧ ¬ Open (step s a))
    (hc : ¬ Open s) : (∀ e ∈ trace step s as, Quiet e) ∧ ¬ Open (final step s as) := by
  induction as generalizing s with
  | nil => exact ⟨nofun, hc⟩
  | cons a as ih =>
    obtain ⟨hq, hc'⟩ := hclosed s a mem_cons_self h0 hc
    obtain ⟨h1, h2⟩ := ih (h s a mem_cons_self h0)
      (fun s b hb => h s b (mem_cons_of_mem _ hb))
      (fun s b hb => hclosed s b (mem_cons_of_mem _ hb)) hc'
    refine ⟨fun e he => ?_, h2⟩
    rcases mem_cons.1 he with rfl | he
    · exact hq
    · exact h1 e he

/-- At most one step of a run is not quiet. -/
theorem pairwise_quiet (h0 : P s) (h : ∀ s, ∀ a ∈ as, P s → P (step s a))
    (hclosed : ∀ s, ∀ a ∈ as, P s → ¬ Open s → Quiet ⟨s, a, step s a⟩ ∧ ¬ Open (step s a))
    (hopen : ∀ s, ∀ a ∈ as, P s → Open s → Quiet ⟨s, a, step s a⟩ ∨ ¬ Open (step s a)) :
    (trace step s as).Pairwise fun e e' => Quiet e ∨ Quiet e' := by
  induction as generalizing s with
  | nil => exact .nil
  | cons a as ih =>
    have h1 := h s a mem_cons_self h0
    have hs' := fun s b (hb : b ∈ as) => h s b (mem_cons_of_mem _ hb)
    have hc' := fun s b (hb : b ∈ as) => hclosed s b (mem_cons_of_mem _ hb)
    refine Pairwise.cons (fun e he => ?_)
      (ih h1 hs' hc' fun s b hb => hopen s b (mem_cons_of_mem _ hb))
    by_cases ho : Open s
    · rcases hopen s a mem_cons_self h0 ho with hq | h
      · exact .inl hq
      · exact .inr ((quiet_of_closed h1 hs' hc' h).1 e he)
    · exact .inl (hclosed s a mem_cons_self h0 ho).1

end Latch

end Run
