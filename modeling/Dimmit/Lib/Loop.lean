import Mathlib.Data.List.Basic

/-!
# Loops that thread a state

A loop over a list passes a state from entry to entry and collects what each pass gives.  The
state, the entries and what is collected may hold a part that is *ours*: the unwinding rule says
that our part of the outcome depends on our part of the input only, when each pass over an entry
of ours does the same in states that are alike, and each other pass leaves our part alone.
-/

namespace Loop

variable {σ α β : Type*}

/-- The loop with the pass `f`. -/
def thread (f : α → σ → List β × σ) : List α → σ → List β × σ
  | [], s => ([], s)
  | a :: as, s =>
    let (bs, s) := f a s
    let (bs', s) := thread f as s
    (bs ++ bs', s)

variable {f g : α → σ → List β × σ}

theorem thread_cons (f : α → σ → List β × σ) (a : α) (as : List α) (s : σ) :
    thread f (a :: as) s = ((f a s).1 ++ (thread f as (f a s).2).1, (thread f as (f a s).2).2) :=
  rfl

/-- What is collected comes from a pass. -/
theorem exists_of_mem_thread {as : List α} {s : σ} {b : β} (h : b ∈ (thread f as s).1) :
    ∃ a ∈ as, ∃ s, b ∈ (f a s).1 := by
  induction as generalizing s with
  | nil => cases h
  | cons a as ih =>
      rcases List.mem_append.mp h with h | h
      · exact ⟨a, List.mem_cons_self, s, h⟩
      · obtain ⟨a', ha', hs⟩ := ih h
        exact ⟨a', List.mem_cons_of_mem _ ha', hs⟩

/-! ## Unwinding -/

/-- The pass `f` over an entry of ours among `as` does, on our part, what `g` does in a state
alike. -/
def Matches (R : σ → σ → Prop) (p : α → Bool) (q : β → Bool) (as : List α)
    (f g : α → σ → List β × σ) : Prop :=
  ∀ a ∈ as, p a = true → ∀ s t, R s t →
    (f a s).1.filter q = (g a t).1.filter q ∧ R (f a s).2 (g a t).2

/-- The pass `f` over an entry among `as` that is not ours leaves our part alone. -/
def Silent (R : σ → σ → Prop) (p : α → Bool) (q : β → Bool) (as : List α)
    (f : α → σ → List β × σ) : Prop :=
  ∀ a ∈ as, p a = false → ∀ s t, R s t → (f a s).1.filter q = [] ∧ R (f a s).2 t

variable {R : σ → σ → Prop} {p : α → Bool} {q : β → Bool} {as bs : List α}

/-- Our part of a loop is the loop over the entries of ours. -/
theorem thread_filter (hfg : Matches R p q as f g) (hf : Silent R p q as f) {s t : σ} (h : R s t) :
    (thread f as s).1.filter q = (thread g (as.filter p) t).1.filter q ∧
      R (thread f as s).2 (thread g (as.filter p) t).2 := by
  induction as generalizing s t with
  | nil => exact ⟨rfl, h⟩
  | cons a as ih =>
      obtain ⟨hfga, hfg⟩ := List.forall_mem_cons.mp hfg
      obtain ⟨hfa, hf⟩ := List.forall_mem_cons.mp hf
      rw [thread_cons]
      cases ha : p a with
      | true =>
          obtain ⟨hbs, hst⟩ := hfga ha s t h
          obtain ⟨hrest, hend⟩ := ih hfg hf hst
          rw [List.filter_cons_of_pos ha, thread_cons]
          refine ⟨?_, hend⟩
          rw [List.filter_append, List.filter_append, hbs, hrest]
      | false =>
          obtain ⟨hbs, hst⟩ := hfa ha s t h
          obtain ⟨hrest, hend⟩ := ih hfg hf hst
          rw [List.filter_cons_of_neg (by simp [ha])]
          refine ⟨?_, hend⟩
          rw [List.filter_append, hbs, List.nil_append, hrest]

/-- **The unwinding rule.**  Two loops over lists with the same entries of ours, from states that
are alike, agree on our part and end in states that are alike. -/
theorem thread_unwind (hR : Equivalence R) (hfg : Matches R p q as f g)
    (hgg : Matches R p q bs g g) (hf : Silent R p q as f) (hg : Silent R p q bs g)
    (hab : as.filter p = bs.filter p) {s t : σ} (h : R s t) :
    (thread f as s).1.filter q = (thread g bs t).1.filter q ∧
      R (thread f as s).2 (thread g bs t).2 := by
  obtain ⟨hout, hend⟩ := thread_filter hfg hf h
  obtain ⟨hout', hend'⟩ := thread_filter hgg hg (hR.refl t)
  rw [hab] at hout hend
  exact ⟨hout.trans hout'.symm, hR.trans hend (hR.symm hend')⟩

end Loop
