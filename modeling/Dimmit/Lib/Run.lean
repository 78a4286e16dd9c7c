import Mathlib.Data.List.Basic

/-!
# Runs of a deterministic machine

A run folds a step function over a list of actions.  A property of runs is either about the
steps a run takes (`Along`) or about the states it passes through (`Throughout`), and each is
proved from an invariant that one step preserves.
-/

namespace Run

variable {σ τ α : Type*} {step : σ → α → σ}

/-- Every step of the run from `s` is `ok` in the state in which it is taken. -/
def Along (step : σ → α → σ) (ok : σ → α → Prop) : σ → List α → Prop
  | _, [] => True
  | s, a :: as => ok s a ∧ Along step ok (step s a) as

/-- `I` holds of `s` and of every state the run from `s` passes through. -/
def Throughout (step : σ → α → σ) (I : σ → Prop) : σ → List α → Prop
  | s, [] => I s
  | s, a :: as => I s ∧ Throughout step I (step s a) as

instance decidableAlong (step : σ → α → σ) (ok : σ → α → Prop) [∀ s, DecidablePred (ok s)] :
    ∀ s, DecidablePred (Along step ok s)
  | _, [] => inferInstanceAs (Decidable True)
  | s, a :: as =>
    have := decidableAlong step ok (step s a) as
    inferInstanceAs (Decidable (ok s a ∧ Along step ok (step s a) as))

instance decidableThroughout (step : σ → α → σ) (I : σ → Prop) [DecidablePred I] :
    ∀ s, DecidablePred (Throughout step I s)
  | s, [] => inferInstanceAs (Decidable (I s))
  | s, a :: as =>
    have := decidableThroughout step I (step s a) as
    inferInstanceAs (Decidable (I s ∧ Throughout step I (step s a) as))

theorem along_append {ok : σ → α → Prop} {s : σ} {as bs : List α} :
    Along step ok s (as ++ bs) ↔ Along step ok s as ∧ Along step ok (as.foldl step s) bs := by
  induction as generalizing s with
  | nil => exact (iff_of_eq (true_and _)).symm
  | cons a as ih => exact (and_congr_right fun _ ↦ ih).trans and_assoc.symm

theorem Throughout.head {I : σ → Prop} {s : σ} {as : List α} (h : Throughout step I s as) :
    I s := by
  cases as with
  | nil => exact h
  | cons a as => exact h.1

theorem Throughout.last {I : σ → Prop} {s : σ} {as : List α} (h : Throughout step I s as) :
    I (as.foldl step s) := by
  induction as generalizing s with
  | nil => exact h
  | cons a as ih => exact ih h.2

theorem Throughout.append {I : σ → Prop} {s : σ} {as bs : List α}
    (h : Throughout step I s (as ++ bs)) :
    Throughout step I s as ∧ Throughout step I (as.foldl step s) bs := by
  induction as generalizing s with
  | nil => exact ⟨h.head, h⟩
  | cons a as ih =>
      obtain ⟨hs, hrest⟩ := h
      obtain ⟨has, hbs⟩ := ih hrest
      exact ⟨⟨hs, has⟩, hbs⟩

/-- A run that does not keep out of `goal` comes to it. -/
theorem exists_of_not_throughout {goal : σ → Prop} {s : σ} {as : List α}
    (h : ¬ Throughout step (fun s ↦ ¬ goal s) s as) :
    ∃ bs cs, as = bs ++ cs ∧ goal (bs.foldl step s) := by
  induction as generalizing s with
  | nil => exact ⟨[], [], rfl, not_not.mp h⟩
  | cons a as ih =>
      by_cases hs : goal s
      · exact ⟨[], a :: as, rfl, hs⟩
      · obtain ⟨bs, cs, rfl, hgoal⟩ := ih fun hrest ↦ h ⟨hs, hrest⟩
        exact ⟨a :: bs, cs, rfl, hgoal⟩

/-- Each step that is `ok` in a state of the invariant `J` is also `ok'`. -/
theorem Along.imp {J : σ → Prop} {ok ok' : σ → α → Prop} {s : σ} {as : List α}
    (h : Along step ok s as) (hs : J s) (hstep : ∀ s a, J s → ok s a → J (step s a))
    (himp : ∀ s a, J s → ok s a → ok' s a) : Along step ok' s as := by
  induction as generalizing s with
  | nil => trivial
  | cons a as ih => exact ⟨himp s a hs h.1, ih h.2 (hstep s a hs h.1)⟩

/-- **The invariant rule.**  What holds at the start and is preserved by every step the run
takes holds throughout. -/
theorem Along.throughout {J I : σ → Prop} {ok : σ → α → Prop} {s : σ} {as : List α}
    (h : Along step ok s as) (hs : J s) (hstep : ∀ s a, J s → ok s a → J (step s a))
    (hI : ∀ s, J s → I s) : Throughout step I s as := by
  induction as generalizing s with
  | nil => exact hI s hs
  | cons a as ih => exact ⟨hI s hs, ih h.2 (hstep s a hs h.1)⟩

theorem along_true (s : σ) (as : List α) : Along step (fun _ _ ↦ True) s as := by
  induction as generalizing s with
  | nil => trivial
  | cons a as ih => exact ⟨trivial, ih _⟩

/-- A property of the actions alone holds along a run when it holds of each action. -/
theorem along_forall {p : α → Prop} {s : σ} {as : List α} :
    Along step (fun _ a ↦ p a) s as ↔ ∀ a ∈ as, p a := by
  induction as generalizing s with
  | nil => simp [Along]
  | cons a as ih => rw [Along, ih, List.forall_mem_cons]

/-- An invariant of every step holds throughout every run. -/
theorem throughout_of_invariant {J I : σ → Prop} {s : σ} (hs : J s)
    (hstep : ∀ s a, J s → J (step s a)) (hI : ∀ s, J s → I s) (as : List α) :
    Throughout step I s as :=
  (along_true s as).throughout hs (fun s a h _ ↦ hstep s a h) hI

/-- When the first step that is not `ok` breaks `I`, the runs that keep `I` are those whose
steps are all `ok`. -/
theorem throughout_iff_along {J I : σ → Prop} {ok : σ → α → Prop} {s : σ} (hs : J s)
    (hstep : ∀ s a, J s → ok s a → J (step s a)) (hI : ∀ s, J s → I s)
    (hbad : ∀ s a, J s → ¬ ok s a → ¬ I (step s a)) (as : List α) :
    Throughout step I s as ↔ Along step ok s as := by
  constructor
  · intro h
    induction as generalizing s with
    | nil => trivial
    | cons a as ih =>
        have hok : ok s a := by
          by_contra hn
          exact hbad s a hs hn h.2.head
        exact ⟨hok, ih (hstep s a hs hok) h.2⟩
  · intro h
    exact h.throughout hs hstep hI

/-- **Silent steps.**  When the kept actions preserve a relation between two machines and the
others preserve it while only the first machine moves, the second machine may skip them. -/
theorem foldl_filter_rel {R : σ → τ → Prop} {step' : τ → α → τ} {kept : α → Bool}
    (hkept : ∀ s t a, kept a = true → R s t → R (step s a) (step' t a))
    (hsilent : ∀ s t a, kept a = false → R s t → R (step s a) t) (as : List α) {s : σ} {t : τ}
    (h : R s t) : R (as.foldl step s) ((as.filter kept).foldl step' t) := by
  induction as generalizing s t with
  | nil => exact h
  | cons a as ih =>
      cases ha : kept a with
      | true =>
          rw [List.filter_cons_of_pos ha]
          exact ih (hkept s t a ha h)
      | false =>
          rw [List.filter_cons_of_neg (by simp [ha])]
          exact ih (hsilent s t a ha h)

end Run
