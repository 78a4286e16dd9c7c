import Mathlib.Data.List.Chain

/-!
# Leading edges

A sequence of samples in which a property comes and goes.  A sample with the property is a
leading edge, where the sample before lacks it, or it repeats the one before.
-/

namespace Edges

variable {α : Type*} (p : α → Prop) [DecidablePred p]

/-- How often the property becomes true, where `prev` was the sample before. -/
def edges : α → List α → Nat
  | _, [] => 0
  | prev, a :: l => (if ¬ p prev ∧ p a then 1 else 0) + edges a l

/-- How often it stays true. -/
def repeats : α → List α → Nat
  | _, [] => 0
  | prev, a :: l => (if p prev ∧ p a then 1 else 0) + repeats a l

/-- A sample with the property is one or the other. -/
theorem countP_eq_edges_add_repeats (prev : α) (l : List α) :
    l.countP (p ·) = edges p prev l + repeats p prev l := by
  induction l generalizing prev with
  | nil => rfl
  | cons a l ih =>
      rw [List.countP_cons, ih a, edges, repeats]
      by_cases ha : p a
      · by_cases hprev : p prev
        · simp only [hprev, ha, not_true_eq_false, false_and, and_self, decide_true, if_true,
            if_false]
          omega
        · simp only [hprev, ha, not_false_eq_true, and_self, false_and, decide_true, if_true,
            if_false]
          omega
      · simp only [ha, and_false, decide_false, Bool.false_eq_true, if_false]
        omega

theorem repeats_eq_zero_iff (prev : α) (l : List α) :
    repeats p prev l = 0 ↔ (prev :: l).IsChain fun a b ↦ ¬ (p a ∧ p b) := by
  induction l generalizing prev with
  | nil => exact iff_of_true rfl (.singleton prev)
  | cons a l ih =>
      rw [repeats, Nat.add_eq_zero_iff, ih, List.isChain_cons_cons]
      refine and_congr_left' ?_
      by_cases h : p prev ∧ p a
      · rw [if_pos h]
        exact iff_of_false Nat.one_ne_zero (not_not_intro h)
      · rw [if_neg h]
        exact iff_of_true rfl h

/-- Counting the samples counts the leading edges exactly when none repeats another. -/
theorem countP_eq_edges_iff (prev : α) (l : List α) :
    l.countP (p ·) = edges p prev l ↔ (prev :: l).IsChain fun a b ↦ ¬ (p a ∧ p b) := by
  rw [← repeats_eq_zero_iff, countP_eq_edges_add_repeats p prev]
  exact Nat.add_eq_left

omit [DecidablePred p] in
/-- The sample before does not matter where it lacks the property. -/
theorem isChain_cons_iff {prev : α} (h : ¬ p prev) (l : List α) :
    (prev :: l).IsChain (fun a b ↦ ¬ (p a ∧ p b)) ↔ l.IsChain fun a b ↦ ¬ (p a ∧ p b) := by
  rw [List.isChain_cons]
  exact and_iff_right fun _ _ hp ↦ h hp.1

end Edges
