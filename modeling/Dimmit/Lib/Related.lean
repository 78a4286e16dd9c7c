import Mathlib.Data.List.Forall2

/-!
# Lists related entry by entry

Membership and composition for `List.Forall₂`, which Mathlib leaves to induction.
-/

namespace Related

variable {α β γ : Type*} {r : α → β → Prop} {r' : γ → β → Prop} {as : List α} {bs : List β}
  {cs : List γ}

theorem exists_of_mem_left (h : List.Forall₂ r as bs) {a : α} (ha : a ∈ as) : ∃ b ∈ bs, r a b := by
  induction h with
  | nil => cases ha
  | @cons a' b' as bs hr _ ih =>
      rcases List.mem_cons.mp ha with rfl | ha
      · exact ⟨b', List.mem_cons_self, hr⟩
      · obtain ⟨b, hb, hr⟩ := ih ha
        exact ⟨b, List.mem_cons_of_mem _ hb, hr⟩

theorem exists_of_mem_right (h : List.Forall₂ r as bs) {b : β} (hb : b ∈ bs) : ∃ a ∈ as, r a b :=
  exists_of_mem_left h.flip hb

/-- Two lists related to a third are related to each other through it. -/
theorem through (h : List.Forall₂ r as bs) (h' : List.Forall₂ r' cs bs) :
    List.Forall₂ (fun a c ↦ ∃ b ∈ bs, r a b ∧ r' c b) as cs := by
  induction h generalizing cs with
  | nil =>
      cases h'
      exact .nil
  | @cons a b as bs hr _ ih =>
      obtain ⟨c, cs, hr', htail, rfl⟩ := List.forall₂_cons_right_iff.mp h'
      refine .cons ⟨b, List.mem_cons_self, hr, hr'⟩ ((ih htail).imp ?_)
      rintro a c ⟨b, hb, hr, hr'⟩
      exact ⟨b, List.mem_cons_of_mem _ hb, hr, hr'⟩

/-- A list each of whose entries is the image of an entry is the image of the list. -/
theorem eq_map_of_forall₂ {f : α → β} (h : List.Forall₂ (fun a b ↦ b = f a) as bs) :
    bs = as.map f := by
  induction h with
  | nil => rfl
  | cons hb _ ih => rw [hb, ih, List.map_cons]

end Related
