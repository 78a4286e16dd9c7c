import Dimmit.Lib.Delimited
import Mathlib.Data.List.Infix

/-!
# Segments between fences

A list of segments written with a delimiter before, between and after them, and the search for
one whole segment: the delimiter, the segment and the delimiter again.  Such a word can only be
found where a segment begins, so the search finds the first segment that is equal to it.
-/

namespace Segments

open Delimited

variable {α : Type*}

/-! ## Fences -/

/-- The segments with a `stop` before, between and after them. -/
def fence (stop : α) : List (List α) → List α
  | [] => [stop]
  | s :: segs => stop :: (s ++ fence stop segs)

section Fence

variable {stop : α} {segs : List (List α)}

theorem fence_eq_cons (stop : α) (segs : List (List α)) :
    ∃ text, fence stop segs = stop :: text := by
  cases segs with
  | nil => exact ⟨[], rfl⟩
  | cons s segs => exact ⟨_, rfl⟩

theorem fence_append (l r : List (List α)) :
    fence stop (l ++ r) = l.flatMap (stop :: ·) ++ fence stop r := by
  induction l with
  | nil => rfl
  | cons s l ih =>
      rw [List.cons_append, fence, ih, List.flatMap_cons, List.cons_append, List.cons_append,
        List.append_assoc]

theorem map_fence {β : Type*} (f : α → β) (segs : List (List α)) :
    (fence stop segs).map f = fence (f stop) (segs.map (List.map f)) := by
  induction segs with
  | nil => rfl
  | cons s segs ih => rw [fence, List.map_cons, List.map_append, ih, List.map_cons, fence]

/-- Between its ends a fence is the segments joined. -/
theorem fence_eq_intercalate (h : segs ≠ []) :
    fence stop segs = stop :: ([stop].intercalate segs ++ [stop]) := by
  induction segs with
  | nil => exact absurd rfl h
  | cons s segs ih =>
      cases segs with
      | nil => rw [List.intercalate_singleton, fence, fence]
      | cons t segs =>
          rw [fence, ih (List.cons_ne_nil t segs), List.intercalate_cons_cons]
          simp only [List.append_assoc, List.cons_append, List.nil_append]

variable [DecidableEq α]

theorem fence_splitOn (text : List α) :
    fence stop (text.splitOn stop) = stop :: (text ++ [stop]) := by
  rw [fence_eq_intercalate (List.splitOn_ne_nil stop text), List.intercalate_splitOn]

/-- The segments of a text have no `stop`. -/
theorem notMem_of_mem_splitOn {text s : List α} (h : s ∈ text.splitOn stop) : stop ∉ s := by
  induction text generalizing s with
  | nil =>
      rw [List.splitOn_nil, List.mem_singleton] at h
      rw [h]
      exact List.not_mem_nil
  | cons a text ih =>
      rw [List.splitOn_cons_eq_if_modifyHead] at h
      by_cases ha : a = stop
      · rw [if_pos (beq_iff_eq.mpr ha)] at h
        rcases List.mem_cons.mp h with rfl | h
        · exact List.not_mem_nil
        · exact ih h
      · rw [if_neg (mt beq_iff_eq.mp ha)] at h
        cases hsplit : text.splitOn stop with
        | nil => exact absurd hsplit (List.splitOn_ne_nil stop text)
        | cons s₀ segs =>
            rw [hsplit] at h ih
            rcases List.mem_cons.mp h with rfl | h
            · intro hmem
              rcases List.mem_cons.mp hmem with rfl | hmem
              · exact ha rfl
              · exact ih List.mem_cons_self hmem
            · exact ih (List.mem_cons_of_mem s₀ h)

end Fence

/-! ## The first occurrence -/

section Find

variable [DecidableEq α]

/-- How much of the text stands before the first occurrence of `word`. -/
def find (word : List α) : List α → Option Nat
  | [] => if word = [] then some 0 else none
  | a :: text => if word <+: a :: text then some 0 else (find word text).map (· + 1)

variable {stop : α} {word : List α} {segs : List (List α)}

theorem find_of_prefix {text : List α} (h : word <+: text) : find word text = some 0 := by
  cases text with
  | nil => rw [find, if_pos (List.prefix_nil.mp h)]
  | cons a text => rw [find, if_pos h]

/-- A word that begins with `stop` does not begin in a part without. -/
theorem find_append {s : List α} (h : stop ∉ s) (text : List α) :
    find (stop :: word) (s ++ text) = (find (stop :: word) text).map (· + s.length) := by
  induction s with
  | nil => simp
  | cons a s ih =>
      obtain ⟨ha, hs⟩ := List.ne_and_not_mem_of_not_mem_cons h
      have hno : ¬ stop :: word <+: a :: (s ++ text) := by
        rw [List.cons_prefix_cons]
        exact fun hp ↦ ha hp.1
      rw [List.cons_append, find, if_neg hno, ih hs, Option.map_map]
      rfl

/-- The word between fences begins a fence exactly when it is the first segment. -/
theorem prefix_fence_cons (hw : stop ∉ word) {s : List α} (hs : stop ∉ s) :
    stop :: (word ++ [stop]) <+: fence stop (s :: segs) ↔ s = word := by
  obtain ⟨text, htext⟩ := fence_eq_cons stop segs
  have hne : s ++ stop :: text ≠ word := by
    rintro rfl
    exact hw (List.mem_append_right s List.mem_cons_self)
  have hbefore : before stop (s ++ stop :: text) = word ↔ _ := before_eq_iff hw
  rw [or_iff_right hne, before_append_cons, before_of_notMem hs] at hbefore
  rw [fence, htext, List.cons_prefix_cons, and_iff_right rfl, hbefore]

theorem find_fence_nil (word : List α) :
    find (stop :: (word ++ [stop])) (fence stop []) = none := by
  have hno : ¬ stop :: (word ++ [stop]) <+: [stop] := by
    intro hp
    have := hp.length_le
    simp at this
  rw [fence, find, if_neg hno]
  rfl

/-- Where the first segment is another, the search goes on behind it. -/
theorem find_fence_cons (hw : stop ∉ word) {s : List α} (hs : stop ∉ s) (hne : s ≠ word) :
    find (stop :: (word ++ [stop])) (fence stop (s :: segs)) =
      (find (stop :: (word ++ [stop])) (fence stop segs)).map (· + (stop :: s).length) := by
  have hno : ¬ stop :: (word ++ [stop]) <+: fence stop (s :: segs) :=
    mt (prefix_fence_cons hw hs).mp hne
  rw [fence] at hno ⊢
  rw [find, if_neg hno, find_append hs, Option.map_map]
  rfl

/-- No segment is the word. -/
theorem find_fence_eq_none (hw : stop ∉ word) (hs : ∀ s ∈ segs, stop ∉ s) (hne : word ∉ segs) :
    find (stop :: (word ++ [stop])) (fence stop segs) = none := by
  induction segs with
  | nil => exact find_fence_nil word
  | cons s segs ih =>
      obtain ⟨hs₀, hs⟩ := List.forall_mem_cons.mp hs
      obtain ⟨hne₀, hne⟩ := List.ne_and_not_mem_of_not_mem_cons hne
      rw [find_fence_cons hw hs₀ (Ne.symm hne₀), ih hs hne]
      rfl

/-- The search finds the first segment that is the word. -/
theorem find_fence_append (hw : stop ∉ word) {l : List (List α)} (hs : ∀ s ∈ l, stop ∉ s)
    (hne : word ∉ l) (r : List (List α)) :
    find (stop :: (word ++ [stop])) (fence stop (l ++ word :: r)) =
      some (l.flatMap (stop :: ·)).length := by
  induction l with
  | nil => exact find_of_prefix ((prefix_fence_cons hw hw).mpr rfl)
  | cons s l ih =>
      obtain ⟨hs₀, hs⟩ := List.forall_mem_cons.mp hs
      obtain ⟨hne₀, hne⟩ := List.ne_and_not_mem_of_not_mem_cons hne
      rw [List.cons_append, find_fence_cons hw hs₀ (Ne.symm hne₀), ih hs hne, Option.map_some,
        List.flatMap_cons, List.length_append, Nat.add_comm]

end Find

end Segments
