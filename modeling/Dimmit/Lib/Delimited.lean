import Mathlib.Data.List.DropRight
import Mathlib.Data.List.TakeWhile

/-!
# Delimited text

The part of a text before the first delimiter, which is how a C string ends and how a line
does, and the part after the last one, which is how a path names its file.
-/

namespace Delimited

variable {α : Type*}

/-! ## Before the first delimiter -/

section Before

variable [DecidableEq α] {stop : α} {text word : List α}

/-- What stands before the first `stop`, everything if there is none. -/
def before (stop : α) (text : List α) : List α := text.takeWhile fun a ↦ !decide (a = stop)

@[simp] theorem before_nil : before stop [] = [] := rfl

theorem before_cons (a : α) :
    before stop (a :: text) = if a = stop then [] else a :: before stop text := by
  rw [before, List.takeWhile_cons]
  by_cases h : a = stop <;> simp [h, before]

/-- A text with no delimiter is all before it. -/
theorem before_of_notMem (h : stop ∉ text) : before stop text = text := by
  rw [before, List.takeWhile_eq_self_iff]
  intro a ha
  simpa using fun e : a = stop ↦ h (e ▸ ha)

/-- What stands behind a delimiter does not count. -/
theorem before_append_cons (word text : List α) :
    before stop (word ++ stop :: text) = before stop word := by
  induction word with
  | nil => rw [List.nil_append, before_cons, if_pos rfl, before_nil]
  | cons a word ih => rw [List.cons_append, before_cons, before_cons, ih]

/-- A text is one part with no delimiter, or has one after its first part. -/
theorem before_eq_iff (h : stop ∉ word) :
    before stop text = word ↔ text = word ∨ word ++ [stop] <+: text := by
  constructor
  · intro he
    have hsplit : before stop text ++ text.dropWhile _ = text := List.takeWhile_append_dropWhile
    rw [he] at hsplit
    cases hd : text.dropWhile fun a ↦ !decide (a = stop) with
    | nil =>
        rw [hd, List.append_nil] at hsplit
        exact .inl hsplit.symm
    | cons a rest =>
        have ha : a = stop := by
          have := List.dropWhile_get_zero_not (fun a ↦ !decide (a = stop)) text (by simp [hd])
          simpa [hd] using this
        rw [hd, ha] at hsplit
        exact .inr ⟨rest, by rw [List.append_assoc]; exact hsplit⟩
  · rintro (rfl | ⟨rest, rfl⟩)
    · exact before_of_notMem h
    · rw [List.append_assoc, List.singleton_append, before_append_cons]
      exact before_of_notMem h

omit [DecidableEq α] in
/-- Another delimiter after the word rules this one out. -/
theorem not_prefix_of_ne {stop' : α} (h : stop ≠ stop') (hp : word ++ [stop] <+: text) :
    ¬ word ++ [stop'] <+: text := by
  rintro hp'
  have he := (List.prefix_of_prefix_length_le hp hp' (by simp)).eq_of_length (by simp)
  exact h (by simpa using he)

end Before

/-! ## After the last delimiter -/

section After

variable (stop : α → Bool) {text : List α}

/-- What stands after the last element that is a `stop`, everything if there is none. -/
def after (text : List α) : List α := text.rtakeWhile fun a ↦ !stop a

/-- The scan that moves a mark behind each delimiter it passes. -/
def afterScan : List α → List α → List α
  | mark, [] => mark
  | mark, a :: text => if stop a then afterScan text text else afterScan mark text

theorem after_of_forall (h : ∀ a ∈ text, stop a = false) : after stop text = text := by
  rw [after, List.rtakeWhile_eq_self_iff]
  intro a ha
  simp [h a ha]

/-- What stands before a delimiter does not count. -/
theorem after_append_cons {a : α} (ha : stop a = true) (dir : List α) :
    after stop (dir ++ a :: text) = after stop text := by
  unfold after List.rtakeWhile
  rw [List.reverse_append, List.reverse_cons, List.append_assoc, List.takeWhile_append]
  split_ifs with hl
  · rw [List.singleton_append, List.takeWhile_cons_of_neg (by simp [ha]), List.append_nil,
      (List.takeWhile_prefix _).eq_of_length hl]
  · rfl

/-- Moving a mark behind each delimiter leaves it behind the last one.  The mark and the rest of
the text differ by a part `dir` that has no delimiter. -/
theorem afterScan_eq (dir text : List α) (h : ∀ a ∈ dir, stop a = false) :
    afterScan stop (dir ++ text) text = after stop (dir ++ text) := by
  induction text generalizing dir with
  | nil =>
      rw [List.append_nil, after_of_forall stop h]
      rfl
  | cons a text ih =>
      rw [afterScan]
      cases ha : stop a with
      | false =>
          have hdir : ∀ b ∈ dir ++ [a], stop b = false := by
            intro b hb
            rcases List.mem_append.mp hb with hb | hb
            · exact h b hb
            · rw [List.mem_singleton.mp hb, ha]
          have := ih (dir ++ [a]) hdir
          rwa [List.append_assoc] at this
      | true =>
          rw [after_append_cons stop ha dir]
          exact ih [] fun b hb ↦ nomatch hb

end After

end Delimited
