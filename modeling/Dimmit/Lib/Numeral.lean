import Mathlib.Data.List.Basic
import Mathlib.Tactic.IntervalCases

/-!
# Printed numbers

Positional numerals as formatted output writes them: `Nat.toDigits` in a base up to sixteen,
padded on the left with zeros to a minimum width.  A numeral names its number, whatever its
width, and the fields of a separated record can be read back one by one.
-/

namespace Numeral

/-- The value of a lower-case hexadecimal digit. -/
def digitVal (c : Char) : Nat := if c.isDigit then c.toNat - 48 else c.toNat - 87

/-- The number a numeral names. -/
def value (b : Nat) (cs : List Char) : Nat := cs.foldl (fun n c ↦ n * b + digitVal c) 0

/-- A numeral of `n` in base `b`, padded with zeros to at least `width` digits. -/
def padded (b width n : Nat) : List Char := List.leftpad width '0' (Nat.toDigits b n)

theorem digitVal_digitChar {d : Nat} (h : d < 16) : digitVal (Nat.digitChar d) = d := by
  interval_cases d <;> decide

theorem value_append_singleton (b : Nat) (cs : List Char) (c : Char) :
    value b (cs ++ [c]) = value b cs * b + digitVal c := by
  simp [value, List.foldl_append]

theorem value_replicate_zero_append (b k : Nat) (cs : List Char) :
    value b (List.replicate k '0' ++ cs) = value b cs := by
  induction k with
  | zero => rfl
  | succ k ih =>
      rw [List.replicate_succ, List.cons_append, ← ih]
      simp [value, digitVal]

section Base

variable {b : Nat} (hb : 1 < b) (hb' : b ≤ 16)

include hb hb'

theorem value_toDigits (n : Nat) : value b (Nat.toDigits b n) = n := by
  induction n using Nat.strongRecOn with
  | ind n ih =>
      rcases Nat.lt_or_ge n b with h | h
      · rw [Nat.toDigits_of_lt_base h]
        simp [value, digitVal_digitChar (h.trans_le hb')]
      · have hd : n % b < 16 := (Nat.mod_lt n (by omega)).trans_le hb'
        rw [Nat.toDigits_of_base_le hb h, value_append_singleton,
          ih (n / b) (Nat.div_lt_self (by omega) hb), digitVal_digitChar hd]
        exact Nat.div_add_mod' n b

theorem value_padded (width n : Nat) : value b (padded b width n) = n := by
  rw [padded, List.leftpad, value_replicate_zero_append, value_toDigits hb hb']

/-- Padding and variable width notwithstanding, a numeral names one number. -/
theorem padded_injective (width : Nat) : Function.Injective (padded b width) := by
  intro m n h
  rw [← value_padded hb hb' width m, h, value_padded hb hb' width n]

theorem toDigits_injective : Function.Injective (Nat.toDigits b) := by
  intro m n h
  rw [← value_toDigits hb hb' m, h, value_toDigits hb hb' n]

/-- Every character of a numeral is a digit character. -/
theorem exists_digitChar_of_mem_toDigits {n : Nat} {c : Char} (hc : c ∈ Nat.toDigits b n) :
    ∃ d < 16, c = Nat.digitChar d := by
  induction n using Nat.strongRecOn with
  | ind n ih =>
      rcases Nat.lt_or_ge n b with h | h
      · rw [Nat.toDigits_of_lt_base h, List.mem_singleton] at hc
        exact ⟨n, h.trans_le hb', hc⟩
      · rw [Nat.toDigits_of_base_le hb h, List.mem_append, List.mem_singleton] at hc
        rcases hc with hc | hc
        · exact ih (n / b) (Nat.div_lt_self (by omega) hb) hc
        · exact ⟨n % b, (Nat.mod_lt n (by omega)).trans_le hb', hc⟩

theorem colon_notMem_toDigits (n : Nat) : ':' ∉ Nat.toDigits b n := by
  intro hc
  obtain ⟨d, hd, he⟩ := exists_digitChar_of_mem_toDigits hb hb' hc
  revert he
  interval_cases d <;> decide

theorem colon_notMem_padded (width n : Nat) : ':' ∉ padded b width n := by
  rw [padded, List.leftpad, List.mem_append, List.mem_replicate]
  rintro (⟨-, h⟩ | h)
  · exact absurd h (by decide)
  · exact colon_notMem_toDigits hb hb' n h

end Base

theorem length_padded_le {b width n k : Nat} (hb : 1 < b) (hk : 0 < k) (hw : width ≤ k)
    (h : n < b ^ k) : (padded b width n).length ≤ k := by
  have hl : (Nat.toDigits b n).length ≤ k := (Nat.length_toDigits_le_iff hb hk).2 h
  rw [padded, List.leftpad, List.length_append, List.length_replicate]
  omega

/-! ## Separated fields -/

section Fields

variable {α : Type*} {sep : α} {xs ys xs' ys' : List α}

/-- Two records agree exactly when their first fields and their remainders do, as long as the
separator does not occur in the first field. -/
theorem append_cons_inj (hx : sep ∉ xs) (hx' : sep ∉ xs') :
    xs ++ sep :: ys = xs' ++ sep :: ys' ↔ xs = xs' ∧ ys = ys' := by
  constructor
  · intro h
    induction xs generalizing xs' with
    | nil =>
        cases xs' with
        | nil => exact ⟨rfl, (List.cons.inj h).2⟩
        | cons x xs' => exact absurd ((List.cons.inj h).1 ▸ List.mem_cons_self) hx'
    | cons x xs ih =>
        cases xs' with
        | nil => exact absurd ((List.cons.inj h).1.symm ▸ List.mem_cons_self) hx
        | cons x' xs' =>
            obtain ⟨rfl, ht⟩ := List.cons.inj h
            obtain ⟨rfl, hy⟩ := ih (fun hm ↦ hx (List.mem_cons_of_mem _ hm))
              (fun hm ↦ hx' (List.mem_cons_of_mem _ hm)) ht
            exact ⟨rfl, hy⟩
  · rintro ⟨rfl, rfl⟩
    rfl

end Fields

end Numeral
