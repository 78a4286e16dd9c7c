import Dimmit.Dimmer.Fraction
import Mathlib.Tactic.NormNum

/-!
# The arithmetic of a dimmer fits in 32 bits

The functions of `dimmer.c` that compute with `int`, with every intermediate result checked:
they return `none` where C's arithmetic would overflow.  On a dimmer that holds what a 16-bit
display can report, and for the fractions a press takes, they agree with the functions over the
integers.  The step such a dimmer takes is again one, so this lasts over any run.
-/

namespace Dimmit

open Dimmer

/-- A result of type `int`, if it can be represented. -/
def int32 (value : Int) : Option Int :=
  if -2147483648 ≤ value ∧ value ≤ 2147483647 then some value else none

theorem int32_eq_some {value : Int} (h₀ : -2147483648 ≤ value) (h₁ : value ≤ 2147483647) :
    int32 value = some value := if_pos ⟨h₀, h₁⟩

/-- `dimmer_adjust`, checked. -/
def dimmerAdjust32 (d : Dimmer) (delta : Int) : Option Dimmer := do
  let level ← int32 (d.current + d.pendingDelta)
  let target ← int32 (level + delta)
  let projected := clampBrightness target d.max
  let pendingDelta ← int32 (projected - d.current)
  return { d with pendingDelta := pendingDelta }

/-- `dimmer_due`, checked. -/
def dimmerDue32 (d : Dimmer) : Option (Option Int) :=
  if d.pendingDelta = 0 then some none
  else do
    let level ← int32 (d.current + d.pendingDelta)
    let target := clampBrightness level d.max
    return if target = d.current then none else some target

/-- `dimmer_commit`, checked. -/
def dimmerCommit32 (d : Dimmer) (applied : Int) : Option Dimmer := do
  let moved ← int32 (applied - d.current)
  let pendingDelta ← int32 (d.pendingDelta - moved)
  return { d with pendingDelta := pendingDelta, current := applied }

/-- `dimmer_delta_for_fraction`, checked. -/
def dimmerDeltaForFraction32 (max : Int) (fraction : ℚ) : Option Int := do
  let delta ← int32 (lround (max * fraction))
  return if delta = 0 then (if fraction > 0 then 1 else if fraction < 0 then -1 else 0) else delta

/-! ## What a display can report -/

/-- The dimmer holds 16-bit values, and what is pending aims inside the range.  `current` may
lie above `max`. -/
structure Dimmer.Bounded (d : Dimmer) : Prop where
  current_nonneg : 0 ≤ d.current
  current_le : d.current ≤ 65535
  max_nonneg : 0 ≤ d.max
  max_le : d.max ≤ 65535
  aimed : d.Aimed

namespace Dimmer.Bounded

variable {d : Dimmer}

theorem init {current max : Int} (h₀ : 0 ≤ current) (h₁ : current ≤ 65535) (h₂ : 0 ≤ max)
    (h₃ : max ≤ 65535) : (dimmerInit current max).Bounded :=
  ⟨h₀, h₁, h₂, h₃, aimed_dimmerInit current max⟩

theorem adjust (h : d.Bounded) (delta : Int) : (dimmerAdjust d delta).Bounded :=
  ⟨h.current_nonneg, h.current_le, h.max_nonneg, h.max_le,
    (inRange_dimmerAdjust h.max_nonneg delta).aimed⟩

/-- A value that is due lies in the range of its display. -/
theorem target_mem (h : d.Bounded) {target : Int} (hd : dimmerDue d = some target) :
    0 ≤ target ∧ target ≤ d.max := by
  obtain ⟨rfl, hr⟩ := h.aimed.target_eq hd
  exact hr

theorem serviced (h : d.Bounded) (ok : Bool) : (dimmerServiced d ok).Bounded := by
  have hmax := dimmerServiced_max d ok
  have haimed := aimed_dimmerServiced h.aimed ok
  unfold dimmerServiced at hmax haimed ⊢
  cases hd : dimmerDue d with
  | none => exact h
  | some target =>
      rw [hd] at hmax haimed
      obtain ⟨h₀, h₁⟩ := h.target_mem hd
      have hle := h.max_le
      cases ok with
      | false => exact ⟨h.current_nonneg, h.current_le, h.max_nonneg, hle, haimed⟩
      | true => exact ⟨h₀, h₁.trans hle, h.max_nonneg, hle, haimed⟩

/-- The level of a bounded dimmer is a 16-bit value too. -/
theorem level_mem (h : d.Bounded) : 0 ≤ d.level ∧ d.level ≤ 65535 := by
  obtain ⟨h₀, h₁, -, h₂, hp | ⟨hr₀, hr₁⟩⟩ := h
  · unfold level
    omega
  · exact ⟨hr₀, hr₁.trans h₂⟩

end Dimmer.Bounded

/-! ## No overflow -/

theorem clampBrightness_mem {value max : Int} (h₀ : 0 ≤ max) (h₁ : max ≤ 65535) :
    0 ≤ clampBrightness value max ∧ clampBrightness value max ≤ 65535 :=
  ⟨clampBrightness_nonneg h₀, (clampBrightness_le h₀).trans h₁⟩

/-- A press of at most the whole range. -/
theorem abs_dimmerDeltaForFraction_le {max : Int} {fraction : ℚ} (h₀ : 0 ≤ max) (h₁ : max ≤ 65535)
    (hf : |fraction| ≤ 1) : |lround (max * fraction)| ≤ 65535 ∧
      |dimmerDeltaForFraction max fraction| ≤ 65535 := by
  have hround : |lround (max * fraction)| ≤ 65535 := (abs_lround_mul_le h₀ hf).trans h₁
  refine ⟨hround, ?_⟩
  unfold dimmerDeltaForFraction
  dsimp only
  split_ifs
  · norm_num
  · norm_num
  · norm_num
  · exact hround

namespace Dimmer.Bounded

variable {d : Dimmer}

theorem dimmerDeltaForFraction32_eq (h : d.Bounded) {fraction : ℚ} (hf : |fraction| ≤ 1) :
    dimmerDeltaForFraction32 d.max fraction = some (dimmerDeltaForFraction d.max fraction) := by
  obtain ⟨h₀, h₁⟩ := abs_le.mp (abs_dimmerDeltaForFraction_le h.max_nonneg h.max_le hf).1
  unfold dimmerDeltaForFraction32
  rw [int32_eq_some (by omega) (by omega)]
  rfl

theorem dimmerAdjust32_eq (h : d.Bounded) {delta : Int} (hd : |delta| ≤ 65535) :
    dimmerAdjust32 d delta = some (dimmerAdjust d delta) := by
  obtain ⟨hd₀, hd₁⟩ := abs_le.mp hd
  obtain ⟨hl₀, hl₁⟩ := h.level_mem
  unfold level at hl₀ hl₁
  have h₀ := h.current_nonneg
  have h₁ := h.current_le
  have hlevel : int32 (d.current + d.pendingDelta) = some (d.current + d.pendingDelta) :=
    int32_eq_some (by omega) (by omega)
  have htarget : int32 (d.current + d.pendingDelta + delta) =
      some (d.current + d.pendingDelta + delta) := int32_eq_some (by omega) (by omega)
  unfold dimmerAdjust32 dimmerAdjust
  simp only [hlevel, htarget, Option.bind_eq_bind, Option.bind_some]
  generalize hp : clampBrightness (d.current + d.pendingDelta + delta) d.max = projected
  obtain ⟨hc₀, hc₁⟩ := hp ▸ clampBrightness_mem h.max_nonneg h.max_le
  rw [int32_eq_some (by omega) (by omega)]
  rfl

theorem dimmerDue32_eq (h : d.Bounded) : dimmerDue32 d = some (dimmerDue d) := by
  obtain ⟨hl₀, hl₁⟩ := h.level_mem
  unfold level at hl₀ hl₁
  unfold dimmerDue32 dimmerDue
  by_cases hp : d.pendingDelta = 0
  · rw [if_pos hp, if_pos hp]
  · rw [if_neg hp, if_neg hp, int32_eq_some (by omega) (by omega)]
    rfl

theorem dimmerCommit32_eq (h : d.Bounded) {target : Int} (hd : dimmerDue d = some target) :
    dimmerCommit32 d target = some (dimmerCommit d target) := by
  obtain ⟨ht₀, ht₁⟩ := h.target_mem hd
  obtain ⟨hl₀, hl₁⟩ := h.level_mem
  unfold level at hl₀ hl₁
  have h₀ := h.current_nonneg
  have h₁ := h.current_le
  have h₂ := h.max_le
  have hmoved : int32 (target - d.current) = some (target - d.current) :=
    int32_eq_some (by omega) (by omega)
  have hpending : int32 (d.pendingDelta - (target - d.current)) =
      some (d.pendingDelta - (target - d.current)) := int32_eq_some (by omega) (by omega)
  unfold dimmerCommit32
  simp only [hmoved, hpending, Option.bind_eq_bind, Option.bind_some]
  rfl

end Dimmer.Bounded

end Dimmit
