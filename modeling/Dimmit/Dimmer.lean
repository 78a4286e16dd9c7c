import Mathlib.Algebra.Order.Floor.Ring
import Mathlib.Data.Rat.Floor
import Mathlib.Tactic.Linarith

/-!
# The dimmer: one display's brightness state machine

The functions of `dimmer.c`, under the source's names, and what each of them does to the
*level* `current + pending_delta` the display is heading for.

C's `int` is read as `Int` here: the source's arithmetic is undefined once it overflows, and
`Dimmit.Dimmer.Checked` shows that on the values the daemon meets it never does.  The `double`
fraction is read as the rational it denotes.  The product `(double)max * fraction` is taken
exactly, as the machine's is for the fractions `±1/16` that every caller passes.
-/

namespace Dimmit

/-- `dimmer_t` of `dimmer.h`. -/
structure Dimmer where
  /-- Last-applied brightness. -/
  current : Int
  /-- Display maximum. -/
  max : Int
  /-- Accumulated, clamp-projected, not yet applied. -/
  pendingDelta : Int
deriving DecidableEq, Repr

/-- `clamp_brightness`. -/
def clampBrightness (value max : Int) : Int :=
  if value < 0 then 0 else if value > max then max else value

/-- `dimmer_init`. -/
def dimmerInit (current max : Int) : Dimmer :=
  { current := current, max := max, pendingDelta := 0 }

/-- `dimmer_adjust`. -/
def dimmerAdjust (d : Dimmer) (delta : Int) : Dimmer :=
  let projected := clampBrightness (d.current + d.pendingDelta + delta) d.max
  { d with pendingDelta := projected - d.current }

/-- `dimmer_due`: the clamped target when a write is due, `none` when the source returns 0. -/
def dimmerDue (d : Dimmer) : Option Int :=
  if d.pendingDelta = 0 then none
  else
    let target := clampBrightness (d.current + d.pendingDelta) d.max
    if target = d.current then none else some target

/-- `dimmer_commit`.  `pending_delta` is updated first, from the old `current`. -/
def dimmerCommit (d : Dimmer) (applied : Int) : Dimmer :=
  { d with pendingDelta := d.pendingDelta - (applied - d.current), current := applied }

/-- `dimmer_settled`. -/
def dimmerSettled (d : Dimmer) : Dimmer := { d with pendingDelta := 0 }

/-- `dimmer_max`. -/
def dimmerMax (d : Dimmer) : Int := d.max

/-- `lround`: to the nearest integer, half-way cases away from zero. -/
def lround (q : ℚ) : Int := if 0 ≤ q then ⌊q + 1 / 2⌋ else -⌊-q + 1 / 2⌋

/-- `dimmer_delta_for_fraction`. -/
def dimmerDeltaForFraction (max : Int) (fraction : ℚ) : Int :=
  let delta := lround (max * fraction)
  -- a nonzero fraction never collapses to a no-op step
  if delta = 0 then (if fraction > 0 then 1 else if fraction < 0 then -1 else 0) else delta

/-! ## Clamping -/

section Clamp

variable {value value' max : Int}

theorem clampBrightness_nonneg (h : 0 ≤ max) : 0 ≤ clampBrightness value max := by
  unfold clampBrightness; split_ifs <;> omega

theorem clampBrightness_le (h : 0 ≤ max) : clampBrightness value max ≤ max := by
  unfold clampBrightness; split_ifs <;> omega

theorem clampBrightness_of_mem (h₀ : 0 ≤ value) (h₁ : value ≤ max) :
    clampBrightness value max = value := by
  unfold clampBrightness; split_ifs <;> omega

end Clamp

/-! ## The level a display is heading for -/

namespace Dimmer

/-- Where the display will be once every pending press is applied. -/
def level (d : Dimmer) : Int := d.current + d.pendingDelta

/-- The level lies in `[0, max]`. -/
def InRange (d : Dimmer) : Prop := 0 ≤ d.level ∧ d.level ≤ d.max

instance (d : Dimmer) : Decidable d.InRange := inferInstanceAs (Decidable (_ ∧ _))

/-- A pending step aims inside the range.  `current` itself need not lie there: `dimmer_init`
takes whatever the display reports. -/
def Aimed (d : Dimmer) : Prop := d.pendingDelta = 0 ∨ d.InRange

instance (d : Dimmer) : Decidable d.Aimed := inferInstanceAs (Decidable (_ ∨ _))

theorem InRange.aimed {d : Dimmer} (h : d.InRange) : d.Aimed := .inr h

end Dimmer

open Dimmer

section Fields

variable (d : Dimmer) (current max delta applied : Int)

@[simp] theorem dimmerInit_current : (dimmerInit current max).current = current := rfl
@[simp] theorem dimmerInit_max : (dimmerInit current max).max = max := rfl
@[simp] theorem dimmerInit_pendingDelta : (dimmerInit current max).pendingDelta = 0 := rfl
@[simp] theorem dimmerAdjust_current : (dimmerAdjust d delta).current = d.current := rfl
@[simp] theorem dimmerAdjust_max : (dimmerAdjust d delta).max = d.max := rfl
@[simp] theorem dimmerCommit_current : (dimmerCommit d applied).current = applied := rfl
@[simp] theorem dimmerCommit_max : (dimmerCommit d applied).max = d.max := rfl
@[simp] theorem dimmerSettled_current : (dimmerSettled d).current = d.current := rfl
@[simp] theorem dimmerSettled_max : (dimmerSettled d).max = d.max := rfl
@[simp] theorem dimmerSettled_pendingDelta : (dimmerSettled d).pendingDelta = 0 := rfl

@[simp] theorem level_dimmerInit : (dimmerInit current max).level = current := by
  simp [level]

/-- A press moves the level by the press, clamped. -/
@[simp] theorem level_dimmerAdjust :
    (dimmerAdjust d delta).level = clampBrightness (d.level + delta) d.max := by
  simp [level, dimmerAdjust]

/-- Recording a write never moves the level: what it adds to `current` it takes from
`pending_delta`, whatever was pressed since the target was captured. -/
@[simp] theorem level_dimmerCommit : (dimmerCommit d applied).level = d.level := by
  simp [level, dimmerCommit]; omega

@[simp] theorem level_dimmerSettled : (dimmerSettled d).level = d.current := by
  simp [level]

end Fields

theorem aimed_dimmerInit (current max : Int) : (dimmerInit current max).Aimed := .inl rfl

theorem inRange_dimmerAdjust {d : Dimmer} (h : 0 ≤ d.max) (delta : Int) :
    (dimmerAdjust d delta).InRange :=
  ⟨by simpa using clampBrightness_nonneg h, by simpa using clampBrightness_le h⟩

/-! ## When a write is due -/

/-- A dimmer whose pending step aims inside the range is due exactly when something is
pending, and then for its level. -/
theorem Dimmer.Aimed.dimmerDue_eq {d : Dimmer} (h : d.Aimed) :
    dimmerDue d = if d.pendingDelta = 0 then none else some d.level := by
  unfold dimmerDue
  by_cases hp : d.pendingDelta = 0
  · simp [hp]
  · have hr : d.InRange := h.resolve_left hp
    have hc : clampBrightness (d.current + d.pendingDelta) d.max = d.level :=
      clampBrightness_of_mem hr.1 hr.2
    have hne : d.level ≠ d.current := by unfold level; omega
    simp [hp, hc, hne]

theorem Dimmer.Aimed.target_eq {d : Dimmer} (h : d.Aimed) {target : Int}
    (hd : dimmerDue d = some target) : target = d.level ∧ d.InRange := by
  rw [h.dimmerDue_eq] at hd
  split_ifs at hd with hp
  exact ⟨(Option.some.inj hd).symm, h.resolve_left hp⟩

/-- Nothing due means nothing pending. -/
theorem Dimmer.Aimed.pendingDelta_eq_zero {d : Dimmer} (h : d.Aimed) (hd : dimmerDue d = none) :
    d.pendingDelta = 0 := by
  rw [h.dimmerDue_eq] at hd
  split_ifs at hd with hp
  exact hp

/-! ## One display's share of a service pass -/

/-- What one pass of the loop in `controller_service` does to a dimmer when the write, if one
is due, ends with `ok`. -/
def dimmerServiced (d : Dimmer) (ok : Bool) : Dimmer :=
  match dimmerDue d with
  | none => d
  | some target => if ok then dimmerCommit d target else dimmerSettled d

@[simp] theorem dimmerServiced_max (d : Dimmer) (ok : Bool) :
    (dimmerServiced d ok).max = d.max := by
  unfold dimmerServiced
  split
  · rfl
  · split_ifs <;> rfl

/-- A pass leaves nothing pending, whether or not its write succeeded. -/
theorem Dimmer.Aimed.pendingDelta_dimmerServiced {d : Dimmer} (h : d.Aimed) (ok : Bool) :
    (dimmerServiced d ok).pendingDelta = 0 := by
  unfold dimmerServiced
  split
  · exact h.pendingDelta_eq_zero ‹_›
  · rename_i target hd
    obtain ⟨rfl, -⟩ := h.target_eq hd
    split_ifs
    · simp [dimmerCommit, level]
    · rfl

/-- A pass whose write succeeds keeps the level. -/
theorem level_dimmerServiced_true (d : Dimmer) : (dimmerServiced d true).level = d.level := by
  unfold dimmerServiced
  split <;> simp

theorem aimed_dimmerServiced {d : Dimmer} (h : d.Aimed) (ok : Bool) : (dimmerServiced d ok).Aimed :=
  .inl (h.pendingDelta_dimmerServiced ok)

theorem Dimmer.Aimed.current_dimmerServiced_true {d : Dimmer} (h : d.Aimed) :
    (dimmerServiced d true).current = d.level := by
  have hp := h.pendingDelta_dimmerServiced true
  have hl := level_dimmerServiced_true d
  unfold level at hl ⊢
  omega

example : dimmerDeltaForFraction 4 (-1 / 64) = -1 := by decide +kernel

end Dimmit
