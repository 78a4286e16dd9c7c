import Dimmit.Dimmer.Fraction
import Dimmit.DisplayController.Run

/-!
# What a display shows

A dimmer is the controller's record of a display, and what the display shows is another thing:
the two agree at best.  A `Screen` is both, under the presses of one key and the passes of the
worker.  `Screen.Steady` is what makes a key move the display its own way only.
-/

namespace Dimmit

/-- A display as the controller remembers it and as it is. -/
structure Screen where
  dim : Dimmer
  /-- The brightness the display shows. -/
  shown : Int
deriving DecidableEq, Repr

/-- A brightness key. -/
inductive Key where
  | up
  | down
deriving DecidableEq, Repr

namespace Key

/-- The fraction of its maximum by which the key moves a display. -/
def fraction : Key → ℚ
  | up => 1 / 16
  | down => -1 / 16

/-- From `x` to `y` is the way of the key, or no way at all. -/
def Onward : Key → Int → Int → Prop
  | up, x, y => x ≤ y
  | down, x, y => y ≤ x

instance : ∀ (k : Key) (x y : Int), Decidable (k.Onward x y)
  | up, x, y => inferInstanceAs (Decidable (x ≤ y))
  | down, x, y => inferInstanceAs (Decidable (y ≤ x))

theorem Onward.trans {k : Key} {x y z : Int} (h : k.Onward x y) (h' : k.Onward y z) :
    k.Onward x z := by
  cases k with
  | up => exact Int.le_trans h h'
  | down => exact Int.le_trans h' h

end Key

/-! ## The step of a key -/

/-- A press of the up key is a step up, whatever the maximum. -/
theorem dimmerDeltaForFraction_up_pos {max : Int} (h : 0 ≤ max) :
    0 < dimmerDeltaForFraction max Key.up.fraction :=
  dimmerDeltaForFraction_pos h (by norm_num [Key.fraction])

/-- A press of the down key undoes one of the up key. -/
theorem dimmerDeltaForFraction_down (max : Int) :
    dimmerDeltaForFraction max Key.down.fraction =
      -dimmerDeltaForFraction max Key.up.fraction := by
  rw [← dimmerDeltaForFraction_neg]
  norm_num [Key.fraction]

/-- A press of the down key is a step down. -/
theorem dimmerDeltaForFraction_down_neg {max : Int} (h : 0 ≤ max) :
    dimmerDeltaForFraction max Key.down.fraction < 0 := by
  rw [dimmerDeltaForFraction_down]
  exact Int.neg_neg_of_pos (dimmerDeltaForFraction_up_pos h)

namespace Key

/-- From inside the range a press goes the way of the key. -/
theorem onward_press (k : Key) {x max : Int} (h₀ : 0 ≤ x) (h₁ : x ≤ max) :
    k.Onward x (clampBrightness (x + dimmerDeltaForFraction max k.fraction) max) := by
  have hmax : 0 ≤ max := h₀.trans h₁
  cases k with
  | up =>
      have hpos := dimmerDeltaForFraction_up_pos hmax
      change x ≤ _
      unfold clampBrightness
      split_ifs <;> omega
  | down =>
      have hneg := dimmerDeltaForFraction_down_neg hmax
      change _ ≤ x
      unfold clampBrightness
      split_ifs <;> omega

end Key

/-! ## Screens -/

namespace Screen

/-- What happens to a display. -/
inductive Act where
  /-- A press of so much of the maximum. -/
  | press (fraction : ℚ)
  /-- A pass of the worker, whose write, if one is due, ends with `ok`. -/
  | pass (ok : Bool)
deriving DecidableEq, Repr

def step (s : Screen) : Act → Screen
  | .press fraction => { s with dim := dimmerOp true s.dim (.adjust fraction) }
  | .pass ok =>
    { dim := dimmerServiced s.dim ok
      shown :=
        match dimmerDue s.dim with
        | none => s.shown
        | some target => if ok then target else s.shown }

/-- The key `k` moves what is shown its own way only, now and after the next press. -/
structure Steady (k : Key) (s : Screen) : Prop where
  max_nonneg : 0 ≤ s.dim.max
  aimed : s.dim.Aimed
  pending : s.dim.pendingDelta = 0 ∨ k.Onward s.shown s.dim.level
  ready : k.Onward s.shown (clampBrightness
    (s.dim.current + dimmerDeltaForFraction s.dim.max k.fraction) s.dim.max)

namespace Steady

variable {k : Key} {s : Screen}

/-- What is due lies the way of the key. -/
theorem onward (h : s.Steady k) {target : Int} (hd : dimmerDue s.dim = some target) :
    k.Onward s.shown target := by
  obtain ⟨rfl, -⟩ := h.aimed.target_eq hd
  refine h.pending.resolve_left ?_
  intro hp
  rw [h.aimed.dimmerDue_eq, if_pos hp] at hd
  cases hd

theorem press (h : s.Steady k) : (s.step (.press k.fraction)).Steady k where
  max_nonneg := h.max_nonneg
  aimed := (inRange_dimmerAdjust h.max_nonneg _).aimed
  pending := by
    refine .inr ?_
    change k.Onward s.shown (dimmerAdjust s.dim _).level
    rw [level_dimmerAdjust]
    rcases h.pending with hp | hp
    · rw [Dimmer.level, hp, add_zero]
      exact h.ready
    · rcases h.aimed with hp' | hr
      · rw [Dimmer.level, hp', add_zero]
        exact h.ready
      · exact hp.trans (k.onward_press hr.1 hr.2)
  ready := h.ready

theorem pass (h : s.Steady k) (ok : Bool) : (s.step (.pass ok)).Steady k where
  max_nonneg := by
    change 0 ≤ (dimmerServiced s.dim ok).max
    rw [dimmerServiced_max]
    exact h.max_nonneg
  aimed := aimed_dimmerServiced h.aimed ok
  pending := .inl (h.aimed.pendingDelta_dimmerServiced ok)
  ready := by
    unfold step dimmerServiced
    cases hd : dimmerDue s.dim with
    | none => exact h.ready
    | some target =>
        cases ok with
        | false => exact h.ready
        | true =>
            obtain ⟨rfl, hr⟩ := h.aimed.target_eq hd
            exact k.onward_press hr.1 hr.2

end Steady

/-! ## Screens that just joined -/

/-- A display that joins, with what it shows and the answer to its reading. -/
def joined (reading : Option (Int × Int)) (shown : Int) : Screen where
  dim := reading.elim (dimmerInit 0 100) fun r ↦ dimmerInit r.1 r.2
  shown := shown

/-- The reading leaves room for a first press upwards.  A display whose reading failed is taken
to be at 0 of 100, from where the first press goes to 6. -/
def Fits (reading : Option (Int × Int)) (shown : Int) : Prop :=
  reading.elim (shown ≤ 6) fun r ↦ r.1 ≤ r.2

/-- The answer to a reading, when there is one, is what the display shows, of some maximum. -/
def Truthful (reading : Option (Int × Int)) (shown : Int) : Prop :=
  ∀ r ∈ reading, r.1 = shown ∧ 0 ≤ r.2

variable {reading : Option (Int × Int)} {shown : Int}

theorem aimed_joined (reading : Option (Int × Int)) (shown : Int) :
    (joined reading shown).dim.Aimed := by
  cases reading <;> exact .inl rfl

theorem pendingDelta_joined (reading : Option (Int × Int)) (shown : Int) :
    (joined reading shown).dim.pendingDelta = 0 := by
  cases reading <;> rfl

theorem max_joined_nonneg (h : Truthful reading shown) : 0 ≤ (joined reading shown).dim.max := by
  cases reading with
  | none => exact Int.natCast_nonneg 100
  | some r => exact (h r rfl).2

theorem steady_joined_up (h₀ : 0 ≤ shown) (h : Truthful reading shown) (hfit : Fits reading shown) :
    (joined reading shown).Steady .up where
  max_nonneg := max_joined_nonneg h
  aimed := aimed_joined reading shown
  pending := .inl (pendingDelta_joined reading shown)
  ready := by
    cases reading with
    | none =>
        have hsix : clampBrightness (0 + dimmerDeltaForFraction 100 Key.up.fraction) 100 = 6 := by
          decide +kernel
        exact hfit.trans hsix.ge
    | some r =>
        obtain ⟨rfl, hmax⟩ := h r rfl
        exact Key.up.onward_press h₀ hfit

theorem steady_joined_down (h₀ : 0 ≤ shown) (h : Truthful reading shown) :
    (joined reading shown).Steady .down where
  max_nonneg := max_joined_nonneg h
  aimed := aimed_joined reading shown
  pending := .inl (pendingDelta_joined reading shown)
  ready := by
    cases reading with
    | none =>
        have hzero :
            clampBrightness (0 + dimmerDeltaForFraction 100 Key.down.fraction) 100 = 0 := by
          decide +kernel
        exact hzero.trans_le h₀
    | some r =>
        obtain ⟨rfl, hmax⟩ := h r rfl
        have hneg := dimmerDeltaForFraction_down_neg hmax
        change clampBrightness (r.1 + dimmerDeltaForFraction r.2 Key.down.fraction) r.2 ≤ r.1
        unfold clampBrightness
        split_ifs <;> omega

/-- A display whose reading leaves no room jumps back at the first press upwards. -/
theorem jumps_back_of_not_fits (h₀ : 0 ≤ shown) (h : Truthful reading shown)
    (hfit : ¬ Fits reading shown) :
    ∃ target, dimmerDue ((joined reading shown).step (.press Key.up.fraction)).dim = some target ∧
      target < shown := by
  cases reading with
  | none =>
      have hdue : dimmerDue (dimmerAdjust (dimmerInit 0 100)
          (dimmerDeltaForFraction 100 Key.up.fraction)) = some 6 := by decide +kernel
      exact ⟨6, hdue, not_le.mp hfit⟩
  | some r =>
      obtain ⟨rfl, hmax⟩ := h r rfl
      have hlt : r.2 < r.1 := not_le.mp hfit
      have hpos := dimmerDeltaForFraction_up_pos hmax
      have hlevel : (dimmerAdjust (dimmerInit r.1 r.2)
          (dimmerDeltaForFraction r.2 Key.up.fraction)).level = r.2 := by
        rw [level_dimmerAdjust, level_dimmerInit]
        change clampBrightness (r.1 + dimmerDeltaForFraction r.2 Key.up.fraction) r.2 = r.2
        unfold clampBrightness
        split_ifs <;> omega
      refine ⟨r.2, ?_, hlt⟩
      have haimed := (inRange_dimmerAdjust (d := dimmerInit r.1 r.2) hmax
        (dimmerDeltaForFraction r.2 Key.up.fraction)).aimed
      change dimmerDue (dimmerAdjust (dimmerInit r.1 r.2)
        (dimmerDeltaForFraction r.2 Key.up.fraction)) = _
      rw [haimed.dimmerDue_eq, if_neg ?_, hlevel]
      intro hp
      rw [Dimmer.level, hp, add_zero] at hlevel
      exact hlt.ne' hlevel

end Screen

end Dimmit
