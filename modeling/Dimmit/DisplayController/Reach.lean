import Dimmit.Ddc.Darwin.M1ddc
import Dimmit.DisplayController.Gauge

/-!
# How far the up key reaches on macOS

The macOS backend reports maxima of up to 16 bits and refuses to write anything above 100, so
the range that can be read is the range that can be written only up to a maximum of 100.  On a
display with a greater one the presses that aim above 100 are dropped, and the display never
gets to its maximum.
-/

namespace Dimmit

variable {W R H Ctx D : Type}

/-! ## Climbing -/

namespace Screen

/-- A display of the given maximum that `n` presses have brought up by at least `n`, or to the
maximum, and that shows what its dimmer has recorded. -/
structure Climbed (max : Int) (n : Nat) (x : Screen) : Prop where
  max_eq : x.dim.max = max
  inRange : x.dim.InRange
  shown_eq : x.shown = x.dim.current
  le_level : min max n ≤ x.dim.level

namespace Climbed

variable {max : Int} {n : Nat} {x : Screen}

theorem joined {level : Int} (h₀ : 0 ≤ level) (h₁ : level ≤ max) :
    Climbed max 0 ⟨dimmerInit level max, level⟩ where
  max_eq := rfl
  inRange := by
    unfold Dimmer.InRange
    rw [level_dimmerInit]
    exact ⟨h₀, h₁⟩
  shown_eq := rfl
  le_level := by
    rw [level_dimmerInit]
    exact (min_le_right _ _).trans h₀

theorem press (h : Climbed max n x) : Climbed max (n + 1) (x.step (.press Key.up.fraction)) where
  max_eq := h.max_eq
  inRange := inRange_dimmerAdjust (h.inRange.1.trans h.inRange.2) _
  shown_eq := h.shown_eq
  le_level := by
    have hle := h.le_level
    have hpos := dimmerDeltaForFraction_up_pos (h.inRange.1.trans h.inRange.2)
    obtain ⟨h₀, h₁⟩ := h.inRange
    rw [h.max_eq] at h₁ hpos
    change _ ≤ (dimmerAdjust x.dim (dimmerDeltaForFraction x.dim.max Key.up.fraction)).level
    rw [level_dimmerAdjust, h.max_eq]
    unfold clampBrightness
    push_cast
    split_ifs <;> omega

/-- A pass whose write, if one is due, succeeds. -/
theorem pass (h : Climbed max n x) {ok : Bool} (hok : ∀ v, dimmerDue x.dim = some v → ok = true) :
    Climbed max n (x.step (.pass ok)) ∧ (x.step (.pass ok)).shown = x.dim.level := by
  have hpass : x.step (.pass ok) = x.step (.pass true) := by
    unfold step dimmerServiced
    cases hd : dimmerDue x.dim with
    | none => rfl
    | some v => rw [hok v hd]
  have haimed := h.inRange.aimed
  have hcurrent := haimed.current_dimmerServiced_true
  have hlevel := level_dimmerServiced_true x.dim
  have hshown : (x.step (.pass true)).shown = x.dim.level := by
    unfold step
    cases hd : dimmerDue x.dim with
    | none =>
        change x.shown = _
        rw [h.shown_eq, Dimmer.level, haimed.pendingDelta_eq_zero hd, add_zero]
    | some v => exact (haimed.target_eq hd).1
  rw [hpass]
  refine ⟨⟨?_, ?_, ?_, ?_⟩, hshown⟩
  · exact (dimmerServiced_max _ _).trans h.max_eq
  · change 0 ≤ (dimmerServiced x.dim true).level ∧
      (dimmerServiced x.dim true).level ≤ (dimmerServiced x.dim true).max
    rw [hlevel, dimmerServiced_max]
    exact h.inRange
  · exact hshown.trans hcurrent.symm
  · exact h.le_level.trans_eq hlevel.symm

/-- After as many presses as the maximum the level is at the maximum. -/
theorem level_eq (h : Climbed max n x) (hn : max ≤ n) : x.dim.level = max := by
  have hle := h.le_level
  obtain ⟨-, h₁⟩ := h.inRange
  rw [h.max_eq] at h₁
  rw [min_eq_left hn] at hle
  exact le_antisymm h₁ hle

end Climbed

/-- A pass that brings no value from `max` on leaves a screen below `max` there. -/
theorem shown_pass_lt {x : Screen} {max : Int} {ok : Bool} (h : x.shown < max)
    (hok : ∀ v, dimmerDue x.dim = some v → ok = true → v < max) :
    (x.step (.pass ok)).shown < max := by
  unfold step
  cases hd : dimmerDue x.dim with
  | none => exact h
  | some v =>
      cases ok with
      | false => exact h
      | true => exact hok v hd rfl

end Screen

namespace Session

/-- Enough presses upwards, and then a pass, bring the display of `src` to `v`. -/
def Climbs (P : Provider W Ctx) (device : Ctx → D) (shown : W → D → Int)
    (s : Session (W × List (Note Ctx)) Ctx) (src : BrightnessSource Ctx) (v : Int) : Prop :=
  ∃ n, ∀ ops, (∀ op ∈ ops, Key.up.Plays op) → n ≤ Key.up.presses ops →
    ops.getLast? = some .service →
      ∃ d, (s.run (P.metered device shown) ops).Shows device shown src ⟨d, v⟩

/-- Where no write of a value up to the maximum fails, the display climbs to it. -/
theorem Shows.climbs {impl : Implementation W R H} {seat : R → D} {device : H → D}
    {shown : W → D → Int} (h : impl.Gauged seat device shown)
    {s : Session (W × List (Note H)) H} {src : BrightnessSource H}
    (hs : s.Reachable ((ddcProvider impl).metered device shown)) {level max : Int}
    (h₀ : 0 ≤ level) (h₁ : level ≤ max)
    (hx : s.Shows device shown src ⟨dimmerInit level max, level⟩)
    (hset : ∀ v, 0 ≤ v → v ≤ max → ∀ w, ((ddcProvider impl).set src v w).1 = true) :
    s.Climbs (ddcProvider impl) device shown src max := by
  have hpass : ∀ n x ok, x.dim.Bounded → (∀ v, dimmerDue x.dim = some v → ∃ w,
      ok = ((ddcProvider impl).set src v w).1) → Screen.Climbed max n x →
      ∀ v, dimmerDue x.dim = some v → ok = true := by
    intro n x ok hb hok hc v hd
    obtain ⟨w, rfl⟩ := hok v hd
    obtain ⟨hv₀, hv₁⟩ := hb.target_mem hd
    exact hset v hv₀ (hv₁.trans_eq hc.max_eq) w
  refine ⟨max.toNat, ?_⟩
  intro ops hops hn hlast
  obtain ⟨init, rfl⟩ := List.getLast?_eq_some_iff.mp hlast
  have hinit : ∀ op ∈ init, Key.up.Plays op := fun op hop ↦ hops op (List.mem_append_left _ hop)
  obtain ⟨y, hy, hc⟩ := hx.run h (k := .up) (I := Screen.Climbed max) (fun n x hc ↦ hc.press)
    (fun n x ok hb hok hc ↦ (hc.pass (hpass n x ok hb hok hc)).1) hs (.joined h₀ h₁) hinit
  have hs' := hs.run init
  have hlevel : y.dim.level = max := by
    refine hc.level_eq ?_
    rw [Key.presses_concat_pass] at hn
    omega
  have hsound := hs'.sound h
  obtain ⟨ok, hy', hok⟩ := hy.service h.legible.ddcProvider (hy.sole hsound) (hy.honest h hsound)
  have hshown := (hc.pass (hpass _ y ok (hy.bounded hsound.bounded) hok hc)).2
  rw [run_append]
  refine ⟨(y.step (.pass ok)).dim, ?_⟩
  rw [← hlevel, ← hshown]
  exact hy'

/-- A display at its maximum stays there. -/
theorem Shows.climbs_of_eq {impl : Implementation W R H} {seat : R → D} {device : H → D}
    {shown : W → D → Int} (h : impl.Gauged seat device shown)
    {s : Session (W × List (Note H)) H} {src : BrightnessSource H}
    (hs : s.Reachable ((ddcProvider impl).metered device shown)) {max : Int} (hmax : 0 ≤ max)
    (hx : s.Shows device shown src ⟨dimmerInit max max, max⟩) :
    s.Climbs (ddcProvider impl) device shown src max := by
  have hlevel :
      clampBrightness (max + 0 + dimmerDeltaForFraction max Key.up.fraction) max = max := by
    have hpos := dimmerDeltaForFraction_up_pos hmax
    unfold clampBrightness
    split_ifs <;> omega
  have hpress : (Screen.mk (dimmerInit max max) max).step (.press Key.up.fraction) =
      ⟨dimmerInit max max, max⟩ := by
    change Screen.mk ⟨max, max, clampBrightness (max + 0 + dimmerDeltaForFraction max _) max - max⟩
      max = _
    rw [hlevel, sub_self]
    rfl
  refine ⟨0, ?_⟩
  intro ops hops _ _
  obtain ⟨y, hy, rfl⟩ := hx.run h (k := .up) (I := fun _ x ↦ x = ⟨dimmerInit max max, max⟩)
    (n := 0) (fun n x hx ↦ hx ▸ hpress) (fun n x ok _ _ hx ↦ by subst hx; rfl) hs rfl hops
  exact ⟨_, hy⟩

/-- Where every write of a value of at least the maximum fails, the display does not climb to it
from below. -/
theorem Shows.not_climbs {impl : Implementation W R H} {seat : R → D} {device : H → D}
    {shown : W → D → Int} (h : impl.Gauged seat device shown)
    {s : Session (W × List (Note H)) H} {src : BrightnessSource H}
    (hs : s.Reachable ((ddcProvider impl).metered device shown)) {x : Screen} {max : Int}
    (hlt : x.shown < max) (hx : s.Shows device shown src x)
    (hset : ∀ v, max ≤ v → v ≤ 65535 → ∀ w, ((ddcProvider impl).set src v w).1 = false) :
    ¬ s.Climbs (ddcProvider impl) device shown src max := by
  rintro ⟨n, hn⟩
  have hops : ∀ op ∈ List.replicate n (.adjust Key.up.fraction) ++ [Op.service],
      Key.up.Plays op := by
    intro op hop
    rcases List.mem_append.mp hop with hop | hop
    · exact .inl (List.eq_of_mem_replicate hop)
    · exact .inr (List.mem_singleton.mp hop)
  obtain ⟨d, hd⟩ := hn _ hops (by simp [Key.presses]) (by simp)
  have hpass : ∀ (n : Nat) (x : Screen) ok, x.dim.Bounded → (∀ v, dimmerDue x.dim = some v → ∃ w,
      ok = ((ddcProvider impl).set src v w).1) → x.shown < max →
      (x.step (.pass ok)).shown < max := by
    intro n x ok hb hok hshort
    refine Screen.shown_pass_lt hshort ?_
    intro v hd htrue
    obtain ⟨w, hw⟩ := hok v hd
    by_contra hge
    rw [hset v (not_lt.mp hge) ((hb.target_mem hd).2.trans hb.max_le) w, htrue] at hw
    cases hw
  obtain ⟨y, hy, hshort⟩ := hx.run h (k := .up) (I := fun _ x ↦ x.shown < max) (n := 0)
    (fun _ _ hshort ↦ hshort) hpass hs hlt hops
  cases hd.unique (hy.sole ((hs.run _).sound h)) hy
  exact absurd hshort (lt_irrefl _)

end Session

/-! ## macOS -/

/-- No write of brightness to the bus fails. -/
def DarwinArch.NoBusErrors (arch : DarwinArch W H) : Prop :=
  ∀ h hi lo w, (arch.setVcp h vcpBrightness hi lo w).1 = true

theorem DarwinArch.NoBusErrors.set_eq {cg : CoreGraphics W} {arch : DarwinArch W H}
    (h : arch.NoBusErrors) (src : BrightnessSource H) {v : Int} (h₀ : 0 ≤ v) (h₁ : v ≤ 65535)
    (w : W) : ((ddcProvider (darwinImplementation cg arch)).set src v w).1 = decide (v ≤ 100) := by
  change (darwinSetNonTableVcpValue arch src.ctx vcpBrightness (hiByte v) (loByte v) w).1 = _
  rw [darwinSetNonTableVcpValue_eq arch src.ctx vcpBrightness h₀ (Int.lt_add_one_iff.mpr h₁)]
  split_ifs with hv
  · rw [h, decide_eq_true hv]
  · rw [decide_eq_false hv]

/-- **On macOS the range that can be written ends at 100.**

For a maximum that a display can report: every target up to the maximum is handed on to the
glue as it is, with the glue's outcome, if and only if the maximum is at most 100; and on a bus
without errors, whatever the glue, enough presses upwards bring a display of that maximum from a
level to its maximum if and only if the maximum is at most 100 or the level is the maximum. -/
theorem darwin_reaches_maximum_iff {max : Int} (hpos : 0 < max) (hmax : max ≤ 65535) :
    ((∀ v, 0 ≤ v → v ≤ max → ∀ {W H : Type} (arch : DarwinArch W H) (h : H) (w : W),
      darwinSetNonTableVcpValue arch h vcpBrightness (hiByte v) (loByte v) w =
        arch.setVcp h vcpBrightness (hiByte v) (loByte v) w) ↔ max ≤ 100) ∧
    ∀ {W H D : Type} {cg : CoreGraphics W} {arch : DarwinArch W H} {seat : DarwinRef → D}
      {device : H → D} {shown : W → D → Int} {s : Session (W × List (Note H)) H}
      {src : BrightnessSource H} {level : Int},
      (darwinImplementation cg arch).Gauged seat device shown → arch.NoBusErrors →
      s.Reachable ((ddcProvider (darwinImplementation cg arch)).metered device shown) →
      0 ≤ level → level ≤ max → s.Shows device shown src ⟨dimmerInit level max, level⟩ →
      (s.Climbs (ddcProvider (darwinImplementation cg arch)) device shown src max ↔
        max ≤ 100 ∨ level = max) := by
  refine ⟨⟨?_, ?_⟩, ?_⟩
  · intro hall
    by_contra hlarge
    -- a glue whose writes succeed tells a refused write from a write that fails
    let arch : DarwinArch Unit Unit := ⟨fun _ w ↦ (none, w), fun _ w ↦ w, fun _ _ w ↦ (none, w),
      fun _ _ _ _ w ↦ (true, w)⟩
    have hset := hall max hpos.le le_rfl arch () ()
    rw [darwinSetNonTableVcpValue_eq arch () vcpBrightness hpos.le (by omega), if_neg hlarge]
      at hset
    cases hset
  · intro hsmall v h₀ hv W H arch h w
    rw [darwinSetNonTableVcpValue_eq arch h vcpBrightness h₀ (by omega), if_pos (by omega)]
  · intro W H D cg arch seat device shown s src level hg hbus hs h₀ h₁ hx
    constructor
    · intro hclimbs
      by_contra hnot
      obtain ⟨hlarge, hne⟩ := not_or.mp hnot
      refine hx.not_climbs hg hs (lt_of_le_of_ne h₁ hne) ?_ hclimbs
      intro v hv hv' w
      rw [hbus.set_eq src (by omega) hv', decide_eq_false (by omega)]
    · rintro (hsmall | rfl)
      · refine hx.climbs hg hs h₀ h₁ ?_
        intro v hv₀ hv₁ w
        rw [hbus.set_eq src hv₀ (by omega), decide_eq_true (by omega)]
      · exact hx.climbs_of_eq hg hs h₀

/-! ## A desk with one display -/

/-- The registers of a display on the Intel bus. -/
structure Desk where
  max : UInt8
  current : UInt8
deriving DecidableEq, Repr

/-- A bus without errors. -/
def desk : Ddcctl Desk where
  ioServicePort _ w := (1, w)
  ddcRead _ _ w := (some (w.max, w.current), w)
  ddcWrite _ _ v w := (true, { w with current := v })
  alloc w := (true, w)

/-- One online display, an external one. -/
def deskGraphics : CoreGraphics Desk where
  getOnlineDisplayList room w := (some ⟨[2].take room, List.length_take_le _ _⟩, w)
  vendorNumber _ _ := 0x10ac
  modelNumber _ _ := 0xa0c4
  isBuiltin _ _ := false
  alloc w := (true, w)

/-- What the display of the desk shows. -/
def Desk.shown (w : Desk) (_ : Unit) : Int := word 0 w.current

theorem noBusErrors_desk : (ddcctlArch desk).NoBusErrors := fun _ _ _ _ ↦ rfl

theorem gauged_desk : (darwinImplementation deskGraphics (ddcctlArch desk)).Gauged
    (fun _ ↦ ()) (fun _ ↦ ()) Desk.shown where
  keeps ρ :=
    { getDisplayInfoList := id
      freeDisplayInfoList := fun _ ↦ id
      openDisplay := by
        intro w dref hw
        change (darwinOpenDisplay (ddcctlArch desk) dref w).2.shown = ρ
        unfold darwinOpenDisplay
        split_ifs <;> exact hw
      closeDisplay := fun _ ↦ id
      getNonTableVcpValue := by
        intro w h f hw
        change (ddcctlGetVcp desk h f w).2.shown = ρ
        unfold ddcctlGetVcp
        split_ifs <;> exact hw
      calloc := id }
  nonneg w d := word_nonneg _ _
  openDisplay _ := rfl
  nodup h := by
    cases h
    exact List.nodup_singleton ()
  read hr := by
    cases hr
    rfl
  wrote {h hi lo w w'} hs := by
    change darwinSetNonTableVcpValue (ddcctlArch desk) h vcpBrightness hi lo w = _ at hs
    unfold darwinSetNonTableVcpValue at hs
    split_ifs at hs with hcap
    · cases hs
    have hw' : { w with current := value8 hi lo } = w' := congrArg Prod.snd hs
    have hle : word hi lo ≤ 255 := by omega
    rw [← hw']
    exact ⟨word_value8 hle, fun _ hd ↦ absurd rfl hd⟩
  refused {h hi lo w w'} hs := by
    change darwinSetNonTableVcpValue (ddcctlArch desk) h vcpBrightness hi lo w = _ at hs
    unfold darwinSetNonTableVcpValue at hs
    split_ifs at hs with hcap
    · cases hs
      rfl
    · cases hs

/-- The source of the display. -/
def deskSource : BrightnessSource UInt32 :=
  displaySource 0 (darwinDisplayInfo ⟨2, 0x10ac, 0xa0c4, false⟩) 2

/-- The desk with its display at `current` of `max`, just opened. -/
def deskOpened (current max : UInt8) : Session (Desk × List (Note UInt32)) UInt32 :=
  .start ((ddcProvider (darwinImplementation deskGraphics (ddcctlArch desk))).metered
    (fun _ ↦ ()) Desk.shown) (⟨max, current⟩, [])

/-- A display at 50 of 100 climbs to 100. -/
theorem darwin_reaches_maximum_iff_desk :
    (deskOpened 50 100).Climbs (ddcProvider (darwinImplementation deskGraphics (ddcctlArch desk)))
      (fun _ ↦ ()) Desk.shown deskSource 100 := by
  have hshows : (deskOpened 50 100).Shows (fun _ ↦ ()) Desk.shown deskSource
      ⟨dimmerInit 50 100, 50⟩ :=
    ⟨⟨deskSource, dimmerInit 50 100⟩, by decide +kernel, rfl, by decide +kernel⟩
  exact ((darwin_reaches_maximum_iff (by decide) (by decide)).2 gauged_desk noBusErrors_desk
    (Session.reachable_start _ _) (by decide) (by decide) hshows).mpr (.inl le_rfl)

/-- A display at 0 of 255 answers its maximum, and the bus takes 101 of 255, but the backend
refuses it: thirty presses, each with its pass, leave the display at 96. -/
theorem desk_stops_at_96 :
    (ddcctlGetVcp desk 2 vcpBrightness ⟨255, 0⟩).1 = some ⟨0, 255, 0, 0⟩ ∧
    ddcctlSetVcp desk 2 vcpBrightness (hiByte 101) (loByte 101) ⟨255, 96⟩ = (true, ⟨255, 101⟩) ∧
    darwinSetNonTableVcpValue (ddcctlArch desk) 2 vcpBrightness (hiByte 101) (loByte 101)
      ⟨255, 96⟩ = (false, ⟨255, 96⟩) ∧
    ((deskOpened 0 255).run ((ddcProvider (darwinImplementation deskGraphics
      (ddcctlArch desk))).metered (fun _ ↦ ()) Desk.shown)
      (List.replicate 30 [.adjust (1 / 16), .service]).flatten).world.1 = ⟨255, 96⟩ := by
  decide +kernel

end Dimmit
