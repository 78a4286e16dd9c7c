import Dimmit.DisplayController.Range

/-!
# Displays move in lockstep

Two displays with the same maximum take the same step at every press, and the clamp keeps the
order of two levels and never moves them apart.  So the levels of the two converge at the
rails and move together between them, and what is written to the displays does the same.
-/

namespace Dimmit

open Run

variable {W Ctx : Type}

/-! ## The clamp -/

section Clamp

variable {x y max : Int}

theorem clampBrightness_mono (h : x ≤ y) (hmax : 0 ≤ max) :
    clampBrightness x max ≤ clampBrightness y max := by
  unfold clampBrightness
  split_ifs <;> omega

/-- The clamp never moves two values apart. -/
theorem clampBrightness_sub_le (h : x ≤ y) :
    clampBrightness y max - clampBrightness x max ≤ y - x := by
  unfold clampBrightness
  split_ifs <;> omega

theorem clampBrightness_eq_self_iff : clampBrightness x max = x ↔ x ∈ Set.Icc 0 max := by
  rw [Set.mem_Icc]
  unfold clampBrightness
  split_ifs <;> omega

end Clamp

/-- From `x ≤ y` to `x'` and `y'` the order stays, the distance does not grow, and while the two
are `free` it stays too. -/
structure Converges (free : Prop) (x y x' y' : Int) : Prop where
  le : x' ≤ y'
  sub_le : y' - x' ≤ y - x
  sub_eq : free → y' - x' = y - x

namespace Converges

variable {free free' : Prop} {x y x' y' x'' y'' : Int}

theorem refl (h : x ≤ y) : Converges free x y x y := ⟨h, Int.le_refl _, fun _ ↦ rfl⟩

theorem trans (h : Converges free x y x' y') (h' : Converges free' x' y' x'' y'') :
    Converges (free ∧ free') x y x'' y'' where
  le := h'.le
  sub_le := h'.sub_le.trans h.sub_le
  sub_eq hf := (h'.sub_eq hf.2).trans (h.sub_eq hf.1)

theorem imp (h : Converges free x y x' y') (hf : free' → free) : Converges free' x y x' y' :=
  ⟨h.le, h.sub_le, fun hf' ↦ h.sub_eq (hf hf')⟩

end Converges

/-! ## Two dimmers -/

/-- The operation is a press that would take this dimmer beyond its range. -/
def Dimmer.Clamps (d : Dimmer) : Op → Prop
  | .adjust fraction =>
    d.level + dimmerDeltaForFraction (dimmerMax d) fraction ∉ Set.Icc 0 d.max
  | .service | .reconcile => False

instance (d : Dimmer) : DecidablePred d.Clamps
  | .adjust _ => inferInstanceAs (Decidable (¬ (0 ≤ _ ∧ _ ≤ _)))
  | .service | .reconcile => inferInstanceAs (Decidable False)

/-- What an operation adds to the level of a display, the clamp aside. -/
def Op.delta (max : Int) : Op → Int
  | .adjust fraction => dimmerDeltaForFraction max fraction
  | .service | .reconcile => 0

/-- The clamp cuts short what would leave the range, and nothing else. -/
theorem Dimmer.clamps_iff (d : Dimmer) (op : Op) :
    d.Clamps op ↔ (dimmerOp true d op).level ≠ d.level + op.delta d.max := by
  cases op with
  | adjust fraction =>
      have hlevel : (dimmerOp true d (.adjust fraction)).level =
          clampBrightness (d.level + dimmerDeltaForFraction d.max fraction) d.max :=
        level_dimmerAdjust d _
      rw [hlevel]
      exact clampBrightness_eq_self_iff.not.symm
  | service =>
      have hlevel : (dimmerServiced d true).level = d.level + 0 :=
        (level_dimmerServiced_true d).trans (add_zero d.level).symm
      exact iff_of_false id (not_not_intro hlevel)
  | reconcile => exact iff_of_false id (not_not_intro (add_zero d.level).symm)

theorem level_dimmerOp_of_not_clamps {d : Dimmer} {op : Op} (h : ¬ d.Clamps op) :
    (dimmerOp true d op).level = d.level + op.delta d.max :=
  not_not.mp ((d.clamps_iff op).not.mp h)

@[simp] theorem dimmerOp_max (ok : Bool) (d : Dimmer) (op : Op) :
    (dimmerOp ok d op).max = d.max := by
  cases op with
  | adjust fraction => rfl
  | service => exact dimmerServiced_max d ok
  | reconcile => rfl

theorem Dimmer.InRange.max_nonneg {d : Dimmer} (h : d.InRange) : 0 ≤ d.max := h.1.trans h.2

theorem Dimmer.InRange.dimmerOp_true {d : Dimmer} (h : d.InRange) (op : Op) :
    (dimmerOp true d op).InRange := by
  cases op with
  | adjust fraction => exact inRange_dimmerAdjust h.max_nonneg _
  | service =>
      change 0 ≤ (dimmerServiced d true).level ∧
        (dimmerServiced d true).level ≤ (dimmerServiced d true).max
      rw [level_dimmerServiced_true, dimmerServiced_max]
      exact h
  | reconcile => exact h

/-- One operation on two dimmers with the same maximum. -/
theorem converges_dimmerOp {d e : Dimmer} (hmax : d.max = e.max) (h : 0 ≤ d.max)
    (hle : d.level ≤ e.level) (op : Op) : Converges (¬ d.Clamps op ∧ ¬ e.Clamps op)
      d.level e.level (dimmerOp true d op).level (dimmerOp true e op).level := by
  cases op with
  | adjust fraction =>
      have hd : (dimmerOp true d (.adjust fraction)).level =
          clampBrightness (d.level + dimmerDeltaForFraction d.max fraction) d.max :=
        level_dimmerAdjust d _
      have he : (dimmerOp true e (.adjust fraction)).level =
          clampBrightness (e.level + dimmerDeltaForFraction d.max fraction) d.max := by
        rw [hmax]
        exact level_dimmerAdjust e _
      have hstep := add_le_add_left hle (dimmerDeltaForFraction d.max fraction)
      refine ⟨?_, ?_, ?_⟩
      · rw [hd, he]
        exact clampBrightness_mono hstep h
      · rw [hd, he]
        exact (clampBrightness_sub_le hstep).trans (by omega)
      · rintro ⟨hnd, hne⟩
        rw [level_dimmerOp_of_not_clamps hnd, level_dimmerOp_of_not_clamps hne, hmax]
        omega
  | service =>
      change Converges _ _ _ (dimmerServiced d true).level (dimmerServiced e true).level
      rw [level_dimmerServiced_true, level_dimmerServiced_true]
      exact .refl hle
  | reconcile => exact .refl hle

/-! ## Two displays of a session -/

/-- The event is a write that failed. -/
def OpsEvent.isFailedSet : OpsEvent Ctx → Bool
  | .set _ _ ok => !ok
  | .get _ _ | .close _ => false

namespace Session

variable {P : Provider W Ctx} {s : Session (W × List (OpsEvent Ctx)) Ctx}

/-- No write of the operation fails. -/
def WritesSucceed (P : Provider W Ctx) (s : Session (W × List (OpsEvent Ctx)) Ctx) (op : Op) :
    Prop := ∀ e ∈ s.calls P op, e.isFailedSet = false

instance [DecidableEq Ctx] (P : Provider W Ctx) (s : Session (W × List (OpsEvent Ctx)) Ctx) :
    DecidablePred (WritesSucceed P s) := fun _ ↦ inferInstanceAs (Decidable (∀ _ ∈ _, _))

/-- No press of the run is clamped on the display at `i`. -/
def Unclamped (P : Provider W Ctx) (i : Nat) (s : Session (W × List (OpsEvent Ctx)) Ctx)
    (ops : List Op) : Prop :=
  Along (step P.logged) (fun s op ↦ ∀ m ∈ s.displays[i]?, ¬ m.dim.Clamps op) s ops

/-- An operation whose writes succeed is the same step on every display. -/
theorem displays_step_of_writesSucceed {op : Op} (hop : op ≠ .reconcile)
    (hok : WritesSucceed P s op) : (s.step P.logged op).displays =
      s.displays.map fun m ↦ { m with dim := dimmerOp true m.dim op } := by
  cases op with
  | adjust fraction =>
      rw [displays_step_adjust]
      rfl
  | service =>
      obtain ⟨events, hlog, -, hms⟩ := serviceDisplays_logged P s.displays s.world
      rw [WritesSucceed, calls_service_eq hlog] at hok
      rw [displays_step_service]
      refine Related.eq_map_of_forall₂ (hms.imp ?_)
      rintro m m' ⟨ok, rfl, rfl | ⟨v, hv⟩⟩
      · rfl
      · exact absurd (hok _ hv) (by simp [OpsEvent.isFailedSet])
  | reconcile => exact absurd rfl hop

/-- Where the writes succeed and no reconcile intervenes, a run is each dimmer's own run. -/
theorem displays_run_of_writesSucceed {ops : List Op} (hops : .reconcile ∉ ops)
    (hok : Along (step P.logged) (WritesSucceed P) s ops) :
    (s.run P.logged ops).displays =
      s.displays.map fun m ↦ { m with dim := ops.foldl (dimmerOp true) m.dim } := by
  induction ops generalizing s with
  | nil => exact (List.map_id s.displays).symm
  | cons op ops ih =>
      obtain ⟨hop, hops⟩ := not_or.mp (List.mem_cons.not.mp hops)
      rw [run_cons, ih hops hok.2, displays_step_of_writesSucceed (Ne.symm hop) hok.1,
        List.map_map]
      rfl

/-- What a display becomes in an operation whose writes succeed. -/
theorem getElem?_step_of_writesSucceed {op : Op} (hop : op ≠ .reconcile)
    (hok : WritesSucceed P s op) {i : Nat} {m : ManagedDisplay Ctx}
    (hm : s.displays[i]? = some m) : (s.step P.logged op).displays[i]? =
      some { m with dim := dimmerOp true m.dim op } := by
  rw [displays_step_of_writesSucceed hop hok, List.getElem?_map, hm]
  rfl

/-- The displays at `j` and `k` are `a` and `b`, abreast of each other. -/
structure Abreast (j k : Nat) (a b : ManagedDisplay Ctx) (s : Session W Ctx) : Prop where
  left : s.displays[j]? = some a
  right : s.displays[k]? = some b
  max_eq : a.dim.max = b.dim.max
  left_inRange : a.dim.InRange
  right_inRange : b.dim.InRange
  level_le : a.dim.level ≤ b.dim.level

/-- **Two displays abreast stay so** through a run without reconciles whose writes succeed. -/
theorem Abreast.run {j k : Nat} {a b : ManagedDisplay Ctx} {ops : List Op}
    (h : s.Abreast j k a b) (hops : .reconcile ∉ ops)
    (hok : Along (step P.logged) (WritesSucceed P) s ops) :
    ∃ a' b', (s.run P.logged ops).Abreast j k a' b' ∧
      Converges (Unclamped P j s ops ∧ Unclamped P k s ops)
        a.dim.level b.dim.level a'.dim.level b'.dim.level := by
  induction ops generalizing s a b with
  | nil => exact ⟨a, b, h, .refl h.level_le⟩
  | cons op ops ih =>
      obtain ⟨hop, hops⟩ := not_or.mp (List.mem_cons.not.mp hops)
      have hconv := converges_dimmerOp h.max_eq h.left_inRange.max_nonneg h.level_le op
      have hstep : (s.step P.logged op).Abreast j k { a with dim := dimmerOp true a.dim op }
          { b with dim := dimmerOp true b.dim op } :=
        { left := getElem?_step_of_writesSucceed (Ne.symm hop) hok.1 h.left
          right := getElem?_step_of_writesSucceed (Ne.symm hop) hok.1 h.right
          max_eq := by simpa using h.max_eq
          left_inRange := h.left_inRange.dimmerOp_true op
          right_inRange := h.right_inRange.dimmerOp_true op
          level_le := hconv.le }
      obtain ⟨a', b', h', hconv'⟩ := ih hstep hops hok.2
      refine ⟨a', b', h', (hconv.trans hconv').imp ?_⟩
      rintro ⟨hj, hk⟩
      exact ⟨⟨hj.1 a h.left, hk.1 b h.right⟩, hj.2, hk.2⟩

/-- Right after a pass the last-applied currents of two displays abreast are their levels. -/
theorem Abreast.current_eq {j k : Nat} {a b a' b' : ManagedDisplay Ctx} {ops : List Op}
    (h : s.Abreast j k a b) (hops : .reconcile ∉ ops)
    (hok : Along (step P.logged) (WritesSucceed P) s ops) (hlast : ops.getLast? = some .service)
    (h' : (s.run P.logged ops).Abreast j k a' b') :
    a'.dim.current = a'.dim.level ∧ b'.dim.current = b'.dim.level := by
  obtain ⟨init, rfl⟩ := List.getLast?_eq_some_iff.mp hlast
  obtain ⟨hinit, hserv, -⟩ := along_append.mp hok
  obtain ⟨a₀, b₀, h₀, -⟩ := h.run (fun hm ↦ hops (List.mem_append_left _ hm)) hinit
  have hcurrent {i : Nat} {m m' : ManagedDisplay Ctx} (hr : m.dim.InRange)
      (hm : (s.run P.logged init).displays[i]? = some m)
      (hm' : (s.run P.logged (init ++ [.service])).displays[i]? = some m') :
      m'.dim.current = m'.dim.level := by
    have hserved :=
      getElem?_step_of_writesSucceed (show Op.service ≠ .reconcile from nofun) hserv hm
    rw [run_append] at hm'
    cases hserved.symm.trans hm'
    change (dimmerServiced m.dim true).current = (dimmerServiced m.dim true).level
    rw [hr.aimed.current_dimmerServiced_true, level_dimmerServiced_true]
  exact ⟨hcurrent h₀.left_inRange h₀.left h'.left, hcurrent h₀.right_inRange h₀.right h'.right⟩

end Session

/-- **Displays move in lockstep and only converge at the rails.**

Two displays with the same maximum and levels in the range, in a run of presses (of any
fraction) and passes whose writes succeed.  From any moment of the run, its start included, to
any later one: the lower display stays the lower one, their levels come no further apart, and
while no press is clamped on either they keep their distance.  Right after a pass the same
holds of the last-applied currents. -/
theorem displays_move_in_lockstep {P : Provider W Ctx}
    {s : Session (W × List (OpsEvent Ctx)) Ctx} {j k : Nat} {a b : ManagedDisplay Ctx}
    (h : s.Abreast j k a b) {ops₁ ops₂ : List Op} (hops : .reconcile ∉ ops₁ ++ ops₂)
    (hok : Along (Session.step P.logged) (Session.WritesSucceed P) s (ops₁ ++ ops₂)) :
    ∃ a₁ b₁ a₂ b₂,
      (s.run P.logged ops₁).Abreast j k a₁ b₁ ∧
      (s.run P.logged (ops₁ ++ ops₂)).Abreast j k a₂ b₂ ∧
      let free := Session.Unclamped P j (s.run P.logged ops₁) ops₂ ∧
        Session.Unclamped P k (s.run P.logged ops₁) ops₂
      Converges free a₁.dim.level b₁.dim.level a₂.dim.level b₂.dim.level ∧
      (ops₂.getLast? = some .service →
        Converges free a₁.dim.level b₁.dim.level a₂.dim.current b₂.dim.current) ∧
      (ops₁.getLast? = some .service → ops₂.getLast? = some .service →
        Converges free a₁.dim.current b₁.dim.current a₂.dim.current b₂.dim.current) := by
  obtain ⟨hok₁, hok₂⟩ := along_append.mp hok
  have hops₁ : Op.reconcile ∉ ops₁ := fun hm ↦ hops (List.mem_append_left _ hm)
  have hops₂ : Op.reconcile ∉ ops₂ := fun hm ↦ hops (List.mem_append_right _ hm)
  obtain ⟨a₁, b₁, h₁, -⟩ := h.run hops₁ hok₁
  obtain ⟨a₂, b₂, h₂, hconv⟩ := h₁.run hops₂ hok₂
  rw [Session.run_append]
  refine ⟨a₁, b₁, a₂, b₂, h₁, h₂, hconv, ?_, ?_⟩
  · intro hlast
    obtain ⟨ha, hb⟩ := h₁.current_eq hops₂ hok₂ hlast h₂
    rwa [ha, hb]
  · intro hlast₁ hlast
    obtain ⟨ha₁, hb₁⟩ := h.current_eq hops₁ hok₁ hlast₁ h₁
    obtain ⟨ha, hb⟩ := h₁.current_eq hops₂ hok₂ hlast h₂
    rwa [ha, hb, ha₁, hb₁]

/-- Displays without ids that take every write. -/
def willing : Provider Unit Nat where
  enumerate w := (some [], w)
  get _ w := (none, w)
  set _ _ w := (true, w)
  close _ w := w
  calloc w := (true, w)

/-- A display at half its maximum and one near it. -/
def unevenPair : Session (Unit × List (OpsEvent Nat)) Nat where
  controller := some
    { sources := [⟨0, [], []⟩, ⟨1, [], []⟩]
      displays := [⟨⟨0, [], []⟩, ⟨50, 100, 0⟩⟩, ⟨⟨1, [], []⟩, ⟨97, 100, 0⟩⟩] }
  world := ((), [])
  serviced := []

/-- A press takes the brighter of the two to the rail. -/
theorem displays_move_in_lockstep_at_rail :
    ∃ a b, (unevenPair.run willing.logged [.adjust (1 / 16), .service]).Abreast 0 1 a b ∧
      b.dim.current - a.dim.current ≤ 47 := by
  have h : unevenPair.Abreast 0 1 ⟨⟨0, [], []⟩, ⟨50, 100, 0⟩⟩ ⟨⟨1, [], []⟩, ⟨97, 100, 0⟩⟩ :=
    ⟨rfl, rfl, rfl, by decide, by decide, by decide⟩
  have hok : Along (Session.step willing.logged) (Session.WritesSucceed willing) unevenPair
      ([] ++ [.adjust (1 / 16), .service]) := by decide +kernel
  obtain ⟨a₁, b₁, a₂, b₂, h₁, h₂, -, hconv, -⟩ :=
    displays_move_in_lockstep h (by decide) hok
  cases h₁.left
  cases h₁.right
  exact ⟨a₂, b₂, h₂, (hconv rfl).sub_le⟩

end Dimmit
