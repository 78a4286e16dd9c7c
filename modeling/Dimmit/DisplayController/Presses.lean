import Dimmit.DisplayController.Gauge
import Dimmit.DisplayController.Lockstep
import Mathlib.Order.Bounds.Defs

/-!
# Counting presses

Where writes succeed, a display goes through a run as its dimmer does on its own, and its level
after the run can be told from the number of presses.  Away from the rails each press adds its
step, so presses up and down cancel; toward a rail each press of a key closes the gap by its
step or altogether, and 23 of them close any gap.
-/

namespace Dimmit

open Run

variable {W Ctx : Type}

/-! ## One display of a run -/

namespace Session

variable {P : Provider W Ctx} {s : Session (W × List (OpsEvent Ctx)) Ctx} {i : Nat}
  {m : ManagedDisplay Ctx} {ops : List Op}

/-- A display goes through a run whose writes succeed as its dimmer does. -/
theorem getElem?_run_of_writesSucceed (hm : s.displays[i]? = some m) (hops : .reconcile ∉ ops)
    (hok : Along (step P.logged) (WritesSucceed P) s ops) :
    (s.run P.logged ops).displays[i]? =
      some { m with dim := ops.foldl (dimmerOp true) m.dim } := by
  rw [displays_run_of_writesSucceed hops hok, List.getElem?_map, hm]
  rfl

/-- Presses that the clamp leaves alone on a display, it leaves alone on its dimmer. -/
theorem Unclamped.along (hm : s.displays[i]? = some m) (hops : .reconcile ∉ ops)
    (hok : Along (step P.logged) (WritesSucceed P) s ops) (h : Unclamped P i s ops) :
    Along (dimmerOp true) (fun d op ↦ ¬ d.Clamps op) m.dim ops := by
  induction ops generalizing s m with
  | nil => trivial
  | cons op ops ih =>
      obtain ⟨hop, hops⟩ := not_or.mp (List.mem_cons.not.mp hops)
      exact ⟨h.1 m hm, ih (getElem?_step_of_writesSucceed (Ne.symm hop) hok.1 hm) hops hok.2 h.2⟩

instance (P : Provider W Ctx) (i : Nat) (s : Session (W × List (OpsEvent Ctx)) Ctx) :
    DecidablePred (Unclamped P i s) := fun ops ↦ inferInstanceAs <| Decidable <|
  Along (step P.logged) (fun s op ↦ ∀ m ∈ s.displays[i]?, ¬ m.dim.Clamps op) s ops

end Session

/-! ## Where the writes leave a display -/

/-- The display of `src` held `level`, and the writes of the log leave it at `v`: the last one that
succeeded wrote `v`, or there is none and it was there already. -/
def LeftAt (src : BrightnessSource Ctx) (level : Int) (log : List (OpsEvent Ctx)) (v : Int) :
    Prop :=
  (∃ before later, log = before ++ .set src v true :: later ∧ ∀ u, .set src u true ∉ later) ∨
  (∀ u, .set src u true ∉ log) ∧ level = v

namespace LeftAt

variable {src : BrightnessSource Ctx} {level u v : Int} {log log' : List (OpsEvent Ctx)}

theorem of_notMem (h : ∀ u, .set src u true ∉ log) : LeftAt src level log level := .inr ⟨h, rfl⟩

theorem wrote (src : BrightnessSource Ctx) (level v : Int) :
    LeftAt src level [.set src v true] v :=
  .inl ⟨[], [], rfl, fun _ ↦ List.not_mem_nil⟩

theorem append (h : LeftAt src level log u) (h' : LeftAt src u log' v) :
    LeftAt src level (log ++ log') v := by
  rcases h' with ⟨before, later, rfl, hlater⟩ | ⟨hnot', rfl⟩
  · exact .inl ⟨log ++ before, later, (List.append_assoc ..).symm, hlater⟩
  · rcases h with ⟨before, later, rfl, hlater⟩ | ⟨hnot, rfl⟩
    · refine .inl ⟨before, later ++ log', by simp, fun v hv ↦ ?_⟩
      exact (List.mem_append.mp hv).elim (hlater v) (hnot' v)
    · exact .of_notMem fun v hv ↦ (List.mem_append.mp hv).elim (hnot v) (hnot' v)

end LeftAt

/-- A pass none of whose writes fail leaves every display where its dimmer is. -/
theorem serviceDisplays_leftAt (P : Provider W Ctx) {ms : List (ManagedDisplay Ctx)}
    (hn : (ms.map (·.src)).Nodup) (w : W × List (OpsEvent Ctx)) :
    ∃ events, (Controller.serviceDisplays P.logged ms w).2.2.2 = w.2 ++ events ∧
      ((∀ e ∈ events, e.isFailedSet = false) → ∀ m ∈ ms,
        LeftAt m.src m.dim.current events (dimmerServiced m.dim true).current) ∧
      ∀ e ∈ events, e.source ∈ ms.map (·.src) := by
  induction ms generalizing w with
  | nil =>
      refine ⟨[], (List.append_nil _).symm, ?_, ?_⟩
      · exact fun _ _ hm ↦ (List.not_mem_nil hm).elim
      · exact fun _ he ↦ (List.not_mem_nil he).elim
  | cons m ms ih =>
      obtain ⟨hm, hn⟩ := List.nodup_cons.mp hn
      have hfirst : ∃ events, (Controller.serviceDisplay P.logged m w).2.2.2 = w.2 ++ events ∧
          ((∀ e ∈ events, e.isFailedSet = false) →
            LeftAt m.src m.dim.current events (dimmerServiced m.dim true).current) ∧
          ∀ e ∈ events, e.source = m.src := by
        unfold Controller.serviceDisplay dimmerServiced
        cases dimmerDue m.dim with
        | none =>
            exact ⟨[], (List.append_nil _).symm, fun _ ↦ .of_notMem fun _ ↦ List.not_mem_nil,
              fun _ he ↦ nomatch he⟩
        | some target =>
            refine ⟨[.set m.src target (P.set m.src target w.1).1], ?_, fun hok ↦ ?_, ?_⟩
            · rcases hs : P.set m.src target w.1 with ⟨_ | _, w'⟩ <;> simp [Provider.logged, hs]
            · have hset : (P.set m.src target w.1).1 = true := by
                simpa [OpsEvent.isFailedSet] using hok _ List.mem_cons_self
              rw [hset]
              exact .wrote m.src _ target
            · intro e he
              rw [List.mem_singleton.mp he]
              rfl
      obtain ⟨events, hlog, hleft, hsrc⟩ := hfirst
      obtain ⟨events', hlog', hleft', hsrc'⟩ := ih hn (Controller.serviceDisplay P.logged m w).2.2
      refine ⟨events ++ events', ?_, fun hok ↦ ?_, fun e he ↦ ?_⟩
      · rw [← List.append_assoc, ← hlog]
        exact hlog'
      · obtain ⟨hok, hok'⟩ := List.forall_mem_append.mp hok
        refine List.forall_mem_cons.mpr ⟨(hleft hok).append (.of_notMem fun u hu ↦ ?_), ?_⟩
        · exact hm (hsrc' _ hu)
        · intro m' hm'
          -- the first display is another one
          refine LeftAt.append (.of_notMem fun u hu ↦ ?_) (hleft' hok' m' hm')
          have hsame : m'.src = m.src := hsrc _ hu
          exact hm (List.mem_map.mpr ⟨m', hm', hsame⟩)
      · rw [List.map_cons, List.mem_cons]
        exact (List.mem_append.mp he).imp (hsrc e) (hsrc' e)

/-- **What a run writes** leaves each display where its dimmer is, if no write fails and no
source is managed twice. -/
theorem Session.leftAt_run {P : Provider W Ctx} {s : Session (W × List (OpsEvent Ctx)) Ctx}
    {m : ManagedDisplay Ctx} {ops : List Op} (hn : (s.displays.map (·.src)).Nodup)
    (hm : m ∈ s.displays) (hops : .reconcile ∉ ops)
    (hok : Along (step P.logged) (WritesSucceed P) s ops) :
    ∃ events, (s.run P.logged ops).world.2 = s.world.2 ++ events ∧
      LeftAt m.src m.dim.current events (ops.foldl (dimmerOp true) m.dim).current := by
  induction ops generalizing s m with
  | nil => exact ⟨[], (List.append_nil _).symm, .of_notMem fun _ ↦ List.not_mem_nil⟩
  | cons op ops ih =>
      obtain ⟨hop, hops⟩ := not_or.mp (List.mem_cons.not.mp hops)
      have hdisplays := displays_step_of_writesSucceed (Ne.symm hop) hok.1
      have hm' : { m with dim := dimmerOp true m.dim op } ∈ (s.step P.logged op).displays := by
        rw [hdisplays]
        exact List.mem_map_of_mem hm
      have hn' : ((s.step P.logged op).displays.map (·.src)).Nodup := by
        rwa [hdisplays, List.map_map]
      have hstep : ∃ events, (s.step P.logged op).world.2 = s.world.2 ++ events ∧
          LeftAt m.src m.dim.current events (dimmerOp true m.dim op).current := by
        cases op with
        | adjust f => exact ⟨[], (List.append_nil _).symm, .of_notMem fun _ ↦ List.not_mem_nil⟩
        | service =>
            obtain ⟨events, hlog, hleft, -⟩ := serviceDisplays_leftAt P hn s.world
            have hok₁ := hok.1
            rw [WritesSucceed, calls_service_eq hlog] at hok₁
            exact ⟨events, (congrArg Prod.snd (world_step_service _ s)).trans hlog,
              hleft hok₁ m hm⟩
        | reconcile => exact absurd rfl hop
      obtain ⟨events, hlog, hleft⟩ := hstep
      obtain ⟨events', hlog', hleft'⟩ := ih hn' hm' hops hok.2
      refine ⟨events ++ events', ?_, hleft.append hleft'⟩
      rw [← List.append_assoc, ← hlog]
      exact hlog'

theorem Dimmer.InRange.foldl_dimmerOp_true {d : Dimmer} (h : d.InRange) (ops : List Op) :
    (ops.foldl (dimmerOp true) d).InRange := by
  induction ops generalizing d with
  | nil => exact h
  | cons op ops ih => exact ih (h.dimmerOp_true op)

@[simp] theorem foldl_dimmerOp_max (ok : Bool) (d : Dimmer) (ops : List Op) :
    (ops.foldl (dimmerOp ok) d).max = d.max := by
  induction ops generalizing d with
  | nil => rfl
  | cons op ops ih => exact (ih _).trans (dimmerOp_max ok d op)

/-- A pass at the end of a run leaves the level where it was and nothing pending. -/
theorem Dimmer.InRange.foldl_concat_service {d : Dimmer} (h : d.InRange) (ops : List Op) :
    ((ops ++ [Op.service]).foldl (dimmerOp true) d).current =
        (ops.foldl (dimmerOp true) d).level ∧
      ((ops ++ [Op.service]).foldl (dimmerOp true) d).pendingDelta = 0 := by
  have haimed := (h.foldl_dimmerOp_true ops).aimed
  rw [List.foldl_append]
  exact ⟨haimed.current_dimmerServiced_true, haimed.pendingDelta_dimmerServiced true⟩

/-! ## Presses away from the rails -/

/-- Where nothing is clamped, the level is the sum of the steps. -/
theorem level_foldl_dimmerOp {d : Dimmer} {ops : List Op}
    (h : Along (dimmerOp true) (fun d op ↦ ¬ d.Clamps op) d ops) :
    (ops.foldl (dimmerOp true) d).level = d.level + (ops.map (Op.delta d.max)).sum := by
  induction ops generalizing d with
  | nil => exact (add_zero d.level).symm
  | cons op ops ih =>
      have ih := ih h.2
      rw [dimmerOp_max, level_dimmerOp_of_not_clamps h.1] at ih
      rw [List.foldl_cons, ih, List.map_cons, List.sum_cons, add_assoc]

/-- A press of a fraction, one of its opposite, or a pass. -/
def Op.Rocks (f : ℚ) (op : Op) : Prop := op = .adjust f ∨ op = .adjust (-f) ∨ op = .service

instance (f : ℚ) : DecidablePred (Op.Rocks f) := fun _ ↦ inferInstanceAs (Decidable (_ ∨ _ ∨ _))

theorem Op.reconcile_notMem_of_rocks {f : ℚ} {ops : List Op} (h : ∀ op ∈ ops, op.Rocks f) :
    .reconcile ∉ ops := by
  intro hm
  rcases h _ hm with h | h | h <;> cases h

/-- The steps of a fraction and of its opposite, by their numbers. -/
theorem Op.sum_delta_of_rocks {f : ℚ} (max : Int) {ops : List Op}
    (h : ∀ op ∈ ops, op.Rocks f) : (ops.map (Op.delta max)).sum =
      (ops.count (.adjust f) - ops.count (.adjust (-f))) * dimmerDeltaForFraction max f := by
  rcases eq_or_ne f 0 with rfl | hf
  · rw [neg_zero, sub_self, zero_mul]
    refine List.sum_eq_zero fun n hn ↦ ?_
    obtain ⟨op, hop, rfl⟩ := List.mem_map.mp hn
    rcases h op hop with rfl | rfl | rfl <;> simp [Op.delta]
  have hne : f ≠ -f := by
    intro he
    exact hf (by linarith)
  induction ops with
  | nil => simp
  | cons op ops ih =>
      obtain ⟨hop, h⟩ := List.forall_mem_cons.mp h
      rw [List.map_cons, List.sum_cons, ih h]
      rcases hop with rfl | rfl | rfl
      · rw [List.count_cons_self, List.count_cons_of_ne (by simpa using hne), Op.delta]
        push_cast
        ring
      · rw [List.count_cons_self, List.count_cons_of_ne (by simpa using hne.symm), Op.delta,
          dimmerDeltaForFraction_neg]
        push_cast
        ring
      · rw [List.count_cons_of_ne (by simp), List.count_cons_of_ne (by simp), Op.delta, zero_add]

/-- The steps of a display of the given maximum. -/
structure EvenSteps (max : Int) : Prop where
  sign_eq : ∀ f : ℚ, |f| ≤ 1 →
    SignType.sign (dimmerDeltaForFraction max f) = SignType.sign f
  abs_le : ∀ f : ℚ, |f| ≤ 1 → |dimmerDeltaForFraction max f| ≤ max
  neg : ∀ f : ℚ, |f| ≤ 1 → dimmerDeltaForFraction max (-f) = -dimmerDeltaForFraction max f
  mono : ∀ f g : ℚ, |f| ≤ 1 → |g| ≤ 1 → f ≤ g →
    dimmerDeltaForFraction max f ≤ dimmerDeltaForFraction max g

theorem evenSteps {max : Int} (h : 1 ≤ max) : EvenSteps max where
  sign_eq f _ := sign_dimmerDeltaForFraction (Int.le_of_lt h) f
  abs_le _ hf := abs_dimmerDeltaForFraction_le_max h hf
  neg f _ := dimmerDeltaForFraction_neg max f
  mono _ _ _ _ hfg := dimmerDeltaForFraction_mono (Int.le_of_lt h) hfg

/-- **Presses cancel.**  A step down is the step up reversed, whatever the maximum, so where no
press is clamped as many presses of a fraction as of its opposite, in any order and with passes
anywhere between them, bring a display back to the level it had. -/
theorem presses_cancel :
    (∀ max, 1 ≤ max → max ≤ 65535 → EvenSteps max) ∧
    (∀ max max' : Int, 1 ≤ max → max ≤ max' → max' ≤ 65535 → ∀ f : ℚ, 0 < f → f ≤ 1 →
      dimmerDeltaForFraction max f ≤ dimmerDeltaForFraction max' f) ∧
    ∀ (P : Provider W Ctx) (s : Session (W × List (OpsEvent Ctx)) Ctx) (i : Nat)
      (m : ManagedDisplay Ctx) (f : ℚ) (ops : List Op),
      s.displays[i]? = some m → m.dim.InRange → (∀ op ∈ ops, op.Rocks f) →
      ops.count (.adjust f) = ops.count (.adjust (-f)) →
      Along (Session.step P.logged) (Session.WritesSucceed P) s (ops ++ [.service]) →
      Session.Unclamped P i s ops →
      ∃ m', (s.run P.logged (ops ++ [.service])).displays[i]? = some m' ∧
        m'.src = m.src ∧ m'.dim.level = m.dim.level ∧ m'.dim.current = m.dim.level := by
  refine ⟨fun max h _ ↦ evenSteps h,
    fun max max' h hle _ f hf _ ↦ dimmerDeltaForFraction_mono_max (Int.le_of_lt h) hle hf, ?_⟩
  intro P s i m f ops hm hr hops hcount hok hfree
  have hnot := Op.reconcile_notMem_of_rocks hops
  have hrun := Session.getElem?_run_of_writesSucceed hm (by simpa using hnot) hok
  have hlevel := level_foldl_dimmerOp (hfree.along hm hnot (along_append.mp hok).1)
  rw [Op.sum_delta_of_rocks m.dim.max hops, hcount, sub_self, zero_mul, add_zero] at hlevel
  obtain ⟨hcurrent, hpending⟩ := hr.foldl_concat_service ops
  refine ⟨_, hrun, rfl, ?_, hcurrent.trans hlevel⟩
  rw [Dimmer.level, hcurrent, hpending, add_zero, hlevel]

/-- The display of `unevenPair` at half its maximum, up and down and back. -/
theorem presses_cancel_pair :
    EvenSteps 100 ∧ dimmerDeltaForFraction 24 (1 / 16) ≤ dimmerDeltaForFraction 100 (1 / 16) ∧
    ∃ m', (unevenPair.run willing.logged
        [.adjust (1 / 16), .adjust (-(1 / 16)), .service, .adjust (-(1 / 16)), .adjust (1 / 16),
          .service]).displays[0]? = some m' ∧
      m'.src = ⟨0, [], []⟩ ∧ m'.dim.level = 50 ∧ m'.dim.current = 50 := by
  obtain ⟨hsteps, hmono, hrun⟩ := @presses_cancel Unit Nat
  refine ⟨hsteps 100 (by decide) (by decide),
    hmono 24 100 (by decide) (by decide) (by decide) _ (by norm_num) (by norm_num), ?_⟩
  exact hrun willing unevenPair 0 ⟨⟨0, [], []⟩, ⟨50, 100, 0⟩⟩ (1 / 16)
    [.adjust (1 / 16), .adjust (-(1 / 16)), .service, .adjust (-(1 / 16)), .adjust (1 / 16)]
    rfl (by decide) (by decide +kernel) (by decide +kernel) (by decide +kernel) (by decide +kernel)

/-! ## Presses toward a rail -/

namespace Key

/-- The end of the range that the key goes to. -/
def rail : Key → Int → Int
  | up, max => max
  | down, _ => 0

/-- How far a display is from there. -/
def gap : Key → Dimmer → Int
  | up, d => d.max - d.level
  | down, d => d.level

/-- From `x` to `y` is the way of the key. -/
def Beyond : Key → Int → Int → Prop
  | up, x, y => x < y
  | down, x, y => y < x

/-- The size of a press on a display of the given maximum. -/
def stride (max : Int) : Int := dimmerDeltaForFraction max up.fraction

theorem stride_eq {max : Int} (h : 0 ≤ max) : stride max = Max.max 1 ((max + 8) / 16) := by
  have hround : lround (max * up.fraction) = (max + 8) / 16 := by
    have hq : (max : ℚ) * up.fraction + 1 / 2 = ((max + 8 : Int) : ℚ) / (16 : Nat) := by
      rw [fraction]
      push_cast
      ring
    have hnonneg : (0 : ℚ) ≤ max * up.fraction :=
      mul_nonneg (by exact_mod_cast h) (by norm_num [fraction])
    rw [lround, if_pos hnonneg, hq, Rat.floor_intCast_div_natCast]
    rfl
  rw [stride, dimmerDeltaForFraction_of_pos h (by norm_num [fraction]), hround]

/-- Twenty-three presses are no less than the whole display.  Where the rounding costs most, at a
maximum of 23, they are no more. -/
theorem le_mul_stride {max : Int} (h : 0 ≤ max) : max ≤ 23 * stride max := by
  rw [stride_eq h]
  omega

variable {k : Key} {d : Dimmer}

theorem gap_nonneg (k : Key) (h : d.InRange) : 0 ≤ k.gap d := by
  cases k with
  | up => exact Int.sub_nonneg_of_le h.2
  | down => exact h.1

theorem gap_le_max (k : Key) (h : d.InRange) : k.gap d ≤ d.max := by
  cases k with
  | up => exact Int.sub_le_self d.max h.1
  | down => exact h.2

theorem gap_eq_zero_iff : k.gap d = 0 ↔ d.level = k.rail d.max := by
  cases k with
  | up => exact Int.sub_eq_zero.trans eq_comm
  | down => exact Iff.rfl

/-- A press closes the gap by its step, or altogether. -/
theorem gap_press (k : Key) (h : d.InRange) :
    k.gap (dimmerOp true d (.adjust k.fraction)) = Max.max (k.gap d - stride d.max) 0 := by
  have hpos : 0 < stride d.max := dimmerDeltaForFraction_up_pos h.max_nonneg
  obtain ⟨h₀, h₁⟩ := h
  cases k with
  | up =>
      change d.max - (dimmerAdjust d (stride d.max)).level = Max.max (d.max - d.level - _) 0
      rw [level_dimmerAdjust, clampBrightness]
      split_ifs <;> omega
  | down =>
      have hdown : dimmerDeltaForFraction d.max down.fraction = -stride d.max :=
        dimmerDeltaForFraction_down d.max
      change (dimmerAdjust d (dimmerDeltaForFraction d.max down.fraction)).level =
        Max.max (d.level - stride d.max) 0
      rw [level_dimmerAdjust, hdown, clampBrightness]
      split_ifs <;> omega

theorem gap_pass (k : Key) (d : Dimmer) : k.gap (dimmerOp true d .service) = k.gap d := by
  cases k with
  | up =>
      change (dimmerServiced d true).max - (dimmerServiced d true).level = d.max - d.level
      rw [level_dimmerServiced_true, dimmerServiced_max]
  | down => exact level_dimmerServiced_true d

/-- A run of the key closes the gap by the steps of its presses, or altogether. -/
theorem gap_foldl {ops : List Op} (h : d.InRange) (hops : ∀ op ∈ ops, k.Plays op) :
    k.gap (ops.foldl (dimmerOp true) d) =
      Max.max (k.gap d - k.presses ops * stride d.max) 0 := by
  induction ops generalizing d with
  | nil =>
      have hgap := k.gap_nonneg h
      change k.gap d = Max.max (k.gap d - (0 : Nat) * stride d.max) 0
      omega
  | cons op ops ih =>
      obtain ⟨hop, hops⟩ := List.forall_mem_cons.mp hops
      have ih := ih (h.dimmerOp_true op) hops
      rw [dimmerOp_max] at ih
      rw [List.foldl_cons, ih]
      rcases hop with rfl | rfl
      · have hpos : 0 < stride d.max := dimmerDeltaForFraction_up_pos h.max_nonneg
        have hmul : 0 ≤ (k.presses ops : Int) * stride d.max :=
          mul_nonneg (Int.natCast_nonneg _) hpos.le
        rw [k.gap_press h, k.presses_press]
        push_cast
        rw [add_mul, one_mul]
        omega
      · rw [k.gap_pass, k.presses_pass]

/-- So many presses of the key, in any schedule of passes that succeed and with one more of them
at the end, leave every display exactly at the rail: by its dimmer, and by what was written to it
if it was at its recorded current before.  The latter is said of sources that are not managed
twice, as sources with different ids never are. -/
def Suffices (k : Key) (n : Nat) : Prop :=
  ∀ {W Ctx : Type} (P : Provider W Ctx) (s : Session (W × List (OpsEvent Ctx)) Ctx) (i : Nat)
    (m : ManagedDisplay Ctx) (ops : List Op),
    s.displays[i]? = some m → m.dim.InRange → 1 ≤ m.dim.max → m.dim.max ≤ 65535 →
    (∀ op ∈ ops, k.Plays op) → k.presses ops = n →
    Along (Session.step P.logged) (Session.WritesSucceed P) s (ops ++ [.service]) →
    ∃ m', (s.run P.logged (ops ++ [.service])).displays[i]? = some m' ∧ m'.src = m.src ∧
      m'.dim.current = k.rail m.dim.max ∧ m'.dim.pendingDelta = 0 ∧
      ((s.displays.map (·.src)).Nodup → ∃ events,
        (s.run P.logged (ops ++ [.service])).world.2 = s.world.2 ++ events ∧
        LeftAt m.src m.dim.current events (k.rail m.dim.max))

theorem reconcile_notMem_of_plays {ops : List Op} (h : ∀ op ∈ ops, k.Plays op) :
    .reconcile ∉ ops := by
  intro hm
  rcases h _ hm with h | h <;> cases h

theorem suffices_of_le {n : Nat} (k : Key) (h : 23 ≤ n) : k.Suffices n := by
  intro W Ctx P s i m ops hm hr hmax _ hops hn hok
  have hnot : Op.reconcile ∉ ops ++ [.service] := by
    simpa using k.reconcile_notMem_of_plays hops
  obtain ⟨hcurrent, hpending⟩ := hr.foldl_concat_service ops
  have hzero : k.gap (ops.foldl (dimmerOp true) m.dim) = 0 := by
    have hgap := k.gap_le_max hr
    have hmul : 23 * stride m.dim.max ≤ n * stride m.dim.max :=
      mul_le_mul_of_nonneg_right (by exact_mod_cast h)
        (dimmerDeltaForFraction_up_pos hr.max_nonneg).le
    have hcover := le_mul_stride hr.max_nonneg
    rw [k.gap_foldl hr hops, hn]
    omega
  rw [k.gap_eq_zero_iff.mp hzero, foldl_dimmerOp_max] at hcurrent
  refine ⟨_, Session.getElem?_run_of_writesSucceed hm hnot hok, rfl, hcurrent, hpending, ?_⟩
  intro hsrc
  obtain ⟨events, hlog, hleft⟩ := Session.leftAt_run hsrc (List.mem_of_getElem? hm) hnot hok
  exact ⟨events, hlog, hcurrent ▸ hleft⟩

/-! ### No fewer will do -/

/-- The display of maximum 23 that is furthest from the rail. -/
def furthest (k : Key) : Dimmer := ⟨23 - k.rail 23, 23, 0⟩

/-- A session that manages it alone. -/
def lone (k : Key) : Session (Unit × List (OpsEvent Nat)) Nat where
  controller := some
    { sources := [⟨0, [], []⟩]
      displays := [⟨⟨0, [], []⟩, k.furthest⟩] }
  world := ((), [])
  serviced := []

end Key

theorem serviceDisplays_no_failedSet {P : Provider W Ctx}
    (hP : ∀ src v w, (P.set src v w).1 = true) (ms : List (ManagedDisplay Ctx))
    (w : W × List (OpsEvent Ctx)) :
    ∃ events, (Controller.serviceDisplays P.logged ms w).2.2.2 = w.2 ++ events ∧
      ∀ e ∈ events, e.isFailedSet = false := by
  induction ms generalizing w with
  | nil => exact ⟨[], (List.append_nil _).symm, fun _ he ↦ nomatch he⟩
  | cons m ms ih =>
      have hfirst : ∃ events, (Controller.serviceDisplay P.logged m w).2.2.2 = w.2 ++ events ∧
          ∀ e ∈ events, e.isFailedSet = false := by
        unfold Controller.serviceDisplay
        cases dimmerDue m.dim with
        | none => exact ⟨[], (List.append_nil _).symm, fun _ he ↦ nomatch he⟩
        | some target =>
            refine ⟨[.set m.src target true], ?_, fun e he ↦ ?_⟩
            · simp [Provider.logged, hP]
            · rw [List.mem_singleton.mp he]
              rfl
      obtain ⟨events, hlog, hno⟩ := hfirst
      obtain ⟨events', hlog', hno'⟩ := ih (Controller.serviceDisplay P.logged m w).2.2
      refine ⟨events ++ events', ?_, fun e he ↦ (List.mem_append.mp he).elim (hno e) (hno' e)⟩
      rw [← List.append_assoc, ← hlog]
      exact hlog'

/-- Where every write is taken, none of a run fails. -/
theorem Session.along_writesSucceed {P : Provider W Ctx}
    (hP : ∀ src v w, (P.set src v w).1 = true) (s : Session (W × List (OpsEvent Ctx)) Ctx)
    {ops : List Op} (hops : .reconcile ∉ ops) :
    Along (step P.logged) (WritesSucceed P) s ops := by
  induction ops generalizing s with
  | nil => trivial
  | cons op ops ih =>
      obtain ⟨hop, hops⟩ := not_or.mp (List.mem_cons.not.mp hops)
      refine ⟨?_, ih _ hops⟩
      cases op with
      | adjust f =>
          intro e he
          rw [calls_adjust] at he
          cases he
      | service =>
          obtain ⟨events, hlog, hno⟩ := serviceDisplays_no_failedSet hP s.displays s.world
          rw [WritesSucceed, calls_service_eq hlog]
          exact hno
      | reconcile => exact absurd rfl hop

namespace Key

/-- Fewer presses leave a display of maximum 23 short of the rail. -/
theorem le_of_suffices {k : Key} {n : Nat} (h : k.Suffices n) : 23 ≤ n := by
  have hm : k.lone.displays[0]? = some ⟨⟨0, [], []⟩, k.furthest⟩ := rfl
  have hr : k.furthest.InRange := by cases k <;> decide
  have hgap : k.gap k.furthest = 23 := by cases k <;> rfl
  have hplays : ∀ op ∈ List.replicate n (Op.adjust k.fraction), k.Plays op := by
    intro op hop
    exact .inl (List.eq_of_mem_replicate hop)
  have hn : k.presses (List.replicate n (.adjust k.fraction)) = n := List.count_replicate_self
  have hnot : Op.reconcile ∉ List.replicate n (.adjust k.fraction) ++ [.service] := by simp
  have hok := k.lone.along_writesSucceed (P := willing) (fun _ _ _ ↦ rfl) hnot
  obtain ⟨m', hm', -, hcurrent, -⟩ :=
    h willing k.lone 0 _ _ hm hr (by decide : (1 : Int) ≤ 23) (by decide : (23 : Int) ≤ 65535)
      hplays hn hok
  cases (Session.getElem?_run_of_writesSucceed hm hnot hok).symm.trans hm'
  have hzero : k.gap ((List.replicate n (Op.adjust k.fraction)).foldl (dimmerOp true)
      k.furthest) = 0 := by
    rw [k.gap_eq_zero_iff, foldl_dimmerOp_max]
    exact (hr.foldl_concat_service _).1.symm.trans hcurrent
  have hstride : stride k.furthest.max = 1 := stride_eq (by decide : (0 : Int) ≤ 23)
  rw [k.gap_foldl hr hplays, hn, hgap, hstride] at hzero
  omega

theorem beyond_press (k : Key) {d : Dimmer} (h : d.InRange) (hne : d.level ≠ k.rail d.max) :
    k.Beyond d.level (dimmerOp true d (.adjust k.fraction)).level := by
  have hgap := k.gap_press h
  have hpos : 0 < stride d.max := dimmerDeltaForFraction_up_pos h.max_nonneg
  have hnonneg := k.gap_nonneg h
  have hne := mt k.gap_eq_zero_iff.mp hne
  cases k with
  | up =>
      change d.max - _ = Max.max (d.max - d.level - _) 0 at hgap
      change 0 ≤ d.max - d.level at hnonneg
      change ¬ d.max - d.level = 0 at hne
      change d.level < _
      omega
  | down =>
      change (dimmerOp true d (.adjust down.fraction)).level = Max.max (d.level - _) 0 at hgap
      change 0 ≤ d.level at hnonneg
      change ¬ d.level = 0 at hne
      change _ < d.level
      omega

end Key

/-- **The rails are within reach.**  Twenty-three presses of a key, and no fewer, take every
display to the rail of the key, where the last write leaves it, and on the way there no press is
lost. -/
theorem rails_within_reach (k : Key) :
    IsLeast {n | k.Suffices n} 23 ∧
    ∀ (P : Provider W Ctx) (s : Session (W × List (OpsEvent Ctx)) Ctx) (i : Nat)
      (m : ManagedDisplay Ctx) (ops : List Op),
      s.displays[i]? = some m → m.dim.InRange → 1 ≤ m.dim.max → m.dim.max ≤ 65535 →
      .reconcile ∉ ops → Along (Session.step P.logged) (Session.WritesSucceed P) s ops →
      ∃ m' m'', (s.run P.logged ops).displays[i]? = some m' ∧
        (s.run P.logged (ops ++ [.adjust k.fraction])).displays[i]? = some m'' ∧
        (m'.dim.level ≠ k.rail m.dim.max → k.Beyond m'.dim.level m''.dim.level) := by
  refine ⟨⟨k.suffices_of_le (Nat.le_refl 23), fun n hn ↦ Key.le_of_suffices hn⟩, ?_⟩
  intro P s i m ops hm hr hmax _ hops hok
  have hrun := Session.getElem?_run_of_writesSucceed hm hops hok
  refine ⟨_, Controller.adjustDisplay k.fraction { m with dim := ops.foldl (dimmerOp true) m.dim },
    hrun, ?_, fun hne ↦ k.beyond_press (hr.foldl_dimmerOp_true ops) ?_⟩
  · rw [Session.run_append, Session.run_cons, Session.run_nil, Session.displays_step_adjust,
      List.getElem?_map, hrun]
    rfl
  · rwa [foldl_dimmerOp_max]

theorem rails_within_reach_lone :
    (∃ m', (Key.up.lone.run willing.logged
        (List.replicate 23 (.adjust (1 / 16)) ++ [.service])).displays[0]? = some m' ∧
      m'.src = ⟨0, [], []⟩ ∧ m'.dim.current = 23 ∧ m'.dim.pendingDelta = 0) ∧
    LeftAt ⟨0, [], []⟩ 0 (Key.up.lone.run willing.logged
      (List.replicate 23 (.adjust (1 / 16)) ++ [.service])).world.2 23 ∧
    ∃ m' m'', (Key.up.lone.run willing.logged []).displays[0]? = some m' ∧
      (Key.up.lone.run willing.logged [.adjust (1 / 16)]).displays[0]? = some m'' ∧
      (m'.dim.level ≠ 23 → m'.dim.level < m''.dim.level) := by
  obtain ⟨⟨hsuffices, -⟩, hpress⟩ := @rails_within_reach Unit Nat .up
  have hr : Key.up.furthest.InRange := by decide
  have hplays : ∀ op ∈ List.replicate 23 (Op.adjust (1 / 16)), Key.up.Plays op :=
    fun _ hop ↦ .inl (List.eq_of_mem_replicate hop)
  obtain ⟨m', hm', hsrc, hcurrent, hpending, hlast⟩ :=
    hsuffices willing Key.up.lone 0 _ _ rfl hr (by decide : (1 : Int) ≤ 23)
      (by decide : (23 : Int) ≤ 65535) hplays List.count_replicate_self
      (Key.up.lone.along_writesSucceed (fun _ _ _ ↦ rfl) (by simp))
  obtain ⟨events, hlog, hleft⟩ := hlast (List.nodup_singleton _)
  refine ⟨⟨m', hm', hsrc, hcurrent, hpending⟩, ?_, ?_⟩
  · rw [hlog]
    exact hleft
  · exact hpress willing Key.up.lone 0 _ [] rfl hr (by decide : (1 : Int) ≤ 23)
      (by decide : (23 : Int) ≤ 65535) List.not_mem_nil trivial

end Dimmit
