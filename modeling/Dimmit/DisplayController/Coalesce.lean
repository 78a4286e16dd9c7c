import Mathlib.Data.List.Induction
import Dimmit.DisplayController.Lockstep

/-!
# Coalescing presses

The worker of the daemon captures a target with `dimmer_due`, writes it to a slow bus and then
records it with `dimmer_commit`, while presses keep landing through `dimmer_adjust`.  The
specification knows nothing of this: it is the *eager* display, which moves at every press.
`Worker.Tracks` says that the coalescing dimmer is always heading for the level the eager
display is at, and every step of the worker preserves it.
-/

namespace Dimmit

open Run

/-- The level of an eager display after a sequence of presses: each one moves it, clamped. -/
def pressedLevel (max start : Int) (deltas : List Int) : Int :=
  deltas.foldl (fun level delta ↦ clampBrightness (level + delta) max) start

theorem pressedLevel_append_singleton (max start : Int) (deltas : List Int) (delta : Int) :
    pressedLevel max start (deltas ++ [delta]) =
      clampBrightness (pressedLevel max start deltas + delta) max := by
  simp [pressedLevel, List.foldl_append]

/-! ## One dimmer and its worker -/

/-- A dimmer and the target its worker is writing, if it is writing one. -/
structure Worker where
  dim : Dimmer
  captured : Option Int
deriving DecidableEq, Repr

namespace Worker

/-- What happens to a dimmer while its worker runs. -/
inductive Act where
  /-- A press lands through `dimmer_adjust`. -/
  | press (delta : Int)
  /-- The worker, if it is idle, asks `dimmer_due` for a target. -/
  | capture
  /-- The worker, if it is writing, has written and records the target with `dimmer_commit`. -/
  | record
deriving DecidableEq, Repr

def step (s : Worker) : Act → Worker
  | .press delta => { s with dim := dimmerAdjust s.dim delta }
  | .capture =>
    match s.captured with
    | none => { s with captured := dimmerDue s.dim }
    | some _ => s
  | .record =>
    match s.captured with
    | none => s
    | some target => { dim := dimmerCommit s.dim target, captured := none }

def run (s : Worker) (acts : List Act) : Worker := acts.foldl step s

/-- A display read at `start`, with an idle worker. -/
def idle (max start : Int) : Worker := { dim := dimmerInit start max, captured := none }

/-- Let the write in flight finish, then write once more with no press in between. -/
def drain (s : Worker) : Worker := s.run [.record, .capture, .record]

/-- The presses of a schedule, in order. -/
def presses (acts : List Act) : List Int :=
  acts.filterMap fun
    | .press delta => some delta
    | .capture | .record => none

/-- The schedule that writes after each press. -/
def eager (deltas : List Int) : List Act :=
  deltas.flatMap fun delta ↦ [.press delta, .capture, .record]

@[simp] theorem presses_eager (deltas : List Int) : presses (eager deltas) = deltas := by
  induction deltas with
  | nil => rfl
  | cons delta deltas ih => exact congrArg (delta :: ·) ih

theorem eager_append_singleton (deltas : List Int) (delta : Int) :
    eager (deltas ++ [delta]) = eager deltas ++ [.press delta, .capture, .record] := by
  simp [eager]

theorem run_append (s : Worker) (acts acts' : List Act) :
    s.run (acts ++ acts') = (s.run acts).run acts' := List.foldl_append

theorem captured_record (s : Worker) : (s.step .record).captured = none := by
  obtain ⟨d, _ | target⟩ := s <;> rfl

/-- The dimmer is heading for where the eager display is.  Until the first press `current` may
lie outside the range, but then nothing is pending or captured. -/
structure Tracks (max start : Int) (deltas : List Int) (s : Worker) : Prop where
  max_eq : s.dim.max = max
  level_eq : s.dim.level = pressedLevel max start deltas
  aimed : s.dim.InRange ∨ s.dim.pendingDelta = 0 ∧ s.captured = none

namespace Tracks

variable {max start : Int} {deltas : List Int} {s : Worker}

theorem of_aimed {d : Dimmer} (h : d.Aimed) : Tracks d.max d.level [] (Worker.mk d none) where
  max_eq := rfl
  level_eq := rfl
  aimed := h.elim (fun hp ↦ .inr ⟨hp, rfl⟩) .inl

theorem idle (max start : Int) : Tracks max start [] (Worker.idle max start) where
  max_eq := rfl
  level_eq := level_dimmerInit start max
  aimed := .inr ⟨rfl, rfl⟩

theorem dim_aimed (h : Tracks max start deltas s) : s.dim.Aimed :=
  h.aimed.elim .inr fun hu ↦ .inl hu.1

theorem press (hmax : 0 ≤ max) (h : Tracks max start deltas s) (delta : Int) :
    Tracks max start (deltas ++ [delta]) (s.step (.press delta)) where
  max_eq := h.max_eq
  level_eq := by
    rw [pressedLevel_append_singleton, ← h.level_eq, ← h.max_eq]
    exact level_dimmerAdjust s.dim delta
  aimed := .inl (inRange_dimmerAdjust (h.max_eq ▸ hmax) delta)

theorem capture (h : Tracks max start deltas s) : Tracks max start deltas (s.step .capture) := by
  obtain ⟨d, _ | target⟩ := s
  · refine ⟨h.max_eq, h.level_eq, ?_⟩
    rcases h.aimed with hr | ⟨hp, -⟩
    · exact .inl hr
    · -- nothing pending, so nothing is captured
      exact .inr ⟨hp, if_pos hp⟩
  · exact h

theorem record (h : Tracks max start deltas s) : Tracks max start deltas (s.step .record) := by
  obtain ⟨d, _ | target⟩ := s
  · exact h
  · have hl : (dimmerCommit d target).level = d.level := level_dimmerCommit d target
    have hr : d.InRange := h.aimed.resolve_right fun hu ↦ nomatch hu.2
    refine ⟨h.max_eq, hl.trans h.level_eq, .inl ?_⟩
    change 0 ≤ (dimmerCommit d target).level ∧ (dimmerCommit d target).level ≤ d.max
    rw [hl]
    exact hr

/-- **Every schedule tracks the eager display.** -/
theorem run (hmax : 0 ≤ max) (acts : List Act) (h : Tracks max start deltas s) :
    Tracks max start (deltas ++ presses acts) (s.run acts) := by
  induction acts generalizing s deltas with
  | nil => simpa [presses, Worker.run] using h
  | cons act acts ih =>
      cases act with
      | press delta =>
          have h' := ih (h.press hmax delta)
          rwa [List.append_assoc] at h'
      | capture => exact ih h.capture
      | record => exact ih h.record

/-- Once the write in flight is over, writing again with no press in between takes the display
to where it was heading. -/
theorem current_drain (h : Tracks max start deltas s) :
    s.drain.dim.current = pressedLevel max start deltas := by
  have h' := h.record
  have hidle := captured_record s
  rw [← h'.level_eq]
  change (((s.step .record).step .capture).step .record).dim.current = _
  generalize s.step .record = s' at h' hidle ⊢
  obtain ⟨d, captured⟩ := s'
  cases hidle
  have hdue := h'.dim_aimed.dimmerDue_eq
  change ((Worker.mk d (dimmerDue d)).step .record).dim.current = d.level
  by_cases hp : d.pendingDelta = 0
  · rw [hdue, if_pos hp]
    change d.current = d.level
    simp [Dimmer.level, hp]
  · rw [hdue, if_neg hp]
    rfl

end Tracks

theorem captured_run_eager (deltas : List Int) {s : Worker} (h : s.captured = none) :
    (s.run (eager deltas)).captured = none := by
  induction deltas generalizing s with
  | nil => exact h
  | cons delta deltas ih => exact ih (captured_record _)

/-- A worker that is not writing has nothing to finish before it captures. -/
theorem drain_eq {s : Worker} (h : s.captured = none) : s.drain = s.run [.capture, .record] := by
  obtain ⟨d, captured⟩ := s
  cases h
  rfl

/-- Writing after each press keeps the display itself at the eager level. -/
theorem current_run_eager {max : Int} (hmax : 0 ≤ max) (start : Int) (deltas : List Int) :
    ((idle max start).run (eager deltas)).dim.current = pressedLevel max start deltas := by
  induction deltas using List.reverseRecOn with
  | nil => rfl
  | append_singleton deltas delta _ =>
      have h := ((Tracks.idle max start).run hmax (eager deltas)).press hmax delta
      rw [presses_eager, List.nil_append] at h
      have hidle : (((idle max start).run (eager deltas)).step (.press delta)).captured = none :=
        captured_run_eager deltas rfl
      rw [← h.current_drain, drain_eq hidle, eager_append_singleton, run_append]
      rfl

end Worker

/-! ## Every display of a controller -/

/-- The presses among a sequence of operations, as fractions. -/
def fractions (ops : List Op) : List ℚ :=
  ops.filterMap fun
    | .adjust fraction => some fraction
    | .service | .reconcile => none

/-- The worker's schedule that a sequence of operations is for a display with maximum `max`. -/
def schedule (max : Int) (ops : List Op) : List Worker.Act :=
  ops.flatMap fun
    | .adjust fraction => [.press (dimmerDeltaForFraction max fraction)]
    | .service => [.capture, .record]
    | .reconcile => []

theorem presses_schedule (max : Int) (ops : List Op) :
    Worker.presses (schedule max ops) = (fractions ops).map (dimmerDeltaForFraction max) := by
  induction ops with
  | nil => rfl
  | cons op ops ih =>
      cases op with
      | adjust fraction => exact congrArg (dimmerDeltaForFraction max fraction :: ·) ih
      | service => exact ih
      | reconcile => exact ih

/-- A dimmer under operations whose writes succeed is a dimmer under its worker. -/
theorem foldl_dimmerOp (d : Dimmer) (ops : List Op) :
    Worker.mk (ops.foldl (dimmerOp true) d) none =
      (Worker.mk d none).run (schedule d.max ops) := by
  induction ops generalizing d with
  | nil => rfl
  | cons op ops ih =>
      rw [List.foldl_cons, ih]
      cases op with
      | adjust fraction => rfl
      | service =>
          change _ = ((Worker.mk d (dimmerDue d)).step .record).run (schedule d.max ops)
          rw [dimmerOp, dimmerServiced_max, dimmerServiced]
          cases dimmerDue d <;> rfl
      | reconcile => rfl

/-- **Coalescing never changes where brightness ends up.**

For one dimmer under any schedule of its worker: the level is that of the eager display at
every moment; writing once more with no press in between takes the display there; so two
schedules of the same presses end alike, and like the schedule that writes after each press.
For a controller driven by `controller_adjust` and `controller_service` in any order, from a
controller just opened or from any later one, in a run in which no write fails, the same holds of
every display, whose presses are the fractions of its own maximum. -/
theorem coalescing_keeps_target :
    (∀ max start : Int, 0 ≤ max →
      (∀ acts, ((Worker.idle max start).run acts).dim.level =
          pressedLevel max start (Worker.presses acts)) ∧
      (∀ acts, ((Worker.idle max start).run acts).drain.dim.current =
          pressedLevel max start (Worker.presses acts)) ∧
      (∀ acts acts', Worker.presses acts = Worker.presses acts' →
        ((Worker.idle max start).run acts).drain.dim.current =
          ((Worker.idle max start).run acts').drain.dim.current) ∧
      (∀ acts, ((Worker.idle max start).run acts).drain.dim.current =
          ((Worker.idle max start).run (Worker.eager (Worker.presses acts))).dim.current)) ∧
    (∀ (W Ctx : Type) (P : Provider W Ctx) (s : Session (W × List (OpsEvent Ctx)) Ctx)
      (ops : List Op), .reconcile ∉ ops →
      Along (Session.step P.logged) (Session.WritesSucceed P) s ops →
      (∀ m ∈ s.displays, 0 ≤ m.dim.max ∧ m.dim.Aimed) →
      (s.run P.logged ops).displays.map (fun m ↦ (m.src, m.dim.level)) =
        s.displays.map (fun m ↦ (m.src, pressedLevel m.dim.max m.dim.level
          ((fractions ops).map (dimmerDeltaForFraction m.dim.max)))) ∧
      ((s.run P.logged ops).WritesSucceed P .service →
        (s.run P.logged (ops ++ [.service])).displays.map (fun m ↦ (m.src, m.dim.current)) =
          s.displays.map (fun m ↦ (m.src, pressedLevel m.dim.max m.dim.level
            ((fractions ops).map (dimmerDeltaForFraction m.dim.max)))))) := by
  constructor
  · intro max start hmax
    have htracks := fun acts ↦ (Worker.Tracks.idle max start).run hmax acts
    have hcurrent := fun acts ↦ (htracks acts).current_drain
    refine ⟨fun acts ↦ (htracks acts).level_eq, hcurrent, ?_, ?_⟩
    · intro acts acts' h
      rw [hcurrent, hcurrent, h]
    · intro acts
      rw [hcurrent, Worker.current_run_eager hmax]
      rfl
  · intro W Ctx P s ops hops hok hs
    have htracks : ∀ m ∈ s.displays,
        Worker.Tracks m.dim.max m.dim.level
          ((fractions ops).map (dimmerDeltaForFraction m.dim.max))
          (Worker.mk (ops.foldl (dimmerOp true) m.dim) none) := by
      intro m hm
      obtain ⟨hmax, haimed⟩ := hs m hm
      have h := (Worker.Tracks.of_aimed haimed).run hmax (schedule m.dim.max ops)
      rwa [presses_schedule, ← foldl_dimmerOp] at h
    constructor
    · rw [Session.displays_run_of_writesSucceed hops hok, List.map_map]
      exact List.map_congr_left fun m hm ↦ congrArg (m.src, ·) (htracks m hm).level_eq
    · intro hlast
      have hops' : Op.reconcile ∉ ops ++ [.service] := by simpa using hops
      have hok' : Along (Session.step P.logged) (Session.WritesSucceed P) s (ops ++ [.service]) :=
        along_append.mpr ⟨hok, hlast, trivial⟩
      rw [Session.displays_run_of_writesSucceed hops' hok', List.map_map]
      refine List.map_congr_left fun m hm ↦ congrArg (m.src, ·) ?_
      change ((ops ++ [Op.service]).foldl (dimmerOp true) m.dim).current = _
      rw [List.foldl_append]
      exact (htracks m hm).dim_aimed.current_dimmerServiced_true.trans (htracks m hm).level_eq

/-- A provider over which the writing of 0 fails, and of nothing else. -/
def zeroFails : Provider Unit Nat where
  enumerate w := (some [], w)
  get _ w := (none, w)
  set _ v w := (v ≠ 0, w)
  close _ w := w
  calloc w := (true, w)

/-- A press that crosses the rail while a write is in flight, and a session with two displays. -/
theorem coalescing_keeps_target_mid_write :
    let s : Session (Unit × List (OpsEvent Nat)) Nat :=
      { controller := some
          { sources := [⟨0, [], []⟩, ⟨1, [], []⟩]
            displays := [⟨⟨0, [], []⟩, ⟨50, 100, 0⟩⟩, ⟨⟨1, [], []⟩, ⟨20, 255, 0⟩⟩] }
        world := ((), []), serviced := [] }
    let ops : List Op := [.adjust (-1 / 16), .service, .adjust (1 / 16)]
    ((Worker.idle 100 98).run [.press (-5), .capture, .press 9, .record]).drain.dim.current = 100 ∧
    (s.run zeroFails.logged (ops ++ [.service])).displays.map (fun m ↦ (m.src, m.dim.current)) =
      [((⟨0, [], []⟩ : BrightnessSource Nat), 50), (⟨1, [], []⟩, 20)] := by
  intro s ops
  have hok : Along (Session.step zeroFails.logged) (Session.WritesSucceed zeroFails) s ops := by
    decide +kernel
  have hlast : (s.run zeroFails.logged ops).WritesSucceed zeroFails .service := by decide +kernel
  constructor
  · exact (coalescing_keeps_target.1 100 98 (by decide)).2.1
      [.press (-5), .capture, .press 9, .record]
  · have hcurrent := (coalescing_keeps_target.2 Unit Nat zeroFails s ops (by decide) hok
      (by decide)).2 hlast
    exact hcurrent.trans (by decide +kernel)

end Dimmit
