import Dimmit.DisplayController
import Dimmit.Lib.Related
import Mathlib.Data.List.Nodup

/-!
# Runs of the controller

The daemon opens a controller once and then adjusts, services and reconciles it in whatever
order presses, worker and idle ticks come.  A `Session` is a controller together with the
world it runs in, and a run is a list of operations.

The rest of the file is what every operation does to the shape of the controller: the two
arrays stay parallel, a press touches no source, and no operation but a service pass writes.
-/

namespace Dimmit

variable {W Ctx : Type}

/-- An operation on an open controller. -/
inductive Op where
  /-- `controller_adjust` by a fraction. -/
  | adjust (fraction : ℚ)
  /-- `controller_service`. -/
  | service
  /-- `controller_reconcile`. -/
  | reconcile
deriving DecidableEq, Repr

/-- What an operation does to a kept dimmer, when its write, if one is due, ends with `ok`. -/
def dimmerOp (ok : Bool) (d : Dimmer) : Op → Dimmer
  | .adjust fraction => dimmerAdjust d (dimmerDeltaForFraction (dimmerMax d) fraction)
  | .service => dimmerServiced d ok
  | .reconcile => d

/-- A controller in its world, with the results `controller_service` has returned so far. -/
structure Session (W Ctx : Type) where
  controller : Option (Controller Ctx)
  world : W
  serviced : List Nat
deriving DecidableEq, Repr

namespace Session

/-- The session `controller_open` starts. -/
def start (P : Provider W Ctx) (w : W) : Session W Ctx :=
  let (c, w) := controllerOpen P w
  { controller := c, world := w, serviced := [] }

/-- One operation. -/
def step (P : Provider W Ctx) (s : Session W Ctx) : Op → Session W Ctx
  | .adjust fraction => { s with controller := controllerAdjust s.controller fraction }
  | .service =>
    let (c, applied, w) := controllerService P s.controller s.world
    { controller := c, world := w, serviced := s.serviced ++ [applied] }
  | .reconcile =>
    let (c, w) := controllerReconcile P s.controller s.world
    { s with controller := c, world := w }

/-- A sequence of operations. -/
def run (P : Provider W Ctx) (s : Session W Ctx) (ops : List Op) : Session W Ctx :=
  ops.foldl (step P) s

/-- The sessions a run of operations leads to from `controller_open`. -/
def Reachable (P : Provider W Ctx) (s : Session W Ctx) : Prop :=
  ∃ w ops, s = (start P w).run P ops

/-- The sources of the controller, none for the null pointer. -/
def sources (s : Session W Ctx) : List (BrightnessSource Ctx) :=
  (s.controller.map Controller.sources).getD []

/-- The managed displays, none for the null pointer. -/
def displays (s : Session W Ctx) : List (ManagedDisplay Ctx) :=
  (s.controller.map Controller.displays).getD []

@[simp] theorem run_nil (P : Provider W Ctx) (s : Session W Ctx) : s.run P [] = s := rfl

@[simp] theorem run_cons (P : Provider W Ctx) (s : Session W Ctx) (op : Op) (ops : List Op) :
    s.run P (op :: ops) = (s.step P op).run P ops := rfl

theorem run_append (P : Provider W Ctx) (s : Session W Ctx) (ops ops' : List Op) :
    s.run P (ops ++ ops') = (s.run P ops).run P ops' := List.foldl_append

section Step

variable (P : Provider W Ctx) (s : Session W Ctx) (f : ℚ)

@[simp] theorem displays_step_adjust :
    (s.step P (.adjust f)).displays = s.displays.map (Controller.adjustDisplay f) := by
  obtain ⟨_ | c, w, results⟩ := s <;> rfl

@[simp] theorem world_step_adjust : (s.step P (.adjust f)).world = s.world := rfl

@[simp] theorem serviced_step_adjust : (s.step P (.adjust f)).serviced = s.serviced := rfl

@[simp] theorem displays_step_service :
    (s.step P .service).displays = (Controller.serviceDisplays P s.displays s.world).1 := by
  obtain ⟨_ | c, w, results⟩ := s <;> rfl

@[simp] theorem world_step_service :
    (s.step P .service).world = (Controller.serviceDisplays P s.displays s.world).2.2 := by
  obtain ⟨_ | c, w, results⟩ := s <;> rfl

@[simp] theorem serviced_step_service : (s.step P .service).serviced =
    s.serviced ++ [(Controller.serviceDisplays P s.displays s.world).2.1] := by
  obtain ⟨_ | c, w, results⟩ := s <;> rfl

@[simp] theorem serviced_step_reconcile : (s.step P .reconcile).serviced = s.serviced := rfl

end Step

/-- **The invariant rule.**  What `controller_open` establishes and each operation on an open
controller preserves holds after every run. -/
theorem run_induction {P : Provider W Ctx} {I : Controller Ctx → W → Prop}
    (adjust : ∀ c w f, I c w → I (c.adjust f) w)
    (service : ∀ c w, I c w → I (c.service P w).1 (c.service P w).2.2)
    (reconcile : ∀ c w, I c w → I (c.reconcile P w).1 (c.reconcile P w).2)
    (ops : List Op) {s : Session W Ctx} (h : ∀ c ∈ s.controller, I c s.world) :
    ∀ c ∈ (s.run P ops).controller, I c (s.run P ops).world := by
  induction ops generalizing s with
  | nil => exact h
  | cons op ops ih =>
      apply ih
      obtain ⟨_ | c, w, results⟩ := s
      · cases op <;> intro c hc <;> cases hc
      · have hc : I c w := h c rfl
        cases op with
        | adjust f => rintro _ ⟨⟩; exact adjust c w f hc
        | service => rintro _ ⟨⟩; exact service c w hc
        | reconcile => rintro _ ⟨⟩; exact reconcile c w hc

end Session

/-- The first dimmer of a display is made from the answer to its reading. -/
theorem initialDimmer_fst (P : Provider W Ctx) (s : BrightnessSource Ctx) (w : W) :
    (initialDimmer P s w).1 =
      (P.get s w).1.elim (dimmerInit 0 100) fun reading ↦ dimmerInit reading.1 reading.2 := by
  unfold initialDimmer
  rcases P.get s w with ⟨_ | _, _⟩ <;> rfl

/-! ## The arrays stay parallel -/

/-- `displays[i].src` is `sources[i]`. -/
def Controller.Parallel (c : Controller Ctx) : Prop := c.displays.map (·.src) = c.sources

theorem openDisplays_map_src (P : Provider W Ctx) (sources : List (BrightnessSource Ctx))
    (w : W) : (openDisplays P sources w).1.map (·.src) = sources := by
  induction sources generalizing w with
  | nil => rfl
  | cons s sources ih => exact congrArg (s :: ·) (ih _)

namespace Controller

@[simp] theorem serviceDisplay_src (P : Provider W Ctx) (m : ManagedDisplay Ctx) (w : W) :
    (serviceDisplay P m w).1.src = m.src := by
  unfold serviceDisplay
  split
  · rfl
  · split <;> rfl

theorem serviceDisplays_map_src (P : Provider W Ctx) (displays : List (ManagedDisplay Ctx))
    (w : W) : (serviceDisplays P displays w).1.map (·.src) = displays.map (·.src) := by
  induction displays generalizing w with
  | nil => rfl
  | cons m displays ih =>
      change (serviceDisplay P m w).1.src :: (serviceDisplays P displays _).1.map (·.src) = _
      rw [serviceDisplay_src, ih, List.map_cons]

theorem nextDisplays_map_src (P : Provider W Ctx) (c : Controller Ctx)
    (fresh : List (BrightnessSource Ctx)) (w : W) :
    (nextDisplays P c fresh w).1.map (·.src) = fresh := by
  induction fresh generalizing w with
  | nil => rfl
  | cons s fresh ih =>
      rw [nextDisplays]
      split
      · exact congrArg (s :: ·) (ih _)
      · exact congrArg (s :: ·) (ih _)

namespace Parallel

variable {c : Controller Ctx}

theorem adjust (h : c.Parallel) (f : ℚ) : (c.adjust f).Parallel := by
  unfold Parallel at h ⊢
  rw [Controller.adjust, List.map_map]
  exact h

theorem service (h : c.Parallel) (P : Provider W Ctx) (w : W) : (c.service P w).1.Parallel :=
  (serviceDisplays_map_src P c.displays w).trans h

theorem adopt (P : Provider W Ctx) (c : Controller Ctx) (fresh : List (BrightnessSource Ctx))
    (w : W) : (c.adopt P fresh w).1.Parallel := nextDisplays_map_src P c fresh w

/-- Searching the sources and then indexing the displays is searching the displays. -/
theorem matched_eq (h : c.Parallel) (id : CString) :
    c.matched id = (c.displays.find? fun m ↦ m.src.id == id).map (·.dim) := by
  unfold Parallel at h
  have hz : c.sources.zip c.displays = c.displays.map fun m ↦ (m.src, m) := by
    rw [← h]
    simpa using List.zip_map' (l := c.displays) (f := fun m ↦ m.src) (g := fun m ↦ m)
  rw [matched, hz, List.find?_map, Option.map_map]
  rfl

/-- A search either finds a managed display with the id or there is none. -/
theorem matched_cases (h : c.Parallel) (id : CString) :
    (∃ m ∈ c.displays, m.src.id = id ∧ c.matched id = some m.dim) ∨
    (∀ m ∈ c.displays, m.src.id ≠ id) ∧ c.matched id = none := by
  rw [h.matched_eq]
  cases hf : c.displays.find? fun m ↦ m.src.id == id with
  | none =>
      refine .inr ⟨?_, rfl⟩
      intro m hm
      simpa using List.find?_eq_none.mp hf m hm
  | some m =>
      exact .inl ⟨m, List.mem_of_find?_eq_some hf, by simpa using List.find?_some hf, rfl⟩

theorem map_id (h : c.Parallel) : c.displays.map (·.src.id) = c.sources.map (·.id) := by
  rw [← h, List.map_map]
  rfl

/-- With distinct ids the search for a managed id finds its display. -/
theorem matched_of_mem (h : c.Parallel) (hn : (c.sources.map (·.id)).Nodup)
    {m : ManagedDisplay Ctx} (hm : m ∈ c.displays) : c.matched m.src.id = some m.dim := by
  rw [← h.map_id] at hn
  obtain ⟨m', hm', hid, he⟩ | ⟨hne, -⟩ := h.matched_cases m.src.id
  · rw [he, List.inj_on_of_nodup_map hn hm' hm hid]
  · exact absurd rfl (hne m hm)

end Parallel

/-! ## A service pass, display by display -/

/-- Whether the write of one pass succeeds; nothing is at stake when none is due. -/
def writeOutcome (P : Provider W Ctx) (m : ManagedDisplay Ctx) (w : W) : Bool :=
  match dimmerDue m.dim with
  | none => true
  | some target => (P.set m.src target w).1

theorem serviceDisplay_eq (P : Provider W Ctx) (m : ManagedDisplay Ctx) (w : W) :
    (serviceDisplay P m w).1 = { m with dim := dimmerServiced m.dim (writeOutcome P m w) } := by
  unfold serviceDisplay dimmerServiced writeOutcome
  cases hd : dimmerDue m.dim with
  | none => rfl
  | some target => rcases hs : P.set m.src target w with ⟨_ | _, w'⟩ <;> simp [hs]

/-- Each display of a service pass is its own dimmer's step, under some outcome of its write. -/
theorem forall₂_serviceDisplays (P : Provider W Ctx) (displays : List (ManagedDisplay Ctx))
    (w : W) : List.Forall₂ (fun m m' ↦ ∃ ok, m' = { m with dim := dimmerServiced m.dim ok })
      displays (serviceDisplays P displays w).1 := by
  induction displays generalizing w with
  | nil => exact .nil
  | cons m displays ih => exact .cons ⟨_, serviceDisplay_eq P m w⟩ (ih _)

/-! ## What a reconcile can do -/

/-- How `controller_reconcile` ends: it keeps the controller because the enumeration failed, or
because the new array could not be allocated and the fresh sources were closed again, or it
adopts the fresh sources. -/
theorem reconcile_cases (P : Provider W Ctx) (c : Controller Ctx) (w : W) :
    (∃ w', P.enumerate w = (none, w') ∧ c.reconcile P w = (c, w')) ∨
    (∃ fresh w' w'', P.enumerate w = (some fresh, w') ∧ fresh ≠ [] ∧
      P.calloc w' = (false, w'') ∧ c.reconcile P w = (c, brightnessFree P fresh w'')) ∨
    (∃ fresh w' w'', P.enumerate w = (some fresh, w') ∧
      (fresh = [] ∧ w'' = w' ∨ fresh ≠ [] ∧ P.calloc w' = (true, w'')) ∧
      c.reconcile P w = c.adopt P fresh w'') := by
  unfold reconcile
  rcases he : P.enumerate w with ⟨_ | fresh, w'⟩
  · exact .inl ⟨w', rfl, rfl⟩
  · by_cases hf : fresh = []
    · subst hf
      exact .inr (.inr ⟨[], w', w', rfl, .inl ⟨rfl, rfl⟩, rfl⟩)
    · have hl : fresh.length > 0 := List.length_pos_iff.mpr hf
      rcases hc : P.calloc w' with ⟨_ | _, w''⟩
      · exact .inr (.inl ⟨fresh, w', w'', rfl, hf, hc, by simp only [hc, if_pos hl]⟩)
      · exact .inr (.inr ⟨fresh, w', w'', rfl, .inr ⟨hf, hc⟩, by simp only [hc, if_pos hl]⟩)

/-- Where the dimmers of the array `next` come from. -/
theorem mem_nextDisplays {P : Provider W Ctx} {c : Controller Ctx}
    {fresh : List (BrightnessSource Ctx)} {w : W} {m : ManagedDisplay Ctx}
    (h : m ∈ (nextDisplays P c fresh w).1) : c.matched m.src.id = some m.dim ∨
      c.matched m.src.id = none ∧ ∃ w', m.dim = (initialDimmer P m.src w').1 := by
  induction fresh generalizing w with
  | nil => cases h
  | cons s fresh ih =>
      rw [nextDisplays] at h
      cases hs : c.matched s.id with
      | some dim =>
          rw [hs] at h
          rcases List.mem_cons.mp h with rfl | h
          · exact .inl hs
          · exact ih h
      | none =>
          rw [hs] at h
          rcases List.mem_cons.mp h with rfl | h
          · exact .inr ⟨hs, w, rfl⟩
          · exact ih h

/-- Where the dimmers of a reconciled controller come from: from the display that had the id, or
from a reading when there was none. -/
theorem Parallel.mem_reconcile {c : Controller Ctx} (h : c.Parallel) {P : Provider W Ctx} {w : W}
    {m' : ManagedDisplay Ctx} (hm' : m' ∈ (c.reconcile P w).1.displays) :
    (∃ m ∈ c.displays, m.src.id = m'.src.id ∧ m.dim = m'.dim) ∨
    (∀ m ∈ c.displays, m.src.id ≠ m'.src.id) ∧ ∃ w', m'.dim = (initialDimmer P m'.src w').1 := by
  obtain ⟨_, -, he⟩ | ⟨_, _, _, -, -, -, he⟩ | ⟨fresh, _, w'', -, -, he⟩ := reconcile_cases P c w
  · rw [he] at hm'
    exact .inl ⟨m', hm', rfl, rfl⟩
  · rw [he] at hm'
    exact .inl ⟨m', hm', rfl, rfl⟩
  · rw [he] at hm'
    rcases mem_nextDisplays hm' with hs | ⟨hs, hread⟩
    · obtain ⟨m, hm, hid, hm''⟩ | ⟨-, hnone⟩ := h.matched_cases m'.src.id
      · exact .inl ⟨m, hm, hid, Option.some.inj (hm''.symm.trans hs)⟩
      · exact absurd (hnone.symm.trans hs) (by simp)
    · obtain ⟨m, -, -, hm''⟩ | ⟨hne, -⟩ := h.matched_cases m'.src.id
      · exact absurd (hs.symm.trans hm'') (by simp)
      · exact .inr ⟨hne, hread⟩

theorem Parallel.reconcile {c : Controller Ctx} (h : c.Parallel) (P : Provider W Ctx) (w : W) :
    (c.reconcile P w).1.Parallel := by
  obtain ⟨_, -, he⟩ | ⟨_, _, _, -, -, -, he⟩ | ⟨fresh, _, w'', -, -, he⟩ := reconcile_cases P c w
  · rwa [he]
  · rwa [he]
  · rw [he]; exact Parallel.adopt P c fresh w''

end Controller

/-- How `controller_open` ends: with the null pointer, or with a controller for the sources the
enumeration returned. -/
theorem controllerOpen_cases (P : Provider W Ctx) (w : W) :
    (∃ w', P.calloc w = (false, w') ∧ controllerOpen P w = (none, w')) ∨
    (∃ w' w'', P.calloc w = (true, w') ∧ P.enumerate w' = (none, w'') ∧
      controllerOpen P w = (none, w'')) ∨
    (∃ w' sources w'' w₃, P.calloc w = (true, w') ∧ P.enumerate w' = (some sources, w'') ∧
      sources ≠ [] ∧ P.calloc w'' = (false, w₃) ∧
      controllerOpen P w = (none, brightnessFree P sources w₃)) ∨
    (∃ w' sources w'' w₃, P.calloc w = (true, w') ∧ P.enumerate w' = (some sources, w'') ∧
      (sources = [] ∧ w₃ = w'' ∨ sources ≠ [] ∧ P.calloc w'' = (true, w₃)) ∧
      controllerOpen P w =
        (some ⟨sources, (openDisplays P sources w₃).1⟩, (openDisplays P sources w₃).2)) := by
  unfold controllerOpen
  rcases hc : P.calloc w with ⟨_ | _, w'⟩
  · exact .inl ⟨w', rfl, rfl⟩
  rcases he : P.enumerate w' with ⟨_ | sources, w''⟩
  · exact .inr (.inl ⟨w', w'', rfl, he, by simp only [he]⟩)
  by_cases hs : sources = []
  · subst hs
    exact .inr (.inr (.inr ⟨w', [], w'', w'', rfl, he, .inl ⟨rfl, rfl⟩, by simp only [he]; rfl⟩))
  · have hl : sources.length > 0 := List.length_pos_iff.mpr hs
    rcases hc' : P.calloc w'' with ⟨_ | _, w₃⟩
    · exact .inr (.inr (.inl ⟨w', sources, w'', w₃, rfl, he, hs, hc',
        by simp only [he, hc', if_pos hl]⟩))
    · exact .inr (.inr (.inr ⟨w', sources, w'', w₃, rfl, he, .inr ⟨hs, hc'⟩,
        by simp only [he, hc', if_pos hl]⟩))

/-- A controller that was opened has a display for each source of the enumeration. -/
theorem controllerOpen_eq_some {P : Provider W Ctx} {w : W} {c : Controller Ctx}
    (h : c ∈ (controllerOpen P w).1) :
    ∃ w' sources w'' w₃, P.calloc w = (true, w') ∧ P.enumerate w' = (some sources, w'') ∧
      (sources = [] ∧ w₃ = w'' ∨ sources ≠ [] ∧ P.calloc w'' = (true, w₃)) ∧
      controllerOpen P w = (some c, (openDisplays P sources w₃).2) ∧
      c = ⟨sources, (openDisplays P sources w₃).1⟩ := by
  obtain ⟨_, -, he⟩ | ⟨_, _, -, -, he⟩ | ⟨_, _, _, _, -, -, -, -, he⟩ |
    ⟨w', sources, w'', w₃, hc, hen, hc', he⟩ := controllerOpen_cases P w
  · rw [he] at h
    cases h
  · rw [he] at h
    cases h
  · rw [he] at h
    cases h
  · rw [he] at h
    cases h
    exact ⟨w', sources, w'', w₃, hc, hen, hc', he, rfl⟩

theorem parallel_controllerOpen (P : Provider W Ctx) (w : W) :
    ∀ c ∈ (controllerOpen P w).1, c.Parallel := by
  intro c hc
  obtain ⟨_, sources, _, w₃, -, -, -, -, rfl⟩ := controllerOpen_eq_some hc
  exact openDisplays_map_src P sources w₃

theorem Session.reachable_start (P : Provider W Ctx) (w : W) : (Session.start P w).Reachable P :=
  ⟨w, [], rfl⟩

theorem Session.Reachable.step {P : Provider W Ctx} {s : Session W Ctx} (h : s.Reachable P)
    (op : Op) : (s.step P op).Reachable P := by
  obtain ⟨w, ops, rfl⟩ := h
  exact ⟨w, ops ++ [op], (Session.run_append P _ ops [op]).symm⟩

theorem Session.Reachable.run {P : Provider W Ctx} {s : Session W Ctx} (h : s.Reachable P)
    (ops : List Op) : (s.run P ops).Reachable P := by
  obtain ⟨w, ops', rfl⟩ := h
  exact ⟨w, ops' ++ ops, (Session.run_append P _ ops' ops).symm⟩

theorem Session.Reachable.parallel {P : Provider W Ctx} {s : Session W Ctx}
    (h : s.Reachable P) : ∀ c ∈ s.controller, c.Parallel := by
  obtain ⟨w, ops, rfl⟩ := h
  exact Session.run_induction (I := fun c _ ↦ c.Parallel) (fun _ _ f h ↦ h.adjust f)
    (fun _ w h ↦ h.service P w) (fun _ w h ↦ h.reconcile P w) ops (parallel_controllerOpen P w)

/-- **The rule for sources.**  What holds of the sources of every enumeration holds of those of
every reachable state. -/
theorem Session.Reachable.forall_sources {P : Provider W Ctx}
    {Q : List (BrightnessSource Ctx) → Prop}
    (hQ : ∀ w sources w', P.enumerate w = (some sources, w') → Q sources) {s : Session W Ctx}
    (h : s.Reachable P) : ∀ c ∈ s.controller, Q c.sources := by
  obtain ⟨w, ops, rfl⟩ := h
  refine run_induction (I := fun c _ ↦ Q c.sources) (fun _ _ _ h ↦ h) (fun _ _ h ↦ h) ?_ ops ?_
  · intro c w h
    obtain ⟨_, -, he⟩ | ⟨_, _, _, -, -, -, he⟩ | ⟨fresh, _, _, hen, -, he⟩ :=
      Controller.reconcile_cases P c w
    · rwa [he]
    · rwa [he]
    · rw [he]
      exact hQ _ _ _ hen
  · intro c hc
    obtain ⟨_, sources, _, _, -, hen, -, -, rfl⟩ := controllerOpen_eq_some hc
    exact hQ _ _ _ hen

theorem mem_openDisplays {P : Provider W Ctx} {sources : List (BrightnessSource Ctx)} {w : W}
    {m : ManagedDisplay Ctx} (h : m ∈ (openDisplays P sources w).1) :
    ∃ w', m.dim = (initialDimmer P m.src w').1 := by
  induction sources generalizing w with
  | nil => cases h
  | cons s sources ih =>
      rcases List.mem_cons.mp h with rfl | h
      · exact ⟨w, rfl⟩
      · exact ih h

/-- **The rule for dimmers.**  What holds of every dimmer that was just read and is preserved by
presses and service passes holds of every dimmer of every reachable state. -/
theorem Session.Reachable.forall_dim {P : Provider W Ctx} {D : Dimmer → Prop}
    (read : ∀ s w, D (initialDimmer P s w).1)
    (adjust : ∀ d f, D d → D (dimmerAdjust d (dimmerDeltaForFraction (dimmerMax d) f)))
    (service : ∀ d ok, D d → D (dimmerServiced d ok)) {s : Session W Ctx} (h : s.Reachable P) :
    ∀ m ∈ s.displays, D m.dim := by
  have hc : ∀ c ∈ s.controller, c.Parallel ∧ ∀ m ∈ c.displays, D m.dim := by
    obtain ⟨w, ops, rfl⟩ := h
    refine run_induction (I := fun c _ ↦ c.Parallel ∧ ∀ m ∈ c.displays, D m.dim) ?_ ?_ ?_ ops ?_
    · rintro c w f ⟨hp, hd⟩
      refine ⟨hp.adjust f, ?_⟩
      intro m hm
      obtain ⟨m₀, hm₀, rfl⟩ := List.mem_map.mp hm
      exact adjust m₀.dim f (hd m₀ hm₀)
    · rintro c w ⟨hp, hd⟩
      refine ⟨hp.service P w, ?_⟩
      intro m hm
      obtain ⟨m₀, hm₀, ok, rfl⟩ :=
        Related.exists_of_mem_right (Controller.forall₂_serviceDisplays P c.displays w) hm
      exact service m₀.dim ok (hd m₀ hm₀)
    · rintro c w ⟨hp, hd⟩
      refine ⟨hp.reconcile P w, ?_⟩
      intro m hm
      obtain ⟨m', hm', -, he⟩ | ⟨-, w', he⟩ := hp.mem_reconcile hm
      · exact he ▸ hd m' hm'
      · exact he ▸ read m.src w'
    · intro c hc
      refine ⟨parallel_controllerOpen P w c hc, ?_⟩
      intro m hm
      obtain ⟨_, sources, _, w₃, -, -, -, -, rfl⟩ := controllerOpen_eq_some hc
      obtain ⟨w', he⟩ := mem_openDisplays hm
      exact he ▸ read m.src w'
  obtain ⟨_ | c, w, results⟩ := s
  · exact fun m hm ↦ nomatch hm
  · exact (hc c rfl).2

/-- The array of displays is allocated unless it is empty: what holds of the world before, and of
the world an allocation leaves, holds after. -/
theorem Provider.of_array {P : Provider W Ctx} {J : W → Prop} {w w' : W} {empty held : Prop}
    (hc : empty ∧ w' = w ∨ held ∧ P.calloc w = (true, w')) (h : J w) (h' : J (P.calloc w).2) :
    J w' := by
  rcases hc with ⟨-, rfl⟩ | ⟨-, hc⟩
  · exact h
  · rwa [hc] at h'

/-! ## Facts only a write can change -/

namespace Provider.Keeps

variable {P : Provider W Ctx} {I : W → Prop}

theorem of_calloc (hP : P.Keeps I) {w w' : W} {ok : Bool} (hc : P.calloc w = (ok, w'))
    (h : I w) : I w' := by
  have hw := hP.calloc h
  rwa [hc] at hw

theorem of_enumerate (hP : P.Keeps I) {w w' : W} {sources : Option (List (BrightnessSource Ctx))}
    (he : P.enumerate w = (sources, w')) (h : I w) : I w' := by
  have hw := hP.enumerate h
  rwa [he] at hw

theorem of_array (hP : P.Keeps I) {w w' : W} {empty held : Prop}
    (hc : empty ∧ w' = w ∨ held ∧ P.calloc w = (true, w')) (h : I w) : I w' :=
  Provider.of_array hc h (hP.calloc h)

theorem initialDimmer (hP : P.Keeps I) (s : BrightnessSource Ctx) {w : W} (h : I w) :
    I (Dimmit.initialDimmer P s w).2 := by
  have hg := hP.get s h
  unfold Dimmit.initialDimmer
  split <;> simp_all

theorem openDisplays (hP : P.Keeps I) (sources : List (BrightnessSource Ctx)) {w : W} (h : I w) :
    I (Dimmit.openDisplays P sources w).2 := by
  induction sources generalizing w with
  | nil => exact h
  | cons s sources ih => exact ih (hP.initialDimmer s h)

theorem nextDisplays (hP : P.Keeps I) (c : Controller Ctx)
    (fresh : List (BrightnessSource Ctx)) {w : W} (h : I w) :
    I (Controller.nextDisplays P c fresh w).2 := by
  induction fresh generalizing w with
  | nil => exact h
  | cons s fresh ih =>
      rw [Controller.nextDisplays]
      split
      · exact ih h
      · exact ih (hP.initialDimmer s h)

/-- Displays whose readings stay what they are get the dimmers of these readings. -/
theorem openDisplays_eq (hP : P.Keeps I) {f : BrightnessSource Ctx → Dimmer}
    (hf : ∀ s {w}, I w → (Dimmit.initialDimmer P s w).1 = f s)
    (sources : List (BrightnessSource Ctx)) {w : W} (h : I w) :
    (Dimmit.openDisplays P sources w).1 = sources.map fun s ↦ ⟨s, f s⟩ := by
  induction sources generalizing w with
  | nil => rfl
  | cons s sources ih =>
      change ⟨s, (Dimmit.initialDimmer P s w).1⟩ ::
        (Dimmit.openDisplays P sources (Dimmit.initialDimmer P s w).2).1 = _
      rw [hf s h, ih (hP.initialDimmer s h), List.map_cons]

/-- The same for the displays a reconcile does not know. -/
theorem nextDisplays_eq (hP : P.Keeps I) {f : BrightnessSource Ctx → Dimmer}
    (hf : ∀ s {w}, I w → (Dimmit.initialDimmer P s w).1 = f s) (c : Controller Ctx)
    (fresh : List (BrightnessSource Ctx)) {w : W} (h : I w) :
    (Controller.nextDisplays P c fresh w).1 =
      fresh.map fun s ↦ ⟨s, (c.matched s.id).getD (f s)⟩ := by
  induction fresh generalizing w with
  | nil => rfl
  | cons s fresh ih =>
      rw [Controller.nextDisplays, List.map_cons]
      cases c.matched s.id with
      | some dim => exact congrArg (⟨s, dim⟩ :: ·) (ih h)
      | none =>
          change ⟨s, (Dimmit.initialDimmer P s w).1⟩ ::
            (Controller.nextDisplays P c fresh (Dimmit.initialDimmer P s w).2).1 = _
          rw [hf s h, ih (hP.initialDimmer s h)]
          rfl

theorem closeVanished (hP : P.Keeps I) (fresh sources : List (BrightnessSource Ctx)) {w : W}
    (h : I w) : I (Controller.closeVanished P fresh sources w) := by
  induction sources generalizing w with
  | nil => exact h
  | cons s sources ih =>
      rw [Controller.closeVanished]
      split
      · exact ih h
      · exact ih (hP.close s h)

theorem adopt (hP : P.Keeps I) (c : Controller Ctx) (fresh : List (BrightnessSource Ctx)) {w : W}
    (h : I w) : I (c.adopt P fresh w).2 :=
  hP.closeVanished fresh c.sources (hP.nextDisplays c fresh h)

theorem reconcile (hP : P.Keeps I) (c : Controller Ctx) {w : W} (h : I w) :
    I (c.reconcile P w).2 := by
  obtain ⟨w', he, hr⟩ | ⟨fresh, w', w'', he, -, hc, hr⟩ | ⟨fresh, w', w'', he, hc, hr⟩ :=
    Controller.reconcile_cases P c w
  · rw [hr]
    exact hP.of_enumerate he h
  · have hw' := hP.of_enumerate he h
    rw [hr]
    exact hP.brightnessFree fresh (hP.of_calloc hc hw')
  · have hw' := hP.of_enumerate he h
    rw [hr]
    exact hP.adopt c fresh (hP.of_array hc hw')

theorem controllerOpen (hP : P.Keeps I) {w : W} (h : I w) : I (Dimmit.controllerOpen P w).2 := by
  obtain ⟨w', hc, hr⟩ | ⟨w', w'', hc, he, hr⟩ | ⟨w', sources, w'', w₃, hc, he, -, hc', hr⟩ |
    ⟨w', sources, w'', w₃, hc, he, hc', hr⟩ := controllerOpen_cases P w
  · rw [hr]
    exact hP.of_calloc hc h
  · rw [hr]
    exact hP.of_enumerate he (hP.of_calloc hc h)
  · have hw'' := hP.of_enumerate he (hP.of_calloc hc h)
    rw [hr]
    exact hP.brightnessFree sources (hP.of_calloc hc' hw'')
  · have hw'' := hP.of_enumerate he (hP.of_calloc hc h)
    rw [hr]
    exact hP.openDisplays sources (hP.of_array hc' hw'')

end Provider.Keeps

end Dimmit
