import Dimmit.Ddc.Enumeration

/-!
# Only what has answered is written to

The controllability rule of `ddc_enumerate_sources` keeps the displays that answer an initial read.
The controller reads them once more, adopts and drops them with every poll and writes to them later,
if at all; still, what a backend does for a handle that has answered is all that a run can make of
its writes.
-/

namespace Dimmit

variable {W R H : Type}

/-- A reading that is answered right after the display was opened makes its handle `Controllable`,
which no call takes back, and a write through a controllable handle keeps the fact `I`, as every
other call does. -/
structure Controllability (impl : Implementation W R H) (I : W → Prop)
    (Controllable : W → H → Prop) : Prop where
  keeps : impl.Keeps I
  probed : ∀ {w w' w'' r h v}, I w → impl.openDisplay r w = (some h, w') →
    impl.getNonTableVcpValue h vcpBrightness w' = (some v, w'') → Controllable w'' h
  stays : ∀ h, impl.Keeps fun w ↦ Controllable w h
  wrote : ∀ {w} (h hi lo), I w → Controllable w h →
    I (impl.setNonTableVcpValue h vcpBrightness hi lo w).2
  stays_wrote : ∀ {w h} (h' hi lo), Controllable w h →
    Controllable (impl.setNonTableVcpValue h' vcpBrightness hi lo w).2 h

/-- The fact holds, and the controller has controllable sources only. -/
structure Session.Controls (I : W → Prop) (Controllable : W → H → Prop) (s : Session W H) :
    Prop where
  fact : I s.world
  parallel : ∀ c ∈ s.controller, c.Parallel
  controllable : ∀ c ∈ s.controller, ∀ src ∈ c.sources, Controllable s.world src.ctx

namespace Controllability

variable {impl : Implementation W R H} {I : W → Prop} {Controllable : W → H → Prop}

/-! ## Enumerations -/

/-- The loop keeps a display right after its reading was answered. -/
theorem enumerateFrom (h : Controllability impl I Controllable) (infos : List (DisplayInfo R))
    (i : Nat) {w : W} (hw : I w) : ∀ src ∈ (Dimmit.enumerateFrom impl i infos w).1,
      Controllable (Dimmit.enumerateFrom impl i infos w).2 src.ctx := by
  induction infos generalizing i w with
  | nil => exact fun _ hsrc ↦ absurd hsrc List.not_mem_nil
  | cons info infos ih =>
      have hopened := h.keeps.openDisplay info.dref hw
      obtain ⟨-, he⟩ | ⟨w', -, ho, he⟩ | ⟨d, w', w'', -, ho, hr, he⟩ |
        ⟨d, w', v, w'', -, ho, hr, he⟩ := enumerateFrom_cases impl i info infos w
      · rw [he]
        exact ih _ hw
      · rw [ho] at hopened
        rw [he]
        exact ih _ hopened
      · rw [ho] at hopened
        have hread := h.keeps.getNonTableVcpValue d vcpBrightness hopened
        rw [hr] at hread
        rw [he]
        exact ih _ (h.keeps.closeDisplay d hread)
      · rw [ho] at hopened
        have hread := h.keeps.getNonTableVcpValue d vcpBrightness hopened
        rw [hr] at hread
        rw [he]
        refine List.forall_mem_cons.mpr ⟨?_, ih _ hread⟩
        exact (h.stays d).enumerateFrom infos (i + 1) (h.probed hw ho hr)

theorem enumerate (h : Controllability impl I Controllable) {w w' : W}
    {sources : List (BrightnessSource H)} (hw : I w)
    (hen : (ddcProvider impl).enumerate w = (some sources, w')) :
    ∀ src ∈ sources, Controllable w' src.ctx := by
  change ddcEnumerateSources impl w = _ at hen
  obtain ⟨_, -, he⟩ | ⟨_, _, _, -, -, he⟩ | ⟨dlist, w₁, w₂, hl, hc, he⟩ :=
    ddcEnumerateSources_cases impl w <;> rw [hen] at he <;> cases he
  · exact fun _ hsrc ↦ absurd hsrc List.not_mem_nil
  · have hw₁ := h.keeps.getDisplayInfoList hw
    rw [hl] at hw₁
    have hw₂ := h.keeps.calloc hw₁
    rw [hc] at hw₂
    intro src hsrc
    exact (h.stays src.ctx).freeDisplayInfoList dlist (h.enumerateFrom dlist.info 0 hw₂ src hsrc)

/-! ## Passes -/

theorem serviceDisplay (h : Controllability impl I Controllable) {m : ManagedDisplay H} {w : W}
    (hw : I w) (hm : Controllable w m.src.ctx) :
    I (Controller.serviceDisplay (ddcProvider impl) m w).2.2 ∧
      ∀ d, Controllable w d →
        Controllable (Controller.serviceDisplay (ddcProvider impl) m w).2.2 d := by
  unfold Controller.serviceDisplay
  cases dimmerDue m.dim with
  | none => exact ⟨hw, fun _ hd ↦ hd⟩
  | some target =>
      have hwrote := h.wrote m.src.ctx (hiByte target) (loByte target) hw hm
      have hstays (d : H) (hd : Controllable w d) :=
        h.stays_wrote m.src.ctx (hiByte target) (loByte target) hd
      dsimp only [ddcProvider, ddcSrcSet]
      rcases hset : impl.setNonTableVcpValue m.src.ctx vcpBrightness (hiByte target)
        (loByte target) w with ⟨_ | _, w'⟩ <;> rw [hset] at hwrote hstays <;>
        exact ⟨hwrote, hstays⟩

theorem serviceDisplays (h : Controllability impl I Controllable) {ms : List (ManagedDisplay H)}
    {w : W} (hw : I w) (hms : ∀ m ∈ ms, Controllable w m.src.ctx) :
    I (Controller.serviceDisplays (ddcProvider impl) ms w).2.2 ∧
      ∀ d, Controllable w d →
        Controllable (Controller.serviceDisplays (ddcProvider impl) ms w).2.2 d := by
  induction ms generalizing w with
  | nil => exact ⟨hw, fun _ hd ↦ hd⟩
  | cons m ms ih =>
      obtain ⟨hm, hms⟩ := List.forall_mem_cons.mp hms
      obtain ⟨hw', hstays⟩ := h.serviceDisplay hw hm
      obtain ⟨hw'', hstays'⟩ := ih hw' fun m' hm' ↦ hstays _ (hms m' hm')
      exact ⟨hw'', fun d hd ↦ hstays' d (hstays d hd)⟩

/-! ## Runs -/

theorem controls_start (h : Controllability impl I Controllable) {w : W} (hw : I w) :
    (Session.start (ddcProvider impl) w).Controls I Controllable where
  fact := h.keeps.ddcProvider.controllerOpen hw
  parallel := parallel_controllerOpen (ddcProvider impl) w
  controllable c hc src hsrc := by
    obtain ⟨w', sources, w'', w₃, hc₁, hen, hc₂, he, rfl⟩ := controllerOpen_eq_some hc
    have hanswered : Controllable w'' src.ctx :=
      h.enumerate (h.keeps.ddcProvider.of_calloc hc₁ hw) hen src hsrc
    have hstays := (h.stays src.ctx).ddcProvider
    rw [Session.start, he]
    exact hstays.openDisplays sources (hstays.of_array hc₂ hanswered)

/-- A poll adopts what has just answered, or keeps what it has. -/
theorem reconcile (h : Controllability impl I Controllable) {c : Controller H} {w : W} (hw : I w)
    (hc : ∀ src ∈ c.sources, Controllable w src.ctx) :
    ∀ src ∈ (c.reconcile (ddcProvider impl) w).1.sources,
      Controllable (c.reconcile (ddcProvider impl) w).2 src.ctx := by
  intro src hsrc
  have hstays := (h.stays src.ctx).ddcProvider
  obtain ⟨w', -, he⟩ | ⟨fresh, w', w'', -, -, -, he⟩ | ⟨fresh, w', w'', hen, hcalloc, he⟩ :=
    c.reconcile_cases (ddcProvider impl) w
  · exact hstays.reconcile c (hc src (by rwa [he] at hsrc))
  · exact hstays.reconcile c (hc src (by rwa [he] at hsrc))
  · rw [he] at hsrc ⊢
    exact hstays.adopt c fresh (hstays.of_array hcalloc (h.enumerate hw hen src hsrc))

theorem controls_step (h : Controllability impl I Controllable) {s : Session W H}
    (hs : s.Controls I Controllable) (op : Op) :
    (s.step (ddcProvider impl) op).Controls I Controllable := by
  obtain ⟨_ | c, w, results⟩ := s
  · cases op <;> exact ⟨hs.fact, nofun, nofun⟩
  · have hpar : c.Parallel := hs.parallel c rfl
    have hsources := hs.controllable c rfl
    cases op with
    | adjust f =>
        refine ⟨hs.fact, ?_, ?_⟩ <;> rintro _ ⟨⟩
        · exact hpar.adjust f
        · exact hsources
    | service =>
        have hdisplays : ∀ m ∈ c.displays, Controllable w m.src.ctx := by
          intro m hm
          have hsrc : m.src ∈ c.sources := by
            rw [← hpar]
            exact List.mem_map_of_mem hm
          exact hsources m.src hsrc
        obtain ⟨hw, hstays⟩ := h.serviceDisplays hs.fact hdisplays
        refine ⟨hw, ?_, ?_⟩ <;> rintro _ ⟨⟩
        · exact hpar.service (ddcProvider impl) w
        · exact fun src hsrc ↦ hstays src.ctx (hsources src hsrc)
    | reconcile =>
        refine ⟨h.keeps.ddcProvider.reconcile c hs.fact, ?_, ?_⟩ <;> rintro _ ⟨⟩
        · exact hpar.reconcile (ddcProvider impl) w
        · exact h.reconcile hs.fact hsources

/-- **The controllability rule.**  A fact that only a write through a handle that has not answered
could break holds after every run. -/
theorem controls_run (h : Controllability impl I Controllable) {s : Session W H}
    (hs : s.Controls I Controllable) (ops : List Op) :
    (s.run (ddcProvider impl) ops).Controls I Controllable := by
  induction ops generalizing s with
  | nil => exact hs
  | cons op ops ih => exact ih (h.controls_step hs op)

end Controllability

end Dimmit
