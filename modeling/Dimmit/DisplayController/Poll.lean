import Dimmit.Ddc.Bench
import Dimmit.Ddc.Enumeration
import Dimmit.Ddc.Handles
import Dimmit.Lib.Run

/-!
# The idle poll

About once a second the daemon reconciles a display set that has not changed.  Two runs are
compared here by what an observer has of them, the values written to each display, the results
of the service passes and the dimmers: a run, and the same run without its polls.  A press or a
pass moves both in lockstep; a poll moves only the first, and nothing the observer has.
-/

namespace Dimmit

variable {W R H Ctx O : Type}

/-- A display as it is observed: its id, what its handle drives, and its dimmer. -/
def ManagedDisplay.view (device : Ctx → R) (m : ManagedDisplay Ctx) : CString × R × Dimmer :=
  (m.src.id, device m.src.ctx, m.dim)

/-- The part `obs` of the world is moved by writes alone, and `write` says how: from the display
and the value, whatever handle is used. -/
structure Observed (P : Provider W Ctx) (device : Ctx → R) (obs : W → O)
    (write : R → Int → O → Bool × O) : Prop where
  keeps : ∀ o, P.Keeps fun w ↦ obs w = o
  set_eq : ∀ s v w, ((P.set s v w).1, obs (P.set s v w).2) = write (device s.ctx) v (obs w)

/-! ## Lockstep -/

namespace Observed

variable {P : Provider W Ctx} {device : Ctx → R} {obs : W → O} {write : R → Int → O → Bool × O}

theorem serviceDisplay (hP : Observed P device obs write) {m m' : ManagedDisplay Ctx}
    (hm : m.view device = m'.view device) {w w' : W} (hw : obs w = obs w') :
    (Controller.serviceDisplay P m w).1.view device =
      (Controller.serviceDisplay P m' w').1.view device ∧
    (Controller.serviceDisplay P m w).2.1 = (Controller.serviceDisplay P m' w').2.1 ∧
    obs (Controller.serviceDisplay P m w).2.2 = obs (Controller.serviceDisplay P m' w').2.2 := by
  obtain ⟨src, dim⟩ := m
  obtain ⟨src', dim'⟩ := m'
  obtain ⟨hid, hdev, hdim⟩ : src.id = src'.id ∧ device src.ctx = device src'.ctx ∧ dim = dim' := by
    simpa [ManagedDisplay.view] using hm
  subst hdim
  unfold Controller.serviceDisplay
  cases dimmerDue dim with
  | none => exact ⟨hm, rfl, hw⟩
  | some target =>
      have hset := hP.set_eq src target w
      have hset' := hP.set_eq src' target w'
      rw [hdev, hw, ← hset'] at hset
      obtain ⟨hok, hobs⟩ := Prod.mk.inj hset
      rcases hs : P.set src target w with ⟨ok, w₁⟩
      rcases hs' : P.set src' target w' with ⟨ok', w₁'⟩
      rw [hs, hs'] at hok hobs
      cases hok
      cases ok <;> simp [hs, hs', ManagedDisplay.view, hid, hdev, hobs]

theorem serviceDisplays (hP : Observed P device obs write) {ms ms' : List (ManagedDisplay Ctx)}
    (hms : ms.map (·.view device) = ms'.map (·.view device)) {w w' : W} (hw : obs w = obs w') :
    (Controller.serviceDisplays P ms w).1.map (·.view device) =
      (Controller.serviceDisplays P ms' w').1.map (·.view device) ∧
    (Controller.serviceDisplays P ms w).2.1 = (Controller.serviceDisplays P ms' w').2.1 ∧
    obs (Controller.serviceDisplays P ms w).2.2 =
      obs (Controller.serviceDisplays P ms' w').2.2 := by
  induction ms generalizing ms' w w' with
  | nil =>
      cases ms' with
      | nil => exact ⟨rfl, rfl, hw⟩
      | cons m' ms' => cases hms
  | cons m ms ih =>
      cases ms' with
      | nil => cases hms
      | cons m' ms' =>
          obtain ⟨hm, hms⟩ := List.cons.inj hms
          obtain ⟨hview, hn, hobs⟩ := hP.serviceDisplay hm hw
          obtain ⟨hviews, happlied, hobs⟩ := ih hms hobs
          exact ⟨congrArg₂ List.cons hview hviews, congrArg₂ (· + ·) hn happlied, hobs⟩

end Observed

/-- What an observer has of two sessions is the same. -/
structure Session.Agree (device : Ctx → R) (obs : W → O) (s t : Session W Ctx) : Prop where
  views : s.displays.map (·.view device) = t.displays.map (·.view device)
  obs_eq : obs s.world = obs t.world
  serviced : s.serviced = t.serviced

namespace Session.Agree

variable {P : Provider W Ctx} {device : Ctx → R} {obs : W → O} {write : R → Int → O → Bool × O}
  {s t : Session W Ctx}

theorem refl (device : Ctx → R) (obs : W → O) (s : Session W Ctx) : s.Agree device obs s :=
  ⟨rfl, rfl, rfl⟩

theorem symm (h : s.Agree device obs t) : t.Agree device obs s :=
  ⟨h.views.symm, h.obs_eq.symm, h.serviced.symm⟩

theorem trans {u : Session W Ctx} (h : s.Agree device obs t) (h' : t.Agree device obs u) :
    s.Agree device obs u :=
  ⟨h.views.trans h'.views, h.obs_eq.trans h'.obs_eq, h.serviced.trans h'.serviced⟩

theorem adjust (h : s.Agree device obs t) (P : Provider W Ctx) (f : ℚ) :
    (s.step P (.adjust f)).Agree device obs (t.step P (.adjust f)) where
  views := by
    have hview (m : ManagedDisplay Ctx) : (Controller.adjustDisplay f m).view device =
        let (id, r, d) := m.view device
        (id, r, dimmerAdjust d (dimmerDeltaForFraction (dimmerMax d) f)) := rfl
    simp only [displays_step_adjust, List.map_map, Function.comp_def, hview]
    have hv := congrArg (List.map fun v : CString × R × Dimmer ↦
      (v.1, v.2.1, dimmerAdjust v.2.2 (dimmerDeltaForFraction (dimmerMax v.2.2) f))) h.views
    simpa only [List.map_map, Function.comp_def] using hv
  obs_eq := h.obs_eq
  serviced := h.serviced

theorem service (h : s.Agree device obs t) (hP : Observed P device obs write) :
    (s.step P .service).Agree device obs (t.step P .service) := by
  obtain ⟨hviews, happlied, hobs⟩ := hP.serviceDisplays h.views h.obs_eq
  refine ⟨?_, ?_, ?_⟩
  · simpa only [displays_step_service] using hviews
  · simpa only [world_step_service] using hobs
  · rw [serviced_step_service, serviced_step_service, h.serviced, happlied]

end Session.Agree

/-! ## A poll changes nothing -/

/-- Fresh sources that name the managed displays in order inherit their dimmers in order. -/
theorem Controller.views_nextDisplays {device : Ctx → R} (P : Provider W Ctx) (c : Controller Ctx)
    {ms : List (ManagedDisplay Ctx)} {fresh : List (BrightnessSource Ctx)}
    (h : List.Forall₂ (fun m f ↦ f.id = m.src.id ∧ device f.ctx = device m.src.ctx) ms fresh)
    (hms : ∀ m ∈ ms, c.matched m.src.id = some m.dim) (w : W) :
    (nextDisplays P c fresh w).1.map (·.view device) = ms.map (·.view device) := by
  induction h generalizing w with
  | nil => rfl
  | @cons m f ms fresh hf _ ih =>
      obtain ⟨hm, hms⟩ := List.forall_mem_cons.mp hms
      obtain ⟨hid, hdev⟩ := hf
      have hmatch : c.matched f.id = some m.dim := hid ▸ hm
      have hview : (ManagedDisplay.mk f m.dim).view device = m.view device := by
        simp only [ManagedDisplay.view, hid, hdev]
      rw [nextDisplays, hmatch]
      exact congrArg₂ List.cons hview (ih hms w)

/-- The sources of the session are those of the seats, in order. -/
structure Session.Seated (device : H → R) (seats : List (Nat × DisplayInfo R)) (s : Session W H) :
    Prop where
  parallel : ∀ c ∈ s.controller, c.Parallel
  seats : ∀ c ∈ s.controller, List.Forall₂ (OpenedFor device) c.sources seats

theorem Session.Seated.adjust {device : H → R} {seats : List (Nat × DisplayInfo R)}
    {s : Session W H} (h : s.Seated device seats) (P : Provider W H) (f : ℚ) :
    (s.step P (.adjust f)).Seated device seats := by
  obtain ⟨_ | c, w, results⟩ := s
  · exact ⟨h.parallel, h.seats⟩
  · constructor
    · rintro _ ⟨⟩
      exact (h.parallel c rfl).adjust f
    · rintro _ ⟨⟩
      exact h.seats c rfl

theorem Session.Seated.service {device : H → R} {seats : List (Nat × DisplayInfo R)}
    {s : Session W H} (h : s.Seated device seats) (P : Provider W H) :
    (s.step P .service).Seated device seats := by
  obtain ⟨_ | c, w, results⟩ := s
  · exact ⟨h.parallel, h.seats⟩
  · constructor
    · rintro _ ⟨⟩
      exact (h.parallel c rfl).service P w
    · rintro _ ⟨⟩
      exact h.seats c rfl

section Seats

variable {impl : Implementation W R H} {device : H → R} {dlist : DisplayInfoList R}

theorem Session.seated_open {Up : W → Prop} (h : Answers impl device Up)
    (hl : ∀ {w}, Up w → listed impl w = externalsFrom 0 dlist.info) {w : W} (hw : Up w) :
    (Session.start (ddcProvider impl) w).Seated device (externalsFrom 0 dlist.info) := by
  refine ⟨parallel_controllerOpen _ w, ?_⟩
  intro c hc
  obtain ⟨w', sources, _, _, hcalloc, hen, -, -, rfl⟩ := controllerOpen_eq_some hc
  have hw' : Up w' := h.keeps.ddcProvider.of_calloc hcalloc hw
  rw [← hl hw']
  exact h.forall₂_ddcEnumerateSources hw' hen

theorem Session.seated_start (h : Answers impl device fun _ ↦ True)
    (hl : ∀ w, listed impl w = externalsFrom 0 dlist.info) (w : W) :
    (Session.start (ddcProvider impl) w).Seated device (externalsFrom 0 dlist.info) :=
  seated_open h (fun _ ↦ hl _) trivial

/-- A poll of the list the sources were opened from finds them again, each in its place. -/
theorem Session.Seated.poll {Up : W → Prop} (h : Answers impl device Up)
    (hl : ∀ {w}, Up w → listed impl w = externalsFrom 0 dlist.info) {s : Session W H}
    (hs : s.Seated device (externalsFrom 0 dlist.info)) (hw : Up s.world) :
    (s.step (ddcProvider impl) .reconcile).Seated device (externalsFrom 0 dlist.info) ∧
      (s.step (ddcProvider impl) .reconcile).displays.map (·.view device) =
        s.displays.map (·.view device) := by
  obtain ⟨hpar, hseats⟩ := hs
  obtain ⟨_ | c, w, results⟩ := s
  · exact ⟨⟨hpar, hseats⟩, rfl⟩
  have hc : c.Parallel := hpar c rfl
  have hc' : List.Forall₂ (OpenedFor device) c.sources (externalsFrom 0 dlist.info) := hseats c rfl
  have hn : (c.sources.map (·.id)).Nodup := by
    have hct := dlist.ct_lt
    rw [forall₂_openedFor_map_id hc']
    exact nodup_ids_externalsFrom (by omega)
  have hstep : (Session.step (ddcProvider impl) ⟨some c, w, results⟩ .reconcile).controller =
    some (c.reconcile (ddcProvider impl) w).1 := rfl
  obtain ⟨he, -⟩ | ⟨fresh, w', hfresh, -, he⟩ := h.reconcile_cases c hw
  · rw [he] at hstep
    refine ⟨⟨?_, ?_⟩, ?_⟩
    · rwa [hstep]
    · rwa [hstep]
    · rw [Session.displays, hstep]
      rfl
  · rw [he] at hstep
    rw [hl hw] at hfresh
    have hpar' := hc.reconcile (ddcProvider impl) w
    rw [he] at hpar'
    -- the displays and the fresh sources go through the same seats
    have hpairs : List.Forall₂ (fun m f ↦ f.id = m.src.id ∧ device f.ctx = device m.src.ctx)
        c.displays fresh := by
      rw [← hc, List.forall₂_map_left_iff] at hc'
      refine (Related.through hc' hfresh).imp ?_
      rintro m f ⟨p, -, hm, hf⟩
      exact ⟨hf.id_eq.trans hm.id_eq.symm, hf.device_eq.trans hm.device_eq.symm⟩
    refine ⟨⟨?_, ?_⟩, ?_⟩
    · rw [hstep]
      rintro _ ⟨⟩
      exact hpar'
    · rw [hstep]
      rintro _ ⟨⟩
      exact hfresh
    · rw [Session.displays, hstep]
      exact Controller.views_nextDisplays _ c hpairs (fun m hm ↦ hc.matched_of_mem hn hm) w'

theorem Session.Seated.reconcile (h : Answers impl device fun _ ↦ True)
    (hl : ∀ w, listed impl w = externalsFrom 0 dlist.info) {s : Session W H}
    (hs : s.Seated device (externalsFrom 0 dlist.info)) :
    (s.step (ddcProvider impl) .reconcile).Seated device (externalsFrom 0 dlist.info) ∧
      (s.step (ddcProvider impl) .reconcile).displays.map (·.view device) =
        s.displays.map (·.view device) :=
  hs.poll h (fun _ ↦ hl _) trivial

end Seats

/-! ## Runs without their polls -/

/-- The display set never changes, and every open and read succeeds.  `oracle w n` is the outcome
of the `n`-th write from the world `w` on, whenever it comes. -/
structure Steady (impl : Implementation W R H) (device : H → R) (dlist : DisplayInfoList R)
    (oracle : W → Nat → Bool) : Prop where
  answers : Answers impl device fun _ ↦ True
  list_eq : ∀ w, (impl.getDisplayInfoList w).1 = some dlist
  keeps : ∀ ω, impl.Keeps fun w ↦ oracle w = ω
  write_eq : ∀ h feature hi lo w,
    (impl.setNonTableVcpValue h feature hi lo w).1 = oracle w 0 ∧
      oracle (impl.setNonTableVcpValue h feature hi lo w).2 = fun n ↦ oracle w (n + 1)

/-- The writes of a log: which display, and which value its bytes make. -/
def busWrites (device : H → R) (log : List (DdcEvent R H)) : List (R × Int) :=
  log.filterMap fun
    | .wrote h _ hi lo _ => some (device h, word hi lo)
    | .listed _ | .freed _ | .opened _ _ | .closed _ | .read _ _ _ => none

namespace Steady

variable {impl : Implementation W R H} {device : H → R} {dlist : DisplayInfoList R}
  {oracle : W → Nat → Bool}

/-- The outcomes to come and the writes so far. -/
def observation (device : H → R) (oracle : W → Nat → Bool) (w : Logged W R H) :
    (Nat → Bool) × List (R × Int) := (oracle w.1, busWrites device w.2)

/-- The next outcome is used up and the write is recorded. -/
def observedWrite (r : R) (value : Int) (o : (Nat → Bool) × List (R × Int)) :
    Bool × (Nat → Bool) × List (R × Int) :=
  (o.1 0, fun n ↦ o.1 (n + 1), o.2 ++ [(r, word (hiByte value) (loByte value))])

/-- A call that is not a write is not observed. -/
theorem observation_append {w : Logged W R H} {w' : W} {o : (Nat → Bool) × List (R × Int)}
    (h : observation device oracle w = o) (e : DdcEvent R H) (he : busWrites device [e] = [])
    (hw : oracle w' = oracle w.1) : observation device oracle (w', w.2 ++ [e]) = o := by
  rw [← h, observation, observation, busWrites, List.filterMap_append, hw]
  apply congrArg (Prod.mk _)
  change busWrites device w.2 ++ busWrites device [e] = _
  rw [he, List.append_nil]

theorem answers_logged (h : Answers impl device fun _ ↦ True) :
    Answers impl.logged device fun _ ↦ True where
  openDisplay {w} r _ := by
    obtain ⟨d, w', ho, hd⟩ := h.openDisplay (w := w.1) r trivial
    exact ⟨d, (w', w.2 ++ [.opened r (some d)]), by simp only [Implementation.logged, ho], hd⟩
  read {w} d _ := h.read (w := w.1) d trivial
  keeps := ⟨id, fun _ ↦ id, fun _ ↦ id, fun _ ↦ id, fun _ _ ↦ id, id⟩

/-- What is observed of a steady backend depends on displays and values alone. -/
theorem observed (h : Steady impl device dlist oracle) :
    Observed (ddcProvider impl.logged) device (observation device oracle) observedWrite where
  keeps o := by
    refine Implementation.Keeps.ddcProvider ⟨?_, ?_, ?_, ?_, ?_, ?_⟩
    · exact fun {w} hw ↦ observation_append hw (.listed _) rfl
        ((h.keeps (oracle w.1)).getDisplayInfoList rfl)
    · exact fun {w} list hw ↦ observation_append hw (.freed list) rfl
        ((h.keeps (oracle w.1)).freeDisplayInfoList list rfl)
    · exact fun {w} r hw ↦ observation_append hw (.opened r _) rfl
        ((h.keeps (oracle w.1)).openDisplay r rfl)
    · exact fun {w} d hw ↦ observation_append hw (.closed d) rfl
        ((h.keeps (oracle w.1)).closeDisplay d rfl)
    · exact fun {w} d feature hw ↦ observation_append hw (.read d feature _) rfl
        ((h.keeps (oracle w.1)).getNonTableVcpValue d feature rfl)
    · intro w hw
      have hcalloc := (h.keeps (oracle w.1)).calloc (w := w.1) rfl
      rw [← hw]
      exact congrArg (·, busWrites device w.2) hcalloc
  set_eq s v w := by
    obtain ⟨hok, horacle⟩ :=
      h.write_eq s.ctx vcpBrightness (hiByte v) (loByte v) w.1
    refine Prod.ext hok (Prod.ext horacle ?_)
    exact List.filterMap_append

end Steady

/-- Two sessions have written the same values to the same displays, reported the same results
and arrived at the same dimmers. -/
structure Session.SameEffects (device : H → R) (s t : Session (Logged W R H) H) : Prop where
  writes : busWrites device s.world.2 = busWrites device t.world.2
  serviced : s.serviced = t.serviced
  displays : s.displays.map (fun m ↦ (m.src.id, device m.src.ctx, m.dim)) =
    t.displays.map fun m ↦ (m.src.id, device m.src.ctx, m.dim)

/-- **The idle poll is invisible while the display set is unchanged.**  Deleting every reconcile
from a run changes none of its effects, whatever the outcomes of its writes and allocations.  So
two runs that differ in their polls alone have the same effects: a poll may come twice, or
before or after any press and any pass. -/
theorem poll_is_invisible {impl : Implementation W R H} {device : H → R} {dlist : DisplayInfoList R}
    {oracle : W → Nat → Bool} (h : Steady impl device dlist oracle) (w : W) (ops : List Op) :
    let P := ddcProvider impl.logged
    let after (ops : List Op) := (Session.start P (w, [])).run P ops
    let unpolled (ops : List Op) := ops.filter (· ≠ .reconcile)
    (after ops).SameEffects device (after (unpolled ops)) ∧
      ∀ ops', unpolled ops' = unpolled ops → (after ops).SameEffects device (after ops') := by
  intro P after unpolled
  have hl (w : Logged W R H) : listed impl.logged w = externalsFrom 0 dlist.info := by
    change ((impl.getDisplayInfoList w.1).1.map _).getD [] = _
    rw [h.list_eq]
    rfl
  have hanswers := Steady.answers_logged h.answers
  have hobserved := h.observed
  have hagree (ops : List Op) : (after ops).Agree device (Steady.observation device oracle)
      (after (unpolled ops)) := by
    have hstart : (Session.start P (w, [])).Seated device (externalsFrom 0 dlist.info) ∧
        (Session.start P (w, [])).Agree device (Steady.observation device oracle)
          (Session.start P (w, [])) :=
      ⟨Session.seated_start hanswers hl (w, []), .refl _ _ _⟩
    refine (Run.foldl_filter_rel (R := fun s t ↦
      Session.Seated device (externalsFrom 0 dlist.info) s ∧
        Session.Agree device (Steady.observation device oracle) s t) ?_ ?_ ops hstart).2
    · rintro s t op hop ⟨hseated, hst⟩
      cases op with
      | adjust f => exact ⟨hseated.adjust P f, hst.adjust P f⟩
      | service => exact ⟨hseated.service P, hst.service hobserved⟩
      | reconcile => simp at hop
    · rintro s t op hop ⟨hseated, hst⟩
      cases op with
      | adjust f => simp at hop
      | service => simp at hop
      | reconcile =>
          obtain ⟨hseated', hviews⟩ := hseated.reconcile hanswers hl
          refine ⟨hseated', hviews.trans hst.views, ?_, hst.serviced⟩
          rw [← hst.obs_eq]
          obtain ⟨_ | c, w, results⟩ := s
          · rfl
          · exact (hobserved.keeps _).reconcile c rfl
  have heffects {s t : Session (Logged W R H) H}
      (hst : s.Agree device (Steady.observation device oracle) t) : s.SameEffects device t :=
    ⟨congrArg Prod.snd hst.obs_eq, hst.serviced, hst.views⟩
  refine ⟨heffects (hagree ops), fun ops' hops ↦ heffects ?_⟩
  have hops' := (hagree ops').symm
  rw [hops] at hops'
  exact (hagree ops).trans hops'

/-- A bench that lists the same displays at every poll is steady. -/
theorem steady_bench (dlist : DisplayInfoList Nat) :
    Steady (bench fun _ ↦ some dlist) BenchHandle.dref dlist fun _ _ ↦ true where
  answers := ⟨fun _ _ ↦ ⟨_, _, rfl, rfl⟩, fun _ _ ↦ ⟨_, rfl⟩,
    ⟨id, fun _ ↦ id, fun _ ↦ id, fun _ ↦ id, fun _ _ ↦ id, id⟩⟩
  list_eq _ := rfl
  keeps _ := ⟨id, fun _ ↦ id, fun _ ↦ id, fun _ ↦ id, fun _ _ ↦ id, id⟩
  write_eq _ _ _ _ _ := ⟨rfl, rfl⟩

/-- Two displays of one make, with a poll before and after each pass. -/
theorem poll_is_invisible_pending :
    let P := ddcProvider
      (bench fun _ ↦ some ⟨[⟨0, 0, 0, false⟩, ⟨1, 0, 0, false⟩], by decide⟩).logged
    let s := Session.start P (Bench.ready [⟨0, 100, 0, 50⟩, ⟨0, 200, 0, 20⟩], [])
    (s.run P [.adjust (1 / 16), .reconcile, .service, .reconcile, .adjust (-1 / 16), .reconcile,
      .service]).SameEffects BenchHandle.dref
        (s.run P [.adjust (1 / 16), .service, .adjust (-1 / 16), .service]) :=
  (poll_is_invisible (steady_bench _) _ _).2
    [.adjust (1 / 16), .service, .adjust (-1 / 16), .service] (by decide +kernel)

end Dimmit
