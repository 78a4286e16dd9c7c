import Dimmit.Ddc.Darwin.M1ddc
import Dimmit.DisplayController.Range

/-!
# Panels on Apple Silicon

A service drives one panel, and a display that does not resolve to its own service is opened
with whatever service the system falls back on.  Where that is always the display's own, every
source drives its own panel, and then a press moves each panel once and never the built-in one.
-/

namespace Dimmit

variable {W R H S I Packet Reply Ctx : Type}

/-! ## What the sources of an enumeration drive -/

/-- The entries of the list are displays of CoreGraphics, in its order. -/
theorem darwinDisplayInfos_sublist (cg : CoreGraphics W) (ids : List UInt32) (w : W) :
    ((darwinDisplayInfos cg ids w).1.map (·.dref.displayId)).Sublist ids := by
  induction ids generalizing w with
  | nil => exact .slnil
  | cons id ids ih =>
      rw [darwinDisplayInfos]
      rcases cg.alloc w with ⟨_ | _, w'⟩
      · exact (ih w').cons _
      · exact (ih w').cons_cons _

theorem mem_darwinDisplayInfos {cg : CoreGraphics W} {ids : List UInt32} {w : W}
    {info : DisplayInfo DarwinRef} (h : info ∈ (darwinDisplayInfos cg ids w).1) :
    ∃ id w', info = darwinDisplayInfo (darwinRef cg id w') := by
  induction ids generalizing w with
  | nil => cases h
  | cons id ids ih =>
      rw [darwinDisplayInfos] at h
      rcases ha : cg.alloc w with ⟨_ | _, w'⟩
      · rw [ha] at h
        exact ih h
      · rw [ha] at h
        rcases List.mem_cons.mp h with rfl | h
        · exact ⟨id, w', rfl⟩
        · exact ih h

/-- A list that is handed out is that of CoreGraphics' displays. -/
theorem darwinGetDisplayInfoList_eq_some {cg : CoreGraphics W} {w w' : W}
    {dlist : DisplayInfoList DarwinRef}
    (h : darwinGetDisplayInfoList cg w = (some dlist, w')) :
    ∃ displays w₁, (cg.getOnlineDisplayList 16 w).1 = some displays ∧
      dlist.info = (darwinDisplayInfos cg displays.1 w₁).1 := by
  unfold darwinGetDisplayInfoList at h
  rcases hl : cg.getOnlineDisplayList 16 w with ⟨_ | displays, w₁⟩
  · rw [hl] at h
    cases h
  simp only [hl] at h
  split_ifs at h
  · cases h
  rcases ha : cg.alloc w₁ with ⟨_ | _, w₂⟩
  · rw [ha] at h
    cases h
  rcases ha' : cg.alloc w₂ with ⟨_ | _, w₃⟩
  · simp only [ha, ha'] at h
    cases h
  simp only [ha, ha'] at h
  cases h
  exact ⟨displays, w₃, rfl, rfl⟩

/-- The panels are different, online and external. -/
structure AvPattern.Apart (p : AvPattern S I) (panels : List UInt32) : Prop where
  nodup : panels.Nodup
  external : ∀ id ∈ panels, p.builtin id = false

namespace AvPattern.FallsBackOnItself

variable {p : AvPattern S I} {cg : CoreGraphics W} {lib : M1ddc W S I Packet Reply}

/-- The sources of an enumeration drive different external panels. -/
theorem apart_ddcEnumerateSources (hp : p.FallsBackOnItself) (h : p.Followed cg lib) {w w' : W}
    {sources : List (BrightnessSource S)}
    (hen : ddcEnumerateSources (darwinImplementation cg (m1ddcArch lib)) w = (some sources, w')) :
    p.Apart (sources.map fun src ↦ p.panel src.ctx) := by
  obtain ⟨_, -, he⟩ | ⟨_, _, _, -, -, he⟩ | ⟨dlist, _, w₂, hlist, -, he⟩ :=
    ddcEnumerateSources_cases (darwinImplementation cg (m1ddcArch lib)) w <;>
    rw [hen] at he <;> cases he
  · exact ⟨List.nodup_nil, fun _ hm ↦ nomatch hm⟩
  · obtain ⟨displays, w₁, hdisplays, hinfos⟩ := darwinGetDisplayInfoList_eq_some hlist
    have honline : displays.1 = p.online := by
      rw [h.getOnlineDisplayList w] at hdisplays
      cases hdisplays
      rfl
    have hids : (dlist.info.map (·.dref.displayId)).Sublist p.online := by
      rw [hinfos, honline]
      exact darwinDisplayInfos_sublist cg p.online w₁
    have hbuiltin : ∀ info ∈ dlist.info,
        info.isBuiltin = p.builtin info.dref.displayId ∧ info.dref.isBuiltin = info.isBuiltin := by
      intro info hm
      rw [hinfos] at hm
      obtain ⟨id, w', rfl⟩ := mem_darwinDisplayInfos hm
      exact ⟨h.isBuiltin id w', rfl⟩
    have hopen : ∀ info ∈ dlist.info, info.isBuiltin = false → ∀ w, ∀ svc ∈
        ((darwinImplementation cg (m1ddcArch lib)).openDisplay info.dref w).1,
        p.panel svc = info.dref.displayId := by
      intro info hinfo hb w svc hsvc
      obtain ⟨hb', href⟩ := hbuiltin info hinfo
      have hopen : svc ∈ (m1ddcOpen lib info.dref w).1 := by
        change svc ∈ (darwinOpenDisplay (m1ddcArch lib) info.dref w).1 at hsvc
        rwa [darwinOpenDisplay, if_neg (by simp [href, hb])] at hsvc
      exact hp.panel_eq h (hids.subset (List.mem_map_of_mem hinfo)) (hb'.symm.trans hb) hopen
    have hsub := drives_enumerateFrom_sublist hopen 0 w₂
    have hseats : ((dlist.info.filter fun info ↦ !info.isBuiltin).map
        (·.dref.displayId)).Sublist p.online :=
      (List.filter_sublist.map _).trans hids
    refine ⟨hsub.nodup (hseats.nodup p.nodup), ?_⟩
    intro id hid
    obtain ⟨info, hinfo, rfl⟩ := List.mem_map.mp (hsub.subset hid)
    obtain ⟨hinfo, hb⟩ := List.mem_filter.mp hinfo
    rw [← (hbuiltin info hinfo).1]
    simpa using hb

end AvPattern.FallsBackOnItself

/-! ## What one press writes -/

/-- A pass goes through each source at most once, in order. -/
theorem source_serviceDisplays_sublist (P : Provider W Ctx) (ms : List (ManagedDisplay Ctx))
    (w : W × List (OpsEvent Ctx)) :
    ∃ events, (Controller.serviceDisplays P.logged ms w).2.2.2 = w.2 ++ events ∧
      (events.map OpsEvent.source).Sublist (ms.map (·.src)) := by
  induction ms generalizing w with
  | nil => exact ⟨[], (List.append_nil _).symm, .slnil⟩
  | cons m ms ih =>
      have hfirst : ∃ events, (Controller.serviceDisplay P.logged m w).2.2.2 = w.2 ++ events ∧
          (events.map OpsEvent.source).Sublist [m.src] := by
        unfold Controller.serviceDisplay
        cases dimmerDue m.dim with
        | none => exact ⟨[], (List.append_nil _).symm, List.nil_sublist _⟩
        | some target =>
            refine ⟨[.set m.src target (P.set m.src target w.1).1], ?_, List.Sublist.refl _⟩
            rcases hs : P.set m.src target w.1 with ⟨_ | _, w'⟩ <;> simp [Provider.logged, hs]
      obtain ⟨events, hlog, hsub⟩ := hfirst
      obtain ⟨events', hlog', hsub'⟩ := ih (Controller.serviceDisplay P.logged m w).2.2
      refine ⟨events ++ events', ?_, ?_⟩
      · rw [← List.append_assoc, ← hlog]
        exact hlog'
      · rw [List.map_append]
        exact hsub.append hsub'

namespace Session

theorem source_calls_service_sublist (P : Provider W Ctx)
    (s : Session (W × List (OpsEvent Ctx)) Ctx) :
    ((s.calls P .service).map OpsEvent.source).Sublist (s.displays.map (·.src)) := by
  obtain ⟨events, hlog, hsub⟩ := source_serviceDisplays_sublist P s.displays s.world
  rwa [calls_service_eq hlog]

/-- The sources of the displays are those of the controller. -/
theorem Reachable.map_src {P : Provider W Ctx} {s : Session W Ctx} (h : s.Reachable P) :
    s.displays.map (·.src) = s.sources := by
  obtain ⟨_ | c, w, results⟩ := s
  · rfl
  · exact h.parallel c rfl

/-- What a pass writes after a press is each display's level, one step on. -/
theorem Reachable.eq_step_of_mem_calls {impl : Implementation W R H}
    {s : Session (W × List (OpsEvent H)) H} (h : s.Reachable (ddcProvider impl).logged)
    {f : ℚ} {e : OpsEvent H}
    (he : e ∈ (s.step (ddcProvider impl).logged (.adjust f)).calls (ddcProvider impl) .service) :
    ∃ m ∈ s.displays, ∃ ok, e = .set m.src
      (clampBrightness (m.dim.level + dimmerDeltaForFraction m.dim.max f) m.dim.max) ok := by
  have hs := h.step (.adjust f)
  obtain ⟨events, hlog, hset, -⟩ := serviceDisplays_logged (ddcProvider impl)
    (s.step (ddcProvider impl).logged (.adjust f)).displays
    (s.step (ddcProvider impl).logged (.adjust f)).world
  rw [calls_service_eq hlog] at he
  obtain ⟨m', hm', v, ok, rfl, hdue⟩ := hset e he
  obtain ⟨rfl, -⟩ := (hs.bounded m' hm').aimed.target_eq hdue
  rw [displays_step_adjust] at hm'
  obtain ⟨m, hm, rfl⟩ := List.mem_map.mp hm'
  refine ⟨m, hm, ok, congrArg (OpsEvent.set m.src · ok) ?_⟩
  exact level_dimmerAdjust m.dim _

end Session

/-! ## Every handle drives its own display -/

namespace AvPattern

variable (p : AvPattern S I)

/-- In every run of the machine, each handle that is opened for an external display drives that
display. -/
def HandlesDriveTheirs : Prop :=
  ∀ (W Packet Reply : Type) (cg : CoreGraphics W) (lib : M1ddc W S I Packet Reply),
    p.Followed cg lib → ∀ (dref : DarwinRef) (w : W), dref.displayId ∈ p.online →
      dref.isBuiltin = p.builtin dref.displayId →
      ∀ svc ∈ (darwinOpenDisplay (m1ddcArch lib) dref w).1, p.panel svc = dref.displayId

/-- In every run, the sources of an enumeration drive different external panels. -/
def SourcesApart : Prop :=
  ∀ (W Packet Reply : Type) (cg : CoreGraphics W) (lib : M1ddc W S I Packet Reply),
    p.Followed cg lib → ∀ w sources w',
      ddcEnumerateSources (darwinImplementation cg (m1ddcArch lib)) w = (some sources, w') →
      p.Apart (sources.map fun src ↦ p.panel src.ctx)

/-- In every state of every run, a press and the pass after it write each panel at most once,
one step from the level of its display, and never the built-in one. -/
def PressMovesEachOnce : Prop :=
  ∀ (W Packet Reply : Type) (cg : CoreGraphics W) (lib : M1ddc W S I Packet Reply),
    p.Followed cg lib →
    let P := ddcProvider (darwinImplementation cg (m1ddcArch lib))
    ∀ (s : Session (W × List (OpsEvent S)) S) (f : ℚ), s.Reachable P.logged →
      let calls := (s.step P.logged (.adjust f)).calls P .service
      p.Apart (calls.map fun e ↦ p.panel e.source.ctx) ∧
      ∀ e ∈ calls, ∃ m ∈ s.displays, ∃ ok, e = .set m.src
        (clampBrightness (m.dim.level + dimmerDeltaForFraction m.dim.max f) m.dim.max) ok

variable {p}

theorem Apart.sublist {panels panels' : List UInt32} (h : p.Apart panels)
    (hsub : panels'.Sublist panels) : p.Apart panels' :=
  ⟨hsub.nodup h.nodup, fun id hid ↦ h.external id (hsub.subset hid)⟩

theorem FallsBackOnItself.handlesDriveTheirs (hp : p.FallsBackOnItself) :
    p.HandlesDriveTheirs := by
  intro W Packet Reply cg lib h dref w hmem hb svc hsvc
  unfold darwinOpenDisplay at hsvc
  split_ifs at hsvc with hext
  · cases hsvc
  · exact hp.panel_eq h hmem (hb.symm.trans (by simpa using hext)) hsvc

theorem FallsBackOnItself.pressMovesEachOnce (hp : p.FallsBackOnItself) :
    p.PressMovesEachOnce := by
  intro W Packet Reply cg lib h P s f hs
  have hapart : p.Apart ((s.step P.logged (.adjust f)).sources.map fun src ↦ p.panel src.ctx) := by
    have hrule := (hs.step (.adjust f)).forall_sources
      (Q := fun sources ↦ p.Apart (sources.map fun src ↦ p.panel src.ctx)) (by
        intro w sources w' hen
        have hfst : (P.enumerate w.1).1 = some sources := congrArg Prod.fst hen
        have hen' : P.enumerate w.1 = (some sources, (P.enumerate w.1).2) := Prod.ext hfst rfl
        exact hp.apart_ddcEnumerateSources h hen')
    obtain ⟨_ | c, w, results⟩ := s
    · exact ⟨List.nodup_nil, fun _ hm ↦ nomatch hm⟩
    · exact hrule _ rfl
  refine ⟨hapart.sublist ?_, fun e he ↦ hs.eq_step_of_mem_calls he⟩
  have hsub := (Session.source_calls_service_sublist P (s.step P.logged (.adjust f))).map
    fun src ↦ p.panel src.ctx
  rw [(hs.step (.adjust f)).map_src, List.map_map] at hsub
  exact hsub

/-- A machine on which every call succeeds, as the pattern has it. -/
def graphics (p : AvPattern S I) : CoreGraphics Unit where
  getOnlineDisplayList room w :=
    if h : p.online.length ≤ room then (some ⟨p.online, h⟩, w) else (none, w)
  vendorNumber _ _ := 0
  modelNumber _ _ := 0
  isBuiltin id _ := p.builtin id
  alloc w := (true, w)

/-- The library on that machine. -/
def services (p : AvPattern S I) : M1ddc Unit S I Unit Unit where
  getOnlineDisplayInfos w := (p.infos, w)
  getDisplayAVService info w := (p.own info, w)
  getDefaultDisplayAVService w := (p.fallback, w)
  cfRelease _ w := w
  readRequest _ := ()
  writeRequest _ _ := ()
  performDDCWrite _ _ w := (true, w)
  performDDCRead _ _ w := (some (), w)
  convertI2CtoDDC _ := (50, 100)
  alloc w := (true, w)

theorem followed_graphics_services (p : AvPattern S I) : p.Followed p.graphics p.services where
  getOnlineDisplayList _ := congrArg Prod.fst (dif_pos p.room)
  isBuiltin _ _ := rfl
  getOnlineDisplayInfos _ := rfl
  getDisplayAVService _ _ := rfl
  getDefaultDisplayAVService _ := rfl

/-- A display that does not resolve is opened with the fallback. -/
theorem HandlesDriveTheirs.fallsBackOnItself (h : p.HandlesDriveTheirs) :
    p.FallsBackOnItself := by
  intro id hmem hext hres svc hsvc
  have hservice : (m1ddcService p.services id ()).1 = some svc := by
    rw [p.followed_graphics_services.m1ddcService_fst id (), hres, Option.none_or]
    exact hsvc
  refine h Unit Unit Unit p.graphics p.services p.followed_graphics_services
    ⟨id, 0, 0, false⟩ () hmem hext.symm svc ?_
  change svc ∈ (m1ddcOpen p.services ⟨id, 0, 0, false⟩ ()).1
  unfold m1ddcOpen
  rcases hs : m1ddcService p.services id () with ⟨_ | svc', _⟩
  · rw [hs] at hservice
    cases hservice
  · rw [hs] at hservice
    cases hservice
    rfl

end AvPattern

/-- **A handle drives its own display unless the fallback steps in.**

For every machine, that is, every list of online displays and every way in which they resolve:
the handles drive the displays they were opened for, an enumeration never returns two sources
of one panel, and a press moves each panel by one step at most once and never the built-in one,
exactly when each external display that does not resolve finds its own service, or none, as
the system's default. -/
theorem handles_drive_theirs_iff (p : AvPattern S I) :
    (p.HandlesDriveTheirs ∧ p.SourcesApart ∧ p.PressMovesEachOnce) ↔ p.FallsBackOnItself := by
  constructor
  · rintro ⟨h, -, -⟩
    exact h.fallsBackOnItself
  · intro hp
    refine ⟨hp.handlesDriveTheirs, ?_, hp.pressMovesEachOnce⟩
    intro W Packet Reply cg lib h w sources w' hen
    exact hp.apart_ddcEnumerateSources h hen

/-- A laptop with an external display whose lookup fails while the default is the panel. -/
def clamshell : AvPattern UInt32 Unit where
  online := [1, 2]
  infos := [(1, ()), (2, ())]
  builtin id := id == 1
  panel svc := svc
  own _ := none
  fallback := some 1
  room := by decide
  nodup := by decide
  panel_own := fun _ _ h ↦ nomatch h
  panel_fallback := by rintro _ ⟨⟩; decide

/-- The source for the external display drives the built-in panel. -/
theorem clamshell_drives_builtin :
    (darwinOpenDisplay (m1ddcArch clamshell.services) ⟨2, 0, 0, false⟩ ()).1 = some 1 ∧
      clamshell.builtin 1 = true ∧
      (ddcEnumerateSources (darwinImplementation clamshell.graphics (m1ddcArch clamshell.services))
        ()).1.map (fun sources ↦ sources.map fun src ↦ clamshell.panel src.ctx) = some [1] := by
  refine ⟨rfl, rfl, ?_⟩
  decide

end Dimmit
