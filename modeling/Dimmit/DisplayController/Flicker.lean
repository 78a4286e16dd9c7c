import Dimmit.DisplayController.Eager
import Dimmit.DisplayController.Exclusive

/-!
# Displays that flicker

On a backend that opens a display only once, a poll lets go of all displays and the next one takes
them back.  To their users such displays are there at every other poll: what is pressed while they
are away is lost, and so is what was pressed before they went and not written yet.  `Flicker` is
that machine, and the controller refines it.
-/

namespace Dimmit

variable {W R H : Type}

/-- Displays that are away at every other poll: what they show, and where they are heading. -/
structure Flicker (R : Type) where
  attached : Bool
  shown : R → Int
  heading : R → Int

namespace Flicker

/-- At first they are there, and show their registers. -/
def start (register : R → NonTableVcpValue) : Flicker R where
  attached := true
  shown r := (register r).shown
  heading r := (register r).shown

def step (register : R → NonTableVcpValue) (f : Flicker R) : Op → Flicker R
  | .adjust fraction =>
    if f.attached then { f with heading := eagerPress register f.heading fraction } else f
  | .service => if f.attached then { f with shown := f.heading } else f
  -- what was not written is lost
  | .reconcile => { f with attached := !f.attached, heading := f.shown }

/-- They are there when the number of polls is even. -/
theorem attached_foldl_iff (register : R → NonTableVcpValue) (ops : List Op) :
    (ops.foldl (step register) (start register)).attached = true ↔ Even (ops.count .reconcile) := by
  induction ops using List.reverseRecOn with
  | nil => exact iff_of_true rfl Even.zero
  | append_singleton ops op ih =>
      rw [List.foldl_append, List.count_append]
      change (step register _ op).attached = true ↔ _
      have hsame (hop : op ≠ .reconcile) : List.count .reconcile [op] = 0 :=
        List.count_eq_zero_of_not_mem fun hm ↦ hop (List.mem_singleton.mp hm).symm
      cases op with
      | adjust fraction =>
          rw [step, hsame nofun, Nat.add_zero, ← ih]
          split_ifs <;> rfl
      | service =>
          rw [step, hsame nofun, Nat.add_zero, ← ih]
          split_ifs <;> rfl
      | reconcile =>
          rw [step, List.count_singleton_self, Nat.even_add_one, ← ih]
          simp

end Flicker

/-- An exclusive backend whose displays answer what is in their registers and take what is written
to them. -/
structure ExclusiveRegisters (impl : Implementation W R H) (device : H → R)
    (dlist : DisplayInfoList R) (held : W → Set R) (register : W → R → NonTableVcpValue) :
    Prop extends Exclusive impl device dlist held where
  /-- The external displays are different ones. -/
  nodup : ((dlist.info.filter fun info ↦ !info.isBuiltin).map (·.dref)).Nodup
  read_eq : ∀ h w, (impl.getNonTableVcpValue h vcpBrightness w).1 = some (register w (device h))
  register_eq : ∀ ρ, impl.Keeps fun w ↦ register w = ρ
  written : ∀ h hi lo {w}, word hi lo ≤ (register w (device h)).top →
    register (impl.setNonTableVcpValue h vcpBrightness hi lo w).2 (device h) =
      { register w (device h) with sh := hi, sl := lo }
  kept : ∀ h hi lo {w}, word hi lo ≤ (register w (device h)).top → ∀ r ≠ device h,
    register (impl.setNonTableVcpValue h vcpBrightness hi lo w).2 r = register w r

/-- Every external display of the list has an open handle. -/
def Busy (held : W → Set R) (dlist : DisplayInfoList R) (w : W) : Prop :=
  ∀ p ∈ externalsFrom 0 dlist.info, p.2.dref ∈ held w

/-- None of them has. -/
def Free (held : W → Set R) (dlist : DisplayInfoList R) (w : W) : Prop :=
  ∀ p ∈ externalsFrom 0 dlist.info, p.2.dref ∉ held w

namespace ExclusiveRegisters

variable {impl : Implementation W R H} {device : H → R} {dlist : DisplayInfoList R}
  {held : W → Set R} {register : W → R → NonTableVcpValue}

theorem keeps (h : ExclusiveRegisters impl device dlist held register)
    (ρ : R → NonTableVcpValue) : (ddcProvider impl).Keeps fun w ↦ register w = ρ :=
  (h.register_eq ρ).ddcProvider

theorem writes (h : ExclusiveRegisters impl device dlist held register) :
    Writes impl device register (Busy held dlist) where
  wrote {w} d hi lo _ _ := by
    obtain ⟨w', hw', -⟩ := h.write d vcpBrightness hi lo w
    rw [hw']
  up_wrote {w} d hi lo hw _ := by
    obtain ⟨w', hw', hheld⟩ := h.write d vcpBrightness hi lo w
    rw [hw']
    exact fun p hp ↦ hheld ▸ hw p hp
  written d hi lo _ := h.written d hi lo
  kept d hi lo _ := h.kept d hi lo

theorem nodup_externals (h : ExclusiveRegisters impl device dlist held register) :
    ((externalsFrom 0 dlist.info).map (·.2.dref)).Nodup := by
  have hn := h.nodup
  rwa [← externalsFrom_map_snd 0, List.map_map] at hn

theorem initialDimmer_eq (h : ExclusiveRegisters impl device dlist held register)
    (s : BrightnessSource H) (w : W) :
    (initialDimmer (ddcProvider impl) s w).1 = readDimmer (register w (device s.ctx)) := by
  rw [initialDimmer_fst, ddcProvider_get_fst, h.read_eq s.ctx w]
  rfl

/-! ## Taking the displays, and letting go of them -/

/-- An enumeration that finds the displays free opens them all. -/
theorem exists_enumerate_free (h : ExclusiveRegisters impl device dlist held register) {w : W}
    (hw : Free held dlist w) :
    ∃ sources w', (ddcProvider impl).enumerate w = (some sources, w') ∧
      List.Forall₂ (OpenedFor device) sources (externalsFrom 0 dlist.info) ∧
      Busy held dlist w' ∧ register w' = register w := by
  obtain ⟨w₁, hw₁, hen⟩ := h.exists_enumerate w
  obtain ⟨hseats, -, hall⟩ := h.enumerateFrom_free dlist.info 0 h.nodup_externals (w := w₁)
    fun p hp ↦ hw₁ ▸ hw p hp
  refine ⟨_, _, hen, hseats, fun p hp ↦ ?_, ?_⟩
  · rw [h.held_free]
    exact hall p hp
  · have hkept := (h.keeps (register w)).enumerate (w := w) rfl
    rwa [show (ddcProvider impl).enumerate w = _ from hen] at hkept

/-- An enumeration that finds them busy opens none. -/
theorem exists_enumerate_busy (h : ExclusiveRegisters impl device dlist held register) {w : W}
    (hw : Busy held dlist w) : ∃ w', (ddcProvider impl).enumerate w = (some [], w') := by
  obtain ⟨w₁, hw₁, hen⟩ := h.exists_enumerate w
  rw [h.enumerateFrom_busy dlist.info 0 fun p hp ↦ hw₁ ▸ hw p hp] at hen
  exact ⟨_, hen⟩

theorem held_closeVanished (h : ExclusiveRegisters impl device dlist held register)
    (sources : List (BrightnessSource H)) (w : W) :
    held (Controller.closeVanished (ddcProvider impl) [] sources w) =
      held w \ {r | ∃ s ∈ sources, device s.ctx = r} := by
  induction sources generalizing w with
  | nil => simp [Controller.closeVanished]
  | cons s sources ih =>
      change held (Controller.closeVanished (ddcProvider impl) [] sources
        (impl.closeDisplay s.ctx w)) = _
      rw [ih, h.held_close]
      ext r
      simp [and_assoc, eq_comm]

/-- The array of displays is allocated if there are any, and nothing changes. -/
theorem of_array (h : ExclusiveRegisters impl device dlist held register) {w w' : W}
    {empty nonempty : Prop}
    (hc : empty ∧ w' = w ∨ nonempty ∧ (ddcProvider impl).calloc w = (true, w')) :
    held w' = held w ∧ register w' = register w :=
  Provider.of_array (J := fun y ↦ held y = held w ∧ register y = register w) hc ⟨rfl, rfl⟩
    ⟨h.held_calloc w, (h.keeps (register w)).calloc rfl⟩

theorem held_nextDisplays (h : ExclusiveRegisters impl device dlist held register)
    (c : Controller H) (fresh : List (BrightnessSource H)) (w : W) :
    held (Controller.nextDisplays (ddcProvider impl) c fresh w).2 = held w := by
  induction fresh generalizing w with
  | nil => rfl
  | cons s fresh ih =>
      rw [Controller.nextDisplays]
      cases c.matched s.id with
      | some dim => exact ih w
      | none => exact (ih _).trans (h.held_initialDimmer s w)

/-- A session whose displays were just read. -/
theorem reflects_of_read {s : Session W H} {c : Controller H} {first : R → NonTableVcpValue}
    (hc : s.controller = some c)
    (hseats : List.Forall₂ (OpenedFor device) c.sources (externalsFrom 0 dlist.info))
    (hdisplays : c.displays =
      c.sources.map fun src ↦ ⟨src, readDimmer (register s.world (device src.ctx))⟩)
    (hbusy : Busy held dlist s.world) (htop : ∀ r, (register s.world r).top = (first r).top)
    (hothers : ∀ r, (∀ p ∈ externalsFrom 0 dlist.info, p.2.dref ≠ r) →
      register s.world r = first r) :
    s.Reflects device register (Busy held dlist) (externalsFrom 0 dlist.info) first
      fun r ↦ (register s.world r).shown := by
  have hpar : c.Parallel := by
    rw [Controller.Parallel, hdisplays, List.map_map]
    exact List.map_id c.sources
  have hread : ∀ m ∈ s.displays, m.dim = readDimmer (register s.world (device m.src.ctx)) := by
    rw [Session.displays, hc]
    intro m hm
    change m ∈ c.displays at hm
    rw [hdisplays] at hm
    obtain ⟨src, -, rfl⟩ := List.mem_map.mp hm
    rfl
  have hseated : s.Seated device (externalsFrom 0 dlist.info) := by
    constructor <;> rw [hc] <;> rintro _ ⟨⟩
    · exact hpar
    · exact hseats
  exact .of_read hbusy hseated hread htop hothers

end ExclusiveRegisters

/-! ## The refinement -/

/-- The session does what the flickering displays do. -/
structure Session.Flickers (device : H → R) (register : W → R → NonTableVcpValue)
    (held : W → Set R) (dlist : DisplayInfoList R) (first : R → NonTableVcpValue) (f : Flicker R)
    (s : Session W H) : Prop where
  top_eq : ∀ r, (register s.world r).top = (first r).top
  /-- No other display is touched. -/
  others : ∀ r, (∀ p ∈ externalsFrom 0 dlist.info, p.2.dref ≠ r) → register s.world r = first r
  shown_eq : ∀ p ∈ externalsFrom 0 dlist.info,
    (register s.world p.2.dref).shown = f.shown p.2.dref
  attached : f.attached = true → s.controller ≠ none ∧ s.Reflects device register
    (Busy held dlist) (externalsFrom 0 dlist.info) first f.heading
  detached : f.attached = false → s.controller = some ⟨[], []⟩ ∧ Free held dlist s.world

namespace Session.Flickers

variable {impl : Implementation W R H} {device : H → R} {dlist : DisplayInfoList R}
  {held : W → Set R} {register : W → R → NonTableVcpValue} {first : R → NonTableVcpValue}
  {f : Flicker R} {s : Session W H}

theorem adjust (hs : s.Flickers device register held dlist first f) (P : Provider W H)
    (fraction : ℚ) :
    (s.step P (.adjust fraction)).Flickers device register held dlist first
      (f.step first (.adjust fraction)) := by
  rw [Flicker.step]
  cases hf : f.attached with
  | true =>
      obtain ⟨hopen, hreflects⟩ := hs.attached hf
      rw [if_pos rfl]
      exact ⟨hs.top_eq, hs.others, hs.shown_eq,
        fun _ ↦ ⟨controller_step_ne_none hopen _, hreflects.adjust P fraction⟩, nofun⟩
  | false =>
      obtain ⟨hnone, hfree⟩ := hs.detached hf
      rw [if_neg nofun]
      refine ⟨hs.top_eq, hs.others, hs.shown_eq, fun hyes ↦ absurd (hf.symm.trans hyes) nofun,
        fun _ ↦ ⟨?_, hfree⟩⟩
      rw [Session.step, hnone]
      rfl

theorem service (h : ExclusiveRegisters impl device dlist held register)
    (hs : s.Flickers device register held dlist first f) :
    (s.step (ddcProvider impl) .service).Flickers device register held dlist first
      (f.step first .service) := by
  rw [Flicker.step]
  cases hf : f.attached with
  | true =>
      obtain ⟨hopen, hreflects⟩ := hs.attached hf
      have hopen' := controller_step_ne_none (P := ddcProvider impl) hopen .service
      have hreflects' := hreflects.service h.writes h.nodup
      have hpending : ∀ m ∈ (s.step (ddcProvider impl) .service).displays,
          m.dim.pendingDelta = 0 := by
        rw [displays_step_service]
        intro m' hm'
        obtain ⟨m, hm, ok, rfl⟩ := Related.exists_of_mem_right
          (Controller.forall₂_serviceDisplays (ddcProvider impl) s.displays s.world) hm'
        exact (hreflects.bounded m hm).aimed.pendingDelta_dimmerServiced ok
      rw [if_pos rfl]
      refine ⟨hreflects'.top_eq, hreflects'.others, fun p hp ↦ ?_, fun _ ↦ ⟨hopen', hreflects'⟩,
        nofun⟩
      obtain ⟨hmem, hext⟩ := mem_of_mem_externalsFrom hp
      exact hreflects'.shown hpending hopen' hmem hext
  | false =>
      obtain ⟨hnone, hfree⟩ := hs.detached hf
      obtain ⟨_, w, results⟩ := s
      subst hnone
      rw [if_neg nofun]
      exact ⟨hs.top_eq, hs.others, hs.shown_eq, fun hyes ↦ absurd (hf.symm.trans hyes) nofun,
        fun _ ↦ ⟨rfl, hfree⟩⟩

/-- A poll lets go of displays that are attached. -/
theorem letGo (h : ExclusiveRegisters impl device dlist held register)
    (hs : s.Flickers device register held dlist first f) (hf : f.attached = true) :
    (s.step (ddcProvider impl) .reconcile).controller = some ⟨[], []⟩ ∧
      Free held dlist (s.step (ddcProvider impl) .reconcile).world := by
  obtain ⟨hopen, hreflects⟩ := hs.attached hf
  obtain ⟨_ | c, w, results⟩ := s
  · exact absurd rfl hopen
  obtain ⟨w', hen⟩ := h.exists_enumerate_busy hreflects.up
  have hpoll : c.reconcile (ddcProvider impl) w =
      (⟨[], []⟩, Controller.closeVanished (ddcProvider impl) [] c.sources w') := by
    rw [Controller.reconcile, hen]
    rfl
  constructor
  · exact congrArg (fun r ↦ some r.1) hpoll
  · change Free held dlist (c.reconcile (ddcProvider impl) w).2
    rw [hpoll]
    intro p hp hheld
    rw [h.held_closeVanished] at hheld
    obtain ⟨src, hsrc, hopened⟩ := Related.exists_of_mem_right (hreflects.seated.seats c rfl) hp
    exact hheld.2 ⟨src, hsrc, hopened.device_eq⟩

/-- And takes back displays that are not. -/
theorem takeBack (h : ExclusiveRegisters impl device dlist held register)
    (hs : s.Flickers device register held dlist first f) (hf : f.attached = false) :
    (s.step (ddcProvider impl) .reconcile).controller ≠ none ∧
      (s.step (ddcProvider impl) .reconcile).Reflects device register (Busy held dlist)
        (externalsFrom 0 dlist.info) first
        fun r ↦ (register (s.step (ddcProvider impl) .reconcile).world r).shown := by
  obtain ⟨hnone, hfree⟩ := hs.detached hf
  obtain ⟨_, w, results⟩ := s
  subst hnone
  obtain ⟨sources, w₁, hen, hseats, hbusy, hsame⟩ := h.exists_enumerate_free hfree
  have hfull (y : W) {y' : W} : (ddcProvider impl).calloc y ≠ (false, y') := fun hc ↦
    absurd ((congrArg Prod.fst hc).symm.trans (h.calloc y)) nofun
  obtain ⟨_, hen', -⟩ | ⟨_, _, _, -, -, hc, -⟩ | ⟨fresh, w', w₂, hen', hc, he⟩ :=
    Controller.reconcile_cases (ddcProvider impl) ⟨[], []⟩ w
  · cases hen.symm.trans hen'
  · exact absurd hc (hfull _)
  cases hen.symm.trans hen'
  obtain ⟨hheld, hkept⟩ := h.of_array hc
  have hworld : register w₂ = register w := hkept.trans hsame
  have hreads := (h.keeps (register w)).nextDisplays_eq
    (fun src w' hw' ↦ by rw [h.initialDimmer_eq src w', hw']) ⟨[], []⟩ sources hworld
  have hworld' := (h.keeps (register w)).nextDisplays ⟨[], []⟩ sources hworld
  have hbusy' : Busy held dlist
      (Controller.nextDisplays (ddcProvider impl) ⟨[], []⟩ sources w₂).2 := by
    intro p hp
    rw [h.held_nextDisplays, hheld]
    exact hbusy p hp
  refine ⟨nofun, ?_⟩
  have hstep : (⟨some ⟨[], []⟩, w, results⟩ : Session W H).step (ddcProvider impl) .reconcile =
      ⟨some ⟨sources, (Controller.nextDisplays (ddcProvider impl) ⟨[], []⟩ sources w₂).1⟩,
        (Controller.nextDisplays (ddcProvider impl) ⟨[], []⟩ sources w₂).2, results⟩ := by
    change (⟨some (Controller.reconcile (ddcProvider impl) ⟨[], []⟩ w).1,
      (Controller.reconcile (ddcProvider impl) ⟨[], []⟩ w).2, results⟩ : Session W H) = _
    rw [he]
    rfl
  rw [hstep]
  refine ExclusiveRegisters.reflects_of_read rfl hseats ?_ hbusy' (fun r ↦ ?_) fun r hr ↦ ?_
  · rw [hworld']
    exact hreads
  · rw [hworld']
    exact hs.top_eq r
  · rw [hworld']
    exact hs.others r hr

theorem reconcile (h : ExclusiveRegisters impl device dlist held register)
    (hs : s.Flickers device register held dlist first f) :
    (s.step (ddcProvider impl) .reconcile).Flickers device register held dlist first
      (f.step first .reconcile) := by
  have hworld : register (s.step (ddcProvider impl) .reconcile).world = register s.world := by
    obtain ⟨_ | c, w, results⟩ := s
    · rfl
    · exact (h.keeps (register w)).reconcile c rfl
  refine ⟨fun r ↦ ?_, fun r hr ↦ ?_, fun p hp ↦ ?_, fun hf ↦ ?_, fun hf ↦ ?_⟩
  · rw [hworld]
    exact hs.top_eq r
  · rw [hworld]
    exact hs.others r hr
  · rw [hworld]
    exact hs.shown_eq p hp
  · obtain ⟨hopen, hreflects⟩ := hs.takeBack h (by simpa [Flicker.step] using hf)
    refine ⟨hopen, hreflects.congr_level fun p hp ↦ ?_⟩
    rw [hworld]
    exact hs.shown_eq p hp
  · exact hs.letGo h (by simpa [Flicker.step] using hf)

/-- `controller_open` takes the displays, which are free. -/
theorem start (h : ExclusiveRegisters impl device dlist held register) {w : W}
    (hw : held w = ∅) : (Session.start (ddcProvider impl) w).Flickers device register held dlist
      (register w) (.start (register w)) := by
  have hworld : register (Session.start (ddcProvider impl) w).world = register w :=
    (h.keeps (register w)).controllerOpen rfl
  refine ⟨fun r ↦ congrArg NonTableVcpValue.top (congrFun hworld r), fun r _ ↦ congrFun hworld r,
    fun p _ ↦ congrArg NonTableVcpValue.shown (congrFun hworld p.2.dref), fun _ ↦ ?_, nofun⟩
  obtain ⟨⟨c, hc, -⟩, hbusy⟩ := h.full_start h.nodup_externals hw
  obtain ⟨w₁, sources, w₂, w₃, hcalloc, hen, hcalloc', -, rfl⟩ := controllerOpen_eq_some hc
  have hfree : Free held dlist w₁ := by
    have hheld := h.held_calloc w
    rw [show impl.calloc w = _ from hcalloc, hw] at hheld
    exact fun p _ hm ↦ Set.notMem_empty _ (hheld ▸ hm)
  obtain ⟨_, _, hen', hseats, -, hsame⟩ := h.exists_enumerate_free hfree
  cases hen.symm.trans hen'
  have hworld₁ : register w₁ = register w := (h.keeps (register w)).of_calloc hcalloc rfl
  have hworld₃ : register w₃ = register w :=
    (h.of_array hcalloc').2.trans (hsame.trans hworld₁)
  have hreads := (h.keeps (register w)).openDisplays_eq
    (fun src w' hw' ↦ by rw [h.initialDimmer_eq src w', hw']) sources hworld₃
  rw [← hworld] at hreads
  have hreflects := ExclusiveRegisters.reflects_of_read hc hseats hreads hbusy
    (fun r ↦ congrArg NonTableVcpValue.top (congrFun hworld r)) fun r _ ↦ congrFun hworld r
  rw [hworld] at hreflects
  exact ⟨by rw [hc]; nofun, hreflects⟩

/-- **The controller refines the flickering displays**, in every run. -/
theorem run (h : ExclusiveRegisters impl device dlist held register) {w : W} (hw : held w = ∅)
    (ops : List Op) :
    ((Session.start (ddcProvider impl) w).run (ddcProvider impl) ops).Flickers device register held
      dlist (register w) (ops.foldl (Flicker.step (register w)) (.start (register w))) := by
  induction ops using List.reverseRecOn with
  | nil => exact start h hw
  | append_singleton ops op ih =>
      rw [Session.run_append, List.foldl_append]
      cases op with
      | adjust fraction => exact ih.adjust (ddcProvider impl) fraction
      | service => exact ih.service h
      | reconcile => exact ih.reconcile h

end Session.Flickers

end Dimmit
