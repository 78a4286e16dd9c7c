import Dimmit.DisplayController.Range
import Dimmit.Dimmer.Screen

/-!
# What the displays show

A backend is legible if what its displays show can be told: a reading that succeeds answers it, a
write that succeeds sets it, and nothing else than a write to a display changes it.  A write that
*fails* may still have reached its display.  On a gauged backend it has not, and no display is
listed twice.

A display that the session manages under one source only is a `Screen`, and `Session.Shows.adjust`
and `Session.Shows.service` say that the session moves it as the screen's own step does.  To say
what is written to a display and what it showed just before and after, the sessions here run over
a provider that notes all of it at each write, and the answer at each reading.
-/

namespace Dimmit

open Run

variable {W R H Ctx D : Type}

/-! ## Legible and gauged backends -/

/-- What the displays of the provider show can be told.  `shown w d` is what the display `d`
shows, and `device` says which display a handle is for. -/
structure Provider.Legible (P : Provider W Ctx) (device : Ctx → D) (shown : W → D → Int) :
    Prop where
  keeps : ∀ ρ, P.Keeps fun w ↦ shown w = ρ
  nonneg : ∀ w d, 0 ≤ shown w d
  /-- A reading that succeeds answers what is shown. -/
  read : ∀ {s w cur max w'}, P.get s w = (some (cur, max), w') →
    cur = shown w (device s.ctx) ∧ 0 ≤ max
  wrote : ∀ {s v w w'}, 0 ≤ v → v ≤ 65535 → P.set s v w = (true, w') →
    shown w' (device s.ctx) = v
  /-- A write, whether it succeeds or fails, is to its own display. -/
  others : ∀ {s v ok w w'}, P.set s v w = (ok, w') →
    ∀ d, d ≠ device s.ctx → shown w' d = shown w d

/-- The same of a backend. -/
structure Implementation.Legible (impl : Implementation W R H) (device : H → D)
    (shown : W → D → Int) : Prop where
  keeps : ∀ ρ, impl.Keeps fun w ↦ shown w = ρ
  nonneg : ∀ w d, 0 ≤ shown w d
  read : ∀ {h w v w'}, impl.getNonTableVcpValue h vcpBrightness w = (some v, w') →
    word v.sh v.sl = shown w (device h)
  wrote : ∀ {h hi lo w w'}, impl.setNonTableVcpValue h vcpBrightness hi lo w = (true, w') →
    shown w' (device h) = word hi lo
  others : ∀ {h hi lo ok w w'}, impl.setNonTableVcpValue h vcpBrightness hi lo w = (ok, w') →
    ∀ d, d ≠ device h → shown w' d = shown w d

theorem Implementation.Legible.ddcProvider {impl : Implementation W R H} {device : H → D}
    {shown : W → D → Int} (h : impl.Legible device shown) :
    (ddcProvider impl).Legible device shown where
  keeps ρ := (h.keeps ρ).ddcProvider
  nonneg := h.nonneg
  read {s w cur max w'} hg := by
    change ddcSrcGet impl s.ctx w = _ at hg
    rw [ddcSrcGet] at hg
    rcases hr : impl.getNonTableVcpValue s.ctx vcpBrightness w with ⟨_ | v, w₁⟩ <;> rw [hr] at hg
    · cases hg
    · cases hg
      exact ⟨h.read hr, word_nonneg _ _⟩
  wrote {s v w w'} h₀ h₁ hs := by
    have hd := h.wrote hs
    rwa [word_hiByte_loByte h₀ (Int.lt_add_one_iff.mpr h₁)] at hd
  others hs := h.others hs

/-- The displays of the backend show what was last written to them.  `seat` says which display a
reference is for. -/
structure Implementation.Gauged (impl : Implementation W R H) (seat : R → D) (device : H → D)
    (shown : W → D → Int) : Prop where
  keeps : ∀ ρ, impl.Keeps fun w ↦ shown w = ρ
  nonneg : ∀ w d, 0 ≤ shown w d
  openDisplay : ∀ {r w h w'}, impl.openDisplay r w = (some h, w') → device h = seat r
  nodup : ∀ {w dlist w'}, impl.getDisplayInfoList w = (some dlist, w') →
    (dlist.info.map fun info ↦ seat info.dref).Nodup
  read : ∀ {h w v w'}, impl.getNonTableVcpValue h vcpBrightness w = (some v, w') →
    word v.sh v.sl = shown w (device h)
  wrote : ∀ {h hi lo w w'}, impl.setNonTableVcpValue h vcpBrightness hi lo w = (true, w') →
    shown w' (device h) = word hi lo ∧ ∀ d, d ≠ device h → shown w' d = shown w d
  refused : ∀ {h hi lo w w'}, impl.setNonTableVcpValue h vcpBrightness hi lo w = (false, w') →
    shown w' = shown w

namespace Implementation.Gauged

variable {impl : Implementation W R H} {seat : R → D} {device : H → D} {shown : W → D → Int}

theorem legible (h : impl.Gauged seat device shown) : impl.Legible device shown where
  keeps := h.keeps
  nonneg := h.nonneg
  read := h.read
  wrote hs := (h.wrote hs).1
  others {_ _ _ ok _ _} hs := by
    cases ok with
    | false => exact fun d _ ↦ congrFun (h.refused hs) d
    | true => exact (h.wrote hs).2

/-- The sources of one enumeration are for different displays. -/
theorem nodup_devices (h : impl.Gauged seat device shown) {w w' : W}
    {sources : List (BrightnessSource H)} (hen : ddcEnumerateSources impl w = (some sources, w')) :
    (sources.map fun s ↦ device s.ctx).Nodup := by
  obtain ⟨_, -, he⟩ | ⟨_, _, _, -, -, he⟩ | ⟨dlist, _, w₂, hl, -, he⟩ :=
    ddcEnumerateSources_cases impl w <;> cases hen.symm.trans he
  · exact List.nodup_nil
  · have hopen : ∀ info ∈ dlist.info, info.isBuiltin = false → ∀ w, ∀ d ∈
        (impl.openDisplay info.dref w).1, device d = seat info.dref := by
      intro info _ _ w d hd
      exact h.openDisplay (Prod.ext hd rfl)
    have hsub := drives_enumerateFrom_sublist hopen 0 w₂
    exact (hsub.trans (List.filter_sublist.map _)).nodup (h.nodup hl)

end Implementation.Gauged

/-! ## A note of each call -/

/-- What is noted of a call through the operation table of a source. -/
inductive Note (Ctx : Type) where
  /-- A reading and its answer. -/
  | read (source : BrightnessSource Ctx) (answer : Option (Int × Int))
  /-- A write of `value`, what the display showed just before and just after it, and whether it
  succeeded. -/
  | wrote (source : BrightnessSource Ctx) (value before after : Int) (ok : Bool)
deriving DecidableEq, Repr

/-- The source a call goes through. -/
def Note.source : Note Ctx → BrightnessSource Ctx
  | .read src _ | .wrote src _ _ _ _ => src

/-- Unless it is of a write to the display of `src` that failed and reached it. -/
def Note.Honest (src : BrightnessSource Ctx) : Note Ctx → Prop
  | .wrote src' _ before after ok => src' = src → ok = false → after = before
  | .read _ _ => True

/-- The same provider, noting each reading and each write. -/
def Provider.metered (P : Provider W Ctx) (device : Ctx → D) (shown : W → D → Int) :
    Provider (W × List (Note Ctx)) Ctx where
  enumerate x := ((P.enumerate x.1).1, (P.enumerate x.1).2, x.2)
  get s x := ((P.get s x.1).1, (P.get s x.1).2, x.2 ++ [.read s (P.get s x.1).1])
  set s v x :=
    let (ok, w) := P.set s v x.1
    (ok, w, x.2 ++ [.wrote s v (shown x.1 (device s.ctx)) (shown w (device s.ctx)) ok])
  close s x := (P.close s x.1, x.2)
  calloc x := ((P.calloc x.1).1, (P.calloc x.1).2, x.2)

/-- Every call but a write keeps what is shown. -/
theorem Provider.Legible.metered_keeps {P : Provider W Ctx} {device : Ctx → D}
    {shown : W → D → Int} (h : P.Legible device shown) (ρ : D → Int) :
    (P.metered device shown).Keeps fun x ↦ shown x.1 = ρ where
  enumerate hw := (h.keeps ρ).enumerate hw
  get s hw := (h.keeps ρ).get s hw
  close s hw := (h.keeps ρ).close s hw
  calloc hw := (h.keeps ρ).calloc hw

/-! ## A pass, display by display -/

theorem Controller.serviceDisplays_append (P : Provider W Ctx)
    (ms ms' : List (ManagedDisplay Ctx)) (w : W) :
    (serviceDisplays P (ms ++ ms') w).1 =
        (serviceDisplays P ms w).1 ++ (serviceDisplays P ms' (serviceDisplays P ms w).2.2).1 ∧
      (serviceDisplays P (ms ++ ms') w).2.2 =
        (serviceDisplays P ms' (serviceDisplays P ms w).2.2).2.2 := by
  induction ms generalizing w with
  | nil => exact ⟨rfl, rfl⟩
  | cons m ms ih =>
      obtain ⟨hfst, hsnd⟩ := ih (serviceDisplay P m w).2.2
      exact ⟨congrArg ((serviceDisplay P m w).1 :: ·) hfst, hsnd⟩

section Pass

variable {P : Provider W Ctx} {device : Ctx → D} {shown : W → D → Int}

/-- A managed display as a screen. -/
def ManagedDisplay.screen (m : ManagedDisplay Ctx) (device : Ctx → D) (shown : D → Int) : Screen :=
  ⟨m.dim, shown (device m.src.ctx)⟩

/-- One display's part of a pass: what is due is written, with some outcome, and noted. -/
theorem serviceDisplay_metered (P : Provider W Ctx) (device : Ctx → D) (shown : W → D → Int)
    (m : ManagedDisplay Ctx) (x : W × List (Note Ctx)) :
    let r := Controller.serviceDisplay (P.metered device shown) m x
    ∃ ok, r.1 = { m with dim := dimmerServiced m.dim ok } ∧
      (dimmerDue m.dim = none ∧ r.2.2 = x ∨
      ∃ v w, dimmerDue m.dim = some v ∧ P.set m.src v x.1 = (ok, w) ∧ r.2.2 = (w, x.2 ++
        [.wrote m.src v (shown x.1 (device m.src.ctx)) (shown w (device m.src.ctx)) ok])) := by
  unfold Controller.serviceDisplay dimmerServiced
  cases hd : dimmerDue m.dim with
  | none => exact ⟨true, rfl, .inl ⟨rfl, rfl⟩⟩
  | some v =>
      rcases hs : P.set m.src v x.1 with ⟨_ | _, w⟩
      · refine ⟨false, by simp [Provider.metered, hs], .inr ⟨v, w, rfl, hs, ?_⟩⟩
        simp [Provider.metered, hs]
      · refine ⟨true, by simp [Provider.metered, hs], .inr ⟨v, w, rfl, hs, ?_⟩⟩
        simp [Provider.metered, hs]

/-- A pass over other displays leaves a display as it is and notes nothing of it. -/
theorem serviceDisplays_metered_others (h : P.Legible device shown) {d : D}
    {ms : List (ManagedDisplay Ctx)} (hms : ∀ m ∈ ms, device m.src.ctx ≠ d)
    (x : W × List (Note Ctx)) :
    let r := Controller.serviceDisplays (P.metered device shown) ms x
    shown r.2.2.1 d = shown x.1 d ∧
      ∃ notes, r.2.2.2 = x.2 ++ notes ∧ ∀ e ∈ notes, device e.source.ctx ≠ d := by
  induction ms generalizing x with
  | nil => exact ⟨rfl, [], (List.append_nil _).symm, fun _ he ↦ nomatch he⟩
  | cons m ms ih =>
      obtain ⟨hm, hms⟩ := List.forall_mem_cons.mp hms
      have hfirst :
          shown (Controller.serviceDisplay (P.metered device shown) m x).2.2.1 d = shown x.1 d ∧
            ∃ notes, (Controller.serviceDisplay (P.metered device shown) m x).2.2.2 = x.2 ++ notes ∧
              ∀ e ∈ notes, device e.source.ctx ≠ d := by
        obtain ⟨ok, -, ⟨-, he⟩ | ⟨v, w, -, hs, he⟩⟩ :=
          serviceDisplay_metered P device shown m x
        · rw [he]
          exact ⟨rfl, [], (List.append_nil _).symm, fun _ he ↦ nomatch he⟩
        · rw [he]
          refine ⟨h.others hs d hm.symm, _, rfl, fun e he ↦ ?_⟩
          rw [List.mem_singleton.mp he]
          exact hm
      obtain ⟨hshown, notes, hlog, hother⟩ := hfirst
      obtain ⟨hshown', notes', hlog', hother'⟩ :=
        ih hms (Controller.serviceDisplay (P.metered device shown) m x).2.2
      refine ⟨hshown'.trans hshown, notes ++ notes', ?_, fun e he ↦ ?_⟩
      · rw [← List.append_assoc, ← hlog]
        exact hlog'
      · exact (List.mem_append.mp he).elim (hother e) (hother' e)

end Pass

/-! ## Sessions -/

/-- A press of the key, or a pass. -/
def Key.Plays (k : Key) (op : Op) : Prop := op = .adjust k.fraction ∨ op = .service

/-- How often the key is pressed. -/
def Key.presses (k : Key) (ops : List Op) : Nat := ops.count (.adjust k.fraction)

theorem Key.presses_press (k : Key) (ops : List Op) :
    k.presses (.adjust k.fraction :: ops) = k.presses ops + 1 := List.count_cons_self

theorem Key.presses_pass (k : Key) (ops : List Op) :
    k.presses (.service :: ops) = k.presses ops := List.count_cons_of_ne (by simp)

theorem Key.presses_concat_pass (k : Key) (ops : List Op) :
    k.presses (ops ++ [.service]) = k.presses ops := by
  rw [presses, List.count_append]
  exact congrArg _ (k.presses_pass [])

theorem initialDimmer_metered (P : Provider W Ctx) (device : Ctx → D) (shown : W → D → Int)
    (src : BrightnessSource Ctx) (x : W × List (Note Ctx)) :
    initialDimmer (P.metered device shown) src x = ((initialDimmer P src x.1).1,
      (initialDimmer P src x.1).2, x.2 ++ [.read src (P.get src x.1).1]) := by
  unfold initialDimmer
  rcases hg : P.get src x.1 with ⟨_ | _, _⟩ <;> simp [Provider.metered, hg]

namespace Session

/-- What an operation notes. -/
def noted (P : Provider W Ctx) (device : Ctx → D) (shown : W → D → Int)
    (s : Session (W × List (Note Ctx)) Ctx) (op : Op) : List (Note Ctx) :=
  (s.step (P.metered device shown) op).world.2.drop s.world.2.length

/-- The session manages the source, and its display is as `x`. -/
def Shows (s : Session (W × List (Note Ctx)) Ctx) (device : Ctx → D) (shown : W → D → Int)
    (src : BrightnessSource Ctx) (x : Screen) : Prop :=
  ∃ m ∈ s.displays, m.src = src ∧ m.screen device (shown s.world.1) = x

/-- The session manages bounded dimmers, no source twice, and no other source for the display of
`src`. -/
structure Sole (s : Session W Ctx) (device : Ctx → D) (src : BrightnessSource Ctx) : Prop where
  bounded : ∀ m ∈ s.displays, m.dim.Bounded
  nodup : (s.displays.map (·.src)).Nodup
  alone : ∀ m ∈ s.displays, m.src ≠ src → device m.src.ctx ≠ device src.ctx

/-- The session manages bounded dimmers of different displays. -/
structure Sound (s : Session W Ctx) (device : Ctx → D) : Prop where
  bounded : ∀ m ∈ s.displays, m.dim.Bounded
  nodup : (s.displays.map fun m ↦ device m.src.ctx).Nodup

/-- In a sound session every managed source is the only one for its display. -/
theorem Sound.sole {s : Session W Ctx} {device : Ctx → D} (h : s.Sound device)
    {m : ManagedDisplay Ctx} (hm : m ∈ s.displays) : s.Sole device m.src where
  bounded := h.bounded
  nodup := by
    have hn : ((s.displays.map (·.src)).map fun src ↦ device src.ctx).Nodup := by
      rw [List.map_map]
      exact h.nodup
    exact hn.of_map _
  alone m' hm' hne hdev := hne (by rw [List.inj_on_of_nodup_map h.nodup hm' hm hdev])

theorem Sole.eq_of_src {s : Session W Ctx} {device : Ctx → D} {src : BrightnessSource Ctx}
    (h : s.Sole device src) {m m' : ManagedDisplay Ctx} (hm : m ∈ s.displays)
    (hm' : m' ∈ s.displays) (hsrc : m.src = m'.src) : m = m' :=
  List.inj_on_of_nodup_map h.nodup hm hm' hsrc

/-- The displays before and after that of the source are others. -/
theorem Sole.split {s : Session W Ctx} {device : Ctx → D} {m : ManagedDisplay Ctx}
    (h : s.Sole device m.src) (hm : m ∈ s.displays) :
    ∃ ms ms', s.displays = ms ++ m :: ms' ∧
      (∀ m' ∈ ms, device m'.src.ctx ≠ device m.src.ctx) ∧
      ∀ m' ∈ ms', device m'.src.ctx ≠ device m.src.ctx := by
  obtain ⟨ms, ms', hsplit⟩ := List.append_of_mem hm
  have hn := h.nodup
  have halone := h.alone
  rw [hsplit] at hn halone
  rw [List.map_append, List.map_cons, List.nodup_append] at hn
  obtain ⟨-, hn', hdisjoint⟩ := hn
  refine ⟨ms, ms', hsplit, fun m' hm' ↦ ?_, fun m' hm' ↦ ?_⟩
  · refine halone m' (List.mem_append_left _ hm') fun hsrc ↦ ?_
    exact hdisjoint _ (List.mem_map_of_mem hm') _ List.mem_cons_self hsrc
  · refine halone m' (List.mem_append_right _ (List.mem_cons_of_mem _ hm')) fun hsrc ↦ ?_
    exact (List.nodup_cons.mp hn').1 (List.mem_map.mpr ⟨m', hm', hsrc⟩)

theorem Reachable.bounded_metered {impl : Implementation W R H} {device : H → D}
    {shown : W → D → Int} {s : Session (W × List (Note H)) H}
    (hs : s.Reachable ((ddcProvider impl).metered device shown)) :
    ∀ m ∈ s.displays, m.dim.Bounded := by
  refine hs.forall_dim (D := Dimmer.Bounded) (fun src x ↦ ?_) (fun d f hd ↦ hd.adjust _)
    (fun d ok hd ↦ hd.serviced ok)
  rw [initialDimmer_metered]
  exact bounded_initialDimmer impl src x.1

/-- The sources of a reachable session have the properties of every enumeration. -/
theorem Reachable.map_src_metered {impl : Implementation W R H} {device : H → D}
    {shown : W → D → Int} {Q : List (BrightnessSource H) → Prop} (hnil : Q [])
    (hQ : ∀ w sources w', ddcEnumerateSources impl w = (some sources, w') → Q sources)
    {s : Session (W × List (Note H)) H}
    (hs : s.Reachable ((ddcProvider impl).metered device shown)) :
    Q (s.displays.map (·.src)) := by
  have hsources := hs.forall_sources (Q := Q) fun x sources x' hen ↦ by
    rcases hen' : ddcEnumerateSources impl x.1 with ⟨answer, w⟩
    have hanswer : answer = some sources := by
      have hfst := congrArg Prod.fst hen
      change (ddcEnumerateSources impl x.1).1 = _ at hfst
      rwa [hen'] at hfst
    exact hQ x.1 sources w (hanswer ▸ hen')
  have hpar := hs.parallel
  obtain ⟨_ | c, w, results⟩ := s
  · exact hnil
  · exact (hpar c rfl).symm ▸ hsources c rfl

/-- Every reachable session manages a source alone, if no other of its sources is for the same
display. -/
theorem Reachable.sole {impl : Implementation W R H} {device : H → D} {shown : W → D → Int}
    {s : Session (W × List (Note H)) H}
    (hs : s.Reachable ((ddcProvider impl).metered device shown)) {src : BrightnessSource H}
    (halone : ∀ m ∈ s.displays, m.src ≠ src → device m.src.ctx ≠ device src.ctx) :
    s.Sole device src where
  bounded := hs.bounded_metered
  nodup := by
    refine hs.map_src_metered (Q := List.Nodup) List.nodup_nil fun _ _ _ hen ↦ ?_
    exact (nodup_ids_ddcEnumerateSources hen).of_map _
  alone := halone

/-- Every reachable session over a gauged backend is sound. -/
theorem Reachable.sound {impl : Implementation W R H} {seat : R → D} {device : H → D}
    {shown : W → D → Int} (h : impl.Gauged seat device shown) {s : Session (W × List (Note H)) H}
    (hs : s.Reachable ((ddcProvider impl).metered device shown)) : s.Sound device where
  bounded := hs.bounded_metered
  nodup := by
    have hn := hs.map_src_metered (Q := fun sources ↦ (sources.map fun s ↦ device s.ctx).Nodup)
      List.nodup_nil fun _ _ _ hen ↦ h.nodup_devices hen
    rwa [List.map_map] at hn

/-- Presses and passes change no source. -/
theorem map_src_step (P : Provider W Ctx) (s : Session W Ctx) {op : Op} (hop : op ≠ .reconcile) :
    (s.step P op).displays.map (·.src) = s.displays.map (·.src) := by
  cases op with
  | adjust f =>
      rw [displays_step_adjust, List.map_map]
      rfl
  | service =>
      rw [displays_step_service]
      exact Controller.serviceDisplays_map_src P s.displays s.world
  | reconcile => exact absurd rfl hop

section Shows

variable {P : Provider W Ctx} {device : Ctx → D} {shown : W → D → Int}
  {s : Session (W × List (Note Ctx)) Ctx} {src : BrightnessSource Ctx} {x : Screen}

theorem noted_eq {op : Op} {notes : List (Note Ctx)}
    (h : (s.step (P.metered device shown) op).world.2 = s.world.2 ++ notes) :
    s.noted P device shown op = notes := by
  rw [noted, h, List.drop_left]

theorem Shows.adjust (h : s.Shows device shown src x) (f : ℚ) :
    (s.step (P.metered device shown) (.adjust f)).Shows device shown src (x.step (.press f)) := by
  obtain ⟨m, hm, rfl, rfl⟩ := h
  refine ⟨Controller.adjustDisplay f m, ?_, rfl, rfl⟩
  rw [displays_step_adjust]
  exact List.mem_map_of_mem hm

/-- **A pass over a display.**  What is due is written to it, and the note of the write is the
only one of its source; where nothing is due nothing happens to it. -/
theorem Shows.service_cases (hP : P.Legible device shown) (hs : s.Sole device src)
    (h : s.Shows device shown src x) :
    ∃ ok after, (s.step (P.metered device shown) .service).Shows device shown src
        ⟨dimmerServiced x.dim ok, after⟩ ∧
      (dimmerDue x.dim = none ∧ after = x.shown ∧
        (∀ e ∈ s.noted P device shown .service, e.source ≠ src) ∨
      ∃ v w w', dimmerDue x.dim = some v ∧ P.set src v w = (ok, w') ∧
        shown w (device src.ctx) = x.shown ∧ shown w' (device src.ctx) = after ∧
        ∀ e, e ∈ s.noted P device shown .service ∧ e.source = src ↔
          e = .wrote src v x.shown after ok) := by
  obtain ⟨m, hm, rfl, rfl⟩ := h
  obtain ⟨ms, ms', hsplit, hms, hms'⟩ := hs.split hm
  have hworld := world_step_service (P.metered device shown) s
  have hdisplays := displays_step_service (P.metered device shown) s
  obtain ⟨hfst, hsnd⟩ := Controller.serviceDisplays_append (P.metered device shown) ms (m :: ms')
    s.world
  rw [hsplit] at hworld hdisplays
  rw [hfst] at hdisplays
  rw [hsnd] at hworld
  obtain ⟨hbefore, notes, hlog, hother⟩ := serviceDisplays_metered_others hP hms s.world
  generalize (Controller.serviceDisplays (P.metered device shown) ms s.world).2.2 = x at *
  obtain ⟨ok, hm', hcase⟩ := serviceDisplay_metered P device shown m x
  obtain ⟨hafter, notes', hlog', hother'⟩ := serviceDisplays_metered_others hP hms'
    (Controller.serviceDisplay (P.metered device shown) m x).2.2
  change _ = (Controller.serviceDisplays (P.metered device shown) ms'
    (Controller.serviceDisplay (P.metered device shown) m x).2.2).2.2 at hworld
  change _ = _ ++ (Controller.serviceDisplay (P.metered device shown) m x).1 ::
    (Controller.serviceDisplays (P.metered device shown) ms' _).1 at hdisplays
  have hmem : { m with dim := dimmerServiced m.dim ok } ∈
      (s.step (P.metered device shown) .service).displays := by
    rw [hdisplays, ← hm']
    exact List.mem_append_right _ List.mem_cons_self
  rw [← hworld] at hafter hlog'
  refine ⟨ok, _, ⟨_, hmem, rfl, rfl⟩, ?_⟩
  obtain ⟨hd, hx⟩ | ⟨v, w, hd, hset, hx⟩ := hcase
  · rw [hx] at hafter hlog'
    refine .inl ⟨hd, hafter.trans hbefore, ?_⟩
    rw [hlog, List.append_assoc] at hlog'
    rw [noted_eq hlog']
    intro e he hsrc
    rcases List.mem_append.mp he with he | he
    · exact hother e he (by rw [hsrc])
    · exact hother' e he (by rw [hsrc])
  · rw [hx] at hafter hlog'
    refine .inr ⟨v, x.1, w, hd, hset, hbefore, hafter.symm, ?_⟩
    rw [hlog, List.append_assoc, List.append_assoc] at hlog'
    have hshown : (m.screen device (shown s.world.1)).shown = shown x.1 (device m.src.ctx) :=
      hbefore.symm
    rw [noted_eq hlog', hafter, hshown]
    intro e
    constructor
    · rintro ⟨he, hsrc⟩
      rcases List.mem_append.mp he with he | he
      · exact absurd (by rw [hsrc]) (hother e he)
      · rcases List.mem_append.mp he with he | he
        · exact List.mem_singleton.mp he
        · exact absurd (by rw [hsrc]) (hother' e he)
    · rintro rfl
      exact ⟨List.mem_append_right _ (List.mem_append_left _ (List.mem_singleton_self _)), rfl⟩

theorem Shows.bounded (h : s.Shows device shown src x) (hs : ∀ m ∈ s.displays, m.dim.Bounded) :
    x.dim.Bounded := by
  obtain ⟨m, hm, -, rfl⟩ := h
  exact hs m hm

theorem Shows.sole (hs : s.Sound device) (h : s.Shows device shown src x) :
    s.Sole device src := by
  obtain ⟨m, hm, rfl, -⟩ := h
  exact hs.sole hm

theorem Shows.unique (hs : s.Sole device src) {y : Screen} (h : s.Shows device shown src x)
    (h' : s.Shows device shown src y) : x = y := by
  obtain ⟨m, hm, hsrc, rfl⟩ := h
  obtain ⟨m', hm', hsrc', rfl⟩ := h'
  rw [hs.eq_of_src hm hm' (hsrc.trans hsrc'.symm)]

theorem noted_adjust (f : ℚ) : s.noted P device shown (.adjust f) = [] := List.drop_length

/-- A write to the display of `src` that fails leaves it as it was. -/
def Honest (P : Provider W Ctx) (device : Ctx → D) (shown : W → D → Int)
    (s : Session (W × List (Note Ctx)) Ctx) (src : BrightnessSource Ctx) (op : Op) : Prop :=
  ∀ e ∈ s.noted P device shown op, e.Honest src

/-- A pass is the screen's own pass, unless a write failed and reached the display. -/
theorem Shows.service (hP : P.Legible device shown) (hs : s.Sole device src)
    (hhonest : s.Honest P device shown src .service) (h : s.Shows device shown src x) :
    ∃ ok, (s.step (P.metered device shown) .service).Shows device shown src (x.step (.pass ok)) ∧
      ∀ v, dimmerDue x.dim = some v → ∃ w, ok = (P.set src v w).1 := by
  have hb := h.bounded hs.bounded
  obtain ⟨ok, after, hshows, ⟨hd, rfl, -⟩ | ⟨v, w, w', hd, hset, -, hw', hnote⟩⟩ :=
    h.service_cases hP hs
  · have hstep : x.step (.pass ok) = ⟨dimmerServiced x.dim ok, x.shown⟩ := by
      rw [Screen.step, hd]
    refine ⟨ok, hstep ▸ hshows, fun v hv ↦ ?_⟩
    rw [hd] at hv
    cases hv
  · have hstep : x.step (.pass ok) = ⟨dimmerServiced x.dim ok, after⟩ := by
      rw [Screen.step, hd]
      cases ok with
      | false => exact congrArg (Screen.mk _) (hhonest _ ((hnote _).mpr rfl).1 rfl rfl).symm
      | true =>
          obtain ⟨h₀, hle⟩ := hb.target_mem hd
          exact congrArg (Screen.mk _) ((hP.wrote h₀ (hle.trans hb.max_le) hset).symm.trans hw')
    refine ⟨ok, hstep ▸ hshows, fun v' hv ↦ ?_⟩
    cases hd.symm.trans hv
    exact ⟨w, by rw [hset]⟩

/-- What a pass writes to a display is what is due, and it is noted with what the display
shows. -/
theorem Shows.due_of_noted (hP : P.Legible device shown) (hs : s.Sole device src)
    (h : s.Shows device shown src x) {v before after : Int} {ok : Bool}
    (hn : .wrote src v before after ok ∈ s.noted P device shown .service) :
    dimmerDue x.dim = some v ∧ before = x.shown := by
  obtain ⟨ok', after', -, ⟨-, -, hnone⟩ | ⟨v', w, w', hd, -, -, -, hnote⟩⟩ := h.service_cases hP hs
  · exact absurd rfl (hnone _ hn)
  · have he := (hnote _).mp ⟨hn, rfl⟩
    injection he with _ hv hbefore
    exact ⟨hv ▸ hd, hbefore⟩

theorem Shows.noted_of_due (hP : P.Legible device shown) (hs : s.Sole device src)
    (h : s.Shows device shown src x) {v : Int} (hv : dimmerDue x.dim = some v) :
    ∃ after ok, .wrote src v x.shown after ok ∈ s.noted P device shown .service := by
  obtain ⟨ok, after, -, ⟨hd, -⟩ | ⟨v', w, w', hd, -, -, -, hnote⟩⟩ := h.service_cases hP hs
  · rw [hd] at hv
    cases hv
  · cases hd.symm.trans hv
    exact ⟨after, ok, ((hnote _).mpr rfl).1⟩

end Shows

/-- On a gauged backend no write that fails reaches its display. -/
theorem Shows.honest {impl : Implementation W R H} {seat : R → D} {device : H → D}
    {shown : W → D → Int} (h : impl.Gauged seat device shown)
    {s : Session (W × List (Note H)) H} (hs : s.Sound device) {src : BrightnessSource H}
    {x : Screen} (hx : s.Shows device shown src x) :
    s.Honest (ddcProvider impl) device shown src .service := by
  obtain ⟨ok', after', -, ⟨-, -, hnone⟩ | ⟨v', w, w', -, hset, hw, hw', hnote⟩⟩ :=
    hx.service_cases h.legible.ddcProvider (hx.sole hs) <;>
    rintro (⟨src', reading⟩ | ⟨_, v, before, after, ok⟩) hn
  · trivial
  · exact fun hsrc ↦ absurd hsrc (hnone _ hn)
  · trivial
  · rintro rfl rfl
    have he := (hnote _).mp ⟨hn, rfl⟩
    injection he with _ _ hbefore hafter hok
    subst hok
    have hkept : shown w' = shown w := h.refused hset
    rw [hafter, hbefore, ← hw', ← hw, hkept]

/-- **The rule for a key.**  What holds of a screen, and is preserved by a press of the key and
by a pass with an answer the provider can give, holds after every run of the key. -/
theorem Shows.run {impl : Implementation W R H} {seat : R → D} {device : H → D}
    {shown : W → D → Int} (h : impl.Gauged seat device shown) {k : Key} {src : BrightnessSource H}
    {I : Nat → Screen → Prop} (press : ∀ n x, I n x → I (n + 1) (x.step (.press k.fraction)))
    (pass : ∀ n x ok, x.dim.Bounded → (∀ v, dimmerDue x.dim = some v → ∃ w,
      ok = ((ddcProvider impl).set src v w).1) → I n x → I n (x.step (.pass ok)))
    {s : Session (W × List (Note H)) H} (hs : s.Reachable ((ddcProvider impl).metered device shown))
    {n : Nat} {x : Screen} (hx : s.Shows device shown src x) (hI : I n x) {ops : List Op}
    (hops : ∀ op ∈ ops, k.Plays op) :
    ∃ y, (s.run ((ddcProvider impl).metered device shown) ops).Shows device shown src y ∧
      I (n + k.presses ops) y := by
  induction ops generalizing s n x with
  | nil => exact ⟨x, hx, hI⟩
  | cons op ops ih =>
      obtain ⟨hop, htail⟩ := List.forall_mem_cons.mp hops
      rcases hop with rfl | rfl
      · obtain ⟨y, hy, hIy⟩ := ih (hs.step _) (hx.adjust _) (press n x hI) htail
        refine ⟨y, hy, ?_⟩
        rw [k.presses_press, Nat.add_comm _ 1, ← Nat.add_assoc]
        exact hIy
      · have hsound := hs.sound h
        obtain ⟨ok, hx', hok⟩ :=
          hx.service h.legible.ddcProvider (hx.sole hsound) (hx.honest h hsound)
        have hb := hx.bounded hsound.bounded
        obtain ⟨y, hy, hIy⟩ := ih (hs.step _) hx' (pass n x ok hb hok hI) htail
        refine ⟨y, hy, ?_⟩
        rw [k.presses_pass]
        exact hIy

end Session

end Dimmit
