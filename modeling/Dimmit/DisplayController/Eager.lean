import Dimmit.Ddc.InMemoryMock
import Dimmit.DisplayController.Coalesce
import Dimmit.DisplayController.Poll
import Dimmit.DisplayController.Range

/-!
# The displays as their users see them

To its user a display moves when a key is pressed, by the fraction of its own maximum and no further
than its ends.  `eagerLevels` is that, for all displays and every sequence of presses, and knows of
no worker, no poll and no wire.

Over an obedient backend, whose displays open, answer, and take what is written to them, the
controller refines it: whatever passes and polls come in between, every dimmer is heading for the
level of its eager display, and shows where it is now.
-/

namespace Dimmit

variable {W R H Ctx : Type}

/-- The brightness a register holds. -/
def NonTableVcpValue.shown (v : NonTableVcpValue) : Int := word v.sh v.sl

/-- The maximum it reports. -/
def NonTableVcpValue.top (v : NonTableVcpValue) : Int := word v.mh v.ml

/-- A press on displays that are eager: each moves at once. -/
def eagerPress (register : R → NonTableVcpValue) (level : R → Int) (fraction : ℚ) : R → Int :=
  fun r ↦ clampBrightness
    (level r + dimmerDeltaForFraction (register r).top fraction) (register r).top

/-- Where the displays are after these presses, when at first they show their registers. -/
def eagerLevels (register : R → NonTableVcpValue) (presses : List ℚ) : R → Int :=
  presses.foldl (eagerPress register) fun r ↦ (register r).shown

theorem eagerLevels_append (register : R → NonTableVcpValue) (presses : List ℚ) (fraction : ℚ) :
    eagerLevels register (presses ++ [fraction]) =
      eagerPress register (eagerLevels register presses) fraction := List.foldl_append

/-! ## Obedient backends -/

/-- While `Up` holds, a write that is no higher than the maximum of the display is what its register
holds from then on. -/
structure Writes (impl : Implementation W R H) (device : H → R)
    (register : W → R → NonTableVcpValue) (Up : W → Prop) : Prop where
  wrote : ∀ {w} h hi lo, Up w → word hi lo ≤ (register w (device h)).top →
    (impl.setNonTableVcpValue h vcpBrightness hi lo w).1 = true
  up_wrote : ∀ {w} h hi lo, Up w → word hi lo ≤ (register w (device h)).top →
    Up (impl.setNonTableVcpValue h vcpBrightness hi lo w).2
  written : ∀ {w} h hi lo, Up w → word hi lo ≤ (register w (device h)).top →
    register (impl.setNonTableVcpValue h vcpBrightness hi lo w).2 (device h) =
      { register w (device h) with sh := hi, sl := lo }
  kept : ∀ {w} h hi lo, Up w → word hi lo ≤ (register w (device h)).top → ∀ r ≠ device h,
    register (impl.setNonTableVcpValue h vcpBrightness hi lo w).2 r = register w r

/-- It also lists `dlist`, and its displays open and answer their registers. -/
structure Obedient (impl : Implementation W R H) (device : H → R)
    (register : W → R → NonTableVcpValue) (Up : W → Prop) (dlist : DisplayInfoList R) : Prop extends
    Attentive impl device register Up, Writes impl device register Up where
  list_eq : ∀ {w}, Up w → (impl.getDisplayInfoList w).1 = some dlist
  /-- The external displays are different ones. -/
  nodup : ((dlist.info.filter fun info ↦ !info.isBuiltin).map (·.dref)).Nodup

theorem externalsFrom_map_snd (i : Nat) (infos : List (DisplayInfo R)) :
    (externalsFrom i infos).map Prod.snd = infos.filter fun info ↦ !info.isBuiltin := by
  induction infos generalizing i with
  | nil => rfl
  | cons info infos ih =>
      rw [externalsFrom]
      cases hb : info.isBuiltin with
      | true =>
          rw [if_pos rfl, List.filter_cons_of_neg (by simp [hb])]
          exact ih (i + 1)
      | false =>
          rw [if_neg Bool.false_ne_true, List.filter_cons_of_pos (by simp [hb]), List.map_cons, ih]

theorem mem_of_mem_externalsFrom {i : Nat} {infos : List (DisplayInfo R)}
    {p : Nat × DisplayInfo R} (h : p ∈ externalsFrom i infos) :
    p.2 ∈ infos ∧ p.2.isBuiltin = false := by
  have hmem := List.mem_map_of_mem (f := Prod.snd) h
  rw [externalsFrom_map_snd] at hmem
  obtain ⟨hmem, hext⟩ := List.mem_filter.mp hmem
  exact ⟨hmem, by simpa using hext⟩

theorem forall₂_openedFor_map_device {device : H → R} {sources : List (BrightnessSource H)}
    {seats : List (Nat × DisplayInfo R)} (h : List.Forall₂ (OpenedFor device) sources seats) :
    sources.map (fun src ↦ device src.ctx) = (seats.map Prod.snd).map (·.dref) := by
  induction h with
  | nil => rfl
  | cons hs _ ih => rw [List.map_cons, List.map_cons, List.map_cons, hs.device_eq, ih]

/-- The displays of a seated session are those of the seats. -/
theorem Session.Seated.map_device {device : H → R} {seats : List (Nat × DisplayInfo R)}
    {s : Session W H} (hs : s.Seated device seats) (hopen : s.controller ≠ none) :
    s.displays.map (fun m ↦ device m.src.ctx) = (seats.map Prod.snd).map (·.dref) := by
  obtain ⟨_ | c, w, results⟩ := s
  · exact absurd rfl hopen
  · have hpar : c.displays.map (·.src) = c.sources := hs.parallel c rfl
    rw [← forall₂_openedFor_map_device (hs.seats c rfl), ← hpar, List.map_map]
    rfl

theorem Session.Seated.exists_seat {device : H → R} {seats : List (Nat × DisplayInfo R)}
    {s : Session W H} (hs : s.Seated device seats) {m : ManagedDisplay H} (hm : m ∈ s.displays) :
    ∃ p ∈ seats, p.2.dref = device m.src.ctx := by
  have hopen : s.controller ≠ none := by
    intro hnone
    rw [Session.displays, hnone] at hm
    exact List.not_mem_nil hm
  have hmem : device m.src.ctx ∈ s.displays.map fun m ↦ device m.src.ctx :=
    List.mem_map_of_mem hm
  rw [hs.map_device hopen, List.map_map] at hmem
  exact List.mem_map.mp hmem

/-- A pass over displays whose writes succeed and show. -/
structure ShownPass (device : H → R) (register : W → R → NonTableVcpValue) (Up : W → Prop)
    (ms ms' : List (ManagedDisplay H)) (w w' : W) : Prop where
  up : Up w'
  serviced : ms' = ms.map fun m ↦ { m with dim := dimmerServiced m.dim true }
  shown : ∀ m ∈ ms', m.dim.current = (register w' (device m.src.ctx)).shown
  top : ∀ r, (register w' r).top = (register w r).top
  kept : ∀ r, (∀ m ∈ ms, r ≠ device m.src.ctx) → register w' r = register w r

namespace Obedient

variable {impl : Implementation W R H} {device : H → R} {register : W → R → NonTableVcpValue}
  {Up : W → Prop} {dlist : DisplayInfoList R}

theorem listed_eq (h : Obedient impl device register Up dlist) {w : W} (hw : Up w) :
    listed impl w = externalsFrom 0 dlist.info := by
  rw [listed, h.list_eq hw]
  rfl

end Obedient

/-- The displays manage different devices. -/
theorem Session.Seated.nodup_devices {device : H → R} {dlist : DisplayInfoList R}
    {s : Session W H} (hs : s.Seated device (externalsFrom 0 dlist.info))
    (hn : ((dlist.info.filter fun info ↦ !info.isBuiltin).map (·.dref)).Nodup) :
    (s.displays.map fun m ↦ device m.src.ctx).Nodup := by
  by_cases hopen : s.controller = none
  · rw [Session.displays, hopen]
    exact List.nodup_nil
  · rw [hs.map_device hopen, externalsFrom_map_snd]
    exact hn

namespace Writes

variable {impl : Implementation W R H} {device : H → R} {register : W → R → NonTableVcpValue}
  {Up : W → Prop}

/-- One display's part of a pass. -/
theorem serviceDisplay (h : Writes impl device register Up) {m : ManagedDisplay H}
    (hm : m.dim.Bounded) {w : W} (hw : Up w)
    (htop : m.dim.max = (register w (device m.src.ctx)).top)
    (hshown : m.dim.current = (register w (device m.src.ctx)).shown) :
    let r := Controller.serviceDisplay (ddcProvider impl) m w
    ShownPass device register Up [m] [r.1] w r.2.2 := by
  intro r
  cases hd : dimmerDue m.dim with
  | none =>
      have hpass : r = (m, 0, w) := by
        change Controller.serviceDisplay (ddcProvider impl) m w = _
        rw [Controller.serviceDisplay, hd]
      rw [hpass]
      refine ⟨hw, ?_, ?_, fun _ ↦ rfl, fun _ _ ↦ rfl⟩
      · rw [List.map_singleton, dimmerServiced, hd]
      · exact List.forall_mem_singleton.mpr hshown
  | some target =>
      obtain ⟨h₀, hle⟩ := hm.target_mem hd
      have hword : word (hiByte target) (loByte target) = target :=
        word_hiByte_loByte h₀ (Int.lt_add_one_iff.mpr (hle.trans hm.max_le))
      have hrange : word (hiByte target) (loByte target) ≤ (register w (device m.src.ctx)).top := by
        rw [hword, ← htop]
        exact hle
      have hpass : r = ({ m with dim := dimmerCommit m.dim target }, 1,
          ((ddcProvider impl).set m.src target w).2) := by
        change Controller.serviceDisplay (ddcProvider impl) m w = _
        have hok : ((ddcProvider impl).set m.src target w).1 = true :=
          h.wrote m.src.ctx _ _ hw hrange
        rw [Controller.serviceDisplay, hd]
        rcases hs : (ddcProvider impl).set m.src target w with ⟨_ | _, w'⟩
        · rw [hs] at hok
          cases hok
        · simp only [hs]
      have hwritten : register ((ddcProvider impl).set m.src target w).2 (device m.src.ctx) =
        { register w (device m.src.ctx) with sh := hiByte target, sl := loByte target } :=
        h.written m.src.ctx _ _ hw hrange
      have hkept := h.kept m.src.ctx _ _ hw hrange
      rw [hpass]
      refine ⟨h.up_wrote m.src.ctx _ _ hw hrange, ?_, ?_, ?_, ?_⟩
      · rw [List.map_singleton, dimmerServiced, hd]
        rfl
      · refine List.forall_mem_singleton.mpr ?_
        change target = (register _ (device m.src.ctx)).shown
        rw [hwritten]
        exact hword.symm
      · intro r'
        by_cases hr : r' = device m.src.ctx
        · rw [hr, hwritten]
          rfl
        · exact congrArg NonTableVcpValue.top (hkept r' hr)
      · exact fun r' hr ↦ hkept r' (hr m List.mem_cons_self)

/-- **A pass shows what it takes over**, display by display. -/
theorem serviceDisplays (h : Writes impl device register Up) {ms : List (ManagedDisplay H)}
    (hms : ∀ m ∈ ms, m.dim.Bounded) (hn : (ms.map fun m ↦ device m.src.ctx).Nodup) {w : W}
    (hw : Up w) (htop : ∀ m ∈ ms, m.dim.max = (register w (device m.src.ctx)).top)
    (hshown : ∀ m ∈ ms, m.dim.current = (register w (device m.src.ctx)).shown) :
    let r := Controller.serviceDisplays (ddcProvider impl) ms w
    ShownPass device register Up ms r.1 w r.2.2 := by
  induction ms generalizing w with
  | nil => exact ⟨hw, rfl, fun _ hm ↦ absurd hm List.not_mem_nil, fun _ ↦ rfl, fun _ _ ↦ rfl⟩
  | cons m ms ih =>
      obtain ⟨hnot, hn⟩ := List.nodup_cons.mp hn
      obtain ⟨hm, hms⟩ := List.forall_mem_cons.mp hms
      obtain ⟨htopm, htop⟩ := List.forall_mem_cons.mp htop
      obtain ⟨hshownm, hshown⟩ := List.forall_mem_cons.mp hshown
      have hother : ∀ m' ∈ ms, device m'.src.ctx ≠ device m.src.ctx :=
        fun m' hm' he ↦ hnot (List.mem_map.mpr ⟨m', hm', he⟩)
      have hfirst := h.serviceDisplay hm hw htopm hshownm
      have hsame : ∀ m' ∈ ms, register (Controller.serviceDisplay (ddcProvider impl) m w).2.2
          (device m'.src.ctx) = register w (device m'.src.ctx) :=
        fun m' hm' ↦ hfirst.kept _ (List.forall_mem_singleton.mpr (hother m' hm'))
      have hrest := ih hms hn hfirst.up
        (fun m' hm' ↦ (htop m' hm').trans (congrArg NonTableVcpValue.top (hsame m' hm')).symm)
        (fun m' hm' ↦ (hshown m' hm').trans (congrArg NonTableVcpValue.shown (hsame m' hm')).symm)
      refine ⟨hrest.up, ?_, List.forall_mem_cons.mpr ⟨?_, hrest.shown⟩, ?_, ?_⟩
      · exact congrArg₂ List.cons (List.singleton_injective hfirst.serviced) hrest.serviced
      · -- the rest of the pass leaves the first display alone
        have hhead := List.forall_mem_singleton.mp hfirst.shown
        refine hhead.trans (congrArg NonTableVcpValue.shown (hrest.kept _ ?_)).symm
        intro m' hm'
        rw [Controller.serviceDisplay_src]
        exact (hother m' hm').symm
      · exact fun r ↦ (hrest.top r).trans (hfirst.top r)
      · intro r hr
        obtain ⟨hrm, hrms⟩ := List.forall_mem_cons.mp hr
        exact (hrest.kept r hrms).trans (hfirst.kept r (List.forall_mem_singleton.mpr hrm))

end Writes

/-! ## The mock is obedient -/

section Mock

variable {A : Type} {alloc : A → Bool × A}

/-- A mock with `n` displays, none of which was told to fail. -/
structure MockState.Ready (n : Nat) (st : MockState) : Prop where
  inited : st.inited = true
  count_eq : st.count = n
  fail_eq : ∀ i, st.fail i = 0

theorem MockState.Ready.ensureDefault {n : Nat} {st : MockState} (h : st.Ready n) :
    (Dimmit.ensureDefault st).Ready n := by
  rwa [ensureDefault_of_inited h.inited]

theorem MockState.Ready.write {n : Nat} {st : MockState} (h : st.Ready n)
    (i : Fin mockMaxDisplays) (value : Int) : (st.write i value).Ready n :=
  ⟨h.inited, h.count_eq, h.fail_eq⟩

theorem MockState.Ready.set_eq {n : Nat} {w : MockState × A} (h : w.1.Ready n)
    (i : Fin mockMaxDisplays) (hi lo : UInt8) :
    mockSetNonTableVcpValue i vcpBrightness hi lo w = (true, w.1.write i (word hi lo), w.2) := by
  rw [mockSetNonTableVcpValue, if_neg (not_not.mpr rfl), if_neg (not_not.mpr (h.fail_eq i))]

theorem mockList_congr {st st' : MockState} (h : st.count = st'.count) :
    mockList st = mockList st' := by
  obtain ⟨_, _, _, n, _, hn⟩ := st
  obtain ⟨_, _, _, n', _, hn'⟩ := st'
  obtain rfl : n = n' := h
  rfl

theorem mockValue_write (st : MockState) (i : Fin mockMaxDisplays) (hi lo : UInt8) :
    mockValue (st.write i (word hi lo)) i = { mockValue st i with sh := hi, sl := lo } := by
  have hcurrent : (st.write i (word hi lo)).current i = word hi lo := Function.update_self ..
  unfold mockValue
  rw [hcurrent, hiByte_word, loByte_word]
  rfl

theorem mockValue_write_of_ne (st : MockState) {i j : Fin mockMaxDisplays} (h : j ≠ i)
    (value : Int) : mockValue (st.write i value) j = mockValue st j := by
  have hcurrent : (st.write i value).current j = st.current j := Function.update_of_ne h ..
  unfold mockValue
  rw [hcurrent]
  rfl

/-- The list of a mock with displays, where no allocation fails. -/
theorem mockGetDisplayInfoList_fst (halloc : ∀ a, (alloc a).1 = true) {st : MockState}
    (hst : st.count ≠ 0) (hinit : st.inited = true) (a : A) :
    (mockGetDisplayInfoList alloc (st, a)).1 = some (mockList st) := by
  unfold mockGetDisplayInfoList
  rw [ensureDefault_of_inited hinit]
  dsimp only
  rw [if_neg hst]
  rcases h₁ : alloc a with ⟨_ | _, a₁⟩
  · exact absurd ((congrArg Prod.fst h₁).symm.trans (halloc a)) Bool.false_ne_true
  rcases h₂ : alloc a₁ with ⟨_ | _, a₂⟩
  · exact absurd ((congrArg Prod.fst h₂).symm.trans (halloc a₁)) Bool.false_ne_true
  dsimp only
  rw [h₂]

/-- Configured with some displays and told no failures, the mock does what is written to it. -/
theorem obedient_inMemoryMock (halloc : ∀ a, (alloc a).1 = true) (st : MockState)
    (hst : st.count ≠ 0) :
    Obedient (inMemoryMock alloc) id (fun w ↦ mockValue (ensureDefault w.1))
      (fun w ↦ w.1.Ready st.count) (mockList st) where
  openDisplay _ _ := ⟨_, _, rfl, rfl⟩
  read _ _ := ⟨_, rfl⟩
  keeps := keeps_inMemoryMock alloc fun _ h ↦ h.ensureDefault
  read_eq h hw := (attentive_inMemoryMock alloc).read_eq h hw.inited
  register_eq := (attentive_inMemoryMock alloc).register_eq
  list_eq {w} hw := by
    rw [← mockList_congr hw.count_eq]
    exact mockGetDisplayInfoList_fst halloc (hw.count_eq ▸ hst) hw.inited w.2
  nodup := by
    have hfilter : (mockList st).info.filter (fun info ↦ !info.isBuiltin) = (mockList st).info := by
      refine List.filter_eq_self.mpr fun info hinfo ↦ ?_
      obtain ⟨i, rfl⟩ := List.mem_ofFn.mp hinfo
      rfl
    rw [hfilter, mockList, List.map_ofFn]
    exact List.nodup_ofFn.mpr (Fin.castLE_injective st.count_le)
  wrote h hi lo hw _ := congrArg Prod.fst (hw.set_eq h hi lo)
  up_wrote h hi lo hw _ := by
    change (mockSetNonTableVcpValue ..).2.1.Ready st.count
    rw [hw.set_eq]
    exact hw.write h _
  written {w} h hi lo hw _ := by
    change mockValue (ensureDefault (mockSetNonTableVcpValue ..).2.1) h = _
    rw [hw.set_eq, ensureDefault_of_inited (hw.write h _).inited, ensureDefault_of_inited hw.inited]
    exact mockValue_write w.1 h hi lo
  kept {w} h hi lo hw _ r hr := by
    change mockValue (ensureDefault (mockSetNonTableVcpValue ..).2.1) r = _
    rw [hw.set_eq, ensureDefault_of_inited (hw.write h _).inited, ensureDefault_of_inited hw.inited]
    exact mockValue_write_of_ne w.1 hr _

end Mock

/-! ## The refinement -/

theorem Session.controller_step_ne_none {P : Provider W H} {s : Session W H}
    (h : s.controller ≠ none) (op : Op) : (s.step P op).controller ≠ none := by
  obtain ⟨_ | c, w, results⟩ := s
  · exact absurd rfl h
  · cases op <;> exact Option.some_ne_none _

theorem Session.controller_run_ne_none {P : Provider W H} {s : Session W H}
    (h : s.controller ≠ none) (ops : List Op) : (s.run P ops).controller ≠ none := by
  induction ops generalizing s with
  | nil => exact h
  | cons op ops ih => exact ih (controller_step_ne_none h op)

/-- The session manages the seats, each of its dimmers is heading for the level of its display, and
knows what the display shows. -/
structure Session.Reflects (device : H → R) (register : W → R → NonTableVcpValue) (Up : W → Prop)
    (seats : List (Nat × DisplayInfo R)) (first : R → NonTableVcpValue) (level : R → Int)
    (s : Session W H) : Prop where
  up : Up s.world
  seated : s.Seated device seats
  bounded : ∀ m ∈ s.displays, m.dim.Bounded
  max_eq : ∀ m ∈ s.displays, m.dim.max = (first (device m.src.ctx)).top
  level_eq : ∀ m ∈ s.displays, m.dim.level = level (device m.src.ctx)
  current_eq : ∀ m ∈ s.displays, m.dim.current = (register s.world (device m.src.ctx)).shown
  top_eq : ∀ r, (register s.world r).top = (first r).top
  /-- No other display is touched. -/
  others : ∀ r, (∀ p ∈ seats, p.2.dref ≠ r) → register s.world r = first r

namespace Session.Reflects

variable {impl : Implementation W R H} {device : H → R} {register : W → R → NonTableVcpValue}
  {Up : W → Prop} {dlist : DisplayInfoList R} {first : R → NonTableVcpValue} {level : R → Int}
  {s : Session W H}

/-- Only the levels of the seats matter. -/
theorem congr_level {seats : List (Nat × DisplayInfo R)} {level' : R → Int}
    (hs : s.Reflects device register Up seats first level)
    (h : ∀ p ∈ seats, level p.2.dref = level' p.2.dref) :
    s.Reflects device register Up seats first level' where
  __ := hs
  level_eq m hm := by
    obtain ⟨p, hp, he⟩ := hs.seated.exists_seat hm
    rw [hs.level_eq m hm, ← he, h p hp]

theorem adjust (hs : s.Reflects device register Up (externalsFrom 0 dlist.info) first level)
    (P : Provider W H) (fraction : ℚ) :
    (s.step P (.adjust fraction)).Reflects device register Up (externalsFrom 0 dlist.info) first
      (eagerPress first level fraction) := by
  refine ⟨hs.up, hs.seated.adjust P fraction, ?_, ?_, ?_, ?_, hs.top_eq, hs.others⟩ <;>
    rw [displays_step_adjust] <;> intro m' hm' <;> obtain ⟨m, hm, rfl⟩ := List.mem_map.mp hm'
  · exact (hs.bounded m hm).adjust _
  · exact hs.max_eq m hm
  · have hlevel : (Controller.adjustDisplay fraction m).dim.level = clampBrightness
        (m.dim.level + dimmerDeltaForFraction m.dim.max fraction) m.dim.max := level_dimmerAdjust ..
    rw [hlevel, hs.level_eq m hm, hs.max_eq m hm]
    rfl
  · exact hs.current_eq m hm

theorem service (hs : s.Reflects device register Up (externalsFrom 0 dlist.info) first level)
    (h : Writes impl device register Up)
    (hn : ((dlist.info.filter fun info ↦ !info.isBuiltin).map (·.dref)).Nodup) :
    (s.step (ddcProvider impl) .service).Reflects device register Up (externalsFrom 0 dlist.info)
      first level := by
  have hpass := h.serviceDisplays hs.bounded (hs.seated.nodup_devices hn) hs.up
    (fun m hm ↦ (hs.max_eq m hm).trans (hs.top_eq _).symm) hs.current_eq
  have hmem {m' : ManagedDisplay H} (hm' : m' ∈ (s.step (ddcProvider impl) .service).displays) :
      ∃ m ∈ s.displays, { m with dim := dimmerServiced m.dim true } = m' := by
    rw [displays_step_service, hpass.serviced] at hm'
    exact List.mem_map.mp hm'
  refine ⟨?_, hs.seated.service _, ?_, ?_, ?_, ?_, ?_, ?_⟩
  · rw [world_step_service]
    exact hpass.up
  · intro m' hm'
    obtain ⟨m, hm, rfl⟩ := hmem hm'
    exact (hs.bounded m hm).serviced true
  · intro m' hm'
    obtain ⟨m, hm, rfl⟩ := hmem hm'
    exact (dimmerServiced_max m.dim true).trans (hs.max_eq m hm)
  · intro m' hm'
    obtain ⟨m, hm, rfl⟩ := hmem hm'
    exact (level_dimmerServiced_true m.dim).trans (hs.level_eq m hm)
  · rw [displays_step_service, world_step_service]
    exact hpass.shown
  · intro r
    rw [world_step_service]
    exact (hpass.top r).trans (hs.top_eq r)
  · intro r hr
    rw [world_step_service, hpass.kept, hs.others r hr]
    rintro m hm rfl
    obtain ⟨p, hp, he⟩ := hs.seated.exists_seat hm
    exact hr p hp he

/-- A poll leaves every display as it is, under a new handle. -/
theorem reconcile (hs : s.Reflects device register Up (externalsFrom 0 dlist.info) first level)
    (h : Obedient impl device register Up dlist) :
    (s.step (ddcProvider impl) .reconcile).Reflects device register Up (externalsFrom 0 dlist.info)
      first level := by
  obtain ⟨hseated, hviews⟩ := hs.seated.poll h.toAnswers h.listed_eq hs.up
  obtain ⟨hup, hworld⟩ : Up (s.step (ddcProvider impl) .reconcile).world ∧
      register (s.step (ddcProvider impl) .reconcile).world = register s.world := by
    obtain ⟨_ | c, w, results⟩ := s
    · exact ⟨hs.up, rfl⟩
    · exact (h.keeps_up w).reconcile c ⟨hs.up, rfl⟩
  have hsame {m' : ManagedDisplay H}
      (hm' : m' ∈ (s.step (ddcProvider impl) .reconcile).displays) :
      ∃ m ∈ s.displays, m.dim = m'.dim ∧ device m.src.ctx = device m'.src.ctx := by
    have hmem := List.mem_map_of_mem (f := ManagedDisplay.view device) hm'
    rw [hviews] at hmem
    obtain ⟨m, hm, hview⟩ := List.mem_map.mp hmem
    exact ⟨m, hm, congrArg (·.2.2) hview, congrArg (·.2.1) hview⟩
  refine ⟨hup, hseated, ?_, ?_, ?_, ?_, fun r ↦ hworld ▸ hs.top_eq r,
    fun r hr ↦ hworld ▸ hs.others r hr⟩ <;> intro m' hm' <;>
    obtain ⟨m, hm, hdim, hdevice⟩ := hsame hm' <;> rw [← hdim]
  · exact hs.bounded m hm
  · rw [← hdevice]
    exact hs.max_eq m hm
  · rw [← hdevice]
    exact hs.level_eq m hm
  · rw [hworld, ← hdevice]
    exact hs.current_eq m hm

/-- Displays that were just read are heading for where they are. -/
theorem of_read {seats : List (Nat × DisplayInfo R)} (hup : Up s.world)
    (hseated : s.Seated device seats)
    (hread : ∀ m ∈ s.displays, m.dim = readDimmer (register s.world (device m.src.ctx)))
    (htop : ∀ r, (register s.world r).top = (first r).top)
    (hothers : ∀ r, (∀ p ∈ seats, p.2.dref ≠ r) → register s.world r = first r) :
    s.Reflects device register Up seats first fun r ↦ (register s.world r).shown := by
  refine ⟨hup, hseated, ?_, ?_, ?_, ?_, htop, hothers⟩ <;> intro m hm <;> rw [hread m hm]
  · exact bounded_readDimmer _
  · exact htop _
  · exact level_dimmerInit _ _
  · rfl

/-- A session starts with what its displays show. -/
theorem start (h : Obedient impl device register Up dlist) {w : W} (hw : Up w) :
    (Session.start (ddcProvider impl) w).Reflects device register Up (externalsFrom 0 dlist.info)
      (register w) (eagerLevels (register w) []) := by
  have hkeeps := h.keeps_up w
  obtain ⟨hup, hworld⟩ : Up (Session.start (ddcProvider impl) w).world ∧
      register (Session.start (ddcProvider impl) w).world = register w :=
    hkeeps.controllerOpen ⟨hw, rfl⟩
  have hread : ∀ m ∈ (Session.start (ddcProvider impl) w).displays,
      m.dim = readDimmer (register w (device m.src.ctx)) := by
    intro m hm
    cases hc : (controllerOpen (ddcProvider impl) w).1 with
    | none =>
        rw [show (Session.start (ddcProvider impl) w).displays = [] from
          congrArg (fun c ↦ (c.map Controller.displays).getD []) hc] at hm
        exact absurd hm List.not_mem_nil
    | some c =>
        obtain ⟨w', sources, w'', w₃, hcalloc, hen, hcalloc', -, rfl⟩ := controllerOpen_eq_some hc
        rw [show (Session.start (ddcProvider impl) w).displays = _ from
          congrArg (fun c ↦ (c.map Controller.displays).getD []) hc] at hm
        have hw₃ : Up w₃ ∧ register w₃ = register w := hkeeps.of_array hcalloc'
          (hkeeps.of_enumerate hen (hkeeps.of_calloc hcalloc ⟨hw, rfl⟩))
        have hopened := hkeeps.openDisplays_eq (fun src {w₁} hw₁ ↦ by
          rw [h.initialDimmer_eq src hw₁.1, hw₁.2]) sources hw₃
        change m ∈ (openDisplays (ddcProvider impl) sources w₃).1 at hm
        rw [hopened] at hm
        obtain ⟨src, -, rfl⟩ := List.mem_map.mp hm
        rfl
  rw [← hworld] at hread ⊢
  exact of_read hup (seated_open h.toAnswers h.listed_eq hw) hread (fun _ ↦ rfl) fun _ _ ↦ rfl

/-- **The controller refines the eager displays**, in every run. -/
theorem run (h : Obedient impl device register Up dlist) {w : W} (hw : Up w) (ops : List Op) :
    ((Session.start (ddcProvider impl) w).run (ddcProvider impl) ops).Reflects device register Up
      (externalsFrom 0 dlist.info) (register w) (eagerLevels (register w) (fractions ops)) := by
  induction ops using List.reverseRecOn with
  | nil => exact start h hw
  | append_singleton ops op ih =>
      rw [Session.run_append, fractions, List.filterMap_append]
      cases op with
      | adjust fraction =>
          rw [show List.filterMap _ [Op.adjust fraction] = [fraction] from rfl, eagerLevels_append]
          exact ih.adjust (ddcProvider impl) fraction
      | service =>
          rw [show List.filterMap _ [Op.service] = ([] : List ℚ) from rfl, List.append_nil]
          exact ih.service h.toWrites h.nodup
      | reconcile =>
          rw [show List.filterMap _ [Op.reconcile] = ([] : List ℚ) from rfl, List.append_nil]
          exact ih.reconcile h

/-- With nothing pending, the displays show their levels. -/
theorem shown (hs : s.Reflects device register Up (externalsFrom 0 dlist.info) first level)
    (hpending : ∀ m ∈ s.displays, m.dim.pendingDelta = 0) (hopen : s.controller ≠ none)
    {info : DisplayInfo R}
    (hinfo : info ∈ dlist.info) (hext : info.isBuiltin = false) :
    (register s.world info.dref).shown = level info.dref := by
  have hmem : info.dref ∈ s.displays.map fun m ↦ device m.src.ctx := by
    rw [hs.seated.map_device hopen, externalsFrom_map_snd]
    exact List.mem_map_of_mem (List.mem_filter.mpr ⟨hinfo, by simp [hext]⟩)
  obtain ⟨m, hm, hdevice⟩ := List.mem_map.mp hmem
  have hlevel : m.dim.level = m.dim.current := by
    rw [Dimmer.level, hpending m hm, Int.add_zero]
  rw [← hdevice, ← hs.current_eq m hm, ← hlevel, hs.level_eq m hm]

end Session.Reflects

end Dimmit
