import Dimmit.Ddc.InMemoryMock
import Dimmit.Lib.Run

/-!
# The daemon's level is the device's level

On the in-memory mock the brightness of a display is in two places, `dim.current` and the
register `mock_current` reads back, and nothing ever reads the register again once the display
is managed.  They agree because a pass that fails changes neither, a pass that succeeds puts the
target into both, and a reconcile hands a dimmer only to the display with its id, which on the
mock is the display with its register.
-/

namespace Dimmit

open Run

variable {A : Type}

/-- What can happen around one controller on the mock. -/
inductive MockOp where
  /-- `controller_close` of the controller, if there is one, and `controller_open`. -/
  | reopen
  /-- An operation on the controller. -/
  | op (op : Op)
  /-- `mock_set_fail`. -/
  | setFail (index fail : Int)
deriving DecidableEq, Repr

namespace Session

/-- The session of the mock `st` before any controller is open. -/
def unopened (st : MockState) (a : A) : Session (MockState × A) (Fin mockMaxDisplays) :=
  { controller := none, world := (st, a), serviced := [] }

/-- One operation on the mock. -/
def mockStep (alloc : A → Bool × A) (s : Session (MockState × A) (Fin mockMaxDisplays)) :
    MockOp → Session (MockState × A) (Fin mockMaxDisplays)
  | .reopen =>
    start (ddcProvider (inMemoryMock alloc))
      (controllerClose (ddcProvider (inMemoryMock alloc)) s.controller s.world)
  | .op op => s.step (ddcProvider (inMemoryMock alloc)) op
  | .setFail index fail => { s with world := (mockSetFail index fail s.world.1, s.world.2) }

end Session

/-- What a pass that takes the mock from `st` to `st'` makes of a display `m`: nothing when no
write is due, and otherwise it commits exactly the target that is in the register now, or, when
the write fails, drops what was pending and leaves the register alone. -/
def Written (st st' : MockState) (m m' : ManagedDisplay (Fin mockMaxDisplays)) : Prop :=
  match dimmerDue m.dim with
  | none => m' = m ∧ mockCurrent st' m.src.ctx = mockCurrent st m.src.ctx
  | some target =>
    if st.fail m.src.ctx ≠ 0 then
      m' = { m with dim := dimmerSettled m.dim } ∧
        mockCurrent st' m.src.ctx = mockCurrent st m.src.ctx
    else
      m' = { m with dim := dimmerCommit m.dim target } ∧ mockCurrent st' m.src.ctx = target

/-- The display `m` stands at its index, and its dimmer has the value of its register. -/
structure ManagedDisplay.Mirrors (m : ManagedDisplay (Fin mockMaxDisplays)) (st : MockState) :
    Prop where
  lt_count : m.src.ctx < st.count
  id_eq : m.src.id = displayId m.src.ctx (mockInfo m.src.ctx)
  bounded : m.dim.Bounded
  current_eq : m.dim.current = mockCurrent st m.src.ctx

/-- The dimmers of the controller have the values of their registers, each of its own. -/
structure Controller.Mirrors (c : Controller (Fin mockMaxDisplays)) (st : MockState) : Prop where
  inited : st.inited = true
  parallel : c.Parallel
  nodup : (c.displays.map fun m ↦ m.src.ctx).Nodup
  displays : ∀ m ∈ c.displays, m.Mirrors st

/-- The invariant of the sessions on the mock. -/
structure Session.Mirrors (s : Session (MockState × A) (Fin mockMaxDisplays)) : Prop where
  configured : s.world.1.Configured
  controller : ∀ c ∈ s.controller, c.Mirrors s.world.1

/-! ## Displays that were just read -/

/-- The dimmer made from a reading of a 16-bit register has its value. -/
theorem MockState.Configured.current_readDimmer {st : MockState} (h : st.Configured)
    (hst : st.inited = true) {i : Fin mockMaxDisplays} (hi : i < st.count) :
    (readDimmer (mockValue st i)).current = mockCurrent st i := by
  obtain ⟨⟨h₀, h₁⟩, -⟩ := (configured_iff hst).mp h i hi
  rw [mockCurrent_of_lt hi]
  exact word_hiByte_loByte h₀ h₁

section Mirrors

variable {alloc : A → Bool × A} {st : MockState}

theorem displayId_mockInfo_inj {i j : Fin mockMaxDisplays}
    (h : displayId i (mockInfo i) = displayId j (mockInfo j)) : i = j := by
  have hi : (i : Nat) < 8 := i.isLt
  have hj : (j : Nat) < 8 := j.isLt
  exact Fin.ext ((displayId_eq_iff (by omega) (by omega) _ _).mp h).2.2

/-- A controller for the sources of one enumeration mirrors the mock when each of its dimmers has
the value of its register. -/
theorem Controller.mirrors_of_seats (hst : st.inited = true) {a : A}
    {fresh : List (BrightnessSource (Fin mockMaxDisplays))}
    (hseats : List.Forall₂ (OpenedFor id) fresh (listed (inMemoryMock alloc) (st, a)))
    {dim : BrightnessSource (Fin mockMaxDisplays) → Dimmer}
    (hdim : ∀ src ∈ fresh, src.ctx < st.count → src.id = displayId src.ctx (mockInfo src.ctx) →
      (dim src).Bounded ∧ (dim src).current = mockCurrent st src.ctx) :
    (Controller.mk fresh (fresh.map fun src ↦ ⟨src, dim src⟩)).Mirrors st := by
  have hseat (src) (hsrc : src ∈ fresh) :
      src.ctx < st.count ∧ src.id = displayId src.ctx (mockInfo src.ctx) := by
    obtain ⟨p, hp, hopen⟩ := Related.exists_of_mem_left hseats hsrc
    obtain ⟨i, hi, rfl⟩ := mem_listed_inMemoryMock alloc hp
    obtain rfl : src.ctx = i := hopen.device_eq
    rw [ensureDefault_of_inited hst] at hi
    exact ⟨hi, hopen.id_eq⟩
  have hnodup : (fresh.map (·.ctx)).Nodup := by
    have hids : (fresh.map (·.id)).Nodup := by
      rw [forall₂_openedFor_map_id hseats]
      exact nodup_ids_listed _ _
    have hmap : fresh.map (·.id) =
        (fresh.map (·.ctx)).map fun i : Fin mockMaxDisplays ↦ displayId i (mockInfo i) := by
      rw [List.map_map]
      exact List.map_congr_left fun src hsrc ↦ (hseat src hsrc).2
    rw [hmap] at hids
    exact hids.of_map _
  refine ⟨hst, ?_, ?_, ?_⟩
  · unfold Controller.Parallel
    rw [List.map_map]
    exact List.map_id fresh
  · simpa [List.map_map, Function.comp_def] using hnodup
  · intro m hm
    obtain ⟨src, hsrc, rfl⟩ := List.mem_map.mp hm
    obtain ⟨hlt, hid⟩ := hseat src hsrc
    obtain ⟨hb, hcur⟩ := hdim src hsrc hlt hid
    exact ⟨hlt, hid, hb, hcur⟩

/-! ## `controller_open` and `controller_reconcile` -/

variable (alloc) in
/-- Every call but the write leaves a configured mock as it is. -/
theorem keeps_inited (hst : st.inited = true) :
    (ddcProvider (inMemoryMock alloc)).Keeps fun w ↦ w.1 = st :=
  (keeps_inMemoryMock alloc (I := (· = st)) fun st' h ↦ by
    rw [h, ensureDefault_of_inited hst]).ddcProvider

variable (alloc) in
theorem keeps_configured :
    (ddcProvider (inMemoryMock alloc)).Keeps fun w ↦ w.1.Configured :=
  (keeps_inMemoryMock alloc fun _ h ↦ configured_ensureDefault h).ddcProvider

theorem initialDimmer_inMemoryMock (hst : st.inited = true)
    (src : BrightnessSource (Fin mockMaxDisplays)) {w : MockState × A} (hw : w.1 = st) :
    (initialDimmer (ddcProvider (inMemoryMock alloc)) src w).1 =
      readDimmer (mockValue st src.ctx) := by
  rw [(attentive_inMemoryMock alloc).initialDimmer_eq src (by rw [hw, hst]), hw,
    ensureDefault_of_inited hst]
  rfl

theorem mirrors_controllerOpen {w : MockState × A} (hw : w.1.Configured) :
    ∀ c ∈ (controllerOpen (ddcProvider (inMemoryMock alloc)) w).1,
      c.Mirrors (controllerOpen (ddcProvider (inMemoryMock alloc)) w).2.1 := by
  intro c hc
  obtain ⟨w₁, sources, w₂, w₃, hcalloc, hen, hcalloc', he, rfl⟩ := controllerOpen_eq_some hc
  rw [he]
  -- the enumeration is that of the configured mock, which stays as it is from here on
  have hconf : w₁.1.Configured := (keeps_configured alloc).of_calloc hcalloc hw
  have hst := inited_ensureDefault w₁.1
  have hkeeps := keeps_inited alloc hst
  rw [← enumerate_ensureDefault] at hen
  have hseats := (attentive_inMemoryMock alloc).forall₂_ddcEnumerateSources hst hen
  have hw₂ : w₂.1 = ensureDefault w₁.1 := hkeeps.of_enumerate hen rfl
  have hw₃ : w₃.1 = ensureDefault w₁.1 := hkeeps.of_array hcalloc' hw₂
  rw [hkeeps.openDisplays_eq (fun src _ ↦ initialDimmer_inMemoryMock hst src) sources hw₃,
    hkeeps.openDisplays sources hw₃]
  refine Controller.mirrors_of_seats hst hseats fun src _ hlt _ ↦ ⟨bounded_readDimmer _, ?_⟩
  exact (configured_ensureDefault hconf).current_readDimmer hst hlt

variable (alloc) in
theorem world_reconcile {c : Controller (Fin mockMaxDisplays)}
    {w : MockState × A} (hst : w.1.inited = true) :
    (c.reconcile (ddcProvider (inMemoryMock alloc)) w).2.1 = w.1 :=
  (keeps_inited alloc hst).reconcile c rfl

/-- A dimmer is handed to the display with its id, hence with its register. -/
theorem Controller.Mirrors.reconcile {c : Controller (Fin mockMaxDisplays)} {w : MockState × A}
    (hc : c.Mirrors w.1) (hw : w.1.Configured) :
    (c.reconcile (ddcProvider (inMemoryMock alloc)) w).1.Mirrors w.1 := by
  obtain ⟨he, -⟩ | ⟨fresh, hseats, he⟩ := (attentive_inMemoryMock alloc).reconcile_cases c hc.inited
  · rwa [he]
  rw [he]
  refine Controller.mirrors_of_seats hc.inited hseats fun src _ hlt hid ↦ ?_
  obtain ⟨m, hm, hmid, hmatch⟩ | ⟨-, hnone⟩ := hc.parallel.matched_cases src.id
  · have hmir := hc.displays m hm
    have hctx : m.src.ctx = src.ctx :=
      displayId_mockInfo_inj (hmir.id_eq.symm.trans (hmid.trans hid))
    rw [hmatch, ← hctx]
    exact ⟨hmir.bounded, hmir.current_eq⟩
  · rw [hnone, ensureDefault_of_inited hc.inited]
    exact ⟨bounded_readDimmer _, hw.current_readDimmer hc.inited hlt⟩

/-! ## `controller_service` -/

/-- The mock after some of its registers were written. -/
structure WrittenTo (st st' : MockState) : Prop where
  fail_eq : st'.fail = st.fail
  max_eq : st'.max = st.max
  count_eq : st'.count = st.count
  inited_eq : st'.inited = st.inited

theorem WrittenTo.trans {st st₁ st' : MockState} (h : WrittenTo st st₁) (h' : WrittenTo st₁ st') :
    WrittenTo st st' :=
  ⟨h'.fail_eq.trans h.fail_eq, h'.max_eq.trans h.max_eq, h'.count_eq.trans h.count_eq,
    h'.inited_eq.trans h.inited_eq⟩

variable (alloc) in
/-- One display of a pass: the account of its register, and every other register alone. -/
theorem written_serviceDisplay {m : ManagedDisplay (Fin mockMaxDisplays)} {w : MockState × A}
    (hm : m.Mirrors w.1) :
    WrittenTo w.1 (Controller.serviceDisplay (ddcProvider (inMemoryMock alloc)) m w).2.2.1 ∧
    (∀ i : Fin mockMaxDisplays, i ≠ m.src.ctx →
      mockCurrent (Controller.serviceDisplay (ddcProvider (inMemoryMock alloc)) m w).2.2.1 i =
        mockCurrent w.1 i) ∧
    Written w.1 (Controller.serviceDisplay (ddcProvider (inMemoryMock alloc)) m w).2.2.1 m
      (Controller.serviceDisplay (ddcProvider (inMemoryMock alloc)) m w).1 := by
  unfold Controller.serviceDisplay Written
  cases hd : dimmerDue m.dim with
  | none => exact ⟨⟨rfl, rfl, rfl, rfl⟩, fun _ _ ↦ rfl, rfl, rfl⟩
  | some target =>
      simp only [set_inMemoryMock]
      by_cases hf : w.1.fail m.src.ctx ≠ 0
      · rw [if_pos hf, if_pos hf]
        exact ⟨⟨rfl, rfl, rfl, rfl⟩, fun _ _ ↦ rfl, rfl, rfl⟩
      · rw [if_neg hf, if_neg hf]
        -- the two bytes of the target make it again
        obtain ⟨h₀, h₁⟩ := hm.bounded.target_mem hd
        have hle := hm.bounded.max_le
        rw [word_hiByte_loByte h₀ (by omega)]
        exact ⟨⟨rfl, rfl, rfl, rfl⟩, fun i hi ↦ mockCurrent_write_of_ne hi target, rfl,
          mockCurrent_write_self hm.lt_count target⟩

/-- A display whose own register nobody else writes. -/
theorem ManagedDisplay.Mirrors.of_current {m : ManagedDisplay (Fin mockMaxDisplays)}
    {st st' : MockState} (hm : m.Mirrors st) (hst : WrittenTo st st')
    (hcur : mockCurrent st' m.src.ctx = mockCurrent st m.src.ctx) : m.Mirrors st' :=
  ⟨hst.count_eq ▸ hm.lt_count, hm.id_eq, hm.bounded, hm.current_eq.trans hcur.symm⟩

/-- The account of a display stands when the rest of the pass leaves its register alone. -/
theorem Written.of_end {st st₁ st' : MockState} {m m' : ManagedDisplay (Fin mockMaxDisplays)}
    (h : Written st st₁ m m')
    (hcur : mockCurrent st' m.src.ctx = mockCurrent st₁ m.src.ctx) : Written st st' m m' := by
  unfold Written at h ⊢
  rwa [hcur]

/-- It stands as well when the pass had left its register alone before. -/
theorem Written.of_start {st st₁ st' : MockState} {m m' : ManagedDisplay (Fin mockMaxDisplays)}
    (h : Written st₁ st' m m') (hfail : st₁.fail = st.fail)
    (hcur : mockCurrent st₁ m.src.ctx = mockCurrent st m.src.ctx) : Written st st' m m' := by
  unfold Written at h ⊢
  rwa [hfail, hcur] at h

variable (alloc) in
/-- A pass over displays with registers of their own. -/
theorem written_serviceDisplays {ms : List (ManagedDisplay (Fin mockMaxDisplays))}
    {w : MockState × A} (hn : (ms.map fun m ↦ m.src.ctx).Nodup) (hms : ∀ m ∈ ms, m.Mirrors w.1) :
    WrittenTo w.1 (Controller.serviceDisplays (ddcProvider (inMemoryMock alloc)) ms w).2.2.1 ∧
    (∀ i : Fin mockMaxDisplays, i ∉ ms.map (fun m ↦ m.src.ctx) →
      mockCurrent (Controller.serviceDisplays (ddcProvider (inMemoryMock alloc)) ms w).2.2.1 i =
        mockCurrent w.1 i) ∧
    List.Forall₂
      (Written w.1 (Controller.serviceDisplays (ddcProvider (inMemoryMock alloc)) ms w).2.2.1) ms
      (Controller.serviceDisplays (ddcProvider (inMemoryMock alloc)) ms w).1 := by
  induction ms generalizing w with
  | nil => exact ⟨⟨rfl, rfl, rfl, rfl⟩, fun _ _ ↦ rfl, .nil⟩
  | cons m ms ih =>
      rw [List.map_cons, List.nodup_cons] at hn
      obtain ⟨hm, hms⟩ := List.forall_mem_cons.mp hms
      obtain ⟨hto, hframe, hwritten⟩ := written_serviceDisplay alloc hm
      generalize hr : Controller.serviceDisplay (ddcProvider (inMemoryMock alloc)) m w = r at *
      have hne (m') (hm' : m' ∈ ms) : m'.src.ctx ≠ m.src.ctx := fun he ↦
        hn.1 (he ▸ List.mem_map_of_mem (f := fun m ↦ m.src.ctx) hm')
      have hms₁ (m') (hm' : m' ∈ ms) : m'.Mirrors r.2.2.1 :=
        (hms m' hm').of_current hto (hframe _ (hne m' hm'))
      obtain ⟨hto', hframe', hwritten'⟩ := ih hn.2 hms₁
      have hsplit : Controller.serviceDisplays (ddcProvider (inMemoryMock alloc)) (m :: ms) w =
          (r.1 :: (Controller.serviceDisplays (ddcProvider (inMemoryMock alloc)) ms r.2.2).1,
            r.2.1 + (Controller.serviceDisplays (ddcProvider (inMemoryMock alloc)) ms r.2.2).2.1,
            (Controller.serviceDisplays (ddcProvider (inMemoryMock alloc)) ms r.2.2).2.2) := by
        rw [← hr]
        rfl
      rw [hsplit]
      refine ⟨hto.trans hto', ?_, .cons ?_ ?_⟩
      · intro i hi
        rw [List.map_cons, List.mem_cons, not_or] at hi
        exact (hframe' i hi.2).trans (hframe i hi.1)
      · exact hwritten.of_end (hframe' m.src.ctx hn.1)
      · refine (List.forall₂_and_left _ _ |>.mpr ⟨hne, hwritten'⟩).imp ?_
        rintro m₁ m₁' ⟨hm₁, hw₁⟩
        exact hw₁.of_start hto.fail_eq (hframe _ hm₁)

/-- After a pass the dimmer has the value of its register again. -/
theorem Written.mirrors {st st' : MockState} {m m' : ManagedDisplay (Fin mockMaxDisplays)}
    (h : Written st st' m m') (hst : WrittenTo st st') (hm : m.Mirrors st) :
    m'.src = m.src ∧ m'.Mirrors st' := by
  have hlt : m.src.ctx < st'.count := hst.count_eq ▸ hm.lt_count
  have hb (ok : Bool) := hm.bounded.serviced ok
  unfold Written at h
  unfold dimmerServiced at hb
  cases hd : dimmerDue m.dim with
  | none =>
      rw [hd] at h
      obtain ⟨rfl, hcur⟩ := h
      exact ⟨rfl, hm.of_current hst hcur⟩
  | some target =>
      simp only [hd] at h hb
      split_ifs at h with hf
      · obtain ⟨rfl, hcur⟩ := h
        exact ⟨rfl, hlt, hm.id_eq, hb false, hm.current_eq.trans hcur.symm⟩
      · obtain ⟨rfl, hcur⟩ := h
        exact ⟨rfl, hlt, hm.id_eq, hb true, hcur.symm⟩

namespace Controller.Mirrors

variable {c : Controller (Fin mockMaxDisplays)}

theorem adjust (hc : c.Mirrors st) (f : ℚ) : (c.adjust f).Mirrors st := by
  refine ⟨hc.inited, hc.parallel.adjust f, ?_, ?_⟩
  · have hctx : (c.adjust f).displays.map (fun m ↦ m.src.ctx) =
        c.displays.map fun m ↦ m.src.ctx := by
      rw [Controller.adjust, List.map_map]
      rfl
    rw [hctx]
    exact hc.nodup
  · intro m hm
    obtain ⟨m₀, hm₀, rfl⟩ := List.mem_map.mp hm
    obtain ⟨hlt, hid, hb, hcur⟩ := hc.displays m₀ hm₀
    exact ⟨hlt, hid, hb.adjust _, hcur⟩

theorem service {w : MockState × A} (hc : c.Mirrors w.1) :
    (c.service (ddcProvider (inMemoryMock alloc)) w).1.Mirrors
      (c.service (ddcProvider (inMemoryMock alloc)) w).2.2.1 := by
  obtain ⟨hto, -, hwritten⟩ := written_serviceDisplays alloc hc.nodup hc.displays
  have hpar := hc.parallel.service (ddcProvider (inMemoryMock alloc)) w
  refine ⟨hto.inited_eq.trans hc.inited, hpar, ?_, ?_⟩
  · have hctx : (c.service (ddcProvider (inMemoryMock alloc)) w).1.displays.map
        (fun m ↦ m.src.ctx) = c.displays.map fun m ↦ m.src.ctx := by
      have hsrc := congrArg (List.map (·.ctx)) (hpar.trans hc.parallel.symm)
      rwa [List.map_map, List.map_map] at hsrc
    rw [hctx]
    exact hc.nodup
  · intro m' hm'
    obtain ⟨m, hm, h⟩ := Related.exists_of_mem_right hwritten hm'
    exact (h.mirrors hto (hc.displays m hm)).2

/-- Registers that are written stay 16-bit values. -/
theorem configured_service {w : MockState × A} (hc : c.Mirrors w.1) (hw : w.1.Configured) :
    (c.service (ddcProvider (inMemoryMock alloc)) w).2.2.1.Configured := by
  obtain ⟨hto, hframe, hwritten⟩ := written_serviceDisplays alloc hc.nodup hc.displays
  rw [configured_iff hc.inited] at hw
  apply (configured_iff (hto.inited_eq.trans hc.inited)).mpr
  intro i hi
  have hi' : i < w.1.count := hto.count_eq ▸ hi
  obtain ⟨hcur, hmax⟩ := hw i hi'
  refine ⟨?_, hto.max_eq ▸ hmax⟩
  rw [← mockCurrent_of_lt hi]
  by_cases hmem : i ∈ c.displays.map fun m ↦ m.src.ctx
  · obtain ⟨m, hm, rfl⟩ := List.mem_map.mp hmem
    obtain ⟨m', -, h⟩ := Related.exists_of_mem_left hwritten hm
    obtain ⟨hsrc, hm'⟩ := h.mirrors hto (hc.displays m hm)
    have hreg := hm'.current_eq
    rw [hsrc] at hreg
    have h₀ := hm'.bounded.current_nonneg
    have h₁ := hm'.bounded.current_le
    omega
  · rw [hframe i hmem, mockCurrent_of_lt hi']
    exact hcur

end Controller.Mirrors

/-- `mock_set_fail` touches no register. -/
theorem Controller.Mirrors.setFail {c : Controller (Fin mockMaxDisplays)} (hc : c.Mirrors st)
    (index fail : Int) : c.Mirrors (mockSetFail index fail st) := by
  refine ⟨hc.inited, hc.parallel, hc.nodup, ?_⟩
  intro m hm
  obtain ⟨hlt, hid, hb, hcur⟩ := hc.displays m hm
  exact ⟨hlt, hid, hb, hcur⟩

theorem configured_mockSetFail (hst : st.Configured) (index fail : Int) :
    (mockSetFail index fail st).Configured := by
  cases hi : st.inited with
  | true =>
      have hi' : (mockSetFail index fail st).inited = true := hi
      exact (configured_iff hi').mpr ((configured_iff hi).mp hst)
  | false => exact configured_of_not_inited hi

/-! ## Runs -/

namespace Session.Mirrors

/-- One operation, whatever it is, keeps every dimmer at its register. -/
theorem mockStep {s : Session (MockState × A) (Fin mockMaxDisplays)} (hs : s.Mirrors)
    (op : MockOp) : (s.mockStep alloc op).Mirrors := by
  obtain ⟨hw, hc⟩ := hs
  cases op with
  | reopen =>
      have hclosed : (controllerClose (ddcProvider (inMemoryMock alloc)) s.controller
          s.world).1.Configured := by
        cases s.controller with
        | none => exact hw
        | some c => exact (keeps_configured alloc).brightnessFree c.sources hw
      exact ⟨(keeps_configured alloc).controllerOpen hclosed, mirrors_controllerOpen hclosed⟩
  | setFail index fail =>
      exact ⟨configured_mockSetFail hw index fail, fun c h ↦ (hc c h).setFail index fail⟩
  | op op =>
      obtain ⟨_ | c, w, results⟩ := s
      · cases op <;> exact ⟨hw, fun c h ↦ nomatch h⟩
      have hc : c.Mirrors w.1 := hc c rfl
      cases op with
      | adjust f =>
          refine ⟨hw, ?_⟩
          rintro _ ⟨⟩
          exact hc.adjust f
      | service =>
          refine ⟨hc.configured_service hw, ?_⟩
          rintro _ ⟨⟩
          exact hc.service
      | reconcile =>
          have hworld := world_reconcile alloc (c := c) hc.inited
          constructor
          · change (c.reconcile (ddcProvider (inMemoryMock alloc)) w).2.1.Configured
            rwa [hworld]
          · rintro _ ⟨⟩
            change (c.reconcile (ddcProvider (inMemoryMock alloc)) w).1.Mirrors
              (c.reconcile (ddcProvider (inMemoryMock alloc)) w).2.1
            rw [hworld]
            exact hc.reconcile hw

end Session.Mirrors

end Mirrors

/-- **The daemon's idea of the level is the device's level.**  On a mock configured with 16-bit
registers, in every run of opening, pressing, servicing, polling and switching of failures: every
dimmer has the value its register reads back, and every pass either commits exactly what it
leaves in the register or changes neither. -/
theorem dimmers_mirror_registers (alloc : A → Bool × A) {st : MockState} (h : st.Configured) (a : A)
    (ops : List MockOp) :
    Throughout (Session.mockStep alloc)
      (fun s ↦ ∀ m ∈ s.displays, m.dim.current = mockCurrent s.world.1 m.src.ctx)
      (Session.unopened st a) ops ∧
    Along (Session.mockStep alloc)
      (fun s op ↦ op = .op .service → List.Forall₂
        (Written s.world.1 (s.mockStep alloc op).world.1) s.displays (s.mockStep alloc op).displays)
      (Session.unopened st a) ops := by
  have hstart : (Session.unopened st a).Mirrors := ⟨h, fun c hc ↦ nomatch hc⟩
  constructor
  · refine throughout_of_invariant hstart (fun s op hs ↦ hs.mockStep op) (fun s hs m hm ↦ ?_) ops
    obtain ⟨_ | c, w, results⟩ := s
    · cases hm
    · exact ((hs.controller c rfl).displays m hm).current_eq
  · refine (along_true _ ops).imp hstart (fun s op hs _ ↦ hs.mockStep op) ?_
    rintro ⟨_ | c, w, results⟩ _ hs - rfl
    · exact .nil
    · have hc := hs.controller c rfl
      exact (written_serviceDisplays alloc hc.nodup hc.displays).2.2

/-- Two displays at 50 and 20 of 100; the write to the first one fails. -/
theorem dimmers_mirror_registers_failed_write :
    let alloc := fun _ : Unit ↦ (true, ())
    let st := mockReset 2 (fun i ↦ if i = 0 then 50 else 20) (fun _ ↦ 100) .zero
    let s := [.reopen, .op (.adjust (1 / 16)), .setFail 0 1, .op .service].foldl
      (Session.mockStep alloc) (Session.unopened st ())
    s.displays.map (·.dim.current) = [50, 26] ∧
      ∀ m ∈ s.displays, m.dim.current = mockCurrent s.world.1 m.src.ctx := by
  intro alloc st
  have hst : st.Configured := by
    refine configured_mockReset (fun i _ ↦ ⟨?_, by decide, by decide⟩) .zero
    split_ifs <;> decide
  exact ⟨by decide +kernel, (dimmers_mirror_registers alloc hst () _).1.last⟩

end Dimmit
