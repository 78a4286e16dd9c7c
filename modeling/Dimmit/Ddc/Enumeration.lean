import Dimmit.Ddc.Abstraction
import Dimmit.Ddc.Bench
import Dimmit.Dimmer.Checked
import Dimmit.DisplayController.Run
import Dimmit.Lib.Related

/-!
# What an enumeration returns

The sources of one enumeration are external displays of the backend's list, in its order, and
each carries the id of its position.  Positions differ, so the ids of one enumeration do, on
every backend; this is what makes the first match of `controller_reconcile` the only one.

On a backend that answers, which is what `Attentive` says, the sources are *all* the external
displays, each with a handle for the display it was listed as.
-/

namespace Dimmit

variable {W R H : Type}

/-- The external displays of a list with their positions, the first of which is `i`. -/
def externalsFrom : Nat → List (DisplayInfo R) → List (Nat × DisplayInfo R)
  | _, [] => []
  | i, info :: infos =>
    if info.isBuiltin then externalsFrom (i + 1) infos
    else (i, info) :: externalsFrom (i + 1) infos

/-- The external displays a poll is told of; none when there is no list. -/
def listed (impl : Implementation W R H) (w : W) : List (Nat × DisplayInfo R) :=
  ((impl.getDisplayInfoList w).1.map fun dlist ↦ externalsFrom 0 dlist.info).getD []

/-- An external display stands at its position in the list. -/
theorem getElem?_of_mem_externalsFrom {i : Nat} {infos : List (DisplayInfo R)}
    {p : Nat × DisplayInfo R} (h : p ∈ externalsFrom i infos) :
    ∃ k, p.1 = i + k ∧ infos[k]? = some p.2 := by
  induction infos generalizing i with
  | nil => cases h
  | cons info infos ih =>
      have hrest (h : p ∈ externalsFrom (i + 1) infos) :
          ∃ k, p.1 = i + k ∧ (info :: infos)[k]? = some p.2 := by
        obtain ⟨k, hk, hp⟩ := ih h
        exact ⟨k + 1, by omega, hp⟩
      rw [externalsFrom] at h
      split_ifs at h
      · exact hrest h
      · rcases List.mem_cons.mp h with rfl | h
        · exact ⟨0, rfl, rfl⟩
        · exact hrest h

theorem mem_externalsFrom {i : Nat} {infos : List (DisplayInfo R)} {p : Nat × DisplayInfo R}
    (h : p ∈ externalsFrom i infos) : i ≤ p.1 ∧ p.1 < i + infos.length := by
  obtain ⟨k, hk, hp⟩ := getElem?_of_mem_externalsFrom h
  obtain ⟨hlt, -⟩ := List.getElem?_eq_some_iff.mp hp
  omega

/-! ## The ids of one enumeration are distinct -/

theorem nodup_ids_externalsFrom {i : Nat} {infos : List (DisplayInfo R)}
    (h : i + infos.length ≤ 2 ^ 31) :
    ((externalsFrom i infos).map fun p ↦ displayId p.1 p.2).Nodup := by
  induction infos generalizing i with
  | nil => exact List.nodup_nil
  | cons info infos ih =>
      rw [List.length_cons] at h
      have hrest := ih (i := i + 1) (by omega)
      rw [externalsFrom]
      split_ifs
      · exact hrest
      · refine List.nodup_cons.mpr ⟨fun hm ↦ ?_, hrest⟩
        obtain ⟨p, hp, hid⟩ := List.mem_map.mp hm
        have hb := mem_externalsFrom hp
        have hpos := ((displayId_eq_iff (by omega) (by omega) p.2 info).mp hid).2.2
        omega

theorem nodup_ids_listed (impl : Implementation W R H) (w : W) :
    ((listed impl w).map fun p ↦ displayId p.1 p.2).Nodup := by
  unfold listed
  cases (impl.getDisplayInfoList w).1 with
  | none => exact List.nodup_nil
  | some dlist =>
      have hct := dlist.ct_lt
      exact nodup_ids_externalsFrom (by omega)

/-- The loop keeps external displays only, in order, each under the id of its position. -/
theorem ids_enumerateFrom_sublist (impl : Implementation W R H) (infos : List (DisplayInfo R))
    (i : Nat) (w : W) : ((enumerateFrom impl i infos w).1.map (·.id)).Sublist
      ((externalsFrom i infos).map fun p ↦ displayId p.1 p.2) := by
  induction infos generalizing i w with
  | nil => exact .slnil
  | cons info infos ih =>
      rw [externalsFrom]
      obtain ⟨hb, he⟩ | ⟨w', hb, -, he⟩ | ⟨h, w', w'', hb, -, -, he⟩ |
        ⟨h, w', v, w'', hb, -, -, he⟩ := enumerateFrom_cases impl i info infos w
      · rw [he, hb]
        exact ih ..
      · rw [he, hb]
        exact (ih ..).cons _
      · rw [he, hb]
        exact (ih ..).cons _
      · rw [he, hb]
        exact (ih ..).cons_cons _

theorem nodup_ids_ddcEnumerateSources {impl : Implementation W R H} {w w' : W}
    {sources : List (BrightnessSource H)} (h : ddcEnumerateSources impl w = (some sources, w')) :
    (sources.map (·.id)).Nodup := by
  obtain ⟨_, -, he⟩ | ⟨_, _, _, -, -, he⟩ | ⟨dlist, _, w₂, -, -, he⟩ :=
    ddcEnumerateSources_cases impl w <;> rw [h] at he <;> cases he
  · exact List.nodup_nil
  · have hct := dlist.ct_lt
    exact (ids_enumerateFrom_sublist impl dlist.info 0 w₂).nodup
      (nodup_ids_externalsFrom (by omega))

/-- The ids of the managed displays are distinct in every state. -/
theorem Session.Reachable.nodup_ids {impl : Implementation W R H} {s : Session W H}
    (h : s.Reachable (ddcProvider impl)) : ∀ c ∈ s.controller, (c.sources.map (·.id)).Nodup :=
  h.forall_sources fun _ _ _ hen ↦ nodup_ids_ddcEnumerateSources hen

/-- **Display ids.**  An id fits its field with its terminator and names a vendor, a product and a
position, so that no two sources of an enumeration share one and the first match of a reconcile
is the only one. -/
theorem ids_are_whole_and_distinct (impl : Implementation W R H) :
    (∀ i < 2 ^ 31, ∀ info : DisplayInfo R,
      (displayIdText i info).length + 1 ≤ 64 ∧ displayId i info = displayIdText i info) ∧
    (∀ i < 2 ^ 31, ∀ j < 2 ^ 31, ∀ a b : DisplayInfo R, displayIdText i a = displayIdText j b ↔
      a.vendorId = b.vendorId ∧ a.productId = b.productId ∧ i = j) ∧
    (∀ w sources w', ddcEnumerateSources impl w = (some sources, w') →
      (sources.map (·.id)).Nodup) ∧
    ∀ s : Session W H, s.Reachable (ddcProvider impl) → ∀ c ∈ s.controller,
      ∀ m ∈ c.displays, c.matched m.src.id = some m.dim := by
  refine ⟨fun i hi info ↦ ?_, fun i hi j hj a b ↦ ?_, fun w sources w' h ↦ ?_,
    fun s hs c hc m hm ↦ ?_⟩
  · exact ⟨Nat.succ_le_succ (length_displayIdText_le hi info), displayId_eq_text hi info⟩
  · rw [← displayId_eq_text hi, ← displayId_eq_text hj]
    exact displayId_eq_iff hi hj a b
  · exact nodup_ids_ddcEnumerateSources h
  · exact (hs.parallel c hc).matched_of_mem (hs.nodup_ids c hc) hm

/-- Two panels of one make, as far as their ids say. -/
def twinList : DisplayInfoList Nat where
  info := [⟨0, 0x10ac, 0x123456, false⟩, ⟨1, 0x10ac, 0x123456, false⟩]
  ct_lt := by decide

theorem ids_are_whole_and_distinct_twins :
    (displayIdText 1 (⟨1, 0x10ac, 0x123456, false⟩ : DisplayInfo Nat)).length + 1 ≤ 64 ∧
    displayIdText 0 (⟨0, 0x10ac, 0x123456, false⟩ : DisplayInfo Nat) ≠
      displayIdText 1 ⟨1, 0x10ac, 0x123456, false⟩ ∧
    (((ddcEnumerateSources (bench fun _ ↦ some twinList) (.ready [])).1.getD []).map
      (·.id)).Nodup ∧
    ∀ c ∈ (Session.start (ddcProvider (bench fun _ ↦ some twinList)) (.ready [])).controller,
      ∀ m ∈ c.displays, c.matched m.src.id = some m.dim := by
  obtain ⟨hfit, hinj, hids, hmatch⟩ := ids_are_whole_and_distinct (bench fun _ ↦ some twinList)
  refine ⟨(hfit 1 (by decide) _).1, fun h ↦ ?_, hids (Bench.ready []) _ _ rfl,
    hmatch _ (Session.reachable_start _ (Bench.ready []))⟩
  exact absurd ((hinj 0 (by decide) 1 (by decide) _ _).mp h).2.2 (by decide)

/-- Where each handle drives the display it was opened for, the sources drive different
external displays, in the order of the list. -/
theorem drives_enumerateFrom_sublist {D : Type} {impl : Implementation W R H}
    {drives : H → D}
    {seat : DisplayInfo R → D} {infos : List (DisplayInfo R)}
    (hopen : ∀ info ∈ infos, info.isBuiltin = false → ∀ w, ∀ h ∈ (impl.openDisplay info.dref w).1,
      drives h = seat info) (i : Nat) (w : W) :
    ((enumerateFrom impl i infos w).1.map fun src ↦ drives src.ctx).Sublist
      ((infos.filter fun info ↦ !info.isBuiltin).map seat) := by
  induction infos generalizing i w with
  | nil => exact .slnil
  | cons info infos ih =>
      have ih := ih fun info hinfo ↦ hopen info (List.mem_cons_of_mem _ hinfo)
      obtain ⟨hb, he⟩ | ⟨w', hb, -, he⟩ | ⟨h, w', w'', hb, -, -, he⟩ |
        ⟨h, w', v, w'', hb, ho, -, he⟩ := enumerateFrom_cases impl i info infos w
      · rw [he, List.filter_cons_of_neg (by simp [hb])]
        exact ih ..
      · rw [he, List.filter_cons_of_pos (by simp [hb])]
        exact (ih ..).cons _
      · rw [he, List.filter_cons_of_pos (by simp [hb])]
        exact (ih ..).cons _
      · have hd : drives h = seat info :=
          hopen info List.mem_cons_self hb w h (by rw [ho]; rfl)
        rw [he, List.filter_cons_of_pos (by simp [hb]), List.map_cons, List.map_cons]
        change (drives h :: _).Sublist _
        rw [hd]
        exact (ih ..).cons_cons _

/-! ## Facts only a write can change -/

namespace Implementation.Keeps

variable {impl : Implementation W R H} {I : W → Prop}

theorem and {J : W → Prop} (hI : impl.Keeps I) (hJ : impl.Keeps J) :
    impl.Keeps fun w ↦ I w ∧ J w where
  getDisplayInfoList h := ⟨hI.getDisplayInfoList h.1, hJ.getDisplayInfoList h.2⟩
  freeDisplayInfoList list h := ⟨hI.freeDisplayInfoList list h.1, hJ.freeDisplayInfoList list h.2⟩
  openDisplay r h := ⟨hI.openDisplay r h.1, hJ.openDisplay r h.2⟩
  closeDisplay d h := ⟨hI.closeDisplay d h.1, hJ.closeDisplay d h.2⟩
  getNonTableVcpValue d f h := ⟨hI.getNonTableVcpValue d f h.1, hJ.getNonTableVcpValue d f h.2⟩
  calloc h := ⟨hI.calloc h.1, hJ.calloc h.2⟩

theorem enumerateFrom (hI : impl.Keeps I) (infos : List (DisplayInfo R)) (i : Nat) {w : W}
    (h : I w) : I (Dimmit.enumerateFrom impl i infos w).2 := by
  induction infos generalizing i w with
  | nil => exact h
  | cons info infos ih =>
      have hopen := hI.openDisplay info.dref h
      obtain ⟨-, he⟩ | ⟨w', -, ho, he⟩ | ⟨d, w', w'', -, ho, hr, he⟩ |
        ⟨d, w', v, w'', -, ho, hr, he⟩ := enumerateFrom_cases impl i info infos w
      · rw [he]
        exact ih _ h
      · rw [ho] at hopen
        rw [he]
        exact ih _ hopen
      · rw [ho] at hopen
        have hread := hI.getNonTableVcpValue d vcpBrightness hopen
        rw [hr] at hread
        rw [he]
        exact ih _ (hI.closeDisplay d hread)
      · rw [ho] at hopen
        have hread := hI.getNonTableVcpValue d vcpBrightness hopen
        rw [hr] at hread
        rw [he]
        exact ih _ hread

/-- What the calls of the backend keep, those of the provider keep. -/
theorem ddcProvider (hI : impl.Keeps I) : (Dimmit.ddcProvider impl).Keeps I where
  enumerate {w} h := by
    change I (ddcEnumerateSources impl w).2
    have hlist := hI.getDisplayInfoList h
    obtain ⟨w', hl, he⟩ | ⟨dlist, w', w'', hl, hc, he⟩ | ⟨dlist, w', w'', hl, hc, he⟩ :=
      ddcEnumerateSources_cases impl w
    · rw [hl] at hlist
      rwa [he]
    · rw [hl] at hlist
      have hcalloc := hI.calloc hlist
      rw [hc] at hcalloc
      rw [he]
      exact hI.freeDisplayInfoList dlist hcalloc
    · rw [hl] at hlist
      have hcalloc := hI.calloc hlist
      rw [hc] at hcalloc
      rw [he]
      exact hI.freeDisplayInfoList dlist (hI.enumerateFrom dlist.info 0 hcalloc)
  get {w} s h := by
    have hread := hI.getNonTableVcpValue s.ctx vcpBrightness h
    change I (ddcSrcGet impl s.ctx w).2
    rw [ddcSrcGet]
    split <;> simp_all
  close s h := hI.closeDisplay s.ctx h
  calloc h := hI.calloc h

end Implementation.Keeps

/-! ## A backend that answers -/

/-- While `Up` holds, which only a write can end, every display opens, with a handle for that
display, and every read succeeds. -/
structure Answers (impl : Implementation W R H) (device : H → R) (Up : W → Prop) : Prop where
  openDisplay : ∀ {w} r, Up w → ∃ h w', impl.openDisplay r w = (some h, w') ∧ device h = r
  read : ∀ {w} h, Up w → ∃ v, (impl.getNonTableVcpValue h vcpBrightness w).1 = some v
  keeps : impl.Keeps Up

/-- A backend that answers what is in the display's register. -/
structure Attentive (impl : Implementation W R H) (device : H → R)
    (register : W → R → NonTableVcpValue) (Up : W → Prop) : Prop extends
    Answers impl device Up where
  read_eq : ∀ {w} h, Up w →
    (impl.getNonTableVcpValue h vcpBrightness w).1 = some (register w (device h))
  register_eq : ∀ ρ, impl.Keeps fun w ↦ register w = ρ

/-- The dimmer of a display that was just read. -/
def readDimmer (v : NonTableVcpValue) : Dimmer := dimmerInit (word v.sh v.sl) (word v.mh v.ml)

theorem bounded_readDimmer (v : NonTableVcpValue) : (readDimmer v).Bounded :=
  .init (word_nonneg _ _) (Int.le_of_lt_add_one (word_lt _ _)) (word_nonneg _ _)
    (Int.le_of_lt_add_one (word_lt _ _))

/-- The source `s` was opened for the display at the position `p`. -/
structure OpenedFor (device : H → R) (s : BrightnessSource H) (p : Nat × DisplayInfo R) :
    Prop where
  id_eq : s.id = displayId p.1 p.2
  device_eq : device s.ctx = p.2.dref

theorem forall₂_openedFor_map_id {device : H → R} {sources : List (BrightnessSource H)}
    {seats : List (Nat × DisplayInfo R)} (h : List.Forall₂ (OpenedFor device) sources seats) :
    sources.map (·.id) = seats.map fun p ↦ displayId p.1 p.2 := by
  induction h with
  | nil => rfl
  | cons hs _ ih => rw [List.map_cons, List.map_cons, hs.id_eq, ih]

namespace Answers

variable {impl : Implementation W R H} {device : H → R} {Up : W → Prop}

/-- The loop opens every external display. -/
theorem forall₂_enumerateFrom (h : Answers impl device Up) (infos : List (DisplayInfo R)) (i : Nat)
    {w : W} (hw : Up w) :
    List.Forall₂ (OpenedFor device) (enumerateFrom impl i infos w).1 (externalsFrom i infos) := by
  induction infos generalizing i w with
  | nil => exact .nil
  | cons info infos ih =>
      rw [externalsFrom]
      obtain ⟨d, w₁, ho₁, hd⟩ := h.openDisplay info.dref hw
      have hw₁ : Up w₁ := by simpa [ho₁] using h.keeps.openDisplay info.dref hw
      obtain ⟨hb, he⟩ | ⟨w', hb, ho, he⟩ | ⟨d', w', w'', hb, ho, hr, he⟩ |
        ⟨d', w', v, w'', hb, ho, hr, he⟩ := enumerateFrom_cases impl i info infos w
      · rw [he, hb]
        exact ih _ hw
      · rw [ho₁] at ho
        cases ho
      · rw [ho₁] at ho
        cases ho
        obtain ⟨v, hv⟩ := h.read d hw₁
        rw [hr] at hv
        cases hv
      · rw [ho₁] at ho
        cases ho
        have hw₂ := h.keeps.getNonTableVcpValue d vcpBrightness hw₁
        rw [hr] at hw₂
        rw [he, hb]
        exact .cons ⟨rfl, hd⟩ (ih _ hw₂)

/-- An enumeration returns every external display, or fails for want of memory. -/
theorem forall₂_ddcEnumerateSources (h : Answers impl device Up) {w w' : W} (hw : Up w)
    {sources : List (BrightnessSource H)}
    (he : ddcEnumerateSources impl w = (some sources, w')) :
    List.Forall₂ (OpenedFor device) sources (listed impl w) := by
  have hlist := h.keeps.getDisplayInfoList hw
  rw [listed]
  obtain ⟨w₁, hl, he'⟩ | ⟨dlist, w₁, w₂, hl, hc, he'⟩ | ⟨dlist, w₁, w₂, hl, hc, he'⟩ :=
    ddcEnumerateSources_cases impl w <;> rw [he] at he' <;> cases he'
  · rw [hl]
    exact .nil
  · rw [hl] at hlist ⊢
    have hcalloc := h.keeps.calloc hlist
    rw [hc] at hcalloc
    exact h.forall₂_enumerateFrom dlist.info 0 hcalloc

/-- What a reconcile does: it keeps the controller, for want of memory, or it takes over every
listed display. -/
theorem reconcile_cases (h : Answers impl device Up) (c : Controller H) {w : W} (hw : Up w) :
    ((c.reconcile (ddcProvider impl) w).1 = c ∧ ∃ w, (impl.calloc w).1 = false) ∨
    ∃ fresh w', List.Forall₂ (OpenedFor device) fresh (listed impl w) ∧
      (∀ I, (ddcProvider impl).Keeps I → I w → I w') ∧
      (c.reconcile (ddcProvider impl) w).1 =
        ⟨fresh, (Controller.nextDisplays (ddcProvider impl) c fresh w').1⟩ := by
  obtain ⟨w', hen, he⟩ | ⟨fresh, w', w'', hen, -, hcl, he⟩ | ⟨fresh, w', w'', hen, hcl, he⟩ :=
    Controller.reconcile_cases (ddcProvider impl) c w
  · refine .inl ⟨congrArg Prod.fst he, ?_⟩
    obtain ⟨_, -, hen'⟩ | ⟨_, w₁, _, -, hcl, -⟩ | ⟨_, _, _, -, -, hen'⟩ :=
      ddcEnumerateSources_cases impl w
    · exact absurd (hen.symm.trans hen') (by simp)
    · exact ⟨w₁, congrArg Prod.fst hcl⟩
    · exact absurd (hen.symm.trans hen') (by simp)
  · exact .inl ⟨congrArg Prod.fst he, w', congrArg Prod.fst hcl⟩
  · refine .inr ⟨fresh, w'', h.forall₂_ddcEnumerateSources hw hen, ?_, congrArg Prod.fst he⟩
    intro I hI hi
    exact hI.of_array hcl (hI.of_enumerate hen hi)

end Answers

namespace Attentive

variable {impl : Implementation W R H} {device : H → R} {register : W → R → NonTableVcpValue}
  {Up : W → Prop}

/-- The first dimmer of a display is that of its register. -/
theorem initialDimmer_eq (h : Attentive impl device register Up) (s : BrightnessSource H) {w : W}
    (hw : Up w) :
    (initialDimmer (ddcProvider impl) s w).1 = readDimmer (register w (device s.ctx)) := by
  rw [initialDimmer_fst, ddcProvider_get_fst, h.read_eq s.ctx hw]
  rfl

theorem keeps_up (h : Attentive impl device register Up) (w : W) :
    (ddcProvider impl).Keeps fun w' ↦ Up w' ∧ register w' = register w :=
  (h.keeps.and (h.register_eq (register w))).ddcProvider

/-- On a backend that answers its registers, the displays a reconcile does not know start from
theirs. -/
theorem reconcile_cases (h : Attentive impl device register Up) (c : Controller H) {w : W}
    (hw : Up w) :
    ((c.reconcile (ddcProvider impl) w).1 = c ∧ ∃ w, (impl.calloc w).1 = false) ∨
    ∃ fresh, List.Forall₂ (OpenedFor device) fresh (listed impl w) ∧
      (c.reconcile (ddcProvider impl) w).1 = ⟨fresh, fresh.map fun src ↦
        ⟨src, (c.matched src.id).getD (readDimmer (register w (device src.ctx)))⟩⟩ := by
  obtain hkept | ⟨fresh, w', hseats, hkeep, he⟩ := h.toAnswers.reconcile_cases c hw
  · exact .inl hkept
  · refine .inr ⟨fresh, hseats, he.trans (congrArg (Controller.mk fresh) ?_)⟩
    have hkeeps := h.keeps_up w
    refine hkeeps.nextDisplays_eq (fun src w₁ hw₁ ↦ ?_) c fresh (hkeep _ hkeeps ⟨hw, rfl⟩)
    rw [h.initialDimmer_eq src hw₁.1, hw₁.2]

end Attentive

end Dimmit
