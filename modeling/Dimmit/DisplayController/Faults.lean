import Dimmit.Ddc.Enumeration
import Dimmit.DisplayController.Isolation
import Mathlib.Logic.Function.Basic

/-!
# Faults of DDC displays stay apart

A rig is a backend whose every outcome is scripted: the lists it answers, poll by poll, and for
each position of the list the outcomes of opening, reading and writing the display there, call
by call.  Two runs over rigs with the same lists agree on a position whose script they share,
whatever the scripts of the other positions are.  This rests on ids that name positions of the
list, and on a controller that matches displays by id alone.
-/

namespace Dimmit

open Loop

variable {W R H : Type}

/-! ## The enumeration as a loop -/

/-- What the loop of `ddc_enumerate_sources` does with an external display. -/
def enumeratePass (impl : Implementation W R H) (p : Nat × DisplayInfo R) (w : W) :
    List (BrightnessSource H) × W :=
  match impl.openDisplay p.2.dref w with
  | (none, w) => ([], w)
  | (some h, w) =>
    match impl.getNonTableVcpValue h vcpBrightness w with
    | (none, w) => ([], impl.closeDisplay h w)
    | (some _, w) => ([displaySource p.1 p.2 h], w)

theorem enumerateFrom_eq_thread (impl : Implementation W R H) (infos : List (DisplayInfo R))
    (i : Nat) (w : W) :
    enumerateFrom impl i infos w = thread (enumeratePass impl) (externalsFrom i infos) w := by
  induction infos generalizing i w with
  | nil => rfl
  | cons info infos ih =>
      rw [externalsFrom]
      obtain ⟨hb, he⟩ | ⟨w', hb, ho, he⟩ | ⟨h, w', w'', hb, ho, hr, he⟩ |
        ⟨h, w', v, w'', hb, ho, hr, he⟩ := enumerateFrom_cases impl i info infos w
      · rw [he, hb, ih]
        rfl
      · rw [he, hb, ih]
        simp [thread_cons, enumeratePass, ho]
      · rw [he, hb, ih]
        simp [thread_cons, enumeratePass, ho, hr]
      · rw [he, hb, ih]
        simp [thread_cons, enumeratePass, ho, hr]

theorem mem_enumeratePass {impl : Implementation W R H} {p : Nat × DisplayInfo R} {w : W}
    {s : BrightnessSource H} (h : s ∈ (enumeratePass impl p w).1) :
    ∃ d, (impl.openDisplay p.2.dref w).1 = some d ∧ s = displaySource p.1 p.2 d := by
  unfold enumeratePass at h
  rcases ho : impl.openDisplay p.2.dref w with ⟨_ | d, w₁⟩
  · rw [ho] at h
    cases h
  · rcases hr : impl.getNonTableVcpValue d vcpBrightness w₁ with ⟨_ | v, w₂⟩
    · simp only [ho, hr] at h
      cases h
    · simp only [ho, hr] at h
      exact ⟨d, rfl, List.mem_singleton.mp h⟩

theorem ddcProvider_get_snd (impl : Implementation W R H) (s : BrightnessSource H) (w : W) :
    ((ddcProvider impl).get s w).2 = (impl.getNonTableVcpValue s.ctx vcpBrightness w).2 := by
  change (ddcSrcGet impl s.ctx w).2 = _
  rw [ddcSrcGet]
  rcases impl.getNonTableVcpValue s.ctx vcpBrightness w with ⟨_ | v, w'⟩ <;> rfl

/-! ## Rigs -/

/-- The outcomes of the calls to one display, from now on, each in its order. -/
structure Outcomes where
  opens : Nat → Bool
  reads : Nat → Option NonTableVcpValue
  writes : Nat → Bool

/-- A world in which every outcome is scripted. -/
structure Rig where
  /-- The lists the polls get, from now on. -/
  lists : Nat → Option (DisplayInfoList Unit)
  /-- The script of the display at each position. -/
  scripts : Nat → Outcomes

namespace Rig

/-- After a poll. -/
def polled (w : Rig) : Rig := { w with lists := fun n ↦ w.lists (n + 1) }

/-- The same, with the script of the display at `r` changed. -/
def modify (w : Rig) (r : Nat) (f : Outcomes → Outcomes) : Rig :=
  { w with scripts := Function.update w.scripts r (f (w.scripts r)) }

/-- The rigs have the same lists and the same script at `i`. -/
def AlikeAt (i : Nat) (w w' : Rig) : Prop :=
  w.lists = w'.lists ∧ w.scripts i = w'.scripts i

theorem equivalence_alikeAt (i : Nat) : Equivalence (AlikeAt i) where
  refl _ := ⟨rfl, rfl⟩
  symm h := ⟨h.1.symm, h.2.symm⟩
  trans h h' := ⟨h.1.trans h'.1, h.2.trans h'.2⟩

variable {i r : Nat} {w w' : Rig}

theorem AlikeAt.polled (h : AlikeAt i w w') : AlikeAt i w.polled w'.polled := by
  refine ⟨?_, h.2⟩
  funext n
  exact congrFun h.1 (n + 1)

theorem AlikeAt.modify_mine (h : AlikeAt i w w') (f : Outcomes → Outcomes) :
    AlikeAt i (w.modify i f) (w'.modify i f) := by
  refine ⟨h.1, ?_⟩
  change Function.update _ _ _ _ = Function.update _ _ _ _
  rw [Function.update_self, Function.update_self, h.2]

theorem AlikeAt.modify_other (h : AlikeAt i w w') (hr : r ≠ i) (f : Outcomes → Outcomes) :
    AlikeAt i (w.modify r f) w' := by
  refine ⟨h.1, ?_⟩
  change Function.update _ _ _ _ = _
  rw [Function.update_of_ne hr.symm, h.2]

end Rig

/-- The list with its displays referred to by their positions, the first of which is `i`. -/
def numberFrom : Nat → List (DisplayInfo Unit) → List (DisplayInfo Nat)
  | _, [] => []
  | i, info :: infos =>
    { dref := i
      vendorId := info.vendorId
      productId := info.productId
      isBuiltin := info.isBuiltin } :: numberFrom (i + 1) infos

theorem length_numberFrom (i : Nat) (infos : List (DisplayInfo Unit)) :
    (numberFrom i infos).length = infos.length := by
  induction infos generalizing i with
  | nil => rfl
  | cons info infos ih => exact congrArg (· + 1) (ih (i + 1))

/-- The backend that follows its scripts.  Allocations succeed. -/
def rig : Implementation Rig Nat Nat where
  getDisplayInfoList w :=
    ((w.lists 0).map fun dlist ↦
        ⟨numberFrom 0 dlist.info, (length_numberFrom 0 dlist.info).trans_lt dlist.ct_lt⟩,
      w.polled)
  freeDisplayInfoList _ w := w
  openDisplay r w :=
    (if (w.scripts r).opens 0 then some r else none,
      w.modify r fun s ↦ { s with opens := fun n ↦ s.opens (n + 1) })
  closeDisplay _ w := w
  getNonTableVcpValue h _ w :=
    ((w.scripts h).reads 0, w.modify h fun s ↦ { s with reads := fun n ↦ s.reads (n + 1) })
  setNonTableVcpValue h _ _ _ w :=
    ((w.scripts h).writes 0, w.modify h fun s ↦ { s with writes := fun n ↦ s.writes (n + 1) })
  calloc w := (true, w)

/-! ## A rig isolates each position -/

theorem dref_eq_of_mem {i : Nat} {infos : List (DisplayInfo Unit)} {p : Nat × DisplayInfo Nat}
    (h : p ∈ externalsFrom i (numberFrom i infos)) : p.2.dref = p.1 := by
  induction infos generalizing i with
  | nil => cases h
  | cons info infos ih =>
      rw [numberFrom, externalsFrom] at h
      split_ifs at h
      · exact ih h
      · rcases List.mem_cons.mp h with rfl | h
        · rfl
        · exact ih h

/-- The source is that of the display at position `i`. -/
def IsAt (i : Nat) (s : BrightnessSource Nat) : Bool := s.ctx == i

/-- The id is one of position `i`. -/
def NamesAt (i : Nat) (id : CString) : Prop :=
  i < 2 ^ 31 ∧ ∃ info : DisplayInfo Nat, id = displayId i info

section Rig

open Rig

variable {i r : Nat} {w w' : Rig}

theorem openDisplay_rig_mine (h : AlikeAt i w w') :
    (rig.openDisplay i w).1 = (rig.openDisplay i w').1 ∧
      AlikeAt i (rig.openDisplay i w).2 (rig.openDisplay i w').2 := by
  refine ⟨?_, h.modify_mine _⟩
  change (if (w.scripts i).opens 0 then some i else none) =
    if (w'.scripts i).opens 0 then some i else none
  rw [h.2]

theorem openDisplay_rig_other (h : AlikeAt i w w') (hr : r ≠ i) :
    AlikeAt i (rig.openDisplay r w).2 w' := h.modify_other hr _

/-- A handle is the position it was opened for. -/
theorem eq_of_openDisplay_rig {d : Nat} (h : (rig.openDisplay r w).1 = some d) : d = r := by
  change (if (w.scripts r).opens 0 then some r else none) = some d at h
  split_ifs at h
  exact (Option.some.inj h).symm

theorem getNonTableVcpValue_rig_mine (h : AlikeAt i w w') (f : UInt8) :
    (rig.getNonTableVcpValue i f w).1 = (rig.getNonTableVcpValue i f w').1 ∧
      AlikeAt i (rig.getNonTableVcpValue i f w).2 (rig.getNonTableVcpValue i f w').2 := by
  refine ⟨?_, h.modify_mine _⟩
  change (w.scripts i).reads 0 = (w'.scripts i).reads 0
  rw [h.2]

theorem getNonTableVcpValue_rig_other (h : AlikeAt i w w') (hr : r ≠ i) (f : UInt8) :
    AlikeAt i (rig.getNonTableVcpValue r f w).2 w' := h.modify_other hr _

theorem setNonTableVcpValue_rig_mine (h : AlikeAt i w w') (f hi lo : UInt8) :
    (rig.setNonTableVcpValue i f hi lo w).1 = (rig.setNonTableVcpValue i f hi lo w').1 ∧
      AlikeAt i (rig.setNonTableVcpValue i f hi lo w).2
        (rig.setNonTableVcpValue i f hi lo w').2 := by
  refine ⟨?_, h.modify_mine _⟩
  change (w.scripts i).writes 0 = (w'.scripts i).writes 0
  rw [h.2]

theorem setNonTableVcpValue_rig_other (h : AlikeAt i w w') (hr : r ≠ i) (f hi lo : UInt8) :
    AlikeAt i (rig.setNonTableVcpValue r f hi lo w).2 w' := h.modify_other hr _

theorem matches_enumeratePass (ps : List (Nat × DisplayInfo Nat)) :
    Matches (AlikeAt i) (fun p ↦ p.2.dref == i) (IsAt i) ps (enumeratePass rig)
      (enumeratePass rig) := by
  rintro ⟨k, info⟩ - hp w w' h
  obtain rfl : info.dref = i := beq_iff_eq.mp hp
  unfold enumeratePass
  obtain ⟨hanswer, hopened⟩ := openDisplay_rig_mine h
  rcases ho : rig.openDisplay info.dref w with ⟨answer, w₁⟩
  rcases ho' : rig.openDisplay info.dref w' with ⟨answer', w₁'⟩
  rw [ho, ho'] at hanswer hopened
  obtain rfl : answer = answer' := hanswer
  cases answer with
  | none => exact ⟨rfl, hopened⟩
  | some d =>
      obtain rfl : d = info.dref := eq_of_openDisplay_rig (congrArg Prod.fst ho)
      obtain ⟨hvalue, hread⟩ := getNonTableVcpValue_rig_mine hopened vcpBrightness
      rcases hr : rig.getNonTableVcpValue info.dref vcpBrightness w₁ with ⟨value, w₂⟩
      rcases hr' : rig.getNonTableVcpValue info.dref vcpBrightness w₁' with ⟨value', w₂'⟩
      rw [hr, hr'] at hvalue hread
      obtain rfl : value = value' := hvalue
      simp only [hr, hr']
      cases value with
      | none => exact ⟨rfl, hread⟩
      | some v => exact ⟨rfl, hread⟩

theorem silent_enumeratePass (ps : List (Nat × DisplayInfo Nat)) :
    Silent (AlikeAt i) (fun p ↦ p.2.dref == i) (IsAt i) ps (enumeratePass rig) := by
  rintro ⟨k, info⟩ - hp w w' h
  have hne : info.dref ≠ i := beq_eq_false_iff_ne.mp hp
  unfold enumeratePass
  have hopened := openDisplay_rig_other h hne
  rcases ho : rig.openDisplay info.dref w with ⟨answer, w₁⟩
  rw [ho] at hopened
  cases answer with
  | none => exact ⟨rfl, hopened⟩
  | some d =>
      obtain rfl : d = info.dref := eq_of_openDisplay_rig (congrArg Prod.fst ho)
      have hread := getNonTableVcpValue_rig_other hopened hne vcpBrightness
      rcases hr : rig.getNonTableVcpValue info.dref vcpBrightness w₁ with ⟨value, w₂⟩
      rw [hr] at hread
      simp only [hr]
      cases value with
      | none => exact ⟨rfl, hread⟩
      | some v => exact ⟨List.filter_cons_of_neg (by simpa [IsAt, displaySource] using hne), hread⟩

/-- What an enumeration answers. -/
theorem ddcEnumerateSources_rig (w : Rig) :
    (w.lists 0 = none ∧ ddcEnumerateSources rig w = (some [], w.polled)) ∨
    ∃ dlist, w.lists 0 = some dlist ∧ ddcEnumerateSources rig w =
      (some (thread (enumeratePass rig) (externalsFrom 0 (numberFrom 0 dlist.info)) w.polled).1,
        (thread (enumeratePass rig) (externalsFrom 0 (numberFrom 0 dlist.info)) w.polled).2) := by
  cases hl : w.lists 0 with
  | none =>
      have hlist : rig.getDisplayInfoList w = (none, w.polled) := by
        change ((w.lists 0).map _, w.polled) = _
        rw [hl]
        rfl
      refine .inl ⟨rfl, ?_⟩
      unfold ddcEnumerateSources
      rw [hlist]
  | some dlist =>
      have hlist : rig.getDisplayInfoList w = (some ⟨numberFrom 0 dlist.info,
          (length_numberFrom 0 dlist.info).trans_lt dlist.ct_lt⟩, w.polled) := by
        change ((w.lists 0).map _, w.polled) = _
        rw [hl]
        rfl
      refine .inr ⟨dlist, rfl, ?_⟩
      rw [← enumerateFrom_eq_thread]
      unfold ddcEnumerateSources
      rw [hlist]
      rfl

/-- A source is for its position, and has an id of it. -/
theorem mem_enumerate_rig {sources : List (BrightnessSource Nat)} {x : Rig}
    (h : ddcEnumerateSources rig w = (some sources, x)) {s : BrightnessSource Nat}
    (hs : s ∈ sources) :
    s.ctx < 2 ^ 31 ∧ ∃ info : DisplayInfo Nat, s.id = displayId s.ctx info := by
  obtain ⟨-, he⟩ | ⟨dlist, -, he⟩ := ddcEnumerateSources_rig w
  · cases h.symm.trans he
    cases hs
  · cases h.symm.trans he
    obtain ⟨p, hp, x, hpass⟩ := exists_of_mem_thread hs
    obtain ⟨d, ho, rfl⟩ := mem_enumeratePass hpass
    obtain rfl : d = p.1 := (eq_of_openDisplay_rig ho).trans (dref_eq_of_mem hp)
    have hlt := (mem_externalsFrom hp).2
    rw [length_numberFrom, Nat.zero_add] at hlt
    exact ⟨hlt.trans dlist.ct_lt, p.2, rfl⟩

/-- **A rig isolates each position.** -/
theorem isolates_rig (i : Nat) :
    (ddcProvider rig).Isolates (IsAt i) (NamesAt i) (AlikeAt i) where
  equiv := equivalence_alikeAt i
  calloc h := ⟨rfl, h⟩
  enumerate {w w'} h := by
    obtain ⟨hl, he⟩ | ⟨dlist, hl, he⟩ := ddcEnumerateSources_rig w
    · obtain ⟨-, he'⟩ | ⟨dlist', hl', -⟩ := ddcEnumerateSources_rig w'
      · exact ⟨[], w.polled, [], w'.polled, he, he', rfl, h.polled⟩
      · rw [← h.1, hl] at hl'
        cases hl'
    · obtain ⟨hl', -⟩ | ⟨dlist', hl', he'⟩ := ddcEnumerateSources_rig w'
      · rw [← h.1, hl] at hl'
        cases hl'
      · rw [← h.1, hl] at hl'
        cases hl'
        obtain ⟨hmine, hx⟩ := thread_unwind (equivalence_alikeAt i) (matches_enumeratePass _)
          (matches_enumeratePass _) (silent_enumeratePass _) (silent_enumeratePass _) rfl h.polled
        exact ⟨_, _, _, _, he, he', hmine, hx⟩
  tagged {w sources x} hen s hs := by
    obtain ⟨hlt, info, hid⟩ := mem_enumerate_rig hen hs
    constructor
    · intro hmine
      obtain rfl : s.ctx = i := beq_iff_eq.mp hmine
      exact ⟨hlt, info, hid⟩
    · rintro ⟨hi, info', hid'⟩
      exact beq_iff_eq.mpr ((displayId_eq_iff hlt hi info info').mp (hid.symm.trans hid')).2.2
  get_mine {s w w'} hs h := by
    obtain rfl : s.ctx = i := beq_iff_eq.mp hs
    obtain ⟨hvalue, hx⟩ := getNonTableVcpValue_rig_mine h vcpBrightness
    rw [ddcProvider_get_fst, ddcProvider_get_fst, ddcProvider_get_snd, ddcProvider_get_snd, hvalue]
    exact ⟨rfl, hx⟩
  get_other {s w w'} hs h := by
    rw [ddcProvider_get_snd]
    exact getNonTableVcpValue_rig_other h (beq_eq_false_iff_ne.mp hs) vcpBrightness
  set_mine {s v w w'} hs h := by
    obtain rfl : s.ctx = i := beq_iff_eq.mp hs
    exact setNonTableVcpValue_rig_mine h vcpBrightness (hiByte v) (loByte v)
  set_other {s v w w'} hs h :=
    setNonTableVcpValue_rig_other h (beq_eq_false_iff_ne.mp hs) vcpBrightness (hiByte v) (loByte v)
  close_mine _ h := h
  close_other _ h := h

end Rig

/-! ## Two runs -/

namespace Session

/-- The id and the dimmer of the display at position `i`, if it is managed. -/
def managedAt (s : Session (Rig × List (OpsEvent Nat)) Nat) (i : Nat) : List (CString × Dimmer) :=
  (slice (IsAt i) s.displays).map fun m ↦ (m.src.id, m.dim)

/-- The values written to the display at position `i` so far, in order. -/
def writtenAt (s : Session (Rig × List (OpsEvent Nat)) Nat) (i : Nat) : List Int :=
  (callsOf (IsAt i) s.world.2).filterMap fun
    | .set _ v _ => some v
    | .get _ _ | .close _ => none

end Session

/-- **One display's faults never reach another.**  Take two rigs with the same lists and the
same script at position `i`; the scripts of the other positions are arbitrary.  After the same
operations, whatever they are, the display at `i` is managed in both runs or in neither, with
the same id and the same dimmer, and the values written to it are the same. -/
theorem faults_stay_apart {i : Nat} {v w : Rig} (hlists : v.lists = w.lists)
    (hscript : v.scripts i = w.scripts i) (ops : List Op) :
    let P := (ddcProvider rig).logged
    ((Session.start P (v, [])).run P ops).managedAt i =
      ((Session.start P (w, [])).run P ops).managedAt i ∧
    ((Session.start P (v, [])).run P ops).writtenAt i =
      ((Session.start P (w, [])).run P ops).writtenAt i := by
  obtain ⟨-, hslice, -, hcalls⟩ := (isolates_rig i).logged.run
    (v := (v, [])) (w := (w, [])) ⟨⟨hlists, hscript⟩, rfl⟩ ops
  refine ⟨?_, ?_⟩
  · unfold Session.managedAt
    rw [hslice]
  · unfold Session.writtenAt
    rw [hcalls]

/-- Every call succeeds, and every reading is 50 of 100. -/
def healthy : Outcomes := ⟨fun _ ↦ true, fun _ ↦ some ⟨0, 100, 0, 50⟩, fun _ ↦ true⟩

/-- No call succeeds. -/
def dead : Outcomes := ⟨fun _ ↦ false, fun _ ↦ none, fun _ ↦ false⟩

/-- Two like displays, the first of which has the outcomes. -/
def pairRig (outcomes : Outcomes) : Rig where
  lists _ := some ⟨[⟨(), 0x10ac, 0xa0c4, false⟩, ⟨(), 0x10ac, 0xa0c4, false⟩], by decide⟩
  scripts r := if r = 0 then outcomes else healthy

/-- The second display is written 56 whether or not the first one can be opened. -/
theorem faults_stay_apart_pair :
    let P := (ddcProvider rig).logged
    let ops : List Op := [.adjust (1 / 16), .reconcile, .service]
    ((Session.start P (pairRig dead, [])).run P ops).managedAt 1 =
      ((Session.start P (pairRig healthy, [])).run P ops).managedAt 1 ∧
    ((Session.start P (pairRig dead, [])).run P ops).writtenAt 1 = [56] := by
  obtain ⟨hmanaged, hwritten⟩ := faults_stay_apart (i := 1) (v := pairRig dead)
    (w := pairRig healthy) rfl rfl [.adjust (1 / 16), .reconcile, .service]
  exact ⟨hmanaged, hwritten.trans (by decide +kernel)⟩

end Dimmit
