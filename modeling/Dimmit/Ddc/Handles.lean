import Dimmit.Ddc.Abstraction
import Dimmit.DisplayController.Run
import Dimmit.Lib.Ledger
import Mathlib.Algebra.Order.Group.Multiset

/-!
# The handles of the controller

The log of a backend is read as a ledger: a successful open acquires a handle, a close releases
one, and every read and write uses one.  `Transfers` is the triple of this ledger, and there is
one lemma for each function: what it needs to hold and what it leaves held.

The handles the controller owns are the `ctx` values of its sources.  An adopted reconcile
closes the sources whose id is gone and replaces the others without closing them, so those stay
open beside their successors; `Session.Owns` keeps account of them as `orphans`.
-/

namespace Dimmit

open Ledger Run

variable {W R H : Type}

/-- What a call does to a handle, if it is about one. -/
def DdcEvent.action : DdcEvent R H → Option (Action H)
  | .opened _ (some h) => some (.acquire h)
  | .closed h => some (.release h)
  | .read h _ _ | .wrote h _ _ _ _ => some (.use h)
  | .opened _ none | .listed _ | .freed _ => none

/-- The log as a sequence of actions on handles. -/
def handleActions (log : List (DdcEvent R H)) : List (Action H) := log.filterMap DdcEvent.action

@[simp] theorem handleActions_append (log log' : List (DdcEvent R H)) :
    handleActions (log ++ log') = handleActions log ++ handleActions log' :=
  List.filterMap_append

/-- The handles returned by an open and not yet passed to a close. -/
def openHandles [DecidableEq H] (log : List (DdcEvent R H)) : Multiset H :=
  heldAfter 0 (handleActions log)

/-- The `ctx` values of an array of sources. -/
def handlesOf (sources : List (BrightnessSource H)) : Multiset H := ↑(sources.map (·.ctx))

@[simp] theorem handlesOf_nil : handlesOf ([] : List (BrightnessSource H)) = 0 := rfl

@[simp] theorem handlesOf_cons (s : BrightnessSource H) (sources : List (BrightnessSource H)) :
    handlesOf (s :: sources) = s.ctx ::ₘ handlesOf sources := rfl

theorem ctx_mem_handlesOf {s : BrightnessSource H} {sources : List (BrightnessSource H)}
    (h : s ∈ sources) : s.ctx ∈ handlesOf sources :=
  Multiset.mem_coe.mpr (List.mem_map_of_mem h)

/-- A world of the logged backend. -/
abbrev Logged (W R H : Type) := W × List (DdcEvent R H)

variable [DecidableEq H]

/-- Only disciplined calls lead from the world `s` to `s'`, and they take the open handles from
`held` to `held'`. -/
def Transfers (s s' : Logged W R H) (held held' : Multiset H) : Prop :=
  ∃ events, s'.2 = s.2 ++ events ∧ Moves held (handleActions events) held'

namespace Transfers

variable {s s' s'' : Logged W R H} {held held' held'' : Multiset H}

theorem of_log_eq (h : s'.2 = s.2) (held : Multiset H) : Transfers s s' held held :=
  ⟨[], h.trans (List.append_nil _).symm, .nil held⟩

theorem refl (s : Logged W R H) (held : Multiset H) : Transfers s s held held := of_log_eq rfl held

theorem trans (h : Transfers s s' held held') (h' : Transfers s' s'' held' held'') :
    Transfers s s'' held held'' := by
  obtain ⟨events, hlog, hm⟩ := h
  obtain ⟨events', hlog', hm'⟩ := h'
  refine ⟨events ++ events', ?_, ?_⟩
  · rw [hlog', hlog, List.append_assoc]
  · rw [handleActions_append]
    exact hm.append hm'

variable {impl : Implementation W R H}

theorem listing {answer : Option (DisplayInfoList R)}
    (h : impl.logged.getDisplayInfoList s = (answer, s')) (held : Multiset H) :
    Transfers s s' held held := by
  cases h
  exact ⟨[_], rfl, .nil held⟩

theorem calloc {ok : Bool} (h : impl.logged.calloc s = (ok, s')) (held : Multiset H) :
    Transfers s s' held held := by
  cases h
  exact ⟨[], (List.append_nil _).symm, .nil held⟩

theorem free (impl : Implementation W R H) (list : DisplayInfoList R) (s : Logged W R H)
    (held : Multiset H) : Transfers s (impl.logged.freeDisplayInfoList list s) held held :=
  ⟨[_], rfl, .nil held⟩

/-- A successful open acquires its handle. -/
theorem acquire {r : R} {h : H} (ho : impl.logged.openDisplay r s = (some h, s'))
    (held : Multiset H) : Transfers s s' held (h ::ₘ held) := by
  obtain ⟨ha, rfl⟩ := Prod.mk.inj ho
  exact ⟨[.opened r (some h)], by rw [← ha], .acquire held h⟩

/-- A failed one acquires none. -/
theorem fail {r : R} (ho : impl.logged.openDisplay r s = (none, s')) (held : Multiset H) :
    Transfers s s' held held := by
  obtain ⟨ha, rfl⟩ := Prod.mk.inj ho
  exact ⟨[.opened r none], by rw [← ha], .nil held⟩

theorem read {h : H} {feature : UInt8} {answer : Option NonTableVcpValue}
    (hr : impl.logged.getNonTableVcpValue h feature s = (answer, s')) (hh : h ∈ held) :
    Transfers s s' held held := by
  cases hr
  exact ⟨[_], rfl, .use hh⟩

theorem write {h : H} {feature hi lo : UInt8} {ok : Bool}
    (hw : impl.logged.setNonTableVcpValue h feature hi lo s = (ok, s')) (hh : h ∈ held) :
    Transfers s s' held held := by
  cases hw
  exact ⟨[_], rfl, .use hh⟩

theorem close (impl : Implementation W R H) (h : H) (s : Logged W R H) (held : Multiset H) :
    Transfers s (impl.logged.closeDisplay h s) (h ::ₘ held) held :=
  ⟨[_], rfl, .release held h⟩

end Transfers

/-! ## The provider -/

/-- The loop leaves the handles of the sources it keeps open, and no others. -/
theorem transfers_enumerateFrom (impl : Implementation W R H) (infos : List (DisplayInfo R))
    (i : Nat) (s : Logged W R H) (held : Multiset H) :
    Transfers s (enumerateFrom impl.logged i infos s).2 held
      (handlesOf (enumerateFrom impl.logged i infos s).1 + held) := by
  induction infos generalizing i s held with
  | nil => rw [enumerateFrom, handlesOf_nil, Multiset.zero_add]; exact .refl s held
  | cons info infos ih =>
      obtain ⟨-, he⟩ | ⟨s', -, ho, he⟩ | ⟨h, s', s'', -, ho, hr, he⟩ |
        ⟨h, s', v, s'', -, ho, hr, he⟩ := enumerateFrom_cases impl.logged i info infos s
      · rw [he]
        exact ih ..
      · rw [he]
        exact (Transfers.fail ho held).trans (ih ..)
      · rw [he]
        have hprobe := Transfers.read hr (Multiset.mem_cons_self h held)
        exact (Transfers.acquire ho held).trans <| hprobe.trans <|
          (Transfers.close impl h s'' held).trans (ih ..)
      · have hprobe := Transfers.read hr (Multiset.mem_cons_self h held)
        have hrest := (Transfers.acquire ho held).trans (hprobe.trans (ih (i + 1) s'' _))
        rw [he, handlesOf_cons, Multiset.cons_add, ← Multiset.add_cons]
        exact hrest

/-- `ddc_enumerate_sources` leaves the handles of the sources it returns open. -/
theorem transfers_ddcEnumerateSources {impl : Implementation W R H} {s s' : Logged W R H}
    {answer : Option (List (BrightnessSource H))}
    (h : ddcEnumerateSources impl.logged s = (answer, s')) (held : Multiset H) :
    Transfers s s' held (handlesOf (answer.getD []) + held) := by
  obtain ⟨s₁, hl, he⟩ | ⟨dlist, s₁, s₂, hl, hc, he⟩ | ⟨dlist, s₁, s₂, hl, hc, he⟩ :=
    ddcEnumerateSources_cases impl.logged s <;> rw [h] at he <;> cases he
  · rw [Option.getD_some, handlesOf_nil, Multiset.zero_add]
    exact .listing hl held
  · rw [Option.getD_none, handlesOf_nil, Multiset.zero_add]
    exact (Transfers.listing hl held).trans <| (Transfers.calloc hc held).trans (.free ..)
  · exact (Transfers.listing hl held).trans <| (Transfers.calloc hc held).trans <|
      (transfers_enumerateFrom impl dlist.info 0 s₂ held).trans (.free ..)

/-! ## The controller -/

variable (impl : Implementation W R H)

theorem transfers_get (src : BrightnessSource H) (s : Logged W R H) {held : Multiset H}
    (h : src.ctx ∈ held) : Transfers s ((ddcProvider impl.logged).get src s).2 held held := by
  change Transfers s (ddcSrcGet impl.logged src.ctx s).2 held held
  rw [ddcSrcGet]
  rcases hr : impl.logged.getNonTableVcpValue src.ctx vcpBrightness s with ⟨_ | v, s'⟩
  · exact .read hr h
  · exact .read hr h

theorem transfers_set (src : BrightnessSource H) (value : Int) (s : Logged W R H)
    {held : Multiset H} (h : src.ctx ∈ held) :
    Transfers s ((ddcProvider impl.logged).set src value s).2 held held :=
  .write rfl h

theorem transfers_initialDimmer (src : BrightnessSource H) (s : Logged W R H) {held : Multiset H}
    (h : src.ctx ∈ held) :
    Transfers s (initialDimmer (ddcProvider impl.logged) src s).2 held held := by
  have hget := transfers_get impl src s h
  unfold initialDimmer
  rcases hr : (ddcProvider impl.logged).get src s with ⟨_ | v, s'⟩
  · rwa [hr] at hget
  · rwa [hr] at hget

theorem transfers_openDisplays (sources : List (BrightnessSource H)) (s : Logged W R H)
    {held : Multiset H} (h : ∀ src ∈ sources, src.ctx ∈ held) :
    Transfers s (openDisplays (ddcProvider impl.logged) sources s).2 held held := by
  induction sources generalizing s with
  | nil => exact .refl s held
  | cons src sources ih =>
      obtain ⟨hsrc, h⟩ := List.forall_mem_cons.mp h
      exact (transfers_initialDimmer impl src s hsrc).trans (ih _ h)

/-- `brightness_free` closes each of its sources. -/
theorem transfers_brightnessFree (sources : List (BrightnessSource H)) (s : Logged W R H)
    (held : Multiset H) :
    Transfers s (brightnessFree (ddcProvider impl.logged) sources s)
      (handlesOf sources + held) held := by
  induction sources generalizing s with
  | nil =>
      rw [handlesOf_nil, Multiset.zero_add]
      exact .refl s held
  | cons src sources ih =>
      rw [handlesOf_cons, Multiset.cons_add]
      exact (Transfers.close impl src.ctx s _).trans (ih _)

namespace Controller

theorem transfers_serviceDisplay (m : ManagedDisplay H) (s : Logged W R H) {held : Multiset H}
    (h : m.src.ctx ∈ held) :
    Transfers s (serviceDisplay (ddcProvider impl.logged) m s).2.2 held held := by
  unfold serviceDisplay
  cases dimmerDue m.dim with
  | none => exact .refl s held
  | some target =>
      have hset := transfers_set impl m.src target s h
      rcases hw : (ddcProvider impl.logged).set m.src target s with ⟨_ | _, s'⟩
      · rw [hw] at hset
        simpa only [hw] using hset
      · rw [hw] at hset
        simpa only [hw] using hset

/-- A service pass writes to the displays it is given and closes nothing. -/
theorem transfers_serviceDisplays (displays : List (ManagedDisplay H)) (s : Logged W R H)
    {held : Multiset H} (h : ∀ m ∈ displays, m.src.ctx ∈ held) :
    Transfers s (serviceDisplays (ddcProvider impl.logged) displays s).2.2 held held := by
  induction displays generalizing s with
  | nil => exact .refl s held
  | cons m displays ih =>
      obtain ⟨hm, h⟩ := List.forall_mem_cons.mp h
      exact (transfers_serviceDisplay impl m s hm).trans (ih _ h)

/-- The first loop of a reconcile reads fresh sources only. -/
theorem transfers_nextDisplays (c : Controller H) (fresh : List (BrightnessSource H))
    (s : Logged W R H) {held : Multiset H} (h : ∀ src ∈ fresh, src.ctx ∈ held) :
    Transfers s (nextDisplays (ddcProvider impl.logged) c fresh s).2 held held := by
  induction fresh generalizing s with
  | nil => exact .refl s held
  | cons src fresh ih =>
      obtain ⟨hsrc, h⟩ := List.forall_mem_cons.mp h
      rw [nextDisplays]
      cases c.matched src.id with
      | some dim => exact ih _ h
      | none => exact (transfers_initialDimmer impl src s hsrc).trans (ih _ h)

/-- The second loop closes the sources that did not survive and leaves the others open. -/
theorem transfers_closeVanished (fresh sources : List (BrightnessSource H)) (s : Logged W R H)
    (held : Multiset H) :
    Transfers s (closeVanished (ddcProvider impl.logged) fresh sources s)
      (handlesOf sources + held) (handlesOf (sources.filter (survived fresh)) + held) := by
  induction sources generalizing s held with
  | nil => exact .refl s _
  | cons src sources ih =>
      rw [closeVanished, handlesOf_cons, Multiset.cons_add]
      by_cases hs : survived fresh src = true
      · rw [if_pos hs, List.filter_cons_of_pos hs, handlesOf_cons, Multiset.cons_add,
          ← Multiset.add_cons, ← Multiset.add_cons]
        exact ih ..
      · rw [if_neg hs, List.filter_cons_of_neg hs]
        exact (Transfers.close impl src.ctx s _).trans (ih ..)

/-- An adopted reconcile ends with the fresh handles and those of the survivors. -/
theorem transfers_adopt (c : Controller H) (fresh : List (BrightnessSource H))
    (s : Logged W R H) (held : Multiset H) :
    Transfers s (c.adopt (ddcProvider impl.logged) fresh s).2
      (handlesOf fresh + (handlesOf c.sources + held))
      (handlesOf fresh + (handlesOf (c.sources.filter (survived fresh)) + held)) := by
  have hfresh (src : BrightnessSource H) (hsrc : src ∈ fresh) :
      src.ctx ∈ handlesOf fresh + (handlesOf c.sources + held) :=
    Multiset.mem_add.mpr (.inl (ctx_mem_handlesOf hsrc))
  refine (transfers_nextDisplays impl c fresh s hfresh).trans ?_
  rw [add_left_comm, add_left_comm (handlesOf fresh)]
  exact transfers_closeVanished ..

end Controller

end Dimmit
