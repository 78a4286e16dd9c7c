import Dimmit.Ddc.Bench
import Dimmit.Ddc.Handles
import Dimmit.Ddc.Linux

/-!
# Polls that fail as a whole

An enumeration can fail in three places, and each reports differently.  When one of the two
arrays cannot be allocated `controller_reconcile` keeps what it has.  But `DDC_ERROR` from the
backend's list builder, which on Linux is a failed query as well as a failed allocation,
becomes a successful enumeration of no displays, and the controller drops every display with
its pending presses.
-/

namespace Dimmit

open Ledger

variable {W R H : Type}

/-- The enumeration of a poll fails as a whole: the backend returns `DDC_ERROR` for its list,
the array of sources cannot be allocated, or the array of displays cannot.  An allocation that a
list builder answers by leaving one display out, with `DDC_OK`, as `darwin.c` and `windows.c` have
some, is none of these: the caller sees a shorter list. -/
inductive EnumerationFails (impl : Implementation W R H) (w : W) : Prop
  | list (h : (impl.getDisplayInfoList w).1 = none)
  | sources {dlist : DisplayInfoList R} {w' : W} (hl : impl.getDisplayInfoList w = (some dlist, w'))
      (hc : (impl.calloc w').1 = false)
  | displays {fresh : List (BrightnessSource H)} {w' : W}
      (he : ddcEnumerateSources impl w = (some fresh, w')) (hne : fresh ≠ [])
      (hc : (impl.calloc w').1 = false)

namespace Session

/-- Between two states the controller is the same, and each handle opened was closed again while
no other was. -/
structure LeftAlone (s s' : Session (Logged W R H) H) : Prop where
  controller_eq : s'.controller = s.controller
  balanced : ∃ events, s'.world.2 = s.world.2 ++ events ∧
    released (handleActions events) = acquired (handleActions events)

variable [DecidableEq H]

/-- Calls that end with the handles they started with close just what they open. -/
theorem balanced_of_transfers {s s' : Logged W R H} {held : Multiset H}
    (h : Transfers s s' held held) : ∃ events, s'.2 = s.2 ++ events ∧
      released (handleActions events) = acquired (handleActions events) := by
  obtain ⟨events, hlog, hm⟩ := h
  have hsum := heldAfter_add_released hm.permitted
  rw [hm.held_eq] at hsum
  exact ⟨events, hlog, add_left_cancel hsum⟩

/-- A reconcile that keeps the controller and ends with no handle gained or lost. -/
theorem LeftAlone.of_reconcile {P : Provider (Logged W R H) H} {c : Controller H}
    {w w' : Logged W R H} {results : List Nat} (he : c.reconcile P w = (c, w'))
    (ht : Transfers w w' 0 0) :
    LeftAlone ⟨some c, w, results⟩ (Session.step P ⟨some c, w, results⟩ .reconcile) := by
  simp only [Session.step, controllerReconcile, he]
  exact ⟨rfl, balanced_of_transfers ht⟩

variable {impl : Implementation W R H} {c : Controller H} {w : Logged W R H} {results : List Nat}

/-- `DDC_ERROR` empties the controller, so it leaves alone only one that is empty. -/
theorem leftAlone_of_list (hp : c.Parallel) (h : (impl.logged.getDisplayInfoList w).1 = none) :
    LeftAlone ⟨some c, w, results⟩
        (Session.step (ddcProvider impl.logged) ⟨some c, w, results⟩ .reconcile) ↔
      c.sources = [] := by
  have hen : (ddcProvider impl.logged).enumerate w =
      (some [], (impl.logged.getDisplayInfoList w).2) := by
    change ddcEnumerateSources impl.logged w = _
    rw [ddcEnumerateSources]
    split
    · rename_i hl
      rw [hl]
    · rename_i hl
      rw [hl] at h
      cases h
  have he : c.reconcile (ddcProvider impl.logged) w =
      c.adopt (ddcProvider impl.logged) [] (impl.logged.getDisplayInfoList w).2 := by
    rw [Controller.reconcile, hen]
    rfl
  constructor
  · intro hl
    have hc := hl.controller_eq
    simp only [Session.step, controllerReconcile, he] at hc
    exact (congrArg Controller.sources (Option.some.inj hc)).symm
  · intro hs
    have hd : c.displays = [] := by
      rw [Controller.Parallel, hs] at hp
      exact List.map_eq_nil_iff.mp hp
    obtain ⟨sources, displays⟩ := c
    cases hs
    cases hd
    exact .of_reconcile he (.listing rfl 0)

/-- A poll that cannot allocate the array of sources leaves the controller alone. -/
theorem leftAlone_of_sources {dlist : DisplayInfoList R} {w' : Logged W R H}
    (hl : impl.logged.getDisplayInfoList w = (some dlist, w'))
    (hc : (impl.logged.calloc w').1 = false) :
    LeftAlone ⟨some c, w, results⟩
      (Session.step (ddcProvider impl.logged) ⟨some c, w, results⟩ .reconcile) := by
  rcases hc' : impl.logged.calloc w' with ⟨ok, w''⟩
  rw [hc'] at hc
  cases hc
  have hen : (ddcProvider impl.logged).enumerate w =
      (none, impl.logged.freeDisplayInfoList dlist w'') := by
    change ddcEnumerateSources impl.logged w = _
    simp only [ddcEnumerateSources, hl, hc']
  have he : c.reconcile (ddcProvider impl.logged) w =
      (c, impl.logged.freeDisplayInfoList dlist w'') := by
    rw [Controller.reconcile, hen]
  exact .of_reconcile he
    ((Transfers.listing hl 0).trans ((Transfers.calloc hc' 0).trans (.free ..)))

/-- A poll that cannot allocate the array of displays closes the fresh sources and leaves the
controller alone. -/
theorem leftAlone_of_displays {fresh : List (BrightnessSource H)} {w' : Logged W R H}
    (hen : ddcEnumerateSources impl.logged w = (some fresh, w')) (hne : fresh ≠ [])
    (hc : (impl.logged.calloc w').1 = false) :
    LeftAlone ⟨some c, w, results⟩
      (Session.step (ddcProvider impl.logged) ⟨some c, w, results⟩ .reconcile) := by
  rcases hc' : impl.logged.calloc w' with ⟨ok, w''⟩
  rw [hc'] at hc
  cases hc
  have hen' : (ddcProvider impl.logged).enumerate w = (some fresh, w') := hen
  have hcl : (ddcProvider impl.logged).calloc w' = (false, w'') := hc'
  have he : c.reconcile (ddcProvider impl.logged) w =
      (c, brightnessFree (ddcProvider impl.logged) fresh w'') := by
    simp only [Controller.reconcile, hen', hcl, gt_iff_lt, List.length_pos_iff.mpr hne, if_true]
  have hopened := transfers_ddcEnumerateSources hen 0
  exact .of_reconcile he
    (hopened.trans ((Transfers.calloc hc' _).trans (transfers_brightnessFree impl fresh w'' 0)))

/-- **When a failed poll leaves the controller alone.**  In every reachable state in which the
enumeration fails as a whole, `controller_reconcile` keeps the count, the sources and every
dimmer, closes what it opened and nothing else, if and only if the failure is that of an array
the controller or the provider allocates, and not the backend's, or there are no displays. -/
theorem leftAlone_iff (impl : Implementation W R H) (s : Session (Logged W R H) H)
    (hs : s.Reachable (ddcProvider impl.logged)) (hfail : EnumerationFails impl.logged s.world) :
    s.LeftAlone (s.step (ddcProvider impl.logged) .reconcile) ↔
      (impl.getDisplayInfoList s.world.1).1 ≠ none ∨ controllerCount s.controller = 0 := by
  have hp := hs.parallel
  obtain ⟨_ | c, w, results⟩ := s
  · exact iff_of_true ⟨rfl, [], (List.append_nil _).symm, rfl⟩ (.inr rfl)
  cases hfail with
  | list h =>
      have hnone : (impl.getDisplayInfoList w.1).1 = none := h
      rw [leftAlone_of_list (hp c rfl) h]
      constructor
      · intro hsources
        exact .inr (congrArg List.length hsources)
      · rintro (hn | hcount)
        · exact absurd hnone hn
        · exact List.length_eq_zero_iff.mp hcount
  | sources hl hc =>
      refine iff_of_true (leftAlone_of_sources hl hc) (.inl ?_)
      intro hnone
      have hfst := congrArg Prod.fst hl
      exact absurd (hfst.symm.trans hnone) (by simp)
  | displays he hne hc =>
      refine iff_of_true (leftAlone_of_displays he hne hc) (.inl ?_)
      intro hnone
      obtain ⟨_, -, he'⟩ | ⟨_, _, _, hl, -⟩ | ⟨_, _, _, hl, -⟩ :=
        ddcEnumerateSources_cases impl.logged w
      · rw [he] at he'
        cases he'
        exact hne rfl
      · exact absurd ((congrArg Prod.fst hl).symm.trans hnone) (by simp)
      · exact absurd ((congrArg Prod.fst hl).symm.trans hnone) (by simp)

/-- A display with a press pending, and a poll whose array of displays cannot be allocated: the
display keeps its handle, its dimmer and the press, and the fresh handle is closed. -/
theorem leftAlone_iff_pending :
    let impl := { bench fun _ ↦ some ⟨[⟨0, 0x10ac, 0xa0c4, false⟩], by decide⟩ with
      calloc := fun w ↦ (decide (w.opened < 2), w) }
    let P := ddcProvider impl.logged
    let s := (Session.start P (Bench.ready [⟨0, 100, 0, 50⟩], [])).run P [.adjust (1 / 16)]
    s.displays.map (fun m ↦ (m.src.ctx.serial, m.dim)) = [(0, ⟨50, 100, 6⟩)] ∧
      EnumerationFails impl.logged s.world ∧ s.LeftAlone (s.step P .reconcile) := by
  intro impl P s
  have hlist : (impl.getDisplayInfoList s.world.1).1 ≠ none := by decide +kernel
  have hfail : EnumerationFails impl.logged s.world := by
    refine @EnumerationFails.displays _ _ _ impl.logged s.world
      [⟨⟨1, 0⟩, displayId 0 ⟨0, 0x10ac, 0xa0c4, false⟩,
        displayLabel 0 ⟨0, 0x10ac, 0xa0c4, false⟩⟩]
      (ddcEnumerateSources impl.logged s.world).2 (Prod.ext ?_ rfl) (List.cons_ne_nil _ _) ?_
    · decide +kernel
    · decide +kernel
  refine ⟨by decide +kernel, hfail, ?_⟩
  exact (leftAlone_iff impl s ⟨_, [.adjust (1 / 16)], rfl⟩ hfail).mpr (.inl hlist)

/-- On Linux: one display with a press pending, and a poll whose `ddca_get_display_info_list2`
fails. -/
theorem failed_query_drops_displays :
    let ddca : Ddca Nat Nat Nat :=
      { getDisplayInfoList2 := fun n ↦
          if n = 0 then (0, some ⟨[⟨0, ['D', 'E', 'L'], 0xa0c4⟩], by decide⟩, n + 1)
          else (-3006, none, n + 1)
        freeDisplayInfoList := fun _ n ↦ n
        openDisplay2 := fun r n ↦ (some r, n)
        closeDisplay := fun _ n ↦ n
        getNonTableVcpValue := fun _ _ n ↦ (some ⟨0, 100, 0, 50⟩, n)
        setNonTableVcpValue := fun _ _ _ _ n ↦ (true, n)
        alloc := fun n ↦ (true, n) }
    let impl := linuxImplementation ddca
    let P := ddcProvider impl.logged
    let s := (Session.start P (0, [])).run P [.adjust (1 / 16)]
    (ddca.getDisplayInfoList2 s.world.1).1 ≠ 0 ∧ EnumerationFails impl.logged s.world ∧
      ¬ s.LeftAlone (s.step P .reconcile) := by
  intro ddca impl P s
  have hst : (ddca.getDisplayInfoList2 s.world.1).1 ≠ 0 := by decide +kernel
  refine ⟨hst, .list (linuxGetDisplayInfoList_of_status_ne hst), ?_⟩
  intro h
  have hc := h.controller_eq
  revert hc
  decide +kernel

end Session

end Dimmit
