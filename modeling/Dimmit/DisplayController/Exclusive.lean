import Dimmit.Ddc.Enumeration
import Dimmit.Lib.Run

/-!
# Backends that open a display only once

On a backend like libddcutil a display that has an open handle cannot be opened again.
`controller_reconcile` enumerates before it closes anything, so its enumeration finds every
managed display busy, returns no sources, and every display is closed and dropped.  The next
poll finds them free and starts them anew from their readings.
-/

namespace Dimmit

open Run

variable {W R H : Type}

/-- The displays are always those of `dlist`; one opens unless it is held, and everything else
succeeds.  `held w` is the set of displays with an open handle. -/
structure Exclusive (impl : Implementation W R H) (device : H → R) (dlist : DisplayInfoList R)
    (held : W → Set R) : Prop where
  list_eq : ∀ w, (impl.getDisplayInfoList w).1 = some dlist
  held_list : ∀ w, held (impl.getDisplayInfoList w).2 = held w
  held_free : ∀ list w, held (impl.freeDisplayInfoList list w) = held w
  calloc : ∀ w, (impl.calloc w).1 = true
  held_calloc : ∀ w, held (impl.calloc w).2 = held w
  opens : ∀ {r w}, r ∉ held w →
    ∃ h w', impl.openDisplay r w = (some h, w') ∧ device h = r ∧ held w' = insert r (held w)
  refuses : ∀ {r w}, r ∈ held w → ∃ w', impl.openDisplay r w = (none, w') ∧ held w' = held w
  held_close : ∀ h w, held (impl.closeDisplay h w) = held w \ {device h}
  read : ∀ h feature w, ∃ v w',
    impl.getNonTableVcpValue h feature w = (some v, w') ∧ held w' = held w
  write : ∀ h feature hi lo w, ∃ w',
    impl.setNonTableVcpValue h feature hi lo w = (true, w') ∧ held w' = held w

namespace Exclusive

variable {impl : Implementation W R H} {device : H → R} {dlist : DisplayInfoList R}
  {held : W → Set R}

/-- When no external display is held the loop opens them all. -/
theorem enumerateFrom_free (h : Exclusive impl device dlist held) (infos : List (DisplayInfo R))
    (i : Nat) (hnodup : ((externalsFrom i infos).map (·.2.dref)).Nodup) {w : W}
    (hw : ∀ p ∈ externalsFrom i infos, p.2.dref ∉ held w) :
    List.Forall₂ (OpenedFor device) (enumerateFrom impl i infos w).1 (externalsFrom i infos) ∧
      held w ⊆ held (enumerateFrom impl i infos w).2 ∧
      ∀ p ∈ externalsFrom i infos, p.2.dref ∈ held (enumerateFrom impl i infos w).2 := by
  induction infos generalizing i w with
  | nil => exact ⟨.nil, subset_rfl, fun p hp ↦ nomatch hp⟩
  | cons info infos ih =>
      rw [externalsFrom] at hnodup hw ⊢
      cases hb : info.isBuiltin with
      | true =>
          rw [hb] at hnodup hw
          rw [enumerateFrom, hb]
          exact ih (i + 1) hnodup hw
      | false =>
          rw [hb] at hnodup hw
          obtain ⟨hfirst, hrest⟩ := List.nodup_cons.mp hnodup
          obtain ⟨hw₀, hw⟩ := List.forall_mem_cons.mp hw
          obtain ⟨d, w₁, ho, hd, hheld₁⟩ := h.opens hw₀
          obtain ⟨v, w₂, hr, hheld₂⟩ := h.read d vcpBrightness w₁
          have he : enumerateFrom impl i (info :: infos) w =
              (displaySource i info d :: (enumerateFrom impl (i + 1) infos w₂).1,
                (enumerateFrom impl (i + 1) infos w₂).2) := by
            simp [enumerateFrom, hb, ho, hr]
          have hfree : ∀ p ∈ externalsFrom (i + 1) infos, p.2.dref ∉ held w₂ := by
            intro p hp hm
            rw [hheld₂, hheld₁] at hm
            rcases hm with hm | hm
            · exact hfirst (List.mem_map.mpr ⟨p, hp, hm⟩)
            · exact hw p hp hm
          obtain ⟨hseats, hsub, hall⟩ := ih (i + 1) hrest hfree
          have hsub' :
              insert info.dref (held w) ⊆ held (enumerateFrom impl (i + 1) infos w₂).2 := by
            rwa [hheld₂, hheld₁] at hsub
          rw [he]
          refine ⟨.cons ⟨rfl, hd⟩ hseats, (Set.subset_insert _ _).trans hsub', ?_⟩
          rintro p hp
          rcases List.mem_cons.mp hp with rfl | hp
          · exact hsub' (Set.mem_insert _ _)
          · exact hall p hp

/-- When every external display is held the loop opens none. -/
theorem enumerateFrom_busy (h : Exclusive impl device dlist held) (infos : List (DisplayInfo R))
    (i : Nat) {w : W} (hw : ∀ p ∈ externalsFrom i infos, p.2.dref ∈ held w) :
    (enumerateFrom impl i infos w).1 = [] := by
  induction infos generalizing i w with
  | nil => rfl
  | cons info infos ih =>
      rw [externalsFrom] at hw
      rw [enumerateFrom]
      cases hb : info.isBuiltin with
      | true =>
          rw [hb] at hw
          exact ih (i + 1) hw
      | false =>
          rw [hb] at hw
          obtain ⟨hw₀, hw⟩ := List.forall_mem_cons.mp hw
          obtain ⟨w₁, ho, hheld⟩ := h.refuses hw₀
          simp only [ho]
          exact ih (i + 1) (by rwa [hheld])

/-- The enumeration runs its loop over the list, in a world in which the same displays are
held. -/
theorem exists_enumerate (h : Exclusive impl device dlist held) (w : W) :
    ∃ w', held w' = held w ∧ ddcEnumerateSources impl w =
      (some (enumerateFrom impl 0 dlist.info w').1,
        impl.freeDisplayInfoList dlist (enumerateFrom impl 0 dlist.info w').2) := by
  have hlist := h.list_eq w
  have hheld := h.held_list w
  rcases hl : impl.getDisplayInfoList w with ⟨answer, w₁⟩
  rw [hl] at hlist hheld
  cases hlist
  have hcalloc := h.calloc w₁
  have hheld' := h.held_calloc w₁
  rcases hc : impl.calloc w₁ with ⟨ok, w₂⟩
  rw [hc] at hcalloc hheld'
  cases hcalloc
  exact ⟨w₂, hheld'.trans hheld, by simp only [ddcEnumerateSources, hl, hc]⟩

/-! ## Reads and writes hold nothing -/

theorem held_initialDimmer (h : Exclusive impl device dlist held) (src : BrightnessSource H)
    (w : W) : held (initialDimmer (ddcProvider impl) src w).2 = held w := by
  obtain ⟨v, w', hr, hheld⟩ := h.read src.ctx vcpBrightness w
  have hget : (ddcProvider impl).get src w = (some (word v.sh v.sl, word v.mh v.ml), w') := by
    change ddcSrcGet impl src.ctx w = _
    simp only [ddcSrcGet, hr]
  simp only [initialDimmer, hget]
  exact hheld

theorem held_openDisplays (h : Exclusive impl device dlist held)
    (sources : List (BrightnessSource H)) (w : W) :
    held (openDisplays (ddcProvider impl) sources w).2 = held w := by
  induction sources generalizing w with
  | nil => rfl
  | cons src sources ih => exact (ih _).trans (h.held_initialDimmer src w)

theorem held_serviceDisplays (h : Exclusive impl device dlist held)
    (displays : List (ManagedDisplay H)) (w : W) :
    held (Controller.serviceDisplays (ddcProvider impl) displays w).2.2 = held w := by
  induction displays generalizing w with
  | nil => rfl
  | cons m displays ih =>
      refine (ih (Controller.serviceDisplay (ddcProvider impl) m w).2.2).trans ?_
      unfold Controller.serviceDisplay
      cases dimmerDue m.dim with
      | none => rfl
      | some target =>
          obtain ⟨w', hs, hheld⟩ :=
            h.write m.src.ctx vcpBrightness (hiByte target) (loByte target) w
          have hset : (ddcProvider impl).set m.src target w = (true, w') := hs
          simp only [hset]
          exact hheld

/-! ## Runs -/

/-- Every attached display is managed and held. -/
structure Full (dlist : DisplayInfoList R) (held : W → Set R) (s : Session W H) : Prop where
  managed : ∃ c, s.controller = some c ∧ c.Parallel ∧
    c.sources.length = (externalsFrom 0 dlist.info).length
  busy : ∀ p ∈ externalsFrom 0 dlist.info, p.2.dref ∈ held s.world

/-- `controller_open` finds every display free and opens it. -/
theorem full_start (h : Exclusive impl device dlist held)
    (hnodup : ((externalsFrom 0 dlist.info).map (·.2.dref)).Nodup) {w : W} (hw : held w = ∅) :
    Full dlist held (Session.start (ddcProvider impl) w) := by
  have hfail (w : W) {w' : W} : (ddcProvider impl).calloc w ≠ (false, w') := fun hc ↦
    absurd ((congrArg Prod.fst hc).symm.trans (h.calloc w)) (by simp)
  obtain ⟨w', hc, -⟩ | ⟨w', w'', hc, hen, -⟩ | ⟨w', sources, w'', w₃, hc, hen, -, hc', -⟩ |
    ⟨w', sources, w'', w₃, hc, hen, hc', he⟩ := controllerOpen_cases (ddcProvider impl) w
  · exact absurd hc (hfail w)
  · obtain ⟨_, -, hen'⟩ := h.exists_enumerate w'
    exact absurd (hen.symm.trans hen') (by simp)
  · exact absurd hc' (hfail w'')
  · have hw' : held w' = ∅ := by
      have hheld := h.held_calloc w
      rw [show impl.calloc w = (true, w') from hc, hw] at hheld
      exact hheld
    obtain ⟨w₁, hw₁, hen'⟩ := h.exists_enumerate w'
    obtain ⟨hseats, -, hall⟩ := h.enumerateFrom_free dlist.info 0 hnodup (w := w₁) fun p _ hm ↦ by
      rw [hw₁, hw'] at hm
      exact hm
    have hen₂ : ddcEnumerateSources impl w' = (some sources, w'') := hen
    rw [hen'] at hen₂
    cases hen₂
    have hw₃ : held w₃ = held (enumerateFrom impl 0 dlist.info w₁).2 := by
      refine Eq.trans ?_ (h.held_free dlist _)
      exact Provider.of_array (J := fun y ↦ held y = _) hc' rfl (h.held_calloc _)
    have hpar := parallel_controllerOpen (ddcProvider impl) w
    rw [Session.start, he]
    rw [he] at hpar
    refine ⟨⟨_, rfl, hpar _ rfl, hseats.length_eq⟩, ?_⟩
    intro p hp
    change p.2.dref ∈ held (openDisplays (ddcProvider impl) _ w₃).2
    rw [h.held_openDisplays, hw₃]
    exact hall p hp

theorem Full.adjust {s : Session W H} (hs : Full dlist held s) (P : Provider W H) (f : ℚ) :
    Full dlist held (s.step P (.adjust f)) := by
  obtain ⟨c, hc, hpar, hlen⟩ := hs.managed
  exact ⟨⟨c.adjust f, by rw [Session.step, hc]; rfl, hpar.adjust f, hlen⟩, hs.busy⟩

theorem Full.service (h : Exclusive impl device dlist held) {s : Session W H}
    (hs : Full dlist held s) : Full dlist held (s.step (ddcProvider impl) .service) := by
  obtain ⟨⟨c, hc, hpar, hlen⟩, hbusy⟩ := hs
  refine ⟨⟨(c.service (ddcProvider impl) s.world).1, by rw [Session.step, hc]; rfl,
    hpar.service _ _, hlen⟩, ?_⟩
  rw [Session.world_step_service, h.held_serviceDisplays]
  exact hbusy

theorem Full.count {s : Session W H} (hs : Full dlist held s) :
    controllerCount s.controller = (externalsFrom 0 dlist.info).length := by
  obtain ⟨⟨c, hc, -, hlen⟩, -⟩ := hs
  rw [hc]
  exact hlen

/-- A poll finds every display busy and drops it. -/
theorem Full.reconcile (h : Exclusive impl device dlist held) {s : Session W H}
    (hs : Full dlist held s) :
    (s.step (ddcProvider impl) .reconcile).controller = some ⟨[], []⟩ := by
  obtain ⟨⟨c, hc, -⟩, hbusy⟩ := hs
  obtain ⟨w', hw', hen⟩ := h.exists_enumerate s.world
  rw [h.enumerateFrom_busy dlist.info 0 (fun p hp ↦ hw'.symm ▸ hbusy p hp)] at hen
  have he : (c.reconcile (ddcProvider impl) s.world).1 = ⟨[], []⟩ := by
    rw [Controller.reconcile, show (ddcProvider impl).enumerate s.world = _ from hen]
    rfl
  rw [Session.step, hc]
  exact congrArg some he

/-- Only when nothing is attached does a poll lose nothing. -/
theorem Full.reconcile_of_nil (h : Exclusive impl device dlist held)
    (hnil : externalsFrom 0 dlist.info = []) {s : Session W H} (hs : Full dlist held s) :
    Full dlist held (s.step (ddcProvider impl) .reconcile) ∧
      (s.step (ddcProvider impl) .reconcile).displays = s.displays := by
  have hc' := hs.reconcile h
  refine ⟨⟨⟨⟨[], []⟩, hc', rfl, by rw [hnil]; rfl⟩, by rw [hnil]; exact fun p hp ↦ nomatch hp⟩, ?_⟩
  obtain ⟨⟨c, hc, hpar, hlen⟩, -⟩ := hs
  rw [hnil] at hlen
  have hd : c.displays = [] := by
    rw [Controller.Parallel, List.length_eq_zero_iff.mp hlen] at hpar
    exact List.map_eq_nil_iff.mp hpar
  rw [Session.displays, hc', Session.displays, hc]
  exact hd.symm

/-- **When an exclusive backend keeps its displays.**  From a start with nothing held, the count
stays that of the attached displays and every reconcile keeps the ids and the dimmers, if and
only if nothing is attached or the run has no reconcile: the first one drops every display. -/
theorem keeps_displays_iff (h : Exclusive impl device dlist held)
    (hnodup : ((externalsFrom 0 dlist.info).map (·.2.dref)).Nodup) {w : W} (hw : held w = ∅)
    (ops : List Op) :
    (Throughout (Session.step (ddcProvider impl))
        (fun s ↦ controllerCount s.controller = (externalsFrom 0 dlist.info).length)
        (Session.start (ddcProvider impl) w) ops ∧
      Along (Session.step (ddcProvider impl))
        (fun s op ↦ op = .reconcile →
          (s.step (ddcProvider impl) op).displays.map (fun m ↦ (m.src.id, m.dim)) =
            s.displays.map fun m ↦ (m.src.id, m.dim))
        (Session.start (ddcProvider impl) w) ops) ↔
      externalsFrom 0 dlist.info = [] ∨ .reconcile ∉ ops := by
  have hstart := h.full_start hnodup hw
  have hstep (s : Session W H) (op : Op) (hs : Full dlist held s) (hop : op ≠ .reconcile) :
      Full dlist held (s.step (ddcProvider impl) op) := by
    cases op with
    | adjust f => exact hs.adjust _ f
    | service => exact hs.service h
    | reconcile => exact absurd rfl hop
  by_cases hnil : externalsFrom 0 dlist.info = []
  · refine iff_of_true ⟨?_, ?_⟩ (.inl hnil)
    · refine throughout_of_invariant hstart (fun s op hs ↦ ?_) (fun s hs ↦ hs.count) ops
      by_cases hop : op = .reconcile
      · subst hop
        exact (hs.reconcile_of_nil h hnil).1
      · exact hstep s op hs hop
    · refine (along_true _ ops).imp (J := Full dlist held) hstart (fun s op hs _ ↦ ?_) ?_
      · by_cases hop : op = .reconcile
        · subst hop
          exact (hs.reconcile_of_nil h hnil).1
        · exact hstep s op hs hop
      · rintro s op hs - rfl
        rw [(hs.reconcile_of_nil h hnil).2]
  · have hbad (s : Session W H) (op : Op) (hs : Full dlist held s) (hop : ¬ op ≠ .reconcile) :
        ¬ controllerCount (s.step (ddcProvider impl) op).controller =
          (externalsFrom 0 dlist.info).length := by
      obtain rfl := not_not.mp hop
      rw [hs.reconcile h]
      exact fun hlen ↦ hnil (List.length_eq_zero_iff.mp hlen.symm)
    have hiff := throughout_iff_along hstart hstep (fun s hs ↦ hs.count) hbad ops
    have hall : Along (Session.step (ddcProvider impl)) (fun _ op ↦ op ≠ .reconcile)
        (Session.start (ddcProvider impl) w) ops ↔ .reconcile ∉ ops :=
      along_forall.trans ⟨fun hne hm ↦ hne _ hm rfl, fun hn op hm he ↦ hn (he ▸ hm)⟩
    rw [or_iff_right hnil, ← hall]
    refine ⟨fun hk ↦ hiff.mp hk.1, fun hne ↦ ⟨hiff.mpr hne, ?_⟩⟩
    exact hne.imp hstart hstep fun s op _ hop he ↦ absurd he hop

end Exclusive

/-- A backend that opens each display once.  Its world is the list of the displays that are
open, and a display is its own handle. -/
def exclusiveBench (dlist : DisplayInfoList Nat) : Implementation (List Nat) Nat Nat where
  getDisplayInfoList w := (some dlist, w)
  freeDisplayInfoList _ w := w
  openDisplay r w := if r ∈ w then (none, w) else (some r, r :: w)
  closeDisplay r w := w.filter (· ≠ r)
  getNonTableVcpValue _ _ w := (some ⟨0, 100, 0, 50⟩, w)
  setNonTableVcpValue _ _ _ _ w := (true, w)
  calloc w := (true, w)

theorem exclusive_exclusiveBench (dlist : DisplayInfoList Nat) :
    Exclusive (exclusiveBench dlist) id dlist fun w ↦ {r | r ∈ w} where
  list_eq _ := rfl
  held_list _ := rfl
  held_free _ _ := rfl
  calloc _ := rfl
  held_calloc _ := rfl
  opens {r w} hr := ⟨r, r :: w, if_neg hr, rfl, by ext r'; simp⟩
  refuses {r w} hr := ⟨w, if_pos hr, rfl⟩
  held_close r w := by ext r'; simp [exclusiveBench]
  read _ _ w := ⟨_, w, rfl, rfl⟩
  write _ _ _ _ w := ⟨w, rfl, rfl⟩

/-- Two displays that are never polled keep their dimmers. -/
theorem keeps_displays_iff_unpolled :
    let P := ddcProvider
      (exclusiveBench ⟨[⟨0, 0x10ac, 0xa0c4, false⟩, ⟨1, 0x10ac, 0xa0c5, false⟩], by decide⟩)
    Throughout (Session.step P) (fun s ↦ controllerCount s.controller = 2) (Session.start P [])
      [.adjust (1 / 16), .service] :=
  ((Exclusive.keeps_displays_iff (exclusive_exclusiveBench
      ⟨[⟨0, 0x10ac, 0xa0c4, false⟩, ⟨1, 0x10ac, 0xa0c5, false⟩], by decide⟩)
    (by decide) (by ext; simp) [.adjust (1 / 16), .service]).mpr (.inr (by decide))).1

/-- One display with a press pending: the first poll drops it, and the second starts it anew
without the press. -/
theorem polled_displays_vanish :
    let impl := exclusiveBench ⟨[⟨0, 0x10ac, 0xa0c4, false⟩], by decide⟩
    let P := ddcProvider impl
    let s := Session.start P []
    Exclusive impl id ⟨[⟨0, 0x10ac, 0xa0c4, false⟩], by decide⟩ (fun w ↦ {r | r ∈ w}) ∧
      ¬ Throughout (Session.step P) (fun s ↦ controllerCount s.controller = 1) s
        [.adjust (1 / 16), .reconcile] ∧
      (s.run P [.adjust (1 / 16)]).displays.map (·.dim) = [⟨50, 100, 6⟩] ∧
      (s.run P [.adjust (1 / 16), .reconcile]).displays = [] ∧
      (s.run P [.adjust (1 / 16), .reconcile, .reconcile]).displays.map (·.dim) =
        [⟨50, 100, 0⟩] := by
  intro impl P s
  refine ⟨exclusive_exclusiveBench _, ?_, ?_, ?_, ?_⟩
  · decide +kernel
  · decide +kernel
  · decide +kernel
  · decide +kernel

end Dimmit
