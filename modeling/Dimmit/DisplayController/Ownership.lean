import Dimmit.Ddc.Bench
import Dimmit.Ddc.Handles

/-!
# The handles a controller owns

Over every run of a controller on a DDC backend, whatever the backend answers, the open handles
are those of the current sources together with the *orphans*: handles of displays that some
earlier reconcile found again under the same id and opened anew, without closing what it had.
The ledger is disciplined all the same, so nothing is used or closed after it was closed; but
the orphans are never closed, not even by `controller_close`.
-/

namespace Dimmit

open Ledger Run

variable {W R H Ctx : Type}

/-- A reconcile in this state adopts a set in which the id of a managed display is found again,
so that its matching branch is taken. -/
def Session.Rematches (P : Provider W Ctx) (s : Session W Ctx) : Prop :=
  ∃ c ∈ s.controller, ∃ fresh w, P.enumerate s.world = (some fresh, w) ∧
    (P.calloc w).1 = true ∧ ∃ f ∈ fresh, ∃ src ∈ c.sources, f.id = src.id

theorem Session.rematches_iff {P : Provider W Ctx} {c : Controller Ctx} {w w' : W}
    {results : List Nat} {fresh : List (BrightnessSource Ctx)}
    (hen : P.enumerate w = (some fresh, w')) : Session.Rematches P ⟨some c, w, results⟩ ↔
      (P.calloc w').1 = true ∧ ∃ src ∈ c.sources, Controller.survived fresh src = true := by
  constructor
  · rintro ⟨_, ⟨⟩, fresh', w₁, hen', hok, f, hf, src, hsrc, hid⟩
    cases hen.symm.trans hen'
    exact ⟨hok, src, hsrc, List.any_eq_true.mpr ⟨f, hf, beq_iff_eq.mpr hid⟩⟩
  · rintro ⟨hok, src, hsrc, hs⟩
    obtain ⟨f, hf, hid⟩ := List.any_eq_true.mp hs
    exact ⟨c, rfl, fresh, w', hen, hok, f, hf, src, hsrc, beq_iff_eq.mp hid⟩

/-- The handles of the displays are those of the sources, so a write finds them held. -/
theorem Controller.Parallel.ctx_mem {c : Controller H} (h : c.Parallel) (others : Multiset H) :
    ∀ m ∈ c.displays, m.src.ctx ∈ handlesOf c.sources + others := by
  intro m hm
  refine Multiset.mem_add.mpr (.inl (ctx_mem_handlesOf ?_))
  rw [← h]
  exact List.mem_map_of_mem hm

variable [DecidableEq H]

theorem Transfers.moves {s s' : Logged W R H} {held held' : Multiset H}
    (h : Transfers s s' held held') (hm : Moves 0 (handleActions s.2) held) :
    Moves 0 (handleActions s'.2) held' := by
  obtain ⟨events, hlog, h⟩ := h
  rw [hlog, handleActions_append]
  exact hm.append h

namespace Session

/-- The open handles are those of the sources and the orphans, and the calls that led there are
disciplined. -/
structure Owns (s : Session (Logged W R H) H) (orphans : Multiset H) : Prop where
  parallel : ∀ c ∈ s.controller, c.Parallel
  moves : Moves 0 (handleActions s.world.2) (handlesOf s.sources + orphans)

namespace Owns

variable {s : Session (Logged W R H) H} {orphans : Multiset H}

theorem openHandles_eq (h : s.Owns orphans) :
    openHandles s.world.2 = handlesOf s.sources + orphans := h.moves.held_eq

/-- `controller_open` leaves no handle open but those of its sources. -/
theorem start (impl : Implementation W R H) (w : W) :
    (Session.start (ddcProvider impl.logged) (w, [])).Owns 0 := by
  refine ⟨parallel_controllerOpen _ _, ?_⟩
  have hnil : Moves (0 : Multiset H) (handleActions (R := R) []) 0 := .nil 0
  change Moves 0 (handleActions (controllerOpen (ddcProvider impl.logged) (w, [])).2.2)
    (handlesOf (((controllerOpen (ddcProvider impl.logged) (w, [])).1.map
      Controller.sources).getD []) + 0)
  rw [Multiset.add_zero]
  obtain ⟨s₁, hc, he⟩ | ⟨s₁, s₂, hc, hen, he⟩ | ⟨s₁, sources, s₂, s₃, hc, hen, -, hc', he⟩ |
    ⟨s₁, sources, s₂, s₃, hc, hen, hc', he⟩ :=
    controllerOpen_cases (ddcProvider impl.logged) ((w, []) : Logged W R H)
  · rw [he]
    exact (Transfers.calloc hc 0).moves hnil
  · rw [he]
    exact ((Transfers.calloc hc 0).trans (transfers_ddcEnumerateSources hen 0)).moves hnil
  · rw [he]
    exact ((Transfers.calloc hc 0).trans <| (transfers_ddcEnumerateSources hen 0).trans <|
      (Transfers.calloc hc' _).trans (transfers_brightnessFree impl sources s₃ 0)).moves hnil
  · rw [he]
    have hopened := (Transfers.calloc hc 0).trans (transfers_ddcEnumerateSources hen 0)
    rw [Option.getD_some, Multiset.add_zero] at hopened
    have hread : Transfers s₃ (openDisplays (ddcProvider impl.logged) sources s₃).2
        (handlesOf sources) (handlesOf sources) :=
      transfers_openDisplays impl sources s₃ fun src hsrc ↦ ctx_mem_handlesOf hsrc
    rcases hc' with ⟨-, rfl⟩ | ⟨-, hc'⟩
    · exact (hopened.trans hread).moves hnil
    · exact (hopened.trans ((Transfers.calloc hc' _).trans hread)).moves hnil

theorem adjust (h : s.Owns orphans) (impl : Implementation W R H) (f : ℚ) :
    (s.step (ddcProvider impl.logged) (.adjust f)).Owns orphans := by
  obtain ⟨_ | c, w, results⟩ := s
  · exact h
  · refine ⟨?_, h.moves⟩
    rintro _ ⟨⟩
    exact (h.parallel c rfl).adjust f

theorem service (h : s.Owns orphans) (impl : Implementation W R H) :
    (s.step (ddcProvider impl.logged) .service).Owns orphans := by
  obtain ⟨_ | c, w, results⟩ := s
  · exact ⟨h.parallel, h.moves⟩
  · have hc : c.Parallel := h.parallel c rfl
    constructor
    · rintro _ ⟨⟩
      exact hc.service _ w
    · exact (Controller.transfers_serviceDisplays impl c.displays w (hc.ctx_mem orphans)).moves
        h.moves

/-- A reconcile orphans the handles of the displays it finds again. -/
theorem reconcile (h : s.Owns orphans) (impl : Implementation W R H) :
    ∃ more, (s.step (ddcProvider impl.logged) .reconcile).Owns (more + orphans) ∧
      (more = 0 ↔ ¬ s.Rematches (ddcProvider impl.logged)) := by
  obtain ⟨_ | c, w, results⟩ := s
  · refine ⟨0, ?_, iff_of_true rfl ?_⟩
    · rw [Multiset.zero_add]
      exact h
    · rintro ⟨c, hc, -⟩
      cases hc
  have hc : c.Parallel := h.parallel c rfl
  have hm : Moves 0 (handleActions w.2) (handlesOf c.sources + orphans) := h.moves
  have hp := hc.reconcile (ddcProvider impl.logged) w
  -- what the step lemma says once the new controller and world are known
  have mk {c' : Controller H} {w' : Logged W R H} {more : Multiset H}
      (he : c.reconcile (ddcProvider impl.logged) w = (c', w'))
      (hw : Transfers w w' (handlesOf c.sources + orphans)
        (handlesOf c'.sources + (more + orphans))) :
      (Session.step (ddcProvider impl.logged) ⟨some c, w, results⟩ .reconcile).Owns
        (more + orphans) := by
    rw [he] at hp
    simp only [Session.step, controllerReconcile, he]
    refine ⟨?_, hw.moves hm⟩
    rintro _ ⟨⟩
    exact hp
  obtain ⟨w', hen, he⟩ | ⟨fresh, w', w'', hen, hf, hcl, he⟩ | ⟨fresh, w', w'', hen, hcl, he⟩ :=
    Controller.reconcile_cases (ddcProvider impl.logged) c w
  · refine ⟨0, mk he ?_, iff_of_true rfl ?_⟩
    · rw [Multiset.zero_add]
      simpa using transfers_ddcEnumerateSources hen (handlesOf c.sources + orphans)
    · rintro ⟨_, ⟨⟩, fresh, w₁, hen', -⟩
      rw [hen] at hen'
      cases hen'
  · refine ⟨0, mk he ?_, iff_of_true rfl ?_⟩
    · rw [Multiset.zero_add]
      exact (transfers_ddcEnumerateSources hen _).trans <|
        (Transfers.calloc hcl _).trans (transfers_brightnessFree impl fresh w'' _)
    · rw [rematches_iff hen, hcl]
      rintro ⟨hok, -⟩
      cases hok
  · have hopened := transfers_ddcEnumerateSources hen (handlesOf c.sources + orphans)
    rw [Option.getD_some] at hopened
    have hcalloc : Transfers w w'' (handlesOf c.sources + orphans)
        (handlesOf fresh + (handlesOf c.sources + orphans)) := by
      rcases hcl with ⟨-, rfl⟩ | ⟨-, hcl⟩
      · exact hopened
      · exact hopened.trans (.calloc hcl _)
    refine ⟨handlesOf (c.sources.filter (Controller.survived fresh)), mk he ?_, ?_⟩
    · exact hcalloc.trans (Controller.transfers_adopt impl c fresh w'' orphans)
    · rw [handlesOf, Multiset.coe_eq_zero, List.map_eq_nil_iff, List.filter_eq_nil_iff,
        rematches_iff hen]
      constructor
      · rintro hnone ⟨-, src, hsrc, hs⟩
        exact hnone src hsrc hs
      · intro hr src hsrc hs
        refine hr ⟨?_, src, hsrc, hs⟩
        rcases hcl with ⟨rfl, -⟩ | ⟨-, hcl⟩
        · cases hs
        · rw [hcl]

/-- Closing the controller leaves the orphans open. -/
theorem close (h : s.Owns orphans) (impl : Implementation W R H) :
    Moves 0 (handleActions (controllerClose (ddcProvider impl.logged) s.controller s.world).2)
      orphans := by
  obtain ⟨_ | c, w, results⟩ := s
  · have hm := h.moves
    rw [show handlesOf (Session.sources _) = (0 : Multiset H) from rfl, Multiset.zero_add] at hm
    exact hm
  · exact (transfers_brightnessFree impl c.sources w orphans).moves h.moves

/-- Every operation keeps the account, with some handles orphaned. -/
theorem step (h : s.Owns orphans) (impl : Implementation W R H) (op : Op) :
    ∃ orphans, (s.step (ddcProvider impl.logged) op).Owns orphans := by
  cases op with
  | adjust f => exact ⟨orphans, h.adjust impl f⟩
  | service => exact ⟨orphans, h.service impl⟩
  | reconcile =>
      obtain ⟨more, h', -⟩ := h.reconcile impl
      exact ⟨more + orphans, h'⟩

end Owns

/-- **Every run keeps the account.** -/
theorem throughout_owns (impl : Implementation W R H) (w : W) (ops : List Op) :
    Throughout (Session.step (ddcProvider impl.logged)) (fun s ↦ ∃ orphans, s.Owns orphans)
      (Session.start (ddcProvider impl.logged) (w, [])) ops :=
  throughout_of_invariant ⟨0, Owns.start impl w⟩ (fun _ op ⟨_, h⟩ ↦ h.step impl op)
    (fun _ h ↦ h) ops

/-! ## No handle leaks -/

/-- Just the handles of the sources are open, one for each display, and closing the controller
closes them all. -/
structure LeakFree (P : Provider (Logged W R H) H) (s : Session (Logged W R H) H) : Prop where
  open_eq : openHandles s.world.2 = handlesOf s.sources
  card_open : (openHandles s.world.2).card = controllerCount s.controller
  closed : openHandles (controllerClose P s.controller s.world).2 = 0

theorem Owns.leakFree {s : Session (Logged W R H) H} (h : s.Owns 0) (impl : Implementation W R H) :
    s.LeakFree (ddcProvider impl.logged) := by
  have hopen : openHandles s.world.2 = handlesOf s.sources :=
    h.openHandles_eq.trans (Multiset.add_zero _)
  refine ⟨hopen, ?_, (h.close impl).held_eq⟩
  rw [hopen, handlesOf, Multiset.coe_card, List.length_map]
  obtain ⟨_ | c, w, results⟩ := s <;> rfl

/-- **What is leaked, and when.**  A run keeps exactly the handles of its sources open, and
`controller_close` closes them all, if and only if none of its reconciles finds a managed
display again: the handle a matched display had is never closed. -/
theorem leakFree_iff (impl : Implementation W R H) (w : W) (ops : List Op) :
    Throughout (Session.step (ddcProvider impl.logged)) (LeakFree (ddcProvider impl.logged))
        (Session.start (ddcProvider impl.logged) (w, [])) ops ↔
      Along (Session.step (ddcProvider impl.logged))
        (fun s op ↦ op = .reconcile → ¬ s.Rematches (ddcProvider impl.logged))
        (Session.start (ddcProvider impl.logged) (w, [])) ops := by
  refine throughout_iff_along (J := fun s ↦ s.Owns 0) (Owns.start impl w) ?_
    (fun s h ↦ h.leakFree impl) ?_ ops
  · intro s op h hop
    cases op with
    | adjust f => exact h.adjust impl f
    | service => exact h.service impl
    | reconcile =>
        obtain ⟨more, h', hmore⟩ := h.reconcile impl
        rwa [hmore.mpr (hop rfl), Multiset.zero_add] at h'
  · intro s op h hop hfree
    obtain ⟨rfl, hr⟩ := Classical.not_imp.mp hop
    obtain ⟨more, h', hmore⟩ := h.reconcile impl
    have hsum := h'.openHandles_eq.symm.trans hfree.open_eq
    rw [Multiset.add_zero, add_eq_left] at hsum
    exact hr (hmore.mp hsum)

/-- One display, polled once while its handle is open: the handle of the opening stays open
beside that of the poll, and is still open when the controller is closed. -/
theorem leaks_one_handle_a_poll :
    let P := ddcProvider (bench fun _ ↦ some ⟨[⟨0, 0x10ac, 0xa0c4, false⟩], by decide⟩).logged
    ¬ Throughout (Session.step P) (LeakFree P)
      (Session.start P (Bench.ready [⟨0, 100, 0, 50⟩], [])) [.reconcile] := by
  intro P h
  have hopen := h.2.open_eq
  revert hopen
  decide +kernel

/-! ## No dead handle is used or closed -/

/-- The calls of a run that ends with `controller_close`. -/
def closedLog (impl : Implementation W R H) (w : W) (ops : List Op) : List (DdcEvent R H) :=
  let s := (Session.start (ddcProvider impl.logged) (w, [])).run (ddcProvider impl.logged) ops
  (controllerClose (ddcProvider impl.logged) s.controller s.world).2

/-- **The controller never uses or closes a dead handle.**  If no open returns a handle that is
still open, then in every run that ends with `controller_close` each read and write and each
close finds its handle open, no handle is closed twice without being opened in between, and at
every moment the displays have the handles of the sources. -/
theorem never_uses_dead_handle (impl : Implementation W R H) (w : W) (ops : List Op)
    (hfresh : Fresh (handleActions (closedLog impl w ops))) :
    Disciplined (handleActions (closedLog impl w ops)) ∧
    (∀ as bs cs h, handleActions (closedLog impl w ops) =
      as ++ .release h :: (bs ++ .release h :: cs) → .acquire h ∈ bs) ∧
    Throughout (Session.step (ddcProvider impl.logged))
      (fun s ↦ s.displays.map (·.src.ctx) = s.sources.map (·.ctx))
      (Session.start (ddcProvider impl.logged) (w, [])) ops := by
  have howns := throughout_owns impl w ops
  have hdisciplined : Disciplined (handleActions (closedLog impl w ops)) := by
    obtain ⟨orphans, h⟩ := howns.last
    exact (h.close impl).permitted
  refine ⟨hdisciplined, ?_, ?_⟩
  · intro as bs cs h hsplit
    rw [hsplit] at hdisciplined hfresh
    exact acquire_mem_of_release_twice hdisciplined hfresh
  · refine throughout_of_invariant (J := fun s ↦ ∃ orphans, s.Owns orphans)
      ⟨0, Owns.start impl w⟩ (fun _ op ⟨_, h⟩ ↦ h.step impl op) ?_ ops
    rintro ⟨_ | c, w, results⟩ ⟨orphans, h⟩
    · rfl
    · have hc : c.displays.map (·.src) = c.sources := h.parallel c rfl
      change c.displays.map _ = c.sources.map _
      rw [← hc, List.map_map]
      rfl

/-- Two displays of one make, of which the first is unplugged at the second poll; the press
before it is still pending when the survivors are found. -/
theorem never_uses_dead_handle_unplug :
    let impl := bench fun n ↦
      if n < 2 then some ⟨[⟨0, 0, 0, false⟩, ⟨1, 0, 0, false⟩], by decide⟩
      else some ⟨[⟨1, 0, 0, false⟩], by decide⟩
    Disciplined (handleActions (closedLog impl (Bench.ready [⟨0, 100, 0, 50⟩, ⟨0, 80, 0, 20⟩])
      [.adjust (1 / 16), .reconcile, .service, .reconcile])) :=
  (never_uses_dead_handle _ (Bench.ready [⟨0, 100, 0, 50⟩, ⟨0, 80, 0, 20⟩])
    [.adjust (1 / 16), .reconcile, .service, .reconcile] (by decide +kernel)).1

end Session

end Dimmit
