import Dimmit.DisplayController.Run
import Dimmit.Lib.Loop
import Mathlib.Data.List.Find

/-!
# One display's faults stay with it

A provider isolates the sources that are `mine` when what it does for them depends on its world
only as far as `alike` worlds agree, and what it does for the others leaves the world alike.
Over such a provider two runs of the controller from worlds that are alike agree on the displays
of mine, whatever happens to the others: each loop of the controller unwinds, by
`Loop.thread_unwind`.
-/

namespace Dimmit

open Loop

variable {W Ctx : Type}

/-- The provider isolates the sources that are `mine`, which their ids tell: theirs have a tag. -/
structure Provider.Isolates (P : Provider W Ctx) (mine : BrightnessSource Ctx → Bool)
    (tag : CString → Prop) (alike : W → W → Prop) : Prop where
  equiv : Equivalence alike
  /-- Allocations succeed. -/
  calloc : ∀ {w w'}, alike w w' → (P.calloc w).1 = true ∧ alike (P.calloc w).2 w'
  enumerate : ∀ {w w'}, alike w w' → ∃ sources x sources' x',
    P.enumerate w = (some sources, x) ∧ P.enumerate w' = (some sources', x') ∧
      sources.filter mine = sources'.filter mine ∧ alike x x'
  tagged : ∀ {w sources x}, P.enumerate w = (some sources, x) →
    ∀ s ∈ sources, mine s = true ↔ tag s.id
  get_mine : ∀ {s w w'}, mine s = true → alike w w' →
    (P.get s w).1 = (P.get s w').1 ∧ alike (P.get s w).2 (P.get s w').2
  get_other : ∀ {s w w'}, mine s = false → alike w w' → alike (P.get s w).2 w'
  set_mine : ∀ {s v w w'}, mine s = true → alike w w' →
    (P.set s v w).1 = (P.set s v w').1 ∧ alike (P.set s v w).2 (P.set s v w').2
  set_other : ∀ {s v w w'}, mine s = false → alike w w' → alike (P.set s v w).2 w'
  close_mine : ∀ {s w w'}, mine s = true → alike w w' → alike (P.close s w) (P.close s w')
  close_other : ∀ {s w w'}, mine s = false → alike w w' → alike (P.close s w) w'

/-! ## The loops of the controller -/

theorem initialDimmer_snd (P : Provider W Ctx) (s : BrightnessSource Ctx) (w : W) :
    (initialDimmer P s w).2 = (P.get s w).2 := by
  unfold initialDimmer
  rcases P.get s w with ⟨_ | _, _⟩ <;> rfl

/-- One pass of the loop of `controller_open`. -/
def openPass (P : Provider W Ctx) (s : BrightnessSource Ctx) (w : W) :
    List (ManagedDisplay Ctx) × W := ([⟨s, (initialDimmer P s w).1⟩], (initialDimmer P s w).2)

theorem openDisplays_eq_thread (P : Provider W Ctx) (sources : List (BrightnessSource Ctx))
    (w : W) : openDisplays P sources w = thread (openPass P) sources w := by
  induction sources generalizing w with
  | nil => rfl
  | cons s sources ih =>
      rw [openDisplays, thread_cons]
      simp only [ih]
      rfl

namespace Controller

/-- One pass of the loop of `controller_service`. -/
def servicePass (P : Provider W Ctx) (m : ManagedDisplay Ctx) (w : W) :
    List (ManagedDisplay Ctx) × W := ([(serviceDisplay P m w).1], (serviceDisplay P m w).2.2)

theorem serviceDisplays_eq_thread (P : Provider W Ctx) (ms : List (ManagedDisplay Ctx)) (w : W) :
    ((serviceDisplays P ms w).1, (serviceDisplays P ms w).2.2) = thread (servicePass P) ms w := by
  induction ms generalizing w with
  | nil => rfl
  | cons m ms ih =>
      rw [thread_cons, servicePass, ← ih]
      rfl

/-- One pass of the first loop of `controller_reconcile`. -/
def nextPass (P : Provider W Ctx) (c : Controller Ctx) (s : BrightnessSource Ctx) (w : W) :
    List (ManagedDisplay Ctx) × W :=
  match c.matched s.id with
  | some dim => ([⟨s, dim⟩], w)
  | none => openPass P s w

theorem nextDisplays_eq_thread (P : Provider W Ctx) (c : Controller Ctx)
    (fresh : List (BrightnessSource Ctx)) (w : W) :
    nextDisplays P c fresh w = thread (nextPass P c) fresh w := by
  induction fresh generalizing w with
  | nil => rfl
  | cons s fresh ih =>
      rw [nextDisplays, thread_cons, nextPass]
      cases c.matched s.id with
      | some dim =>
          simp only [ih]
          rfl
      | none =>
          simp only [ih]
          rfl

/-- One pass of the second loop of `controller_reconcile`. -/
def closePass (P : Provider W Ctx) (fresh : List (BrightnessSource Ctx))
    (s : BrightnessSource Ctx) (w : W) : List (ManagedDisplay Ctx) × W :=
  ([], if survived fresh s then w else P.close s w)

theorem closeVanished_eq_thread (P : Provider W Ctx) (fresh sources : List (BrightnessSource Ctx))
    (w : W) : closeVanished P fresh sources w = (thread (closePass P fresh) sources w).2 := by
  induction sources generalizing w with
  | nil => rfl
  | cons s sources ih =>
      rw [closeVanished, thread_cons, closePass]
      split_ifs
      · exact ih w
      · exact ih _

end Controller

/-! ## Their unwinding -/

/-- The displays of mine. -/
def slice (mine : BrightnessSource Ctx → Bool) (ms : List (ManagedDisplay Ctx)) :
    List (ManagedDisplay Ctx) := ms.filter fun m ↦ mine m.src

/-- The ids of the sources tell which of them are mine. -/
def Tagged (mine : BrightnessSource Ctx → Bool) (tag : CString → Prop)
    (sources : List (BrightnessSource Ctx)) : Prop := ∀ s ∈ sources, mine s = true ↔ tag s.id

namespace Controller

variable {mine : BrightnessSource Ctx → Bool} {tag : CString → Prop} {c c' : Controller Ctx}

theorem Parallel.filter_sources (h : c.Parallel) :
    c.sources.filter mine = (slice mine c.displays).map (·.src) := by
  rw [← h, slice, List.filter_map]
  rfl

/-- A tagged id is looked for among the displays of mine. -/
theorem Parallel.matched_slice (h : c.Parallel) (ht : Tagged mine tag c.sources) {id : CString}
    (hid : tag id) :
    c.matched id = ((slice mine c.displays).find? fun m ↦ m.src.id == id).map (·.dim) := by
  rw [h.matched_eq, slice, List.find?_filter]
  congr 1
  refine List.find?_congr ?_
  intro m hm
  have hsrc : m.src ∈ c.sources := h ▸ List.mem_map_of_mem hm
  rw [Bool.eq_iff_iff, decide_eq_true_eq]
  refine (and_iff_right_of_imp ?_).symm
  intro hm'
  exact (ht m.src hsrc).mpr (beq_iff_eq.mp hm' ▸ hid)

theorem matched_eq_of_slice (h : c.Parallel) (h' : c'.Parallel) (ht : Tagged mine tag c.sources)
    (ht' : Tagged mine tag c'.sources) (hslice : slice mine c.displays = slice mine c'.displays)
    {id : CString} (hid : tag id) : c.matched id = c'.matched id := by
  rw [h.matched_slice ht hid, h'.matched_slice ht' hid, hslice]

/-- So is one among the fresh sources. -/
theorem survived_filter {fresh : List (BrightnessSource Ctx)} (ht : Tagged mine tag fresh)
    {s : BrightnessSource Ctx} (hs : tag s.id) :
    survived fresh s = survived (fresh.filter mine) s := by
  unfold survived
  rw [List.any_filter, Bool.eq_iff_iff, List.any_eq_true, List.any_eq_true]
  refine exists_congr fun f ↦ and_congr_right fun hf ↦ ?_
  rw [Bool.and_eq_true]
  refine (and_iff_right_of_imp ?_).symm
  intro hid
  exact (ht f hf).mpr (beq_iff_eq.mp hid ▸ hs)

end Controller

namespace Provider.Isolates

variable {P : Provider W Ctx} {mine : BrightnessSource Ctx → Bool} {tag : CString → Prop}
  {alike : W → W → Prop}

theorem initialDimmer_mine (hP : P.Isolates mine tag alike) {s : BrightnessSource Ctx} {w w' : W}
    (hs : mine s = true) (h : alike w w') :
    (initialDimmer P s w).1 = (initialDimmer P s w').1 ∧
      alike (initialDimmer P s w).2 (initialDimmer P s w').2 := by
  obtain ⟨hanswer, hw⟩ := hP.get_mine hs h
  rw [initialDimmer_fst, initialDimmer_fst, initialDimmer_snd, initialDimmer_snd, hanswer]
  exact ⟨rfl, hw⟩

theorem matches_openPass (hP : P.Isolates mine tag alike) (sources : List (BrightnessSource Ctx)) :
    Matches alike mine (fun m ↦ mine m.src) sources (openPass P) (openPass P) := by
  intro s _ hs w w' h
  obtain ⟨hdim, hw⟩ := hP.initialDimmer_mine hs h
  unfold openPass
  rw [hdim]
  exact ⟨rfl, hw⟩

theorem silent_openPass (hP : P.Isolates mine tag alike) (sources : List (BrightnessSource Ctx)) :
    Silent alike mine (fun m ↦ mine m.src) sources (openPass P) := by
  intro s _ hs w w' h
  refine ⟨List.filter_cons_of_neg (by simp [hs]), ?_⟩
  change alike (initialDimmer P s w).2 w'
  rw [initialDimmer_snd]
  exact hP.get_other hs h

theorem matches_servicePass (hP : P.Isolates mine tag alike) (ms : List (ManagedDisplay Ctx)) :
    Matches alike (fun m ↦ mine m.src) (fun m ↦ mine m.src) ms (Controller.servicePass P)
      (Controller.servicePass P) := by
  intro m _ hm w w' h
  have hpass : (Controller.serviceDisplay P m w).1 = (Controller.serviceDisplay P m w').1 ∧
      alike (Controller.serviceDisplay P m w).2.2 (Controller.serviceDisplay P m w').2.2 := by
    unfold Controller.serviceDisplay
    cases dimmerDue m.dim with
    | none => exact ⟨rfl, h⟩
    | some target =>
        obtain ⟨hok, hw⟩ := hP.set_mine (v := target) hm h
        rcases hset : P.set m.src target w with ⟨ok, x⟩
        rcases hset' : P.set m.src target w' with ⟨ok', x'⟩
        rw [hset, hset'] at hok hw
        obtain rfl : ok = ok' := hok
        simp only [hset, hset']
        cases ok <;> exact ⟨rfl, hw⟩
  unfold Controller.servicePass
  rw [hpass.1]
  exact ⟨rfl, hpass.2⟩

theorem silent_servicePass (hP : P.Isolates mine tag alike) (ms : List (ManagedDisplay Ctx)) :
    Silent alike (fun m ↦ mine m.src) (fun m ↦ mine m.src) ms (Controller.servicePass P) := by
  intro m _ hm w w' h
  refine ⟨List.filter_cons_of_neg (by simp [Controller.serviceDisplay_src, hm]), ?_⟩
  change alike (Controller.serviceDisplay P m w).2.2 w'
  unfold Controller.serviceDisplay
  cases dimmerDue m.dim with
  | none => exact h
  | some target =>
      have hw := hP.set_other (v := target) hm h
      rcases hset : P.set m.src target w with ⟨ok, x⟩
      rw [hset] at hw
      simp only [hset]
      cases ok <;> exact hw

theorem matches_nextPass (hP : P.Isolates mine tag alike) {c c' : Controller Ctx}
    {fresh : List (BrightnessSource Ctx)}
    (hc : ∀ s ∈ fresh, mine s = true → c.matched s.id = c'.matched s.id) :
    Matches alike mine (fun m ↦ mine m.src) fresh (Controller.nextPass P c)
      (Controller.nextPass P c') := by
  intro s hs hmine w w' h
  unfold Controller.nextPass
  rw [hc s hs hmine]
  cases c'.matched s.id with
  | some dim => exact ⟨rfl, h⟩
  | none => exact hP.matches_openPass fresh s hs hmine w w' h

theorem silent_nextPass (hP : P.Isolates mine tag alike) (c : Controller Ctx)
    (fresh : List (BrightnessSource Ctx)) :
    Silent alike mine (fun m ↦ mine m.src) fresh (Controller.nextPass P c) := by
  intro s hs hmine w w' h
  unfold Controller.nextPass
  cases c.matched s.id with
  | some dim => exact ⟨List.filter_cons_of_neg (by simp [hmine]), h⟩
  | none => exact hP.silent_openPass fresh s hs hmine w w' h

theorem matches_closePass (hP : P.Isolates mine tag alike)
    {fresh fresh' sources : List (BrightnessSource Ctx)}
    (hfresh : ∀ s ∈ sources, mine s = true →
      Controller.survived fresh s = Controller.survived fresh' s) :
    Matches alike mine (fun m ↦ mine m.src) sources (Controller.closePass P fresh)
      (Controller.closePass P fresh') := by
  intro s hs hmine w w' h
  refine ⟨rfl, ?_⟩
  unfold Controller.closePass
  rw [hfresh s hs hmine]
  split_ifs
  · exact h
  · exact hP.close_mine hmine h

theorem silent_closePass (hP : P.Isolates mine tag alike)
    (fresh sources : List (BrightnessSource Ctx)) :
    Silent alike mine (fun m ↦ mine m.src) sources (Controller.closePass P fresh) := by
  intro s _ hmine w w' h
  refine ⟨rfl, ?_⟩
  unfold Controller.closePass
  split_ifs
  · exact h
  · exact hP.close_other hmine h

/-! ## `controller_open` and `controller_reconcile` -/

theorem calloc_alike (hP : P.Isolates mine tag alike) (w : W) :
    (P.calloc w).1 = true ∧ alike (P.calloc w).2 w := hP.calloc (hP.equiv.refl w)

/-- `controller_open` opens a controller for the sources of an enumeration. -/
theorem controllerOpen_eq (hP : P.Isolates mine tag alike) (w : W) :
    ∃ w₁ sources x₁ x, alike w₁ w ∧ P.enumerate w₁ = (some sources, x₁) ∧ alike x x₁ ∧
      controllerOpen P w =
        (some ⟨sources, (openDisplays P sources x).1⟩, (openDisplays P sources x).2) := by
  obtain ⟨hok, halike⟩ := hP.calloc_alike w
  obtain ⟨w₁, hc, -⟩ | ⟨w₁, x₁, hc, hen, -⟩ | ⟨w₁, sources, x₁, x, hc, hen, -, hc', -⟩ |
    ⟨w₁, sources, x₁, x, hc, hen, hc', he⟩ := controllerOpen_cases P w
  · rw [hc] at hok
    cases hok
  · obtain ⟨_, _, _, _, hsome, -⟩ := hP.enumerate (hP.equiv.refl w₁)
    exact absurd (hen.symm.trans hsome) (by simp)
  · have hok' := (hP.calloc_alike x₁).1
    rw [hc'] at hok'
    cases hok'
  · rw [hc] at halike
    have hx : alike x x₁ := Provider.of_array (J := fun y ↦ alike y x₁) hc' (hP.equiv.refl x₁)
      (hP.calloc_alike x₁).2
    exact ⟨w₁, sources, x₁, x, halike, hen, hx, he⟩

/-- `controller_reconcile` adopts the sources of an enumeration. -/
theorem reconcile_eq (hP : P.Isolates mine tag alike) (c : Controller Ctx) (w : W) :
    ∃ fresh x₁ x, P.enumerate w = (some fresh, x₁) ∧ alike x x₁ ∧
      c.reconcile P w = c.adopt P fresh x := by
  obtain ⟨x₁, hen, -⟩ | ⟨fresh, x₁, x, hen, -, hc, -⟩ | ⟨fresh, x₁, x, hen, hc, he⟩ :=
    Controller.reconcile_cases P c w
  · obtain ⟨_, _, _, _, hsome, -⟩ := hP.enumerate (hP.equiv.refl w)
    exact absurd (hen.symm.trans hsome) (by simp)
  · have hok := (hP.calloc_alike x₁).1
    rw [hc] at hok
    cases hok
  · have hx : alike x x₁ := Provider.of_array (J := fun y ↦ alike y x₁) hc (hP.equiv.refl x₁)
      (hP.calloc_alike x₁).2
    exact ⟨fresh, x₁, x, hen, hx, he⟩

/-- Enumerations in alike worlds. -/
theorem enumerate_alike (hP : P.Isolates mine tag alike) {w w' x x' : W}
    {sources sources' : List (BrightnessSource Ctx)} (h : alike w w')
    (hen : P.enumerate w = (some sources, x)) (hen' : P.enumerate w' = (some sources', x')) :
    sources.filter mine = sources'.filter mine ∧ alike x x' := by
  obtain ⟨_, _, _, _, hen₁, hen₁', hmine, hx⟩ := hP.enumerate h
  cases hen.symm.trans hen₁
  cases hen'.symm.trans hen₁'
  exact ⟨hmine, hx⟩

/-- Two controllers that agree on the displays of mine adopt fresh sources that do. -/
theorem adopt (hP : P.Isolates mine tag alike) {c c' : Controller Ctx} (hp : c.Parallel)
    (hp' : c'.Parallel) (ht : Tagged mine tag c.sources) (ht' : Tagged mine tag c'.sources)
    (hslice : slice mine c.displays = slice mine c'.displays)
    {fresh fresh' : List (BrightnessSource Ctx)} (hf : Tagged mine tag fresh)
    (hf' : Tagged mine tag fresh') (hfresh : fresh.filter mine = fresh'.filter mine) {x x' : W}
    (hx : alike x x') :
    slice mine (c.adopt P fresh x).1.displays = slice mine (c'.adopt P fresh' x').1.displays ∧
      alike (c.adopt P fresh x).2 (c'.adopt P fresh' x').2 := by
  have hnext : slice mine (Controller.nextDisplays P c fresh x).1 =
      slice mine (Controller.nextDisplays P c' fresh' x').1 ∧
      alike (Controller.nextDisplays P c fresh x).2 (Controller.nextDisplays P c' fresh' x').2 := by
    rw [Controller.nextDisplays_eq_thread, Controller.nextDisplays_eq_thread]
    refine thread_unwind hP.equiv (hP.matches_nextPass ?_) (hP.matches_nextPass fun _ _ _ ↦ rfl)
      (hP.silent_nextPass c fresh) (hP.silent_nextPass c' fresh') hfresh hx
    intro s hs hmine
    exact Controller.matched_eq_of_slice hp hp' ht ht' hslice ((hf s hs).mp hmine)
  have hsources : c.sources.filter mine = c'.sources.filter mine := by
    rw [hp.filter_sources, hp'.filter_sources, hslice]
  refine ⟨hnext.1, ?_⟩
  change alike (Controller.closeVanished P fresh c.sources _)
    (Controller.closeVanished P fresh' c'.sources _)
  rw [Controller.closeVanished_eq_thread, Controller.closeVanished_eq_thread]
  refine (thread_unwind hP.equiv (hP.matches_closePass ?_) (hP.matches_closePass fun _ _ _ ↦ rfl)
    (hP.silent_closePass fresh c.sources) (hP.silent_closePass fresh' c'.sources) hsources
    hnext.2).2
  intro s hs hmine
  have hid : tag s.id := (ht s hs).mp hmine
  rw [Controller.survived_filter hf hid, Controller.survived_filter hf' hid, hfresh]

end Provider.Isolates

/-! ## Runs -/

/-- Two sessions that agree on the displays of mine. -/
structure Session.Alike (mine : BrightnessSource Ctx → Bool) (alike : W → W → Prop)
    (s t : Session W Ctx) : Prop where
  isSome_eq : s.controller.isSome = t.controller.isSome
  slice_eq : slice mine s.displays = slice mine t.displays
  world : alike s.world t.world

namespace Provider.Isolates

variable {P : Provider W Ctx} {mine : BrightnessSource Ctx → Bool} {tag : CString → Prop}
  {alike : W → W → Prop}

theorem start (hP : P.Isolates mine tag alike) {w w' : W} (h : alike w w') :
    (Session.start P w).Alike mine alike (Session.start P w') := by
  obtain ⟨w₁, sources, x₁, x, hw, hen, hx, he⟩ := hP.controllerOpen_eq w
  obtain ⟨w₁', sources', x₁', x', hw', hen', hx', he'⟩ := hP.controllerOpen_eq w'
  have hw₁ : alike w₁ w₁' := hP.equiv.trans (hP.equiv.trans hw h) (hP.equiv.symm hw')
  obtain ⟨hsources, hx₁⟩ := hP.enumerate_alike hw₁ hen hen'
  have hxx' : alike x x' := hP.equiv.trans (hP.equiv.trans hx hx₁) (hP.equiv.symm hx')
  have hopen : slice mine (openDisplays P sources x).1 =
      slice mine (openDisplays P sources' x').1 ∧
      alike (openDisplays P sources x).2 (openDisplays P sources' x').2 := by
    rw [openDisplays_eq_thread, openDisplays_eq_thread]
    exact thread_unwind hP.equiv (hP.matches_openPass sources) (hP.matches_openPass sources')
      (hP.silent_openPass sources) (hP.silent_openPass sources') hsources hxx'
  unfold Session.start
  rw [he, he']
  exact ⟨rfl, hopen.1, hopen.2⟩

/-- **One operation keeps two sessions alike.** -/
theorem step (hP : P.Isolates mine tag alike) {s t : Session W Ctx} (hs : s.Reachable P)
    (ht : t.Reachable P) (h : s.Alike mine alike t) (op : Op) :
    (s.step P op).Alike mine alike (t.step P op) := by
  have hparallel := hs.parallel
  have hparallel' := ht.parallel
  have htagged := hs.forall_sources (Q := Tagged mine tag) fun _ _ _ hen ↦ hP.tagged hen
  have htagged' := ht.forall_sources (Q := Tagged mine tag) fun _ _ _ hen ↦ hP.tagged hen
  obtain ⟨hsome, hslice, hworld⟩ := h
  obtain ⟨_ | c, w, results⟩ := s <;> obtain ⟨_ | c', w', results'⟩ := t
  · cases op <;> exact ⟨rfl, hslice, hworld⟩
  · cases hsome
  · cases hsome
  cases op with
  | adjust f =>
      refine ⟨rfl, ?_, hworld⟩
      change (c.displays.map (Controller.adjustDisplay f)).filter _ =
        (c'.displays.map (Controller.adjustDisplay f)).filter _
      rw [List.filter_map, List.filter_map]
      exact congrArg _ hslice
  | service =>
      obtain ⟨hdisplays, hx⟩ := thread_unwind hP.equiv (hP.matches_servicePass c.displays)
        (hP.matches_servicePass c'.displays) (hP.silent_servicePass c.displays)
        (hP.silent_servicePass c'.displays) hslice hworld
      rw [← Controller.serviceDisplays_eq_thread, ← Controller.serviceDisplays_eq_thread]
        at hdisplays hx
      exact ⟨rfl, hdisplays, hx⟩
  | reconcile =>
      obtain ⟨fresh, x₁, x, hen, hx, he⟩ := hP.reconcile_eq c w
      obtain ⟨fresh', x₁', x', hen', hx', he'⟩ := hP.reconcile_eq c' w'
      obtain ⟨hfresh, hx₁⟩ := hP.enumerate_alike hworld hen hen'
      have hxx' : alike x x' := hP.equiv.trans (hP.equiv.trans hx hx₁) (hP.equiv.symm hx')
      obtain ⟨hdisplays, hend⟩ := hP.adopt (hparallel c rfl) (hparallel' c' rfl) (htagged c rfl)
        (htagged' c' rfl) hslice (hP.tagged hen) (hP.tagged hen') hfresh hxx'
      rw [← he, ← he'] at hdisplays hend
      exact ⟨rfl, hdisplays, hend⟩

/-- **What happens to the others does not reach mine.** -/
theorem run (hP : P.Isolates mine tag alike) {v w : W} (h : alike v w) (ops : List Op) :
    ((Session.start P v).run P ops).Alike mine alike ((Session.start P w).run P ops) := by
  have hrun : ((Session.start P v).run P ops).Reachable P ∧
      ((Session.start P w).run P ops).Reachable P ∧
      ((Session.start P v).run P ops).Alike mine alike ((Session.start P w).run P ops) := by
    refine List.foldl_rel
      (r := fun (s t : Session W Ctx) ↦ s.Reachable P ∧ t.Reachable P ∧ s.Alike mine alike t) ?_ ?_
    · exact ⟨Session.reachable_start P v, Session.reachable_start P w, hP.start h⟩
    · rintro op - s t ⟨hs, ht, halike⟩
      exact ⟨hs.step op, ht.step op, hP.step hs ht halike op⟩
  exact hrun.2.2

end Provider.Isolates

/-! ## The calls of mine -/

/-- The calls of a log that go through sources of mine. -/
def callsOf (mine : BrightnessSource Ctx → Bool) (log : List (OpsEvent Ctx)) :
    List (OpsEvent Ctx) := log.filter fun e ↦ mine e.source

section Calls

variable {mine : BrightnessSource Ctx → Bool}

theorem callsOf_append_mine {log log' : List (OpsEvent Ctx)} {e : OpsEvent Ctx}
    (h : callsOf mine log = callsOf mine log') :
    callsOf mine (log ++ [e]) = callsOf mine (log' ++ [e]) := by
  unfold callsOf at h ⊢
  rw [List.filter_append, List.filter_append, h]

theorem callsOf_append_other {log log' : List (OpsEvent Ctx)} {e : OpsEvent Ctx}
    (he : mine e.source = false) (h : callsOf mine log = callsOf mine log') :
    callsOf mine (log ++ [e]) = callsOf mine log' := by
  unfold callsOf at h ⊢
  rw [List.filter_append, List.filter_cons_of_neg (by simp [he]), List.filter_nil, List.append_nil,
    h]

/-- A provider that isolates sources isolates their calls. -/
theorem Provider.Isolates.logged {P : Provider W Ctx} {tag : CString → Prop} {alike : W → W → Prop}
    (hP : P.Isolates mine tag alike) : P.logged.Isolates mine tag fun x y ↦
    alike x.1 y.1 ∧ callsOf mine x.2 = callsOf mine y.2 where
  equiv :=
    { refl := fun x ↦ ⟨hP.equiv.refl x.1, rfl⟩
      symm := fun h ↦ ⟨hP.equiv.symm h.1, h.2.symm⟩
      trans := fun h h' ↦ ⟨hP.equiv.trans h.1 h'.1, h.2.trans h'.2⟩ }
  calloc h := ⟨(hP.calloc h.1).1, (hP.calloc h.1).2, h.2⟩
  enumerate {x y} h := by
    obtain ⟨sources, w, sources', w', hen, hen', hmine, hw⟩ := hP.enumerate h.1
    refine ⟨sources, (w, x.2), sources', (w', y.2), ?_, ?_, hmine, hw, h.2⟩
    · change ((P.enumerate x.1).1, (P.enumerate x.1).2, x.2) = _
      rw [hen]
    · change ((P.enumerate y.1).1, (P.enumerate y.1).2, y.2) = _
      rw [hen']
  tagged {x sources x'} hen := by
    have hfst : (P.enumerate x.1).1 = some sources := congrArg Prod.fst hen
    exact hP.tagged (Prod.ext hfst rfl)
  get_mine {s x y} hs h := by
    obtain ⟨hanswer, hw⟩ := hP.get_mine hs h.1
    refine ⟨hanswer, hw, ?_⟩
    change callsOf mine (x.2 ++ [.get s (P.get s x.1).1]) =
      callsOf mine (y.2 ++ [.get s (P.get s y.1).1])
    rw [hanswer]
    exact callsOf_append_mine h.2
  get_other {s x y} hs h := ⟨hP.get_other hs h.1, callsOf_append_other hs h.2⟩
  set_mine {s v x y} hs h := by
    obtain ⟨hok, hw⟩ := hP.set_mine (v := v) hs h.1
    refine ⟨hok, hw, ?_⟩
    change callsOf mine (x.2 ++ [.set s v (P.set s v x.1).1]) =
      callsOf mine (y.2 ++ [.set s v (P.set s v y.1).1])
    rw [hok]
    exact callsOf_append_mine h.2
  set_other {s v x y} hs h := ⟨hP.set_other hs h.1, callsOf_append_other hs h.2⟩
  close_mine {s x y} hs h := ⟨hP.close_mine hs h.1, callsOf_append_mine h.2⟩
  close_other {s x y} hs h := ⟨hP.close_other hs h.1, callsOf_append_other hs h.2⟩

end Calls

end Dimmit
