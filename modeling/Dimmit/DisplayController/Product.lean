import Mathlib.Data.List.Induction
import Mathlib.Logic.Function.Basic
import Dimmit.Ddc.Enumeration

/-!
# The controller is a product of single dimmers

The environment of a run is a *script* for each operation: what the enumeration returns, what
each display answers when it is read and whether its write succeeds.  Displays are named by
their ids, which within one enumeration are distinct, so a script is the most general
environment of a single operation.

Against it stands the specification, which has no arrays: a display that is managed under the
id `k` behaves as a dimmer of its own, started from the reading taken when `k` last entered the
set, that sees the presses and the outcomes of its own writes and nothing else.  Every
operation of the controller preserves this (`Behaves`), whatever the order of the arrays.

That scripts are general enough is a theorem too: over any provider whose enumerations give their
displays different ids, as that of the DDC sources does, every run follows some scripts.
-/

namespace Dimmit

variable {W R H Ctx : Type}

/-- The environment of one operation. -/
structure Script (Ctx : Type) where
  /-- Outcomes of the allocations, in order; those beyond the list succeed. -/
  allocs : List Bool
  /-- What `brightness_enumerate` returns. -/
  enumeration : Option (List (BrightnessSource Ctx))
  /-- What `ops->get` answers for each display. -/
  reading : CString → Option (Int × Int)
  /-- Whether `ops->set` succeeds for each display. -/
  write : CString → Bool

/-- The provider that follows the script. -/
def scripted : Provider (Script Ctx) Ctx where
  enumerate e := (e.enumeration, e)
  get s e := (e.reading s.id, e)
  set s _ e := (e.write s.id, e)
  close _ e := e
  calloc e := (e.allocs.headD true, { e with allocs := e.allocs.tail })

section Scripted

variable (e : Script Ctx) (s : BrightnessSource Ctx) (value : Int)

@[simp] theorem scripted_enumerate : scripted.enumerate e = (e.enumeration, e) := rfl
@[simp] theorem scripted_get : scripted.get s e = (e.reading s.id, e) := rfl
@[simp] theorem scripted_set : scripted.set s value e = (e.write s.id, e) := rfl
@[simp] theorem scripted_calloc :
    scripted.calloc e = (e.allocs.headD true, { e with allocs := e.allocs.tail }) := rfl

end Scripted

/-- An operation and its environment. -/
abbrev ScriptedOp (Ctx : Type) := Script Ctx × Op

/-- A run in which each operation meets the environment its script says. -/
def scriptedRun (e₀ : Script Ctx) (steps : List (ScriptedOp Ctx)) : Session (Script Ctx) Ctx :=
  steps.foldl (fun s st ↦ { s with world := st.1 }.step scripted st.2)
    (Session.start scripted e₀)

theorem scriptedRun_append_singleton (e₀ : Script Ctx) (steps : List (ScriptedOp Ctx))
    (st : ScriptedOp Ctx) : scriptedRun e₀ (steps ++ [st]) =
      { scriptedRun e₀ steps with world := st.1 }.step scripted st.2 := by
  simp [scriptedRun, List.foldl_append]

/-! ## One display alone -/

/-- The sources an operation adopts: those of a reconcile whose enumeration and array
allocation both succeed. -/
def adopted (st : ScriptedOp Ctx) : Option (List (BrightnessSource Ctx)) :=
  match st.2 with
  | .adjust _ | .service => none
  | .reconcile => st.1.enumeration.filter fun fresh ↦ fresh.isEmpty || st.1.allocs.headD true

/-- The sources adopted last, from those `controller_open` adopted. -/
def lastAdopted (e₀ : Script Ctx) (steps : List (ScriptedOp Ctx)) :
    List (BrightnessSource Ctx) :=
  steps.foldl (fun sources st ↦ (adopted st).getD sources) (e₀.enumeration.getD [])

theorem lastAdopted_append_singleton (e₀ : Script Ctx) (steps : List (ScriptedOp Ctx))
    (st : ScriptedOp Ctx) :
    lastAdopted e₀ (steps ++ [st]) = (adopted st).getD (lastAdopted e₀ steps) := by
  simp [lastAdopted, List.foldl_append]

/-- Whether the id is among those of the sources. -/
def Manages (sources : List (BrightnessSource Ctx)) (k : CString) : Prop :=
  k ∈ sources.map (·.id)

/-- The first dimmer of a display: from its reading, or 0 of 100 when that failed. -/
def firstDimmer (e : Script Ctx) (k : CString) : Dimmer :=
  match e.reading k with
  | some (cur, max) => dimmerInit cur max
  | none => dimmerInit 0 100

/-- A first dimmer is a matter of the reading. -/
theorem firstDimmer_congr {e e' : Script Ctx} {k : CString} (h : e.reading k = e'.reading k) :
    firstDimmer e k = firstDimmer e' k := by
  unfold firstDimmer
  rw [h]

/-- A dimmer alone: it sees the presses and the outcomes of its own writes. -/
def runAlone (k : CString) (d : Dimmer) (steps : List (ScriptedOp Ctx)) : Dimmer :=
  steps.foldl (fun d st ↦ dimmerOp (st.1.write k) d st.2) d

/-- No operation adopts a set without `k`. -/
def Stays (k : CString) (steps : List (ScriptedOp Ctx)) : Prop :=
  ∀ st ∈ steps, ∀ fresh ∈ adopted st, Manages fresh k

/-- `d` is the dimmer of `k` alone since `k` last entered the set, at the opening or at a
reconcile that adopted it when it was not managed. -/
def Behaves (e₀ : Script Ctx) (steps : List (ScriptedOp Ctx)) (k : CString) (d : Dimmer) : Prop :=
  (Manages (lastAdopted e₀ []) k ∧ Stays k steps ∧ d = runAlone k (firstDimmer e₀ k) steps) ∨
  ∃ before e since, steps = before ++ (e, .reconcile) :: since ∧
    ¬ Manages (lastAdopted e₀ before) k ∧ (∃ fresh ∈ adopted (e, .reconcile), Manages fresh k) ∧
    Stays k since ∧ d = runAlone k (firstDimmer e k) since

theorem Stays.append_singleton {k : CString} {steps : List (ScriptedOp Ctx)} (h : Stays k steps)
    {st : ScriptedOp Ctx} (hst : ∀ fresh ∈ adopted st, Manages fresh k) :
    Stays k (steps ++ [st]) := by
  intro st' hmem
  rcases List.mem_append.mp hmem with hmem | hmem
  · exact h st' hmem
  · rw [List.mem_singleton] at hmem
    exact hmem ▸ hst

theorem runAlone_append_singleton (k : CString) (d : Dimmer) (steps : List (ScriptedOp Ctx))
    (st : ScriptedOp Ctx) :
    runAlone k d (steps ++ [st]) = dimmerOp (st.1.write k) (runAlone k d steps) st.2 := by
  simp [runAlone, List.foldl_append]

/-- A display that stays goes on alone. -/
theorem Behaves.append_singleton {e₀ : Script Ctx} {steps : List (ScriptedOp Ctx)} {k : CString}
    {d : Dimmer} (h : Behaves e₀ steps k d) {st : ScriptedOp Ctx}
    (hst : ∀ fresh ∈ adopted st, Manages fresh k) :
    Behaves e₀ (steps ++ [st]) k (dimmerOp (st.1.write k) d st.2) := by
  rcases h with ⟨hm, hs, rfl⟩ | ⟨before, e, since, rfl, hm, hf, hs, rfl⟩
  · exact .inl ⟨hm, hs.append_singleton hst, (runAlone_append_singleton ..).symm⟩
  · exact .inr ⟨before, e, since ++ [st], by simp, hm, hf, hs.append_singleton hst,
      (runAlone_append_singleton ..).symm⟩

/-- A display that was not managed starts from its own reading. -/
theorem Behaves.enters {e₀ : Script Ctx} {steps : List (ScriptedOp Ctx)} {k : CString}
    {e : Script Ctx} (hm : ¬ Manages (lastAdopted e₀ steps) k)
    {fresh : List (BrightnessSource Ctx)} (hf : fresh ∈ adopted (e, .reconcile))
    (hk : Manages fresh k) :
    Behaves e₀ (steps ++ [(e, .reconcile)]) k (firstDimmer e k) :=
  .inr ⟨steps, e, [], rfl, hm, ⟨fresh, hf, hk⟩, (fun _ h ↦ nomatch h), rfl⟩

/-! ## The code follows the script -/

theorem initialDimmer_scripted (s : BrightnessSource Ctx) (e : Script Ctx) :
    initialDimmer scripted s e = (firstDimmer e s.id, e) := by
  rw [initialDimmer, scripted_get, firstDimmer]
  cases e.reading s.id <;> rfl

/-- No call changes a script but the allocations it counts. -/
theorem scripted_keeps (reading : CString → Option (Int × Int)) :
    Provider.Keeps (@scripted Ctx) fun e ↦ e.reading = reading where
  enumerate h := h
  get _ h := h
  close _ h := h
  calloc h := h

theorem openDisplays_scripted (sources : List (BrightnessSource Ctx)) (e : Script Ctx) :
    (openDisplays scripted sources e).1 = sources.map fun s ↦ ⟨s, firstDimmer e s.id⟩ := by
  refine (scripted_keeps e.reading).openDisplays_eq (fun s e' h ↦ ?_) sources rfl
  rw [initialDimmer_scripted]
  exact firstDimmer_congr (congrFun h s.id)

theorem controllerOpen_scripted (e : Script Ctx) :
    ∀ c ∈ (controllerOpen scripted e).1, ∃ sources, e.enumeration = some sources ∧
      c = ⟨sources, sources.map fun s ↦ ⟨s, firstDimmer e s.id⟩⟩ := by
  intro c hc
  obtain ⟨e₁, sources, e₂, e₃, hcalloc, hen, hcalloc', -, rfl⟩ := controllerOpen_eq_some hc
  obtain ⟨-, rfl⟩ := Prod.mk.inj hcalloc
  obtain ⟨hen', rfl⟩ := Prod.mk.inj hen
  have hreading : e₃.reading = e.reading := by
    obtain ⟨-, rfl⟩ | ⟨-, hcalloc'⟩ := hcalloc'
    · rfl
    · obtain ⟨-, rfl⟩ := Prod.mk.inj hcalloc'
      rfl
  refine ⟨sources, hen', ?_⟩
  rw [openDisplays_scripted]
  unfold firstDimmer
  rw [hreading]

theorem serviceDisplays_scripted (displays : List (ManagedDisplay Ctx)) (e : Script Ctx) :
    (Controller.serviceDisplays scripted displays e).1 =
      displays.map fun m ↦ { m with dim := dimmerServiced m.dim (e.write m.src.id) } := by
  have hworld (m : ManagedDisplay Ctx) : (Controller.serviceDisplay scripted m e).2.2 = e := by
    rw [Controller.serviceDisplay]
    cases dimmerDue m.dim with
    | none => rfl
    | some target =>
        simp only [scripted_set]
        cases e.write m.src.id <;> rfl
  induction displays with
  | nil => rfl
  | cons m displays ih =>
      change (Controller.serviceDisplay scripted m e).1 ::
        (Controller.serviceDisplays scripted displays
          (Controller.serviceDisplay scripted m e).2.2).1 = _
      rw [hworld, ih, List.map_cons, Controller.serviceDisplay_eq]
      congr 2
      unfold Controller.writeOutcome dimmerServiced
      cases dimmerDue m.dim <;> rfl

theorem nextDisplays_scripted (c : Controller Ctx) (fresh : List (BrightnessSource Ctx))
    (e : Script Ctx) : (Controller.nextDisplays scripted c fresh e).1 =
      fresh.map fun s ↦ ⟨s, (c.matched s.id).getD (firstDimmer e s.id)⟩ := by
  refine (scripted_keeps e.reading).nextDisplays_eq (fun s e' h ↦ ?_) c fresh rfl
  rw [initialDimmer_scripted]
  exact firstDimmer_congr (congrFun h s.id)

/-- A scripted reconcile adopts what the script says, or keeps the controller. -/
theorem reconcile_scripted (c : Controller Ctx) (e : Script Ctx) :
    (c.reconcile scripted e).1 = match adopted (e, .reconcile) with
      | none => c
      | some fresh =>
        ⟨fresh, fresh.map fun s ↦ ⟨s, (c.matched s.id).getD (firstDimmer e s.id)⟩⟩ := by
  have hadopt (fresh : List (BrightnessSource Ctx)) (e' : Script Ctx)
      (h : e'.reading = e.reading) : (c.adopt scripted fresh e').1 =
        ⟨fresh, fresh.map fun s ↦ ⟨s, (c.matched s.id).getD (firstDimmer e s.id)⟩⟩ := by
    rw [Controller.adopt]
    refine congrArg (Controller.mk fresh) ((nextDisplays_scripted c fresh e').trans ?_)
    unfold firstDimmer
    rw [h]
  rw [Controller.reconcile, scripted_enumerate, adopted]
  cases e.enumeration with
  | none => rfl
  | some fresh =>
      cases fresh with
      | nil => exact hadopt [] e rfl
      | cons s fresh =>
          simp only [List.length_cons, gt_iff_lt, Nat.zero_lt_succ, if_true, scripted_calloc,
            Option.filter, List.isEmpty_cons, Bool.false_or]
          cases e.allocs.headD true with
          | false => rfl
          | true => exact hadopt (s :: fresh) _ rfl

/-! ## The simulation -/

/-- The controller is the product: its sources are those adopted last, its displays are the same
in the same order, and each behaves alone. -/
structure IsProduct (e₀ : Script Ctx) (steps : List (ScriptedOp Ctx)) (c : Controller Ctx) :
    Prop where
  sources : c.sources = lastAdopted e₀ steps
  parallel : c.Parallel
  behaves : ∀ m ∈ c.displays, Behaves e₀ steps m.src.id m.dim

namespace IsProduct

variable {e₀ : Script Ctx} {steps : List (ScriptedOp Ctx)} {c : Controller Ctx}

theorem opened (e₀ : Script Ctx) : ∀ c ∈ (controllerOpen scripted e₀).1, IsProduct e₀ [] c := by
  intro c hc
  have hp := parallel_controllerOpen scripted e₀ c hc
  obtain ⟨sources, hen, rfl⟩ := controllerOpen_scripted e₀ c hc
  have hs : lastAdopted e₀ [] = sources := by rw [lastAdopted, List.foldl_nil, hen]; rfl
  refine ⟨hs.symm, hp, ?_⟩
  intro m hm
  obtain ⟨s, hmem, rfl⟩ := List.mem_map.mp hm
  have hk : Manages (lastAdopted e₀ []) s.id := hs ▸ List.mem_map_of_mem hmem
  exact .inl ⟨hk, (fun _ h ↦ nomatch h), rfl⟩

theorem adjust (h : IsProduct e₀ steps c) (e : Script Ctx) (f : ℚ) :
    IsProduct e₀ (steps ++ [(e, .adjust f)]) (c.adjust f) where
  sources := by rw [lastAdopted_append_singleton]; exact h.sources
  parallel := h.parallel.adjust f
  behaves := by
    intro m hm
    obtain ⟨m, hm', rfl⟩ := List.mem_map.mp hm
    exact (h.behaves m hm').append_singleton (by rintro _ ⟨⟩)

theorem service (h : IsProduct e₀ steps c) (e : Script Ctx) :
    IsProduct e₀ (steps ++ [(e, .service)]) (c.service scripted e).1 where
  sources := by rw [lastAdopted_append_singleton]; exact h.sources
  parallel := h.parallel.service scripted e
  behaves := by
    intro m hm
    change m ∈ (Controller.serviceDisplays scripted c.displays e).1 at hm
    rw [serviceDisplays_scripted] at hm
    obtain ⟨m, hm', rfl⟩ := List.mem_map.mp hm
    exact (h.behaves m hm').append_singleton (by rintro _ ⟨⟩)

theorem reconcile (h : IsProduct e₀ steps c) (e : Script Ctx) :
    IsProduct e₀ (steps ++ [(e, .reconcile)]) (c.reconcile scripted e).1 := by
  have hp := h.parallel.reconcile scripted e
  rw [reconcile_scripted] at hp ⊢
  cases ha : adopted (e, .reconcile) with
  | none =>
      have hst : ∀ fresh ∈ adopted (e, .reconcile), False := by
        rintro _ hf
        rw [ha] at hf
        cases hf
      refine ⟨?_, h.parallel, fun m hm ↦ ?_⟩
      · rw [lastAdopted_append_singleton, ha]
        exact h.sources
      · exact (h.behaves m hm).append_singleton fun fresh hf ↦ (hst fresh hf).elim
  | some fresh =>
      rw [ha] at hp
      refine ⟨by rw [lastAdopted_append_singleton, ha]; rfl, hp, ?_⟩
      intro m hm
      obtain ⟨s, hs, rfl⟩ := List.mem_map.mp hm
      have hk : Manages fresh s.id := List.mem_map_of_mem hs
      change Behaves e₀ _ s.id ((c.matched s.id).getD (firstDimmer e s.id))
      rw [h.parallel.matched_eq]
      cases hfind : c.displays.find? fun m ↦ m.src.id == s.id with
      | none =>
          -- no old source has this id, so the display enters the set
          refine Behaves.enters ?_ ha hk
          rw [← h.sources, ← h.parallel, Manages, List.map_map]
          intro hmem
          obtain ⟨m, hm, hid⟩ := List.mem_map.mp hmem
          exact List.find?_eq_none.mp hfind m hm (by simpa using hid)
      | some m =>
          have hid : m.src.id = s.id := by simpa using List.find?_some hfind
          have hst : ∀ fresh' ∈ adopted (e, .reconcile), Manages fresh' m.src.id := by
            intro fresh' hf
            rw [ha] at hf
            cases hf
            exact hid ▸ hk
          rw [← hid]
          exact (h.behaves m (List.mem_of_find?_eq_some hfind)).append_singleton hst

end IsProduct

/-- The opening meets no failure: the controller, the enumeration and the array of displays are
there. -/
def Script.Opens (e : Script Ctx) : Prop :=
  e.allocs.headD true = true ∧
    ∃ sources, e.enumeration = some sources ∧ (sources = [] ∨ e.allocs.tail.headD true = true)

/-- `controller_open` returns a controller exactly when it meets no failure. -/
theorem controllerOpen_scripted_isSome (e : Script Ctx) :
    (controllerOpen scripted e).1 ≠ none ↔ e.Opens := by
  obtain ⟨_, hc, he⟩ | ⟨e₁, _, hc, hen, he⟩ | ⟨e₁, sources, e₂, _, hc, hen, hne, hc', he⟩ |
    ⟨e₁, sources, e₂, _, hc, hen, hc', he⟩ := controllerOpen_cases scripted e
  · obtain ⟨hfst, -⟩ := Prod.mk.inj hc
    exact iff_of_false (by simp [he]) fun h ↦ absurd (h.1.symm.trans hfst) (by simp)
  · obtain ⟨-, rfl⟩ := Prod.mk.inj hc
    obtain ⟨hnone, -⟩ := Prod.mk.inj hen
    refine iff_of_false (by simp [he]) ?_
    rintro ⟨-, sources, hsome, -⟩
    exact absurd (hsome.symm.trans hnone) (by simp)
  · obtain ⟨-, rfl⟩ := Prod.mk.inj hc
    obtain ⟨hsources, rfl⟩ := Prod.mk.inj hen
    obtain ⟨hfst, -⟩ := Prod.mk.inj hc'
    refine iff_of_false (by simp [he]) ?_
    rintro ⟨-, sources', hsome, hempty | halloc⟩
    · exact hne (Option.some.inj (hsources.symm.trans (hsome.trans (congrArg some hempty))))
    · exact absurd (halloc.symm.trans hfst) (by simp)
  · obtain ⟨hfst, rfl⟩ := Prod.mk.inj hc
    obtain ⟨hsources, rfl⟩ := Prod.mk.inj hen
    refine iff_of_true (by simp [he]) ⟨hfst, sources, hsources, ?_⟩
    obtain ⟨hempty, -⟩ | ⟨-, hc'⟩ := hc'
    · exact .inl hempty
    · exact .inr (Prod.mk.inj hc').1

/-- A controller that was opened stays. -/
theorem scriptedRun_controller_ne_none (e₀ : Script Ctx) (steps : List (ScriptedOp Ctx)) :
    (scriptedRun e₀ steps).controller ≠ none ↔ e₀.Opens := by
  induction steps using List.reverseRecOn with
  | nil => exact controllerOpen_scripted_isSome e₀
  | append_singleton steps st ih =>
      rw [scriptedRun_append_singleton, ← ih]
      obtain ⟨e, op⟩ := st
      generalize scriptedRun e₀ steps = s
      obtain ⟨_ | c, w, results⟩ := s <;> cases op <;>
        simp [Session.step, controllerAdjust, controllerService, controllerReconcile]

theorem isProduct_scriptedRun (e₀ : Script Ctx) (steps : List (ScriptedOp Ctx)) :
    ∀ c ∈ (scriptedRun e₀ steps).controller, IsProduct e₀ steps c := by
  induction steps using List.reverseRecOn with
  | nil => exact IsProduct.opened e₀
  | append_singleton steps st ih =>
      rw [scriptedRun_append_singleton]
      obtain ⟨e, op⟩ := st
      generalize scriptedRun e₀ steps = s at ih ⊢
      obtain ⟨_ | c, w, results⟩ := s
      · cases op <;> intro c hc <;> cases hc
      · have hc : IsProduct e₀ steps c := ih c rfl
        cases op with
        | adjust f => rintro _ ⟨⟩; exact hc.adjust e f
        | service => rintro _ ⟨⟩; exact hc.service e
        | reconcile => rintro _ ⟨⟩; exact hc.reconcile e

/-- **The controller is a product of independent single dimmers keyed by id.**  After every
sequence of operations, whatever each of them meets, there is a controller exactly when
`controller_open` met no failure; its managed displays are in order the sources adopted last, and
the dimmer of each managed id is that of the display alone since it last entered the set. -/
theorem controller_is_product (e₀ : Script Ctx) (steps : List (ScriptedOp Ctx)) :
    ((scriptedRun e₀ steps).controller ≠ none ↔ e₀.Opens) ∧
    ∀ c ∈ (scriptedRun e₀ steps).controller,
      c.sources = lastAdopted e₀ steps ∧ c.displays.map (·.src) = lastAdopted e₀ steps ∧
      ∀ m ∈ c.displays, Behaves e₀ steps m.src.id m.dim := by
  refine ⟨scriptedRun_controller_ne_none e₀ steps, fun c hc ↦ ?_⟩
  have h := isProduct_scriptedRun e₀ steps c hc
  exact ⟨h.sources, h.parallel.trans h.sources, h.behaves⟩

/-- A press, then a poll that swaps the two displays and brings a third, then a pass in which
the write to the one that was not readable fails. -/
theorem controller_is_product_reordered :
    let a : BrightnessSource Nat := ⟨0, ['a'], []⟩
    let b : BrightnessSource Nat := ⟨1, ['b'], []⟩
    let new : BrightnessSource Nat := ⟨2, ['c'], []⟩
    let e₀ : Script Nat := ⟨[], some [a, b], fun k ↦ if k = a.id then some (50, 100) else none,
      fun _ ↦ true⟩
    let e : Script Nat := ⟨[], some [b, a, new], fun _ ↦ some (10, 200), fun k ↦ k != b.id⟩
    let steps : List (ScriptedOp Nat) := [(e, .adjust (1 / 16)), (e, .reconcile), (e, .service)]
    ∃ c, (scriptedRun e₀ steps).controller = some c ∧
      c.displays = [⟨b, ⟨0, 100, 0⟩⟩, ⟨a, ⟨56, 100, 0⟩⟩, ⟨new, ⟨10, 200, 0⟩⟩] ∧
      c.displays.map (·.src) = lastAdopted e₀ steps ∧
      ∀ m ∈ c.displays, Behaves e₀ steps m.src.id m.dim := by
  intro a b new e₀ e steps
  have hopens : e₀.Opens := ⟨rfl, [a, b], rfl, .inr rfl⟩
  obtain ⟨hsome, hproduct⟩ := controller_is_product e₀ steps
  obtain ⟨c, hc⟩ := Option.ne_none_iff_exists'.mp (hsome.mpr hopens)
  have hdisplays : (scriptedRun e₀ steps).displays =
      [⟨b, ⟨0, 100, 0⟩⟩, ⟨a, ⟨56, 100, 0⟩⟩, ⟨new, ⟨10, 200, 0⟩⟩] := by
    decide +kernel
  rw [Session.displays, hc] at hdisplays
  obtain ⟨-, hsrc, hbehaves⟩ := hproduct c hc
  exact ⟨c, hc, hdisplays, hsrc, hbehaves⟩

/-! ## Every run follows scripts -/

/-- Each enumeration gives its displays different ids. -/
def Provider.Distinct (P : Provider W Ctx) : Prop :=
  ∀ w sources w', P.enumerate w = (some sources, w') → (sources.map (·.id)).Nodup

/-- The readings of displays with different ids make a script. -/
theorem exists_readings (P : Provider W Ctx) (c : Controller Ctx)
    {fresh : List (BrightnessSource Ctx)} (hn : (fresh.map (·.id)).Nodup) (w : W) :
    ∃ reading, ∀ e : Script Ctx, e.reading = reading →
      (Controller.nextDisplays P c fresh w).1 =
        fresh.map fun s ↦ ⟨s, (c.matched s.id).getD (firstDimmer e s.id)⟩ := by
  induction fresh generalizing w with
  | nil => exact ⟨fun _ ↦ none, fun _ _ ↦ rfl⟩
  | cons s fresh ih =>
      obtain ⟨hs, hn⟩ := List.nodup_cons.mp hn
      unfold Controller.nextDisplays
      cases hm : c.matched s.id with
      | some dim =>
          obtain ⟨reading, hreading⟩ := ih hn w
          refine ⟨reading, fun e he ↦ ?_⟩
          rw [List.map_cons, ← hreading e he, hm]
          rfl
      | none =>
          -- the display is read, and its reading is kept under its id
          obtain ⟨reading, hreading⟩ := ih hn (initialDimmer P s w).2
          refine ⟨Function.update reading s.id (P.get s w).1, fun e he ↦ ?_⟩
          have hhead : (initialDimmer P s w).1 = firstDimmer e s.id := by
            rw [initialDimmer_fst, firstDimmer, he, Function.update_self]
            cases (P.get s w).1 <;> rfl
          have htail : ∀ s' ∈ fresh, firstDimmer e s'.id =
              firstDimmer { e with reading := reading } s'.id := by
            intro s' hs'
            have hne : s'.id ≠ s.id := fun hid ↦ hs (List.mem_map.mpr ⟨s', hs', hid⟩)
            refine firstDimmer_congr ?_
            rw [he]
            exact Function.update_of_ne hne _ reading
          rw [List.map_cons, hm]
          refine congrArg₂ List.cons (congrArg (ManagedDisplay.mk s) hhead) ?_
          refine (hreading { e with reading := reading } rfl).trans ?_
          exact List.map_congr_left fun s' hs' ↦ by rw [htail s' hs']

theorem openDisplays_eq_nextDisplays (P : Provider W Ctx) (sources : List (BrightnessSource Ctx))
    (w : W) : openDisplays P sources w = Controller.nextDisplays P ⟨[], []⟩ sources w := by
  induction sources generalizing w with
  | nil => rfl
  | cons s sources ih =>
      have hrest := ih (initialDimmer P s w).2
      exact congrArg (fun r : List (ManagedDisplay Ctx) × W ↦
        (ManagedDisplay.mk s (initialDimmer P s w).1 :: r.1, r.2)) hrest

/-- A scripted write with the same outcome is the same step. -/
theorem serviceDisplay_scripted {P : Provider W Ctx} {m : ManagedDisplay Ctx} {w : W}
    {e : Script Ctx} (h : e.write m.src.id = Controller.writeOutcome P m w) :
    Controller.serviceDisplay scripted m e =
      ((Controller.serviceDisplay P m w).1, (Controller.serviceDisplay P m w).2.1, e) := by
  unfold Controller.writeOutcome at h
  unfold Controller.serviceDisplay
  cases hd : dimmerDue m.dim with
  | none => rfl
  | some target =>
      rw [hd] at h
      simp only [scripted_set, h]
      rcases P.set m.src target w with ⟨_ | _, w'⟩ <;> rfl

/-- The outcomes of the writes of displays with different ids make a script too. -/
theorem exists_writes (P : Provider W Ctx) {ms : List (ManagedDisplay Ctx)}
    (hn : (ms.map (·.src.id)).Nodup) (w : W) :
    ∃ write : CString → Bool, ∀ e : Script Ctx, (∀ m ∈ ms, e.write m.src.id = write m.src.id) →
      Controller.serviceDisplays scripted ms e =
        ((Controller.serviceDisplays P ms w).1, (Controller.serviceDisplays P ms w).2.1, e) := by
  induction ms generalizing w with
  | nil => exact ⟨fun _ ↦ true, fun _ _ ↦ rfl⟩
  | cons m ms ih =>
      obtain ⟨hm, hn⟩ := List.nodup_cons.mp hn
      obtain ⟨write, hwrite⟩ := ih hn (Controller.serviceDisplay P m w).2.2
      refine ⟨Function.update write m.src.id (Controller.writeOutcome P m w), fun e he ↦ ?_⟩
      obtain ⟨hhead, htail⟩ := List.forall_mem_cons.mp he
      rw [Function.update_self] at hhead
      have hfirst := serviceDisplay_scripted hhead
      have hrest := hwrite e fun m' hm' ↦ (htail m' hm').trans <|
        Function.update_of_ne (fun hid ↦ hm (List.mem_map.mpr ⟨m', hm', hid⟩)) _ write
      unfold Controller.serviceDisplays
      rw [hfirst]
      dsimp only
      rw [hrest]

namespace Session

variable {P : Provider W Ctx} {s : Session W Ctx}

/-- The scripted session has the controller of the other, and has serviced what it has. -/
def Follows (t : Session (Script Ctx) Ctx) (s : Session W Ctx) : Prop :=
  t.controller = s.controller ∧ t.serviced = s.serviced

/-- Some script opens what the provider opens. -/
theorem exists_script_start (hP : P.Distinct) (w : W) :
    ∃ e, (start scripted e).Follows (start P w) := by
  have hnone {e : Script Ctx} (h : ¬ e.Opens) (hw : (controllerOpen P w).1 = none) :
      (start scripted e).Follows (start P w) :=
    ⟨(not_not.mp ((controllerOpen_scripted_isSome e).not.mpr h)).trans hw.symm, rfl⟩
  obtain ⟨_, -, he⟩ | ⟨_, _, -, -, he⟩ | ⟨_, sources, _, _, -, -, hne, -, he⟩ |
    ⟨_, sources, _, w₃, -, hen, -, he⟩ := controllerOpen_cases P w
  · exact ⟨⟨[false], none, fun _ ↦ none, fun _ ↦ true⟩,
      hnone (fun h ↦ Bool.false_ne_true h.1) (by rw [he])⟩
  · refine ⟨⟨[], none, fun _ ↦ none, fun _ ↦ true⟩, hnone ?_ (by rw [he])⟩
    rintro ⟨-, _, hsome, -⟩
    cases hsome
  · refine ⟨⟨[true, false], some sources, fun _ ↦ none, fun _ ↦ true⟩, hnone ?_ (by rw [he])⟩
    rintro ⟨-, _, ⟨⟩, hempty | halloc⟩
    · exact hne hempty
    · cases halloc
  · obtain ⟨reading, hreading⟩ := exists_readings P ⟨[], []⟩ (hP _ _ _ hen) w₃
    let e : Script Ctx := ⟨[], some sources, reading, fun _ ↦ true⟩
    have hopens : e.Opens := ⟨rfl, sources, rfl, .inr rfl⟩
    obtain ⟨c, hc⟩ := Option.ne_none_iff_exists'.mp ((controllerOpen_scripted_isSome e).mpr hopens)
    obtain ⟨_, ⟨⟩, rfl⟩ := controllerOpen_scripted e c hc
    refine ⟨e, ?_, rfl⟩
    change (controllerOpen scripted e).1 = (controllerOpen P w).1
    rw [hc, he, openDisplays_eq_nextDisplays, hreading e rfl]
    rfl

/-- Some script follows each operation. -/
theorem Follows.exists_script_step (hP : P.Distinct) {t : Session (Script Ctx) Ctx}
    (h : t.Follows s) (hs : s.Reachable P) (op : Op) :
    ∃ e, ({ t with world := e }.step scripted op).Follows (s.step P op) := by
  have hpar := hs.parallel
  have hids : ∀ c ∈ s.controller, (c.sources.map (·.id)).Nodup := hs.forall_sources hP
  obtain ⟨tc, tw, tserviced⟩ := t
  obtain ⟨c, w, serviced⟩ := s
  obtain ⟨rfl, rfl⟩ : tc = c ∧ tserviced = serviced := h
  cases tc with
  | none => cases op <;> exact ⟨⟨[], none, fun _ ↦ none, fun _ ↦ true⟩, rfl, rfl⟩
  | some c =>
      cases op with
      | adjust fraction => exact ⟨⟨[], none, fun _ ↦ none, fun _ ↦ true⟩, rfl, rfl⟩
      | service =>
          have hn : (c.displays.map (·.src.id)).Nodup := by
            rw [(hpar c rfl).map_id]
            exact hids c rfl
          obtain ⟨write, hwrite⟩ := exists_writes P hn w
          have hpass := hwrite ⟨[], none, fun _ ↦ none, write⟩ fun _ _ ↦ rfl
          refine ⟨⟨[], none, fun _ ↦ none, write⟩, ?_, ?_⟩
          · change some (Controller.service scripted c _).1 = some (Controller.service P c w).1
            unfold Controller.service
            rw [hpass]
          · change tserviced ++ [(Controller.service scripted c _).2.1] =
              tserviced ++ [(Controller.service P c w).2.1]
            unfold Controller.service
            rw [hpass]
      | reconcile =>
          have hfollows {e : Script Ctx}
              (he : (c.reconcile scripted e).1 = (c.reconcile P w).1) :
              (step scripted ⟨some c, e, tserviced⟩ .reconcile).Follows
                (step P ⟨some c, w, tserviced⟩ .reconcile) := ⟨congrArg some he, rfl⟩
          obtain ⟨_, -, he⟩ | ⟨fresh, _, _, -, hne, -, he⟩ | ⟨fresh, _, w'', hen, -, he⟩ :=
            Controller.reconcile_cases P c w
          · exact ⟨⟨[], none, fun _ ↦ none, fun _ ↦ true⟩, hfollows (by rw [he]; rfl)⟩
          · refine ⟨⟨[false], some fresh, fun _ ↦ none, fun _ ↦ true⟩, hfollows ?_⟩
            rw [he, reconcile_scripted, adopted]
            cases fresh with
            | nil => exact absurd rfl hne
            | cons s fresh => rfl
          · obtain ⟨reading, hreading⟩ := exists_readings P c (hP _ _ _ hen) w''
            let e : Script Ctx := ⟨[], some fresh, reading, fun _ ↦ true⟩
            have hadopted : adopted (e, .reconcile) = some fresh := if_pos (Bool.or_true _)
            refine ⟨e, hfollows ?_⟩
            rw [he, reconcile_scripted, hadopted]
            exact congrArg (Controller.mk fresh) (hreading e rfl).symm

end Session

/-- **Every run follows scripts**, over a provider whose enumerations give their displays different
ids: the scripted run of the same operations has the same controller and has serviced the same. -/
theorem exists_scriptedRun {P : Provider W Ctx} (hP : P.Distinct) (w : W) (ops : List Op) :
    ∃ e₀ steps, steps.map Prod.snd = ops ∧
      (scriptedRun e₀ steps).Follows ((Session.start P w).run P ops) := by
  induction ops using List.reverseRecOn with
  | nil =>
      obtain ⟨e₀, h⟩ := Session.exists_script_start hP w
      exact ⟨e₀, [], rfl, h⟩
  | append_singleton ops op ih =>
      obtain ⟨e₀, steps, rfl, h⟩ := ih
      obtain ⟨e, he⟩ := h.exists_script_step hP
        ((Session.reachable_start P w).run (steps.map Prod.snd)) op
      refine ⟨e₀, steps ++ [(e, op)], by rw [List.map_append]; rfl, ?_⟩
      rw [scriptedRun_append_singleton, Session.run_append]
      exact he

/-- So in every run over DDC sources the controller is the product of single dimmers. -/
theorem exists_isProduct_run (impl : Implementation W R H) (w : W) (ops : List Op) :
    ∃ e₀ steps, steps.map Prod.snd = ops ∧
      ∀ c ∈ ((Session.start (ddcProvider impl) w).run (ddcProvider impl) ops).controller,
        IsProduct e₀ steps c := by
  have hP : (ddcProvider impl).Distinct := fun _ _ _ h ↦ nodup_ids_ddcEnumerateSources h
  obtain ⟨e₀, steps, hops, hcontroller, -⟩ := exists_scriptedRun hP w ops
  refine ⟨e₀, steps, hops, fun c hc ↦ isProduct_scriptedRun e₀ steps c ?_⟩
  rw [hcontroller]
  exact hc

end Dimmit
