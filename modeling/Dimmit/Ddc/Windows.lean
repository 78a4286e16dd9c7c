import Dimmit.Ddc.Builders

/-!
# The Windows list builder

`ddc_implementation_get_display_info_list` of `platform/ddc/windows.c`: the monitors the system
hands out are collected in an array that doubles, and each is then given a reference.  A monitor
is let go of by `DestroyPhysicalMonitor` only when a display is closed, so the builder keeps
every monitor that does not make it into the list.
-/

namespace Dimmit

open Ledger

variable {X : Type}

/-- What the system answers about an `HMONITOR`. -/
structure HMonitor (X : Type) where
  /-- `GetNumberOfPhysicalMonitorsFromHMONITOR`. -/
  number : Option Nat
  /-- `GetPhysicalMonitorsFromHMONITOR` for an array of the given size. -/
  physical : (n : Nat) → Option (Vector X n)

/-- `mon_accum_t`, without the count of the handles. -/
structure MonAccum (X : Type) where
  handles : List X
  capacity : Nat
  /-- The block the handles are in. -/
  block : Option AllocCall

/-- The loop of `collect_monitors` over the monitors of an `HMONITOR`. -/
def keepMonitors (a : Allocator) : List X → MonAccum X → Books X → MonAccum X × Books X
  | [], acc, b => (acc, b)
  | h :: hs, acc, b =>
    if acc.handles.length = acc.capacity then
      match b.realloc a acc.block with
      -- keep what we have
      | (none, b) => (acc, b)
      | (some grown, b) =>
        keepMonitors a hs
          { handles := acc.handles ++ [h]
            capacity := if acc.capacity ≠ 0 then acc.capacity * 2 else 4
            block := some grown } b
    else keepMonitors a hs { acc with handles := acc.handles ++ [h] } b

/-- `collect_monitors`. -/
def collectMonitors (a : Allocator) (m : HMonitor X) (acc : MonAccum X) (b : Books X) :
    MonAccum X × Books X :=
  match m.number with
  | none | some 0 => (acc, b)
  | some (n + 1) =>
    match b.calloc a with
    | (none, b) => (acc, b)
    | (some pm, b) =>
      match m.physical (n + 1) with
      | none => (acc, b.giveBack (.array pm))
      | some monitors =>
        let (acc, b) := keepMonitors a monitors.toList acc
          (b.obtainAll (monitors.toList.map .handle))
        (acc, b.giveBack (.array pm))

/-- `EnumDisplayMonitors` with `collect_monitors`. -/
def enumDisplayMonitors (a : Allocator) : List (HMonitor X) → MonAccum X → Books X →
    MonAccum X × Books X
  | [], acc, b => (acc, b)
  | m :: ms, acc, b =>
    let (acc, b) := collectMonitors a m acc b
    enumDisplayMonitors a ms acc b

/-- An entry of the list. -/
def windowsDisplayInfo (hmon : X) : DisplayInfo X where
  dref := hmon
  vendorId := 0
  productId := 0
  -- dxva2 can't tell; assume external
  isBuiltin := false

/-- `ddc_implementation_get_display_info_list` of `windows.c`. -/
def windowsGetDisplayInfoListBooked (a : Allocator) (ms : List (HMonitor X)) (b : Books X) :
    Option (BuiltList X) × Books X :=
  let (acc, b) := enumDisplayMonitors a ms ⟨[], 0, none⟩ b
  if acc.handles.length = 0 then (none, b.freeArray acc.block)
  else
    match b.malloc a .array with
    | (none, b) => (none, b.freeArray acc.block)
    | (some out, b) =>
      match b.calloc a with
      | (none, b) => (none, (b.giveBack (.array out)).freeArray acc.block)
      | (some info, b) =>
        match wrapRefs a windowsDisplayInfo acc.handles [] b with
        | (none, b) =>
          (none, ((b.giveBack (.array info)).giveBack (.array out)).freeArray acc.block)
        | (some refs, b) => (some ⟨out, some info, refs⟩, b.freeArray acc.block)

/-! ## What the system hands out -/

/-- How many arrays `collect_monitors` asks for to hold the monitors. -/
def HMonitor.asks (m : HMonitor X) : Nat :=
  match m.number with
  | none | some 0 => 0
  | some (_ + 1) => 1

/-- The monitors handed out for an `HMONITOR`, where so many arrays were asked for before. -/
def HMonitor.monitors (a : Allocator) (calls : Nat) (m : HMonitor X) : List X :=
  match m.number with
  | none | some 0 => []
  | some (n + 1) => if a.calloc calls then ((m.physical (n + 1)).map Vector.toList).getD [] else []

/-- The monitors handed out for each of them in turn. -/
def monitorsFrom (a : Allocator) : Nat → List (HMonitor X) → List X
  | _, [] => []
  | calls, m :: ms => m.monitors a calls ++ monitorsFrom a (calls + m.asks) ms

/-- How many arrays are asked for to hold them. -/
def arraysAsked (ms : List (HMonitor X)) : Nat := (ms.map HMonitor.asks).sum

/-- The capacity of the accumulator after so many calls of `realloc` that succeeded. -/
def accumCapacity : Nat → Nat
  | 0 => 0
  | n + 1 => 4 * 2 ^ n

theorem accumCapacity_succ (n : Nat) : accumCapacity (n + 1) =
    if accumCapacity n ≠ 0 then accumCapacity n * 2 else 4 := by
  cases n with
  | zero => rfl
  | succ n =>
      have hne : accumCapacity (n + 1) ≠ 0 := by simp [accumCapacity]
      rw [if_pos hne, accumCapacity, accumCapacity, Nat.pow_succ, Nat.mul_assoc]

theorem accumCapacity_lt_succ (n : Nat) : accumCapacity n < accumCapacity (n + 1) := by
  rw [accumCapacity_succ]
  split_ifs <;> omega

theorem accumCapacity_mono {m n : Nat} (h : m ≤ n) : accumCapacity m ≤ accumCapacity n :=
  monotone_nat_of_le_succ (fun n ↦ (accumCapacity_lt_succ n).le) h

/-! ## The accumulator -/

theorem length_keepMonitors_le (a : Allocator) (hs : List X) (acc : MonAccum X) (b : Books X) :
    (keepMonitors a hs acc b).1.handles.length ≤ acc.handles.length + hs.length := by
  induction hs generalizing acc b with
  | nil => exact Nat.le_refl _
  | cons h hs ih =>
      have hone (handles : List X) :
          (handles ++ [h]).length + hs.length = handles.length + (h :: hs).length := by
        simp only [List.length_append, List.length_cons, List.length_nil]
        omega
      rw [keepMonitors]
      by_cases hfull : acc.handles.length = acc.capacity
      · rw [if_pos hfull]
        rcases b.realloc a acc.block with ⟨_ | grown, b'⟩
        · exact Nat.le_add_right _ _
        · exact (ih _ b').trans (hone acc.handles).le
      · rw [if_neg hfull]
        exact (ih _ b).trans (hone acc.handles).le

/-- After `calls` calls of `realloc` the accumulator has all the monitors `got`, or it has fewer
and one of the calls that they made necessary failed. -/
def MonAccum.Collects (a : Allocator) (got : List X) (acc : MonAccum X) (calls : Nat) : Prop :=
  (acc.handles = got ∧ acc.capacity = accumCapacity calls ∧ got.length ≤ acc.capacity ∧
    ∀ j < calls, a.realloc j = true) ∨
  (acc.handles.length < got.length ∧ ∃ j, accumCapacity j < got.length ∧ a.realloc j = false)

namespace MonAccum.Collects

variable {a : Allocator} {got : List X} {acc : MonAccum X}

/-- The accumulator misses none exactly when every call that was necessary succeeded. -/
theorem length_eq_iff {calls : Nat} (h : acc.Collects a got calls) :
    acc.handles.length = got.length ↔ ∀ j, accumCapacity j < got.length → a.realloc j = true := by
  obtain ⟨rfl, hcap, hle, hok⟩ | ⟨hlt, j, hj, hbad⟩ := h
  · refine iff_of_true rfl fun j hj ↦ hok j ?_
    by_contra hge
    have := accumCapacity_mono (not_lt.mp hge)
    omega
  · refine iff_of_false hlt.ne fun hall ↦ ?_
    exact absurd (hbad.symm.trans (hall j hj)) (by decide)

theorem handles_eq {calls : Nat} (h : acc.Collects a got calls)
    (hlen : acc.handles.length = got.length) : acc.handles = got := by
  obtain ⟨heq, -⟩ | ⟨hlt, -⟩ := h
  · exact heq
  · exact absurd hlen hlt.ne

theorem length_le {calls : Nat} (h : acc.Collects a got calls) :
    acc.handles.length ≤ got.length := by
  obtain ⟨rfl, -⟩ | ⟨hlt, -⟩ := h
  · exact Nat.le_refl _
  · exact hlt.le

theorem keepMonitors [DecidableEq X] {b : Books X} (h : acc.Collects a got b.reallocs)
    (hs : List X) :
    (Dimmit.keepMonitors a hs acc b).1.Collects a (got ++ hs)
      (Dimmit.keepMonitors a hs acc b).2.reallocs := by
  obtain ⟨rfl, hcap, hle, hok⟩ | ⟨hlt, j, hj, hbad⟩ := h
  · induction hs generalizing acc b with
    | nil =>
        rw [List.append_nil]
        exact .inl ⟨rfl, hcap, hle, hok⟩
    | cons x hs ih =>
        rw [Dimmit.keepMonitors, ← List.singleton_append, ← List.append_assoc]
        by_cases hfull : acc.handles.length = acc.capacity
        · rw [if_pos hfull]
          have hneed : accumCapacity b.reallocs = acc.handles.length := (hfull.trans hcap).symm
          obtain ⟨hr, b', he, -, -, hr', -⟩ | ⟨hr, b', he, -⟩ := b.realloc_cases a acc.block
          · have hgrown : (if acc.capacity ≠ 0 then acc.capacity * 2 else 4) =
                accumCapacity b'.reallocs := by rw [hr', accumCapacity_succ, hcap]
            rw [he]
            refine @ih ⟨acc.handles ++ [x], _, some (.realloc b.reallocs)⟩ b' hgrown ?_ ?_
            · have hlt : (acc.handles ++ [x]).length ≤ accumCapacity (b.reallocs + 1) := by
                rw [List.length_append, ← hneed]
                exact accumCapacity_lt_succ b.reallocs
              rw [hgrown, hr']
              exact hlt
            · intro j hj
              rw [hr'] at hj
              rcases Nat.lt_succ_iff_lt_or_eq.mp hj with hj | rfl
              · exact hok j hj
              · exact hr
          · rw [he]
            refine .inr ⟨?_, b.reallocs, ?_, hr⟩
            · simp only [List.length_append, List.length_cons]
              omega
            · simp only [List.length_append, List.length_cons]
              omega
        · rw [if_neg hfull]
          refine @ih { acc with handles := acc.handles ++ [x] } b hcap ?_ hok
          rw [List.length_append]
          exact Nat.lt_of_le_of_ne hle hfull
  · have hshort := length_keepMonitors_le a hs acc b
    refine .inr ⟨?_, j, ?_, hbad⟩
    · rw [List.length_append]
      omega
    · rw [List.length_append]
      omega

end MonAccum.Collects

/-! ## The books of the accumulator -/

section Gathering

variable [DecidableEq X] (a : Allocator)

/-- A part of the enumeration that was handed the monitors `got` and asked for so many arrays. -/
structure Gathers (got : List X) (asks : Nat) (acc acc' : MonAccum X) (b b' : Books X) :
    Prop where
  mallocs_eq : b'.mallocs = b.mallocs
  callocs_eq : b'.callocs = b.callocs + asks
  /-- It holds those monitors and the block of the accumulator, and nothing else. -/
  grows : ∃ obtained, (got.map .handle).Sublist obtained ∧
    Grows b.log b'.log (Books.arrayBlock acc.block)
      (Books.arrayBlock acc'.block + Multiset.ofList (got.map .handle)) obtained
  collects : ∀ kept, acc.Collects a kept b.reallocs → acc'.Collects a (kept ++ got) b'.reallocs

namespace Gathers

variable {a}

/-- A part that hands out no monitors and leaves nothing behind. -/
theorem idle {asks : Nat} {acc : MonAccum X} {b b' : Books X} {obtained : List (Resource X)}
    (hm : b'.mallocs = b.mallocs) (hc : b'.callocs = b.callocs + asks)
    (hr : b'.reallocs = b.reallocs) (h : Grows b.log b'.log 0 0 obtained) :
    Gathers a [] asks acc acc b b' where
  mallocs_eq := hm
  callocs_eq := hc
  grows := ⟨obtained, List.nil_sublist obtained, by
    have hframe := h.frame (Books.arrayBlock acc.block)
    rw [zero_add] at hframe
    rw [List.map_nil, Multiset.coe_nil, add_zero]
    exact hframe⟩
  collects kept hk := by
    rw [List.append_nil, hr]
    exact hk

theorem refl (acc : MonAccum X) (b : Books X) : Gathers a [] 0 acc acc b b :=
  .idle rfl rfl rfl (.refl b.log 0)

theorem trans {got got' : List X} {asks asks' : Nat} {acc acc' acc'' : MonAccum X}
    {b b' b'' : Books X} (h : Gathers a got asks acc acc' b b')
    (h' : Gathers a got' asks' acc' acc'' b' b'') :
    Gathers a (got ++ got') (asks + asks') acc acc'' b b'' where
  mallocs_eq := h'.mallocs_eq.trans h.mallocs_eq
  callocs_eq := by
    rw [h'.callocs_eq, h.callocs_eq, Nat.add_assoc]
  grows := by
    obtain ⟨obtained, hsub, hgrow⟩ := h.grows
    obtain ⟨obtained', hsub', hgrow'⟩ := h'.grows
    refine ⟨obtained ++ obtained', ?_, ?_⟩
    · rw [List.map_append]
      exact hsub.append hsub'
    · have hall := hgrow.seq hgrow' rfl
      rw [add_assoc, add_comm (Multiset.ofList _), Multiset.coe_add] at hall
      rw [List.map_append]
      exact hall
  collects kept hk := by
    rw [← List.append_assoc]
    exact h'.collects _ (h.collects kept hk)

end Gathers

theorem keepMonitors_spec (hs : List X) (acc : MonAccum X) (b : Books X) :
    (keepMonitors a hs acc b).2.mallocs = b.mallocs ∧
    (keepMonitors a hs acc b).2.callocs = b.callocs ∧
    ∃ got, Grows b.log (keepMonitors a hs acc b).2.log (Books.arrayBlock acc.block)
      (Books.arrayBlock (keepMonitors a hs acc b).1.block) got := by
  induction hs generalizing acc b with
  | nil => exact ⟨rfl, rfl, [], .refl b.log _⟩
  | cons h hs ih =>
      rw [keepMonitors]
      by_cases hfull : acc.handles.length = acc.capacity
      · rw [if_pos hfull]
        obtain ⟨-, b', he, hm, hc, -, hgrow⟩ | ⟨-, b', he, hm, hc, hlog⟩ :=
          b.realloc_cases a acc.block <;> rw [he]
        · obtain ⟨hm', hc', got, hgrow'⟩ :=
            ih ⟨acc.handles ++ [h], _, some (.realloc b.reallocs)⟩ b'
          exact ⟨hm'.trans hm, hc'.trans hc, _, hgrow.trans hgrow'⟩
        · refine ⟨hm, hc, [], ?_⟩
          rw [hlog]
          exact .refl b.log _
      · rw [if_neg hfull]
        exact ih { acc with handles := acc.handles ++ [h] } b

theorem gathers_collectMonitors (m : HMonitor X) (acc : MonAccum X) (b : Books X) :
    Gathers a (m.monitors a b.callocs) m.asks acc (collectMonitors a m acc b).1 b
      (collectMonitors a m acc b).2 := by
  unfold collectMonitors HMonitor.monitors HMonitor.asks
  rcases m.number with _ | _ | n
  · exact .refl acc b
  · exact .refl acc b
  obtain ⟨hc, b₁, he, hm₁, hc₁, hr₁, hpm⟩ | ⟨hc, b₁, he, hm₁, hc₁, hr₁, hlog⟩ := b.calloc_cases a
  swap
  · simp only [he, hc, Bool.false_eq_true, if_false]
    have hsame : Grows b.log b₁.log 0 0 [] := by
      rw [hlog]
      exact .refl b.log 0
    exact .idle hm₁ hc₁ hr₁ hsame
  simp only [he, hc, if_true]
  cases m.physical (n + 1) with
  | none => exact .idle hm₁ hc₁ hr₁ (hpm.done (Books.grows_giveBack ..))
  | some v =>
      have hhanded := hpm.gain (b₁.grows_obtainAll (v.toList.map .handle))
      obtain ⟨hm₂, hc₂, got, hkept⟩ := keepMonitors_spec a v.toList acc
        (b₁.obtainAll (v.toList.map .handle))
      refine ⟨hm₂.trans hm₁, hc₂.trans hc₁, ?_, fun kept hk ↦ ?_⟩
      · have hall := (hhanded.frame (Books.arrayBlock acc.block)).seq hkept (add_comm _ _)
        rw [zero_add] at hall
        have hall := hall.drop (Books.grows_giveBack (.array (.calloc b.callocs)) _)
          (k := Books.arrayBlock (keepMonitors a v.toList acc
            (b₁.obtainAll (v.toList.map .handle))).1.block +
              Multiset.ofList (v.toList.map .handle)) (by abel)
        exact ⟨_, (List.sublist_append_right _ _).trans (List.sublist_append_left _ _), hall⟩
      · have hk₁ : acc.Collects a kept (b₁.obtainAll (v.toList.map .handle)).reallocs :=
          hr₁.symm ▸ hk
        exact hk₁.keepMonitors v.toList

theorem gathers_enumDisplayMonitors (ms : List (HMonitor X)) (acc : MonAccum X) (b : Books X) :
    Gathers a (monitorsFrom a b.callocs ms) (arraysAsked ms) acc
      (enumDisplayMonitors a ms acc b).1 b (enumDisplayMonitors a ms acc b).2 := by
  induction ms generalizing acc b with
  | nil => exact .refl acc b
  | cons m ms ih =>
      have hfirst := gathers_collectMonitors a m acc b
      have hrest := ih (collectMonitors a m acc b).1 (collectMonitors a m acc b).2
      rw [hfirst.callocs_eq] at hrest
      exact hfirst.trans hrest

/-- The allocations for the list itself and for so many references succeed. -/
def ListAllocated (asked refs : Nat) : Prop :=
  a.malloc 0 = true ∧ a.calloc asked = true ∧ ∀ i < refs, a.malloc (i + 1) = true

/-- What the builder leaves: every monitor it was handed, and the list of those it collected,
where it collected any and the list could be allocated. -/
theorem windowsGetDisplayInfoListBooked_cases (ms : List (HMonitor X)) :
    ∃ acc calls, MonAccum.Collects a (monitorsFrom a 0 ms) acc calls ∧
      ((¬ (acc.handles ≠ [] ∧ ListAllocated a (arraysAsked ms) acc.handles.length) ∧
        (windowsGetDisplayInfoListBooked a ms .blank).1 = none ∧ ∃ obtained,
          Grows [] (windowsGetDisplayInfoListBooked a ms .blank).2.log 0
            (Multiset.ofList ((monitorsFrom a 0 ms).map .handle)) obtained) ∨
      ((acc.handles ≠ [] ∧ ListAllocated a (arraysAsked ms) acc.handles.length) ∧
        ∃ l arrays obtained, (windowsGetDisplayInfoListBooked a ms .blank).1 = some l ∧
          l.refs.map Prod.snd = acc.handles.map windowsDisplayInfo ∧
          arrays.filter (·.tracked = true) = 0 ∧
          (refResources l.refs).Sublist obtained ∧
          ((monitorsFrom a 0 ms).map .handle).Sublist obtained ∧
          Grows [] (windowsGetDisplayInfoListBooked a ms .blank).2.log 0 (heldRefs l.refs +
            (Multiset.ofList ((monitorsFrom a 0 ms).map .handle) + arrays)) obtained)) := by
  have hg := gathers_enumDisplayMonitors a ms ⟨[], 0, none⟩ (Books.blank (X := X))
  have hstart : MonAccum.Collects a ([] : List X) ⟨[], 0, none⟩ 0 :=
    .inl ⟨rfl, rfl, Nat.le_refl 0, fun j hj ↦ absurd hj (Nat.not_lt_zero j)⟩
  rcases henum : enumDisplayMonitors a ms ⟨[], 0, none⟩ (Books.blank (X := X)) with ⟨acc, b⟩
  rw [henum] at hg
  have hm : b.mallocs = 0 := hg.mallocs_eq
  have hk : b.callocs = arraysAsked ms := hg.callocs_eq.trans (Nat.zero_add _)
  obtain ⟨obtained, hsub, hgrow⟩ := hg.grows
  change Grows [] b.log 0 _ obtained at hgrow
  refine ⟨acc, b.reallocs, hg.collects [] hstart, ?_⟩
  rw [windowsGetDisplayInfoListBooked, henum]
  change ((monitorsFrom a 0 ms).map .handle).Sublist obtained at hsub
  change Grows [] b.log 0 (_ + Multiset.ofList ((monitorsFrom a 0 ms).map .handle)) _ at hgrow
  generalize (monitorsFrom a 0 ms).map Resource.handle = monitors at hsub hgrow ⊢
  by_cases hzero : acc.handles.length = 0
  · simp only [if_pos hzero]
    exact .inl ⟨fun h ↦ h.1 (List.eq_nil_of_length_eq_zero hzero), trivial, _,
      hgrow.drop (Books.grows_freeArray ..) rfl⟩
  have hne : acc.handles ≠ [] := mt List.length_eq_zero_iff.mpr hzero
  simp only [if_neg hzero]
  obtain ⟨h₁, b₁, he₁, hm₁, hk₁, -, hout⟩ | ⟨h₁, b₁, he₁, hlog⟩ := b.malloc_cases a .array <;>
    rw [hm] at h₁ <;> simp only [he₁]
  swap
  · rw [← hlog] at hgrow
    exact .inl ⟨fun h ↦ absurd (h₁.symm.trans h.2.1) (by decide), trivial, obtained,
      hgrow.drop (Books.grows_freeArray ..) rfl⟩
  have hgrow := hgrow.gain hout
  obtain ⟨h₂, b₂, he₂, hm₂, -, -, hinfo⟩ | ⟨h₂, b₂, he₂, -, -, -, hlog⟩ := b₁.calloc_cases a <;>
    rw [hk₁, hk] at h₂ <;> simp only [he₂]
  swap
  · rw [← hlog] at hgrow
    exact .inl ⟨fun h ↦ absurd (h₂.symm.trans h.2.2.1) (by decide), trivial, _,
      (hgrow.drop (Books.grows_giveBack ..) rfl).drop (Books.grows_freeArray ..) rfl⟩
  have hgrow := hgrow.gain hinfo
  have hcount (i : Nat) : b₂.mallocs + i = i + 1 := by omega
  obtain ⟨h₃, new, b₃, he₃, hnew, hrefs⟩ | ⟨⟨i, hi, h₃⟩, got, b₃, he₃, hrefs⟩ :=
    wrapRefs_cases a windowsDisplayInfo acc.handles [] b₂ <;> simp only [he₃]
  · have hall := (hgrow.gain hrefs).drop (b₃.grows_freeArray acc.block)
      (k := heldRefs new + (Multiset.ofList monitors +
        ({.array (.calloc b₁.callocs)} + {.array (.malloc b.mallocs)}))) (by abel)
    refine .inr ⟨⟨hne, h₁, h₂, fun i hi ↦ hcount i ▸ h₃ i hi⟩, _, _, _, rfl, hnew, ?_,
      List.sublist_append_right _ _, ?_, hall⟩
    · rw [Multiset.filter_add, filter_tracked_array, filter_tracked_array, add_zero]
    · exact ((hsub.trans (List.sublist_append_left _ _)).trans
        (List.sublist_append_left _ _)).trans (List.sublist_append_left _ _)
  · rw [hcount] at h₃
    have hfreed : Grows b₂.log b₃.log 0 0 got := hrefs
    have hgrow := hgrow.gain hfreed
    rw [zero_add] at hgrow
    exact .inl ⟨fun h ↦ absurd (h₃.symm.trans (h.2.2.2 i hi)) (by decide), trivial, _,
      ((hgrow.drop (Books.grows_giveBack ..) rfl).drop (Books.grows_giveBack ..) rfl).drop
        (Books.grows_freeArray ..) rfl⟩

omit [DecidableEq X] in
theorem filter_tracked_handles (xs : List X) :
    (Multiset.ofList (xs.map Resource.handle)).filter (·.tracked = true) =
      Multiset.ofList (xs.map .handle) := by
  refine Multiset.filter_eq_self.mpr fun r hr ↦ ?_
  obtain ⟨x, -, rfl⟩ := List.mem_map.mp (Multiset.mem_coe.mp hr)
  rfl

/-- The Windows builder is clean where it is handed no monitors, and where no allocation that the
monitors make necessary fails. -/
def WindowsSpared (ms : List (HMonitor X)) : Prop :=
  monitorsFrom a 0 ms = [] ∨
    (∀ j, accumCapacity j < (monitorsFrom a 0 ms).length → a.realloc j = true) ∧
    ListAllocated a (arraysAsked ms) (monitorsFrom a 0 ms).length

theorem windows_clean_iff (ms : List (HMonitor X)) :
    Clean (fun info ↦ [info.dref]) (windowsGetDisplayInfoListBooked a ms .blank).1
      (windowsGetDisplayInfoListBooked a ms .blank).2.log ↔ WindowsSpared a ms := by
  obtain ⟨acc, calls, hc, ⟨hnot, he, obtained, hgrow⟩ |
    ⟨⟨hne, hlist⟩, l, arrays, obtained, he, hrefs, harrays, hsub, hsub', hgrow⟩⟩ :=
    windowsGetDisplayInfoListBooked_cases a ms
  · rw [he]
    obtain ⟨-, hheld, -⟩ := hgrow.of_nil
    constructor
    · intro hclean
      have hzero := hheld.symm.trans (hclean.error rfl)
      exact .inl (by simpa using hzero)
    · intro hspared
      have hnil : monitorsFrom a 0 ms = [] := by
        by_contra hne
        obtain ⟨hr, hlist⟩ := hspared.resolve_left hne
        rw [hc.handles_eq (hc.length_eq_iff.mpr hr)] at hnot
        exact hnot ⟨hne, hlist⟩
      rw [hnil] at hgrow
      exact clean_of_error hgrow
  · have hcarried : carriedResources (X := X) (fun info ↦ [info.dref]) l.refs =
        acc.handles.map .handle := by
      have hdrefs := congrArg (List.map DisplayInfo.dref) hrefs
      rw [List.map_map, List.map_map] at hdrefs
      rw [carriedResources, ← List.map_eq_flatMap]
      exact congrArg (List.map Resource.handle) (hdrefs.trans (List.map_id _))
    obtain ⟨hd, hheld, hgot⟩ := hgrow.of_nil
    have hkept : (heldAfter 0 (windowsGetDisplayInfoListBooked a ms .blank).2.log).filter
        (·.tracked = true) =
        heldRefs l.refs + Multiset.ofList ((monitorsFrom a 0 ms).map .handle) := by
      rw [hheld, Multiset.filter_add, Multiset.filter_add, filter_tracked_heldRefs, harrays,
        add_zero, filter_tracked_handles]
    rw [he]
    constructor
    · intro hclean
      have hlisted := hclean.listed l rfl
      rw [hkept, hcarried, heldRefs, Multiset.coe_add] at hlisted
      have hlen : acc.handles.length = (monitorsFrom a 0 ms).length := by
        have hcard := congrArg Multiset.card hlisted
        simp only [Multiset.coe_card, List.length_append, List.length_map] at hcard
        omega
      exact .inr ⟨hc.length_eq_iff.mp hlen, hlen ▸ hlist⟩
    · intro hspared
      have hall : acc.handles = monitorsFrom a 0 ms := by
        obtain hnil | ⟨hr, -⟩ := hspared
        · have hle := hc.length_le
          rw [hnil] at hle
          exact absurd (List.eq_nil_of_length_eq_zero (Nat.le_zero.mp hle)) hne
        · exact hc.handles_eq (hc.length_eq_iff.mpr hr)
      refine ⟨hd, fun hnone ↦ absurd hnone (Option.some_ne_none l), ?_, ?_⟩
      · rintro _ ⟨⟩
        rw [hkept, hcarried, hall, heldRefs, Multiset.coe_add]
      · rintro _ ⟨⟩
        rw [hgot, hcarried, hall]
        exact ⟨hsub, hsub'⟩

/-! ## The three builders -/

/-- Which builders leave nothing behind: the one of Linux always, those of NetBSD and Windows
exactly where no allocation fails too late. -/
theorem builders_release_iff (D : Type) :
    (∀ (st : Int) (dl : Option (List (DdcaDisplayInfo D))),
      Clean (fun _ ↦ []) (linuxGetDisplayInfoListBooked a st dl .blank).1
        (linuxGetDisplayInfoListBooked a st dl .blank).2.log) ∧
    (∀ device, Clean (fun _ ↦ []) (netbsdGetDisplayInfoListBooked a device .blank).1
      (netbsdGetDisplayInfoListBooked a device .blank).2.log ↔ NetbsdSpared a device) ∧
    ∀ ms : List (HMonitor X),
      Clean (fun info ↦ [info.dref]) (windowsGetDisplayInfoListBooked a ms .blank).1
        (windowsGetDisplayInfoListBooked a ms .blank).2.log ↔ WindowsSpared a ms :=
  ⟨linux_clean a, netbsd_clean_iff a, windows_clean_iff a⟩

end Gathering

/-- With two devices and a failure for the second, NetBSD leaves the reference of the first.  With
one monitor and no memory for the list, Windows leaves the monitor. -/
theorem builders_leak :
    let noThird : Allocator := ⟨fun n ↦ n ≠ 2, fun _ ↦ true, fun _ ↦ true⟩
    let noMalloc : Allocator := ⟨fun _ ↦ false, fun _ ↦ true, fun _ ↦ true⟩
    let netbsd := netbsdGetDisplayInfoListBooked noThird
      (fun path ↦ if path ∈ netbsdPaths.take 2 then .answers else .absent) .blank
    let windows := windowsGetDisplayInfoListBooked noMalloc
      [⟨some 1, fun n ↦ some (Vector.replicate n 'm')⟩] .blank
    (netbsd.1 = none ∧ heldAfter 0 netbsd.2.log = {.ref (.malloc 1)} ∧
      ¬ Clean (fun _ ↦ []) netbsd.1 netbsd.2.log) ∧
    (windows.1 = none ∧ heldAfter 0 windows.2.log = {.handle 'm'} ∧
      ¬ Clean (fun info ↦ [info.dref]) windows.1 windows.2.log) := by
  refine ⟨⟨by decide, by decide, fun h ↦ ?_⟩, ⟨by decide, by decide, fun h ↦ ?_⟩⟩
  · exact absurd (h.error (by decide)) (by decide)
  · exact absurd (h.error (by decide)) (by decide)

end Dimmit
