import Dimmit.Ddc.Bench
import Dimmit.Ddc.Enumeration
import Dimmit.Ddc.Handles

/-!
# What an enumeration returns and what it costs

`ddc_enumerate_sources` once more, this time with its status and its out-parameters: the array
at `*out` is allocated with a slot for each listed display and compacted through a second index,
so `*count` is less than its size wherever a display is skipped.

Each external display of the list is tried once, and there are three ways for that to end
(`Attempt`).  The sources returned, the log of the call and the account of its handles are all
read off the list of these attempts.
-/

namespace Dimmit

open Ledger

variable {W R H : Type}

/-- The status of `ddc_enumerate_sources`, `*out` and `*count`. -/
structure EnumerateAnswer (H : Type) where
  status : Int
  /-- `NULL`, or the array, whose slots are `none` until they are written. -/
  out : Option (List (Option (BrightnessSource H)))
  count : Nat
deriving DecidableEq

/-- The sources a caller finds at `(*out)[0..*count)`. -/
def EnumerateAnswer.sources (a : EnumerateAnswer H) : List (BrightnessSource H) :=
  ((a.out.getD []).take a.count).filterMap id

/-- The loop of `ddc_enumerate_sources` from position `i` on, with `n` entries in `arr`. -/
def fillSources (impl : Implementation W R H) : Nat → List (DisplayInfo R) →
    List (Option (BrightnessSource H)) → Nat → W → (List (Option (BrightnessSource H)) × Nat) × W
  | _, [], arr, n, w => ((arr, n), w)
  | i, info :: infos, arr, n, w =>
    if info.isBuiltin then fillSources impl (i + 1) infos arr n w
    else
      match impl.openDisplay info.dref w with
      | (none, w) => fillSources impl (i + 1) infos arr n w
      | (some h, w) =>
        match impl.getNonTableVcpValue h vcpBrightness w with
        | (none, w) => fillSources impl (i + 1) infos arr n (impl.closeDisplay h w)
        | (some _, w) =>
          fillSources impl (i + 1) infos (arr.set n (some (displaySource i info h))) (n + 1) w

/-- `ddc_enumerate_sources`, with its out-parameters. -/
def ddcEnumerateSourcesOut (impl : Implementation W R H) (w : W) : EnumerateAnswer H × W :=
  match impl.getDisplayInfoList w with
  | (none, w) => (⟨0, none, 0⟩, w)
  | (some dlist, w) =>
    match impl.calloc w with
    | (false, w) => (⟨-1, none, 0⟩, impl.freeDisplayInfoList dlist w)
    | (true, w) =>
      let ((arr, n), w) :=
        fillSources impl 0 dlist.info (List.replicate dlist.info.length none) 0 w
      let w := impl.freeDisplayInfoList dlist w
      -- `free(arr)` when nothing was kept
      if n = 0 then (⟨0, none, 0⟩, w) else (⟨0, some arr, n⟩, w)

/-! ## The array is the list of the entries kept -/

/-- Where there is room for the rest of the list, the loop writes each entry it keeps to the next
free slot. -/
theorem fillSources_eq (impl : Implementation W R H) (infos : List (DisplayInfo R)) (i : Nat)
    (kept : List (BrightnessSource H)) (w : W) {room : Nat} (hroom : infos.length ≤ room) :
    fillSources impl i infos (kept.map some ++ List.replicate room none) kept.length w =
      (((kept ++ (enumerateFrom impl i infos w).1).map some ++
          List.replicate (room - (enumerateFrom impl i infos w).1.length) none,
        (kept ++ (enumerateFrom impl i infos w).1).length), (enumerateFrom impl i infos w).2) := by
  induction infos generalizing i kept w room with
  | nil => simp [fillSources, enumerateFrom]
  | cons info infos ih =>
      rw [List.length_cons] at hroom
      have hrest : infos.length ≤ room := by omega
      rw [fillSources, enumerateFrom]
      cases info.isBuiltin with
      | true => exact ih _ kept w hrest
      | false =>
          rcases impl.openDisplay info.dref w with ⟨_ | h, w'⟩
          · exact ih _ kept w' hrest
          rcases hr : impl.getNonTableVcpValue h vcpBrightness w' with ⟨_ | v, w''⟩
          · simpa only [hr, Bool.false_eq_true, if_false] using ih _ kept _ hrest
          · obtain ⟨room, rfl⟩ : ∃ room', room = room' + 1 := ⟨room - 1, by omega⟩
            have hset : (kept.map some ++ List.replicate (room + 1) none).set kept.length
                (some (displaySource i info h)) =
                (kept ++ [displaySource i info h]).map some ++ List.replicate room none := by
              rw [List.set_append_right _ _ (by rw [List.length_map]), List.length_map,
                Nat.sub_self, List.replicate_succ, List.set_cons_zero, List.map_append,
                List.append_assoc]
              rfl
            have ih := ih (i + 1) (kept ++ [displaySource i info h]) w''
              (Nat.le_of_succ_le_succ hroom)
            rw [List.length_append] at ih
            simp only [hr, hset, Bool.false_eq_true, if_false]
            simpa [Nat.add_sub_add_right] using ih

/-- The call returned 0 and these sources; without any, it left `*out` at `NULL`. -/
structure EnumerateAnswer.Carries (a : EnumerateAnswer H) (sources : List (BrightnessSource H)) :
    Prop where
  status_eq : a.status = 0
  sources_eq : a.sources = sources
  count_eq : a.count = sources.length
  out_eq_none : a.out = none ↔ sources = []

theorem EnumerateAnswer.carries_nil :
    (⟨0, none, 0⟩ : EnumerateAnswer H).Carries [] := ⟨rfl, rfl, rfl, by simp⟩

/-- An array with the sources in its first slots carries them. -/
theorem EnumerateAnswer.carries_fill {sources : List (BrightnessSource H)} (h : sources ≠ [])
    (rest : List (Option (BrightnessSource H))) :
    (⟨0, some (sources.map some ++ rest), sources.length⟩ : EnumerateAnswer H).Carries sources where
  status_eq := rfl
  sources_eq := by
    rw [EnumerateAnswer.sources, Option.getD_some, List.take_left' (List.length_map ..),
      List.filterMap_map]
    exact List.filterMap_some
  count_eq := rfl
  out_eq_none := by simp [h]

/-- The array and its count carry what `ddcEnumerateSources` gives as a list. -/
theorem ddcEnumerateSourcesOut_cases (impl : Implementation W R H) (w : W) :
    (∃ w', ddcEnumerateSources impl w = (none, w') ∧
      ddcEnumerateSourcesOut impl w = (⟨-1, none, 0⟩, w')) ∨
    ∃ sources w' a, ddcEnumerateSources impl w = (some sources, w') ∧
      ddcEnumerateSourcesOut impl w = (a, w') ∧ a.Carries sources := by
  unfold ddcEnumerateSources ddcEnumerateSourcesOut
  rcases impl.getDisplayInfoList w with ⟨_ | dlist, w'⟩
  · exact .inr ⟨[], w', ⟨0, none, 0⟩, rfl, rfl, EnumerateAnswer.carries_nil⟩
  rcases hc : impl.calloc w' with ⟨_ | _, w''⟩
  · refine .inl ⟨impl.freeDisplayInfoList dlist w'', ?_, ?_⟩ <;> simp only [hc]
  have hfill := fillSources_eq impl dlist.info 0 [] w'' (Nat.le_refl dlist.info.length)
  simp only [List.map_nil, List.nil_append, List.length_nil] at hfill
  simp only [hc, hfill]
  rcases enumerateFrom impl 0 dlist.info w'' with ⟨sources, w₁⟩
  by_cases hn : sources = []
  · subst hn
    exact .inr ⟨[], _, _, rfl, rfl, EnumerateAnswer.carries_nil⟩
  · rw [if_neg (mt List.length_eq_zero_iff.mp hn)]
    exact .inr ⟨sources, _, _, rfl, rfl, EnumerateAnswer.carries_fill hn _⟩

/-! ## One attempt for each external display -/

/-- What became of an external display. -/
inductive Attempt (H : Type) where
  /-- It did not open. -/
  | refused
  /-- It opened as `h`, did not answer the initial read and was closed. -/
  | silent (h : H)
  /-- It opened as `h` and answered `v`. -/
  | answered (h : H) (v : NonTableVcpValue)
deriving DecidableEq, Repr

/-- The calls made for a display. -/
def Attempt.events (dref : R) : Attempt H → List (DdcEvent R H)
  | .refused => [.opened dref none]
  | .silent h => [.opened dref (some h), .read h vcpBrightness none, .closed h]
  | .answered h v => [.opened dref (some h), .read h vcpBrightness (some v)]

/-- The source a display becomes: one that opened and answered, with its own handle. -/
def Attempt.source (p : Nat × DisplayInfo R) : Attempt H → Option (BrightnessSource H)
  | .answered h _ => some (displaySource p.1 p.2 h)
  | .refused | .silent _ => none

/-- The list a call hands back to the backend. -/
def DdcEvent.freedList : DdcEvent R H → Option (DisplayInfoList R)
  | .freed list => some list
  | .listed _ | .opened _ _ | .closed _ | .read _ _ _ | .wrote _ _ _ _ _ => none

/-- The calls of a loop over external displays. -/
def attemptEvents (tried : List ((Nat × DisplayInfo R) × Attempt H)) : List (DdcEvent R H) :=
  tried.flatMap fun t ↦ t.2.events t.1.2.dref

/-- The sources a loop over external displays keeps. -/
def attemptSources (tried : List ((Nat × DisplayInfo R) × Attempt H)) :
    List (BrightnessSource H) := tried.filterMap fun t ↦ t.2.source t.1

theorem filterMap_freedList_attemptEvents (tried : List ((Nat × DisplayInfo R) × Attempt H)) :
    (attemptEvents tried).filterMap DdcEvent.freedList = [] := by
  rw [attemptEvents, List.filterMap_flatMap, List.flatMap_eq_nil_iff]
  intro t _
  cases t.2 <;> rfl

theorem Implementation.log_openDisplay {impl : Implementation W R H} {r : R}
    {s s' : Logged W R H} {answer : Option H} (h : impl.logged.openDisplay r s = (answer, s')) :
    s'.2 = s.2 ++ [.opened r answer] := by
  cases h
  rfl

theorem Implementation.log_getNonTableVcpValue {impl : Implementation W R H} {h : H}
    {feature : UInt8} {s s' : Logged W R H} {answer : Option NonTableVcpValue}
    (hr : impl.logged.getNonTableVcpValue h feature s = (answer, s')) :
    s'.2 = s.2 ++ [.read h feature answer] := by
  cases hr
  rfl

/-- The loop makes one attempt for each external display, and none for a built-in one. -/
theorem enumerateFrom_attempts (impl : Implementation W R H) (infos : List (DisplayInfo R))
    (i : Nat) (s : Logged W R H) :
    ∃ tried : List ((Nat × DisplayInfo R) × Attempt H),
      tried.map Prod.fst = externalsFrom i infos ∧
      (enumerateFrom impl.logged i infos s).2.2 = s.2 ++ attemptEvents tried ∧
      (enumerateFrom impl.logged i infos s).1 = attemptSources tried := by
  induction infos generalizing i s with
  | nil => exact ⟨[], rfl, (List.append_nil _).symm, rfl⟩
  | cons info infos ih =>
      obtain ⟨hb, he⟩ | ⟨s', hb, ho, he⟩ | ⟨h, s', s'', hb, ho, hr, he⟩ |
        ⟨h, s', v, s'', hb, ho, hr, he⟩ := enumerateFrom_cases impl.logged i info infos s
      · rw [he, externalsFrom, if_pos hb]
        exact ih (i + 1) s
      all_goals rw [he, externalsFrom, if_neg (by simp [hb])]
      all_goals have hopen := Implementation.log_openDisplay ho
      · obtain ⟨tried, hseats, hlog, hsrc⟩ := ih (i + 1) s'
        refine ⟨((i, info), .refused) :: tried, by rw [List.map_cons, hseats], ?_, hsrc⟩
        rw [hlog, hopen, List.append_assoc]
        rfl
      · have hread := Implementation.log_getNonTableVcpValue hr
        obtain ⟨tried, hseats, hlog, hsrc⟩ := ih (i + 1) (impl.logged.closeDisplay h s'')
        refine ⟨((i, info), .silent h) :: tried, by rw [List.map_cons, hseats], ?_, hsrc⟩
        change _ = (s''.2 ++ [.closed h]) ++ attemptEvents tried at hlog
        rw [hlog, hread, hopen, List.append_assoc, List.append_assoc, List.append_assoc]
        rfl
      · have hread := Implementation.log_getNonTableVcpValue hr
        obtain ⟨tried, hseats, hlog, hsrc⟩ := ih (i + 1) s''
        refine ⟨((i, info), .answered h v) :: tried, by rw [List.map_cons, hseats], ?_, ?_⟩
        · rw [hlog, hread, hopen, List.append_assoc, List.append_assoc]
          rfl
        · rw [hsrc]
          rfl

theorem isBuiltin_of_mem_externalsFrom {i : Nat} {infos : List (DisplayInfo R)}
    {p : Nat × DisplayInfo R} (h : p ∈ externalsFrom i infos) : p.2.isBuiltin = false := by
  induction infos generalizing i with
  | nil => cases h
  | cons info infos ih =>
      rw [externalsFrom] at h
      split_ifs at h with hb
      · exact ih h
      · rcases List.mem_cons.mp h with rfl | h
        · simpa using hb
        · exact ih h

/-- Only external displays are opened. -/
theorem exists_external_of_opened_mem {dlist : DisplayInfoList R} {r : R} {answer : Option H}
    {tried : List ((Nat × DisplayInfo R) × Attempt H)}
    (htried : ∀ t ∈ tried, t.1 ∈ externalsFrom 0 dlist.info)
    (h : .opened r answer ∈ attemptEvents tried) :
    ∃ info ∈ dlist.info, info.isBuiltin = false ∧ info.dref = r := by
  obtain ⟨⟨p, attempt⟩, ht, he⟩ := List.mem_flatMap.mp h
  have hp : p ∈ externalsFrom 0 dlist.info := htried _ ht
  have hdref : p.2.dref = r := by
    cases attempt <;> simp [Attempt.events] at he <;> exact he.1.symm
  obtain ⟨k, -, hk⟩ := getElem?_of_mem_externalsFrom hp
  exact ⟨p.2, List.mem_of_getElem? hk, isBuiltin_of_mem_externalsFrom hp, hdref⟩

/-! ## The whole call -/

/-- A call on a list, told from its log. -/
theorem ddcEnumerateSources_attempts {impl : Implementation W R H} {w w₁ : W}
    {dlist : DisplayInfoList R} (hl : impl.getDisplayInfoList w = (some dlist, w₁)) :
    ((impl.calloc w₁).1 = false ∧ ∃ w', ddcEnumerateSources impl.logged (w, []) =
      (none, w', [.listed (some dlist), .freed dlist])) ∨
    ((impl.calloc w₁).1 = true ∧ ∃ tried : List ((Nat × DisplayInfo R) × Attempt H), ∃ w',
      tried.map Prod.fst = externalsFrom 0 dlist.info ∧
      ddcEnumerateSources impl.logged (w, []) = (some (attemptSources tried), w',
        .listed (some dlist) :: (attemptEvents tried ++ [.freed dlist]))) := by
  have hlist : impl.logged.getDisplayInfoList (w, []) =
      (some dlist, w₁, [.listed (some dlist)]) := by
    simp [Implementation.logged, hl]
  obtain ⟨s', hl', -⟩ | ⟨dlist', s', s'', hl', hc, he⟩ | ⟨dlist', s', s'', hl', hc, he⟩ :=
    ddcEnumerateSources_cases impl.logged (w, []) <;> rw [hlist] at hl' <;> cases hl'
  · obtain ⟨hok, rfl⟩ := Prod.mk.inj hc
    exact .inl ⟨hok, _, he⟩
  · obtain ⟨hok, rfl⟩ := Prod.mk.inj hc
    obtain ⟨tried, hseats, hlog, hsrc⟩ := enumerateFrom_attempts impl dlist.info 0
      ((impl.calloc w₁).2, [.listed (some dlist)])
    rcases hr : enumerateFrom impl.logged 0 dlist.info
      ((impl.calloc w₁).2, [.listed (some dlist)]) with ⟨sources, w₂, log⟩
    rw [hr] at hlog hsrc
    subst hlog hsrc
    refine .inr ⟨hok, tried, impl.freeDisplayInfoList dlist w₂, hseats, he.trans ?_⟩
    rw [hr]
    rfl

/-- A successful call on the list `dlist`, told from its answer `a` and its log. -/
structure Delivered (dlist : DisplayInfoList R)
    (tried : List ((Nat × DisplayInfo R) × Attempt H)) (a : EnumerateAnswer H)
    (log : List (DdcEvent R H)) : Prop where
  /-- Each external display was tried once, in the order of the list, and no other display. -/
  tried_eq : tried.map Prod.fst = externalsFrom 0 dlist.info
  log_eq : log = .listed (some dlist) :: (attemptEvents tried ++ [.freed dlist])
  /-- The sources are those that opened and answered, in that order, with their handles. -/
  carries : a.Carries (attemptSources tried)
  nodup_ids : (a.sources.map (·.id)).Nodup

/-- What a call on the list `dlist` owes the backend. -/
structure Settled [DecidableEq H] (dlist : DisplayInfoList R) (a : EnumerateAnswer H)
    (log : List (DdcEvent R H)) : Prop where
  disciplined : Disciplined (handleActions log)
  /-- A handle opened is in the result, or it was closed, and only once. -/
  acquired_eq : acquired (handleActions log) = handlesOf a.sources + released (handleActions log)
  /-- A built-in display is never opened. -/
  external : ∀ r answer, .opened r answer ∈ log →
    ∃ info ∈ dlist.info, info.isBuiltin = false ∧ info.dref = r
  freed_eq : log.filterMap DdcEvent.freedList = [dlist]

theorem settled_of_ddcEnumerateSources [DecidableEq H] {impl : Implementation W R H} {w w' : W}
    {dlist : DisplayInfoList R} {tried : List ((Nat × DisplayInfo R) × Attempt H)}
    {answer : Option (List (BrightnessSource H))} {a : EnumerateAnswer H}
    (htried : ∀ t ∈ tried, t.1 ∈ externalsFrom 0 dlist.info)
    (h : ddcEnumerateSources impl.logged (w, []) =
      (answer, w', .listed (some dlist) :: (attemptEvents tried ++ [.freed dlist])))
    (ha : a.sources = answer.getD []) :
    Settled dlist a (.listed (some dlist) :: (attemptEvents tried ++ [.freed dlist])) := by
  obtain ⟨events, hlog, hp, hheld⟩ := transfers_ddcEnumerateSources h 0
  obtain rfl : _ = events := hlog
  refine ⟨hp, ?_, fun r answer hm ↦ ?_, ?_⟩
  · have hbalance := heldAfter_add_released hp
    rw [hheld, add_zero, zero_add, ← ha] at hbalance
    exact hbalance.symm
  · have hm : .opened r answer ∈ attemptEvents tried := by simpa using hm
    exact exists_external_of_opened_mem htried hm
  · rw [List.filterMap_cons, List.filterMap_append, filterMap_freedList_attemptEvents]
    rfl

/-- **The enumeration.**  Whatever the displays answer, the call returns the ones that are
controllable, in order and each with its own handle, or fails for want of memory before it has
opened anything; either way it closes what it does not return and hands the list back once. -/
theorem enumeration_is_exact [DecidableEq H] {impl : Implementation W R H} {w w₁ : W}
    {dlist : DisplayInfoList R} (hl : impl.getDisplayInfoList w = (some dlist, w₁)) :
    ((impl.calloc w₁).1 = true →
      ∃ tried, Delivered dlist tried (ddcEnumerateSourcesOut impl.logged (w, [])).1
        (ddcEnumerateSourcesOut impl.logged (w, [])).2.2) ∧
    ((impl.calloc w₁).1 = false →
      (ddcEnumerateSourcesOut impl.logged (w, [])).1 = ⟨-1, none, 0⟩ ∧
      (ddcEnumerateSourcesOut impl.logged (w, [])).2.2 =
        [.listed (some dlist), .freed dlist]) ∧
    Settled dlist (ddcEnumerateSourcesOut impl.logged (w, [])).1
      (ddcEnumerateSourcesOut impl.logged (w, [])).2.2 := by
  obtain ⟨w', hnone, hout⟩ | ⟨sources, w', a, hsome, hout, ha⟩ :=
    ddcEnumerateSourcesOut_cases impl.logged (w, []) <;> rw [hout] <;>
    obtain ⟨hok, w₂, he⟩ | ⟨hok, tried, w₂, hseats, he⟩ := ddcEnumerateSources_attempts hl
  · rw [hnone] at he
    cases he
    refine ⟨fun h ↦ absurd (hok.symm.trans h) (by decide), fun _ ↦ ⟨rfl, rfl⟩, ?_⟩
    exact settled_of_ddcEnumerateSources
      (fun t (h : t ∈ ([] : List _)) ↦ absurd h List.not_mem_nil) hnone rfl
  · cases hnone.symm.trans he
  · cases hsome.symm.trans he
  · rw [hsome] at he
    cases he
    have hids : (a.sources.map (·.id)).Nodup := by
      rw [ha.sources_eq]
      exact nodup_ids_ddcEnumerateSources hsome
    refine ⟨fun _ ↦ ⟨tried, hseats, rfl, ha, hids⟩,
      fun h ↦ absurd (hok.symm.trans h) (by decide), ?_⟩
    refine settled_of_ddcEnumerateSources (fun t ht ↦ ?_) hsome ha.sources_eq
    rw [← hseats]
    exact List.mem_map_of_mem ht

/-- Five displays: the one at 1 is built in. -/
def mixedList : DisplayInfoList Nat where
  info := [⟨0, 1, 1, false⟩, ⟨1, 1, 2, true⟩, ⟨2, 1, 3, false⟩, ⟨3, 1, 4, false⟩,
    ⟨4, 1, 5, false⟩]
  ct_lt := by decide

/-- A bench on which display 2 does not open and display 3 does not answer. -/
def mixedBench : Implementation Bench Nat BenchHandle :=
  let b := bench fun _ ↦ some mixedList
  { b with
    openDisplay := fun r w ↦ if r = 2 then (none, w) else b.openDisplay r w
    getNonTableVcpValue := fun h f w ↦
      if h.dref = 3 then (none, w) else b.getNonTableVcpValue h f w }

theorem enumeration_is_exact_mixed :
    (∃ tried, Delivered mixedList tried
      (ddcEnumerateSourcesOut mixedBench.logged (Bench.ready [], [])).1
      (ddcEnumerateSourcesOut mixedBench.logged (Bench.ready [], [])).2.2) ∧
    Settled mixedList (ddcEnumerateSourcesOut mixedBench.logged (Bench.ready [], [])).1
      (ddcEnumerateSourcesOut mixedBench.logged (Bench.ready [], [])).2.2 :=
  have hl : mixedBench.getDisplayInfoList (Bench.ready []) = (some mixedList, _) := rfl
  have h := enumeration_is_exact hl
  ⟨h.1 rfl, h.2.2⟩

example : (ddcEnumerateSourcesOut mixedBench (Bench.ready [])).1.sources.map (·.ctx.dref) =
    [0, 4] := by decide

end Dimmit
