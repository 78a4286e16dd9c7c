import Dimmit.Dimmer.Screen
import Dimmit.Lib.Edges
import Mathlib.Data.Finset.SymmDiff

/-!
# The brightness keys

`handle_raw_input` of `platform/input/windows.c` and `value_cb` of `platform/input/darwin.c`.  A
device reports which usages are active.  Windows hands over the reports, and macOS calls back for
each usage that changes; either way a brightness key is a call of `g_on_adjust`.
-/

namespace Dimmit

open Edges

/-- `CONSUMER_PAGE`. -/
def consumerPage : UInt32 := 0x0C

/-- `BRIGHTNESS_UP_USAGE`: Consumer DisplayBrightnessIncrement. -/
def brightnessUpUsage : UInt32 := 0x6F

/-- `BRIGHTNESS_DOWN_USAGE`: Consumer DisplayBrightnessDecrement. -/
def brightnessDownUsage : UInt32 := 0x70

/-- `RIM_TYPEHID`. -/
def rimTypeHid : UInt32 := 2

/-- The calls of `g_on_adjust` for an active usage, where `onAdjust` says whether it is set. -/
def adjustsFor (onAdjust : Bool) (usage : UInt32) : List ℚ :=
  if onAdjust = false then []
  else if usage = brightnessUpUsage then [Key.up.fraction]
  else if usage = brightnessDownUsage then [Key.down.fraction]
  else []

/-! ## Windows -/

/-- What the calls of one `handle_raw_input` answer. -/
structure RawInputAnswers where
  /-- `GetRawInputData` without a buffer: its result, and `size`. -/
  sizeResult : UInt32
  size : UInt32
  /-- `malloc` of the buffer succeeds; a small one is on the stack. -/
  bufAllocated : Bool
  /-- `GetRawInputData`: its result, and what it leaves in the buffer. -/
  dataResult : UInt32
  dwType : UInt32
  dwSizeHid : UInt32
  dwCount : UInt32
  bRawData : List UInt8
  /-- `GetRawInputDeviceInfo` without a buffer: its result, and `ppsize`. -/
  ppSizeResult : UInt32
  ppSize : UInt32
  ppAllocated : Bool
  /-- `GetRawInputDeviceInfo`. -/
  ppResult : UInt32
  /-- `HidP_MaxUsageListLength`. -/
  maxUsages : UInt32
  usagesAllocated : Bool
  /-- `HidP_GetUsages` on a report, where it succeeds. -/
  getUsages : List UInt8 → Option (List UInt16)

namespace RawInputAnswers

/-- The `r`-th report of the message. -/
def report (a : RawInputAnswers) (r : Nat) : List UInt8 :=
  (a.bRawData.drop (r * a.dwSizeHid.toNat)).take a.dwSizeHid.toNat

/-- The body of the loop over the reports. -/
def reportAdjusts (onAdjust : Bool) (a : RawInputAnswers) (r : Nat) : List ℚ :=
  match a.getUsages (a.report r) with
  | none => []
  | some usages => usages.flatMap fun usage ↦ adjustsFor onAdjust usage.toUInt32

end RawInputAnswers

/-- `handle_raw_input`: the calls of `g_on_adjust` it makes. -/
def handleRawInput (onAdjust : Bool) (a : RawInputAnswers) : List ℚ :=
  if a.sizeResult ≠ 0 ∨ a.size = 0 then []
  else if 256 < a.size ∧ a.bufAllocated = false then []
  else if a.dataResult ≠ a.size then []
  else if a.dwType ≠ rimTypeHid then []
  else if a.ppSizeResult ≠ 0 ∨ a.ppSize = 0 then []
  else if a.ppAllocated = false then []
  else if a.ppResult = 0xFFFFFFFF then []
  else if a.maxUsages = 0 then []
  else if a.usagesAllocated = false then []
  else (List.range a.dwCount.toNat).flatMap (a.reportAdjusts onAdjust)

/-! ## macOS -/

/-- `IOHIDValueRef`, as far as it is read: the value and the page and usage of its element. -/
structure HidValue where
  integerValue : Int
  usagePage : UInt32
  usage : UInt32
deriving DecidableEq, Repr

/-- `value_cb`: the calls of `g_on_adjust` it makes. -/
def valueCb (onAdjust : Bool) (value : HidValue) : List ℚ :=
  -- press only, not release
  if value.integerValue = 0 then []
  -- ignore mouse/keyboard noise
  else if value.usagePage ≠ consumerPage then []
  else adjustsFor onAdjust value.usage

/-! ## What a device reports -/

/-- The message carries the reports: every call succeeds, and the usages listed for a report are
those active in it, each once. -/
structure RawInputAnswers.Carries (a : RawInputAnswers) (reports : List (Finset UInt16)) :
    Prop where
  size_ok : a.sizeResult = 0 ∧ a.size ≠ 0
  buf_ok : 256 < a.size → a.bufAllocated = true
  data_ok : a.dataResult = a.size
  dwType_eq : a.dwType = rimTypeHid
  ppSize_ok : a.ppSizeResult = 0 ∧ a.ppSize ≠ 0
  ppAllocated_ok : a.ppAllocated = true
  ppResult_ok : a.ppResult ≠ 0xFFFFFFFF
  maxUsages_ok : a.maxUsages ≠ 0
  usagesAllocated_ok : a.usagesAllocated = true
  dwCount_eq : a.dwCount.toNat = reports.length
  usages_eq (r : Nat) (h : r < reports.length) :
    ∃ usages, a.getUsages (a.report r) = some usages ∧ usages.Nodup ∧
      ∀ u, u ∈ usages ↔ u ∈ reports[r]

/-- The messages carry the reports in order, each as many as it likes. -/
def MessagesCarry (messages : List RawInputAnswers) (reports : List (Finset UInt16)) : Prop :=
  ∃ batches, List.Forall₂ RawInputAnswers.Carries messages batches ∧ batches.flatten = reports

/-- The value of a usage, where `now` are the active ones. -/
def usageValue (now : Finset UInt16) (usage : UInt16) : HidValue where
  integerValue := if usage ∈ now then 1 else 0
  usagePage := consumerPage
  usage := usage.toUInt32

/-- The values with which `value_cb` is called for the reports, where `prev` was active before
them: for each report one for each usage that changes, in any order. -/
inductive ValueCalls : Finset UInt16 → List (Finset UInt16) → List HidValue → Prop
  | nil (prev : Finset UInt16) : ValueCalls prev [] []
  | report {prev now : Finset UInt16} {rest : List (Finset UInt16)} {values : List HidValue}
      {changed : List UInt16} (hnodup : changed.Nodup)
      (hchanged : ∀ u, u ∈ changed ↔ u ∈ symmDiff prev now) (h : ValueCalls now rest values) :
      ValueCalls prev (now :: rest) (changed.map (usageValue now) ++ values)

/-! ## Counting the calls -/

/-- The usage of a key. -/
def Key.usage : Key → UInt16
  | up => 0x6F
  | down => 0x70

theorem toUInt32_eq_up_iff (usage : UInt16) :
    usage.toUInt32 = brightnessUpUsage ↔ usage = Key.up.usage :=
  UInt16.toUInt32_inj (b := 0x6F)

theorem toUInt32_eq_down_iff (usage : UInt16) :
    usage.toUInt32 = brightnessDownUsage ↔ usage = Key.down.usage :=
  UInt16.toUInt32_inj (b := 0x70)

/-- A usage is one call for its key and none for the other. -/
theorem count_adjustsFor (k : Key) (usage : UInt16) :
    (adjustsFor true usage.toUInt32).count k.fraction = if usage = k.usage then 1 else 0 := by
  rw [adjustsFor, if_neg (by decide)]
  simp only [toUInt32_eq_up_iff, toUInt32_eq_down_iff]
  by_cases hup : usage = Key.up.usage
  · rw [if_pos hup, hup]
    cases k <;> decide +kernel
  by_cases hdown : usage = Key.down.usage
  · rw [if_neg hup, if_pos hdown, hdown]
    cases k <;> decide +kernel
  · rw [if_neg hup, if_neg hdown]
    cases k with
    | up => rw [if_neg hup, List.count_nil]
    | down => rw [if_neg hdown, List.count_nil]

/-- A list of distinct usages calls for a key once if it has it. -/
theorem count_flatMap_adjustsFor (k : Key) {usages : List UInt16} (h : usages.Nodup) :
    (usages.flatMap fun usage ↦ adjustsFor true usage.toUInt32).count k.fraction =
      if k.usage ∈ usages then 1 else 0 := by
  induction usages with
  | nil => rfl
  | cons u usages ih =>
      obtain ⟨hu, hnodup⟩ := List.nodup_cons.mp h
      rw [List.flatMap_cons, List.count_append, count_adjustsFor, ih hnodup]
      by_cases hk : u = k.usage
      · rw [if_pos hk, if_neg (hk ▸ hu), if_pos (hk ▸ List.mem_cons_self)]
      · simp only [if_neg hk, List.mem_cons, Ne.symm hk, false_or, Nat.zero_add]

/-- A loop over the places of a list that calls for `x` once where `p` holds. -/
theorem count_flatMap_range {α : Type} {p : α → Prop} [DecidablePred p] {x : ℚ} {l : List α}
    {f : Nat → List ℚ}
    (h : ∀ (r : Nat) (hr : r < l.length), (f r).count x = if p l[r] then 1 else 0) :
    ((List.range l.length).flatMap f).count x = l.countP (p ·) := by
  induction l generalizing f with
  | nil => rfl
  | cons a l ih =>
      have hrest := ih (f := fun r ↦ f (r + 1)) fun r hr ↦ h (r + 1) (Nat.succ_lt_succ hr)
      rw [List.length_cons, List.range_succ_eq_map, List.flatMap_cons, List.flatMap_map,
        List.count_append, h 0 (Nat.succ_pos _), hrest, List.countP_cons, Nat.add_comm]
      simp only [List.getElem_cons_zero, decide_eq_true_iff]

namespace RawInputAnswers.Carries

variable {a : RawInputAnswers} {reports : List (Finset UInt16)}

/-- A message that carries reports gets as far as its loop. -/
theorem handleRawInput_eq (h : a.Carries reports) (onAdjust : Bool) :
    handleRawInput onAdjust a =
      (List.range reports.length).flatMap (a.reportAdjusts onAdjust) := by
  have hsize : ¬ (a.sizeResult ≠ 0 ∨ a.size = 0) :=
    not_or.mpr ⟨not_not_intro h.size_ok.1, h.size_ok.2⟩
  have hbuf : ¬ (256 < a.size ∧ a.bufAllocated = false) := fun hb ↦
    absurd ((h.buf_ok hb.1).symm.trans hb.2) (by decide)
  have hpp : ¬ (a.ppSizeResult ≠ 0 ∨ a.ppSize = 0) :=
    not_or.mpr ⟨not_not_intro h.ppSize_ok.1, h.ppSize_ok.2⟩
  rw [handleRawInput, if_neg hsize, if_neg hbuf, if_neg (not_not_intro h.data_ok),
    if_neg (not_not_intro h.dwType_eq), if_neg hpp, h.ppAllocated_ok, if_neg (by decide),
    if_neg h.ppResult_ok, if_neg h.maxUsages_ok, h.usagesAllocated_ok, if_neg (by decide),
    h.dwCount_eq]

/-- Windows calls for a key once for each report that has it. -/
theorem count_handleRawInput (h : a.Carries reports) (k : Key) :
    (handleRawInput true a).count k.fraction = reports.countP (k.usage ∈ ·) := by
  have hone (r : Nat) (hr : r < reports.length) :
      (a.reportAdjusts true r).count k.fraction = if k.usage ∈ reports[r] then 1 else 0 := by
    obtain ⟨usages, hget, hnodup, hmem⟩ := h.usages_eq r hr
    rw [RawInputAnswers.reportAdjusts, hget]
    simp only [count_flatMap_adjustsFor k hnodup, hmem]
  rw [h.handleRawInput_eq, count_flatMap_range (p := (k.usage ∈ ·)) hone]

end RawInputAnswers.Carries

/-- So does it for all the messages together. -/
theorem count_messages {messages : List RawInputAnswers} {reports : List (Finset UInt16)}
    (h : MessagesCarry messages reports) (k : Key) :
    (messages.flatMap (handleRawInput true)).count k.fraction =
      reports.countP (k.usage ∈ ·) := by
  obtain ⟨batches, hall, rfl⟩ := h
  induction hall with
  | nil => rfl
  | cons h _ ih =>
      rw [List.flatMap_cons, List.count_append, h.count_handleRawInput, ih, List.flatten_cons,
        List.countP_append]

theorem valueCb_usageValue (now : Finset UInt16) (usage : UInt16) :
    valueCb true (usageValue now usage) =
      if usage ∈ now then adjustsFor true usage.toUInt32 else [] := by
  by_cases h : usage ∈ now <;> simp [valueCb, usageValue, h]

/-- The values for one report call for a key if it is one of those that became active. -/
theorem count_usageValues (k : Key) (now : Finset UInt16) {changed : List UInt16}
    (h : changed.Nodup) :
    ((changed.map (usageValue now)).flatMap (valueCb true)).count k.fraction =
      if k.usage ∈ changed ∧ k.usage ∈ now then 1 else 0 := by
  have hpressed : (changed.map (usageValue now)).flatMap (valueCb true) =
      (changed.filter (· ∈ now)).flatMap fun usage ↦ adjustsFor true usage.toUInt32 := by
    rw [List.flatMap_map]
    simp only [valueCb_usageValue]
    induction changed with
    | nil => rfl
    | cons u changed ih =>
        rw [List.flatMap_cons, ih (List.nodup_cons.mp h).2]
        by_cases hu : u ∈ now <;> simp [hu]
  rw [hpressed, count_flatMap_adjustsFor k (h.filter _)]
  simp only [List.mem_filter, decide_eq_true_iff]

/-- macOS calls for a key once for each report in which it becomes active. -/
theorem count_values {prev : Finset UInt16} {reports : List (Finset UInt16)}
    {values : List HidValue} (h : ValueCalls prev reports values) (k : Key) :
    (values.flatMap (valueCb true)).count k.fraction = edges (k.usage ∈ ·) prev reports := by
  induction h with
  | nil prev => rfl
  | report hnodup hchanged h ih =>
      rw [List.flatMap_append, List.count_append, ih, edges, count_usageValues k _ hnodup]
      congr 1
      refine if_congr ?_ rfl rfl
      rw [hchanged, Finset.mem_symmDiff]
      tauto

/-! ## The two backends -/

/-- The backends agree on the presses exactly where no report repeats a brightness key that was
active in the one before it. -/
theorem presses_agree_iff {messages : List RawInputAnswers} {reports : List (Finset UInt16)}
    {values : List HidValue} (hw : MessagesCarry messages reports)
    (hm : ValueCalls ∅ reports values) :
    (∀ k : Key,
      (messages.flatMap (handleRawInput true)).count k.fraction =
        (values.flatMap (valueCb true)).count k.fraction ∧
      (values.flatMap (valueCb true)).count k.fraction = edges (k.usage ∈ ·) ∅ reports) ↔
    ∀ k : Key, reports.IsChain fun before now ↦ ¬ (k.usage ∈ before ∧ k.usage ∈ now) := by
  refine forall_congr' fun k ↦ ?_
  rw [count_messages hw, count_values hm, and_iff_left rfl, countP_eq_edges_iff,
    isChain_cons_iff (k.usage ∈ ·) (Finset.notMem_empty k.usage)]

/-! ## A keyboard -/

/-- A device with one byte for a report: its low bits are the two brightness keys and volume
up. -/
def sampleUsages (report : List UInt8) : Option (List UInt16) :=
  report.head?.map fun byte ↦
    (if byte &&& 1 = 0 then [] else [0x6F]) ++ (if byte &&& 2 = 0 then [] else [0x70]) ++
      (if byte &&& 4 = 0 then [] else [0xE9])

/-- Its message with these reports. -/
def sampleMessage (bytes : List UInt8) : RawInputAnswers where
  sizeResult := 0
  size := UInt32.ofNat (32 + bytes.length)
  bufAllocated := true
  dataResult := UInt32.ofNat (32 + bytes.length)
  dwType := rimTypeHid
  dwSizeHid := 1
  dwCount := UInt32.ofNat bytes.length
  bRawData := bytes
  ppSizeResult := 0
  ppSize := 1
  ppAllocated := true
  ppResult := 1
  maxUsages := 3
  usagesAllocated := true
  getUsages := sampleUsages

/-- The active usages of a report of the device. -/
def activeUsages (byte : UInt8) : Finset UInt16 := ((sampleUsages [byte]).getD []).toFinset

theorem carries_sampleMessage {bytes : List UInt8} (h : bytes.length < 2 ^ 31) :
    (sampleMessage bytes).Carries (bytes.map activeUsages) where
  size_ok := by
    refine ⟨rfl, fun hz ↦ ?_⟩
    have hzero : (32 + bytes.length) % 2 ^ 32 = 0 := congrArg UInt32.toNat hz
    omega
  buf_ok _ := rfl
  data_ok := rfl
  dwType_eq := rfl
  ppSize_ok := ⟨rfl, show (1 : UInt32) ≠ 0 by decide⟩
  ppAllocated_ok := rfl
  ppResult_ok := show (1 : UInt32) ≠ 0xFFFFFFFF by decide
  maxUsages_ok := show (3 : UInt32) ≠ 0 by decide
  usagesAllocated_ok := rfl
  dwCount_eq := by
    rw [List.length_map]
    exact UInt32.toNat_ofNat_of_lt' (h.trans (by decide))
  usages_eq r hr := by
    rw [List.length_map] at hr
    have hreport : (sampleMessage bytes).report r = [bytes[r]] := by
      change (bytes.drop (r * 1)).take 1 = _
      rw [Nat.mul_one, List.drop_eq_getElem_cons hr]
      rfl
    refine ⟨_, congrArg sampleUsages hreport, ?_, fun u ↦ ?_⟩
    · dsimp only
      split_ifs <;> decide
    · rw [List.getElem_map, activeUsages, List.mem_toFinset]
      rfl

/-- The values for reports in which no usages but `usages` are active. -/
def valuesOf (usages : List UInt16) : Finset UInt16 → List (Finset UInt16) → List HidValue
  | _, [] => []
  | prev, now :: rest =>
    (usages.filter (· ∈ symmDiff prev now)).map (usageValue now) ++ valuesOf usages now rest

theorem valueCalls_valuesOf {usages : List UInt16} (hnodup : usages.Nodup) {prev : Finset UInt16}
    {reports : List (Finset UInt16)} (hprev : ∀ u ∈ prev, u ∈ usages)
    (h : ∀ now ∈ reports, ∀ u ∈ now, u ∈ usages) :
    ValueCalls prev reports (valuesOf usages prev reports) := by
  induction reports generalizing prev with
  | nil => exact .nil prev
  | cons now rest ih =>
      obtain ⟨hnow, hrest⟩ := List.forall_mem_cons.mp h
      refine .report (hnodup.filter _) (fun u ↦ ?_) (ih hnow hrest)
      rw [List.mem_filter, decide_eq_true_iff]
      refine and_iff_right_of_imp fun hu ↦ ?_
      rcases Finset.mem_symmDiff.mp hu with ⟨hu, -⟩ | ⟨hu, -⟩
      · exact hprev u hu
      · exact hnow u hu

theorem mem_of_mem_activeUsages {byte : UInt8} {u : UInt16} (h : u ∈ activeUsages byte) :
    u ∈ [0x6F, 0x70, 0xE9] := by
  rw [activeUsages, List.mem_toFinset] at h
  change u ∈ (if byte &&& 1 = 0 then [] else [0x6F]) ++ (if byte &&& 2 = 0 then [] else [0x70]) ++
    (if byte &&& 4 = 0 then [] else [0xE9]) at h
  rw [List.mem_append, List.mem_append] at h
  rcases h with (h | h) | h
  · split_ifs at h
    · cases h
    · rw [List.mem_singleton.mp h]
      exact List.mem_cons_self
  · split_ifs at h
    · cases h
    · rw [List.mem_singleton.mp h]
      exact List.mem_cons_of_mem _ List.mem_cons_self
  · split_ifs at h
    · cases h
    · exact List.mem_cons_of_mem _ (List.mem_cons_of_mem _ h)

theorem valueCalls_activeUsages (bytes : List UInt8) :
    ValueCalls ∅ (bytes.map activeUsages)
      (valuesOf [0x6F, 0x70, 0xE9] ∅ (bytes.map activeUsages)) := by
  refine valueCalls_valuesOf (by decide) (fun u hu ↦ absurd hu (Finset.notMem_empty u)) ?_
  rw [List.forall_mem_map]
  exact fun byte _ u hu ↦ mem_of_mem_activeUsages hu

/-- Volume up pressed while brightness up is held: Windows steps again, and macOS does not. -/
theorem presses_differ :
    let reports := [1, 5, 4, 0].map activeUsages
    let messages := [1, 5, 4, 0].map fun byte ↦ sampleMessage [byte]
    let values := valuesOf [0x6F, 0x70, 0xE9] ∅ reports
    MessagesCarry messages reports ∧ ValueCalls ∅ reports values ∧
      (∅ :: reports).IsChain (· ≠ ·) ∧
      (messages.flatMap (handleRawInput true)).count Key.up.fraction = 2 ∧
      (values.flatMap (valueCb true)).count Key.up.fraction = 1 := by
  intro reports messages values
  refine ⟨⟨reports.map ([·]), ?_, rfl⟩, ?_, by decide, by decide +kernel, by decide +kernel⟩
  · have hone (byte : UInt8) : (sampleMessage [byte]).Carries [activeUsages byte] :=
      carries_sampleMessage (by simp)
    exact .cons (hone 1) (.cons (hone 5) (.cons (hone 4) (.cons (hone 0) .nil)))
  · exact valueCalls_activeUsages [1, 5, 4, 0]

/-- Brightness up pressed and let go twice, the second time with volume up, in two messages. -/
theorem presses_agree_iff_taps :
    let messages := [sampleMessage [1, 0], sampleMessage [4, 5, 0]]
    let values := valuesOf [0x6F, 0x70, 0xE9] ∅ ([1, 0, 4, 5, 0].map activeUsages)
    (messages.flatMap (handleRawInput true)).count Key.up.fraction =
      (values.flatMap (valueCb true)).count Key.up.fraction := by
  intro messages values
  have hw : MessagesCarry messages ([1, 0, 4, 5, 0].map activeUsages) :=
    ⟨[[1, 0].map activeUsages, [4, 5, 0].map activeUsages],
      .cons (carries_sampleMessage (by decide)) (.cons (carries_sampleMessage (by decide)) .nil),
      rfl⟩
  have hm : ValueCalls ∅ ([1, 0, 4, 5, 0].map activeUsages) values :=
    valueCalls_activeUsages [1, 0, 4, 5, 0]
  refine ((presses_agree_iff hw hm).mpr (fun k ↦ ?_) .up).1
  cases k <;> decide

end Dimmit
