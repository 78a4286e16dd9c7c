import Dimmit.Ddc.Linux
import Dimmit.DisplayController.Flicker

/-!
# libddcutil opens a display once

`ddca_open_display2` refuses a display that has an open handle, with `DDCRC_ALREADY_OPEN`, and the
Linux backend hands the refusal on: over displays that stay connected and answer, it is exclusive.
-/

namespace Dimmit

variable {W D DH : Type}

/-- No handle was opened or closed, and no display moved. -/
def Still (held : W → Set D) (register : W → D → NonTableVcpValue) (w w' : W) : Prop :=
  held w' = held w ∧ register w' = register w

theorem Still.trans {held : W → Set D} {register : W → D → NonTableVcpValue} {w w' w'' : W}
    (h : Still held register w w') (h' : Still held register w' w'') :
    Still held register w w'' := ⟨h'.1.trans h.1, h'.2.trans h.2⟩

/-- libddcutil over displays that are always those of `dl`: one opens unless it is held, and
everything else succeeds, on its register. -/
structure Ddca.OpensOnce (ddca : Ddca W D DH) (device : DH → D) (dl : DdcaDisplayInfoList D)
    (held : W → Set D) (register : W → D → NonTableVcpValue) : Prop where
  ne_nil : dl.info ≠ []
  nodup : (dl.info.map (·.dref)).Nodup
  list : ∀ w, ∃ w', ddca.getDisplayInfoList2 w = (0, some dl, w') ∧ Still held register w w'
  free : ∀ list w, Still held register w (ddca.freeDisplayInfoList list w)
  alloc : ∀ w, ∃ w', ddca.alloc w = (true, w') ∧ Still held register w w'
  opens : ∀ {r w}, r ∉ held w → ∃ h w', ddca.openDisplay2 r w = (some h, w') ∧ device h = r ∧
    held w' = insert r (held w) ∧ register w' = register w
  refuses : ∀ {r w}, r ∈ held w → ∃ w', ddca.openDisplay2 r w = (none, w') ∧
    Still held register w w'
  close : ∀ h w, held (ddca.closeDisplay h w) = held w \ {device h} ∧
    register (ddca.closeDisplay h w) = register w
  read : ∀ h feature w, ∃ v w', ddca.getNonTableVcpValue h feature w = (some v, w') ∧
    Still held register w w' ∧ (feature = vcpBrightness → v = register w (device h))
  write : ∀ h feature hi lo w, ∃ w', ddca.setNonTableVcpValue h feature hi lo w = (true, w') ∧
    held w' = held w
  written : ∀ h hi lo {w}, word hi lo ≤ (register w (device h)).top →
    register (ddca.setNonTableVcpValue h vcpBrightness hi lo w).2 (device h) =
      { register w (device h) with sh := hi, sl := lo }
  kept : ∀ h hi lo {w}, word hi lo ≤ (register w (device h)).top → ∀ r ≠ device h,
    register (ddca.setNonTableVcpValue h vcpBrightness hi lo w).2 r = register w r

theorem DdcaDisplayInfoList.map_ct_lt (dl : DdcaDisplayInfoList D) :
    (dl.info.map linuxDisplayInfo).length < 2 ^ 31 := by
  rw [List.length_map]
  exact dl.ct_lt

/-- The list handed out for that of libddcutil. -/
def linuxList (dl : DdcaDisplayInfoList D) : DisplayInfoList D where
  info := dl.info.map linuxDisplayInfo
  ct_lt := dl.map_ct_lt

namespace Ddca.OpensOnce

variable {ddca : Ddca W D DH} {device : DH → D} {dl : DdcaDisplayInfoList D} {held : W → Set D}
  {register : W → D → NonTableVcpValue}

theorem wrapRefs (h : ddca.OpensOnce device dl held register) (infos : List (DdcaDisplayInfo D))
    (w : W) : ∃ w', linuxWrapRefs ddca infos w = (true, w') ∧ Still held register w w' := by
  induction infos generalizing w with
  | nil => exact ⟨w, rfl, rfl, rfl⟩
  | cons info infos ih =>
      obtain ⟨w₁, ha, hstill⟩ := h.alloc w
      obtain ⟨w₂, hrefs, hstill'⟩ := ih w₁
      refine ⟨w₂, ?_, hstill.trans hstill'⟩
      rw [linuxWrapRefs, ha]
      exact hrefs

theorem getDisplayInfoList (h : ddca.OpensOnce device dl held register) (w : W) :
    ∃ w', linuxGetDisplayInfoList ddca w = (some (linuxList dl), w') ∧
      Still held register w w' := by
  obtain ⟨w₁, hlist, hstill₁⟩ := h.list w
  obtain ⟨w₂, ha, hstill₂⟩ := h.alloc w₁
  obtain ⟨w₃, ha', hstill₃⟩ := h.alloc w₂
  obtain ⟨w₄, hrefs, hstill₄⟩ := h.wrapRefs dl.info w₃
  refine ⟨ddca.freeDisplayInfoList dl w₄, ?_,
    (((hstill₁.trans hstill₂).trans hstill₃).trans hstill₄).trans (h.free dl w₄)⟩
  have hlength : ¬ ((0 : Int) ≠ 0 ∨ dl.info.length = 0) := by
    simp [h.ne_nil]
  unfold linuxGetDisplayInfoList
  simp only [hlist, if_neg hlength, ha, ha', hrefs]
  rfl

/-- A refusal is handed on. -/
theorem openDisplay_refuses (h : ddca.OpensOnce device dl held register) {r : D} {w : W}
    (hr : r ∈ held w) :
    ∃ w', linuxOpenDisplay ddca r w = (none, w') ∧ Still held register w w' := by
  obtain ⟨w', ho, hstill⟩ := h.refuses hr
  refine ⟨w', ?_, hstill⟩
  rw [linuxOpenDisplay, ho]

theorem openDisplay_opens (h : ddca.OpensOnce device dl held register) {r : D} {w : W}
    (hr : r ∉ held w) :
    ∃ d w', linuxOpenDisplay ddca r w = (some d, w') ∧ device d = r ∧
      held w' = insert r (held w) ∧ register w' = register w := by
  obtain ⟨d, w₁, ho, hd, hheld, hsame⟩ := h.opens hr
  obtain ⟨w₂, ha, hstill⟩ := h.alloc w₁
  refine ⟨d, w₂, ?_, hd, hstill.1.trans hheld, hstill.2.trans hsame⟩
  unfold linuxOpenDisplay
  simp only [ho, ha]

theorem filter_linuxList (dl : DdcaDisplayInfoList D) :
    (linuxList dl).info.filter (fun info ↦ !info.isBuiltin) = dl.info.map linuxDisplayInfo := by
  refine List.filter_eq_self.mpr fun info hinfo ↦ ?_
  obtain ⟨i, -, rfl⟩ := List.mem_map.mp hinfo
  rfl

/-- **The Linux backend is exclusive** where libddcutil is. -/
theorem exclusiveRegisters (h : ddca.OpensOnce device dl held register) :
    ExclusiveRegisters (linuxImplementation ddca) device (linuxList dl) held register where
  list_eq w := by
    obtain ⟨w', hl, -⟩ := h.getDisplayInfoList w
    exact congrArg Prod.fst hl
  held_list w := by
    obtain ⟨w', hl, hstill⟩ := h.getDisplayInfoList w
    change held (linuxGetDisplayInfoList ddca w).2 = _
    rw [hl]
    exact hstill.1
  held_free _ _ := rfl
  calloc w := by
    obtain ⟨w', ha, -⟩ := h.alloc w
    exact congrArg Prod.fst ha
  held_calloc w := by
    obtain ⟨w', ha, hstill⟩ := h.alloc w
    change held (ddca.alloc w).2 = _
    rw [ha]
    exact hstill.1
  opens hr := by
    obtain ⟨d, w', ho, hd, hheld, -⟩ := h.openDisplay_opens hr
    exact ⟨d, w', ho, hd, hheld⟩
  refuses hr := by
    obtain ⟨w', ho, hstill⟩ := h.openDisplay_refuses hr
    exact ⟨w', ho, hstill.1⟩
  held_close d w := (h.close d w).1
  read d feature w := by
    obtain ⟨v, w', hread, hstill, -⟩ := h.read d feature w
    exact ⟨v, w', hread, hstill.1⟩
  write := h.write
  nodup := by
    rw [filter_linuxList, List.map_map]
    exact h.nodup
  read_eq d w := by
    obtain ⟨v, w', hread, -, hv⟩ := h.read d vcpBrightness w
    rw [← hv rfl]
    exact congrArg Prod.fst hread
  register_eq ρ :=
    { getDisplayInfoList := fun {w} hw ↦ by
        obtain ⟨w', hl, hstill⟩ := h.getDisplayInfoList w
        change register (linuxGetDisplayInfoList ddca w).2 = ρ
        rw [hl]
        exact hstill.2.trans hw
      freeDisplayInfoList := fun _ hw ↦ hw
      openDisplay := fun {w} r hw ↦ by
        change register (linuxOpenDisplay ddca r w).2 = ρ
        by_cases hr : r ∈ held w
        · obtain ⟨w', ho, hstill⟩ := h.openDisplay_refuses hr
          rw [ho]
          exact hstill.2.trans hw
        · obtain ⟨d, w', ho, -, -, hsame⟩ := h.openDisplay_opens hr
          rw [ho]
          exact hsame.trans hw
      closeDisplay := fun {w} d hw ↦ (h.close d w).2.trans hw
      getNonTableVcpValue := fun {w} d feature hw ↦ by
        obtain ⟨v, w', hread, hstill, -⟩ := h.read d feature w
        change register (ddca.getNonTableVcpValue d feature w).2 = ρ
        rw [hread]
        exact hstill.2.trans hw
      calloc := fun {w} hw ↦ by
        obtain ⟨w', ha, hstill⟩ := h.alloc w
        change register (ddca.alloc w).2 = ρ
        rw [ha]
        exact hstill.2.trans hw }
  written := h.written
  kept := h.kept

end Ddca.OpensOnce

end Dimmit
