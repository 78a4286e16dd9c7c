import Dimmit.Ddc.Implementation

/-!
# The Linux backend

`platform/ddc/linux.c` over libddcutil, which is a parameter: the six calls the file makes.
The opaque structs of the backend wrap one libddcutil reference each, so `D` and `DH`, the
library's references and handles, stand for them.
-/

namespace Dimmit

/-- `DDCA_Display_Info`, as far as it is read. -/
structure DdcaDisplayInfo (D : Type) where
  dref : D
  /-- The manufacturer code, three letters. -/
  mfgId : CString
  productCode : UInt16
deriving DecidableEq, Repr

/-- `DDCA_Display_Info_List`. -/
structure DdcaDisplayInfoList (D : Type) where
  info : List (DdcaDisplayInfo D)
  ct_lt : info.length < 2 ^ 31

/-- The calls to libddcutil, and the allocator.  A call with an out-parameter is an `Option`
where the code looks at its status alone. -/
structure Ddca (W D DH : Type) where
  /-- `ddca_get_display_info_list2`: its status and the list, if it set one. -/
  getDisplayInfoList2 : W → Int × Option (DdcaDisplayInfoList D) × W
  /-- `ddca_free_display_info_list`. -/
  freeDisplayInfoList : DdcaDisplayInfoList D → W → W
  /-- `ddca_open_display2`. -/
  openDisplay2 : D → W → Option DH × W
  /-- `ddca_close_display`. -/
  closeDisplay : DH → W → W
  /-- `ddca_get_non_table_vcp_value`. -/
  getNonTableVcpValue : DH → UInt8 → W → Option NonTableVcpValue × W
  /-- `ddca_set_non_table_vcp_value`. -/
  setNonTableVcpValue : DH → UInt8 → UInt8 → UInt8 → W → Bool × W
  /-- `malloc` and `calloc`: whether the allocation succeeded. -/
  alloc : W → Bool × W

/-- A letter's place in the alphabet, from 1: `toupper(c) - 'A' + 1`. -/
def letterNumber (c : Char) : Int := (c.toUpper.toNat : Int) - 65 + 1

/-- `eisa_id_from_mfg`. -/
def eisaIdFromMfg : CString → UInt32
  | c₀ :: c₁ :: c₂ :: _ =>
    let a := letterNumber c₀
    let b := letterNumber c₁
    let c := letterNumber c₂
    if a < 1 ∨ a > 26 ∨ b < 1 ∨ b > 26 ∨ c < 1 ∨ c > 26 then 0
    else UInt32.ofNat (a.toNat <<< 10 ||| b.toNat <<< 5 ||| c.toNat)
  | _ => 0

variable {W D DH : Type}

/-- An entry of the list handed out. -/
def linuxDisplayInfo (i : DdcaDisplayInfo D) : DisplayInfo D where
  dref := i.dref
  vendorId := eisaIdFromMfg i.mfgId
  productId := i.productCode.toUInt32
  -- libddcutil does not expose this; assume external
  isBuiltin := false

/-- The loop of `ddc_implementation_get_display_info_list`: whether every `malloc` of a wrapper
succeeded. -/
def linuxWrapRefs (ddca : Ddca W D DH) : List (DdcaDisplayInfo D) → W → Bool × W
  | [], w => (true, w)
  | _ :: infos, w =>
    match ddca.alloc w with
    | (false, w) => (false, w)
    | (true, w) => linuxWrapRefs ddca infos w

/-- `ddc_implementation_get_display_info_list`. -/
def linuxGetDisplayInfoList (ddca : Ddca W D DH) (w : W) : Option (DisplayInfoList D) × W :=
  match ddca.getDisplayInfoList2 w with
  | (_, none, w) => (none, w)
  | (st, some dl, w) =>
    if st ≠ 0 ∨ dl.info.length = 0 then (none, ddca.freeDisplayInfoList dl w)
    else
      match ddca.alloc w with
      | (false, w) => (none, ddca.freeDisplayInfoList dl w)
      | (true, w) =>
        match ddca.alloc w with
        | (false, w) => (none, ddca.freeDisplayInfoList dl w)
        | (true, w) =>
          match linuxWrapRefs ddca dl.info w with
          | (false, w) => (none, ddca.freeDisplayInfoList dl w)
          | (true, w) =>
            (some ⟨dl.info.map linuxDisplayInfo, by rw [List.length_map]; exact dl.ct_lt⟩,
              ddca.freeDisplayInfoList dl w)

/-- `ddc_implementation_open_display`. -/
def linuxOpenDisplay (ddca : Ddca W D DH) (dref : D) (w : W) : Option DH × W :=
  match ddca.openDisplay2 dref w with
  | (none, w) => (none, w)
  | (some dh, w) =>
    match ddca.alloc w with
    | (false, w) => (none, ddca.closeDisplay dh w)
    | (true, w) => (some dh, w)

/-- The Linux backend. -/
def linuxImplementation (ddca : Ddca W D DH) : Implementation W D DH where
  getDisplayInfoList := linuxGetDisplayInfoList ddca
  -- it frees memory of the process only
  freeDisplayInfoList _ w := w
  openDisplay := linuxOpenDisplay ddca
  closeDisplay := ddca.closeDisplay
  getNonTableVcpValue := ddca.getNonTableVcpValue
  setNonTableVcpValue := ddca.setNonTableVcpValue
  calloc := ddca.alloc

/-! ## One error code for everything -/

/-- A list is handed out only when the query succeeded, found displays, and every allocation of
the builder succeeded. -/
theorem linuxGetDisplayInfoList_eq_some {ddca : Ddca W D DH} {w w' : W}
    {dlist : DisplayInfoList D} (h : linuxGetDisplayInfoList ddca w = (some dlist, w')) :
    ∃ dl w₁ w₂ w₃ w₄, ddca.getDisplayInfoList2 w = (0, some dl, w₁) ∧ dl.info ≠ [] ∧
      ddca.alloc w₁ = (true, w₂) ∧ ddca.alloc w₂ = (true, w₃) ∧
      linuxWrapRefs ddca dl.info w₃ = (true, w₄) ∧
      dlist.info = dl.info.map linuxDisplayInfo := by
  unfold linuxGetDisplayInfoList at h
  rcases hq : ddca.getDisplayInfoList2 w with ⟨st, _ | dl, w₁⟩
  · rw [hq] at h
    cases h
  simp only [hq] at h
  by_cases hst : st ≠ 0 ∨ dl.info.length = 0
  · rw [if_pos hst] at h
    cases h
  rw [if_neg hst] at h
  obtain ⟨hst, hl⟩ := not_or.mp hst
  rcases ha : ddca.alloc w₁ with ⟨_ | _, w₂⟩
  · rw [ha] at h
    cases h
  rcases ha' : ddca.alloc w₂ with ⟨_ | _, w₃⟩
  · simp only [ha, ha'] at h
    cases h
  rcases hwr : linuxWrapRefs ddca dl.info w₃ with ⟨_ | _, w₄⟩
  · simp only [ha, ha', hwr] at h
    cases h
  simp only [ha, ha', hwr] at h
  cases h
  exact ⟨dl, w₁, w₂, w₃, w₄, by rw [not_not.mp hst], mt List.length_eq_zero_iff.mpr hl, ha, ha',
    hwr, rfl⟩

/-- A failed query is `DDC_ERROR`. -/
theorem linuxGetDisplayInfoList_of_status_ne {ddca : Ddca W D DH} {w : W}
    (h : (ddca.getDisplayInfoList2 w).1 ≠ 0) : (linuxGetDisplayInfoList ddca w).1 = none := by
  rcases hl : linuxGetDisplayInfoList ddca w with ⟨_ | dlist, w'⟩
  · rfl
  · obtain ⟨dl, w₁, -, -, -, hq, -⟩ := linuxGetDisplayInfoList_eq_some hl
    exact absurd (congrArg Prod.fst hq) h

end Dimmit
