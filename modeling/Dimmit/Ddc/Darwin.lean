import Dimmit.Ddc.Abstraction

/-!
# The macOS backend

`platform/ddc/darwin.c`, which lists the displays of CoreGraphics and leaves the bus to one of
two glues, `arch.h`: `Dimmit.Ddc.Darwin.Ddcctl` on Intel and `Dimmit.Ddc.Darwin.M1ddc` on Apple
Silicon.
-/

namespace Dimmit

variable {W H : Type}

/-- `struct DDC_Display_Ref_s` of `arch.h`. -/
structure DarwinRef where
  displayId : UInt32
  vendorId : UInt32
  productId : UInt32
  isBuiltin : Bool
deriving DecidableEq, Repr

/-- The functions of `arch.h`. -/
structure DarwinArch (W H : Type) where
  /-- `ddc_arch_open`. -/
  openDisplay : DarwinRef → W → Option H × W
  /-- `ddc_arch_close`. -/
  close : H → W → W
  /-- `ddc_arch_get_vcp`. -/
  getVcp : H → UInt8 → W → Option NonTableVcpValue × W
  /-- `ddc_arch_set_vcp`. -/
  setVcp : H → UInt8 → UInt8 → UInt8 → W → Bool × W

/-- The calls to CoreGraphics, and the allocator. -/
structure CoreGraphics (W : Type) where
  /-- `CGGetOnlineDisplayList` with room for so many displays: `none` is any result but
  `kCGErrorSuccess`. -/
  getOnlineDisplayList : (room : Nat) → W → Option { ids : List UInt32 // ids.length ≤ room } × W
  /-- `CGDisplayVendorNumber`. -/
  vendorNumber : UInt32 → W → UInt32
  /-- `CGDisplayModelNumber`. -/
  modelNumber : UInt32 → W → UInt32
  /-- `CGDisplayIsBuiltin`. -/
  isBuiltin : UInt32 → W → Bool
  /-- `malloc` and `calloc`: whether the allocation succeeded. -/
  alloc : W → Bool × W

/-- The reference made for a display. -/
def darwinRef (cg : CoreGraphics W) (id : UInt32) (w : W) : DarwinRef where
  displayId := id
  vendorId := cg.vendorNumber id w
  productId := cg.modelNumber id w
  isBuiltin := cg.isBuiltin id w

/-- The entry of the list for a reference. -/
def darwinDisplayInfo (dref : DarwinRef) : DisplayInfo DarwinRef where
  dref := dref
  vendorId := dref.vendorId
  productId := dref.productId
  isBuiltin := dref.isBuiltin

/-- The loop of `ddc_implementation_get_display_info_list`.  A display whose reference cannot be
allocated is passed over. -/
def darwinDisplayInfos (cg : CoreGraphics W) :
    List UInt32 → W → List (DisplayInfo DarwinRef) × W
  | [], w => ([], w)
  | id :: ids, w =>
    match cg.alloc w with
    | (false, w) => darwinDisplayInfos cg ids w
    | (true, w) =>
      let (infos, w') := darwinDisplayInfos cg ids w
      (darwinDisplayInfo (darwinRef cg id w) :: infos, w')

theorem length_darwinDisplayInfos (cg : CoreGraphics W) (ids : List UInt32) (w : W) :
    (darwinDisplayInfos cg ids w).1.length ≤ ids.length := by
  induction ids generalizing w with
  | nil => exact Nat.le_refl 0
  | cons id ids ih =>
      rw [darwinDisplayInfos]
      rcases cg.alloc w with ⟨_ | _, w'⟩
      · exact (ih w').trans (Nat.le_succ _)
      · exact Nat.succ_le_succ (ih w')

/-- `ddc_implementation_get_display_info_list`. -/
def darwinGetDisplayInfoList (cg : CoreGraphics W) (w : W) :
    Option (DisplayInfoList DarwinRef) × W :=
  match cg.getOnlineDisplayList 16 w with
  | (none, w) => (none, w)
  | (some displays, w) =>
    if displays.1.length = 0 then (none, w)
    else
      match cg.alloc w with
      | (false, w) => (none, w)
      | (true, w) =>
        match cg.alloc w with
        | (false, w) => (none, w)
        | (true, w) =>
          (some ⟨(darwinDisplayInfos cg displays.1 w).1,
            ((length_darwinDisplayInfos cg displays.1 w).trans displays.2).trans_lt (by decide)⟩,
            (darwinDisplayInfos cg displays.1 w).2)

/-- `ddc_implementation_open_display`. -/
def darwinOpenDisplay (arch : DarwinArch W H) (dref : DarwinRef) (w : W) : Option H × W :=
  if dref.isBuiltin then (none, w) else arch.openDisplay dref w

/-- `ddc_implementation_set_non_table_vcp_value`. -/
def darwinSetNonTableVcpValue (arch : DarwinArch W H) (h : H) (featureCode hiByte loByte : UInt8)
    (w : W) : Bool × W :=
  if word hiByte loByte < 0 ∨ word hiByte loByte > 100 then (false, w)
  else arch.setVcp h featureCode hiByte loByte w

/-- The macOS backend. -/
def darwinImplementation (cg : CoreGraphics W) (arch : DarwinArch W H) :
    Implementation W DarwinRef H where
  getDisplayInfoList := darwinGetDisplayInfoList cg
  -- it frees memory of the process only
  freeDisplayInfoList _ w := w
  openDisplay := darwinOpenDisplay arch
  closeDisplay := arch.close
  getNonTableVcpValue := arch.getVcp
  setNonTableVcpValue := darwinSetNonTableVcpValue arch
  calloc := cg.alloc

/-! ## The cap on writes -/

/-- A write is handed on as it is up to 100, and refused above. -/
theorem darwinSetNonTableVcpValue_eq (arch : DarwinArch W H) (h : H) (featureCode : UInt8)
    {value : Int} (h₀ : 0 ≤ value) (h₁ : value < 65536) (w : W) :
    darwinSetNonTableVcpValue arch h featureCode (hiByte value) (loByte value) w =
      if value ≤ 100 then arch.setVcp h featureCode (hiByte value) (loByte value) w
      else (false, w) := by
  unfold darwinSetNonTableVcpValue
  rw [word_hiByte_loByte h₀ h₁]
  by_cases hv : value ≤ 100
  · rw [if_neg (by omega), if_pos hv]
  · rw [if_pos (by omega), if_neg hv]

end Dimmit
