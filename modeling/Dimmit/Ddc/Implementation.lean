import Dimmit.Brightness
import Mathlib.Algebra.Group.Nat.Defs

/-!
# The DDC backend interface

`platform/ddc/implementation.h`: what a platform supplies.  As with `Provider`, a backend acts
on a world `W` of its own; `R` is its type of display references and `H` its type of open
handles, the two opaque pointer types of the header.

`DDC_Status` has two values that callers tell apart, `DDC_OK` and the rest, so a call that
returns a result through an out-parameter is an `Option` here.  The `flags` argument is 0 at
every call and is left out.
-/

namespace Dimmit

/-- `DDC_Display_Info`. -/
structure DisplayInfo (R : Type) where
  dref : R
  vendorId : UInt32
  productId : UInt32
  isBuiltin : Bool
deriving DecidableEq, Repr

/-- `DDC_Display_Info_List`.  Its count is an `int`, so the array is no longer than that. -/
structure DisplayInfoList (R : Type) where
  info : List (DisplayInfo R)
  ct_lt : info.length < 2 ^ 31
deriving DecidableEq

/-- `DDC_Non_Table_Vcp_Value`. -/
structure NonTableVcpValue where
  mh : UInt8
  ml : UInt8
  sh : UInt8
  sl : UInt8
deriving DecidableEq, Repr

/-- The functions a platform implements, and the allocator of the process. -/
structure Implementation (W R H : Type) where
  /-- `ddc_implementation_get_display_info_list`: `none` is any status but `DDC_OK`. -/
  getDisplayInfoList : W → Option (DisplayInfoList R) × W
  /-- `ddc_implementation_free_display_info_list`. -/
  freeDisplayInfoList : DisplayInfoList R → W → W
  /-- `ddc_implementation_open_display`. -/
  openDisplay : R → W → Option H × W
  /-- `ddc_implementation_close_display`, whose status no caller looks at. -/
  closeDisplay : H → W → W
  /-- `ddc_implementation_get_non_table_vcp_value`. -/
  getNonTableVcpValue : H → UInt8 → W → Option NonTableVcpValue × W
  /-- `ddc_implementation_set_non_table_vcp_value`: whether it returned `DDC_OK`. -/
  setNonTableVcpValue : H → UInt8 → UInt8 → UInt8 → W → Bool × W
  /-- `calloc`: whether the allocation succeeded. -/
  calloc : W → Bool × W

variable {W R H : Type}

/-- A call across the interface, with its outcome. -/
inductive DdcEvent (R H : Type) where
  | listed (answer : Option (DisplayInfoList R))
  | freed (list : DisplayInfoList R)
  | opened (dref : R) (answer : Option H)
  | closed (handle : H)
  | read (handle : H) (feature : UInt8) (answer : Option NonTableVcpValue)
  | wrote (handle : H) (feature hi lo : UInt8) (ok : Bool)
deriving DecidableEq

/-- The same backend, writing each call to a log. -/
def Implementation.logged (impl : Implementation W R H) :
    Implementation (W × List (DdcEvent R H)) R H where
  getDisplayInfoList s :=
    let (answer, w) := impl.getDisplayInfoList s.1
    (answer, w, s.2 ++ [.listed answer])
  freeDisplayInfoList list s := (impl.freeDisplayInfoList list s.1, s.2 ++ [.freed list])
  openDisplay r s :=
    let (answer, w) := impl.openDisplay r s.1
    (answer, w, s.2 ++ [.opened r answer])
  closeDisplay h s := (impl.closeDisplay h s.1, s.2 ++ [.closed h])
  getNonTableVcpValue h feature s :=
    let (answer, w) := impl.getNonTableVcpValue h feature s.1
    (answer, w, s.2 ++ [.read h feature answer])
  setNonTableVcpValue h feature hi lo s :=
    let (ok, w) := impl.setNonTableVcpValue h feature hi lo s.1
    (ok, w, s.2 ++ [.wrote h feature hi lo ok])
  calloc s :=
    let (ok, w) := impl.calloc s.1
    (ok, w, s.2)

/-- Every call but the write keeps the fact `I` about the world. -/
structure Implementation.Keeps (impl : Implementation W R H) (I : W → Prop) : Prop where
  getDisplayInfoList : ∀ {w}, I w → I (impl.getDisplayInfoList w).2
  freeDisplayInfoList : ∀ {w} (list), I w → I (impl.freeDisplayInfoList list w)
  openDisplay : ∀ {w} (r), I w → I (impl.openDisplay r w).2
  closeDisplay : ∀ {w} (h), I w → I (impl.closeDisplay h w)
  getNonTableVcpValue : ∀ {w} (h feature), I w → I (impl.getNonTableVcpValue h feature w).2
  calloc : ∀ {w}, I w → I (impl.calloc w).2

end Dimmit
