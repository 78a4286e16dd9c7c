import Dimmit.Ddc.Darwin

/-!
# The Intel glue

`platform/ddc/darwin/ddcctl.c` over ddcctl and IOKit, which are parameters.  A handle is the id
of the display, from which the framebuffer is resolved at each call.  The port that was seen
last is kept in the source for a log line only, and is left out.
-/

namespace Dimmit

variable {W : Type}

/-- The calls to IOKit and ddcctl, and the allocator. -/
structure Ddcctl (W : Type) where
  /-- `CGDisplayIOServicePort`: 0 is no port. -/
  ioServicePort : UInt32 → W → UInt32 × W
  /-- `DDCRead`: the maximum and the current value, or `none` when it fails or the command does
  not report success. -/
  ddcRead : UInt32 → UInt8 → W → Option (UInt8 × UInt8) × W
  /-- `DDCWrite` of a new value: whether it succeeded. -/
  ddcWrite : UInt32 → UInt8 → UInt8 → W → Bool × W
  /-- `calloc`: whether the allocation succeeded. -/
  alloc : W → Bool × W

/-- `is_supported_feature`, the same in both glues. -/
def isSupportedFeature (featureCode : UInt8) : Bool := featureCode == vcpBrightness

/-- `ddc_arch_open`. -/
def ddcctlOpen (lib : Ddcctl W) (dref : DarwinRef) (w : W) : Option UInt32 × W :=
  match lib.alloc w with
  | (false, w) => (none, w)
  | (true, w) =>
    let (port, w) := lib.ioServicePort dref.displayId w
    if port = 0 then (none, w) else (some dref.displayId, w)

/-- `ddc_arch_get_vcp`. -/
def ddcctlGetVcp (lib : Ddcctl W) (h : UInt32) (featureCode : UInt8) (w : W) :
    Option NonTableVcpValue × W :=
  if !isSupportedFeature featureCode then (none, w)
  else
    let (framebuffer, w) := lib.ioServicePort h w
    if framebuffer = 0 then (none, w)
    else
      match lib.ddcRead framebuffer featureCode w with
      | (none, w) => (none, w)
      | (some (maxValue, currentValue), w) =>
        (some { mh := 0, ml := maxValue, sh := 0, sl := currentValue }, w)

/-- `value8` of `ddc_arch_set_vcp`: one byte, saturating. -/
def value8 (hiByte loByte : UInt8) : UInt8 :=
  if word hiByte loByte > 255 then 255 else UInt8.ofInt (word hiByte loByte)

/-- One byte holds what one byte can. -/
theorem word_value8 {hiByte loByte : UInt8} (h : word hiByte loByte ≤ 255) :
    word 0 (value8 hiByte loByte) = word hiByte loByte := by
  have h₀ := word_nonneg hiByte loByte
  rw [value8, if_neg (not_lt.mpr h), word_eq, UInt8.ofInt, UInt8.toNat_ofNat']
  have hzero : (0 : UInt8).toNat = 0 := rfl
  rw [hzero]
  omega

/-- `ddc_arch_set_vcp`. -/
def ddcctlSetVcp (lib : Ddcctl W) (h : UInt32) (featureCode hiByte loByte : UInt8) (w : W) :
    Bool × W :=
  if !isSupportedFeature featureCode then (false, w)
  else
    let (framebuffer, w) := lib.ioServicePort h w
    if framebuffer = 0 then (false, w)
    else lib.ddcWrite framebuffer featureCode (value8 hiByte loByte) w

/-- The Intel glue. -/
def ddcctlArch (lib : Ddcctl W) : DarwinArch W UInt32 where
  openDisplay := ddcctlOpen lib
  close _ w := w
  getVcp := ddcctlGetVcp lib
  setVcp := ddcctlSetVcp lib

end Dimmit
