import Dimmit.Ddc.Implementation
import Dimmit.Lib.Numeral

/-!
# The DDC provider

`platform/ddc/abstraction.c`: the packing of brightness into VCP bytes, the enumeration of the
controllable displays, and the provider the controller links against.  `brightness_enumerate`
of `brightness.c` has this one provider and hands its result through.
-/

namespace Dimmit

variable {W R H : Type}

/-- `VCP_BRIGHTNESS`. -/
def vcpBrightness : UInt8 := 0x10

/-! ## Packing -/

/-- `(hi << 8) | lo` on bytes promoted to `int`. -/
def word (hi lo : UInt8) : Int := ((hi.toNat <<< 8 ||| lo.toNat : Nat) : Int)

/-- `(uint8_t)((value >> 8) & 0xFF)`. -/
def hiByte (value : Int) : UInt8 := UInt8.ofInt (value / 256 % 256)

/-- `(uint8_t)(value & 0xFF)`. -/
def loByte (value : Int) : UInt8 := UInt8.ofInt (value % 256)

/-- `ddc_src_get`. -/
def ddcSrcGet (impl : Implementation W R H) (h : H) (w : W) : Option (Int × Int) × W :=
  match impl.getNonTableVcpValue h vcpBrightness w with
  | (none, w) => (none, w)
  | (some v, w) => (some (word v.sh v.sl, word v.mh v.ml), w)

/-- `ddc_src_set`. -/
def ddcSrcSet (impl : Implementation W R H) (h : H) (value : Int) (w : W) : Bool × W :=
  impl.setNonTableVcpValue h vcpBrightness (hiByte value) (loByte value) w

/-- `ddc_src_close`. -/
def ddcSrcClose (impl : Implementation W R H) (h : H) (w : W) : W := impl.closeDisplay h w

/-! ## Enumeration -/

/-- What `snprintf` leaves in a buffer of `size` bytes. -/
def snprintf (size : Nat) (text : CString) : CString := text.take (size - 1)

/-- `%04x`. -/
def hex4 (n : UInt32) : CString := Numeral.padded 16 4 n.toNat

/-- `%d` of a list position. -/
def decimal (i : Nat) : CString := Nat.toDigits 10 i

/-- The text `"ddc:%04x:%04x:%d"` stands for, before `snprintf` bounds it. -/
def displayIdText (i : Nat) (info : DisplayInfo R) : CString :=
  ['d', 'd', 'c'] ++ ':' :: (hex4 info.vendorId ++ ':' :: (hex4 info.productId ++ ':' :: decimal i))

/-- The `id` of the display at position `i` of the backend's list. -/
def displayId (i : Nat) (info : DisplayInfo R) : CString := snprintf 64 (displayIdText i info)

/-- The `label` of the display at position `i`: `"DDC display %d (%04x:%04x)"`. -/
def displayLabel (i : Nat) (info : DisplayInfo R) : CString :=
  snprintf 64 (['D', 'D', 'C', ' ', 'd', 'i', 's', 'p', 'l', 'a', 'y', ' '] ++ decimal i ++
    [' ', '('] ++ hex4 info.vendorId ++ ':' :: hex4 info.productId ++ [')'])

/-- The entry `arr[n]` for the display at position `i`, opened as `h`. -/
def displaySource (i : Nat) (info : DisplayInfo R) (h : H) : BrightnessSource H :=
  { ctx := h, id := displayId i info, label := displayLabel i info }

/-- The loop of `ddc_enumerate_sources`, from position `i` on.  The array `arr[0..n)` is the
list of the entries it keeps. -/
def enumerateFrom (impl : Implementation W R H) :
    Nat → List (DisplayInfo R) → W → List (BrightnessSource H) × W
  | _, [], w => ([], w)
  | i, info :: infos, w =>
    if info.isBuiltin then enumerateFrom impl (i + 1) infos w
    else
      match impl.openDisplay info.dref w with
      | (none, w) => enumerateFrom impl (i + 1) infos w
      | (some h, w) =>
        -- controllability rule: keep only displays that answer an initial read
        match impl.getNonTableVcpValue h vcpBrightness w with
        | (none, w) => enumerateFrom impl (i + 1) infos (impl.closeDisplay h w)
        | (some _, w) =>
          let (sources, w) := enumerateFrom impl (i + 1) infos w
          (displaySource i info h :: sources, w)

/-- `ddc_enumerate_sources`: `none` when it returns -1. -/
def ddcEnumerateSources (impl : Implementation W R H) (w : W) :
    Option (List (BrightnessSource H)) × W :=
  match impl.getDisplayInfoList w with
  | (none, w) => (some [], w)
  | (some dlist, w) =>
    match impl.calloc w with
    | (false, w) => (none, impl.freeDisplayInfoList dlist w)
    | (true, w) =>
      let (sources, w) := enumerateFrom impl 0 dlist.info w
      (some sources, impl.freeDisplayInfoList dlist w)

/-- The provider of every source: `brightness_enumerate` and `DDC_OPS`. -/
def ddcProvider (impl : Implementation W R H) : Provider W H where
  enumerate := ddcEnumerateSources impl
  get s := ddcSrcGet impl s.ctx
  set s := ddcSrcSet impl s.ctx
  close s := ddcSrcClose impl s.ctx
  calloc := impl.calloc

/-- The answer to a reading, without the world it leaves. -/
theorem ddcProvider_get_fst (impl : Implementation W R H) (s : BrightnessSource H) (w : W) :
    ((ddcProvider impl).get s w).1 = (impl.getNonTableVcpValue s.ctx vcpBrightness w).1.map
      fun v ↦ (word v.sh v.sl, word v.mh v.ml) := by
  change (ddcSrcGet impl s.ctx w).1 = _
  rw [ddcSrcGet]
  rcases impl.getNonTableVcpValue s.ctx vcpBrightness w with ⟨_ | v, w'⟩ <;> rfl

/-! ## What an enumeration can do -/

/-- What one pass of the loop does: it skips a built-in display, a display that does not open
or one that does not answer, and keeps any other. -/
theorem enumerateFrom_cases (impl : Implementation W R H) (i : Nat) (info : DisplayInfo R)
    (infos : List (DisplayInfo R)) (w : W) :
    (info.isBuiltin = true ∧
      enumerateFrom impl i (info :: infos) w = enumerateFrom impl (i + 1) infos w) ∨
    (∃ w', info.isBuiltin = false ∧ impl.openDisplay info.dref w = (none, w') ∧
      enumerateFrom impl i (info :: infos) w = enumerateFrom impl (i + 1) infos w') ∨
    (∃ h w' w'', info.isBuiltin = false ∧ impl.openDisplay info.dref w = (some h, w') ∧
      impl.getNonTableVcpValue h vcpBrightness w' = (none, w'') ∧
      enumerateFrom impl i (info :: infos) w =
        enumerateFrom impl (i + 1) infos (impl.closeDisplay h w'')) ∨
    (∃ h w' v w'', info.isBuiltin = false ∧ impl.openDisplay info.dref w = (some h, w') ∧
      impl.getNonTableVcpValue h vcpBrightness w' = (some v, w'') ∧
      enumerateFrom impl i (info :: infos) w =
        (displaySource i info h :: (enumerateFrom impl (i + 1) infos w'').1,
          (enumerateFrom impl (i + 1) infos w'').2)) := by
  rw [enumerateFrom]
  cases hb : info.isBuiltin with
  | true => exact .inl ⟨rfl, rfl⟩
  | false =>
      rcases ho : impl.openDisplay info.dref w with ⟨_ | h, w'⟩
      · exact .inr (.inl ⟨w', rfl, rfl, rfl⟩)
      rcases hr : impl.getNonTableVcpValue h vcpBrightness w' with ⟨_ | v, w''⟩
      · exact .inr (.inr (.inl ⟨h, w', w'', rfl, rfl, hr, by simp [hr]⟩))
      · exact .inr (.inr (.inr ⟨h, w', v, w'', rfl, rfl, hr, by simp [hr]⟩))

/-- How `ddc_enumerate_sources` ends: with no sources when the backend has no list, with -1 when
the array could not be allocated, and otherwise with what the loop kept. -/
theorem ddcEnumerateSources_cases (impl : Implementation W R H) (w : W) :
    (∃ w', impl.getDisplayInfoList w = (none, w') ∧
      ddcEnumerateSources impl w = (some [], w')) ∨
    (∃ dlist w' w'', impl.getDisplayInfoList w = (some dlist, w') ∧
      impl.calloc w' = (false, w'') ∧
      ddcEnumerateSources impl w = (none, impl.freeDisplayInfoList dlist w'')) ∨
    (∃ dlist w' w'', impl.getDisplayInfoList w = (some dlist, w') ∧
      impl.calloc w' = (true, w'') ∧
      ddcEnumerateSources impl w = (some (enumerateFrom impl 0 dlist.info w'').1,
        impl.freeDisplayInfoList dlist (enumerateFrom impl 0 dlist.info w'').2)) := by
  unfold ddcEnumerateSources
  rcases hl : impl.getDisplayInfoList w with ⟨_ | dlist, w'⟩
  · exact .inl ⟨w', rfl, rfl⟩
  · rcases hc : impl.calloc w' with ⟨_ | _, w''⟩
    · exact .inr (.inl ⟨dlist, w', w'', rfl, hc, by simp [hc]⟩)
    · exact .inr (.inr ⟨dlist, w', w'', rfl, hc, by simp [hc]⟩)

/-! ## Packing loses nothing in range -/

theorem word_eq (hi lo : UInt8) : word hi lo = hi.toNat * 256 + lo.toNat := by
  have h : hi.toNat <<< 8 ||| lo.toNat = hi.toNat <<< 8 + lo.toNat :=
    (Nat.shiftLeft_add_eq_or_of_lt lo.toNat_lt hi.toNat).symm
  rw [word, h, Nat.shiftLeft_eq]
  push_cast
  rfl

theorem word_nonneg (hi lo : UInt8) : 0 ≤ word hi lo := by
  rw [word_eq]; omega

theorem word_lt (hi lo : UInt8) : word hi lo < 65536 := by
  have := hi.toNat_lt
  have := lo.toNat_lt
  rw [word_eq]
  omega

theorem toNat_hiByte (value : Int) : ((hiByte value).toNat : Int) = value / 256 % 256 := by
  have h₀ : 0 ≤ value / 256 % 256 := Int.emod_nonneg _ (by decide)
  have h₁ : value / 256 % 256 < 256 := Int.emod_lt_of_pos _ (by decide)
  rw [hiByte, UInt8.ofInt, UInt8.toNat_ofNat']
  omega

theorem toNat_loByte (value : Int) : ((loByte value).toNat : Int) = value % 256 := by
  have h₀ : 0 ≤ value % 256 := Int.emod_nonneg _ (by decide)
  have h₁ : value % 256 < 256 := Int.emod_lt_of_pos _ (by decide)
  rw [loByte, UInt8.ofInt, UInt8.toNat_ofNat']
  omega

/-- Splitting a 16-bit value into bytes and recombining them gives it back. -/
theorem word_hiByte_loByte {value : Int} (h₀ : 0 ≤ value) (h₁ : value < 65536) :
    word (hiByte value) (loByte value) = value := by
  rw [word_eq, toNat_hiByte, toNat_loByte]
  omega

/-- And recombining two bytes into a value and splitting it gives them back. -/
theorem hiByte_word (hi lo : UInt8) : hiByte (word hi lo) = hi := by
  have hhi := hi.toNat_lt
  have hlo := lo.toNat_lt
  have hcast := toNat_hiByte (word hi lo)
  rw [word_eq] at hcast ⊢
  refine UInt8.toNat_inj.mp ?_
  omega

theorem loByte_word (hi lo : UInt8) : loByte (word hi lo) = lo := by
  have hhi := hi.toNat_lt
  have hlo := lo.toNat_lt
  have hcast := toNat_loByte (word hi lo)
  rw [word_eq] at hcast ⊢
  refine UInt8.toNat_inj.mp ?_
  omega

/-! ## Ids name positions -/

theorem length_displayIdText_le {i : Nat} (hi : i < 2 ^ 31) (info : DisplayInfo R) :
    (displayIdText i info).length ≤ 63 := by
  have hv : (hex4 info.vendorId).length ≤ 8 :=
    Numeral.length_padded_le (by decide) (by decide) (by decide) info.vendorId.toNat_lt
  have hp : (hex4 info.productId).length ≤ 8 :=
    Numeral.length_padded_le (by decide) (by decide) (by decide) info.productId.toNat_lt
  have hd : (decimal i).length ≤ 10 :=
    (Nat.length_toDigits_le_iff (by decide) (by decide)).2 (by omega)
  simp only [displayIdText, List.length_append, List.length_cons, List.length_nil]
  omega

/-- The buffer of an `id` is never too short. -/
theorem displayId_eq_text {i : Nat} (hi : i < 2 ^ 31) (info : DisplayInfo R) :
    displayId i info = displayIdText i info :=
  List.take_of_length_le (length_displayIdText_le hi info)

theorem hex4_injective : Function.Injective hex4 := fun _ _ h ↦
  UInt32.toNat_inj.mp (Numeral.padded_injective (by decide) (by decide) 4 h)

/-- An id determines the vendor, the product and the list position it was made from. -/
theorem displayId_eq_iff {i j : Nat} (hi : i < 2 ^ 31) (hj : j < 2 ^ 31)
    (a b : DisplayInfo R) :
    displayId i a = displayId j b ↔
      a.vendorId = b.vendorId ∧ a.productId = b.productId ∧ i = j := by
  have hex (n : UInt32) : ':' ∉ hex4 n := Numeral.colon_notMem_padded (by decide) (by decide) 4 _
  rw [displayId_eq_text hi, displayId_eq_text hj, displayIdText, displayIdText,
    Numeral.append_cons_inj (by decide) (by decide), Numeral.append_cons_inj (hex _) (hex _),
    Numeral.append_cons_inj (hex _) (hex _), hex4_injective.eq_iff, hex4_injective.eq_iff,
    decimal, decimal, (Numeral.toDigits_injective (by decide) (by decide)).eq_iff]
  simp

end Dimmit
