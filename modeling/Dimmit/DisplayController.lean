import Dimmit.Brightness
import Dimmit.Dimmer

/-!
# The display controller

The functions of `display_controller.c`.  A `for` loop over a C array is a recursion over the
list of its entries, and calls run in the order of the source.

Every function of the source starts with a test for a null controller.  The functions on
`Controller` are the bodies behind that test; the functions under the source's full names, on
`Option (Controller Ctx)`, add it.
-/

namespace Dimmit

variable {W Ctx : Type}

/-- `managed_display`. -/
structure ManagedDisplay (Ctx : Type) where
  src : BrightnessSource Ctx
  dim : Dimmer
deriving DecidableEq, Repr

/-- `struct display_controller`.  The field `count` of the source is the common length of the
two arrays. -/
structure Controller (Ctx : Type) where
  /-- Owned array from `brightness_enumerate`. -/
  sources : List (BrightnessSource Ctx)
  /-- Parallel to `sources`. -/
  displays : List (ManagedDisplay Ctx)
deriving DecidableEq, Repr

/-! ## `controller_open` -/

/-- The first dimmer of a display: from its own reading, or 0 of 100 when that fails. -/
def initialDimmer (P : Provider W Ctx) (s : BrightnessSource Ctx) (w : W) : Dimmer × W :=
  match P.get s w with
  | (some (cur, max), w) => (dimmerInit cur max, w)
  | (none, w) => (dimmerInit 0 100, w)

/-- The loop of `controller_open`. -/
def openDisplays (P : Provider W Ctx) :
    List (BrightnessSource Ctx) → W → List (ManagedDisplay Ctx) × W
  | [], w => ([], w)
  | s :: sources, w =>
    let (dim, w) := initialDimmer P s w
    let (displays, w) := openDisplays P sources w
    (⟨s, dim⟩ :: displays, w)

/-- `controller_open`: `none` is the null pointer. -/
def controllerOpen (P : Provider W Ctx) (w : W) : Option (Controller Ctx) × W :=
  match P.calloc w with
  | (false, w) => (none, w)
  | (true, w) =>
    match P.enumerate w with
    | (none, w) => (none, w)
    | (some sources, w) =>
      if sources.length > 0 then
        match P.calloc w with
        | (false, w) => (none, brightnessFree P sources w)
        | (true, w) =>
          let (displays, w) := openDisplays P sources w
          (some ⟨sources, displays⟩, w)
      else (some ⟨sources, []⟩, w)

namespace Controller

/-! ## `controller_adjust` -/

/-- One press on one display: the fraction of its own maximum. -/
def adjustDisplay (fraction : ℚ) (m : ManagedDisplay Ctx) : ManagedDisplay Ctx :=
  { m with dim := dimmerAdjust m.dim (dimmerDeltaForFraction (dimmerMax m.dim) fraction) }

/-- `controller_adjust`. -/
def adjust (c : Controller Ctx) (fraction : ℚ) : Controller Ctx :=
  { c with displays := c.displays.map (adjustDisplay fraction) }

/-! ## `controller_service` -/

/-- One pass of the loop of `controller_service`, with what it adds to `applied`. -/
def serviceDisplay (P : Provider W Ctx) (m : ManagedDisplay Ctx) (w : W) :
    ManagedDisplay Ctx × Nat × W :=
  match dimmerDue m.dim with
  | none => (m, 0, w)
  | some target =>
    match P.set m.src target w with
    | (true, w) => ({ m with dim := dimmerCommit m.dim target }, 1, w)
    | (false, w) => ({ m with dim := dimmerSettled m.dim }, 0, w)

/-- The loop of `controller_service`. -/
def serviceDisplays (P : Provider W Ctx) :
    List (ManagedDisplay Ctx) → W → List (ManagedDisplay Ctx) × Nat × W
  | [], w => ([], 0, w)
  | m :: displays, w =>
    let (m, n, w) := serviceDisplay P m w
    let (displays, applied, w) := serviceDisplays P displays w
    (m :: displays, n + applied, w)

/-- `controller_service`: the controller, the number of displays written and the world. -/
def service (P : Provider W Ctx) (c : Controller Ctx) (w : W) : Controller Ctx × Nat × W :=
  let (displays, applied, w) := serviceDisplays P c.displays w
  ({ c with displays := displays }, applied, w)

/-! ## `controller_reconcile` -/

/-- The dimmer `displays[j].dim` at the first `j` whose source has the id `id`. -/
def matched (c : Controller Ctx) (id : CString) : Option Dimmer :=
  ((c.sources.zip c.displays).find? fun p ↦ p.1.id == id).map fun p ↦ p.2.dim

/-- The first loop of `controller_reconcile`, which fills the array `next`. -/
def nextDisplays (P : Provider W Ctx) (c : Controller Ctx) :
    List (BrightnessSource Ctx) → W → List (ManagedDisplay Ctx) × W
  | [], w => ([], w)
  | s :: fresh, w =>
    match c.matched s.id with
    | some dim =>
      let (next, w) := nextDisplays P c fresh w
      (⟨s, dim⟩ :: next, w)
    | none =>
      let (dim, w) := initialDimmer P s w
      let (next, w) := nextDisplays P c fresh w
      (⟨s, dim⟩ :: next, w)

/-- Whether an old source's id is among the fresh ones. -/
def survived (fresh : List (BrightnessSource Ctx)) (s : BrightnessSource Ctx) : Bool :=
  fresh.any fun f ↦ f.id == s.id

/-- The second loop of `controller_reconcile`: close the sources that did not survive. -/
def closeVanished (P : Provider W Ctx) (fresh : List (BrightnessSource Ctx)) :
    List (BrightnessSource Ctx) → W → W
  | [], w => w
  | s :: sources, w =>
    if survived fresh s then closeVanished P fresh sources w
    else closeVanished P fresh sources (P.close s w)

/-- The part of `controller_reconcile` behind its two early returns. -/
def adopt (P : Provider W Ctx) (c : Controller Ctx) (fresh : List (BrightnessSource Ctx))
    (w : W) : Controller Ctx × W :=
  let (next, w) := nextDisplays P c fresh w
  (⟨fresh, next⟩, closeVanished P fresh c.sources w)

/-- `controller_reconcile`. -/
def reconcile (P : Provider W Ctx) (c : Controller Ctx) (w : W) : Controller Ctx × W :=
  match P.enumerate w with
  | (none, w) => (c, w)
  | (some fresh, w) =>
    if fresh.length > 0 then
      match P.calloc w with
      | (false, w) => (c, brightnessFree P fresh w)
      | (true, w) => c.adopt P fresh w
    else c.adopt P fresh w

end Controller

/-! ## The functions of the header -/

/-- `controller_count`. -/
def controllerCount : Option (Controller Ctx) → Nat
  | none => 0
  | some c => c.sources.length

/-- `controller_adjust`. -/
def controllerAdjust (c : Option (Controller Ctx)) (fraction : ℚ) : Option (Controller Ctx) :=
  c.map fun c ↦ c.adjust fraction

/-- `controller_service`. -/
def controllerService (P : Provider W Ctx) :
    Option (Controller Ctx) → W → Option (Controller Ctx) × Nat × W
  | none, w => (none, 0, w)
  | some c, w =>
    let (c, applied, w) := c.service P w
    (some c, applied, w)

/-- `controller_reconcile`. -/
def controllerReconcile (P : Provider W Ctx) :
    Option (Controller Ctx) → W → Option (Controller Ctx) × W
  | none, w => (none, w)
  | some c, w =>
    let (c, w) := c.reconcile P w
    (some c, w)

/-- `controller_current`. -/
def controllerCurrent (c : Option (Controller Ctx)) (i : Int) : Int :=
  if i < 0 then -1
  else
    match c.bind fun c ↦ c.displays[i.toNat]? with
    | none => -1
    | some m => m.dim.current

/-- `controller_close`. -/
def controllerClose (P : Provider W Ctx) : Option (Controller Ctx) → W → W
  | none, w => w
  | some c, w => brightnessFree P c.sources w

end Dimmit
