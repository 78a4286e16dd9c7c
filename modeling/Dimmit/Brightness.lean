import Mathlib.Data.List.Basic

/-!
# Generic brightness sources

`brightness.h`: a technology-independent handle to one controllable display, and the provider
behind it.  A provider acts on a world `W`, which is everything outside the controller: the
bus, the displays and their registers, the allocator.  Each call takes the world and hands
back its outcome and the world it leaves, so an arbitrary `W` is an arbitrary sequence of
outcomes.
-/

namespace Dimmit

/-- The characters of a C string before its terminator. -/
abbrev CString := List Char

/-- `brightness_source`.  The `ops` pointer is the provider the source belongs to. -/
structure BrightnessSource (Ctx : Type) where
  /-- Provider-private per-display state. -/
  ctx : Ctx
  /-- Key for reconcile. -/
  id : CString
  /-- Human-readable, for logs. -/
  label : CString
deriving DecidableEq, Repr

/-- The calls the controller makes: `brightness_enumerate`, the three entries of a source's
`brightness_ops`, and `calloc`.

A call through a source's own table, such as `s.ops->get(s.ctx, &cur, &max)`, is the field
`get` at the source `s`. -/
structure Provider (W Ctx : Type) where
  /-- `brightness_enumerate`: the sources, or `none` when it returns -1. -/
  enumerate : W → Option (List (BrightnessSource Ctx)) × W
  /-- `ops->get`: current and maximum, or `none` when it fails. -/
  get : BrightnessSource Ctx → W → Option (Int × Int) × W
  /-- `ops->set`: whether it returned 0. -/
  set : BrightnessSource Ctx → Int → W → Bool × W
  /-- `ops->close`. -/
  close : BrightnessSource Ctx → W → W
  /-- `calloc`: whether the allocation succeeded. -/
  calloc : W → Bool × W

variable {W Ctx : Type}

/-- `brightness_free`: close every source, in order. -/
def brightnessFree (P : Provider W Ctx) (sources : List (BrightnessSource Ctx)) (w : W) : W :=
  sources.foldl (fun w s ↦ P.close s w) w

/-! ## What the controller asks of its sources -/

/-- A call through a source's table. -/
inductive OpsEvent (Ctx : Type) where
  /-- `ops->get` and its answer. -/
  | get (source : BrightnessSource Ctx) (answer : Option (Int × Int))
  /-- `ops->set` of a value, and whether it succeeded. -/
  | set (source : BrightnessSource Ctx) (value : Int) (ok : Bool)
  /-- `ops->close`. -/
  | close (source : BrightnessSource Ctx)
deriving DecidableEq, Repr

/-- The source a call goes through. -/
def OpsEvent.source : OpsEvent Ctx → BrightnessSource Ctx
  | .get src _ | .set src _ _ | .close src => src

/-- The same provider, writing each call through a source's table to a log. -/
def Provider.logged (P : Provider W Ctx) : Provider (W × List (OpsEvent Ctx)) Ctx where
  enumerate s := ((P.enumerate s.1).1, (P.enumerate s.1).2, s.2)
  get src s := ((P.get src s.1).1, (P.get src s.1).2, s.2 ++ [.get src (P.get src s.1).1])
  set src v s :=
    ((P.set src v s.1).1, (P.set src v s.1).2, s.2 ++ [.set src v (P.set src v s.1).1])
  close src s := (P.close src s.1, s.2 ++ [.close src])
  calloc s := ((P.calloc s.1).1, (P.calloc s.1).2, s.2)

/-! ## Facts that only a write can change -/

/-- Every call but `ops->set` keeps the fact `I` about the world. -/
structure Provider.Keeps (P : Provider W Ctx) (I : W → Prop) : Prop where
  enumerate : ∀ {w}, I w → I (P.enumerate w).2
  get : ∀ {w} (s), I w → I (P.get s w).2
  close : ∀ {w} (s), I w → I (P.close s w)
  calloc : ∀ {w}, I w → I (P.calloc w).2

theorem Provider.Keeps.brightnessFree {P : Provider W Ctx} {I : W → Prop} (hP : P.Keeps I)
    (sources : List (BrightnessSource Ctx)) {w : W} (h : I w) :
    I (Dimmit.brightnessFree P sources w) := by
  induction sources generalizing w with
  | nil => exact h
  | cons s sources ih => exact ih (hP.close s h)

end Dimmit
