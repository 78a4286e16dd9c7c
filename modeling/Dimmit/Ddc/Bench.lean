import Dimmit.Ddc.Implementation

/-!
# A bench for the controller

A backend small enough to run by hand, for the examples of the modules above: it answers each
poll from a table, numbers the handles it gives out and keeps one register per display.
-/

namespace Dimmit

/-- A handle of the bench: its number and the display it was opened for. -/
structure BenchHandle where
  serial : Nat
  dref : Nat
deriving DecidableEq, Repr

/-- The state of the bench. -/
structure Bench where
  /-- How often the list was asked for. -/
  polled : Nat
  /-- How many handles were given out. -/
  opened : Nat
  /-- The brightness register of each display. -/
  registers : List NonTableVcpValue
deriving DecidableEq, Repr

/-- The register of a display, all zeros for one the bench does not have. -/
def Bench.register (w : Bench) (r : Nat) : NonTableVcpValue :=
  (w.registers[r]?).getD ⟨0, 0, 0, 0⟩

/-- A bench fresh from its box. -/
def Bench.ready (registers : List NonTableVcpValue) : Bench :=
  { polled := 0, opened := 0, registers := registers }

/-- The backend that lists `polls n` at its `n`-th poll. -/
def bench (polls : Nat → Option (DisplayInfoList Nat)) :
    Implementation Bench Nat BenchHandle where
  getDisplayInfoList w := (polls w.polled, { w with polled := w.polled + 1 })
  freeDisplayInfoList _ w := w
  openDisplay r w := (some ⟨w.opened, r⟩, { w with opened := w.opened + 1 })
  closeDisplay _ w := w
  getNonTableVcpValue h _ w := (some (w.register h.dref), w)
  setNonTableVcpValue h _ hi lo w :=
    (true, { w with
      registers := w.registers.modify h.dref fun v ↦ { v with sh := hi, sl := lo } })
  calloc w := (true, w)

end Dimmit
