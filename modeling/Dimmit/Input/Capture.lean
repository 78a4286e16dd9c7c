import Dimmit.Lib.Trace
import Dimmit.Process.Levels

/-!
# The protocol of the key capture

`input.h` has two functions, and the daemon relies on what lies between them: `input_start` comes to
one result, keys are pressed only by a thread that it started and that has not returned, and when
`input_stop` returns there is none.  `Capture.Permits` is this protocol.  The process keeps to it,
and so do the backends.
-/

namespace Dimmit

open Run Trace

variable {W R H Ctx O S : Type}

/-- What is seen of a key capture. -/
inductive CaptureAction where
  /-- `input_start` comes to its result: whether it is 0. -/
  | started (ok : Bool)
  /-- `g_on_adjust` is called. -/
  | pressed (fraction : ℚ)
  /-- `input_stop` is called. -/
  | asked
  /-- The thread returns. -/
  | returned
  /-- `input_stop` returns. -/
  | joined
deriving DecidableEq, Repr

namespace Capture

def step (c : Capture) : CaptureAction → Capture
  | .started ok => if ok then capturing else c
  | .asked => if c = capturing then asked else c
  | .returned => returned
  | .pressed _ | .joined => c

def Permits (c : Capture) : CaptureAction → Prop
  | .started _ => c = absent
  | .pressed _ | .returned => ¬ c.Gone
  | .asked => True
  | .joined => c.Gone

instance (c : Capture) : DecidablePred c.Permits
  | .started _ => inferInstanceAs (Decidable (c = absent))
  | .pressed _ | .returned => inferInstanceAs (Decidable (¬ c.Gone))
  | .asked => inferInstanceAs (Decidable True)
  | .joined => inferInstanceAs (Decidable c.Gone)

end Capture

/-! ## The process keeps to it -/

/-- `main` has not come to `input_start`, or to its result. -/
def MainPc.Early : MainPc S → Prop
  | createWorker | startInput => True
  | unlinkStale | openSocket | serving _ _ | closing _ _ _ => False

namespace Process

/-- What a step shows of the key capture. -/
def captureActions (sys : DaemonSystem O S) (p : Process W Ctx O S) :
    ProcessEvent → List CaptureAction
  | .main =>
    match p.main with
    | .startInput => [.started (sys.inputStart p.os).1]
    | .closing _ _ .stopInput => [.asked]
    | .closing _ _ .joinInput => if p.capture.Gone then [.joined] else []
    | _ => []
  | .press fraction =>
    if ¬ p.capture.Gone ∧ p.daemon.owner = none ∧ p.daemon.clients .keyCapture = .idle then
      [.pressed fraction]
    else []
  | .keyReturn =>
    if ¬ p.capture.Gone ∧ p.daemon.clients .keyCapture = .idle then [.returned] else []
  | .work | .wake | .key | .interrupt => []

/-- The process has come to `c`. -/
structure Captures (p : Process W Ctx O S) (c : Capture) : Prop where
  capture_eq : p.capture = c
  early : p.main.Early → c = .absent

variable {sys : DaemonSystem O S} {P : Provider W Ctx} {p : Process W Ctx O S}

theorem not_early_serve (sock : S) (pc : ServePc S) (hm : p.main = .serving sock pc) :
    ¬ (p.serve sys P sock pc).main.Early := by
  unfold serve cleanup
  cases pc with
  | bind | listen | loop | select | accept | authorize client =>
      dsimp only
      split <;> exact id
  | read client =>
      dsimp only
      split_ifs <;> exact id
  | lock call client =>
      dsimp only
      split_ifs
      · exact id
      · rw [hm]
        exact id
  | afterBind | locked client | closeClient client => exact id

theorem captures_close {c : Capture} (h : p.Captures c) {sock : Option S} {bound : Bool}
    {pc : ClosePc} (hm : p.main = .closing sock bound pc) :
    Along Capture.step Capture.Permits c (p.captureActions sys .main) ∧
      (p.close sys P sock bound pc).Captures ((p.captureActions sys .main).foldl Capture.step c) := by
  obtain ⟨rfl, -⟩ := h
  unfold captureActions close
  rw [hm]
  cases pc with
  | stopInput => exact ⟨⟨trivial, trivial⟩, rfl, False.elim⟩
  | joinInput =>
      dsimp only
      split_ifs with hgone
      · exact ⟨⟨hgone, trivial⟩, rfl, False.elim⟩
      · refine ⟨trivial, rfl, ?_⟩
        rw [hm]
        exact False.elim
  | signalWorker | joinWorker =>
      dsimp only
      split_ifs <;> refine ⟨trivial, rfl, ?_⟩ <;> first | exact False.elim | (rw [hm]; exact False.elim)
  | clearRunning | closeSocket | unlinkSocket | closeController | netCleanup =>
      exact ⟨trivial, rfl, False.elim⟩
  | exited =>
      refine ⟨trivial, rfl, ?_⟩
      rw [hm]
      exact False.elim

theorem captures_mainStep {c : Capture} (h : p.Captures c) :
    Along Capture.step Capture.Permits c (p.captureActions sys .main) ∧
      (p.mainStep sys P).Captures ((p.captureActions sys .main).foldl Capture.step c) := by
  unfold mainStep
  cases hm : p.main with
  | createWorker =>
      have habsent := h.early (by rw [hm]; trivial)
      unfold captureActions cleanup
      rw [hm]
      dsimp only
      split
      · exact ⟨trivial, h.capture_eq, fun _ ↦ habsent⟩
      · exact ⟨trivial, h.capture_eq, False.elim⟩
  | startInput =>
      have habsent := h.early (by rw [hm]; trivial)
      unfold captureActions
      rw [hm]
      dsimp only
      rcases sys.inputStart p.os with ⟨_ | _, o⟩
      · exact ⟨⟨habsent, trivial⟩, h.capture_eq, False.elim⟩
      · exact ⟨⟨habsent, trivial⟩, rfl, False.elim⟩
  | unlinkStale =>
      unfold captureActions
      rw [hm]
      exact ⟨trivial, h.capture_eq, False.elim⟩
  | openSocket =>
      unfold captureActions cleanup
      rw [hm]
      dsimp only
      split <;> exact ⟨trivial, h.capture_eq, False.elim⟩
  | serving sock pc =>
      unfold captureActions
      rw [hm]
      exact ⟨trivial, (capture_serve sock pc).trans h.capture_eq,
        fun hearly ↦ absurd hearly (not_early_serve sock pc hm)⟩
  | closing sock bound pc => exact captures_close h hm

theorem captures_step {c : Capture} (h : p.Captures c) (e : ProcessEvent) :
    Along Capture.step Capture.Permits c (p.captureActions sys e) ∧
      (p.step sys P e).Captures ((p.captureActions sys e).foldl Capture.step c) := by
  cases e with
  | main => exact captures_mainStep h
  | work | wake =>
      unfold Process.step
      dsimp only
      split_ifs <;> exact ⟨trivial, h.capture_eq, h.early⟩
  | press fraction =>
      obtain ⟨rfl, hearly⟩ := h
      unfold Process.step captureActions
      dsimp only
      by_cases hgone : p.capture.Gone
      · rw [if_pos hgone, if_neg fun h ↦ h.1 hgone]
        exact ⟨trivial, rfl, hearly⟩
      · rw [if_neg hgone]
        split_ifs
        · exact ⟨⟨hgone, trivial⟩, rfl, hearly⟩
        · exact ⟨trivial, rfl, hearly⟩
  | keyReturn =>
      obtain ⟨rfl, hearly⟩ := h
      unfold Process.step captureActions
      dsimp only
      split_ifs with hreturn
      · refine ⟨⟨hreturn.1, trivial⟩, rfl, fun hmain ↦ absurd ?_ hreturn.1⟩
        rw [hearly hmain]
        trivial
      · exact ⟨trivial, rfl, hearly⟩
  | key | interrupt => exact ⟨trivial, h.capture_eq, h.early⟩

/-- **The process keeps to the protocol** in every run, whatever its threads do. -/
theorem captures_run {o : O} {w : W} (h : startup sys P o w = .ok p) (events : List ProcessEvent) :
    let actions := trace (Process.step sys P) (captureActions sys) p events
    Along Capture.step Capture.Permits .absent actions ∧
      (p.run sys P events).capture = actions.foldl Capture.step .absent := by
  intro actions
  have hstart : p.Captures .absent := by
    obtain ⟨-, o', rfl⟩ := startup_eq_ok h
    exact ⟨rfl, fun _ ↦ rfl⟩
  obtain ⟨halong, hcaptures⟩ := along_trace (R := Captures) (fun _ _ e hc ↦ captures_step hc e)
    hstart events
  exact ⟨halong, hcaptures.capture_eq⟩

end Process

end Dimmit
