import Dimmit.Input
import Dimmit.Input.Capture
import Dimmit.Lib.Rounds

/-!
# The key capture of Windows

`input_start`, `input_stop` and `input_thread` of `platform/input/windows.c`, and the window whose
messages the thread handles.  The caller waits for an event that the thread signals once it has a
window that receives raw input, or cannot have one; to stop it the caller posts a message and joins
the thread.  A step is one statement of either.

What the system answers is in the step: the calls that may fail say whether they did.
-/

namespace Dimmit

open Rounds Run Trace

/-- The next statement of the caller. -/
inductive WindowsCallerPc where
  /-- It has not called `input_start`. -/
  | idle
  | createEvent
  /-- `pthread_create`. -/
  | createThread
  /-- `WaitForSingleObject`. -/
  | wait
  /-- `CloseHandle`. -/
  | closeReady
  | testStartOk
  /-- The `pthread_join` of `input_start`. -/
  | joinFailed
  /-- None: `input_start` has returned 0, or -1. -/
  | started (ok : Bool)
  /-- The first statement of `input_stop`. -/
  | testStarted
  /-- `PostThreadMessage` of `WM_QUIT`. -/
  | postQuit
  /-- `PostMessageA` of `WM_CLOSE`. -/
  | postClose
  /-- The `pthread_join` of `input_stop`. -/
  | joinThread
  /-- None: `input_stop` has returned. -/
  | stopped
deriving DecidableEq, Repr

/-- The next statement of `input_thread`. -/
inductive WindowsInputPc where
  /-- There is no thread. -/
  | absent
  /-- `GetCurrentThreadId`, and the class of the window. -/
  | begin
  /-- `CreateWindowExA`. -/
  | createWindow
  /-- `RegisterRawInputDevices`. -/
  | register
  /-- The `DestroyWindow` where that fails. -/
  | destroyWindow
  /-- `InterlockedExchange` of 0, and the `SetEvent` after it. -/
  | denyStart
  | signalDenied
  /-- The return after it. -/
  | leaving
  /-- `InterlockedExchange` of 1, and the `SetEvent` after it. -/
  | allowStart
  | signalStarted
  | getMessage
  /-- `handle_raw_input`, with the calls of `g_on_adjust` it has left. -/
  | dispatch (adjusts : List ℚ)
  /-- The end of the thread, behind its loop. -/
  | cleanup
  | returned
deriving DecidableEq, Repr

/-- A message that was posted. -/
inductive PostedMessage where
  /-- `WM_QUIT`. -/
  | quit
  /-- `WM_CLOSE`, to the window. -/
  | close
deriving DecidableEq, Repr

/-- The static variables of the file, the window and the queue of the thread, and where the two
threads are. -/
structure WindowsInput where
  /-- `g_on_adjust` is set. -/
  onAdjust : Bool
  /-- `g_thread_started`. -/
  threadStarted : Bool
  /-- `g_hwnd` is not `NULL`. -/
  hwnd : Bool
  /-- `g_thread_id` is not 0. -/
  threadId : Bool
  /-- `g_ready`: whether the event is signalled. -/
  ready : Option Bool
  /-- `g_start_ok`. -/
  startOk : Bool
  /-- There is a window. -/
  window : Bool
  posted : List PostedMessage
  /-- `PostQuitMessage` was called. -/
  quitPosted : Bool
  caller : WindowsCallerPc
  thread : WindowsInputPc
deriving DecidableEq, Repr

/-- A step of the caller or of the thread. -/
inductive WindowsInputEvent where
  /-- `input_start` is called. -/
  | start
  /-- `input_stop` is called. -/
  | stop
  /-- The next statement of the caller: if it makes a call, the call succeeds or not. -/
  | caller (ok : Bool)
  /-- The next statement of the thread, likewise.  `GetMessage` hands over what was posted, and
  waits where nothing was. -/
  | thread (ok : Bool)
  /-- `GetMessage` hands over a `WM_INPUT`, about which the system answers `a`. -/
  | input (a : RawInputAnswers)

namespace WindowsInput

/-- The process has just started. -/
def fresh : WindowsInput where
  onAdjust := false
  threadStarted := false
  hwnd := false
  threadId := false
  ready := none
  startOk := false
  window := false
  posted := []
  quitPosted := false
  caller := .idle
  thread := .absent

/-- The next statement of `input_start` or `input_stop`. -/
def callerStep (s : WindowsInput) (ok : Bool) : WindowsInput :=
  match s.caller with
  | .createEvent =>
    if ok then
      { s with onAdjust := true, startOk := false, ready := some false, caller := .createThread }
    else { s with onAdjust := true, startOk := false, ready := none, caller := .started false }
  | .createThread =>
    if ok then { s with threadStarted := true, thread := .begin, caller := .wait }
    else { s with ready := none, caller := .started false }
  | .wait => if s.ready = some true then { s with caller := .closeReady } else s
  | .closeReady => { s with ready := none, caller := .testStartOk }
  | .testStartOk => { s with caller := if s.startOk then .started true else .joinFailed }
  | .joinFailed =>
    if s.thread = .returned then
      { s with threadStarted := false, threadId := false, caller := .started false }
    else s
  | .testStarted => { s with caller := if s.threadStarted then .postQuit else .stopped }
  | .postQuit =>
    -- a thread that has returned has no queue
    if s.threadId ∧ ok ∧ s.thread ≠ .returned then
      { s with posted := s.posted ++ [.quit], caller := .joinThread }
    else { s with caller := .postClose }
  | .postClose =>
    if s.hwnd ∧ ok ∧ s.window then
      { s with posted := s.posted ++ [.close], caller := .joinThread }
    else { s with caller := .joinThread }
  | .joinThread =>
    if s.thread = .returned then
      { s with threadStarted := false, threadId := false, onAdjust := false, caller := .stopped }
    else s
  | .idle | .started _ | .stopped => s

/-- `GetMessage` and `DispatchMessage`, for what was posted. -/
def takeMessage (s : WindowsInput) : WindowsInput :=
  match s.posted with
  | .quit :: posted => { s with posted := posted, thread := .cleanup }
  | .close :: posted =>
    -- `DefWindowProc` destroys the window, and `wnd_proc` calls `PostQuitMessage`
    if s.window then { s with posted := posted, window := false, quitPosted := true }
    else { s with posted := posted }
  | [] => if s.quitPosted then { s with thread := .cleanup } else s

/-- The next statement of `input_thread`. -/
def threadStep (s : WindowsInput) (ok : Bool) : WindowsInput :=
  match s.thread with
  | .begin => { s with threadId := true, thread := .createWindow }
  | .createWindow =>
    if ok then { s with hwnd := true, window := true, thread := .register }
    else { s with hwnd := false, thread := .denyStart }
  | .register => { s with thread := if ok then .allowStart else .destroyWindow }
  -- the `WM_QUIT` that `wnd_proc` posts here is not read, nor is the one at the end
  | .destroyWindow => { s with window := false, hwnd := false, thread := .denyStart }
  | .denyStart => { s with startOk := false, thread := .signalDenied }
  | .signalDenied => { s with ready := s.ready.map fun _ ↦ true, thread := .leaving }
  | .leaving => { s with thread := .returned }
  | .allowStart => { s with startOk := true, thread := .signalStarted }
  | .signalStarted => { s with ready := s.ready.map fun _ ↦ true, thread := .getMessage }
  | .getMessage => if ok then s.takeMessage else { s with thread := .cleanup }
  | .dispatch (_ :: adjusts) =>
    { s with thread := if s.onAdjust then .dispatch adjusts else .getMessage }
  | .dispatch [] => { s with thread := .getMessage }
  | .cleanup =>
    -- `DestroyWindow` fails where `WM_CLOSE` has destroyed it
    if s.hwnd then { s with window := false, hwnd := false, thread := .returned }
    else { s with thread := .returned }
  | .absent | .returned => s

def step (s : WindowsInput) : WindowsInputEvent → WindowsInput
  | .start => if s.caller = .idle then { s with caller := .createEvent } else s
  | .stop =>
    match s.caller with
    | .idle | .started _ => { s with caller := .testStarted }
    | _ => s
  | .caller ok => s.callerStep ok
  | .thread ok => s.threadStep ok
  | .input a =>
    if s.thread = .getMessage ∧ s.window then
      { s with thread := .dispatch (handleRawInput true a) }
    else s

def run (s : WindowsInput) (events : List WindowsInputEvent) : WindowsInput :=
  events.foldl step s

/-! ## What is seen of it -/

/-- `input_start` is about to return -1, if `ok` is the answer to its next call. -/
def Fails (s : WindowsInput) (ok : Bool) : Prop :=
  match s.caller with
  | .createEvent | .createThread => ok = false
  | .joinFailed => s.thread = .returned
  | _ => False

instance (s : WindowsInput) (ok : Bool) : Decidable (s.Fails ok) := by
  unfold Fails
  split <;> infer_instance

/-- What a step shows of the key capture.  It has started when the thread says so, and has not when
`input_start` returns -1. -/
def actions (s : WindowsInput) : WindowsInputEvent → List CaptureAction
  | .caller ok =>
    match s.caller with
    | .testStarted => .asked :: if s.threadStarted then [] else [.joined]
    | .joinThread => if s.thread = .returned then [.joined] else []
    | _ => if s.Fails ok then [.started false] else []
  | .thread _ =>
    match s.thread with
    | .signalStarted => [.started true]
    | .dispatch (fraction :: _) => if s.onAdjust then [.pressed fraction] else []
    | .cleanup => [.returned]
    | _ => []
  | .start | .stop | .input _ => []

/-- The key capture as the protocol has it. -/
def capture (s : WindowsInput) : Capture :=
  match s.thread with
  | .getMessage | .dispatch _ | .cleanup =>
    match s.caller with
    | .postQuit | .postClose | .joinThread | .stopped => .asked
    | _ => .capturing
  | .returned => if s.startOk then .returned else .absent
  | _ => .absent

end WindowsInput

/-! ## The invariant -/

namespace WindowsInputPc

/-- The thread has signalled the event. -/
def Signalled : WindowsInputPc → Prop
  | leaving | getMessage | dispatch _ | cleanup | returned => True
  | absent | begin | createWindow | register | destroyWindow | denyStart | signalDenied | allowStart
  | signalStarted => False

instance : DecidablePred Signalled
  | leaving | getMessage | dispatch _ | cleanup | returned => inferInstanceAs (Decidable True)
  | absent | begin | createWindow | register | destroyWindow | denyStart | signalDenied | allowStart
  | signalStarted => inferInstanceAs (Decidable False)

/-- The thread is in its loop. -/
def Looping : WindowsInputPc → Prop
  | getMessage | dispatch _ => True
  | absent | begin | createWindow | register | destroyWindow | denyStart | signalDenied | leaving
  | allowStart | signalStarted | cleanup | returned => False

instance : DecidablePred Looping
  | getMessage | dispatch _ => inferInstanceAs (Decidable True)
  | absent | begin | createWindow | register | destroyWindow | denyStart | signalDenied | leaving
  | allowStart | signalStarted | cleanup | returned => inferInstanceAs (Decidable False)

end WindowsInputPc

namespace WindowsInput

/-- The thread has signalled, and the caller has not joined it. -/
structure Signalled (s : WindowsInput) (ready : Option Bool) : Prop where
  thread : s.thread.Signalled
  threadStarted : s.threadStarted = true
  threadId : s.threadId = true
  ready_eq : s.ready = ready

/-- There is no thread any more, or never was one. -/
structure NotStarted (s : WindowsInput) : Prop where
  thread : s.thread = .absent ∨ s.thread = .returned ∧ s.startOk = false
  threadStarted : s.threadStarted = false
  ready_eq : s.ready = none

/-- What the next statement of the caller relies on. -/
def CallerInv (s : WindowsInput) : Prop :=
  match s.caller with
  | .idle | .createEvent => s.NotStarted ∧ s.thread = .absent
  | .createThread => s.thread = .absent ∧ s.threadStarted = false ∧ s.ready = some false ∧
      s.onAdjust = true
  | .wait => s.thread ≠ .absent ∧ s.threadStarted = true ∧ s.ready = some (decide s.thread.Signalled)
      ∧ (s.thread ≠ .begin → s.threadId = true)
  | .closeReady => s.Signalled (some true)
  | .testStartOk => s.Signalled none
  | .joinFailed => s.Signalled none ∧ s.startOk = false
  | .started true | .postQuit | .postClose | .joinThread => s.Signalled none ∧ s.startOk = true
  | .started false => s.NotStarted
  | .testStarted => s.NotStarted ∨ s.Signalled none ∧ s.startOk = true
  | .stopped => s.thread = .absent ∨ s.thread = .returned

/-- What the next statement of the thread relies on. -/
def ThreadInv (s : WindowsInput) : Prop :=
  match s.thread with
  | .absent => s.window = false ∧ s.hwnd = false
  | .begin | .createWindow => s.onAdjust = true ∧ s.window = false ∧ s.hwnd = false
  | .register | .destroyWindow | .allowStart => s.onAdjust = true ∧ s.window = true ∧ s.hwnd = true
  | .denyStart => s.onAdjust = true ∧ s.window = false
  | .signalDenied | .leaving => s.onAdjust = true ∧ s.window = false ∧ s.startOk = false
  | .signalStarted => s.onAdjust = true ∧ s.window = true ∧ s.hwnd = true ∧ s.startOk = true
  | .getMessage | .dispatch _ | .cleanup => s.onAdjust = true ∧ s.hwnd = true ∧ s.startOk = true ∧
      (s.window = false → s.quitPosted = true)
  | .returned => s.window = false

/-- Nothing was posted. -/
def Quiet (s : WindowsInput) : Prop := s.posted = [] ∧ s.quitPosted = false

structure Inv (s : WindowsInput) : Prop where
  caller : s.CallerInv
  thread : s.ThreadInv
  quiet : s.caller ≠ .joinThread → s.caller ≠ .stopped → s.Quiet

theorem inv_fresh : fresh.Inv where
  caller := ⟨⟨.inl rfl, rfl, rfl⟩, rfl⟩
  thread := ⟨rfl, rfl⟩
  quiet _ _ := ⟨rfl, rfl⟩

namespace Inv

variable {s : WindowsInput}

/-- A thread that is there and has not signalled is waited for. -/
theorem caller_eq_wait (h : s.Inv) (habsent : s.thread ≠ .absent) (hsig : ¬ s.thread.Signalled) :
    s.caller = .wait := by
  have hcaller := h.caller
  unfold CallerInv at hcaller
  have hreturned : s.thread ≠ .returned := by
    intro he
    rw [he] at hsig
    exact hsig trivial
  cases hc : s.caller with
  | wait => rfl
  | idle | createEvent =>
      rw [hc] at hcaller
      exact absurd hcaller.2 habsent
  | createThread =>
      rw [hc] at hcaller
      exact absurd hcaller.1 habsent
  | closeReady | testStartOk =>
      rw [hc] at hcaller
      exact absurd hcaller.thread hsig
  | joinFailed | postQuit | postClose | joinThread =>
      rw [hc] at hcaller
      exact absurd hcaller.1.thread hsig
  | started ok =>
      rw [hc] at hcaller
      cases ok with
      | true => exact absurd hcaller.1.thread hsig
      | false =>
          rcases hcaller.thread with he | ⟨he, -⟩
          · exact absurd he habsent
          · exact absurd he hreturned
  | testStarted =>
      rw [hc] at hcaller
      rcases hcaller with hnot | ⟨hlive, -⟩
      · rcases hnot.thread with he | ⟨he, -⟩
        · exact absurd he habsent
        · exact absurd he hreturned
      · exact absurd hlive.thread hsig
  | stopped =>
      rw [hc] at hcaller
      rcases hcaller with he | he
      · exact absurd he habsent
      · exact absurd he hreturned

/-- A thread that has signalled goes on. -/
theorem move (h : s.Inv) (hsig : s.thread.Signalled) {t : WindowsInputPc} (ht : t.Signalled)
    (hreturned : s.thread = .returned → t = .returned) (hwnd window : Bool)
    (posted : List PostedMessage) (quitPosted : Bool) :
    { s with thread := t, hwnd := hwnd, window := window, posted := posted,
             quitPosted := quitPosted }.CallerInv := by
  obtain ⟨hcaller, -, -⟩ := h
  have habsent : s.thread ≠ .absent := by
    intro he
    rw [he] at hsig
    exact hsig
  have hbegin : s.thread ≠ .begin := by
    intro he
    rw [he] at hsig
    exact hsig
  have htabsent : t ≠ .absent := by
    rintro rfl
    exact ht
  obtain ⟨onAdjust, threadStarted, hwnd', threadId, ready, startOk, window', posted', quitPosted',
    caller, thread⟩ := s
  cases caller with
  | idle | createEvent => exact absurd hcaller.2 habsent
  | createThread => exact absurd hcaller.1 habsent
  | wait =>
      obtain ⟨-, hstarted, hready, hid⟩ := hcaller
      refine ⟨htabsent, hstarted, hready.trans ?_, fun _ ↦ hid hbegin⟩
      rw [decide_eq_true hsig, decide_eq_true ht]
  | closeReady | testStartOk =>
      exact ⟨ht, hcaller.threadStarted, hcaller.threadId, hcaller.ready_eq⟩
  | joinFailed | postQuit | postClose | joinThread =>
      obtain ⟨hlive, hok⟩ := hcaller
      exact ⟨⟨ht, hlive.threadStarted, hlive.threadId, hlive.ready_eq⟩, hok⟩
  | started ok =>
      cases ok with
      | true =>
          obtain ⟨hlive, hok⟩ := hcaller
          exact ⟨⟨ht, hlive.threadStarted, hlive.threadId, hlive.ready_eq⟩, hok⟩
      | false =>
          obtain ⟨he, hok⟩ := hcaller.thread.resolve_left habsent
          exact ⟨.inr ⟨hreturned he, hok⟩, hcaller.threadStarted, hcaller.ready_eq⟩
  | testStarted =>
      rcases hcaller with hnot | ⟨hlive, hok⟩
      · obtain ⟨he, hok⟩ := hnot.thread.resolve_left habsent
        exact .inl ⟨.inr ⟨hreturned he, hok⟩, hnot.threadStarted, hnot.ready_eq⟩
      · exact .inr ⟨⟨ht, hlive.threadStarted, hlive.threadId, hlive.ready_eq⟩, hok⟩
  | stopped => exact .inr (hreturned (hcaller.resolve_left habsent))

theorem ready_eq (h : s.Inv) (habsent : s.thread ≠ .absent) (hsig : ¬ s.thread.Signalled) :
    s.ready = some false := by
  have hcaller := h.caller
  unfold CallerInv at hcaller
  rw [h.caller_eq_wait habsent hsig] at hcaller
  exact hcaller.2.2.1.trans (congrArg some (decide_eq_false hsig))

/-- Before it has signalled it goes on while the caller waits. -/
theorem move_wait (h : s.Inv) (habsent : s.thread ≠ .absent) (hsig : ¬ s.thread.Signalled)
    {t : WindowsInputPc} (ht : t ≠ .absent) (hwnd window threadId startOk : Bool)
    (hid : t ≠ .begin → threadId = true) {ready : Option Bool}
    (hready : ready = some (decide t.Signalled)) :
    { s with thread := t, hwnd := hwnd, window := window, threadId := threadId, startOk := startOk,
             ready := ready }.CallerInv := by
  have hc := h.caller_eq_wait habsent hsig
  obtain ⟨hcaller, -, -⟩ := h
  obtain ⟨onAdjust, threadStarted, hwnd', threadId', ready', startOk', window', posted, quitPosted,
    caller, thread⟩ := s
  obtain rfl : caller = .wait := hc
  exact ⟨ht, hcaller.2.1, hready, hid⟩

theorem starting (h : s.Inv) (habsent : s.thread ≠ .absent) (hsig : ¬ s.thread.Signalled)
    {t : WindowsInputPc} (ht : t ≠ .absent) {hwnd window threadId startOk : Bool}
    (hid : t ≠ .begin → threadId = true) {ready : Option Bool}
    (hready : ready = some (decide t.Signalled))
    (hthread : { s with thread := t, hwnd := hwnd, window := window, threadId := threadId,
                        startOk := startOk, ready := ready }.ThreadInv) :
    { s with thread := t, hwnd := hwnd, window := window, threadId := threadId, startOk := startOk,
             ready := ready }.Inv :=
  ⟨h.move_wait habsent hsig ht hwnd window threadId startOk hid hready, hthread, h.quiet⟩

/-- Once it has begun it has an id. -/
theorem threadId_eq (h : s.Inv) (habsent : s.thread ≠ .absent) (hsig : ¬ s.thread.Signalled)
    (hbegin : s.thread ≠ .begin) : s.threadId = true := by
  have hcaller := h.caller
  unfold CallerInv at hcaller
  rw [h.caller_eq_wait habsent hsig] at hcaller
  exact hcaller.2.2.2 hbegin

/-- A step of the thread up to the event. -/
theorem threadStep_wait (h : s.Inv) (habsent : s.thread ≠ .absent) (hsig : ¬ s.thread.Signalled)
    (ok : Bool) : (s.threadStep ok).Inv := by
  have hready := h.ready_eq habsent hsig
  have hid := h.threadId_eq habsent hsig
  have hthread := h.thread
  unfold ThreadInv at hthread
  unfold WindowsInput.threadStep
  cases ht : s.thread with
  | absent => exact absurd ht habsent
  | leaving | getMessage | dispatch adjusts | cleanup | returned =>
      rw [ht] at hsig
      exact absurd trivial hsig
  | begin =>
      rw [ht] at hthread
      exact h.starting habsent hsig (by decide) (fun _ ↦ rfl) hready hthread
  | createWindow =>
      rw [ht] at hthread
      obtain ⟨hadjust, hwindow, -⟩ := hthread
      have hid := hid (by rw [ht]; nofun)
      cases ok with
      | true => exact h.starting habsent hsig (by decide) (fun _ ↦ hid) hready ⟨hadjust, rfl, rfl⟩
      | false => exact h.starting habsent hsig (by decide) (fun _ ↦ hid) hready ⟨hadjust, hwindow⟩
  | register =>
      rw [ht] at hthread
      have hid := hid (by rw [ht]; nofun)
      cases ok with
      | true => exact h.starting habsent hsig (by decide) (fun _ ↦ hid) hready hthread
      | false => exact h.starting habsent hsig (by decide) (fun _ ↦ hid) hready hthread
  | destroyWindow =>
      rw [ht] at hthread
      have hid := hid (by rw [ht]; nofun)
      exact h.starting habsent hsig (by decide) (fun _ ↦ hid) hready ⟨hthread.1, rfl⟩
  | denyStart =>
      rw [ht] at hthread
      have hid := hid (by rw [ht]; nofun)
      exact h.starting habsent hsig (by decide) (fun _ ↦ hid) hready ⟨hthread.1, hthread.2, rfl⟩
  | signalDenied =>
      rw [ht] at hthread
      have hid := hid (by rw [ht]; nofun)
      rw [hready]
      exact h.starting habsent hsig (by decide) (fun _ ↦ hid) rfl hthread
  | allowStart =>
      rw [ht] at hthread
      have hid := hid (by rw [ht]; nofun)
      exact h.starting habsent hsig (by decide) (fun _ ↦ hid) hready
        ⟨hthread.1, hthread.2.1, hthread.2.2, rfl⟩
  | signalStarted =>
      rw [ht] at hthread
      have hid := hid (by rw [ht]; nofun)
      obtain ⟨hadjust, hwindow, hhwnd, hok⟩ := hthread
      rw [hready]
      refine h.starting habsent hsig (by decide) (fun _ ↦ hid) rfl ⟨hadjust, hhwnd, hok, ?_⟩
      exact fun hno ↦ absurd (hwindow.symm.trans hno) (by decide)

theorem going (h : s.Inv) (hsig : s.thread.Signalled) {t : WindowsInputPc} (ht : t.Signalled)
    (hreturned : s.thread = .returned → t = .returned) {hwnd window : Bool}
    {posted : List PostedMessage} {quitPosted : Bool}
    (hthread : { s with thread := t, hwnd := hwnd, window := window, posted := posted,
                        quitPosted := quitPosted }.ThreadInv)
    (hquiet : s.Quiet → posted = [] ∧ quitPosted = false) :
    { s with thread := t, hwnd := hwnd, window := window, posted := posted,
             quitPosted := quitPosted }.Inv :=
  ⟨h.move hsig ht hreturned hwnd window posted quitPosted, hthread,
    fun hjoin hstop ↦ hquiet (h.quiet hjoin hstop)⟩

theorem takeMessage (h : s.Inv) (ht : s.thread = .getMessage) : s.takeMessage.Inv := by
  have hsig : s.thread.Signalled := by
    rw [ht]
    trivial
  have hthread := h.thread
  unfold ThreadInv at hthread
  rw [ht] at hthread
  obtain ⟨hadjust, hhwnd, hok, hwindow⟩ := hthread
  have hreturned (t : WindowsInputPc) : s.thread = .returned → t = .returned := by
    rw [ht]
    nofun
  unfold WindowsInput.takeMessage
  cases hposted : s.posted with
  | nil =>
      dsimp only
      split_ifs
      · rw [← hposted]
        exact h.going hsig (t := .cleanup) trivial (hreturned _) ⟨hadjust, hhwnd, hok, hwindow⟩ id
      · exact h
  | cons message posted =>
      have hnot (q : Bool) (hquiet : s.Quiet) : posted = [] ∧ q = false := by
        rw [Quiet, hposted] at hquiet
        exact absurd hquiet.1 (List.cons_ne_nil _ _)
      cases message with
      | quit =>
          exact h.going hsig (t := .cleanup) trivial (hreturned _) ⟨hadjust, hhwnd, hok, hwindow⟩
            (hnot _)
      | close =>
          have hlive {window quitPosted : Bool} (hclosed : window = false → quitPosted = true) :
              { s with window := window, posted := posted, quitPosted := quitPosted }.Inv := by
            have hinv : { s with thread := .getMessage, window := window, posted := posted,
                                 quitPosted := quitPosted }.Inv :=
              h.going hsig (t := .getMessage) trivial (hreturned _) ⟨hadjust, hhwnd, hok, hclosed⟩
                (hnot _)
            rw [← ht] at hinv
            exact hinv
          dsimp only
          split_ifs
          · exact hlive fun _ ↦ rfl
          · exact hlive hwindow

/-- A step of the thread from the event on. -/
theorem threadStep_signalled (h : s.Inv) (hsig : s.thread.Signalled) (ok : Bool) :
    (s.threadStep ok).Inv := by
  have hthread := h.thread
  unfold ThreadInv at hthread
  unfold WindowsInput.threadStep
  cases ht : s.thread with
  | absent | begin | createWindow | register | destroyWindow | denyStart | signalDenied | allowStart
  | signalStarted =>
      rw [ht] at hsig
      exact hsig.elim
  | leaving =>
      rw [ht] at hthread
      exact h.going hsig (t := .returned) trivial (fun _ ↦ rfl) hthread.2.1 id
  | getMessage =>
      rw [ht] at hthread
      cases ok with
      | true => exact h.takeMessage ht
      | false => exact h.going hsig (t := .cleanup) trivial (by rw [ht]; nofun) hthread id
  | dispatch adjusts =>
      rw [ht] at hthread
      have hreturned (t : WindowsInputPc) : s.thread = .returned → t = .returned := by
        rw [ht]
        nofun
      cases adjusts with
      | nil => exact h.going hsig (t := .getMessage) trivial (hreturned _) hthread id
      | cons fraction adjusts =>
          dsimp only
          rw [if_pos hthread.1]
          exact h.going hsig (t := .dispatch adjusts) trivial (hreturned _) hthread id
  | cleanup =>
      rw [ht] at hthread
      dsimp only
      rw [if_pos hthread.2.1]
      exact h.going hsig (t := .returned) trivial (fun _ ↦ rfl) rfl id
  | returned => exact h

theorem callerStep (h : s.Inv) (ok : Bool) : (s.callerStep ok).Inv := by
  obtain ⟨hcaller, hthread, hquiet⟩ := h
  obtain ⟨onAdjust, threadStarted, hwnd, threadId, ready, startOk, window, posted, quitPosted,
    caller, thread⟩ := s
  cases caller with
  | idle | started answer | stopped => exact ⟨hcaller, hthread, hquiet⟩
  | createEvent =>
      obtain ⟨hnot, habsent⟩ := hcaller
      obtain rfl : thread = .absent := habsent
      have hquiet := hquiet nofun nofun
      cases ok with
      | true => exact ⟨⟨rfl, hnot.threadStarted, rfl, rfl⟩, hthread, fun _ _ ↦ hquiet⟩
      | false => exact ⟨⟨.inl rfl, hnot.threadStarted, rfl⟩, hthread, fun _ _ ↦ hquiet⟩
  | createThread =>
      obtain ⟨habsent, hstarted, hready, hadjust⟩ := hcaller
      obtain rfl : thread = .absent := habsent
      have hquiet := hquiet nofun nofun
      cases ok with
      | true =>
          exact ⟨⟨nofun, rfl, hready, fun hne ↦ absurd rfl hne⟩, ⟨hadjust, hthread⟩,
            fun _ _ ↦ hquiet⟩
      | false => exact ⟨⟨.inl rfl, hstarted, rfl⟩, hthread, fun _ _ ↦ hquiet⟩
  | wait =>
      unfold WindowsInput.callerStep
      dsimp only
      split_ifs with hsignalled
      · obtain ⟨-, hstarted, hready, hid⟩ := hcaller
        have hsig : thread.Signalled :=
          of_decide_eq_true (Option.some_injective _ (hready.symm.trans hsignalled))
        refine ⟨⟨hsig, hstarted, hid ?_, hsignalled⟩, hthread, fun _ _ ↦ hquiet nofun nofun⟩
        rintro rfl
        exact hsig
      · exact ⟨hcaller, hthread, hquiet⟩
  | closeReady =>
      exact ⟨⟨hcaller.thread, hcaller.threadStarted, hcaller.threadId, rfl⟩, hthread,
        fun _ _ ↦ hquiet nofun nofun⟩
  | testStartOk =>
      have hquiet := hquiet nofun nofun
      cases startOk with
      | true => exact ⟨⟨⟨hcaller.thread, hcaller.threadStarted, hcaller.threadId, hcaller.ready_eq⟩,
          rfl⟩, hthread, fun _ _ ↦ hquiet⟩
      | false => exact ⟨⟨⟨hcaller.thread, hcaller.threadStarted, hcaller.threadId,
          hcaller.ready_eq⟩, rfl⟩, hthread, fun _ _ ↦ hquiet⟩
  | joinFailed =>
      unfold WindowsInput.callerStep
      dsimp only
      split_ifs with hreturned
      · obtain rfl : thread = .returned := hreturned
        exact ⟨⟨.inr ⟨rfl, hcaller.2⟩, rfl, hcaller.1.ready_eq⟩, hthread,
          fun _ _ ↦ hquiet nofun nofun⟩
      · exact ⟨hcaller, hthread, hquiet⟩
  | testStarted =>
      have hquiet := hquiet nofun nofun
      rcases hcaller with hnot | ⟨hlive, hok⟩
      · obtain rfl : threadStarted = false := hnot.threadStarted
        exact ⟨hnot.thread.imp_right And.left, hthread, fun _ _ ↦ hquiet⟩
      · obtain rfl : threadStarted = true := hlive.threadStarted
        exact ⟨⟨⟨hlive.thread, rfl, hlive.threadId, hlive.ready_eq⟩, hok⟩, hthread,
          fun _ _ ↦ hquiet⟩
  | postQuit =>
      obtain ⟨⟨hsig, hstarted, hid, hready⟩, hok⟩ := hcaller
      have hquiet := hquiet nofun nofun
      unfold WindowsInput.callerStep
      dsimp only
      split_ifs
      · exact ⟨⟨⟨hsig, hstarted, hid, hready⟩, hok⟩, hthread, fun hjoin ↦ absurd rfl hjoin⟩
      · exact ⟨⟨⟨hsig, hstarted, hid, hready⟩, hok⟩, hthread, fun _ _ ↦ hquiet⟩
  | postClose =>
      obtain ⟨⟨hsig, hstarted, hid, hready⟩, hok⟩ := hcaller
      unfold WindowsInput.callerStep
      dsimp only
      split_ifs <;>
        exact ⟨⟨⟨hsig, hstarted, hid, hready⟩, hok⟩, hthread, fun hjoin ↦ absurd rfl hjoin⟩
  | joinThread =>
      unfold WindowsInput.callerStep
      dsimp only
      split_ifs with hreturned
      · obtain rfl : thread = .returned := hreturned
        exact ⟨.inr rfl, hthread, fun _ hstop ↦ absurd rfl hstop⟩
      · exact ⟨hcaller, hthread, hquiet⟩

theorem start (h : s.Inv) (hidle : s.caller = .idle) : { s with caller := .createEvent }.Inv := by
  obtain ⟨hcaller, hthread, hquiet⟩ := h
  obtain ⟨onAdjust, threadStarted, hwnd, threadId, ready, startOk, window, posted, quitPosted,
    caller, thread⟩ := s
  obtain rfl : caller = .idle := hidle
  exact ⟨⟨⟨hcaller.1.thread, hcaller.1.threadStarted, hcaller.1.ready_eq⟩, hcaller.2⟩, hthread,
    fun _ _ ↦ hquiet nofun nofun⟩

theorem stop (h : s.Inv) (hcalled : s.caller = .idle ∨ ∃ ok, s.caller = .started ok) :
    { s with caller := .testStarted }.Inv := by
  obtain ⟨hcaller, hthread, hquiet⟩ := h
  obtain ⟨onAdjust, threadStarted, hwnd, threadId, ready, startOk, window, posted, quitPosted,
    caller, thread⟩ := s
  obtain rfl | ⟨ok, rfl⟩ : caller = .idle ∨ ∃ ok, caller = .started ok := hcalled
  · obtain ⟨⟨hno, hstarted, hready⟩, -⟩ := hcaller
    exact ⟨.inl ⟨hno, hstarted, hready⟩, hthread, fun _ _ ↦ hquiet nofun nofun⟩
  · cases ok with
    | true =>
        obtain ⟨⟨hsig, hstarted, hid, hready⟩, hok⟩ := hcaller
        exact ⟨.inr ⟨⟨hsig, hstarted, hid, hready⟩, hok⟩, hthread, fun _ _ ↦ hquiet nofun nofun⟩
    | false =>
        obtain ⟨hno, hstarted, hready⟩ := hcaller
        exact ⟨.inl ⟨hno, hstarted, hready⟩, hthread, fun _ _ ↦ hquiet nofun nofun⟩

theorem threadStep (h : s.Inv) (ok : Bool) : (s.threadStep ok).Inv := by
  by_cases habsent : s.thread = .absent
  · unfold WindowsInput.threadStep
    rw [habsent]
    exact h
  · by_cases hsig : s.thread.Signalled
    · exact h.threadStep_signalled hsig ok
    · exact h.threadStep_wait habsent hsig ok

theorem step (h : s.Inv) (e : WindowsInputEvent) : (s.step e).Inv := by
  unfold WindowsInput.step
  cases e with
  | start =>
      dsimp only
      split_ifs with hidle
      · exact h.start hidle
      · exact h
  | stop =>
      dsimp only
      split
      case h_1 hidle => exact h.stop (.inl hidle)
      case h_2 ok hstarted => exact h.stop (.inr ⟨ok, hstarted⟩)
      case h_3 => exact h
  | caller ok => exact h.callerStep ok
  | thread ok => exact h.threadStep ok
  | input a =>
      dsimp only
      split_ifs with hready
      · have hthread := h.thread
        unfold ThreadInv at hthread
        rw [hready.1] at hthread
        refine h.going ?_ (t := .dispatch _) trivial ?_ hthread id
        · rw [hready.1]
          trivial
        · rw [hready.1]
          nofun
      · exact h

end Inv

/-! ## The protocol -/

/-- What the step shows is permitted, and the capture moves by it. -/
def Follows (s : WindowsInput) (e : WindowsInputEvent) : Prop :=
  Along Capture.step Capture.Permits s.capture (s.actions e) ∧
    (s.step e).capture = (s.actions e).foldl Capture.step s.capture

namespace Inv

variable {s : WindowsInput}

theorem follows_start (h : s.Inv) : s.Follows .start := by
  obtain ⟨hcaller, -, -⟩ := h
  obtain ⟨onAdjust, threadStarted, hwnd, threadId, ready, startOk, window, posted, quitPosted,
    caller, thread⟩ := s
  refine ⟨trivial, ?_⟩
  by_cases hidle : caller = .idle
  · subst hidle
    obtain rfl : thread = .absent := hcaller.2
    rfl
  · unfold WindowsInput.step
    dsimp only
    rw [if_neg hidle]
    rfl

theorem follows_stop (h : s.Inv) : s.Follows .stop := by
  obtain ⟨hcaller, -, -⟩ := h
  obtain ⟨onAdjust, threadStarted, hwnd, threadId, ready, startOk, window, posted, quitPosted,
    caller, thread⟩ := s
  refine ⟨trivial, ?_⟩
  cases caller <;> cases thread <;> rfl

theorem follows_callerStep (h : s.Inv) (ok : Bool) : s.Follows (.caller ok) := by
  obtain ⟨hcaller, -, -⟩ := h
  obtain ⟨onAdjust, threadStarted, hwnd, threadId, ready, startOk, window, posted, quitPosted,
    caller, thread⟩ := s
  unfold Follows
  cases caller with
  | idle | started answer | stopped => exact ⟨trivial, rfl⟩
  | createEvent =>
      obtain rfl : thread = .absent := hcaller.2
      cases ok with
      | true => exact ⟨trivial, rfl⟩
      | false => exact ⟨⟨rfl, trivial⟩, rfl⟩
  | createThread =>
      obtain rfl : thread = .absent := hcaller.1
      cases ok with
      | true => exact ⟨trivial, rfl⟩
      | false => exact ⟨⟨rfl, trivial⟩, rfl⟩
  | wait =>
      refine ⟨trivial, ?_⟩
      unfold WindowsInput.step WindowsInput.callerStep
      dsimp only
      split_ifs
      · cases thread <;> rfl
      · rfl
  | closeReady => exact ⟨trivial, by cases thread <;> rfl⟩
  | testStartOk => exact ⟨trivial, by cases thread <;> cases startOk <;> rfl⟩
  | joinFailed =>
      obtain ⟨-, hok⟩ := hcaller
      obtain rfl : startOk = false := hok
      by_cases hreturned : thread = .returned
      · subst hreturned
        exact ⟨⟨rfl, trivial⟩, rfl⟩
      · unfold WindowsInput.actions WindowsInput.step WindowsInput.callerStep
        dsimp only
        rw [if_neg hreturned]
        split_ifs with hfails
        · exact absurd hfails hreturned
        · exact ⟨trivial, rfl⟩
  | testStarted =>
      rcases hcaller with hnot | ⟨hlive, hok⟩
      · obtain rfl : threadStarted = false := hnot.threadStarted
        obtain rfl | ⟨rfl, rfl⟩ : thread = .absent ∨ thread = .returned ∧ startOk = false :=
          hnot.thread
        · exact ⟨⟨trivial, trivial, trivial⟩, rfl⟩
        · exact ⟨⟨trivial, trivial, trivial⟩, rfl⟩
      · obtain rfl : threadStarted = true := hlive.threadStarted
        obtain rfl : startOk = true := hok
        refine ⟨⟨trivial, trivial⟩, ?_⟩
        cases thread <;> rfl
  | postQuit =>
      refine ⟨trivial, ?_⟩
      unfold WindowsInput.step WindowsInput.callerStep
      dsimp only
      split_ifs <;> cases thread <;> rfl
  | postClose =>
      refine ⟨trivial, ?_⟩
      unfold WindowsInput.step WindowsInput.callerStep
      dsimp only
      split_ifs <;> cases thread <;> rfl
  | joinThread =>
      obtain rfl : startOk = true := hcaller.2
      by_cases hreturned : thread = .returned
      · subst hreturned
        exact ⟨⟨trivial, trivial⟩, rfl⟩
      · unfold WindowsInput.actions WindowsInput.step WindowsInput.callerStep
        dsimp only
        rw [if_neg hreturned, if_neg hreturned]
        exact ⟨trivial, rfl⟩

theorem follows_threadStep (h : s.Inv) (ok : Bool) : s.Follows (.thread ok) := by
  have hwait := h.caller_eq_wait
  obtain ⟨-, hthread, -⟩ := h
  obtain ⟨onAdjust, threadStarted, hwnd, threadId, ready, startOk, window, posted, quitPosted,
    caller, thread⟩ := s
  unfold Follows
  cases thread with
  | absent | returned => exact ⟨trivial, rfl⟩
  | begin | destroyWindow | denyStart | signalDenied | allowStart => exact ⟨trivial, rfl⟩
  | createWindow | register => cases ok <;> exact ⟨trivial, rfl⟩
  | leaving =>
      obtain rfl : startOk = false := hthread.2.2
      exact ⟨trivial, rfl⟩
  | signalStarted =>
      obtain rfl : caller = .wait := hwait nofun id
      exact ⟨⟨rfl, trivial⟩, rfl⟩
  | getMessage =>
      refine ⟨trivial, ?_⟩
      unfold WindowsInput.step WindowsInput.threadStep WindowsInput.takeMessage
      cases ok with
      | false => rfl
      | true =>
          cases posted with
          | nil =>
              dsimp only
              rw [if_pos rfl]
              split_ifs <;> rfl
          | cons message posted =>
              cases message with
              | quit => rfl
              | close =>
                  dsimp only
                  rw [if_pos rfl]
                  split_ifs <;> rfl
  | dispatch adjusts =>
      obtain rfl : onAdjust = true := hthread.1
      cases adjusts with
      | nil => exact ⟨trivial, rfl⟩
      | cons fraction adjusts => cases caller <;> exact ⟨⟨id, trivial⟩, rfl⟩
  | cleanup =>
      obtain ⟨-, hhwnd, hok, -⟩ := hthread
      obtain rfl : hwnd = true := hhwnd
      obtain rfl : startOk = true := hok
      refine ⟨⟨?_, trivial⟩, rfl⟩
      cases caller <;> exact id

theorem follows (h : s.Inv) (e : WindowsInputEvent) : s.Follows e := by
  cases e with
  | start => exact h.follows_start
  | stop => exact h.follows_stop
  | caller ok => exact h.follows_callerStep ok
  | thread ok => exact h.follows_threadStep ok
  | input a =>
      refine ⟨trivial, ?_⟩
      unfold WindowsInput.step
      dsimp only
      split_ifs with hready
      · unfold capture
        rw [hready.1]
        rfl
      · rfl

/-- `input_start` has returned 0 if and only if there is, or was, a capture. -/
theorem started_iff (h : s.Inv) {ok : Bool} (hstarted : s.caller = .started ok) :
    ok = true ↔ s.capture ≠ .absent := by
  obtain ⟨hcaller, hthread, -⟩ := h
  obtain ⟨onAdjust, threadStarted, hwnd, threadId, ready, startOk, window, posted, quitPosted,
    caller, thread⟩ := s
  obtain rfl : caller = .started ok := hstarted
  cases ok with
  | true =>
      obtain ⟨⟨hsig, -, -, -⟩, hok : startOk = true⟩ := hcaller
      refine iff_of_true rfl ?_
      cases thread with
      | absent | begin | createWindow | register | destroyWindow | denyStart | signalDenied
      | allowStart | signalStarted => exact hsig.elim
      | leaving => exact absurd (hok.symm.trans hthread.2.2) (by decide)
      | getMessage | dispatch adjusts | cleanup => exact nofun
      | returned =>
          rw [hok]
          exact nofun
  | false =>
      refine iff_of_false (by decide) (not_not_intro ?_)
      obtain rfl | ⟨rfl, rfl⟩ : thread = .absent ∨ thread = .returned ∧ startOk = false :=
        hcaller.thread
      · rfl
      · rfl

theorem ready_of_signal (h : s.Inv) (hsignal : s.thread = .signalDenied ∨ s.thread = .signalStarted) :
    s.ready = some false := by
  rcases hsignal with ht | ht
  · exact h.ready_eq (by rw [ht]; nofun) (by rw [ht]; exact id)
  · exact h.ready_eq (by rw [ht]; nofun) (by rw [ht]; exact id)

theorem no_window (h : s.Inv) (hreturned : s.thread = .returned) : s.window = false := by
  have hthread := h.thread
  unfold ThreadInv at hthread
  rw [hreturned] at hthread
  exact hthread

end Inv

end WindowsInput

open WindowsInput in
/-- **The key capture of Windows keeps to the protocol**, whatever fails and however the two
threads take their turns.  `input_start` returns 0 if and only if there is a capture by then, the
event that the thread signals is open and was not signalled before, and no window stays behind. -/
theorem windows_capture_permitted (events : List WindowsInputEvent) :
    let s := fresh.run events
    let shown := trace WindowsInput.step actions fresh events
    Along Capture.step Capture.Permits .absent shown ∧
      s.capture = shown.foldl Capture.step .absent ∧
      (∀ ok, s.caller = .started ok → (ok = true ↔ s.capture ≠ .absent)) ∧
      (s.thread = .signalDenied ∨ s.thread = .signalStarted → s.ready = some false) ∧
      (s.thread = .returned → s.window = false) := by
  intro s shown
  have hstep (s : WindowsInput) (c : Capture) (e : WindowsInputEvent)
      (h : s.Inv ∧ s.capture = c) :
      Along Capture.step Capture.Permits c (s.actions e) ∧ (s.step e).Inv ∧
        (s.step e).capture = (s.actions e).foldl Capture.step c := by
    obtain ⟨hinv, rfl⟩ := h
    obtain ⟨halong, hcapture⟩ := hinv.follows e
    exact ⟨halong, hinv.step e, hcapture⟩
  obtain ⟨halong, hinv, hcapture⟩ := along_trace (R := fun s c ↦ Inv s ∧ capture s = c) hstep
    ⟨inv_fresh, rfl⟩ events
  exact ⟨halong, hcapture, fun _ ↦ hinv.started_iff, hinv.ready_of_signal, hinv.no_window⟩

end Dimmit
