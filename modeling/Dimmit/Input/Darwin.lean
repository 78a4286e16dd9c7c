import Dimmit.Input
import Dimmit.Input.Capture
import Dimmit.Lib.Rounds

/-!
# The key capture of macOS

`input_start`, `input_stop` and `hid_thread` of `platform/input/darwin.c`, and the run loop in which
the thread calls `value_cb`.  Unlike on Windows the caller does not wait for the thread to come up,
and it stops it through its run loop: `CFRunLoopStop` ends the activation of the loop that is
running.  Whether a loop that is not running yet remembers that it was stopped is a parameter.
-/

namespace Dimmit

open Rounds Run Trace

/-- The next statement of the caller. -/
inductive DarwinCallerPc where
  /-- It has not called `input_start`. -/
  | idle
  /-- `IOHIDManagerCreate`. -/
  | createManager
  /-- `IOHIDManagerOpen`. -/
  | openManager
  /-- `pthread_create`. -/
  | createThread
  /-- None: `input_start` has returned 0, or -1. -/
  | started (ok : Bool)
  /-- `CFRunLoopStop`, if `g_loop` is set. -/
  | stopLoop
  | testStarted
  /-- `pthread_join`. -/
  | joinThread
  /-- `IOHIDManagerClose` and `CFRelease`, if `g_mgr` is set. -/
  | closeManager
  /-- None: `input_stop` has returned. -/
  | stopped
deriving DecidableEq, Repr

/-- The next statement of `hid_thread`. -/
inductive HidThreadPc where
  /-- There is no thread. -/
  | absent
  /-- `CFRunLoopGetCurrent`. -/
  | getLoop
  /-- `IOHIDManagerScheduleWithRunLoop`. -/
  | schedule
  /-- The call of `CFRunLoopRun`. -/
  | runLoop
  /-- It is inside `CFRunLoopRun`. -/
  | running
  /-- `value_cb`, with the calls of `g_on_adjust` it has left. -/
  | calling (adjusts : List ℚ)
  | returned
deriving DecidableEq, Repr

/-- The static variables of the file, the run loop of the thread, and where the two threads are. -/
structure DarwinInput where
  /-- `g_on_adjust` is set. -/
  onAdjust : Bool
  /-- `g_mgr` is not `NULL`. -/
  mgr : Bool
  /-- `g_loop` is not `NULL`. -/
  loop : Bool
  /-- `g_thread_started`. -/
  threadStarted : Bool
  /-- The loop has been told to stop. -/
  stopRequested : Bool
  caller : DarwinCallerPc
  thread : HidThreadPc
deriving DecidableEq, Repr

/-- A step of the caller or of the thread. -/
inductive DarwinInputEvent where
  /-- `input_start` is called. -/
  | start
  /-- `input_stop` is called. -/
  | stop
  /-- The next statement of the caller: if it makes a call, the call succeeds or not. -/
  | caller (ok : Bool)
  /-- The next statement of the thread.  Where it runs its loop and was not stopped, the loop goes
  on or ends by itself. -/
  | thread (ok : Bool)
  /-- The loop calls `value_cb` with `value`. -/
  | value (value : HidValue)
deriving DecidableEq, Repr

namespace DarwinInput

/-- The process has just started. -/
def fresh : DarwinInput where
  onAdjust := false
  mgr := false
  loop := false
  threadStarted := false
  stopRequested := false
  caller := .idle
  thread := .absent

/-- The next statement of `input_start` or `input_stop`. -/
def callerStep (s : DarwinInput) (ok : Bool) : DarwinInput :=
  match s.caller with
  | .createManager =>
    { s with onAdjust := true, mgr := ok, caller := if ok then .openManager else .started false }
  | .openManager => { s with mgr := ok, caller := if ok then .createThread else .started false }
  | .createThread =>
    if ok then { s with threadStarted := true, thread := .getLoop, caller := .started true }
    else { s with mgr := false, caller := .started false }
  | .stopLoop => { s with stopRequested := s.stopRequested || s.loop, caller := .testStarted }
  | .testStarted => { s with caller := if s.threadStarted then .joinThread else .closeManager }
  | .joinThread =>
    if s.thread = .returned then { s with threadStarted := false, caller := .closeManager } else s
  | .closeManager => { s with mgr := false, caller := .stopped }
  | .idle | .started _ | .stopped => s

/-- The next statement of `hid_thread`.  `keepsStop` says whether an activation of the loop returns
at once for a `CFRunLoopStop` that was called before it. -/
def threadStep (keepsStop : Bool) (s : DarwinInput) (ok : Bool) : DarwinInput :=
  match s.thread with
  | .getLoop => { s with loop := true, thread := .schedule }
  | .schedule => { s with thread := .runLoop }
  | .runLoop => { s with stopRequested := keepsStop && s.stopRequested, thread := .running }
  | .running => if s.stopRequested ∨ ok = false then { s with thread := .returned } else s
  | .calling (_ :: adjusts) => { s with thread := .calling adjusts }
  | .calling [] => { s with thread := .running }
  | .absent | .returned => s

def step (keepsStop : Bool) (s : DarwinInput) : DarwinInputEvent → DarwinInput
  | .start => if s.caller = .idle then { s with caller := .createManager } else s
  | .stop =>
    match s.caller with
    | .idle | .started _ => { s with caller := .stopLoop }
    | _ => s
  | .caller ok => s.callerStep ok
  | .thread ok => s.threadStep keepsStop ok
  | .value value =>
    if s.thread = .running then { s with thread := .calling (valueCb s.onAdjust value) } else s

def run (keepsStop : Bool) (s : DarwinInput) (events : List DarwinInputEvent) : DarwinInput :=
  events.foldl (step keepsStop) s

/-! ## What is seen of it -/

/-- What a step shows of the key capture. -/
def actions (s : DarwinInput) : DarwinInputEvent → List CaptureAction
  | .caller ok =>
    match s.caller with
    | .createManager | .openManager => if ok then [] else [.started false]
    | .createThread => [.started ok]
    | .stopLoop => [.asked]
    | .testStarted => if s.threadStarted then [] else [.joined]
    | .joinThread => if s.thread = .returned then [.joined] else []
    | _ => []
  | .thread ok =>
    match s.thread with
    | .calling (fraction :: _) => [.pressed fraction]
    | .running => if s.stopRequested ∨ ok = false then [.returned] else []
    | _ => []
  | .start | .stop | .value _ => []

/-- The key capture as the protocol has it. -/
def capture (s : DarwinInput) : Capture :=
  match s.thread with
  | .absent => .absent
  | .returned => .returned
  | .getLoop | .schedule | .runLoop | .running | .calling _ =>
    match s.caller with
    | .testStarted | .joinThread | .closeManager | .stopped => .asked
    | _ => .capturing

/-! ## The invariant -/

/-- `input_stop` has stopped the loop. -/
def Asked (s : DarwinInput) : Prop :=
  match s.caller with
  | .testStarted | .joinThread | .closeManager | .stopped => True
  | .idle | .createManager | .openManager | .createThread | .started _ | .stopLoop => False

/-- The caller has created the thread, and has not joined it. -/
structure Live (s : DarwinInput) : Prop where
  thread : s.thread ≠ .absent
  threadStarted : s.threadStarted = true
  mgr : s.mgr = true

/-- What the next statement of the caller relies on. -/
def CallerInv (s : DarwinInput) : Prop :=
  match s.caller with
  | .idle | .createManager => s.thread = .absent ∧ s.threadStarted = false
  | .openManager | .createThread => s.thread = .absent ∧ s.threadStarted = false ∧ s.mgr = true
  | .started false => s.thread = .absent ∧ s.threadStarted = false ∧ s.mgr = false
  | .started true | .joinThread => s.Live
  | .stopLoop | .testStarted => s.thread = .absent ∧ s.threadStarted = false ∨ s.Live
  | .closeManager => s.thread = .absent ∨ s.thread = .returned
  | .stopped => (s.thread = .absent ∨ s.thread = .returned) ∧ s.mgr = false

structure Inv (s : DarwinInput) : Prop where
  caller : s.CallerInv
  /-- The thread sets `g_loop` first. -/
  loop : s.thread ≠ .absent → s.thread ≠ .getLoop → s.loop = true
  /-- Only `input_stop` stops the loop. -/
  quiet : ¬ s.Asked → s.stopRequested = false

theorem inv_fresh : fresh.Inv where
  caller := ⟨rfl, rfl⟩
  loop h := absurd rfl h
  quiet _ := rfl

namespace Inv

variable {keepsStop : Bool} {s : DarwinInput}

/-- A thread goes on while it has not returned. -/
theorem move (h : s.Inv) (habsent : s.thread ≠ .absent) (hlive : s.thread ≠ .returned)
    {t : HidThreadPc} (ht : t ≠ .absent) (loop stopRequested : Bool) :
    { s with thread := t, loop := loop, stopRequested := stopRequested }.CallerInv := by
  obtain ⟨hcaller, -, -⟩ := h
  obtain ⟨onAdjust, mgr, loop', threadStarted, stopRequested', caller, thread⟩ := s
  cases caller with
  | idle | createManager | openManager | createThread => exact absurd hcaller.1 habsent
  | started ok =>
      cases ok with
      | true => exact ⟨ht, hcaller.threadStarted, hcaller.mgr⟩
      | false => exact absurd hcaller.1 habsent
  | joinThread => exact ⟨ht, hcaller.threadStarted, hcaller.mgr⟩
  | stopLoop | testStarted =>
      rcases hcaller with hnone | hthere
      · exact absurd hnone.1 habsent
      · exact .inr ⟨ht, hthere.threadStarted, hthere.mgr⟩
  | closeManager => exact (hcaller.elim habsent hlive).elim
  | stopped => exact (hcaller.1.elim habsent hlive).elim

theorem going (h : s.Inv) (habsent : s.thread ≠ .absent) (hlive : s.thread ≠ .returned)
    {t : HidThreadPc} (ht : t ≠ .absent) {loop stopRequested : Bool}
    (hloop : t ≠ .getLoop → loop = true)
    (hstop : s.stopRequested = false → stopRequested = false) :
    { s with thread := t, loop := loop, stopRequested := stopRequested }.Inv :=
  ⟨h.move habsent hlive ht loop stopRequested, fun _ ↦ hloop, fun h' ↦ hstop (h.quiet h')⟩

theorem threadStep (h : s.Inv) (ok : Bool) : (s.threadStep keepsStop ok).Inv := by
  have hgoing := h.going
  have hloop := h.loop
  unfold DarwinInput.threadStep
  cases ht : s.thread with
  | absent | returned => exact h
  | getLoop =>
      rw [ht] at hgoing
      exact hgoing nofun nofun (t := .schedule) nofun (fun _ ↦ rfl) id
  | schedule =>
      rw [ht] at hgoing hloop
      exact hgoing nofun nofun (t := .runLoop) nofun (fun _ ↦ hloop nofun nofun) id
  | runLoop =>
      rw [ht] at hgoing hloop
      refine hgoing nofun nofun (t := .running) nofun (fun _ ↦ hloop nofun nofun) fun hstop ↦ ?_
      rw [hstop, Bool.and_false]
  | running =>
      rw [ht] at hgoing hloop
      dsimp only
      split_ifs
      · exact hgoing nofun nofun (t := .returned) nofun (fun _ ↦ hloop nofun nofun) id
      · exact h
  | calling adjusts =>
      rw [ht] at hgoing hloop
      cases adjusts with
      | nil => exact hgoing nofun nofun (t := .running) nofun (fun _ ↦ hloop nofun nofun) id
      | cons fraction adjusts =>
          exact hgoing nofun nofun (t := .calling adjusts) nofun (fun _ ↦ hloop nofun nofun) id

theorem callerStep (h : s.Inv) (ok : Bool) : (s.callerStep ok).Inv := by
  obtain ⟨hcaller, hloop, hquiet⟩ := h
  obtain ⟨onAdjust, mgr, loop, threadStarted, stopRequested, caller, thread⟩ := s
  cases caller with
  | idle | started answer | stopped => exact ⟨hcaller, hloop, hquiet⟩
  | createManager =>
      obtain ⟨hthread, hstarted⟩ := hcaller
      cases ok with
      | true => exact ⟨⟨hthread, hstarted, rfl⟩, hloop, fun _ ↦ hquiet id⟩
      | false => exact ⟨⟨hthread, hstarted, rfl⟩, hloop, fun _ ↦ hquiet id⟩
  | openManager =>
      obtain ⟨hthread, hstarted, -⟩ := hcaller
      cases ok with
      | true => exact ⟨⟨hthread, hstarted, rfl⟩, hloop, fun _ ↦ hquiet id⟩
      | false => exact ⟨⟨hthread, hstarted, rfl⟩, hloop, fun _ ↦ hquiet id⟩
  | createThread =>
      obtain ⟨hthread, hstarted, hmgr⟩ := hcaller
      cases ok with
      | true => exact ⟨⟨nofun, rfl, hmgr⟩, fun _ h ↦ absurd rfl h, fun _ ↦ hquiet id⟩
      | false => exact ⟨⟨hthread, hstarted, rfl⟩, hloop, fun _ ↦ hquiet id⟩
  | stopLoop =>
      refine ⟨?_, hloop, fun h ↦ absurd trivial h⟩
      exact hcaller.imp_right fun h ↦ ⟨h.thread, h.threadStarted, h.mgr⟩
  | testStarted =>
      rcases hcaller with ⟨hthread, hstarted⟩ | hlive
      · obtain rfl : threadStarted = false := hstarted
        exact ⟨.inl hthread, hloop, fun h ↦ absurd trivial h⟩
      · obtain rfl : threadStarted = true := hlive.threadStarted
        exact ⟨⟨hlive.thread, rfl, hlive.mgr⟩, hloop, fun h ↦ absurd trivial h⟩
  | joinThread =>
      unfold DarwinInput.callerStep
      dsimp only
      split_ifs with hreturned
      · exact ⟨.inr hreturned, hloop, fun h ↦ absurd trivial h⟩
      · exact ⟨hcaller, hloop, hquiet⟩
  | closeManager => exact ⟨⟨hcaller, rfl⟩, hloop, fun h ↦ absurd trivial h⟩

theorem stop (h : s.Inv) (hcalled : s.caller = .idle ∨ ∃ ok, s.caller = .started ok) :
    { s with caller := .stopLoop }.Inv := by
  obtain ⟨hcaller, hloop, hquiet⟩ := h
  obtain ⟨onAdjust, mgr, loop, threadStarted, stopRequested, caller, thread⟩ := s
  obtain rfl | ⟨ok, rfl⟩ : caller = .idle ∨ ∃ ok, caller = .started ok := hcalled
  · exact ⟨.inl hcaller, hloop, fun _ ↦ hquiet id⟩
  · cases ok with
    | true =>
        exact ⟨.inr ⟨hcaller.thread, hcaller.threadStarted, hcaller.mgr⟩, hloop, fun _ ↦ hquiet id⟩
    | false => exact ⟨.inl ⟨hcaller.1, hcaller.2.1⟩, hloop, fun _ ↦ hquiet id⟩

theorem step (h : s.Inv) (e : DarwinInputEvent) : (s.step keepsStop e).Inv := by
  unfold DarwinInput.step
  cases e with
  | start =>
      dsimp only
      split_ifs with hidle
      · obtain ⟨hcaller, hloop, hquiet⟩ := h
        obtain ⟨onAdjust, mgr, loop, threadStarted, stopRequested, caller, thread⟩ := s
        obtain rfl : caller = .idle := hidle
        exact ⟨hcaller, hloop, fun _ ↦ hquiet id⟩
      · exact h
  | stop =>
      dsimp only
      split
      case h_1 hidle => exact h.stop (.inl hidle)
      case h_2 ok hstarted => exact h.stop (.inr ⟨ok, hstarted⟩)
      case h_3 => exact h
  | caller ok => exact h.callerStep ok
  | thread ok => exact h.threadStep ok
  | value value =>
      dsimp only
      split_ifs with hrunning
      · have hgoing := h.going
        have hloop := h.loop
        rw [hrunning] at hgoing hloop
        exact hgoing nofun nofun (t := .calling _) nofun (fun _ ↦ hloop nofun nofun) id
      · exact h

end Inv

theorem inv_run (keepsStop : Bool) (events : List DarwinInputEvent) :
    (fresh.run keepsStop events).Inv :=
  (throughout_of_invariant (I := Inv) inv_fresh (fun _ e h ↦ h.step e) (fun _ h ↦ h) events).last

/-! ## The protocol -/

/-- What the step shows is permitted, and the capture moves by it. -/
def Follows (keepsStop : Bool) (s : DarwinInput) (e : DarwinInputEvent) : Prop :=
  Along Capture.step Capture.Permits s.capture (s.actions e) ∧
    (s.step keepsStop e).capture = (s.actions e).foldl Capture.step s.capture

namespace Inv

variable {keepsStop : Bool} {s : DarwinInput}

theorem follows_callerStep (h : s.Inv) (ok : Bool) : s.Follows keepsStop (.caller ok) := by
  obtain ⟨hcaller, -, -⟩ := h
  obtain ⟨onAdjust, mgr, loop, threadStarted, stopRequested, caller, thread⟩ := s
  unfold Follows
  cases caller with
  | idle | started answer | stopped => exact ⟨trivial, rfl⟩
  | createManager | openManager | createThread =>
      obtain rfl : thread = .absent := hcaller.1
      cases ok <;> first | exact ⟨trivial, rfl⟩ | exact ⟨⟨rfl, trivial⟩, rfl⟩
  | stopLoop =>
      refine ⟨⟨trivial, trivial⟩, ?_⟩
      cases thread <;> rfl
  | testStarted =>
      rcases hcaller with ⟨hthread, hstarted⟩ | hlive
      · obtain rfl : threadStarted = false := hstarted
        obtain rfl : thread = .absent := hthread
        exact ⟨⟨trivial, trivial⟩, rfl⟩
      · obtain rfl : threadStarted = true := hlive.threadStarted
        exact ⟨trivial, by cases thread <;> rfl⟩
  | joinThread =>
      by_cases hreturned : thread = .returned
      · subst hreturned
        exact ⟨⟨trivial, trivial⟩, rfl⟩
      · unfold DarwinInput.actions DarwinInput.step DarwinInput.callerStep
        dsimp only
        rw [if_neg hreturned, if_neg hreturned]
        exact ⟨trivial, rfl⟩
  | closeManager => exact ⟨trivial, by cases thread <;> rfl⟩

theorem follows_threadStep (s : DarwinInput) (ok : Bool) : s.Follows keepsStop (.thread ok) := by
  obtain ⟨onAdjust, mgr, loop, threadStarted, stopRequested, caller, thread⟩ := s
  unfold Follows
  cases thread with
  | absent | returned | getLoop | schedule | runLoop => exact ⟨trivial, rfl⟩
  | running =>
      unfold DarwinInput.actions DarwinInput.step DarwinInput.threadStep
      dsimp only
      split_ifs
      · refine ⟨⟨?_, trivial⟩, rfl⟩
        cases caller <;> exact id
      · exact ⟨trivial, rfl⟩
  | calling adjusts =>
      cases adjusts with
      | nil => exact ⟨trivial, rfl⟩
      | cons fraction adjusts => cases caller <;> exact ⟨⟨id, trivial⟩, rfl⟩

theorem follows (h : s.Inv) (e : DarwinInputEvent) : s.Follows keepsStop e := by
  cases e with
  | start =>
      obtain ⟨hcaller, -, -⟩ := h
      obtain ⟨onAdjust, mgr, loop, threadStarted, stopRequested, caller, thread⟩ := s
      refine ⟨trivial, ?_⟩
      unfold DarwinInput.step
      dsimp only
      split_ifs with hidle
      · obtain rfl : caller = .idle := hidle
        obtain rfl : thread = .absent := hcaller.1
        rfl
      · rfl
  | stop =>
      obtain ⟨onAdjust, mgr, loop, threadStarted, stopRequested, caller, thread⟩ := s
      refine ⟨trivial, ?_⟩
      cases caller <;> cases thread <;> rfl
  | caller ok => exact h.follows_callerStep ok
  | thread ok => exact follows_threadStep s ok
  | value value =>
      refine ⟨trivial, ?_⟩
      unfold DarwinInput.step
      dsimp only
      split_ifs with hrunning
      · unfold capture
        rw [hrunning]
        rfl
      · rfl

theorem started_iff (h : s.Inv) {ok : Bool} (hstarted : s.caller = .started ok) :
    ok = true ↔ s.capture ≠ .absent := by
  obtain ⟨hcaller, -, -⟩ := h
  obtain ⟨onAdjust, mgr, loop, threadStarted, stopRequested, caller, thread⟩ := s
  obtain rfl : caller = .started ok := hstarted
  cases ok with
  | true =>
      refine iff_of_true rfl ?_
      cases thread with
      | absent => exact absurd rfl hcaller.thread
      | getLoop | schedule | runLoop | running | calling adjusts | returned => exact nofun
  | false =>
      obtain rfl : thread = .absent := hcaller.1
      exact iff_of_false (by decide) (not_not_intro rfl)

/-- The thread does not see the manager released. -/
theorem mgr_of_live (h : s.Inv) (habsent : s.thread ≠ .absent) (hlive : s.thread ≠ .returned) :
    s.mgr = true := by
  obtain ⟨hcaller, -, -⟩ := h
  obtain ⟨onAdjust, mgr, loop, threadStarted, stopRequested, caller, thread⟩ := s
  cases caller with
  | idle | createManager | openManager | createThread => exact absurd hcaller.1 habsent
  | started ok =>
      cases ok with
      | true => exact hcaller.mgr
      | false => exact absurd hcaller.1 habsent
  | joinThread => exact hcaller.mgr
  | stopLoop | testStarted => exact (hcaller.resolve_left fun h ↦ habsent h.1).mgr
  | closeManager => exact (hcaller.elim habsent hlive).elim
  | stopped => exact (hcaller.1.elim habsent hlive).elim

theorem no_manager (h : s.Inv) (hend : s.caller = .started false ∨ s.caller = .stopped) :
    s.mgr = false := by
  have hcaller := h.caller
  unfold CallerInv at hcaller
  rcases hend with hc | hc
  · rw [hc] at hcaller
    exact hcaller.2.2
  · rw [hc] at hcaller
    exact hcaller.2

end Inv

end DarwinInput

open DarwinInput in
/-- **The key capture of macOS keeps to the protocol**, whatever fails and however the two threads
take their turns.  `input_start` returns 0 if and only if there is a capture by then, the manager
outlives the thread, and it does not stay behind. -/
theorem darwin_capture_permitted (keepsStop : Bool) (events : List DarwinInputEvent) :
    let s := fresh.run keepsStop events
    let shown := trace (DarwinInput.step keepsStop) actions fresh events
    Along Capture.step Capture.Permits .absent shown ∧
      s.capture = shown.foldl Capture.step .absent ∧
      (∀ ok, s.caller = .started ok → (ok = true ↔ s.capture ≠ .absent)) ∧
      (s.thread ≠ .absent → s.thread ≠ .returned → s.mgr = true) ∧
      (s.caller = .started false ∨ s.caller = .stopped → s.mgr = false) := by
  intro s shown
  have hstep (s : DarwinInput) (c : Capture) (e : DarwinInputEvent) (h : s.Inv ∧ s.capture = c) :
      Along Capture.step Capture.Permits c (s.actions e) ∧ (s.step keepsStop e).Inv ∧
        (s.step keepsStop e).capture = (s.actions e).foldl Capture.step c := by
    obtain ⟨hinv, rfl⟩ := h
    have hfollows : s.Follows keepsStop e := hinv.follows e
    exact ⟨hfollows.1, hinv.step e, hfollows.2⟩
  obtain ⟨halong, hinv, hcapture⟩ := along_trace (R := fun s c ↦ Inv s ∧ capture s = c) hstep
    ⟨inv_fresh, rfl⟩ events
  exact ⟨halong, hcapture, fun _ ↦ hinv.started_iff, hinv.mgr_of_live, hinv.no_manager⟩

/-! ## Stopping it -/

/-- The statements of the thread until it returns. -/
def HidThreadPc.rank : HidThreadPc → Nat
  | getLoop => 5
  | schedule => 4
  | runLoop => 3
  | calling adjusts => adjusts.length + 2
  | running => 1
  | absent | returned => 0

/-- The thread is inside `CFRunLoopRun`. -/
def HidThreadPc.Inside : HidThreadPc → Prop
  | running | calling _ => True
  | absent | getLoop | schedule | runLoop | returned => False

instance : DecidablePred HidThreadPc.Inside
  | .running | .calling _ => inferInstanceAs (Decidable True)
  | .absent | .getLoop | .schedule | .runLoop | .returned => inferInstanceAs (Decidable False)

/-- The statements of `input_stop` that are left. -/
def DarwinCallerPc.rank : DarwinCallerPc → Nat
  | testStarted => 3
  | joinThread => 2
  | closeManager => 1
  | idle | createManager | openManager | createThread | started _ | stopLoop | stopped => 0

namespace DarwinInput

/-- The thread and the caller are scheduled, and their calls succeed. -/
def helpers : List DarwinInputEvent := [.caller true, .thread true]

/-- A value that comes meanwhile takes its time. -/
def cost : DarwinInputEvent → Nat
  | .value _ => 3
  | .start | .stop | .caller _ | .thread _ => 0

def rank (s : DarwinInput) : Nat := s.caller.rank + s.thread.rank

/-- The loop will return for `CFRunLoopStop`, or the thread is gone. -/
def Told (keepsStop : Bool) (s : DarwinInput) : Prop :=
  s.thread = .absent ∨ s.thread = .returned ∨
    s.stopRequested = true ∧ (keepsStop = true ∨ s.thread.Inside)

variable {keepsStop : Bool} {s : DarwinInput}

theorem length_valueCb_le (onAdjust : Bool) (value : HidValue) :
    (valueCb onAdjust value).length ≤ 1 := by
  unfold valueCb adjustsFor
  split_ifs <;> simp

theorem rank_threadStep (s : DarwinInput) (ok : Bool) :
    s.threadStep keepsStop ok = s ∨ (s.threadStep keepsStop ok).thread.rank < s.thread.rank := by
  unfold threadStep
  cases ht : s.thread with
  | absent | returned => exact .inl rfl
  | getLoop | schedule => exact .inr (Nat.lt_succ_self _)
  | runLoop => exact .inr (show 1 < 3 by decide)
  | running =>
      dsimp only
      split_ifs
      · exact .inr Nat.zero_lt_one
      · exact .inl rfl
  | calling adjusts =>
      cases adjusts with
      | nil => exact .inr Nat.one_lt_two
      | cons fraction adjusts => exact .inr (Nat.lt_succ_self _)

theorem caller_threadStep (s : DarwinInput) (ok : Bool) :
    (s.threadStep keepsStop ok).caller = s.caller := by
  unfold threadStep
  split <;> try rfl
  split_ifs <;> rfl

/-- Neither function is called while `input_stop` is at work. -/
theorem step_call (hasked : s.Asked) :
    s.step keepsStop .start = s ∧ s.step keepsStop .stop = s := by
  obtain ⟨onAdjust, mgr, loop, threadStarted, stopRequested, caller, thread⟩ := s
  cases caller with
  | idle | createManager | openManager | createThread | started answer | stopLoop =>
      exact hasked.elim
  | testStarted | joinThread | closeManager | stopped => exact ⟨rfl, rfl⟩

theorem rank_callerStep (hasked : s.Asked) (ok : Bool) :
    s.callerStep ok = s ∨ (s.callerStep ok).rank < s.rank + cost (.caller ok) := by
  unfold Asked at hasked
  unfold callerStep rank
  cases hc : s.caller with
  | idle | createManager | openManager | createThread | started answer | stopLoop =>
      rw [hc] at hasked
      exact hasked.elim
  | testStarted =>
      refine .inr (Nat.add_lt_add_right ?_ _)
      dsimp only
      split_ifs <;> decide
  | joinThread =>
      dsimp only
      split_ifs
      · exact .inr (Nat.add_lt_add_right (Nat.lt_succ_self 1) _)
      · exact .inl rfl
  | closeManager => exact .inr (Nat.add_lt_add_right Nat.zero_lt_one _)
  | stopped => exact .inl rfl

theorem rank_step (hasked : s.Asked) (e : DarwinInputEvent) :
    s.step keepsStop e = s ∨ (s.step keepsStop e).rank < s.rank + cost e := by
  cases e with
  | start => exact .inl (step_call hasked).1
  | stop => exact .inl (step_call hasked).2
  | caller ok => exact rank_callerStep hasked ok
  | thread ok =>
      refine (rank_threadStep s ok).imp_right fun hrank ↦ ?_
      unfold rank step
      rw [caller_threadStep]
      exact Nat.add_lt_add_left hrank _
  | value value =>
      unfold step
      dsimp only
      split_ifs with hrunning
      · refine .inr ?_
        have hlength := length_valueCb_le s.onAdjust value
        unfold rank
        rw [hrunning]
        simp only [HidThreadPc.rank, cost]
        omega
      · exact .inl rfl

theorem callerStep_of_asked (hasked : s.Asked) (ok : Bool) :
    (s.callerStep ok).Asked ∧ (s.callerStep ok).thread = s.thread ∧
      (s.callerStep ok).stopRequested = s.stopRequested := by
  obtain ⟨onAdjust, mgr, loop, threadStarted, stopRequested, caller, thread⟩ := s
  cases caller with
  | idle | createManager | openManager | createThread | started answer | stopLoop =>
      exact hasked.elim
  | testStarted => cases threadStarted <;> exact ⟨trivial, rfl, rfl⟩
  | joinThread =>
      unfold callerStep
      dsimp only
      split_ifs <;> exact ⟨trivial, rfl, rfl⟩
  | closeManager | stopped => exact ⟨trivial, rfl, rfl⟩

theorem asked_step (hasked : s.Asked) (e : DarwinInputEvent) : (s.step keepsStop e).Asked := by
  cases e with
  | start => exact (step_call hasked).1.symm ▸ hasked
  | stop => exact (step_call hasked).2.symm ▸ hasked
  | caller ok => exact (callerStep_of_asked hasked ok).1
  | thread ok =>
      unfold Asked step
      rw [caller_threadStep]
      exact hasked
  | value value =>
      unfold step
      dsimp only
      split_ifs <;> exact hasked

theorem Told.of_live (h : s.Told keepsStop) (habsent : s.thread ≠ .absent)
    (hlive : s.thread ≠ .returned) :
    s.stopRequested = true ∧ (keepsStop = true ∨ s.thread.Inside) :=
  (h.resolve_left habsent).resolve_left hlive

theorem told_threadStep (htold : s.Told keepsStop) (ok : Bool) :
    (s.threadStep keepsStop ok).Told keepsStop := by
  have hlive := htold.of_live
  unfold threadStep
  cases ht : s.thread with
  | absent | returned => exact htold
  | getLoop | schedule =>
      rw [ht] at hlive
      obtain ⟨hstop, hkeeps⟩ := hlive nofun nofun
      exact .inr (.inr ⟨hstop, hkeeps.imp_right False.elim⟩)
  | runLoop =>
      rw [ht] at hlive
      obtain ⟨hstop, hkeeps⟩ := hlive nofun nofun
      refine .inr (.inr ⟨?_, .inr trivial⟩)
      dsimp only
      rw [hstop, hkeeps.resolve_right id, Bool.and_true]
  | running =>
      dsimp only
      split_ifs
      · exact .inr (.inl rfl)
      · exact htold
  | calling adjusts =>
      rw [ht] at hlive
      obtain ⟨hstop, -⟩ := hlive nofun nofun
      cases adjusts with
      | nil => exact .inr (.inr ⟨hstop, .inr trivial⟩)
      | cons fraction adjusts => exact .inr (.inr ⟨hstop, .inr trivial⟩)

theorem told_step (hasked : s.Asked) (htold : s.Told keepsStop) (e : DarwinInputEvent) :
    (s.step keepsStop e).Told keepsStop := by
  cases e with
  | start => exact (step_call hasked).1.symm ▸ htold
  | stop => exact (step_call hasked).2.symm ▸ htold
  | caller ok =>
      obtain ⟨-, hthread, hstop⟩ := callerStep_of_asked hasked ok
      unfold Told step
      dsimp only
      rw [hthread, hstop]
      exact htold
  | thread ok => exact told_threadStep htold ok
  | value value =>
      unfold step
      dsimp only
      split_ifs with hrunning
      · have hlive := htold.of_live
        rw [hrunning] at hlive
        exact .inr (.inr ⟨(hlive nofun nofun).1, .inr trivial⟩)
      · exact htold

theorem ne_of_caller {s' : DarwinInput} (h : s'.caller ≠ s.caller) : s' ≠ s :=
  fun heq ↦ h (congrArg caller heq)

theorem ne_of_thread {s' : DarwinInput} (h : s'.thread ≠ s.thread) : s' ≠ s :=
  fun heq ↦ h (congrArg thread heq)

theorem threadStep_ne (htold : s.Told keepsStop) (habsent : s.thread ≠ .absent)
    (hlive : s.thread ≠ .returned) : s.threadStep keepsStop true ≠ s := by
  obtain ⟨hstop, -⟩ := htold.of_live habsent hlive
  obtain ⟨onAdjust, mgr, loop, threadStarted, stopRequested, caller, thread⟩ := s
  obtain rfl : stopRequested = true := hstop
  cases thread with
  | absent => exact absurd rfl habsent
  | returned => exact absurd rfl hlive
  | getLoop | schedule => exact nofun
  | runLoop => exact ne_of_thread (show HidThreadPc.running ≠ .runLoop by decide)
  | running => exact ne_of_thread (show HidThreadPc.returned ≠ .running by decide)
  | calling adjusts =>
      cases adjusts with
      | nil => exact nofun
      | cons fraction adjusts =>
          exact ne_of_thread fun heq ↦
            List.cons_ne_self fraction adjusts (HidThreadPc.calling.inj heq).symm

theorem exists_moves (hinv : s.Inv) (hasked : s.Asked) (htold : s.Told keepsStop)
    (hstopped : s.caller ≠ .stopped) : ∃ e ∈ helpers, s.step keepsStop e ≠ s := by
  have hmoves := threadStep_ne htold
  obtain ⟨hcaller, -, -⟩ := hinv
  obtain ⟨onAdjust, mgr, loop, threadStarted, stopRequested, caller, thread⟩ := s
  cases caller with
  | idle | createManager | openManager | createThread | started answer | stopLoop =>
      exact hasked.elim
  | stopped => exact absurd rfl hstopped
  | testStarted =>
      refine ⟨.caller true, List.mem_cons_self, ne_of_caller ?_⟩
      cases threadStarted with
      | true => exact show DarwinCallerPc.joinThread ≠ .testStarted by decide
      | false => exact show DarwinCallerPc.closeManager ≠ .testStarted by decide
  | closeManager =>
      refine ⟨.caller true, List.mem_cons_self, ne_of_caller ?_⟩
      exact show DarwinCallerPc.stopped ≠ .closeManager by decide
  | joinThread =>
      by_cases hreturned : thread = .returned
      · subst hreturned
        refine ⟨.caller true, List.mem_cons_self, ne_of_caller ?_⟩
        exact show DarwinCallerPc.closeManager ≠ .joinThread by decide
      · exact ⟨.thread true, List.mem_cons_of_mem _ List.mem_cons_self,
          hmoves hcaller.thread hreturned⟩

theorem stopped_step (hstopped : s.caller = .stopped) (e : DarwinInputEvent) :
    (s.step keepsStop e).caller = .stopped := by
  have hasked : s.Asked := by
    unfold Asked
    rw [hstopped]
    trivial
  cases e with
  | start => rw [(step_call hasked).1, hstopped]
  | stop => rw [(step_call hasked).2, hstopped]
  | caller ok =>
      unfold step callerStep
      rw [hstopped]
      exact hstopped
  | thread ok => exact (caller_threadStep s ok).trans hstopped
  | value value =>
      unfold step
      dsimp only
      split_ifs <;> exact hstopped

theorem ranked (keepsStop : Bool) :
    Ranked (step keepsStop) helpers (fun s ↦ s.Inv ∧ s.Asked ∧ s.Told keepsStop)
      (fun s ↦ s.caller = .stopped) rank cost where
  keeps _ e h := ⟨h.1.step e, asked_step h.2.1 e, told_step h.2.1 h.2.2 e⟩
  stable _ e _ hstopped := stopped_step hstopped e
  moves _ e h := rank_step h.2.1 e
  helps _ h hstopped := exists_moves h.1 h.2.1 h.2.2 hstopped

/-- The thread goes on without having been told, unless the loop ends by itself. -/
theorem told_of_threadStep (htold : (s.threadStep keepsStop true).Told keepsStop) :
    s.Told keepsStop := by
  have hlive := htold.of_live
  unfold threadStep at htold hlive
  cases ht : s.thread with
  | absent => exact .inl ht
  | returned => exact .inr (.inl ht)
  | getLoop | schedule =>
      rw [ht] at hlive
      obtain ⟨hstop, hkeeps⟩ := hlive nofun nofun
      exact .inr (.inr ⟨hstop, .inl (hkeeps.resolve_right id)⟩)
  | runLoop =>
      rw [ht] at hlive
      obtain ⟨hstop, -⟩ := hlive nofun nofun
      obtain ⟨hkeeps, hstop⟩ := Bool.and_eq_true_iff.mp hstop
      exact .inr (.inr ⟨hstop, .inl hkeeps⟩)
  | running =>
      refine .inr (.inr ⟨?_, .inr (ht ▸ trivial)⟩)
      by_contra hno
      rw [ht] at htold
      dsimp only at htold
      rw [if_neg (not_or.mpr ⟨hno, nofun⟩)] at htold
      exact hno (htold.of_live (by rw [ht]; nofun) (by rw [ht]; nofun)).1
  | calling adjusts =>
      refine .inr (.inr ⟨?_, .inr (ht ▸ trivial)⟩)
      rw [ht] at hlive
      cases adjusts with
      | nil => exact (hlive nofun nofun).1
      | cons fraction adjusts => exact (hlive nofun nofun).1

theorem told_of_step (hasked : s.Asked) {e : DarwinInputEvent} (he : e ≠ .thread false)
    (htold : (s.step keepsStop e).Told keepsStop) : s.Told keepsStop := by
  cases e with
  | start => exact (step_call hasked).1 ▸ htold
  | stop => exact (step_call hasked).2 ▸ htold
  | caller ok =>
      obtain ⟨-, hthread, hstop⟩ := callerStep_of_asked hasked ok
      unfold Told step at htold
      dsimp only at htold
      rw [hthread, hstop] at htold
      exact htold
  | thread ok =>
      cases ok with
      | true => exact told_of_threadStep htold
      | false => exact absurd rfl he
  | value value =>
      unfold step at htold
      dsimp only at htold
      split_ifs at htold with hrunning
      · exact .inr (.inr ⟨(htold.of_live nofun nofun).1, .inr (hrunning ▸ trivial)⟩)
      · exact htold

/-- The caller joins a thread whose loop does not return for `CFRunLoopStop`. -/
structure Wedged (keepsStop : Bool) (s : DarwinInput) : Prop where
  inv : s.Inv
  caller : s.caller = .testStarted ∨ s.caller = .joinThread
  not_told : ¬ s.Told keepsStop

theorem Wedged.asked (h : s.Wedged keepsStop) : s.Asked := by
  unfold Asked
  rcases h.caller with hc | hc <;> rw [hc] <;> trivial

theorem Wedged.callerStep (h : s.Wedged keepsStop) (ok : Bool) :
    (s.callerStep ok).caller = .testStarted ∨ (s.callerStep ok).caller = .joinThread := by
  have hcaller := h.inv.caller
  unfold CallerInv at hcaller
  unfold DarwinInput.callerStep
  rcases h.caller with hc | hc
  · rw [hc] at hcaller
    have hlive := hcaller.resolve_left fun hnone ↦ h.not_told (.inl hnone.1)
    rw [hc]
    dsimp only
    rw [if_pos hlive.threadStarted]
    exact .inr rfl
  · rw [hc]
    dsimp only
    rw [if_neg fun hreturned ↦ h.not_told (.inr (.inl hreturned))]
    exact .inr hc

theorem Wedged.step (h : s.Wedged keepsStop) {e : DarwinInputEvent} (he : e ≠ .thread false) :
    (s.step keepsStop e).Wedged keepsStop := by
  refine ⟨h.inv.step e, ?_, fun htold ↦ h.not_told (told_of_step h.asked he htold)⟩
  cases e with
  | start => exact (step_call h.asked).1.symm ▸ h.caller
  | stop => exact (step_call h.asked).2.symm ▸ h.caller
  | caller ok => exact h.callerStep ok
  | thread ok => exact (caller_threadStep s ok).symm ▸ h.caller
  | value value =>
      unfold DarwinInput.step
      dsimp only
      split_ifs <;> exact h.caller

theorem Wedged.run (h : s.Wedged keepsStop) {events : List DarwinInputEvent}
    (hevents : ∀ e ∈ events, e ≠ .thread false) : (s.run keepsStop events).Wedged keepsStop := by
  have halong : Along (DarwinInput.step keepsStop) (fun _ e ↦ e ≠ .thread false) s events :=
    along_forall.mpr hevents
  exact (halong.throughout (I := Wedged keepsStop) h (fun _ _ hs he ↦ hs.step he)
    fun _ hs ↦ hs).last

/-- What `CFRunLoopStop` finds decides whether the loop returns for it. -/
theorem Inv.told_stopLoop_iff (h : s.Inv) (hstop : s.caller = .stopLoop) (ok : Bool) :
    (s.step keepsStop (.caller ok)).Told keepsStop ↔
      s.thread = .absent ∨ s.thread = .returned ∨ s.thread.Inside ∨
        keepsStop = true ∧ s.loop = true := by
  have hloop := h.loop
  have hquiet := h.quiet (by unfold Asked; rw [hstop]; exact id)
  unfold DarwinInput.step DarwinInput.callerStep Told
  dsimp only
  rw [hstop]
  dsimp only
  rw [hquiet, Bool.false_or]
  refine or_congr_right (or_congr_right ⟨?_, ?_⟩)
  · rintro ⟨hset, hkeeps | hinside⟩
    · exact .inr ⟨hkeeps, hset⟩
    · exact .inl hinside
  · rintro (hinside | ⟨hkeeps, hset⟩)
    · refine ⟨hloop ?_ ?_, .inr hinside⟩
      · intro ht
        rw [ht] at hinside
        exact hinside
      · intro ht
        rw [ht] at hinside
        exact hinside
    · exact ⟨hset, .inl hkeeps⟩

end DarwinInput

open DarwinInput in
/-- **When `input_stop` returns on macOS.**  If the thread is inside its run loop by the time of
`CFRunLoopStop`, or is gone, a number of rounds, and three more for each value that comes meanwhile,
see `input_stop` return.  A thread that has not come to its loop yet is joined in vain, unless the
loop remembers that it was stopped and `g_loop` was set, or ends by itself. -/
theorem darwin_stop_returns (keepsStop : Bool) (events : List DarwinInputEvent) (ok : Bool) :
    let s := fresh.run keepsStop events
    let s' := s.step keepsStop (.caller ok)
    s.caller = .stopLoop →
      let told := s.thread = .absent ∨ s.thread = .returned ∨ s.thread.Inside ∨
        keepsStop = true ∧ s.loop = true
      (told → ∀ rounds : List (List DarwinInputEvent), (∀ r ∈ rounds, Round helpers r) →
        s'.rank + total cost rounds.flatten < rounds.length →
          (s'.run keepsStop rounds.flatten).caller = .stopped) ∧
      (¬ told → ∀ more, (∀ e ∈ more, e ≠ .thread false) →
        (s'.run keepsStop more).caller ≠ .stopped) := by
  intro s s' hstop told
  have hinv : s.Inv := inv_run keepsStop events
  have htold : s'.Told keepsStop ↔ told := hinv.told_stopLoop_iff hstop ok
  rw [← htold]
  have hcaller : s'.caller = .testStarted := by
    change (s.callerStep ok).caller = .testStarted
    unfold callerStep
    rw [hstop]
  have hasked : s'.Asked := by
    unfold Asked
    rw [hcaller]
    trivial
  refine ⟨fun h rounds hrounds hlen ↦ ?_, fun h more hmore hstopped ↦ ?_⟩
  · exact (ranked keepsStop).done_of_rounds hrounds ⟨hinv.step _, hasked, h⟩ hlen
  · have hwedged : s'.Wedged keepsStop := ⟨hinv.step _, .inl hcaller, h⟩
    rcases (hwedged.run hmore).caller with hc | hc
    · exact absurd (hc.symm.trans hstopped) nofun
    · exact absurd (hc.symm.trans hstopped) nofun

open DarwinInput in
/-- The thread is inside its loop when it is stopped; it has only found its loop. -/
theorem darwin_stop_returns_visited :
    let started : List DarwinInputEvent := .start :: List.replicate 3 (.caller true)
    let s₁ := (fresh.run false (started ++ List.replicate 3 (.thread true) ++ [.stop])).step false
      (.caller true)
    let s₂ := (fresh.run false (started ++ [.thread true, .stop])).step false (.caller true)
    (s₁.run false (List.replicate 5 helpers).flatten).caller = .stopped ∧
      (s₂.run false (List.replicate 5 helpers).flatten).caller ≠ .stopped := by
  have hround : ∀ r ∈ List.replicate 5 helpers, Round helpers r := by
    intro r hr
    rw [List.eq_of_mem_replicate hr]
    exact fun _ h ↦ h
  have hmore : ∀ e ∈ (List.replicate 5 helpers).flatten, e ≠ DarwinInputEvent.thread false := by
    decide
  constructor
  · exact (darwin_stop_returns false _ true (by decide +kernel)).1 (by decide +kernel) _ hround
      (by decide +kernel)
  · exact (darwin_stop_returns false _ true (by decide +kernel)).2 (by decide +kernel) _ hmore

end Dimmit
