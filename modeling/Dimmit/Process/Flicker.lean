import Dimmit.Ddc.Linux.Exclusive
import Dimmit.Process.Linux

/-!
# The daemon over displays that flicker

An idle tick is a poll, so over a backend that opens a display only once, as the Linux backend over
libddcutil does, the displays are there in one second and away in the next.  What the threads press
in between is what `Flicker` makes of their calls, in the order in which they had the lock.
-/

namespace Dimmit

open Trace

variable {W R H D DH O S : Type}

theorem Session.Flickers.count {device : H → R} {dlist : DisplayInfoList R} {held : W → Set R}
    {register : W → R → NonTableVcpValue} {first : R → NonTableVcpValue} {f : Flicker R}
    {s : Session W H} (hs : s.Flickers device register held dlist first f) :
    controllerCount s.controller =
      if f.attached then (externalsFrom 0 dlist.info).length else 0 := by
  cases hf : f.attached with
  | true =>
      obtain ⟨hopen, hreflects⟩ := hs.attached hf
      obtain ⟨c, hc⟩ := Option.ne_none_iff_exists'.mp hopen
      rw [hc, if_pos rfl]
      exact (hreflects.seated.seats c hc).length_eq
  | false =>
      rw [(hs.detached hf).1, if_neg nofun]
      rfl

/-- **The process refines the flickering displays.**  Over an exclusive backend, in every run, the
displays are managed and show what the flickering displays make of the calls of the threads. -/
theorem Process.flickers_run {sys : DaemonSystem O S} {impl : Implementation W R H}
    {device : H → R} {dlist : DisplayInfoList R} {held : W → Set R}
    {register : W → R → NonTableVcpValue}
    (h : ExclusiveRegisters impl device dlist held register) {o : O} {w : W} (hw : held w = ∅)
    {p : Process W H O S} (hstart : startup sys (ddcProvider impl) o w = .ok p)
    (events : List ProcessEvent) :
    let s := (p.run sys (ddcProvider impl) events).daemon.session
    let f := ((trace (Process.step sys (ddcProvider impl)) calls p events).map Prod.snd).foldl
      (Flicker.step (register w)) (.start (register w))
    (controllerCount s.controller =
      if f.attached then (externalsFrom 0 dlist.info).length else 0) ∧
    ∀ info ∈ externalsFrom 0 dlist.info,
      (register s.world info.2.dref).shown = f.shown info.2.dref := by
  intro s f
  have hfollows := follows_run hstart events
  have hflickers := Session.Flickers.run h hw
    ((trace (Process.step sys (ddcProvider impl)) calls p events).map Prod.snd)
  by_cases hp : (p.run sys (ddcProvider impl) events).main.Past .closeController
  · have hs : s = Session.closed (ddcProvider impl) _ := hfollows.closed hp
    rw [hs]
    refine ⟨hflickers.count, fun info hinfo ↦ ?_⟩
    rw [← hflickers.shown_eq info hinfo]
    generalize (Session.start (ddcProvider impl) w).run (ddcProvider impl) _ = s'
    have hkept : register (s'.closed (ddcProvider impl)).world = register s'.world := by
      obtain ⟨_ | c, w', results⟩ := s'
      · rfl
      · exact (h.keeps (register w')).brightnessFree c.sources rfl
    rw [hkept]
  · have hs : s = _ := hfollows.opened hp
    rw [hs]
    exact ⟨hflickers.count, hflickers.shown_eq⟩

/-- **On Linux the displays flicker.**  Where libddcutil opens a display only once and refuses it
while it is open, in every run of the daemon: all displays are managed while the number of polls is
even, and none while it is odd; and what they show is what the calls of the threads, in the order in
which they had the lock, make of displays that are away at every other poll. -/
theorem linux_displays_flicker (sys : DaemonSystem O S) {ddca : Ddca W D DH} {device : DH → D}
    {dl : DdcaDisplayInfoList D} {held : W → Set D} {register : W → D → NonTableVcpValue}
    (h : ddca.OpensOnce device dl held register) {o : O} {w : W} (hw : held w = ∅)
    {p : Process W DH O S}
    (hstart : startup sys (ddcProvider (linuxImplementation ddca)) o w = .ok p)
    (events : List ProcessEvent) :
    let s := (p.run sys (ddcProvider (linuxImplementation ddca)) events).daemon.session
    let ops := (trace (Process.step sys (ddcProvider (linuxImplementation ddca))) Process.calls p
      events).map Prod.snd
    let f := ops.foldl (Flicker.step (register w)) (.start (register w))
    (controllerCount s.controller = if Even (ops.count .reconcile) then dl.info.length else 0) ∧
    ∀ info ∈ dl.info, (register s.world info.dref).shown = f.shown info.dref := by
  intro s ops f
  obtain ⟨hcount, hshown⟩ := Process.flickers_run h.exclusiveRegisters hw hstart events
  have hexternals : (externalsFrom 0 (linuxList dl).info).map Prod.snd =
      dl.info.map linuxDisplayInfo := by
    rw [externalsFrom_map_snd, Ddca.OpensOnce.filter_linuxList]
  constructor
  · have hlength := congrArg List.length hexternals
    rw [List.length_map, List.length_map] at hlength
    rw [hcount, hlength]
    exact if_congr (Flicker.attached_foldl_iff (register w) ops) rfl rfl
  · intro info hinfo
    have hmem : linuxDisplayInfo info ∈ (externalsFrom 0 (linuxList dl).info).map Prod.snd := by
      rw [hexternals]
      exact List.mem_map_of_mem hinfo
    obtain ⟨seat, hseat, he⟩ := List.mem_map.mp hmem
    have hdref : seat.2.dref = info.dref := congrArg (·.dref) he
    rw [← hdref]
    exact hshown seat hseat

/-- libddcutil with the displays of `dl`.  Its world is the list of those that are open and the
registers of all, and a display is its own handle. -/
def openOnceDdca (dl : DdcaDisplayInfoList Nat) :
    Ddca (List Nat × (Nat → NonTableVcpValue)) Nat Nat where
  getDisplayInfoList2 w := (0, some dl, w)
  freeDisplayInfoList _ w := w
  openDisplay2 r w := if r ∈ w.1 then (none, w) else (some r, r :: w.1, w.2)
  closeDisplay r w := (w.1.filter (· ≠ r), w.2)
  getNonTableVcpValue r _ w := (some (w.2 r), w)
  setNonTableVcpValue r _ hi lo w :=
    (true, w.1, Function.update w.2 r { w.2 r with sh := hi, sl := lo })
  alloc w := (true, w)

theorem opensOnce_openOnceDdca {dl : DdcaDisplayInfoList Nat} (hne : dl.info ≠ [])
    (hn : (dl.info.map (·.dref)).Nodup) :
    (openOnceDdca dl).OpensOnce id dl (fun w ↦ {r | r ∈ w.1}) Prod.snd where
  ne_nil := hne
  nodup := hn
  list w := ⟨w, rfl, rfl, rfl⟩
  free _ _ := ⟨rfl, rfl⟩
  alloc w := ⟨w, rfl, rfl, rfl⟩
  opens {r w} hr := ⟨r, (r :: w.1, w.2), if_neg hr, rfl, by ext r'; simp, rfl⟩
  refuses {r w} hr := ⟨w, if_pos hr, rfl, rfl⟩
  close r w := ⟨by ext r'; simp [openOnceDdca], rfl⟩
  read r _ w := ⟨w.2 r, w, rfl, ⟨rfl, rfl⟩, fun _ ↦ rfl⟩
  write r _ hi lo w := ⟨_, rfl, rfl⟩
  written r _ _ w _ := Function.update_self r _ w.2
  kept r _ _ w _ _ hne := Function.update_of_ne hne _ w.2

/-- One display. -/
def monitorOnLinux : DdcaDisplayInfoList Nat := ⟨[⟨0, ['D', 'E', 'L'], 0xa0c4⟩], by decide⟩

/-- The process over this display at 50 of 100, which is visited once. -/
def visitedOnLinux : Process (List Nat × (Nat → NonTableVcpValue)) Nat (Visit × List Visit) Nat where
  daemon := .boot (ddcProvider (linuxImplementation (openOnceDdca monitorOnLinux)))
    ([], fun _ ↦ ⟨0, 100, 0, 50⟩)
  os := (⟨false, []⟩, [⟨true, upWord ++ [newline]⟩])
  sockPath := bytes ['/', 's']
  main := .createWorker
  workerStarted := false
  capture := .absent

/-- A member of the group presses, and the next second comes before the worker has started. -/
def pressAway : List ProcessEvent := List.replicate 22 .main ++ List.replicate 3 .work

/-- The press is lost: the poll lets the display go before anything was written. -/
theorem linux_displays_flicker_visited :
    let s := (visitedOnLinux.run (visited.onLinux visitedLinux)
      (ddcProvider (linuxImplementation (openOnceDdca monitorOnLinux))) pressAway).daemon.session
    controllerCount s.controller = 0 ∧ (s.world.2 0).shown = 50 := by
  intro s
  have hlaw : (openOnceDdca monitorOnLinux).OpensOnce id monitorOnLinux (fun w ↦ {r | r ∈ w.1})
      Prod.snd := opensOnce_openOnceDdca (by decide) (by decide)
  obtain ⟨hcount, hshown⟩ := linux_displays_flicker (visited.onLinux visitedLinux) hlaw
    (o := (⟨false, []⟩, [⟨true, upWord ++ [newline]⟩])) (w := ([], fun _ ↦ ⟨0, 100, 0, 50⟩))
    (by ext r; simp) (p := visitedOnLinux) rfl pressAway
  have hops : ((trace (Process.step (visited.onLinux visitedLinux)
      (ddcProvider (linuxImplementation (openOnceDdca monitorOnLinux)))) Process.calls
      visitedOnLinux pressAway).map Prod.snd) = [.adjust (1 / 16), .reconcile, .service] := by
    decide +kernel
  rw [hops] at hcount hshown
  constructor
  · rw [hcount]
    rfl
  · exact (hshown ⟨0, ['D', 'E', 'L'], 0xa0c4⟩ (by decide)).trans (by decide +kernel)

end Dimmit
