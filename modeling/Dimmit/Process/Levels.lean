import Dimmit.DisplayController.Eager
import Dimmit.Process.Admission

/-!
# From the keys to the displays

The threads of the process press, poll and write in any order, and the writes are slow.  At rest,
when the worker waits and nobody is about to wake it, the displays show what their users have asked
for: the level of the eager displays after all the presses, in the order in which the threads had
the lock.  Without key capture these are the commands of the clients that were let in.
-/

namespace Dimmit

open Run Trace

variable {W R H Ctx O S : Type}

namespace Process

variable {sys : DaemonSystem O S} {P : Provider W Ctx} {p : Process W Ctx O S}

/-- The worker waits, with no wakeup on its way. -/
structure AtRest (p : Process W Ctx O S) : Prop where
  worker : p.daemon.worker = .blocked false
  clients : ∀ i, p.daemon.clients i ≠ .adjusted

/-- While the worker is there, the controller is open. -/
theorem Inv.not_past (h : p.Inv P) (hentry : p.daemon.worker ≠ .entry)
    (hreturned : p.daemon.worker ≠ .returned) : ¬ p.main.Past .closeController :=
  fun hpast ↦ hreturned ((h.alone hpast.le).worker (h.worker hentry))

theorem AtRest.not_past (h : p.AtRest) (hp : p.Inv P) : ¬ p.main.Past .closeController :=
  hp.not_past (h.worker.trans_ne nofun) (h.worker.trans_ne nofun)

/-- At rest nothing is pending. -/
theorem AtRest.settled (h : p.AtRest) (hp : p.Inv P) : p.daemon.session.Settled :=
  ((hp.daemon (h.not_past hp)).blocked h.worker).resolve_left fun ⟨i, hi⟩ ↦ h.clients i hi

/-- A session with nothing pending: every display is where it is heading, at the level of its eager
display. -/
theorem reflects_of_settled {impl : Implementation W R H} {device : H → R}
    {register : W → R → NonTableVcpValue} {Up : W → Prop} {dlist : DisplayInfoList R}
    (h : Obedient impl device register Up dlist) {o : O} {w : W} (hw : Up w) {p : Process W H O S}
    (hstart : startup sys (ddcProvider impl) o w = .ok p) {events : List ProcessEvent}
    (hopen : ¬ (p.run sys (ddcProvider impl) events).main.Past .closeController)
    (hsettled : (p.run sys (ddcProvider impl) events).daemon.session.Settled) :
    let s := (p.run sys (ddcProvider impl) events).daemon.session
    let calls := trace (Process.step sys (ddcProvider impl)) calls p events
    s.Reflects device register Up (externalsFrom 0 dlist.info) (register w)
      (eagerLevels (register w) (fractions (calls.map Prod.snd))) ∧
    (∀ m ∈ s.displays, m.dim.pendingDelta = 0) ∧ s.controller ≠ none := by
  intro s calls
  have hsession : s = _ := (follows_run hstart events).opened hopen
  have hstarted : (Session.start (ddcProvider impl) w).controller ≠ none := (startup_eq_ok hstart).1
  refine ⟨?_, fun m hm ↦ (hsettled m hm).2, ?_⟩
  · rw [hsession]
    exact Session.Reflects.run h hw (calls.map Prod.snd)
  · rw [hsession]
    exact Session.controller_run_ne_none hstarted _

/-- So it is at rest. -/
theorem AtRest.reflects {impl : Implementation W R H} {device : H → R}
    {register : W → R → NonTableVcpValue} {Up : W → Prop} {dlist : DisplayInfoList R}
    (h : Obedient impl device register Up dlist) {o : O} {w : W} (hw : Up w) {p : Process W H O S}
    (hstart : startup sys (ddcProvider impl) o w = .ok p) {events : List ProcessEvent}
    (hrest : (p.run sys (ddcProvider impl) events).AtRest) :
    let s := (p.run sys (ddcProvider impl) events).daemon.session
    let calls := trace (Process.step sys (ddcProvider impl)) calls p events
    s.Reflects device register Up (externalsFrom 0 dlist.info) (register w)
      (eagerLevels (register w) (fractions (calls.map Prod.snd))) ∧
    (∀ m ∈ s.displays, m.dim.pendingDelta = 0) ∧ s.controller ≠ none :=
  have hinv := (follows_run hstart events).inv
  reflects_of_settled h hw hstart (hrest.not_past hinv) (hrest.settled hinv)

end Process

/-- **At rest the displays show what was pressed.**  Over an obedient backend, in every run of the
process, whatever passes and polls came between the presses: when the worker waits and nobody is
about to wake it, every external display shows the level of the eager display after all presses, in
the order in which the threads had the lock, and no other display was touched. -/
theorem displays_show_presses (sys : DaemonSystem O S) {impl : Implementation W R H}
    {device : H → R} {register : W → R → NonTableVcpValue} {Up : W → Prop}
    {dlist : DisplayInfoList R} (h : Obedient impl device register Up dlist) {o : O} {w : W}
    (hw : Up w) {p : Process W H O S} (hstart : startup sys (ddcProvider impl) o w = .ok p)
    (events : List ProcessEvent) (hrest : (p.run sys (ddcProvider impl) events).AtRest) :
    let world := (p.run sys (ddcProvider impl) events).daemon.session.world
    let calls := trace (Process.step sys (ddcProvider impl)) Process.calls p events
    (∀ info ∈ dlist.info, info.isBuiltin = false → (register world info.dref).shown =
      eagerLevels (register w) (fractions (calls.map Prod.snd)) info.dref) ∧
    ∀ r, (∀ p ∈ externalsFrom 0 dlist.info, p.2.dref ≠ r) → register world r = register w r := by
  obtain ⟨hreflects, hpending, hopen⟩ := hrest.reflects h hw hstart
  exact ⟨fun info hinfo hext ↦ hreflects.shown hpending hopen hinfo hext, hreflects.others⟩

/-- The mock with two displays, at 50 of 100 and at 195 of 200. -/
def mockedDisplays : MockState :=
  mockReset 2 (fun i ↦ if i = 0 then 50 else 195) (fun i ↦ if i = 0 then 100 else 200) .zero

/-- A mock whose allocations succeed. -/
def mockBackend : Implementation (MockState × Unit) (Fin mockMaxDisplays) (Fin mockMaxDisplays) :=
  inMemoryMock fun a ↦ (true, a)

theorem ready_mockedDisplays : mockedDisplays.Ready mockedDisplays.count :=
  ⟨rfl, rfl, by decide⟩

/-- The process that controls them and is visited twice. -/
def visitedMock : Process (MockState × Unit) (Fin mockMaxDisplays)
    ((Visit × List Visit) × List (SocketCall Nat)) Nat where
  daemon := .boot (ddcProvider mockBackend) (mockedDisplays, ())
  os := ((⟨false, []⟩, [⟨true, upWord ++ [newline]⟩, ⟨false, downWord⟩]), [])
  sockPath := bytes ['/', 's']
  main := .createWorker
  workerStarted := false
  capture := .absent

theorem startup_visitedMock : startup visited.logged (ddcProvider mockBackend)
    ((⟨false, []⟩, [⟨true, upWord ++ [newline]⟩, ⟨false, downWord⟩]), []) (mockedDisplays, ()) =
    .ok visitedMock := rfl

/-- The first visitor is served, and the worker waits. -/
def servedAtRest : List ProcessEvent := List.replicate 16 .main ++ List.replicate 8 .work

theorem atRest_visitedMock :
    (visitedMock.run visited.logged (ddcProvider mockBackend) servedAtRest).AtRest where
  worker := by decide +kernel
  clients i := by cases i <;> decide +kernel

/-- Both displays have moved, the second as far as it goes. -/
theorem displays_show_presses_visited :
    let st := (visitedMock.run visited.logged (ddcProvider mockBackend)
      servedAtRest).daemon.session.world.1
    (mockValue (ensureDefault st) 0).shown = 56 ∧ (mockValue (ensureDefault st) 1).shown = 200 := by
  intro st
  obtain ⟨hshown, -⟩ := displays_show_presses visited.logged
    (obedient_inMemoryMock (fun _ ↦ rfl) mockedDisplays (by decide)) ready_mockedDisplays
    startup_visitedMock servedAtRest atRest_visitedMock
  exact ⟨(hshown (mockInfo 0) (by decide +kernel) rfl).trans (by decide +kernel),
    (hshown (mockInfo 1) (by decide +kernel) rfl).trans (by decide +kernel)⟩

/-! ## Without key capture -/

/-- While the key capture is elsewhere, the presses are those of `main`. -/
theorem Daemon.callOf_press {d : Daemon W Ctx} (hidle : d.clients .keyCapture = .idle)
    {e : DaemonEvent} {t : Thread} {f : ℚ} (h : d.callOf e = some (t, .adjust f)) :
    t = .client .acceptLoop := by
  cases e with
  | call i =>
      cases i with
      | acceptLoop =>
          rw [callOf] at h
          cases hpc : d.clients .acceptLoop with
          | locked call =>
              rw [hpc] at h
              cases call <;> cases h
              rfl
          | idle | adjusted | unlocking =>
              rw [hpc] at h
              cases h
      | keyCapture =>
          rw [callOf, hidle] at h
          cases h
  | work =>
      rw [callOf] at h
      cases hpc : d.worker with
      | service n =>
          rw [hpc] at h
          cases h
      | entry | loop n | waiting n | blocked wakeup | woken | leaving | returned =>
          rw [hpc] at h
          cases h
  | lock | signal | unlock | wake | stop | stopSignal => cases h

/-- Where all presses are of one thread, they are the presses. -/
theorem fractions_map_snd {t : Thread} {calls : List (Thread × Op)}
    (h : ∀ call ∈ calls, ∀ f, call.2 = .adjust f → call.1 = t) :
    fractions (calls.map Prod.snd) = pressesOf t calls := by
  induction calls with
  | nil => rfl
  | cons call calls ih =>
      obtain ⟨hcall, hcalls⟩ := List.forall_mem_cons.mp h
      obtain ⟨t', op⟩ := call
      change fractions (op :: calls.map Prod.snd) = _ ++ pressesOf t calls
      rw [← ih hcalls]
      cases op with
      | adjust f =>
          obtain rfl : t' = t := hcall f rfl
          simp [fractions]
      | service | reconcile => rfl

namespace Process

variable {sys : DaemonSystem O S} {P : Provider W Ctx} {p : Process W Ctx O S}

theorem capture_serve (sock : S) (pc : ServePc S) :
    (p.serve sys P sock pc).capture = p.capture := by
  obtain ⟨d, o, m, h⟩ := serve_eq sys P p sock pc
  rw [h]

/-- Where `input_start` fails there is no key capture. -/
theorem capture_step (hkeys : ∀ o, (sys.inputStart o).1 = false) (hp : p.capture = .absent)
    (e : ProcessEvent) : (p.step sys P e).capture = .absent := by
  unfold Process.step
  cases e with
  | main =>
      change (p.mainStep sys P).capture = _
      unfold mainStep cleanup
      cases p.main with
      | createWorker | openSocket =>
          dsimp only
          split <;> exact hp
      | startInput =>
          have hfails := hkeys p.os
          rcases hstart : sys.inputStart p.os with ⟨_ | _, o⟩
          · exact hp
          · rw [hstart] at hfails
            cases hfails
      | unlinkStale => exact hp
      | serving sock pc => exact (capture_serve sock pc).trans hp
      | closing sock bound pc =>
          unfold close
          cases pc with
          | stopInput => exact if_neg (by rw [hp]; nofun) |>.trans hp
          | joinInput | signalWorker | joinWorker =>
              dsimp only
              split_ifs <;> exact hp
          | clearRunning | closeSocket | unlinkSocket | closeController | netCleanup | exited =>
              exact hp
  | work | wake | press =>
      dsimp only
      split_ifs <;> exact hp
  | keyReturn =>
      have hgone : p.capture.Gone := by
        rw [hp]
        trivial
      dsimp only
      rw [if_neg fun h ↦ h.1 hgone]
      exact hp
  | key | interrupt => exact hp

theorem presses_of_main (sys : DaemonSystem O S) (hkeys : ∀ o, (sys.inputStart o).1 = false)
    {impl : Implementation W R H} {p : Process W H O S} (h : p.Inv (ddcProvider impl))
    (hp : p.capture = .absent) (events : List ProcessEvent) :
    ∀ call ∈ trace (Process.step sys (ddcProvider impl)) calls p events,
      ∀ f, call.2 = .adjust f → call.1 = .client .acceptLoop := by
  refine forall_trace (J := fun p ↦ p.Inv (ddcProvider impl) ∧ p.capture = .absent)
    (fun p e hp ↦ ⟨hp.1.step e, capture_step hkeys hp.2 e⟩) ?_ ⟨h, hp⟩ events
  rintro p e ⟨h, hp⟩ ⟨t, op⟩ hcall f rfl
  have hidle : p.daemon.clients .keyCapture = .idle := by
    by_contra hne
    refine h.capture hne ?_
    rw [hp]
    trivial
  obtain ⟨e', -, hcall⟩ := Option.bind_eq_some_iff.mp (Option.mem_toList.mp hcall)
  exact Daemon.callOf_press hidle hcall

/-- At rest and without key capture, the displays show what `main` has heard. -/
theorem shown_commands (sys : DaemonSystem O S) (hkeys : ∀ o, (sys.inputStart o).1 = false)
    {impl : Implementation W R H} {device : H → R} {register : W → R → NonTableVcpValue}
    {Up : W → Prop} {dlist : DisplayInfoList R} (h : Obedient impl device register Up dlist) {o : O}
    {w : W} (hw : Up w) {p : Process W H (O × List (SocketCall S)) S}
    (hstart : startup sys.logged (ddcProvider impl) (o, []) w = .ok p)
    {events : List ProcessEvent} (hrest : (p.run sys.logged (ddcProvider impl) events).AtRest)
    (hidle : (p.run sys.logged (ddcProvider impl) events).inFlight = []) {info : DisplayInfo R}
    (hinfo : info ∈ dlist.info) (hext : info.isBuiltin = false) :
    let q := p.run sys.logged (ddcProvider impl) events
    (register q.daemon.session.world info.dref).shown =
      eagerLevels (register w) (q.os.2.flatMap SocketCall.press) info.dref := by
  obtain ⟨hreflects, hpending, hopen⟩ := hrest.reflects h hw hstart
  have hpresses := (served_run hstart events).presses
  rw [hidle, List.append_nil] at hpresses
  have hcapture : p.capture = .absent := by
    obtain ⟨-, o', rfl⟩ := startup_eq_ok hstart
    rfl
  have hmain := presses_of_main sys.logged (fun o ↦ hkeys o.1) (inv_startup hstart) hcapture events
  rw [fractions_map_snd hmain, hpresses] at hreflects
  exact hreflects.shown hpending hopen hinfo hext

end Process

/-- **What the authorized clients have asked for is what the displays show.**  Without key capture,
over an obedient backend: whoever was heard had just been judged authorized; and when the worker
waits and `main` is not on its way to a press, every external display shows the level of the eager
display after the commands that were heard, in their order. -/
theorem displays_show_commands (sys : DaemonSystem O S) (hkeys : ∀ o, (sys.inputStart o).1 = false)
    {impl : Implementation W R H} {device : H → R} {register : W → R → NonTableVcpValue}
    {Up : W → Prop} {dlist : DisplayInfoList R} (h : Obedient impl device register Up dlist) {o : O}
    {w : W} (hw : Up w) {p : Process W H (O × List (SocketCall S)) S}
    (hstart : startup sys.logged (ddcProvider impl) (o, []) w = .ok p)
    (events : List ProcessEvent) (hrest : (p.run sys.logged (ddcProvider impl) events).AtRest)
    (hidle : (p.run sys.logged (ddcProvider impl) events).inFlight = []) :
    let q := p.run sys.logged (ddcProvider impl) events
    (∀ log client data later, q.os.2 = log ++ .received client data :: later →
      ∃ before, log = before ++ [.judged client true]) ∧
    ∀ info ∈ dlist.info, info.isBuiltin = false →
      (register q.daemon.session.world info.dref).shown =
        eagerLevels (register w) (q.os.2.flatMap SocketCall.press) info.dref := by
  intro q
  have hserved := Process.served_run hstart events
  exact ⟨fun _ _ _ _ hlog ↦ hserved.judged_of_received hlog,
    fun _ hinfo hext ↦ Process.shown_commands sys hkeys h hw hstart hrest hidle hinfo hext⟩

/-- The first visitor was let in and asked for more. -/
theorem displays_show_commands_visited :
    let q := visitedMock.run visited.logged (ddcProvider mockBackend) servedAtRest
    let st := q.daemon.session.world.1
    (∃ before, q.os.2.take 7 = before ++ [.judged 4 true]) ∧
    (mockValue (ensureDefault st) 0).shown = 56 ∧ (mockValue (ensureDefault st) 1).shown = 200 := by
  intro q st
  obtain ⟨hadmitted, hcommands⟩ := displays_show_commands visited (fun _ ↦ rfl)
    (obedient_inMemoryMock (fun _ ↦ rfl) mockedDisplays (by decide)) ready_mockedDisplays
    startup_visitedMock servedAtRest atRest_visitedMock (by decide +kernel)
  have hlog : q.os.2 =
      q.os.2.take 7 ++ .received 4 (some (upWord ++ [newline])) :: q.os.2.drop 8 := by
    decide +kernel
  exact ⟨hadmitted _ _ _ _ hlog,
    (hcommands (mockInfo 0) (by decide +kernel) rfl).trans (by decide +kernel),
    (hcommands (mockInfo 1) (by decide +kernel) rfl).trans (by decide +kernel)⟩

end Dimmit
