import Dimmit.Process

/-!
# Nobody is left when the controller is closed

Who has the lock is inside, and who is inside has the lock; so at most one thread is at the
controller.  `main` closes the controller without the lock: what makes this safe is that it has
joined every other thread by then.
-/

namespace Dimmit

variable {W R H Ctx O S : Type}

/-! ## What a step of the daemon can do -/

namespace Daemon

/-- The call of the controller that a step makes, and who makes it. -/
def callOf (d : Daemon W Ctx) : DaemonEvent → Option (Thread × Op)
  | .call i =>
    match d.clients i with
    | .locked (.adjustFraction fraction) => some (.client i, .adjust fraction)
    | .locked .reconcile => some (.client i, .reconcile)
    | .idle | .adjusted | .unlocking => none
  | .work =>
    match d.worker with
    | .service _ => some (.worker, .service)
    | .entry | .loop _ | .waiting _ | .blocked _ | .woken | .leaving | .returned => none
  | .lock _ _ | .signal _ | .unlock _ | .wake | .stop | .stopSignal => none

/-- What a step can make of `d`. -/
inductive Outcome (P : Provider W Ctx) (d : Daemon W Ctx) : DaemonEvent → Daemon W Ctx → Prop
  | /-- The thread has to wait, or is elsewhere. -/
    blocked {e : DaemonEvent} (h : d.callOf e = none) : Outcome P d e d
  | lock {i : Client} {call : Call} (hfree : d.owner = none) (hidle : d.clients i = .idle) :
      Outcome P d (.lock i call) { d.goTo i (.locked call) with owner := some (.client i) }
  | press {i : Client} {f : ℚ} (h : d.clients i = .locked (.adjustFraction f)) :
      Outcome P d (.call i) { d.goTo i .adjusted with session := d.session.step P (.adjust f) }
  | poll {i : Client} (h : d.clients i = .locked .reconcile) :
      Outcome P d (.call i) { d.goTo i .unlocking with session := d.session.step P .reconcile }
  | signal {i : Client} (h : d.clients i = .adjusted) :
      Outcome P d (.signal i) { d.goTo i .unlocking with worker := d.worker.signaled }
  | unlock {i : Client} (h : d.clients i = .unlocking) :
      Outcome P d (.unlock i) { d.goTo i .idle with owner := none }
  | acquire (hpc : d.worker = .entry ∨ d.worker = .woken) (hfree : d.owner = none) :
      Outcome P d .work { d with owner := some .worker, worker := .loop 0 }
  | test {n : Nat} (hpc : d.worker = .loop n) :
      Outcome P d .work { d with worker := if d.running then .service n else .leaving }
  | pass {n : Nat} (hpc : d.worker = .service n) : Outcome P d .work
      { d with
        session := d.session.step P .service
        worker := if d.session.applied P > 0 then .loop (n + 1) else .waiting (n + 1) }
  | wait {n : Nat} (hpc : d.worker = .waiting n) :
      Outcome P d .work { d with owner := none, worker := .blocked false }
  | leave (hpc : d.worker = .leaving) :
      Outcome P d .work { d with owner := none, worker := .returned }
  | wake {wakeup : Bool} (hpc : d.worker = .blocked wakeup) :
      Outcome P d .wake { d with worker := .woken }
  | stop : Outcome P d .stop { d with running := false }
  | stopSignal (hstop : d.running = false) :
      Outcome P d .stopSignal { d with worker := d.worker.signaled }

/-- **Every step has one of these outcomes.** -/
theorem outcome_step (P : Provider W Ctx) (d : Daemon W Ctx) (e : DaemonEvent) :
    d.Outcome P e (d.step P e) := by
  cases e with
  | lock i call =>
      rw [step]
      split_ifs with h
      · exact .lock h.1 h.2
      · exact .blocked rfl
  | call i =>
      rw [step]
      cases hpc : d.clients i with
      | locked call =>
          cases call with
          | adjustFraction f => exact .press hpc
          | reconcile => exact .poll hpc
      | idle | adjusted | unlocking => exact .blocked (by rw [callOf, hpc])
  | signal i =>
      rw [step]
      cases hpc : d.clients i with
      | adjusted => exact .signal hpc
      | idle | locked call | unlocking => exact .blocked rfl
  | unlock i =>
      rw [step]
      cases hpc : d.clients i with
      | unlocking => exact .unlock hpc
      | idle | locked call | adjusted => exact .blocked rfl
  | work =>
      have hlock (hpc : d.worker = .entry ∨ d.worker = .woken) : d.Outcome P .work
          (if d.owner = none then { d with owner := some .worker, worker := .loop 0 } else d) := by
        split_ifs with hfree
        · exact .acquire hpc hfree
        · refine .blocked ?_
          rcases hpc with hpc | hpc <;> rw [callOf, hpc]
      change d.Outcome P .work (d.work P)
      unfold Daemon.work
      cases hpc : d.worker with
      | entry => exact hlock (.inl hpc)
      | woken => exact hlock (.inr hpc)
      | loop n => exact .test hpc
      | service n => exact .pass hpc
      | waiting n => exact .wait hpc
      | leaving => exact .leave hpc
      | blocked wakeup | returned => exact .blocked (by rw [callOf, hpc])
  | wake =>
      rw [step]
      cases hpc : d.worker with
      | blocked wakeup => exact .wake hpc
      | entry | loop n | service n | waiting n | woken | leaving | returned => exact .blocked rfl
  | stop => exact .stop
  | stopSignal =>
      rw [step]
      split_ifs with hrun
      · exact .blocked rfl
      · exact .stopSignal (Bool.eq_false_of_not_eq_true hrun)

/-! ## Who is inside -/

/-- The thread is between taking the lock and releasing it. -/
def Inside (d : Daemon W Ctx) : Thread → Prop
  | .worker => d.worker.Inside
  | .client i => d.clients i ≠ .idle

/-- Who has the lock is inside. -/
def Held (d : Daemon W Ctx) : Prop := ∀ t, d.owner = some t → d.Inside t

theorem held_boot (P : Provider W Ctx) (w : W) : (boot P w).Held := fun _ h ↦ nomatch h

namespace Held

variable {d : Daemon W Ctx} {worker : WorkerPc}

/-- A client under the lock may go on under it. -/
theorem goTo (hd : d.Held) (i : Client) {pc : ClientPc} (hpc : pc ≠ .idle)
    (hw : d.worker.Inside → worker.Inside) (s : Session W Ctx) :
    { d.goTo i pc with session := s, worker := worker }.Held := by
  intro t ht
  cases t with
  | worker => exact hw (hd .worker ht)
  | client j =>
      rcases eq_or_ne j i with rfl | hne
      · exact (goTo_self d j pc).trans_ne hpc
      · exact (goTo_of_ne hne d pc).trans_ne (hd (.client j) ht)

/-- So may the worker. -/
theorem goOn (hd : d.Held) (hw : d.worker.Inside → worker.Inside) (s : Session W Ctx)
    (running : Bool) : { d with session := s, worker := worker, running := running }.Held := by
  intro t ht
  cases t with
  | worker => exact hw (hd .worker ht)
  | client j => exact hd (.client j) ht

end Held

end Daemon

/-- The client whose statement a step is. -/
def DaemonEvent.client : DaemonEvent → Option Client
  | lock i _ | call i | signal i | unlock i => some i
  | work | wake | stop | stopSignal => none

namespace Daemon.Outcome

variable {P : Provider W Ctx} {d d' : Daemon W Ctx} {e : DaemonEvent}

/-- A client's statements are its own. -/
theorem clients_eq (h : d.Outcome P e d') {i : Client} (hi : e.client ≠ some i) :
    d'.clients i = d.clients i := by
  have hne {j : Client} (hj : some j ≠ some i) : i ≠ j := fun he ↦ hj (congrArg some he.symm)
  cases h with
  | lock | press | poll | signal | unlock => exact goTo_of_ne (hne hi) d _
  | blocked | acquire | test | pass | wait | leave | wake | stop | stopSignal => rfl

/-- The statements of `main` are not those of the capture thread. -/
theorem clients_ne (h : d.Outcome P e d') {i j : Client} (he : e.client = some i) (hne : j ≠ i) :
    d'.clients j = d.clients j :=
  h.clients_eq fun hj ↦ hne (Option.some.inj (hj.symm.trans he))

/-- Who has the lock is inside after every step. -/
theorem held (h : d.Outcome P e d') (hd : d.Held) : d'.Held := by
  cases h with
  | blocked => exact hd
  | lock hfree hidle =>
      rintro _ ⟨⟩
      exact (goTo_self d _ _).trans_ne nofun
  | press hpc | poll hpc => exact hd.goTo _ (by nofun) id _
  | signal hpc =>
      exact hd.goTo _ (by nofun) (fun hw ↦ (WorkerPc.signaled_of_inside hw).symm ▸ hw) _
  | unlock hpc => exact fun _ h ↦ nomatch h
  | acquire hpc hfree =>
      rintro _ ⟨⟩
      trivial
  | test hpc =>
      refine hd.goOn (fun _ ↦ ?_) _ _
      split_ifs <;> trivial
  | pass hpc =>
      refine hd.goOn (fun _ ↦ ?_) _ _
      split_ifs <;> trivial
  | wait hpc | leave hpc => exact fun _ h ↦ nomatch h
  | wake hpc =>
      refine hd.goOn (fun hw ↦ ?_) _ _
      rw [hpc] at hw
      exact hw.elim
  | stop => exact hd.goOn id _ _
  | stopSignal hstop =>
      exact hd.goOn (fun hw ↦ (WorkerPc.signaled_of_inside hw).symm ▸ hw) _ _

/-- The worker is created once. -/
theorem worker_entry (h : d.Outcome P e d') (hpc : d'.worker ≠ .entry) :
    d.worker ≠ .entry ∨ e = .work := by
  have hsignaled (hs : d.worker.signaled ≠ .entry) : d.worker ≠ .entry :=
    fun he ↦ hs (by rw [he]; rfl)
  cases h with
  | blocked | lock | press | poll | unlock | stop => exact .inl hpc
  | signal | stopSignal => exact .inl (hsignaled hpc)
  | acquire | test | pass | wait | leave => exact .inr rfl
  | wake hw => exact .inl (hw.trans_ne nofun)

/-- It returns once. -/
theorem worker_returned (h : d.Outcome P e d') (hpc : d.worker = .returned) :
    d'.worker = .returned := by
  cases h with
  | blocked | lock | press | poll | unlock | stop => exact hpc
  | signal | stopSignal => exact congrArg WorkerPc.signaled hpc
  | acquire hw =>
      rw [hpc] at hw
      rcases hw with hw | hw <;> cases hw
  | test hw | pass hw | wait hw | leave hw | wake hw => cases hpc.symm.trans hw

/-- Apart from its call, a step leaves the controller alone. -/
theorem session_run (h : d.Outcome P e d') :
    d'.session = d.session.run P ((d.callOf e).toList.map Prod.snd) := by
  cases h with
  | blocked hcall => rw [hcall]; rfl
  | press hpc | poll hpc | pass hpc => rw [callOf, hpc]; rfl
  | acquire hpc => rcases hpc with hpc | hpc <;> (rw [callOf, hpc]; rfl)
  | test hpc | wait hpc | leave hpc => rw [callOf, hpc]; rfl
  | lock | signal | unlock | wake | stop | stopSignal => rfl

/-- Nothing sets `running` again. -/
theorem running_eq (h : d.Outcome P e d') (hrun : d.running = false) : d'.running = false := by
  cases h with
  | stop => rfl
  | blocked | lock | press | poll | signal | unlock | acquire | test | pass | wait | leave | wake
  | stopSignal => exact hrun

end Daemon.Outcome

/-- Only a thread that is inside calls the controller. -/
theorem Daemon.callOf_eq_none {d : Daemon W Ctx} (h : ∀ t, ¬ d.Inside t) (e : DaemonEvent) :
    d.callOf e = none := by
  cases e with
  | call i =>
      have hidle : d.clients i = .idle := not_not.mp (h (.client i))
      rw [callOf, hidle]
  | work =>
      have hw : ¬ d.worker.Inside := h .worker
      rw [callOf]
      cases hpc : d.worker with
      | service n =>
          rw [hpc] at hw
          exact absurd trivial hw
      | entry | loop n | waiting n | blocked wakeup | woken | leaving | returned => rfl
  | lock | signal | unlock | wake | stop | stopSignal => rfl

/-- Where a client is after its next statement. -/
def ClientPc.next : ClientPc → ClientPc
  | locked (.adjustFraction _) => adjusted
  | locked .reconcile | adjusted => unlocking
  | unlocking | idle => idle

theorem ClientPc.next_eq_idle_iff {pc : ClientPc} (h : pc ≠ idle) :
    pc.next = idle ↔ pc = unlocking := by
  cases pc with
  | idle => exact absurd rfl h
  | locked call => cases call <;> exact iff_of_false nofun nofun
  | adjusted => exact iff_of_false nofun nofun
  | unlocking => exact iff_of_true rfl rfl

/-- A client under the lock has a next statement. -/
theorem ClientPc.exists_event (i : Client) {pc : ClientPc} (h : pc ≠ idle) :
    ∃ e, pc.event i = some e ∧ e.client = some i ∧ e ≠ .work := by
  cases pc with
  | idle => exact absurd rfl h
  | locked call | adjusted | unlocking => exact ⟨_, rfl, rfl, nofun⟩

namespace Daemon

variable {P : Provider W Ctx} {d : Daemon W Ctx} {i : Client}

/-- A client that finds the lock free takes it. -/
theorem clients_step_lock (hfree : d.owner = none) (hidle : d.clients i = .idle) (call : Call) :
    (d.step P (.lock i call)).clients i = .locked call := by
  rw [step, if_pos ⟨hfree, hidle⟩]
  exact goTo_self d i _

/-- A client under the lock never waits. -/
theorem clients_step_event {e : DaemonEvent} (h : (d.clients i).event i = some e) :
    (d.step P e).clients i = (d.clients i).next := by
  cases hpc : d.clients i with
  | idle =>
      rw [hpc] at h
      cases h
  | locked call =>
      rw [hpc] at h
      cases h
      rw [step, hpc]
      cases call <;> exact goTo_self d i _
  | adjusted | unlocking =>
      rw [hpc] at h
      cases h
      rw [step, hpc]
      exact goTo_self d i _

end Daemon

/-! ## The invariant -/

/-- How many statements are left behind `cleanup`. -/
def ClosePc.left : ClosePc → Nat
  | clearRunning => 9
  | stopInput => 8
  | joinInput => 7
  | signalWorker => 6
  | joinWorker => 5
  | closeSocket => 4
  | unlinkSocket => 3
  | closeController => 2
  | netCleanup => 1
  | exited => 0

theorem ClosePc.left_le (pc : ClosePc) : pc.left ≤ 9 := by cases pc <;> decide

theorem ClosePc.left_injective : Function.Injective ClosePc.left := by
  intro pc pc' h
  cases pc <;> cases pc' <;> first | rfl | exact absurd h (by decide)

namespace MainPc

/-- How many statements are left behind `cleanup`, once it is there. -/
def left : MainPc S → Nat
  | closing _ _ pc => pc.left
  | createWorker | startInput | unlinkStale | openSocket | serving _ _ => 10

/-- `main` has passed the statement. -/
def Past (m : MainPc S) (pc : ClosePc) : Prop := m.left < pc.left

/-- `main` is under the lock. -/
def Locked : MainPc S → Prop
  | serving _ (.locked _) => True
  | createWorker | startInput | unlinkStale | openSocket | serving _ _ | closing _ _ _ => False

/-- `main` is outside the lock, and not behind the start of `cleanup`. -/
def Before : MainPc S → Prop
  | serving _ (.locked _) => False
  | closing _ _ pc => pc = .clearRunning
  | createWorker | startInput | unlinkStale | openSocket | serving _ _ => True

theorem Before.not_locked {m : MainPc S} (h : m.Before) : ¬ m.Locked := by
  intro hl
  cases m with
  | serving sock pc => cases pc <;> first | exact h | exact hl
  | createWorker | startInput | unlinkStale | openSocket | closing => exact hl

theorem left_le (m : MainPc S) : m.left ≤ 10 := by
  cases m with
  | closing sock bound pc => exact pc.left_le.trans (Nat.le_succ 9)
  | createWorker | startInput | unlinkStale | openSocket | serving => exact le_refl 10

theorem Before.le_left {m : MainPc S} (h : m.Before) : 9 ≤ m.left := by
  cases m with
  | closing sock bound pc =>
      cases h
      exact le_refl 9
  | createWorker | startInput | unlinkStale | openSocket | serving => exact Nat.le_succ 9

theorem Before.not_past {m : MainPc S} (h : m.Before) (pc : ClosePc) : ¬ m.Past pc :=
  Nat.not_lt_of_le (pc.left_le.trans h.le_left)

end MainPc

namespace Process

variable {P : Provider W Ctx} {p : Process W Ctx O S}

/-- What holds once `main` has passed the statement. -/
def Done (p : Process W Ctx O S) : ClosePc → Prop
  | .clearRunning => p.daemon.running = false
  | .stopInput => p.capture ≠ .capturing
  | .joinInput => p.capture.Gone
  | .joinWorker => p.workerStarted = true → p.daemon.worker = .returned
  | _ => True

/-- The invariant of the process. -/
structure Inv (P : Provider W Ctx) (p : Process W Ctx O S) : Prop where
  /-- The controller is used as the daemon uses it until it is closed. -/
  daemon : ¬ p.main.Past .closeController → p.daemon.Inv P
  held : p.daemon.Held
  locked : p.daemon.clients .acceptLoop ≠ .idle ↔ p.main.Locked
  capture : p.daemon.clients .keyCapture ≠ .idle → ¬ p.capture.Gone
  worker : p.daemon.worker ≠ .entry → p.workerStarted = true
  /-- `main` joins a worker it has started. -/
  joins : p.main.left = 5 → p.workerStarted = true
  past : ∀ pc, p.main.Past pc → p.Done pc

theorem inv_startup {sys : DaemonSystem O S} {o : O} {w : W} (h : startup sys P o w = .ok p) :
    p.Inv P := by
  obtain ⟨-, o', rfl⟩ := startup_eq_ok h
  refine ⟨fun _ ↦ Daemon.inv_boot P w, Daemon.held_boot P w, iff_of_false (absurd rfl) id,
    absurd rfl, absurd rfl, nofun, ?_⟩
  exact fun pc hpc ↦ absurd hpc (MainPc.Before.not_past (m := .createWorker) trivial pc)

namespace Inv

/-- `main` goes on outside the lock. -/
theorem moveTo (h : p.Inv P) (hp : ¬ p.main.Locked) {m : MainPc S} (hm : ¬ m.Locked)
    (hleft : m.left ≤ p.main.left) (hpast : ∀ pc, m.Past pc → ¬ p.main.Past pc → p.Done pc)
    (hjoins : m.left = 5 → p.workerStarted = true) (o : O) :
    { p with os := o, main := m }.Inv P where
  daemon hm' := h.daemon fun hp' ↦ hm' (hleft.trans_lt hp')
  held := h.held
  locked := iff_of_false (mt h.locked.mp hp) hm
  capture := h.capture
  worker := h.worker
  joins := hjoins
  past pc hpc := by
    by_cases hp' : p.main.Past pc
    · exact h.past pc hp'
    · exact hpast pc hpc hp'

/-- It goes on before the end of `cleanup`'s first statement. -/
theorem moveBefore (h : p.Inv P) (hp : ¬ p.main.Locked) (hleft : p.main.left = 10) {m : MainPc S}
    (hm : m.Before) (o : O) : { p with os := o, main := m }.Inv P :=
  h.moveTo hp hm.not_locked (m.left_le.trans_eq hleft.symm)
    (fun pc hpc _ ↦ absurd hpc (hm.not_past pc))
    (fun he ↦ absurd (he ▸ hm.le_left) (by decide)) o

/-- Other threads go on, and `main` with them where it is under the lock. -/
theorem drive {impl : Implementation W R H} {p : Process W H O S} (h : p.Inv (ddcProvider impl))
    {e : DaemonEvent} (he : e = .work → p.workerStarted = true) {m : MainPc S}
    (hm : m.left = p.main.left)
    (hlocked : (p.daemon.step (ddcProvider impl) e).clients .acceptLoop ≠ .idle ↔ m.Locked)
    (hcapture : (p.daemon.step (ddcProvider impl) e).clients .keyCapture ≠ .idle →
      ¬ p.capture.Gone) :
    { p with daemon := p.daemon.step (ddcProvider impl) e, main := m }.Inv (ddcProvider impl) where
  daemon hpast := (h.daemon fun hp ↦ hpast (hm.trans_lt hp)).step e
  held := (p.daemon.outcome_step _ e).held h.held
  locked := hlocked
  capture := hcapture
  worker hw := ((p.daemon.outcome_step _ e).worker_entry hw).elim h.worker he
  joins hleft := h.joins (hm.symm.trans hleft)
  past pc hpc := by
    have hdone := h.past pc (hm.symm.trans_lt hpc)
    have hout := p.daemon.outcome_step (ddcProvider impl) e
    cases pc with
    | clearRunning => exact hout.running_eq hdone
    | stopInput | joinInput => exact hdone
    | joinWorker => exact fun hstarted ↦ hout.worker_returned (hdone hstarted)
    | signalWorker | closeSocket | unlinkSocket | closeController | netCleanup
    | exited => trivial

theorem serve {sys : DaemonSystem O S} {impl : Implementation W R H} {p : Process W H O S}
    (h : p.Inv (ddcProvider impl)) {sock : S} {pc : ServePc S} (hm : p.main = .serving sock pc) :
    (p.serve sys (ddcProvider impl) sock pc).Inv (ddcProvider impl) := by
  have hleft : p.main.left = 10 := by rw [hm]; rfl
  have hmove (hpc : ¬ (MainPc.serving sock pc).Locked) {m : MainPc S} (hbefore : m.Before) (o : O) :
      { p with os := o, main := m }.Inv (ddcProvider impl) :=
    h.moveBefore (hm ▸ hpc) hleft hbefore o
  unfold Process.serve cleanup
  cases pc with
  | bind | listen =>
      dsimp only
      split
      · exact hmove id (by exact trivial) _
      · exact hmove id (by exact rfl) _
  | select | authorize client | read client =>
      dsimp only
      split
      · exact hmove id (by exact trivial) _
      · exact hmove id (by exact trivial) _
  | accept =>
      dsimp only
      split
      · exact hmove id (by exact trivial) _
      · exact hmove id (by exact trivial) _
      · exact hmove id (by exact rfl) _
  | loop =>
      dsimp only
      split
      · exact hmove id (by exact trivial) _
      · exact hmove id (by exact rfl) _
  | afterBind | closeClient client => exact hmove id (by exact trivial) _
  | lock call client =>
      have hidle : p.daemon.clients .acceptLoop = .idle :=
        not_not.mp (mt h.locked.mp (hm ▸ id))
      dsimp only
      split_ifs with hfree
      · refine h.drive (m := .serving sock (.locked client)) (by nofun) hleft.symm ?_ ?_
        · exact iff_of_true ((Daemon.clients_step_lock hfree hidle call).trans_ne nofun) trivial
        · rw [(p.daemon.outcome_step _ _).clients_ne rfl (by decide)]
          exact h.capture
      · exact h
  | locked client =>
      have hne : p.daemon.clients .acceptLoop ≠ .idle := h.locked.mpr (hm ▸ trivial)
      obtain ⟨e, he, hclient, hwork⟩ := ClientPc.exists_event .acceptLoop hne
      dsimp only
      rw [he]
      refine h.drive (fun he ↦ absurd he hwork) ?_ ?_ ?_
      · split_ifs <;> exact hleft.symm
      · rw [Daemon.clients_step_event he, ne_eq, ClientPc.next_eq_idle_iff hne]
        split_ifs with hpc
        · refine iff_of_false (absurd hpc) ?_
          cases client <;> exact id
        · exact iff_of_true hpc trivial
      · rw [(p.daemon.outcome_step _ _).clients_ne hclient (by decide)]
        exact h.capture

/-- A statement that is no client's. -/
theorem driveOther {impl : Implementation W R H} {p : Process W H O S}
    (h : p.Inv (ddcProvider impl)) {e : DaemonEvent} (hclient : e.client = none)
    (he : e = .work → p.workerStarted = true) :
    { p with daemon := p.daemon.step (ddcProvider impl) e }.Inv (ddcProvider impl) := by
  have hclients (i : Client) :
      (p.daemon.step (ddcProvider impl) e).clients i = p.daemon.clients i := by
    refine (p.daemon.outcome_step _ e).clients_eq ?_
    rw [hclient]
    nofun
  refine h.drive (m := p.main) he rfl ?_ ?_
  · rw [hclients]
    exact h.locked
  · rw [hclients]
    exact h.capture

theorem asked_ne_capturing (c : Capture) :
    (if c = .capturing then .asked else c) ≠ .capturing := by
  cases c <;> decide

/-- `input_stop` asks the capture thread to return. -/
theorem ask (h : p.Inv P) :
    { p with capture := if p.capture = Capture.capturing then .asked else p.capture }.Inv P := by
  have hgone : (if p.capture = Capture.capturing then Capture.asked else p.capture).Gone ↔
      p.capture.Gone := by
    split_ifs with hc
    · rw [hc]
      exact Iff.rfl
    · exact Iff.rfl
  refine ⟨h.daemon, h.held, h.locked, fun hk ↦ mt hgone.mp (h.capture hk), h.worker,
    h.joins, ?_⟩
  intro pc hpc
  have hdone := h.past pc hpc
  cases pc with
  | stopInput => exact asked_ne_capturing p.capture
  | joinInput => exact hgone.mpr hdone
  | clearRunning | signalWorker | joinWorker | closeSocket | unlinkSocket
  | closeController | netCleanup | exited => exact hdone

/-- Behind `cleanup`, the statement `pc` leaves what `Done` says, and the one after it is next. -/
theorem moveBehind (h : p.Inv P) {sock : Option S} {bound : Bool} {pc : ClosePc} (pc' : ClosePc)
    (hm : p.main = .closing sock bound pc) (hnext : pc.left = pc'.left + 1) (hdone : p.Done pc)
    (hjoins : pc'.left = 5 → p.workerStarted = true) (o : O) :
    { p with os := o, main := .closing sock bound pc' }.Inv P := by
  have hleft : p.main.left = pc.left := by rw [hm]; rfl
  refine h.moveTo (hm ▸ id) (m := .closing sock bound pc') id ?_ (fun x hx hx' ↦ ?_) hjoins o
  · rw [hleft, hnext]
    exact Nat.le_succ _
  · have hge : x.left ≤ pc.left := hleft ▸ Nat.le_of_not_lt hx'
    have hlt : pc'.left < x.left := hx
    obtain rfl : x = pc := ClosePc.left_injective (by omega)
    exact hdone

/-- What is behind `cleanup` comes in its order. -/
theorem close {sys : DaemonSystem O S} {impl : Implementation W R H} {p : Process W H O S}
    (h : p.Inv (ddcProvider impl)) {sock : Option S} {bound : Bool} {pc : ClosePc}
    (hm : p.main = .closing sock bound pc) :
    (p.close sys (ddcProvider impl) sock bound pc).Inv (ddcProvider impl) := by
  unfold Process.close
  cases pc with
  | clearRunning =>
      have hstop := h.driveOther (e := .stop) rfl (by nofun)
      exact hstop.moveBehind .stopInput hm rfl rfl nofun p.os
  | stopInput =>
      exact h.ask.moveBehind .joinInput hm rfl (asked_ne_capturing p.capture) nofun p.os
  | joinInput =>
      dsimp only
      split_ifs with hgone
      · exact h.moveBehind .signalWorker hm rfl hgone nofun p.os
      · exact h
  | signalWorker =>
      dsimp only
      split_ifs with hstarted
      · have hsignal := h.driveOther (e := .stopSignal) rfl (by nofun)
        exact hsignal.moveBehind .joinWorker hm rfl trivial (fun _ ↦ hstarted) p.os
      · -- the join is left out with the signal
        have hbetween : ∀ x : ClosePc, ClosePc.closeSocket.left < x.left →
            ¬ ClosePc.signalWorker.left < x.left → x = .signalWorker ∨ x = .joinWorker := by
          intro x
          cases x <;> decide
        refine h.moveTo (m := .closing sock bound .closeSocket) (hm ▸ id) id ?_ (fun x hx hx' ↦ ?_)
          nofun p.os
        · rw [hm]
          exact (by decide : 4 ≤ 6)
        · rw [hm] at hx'
          rcases hbetween x hx hx' with rfl | rfl
          · trivial
          · exact fun hs ↦ absurd hs hstarted
  | joinWorker =>
      dsimp only
      split_ifs with hreturned
      · exact h.moveBehind .closeSocket hm rfl (fun _ ↦ hreturned) nofun p.os
      · exact h
  | closeSocket => exact h.moveBehind .unlinkSocket hm rfl trivial nofun _
  | unlinkSocket => exact h.moveBehind .closeController hm rfl trivial nofun _
  | closeController =>
      have hclosed := h.moveBehind .netCleanup hm rfl trivial nofun p.os
      refine ⟨absurd (Nat.lt_succ_self 1), hclosed.held, hclosed.locked, hclosed.capture,
        hclosed.worker, nofun, fun x hx ↦ ?_⟩
      have hdone := hclosed.past x hx
      cases x <;> exact hdone
  | netCleanup => exact h.moveBehind .exited hm rfl trivial nofun _
  | exited => exact h

theorem mainStep {sys : DaemonSystem O S} {impl : Implementation W R H} {p : Process W H O S}
    (h : p.Inv (ddcProvider impl)) :
    (p.mainStep sys (ddcProvider impl)).Inv (ddcProvider impl) := by
  unfold Process.mainStep cleanup
  cases hm : p.main with
  | createWorker =>
      dsimp only
      split
      · rename_i o _
        have hmove := h.moveBefore (m := .startInput) (hm ▸ id) (by rw [hm]; rfl) trivial o
        exact ⟨hmove.daemon, hmove.held, hmove.locked, hmove.capture, fun _ ↦ rfl, nofun,
          fun pc hpc ↦ absurd hpc (MainPc.Before.not_past (m := .startInput) trivial pc)⟩
      · exact h.moveBefore (hm ▸ id) (by rw [hm]; rfl) (by exact rfl) _
  | startInput =>
      dsimp only
      split
      · rename_i o _
        have hmove := h.moveBefore (m := .unlinkStale) (hm ▸ id) (by rw [hm]; rfl) trivial o
        exact ⟨hmove.daemon, hmove.held, hmove.locked, fun _ ↦ id, hmove.worker, nofun,
          fun pc hpc ↦ absurd hpc (MainPc.Before.not_past (m := .unlinkStale) trivial pc)⟩
      · exact h.moveBefore (hm ▸ id) (by rw [hm]; rfl) (by exact trivial) _
  | unlinkStale => exact h.moveBefore (hm ▸ id) (by rw [hm]; rfl) (by exact trivial) _
  | openSocket =>
      dsimp only
      split
      · exact h.moveBefore (hm ▸ id) (by rw [hm]; rfl) (by exact trivial) _
      · exact h.moveBefore (hm ▸ id) (by rw [hm]; rfl) (by exact rfl) _
  | serving sock pc => exact h.serve hm
  | closing sock bound pc => exact h.close hm

/-- The capture thread goes on. -/
theorem driveKey {impl : Implementation W R H} {p : Process W H O S} (h : p.Inv (ddcProvider impl))
    {e : DaemonEvent} (hclient : e.client = some .keyCapture) (hgone : ¬ p.capture.Gone) :
    { p with daemon := p.daemon.step (ddcProvider impl) e }.Inv (ddcProvider impl) := by
  refine h.drive (m := p.main) ?_ rfl ?_ fun _ ↦ hgone
  · rintro rfl
    cases hclient
  · rw [(p.daemon.outcome_step _ e).clients_ne hclient (by decide)]
    exact h.locked

end Inv

/-- **Every step keeps the invariant.** -/
theorem Inv.step {sys : DaemonSystem O S} {impl : Implementation W R H} {p : Process W H O S}
    (h : p.Inv (ddcProvider impl)) (e : ProcessEvent) :
    (p.step sys (ddcProvider impl) e).Inv (ddcProvider impl) := by
  unfold Process.step
  cases e with
  | main => exact h.mainStep
  | work =>
      dsimp only
      split_ifs with hstarted
      · exact h.driveOther rfl fun _ ↦ hstarted
      · exact h
  | wake =>
      dsimp only
      split_ifs
      · exact h.driveOther (e := .wake) rfl (by nofun)
      · exact h
  | press fraction =>
      dsimp only
      split_ifs with hgone
      · exact h
      · exact h.driveKey rfl hgone
  | key =>
      dsimp only
      by_cases hidle : p.daemon.clients .keyCapture = .idle
      · rw [hidle]
        exact h
      · obtain ⟨e, he, hclient, -⟩ := ClientPc.exists_event .keyCapture hidle
        rw [he]
        exact h.driveKey hclient (h.capture hidle)
  | keyReturn =>
      dsimp only
      split_ifs with hreturn
      · refine ⟨h.daemon, h.held, h.locked, absurd hreturn.2, h.worker, h.joins, fun pc hpc ↦ ?_⟩
        have hdone := h.past pc hpc
        cases pc with
        | stopInput => exact nofun
        | joinInput => trivial
        | clearRunning | signalWorker | joinWorker | closeSocket | unlinkSocket
        | closeController | netCleanup | exited => exact hdone
      · exact h
  | interrupt => exact h.driveOther (e := .stop) rfl (by nofun)

/-! ## Nobody else is left -/

/-- Every other thread has returned, if there was one. -/
structure Alone (p : Process W Ctx O S) : Prop where
  free : p.daemon.owner = none
  clients : ∀ i, p.daemon.clients i = .idle
  worker : p.workerStarted = true → p.daemon.worker = .returned
  capture : p.capture.Gone
  stopped : p.daemon.running = false

theorem Alone.not_inside (h : p.Alone) (hp : p.Inv P) (t : Thread) : ¬ p.daemon.Inside t := by
  cases t with
  | client i => exact not_not_intro (h.clients i)
  | worker =>
      intro hw
      have hstarted : p.workerStarted = true := by
        refine hp.worker fun hentry ↦ ?_
        rw [Daemon.Inside, hentry] at hw
        exact hw
      rw [Daemon.Inside, h.worker hstarted] at hw
      exact hw

/-- From `controller_close` on, `main` is alone. -/
theorem Inv.alone (h : p.Inv P) (hp : p.main.left ≤ 2) : p.Alone := by
  have hgone : p.capture.Gone := h.past .joinInput (hp.trans_lt (by decide))
  have hclients (i : Client) : p.daemon.clients i = .idle := by
    by_contra hne
    cases i with
    | keyCapture => exact h.capture hne hgone
    | acceptLoop =>
        have hlocked := h.locked.mp hne
        revert hlocked hp
        cases p.main with
        | closing => exact fun _ ↦ id
        | serving | createWorker | startInput | unlinkStale | openSocket =>
            exact fun hp _ ↦ absurd hp (by decide : ¬ 10 ≤ 2)
  have hworker : p.workerStarted = true → p.daemon.worker = .returned :=
    h.past .joinWorker (hp.trans_lt (by decide))
  refine ⟨?_, hclients, hworker, hgone, h.past .clearRunning (hp.trans_lt (by decide))⟩
  cases howner : p.daemon.owner with
  | none => rfl
  | some t =>
      have hin := h.held t howner
      cases t with
      | client i => exact absurd (hclients i) hin
      | worker =>
          have hstarted : p.workerStarted = true := by
            refine h.worker fun hentry ↦ ?_
            rw [Daemon.Inside, hentry] at hin
            exact hin
          rw [Daemon.Inside, hworker hstarted] at hin
          exact hin.elim

/-- What holds of the process in every state. -/
structure Safe (sys : DaemonSystem O S) (P : Provider W Ctx) (p : Process W Ctx O S) : Prop where
  /-- The thread that is inside has the lock, and when none is, nobody has it. -/
  exclusive : ∀ t, p.daemon.owner = some t ↔ p.daemon.Inside t
  /-- When `main` closes the controller, no other thread is left. -/
  alone : p.AtClose → p.Alone
  /-- Once it is closed, nothing comes at the controller again. -/
  untouched : p.main.Past .closeController → ∀ e,
    (p.step sys P e).daemon.session = p.daemon.session

theorem Inv.safe {sys : DaemonSystem O S} (h : p.Inv P) : p.Safe sys P where
  exclusive t := by
    refine ⟨h.held t, fun hin ↦ ?_⟩
    by_cases hp : p.main.Past .closeController
    · exact absurd hin ((h.alone hp.le).not_inside h t)
    · cases t with
      | worker => exact (h.daemon hp).worker hin
      | client i => exact (h.daemon hp).client i hin
  alone := by
    rintro ⟨sock, bound, hm⟩
    exact h.alone (by rw [hm]; exact le_refl 2)
  untouched hp e := by
    have hnot : ¬ p.AtClose := by
      rintro ⟨sock, bound, hm⟩
      rw [hm] at hp
      exact lt_irrefl _ hp
    have halone := h.alone hp.le
    rw [daemon_step e fun _ ↦ hnot]
    cases p.drives e with
    | none => rfl
    | some e =>
        have hsession := (p.daemon.outcome_step P e).session_run
        rw [Daemon.callOf_eq_none (halone.not_inside h) e] at hsession
        exact hsession

end Process

/-- **Nobody is left when the controller is closed.**  In every state of every run of the process,
over any backend and any system with any outcomes, in whatever order the threads take their steps,
the signals and the keys come: one thread at a time is at the controller, and it has the lock; the
controller is closed when every other thread has returned, and not touched again. -/
theorem controller_closed_alone (sys : DaemonSystem O S) (impl : Implementation W R H) {o : O}
    {w : W} {p : Process W H O S} (h : startup sys (ddcProvider impl) o w = .ok p)
    (events : List ProcessEvent) :
    Run.Throughout (Process.step sys (ddcProvider impl)) (Process.Safe sys (ddcProvider impl)) p
      events :=
  Run.throughout_of_invariant (Process.inv_startup h) (fun _ e hp ↦ hp.step e)
    (fun _ hp ↦ hp.safe) events

/-- The process that controls one display and is visited twice. -/
def visitedTwice : Process Bench BenchHandle (Visit × List Visit) Nat where
  daemon := .boot (ddcProvider oneDisplay) (.ready [⟨0, 100, 0, 50⟩])
  os := (⟨false, []⟩, [⟨true, upWord ++ [newline]⟩, ⟨false, downWord⟩])
  sockPath := bytes ['/', 's']
  main := .createWorker
  workerStarted := false
  capture := .absent

theorem startup_visitedTwice : startup visited (ddcProvider oneDisplay)
    (⟨false, []⟩, [⟨true, upWord ++ [newline]⟩, ⟨false, downWord⟩]) (.ready [⟨0, 100, 0, 50⟩]) =
    .ok visitedTwice := rfl

/-- A press is served, then a signal stops the process while the worker waits. -/
def stoppedAtRest : List ProcessEvent :=
  List.replicate 16 .main ++ List.replicate 8 .work ++ [.interrupt] ++ List.replicate 7 .main ++
    [.wake, .work, .work, .work] ++ List.replicate 3 .main

theorem controller_closed_alone_visited :
    (visitedTwice.run visited (ddcProvider oneDisplay) stoppedAtRest).Alone :=
  (controller_closed_alone visited oneDisplay startup_visitedTwice stoppedAtRest).last.alone
    ⟨some 3, true, by decide +kernel⟩

end Dimmit
