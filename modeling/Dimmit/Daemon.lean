import Dimmit.Ddc.Bench
import Dimmit.DisplayController.Range
import Mathlib.Logic.Function.Basic

/-!
# The daemon

The threads of `dimmitd.c` around one controller: `brightness_worker`, and the two that press
and poll, the accept loop of `main` and the key capture behind `input_start`.  They share a
mutex and a condition variable, on which only the worker waits.

A step is one statement of one thread.  A statement that has to wait, such as a
`pthread_mutex_lock` while the mutex is held, leaves the daemon as it is.
-/

namespace Dimmit

variable {W R H Ctx : Type}

/-- A thread that presses and polls. -/
inductive Client where
  | acceptLoop
  | keyCapture
deriving DecidableEq, Repr

/-- What a client takes the lock for. -/
inductive Call where
  /-- The body of `adjust_fraction`. -/
  | adjustFraction (fraction : ℚ)
  /-- The `controller_reconcile` of an idle tick. -/
  | reconcile
deriving DecidableEq, Repr

/-- The next statement of a client. -/
inductive ClientPc where
  /-- None under the lock. -/
  | idle
  /-- `controller_adjust` or `controller_reconcile`. -/
  | locked (call : Call)
  /-- `pthread_cond_signal`. -/
  | adjusted
  /-- `pthread_mutex_unlock`. -/
  | unlocking
deriving DecidableEq, Repr

/-- The next statement of `brightness_worker`.  Under the lock, `n` counts its calls of
`controller_service` since it took the lock. -/
inductive WorkerPc where
  /-- `pthread_mutex_lock`. -/
  | entry
  /-- The test `while (running)`. -/
  | loop (n : Nat)
  /-- `controller_service`. -/
  | service (n : Nat)
  /-- `pthread_cond_timedwait`. -/
  | waiting (n : Nat)
  /-- None: it is blocked on the condition variable, with a wakeup pending or without. -/
  | blocked (wakeup : Bool)
  /-- The rest of `pthread_cond_timedwait`, which takes the lock again. -/
  | woken
  /-- The last `pthread_mutex_unlock`. -/
  | leaving
  /-- None: it has returned. -/
  | returned
deriving DecidableEq, Repr

namespace WorkerPc

/-- What `pthread_cond_signal` does to the worker: it is lost on a worker that is not blocked. -/
def signaled : WorkerPc → WorkerPc
  | blocked _ => blocked true
  | pc => pc

/-- The calls of `controller_service` since the worker took the lock. -/
def services : WorkerPc → Nat
  | loop n | service n | waiting n => n
  | entry | blocked _ | woken | leaving | returned => 0

/-- The worker has the lock. -/
def Inside : WorkerPc → Prop
  | loop _ | service _ | waiting _ | leaving => True
  | entry | blocked _ | woken | returned => False

/-- A worker that has the lock does not hear a signal. -/
theorem signaled_of_inside {pc : WorkerPc} (h : pc.Inside) : pc.signaled = pc := by
  cases pc with
  | blocked wakeup => cases h
  | entry | loop n | service n | waiting n | woken | leaving | returned => rfl

/-- A signal gives nobody the lock. -/
theorem not_inside_signaled {pc : WorkerPc} (h : ¬ pc.Inside) : ¬ pc.signaled.Inside := by
  cases pc with
  | blocked wakeup => exact id
  | entry | loop n | service n | waiting n | woken | leaving | returned => exact h

/-- After a signal the worker is not blocked without a wakeup. -/
theorem signaled_ne_blocked (pc : WorkerPc) : pc.signaled ≠ .blocked false := by
  cases pc <;> nofun

end WorkerPc

/-- Who may have the lock. -/
inductive Thread where
  | worker
  | client (i : Client)
deriving DecidableEq, Repr

/-- The daemon, with the controller `ctrl` and its world as a session. -/
structure Daemon (W Ctx : Type) where
  session : Session W Ctx
  /-- The thread that has `lock`. -/
  owner : Option Thread
  worker : WorkerPc
  clients : Client → ClientPc
  running : Bool

/-- A step of the daemon. -/
inductive DaemonEvent where
  /-- A client takes the lock. -/
  | lock (i : Client) (call : Call)
  /-- It calls the controller. -/
  | call (i : Client)
  /-- It signals. -/
  | signal (i : Client)
  /-- It releases the lock. -/
  | unlock (i : Client)
  /-- The next statement of the worker. -/
  | work
  /-- The worker's wait ends: by a signal, by its timeout or spuriously. -/
  | wake
  /-- A signal handler, or the end of `main`, clears `running`. -/
  | stop
  /-- The end of `main` signals, without the lock. -/
  | stopSignal
deriving DecidableEq, Repr

/-- The result of `controller_service`. -/
def Session.applied (P : Provider W Ctx) (s : Session W Ctx) : Nat :=
  (controllerService P s.controller s.world).2.1

namespace Daemon

/-- The daemon when its threads start.  `init_monitor` has opened the controller. -/
def boot (P : Provider W Ctx) (w : W) : Daemon W Ctx where
  session := .start P w
  owner := none
  worker := .entry
  clients _ := .idle
  running := true

/-- The client goes on to `pc`. -/
def goTo (d : Daemon W Ctx) (i : Client) (pc : ClientPc) : Daemon W Ctx :=
  { d with clients := Function.update d.clients i pc }

/-- The next statement of `brightness_worker`. -/
def work (P : Provider W Ctx) (d : Daemon W Ctx) : Daemon W Ctx :=
  match d.worker with
  | .entry | .woken =>
    if d.owner = none then { d with owner := some .worker, worker := .loop 0 } else d
  | .loop n => { d with worker := if d.running then .service n else .leaving }
  | .service n =>
    -- if anything was applied, loop again before going back to wait
    { d with
      session := d.session.step P .service
      worker := if d.session.applied P > 0 then .loop (n + 1) else .waiting (n + 1) }
  -- the wait releases the lock and blocks in one step
  | .waiting _ => { d with owner := none, worker := .blocked false }
  | .leaving => { d with owner := none, worker := .returned }
  | .blocked _ | .returned => d

def step (P : Provider W Ctx) (d : Daemon W Ctx) : DaemonEvent → Daemon W Ctx
  | .lock i call =>
    if d.owner = none ∧ d.clients i = .idle then
      { d.goTo i (.locked call) with owner := some (.client i) }
    else d
  | .call i =>
    match d.clients i with
    | .locked (.adjustFraction fraction) =>
      { d.goTo i .adjusted with session := d.session.step P (.adjust fraction) }
    | .locked .reconcile =>
      { d.goTo i .unlocking with session := d.session.step P .reconcile }
    | .idle | .adjusted | .unlocking => d
  | .signal i =>
    match d.clients i with
    | .adjusted => { d.goTo i .unlocking with worker := d.worker.signaled }
    | .idle | .locked _ | .unlocking => d
  | .unlock i =>
    match d.clients i with
    | .unlocking => { d.goTo i .idle with owner := none }
    | .idle | .locked _ | .adjusted => d
  | .work => d.work P
  | .wake =>
    match d.worker with
    | .blocked _ => { d with worker := .woken }
    | .entry | .loop _ | .service _ | .waiting _ | .woken | .leaving | .returned => d
  | .stop => { d with running := false }
  | .stopSignal => if d.running then d else { d with worker := d.worker.signaled }

end Daemon

/-! ## A pass settles the displays -/

namespace Session

/-- No managed display is due, and nothing is pending. -/
def Settled (s : Session W Ctx) : Prop :=
  ∀ m ∈ s.displays, dimmerDue m.dim = none ∧ m.dim.pendingDelta = 0

instance (s : Session W Ctx) : Decidable s.Settled := inferInstanceAs (Decidable (∀ _ ∈ _, _))

theorem settled_of_pendingDelta {s : Session W Ctx} (h : ∀ m ∈ s.displays, m.dim.pendingDelta = 0) :
    s.Settled := fun m hm ↦ ⟨if_pos (h m hm), h m hm⟩

/-- One pass leaves nothing due, whichever of its writes failed. -/
theorem Reachable.settled_service {impl : Implementation W R H} {s : Session W H}
    (hs : s.Reachable (ddcProvider impl)) : (s.step (ddcProvider impl) .service).Settled := by
  have hbounded : ∀ m ∈ s.displays, m.dim.Bounded :=
    hs.forall_dim (fun src w ↦ bounded_initialDimmer impl src w) (fun d f hd ↦ hd.adjust _)
      fun d ok hd ↦ hd.serviced ok
  apply settled_of_pendingDelta
  intro m' hm'
  rw [displays_step_service] at hm'
  obtain ⟨m, hm, ok, rfl⟩ := Related.exists_of_mem_right
    (Controller.forall₂_serviceDisplays (ddcProvider impl) s.displays s.world) hm'
  exact (hbounded m hm).aimed.pendingDelta_dimmerServiced ok

/-- A pass over settled displays applies nothing. -/
theorem Settled.applied_eq_zero {s : Session W Ctx} (h : s.Settled) (P : Provider W Ctx) :
    s.applied P = 0 := by
  have hnone : ∀ (ms : List (ManagedDisplay Ctx)) w, (∀ m ∈ ms, dimmerDue m.dim = none) →
      (Controller.serviceDisplays P ms w).2.1 = 0 := by
    intro ms
    induction ms with
    | nil => exact fun _ _ ↦ rfl
    | cons m ms ih =>
        intro w hms
        obtain ⟨hm, hms⟩ := List.forall_mem_cons.mp hms
        have hpass : Controller.serviceDisplay P m w = (m, 0, w) := by
          unfold Controller.serviceDisplay
          rw [hm]
        rw [Controller.serviceDisplays, hpass]
        exact (Nat.zero_add _).trans (ih w hms)
  obtain ⟨_ | c, w, results⟩ := s
  · rfl
  · exact hnone c.displays w fun m hm ↦ (h m hm).1

/-- A poll brings nothing due: it keeps dimmers, and a display that joins has nothing pending. -/
theorem Settled.reconcile {s : Session W Ctx} (h : s.Settled) {P : Provider W Ctx}
    (hs : s.Reachable P) : (s.step P .reconcile).Settled := by
  have hparallel := hs.parallel
  obtain ⟨_ | c, w, results⟩ := s
  · exact h
  · apply settled_of_pendingDelta
    intro m hm
    obtain ⟨m', hm', -, hdim⟩ | ⟨-, w', hdim⟩ := (hparallel c rfl).mem_reconcile hm
    · exact hdim ▸ (h m' hm').2
    · rw [hdim, initialDimmer_fst]
      cases (P.get m.src w').1 <;> rfl

end Session

/-! ## The invariant -/

namespace Daemon

variable {P : Provider W Ctx} {d : Daemon W Ctx}

/-- What the worker can rely on where it is. -/
def Phase (d : Daemon W Ctx) : Prop :=
  match d.worker with
  | .loop n | .service n => n = 0 ∨ n = 1 ∧ d.session.Settled
  | .waiting n => n ≤ 2 ∧ d.session.Settled
  | .blocked false => (∃ i, d.clients i = .adjusted) ∨ d.session.Settled
  | .entry | .blocked true | .woken | .leaving | .returned => True

/-- The invariant of the daemon. -/
structure Inv (P : Provider W Ctx) (d : Daemon W Ctx) : Prop where
  reachable : d.session.Reachable P
  /-- A client that is under the lock has it. -/
  client : ∀ i, d.clients i ≠ .idle → d.owner = some (.client i)
  /-- So does the worker. -/
  worker : d.worker.Inside → d.owner = some .worker
  phase : d.Phase

theorem inv_boot (P : Provider W Ctx) (w : W) : (boot P w).Inv P where
  reachable := Session.reachable_start P w
  client _ h := absurd rfl h
  worker := False.elim
  phase := trivial

namespace Inv

/-- While a client has the lock the worker does not. -/
theorem not_inside (h : d.Inv P) {i : Client} (hi : d.clients i ≠ .idle) : ¬ d.worker.Inside := by
  intro hw
  cases (h.client i hi).symm.trans (h.worker hw)

/-- While a client has the lock the other clients are idle. -/
theorem eq_of_ne_idle (h : d.Inv P) {i j : Client} (hi : d.clients i ≠ .idle)
    (hj : d.clients j ≠ .idle) : i = j := by
  cases (h.client i hi).symm.trans (h.client j hj)
  rfl

/-- While the worker has the lock the clients are idle. -/
theorem idle_of_inside (h : d.Inv P) (hw : d.worker.Inside) (i : Client) : d.clients i = .idle := by
  by_contra hi
  exact h.not_inside hi hw

/-- While nobody has the lock all are outside. -/
theorem idle_of_free (h : d.Inv P) (hfree : d.owner = none) (i : Client) :
    d.clients i = .idle := by
  by_contra hi
  cases hfree.symm.trans (h.client i hi)

theorem not_inside_of_free (h : d.Inv P) (hfree : d.owner = none) : ¬ d.worker.Inside := by
  intro hw
  cases hfree.symm.trans (h.worker hw)

theorem blocked (h : d.Inv P) (hw : d.worker = .blocked false) :
    (∃ i, d.clients i = .adjusted) ∨ d.session.Settled := by
  have hphase := h.phase
  unfold Phase at hphase
  rwa [hw] at hphase

end Inv

/-- Outside the lock the worker relies on something only where it is blocked without a wakeup. -/
theorem phase_of_not_inside (hw : ¬ d.worker.Inside)
    (h : d.worker = .blocked false → (∃ i, d.clients i = .adjusted) ∨ d.session.Settled) :
    d.Phase := by
  unfold Phase
  cases hpc : d.worker with
  | loop n | service n | waiting n =>
      rw [hpc] at hw
      exact absurd trivial hw
  | blocked wakeup =>
      cases wakeup with
      | false => exact h hpc
      | true => trivial
  | entry | woken | leaving | returned => trivial

section Clients

variable {i : Client}

theorem goTo_self (d : Daemon W Ctx) (i : Client) (pc : ClientPc) : (d.goTo i pc).clients i = pc :=
  Function.update_self ..

theorem goTo_of_ne {j : Client} (h : j ≠ i) (d : Daemon W Ctx) (pc : ClientPc) :
    (d.goTo i pc).clients j = d.clients j := Function.update_of_ne h ..

/-- A client that has the lock may go on to any statement under the lock, and do what leaves the
worker a reason where it is blocked. -/
theorem Inv.client_goTo (h : d.Inv P) (hi : d.clients i ≠ .idle) {pc : ClientPc}
    {s : Session W Ctx} {worker : WorkerPc} (hs : s.Reachable P) (houtside : ¬ worker.Inside)
    (hblocked : worker = .blocked false → pc = .adjusted ∨ s.Settled) :
    { d.goTo i pc with session := s, worker := worker }.Inv P where
  reachable := hs
  client j hj := by
    rcases eq_or_ne j i with rfl | hne
    · exact h.client j hi
    · exact h.client j (goTo_of_ne hne d pc ▸ hj)
  worker hw := absurd hw houtside
  phase := by
    refine phase_of_not_inside houtside fun hw ↦ (hblocked hw).imp_left ?_
    rintro rfl
    exact ⟨i, goTo_self d i _⟩

/-- A client that has the lock and is not about to signal is the reason for nothing. -/
theorem Inv.settled (h : d.Inv P) (hi : d.clients i ≠ .idle) (hpc : d.clients i ≠ .adjusted)
    (hw : d.worker = .blocked false) : d.session.Settled := by
  refine (h.blocked hw).resolve_left ?_
  rintro ⟨j, hj⟩
  have hne : d.clients j ≠ .idle := hj.trans_ne nofun
  obtain rfl := h.eq_of_ne_idle hi hne
  exact hpc hj

theorem Inv.lock (h : d.Inv P) (i : Client) (call : Call) : (d.step P (.lock i call)).Inv P := by
  rw [step]
  split_ifs with hfree
  · have hothers := h.idle_of_free hfree.1
    have houtside := h.not_inside_of_free hfree.1
    refine ⟨h.reachable, ?_, fun hw ↦ absurd hw houtside, phase_of_not_inside houtside ?_⟩
    · intro j hj
      rcases eq_or_ne j i with rfl | hne
      · rfl
      · exact absurd ((goTo_of_ne hne d _).trans (hothers j)) hj
    · intro hw
      refine .inr ((h.blocked hw).resolve_left ?_)
      rintro ⟨j, hj⟩
      cases (hothers j).symm.trans hj
  · exact h

theorem Inv.call (h : d.Inv P) (i : Client) : (d.step P (.call i)).Inv P := by
  rw [step]
  cases hpc : d.clients i with
  | idle | adjusted | unlocking => exact h
  | locked call =>
      have hi : d.clients i ≠ .idle := hpc.trans_ne nofun
      have houtside := h.not_inside hi
      cases call with
      | adjustFraction fraction =>
          exact h.client_goTo hi (h.reachable.step (.adjust fraction)) houtside fun _ ↦ .inl rfl
      | reconcile =>
          have hnot : d.clients i ≠ .adjusted := hpc.trans_ne nofun
          refine h.client_goTo hi (h.reachable.step .reconcile) houtside fun hw ↦ .inr ?_
          exact (h.settled hi hnot hw).reconcile h.reachable

theorem Inv.signal (h : d.Inv P) (i : Client) : (d.step P (.signal i)).Inv P := by
  rw [step]
  cases hpc : d.clients i with
  | idle | locked call | unlocking => exact h
  | adjusted =>
      have hi : d.clients i ≠ .idle := hpc.trans_ne nofun
      have houtside := WorkerPc.not_inside_signaled (h.not_inside hi)
      refine h.client_goTo hi h.reachable houtside ?_
      exact fun hw ↦ absurd hw (WorkerPc.signaled_ne_blocked d.worker)

theorem Inv.unlock (h : d.Inv P) (i : Client) : (d.step P (.unlock i)).Inv P := by
  rw [step]
  cases hpc : d.clients i with
  | idle | locked call | adjusted => exact h
  | unlocking =>
      have hi : d.clients i ≠ .idle := hpc.trans_ne nofun
      have hnot : d.clients i ≠ .adjusted := hpc.trans_ne nofun
      have houtside := h.not_inside hi
      refine ⟨h.reachable, ?_, fun hw ↦ absurd hw houtside,
        phase_of_not_inside houtside fun hw ↦ .inr (h.settled hi hnot hw)⟩
      intro j hj
      rcases eq_or_ne j i with rfl | hne
      · exact absurd (goTo_self d j _) hj
      · rw [show (d.goTo i .idle).clients j = d.clients j from goTo_of_ne hne d _] at hj
        exact absurd (h.eq_of_ne_idle hi hj) hne.symm

end Clients

/-- A worker that is under the lock stays alone there. -/
theorem Inv.of_inside (h : d.Inv P) (hw : d.worker.Inside) {pc : WorkerPc} {s : Session W Ctx}
    (hs : s.Reachable P) (hphase : { d with session := s, worker := pc }.Phase) :
    { d with session := s, worker := pc }.Inv P where
  reachable := hs
  client i hi := absurd (h.idle_of_inside hw i) hi
  worker _ := h.worker hw
  phase := hphase

/-- A worker that releases the lock leaves it to nobody. -/
theorem Inv.release (h : d.Inv P) (hw : d.worker.Inside) {pc : WorkerPc} (hpc : ¬ pc.Inside)
    (hphase : { d with owner := none, worker := pc }.Phase) :
    { d with owner := none, worker := pc }.Inv P where
  reachable := h.reachable
  client i hi := absurd (h.idle_of_inside hw i) hi
  worker hin := absurd hin hpc
  phase := hphase

/-- A worker that takes the lock is alone under it. -/
theorem Inv.acquire (h : d.Inv P) (hfree : d.owner = none) :
    { d with owner := some .worker, worker := .loop 0 }.Inv P where
  reachable := h.reachable
  client i hi := absurd (h.idle_of_free hfree i) hi
  worker _ := rfl
  phase := .inl rfl

theorem Inv.work {impl : Implementation W R H} {d : Daemon W H} (h : d.Inv (ddcProvider impl)) :
    (d.work (ddcProvider impl)).Inv (ddcProvider impl) := by
  have hphase := h.phase
  unfold Phase at hphase
  have hinside {pc : WorkerPc} (hpc : d.worker = pc) (hin : pc.Inside) : d.worker.Inside :=
    hpc ▸ hin
  unfold Daemon.work
  cases hpc : d.worker with
  | entry | woken =>
      change (ite _ _ _ : Daemon W H).Inv _
      split_ifs with hfree
      · exact h.acquire hfree
      · exact h
  | loop n =>
      rw [hpc] at hphase
      refine h.of_inside (hinside hpc trivial) h.reachable ?_
      unfold Phase
      cases d.running with
      | true => exact hphase
      | false => trivial
  | service n =>
      rw [hpc] at hphase
      have hsettled := h.reachable.settled_service
      refine h.of_inside (hinside hpc trivial) (h.reachable.step .service) ?_
      unfold Phase
      rcases hphase with rfl | ⟨rfl, hs⟩
      · split_ifs
        · exact .inr ⟨rfl, hsettled⟩
        · exact ⟨by decide, hsettled⟩
      · rw [if_neg (by rw [hs.applied_eq_zero]; exact lt_irrefl 0)]
        exact ⟨le_refl 2, hsettled⟩
  | waiting n =>
      rw [hpc] at hphase
      exact h.release (hinside hpc trivial) id (.inr hphase.2)
  | leaving =>
      exact h.release (hinside hpc trivial) id trivial
  | blocked wakeup | returned => exact h

theorem Inv.wake (h : d.Inv P) : (d.step P .wake).Inv P := by
  rw [step]
  cases hpc : d.worker with
  | blocked wakeup => exact ⟨h.reachable, h.client, False.elim, trivial⟩
  | entry | loop n | service n | waiting n | woken | leaving | returned => exact h

theorem Inv.stop (h : d.Inv P) : (d.step P .stop).Inv P :=
  ⟨h.reachable, h.client, h.worker, h.phase⟩

/-- A signal keeps the invariant, whoever has the lock. -/
theorem Inv.signaled (h : d.Inv P) : { d with worker := d.worker.signaled }.Inv P := by
  by_cases hw : d.worker.Inside
  · rw [WorkerPc.signaled_of_inside hw]
    exact h
  · have houtside := WorkerPc.not_inside_signaled hw
    refine ⟨h.reachable, h.client, fun hin ↦ absurd hin houtside, phase_of_not_inside houtside ?_⟩
    exact fun hblocked ↦ absurd hblocked (WorkerPc.signaled_ne_blocked d.worker)

theorem Inv.stopSignal (h : d.Inv P) : (d.step P .stopSignal).Inv P := by
  rw [step]
  split_ifs
  · exact h
  · exact h.signaled

/-- **Every step keeps the invariant.** -/
theorem Inv.step {impl : Implementation W R H} {d : Daemon W H} (h : d.Inv (ddcProvider impl))
    (e : DaemonEvent) : (d.step (ddcProvider impl) e).Inv (ddcProvider impl) := by
  cases e with
  | lock i call => exact h.lock i call
  | call i => exact h.call i
  | signal i => exact h.signal i
  | unlock i => exact h.unlock i
  | work => exact h.work
  | wake => exact h.wake
  | stop => exact h.stop
  | stopSignal => exact h.stopSignal

/-! ## No press is left waiting -/

/-- What holds of the daemon in every state. -/
structure Attended (P : Provider W Ctx) (d : Daemon W Ctx) : Prop where
  /-- While the worker is blocked with no wakeup pending, and no thread stands between its
  `controller_adjust` and its `pthread_cond_signal`, nothing is due and nothing is pending. -/
  settled : d.worker = .blocked false → (∀ i, d.clients i ≠ .adjusted) → d.session.Settled
  /-- A thread that stands there has the lock, and its next statement makes a wakeup pending for
  a blocked worker. -/
  signals : ∀ i, d.clients i = .adjusted → d.owner = some (.client i) ∧
    ((d.step P (.signal i)).worker = d.worker.signaled)
  /-- Since it took the lock, the worker has called `controller_service` at most twice. -/
  services : d.worker.services ≤ 2
  /-- One such call leaves nothing due, whichever of its writes fail. -/
  drained : (d.session.step P .service).Settled

theorem Inv.attended {impl : Implementation W R H} {d : Daemon W H} (h : d.Inv (ddcProvider impl)) :
    d.Attended (ddcProvider impl) where
  settled hw hnone := (h.blocked hw).resolve_left fun ⟨i, hi⟩ ↦ hnone i hi
  signals i hi := by
    have hne : d.clients i ≠ .idle := hi.trans_ne nofun
    refine ⟨h.client i hne, ?_⟩
    rw [Daemon.step, hi]
  services := by
    have hphase := h.phase
    unfold Phase at hphase
    cases hpc : d.worker with
    | loop n | service n =>
        rw [hpc] at hphase
        change n ≤ 2
        rcases hphase with rfl | ⟨rfl, -⟩ <;> omega
    | waiting n =>
        rw [hpc] at hphase
        exact hphase.1
    | entry | blocked wakeup | woken | leaving | returned => exact Nat.zero_le 2
  drained := h.reachable.settled_service

end Daemon

/-- **No press is left waiting without a wakeup.**  In every state of every run of the daemon,
over any backend with any outcomes, whatever the order in which its threads take their steps and
however the waits of the worker end. -/
theorem no_press_left_waiting (impl : Implementation W R H) (w : W) (events : List DaemonEvent) :
    Run.Throughout (Daemon.step (ddcProvider impl)) (Daemon.Attended (ddcProvider impl))
      (Daemon.boot (ddcProvider impl) w) events :=
  Run.throughout_of_invariant (Daemon.inv_boot (ddcProvider impl) w) (fun _ e h ↦ h.step e)
    (fun _ h ↦ h.attended) events

/-- One display at 50 of 100. -/
def oneDisplay : Implementation Bench Nat BenchHandle :=
  bench fun _ ↦ some ⟨[⟨0, 0x10ac, 0xa0c4, false⟩], by decide⟩

/-- The worker goes to wait, and a press lands. -/
def pressAtRest : List DaemonEvent :=
  [.work, .work, .work, .work, .lock .keyCapture (.adjustFraction (1 / 16)), .call .keyCapture]

/-- Between `controller_adjust` and `pthread_cond_signal` the display is due while the worker is
blocked with no wakeup pending. -/
theorem due_before_signal :
    let d := pressAtRest.foldl (Daemon.step (ddcProvider oneDisplay))
      (Daemon.boot (ddcProvider oneDisplay) (.ready [⟨0, 100, 0, 50⟩]))
    d.worker = .blocked false ∧ ¬ d.session.Settled := by
  decide +kernel

end Dimmit
