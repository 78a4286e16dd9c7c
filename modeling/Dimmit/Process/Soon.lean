import Dimmit.Process.Levels

/-!
# A press is shown soon

At rest the displays show what was pressed; but other threads may press and poll all the time, and
then the worker never rests.  Still it comes to its next pass: whoever has the lock gives it back,
and the wait ends by a signal or its timeout.  Nothing can be pressed while the pass is on, so when
it is done the displays show all that was pressed before.  Only a thread that takes the lock again
puts the worker off, for there is no queue at the lock.
-/

namespace Dimmit

open Rounds Trace

variable {W R H Ctx O S : Type}

/-! ## The way to the next pass -/

/-- A bound on the statements the worker has left to its next pass. -/
def WorkerPc.way : WorkerPc → Nat
  | returned => 0
  | service _ | leaving => 1
  | loop _ => 2
  | entry | woken => 3
  | blocked _ => 4
  | waiting _ => 5

theorem WorkerPc.way_signaled (pc : WorkerPc) : pc.signaled.way = pc.way := by
  cases pc <;> rfl

/-- The worker leaves its loop, or has returned. -/
def WorkerPc.Ended : WorkerPc → Prop
  | leaving | returned => True
  | entry | loop _ | service _ | waiting _ | blocked _ | woken => False

namespace Daemon

/-- The worker has made a pass since it took the lock, or is to stop. -/
def Serviced (d : Daemon W Ctx) : Prop := d.running = false ∨ 0 < d.worker.services

def way (d : Daemon W Ctx) : Nat := d.clientsLeft + d.worker.way

/-- The client that the step gives the lock to. -/
def locks (d : Daemon W Ctx) : DaemonEvent → List Client
  | .lock i _ => if d.owner = none ∧ d.clients i = .idle then [i] else []
  | .call _ | .signal _ | .unlock _ | .work | .wake | .stop | .stopSignal => []

variable {P : Provider W Ctx} {d d' : Daemon W Ctx} {e : DaemonEvent}

/-- Until the next pass, a step with an effect shortens the way, other than taking the lock. -/
theorem Outcome.way_lt (h : d.Outcome P e d') (hd : ¬ d.Serviced) :
    d' = d ∨ d'.Serviced ∨ d'.way < d.way + 4 * (d.locks e).length := by
  have hclient {i : Client} {pc : ClientPc} (pc' : ClientPc) {worker : WorkerPc}
      (hworker : worker.way = d.worker.way) (hpc : d.clients i = pc) (hlt : pc'.rank < pc.rank) :
      (d.goTo i pc').clientsLeft + worker.way < d.way := by
    have hmove := d.clientsLeft_goTo i pc'
    rw [hpc] at hmove
    rw [hworker]
    unfold way
    omega
  have hworker {pc : WorkerPc} (pc' : WorkerPc) (hpc : d.worker = pc) (hlt : pc'.way < pc.way) :
      { d with worker := pc' }.way < d.way :=
    Nat.add_lt_add_left (hpc ▸ hlt) _
  cases h with
  | blocked => exact .inl rfl
  | lock hfree hidle =>
      rename_i i call
      have hmove := d.clientsLeft_goTo i (.locked call)
      rw [hidle] at hmove
      refine .inr (.inr ?_)
      rw [locks, if_pos ⟨hfree, hidle⟩]
      change (d.goTo i (.locked call)).clientsLeft + d.worker.way < d.clientsLeft + d.worker.way + 4
      simp only [ClientPc.rank] at hmove
      omega
  | press hpc => exact .inr (.inr (hclient .adjusted rfl hpc (by simp [ClientPc.rank])))
  | poll hpc => exact .inr (.inr (hclient .unlocking rfl hpc (by simp [ClientPc.rank])))
  | signal hpc =>
      exact .inr (.inr (hclient .unlocking d.worker.way_signaled hpc (by simp [ClientPc.rank])))
  | unlock hpc => exact .inr (.inr (hclient .idle rfl hpc (by simp [ClientPc.rank])))
  | acquire hpc hfree =>
      rcases hpc with hpc | hpc
      · exact .inr (.inr (hworker (.loop 0) hpc (by simp [WorkerPc.way])))
      · exact .inr (.inr (hworker (.loop 0) hpc (by simp [WorkerPc.way])))
  | @test n hpc =>
      rw [if_pos (Bool.eq_true_of_not_eq_false fun hrun ↦ hd (.inl hrun))]
      exact .inr (.inr (hworker (.service n) hpc (by simp [WorkerPc.way])))
  | @pass n hpc =>
      refine .inr (.inl (.inr ?_))
      dsimp only
      split_ifs <;> exact Nat.succ_pos n
  | wait hpc => exact .inr (.inr (hworker (.blocked false) hpc (by simp [WorkerPc.way])))
  | leave hpc => exact .inr (.inr (hworker .returned hpc (by simp [WorkerPc.way])))
  | wake hpc => exact .inr (.inr (hworker .woken hpc (by simp [WorkerPc.way])))
  | stop => exact .inr (.inl (.inl rfl))
  | stopSignal hstop => exact absurd (.inl hstop) hd

/-- The worker ends only when it is to stop. -/
theorem Outcome.ended (h : d.Outcome P e d') (hd : d.worker.Ended → d.running = false)
    (hended : d'.worker.Ended) : d'.running = false := by
  have hsignaled (hs : d.worker.signaled.Ended) : d.worker.Ended := by
    cases hpc : d.worker with
    | blocked wakeup =>
        rw [hpc] at hs
        exact hs
    | entry | loop n | service n | waiting n | woken | leaving | returned =>
        rw [hpc] at hs
        exact hs
  cases h with
  | blocked | lock | press | poll | unlock => exact hd hended
  | signal => exact hd (hsignaled hended)
  | stopSignal hstop => exact hstop
  | acquire | wait | wake => exact hended.elim
  | test hpc =>
      dsimp only at hended
      split_ifs at hended with hrun
      · exact hended.elim
      · exact Bool.eq_false_of_not_eq_true hrun
  | pass hpc =>
      dsimp only at hended
      split_ifs at hended <;> exact hended.elim
  | leave hpc => exact hd (hpc ▸ trivial)
  | stop => rfl

end Daemon

namespace Process

/-- The client that the step gives the lock to. -/
def locks (p : Process W Ctx O S) (e : ProcessEvent) : List Client :=
  (p.drives e).elim [] p.daemon.locks

variable {sys : DaemonSystem O S} {P : Provider W Ctx} {p q : Process W Ctx O S}

/-- The worker is there, and at work until it is to stop. -/
structure Manned (P : Provider W Ctx) (p : Process W Ctx O S) : Prop where
  inv : p.Inv P
  started : p.workerStarted = true
  ended : p.daemon.worker.Ended → p.daemon.running = false

theorem Inv.not_atClose (h : p.Inv P) (hrun : p.daemon.running ≠ false) : ¬ p.AtClose := by
  rintro ⟨sock, bound, hm⟩
  exact hrun (h.alone (by rw [hm]; exact le_refl 2)).stopped

/-- The worker is started once. -/
theorem workerStarted_step (hp : p.workerStarted = true) (e : ProcessEvent) :
    (p.step sys P e).workerStarted = true := by
  unfold Process.step
  cases e with
  | main =>
      change (p.mainStep sys P).workerStarted = true
      unfold mainStep cleanup
      cases p.main with
      | createWorker | startInput | openSocket =>
          dsimp only
          split <;> first | rfl | exact hp
      | unlinkStale => exact hp
      | serving sock pc =>
          obtain ⟨d, o, m, h⟩ := serve_eq sys P p sock pc
          dsimp only
          rw [h]
          exact hp
      | closing sock bound pc =>
          unfold close
          cases pc with
          | joinInput | signalWorker | joinWorker =>
              dsimp only
              split_ifs <;> exact hp
          | clearRunning | stopInput | closeSocket | unlinkSocket | closeController | netCleanup
          | exited => exact hp
  | work | wake | press | keyReturn =>
      dsimp only
      split_ifs <;> exact hp
  | key | interrupt => exact hp

/-- What a thread does to the daemon is known from where it is. -/
theorem drives_congr (hdaemon : q.daemon = p.daemon) (hstarted : q.workerStarted = p.workerStarted)
    {e : ProcessEvent} (he : e ∈ drivers) (hmain : e = .main → q.main = p.main) :
    q.drives e = p.drives e := by
  unfold drives
  cases e with
  | main => rw [hmain rfl, hdaemon, hstarted]
  | work | wake => rw [hstarted]
  | key => rw [hdaemon]
  | press fraction | keyReturn | interrupt => simp [drivers] at he

/-- The worker ends only when it is to stop. -/
theorem ended_step {impl : Implementation W R H} {p : Process W H O S}
    (hp : p.Inv (ddcProvider impl)) (hended : p.daemon.worker.Ended → p.daemon.running = false)
    (e : ProcessEvent) (hended' : (p.step sys (ddcProvider impl) e).daemon.worker.Ended) :
    (p.step sys (ddcProvider impl) e).daemon.running = false := by
  by_cases hrun : p.daemon.running = false
  · exact running_step hrun e
  · have hdaemon : (p.step sys (ddcProvider impl) e).daemon =
        p.daemon.drive (ddcProvider impl) (p.drives e) :=
      daemon_step e fun _ ↦ hp.not_atClose hrun
    rw [hdaemon] at hended' ⊢
    cases hd : p.drives e with
    | none =>
        rw [hd] at hended'
        exact hended hended'
    | some e' =>
        rw [hd] at hended'
        exact (p.daemon.outcome_step _ e').ended hended hended'

namespace Manned

theorem step {impl : Implementation W R H} {p : Process W H O S}
    (hp : p.Manned (ddcProvider impl)) (e : ProcessEvent) :
    (p.step sys (ddcProvider impl) e).Manned (ddcProvider impl) where
  inv := hp.inv.step e
  started := workerStarted_step hp.started e
  ended := ended_step hp.inv hp.ended e

/-- A step that does nothing to the daemon leaves the others what they can do to it. -/
theorem driver_step {impl : Implementation W R H} {p : Process W H O S}
    (hp : p.Manned (ddcProvider impl)) (hrun : p.daemon.running ≠ false) {e b : ProcessEvent}
    (hsame : (p.step sys (ddcProvider impl) e).daemon = p.daemon) (hb : b ∈ drivers)
    (hne : (p.step sys (ddcProvider impl) b).daemon ≠ p.daemon) :
    ((p.step sys (ddcProvider impl) e).step sys (ddcProvider impl) b).daemon ≠
      (p.step sys (ddcProvider impl) e).daemon := by
  have hmain (heq : b = .main) : (p.step sys (ddcProvider impl) e).main = p.main := by
    refine main_step ?_
    rintro rfl
    exact hne (heq ▸ hsame)
  have hdrives : (p.step sys (ddcProvider impl) e).drives b = p.drives b :=
    drives_congr hsame ((hp.step e).started.trans hp.started.symm) hb hmain
  have hrun' : (p.step sys (ddcProvider impl) e).daemon.running ≠ false := hsame ▸ hrun
  rw [daemon_step b fun _ ↦ (hp.step e).inv.not_atClose hrun', hdrives, hsame]
  rwa [daemon_step b fun _ ↦ hp.inv.not_atClose hrun] at hne

end Manned

/-- Every thread at the controller helps the worker to its next pass, or keeps out of its way. -/
theorem approaches (sys : DaemonSystem O S) (impl : Implementation W R H) :
    Approaches (Process.step sys (ddcProvider impl)) drivers (Manned (ddcProvider impl))
      (fun p ↦ p.daemon.Serviced)
      (fun p e ↦ (p.step sys (ddcProvider impl) e).daemon ≠ p.daemon) (fun p ↦ p.daemon.way)
      fun p e ↦ 4 * (p.locks e).length where
  keeps _ e hp := hp.step e
  moves p e hp hgoal := by
    have hrun : p.daemon.running ≠ false := fun hrun ↦ hgoal (.inl hrun)
    by_cases hsame : (p.step sys (ddcProvider impl) e).daemon = p.daemon
    · exact .inr (.inr ⟨(congrArg Daemon.way hsame).le, not_not_intro hsame,
        fun b hb ↦ hp.driver_step hrun hsame hb⟩)
    · rw [daemon_step e fun _ ↦ hp.inv.not_atClose hrun] at hsame ⊢
      unfold locks
      cases hd : p.drives e with
      | none =>
          rw [hd] at hsame
          exact absurd rfl hsame
      | some e' =>
          rw [hd] at hsame
          rcases (p.daemon.outcome_step (ddcProvider impl) e').way_lt hgoal with heq | hgoal' | hlt
          · exact absurd heq hsame
          · exact .inl hgoal'
          · exact .inr (.inl hlt)
  helps p hp hgoal := by
    have hrun : p.daemon.running ≠ false := fun hrun ↦ hgoal (.inl hrun)
    exact hp.inv.driven_worker hp.started fun hpc ↦ hrun (hp.ended (hpc ▸ trivial))

end Process

end Dimmit
