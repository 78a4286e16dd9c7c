import Dimmit.Lib.Rounds
import Dimmit.Process.Safety

/-!
# The process ends

Once `running` is cleared, every step of a thread that does not wait brings the process closer to
its end, other than a key that is pressed; and while `main` waits, for the lock or for a thread it
joins, the one it waits for can go on.  So the process ends within a number of rounds that is known
beforehand, whatever the order in which the threads are scheduled.

That a thread is scheduled means that its call returns: `accept`, `recv` and whatever else `main`
calls come back, and the capture thread, which waits for keys, returns once `input_stop` has asked
it to.  Nothing is assumed of a capture thread that was not asked.
-/

namespace Dimmit

open Rounds

variable {W R H Ctx O S : Type}

/-! ## How far it is to the end -/

/-- How many statements a client has left under the lock. -/
def ClientPc.rank : ClientPc → Nat
  | idle => 0
  | unlocking => 1
  | adjusted => 2
  | locked _ => 3

theorem ClientPc.next_ne {pc : ClientPc} (h : pc ≠ idle) : pc.next ≠ pc := by
  cases pc with
  | idle => exact absurd rfl h
  | locked call => cases call <;> nofun
  | adjusted | unlocking => nofun

/-- A bound on the statements the worker has left once `running` is cleared. -/
def WorkerPc.rank : WorkerPc → Nat
  | returned => 0
  | leaving => 1
  | loop _ => 2
  | entry | woken => 3
  | blocked _ => 4
  | waiting _ => 5
  | service _ => 6

theorem WorkerPc.rank_signaled (pc : WorkerPc) : pc.signaled.rank = pc.rank := by
  cases pc <;> rfl

def Capture.rank : Capture → Nat
  | absent | returned => 0
  | asked => 1
  | capturing => 2

theorem Capture.rank_pos {c : Capture} (h : ¬ c.Gone) : 0 < c.rank := by
  cases c with
  | absent | returned => exact absurd trivial h
  | asked | capturing => decide

/-- A bound on the statements `main` has left, other than under the lock. -/
def MainPc.rank : MainPc S → Nat
  | createWorker => 19
  | startInput => 18
  | unlinkStale => 15
  | openSocket => 14
  | serving _ pc =>
    match pc with
    | .bind => 13
    | .listen => 12
    | .afterBind => 11
    | .loop => 10
    | .closeClient _ => 11
    | .locked _ => 12
    | .lock _ _ => 16
    | .read _ => 17
    | .authorize _ => 18
    | .accept => 19
    | .select => 20
  | closing _ _ pc => pc.left

theorem MainPc.rank_le (m : MainPc S) : m.rank ≤ 20 := by
  cases m with
  | serving sock pc => cases pc <;> simp [rank]
  | closing sock bound pc => exact pc.left_le.trans (by decide)
  | createWorker | startInput | unlinkStale | openSocket => simp [rank]

namespace Daemon

/-- How many statements the clients have left under the lock. -/
def clientsLeft (d : Daemon W Ctx) : Nat :=
  (d.clients .acceptLoop).rank + (d.clients .keyCapture).rank

def rank (d : Daemon W Ctx) : Nat :=
  (d.clients .acceptLoop).rank + (d.clients .keyCapture).rank + d.worker.rank

variable {P : Provider W Ctx} {d d' : Daemon W Ctx} {e : DaemonEvent}

theorem clientsLeft_goTo (d : Daemon W Ctx) (i : Client) (pc : ClientPc) :
    (d.goTo i pc).clientsLeft + (d.clients i).rank = d.clientsLeft + pc.rank := by
  unfold clientsLeft
  cases i with
  | acceptLoop =>
      rw [goTo_self, goTo_of_ne (by decide : Client.keyCapture ≠ .acceptLoop)]
      omega
  | keyCapture =>
      rw [goTo_self, goTo_of_ne (by decide : Client.acceptLoop ≠ .keyCapture)]
      omega

theorem clientsLeft_le (d : Daemon W Ctx) : d.clientsLeft ≤ 6 := by
  have hclient (pc : ClientPc) : pc.rank ≤ 3 := by cases pc <;> simp [ClientPc.rank]
  exact Nat.add_le_add (hclient _) (hclient _)

/-- A client that goes on moves the rank by its own. -/
theorem rank_goTo (d : Daemon W Ctx) (i : Client) (pc : ClientPc) :
    (d.goTo i pc).rank + (d.clients i).rank = d.rank + pc.rank := by
  have hclients := d.clientsLeft_goTo i pc
  change (d.goTo i pc).clientsLeft + d.worker.rank + _ = d.clientsLeft + d.worker.rank + _
  omega

namespace Outcome

/-- Once `running` is cleared, a step with an effect lowers the rank, other than taking the lock
and signalling. -/
theorem rank_lt (h : d.Outcome P e d') (hrun : d.running = false)
    (hlock : ∀ i call, e ≠ .lock i call) (hsignal : e ≠ .stopSignal) :
    d' = d ∨ d'.rank < d.rank := by
  have hclient {i : Client} {pc : ClientPc} (pc' : ClientPc) (hpc : d.clients i = pc)
      (hlt : pc'.rank < pc.rank) :
      (d.goTo i pc').rank < d.rank := by
    have hmove := d.rank_goTo i pc'
    rw [hpc] at hmove
    omega
  have hworker {pc : WorkerPc} (pc' : WorkerPc) (hpc : d.worker = pc) (hlt : pc'.rank < pc.rank) :
      { d with worker := pc' }.rank < d.rank :=
    Nat.add_lt_add_left (hpc ▸ hlt) _
  cases h with
  | blocked => exact .inl rfl
  | lock => exact absurd rfl (hlock _ _)
  | press hpc => exact .inr (hclient .adjusted hpc (by simp [ClientPc.rank]))
  | poll hpc => exact .inr (hclient .unlocking hpc (by simp [ClientPc.rank]))
  | signal hpc =>
      have hlt := hclient .unlocking hpc (by simp [ClientPc.rank])
      unfold rank at hlt ⊢
      rw [WorkerPc.rank_signaled]
      exact .inr hlt
  | unlock hpc => exact .inr (hclient .idle hpc (by simp [ClientPc.rank]))
  | acquire hpc hfree =>
      rcases hpc with hpc | hpc
      · exact .inr (hworker (.loop 0) hpc (by simp [WorkerPc.rank]))
      · exact .inr (hworker (.loop 0) hpc (by simp [WorkerPc.rank]))
  | test hpc =>
      rw [hrun, if_neg Bool.false_ne_true]
      exact .inr (hworker .leaving hpc (by simp [WorkerPc.rank]))
  | @pass n hpc =>
      refine .inr (hworker (if d.session.applied P > 0 then .loop (n + 1) else .waiting (n + 1))
        hpc ?_)
      split_ifs <;> simp [WorkerPc.rank]
  | wait hpc => exact .inr (hworker (.blocked false) hpc (by simp [WorkerPc.rank]))
  | leave hpc => exact .inr (hworker .returned hpc (by simp [WorkerPc.rank]))
  | wake hpc => exact .inr (hworker .woken hpc (by simp [WorkerPc.rank]))
  | stop =>
      refine .inl ?_
      rw [← hrun]
  | stopSignal => exact absurd rfl hsignal

/-- Taking the lock costs three statements. -/
theorem rank_lock {i : Client} {call : Call} (h : d.Outcome P (.lock i call) d') :
    d' = d ∨ d'.rank = d.rank + 3 := by
  cases h with
  | blocked => exact .inl rfl
  | lock hfree hidle =>
      have hmove := d.rank_goTo i (.locked call)
      rw [hidle] at hmove
      exact .inr hmove

theorem rank_stopSignal (h : d.Outcome P .stopSignal d') : d'.rank = d.rank := by
  cases h with
  | blocked => rfl
  | stopSignal =>
      unfold rank
      rw [WorkerPc.rank_signaled]

theorem rank_stop (h : d.Outcome P .stop d') : d'.rank = d.rank := by
  cases h <;> rfl

end Outcome

/-- The worker never waits under the lock. -/
theorem worker_step_work (h : d.Inside .worker) : (d.step P .work).worker ≠ d.worker := by
  change (d.work P).worker ≠ d.worker
  unfold Daemon.work
  cases hpc : d.worker with
  | loop n =>
      dsimp only
      split_ifs <;> nofun
  | service n =>
      dsimp only
      split_ifs <;> nofun
  | waiting n | leaving => nofun
  | entry | blocked wakeup | woken | returned =>
      rw [Inside, hpc] at h
      exact h.elim

/-- A client under the lock that goes on lowers the rank. -/
theorem rank_drive_event (P : Provider W Ctx) (hrun : d.running = false) (i : Client) :
    d.drive P ((d.clients i).event i) = d ∨ (d.drive P ((d.clients i).event i)).rank < d.rank := by
  cases hpc : d.clients i with
  | idle => exact .inl rfl
  | locked call => exact (d.outcome_step P (.call i)).rank_lt hrun (by nofun) (by nofun)
  | adjusted => exact (d.outcome_step P (.signal i)).rank_lt hrun (by nofun) (by nofun)
  | unlocking => exact (d.outcome_step P (.unlock i)).rank_lt hrun (by nofun) (by nofun)

end Daemon

namespace Process

/-- A bound on the steps with an effect that are left once `running` is cleared. -/
def rank (p : Process W Ctx O S) : Nat := p.main.rank + p.daemon.rank + p.capture.rank

variable {p : Process W Ctx O S} {sys : DaemonSystem O S} {P : Provider W Ctx}

theorem rank_moveTo {d : Daemon W Ctx} {m : MainPc S} (hd : d.rank ≤ p.daemon.rank)
    (hm : m.rank < p.main.rank) (o : O) :
    { p with daemon := d, os := o, main := m }.rank < p.rank :=
  Nat.add_lt_add_right (Nat.add_lt_add_of_lt_of_le hm hd) _

theorem rank_serve (hrun : p.daemon.running = false) {sock : S} {pc : ServePc S}
    (hm : p.main = .serving sock pc) :
    p.serve sys P sock pc = p ∨ (p.serve sys P sock pc).rank < p.rank := by
  have hmove {m : MainPc S} (hlt : m.rank < (MainPc.serving sock pc).rank) (o : O) :
      { p with os := o, main := m }.rank < p.rank :=
    rank_moveTo le_rfl (hm ▸ hlt) o
  unfold Process.serve cleanup
  cases pc with
  | bind | listen | select | authorize client | read client =>
      dsimp only
      split <;> exact .inr (hmove (by simp [MainPc.rank, ClosePc.left]) _)
  | accept =>
      dsimp only
      split <;> exact .inr (hmove (by simp [MainPc.rank, ClosePc.left]) _)
  | loop =>
      dsimp only
      rw [hrun, if_neg Bool.false_ne_true]
      exact .inr (hmove (by simp [MainPc.rank, ClosePc.left]) _)
  | afterBind | closeClient client => exact .inr (hmove (by simp [MainPc.rank]) _)
  | lock call client =>
      dsimp only
      split_ifs
      · refine .inr ?_
        have hd := (p.daemon.outcome_step P (.lock .acceptLoop call)).rank_lock
        unfold rank
        rw [hm]
        simp only [MainPc.rank]
        rcases hd with hd | hd
        · rw [hd]
          omega
        · omega
      · exact .inl rfl
  | locked client =>
      dsimp only
      rcases p.daemon.rank_drive_event P hrun .acceptLoop with heq | hlt
      · rw [heq]
        split_ifs
        · refine .inr (rank_moveTo (o := p.os) le_rfl ?_)
          rw [hm]
          cases client <;> simp [afterLock, MainPc.rank]
        · refine .inl ?_
          rw [← hm]
      · refine .inr (Nat.add_lt_add_right (Nat.add_lt_add_of_le_of_lt ?_ hlt) _)
        rw [hm]
        split_ifs
        · cases client <;> simp [afterLock, MainPc.rank]
        · exact le_rfl

theorem rank_close {sock : Option S} {bound : Bool} {pc : ClosePc}
    (hm : p.main = .closing sock bound pc) :
    p.close sys P sock bound pc = p ∨ (p.close sys P sock bound pc).rank < p.rank := by
  have hmove {d : Daemon W Ctx} (hd : d.rank ≤ p.daemon.rank) {pc' : ClosePc}
      (hlt : pc'.left < pc.left) (o : O) :
      { p with daemon := d, os := o, main := .closing sock bound pc' }.rank < p.rank :=
    rank_moveTo (m := .closing sock bound pc') hd (hm ▸ hlt) o
  unfold Process.close
  cases pc with
  | clearRunning =>
      exact .inr (hmove (p.daemon.outcome_step P .stop).rank_stop.le (by decide) p.os)
  | stopInput =>
      have hcapture : (if p.capture = Capture.capturing then Capture.asked else p.capture).rank ≤
          p.capture.rank := by
        split_ifs with hc
        · rw [hc]
          decide
        · exact le_rfl
      refine .inr (Nat.add_lt_add_of_lt_of_le (Nat.add_lt_add_right ?_ _) hcapture)
      rw [hm]
      exact (by decide : 7 < 8)
  | joinInput =>
      dsimp only
      split_ifs
      · exact .inr (hmove le_rfl (by decide) p.os)
      · exact .inl rfl
  | signalWorker =>
      dsimp only
      split_ifs
      · exact .inr (hmove (p.daemon.outcome_step P .stopSignal).rank_stopSignal.le (by decide) p.os)
      · exact .inr (hmove le_rfl (by decide) p.os)
  | joinWorker =>
      dsimp only
      split_ifs
      · exact .inr (hmove le_rfl (by decide) p.os)
      · exact .inl rfl
  | closeSocket | unlinkSocket | netCleanup => exact .inr (hmove le_rfl (by decide) _)
  | closeController => exact .inr (hmove le_rfl (by decide) p.os)
  | exited => exact .inl rfl

theorem rank_mainStep (hrun : p.daemon.running = false) :
    p.mainStep sys P = p ∨ (p.mainStep sys P).rank < p.rank := by
  unfold Process.mainStep cleanup
  cases hm : p.main with
  | createWorker =>
      dsimp only
      split
      · refine .inr (Nat.add_lt_add_right (Nat.add_lt_add_right ?_ _) _)
        rw [hm]
        exact (by decide : 18 < 19)
      · refine .inr (rank_moveTo (m := .closing none false .clearRunning) le_rfl ?_ _)
        rw [hm]
        exact (by decide : 9 < 19)
  | startInput =>
      dsimp only
      split
      · -- the thread that is started has to return
        refine .inr ?_
        unfold rank
        rw [hm]
        simp only [MainPc.rank, Capture.rank]
        omega
      · refine .inr (rank_moveTo (m := .unlinkStale) le_rfl ?_ _)
        rw [hm]
        exact (by decide : 15 < 18)
  | unlinkStale =>
      refine .inr (rank_moveTo (m := .openSocket) le_rfl ?_ _)
      rw [hm]
      exact (by decide : 14 < 15)
  | openSocket =>
      dsimp only
      split
      · refine .inr (rank_moveTo (m := .serving _ .bind) le_rfl ?_ _)
        rw [hm]
        exact (by decide : 13 < 14)
      · refine .inr (rank_moveTo (m := .closing none false .clearRunning) le_rfl ?_ _)
        rw [hm]
        exact (by decide : 9 < 14)
  | serving sock pc => exact rank_serve hrun hm
  | closing sock bound pc => exact rank_close hm

/-- What an event may cost: under the lock, a key that is pressed has three statements. -/
def cost : ProcessEvent → Nat
  | .press _ => 4
  | .main | .work | .wake | .key | .keyReturn | .interrupt => 0

/-- **Every step with an effect brings the end closer**, other than a key that is pressed. -/
theorem rank_step (hrun : p.daemon.running = false) (e : ProcessEvent) :
    p.step sys P e = p ∨ (p.step sys P e).rank < p.rank + cost e := by
  have hdrive {d : Daemon W Ctx} {n : Nat} (hd : d = p.daemon ∨ d.rank < p.daemon.rank + n) :
      { p with daemon := d } = p ∨ { p with daemon := d }.rank < p.rank + n := by
    rcases hd with rfl | hlt
    · exact .inl rfl
    · refine .inr ?_
      unfold rank
      dsimp only
      omega
  unfold Process.step
  cases e with
  | main => exact rank_mainStep hrun
  | work =>
      dsimp only
      split_ifs
      · exact hdrive ((p.daemon.outcome_step P .work).rank_lt hrun (by nofun) (by nofun))
      · exact .inl rfl
  | wake =>
      dsimp only
      split_ifs
      · exact hdrive ((p.daemon.outcome_step P .wake).rank_lt hrun (by nofun) (by nofun))
      · exact .inl rfl
  | press fraction =>
      dsimp only
      split_ifs
      · exact .inl rfl
      · refine hdrive ((p.daemon.outcome_step P _).rank_lock.imp_right fun hd ↦ ?_)
        rw [hd]
        exact Nat.lt_succ_self _
  | key => exact hdrive (p.daemon.rank_drive_event P hrun .keyCapture)
  | keyReturn =>
      dsimp only
      split_ifs with hreturn
      · exact .inr (Nat.add_lt_add_left (Capture.rank_pos hreturn.1) _)
      · exact .inl rfl
  | interrupt => exact hdrive ((p.daemon.outcome_step P .stop).rank_lt hrun (by nofun) (by nofun))

/-! ## Nobody waits for nothing -/

/-- `main` has returned. -/
def Exited (p : Process W Ctx O S) : Prop := ∃ sock bound, p.main = .closing sock bound .exited

/-- The threads of the process, of which the capture thread either is under the lock or returns.
That the worker's wait ends belongs to them: it has a timeout. -/
def threads : List ProcessEvent := [.main, .work, .wake, .key, .keyReturn]

/-- The capture thread is due to return once it was asked to.  The others are due at any time, `main`
with them: no client keeps its calls from returning. -/
def Due (p : Process W Ctx O S) (e : ProcessEvent) : Prop := e = .keyReturn → p.capture = .asked

instance (p : Process W Ctx O S) : DecidablePred p.Due :=
  fun _ ↦ inferInstanceAs (Decidable (_ → _))

/-- The threads at the controller, with the end of the worker's wait. -/
def drivers : List ProcessEvent := [.main, .work, .wake, .key]

/-- One of them can do something to the daemon. -/
def Driven (sys : DaemonSystem O S) (P : Provider W Ctx) (p : Process W Ctx O S) : Prop :=
  ∃ e ∈ drivers, (p.step sys P e).daemon ≠ p.daemon

theorem Driven.exists_moves (h : p.Driven sys P) :
    ∃ e ∈ threads, p.step sys P e ≠ p ∧ p.Due e := by
  obtain ⟨e, he, hne⟩ := h
  have hmem : e ∈ threads := List.mem_append_left [ProcessEvent.keyReturn] he
  refine ⟨e, hmem, fun heq ↦ hne (congrArg Process.daemon heq), ?_⟩
  rintro rfl
  exact absurd he (by decide)

theorem driven_work (hstarted : p.workerStarted = true)
    (hne : (p.daemon.step P .work).worker ≠ p.daemon.worker) : p.Driven sys P := by
  refine ⟨.work, by decide, fun heq ↦ hne ?_⟩
  rw [Process.step, if_pos hstarted] at heq
  exact congrArg Daemon.worker heq

theorem driven_key (hk : p.daemon.clients .keyCapture ≠ .idle) : p.Driven sys P := by
  obtain ⟨e, he, -, -⟩ := ClientPc.exists_event .keyCapture hk
  refine ⟨.key, by decide, fun heq ↦ ClientPc.next_ne hk ?_⟩
  rw [Process.step, he] at heq
  rw [← Daemon.clients_step_event he]
  exact congrArg (fun d : Daemon W Ctx ↦ d.clients .keyCapture) heq

theorem Inv.driven_main (h : p.Inv P) (hm : p.main.Locked) : p.Driven sys P := by
  have hne := h.locked.mpr hm
  obtain ⟨e, he, -, -⟩ := ClientPc.exists_event .acceptLoop hne
  refine ⟨.main, by decide, fun heq ↦ ClientPc.next_ne hne ?_⟩
  cases hmain : p.main with
  | serving sock pc =>
      cases pc with
      | locked client =>
          rw [Process.step, Process.mainStep, hmain] at heq
          rw [← Daemon.clients_step_event he]
          have hclients := congrArg (fun d : Daemon W Ctx ↦ d.clients .acceptLoop) heq
          simp only [Process.serve, he] at hclients
          exact hclients
      | bind | listen | afterBind | loop | select | accept | authorize client | read client
      | lock call client | closeClient client =>
          rw [hmain] at hm
          exact hm.elim
  | createWorker | startInput | unlinkStale | openSocket | closing sock bound pc =>
      rw [hmain] at hm
      exact hm.elim

/-- Whoever has the lock can go on. -/
theorem Inv.driven_owner (h : p.Inv P) {t : Thread} (ht : p.daemon.owner = some t) :
    p.Driven sys P := by
  have hin := h.held t ht
  cases t with
  | worker =>
      refine driven_work (h.worker fun hentry ↦ ?_) (Daemon.worker_step_work hin)
      rw [Daemon.Inside, hentry] at hin
      exact hin
  | client i =>
      cases i with
      | acceptLoop => exact h.driven_main (h.locked.mp hin)
      | keyCapture => exact driven_key hin

/-- A worker that has not returned can go on, or waits for the lock of one that can. -/
theorem Inv.driven_worker (h : p.Inv P) (hstarted : p.workerStarted = true)
    (hw : p.daemon.worker ≠ .returned) : p.Driven sys P := by
  have hlock (hpc : p.daemon.worker = .entry ∨ p.daemon.worker = .woken) : p.Driven sys P := by
    cases howner : p.daemon.owner with
    | some t => exact h.driven_owner howner
    | none =>
        refine driven_work hstarted ?_
        change (p.daemon.work P).worker ≠ _
        unfold Daemon.work
        rcases hpc with hpc | hpc <;> rw [hpc, howner] <;> nofun
  have hinside (hpc : p.daemon.Inside .worker) : p.Driven sys P :=
    driven_work hstarted (Daemon.worker_step_work hpc)
  cases hpc : p.daemon.worker with
  | entry => exact hlock (.inl hpc)
  | woken => exact hlock (.inr hpc)
  | loop n | service n | waiting n | leaving =>
      refine hinside ?_
      rw [Daemon.Inside, hpc]
      trivial
  | blocked wakeup =>
      refine ⟨.wake, by decide, fun heq ↦ ?_⟩
      rw [Process.step, if_pos hstarted, Daemon.step, hpc] at heq
      have hworker := congrArg Daemon.worker heq
      rw [hpc] at hworker
      cases hworker
  | returned => exact absurd hpc hw

/-- A capture thread that was asked to return does, or goes on under the lock. -/
theorem Inv.exists_moves_capture (h : p.Inv P) (hgone : ¬ p.capture.Gone)
    (hpast : p.main.Past .stopInput) : ∃ e ∈ threads, p.step sys P e ≠ p ∧ p.Due e := by
  by_cases hk : p.daemon.clients .keyCapture = .idle
  · have hnot : p.capture ≠ .capturing := h.past .stopInput hpast
    refine ⟨.keyReturn, by decide, fun heq ↦ hgone ?_, fun _ ↦ ?_⟩
    · rw [Process.step, if_pos ⟨hgone, hk⟩] at heq
      rw [← congrArg Process.capture heq]
      trivial
    · cases hc : p.capture with
      | asked => rfl
      | capturing => exact absurd hc hnot
      | absent | returned => exact absurd (hc ▸ trivial) hgone
  · exact (driven_key hk).exists_moves

/-- Before its end, the process goes on: `main`, or the thread it waits for.  A capture thread that
`main` joins was asked to return. -/
theorem Inv.exists_moves (h : p.Inv P) (hexit : ¬ p.Exited) :
    ∃ e ∈ threads, p.step sys P e ≠ p ∧ p.Due e := by
  have hmain (hne : (p.mainStep sys P).main ≠ p.main) :
      ∃ e ∈ threads, p.step sys P e ≠ p ∧ p.Due e :=
    ⟨.main, by decide, fun heq ↦ hne (congrArg Process.main heq), nofun⟩
  cases hm : p.main with
  | createWorker | startInput | openSocket =>
      refine hmain ?_
      rw [hm]
      unfold Process.mainStep
      rw [hm]
      dsimp only
      split <;> nofun
  | unlinkStale =>
      refine hmain ?_
      unfold Process.mainStep
      rw [hm]
      nofun
  | serving sock pc =>
      have hserve (hne : (p.serve sys P sock pc).main ≠ .serving sock pc) :
          ∃ e ∈ threads, p.step sys P e ≠ p ∧ p.Due e := by
        refine hmain ?_
        unfold Process.mainStep
        rw [hm]
        exact hne
      unfold Process.serve cleanup at hserve
      cases pc with
      | bind | listen | select | authorize client | read client | loop | accept =>
          refine hserve ?_
          dsimp only
          split <;> nofun
      | afterBind | closeClient client => exact hserve nofun
      | lock call client =>
          cases howner : p.daemon.owner with
          | none =>
              refine hserve ?_
              rw [howner]
              nofun
          | some t => exact (h.driven_owner howner).exists_moves
      | locked client => exact (h.driven_main (hm ▸ trivial)).exists_moves
  | closing sock bound pc =>
      have hclose (hne : (p.close sys P sock bound pc).main ≠ .closing sock bound pc) :
          ∃ e ∈ threads, p.step sys P e ≠ p ∧ p.Due e := by
        refine hmain ?_
        unfold Process.mainStep
        rw [hm]
        exact hne
      unfold Process.close at hclose
      cases pc with
      | joinInput =>
          by_cases hgone : p.capture.Gone
          · refine hclose ?_
            rw [if_pos hgone]
            nofun
          · exact h.exists_moves_capture hgone (by rw [hm]; exact (by decide : 7 < 8))
      | joinWorker =>
          by_cases hreturned : p.daemon.worker = .returned
          · refine hclose ?_
            rw [if_pos hreturned]
            nofun
          · exact (h.driven_worker (h.joins (by rw [hm]; rfl)) hreturned).exists_moves
      | exited => exact absurd ⟨sock, bound, hm⟩ hexit
      | signalWorker =>
          refine hclose ?_
          dsimp only
          split_ifs <;> nofun
      | clearRunning | stopInput | closeSocket | unlinkSocket | closeController | netCleanup =>
          exact hclose nofun

/-! ## The end is near -/

theorem Exited.step (h : p.Exited) (e : ProcessEvent) : (p.step sys P e).Exited := by
  obtain ⟨sock, bound, hm⟩ := h
  refine ⟨sock, bound, ?_⟩
  by_cases he : e = .main
  · subst he
    rw [Process.step, mainStep, hm]
    exact hm
  · rw [main_step he, hm]

/-- Nothing sets `running` again. -/
theorem running_step (hrun : p.daemon.running = false) (e : ProcessEvent) :
    (p.step sys P e).daemon.running = false := by
  by_cases hclose : e = .main ∧ p.AtClose
  · obtain ⟨rfl, sock, bound, hm⟩ := hclose
    rw [Process.step, mainStep, hm]
    exact hrun
  · rw [daemon_step e fun he hat ↦ hclose ⟨he, hat⟩]
    cases p.drives e with
    | none => exact hrun
    | some e => exact (p.daemon.outcome_step P e).running_eq hrun

theorem rank_le (p : Process W Ctx O S) : p.rank ≤ 34 := by
  have hmain := p.main.rank_le
  have hclients := p.daemon.clientsLeft_le
  have hworker (pc : WorkerPc) : pc.rank ≤ 6 := by cases pc <;> simp [WorkerPc.rank]
  have hcapture (c : Capture) : c.rank ≤ 2 := by cases c <;> decide
  have h₁ := hworker p.daemon.worker
  have h₂ := hcapture p.capture
  change p.main.rank + (p.daemon.clientsLeft + p.daemon.worker.rank) + p.capture.rank ≤ 34
  omega

theorem ranked (sys : DaemonSystem O S) (impl : Implementation W R H) :
    Ranked (Process.step sys (ddcProvider impl)) threads
      (fun p ↦ p.Inv (ddcProvider impl) ∧ p.daemon.running = false) Exited rank cost where
  keeps _ e h := ⟨h.1.step e, running_step h.2 e⟩
  stable _ e _ h := h.step e
  moves _ e h := rank_step h.2 e
  helps _ h hexit := by
    obtain ⟨e, he, hne, -⟩ := h.1.exists_moves hexit
    exact ⟨e, he, hne⟩

end Process

/-- How many keys are pressed. -/
def keysPressed (events : List ProcessEvent) : Nat :=
  events.countP fun
    | .press _ => true
    | .main | .work | .wake | .key | .keyReturn | .interrupt => false

theorem total_cost (events : List ProcessEvent) :
    total Process.cost events = 4 * keysPressed events := by
  induction events with
  | nil => rfl
  | cons e events ih =>
      rw [total_cons, ih]
      unfold keysPressed
      cases e with
      | press => rw [List.countP_cons_of_pos rfl, Nat.mul_succ, Nat.add_comm]; rfl
      | main | work | wake | key | keyReturn | interrupt =>
          rw [List.countP_cons_of_neg (by decide)]
          exact Nat.zero_add _

/-- **The process ends when it is told to.**  From every state of a run in which `running` is
cleared, by a signal or by `main` itself, more than 34 fair rounds, and four more for each key that
is pressed meanwhile, see `main` return, whatever else happens in between: a round is any part of
the run in which each thread is scheduled, where the capture thread is only bound to return in a
round that starts when `input_stop` has asked it to. -/
theorem process_ends (sys : DaemonSystem O S) (impl : Implementation W R H) {o : O} {w : W}
    {p : Process W H O S} (h : startup sys (ddcProvider impl) o w = .ok p)
    (events : List ProcessEvent)
    (hstop : (p.run sys (ddcProvider impl) events).daemon.running = false)
    {rounds : List (List ProcessEvent)}
    (hfair : Fair (Process.step sys (ddcProvider impl)) Process.threads Process.Due
      (p.run sys (ddcProvider impl) events) rounds)
    (hlen : 34 + 4 * keysPressed rounds.flatten < rounds.length) :
    ((p.run sys (ddcProvider impl) events).run sys (ddcProvider impl) rounds.flatten).Exited := by
  have hinv : (p.run sys (ddcProvider impl) events).Inv (ddcProvider impl) :=
    (Run.throughout_of_invariant (I := fun p ↦ p.Inv (ddcProvider impl)) (Process.inv_startup h)
      (fun _ e hp ↦ hp.step e) (fun _ hp ↦ hp) events).last
  refine (Process.ranked sys impl).done_of_fair (fun q hq hexit ↦ hq.1.exists_moves hexit) hfair
    ⟨hinv, hstop⟩ ?_
  rw [total_cost]
  exact (Nat.add_le_add_right (Process.rank_le _) _).trans_lt hlen

/-- The system of `visited`, with key capture. -/
def captured : DaemonSystem (Visit × List Visit) Nat :=
  { visited with inputStart := fun o ↦ (true, o) }

/-- A signal comes while `main` serves a client and the worker is at its first pass.  The capture
thread stays until `main` has asked it to return, in the sixth round. -/
theorem process_ends_captured :
    let stopped := visitedTwice.run captured (ddcProvider oneDisplay)
      (List.replicate 14 .main ++ [.work, .work, .interrupt])
    let rounds := List.replicate 6 Process.drivers ++ List.replicate 29 Process.threads
    (stopped.run captured (ddcProvider oneDisplay)
      (List.replicate 6 Process.drivers).flatten).capture = .asked ∧
    (stopped.run captured (ddcProvider oneDisplay) rounds.flatten).Exited := by
  intro stopped rounds
  have hstart : startup captured (ddcProvider oneDisplay)
      (⟨false, []⟩, [⟨true, upWord ++ [newline]⟩, ⟨false, downWord⟩])
      (.ready [⟨0, 100, 0, 50⟩]) = .ok visitedTwice := rfl
  have hfair : Fair (Process.step captured (ddcProvider oneDisplay)) Process.threads Process.Due
      stopped rounds := by decide +kernel
  have hlen : 34 + 4 * keysPressed rounds.flatten < rounds.length := by decide +kernel
  exact ⟨by decide +kernel,
    process_ends captured oneDisplay hstart _ (by decide +kernel) hfair hlen⟩

end Dimmit
