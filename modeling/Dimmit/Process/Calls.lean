import Dimmit.DisplayController.Ownership
import Dimmit.Lib.Trace
import Dimmit.Process.Shutdown

/-!
# The calls of the controller

Every call of the controller is made under the lock, so a run of the process does to the controller
what the sequence of its calls does, in the order in which the threads had the lock.  What holds of
every sequence of calls holds of every run of the process; that its handles are open when they are
used is one such thing.  Once the process is to stop, few calls are left.
-/

namespace Dimmit

open Ledger Run Trace

variable {W R H Ctx O S : Type}

namespace Process

variable {sys : DaemonSystem O S} {P : Provider W Ctx} {p : Process W Ctx O S}

/-- The calls of the controller that a step makes. -/
def calls (p : Process W Ctx O S) (e : ProcessEvent) : List (Thread × Op) :=
  ((p.drives e).bind p.daemon.callOf).toList

theorem le_left_serve {sock : S} {pc : ServePc S} (hm : p.main = .serving sock pc) :
    9 ≤ (p.serve sys P sock pc).main.left := by
  unfold serve cleanup
  cases pc with
  | bind | listen | loop | accept =>
      dsimp only
      split <;> first | exact Nat.le_succ 9 | exact le_refl 9
  | select | authorize client | read client =>
      dsimp only
      split <;> exact Nat.le_succ 9
  | lock call client =>
      dsimp only
      split_ifs
      · exact Nat.le_succ 9
      · rw [hm]
        exact Nat.le_succ 9
  | afterBind | locked client | closeClient client => exact Nat.le_succ 9

theorem left_close_lt_iff {sock : Option S} {bound : Bool} {pc : ClosePc}
    (hm : p.main = .closing sock bound pc) :
    (p.close sys P sock bound pc).main.left < 2 ↔ pc.left < 2 ∨ pc = .closeController := by
  unfold close
  cases pc with
  | joinInput | signalWorker | joinWorker =>
      dsimp only
      split_ifs <;> simp [MainPc.left, ClosePc.left, hm]
  | exited => simp [ClosePc.left, MainPc.left, hm]
  | clearRunning | stopInput | closeSocket | unlinkSocket | closeController | netCleanup =>
      simp [MainPc.left, ClosePc.left]

/-- `main` gets behind `controller_close` by calling it. -/
theorem past_step_iff (e : ProcessEvent) : (p.step sys P e).main.Past .closeController ↔
    p.main.Past .closeController ∨ e = .main ∧ p.AtClose := by
  by_cases he : e = .main
  · subst he
    rw [and_iff_right rfl]
    change (p.mainStep sys P).main.left < 2 ↔ p.main.left < 2 ∨ p.AtClose
    have hbefore (h9 : 9 ≤ (p.mainStep sys P).main.left) (hp : p.main.left = 10)
        (hclose : ¬ p.AtClose) :
        (p.mainStep sys P).main.left < 2 ↔ p.main.left < 2 ∨ p.AtClose :=
      iff_of_false (by omega) (not_or.mpr ⟨by omega, hclose⟩)
    have hclose (hne : ∀ sock bound, p.main ≠ .closing sock bound .closeController) :
        ¬ p.AtClose := fun ⟨sock, bound, h⟩ ↦ hne sock bound h
    cases hm : p.main with
    | createWorker | startInput | openSocket =>
        rw [← hm]
        refine hbefore ?_ (by rw [hm]; rfl) (hclose (by simp [hm]))
        unfold mainStep cleanup
        rw [hm]
        dsimp only
        split <;> first | exact Nat.le_succ 9 | exact le_refl 9
    | unlinkStale =>
        rw [← hm]
        refine hbefore ?_ (by rw [hm]; rfl) (hclose (by simp [hm]))
        unfold mainStep
        rw [hm]
        exact Nat.le_succ 9
    | serving sock pc =>
        rw [← hm]
        refine hbefore ?_ (by rw [hm]; rfl) (hclose (by simp [hm]))
        unfold mainStep
        rw [hm]
        exact le_left_serve hm
    | closing sock bound pc =>
        unfold mainStep AtClose
        rw [hm, left_close_lt_iff hm]
        simp [MainPc.left]
  · rw [main_step he, or_iff_left fun h ↦ he h.1]

end Process

/-- What `controller_close` leaves of a session. -/
def Session.closed (P : Provider W Ctx) (s : Session W Ctx) : Session W Ctx :=
  { s with world := controllerClose P s.controller s.world }

namespace Process

variable {sys : DaemonSystem O S} {P : Provider W Ctx} {p : Process W Ctx O S}

/-- **What a step does to the controller**: nothing once it is closed; `controller_close`; or the
calls the step makes. -/
theorem step_controller (sys : DaemonSystem O S) (h : p.Inv P) (e : ProcessEvent) :
    (p.main.Past .closeController ∧ (p.step sys P e).main.Past .closeController ∧
      p.calls e = [] ∧ (p.step sys P e).daemon.session = p.daemon.session) ∨
    (¬ p.main.Past .closeController ∧ (p.step sys P e).main.Past .closeController ∧
      p.calls e = [] ∧ (p.step sys P e).daemon.session = p.daemon.session.closed P) ∨
    (¬ p.main.Past .closeController ∧ ¬ (p.step sys P e).main.Past .closeController ∧
      (p.step sys P e).daemon.session = p.daemon.session.run P ((p.calls e).map Prod.snd)) := by
  by_cases hp : p.main.Past .closeController
  · have hout := (h.alone hp.le).not_inside h
    refine .inl ⟨hp, (past_step_iff e).mpr (.inl hp), ?_, h.safe.untouched hp e⟩
    unfold calls
    cases p.drives e with
    | none => rfl
    | some e => exact congrArg Option.toList (Daemon.callOf_eq_none hout e)
  by_cases hclose : e = .main ∧ p.AtClose
  · refine .inr (.inl ⟨hp, (past_step_iff e).mpr (.inr hclose), ?_⟩)
    obtain ⟨rfl, sock, bound, hm⟩ := hclose
    constructor
    · unfold calls drives
      rw [hm]
      rfl
    · change (p.mainStep sys P).daemon.session = _
      unfold mainStep
      rw [hm]
      rfl
  · refine .inr (.inr ⟨hp, fun hpast ↦ ((past_step_iff e).mp hpast).elim hp hclose, ?_⟩)
    rw [daemon_step e fun he hat ↦ hclose ⟨he, hat⟩]
    unfold calls
    cases p.drives e with
    | none => rfl
    | some e => exact (p.daemon.outcome_step P e).session_run

/-! ## One sequence of calls -/

/-- The controller is as the calls have left it, and closed when `main` has closed it. -/
structure Follows (P : Provider W Ctx) (p : Process W Ctx O S) (s : Session W Ctx) : Prop where
  inv : p.Inv P
  opened : ¬ p.main.Past .closeController → p.daemon.session = s
  closed : p.main.Past .closeController → p.daemon.session = s.closed P

theorem follows_startup {o : O} {w : W} (h : startup sys P o w = .ok p) :
    p.Follows P (.start P w) := by
  have hinv := inv_startup h
  obtain ⟨-, o', rfl⟩ := startup_eq_ok h
  refine ⟨hinv, fun _ ↦ rfl, fun hp ↦ ?_⟩
  exact absurd hp (MainPc.Before.not_past (m := .createWorker) trivial _)

theorem Follows.step {impl : Implementation W R H} {p : Process W H O S} {s : Session W H}
    (h : p.Follows (ddcProvider impl) s) (e : ProcessEvent) :
    (p.step sys (ddcProvider impl) e).Follows (ddcProvider impl)
      ((p.calls e).foldl (fun s call ↦ s.step (ddcProvider impl) call.2) s) := by
  have hinv : (p.step sys (ddcProvider impl) e).Inv (ddcProvider impl) := h.inv.step e
  rw [← List.foldl_map (f := Prod.snd) (g := Session.step (ddcProvider impl))]
  obtain ⟨hp, hp', hcalls, hs⟩ | ⟨hp, hp', hcalls, hs⟩ | ⟨hp, hp', hs⟩ :=
    step_controller sys h.inv e
  · rw [hcalls]
    exact ⟨hinv, absurd hp', fun _ ↦ hs.trans (h.closed hp)⟩
  · rw [hcalls]
    refine ⟨hinv, absurd hp', fun _ ↦ ?_⟩
    rw [hs, h.opened hp]
    rfl
  · refine ⟨hinv, fun _ ↦ ?_, fun hpast ↦ absurd hpast hp'⟩
    rw [hs, h.opened hp]
    rfl

/-- **A run of the process is one sequence of calls** for its controller. -/
theorem follows_run {impl : Implementation W R H} {p : Process W H O S} {o : O} {w : W}
    (h : startup sys (ddcProvider impl) o w = .ok p) (events : List ProcessEvent) :
    (p.run sys (ddcProvider impl) events).Follows (ddcProvider impl)
      ((Session.start (ddcProvider impl) w).run (ddcProvider impl)
        ((trace (Process.step sys (ddcProvider impl)) calls p events).map Prod.snd)) := by
  rw [Session.run, List.foldl_map]
  exact rel_trace (fun _ _ e hs ↦ hs.step e) (follows_startup h) events

end Process

/-! ## The handles of the process -/

namespace Process

variable {sys : DaemonSystem O S} [DecidableEq H]

/-- The step is a poll that finds a managed display again. -/
def Rematches (P : Provider W Ctx) (p : Process W Ctx O S) (e : ProcessEvent) : Prop :=
  Op.reconcile ∈ (p.calls e).map Prod.snd ∧ p.daemon.session.Rematches P

/-- The open handles are those of the controller, until `main` closes it, and the orphans. -/
structure Keeps (impl : Implementation W R H) (p : Process (Logged W R H) H O S)
    (orphans : Multiset H) : Prop where
  inv : p.Inv (ddcProvider impl.logged)
  opened : ¬ p.main.Past .closeController → p.daemon.session.Owns orphans
  closed : p.main.Past .closeController →
    Moves 0 (handleActions p.daemon.session.world.2) orphans

variable {impl : Implementation W R H} {p : Process (Logged W R H) H O S} {orphans : Multiset H}

theorem Keeps.disciplined (h : p.Keeps impl orphans) :
    Disciplined (handleActions p.daemon.session.world.2) := by
  by_cases hp : p.main.Past .closeController
  · exact (h.closed hp).permitted
  · exact (h.opened hp).moves.permitted

theorem keeps_startup {o : O} {w : W}
    (h : startup sys (ddcProvider impl.logged) o (w, []) = .ok p) : p.Keeps impl 0 := by
  have hinv := inv_startup h
  obtain ⟨-, o', rfl⟩ := startup_eq_ok h
  refine ⟨hinv, fun _ ↦ Session.Owns.start impl w, fun hp ↦ ?_⟩
  exact absurd hp (MainPc.Before.not_past (m := .createWorker) trivial _)

/-- A step orphans handles if it is a poll that finds a managed display again, and only then. -/
theorem Keeps.step (sys : DaemonSystem O S) (h : p.Keeps impl orphans) (e : ProcessEvent) :
    ∃ orphans', (p.step sys (ddcProvider impl.logged) e).Keeps impl orphans' ∧
      orphans ≤ orphans' ∧
      (orphans' = orphans ↔ ¬ p.Rematches (ddcProvider impl.logged) e) := by
  have hinv : (p.step sys (ddcProvider impl.logged) e).Inv (ddcProvider impl.logged) :=
    h.inv.step e
  have hno (hcalls : Op.reconcile ∉ (p.calls e).map Prod.snd) :
      ¬ p.Rematches (ddcProvider impl.logged) e := fun hr ↦ hcalls hr.1
  obtain ⟨hp, hp', hcalls, hs⟩ | ⟨hp, hp', hcalls, hs⟩ | ⟨hp, hp', hs⟩ :=
    step_controller sys h.inv e
  · refine ⟨orphans, ⟨hinv, absurd hp', fun _ ↦ ?_⟩, le_refl _, iff_of_true rfl ?_⟩
    · rw [hs]
      exact h.closed hp
    · exact hno (by rw [hcalls]; exact List.not_mem_nil)
  · refine ⟨orphans, ⟨hinv, absurd hp', fun _ ↦ ?_⟩, le_refl _, iff_of_true rfl ?_⟩
    · rw [hs]
      exact (h.opened hp).close impl
    · exact hno (by rw [hcalls]; exact List.not_mem_nil)
  · have howns := h.opened hp
    have keep {orphans' : Multiset H}
        (howns' : (p.daemon.session.run (ddcProvider impl.logged)
          ((p.calls e).map Prod.snd)).Owns orphans') :
        (p.step sys (ddcProvider impl.logged) e).Keeps impl orphans' :=
      ⟨hinv, fun _ ↦ hs ▸ howns', fun hpast ↦ absurd hpast hp'⟩
    cases hcall : (p.drives e).bind p.daemon.callOf with
    | none =>
        have hcalls : p.calls e = [] := congrArg Option.toList hcall
        refine ⟨orphans, keep ?_, le_refl _, iff_of_true rfl ?_⟩
        · rw [hcalls]
          exact howns
        · exact hno (by rw [hcalls]; exact List.not_mem_nil)
    | some call =>
        obtain ⟨t, op⟩ := call
        have hcalls : p.calls e = [(t, op)] := congrArg Option.toList hcall
        have hop : (p.calls e).map Prod.snd = [op] := by rw [hcalls]; rfl
        rw [hop] at keep hno
        cases op with
        | adjust f =>
            exact ⟨orphans, keep (howns.adjust impl f), le_refl _, iff_of_true rfl (hno (by simp))⟩
        | service =>
            exact ⟨orphans, keep (howns.service impl), le_refl _, iff_of_true rfl (hno (by decide))⟩
        | reconcile =>
            obtain ⟨more, howns', hmore⟩ := howns.reconcile impl
            refine ⟨more + orphans, keep howns', Multiset.le_add_left _ _, ?_⟩
            rw [add_eq_right, hmore, not_iff_not, Rematches, hop]
            exact (and_iff_right (List.mem_singleton_self _)).symm

end Process

/-- **What the process leaves open.**  Over any backend, in every state of every run, the process
has used and closed only handles it had open, also behind `controller_close`; and it exits with a
handle open if and only if one of its polls found a managed display again. -/
theorem process_handles [DecidableEq H] (sys : DaemonSystem O S) (impl : Implementation W R H)
    {o : O} {w : W} {p : Process (Logged W R H) H O S}
    (h : startup sys (ddcProvider impl.logged) o (w, []) = .ok p) (events : List ProcessEvent) :
    Throughout (Process.step sys (ddcProvider impl.logged))
      (fun q ↦ Disciplined (handleActions q.daemon.session.world.2)) p events ∧
    ((p.run sys (ddcProvider impl.logged) events).main.Past .closeController →
      (openHandles (p.run sys (ddcProvider impl.logged) events).daemon.session.world.2 = 0 ↔
        Along (Process.step sys (ddcProvider impl.logged))
          (fun q e ↦ ¬ q.Rematches (ddcProvider impl.logged) e) p events)) := by
  have hkeeps : p.Keeps impl 0 := Process.keeps_startup h
  constructor
  · refine throughout_of_invariant (J := fun q ↦ ∃ orphans, q.Keeps impl orphans) ⟨0, hkeeps⟩ ?_
      (fun q ⟨_, hq⟩ ↦ hq.disciplined) events
    rintro q e ⟨orphans, hq⟩
    obtain ⟨orphans', hq', -⟩ := hq.step sys e
    exact ⟨orphans', hq'⟩
  · intro hp
    have hstep (q : Process (Logged W R H) H O S) (held : Multiset H) (e : ProcessEvent)
        (hq : q.Keeps impl held) := hq.step sys e
    obtain ⟨orphans, hq, -, halong⟩ := exists_reading hstep hkeeps events
    rw [← halong]
    exact Eq.congr_left (hq.closed hp).held_eq

/-- The process of `visitedTwice`, with a log of the calls to its backend. -/
def visitedLogged :
    Process (Logged Bench Nat BenchHandle) BenchHandle (Visit × List Visit) Nat where
  daemon := .boot (ddcProvider oneDisplay.logged) (.ready [⟨0, 100, 0, 50⟩], [])
  os := (⟨false, []⟩, [⟨true, upWord ++ [newline]⟩, ⟨false, downWord⟩])
  sockPath := bytes ['/', 's']
  main := .createWorker
  workerStarted := false
  capture := .absent

theorem startup_visitedLogged : startup visited (ddcProvider oneDisplay.logged)
    (⟨false, []⟩, [⟨true, upWord ++ [newline]⟩, ⟨false, downWord⟩])
    (.ready [⟨0, 100, 0, 50⟩], []) = .ok visitedLogged := rfl

/-- `stoppedAtRest` has no poll that finds a display again, so nothing is left open. -/
theorem process_handles_visited :
    Along (Process.step visited (ddcProvider oneDisplay.logged))
      (fun q e ↦ ¬ q.Rematches (ddcProvider oneDisplay.logged) e) visitedLogged
      (stoppedAtRest ++ [.main]) := by
  have hpast : (visitedLogged.run visited (ddcProvider oneDisplay.logged)
      (stoppedAtRest ++ [.main])).main.Past .closeController := by
    unfold MainPc.Past
    decide +kernel
  have hiff := (process_handles visited oneDisplay startup_visitedLogged
    (stoppedAtRest ++ [.main])).2 hpast
  exact hiff.mp (by decide +kernel)

/-! ## How soon it stops -/

/-- The calls the worker comes to before it tests `running`. -/
def WorkerPc.pending : WorkerPc → Nat
  | service _ => 1
  | entry | loop _ | waiting _ | blocked _ | woken | leaving | returned => 0

theorem WorkerPc.pending_signaled (pc : WorkerPc) : pc.signaled.pending = pc.pending := by
  cases pc <;> rfl

theorem WorkerPc.pending_le (pc : WorkerPc) : pc.pending ≤ 1 := by
  cases pc with
  | service n => exact le_refl 1
  | entry | loop n | waiting n | blocked wakeup | woken | leaving | returned => exact Nat.zero_le 1

/-- Those a client comes to under the lock. -/
def ClientPc.pending : ClientPc → Nat
  | locked _ => 1
  | idle | adjusted | unlocking => 0

theorem ClientPc.pending_le (pc : ClientPc) : pc.pending ≤ 1 := by
  cases pc with
  | locked call => exact le_refl 1
  | idle | adjusted | unlocking => exact Nat.zero_le 1

theorem ClientPc.pending_next (pc : ClientPc) : pc.next.pending = 0 := by
  cases pc with
  | locked call => cases call <;> rfl
  | idle | adjusted | unlocking => rfl

/-- Those `main` comes to before it does, when as a client it is at `pc`. -/
def MainPc.pending (pc : ClientPc) : MainPc S → Nat
  | serving _ .select | serving _ .accept | serving _ (.authorize _) | serving _ (.read _)
  | serving _ (.lock _ _) => 1
  | serving _ (.locked _) => pc.pending
  | serving _ .bind | serving _ .listen | serving _ .afterBind | serving _ .loop
  | serving _ (.closeClient _) => 0
  | createWorker | startInput | unlinkStale | openSocket | closing _ _ _ => 0

theorem MainPc.pending_le (pc : ClientPc) (m : MainPc S) : m.pending pc ≤ 1 := by
  cases m with
  | serving sock serve =>
      cases serve with
      | locked client => exact pc.pending_le
      | bind | listen | afterBind | loop | closeClient client => exact Nat.zero_le 1
      | select | accept | authorize client | read client | lock call client => exact le_refl 1
  | createWorker | startInput | unlinkStale | openSocket | closing => exact Nat.zero_le 1

namespace Daemon

variable {P : Provider W Ctx} {d d' : Daemon W Ctx} {e : DaemonEvent} {t : Thread} {op : Op}

/-- A call is a statement of the thread that makes it. -/
theorem callOf_thread (h : d.callOf e = some (t, op)) :
    (∃ i, t = .client i ∧ e.client = some i) ∨ t = .worker ∧ e = .work := by
  cases e with
  | call i =>
      rw [callOf] at h
      cases hpc : d.clients i with
      | locked call => cases call <;> (rw [hpc] at h; cases h; exact .inl ⟨i, rfl, rfl⟩)
      | idle | adjusted | unlocking => rw [hpc] at h; cases h
  | work =>
      rw [callOf] at h
      cases hpc : d.worker with
      | service n =>
          rw [hpc] at h
          cases h
          exact .inr ⟨rfl, rfl⟩
      | entry | loop n | waiting n | blocked wakeup | woken | leaving | returned =>
          rw [hpc] at h
          cases h
  | lock | signal | unlock | wake | stop | stopSignal => cases h

/-- Behind the stop the worker pays for its calls. -/
theorem Outcome.worker_pending (h : d.Outcome P e d') (hrun : d.running = false) :
    (d.callOf e).toList.countP (·.1 = .worker) + d'.worker.pending ≤ d.worker.pending := by
  cases h with
  | blocked hcall => rw [hcall]; exact (Nat.zero_add _).le
  | press hpc | poll hpc => rw [callOf, hpc]; exact (Nat.zero_add _).le
  | signal | stopSignal =>
      change 0 + d.worker.signaled.pending ≤ _
      rw [WorkerPc.pending_signaled, Nat.zero_add]
  | acquire hpc => rcases hpc with hpc | hpc <;> (rw [callOf, hpc]; exact Nat.zero_le _)
  | test hpc => rw [callOf, hpc, hrun]; exact Nat.zero_le _
  | pass hpc =>
      rw [callOf, hpc]
      dsimp only
      split_ifs <;> exact le_refl 1
  | wait hpc | leave hpc => rw [callOf, hpc]; exact Nat.zero_le _
  | wake hpc => exact Nat.zero_le _
  | lock | unlock | stop => exact (Nat.zero_add _).le

end Daemon

namespace Process

variable {sys : DaemonSystem O S} {P : Provider W Ctx} {p : Process W Ctx O S}

/-- Outside the lock `main` makes no call. -/
theorem calls_main (h : ¬ p.main.Locked) : p.calls .main = [] := by
  unfold calls drives
  cases hm : p.main with
  | serving sock pc =>
      cases pc with
      | locked client => exact absurd (hm ▸ trivial) h
      | lock call client =>
          dsimp only
          split_ifs <;> rfl
      | bind | listen | afterBind | loop | select | accept | authorize client | read client
      | closeClient client => rfl
  | closing sock bound pc =>
      cases pc with
      | signalWorker =>
          dsimp only
          split_ifs <;> rfl
      | clearRunning | stopInput | joinInput | joinWorker | closeSocket | unlinkSocket
      | closeController | netCleanup | exited => rfl
  | createWorker | startInput | unlinkStale | openSocket => rfl

/-- Behind the stop `main` comes to no call but the one it is on its way to. -/
theorem pending_serve {sock : S} {pc : ServePc S} (hm : p.main = .serving sock pc)
    (hpc : ∀ client, pc ≠ .locked client) (hrun : p.daemon.running = false) (x y : ClientPc) :
    (p.serve sys P sock pc).main.pending x ≤ (MainPc.serving sock pc).pending y := by
  unfold serve cleanup
  cases pc with
  | locked client => exact absurd rfl (hpc client)
  | select | accept | authorize client | read client | lock call client =>
      exact MainPc.pending_le x _
  | bind | listen =>
      dsimp only
      split <;> exact Nat.zero_le _
  | loop =>
      rw [hrun]
      exact Nat.zero_le _
  | afterBind | closeClient client => exact Nat.zero_le _

/-- Under the lock `main` pays for its call. -/
theorem pending_locked {sock : S} {client : Option S} (hm : p.main = .serving sock (.locked client))
    (hne : p.daemon.clients .acceptLoop ≠ .idle) :
    (p.calls .main).countP (·.1 = .client .acceptLoop) +
      (p.mainStep sys P).main.pending ((p.mainStep sys P).daemon.clients .acceptLoop) ≤
    (p.daemon.clients .acceptLoop).pending := by
  have hcalls : (p.calls .main).countP (·.1 = .client .acceptLoop) ≤
      (p.daemon.clients .acceptLoop).pending := by
    unfold calls drives
    rw [hm]
    cases hpc : p.daemon.clients .acceptLoop with
    | idle => exact absurd hpc hne
    | locked call => exact List.countP_le_length.trans Option.length_toList_le
    | adjusted | unlocking => exact le_refl 0
  have hafter : (p.mainStep sys P).main.pending
      ((p.mainStep sys P).daemon.clients .acceptLoop) = 0 := by
    obtain ⟨e, he, -, -⟩ := ClientPc.exists_event .acceptLoop hne
    unfold mainStep serve
    rw [hm]
    dsimp only
    rw [he]
    split_ifs
    · cases client <;> rfl
    · change ((p.daemon.step P e).clients .acceptLoop).pending = 0
      rw [Daemon.clients_step_event he, ClientPc.pending_next]
  omega

/-- Behind the stop `main` pays for its calls. -/
theorem pending_mainStep (h : p.Inv P) (hrun : p.daemon.running = false) :
    (p.calls .main).countP (·.1 = .client .acceptLoop) +
      (p.mainStep sys P).main.pending ((p.mainStep sys P).daemon.clients .acceptLoop) ≤
    p.main.pending (p.daemon.clients .acceptLoop) := by
  have hother (hl : ¬ p.main.Locked) {n : Nat} (hle : (p.mainStep sys P).main.pending
      ((p.mainStep sys P).daemon.clients .acceptLoop) ≤ n) :
      (p.calls .main).countP (·.1 = .client .acceptLoop) +
        (p.mainStep sys P).main.pending ((p.mainStep sys P).daemon.clients .acceptLoop) ≤ n := by
    rw [calls_main hl]
    exact (Nat.zero_add _).trans_le hle
  cases hm : p.main with
  | serving sock pc =>
      by_cases hpc : ∃ client, pc = .locked client
      · obtain ⟨client, rfl⟩ := hpc
        exact pending_locked hm (h.locked.mpr (hm ▸ trivial))
      · have hno : ∀ client, pc ≠ .locked client := fun client he ↦ hpc ⟨client, he⟩
        refine hother ?_ ?_
        · rw [hm]
          cases pc with
          | locked client => exact absurd rfl (hno client)
          | bind | listen | afterBind | loop | select | accept | authorize _ | read _ | lock _ _
          | closeClient _ => exact id
        · unfold mainStep
          rw [hm]
          exact pending_serve hm hno hrun _ _
  | createWorker | startInput | openSocket =>
      refine hother (hm ▸ id) ?_
      unfold mainStep cleanup
      rw [hm]
      dsimp only
      split <;> exact Nat.zero_le _
  | unlinkStale =>
      refine hother (hm ▸ id) ?_
      unfold mainStep
      rw [hm]
      exact Nat.zero_le _
  | closing sock bound pc =>
      refine hother (hm ▸ id) ?_
      unfold mainStep
      rw [hm]
      unfold close
      cases pc with
      | joinInput | signalWorker | joinWorker =>
          dsimp only
          split_ifs <;> first | exact Nat.zero_le _ | rw [hm]
      | exited => rw [hm]
      | clearRunning | stopInput | closeSocket | unlinkSocket | closeController | netCleanup =>
          exact Nat.zero_le _

/-- Every other thread leaves `main` its statement under the lock. -/
theorem drives_client {e : ProcessEvent} (he : e ≠ .main) {e' : DaemonEvent}
    (hd : p.drives e = some e') : e'.client ≠ some .acceptLoop := by
  unfold drives at hd
  cases e with
  | main => exact absurd rfl he
  | key =>
      dsimp only at hd
      by_cases hidle : p.daemon.clients .keyCapture = .idle
      · rw [hidle] at hd
        cases hd
      · obtain ⟨e, he, hclient, -⟩ := ClientPc.exists_event .keyCapture hidle
        cases he.symm.trans hd
        rw [hclient]
        nofun
  | work | wake | press =>
      dsimp only at hd
      split_ifs at hd
      cases hd
      nofun
  | keyReturn => cases hd
  | interrupt =>
      cases hd
      nofun

theorem clients_step {e : ProcessEvent} (he : e ≠ .main) :
    (p.step sys P e).daemon.clients .acceptLoop = p.daemon.clients .acceptLoop := by
  rw [daemon_step e fun h _ ↦ he h]
  cases hd : p.drives e with
  | none => rfl
  | some e' => exact (p.daemon.outcome_step P e').clients_eq (drives_client he hd)

/-- Every other thread makes no call of `main`. -/
theorem thread_of_calls {e : ProcessEvent} (he : e ≠ .main) :
    ∀ call ∈ p.calls e, call.1 ≠ .client .acceptLoop := by
  rintro ⟨t, op⟩ hcall rfl
  obtain ⟨e', hd, hcall⟩ := Option.bind_eq_some_iff.mp (Option.mem_toList.mp hcall)
  obtain ⟨i, hi, hi'⟩ | ⟨hw, -⟩ := Daemon.callOf_thread hcall
  · cases hi
    exact drives_client he hd hi'
  · cases hw

/-- Every other thread leaves `main` its calls. -/
theorem pending_step (h : p.Inv P) (hrun : p.daemon.running = false) (e : ProcessEvent) :
    (p.calls e).countP (·.1 = .client .acceptLoop) +
      (p.step sys P e).main.pending ((p.step sys P e).daemon.clients .acceptLoop) ≤
    p.main.pending (p.daemon.clients .acceptLoop) := by
  by_cases he : e = .main
  · subst he
    exact pending_mainStep h hrun
  · have hnone : (p.calls e).countP (·.1 = .client .acceptLoop) = 0 :=
      List.countP_eq_zero.mpr fun call hcall ↦ by simpa using thread_of_calls he call hcall
    rw [main_step he, clients_step he, hnone, Nat.zero_add]

/-- Behind the stop the worker pays for its calls, whoever steps. -/
theorem worker_pending_step (hrun : p.daemon.running = false) (e : ProcessEvent) :
    (p.calls e).countP (·.1 = .worker) + (p.step sys P e).daemon.worker.pending ≤
      p.daemon.worker.pending := by
  by_cases hclose : e = .main ∧ p.AtClose
  · obtain ⟨rfl, sock, bound, hm⟩ := hclose
    rw [calls_main (hm ▸ id)]
    change 0 + (p.mainStep sys P).daemon.worker.pending ≤ _
    unfold mainStep
    rw [hm]
    exact (Nat.zero_add _).le
  · rw [daemon_step e fun he hat ↦ hclose ⟨he, hat⟩]
    unfold calls
    cases p.drives e with
    | none => exact (Nat.zero_add _).le
    | some e => exact (p.daemon.outcome_step P e).worker_pending hrun

end Process

/-- **It stops soon.**  Once a signal or the end of `main` has cleared `running`, the worker comes
to at most one more pass over the displays and `main` to at most one more press or poll, however
the threads are scheduled and whatever comes; only keys may still press, until `input_stop`. -/
theorem stops_soon (sys : DaemonSystem O S) (impl : Implementation W R H) {o : O} {w : W}
    {p : Process W H O S} (h : startup sys (ddcProvider impl) o w = .ok p)
    (events later : List ProcessEvent)
    (hstop : (p.run sys (ddcProvider impl) events).daemon.running = false) :
    let calls := trace (Process.step sys (ddcProvider impl)) Process.calls
      (p.run sys (ddcProvider impl) events) later
    calls.countP (·.1 = .worker) ≤ 1 ∧ calls.countP (·.1 = .client .acceptLoop) ≤ 1 := by
  have hinv : (p.run sys (ddcProvider impl) events).Inv (ddcProvider impl) :=
    (throughout_of_invariant (Process.inv_startup h) (fun _ e hp ↦ hp.step e) (fun _ hp ↦ hp)
      events).last
  have hstep (q : Process W H O S) (e : ProcessEvent)
      (hq : q.Inv (ddcProvider impl) ∧ q.daemon.running = false) :
      (q.step sys (ddcProvider impl) e).Inv (ddcProvider impl) ∧
        (q.step sys (ddcProvider impl) e).daemon.running = false :=
    ⟨hq.1.step e, Process.running_step hq.2 e⟩
  constructor
  · have hpay := countP_trace_le (fun q ↦ q.daemon.worker.pending) hstep
      (fun q e hq ↦ Process.worker_pending_step hq.2 e) ⟨hinv, hstop⟩ later
    exact hpay.trans (WorkerPc.pending_le _)
  · have hpay := countP_trace_le (fun q ↦ q.main.pending (q.daemon.clients .acceptLoop)) hstep
      (fun q e hq ↦ Process.pending_step hq.1 hq.2 e) ⟨hinv, hstop⟩ later
    exact hpay.trans (MainPc.pending_le _ _)

/-- The worker is about to pass over the displays and `main` waits with a press when a signal
comes. -/
def stoppedAtPress : List ProcessEvent :=
  List.replicate 12 .main ++ [.work, .work, .interrupt]

/-- The worker waits, `main` presses, the worker returns. -/
def restOfPress : List ProcessEvent :=
  [.work, .work] ++ List.replicate 4 .main ++ [.wake, .work, .work, .work]

theorem stops_soon_visited :
    let calls := trace (Process.step visited (ddcProvider oneDisplay)) Process.calls
      (visitedTwice.run visited (ddcProvider oneDisplay) stoppedAtPress) restOfPress
    calls.countP (·.1 = .worker) ≤ 1 ∧ calls.countP (·.1 = .client .acceptLoop) ≤ 1 := by
  have hstop : (visitedTwice.run visited (ddcProvider oneDisplay)
      stoppedAtPress).daemon.running = false := by decide +kernel
  exact stops_soon visited oneDisplay startup_visitedTwice stoppedAtPress restOfPress hstop

/-- There both come to one. -/
example : trace (Process.step visited (ddcProvider oneDisplay)) Process.calls
    (visitedTwice.run visited (ddcProvider oneDisplay) stoppedAtPress) restOfPress =
    [(.worker, .service), (.client .acceptLoop, .adjust (1 / 16))] := by
  decide +kernel

end Dimmit
