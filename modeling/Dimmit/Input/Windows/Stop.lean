import Dimmit.Input.Windows
import Dimmit.Lib.Rounds

/-!
# Stopping the key capture of Windows

`input_stop` joins the thread, so it returns only if the thread does.  "If posting to the thread ever
fails, fall back to closing the window, so shutdown can't wedge on the join": it wedges exactly if
both posts fail while the thread is in its loop.
-/

namespace Dimmit

open Rounds Run Trace

/-- The statements of the thread until it returns, where so many messages are in its queue. -/
def WindowsInputPc.rank (queued : Nat) : WindowsInputPc → Nat
  | dispatch adjusts => adjusts.length + queued + 3
  | getMessage => queued + 2
  | leaving | cleanup => 1
  | absent | begin | createWindow | register | destroyWindow | denyStart | signalDenied | allowStart
  | signalStarted | returned => 0

namespace WindowsInput

/-- The thread has left its loop, or something is there for which it will. -/
def Told (s : WindowsInput) : Prop := s.posted ≠ [] ∨ s.quitPosted = true ∨ ¬ s.thread.Looping

/-- The thread and the caller are scheduled, and their calls succeed. -/
def helpers : List WindowsInputEvent := [.caller true, .thread true]

/-- A key that is pressed meanwhile takes its time. -/
def cost : WindowsInputEvent → Nat
  | .input a => (handleRawInput true a).length + 2
  | .start | .stop | .caller _ | .thread _ => 0

def rank (s : WindowsInput) : Nat :=
  (if s.caller = .stopped then 0 else 1) + s.thread.rank s.posted.length

/-- The caller joins a thread that was told. -/
structure Ending (s : WindowsInput) : Prop where
  inv : s.Inv
  caller : s.caller = .joinThread ∧ s.Told ∨ s.caller = .stopped

variable {s : WindowsInput}

theorem Inv.signalled_of_join (h : s.Inv) (hjoin : s.caller = .joinThread) :
    s.thread.Signalled := by
  have hcaller := h.caller
  unfold CallerInv at hcaller
  rw [hjoin] at hcaller
  exact hcaller.1.thread

theorem caller_threadStep (s : WindowsInput) (ok : Bool) : (s.threadStep ok).caller = s.caller := by
  unfold threadStep takeMessage
  split <;> try rfl
  all_goals (repeat' split) <;> rfl

/-- Once `input_stop` has returned nothing moves. -/
theorem Inv.step_stopped (h : s.Inv) (hstopped : s.caller = .stopped) (e : WindowsInputEvent) :
    s.step e = s := by
  have hgone := h.caller
  unfold CallerInv at hgone
  rw [hstopped] at hgone
  unfold WindowsInput.step
  cases e with
  | start =>
      dsimp only
      rw [hstopped]
      exact if_neg nofun
  | stop =>
      dsimp only
      rw [hstopped]
  | caller ok =>
      dsimp only
      unfold WindowsInput.callerStep
      rw [hstopped]
  | thread ok =>
      dsimp only
      unfold WindowsInput.threadStep
      rcases hgone with ht | ht <;> rw [ht]
  | input a =>
      dsimp only
      refine if_neg fun hready ↦ ?_
      rw [hready.1] at hgone
      exact hgone.elim nofun nofun

/-! ## A thread that was told -/

theorem Told.takeMessage (hinv : s.Inv) (ht : s.thread = .getMessage) (h : s.Told) :
    s.takeMessage.Told := by
  have hthread := hinv.thread
  unfold ThreadInv at hthread
  rw [ht] at hthread
  unfold WindowsInput.takeMessage
  cases hposted : s.posted with
  | nil =>
      dsimp only
      split_ifs
      · exact .inr (.inr id)
      · exact h
  | cons message posted =>
      cases message with
      | quit => exact .inr (.inr id)
      | close =>
          dsimp only
          split_ifs with hwindow
          · exact .inr (.inl rfl)
          · exact .inr (.inl (hthread.2.2.2 (Bool.eq_false_of_not_eq_true hwindow)))

theorem Told.threadStep (hinv : s.Inv) (hsig : s.thread.Signalled) (h : s.Told) (ok : Bool) :
    (s.threadStep ok).Told := by
  unfold WindowsInput.threadStep
  cases ht : s.thread with
  | absent | begin | createWindow | register | destroyWindow | denyStart | signalDenied | allowStart
  | signalStarted =>
      rw [ht] at hsig
      exact hsig.elim
  | leaving => exact .inr (.inr id)
  | getMessage =>
      cases ok with
      | true => exact h.takeMessage hinv ht
      | false => exact .inr (.inr id)
  | dispatch adjusts =>
      have hqueue : s.posted ≠ [] ∨ s.quitPosted = true := by
        rcases h with h | h | h
        · exact .inl h
        · exact .inr h
        · rw [ht] at h
          exact absurd trivial h
      cases adjusts with
      | nil => exact hqueue.imp_right .inl
      | cons fraction adjusts => exact hqueue.imp_right .inl
  | cleanup =>
      dsimp only
      split_ifs <;> exact .inr (.inr id)
  | returned => exact h

theorem Ending.step (h : s.Ending) (e : WindowsInputEvent) : (s.step e).Ending := by
  refine ⟨h.inv.step e, ?_⟩
  rcases h.caller with ⟨hjoin, htold⟩ | hstopped
  · have hsig := h.inv.signalled_of_join hjoin
    unfold WindowsInput.step
    cases e with
    | start =>
        dsimp only
        rw [hjoin, if_neg nofun]
        exact .inl ⟨hjoin, htold⟩
    | stop =>
        dsimp only
        rw [hjoin]
        exact .inl ⟨hjoin, htold⟩
    | caller ok =>
        dsimp only
        unfold WindowsInput.callerStep
        rw [hjoin]
        dsimp only
        split_ifs
        · exact .inr rfl
        · exact .inl ⟨hjoin, htold⟩
    | thread ok =>
        exact .inl ⟨(caller_threadStep s ok).trans hjoin, htold.threadStep h.inv hsig ok⟩
    | input a =>
        dsimp only
        split_ifs with hready
        · refine .inl ⟨hjoin, ?_⟩
          rcases htold with htold | htold | htold
          · exact .inl htold
          · exact .inr (.inl htold)
          · rw [hready.1] at htold
            exact absurd trivial htold
        · exact .inl ⟨hjoin, htold⟩
  · rw [h.inv.step_stopped hstopped]
    exact .inr hstopped

/-! ## It returns -/

theorem Told.rank_takeMessage (ht : s.thread = .getMessage) (h : s.Told) :
    s.takeMessage.thread.rank s.takeMessage.posted.length < s.posted.length + 2 := by
  unfold WindowsInput.takeMessage
  cases hposted : s.posted with
  | nil =>
      have hquit : s.quitPosted = true := by
        rcases h with h | h | h
        · exact absurd hposted h
        · exact h
        · rw [ht] at h
          exact absurd trivial h
      dsimp only
      rw [if_pos hquit]
      exact Nat.one_lt_two
  | cons message posted =>
      cases message with
      | quit => exact Nat.lt_add_left _ Nat.one_lt_two
      | close =>
          dsimp only
          split_ifs <;> rw [ht] <;> exact Nat.lt_succ_self _

/-- Each statement of a thread that was told brings it closer to its end. -/
theorem Told.rank_threadStep (hsig : s.thread.Signalled) (hlive : s.thread ≠ .returned)
    (h : s.Told) (ok : Bool) :
    (s.threadStep ok).thread.rank (s.threadStep ok).posted.length <
      s.thread.rank s.posted.length := by
  unfold WindowsInput.threadStep
  cases ht : s.thread with
  | absent | begin | createWindow | register | destroyWindow | denyStart | signalDenied | allowStart
  | signalStarted =>
      rw [ht] at hsig
      exact hsig.elim
  | leaving => exact Nat.zero_lt_one
  | getMessage =>
      cases ok with
      | true => exact h.rank_takeMessage ht
      | false => exact Nat.lt_add_left _ Nat.one_lt_two
  | dispatch adjusts =>
      cases adjusts with
      | nil =>
          simp only [WindowsInputPc.rank]
          omega
      | cons fraction adjusts =>
          dsimp only
          split_ifs
          all_goals
            simp only [WindowsInputPc.rank, List.length_cons]
            omega
  | cleanup =>
      dsimp only
      split_ifs <;> exact Nat.zero_lt_one
  | returned => exact absurd ht hlive

theorem Ending.rank_step (h : s.Ending) (e : WindowsInputEvent) :
    s.step e = s ∨ (s.step e).rank < s.rank + cost e := by
  rcases h.caller with ⟨hjoin, htold⟩ | hstopped
  · have hsig := h.inv.signalled_of_join hjoin
    unfold WindowsInput.step
    cases e with
    | start =>
        dsimp only
        rw [hjoin]
        exact .inl (if_neg nofun)
    | stop =>
        dsimp only
        rw [hjoin]
        exact .inl rfl
    | caller ok =>
        dsimp only
        unfold WindowsInput.callerStep
        rw [hjoin]
        dsimp only
        split_ifs
        · refine .inr ?_
          unfold rank
          rw [hjoin, if_pos rfl, if_neg nofun]
          dsimp only
          omega
        · exact .inl rfl
    | thread ok =>
        by_cases hreturned : s.thread = .returned
        · refine .inl ?_
          unfold WindowsInput.threadStep
          rw [hreturned]
        · refine .inr ?_
          unfold rank
          rw [caller_threadStep]
          exact Nat.add_lt_add_left (htold.rank_threadStep hsig hreturned ok) _
    | input a =>
        dsimp only
        split_ifs with hready
        · refine .inr ?_
          unfold rank
          rw [hready.1]
          simp only [WindowsInputPc.rank, cost]
          omega
        · exact .inl rfl
  · exact .inl (h.inv.step_stopped hstopped e)

theorem Ending.exists_moves (h : s.Ending) (hstopped : s.caller ≠ .stopped) :
    ∃ e ∈ helpers, s.step e ≠ s := by
  obtain ⟨hjoin, htold⟩ := h.caller.resolve_right hstopped
  have hsig := h.inv.signalled_of_join hjoin
  by_cases hreturned : s.thread = .returned
  · refine ⟨.caller true, List.mem_cons_self, fun heq ↦ hstopped ?_⟩
    have hcaller := congrArg WindowsInput.caller heq
    unfold WindowsInput.step WindowsInput.callerStep at hcaller
    rw [hjoin] at hcaller
    dsimp only at hcaller
    rw [if_pos hreturned] at hcaller
    cases hcaller
  · refine ⟨.thread true, List.mem_cons_of_mem _ List.mem_cons_self, fun heq ↦ ?_⟩
    have hrank := htold.rank_threadStep hsig hreturned true
    have heq : s.threadStep true = s := heq
    rw [heq] at hrank
    exact lt_irrefl _ hrank

theorem ranked : Ranked step helpers Ending (fun s ↦ s.caller = .stopped) rank cost where
  keeps _ e h := h.step e
  stable _ e h hstopped := by
    rw [h.inv.step_stopped hstopped]
    exact hstopped
  moves _ e h := h.rank_step e
  helps _ h hstopped := h.exists_moves hstopped

/-! ## It does not -/

/-- The caller joins a thread that was not told. -/
structure Wedged (s : WindowsInput) : Prop where
  caller : s.caller = .joinThread
  thread : s.thread.Looping
  posted : s.posted = []
  quitPosted : s.quitPosted = false

theorem wedged_of_not_told (hjoin : s.caller = .joinThread) (h : ¬ s.Told) : s.Wedged where
  caller := hjoin
  thread := by_contra fun hno ↦ h (.inr (.inr hno))
  posted := by_contra fun hno ↦ h (.inl hno)
  quitPosted := Bool.eq_false_of_not_eq_true fun hquit ↦ h (.inr (.inl hquit))

theorem Wedged.not_told (h : s.Wedged) : ¬ s.Told := by
  rintro (hno | hno | hno)
  · exact hno h.posted
  · exact absurd (h.quitPosted.symm.trans hno) (by decide)
  · exact hno h.thread

/-- Only `GetMessage` gets the thread out of its loop. -/
theorem Wedged.step (h : s.Wedged) (e : WindowsInputEvent) :
    (s.step e).Wedged ∨ e = .thread false ∧ ¬ (s.step e).thread.Looping := by
  obtain ⟨onAdjust, threadStarted, hwnd, threadId, ready, startOk, window, posted, quitPosted,
    caller, thread⟩ := s
  obtain ⟨rfl, hthread, rfl, rfl⟩ := h
  cases thread with
  | absent | begin | createWindow | register | destroyWindow | denyStart | signalDenied | leaving
  | allowStart | signalStarted | cleanup | returned => exact hthread.elim
  | getMessage =>
      cases e with
      | start | stop | caller ok => exact .inl ⟨rfl, trivial, rfl, rfl⟩
      | thread ok =>
          cases ok with
          | true => exact .inl ⟨rfl, trivial, rfl, rfl⟩
          | false => exact .inr ⟨rfl, id⟩
      | input a => cases window <;> exact .inl ⟨rfl, trivial, rfl, rfl⟩
  | dispatch adjusts =>
      cases e with
      | start | stop | caller ok | input a => exact .inl ⟨rfl, trivial, rfl, rfl⟩
      | thread ok =>
          cases adjusts with
          | nil => exact .inl ⟨rfl, trivial, rfl, rfl⟩
          | cons fraction adjusts => cases onAdjust <;> exact .inl ⟨rfl, trivial, rfl, rfl⟩

theorem Wedged.run (h : s.Wedged) {events : List WindowsInputEvent}
    (hevents : ∀ e ∈ events, e ≠ .thread false) : (s.run events).Wedged := by
  have halong : Along WindowsInput.step (fun _ e ↦ e ≠ .thread false) s events :=
    along_forall.mpr hevents
  exact (halong.throughout (I := Wedged) h
    (fun _ e hs he ↦ (hs.step e).resolve_right fun hfails ↦ he hfails.1) fun _ hs ↦ hs).last

/-! ## Which it is -/

/-- The answers to the two calls that post a message. -/
def postAnswers (s : WindowsInput) : WindowsInputEvent → List Bool
  | .caller ok =>
    match s.caller with
    | .postQuit | .postClose => [ok]
    | _ => []
  | .start | .stop | .thread _ | .input _ => []

/-- What the answers so far say. -/
def Answered (s : WindowsInput) (answers : List Bool) : Prop :=
  match s.caller with
  | .joinThread => s.Told ↔ true ∈ answers ∨ ¬ s.thread.Looping
  -- the first message is not taken by a thread that has returned
  | .postClose => true ∈ answers → s.thread = .returned
  | .stopped => True
  | _ => answers = []

theorem Inv.window_of_looping (h : s.Inv) (hloop : s.thread.Looping) :
    s.hwnd = true ∧ (s.window = false → s.quitPosted = true) := by
  have hthread := h.thread
  unfold ThreadInv at hthread
  cases ht : s.thread with
  | getMessage | dispatch adjusts =>
      rw [ht] at hthread
      exact ⟨hthread.2.1, hthread.2.2.2⟩
  | absent | begin | createWindow | register | destroyWindow | denyStart | signalDenied | leaving
  | allowStart | signalStarted | cleanup | returned =>
      rw [ht] at hloop
      exact hloop.elim

/-- A thread that has not returned takes the first message. -/
theorem Inv.answered_postQuit (h : s.Inv) (hpost : s.caller = .postQuit) (ok : Bool) :
    (s.step (.caller ok)).Answered [ok] := by
  have hcaller := h.caller
  unfold CallerInv at hcaller
  rw [hpost] at hcaller
  unfold WindowsInput.step WindowsInput.callerStep
  rw [hpost]
  dsimp only
  split_ifs with htaken
  · refine iff_of_true (.inl (List.append_ne_nil_of_right_ne_nil _ (List.cons_ne_nil _ _)))
      (.inl ?_)
    rw [htaken.2.1]
    exact List.mem_cons_self
  · intro hok
    by_contra hlive
    exact htaken ⟨hcaller.1.threadId, (List.mem_singleton.mp hok).symm, hlive⟩

/-- While the thread is in its loop its window is there to be closed. -/
theorem Inv.answered_postClose (h : s.Inv) (hpost : s.caller = .postClose) {answers : List Bool}
    (hanswered : s.Answered answers) (ok : Bool) :
    (s.step (.caller ok)).Answered (answers ++ [ok]) := by
  obtain ⟨hposted, hquit⟩ := h.quiet (by rw [hpost]; nofun) (by rw [hpost]; nofun)
  unfold Answered at hanswered
  rw [hpost] at hanswered
  unfold WindowsInput.step WindowsInput.callerStep
  rw [hpost]
  dsimp only
  split_ifs with hopen
  · refine iff_of_true (.inl (List.append_ne_nil_of_right_ne_nil _ (List.cons_ne_nil _ _)))
      (.inl ?_)
    rw [hopen.2.1]
    exact List.mem_append_right _ List.mem_cons_self
  · constructor
    · rintro (hno | hno | hleft)
      · exact absurd hposted hno
      · exact absurd (hquit.symm.trans hno) (by decide)
      · exact .inr hleft
    · rintro (hok | hleft)
      · refine .inr (.inr fun hloop ↦ ?_)
        have hlive : s.thread ≠ .returned := by
          intro ht
          rw [ht] at hloop
          exact hloop
        obtain ⟨hhwnd, hwindow⟩ := h.window_of_looping hloop
        rcases List.mem_append.mp hok with hbefore | hnow
        · exact hlive (hanswered hbefore)
        · refine hopen ⟨hhwnd, (List.mem_singleton.mp hnow).symm, ?_⟩
          refine Bool.eq_true_of_not_eq_false fun hno ↦ ?_
          exact absurd (hquit.symm.trans (hwindow hno)) (by decide)
      · exact .inr (.inr hleft)

theorem Inv.not_looping_step (h : s.Inv) (hjoin : s.caller = .joinThread)
    (hleft : ¬ s.thread.Looping) (e : WindowsInputEvent) : ¬ (s.step e).thread.Looping := by
  have hsig := h.signalled_of_join hjoin
  obtain ⟨onAdjust, threadStarted, hwnd, threadId, ready, startOk, window, posted, quitPosted,
    caller, thread⟩ := s
  obtain rfl : caller = .joinThread := hjoin
  cases thread with
  | absent | begin | createWindow | register | destroyWindow | denyStart | signalDenied | allowStart
  | signalStarted => exact hsig.elim
  | getMessage | dispatch adjusts => exact absurd trivial hleft
  | leaving => cases e <;> exact id
  | cleanup =>
      cases e with
      | thread ok => cases hwnd <;> exact id
      | start | stop | caller ok | input a => exact id
  | returned => cases e <;> exact id

theorem Inv.answered_join (h : s.Inv) (hjoin : s.caller = .joinThread) {answers : List Bool}
    (hanswered : s.Told ↔ true ∈ answers ∨ ¬ s.thread.Looping) (e : WindowsInputEvent) :
    (s.step e).Answered answers := by
  unfold Answered
  by_cases htold : s.Told
  · rcases (Ending.step ⟨h, .inl ⟨hjoin, htold⟩⟩ e).caller with ⟨hjoin', htold'⟩ | hstopped
    · rw [hjoin']
      exact iff_of_true htold'
        ((hanswered.mp htold).imp_right fun hleft ↦ h.not_looping_step hjoin hleft e)
    · rw [hstopped]
      trivial
  · have hwedged := wedged_of_not_told hjoin htold
    rcases hwedged.step e with hwedged' | ⟨rfl, hleft⟩
    · rw [hwedged'.caller]
      refine iff_of_false hwedged'.not_told ?_
      rintro (hok | hleft)
      · exact htold (hanswered.mpr (.inl hok))
      · exact hleft hwedged'.thread
    · rw [show (s.step (.thread false)).caller = .joinThread from
        (caller_threadStep s false).trans hjoin]
      exact iff_of_true (.inr (.inr hleft)) (.inr hleft)

theorem answered_nil (hclose : s.caller ≠ .postClose) (hjoin : s.caller ≠ .joinThread) :
    s.Answered [] := by
  unfold Answered
  split
  case h_1 hc => exact absurd hc hjoin
  case h_2 hc => exact absurd hc hclose
  case h_3 => trivial
  case h_4 => rfl

/-- Only the caller moves the caller, once `input_stop` is at work. -/
theorem caller_step {c : WindowsCallerPc} (hc : s.caller = c) (hidle : c ≠ .idle)
    (hstarted : ∀ ok, c ≠ .started ok) {e : WindowsInputEvent} (he : ∀ ok, e ≠ .caller ok) :
    (s.step e).caller = c := by
  unfold WindowsInput.step
  cases e with
  | start =>
      dsimp only
      rw [if_neg fun h ↦ hidle (hc.symm.trans h)]
      exact hc
  | stop =>
      dsimp only
      split
      case h_1 h => exact absurd (hc.symm.trans h) hidle
      case h_2 ok h => exact absurd (hc.symm.trans h) (hstarted ok)
      case h_3 => exact hc
  | caller ok => exact absurd rfl (he ok)
  | thread ok => exact (caller_threadStep s ok).trans hc
  | input a =>
      dsimp only
      split_ifs <;> exact hc

theorem thread_step_returned (hreturned : s.thread = .returned) {e : WindowsInputEvent}
    (he : ∀ ok, e ≠ .caller ok) : (s.step e).thread = .returned := by
  unfold WindowsInput.step
  cases e with
  | start =>
      dsimp only
      split_ifs <;> exact hreturned
  | stop =>
      dsimp only
      split <;> exact hreturned
  | caller ok => exact absurd rfl (he ok)
  | thread ok =>
      dsimp only
      unfold threadStep
      rw [hreturned]
      exact hreturned
  | input a =>
      dsimp only
      split_ifs with hready
      · exact absurd (hready.1.symm.trans hreturned) nofun
      · exact hreturned

/-- A caller that is not at a post yet does not come past it. -/
theorem answered_before (hquit : s.caller ≠ .postQuit) (hclose : s.caller ≠ .postClose)
    (hjoin : s.caller ≠ .joinThread) (e : WindowsInputEvent) : (s.step e).Answered [] := by
  unfold WindowsInput.step
  cases e with
  | start =>
      dsimp only
      split_ifs
      · exact answered_nil nofun nofun
      · exact answered_nil hclose hjoin
  | stop =>
      dsimp only
      split
      case h_1 | h_2 => exact answered_nil nofun nofun
      case h_3 => exact answered_nil hclose hjoin
  | caller ok =>
      dsimp only
      unfold callerStep
      cases hc : s.caller with
      | postQuit => exact absurd hc hquit
      | postClose => exact absurd hc hclose
      | joinThread => exact absurd hc hjoin
      | idle | started ok | stopped => exact answered_nil hclose hjoin
      | closeReady => exact answered_nil nofun nofun
      | createEvent | createThread =>
          dsimp only
          split_ifs <;> exact answered_nil nofun nofun
      | wait | joinFailed =>
          dsimp only
          split_ifs
          · exact answered_nil nofun nofun
          · exact answered_nil hclose hjoin
      | testStartOk | testStarted =>
          dsimp only
          split_ifs <;> exact answered_nil nofun nofun
  | thread ok =>
      have hstays := caller_threadStep s ok
      exact answered_nil (hstays.trans_ne hclose) (hstays.trans_ne hjoin)
  | input a =>
      dsimp only
      split_ifs <;> exact answered_nil hclose hjoin

theorem Inv.answered_step (h : s.Inv) {answers : List Bool} (hanswered : s.Answered answers)
    (e : WindowsInputEvent) : (s.step e).Answered (answers ++ s.postAnswers e) := by
  have hbefore := hanswered
  unfold Answered at hanswered
  unfold postAnswers
  cases hc : s.caller with
  | joinThread =>
      rw [hc] at hanswered
      have hjoin := h.answered_join hc hanswered e
      cases e <;> exact (List.append_nil answers).symm ▸ hjoin
  | postClose =>
      rw [hc] at hanswered
      obtain ⟨ok, rfl⟩ | hother := em (∃ ok, e = .caller ok)
      · exact h.answered_postClose hc hbefore ok
      · have he : ∀ ok, e ≠ .caller ok := not_exists.mp hother
        have hstays : (s.step e).Answered answers := by
          unfold Answered
          rw [caller_step hc nofun nofun he]
          exact fun hok ↦ thread_step_returned (hanswered hok) he
        cases e <;> first | exact absurd rfl (he _) | exact (List.append_nil answers).symm ▸ hstays
  | postQuit =>
      rw [hc] at hanswered
      obtain rfl : answers = [] := hanswered
      obtain ⟨ok, rfl⟩ | hother := em (∃ ok, e = .caller ok)
      · exact h.answered_postQuit hc ok
      · have he : ∀ ok, e ≠ .caller ok := not_exists.mp hother
        have hstays := caller_step hc nofun nofun he
        have hnone := answered_nil (hstays.trans_ne nofun) (hstays.trans_ne nofun)
        cases e <;> first | exact absurd rfl (he _) | exact hnone
  | stopped =>
      rw [h.step_stopped hc]
      unfold Answered
      rw [hc]
      trivial
  | idle | createEvent | createThread | wait | closeReady | testStartOk | joinFailed | started ok
  | testStarted =>
      rw [hc] at hanswered
      obtain rfl : answers = [] := hanswered
      have hnone := answered_before (hc.trans_ne nofun) (hc.trans_ne nofun) (hc.trans_ne nofun) e
      cases e <;> exact hnone

end WindowsInput

open WindowsInput in
/-- **When `input_stop` returns on Windows.**  The thread has been told to return if one of the two
calls that post a message has succeeded, or if it is not in its loop.  Then more rounds than its
rank, and those that the keys pressed meanwhile take, see `input_stop` return.  Otherwise it never
does, unless `GetMessage` fails. -/
theorem windows_stop_returns (events : List WindowsInputEvent) :
    let s := fresh.run events
    s.caller = .joinThread →
      let told := true ∈ trace WindowsInput.step postAnswers fresh events ∨ ¬ s.thread.Looping
      (told → ∀ rounds : List (List WindowsInputEvent), (∀ r ∈ rounds, Round helpers r) →
        s.rank + total cost rounds.flatten < rounds.length →
          (s.run rounds.flatten).caller = .stopped) ∧
      (¬ told → ∀ more, (∀ e ∈ more, e ≠ .thread false) →
        (s.run more).caller = .joinThread) := by
  intro s hjoin told
  have hstep (s : WindowsInput) (answers : List Bool) (e : WindowsInputEvent)
      (h : s.Inv ∧ s.Answered answers) :
      (s.step e).Inv ∧ (s.step e).Answered (answers ++ s.postAnswers e) :=
    ⟨h.1.step e, h.1.answered_step h.2 e⟩
  have hstart : fresh.Inv ∧ fresh.Answered [] := ⟨inv_fresh, rfl⟩
  obtain ⟨hinv, hanswered⟩ := rel_history (R := fun s answers ↦ Inv s ∧ Answered s answers) hstep
    hstart events
  have htold : s.Told ↔ told := by
    unfold Answered at hanswered
    rw [show (List.foldl WindowsInput.step fresh events).caller = .joinThread from hjoin]
      at hanswered
    exact hanswered
  rw [← htold]
  refine ⟨fun htold rounds hrounds hlen ↦ ?_, fun htold more hmore ↦ ?_⟩
  · exact ranked.done_of_rounds hrounds ⟨hinv, .inl ⟨hjoin, htold⟩⟩ hlen
  · exact ((wedged_of_not_told hjoin htold).run hmore).caller

/-- A capture that has started, and the first statement of `input_stop`. -/
def visitedStop : List WindowsInputEvent :=
  [.start, .caller true, .caller true] ++ List.replicate 5 (.thread true) ++
    List.replicate 3 (.caller true) ++ [.stop, .caller true]

open WindowsInput in
/-- The first message is refused and the second is taken; both are refused. -/
theorem windows_stop_returns_visited :
    ((fresh.run (visitedStop ++ [.caller false, .caller true])).run
        (List.replicate 6 helpers).flatten).caller = .stopped ∧
      ((fresh.run (visitedStop ++ [.caller false, .caller false])).run
        (List.replicate 6 helpers).flatten).caller = .joinThread := by
  have hround : ∀ r ∈ List.replicate 6 helpers, Round helpers r := by
    intro r hr
    rw [List.eq_of_mem_replicate hr]
    exact fun _ h ↦ h
  constructor
  · have htold : true ∈ trace WindowsInput.step postAnswers fresh
        (visitedStop ++ [.caller false, .caller true]) := by decide +kernel
    exact (windows_stop_returns _ (by decide +kernel)).1 (.inl htold) _ hround (by decide +kernel)
  · have hnot : ¬ (true ∈ trace WindowsInput.step postAnswers fresh
        (visitedStop ++ [.caller false, .caller false]) ∨ ¬ (fresh.run
          (visitedStop ++ [.caller false, .caller false])).thread.Looping) := by decide +kernel
    refine (windows_stop_returns _ (by decide +kernel)).2 hnot _ fun e he ↦ ?_
    rintro rfl
    simp [helpers] at he

end Dimmit
