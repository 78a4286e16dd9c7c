import Dimmit.DisplayController.Controllable
import Dimmit.Process.Calls

/-!
# What the process writes to

The controllability rule over runs of the process: its threads press, poll and write in any order,
and still every write goes through a handle that answered a reading right after it was opened.
-/

namespace Dimmit

variable {W R H O S : Type}

/-! ## The rule for the process -/

theorem Session.Controls.closed {impl : Implementation W R H} {I : W → Prop}
    {Controllable : W → H → Prop} (h : Controllability impl I Controllable) {s : Session W H}
    (hs : s.Controls I Controllable) : (s.closed (ddcProvider impl)).Controls I Controllable := by
  obtain ⟨_ | c, w, results⟩ := s
  · exact hs
  · refine ⟨h.keeps.ddcProvider.brightnessFree c.sources hs.fact, hs.parallel, ?_⟩
    intro c' hc' src hsrc
    exact (h.stays src.ctx).ddcProvider.brightnessFree c.sources (hs.controllable c' hc' src hsrc)

/-- The controllability rule, over runs of the process. -/
theorem Process.controls_run {sys : DaemonSystem O S} {impl : Implementation W R H} {I : W → Prop}
    {Controllable : W → H → Prop} (h : Controllability impl I Controllable) {o : O} {w : W}
    (hw : I w) {p : Process W H O S} (hstart : startup sys (ddcProvider impl) o w = .ok p)
    (events : List ProcessEvent) :
    (p.run sys (ddcProvider impl) events).daemon.session.Controls I Controllable := by
  have hfollows := follows_run hstart events
  have hcontrols := h.controls_run (h.controls_start hw)
    ((Trace.trace (Process.step sys (ddcProvider impl)) calls p events).map Prod.snd)
  by_cases hp : (p.run sys (ddcProvider impl) events).main.Past .closeController
  · rw [hfollows.closed hp]
    exact hcontrols.closed h
  · rw [hfollows.opened hp]
    exact hcontrols

/-! ## The log of a backend -/

/-- The entry is a write. -/
def DdcEvent.IsWrite : DdcEvent R H → Prop
  | wrote _ _ _ _ _ => True
  | listed _ | freed _ | opened _ _ | closed _ | read _ _ _ => False

/-- What every entry keeps that is no write, every call keeps that is none. -/
theorem Implementation.keeps_logged (impl : Implementation W R H)
    {J : List (DdcEvent R H) → Prop}
    (hJ : ∀ log e, ¬ e.IsWrite → J log → J (log ++ [e])) :
    impl.logged.Keeps fun w ↦ J w.2 where
  getDisplayInfoList h := hJ _ (.listed _) id h
  freeDisplayInfoList list h := hJ _ (.freed list) id h
  openDisplay r h := hJ _ (.opened r _) id h
  closeDisplay d h := hJ _ (.closed d) id h
  getNonTableVcpValue d feature h := hJ _ (.read d feature _) id h
  calloc h := h

theorem Implementation.log_opened {impl : Implementation W R H} {w w' : Logged W R H} {r : R}
    {answer : Option H} (h : impl.logged.openDisplay r w = (answer, w')) :
    w'.2 = w.2 ++ [.opened r answer] := by
  cases h
  rfl

theorem Implementation.log_read {impl : Implementation W R H} {w w' : Logged W R H} {h : H}
    {feature : UInt8} {answer : Option NonTableVcpValue}
    (hread : impl.logged.getNonTableVcpValue h feature w = (answer, w')) :
    w'.2 = w.2 ++ [.read h feature answer] := by
  cases hread
  rfl

/-- The call after one that opened the handle was a reading of its brightness, and answered. -/
def Probed (log : List (DdcEvent R H)) (h : H) : Prop :=
  ∃ r v, [.opened r (some h), .read h vcpBrightness (some v)] <:+: log

theorem Probed.append {log : List (DdcEvent R H)} {h : H} (hlog : Probed log h)
    (more : List (DdcEvent R H)) : Probed (log ++ more) h := by
  obtain ⟨r, v, hinfix⟩ := hlog
  exact ⟨r, v, hinfix.trans (List.prefix_append log more).isInfix⟩

/-- Every write is one of brightness, through a handle that was probed before. -/
def WritesProbed (log : List (DdcEvent R H)) : Prop :=
  ∀ before h feature hi lo ok later, log = before ++ .wrote h feature hi lo ok :: later →
    feature = vcpBrightness ∧ Probed before h

/-- Only the last entry of a longer log is new. -/
theorem WritesProbed.concat {log : List (DdcEvent R H)} (hlog : WritesProbed log)
    {e : DdcEvent R H} (he : ∀ h feature hi lo ok, e = .wrote h feature hi lo ok →
      feature = vcpBrightness ∧ Probed log h) : WritesProbed (log ++ [e]) := by
  intro before h feature hi lo ok later hsplit
  rcases List.eq_nil_or_concat later with rfl | ⟨later, last, rfl⟩
  · obtain ⟨rfl, hlast⟩ := List.append_inj' hsplit rfl
    exact he h feature hi lo ok (List.singleton_inj.mp hlast)
  · rw [List.concat_eq_append, ← List.cons_append, ← List.append_assoc] at hsplit
    obtain ⟨hfront, -⟩ := List.append_inj' hsplit rfl
    exact hlog before h feature hi lo ok later hfront

/-- In the log of any backend, a reading that is answered is what makes a write a proper one. -/
theorem controllability_logged (impl : Implementation W R H) :
    Controllability impl.logged (fun w ↦ WritesProbed w.2) (fun w h ↦ Probed w.2 h) where
  keeps := impl.keeps_logged fun log e he hlog ↦ hlog.concat fun _ _ _ _ _ hwrite ↦ by
    rw [hwrite] at he
    exact absurd trivial he
  probed {w w' w'' r h v} _ hopen hread := by
    refine ⟨r, v, w.2, [], ?_⟩
    rw [Implementation.log_read hread, Implementation.log_opened hopen, List.append_nil,
      List.append_assoc]
    rfl
  stays h := impl.keeps_logged (J := fun log ↦ Probed log h) fun _ e _ hlog ↦ hlog.append [e]
  wrote {w} h hi lo hw hprobed := hw.concat fun _ _ _ _ _ hwrite ↦ by
    cases hwrite
    exact ⟨rfl, hprobed⟩
  stays_wrote h' hi lo hprobed := hprobed.append _

/-- **Only what has answered is written to.**  Over any backend, in every run of the process:
whatever its threads press and poll and write in between, every write is one of brightness, through
a handle whose reading was answered by the call right after the one that opened it. -/
theorem writes_follow_answers (sys : DaemonSystem O S) (impl : Implementation W R H) {o : O} {w : W}
    {p : Process (Logged W R H) H O S}
    (h : startup sys (ddcProvider impl.logged) o (w, []) = .ok p) (events : List ProcessEvent) :
    WritesProbed (p.run sys (ddcProvider impl.logged) events).daemon.session.world.2 :=
  (Process.controls_run (controllability_logged impl)
    (fun _ _ _ _ _ _ _ hnil ↦ absurd hnil (by simp)) h events).fact

/-- The write that follows the first visitor's command. -/
theorem writes_follow_answers_visited :
    ∃ before later, (visitedLogged.run visited (ddcProvider oneDisplay.logged)
        (List.replicate 16 .main ++ List.replicate 8 .work)).daemon.session.world.2 =
      before ++ .wrote ⟨0, 0⟩ vcpBrightness 0 56 true :: later ∧ Probed before ⟨0, 0⟩ := by
  let list : DisplayInfoList Nat := ⟨[⟨0, 0x10ac, 0xa0c4, false⟩], by decide⟩
  have hprobed := writes_follow_answers visited oneDisplay startup_visitedLogged
    (List.replicate 16 .main ++ List.replicate 8 .work)
  have hlog : (visitedLogged.run visited (ddcProvider oneDisplay.logged)
      (List.replicate 16 .main ++ List.replicate 8 .work)).daemon.session.world.2 =
      [.listed (some list), .opened 0 (some ⟨0, 0⟩),
        .read ⟨0, 0⟩ vcpBrightness (some ⟨0, 100, 0, 50⟩), .freed list,
        .read ⟨0, 0⟩ vcpBrightness (some ⟨0, 100, 0, 50⟩)] ++
      .wrote ⟨0, 0⟩ vcpBrightness 0 56 true :: [] := by decide +kernel
  exact ⟨_, _, hlog, (hprobed _ _ _ _ _ _ _ hlog).2⟩

end Dimmit
