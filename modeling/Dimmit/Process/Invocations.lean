import Dimmit.Client
import Dimmit.Process.Levels

/-!
# From the command line to the displays

The clients of the daemon are invocations of `dimmit` under its two names.  Each sends its word and
a newline, of which the daemon's one `recv` gets the first or both.  So the displays show what was
invoked, by the names alone.
-/

namespace Dimmit

open Delimited

variable {W R H O S V T : Type}

/-- The press that an invocation asks for by its name. -/
def invocationPress (argv0 : List UInt8) : List ℚ :=
  if Invokes dimmitUp (after isSeparator argv0) then [1 / 16]
  else if Invokes dimmitDown (after isSeparator argv0) then [-1 / 16]
  else []

/-- What the daemon gets of an invocation: the first of what it sends, or all of it. -/
def Hears (client : ClientSystem V T) (argv0 : List UInt8) (data : Option (List UInt8)) : Prop :=
  ∃ v n, 0 < n ∧ data = some ((sends (main client.logged 1 argv0 (v, [])).2.2).take n).flatten

/-- What was heard, in order. -/
def heardOf (log : List (SocketCall S)) : List (Option (List UInt8)) :=
  log.filterMap fun
    | .received _ data => some data
    | .opened _ | .bound _ _ _ | .listened _ _ | .selected _ _ | .accepted _ _ | .judged _ _
    | .closed _ | .unlinked _ => none

/-- The press that the daemon makes of what it heard. -/
def heardPress (data : Option (List UInt8)) : List ℚ :=
  if commandOf data ≠ 0 then [Process.socketFraction (commandOf data)] else []

theorem flatMap_press (log : List (SocketCall S)) :
    log.flatMap SocketCall.press = (heardOf log).flatMap heardPress := by
  induction log with
  | nil => rfl
  | cons call log ih =>
      rw [List.flatMap_cons, ih]
      cases call with
      | received client data => rfl
      | opened | bound | listened | selected | accepted | judged | closed | unlinked => rfl

/-- What an invocation sends. -/
theorem sends_main {client : ClientSystem V T} (hs : client.Succeeds) (argv0 : List UInt8) (v : V) :
    sends (main client.logged 1 argv0 (v, [])).2.2 =
      ((message (programName argv0)).map fun msg ↦ [msg, [newline]]).getD [] := by
  cases hmsg : message (programName argv0) with
  | none =>
      rw [main_eq_report _ hmsg]
      rfl
  | some msg =>
      have hword : msg.getLast? ≠ some newline := by
        unfold message at hmsg
        split_ifs at hmsg <;> cases hmsg <;> decide
      rw [main_eq_deliver _ hmsg, (deliver_logged hs hword (v, [])).2]
      rfl

/-- The daemon understands the word, with its newline or without. -/
theorem heardPress_of_word {word : List UInt8} (hword : word = upWord ∨ word = downWord) {n : Nat}
    (hn : 0 < n) : heardPress (some (([word, [newline]].take n).flatten)) =
      if word = upWord then [1 / 16] else [-1 / 16] := by
  obtain ⟨n, rfl⟩ := Nat.exists_eq_succ_of_ne_zero hn.ne'
  rcases n with _ | n
  · rcases hword with rfl | rfl <;> decide +kernel
  · rw [List.take_of_length_le (by simp)]
    rcases hword with rfl | rfl <;> decide +kernel

/-- **An invocation is understood** by the daemon, whether it gets the word alone or all of it. -/
theorem Hears.press {client : ClientSystem V T} (hs : client.Succeeds) {argv0 : List UInt8}
    {data : Option (List UInt8)} (h : Hears client argv0 data) :
    heardPress data = invocationPress argv0 := by
  obtain ⟨v, n, hn, rfl⟩ := h
  rw [sends_main hs, message, invocationPress]
  simp only [programName_eq_dimmitUp_iff, programName_eq_dimmitDown_iff]
  split_ifs
  · exact heardPress_of_word (.inl rfl) hn
  · exact heardPress_of_word (.inr rfl) hn
  · rw [Option.map_none, Option.getD_none, List.take_nil]
    rfl

theorem press_of_hears {client : ClientSystem V T} (hs : client.Succeeds)
    {invocations : List (List UInt8)} {heard : List (Option (List UInt8))}
    (h : List.Forall₂ (Hears client) invocations heard) :
    heard.flatMap heardPress = invocations.flatMap invocationPress := by
  induction h with
  | nil => rfl
  | cons h _ ih => rw [List.flatMap_cons, List.flatMap_cons, h.press hs, ih]

/-- **What was invoked is what is shown.**  Without key capture, over an obedient backend, where the
clients that were heard are invocations of `dimmit` whose calls succeed: when the worker waits and
`main` is not on its way to a press, every external display shows the level of the eager display
after one press for each invocation, up or down by its name, in the order they were heard. -/
theorem displays_show_invocations (sys : DaemonSystem O S)
    (hkeys : ∀ o, (sys.inputStart o).1 = false) {client : ClientSystem V T}
    (hs : client.Succeeds) {impl : Implementation W R H} {device : H → R}
    {register : W → R → NonTableVcpValue} {Up : W → Prop} {dlist : DisplayInfoList R}
    (h : Obedient impl device register Up dlist) {o : O} {w : W} (hw : Up w)
    {p : Process W H (O × List (SocketCall S)) S}
    (hstart : startup sys.logged (ddcProvider impl) (o, []) w = .ok p)
    (events : List ProcessEvent) (hrest : (p.run sys.logged (ddcProvider impl) events).AtRest)
    (hidle : (p.run sys.logged (ddcProvider impl) events).inFlight = [])
    {invocations : List (List UInt8)}
    (hheard : List.Forall₂ (Hears client) invocations
      (heardOf (p.run sys.logged (ddcProvider impl) events).os.2)) :
    ∀ info ∈ dlist.info, info.isBuiltin = false →
      (register (p.run sys.logged (ddcProvider impl) events).daemon.session.world info.dref).shown =
        eagerLevels (register w) (invocations.flatMap invocationPress) info.dref := by
  intro info hinfo hext
  have hpresses := press_of_hears hs hheard
  rw [← flatMap_press] at hpresses
  rw [← hpresses]
  exact Process.shown_commands sys hkeys h hw hstart hrest hidle hinfo hext

/-- A client whose calls succeed. -/
def calledOnce : ClientSystem Unit Unit where
  getenv _ _ := none
  sockDefault := bytes ['/', 's']
  sunPathSize := 108
  netStartup v := (true, v)
  socket v := (some (), v)
  connect _ _ v := (true, v)
  send _ _ v := (true, v)
  netClose _ v := v
  netCleanup v := v
  report _ v := v
  perror _ v := v

theorem succeeds_calledOnce : calledOnce.Succeeds :=
  ⟨fun _ ↦ rfl, fun _ ↦ nofun, fun _ _ _ ↦ rfl, fun _ _ _ ↦ rfl⟩

/-- The first visitor is `dimmit-up`, of which all was received. -/
theorem displays_show_invocations_visited :
    let st := (visitedMock.run visited.logged (ddcProvider mockBackend)
      servedAtRest).daemon.session.world.1
    (mockValue (ensureDefault st) 0).shown = 56 ∧ (mockValue (ensureDefault st) 1).shown = 200 := by
  intro st
  have hheard : List.Forall₂ (Hears calledOnce) [dimmitUp] (heardOf
      (visitedMock.run visited.logged (ddcProvider mockBackend) servedAtRest).os.2) := by
    have hlog : heardOf
        (visitedMock.run visited.logged (ddcProvider mockBackend) servedAtRest).os.2 =
          [some (upWord ++ [newline])] := by decide +kernel
    rw [hlog]
    exact .cons ⟨(), 2, by decide, by decide +kernel⟩ .nil
  have hshown := displays_show_invocations visited (fun _ ↦ rfl) succeeds_calledOnce
    (obedient_inMemoryMock (fun _ ↦ rfl) mockedDisplays (by decide)) ready_mockedDisplays
    startup_visitedMock servedAtRest atRest_visitedMock (by decide +kernel) hheard
  exact ⟨(hshown (mockInfo 0) (by decide +kernel) rfl).trans (by decide +kernel),
    (hshown (mockInfo 1) (by decide +kernel) rfl).trans (by decide +kernel)⟩

end Dimmit
