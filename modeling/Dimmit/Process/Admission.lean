import Dimmit.Process.Sockets

/-!
# Who is let in

`main` has a `Door`: a client that is accepted is asked who it is, an authorized one is heard, and
every one is sent away before the next is accepted.  That the log of `main` keeps to the door says
that nobody is heard who is not authorized; that the presses of `main` are those of the clients that
were heard, in their order, says that none is lost, repeated or made up on the way to the displays.
-/

namespace Dimmit

open Run Trace

variable {W R H Ctx O S : Type}

/-! ## The door -/

/-- Who is at the door. -/
inductive Door (S : Type) where
  | vacant
  /-- Accepted and not yet judged. -/
  | asked (client : S)
  /-- Authorized and not yet heard. -/
  | admitted (client : S)
  /-- Denied, or heard: all that is left is to send it away. -/
  | leaving (client : S)
deriving DecidableEq, Repr

namespace Door

/-- What a call does at the door. -/
def step (door : Door S) : SocketCall S → Door S
  | .accepted _ client => asked client
  | .judged client authorized => if authorized then admitted client else leaving client
  | .received client _ => leaving client
  | .closed _ => vacant
  | .opened _ | .bound _ _ _ | .listened _ _ | .selected _ _ | .unlinked _ => door

/-- What may be called: a client is judged when it is at the door, and heard when it is admitted. -/
def Permitted : Door S → SocketCall S → Prop
  | vacant, .accepted _ _ => True
  | asked client, .judged client' _ => client' = client
  | admitted client, .received client' _ => client' = client
  | leaving client, .closed client' => client' = client
  | vacant, .opened _ | vacant, .bound _ _ _ | vacant, .listened _ _ | vacant, .selected _ _
  | vacant, .unlinked _ | vacant, .closed _ => True
  | _, _ => False

/-- Nobody is admitted but by a judgement. -/
theorem judged_of_step {door : Door S} {call : SocketCall S} {client : S}
    (h : door.Permitted call) (hs : door.step call = admitted client) :
    call = .judged client true := by
  cases call with
  | judged client' authorized =>
      cases authorized with
      | true =>
          cases hs
          rfl
      | false => cases hs
  | accepted | received | closed => cases hs
  | opened | bound | listened | selected | unlinked =>
      obtain rfl : door = admitted client := hs
      exact h.elim

/-- Only who is admitted is heard. -/
theorem Permitted.admitted {door : Door S} {client : S} {data : Option (List UInt8)}
    (h : door.Permitted (.received client data)) : door = .admitted client := by
  cases door with
  | admitted client' => exact congrArg Door.admitted (Eq.symm h)
  | vacant | asked | leaving => exact h.elim

/-- **Only who was judged authorized is heard**, right after that. -/
theorem judged_of_received {log later : List (SocketCall S)} {client : S}
    {data : Option (List UInt8)}
    (h : Along step Permitted vacant (log ++ .received client data :: later)) :
    ∃ before, log = before ++ [.judged client true] := by
  obtain ⟨hlog, hreceived, -⟩ := along_append.mp h
  have hdoor := hreceived.admitted
  rcases List.eq_nil_or_concat' log with rfl | ⟨before, call, rfl⟩
  · cases hdoor
  · rw [List.foldl_append] at hdoor
    obtain ⟨-, hcall, -⟩ := along_append.mp hlog
    exact ⟨before, congrArg (fun call ↦ before ++ [call]) (judged_of_step hcall hdoor)⟩

end Door

/-- Who is at the door of `main`. -/
def MainPc.door : MainPc S → Door S
  | serving _ (.authorize client) => .asked client
  | serving _ (.read client) => .admitted client
  | serving _ (.lock _ (some client)) | serving _ (.locked (some client))
  | serving _ (.closeClient client) => .leaving client
  | serving _ (.lock _ none) | serving _ (.locked none) => .vacant
  | serving _ .bind | serving _ .listen | serving _ .afterBind | serving _ .loop
  | serving _ .select | serving _ .accept => .vacant
  | createWorker | startInput | unlinkStale | openSocket | closing _ _ _ => .vacant

/-- **Along the road `main` keeps its door.** -/
theorem Road.door {name path : List UInt8} {m m' : MainPc S} {calls : List (SocketCall S)}
    (h : Road name path m calls m') :
    Along Door.step Door.Permitted m.door calls ∧ calls.foldl Door.step m.door = m'.door := by
  cases h with
  | rest | createWorker | noWorker | startInput | noSocket | afterBind | loop | stopped
  | interrupted | acceptFails | close => exact ⟨trivial, rfl⟩
  | unlinkStale | openSocket | bind | bindFails | listen | listenFails | ready | idle | accept =>
      exact ⟨⟨trivial, trivial⟩, rfl⟩
  | authorize | deny | command | ignore | closeClient => exact ⟨⟨rfl, trivial⟩, rfl⟩
  | lock sock call client => cases client <;> exact ⟨trivial, rfl⟩
  | unlock sock client => cases client <;> exact ⟨trivial, rfl⟩
  | closeSocket sock bound =>
      cases sock with
      | none => exact ⟨trivial, rfl⟩
      | some sock => exact ⟨⟨trivial, trivial⟩, rfl⟩
  | unlinkSocket sock bound =>
      cases bound with
      | false => exact ⟨trivial, rfl⟩
      | true => exact ⟨⟨trivial, trivial⟩, rfl⟩

/-! ## The presses of `main` -/

/-- What a press presses. -/
def Call.press : Call → List ℚ
  | adjustFraction fraction => [fraction]
  | reconcile => []

/-- The press a client is about to make under the lock. -/
def ClientPc.press : ClientPc → List ℚ
  | locked call => call.press
  | idle | adjusted | unlocking => []

/-- The press `main` is on its way to, when as a client it is at `pc`. -/
def MainPc.press (pc : ClientPc) : MainPc S → List ℚ
  | serving _ (.lock call _) => call.press
  | serving _ (.locked _) => pc.press
  | serving _ .bind | serving _ .listen | serving _ .afterBind | serving _ .loop
  | serving _ .select | serving _ .accept | serving _ (.authorize _) | serving _ (.read _)
  | serving _ (.closeClient _) => []
  | createWorker | startInput | unlinkStale | openSocket | closing _ _ _ => []

/-- The presses that `thread` makes among these calls. -/
def pressesOf (thread : Thread) (calls : List (Thread × Op)) : List ℚ :=
  calls.flatMap fun call ↦
    match call.2 with
    | .adjust fraction => if call.1 = thread then [fraction] else []
    | .service | .reconcile => []

theorem pressesOf_eq_nil {thread : Thread} {calls : List (Thread × Op)}
    (h : ∀ call ∈ calls, call.1 ≠ thread) : pressesOf thread calls = [] := by
  refine List.flatMap_eq_nil_iff.mpr fun call hcall ↦ ?_
  cases hop : call.2 with
  | adjust fraction => exact if_neg (h call hcall)
  | service | reconcile => rfl

theorem pressesOf_append (thread : Thread) (calls calls' : List (Thread × Op)) :
    pressesOf thread (calls ++ calls') = pressesOf thread calls ++ pressesOf thread calls' :=
  List.flatMap_append

/-- The press a heard client asks for. -/
def SocketCall.press : SocketCall S → List ℚ
  | received _ data =>
    if commandOf data ≠ 0 then [Process.socketFraction (commandOf data)] else []
  | opened _ | bound _ _ _ | listened _ _ | selected _ _ | accepted _ _ | judged _ _ | closed _
  | unlinked _ => []

theorem Road.nil_of_lock {name path : List UInt8} {sock : S} {call : Call} {client : Option S}
    {m : MainPc S} {calls : List (SocketCall S)}
    (h : Road name path (.serving sock (.lock call client)) calls m) : calls = [] := by
  cases h <;> rfl

theorem Road.nil_of_locked {name path : List UInt8} {sock : S} {client : Option S}
    {m : MainPc S} {calls : List (SocketCall S)}
    (h : Road name path (.serving sock (.locked client)) calls m) : calls = [] := by
  cases h <;> rfl

/-- Apart from its way to the lock and under it, the presses `main` comes to are those it hears. -/
theorem Road.press {name path : List UInt8} {m m' : MainPc S} {calls : List (SocketCall S)}
    (h : Road name path m calls m')
    (hlock : ∀ sock call client, m ≠ .serving sock (.lock call client))
    (hlocked : ∀ sock client, m ≠ .serving sock (.locked client)) (x y : ClientPc) :
    m'.press x = m.press y ++ calls.flatMap SocketCall.press := by
  cases h with
  | rest =>
      cases m with
      | serving sock pc =>
          cases pc with
          | lock call client => exact absurd rfl (hlock sock call client)
          | locked client => exact absurd rfl (hlocked sock client)
          | bind | listen | afterBind | loop | select | accept | authorize | read
          | closeClient => rfl
      | createWorker | startInput | unlinkStale | openSocket | closing => rfl
  | createWorker | noWorker | startInput | unlinkStale | openSocket | noSocket | bind | bindFails
  | listen | listenFails | afterBind | loop | stopped | ready | idle | accept | interrupted
  | acceptFails | authorize | deny | closeClient | close => rfl
  | command sock client hne =>
      simp [SocketCall.press, MainPc.press, Call.press, hne]
  | ignore sock client heq => simp [SocketCall.press, MainPc.press, heq]
  | lock sock call client => exact absurd rfl (hlock sock call client)
  | unlock sock client => exact absurd rfl (hlocked sock client)
  | closeSocket sock bound => cases sock <;> rfl
  | unlinkSocket sock bound => cases bound <;> rfl

namespace Process

variable {sys : DaemonSystem O S} {P : Provider W Ctx}
  {p : Process W Ctx (O × List (SocketCall S)) S}

/-- The press `main` is on its way to. -/
def inFlight (p : Process W Ctx (O × List (SocketCall S)) S) : List ℚ :=
  p.main.press (p.daemon.clients .acceptLoop)

/-- Under the lock `main` makes its press. -/
theorem inFlight_locked {sock : S} {client : Option S}
    (hm : p.main = .serving sock (.locked client)) (hne : p.daemon.clients .acceptLoop ≠ .idle) :
    pressesOf (.client .acceptLoop) (p.calls .main) ++ (p.mainStep sys.logged P).inFlight =
      p.inFlight := by
  have hafter : (p.mainStep sys.logged P).inFlight = [] := by
    obtain ⟨e, he, -, -⟩ := ClientPc.exists_event .acceptLoop hne
    unfold inFlight mainStep serve
    rw [hm]
    dsimp only
    rw [he]
    split_ifs
    · cases client <;> rfl
    · change ((p.daemon.step P e).clients .acceptLoop).press = []
      rw [Daemon.clients_step_event he]
      cases p.daemon.clients .acceptLoop with
      | locked call => cases call <;> rfl
      | idle | adjusted | unlocking => rfl
  rw [hafter, List.append_nil]
  unfold inFlight calls drives
  rw [hm]
  cases hpc : p.daemon.clients .acceptLoop with
  | idle => exact absurd hpc hne
  | locked call =>
      dsimp only [ClientPc.event, Option.bind_some, Daemon.callOf]
      rw [hpc]
      cases call <;> rfl
  | adjusted | unlocking => rfl

/-- On its way to the lock it keeps it. -/
theorem inFlight_lock (h : p.Inv P) {sock : S} {call : Call} {client : Option S}
    (hm : p.main = .serving sock (.lock call client)) :
    (p.mainStep sys.logged P).inFlight = p.inFlight := by
  have hidle : p.daemon.clients .acceptLoop = .idle := not_not.mp (mt h.locked.mp (hm ▸ id))
  unfold mainStep serve
  rw [hm]
  dsimp only
  split_ifs with hfree
  · unfold inFlight
    rw [hm]
    change ((p.daemon.step P (.lock .acceptLoop call)).clients .acceptLoop).press = call.press
    rw [Daemon.clients_step_lock hfree hidle]
    rfl
  · rfl

/-- **A step of the process loses no press and makes none up.** -/
theorem inFlight_step (sys : DaemonSystem O S) (h : p.Inv P) (e : ProcessEvent) :
    ∃ calls, (p.step sys.logged P e).os.2 = p.os.2 ++ calls ∧
      pressesOf (.client .acceptLoop) (p.calls e) ++ (p.step sys.logged P e).inFlight =
        p.inFlight ++ calls.flatMap SocketCall.press := by
  by_cases he : e = .main
  · subst he
    obtain ⟨calls, hos, hroad⟩ := goes_mainStep sys P p
    refine ⟨calls, hos, ?_⟩
    change _ ++ (p.mainStep sys.logged P).inFlight = _
    by_cases hlock : ∃ sock call client, p.main = .serving sock (.lock call client)
    · obtain ⟨sock, call, client, hm⟩ := hlock
      have hnone : calls = [] := (hm ▸ hroad).nil_of_lock
      rw [calls_main (hm ▸ id), inFlight_lock h hm, hnone]
      exact (List.append_nil _).symm
    by_cases hlocked : ∃ sock client, p.main = .serving sock (.locked client)
    · obtain ⟨sock, client, hm⟩ := hlocked
      have hnone : calls = [] := (hm ▸ hroad).nil_of_locked
      rw [inFlight_locked hm (h.locked.mpr (hm ▸ trivial)), hnone]
      exact (List.append_nil _).symm
    · have hnot : ¬ p.main.Locked := by
        intro hl
        cases hm : p.main with
        | serving sock pc =>
            rw [hm] at hl
            cases pc with
            | locked client => exact hlocked ⟨sock, client, hm⟩
            | bind | listen | afterBind | loop | select | accept | authorize | read | lock
            | closeClient => exact hl
        | createWorker | startInput | unlinkStale | openSocket | closing =>
            rw [hm] at hl
            exact hl
      rw [calls_main hnot]
      exact hroad.press (fun sock call client hm ↦ hlock ⟨sock, call, client, hm⟩)
        (fun sock client hm ↦ hlocked ⟨sock, client, hm⟩) _ _
  · refine ⟨[], ?_, ?_⟩
    · rw [os_step he, List.append_nil]
    · unfold inFlight
      rw [pressesOf_eq_nil (thread_of_calls he), main_step he, clients_step he]
      exact (List.append_nil _).symm

/-- What the clients that were heard have asked for, `main` has pressed or is on its way to. -/
structure Served (impl : Implementation W R H) (p : Process W H (O × List (SocketCall S)) S)
    (made : List (Thread × Op)) : Prop where
  inv : p.Inv (ddcProvider impl)
  door : Along Door.step Door.Permitted .vacant p.os.2 ∧
    p.os.2.foldl Door.step .vacant = p.main.door
  presses : pressesOf (.client .acceptLoop) made ++ p.inFlight = p.os.2.flatMap SocketCall.press

/-- Who was heard had just been judged authorized. -/
theorem Served.judged_of_received {impl : Implementation W R H}
    {p : Process W H (O × List (SocketCall S)) S} {made : List (Thread × Op)}
    (h : p.Served impl made) {log later : List (SocketCall S)} {client : S}
    {data : Option (List UInt8)} (hlog : p.os.2 = log ++ .received client data :: later) :
    ∃ before, log = before ++ [.judged client true] := by
  have halong := h.door.1
  rw [hlog] at halong
  exact Door.judged_of_received halong

theorem Served.step {impl : Implementation W R H} {p : Process W H (O × List (SocketCall S)) S}
    {made : List (Thread × Op)} (h : p.Served impl made) (sys : DaemonSystem O S)
    (e : ProcessEvent) :
    (p.step sys.logged (ddcProvider impl) e).Served impl (made ++ p.calls e) := by
  refine ⟨h.inv.step e, ?_, ?_⟩
  · obtain ⟨calls, hos, hroad⟩ := goes_step sys (ddcProvider impl) p e
    obtain ⟨halong, hdoor⟩ := hroad.door
    rw [hos, along_append, List.foldl_append, h.door.2]
    exact ⟨⟨h.door.1, halong⟩, hdoor⟩
  · obtain ⟨calls, hos, hpress⟩ := inFlight_step sys h.inv e
    rw [hos, pressesOf_append, List.append_assoc, hpress, ← List.append_assoc, h.presses,
      List.flatMap_append]

theorem served_run {impl : Implementation W R H} {p : Process W H (O × List (SocketCall S)) S}
    {o : O} {w : W} (h : startup sys.logged (ddcProvider impl) (o, []) w = .ok p)
    (events : List ProcessEvent) :
    (p.run sys.logged (ddcProvider impl) events).Served impl
      (trace (Process.step sys.logged (ddcProvider impl)) calls p events) := by
  have hstart : p.Served impl [] := by
    obtain ⟨hos, hm⟩ := startup_logged h
    refine ⟨inv_startup h, ?_, ?_⟩
    · rw [hos, hm]
      exact ⟨trivial, rfl⟩
    · unfold inFlight
      rw [hos, hm]
      rfl
  exact rel_history (fun _ _ e hs ↦ hs.step sys e) hstart events

end Process

/-- **Only authorized clients press**, and each press is theirs.  In every run, over any backend and
any system, in whatever order the threads take their steps: `main` keeps its door, so a client is
heard only right after it was judged authorized; and the presses `main` has made, with the one it is
on its way to, are those that the heard clients have asked for, in their order. -/
theorem only_authorized_press (sys : DaemonSystem O S) (impl : Implementation W R H) {o : O} {w : W}
    {p : Process W H (O × List (SocketCall S)) S}
    (h : startup sys.logged (ddcProvider impl) (o, []) w = .ok p) (events : List ProcessEvent) :
    let q := p.run sys.logged (ddcProvider impl) events
    let calls := trace (Process.step sys.logged (ddcProvider impl)) Process.calls p events
    Along Door.step Door.Permitted .vacant q.os.2 ∧
    (∀ log client data later, q.os.2 = log ++ .received client data :: later →
      ∃ before, log = before ++ [.judged client true]) ∧
    pressesOf (.client .acceptLoop) calls ++ q.inFlight = q.os.2.flatMap SocketCall.press := by
  intro q calls
  have hserved : q.Served impl calls := Process.served_run h events
  exact ⟨hserved.door.1, fun _ _ _ _ hlog ↦ hserved.judged_of_received hlog, hserved.presses⟩

/-- The first visitor presses, the second is sent away. -/
theorem only_authorized_press_visited :
    (visitedServer.run visited.logged (ddcProvider oneDisplay)
      (List.replicate 24 .main)).os.2.flatMap SocketCall.press = [1 / 16] :=
  (only_authorized_press visited oneDisplay startup_visitedServer
    (List.replicate 24 .main)).2.2.symm.trans (by decide +kernel)

end Dimmit
