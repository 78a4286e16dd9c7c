import Dimmit.Process.Calls

/-!
# The sockets of the process

`main` opens a socket, binds it to a file and has one client at a time.  Its calls about sockets are
read as a ledger, like the calls about the handles of a backend.

`Road` is the graph of `main`: from which statement it can get to which one, and what it calls
about sockets on the way.  What holds along every edge holds of every run.
-/

namespace Dimmit

open Ledger Run Trace

variable {W R H Ctx O S : Type}

/-- A call about a socket or a socket file, with its answer. -/
inductive SocketCall (S : Type) where
  /-- `socket` has returned one. -/
  | opened (sock : S)
  | bound (sock : S) (path : List UInt8) (ok : Bool)
  | listened (sock : S) (ok : Bool)
  | selected (sock : S) (ready : Bool)
  /-- `accept` has returned one. -/
  | accepted (sock client : S)
  | judged (client : S) (authorized : Bool)
  | received (client : S) (data : Option (List UInt8))
  | closed (sock : S)
  | unlinked (path : List UInt8)
deriving DecidableEq, Repr

/-- The same system, writing them to a log. -/
def DaemonSystem.logged (sys : DaemonSystem O S) : DaemonSystem (O × List (SocketCall S)) S where
  getenv name s := sys.getenv name s.1
  sockDefault := sys.sockDefault
  sunPathSize := sys.sunPathSize
  loggingInit s := ((sys.loggingInit s.1).1, (sys.loggingInit s.1).2, s.2)
  netStartup s := ((sys.netStartup s.1).1, (sys.netStartup s.1).2, s.2)
  accessControlBeforeBind s :=
    ((sys.accessControlBeforeBind s.1).1, (sys.accessControlBeforeBind s.1).2, s.2)
  pthreadCreate s := ((sys.pthreadCreate s.1).1, (sys.pthreadCreate s.1).2, s.2)
  inputStart s := ((sys.inputStart s.1).1, (sys.inputStart s.1).2, s.2)
  unlink path s := (sys.unlink path s.1, s.2 ++ [.unlinked path])
  socket s :=
    ((sys.socket s.1).1, (sys.socket s.1).2, s.2 ++ ((sys.socket s.1).1.map .opened).toList)
  bind sock path s :=
    ((sys.bind sock path s.1).1, (sys.bind sock path s.1).2,
      s.2 ++ [.bound sock path (sys.bind sock path s.1).1])
  listen sock s :=
    ((sys.listen sock s.1).1, (sys.listen sock s.1).2,
      s.2 ++ [.listened sock (sys.listen sock s.1).1])
  accessControlAfterBind path s :=
    ((sys.accessControlAfterBind path s.1).1, (sys.accessControlAfterBind path s.1).2, s.2)
  select sock s :=
    ((sys.select sock s.1).1, (sys.select sock s.1).2,
      s.2 ++ [.selected sock (sys.select sock s.1).1])
  accept sock s :=
    ((sys.accept sock s.1).1, (sys.accept sock s.1).2,
      match (sys.accept sock s.1).1 with
      | .client client => s.2 ++ [.accepted sock client]
      | .interrupted | .failed => s.2)
  accessControlIsAuthorized client s :=
    ((sys.accessControlIsAuthorized client s.1).1, (sys.accessControlIsAuthorized client s.1).2,
      s.2 ++ [.judged client (sys.accessControlIsAuthorized client s.1).1])
  recv client size s :=
    ((sys.recv client size s.1).1, (sys.recv client size s.1).2,
      s.2 ++ [.received client (sys.recv client size s.1).1])
  netClose sock s := (sys.netClose sock s.1, s.2 ++ [.closed sock])
  netCleanup s := (sys.netCleanup s.1, s.2)
  printf text s := (sys.printf text s.1, s.2)
  report text s := (sys.report text s.1, s.2)
  perror text s := (sys.perror text s.1, s.2)

/-- What `read_command` makes of the answer to its `recv`. -/
def commandOf (data : Option (List UInt8)) : Int :=
  (readCommand (fun _ w ↦ (data, w)) ()).1

/-- `read_command` makes one `recv`, and answers for what it gets. -/
theorem readCommand_logged (sys : DaemonSystem O S) (client : S) (s : O × List (SocketCall S)) :
    (readCommand (sys.logged.recv client) s).1 = commandOf (sys.recv client 15 s.1).1 ∧
      (readCommand (sys.logged.recv client) s).2.2 =
        s.2 ++ [.received client (sys.recv client 15 s.1).1] := by
  unfold commandOf readCommand
  dsimp only [DaemonSystem.logged]
  rcases sys.recv client 15 s.1 with ⟨_ | received, o⟩
  · exact ⟨rfl, rfl⟩
  · dsimp only
    split_ifs <;> exact ⟨rfl, rfl⟩

/-! ## The road of `main` -/

/-- `main` can get from a statement to another one, with these calls about sockets.  Its socket is
bound to `name`, and the file it removes is `path`. -/
inductive Road (name path : List UInt8) : MainPc S → List (SocketCall S) → MainPc S → Prop
  | /-- It waits, or has returned. -/
    rest (m : MainPc S) : Road name path m [] m
  | createWorker : Road name path .createWorker [] .startInput
  | noWorker : Road name path .createWorker [] (.closing none false .clearRunning)
  | startInput : Road name path .startInput [] .unlinkStale
  | unlinkStale : Road name path .unlinkStale [.unlinked path] .openSocket
  | openSocket (sock : S) : Road name path .openSocket [.opened sock] (.serving sock .bind)
  | noSocket : Road name path .openSocket [] (.closing none false .clearRunning)
  | bind (sock : S) : Road name path (.serving sock .bind) [.bound sock name true]
      (.serving sock .listen)
  | bindFails (sock : S) : Road name path (.serving sock .bind) [.bound sock name false]
      (.closing (some sock) false .clearRunning)
  | listen (sock : S) : Road name path (.serving sock .listen) [.listened sock true]
      (.serving sock .afterBind)
  | listenFails (sock : S) : Road name path (.serving sock .listen) [.listened sock false]
      (.closing (some sock) true .clearRunning)
  | afterBind (sock : S) : Road name path (.serving sock .afterBind) [] (.serving sock .loop)
  | loop (sock : S) : Road name path (.serving sock .loop) [] (.serving sock .select)
  | stopped (sock : S) : Road name path (.serving sock .loop) []
      (.closing (some sock) true .clearRunning)
  | ready (sock : S) : Road name path (.serving sock .select) [.selected sock true]
      (.serving sock .accept)
  | idle (sock : S) : Road name path (.serving sock .select) [.selected sock false]
      (.serving sock (.lock .reconcile none))
  | accept (sock client : S) : Road name path (.serving sock .accept) [.accepted sock client]
      (.serving sock (.authorize client))
  | interrupted (sock : S) : Road name path (.serving sock .accept) [] (.serving sock .loop)
  | acceptFails (sock : S) : Road name path (.serving sock .accept) []
      (.closing (some sock) true .clearRunning)
  | authorize (sock client : S) : Road name path (.serving sock (.authorize client))
      [.judged client true] (.serving sock (.read client))
  | deny (sock client : S) : Road name path (.serving sock (.authorize client))
      [.judged client false] (.serving sock (.closeClient client))
  | command (sock client : S) {data : Option (List UInt8)} (h : commandOf data ≠ 0) :
      Road name path (.serving sock (.read client)) [.received client data] (.serving sock
        (.lock (.adjustFraction (Process.socketFraction (commandOf data))) (some client)))
  | ignore (sock client : S) {data : Option (List UInt8)} (h : commandOf data = 0) :
      Road name path (.serving sock (.read client)) [.received client data]
        (.serving sock (.closeClient client))
  | lock (sock : S) (call : Call) (client : Option S) : Road name path
      (.serving sock (.lock call client)) [] (.serving sock (.locked client))
  | unlock (sock : S) (client : Option S) : Road name path (.serving sock (.locked client)) []
      (.serving sock (Process.afterLock client))
  | closeClient (sock client : S) : Road name path (.serving sock (.closeClient client))
      [.closed client] (.serving sock .loop)
  | close (sock : Option S) (bound : Bool) {pc pc' : ClosePc} (h : pc'.left < pc.left)
      (hs : 4 ≤ pc'.left ∨ pc.left ≤ 3) (hf : 3 ≤ pc'.left ∨ pc.left ≤ 2) :
      Road name path (.closing sock bound pc) [] (.closing sock bound pc')
  | closeSocket (sock : Option S) (bound : Bool) : Road name path (.closing sock bound .closeSocket)
      (sock.map .closed).toList (.closing sock bound .unlinkSocket)
  | unlinkSocket (sock : Option S) (bound : Bool) : Road name path
      (.closing sock bound .unlinkSocket) (if bound then [.unlinked path] else [])
      (.closing sock bound .closeController)

namespace Process

variable {sys : DaemonSystem O S} {P : Provider W Ctx}
  {p p' : Process W Ctx (O × List (SocketCall S)) S}

/-- `main` goes along the road, and the log grows by the calls there. -/
def Goes (sys : DaemonSystem O S) (p p' : Process W Ctx (O × List (SocketCall S)) S) : Prop :=
  ∃ calls, p'.os.2 = p.os.2 ++ calls ∧
    Road (p.sockPath.take (sys.sunPathSize - 1)) p.sockPath p.main calls p'.main

/-- A statement that is about no socket. -/
theorem Goes.silent {m : MainPc S} (hm : p.main = m) (hos : p'.os.2 = p.os.2)
    (h : Road (p.sockPath.take (sys.sunPathSize - 1)) p.sockPath m [] p'.main) : Goes sys p p' :=
  ⟨[], hos.trans (List.append_nil _).symm, hm ▸ h⟩

/-- A statement that is one call about a socket. -/
theorem Goes.call {m : MainPc S} {calls : List (SocketCall S)} (hm : p.main = m)
    (hos : p'.os.2 = p.os.2 ++ calls)
    (h : Road (p.sockPath.take (sys.sunPathSize - 1)) p.sockPath m calls p'.main) :
    Goes sys p p' := ⟨calls, hos, hm ▸ h⟩

theorem goes_serve {sock : S} {pc : ServePc S} (hm : p.main = .serving sock pc) :
    Goes sys p (p.serve sys.logged P sock pc) := by
  unfold serve cleanup
  cases pc with
  | bind =>
      dsimp only [DaemonSystem.logged]
      rcases sys.bind sock (p.sockPath.take (sys.sunPathSize - 1)) p.os.1 with ⟨_ | _, o⟩
      · exact .call hm rfl (.bindFails sock)
      · exact .call hm rfl (.bind sock)
  | listen =>
      dsimp only [DaemonSystem.logged]
      rcases sys.listen sock p.os.1 with ⟨_ | _, o⟩
      · exact .call hm rfl (.listenFails sock)
      · exact .call hm rfl (.listen sock)
  | afterBind =>
      refine .silent hm ?_ (.afterBind sock)
      dsimp only [DaemonSystem.logged]
      rcases sys.accessControlAfterBind p.sockPath p.os.1 with ⟨_ | _, o⟩ <;> rfl
  | loop =>
      dsimp only
      split_ifs
      · exact .silent hm rfl (.loop sock)
      · exact .silent hm rfl (.stopped sock)
  | select =>
      dsimp only [DaemonSystem.logged]
      rcases sys.select sock p.os.1 with ⟨_ | _, o⟩
      · exact .call hm rfl (.idle sock)
      · exact .call hm rfl (.ready sock)
  | accept =>
      dsimp only [DaemonSystem.logged]
      rcases sys.accept sock p.os.1 with ⟨client | _ | _, o⟩
      · exact .call hm rfl (.accept sock client)
      · exact .silent hm rfl (.interrupted sock)
      · exact .silent hm rfl (.acceptFails sock)
  | authorize client =>
      dsimp only [DaemonSystem.logged]
      rcases sys.accessControlIsAuthorized client p.os.1 with ⟨_ | _, o⟩
      · exact .call hm rfl (.deny sock client)
      · exact .call hm rfl (.authorize sock client)
  | read client =>
      obtain ⟨hdir, hlog⟩ := readCommand_logged sys client p.os
      dsimp only
      rcases hread : readCommand (sys.logged.recv client) p.os with ⟨dir, o⟩
      rw [hread] at hdir hlog
      obtain rfl : dir = _ := hdir
      split_ifs with hne
      · exact .call hm hlog (.command sock client hne)
      · exact .call hm hlog (.ignore sock client (not_not.mp hne))
  | lock call client =>
      dsimp only
      split_ifs
      · exact .silent hm rfl (.lock sock call client)
      · exact .silent hm rfl (hm ▸ .rest _)
  | locked client =>
      dsimp only
      split_ifs
      · exact .silent hm rfl (.unlock sock client)
      · exact .silent hm rfl (.rest _)
  | closeClient client => exact .call hm rfl (.closeClient sock client)

theorem goes_close {sock : Option S} {bound : Bool} {pc : ClosePc}
    (hm : p.main = .closing sock bound pc) : Goes sys p (p.close sys.logged P sock bound pc) := by
  unfold close
  have hnext {pc' : ClosePc} (hlt : pc'.left < pc.left) (hs : 4 ≤ pc'.left ∨ pc.left ≤ 3)
      (hf : 3 ≤ pc'.left ∨ pc.left ≤ 2) {q : Process W Ctx (O × List (SocketCall S)) S}
      (hq : q.main = .closing sock bound pc') (hos : q.os.2 = p.os.2) : Goes sys p q :=
    .silent hm hos (hq ▸ .close sock bound hlt hs hf)
  cases pc with
  | clearRunning => exact hnext (by decide) (by decide) (by decide) rfl rfl
  | stopInput => exact hnext (by decide) (by decide) (by decide) rfl rfl
  | joinInput =>
      dsimp only
      split_ifs
      · exact hnext (by decide) (by decide) (by decide) rfl rfl
      · exact .silent hm rfl (hm ▸ .rest _)
  | signalWorker =>
      dsimp only
      split_ifs
      · exact hnext (by decide) (by decide) (by decide) rfl rfl
      · exact hnext (by decide) (by decide) (by decide) rfl rfl
  | joinWorker =>
      dsimp only
      split_ifs
      · exact hnext (by decide) (by decide) (by decide) rfl rfl
      · exact .silent hm rfl (hm ▸ .rest _)
  | closeSocket =>
      refine .call hm ?_ (.closeSocket sock bound)
      cases sock with
      | none => exact (List.append_nil _).symm
      | some sock => rfl
  | unlinkSocket =>
      refine .call hm ?_ (.unlinkSocket sock bound)
      cases bound with
      | false => exact (List.append_nil _).symm
      | true => rfl
  | closeController => exact hnext (by decide) (by decide) (by decide) rfl rfl
  | netCleanup => exact hnext (by decide) (by decide) (by decide) rfl rfl
  | exited => exact .silent hm rfl (hm ▸ .rest _)

/-- **`main` stays on its road**, and logs what it calls there. -/
theorem goes_mainStep (sys : DaemonSystem O S) (P : Provider W Ctx)
    (p : Process W Ctx (O × List (SocketCall S)) S) : Goes sys p (p.mainStep sys.logged P) := by
  unfold mainStep cleanup
  cases hm : p.main with
  | createWorker =>
      dsimp only [DaemonSystem.logged]
      rcases sys.pthreadCreate p.os.1 with ⟨_ | _, o⟩
      · exact .silent hm rfl .noWorker
      · exact .silent hm rfl .createWorker
  | startInput =>
      dsimp only [DaemonSystem.logged]
      rcases sys.inputStart p.os.1 with ⟨_ | _, o⟩
      · exact .silent hm rfl .startInput
      · exact .silent hm rfl .startInput
  | unlinkStale => exact .call hm rfl .unlinkStale
  | openSocket =>
      dsimp only [DaemonSystem.logged]
      rcases sys.socket p.os.1 with ⟨_ | sock, o⟩
      · exact .silent hm (List.append_nil _) .noSocket
      · exact .call hm rfl (.openSocket sock)
  | serving sock pc => exact goes_serve hm
  | closing sock bound pc => exact goes_close hm

/-- The other threads call nothing about sockets. -/
theorem os_step {sys : DaemonSystem O S} {P : Provider W Ctx} {p : Process W Ctx O S}
    {e : ProcessEvent} (he : e ≠ .main) : (p.step sys P e).os = p.os := by
  unfold Process.step
  cases e with
  | main => exact absurd rfl he
  | work | wake | press | keyReturn =>
      dsimp only
      split_ifs <;> rfl
  | key | interrupt => rfl

theorem sockPath_serve {sys : DaemonSystem O S} {P : Provider W Ctx} {p : Process W Ctx O S}
    (sock : S) (pc : ServePc S) : (p.serve sys P sock pc).sockPath = p.sockPath := by
  obtain ⟨d, o, m, h⟩ := serve_eq sys P p sock pc
  rw [h]

/-- `sock_path` is set once. -/
theorem sockPath_step {sys : DaemonSystem O S} {P : Provider W Ctx} {p : Process W Ctx O S}
    (e : ProcessEvent) : (p.step sys P e).sockPath = p.sockPath := by
  unfold Process.step
  cases e with
  | main =>
      change (p.mainStep sys P).sockPath = _
      unfold mainStep cleanup
      cases p.main with
      | createWorker | startInput | openSocket =>
          dsimp only
          split <;> rfl
      | unlinkStale => rfl
      | serving sock pc => exact sockPath_serve sock pc
      | closing sock bound pc =>
          unfold close
          cases pc with
          | joinInput | signalWorker | joinWorker =>
              dsimp only
              split_ifs <;> rfl
          | clearRunning | stopInput | closeSocket | unlinkSocket | closeController | netCleanup
          | exited => rfl
  | work | wake | press | keyReturn =>
      dsimp only
      split_ifs <;> rfl
  | key | interrupt => rfl

/-- Every step of the process is a part of the road. -/
theorem goes_step (sys : DaemonSystem O S) (P : Provider W Ctx)
    (p : Process W Ctx (O × List (SocketCall S)) S) (e : ProcessEvent) :
    Goes sys p (p.step sys.logged P e) := by
  by_cases he : e = .main
  · subst he
    exact goes_mainStep sys P p
  · refine .silent rfl (congrArg Prod.snd (os_step he)) ?_
    rw [main_step he]
    exact .rest _

end Process

/-- The log is empty when the threads start. -/
theorem startup_logged {sys : DaemonSystem O S} {P : Provider W Ctx} {o : O} {w : W}
    {p : Process W Ctx (O × List (SocketCall S)) S} (h : startup sys.logged P (o, []) w = .ok p) :
    p.os.2 = [] ∧ p.main = .createWorker := by
  unfold startup at h
  rcases hl : sys.logged.loggingInit (o, []) with ⟨ok, s₀⟩
  have h₀ : s₀.2 = [] := (congrArg (·.2.2) hl).symm
  rw [hl] at h
  cases ok with
  | false | true =>
      dsimp only at h
      split at h
      · cases h
      · rename_i s₁ hnet
        have h₁ : s₁.2 = s₀.2 := (congrArg (·.2.2) hnet).symm
        split at h
        · cases h
        · rename_i s₂ hbefore
          have h₂ : s₂.2 = s₁.2 := (congrArg (·.2.2) hbefore).symm
          split at h
          · cases h
          · cases h
            exact ⟨h₂.trans (h₁.trans h₀), rfl⟩

/-! ## The ledger of the sockets -/

/-- What a call does to sockets. -/
def SocketCall.actions : SocketCall S → List (Action S)
  | opened sock => [.acquire sock]
  | bound sock _ _ | listened sock _ | selected sock _ => [.use sock]
  | accepted sock client => [.use sock, .acquire client]
  | judged client _ | received client _ => [.use client]
  | closed sock => [.release sock]
  | unlinked _ => []

/-- The log as a sequence of actions on sockets. -/
def socketActions (log : List (SocketCall S)) : List (Action S) := log.flatMap SocketCall.actions

theorem socketActions_append (log log' : List (SocketCall S)) :
    socketActions (log ++ log') = socketActions log ++ socketActions log' := List.flatMap_append

/-- The client `main` has, if it has one. -/
def ServePc.client : ServePc S → Option S
  | authorize client | read client | closeClient client => some client
  | lock _ client | locked client => client
  | bind | listen | afterBind | loop | select | accept => none

/-- The sockets `main` has. -/
def MainPc.sockets : MainPc S → Multiset S
  | serving sock pc => pc.client.elim {sock} fun client ↦ client ::ₘ {sock}
  | closing sock _ pc => if 4 ≤ pc.left then sock.elim 0 fun sock ↦ {sock} else 0
  | createWorker | startInput | unlinkStale | openSocket => 0

theorem MainPc.sockets_serving (sock : S) (pc : ServePc S) : (serving sock pc).sockets =
    pc.client.elim {sock} fun client ↦ client ::ₘ {sock} := rfl

theorem MainPc.sockets_closing (sock : Option S) (bound : Bool) (pc : ClosePc) :
    (closing sock bound pc).sockets =
      if 4 ≤ pc.left then sock.elim 0 fun sock ↦ {sock} else 0 := rfl

/-- `main` serves one client at a time. -/
theorem MainPc.card_sockets_le (m : MainPc S) : m.sockets.card ≤ 2 := by
  cases m with
  | serving sock pc =>
      rw [sockets_serving]
      cases pc.client with
      | none => exact Nat.le_succ 1
      | some client => exact le_refl 2
  | closing sock bound pc =>
      rw [sockets_closing]
      split_ifs
      · cases sock with
        | none => exact Nat.zero_le 2
        | some sock => exact Nat.le_succ 1
      · exact Nat.zero_le 2
  | createWorker | startInput | unlinkStale | openSocket => exact Nat.zero_le 2

/-- **Along the road only open sockets are used and closed**, and none is lost. -/
theorem Road.moves [DecidableEq S] {name path : List UInt8} {m m' : MainPc S}
    {calls : List (SocketCall S)} (h : Road name path m calls m') :
    Moves m.sockets (socketActions calls) m'.sockets := by
  have hserver (sock : S) : Moves {sock} [.use sock] {sock} :=
    .use (Multiset.mem_singleton_self sock)
  have hclient (sock client : S) : Moves (client ::ₘ {sock}) [.use client] (client ::ₘ {sock}) :=
    .use (Multiset.mem_cons_self client _)
  cases h with
  | rest | createWorker | noWorker | startInput | unlinkStale | noSocket | afterBind | loop
  | stopped | interrupted | acceptFails | lock => exact .nil _
  | openSocket sock => exact .acquire 0 sock
  | bind sock | bindFails sock | listen sock | listenFails sock | ready sock | idle sock =>
      exact hserver sock
  | accept sock client => exact (hserver sock).append (.acquire _ client)
  | authorize sock client | deny sock client | command sock client | ignore sock client =>
      exact hclient sock client
  | unlock sock client => cases client <;> exact .nil _
  | closeClient sock client => exact .release {sock} client
  | close sock bound hlt hs =>
      rw [MainPc.sockets_closing, MainPc.sockets_closing]
      rcases hs with hs | hs
      · rw [if_pos hs, if_pos (hs.trans hlt.le)]
        exact .nil _
      · rw [if_neg (by omega), if_neg (by omega)]
        exact .nil _
  | closeSocket sock bound =>
      cases sock with
      | none => exact .nil _
      | some sock => exact .release 0 sock
  | unlinkSocket sock bound => cases bound <;> exact .nil _

namespace Process

variable {sys : DaemonSystem O S} {P : Provider W Ctx}
  {p : Process W Ctx (O × List (SocketCall S)) S}

/-- The open sockets are those of `main`: the one it listens on and that of one client, if any. -/
structure SocketsKept [DecidableEq S] (p : Process W Ctx (O × List (SocketCall S)) S) : Prop where
  /-- No socket has been used or closed that was not open. -/
  disciplined : Disciplined (socketActions p.os.2)
  held : heldAfter 0 (socketActions p.os.2) = p.main.sockets
  few : (heldAfter 0 (socketActions p.os.2)).card ≤ 2
  exited : p.Exited → heldAfter 0 (socketActions p.os.2) = 0

theorem Goes.moves [DecidableEq S] {p' : Process W Ctx (O × List (SocketCall S)) S}
    (h : Goes sys p p') (hp : Moves 0 (socketActions p.os.2) p.main.sockets) :
    Moves 0 (socketActions p'.os.2) p'.main.sockets := by
  obtain ⟨calls, hlog, hroad⟩ := h
  rw [hlog, socketActions_append]
  exact hp.append hroad.moves

theorem socketsKept_of_moves [DecidableEq S] (h : Moves 0 (socketActions p.os.2) p.main.sockets) :
    p.SocketsKept where
  disciplined := h.permitted
  held := h.held_eq
  few := h.held_eq ▸ p.main.card_sockets_le
  exited := by
    rintro ⟨sock, bound, hm⟩
    refine h.held_eq.trans ?_
    rw [hm]
    rfl

end Process

/-- **Every socket is closed once.**  In every state of every run of the process, whatever the
system answers and however the threads are scheduled, each call about a socket has found it open,
at most the listening socket and that of one client are open, and at the exit none is. -/
theorem process_sockets [DecidableEq S] (sys : DaemonSystem O S) (P : Provider W Ctx) {o : O}
    {w : W} {p : Process W Ctx (O × List (SocketCall S)) S}
    (h : startup sys.logged P (o, []) w = .ok p) (events : List ProcessEvent) :
    Throughout (Process.step sys.logged P) Process.SocketsKept p events := by
  refine throughout_of_invariant (J := fun q ↦ Moves 0 (socketActions q.os.2) q.main.sockets) ?_
    (fun q e hq ↦ (Process.goes_step sys P q e).moves hq)
    (fun _ hq ↦ Process.socketsKept_of_moves hq) events
  obtain ⟨hos, hm⟩ := startup_logged h
  rw [hos, hm]
  exact .nil 0

/-- The process of `visitedTwice`, with a log of its calls about sockets. -/
def visitedServer :
    Process Bench BenchHandle ((Visit × List Visit) × List (SocketCall Nat)) Nat where
  daemon := .boot (ddcProvider oneDisplay) (.ready [⟨0, 100, 0, 50⟩])
  os := ((⟨false, []⟩, [⟨true, upWord ++ [newline]⟩, ⟨false, downWord⟩]), [])
  sockPath := bytes ['/', 's']
  main := .createWorker
  workerStarted := false
  capture := .absent

theorem startup_visitedServer : startup visited.logged (ddcProvider oneDisplay)
    ((⟨false, []⟩, [⟨true, upWord ++ [newline]⟩, ⟨false, downWord⟩]), [])
    (.ready [⟨0, 100, 0, 50⟩]) = .ok visitedServer := rfl

/-- A press is served, then the process is stopped while it waits, and exits. -/
def exitedAtRest : List ProcessEvent := stoppedAtRest ++ [.main, .main]

theorem process_sockets_visited :
    (visitedServer.run visited.logged (ddcProvider oneDisplay) exitedAtRest).SocketsKept :=
  (process_sockets visited (ddcProvider oneDisplay) startup_visitedServer exitedAtRest).last

/-! ## The file of the socket -/

/-- What a call does to the files of the process: it makes one when it binds a socket. -/
def SocketCall.fileActions : SocketCall S → List (Action (List UInt8))
  | bound _ path true => [.acquire path]
  | unlinked path => [.release path]
  | bound _ _ false | opened _ | listened _ _ | selected _ _ | accepted _ _ | judged _ _
  | received _ _ | closed _ => []

/-- The files the process has made and not removed. -/
def socketFiles (log : List (SocketCall S)) : Multiset (List UInt8) :=
  heldAfter 0 (log.flatMap SocketCall.fileActions)

/-- `main` has bound its socket. -/
def MainPc.Bound : MainPc S → Prop
  | serving _ .bind => False
  | serving _ _ => True
  | closing _ bound _ => bound = true
  | createWorker | startInput | unlinkStale | openSocket => False

/-- The file is left where it is until `main` is behind `unlink`. -/
def MainPc.files (name path : List UInt8) : MainPc S → Multiset (List UInt8)
  | serving _ .bind => 0
  | serving _ _ => {name}
  | closing _ bound pc =>
    if bound then if 3 ≤ pc.left then {name} else Multiset.erase {name} path else 0
  | createWorker | startInput | unlinkStale | openSocket => 0

theorem MainPc.files_closing (name path : List UInt8) (sock : Option S) (bound : Bool)
    (pc : ClosePc) : (closing sock bound pc).files name path =
      if bound then if 3 ≤ pc.left then {name} else Multiset.erase {name} path else 0 := rfl

namespace Road

variable {name path : List UInt8} {m m' : MainPc S} {calls : List (SocketCall S)}

theorem files (h : Road name path m calls m') :
    heldAfter (m.files name path) (calls.flatMap SocketCall.fileActions) = m'.files name path := by
  cases h with
  | rest | createWorker | noWorker | startInput | unlinkStale | openSocket | noSocket | bindFails
  | listen | listenFails | afterBind | loop | stopped | ready | idle | accept | interrupted
  | acceptFails | authorize | deny | command | ignore | lock | closeClient => rfl
  | bind sock => rfl
  | unlock sock client => cases client <;> rfl
  | close sock bound hlt hs hf =>
      rw [MainPc.files_closing, MainPc.files_closing]
      rcases hf with hf | hf
      · rw [if_pos hf, if_pos (hf.trans hlt.le)]
        rfl
      · rw [if_neg (by omega : ¬ 3 ≤ _), if_neg (by omega : ¬ 3 ≤ _)]
        rfl
  | closeSocket sock bound => cases sock <;> cases bound <;> rfl
  | unlinkSocket sock bound => cases bound <;> rfl

theorem bound_iff (h : Road name path m calls m') :
    m'.Bound ↔ m.Bound ∨ ∃ sock, .bound sock name true ∈ calls := by
  cases h with
  | rest | createWorker | noWorker | startInput | noSocket | afterBind | loop | stopped
  | interrupted | acceptFails | lock | close => simp [MainPc.Bound]
  | unlinkStale | openSocket | bind | bindFails | listen | listenFails | ready | idle | accept
  | authorize | deny | command | ignore | closeClient => simp [MainPc.Bound]
  | unlock sock client => cases client <;> simp [MainPc.Bound, Process.afterLock]
  | closeSocket sock bound => cases sock <;> simp [MainPc.Bound]
  | unlinkSocket sock bound => cases bound <;> simp [MainPc.Bound]

end Road

namespace Process

variable {sys : DaemonSystem O S} {P : Provider W Ctx}
  {p p' : Process W Ctx (O × List (SocketCall S)) S} {name : List UInt8}

/-- The file of the socket is there from `bind` to `unlink`, and stays if `unlink` is given another
path. -/
structure FileKept (name : List UInt8) (p : Process W Ctx (O × List (SocketCall S)) S) : Prop where
  files : socketFiles p.os.2 = p.main.files name p.sockPath
  bound : p.main.Bound ↔ ∃ sock, .bound sock name true ∈ p.os.2

theorem Goes.fileKept (h : Goes sys p p') (hpath : p'.sockPath = p.sockPath)
    (hp : p.FileKept (p.sockPath.take (sys.sunPathSize - 1))) :
    p'.FileKept (p.sockPath.take (sys.sunPathSize - 1)) := by
  obtain ⟨calls, hlog, hroad⟩ := h
  constructor
  · rw [hlog, hpath, socketFiles, List.flatMap_append, heldAfter_append]
    exact (congrArg (heldAfter · _) hp.files).trans hroad.files
  · rw [hlog, hroad.bound_iff, hp.bound]
    simp only [List.mem_append, exists_or]

theorem fileKept_run (h : startup sys.logged P (o, []) w = .ok p) (events : List ProcessEvent) :
    (p.run sys.logged P events).sockPath = p.sockPath ∧
      (p.run sys.logged P events).FileKept (p.sockPath.take (sys.sunPathSize - 1)) := by
  have hstep (q : Process W Ctx (O × List (SocketCall S)) S) (e : ProcessEvent)
      (hq : q.sockPath = p.sockPath ∧ q.FileKept (p.sockPath.take (sys.sunPathSize - 1))) :
      (q.step sys.logged P e).sockPath = p.sockPath ∧
        (q.step sys.logged P e).FileKept (p.sockPath.take (sys.sunPathSize - 1)) := by
    obtain ⟨hpath, hq⟩ := hq
    rw [← hpath] at hq ⊢
    exact ⟨sockPath_step e, (goes_step sys P q e).fileKept (sockPath_step e) hq⟩
  refine (throughout_of_invariant ⟨rfl, ?_⟩ hstep (fun _ hq ↦ hq) events).last
  obtain ⟨hos, hm⟩ := startup_logged h
  constructor
  · rw [hos, hm]
    rfl
  · rw [hos, hm]
    exact iff_of_false id fun ⟨_, hmem⟩ ↦ List.not_mem_nil hmem

end Process

/-- A file is removed under its name, and under no other. -/
theorem erase_singleton_eq_zero_iff {name path : List UInt8} :
    Multiset.erase {name} path = 0 ↔ name = path := by
  by_cases he : name = path
  · subst he
    exact iff_of_true (Multiset.erase_singleton name) rfl
  · have hmem : path ∉ ({name} : Multiset (List UInt8)) :=
      fun hm ↦ he (Multiset.mem_singleton.mp hm).symm
    rw [Multiset.erase_of_notMem hmem]
    exact iff_of_false (Multiset.singleton_ne_zero name) he

/-- **What the process leaves in the file system.**  It binds its socket to the path cut to the size
of `sun_path` and removes the whole path.  So when it exits, whatever has happened, the file of the
socket is left if and only if the socket was bound and the path was too long. -/
theorem socket_file_removed (sys : DaemonSystem O S) (P : Provider W Ctx) {o : O} {w : W}
    {p : Process W Ctx (O × List (SocketCall S)) S} (h : startup sys.logged P (o, []) w = .ok p)
    (events : List ProcessEvent) (hexit : (p.run sys.logged P events).Exited) :
    let log := (p.run sys.logged P events).os.2
    socketFiles log = 0 ↔
      ((∃ sock, .bound sock (p.sockPath.take (sys.sunPathSize - 1)) true ∈ log) →
        p.sockPath.length ≤ sys.sunPathSize - 1) := by
  intro log
  obtain ⟨hpath, hkept⟩ := Process.fileKept_run h events
  obtain ⟨sock, bound, hm⟩ := hexit
  have hbound : (p.run sys.logged P events).main.Bound ↔
      ∃ sock, .bound sock (p.sockPath.take (sys.sunPathSize - 1)) true ∈ log := hkept.bound
  rw [← hbound, show socketFiles log = _ from hkept.files, hm, hpath]
  change (if bound then Multiset.erase {p.sockPath.take (sys.sunPathSize - 1)} p.sockPath
    else 0) = 0 ↔ (bound = true → _)
  cases bound with
  | false => exact iff_of_true rfl nofun
  | true =>
      rw [if_pos rfl, erase_singleton_eq_zero_iff, List.take_eq_self_iff]
      exact ⟨fun hlen _ ↦ hlen, fun hlen ↦ hlen rfl⟩

/-- The path of `visitedServer` is short. -/
theorem socket_file_removed_visited :
    socketFiles (visitedServer.run visited.logged (ddcProvider oneDisplay) exitedAtRest).os.2 =
      0 := by
  have hexit : (visitedServer.run visited.logged (ddcProvider oneDisplay) exitedAtRest).Exited :=
    ⟨some 3, true, by decide +kernel⟩
  have hshort : visitedServer.sockPath.length ≤ visited.sunPathSize - 1 := by decide
  exact (socket_file_removed visited (ddcProvider oneDisplay) startup_visitedServer exitedAtRest
    hexit).mpr fun _ ↦ hshort

/-- With a smaller `sun_path` it would be cut, and its file left. -/
example : socketFiles (visitedServer.run { visited with sunPathSize := 2 }.logged
    (ddcProvider oneDisplay) exitedAtRest).os.2 = {bytes ['/']} := by
  decide +kernel

end Dimmit
