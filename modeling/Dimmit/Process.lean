import Dimmit.Command
import Dimmit.Daemon

/-!
# The process of the daemon

`main` of `dimmitd.c` from its first statement to its last, with the threads it starts and joins:
the worker, and the key capture behind `input_start`.  What they do under the lock is said by the
`Daemon`, whose client `acceptLoop` is `main`.

A step is one statement of one thread.  A statement that has to wait, such as the `pthread_join` of
a thread that has not returned, leaves the process as it is.  The displays and the rest of the
system are two worlds, one behind the provider and one behind the calls of `main`.
-/

namespace Dimmit

variable {W R H Ctx O S : Type}

/-- The answer of `accept`. -/
inductive Accepted (S : Type) where
  | client (client : S)
  /-- `EINTR`, which Windows does not have. -/
  | interrupted
  | failed
deriving DecidableEq, Repr

/-- The calls `main` makes, and what it is compiled with.  A call that returns 0 or -1 answers
whether it returned 0. -/
structure DaemonSystem (O S : Type) where
  getenv : List UInt8 → O → Option (List UInt8)
  /-- `DIMMIT_SOCK_DEFAULT`. -/
  sockDefault : List UInt8
  /-- `sizeof(addr.sun_path)`. -/
  sunPathSize : Nat
  loggingInit : O → Bool × O
  netStartup : O → Bool × O
  accessControlBeforeBind : O → Bool × O
  pthreadCreate : O → Bool × O
  /-- `input_start`, after which there is a capture thread if it returned 0. -/
  inputStart : O → Bool × O
  unlink : List UInt8 → O → O
  /-- `socket`: `none` is `DIMMIT_BAD_SOCK`. -/
  socket : O → Option S × O
  bind : S → List UInt8 → O → Bool × O
  listen : S → O → Bool × O
  accessControlAfterBind : List UInt8 → O → Bool × O
  /-- `select` for a second: whether its result is positive. -/
  select : S → O → Bool × O
  accept : S → O → Accepted S × O
  accessControlIsAuthorized : S → O → Bool × O
  recv : S → Nat → O → Option (List UInt8) × O
  netClose : S → O → O
  netCleanup : O → O
  printf : List UInt8 → O → O
  /-- `fprintf` of a finished text to `stderr`. -/
  report : List UInt8 → O → O
  perror : List UInt8 → O → O

/-- `get_sock_path`. -/
def DaemonSystem.getSockPath (sys : DaemonSystem O S) (o : O) : List UInt8 :=
  (sys.getenv (bytes ("DIMMIT_SOCK".toList)) o).getD sys.sockDefault

/-! ## Where the threads are -/

/-- The next statement of `main` while it has a socket, from `bind` on. -/
inductive ServePc (S : Type) where
  | bind
  | listen
  /-- `access_control_after_bind`. -/
  | afterBind
  /-- The test `while (running)`. -/
  | loop
  | select
  | accept
  /-- `access_control_is_authorized`. -/
  | authorize (client : S)
  /-- `read_command`. -/
  | read (client : S)
  /-- `pthread_mutex_lock`, for the press of a client or for an idle tick. -/
  | lock (call : Call) (client : Option S)
  /-- The rest of `adjust_fraction` or of the idle tick: `clients` says where. -/
  | locked (client : Option S)
  | closeClient (client : S)
deriving DecidableEq, Repr

/-- The next statement of `main` behind `cleanup`. -/
inductive ClosePc where
  /-- `running = 0`. -/
  | clearRunning
  /-- `input_stop`, which asks the capture thread to return. -/
  | stopInput
  /-- The rest of `input_stop`, which joins it. -/
  | joinInput
  /-- `pthread_cond_signal`. -/
  | signalWorker
  | joinWorker
  | closeSocket
  | unlinkSocket
  | closeController
  | netCleanup
  /-- None: `main` has returned 0. -/
  | exited
deriving DecidableEq, Repr

/-- The next statement of `main`, with its variables `sock` and `bound`. -/
inductive MainPc (S : Type) where
  | createWorker
  | startInput
  | unlinkStale
  | openSocket
  | serving (sock : S) (pc : ServePc S)
  | closing (sock : Option S) (bound : Bool) (pc : ClosePc)
deriving DecidableEq, Repr

/-- The thread behind `input_start`. -/
inductive Capture where
  /-- There is none. -/
  | absent
  | capturing
  /-- `input_stop` has asked it to return. -/
  | asked
  | returned
deriving DecidableEq, Repr

/-- There is no capture thread any more. -/
def Capture.Gone : Capture → Prop
  | absent | returned => True
  | capturing | asked => False

instance : DecidablePred Capture.Gone
  | .absent | .returned => inferInstanceAs (Decidable True)
  | .capturing | .asked => inferInstanceAs (Decidable False)

/-- The process while its threads run. -/
structure Process (W Ctx O S : Type) where
  daemon : Daemon W Ctx
  os : O
  /-- `sock_path`. -/
  sockPath : List UInt8
  main : MainPc S
  /-- `worker_started`. -/
  workerStarted : Bool
  capture : Capture

/-- A step of the process. -/
inductive ProcessEvent where
  /-- The next statement of `main`. -/
  | main
  /-- The next statement of the worker. -/
  | work
  /-- The worker's wait ends. -/
  | wake
  /-- The capture thread calls `adjust_fraction`, which takes the lock. -/
  | press (fraction : ℚ)
  /-- The next statement of the capture thread under the lock. -/
  | key
  /-- The capture thread returns. -/
  | keyReturn
  /-- A signal handler runs. -/
  | interrupt
deriving DecidableEq, Repr

/-! ## What they do -/

/-- What a client does next under the lock. -/
def ClientPc.event (i : Client) : ClientPc → Option DaemonEvent
  | idle => none
  | locked _ => some (.call i)
  | adjusted => some (.signal i)
  | unlocking => some (.unlock i)

/-- A step of the daemon, or none. -/
def Daemon.drive (P : Provider W Ctx) (d : Daemon W Ctx) : Option DaemonEvent → Daemon W Ctx
  | none => d
  | some e => d.step P e

namespace Process

/-- `goto cleanup`. -/
def cleanup (p : Process W Ctx O S) (o : O) (sock : Option S) (bound : Bool) :
    Process W Ctx O S :=
  { p with os := o, main := .closing sock bound .clearRunning }

/-- `dir * DIMMIT_SOCKET_FRACTION`. -/
def socketFraction (dir : Int) : ℚ := dir * (1 / 16)

/-- What follows the lock: the end of the loop's body, where the client of a press is closed. -/
def afterLock : Option S → ServePc S
  | none => .loop
  | some client => .closeClient client

/-- The next statement of `main` while it has the socket `sock`. -/
def serve (sys : DaemonSystem O S) (P : Provider W Ctx) (p : Process W Ctx O S) (sock : S) :
    ServePc S → Process W Ctx O S
  | .bind =>
    match sys.bind sock (p.sockPath.take (sys.sunPathSize - 1)) p.os with
    | (true, o) => { p with os := o, main := .serving sock .listen }
    | (false, o) => p.cleanup (sys.perror (bytes ("bind".toList)) o) (some sock) false
  | .listen =>
    match sys.listen sock p.os with
    | (true, o) => { p with os := o, main := .serving sock .afterBind }
    | (false, o) => p.cleanup (sys.perror (bytes ("listen".toList)) o) (some sock) true
  | .afterBind =>
    let o :=
      match sys.accessControlAfterBind p.sockPath p.os with
      | (true, o) => o
      | (false, o) =>
        sys.report (bytes ("Warning: could not apply socket access policy\n".toList)) o
    { p with
      os := sys.printf (bytes ("Listening on ".toList) ++ p.sockPath ++ [newline]) o
      main := .serving sock .loop }
  | .loop =>
    if p.daemon.running then { p with main := .serving sock .select }
    else p.cleanup p.os (some sock) true
  | .select =>
    match sys.select sock p.os with
    | (true, o) => { p with os := o, main := .serving sock .accept }
    | (false, o) => { p with os := o, main := .serving sock (.lock .reconcile none) }
  | .accept =>
    match sys.accept sock p.os with
    | (.client client, o) => { p with os := o, main := .serving sock (.authorize client) }
    | (.interrupted, o) => { p with os := o, main := .serving sock .loop }
    | (.failed, o) => p.cleanup (sys.perror (bytes ("accept".toList)) o) (some sock) true
  | .authorize client =>
    match sys.accessControlIsAuthorized client p.os with
    | (true, o) => { p with os := o, main := .serving sock (.read client) }
    | (false, o) =>
      { p with
        os := sys.report (bytes ("Access denied\n".toList)) o
        main := .serving sock (.closeClient client) }
  | .read client =>
    match readCommand (sys.recv client) p.os with
    | (dir, o) =>
      if dir ≠ 0 then
        { p with
          os := o
          main := .serving sock (.lock (.adjustFraction (socketFraction dir)) (some client)) }
      else
        { p with
          os := sys.report (bytes ("Ignoring empty or unknown command\n".toList)) o
          main := .serving sock (.closeClient client) }
  | .lock call client =>
    if p.daemon.owner = none then
      { p with
        daemon := p.daemon.step P (.lock .acceptLoop call)
        main := .serving sock (.locked client) }
    else p
  | .locked client =>
    { p with
      daemon := p.daemon.drive P ((p.daemon.clients .acceptLoop).event .acceptLoop)
      main := .serving sock
        (if p.daemon.clients .acceptLoop = .unlocking then afterLock client else .locked client) }
  | .closeClient client =>
    { p with os := sys.netClose client p.os, main := .serving sock .loop }

/-- The next statement of `main` behind `cleanup`. -/
def close (sys : DaemonSystem O S) (P : Provider W Ctx) (p : Process W Ctx O S) (sock : Option S)
    (bound : Bool) : ClosePc → Process W Ctx O S
  | .clearRunning =>
    { p with daemon := p.daemon.step P .stop, main := .closing sock bound .stopInput }
  | .stopInput =>
    { p with
      capture := if p.capture = .capturing then .asked else p.capture
      main := .closing sock bound .joinInput }
  | .joinInput =>
    if p.capture.Gone then { p with main := .closing sock bound .signalWorker } else p
  | .signalWorker =>
    if p.workerStarted then
      { p with daemon := p.daemon.step P .stopSignal, main := .closing sock bound .joinWorker }
    else { p with main := .closing sock bound .closeSocket }
  | .joinWorker =>
    if p.daemon.worker = .returned then { p with main := .closing sock bound .closeSocket } else p
  | .closeSocket =>
    { p with
      os := sock.elim p.os fun sock ↦ sys.netClose sock p.os
      main := .closing sock bound .unlinkSocket }
  | .unlinkSocket =>
    { p with
      os := if bound then sys.unlink p.sockPath p.os else p.os
      main := .closing sock bound .closeController }
  | .closeController =>
    let s := p.daemon.session
    { p with
      daemon :=
        { p.daemon with session := { s with world := controllerClose P s.controller s.world } }
      main := .closing sock bound .netCleanup }
  | .netCleanup => { p with os := sys.netCleanup p.os, main := .closing sock bound .exited }
  | .exited => p

/-- The next statement of `main`. -/
def mainStep (sys : DaemonSystem O S) (P : Provider W Ctx) (p : Process W Ctx O S) :
    Process W Ctx O S :=
  match p.main with
  | .createWorker =>
    match sys.pthreadCreate p.os with
    | (true, o) => { p with os := o, workerStarted := true, main := .startInput }
    | (false, o) => p.cleanup (sys.perror (bytes ("pthread_create".toList)) o) none false
  | .startInput =>
    match sys.inputStart p.os with
    | (true, o) => { p with os := o, capture := .capturing, main := .unlinkStale }
    | (false, o) => { p with os := o, main := .unlinkStale }
  | .unlinkStale => { p with os := sys.unlink p.sockPath p.os, main := .openSocket }
  | .openSocket =>
    match sys.socket p.os with
    | (some sock, o) => { p with os := o, main := .serving sock .bind }
    | (none, o) => p.cleanup (sys.perror (bytes ("socket".toList)) o) none false
  | .serving sock pc => p.serve sys P sock pc
  | .closing sock bound pc => p.close sys P sock bound pc

def step (sys : DaemonSystem O S) (P : Provider W Ctx) (p : Process W Ctx O S) :
    ProcessEvent → Process W Ctx O S
  | .main => p.mainStep sys P
  | .work => if p.workerStarted then { p with daemon := p.daemon.step P .work } else p
  | .wake => if p.workerStarted then { p with daemon := p.daemon.step P .wake } else p
  | .press fraction =>
    if p.capture.Gone then p
    else { p with daemon := p.daemon.step P (.lock .keyCapture (.adjustFraction fraction)) }
  | .key =>
    { p with daemon := p.daemon.drive P ((p.daemon.clients .keyCapture).event .keyCapture) }
  | .keyReturn =>
    if ¬ p.capture.Gone ∧ p.daemon.clients .keyCapture = .idle then { p with capture := .returned }
    else p
  | .interrupt => { p with daemon := p.daemon.step P .stop }

def run (sys : DaemonSystem O S) (P : Provider W Ctx) (p : Process W Ctx O S)
    (events : List ProcessEvent) : Process W Ctx O S :=
  events.foldl (step sys P) p

end Process

/-- What `init_monitor` prints. -/
def controllingText (count : Nat) : List UInt8 :=
  bytes ("Controlling ".toList) ++ bytes (decimal count) ++ bytes (" display(s)\n".toList)

/-- `main` up to `pthread_create`: the process whose threads start there, or the exit status and
the worlds that `main` leaves when it returns before. -/
def startup (sys : DaemonSystem O S) (P : Provider W Ctx) (o : O) (w : W) :
    Except (Nat × O × W) (Process W Ctx O S) :=
  let sockPath := sys.getSockPath o
  let o :=
    match sys.loggingInit o with
    | (true, o) => o
    | (false, o) => sys.report (bytes ("Warning: logging not redirected; continuing\n".toList)) o
  match sys.netStartup o with
  | (false, o) => .error (1, sys.report (bytes ("net_startup failed\n".toList)) o, w)
  | (true, o) =>
    match sys.accessControlBeforeBind o with
    | (false, o) => .error (1, o, w)
    | (true, o) =>
      match controllerOpen P w with
      | (none, w) => .error (1, sys.report (bytes ("Failed to initialize displays\n".toList)) o, w)
      | (some c, _) => .ok
          { daemon := .boot P w
            os := sys.printf (controllingText (controllerCount (some c))) o
            sockPath := sockPath
            main := .createWorker
            workerStarted := false
            capture := .absent }

/-- Where `main` does not return before, its threads start over the controller it has opened. -/
theorem startup_eq_ok {sys : DaemonSystem O S} {P : Provider W Ctx} {o : O} {w : W}
    {p : Process W Ctx O S} (h : startup sys P o w = .ok p) :
    (controllerOpen P w).1 ≠ none ∧ ∃ o', p =
      { daemon := .boot P w, os := o', sockPath := sys.getSockPath o, main := .createWorker
        workerStarted := false, capture := .absent } := by
  unfold startup at h
  dsimp only at h
  split at h
  · cases h
  · split at h
    · cases h
    · rcases hopen : controllerOpen P w with ⟨_ | c, w'⟩ <;> rw [hopen] at h
      · cases h
      · cases h
        exact ⟨nofun, _, rfl⟩

/-! ## The process drives the daemon -/

namespace Process

/-- The step of the daemon that a step of the process is, if it is one. -/
def drives (p : Process W Ctx O S) : ProcessEvent → Option DaemonEvent
  | .main =>
    match p.main with
    | .serving _ (.lock call _) =>
      if p.daemon.owner = none then some (.lock .acceptLoop call) else none
    | .serving _ (.locked _) => (p.daemon.clients .acceptLoop).event .acceptLoop
    | .closing _ _ .clearRunning => some .stop
    | .closing _ _ .signalWorker => if p.workerStarted then some .stopSignal else none
    | _ => none
  | .work => if p.workerStarted then some .work else none
  | .wake => if p.workerStarted then some .wake else none
  | .press fraction =>
    if p.capture.Gone then none else some (.lock .keyCapture (.adjustFraction fraction))
  | .key => (p.daemon.clients .keyCapture).event .keyCapture
  | .keyReturn => none
  | .interrupt => some .stop

/-- The next statement of `main` is `controller_close`. -/
def AtClose (p : Process W Ctx O S) : Prop :=
  ∃ sock bound, p.main = .closing sock bound .closeController

variable {sys : DaemonSystem O S} {P : Provider W Ctx} {p : Process W Ctx O S}

theorem daemon_serve {sock : S} {pc : ServePc S} (h : p.main = .serving sock pc) :
    (p.serve sys P sock pc).daemon = p.daemon.drive P (p.drives .main) := by
  unfold drives serve
  rw [h]
  cases pc with
  | bind | listen | loop | select | authorize client =>
      dsimp only
      split <;> rfl
  | accept =>
      dsimp only
      split <;> rfl
  | read client =>
      dsimp only
      split_ifs <;> rfl
  | lock call client =>
      dsimp only
      split_ifs <;> rfl
  | afterBind | locked client | closeClient client => rfl

theorem daemon_close {sock : Option S} {bound : Bool} {pc : ClosePc}
    (h : p.main = .closing sock bound pc) (hpc : pc ≠ .closeController) :
    (p.close sys P sock bound pc).daemon = p.daemon.drive P (p.drives .main) := by
  unfold drives close
  rw [h]
  cases pc with
  | joinInput | signalWorker | joinWorker =>
      dsimp only
      split_ifs <;> rfl
  | closeController => exact absurd rfl hpc
  | clearRunning | stopInput | closeSocket | unlinkSocket | netCleanup | exited => rfl

/-- **The process is a daemon**, apart from `controller_close`. -/
theorem daemon_step (e : ProcessEvent) (h : e = .main → ¬ p.AtClose) :
    (p.step sys P e).daemon = p.daemon.drive P (p.drives e) := by
  cases e with
  | main =>
      change (p.mainStep sys P).daemon = _
      unfold mainStep
      cases hm : p.main with
      | createWorker | startInput | openSocket =>
          dsimp only
          unfold drives
          rw [hm]
          split <;> rfl
      | unlinkStale =>
          unfold drives
          rw [hm]
          rfl
      | serving sock pc => exact daemon_serve hm
      | closing sock bound pc =>
          refine daemon_close hm fun hpc ↦ h rfl ⟨sock, bound, ?_⟩
          rw [hm, hpc]
  | work | wake | press | keyReturn =>
      unfold Process.step drives
      split_ifs <;> rfl
  | key => rfl
  | interrupt => rfl

/-- While it has the socket, `main` leaves the rest of the process as it is. -/
theorem serve_eq (sys : DaemonSystem O S) (P : Provider W Ctx) (p : Process W Ctx O S) (sock : S)
    (pc : ServePc S) :
    ∃ d o m, p.serve sys P sock pc = { p with daemon := d, os := o, main := m } := by
  unfold serve cleanup
  cases pc with
  | bind | listen | loop | select | accept | authorize client =>
      dsimp only
      split <;> exact ⟨_, _, _, rfl⟩
  | read client | lock call client =>
      dsimp only
      split_ifs <;> exact ⟨_, _, _, rfl⟩
  | afterBind | locked client | closeClient client => exact ⟨_, _, _, rfl⟩

/-- The other threads leave `main` where it is. -/
theorem main_step {e : ProcessEvent} (he : e ≠ .main) : (p.step sys P e).main = p.main := by
  unfold Process.step
  cases e with
  | main => exact absurd rfl he
  | work | wake | press | keyReturn =>
      dsimp only
      split_ifs <;> rfl
  | key | interrupt => rfl

end Process

/-! ## A system with visitors -/

/-- A client to come. -/
structure Visit where
  authorized : Bool
  sent : List UInt8
deriving DecidableEq, Repr

/-- A system on which every call succeeds, without key capture: the client that is connected and
those to come.  The listening socket is 3, and a client is 4. -/
def visited : DaemonSystem (Visit × List Visit) Nat where
  getenv _ _ := none
  sockDefault := bytes ['/', 's']
  sunPathSize := 108
  loggingInit o := (true, o)
  netStartup o := (true, o)
  accessControlBeforeBind o := (true, o)
  pthreadCreate o := (true, o)
  inputStart o := (false, o)
  unlink _ o := o
  socket o := (some 3, o)
  bind _ _ o := (true, o)
  listen _ o := (true, o)
  accessControlAfterBind _ o := (true, o)
  select _ o := (!o.2.isEmpty, o)
  accept _ o :=
    match o.2 with
    | [] => (.interrupted, o)
    | visit :: visits => (.client 4, visit, visits)
  accessControlIsAuthorized _ o := (o.1.authorized, o)
  recv _ size o := (some (o.1.sent.take size), o)
  netClose _ o := o
  netCleanup o := o
  printf _ o := o
  report _ o := o
  perror _ o := o

end Dimmit
