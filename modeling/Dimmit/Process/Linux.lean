import Dimmit.AccessControl
import Dimmit.Process.Levels

/-!
# The daemon on Linux

The hooks of `platform/access-control/linux.c` around the socket, and `input_start` of
`platform/input/linux.c`.  The daemon runs as root and hands its socket to a group; whoever is
heard was judged a member of it, so only members press.
-/

namespace Dimmit

open Run Trace

variable {W R H O S : Type}

/-- The calls of `platform/access-control/linux.c`. -/
structure LinuxCalls (O S : Type) extends LinuxAccess O S where
  geteuid : O → UInt32
  /-- `chown` with a path, a user and a group. -/
  chown : List UInt8 → UInt32 → UInt32 → O → Bool × O
  /-- `chmod` with a path and a mode. -/
  chmod : List UInt8 → UInt32 → O → Bool × O

/-- The gating group. -/
def i2cGroup : CString := ['i', '2', 'c']

namespace LinuxCalls

/-- `access_control_before_bind`. -/
def accessControlBeforeBind (calls : LinuxCalls O S) (report : List UInt8 → O → O) (o : O) :
    Bool × O :=
  if calls.geteuid o ≠ 0 then
    (false, report
      (bytes ("error: dimmitd requires root on Linux for /dev/i2c-* access\n".toList)) o)
  else (true, o)

/-- `access_control_after_bind`. -/
def accessControlAfterBind (calls : LinuxCalls O S) (perror : List UInt8 → O → O)
    (sockPath : List UInt8) (o : O) : Bool × O :=
  let (grp, o) := calls.getgrnam i2cGroup o
  let (owned, o) := grp.elim (true, o) fun gid ↦ calls.chown sockPath 0 gid o
  if owned then
    match calls.chmod sockPath 0o660 o with
    | (true, o) => (true, o)
    | (false, o) => (false, perror (bytes ("chmod".toList)) o)
  else (false, perror (bytes ("chown".toList)) o)

end LinuxCalls

/-- The system on Linux: its access control, and no key capture. -/
def DaemonSystem.onLinux (sys : DaemonSystem O S) (calls : LinuxCalls O S) : DaemonSystem O S :=
  { sys with
    accessControlBeforeBind := calls.accessControlBeforeBind sys.report
    accessControlAfterBind := calls.accessControlAfterBind sys.perror
    accessControlIsAuthorized := fun client o ↦
      let (authorized, o) := linuxAccessControlIsAuthorized calls.toLinuxAccess client o
      (authorized = some true, o)
    inputStart := fun o ↦ (false, o) }

/-! ## Who is let in -/

/-- The peer of `client` is known, and if there is a gating group, it is the primary group of its
entry, or its group, or one that it is then a member of. -/
def LinuxAccess.LetsIn (calls : LinuxAccess O S) (member : O → CString → UInt32 → Prop)
    (client : S) (o : O) : Prop :=
  ∃ uid gid o₁, calls.getsockopt client o = (some (uid, gid), o₁) ∧
    ∀ grp o₂, calls.getgrnam i2cGroup o₁ = (some grp, o₂) →
      let pw := (calls.getpwuid uid o₂).1
      IsPrimary grp pw ∨ grp = gid ∨ member (calls.getpwuid uid o₂).2 (passwdName pw) grp

/-- A peer that is judged authorized is let in. -/
theorem LinuxAccess.letsIn_of_authorized {calls : LinuxAccess O S}
    {member : O → CString → UInt32 → Prop} {answer : O → CString → UInt32 → List UInt32}
    (law : GroupListLaw calls.toAccountCalls member answer) {client : S} {o : O}
    (h : (linuxAccessControlIsAuthorized calls client o).1 = some true) :
    calls.LetsIn member client o := by
  have hdecides : Decides calls.toAccountCalls calls.getsockopt i2cGroup member answer
      (linuxAccessControlIsAuthorized calls) := decides_accessControlIsAuthorized law
  have hclosed : FailsClosed calls.toAccountCalls calls.getsockopt i2cGroup
      (linuxAccessControlIsAuthorized calls) := failsClosed_accessControlIsAuthorized ..
  rcases hpeer : calls.getsockopt client o with ⟨_ | ⟨uid, gid⟩, o₁⟩
  · have hno := hclosed.unknown client o (congrArg Prod.fst hpeer)
    exact absurd (h.symm.trans hno) (by decide)
  · refine ⟨uid, gid, o₁, hpeer, fun grp o₂ hgrp ↦ ?_⟩
    rcases hpw : calls.getpwuid uid o₂ with ⟨pw, o₃⟩
    have hfound : Identified calls.toAccountCalls calls.getsockopt i2cGroup client o uid gid grp pw
        o₃ := ⟨o₁, o₂, hpeer, hgrp, hpw⟩
    by_cases hprim : IsPrimary grp pw
    · exact .inl hprim
    · by_cases hfails : AllocationFails calls.toAccountCalls (passwdName pw) gid o₃
      · have hno := hclosed.closed hfound hprim (.inl hfails)
        exact absurd (h.symm.trans hno) (by decide)
      · obtain ⟨b, hb, hmem⟩ := hdecides.exactly hfound (.inr hfails)
        exact hmem.mp (Option.some_injective _ (hb.symm.trans h))

/-! ## The judgement and the run -/

/-- Only at one statement is a client judged. -/
theorem Road.authorize_of_judged {name path : List UInt8} {m m' : MainPc S}
    {calls : List (SocketCall S)} (h : Road name path m calls m') {client : S} {authorized : Bool}
    (hmem : .judged client authorized ∈ calls) : ∃ sock, m = .serving sock (.authorize client) := by
  cases h with
  | authorize sock client' | deny sock client' =>
      cases List.mem_singleton.mp hmem
      exact ⟨sock, rfl⟩
  | unlinkStale | openSocket sock | bind sock | bindFails sock | listen sock | listenFails sock
  | ready sock | idle sock | accept sock client' | command sock client' h | ignore sock client' h
  | closeClient sock client' => cases List.mem_singleton.mp hmem
  | rest | createWorker | noWorker | startInput | noSocket | afterBind sock | loop sock
  | stopped sock | interrupted sock | acceptFails sock | lock sock call client'
  | unlock sock client' | close sock bound h hs hf => cases hmem
  | closeSocket sock bound =>
      obtain ⟨sock', -, hclosed⟩ := Option.map_eq_some_iff.mp (Option.mem_toList.mp hmem)
      cases hclosed
  | unlinkSocket sock bound =>
      cases bound with
      | true => cases List.mem_singleton.mp hmem
      | false => cases hmem

namespace Process

variable {Ctx : Type} {sys : DaemonSystem O S} {P : Provider W Ctx}
  {p : Process W Ctx (O × List (SocketCall S)) S}

theorem os_authorize {sock client : S} (hm : p.main = .serving sock (.authorize client)) :
    (p.step sys.logged P .main).os.2 =
      p.os.2 ++ [.judged client (sys.accessControlIsAuthorized client p.os.1).1] := by
  change (p.mainStep sys.logged P).os.2 = _
  unfold mainStep
  rw [hm]
  unfold serve
  dsimp only [DaemonSystem.logged]
  rcases sys.accessControlIsAuthorized client p.os.1 with ⟨_ | _, o⟩ <;> rfl

theorem judged_of_step {e : ProcessEvent} {new rest : List (SocketCall S)} {client : S}
    {authorized : Bool}
    (h : (p.step sys.logged P e).os.2 = p.os.2 ++ (new ++ .judged client authorized :: rest)) :
    e = .main ∧ new = [] ∧ (∃ sock, p.main = .serving sock (.authorize client)) ∧
      (sys.accessControlIsAuthorized client p.os.1).1 = authorized := by
  by_cases he : e = .main
  · subst he
    obtain ⟨calls, hos, hroad⟩ := goes_step sys P p .main
    obtain rfl := List.append_cancel_left (hos.symm.trans h)
    obtain ⟨sock, hm⟩ := hroad.authorize_of_judged
      (List.mem_append_right _ List.mem_cons_self)
    have hone := List.append_cancel_left ((os_authorize hm).symm.trans h)
    obtain ⟨rfl, hjudged⟩ | ⟨-, hnil⟩ := List.singleton_eq_append_iff.mp hone
    · cases hjudged
      exact ⟨rfl, rfl, ⟨sock, hm⟩, rfl⟩
    · cases hnil
  · rw [os_step he] at h
    have hnone := List.self_eq_append_right.mp h
    exact absurd hnone (List.append_ne_nil_of_right_ne_nil _ (List.cons_ne_nil _ _))

/-- Every judgement in the log was made at a state of the run. -/
theorem judged_of_log {o : O} {w : W} (h : startup sys.logged P (o, []) w = .ok p)
    {events : List ProcessEvent} {before later : List (SocketCall S)} {client : S}
    {authorized : Bool}
    (hlog : (p.run sys.logged P events).os.2 = before ++ .judged client authorized :: later) :
    ∃ earlier rest, events = earlier ++ .main :: rest ∧
      let q := p.run sys.logged P earlier
      before = q.os.2 ∧ (∃ sock, q.main = .serving sock (.authorize client)) ∧
        (sys.accessControlIsAuthorized client q.os.1).1 = authorized := by
  let log (p : Process W Ctx (O × List (SocketCall S)) S) := p.os.2
  have hgrow (p : Process W Ctx (O × List (SocketCall S)) S) (e : ProcessEvent) :
      ∃ new, log (p.step sys.logged P e) = log p ++ new := by
    obtain ⟨calls, hos, -⟩ := goes_step sys P p e
    exact ⟨calls, hos⟩
  obtain ⟨earlier, e, rest, new, others, hevents, hbefore, hstep⟩ :=
    exists_origin log hgrow (startup_logged h).1 hlog
  obtain ⟨rfl, rfl, hmain, hanswer⟩ := judged_of_step hstep
  exact ⟨earlier, rest, hevents, hbefore.trans (List.append_nil _), hmain, hanswer⟩

end Process

/-- **On Linux only members of the group press.**  In every run, over any backend and any system:
whoever is heard was judged just before, by a step of `main` at a state in which the group lets the
peer in; and all presses of the daemon, with the one `main` is on its way to, are those that the
heard clients have asked for, in their order. -/
theorem linux_only_members_press (sys : DaemonSystem O S) (calls : LinuxCalls O S)
    {member : O → CString → UInt32 → Prop} {answer : O → CString → UInt32 → List UInt32}
    (law : GroupListLaw calls.toAccountCalls member answer) (impl : Implementation W R H) {o : O}
    {w : W} {p : Process W H (O × List (SocketCall S)) S}
    (h : startup (sys.onLinux calls).logged (ddcProvider impl) (o, []) w = .ok p)
    (events : List ProcessEvent) :
    let run := p.run (sys.onLinux calls).logged (ddcProvider impl)
    let made := trace (Process.step (sys.onLinux calls).logged (ddcProvider impl)) Process.calls p
      events
    (∀ log client data later, (run events).os.2 = log ++ .received client data :: later →
      ∃ earlier rest, events = earlier ++ .main :: rest ∧
        log = (run earlier).os.2 ++ [.judged client true] ∧
        calls.toLinuxAccess.LetsIn member client (run earlier).os.1) ∧
    fractions (made.map Prod.snd) ++ (run events).inFlight =
      (run events).os.2.flatMap SocketCall.press := by
  intro run made
  have hserved : (run events).Served impl made := Process.served_run h events
  constructor
  · intro log client data later hlog
    obtain ⟨before, rfl⟩ := hserved.judged_of_received hlog
    rw [List.append_assoc] at hlog
    obtain ⟨earlier, rest, hevents, rfl, -, hanswer⟩ := Process.judged_of_log h hlog
    refine ⟨earlier, rest, hevents, rfl, LinuxAccess.letsIn_of_authorized law ?_⟩
    exact of_decide_eq_true hanswer
  · have hcapture : p.capture = .absent := by
      obtain ⟨-, o', rfl⟩ := startup_eq_ok h
      rfl
    have hmain := Process.presses_of_main (sys.onLinux calls).logged (fun _ ↦ rfl)
      (Process.inv_startup h) hcapture events
    rw [fractions_map_snd hmain]
    exact hserved.presses

/-! ## A visit -/

/-- The same accounts, whatever the state. -/
def AccountCalls.over (sys : AccountCalls Unit) (O : Type) : AccountCalls O where
  getgrnam group o := ((sys.getgrnam group ()).1, o)
  getpwuid uid o := ((sys.getpwuid uid ()).1, o)
  malloc bytes o := ((sys.malloc bytes ()).1, o)
  realloc groups bytes o := ((sys.realloc groups bytes ()).1, o)
  getgrouplist uname gid _ groups ngroups o := ((sys.getgrouplist uname gid groups ngroups ()).1, o)

theorem GroupListLaw.over {sys : AccountCalls Unit} {member : Unit → CString → UInt32 → Prop}
    {answer : Unit → CString → UInt32 → List UInt32} (law : GroupListLaw sys member answer)
    (O : Type) : GroupListLaw (sys.over O) (fun _ ↦ member ()) (fun _ ↦ answer ()) where
  mem_answer _ := law.mem_answer ()
  short uname gid _ groups ngroups _ := law.short uname gid groups ngroups ()
  fits uname gid _ groups ngroups _ := law.fits uname gid groups ngroups ()
  malloc _ _ := rfl
  realloc _ _ _ := rfl
  repeated _ _ _ _ _ _ := rfl

/-- Root runs the daemon; a visitor who is authorized is a user in the gating group. -/
def visitedLinux : LinuxCalls (Visit × List Visit) Nat :=
  { (sampleAccounts ⟨['u'], 1000⟩ [107] 107).over (Visit × List Visit) with
    getsockopt := fun _ o ↦ (if o.1.authorized then some (1000, 1000) else none, o)
    geteuid := fun _ ↦ 0
    chown := fun _ _ _ o ↦ (true, o)
    chmod := fun _ _ o ↦ (true, o) }

/-- The first visitor is in the group and presses; the second is sent away. -/
theorem linux_only_members_press_visited :
    (∃ earlier, visitedLinux.LetsIn (fun _ uname g ↦ uname = ['u'] ∧ g ∈ [107]) 4
      (visitedServer.run (visited.onLinux visitedLinux).logged (ddcProvider oneDisplay)
        earlier).os.1) ∧
      (visitedServer.run (visited.onLinux visitedLinux).logged (ddcProvider oneDisplay)
        (List.replicate 24 .main)).os.2.flatMap SocketCall.press = [1 / 16] := by
  have hpressed := linux_only_members_press visited visitedLinux
    ((groupListLaw_sampleAccounts ⟨['u'], 1000⟩ 107 (by decide)).over _) oneDisplay
    (o := (⟨false, []⟩, [⟨true, upWord ++ [newline]⟩, ⟨false, downWord⟩]))
    (w := .ready [⟨0, 100, 0, 50⟩]) (p := visitedServer) rfl (List.replicate 24 .main)
  constructor
  · have hlog : (visitedServer.run (visited.onLinux visitedLinux).logged (ddcProvider oneDisplay)
        (List.replicate 24 .main)).os.2 =
        [.unlinked visitedServer.sockPath, .opened 3, .bound 3 visitedServer.sockPath true,
          .listened 3 true, .selected 3 true, .accepted 3 4, .judged 4 true] ++
        .received 4 (some (upWord ++ [newline])) ::
        [.closed 4, .selected 3 true, .accepted 3 4, .judged 4 false, .closed 4,
          .selected 3 false] := by decide +kernel
    obtain ⟨earlier, -, -, -, hin⟩ := hpressed.1 _ _ _ _ hlog
    exact ⟨earlier, hin⟩
  · exact hpressed.2.symm.trans (by decide +kernel)

end Dimmit
