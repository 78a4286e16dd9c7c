import Dimmit.Command

/-!
# The client

`dimmit.c`: the command is in the name the program is invoked by.  A C string is the list of
the bytes before its terminator, and a bounded copy keeps the first of them.
-/

namespace Dimmit

open Delimited

variable {W S : Type}

/-- The calls `main` makes, and what it is compiled with. -/
structure ClientSystem (W S : Type) where
  /-- `getenv` of a name. -/
  getenv : List UInt8 → W → Option (List UInt8)
  /-- `DIMMIT_SOCK_DEFAULT`. -/
  sockDefault : List UInt8
  /-- `sizeof(addr.sun_path)`. -/
  sunPathSize : Nat
  /-- `net_startup`: whether it returned 0. -/
  netStartup : W → Bool × W
  /-- `socket`: `none` is `DIMMIT_BAD_SOCK`. -/
  socket : W → Option S × W
  /-- `connect` to a path: whether it succeeded. -/
  connect : S → List UInt8 → W → Bool × W
  /-- `send`: whether it succeeded. -/
  send : S → List UInt8 → W → Bool × W
  netClose : S → W → W
  netCleanup : W → W
  /-- `fprintf` of a finished text to `stderr`. -/
  report : List UInt8 → W → W
  perror : List UInt8 → W → W

/-! ## The invoked name -/

/-- Either path separator. -/
def isSeparator (c : UInt8) : Bool := c == 0x2f || c == 0x5c

/-- `base` of `main`: the loop moves it behind each separator of `argv[0]`. -/
def baseName (argv0 : List UInt8) : List UInt8 := afterScan isSeparator argv0 argv0

def exeSuffix : List UInt8 := bytes ['.', 'e', 'x', 'e']

/-- Cut one `.exe` off the end of `prog`. -/
def stripExe (prog : List UInt8) : List UInt8 :=
  if prog.length ≥ 4 ∧ prog.drop (prog.length - 4) = exeSuffix then prog.take (prog.length - 4)
  else prog

/-- `prog` of `main`, a buffer of 64 bytes. -/
def programName (argv0 : List UInt8) : List UInt8 := stripExe ((baseName argv0).take 63)

def dimmitUp : List UInt8 := bytes ['d', 'i', 'm', 'm', 'i', 't', '-', 'u', 'p']
def dimmitDown : List UInt8 := bytes ['d', 'i', 'm', 'm', 'i', 't', '-', 'd', 'o', 'w', 'n']

/-- `msg` of `main`: the command for an invocation name. -/
def message (prog : List UInt8) : Option (List UInt8) :=
  if prog = dimmitUp then some upWord
  else if prog = dimmitDown then some downWord
  else none

/-! ## `main` -/

def usageText (argv0 : List UInt8) : List UInt8 :=
  bytes ("Usage: ".toList) ++ argv0 ++ bytes (" (no arguments)\n".toList)

def unknownNameText (prog : List UInt8) : List UInt8 :=
  prog ++ bytes (": unknown invocation name (expected 'dimmit-up' or 'dimmit-down')\n".toList)

/-- `get_sock_path`. -/
def getSockPath (sys : ClientSystem W S) (w : W) : List UInt8 :=
  (sys.getenv (bytes ("DIMMIT_SOCK".toList)) w).getD sys.sockDefault

/-- One `send` of `main`, which reports a failure and goes on. -/
def sendReporting (sys : ClientSystem W S) (sock : S) (data : List UInt8) (w : W) : W :=
  match sys.send sock data w with
  | (true, w) => w
  | (false, w) => sys.perror (bytes ("send".toList)) w

/-- The part of `main` that talks to the daemon: its exit status and the world it leaves. -/
def deliver (sys : ClientSystem W S) (msg : List UInt8) (w : W) : Nat × W :=
  match sys.netStartup w with
  | (false, w) => (1, sys.report (bytes ("net_startup failed\n".toList)) w)
  | (true, w) =>
    match sys.socket w with
    | (none, w) => (1, sys.netCleanup (sys.perror (bytes ("socket".toList)) w))
    | (some sock, w) =>
      match sys.connect sock ((getSockPath sys w).take (sys.sunPathSize - 1)) w with
      | (false, w) =>
        (1, sys.netCleanup (sys.netClose sock (sys.perror (bytes ("connect".toList)) w)))
      | (true, w) =>
        let w := sendReporting sys sock msg w
        let w := if msg.getLast? = some newline then w else sendReporting sys sock [newline] w
        (0, sys.netCleanup (sys.netClose sock w))

/-- `main`. -/
def main (sys : ClientSystem W S) (argc : Int) (argv0 : List UInt8) (w : W) : Nat × W :=
  if argc ≠ 1 then (1, sys.report (usageText argv0) w)
  else
    match message (programName argv0) with
    | none => (1, sys.report (unknownNameText (programName argv0)) w)
    | some msg => deliver sys msg w

/-! ## What the client sends and says -/

inductive ClientEvent where
  | sent (data : List UInt8)
  | reported (text : List UInt8)
deriving DecidableEq

/-- The same system, writing what is sent and what is reported to a log. -/
def ClientSystem.logged (sys : ClientSystem W S) : ClientSystem (W × List ClientEvent) S where
  getenv name s := sys.getenv name s.1
  sockDefault := sys.sockDefault
  sunPathSize := sys.sunPathSize
  netStartup s := ((sys.netStartup s.1).1, (sys.netStartup s.1).2, s.2)
  socket s := ((sys.socket s.1).1, (sys.socket s.1).2, s.2)
  connect sock path s := ((sys.connect sock path s.1).1, (sys.connect sock path s.1).2, s.2)
  send sock data s := ((sys.send sock data s.1).1, (sys.send sock data s.1).2, s.2 ++ [.sent data])
  netClose sock s := (sys.netClose sock s.1, s.2)
  netCleanup s := (sys.netCleanup s.1, s.2)
  report text s := (sys.report text s.1, s.2 ++ [.reported text])
  perror text s := (sys.perror text s.1, s.2 ++ [.reported text])

/-- Every call that can fail succeeds. -/
structure ClientSystem.Succeeds (sys : ClientSystem W S) : Prop where
  netStartup : ∀ w, (sys.netStartup w).1 = true
  socket : ∀ w, (sys.socket w).1 ≠ none
  connect : ∀ sock path w, (sys.connect sock path w).1 = true
  send : ∀ sock data w, (sys.send sock data w).1 = true

/-- The texts sent, in order. -/
def sends (events : List ClientEvent) : List (List UInt8) :=
  events.filterMap fun
    | .sent data => some data
    | .reported _ => none

theorem sendReporting_logged {sys : ClientSystem W S} (hs : sys.Succeeds) (sock : S)
    (data : List UInt8) (s : W × List ClientEvent) :
    (sendReporting sys.logged sock data s).2 = s.2 ++ [.sent data] := by
  have h := hs.send sock data s.1
  unfold sendReporting
  rcases hd : sys.send sock data s.1 with ⟨_ | _, w⟩
  · rw [hd] at h
    cases h
  · simp [ClientSystem.logged, hd]

/-- When every call succeeds, a word is sent and then its newline. -/
theorem deliver_logged {sys : ClientSystem W S} (hs : sys.Succeeds) {msg : List UInt8}
    (hmsg : msg.getLast? ≠ some newline) (s : W × List ClientEvent) :
    (deliver sys.logged msg s).1 = 0 ∧
      (deliver sys.logged msg s).2.2 = s.2 ++ [.sent msg, .sent [newline]] := by
  have hstart := hs.netStartup s.1
  unfold deliver
  rcases h₁ : sys.logged.netStartup s with ⟨_ | _, s₁⟩
  · cases (congrArg Prod.fst h₁).symm.trans hstart
  have hlog₁ : s₁.2 = s.2 := (congrArg (·.2.2) h₁).symm
  have hsocket := hs.socket s₁.1
  rcases h₂ : sys.logged.socket s₁ with ⟨_ | sock, s₂⟩
  · exact absurd (congrArg Prod.fst h₂) hsocket
  have hlog₂ : s₂.2 = s₁.2 := (congrArg (·.2.2) h₂).symm
  simp only [h₂]
  have hconnect := hs.connect sock ((getSockPath sys.logged s₂).take (sys.sunPathSize - 1)) s₂.1
  rcases h₃ : sys.logged.connect sock
    ((getSockPath sys.logged s₂).take (sys.logged.sunPathSize - 1)) s₂ with ⟨_ | _, s₃⟩
  · cases (congrArg Prod.fst h₃).symm.trans hconnect
  have hlog₃ : s₃.2 = s₂.2 := (congrArg (·.2.2) h₃).symm
  simp only [if_neg hmsg]
  refine ⟨trivial, ?_⟩
  change (sendReporting sys.logged sock [newline] (sendReporting sys.logged sock msg s₃)).2 = _
  rw [sendReporting_logged hs, sendReporting_logged hs, hlog₃, hlog₂, hlog₁, List.append_assoc]
  rfl

/-! ## Which names are commands -/

/-- `base` is `name`, with or without one `.exe`. -/
def Invokes (name base : List UInt8) : Prop := base = name ∨ base = name ++ exeSuffix

instance (name base : List UInt8) : Decidable (Invokes name base) :=
  inferInstanceAs (Decidable (_ ∨ _))

theorem baseName_eq (argv0 : List UInt8) : baseName argv0 = after isSeparator argv0 :=
  afterScan_eq isSeparator [] argv0 fun _ h ↦ nomatch h

/-- Cutting a suffix leaves `name` of `name` and of `name.exe` only. -/
theorem stripExe_eq_iff {name : List UInt8} (hname : ¬ exeSuffix <:+ name) (prog : List UInt8) :
    stripExe prog = name ↔ Invokes name prog := by
  unfold stripExe Invokes
  split_ifs with h
  · obtain ⟨hlen, hdrop⟩ := h
    have hsplit : prog.take (prog.length - 4) ++ exeSuffix = prog := by
      rw [← hdrop, List.take_append_drop]
    constructor
    · intro he
      exact .inr (by rw [← he, hsplit])
    · rintro (rfl | he)
      · exact absurd ⟨_, hsplit⟩ hname
      · exact List.append_cancel_right (hsplit.trans he)
  · constructor
    · intro he
      exact .inl he
    · rintro (rfl | rfl)
      · rfl
      · exact absurd ⟨by simp [exeSuffix, bytes], by simp [exeSuffix, bytes]⟩ h

/-- A short text is not the cut of a longer one. -/
theorem take_eq_iff {n : Nat} {text word : List UInt8} (h : word.length < n) :
    text.take n = word ↔ text = word := by
  constructor
  · intro he
    have hlen := congrArg List.length he
    rw [List.length_take] at hlen
    rw [← he, List.take_of_length_le (by omega)]
  · rintro rfl
    exact List.take_of_length_le h.le

theorem programName_eq_iff {name : List UInt8} (hname : ¬ exeSuffix <:+ name)
    (hlen : name.length < 59) (argv0 : List UInt8) :
    programName argv0 = name ↔ Invokes name (after isSeparator argv0) := by
  have hexe : (name ++ exeSuffix).length < 63 := by
    rw [List.length_append]
    change name.length + 4 < 63
    omega
  rw [programName, stripExe_eq_iff hname, Invokes, take_eq_iff (by omega), take_eq_iff hexe,
    baseName_eq]
  rfl

theorem programName_eq_dimmitUp_iff (argv0 : List UInt8) :
    programName argv0 = dimmitUp ↔ Invokes dimmitUp (after isSeparator argv0) :=
  programName_eq_iff (by decide) (by decide) argv0

theorem programName_eq_dimmitDown_iff (argv0 : List UInt8) :
    programName argv0 = dimmitDown ↔ Invokes dimmitDown (after isSeparator argv0) :=
  programName_eq_iff (by decide) (by decide) argv0

/-- The daemon recognises a word whose newline has or has not arrived with it. -/
theorem readCommand_of_word {word : List UInt8} (hw : CommandWord word) (s : StreamSocket)
    (h : s.next 15 = word ∨ s.next 15 = word ++ [newline]) :
    (readCommand StreamSocket.recv s).1 = direction word := by
  rw [readCommand_fst]
  refine congrArg direction ((cstr_commandBuffer_eq_iff hw _).mpr ?_)
  rcases h with h | h
  · exact .inl h
  · exact .inr (.inl h)

/-- Alone, `main` sends the command its name is understood as. -/
theorem main_eq_deliver (sys : ClientSystem W S) {argv0 msg : List UInt8}
    (h : message (programName argv0) = some msg) (w : W) :
    main sys 1 argv0 w = deliver sys msg w := by
  rw [main, if_neg (not_not.mpr rfl), h]

theorem main_eq_report (sys : ClientSystem W S) {argv0 : List UInt8}
    (h : message (programName argv0) = none) (w : W) :
    main sys 1 argv0 w = (1, sys.report (unknownNameText (programName argv0)) w) := by
  rw [main, if_neg (not_not.mpr rfl), h]

/-- **The client and the daemon agree on the command.**

For every `argv[0]`, when every call succeeds: the name after the last separator decides, also
where it is longer than the buffer it is copied to.  A name of a command sends its word and the
newline, which `read_command` understands whether its `recv` gets the word alone or both; any
other name is reported and nothing is sent. -/
theorem client_and_daemon_agree {sys : ClientSystem W S} (hs : sys.Succeeds)
    (argv0 : List UInt8) (w : W) :
    let base := after isSeparator argv0
    let result := main sys.logged 1 argv0 (w, [])
    let events := result.2.2
    (sends events ≠ [] ↔ Invokes dimmitUp base ∨ Invokes dimmitDown base) ∧
    (Invokes dimmitUp base → result.1 = 0 ∧ events = [.sent upWord, .sent [newline]] ∧
      ∀ s : StreamSocket, s.next 15 = upWord ∨ s.next 15 = upWord ++ [newline] →
        (readCommand StreamSocket.recv s).1 = 1) ∧
    (Invokes dimmitDown base → result.1 = 0 ∧ events = [.sent downWord, .sent [newline]] ∧
      ∀ s : StreamSocket, s.next 15 = downWord ∨ s.next 15 = downWord ++ [newline] →
        (readCommand StreamSocket.recv s).1 = -1) ∧
    (¬ (Invokes dimmitUp base ∨ Invokes dimmitDown base) →
      result.1 = 1 ∧ events = [.reported (unknownNameText (programName argv0))]) := by
  intro base result events
  have hup (h : Invokes dimmitUp base) :
      result.1 = 0 ∧ events = [.sent upWord, .sent [newline]] := by
    have hmsg : message (programName argv0) = some upWord := by
      rw [(programName_eq_dimmitUp_iff argv0).mpr h]
      decide
    have hmain : result = _ := main_eq_deliver sys.logged hmsg (w, [])
    rw [show events = result.2.2 from rfl, hmain]
    exact deliver_logged hs (by decide) (w, [])
  have hdown (h : Invokes dimmitDown base) :
      result.1 = 0 ∧ events = [.sent downWord, .sent [newline]] := by
    have hmsg : message (programName argv0) = some downWord := by
      rw [(programName_eq_dimmitDown_iff argv0).mpr h]
      decide
    have hmain : result = _ := main_eq_deliver sys.logged hmsg (w, [])
    rw [show events = result.2.2 from rfl, hmain]
    exact deliver_logged hs (by decide) (w, [])
  have hother (h : ¬ (Invokes dimmitUp base ∨ Invokes dimmitDown base)) :
      result.1 = 1 ∧ events = [.reported (unknownNameText (programName argv0))] := by
    obtain ⟨hnup, hndown⟩ := not_or.mp h
    have hmsg : message (programName argv0) = none := by
      rw [message, if_neg (mt (programName_eq_dimmitUp_iff argv0).mp hnup),
        if_neg (mt (programName_eq_dimmitDown_iff argv0).mp hndown)]
    have hmain : result = _ := main_eq_report sys.logged hmsg (w, [])
    exact ⟨congrArg Prod.fst hmain, congrArg (·.2.2) hmain⟩
  refine ⟨⟨?_, ?_⟩, ?_, ?_, hother⟩
  · intro hsent
    by_contra h
    exact hsent (by rw [(hother h).2]; rfl)
  · rintro (h | h)
    · rw [(hup h).2]
      exact List.cons_ne_nil _ _
    · rw [(hdown h).2]
      exact List.cons_ne_nil _ _
  · intro h
    exact ⟨(hup h).1, (hup h).2, fun s hs ↦ readCommand_of_word commandWord_upWord s hs⟩
  · intro h
    exact ⟨(hdown h).1, (hdown h).2, fun s hs ↦ readCommand_of_word commandWord_downWord s hs⟩

/-- A client with a path, a suffix and a name far longer than the buffer. -/
theorem client_and_daemon_agree_windows :
    let sys : ClientSystem Unit Unit :=
      { getenv := fun _ _ ↦ none, sockDefault := bytes ['/', 't', 'm', 'p'], sunPathSize := 108
        netStartup := fun w ↦ (true, w), socket := fun w ↦ (some (), w)
        connect := fun _ _ w ↦ (true, w), send := fun _ _ w ↦ (true, w)
        netClose := fun _ w ↦ w, netCleanup := fun w ↦ w
        report := fun _ w ↦ w, perror := fun _ w ↦ w }
    (main sys.logged 1 (bytes ['C', ':', '\\'] ++ dimmitUp ++ exeSuffix) ((), [])).2.2 =
        [.sent upWord, .sent [newline]] ∧
      sends (main sys.logged 1 (dimmitUp ++ List.replicate 60 0x2e) ((), [])).2.2 = [] := by
  intro sys
  have hs : sys.Succeeds := ⟨fun _ ↦ rfl, fun _ ↦ nofun, fun _ _ _ ↦ rfl, fun _ _ _ ↦ rfl⟩
  constructor
  · exact ((client_and_daemon_agree hs _ ()).2.1 (.inr (by decide))).2.1
  · rw [((client_and_daemon_agree hs _ ()).2.2.2 (by decide +kernel)).2]
    rfl

end Dimmit
