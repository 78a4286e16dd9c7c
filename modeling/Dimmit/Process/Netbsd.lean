import Dimmit.Ddc.Netbsd
import Dimmit.Process.Writes

/-!
# The daemon on NetBSD

`platform/ddc/netbsd.c` takes a reply for one only if it begins with `DDC_REPLY_ADDR`, which is the
address its reads go to; a frame begins with the address of its sender.  So as long as the displays
speak in frames none of them ever answers, and by the controllability rule none is managed.
-/

namespace Dimmit

open Frame

variable {W FD O S : Type}

namespace I2cSystem

/-- What is read from the bus begins with a frame of a display, whatever it says: a Null message is
the frame of no bytes. -/
def Framed (sys : I2cSystem W FD) : Prop :=
  ∀ fd w reply, (sys.read fd ddcAddr7Bit 12 w).1 = some reply →
    ∃ payload left, replyLink.parse reply.toList = some (payload, left)

/-- The same bus, writing what is put on it to a log, with the address it is put there for. -/
def logged (sys : I2cSystem W FD) : I2cSystem (W × List (UInt8 × List UInt8)) FD where
  openDevice path s :=
    let (fd, w) := sys.openDevice path s.1
    (fd, w, s.2)
  closeDevice fd s := (sys.closeDevice fd s.1, s.2)
  write fd addr cmd s :=
    let (ok, w) := sys.write fd addr cmd s.1
    (ok, w, s.2 ++ [(addr, cmd)])
  read fd addr size s :=
    let (reply, w) := sys.read fd addr size s.1
    (reply, w, s.2)
  usleep n s := (sys.usleep n s.1, s.2)
  alloc s :=
    let (ok, w) := sys.alloc s.1
    (ok, w, s.2)

theorem Framed.logged {sys : I2cSystem W FD} (h : sys.Framed) : sys.logged.Framed :=
  fun fd s reply hreply ↦ h fd s.1 reply hreply

/-- A frame of a display is no answer. -/
theorem Framed.get_eq_none {sys : I2cSystem W FD} (h : sys.Framed) (d : NetbsdHandle FD)
    (featureCode : UInt8) (w : W) :
    (netbsdGetNonTableVcpValue sys d featureCode w).1 = none := by
  unfold netbsdGetNonTableVcpValue
  rcases sys.write d.fd ddcAddr7Bit (getCommand featureCode) w with ⟨_ | _, w₁⟩
  · rfl
  rcases hread : sys.read d.fd ddcAddr7Bit 12 (sys.usleep 40000 w₁) with ⟨_ | reply, w₂⟩
  · simp only [hread]
  · obtain ⟨payload, left, hparse⟩ := h _ _ reply (congrArg Prod.fst hread)
    have hfirst : reply.toList.head? = some 0x6e := Link.head?_of_parse hparse
    have hwrong : ¬ LooksRight featureCode reply := by
      rintro ⟨h₀, -, -⟩
      have hsame : reply.toList.head? = some reply[0] := by simp [List.head?_eq_getElem?]
      rw [hsame, h₀] at hfirst
      exact absurd hfirst (by decide)
    simp only [hread, netbsdReply_of_not_looksRight hwrong]

/-! ## What the backend asks -/

/-- Every call keeps the fact `J`, and of the writes those that ask for a feature. -/
structure Asks (sys : I2cSystem W FD) (J : W → Prop) : Prop where
  openDevice : ∀ {w} (path), J w → J (sys.openDevice path w).2
  closeDevice : ∀ {w} (fd), J w → J (sys.closeDevice fd w)
  ask : ∀ {w} (fd featureCode), J w → J (sys.write fd ddcAddr7Bit (getCommand featureCode) w).2
  read : ∀ {w} (fd size), J w → J (sys.read fd ddcAddr7Bit size w).2
  usleep : ∀ {w} (n), J w → J (sys.usleep n w)
  alloc : ∀ {w}, J w → J (sys.alloc w).2

namespace Asks

variable {sys : I2cSystem W FD} {J : W → Prop}

theorem testPaths (h : sys.Asks J) (paths : List CString) {w : W} (hw : J w) :
    J (netbsdTestPaths sys paths w).2 := by
  induction paths generalizing w with
  | nil => exact hw
  | cons path paths ih =>
      rw [netbsdTestPaths]
      have hopened := h.openDevice path hw
      rcases ho : sys.openDevice path w with ⟨_ | fd, w₁⟩ <;> rw [ho] at hopened
      · exact ih hopened
      have hasked := h.ask fd vcpBrightness hopened
      change J (sys.write fd ddcAddr7Bit testCommand w₁).2 at hasked
      rcases hw₂ : sys.write fd ddcAddr7Bit testCommand w₁ with ⟨_ | _, w₂⟩ <;> rw [hw₂] at hasked
      · simp only [hw₂]
        exact ih (h.closeDevice fd hasked)
      have hw₃ := h.alloc hasked
      rcases ha : sys.alloc w₂ with ⟨_ | _, w₃⟩ <;> rw [ha] at hw₃
      · simp only [hw₂, ha]
        exact h.closeDevice fd hw₃
      have hw₄ := h.alloc hw₃
      rcases ha' : sys.alloc w₃ with ⟨_ | _, w₄⟩ <;> rw [ha'] at hw₄
      · simp only [hw₂, ha, ha']
        exact h.closeDevice fd hw₄
      have hrest := ih (h.closeDevice fd hw₄)
      simp only [hw₂, ha, ha']
      rcases hr : netbsdTestPaths sys paths (sys.closeDevice fd w₄) with ⟨_ | infos, w₅⟩ <;>
        rw [hr] at hrest <;> exact hrest

theorem getDisplayInfoList (h : sys.Asks J) {w : W} (hw : J w) :
    J (netbsdGetDisplayInfoList sys w).2 := by
  unfold netbsdGetDisplayInfoList
  have halloc := h.alloc hw
  rcases ha : sys.alloc w with ⟨_ | _, w₁⟩ <;> rw [ha] at halloc
  · exact halloc
  · have hpaths := h.testPaths netbsdPaths halloc
    dsimp only
    split
    · rename_i hr
      rwa [hr] at hpaths
    · rename_i hr
      rw [hr] at hpaths
      split_ifs <;> exact hpaths

/-- The calls of the backend but the write keep what asking keeps. -/
theorem keeps (h : sys.Asks J) : (netbsdImplementation sys).Keeps fun w ↦ J w.system where
  getDisplayInfoList hw := h.getDisplayInfoList hw
  freeDisplayInfoList _ hw := hw
  openDisplay {w} dref hw := by
    have hopened := h.openDevice dref hw
    dsimp only [netbsdImplementation, netbsdOpenDisplay]
    rcases ho : sys.openDevice dref w.system with ⟨_ | fd, w₁⟩ <;> rw [ho] at hopened
    · exact hopened
    have halloc := h.alloc hopened
    rcases ha : sys.alloc w₁ with ⟨_ | _, w₂⟩ <;> rw [ha] at halloc <;> simp only [ha]
    · exact h.closeDevice fd halloc
    · exact halloc
  closeDisplay {w} i hw := by
    dsimp only [netbsdImplementation]
    cases w.handles[i]? with
    | none => exact hw
    | some d => exact h.closeDevice d.fd hw
  getNonTableVcpValue {w} i featureCode hw := by
    dsimp only [netbsdImplementation]
    cases w.handles[i]? with
    | none => exact hw
    | some d =>
        have hasked := h.ask d.fd featureCode hw
        dsimp only [netbsdGetNonTableVcpValue]
        rcases hw₁ : sys.write d.fd ddcAddr7Bit (getCommand featureCode) w.system with
          ⟨_ | _, w₁⟩ <;> rw [hw₁] at hasked
        · exact hasked
        have hread := h.read d.fd 12 (h.usleep 40000 hasked)
        rcases hr : sys.read d.fd ddcAddr7Bit 12 (sys.usleep 40000 w₁) with ⟨_ | reply, w₂⟩ <;>
          rw [hr] at hread
        · simpa only [hr] using hread
        · simpa only [hr] using hread
  calloc hw := h.alloc hw

end Asks

/-- On the bus there are requests to read a feature, and nothing else. -/
def OnlyAsked (sent : List (UInt8 × List UInt8)) : Prop :=
  ∀ command ∈ sent, ∃ featureCode, command = (ddcAddr7Bit, getCommand featureCode)

theorem asks_logged (sys : I2cSystem W FD) : sys.logged.Asks fun s ↦ OnlyAsked s.2 where
  openDevice _ hs := hs
  closeDevice _ hs := hs
  ask _ featureCode hs :=
    List.forall_mem_append.mpr ⟨hs, List.forall_mem_singleton.mpr ⟨featureCode, rfl⟩⟩
  read _ _ hs := hs
  usleep _ hs := hs
  alloc hs := hs

/-- Where the displays speak in frames nothing is controllable, so asking is all there is. -/
theorem Framed.controllability {sys : I2cSystem W FD} (h : sys.Framed) :
    Controllability (netbsdImplementation sys.logged) (fun w ↦ OnlyAsked w.system.2)
      (fun _ _ ↦ False) where
  keeps := sys.asks_logged.keeps
  probed {w w' w'' r i v} _ _ hread := by
    dsimp only [netbsdImplementation] at hread
    cases hi : w'.handles[i]? with
    | none =>
        rw [hi] at hread
        cases hread
    | some d =>
        rw [hi] at hread
        have hanswer : (netbsdGetNonTableVcpValue sys.logged d vcpBrightness w'.system).1 = some v :=
          congrArg Prod.fst hread
        rw [h.logged.get_eq_none d vcpBrightness w'.system] at hanswer
        cases hanswer
  stays _ := ⟨id, fun _ ↦ id, fun _ ↦ id, fun _ ↦ id, fun _ _ ↦ id, id⟩
  wrote _ _ _ _ hno := hno.elim
  stays_wrote _ _ _ hno := hno.elim

end I2cSystem

/-- **Displays that speak DDC/CI are never controlled on NetBSD.**  In every run of the process, over
any bus on which what is read begins with a frame of a display, whatever is pressed: no display is
managed, and nothing but requests to read a feature goes out. -/
theorem netbsd_only_asks (dsys : DaemonSystem O S) {sys : I2cSystem W FD} (hframed : sys.Framed)
    {o : O} {w : W} {p : Process (NetbsdWorld (W × List (UInt8 × List UInt8)) FD) Nat O S}
    (h : startup dsys (ddcProvider (netbsdImplementation sys.logged)) o ⟨(w, []), []⟩ = .ok p)
    (events : List ProcessEvent) :
    let s := (p.run dsys (ddcProvider (netbsdImplementation sys.logged)) events).daemon.session
    controllerCount s.controller = 0 ∧ ∀ command ∈ s.world.system.2, ∃ featureCode,
      command = (ddcAddr7Bit, getCommand featureCode) := by
  intro s
  have hcontrols : s.Controls _ _ := Process.controls_run hframed.controllability
    (fun _ hnil ↦ absurd hnil List.not_mem_nil) h events
  refine ⟨?_, hcontrols.fact⟩
  cases hc : s.controller with
  | none => rfl
  | some c =>
      change c.sources.length = 0
      exact List.length_eq_zero_iff.mpr
        (List.eq_nil_iff_forall_not_mem.mpr (hcontrols.controllable c hc))

/-- A display at 50 of 100, which answers as DDC/CI has it. -/
def framedBus : I2cSystem Unit Unit :=
  answeringBus [0x6e, 0x88, 0x02, 0x00, 0x10, 0x00, 0x00, 0x64, 0x00, 0x32, 0xf2]

theorem framed_framedBus : framedBus.Framed := by
  rintro fd w _ ⟨⟩
  exact ⟨[0x02, 0x00, 0x10, 0x00, 0x00, 0x64, 0x00, 0x32], [0x00], by decide⟩

/-- The process on that bus, which is visited twice. -/
def visitedNetbsd : Process (NetbsdWorld (Unit × List (UInt8 × List UInt8)) Unit) Nat
    (Visit × List Visit) Nat where
  daemon := .boot (ddcProvider (netbsdImplementation framedBus.logged)) ⟨((), []), []⟩
  os := (⟨false, []⟩, [⟨true, upWord ++ [newline]⟩, ⟨false, downWord⟩])
  sockPath := bytes ['/', 's']
  main := .createWorker
  workerStarted := false
  capture := .absent

/-- The display was asked on each of four buses whether it is there and how bright it is, and was
left as it is when the first visitor asked for more. -/
theorem netbsd_only_asks_visited :
    let s := (visitedNetbsd.run visited (ddcProvider (netbsdImplementation framedBus.logged))
      (List.replicate 16 .main ++ List.replicate 8 .work)).daemon.session
    controllerCount s.controller = 0 ∧ s.world.system.2.length = 8 ∧
      ∀ command ∈ s.world.system.2, ∃ featureCode,
        command = (ddcAddr7Bit, getCommand featureCode) := by
  intro s
  have hasks := netbsd_only_asks visited framed_framedBus (p := visitedNetbsd) rfl
    (List.replicate 16 .main ++ List.replicate 8 .work)
  exact ⟨hasks.1, by decide +kernel, hasks.2⟩

end Dimmit
