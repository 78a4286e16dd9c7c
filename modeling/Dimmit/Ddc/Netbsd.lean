import Dimmit.Ddc.Abstraction
import Dimmit.Lib.Frame

/-!
# The NetBSD backend

`platform/ddc/netbsd.c`, which speaks DDC/CI itself over the raw I²C devices.  The system calls
are a parameter.  A handle of the backend is a pointer to a struct that the calls update, so
the world of the backend holds the structs it has allocated, and a handle is an index there.
-/

namespace Dimmit

variable {W FD : Type}

/-- The system calls, and the allocator. -/
structure I2cSystem (W FD : Type) where
  /-- `open` of a device: `none` when it fails. -/
  openDevice : CString → W → Option FD × W
  /-- `close` of a device. -/
  closeDevice : FD → W → W
  /-- `ioctl` with `I2C_OP_WRITE_WITH_STOP`: whether it succeeded. -/
  write : FD → UInt8 → List UInt8 → W → Bool × W
  /-- `ioctl` with `I2C_OP_READ_WITH_STOP`: the buffer, filled if it succeeded. -/
  read : FD → UInt8 → (size : Nat) → W → Option (Vector UInt8 size) × W
  usleep : Nat → W → W
  /-- `malloc` and `realloc`: whether the allocation succeeded. -/
  alloc : W → Bool × W

/-- `struct DDC_Display_Handle_s`. -/
structure NetbsdHandle (FD : Type) where
  fd : FD
  maxBrightness : Int
  currentBrightness : Int
deriving DecidableEq, Repr

/-! ## Requests -/

/-- `DDC_ADDR`: host -> display write address. -/
def ddcAddr : UInt8 := 0x6e

/-- `DDC_REPLY_ADDR`: display -> host reply address. -/
def ddcReplyAddr : UInt8 := 0x6f

/-- `DDC_ADDR_7BIT`. -/
def ddcAddr7Bit : UInt8 := ddcAddr >>> 1

/-- `ddc_checksum`. -/
def ddcChecksum (init : UInt8) (data : List UInt8) : UInt8 := data.foldl (· ^^^ ·) init

/-- Put the checksum of the bytes before it in the last place of a command. -/
def sealCommand (cmd : List UInt8) : List UInt8 :=
  cmd.set (cmd.length - 1) (ddcChecksum ddcAddr (cmd.take (cmd.length - 1)))

/-- `test_cmd` of `ddc_implementation_get_display_info_list`. -/
def testCommand : List UInt8 := sealCommand [0x51, 0x82, 0x01, vcpBrightness, 0x00, 0x00]

/-- `cmd` of `ddc_implementation_get_non_table_vcp_value`. -/
def getCommand (featureCode : UInt8) : List UInt8 :=
  sealCommand [0x51, 0x82, 0x01, featureCode, 0x00, 0x00]

/-- `cmd` of `ddc_implementation_set_non_table_vcp_value`. -/
def setCommand (featureCode hiByte loByte : UInt8) : List UInt8 :=
  sealCommand [0x51, 0x84, 0x03, featureCode, hiByte, loByte, 0x00]

/-! ## The list -/

/-- `paths` of `ddc_implementation_get_display_info_list`. -/
def netbsdPaths : List CString :=
  ['0', '1', '2', '3'].map fun c ↦ ['/', 'd', 'e', 'v', '/', 'i', 'i', 'c', c]

/-- An entry of the list: the reference keeps 64 bytes of the path. -/
def netbsdDisplayInfo (path : CString) : DisplayInfo CString where
  dref := path.take 63
  vendorId := 0
  productId := 0
  isBuiltin := false

/-- The loop of `ddc_implementation_get_display_info_list`: the entries, or `none` when an
allocation fails on the way. -/
def netbsdTestPaths (sys : I2cSystem W FD) :
    List CString → W → Option (List (DisplayInfo CString)) × W
  | [], w => (some [], w)
  | path :: paths, w =>
    match sys.openDevice path w with
    | (none, w) => netbsdTestPaths sys paths w
    | (some fd, w) =>
      match sys.write fd ddcAddr7Bit testCommand w with
      | (false, w) => netbsdTestPaths sys paths (sys.closeDevice fd w)
      | (true, w) =>
        match sys.alloc w with
        | (false, w) => (none, sys.closeDevice fd w)
        | (true, w) =>
          match sys.alloc w with
          | (false, w) => (none, sys.closeDevice fd w)
          | (true, w) =>
            match netbsdTestPaths sys paths (sys.closeDevice fd w) with
            | (none, w) => (none, w)
            | (some infos, w) => (some (netbsdDisplayInfo path :: infos), w)

theorem length_netbsdTestPaths (sys : I2cSystem W FD) (paths : List CString) (w : W) :
    ∀ infos ∈ (netbsdTestPaths sys paths w).1, infos.length ≤ paths.length := by
  induction paths generalizing w with
  | nil =>
      rintro _ ⟨⟩
      exact Nat.le_refl 0
  | cons path paths ih =>
      intro infos h
      rw [netbsdTestPaths] at h
      rcases ho : sys.openDevice path w with ⟨_ | fd, w₁⟩
      · simp only [ho] at h
        exact (ih _ _ h).trans (Nat.le_succ _)
      rcases hw : sys.write fd ddcAddr7Bit testCommand w₁ with ⟨_ | _, w₂⟩
      · simp only [ho, hw] at h
        exact (ih _ _ h).trans (Nat.le_succ _)
      rcases ha : sys.alloc w₂ with ⟨_ | _, w₃⟩
      · simp only [ho, hw, ha] at h
        cases h
      rcases ha' : sys.alloc w₃ with ⟨_ | _, w₄⟩
      · simp only [ho, hw, ha, ha'] at h
        cases h
      rcases hrest : netbsdTestPaths sys paths (sys.closeDevice fd w₄) with ⟨_ | rest, w₅⟩
      · simp only [ho, hw, ha, ha', hrest] at h
        cases h
      · simp only [ho, hw, ha, ha', hrest] at h
        cases h
        exact Nat.succ_le_succ (ih _ rest (by rw [hrest]; rfl))

/-- `ddc_implementation_get_display_info_list`. -/
def netbsdGetDisplayInfoList (sys : I2cSystem W FD) (w : W) :
    Option (DisplayInfoList CString) × W :=
  match sys.alloc w with
  | (false, w) => (none, w)
  | (true, w) =>
    match h : netbsdTestPaths sys netbsdPaths w with
    | (none, w) => (none, w)
    | (some infos, w') =>
      if infos.length = 0 then (none, w')
      else
        (some ⟨infos, (length_netbsdTestPaths sys netbsdPaths w infos (by rw [h]; rfl)).trans_lt
          (by decide)⟩, w')

/-! ## Handles -/

/-- `ddc_implementation_open_display`: the struct of the handle. -/
def netbsdOpenDisplay (sys : I2cSystem W FD) (dref : CString) (w : W) :
    Option (NetbsdHandle FD) × W :=
  match sys.openDevice dref w with
  | (none, w) => (none, w)
  | (some fd, w) =>
    match sys.alloc w with
    | (false, w) => (none, sys.closeDevice fd w)
    | (true, w) => (some { fd := fd, maxBrightness := 100, currentBrightness := 50 }, w)

/-- What `ddc_implementation_get_non_table_vcp_value` makes of a reply: the values, and the
struct of the handle. -/
def netbsdReply (h : NetbsdHandle FD) (featureCode : UInt8) (reply : Vector UInt8 12) :
    Option NonTableVcpValue × NetbsdHandle FD :=
  if reply[0] ≠ ddcReplyAddr ∨ reply[2] ≠ 0x02 ∨ reply[4] ≠ featureCode then (none, h)
  else
    (some { mh := reply[6], ml := reply[7], sh := reply[8], sl := reply[9] },
      { h with
        maxBrightness := word reply[6] reply[7]
        currentBrightness := word reply[8] reply[9] })

/-- `ddc_implementation_get_non_table_vcp_value`. -/
def netbsdGetNonTableVcpValue (sys : I2cSystem W FD) (h : NetbsdHandle FD) (featureCode : UInt8)
    (w : W) : Option NonTableVcpValue × NetbsdHandle FD × W :=
  match sys.write h.fd ddcAddr7Bit (getCommand featureCode) w with
  | (false, w) => (none, h, w)
  | (true, w) =>
    match sys.read h.fd ddcAddr7Bit 12 (sys.usleep 40000 w) with
    | (none, w) => (none, h, w)
    | (some reply, w) =>
      let (value, h) := netbsdReply h featureCode reply
      (value, h, w)

/-- `ddc_implementation_set_non_table_vcp_value`. -/
def netbsdSetNonTableVcpValue (sys : I2cSystem W FD) (h : NetbsdHandle FD)
    (featureCode hiByte loByte : UInt8) (w : W) : Bool × NetbsdHandle FD × W :=
  match sys.write h.fd ddcAddr7Bit (setCommand featureCode hiByte loByte) w with
  | (false, w) => (false, h, w)
  | (true, w) => (true, { h with currentBrightness := word hiByte loByte }, w)

/-- The world of the backend: the system's, and the handles allocated so far. -/
structure NetbsdWorld (W FD : Type) where
  system : W
  handles : List (NetbsdHandle FD)

/-- The NetBSD backend. -/
def netbsdImplementation (sys : I2cSystem W FD) :
    Implementation (NetbsdWorld W FD) CString Nat where
  getDisplayInfoList w :=
    let (list, system) := netbsdGetDisplayInfoList sys w.system
    (list, { w with system := system })
  -- it frees memory of the process only
  freeDisplayInfoList _ w := w
  openDisplay dref w :=
    match netbsdOpenDisplay sys dref w.system with
    | (none, system) => (none, { w with system := system })
    | (some h, system) =>
      (some w.handles.length, { system := system, handles := w.handles ++ [h] })
  closeDisplay i w :=
    match w.handles[i]? with
    | none => w
    | some h => { w with system := sys.closeDevice h.fd w.system }
  getNonTableVcpValue i featureCode w :=
    match w.handles[i]? with
    | none => (none, w)
    | some h =>
      let (value, h, system) := netbsdGetNonTableVcpValue sys h featureCode w.system
      (value, { system := system, handles := w.handles.set i h })
  setNonTableVcpValue i featureCode hiByte loByte w :=
    match w.handles[i]? with
    | none => (false, w)
    | some h =>
      let (ok, h, system) := netbsdSetNonTableVcpValue sys h featureCode hiByte loByte w.system
      (ok, { system := system, handles := w.handles.set i h })
  calloc w :=
    let (ok, system) := sys.alloc w.system
    (ok, { w with system := system })

/-! ## Replies -/

open Frame

/-- A display answers the host: the checksum of its replies starts from 0x50. -/
def replyLink : Link := { source := 0x6e, dest := 0x50 }

/-- The payload of a reply with the values `v` and the type code `type` of a feature. -/
def replyPayload (featureCode type : UInt8) (v : NonTableVcpValue) : List UInt8 :=
  [0x02, 0x00, featureCode, type, v.mh, v.ml, v.sh, v.sl]

/-- The buffer starts with a reply that carries the values `v` of a feature. -/
def IsReply (featureCode : UInt8) (reply : Vector UInt8 12) (v : NonTableVcpValue) : Prop :=
  ∃ type left, replyLink.parse reply.toList = some (replyPayload featureCode type v, left)

/-- The three bytes the backend looks at are what it expects. -/
def LooksRight (featureCode : UInt8) (reply : Vector UInt8 12) : Prop :=
  reply[0] = ddcReplyAddr ∧ reply[2] = 0x02 ∧ reply[4] = featureCode

instance (featureCode : UInt8) (reply : Vector UInt8 12) :
    Decidable (LooksRight featureCode reply) := inferInstanceAs (Decidable (_ ∧ _ ∧ _))

theorem netbsdReply_of_looksRight {featureCode : UInt8} {reply : Vector UInt8 12}
    (h : LooksRight featureCode reply) (hd : NetbsdHandle FD) :
    (netbsdReply hd featureCode reply).1 =
      some { mh := reply[6], ml := reply[7], sh := reply[8], sl := reply[9] } := by
  obtain ⟨h₀, h₂, h₄⟩ := h
  unfold netbsdReply
  rw [if_neg (by simp [h₀, h₂, h₄])]

theorem netbsdReply_of_not_looksRight {featureCode : UInt8} {reply : Vector UInt8 12}
    (h : ¬ LooksRight featureCode reply) (hd : NetbsdHandle FD) :
    netbsdReply hd featureCode reply = (none, hd) := by
  refine if_pos ?_
  by_contra hn
  simp only [not_or, not_not] at hn
  exact h hn

/-- A reply of a display starts with the address of the display, not with `DDC_REPLY_ADDR`. -/
theorem IsReply.not_looksRight {featureCode : UInt8} {reply : Vector UInt8 12}
    {v : NonTableVcpValue} (h : IsReply featureCode reply v) : ¬ LooksRight featureCode reply := by
  obtain ⟨type, left, hparse⟩ := h
  obtain ⟨-, htext⟩ := Link.parse_eq_some_iff.mp hparse
  have hfirst : reply.toList[0]? = some reply[0] := by simp
  rw [htext] at hfirst
  have h₀ : reply[0] = 0x6e := (Option.some.inj hfirst).symm
  rintro ⟨h₀', -, -⟩
  exact absurd (h₀.symm.trans h₀') (by decide)

/-- **The NetBSD backend accepts the wrong replies.**

When both transfers succeed, reading a feature answers exactly the well-formed replies, and
leaves the struct of the handle alone otherwise, on the buffers that neither are such a reply
nor look right in the three bytes that are checked. -/
theorem netbsdGet_answers_replies_iff (sys : I2cSystem W FD) (h : NetbsdHandle FD)
    (featureCode : UInt8) (w : W) {w₁ w₂ : W} {reply : Vector UInt8 12}
    (hwrite : sys.write h.fd ddcAddr7Bit (getCommand featureCode) w = (true, w₁))
    (hread : sys.read h.fd ddcAddr7Bit 12 (sys.usleep 40000 w₁) = (some reply, w₂)) :
    ((∀ v, (netbsdGetNonTableVcpValue sys h featureCode w).1 = some v ↔
        IsReply featureCode reply v) ∧
      ((∀ v, ¬ IsReply featureCode reply v) →
        (netbsdGetNonTableVcpValue sys h featureCode w).2.1 = h)) ↔
    (∀ v, ¬ IsReply featureCode reply v) ∧ ¬ LooksRight featureCode reply := by
  have hget : netbsdGetNonTableVcpValue sys h featureCode w =
      ((netbsdReply h featureCode reply).1, (netbsdReply h featureCode reply).2, w₂) := by
    simp only [netbsdGetNonTableVcpValue, hwrite, hread]
  rw [hget]
  constructor
  · rintro ⟨hanswer, -⟩
    have hright : ¬ LooksRight featureCode reply := by
      intro hr
      exact ((hanswer _).mp (netbsdReply_of_looksRight hr h)).not_looksRight hr
    refine ⟨?_, hright⟩
    intro v hv
    have := (hanswer v).mpr hv
    rw [netbsdReply_of_not_looksRight hright] at this
    cases this
  · rintro ⟨hno, hright⟩
    rw [netbsdReply_of_not_looksRight hright]
    refine ⟨?_, fun _ ↦ rfl⟩
    intro v
    exact iff_of_false nofun (hno v)

/-- A bus on which every transfer succeeds and every reply is `reply`. -/
def answeringBus (reply : List UInt8) : I2cSystem Unit Unit where
  openDevice _ w := (some (), w)
  closeDevice _ w := w
  write _ _ _ w := (true, w)
  read _ _ size w := (some (Vector.ofFn fun i : Fin size ↦ reply.getD i 0), w)
  usleep _ w := w
  alloc w := (true, w)

/-- A Null message is rejected as it should be. -/
theorem netbsdGet_answers_replies_iff_null :
    (netbsdGetNonTableVcpValue (answeringBus [0x6e, 0x80, 0xbe]) ⟨(), 100, 50⟩ vcpBrightness
      ()).2.1 = ⟨(), 100, 50⟩ := by
  have hno : ∀ v, ¬ IsReply vcpBrightness
      (Vector.ofFn fun i : Fin 12 ↦ [0x6e, 0x80, 0xbe].getD i 0) v := by
    rintro v ⟨type, left, h⟩
    cases h
  have hright : ¬ LooksRight vcpBrightness
      (Vector.ofFn fun i : Fin 12 ↦ [0x6e, 0x80, 0xbe].getD i 0) := by decide
  exact ((netbsdGet_answers_replies_iff (answeringBus [0x6e, 0x80, 0xbe]) ⟨(), 100, 50⟩
    vcpBrightness () rfl rfl).mpr ⟨hno, hright⟩).2 hno

/-- The reply of a display at 50 of 100 is rejected, and a wrong one of 511 of 767 accepted. -/
theorem netbsdGet_rejects_reply :
    IsReply vcpBrightness #v[0x6e, 0x88, 0x02, 0x00, 0x10, 0x00, 0x00, 0x64, 0x00, 0x32, 0xf2, 0x00]
        ⟨0x00, 0x64, 0x00, 0x32⟩ ∧
      (netbsdGetNonTableVcpValue (answeringBus
        [0x6e, 0x88, 0x02, 0x00, 0x10, 0x00, 0x00, 0x64, 0x00, 0x32, 0xf2]) ⟨(), 100, 50⟩
        vcpBrightness ()).1 = none ∧
      (netbsdGetNonTableVcpValue (answeringBus
        [0x6f, 0x00, 0x02, 0x01, 0x10, 0x00, 0x02, 0xff, 0x01, 0xff, 0x00]) ⟨(), 100, 50⟩
        vcpBrightness ()).1 = some ⟨0x02, 0xff, 0x01, 0xff⟩ :=
  ⟨⟨0x00, [0x00], rfl⟩, by decide, by decide⟩

/-! ## What the backend puts on the bus -/

/-- The host talks to a display. -/
def requestLink : Link := { source := 0x51, dest := ddcAddr }

/-- What the backend asks of a display. -/
inductive Request where
  /-- To find out whether a display is there. -/
  | test
  | get (featureCode : UInt8)
  | set (featureCode hiByte loByte : UInt8)
deriving DecidableEq, Repr

namespace Request

/-- What is written to the bus. -/
def command : Request → List UInt8
  | test => testCommand
  | get featureCode => getCommand featureCode
  | set featureCode hiByte loByte => setCommand featureCode hiByte loByte

/-- What is meant. -/
def payload : Request → List UInt8
  | test => [0x01, vcpBrightness]
  | get featureCode => [0x01, featureCode]
  | set featureCode hiByte loByte => [0x03, featureCode, hiByte, loByte]

/-- The request is a write. -/
def IsSet (r : Request) : Prop := ∃ featureCode hiByte loByte, r = set featureCode hiByte loByte

theorem sealCommand_concat (body : List UInt8) (b : UInt8) :
    sealCommand (body ++ [b]) = body ++ [parity ddcAddr body] := by
  have hlen : (body ++ [b]).length - 1 = body.length := by simp
  rw [sealCommand, hlen, List.take_left, List.set_append_right _ _ (Nat.le_refl _), Nat.sub_self]
  rfl

/-- A command to write a feature is the frame of its payload. -/
theorem setCommand_eq (featureCode hiByte loByte : UInt8) :
    setCommand featureCode hiByte loByte =
      requestLink.encode [0x03, featureCode, hiByte, loByte] := by
  have hlength : lengthByte 4 = 0x84 := by decide
  have hhead : requestLink.source :: lengthByte 4 :: [0x03, featureCode, hiByte, loByte] =
      [0x51, 0x84, 0x03, featureCode, hiByte, loByte] := by
    rw [hlength]
    rfl
  change sealCommand ([0x51, 0x84, 0x03, featureCode, hiByte, loByte] ++ [0x00]) =
    (requestLink.source :: lengthByte 4 :: [0x03, featureCode, hiByte, loByte]) ++
      [parity ddcAddr (requestLink.source :: lengthByte 4 :: [0x03, featureCode, hiByte, loByte])]
  rw [sealCommand_concat, hhead]

/-- A command to read a feature is one byte longer than the frame of its payload. -/
theorem getCommand_ne (featureCode : UInt8) (payload : List UInt8)
    (h : payload.length = 2) : getCommand featureCode ≠ requestLink.encode payload := by
  intro he
  have hlen := congrArg List.length he
  simp [getCommand, sealCommand, Link.encode, h] at hlen

theorem decode_command_iff (r : Request) :
    requestLink.decode r.command = some r.payload ↔ r.IsSet := by
  rw [Link.decode_eq_some_iff]
  cases r with
  | test =>
      refine iff_of_false ?_ nofun
      rintro ⟨-, he⟩
      exact getCommand_ne vcpBrightness _ rfl he
  | get featureCode =>
      refine iff_of_false ?_ nofun
      rintro ⟨-, he⟩
      exact getCommand_ne featureCode _ rfl he
  | set featureCode hiByte loByte =>
      refine iff_of_true ⟨?_, setCommand_eq ..⟩ ⟨_, _, _, rfl⟩
      change 4 < 0x80
      decide

/-- The payload is still in the command, wherever the checksum went. -/
theorem payload_eq (r : Request) :
    r.payload = (r.command.drop 2).take (if r.command.length = 7 then 4 else 2) := by
  cases r with
  | test => rfl
  | get featureCode => rfl
  | set featureCode hiByte loByte => rfl

theorem command_eq_iff (r r' : Request) : r.command = r'.command ↔ r.payload = r'.payload := by
  constructor
  · intro h
    rw [payload_eq, payload_eq, h]
  · intro h
    have hget (f f' : UInt8) (h : [(0x01 : UInt8), f] = [0x01, f']) :
        getCommand f = getCommand f' := by
      rw [List.cons.inj (List.cons.inj h).2 |>.1]
    cases r with
    | test =>
        cases r' with
        | test => rfl
        | get f => exact hget _ _ h
        | set f hi lo => cases h
    | get f =>
        cases r' with
        | test => exact hget _ _ h
        | get f' => exact hget _ _ h
        | set f' hi lo => cases h
    | set f hi lo =>
        cases r' with
        | test => cases h
        | get f' => cases h
        | set f' hi' lo' =>
            cases h
            rfl

end Request

/-- **Only the writes of the NetBSD backend are frames.**

A request decodes to what is meant, with no byte left over, exactly when it is a write; the
other commands carry a byte too many in front of their checksum.  A 16-bit value is recovered
from its write, and different requests are different commands. -/
theorem netbsd_requests_decode_iff (r r' : Request) (featureCode : UInt8) (value : UInt16) :
    (requestLink.decode r.command = some r.payload ↔ r.IsSet) ∧
    (∃ hi lo, requestLink.decode
        (setCommand featureCode (hiByte value.toNat) (loByte value.toNat)) =
          some [0x03, featureCode, hi, lo] ∧ word hi lo = value.toNat) ∧
    (r.command = r'.command ↔ r.payload = r'.payload) := by
  refine ⟨r.decode_command_iff, ⟨hiByte value.toNat, loByte value.toNat, ?_, ?_⟩,
    r.command_eq_iff r'⟩
  · exact (Request.decode_command_iff (.set ..)).mpr ⟨_, _, _, rfl⟩
  · have hlt := value.toNat_lt
    exact word_hiByte_loByte (by omega) (by omega)

/-- A request to read the brightness is not a frame. -/
theorem netbsd_get_request_not_frame :
    getCommand vcpBrightness = [0x51, 0x82, 0x01, 0x10, 0x00, 0xac] ∧
      requestLink.decode (getCommand vcpBrightness) = none := by
  constructor <;> decide

end Dimmit
