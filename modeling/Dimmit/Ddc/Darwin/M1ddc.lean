import Dimmit.Ddc.Darwin.Ddcctl

/-!
# The Apple Silicon glue

`platform/ddc/darwin/m1ddc.m` over m1ddc, which is a parameter: how it resolves displays to AV
services, and its packets.  A handle is the service it was given.
-/

namespace Dimmit

variable {W S I Packet Reply : Type}

/-- The calls to m1ddc and CoreFoundation, and the allocator. -/
structure M1ddc (W S I Packet Reply : Type) where
  /-- `getOnlineDisplayInfos`: the displays with their ids and what else is known of them. -/
  getOnlineDisplayInfos : W → List (UInt32 × I) × W
  /-- `getDisplayAVService`. -/
  getDisplayAVService : UInt32 × I → W → Option S × W
  /-- `getDefaultDisplayAVService`. -/
  getDefaultDisplayAVService : W → Option S × W
  /-- `CFRelease`. -/
  cfRelease : S → W → W
  /-- `createDDCPacket` and then `prepareDDCRead`. -/
  readRequest : UInt8 → Packet
  /-- `createDDCPacket` and then `prepareDDCWrite` of a value. -/
  writeRequest : UInt8 → UInt16 → Packet
  /-- `performDDCWrite`: whether it returned `kIOReturnSuccess`. -/
  performDDCWrite : S → Packet → W → Bool × W
  /-- `performDDCRead` into an empty reply with the input address of a packet. -/
  performDDCRead : S → Packet → W → Option Reply × W
  /-- `convertI2CtoDDC`: `curValue` and `maxValue`. -/
  convertI2CtoDDC : Reply → Int × Int
  /-- `calloc`: whether the allocation succeeded. -/
  alloc : W → Bool × W

/-- The loop of `ddc_arch_open`: the service of the first display with the id. -/
def m1ddcFindService (lib : M1ddc W S I Packet Reply) (id : UInt32) :
    List (UInt32 × I) → W → Option S × W
  | [], w => (none, w)
  | info :: infos, w =>
    if info.1 = id then lib.getDisplayAVService info w else m1ddcFindService lib id infos w

/-- The service `ddc_arch_open` settles for. -/
def m1ddcService (lib : M1ddc W S I Packet Reply) (id : UInt32) (w : W) : Option S × W :=
  let (infos, w) := lib.getOnlineDisplayInfos w
  match m1ddcFindService lib id infos w with
  | (some svc, w) => (some svc, w)
  -- fall back to the default service
  | (none, w) => lib.getDefaultDisplayAVService w

/-- `ddc_arch_open`. -/
def m1ddcOpen (lib : M1ddc W S I Packet Reply) (dref : DarwinRef) (w : W) : Option S × W :=
  match m1ddcService lib dref.displayId w with
  | (none, w) => (none, w)
  | (some svc, w) =>
    match lib.alloc w with
    | (false, w) => (none, lib.cfRelease svc w)
    | (true, w) => (some svc, w)

/-- The 16-bit `cur` and `max` of `ddc_arch_get_vcp`, as values. -/
def m1ddcValue (curValue maxValue : Int) : NonTableVcpValue :=
  let cur := if curValue < 0 then 0 else curValue % 65536
  let max := if maxValue ≤ 0 then 100 else maxValue % 65536
  { mh := hiByte max, ml := loByte max, sh := hiByte cur, sl := loByte cur }

/-- `ddc_arch_get_vcp`. -/
def m1ddcGetVcp (lib : M1ddc W S I Packet Reply) (h : S) (featureCode : UInt8) (w : W) :
    Option NonTableVcpValue × W :=
  if !isSupportedFeature featureCode then (none, w)
  else
    match lib.performDDCWrite h (lib.readRequest featureCode) w with
    | (false, w) => (none, w)
    | (true, w) =>
      match lib.performDDCRead h (lib.readRequest featureCode) w with
      | (none, w) => (none, w)
      | (some reply, w) =>
        let (curValue, maxValue) := lib.convertI2CtoDDC reply
        (some (m1ddcValue curValue maxValue), w)

/-- `ddc_arch_set_vcp`. -/
def m1ddcSetVcp (lib : M1ddc W S I Packet Reply) (h : S) (featureCode hiByte loByte : UInt8)
    (w : W) : Bool × W :=
  if !isSupportedFeature featureCode then (false, w)
  else
    lib.performDDCWrite h
      (lib.writeRequest featureCode (UInt16.ofInt (word hiByte loByte))) w

/-- The Apple Silicon glue. -/
def m1ddcArch (lib : M1ddc W S I Packet Reply) : DarwinArch W S where
  openDisplay := m1ddcOpen lib
  close := lib.cfRelease
  getVcp := m1ddcGetVcp lib
  setVcp := m1ddcSetVcp lib

/-! ## Which panel a service drives -/

/-- How the displays of a machine resolve to AV services. -/
structure AvPattern (S I : Type) where
  /-- The online displays, for CoreGraphics. -/
  online : List UInt32
  /-- The online displays, for m1ddc. -/
  infos : List (UInt32 × I)
  builtin : UInt32 → Bool
  /-- The display a service drives. -/
  panel : S → UInt32
  /-- What a display resolves to: its own service or nothing. -/
  own : UInt32 × I → Option S
  /-- The service of some online display, chosen by the system, or nothing. -/
  fallback : Option S
  room : online.length ≤ 16
  nodup : online.Nodup
  panel_own : ∀ info, ∀ svc ∈ own info, panel svc = info.1
  panel_fallback : ∀ svc ∈ fallback, panel svc ∈ online

/-- The calls answer as the pattern has it. -/
structure AvPattern.Followed (p : AvPattern S I) (cg : CoreGraphics W)
    (lib : M1ddc W S I Packet Reply) : Prop where
  getOnlineDisplayList : ∀ w, (cg.getOnlineDisplayList 16 w).1 = some ⟨p.online, p.room⟩
  isBuiltin : ∀ id w, cg.isBuiltin id w = p.builtin id
  getOnlineDisplayInfos : ∀ w, (lib.getOnlineDisplayInfos w).1 = p.infos
  getDisplayAVService : ∀ info w, (lib.getDisplayAVService info w).1 = p.own info
  getDefaultDisplayAVService : ∀ w, (lib.getDefaultDisplayAVService w).1 = p.fallback

namespace AvPattern

variable (p : AvPattern S I)

/-- What `ddc_arch_open` finds for a display before it falls back. -/
def resolved (id : UInt32) : Option S :=
  (p.infos.find? fun info ↦ info.1 == id).bind p.own

/-- Where an external display does not resolve, the service the system chooses is its own. -/
def FallsBackOnItself : Prop :=
  ∀ id ∈ p.online, p.builtin id = false → p.resolved id = none →
    ∀ svc ∈ p.fallback, p.panel svc = id

theorem panel_resolved {id : UInt32} {svc : S} (h : svc ∈ p.resolved id) : p.panel svc = id := by
  obtain ⟨info, hfind, hsvc⟩ := Option.bind_eq_some_iff.mp h
  rw [p.panel_own info svc hsvc]
  simpa using List.find?_some hfind

variable {p} {cg : CoreGraphics W} {lib : M1ddc W S I Packet Reply}

theorem Followed.m1ddcFindService_fst (h : p.Followed cg lib) (id : UInt32)
    (infos : List (UInt32 × I)) (w : W) : (m1ddcFindService lib id infos w).1 =
      (infos.find? fun info ↦ info.1 == id).bind p.own := by
  induction infos with
  | nil => rfl
  | cons info infos ih =>
      rw [m1ddcFindService, List.find?_cons]
      by_cases hid : info.1 = id
      · rw [if_pos hid, hid, beq_self_eq_true]
        exact h.getDisplayAVService info w
      · rw [if_neg hid, beq_false_of_ne hid]
        exact ih

/-- The service a display is opened with. -/
theorem Followed.m1ddcService_fst (h : p.Followed cg lib) (id : UInt32) (w : W) :
    (m1ddcService lib id w).1 = (p.resolved id).or p.fallback := by
  obtain ⟨w₁, hinfos⟩ : ∃ w₁, lib.getOnlineDisplayInfos w = (p.infos, w₁) :=
    ⟨_, Prod.ext (h.getOnlineDisplayInfos w) rfl⟩
  have hfind := h.m1ddcFindService_fst id p.infos w₁
  unfold m1ddcService resolved
  rw [hinfos, ← hfind]
  rcases hsvc : m1ddcFindService lib id p.infos w₁ with ⟨_ | svc, w₂⟩
  · simp only [hsvc, Option.none_or]
    exact h.getDefaultDisplayAVService w₂
  · simp only [hsvc, Option.some_or]

/-- A handle of `ddc_arch_open` is the service of its display, or the fallback where that does
not resolve. -/
theorem Followed.of_m1ddcOpen (h : p.Followed cg lib) {dref : DarwinRef} {w : W} {svc : S}
    (hopen : svc ∈ (m1ddcOpen lib dref w).1) :
    svc ∈ (p.resolved dref.displayId).or p.fallback := by
  rw [← h.m1ddcService_fst dref.displayId w]
  unfold m1ddcOpen at hopen
  rcases hsvc : m1ddcService lib dref.displayId w with ⟨_ | svc', w₁⟩
  · rw [hsvc] at hopen
    cases hopen
  · rcases ha : lib.alloc w₁ with ⟨_ | _, w₂⟩
    · simp only [hsvc, ha] at hopen
      cases hopen
    · simp only [hsvc, ha] at hopen
      exact hopen

/-- On a machine that falls back on the display itself, a handle drives its display. -/
theorem FallsBackOnItself.panel_eq (hp : p.FallsBackOnItself) (h : p.Followed cg lib)
    {dref : DarwinRef} {w : W} {svc : S} (hmem : dref.displayId ∈ p.online)
    (hext : p.builtin dref.displayId = false) (hopen : svc ∈ (m1ddcOpen lib dref w).1) :
    p.panel svc = dref.displayId := by
  have hsvc := h.of_m1ddcOpen hopen
  cases hr : p.resolved dref.displayId with
  | some own =>
      rw [hr, Option.some_or] at hsvc
      exact p.panel_resolved (hr.trans hsvc)
  | none =>
      rw [hr, Option.none_or] at hsvc
      exact hp _ hmem hext hr svc hsvc

end AvPattern

end Dimmit
