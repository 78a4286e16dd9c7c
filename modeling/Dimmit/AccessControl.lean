import Dimmit.Brightness
import Mathlib.Algebra.Group.Nat.Defs

/-!
# Who may drive the brightness

`access_control_is_authorized` of `platform/access-control/linux.c` and `netbsd.c`.  The two are
one function of how the peer is looked up and of the name of the gating group.  What the system
answers is a parameter; a group list is read through a buffer that is grown once.
-/

namespace Dimmit

/-- `struct passwd`, as far as it is read. -/
structure Passwd where
  name : CString
  gid : UInt32
deriving DecidableEq, Repr

/-- What `getgrouplist` leaves in a buffer of `n` groups. -/
structure GroupAnswer (n : Nat) where
  rc : Int
  groups : Vector UInt32 n
  /-- `*ngroups`. -/
  ngroups : Int32

/-- The calls that both files make.  A block is the groups that fit into its bytes. -/
structure AccountCalls (W : Type) where
  /-- The `gr_gid` of `getgrnam`. -/
  getgrnam : CString → W → Option UInt32 × W
  getpwuid : UInt32 → W → Option Passwd × W
  malloc : (bytes : UInt64) → W → Option (Vector UInt32 (bytes.toNat / 4)) × W
  realloc : {n : Nat} → Vector UInt32 n → (bytes : UInt64) → W →
    Option (Vector UInt32 (bytes.toNat / 4)) × W
  getgrouplist : CString → UInt32 → {n : Nat} → Vector UInt32 n → Int32 → W → GroupAnswer n × W

variable {W FD : Type}

/-- `(size_t)ngroups * sizeof(gid_t)`. -/
def groupBytes (ngroups : Int32) : UInt64 := UInt64.ofInt ngroups.toInt * 4

/-- The list of the groups again, in a buffer of the size that the first answer asked for. -/
def AccountCalls.growGroups (sys : AccountCalls W) (uname : CString) (gid : UInt32) {n : Nat}
    (a : GroupAnswer n) (w : W) : Option (List UInt32 × Int32) × W :=
  match sys.realloc a.groups (groupBytes a.ngroups) w with
  | (none, w) => (none, w)
  | (some resized, w) =>
    match sys.getgrouplist uname gid resized a.ngroups w with
    | (a', w) => if a'.rc < 0 then (none, w) else (some (a'.groups.toList, a'.ngroups), w)

/-- The list of the groups: start with a reasonable count and grow once if it overflows.  The
result is the buffer and `ngroups`. -/
def AccountCalls.readGroups (sys : AccountCalls W) (uname : CString) (gid : UInt32) (w : W) :
    Option (List UInt32 × Int32) × W :=
  match sys.malloc (groupBytes 32) w with
  | (none, w) => (none, w)
  | (some groups, w) =>
    match sys.getgrouplist uname gid groups 32 w with
    | (a, w) =>
      if a.rc < 0 then sys.growGroups uname gid a w else (some (a.groups.toList, a.ngroups), w)

/-- The loop over the first groups of the buffer; `none` when it reads past the end. -/
def groupLoop (grp : UInt32) : List UInt32 → Nat → Option Bool
  | _, 0 => some false
  | [], _ + 1 => none
  | g :: groups, n + 1 => if g = grp then some true else groupLoop grp groups n

/-- `uname`. -/
def passwdName (pw : Option Passwd) : CString := pw.elim [] Passwd.name

/-- The gating group is the primary group of the entry. -/
def IsPrimary (grp : UInt32) (pw : Option Passwd) : Prop := ∃ p ∈ pw, p.gid = grp

instance (grp : UInt32) (pw : Option Passwd) : Decidable (IsPrimary grp pw) :=
  inferInstanceAs (Decidable (∃ p ∈ pw, p.gid = grp))

/-- `access_control_is_authorized`, for a lookup of the peer's user and group and the name of the
gating group. -/
def accessControlIsAuthorized (sys : AccountCalls W)
    (peer : FD → W → Option (UInt32 × UInt32) × W) (group : CString) (clientFd : FD) (w : W) :
    Option Bool × W :=
  match peer clientFd w with
  | (none, w) => (some false, w)
  | (some (uid, gid), w) =>
    match sys.getgrnam group w with
    | (none, w) => (some true, w)
    | (some grp, w) =>
      let (pw, w) := sys.getpwuid uid w
      if IsPrimary grp pw then (some true, w)
      else
        match sys.readGroups (passwdName pw) gid w with
        | (none, w) => (some false, w)
        | (some (groups, ngroups), w) => (groupLoop grp groups ngroups.toInt.toNat, w)

/-- The calls of `linux.c`. -/
structure LinuxAccess (W FD : Type) extends AccountCalls W where
  /-- The user and the group of `getsockopt` for `SO_PEERCRED`. -/
  getsockopt : FD → W → Option (UInt32 × UInt32) × W

/-- The calls of `netbsd.c`. -/
structure NetbsdAccess (W FD : Type) extends AccountCalls W where
  getpeereid : FD → W → Option (UInt32 × UInt32) × W

/-- `access_control_is_authorized` of `linux.c`. -/
def linuxAccessControlIsAuthorized (sys : LinuxAccess W FD) : FD → W → Option Bool × W :=
  accessControlIsAuthorized sys.toAccountCalls sys.getsockopt ['i', '2', 'c']

/-- `access_control_is_authorized` of `netbsd.c`. -/
def netbsdAccessControlIsAuthorized (sys : NetbsdAccess W FD) : FD → W → Option Bool × W :=
  accessControlIsAuthorized sys.toAccountCalls sys.getpeereid ['w', 'h', 'e', 'e', 'l']

/-! ## The documented `getgrouplist` -/

/-- `answer` is what `getgrouplist` says at each state: the group it was given and those the user
is then a member of.  A buffer that is too small gets the count that is needed, and the calls that
lie between two questions of one check leave the answer as it is. -/
structure GroupListLaw (sys : AccountCalls W) (member : W → CString → UInt32 → Prop)
    (answer : W → CString → UInt32 → List UInt32) : Prop where
  mem_answer (w : W) (uname : CString) (gid g : UInt32) :
    g ∈ answer w uname gid ↔ g = gid ∨ member w uname g
  short (uname : CString) (gid : UInt32) {n : Nat} (groups : Vector UInt32 n) (ngroups : Int32)
    (w : W) : ngroups.toInt = n → n < (answer w uname gid).length →
      (sys.getgrouplist uname gid groups ngroups w).1.rc < 0 ∧
      (sys.getgrouplist uname gid groups ngroups w).1.ngroups.toInt = (answer w uname gid).length
  fits (uname : CString) (gid : UInt32) {n : Nat} (groups : Vector UInt32 n) (ngroups : Int32)
    (w : W) : ngroups.toInt = n → (answer w uname gid).length ≤ n →
      0 ≤ (sys.getgrouplist uname gid groups ngroups w).1.rc ∧
      (sys.getgrouplist uname gid groups ngroups w).1.ngroups.toInt =
        (answer w uname gid).length ∧
      (sys.getgrouplist uname gid groups ngroups w).1.groups.toList.take
        (answer w uname gid).length = answer w uname gid
  malloc (bytes : UInt64) (w : W) : answer (sys.malloc bytes w).2 = answer w
  realloc {n : Nat} (groups : Vector UInt32 n) (bytes : UInt64) (w : W) :
    answer (sys.realloc groups bytes w).2 = answer w
  repeated (uname : CString) (gid : UInt32) {n : Nat} (groups : Vector UInt32 n)
    (ngroups : Int32) (w : W) : answer (sys.getgrouplist uname gid groups ngroups w).2 = answer w

/-- An allocation for the list of the groups fails. -/
inductive AllocationFails (sys : AccountCalls W) (uname : CString) (gid : UInt32) (w : W) : Prop
  | malloc {w' : W} (h : sys.malloc (groupBytes 32) w = (none, w'))
  | realloc {groups : Vector UInt32 ((groupBytes 32).toNat / 4)} {w₁ w₂ w' : W}
      {a : GroupAnswer ((groupBytes 32).toNat / 4)}
      (hm : sys.malloc (groupBytes 32) w = (some groups, w₁))
      (ha : sys.getgrouplist uname gid groups 32 w₁ = (a, w₂)) (hneg : a.rc < 0)
      (hr : sys.realloc a.groups (groupBytes a.ngroups) w₂ = (none, w'))

/-- The second call of `getgrouplist` is made and fails. -/
inductive SecondCallFails (sys : AccountCalls W) (uname : CString) (gid : UInt32) (w : W) : Prop
  | mk {groups : Vector UInt32 ((groupBytes 32).toNat / 4)} {w₁ w₂ w₃ w' : W}
      {a : GroupAnswer ((groupBytes 32).toNat / 4)}
      {resized : Vector UInt32 ((groupBytes a.ngroups).toNat / 4)}
      {a' : GroupAnswer ((groupBytes a.ngroups).toNat / 4)}
      (hm : sys.malloc (groupBytes 32) w = (some groups, w₁))
      (ha : sys.getgrouplist uname gid groups 32 w₁ = (a, w₂)) (hneg : a.rc < 0)
      (hr : sys.realloc a.groups (groupBytes a.ngroups) w₂ = (some resized, w₃))
      (ha' : sys.getgrouplist uname gid resized a.ngroups w₃ = (a', w')) (hneg' : a'.rc < 0)

/-! ## The group list -/

/-- The loop over groups that are all in the buffer. -/
theorem groupLoop_eq (grp : UInt32) (groups : List UInt32) (n : Nat) (h : n ≤ groups.length) :
    groupLoop grp groups n = some (decide (grp ∈ groups.take n)) := by
  induction n generalizing groups with
  | zero => simp [groupLoop]
  | succ n ih =>
      cases groups with
      | nil => exact absurd h (Nat.not_succ_le_zero n)
      | cons g groups =>
          rw [groupLoop]
          by_cases hg : g = grp
          · simp [hg]
          · rw [if_neg hg, ih groups (Nat.le_of_succ_le_succ h), List.take_succ_cons]
            simp [Ne.symm hg]

/-- The block of `ngroups` groups has room for as many. -/
theorem groupBytes_div {ngroups : Int32} {n : Nat} (h : ngroups.toInt = n) :
    (groupBytes ngroups).toNat / 4 = n := by
  have hlt := ngroups.toInt_lt
  have hcast : (UInt64.ofInt (n : Int)).toNat = n := by
    have hmod : (UInt64.ofInt (n : Int)).toNat = ((n : Int) % 2 ^ 64).toNat % 2 ^ 64 := rfl
    omega
  rw [groupBytes, h, UInt64.toNat_mul, hcast]
  change n * 4 % 2 ^ 64 / 4 = n
  omega

section Lists

variable {sys : AccountCalls W} {uname : CString} {gid : UInt32} {w : W}

/-- A failure on the way leaves no list. -/
theorem readGroups_eq_none
    (h : AllocationFails sys uname gid w ∨ SecondCallFails sys uname gid w) :
    (sys.readGroups uname gid w).1 = none := by
  unfold AccountCalls.readGroups
  rcases h with (hm | ⟨hm, ha, hneg, hr⟩) | ⟨hm, ha, hneg, hr, ha', hneg'⟩
  · rw [hm]
  · simp only [hm, ha, if_pos hneg]
    rw [AccountCalls.growGroups, hr]
  · simp only [hm, ha, if_pos hneg]
    simp only [AccountCalls.growGroups, hr, ha', if_pos hneg']

variable {member : W → CString → UInt32 → Prop} {answer : W → CString → UInt32 → List UInt32}

/-- What is read is the answer, however large the buffer had to be. -/
theorem readGroups_eq_some (law : GroupListLaw sys member answer)
    (h : ¬ AllocationFails sys uname gid w) :
    ∃ groups ngroups w', sys.readGroups uname gid w = (some (groups, ngroups), w') ∧
      ngroups.toInt = (answer w uname gid).length ∧
      groups.take (answer w uname gid).length = answer w uname gid := by
  rcases hm : sys.malloc (groupBytes 32) w with ⟨_ | groups, w₁⟩
  · exact absurd (.malloc hm) h
  rcases ha : sys.getgrouplist uname gid groups 32 w₁ with ⟨a, w₂⟩
  unfold AccountCalls.readGroups
  simp only [hm, ha]
  have hw₁ : answer w₁ = answer w := by simpa only [hm] using law.malloc (groupBytes 32) w
  rw [← hw₁]
  by_cases hfit : (answer w₁ uname gid).length ≤ 32
  · obtain ⟨hrc, hcount, htake⟩ := law.fits uname gid groups 32 w₁ rfl hfit
    rw [ha] at hrc hcount htake
    rw [if_neg (Int.not_lt.mpr hrc)]
    exact ⟨_, _, _, rfl, hcount, htake⟩
  · obtain ⟨hrc, hcount⟩ := law.short uname gid groups 32 w₁ rfl (Nat.not_le.mp hfit)
    have hw₂ : answer w₂ = answer w₁ := by
      simpa only [ha] using law.repeated uname gid groups 32 w₁
    rw [ha] at hrc hcount
    rw [if_pos hrc, AccountCalls.growGroups]
    rcases hr : sys.realloc a.groups (groupBytes a.ngroups) w₂ with ⟨_ | resized, w₃⟩
    · exact absurd (.realloc hm ha hrc hr) h
    -- the second question finds the answer that the first one counted
    have hw₃ : answer w₃ = answer w₁ := by
      simpa only [hr, hw₂] using law.realloc a.groups (groupBytes a.ngroups) w₂
    have hroom : (groupBytes a.ngroups).toNat / 4 = (answer w₁ uname gid).length :=
      groupBytes_div hcount
    rw [← hw₃] at hroom hcount ⊢
    obtain ⟨hrc', hcount', htake'⟩ := law.fits uname gid resized a.ngroups w₃
      (by rw [hroom, hcount]) (Nat.le_of_eq hroom.symm)
    simp only [if_neg (Int.not_lt.mpr hrc')]
    exact ⟨_, _, _, rfl, hcount', htake'⟩

/-- The loop decides membership in the answer. -/
theorem groupLoop_answer {groups : List UInt32} {ngroups : Int32} {l : List UInt32}
    (hcount : ngroups.toInt = l.length) (htake : groups.take l.length = l) (grp : UInt32) :
    groupLoop grp groups ngroups.toInt.toNat = some (decide (grp ∈ l)) := by
  have hlen : l.length ≤ groups.length := by
    rw [← htake, List.length_take]
    exact Nat.min_le_right ..
  rw [hcount, Int.toNat_natCast, groupLoop_eq grp groups _ hlen, htake]

end Lists

/-! ## The decision -/

/-- The peer, the gating group and the entry of the peer are looked up, and found except for the
entry. -/
def Identified (sys : AccountCalls W) (peer : FD → W → Option (UInt32 × UInt32) × W)
    (group : CString) (fd : FD) (w : W) (uid gid grp : UInt32) (pw : Option Passwd) (w' : W) :
    Prop :=
  ∃ w₁ w₂, peer fd w = (some (uid, gid), w₁) ∧ sys.getgrnam group w₁ = (some grp, w₂) ∧
    sys.getpwuid uid w₂ = (pw, w')

/-- A check that fails closed, whatever the calls answer. -/
structure FailsClosed (sys : AccountCalls W) (peer : FD → W → Option (UInt32 × UInt32) × W)
    (group : CString) (isAuthorized : FD → W → Option Bool × W) : Prop where
  /-- A peer that cannot be looked up is refused. -/
  unknown (fd : FD) (w : W) : (peer fd w).1 = none → (isAuthorized fd w).1 = some false
  /-- A failure refuses whom the primary group does not let in. -/
  closed {fd : FD} {w w' : W} {uid gid grp : UInt32} {pw : Option Passwd} :
    Identified sys peer group fd w uid gid grp pw w' → ¬ IsPrimary grp pw →
      AllocationFails sys (passwdName pw) gid w' ∨ SecondCallFails sys (passwdName pw) gid w' →
        (isAuthorized fd w).1 = some false

/-- A check that decides membership in the gating group exactly. -/
structure Decides (sys : AccountCalls W) (peer : FD → W → Option (UInt32 × UInt32) × W)
    (group : CString) (member : W → CString → UInt32 → Prop)
    (answer : W → CString → UInt32 → List UInt32) (isAuthorized : FD → W → Option Bool × W) :
    Prop where
  /-- A member is let in, by whichever of the three ways, and nobody else. -/
  exactly {fd : FD} {w w' : W} {uid gid grp : UInt32} {pw : Option Passwd} :
    Identified sys peer group fd w uid gid grp pw w' →
      IsPrimary grp pw ∨ ¬ AllocationFails sys (passwdName pw) gid w' →
        ∃ b, (isAuthorized fd w).1 = some b ∧
          (b = true ↔ IsPrimary grp pw ∨ grp = gid ∨ member w' (passwdName pw) grp)
  /-- The decision is the one that any single call with a large enough buffer leads to. -/
  once {fd : FD} {w w' : W} {uid gid grp : UInt32} {pw : Option Passwd} :
    Identified sys peer group fd w uid gid grp pw w' → ¬ IsPrimary grp pw →
      ¬ AllocationFails sys (passwdName pw) gid w' →
        ∀ {n : Nat} (groups : Vector UInt32 n) (ngroups : Int32) (w₀ : W) (a : GroupAnswer n),
          answer w₀ = answer w' → ngroups.toInt = n →
            (sys.getgrouplist (passwdName pw) gid groups ngroups w₀).1 = a → 0 ≤ a.rc →
              (isAuthorized fd w).1 = groupLoop grp a.groups.toList a.ngroups.toInt.toNat

section Decision

variable {sys : AccountCalls W} {peer : FD → W → Option (UInt32 × UInt32) × W} {group : CString}

theorem Identified.accessControlIsAuthorized_eq {fd : FD} {w w' : W} {uid gid grp : UInt32}
    {pw : Option Passwd} (h : Identified sys peer group fd w uid gid grp pw w') :
    accessControlIsAuthorized sys peer group fd w =
      if IsPrimary grp pw then (some true, w')
      else match sys.readGroups (passwdName pw) gid w' with
        | (none, w) => (some false, w)
        | (some (groups, ngroups), w) => (groupLoop grp groups ngroups.toInt.toNat, w) := by
  obtain ⟨w₁, w₂, hpeer, hgrp, hpw⟩ := h
  simp only [accessControlIsAuthorized, hpeer, hgrp, hpw]

/-- What the two files share fails closed. -/
theorem failsClosed_accessControlIsAuthorized (sys : AccountCalls W)
    (peer : FD → W → Option (UInt32 × UInt32) × W) (group : CString) :
    FailsClosed sys peer group (accessControlIsAuthorized sys peer group) where
  unknown fd w hpeer := by
    rw [accessControlIsAuthorized]
    rcases h : peer fd w with ⟨_ | p, w₁⟩
    · rfl
    · rw [h] at hpeer
      cases hpeer
  closed {fd w w' uid gid grp pw} h hprim hfail := by
    rw [h.accessControlIsAuthorized_eq, if_neg hprim]
    have hnone := readGroups_eq_none hfail
    rcases hread : sys.readGroups (passwdName pw) gid w' with ⟨_ | r, w''⟩
    · rfl
    · rw [hread] at hnone
      cases hnone

/-- And it decides membership, over the documented `getgrouplist`. -/
theorem decides_accessControlIsAuthorized {member : W → CString → UInt32 → Prop}
    {answer : W → CString → UInt32 → List UInt32} (law : GroupListLaw sys member answer) :
    Decides sys peer group member answer (accessControlIsAuthorized sys peer group) where
  exactly {fd w w' uid gid grp pw} h hok := by
    rw [h.accessControlIsAuthorized_eq]
    by_cases hprim : IsPrimary grp pw
    · rw [if_pos hprim]
      exact ⟨true, rfl, iff_of_true rfl (.inl hprim)⟩
    · rw [if_neg hprim]
      obtain ⟨groups, ngroups, w'', hread, hcount, htake⟩ :=
        readGroups_eq_some law (hok.resolve_left hprim)
      rw [hread]
      refine ⟨_, groupLoop_answer hcount htake grp, ?_⟩
      rw [decide_eq_true_iff, law.mem_answer, or_iff_right hprim]
  once {fd w w' uid gid grp pw} h hprim hok n groups₀ ngroups₀ w₀ a hsame hn ha hrc := by
    rw [h.accessControlIsAuthorized_eq, if_neg hprim]
    obtain ⟨groups, ngroups, w'', hread, hcount, htake⟩ := readGroups_eq_some law hok
    rw [hread]
    rw [← hsame] at hcount htake
    have hfit : (answer w₀ (passwdName pw) gid).length ≤ n := by
      by_contra hshort
      have hneg := (law.short _ gid groups₀ ngroups₀ w₀ hn (Nat.not_le.mp hshort)).1
      rw [ha] at hneg
      omega
    obtain ⟨-, hcount', htake'⟩ := law.fits (passwdName pw) gid groups₀ ngroups₀ w₀ hn hfit
    rw [ha] at hcount' htake'
    exact (groupLoop_answer hcount htake grp).trans (groupLoop_answer hcount' htake' grp).symm

end Decision

/-- Linux and NetBSD fail closed over any calls, and over the documented `getgrouplist` they let
in exactly the members of their gating group. -/
theorem is_authorized_decides (linux : LinuxAccess W FD) (netbsd : NetbsdAccess W FD) :
    FailsClosed linux.toAccountCalls linux.getsockopt ['i', '2', 'c']
      (linuxAccessControlIsAuthorized linux) ∧
    FailsClosed netbsd.toAccountCalls netbsd.getpeereid ['w', 'h', 'e', 'e', 'l']
      (netbsdAccessControlIsAuthorized netbsd) ∧
    (∀ member answer, GroupListLaw linux.toAccountCalls member answer →
      Decides linux.toAccountCalls linux.getsockopt ['i', '2', 'c'] member answer
        (linuxAccessControlIsAuthorized linux)) ∧
    ∀ member answer, GroupListLaw netbsd.toAccountCalls member answer →
      Decides netbsd.toAccountCalls netbsd.getpeereid ['w', 'h', 'e', 'e', 'l'] member answer
        (netbsdAccessControlIsAuthorized netbsd) :=
  ⟨failsClosed_accessControlIsAuthorized .., failsClosed_accessControlIsAuthorized ..,
    fun _ _ law ↦ decides_accessControlIsAuthorized law,
    fun _ _ law ↦ decides_accessControlIsAuthorized law⟩

/-! ## A system that keeps a list of groups -/

/-- What `getgrouplist` does with the list `l`: it fills the buffer as far as it goes. -/
def groupAnswerOf (l : List UInt32) {n : Nat} (groups : Vector UInt32 n) : GroupAnswer n where
  rc := if l.length ≤ n then l.length else -1
  groups := Vector.ofFn fun i ↦ l.getD i groups[i]
  ngroups := Int32.ofNat l.length

theorem groupAnswerOf_ngroups {l : List UInt32} (h : l.length < 2 ^ 31) {n : Nat}
    (groups : Vector UInt32 n) : (groupAnswerOf l groups).ngroups.toInt = l.length :=
  Int32.toInt_ofNat_of_lt h

theorem groupAnswerOf_rc_neg {l : List UInt32} {n : Nat} (h : n < l.length)
    (groups : Vector UInt32 n) : (groupAnswerOf l groups).rc < 0 := by
  rw [groupAnswerOf, if_neg (Nat.not_le.mpr h)]
  exact Int.negSucc_lt_zero 0

theorem groupAnswerOf_rc_nonneg {l : List UInt32} {n : Nat} (h : l.length ≤ n)
    (groups : Vector UInt32 n) : 0 ≤ (groupAnswerOf l groups).rc := by
  rw [groupAnswerOf, if_pos h]
  exact Int.natCast_nonneg _

theorem groupAnswerOf_take {l : List UInt32} {n : Nat} (h : l.length ≤ n)
    (groups : Vector UInt32 n) : (groupAnswerOf l groups).groups.toList.take l.length = l := by
  refine List.ext_getElem ?_ fun i h₁ h₂ ↦ ?_
  · simp [groupAnswerOf, Nat.min_eq_left h]
  · simp [groupAnswerOf, h₂]

/-- The answer about a user `pw` who is in the groups `supplementary`. -/
def sampleGroups (pw : Passwd) (supplementary : List UInt32) (uname : CString) (gid : UInt32) :
    List UInt32 :=
  gid :: if uname = pw.name then supplementary else []

/-- That user's system, where the gating group is `grp` and memory never runs out. -/
def sampleAccounts (pw : Passwd) (supplementary : List UInt32) (grp : UInt32) :
    AccountCalls Unit where
  getgrnam _ w := (some grp, w)
  getpwuid _ w := (some pw, w)
  malloc _ w := (some (Vector.replicate _ 0), w)
  realloc groups _ w := (some (Vector.ofFn fun i ↦ groups.toList.getD i 0), w)
  getgrouplist uname gid _ groups _ w :=
    (groupAnswerOf (sampleGroups pw supplementary uname gid) groups, w)

theorem length_sampleGroups {supplementary : List UInt32} (h : supplementary.length + 1 < 2 ^ 31)
    (pw : Passwd) (uname : CString) (gid : UInt32) :
    (sampleGroups pw supplementary uname gid).length < 2 ^ 31 := by
  rw [sampleGroups, List.length_cons]
  split_ifs
  · exact h
  · exact Nat.lt_of_le_of_lt (Nat.succ_le_succ (Nat.zero_le _)) h

/-- Such a system keeps the law, as long as a count of its groups is an `int`. -/
theorem groupListLaw_sampleAccounts (pw : Passwd) {supplementary : List UInt32} (grp : UInt32)
    (h : supplementary.length + 1 < 2 ^ 31) :
    GroupListLaw (sampleAccounts pw supplementary grp)
      (fun _ uname g ↦ uname = pw.name ∧ g ∈ supplementary)
      (fun _ ↦ sampleGroups pw supplementary) where
  mem_answer _ uname gid g := by
    rw [sampleGroups, List.mem_cons]
    by_cases hname : uname = pw.name
    · rw [if_pos hname, and_iff_right hname]
    · rw [if_neg hname]
      simp [hname]
  short uname gid _ groups _ _ _ hshort :=
    ⟨groupAnswerOf_rc_neg hshort groups,
      groupAnswerOf_ngroups (length_sampleGroups h pw uname gid) groups⟩
  fits uname gid _ groups _ _ _ hfit :=
    ⟨groupAnswerOf_rc_nonneg hfit groups,
      groupAnswerOf_ngroups (length_sampleGroups h pw uname gid) groups,
      groupAnswerOf_take hfit groups⟩
  malloc _ _ := rfl
  realloc _ _ _ := rfl
  repeated _ _ _ _ _ _ := rfl

theorem not_allocationFails_sampleAccounts (pw : Passwd) (supplementary : List UInt32)
    (grp : UInt32) (uname : CString) (gid : UInt32) :
    ¬ AllocationFails (sampleAccounts pw supplementary grp) uname gid () := by
  rintro (h | ⟨-, -, -, h⟩)
  · cases h
  · cases h

/-- The same system, except that a question with a grown buffer fails. -/
def faultyAccounts (pw : Passwd) (supplementary : List UInt32) (grp : UInt32) :
    AccountCalls Unit :=
  { sampleAccounts pw supplementary grp with
    getgrouplist := fun uname gid n groups _ w ↦
      if 32 < n then (⟨-1, groups, 0⟩, w)
      else (groupAnswerOf (sampleGroups pw supplementary uname gid) groups, w) }

/-- A user in forty groups is let in as a member of the last, and is not in the forty-first; where
the second `getgrouplist` fails, the member is refused. -/
theorem is_authorized_decides_forty :
    let supplementary := (List.range 40).map UInt32.ofNat
    let linux : LinuxAccess Unit Unit :=
      { sampleAccounts ⟨['u'], 1000⟩ supplementary 39 with
        getsockopt := fun _ w ↦ (some (1000, 1000), w) }
    let netbsd : NetbsdAccess Unit Unit :=
      { sampleAccounts ⟨['u'], 1000⟩ supplementary 40 with
        getpeereid := fun _ w ↦ (some (1000, 1000), w) }
    let faulty : LinuxAccess Unit Unit :=
      { faultyAccounts ⟨['u'], 1000⟩ supplementary 39 with
        getsockopt := fun _ w ↦ (some (1000, 1000), w) }
    (linuxAccessControlIsAuthorized linux () ()).1 = some true ∧
      (netbsdAccessControlIsAuthorized netbsd () ()).1 = some false ∧
      (linuxAccessControlIsAuthorized faulty () ()).1 = some false := by
  intro supplementary linux netbsd faulty
  have hlen : supplementary.length + 1 < 2 ^ 31 := by decide
  obtain ⟨-, -, hl, hn⟩ := is_authorized_decides linux netbsd
  have hl := hl _ _ (groupListLaw_sampleAccounts ⟨['u'], 1000⟩ 39 hlen)
  have hn := hn _ _ (groupListLaw_sampleAccounts ⟨['u'], 1000⟩ 40 hlen)
  obtain ⟨hf, -⟩ := is_authorized_decides faulty netbsd
  have hfound : Identified linux.toAccountCalls linux.getsockopt ['i', '2', 'c'] () () 1000 1000 39
      (some ⟨['u'], 1000⟩) () := ⟨(), (), rfl, rfl, rfl⟩
  have hfound' : Identified netbsd.toAccountCalls netbsd.getpeereid ['w', 'h', 'e', 'e', 'l'] () ()
      1000 1000 40 (some ⟨['u'], 1000⟩) () := ⟨(), (), rfl, rfl, rfl⟩
  have hfound'' : Identified faulty.toAccountCalls faulty.getsockopt ['i', '2', 'c'] () () 1000 1000
      39 (some ⟨['u'], 1000⟩) () := ⟨(), (), rfl, rfl, rfl⟩
  have hsecond : SecondCallFails faulty.toAccountCalls ['u'] 1000 () :=
    .mk rfl rfl (by decide) rfl rfl (by decide)
  obtain ⟨b, hb, hmem⟩ :=
    hl.exactly hfound (.inr (not_allocationFails_sampleAccounts _ _ _ _ _))
  obtain ⟨b', hb', hmem'⟩ :=
    hn.exactly hfound' (.inr (not_allocationFails_sampleAccounts _ _ _ _ _))
  refine ⟨?_, ?_, hf.closed hfound'' (by decide) (.inr hsecond)⟩
  · rw [hb, hmem.mpr (.inr (.inr ⟨rfl, by decide⟩))]
  · rw [hb', Bool.eq_false_iff.mpr (mt hmem'.mp _)]
    rintro (h | h | ⟨-, h⟩)
    · exact absurd h (by decide)
    · exact absurd h (by decide)
    · exact absurd h (by decide)

end Dimmit
