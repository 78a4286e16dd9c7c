import Dimmit.Lib.Segments

/-!
# The user's PATH

`NeedsAddPath` and `RemovePath` of `packaging/windows/dimmit.iss`, with the registry entry that
appends the directory.  Both look for the directory in an upper-cased copy of the value between
two semicolons, and `RemovePath` cuts at the same offset of the value as it stands.
-/

namespace Dimmit

open Segments

/-- A string of the installer: its code units. -/
abbrev WideString := List UInt16

def semicolon : UInt16 := 0x3b

/-- `Uppercase` on one code unit.  A semicolon stays, and nothing else becomes one. -/
structure Uppercase where
  unit : UInt16 → UInt16
  unit_eq_semicolon_iff (c : UInt16) : unit c = semicolon ↔ c = semicolon

/-- `Uppercase`. -/
def Uppercase.apply (u : Uppercase) (s : WideString) : WideString := s.map u.unit

/-- `Pos`: where the first occurrence of `sub` begins, from 1, and 0 when there is none. -/
def pos (sub s : WideString) : Int :=
  match find sub s with
  | none => 0
  | some i => i + 1

/-- `Delete`: the string without `count` code units from the `index`-th. -/
def delete (s : WideString) (index count : Int) : WideString :=
  if index < 1 then s else s.take (index - 1).toNat ++ s.drop (index - 1 + max count 0).toNat

/-- `Copy`: `count` code units from the `index`-th. -/
def copy (s : WideString) (index count : Int) : WideString :=
  if count ≤ 0 then [] else (s.drop (index - 1).toNat).take count.toNat

/-- `';' + s + ';'`. -/
def sentinel (s : WideString) : WideString := [semicolon] ++ s ++ [semicolon]

/-- `NeedsAddPath`, for the value of `Path` in the registry. -/
def needsAddPath (u : Uppercase) (dir : WideString) (path : Option WideString) : Bool :=
  pos (sentinel (u.apply dir)) (sentinel (u.apply (path.getD []))) = 0

/-- The `Path` entry of `[Registry]`: `{olddata};{app}`. -/
def installPath (u : Uppercase) (dir : WideString) (path : Option WideString) :
    Option WideString :=
  if needsAddPath u dir path then some (path.getD [] ++ [semicolon] ++ dir) else path

/-- `RemovePath`. -/
def removePath (u : Uppercase) (dir : WideString) : Option WideString → Option WideString
  | none => none
  | some origPath =>
    let p := pos (sentinel (u.apply dir)) (u.apply (sentinel origPath))
    if p = 0 then some origPath
    else
      let rest := delete (sentinel origPath) p (dir.length + 1)
      some (copy rest 2 (rest.length - 2))

/-! ## The strings of Pascal Script -/

theorem pos_of_none {sub s : WideString} (h : find sub s = none) : pos sub s = 0 := by
  rw [pos, h]

theorem pos_of_some {sub s : WideString} {i : Nat} (h : find sub s = some i) :
    pos sub s = i + 1 := by
  rw [pos, h]

theorem delete_append (pre mid post : WideString) :
    delete (pre ++ (mid ++ post)) (pre.length + 1) mid.length = pre ++ post := by
  have hpre : ((pre.length : Int) + 1 - 1).toNat = pre.length := by omega
  have hmid : ((pre.length : Int) + 1 - 1 + max (mid.length : Int) 0).toNat =
      pre.length + mid.length := by omega
  rw [delete, if_neg (by omega), hpre, hmid, List.take_left, List.drop_length_add_append,
    List.drop_left]

theorem copy_between (c d : UInt16) (s : WideString) :
    copy (c :: (s ++ [d])) 2 ((c :: (s ++ [d])).length - 2) = s := by
  have hlen : (((c :: (s ++ [d])).length : Int) - 2) = s.length := by
    rw [List.length_cons, List.length_append, List.length_singleton]
    omega
  rw [hlen, copy]
  by_cases hs : (s.length : Int) ≤ 0
  · rw [if_pos hs, List.eq_nil_of_length_eq_zero (by omega : s.length = 0)]
  · rw [if_neg hs, Int.toNat_natCast]
    exact List.take_left

/-! ## Where the directory is found -/

section Search

variable (u : Uppercase) {dir : WideString}

/-- The segment is the directory, ignoring case. -/
def Uppercase.Same (s dir : WideString) : Prop := u.apply s = u.apply dir

instance (s dir : WideString) : Decidable (u.Same s dir) :=
  inferInstanceAs (Decidable (u.apply s = u.apply dir))

theorem Uppercase.semicolon_notMem {s : WideString} (h : semicolon ∉ s) :
    semicolon ∉ u.apply s := by
  rintro hmem
  obtain ⟨c, hc, he⟩ := List.mem_map.mp hmem
  rw [u.unit_eq_semicolon_iff] at he
  exact h (he ▸ hc)

theorem Uppercase.apply_fence (segs : List WideString) :
    u.apply (fence semicolon segs) = fence semicolon (segs.map u.apply) := by
  have hsemi : u.unit semicolon = semicolon := (u.unit_eq_semicolon_iff semicolon).mpr rfl
  rw [Uppercase.apply, map_fence, hsemi]
  rfl

theorem Uppercase.apply_sentinel (s : WideString) :
    u.apply (sentinel s) = sentinel (u.apply s) := by
  have h := u.apply_fence [s]
  rwa [fence, fence] at h

theorem Uppercase.forall_semicolon_notMem {segs : List WideString}
    (h : ∀ s ∈ segs, semicolon ∉ s) : ∀ s ∈ segs.map u.apply, semicolon ∉ s := by
  rw [List.forall_mem_map]
  exact fun s hs ↦ u.semicolon_notMem (h s hs)

theorem Uppercase.apply_notMem {segs : List WideString} (h : ∀ s ∈ segs, ¬ u.Same s dir) :
    u.apply dir ∉ segs.map u.apply := by
  intro hmem
  obtain ⟨s, hs, he⟩ := List.mem_map.mp hmem
  exact h s hs he

theorem pos_eq_zero (hdir : semicolon ∉ dir) {segs : List WideString}
    (hsegs : ∀ s ∈ segs, semicolon ∉ s) (h : ∀ s ∈ segs, ¬ u.Same s dir) :
    pos (sentinel (u.apply dir)) (u.apply (fence semicolon segs)) = 0 := by
  rw [u.apply_fence]
  exact pos_of_none (find_fence_eq_none (u.semicolon_notMem hdir)
    (u.forall_semicolon_notMem hsegs) (u.apply_notMem h))

/-- The first segment that is the directory is found at the semicolon before it. -/
theorem pos_append (hdir : semicolon ∉ dir) {l : List WideString} {s : WideString}
    (hl : ∀ t ∈ l, semicolon ∉ t) (h : ∀ t ∈ l, ¬ u.Same t dir) (hs : u.Same s dir)
    (r : List WideString) :
    pos (sentinel (u.apply dir)) (u.apply (fence semicolon (l ++ s :: r))) =
      (l.flatMap (semicolon :: ·)).length + 1 := by
  have hfind := find_fence_append (u.semicolon_notMem hdir) (u.forall_semicolon_notMem hl)
    (u.apply_notMem h) (r.map u.apply)
  have hlen : ((l.map u.apply).flatMap (semicolon :: ·)).length =
      (l.flatMap (semicolon :: ·)).length := by
    simp [List.length_flatMap, Uppercase.apply, Function.comp_def]
  rw [hlen] at hfind
  rw [u.apply_fence, List.map_append, List.map_cons, hs]
  exact pos_of_some hfind

end Search

/-! ## Installing and uninstalling -/

section Path

variable (u : Uppercase) {dir : WideString}

theorem sentinel_eq_fence (path : WideString) :
    sentinel path = fence semicolon (path.splitOn semicolon) :=
  (fence_splitOn path).symm

/-- The value has no segment that is the directory, or there is a first one. -/
theorem first_same (dir : WideString) (segs : List WideString) :
    (∀ s ∈ segs, ¬ u.Same s dir) ∨
    ∃ l s r, segs = l ++ s :: r ∧ u.Same s dir ∧ ∀ t ∈ l, ¬ u.Same t dir := by
  cases h : segs.find? fun s ↦ decide (u.Same s dir) with
  | none => exact .inl (by simpa using h)
  | some s =>
      obtain ⟨hs, l, r, rfl, hl⟩ := List.find?_eq_some_iff_append.mp h
      exact .inr ⟨l, s, r, rfl, by simpa using hs, by simpa using hl⟩

/-- What stands between the ends of a fence. -/
theorem copy_fence (segs : List WideString) :
    copy (fence semicolon segs) 2 ((fence semicolon segs).length - 2) =
      [semicolon].intercalate segs := by
  by_cases h : segs = []
  · rw [h]
    rfl
  · rw [fence_eq_intercalate h]
    exact copy_between semicolon semicolon _

/-- `RemovePath` leaves a value without the directory. -/
theorem removePath_of_forall_not (hdir : semicolon ∉ dir) {path : WideString}
    (h : ∀ s ∈ path.splitOn semicolon, ¬ u.Same s dir) :
    removePath u dir (some path) = some path := by
  have hpos := pos_eq_zero u hdir (fun s hs ↦ notMem_of_mem_splitOn hs) h
  rw [removePath, sentinel_eq_fence path, if_pos hpos]

/-- `RemovePath` cuts the first segment that is the directory. -/
theorem removePath_append (hdir : semicolon ∉ dir) {path s : WideString}
    {l r : List WideString} (hpath : path.splitOn semicolon = l ++ s :: r)
    (h : ∀ t ∈ l, ¬ u.Same t dir) (hs : u.Same s dir) :
    removePath u dir (some path) = some ([semicolon].intercalate (l ++ r)) := by
  have hmem (t : WideString) (ht : t ∈ l) : semicolon ∉ t :=
    notMem_of_mem_splitOn (hpath ▸ List.mem_append_left _ ht)
  have hpos := pos_append u hdir hmem h hs r
  have hlen : (dir.length : Int) + 1 = (semicolon :: s).length := by
    have := congrArg List.length hs
    rw [Uppercase.apply, Uppercase.apply, List.length_map, List.length_map] at this
    rw [List.length_cons, this]
    rfl
  have hcut : delete (fence semicolon (l ++ s :: r)) ((l.flatMap (semicolon :: ·)).length + 1)
      (dir.length + 1) = fence semicolon (l ++ r) := by
    rw [fence_append, fence_append, hlen]
    exact delete_append _ (semicolon :: s) _
  rw [removePath, sentinel_eq_fence path, hpath, hpos, if_neg (by omega), hcut]
  exact congrArg some (copy_fence (l ++ r))

/-- `NeedsAddPath` says whether no segment is the directory. -/
theorem needsAddPath_iff (hdir : semicolon ∉ dir) (path : Option WideString) :
    needsAddPath u dir path = true ↔
      ∀ s ∈ (path.getD []).splitOn semicolon, ¬ u.Same s dir := by
  rw [needsAddPath, decide_eq_true_iff, ← u.apply_sentinel (path.getD []),
    sentinel_eq_fence (path.getD [])]
  constructor
  · intro hzero
    obtain hnone | ⟨l, s, r, hpath, hs, hl⟩ :=
      first_same u dir ((path.getD []).splitOn semicolon)
    · exact hnone
    · have hmem (t : WideString) (ht : t ∈ l) : semicolon ∉ t :=
        notMem_of_mem_splitOn (hpath ▸ List.mem_append_left _ ht)
      rw [hpath, pos_append u hdir hmem hl hs r] at hzero
      omega
  · exact pos_eq_zero u hdir fun s hs ↦ notMem_of_mem_splitOn hs

/-- The value with the directory appended has one segment more. -/
theorem splitOn_append_dir (hdir : semicolon ∉ dir) (path : WideString) :
    (path ++ [semicolon] ++ dir).splitOn semicolon = path.splitOn semicolon ++ [dir] := by
  rw [List.append_assoc, List.singleton_append, List.splitOn_append_cons_self,
    List.splitOn_eq_singleton hdir]

/-- The first installation appends the directory, and the others find it there. -/
theorem installPath_iterate (hdir : semicolon ∉ dir) {path : Option WideString}
    (h : ∀ s ∈ (path.getD []).splitOn semicolon, ¬ u.Same s dir) (n : Nat) :
    (installPath u dir)^[n + 1] path = some (path.getD [] ++ [semicolon] ++ dir) := by
  induction n with
  | zero =>
      change installPath u dir path = _
      rw [installPath, if_pos ((needsAddPath_iff u hdir path).mpr h)]
  | succ n ih =>
      have hthere : ¬ needsAddPath u dir (some (path.getD [] ++ [semicolon] ++ dir)) = true := by
        rw [needsAddPath_iff u hdir, Option.getD_some, splitOn_append_dir hdir]
        exact fun hno ↦ hno dir (List.mem_append_right _ List.mem_cons_self) rfl
      rw [Function.iterate_succ_apply', ih, installPath, if_neg hthere]

/-- Uninstalling gives back the value that was there before any number of installations, and
takes nothing but the directory out of any other. -/
theorem path_restored (hdir : semicolon ∉ dir) :
    (∀ path : Option WideString,
      (∀ s ∈ (path.getD []).splitOn semicolon, ¬ u.Same s dir) → ∀ n : Nat,
        let installed := (installPath u dir)^[n + 1] path
        removePath u dir installed = some (path.getD []) ∧
        ((installed.getD []).splitOn semicolon).count dir = 1 ∧
        ((installed.getD []).splitOn semicolon).countP (u.Same · dir) = 1) ∧
    (∀ path : WideString,
      ((∀ s ∈ path.splitOn semicolon, ¬ u.Same s dir) ∧
        removePath u dir (some path) = some path) ∨
      ∃ l s r rest, path.splitOn semicolon = l ++ s :: r ∧ u.Same s dir ∧
        removePath u dir (some path) = some rest ∧
        (l ++ r ≠ [] → rest.splitOn semicolon = l ++ r) ∧ (l ++ r = [] → rest = [])) ∧
    removePath u dir none = none := by
  refine ⟨fun path h n ↦ ?_, fun path ↦ ?_, rfl⟩
  · have hnone : ((path.getD []).splitOn semicolon).countP (u.Same · dir) = 0 := by
      rw [List.countP_eq_zero]
      simpa using h
    have hcount : ((path.getD []).splitOn semicolon).count dir = 0 :=
      List.count_eq_zero.mpr fun hmem ↦ h dir hmem rfl
    intro installed
    have hinst : installed = some (path.getD [] ++ [semicolon] ++ dir) :=
      installPath_iterate u hdir h n
    rw [hinst, Option.getD_some, splitOn_append_dir hdir]
    refine ⟨?_, ?_, ?_⟩
    · rw [removePath_append u hdir (splitOn_append_dir hdir _) h rfl, List.append_nil,
        List.intercalate_splitOn]
    · rw [List.count_append, hcount, List.count_singleton_self]
    · rw [List.countP_append, hnone]
      simp [Uppercase.Same]
  · obtain hnone | ⟨l, s, r, hpath, hs, hl⟩ := first_same u dir (path.splitOn semicolon)
    · exact .inl ⟨hnone, removePath_of_forall_not u hdir hnone⟩
    · refine .inr ⟨l, s, r, _, hpath, hs, removePath_append u hdir hpath hl hs, fun hne ↦ ?_, ?_⟩
      · refine List.splitOn_intercalate semicolon (fun t ht ↦ ?_) hne
        have hmem : t ∈ l ++ s :: r := by
          rcases List.mem_append.mp ht with ht | ht
          · exact List.mem_append_left _ ht
          · exact List.mem_append_right _ (List.mem_cons_of_mem s ht)
        exact notMem_of_mem_splitOn (hpath ▸ hmem)
      · intro hnil
        rw [hnil]
        rfl

end Path

/-- `Uppercase` on the letters of ASCII. -/
def asciiUppercase : Uppercase where
  unit c := if 0x61 ≤ c ∧ c ≤ 0x7a then c - 0x20 else c
  unit_eq_semicolon_iff c := by
    unfold semicolon
    split_ifs with h
    · refine iff_of_false (fun he ↦ ?_) fun he ↦ ?_
      · have hc : c = 0x5b := by rw [← UInt16.sub_add_cancel c 0x20, he]; rfl
        exact absurd (hc ▸ h.1) (by decide)
      · exact absurd (he ▸ h.1) (by decide)
    · rfl

/-- Two installations of `C:\d` into a value with empty segments, and one removal. -/
theorem path_restored_twice :
    let dir : WideString := [0x43, 0x3a, 0x5c, 0x64]
    let path : WideString := [semicolon, 0x61, semicolon, semicolon]
    removePath asciiUppercase dir ((installPath asciiUppercase dir)^[2] (some path)) =
      some path := by
  intro dir path
  exact ((@path_restored asciiUppercase dir (by decide)).1 (some path) (by decide) 1).1

end Dimmit
