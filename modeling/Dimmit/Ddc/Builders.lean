import Dimmit.Ddc.Linux
import Dimmit.Ddc.Netbsd
import Dimmit.Lib.Ledger
import Mathlib.Algebra.Order.Group.Multiset
import Mathlib.Tactic.Abel

/-!
# What the display-list builders obtain

`ddc_implementation_get_display_info_list` of `linux.c` and `netbsd.c` once more, this time with
every call to the allocator, every `free`, and every descriptor and library list opened and
closed on the way.  `Books` keeps the account.

A builder is `Clean` when an error leaves nothing behind and a list accounts for every reference
it took.  The Linux builder always is.  The NetBSD builder frees its array on an error, but not
the references in it.
-/

namespace Dimmit

open Ledger

/-! ## The account of a call -/

/-- Whether the `n`-th call of each kind succeeds, counted from 0 in the call of the builder. -/
structure Allocator where
  malloc : Nat → Bool
  calloc : Nat → Bool
  realloc : Nat → Bool

/-- A call to the allocator, which names the block it returned. -/
inductive AllocCall where
  | malloc (n : Nat)
  | calloc (n : Nat)
  | realloc (n : Nat)
deriving DecidableEq, Repr

/-- What a builder obtains; `X` is what the system hands out. -/
inductive Resource (X : Type) where
  /-- A list struct or an array. -/
  | array (block : AllocCall)
  /-- A `struct DDC_Display_Ref_s`. -/
  | ref (block : AllocCall)
  /-- A descriptor, a list of the library or a monitor. -/
  | handle (x : X)
deriving DecidableEq, Repr

/-- The calls made so far, and what became of what they returned. -/
structure Books (X : Type) where
  mallocs : Nat
  callocs : Nat
  reallocs : Nat
  log : List (Action (Resource X))

namespace Books

variable {X : Type}

/-- The books at the start of a call. -/
def blank : Books X := ⟨0, 0, 0, []⟩

def obtain (r : Resource X) (b : Books X) : Books X := { b with log := b.log ++ [.acquire r] }

/-- `obtain` of each in turn. -/
def obtainAll (rs : List (Resource X)) (b : Books X) : Books X :=
  { b with log := b.log ++ rs.map .acquire }

/-- `free`, `close` and their like. -/
def giveBack (r : Resource X) (b : Books X) : Books X := { b with log := b.log ++ [.release r] }

/-- `giveBack` of each in turn. -/
def giveBackAll (rs : List (Resource X)) (b : Books X) : Books X :=
  { b with log := b.log ++ rs.map .release }

/-- `malloc` of a block that becomes the resource `use` of it. -/
def malloc (a : Allocator) (use : AllocCall → Resource X) (b : Books X) :
    Option AllocCall × Books X :=
  let b' := { b with mallocs := b.mallocs + 1 }
  if a.malloc b.mallocs then (some (.malloc b.mallocs), b'.obtain (use (.malloc b.mallocs)))
  else (none, b')

/-- `calloc` of an array. -/
def calloc (a : Allocator) (b : Books X) : Option AllocCall × Books X :=
  let b' := { b with callocs := b.callocs + 1 }
  if a.calloc b.callocs then (some (.calloc b.callocs), b'.obtain (.array (.calloc b.callocs)))
  else (none, b')

/-- `free` of an array, which does nothing to the null pointer. -/
def freeArray (old : Option AllocCall) (b : Books X) : Books X :=
  match old with
  | none => b
  | some block => b.giveBack (.array block)

/-- `realloc` of an array: the old block is given up where there is a new one. -/
def realloc (a : Allocator) (old : Option AllocCall) (b : Books X) : Option AllocCall × Books X :=
  let b' := { b with reallocs := b.reallocs + 1 }
  if a.realloc b.reallocs then
    (some (.realloc b.reallocs), (b'.freeArray old).obtain (.array (.realloc b.reallocs)))
  else (none, b')

end Books

/-- A `DDC_Display_Info_List` with its blocks. -/
structure BuiltList (D : Type) where
  out : AllocCall
  info : Option AllocCall
  /-- The entries, each with the block of its reference. -/
  refs : List (AllocCall × DisplayInfo D)
deriving DecidableEq

/-- The references of a list, as resources. -/
def refResources {X D : Type} (refs : List (AllocCall × DisplayInfo D)) : List (Resource X) :=
  refs.map fun r ↦ .ref r.1

/-- The same as a part of what is held. -/
def heldRefs {X D : Type} (refs : List (AllocCall × DisplayInfo D)) : Multiset (Resource X) :=
  Multiset.ofList (refResources refs)

/-- What they carry of what the system handed out. -/
def carriedResources {X D : Type} (carried : DisplayInfo D → List X)
    (refs : List (AllocCall × DisplayInfo D)) : List (Resource X) :=
  (refs.flatMap fun r ↦ carried r.2).map .handle

/-! ## Clean builders -/

/-- A reference, or something of the system's. -/
def Resource.tracked {X : Type} : Resource X → Bool
  | .array _ => false
  | .ref _ | .handle _ => true

/-- The call ended with `result` and the books `log`. -/
structure Clean {X D : Type} [DecidableEq X] (carried : DisplayInfo D → List X)
    (result : Option (BuiltList D)) (log : List (Action (Resource X))) : Prop where
  /-- Nothing is given back that is not held, so nothing twice. -/
  disciplined : Disciplined log
  /-- An error leaves nothing behind. -/
  error : result = none → heldAfter 0 log = 0
  /-- What is still held of references and handles is what the list has, each once. -/
  listed : ∀ l ∈ result, (heldAfter 0 log).filter (·.tracked = true) =
    ↑(refResources l.refs ++ carriedResources carried l.refs : List (Resource X))
  /-- The list has them in the order in which they were obtained. -/
  ordered : ∀ l ∈ result, (refResources l.refs).Sublist (acquisitions log) ∧
    (carriedResources carried l.refs).Sublist (acquisitions log)

/-! ## The builders -/

section Builders

variable {X Y D : Type}

/-- The loop that gives each of `ys` a reference of its own.  Where one cannot be allocated, those
`made` before it are freed. -/
def wrapRefs (a : Allocator) (entry : Y → DisplayInfo D) :
    List Y → List (AllocCall × DisplayInfo D) → Books X →
      Option (List (AllocCall × DisplayInfo D)) × Books X
  | [], made, b => (some made, b)
  | y :: ys, made, b =>
    match b.malloc a .ref with
    | (none, b) => (none, b.giveBackAll (refResources made))
    | (some wr, b) => wrapRefs a entry ys (made ++ [(wr, entry y)]) b

/-- `ddc_implementation_get_display_info_list` of `linux.c`, where libddcutil answered with the
status `st` and the list `dl`. -/
def linuxGetDisplayInfoListBooked (a : Allocator) (st : Int)
    (dl : Option (List (DdcaDisplayInfo D))) (b : Books Unit) :
    Option (BuiltList D) × Books Unit :=
  match dl with
  | none => (none, b)
  | some infos =>
    let b := b.obtain (.handle ())
    if st ≠ 0 ∨ infos.length = 0 then (none, b.giveBack (.handle ()))
    else
      match b.malloc a .array with
      | (none, b) => (none, b.giveBack (.handle ()))
      | (some out, b) =>
        match b.calloc a with
        | (none, b) => (none, (b.giveBack (.array out)).giveBack (.handle ()))
        | (some info, b) =>
          match wrapRefs a linuxDisplayInfo infos [] b with
          | (none, b) =>
            (none, ((b.giveBack (.array info)).giveBack (.array out)).giveBack (.handle ()))
          | (some refs, b) => (some ⟨out, some info, refs⟩, b.giveBack (.handle ()))

/-- What comes of testing a device of NetBSD. -/
inductive Tested where
  /-- It does not open. -/
  | absent
  /-- It opens and does not take the test command. -/
  | silent
  | answers
deriving DecidableEq, Repr

/-- The loop of `ddc_implementation_get_display_info_list` of `netbsd.c`, with the list `out` and
its array `info` of the entries `refs`. -/
def netbsdTestPathsBooked (a : Allocator) (device : CString → Tested) (out : AllocCall) :
    List CString → Option AllocCall → List (AllocCall × DisplayInfo CString) → Books CString →
      Option (Option AllocCall × List (AllocCall × DisplayInfo CString)) × Books CString
  | [], info, refs, b => (some (info, refs), b)
  | path :: paths, info, refs, b =>
    match device path with
    | .absent => netbsdTestPathsBooked a device out paths info refs b
    | .silent =>
      netbsdTestPathsBooked a device out paths info refs
        ((b.obtain (.handle path)).giveBack (.handle path))
    | .answers =>
      match (b.obtain (.handle path)).realloc a info with
      | (none, b) =>
        (none, ((b.giveBack (.handle path)).freeArray info).giveBack (.array out))
      | (some newinfo, b) =>
        match b.malloc a .ref with
        | (none, b) =>
          -- the array is freed, and the references it points to are not
          (none, ((b.giveBack (.handle path)).giveBack (.array newinfo)).giveBack (.array out))
        | (some dref, b) =>
          netbsdTestPathsBooked a device out paths (some newinfo)
            (refs ++ [(dref, netbsdDisplayInfo path)]) (b.giveBack (.handle path))

/-- `ddc_implementation_get_display_info_list` of `netbsd.c`. -/
def netbsdGetDisplayInfoListBooked (a : Allocator) (device : CString → Tested)
    (b : Books CString) : Option (BuiltList CString) × Books CString :=
  match b.malloc a .array with
  | (none, b) => (none, b)
  | (some out, b) =>
    match netbsdTestPathsBooked a device out netbsdPaths none [] b with
    | (none, b) => (none, b)
    | (some (info, refs), b) =>
      if refs.length = 0 then (none, b.giveBack (.array out)) else (some ⟨out, info, refs⟩, b)

end Builders

/-! ## What each call adds to the books -/

namespace Books

variable {X : Type} [DecidableEq X] (a : Allocator)

theorem grows_obtain (r : Resource X) (b : Books X) :
    Grows b.log (b.obtain r).log 0 {r} [r] := .acquire b.log r

theorem grows_giveBack (r : Resource X) (b : Books X) :
    Grows b.log (b.giveBack r).log {r} 0 [] := .release b.log r

theorem grows_obtainAll (rs : List (Resource X)) (b : Books X) :
    Grows b.log (b.obtainAll rs).log 0 (Multiset.ofList rs) rs := .acquireAll b.log rs

theorem malloc_cases (use : AllocCall → Resource X) (b : Books X) :
    (a.malloc b.mallocs = true ∧ ∃ b', b.malloc a use = (some (.malloc b.mallocs), b') ∧
      b'.mallocs = b.mallocs + 1 ∧ b'.callocs = b.callocs ∧ b'.reallocs = b.reallocs ∧
      Grows b.log b'.log 0 {use (.malloc b.mallocs)} [use (.malloc b.mallocs)]) ∨
    (a.malloc b.mallocs = false ∧ ∃ b', b.malloc a use = (none, b') ∧ b'.log = b.log) := by
  unfold malloc
  cases h : a.malloc b.mallocs with
  | true => exact .inl ⟨rfl, _, rfl, rfl, rfl, rfl, grows_obtain ..⟩
  | false => exact .inr ⟨rfl, _, rfl, rfl⟩

theorem calloc_cases (b : Books X) :
    (a.calloc b.callocs = true ∧ ∃ b', b.calloc a = (some (.calloc b.callocs), b') ∧
      b'.mallocs = b.mallocs ∧ b'.callocs = b.callocs + 1 ∧ b'.reallocs = b.reallocs ∧
      Grows b.log b'.log 0 {.array (.calloc b.callocs)} [.array (.calloc b.callocs)]) ∨
    (a.calloc b.callocs = false ∧ ∃ b', b.calloc a = (none, b') ∧
      b'.mallocs = b.mallocs ∧ b'.callocs = b.callocs + 1 ∧ b'.reallocs = b.reallocs ∧
      b'.log = b.log) := by
  unfold calloc
  cases h : a.calloc b.callocs with
  | true => exact .inl ⟨rfl, _, rfl, rfl, rfl, rfl, grows_obtain ..⟩
  | false => exact .inr ⟨rfl, _, rfl, rfl, rfl, rfl, rfl⟩

/-- The block of an array, if there is one. -/
def arrayBlock (old : Option AllocCall) : Multiset (Resource X) :=
  old.elim 0 fun block ↦ {.array block}

theorem grows_freeArray (old : Option AllocCall) (b : Books X) :
    Grows b.log (b.freeArray old).log (arrayBlock old) 0 [] := by
  cases old with
  | none => exact .refl b.log 0
  | some block => exact grows_giveBack ..

theorem realloc_cases (old : Option AllocCall) (b : Books X) :
    (a.realloc b.reallocs = true ∧ ∃ b', b.realloc a old = (some (.realloc b.reallocs), b') ∧
      b'.mallocs = b.mallocs ∧ b'.callocs = b.callocs ∧ b'.reallocs = b.reallocs + 1 ∧
      Grows b.log b'.log (arrayBlock old) {.array (.realloc b.reallocs)}
        [.array (.realloc b.reallocs)]) ∨
    (a.realloc b.reallocs = false ∧ ∃ b', b.realloc a old = (none, b') ∧
      b'.mallocs = b.mallocs ∧ b'.callocs = b.callocs ∧ b'.log = b.log) := by
  unfold realloc
  cases h : a.realloc b.reallocs with
  | true =>
      refine .inl ⟨rfl, _, rfl, ?_, ?_, ?_, ?_⟩
      · cases old <;> rfl
      · cases old <;> rfl
      · cases old <;> rfl
      · have hfree := grows_freeArray old { b with reallocs := b.reallocs + 1 }
        exact hfree.trans (grows_obtain ..)
  | false => exact .inr ⟨rfl, _, rfl, rfl, rfl, rfl⟩

end Books

section Specs

variable {X Y D : Type} [DecidableEq X] (a : Allocator)

omit [DecidableEq X] in
theorem heldRefs_cons (r : AllocCall × DisplayInfo D) (refs : List (AllocCall × DisplayInfo D)) :
    (heldRefs (r :: refs) : Multiset (Resource X)) = {.ref r.1} + heldRefs refs := rfl

omit [DecidableEq X] in
theorem heldRefs_concat (refs : List (AllocCall × DisplayInfo D))
    (r : AllocCall × DisplayInfo D) :
    (heldRefs (refs ++ [r]) : Multiset (Resource X)) = heldRefs refs + {.ref r.1} := by
  rw [heldRefs, refResources, List.map_append, ← Multiset.coe_add]
  rfl

/-- The references are wrapped one by one, or all of them are freed. -/
theorem wrapRefs_cases (entry : Y → DisplayInfo D) (ys : List Y)
    (made : List (AllocCall × DisplayInfo D)) (b : Books X) :
    ((∀ i < ys.length, a.malloc (b.mallocs + i) = true) ∧ ∃ new b',
      wrapRefs a entry ys made b = (some (made ++ new), b') ∧ new.map Prod.snd = ys.map entry ∧
      Grows b.log b'.log 0 (heldRefs new) (refResources new)) ∨
    ((∃ i < ys.length, a.malloc (b.mallocs + i) = false) ∧ ∃ got b',
      wrapRefs a entry ys made b = (none, b') ∧ Grows b.log b'.log (heldRefs made) 0 got) := by
  induction ys generalizing made b with
  | nil =>
      refine .inl ⟨fun i hi ↦ absurd hi (Nat.not_lt_zero i), [], b, ?_, rfl, .refl b.log 0⟩
      rw [wrapRefs, List.append_nil]
  | cons y ys ih =>
      obtain ⟨hok, b₁, hm, hcount, -, -, hgrow⟩ | ⟨hok, b₁, hm, hlog⟩ := b.malloc_cases a .ref
      · have hshift (i : Nat) : b.mallocs + (i + 1) = b₁.mallocs + i := by omega
        obtain ⟨hrest, new, b', he, hnew, hgrow'⟩ | ⟨⟨i, hi, hbad⟩, got, b', he, hgrow'⟩ :=
          ih (made ++ [(.malloc b.mallocs, entry y)]) b₁
        · refine .inl ⟨?_, (.malloc b.mallocs, entry y) :: new, b', ?_, ?_, ?_⟩
          · rintro (_ | i) hi
            · exact hok
            · rw [hshift]
              exact hrest i (Nat.lt_of_succ_lt_succ hi)
          · simp only [wrapRefs, hm, he, List.append_assoc, List.singleton_append]
          · rw [List.map_cons, List.map_cons, hnew]
          · rw [heldRefs_cons, add_comm]
            exact hgrow.gain hgrow'
        · refine .inr ⟨⟨i + 1, Nat.succ_lt_succ hi, ?_⟩, .ref (.malloc b.mallocs) :: got, b',
            ?_, ?_⟩
          · rw [hshift]
            exact hbad
          · simp only [wrapRefs, hm, he]
          · have hmore := hgrow.frame (heldRefs made)
            rw [zero_add, add_comm] at hmore
            rw [heldRefs_concat] at hgrow'
            exact hmore.trans hgrow'
      · refine .inr ⟨⟨0, Nat.succ_pos _, hok⟩, [], b₁.giveBackAll (refResources made), ?_, ?_⟩
        · simp only [wrapRefs, hm]
        · rw [← hlog]
          exact .releaseAll b₁.log _

/-! ## Clean or not -/

theorem clean_of_error {carried : DisplayInfo D → List X} {log : List (Action (Resource X))}
    {got : List (Resource X)} (h : Grows [] log 0 0 got) : Clean carried none log := by
  obtain ⟨hd, hheld, -⟩ := h.of_nil
  exact ⟨hd, fun _ ↦ hheld, nofun, nofun⟩

omit [DecidableEq X] in
theorem filter_tracked_heldRefs (refs : List (AllocCall × DisplayInfo D)) :
    (heldRefs refs : Multiset (Resource X)).filter (·.tracked = true) = heldRefs refs := by
  refine Multiset.filter_eq_self.mpr fun r hr ↦ ?_
  obtain ⟨p, -, rfl⟩ := List.mem_map.mp (Multiset.mem_coe.mp hr)
  rfl

omit [DecidableEq X] in
theorem filter_tracked_array (block : AllocCall) :
    ({.array block} : Multiset (Resource X)).filter (·.tracked = true) = 0 := by
  rw [Multiset.filter_singleton, if_neg (by simp [Resource.tracked])]
  rfl

/-- A list that carries nothing is clean when its references are what is held beside arrays. -/
theorem clean_of_list {l : BuiltList D} {log : List (Action (Resource X))}
    {got : List (Resource X)} {arrays : Multiset (Resource X)}
    (h : Grows [] log 0 (heldRefs l.refs + arrays) got)
    (harrays : arrays.filter (·.tracked = true) = 0) (hgot : (refResources l.refs).Sublist got) :
    Clean (fun _ ↦ []) (some l) log := by
  obtain ⟨hd, hheld, rfl⟩ := h.of_nil
  have hnone : carriedResources (X := X) (fun _ ↦ []) l.refs = [] := by
    simp [carriedResources]
  refine ⟨hd, nofun, ?_, ?_⟩
  · rintro _ ⟨⟩
    rw [hheld, Multiset.filter_add, filter_tracked_heldRefs, harrays, add_zero, hnone,
      List.append_nil]
    rfl
  · rintro _ ⟨⟩
    rw [hnone]
    exact ⟨hgot, List.nil_sublist _⟩

/-- The Linux builder leaves nothing behind, whatever fails. -/
theorem linux_clean (st : Int) (dl : Option (List (DdcaDisplayInfo D))) :
    Clean (fun _ ↦ []) (linuxGetDisplayInfoListBooked a st dl .blank).1
      (linuxGetDisplayInfoListBooked a st dl .blank).2.log := by
  rcases dl with _ | infos
  · exact clean_of_error (.refl [] 0)
  have hdl := (Books.blank (X := Unit)).grows_obtain (.handle ())
  rw [linuxGetDisplayInfoListBooked]
  by_cases hst : st ≠ 0 ∨ infos.length = 0
  · rw [if_pos hst]
    exact clean_of_error (hdl.done (Books.grows_giveBack ..))
  rw [if_neg hst]
  obtain ⟨-, b₁, hm, -, -, -, hout⟩ | ⟨-, b₁, hm, hlog⟩ :=
    (Books.blank.obtain (.handle ())).malloc_cases a .array <;> rw [hm]
  swap
  · rw [← hlog] at hdl
    exact clean_of_error (hdl.done (Books.grows_giveBack ..))
  have hout := hdl.gain hout
  obtain ⟨-, b₂, hc, -, -, -, hinfo⟩ | ⟨-, b₂, hc, -, -, -, hlog⟩ := b₁.calloc_cases a <;>
    simp only [hc]
  swap
  · rw [← hlog] at hout
    have hout := hout.drop (Books.grows_giveBack ..) rfl
    exact clean_of_error (hout.done (Books.grows_giveBack ..))
  have hinfo := hout.gain hinfo
  obtain ⟨-, new, b₃, hw, -, hrefs⟩ | ⟨-, got, b₃, hw, hrefs⟩ :=
    wrapRefs_cases a linuxDisplayInfo infos [] b₂ <;> simp only [hw]
  · have hall := (hinfo.gain hrefs).drop (b₃.grows_giveBack (.handle ()))
      (k := heldRefs new + ({.array (.calloc b₁.callocs)} + {.array (.malloc 0)})) (by
        change _ + ({_} + ({Resource.array (.malloc 0)} + _)) = _
        abel)
    refine clean_of_list hall ?_ (List.sublist_append_right _ _)
    rw [Multiset.filter_add, filter_tracked_array, filter_tracked_array, add_zero]
  · have hfreed : Grows b₂.log b₃.log 0 0 got := hrefs
    have hinfo := hinfo.gain hfreed
    rw [zero_add] at hinfo
    have hout := (hinfo.drop (Books.grows_giveBack ..) rfl).drop (Books.grows_giveBack ..) rfl
    exact clean_of_error (hout.done (Books.grows_giveBack ..))

/-! ## The devices of NetBSD -/

/-- How many devices answer. -/
def answering (device : CString → Tested) (paths : List CString) : Nat :=
  paths.countP fun path ↦ device path = .answers

/-- A device that answers gets a reference, or the builder fails, having closed the device and
freed the array and the list. -/
theorem netbsdTestPathsBooked_answers {device : CString → Tested} {path : CString}
    (hd : device path = .answers) (out : AllocCall) (paths : List CString)
    (info : Option AllocCall) (refs : List (AllocCall × DisplayInfo CString)) (b : Books CString) :
    ((a.realloc b.reallocs = true ∧ a.malloc b.mallocs = true) ∧ ∃ b' got,
      netbsdTestPathsBooked a device out (path :: paths) info refs b =
        netbsdTestPathsBooked a device out paths (some (.realloc b.reallocs))
          (refs ++ [(.malloc b.mallocs, netbsdDisplayInfo path)]) b' ∧
      b'.reallocs = b.reallocs + 1 ∧ b'.mallocs = b.mallocs + 1 ∧
      [.ref (.malloc b.mallocs)].Sublist got ∧
      Grows b.log b'.log (Books.arrayBlock info)
        (Books.arrayBlock (some (.realloc b.reallocs)) + {.ref (.malloc b.mallocs)}) got) ∨
    (¬ (a.realloc b.reallocs = true ∧ a.malloc b.mallocs = true) ∧ ∃ b' got,
      netbsdTestPathsBooked a device out (path :: paths) info refs b = (none, b') ∧
      Grows b.log b'.log (Books.arrayBlock info + {.array out}) 0 got) := by
  have hopen := (Grows.refl b.log (Books.arrayBlock info)).gain (b.grows_obtain (.handle path))
  rw [netbsdTestPathsBooked, hd]
  obtain ⟨hr, b₁, he₁, hm₁, -, hr₁, hgrow₁⟩ | ⟨hr, b₁, he₁, -, -, hlog₁⟩ :=
    (b.obtain (.handle path)).realloc_cases a info <;> simp only [he₁]
  swap
  · have hfail : ¬ (a.realloc b.reallocs = true ∧ a.malloc b.mallocs = true) :=
      fun h ↦ absurd (hr.symm.trans h.1) (by decide)
    rw [← hlog₁] at hopen
    have hclosed := (hopen.drop (b₁.grows_giveBack _) rfl).frame {.array out}
    have hfreed := hclosed.drop (Books.grows_freeArray ..) rfl
    exact .inr ⟨hfail, _, _, rfl, hfreed.done (Books.grows_giveBack ..)⟩
  have hgrown := hopen.seq hgrow₁ (add_comm _ _)
  obtain ⟨hm, b₂, he₂, hm₂, -, hr₂, hgrow₂⟩ | ⟨hm, b₂, he₂, hlog₂⟩ := b₁.malloc_cases a .ref <;>
    simp only [he₂]
  · rw [hm₁] at hm hm₂ hgrow₂
    rw [hr₁] at hr₂
    have hall := (hgrown.gain hgrow₂).drop (b₂.grows_giveBack (.handle path))
      (k := {.array (.realloc b.reallocs)} + {.ref (.malloc b.mallocs)}) (by
        change {Resource.ref (.malloc b.mallocs)} +
          ({Resource.array (.realloc b.reallocs)} + {Resource.handle path}) = _
        abel)
    refine .inl ⟨⟨hr, hm⟩, b₂.giveBack (.handle path), _, ?_, hr₂, hm₂,
      List.sublist_append_right _ _, hall⟩
    rw [hm₁]
    rfl
  · rw [hm₁] at hm
    have hfail : ¬ (a.realloc b.reallocs = true ∧ a.malloc b.mallocs = true) :=
      fun h ↦ absurd (hm.symm.trans h.2) (by decide)
    rw [← hlog₂] at hgrown
    have hclosed := (hgrown.drop (b₂.grows_giveBack (.handle path)) (add_comm _ _)).frame
      {.array out}
    have hfreed := hclosed.drop (Books.grows_giveBack ..) rfl
    exact .inr ⟨hfail, _, _, rfl, hfreed.done (Books.grows_giveBack ..)⟩

/-- The loop makes a reference for each device that answers, or stops at the first it cannot
allocate for and leaves those made before. -/
theorem netbsdTestPathsBooked_cases (device : CString → Tested) (out : AllocCall)
    (paths : List CString) (info : Option AllocCall)
    (refs : List (AllocCall × DisplayInfo CString)) (b : Books CString) :
    (∃ info' new b' got, netbsdTestPathsBooked a device out paths info refs b =
        (some (info', refs ++ new), b') ∧ new.length = answering device paths ∧
      (new = [] → info' = info) ∧
      (∀ j < new.length, a.realloc (b.reallocs + j) = true ∧ a.malloc (b.mallocs + j) = true) ∧
      (refResources new).Sublist got ∧ Grows b.log b'.log (Books.arrayBlock info)
        (Books.arrayBlock info' + heldRefs new) got) ∨
    ∃ (new : List (AllocCall × DisplayInfo CString)) (b' : Books CString)
        (got : List (Resource CString)),
      netbsdTestPathsBooked a device out paths info refs b = (none, b') ∧
      new.length < answering device paths ∧
      (∀ j < new.length, a.realloc (b.reallocs + j) = true ∧ a.malloc (b.mallocs + j) = true) ∧
      ¬ (a.realloc (b.reallocs + new.length) = true ∧ a.malloc (b.mallocs + new.length) = true) ∧
      Grows b.log b'.log (Books.arrayBlock info + {.array out}) (heldRefs new) got := by
  induction paths generalizing info refs b with
  | nil =>
      refine .inl ⟨info, [], b, [], ?_, rfl, fun _ ↦ rfl, fun j hj ↦ absurd hj (Nat.not_lt_zero j),
        .slnil, ?_⟩
      · rw [netbsdTestPathsBooked, List.append_nil]
      · change Grows b.log b.log _ (_ + 0) []
        rw [add_zero]
        exact .refl b.log _
  | cons path paths ih =>
      cases hd : device path with
      | absent =>
          have hcount : answering device (path :: paths) = answering device paths :=
            List.countP_cons_of_neg (by simp [hd])
          rw [netbsdTestPathsBooked, hd, hcount]
          exact ih info refs b
      | silent =>
          have hcount : answering device (path :: paths) = answering device paths :=
            List.countP_cons_of_neg (by simp [hd])
          rw [netbsdTestPathsBooked, hd, hcount]
          have htest := (b.grows_obtain (.handle path)).done (Books.grows_giveBack ..)
          obtain ⟨info', new, b', got, he, hn, hnil, hok, hsub, hgrow⟩ |
            ⟨new, b', got, he, hn, hok, hbad, hgrow⟩ :=
            ih info refs ((b.obtain (.handle path)).giveBack (.handle path))
          · exact .inl ⟨info', new, b', _, he, hn, hnil, hok,
              hsub.trans (List.sublist_append_right _ _), htest.idle hgrow⟩
          · exact .inr ⟨new, b', _, he, hn, hok, hbad, htest.idle hgrow⟩
      | answers =>
          have hcount : answering device (path :: paths) = answering device paths + 1 :=
            List.countP_cons_of_pos (by simp [hd])
          rw [hcount]
          obtain ⟨hok₀, b₁, got₁, he₁, hr₁, hm₁, hsub₁, hgrow₁⟩ | ⟨hbad, b₁, got₁, he₁, hgrow₁⟩ :=
            netbsdTestPathsBooked_answers a hd out paths info refs b
          swap
          · exact .inr ⟨[], b₁, got₁, he₁, Nat.succ_pos _, fun j hj ↦ absurd hj (Nat.not_lt_zero j),
              hbad, hgrow₁⟩
          have hshift (j : Nat) : b.reallocs + (j + 1) = b₁.reallocs + j ∧
              b.mallocs + (j + 1) = b₁.mallocs + j := by omega
          have hoks {n : Nat} (hok : ∀ j < n, a.realloc (b₁.reallocs + j) = true ∧
              a.malloc (b₁.mallocs + j) = true) (j : Nat) (hj : j < n + 1) :
              a.realloc (b.reallocs + j) = true ∧ a.malloc (b.mallocs + j) = true := by
            cases j with
            | zero => exact hok₀
            | succ j =>
                rw [(hshift j).1, (hshift j).2]
                exact hok j (Nat.lt_of_succ_lt_succ hj)
          rw [he₁]
          obtain ⟨info', new, b', got, he, hn, -, hok, hsub, hgrow⟩ |
            ⟨new, b', got, he, hn, hok, hbad, hgrow⟩ := ih (some (.realloc b.reallocs))
            (refs ++ [(.malloc b.mallocs, netbsdDisplayInfo path)]) b₁
          · have hall := hgrow₁.seq hgrow rfl
            rw [add_assoc, add_comm (heldRefs new)] at hall
            refine .inl ⟨info', (.malloc b.mallocs, netbsdDisplayInfo path) :: new, b', _, ?_, ?_,
              nofun, hoks hok, hsub₁.append hsub, hall⟩
            · rw [he, List.append_assoc]
              rfl
            · rw [List.length_cons, hn]
          · have hall := (hgrow₁.frame {.array out}).seq hgrow (add_right_comm ..)
            rw [add_comm (heldRefs new)] at hall
            refine .inr ⟨(.malloc b.mallocs, netbsdDisplayInfo path) :: new, b', _, he,
              Nat.succ_lt_succ hn, hoks hok, ?_, hall⟩
            rw [List.length_cons, (hshift _).1, (hshift _).2]
            exact hbad

/-- The NetBSD builder is clean where no allocation fails after those for the list and for the
first device. -/
def NetbsdSpared (a : Allocator) (device : CString → Tested) : Prop :=
  a.malloc 0 = true → a.realloc 0 = true → a.malloc 1 = true →
    ∀ j < answering device netbsdPaths, a.realloc j = true ∧ a.malloc (j + 1) = true

theorem netbsd_clean_iff (device : CString → Tested) :
    Clean (fun _ ↦ []) (netbsdGetDisplayInfoListBooked a device .blank).1
      (netbsdGetDisplayInfoListBooked a device .blank).2.log ↔ NetbsdSpared a device := by
  unfold NetbsdSpared
  rw [netbsdGetDisplayInfoListBooked]
  obtain ⟨h₀, b₁, he₁, hm₁, -, hr₁, hout⟩ | ⟨h₀, b₁, he₁, hlog⟩ :=
    (Books.blank (X := CString)).malloc_cases a .array <;> simp only [he₁]
  swap
  · refine iff_of_true ?_ fun h ↦ absurd (h₀.symm.trans h) (by decide)
    have hsame : Grows [] b₁.log 0 0 [] := by
      rw [hlog]
      exact .refl [] 0
    exact clean_of_error hsame
  obtain ⟨info', new, b₂, got, he₂, hn, hnil, hok, hsub, hgrow⟩ |
    ⟨new, b₂, got, he₂, hn, hok, hbad, hgrow⟩ :=
    netbsdTestPathsBooked_cases a device (.malloc (Books.blank (X := CString)).mallocs)
      netbsdPaths none [] b₁
  · have hspared : ∀ j < answering device netbsdPaths,
        a.realloc j = true ∧ a.malloc (j + 1) = true := by
      intro j hj
      have hj := hok j (hn ▸ hj)
      rw [hr₁, hm₁] at hj
      change a.realloc (0 + j) = true ∧ a.malloc (0 + 1 + j) = true at hj
      rwa [Nat.zero_add, Nat.zero_add, Nat.add_comm 1] at hj
    refine iff_of_true ?_ fun _ _ _ ↦ hspared
    have hall := hout.gain hgrow
    simp only [he₂, List.nil_append]
    by_cases hzero : new.length = 0
    · obtain rfl := List.eq_nil_of_length_eq_zero hzero
      rw [if_pos hzero]
      rw [hnil rfl] at hall
      have hlist : Grows [] b₂.log 0 {.array (.malloc 0)} _ := hall
      exact clean_of_error (hlist.done (Books.grows_giveBack ..))
    · rw [if_neg hzero]
      rw [add_assoc, add_left_comm] at hall
      refine clean_of_list hall ?_ (hsub.trans (List.sublist_append_right _ _))
      rw [Multiset.filter_add, filter_tracked_array, add_zero]
      cases info' with
      | none => rfl
      | some block => exact filter_tracked_array block
  · have hall : Grows [] b₂.log 0 (heldRefs new) _ := hout.trans hgrow
    have hheld := hall.of_nil.2.1
    simp only [he₂]
    rw [hr₁, hm₁] at hbad hok
    change ¬ (a.realloc (0 + new.length) = true ∧ a.malloc (0 + 1 + new.length) = true) at hbad
    constructor
    · intro hclean _ hr hm
      have hnil : new.length = 0 := by
        have hcard := congrArg Multiset.card (hheld.symm.trans (hclean.error rfl))
        simpa [heldRefs, refResources] using hcard
      rw [hnil] at hbad
      exact absurd ⟨hr, hm⟩ hbad
    · intro hspared
      have hnil : new = [] := by
        by_contra hne
        obtain ⟨hr, hm⟩ := hok 0 (List.length_pos_iff.mpr hne)
        have hj := hspared h₀ hr hm new.length hn
        rw [Nat.zero_add, Nat.zero_add, Nat.add_comm 1] at hbad
        exact hbad hj
      subst hnil
      exact clean_of_error hall

end Specs

/-! ## The same lists

A world in which `calls` counts the calls of the allocator, and the `n`-th of them succeeds as
`answer n` says. -/

/-- The allocator of a backend fails as the pattern says. -/
structure AllocatesAs {W : Type} (answer : Nat → Bool) (calls : W → Nat)
    (alloc : W → Bool × W) : Prop where
  answers (w : W) : (alloc w).1 = answer (calls w)
  counts (w : W) : calls (alloc w).2 = calls w + 1

namespace Allocator

/-- The calls of `linux.c` in order: `malloc` of the list, `calloc` of the array, then `malloc` of
each reference. -/
def linuxAnswer (a : Allocator) : Nat → Bool
  | 0 => a.malloc 0
  | 1 => a.calloc 0
  | n + 2 => a.malloc (n + 1)

/-- The calls of `netbsd.c` in order: `malloc` of the list, then for each device `realloc` and
`malloc`. -/
def netbsdAnswer (a : Allocator) : Nat → Bool
  | 0 => a.malloc 0
  | n + 1 => if n % 2 = 0 then a.realloc (n / 2) else a.malloc (n / 2 + 1)

end Allocator

section SameLists

variable {W D DH FD : Type} {calls : W → Nat} {a : Allocator}

theorem AllocatesAs.alloc_eq {answer : Nat → Bool} {alloc : W → Bool × W}
    (h : AllocatesAs answer calls alloc) (w : W) :
    ∃ w', alloc w = (answer (calls w), w') ∧ calls w' = calls w + 1 :=
  ⟨(alloc w).2, Prod.ext (h.answers w) rfl, h.counts w⟩

theorem isSome_wrapRefs {ddca : Ddca W D DH} (h : AllocatesAs a.linuxAnswer calls ddca.alloc)
    (infos : List (DdcaDisplayInfo D)) (made : List (AllocCall × DisplayInfo D))
    (b : Books Unit) (hb : 0 < b.mallocs) (w : W) (hw : calls w = b.mallocs + 1) :
    (wrapRefs a linuxDisplayInfo infos made b).1.isSome = (linuxWrapRefs ddca infos w).1 := by
  induction infos generalizing made b w with
  | nil => rfl
  | cons info infos ih =>
      obtain ⟨w', hw', hcalls⟩ := h.alloc_eq w
      have hanswer : a.linuxAnswer (calls w) = a.malloc b.mallocs := by
        obtain ⟨n, hn⟩ := Nat.exists_eq_add_of_lt hb
        rw [hw, hn, Nat.zero_add]
        rfl
      rw [hanswer] at hw'
      obtain ⟨hok, b', he, hm, -⟩ | ⟨hok, b', he, -⟩ := b.malloc_cases a .ref
      · simp only [wrapRefs, linuxWrapRefs, he, hw', hok]
        exact ih _ b' (by omega) w' (by omega)
      · simp only [wrapRefs, linuxWrapRefs, he, hw', hok]
        rfl

/-- The account of the Linux builder is of the call that makes the list. -/
theorem linuxGetDisplayInfoListBooked_list {ddca : Ddca W D DH}
    (h : AllocatesAs a.linuxAnswer calls ddca.alloc) {w w' : W} {st : Int}
    {dl : Option (DdcaDisplayInfoList D)} (hq : ddca.getDisplayInfoList2 w = (st, dl, w'))
    (hw : calls w' = 0) :
    (linuxGetDisplayInfoListBooked a st (dl.map (·.info)) .blank).1.map
        (fun l ↦ l.refs.map Prod.snd) =
      (linuxGetDisplayInfoList ddca w).1.map (·.info) := by
  rw [linuxGetDisplayInfoList, hq]
  rcases dl with _ | dl
  · rfl
  simp only [Option.map_some, linuxGetDisplayInfoListBooked]
  by_cases hst : st ≠ 0 ∨ dl.info.length = 0
  · rw [if_pos hst, if_pos hst]
    rfl
  rw [if_neg hst, if_neg hst]
  obtain ⟨w₁, hw₁, hcalls₁⟩ := h.alloc_eq w'
  obtain ⟨w₂, hw₂, hcalls₂⟩ := h.alloc_eq w₁
  rw [hw] at hw₁ hcalls₁
  rw [hcalls₁] at hw₂ hcalls₂
  obtain ⟨h₁, b₁, he₁, hm₁, hk₁, -⟩ | ⟨h₁, b₁, he₁, -⟩ :=
    ((Books.blank (X := Unit)).obtain (.handle ())).malloc_cases a .array <;>
    change a.linuxAnswer 0 = _ at h₁ <;> simp only [he₁, hw₁, h₁]
  swap
  · rfl
  obtain ⟨h₂, b₂, he₂, hm₂, -⟩ | ⟨h₂, b₂, he₂, -⟩ := b₁.calloc_cases a <;> rw [hk₁] at h₂ <;>
    change a.linuxAnswer 1 = _ at h₂ <;> simp only [he₂, hw₂, h₂]
  swap
  · rfl
  have hm : b₂.mallocs = 1 := hm₂.trans hm₁
  have hsome := isSome_wrapRefs h dl.info [] b₂ (by omega) w₂ (by omega)
  obtain ⟨-, new, b₃, he₃, hnew, -⟩ | ⟨-, got, b₃, he₃, -⟩ :=
    wrapRefs_cases a linuxDisplayInfo dl.info [] b₂ <;> rw [he₃] at hsome <;>
    rcases hwrap : linuxWrapRefs ddca dl.info w₂ with ⟨_ | _, w₃⟩ <;> rw [hwrap] at hsome <;>
    simp only [he₃]
  · cases hsome
  · exact congrArg some hnew
  · rfl
  · cases hsome

/-- A device of NetBSD shows itself as `device` says. -/
structure ShowsDevices (device : CString → Tested) (calls : W → Nat) (sys : I2cSystem W FD) :
    Prop where
  absent (path : CString) (w : W) : device path = .absent →
    ∃ w', sys.openDevice path w = (none, w') ∧ calls w' = calls w
  opens (path : CString) (w : W) : device path ≠ .absent →
    ∃ fd w' w'', sys.openDevice path w = (some fd, w') ∧
      sys.write fd ddcAddr7Bit testCommand w' = (decide (device path = .answers), w'') ∧
      calls w'' = calls w
  closes (fd : FD) (w : W) : calls (sys.closeDevice fd w) = calls w

theorem netbsdTestPathsBooked_list {device : CString → Tested} {sys : I2cSystem W FD}
    (h : AllocatesAs a.netbsdAnswer calls sys.alloc) (hs : ShowsDevices device calls sys)
    (out : AllocCall) (paths : List CString) (info : Option AllocCall)
    (refs : List (AllocCall × DisplayInfo CString)) (b : Books CString)
    (hb : b.mallocs = b.reallocs + 1) (w : W) (hw : calls w = 2 * b.reallocs + 1) :
    (netbsdTestPathsBooked a device out paths info refs b).1.map (fun r ↦ r.2.map Prod.snd) =
      (netbsdTestPaths sys paths w).1.map (refs.map Prod.snd ++ ·) := by
  induction paths generalizing info refs b w with
  | nil => simp [netbsdTestPathsBooked, netbsdTestPaths]
  | cons path paths ih =>
      cases hd : device path with
      | absent =>
          obtain ⟨w', ho, hcalls⟩ := hs.absent path w hd
          simp only [netbsdTestPathsBooked, netbsdTestPaths, hd, ho]
          exact ih info refs b hb w' (hcalls.trans hw)
      | silent =>
          obtain ⟨fd, w', w'', ho, hwr, hcalls⟩ := hs.opens path w (by simp [hd])
          simp only [netbsdTestPathsBooked, netbsdTestPaths, hd, ho, hwr, reduceCtorEq,
            decide_false]
          exact ih info refs ((b.obtain (.handle path)).giveBack (.handle path)) hb _
            ((hs.closes fd w'').trans (hcalls.trans hw))
      | answers =>
          obtain ⟨fd, w', w'', ho, hwr, hcalls⟩ := hs.opens path w (by simp [hd])
          obtain ⟨w₁, hw₁, hcalls₁⟩ := h.alloc_eq w''
          obtain ⟨w₂, hw₂, hcalls₂⟩ := h.alloc_eq w₁
          rw [hcalls, hw] at hw₁ hcalls₁
          rw [hcalls₁] at hw₂ hcalls₂
          have hanswer : a.netbsdAnswer (2 * b.reallocs + 1) = a.realloc b.reallocs := by
            simp [Allocator.netbsdAnswer]
          have hanswer' : a.netbsdAnswer (2 * b.reallocs + 1 + 1) = a.malloc b.mallocs := by
            rw [hb]
            have hodd : ¬ (2 * b.reallocs + 1) % 2 = 0 := by omega
            have hhalf : (2 * b.reallocs + 1) / 2 = b.reallocs := by omega
            simp only [Allocator.netbsdAnswer, hodd, hhalf, if_false]
          rw [hanswer] at hw₁
          rw [hanswer'] at hw₂
          simp only [netbsdTestPathsBooked, netbsdTestPaths, hd, ho, hwr, decide_true, hw₁]
          obtain ⟨h₁, b₁, he₁, hm₁, -, hr₁, -⟩ | ⟨h₁, b₁, he₁, -⟩ :=
            (b.obtain (.handle path)).realloc_cases a info
          swap
          · change a.realloc b.reallocs = false at h₁
            simp only [he₁, h₁]
            rfl
          change a.realloc b.reallocs = true at h₁
          change b₁.mallocs = b.mallocs at hm₁
          simp only [he₁, h₁, hw₂]
          obtain ⟨h₂, b₂, he₂, hm₂, -, hr₂, -⟩ | ⟨h₂, b₂, he₂, -⟩ := b₁.malloc_cases a .ref <;>
            rw [hm₁] at h₂ <;> simp only [he₂, h₂]
          swap
          · rfl
          change b₁.reallocs = b.reallocs + 1 at hr₁
          have hrest := ih (some (.realloc b.reallocs))
            (refs ++ [(.malloc b₁.mallocs, netbsdDisplayInfo path)])
            (b₂.giveBack (.handle path)) (by change b₂.mallocs = b₂.reallocs + 1; omega)
            (sys.closeDevice fd w₂) (by rw [hs.closes]; change _ = 2 * b₂.reallocs + 1; omega)
          rw [List.map_append] at hrest
          refine hrest.trans ?_
          rcases netbsdTestPaths sys paths (sys.closeDevice fd w₂) with ⟨_ | infos, w₃⟩
          · rfl
          · simp

/-- The NetBSD builder hands out what its loop found, where that is anything. -/
theorem info_netbsdGetDisplayInfoList {sys : I2cSystem W FD} {w w' : W}
    (hw : sys.alloc w = (true, w')) :
    (netbsdGetDisplayInfoList sys w).1.map (·.info) =
      (netbsdTestPaths sys netbsdPaths w').1.filter (decide <| ·.length ≠ 0) := by
  rw [netbsdGetDisplayInfoList, hw]
  dsimp only
  split
  · next w'' hpaths =>
      rw [hpaths]
      rfl
  · next infos w'' hpaths =>
      simp only [hpaths]
      by_cases hlen : infos.length = 0
      · rw [if_pos hlen]
        exact (Option.filter_some_neg (by simp [hlen])).symm
      · rw [if_neg hlen]
        exact (Option.filter_some_pos (by simpa using hlen)).symm

/-- The account of the NetBSD builder is of the call that makes the list. -/
theorem netbsdGetDisplayInfoListBooked_list {device : CString → Tested} {sys : I2cSystem W FD}
    (h : AllocatesAs a.netbsdAnswer calls sys.alloc) (hs : ShowsDevices device calls sys)
    {w : W} (hw : calls w = 0) :
    (netbsdGetDisplayInfoListBooked a device .blank).1.map (fun l ↦ l.refs.map Prod.snd) =
      (netbsdGetDisplayInfoList sys w).1.map (·.info) := by
  obtain ⟨w₁, hw₁, hcalls₁⟩ := h.alloc_eq w
  rw [hw] at hw₁ hcalls₁
  rw [netbsdGetDisplayInfoListBooked]
  obtain ⟨h₁, b₁, he₁, hm₁, -, hr₁, -⟩ | ⟨h₁, b₁, he₁, -⟩ :=
    (Books.blank (X := CString)).malloc_cases a .array <;>
    change a.netbsdAnswer 0 = _ at h₁ <;> rw [h₁] at hw₁ <;> simp only [he₁]
  swap
  · rw [netbsdGetDisplayInfoList, hw₁]
    rfl
  rw [info_netbsdGetDisplayInfoList hw₁]
  have hloop := netbsdTestPathsBooked_list h hs (.malloc (Books.blank (X := CString)).mallocs)
    netbsdPaths none [] b₁ (by rw [hm₁, hr₁]; rfl) w₁ (by rw [hcalls₁, hr₁]; rfl)
  simp only [List.map_nil, List.nil_append, Option.map_id'] at hloop
  rw [← hloop]
  rcases netbsdTestPathsBooked a device (.malloc (Books.blank (X := CString)).mallocs)
    netbsdPaths none [] b₁ with ⟨_ | ⟨info, refs⟩, b₂⟩
  · rfl
  · by_cases hlen : refs.length = 0
    · obtain rfl := List.eq_nil_of_length_eq_zero hlen
      rfl
    · simp only [if_neg hlen, Option.map_some]
      exact (Option.filter_some_pos (by simpa using hlen)).symm

end SameLists

end Dimmit
