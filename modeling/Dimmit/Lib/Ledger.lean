import Dimmit.Lib.Run
import Mathlib.Data.Multiset.Filter

/-!
# A ledger of handles

A process acquires handles, uses them and releases them.  Its ledger is the multiset of the
handles acquired and not yet released.  A sequence of actions is *disciplined* when it uses and
releases only what it holds, and *fresh* when it is never given a handle it still holds; a
fresh ledger is a set, so that releasing a handle leaves none of it behind.
-/

namespace Ledger

open Run

variable {H : Type*}

/-- What can happen to a handle. -/
inductive Action (H : Type*) where
  | acquire (h : H)
  | use (h : H)
  | release (h : H)
deriving DecidableEq, Repr

variable [DecidableEq H]

/-- The handles held after an action. -/
def Action.effect (held : Multiset H) : Action H → Multiset H
  | .acquire h => h ::ₘ held
  | .use _ => held
  | .release h => held.erase h

/-- Only what is held may be used or released. -/
def Action.Permitted (held : Multiset H) : Action H → Prop
  | .acquire _ => True
  | .use h | .release h => h ∈ held

/-- What is acquired is not held already. -/
def Action.Fresh (held : Multiset H) : Action H → Prop
  | .acquire h => h ∉ held
  | .use _ | .release _ => True

instance (held : Multiset H) : DecidablePred (Action.Permitted held)
  | .acquire _ => inferInstanceAs (Decidable True)
  | .use h | .release h => inferInstanceAs (Decidable (h ∈ held))

instance (held : Multiset H) : DecidablePred (Action.Fresh held)
  | .acquire h => inferInstanceAs (Decidable (h ∉ held))
  | .use _ | .release _ => inferInstanceAs (Decidable True)

/-- The handles held after a sequence of actions. -/
def heldAfter (held : Multiset H) (as : List (Action H)) : Multiset H :=
  as.foldl Action.effect held

/-- From an empty ledger, only what is held is used or released. -/
abbrev Disciplined (as : List (Action H)) : Prop := Along Action.effect Action.Permitted 0 as

/-- From an empty ledger, nothing is acquired that is still held. -/
abbrev Fresh (as : List (Action H)) : Prop := Along Action.effect Action.Fresh 0 as

/-- Everything ever acquired. -/
def acquired (as : List (Action H)) : Multiset H :=
  as.filterMap fun
    | .acquire h => some h
    | .use _ | .release _ => none

/-- Everything ever released. -/
def released (as : List (Action H)) : Multiset H :=
  as.filterMap fun
    | .release h => some h
    | .acquire _ | .use _ => none

@[simp] theorem heldAfter_append (held : Multiset H) (as bs : List (Action H)) :
    heldAfter held (as ++ bs) = heldAfter (heldAfter held as) bs := List.foldl_append

/-- Disciplined actions that take the ledger from `held` to `held'`. -/
structure Moves (held : Multiset H) (as : List (Action H)) (held' : Multiset H) : Prop where
  permitted : Along Action.effect Action.Permitted held as
  held_eq : heldAfter held as = held'

namespace Moves

variable {held held' held'' : Multiset H} {as bs : List (Action H)}

theorem nil (held : Multiset H) : Moves held [] held := ⟨trivial, rfl⟩

theorem append (h : Moves held as held') (h' : Moves held' bs held'') :
    Moves held (as ++ bs) held'' := by
  obtain ⟨hp, rfl⟩ := h
  exact ⟨along_append.mpr ⟨hp, h'.permitted⟩, (heldAfter_append held as bs).trans h'.held_eq⟩

theorem acquire (held : Multiset H) (h : H) : Moves held [.acquire h] (h ::ₘ held) :=
  ⟨⟨trivial, trivial⟩, rfl⟩

theorem use {h : H} (hm : h ∈ held) : Moves held [.use h] held := ⟨⟨hm, trivial⟩, rfl⟩

theorem release (held : Multiset H) (h : H) : Moves (h ::ₘ held) [.release h] held :=
  ⟨⟨Multiset.mem_cons_self h held, trivial⟩, Multiset.erase_cons_head h held⟩

end Moves

/-- What a disciplined process holds and what it has released make up what it has acquired. -/
theorem heldAfter_add_released {held : Multiset H} {as : List (Action H)}
    (h : Along Action.effect Action.Permitted held as) :
    heldAfter held as + released as = held + acquired as := by
  induction as generalizing held with
  | nil => rfl
  | cons a as ih =>
      cases a with
      | acquire h' =>
          have ih : heldAfter (h' ::ₘ held) as + released as = (h' ::ₘ held) + acquired as := ih h.2
          change heldAfter (h' ::ₘ held) as + released as = held + h' ::ₘ acquired as
          rw [ih, Multiset.cons_add, Multiset.add_cons]
      | use _ => exact ih h.2
      | release h' =>
          have hmem : h' ∈ held := h.1
          have ih : heldAfter (held.erase h') as + released as = held.erase h' + acquired as :=
            ih h.2
          change heldAfter (held.erase h') as + h' ::ₘ released as = held + acquired as
          rw [Multiset.add_cons, ih, ← Multiset.cons_add, Multiset.cons_erase hmem]

/-- A fresh sequence of actions keeps the ledger a set. -/
theorem nodup_heldAfter {held : Multiset H} {as : List (Action H)} (hn : held.Nodup)
    (h : Along Action.effect Action.Fresh held as) : (heldAfter held as).Nodup := by
  induction as generalizing held with
  | nil => exact hn
  | cons a as ih =>
      refine ih ?_ h.2
      cases a with
      | acquire h' => exact Multiset.nodup_cons.mpr ⟨h.1, hn⟩
      | use _ => exact hn
      | release h' => exact hn.erase h'

/-- A handle that is not held has to be acquired before it is. -/
theorem notMem_heldAfter {held : Multiset H} {as : List (Action H)} {h : H} (hn : h ∉ held)
    (ha : .acquire h ∉ as) : h ∉ heldAfter held as := by
  induction as generalizing held with
  | nil => exact hn
  | cons a as ih =>
      rw [List.mem_cons, not_or] at ha
      refine ih ?_ ha.2
      cases a with
      | acquire h' =>
          rw [Action.effect, Multiset.mem_cons, not_or]
          exact ⟨fun he ↦ ha.1 (congrArg _ he), hn⟩
      | use _ => exact hn
      | release h' => exact fun hm ↦ hn (Multiset.mem_of_mem_erase hm)

/-- A disciplined process releases a handle twice only if it is given it again in between. -/
theorem acquire_mem_of_release_twice {as bs cs : List (Action H)} {h : H}
    (hd : Disciplined (as ++ .release h :: (bs ++ .release h :: cs)))
    (hf : Fresh (as ++ .release h :: (bs ++ .release h :: cs))) : .acquire h ∈ bs := by
  have hn : (heldAfter 0 as).Nodup := nodup_heldAfter Multiset.nodup_zero (along_append.mp hf).1
  by_contra hb
  have hgone : h ∉ (heldAfter 0 as).erase h := hn.notMem_erase
  obtain ⟨-, -, hd⟩ := along_append.mp hd
  obtain ⟨-, hmem, -⟩ := along_append.mp hd
  exact notMem_heldAfter hgone hb hmem

/-! ## Growing logs -/

/-- Everything ever acquired, in order. -/
def acquisitions (as : List (Action H)) : List H :=
  as.filterMap fun
    | .acquire h => some h
    | .use _ | .release _ => none

omit [DecidableEq H] in
@[simp] theorem acquisitions_append (as bs : List (Action H)) :
    acquisitions (as ++ bs) = acquisitions as ++ acquisitions bs := List.filterMap_append

/-- What is added to `log` to make it `log'` acquires `got`, in this order, and is disciplined: it
turns the part `pre` of what is held into `post` and leaves the rest alone. -/
def Grows (log log' : List (Action H)) (pre post : Multiset H) (got : List H) : Prop :=
  ∃ as, log' = log ++ as ∧ acquisitions as = got ∧ ∀ rest, Moves (pre + rest) as (post + rest)

namespace Grows

variable {log log' log'' : List (Action H)} {pre mid post pre' post' : Multiset H}
  {got got' : List H}

theorem refl (log : List (Action H)) (pre : Multiset H) : Grows log log pre pre [] :=
  ⟨[], (List.append_nil log).symm, rfl, fun rest ↦ .nil (pre + rest)⟩

theorem trans (h : Grows log log' pre mid got) (h' : Grows log' log'' mid post got') :
    Grows log log'' pre post (got ++ got') := by
  obtain ⟨as, rfl, rfl, hm⟩ := h
  obtain ⟨bs, rfl, rfl, hm'⟩ := h'
  exact ⟨as ++ bs, List.append_assoc .., acquisitions_append as bs,
    fun rest ↦ (hm rest).append (hm' rest)⟩

/-- **The frame rule.** -/
theorem frame (h : Grows log log' pre post got) (rest : Multiset H) :
    Grows log log' (pre + rest) (post + rest) got := by
  obtain ⟨as, rfl, rfl, hm⟩ := h
  refine ⟨as, rfl, rfl, fun rest' ↦ ?_⟩
  rw [Multiset.add_assoc, Multiset.add_assoc]
  exact hm (rest + rest')

/-- The second part works on a part of what the first one leaves. -/
theorem seq (h : Grows log log' pre mid got) (h' : Grows log' log'' pre' post' got')
    {rest : Multiset H} (hmid : mid = pre' + rest) :
    Grows log log'' pre (post' + rest) (got ++ got') := by
  subst hmid
  exact h.trans (h'.frame rest)

/-- The second part obtains more. -/
theorem gain (h : Grows log log' pre mid got) (h' : Grows log' log'' 0 post got') :
    Grows log log'' pre (post + mid) (got ++ got') := h.seq h' (Multiset.zero_add mid).symm

/-- The second part lets go of a part of what the first one leaves. -/
theorem drop {k : Multiset H} (h : Grows log log' pre mid got) (h' : Grows log' log'' pre' 0 [])
    (hmid : mid = pre' + k) : Grows log log'' pre k got := by
  have hall := h.seq h' hmid
  rwa [Multiset.zero_add, List.append_nil] at hall

/-- The second part lets go of all that the first one leaves. -/
theorem done (h : Grows log log' pre mid got) (h' : Grows log' log'' mid 0 []) :
    Grows log log'' pre 0 got := h.drop h' (Multiset.add_zero mid).symm

/-- The first part leaves everything as it was. -/
theorem idle (h : Grows log log' 0 0 got) (h' : Grows log' log'' pre post got') :
    Grows log log'' pre post (got ++ got') := by
  have hframe := h.frame pre
  rw [Multiset.zero_add] at hframe
  exact hframe.trans h'

theorem acquire (log : List (Action H)) (h : H) :
    Grows log (log ++ [.acquire h]) 0 {h} [h] := by
  refine ⟨[.acquire h], rfl, rfl, fun rest ↦ ?_⟩
  rw [Multiset.zero_add, Multiset.singleton_add]
  exact .acquire rest h

theorem release (log : List (Action H)) (h : H) :
    Grows log (log ++ [.release h]) {h} 0 [] := by
  refine ⟨[.release h], rfl, rfl, fun rest ↦ ?_⟩
  rw [Multiset.zero_add, Multiset.singleton_add]
  exact .release rest h

theorem acquireAll (log : List (Action H)) (hs : List H) :
    Grows log (log ++ hs.map .acquire) 0 (Multiset.ofList hs) hs := by
  induction hs generalizing log with
  | nil => simpa using refl log 0
  | cons h hs ih =>
      have hstep := (acquire log h).gain (ih (log ++ [.acquire h]))
      rw [List.append_assoc, Multiset.add_comm, Multiset.singleton_add, Multiset.cons_coe] at hstep
      exact hstep

theorem releaseAll (log : List (Action H)) (hs : List H) :
    Grows log (log ++ hs.map .release) (Multiset.ofList hs) 0 [] := by
  induction hs generalizing log with
  | nil => simpa using refl log 0
  | cons h hs ih =>
      have hfirst := (release log h).frame (Multiset.ofList hs)
      rw [Multiset.singleton_add, Multiset.cons_coe, Multiset.zero_add] at hfirst
      have hstep := hfirst.done (ih (log ++ [.release h]))
      rw [List.append_assoc] at hstep
      exact hstep

/-- A log that grew from nothing. -/
theorem of_nil (h : Grows [] log 0 post got) :
    Disciplined log ∧ heldAfter 0 log = post ∧ acquisitions log = got := by
  obtain ⟨as, rfl, hgot, hm⟩ := h
  have hm := hm 0
  rw [Multiset.add_zero, Multiset.add_zero] at hm
  exact ⟨hm.permitted, hm.held_eq, hgot⟩

end Grows

end Ledger
