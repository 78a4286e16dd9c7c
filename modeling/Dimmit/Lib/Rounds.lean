import Dimmit.Lib.Trace
import Mathlib.Algebra.BigOperators.Group.List.Basic
import Mathlib.Algebra.GroupWithZero.Nat
import Mathlib.Data.List.Basic

/-!
# Progress in rounds

The threads of a machine take their steps in any order, and a step of a thread that has to wait
changes nothing.  A *round* is a part of a run in which every action of `helpers` is scheduled at
least once, among any others; or only those that are *due* where the round starts.  A rank that
every step that helps lowers bounds the rounds until the machine comes to a goal, when some helper
that is due can help in every state before; an action with a cost may raise the rank, and then buys
more rounds.
-/

namespace Rounds

open Run Trace

variable {σ α β : Type*}

/-- Every helper is scheduled. -/
def Round (helpers as : List α) : Prop := ∀ a ∈ helpers, a ∈ as

instance [DecidableEq α] (helpers as : List α) : Decidable (Round helpers as) :=
  inferInstanceAs (Decidable (∀ a ∈ helpers, a ∈ as))

/-- Each round schedules those of the helpers that are due where it starts. -/
def Fair (step : σ → α → σ) (helpers : List α) (due : σ → α → Prop) : σ → List (List α) → Prop
  | _, [] => True
  | s, as :: rounds =>
    (∀ a ∈ helpers, due s a → a ∈ as) ∧ Fair step helpers due (as.foldl step s) rounds

instance decidableFair [DecidableEq α] (step : σ → α → σ) (helpers : List α)
    (due : σ → α → Prop) [∀ s, DecidablePred (due s)] :
    ∀ s, DecidablePred (Fair step helpers due s)
  | _, [] => inferInstanceAs (Decidable True)
  | s, as :: rounds =>
    have := decidableFair step helpers due (as.foldl step s) rounds
    inferInstanceAs (Decidable ((∀ a ∈ helpers, due s a → a ∈ as) ∧
      Fair step helpers due (as.foldl step s) rounds))

theorem fair_of_rounds (step : σ → α → σ) {helpers : List α} (due : σ → α → Prop) (s : σ)
    {rounds : List (List α)} (h : ∀ as ∈ rounds, Round helpers as) :
    Fair step helpers due s rounds := by
  induction rounds generalizing s with
  | nil => trivial
  | cons as rounds ih =>
      obtain ⟨hround, h⟩ := List.forall_mem_cons.mp h
      exact ⟨fun a ha _ ↦ hround a ha, ih _ h⟩

/-! ## What a run costs -/

/-- What the actions of the run from `s` cost together, each where it is taken. -/
def spent (step : σ → α → σ) (cost : σ → α → Nat) : σ → List α → Nat
  | _, [] => 0
  | s, a :: as => cost s a + spent step cost (step s a) as

theorem spent_append (step : σ → α → σ) (cost : σ → α → Nat) (s : σ) (as bs : List α) :
    spent step cost s (as ++ bs) = spent step cost s as + spent step cost (as.foldl step s) bs := by
  induction as generalizing s with
  | nil => exact (Nat.zero_add _).symm
  | cons a as ih =>
      rw [List.cons_append, spent, ih, spent, Nat.add_assoc]
      rfl

/-- What the actions cost together, wherever they are taken. -/
def total (cost : α → Nat) (as : List α) : Nat := (as.map cost).sum

theorem total_cons (cost : α → Nat) (a : α) (as : List α) :
    total cost (a :: as) = cost a + total cost as := List.sum_cons

theorem spent_eq_total (step : σ → α → σ) (cost : α → Nat) (s : σ) (as : List α) :
    spent step (fun _ ↦ cost) s as = total cost as := by
  induction as generalizing s with
  | nil => rfl
  | cons a as ih => rw [spent, ih, total_cons]

/-! ## A goal on the way -/

/-- The rank measures the way to `goal` in the states of `I`, and a helpful action shortens it. -/
structure Approaches (step : σ → α → σ) (helpers : List α) (I goal : σ → Prop)
    (Helpful : σ → α → Prop) (rank : σ → Nat) (cost : σ → α → Nat) : Prop where
  keeps : ∀ s a, I s → I (step s a)
  /-- A step comes to the goal, or lowers the rank, up to its cost; or it does not help, and leaves
  the helpers helpful. -/
  moves : ∀ s a, I s → ¬ goal s → goal (step s a) ∨ rank (step s a) < rank s + cost s a ∨
    rank (step s a) ≤ rank s ∧ ¬ Helpful s a ∧ ∀ b ∈ helpers, Helpful s b → Helpful (step s a) b
  /-- Short of the goal, some helper is helpful. -/
  helps : ∀ s, I s → ¬ goal s → ∃ a ∈ helpers, Helpful s a

namespace Approaches

variable {step : σ → α → σ} {helpers : List α} {I goal : σ → Prop} {Helpful : σ → α → Prop}
  {rank : σ → Nat} {cost : σ → α → Nat} {s : σ}

theorem keeps_foldl (h : Approaches step helpers I goal Helpful rank cost) (hs : I s)
    (as : List α) : I (as.foldl step s) := by
  induction as generalizing s with
  | nil => exact hs
  | cons a as ih => exact ih (h.keeps s a hs)

/-- No run raises the rank by more than it pays for. -/
theorem rank_foldl_le (h : Approaches step helpers I goal Helpful rank cost) (hs : I s)
    {as : List α} (hmiss : Throughout step (fun s ↦ ¬ goal s) s as) :
    rank (as.foldl step s) ≤ rank s + spent step cost s as := by
  induction as generalizing s with
  | nil => exact Nat.le_refl _
  | cons a as ih =>
      obtain ⟨hgoal, hmiss⟩ := hmiss
      have hrest := ih (h.keeps s a hs) hmiss
      rw [spent, List.foldl_cons]
      rcases h.moves s a hs hgoal with hreached | hlt | ⟨hle, -⟩
      · exact absurd hreached hmiss.head
      · omega
      · omega

/-- A run in which a helper is scheduled that is helpful now lowers the rank, whenever that is: what
comes before it leaves it helpful, or lowers the rank itself. -/
theorem rank_foldl_lt (h : Approaches step helpers I goal Helpful rank cost) (hs : I s)
    {as : List α} (hmiss : Throughout step (fun s ↦ ¬ goal s) s as) {a : α} (ha : a ∈ helpers)
    (hmem : a ∈ as) (hhelpful : Helpful s a) :
    rank (as.foldl step s) < rank s + spent step cost s as := by
  induction as generalizing s with
  | nil => cases hmem
  | cons b as ih =>
      obtain ⟨hgoal, hmiss⟩ := hmiss
      have hs' := h.keeps s b hs
      rw [spent, List.foldl_cons]
      rcases h.moves s b hs hgoal with hreached | hlt | ⟨hle, hidle, hstays⟩
      · exact absurd hreached hmiss.head
      · have hrest := h.rank_foldl_le hs' hmiss
        omega
      · have hne : a ≠ b := by
          rintro rfl
          exact hidle hhelpful
        have hrest := ih hs' hmiss ((List.mem_cons.mp hmem).resolve_left hne)
          (hstays a ha hhelpful)
        omega

/-- **The approach rule.**  More fair rounds than the rank and all that is paid for come to the
goal, where a helper that is due helps in every state before. -/
theorem exists_goal_of_fair (h : Approaches step helpers I goal Helpful rank cost)
    {due : σ → α → Prop} (hdue : ∀ s, I s → ¬ goal s → ∃ a ∈ helpers, Helpful s a ∧ due s a)
    {rounds : List (List α)} (hfair : Fair step helpers due s rounds) (hs : I s)
    (hlen : rank s + spent step cost s rounds.flatten < rounds.length) :
    ∃ as bs, rounds.flatten = as ++ bs ∧ goal (as.foldl step s) := by
  refine exists_of_not_throughout fun hmiss ↦ ?_
  induction rounds generalizing s with
  | nil => exact absurd hlen (Nat.not_lt_zero _)
  | cons as rounds ih =>
      obtain ⟨hround, hfair⟩ := hfair
      rw [List.flatten_cons, spent_append, List.length_cons] at hlen
      rw [List.flatten_cons] at hmiss
      obtain ⟨hhere, hlater⟩ := hmiss.append
      obtain ⟨a, ha, hhelpful, hnow⟩ := hdue s hs hhere.head
      have hlt := h.rank_foldl_lt hs hhere ha (hround a ha hnow) hhelpful
      exact ih hfair (h.keeps_foldl hs as) (by omega) hlater

end Approaches

/-! ## The end of a machine -/

/-- The rank measures the way to `done` in the states of `I`. -/
structure Ranked (step : σ → α → σ) (helpers : List α) (I done : σ → Prop) (rank : σ → Nat)
    (cost : α → Nat) : Prop where
  keeps : ∀ s a, I s → I (step s a)
  stable : ∀ s a, I s → done s → done (step s a)
  /-- A step without a cost that has an effect lowers the rank. -/
  moves : ∀ s a, I s → step s a = s ∨ rank (step s a) < rank s + cost a
  /-- Until it is done, some helper has an effect. -/
  helps : ∀ s, I s → ¬ done s → ∃ a ∈ helpers, step s a ≠ s

namespace Ranked

variable {step : σ → α → σ} {helpers : List α} {I done : σ → Prop} {rank : σ → Nat}
  {cost : α → Nat} {s : σ}

theorem stable_foldl (h : Ranked step helpers I done rank cost) (hs : I s) (hd : done s)
    (as : List α) : done (as.foldl step s) := by
  induction as generalizing s with
  | nil => exact hd
  | cons a as ih => exact ih (h.keeps s a hs) (h.stable s a hs hd)

/-- What has an effect helps. -/
theorem approaches (h : Ranked step helpers I done rank cost) :
    Approaches step helpers I done (fun s a ↦ step s a ≠ s) rank fun _ ↦ cost where
  keeps := h.keeps
  moves s a hs _ := by
    rcases h.moves s a hs with heq | hlt
    · rw [heq]
      exact .inr (.inr ⟨Nat.le_refl _, not_not_intro rfl, fun _ _ ↦ id⟩)
    · exact .inr (.inl hlt)
  helps := h.helps

/-- **The ranking rule.**  More fair rounds than the rank and all that is paid for take the machine
to the end, where until then a helper that is due has an effect. -/
theorem done_of_fair (h : Ranked step helpers I done rank cost) {due : σ → α → Prop}
    (hdue : ∀ s, I s → ¬ done s → ∃ a ∈ helpers, step s a ≠ s ∧ due s a)
    {rounds : List (List α)} (hfair : Fair step helpers due s rounds) (hs : I s)
    (hlen : rank s + total cost rounds.flatten < rounds.length) :
    done (rounds.flatten.foldl step s) := by
  rw [← spent_eq_total step cost s] at hlen
  obtain ⟨as, bs, heq, hdone⟩ := h.approaches.exists_goal_of_fair hdue hfair hs hlen
  rw [heq, List.foldl_append]
  exact h.stable_foldl (h.approaches.keeps_foldl hs as) hdone bs

/-- The same for rounds in which every helper is scheduled. -/
theorem done_of_rounds (h : Ranked step helpers I done rank cost) {rounds : List (List α)}
    (hrounds : ∀ as ∈ rounds, Round helpers as) (hs : I s)
    (hlen : rank s + total cost rounds.flatten < rounds.length) :
    done (rounds.flatten.foldl step s) := by
  refine h.done_of_fair ?_ (fair_of_rounds step (fun _ _ ↦ True) s hrounds) hs hlen
  intro s hs hd
  obtain ⟨a, ha, hne⟩ := h.helps s hs hd
  exact ⟨a, ha, hne, trivial⟩

end Ranked

end Rounds
