import Dimmit.Lib.Run
import Mathlib.Data.List.Basic
import Mathlib.Data.List.Induction
import Mathlib.Order.Basic

/-!
# What a run emits

The steps of a machine may emit something; the trace of a run is what its steps emit, in order.  A
machine that is related to a second one, which moves by what the first one emits, stays related to
it over whole runs: so a run of many threads may have the effect of one sequence.
-/

namespace Trace

variable {σ τ α β : Type*} {step : σ → α → σ} {out : σ → α → List β}

/-- What the run from `s` emits. -/
def trace (step : σ → α → σ) (out : σ → α → List β) : σ → List α → List β
  | _, [] => []
  | s, a :: as => out s a ++ trace step out (step s a) as

/-- **The simulation rule.**  A relation to a machine that moves by what is emitted, when every step
preserves it, is preserved by every run. -/
theorem rel_trace {R : σ → τ → Prop} {move : τ → β → τ}
    (hstep : ∀ s t a, R s t → R (step s a) ((out s a).foldl move t)) {s : σ} {t : τ} (h : R s t)
    (as : List α) : R (as.foldl step s) ((trace step out s as).foldl move t) := by
  induction as generalizing s t with
  | nil => exact h
  | cons a as ih =>
      rw [trace, List.foldl_append]
      exact ih (hstep s t a h)

/-- **The history rule.**  A relation to what has been emitted so far, when every step preserves it,
is preserved by every run. -/
theorem rel_history {R : σ → List β → Prop}
    (hstep : ∀ s bs a, R s bs → R (step s a) (bs ++ out s a)) {s : σ} {bs : List β} (h : R s bs)
    (as : List α) : R (as.foldl step s) (bs ++ trace step out s as) := by
  induction as generalizing s bs with
  | nil =>
      rw [trace, List.append_nil]
      exact h
  | cons a as ih =>
      rw [trace, ← List.append_assoc]
      exact ih (hstep s bs a h)

/-- **The protocol rule.**  A relation to a second machine, when every step preserves it and emits
only what is `ok` for that machine, says of every run that all it emits is `ok`. -/
theorem along_trace {R : σ → τ → Prop} {move : τ → β → τ} {ok : τ → β → Prop}
    (hstep : ∀ s t a, R s t →
      Run.Along move ok t (out s a) ∧ R (step s a) ((out s a).foldl move t)) {s : σ} {t : τ}
    (h : R s t) (as : List α) :
    Run.Along move ok t (trace step out s as) ∧
      R (as.foldl step s) ((trace step out s as).foldl move t) := by
  induction as generalizing s t with
  | nil => exact ⟨trivial, h⟩
  | cons a as ih =>
      obtain ⟨halong, hr⟩ := hstep s t a h
      obtain ⟨halongs, hrs⟩ := ih hr
      rw [trace, Run.along_append, List.foldl_append]
      exact ⟨⟨halong, halongs⟩, hrs⟩

/-- **The origin rule.**  Every entry of a log that only grows was written by one step of the run, at
the place in the log where that step left off. -/
theorem exists_origin (log : σ → List β) (hgrow : ∀ s a, ∃ new, log (step s a) = log s ++ new)
    {s : σ} (hs : log s = []) {as : List α} {before later : List β} {b : β}
    (h : log (as.foldl step s) = before ++ b :: later) :
    ∃ as₁ a as₂ new rest, as = as₁ ++ a :: as₂ ∧ before = log (as₁.foldl step s) ++ new ∧
      log (step (as₁.foldl step s) a) = log (as₁.foldl step s) ++ (new ++ b :: rest) := by
  induction as using List.reverseRecOn generalizing later with
  | nil =>
      rw [List.foldl_nil, hs] at h
      exact absurd h.symm (List.append_ne_nil_of_right_ne_nil _ (List.cons_ne_nil _ _))
  | append_singleton as a ih =>
      obtain ⟨emitted, hemitted⟩ := hgrow (as.foldl step s) a
      rw [List.foldl_append, List.foldl_cons, List.foldl_nil] at h
      rw [h] at hemitted
      have hlast {l : List β} (hbefore : before = log (as.foldl step s) ++ l)
          (hnew : emitted = l ++ b :: later) :
          ∃ as₁ a' as₂ new rest, as ++ [a] = as₁ ++ a' :: as₂ ∧
            before = log (as₁.foldl step s) ++ new ∧
            log (step (as₁.foldl step s) a') = log (as₁.foldl step s) ++ (new ++ b :: rest) :=
        ⟨as, a, [], l, later, rfl, hbefore, by rw [h, hemitted, hnew]⟩
      rcases List.append_eq_append_iff.mp hemitted with ⟨known, hlog, hnew⟩ | ⟨new, hbefore, hnew⟩
      · cases known with
        | nil => exact hlast (l := []) (by rw [hlog, List.append_nil, List.append_nil]) hnew.symm
        | cons b' known =>
            obtain ⟨rfl, -⟩ := List.cons.inj hnew
            obtain ⟨as₁, a', as₂, new, rest, rfl, hbefore, hstep⟩ := ih hlog
            exact ⟨as₁, a', as₂ ++ [a], new, rest, by rw [List.append_assoc, List.cons_append],
              hbefore, hstep⟩
      · exact hlast hbefore hnew

/-- What holds of everything that a step emits in the states of an invariant holds of all that a run
emits. -/
theorem forall_trace {J : σ → Prop} {q : β → Prop} (hstep : ∀ s a, J s → J (step s a))
    (hout : ∀ s a, J s → ∀ b ∈ out s a, q b) {s : σ} (hs : J s) (as : List α) :
    ∀ b ∈ trace step out s as, q b := by
  induction as generalizing s with
  | nil => exact fun b hb ↦ absurd hb List.not_mem_nil
  | cons a as ih =>
      rw [trace, List.forall_mem_append]
      exact ⟨hout s a hs, ih (hstep s a hs)⟩

/-- **The budget rule.**  A run emits no more of a kind than its budget, when each step pays from
the budget for what it emits. -/
theorem countP_trace_le {J : σ → Prop} {kind : β → Bool} (budget : σ → Nat)
    (hstep : ∀ s a, J s → J (step s a))
    (hpay : ∀ s a, J s → (out s a).countP kind + budget (step s a) ≤ budget s) {s : σ} (hs : J s)
    (as : List α) : (trace step out s as).countP kind ≤ budget s := by
  induction as generalizing s with
  | nil => exact Nat.zero_le _
  | cons a as ih =>
      have hrest := ih (hstep s a hs)
      have hhead := hpay s a hs
      rw [trace, List.countP_append]
      omega

/-- **The meter rule.**  A reading that never falls, and stays where it is at the steps that are
`ok` and at no others, is after a run where it was before if and only if all its steps are. -/
theorem exists_reading {μ : Type*} [PartialOrder μ] {J : σ → μ → Prop} {ok : σ → α → Prop}
    (hstep : ∀ s m a, J s m → ∃ m', J (step s a) m' ∧ m ≤ m' ∧ (m' = m ↔ ok s a)) {s : σ} {m : μ}
    (h : J s m) (as : List α) :
    ∃ m', J (as.foldl step s) m' ∧ m ≤ m' ∧ (m' = m ↔ Run.Along step ok s as) := by
  induction as generalizing s m with
  | nil => exact ⟨m, h, le_refl m, iff_of_true rfl trivial⟩
  | cons a as ih =>
      obtain ⟨m₁, h₁, hle₁, hok⟩ := hstep s m a h
      obtain ⟨m₂, h₂, hle₂, halong⟩ := ih h₁
      refine ⟨m₂, h₂, hle₁.trans hle₂, ?_, ?_⟩
      · rintro rfl
        have hstay : m₁ = m₂ := le_antisymm hle₂ hle₁
        exact ⟨hok.mp hstay, halong.mp hstay.symm⟩
      · rintro ⟨ha, has⟩
        exact (halong.mpr has).trans (hok.mpr ha)

end Trace
