import Dimmit.DisplayController.Gauge

/-!
# Up never darkens and down never brightens

The value a pass writes is computed from the dimmer's record, and the record starts from the
reading of a display that joins.  The down key never brightens a display, whatever was read.
The up key never darkens it exactly when the reading `Screen.Fits`: a display that reports a
level above its maximum is brought down to the maximum by the first press, and one whose
reading fails is taken to be at 0 of 100.

Both hold as long as the record can follow the display: a write that is reported as failed and
reaches the display all the same leaves the record behind, and so does another source for the
same display.
-/

namespace Dimmit

open Run

variable {W R H Ctx D : Type}

/-! ## Displays that join -/

/-- The source `src` has just joined, its reading answered with `reading`.  The controller reads
a source when it joins, and at no other time. -/
inductive Session.Joined (P : Provider W Ctx) (device : Ctx → D) (shown : W → D → Int)
    (src : BrightnessSource Ctx) (reading : Option (Int × Int)) :
    Session (W × List (Note Ctx)) Ctx → Prop
  | /-- It joined at `controller_open`. -/
    opened (w : W) :
      .read src reading ∈ (start (P.metered device shown) (w, [])).world.2 →
      Joined P device shown src reading (start (P.metered device shown) (w, []))
  | /-- It joined at a poll. -/
    polled {s : Session (W × List (Note Ctx)) Ctx} :
      s.Reachable (P.metered device shown) → .read src reading ∈ s.noted P device shown .reconcile →
      Joined P device shown src reading (s.step (P.metered device shown) .reconcile)

/-- The readings among `notes` are those of displays of `ms`, each taken while the displays
showed `ρ`, and their dimmers come from them. -/
def ReadAt (P : Provider W Ctx) (shown : W → D → Int) (ρ : D → Int)
    (ms : List (ManagedDisplay Ctx)) (notes : List (Note Ctx)) : Prop :=
  ∀ src reading, .read src reading ∈ notes → ∃ m ∈ ms, m.src = src ∧
    ∃ w, shown w = ρ ∧ (P.get src w).1 = reading ∧ m.dim = (initialDimmer P src w).1

section ReadAt

variable {P : Provider W Ctx} {device : Ctx → D} {shown : W → D → Int} {ρ : D → Int}
  {ms : List (ManagedDisplay Ctx)} {notes : List (Note Ctx)}

theorem readAt_nil : ReadAt P shown ρ ms [] := fun _ _ h ↦ nomatch h

theorem ReadAt.skip (h : ReadAt P shown ρ ms notes) (m : ManagedDisplay Ctx) :
    ReadAt P shown ρ (m :: ms) notes := by
  intro src reading hr
  obtain ⟨m', hm', hread⟩ := h src reading hr
  exact ⟨m', List.mem_cons_of_mem _ hm', hread⟩

theorem ReadAt.read (h : ReadAt P shown ρ ms notes) {w : W} (hw : shown w = ρ)
    (src : BrightnessSource Ctx) : ReadAt P shown ρ (⟨src, (initialDimmer P src w).1⟩ :: ms)
      (.read src (P.get src w).1 :: notes) := by
  intro src' reading hr
  rcases List.mem_cons.mp hr with he | hr
  · cases he
    exact ⟨_, List.mem_cons_self, rfl, w, hw, rfl, rfl⟩
  · exact h.skip _ src' reading hr

/-- A display that is read, before others of which this is known. -/
theorem ReadAt.metered {x : W × List (Note Ctx)} (hx : shown x.1 = ρ)
    (src : BrightnessSource Ctx) {log : List (Note Ctx)}
    (h : ∃ notes, log = (initialDimmer (P.metered device shown) src x).2.2 ++ notes ∧
      ReadAt P shown ρ ms notes) :
    ∃ notes, log = x.2 ++ notes ∧
      ReadAt P shown ρ (⟨src, (initialDimmer (P.metered device shown) src x).1⟩ :: ms) notes := by
  obtain ⟨notes, hlog, hread⟩ := h
  rw [initialDimmer_metered] at hlog ⊢
  refine ⟨.read src (P.get src x.1).1 :: notes, ?_, hread.read hx src⟩
  rw [hlog, List.append_assoc, List.singleton_append]

/-- What `controller_open` reads. -/
theorem openDisplays_metered (hP : P.Legible device shown) (sources : List (BrightnessSource Ctx))
    {x : W × List (Note Ctx)} (hx : shown x.1 = ρ) :
    ∃ notes, (openDisplays (P.metered device shown) sources x).2.2 = x.2 ++ notes ∧
      ReadAt P shown ρ (openDisplays (P.metered device shown) sources x).1 notes := by
  induction sources generalizing x with
  | nil => exact ⟨[], (List.append_nil _).symm, readAt_nil⟩
  | cons src sources ih =>
      exact ReadAt.metered hx src (ih ((hP.metered_keeps ρ).initialDimmer src hx))

/-- What `controller_reconcile` reads. -/
theorem nextDisplays_metered (hP : P.Legible device shown) (c : Controller Ctx)
    (fresh : List (BrightnessSource Ctx)) {x : W × List (Note Ctx)} (hx : shown x.1 = ρ) :
    ∃ notes, (Controller.nextDisplays (P.metered device shown) c fresh x).2.2 = x.2 ++ notes ∧
      ReadAt P shown ρ (Controller.nextDisplays (P.metered device shown) c fresh x).1 notes := by
  induction fresh generalizing x with
  | nil => exact ⟨[], (List.append_nil _).symm, readAt_nil⟩
  | cons src fresh ih =>
      rw [Controller.nextDisplays]
      cases c.matched src.id with
      | some dim =>
          obtain ⟨notes, hlog, hread⟩ := ih hx
          exact ⟨notes, hlog, hread.skip _⟩
      | none => exact ReadAt.metered hx src (ih ((hP.metered_keeps ρ).initialDimmer src hx))

theorem brightnessFree_metered (sources : List (BrightnessSource Ctx)) (x : W × List (Note Ctx)) :
    (brightnessFree (P.metered device shown) sources x).2 = x.2 := by
  induction sources generalizing x with
  | nil => rfl
  | cons src sources ih => exact ih _

theorem closeVanished_metered (fresh sources : List (BrightnessSource Ctx))
    (x : W × List (Note Ctx)) :
    (Controller.closeVanished (P.metered device shown) fresh sources x).2 = x.2 := by
  induction sources generalizing x with
  | nil => rfl
  | cons src sources ih =>
      rw [Controller.closeVanished]
      split
      · exact ih x
      · exact ih _

theorem metered_calloc_notes {x x' : W × List (Note Ctx)} {ok : Bool}
    (h : (P.metered device shown).calloc x = (ok, x')) : x'.2 = x.2 := by
  cases h
  rfl

theorem metered_enumerate_notes {x x' : W × List (Note Ctx)}
    {sources : Option (List (BrightnessSource Ctx))}
    (h : (P.metered device shown).enumerate x = (sources, x')) : x'.2 = x.2 := by
  cases h
  rfl

/-- What an opened controller has read. -/
theorem controllerOpen_metered (hP : P.Legible device shown) {x : W × List (Note Ctx)}
    (hx : shown x.1 = ρ) :
    ∃ notes, (controllerOpen (P.metered device shown) x).2.2 = x.2 ++ notes ∧
      ReadAt P shown ρ (((controllerOpen (P.metered device shown) x).1.map
        Controller.displays).getD []) notes := by
  have hkeeps := hP.metered_keeps ρ
  have hsilent {r : Option (Controller Ctx) × W × List (Note Ctx)}
      (he : controllerOpen (P.metered device shown) x = r) (hr : r.2.2 = x.2) :
      ∃ notes, (controllerOpen (P.metered device shown) x).2.2 = x.2 ++ notes ∧
        ReadAt P shown ρ (((controllerOpen (P.metered device shown) x).1.map
          Controller.displays).getD []) notes :=
    ⟨[], by rw [he, hr, List.append_nil], readAt_nil⟩
  obtain ⟨x₁, hc, he⟩ | ⟨x₁, x₂, hc, hen, he⟩ | ⟨x₁, sources, x₂, x₃, hc, hen, -, hc', he⟩ |
    ⟨x₁, sources, x₂, x₃, hc, hen, hc', he⟩ := controllerOpen_cases (P.metered device shown) x
  · exact hsilent he (metered_calloc_notes hc)
  · exact hsilent he ((metered_enumerate_notes hen).trans (metered_calloc_notes hc))
  · refine hsilent he ?_
    rw [brightnessFree_metered, metered_calloc_notes hc', metered_enumerate_notes hen,
      metered_calloc_notes hc]
  · have hx₂ := hkeeps.of_enumerate hen (hkeeps.of_calloc hc hx)
    obtain ⟨hx₃, hsame⟩ := Provider.of_array (J := fun y ↦ shown y.1 = ρ ∧ y.2 = x₂.2) hc'
      ⟨hx₂, rfl⟩ ⟨hkeeps.calloc hx₂, rfl⟩
    obtain ⟨notes, hlog, hread⟩ := openDisplays_metered hP sources hx₃
    rw [he]
    refine ⟨notes, hlog.trans ?_, hread⟩
    rw [hsame, metered_enumerate_notes hen, metered_calloc_notes hc]

/-- What a poll has read. -/
theorem reconcile_metered (hP : P.Legible device shown) (c : Controller Ctx)
    {x : W × List (Note Ctx)} (hx : shown x.1 = ρ) :
    ∃ notes, (c.reconcile (P.metered device shown) x).2.2 = x.2 ++ notes ∧
      ReadAt P shown ρ (c.reconcile (P.metered device shown) x).1.displays notes := by
  have hkeeps := hP.metered_keeps ρ
  obtain ⟨x₁, hen, he⟩ | ⟨fresh, x₁, x₂, hen, -, hc, he⟩ | ⟨fresh, x₁, x₂, hen, hc, he⟩ :=
    Controller.reconcile_cases (P.metered device shown) c x
  · rw [he]
    refine ⟨[], ?_, readAt_nil⟩
    rw [metered_enumerate_notes hen, List.append_nil]
  · rw [he]
    refine ⟨[], ?_, readAt_nil⟩
    rw [brightnessFree_metered, metered_calloc_notes hc, metered_enumerate_notes hen,
      List.append_nil]
  · have hx₁ := hkeeps.of_enumerate hen hx
    obtain ⟨hx₂, hsame⟩ := Provider.of_array (J := fun y ↦ shown y.1 = ρ ∧ y.2 = x₁.2) hc
      ⟨hx₁, rfl⟩ ⟨hkeeps.calloc hx₁, rfl⟩
    obtain ⟨notes, hlog, hread⟩ := nextDisplays_metered hP c fresh hx₂
    rw [he]
    refine ⟨notes, (closeVanished_metered fresh c.sources _).trans (hlog.trans ?_), hread⟩
    rw [hsame, metered_enumerate_notes hen]

end ReadAt

namespace Session

variable {P : Provider W Ctx} {device : Ctx → D} {shown : W → D → Int}
  {s : Session (W × List (Note Ctx)) Ctx} {src : BrightnessSource Ctx}
  {reading : Option (Int × Int)}

theorem Joined.reachable (h : s.Joined P device shown src reading) :
    s.Reachable (P.metered device shown) := by
  cases h with
  | opened w => exact reachable_start _ _
  | polled hs => exact hs.step _

/-- A display that joins is managed, and its dimmer comes from its reading. -/
theorem Joined.readAt (hP : P.Legible device shown) (h : s.Joined P device shown src reading) :
    ∃ m ∈ s.displays, m.src = src ∧ ∃ w, shown w = shown s.world.1 ∧
      (P.get src w).1 = reading ∧ m.dim = (initialDimmer P src w).1 := by
  cases h with
  | opened w hread =>
      obtain ⟨notes, hlog, hreads⟩ := controllerOpen_metered hP (x := (w, [])) rfl
      have hkept := (hP.metered_keeps (shown w)).controllerOpen (w := (w, [])) rfl
      have hnotes : (start (P.metered device shown) (w, [])).world.2 = notes := hlog
      obtain ⟨m, hm, hsrc, w', hw', hdim⟩ := hreads src reading (hnotes ▸ hread)
      exact ⟨m, hm, hsrc, w', hw'.trans hkept.symm, hdim⟩
  | @polled s hs hread =>
      obtain ⟨_ | c, x, results⟩ := s
      · rw [noted_eq (List.append_nil _).symm] at hread
        cases hread
      · obtain ⟨notes, hlog, hreads⟩ := reconcile_metered hP c (x := x) rfl
        have hkept := (hP.metered_keeps (shown x.1)).reconcile c (w := x) rfl
        rw [noted_eq (show (step (P.metered device shown) ⟨some c, x, results⟩ .reconcile).world.2 =
          x.2 ++ notes from hlog)] at hread
        obtain ⟨m, hm, hsrc, w', hw', hdim⟩ := hreads src reading hread
        exact ⟨m, hm, hsrc, w', hw'.trans hkept.symm, hdim⟩

/-- A display that joins is a screen that joins, and it answers what it shows. -/
theorem Joined.shows (hP : P.Legible device shown) (h : s.Joined P device shown src reading) :
    s.Shows device shown src (Screen.joined reading (shown s.world.1 (device src.ctx))) ∧
      Screen.Truthful reading (shown s.world.1 (device src.ctx)) := by
  obtain ⟨m, hm, rfl, w, hw, rfl, hdim⟩ := h.readAt hP
  constructor
  · refine ⟨m, hm, rfl, ?_⟩
    rw [ManagedDisplay.screen, hdim, initialDimmer_fst]
    rfl
  · rintro ⟨cur, max⟩ hr
    rw [← hw]
    exact hP.read (Prod.ext hr rfl)

end Session

/-! ## The laws -/

/-- Unless it is of a value written to the display of `src` that lies the other way. -/
def Note.Heeds (src : BrightnessSource Ctx) (k : Key) : Note Ctx → Prop
  | .wrote src' v before _ _ => src' = src → k.Onward before v
  | .read _ _ => True

section Decidable

variable [DecidableEq Ctx] (src : BrightnessSource Ctx)

instance : ∀ e : Note Ctx, Decidable (e.Honest src)
  | .wrote .. => inferInstanceAs (Decidable (_ → _ → _))
  | .read .. => inferInstanceAs (Decidable True)

instance (k : Key) : ∀ e : Note Ctx, Decidable (e.Heeds src k)
  | .wrote .. => inferInstanceAs (Decidable (_ → _))
  | .read .. => inferInstanceAs (Decidable True)

end Decidable

namespace Session

variable {P : Provider W Ctx} {device : Ctx → D} {shown : W → D → Int}
  {s : Session (W × List (Note Ctx)) Ctx} {src : BrightnessSource Ctx}

/-- Every value the operation writes to the display of `src`, with success or without, lies the
way of the key from what the display shows just before. -/
def Heeds (P : Provider W Ctx) (device : Ctx → D) (shown : W → D → Int)
    (s : Session (W × List (Note Ctx)) Ctx) (src : BrightnessSource Ctx) (k : Key) (op : Op) :
    Prop :=
  ∀ e ∈ s.noted P device shown op, e.Heeds src k

/-- No write of the run to the display of `src` fails and reaches it. -/
def HonestAlong (P : Provider W Ctx) (device : Ctx → D) (shown : W → D → Int)
    (s : Session (W × List (Note Ctx)) Ctx) (src : BrightnessSource Ctx) (ops : List Op) : Prop :=
  Along (step (P.metered device shown)) (fun s op ↦ s.Honest P device shown src op) s ops

instance [DecidableEq Ctx] (P : Provider W Ctx) (device : Ctx → D) (shown : W → D → Int)
    (s : Session (W × List (Note Ctx)) Ctx) (src : BrightnessSource Ctx) (k : Key) (op : Op) :
    Decidable (s.Heeds P device shown src k op) := inferInstanceAs (Decidable (∀ _ ∈ _, _))

instance [DecidableEq Ctx] (P : Provider W Ctx) (device : Ctx → D) (shown : W → D → Int)
    (src : BrightnessSource Ctx) (s : Session (W × List (Note Ctx)) Ctx) (ops : List Op) :
    Decidable (s.HonestAlong P device shown src ops) :=
  have (s : Session (W × List (Note Ctx)) Ctx) :
      DecidablePred fun op ↦ s.Honest P device shown src op :=
    fun _ ↦ inferInstanceAs (Decidable (∀ _ ∈ _, _))
  decidableAlong _ _ s ops

/-- A session with the same sources manages a source alone if the first one did. -/
theorem Sole.of_map_src {s s' : Session W Ctx} (h : s.Sole device src)
    (hb : ∀ m ∈ s'.displays, m.dim.Bounded)
    (hsrc : s'.displays.map (·.src) = s.displays.map (·.src)) : s'.Sole device src where
  bounded := hb
  nodup := hsrc ▸ h.nodup
  alone m' hm' hne := by
    have hmem : m'.src ∈ s.displays.map (·.src) := hsrc ▸ List.mem_map_of_mem hm'
    obtain ⟨m, hm, he⟩ := List.mem_map.mp hmem
    rw [← he] at hne ⊢
    exact h.alone m hm hne

/-- A steady screen stays steady through every run of its key. -/
theorem Shows.steady_run {impl : Implementation W R H} {device : H → D} {shown : W → D → Int}
    (h : impl.Legible device shown) {s : Session (W × List (Note H)) H}
    {src : BrightnessSource H} {k : Key} {x : Screen}
    (hs : s.Reachable ((ddcProvider impl).metered device shown)) (hsole : s.Sole device src)
    (hx : s.Shows device shown src x) (hk : x.Steady k) {ops : List Op}
    (hops : ∀ op ∈ ops, k.Plays op) (hok : s.HonestAlong (ddcProvider impl) device shown src ops) :
    let s' := s.run ((ddcProvider impl).metered device shown) ops
    s'.Sole device src ∧ ∃ y, s'.Shows device shown src y ∧ y.Steady k := by
  induction ops generalizing s x with
  | nil => exact ⟨hsole, x, hx, hk⟩
  | cons op ops ih =>
      obtain ⟨hop, htail⟩ := List.forall_mem_cons.mp hops
      obtain ⟨hhonest, hok⟩ := hok
      have hne : op ≠ .reconcile := by
        rintro rfl
        rcases hop with hop | hop <;> cases hop
      have hsole' := hsole.of_map_src (hs.step op).bounded_metered (map_src_step _ s hne)
      rcases hop with rfl | rfl
      · exact ih (hs.step _) hsole' (hx.adjust _) hk.press htail hok
      · obtain ⟨ok, hx', -⟩ := hx.service h.ddcProvider hsole hhonest
        exact ih (hs.step _) hsole' hx' (hk.pass ok) htail hok

/-- What is written to a steady screen lies the way of its key. -/
theorem Shows.heeds (hP : P.Legible device shown) (hsole : s.Sole device src) {k : Key}
    {x : Screen} (hx : s.Shows device shown src x) (hk : x.Steady k) {op : Op}
    (hop : k.Plays op) : s.Heeds P device shown src k op := by
  rintro (⟨src', reading⟩ | ⟨_, v, before, after, ok⟩) hn
  · trivial
  · rintro rfl
    rcases hop with rfl | rfl
    · rw [noted_adjust] at hn
      cases hn
    · obtain ⟨hd, rfl⟩ := hx.due_of_noted hP hsole hn
      exact hk.onward hd

end Session

/-- **Up never darkens a display whose reading fits, and down never brightens any.**

On a legible backend, in a run of presses of one key and passes that starts where the display of
`src` has joined and is not managed under another source as well, as long as no failed write has
reached the display: the down key writes no value above what the display shows just before.  The
up key writes no value below it in any such run, if and only if the reading at the join succeeded
with a current not above the maximum, or failed while the display showed no more than 6. -/
theorem up_never_darkens_iff {impl : Implementation W R H} {device : H → D}
    {shown : W → D → Int} (h : impl.Legible device shown)
    {s : Session (W × List (Note H)) H} {src : BrightnessSource H} {reading : Option (Int × Int)}
    (hj : s.Joined (ddcProvider impl) device shown src reading)
    (halone : ∀ m ∈ s.displays, m.src ≠ src → device m.src.ctx ≠ device src.ctx) :
    let after := s.run ((ddcProvider impl).metered device shown)
    ((∀ ops op, (∀ o ∈ ops ++ [op], Key.up.Plays o) →
        s.HonestAlong (ddcProvider impl) device shown src ops →
        (after ops).Heeds (ddcProvider impl) device shown src .up op) ↔
      Screen.Fits reading (shown s.world.1 (device src.ctx))) ∧
    ∀ ops op, (∀ o ∈ ops ++ [op], Key.down.Plays o) →
      s.HonestAlong (ddcProvider impl) device shown src ops →
      (after ops).Heeds (ddcProvider impl) device shown src .down op := by
  intro after
  obtain ⟨hx, htrue⟩ := hj.shows h.ddcProvider
  have h₀ := h.nonneg s.world.1 (device src.ctx)
  have hs := hj.reachable
  have hsole := hs.sole halone
  have hheeds {k : Key} (hk : (Screen.joined reading (shown s.world.1 (device src.ctx))).Steady k)
      (ops : List Op) (op : Op) (hops : ∀ o ∈ ops ++ [op], k.Plays o)
      (hok : s.HonestAlong (ddcProvider impl) device shown src ops) :
      (after ops).Heeds (ddcProvider impl) device shown src k op := by
    obtain ⟨hinit, hlast⟩ := List.forall_mem_append.mp hops
    obtain ⟨hsole', y, hy, hk'⟩ := hx.steady_run h hs hsole hk hinit hok
    exact hy.heeds h.ddcProvider hsole' hk' (hlast op (List.mem_singleton_self op))
  refine ⟨⟨?_, ?_⟩, ?_⟩
  · intro hup
    by_contra hfit
    -- the first press and its pass go back
    obtain ⟨target, hd, hlt⟩ := Screen.jumps_back_of_not_fits h₀ htrue hfit
    have hpress := hx.adjust (P := ddcProvider impl) Key.up.fraction
    have hsole' := hsole.of_map_src (hs.step (.adjust Key.up.fraction)).bounded_metered
      (Session.map_src_step _ s (by simp))
    obtain ⟨seen, ok, hnoted⟩ := hpress.noted_of_due h.ddcProvider hsole' hd
    have hnone : s.Honest (ddcProvider impl) device shown src (.adjust Key.up.fraction) := by
      rw [Session.Honest, Session.noted_adjust]
      exact fun _ he ↦ nomatch he
    have hle := hup [.adjust Key.up.fraction] .service (by simp [Key.Plays]) ⟨hnone, trivial⟩
      _ hnoted rfl
    exact absurd hle (not_le.mpr hlt)
  · intro hfit
    exact hheeds (Screen.steady_joined_up h₀ htrue hfit)
  · exact hheeds (Screen.steady_joined_down h₀ htrue)

/-! ## A display that fails -/

/-- One display, how often it was read and how often it was written. -/
structure Lamp where
  register : NonTableVcpValue
  reads : Nat
  writes : Nat
deriving DecidableEq, Repr

/-- A backend of one display, listed `seats` times, whose `n`-th reading succeeds if `answers n`;
its `n`-th write is reported as a success if `takes n` and reaches the display if `reaches n`. -/
def lamp (seats : Fin 3) (answers takes reaches : Nat → Bool) : Implementation Lamp Unit Unit where
  getDisplayInfoList w :=
    (some ⟨List.replicate seats ⟨(), 0x10ac, 0xa0c4, false⟩, by simp; omega⟩, w)
  freeDisplayInfoList _ w := w
  openDisplay _ w := (some (), w)
  closeDisplay _ w := w
  getNonTableVcpValue _ _ w :=
    (if answers w.reads then some w.register else none, { w with reads := w.reads + 1 })
  setNonTableVcpValue _ _ hi lo w :=
    (takes w.writes, { w with
      register := if reaches w.writes then { w.register with sh := hi, sl := lo } else w.register
      writes := w.writes + 1 })
  calloc w := (true, w)

/-- What the lamp shows. -/
def Lamp.shown (w : Lamp) (_ : Unit) : Int := word w.register.sh w.register.sl

theorem legible_lamp (seats : Fin 3) (answers : Nat → Bool) {takes reaches : Nat → Bool}
    (h : ∀ n, takes n = true → reaches n = true) :
    (lamp seats answers takes reaches).Legible id Lamp.shown where
  keeps ρ := ⟨id, fun _ ↦ id, fun _ ↦ id, fun _ ↦ id, fun _ _ ↦ id, id⟩
  nonneg w r := word_nonneg _ _
  read {d w v w'} hr := by
    simp only [lamp] at hr
    split at hr <;> cases hr
    rfl
  wrote {d hi lo w w'} hs := by
    obtain ⟨htakes, rfl⟩ := Prod.mk.inj hs
    simp only [Lamp.shown, h _ htakes, if_true]
  others _ r hr := absurd rfl hr

/-- The source of the lamp at a position of the list. -/
def lampSource (i : Nat) : BrightnessSource Unit := displaySource i ⟨(), 0x10ac, 0xa0c4, false⟩ ()

/-- The lamp at `current` of `max`, just opened. -/
def lampOpened (impl : Implementation Lamp Unit Unit) (current max : UInt8) :
    Session (Lamp × List (Note Unit)) Unit :=
  .start ((ddcProvider impl).metered id Lamp.shown) (⟨⟨0, max, 0, current⟩, 0, 0⟩, [])

theorem joined_lampOpened {impl : Implementation Lamp Unit Unit} {current max : UInt8} {i : Nat}
    (reading : Option (Int × Int))
    (h : .read (lampSource i) reading ∈ (lampOpened impl current max).world.2) :
    (lampOpened impl current max).Joined (ddcProvider impl) id Lamp.shown (lampSource i) reading :=
  .opened _ h

/-- The lamp after a run. -/
def lampAfter (impl : Implementation Lamp Unit Unit) (current max : UInt8) (ops : List Op) :
    Session (Lamp × List (Note Unit)) Unit :=
  (lampOpened impl current max).run ((ddcProvider impl).metered id Lamp.shown) ops

/-- A lamp that answers moves up, though a write of it fails, and one that does not answer moves
down. -/
theorem up_never_darkens_iff_lamp :
    (let impl := lamp 1 (fun _ ↦ true) (fun n ↦ n == 1) (fun n ↦ n == 1)
    (lampAfter impl 50 100 [.adjust (1 / 16), .service, .adjust (1 / 16)]).Heeds
      (ddcProvider impl) id Lamp.shown (lampSource 0) .up .service) ∧
    (let impl := lamp 1 (fun n ↦ n == 0) (fun _ ↦ true) (fun _ ↦ true)
    (lampAfter impl 80 100 [.adjust (-1 / 16)]).Heeds (ddcProvider impl) id Lamp.shown
      (lampSource 0) .down .service) := by
  constructor
  · refine (up_never_darkens_iff (legible_lamp 1 _ fun n h ↦ h)
      (joined_lampOpened (some (50, 100)) ?_) ?_).1.mpr ?_ _ _ ?_ ?_
    · decide +kernel
    · decide +kernel
    · exact (by decide : (50 : Int) ≤ 100)
    · simp [Key.Plays, Key.fraction]
    · decide +kernel
  · refine (up_never_darkens_iff (legible_lamp 1 _ fun n h ↦ h)
      (joined_lampOpened none ?_) ?_).2 _ _ ?_ ?_
    · decide +kernel
    · decide +kernel
    · simp [Key.Plays, Key.fraction]
    · decide +kernel

/-- How a key can move a lamp the other way.  Up: a lamp at 80 of 100 that answers the probe and
not its own reading goes to 6 at the first press, and one that reports 80 of 50 goes to 50.  Both
ways: where a write that is reported as failed has reached the lamp, two presses at once take the
lamp from 50 to 62 or 38, and the next one back to 56 or 44.  And where the lamp is listed twice:
at 3, with its second seat not answering, the first seat writes 9 and the second 6; and when the
writes of the first seat fail twice, its third one leads back from 38 to 44. -/
theorem up_press_darkens :
    (let impl := lamp 1 (fun n ↦ n == 0) (fun _ ↦ true) (fun _ ↦ true)
    (lampOpened impl 80 100).Joined (ddcProvider impl) id Lamp.shown (lampSource 0) none ∧
      ¬ (lampAfter impl 80 100 [.adjust (1 / 16)]).Heeds (ddcProvider impl) id Lamp.shown
        (lampSource 0) .up .service) ∧
    (let impl := lamp 1 (fun _ ↦ true) (fun _ ↦ true) (fun _ ↦ true)
    (lampOpened impl 80 50).Joined (ddcProvider impl) id Lamp.shown (lampSource 0)
        (some (80, 50)) ∧
      ¬ (lampAfter impl 80 50 [.adjust (1 / 16)]).Heeds (ddcProvider impl) id Lamp.shown
        (lampSource 0) .up .service) ∧
    (let impl := lamp 1 (fun _ ↦ true) (fun _ ↦ false) (fun _ ↦ true)
    (lampOpened impl 50 100).Joined (ddcProvider impl) id Lamp.shown (lampSource 0)
        (some (50, 100)) ∧
      ¬ (lampAfter impl 50 100
        [.adjust (1 / 16), .adjust (1 / 16), .service, .adjust (1 / 16)]).Heeds (ddcProvider impl)
        id Lamp.shown (lampSource 0) .up .service ∧
      ¬ (lampAfter impl 50 100
        [.adjust (-1 / 16), .adjust (-1 / 16), .service, .adjust (-1 / 16)]).Heeds
        (ddcProvider impl) id Lamp.shown (lampSource 0) .down .service) ∧
    (let impl := lamp 2 (fun n ↦ n != 3) (fun _ ↦ true) (fun _ ↦ true)
    (lampOpened impl 3 100).Joined (ddcProvider impl) id Lamp.shown (lampSource 1) none ∧
      Screen.Fits none 3 ∧
      ¬ (lampAfter impl 3 100 [.adjust (1 / 16)]).Heeds (ddcProvider impl) id Lamp.shown
        (lampSource 1) .up .service) ∧
    (let impl := lamp 2 (fun _ ↦ true) (fun n ↦ n != 0 && n != 2) (fun n ↦ n != 0 && n != 2)
    let ops := [.adjust (-1 / 16), .service, .adjust (-1 / 16), .service, .adjust (-1 / 16)]
    (lampOpened impl 50 100).Joined (ddcProvider impl) id Lamp.shown (lampSource 0)
        (some (50, 100)) ∧
      (lampOpened impl 50 100).HonestAlong (ddcProvider impl) id Lamp.shown (lampSource 0) ops ∧
      ¬ (lampAfter impl 50 100 ops).Heeds (ddcProvider impl) id Lamp.shown (lampSource 0) .down
        .service) := by
  refine ⟨⟨joined_lampOpened _ ?_, ?_⟩, ⟨joined_lampOpened _ ?_, ?_⟩,
    ⟨joined_lampOpened _ ?_, ?_, ?_⟩, ⟨joined_lampOpened _ ?_, (by decide : (3 : Int) ≤ 6), ?_⟩,
    joined_lampOpened _ ?_, ?_, ?_⟩ <;> decide +kernel

end Dimmit
