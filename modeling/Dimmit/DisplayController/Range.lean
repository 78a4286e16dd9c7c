import Dimmit.Ddc.Enumeration
import Dimmit.Lib.Run

/-!
# Every write stays in range

Over DDC sources a display reports 16-bit values, and its current brightness may lie above its
maximum; `dimmer_init` does not clamp it.  What every dimmer of every run has instead is
`Dimmer.Bounded`, from which the range of the writes and the absence of overflow follow.  That
the level lies in the range holds for the displays in *play*: those pressed since they joined,
with no failed write since the last press.
-/

namespace Dimmit

open Run

variable {W R H Ctx : Type}

namespace Session

/-- The calls through the sources' tables that an operation makes. -/
def calls (P : Provider W Ctx) (s : Session (W × List (OpsEvent Ctx)) Ctx) (op : Op) :
    List (OpsEvent Ctx) := (s.step P.logged op).world.2.drop s.world.2.length

/-- Some managed display has the id. -/
def HasId (s : Session W Ctx) (k : CString) : Prop := ∃ m ∈ s.displays, m.src.id = k

/-- One operation, with the ids of the displays in play: a press puts every display in play, a
failed write takes its display out, and a display that joins is not in play. -/
def playStep (P : Provider W Ctx) (x : Session (W × List (OpsEvent Ctx)) Ctx × (CString → Prop))
    (op : Op) : Session (W × List (OpsEvent Ctx)) Ctx × (CString → Prop) :=
  (x.1.step P.logged op,
    match op with
    | .adjust _ => x.1.HasId
    | .service => fun k ↦ x.2 k ∧ ∀ src v, .set src v false ∈ x.1.calls P .service → src.id ≠ k
    | .reconcile => fun k ↦ x.2 k ∧ x.1.HasId k)

end Session

/-- Everything `dimmer.c` computes on the dimmer for a press of `fraction` or for a pass fits in
32 bits. -/
structure Dimmer.Fits32 (d : Dimmer) (fraction : ℚ) : Prop where
  delta : dimmerDeltaForFraction32 (dimmerMax d) fraction =
    some (dimmerDeltaForFraction (dimmerMax d) fraction)
  adjust : dimmerAdjust32 d (dimmerDeltaForFraction (dimmerMax d) fraction) =
    some (dimmerAdjust d (dimmerDeltaForFraction (dimmerMax d) fraction))
  due : dimmerDue32 d = some (dimmerDue d)
  commit : ∀ target ∈ dimmerDue d, dimmerCommit32 d target = some (dimmerCommit d target)

theorem Dimmer.Bounded.fits32 {d : Dimmer} (h : d.Bounded) {fraction : ℚ} (hf : |fraction| ≤ 1) :
    d.Fits32 fraction where
  delta := h.dimmerDeltaForFraction32_eq hf
  adjust := h.dimmerAdjust32_eq (abs_dimmerDeltaForFraction_le h.max_nonneg h.max_le hf).2
  due := h.dimmerDue32_eq
  commit _ ht := h.dimmerCommit32_eq ht

/-! ## Readings -/

theorem initialDimmer_logged (P : Provider W Ctx) (src : BrightnessSource Ctx)
    (w : W × List (OpsEvent Ctx)) :
    (initialDimmer P.logged src w).1 = (initialDimmer P src w.1).1 := by
  rw [initialDimmer_fst, initialDimmer_fst]
  rfl

/-- A display starts bounded, whether its reading succeeds or fails. -/
theorem bounded_initialDimmer (impl : Implementation W R H) (src : BrightnessSource H) (w : W) :
    (initialDimmer (ddcProvider impl) src w).1.Bounded := by
  rw [initialDimmer_fst, ddcProvider_get_fst]
  cases (impl.getNonTableVcpValue src.ctx vcpBrightness w).1 with
  | none => exact .init (by decide) (by decide) (by decide) (by decide)
  | some v => exact bounded_readDimmer v

theorem Session.Reachable.bounded {impl : Implementation W R H}
    {s : Session (W × List (OpsEvent H)) H} (h : s.Reachable (ddcProvider impl).logged) :
    ∀ m ∈ s.displays, m.dim.Bounded := by
  refine h.forall_dim (D := Dimmer.Bounded) (fun src w ↦ ?_) (fun d f hd ↦ hd.adjust _)
    (fun d ok hd ↦ hd.serviced ok)
  rw [initialDimmer_logged]
  exact bounded_initialDimmer impl src w.1

/-- No brightness is the -1 of `controller_current`: it says that there is no such display. -/
theorem Session.Reachable.controllerCurrent_eq_neg_one_iff {impl : Implementation W R H}
    {s : Session (W × List (OpsEvent H)) H} (h : s.Reachable (ddcProvider impl).logged) (i : Int) :
    controllerCurrent s.controller i = -1 ↔ i ∉ Set.Ico 0 (controllerCount s.controller : Int) := by
  have hpar := h.parallel
  have hbounded := h.bounded
  obtain ⟨_ | c, w, serviced⟩ := s
  · refine iff_of_true (ite_self _) fun hi ↦ ?_
    exact absurd (hi.1.trans_lt hi.2) (lt_irrefl _)
  · have hlen : c.displays.length = c.sources.length := by
      rw [← hpar c rfl, List.length_map]
    unfold controllerCurrent
    split_ifs with hneg
    · exact iff_of_true rfl fun hi ↦ absurd hi.1 (not_le.mpr hneg)
    · have hi : ((i.toNat : Nat) : Int) = i := Int.toNat_of_nonneg (not_lt.mp hneg)
      rcases hm : c.displays[i.toNat]? with _ | m
      · have hle := List.getElem?_eq_none_iff.mp hm
        refine iff_of_true (by rw [Option.bind_some, hm]) fun hmem ↦ ?_
        have hlt : i < (c.sources.length : Int) := hmem.2
        omega
      · have hcurrent := (hbounded m (List.mem_of_getElem? hm)).current_nonneg
        obtain ⟨hlt, -⟩ := List.getElem?_eq_some_iff.mp hm
        refine iff_of_false ?_ (not_not_intro ⟨not_lt.mp hneg, ?_⟩)
        · rw [Option.bind_some, hm]
          dsimp only
          omega
        · change i < (c.sources.length : Int)
          omega

/-! ## The calls of an operation -/

/-- A pass writes what is due and nothing else, and a display whose write did not fail ends as
if it had succeeded. -/
theorem serviceDisplays_logged (P : Provider W Ctx) (ms : List (ManagedDisplay Ctx))
    (w : W × List (OpsEvent Ctx)) :
    ∃ events, (Controller.serviceDisplays P.logged ms w).2.2.2 = w.2 ++ events ∧
      (∀ e ∈ events, ∃ m ∈ ms, ∃ v ok, e = .set m.src v ok ∧ dimmerDue m.dim = some v) ∧
      List.Forall₂ (fun m m' ↦ ∃ ok, m' = { m with dim := dimmerServiced m.dim ok } ∧
        (ok = true ∨ ∃ v, .set m.src v false ∈ events)) ms
        (Controller.serviceDisplays P.logged ms w).1 := by
  induction ms generalizing w with
  | nil => exact ⟨[], (List.append_nil _).symm, fun _ he ↦ (nomatch he), .nil⟩
  | cons m ms ih =>
      have hfirst : ∃ events, (Controller.serviceDisplay P.logged m w).2.2.2 = w.2 ++ events ∧
          (∀ e ∈ events, ∃ v ok, e = .set m.src v ok ∧ dimmerDue m.dim = some v) ∧
          ∃ ok, (Controller.serviceDisplay P.logged m w).1 =
            { m with dim := dimmerServiced m.dim ok } ∧
            (ok = true ∨ ∃ v, .set m.src v false ∈ events) := by
        unfold Controller.serviceDisplay dimmerServiced
        cases hd : dimmerDue m.dim with
        | none => exact ⟨[], (List.append_nil _).symm, fun _ he ↦ (nomatch he), true, rfl, .inl rfl⟩
        | some target =>
            rcases hs : P.set m.src target w.1 with ⟨_ | _, w'⟩
            · refine ⟨[.set m.src target false], ?_, ?_, false, ?_, .inr ⟨target, by simp⟩⟩
              · simp [Provider.logged, hs]
              · rintro _ he
                exact ⟨target, false, List.mem_singleton.mp he, rfl⟩
              · simp [Provider.logged, hs]
            · refine ⟨[.set m.src target true], ?_, ?_, true, ?_, .inl rfl⟩
              · simp [Provider.logged, hs]
              · rintro _ he
                exact ⟨target, true, List.mem_singleton.mp he, rfl⟩
              · simp [Provider.logged, hs]
      obtain ⟨events, hlog, hset, ok, hm, hok⟩ := hfirst
      obtain ⟨events', hlog', hset', hms⟩ := ih (Controller.serviceDisplay P.logged m w).2.2
      refine ⟨events ++ events', ?_, ?_, .cons ⟨ok, hm, ?_⟩ (hms.imp ?_)⟩
      · rw [← List.append_assoc, ← hlog]
        exact hlog'
      · intro e he
        rcases List.mem_append.mp he with he | he
        · exact ⟨m, List.mem_cons_self, hset e he⟩
        · obtain ⟨m', hm', he⟩ := hset' e he
          exact ⟨m', List.mem_cons_of_mem _ hm', he⟩
      · exact hok.imp_right fun ⟨v, hv⟩ ↦ ⟨v, List.mem_append_left _ hv⟩
      · rintro m m' ⟨ok, hm, hok⟩
        exact ⟨ok, hm, hok.imp_right fun ⟨v, hv⟩ ↦ ⟨v, List.mem_append_right _ hv⟩⟩

/-- Everything but a pass only adds calls that are not writes. -/
theorem keeps_no_write (P : Provider W Ctx) (log : List (OpsEvent Ctx)) :
    P.logged.Keeps fun w ↦ ∃ events, w.2 = log ++ events ∧ ∀ src v ok, .set src v ok ∉ events where
  enumerate h := h
  get src h := by
    obtain ⟨events, hlog, hno⟩ := h
    refine ⟨events ++ [_], (congrArg (· ++ [_]) hlog).trans (List.append_assoc ..), ?_⟩
    intro src v ok hm
    rcases List.mem_append.mp hm with hm | hm
    · exact hno src v ok hm
    · exact absurd (List.mem_singleton.mp hm) (by simp)
  close src h := by
    obtain ⟨events, hlog, hno⟩ := h
    refine ⟨events ++ [_], (congrArg (· ++ [_]) hlog).trans (List.append_assoc ..), ?_⟩
    intro src v ok hm
    rcases List.mem_append.mp hm with hm | hm
    · exact hno src v ok hm
    · exact absurd (List.mem_singleton.mp hm) (by simp)
  calloc h := h

namespace Session

theorem calls_eq {P : Provider W Ctx} {s : Session (W × List (OpsEvent Ctx)) Ctx} {op : Op}
    {events : List (OpsEvent Ctx)} (h : (s.step P.logged op).world.2 = s.world.2 ++ events) :
    s.calls P op = events := by
  rw [calls, h, List.drop_left]

theorem calls_service_eq {P : Provider W Ctx} {s : Session (W × List (OpsEvent Ctx)) Ctx}
    {events : List (OpsEvent Ctx)}
    (h : (Controller.serviceDisplays P.logged s.displays s.world).2.2.2 = s.world.2 ++ events) :
    s.calls P .service = events :=
  calls_eq ((congrArg Prod.snd (world_step_service P.logged s)).trans h)

section Calls

variable (P : Provider W Ctx) (s : Session (W × List (OpsEvent Ctx)) Ctx)

@[simp] theorem calls_adjust (f : ℚ) : s.calls P (.adjust f) = [] := List.drop_length

theorem calls_reconcile_no_write (src : BrightnessSource Ctx) (v : Int) (ok : Bool) :
    .set src v ok ∉ s.calls P .reconcile := by
  obtain ⟨_ | c, w, results⟩ := s
  · rw [calls_eq (List.append_nil _).symm]
    exact List.not_mem_nil
  · have hkeeps := keeps_no_write P w.2
    obtain ⟨events, hlog, hno⟩ :=
      hkeeps.reconcile c (w := w) ⟨[], (List.append_nil _).symm, fun _ _ _ ↦ List.not_mem_nil⟩
    have hstep : (step P.logged ⟨some c, w, results⟩ .reconcile).world.2 = w.2 ++ events := hlog
    rw [calls_eq hstep]
    exact hno src v ok

end Calls

/-- The calls of a pass are the writes that are due. -/
theorem mem_calls_service {P : Provider W Ctx} {s : Session (W × List (OpsEvent Ctx)) Ctx}
    {src : BrightnessSource Ctx} {v : Int} {ok : Bool} (h : .set src v ok ∈ s.calls P .service) :
    ∃ m ∈ s.displays, m.src = src ∧ dimmerDue m.dim = some v := by
  obtain ⟨events, hlog, hset, -⟩ := serviceDisplays_logged P s.displays s.world
  rw [calls_service_eq hlog] at h
  obtain ⟨m, hm, v', ok', he, hd⟩ := hset _ h
  cases he
  exact ⟨m, hm, rfl, hd⟩

/-- One operation keeps the displays in play at a level in their range. -/
theorem inRange_playStep {P : Provider W Ctx} {s : Session (W × List (OpsEvent Ctx)) Ctx}
    {play : CString → Prop} (hs : s.Reachable P.logged) (hmax : ∀ m ∈ s.displays, 0 ≤ m.dim.max)
    (hplay : ∀ m ∈ s.displays, play m.src.id → m.dim.InRange) (op : Op) :
    ∀ m ∈ (playStep P (s, play) op).1.displays, (playStep P (s, play) op).2 m.src.id →
      m.dim.InRange := by
  intro m hm hk
  cases op with
  | adjust f =>
      change m ∈ (s.step P.logged (.adjust f)).displays at hm
      rw [displays_step_adjust] at hm
      obtain ⟨m₀, hm₀, rfl⟩ := List.mem_map.mp hm
      exact inRange_dimmerAdjust (hmax m₀ hm₀) _
  | service =>
      obtain ⟨events, hlog, -, hms⟩ := serviceDisplays_logged P s.displays s.world
      have hcalls : s.calls P .service = events := calls_service_eq hlog
      change m ∈ (s.step P.logged .service).displays at hm
      rw [displays_step_service] at hm
      obtain ⟨m₀, hm₀, ok, rfl, hok⟩ := Related.exists_of_mem_right hms hm
      obtain ⟨hk, hno⟩ := hk
      have hok : ok = true := hok.resolve_right fun ⟨v, hv⟩ ↦ hno m₀.src v (hcalls ▸ hv) rfl
      have hr : m₀.dim.InRange := hplay m₀ hm₀ hk
      subst hok
      change 0 ≤ (dimmerServiced m₀.dim true).level ∧
        (dimmerServiced m₀.dim true).level ≤ (dimmerServiced m₀.dim true).max
      rw [level_dimmerServiced_true, dimmerServiced_max]
      exact hr
  | reconcile =>
      obtain ⟨hk, m₁, hm₁, hid₁⟩ := hk
      have hpar := hs.parallel
      obtain ⟨_ | c, w, results⟩ := s
      · cases hm₁
      · change m ∈ (c.reconcile P.logged w).1.displays at hm
        obtain ⟨m₀, hm₀, hid, hdim⟩ | ⟨hne, -⟩ := (hpar c rfl).mem_reconcile hm
        · rw [← hdim]
          exact hplay m₀ hm₀ (hid ▸ hk)
        · -- a display that joins is not in play
          exact absurd hid₁ (hne m₁ hm₁)

end Session

/-- **Every write stays in range and nothing wraps.**  In every run over DDC sources, whatever
they report and whatever fails: each value written is one of its display's dimmer, in `[0, max]`,
and its two bytes make it again; the level of every display in play is in `[0, max]`; and no
`int` of `dimmer.c` overflows for a press of a sixteenth or for a pass. -/
theorem writes_stay_in_range (impl : Implementation W R H) (w : W) (ops : List Op) :
    Along (Session.step (ddcProvider impl).logged)
      (fun s op ↦ ∀ src v ok, .set src v ok ∈ s.calls (ddcProvider impl) op →
        ∃ m ∈ s.displays, m.src = src ∧ 0 ≤ v ∧ v ≤ dimmerMax m.dim ∧
          word (hiByte v) (loByte v) = v)
      (Session.start (ddcProvider impl).logged (w, [])) ops ∧
    Throughout (Session.playStep (ddcProvider impl))
      (fun x ↦ ∀ m ∈ x.1.displays, x.2 m.src.id → m.dim.InRange)
      (Session.start (ddcProvider impl).logged (w, []), fun _ ↦ False) ops ∧
    Throughout (Session.step (ddcProvider impl).logged)
      (fun s ↦ ∀ m ∈ s.displays, m.dim.Fits32 (1 / 16) ∧ m.dim.Fits32 (-1 / 16))
      (Session.start (ddcProvider impl).logged (w, [])) ops := by
  have hstart := Session.reachable_start (ddcProvider impl).logged (w, [])
  refine ⟨?_, ?_, ?_⟩
  · refine (along_true _ ops).imp (J := Session.Reachable (ddcProvider impl).logged) hstart
      (fun s op hs _ ↦ hs.step op) ?_
    intro s op hs _ src v ok hcall
    cases op with
    | adjust f => simp at hcall
    | service =>
        obtain ⟨m, hm, hsrc, hd⟩ := Session.mem_calls_service hcall
        have hb := hs.bounded m hm
        obtain ⟨h₀, h₁⟩ := hb.target_mem hd
        have hle := hb.max_le
        exact ⟨m, hm, hsrc, h₀, h₁, word_hiByte_loByte h₀ (by omega)⟩
    | reconcile => exact absurd hcall (Session.calls_reconcile_no_write _ s src v ok)
  · refine throughout_of_invariant
      (J := fun x : Session (W × List (OpsEvent H)) H × (CString → Prop) ↦
        x.1.Reachable (ddcProvider impl).logged ∧ ∀ m ∈ x.1.displays, x.2 m.src.id → m.dim.InRange)
      ?_ ?_ (fun x hx ↦ hx.2) ops
    · exact ⟨hstart, fun m hm hplay ↦ False.elim hplay⟩
    rintro ⟨s, play⟩ op ⟨hs, hplay⟩
    have hmax : ∀ m ∈ s.displays, 0 ≤ m.dim.max := fun m hm ↦ (hs.bounded m hm).max_nonneg
    exact ⟨hs.step op, Session.inRange_playStep hs hmax hplay op⟩
  · refine throughout_of_invariant (J := Session.Reachable (ddcProvider impl).logged) hstart
      (fun s op hs ↦ hs.step op) (fun s hs m hm ↦ ?_) ops
    have hb := hs.bounded m hm
    exact ⟨hb.fits32 (by norm_num), hb.fits32 (by norm_num)⟩

end Dimmit
