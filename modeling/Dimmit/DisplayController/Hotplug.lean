import Dimmit.DisplayController.Failure
import Dimmit.Ddc.Enumeration
import Dimmit.Lib.Run

/-!
# Hotplug

A physical display is what a handle drives: `device h` is the display `h` was opened for.  A
reconcile knows nothing of this and goes by ids, which are made from vendor, product and
*position*: a managed display keeps its dimmer as long as it is listed under its id, and a
display that is listed under a free id starts from its own reading.  Only where a display is
listed under the id of *another* one does it take over the other's dimmer; unplugging the first
of two displays of one make moves the second into the first one's seat.

What is asked of the backend is asked of one poll at a time, by its log.
-/

namespace Dimmit

open Run

variable {W R H : Type}

/-- An open or a read that did what it was asked, or another call. -/
def DdcEvent.succeeded : DdcEvent R H → Bool
  | .opened _ answer => answer.isSome
  | .read _ _ answer => answer.isSome
  | _ => true

/-! ## The log of a poll -/

section Log

variable {impl : Implementation W R H} {n : Nat}

theorem mem_drop_append {α : Type} {a : α} {l l' : List α} (h : a ∈ l.drop n) :
    a ∈ (l ++ l').drop n := by
  rw [List.drop_append]
  exact List.mem_append_left _ h

theorem mem_drop_concat {α : Type} {l : List α} (h : n ≤ l.length) (a : α) :
    a ∈ (l ++ [a]).drop n := by
  rw [List.drop_append_of_le_length h]
  exact List.mem_append_right _ List.mem_cons_self

/-- What was noted stays noted. -/
theorem keeps_noted (impl : Implementation W R H) (n : Nat) (e : DdcEvent R H) :
    impl.logged.Keeps fun w ↦ e ∈ w.2.drop n where
  getDisplayInfoList h := mem_drop_append h
  freeDisplayInfoList _ h := mem_drop_append h
  openDisplay _ h := mem_drop_append h
  closeDisplay _ h := mem_drop_append h
  getNonTableVcpValue _ _ h := mem_drop_append h
  calloc h := h

/-- And the log does not shrink. -/
theorem keeps_length (impl : Implementation W R H) (n : Nat) :
    impl.logged.Keeps fun w ↦ n ≤ w.2.length where
  getDisplayInfoList h := h.trans (by simp [Implementation.logged])
  freeDisplayInfoList _ h := h.trans (by simp [Implementation.logged])
  openDisplay _ h := h.trans (by simp [Implementation.logged])
  closeDisplay _ h := h.trans (by simp [Implementation.logged])
  getNonTableVcpValue _ _ h := h.trans (by simp [Implementation.logged])
  calloc h := h

theorem opened_noted {r : R} {w w' : Logged W R H} {answer : Option H}
    (ho : impl.logged.openDisplay r w = (answer, w')) (hn : n ≤ w.2.length) :
    .opened r answer ∈ w'.2.drop n ∧ n ≤ w'.2.length := by
  have hlength := (keeps_length impl n).openDisplay r hn
  rw [ho] at hlength
  obtain ⟨rfl, rfl⟩ := Prod.mk.inj ho
  exact ⟨mem_drop_concat hn _, hlength⟩

theorem read_noted {h : H} {feature : UInt8} {w w' : Logged W R H}
    {answer : Option NonTableVcpValue}
    (hr : impl.logged.getNonTableVcpValue h feature w = (answer, w')) (hn : n ≤ w.2.length) :
    .read h feature answer ∈ w'.2.drop n ∧ n ≤ w'.2.length := by
  have hlength := (keeps_length impl n).getNonTableVcpValue h feature hn
  rw [hr] at hlength
  obtain ⟨rfl, rfl⟩ := Prod.mk.inj hr
  exact ⟨mem_drop_concat hn _, hlength⟩

/-- A loop none of whose calls failed keeps every external display, with a handle for it. -/
theorem forall₂_enumerateFrom_of_succeeded {device : H → R}
    (hdev : ∀ r w h, (impl.openDisplay r w).1 = some h → device h = r)
    (infos : List (DisplayInfo R)) (i : Nat) {w : Logged W R H} (hn : n ≤ w.2.length)
    (hok : ∀ e ∈ (enumerateFrom impl.logged i infos w).2.2.drop n, e.succeeded = true) :
    List.Forall₂ (OpenedFor device) (enumerateFrom impl.logged i infos w).1
      (externalsFrom i infos) := by
  induction infos generalizing i w with
  | nil => exact .nil
  | cons info infos ih =>
      rw [externalsFrom]
      obtain ⟨hb, he⟩ | ⟨w', hb, ho, he⟩ | ⟨h, w', w'', hb, ho, hr, he⟩ |
        ⟨h, w', v, w'', hb, ho, hr, he⟩ := enumerateFrom_cases impl.logged i info infos w
      · rw [he] at hok ⊢
        rw [hb]
        exact ih _ hn hok
      · -- the failed open is in the log of the whole loop
        rw [he] at hok
        have hnoted := (keeps_noted impl n _).enumerateFrom infos (i + 1) (opened_noted ho hn).1
        exact absurd (hok _ hnoted) (by simp [DdcEvent.succeeded])
      · rw [he] at hok
        have hread := (read_noted hr (opened_noted ho hn).2).1
        have hclosed := (keeps_noted impl n _).closeDisplay h hread
        have hnoted := (keeps_noted impl n _).enumerateFrom infos (i + 1) hclosed
        exact absurd (hok _ hnoted) (by simp [DdcEvent.succeeded])
      · have hd : device h = info.dref := hdev info.dref w.1 h (congrArg Prod.fst ho)
        rw [he] at hok ⊢
        rw [hb]
        exact .cons ⟨rfl, hd⟩ (ih _ (read_noted hr (opened_noted ho hn).2).2 hok)

/-- An enumeration none of whose calls failed returns every external display. -/
theorem forall₂_ddcEnumerateSources_of_succeeded {device : H → R}
    (hdev : ∀ r w h, (impl.openDisplay r w).1 = some h → device h = r) {w w' : Logged W R H}
    {sources : List (BrightnessSource H)} (hn : n ≤ w.2.length)
    (he : ddcEnumerateSources impl.logged w = (some sources, w'))
    (hok : ∀ e ∈ w'.2.drop n, e.succeeded = true) :
    List.Forall₂ (OpenedFor device) sources (listed impl.logged w) := by
  have hlist := (keeps_length impl n).getDisplayInfoList hn
  rw [listed]
  obtain ⟨w₁, hl, he'⟩ | ⟨dlist, w₁, w₂, hl, hc, he'⟩ | ⟨dlist, w₁, w₂, hl, hc, he'⟩ :=
    ddcEnumerateSources_cases impl.logged w <;> rw [he] at he' <;> cases he'
  · rw [hl]
    exact .nil
  · rw [hl] at hlist ⊢
    have hcalloc := (keeps_length impl n).calloc hlist
    rw [hc] at hcalloc
    refine forall₂_enumerateFrom_of_succeeded hdev dlist.info 0 hcalloc fun e hmem ↦ hok e ?_
    exact (keeps_noted impl n e).freeDisplayInfoList dlist hmem

/-- A display that a reconcile does not know starts from its answer to a reading in the log. -/
theorem mem_nextDisplays_of_succeeded {c : Controller H} {fresh : List (BrightnessSource H)}
    {w : Logged W R H} (hn : n ≤ w.2.length)
    (hok : ∀ e ∈ (Controller.nextDisplays (ddcProvider impl.logged) c fresh w).2.2.drop n,
      e.succeeded = true) {m : ManagedDisplay H}
    (hm : m ∈ (Controller.nextDisplays (ddcProvider impl.logged) c fresh w).1)
    (hnone : c.matched m.src.id = none) :
    ∃ v, .read m.src.ctx vcpBrightness (some v) ∈
        (Controller.nextDisplays (ddcProvider impl.logged) c fresh w).2.2.drop n ∧
      m.dim = readDimmer v := by
  induction fresh generalizing w with
  | nil => cases hm
  | cons src fresh ih =>
      rw [Controller.nextDisplays] at hok hm ⊢
      cases hs : c.matched src.id with
      | some dim =>
          rw [hs] at hok hm
          rcases List.mem_cons.mp hm with rfl | hm
          · exact absurd (hs.symm.trans hnone) (by simp)
          · exact ih hn hok hm
      | none =>
          rw [hs] at hok hm
          have hget := (keeps_length impl n).ddcProvider.initialDimmer src hn
          rcases List.mem_cons.mp hm with rfl | hm
          · rcases hr : impl.logged.getNonTableVcpValue src.ctx vcpBrightness w with ⟨answer, w'⟩
            have hw' : (initialDimmer (ddcProvider impl.logged) src w).2 = w' := by
              simp only [initialDimmer, ddcProvider, ddcSrcGet]
              rw [hr]
              cases answer <;> rfl
            have hread := (read_noted hr hn).1
            have hnoted := (keeps_noted impl n _).ddcProvider.nextDisplays c fresh hread
            rw [← hw'] at hnoted
            cases answer with
            | none => exact absurd (hok _ hnoted) (by simp [DdcEvent.succeeded])
            | some v =>
                refine ⟨v, hnoted, ?_⟩
                rw [initialDimmer_fst, ddcProvider_get_fst, hr]
                rfl
          · exact ih hget hok hm

end Log

namespace Session

/-- The calls a reconcile from `s` makes across the interface. -/
def polled (impl : Implementation W R H) (s : Session (Logged W R H) H) : List (DdcEvent R H) :=
  (s.step (ddcProvider impl.logged) .reconcile).world.2.drop s.world.2.length

/-- What a reconcile from `s` makes of the physical displays, one by one. -/
structure GoesById (impl : Implementation W R H) (device : H → R)
    (s s' : Session (Logged W R H) H) : Prop where
  /-- A managed display that is still listed under its id keeps its dimmer. -/
  kept : ∀ m ∈ s.displays,
    (∃ p ∈ listed impl s.world.1, p.2.dref = device m.src.ctx ∧ displayId p.1 p.2 = m.src.id) →
    ∃ m' ∈ s'.displays, device m'.src.ctx = device m.src.ctx ∧ m'.src.id = m.src.id ∧
      m'.dim = m.dim
  /-- A display under an id that was not managed starts from its own reading in this poll. -/
  started : ∀ m' ∈ s'.displays, (∀ m ∈ s.displays, m.src.id ≠ m'.src.id) →
    ∃ v, .read m'.src.ctx vcpBrightness (some v) ∈ s.polled impl ∧ m'.dim = readDimmer v
  /-- A display under an id that was managed has the dimmer of this id ... -/
  inherited : ∀ m' ∈ s'.displays, ∀ m ∈ s.displays, m.src.id = m'.src.id → m'.dim = m.dim
  /-- ... and so no display takes over the dimmer of another one but that which had its id. -/
  own : ∀ m' ∈ s'.displays,
    (∀ m ∈ s.displays, m.src.id = m'.src.id → device m.src.ctx = device m'.src.ctx) →
    (∃ m ∈ s.displays, device m.src.ctx = device m'.src.ctx ∧ m'.dim = m.dim) ∨
    ∃ v, .read m'.src.ctx vcpBrightness (some v) ∈ s.polled impl ∧ m'.dim = readDimmer v
  /-- Unless the poll fails, exactly the listed displays are managed, in the order of the list. -/
  joined : s.controller ≠ none → ¬ EnumerationFails impl.logged s.world →
    List.Forall₂ (OpenedFor device) (s'.displays.map (·.src)) (listed impl s.world.1)

variable {impl : Implementation W R H} {device : H → R}

/-- The dimmers of one id are one dimmer, so what is its own is read off its id. -/
theorem GoesById.of_ids {s s' : Session (Logged W R H) H}
    (kept : ∀ m ∈ s.displays,
      (∃ p ∈ listed impl s.world.1, p.2.dref = device m.src.ctx ∧
        displayId p.1 p.2 = m.src.id) →
      ∃ m' ∈ s'.displays, device m'.src.ctx = device m.src.ctx ∧ m'.src.id = m.src.id ∧
        m'.dim = m.dim)
    (started : ∀ m' ∈ s'.displays, (∀ m ∈ s.displays, m.src.id ≠ m'.src.id) →
      ∃ v, .read m'.src.ctx vcpBrightness (some v) ∈ s.polled impl ∧ m'.dim = readDimmer v)
    (inherited : ∀ m' ∈ s'.displays, ∀ m ∈ s.displays, m.src.id = m'.src.id → m'.dim = m.dim)
    (joined : s.controller ≠ none → ¬ EnumerationFails impl.logged s.world →
      List.Forall₂ (OpenedFor device) (s'.displays.map (·.src)) (listed impl s.world.1)) :
    GoesById impl device s s' where
  kept := kept
  started := started
  inherited := inherited
  own m' hm' hsame := by
    by_cases hid : ∃ m ∈ s.displays, m.src.id = m'.src.id
    · obtain ⟨m, hm, hid⟩ := hid
      exact .inl ⟨m, hm, hsame m hm hid, inherited m' hm' m hm hid⟩
    · exact .inr (started m' hm' fun m hm h ↦ hid ⟨m, hm, h⟩)
  joined := joined

/-- Displays with distinct ids that stay as they are go by them. -/
theorem GoesById.of_displays_eq {s s' : Session (Logged W R H) H}
    (hids : (s.displays.map (·.src.id)).Nodup) (h : s'.displays = s.displays)
    (hfail : s.controller ≠ none → EnumerationFails impl.logged s.world) :
    GoesById impl device s s' := by
  refine .of_ids ?_ ?_ ?_ fun hc hok ↦ absurd (hfail hc) hok
  · intro m hm _
    exact ⟨m, h ▸ hm, rfl, rfl, rfl⟩
  · intro m' hm' hne
    exact absurd rfl (hne m' (h ▸ hm'))
  · intro m' hm' m hm hid
    rw [List.inj_on_of_nodup_map hids hm (h ▸ hm') hid]

/-- A reconcile that adopts what was listed, none of whose opens and reads failed. -/
theorem goesById_adopt (hdev : ∀ r w h, (impl.openDisplay r w).1 = some h → device h = r)
    {c : Controller H} (hc : c.Parallel) (hn : (c.sources.map (·.id)).Nodup)
    {w w' w'' : Logged W R H} {results : List Nat} {fresh : List (BrightnessSource H)}
    (hen : (ddcProvider impl.logged).enumerate w = (some fresh, w'))
    (hcl : fresh = [] ∧ w'' = w' ∨
      fresh ≠ [] ∧ (ddcProvider impl.logged).calloc w' = (true, w''))
    (he : c.reconcile (ddcProvider impl.logged) w = c.adopt (ddcProvider impl.logged) fresh w'')
    (hok : ∀ e ∈ polled impl ⟨some c, w, results⟩, e.succeeded = true) :
    GoesById impl device ⟨some c, w, results⟩
      (step (ddcProvider impl.logged) ⟨some c, w, results⟩ .reconcile) := by
  have hdisplays : (step (ddcProvider impl.logged) ⟨some c, w, results⟩ .reconcile).displays =
      (c.nextDisplays (ddcProvider impl.logged) fresh w'').1 := by
    change (c.reconcile (ddcProvider impl.logged) w).1.displays = _
    rw [he]
    rfl
  have hpolled : polled impl ⟨some c, w, results⟩ =
      (c.adopt (ddcProvider impl.logged) fresh w'').2.2.drop w.2.length := by
    change (c.reconcile (ddcProvider impl.logged) w).2.2.drop w.2.length = _
    rw [he]
  rw [hpolled] at hok
  -- what the first loop noted, the second one leaves in the log
  have hnext (e : DdcEvent R H)
      (hmem : e ∈ (c.nextDisplays (ddcProvider impl.logged) fresh w'').2.2.drop w.2.length) :
      e ∈ (c.adopt (ddcProvider impl.logged) fresh w'').2.2.drop w.2.length :=
    (keeps_noted impl _ e).ddcProvider.closeVanished fresh c.sources hmem
  have hkeep (e : DdcEvent R H) (hmem : e ∈ w'.2.drop w.2.length) :
      e ∈ (c.adopt (ddcProvider impl.logged) fresh w'').2.2.drop w.2.length :=
    hnext e ((keeps_noted impl _ e).ddcProvider.nextDisplays c fresh
      ((keeps_noted impl _ e).ddcProvider.of_array hcl hmem))
  have hlength : w.2.length ≤ w''.2.length :=
    (keeps_length impl _).ddcProvider.of_array hcl
      ((keeps_length impl _).ddcProvider.of_enumerate hen le_rfl)
  have hseats : List.Forall₂ (OpenedFor device) fresh (listed impl w.1) :=
    forall₂_ddcEnumerateSources_of_succeeded hdev le_rfl hen fun e hmem ↦ hok e (hkeep e hmem)
  have hsrc := c.nextDisplays_map_src (ddcProvider impl.logged) fresh w''
  -- a display whose id was managed gets the dimmer of this id
  have hinherited {m m' : ManagedDisplay H} (hm : m ∈ c.displays)
      (hm' : m' ∈ (c.nextDisplays (ddcProvider impl.logged) fresh w'').1)
      (hid : m.src.id = m'.src.id) : m'.dim = m.dim := by
    have hmatch := hc.matched_of_mem hn hm
    rw [hid] at hmatch
    obtain hdim | ⟨hnone, -⟩ := Controller.mem_nextDisplays hm'
    · exact Option.some.inj (hdim.symm.trans hmatch)
    · exact absurd (hnone.symm.trans hmatch) (by simp)
  refine .of_ids ?_ ?_ ?_ fun _ _ ↦ ?_
  · intro m hm ⟨p, hp, hdref, hid⟩
    obtain ⟨src, hsrcmem, hseat⟩ := Related.exists_of_mem_right hseats hp
    rw [← hsrc] at hsrcmem
    obtain ⟨m', hm', rfl⟩ := List.mem_map.mp hsrcmem
    have hid' : m'.src.id = m.src.id := hseat.id_eq.trans hid
    exact ⟨m', hdisplays ▸ hm', hseat.device_eq.trans hdref, hid', hinherited hm hm' hid'.symm⟩
  · intro m' hm' hne
    rw [hdisplays] at hm'
    obtain ⟨m, hm, hid, -⟩ | ⟨-, hnone⟩ := hc.matched_cases m'.src.id
    · exact absurd hid (hne m hm)
    · obtain ⟨v, hmem, hdim⟩ := mem_nextDisplays_of_succeeded hlength
        (fun e hmem ↦ hok e (hnext e hmem)) hm' hnone
      exact ⟨v, hpolled ▸ hnext _ hmem, hdim⟩
  · intro m' hm' m hm hid
    exact hinherited hm (hdisplays ▸ hm') hid
  · rw [hdisplays]
    exact hsrc.symm ▸ hseats

/-- One reconcile all of whose opens and reads succeed. -/
theorem goesById_reconcile (hdev : ∀ r w h, (impl.openDisplay r w).1 = some h → device h = r)
    {s : Session (Logged W R H) H} (hs : s.Reachable (ddcProvider impl.logged))
    (hok : ∀ e ∈ s.polled impl, e.succeeded = true) :
    GoesById impl device s (s.step (ddcProvider impl.logged) .reconcile) := by
  have hpar := hs.parallel
  have hids := hs.nodup_ids
  obtain ⟨_ | c, w, results⟩ := s
  · exact .of_displays_eq .nil rfl fun hc ↦ absurd rfl hc
  have hc : c.Parallel := hpar c rfl
  have hn : (c.sources.map (·.id)).Nodup := hids c rfl
  have hstays {w' : Logged W R H} (he : c.reconcile (ddcProvider impl.logged) w = (c, w'))
      (hfails : EnumerationFails impl.logged w) :
      GoesById impl device ⟨some c, w, results⟩
        (step (ddcProvider impl.logged) ⟨some c, w, results⟩ .reconcile) := by
    have hn' : (c.displays.map (·.src.id)).Nodup := hc.map_id ▸ hn
    refine .of_displays_eq hn' ?_ fun _ ↦ hfails
    change (c.reconcile (ddcProvider impl.logged) w).1.displays = c.displays
    rw [he]
  obtain ⟨w', hen, he⟩ | ⟨fresh, w', w'', hen, hne, hcl, he⟩ | ⟨fresh, w', w'', hen, hcl, he⟩ :=
    c.reconcile_cases (ddcProvider impl.logged) w
  · refine hstays he ?_
    obtain ⟨_, -, hen'⟩ | ⟨dlist, w₁, w₂, hl, hc', -⟩ | ⟨_, _, _, -, -, hen'⟩ :=
      ddcEnumerateSources_cases impl.logged w
    · exact absurd (hen.symm.trans hen') (by simp)
    · exact .sources hl (congrArg Prod.fst hc')
    · exact absurd (hen.symm.trans hen') (by simp)
  · exact hstays he (.displays hen hne (congrArg Prod.fst hcl))
  · exact goesById_adopt hdev hc hn hen hcl he hok

/-- **Hotplug keeps every display its own, as far as ids tell displays apart.**  In every run,
with any failures on the way, every reconcile all of whose own opens and reads succeed leaves
each display that is still listed under its id with its dimmer and starts each display under a
free id from its own reading; no display takes over the dimmer of another one but that which had
its id. -/
theorem hotplug_goes_by_id (hdev : ∀ r w h, (impl.openDisplay r w).1 = some h → device h = r)
    (w : Logged W R H) (ops : List Op) :
    Along (Session.step (ddcProvider impl.logged))
      (fun s op ↦ op = .reconcile → (∀ e ∈ s.polled impl, e.succeeded = true) →
        GoesById impl device s (s.step (ddcProvider impl.logged) op))
      (Session.start (ddcProvider impl.logged) w) ops := by
  refine (along_true _ ops).imp (J := Session.Reachable (ddcProvider impl.logged))
    (reachable_start _ w) (fun s op hs _ ↦ hs.step op) ?_
  rintro s op hs - rfl hok
  exact goesById_reconcile hdev hs hok

/-- Three displays of three makes, a press pending, and a poll at which the first is unplugged
and a fourth is plugged in at the end: the second moves to a free id, the third keeps its own. -/
theorem hotplug_goes_by_id_unplug_first :
    let impl := bench fun n ↦
      if n = 0 then some ⟨[⟨0, 1, 7, false⟩, ⟨1, 2, 7, false⟩, ⟨2, 3, 7, false⟩], by decide⟩
      else some ⟨[⟨1, 2, 7, false⟩, ⟨3, 4, 7, false⟩, ⟨2, 3, 7, false⟩], by decide⟩
    let s := (Session.start (ddcProvider impl.logged)
      (Bench.ready [⟨0, 100, 0, 50⟩, ⟨0, 200, 0, 20⟩, ⟨0, 100, 0, 30⟩, ⟨0, 80, 0, 40⟩], [])).step
      (ddcProvider impl.logged) (.adjust (1 / 16))
    let s' := s.step (ddcProvider impl.logged) .reconcile
    GoesById impl BenchHandle.dref s s' ∧
      s'.displays.map (fun m ↦ (m.src.ctx.dref, m.dim)) =
        [(1, ⟨20, 200, 0⟩), (3, ⟨40, 80, 0⟩), (2, ⟨30, 100, 6⟩)] := by
  intro impl s s'
  refine ⟨?_, by decide +kernel⟩
  have hdev (r : Nat) (w : Bench) (h : BenchHandle) (ho : (impl.openDisplay r w).1 = some h) :
      h.dref = r := by
    cases ho
    rfl
  exact (hotplug_goes_by_id hdev
    (Bench.ready [⟨0, 100, 0, 50⟩, ⟨0, 200, 0, 20⟩, ⟨0, 100, 0, 30⟩, ⟨0, 80, 0, 40⟩], [])
    [.adjust (1 / 16), .reconcile]).2.1 rfl (by decide +kernel)

/-- The first of two displays that report 0/0 is unplugged: every call of the poll succeeds, and
the second, at 20 of 200, takes over its dimmer, 50 of 100. -/
theorem unplugged_display_leaves_its_dimmer :
    let impl := bench fun n ↦
      if n = 0 then some ⟨[⟨0, 0, 0, false⟩, ⟨1, 0, 0, false⟩], by decide⟩
      else some ⟨[⟨1, 0, 0, false⟩], by decide⟩
    let P := ddcProvider impl.logged
    let s := Session.start P (Bench.ready [⟨0, 100, 0, 50⟩, ⟨0, 200, 0, 20⟩], [])
    let s' := s.step P .reconcile
    s.Reachable P ∧ (∀ e ∈ s.polled impl, e.succeeded = true) ∧
      s.displays.map (fun m ↦ (m.src.ctx.dref, m.dim)) =
        [(0, ⟨50, 100, 0⟩), (1, ⟨20, 200, 0⟩)] ∧
      s'.displays.map (fun m ↦ (m.src.ctx.dref, m.dim)) = [(1, ⟨50, 100, 0⟩)] ∧
      ¬ (∀ m ∈ s.displays, (∃ p ∈ listed impl s.world.1, p.2.dref = m.src.ctx.dref) →
        ∃ m' ∈ s'.displays, m'.src.ctx.dref = m.src.ctx.dref ∧ m'.dim = m.dim) := by
  intro impl P s s'
  refine ⟨reachable_start _ _, by decide +kernel, by decide +kernel, by decide +kernel, ?_⟩
  decide +kernel

end Session

end Dimmit
