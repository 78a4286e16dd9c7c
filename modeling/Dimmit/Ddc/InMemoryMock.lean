import Dimmit.Ddc.Enumeration
import Mathlib.Data.List.OfFn

/-!
# The in-memory mock

`platform/ddc/in_memory_mock.c`: eight simulated displays, of which a test configures the first
few.  The static variables of the file are a `MockState`, and `malloc` and `calloc` are a
parameter with a state of their own.

`g_refs[i]` and `g_handles[i]` hold the index `i` from the moment they are handed out, so both
pointer types are the indices.
-/

namespace Dimmit

/-- `MOCK_MAX_DISPLAYS`. -/
abbrev mockMaxDisplays : Nat := 8

/-- The static variables of the mock. -/
structure MockState where
  /-- `g_current`. -/
  current : Fin mockMaxDisplays → Int
  /-- `g_max`. -/
  max : Fin mockMaxDisplays → Int
  /-- `g_fail`. -/
  fail : Fin mockMaxDisplays → Int
  /-- `g_count`. -/
  count : Nat
  /-- `g_inited`. -/
  inited : Bool
  count_le : count ≤ mockMaxDisplays

/-- The mock of a process that has just started. -/
def MockState.zero : MockState where
  current _ := 0
  max _ := 0
  fail _ := 0
  count := 1
  inited := false
  count_le := by decide

/-! ## Controls -/

/-- `ensure_default`. -/
def ensureDefault (st : MockState) : MockState :=
  if st.inited then st
  else
    { current := Function.update st.current 0 50
      max := Function.update st.max 0 100
      fail := Function.update st.fail 0 0
      count := 1
      inited := true
      count_le := by decide }

/-- `mock_reset`; the two arrays are read below `n` only. -/
def mockReset (n : Int) (currents maxes : Nat → Int) (st : MockState) : MockState :=
  let n := if n < 0 then 0 else n.toNat
  { current := fun i ↦ if i < min n mockMaxDisplays then currents i else st.current i
    max := fun i ↦ if i < min n mockMaxDisplays then maxes i else st.max i
    fail := fun i ↦ if i < min n mockMaxDisplays then 0 else st.fail i
    count := min n mockMaxDisplays
    inited := true
    count_le := min_le_right _ _ }

/-- `mock_set_fail`. -/
def mockSetFail (index fail : Int) (st : MockState) : MockState :=
  { st with fail := fun i ↦ if index = i then fail else st.fail i }

/-- `mock_current`. -/
def mockCurrent (st : MockState) (index : Int) : Int :=
  if h : 0 ≤ index ∧ index < st.count then
    st.current ⟨index.toNat, by have := st.count_le; omega⟩
  else -1

/-! ## The backend -/

variable {A : Type}

/-- `list->info[i]`. -/
def mockInfo (i : Fin mockMaxDisplays) : DisplayInfo (Fin mockMaxDisplays) where
  dref := i
  vendorId := 0x1234
  productId := UInt32.ofNat (0x5678 + i)
  isBuiltin := false

/-- The list of the configured displays. -/
def mockList (st : MockState) : DisplayInfoList (Fin mockMaxDisplays) where
  info := List.ofFn fun i : Fin st.count ↦ mockInfo (i.castLE st.count_le)
  ct_lt := by
    have h : st.count ≤ 8 := st.count_le
    rw [List.length_ofFn]
    omega

/-- `ddc_implementation_get_display_info_list`. -/
def mockGetDisplayInfoList (alloc : A → Bool × A) (w : MockState × A) :
    Option (DisplayInfoList (Fin mockMaxDisplays)) × MockState × A :=
  let st := ensureDefault w.1
  if st.count = 0 then (none, st, w.2)
  else
    match alloc w.2 with
    | (false, a) => (none, st, a)
    | (true, a) =>
      match alloc a with
      | (false, a) => (none, st, a)
      | (true, a) => (some (mockList st), st, a)

/-- The value `ddc_implementation_get_non_table_vcp_value` returns for brightness. -/
def mockValue (st : MockState) (i : Fin mockMaxDisplays) : NonTableVcpValue where
  mh := hiByte (st.max i)
  ml := loByte (st.max i)
  sh := hiByte (st.current i)
  sl := loByte (st.current i)

/-- The assignment to `g_current[h->index]`. -/
def MockState.write (st : MockState) (i : Fin mockMaxDisplays) (value : Int) : MockState :=
  { st with current := Function.update st.current i value }

/-- `ddc_implementation_set_non_table_vcp_value`. -/
def mockSetNonTableVcpValue (i : Fin mockMaxDisplays) (featureCode hiByte loByte : UInt8)
    (w : MockState × A) : Bool × MockState × A :=
  if featureCode ≠ vcpBrightness then (false, w)
  else if w.1.fail i ≠ 0 then (false, w)
  else (true, w.1.write i (word hiByte loByte), w.2)

/-- The in-memory mock. -/
def inMemoryMock (alloc : A → Bool × A) :
    Implementation (MockState × A) (Fin mockMaxDisplays) (Fin mockMaxDisplays) where
  getDisplayInfoList := mockGetDisplayInfoList alloc
  freeDisplayInfoList _ w := w
  openDisplay r w := (some r, w)
  closeDisplay _ w := w
  getNonTableVcpValue h featureCode w :=
    (if featureCode ≠ vcpBrightness then none else some (mockValue w.1 h), w)
  setNonTableVcpValue := mockSetNonTableVcpValue
  calloc w := ((alloc w.2).1, w.1, (alloc w.2).2)

/-! ## Registers -/

theorem mockCurrent_of_lt {st : MockState} {i : Fin mockMaxDisplays} (h : i < st.count) :
    mockCurrent st i = st.current i :=
  dif_pos ⟨Int.natCast_nonneg _, Int.ofNat_lt.mpr h⟩

/-- What is read back depends on the set and the register alone. -/
theorem mockCurrent_congr {st st' : MockState} {i : Fin mockMaxDisplays}
    (hcount : st'.count = st.count) (h : st'.current i = st.current i) :
    mockCurrent st' i = mockCurrent st i := by
  by_cases hi : i < st.count
  · rw [mockCurrent_of_lt (hcount ▸ hi), mockCurrent_of_lt hi, h]
  · have hi' (st : MockState) (hi : ¬ i < st.count) : mockCurrent st i = -1 :=
      dif_neg fun h ↦ hi (Int.ofNat_lt.mp h.2)
    rw [hi' st hi, hi' st' (hcount ▸ hi)]

theorem mockCurrent_write_self {st : MockState} {i : Fin mockMaxDisplays} (h : i < st.count)
    (value : Int) : mockCurrent (st.write i value) i = value := by
  have hi : i < (st.write i value).count := h
  rw [mockCurrent_of_lt hi]
  exact Function.update_self i value st.current

theorem mockCurrent_write_of_ne {st : MockState} {i j : Fin mockMaxDisplays} (h : j ≠ i)
    (value : Int) : mockCurrent (st.write i value) j = mockCurrent st j := by
  refine mockCurrent_congr rfl ?_
  change Function.update st.current i value j = st.current j
  rw [Function.update_of_ne h]

/-! ## Configuration -/

theorem ensureDefault_of_inited {st : MockState} (h : st.inited = true) : ensureDefault st = st :=
  if_pos h

@[simp] theorem inited_ensureDefault (st : MockState) : (ensureDefault st).inited = true := by
  unfold ensureDefault
  split_ifs with h
  · exact h
  · rfl

@[simp] theorem ensureDefault_ensureDefault (st : MockState) :
    ensureDefault (ensureDefault st) = ensureDefault st :=
  ensureDefault_of_inited (inited_ensureDefault st)

/-- The registers of the configured displays, those of a test or the default one, hold 16-bit
values. -/
def MockState.Configured (st : MockState) : Prop :=
  ∀ i : Fin mockMaxDisplays, i < (ensureDefault st).count →
    (0 ≤ (ensureDefault st).current i ∧ (ensureDefault st).current i < 65536) ∧
      (0 ≤ (ensureDefault st).max i ∧ (ensureDefault st).max i < 65536)

theorem configured_iff {st : MockState} (h : st.inited = true) : st.Configured ↔
    ∀ i : Fin mockMaxDisplays, i < st.count →
      (0 ≤ st.current i ∧ st.current i < 65536) ∧ (0 ≤ st.max i ∧ st.max i < 65536) := by
  rw [MockState.Configured, ensureDefault_of_inited h]

theorem configured_ensureDefault {st : MockState} (h : st.Configured) :
    (ensureDefault st).Configured := by
  unfold MockState.Configured
  rwa [ensureDefault_ensureDefault]

/-- The default display is a configuration. -/
theorem configured_of_not_inited {st : MockState} (h : st.inited = false) : st.Configured := by
  intro i hi
  have hd : ensureDefault st = _ := if_neg (by rw [h]; decide)
  rw [hd] at hi ⊢
  obtain rfl : i = 0 := Fin.ext (Nat.lt_one_iff.mp hi)
  simp

/-- So is every reset to 16-bit values. -/
theorem configured_mockReset {n : Int} {currents maxes : Nat → Int}
    (h : ∀ i : Nat, (i : Int) < n →
      (0 ≤ currents i ∧ currents i < 65536) ∧ (0 ≤ maxes i ∧ maxes i < 65536))
    (st : MockState) : (mockReset n currents maxes st).Configured := by
  apply (configured_iff rfl).mpr
  intro i hi
  have hi' : (i : Nat) < min (if n < 0 then 0 else n.toNat) mockMaxDisplays := hi
  have hcur : (mockReset n currents maxes st).current i = currents i := if_pos hi'
  have hmax : (mockReset n currents maxes st).max i = maxes i := if_pos hi'
  rw [hcur, hmax]
  refine h i ?_
  split_ifs at hi' <;> omega

/-! ## The mock answers its registers -/

section Backend

variable (alloc : A → Bool × A)

/-- Asking for the list configures the default display, and allocates. -/
theorem mockGetDisplayInfoList_cases (w : MockState × A) : ∃ a,
    mockGetDisplayInfoList alloc w = (none, ensureDefault w.1, a) ∨
    mockGetDisplayInfoList alloc w =
      (some (mockList (ensureDefault w.1)), ensureDefault w.1, a) := by
  unfold mockGetDisplayInfoList
  dsimp only
  split_ifs
  · exact ⟨w.2, .inl rfl⟩
  · rcases alloc w.2 with ⟨_ | _, a⟩
    · exact ⟨a, .inl rfl⟩
    · rcases ha : alloc a with ⟨_ | _, a'⟩
      · exact ⟨a', .inl (by simp only [ha])⟩
      · exact ⟨a', .inr (by simp only [ha])⟩

/-- All that a call but the write does to the variables is to configure the default display. -/
theorem keeps_inMemoryMock {I : MockState → Prop} (hI : ∀ st, I st → I (ensureDefault st)) :
    (inMemoryMock alloc).Keeps fun w ↦ I w.1 where
  getDisplayInfoList {w} h := by
    change I (mockGetDisplayInfoList alloc w).2.1
    obtain ⟨a, he | he⟩ := mockGetDisplayInfoList_cases alloc w
    · rw [he]
      exact hI w.1 h
    · rw [he]
      exact hI w.1 h
  freeDisplayInfoList _ h := h
  openDisplay _ h := h
  closeDisplay _ h := h
  getNonTableVcpValue _ _ h := h
  calloc h := h

theorem attentive_inMemoryMock : Attentive (inMemoryMock alloc) id
    (fun w ↦ mockValue (ensureDefault w.1)) fun w ↦ w.1.inited = true where
  openDisplay _ _ := ⟨_, _, rfl, rfl⟩
  read _ _ := ⟨_, rfl⟩
  keeps := keeps_inMemoryMock alloc (I := fun st ↦ st.inited = true)
    fun st _ ↦ inited_ensureDefault st
  read_eq {w} h hw := by
    rw [ensureDefault_of_inited hw]
    rfl
  register_eq ρ := keeps_inMemoryMock alloc (I := fun st ↦ mockValue (ensureDefault st) = ρ)
    fun st h ↦ by rwa [ensureDefault_ensureDefault]

/-- The listed displays are the configured ones, each at the position of its index. -/
theorem mem_listed_inMemoryMock {w : MockState × A} {p : Nat × DisplayInfo (Fin mockMaxDisplays)}
    (h : p ∈ listed (inMemoryMock alloc) w) :
    ∃ i : Fin mockMaxDisplays, i < (ensureDefault w.1).count ∧ p = (↑i, mockInfo i) := by
  change p ∈ ((mockGetDisplayInfoList alloc w).1.map _).getD [] at h
  obtain ⟨a, hl | hl⟩ := mockGetDisplayInfoList_cases alloc w
  · rw [hl] at h
    cases h
  · rw [hl] at h
    obtain ⟨k, hk, hp⟩ := getElem?_of_mem_externalsFrom h
    obtain ⟨hlt, he⟩ := List.getElem?_eq_some_iff.mp hp
    have hcount : k < (ensureDefault w.1).count := by
      simpa [mockList, List.length_ofFn] using hlt
    refine ⟨⟨k, hcount.trans_le (ensureDefault w.1).count_le⟩, hcount, Prod.ext (by simp [hk]) ?_⟩
    rw [← he]
    exact List.getElem_ofFn ..

/-- An enumeration configures the default display before anything else. -/
theorem enumerate_ensureDefault (st : MockState) (a : A) :
    (ddcProvider (inMemoryMock alloc)).enumerate (ensureDefault st, a) =
      (ddcProvider (inMemoryMock alloc)).enumerate (st, a) := by
  have hlist : (inMemoryMock alloc).getDisplayInfoList (ensureDefault st, a) =
      (inMemoryMock alloc).getDisplayInfoList (st, a) := by
    change mockGetDisplayInfoList alloc (ensureDefault st, a) = mockGetDisplayInfoList alloc (st, a)
    unfold mockGetDisplayInfoList
    rw [ensureDefault_ensureDefault]
  change ddcEnumerateSources _ _ = ddcEnumerateSources _ _
  unfold ddcEnumerateSources
  rw [hlist]

/-- A write fails when the display was told to, and otherwise sets the register to the word the
two bytes make. -/
theorem set_inMemoryMock (s : BrightnessSource (Fin mockMaxDisplays)) (value : Int)
    (w : MockState × A) : (ddcProvider (inMemoryMock alloc)).set s value w =
      if w.1.fail s.ctx ≠ 0 then (false, w)
      else (true, w.1.write s.ctx (word (hiByte value) (loByte value)), w.2) := by
  change mockSetNonTableVcpValue s.ctx vcpBrightness _ _ w = _
  rw [mockSetNonTableVcpValue, if_neg (not_not.mpr rfl)]

end Backend

end Dimmit
