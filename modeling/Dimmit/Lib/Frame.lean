import Mathlib.Data.List.Basic

/-!
# Length-prefixed frames with a parity byte

The frames of DDC/CI: the address of the source, a length byte whose top bit is set, that many
bytes of payload, and a byte that makes the exclusive or of the whole frame equal to the
address it is sent to.  The addresses are a parameter, one pair for each direction.

A receiver takes a frame off the front of what it has read, and `parse_eq_some_iff` says that
it accepts exactly the frames the sender makes.
-/

namespace Frame

/-- The exclusive or of some bytes, onto a first one. -/
def parity (init : UInt8) (data : List UInt8) : UInt8 := data.foldl (· ^^^ ·) init

/-- One direction of a bus: the address written in the frame and the one it is sent to. -/
structure Link where
  source : UInt8
  dest : UInt8

/-- The length byte of a payload. -/
def lengthByte (n : Nat) : UInt8 := 0x80 ||| UInt8.ofNat n

/-- The length a length byte announces. -/
def announced (length : UInt8) : Nat := (length &&& 0x7f).toNat

namespace Link

variable (l : Link)

/-- The frame of a payload. -/
def encode (payload : List UInt8) : List UInt8 :=
  let head := l.source :: lengthByte payload.length :: payload
  head ++ [parity l.dest head]

/-- Take a frame off the front: its payload and what follows it. -/
def parse : List UInt8 → Option (List UInt8 × List UInt8)
  | source :: length :: rest =>
    match rest.drop (announced length) with
    | check :: left =>
      let payload := rest.take (announced length)
      if source = l.source ∧ 0x80 ≤ length ∧
          parity l.dest (source :: length :: payload ++ [check]) = 0 then
        some (payload, left)
      else none
    | [] => none
  | _ => none

/-- The payload of a text that is a frame and nothing else. -/
def decode (text : List UInt8) : Option (List UInt8) :=
  match l.parse text with
  | some (payload, []) => some payload
  | _ => none

end Link

/-! ## Parity -/

theorem parity_append (init : UInt8) (data data' : List UInt8) :
    parity init (data ++ data') = parity (parity init data) data' := List.foldl_append

/-- The last byte clears the parity exactly when it equals that of the others. -/
theorem parity_concat_eq_zero_iff {init : UInt8} {data : List UInt8} {check : UInt8} :
    parity init (data ++ [check]) = 0 ↔ parity init data = check := by
  rw [parity_append]
  exact UInt8.xor_eq_zero_iff

/-! ## Lengths -/

theorem announced_lengthByte {n : Nat} (h : n < 0x80) :
    announced (lengthByte n) = n ∧ 0x80 ≤ lengthByte n := by
  revert n
  decide

/-- A byte with its top bit set is the length byte of what it announces. -/
theorem lengthByte_announced {length : UInt8} (h : 0x80 ≤ length) :
    announced length < 0x80 ∧ lengthByte (announced length) = length := by
  obtain ⟨n, hn, rfl⟩ : ∃ n < 0x100, length = UInt8.ofNat n :=
    ⟨length.toNat, length.toNat_lt, UInt8.ofNat_toNat.symm⟩
  revert n
  decide +kernel

/-! ## A receiver accepts what a sender makes -/

namespace Link

variable {l : Link} {text payload left : List UInt8}

/-- What a sender makes is accepted, whatever follows it. -/
theorem parse_encode_append (h : payload.length < 0x80) (left : List UInt8) :
    l.parse (l.encode payload ++ left) = some (payload, left) := by
  obtain ⟨hn, htop⟩ := announced_lengthByte h
  have hframe : l.encode payload ++ left = l.source :: lengthByte payload.length ::
      (payload ++ parity l.dest (l.source :: lengthByte payload.length :: payload) :: left) := by
    simp [encode]
  rw [hframe, parse]
  simp only [hn, List.drop_left, List.take_left]
  exact if_pos ⟨trivial, htop, parity_concat_eq_zero_iff.mpr rfl⟩

/-- What is accepted is what a sender makes, and what follows it. -/
theorem eq_encode_of_parse (h : l.parse text = some (payload, left)) :
    payload.length < 0x80 ∧ text = l.encode payload ++ left := by
  obtain _ | ⟨source, _ | ⟨length, rest⟩⟩ := text
  · cases h
  · cases h
  rw [parse] at h
  cases hd : rest.drop (announced length) with
  | nil =>
      simp only [hd] at h
      cases h
  | cons check tail =>
      simp only [hd] at h
      split_ifs at h with hok
      obtain ⟨rfl, htop, hpar⟩ := hok
      cases h
      obtain ⟨hn, hbyte⟩ := lengthByte_announced htop
      have hrest : rest.take (announced length) ++ check :: left = rest := by
        rw [← hd, List.take_append_drop]
      have hle : announced length ≤ rest.length := by
        by_contra hgt
        rw [List.drop_of_length_le (by omega)] at hd
        cases hd
      have htake : (rest.take (announced length)).length = announced length :=
        List.length_take_of_le hle
      refine ⟨Nat.lt_of_le_of_lt (Nat.le_of_eq htake) hn, ?_⟩
      rw [encode, htake, hbyte, parity_concat_eq_zero_iff.mp hpar, List.append_assoc]
      exact congrArg (l.source :: length :: ·) hrest.symm

/-- **A receiver accepts exactly what a sender makes.** -/
theorem parse_eq_some_iff :
    l.parse text = some (payload, left) ↔
      payload.length < 0x80 ∧ text = l.encode payload ++ left := by
  constructor
  · exact eq_encode_of_parse
  · rintro ⟨h, rfl⟩
    exact parse_encode_append h left

/-- What is accepted begins with the address of its sender. -/
theorem head?_of_parse (h : l.parse text = some (payload, left)) : text.head? = some l.source := by
  obtain ⟨-, rfl⟩ := eq_encode_of_parse h
  rfl

theorem decode_eq_some_iff :
    l.decode text = some payload ↔ payload.length < 0x80 ∧ text = l.encode payload := by
  have hparse : l.decode text = some payload ↔ l.parse text = some (payload, []) := by
    unfold decode
    split
    · rename_i payload' h
      rw [h]
      simp
    · rename_i hne
      constructor
      · intro h
        cases h
      · intro h
        exact absurd h (hne payload)
  rw [hparse, parse_eq_some_iff, List.append_nil]

end Link

end Frame
