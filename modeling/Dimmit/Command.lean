import Dimmit.Brightness
import Dimmit.Lib.Delimited

/-!
# The wire commands

`command.c`: how the text a client sends becomes a direction.  `read_command` makes a single
`recv` on a stream socket, which may cut the text anywhere and may hand over more than a line;
`StreamSocket` is such a socket, with every way of cutting.
-/

namespace Dimmit

open Delimited

variable {W : Type}

/-- The bytes of a C string literal, without the terminator. -/
def bytes (text : CString) : List UInt8 := text.map fun c ↦ UInt8.ofNat c.toNat

/-- What a C string function reads of a buffer: the bytes before the first terminator. -/
def cstr (buf : List UInt8) : List UInt8 := before 0 buf

def newline : UInt8 := 0x0a

def upWord : List UInt8 := bytes ['u', 'p']
def downWord : List UInt8 := bytes ['d', 'o', 'w', 'n']

/-- `parse_command`. -/
def parseCommand (cmd : List UInt8) : Int :=
  if cstr cmd = upWord then 1 else if cstr cmd = downWord then -1 else 0

/-- What `read_command` leaves in `buf[0..n]` after the `n` bytes it received. -/
def commandBuffer (received : List UInt8) : List UInt8 :=
  let buf := received ++ [0]
  if buf[received.length - 1]? = some newline then buf.set (received.length - 1) 0 else buf

/-- `read_command`.  The call `recv` takes the size asked for and answers the bytes received,
none of them when the peer has closed, or `none` when it returns -1. -/
def readCommand (recv : Nat → W → Option (List UInt8) × W) (w : W) : Int × W :=
  match recv 15 w with
  | (none, w) => (0, w)
  | (some received, w) =>
    if received.length ≤ 0 then (0, w) else (parseCommand (commandBuffer received), w)

/-! ## The socket -/

/-- A stream socket whose peer sends bytes and closes: the pieces in which they arrive. -/
structure StreamSocket where
  pieces : List (List UInt8)
  pieces_ne : ∀ piece ∈ pieces, piece ≠ []

namespace StreamSocket

/-- The bytes the peer sends. -/
def stream (s : StreamSocket) : List UInt8 := s.pieces.flatten

/-- What the next `recv` of at most `size` bytes hands over. -/
def next (s : StreamSocket) (size : Nat) : List UInt8 := (s.pieces.headD []).take size

/-- `recv` on the socket: at most `size` bytes of the piece that has arrived, the rest of which
stays for the next call. -/
def recv (size : Nat) (s : StreamSocket) : Option (List UInt8) × StreamSocket :=
  (some (s.next size),
    match s with
    | ⟨[], h⟩ => ⟨[], h⟩
    | ⟨piece :: pieces, h⟩ =>
      if hrest : piece.drop size = [] then ⟨pieces, (List.forall_mem_cons.mp h).2⟩
      else ⟨piece.drop size :: pieces, List.forall_mem_cons.mpr
        ⟨hrest, (List.forall_mem_cons.mp h).2⟩⟩)

/-- No byte is lost or repeated. -/
theorem next_append_stream_recv (s : StreamSocket) (size : Nat) :
    s.next size ++ (s.recv size).2.stream = s.stream := by
  obtain ⟨_ | ⟨piece, pieces⟩, h⟩ := s
  · simp [next, stream, recv]
  · have hsplit : piece.take size ++ piece.drop size = piece := List.take_append_drop size piece
    change piece.take size ++ stream (dite _ _ _) = piece ++ pieces.flatten
    by_cases hrest : piece.drop size = []
    · rw [dif_pos hrest]
      rw [hrest, List.append_nil] at hsplit
      rw [hsplit]
      rfl
    · rw [dif_neg hrest]
      change piece.take size ++ (piece.drop size ++ pieces.flatten) = _
      rw [← List.append_assoc, hsplit]

theorem next_prefix (s : StreamSocket) (size : Nat) : s.next size <+: s.stream :=
  ⟨_, s.next_append_stream_recv size⟩

end StreamSocket

/-! ## What is recognised -/

/-- The first line of a text: all of it if no newline ends it. -/
def firstLine (text : List UInt8) : List UInt8 := before newline text

/-- The direction a line asks for. -/
def direction (line : List UInt8) : Int :=
  if line = upWord then 1 else if line = downWord then -1 else 0

/-- `received` reads as the command `word`. -/
def ReadsAs (word received : List UInt8) : Prop :=
  received = word ∨ received = word ++ [newline] ∨ word ++ [0] <+: received

/-- The command words, as far as the buffer is concerned. -/
structure CommandWord (word : List UInt8) : Prop where
  nonempty : word ≠ []
  zero_notMem : 0 ∉ word
  newline_notMem : newline ∉ word

theorem commandWord_upWord : CommandWord upWord := ⟨by decide, by decide, by decide⟩

theorem commandWord_downWord : CommandWord downWord := ⟨by decide, by decide, by decide⟩

/-- The buffer reads as what was received, without a newline at its end. -/
theorem cstr_commandBuffer_concat (line : List UInt8) (b : UInt8) :
    cstr (commandBuffer (line ++ [b])) =
      if b = newline then cstr line else cstr (line ++ [b]) := by
  have hlast : ((line ++ [b]) ++ [0])[(line ++ [b]).length - 1]? = some b := by simp
  unfold commandBuffer cstr
  simp only [hlast, Option.some.injEq]
  split_ifs with hb
  · have hset : ((line ++ [b]) ++ [0]).set ((line ++ [b]).length - 1) 0 = line ++ 0 :: [0] := by
      simp
    rw [hset, before_append_cons]
  · exact before_append_cons _ _

theorem cstr_commandBuffer_eq_iff {word : List UInt8} (hw : CommandWord word)
    (received : List UInt8) :
    cstr (commandBuffer received) = word ↔ ReadsAs word received := by
  rcases List.eq_nil_or_concat' received with rfl | ⟨line, b, rfl⟩
  · have hne := hw.nonempty
    have hcstr : cstr (commandBuffer []) = [] := rfl
    simp [hcstr, ReadsAs, hne.symm]
  rw [cstr_commandBuffer_concat]
  unfold cstr ReadsAs
  split_ifs with hb
  · subst hb
    rw [before_eq_iff hw.zero_notMem]
    constructor
    · rintro (rfl | hp)
      · exact .inr (.inl rfl)
      · exact .inr (.inr (hp.trans (List.prefix_append _ _)))
    · rintro (rfl | he | hp)
      · exact absurd List.mem_concat_self hw.newline_notMem
      · exact .inl (List.append_cancel_right he)
      · -- the word's terminator is not the newline that was cut off
        rcases List.prefix_concat_iff.mp hp with he | hp
        · exact absurd (List.append_inj_right' he rfl) (by decide)
        · exact .inr hp
  · rw [before_eq_iff hw.zero_notMem]
    constructor
    · rintro (rfl | hp)
      · exact .inl rfl
      · exact .inr (.inr hp)
    · rintro (rfl | he | hp)
      · exact .inl rfl
      · exact absurd (List.singleton_injective (List.append_inj_right' he rfl)) hb
      · exact .inr hp

/-- `read_command` takes the direction of what the one result of `recv` reads as. -/
theorem readCommand_fst (s : StreamSocket) :
    (readCommand StreamSocket.recv s).1 = direction (cstr (commandBuffer (s.next 15))) := by
  change (ite _ _ _ : Int × StreamSocket).1 = _
  split_ifs with h
  · rw [List.eq_nil_of_length_eq_zero (Nat.le_zero.mp h)]
    rfl
  · rfl

/-- Two lines ask for the same direction when they agree on being a command word. -/
theorem direction_eq_direction_iff (line line' : List UInt8) :
    direction line = direction line' ↔
      (line = upWord ↔ line' = upWord) ∧ (line = downWord ↔ line' = downWord) := by
  have hne : upWord ≠ downWord := by decide
  unfold direction
  split_ifs <;> simp_all

/-! ## One `recv` and one line -/

/-- The first result of `recv` ends where the first line of the text does, with or without the
newline, when that line is the command `word`; and it does not pass for `word` when the line is
another. -/
structure CutAtLine (word text received : List UInt8) : Prop where
  whole : firstLine text = word → received = word ∨ received = word ++ [newline]
  other : firstLine text ≠ word → received ≠ word ∧ ¬ word ++ [0] <+: received

/-- The cut decides whether the word is recognised where it should be. -/
theorem cutAtLine_iff {word text received : List UInt8} (hw : CommandWord word)
    (hp : received <+: text) :
    CutAtLine word text received ↔ (ReadsAs word received ↔ firstLine text = word) := by
  have hline : firstLine text = word ↔ text = word ∨ word ++ [newline] <+: text :=
    before_eq_iff hw.newline_notMem
  -- a word with its terminator is not the first line, and one with its newline is
  have hterm : firstLine text = word → ¬ word ++ [0] <+: received := by
    intro he hr
    rcases hline.mp he with he | hn
    · have hlong : (word ++ [0]).length ≤ word.length := he ▸ (hr.trans hp).length_le
      rw [List.length_append, List.length_singleton] at hlong
      exact absurd hlong (Nat.not_succ_le_self _)
    · exact not_prefix_of_ne (by decide) hn (hr.trans hp)
  have hnew : received = word ++ [newline] → firstLine text = word := by
    rintro rfl
    exact hline.mpr (.inr hp)
  constructor
  · intro h
    constructor
    · intro hr
      by_contra hne
      obtain ⟨hne', hterm'⟩ := h.other hne
      rcases hr with hr | hr | hr
      · exact hne' hr
      · exact hne (hnew hr)
      · exact hterm' hr
    · intro he
      exact (h.whole he).imp_right .inl
  · intro h
    constructor
    · intro he
      rcases h.mpr he with hr | hr | hr
      · exact .inl hr
      · exact .inr hr
      · exact absurd hr (hterm he)
    · intro hne
      exact ⟨fun hr ↦ hne (h.mp (.inl hr)), fun hr ↦ hne (h.mp (.inr (.inr hr)))⟩

/-- **One `recv` is one line only if the network cuts it so.**

`read_command` answers for the first line the client sent, for every stream and every way of
cutting it, exactly when its single `recv` ends at the end of that line where the line is a
command, and does not pass for a command where it is not. -/
theorem readCommand_of_firstLine_iff (s : StreamSocket) :
    (readCommand StreamSocket.recv s).1 = direction (firstLine s.stream) ↔
      CutAtLine upWord s.stream (s.next 15) ∧ CutAtLine downWord s.stream (s.next 15) := by
  rw [cutAtLine_iff commandWord_upWord (s.next_prefix 15),
    cutAtLine_iff commandWord_downWord (s.next_prefix 15),
    ← cstr_commandBuffer_eq_iff commandWord_upWord,
    ← cstr_commandBuffer_eq_iff commandWord_downWord, readCommand_fst]
  exact direction_eq_direction_iff _ _

/-- A client that sends two commands, which arrive together. -/
def twoCommands : StreamSocket :=
  ⟨[bytes ['u', 'p', '\n', 'd', 'o', 'w', 'n', '\n']], by decide⟩

/-- Two commands that arrive together are none. -/
theorem readCommand_twoCommands : (readCommand StreamSocket.recv twoCommands).1 = 0 ∧
    direction (firstLine twoCommands.stream) = 1 :=
  ⟨by decide, by decide⟩

end Dimmit
