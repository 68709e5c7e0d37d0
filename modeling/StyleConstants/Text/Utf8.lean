/-!
# UTF-8

Texts as byte sequences. Reading stops at the first byte that no character can explain and says
where the character began and how many of its bytes were still possible, or that the bytes ended
inside a character. Where there has to be a text in any case, what spells no character is replaced
instead: a byte that starts none, or the bytes of one that does not go on.

* `Fault.message`: the wording of a fault.
* `parts`: the characters that bytes spell, and the bytes between them that spell none.
* `decodeLossy`: the text with replacements.
-/

namespace StyleConstants.Text.Utf8

/-- The bytes of a text. -/
def encode (text : List Char) : List UInt8 := text.flatMap String.utf8EncodeChar

/-- Why bytes are not a text: the index at which the unexplained character starts, and how many
bytes of it were possible, or none if more bytes could have completed it. -/
structure Fault where
  start : Nat
  possible : Option Nat
  deriving DecidableEq, Repr

/-- The wording of a fault. -/
def Fault.message (fault : Fault) : String :=
  match fault.possible with
  | some count => s!"invalid utf-8 sequence of {count} bytes from index {fault.start}"
  | none => s!"incomplete utf-8 byte sequence from index {fault.start}"

/-! ## Single characters -/

/-- The code point that comes of these bits if the bytes still owed add none. -/
def codeFrom (bits : Nat) : Nat → Nat
  | 0 => bits
  | owed + 1 => codeFrom (bits * 64) owed

theorem codeFrom_le_codeFrom {a b : Nat} (h : a ≤ b) : ∀ owed, codeFrom a owed ≤ codeFrom b owed
  | 0 => h
  | owed + 1 => codeFrom_le_codeFrom (Nat.mul_le_mul_right 64 h) owed

/-- A character of which some bytes are read: these bytes, the bits known so far, how many bytes
are owed, and the least and the greatest six bits that the next one may add. -/
structure Unfinished where
  bytes : List UInt8
  bits : Nat
  owed : Nat
  low : Nat
  high : Nat
  /-- No character below 128 comes of it. -/
  wide : 0x80 ≤ codeFrom (bits * 64 + low) (owed - 1)

/-- What a byte from 128 on announces; none if no character starts with it. The bounds keep
out overlong forms, surrogates and code points beyond U+10FFFF. -/
def Unfinished.announcedBy (byte : UInt8) : Option Unfinished :=
  let n := byte.toNat
  if h : 0xC2 ≤ n ∧ n ≤ 0xDF then some ⟨[byte], n - 0xC0, 1, 0, 0x3F, by simp [codeFrom]; omega⟩
  else if h : 0xE0 ≤ n ∧ n ≤ 0xEF then
    some ⟨[byte], n - 0xE0, 2, if n = 0xE0 then 0x20 else 0, if n = 0xED then 0x1F else 0x3F,
      by split <;> simp [codeFrom] <;> omega⟩
  else if h : 0xF0 ≤ n ∧ n ≤ 0xF4 then
    some ⟨[byte], n - 0xF0, 3, if n = 0xF0 then 0x10 else 0, if n = 0xF4 then 0x0F else 0x3F,
      by split <;> simp [codeFrom] <;> omega⟩
  else none

/-- What comes of the bytes of a character: all of it, or less. -/
inductive Step where
  | complete (c : Char)
  | unfinished (begun : Unfinished)

/-- The first byte of a character; none if no character starts with it. -/
def start? (byte : UInt8) : Option Step :=
  if byte.toNat < 0x80 then some (.complete (Char.ofNat byte.toNat))
  else (Unfinished.announcedBy byte).map .unfinished

theorem Unfinished.wide_next (begun : Unfinished) {payload : Nat} (hlow : begun.low ≤ payload) :
    0x80 ≤ codeFrom ((begun.bits * 64 + payload) * 64 + 0) (begun.owed - 1 - 1) := by
  refine Nat.le_trans begun.wide ?_
  have hbits : begun.bits * 64 + begun.low ≤ begun.bits * 64 + payload := Nat.add_le_add_left hlow _
  cases begun.owed - 1 with
  | zero => exact Nat.le_trans hbits (Nat.le_mul_of_pos_right _ (by decide))
  | succ owed => exact codeFrom_le_codeFrom (Nat.mul_le_mul_right 64 hbits) owed

/-- Six bits more of a character, taken from this byte; none if they cannot be the next ones. -/
def Unfinished.add? (begun : Unfinished) (byte : UInt8) (payload : Nat) : Option Step :=
  if h : begun.low ≤ payload ∧ payload ≤ begun.high then
    if begun.owed = 1 then some (.complete (Char.ofNat (begun.bits * 64 + payload)))
    else
      some (.unfinished ⟨begun.bytes ++ [byte], begun.bits * 64 + payload, begun.owed - 1, 0, 0x3F,
        begun.wide_next h.1⟩)
  else none

/-- One more byte of a character; none if the character does not go on with it. -/
def Unfinished.next? (begun : Unfinished) (byte : UInt8) : Option Step :=
  if byte.toNat < 0x80 then none else begun.add? byte (byte.toNat - 0x80)

/-! ## Texts -/

/-- Reads the bytes from index `index` on, in the middle of a character or between two. -/
def decodeFrom (index : Nat) : Option Unfinished → List UInt8 → Except Fault (List Char)
  | none, [] => .ok []
  | some begun, [] => .error ⟨index - begun.bytes.length, none⟩
  | none, byte :: rest =>
    match start? byte with
    | some (.complete c) => (decodeFrom (index + 1) none rest).map (c :: ·)
    | some (.unfinished begun) => decodeFrom (index + 1) (some begun) rest
    | none => .error ⟨index, some 1⟩
  | some begun, byte :: rest =>
    match begun.next? byte with
    | some (.complete c) => (decodeFrom (index + 1) none rest).map (c :: ·)
    | some (.unfinished more) => decodeFrom (index + 1) (some more) rest
    | none => .error ⟨index - begun.bytes.length, some begun.bytes.length⟩

/-- The text that the bytes spell. -/
def decode (bytes : List UInt8) : Except Fault (List Char) := decodeFrom 0 none bytes

/-! ## Texts with replacements -/

/-- A part of some bytes: a character, or bytes that spell none. -/
inductive Part where
  | char (c : Char)
  | stray (bytes : List UInt8)
  deriving DecidableEq, Repr

/-- The parts that end with a byte between two characters, and the character that it starts. -/
def startPart (byte : UInt8) : List Part × Option Unfinished :=
  match start? byte with
  | some (.complete c) => ([.char c], none)
  | some (.unfinished begun) => ([], some begun)
  | none => ([.stray [byte]], none)

/-- The parts that end with one more byte, and the character that is unfinished then. A byte with
which a character does not go on is read once more, as the first of another. -/
def nextParts : Option Unfinished → UInt8 → List Part × Option Unfinished
  | none, byte => startPart byte
  | some begun, byte =>
    match begun.next? byte with
    | some (.complete c) => ([.char c], none)
    | some (.unfinished more) => ([], some more)
    | none => (.stray begun.bytes :: (startPart byte).1, (startPart byte).2)

/-- The parts of the bytes, in the middle of a character or between two. -/
def partsFrom : Option Unfinished → List UInt8 → List Part
  | none, [] => []
  | some begun, [] => [.stray begun.bytes]
  | begun, byte :: rest => (nextParts begun byte).1 ++ partsFrom (nextParts begun byte).2 rest

/-- The parts of the bytes. -/
def parts (bytes : List UInt8) : List Part := partsFrom none bytes

/-- The character that stands for a part in a text. -/
def Part.shown : Part → Char
  | char c => c
  | stray _ => '\uFFFD'

/-- The text that the bytes spell, with one replacement character for each part that spells none. -/
def decodeLossy (bytes : List UInt8) : List Char := (parts bytes).map Part.shown

end StyleConstants.Text.Utf8
