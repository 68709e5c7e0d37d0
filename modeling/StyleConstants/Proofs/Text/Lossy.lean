import StyleConstants.Path.Basic
import StyleConstants.Proofs.Text.Bytes

/-!
# Texts with replacements

Bytes that spell a text are cut into its characters, so nothing is replaced. Other bytes are cut at
least at each byte below 128, for no longer character holds such a byte and none is replaced by it:
the characters below 128 of the text are those of the bytes.

* `decodeLossy_encode`: a text is read back from its bytes.
* `decodeLossy_append_cons`: a byte below 128 stands between two texts that are read apart.
* `mem_of_mem_decodeLossy`: a character below 128 stands for a byte of its own.
* `Path.text?_eq_some_iff`: the text that spells a path is the one that it was made of.
-/

namespace StyleConstants.Text.Utf8

variable {bytes front rest : List UInt8} {byte : UInt8} {begun : Unfinished} {text : List Char}
  {c : Char}

theorem partsFrom_cons (state : Option Unfinished) (byte : UInt8) (rest : List UInt8) :
    partsFrom state (byte :: rest) =
      (nextParts state byte).1 ++ partsFrom (nextParts state byte).2 rest := by
  cases state <;> rfl

/-! ## Characters of several bytes -/

/-- The character has these bits, owes so many bytes, and goes on with this payload. -/
def Unfinished.Awaits (begun : Unfinished) (bits owed payload : Nat) : Prop :=
  begun.bits = bits ∧ begun.owed = owed ∧ begun.low ≤ payload ∧ payload ≤ begun.high

/-- The byte that goes on with a character by these six bits. -/
def continuation (payload : Nat) : UInt8 := UInt8.ofNat (payload + 128)

theorem toNat_continuation {payload : Nat} (h : payload < 64) :
    (continuation payload).toNat = payload + 128 := by
  rw [continuation, UInt8.toNat_ofNat']
  omega

theorem next?_continuation {payload : Nat} (begun : Unfinished) (hpayload : payload < 64) :
    begun.next? (continuation payload) = begun.add? (continuation payload) payload := by
  rw [Unfinished.next?, toNat_continuation hpayload, if_neg (by omega), Nat.add_sub_cancel]

/-- The last byte of a character. -/
theorem partsFrom_complete {bits payload : Nat} (h : begun.Awaits bits 1 payload)
    (hpayload : payload < 64) (rest : List UInt8) :
    partsFrom (some begun) (continuation payload :: rest) =
      .char (Char.ofNat (bits * 64 + payload)) :: partsFrom none rest := by
  obtain ⟨rfl, howed, hrange⟩ := h
  have hnext : begun.next? (continuation payload) =
      some (.complete (Char.ofNat (begun.bits * 64 + payload))) := by
    rw [next?_continuation begun hpayload, Unfinished.add?, dif_pos hrange, if_pos howed]
  rw [partsFrom_cons, nextParts, hnext]
  rfl

/-- A byte of a character that owes more. -/
theorem partsFrom_continue {bits owed payload next : Nat} (h : begun.Awaits bits (owed + 2) payload)
    (hpayload : payload < 64) (hnext : next < 64) : ∃ more : Unfinished,
      more.Awaits (bits * 64 + payload) (owed + 1) next ∧ ∀ rest,
        partsFrom (some begun) (continuation payload :: rest) = partsFrom (some more) rest := by
  obtain ⟨rfl, howed, hrange⟩ := h
  have hone : begun.owed ≠ 1 := by omega
  let more : Unfinished := ⟨begun.bytes ++ [continuation payload], begun.bits * 64 + payload,
    begun.owed - 1, 0, 0x3F, begun.wide_next hrange.1⟩
  have hmore : begun.next? (continuation payload) = some (.unfinished more) := by
    rw [next?_continuation begun hpayload, Unfinished.add?, dif_pos hrange, if_neg hone]
  have howes : more.owed = owed + 1 := congrArg (· - 1) howed
  refine ⟨more, ⟨rfl, howes, Nat.zero_le _, Nat.le_of_lt_succ hnext⟩, fun rest => ?_⟩
  rw [partsFrom_cons, nextParts, hmore]
  rfl

/-- The first byte of a character that owes more. -/
theorem partsFrom_announced (hbyte : 0x80 ≤ byte.toNat)
    (h : Unfinished.announcedBy byte = some begun) (rest : List UInt8) :
    partsFrom none (byte :: rest) = partsFrom (some begun) rest := by
  have hstart : start? byte = some (.unfinished begun) := by
    rw [start?, if_neg (Nat.not_lt.2 hbyte), h]
    rfl
  rw [partsFrom_cons, nextParts, startPart, hstart]
  rfl

section Lead

variable {lead first : Nat} (hfirst : first < 64)

include hfirst

theorem exists_announced_two (hlead : 2 ≤ lead ∧ lead < 32) : ∃ begun : Unfinished,
    begun.Awaits lead 1 first ∧
      ∀ rest, partsFrom none (UInt8.ofNat (lead + 192) :: rest) = partsFrom (some begun) rest := by
  have hnat : (UInt8.ofNat (lead + 192)).toNat = lead + 192 := by
    rw [UInt8.toNat_ofNat']
    omega
  refine ⟨_, ⟨?_, rfl, Nat.zero_le _, Nat.le_of_lt_succ hfirst⟩,
    partsFrom_announced (by omega) (dif_pos (by omega))⟩
  dsimp only
  omega

theorem exists_announced_three (hlead : lead < 16) (hwide : lead = 0 → 0x20 ≤ first)
    (hscalar : lead = 0xD → first < 0x20) : ∃ begun : Unfinished, begun.Awaits lead 2 first ∧
      ∀ rest, partsFrom none (UInt8.ofNat (lead + 224) :: rest) = partsFrom (some begun) rest := by
  have hnat : (UInt8.ofNat (lead + 224)).toNat = lead + 224 := by
    rw [UInt8.toNat_ofNat']
    omega
  refine ⟨_, ⟨?_, rfl, ?_⟩, partsFrom_announced (by omega)
    ((dif_neg (by omega)).trans (dif_pos (by omega)))⟩
  · dsimp only
    omega
  · dsimp only
    constructor <;> split <;> omega

theorem exists_announced_four (hlead : lead < 5) (hwide : lead = 0 → 0x10 ≤ first)
    (hscalar : lead = 4 → first < 0x10) : ∃ begun : Unfinished, begun.Awaits lead 3 first ∧
      ∀ rest, partsFrom none (UInt8.ofNat (lead + 240) :: rest) = partsFrom (some begun) rest := by
  have hnat : (UInt8.ofNat (lead + 240)).toNat = lead + 240 := by
    rw [UInt8.toNat_ofNat']
    omega
  refine ⟨_, ⟨?_, rfl, ?_⟩, partsFrom_announced (by omega)
    ((dif_neg (by omega)).trans ((dif_neg (by omega)).trans (dif_pos (by omega))))⟩
  · dsimp only
    omega
  · dsimp only
    constructor <;> split <;> omega

end Lead

/-! ## Texts are read back -/

/-- A character is read back from its bytes, whatever follows. -/
theorem partsFrom_utf8EncodeChar (c : Char) (rest : List UInt8) :
    partsFrom none (String.utf8EncodeChar c ++ rest) = .char c :: partsFrom none rest := by
  have hscalar : c.val.toNat < 0xD800 ∨ 0xDFFF < c.val.toNat ∧ c.val.toNat < 0x110000 := c.valid
  have hchar : Char.ofNat c.val.toNat = c := Char.ofNat_toNat c
  unfold String.utf8EncodeChar
  dsimp only
  generalize c.val.toNat = n at hscalar hchar
  subst hchar
  have hlast : n % 64 < 64 := Nat.mod_lt n (by decide)
  -- One case for each width. The first payload is in the range that the lead byte allows, since
  -- shorter characters were split off and surrogates are none.
  split
  · have hbyte : (UInt8.ofNat n).toNat = n := by
      rw [UInt8.toNat_ofNat']
      omega
    rw [List.singleton_append, partsFrom_cons, nextParts, startPart, start?, hbyte,
      if_pos (by omega)]
    rfl
  · split
    · obtain ⟨begun, hbegun, hstart⟩ := @exists_announced_two (n / 64 % 32) _ hlast (by omega)
      have hbits : n / 64 % 32 * 64 + n % 64 = n := by omega
      have hparts := partsFrom_complete hbegun hlast rest
      rw [hbits] at hparts
      exact (hstart _).trans hparts
    · have hmiddle : n / 64 % 64 < 64 := Nat.mod_lt _ (by decide)
      split
      · obtain ⟨begun, hbegun, hstart⟩ := @exists_announced_three (n / 4096 % 16) _ hmiddle
          (by omega) (by omega) (by omega)
        obtain ⟨more, hmore, hnext⟩ := partsFrom_continue hbegun hmiddle hlast
        have hbits : (n / 4096 % 16 * 64 + n / 64 % 64) * 64 + n % 64 = n := by omega
        have hparts := partsFrom_complete hmore hlast rest
        rw [hbits] at hparts
        exact (hstart _).trans ((hnext _).trans hparts)
      · have hupper : n / 4096 % 64 < 64 := Nat.mod_lt _ (by decide)
        obtain ⟨begun, hbegun, hstart⟩ := @exists_announced_four (n / 262144 % 8) _ hupper
          (by omega) (by omega) (by omega)
        obtain ⟨more, hmore, hnext⟩ := partsFrom_continue hbegun hupper hmiddle
        obtain ⟨most, hmost, hthen⟩ := partsFrom_continue hmore hmiddle hlast
        have hbits : ((n / 262144 % 8 * 64 + n / 4096 % 64) * 64 + n / 64 % 64) * 64 + n % 64 =
            n := by omega
        have hparts := partsFrom_complete hmost hlast rest
        rw [hbits] at hparts
        exact (hstart _).trans ((hnext _).trans ((hthen _).trans hparts))

theorem parts_encode_append (text : List Char) (rest : List UInt8) :
    parts (encode text ++ rest) = text.map .char ++ parts rest := by
  induction text with
  | nil => rfl
  | cons c text ih =>
    rw [encode_cons, List.append_assoc, parts, partsFrom_utf8EncodeChar]
    exact congrArg (Part.char c :: ·) ih

@[simp] theorem decodeLossy_encode (text : List Char) : decodeLossy (encode text) = text := by
  have hparts := parts_encode_append text []
  rw [List.append_nil] at hparts
  rw [decodeLossy, hparts, List.map_append, List.map_map]
  exact (List.append_nil _).trans (List.map_id _)

/-! ## Bytes below 128 -/

/-- A byte below 128 stands for a character of its own. -/
theorem mem_of_mem_encode (hc : c.toNat < 0x80) (h : UInt8.ofNat c.toNat ∈ encode text) :
    c ∈ text := by
  obtain ⟨d, hd, hbyte⟩ := List.mem_flatMap.1 h
  rcases utf8EncodeChar_cases d with ⟨hlow, hbytes⟩ | ⟨-, hbytes⟩
  · rw [hbytes, List.mem_singleton] at hbyte
    rwa [eq_of_ofNat_eq hc hlow hbyte]
  · have hhigh := hbytes _ hbyte
    rw [UInt8.toNat_ofNat'] at hhigh
    omega

/-- A byte between two characters is one of its own, starts none, or announces one. -/
theorem startPart_cases (byte : UInt8) :
    (byte.toNat < 0x80 ∧ startPart byte = ([.char (Char.ofNat byte.toNat)], none)) ∨
      startPart byte = ([.stray [byte]], none) ∨ ∃ begun, startPart byte = ([], some begun) := by
  unfold startPart start?
  by_cases hbyte : byte.toNat < 0x80
  · rw [if_pos hbyte]
    exact .inl ⟨hbyte, rfl⟩
  · rw [if_neg hbyte]
    cases Unfinished.announcedBy byte with
    | none => exact .inr (.inl rfl)
    | some begun => exact .inr (.inr ⟨begun, rfl⟩)

theorem startPart_ascii (hbyte : byte.toNat < 0x80) :
    startPart byte = ([.char (Char.ofNat byte.toNat)], none) := by
  rw [startPart, start?, if_pos hbyte]

/-- A byte below 128 ends whatever stands before it. -/
theorem partsFrom_append_cons (hbyte : byte.toNat < 0x80) (state : Option Unfinished)
    (front rest : List UInt8) : partsFrom state (front ++ byte :: rest) =
      partsFrom state front ++ .char (Char.ofNat byte.toNat) :: partsFrom none rest := by
  induction front generalizing state with
  | nil =>
    rw [List.nil_append, partsFrom_cons]
    -- An unfinished character does not go on with the byte, which is then read once more.
    cases state with
    | none => rw [nextParts, startPart_ascii hbyte]; rfl
    | some begun =>
      have hnext : begun.next? byte = none := if_pos hbyte
      rw [nextParts, hnext, startPart_ascii hbyte]
      rfl
  | cons first front ih =>
    rw [List.cons_append, partsFrom_cons, partsFrom_cons, ih, List.append_assoc]

theorem decodeLossy_append_cons (hbyte : byte.toNat < 0x80) (front rest : List UInt8) :
    decodeLossy (front ++ byte :: rest) =
      decodeLossy front ++ Char.ofNat byte.toNat :: decodeLossy rest := by
  rw [decodeLossy, parts, partsFrom_append_cons hbyte, List.map_append, List.map_cons]
  rfl

theorem toNat_ofNat_eq_or (n : Nat) : (Char.ofNat n).toNat = n ∨ (Char.ofNat n).toNat = 0 := by
  by_cases h : n.isValidChar
  · exact .inl (congrArg Char.toNat (dif_pos h))
  · exact .inr (congrArg Char.toNat (dif_neg h))

section Low

variable (hc : 0 < c.toNat ∧ c.toNat < 0x80)

include hc

theorem eq_of_mem_startPart (h : .char c ∈ (startPart byte).1) : UInt8.ofNat c.toNat = byte := by
  rcases startPart_cases byte with ⟨-, hstart⟩ | hstart | ⟨begun, hstart⟩
  · rw [hstart] at h
    obtain rfl := Part.char.inj (List.mem_singleton.1 h)
    rcases toNat_ofNat_eq_or byte.toNat with hsame | hzero
    · rw [hsame, UInt8.ofNat_toNat]
    · omega
  · rw [hstart] at h
    cases List.mem_singleton.1 h
  · rw [hstart] at h
    cases h

/-- What is completed by a further byte is a character from 128 on. -/
theorem next?_ne_complete : begun.next? byte ≠ some (.complete c) := by
  intro h
  unfold Unfinished.next? Unfinished.add? at h
  split at h
  · cases h
  · split at h
    · rename_i hrange
      split at h
      · rename_i howed
        obtain rfl := Step.complete.inj (Option.some.inj h)
        have hwide := begun.wide
        rw [howed, Nat.sub_self, codeFrom] at hwide
        rcases toNat_ofNat_eq_or (begun.bits * 64 + (byte.toNat - 0x80)) with h | h <;> omega
      · cases h
    · cases h

theorem eq_of_mem_nextParts {state : Option Unfinished} (h : .char c ∈ (nextParts state byte).1) :
    UInt8.ofNat c.toNat = byte := by
  cases state with
  | none => exact eq_of_mem_startPart hc h
  | some begun =>
    rw [nextParts] at h
    split at h
    · rename_i whole hnext
      obtain rfl := Part.char.inj (List.mem_singleton.1 h)
      exact absurd hnext (next?_ne_complete hc)
    · cases h
    · rcases List.mem_cons.1 h with hstray | h
      · cases hstray
      · exact eq_of_mem_startPart hc h

theorem mem_of_mem_partsFrom {state : Option Unfinished} (h : .char c ∈ partsFrom state bytes) :
    UInt8.ofNat c.toNat ∈ bytes := by
  induction bytes generalizing state with
  | nil =>
    cases state with
    | none => cases h
    | some begun => cases List.mem_singleton.1 h
  | cons byte bytes ih =>
    rw [partsFrom_cons, List.mem_append] at h
    rcases h with h | h
    · exact eq_of_mem_nextParts hc h ▸ List.mem_cons_self
    · exact List.mem_cons_of_mem byte (ih h)

/-- A character below 128 stands for a byte of its own. -/
theorem mem_of_mem_decodeLossy (h : c ∈ decodeLossy bytes) : UInt8.ofNat c.toNat ∈ bytes := by
  obtain ⟨part, hpart, rfl⟩ := List.mem_map.1 h
  cases part with
  | char c => exact mem_of_mem_partsFrom hc hpart
  | stray stray => exact absurd hc.2 (show ¬ '\uFFFD'.toNat < 0x80 by decide)

/-- What is unfinished comes to a character from 128 on, or is replaced. -/
theorem head?_partsFrom_ne (begun : Unfinished) (bytes : List UInt8) :
    (partsFrom (some begun) bytes).head? ≠ some (.char c) := by
  induction bytes generalizing begun with
  | nil => nofun
  | cons byte bytes ih =>
    rw [partsFrom_cons, nextParts]
    split
    · rename_i whole hnext
      rintro ⟨⟩
      exact next?_ne_complete hc hnext
    · exact ih _
    · nofun

/-- A text starts with a character below 128 if its bytes start with that of the character. -/
theorem head?_decodeLossy_iff :
    (decodeLossy bytes).head? = some c ↔ bytes.head? = some (UInt8.ofNat c.toNat) := by
  constructor
  · intro h
    cases bytes with
    | nil => cases h
    | cons byte bytes =>
      have hshown : ((parts (byte :: bytes)).map Part.shown).head? = some c := h
      rw [List.head?_map, Option.map_eq_some_iff] at hshown
      obtain ⟨part, hpart, rfl⟩ := hshown
      cases part with
      | stray stray => exact absurd hc.2 (show ¬ '\uFFFD'.toNat < 0x80 by decide)
      | char c =>
        rw [parts, partsFrom_cons, nextParts] at hpart
        rcases startPart_cases byte with ⟨-, hstart⟩ | hstart | ⟨begun, hstart⟩
        · have hfirst : .char c ∈ (startPart byte).1 := by
            rw [hstart] at hpart ⊢
            exact List.mem_singleton.2 (Option.some.inj hpart).symm
          exact congrArg some (eq_of_mem_startPart hc hfirst).symm
        · rw [hstart] at hpart
          cases hpart
        · rw [hstart] at hpart
          exact absurd hpart (head?_partsFrom_ne hc begun bytes)
  · intro h
    cases bytes with
    | nil => cases h
    | cons byte bytes =>
      cases h
      have hbyte : (UInt8.ofNat c.toNat).toNat = c.toNat := by
        rw [UInt8.toNat_ofNat']
        omega
      have hchar : Char.ofNat (UInt8.ofNat c.toNat).toNat = c := by
        rw [hbyte, Char.ofNat_toNat]
      have hshown := decodeLossy_append_cons (hbyte ▸ hc.2) [] bytes
      rw [hchar] at hshown
      exact congrArg List.head? hshown

end Low

end StyleConstants.Text.Utf8

/-! ## Paths that a text spells -/

namespace StyleConstants.Path

@[simp] theorem text_ofText (text : String) : (ofText text).text = text := by
  rw [Path.text, ofText, Text.Utf8.decodeLossy_encode, String.ofList_toList]

@[simp] theorem ofText_inj {a b : String} : ofText a = ofText b ↔ a = b :=
  ⟨fun h => by rw [← text_ofText a, h, text_ofText], congrArg ofText⟩

theorem text?_eq_some_iff {path : Path} {text : String} :
    path.text? = some text ↔ ofText text = path := by
  rw [text?, Option.ite_none_right_eq_some]
  constructor
  · rintro ⟨hspelled, htext⟩
    rwa [← Option.some.inj htext]
  · rintro rfl
    rw [text_ofText]
    exact ⟨rfl, rfl⟩

end StyleConstants.Path
