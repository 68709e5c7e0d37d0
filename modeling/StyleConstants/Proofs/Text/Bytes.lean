import Mathlib.Data.List.Basic
import StyleConstants.Text.Utf8

/-!
# Places in the bytes of a text

A part that is looked for in the bytes of a text is found where it stands in the text, since no
byte of a character from 128 on is that of a character below: the bytes passed in front of it are
whole characters.

* `starts_of_encode`: the bytes of a text below 128 start only those texts that it starts.
* `byteIndex?_encode_append`, `byteIndex?_encode_cons`: the index by the characters in front.
* `takeBytes?_encode`: the characters that a number of bytes spells.
-/

namespace StyleConstants.Text

open Utf8 (encode)

/-- The index at which the bytes `part` first occur. -/
def byteIndex? (part : List UInt8) : List UInt8 → Option Nat
  | [] => if part.isEmpty then some 0 else none
  | byte :: bytes =>
    if part.isPrefixOf (byte :: bytes) then some 0 else (byteIndex? part bytes).map (· + 1)

/-- The characters that take the first `bytes` bytes of the text, unless one of them is cut. -/
def takeBytes? (bytes : Nat) : List Char → Option (List Char)
  | [] => if bytes = 0 then some [] else none
  | c :: text =>
    if bytes = 0 then some []
    else if c.utf8Size ≤ bytes then (takeBytes? (bytes - c.utf8Size) text).map (c :: ·)
    else none

theorem encode_cons (c : Char) (text : List Char) :
    encode (c :: text) = String.utf8EncodeChar c ++ encode text := rfl

/-- A character below 128 is a byte of its own, and no other has a byte below 128. -/
theorem utf8EncodeChar_cases (c : Char) :
    (c.toNat < 128 ∧ String.utf8EncodeChar c = [UInt8.ofNat c.toNat]) ∨
    (128 ≤ c.toNat ∧ ∀ byte ∈ String.utf8EncodeChar c, 128 ≤ byte.toNat) := by
  have hc : c.toNat = c.val.toNat := rfl
  rw [hc]
  unfold String.utf8EncodeChar
  dsimp only
  split
  · exact .inl ⟨by omega, rfl⟩
  · right
    refine ⟨by omega, ?_⟩
    split
    · simp only [List.mem_cons, List.not_mem_nil, or_false, forall_eq_or_imp, forall_eq,
        UInt8.toNat_ofNat']
      omega
    · split
      · simp only [List.mem_cons, List.not_mem_nil, or_false, forall_eq_or_imp, forall_eq,
          UInt8.toNat_ofNat']
        omega
      · simp only [List.mem_cons, List.not_mem_nil, or_false, forall_eq_or_imp, forall_eq,
          UInt8.toNat_ofNat']
        omega

theorem eq_of_ofNat_eq {a b : Char} (ha : a.toNat < 128) (hb : b.toNat < 128)
    (h : UInt8.ofNat a.toNat = UInt8.ofNat b.toNat) : a = b := by
  have hnat := congrArg UInt8.toNat h
  rw [UInt8.toNat_ofNat', UInt8.toNat_ofNat'] at hnat
  rw [← Char.ofNat_toNat a, ← Char.ofNat_toNat b]
  congr 1
  omega

section Index

variable {part text : List Char} (hascii : ∀ c ∈ part, c.toNat < 128)

include hascii

theorem starts_of_encode (h : encode part <+: encode text) : part <+: text := by
  induction part generalizing text with
  | nil => exact List.nil_prefix
  | cons a part ih =>
    obtain ⟨ha, hpart⟩ := List.forall_mem_cons.1 hascii
    have hbyte : String.utf8EncodeChar a = [UInt8.ofNat a.toNat] :=
      (utf8EncodeChar_cases a).elim And.right fun h => absurd h.1 (Nat.not_le_of_lt ha)
    rw [encode_cons, hbyte, List.singleton_append] at h
    cases text with
    | nil => exact absurd (List.prefix_nil.1 h) (List.cons_ne_nil _ _)
    | cons c text =>
      rw [encode_cons] at h
      rcases utf8EncodeChar_cases c with ⟨hc, hcbyte⟩ | ⟨hc, hbytes⟩
      · rw [hcbyte, List.singleton_append, List.cons_prefix_cons] at h
        rw [eq_of_ofNat_eq ha hc h.1, List.cons_prefix_cons]
        exact ⟨rfl, ih hpart h.2⟩
      · obtain ⟨byte, bytes, hcons⟩ :=
          List.exists_cons_of_ne_nil (String.utf8EncodeChar_ne_nil (c := c))
        have hfirst := hbytes byte (hcons ▸ List.mem_cons_self)
        rw [hcons, List.cons_append, List.cons_prefix_cons] at h
        rw [← h.1, UInt8.toNat_ofNat'] at hfirst
        omega

/-- Bytes from 128 on are passed. -/
theorem byteIndex?_append {front : List UInt8} (hne : part ≠ [])
    (hfront : ∀ byte ∈ front, 128 ≤ byte.toNat) (bytes : List UInt8) :
    byteIndex? (encode part) (front ++ bytes) =
      (byteIndex? (encode part) bytes).map (· + front.length) := by
  induction front with
  | nil => simp
  | cons byte front ih =>
    obtain ⟨hbyte, hrest⟩ := List.forall_mem_cons.1 hfront
    have hno : ¬ (encode part).isPrefixOf (byte :: (front ++ bytes)) = true := by
      obtain ⟨a, part, rfl⟩ := List.exists_cons_of_ne_nil hne
      have ha := hascii a List.mem_cons_self
      rcases utf8EncodeChar_cases a with ⟨_, habyte⟩ | ⟨hage, _⟩
      · rw [List.isPrefixOf_iff_prefix, encode_cons, habyte, List.singleton_append,
          List.cons_prefix_cons]
        rintro ⟨hsame, -⟩
        rw [← hsame, UInt8.toNat_ofNat'] at hbyte
        omega
      · omega
    rw [List.cons_append, byteIndex?, if_neg hno, ih hrest, Option.map_map]
    rfl

theorem byteIndex?_encode_cons {c : Char} (hne : part ≠ []) (h : ¬ part <+: c :: text) :
    byteIndex? (encode part) (encode (c :: text)) =
      (byteIndex? (encode part) (encode text)).map (· + c.utf8Size) := by
  have hno : ¬ (encode part).isPrefixOf (encode (c :: text)) = true := by
    rw [List.isPrefixOf_iff_prefix]
    exact fun hprefix => h (starts_of_encode hascii hprefix)
  rw [← String.length_utf8EncodeChar]
  rw [encode_cons] at hno ⊢
  rcases utf8EncodeChar_cases c with ⟨-, hbyte⟩ | ⟨-, hbytes⟩
  · rw [hbyte, List.singleton_append] at hno ⊢
    rw [byteIndex?, if_neg hno]
    rfl
  · exact byteIndex?_append hascii hne hbytes (encode text)

end Index

theorem byteIndex?_encode_append (part more : List Char) :
    byteIndex? (encode part) (encode (part ++ more)) = some 0 := by
  have hprefix : encode part <+: encode (part ++ more) := by
    rw [encode, encode, List.flatMap_append]
    exact List.prefix_append _ _
  generalize encode (part ++ more) = bytes at hprefix
  cases bytes with
  | nil => rw [List.prefix_nil.1 hprefix]; rfl
  | cons byte bytes => rw [byteIndex?, if_pos (List.isPrefixOf_iff_prefix.2 hprefix)]

theorem takeBytes?_encode (text more : List Char) :
    takeBytes? (encode text).length (text ++ more) = some text := by
  induction text with
  | nil => cases more <;> rfl
  | cons c text ih =>
    have hpos : 0 < c.utf8Size := Char.utf8Size_pos c
    have hlength : (encode (c :: text)).length = c.utf8Size + (encode text).length := by
      rw [encode_cons, List.length_append, String.length_utf8EncodeChar]
    rw [hlength, List.cons_append, takeBytes?, if_neg (by omega), if_pos (by omega),
      Nat.add_sub_cancel_left, ih]
    rfl

end StyleConstants.Text
