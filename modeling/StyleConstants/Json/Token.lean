import StyleConstants.Json.Number
import StyleConstants.Text.Hex

/-!
# The tokens of a JSON text

* `Token.next_lt`: a token takes at least one character, so a text has finitely many.
-/

namespace StyleConstants.Json

/-- A token. Strings are tokens of their own, since they also name the fields of objects. -/
inductive Token where
  | openArray
  | closeArray
  | openObject
  | closeObject
  | comma
  | colon
  | text (value : String)
  /-- A number or one of the three words. -/
  | scalar (value : Json)

/-- A piece of a string: a character, or the sixteen bits of an escape. -/
inductive Piece where
  | char (c : Char)
  | code (bits : Nat)
  deriving DecidableEq, Repr

/-- The character that a backslash and this letter stand for. -/
def escaped? : Char → Option Char
  | '"' => some '"'
  | '\\' => some '\\'
  | '/' => some '/'
  | 'b' => some '\x08'
  | 'f' => some '\x0c'
  | 'n' => some '\n'
  | 'r' => some '\r'
  | 't' => some '\t'
  | _ => none

/-- The pieces of a string up to its closing quote, and what follows it. -/
def readPieces : List Char → Option (List Piece × List Char)
  | [] => none
  | '"' :: rest => some ([], rest)
  | '\\' :: 'u' :: a :: b :: c :: d :: rest =>
    match Text.hexNumber? [a, b, c, d], readPieces rest with
    | some bits, some (pieces, after) => some (.code bits :: pieces, after)
    | _, _ => none
  | '\\' :: c :: rest =>
    match escaped? c, readPieces rest with
    | some e, some (pieces, after) => some (.char e :: pieces, after)
    | _, _ => none
  | c :: rest =>
    if c.toNat < 0x20 then none
    else
      match readPieces rest with
      | some (pieces, after) => some (.char c :: pieces, after)
      | none => none

/-- The text that the pieces spell. Sixteen-bit halves of a character come in pairs. -/
def joinPieces : List Piece → Option (List Char)
  | [] => some []
  | .char c :: rest => (joinPieces rest).map (c :: ·)
  | .code high :: rest =>
    if 0xD800 ≤ high ∧ high < 0xDC00 then
      match rest with
      | .code low :: rest =>
        if 0xDC00 ≤ low ∧ low < 0xE000 then
          (joinPieces rest).map
            (Char.ofNat (0x10000 + (high - 0xD800) * 0x400 + (low - 0xDC00)) :: ·)
        else none
      | _ => none
    else if 0xDC00 ≤ high ∧ high < 0xE000 then none
    else (joinPieces rest).map (Char.ofNat high :: ·)

/-- The digits at the start of the text, if there are any, and what follows them. -/
def readDigits (text : List Char) : Option (List Char × List Char) :=
  match text.takeWhile Char.isDigit with
  | [] => none
  | digits => some (digits, text.dropWhile Char.isDigit)

/-- The digits after a point, if a point comes next. -/
def readFraction : List Char → Option (Option (List Char) × List Char)
  | '.' :: rest => (readDigits rest).map fun (digits, after) => (some digits, after)
  | text => some (none, text)

/-- What follows the sign of an exponent, and whether the sign is a minus. -/
def readSign : List Char → Bool × List Char
  | '+' :: rest => (false, rest)
  | '-' :: rest => (true, rest)
  | text => (false, text)

/-- The exponent, if the letter of one comes next. -/
def readExponent : List Char → Option (Option (Bool × List Char) × List Char)
  | [] => some (none, [])
  | c :: rest =>
    if c = 'e' ∨ c = 'E' then
      let (negative, digits) := readSign rest
      (readDigits digits).map fun (digits, after) => (some (negative, digits), after)
    else some (none, c :: rest)

/-- The number at the start of the text. A leading zero stands alone before the point. -/
def readNumeral (negative : Bool) (text : List Char) : Option (Numeral × List Char) :=
  match readDigits text with
  | none => none
  | some (whole, rest) =>
    if whole.head? = some '0' ∧ 1 < whole.length then none
    else
      match readFraction rest with
      | none => none
      | some (fraction, rest) =>
        (readExponent rest).map fun (exponent, after) =>
          (⟨negative, whole, fraction, exponent⟩, after)

/-- What follows the word, if the text starts with it. -/
def readWord (word text : List Char) : Option (List Char) :=
  if word.isPrefixOf text then some (text.drop word.length) else none

/-- The number as a token. -/
def numberToken (read : Option (Numeral × List Char)) : Option (Token × List Char) :=
  match read with
  | some (numeral, rest) => numeral.value?.map fun value => (.scalar value, rest)
  | none => none

/-- The token at the start of a text that starts with no blank, and what follows it. -/
def Token.next : List Char → Option (Token × List Char)
  | [] => none
  | '[' :: rest => some (openArray, rest)
  | ']' :: rest => some (closeArray, rest)
  | '\x7b' :: rest => some (openObject, rest)
  | '\x7d' :: rest => some (closeObject, rest)
  | ',' :: rest => some (comma, rest)
  | ':' :: rest => some (colon, rest)
  | '"' :: rest =>
    match readPieces rest with
    | some (pieces, after) =>
      (joinPieces pieces).map fun chars => (text (String.ofList chars), after)
    | none => none
  | '-' :: rest => numberToken (readNumeral true rest)
  | 'n' :: rest => (readWord "ull".toList rest).map (scalar .null, ·)
  | 't' :: rest => (readWord "rue".toList rest).map (scalar (.bool true), ·)
  | 'f' :: rest => (readWord "alse".toList rest).map (scalar (.bool false), ·)
  | digits => numberToken (readNumeral false digits)

/-! ## What remains -/

theorem readPieces_suffix {source rest : List Char} {pieces : List Piece}
    (h : readPieces source = some (pieces, rest)) : rest <:+ source := by
  fun_induction readPieces source generalizing pieces with
  | case1 => cases h
  | case2 => cases h; exact List.suffix_cons _ _
  | case3 a b c d tail bits pieces' after hread _ ih =>
    cases h
    exact (ih hread).trans ⟨['\\', 'u', a, b, c, d], rfl⟩
  | case4 => cases h
  | case5 c tail _ e pieces' after hread _ ih =>
    cases h
    exact (ih hread).trans ⟨['\\', c], rfl⟩
  | case6 => cases h
  | case7 => cases h
  | case8 c tail _ _ _ _ pieces' after hread ih =>
    cases h
    exact (ih hread).trans (List.suffix_cons c tail)
  | case9 => cases h

theorem readDigits_suffix {source digits rest : List Char}
    (h : readDigits source = some (digits, rest)) :
    rest <:+ source ∧ rest.length < source.length := by
  unfold readDigits at h
  split at h
  · cases h
  · rename_i hne
    simp only [Option.some.injEq, Prod.mk.injEq] at h
    obtain ⟨rfl, rfl⟩ := h
    refine ⟨List.dropWhile_suffix _, ?_⟩
    have hsplit := congrArg List.length (List.takeWhile_append_dropWhile
      (p := Char.isDigit) (l := source))
    have hpos := List.length_pos_iff.2 hne
    rw [List.length_append] at hsplit
    omega

theorem readFraction_suffix {source rest : List Char} {fraction : Option (List Char)}
    (h : readFraction source = some (fraction, rest)) : rest <:+ source := by
  unfold readFraction at h
  split at h
  · obtain ⟨⟨digits, after⟩, hdigits, heq⟩ := Option.map_eq_some_iff.1 h
    cases heq
    exact (readDigits_suffix hdigits).1.trans (List.suffix_cons _ _)
  · cases h
    exact List.suffix_refl _

theorem readSign_suffix (source : List Char) : (readSign source).2 <:+ source := by
  unfold readSign
  split
  · exact List.suffix_cons _ _
  · exact List.suffix_cons _ _
  · exact List.suffix_refl _

theorem readExponent_suffix {source rest : List Char} {exponent : Option (Bool × List Char)}
    (h : readExponent source = some (exponent, rest)) : rest <:+ source := by
  unfold readExponent at h
  split at h
  · cases h
    exact List.suffix_refl _
  · rename_i c tail
    split at h
    · obtain ⟨⟨digits, after⟩, hdigits, heq⟩ := Option.map_eq_some_iff.1 h
      cases heq
      exact ((readDigits_suffix hdigits).1.trans (readSign_suffix tail)).trans
        (List.suffix_cons _ _)
    · cases h
      exact List.suffix_refl _

theorem readNumeral_lt {negative : Bool} {source rest : List Char} {numeral : Numeral}
    (h : readNumeral negative source = some (numeral, rest)) : rest.length < source.length := by
  unfold readNumeral at h
  split at h
  · cases h
  · rename_i whole after hwhole
    split at h
    · cases h
    · split at h
      · cases h
      · rename_i fraction after' hfraction
        obtain ⟨⟨exponent, last⟩, hexponent, heq⟩ := Option.map_eq_some_iff.1 h
        cases heq
        have h₁ := (readExponent_suffix hexponent).length_le
        have h₂ := (readFraction_suffix hfraction).length_le
        have h₃ := (readDigits_suffix hwhole).2
        omega

theorem numberToken_lt {source rest : List Char} {negative : Bool} {token : Token}
    (h : numberToken (readNumeral negative source) = some (token, rest)) :
    rest.length < source.length := by
  unfold numberToken at h
  split at h
  · rename_i numeral after hread
    obtain ⟨value, _, heq⟩ := Option.map_eq_some_iff.1 h
    cases heq
    exact readNumeral_lt hread
  · cases h

theorem readWord_length_le {word source rest : List Char} (h : readWord word source = some rest) :
    rest.length ≤ source.length := by
  unfold readWord at h
  split at h
  · cases h
    exact (List.drop_suffix _ _).length_le
  · cases h

theorem word_lt {word source rest : List Char} {token read : Token} {c : Char}
    (h : (readWord word source).map (read, ·) = some (token, rest)) :
    rest.length < (c :: source).length := by
  obtain ⟨after, hword, heq⟩ := Option.map_eq_some_iff.1 h
  cases heq
  exact Nat.lt_succ_of_le (readWord_length_le hword)

theorem Token.next_lt {source rest : List Char} {token : Token}
    (h : Token.next source = some (token, rest)) : rest.length < source.length := by
  unfold Token.next at h
  split at h
  · cases h
  iterate 6
    · cases h
      exact Nat.lt_succ_self _
  · split at h
    · rename_i pieces after hread
      obtain ⟨chars, _, heq⟩ := Option.map_eq_some_iff.1 h
      cases heq
      exact Nat.lt_succ_of_le (readPieces_suffix hread).length_le
    · cases h
  · exact Nat.lt_succ_of_lt (numberToken_lt h)
  · exact word_lt h
  · exact word_lt h
  · exact word_lt h
  · exact numberToken_lt h

end StyleConstants.Json
