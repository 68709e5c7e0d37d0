import StyleConstants.Proofs.Stylesheet.Flags
import StyleConstants.Proofs.Stylesheet.Skipped
import StyleConstants.Proofs.Text.Letters

/-!
# Written items

An item as it is written in the dialect with braces: a header, and a semicolon or a block. Read as
a statement, the header gives the item back.

* `Written.IsValid`: what an item may be written with.
* `readItem_text`: a written item is read as one statement with its block.
* `read_header`: the text of that statement means the item.
-/

namespace StyleConstants.Stylesheet

open Text (IsPlain IsTrimmed isBlank isPlain_of_isBlank)

/-! ## Statements with their ends -/

namespace Braced

/-- A header and the semicolon or the block that ends it. -/
def statementText (header : List Char) : Option (List Char) → List Char
  | none => header ++ [';']
  | some body => header ++ ' ' :: '{' :: (body ++ ['}'])

/-- A balanced header and its end are one statement. -/
theorem readItem_statementText {header : List Char} (hheader : Balanced false header)
    {body? : Option (List Char)} (hbody : ∀ body ∈ body?, BlockBody false body)
    (rest : List Char) :
    readItem (statementText header body? ++ rest) =
      .ok ⟨header ++ (if body?.isSome then [' '] else []), body?.isSome, rest⟩ := by
  have howed : false = true → ([] : List Char) ≠ [] := fun hfalse => nomatch hfalse
  cases body? with
  | none =>
    have hkeeps : KeepsSlash (';' :: rest) := .cons (by decide) rest
    have hread : readStatement [] (statementText header none ++ rest) =
        .ok ⟨header, .semicolon, rest⟩ := by
      rw [statementText, List.append_assoc, List.singleton_append,
        readStatement_balanced hheader howed hkeeps (by simp), readStatement_semicolon]
      simp [Except.map, Reading.prepend]
    rw [readItem, hread]
    simp
  | some body =>
    have hkeeps : KeepsSlash (' ' :: '{' :: (body ++ '}' :: rest)) := .cons (by decide) _
    -- the brace of the block is told from that of an interpolation by the space in front of it
    have hbrace : readStatement [] (' ' :: '{' :: (body ++ '}' :: rest)) =
        .ok ⟨[' '], .block, body ++ '}' :: rest⟩ := by
      rw [readStatement_next (Lexeme.next_ordinary (by decide) _)
        (endingAt_char (.inr (by decide))) rfl, readStatement_block]
      rfl
    have hread : readStatement [] (statementText header (some body) ++ rest) =
        .ok ⟨header ++ [' '], .block, body ++ '}' :: rest⟩ := by
      rw [statementText, List.append_assoc, List.cons_append, List.cons_append, List.append_assoc,
        List.singleton_append, readStatement_balanced hheader howed hkeeps (by simp), hbrace]
      rfl
    have hskip := @skipBlock_block (body ++ '}' :: rest) body rest (hbody body rfl)
    rw [readItem, hread]
    dsimp only
    rw [if_pos rfl, hskip]
    rfl

end Braced

/-- An item as it is written: its parts, and its body if it has a block. -/
inductive Written where
  /-- A declaration; each flag comes with the text in front of it. -/
  | declaration (name value : List Char) (flags : List (List Char × Flag))
  | atRule (keyword params : List Char) (body : Option (List Char))
  | rule (prelude body : List Char)
  | statement (text : List Char)

/-- A character that a written keyword may hold. -/
def IsKeywordChar (c : Char) : Prop := c.isAlphanum = true ∨ c = '-' ∨ c = '_'

instance (c : Char) : Decidable (IsKeywordChar c) := inferInstanceAs (Decidable (_ ∨ _))

namespace Written

/-- The text in front of the semicolon or of the block. -/
def header : Written → List Char
  | declaration name value flags => '$' :: (name ++ ':' :: ' ' :: (value ++ flagTexts flags))
  | atRule keyword params _ => '@' :: (keyword ++ ' ' :: params)
  | rule prelude _ => prelude
  | statement text => text

/-- The body of the block, if there is one. -/
def body? : Written → Option (List Char)
  | declaration .. => none
  | atRule _ _ body => body
  | rule _ body => some body
  | statement _ => none

/-- The whole text of the item. -/
def text (written : Written) : List Char :=
  match written.body? with
  | none => written.header ++ [';']
  | some body => written.header ++ ' ' :: '{' :: (body ++ ['}'])

/-- What the text means. -/
def item : Written → Item
  | declaration name value flags => .variable ⟨String.ofList name, String.ofList value,
      flags.any (·.2 == .default), flags.any (·.2 == .global)⟩
  | atRule keyword params body =>
    .atRule ⟨String.ofList keyword, String.ofList params, body.isSome⟩
  | rule prelude _ => .rule (String.ofList prelude)
  | statement text => .statement (String.ofList text)

/-- A header that is neither empty nor looks like a declaration or a directive. -/
structure IsOther (text : List Char) : Prop extends IsPhrase text where
  ne_nil : text ≠ []
  unmarked : text.head? ≠ some '$' ∧ text.head? ≠ some '@'

/-- The parts of the item are what they have to be. -/
def IsValid : Written → Prop
  | declaration name value flags => isVariableName name = true ∧ IsValue value ∧
      ∀ flag ∈ flags, ∀ c ∈ flag.1, isBlank c = true
  | atRule keyword params body => keyword ≠ [] ∧ (∀ c ∈ keyword, IsKeywordChar c) ∧
      IsPhrase params ∧ ∀ text ∈ body, BlockBody false text
  | rule prelude body => IsOther prelude ∧ BlockBody false body
  | statement text => IsOther text

/-! ## Headers are balanced -/

theorem isPlain_of_isNameChar {c : Char} (h : isNameChar c = true) : IsPlain c ∧ c ≠ '/' := by
  have hne : ∀ d, d ∈ ['"', '\'', '(', ')', '[', ']', '{', '}', ';', '/'] → c ≠ d := by
    rintro d hd rfl
    revert h
    simp only [List.mem_cons, List.not_mem_nil, or_false] at hd
    rcases hd with rfl | rfl | rfl | rfl | rfl | rfl | rfl | rfl | rfl | rfl <;> decide
  exact ⟨fun hmem => hne c (List.mem_append_left ['/'] hmem) rfl, hne '/' (by decide)⟩

theorem isNameChar_of_isKeywordChar {c : Char} (h : IsKeywordChar c) : isNameChar c = true := by
  rcases h with h | rfl | rfl
  · simp [isNameChar, h]
  · decide
  · decide

theorem keepsSlash_blanks {blanks : List Char} (h : ∀ c ∈ blanks, isBlank c = true) :
    KeepsSlash blanks :=
  fun c hc => (isPlain_of_isBlank (h c (List.mem_of_head? hc))).2

theorem keepsSlash_flag (flag : Flag) : KeepsSlash flag.text := by
  cases flag <;> exact .cons (by decide) _

theorem isPlain_of_mem_flag {flag : Flag} {c : Char} (h : c ∈ flag.text) : IsPlain c ∧ c ≠ '/' := by
  have hdefault : ∀ d ∈ Flag.default.text, IsPlain d ∧ d ≠ '/' := Text.forall_mem_of_all (by decide)
  have hglobal : ∀ d ∈ Flag.global.text, IsPlain d ∧ d ≠ '/' := Text.forall_mem_of_all (by decide)
  cases flag with
  | default => exact hdefault c h
  | global => exact hglobal c h

theorem isPlain_of_mem_mark {c : Char} (h : c ∈ [':', ' ']) : IsPlain c ∧ c ≠ '/' := by
  have hmarks : ∀ d ∈ [':', ' '], IsPlain d ∧ d ≠ '/' := Text.forall_mem_of_all (by decide)
  exact hmarks c h

theorem isPlain_of_mem_front {name : List Char} (hname : isVariableName name = true) {c : Char}
    (h : c ∈ '$' :: (name ++ [':', ' '])) : IsPlain c ∧ c ≠ '/' := by
  rcases List.mem_cons.1 h with rfl | h
  · decide
  · rcases List.mem_append.1 h with h | h
    · exact isPlain_of_isNameChar (isNameChar_of_isVariableName hname c h)
    · exact isPlain_of_mem_mark h

theorem balanced_flagTexts {flags : List (List Char × Flag)}
    (h : ∀ flag ∈ flags, ∀ c ∈ flag.1, isBlank c = true) :
    Balanced false (flagTexts flags) ∧ KeepsSlash (flagTexts flags) := by
  induction flags with
  | nil => exact ⟨.nil, fun c hc => nomatch hc⟩
  | cons flag flags ih =>
    obtain ⟨hbalanced, hkeeps⟩ := ih fun other hother => h other (List.mem_cons_of_mem flag hother)
    have hblanks := h flag List.mem_cons_self
    have hplain : ∀ c ∈ flag.1 ++ flag.2.text, IsPlain c ∧ c ≠ '/' := by
      intro c hc
      rcases List.mem_append.1 hc with hc | hc
      · have hblank := isPlain_of_isBlank (hblanks c hc)
        exact ⟨hblank.1, hblank.2.1⟩
      · exact isPlain_of_mem_flag hc
    rw [flagTexts, List.flatMap_cons, ← flagTexts]
    exact ⟨.chars_append hplain hbalanced,
      ((keepsSlash_blanks hblanks).append (keepsSlash_flag flag.2)).append hkeeps⟩

theorem balanced_header {written : Written} (h : written.IsValid) :
    Balanced false written.header := by
  cases written with
  | declaration name value flags =>
    obtain ⟨hname, hvalue, hflags⟩ := h
    obtain ⟨hbalanced, hkeeps⟩ := balanced_flagTexts hflags
    have hheader := Balanced.chars_append (fun _ => isPlain_of_mem_front hname)
      (hvalue.balanced.append hbalanced hkeeps)
    rwa [List.cons_append, List.append_assoc] at hheader
  | atRule keyword params body =>
    obtain ⟨-, hkeyword, hparams, -⟩ := h
    have hplain : ∀ c ∈ '@' :: (keyword ++ [' ']), IsPlain c ∧ c ≠ '/' := by
      intro c hc
      rcases List.mem_cons.1 hc with rfl | hc
      · decide
      · rcases List.mem_append.1 hc with hc | hc
        · exact isPlain_of_isNameChar (isNameChar_of_isKeywordChar (hkeyword c hc))
        · exact isPlain_of_mem_mark (List.mem_cons_of_mem ':' hc)
    have hheader := Balanced.chars_append hplain hparams.balanced
    rwa [List.cons_append, List.append_assoc] at hheader
  | rule prelude body => exact h.1.balanced
  | statement text => exact h.balanced

/-! ## Headers as statements -/

theorem header_ne_nil {written : Written} (h : written.IsValid) : written.header ≠ [] := by
  cases written with
  | declaration name value flags => exact List.cons_ne_nil _ _
  | atRule keyword params body => exact List.cons_ne_nil _ _
  | rule prelude body => exact h.1.ne_nil
  | statement text => exact h.ne_nil

/-- A header starts with a character that is no blank. -/
theorem isBlank_head_header {written : Written} (h : written.IsValid) :
    ∀ c ∈ written.header.head?, isBlank c = false := by
  cases written with
  | declaration name value flags =>
    intro c hc
    cases hc
    decide
  | atRule keyword params body =>
    intro c hc
    cases hc
    decide
  | rule prelude body => exact h.1.trimmed.1
  | statement text => exact h.trimmed.1

theorem blockBody_of_body? {written : Written} (h : written.IsValid) {body : List Char}
    (hbody : written.body? = some body) : BlockBody false body := by
  cases written with
  | declaration name value flags => cases hbody
  | atRule keyword params body' => exact h.2.2.2 body hbody
  | rule prelude body' =>
    cases hbody
    exact h.2
  | statement text => cases hbody

/-- What stands between the header and the brace of a block. -/
def spacing (written : Written) : List Char := if written.body?.isSome then [' '] else []

theorem text_eq (written : Written) :
    written.text = Braced.statementText written.header written.body? := by
  rw [text, Braced.statementText.eq_def]

/-- A written item is read as one statement: its header, and its block if it has one. -/
theorem readItem_text {written : Written} (h : written.IsValid) (rest : List Char) :
    Braced.readItem (written.text ++ rest) =
      .ok ⟨written.header ++ written.spacing, written.body?.isSome, rest⟩ := by
  rw [text_eq]
  exact Braced.readItem_statementText (balanced_header h)
    (fun _ hbody => blockBody_of_body? h hbody) rest

/-! ## What a header means -/

/-- A written keyword character is one for the reader, and no blank. -/
theorem isKeywordChar_of_written {c : Char} (h : IsKeywordChar c) :
    isKeywordChar c = true ∧ isBlank c = false := by
  rcases h with h | rfl | rfl
  · have hrange := Text.isAlphanum_iff.1 h
    have hascii : c.toNat < 0x80 := by omega
    refine ⟨?_, ?_⟩
    · rw [isKeywordChar, Unicode.isAlphanumeric_of_ascii hascii, h]
      rfl
    · simp only [isBlank, Bool.or_eq_false_iff, Bool.and_eq_false_iff, decide_eq_false_iff_not,
        beq_eq_false_iff_ne]
      omega
  · decide
  · decide

theorem read_declaration {name value : List Char} {flags : List (List Char × Flag)}
    (hname : isVariableName name = true) (hne : value ≠ []) (htrimmed : IsTrimmed value)
    (hunflagged : ∀ flag : Flag, ¬ flag.text <:+ value)
    (hflags : ∀ flag ∈ flags, ∀ c ∈ flag.1, isBlank c = true) :
    Variable.read (name ++ ':' :: ' ' :: (value ++ flagTexts flags)) false =
      .ok ⟨String.ofList name, String.ofList value, flags.any (·.2 == .default),
        flags.any (·.2 == .global)⟩ := by
  obtain ⟨htake, hdrop⟩ := @Text.takeWhile_dropWhile_append isNameChar name
    (':' :: ' ' :: (value ++ flagTexts flags)) (isNameChar_of_isVariableName hname)
    (by intro c hc; cases hc; decide)
  have htrimStart : Text.trimStart (':' :: ' ' :: (value ++ flagTexts flags)) =
      ':' :: ' ' :: (value ++ flagTexts flags) :=
    Text.trimStart_eq_self (by intro c hc; cases hc; decide)
  have hends : IsTrimmed (value ++ flagTexts flags) := by
    refine ⟨?_, isBlank_getLast_flagTexts htrimmed.2 flags⟩
    have hhead := htrimmed.1
    cases value with
    | nil => exact absurd rfl hne
    | cons c value => exact hhead
  have htrim : Text.trim (' ' :: (value ++ flagTexts flags)) = value ++ flagTexts flags :=
    Text.trim_append_left Text.isBlank_of_mem_space hends
  have hempty : value.isEmpty = false := by
    cases value with
    | nil => exact absurd rfl hne
    | cons c value => rfl
  rw [Variable.read, htake, if_pos hname, hdrop, htrimStart]
  simp only [htrim, splitFlags_flagTexts htrimmed hunflagged flags hflags, hempty,
    Bool.false_eq_true, if_false]

theorem read_atRule {keyword params : List Char} (hkeyword : ∀ c ∈ keyword, IsKeywordChar c)
    (hne : keyword ≠ []) {separated : List Char} (hseparated : Text.trim separated = params)
    (hhead : ∀ c ∈ separated.head?, isKeywordChar c = false) (hasBlock : Bool) :
    AtRule.read (keyword ++ separated) hasBlock =
      .ok ⟨String.ofList keyword, String.ofList params, hasBlock⟩ := by
  obtain ⟨htake, hdrop⟩ := Text.takeWhile_dropWhile_append
    (fun c hc => (isKeywordChar_of_written (hkeyword c hc)).1) hhead
  have hempty : keyword.isEmpty = false := by
    cases keyword with
    | nil => exact absurd rfl hne
    | cons c keyword => rfl
  rw [AtRule.read, htake, hdrop, hseparated, hempty]
  rfl

theorem read_isOther {text : List Char} (h : IsOther text) :
    Item.read text true = .ok (some (.rule (String.ofList text))) ∧
      Item.read text false = .ok (some (.statement (String.ofList text))) := by
  cases text with
  | nil => exact absurd rfl h.ne_nil
  | cons c text =>
    have hdollar : c ≠ '$' := fun hc => h.unmarked.1 (congrArg some hc)
    have hat : c ≠ '@' := fun hc => h.unmarked.2 (congrArg some hc)
    unfold Item.read
    split
    · rename_i heq
      cases heq
      exact absurd rfl hdollar
    · rename_i heq
      cases heq
      exact absurd rfl hat
    · exact ⟨rfl, rfl⟩

/-- The blanks at the end of a header do not change what it means. -/
theorem read_header {written : Written} (h : written.IsValid) :
    Item.read (Text.trim (written.header ++ written.spacing)) written.body?.isSome =
      .ok (some written.item) := by
  have hspacing : ∀ c ∈ written.spacing, isBlank c = true := by
    rw [spacing]
    split
    · exact Text.isBlank_of_mem_space
    · exact fun c hc => absurd hc List.not_mem_nil
  cases written with
  | declaration name value flags =>
    obtain ⟨hname, hvalue, hflags⟩ := h
    have htrimmed : IsTrimmed (header (declaration name value flags)) := by
      have hlast := isBlank_getLast_flagTexts hvalue.trimmed.2 flags
      have hne : value ++ flagTexts flags ≠ [] :=
        fun hnil => hvalue.ne_nil (List.append_eq_nil_iff.1 hnil).1
      have hheader : header (declaration name value flags) =
          '$' :: (name ++ [':', ' ']) ++ (value ++ flagTexts flags) := by
        simp [header]
      rw [hheader]
      refine ⟨?_, by rwa [Text.getLast?_append_of_ne_nil hne]⟩
      intro c hc
      cases hc
      decide
    rw [Text.trim_append_right htrimmed hspacing]
    have hread := read_declaration hname hvalue.ne_nil hvalue.trimmed hvalue.unflagged hflags
    rw [header, Item.read, body?, Option.isSome_none, hread]
    rfl
  | atRule keyword params body =>
    obtain ⟨hne, hkeyword, hparams, -⟩ := h
    have hstart : IsTrimmed ('@' :: keyword) := by
      refine ⟨by intro c hc; cases hc; decide, ?_⟩
      intro c hc
      have hmem := List.mem_of_getLast? hc
      rcases List.mem_cons.1 hmem with rfl | hmem
      · decide
      · exact (isKeywordChar_of_written (hkeyword c hmem)).2
    obtain ⟨separated, htrim, hparams', hhead⟩ : ∃ separated : List Char,
        Text.trim (header (atRule keyword params body) ++ spacing (atRule keyword params body)) =
          '@' :: (keyword ++ separated) ∧ Text.trim separated = params ∧
          ∀ c ∈ separated.head?, isKeywordChar c = false := by
      cases params with
      | nil =>
        have hblanks : ∀ c ∈ ' ' :: spacing (atRule keyword [] body), isBlank c = true := by
          intro c hc
          rcases List.mem_cons.1 hc with rfl | hc
          · decide
          · exact hspacing c hc
        refine ⟨[], ?_, rfl, fun c hc => nomatch hc⟩
        have htrim := Text.trim_append_right hstart hblanks
        rw [List.append_nil, ← htrim]
        simp [header]
      | cons c params =>
        have htrimmed : IsTrimmed (header (atRule keyword (c :: params) body)) := by
          have hheader : header (atRule keyword (c :: params) body) =
              '@' :: (keyword ++ [' ']) ++ (c :: params) := by
            simp [header]
          rw [hheader]
          refine ⟨?_, ?_⟩
          · intro d hd
            cases hd
            decide
          · rw [Text.getLast?_append_of_ne_nil (List.cons_ne_nil c params)]
            exact hparams.trimmed.2
        refine ⟨' ' :: c :: params, Text.trim_append_right htrimmed hspacing, ?_, ?_⟩
        · exact Text.trim_append_left Text.isBlank_of_mem_space hparams.trimmed
        · intro d hd
          cases hd
          decide
    rw [htrim, Item.read, body?, read_atRule hkeyword hne hparams' hhead]
    rfl
  | rule prelude body =>
    rw [header, Text.trim_append_right h.1.trimmed hspacing]
    exact (read_isOther h.1).1
  | statement text =>
    rw [header, Text.trim_append_right h.trimmed hspacing]
    exact (read_isOther h).2

end Written

end StyleConstants.Stylesheet
