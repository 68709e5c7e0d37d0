import StyleConstants.Probe.Readback
import StyleConstants.Proofs.Text.Blank
import StyleConstants.Proofs.Text.Plain

/-!
# Values in rendered text

The reader of values keeps track of quotes and brackets. A value that closes what it opens leaves
the reader as it was, so that the reader goes on to the first semicolon or brace after the value.

* `Delimited`: text that closes what it opens and goes on up to there.
* `stretch_delimited`: such text is read as it stands.
* `ValueText`: plain characters, literals and groups, the latter two with all they may hold.
* `readValue_value`: the reader stops at the end of the declaration.
-/

namespace StyleConstants.Readback

open Text (IsPlain LiteralBody IsTrimmed isBlank)

/-- The characters that close a group. -/
def closers : List Char := [')', ']', '}']

/-- The characters that open and close a group. -/
def IsPair (opening closer : Char) : Prop :=
  (opening = '(' ∧ closer = ')') ∨ (opening = '[' ∧ closer = ']') ∨ (opening = '{' ∧ closer = '}')

/-- Text of a value, inside a group or outside of all. A semicolon may stand in groups only. -/
inductive ValueText : Bool → List Char → Prop
  | nil {inGroup : Bool} : ValueText inGroup []
  | char {inGroup : Bool} {c : Char} {text : List Char}
      (hplain : IsPlain c ∨ (inGroup = true ∧ c = ';')) :
      ValueText inGroup text → ValueText inGroup (c :: text)
  | literal {inGroup : Bool} {quote : Char} {body text : List Char}
      (hquote : quote = '"' ∨ quote = '\'') (hbody : LiteralBody true quote body) :
      ValueText inGroup text → ValueText inGroup (quote :: (body ++ quote :: text))
  | group {inGroup : Bool} {opening closer : Char} {inner text : List Char}
      (hpair : IsPair opening closer) : ValueText true inner → ValueText inGroup text →
      ValueText inGroup (opening :: (inner ++ closer :: text))

/-- A character that opens nothing, does not close the group it stands in, and outside of all groups
does not end the value. -/
structure IsLoose (closer : Option Char) (c : Char) : Prop where
  not_opening : c ∉ ['"', '\'', '(', '[', '{']
  not_closing : closer ≠ some c
  not_ending : closer = none → c ≠ ';' ∧ c ≠ '}'

/-- Text that closes the quotes and brackets that it opens, inside a group with this closer or
outside of all groups. -/
inductive Delimited : Option Char → List Char → Prop
  | nil {closer : Option Char} : Delimited closer []
  | char {closer : Option Char} {c : Char} {text : List Char} (hloose : IsLoose closer c) :
      Delimited closer text → Delimited closer (c :: text)
  | literal {closer : Option Char} {quote : Char} {body text : List Char}
      (hquote : quote = '"' ∨ quote = '\'') (hbody : LiteralBody true quote body) :
      Delimited closer text → Delimited closer (quote :: (body ++ quote :: text))
  | group {closer : Option Char} {opening closing : Char} {inner text : List Char}
      (hpair : IsPair opening closing) : Delimited (some closing) inner → Delimited closer text →
      Delimited closer (opening :: (inner ++ closing :: text))

theorem IsPair.mem_closers {opening closer : Char} (h : IsPair opening closer) :
    closer ∈ closers := by
  rcases h with ⟨-, rfl⟩ | ⟨-, rfl⟩ | ⟨-, rfl⟩ <;> simp [closers]

theorem isLoose_of_isPlain {closer : Option Char} (hcloser : ∀ d ∈ closer, d ∈ closers) {c : Char}
    (h : IsPlain c ∨ (closer ≠ none ∧ c = ';')) : IsLoose closer c := by
  have hne : ∀ d, d ∈ ['"', '\'', '(', ')', '[', ']', '{', '}'] → c ≠ d := by
    rintro d hd rfl
    rcases h with hplain | ⟨-, rfl⟩
    · exact hplain (List.mem_append_left [';'] hd)
    · simp at hd
  constructor
  · have hsub : ∀ d ∈ ['"', '\'', '(', '[', '{'],
        d ∈ ['"', '\'', '(', ')', '[', ']', '{', '}'] := by
      simp
    exact fun hopening => hne c (hsub c hopening) rfl
  · have hsub : ∀ d ∈ closers, d ∈ ['"', '\'', '(', ')', '[', ']', '{', '}'] := by
      simp [closers]
    exact fun hclosing => hne c (hsub c (hcloser c hclosing)) rfl
  · rintro rfl
    rcases h with hplain | ⟨hgroup, -⟩
    · exact ⟨hplain.ne (by decide), hplain.ne (by decide)⟩
    · exact absurd rfl hgroup

/-- The text of a value is delimited. -/
theorem ValueText.delimited {inGroup : Bool} {text : List Char} (h : ValueText inGroup text) :
    ∀ {closer : Option Char}, (inGroup = true → closer ≠ none) → (∀ d ∈ closer, d ∈ closers) →
      Delimited closer text := by
  induction h with
  | nil => exact fun _ _ => .nil
  | char hplain _ ih =>
    intro closer hgroup hcloser
    have hloose := isLoose_of_isPlain hcloser (hplain.imp_right fun h => ⟨hgroup h.1, h.2⟩)
    exact .char hloose (ih hgroup hcloser)
  | literal hquote hbody _ ih =>
    exact fun hgroup hcloser => .literal hquote hbody (ih hgroup hcloser)
  | group hpair _ _ ihInner ih =>
    intro closer hgroup hcloser
    refine .group hpair (ihInner (fun _ => Option.some_ne_none _) fun d hd => ?_)
      (ih hgroup hcloser)
    obtain rfl := Option.some.inj hd
    exact hpair.mem_closers

/-! ## One step of the reader -/

theorem advance_loose {owed : List Char} {c : Char} (h : IsLoose owed.head? c) :
    advance .plain owed c = some (.plain, owed) := by
  have hopening := h.not_opening
  simp only [List.mem_cons, List.not_mem_nil, or_false, not_or] at hopening
  obtain ⟨hdouble, hsingle, hparen, hbracket, hbrace⟩ := hopening
  have hend : ¬ (owed.isEmpty ∧ (c = ';' ∨ c = '\x7d')) := by
    rintro ⟨hempty, hc⟩
    rw [List.isEmpty_iff] at hempty
    have hnot := h.not_ending (by rw [hempty]; rfl)
    exact hc.elim hnot.1 hnot.2
  rw [advance, if_neg (not_or.2 ⟨hdouble, hsingle⟩), if_neg hparen, if_neg hbracket,
    if_neg hbrace, if_neg h.not_closing, if_neg hend]

theorem advance_open {opening closer : Char} (hpair : IsPair opening closer) (owed : List Char) :
    advance .plain owed opening = some (.plain, closer :: owed) := by
  rcases hpair with ⟨rfl, rfl⟩ | ⟨rfl, rfl⟩ | ⟨rfl, rfl⟩ <;> rfl

theorem advance_close {opening closer : Char} (hpair : IsPair opening closer) (owed : List Char) :
    advance .plain (closer :: owed) closer = some (.plain, owed) := by
  rcases hpair with ⟨rfl, rfl⟩ | ⟨rfl, rfl⟩ | ⟨rfl, rfl⟩ <;> rfl

theorem advance_quote {quote : Char} (hquote : quote = '"' ∨ quote = '\'') (owed : List Char) :
    advance .plain owed quote = some (.inside quote, owed) := by
  rw [advance, if_pos hquote]

/-! ## Literals and groups -/

theorem stretch_cons {quoting quoting' : Quoting} {owed owed' : List Char} {c : Char}
    (h : advance quoting owed c = some (quoting', owed')) (rest : List Char) :
    stretch quoting owed (c :: rest) = c :: stretch quoting' owed' rest := by
  rw [stretch, h]

/-- A literal is read to its closing quote, whatever stands in it. -/
theorem stretch_literal {quote : Char} (hquote : quote = '"' ∨ quote = '\'') {body : List Char}
    (h : LiteralBody true quote body) (owed rest : List Char) :
    stretch (.inside quote) owed (body ++ quote :: rest) =
      body ++ quote :: stretch .plain owed rest := by
  induction h with
  | nil =>
    have hescape : quote ≠ '\\' := by
      rcases hquote with rfl | rfl <;> decide
    have hadvance : advance (.inside quote) owed quote = some (.plain, owed) := by
      rw [advance, if_neg hescape, if_pos rfl]
    exact stretch_cons hadvance rest
  | @char c body hc hescape _ _ ih =>
    have hadvance : advance (.inside quote) owed c = some (.inside quote, owed) := by
      rw [advance, if_neg hescape, if_neg hc]
    rw [List.cons_append, stretch_cons hadvance, ih, List.cons_append]
  | @escape c body _ ih =>
    have hadvance : advance (.inside quote) owed '\\' = some (.escaped quote, owed) := rfl
    have hescaped : advance (.escaped quote) owed c = some (.inside quote, owed) := rfl
    rw [List.cons_append, List.cons_append, stretch_cons hadvance, stretch_cons hescaped, ih,
      List.cons_append, List.cons_append]

/-- Delimited text is read as it stands, and leaves the brackets owed that were owed before. -/
theorem stretch_delimited {closer : Option Char} {text : List Char} (h : Delimited closer text) :
    ∀ {owed : List Char} (rest : List Char), owed.head? = closer →
      stretch .plain owed (text ++ rest) = text ++ stretch .plain owed rest := by
  induction h with
  | nil =>
    intro owed rest _
    rfl
  | @char closer c text hloose _ ih =>
    intro owed rest howed
    rw [List.cons_append, stretch_cons (advance_loose (howed ▸ hloose)), ih rest howed,
      List.cons_append]
  | @literal closer quote body text hquote hbody _ ih =>
    intro owed rest howed
    rw [List.cons_append, List.append_assoc, List.cons_append,
      stretch_cons (advance_quote hquote owed), stretch_literal hquote hbody, ih rest howed,
      List.cons_append, List.append_assoc, List.cons_append]
  | @group closer opening closing inner text hpair _ _ ihInner ih =>
    intro owed rest howed
    rw [List.cons_append, List.append_assoc, List.cons_append,
      stretch_cons (advance_open hpair owed), ihInner (closing :: (text ++ rest)) rfl,
      stretch_cons (advance_close hpair owed), ih rest howed, List.cons_append,
      List.append_assoc, List.cons_append]

/-- Outside of all groups delimited text is read up to the ending behind it. -/
theorem stretch_delimited_ending {value : List Char} (h : Delimited none value) {ending : Char}
    (hending : ending = ';' ∨ ending = '}') (rest : List Char) :
    stretch .plain [] (value ++ ending :: rest) = value := by
  have hstop : stretch .plain [] (ending :: rest) = [] := by
    rcases hending with rfl | rfl <;> rfl
  rw [stretch_delimited h _ rfl, hstop, List.append_nil]

/-! ## Whole values -/

/-- A value is read back from between the blanks after the colon and the end of its
declaration. -/
theorem readValue_value {blanks value rest : List Char} {ending : Char}
    (hblanks : ∀ c ∈ blanks, isBlank c = true) (hvalue : ValueText false value)
    (htrimmed : IsTrimmed value) (hending : ending = ';' ∨ ending = '}') :
    readValue (blanks ++ value ++ ending :: rest) = value := by
  have hspaced : ValueText false (blanks ++ value) := by
    clear htrimmed
    induction blanks with
    | nil => exact hvalue
    | cons c blanks ih =>
      have hc := Text.isPlain_of_isBlank (hblanks c List.mem_cons_self)
      exact .char (.inl hc.1) (ih fun d hd => hblanks d (List.mem_cons_of_mem c hd))
  have hdelimited : Delimited none (blanks ++ value) :=
    hspaced.delimited (fun h => absurd h Bool.false_ne_true) fun d hd => nomatch hd
  rw [readValue, stretch_delimited_ending hdelimited hending,
    Text.trim_append_left hblanks htrimmed]

end StyleConstants.Readback
