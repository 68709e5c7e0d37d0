import StyleConstants.Probe.Sheet
import StyleConstants.Proofs.Stylesheet.Escaped
import StyleConstants.Proofs.Stylesheet.ReadBack

/-!
# What the compiler is asked

The stylesheet that asks for values is put together from texts that come from elsewhere: a path, the
names of variables and a token. Read as a stylesheet it is still what it is meant to be, one import
and one rule. The path stands in a literal and the names in the block of the rule, and neither can
get out.

* `parse_sheetText_of_line`: the two nodes, with their lines.
* `parse_sheetText_of_break`: a path with a line break breaks the literal, and nothing is read.
-/

namespace StyleConstants

open Stylesheet
open Text (IsPlain LiteralBody newlines)

/-! ## Names in blocks -/

theorem isBodyChar_of_isNameChar {c : Char} (h : isNameChar c = true) : IsBodyChar c ∧ c ≠ '/' := by
  obtain ⟨hplain, hslash⟩ := Written.isPlain_of_isNameChar h
  refine ⟨fun hmem => hplain ?_, hslash⟩
  simp only [List.mem_cons, List.not_mem_nil, or_false] at hmem ⊢
  rcases hmem with h | h | h | h | h | h <;> simp [h]

theorem Stylesheet.BlockBody.chars_append {inParens : Bool} {characters text : List Char}
    (hplain : ∀ c ∈ characters, IsBodyChar c ∧ c ≠ '/') (h : BlockBody inParens text) :
    BlockBody inParens (characters ++ text) := by
  induction characters with
  | nil => exact h
  | cons c characters ih =>
    have hc := hplain c List.mem_cons_self
    have hrest : ∀ d ∈ characters, IsBodyChar d ∧ d ≠ '/' :=
      fun d hd => hplain d (List.mem_cons_of_mem c hd)
    exact .char hc.1 (fun hslash => absurd hslash hc.2) (ih hrest)

theorem literalBody_name {name : List Char} (h : ∀ c ∈ name, isNameChar c = true) :
    LiteralBody false '"' name := by
  induction name with
  | nil => exact .nil
  | cons c name ih =>
    have hc := h c List.mem_cons_self
    have hrest := ih fun d hd => h d (List.mem_cons_of_mem c hd)
    refine .char ?_ ?_ ?_ hrest
    · rintro rfl
      exact absurd hc (by decide)
    · rintro rfl
      exact absurd hc (by decide)
    · rintro rfl
      exact absurd hc (by decide)

namespace MarkerSet

variable {set : MarkerSet} {target : Path}

/-- The guarded declaration of one variable with the pieces of the block in their places. -/
theorem entryText_append (name marker more : List Char) :
    entryText name marker ++ more =
      "  @if global-variable-exists".toList ++ '(' :: (('"' :: (name ++ ['"'])) ++ ')' ::
        (' ' :: '{' :: (("\n    ".toList ++ (marker ++ (": #".toList ++ '{' ::
          (("inspect".toList ++ '(' :: (('$' :: name) ++ [')'])) ++ '}' ::
            ";\n  ".toList)))) ++ '}' :: ('\n' :: more)))) := by
  have hguard : "  @if global-variable-exists(\"".toList =
      "  @if global-variable-exists".toList ++ ['(', '"'] := by decide
  have hopen : "\") \x7b\n    ".toList = '"' :: ')' :: ' ' :: '{' :: "\n    ".toList := by decide
  have hvalue : ": #\x7binspect($".toList =
      ": #".toList ++ '{' :: ("inspect".toList ++ ['(', '$']) := by decide
  have hclose : ")\x7d;\n  \x7d\n".toList = ')' :: '}' :: (";\n  ".toList ++ ['}', '\n']) := by
    decide
  unfold entryText
  simp only [hguard, hopen, hvalue, hclose, List.append_assoc, List.cons_append, List.nil_append]

theorem blockBody_entryText {name marker more : List Char}
    (hname : ∀ c ∈ name, isNameChar c = true) (hmarker : ∀ c ∈ marker, isNameChar c = true)
    (h : BlockBody false more) : BlockBody false (entryText name marker ++ more) := by
  have hnames : ∀ c ∈ name, IsBodyChar c ∧ c ≠ '/' :=
    fun c hc => isBodyChar_of_isNameChar (hname c hc)
  have hmarkers : ∀ c ∈ marker, IsBodyChar c ∧ c ≠ '/' :=
    fun c hc => isBodyChar_of_isNameChar (hmarker c hc)
  have hplain : ∀ {text : List Char}, (text.all fun c => decide (IsBodyChar c ∧ c ≠ '/')) = true →
      ∀ {more : List Char}, BlockBody false more → BlockBody false (text ++ more) :=
    fun htext _ hmore => .chars_append (Text.forall_mem_of_all htext) hmore
  have hguard : BlockBody true ('"' :: (name ++ ['"'])) :=
    .literal (by decide) (literalBody_name hname) .nil
  have hvariable : BlockBody true name := by
    have hvariable' : BlockBody true (name ++ []) := .chars_append hnames .nil
    rwa [List.append_nil] at hvariable'
  have hdollar : BlockBody true ('$' :: name) :=
    .char (by decide) (fun h => absurd h (by decide)) hvariable
  have hinspect : BlockBody false ("inspect".toList ++ '(' :: (('$' :: name) ++ [')'])) :=
    hplain (by decide) (.parens hdollar .nil)
  have hend : BlockBody false (";\n  ".toList) := by
    have hend' : BlockBody false (";\n  ".toList ++ []) := hplain (by decide) .nil
    rwa [List.append_nil] at hend'
  have hinner : BlockBody false ("\n    ".toList ++ (marker ++ (": #".toList ++ '{' ::
      (("inspect".toList ++ '(' :: (('$' :: name) ++ [')'])) ++ '}' :: ";\n  ".toList)))) :=
    hplain (by decide) (.chars_append hmarkers (hplain (by decide) (.braces hinspect hend)))
  have hbreak : BlockBody false ('\n' :: more) :=
    .char (by decide) (fun h => absurd h (by decide)) h
  have hblock := BlockBody.char (c := ' ') (by decide) (fun h => absurd h (by decide))
    (.braces hinner hbreak)
  rw [entryText_append]
  exact hplain (by decide) (.parens hguard hblock)

theorem isNameChar_of_mem_marker {token : MarkerToken} {name : String}
    (htoken : ∀ c ∈ token.text.toList, isNameChar c = true)
    (hname : isVariableName name.toList = true) :
    ∀ c ∈ (token.marker name).toList, isNameChar c = true := by
  have hhyphens : ∀ c ∈ "--".toList, isNameChar c = true := Text.forall_mem_of_all (by decide)
  have hunderscore : ∀ c ∈ "_".toList, isNameChar c = true := Text.forall_mem_of_all (by decide)
  intro c hc
  simp only [MarkerToken.marker, String.toList_append, List.mem_append] at hc
  rcases hc with ((hc | hc) | hc) | hc
  · exact hhyphens c hc
  · exact isNameChar_of_isVariableName hname c hc
  · exact hunderscore c hc
  · exact htoken c hc

/-- What stands in the block of the rule. -/
def blockText (set : MarkerSet) : List Char :=
  '\n' :: set.markers.flatMap fun (name, marker) => entryText name.toList marker.toList

theorem blockBody_blockText (htoken : ∀ c ∈ set.token.text.toList, isNameChar c = true)
    (hnames : ∀ name ∈ set.names, isVariableName name.toList = true) :
    BlockBody false set.blockText := by
  have hentries : ∀ names : List String, (∀ name ∈ names, isVariableName name.toList = true) →
      BlockBody false ((names.map fun name => (name, set.token.marker name)).flatMap
        fun (name, marker) => entryText name.toList marker.toList) := by
    intro names hnames
    induction names with
    | nil => exact .nil
    | cons name names ih =>
      have hname := hnames name List.mem_cons_self
      have hrest := ih fun other hother => hnames other (List.mem_cons_of_mem name hother)
      exact blockBody_entryText (isNameChar_of_isVariableName hname)
        (isNameChar_of_mem_marker htoken hname) hrest
  exact .char (by decide) (fun h => absurd h (by decide)) (hentries set.names hnames)

/-! ## The two statements -/

/-- The stylesheet as an import and a rule. -/
def statements (set : MarkerSet) (target : Path) : List (List Char × Written) :=
  [([], .atRule "import".toList (literal '"' target.text.toList) none),
    (['\n'], .rule set.token.selector.toList set.blockText)]

theorem sheetText_eq (set : MarkerSet) (target : Path) :
    set.sheetText target = Braced.sheetText (set.statements target) ++ [] := by
  have himport : "@import \"".toList = '@' :: ("import".toList ++ [' ', '"']) := by decide
  have hend : "\";\n".toList = ['"', ';', '\n'] := by decide
  have hopen : " \x7b\n".toList = [' ', '{', '\n'] := by decide
  unfold sheetText
  simp only [himport, hend, hopen, statements, Braced.sheetText, Written.text, Written.header,
    Written.body?, literal, blockText, List.flatMap_cons, List.flatMap_nil, List.append_assoc,
    List.cons_append, List.nil_append, List.append_nil]

theorem isOther_selector {token : MarkerToken}
    (htoken : ∀ c ∈ token.text.toList, IsKeywordChar c) :
    Written.IsOther token.selector.toList := by
  have hstart : "#vars_".toList = '#' :: "vars_".toList := by decide
  have hselector : token.selector.toList = "#vars_".toList ++ token.text.toList := by
    rw [MarkerToken.selector, String.toList_append]
  have hstartPlain : ∀ c ∈ "#vars_".toList, IsPlain c ∧ c ≠ '/' :=
    Text.forall_mem_of_all (by decide)
  have htokenPlain : ∀ c ∈ token.text.toList, IsPlain c ∧ c ≠ '/' :=
    fun c hc => Written.isPlain_of_isNameChar (Written.isNameChar_of_isKeywordChar (htoken c hc))
  have hbalanced : Balanced false ("#vars_".toList ++ (token.text.toList ++ [])) :=
    .chars_append hstartPlain (.chars_append htokenPlain .nil)
  rw [List.append_nil] at hbalanced
  rw [hselector]
  refine ⟨⟨hbalanced, ?_, ?_⟩, ?_, ?_⟩
  · rw [hstart]
    intro c hc
    cases hc
    decide
  · intro c hc
    rcases List.mem_append.1 (List.mem_of_getLast? hc) with hmem | hmem
    · have hblank : ∀ c ∈ "#vars_".toList, Text.isBlank c = false :=
        Text.forall_mem_of_all (by decide)
      exact hblank c hmem
    · exact (Written.isKeywordChar_of_written (htoken c hmem)).2
  · rw [hstart]
    exact List.cons_ne_nil _ _
  · rw [hstart]
    exact ⟨by simp, by simp⟩

theorem isPhrase_literal (hline : '\n' ∉ target.text.toList) :
    IsPhrase (literal '"' target.text.toList) :=
  ⟨balanced_literal (by decide) hline, isTrimmed_literal (by decide) _⟩

theorem isValid_statements (htoken : ∀ c ∈ set.token.text.toList, IsKeywordChar c)
    (hnames : ∀ name ∈ set.names, isVariableName name.toList = true)
    (hline : '\n' ∉ target.text.toList) :
    ∀ piece ∈ set.statements target, Filler piece.1 ∧ piece.2.IsValid := by
  have htokenName : ∀ c ∈ set.token.text.toList, isNameChar c = true :=
    fun c hc => Written.isNameChar_of_isKeywordChar (htoken c hc)
  have himport : (Written.atRule "import".toList (literal '"' target.text.toList) none).IsValid :=
    ⟨by decide, Text.forall_mem_of_all (by decide), isPhrase_literal hline, fun _ h => nomatch h⟩
  have hrule : (Written.rule set.token.selector.toList set.blockText).IsValid :=
    ⟨isOther_selector htoken, blockBody_blockText htokenName hnames⟩
  intro piece hpiece
  rcases List.mem_cons.1 hpiece with rfl | hpiece
  · exact ⟨.nil, himport⟩
  · obtain rfl := List.mem_singleton.1 hpiece
    exact ⟨.char (.inl (by decide)) .nil, hrule⟩

theorem newlines_import (hline : '\n' ∉ target.text.toList) :
    newlines (Written.atRule "import".toList (literal '"' target.text.toList) none).text = 0 := by
  rw [newlines, List.count_eq_zero]
  intro hmem
  have hkeyword : '\n' ∉ "import".toList := by decide
  simp only [Written.text, Written.header, Written.body?, literal, List.mem_append, List.mem_cons,
    List.not_mem_nil, or_false, hkeyword, false_or, Char.reduceEq] at hmem
  rcases mem_of_mem_escapeLiteral hmem with hmem | hmem
  · exact absurd hmem (by decide)
  · exact hline hmem

/-- Without a line break in the path, the stylesheet has the nodes that it is meant to have. -/
theorem parse_sheetText_of_line (htoken : ∀ c ∈ set.token.text.toList, IsKeywordChar c)
    (hnames : ∀ name ∈ set.names, isVariableName name.toList = true)
    (hline : '\n' ∉ target.text.toList) :
    parse .braced (set.sheetText target) =
      .ok ⟨[⟨1, .atRule ⟨"import", String.ofList (literal '"' target.text.toList), false⟩⟩,
        ⟨2, .rule set.token.selector⟩]⟩ := by
  have hnodes := Braced.nodesFrom_sheetText (isValid_statements htoken hnames hline) .nil []
  rw [List.nil_append, ← sheetText_eq] at hnodes
  have hparse : Braced.parse (set.sheetText target) =
      .ok (Braced.nodesAt 1 (set.statements target)) := hnodes
  have hfiller : newlines ['\n'] = 1 := by decide
  have hnone : newlines [] = 0 := rfl
  rw [parse, hparse, statements, Braced.nodesAt, Braced.nodesAt, Braced.nodesAt, hnone, hfiller,
    newlines_import hline, Written.item, Written.item, String.ofList_toList, String.ofList_toList]
  rfl

/-- With one, it cannot be read. -/
theorem parse_sheetText_of_break (set : MarkerSet) (hbreak : '\n' ∈ target.text.toList) :
    ∃ rejection, parse .braced (set.sheetText target) = .error rejection := by
  have hopen : "@import \"".toList = "@import ".toList ++ ['"'] := by decide
  have hstart : "@import ".toList = '@' :: "import ".toList := by decide
  obtain ⟨rest, hsheet⟩ : ∃ rest, set.sheetText target =
      "@import ".toList ++ '"' :: (escapeLiteral '"' target.text.toList ++ rest) := by
    unfold sheetText
    simp only [hopen, List.append_assoc, List.singleton_append]
    exact ⟨_, rfl⟩
  have hkeyword : ∀ c ∈ "@import ".toList, IsPlain c ∧ c ≠ '/' := Text.forall_mem_of_all (by decide)
  have hbalanced : Balanced false ("@import ".toList ++ []) := .chars_append hkeyword .nil
  rw [List.append_nil] at hbalanced
  have hquote : Lexeme.isQuote '"' = true := by decide
  obtain ⟨fault, hfault⟩ := readStatement_escapeLiteral_fault hquote hbreak [] rest
  -- the statement is read up to the quote, and the literal behind it breaks off
  have hstatement : Braced.readStatement [] (set.sheetText target) = .error fault := by
    rw [hsheet, Braced.readStatement_balanced hbalanced (fun h => nomatch h)
      (.cons (by decide) _) (by simp), hfault]
    rfl
  have hitem : Braced.readItem (set.sheetText target) = .error fault := by
    rw [Braced.readItem, hstatement]
  rw [hstart, List.cons_append] at hsheet
  have hfiller : Braced.skipFiller (set.sheetText target) = .ok (set.sheetText target) := by
    rw [hsheet]
    exact Braced.skipFiller_start (by decide) (by decide) fun h => absurd h (by decide)
  rw [parse, Braced.parse, Braced.nodesFrom_fault (hfiller.trans (congrArg _ hsheet)) (by decide)
    (hsheet ▸ hitem)]
  exact ⟨_, rfl⟩

end MarkerSet

end StyleConstants
