import StyleConstants.Proofs.Stylesheet.Dialects
import StyleConstants.Proofs.Stylesheet.Escaped

/-!
# Imports on one line

An import directive can be written on a line of its own in both dialects, and its argument is read
as it stands: what decides whether a file is imported is the argument alone. One literal names its
text, whatever quotes and backslashes are escaped in it; a literal with more behind it, and an
argument that starts with no quote, name no file.

* `Closes`: text that closes the brackets it opens, and in which no comment starts.
* `readStatement_closes`: it is read as it stands.
* `parse_importText`: a directive with such an argument is a sheet of its own.
* `imports_are_read_exactly`: which file it imports.
-/

namespace StyleConstants.Stylesheet

open Text (IsPlain LiteralBody isBlank)

/-! ## Text that closes what it opens -/

/-- The text closes what it opens, and behind that the closers `owed`, the innermost first. No
comment starts in it; two slashes in parentheses start none. Outside of brackets neither a semicolon
nor a brace stands in it. -/
inductive Closes : List Char → List Char → Prop
  | nil : Closes [] []
  | char {owed text : List Char} {c : Char} (hplain : IsPlain c ∨ (owed ≠ [] ∧ c = ';'))
      (hslash : c = '/' → text.head? ≠ some '*' ∧ (')' ∉ owed → text.head? ≠ some '/')) :
      Closes owed text → Closes owed (c :: text)
  | literal {owed text body : List Char} {quote : Char} (hquote : Lexeme.isQuote quote = true)
      (hbody : LiteralBody false quote body) :
      Closes owed text → Closes owed (quote :: (body ++ quote :: text))
  | opens {owed opening text : List Char} {inGroup : Bool} {closer : Char}
      (hopens : Opens inGroup opening closer) (howed : inGroup = true → owed ≠ []) :
      Closes (closer :: owed) text → Closes owed (opening ++ text)
  | closes {owed opening text : List Char} {inGroup : Bool} {closer : Char}
      (hopens : Opens inGroup opening closer) :
      Closes owed text → Closes (closer :: owed) (closer :: text)

namespace Closes

variable {owed text : List Char}

/-- Plain characters without a slash may stand in front. -/
theorem chars_append {characters : List Char} (hplain : ∀ c ∈ characters, IsPlain c ∧ c ≠ '/')
    (h : Closes owed text) : Closes owed (characters ++ text) := by
  induction characters with
  | nil => exact h
  | cons c characters ih =>
    have hc := hplain c List.mem_cons_self
    exact .char (.inl hc.1) (fun hslash => absurd hslash hc.2)
      (ih fun d hd => hplain d (List.mem_cons_of_mem c hd))

theorem head?_ne (h : Closes [] text) : text.head? ≠ some '{' := by
  cases h with
  | nil => simp
  | char hplain =>
    intro hhead
    cases hhead
    exact absurd (hplain.resolve_right fun h => h.1 rfl) (by decide)
  | literal hquote =>
    intro hhead
    cases hhead
    exact absurd hquote (by decide)
  | opens hopens howed =>
    cases hopens with
    | brace => exact absurd rfl (howed rfl)
    | _ => simp

/-- The last character that is not blank is no semicolon, and there is one while a closer is
owed. -/
theorem lastVisible_ne (h : Closes owed text) :
    lastVisible text ≠ some ';' ∧ (owed ≠ [] → lastVisible text ≠ none) := by
  -- a visible character that is no semicolon leaves it to the text behind it
  have hfront : ∀ {front rest : List Char} {c : Char}, isBlank c = false → c ≠ ';' →
      lastVisible rest ≠ some ';' → lastVisible (front ++ c :: rest) ≠ some ';' ∧
        lastVisible (front ++ c :: rest) ≠ none := by
    intro front rest c hblank hc hrest
    refine ⟨lastVisible_ne_of_visible hblank hc front hrest, ?_⟩
    rw [lastVisible_append_of_visible hblank]
    cases lastVisible rest <;> simp
  induction h with
  | nil => exact ⟨by simp [lastVisible], fun howed => absurd rfl howed⟩
  | @char owed text c hplain _ _ ih =>
    obtain ⟨ihLast, ihNone⟩ := ih
    rw [← List.singleton_append, lastVisible_append]
    cases hlast : lastVisible text with
    | none =>
      have howed : owed = [] := by
        by_contra howed
        exact ihNone howed hlast
      refine ⟨fun hc => ?_, fun hne => absurd howed hne⟩
      have hmem := List.mem_of_find?_eq_some hc
      obtain rfl : ';' = c := by simpa using hmem
      exact absurd (hplain.resolve_right fun h => h.1 howed) (by decide)
    | some d =>
      rw [hlast] at ihLast
      exact ⟨by simpa using ihLast, fun _ => by simp⟩
  | @literal owed text body quote hquote _ _ ih =>
    have hvisible : isBlank quote = false ∧ quote ≠ ';' := by
      rcases Lexeme.isQuote_iff.1 hquote with rfl | rfl <;> decide
    have hlast := @hfront (quote :: body) text quote hvisible.1 hvisible.2 ih.1
    exact ⟨hlast.1, fun _ => hlast.2⟩
  | @opens owed opening text inGroup closer hopens _ _ ih =>
    rw [lastVisible_append]
    cases hlast : lastVisible text with
    | none => exact absurd hlast (ih.2 (List.cons_ne_nil _ _))
    | some d =>
      have ihLast := ih.1
      rw [hlast] at ihLast
      exact ⟨by simpa using ihLast, fun _ => by simp⟩
  | @closes owed opening text inGroup closer hopens _ ih =>
    have hvisible : isBlank closer = false ∧ closer ≠ ';' := by cases hopens <;> decide
    have hlast := @hfront [] text closer hvisible.1 hvisible.2 ih.1
    exact ⟨hlast.1, fun _ => hlast.2⟩

end Closes

/-- Text that closes what it opens and what is owed is read as it stands. -/
theorem Braced.readStatement_closes {owed text : List Char} (h : Closes owed text)
    {rest : List Char} (hkeeps : KeepsSlash rest) (hbrace : rest.head? ≠ some '{') :
    readStatement owed (text ++ rest) = (readStatement [] rest).map (·.prepend text) := by
  induction h with
  | nil => exact (map_prepend_nil _).symm
  | @char owed text c hplain hslash htext ih =>
    have hhash : owed ≠ [] ∨ (text ++ rest).head? ≠ some '{' := by
      by_cases howed : owed = []
      · subst howed
        have hhead := htext.head?_ne
        cases text with
        | nil => exact .inr hbrace
        | cons d text => exact .inr hhead
      · exact .inl howed
    have hcomment : c = '/' → (text ++ rest).head? ≠ some '*' ∧
        ((!owed.contains ')') = true → (text ++ rest).head? ≠ some '/') := by
      intro hc
      cases text with
      | nil => exact hkeeps.opens_no_comment _
      | cons d text => exact ⟨(hslash hc).1, fun hnone => (hslash hc).2 (by simpa using hnone)⟩
    rw [List.cons_append, readStatement_char hplain hcomment hhash, ih, map_prepend_map]
    rfl
  | @literal owed text body quote hquote hbody _ ih =>
    rw [List.cons_append, List.append_assoc, List.cons_append,
      readStatement_literal owed hquote hbody, ih, map_prepend_map]
    simp
  | @opens owed opening text inGroup closer hopens howed _ ih =>
    rw [List.append_assoc, readStatement_open hopens howed, ih, map_prepend_map]
  | @closes owed opening text inGroup closer hopens _ ih =>
    rw [List.cons_append, readStatement_close hopens, ih, map_prepend_map]
    rfl

/-! ## Directives -/

/-- An import directive on a line of its own. -/
def importText (dialect : Dialect) (argument : List Char) : List Char :=
  match dialect with
  | .braced => "@import ".toList ++ argument ++ [';']
  | .indented => "@import ".toList ++ argument

/-- The directive as it is read. -/
def importRule (argument : List Char) : AtRule :=
  ⟨"import", String.ofList (Text.trim argument), false⟩

theorem closes_directive {argument : List Char} (h : Closes [] argument) :
    Closes [] ("@import ".toList ++ argument) :=
  .chars_append (Text.forall_mem_of_all (by decide)) h

theorem read_directive (argument : List Char) :
    Item.read (Text.trim ("@import ".toList ++ argument)) false =
      .ok (some (.atRule (importRule argument))) := by
  have hstart : Text.trimStart ("@import ".toList ++ argument) = "@import ".toList ++ argument :=
    Text.trimStart_eq_self fun c hc => by
      obtain rfl : '@' = c := Option.some.inj hc
      decide
  have hsplit : "@import ".toList ++ argument = "@import".toList ++ ' ' :: argument := by simp
  have htrim : Text.trim ("@import ".toList ++ argument) =
      '@' :: ("import".toList ++ Text.trimEnd (' ' :: argument)) := by
    have hlast : ∀ c ∈ "@import".toList.getLast?, isBlank c = false := by
      intro c hc
      obtain rfl : 't' = c := Option.some.inj hc
      decide
    rw [Text.trim, hstart, hsplit, Text.trimEnd_append_of_visible hlast]
    rfl
  have hparams : Text.trim (Text.trimEnd (' ' :: argument)) = Text.trim argument := by
    rw [Text.trim_trimEnd, Text.trim, ← List.singleton_append,
      Text.trimStart_append_left Text.isBlank_of_mem_space, ← Text.trim]
  have hhead : ∀ c ∈ (Text.trimEnd (' ' :: argument)).head?, isKeywordChar c = false := by
    obtain ⟨blanks, -, htext⟩ := Text.exists_trimEnd_append_blank (' ' :: argument)
    intro c hc
    obtain ⟨tail, htail⟩ := List.head?_eq_some_iff.1 hc
    rw [htail, List.cons_append] at htext
    rw [← (List.cons.inj htext).1]
    decide
  have hread := @Written.read_atRule "import".toList _ (Text.forall_mem_of_all (by decide))
    (by decide) _ hparams hhead false
  rw [htrim, Item.read, hread]
  rfl

theorem Braced.parse_importText {argument : List Char} (h : Closes [] argument) :
    Braced.parse (importText .braced argument) = .ok [⟨1, .atRule (importRule argument)⟩] := by
  obtain ⟨source, hsource⟩ : ∃ source, source = importText .braced argument := ⟨_, rfl⟩
  have hcons : source = '@' :: ("import ".toList ++ argument ++ [';']) := hsource
  have hfiller : skipFiller source = .ok ('@' :: ("import ".toList ++ argument ++ [';'])) :=
    hcons ▸ skipFiller_start (by decide) (by decide) fun hslash => absurd hslash (by decide)
  have hread : readStatement [] ("@import ".toList ++ argument ++ [';']) =
      .ok ⟨"@import ".toList ++ argument, .semicolon, []⟩ := by
    rw [readStatement_closes (closes_directive h) (.cons (by decide) _) (by simp),
      readStatement_semicolon]
    simp [Except.map, Reading.prepend]
  have hitem : readItem ('@' :: ("import ".toList ++ argument ++ [';'])) =
      .ok ⟨"@import ".toList ++ argument, false, []⟩ :=
    readItem_of_no_block hread (by simp)
  have hend : nodesFrom source [] = .ok [] := nodesFrom_end (by rw [skipFiller.eq_def])
  have hline : Text.lineOf source ('@' :: ("import ".toList ++ argument ++ [';'])) = 1 :=
    hcons ▸ Text.lineOf_self _
  have hnodes : nodesFrom source source = _ :=
    nodesFrom_item hfiller (by decide) hitem (read_directive argument)
  rw [← hsource, Braced.parse, hnodes, hend, hline]
  rfl

theorem Indented.parse_importText {argument : List Char} (h : Closes [] argument)
    (hline : '\n' ∉ argument) :
    Indented.parse (importText .indented argument) =
      .ok [⟨1, .atRule (importRule argument)⟩] := by
  obtain ⟨header, hheader⟩ : ∃ header, header = "@import ".toList ++ argument := ⟨_, rfl⟩
  have hcons : header = '@' :: ("import ".toList ++ argument) := hheader
  have hbreak : '\n' ∉ header := by
    rw [hheader, List.mem_append, not_or]
    exact ⟨by decide, hline⟩
  have hlines : Text.lines header = [header] := Text.lines_last hbreak (by simp [hcons])
  have hread : Braced.readStatement [] header = .ok ⟨header, .endOfText, []⟩ := by
    have hcloses : Closes [] header := hheader ▸ closes_directive h
    have hwhole := @Braced.readStatement_closes [] header hcloses [] (fun _ hc => nomatch hc)
      (by simp)
    rw [List.append_nil, readStatement_nil] at hwhole
    rw [hwhole]
    simp [Except.map, Braced.Reading.prepend]
  obtain ⟨text, htext, hsame⟩ := stripLine_of_readStatement hread rfl hbreak
  have hjoin : joinLines 1 [] [header] = .ok (text ++ [' '], []) := joinLines_last htext
  have htrim : Text.trim (text ++ [' ']) = Text.trim header := by
    rw [Text.trim_append_blanks text Text.isBlank_of_mem_space, ← hsame.trim_eq]
  have hlast : ¬ (Text.trim header).getLast? = some ';' := by
    have hstart : Text.trimStart header = header :=
      Text.trimStart_eq_self fun c hc => by
        rw [hcons] at hc
        obtain rfl : '@' = c := Option.some.inj hc
        decide
    rw [Text.trim, hstart, getLast?_trimEnd, hheader]
    exact (closes_directive h).lastVisible_ne.1
  have hitem : Item.read (Text.trim header) false = .ok (some (.atRule (importRule argument))) :=
    hheader ▸ read_directive argument
  have hstarts : isBlankLine header = false ∧ isIndented header = false ∧
      startsComment header = false := by
    rw [hcons]
    refine ⟨?_, ?_, ?_⟩
    · rw [isBlankLine, List.all_cons]
      rfl
    · rfl
    · rfl
  have htext' : importText .indented argument = header := hheader.symm
  rw [htext', Indented.parse, hlines, List.length_singleton, nodesOfLines_cons, hstarts.1,
    hstarts.2.1, hstarts.2.2, hjoin]
  dsimp only
  rw [if_neg Bool.false_ne_true, if_neg Bool.false_ne_true, if_neg Bool.false_ne_true, htrim,
    if_neg hlast]
  simp only [List.takeWhile_nil, List.any_nil, List.dropWhile_nil, hitem, nodesOfLines]
  rfl

/-- A directive with an argument on its line is a sheet of its own. -/
theorem parse_importText (dialect : Dialect) {argument : List Char} (h : Closes [] argument)
    (hline : '\n' ∉ argument) : parse dialect (importText dialect argument) =
      .ok ⟨[⟨1, .atRule (importRule argument)⟩]⟩ := by
  cases dialect with
  | braced =>
    rw [parse, Braced.parse_importText h]
    rfl
  | indented =>
    rw [parse, Indented.parse_importText h hline]
    rfl

/-! ## Arguments -/

variable {quote : Char}

theorem importPath_importRule (argument : List Char) :
    (importRule argument).importPath = (importTarget argument).map String.ofList := by
  rw [importRule, AtRule.importPath, if_pos ⟨rfl, rfl⟩, String.toList_ofList, importTarget,
    literalOf, Text.trim_trim, ← literalOf, ← importTarget]

/-- A literal that closes before the end is not the whole argument. -/
theorem literalTail_escape_append (hquote : quote ≠ '\\') (text : List Char) {more : List Char}
    (hmore : more ≠ []) : literalTail quote (escapeLiteral quote text ++ quote :: more) = none := by
  induction text with
  | nil =>
    obtain ⟨c, rest, rfl⟩ := List.exists_cons_of_ne_nil hmore
    rw [escapeLiteral, List.flatMap_nil, List.nil_append, literalTail, if_pos rfl]
    · rfl
    · simp
    · exact fun _ _ h => absurd h hquote
  | cons c text ih =>
    rw [escapeLiteral_cons]
    split
    · simp [literalTail, ih]
    · rename_i hc
      rw [not_or] at hc
      rw [List.append_assoc, List.singleton_append, literalTail, if_neg hc.2, ih]
      · rfl
      · simp
      · exact fun _ _ h => absurd h hc.1

theorem literalOf_literal_append (hquote : Lexeme.isQuote quote = true) (text : List Char)
    {more : List Char} (hmore : ∃ c ∈ more, isBlank c = false) :
    literalOf (literal quote text ++ more) = none := by
  obtain ⟨hhead, hlast⟩ := isTrimmed_literal hquote text
  have hstart : Text.trimStart (literal quote text ++ more) = literal quote text ++ more :=
    Text.trimStart_eq_self hhead
  have htrim : Text.trim (literal quote text ++ more) =
      quote :: (escapeLiteral quote text ++ quote :: Text.trimEnd more) := by
    rw [Text.trim, hstart, Text.trimEnd_append_of_visible hlast, literal]
    simp
  have hne : Text.trimEnd more ≠ [] := by
    intro hnil
    obtain ⟨blanks, hblanks, htext⟩ := Text.exists_trimEnd_append_blank more
    obtain ⟨c, hc, hvisible⟩ := hmore
    rw [hnil, List.nil_append] at htext
    rw [hblanks c (htext ▸ hc)] at hvisible
    cases hvisible
  have htail := literalTail_escape_append (ne_of_isQuote hquote (by decide)) text hne
  rw [literalOf, htrim]
  rcases Lexeme.isQuote_iff.1 hquote with rfl | rfl
  · exact htail
  · exact htail

theorem literalOf_of_not_quote {argument : List Char}
    (h : ∀ c ∈ (Text.trimStart argument).head?, Lexeme.isQuote c = false) :
    literalOf argument = none := by
  obtain ⟨blanks, -, hblanks⟩ := Text.exists_trimEnd_append_blank (Text.trimStart argument)
  have hhead : ∀ c ∈ (Text.trim argument).head?, Lexeme.isQuote c = false := by
    intro c hc
    obtain ⟨tail, htail⟩ := List.head?_eq_some_iff.1 hc
    rw [← Text.trim, htail] at hblanks
    exact h c (by rw [hblanks]; rfl)
  unfold literalOf
  split
  · rename_i htrim
    exact absurd (hhead '"' (by rw [htrim]; rfl)) (by decide)
  · rename_i htrim
    exact absurd (hhead '\'' (by rw [htrim]; rfl)) (by decide)
  · rfl

theorem closes_literal_append (hquote : Lexeme.isQuote quote = true) {text more : List Char}
    (htext : '\n' ∉ text) (h : Closes [] more) : Closes [] (literal quote text ++ more) := by
  have hcloses := Closes.literal hquote (literalBody_escapeLiteral htext) h
  rwa [← List.singleton_append (l := more), ← List.append_assoc, ← List.cons_append] at hcloses

/-- In both dialects the directive with this argument is read as one without a block, and these are
the files that it imports. -/
def ImportsExactly (argument : List Char) (files : List String) : Prop :=
  ∀ dialect, ∃ sheet rule, parse dialect (importText dialect argument) = .ok sheet ∧
    sheet.nodes = [⟨1, .atRule rule⟩] ∧ rule.keyword = "import" ∧ rule.hasBlock = false ∧
    sheet.imports = files

theorem importsExactly_of_closes {argument : List Char} (h : Closes [] argument)
    (hline : '\n' ∉ argument) :
    ImportsExactly argument ((importTarget argument).map String.ofList).toList := by
  intro dialect
  refine ⟨_, importRule argument, parse_importText dialect h hline, rfl, rfl, rfl, ?_⟩
  rw [← importPath_importRule, imports, List.filterMap_cons, Item.import?]
  cases (importRule argument).importPath <;> rfl

/-- **Import literals are read exactly.** In both dialects an import of a text on one line, escaped
and put in quotes, imports the file of that name, unless the text holds an interpolation; with more
behind the literal, and with an argument that does not start with a quote, it imports none. -/
theorem imports_are_read_exactly (hquote : Lexeme.isQuote quote = true) :
    (∀ text : String, '\n' ∉ text.toList →
      ImportsExactly (literal quote text.toList)
        (if ['#', '{'] <:+: text.toList then [] else [text])) ∧
    (∀ (text : String) (more : List Char), '\n' ∉ text.toList → Closes [] more → '\n' ∉ more →
      (∃ c ∈ more, isBlank c = false) →
      ImportsExactly (literal quote text.toList ++ more) []) ∧
    ∀ argument : List Char, Closes [] argument → '\n' ∉ argument →
      (∀ c ∈ (Text.trimStart argument).head?, Lexeme.isQuote c = false) →
      ImportsExactly argument [] := by
  have hbreak : ∀ {text : String}, '\n' ∉ text.toList → '\n' ∉ literal quote text.toList := by
    intro text htext hmem
    have hne : quote ≠ '\n' := ne_of_isQuote hquote (by decide)
    simp only [literal, List.mem_cons, List.mem_append, List.not_mem_nil, or_false] at hmem
    rcases hmem with hmem | hmem | hmem
    · exact hne hmem.symm
    · rcases mem_of_mem_escapeLiteral hmem with hmem | hmem
      · cases hmem
      · exact htext hmem
    · exact hne hmem.symm
  refine ⟨?literal, ?more, ?other⟩
  case literal =>
    intro text htext
    have hcloses := closes_literal_append hquote htext .nil
    rw [List.append_nil] at hcloses
    have himports := importsExactly_of_closes hcloses (hbreak htext)
    have hpath := importPath_importRule (literal quote text.toList)
    rw [importRule, Text.trim_eq_self (isTrimmed_literal hquote _), importPath_literal hquote]
      at hpath
    rw [← hpath] at himports
    split at himports <;> rename_i hinterpolation
    · rwa [if_pos hinterpolation]
    · rwa [if_neg hinterpolation]
  case more =>
    intro text more htext hcloses hline hmore
    have himports := importsExactly_of_closes (closes_literal_append hquote htext hcloses)
      fun hmem => (List.mem_append.1 hmem).elim (hbreak htext) hline
    rwa [importTarget, literalOf_literal_append hquote _ hmore] at himports
  case other =>
    intro argument hcloses hline hhead
    have himports := importsExactly_of_closes hcloses hline
    rwa [importTarget, literalOf_of_not_quote hhead] at himports

/-- A quote in a name, a list of two names, and an address with two slashes. -/
theorem imports_are_read_exactly_quotes :
    Lexeme.isQuote '\'' = true ∧ Closes [] ", 'b'".toList ∧ Closes [] "url(http://a.b)".toList ∧
    ImportsExactly "'it\\'s'".toList ["it's"] ∧
    ImportsExactly "'a', 'b'".toList [] ∧
    ImportsExactly "url(http://a.b)".toList [] := by
  have hquote : Lexeme.isQuote '\'' = true := by decide
  have hmore : Closes [] (", ".toList ++ '\'' :: (['b'] ++ ['\''])) :=
    .chars_append (Text.forall_mem_of_all (by decide))
      (.literal hquote (.char (by decide) (by decide) (fun h => absurd h (by decide)) .nil) .nil)
  have haddress : Closes [')'] ("http:".toList ++ '/' :: '/' :: ("a.b".toList ++ [')'])) :=
    .chars_append (Text.forall_mem_of_all (by decide))
      (.char (.inl (by decide)) (fun _ => ⟨by decide, by decide⟩)
        (.char (.inl (by decide)) (fun _ => ⟨by decide, by decide⟩)
          (.chars_append (Text.forall_mem_of_all (by decide))
          (.closes (@Opens.parenthesis false) .nil))))
  have hurl : Closes [] ("url".toList ++ (['('] ++ _)) :=
    .chars_append (Text.forall_mem_of_all (by decide))
      (.opens (@Opens.parenthesis false) (fun h => nomatch h) haddress)
  obtain ⟨hliteral, hlonger, hother⟩ := imports_are_read_exactly hquote
  have hsingle := hliteral "it's" (by decide)
  rw [if_neg (by decide)] at hsingle
  have hhead : ∀ c ∈ (Text.trimStart "url(http://a.b)".toList).head?, Lexeme.isQuote c = false := by
    intro c hc
    obtain rfl : 'u' = c := Option.some.inj hc
    decide
  exact ⟨hquote, hmore, hurl, hsingle,
    hlonger "a" _ (by decide) hmore (by decide) ⟨',', by decide, by decide⟩,
    hother _ hurl (by decide) hhead⟩

end StyleConstants.Stylesheet
