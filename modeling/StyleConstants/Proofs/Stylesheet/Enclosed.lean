import StyleConstants.Proofs.Stylesheet.ReadBack

/-!
# Text in parentheses

Two slashes open no comment in parentheses, so that a URL may stand there. What is meant as a line
comment in a map is read as part of the value then: its quotes and brackets count. If it closes
those that it opens, the map ends where it would end without it.

* `Enclosed`: text that closes what it opens, in parentheses.
* `readStatement_enclosed`: it is read as it stands, with block comments as spaces.
* `commented_maps_declare_one_variable`: a map with such comments is one declaration, as it is
  without them.
* `comments_end_maps`: other comments break the map or end it.
-/

namespace StyleConstants.Stylesheet

open Text (IsPlain LiteralBody IsTrimmed)

/-- Text in parentheses that closes what it opens, and what the reader keeps of it. -/
inductive Enclosed : List Char → List Char → Prop
  | nil : Enclosed [] []
  | char {c : Char} {text kept : List Char} (hplain : IsPlain c ∨ c = ';')
      (hslash : c = '/' → text.head? ≠ some '*') :
      Enclosed text kept → Enclosed (c :: text) (c :: kept)
  | literal {quote : Char} {body text kept : List Char} (hquote : Lexeme.isQuote quote = true)
      (hbody : LiteralBody false quote body) :
      Enclosed text kept →
      Enclosed (quote :: (body ++ quote :: text)) (quote :: (body ++ quote :: kept))
  | group {opening inner innerKept text kept : List Char} {closer : Char}
      (hopens : Opens true opening closer) :
      Enclosed inner innerKept → Enclosed text kept →
      Enclosed (opening ++ (inner ++ closer :: text)) (opening ++ (innerKept ++ closer :: kept))
  | comment {body text kept : List Char} (hbody : CommentBody body) :
      Enclosed text kept → Enclosed ('/' :: '*' :: (body ++ '*' :: '/' :: text)) (' ' :: kept)

/-- The texts may be joined where no comment arises at the joint. -/
theorem Enclosed.append {a keptA b keptB : List Char} (ha : Enclosed a keptA)
    (hb : Enclosed b keptB) (hstar : b.head? ≠ some '*') : Enclosed (a ++ b) (keptA ++ keptB) := by
  induction ha with
  | nil => exact hb
  | @char c text kept hplain hslash _ ih =>
    refine .char hplain (fun hc => ?_) ih
    cases text with
    | nil => exact hstar
    | cons d text => exact hslash hc
  | literal hquote hbody _ ih =>
    simp only [List.cons_append, List.append_assoc]
    exact .literal hquote hbody ih
  | group hopens hinner _ _ ih =>
    simp only [List.cons_append, List.append_assoc]
    exact .group hopens hinner ih
  | comment hbody _ ih =>
    simp only [List.cons_append, List.append_assoc]
    exact .comment hbody ih

theorem enclosed_of_plain {characters : List Char} (h : ∀ c ∈ characters, IsPlain c ∧ c ≠ '/') :
    Enclosed characters characters := by
  induction characters with
  | nil => exact .nil
  | cons c characters ih =>
    have hc := h c List.mem_cons_self
    exact .char (.inl hc.1) (fun hslash => absurd hslash hc.2)
      (ih fun d hd => h d (List.mem_cons_of_mem c hd))

namespace Braced

open Lexeme

theorem readStatement_blockComment {owed body : List Char} (hbody : CommentBody body)
    (rest : List Char) : readStatement owed ('/' :: '*' :: (body ++ '*' :: '/' :: rest)) =
      (readStatement owed rest).map (·.prepend [' ']) := by
  refine readStatement_next (next_blockComment _ hbody rest) ?_ rfl
  cases owed <;> rfl

/-- In parentheses a text that closes what it opens is read as it stands. -/
theorem readStatement_enclosed {text kept : List Char} (h : Enclosed text kept) :
    ∀ {owed rest : List Char}, ')' ∈ owed → rest.head? ≠ some '*' →
      readStatement owed (text ++ rest) = (readStatement owed rest).map (·.prepend kept) := by
  induction h with
  | nil =>
    intro owed rest _ _
    exact (map_prepend_nil _).symm
  | @char c text kept hplain hslash _ ih =>
    intro owed rest howed hstar
    have hne : owed ≠ [] := List.ne_nil_of_mem howed
    have hhead : c = '/' → (text ++ rest).head? ≠ some '*' := by
      intro hc
      cases text with
      | nil => exact hstar
      | cons d text => exact hslash hc
    rw [List.cons_append, readStatement_char (hplain.imp_right fun hc => ⟨hne, hc⟩)
      (fun hc => ⟨hhead hc, fun h => absurd h (by simp [howed])⟩) (.inl hne), ih howed hstar,
      map_prepend_map]
    rfl
  | @literal quote body text kept hquote hbody _ ih =>
    intro owed rest howed hstar
    rw [List.cons_append, List.append_assoc, List.cons_append,
      readStatement_literal owed hquote hbody, ih howed hstar, map_prepend_map]
    simp
  | @group opening inner innerKept text kept closer hopens _ _ ihInner ih =>
    intro owed rest howed hstar
    have hcloser : (closer :: (text ++ rest)).head? ≠ some '*' := by
      cases hopens <;> simp
    rw [List.append_assoc, List.append_assoc, List.cons_append,
      readStatement_open hopens (fun _ => List.ne_nil_of_mem howed),
      ihInner (List.mem_cons_of_mem closer howed) hcloser, readStatement_close hopens,
      ih howed hstar, map_prepend_map, map_prepend_map, map_prepend_map]
    simp
  | @comment body text kept hbody _ ih =>
    intro owed rest howed hstar
    simp only [List.cons_append, List.append_assoc]
    rw [readStatement_blockComment hbody, ih howed hstar, map_prepend_map]
    rfl

/-! ## A declaration of a group -/

/-- A value in parentheses is read to their end. -/
theorem readItem_parenthesized {name text kept : List Char} (hname : isVariableName name = true)
    (htext : Enclosed text kept) (rest : List Char) :
    readItem ('$' :: (name ++ ':' :: ' ' :: '(' :: (text ++ ')' :: ';' :: rest))) =
      .ok ⟨'$' :: (name ++ ':' :: ' ' :: '(' :: (kept ++ [')'])), false, rest⟩ := by
  have hfront : Balanced false ('$' :: (name ++ [':', ' '])) := by
    have hbalanced : Balanced false (('$' :: (name ++ [':', ' '])) ++ []) :=
      .chars_append (fun _ => Written.isPlain_of_mem_front hname) .nil
    rwa [List.append_nil] at hbalanced
  obtain ⟨tail, htail⟩ : ∃ tail, tail = ['('] ++ (text ++ ')' :: ';' :: rest) := ⟨_, rfl⟩
  have hkeeps : KeepsSlash tail := htail ▸ .cons (by decide) _
  have hhead : tail.head? ≠ some '{' := by simp [htail]
  have hopen := @readStatement_open [] ['('] false ')' .parenthesis (fun h => nomatch h)
    (text ++ ')' :: ';' :: rest)
  have hclose := @readStatement_close [] ['('] false ')' .parenthesis (';' :: rest)
  have hread : readStatement [] (('$' :: (name ++ [':', ' '])) ++ tail) =
      .ok ⟨'$' :: (name ++ ':' :: ' ' :: '(' :: (kept ++ [')'])), .semicolon, rest⟩ := by
    rw [readStatement_balanced hfront (fun h => nomatch h) hkeeps hhead, htail, hopen,
      readStatement_enclosed htext List.mem_cons_self (by simp), hclose, readStatement_semicolon]
    simp [Except.map, Reading.prepend]
  have hsplit : '$' :: (name ++ ':' :: ' ' :: '(' :: (text ++ ')' :: ';' :: rest)) =
      ('$' :: (name ++ [':', ' '])) ++ tail := by
    simp [htail]
  rw [hsplit, readItem, hread]
  simp

end Braced

/-! ## What it declares -/

theorem getLast?_parenthesized (front text : List Char) :
    (front ++ '(' :: (text ++ [')'])).getLast? = some ')' := by
  rw [← List.cons_append, ← List.append_assoc, List.getLast?_concat]

theorem isTrimmed_parenthesized (text : List Char) : IsTrimmed ('(' :: (text ++ [')'])) := by
  refine ⟨fun c hc => ?_, fun c hc => ?_⟩
  · obtain rfl := Option.some.inj hc
    decide
  · have hlast := getLast?_parenthesized [] text
    rw [List.nil_append] at hlast
    rw [hlast] at hc
    obtain rfl := Option.some.inj hc
    decide

/-- A value in parentheses ends in no flag. -/
theorem unflagged_parenthesized (text : List Char) (flag : Flag) :
    ¬ flag.text <:+ '(' :: (text ++ [')']) := by
  rintro ⟨front, hfront⟩
  have hne : flag.text ≠ [] := by cases flag <;> decide
  have hlast := getLast?_parenthesized [] text
  rw [List.nil_append, ← hfront, Text.getLast?_append_of_ne_nil hne] at hlast
  cases flag <;> exact absurd hlast (by decide)

/-- A declaration with a value in parentheses. -/
def groupText (name text : List Char) : List Char :=
  '$' :: (name ++ ':' :: ' ' :: '(' :: (text ++ [')', ';']))

/-- The sheet that declares one variable, with a value in parentheses. -/
def groupSheet (name kept : List Char) : Stylesheet :=
  ⟨[⟨1, .variable ⟨String.ofList name, String.ofList ('(' :: (kept ++ [')'])), false, false⟩⟩]⟩

theorem read_parenthesized {name : List Char} (hname : isVariableName name = true)
    (kept : List Char) :
    Item.read (Text.trim ('$' :: (name ++ ':' :: ' ' :: '(' :: (kept ++ [')'])))) false =
      .ok (some (.variable ⟨String.ofList name, String.ofList ('(' :: (kept ++ [')'])), false,
        false⟩)) := by
  have htrimmed : IsTrimmed ('$' :: (name ++ ':' :: ' ' :: '(' :: (kept ++ [')']))) := by
    refine ⟨fun c hc => ?_, fun c hc => ?_⟩
    · obtain rfl := Option.some.inj hc
      decide
    · have hfront : '$' :: (name ++ ':' :: ' ' :: '(' :: (kept ++ [')'])) =
          ('$' :: (name ++ [':', ' '])) ++ '(' :: (kept ++ [')']) := by
        simp
      rw [hfront, getLast?_parenthesized] at hc
      obtain rfl := Option.some.inj hc
      decide
  have hread := @Written.read_declaration name _ [] hname (List.cons_ne_nil '(' (kept ++ [')']))
    (isTrimmed_parenthesized kept) (unflagged_parenthesized kept) fun _ hflag => nomatch hflag
  rw [flagTexts, List.flatMap_nil, List.append_nil] at hread
  rw [Text.trim_eq_self htrimmed, Item.read, hread]
  rfl

theorem parse_groupText {name text kept : List Char} (hname : isVariableName name = true)
    (htext : Enclosed text kept) :
    parse .braced (groupText name text) = .ok (groupSheet name kept) := by
  have hfiller : Braced.skipFiller (groupText name text) = .ok (groupText name text) :=
    Braced.skipFiller_start (by decide) (by decide) fun h => absurd h (by decide)
  have hend : Braced.skipFiller [] = .ok [] := by
    rw [Braced.skipFiller.eq_def]
  have hline : Text.lineOf (groupText name text) (groupText name text) = 1 := Text.lineOf_self _
  have hnodes : Braced.nodesFrom (groupText name text) (groupText name text) = _ :=
    Braced.nodesFrom_item hfiller (by decide) (Braced.readItem_parenthesized hname htext [])
      (read_parenthesized hname kept)
  rw [Braced.nodesFrom_end hend] at hnodes
  rw [parse, Braced.parse, hnodes, ← groupText, hline]
  rfl

/-! ## Maps with comments -/

/-- An entry of a map on a line of its own, and the comment behind it, if there is one. -/
structure MapRow where
  key : List Char
  value : List Char
  comment : Option (List Char)

namespace MapRow

/-- The entry up to its comma. -/
def entry (row : MapRow) : List Char := row.key ++ ':' :: ' ' :: (row.value ++ [','])

/-- The comment with the slashes in front of it. -/
def commentText (row : MapRow) : List Char :=
  match row.comment with
  | none => []
  | some comment => ' ' :: '/' :: '/' :: ' ' :: comment

/-- The line that the entry stands on, with the break in front of it. -/
def line (row : MapRow) : List Char := '\n' :: (row.entry ++ row.commentText)

/-- The entry without its comment. -/
def uncommented (row : MapRow) : MapRow := { row with comment := none }

/-- Neither the key nor the value holds a quote, a bracket, a slash or a semicolon. -/
structure IsPlain (row : MapRow) : Prop where
  key : ∀ c ∈ row.key, Text.IsPlain c ∧ c ≠ '/'
  value : ∀ c ∈ row.value, Text.IsPlain c ∧ c ≠ '/'

/-- The comment, if there is one, closes what it opens. -/
def ClosesComment (row : MapRow) : Prop := ∀ comment ∈ row.comment, ∃ kept, Enclosed comment kept

theorem IsPlain.of_mem_entry {row : MapRow} (h : row.IsPlain) :
    ∀ c ∈ row.entry, Text.IsPlain c ∧ c ≠ '/' := by
  intro c hc
  simp only [entry, List.mem_append, List.mem_cons, List.not_mem_nil, or_false] at hc
  rcases hc with hc | rfl | rfl | hc | rfl
  · exact h.key c hc
  · decide
  · decide
  · exact h.value c hc
  · decide

theorem ClosesComment.commentText_enclosed {row : MapRow} (h : row.ClosesComment) :
    ∃ kept, Enclosed row.commentText kept := by
  cases hcomment : row.comment with
  | none => exact ⟨[], by simpa [commentText, hcomment] using Enclosed.nil⟩
  | some comment =>
    obtain ⟨kept, hkept⟩ := h comment hcomment
    have hslashes : Enclosed ('/' :: '/' :: ' ' :: comment) ('/' :: '/' :: ' ' :: kept) :=
      .char (.inl (by decide)) (by simp) (.char (.inl (by decide)) (by simp)
        (.char (.inl (by decide)) (by simp) hkept))
    have hspace : Enclosed (' ' :: '/' :: '/' :: ' ' :: comment)
        (' ' :: '/' :: '/' :: ' ' :: kept) :=
      .char (.inl (by decide)) (by simp) hslashes
    exact ⟨_, by rwa [commentText, hcomment]⟩

theorem commentText_head_ne_star (row : MapRow) : row.commentText.head? ≠ some '*' := by
  cases hcomment : row.comment <;> simp [commentText, hcomment]

theorem line_enclosed {row : MapRow} (hplain : row.IsPlain) (hcloses : row.ClosesComment) :
    ∃ kept, Enclosed row.line kept := by
  obtain ⟨kept, hkept⟩ := hcloses.commentText_enclosed
  have hentry := (enclosed_of_plain hplain.of_mem_entry).append hkept row.commentText_head_ne_star
  exact ⟨_, .char (.inl (by decide)) (by simp) hentry⟩

end MapRow

/-- The lines between the parentheses of a map. -/
def mapBody (rows : List MapRow) : List Char := rows.flatMap MapRow.line ++ ['\n']

/-- A declaration of a map with these entries. -/
def mapText (name : List Char) (rows : List MapRow) : List Char := groupText name (mapBody rows)

theorem mapBody_enclosed {rows : List MapRow} (hplain : ∀ row ∈ rows, row.IsPlain)
    (hcloses : ∀ row ∈ rows, row.ClosesComment) : ∃ kept, Enclosed (mapBody rows) kept := by
  induction rows with
  | nil => exact ⟨_, .char (.inl (by decide)) (by simp) .nil⟩
  | cons row rows ih =>
    obtain ⟨kept, hkept⟩ := ih (fun r hr => hplain r (List.mem_cons_of_mem row hr))
      fun r hr => hcloses r (List.mem_cons_of_mem row hr)
    obtain ⟨keptLine, hline⟩ :=
      MapRow.line_enclosed (hplain row List.mem_cons_self) (hcloses row List.mem_cons_self)
    have hstar : (mapBody rows).head? ≠ some '*' := by
      cases rows <;> simp [mapBody, MapRow.line]
    refine ⟨keptLine ++ kept, ?_⟩
    rw [mapBody, List.flatMap_cons, List.append_assoc]
    exact hline.append hkept hstar

/-- Without comments a map is kept as it stands. -/
theorem mapBody_uncommented_enclosed {rows : List MapRow} (hplain : ∀ row ∈ rows, row.IsPlain) :
    Enclosed (mapBody (rows.map MapRow.uncommented)) (mapBody (rows.map MapRow.uncommented)) := by
  refine enclosed_of_plain fun c hc => ?_
  rcases List.mem_append.1 hc with hc | hc
  · obtain ⟨row, hrow, hc⟩ := List.mem_flatMap.1 hc
    obtain ⟨origin, horigin, rfl⟩ := List.mem_map.1 hrow
    rcases List.mem_cons.1 hc with rfl | hc
    · decide
    · simp only [MapRow.commentText, MapRow.uncommented, List.append_nil] at hc
      exact (hplain origin horigin).of_mem_entry c hc
  · obtain rfl := List.mem_singleton.1 hc
    decide

/-- Comments in a map that close the quotes, brackets and comments that they open do not change what
is declared: one variable, as without them. -/
theorem commented_maps_declare_one_variable {name : List Char} {rows : List MapRow}
    (hname : isVariableName name = true) (hplain : ∀ row ∈ rows, row.IsPlain)
    (hcloses : ∀ row ∈ rows, row.ClosesComment) :
    ∃ kept, Enclosed (mapBody rows) kept ∧
      parse .braced (mapText name rows) = .ok (groupSheet name kept) ∧
      parse .braced (mapText name (rows.map MapRow.uncommented)) =
        .ok (groupSheet name (mapBody (rows.map MapRow.uncommented))) ∧
      (groupSheet name kept).variableNames = [String.ofList name] ∧
      (groupSheet name (mapBody (rows.map MapRow.uncommented))).variableNames =
        [String.ofList name] := by
  obtain ⟨kept, hkept⟩ := mapBody_enclosed hplain hcloses
  exact ⟨kept, hkept, parse_groupText hname hkept,
    parse_groupText hname (mapBody_uncommented_enclosed hplain), rfl, rfl⟩

/-- A comment with a bracket that it closes and a semicolon, and an entry without a comment. -/
theorem commented_maps_declare_one_variable_brackets :
    mapText ['m'] [⟨['a'], ['1'], some "see (b);".toList⟩, ⟨['c'], ['2'], none⟩] =
      "$m: (\na: 1, // see (b);\nc: 2,\n);".toList ∧
    ∃ kept, parse .braced "$m: (\na: 1, // see (b);\nc: 2,\n);".toList =
        .ok (groupSheet ['m'] kept) ∧
      (groupSheet ['m'] kept).variableNames = ["m"] := by
  have htext : mapText ['m'] [⟨['a'], ['1'], some "see (b);".toList⟩, ⟨['c'], ['2'], none⟩] =
      "$m: (\na: 1, // see (b);\nc: 2,\n);".toList := by decide
  have hplain : ∀ row ∈ [MapRow.mk ['a'] ['1'] (some "see (b);".toList), ⟨['c'], ['2'], none⟩],
      row.IsPlain := by
    intro row hrow
    simp only [List.mem_cons, List.not_mem_nil, or_false] at hrow
    rcases hrow with rfl | rfl <;>
      exact ⟨Text.forall_mem_of_all (by decide), Text.forall_mem_of_all (by decide)⟩
  have hgroup : Enclosed (['('] ++ (['b'] ++ ')' :: [';'])) (['('] ++ (['b'] ++ ')' :: [';'])) :=
    .group .parenthesis (enclosed_of_plain (Text.forall_mem_of_all (by decide)))
      (.char (.inr rfl) (by simp) .nil)
  have hsee : Enclosed "see ".toList "see ".toList :=
    enclosed_of_plain (Text.forall_mem_of_all (by decide))
  have hcomment := hsee.append hgroup (by simp)
  have hcloses : ∀ row ∈ [MapRow.mk ['a'] ['1'] (some "see (b);".toList), ⟨['c'], ['2'], none⟩],
      row.ClosesComment := by
    intro row hrow comment hmem
    simp only [List.mem_cons, List.not_mem_nil, or_false] at hrow
    rcases hrow with rfl | rfl
    · cases hmem
      exact ⟨_, hcomment⟩
    · cases hmem
  obtain ⟨kept, -, hparse, -, hnames, -⟩ :=
    @commented_maps_declare_one_variable ['m'] _ (by decide) hplain hcloses
  exact ⟨htext, kept, htext ▸ hparse, hnames⟩

/-- A comment that opens a quote breaks the map, and one that closes the map ends it: a second
variable is declared. -/
theorem comments_end_maps :
    '\n' ∉ "don't".toList ∧ '\n' ∉ "); $b: (2".toList ∧
    (parse .braced (mapText ['m'] [⟨['a'], ['1'], some "don't".toList⟩])).toOption = none ∧
    (parse .braced (mapText ['m'] [⟨['a'], ['1'], some "); $b: (2".toList⟩])).toOption.map
      Stylesheet.variableNames = some ["m", "b"] ∧
    (parse .braced (mapText ['m'] [⟨['a'], ['1'], none⟩])).toOption.map
      Stylesheet.variableNames = some ["m"] := by
  decide +kernel

end StyleConstants.Stylesheet
