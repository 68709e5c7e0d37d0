import StyleConstants.Proofs.Stylesheet.Cursor.Lexemes
import StyleConstants.Proofs.Stylesheet.Dialects

/-!
# The dialect with indentation, read with a cursor

The loops over a line end with what remains of the line without its comments, those over the lines
with what the readers of the dialect give for the lines from their place on.

* `closeComment_bytes`: a comment ends where its end is found in the bytes.
* `literalTurn_sound`, `stripTurn_sound`: the turns on a line that holds no line break.
* `joinTurn_sound`, `beneathTurn_sound`, `sheetTurn_sound`: the turns over lines.
-/

namespace StyleConstants.Stylesheet.Indented

open Lexeme Loop
open Text (byteIndex? takeBytes?)
open Text.Utf8 (encode)

/-! ## Literals -/

section Literal

variable {line tail : List Char} {place : Nat} {c : Char}

/-- What a literal is when reading stands behind its opening quote. -/
def literalValue (line : List Char) (quote : Char) (cut : Cut) : Except Cause Cut :=
  (Braced.literalValue line quote cut).mapError (·.cause)

theorem ne_break (hline : '\n' ∉ line) (h : Reads line place c tail) : c ≠ '\n' := by
  rintro rfl
  exact hline (List.mem_of_getElem? h.get)

theorem literalTurn_sound (hline : '\n' ∉ line) (quote : Char) {cut : Cut}
    (h : cut.place ≤ line.length) :
    IsSound (fun cut : Cut => cut.place ≤ line.length) (·.place)
      (fun cut result => result = literalValue line quote cut) cut
      (literalTurn line quote cut) := by
  obtain ⟨text, place⟩ := cut
  unfold literalTurn
  rcases place_cases h with ⟨hget, hdrop, -⟩ | ⟨c, tail, hc⟩
  · dsimp only
    rw [hget]
    refine .stop ?_
    rw [literalValue, Braced.literalValue, hdrop, closeQuote]
    rfl
  · dsimp only
    rw [hc.get, hc.next]
    dsimp only
    by_cases hescape : c = '\\'
    · subst hescape
      rw [if_pos rfl]
      cases tail with
      | nil =>
        refine .again_of_value hc.lt (Nat.lt_succ_self place) ?_
        rw [literalValue, literalValue, Braced.literalValue, Braced.literalValue, hc.rest, hc.drop,
          closeQuote, closeQuote]
      | cons escaped rest =>
        have hd := reads_of_drop hc.rest
        refine .again_of_value hd.lt (Nat.lt_add_of_pos_right Nat.two_pos) ?_
        refine congrArg (Except.mapError _) (Braced.literalValue_passed ?_)
        rw [hd.rest, hc.drop, closeQuote]
        rfl
    rw [if_neg hescape]
    have hclose := Braced.closeQuote_char quote (ne_break hline hc) hescape tail
    by_cases hquote : c = quote
    · rw [if_pos hquote]
      refine .stop ?_
      rw [literalValue, Braced.literalValue, hc.drop, hclose, if_pos hquote]
      dsimp only
      rw [hc.placeOf_tail]
      rfl
    · rw [if_neg hquote]
      refine .again_of_value hc.lt (Nat.lt_succ_self place) ?_
      refine congrArg (Except.mapError _) (Braced.literalValue_passed ?_)
      rw [hc.rest, hc.drop, hclose, if_neg hquote]
      rfl

theorem literal_progresses (hline : '\n' ∉ line) (quote : Char) (cut : Cut)
    (h : cut.place ≤ line.length) :
    Progresses (literalTurn line quote) (·.place) line.length cut (literalValue line quote cut) :=
  progresses_of_value (fun _ => literalTurn_sound hline quote) (fun _ => id) h

/-- On a line literals end as they do elsewhere. -/
theorem literal_fix (hline : '\n' ∉ line) (text : List Char) (h : Reads line place c tail) :
    (literalTurn line c).fix ⟨text ++ [c], place + 1⟩ =
      (Braced.literalEnd line ⟨text, place⟩).map (·.mapError (·.cause)) := by
  rw [(literal_progresses hline c ⟨text ++ [c], place + 1⟩ h.lt).ends, Braced.literalEnd_eq text h,
    Part.map_some, literalValue]

end Literal

/-! ## Comments -/

theorem closer_ascii : ∀ c ∈ ['*', '/'], c.toNat < 128 := by
  rw [List.forall_mem_cons, List.forall_mem_singleton]
  exact ⟨by decide, by decide⟩

/-- The end of a comment is where its bytes are found. -/
theorem closeComment_bytes (text : List Char) :
    match closeComment text with
    | none => byteIndex? (encode ['*', '/']) (encode text) = none
    | some after => ∃ passed, text = passed ++ (['*', '/'] ++ after) ∧
        byteIndex? (encode ['*', '/']) (encode text) = some (encode passed).length := by
  fun_induction closeComment text with
  | case1 => rfl
  | case2 rest => exact ⟨[], rfl, Text.byteIndex?_encode_append ['*', '/'] rest⟩
  | case3 c rest hopen ih =>
    have hno : ¬ ['*', '/'] <+: c :: rest := by
      rintro ⟨more, hmore⟩
      cases hmore
      exact hopen more rfl rfl
    have hindex := Text.byteIndex?_encode_cons closer_ascii (List.cons_ne_nil _ _) hno
    cases hclose : closeComment rest with
    | none =>
      rw [hclose] at ih
      dsimp only at ih ⊢
      rw [hindex, ih]
      rfl
    | some after =>
      rw [hclose] at ih
      obtain ⟨passed, rfl, hpassed⟩ := ih
      refine ⟨c :: passed, rfl, ?_⟩
      rw [hindex, hpassed, Text.encode_cons, List.length_append, String.length_utf8EncodeChar,
        Nat.add_comm]
      rfl

/-! ## Lines -/

section Line

variable {line tail text owed : List Char} {place : Nat} {c : Char}

/-- What remains of a line of which a part was read. -/
def stripValue (line : List Char) (scan : Scan) : Except Cause (List Char × List Char) :=
  (stripLine scan.owed (line.drop scan.place)).map fun (more, owed) => (scan.text ++ more, owed)

/-- A turn for lines is sound if it keeps to the line and what remains of it stays as it is. -/
abbrev IsStripTurn (line : List Char) (scan : Scan) :
    Part (Except Cause (List Char × List Char) ⊕ Scan) → Prop :=
  IsSound (fun scan : Scan => scan.place ≤ line.length) (·.place)
    (fun scan result => result = stripValue line scan) scan

theorem strip_fault {cause : Cause} (h : stripLine owed (line.drop place) = .error cause) :
    IsStripTurn line ⟨text, owed, place⟩ (.some (.inl (.error cause))) := by
  refine .stop ?_
  rw [stripValue, h]
  rfl

theorem strip_end (h : stripLine owed (line.drop place) = .ok ([], owed)) :
    IsStripTurn line ⟨text, owed, place⟩ (.some (.inl (.ok (text, owed)))) := by
  refine .stop ?_
  rw [stripValue, h, Except.map]
  dsimp only
  rw [List.append_nil]

/-- A lexeme that does not end the line is a turn of the loop. -/
theorem strip_again {owed' : List Char} {lexeme : Lexeme} {after : Nat}
    (h : Takes (!owed.contains ')') line place lexeme after) (hlexeme : lexeme ≠ .lineComment)
    (hnest : lexeme.nest owed = .ok owed') :
    IsStripTurn line ⟨text, owed, place⟩
      (.some (.inr ⟨text ++ lexeme.rendered, owed', after⟩)) := by
  refine .again_of_value h.le h.lt ?_
  rw [stripValue, stripValue, stripLine_eq owed, h.next]
  dsimp only
  rw [if_neg hlexeme, hnest]
  dsimp only
  cases stripLine owed' (line.drop after) with
  | error cause => rfl
  | ok pair => simp [Except.map]

theorem commentTurn_sound (h : Reads line place '/' ('*' :: tail)) :
    IsStripTurn line ⟨text, owed, place⟩ (commentTurn line text owed place) := by
  unfold commentTurn
  have hstar := reads_of_drop h.rest
  have hbytes := closeComment_bytes tail
  rw [hstar.rest]
  cases hclose : closeComment tail with
  | none =>
    rw [hclose] at hbytes
    dsimp only at hbytes
    rw [hbytes]
    refine strip_end ?_
    rw [h.drop, stripLine_eq, next, hclose]
    exact if_pos rfl
  | some after =>
    have htakes : Takes (!owed.contains ')') line place .blockComment (placeOf line after) :=
      h.takes (by rw [next, hclose])
    rw [hclose] at hbytes
    obtain ⟨passed, htail, hindex⟩ := hbytes
    have hplace : placeOf line after = place + 2 + passed.length + 2 := by
      have hlength := congrArg List.length hstar.rest
      rw [List.length_drop, htail, List.length_append, List.length_append] at hlength
      have hlt := hstar.lt
      rw [placeOf]
      simp only [List.length_cons, List.length_nil] at hlength
      omega
    rw [hindex, htail]
    dsimp only
    rw [Text.takeBytes?_encode, Part.ofOption, Part.map_some, ← hplace]
    exact strip_again htakes (by simp) rfl

theorem stripTurn_sound (hline : '\n' ∉ line) {scan : Scan} (h : scan.place ≤ line.length) :
    IsStripTurn line scan (stripTurn line scan) := by
  obtain ⟨text, owed, place⟩ := scan
  unfold stripTurn
  rcases place_cases h with ⟨hget, hdrop, -⟩ | ⟨c, tail, hc⟩
  · dsimp only at hget hdrop ⊢
    rw [hget]
    refine strip_end ?_
    rw [hdrop, stripLine_nil]
  · dsimp only at h hc ⊢
    rw [hc.get, hc.next]
    dsimp only
    by_cases hquote : isQuote c = true
    · rw [if_pos hquote]
      have hfix := literal_fix hline text hc
      rcases hc.literal (!owed.contains ')') text hquote with
        ⟨rest, hfault, hnext⟩ | ⟨read, after, hread, htakes⟩
      · rw [hfault, Part.map_some] at hfix
        rw [orFault_error hfix]
        refine strip_fault ?_
        rw [stripLine_eq, hnext]
        exact if_neg (by simp)
      · rw [hread, Part.map_some] at hfix
        rw [orFault_ok hfix]
        exact strip_again htakes (by simp) rfl
    rw [if_neg hquote]
    by_cases hcomment : c = '/' ∧ tail.head? = some '/' ∧ ')' ∉ owed
    · rw [if_pos hcomment]
      obtain ⟨rfl, hslash, howed⟩ := hcomment
      obtain ⟨rest, rfl⟩ := List.head?_eq_some_iff.1 hslash
      have hcomments : (!owed.contains ')') = true := by simpa using howed
      refine strip_end ?_
      rw [hc.drop, stripLine_eq, hcomments, next]
      exact if_pos rfl
    rw [if_neg hcomment]
    by_cases hstar : c = '/' ∧ tail.head? = some '*'
    · rw [if_pos hstar]
      obtain ⟨rfl, hhead⟩ := hstar
      obtain ⟨rest, rfl⟩ := List.head?_eq_some_iff.1 hhead
      exact commentTurn_sound hc
    rw [if_neg hstar]
    by_cases hbrace : c = '#' ∧ tail.head? = some '{'
    · rw [if_pos hbrace]
      obtain ⟨rfl, hhead⟩ := hbrace
      obtain ⟨rest, rfl⟩ := List.head?_eq_some_iff.1 hhead
      have hd := reads_of_drop hc.rest
      have htakes : Takes (!owed.contains ')') line place .interpolation (place + 1 + 1) :=
        hd.placeOf_tail ▸ hc.takes rfl
      exact strip_again htakes (by simp) rfl
    rw [if_neg hbrace]
    have hnext : next (!owed.contains ')') (c :: tail) = .ok (some (.char c, tail)) := by
      refine next_eq_char (Bool.not_eq_true _ ▸ hquote) (fun hslash => ⟨?_, ?_⟩) fun hhash => ?_
      · exact fun hhead => hstar ⟨hslash, hhead⟩
      · exact fun howed hhead => hcomment ⟨hslash, hhead, by simpa using howed⟩
      · exact fun hhead => hbrace ⟨hhash, hhead⟩
    cases hnest : nest owed (.char c) with
    | error cause =>
      refine strip_fault ?_
      rw [hc.drop, stripLine_eq, hnext]
      dsimp only
      rw [if_neg (by simp), hnest]
    | ok owed' => exact strip_again (hc.placeOf_tail ▸ hc.takes hnext) (by simp) hnest

/-- The character of two bytes counts as one. -/
example : stripTurn "/*é*/b".toList ⟨[], [], 0⟩ = .some (.inr ⟨[' '], [], 5⟩) := rfl

theorem strip_progresses (hline : '\n' ∉ line) (scan : Scan) (h : scan.place ≤ line.length) :
    Progresses (stripTurn line) (·.place) line.length scan (stripValue line scan) :=
  progresses_of_value (fun _ => stripTurn_sound hline) (fun _ => id) h

theorem stripEnd_eq (hline : '\n' ∉ line) (owed : List Char) :
    stripEnd line owed = .some (stripLine owed line) := by
  rw [stripEnd, (strip_progresses hline ⟨[], owed, 0⟩ (Nat.zero_le _)).ends, stripValue]
  cases hstrip : stripLine owed line <;> simp [Except.map, hstrip]

end Line

/-! ## Statements -/

section Join

variable {lines : List (List Char)} (hlines : ∀ line ∈ lines, '\n' ∉ line)

/-- The number of a line by the lines below. -/
theorem line_number {place : Nat} {line : List Char} {rest : List (List Char)}
    (h : Reads lines place line rest) : lines.length - rest.length = place + 1 :=
  h.placeOf_tail

/-- What the statement is of which a part was read. -/
def joinValue (lines : List (List Char)) (scan : Scan) : Except Rejection Cut :=
  (joinLines lines.length scan.owed (lines.drop scan.place)).map fun (more, after) =>
    ⟨scan.text ++ more, placeOf lines after⟩

include hlines

theorem joinTurn_sound {scan : Scan} (h : scan.place < lines.length) :
    IsSound (fun scan : Scan => scan.place < lines.length) (·.place)
      (fun scan result => result = joinValue lines scan) scan (joinTurn lines scan) := by
  obtain ⟨text, owed, place⟩ := scan
  dsimp only at h
  obtain ⟨rest, hc⟩ := exists_reads_of_get (List.getElem?_eq_getElem h)
  generalize lines[place] = line at hc
  have hstrip := stripEnd_eq (hlines line (List.mem_of_getElem? hc.get)) owed
  unfold joinTurn
  dsimp only
  rw [hc.get, Part.ofOption, Part.bind_some, hstrip, Part.bind_some]
  have hnumber := line_number hc
  cases hread : stripLine owed line with
  | error cause =>
    refine .stop ?_
    rw [joinValue, hc.drop, joinLines_fault hread, hnumber]
    rfl
  | ok pair =>
    obtain ⟨more, owed'⟩ := pair
    dsimp only
    by_cases howed : owed' = []
    · subst howed
      rw [if_pos rfl]
      refine .stop ?_
      rw [joinValue, hc.drop, joinLines_last hread, Except.map]
      dsimp only
      rw [hc.placeOf_tail, List.append_assoc]
    rw [if_neg howed]
    by_cases hlast : lines.length ≤ place + 1
    · rw [if_pos hlast]
      refine .stop ?_
      have hrest : rest = [] := by rw [← hc.rest, List.drop_eq_nil_of_le hlast]
      have htotal : lines.length = place + 1 := Nat.le_antisymm hlast hc.lt
      rw [joinValue, hc.drop, joinLines_open hread howed, hrest, joinLines, htotal]
      rfl
    · rw [if_neg hlast]
      refine .again_of_value (Nat.lt_of_not_le hlast) (Nat.lt_succ_self place) ?_
      rw [joinValue, joinValue, hc.rest, hc.drop, joinLines_open hread howed]
      cases joinLines lines.length owed' rest with
      | error rejection => rfl
      | ok pair => simp [Except.map]

theorem join_progresses (scan : Scan) (h : scan.place < lines.length) :
    Progresses (joinTurn lines) (·.place) lines.length scan (joinValue lines scan) :=
  progresses_of_value (fun _ => joinTurn_sound hlines) (fun _ => Nat.le_of_lt) h

theorem joinEnd_eq {place : Nat} {line : List Char} {rest : List (List Char)}
    (h : Reads lines place line rest) :
    joinEnd lines place = .some ((joinLines lines.length [] (line :: rest)).map
      fun (text, after) => ⟨text, placeOf lines after⟩) := by
  rw [joinEnd, (join_progresses hlines ⟨[], [], place⟩ h.lt).ends, joinValue, h.drop]
  rfl

end Join

/-! ## Blocks -/

section Beneath

variable {lines : List (List Char)} {place : Nat}

/-- What is beneath a statement when some lines beneath it were passed. -/
def beneathValue (lines : List (List Char)) (beneath : Beneath) : Beneath :=
  let rest := lines.drop beneath.place
  ⟨beneath.hasBlock || (rest.takeWhile isNested).any (!isBlankLine ·),
    placeOf lines (rest.dropWhile isNested)⟩

theorem beneathTurn_sound {beneath : Beneath} (h : beneath.place ≤ lines.length) :
    IsSound (fun beneath : Beneath => beneath.place ≤ lines.length) (·.place)
      (fun beneath result => result = beneathValue lines beneath) beneath
      (beneathTurn lines beneath) := by
  obtain ⟨hasBlock, place⟩ := beneath
  unfold beneathTurn
  rcases place_cases h with ⟨hget, hdrop, hplace⟩ | ⟨line, rest, hc⟩
  · dsimp only at hget hdrop hplace ⊢
    rw [hget]
    refine .stop ?_
    simp [beneathValue, hdrop, ← hplace]
  · dsimp only at h hc ⊢
    rw [hc.get]
    dsimp only
    by_cases hnested : isNested line = true
    · rw [if_pos hnested]
      refine .again_of_value hc.lt (Nat.lt_succ_self place) ?_
      simp [beneathValue, hc.rest, hc.drop, hnested, Bool.or_assoc]
    · rw [if_neg hnested]
      refine .stop ?_
      rw [beneathValue, hc.drop, List.takeWhile_cons_of_neg hnested,
        List.dropWhile_cons_of_neg hnested, ← hc.drop, placeOf_drop h]
      simp

theorem beneath_progresses (beneath : Beneath) (h : beneath.place ≤ lines.length) :
    Progresses (beneathTurn lines) (·.place) lines.length beneath (beneathValue lines beneath) :=
  progresses_of_value (fun _ => beneathTurn_sound) (fun _ => id) h

theorem beneathEnd_eq (h : place ≤ lines.length) :
    beneathEnd lines place = .some ⟨((lines.drop place).takeWhile isNested).any (!isBlankLine ·),
      placeOf lines ((lines.drop place).dropWhile isNested)⟩ :=
  (beneath_progresses ⟨false, place⟩ h).ends

end Beneath

/-! ## Sheets -/

section Sheet

variable {lines rest : List (List Char)} {line : List Char} {place : Nat}
  (hlines : ∀ line ∈ lines, '\n' ∉ line)

/-- The nodes of a sheet of which a part was read. -/
def sheetValue (lines : List (List Char)) (begun : Begun) : Except Rejection (List Node) :=
  (nodesOfLines lines.length (lines.drop begun.place)).map (begun.nodes ++ ·)

include hlines

/-- A turn for sheets is sound if it keeps to the lines and the nodes stay as they are. -/
abbrev IsSheetTurn (lines : List (List Char)) (begun : Begun) :
    Part (Except Rejection (List Node) ⊕ Begun) → Prop :=
  IsSound (fun begun : Begun => begun.place ≤ lines.length) (·.place)
    (fun begun result => result = sheetValue lines begun) begun

theorem itemTurn_sound {nodes : List Node} (hblank : ¬ isBlankLine line = true)
    (hindented : ¬ isIndented line = true) (hcomment : ¬ startsComment line = true)
    (hc : Reads lines place line rest) :
    IsSheetTurn lines ⟨nodes, place⟩ (itemTurn lines nodes place) := by
  have hnodes := nodesOfLines_cons lines.length line rest
  rw [line_number hc, if_neg hblank, if_neg hindented, if_neg hcomment] at hnodes
  have hend := joinEnd_eq hlines hc
  unfold itemTurn
  cases hjoin : joinLines lines.length [] (line :: rest) with
  | error rejection =>
    rw [hjoin] at hend hnodes
    rw [orFault_error hend]
    refine .stop ?_
    rw [sheetValue, hc.drop, hnodes]
    rfl
  | ok pair =>
    obtain ⟨text, after⟩ := pair
    rw [hjoin] at hend hnodes
    obtain ⟨_, _, hcons, hsuffix⟩ := joinLines_suffix hjoin
    obtain ⟨-, rfl⟩ := List.cons.inj hcons
    have hbelow : after.dropWhile isNested <:+ rest := (List.dropWhile_suffix _).trans hsuffix
    obtain ⟨-, hle, hdrop⟩ := hc.placeOf_suffix hsuffix
    obtain ⟨hlt', hle', hdrop'⟩ := hc.placeOf_suffix hbelow
    rw [orFault_ok hend, beneathEnd_eq hle, Part.bind_some, hdrop]
    dsimp only at hnodes ⊢
    by_cases hsemicolon : (Text.trim text).getLast? = some ';'
    · rw [if_pos hsemicolon] at hnodes ⊢
      refine .stop ?_
      rw [sheetValue, hc.drop, hnodes]
      rfl
    rw [if_neg hsemicolon] at hnodes ⊢
    cases hread : Item.read (Text.trim text) ((after.takeWhile isNested).any (!isBlankLine ·)) with
    | error cause =>
      rw [hread] at hnodes
      refine .stop ?_
      rw [sheetValue, hc.drop, hnodes]
      rfl
    | ok item? =>
      rw [hread] at hnodes
      cases item? with
      | none =>
        refine .again_of_value hle' hlt' ?_
        rw [sheetValue, sheetValue, hdrop', hc.drop, hnodes]
      | some item =>
        refine .again_of_value hle' hlt' ?_
        rw [sheetValue, sheetValue, hdrop', hc.drop, hnodes]
        cases nodesOfLines lines.length (after.dropWhile isNested) <;> simp [Except.map]

theorem sheetTurn_sound {begun : Begun} (h : begun.place ≤ lines.length) :
    IsSheetTurn lines begun (sheetTurn lines begun) := by
  obtain ⟨nodes, place⟩ := begun
  unfold sheetTurn
  rcases place_cases h with ⟨hget, hdrop, -⟩ | ⟨line, rest, hc⟩
  · dsimp only at hget hdrop ⊢
    rw [hget]
    refine .stop ?_
    rw [sheetValue, hdrop, nodesOfLines, Except.map, List.append_nil]
  · dsimp only at h hc ⊢
    have hnodes := nodesOfLines_cons lines.length line rest
    rw [line_number hc] at hnodes
    rw [hc.get]
    dsimp only
    by_cases hblank : isBlankLine line = true
    · rw [if_pos hblank] at hnodes ⊢
      refine .again_of_value hc.lt (Nat.lt_succ_self place) ?_
      rw [sheetValue, sheetValue, hc.rest, hc.drop, hnodes]
    rw [if_neg hblank] at hnodes ⊢
    by_cases hindented : isIndented line = true
    · rw [if_pos hindented] at hnodes ⊢
      refine .stop ?_
      rw [sheetValue, hc.drop, hnodes]
      rfl
    rw [if_neg hindented] at hnodes ⊢
    by_cases hcomment : startsComment line = true
    · rw [if_pos hcomment] at hnodes ⊢
      obtain ⟨hlt, hle, hdrop⟩ := hc.placeOf_suffix (List.dropWhile_suffix (l := rest) isNested)
      rw [beneathEnd_eq hc.lt, hc.rest, Part.map_some]
      refine .again_of_value hle hlt ?_
      rw [sheetValue, sheetValue, hdrop, hc.drop, hnodes]
    rw [if_neg hcomment]
    exact itemTurn_sound hlines hblank hindented hcomment hc

end Sheet

/-- The loop over the lines of a sheet ends with what the sheet spells. -/
theorem sheet_progresses (source : List Char) :
    Progresses (sheetTurn (Text.lines source)) (·.place) (Text.lines source).length ⟨[], 0⟩
      (parse source) := by
  have hvalue : sheetValue (Text.lines source) ⟨[], 0⟩ = parse source := map_append_nil _
  rw [← hvalue]
  exact progresses_of_value (fun _ => sheetTurn_sound fun _ => Text.notMem_of_mem_lines)
    (fun _ => id) (Nat.zero_le _)

end StyleConstants.Stylesheet.Indented
