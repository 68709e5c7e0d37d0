import StyleConstants.Proofs.Stylesheet.Cursor.Program
import StyleConstants.Proofs.Stylesheet.Escaped

/-!
# Lexemes taken with a cursor

A place in a source stands for the end part that starts there. The loops for comments and literals
end where the lexeme does that starts at the place.

* `Reads`, `place_cases`: what stands at a place.
* `Takes`: a lexeme is taken up to a later place.
* `lineTurn_sound`, `commentTurn_sound`, `literalTurn_sound`: every turn leaves what is still to be
  read as it is.
* `Reads.line`, `Reads.comment`, `Reads.literal`: the loops take one lexeme each.
-/

namespace StyleConstants.Stylesheet

open Lexeme Loop

/-! ## Places -/

section Place

variable {α : Type} {source rest tail : List α} {place : Nat} {a : α}

/-- The place in `source` where its end part `rest` starts. -/
def placeOf (source rest : List α) : Nat := source.length - rest.length

theorem placeOf_le : placeOf source rest ≤ source.length := Nat.sub_le _ _

theorem drop_placeOf (h : rest <:+ source) : source.drop (placeOf source rest) = rest :=
  (List.suffix_iff_eq_drop.1 h).symm

theorem placeOf_drop (h : place ≤ source.length) : placeOf source (source.drop place) = place := by
  rw [placeOf, List.length_drop]
  omega

/-- An end part that is shorter than the whole does not hold the first member. -/
theorem suffix_tail (h : rest <:+ a :: tail) (hlt : rest.length < (a :: tail).length) :
    rest <:+ tail :=
  (List.suffix_cons_iff.1 h).resolve_left fun hrest => hlt.ne (congrArg List.length hrest)

/-- The member `a` stands at the place, and `tail` follows it. -/
structure Reads (source : List α) (place : Nat) (a : α) (tail : List α) : Prop where
  get : source[place]? = some a
  drop : source.drop place = a :: tail
  lt : place < source.length
  bump : bump source place = place + 1
  rest : source.drop (place + 1) = tail

theorem reads_of_drop (h : source.drop place = a :: tail) : Reads source place a tail := by
  have hlength := congrArg List.length h
  rw [List.length_drop, List.length_cons] at hlength
  have hlt : place < source.length := by omega
  exact {
    get := by rw [← List.head?_drop, h]; rfl
    drop := h
    lt := hlt
    bump := if_pos hlt
    rest := by rw [← List.tail_drop, h]; rfl }

theorem exists_reads_of_get (h : source[place]? = some a) : ∃ tail, Reads source place a tail := by
  obtain ⟨hlt, rfl⟩ := List.getElem?_eq_some_iff.1 h
  exact ⟨_, reads_of_drop (List.drop_eq_getElem_cons hlt)⟩

/-- At a place either the source ends or a member stands. -/
theorem place_cases (h : place ≤ source.length) :
    (source[place]? = none ∧ source.drop place = [] ∧ place = placeOf source ([] : List α)) ∨
    ∃ a tail, Reads source place a tail := by
  cases hdrop : source.drop place with
  | nil =>
    have hle := List.drop_eq_nil_iff.1 hdrop
    exact .inl ⟨List.getElem?_eq_none hle, rfl, Nat.le_antisymm h hle⟩
  | cons a tail => exact .inr ⟨a, tail, reads_of_drop hdrop⟩

namespace Reads

theorem next (h : Reads source place a tail) : source[place + 1]? = tail.head? := by
  rw [← List.head?_drop, h.rest]

theorem placeOf_tail (h : Reads source place a tail) : placeOf source tail = place + 1 := by
  rw [← h.rest, placeOf_drop h.lt]

/-- An end part of what follows starts at a place further on. -/
theorem placeOf_suffix (h : Reads source place a tail) (hrest : rest <:+ tail) :
    place < placeOf source rest ∧ placeOf source rest ≤ source.length ∧
      source.drop (placeOf source rest) = rest := by
  have htail : tail <:+ source := h.rest ▸ List.drop_suffix _ _
  refine ⟨?_, placeOf_le, drop_placeOf (hrest.trans htail)⟩
  have hle : placeOf source tail ≤ placeOf source rest := Nat.sub_le_sub_left hrest.length_le _
  rw [h.placeOf_tail] at hle
  exact hle

end Reads

end Place

section OrFault

variable {ε α ρ σ : Type} {reading : Part (Except ε α)} {more : α → Part (Except ε ρ ⊕ σ)}

theorem orFault_error {fault : ε} (h : reading = .some (.error fault)) :
    orFault reading more = .some (.inl (.error fault)) := by
  rw [orFault, h, Part.bind_some]

theorem orFault_ok {a : α} (h : reading = .some (.ok a)) : orFault reading more = more a := by
  rw [orFault, h, Part.bind_some]

end OrFault

section Lexemes

variable {source tail rest : List Char} {place : Nat} {c : Char}

/-- From the place on a lexeme is taken, up to `after`. -/
structure Takes (lineComments : Bool) (source : List Char) (place : Nat) (lexeme : Lexeme)
    (after : Nat) : Prop where
  next : next lineComments (source.drop place) = .ok (some (lexeme, source.drop after))
  lt : place < after
  le : after ≤ source.length

theorem Reads.takes {lineComments : Bool} {lexeme : Lexeme} (h : Reads source place c tail)
    (hnext : Lexeme.next lineComments (c :: tail) = .ok (some (lexeme, rest))) :
    Takes lineComments source place lexeme (placeOf source rest) := by
  obtain ⟨_, _, hcons, hsuffix⟩ := next_suffix hnext
  obtain ⟨hlt, hle, hdrop⟩ := h.placeOf_suffix ((List.cons.inj hcons).2 ▸ hsuffix)
  exact ⟨by rw [h.drop, hdrop, hnext], hlt, hle⟩

theorem next_closedQuote (lineComments : Bool) {read : List Char} (hquote : isQuote c = true)
    (h : closeQuote c tail = .ok (read, rest)) :
    next lineComments (c :: tail) = .ok (some (.quoted (c :: read), rest)) := by
  rw [next, if_pos hquote, h]
  · exact fun _ h => absurd h (ne_of_isQuote hquote (by decide))
  · exact fun _ h => absurd h (ne_of_isQuote hquote (by decide))
  · exact fun _ h => absurd h (ne_of_isQuote hquote (by decide))

end Lexemes

namespace Braced

section Loops

variable {source tail rest : List Char} {place : Nat} {c : Char}

/-! ## Line comments -/

theorem afterLine_cons (h : c ≠ '\n') : afterLine (c :: tail) = afterLine tail :=
  List.dropWhile_cons_of_pos (decide_eq_true h)

theorem lineTurn_sound (h : place ≤ source.length) :
    IsSound (· ≤ source.length) id
      (fun place result => result = placeOf source (afterLine (source.drop place))) place
      (lineTurn source place) := by
  unfold lineTurn
  rcases place_cases h with ⟨hget, hdrop, hplace⟩ | ⟨c, tail, hc⟩
  · rw [hget]
    refine .stop ?_
    rw [hdrop]
    exact hplace
  · rw [hc.get]
    dsimp only
    by_cases hline : c = '\n'
    · subst hline
      rw [if_pos rfl]
      refine .stop ?_
      rw [hc.drop, afterLine, List.dropWhile_cons_of_neg (by decide), ← hc.drop, placeOf_drop h]
    · rw [if_neg hline, hc.bump]
      refine .again_of_value hc.lt (Nat.lt_succ_self place) ?_
      rw [hc.rest, hc.drop, afterLine_cons hline]

theorem line_progresses (h : place ≤ source.length) :
    Progresses (lineTurn source) id source.length place
      (placeOf source (afterLine (source.drop place))) :=
  progresses_of_value (fun _ => lineTurn_sound) (fun _ => id) h

theorem lineEnd_eq (h : Reads source place '/' ('/' :: tail)) :
    lineEnd source place = .some (placeOf source (afterLine tail)) := by
  rw [lineEnd, (line_progresses h.lt.le).ends, h.drop, afterLine_cons (by decide),
    afterLine_cons (by decide)]

/-! ## Block comments -/

/-- What the end of a block comment is when reading stands behind its start. -/
def commentValue (source : List Char) (start place : Nat) : Except Fault Nat :=
  match closeComment (source.drop place) with
  | none => .error ⟨.openComment, source.drop start⟩
  | some rest => .ok (placeOf source rest)

theorem closeComment_cons (h : ¬ (c = '*' ∧ tail.head? = some '/')) :
    closeComment (c :: tail) = closeComment tail := by
  rw [closeComment]
  rintro rest rfl rfl
  exact h ⟨rfl, rfl⟩

theorem commentTurn_sound (start : Nat) (h : place ≤ source.length) :
    IsSound (· ≤ source.length) id
      (fun place result => result = commentValue source start place) place
      (commentTurn source start place) := by
  unfold commentTurn
  rcases place_cases h with ⟨hget, hdrop, -⟩ | ⟨c, tail, hc⟩
  · rw [hget]
    refine .stop ?_
    rw [commentValue, hdrop, closeComment]
  · rw [hc.get, hc.bump]
    dsimp only
    by_cases hend : c = '*' ∧ source[place + 1]? = some '/'
    · rw [if_pos hend]
      refine .stop ?_
      obtain ⟨rfl, hslash⟩ := hend
      obtain ⟨rest, rfl⟩ := List.head?_eq_some_iff.1 (hc.next ▸ hslash)
      have hd := reads_of_drop hc.rest
      rw [commentValue, hc.drop, closeComment, hd.bump]
      dsimp only
      rw [hd.placeOf_tail]
    · rw [if_neg hend]
      refine .again_of_value hc.lt (Nat.lt_succ_self place) ?_
      rw [hc.next] at hend
      rw [commentValue, commentValue, hc.rest, hc.drop, closeComment_cons hend]

theorem comment_progresses (start : Nat) (h : place ≤ source.length) :
    Progresses (commentTurn source start) id source.length place
      (commentValue source start place) :=
  progresses_of_value (fun _ => commentTurn_sound start) (fun _ => id) h

theorem commentEnd_eq (h : Reads source place '/' ('*' :: tail)) :
    commentEnd source place = .some (match closeComment tail with
      | none => .error ⟨.openComment, '/' :: '*' :: tail⟩
      | some rest => .ok (placeOf source rest)) := by
  have hstar := reads_of_drop h.rest
  rw [commentEnd, h.bump, hstar.bump, (comment_progresses place hstar.lt).ends, commentValue,
    hstar.rest, h.drop]

/-! ## Literals -/

/-- What a literal is when reading stands behind its opening quote. -/
def literalValue (source : List Char) (quote : Char) (cut : Cut) : Except Fault Cut :=
  match closeQuote quote (source.drop cut.place) with
  | .error rest => .error ⟨.openQuote quote, rest⟩
  | .ok (read, rest) => .ok ⟨cut.text ++ read, placeOf source rest⟩

/-- A character that neither breaks a literal nor escapes another one closes it or is passed. -/
theorem closeQuote_char (quote : Char) (hbreak : c ≠ '\n') (hescape : c ≠ '\\')
    (tail : List Char) :
    closeQuote quote (c :: tail) =
      if c = quote then .ok ([c], tail)
      else (closeQuote quote tail).map fun (read, rest) => (c :: read, rest) := by
  rw [closeQuote]
  · exact hbreak
  · exact fun h _ => hescape h
  · exact fun _ _ h => absurd h hescape

/-- Characters that closing passes are only put in front. -/
theorem literalValue_passed {quote : Char} {text passed : List Char} {after : Nat}
    (h : closeQuote quote (source.drop place) =
      (closeQuote quote (source.drop after)).map fun (read, rest) => (passed ++ read, rest)) :
    literalValue source quote ⟨text ++ passed, after⟩ =
      literalValue source quote ⟨text, place⟩ := by
  rw [literalValue, literalValue, h]
  cases closeQuote quote (source.drop after) with
  | error rest => rfl
  | ok reading => simp [Except.map]

theorem literalTurn_sound (quote : Char) {cut : Cut} (h : cut.place ≤ source.length) :
    IsSound (fun cut : Cut => cut.place ≤ source.length) (·.place)
      (fun cut result => result = literalValue source quote cut) cut
      (literalTurn source quote cut) := by
  obtain ⟨text, place⟩ := cut
  unfold literalTurn
  rcases place_cases h with ⟨hget, hdrop, -⟩ | ⟨c, tail, hc⟩
  · dsimp only
    rw [hget]
    refine .stop ?_
    rw [literalValue, hdrop, closeQuote]
  · dsimp only
    rw [hc.get, hc.bump]
    dsimp only
    by_cases hbreak : c = '\n'
    · rw [if_pos hbreak]
      refine .stop ?_
      rw [literalValue, hc.drop, hbreak, closeQuote]
    rw [if_neg hbreak]
    by_cases hescape : c = '\\'
    · subst hescape
      rw [if_pos rfl, hc.next]
      cases tail with
      | nil =>
        refine .stop ?_
        rw [literalValue, hc.drop, closeQuote, hc.rest]
      | cons escaped rest =>
        have hd := reads_of_drop hc.rest
        rw [hd.bump]
        refine .again_of_value hd.lt (Nat.lt_add_of_pos_right Nat.two_pos) ?_
        refine literalValue_passed ?_
        rw [hd.rest, hc.drop, closeQuote]
        rfl
    rw [if_neg hescape]
    have hclose := closeQuote_char quote hbreak hescape tail
    by_cases hquote : c = quote
    · rw [if_pos hquote]
      refine .stop ?_
      rw [literalValue, hc.drop, hclose, if_pos hquote]
      dsimp only
      rw [hc.placeOf_tail]
    · rw [if_neg hquote]
      refine .again_of_value hc.lt (Nat.lt_succ_self place) (literalValue_passed ?_)
      rw [hc.rest, hc.drop, hclose, if_neg hquote]
      rfl

theorem literal_progresses (quote : Char) (cut : Cut) (h : cut.place ≤ source.length) :
    Progresses (literalTurn source quote) (·.place) source.length cut
      (literalValue source quote cut) :=
  progresses_of_value (fun _ => literalTurn_sound quote) (fun _ => id) h

theorem literalEnd_eq (text : List Char) (h : Reads source place c tail) :
    literalEnd source ⟨text, place⟩ =
      .some (literalValue source c ⟨text ++ [c], place + 1⟩) := by
  rw [literalEnd, h.get, h.bump]
  exact (literal_progresses c ⟨text ++ [c], place + 1⟩ h.lt).ends

end Loops

end Braced

/-! ## One lexeme each -/

namespace Reads

open Braced

variable {source tail : List Char} {place : Nat} {c : Char}

theorem line (h : Reads source place '/' ('/' :: tail)) :
    ∃ after, lineEnd source place = .some after ∧ Takes true source place .lineComment after :=
  ⟨_, lineEnd_eq h, h.takes rfl⟩

theorem comment (lineComments : Bool) (h : Reads source place '/' ('*' :: tail)) :
    (∃ rest, commentEnd source place = .some (.error ⟨.openComment, rest⟩) ∧
      Lexeme.next lineComments (source.drop place) = .error ⟨.openComment, rest⟩) ∨
    ∃ after, commentEnd source place = .some (.ok after) ∧
      Takes lineComments source place .blockComment after := by
  rw [commentEnd_eq h]
  cases hclose : closeComment tail with
  | none =>
    refine .inl ⟨_, rfl, ?_⟩
    rw [h.drop, Lexeme.next, hclose]
  | some rest =>
    refine .inr ⟨_, rfl, h.takes ?_⟩
    rw [Lexeme.next, hclose]

theorem literal (lineComments : Bool) (text : List Char) (h : Reads source place c tail)
    (hquote : isQuote c = true) :
    (∃ rest, literalEnd source ⟨text, place⟩ = .some (.error ⟨.openQuote c, rest⟩) ∧
      Lexeme.next lineComments (source.drop place) = .error ⟨.openQuote c, rest⟩) ∨
    ∃ read after, literalEnd source ⟨text, place⟩ = .some (.ok ⟨text ++ read, after⟩) ∧
      Takes lineComments source place (.quoted read) after := by
  rw [literalEnd_eq text h, literalValue, h.rest, h.drop]
  cases hclose : closeQuote c tail with
  | error rest => exact .inl ⟨_, rfl, next_openQuote lineComments hquote hclose⟩
  | ok reading =>
    obtain ⟨read, rest⟩ := reading
    refine .inr ⟨c :: read, placeOf source rest, ?_, ?_⟩
    · dsimp only
      rw [List.append_assoc, List.singleton_append]
    · exact h.takes (next_closedQuote lineComments hquote hclose)

end Reads

end StyleConstants.Stylesheet
