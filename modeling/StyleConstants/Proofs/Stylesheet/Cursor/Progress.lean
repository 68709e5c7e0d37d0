import StyleConstants.Proofs.Stylesheet.Cursor.Braced
import StyleConstants.Proofs.Stylesheet.Cursor.Indented

/-!
# Readers get on in every source

A turn of a reader either ends its loop or moves the cursor on, and the cursor never passes the
end, so that reading ends, be the source well-formed or not.

* `Braced.GetsOn`, `Indented.GetsOn`: what this means loop by loop.
* `readers_get_on`: so it is for both dialects.
-/

namespace StyleConstants.Stylesheet

open Lexeme Loop

namespace Braced

/-- The reader of the dialect with braces gets on in the source. -/
structure GetsOn (source : List Char) : Prop where
  /-- Each turn over the sheet ends it or moves on, and the loop ends with what the sheet spells. -/
  sheet : ∃ result, result.mapError (·.locate source) = parse source ∧
    Progresses (sheetTurn source) (·.place) source.length ⟨[], 0⟩ result
  gap : ∀ place ≤ source.length, ∃ result,
    Progresses (gapTurn source) id source.length place result
  line : ∀ place ≤ source.length, Progresses (lineTurn source) id source.length place
    (placeOf source (afterLine (source.drop place)))
  comment : ∀ start, ∀ place ≤ source.length,
    Progresses (commentTurn source start) id source.length place (commentValue source start place)
  literal : ∀ quote cut, cut.place ≤ source.length →
    Progresses (literalTurn source quote) (·.place) source.length cut
      (literalValue source quote cut)
  statement : ∀ scan, scan.place ≤ source.length →
    Progresses (statementTurn source) (·.place) source.length scan (statementValue source scan)
  /-- A statement takes a character where no closing brace stands. -/
  statement_takes : ∀ place c ended, source[place]? = some c → c ≠ '}' →
    statementEnd source place = .some (.ok ended) → place < ended.place
  /-- At a closing brace it takes none. -/
  statement_brace : ∀ place, source[place]? = some '}' →
    statementEnd source place = .some (.ok ⟨[], .strayBrace, place⟩)
  /-- It stops in front of a closing brace that belongs to none of its brackets. -/
  statement_stops : ∀ place ≤ source.length, ∀ ended,
    statementEnd source place = .some (.ok ended) → ended.ending = .strayBrace →
      source[ended.place]? = some '}'
  block : ∀ entry inside, inside.IsOpen source →
    Progresses (blockTurn source entry) (·.place) source.length inside
      (blockValue source entry inside)
  /-- A block is entered with one open brace, and as long as its loop goes on one is open, so that
  their number never falls below zero. -/
  depth : ∀ entry, ∀ place ≤ source.length, ∀ inside,
    Passes (blockTurn source entry) ⟨1, 0, place⟩ inside → 1 ≤ inside.braces

theorem getsOn (source : List Char) : GetsOn source where
  sheet := exists_sheet_progresses source
  gap _ h := (exists_gap_progresses h).imp fun _ => And.right
  line _ := line_progresses
  comment start _ := comment_progresses start
  literal := literal_progresses
  statement := statement_progresses
  statement_takes _ _ _ := lt_of_statementEnd
  statement_brace _ := statementEnd_closeBrace
  statement_stops _ hle _ := get_of_statementEnd hle
  block := block_progresses
  depth _ _ hle _ := le_braces hle

end Braced

namespace Indented

/-- The reader of the dialect with indentation gets on in the source. -/
structure GetsOn (source : List Char) : Prop where
  /-- Each turn over the sheet ends it or moves on, and the loop ends with what the sheet spells. -/
  sheet : Progresses (sheetTurn (Text.lines source)) (·.place) (Text.lines source).length ⟨[], 0⟩
    (parse source)
  join : ∀ scan, scan.place < (Text.lines source).length →
    Progresses (joinTurn (Text.lines source)) (·.place) (Text.lines source).length scan
      (joinValue (Text.lines source) scan)
  beneath : ∀ beneath, beneath.place ≤ (Text.lines source).length →
    Progresses (beneathTurn (Text.lines source)) (·.place) (Text.lines source).length beneath
      (beneathValue (Text.lines source) beneath)
  /-- On a line the cursor keeps to the line, also where it passes a comment. -/
  strip : ∀ line ∈ Text.lines source, ∀ scan, scan.place ≤ line.length →
    Progresses (stripTurn line) (·.place) line.length scan (stripValue line scan)
  literal : ∀ line ∈ Text.lines source, ∀ quote cut, cut.place ≤ line.length →
    Progresses (literalTurn line quote) (·.place) line.length cut (literalValue line quote cut)

theorem getsOn (source : List Char) : GetsOn source where
  sheet := sheet_progresses source
  join := join_progresses fun _ => Text.notMem_of_mem_lines
  beneath := beneath_progresses
  strip _ hline := strip_progresses (Text.notMem_of_mem_lines hline)
  literal _ hline := literal_progresses (Text.notMem_of_mem_lines hline)

end Indented

/-- Reading gets on in every source, well-formed or not. -/
theorem readers_get_on (source : List Char) : Braced.GetsOn source ∧ Indented.GetsOn source :=
  ⟨Braced.getsOn source, Indented.getsOn source⟩

end StyleConstants.Stylesheet
