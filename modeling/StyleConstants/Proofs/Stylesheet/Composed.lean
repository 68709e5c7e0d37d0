import StyleConstants.Proofs.Stylesheet.LineByLine

/-!
# Sheets one behind the other

A sheet that can be read leaves nothing open that could take in what stands behind it. So the nodes
of two sheets, one behind the other, are those of the first and then those of the second, and if the
second is rejected, so are both for the same cause.

* `Stylesheet.followedBy`: what two sheets make together.
* `parse_composes`: both dialects.
-/

namespace StyleConstants

open Text (newlines)

/-- The nodes of a sheet and behind them those of a later one, which starts after that many lines;
the later one may be rejected. -/
def Stylesheet.followedBy (sheet : Stylesheet) (lines : Nat) :
    Except Stylesheet.Rejection Stylesheet → Except Stylesheet.Rejection Stylesheet
  | .error rejection => .error (rejection.shift lines)
  | .ok later => .ok ⟨sheet.nodes ++ later.nodes.map (·.shift lines)⟩

namespace Stylesheet

theorem map_shift_eq_followedBy (nodes : List Node) (lines : Nat)
    (later : Except Rejection (List Node)) :
    ((shift lines later).map (nodes ++ ·)).map (⟨·⟩) =
      followedBy ⟨nodes⟩ lines (later.map (⟨·⟩)) := by
  cases later <;> rfl

/-- A semicolon on a line of its own ends whatever statement the first sheet has left. -/
theorem Braced.parse_append {a : List Char} {nodes : List Node} (h : Braced.parse a = .ok nodes)
    (b : List Char) :
    Braced.parse (a ++ behindSemicolon b) =
      (shift (newlines a + 2) (Braced.parse b)).map (nodes ++ ·) := by
  have hpassed : newlines (a ++ ['\n', ';', '\n']) = newlines a + 2 := by
    rw [Text.newlines_append]
    rfl
  have hsource : a ++ behindSemicolon b = (a ++ ['\n', ';', '\n']) ++ b := by
    simp [behindSemicolon]
  rw [Braced.parse, nodesFrom_append h, hsource, nodesFrom_append_left (List.suffix_refl b),
    hpassed]
  rfl

theorem Indented.parse_append {a b : List Char} {nodes : List Node}
    (h : Indented.parse a = .ok nodes) (hb : Unindented (Text.lines b)) :
    Indented.parse (a ++ '\n' :: b) =
      (shift (newlines a + 1) (Indented.parse b)).map (nodes ++ ·) := by
  obtain ⟨gap, hlines⟩ := Text.continues_lines a b
  have htotal := Text.length_lines_append a b
  have hread := nodesOfLines_continues hb h (.inl hlines)
  rw [← hlines.length_eq, htotal, nodesOfLines_shift (Nat.le_refl _)] at hread
  rw [Indented.parse, htotal, hread]
  rfl

/-- **Sheets are read one behind the other.** Behind a sheet that can be read, a later one is read
as if it stood alone, only further down: in the dialect with braces behind a semicolon on a line of
its own, in the indented one behind a line break, if the first line that is not blank is not
indented. -/
theorem parse_composes :
    (∀ (a b : List Char) (sheet : Stylesheet), parse .braced a = .ok sheet →
      parse .braced (a ++ "\n;\n".toList ++ b) =
        sheet.followedBy (newlines a + 2) (parse .braced b)) ∧
    ∀ (a b : List Char) (sheet : Stylesheet), parse .indented a = .ok sheet →
      Indented.Unindented (Text.lines b) →
      parse .indented (a ++ "\n".toList ++ b) =
        sheet.followedBy (newlines a + 1) (parse .indented b) := by
  refine ⟨?_, ?_⟩
  · intro a b sheet h
    obtain ⟨nodes, hnodes, rfl⟩ := exists_of_map_eq_ok h
    have hsource : a ++ "\n;\n".toList ++ b = a ++ Braced.behindSemicolon b :=
      List.append_assoc _ _ _
    rw [hsource, parse, Braced.parse_append hnodes, parse]
    exact map_shift_eq_followedBy nodes _ _
  · intro a b sheet h hb
    obtain ⟨nodes, hnodes, rfl⟩ := exists_of_map_eq_ok h
    have hsource : a ++ "\n".toList ++ b = a ++ '\n' :: b := List.append_assoc _ _ _
    rw [hsource, parse, Indented.parse_append hnodes hb, parse]
    exact map_shift_eq_followedBy nodes _ _

end Stylesheet

end StyleConstants
