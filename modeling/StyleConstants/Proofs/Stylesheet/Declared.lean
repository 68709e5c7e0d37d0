import StyleConstants.Proofs.Stylesheet.Dialects
import StyleConstants.Proofs.Stylesheet.ReadBack
import StyleConstants.Proofs.Stylesheet.Origin

/-!
# Sheets of one declaration

The name of a variable is recognised three times: by a pattern, by the search for its end in a
statement, and by the scanner that cuts the statements from the text. A sheet that declares one
variable and nothing else shows that all three agree.

* `isVariableName_iff_pattern`: names are those that a regular pattern describes.
* `parse_braced_plainDeclaration`, `parse_indented_plainDeclaration`: a name put into a declaration
  is read back from it.
* `declares_braced_iff`, `declares_indented_iff`: what can be declared in either dialect.
-/

namespace StyleConstants.Stylesheet

variable {name : List Char}

/-- Names as a pattern: maybe a hyphen, then a letter, an underscore, a hyphen or a character beyond
ASCII, then any name characters. -/
theorem isVariableName_iff_pattern : isVariableName name = true ↔
    ∃ hyphen first rest, name = hyphen ++ first :: rest ∧ (hyphen = [] ∨ hyphen = ['-']) ∧
      isNameStart first = true ∧ ∀ c ∈ rest, isNameChar c = true := by
  constructor
  · intro h
    cases name with
    | nil => cases h
    | cons first rest =>
      rw [isVariableName, Bool.and_eq_true, List.all_eq_true] at h
      exact ⟨[], first, rest, rfl, .inl rfl, h.1, h.2⟩
  · rintro ⟨hyphen, first, rest, rfl, hhyphen, hfirst, hrest⟩
    have hname : isVariableName (first :: rest) = true := by
      rw [isVariableName, Bool.and_eq_true, List.all_eq_true]
      exact ⟨hfirst, hrest⟩
    rcases hhyphen with rfl | rfl
    · exact hname
    · exact isVariableName_append (by decide) (isNameChar_of_isVariableName hname)

/-- The source is one statement, which declares a variable of this name. -/
def Declares (dialect : Dialect) (source : List Char) (name : String) : Prop :=
  ∃ line declaration, parse dialect source = .ok ⟨[⟨line, .variable declaration⟩]⟩ ∧
    declaration.name = name

theorem Declares.isVariableName {dialect : Dialect} {source : List Char} {name : String}
    (h : Declares dialect source name) : isVariableName name.toList = true := by
  obtain ⟨line, declaration, hparse, rfl⟩ := h
  exact isVariableName_of_mem_variableNames hparse List.mem_cons_self

/-- The declaration of a variable of this name. -/
def plainDeclaration (name : List Char) : Written := .declaration name ['1'] []

theorem isValid_plainDeclaration (h : isVariableName name = true) :
    (plainDeclaration name).IsValid := by
  have hone : Balanced false (['1'] ++ []) :=
    .chars_append (Text.forall_mem_of_all (by decide)) .nil
  have hflag : ∀ flag : Flag, ¬ flag.text <:+ ['1'] := by
    intro flag
    cases flag <;> decide
  exact ⟨h, ⟨⟨hone, Text.isTrimmed_of_ends (by decide) (by decide)⟩, by decide, hflag⟩,
    fun _ hflag => nomatch hflag⟩

theorem parse_braced_plainDeclaration (h : isVariableName name = true) :
    Braced.parse ((plainDeclaration name).header ++ [';']) =
      .ok [⟨1, (plainDeclaration name).item⟩] := by
  have hpieces : ∀ piece ∈ [(([] : List Char), plainDeclaration name)],
      Filler piece.1 ∧ piece.2.IsValid := by
    intro piece hpiece
    obtain rfl := List.mem_singleton.1 hpiece
    exact ⟨.nil, isValid_plainDeclaration h⟩
  have hnodes := Braced.nodesFrom_sheetText hpieces .nil []
  have htext : Braced.sheetText [([], plainDeclaration name)] ++ [] =
      (plainDeclaration name).header ++ [';'] := by
    simp [Braced.sheetText, Written.text, plainDeclaration, Written.body?]
  rw [List.nil_append, htext] at hnodes
  exact hnodes

theorem parse_indented_plainDeclaration (h : isVariableName name = true) :
    Indented.parse (plainDeclaration name).header = .ok [⟨1, (plainDeclaration name).item⟩] := by
  have hvalid := isValid_plainDeclaration h
  have hentry : (Entry.mk (plainDeclaration name).header none).IsValid := by
    refine ⟨Written.balanced_header hvalid, ?_, ⟨'$', rfl, by decide⟩,
      fun _ hblock => (nomatch hblock), fun _ hblock => (nomatch hblock),
      fun _ hblock => (nomatch hblock)⟩
    have hmarks : ∀ c ∈ ['$', ':', ' ', '1'], c ≠ '\n' ∧ c ≠ '\r' :=
      Text.forall_mem_of_all (by decide)
    have hname : ∀ c ∈ name, c ≠ '\n' ∧ c ≠ '\r' := by
      intro c hc
      have hchar := isNameChar_of_isVariableName h c hc
      refine ⟨?_, ?_⟩ <;> rintro rfl <;> exact absurd hchar (by decide)
    intro c hc
    simp only [plainDeclaration, Written.header, flagTexts, List.flatMap_nil, List.append_nil,
      List.mem_cons, List.mem_append, List.not_mem_nil, or_false] at hc
    rcases hc with rfl | hc | hc
    · decide
    · exact hname c hc
    · exact hmarks c (by simp [hc])
  have hsame := (nodes_agree (List.forall_mem_singleton.2 hentry)).2
    (List.forall_mem_singleton.2 rfl)
  have hbraced : bracedText [⟨(plainDeclaration name).header, none⟩] =
      (plainDeclaration name).header ++ [';'] := rfl
  have hindented : indentedText [⟨(plainDeclaration name).header, none⟩] =
      (plainDeclaration name).header := rfl
  rw [hbraced, hindented, parse_braced_plainDeclaration h] at hsame
  exact hsame.symm

theorem declares_braced_iff (name : String) :
    Declares .braced ("$" ++ name ++ ": 1;").toList name ↔ isVariableName name.toList = true := by
  refine ⟨Declares.isVariableName, fun h => ?_⟩
  have htext : ("$" ++ name ++ ": 1;").toList = (plainDeclaration name.toList).header ++ [';'] := by
    simp [plainDeclaration, Written.header, flagTexts]
  refine ⟨1, ⟨String.ofList name.toList, String.ofList ['1'], false, false⟩, ?_,
    String.ofList_toList⟩
  rw [parse, htext, parse_braced_plainDeclaration h]
  rfl

theorem declares_indented_iff (name : String) :
    Declares .indented ("$" ++ name ++ ": 1").toList name ↔ isVariableName name.toList = true := by
  refine ⟨Declares.isVariableName, fun h => ?_⟩
  have htext : ("$" ++ name ++ ": 1").toList = (plainDeclaration name.toList).header := by
    simp [plainDeclaration, Written.header, flagTexts]
  refine ⟨1, ⟨String.ofList name.toList, String.ofList ['1'], false, false⟩, ?_,
    String.ofList_toList⟩
  rw [parse, htext, parse_indented_plainDeclaration h]
  rfl

end StyleConstants.Stylesheet
