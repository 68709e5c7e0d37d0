import StyleConstants.Proofs.Probe.Counted
import StyleConstants.Proofs.Probe.Value

/-!
# Reading undoes rendering

A rendered text holds one rule with the markers, each declared with a value, and anything else
before and after. Every variable is declared once there, so its marker is found in its own
declaration and nowhere else.

* `Rendering.text`: the rendered text in either style of output.
* `Rendering.IsValid.declaresOnce`: each variable is declared once, behind the text `upToName`.
* `Rendering.valueOf_text_iff`: no other marker has a value there.
* `readBack_rendering`: the values read back are those that were rendered.
-/

namespace StyleConstants

open Text (IsTrimmed isBlank)
open Readback

/-- The ways in which a compiler lays out its output: with a line for each declaration, or without
any blanks and without the last semicolon. -/
inductive OutputStyle where
  | expanded
  | compressed
  deriving DecidableEq, Repr

namespace OutputStyle

/-- What opens a rule after its selector. -/
def opening : OutputStyle → List Char
  | expanded => " \x7b\n".toList
  | compressed => "\x7b".toList

/-- What stands before a declaration. -/
def lead : OutputStyle → List Char
  | expanded => "  ".toList
  | compressed => []

/-- What stands between the colon and the value. -/
def pad : OutputStyle → List Char
  | expanded => " ".toList
  | compressed => []

/-- What ends a declaration that another one follows. -/
def between : OutputStyle → List Char
  | expanded => ";\n".toList
  | compressed => ";".toList

/-- What ends the last declaration. -/
def last : OutputStyle → List Char
  | expanded => ";\n".toList
  | compressed => []

end OutputStyle

/-- A rendered text in parts: the variables with their values in the order in which they are
declared, and what stands before and after the rule. -/
structure Rendering where
  style : OutputStyle
  token : MarkerToken
  front : List Char
  entries : List (String × String)
  back : List Char

namespace Rendering

variable (rendering : Rendering)

/-- The declaration of one variable, without its end. -/
def declaration (entry : String × String) : List Char :=
  (rendering.token.marker entry.1).toList ++ ':' :: (rendering.style.pad ++ entry.2.toList)

/-- The declarations one after the other. -/
def rows : List (String × String) → List Char
  | [] => []
  | [entry] => rendering.style.lead ++ rendering.declaration entry ++ rendering.style.last
  | entry :: next :: later => rendering.style.lead ++ rendering.declaration entry ++
      rendering.style.between ++ rows (next :: later)

/-- The text in front of the first declaration. -/
def head : List Char :=
  rendering.front ++ (rendering.token.selector.toList ++ rendering.style.opening)

/-- The whole text. -/
def text : List Char :=
  rendering.head ++ (rendering.rows rendering.entries ++ '}' :: rendering.back)

/-- The text in front of a declaration, given the variables declared earlier. -/
def upTo (earlier : List (String × String)) : List Char :=
  rendering.head ++ (earlier.flatMap fun entry => rendering.style.lead ++
    rendering.declaration entry ++ rendering.style.between) ++ rendering.style.lead

/-- A text after which the token stands in the selector or in a marker that is declared. -/
def IsPlace (before : List Char) : Prop :=
  before = rendering.front ++ "#vars_".toList ∨
    ∃ earlier entry later, rendering.entries = earlier ++ entry :: later ∧
      before = rendering.upTo earlier ++ ("--" ++ entry.1 ++ "_").toList

/-- The variables have names and values that can be rendered, and the token occurs in the selector
and in the markers only. -/
structure IsValid : Prop where
  hexadecimal : ∀ c ∈ rendering.token.text.toList, (Text.hexValue? c).isSome = true
  distinct : (rendering.entries.map (·.1)).Nodup
  named : ∀ entry ∈ rendering.entries, Stylesheet.isVariableName entry.1.toList = true ∧
    ∀ c ∈ entry.1.toList, isBlank c = false
  valued : ∀ entry ∈ rendering.entries, ValueText false entry.2.toList ∧ IsTrimmed entry.2.toList
  marked : ∀ before after, rendering.text = before ++ (rendering.token.text.toList ++ after) →
    rendering.IsPlace before

variable {rendering}

/-! ## Parts of the text -/

/-- In front of every declaration stands a character after which one may start, and which is in no
name. -/
theorem exists_getLast?_upTo (rendering : Rendering) (earlier : List (String × String)) :
    ∃ c, (rendering.upTo earlier).getLast? = some c ∧ startsDeclaration (some c) = true ∧
      Stylesheet.isNameChar c = false := by
  obtain ⟨style, token, front, entries, back⟩ := rendering
  cases style with
  | expanded =>
    refine ⟨' ', ?_, by decide, by decide⟩
    rw [upTo, Text.getLast?_append_of_ne_nil (by simp [OutputStyle.lead])]
    rfl
  | compressed =>
    rw [upTo, OutputStyle.lead, List.append_nil]
    by_cases hearlier : earlier = []
    · refine ⟨'{', ?_, by decide, by decide⟩
      rw [hearlier, List.flatMap_nil, List.append_nil, head, ← List.append_assoc,
        Text.getLast?_append_of_ne_nil (by simp [OutputStyle.opening])]
      rfl
    · obtain ⟨others, last, rfl⟩ : ∃ others last, earlier = others ++ [last] :=
        ⟨_, _, (List.dropLast_concat_getLast hearlier).symm⟩
      refine ⟨';', ?_, by decide, by decide⟩
      rw [List.flatMap_append, List.flatMap_singleton, ← List.append_assoc, ← List.append_assoc,
        Text.getLast?_append_of_ne_nil (by simp [OutputStyle.between])]
      rfl

/-- A declaration is followed by a semicolon or by the brace that closes the rule. -/
theorem exists_rows_eq (rendering : Rendering) (earlier : List (String × String))
    (entry : String × String) (later : List (String × String)) :
    ∃ ending after, (ending = ';' ∨ ending = '}') ∧
      rendering.rows (earlier ++ entry :: later) ++ '}' :: rendering.back =
        (earlier.flatMap fun entry => rendering.style.lead ++ rendering.declaration entry ++
          rendering.style.between) ++ rendering.style.lead ++
          (rendering.declaration entry ++ ending :: after) := by
  induction earlier with
  | nil =>
    cases later with
    | nil =>
      cases hstyle : rendering.style with
      | expanded =>
        refine ⟨';', '\n' :: '}' :: rendering.back, .inl rfl, ?_⟩
        simp [rows, hstyle, OutputStyle.last]
      | compressed =>
        refine ⟨'}', rendering.back, .inr rfl, ?_⟩
        simp [rows, hstyle, OutputStyle.last]
    | cons next later =>
      cases hstyle : rendering.style with
      | expanded =>
        refine ⟨';', '\n' :: (rendering.rows (next :: later) ++ '}' :: rendering.back),
          .inl rfl, ?_⟩
        simp [rows, hstyle, OutputStyle.between]
      | compressed =>
        refine ⟨';', rendering.rows (next :: later) ++ '}' :: rendering.back, .inl rfl, ?_⟩
        simp [rows, hstyle, OutputStyle.between]
  | cons first earlier ih =>
    obtain ⟨ending, after, hending, hrows⟩ := ih
    refine ⟨ending, after, hending, ?_⟩
    obtain ⟨next, more, hmore⟩ : ∃ next more, earlier ++ entry :: later = next :: more := by
      cases earlier with
      | nil => exact ⟨_, _, rfl⟩
      | cons next earlier => exact ⟨_, _, rfl⟩
    have hstep : rendering.rows (first :: earlier ++ entry :: later) =
        rendering.style.lead ++ rendering.declaration first ++ rendering.style.between ++
          rendering.rows (earlier ++ entry :: later) := by
      rw [List.cons_append, hmore, rows]
    rw [hstep, List.append_assoc, hrows, List.flatMap_cons]
    simp only [List.append_assoc]

/-- The text around a declaration. -/
theorem exists_text_eq (rendering : Rendering) {earlier later : List (String × String)}
    {entry : String × String} (hentries : rendering.entries = earlier ++ entry :: later) :
    ∃ ending after, (ending = ';' ∨ ending = '}') ∧
      rendering.text = rendering.upTo earlier ++ ((rendering.token.marker entry.1).toList ++
        ':' :: (rendering.style.pad ++ entry.2.toList ++ ending :: after)) := by
  obtain ⟨ending, after, hending, hrows⟩ := exists_rows_eq rendering earlier entry later
  refine ⟨ending, after, hending, ?_⟩
  rw [text, hentries, hrows, upTo, declaration]
  simp only [List.append_assoc, List.cons_append]

/-! ## The declaration of one variable -/

/-- The text in front of the declaration of a variable, given its name. -/
def upToName (rendering : Rendering) (name : String) : List Char :=
  rendering.upTo (rendering.entries.takeWhile fun entry => entry.1 ≠ name)

theorem upToName_eq (h : rendering.IsValid) {earlier later : List (String × String)}
    {entry : String × String} (hentries : rendering.entries = earlier ++ entry :: later) :
    rendering.upToName entry.1 = rendering.upTo earlier := by
  have hdistinct := h.distinct
  rw [hentries, List.map_append, List.map_cons, List.nodup_append] at hdistinct
  have hearlier : ∀ other ∈ earlier, decide (other.1 ≠ entry.1) = true := by
    intro other hother
    exact decide_eq_true
      (hdistinct.2.2 other.1 (List.mem_map.2 ⟨other, hother, rfl⟩) entry.1 List.mem_cons_self)
  rw [upToName, hentries, List.takeWhile_append_of_pos hearlier,
    List.takeWhile_cons_of_neg (by simp), List.append_nil]

theorem declared?_upTo (rendering : Rendering) (earlier : List (String × String))
    (rest : List Char) :
    Occurrence.declared? ⟨(rendering.upTo earlier).getLast?, ':' :: rest⟩ = some rest := by
  obtain ⟨c, hlast, hc, -⟩ := exists_getLast?_upTo rendering earlier
  have hcolon : Text.trimStart (':' :: rest) = ':' :: rest :=
    Text.trimStart_eq_self (by intro d hd; cases hd; decide)
  rw [Occurrence.declared?, hlast, if_pos hc, hcolon]
  rfl

/-- Each variable is declared once, and its name is among those declared. -/
theorem IsValid.declaresOnce (h : rendering.IsValid) :
    DeclaresOnce rendering.token (rendering.entries.map (·.1)) rendering.text
      rendering.upToName where
  declared name hname := by
    obtain ⟨entry, hentry, rfl⟩ := List.mem_map.1 hname
    obtain ⟨earlier, later, hentries⟩ := List.append_of_mem hentry
    obtain ⟨ending, after, -, htext⟩ := exists_text_eq rendering hentries
    rw [upToName_eq h hentries]
    exact ⟨_, _, htext, declared?_upTo rendering earlier _⟩
  alone before after htext := by
    rcases h.marked before after htext with rfl | ⟨earlier, entry, later, hentries, rfl⟩
    · exact .inl (List.suffix_append _ _)
    · refine .inr ⟨entry.1, List.mem_map.2 ⟨entry, ?_, rfl⟩, by rw [upToName_eq h hentries]⟩
      rw [hentries]
      exact List.mem_append_right _ List.mem_cons_self

theorem IsValid.isUnspaced (h : rendering.IsValid) :
    ∀ name ∈ rendering.entries.map (·.1), IsUnspaced name := by
  intro name hname
  obtain ⟨entry, hentry, rfl⟩ := List.mem_map.1 hname
  exact h.named entry hentry

/-- A marker is declared once, and its value is the one that was rendered. -/
theorem valueOf_text (h : rendering.IsValid) {entry : String × String}
    (hentry : entry ∈ rendering.entries) :
    valueOf rendering.text entry.1 (rendering.token.marker entry.1) = .ok entry.2 := by
  obtain ⟨earlier, later, hentries⟩ := List.append_of_mem hentry
  obtain ⟨ending, after, hending, htext⟩ := exists_text_eq rendering hentries
  obtain ⟨hvalue, htrimmed⟩ := h.valued entry hentry
  have hpad : ∀ d ∈ rendering.style.pad, isBlank d = true := by
    cases rendering.style with
    | expanded => exact Text.isBlank_of_mem_space
    | compressed => exact fun d hd => absurd hd List.not_mem_nil
  have hdeclared := declared?_upTo rendering earlier
    (rendering.style.pad ++ entry.2.toList ++ ending :: after)
  rw [← upToName_eq h hentries] at htext hdeclared
  have hdeclarations := h.declaresOnce.declarations_eq h.isUnspaced h.hexadecimal
    (List.mem_map.2 ⟨entry, hentry, rfl⟩) htext hdeclared
  rw [valueOf, hdeclarations]
  dsimp only
  rw [readValue_value hpad hvalue htrimmed hending, String.ofList_toList]

/-! ## Other markers -/

/-- In front of a declaration stands nothing that belongs to a name. -/
theorem eq_nil_of_upTo_eq (rendering : Rendering) {earlier : List (String × String)}
    {before extra rest : List Char} {name : String}
    (hname : Stylesheet.isVariableName name.toList = true)
    (hupTo : rendering.upTo earlier = before ++ extra)
    (hextra : ("--" ++ name).toList = extra ++ rest) : extra = [] := by
  by_cases hnil : extra = []
  · exact hnil
  · obtain ⟨c, hlast, -, hc⟩ := exists_getLast?_upTo rendering earlier
    rw [hupTo, Text.getLast?_append_of_ne_nil hnil] at hlast
    have hmem : c ∈ ("--" ++ name).toList := by
      rw [hextra]
      exact List.mem_append_left _ (List.mem_of_getLast? hlast)
    rw [String.toList_append, List.mem_append] at hmem
    have hhyphens : ∀ d ∈ "--".toList, Stylesheet.isNameChar d = true :=
      Text.forall_mem_of_all (by decide)
    have hchar := hmem.elim (hhyphens c) (Stylesheet.isNameChar_of_isVariableName hname c)
    cases hc.symm.trans hchar

/-- Where a name ends that a declaration may start with, and the name of a declaration that was
rendered, they are one. -/
theorem eq_of_append_upTo (rendering : Rendering) {earlier : List (String × String)}
    {before : List Char} {name other : String}
    (hname : Stylesheet.isVariableName name.toList = true) (hother : IsUnspaced other)
    (hstart : startsDeclaration before.getLast? = true)
    (h : before ++ ("--" ++ name).toList = rendering.upTo earlier ++ ("--" ++ other).toList) :
    name = other := by
  rcases List.append_eq_append_iff.1 h with ⟨extra, hbefore, hextra⟩ | ⟨extra, hbefore, hextra⟩
  · obtain rfl := rendering.eq_nil_of_upTo_eq hname hbefore hextra
    exact eq_of_hyphens_append hextra
  · obtain rfl := eq_nil_of_startsDeclaration hother (hbefore ▸ hstart) hextra
    exact eq_of_hyphens_append hextra.symm

/-- The only values that are read, of whichever marker, are those that were rendered. -/
theorem valueOf_text_iff (h : rendering.IsValid) {name found : String}
    (hname : Stylesheet.isVariableName name.toList = true) :
    valueOf rendering.text name (rendering.token.marker name) = .ok found ↔
      (name, found) ∈ rendering.entries := by
  refine ⟨fun hvalue => ?_, valueOf_text h⟩
  obtain ⟨rest, hrest⟩ := exists_mem_declarations_of_valueOf hvalue
  obtain ⟨before, blanks, htext, hstart, -⟩ := exists_split_of_mem_declarations hrest
  rw [← List.append_assoc, append_marker, List.append_assoc] at htext
  rcases h.marked _ _ htext with hselector | ⟨earlier, entry, later, hentries, hplace⟩
  · exact absurd ⟨_, hselector.symm⟩ (not_selector_isSuffix hname before)
  · have hentry : entry ∈ rendering.entries := by
      rw [hentries]
      exact List.mem_append_right _ List.mem_cons_self
    have hsplit : ∀ name : String,
        ("--" ++ name ++ "_").toList = ("--" ++ name).toList ++ "_".toList :=
      fun name => String.toList_append
    rw [hsplit, hsplit, ← List.append_assoc, ← List.append_assoc] at hplace
    obtain rfl := rendering.eq_of_append_upTo hname (h.named entry hentry) hstart
      (List.append_cancel_right hplace)
    rwa [Except.ok.inj (hvalue.symm.trans (valueOf_text h hentry))]

end Rendering

/-! ## All values -/

/-- The values of any of the variables are read back from the rendered text. -/
theorem Rendering.readBack_text {rendering : Rendering} (h : rendering.IsValid)
    {names : List String} (hnames : ∀ name ∈ names, name ∈ rendering.entries.map (·.1)) :
    ∃ values, (MarkerSet.ofNames rendering.token names).readBack (String.ofList rendering.text) =
        .ok values ∧
      ∀ name value : String, values[name]? = some value ↔
        name ∈ names ∧ (name, value) ∈ rendering.entries := by
  have hvalueOf : ∀ name ∈ names, ∀ value : String,
      valueOf rendering.text name (rendering.token.marker name) = .ok value ↔
        (name, value) ∈ rendering.entries := by
    intro name hname value
    obtain ⟨entry, hentry, rfl⟩ := List.mem_map.1 (hnames name hname)
    exact valueOf_text_iff h (h.named entry hentry).1
  have hread : ∀ name ∈ (MarkerSet.ofNames rendering.token names).names, ∃ value,
      valueOf rendering.text name (rendering.token.marker name) = .ok value := by
    intro name hname
    rw [MarkerSet.mem_names_ofNames] at hname
    obtain ⟨entry, hentry, rfl⟩ := List.mem_map.1 (hnames name hname)
    exact ⟨entry.2, (hvalueOf _ hname _).2 hentry⟩
  obtain ⟨values, hvalues, hiff⟩ := exists_collect_eq hread ∅
  refine ⟨values, ?_, fun name value => ?_⟩
  · rw [MarkerSet.readBack, String.toList_ofList]
    exact hvalues
  · rw [hiff, Std.ExtTreeMap.getElem?_empty, MarkerSet.mem_names_ofNames]
    constructor
    · rintro (⟨hname, hvalue⟩ | ⟨-, hnone⟩)
      · exact ⟨hname, (hvalueOf name hname value).1 hvalue⟩
      · cases hnone
    · rintro ⟨hname, hentry⟩
      exact .inl ⟨hname, (hvalueOf name hname value).2 hentry⟩

/-- **Reading undoes rendering.** Whatever stands before and after the rule, and whatever quotes,
escapes, brackets and semicolons the values hold, the values of the variables are read back from
the rendered text, in whichever order they are asked for. -/
theorem readBack_rendering {rendering : Rendering} (h : rendering.IsValid) {names : List String}
    (hnames : ∀ name, name ∈ names ↔ name ∈ rendering.entries.map (·.1)) :
    ∃ values, (MarkerSet.ofNames rendering.token names).readBack (String.ofList rendering.text) =
        .ok values ∧
      ∀ name value : String, values[name]? = some value ↔ (name, value) ∈ rendering.entries := by
  obtain ⟨values, hvalues, hiff⟩ := Rendering.readBack_text h fun name => (hnames name).1
  refine ⟨values, hvalues, fun name value => (hiff name value).trans (and_iff_right_of_imp ?_)⟩
  exact fun hentry => (hnames name).2 (List.mem_map.2 ⟨(name, value), hentry, rfl⟩)

/-- Two variables of which one has a name that ends in a marker of the other. -/
def smallRendering : Rendering where
  style := .expanded
  token := ⟨"e7"⟩
  front := []
  entries := [("a", "1px"), ("b--a", "(;)")]
  back := []

theorem smallRendering_isValid : smallRendering.IsValid where
  hexadecimal := Text.forall_mem_of_all (by decide)
  distinct := by decide
  named := by
    intro entry hentry
    rcases List.mem_cons.1 hentry with rfl | hentry
    · exact ⟨by decide, Text.forall_mem_of_all (by decide)⟩
    · obtain rfl := List.mem_singleton.1 hentry
      exact ⟨by decide, Text.forall_mem_of_all (by decide)⟩
  valued := by
    have hlength : ValueText false "1px".toList :=
      .char (by decide) (.char (by decide) (.char (by decide) .nil))
    have hgroup : ValueText false "(;)".toList :=
      @ValueText.group false '(' ')' [';'] [] (by simp [IsPair]) (.char (by decide) .nil) .nil
    intro entry hentry
    rcases List.mem_cons.1 hentry with rfl | hentry
    · exact ⟨hlength, Text.isTrimmed_of_ends (by decide) (by decide)⟩
    · obtain rfl := List.mem_singleton.1 hentry
      exact ⟨hgroup, Text.isTrimmed_of_ends (by decide) (by decide)⟩
  marked before after htext := by
    have hplaces : ∀ n ∈ List.range (smallRendering.text.length + 1),
        "e7".toList <+: smallRendering.text.drop n →
          smallRendering.text.take n = "#vars_".toList ∨
            smallRendering.text.take n = smallRendering.upTo [] ++ "--a_".toList ∨
            smallRendering.text.take n =
              smallRendering.upTo [("a", "1px")] ++ "--b--a_".toList := by decide +kernel
    obtain ⟨n, hn, rfl, hpiece⟩ := exists_mem_range_of_split htext
    rw [Rendering.IsPlace]
    rcases hplaces n hn hpiece with h | h | h
    · exact .inl h
    · exact .inr ⟨[], _, _, rfl, h⟩
    · exact .inr ⟨[("a", "1px")], _, _, rfl, h⟩

theorem readBack_smallRendering :
    ∃ values, (MarkerSet.ofNames ⟨"e7"⟩ ["b--a", "a"]).readBack
        "#vars_e7 \x7b\n  --a_e7: 1px;\n  --b--a_e7: (;);\n\x7d" = .ok values ∧
      ∀ name value : String, values[name]? = some value ↔
        (name, value) ∈ [("a", "1px"), ("b--a", "(;)")] :=
  readBack_rendering smallRendering_isValid
    (by intro name; simp [smallRendering, or_comm])

end StyleConstants
