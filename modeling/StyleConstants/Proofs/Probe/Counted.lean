import StyleConstants.Proofs.Probe.Occurrences
import StyleConstants.Proofs.Text.Blank
import StyleConstants.Proofs.Text.Letters
import StyleConstants.Proofs.Text.Plain
import StyleConstants.Stylesheet.Name

/-!
# For which variable a declaration counts

The marker of a name may end the marker of a longer one, since `--a_` ends `--b--a_`. Of two markers
that end at one place, the longer one shows what stands before the shorter one: part of a name. No
declaration starts after part of a name that holds no blank, so the shorter marker does not count
there.

Names may hold characters beyond ASCII, though, and some of these are blanks. After such a blank a
declaration may start, and then one declaration counts for two variables.

* `eq_of_mem_valuePlaces`: markers with a value at one place are those of one variable.
* `declaration_counts_once`: where each variable is declared once, each has its own value.
* `spaced_name_counts_twice`: blanks in names cannot be admitted.
-/

namespace StyleConstants

open Text (isBlank)
open Readback Stylesheet

/-- A name that a variable can have, without the blanks that there are beyond ASCII. -/
def IsUnspaced (name : String) : Prop :=
  isVariableName name.toList = true ∧ ∀ c ∈ name.toList, isBlank c = false

/-! ## Characters of markers -/

theorem not_startsDeclaration_iff {c : Char} : startsDeclaration (some c) = false ↔
    isBlank c = false ∧ c ≠ '{' ∧ c ≠ ';' := by
  simp [startsDeclaration, and_assoc]

theorem IsUnspaced.startsDeclaration {name : String} (h : IsUnspaced name) {c : Char}
    (hc : c ∈ name.toList) : startsDeclaration (some c) = false := by
  have hname := isNameChar_of_isVariableName h.1 c hc
  refine not_startsDeclaration_iff.2 ⟨h.2 c hc, ?_, ?_⟩
  · rintro rfl
    exact absurd hname (by decide)
  · rintro rfl
    exact absurd hname (by decide)

theorem startsDeclaration_hex {c : Char} (h : (Text.hexValue? c).isSome = true) :
    startsDeclaration (some c) = false := by
  have hrange := Text.toNat_of_hex h
  refine not_startsDeclaration_iff.2 ⟨?_, ?_, ?_⟩
  · simp only [isBlank, Bool.or_eq_false_iff, Bool.and_eq_false_iff, decide_eq_false_iff_not,
      beq_eq_false_iff_ne]
    omega
  · rintro rfl
    have hbrace : '{'.toNat = 123 := rfl
    omega
  · rintro rfl
    have hsemicolon : ';'.toNat = 59 := rfl
    omega

theorem toList_marker (token : MarkerToken) (name : String) :
    (token.marker name).toList = "--".toList ++ name.toList ++ "_".toList ++ token.text.toList := by
  simp only [MarkerToken.marker, String.toList_append]

theorem marker_ne_nil (token : MarkerToken) (name : String) : (token.marker name).toList ≠ [] := by
  rw [toList_marker]
  exact fun hnil => absurd hnil (by simp)

/-- What stands in front of the token in a marker, after any text. -/
theorem append_marker (token : MarkerToken) (name : String) (before : List Char) :
    before ++ (token.marker name).toList =
      before ++ ("--" ++ name ++ "_").toList ++ token.text.toList := by
  simp only [toList_marker, String.toList_append, List.append_assoc]

theorem startsDeclaration_front {name : String} (hname : IsUnspaced name) {c : Char}
    (hc : c ∈ ("--" ++ name).toList) : startsDeclaration (some c) = false := by
  have hhyphens : ∀ d ∈ "--".toList, startsDeclaration (some d) = false :=
    Text.forall_mem_of_all (by decide)
  rw [String.toList_append, List.mem_append] at hc
  rcases hc with hc | hc
  · exact hhyphens c hc
  · exact hname.startsDeclaration hc

/-- No declaration starts after a character of a marker. -/
theorem startsDeclaration_marker {token : MarkerToken}
    (htoken : ∀ c ∈ token.text.toList, (Text.hexValue? c).isSome = true) {name : String}
    (hname : IsUnspaced name) {c : Char} (hc : c ∈ (token.marker name).toList) :
    startsDeclaration (some c) = false := by
  have hunderscore : ∀ d ∈ "_".toList, startsDeclaration (some d) = false :=
    Text.forall_mem_of_all (by decide)
  rw [toList_marker, ← String.toList_append, List.mem_append, List.mem_append] at hc
  rcases hc with (hc | hc) | hc
  · exact startsDeclaration_front hname hc
  · exact hunderscore c hc
  · exact startsDeclaration_hex (htoken c hc)

/-! ## Markers that end at one place -/

/-- What a name adds in front of a place where a declaration may start is nothing. -/
theorem eq_nil_of_startsDeclaration {before extra rest : List Char} {name : String}
    (hname : IsUnspaced name) (hstart : startsDeclaration (before ++ extra).getLast? = true)
    (hextra : ("--" ++ name).toList = extra ++ rest) : extra = [] := by
  by_cases hnil : extra = []
  · exact hnil
  · have hmem : extra.getLast hnil ∈ ("--" ++ name).toList := by
      rw [hextra]
      exact List.mem_append_left _ (List.getLast_mem hnil)
    rw [Text.getLast?_append_of_ne_nil hnil, List.getLast?_eq_some_getLast hnil,
      startsDeclaration_front hname hmem] at hstart
    cases hstart

theorem eq_of_hyphens_append {a b : String} (h : ("--" ++ a).toList = ("--" ++ b).toList) :
    a = b := by
  rw [String.toList_append, String.toList_append] at h
  exact String.toList_inj.1 (List.append_cancel_left h)

/-- Where two names end and a declaration may start in front of both, they are one. -/
theorem eq_of_append_name {before before' : List Char} {a b : String} (ha : IsUnspaced a)
    (hb : IsUnspaced b) (hstart : startsDeclaration before.getLast? = true)
    (hstart' : startsDeclaration before'.getLast? = true)
    (h : before ++ ("--" ++ a).toList = before' ++ ("--" ++ b).toList) :
    before = before' ∧ a = b := by
  -- one of the names ends in the other; the longer one shows what stands before the shorter
  rcases List.append_eq_append_iff.1 h with ⟨extra, hbefore, hextra⟩ | ⟨extra, hbefore, hextra⟩
  · obtain rfl := eq_nil_of_startsDeclaration ha (hbefore ▸ hstart') hextra
    rw [List.append_nil] at hbefore
    exact ⟨hbefore.symm, eq_of_hyphens_append hextra⟩
  · obtain rfl := eq_nil_of_startsDeclaration hb (hbefore ▸ hstart) hextra
    rw [List.append_nil] at hbefore
    exact ⟨hbefore, eq_of_hyphens_append hextra.symm⟩

/-- Where two markers end and a declaration may start in front of both, they are one. -/
theorem eq_of_append_marker {token : MarkerToken} {before before' : List Char} {a b : String}
    (ha : IsUnspaced a) (hb : IsUnspaced b) (hstart : startsDeclaration before.getLast? = true)
    (hstart' : startsDeclaration before'.getLast? = true)
    (h : before ++ (token.marker a).toList = before' ++ (token.marker b).toList) :
    before = before' ∧ a = b := by
  simp only [MarkerToken.marker, String.toList_append, ← List.append_assoc,
    List.append_cancel_right_eq] at h
  refine eq_of_append_name ha hb hstart hstart' ?_
  simpa only [String.toList_append, ← List.append_assoc] using h

/-! ## Places of values -/

namespace Readback

/-- How many characters of the text stand in front of each value of the marker. -/
def valuePlaces (marker text : List Char) : List Nat :=
  (declarations marker text).map fun rest => text.length - rest.length

theorem declared?_eq_some {occurrence : Occurrence} {rest : List Char}
    (h : occurrence.declared? = some rest) : startsDeclaration occurrence.before = true ∧
      ∃ blanks : List Char, (∀ c ∈ blanks, isBlank c = true) ∧
        occurrence.after = blanks ++ ':' :: rest := by
  unfold Occurrence.declared? at h
  split at h
  · rename_i hstart
    split at h
    · rename_i hafter
      cases h
      obtain ⟨blanks, hblanks, hsplit⟩ := Text.exists_blank_append_trimStart occurrence.after
      exact ⟨hstart, blanks, hblanks, by rw [hsplit, hafter]⟩
    · cases h
  · cases h

/-- What stands in front of the value of a declaration. -/
theorem exists_split_of_mem_declarations {marker text rest : List Char}
    (h : rest ∈ declarations marker text) : ∃ before blanks : List Char,
      text = before ++ (marker ++ (blanks ++ ':' :: rest)) ∧
        startsDeclaration before.getLast? = true ∧ ∀ c ∈ blanks, isBlank c = true := by
  obtain ⟨found, hfound, hdeclared⟩ := List.mem_filterMap.1 h
  obtain ⟨before, after, htext, rfl, -⟩ := @exists_split_of_mem marker [] text 0 found hfound
  obtain ⟨hstart, blanks, hblanks, hafter⟩ := declared?_eq_some hdeclared
  dsimp only at hafter
  exact ⟨before, blanks, hafter ▸ htext, hstart, hblanks⟩

theorem take_of_mem_valuePlaces {marker text : List Char} {place : Nat}
    (h : place ∈ valuePlaces marker text) : ∃ before blanks : List Char,
      text.take place = before ++ marker ++ blanks ++ [':'] ∧
        startsDeclaration before.getLast? = true ∧ ∀ c ∈ blanks, isBlank c = true := by
  obtain ⟨rest, hrest, rfl⟩ := List.mem_map.1 h
  obtain ⟨before, blanks, htext, hstart, hblanks⟩ := exists_split_of_mem_declarations hrest
  refine ⟨before, blanks, ?_, hstart, hblanks⟩
  have hsplit : text = (before ++ marker ++ blanks ++ [':']) ++ rest := by
    rw [htext]
    simp only [List.append_assoc, List.singleton_append]
  rw [hsplit, List.length_append, Nat.add_sub_cancel, List.take_left]

end Readback

/-- Markers that have a value at one place are those of one variable. -/
theorem eq_of_mem_valuePlaces {token : MarkerToken}
    (htoken : ∀ c ∈ token.text.toList, (Text.hexValue? c).isSome = true) {a b : String}
    (ha : IsUnspaced a) (hb : IsUnspaced b) {text : List Char} {place : Nat}
    (h : place ∈ valuePlaces (token.marker a).toList text)
    (h' : place ∈ valuePlaces (token.marker b).toList text) : a = b := by
  obtain ⟨before, blanks, htake, hstart, hblanks⟩ := take_of_mem_valuePlaces h
  obtain ⟨before', blanks', htake', hstart', hblanks'⟩ := take_of_mem_valuePlaces h'
  -- no marker ends in a blank, so the blanks before the colon are the same
  have hend : ∀ {name : String} {before : List Char}, IsUnspaced name →
      Text.trimEnd (before ++ (token.marker name).toList) =
        before ++ (token.marker name).toList := by
    intro name before hname
    refine Text.trimEnd_eq_self fun c hc => ?_
    rw [Text.getLast?_append_of_ne_nil (marker_ne_nil token name)] at hc
    have hstop := startsDeclaration_marker htoken hname (List.mem_of_getLast? hc)
    exact (not_startsDeclaration_iff.1 hstop).1
  have hsame : before ++ (token.marker a).toList ++ blanks =
      before' ++ (token.marker b).toList ++ blanks' :=
    List.append_cancel_right (htake.symm.trans htake')
  have htrim := congrArg Text.trimEnd hsame
  rw [Text.trimEnd_append_right hblanks, Text.trimEnd_append_right hblanks', hend ha, hend hb]
    at htrim
  exact (eq_of_append_marker ha hb hstart hstart' htrim).2

/-! ## Texts that declare each variable once -/

/-- Each of the variables is declared behind the text `upTo` of its name, and the token stands in
these declarations and in the selector, but nowhere else. -/
structure DeclaresOnce (token : MarkerToken) (names : List String) (text : List Char)
    (upTo : String → List Char) : Prop where
  declared : ∀ name ∈ names, ∃ after rest,
    text = upTo name ++ ((token.marker name).toList ++ after) ∧
      Occurrence.declared? ⟨(upTo name).getLast?, after⟩ = some rest
  alone : ∀ before after, text = before ++ (token.text.toList ++ after) →
    "#vars_".toList <:+ before ∨
      ∃ name ∈ names, before = upTo name ++ ("--" ++ name ++ "_").toList

/-- No marker ends in the selector: there is a number sign in the one and a hyphen in the other. -/
theorem not_selector_isSuffix {name : String} (hname : isVariableName name.toList = true)
    (before : List Char) : ¬ "#vars_".toList <:+ before ++ ("--" ++ name ++ "_").toList := by
  rintro ⟨front, heq⟩
  have hsign : '#' ∉ ("--" ++ name ++ "_").toList := by
    simp only [String.toList_append, List.mem_append, not_or]
    refine ⟨⟨by decide, fun hmem => ?_⟩, by decide⟩
    exact absurd (isNameChar_of_isVariableName hname '#' hmem) (by decide)
  have hhyphen : '-' ∉ "#vars_".toList := by decide
  have hmem : '-' ∈ ("--" ++ name ++ "_").toList := by
    simp only [String.toList_append, List.mem_append]
    exact .inl (.inl (by decide))
  rcases List.append_eq_append_iff.1 heq with ⟨extra, -, hextra⟩ | ⟨extra, -, hextra⟩
  · rw [hextra] at hhyphen
    exact hhyphen (List.mem_append_right _ hmem)
  · rw [hextra] at hsign
    exact hsign (List.mem_append_right _ (by decide))

/-- The places where a piece stands in a text are among those up to its length. -/
theorem exists_mem_range_of_split {text piece before after : List Char}
    (htext : text = before ++ (piece ++ after)) :
    ∃ n ∈ List.range (text.length + 1), text.take n = before ∧ piece <+: text.drop n := by
  refine ⟨before.length, ?_, by rw [htext, List.take_left], ?_⟩
  · rw [List.mem_range, htext, List.length_append]
    omega
  · rw [htext, List.drop_left]
    exact List.prefix_append _ _

theorem declared?_eq_none {before after : List Char}
    (h : ¬ startsDeclaration before.getLast? = true) :
    Occurrence.declared? ⟨before.getLast?, after⟩ = none := by
  rw [Occurrence.declared?, if_neg h]

/-- The values collected are those of the names, and those known before of other names. -/
theorem Readback.exists_collect_eq {text : List Char} {token : MarkerToken} {names : List String}
    (h : ∀ name ∈ names, ∃ value, valueOf text name (token.marker name) = .ok value)
    (known : Values) :
    ∃ values, collect text (names.map fun name => (name, token.marker name)) known = .ok values ∧
      ∀ name value : String, values[name]? = some value ↔
        (name ∈ names ∧ valueOf text name (token.marker name) = .ok value) ∨
          (name ∉ names ∧ known[name]? = some value) := by
  induction names generalizing known with
  | nil =>
    refine ⟨known, rfl, ?_⟩
    intro name value
    simp
  | cons first names ih =>
    obtain ⟨value, hvalue⟩ := h first List.mem_cons_self
    obtain ⟨values, hvalues, hiff⟩ :=
      ih (fun name hname => h name (List.mem_cons_of_mem first hname)) (known.insert first value)
    refine ⟨values, ?_, ?_⟩
    · rw [List.map_cons, collect, hvalue]
      exact hvalues
    · intro name value'
      rw [hiff, Std.ExtTreeMap.getElem?_insert]
      by_cases hname : name = first
      · subst hname
        by_cases hmem : name ∈ names <;> simp [hmem, hvalue]
      · have hcompare : compare first name ≠ .eq := fun heq =>
          hname (Std.LawfulEqOrd.eq_of_compare heq).symm
        simp [hcompare, hname]

namespace DeclaresOnce

variable {token : MarkerToken} {names : List String} {text : List Char}
  {upTo : String → List Char} (h : DeclaresOnce token names text upTo)
  (hnames : ∀ name ∈ names, IsUnspaced name)

include h hnames

/-- An occurrence of a marker either is the declaration of its variable or starts none. -/
theorem declared?_of_ne {name : String} (hname : name ∈ names) {before after : List Char}
    (htext : text = before ++ ((token.marker name).toList ++ after)) (hne : before ≠ upTo name) :
    Occurrence.declared? ⟨before.getLast?, after⟩ = none := by
  have hsplit : text =
      (before ++ ("--" ++ name ++ "_").toList) ++ (token.text.toList ++ after) := by
    rw [htext, ← List.append_assoc, append_marker, List.append_assoc]
  refine declared?_eq_none fun hstart => ?_
  rcases h.alone _ _ hsplit with hselector | ⟨other, hother, hplace⟩
  · exact not_selector_isSuffix (hnames name hname).1 before hselector
  · obtain ⟨after', rest, -, hdeclared⟩ := h.declared other hother
    have hmarkers : before ++ (token.marker name).toList =
        upTo other ++ (token.marker other).toList := by
      rw [append_marker, hplace, ← append_marker]
    obtain ⟨hbefore, rfl⟩ := eq_of_append_marker (hnames name hname) (hnames other hother) hstart
      (declared?_eq_some hdeclared).1 hmarkers
    exact hne hbefore

/-- The search for a marker finds the declaration of its variable and nothing more. -/
theorem declarations_eq (htoken : ∀ c ∈ token.text.toList, (Text.hexValue? c).isSome = true)
    {name : String} (hname : name ∈ names) {after rest : List Char}
    (htext : text = upTo name ++ ((token.marker name).toList ++ after))
    (hdeclared : Occurrence.declared? ⟨(upTo name).getLast?, after⟩ = some rest) :
    declarations (token.marker name).toList text = [rest] := by
  have hstart : ∀ c ∈ (upTo name).getLast?, c ∉ (token.marker name).toList := by
    intro c hc hmem
    have hboundary := (declared?_eq_some hdeclared).1
    rw [Option.mem_def.1 hc, startsDeclaration_marker htoken (hnames name hname) hmem] at hboundary
    cases hboundary
  exact declarations_eq_singleton hdeclared
    (fun before' after' hsplit hne => h.declared?_of_ne hnames hname hsplit hne)
    (marker_ne_nil token name) hstart htext

theorem exists_valueOf (htoken : ∀ c ∈ token.text.toList, (Text.hexValue? c).isSome = true)
    {name : String} (hname : name ∈ names) :
    ∃ value, valueOf text name (token.marker name) = .ok value := by
  obtain ⟨after, rest, htext, hdeclared⟩ := h.declared name hname
  rw [valueOf, h.declarations_eq hnames htoken hname htext hdeclared]
  exact ⟨_, rfl⟩

end DeclaresOnce

/-- **A declaration counts for one variable.** Names without blanks, of which the markers have a
value at the same place of a text, are one name. So where each variable is declared once and the
token stands nowhere else, each has one value: none is missing and none is repeated. -/
theorem declaration_counts_once {token : MarkerToken}
    (htoken : ∀ c ∈ token.text.toList, (Text.hexValue? c).isSome = true) (text : List Char) :
    (∀ a b place, IsUnspaced a → IsUnspaced b →
      place ∈ valuePlaces (token.marker a).toList text →
      place ∈ valuePlaces (token.marker b).toList text → a = b) ∧
    ∀ names upTo, (∀ name ∈ names, IsUnspaced name) → DeclaresOnce token names text upTo →
      ∃ values, (MarkerSet.ofNames token names).readBack (String.ofList text) = .ok values := by
  refine ⟨fun a b place ha hb h h' => eq_of_mem_valuePlaces htoken ha hb h h', ?_⟩
  intro names upTo hnames h
  obtain ⟨values, hvalues, -⟩ := @exists_collect_eq text token (MarkerSet.ofNames token names).names
    (fun name hname => h.exists_valueOf hnames htoken (MarkerSet.mem_names_ofNames.1 hname)) ∅
  refine ⟨values, ?_⟩
  rw [MarkerSet.readBack, String.toList_ofList]
  exact hvalues

/-- A text with the declarations of two variables, one of them named `a`. -/
def pairText (other : String) : List Char :=
  ("#vars_0f\x7b--a_0f:1;--" ++ other ++ "_0f:2\x7d").toList

/-- What stands in front of each declaration. -/
def pairUpTo (name : String) : List Char :=
  if name = "a" then "#vars_0f\x7b".toList else "#vars_0f\x7b--a_0f:1;".toList

theorem declaresOnce_pair {other : String}
    (hdeclared : ∀ name ∈ ["a", other],
      pairUpTo name ++ ((MarkerToken.mk "0f").marker name).toList <+: pairText other ∧
        (Occurrence.declared? ⟨(pairUpTo name).getLast?, (pairText other).drop
          (pairUpTo name ++ ((MarkerToken.mk "0f").marker name).toList).length⟩).isSome = true)
    (halone : ∀ n ∈ List.range ((pairText other).length + 1),
      ['0', 'f'] <+: (pairText other).drop n → "#vars_".toList <:+ (pairText other).take n ∨
        ∃ name ∈ ["a", other], (pairText other).take n =
          pairUpTo name ++ ("--" ++ name ++ "_").toList) :
    DeclaresOnce ⟨"0f"⟩ ["a", other] (pairText other) pairUpTo where
  declared name hname := by
    obtain ⟨⟨after, hafter⟩, hsome⟩ := hdeclared name hname
    obtain ⟨rest, hrest⟩ := Option.isSome_iff_exists.1 hsome
    rw [← hafter, List.drop_left] at hrest
    exact ⟨after, rest, by rw [← List.append_assoc, hafter], hrest⟩
  alone before after htext := by
    obtain ⟨n, hn, rfl, hpiece⟩ := exists_mem_range_of_split htext
    exact halone n hn hpiece

theorem declaration_counts_once_pair :
    (∀ c ∈ (MarkerToken.mk "0f").text.toList, (Text.hexValue? c).isSome = true) ∧
      (∀ name ∈ ["a", "b--a"], IsUnspaced name) ∧
      DeclaresOnce ⟨"0f"⟩ ["a", "b--a"] (pairText "b--a") pairUpTo ∧
      ∃ values, (MarkerSet.ofNames ⟨"0f"⟩ ["a", "b--a"]).readBack
        (String.ofList (pairText "b--a")) = .ok values := by
  have htoken : ∀ c ∈ (MarkerToken.mk "0f").text.toList, (Text.hexValue? c).isSome = true :=
    Text.forall_mem_of_all (by decide)
  have hnames : ∀ name ∈ ["a", "b--a"], IsUnspaced name := by
    intro name hname
    rcases List.mem_cons.1 hname with rfl | hname
    · exact ⟨by decide, Text.forall_mem_of_all (by decide)⟩
    · obtain rfl := List.mem_singleton.1 hname
      exact ⟨by decide, Text.forall_mem_of_all (by decide)⟩
  have hpair : DeclaresOnce ⟨"0f"⟩ ["a", "b--a"] (pairText "b--a") pairUpTo :=
    declaresOnce_pair (by decide +kernel) (by decide +kernel)
  exact ⟨htoken, hnames, hpair, (declaration_counts_once htoken _).2 _ _ hnames hpair⟩

/-- **Blanks in names cannot be admitted.** A no-break space may stand in a name. The declaration of
such a name counts for the name behind the space, too, which is then declared twice. -/
theorem spaced_name_counts_twice :
    let token : MarkerToken := ⟨"0f"⟩
    let other := "x\u00a0--a"
    (∀ c ∈ token.text.toList, (Text.hexValue? c).isSome = true) ∧
      isVariableName "a".toList = true ∧ isVariableName other.toList = true ∧ "a" ≠ other ∧
      (∃ place, place ∈ valuePlaces (token.marker "a").toList (pairText other) ∧
        place ∈ valuePlaces (token.marker other).toList (pairText other)) ∧
      DeclaresOnce token ["a", other] (pairText other) pairUpTo ∧
      (MarkerSet.ofNames token ["a", other]).readBack (String.ofList (pairText other)) =
        .error (.repeated "a" (token.marker "a") 2) := by
  intro token other
  refine ⟨Text.forall_mem_of_all (by decide), by decide, by decide, by decide, ⟨29, ?_, ?_⟩,
    declaresOnce_pair (by decide +kernel) (by decide +kernel), ?_⟩
  · decide +kernel
  · decide +kernel
  · have hmarkers : (MarkerSet.ofNames token ["a", other]).markers =
        [("a", token.marker "a"), (other, token.marker other)] := by decide +kernel
    have hdeclarations : declarations (token.marker "a").toList (pairText other) =
        ["1;--x\u00a0--a_0f:2\x7d".toList, "2\x7d".toList] := by decide +kernel
    rw [MarkerSet.readBack, String.toList_ofList, hmarkers, collect, valueOf, hdeclarations]
    rfl

end StyleConstants
