import StyleConstants.Proofs.Probe.Answered
import StyleConstants.Proofs.Probe.Counted
import StyleConstants.Proofs.Probe.Sheet
import StyleConstants.Proofs.Probe.Value

/-!
# Declarations in values

Each marker is looked for on its own, also in the stretches that are read as the values of others.
No stretch ends within a declaration up to its colon, since neither a marker nor a blank is a
semicolon or a brace; so such a declaration stands in a stretch as a whole or not at all. It does
not stand there if the value ends before it, outside of the quotes and brackets that it opens.

* `Declared`: a declaration that counts, with the places where it and its value begin and end.
* `Declared.clears_iff_not_swallows`: as a whole or not at all.
* `Declared.clears_of_separates`: a value that ends does not reach behind its end.
* `swallows_whole_or_not`: what this means for the values read from a text.
-/

namespace StyleConstants

open Text (isBlank)
open Stylesheet

namespace Readback

variable {marker other text : List Char}

theorem ending_of_advance_eq_none {quoting : Quoting} {owed : List Char} {c : Char}
    (h : advance quoting owed c = none) : c = ';' ∨ c = '}' := by
  cases quoting with
  | escaped quote => cases h
  | inside quote =>
    simp only [advance] at h
    split at h
    · cases h
    · split at h <;> cases h
  | plain =>
    rw [advance] at h
    repeat
      split at h
      · cases h
    split at h
    · rename_i hend
      exact hend.2
    · cases h

/-- A stretch ends with the text, or at a semicolon or closing brace. -/
theorem stretch_ends (quoting : Quoting) (owed text : List Char) :
    stretch quoting owed text = text ∨ ∃ ending later,
      text = stretch quoting owed text ++ ending :: later ∧ (ending = ';' ∨ ending = '}') := by
  induction text generalizing quoting owed with
  | nil => exact .inl rfl
  | cons c rest ih =>
    rw [stretch]
    cases hadvance : advance quoting owed c with
    | none =>
      exact .inr ⟨c, rest, rfl, ending_of_advance_eq_none hadvance⟩
    | some next =>
      dsimp only
      rcases ih next.1 next.2 with hrest | ⟨ending, later, hrest, hending⟩
      · exact .inl (by rw [hrest])
      · exact .inr ⟨ending, later, by rw [List.cons_append, ← hrest], hending⟩

/-- A declaration of the marker that counts. -/
structure Declared (marker text : List Char) where
  before : List Char
  blanks : List Char
  rest : List Char
  counts : rest ∈ declarations marker text
  split : text = before ++ (marker ++ (blanks ++ ':' :: rest))
  blank : ∀ c ∈ blanks, isBlank c = true

theorem exists_declared {rest : List Char} (h : rest ∈ declarations marker text) :
    ∃ declared : Declared marker text, declared.rest = rest := by
  obtain ⟨before, blanks, hsplit, -, hblanks⟩ := exists_split_of_mem_declarations h
  exact ⟨⟨before, blanks, rest, h, hsplit, hblanks⟩, rfl⟩

namespace Declared

/-- Where the marker begins. -/
def start (declared : Declared marker text) : Nat := declared.before.length

/-- Where the colon has been passed and the value begins. -/
def opening (declared : Declared marker text) : Nat := text.length - declared.rest.length

/-- The stretch that is read as the value, with the blanks around it. -/
def value (declared : Declared marker text) : List Char := stretch .plain [] declared.rest

/-- Where the stretch ends. -/
def stop (declared : Declared marker text) : Nat := declared.opening + declared.value.length

/-- The other declaration stands in the stretch, from its marker to its colon. -/
def Swallows (a : Declared marker text) (b : Declared other text) : Prop :=
  a.opening ≤ b.start ∧ b.opening ≤ a.stop

/-- The other declaration stands before or behind the stretch, from its marker to its colon. -/
def Clears (a : Declared marker text) (b : Declared other text) : Prop :=
  b.opening ≤ a.opening ∨ a.stop ≤ b.start

/-- Before the marker of the other declaration there is a semicolon or closing brace outside of the
quotes and brackets that were opened behind the colon. -/
def Separates (a : Declared marker text) (b : Declared other text) : Prop :=
  ∃ value ending later, a.rest = value ++ ending :: later ∧ Delimited none value ∧
    (ending = ';' ∨ ending = '}') ∧ a.opening + value.length < b.start

theorem opening_eq (declared : Declared marker text) :
    declared.opening = declared.start + (marker.length + declared.blanks.length + 1) := by
  have hlength := congrArg List.length declared.split
  simp only [List.length_append, List.length_cons] at hlength
  rw [opening, start]
  omega

theorem value_eq (declared : Declared marker text) {value later : List Char} {ending : Char}
    (hrest : declared.rest = value ++ ending :: later) (hvalue : Delimited none value)
    (hending : ending = ';' ∨ ending = '}') : declared.value = value := by
  rw [Declared.value, hrest, stretch_delimited_ending hvalue hending]

theorem clears_of_separates {a : Declared marker text} {b : Declared other text}
    (h : a.Separates b) : a.Clears b := by
  obtain ⟨value, ending, later, hrest, hvalue, hending, hlt⟩ := h
  refine .inr ?_
  rw [stop, a.value_eq hrest hvalue hending]
  exact Nat.le_of_lt hlt

/-! ## Places -/

theorem not_ending_of_isBlank {c : Char} (h : isBlank c = true) : c ∉ [':', ';', '}'] := by
  intro hc
  simp only [List.mem_cons, List.not_mem_nil, or_false] at hc
  rcases hc with rfl | rfl | rfl <;> exact absurd h (by decide)

theorem getElem?_of_split {front later : List Char} {c : Char} (h : text = front ++ c :: later) :
    text[front.length]? = some c := by
  simp [h]

/-- The character in front of the value is the colon. -/
theorem getElem?_colon (declared : Declared marker text) :
    text[declared.opening - 1]? = some ':' := by
  have hopening := declared.opening_eq
  have hfront : text = (declared.before ++ marker ++ declared.blanks) ++ ':' :: declared.rest := by
    simpa only [List.append_assoc] using declared.split
  have hplace : declared.opening - 1 = (declared.before ++ marker ++ declared.blanks).length := by
    simp only [List.length_append]
    rw [hopening, start]
    omega
  rw [hplace]
  exact getElem?_of_split hfront

/-- From the marker up to the colon nothing ends a value. -/
theorem getElem?_head (declared : Declared marker text)
    (hmarker : ∀ c ∈ marker, c ∉ [':', ';', '}']) {i : Nat} (hstart : declared.start ≤ i)
    (hopening : i + 1 < declared.opening) : ∃ c, text[i]? = some c ∧ c ∉ [':', ';', '}'] := by
  have hhead : ∀ c ∈ marker ++ declared.blanks, c ∉ [':', ';', '}'] := by
    intro c hc
    rcases List.mem_append.1 hc with hc | hc
    · exact hmarker c hc
    · exact not_ending_of_isBlank (declared.blank c hc)
  have hsplit : text =
      declared.before ++ ((marker ++ declared.blanks) ++ ':' :: declared.rest) := by
    simpa only [List.append_assoc] using declared.split
  have hlt : i - declared.before.length < (marker ++ declared.blanks).length := by
    rw [declared.opening_eq] at hopening
    rw [start] at hstart hopening
    rw [List.length_append]
    omega
  have hplace : text[i]? = some (marker ++ declared.blanks)[i - declared.before.length] := by
    rw [← List.getElem?_eq_getElem hlt, ← List.getElem?_append_left hlt,
      ← List.getElem?_append_right hstart, ← hsplit]
  exact ⟨_, hplace, hhead _ (List.getElem_mem hlt)⟩

/-- The character behind the stretch, if there is one. -/
theorem getElem?_stop (declared : Declared marker text) (hstop : declared.stop < text.length) :
    text[declared.stop]? = some ';' ∨ text[declared.stop]? = some '}' := by
  have hlength := congrArg List.length declared.split
  simp only [List.length_append, List.length_cons] at hlength
  rcases stretch_ends .plain [] declared.rest with hall | ⟨ending, later, hrest, hending⟩
  · have hvalue : declared.value.length = declared.rest.length := congrArg List.length hall
    rw [stop, opening, hvalue] at hstop
    omega
  · have hfront : text =
        (declared.before ++ marker ++ declared.blanks ++ [':'] ++ declared.value) ++
          ending :: later := by
      have hvalue : declared.rest = declared.value ++ ending :: later := hrest
      have hsplit := declared.split
      rw [hvalue] at hsplit
      simpa only [List.append_assoc, List.cons_append, List.nil_append] using hsplit
    have hplace : declared.stop = (declared.before ++ marker ++ declared.blanks ++ [':'] ++
        declared.value).length := by
      simp only [List.length_append, List.length_singleton]
      rw [stop, opening_eq, start]
      omega
    rw [hplace, getElem?_of_split hfront]
    exact hending.imp (congrArg some) (congrArg some)

/-- A declaration stands in a stretch as a whole or not at all. -/
theorem clears_iff_not_swallows (hother : ∀ c ∈ other, c ∉ [':', ';', '}'])
    (a : Declared marker text) (b : Declared other text) : a.Clears b ↔ ¬ a.Swallows b := by
  have hb : b.start < b.opening := by
    rw [b.opening_eq]
    omega
  have ha : a.opening = a.start + (marker.length + a.blanks.length + 1) := a.opening_eq
  have hstop : a.opening ≤ a.stop := Nat.le_add_right _ _
  constructor
  · rintro (hbefore | hbehind) ⟨hle, hge⟩ <;> omega
  · intro hnot
    by_cases hbefore : b.start < a.opening
    · refine .inl (Nat.le_of_not_lt fun hlt => ?_)
      -- the colon of the one would stand between the marker and the colon of the other
      obtain ⟨c, hc, hquiet⟩ := b.getElem?_head hother (i := a.opening - 1) (by omega) (by omega)
      rw [a.getElem?_colon] at hc
      obtain rfl := Option.some.inj hc
      simp at hquiet
    · refine .inr (Nat.le_of_not_lt fun hlt => ?_)
      -- the stretch would end between the marker and the colon
      have hinside : a.stop < b.opening :=
        Nat.lt_of_not_le fun hle => hnot ⟨Nat.le_of_not_lt hbefore, hle⟩
      have hends := a.getElem?_stop (Nat.lt_of_lt_of_le hinside (Nat.sub_le _ _))
      by_cases hcolon : a.stop + 1 < b.opening
      · obtain ⟨c, hc, hquiet⟩ := b.getElem?_head hother (Nat.le_of_lt hlt) hcolon
        rw [hc, Option.some.injEq, Option.some.injEq] at hends
        rcases hends with rfl | rfl <;> simp at hquiet
      · have hplace : a.stop = b.opening - 1 := by omega
        rw [hplace, b.getElem?_colon] at hends
        simp at hends

end Declared

end Readback

/-! ## Values of a set of markers -/

open Readback

theorem not_ending_of_isNameChar {c : Char} (h : isNameChar c = true) : c ∉ [':', ';', '}'] := by
  intro hc
  simp only [List.mem_cons, List.not_mem_nil, or_false] at hc
  rcases hc with rfl | rfl | rfl <;> exact absurd h (by decide)

theorem not_ending_of_mem_marker {token : MarkerToken}
    (htoken : ∀ c ∈ token.text.toList, (Text.hexValue? c).isSome = true) {name : String}
    (hname : isVariableName name.toList = true) :
    ∀ c ∈ (token.marker name).toList, c ∉ [':', ';', '}'] := by
  have hdigits : ∀ c ∈ token.text.toList, isNameChar c = true := by
    intro c hc
    simp [isNameChar, Text.isAlphanum_of_hex (htoken c hc)]
  exact fun c hc =>
    not_ending_of_isNameChar (MarkerSet.isNameChar_of_mem_marker hdigits hname c hc)

theorem valueOf_eq_ok {text : List Char} {name marker value : String}
    (h : valueOf text name marker = .ok value) :
    ∃ declared : Declared marker.toList text, declarations marker.toList text = [declared.rest] ∧
      value = String.ofList (Text.trim declared.value) := by
  unfold valueOf at h
  split at h
  · cases h
  · rename_i rest hrest
    obtain ⟨declared, rfl⟩ := exists_declared (hrest ▸ List.mem_singleton_self rest)
    exact ⟨declared, hrest, (Except.ok.inj h).symm⟩
  · cases h

/-- **Swallowed as a whole or not at all.** In a text of which all values can be read, each variable
of the set has one declaration that counts, and its value is the stretch behind the colon. Where the
text behind the colon closes the quotes and brackets that it opens and comes to a semicolon or a
brace, the stretch ends there. The declaration of another variable, from its marker to its colon,
stands in the stretch as a whole or not at all, and it does not stand there if the value comes to
such an end before the marker. -/
theorem swallows_whole_or_not {token : MarkerToken}
    (htoken : ∀ c ∈ token.text.toList, (Text.hexValue? c).isSome = true) {names : List String}
    (hnames : ∀ name ∈ names, isVariableName name.toList = true) {rendered : String}
    {values : Values} (h : (MarkerSet.ofNames token names).readBack rendered = .ok values) :
    let text := rendered.toList
    let marker name := (token.marker name).toList
    (∀ name ∈ names, ∃ declared : Declared (marker name) text,
      declarations (marker name) text = [declared.rest] ∧
        values[name]? = some (String.ofList (Text.trim declared.value))) ∧
    (∀ name ∈ names, ∀ (declared : Declared (marker name) text) (value later : List Char)
      (ending : Char), declared.rest = value ++ ending :: later → Delimited none value →
        (ending = ';' ∨ ending = '}') → declared.value = value) ∧
    ∀ a ∈ names, ∀ b ∈ names,
      ∀ (first : Declared (marker a) text) (second : Declared (marker b) text),
        (first.Clears second ↔ ¬ first.Swallows second) ∧
          (first.Separates second → first.Clears second) := by
  intro text marker
  refine ⟨?_, ?_, ?_⟩
  · intro name hname
    obtain ⟨value, hvalue⟩ :=
      Values.mem_iff.1 (MarkerSet.mem_readBack h (MarkerSet.mem_names_ofNames.2 hname))
    obtain ⟨declared, honly, rfl⟩ := valueOf_eq_ok (MarkerSet.of_readBack_eq_ok h hvalue).2
    exact ⟨declared, honly, hvalue⟩
  · intro name _ declared value later ending hrest hvalue hending
    exact declared.value_eq hrest hvalue hending
  · intro a _ b hb first second
    exact ⟨Declared.clears_iff_not_swallows (not_ending_of_mem_marker htoken (hnames b hb)) first
      second, Declared.clears_of_separates⟩

def shortToken : MarkerToken := ⟨"0f"⟩

theorem hex_shortToken : ∀ c ∈ shortToken.text.toList, (Text.hexValue? c).isSome = true :=
  Text.forall_mem_of_all (by decide)

theorem isVariableName_short : ∀ name ∈ ["a", "b"], isVariableName name.toList = true :=
  List.forall_mem_cons.2 ⟨by decide, List.forall_mem_singleton.2 (by decide)⟩

theorem swallows_whole_or_not_apart :
    (∀ c ∈ shortToken.text.toList, (Text.hexValue? c).isSome = true) ∧
      (∀ name ∈ ["a", "b"], isVariableName name.toList = true) ∧
      ∃ values, (MarkerSet.ofNames shortToken ["a", "b"]).readBack
          "#vars_0f\x7b--a_0f:1;--b_0f:2\x7d" = .ok values ∧
        ∃ (first : Declared (shortToken.marker "a").toList
            "#vars_0f\x7b--a_0f:1;--b_0f:2\x7d".toList)
          (second : Declared (shortToken.marker "b").toList
            "#vars_0f\x7b--a_0f:1;--b_0f:2\x7d".toList),
          first.Separates second ∧ first.Clears second ∧ first.value = ['1'] := by
  have hread : ∃ values, (MarkerSet.ofNames shortToken ["a", "b"]).readBack
      "#vars_0f\x7b--a_0f:1;--b_0f:2\x7d" = .ok values := ⟨_, rfl⟩
  obtain ⟨values, hvalues⟩ := hread
  obtain ⟨-, hexact, hwhole⟩ := swallows_whole_or_not hex_shortToken isVariableName_short hvalues
  have hone : Delimited none ['1'] := .char ⟨by decide, by simp, by decide⟩ .nil
  let first : Declared (shortToken.marker "a").toList
      "#vars_0f\x7b--a_0f:1;--b_0f:2\x7d".toList :=
    ⟨"#vars_0f\x7b".toList, [], "1;--b_0f:2\x7d".toList, by decide, rfl, by simp⟩
  let second : Declared (shortToken.marker "b").toList
      "#vars_0f\x7b--a_0f:1;--b_0f:2\x7d".toList :=
    ⟨"#vars_0f\x7b--a_0f:1;".toList, [], "2\x7d".toList, by decide, rfl, by simp⟩
  have hseparates : first.Separates second :=
    ⟨['1'], ';', "--b_0f:2\x7d".toList, rfl, hone, .inl rfl, by decide⟩
  exact ⟨hex_shortToken, isVariableName_short, values, hvalues, first, second, hseparates,
    (hwhole "a" (by simp) "b" (by simp) first second).2 hseparates,
    hexact "a" (by simp) first ['1'] "--b_0f:2\x7d".toList ';' rfl hone (.inl rfl)⟩

/-- Both values are read from the text, and the stretch of the first holds the declaration of the
second. -/
def FirstSwallowsSecond (rendered : String) : Prop :=
  (∃ values, (MarkerSet.ofNames shortToken ["a", "b"]).readBack rendered = .ok values) ∧
    ∃ (first : Declared (shortToken.marker "a").toList rendered.toList)
      (second : Declared (shortToken.marker "b").toList rendered.toList), first.Swallows second

/-- Values may swallow declarations: behind a quote that is not closed, and where nothing ends them
before the next marker. -/
theorem values_may_swallow :
    (∀ c ∈ shortToken.text.toList, (Text.hexValue? c).isSome = true) ∧
      (∀ name ∈ ["a", "b"], isVariableName name.toList = true) ∧
      FirstSwallowsSecond "#vars_0f\x7b--a_0f:it's;--b_0f:2\x7d" ∧
      FirstSwallowsSecond "#vars_0f\x7b--a_0f:1 --b_0f:2;\x7d" := by
  refine ⟨hex_shortToken, isVariableName_short, ⟨⟨_, rfl⟩, ?quoted⟩, ⟨⟨_, rfl⟩, ?spaced⟩⟩
  case quoted =>
    exact ⟨⟨"#vars_0f\x7b".toList, [], "it's;--b_0f:2\x7d".toList, by decide, rfl, by simp⟩,
      ⟨"#vars_0f\x7b--a_0f:it's;".toList, [], "2\x7d".toList, by decide, rfl, by simp⟩,
      by decide, by decide⟩
  case spaced =>
    exact ⟨⟨"#vars_0f\x7b".toList, [], "1 --b_0f:2;\x7d".toList, by decide, rfl, by simp⟩,
      ⟨"#vars_0f\x7b--a_0f:1 ".toList, [], "2;\x7d".toList, by decide, rfl, by simp⟩,
      by decide, by decide⟩

end StyleConstants
