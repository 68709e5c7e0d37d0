import StyleConstants.Import.Json
import StyleConstants.Proofs.Json.Accepted
import StyleConstants.Proofs.Text.Lossy

/-!
# What hosts send and get

Options, imports and constants that were written as JSON values are read back as they were. A
constant that is bound to an object and one that is bound to a text are not mistaken for each other,
since one is written as an object and the other as a string.

* `Options.ofJson_toJson?`, `ImportRequest.ofJson_toJson`, `ConstBinding.ofJson_toJson` and the
  like: the round trips, part by part.
* `Options.isAccepted_iff`: the objects that are options.
* `json_is_read_exactly`: both together.
-/

namespace StyleConstants

open Json (valueOf? sortedFields field? asText asOption asList)

namespace Json

variable {α : Type}

theorem field?_sorted {fields : List (String × Json)} {name : String} {value : Json}
    {part : Json → Except Mismatch α} {a : α} (hvalue : valueOf? fields name = some value)
    (hpart : part value.sorted = .ok a) :
    field? (sortedFields fields []) name part = .ok (some a) := by
  rw [field?, lookup_sortedFields, hvalue]
  exact congrArg (Except.map some) hpart

theorem asList_sorted {write : α → Json} {part : Json → Except Mismatch α}
    (h : ∀ a, part (write a).sorted = .ok a) (list : List α) :
    asList part (Json.array (list.map write)).sorted = .ok list := by
  rw [sorted, sortedItems_eq_map, List.map_map]
  exact mapM_map_eq_ok h list

end Json

/-! ## Options -/

namespace Options

theorem spellsStyle_styleJson (style : Option CaseStyle) : SpellsStyle (styleJson style) style := by
  cases style with
  | none => exact .null
  | some style => exact .name style

theorem mapM_text?_eq_some_iff {paths : List Path} {texts : List String} :
    paths.mapM Path.text? = some texts ↔ paths = texts.map Path.ofText := by
  induction paths generalizing texts with
  | nil =>
    rw [List.mapM_nil, List.nil_eq, List.map_eq_nil_iff]
    exact Option.some_inj.trans List.nil_eq
  | cons path paths ih =>
    rw [List.mapM_cons]
    constructor
    · intro h
      obtain ⟨text, htext, h⟩ := Option.bind_eq_some_iff.1 h
      obtain ⟨others, hothers, h⟩ := Option.bind_eq_some_iff.1 h
      cases h
      rw [List.map_cons, Path.text?_eq_some_iff.1 htext, ih.1 hothers]
    · intro h
      obtain ⟨text, others, rfl, htext, hothers⟩ := List.map_eq_cons_iff.1 h.symm
      rw [Path.text?_eq_some_iff.2 htext, ih.2 hothers.symm]
      rfl

theorem ofJson_toJson? {options : Options} {json : Json} (h : options.toJson? = some json) :
    ofJson json = .ok options := by
  obtain ⟨texts, htexts, rfl⟩ := Option.map_eq_some_iff.1 h
  rw [ofJson_object_eq_ok_iff]
  refine ⟨?_, spellsStyle_styleJson _, spellsStyle_styleJson _, texts, rfl,
    mapM_text?_eq_some_iff.1 htexts⟩
  intro name value hvalue
  have hmem := List.mem_map_of_mem (Json.mem_of_valueOf? hvalue) (f := Prod.fst)
  exact hmem

theorem exists_toJson?_iff {options : Options} : (∃ json, options.toJson? = some json) ↔
    ∃ texts : List String, options.loadPaths = texts.map Path.ofText := by
  simp only [toJson?, Option.map_eq_some_iff, mapM_text?_eq_some_iff]
  constructor
  · rintro ⟨_, texts, htexts, -⟩
    exact ⟨texts, htexts⟩
  · rintro ⟨texts, htexts⟩
    exact ⟨_, texts, htexts, rfl⟩

/-- The names of the object are those of options. A style is null, its name, or an object that gives
only this name a value, which is null. The directories are a list of strings. -/
structure IsAccepted (fields : List (String × Json)) : Prop where
  known : ∀ name value, valueOf? fields name = some value → name ∈ fieldNames
  sassCase : ∀ value, valueOf? fields "sassCase" = some value → ∃ style, SpellsStyle value style
  outputCase : ∀ value, valueOf? fields "outputCase" = some value → ∃ style, SpellsStyle value style
  loadPaths : ∀ value, valueOf? fields "loadPaths" = some value →
    ∃ texts : List String, value = .array (texts.map Json.string)

theorem exists_spellsPart_iff {β : Type} {spells : Json → β → Prop} {value : Option Json}
    {default : β} : (∃ part, SpellsPart spells value part default) ↔
      ∀ json, value = some json → ∃ part, spells json part := by
  cases value with
  | none => exact ⟨fun _ _ h => (nomatch h), fun _ => ⟨default, rfl⟩⟩
  | some value =>
    constructor
    · rintro ⟨part, hpart⟩ json h
      cases h
      exact ⟨part, hpart⟩
    · intro h
      exact h value rfl

theorem exists_spellsPaths_iff {value : Json} : (∃ paths, SpellsPaths value paths) ↔
    ∃ texts : List String, value = .array (texts.map Json.string) := by
  constructor
  · rintro ⟨paths, texts, rfl, -⟩
    exact ⟨texts, rfl⟩
  · rintro ⟨texts, rfl⟩
    exact ⟨_, texts, rfl, rfl⟩

theorem isAccepted_iff {fields : List (String × Json)} :
    (∃ options, ofJson (.object fields) = .ok options) ↔ IsAccepted fields := by
  simp only [ofJson_object_eq_ok_iff]
  constructor
  · rintro ⟨options, hknown, hsass, houtput, hpaths⟩
    have hlists := exists_spellsPart_iff.1 ⟨_, hpaths⟩
    exact ⟨hknown, exists_spellsPart_iff.1 ⟨_, hsass⟩, exists_spellsPart_iff.1 ⟨_, houtput⟩,
      fun value hvalue => exists_spellsPaths_iff.1 (hlists value hvalue)⟩
  · rintro ⟨hknown, hsass, houtput, hpaths⟩
    obtain ⟨sassCase, hsass⟩ := exists_spellsPart_iff.2 hsass
    obtain ⟨outputCase, houtput⟩ := exists_spellsPart_iff.2 houtput
    obtain ⟨loadPaths, hpaths⟩ := exists_spellsPart_iff.2
      fun value hvalue => exists_spellsPaths_iff.2 (hpaths value hvalue)
    exact ⟨⟨sassCase, outputCase, loadPaths⟩, hknown, hsass, houtput, hpaths⟩

theorem exists_mismatch_of_not_isAccepted {fields : List (String × Json)}
    (h : ¬ IsAccepted fields) : ∃ fault, ofJson (.object fields) = .error (.mismatch fault) := by
  rw [ofJson]
  cases hdecode : decode .tree (Json.object fields).sorted with
  | error fault => exact ⟨fault, rfl⟩
  | ok options => exact absurd (isAccepted_iff.1 ⟨options, by rw [ofJson, hdecode]; rfl⟩) h

end Options

/-! ## Imports -/

theorem NamedImport.ofJson_toJson (named : NamedImport) : ofJson named.toJson = .ok named := by
  have himported : asText (Json.string named.imported).sorted = .ok named.imported := rfl
  have hlocal : asText (Json.string named.localName).sorted = .ok named.localName := rfl
  rw [ofJson, toJson, Json.sorted, decode, Json.field?_sorted rfl himported,
    Json.field?_sorted rfl hlocal]
  rfl

theorem ImportRequest.ofJson_toJson (request : ImportRequest) :
    ofJson request.toJson = .ok request := by
  have hspecifier : asText (Json.string request.specifier).sorted = .ok request.specifier := rfl
  have hdefault : asOption asText ((request.defaultBinding.map Json.string).getD .null).sorted =
      .ok request.defaultBinding := by
    cases request.defaultBinding <;> rfl
  have hnamed := Json.asList_sorted NamedImport.ofJson_toJson request.named
  rw [ofJson, toJson, Json.sorted, decode, Json.field?_sorted rfl hdefault,
    Json.field?_sorted rfl hnamed, Json.field?_sorted rfl hspecifier]
  rfl

/-! ## Constants -/

namespace Values

theorem ascending_toJson (values : Values) :
    Json.Ascending (values.toList.map fun (name, value) => (name, Json.string value)) := by
  rw [Json.Ascending, List.pairwise_map]
  exact values.ordered_keys_toList.imp fun h => compareOfLessAndEq_eq_lt.1 h

theorem sorted_toJson (values : Values) : values.toJson.sorted = values.toJson := by
  rw [toJson, Json.sorted, Json.sortedFields_of_ascending values.ascending_toJson]
  intro field hmem
  obtain ⟨⟨name, value⟩, -, rfl⟩ := List.mem_map.1 hmem
  exact Json.sorted_eq_string_iff.2 rfl

theorem ofList_toList (values : Values) : Std.ExtTreeMap.ofList values.toList = values := by
  refine Std.ExtTreeMap.ext_getElem? fun name => ?_
  cases hvalue : values[name]? with
  | some value =>
    have hdistinct := values.distinct_keys_toList
    exact Std.ExtTreeMap.getElem?_ofList_of_mem Std.ReflCmp.compare_self hdistinct
      (Std.ExtTreeMap.mem_toList_iff_getElem?_eq_some.2 hvalue)
  | none =>
    refine Std.ExtTreeMap.getElem?_ofList_of_contains_eq_false ?_
    rw [List.contains_eq_mem, decide_eq_false_iff_not]
    intro hmem
    obtain ⟨entry, hentry, rfl⟩ := List.mem_map.1 hmem
    have hsome := Std.ExtTreeMap.mem_toList_iff_getElem?_eq_some.1 hentry
    rw [hvalue] at hsome
    cases hsome

theorem mapM_textField? (entries : List (String × String)) :
    (entries.map fun (name, value) => (name, Json.string value)).mapM textField? =
      some entries := by
  induction entries with
  | nil => rfl
  | cons entry rest ih =>
    rw [List.map_cons, List.mapM_cons, ih]
    rfl

theorem ofFields?_toList (values : Values) :
    ofFields? (values.toList.map fun (name, value) => (name, Json.string value)) = some values := by
  rw [ofFields?, mapM_textField?, Option.map_some, ofList_toList]

end Values

theorem BindingValue.ofJson_toJson (value : BindingValue) : ofJson value.toJson = .ok value := by
  cases value with
  | value text => rfl
  | object values =>
    rw [ofJson, toJson, Values.sorted_toJson, Values.toJson, decode, Values.ofFields?_toList]

/-- An object of texts is read from an object only. -/
theorem BindingValue.exists_of_ofJson_eq_object {json : Json} {values : Values}
    (h : ofJson json = .ok (.object values)) : ∃ fields, json = .object fields := by
  cases json with
  | object fields => exact ⟨fields, rfl⟩
  | null => cases h
  | bool value => cases h
  | integer value => cases h
  | float value => cases h
  | string text => cases h
  | array items => cases h

/-- A text is read from a string only. -/
theorem BindingValue.eq_of_ofJson_eq_value {json : Json} {text : String}
    (h : ofJson json = .ok (.value text)) : json = .string text := by
  cases json with
  | string text' =>
    cases h
    rfl
  | object fields =>
    rw [ofJson, Json.sorted, decode] at h
    split at h <;> cases h
  | null => cases h
  | bool value => cases h
  | integer value => cases h
  | float value => cases h
  | array items => cases h

theorem ConstBinding.ofJson_toJson (binding : ConstBinding) :
    ofJson binding.toJson = .ok binding := by
  have hlocal : asText (Json.string binding.localName).sorted = .ok binding.localName := rfl
  have hvalue : BindingValue.decode binding.value.toJson.sorted = .ok binding.value :=
    binding.value.ofJson_toJson
  rw [ofJson, toJson, Json.sorted, decode, Json.field?_sorted rfl hlocal,
    Json.field?_sorted rfl hvalue]
  rfl

/-! ## All of them -/

/-- What is written as a JSON value is read back from it, and a constant that is an object is not
taken for a text, nor the reverse. Only options with a directory that no text spells cannot be
written. An object is read as options if and only if it has no names but theirs, its styles are
null, names or objects that give one name the value null, and its directories a list of strings;
else the configuration is refused. -/
theorem json_is_read_exactly :
    (∀ (options : Options) json, options.toJson? = some json →
      Options.ofJson json = .ok options) ∧
    (∀ options : Options, (∃ json, options.toJson? = some json) ↔
      ∃ texts : List String, options.loadPaths = texts.map Path.ofText) ∧
    (∀ request : ImportRequest, ImportRequest.ofJson request.toJson = .ok request) ∧
    (∀ named : NamedImport, NamedImport.ofJson named.toJson = .ok named) ∧
    (∀ binding : ConstBinding, ConstBinding.ofJson binding.toJson = .ok binding) ∧
    (∀ value : BindingValue, BindingValue.ofJson value.toJson = .ok value) ∧
    (∀ json values, BindingValue.ofJson json = .ok (.object values) →
      ∃ fields, json = .object fields) ∧
    (∀ json text, BindingValue.ofJson json = .ok (.value text) → json = .string text) ∧
    ∀ fields, ((∃ options, Options.ofJson (.object fields) = .ok options) ↔
        Options.IsAccepted fields) ∧
      (¬ Options.IsAccepted fields →
        ∃ fault, Options.ofJson (.object fields) = .error (.mismatch fault)) :=
  ⟨fun _ _ => Options.ofJson_toJson?, fun _ => Options.exists_toJson?_iff,
    ImportRequest.ofJson_toJson, NamedImport.ofJson_toJson, ConstBinding.ofJson_toJson,
    BindingValue.ofJson_toJson,
    fun _ _ h => BindingValue.exists_of_ofJson_eq_object h,
    fun _ _ h => BindingValue.eq_of_ofJson_eq_value h,
    fun _ => ⟨Options.isAccepted_iff, Options.exists_mismatch_of_not_isAccepted⟩⟩

def styledOptions : Options := ⟨some .camel, none, [.ofText "a"]⟩

def styledJson : Json :=
  .object [("sassCase", .string "camelCase"), ("outputCase", .null),
    ("loadPaths", .array [.string "a"])]

/-- Options with a directory, a style as an object, an object that names two styles, and constants
of both kinds. -/
theorem json_is_read_exactly_styles :
    styledOptions.toJson? = some styledJson ∧ Options.ofJson styledJson = .ok styledOptions ∧
    Options.IsAccepted [("sassCase", .object [("camelCase", .null)]),
      ("loadPaths", .array [.string "a"])] ∧
    ¬ Options.IsAccepted [("sassCase", .object [("camelCase", .null), ("dotCase", .null)])] ∧
    (∃ fault, Options.ofJson (.object [("sassCase", .object [("camelCase", .null),
      ("dotCase", .null)])]) = .error (.mismatch fault)) ∧
    BindingValue.ofJson (.object [("a", .string "1px")]) = .ok (.object (.ofList [("a", "1px")])) ∧
    (∃ fields, Json.object [("a", .string "1px")] = .object fields) ∧
    BindingValue.ofJson (.string "1px") = .ok (.value "1px") ∧
    Json.string "1px" = .string "1px" := by
  obtain ⟨hwritten, -, -, -, -, -, hobject, hvalue, hoptions⟩ := json_is_read_exactly
  have hjson : styledOptions.toJson? = some styledJson := rfl
  have hread : Options.ofJson (.object [("sassCase", .object [("camelCase", .null)]),
      ("loadPaths", .array [.string "a"])]) = .ok styledOptions := rfl
  have htwo : ¬ Options.IsAccepted
      [("sassCase", .object [("camelCase", .null), ("dotCase", .null)])] := by
    intro h
    obtain ⟨style, hstyle⟩ := h.sassCase _ rfl
    cases hstyle with
    | object style hvalues =>
      have hcamel : some Json.null = if "camelCase" = style.name then some Json.null else none :=
        hvalues "camelCase"
      have hdot : some Json.null = if "dotCase" = style.name then some Json.null else none :=
        hvalues "dotCase"
      split at hcamel
      · rename_i hname
        rw [if_neg (by rw [← hname]; decide)] at hdot
        cases hdot
      · cases hcamel
  have hmap : BindingValue.ofJson (.object [("a", .string "1px")]) =
      .ok (.object (.ofList [("a", "1px")])) := rfl
  have htext : BindingValue.ofJson (.string "1px") = .ok (.value "1px") := rfl
  exact ⟨hjson, hwritten _ _ hjson, (hoptions _).1.1 ⟨_, hread⟩, htwo, (hoptions _).2 htwo, hmap,
    hobject _ _ hmap, htext, hvalue _ _ htext⟩

end StyleConstants
