import StyleConstants.Options
import StyleConstants.Proofs.Json.Objects
import StyleConstants.Proofs.Outcome

/-!
# The options that are accepted

An object is read as options field by field. Since its sorted reading has no name twice, every field
is read into an empty part of the draft, and what comes out depends only on the value of each of the
three names.

* `readStyle_eq_ok_iff`, `readPaths_eq_ok_iff`: the values that stand for a style and for
  directories.
* `readFields_eq_ok_iff`: what reading fields comes to.
* `ofJson_object_eq_ok_iff`: the objects that stand for given options.
-/

namespace StyleConstants

open Json (valueOf? sortedFields Ascending)

namespace Json

theorem sorted_eq_null_iff {value : Json} : value.sorted = .null ↔ value = .null := by
  cases value <;> simp [sorted]

theorem sorted_eq_string_iff {value : Json} {text : String} :
    value.sorted = .string text ↔ value = .string text := by
  cases value <;> simp [sorted]

theorem asString_sorted_eq_ok_iff {value : Json} {expected text : String} :
    value.sorted.asString expected = .ok text ↔ value = .string text := by
  rw [← sorted_eq_string_iff]
  cases value.sorted <;> simp [asString]

theorem sortedItems_eq_map (items : List Json) : sortedItems items = items.map sorted := by
  induction items with
  | nil => rw [sortedItems, List.map_nil]
  | cons item rest ih => rw [sortedItems, ih, List.map_cons]

end Json

/-! ## Styles -/

theorem CaseStyle.ofVariant_eq_ok_iff {name : String} {style : CaseStyle} :
    ofVariant name = .ok style ↔ name = style.name := by
  have hname : ofName? name = some style ↔ name = style.name :=
    ofName?_eq_some_iff.trans eq_comm
  rw [← hname, ofVariant]
  split
  · rename_i found hfound
    rw [hfound, Except.ok.injEq, Option.some.injEq]
  · rename_i hnone
    rw [hnone]
    exact ⟨fun h => (nomatch h), fun h => (nomatch h)⟩

theorem CaseStyle.decode_object_eq_ok_iff {fields : List (String × Json)} {style : CaseStyle} :
    decode .tree (.object fields) = .ok style ↔ fields = [(style.name, .null)] := by
  match fields with
  | [] => exact ⟨fun h => (nomatch h), fun h => (nomatch h)⟩
  | _ :: _ :: _ => exact ⟨fun h => (nomatch h), fun h => (nomatch h)⟩
  | [(name, value)] =>
    rw [List.cons.injEq, Prod.mk.injEq, ← ofVariant_eq_ok_iff]
    unfold decode
    dsimp only
    cases ofVariant name with
    | error fault => simp
    | ok found => cases value <;> simp

namespace Options

/-- The value stands for the style or for none: it is null, the name of the style, or an object that
gives the name of the style the value null and has no other name. -/
inductive SpellsStyle : Json → Option CaseStyle → Prop
  | null : SpellsStyle .null none
  | name (style : CaseStyle) : SpellsStyle (.string style.name) (some style)
  | object {fields : List (String × Json)} (style : CaseStyle)
      (h : ∀ name, valueOf? fields name = if name = style.name then some .null else none) :
      SpellsStyle (.object fields) (some style)

theorem readStyle_eq_ok_iff {value : Json} {style : Option CaseStyle} :
    readStyle .tree value.sorted = .ok style ↔ SpellsStyle value style := by
  constructor
  · intro h
    cases value with
    | null =>
      cases h
      exact .null
    | string text =>
      obtain ⟨found, hfound, rfl⟩ := exists_of_map_eq_ok h
      rw [CaseStyle.ofVariant_eq_ok_iff.1 hfound]
      exact .name found
    | object fields =>
      obtain ⟨found, hfound, rfl⟩ := exists_of_map_eq_ok h
      have hfields := CaseStyle.decode_object_eq_ok_iff.1 hfound
      refine .object found fun name => ?_
      have hlookup := Json.lookup_sortedFields fields name
      rw [hfields, Json.lookup_cons_eq, List.lookup_nil] at hlookup
      cases hvalue : valueOf? fields name with
      | none =>
        rw [hvalue] at hlookup
        exact hlookup.symm
      | some value =>
        rw [hvalue] at hlookup
        split at hlookup
        · rename_i hname
          rw [if_pos hname, Json.sorted_eq_null_iff.1 (Option.some.inj hlookup).symm]
        · cases hlookup
    | bool value => cases h
    | integer value => cases h
    | float value => cases h
    | array items => cases h
  · intro h
    cases h with
    | null => rfl
    | name style =>
      have hstyle : CaseStyle.decode .tree (.string style.name) = .ok style :=
        CaseStyle.ofVariant_eq_ok_iff.2 rfl
      exact congrArg (Except.map some) hstyle
    | @object fields style h =>
      have hfields : sortedFields fields [] = [(style.name, .null)] := by
        refine (Json.ascending_sortedFields fields).eq_singleton fun name => ?_
        rw [Json.lookup_sortedFields, h name]
        split <;> rfl
      exact congrArg (Except.map some) (CaseStyle.decode_object_eq_ok_iff.2 hfields)

/-! ## Directories -/

/-- The value lists the texts that spell the directories. -/
def SpellsPaths (value : Json) (paths : List Path) : Prop :=
  ∃ texts : List String, value = .array (texts.map .string) ∧ paths = texts.map Path.ofText

theorem readPath_eq_ok_iff {value : Json} {path : Path} :
    (value.sorted.asString "path string").map Path.ofText = .ok path ↔
      ∃ text, value = .string text ∧ path = .ofText text := by
  constructor
  · intro h
    obtain ⟨text, htext, rfl⟩ := exists_of_map_eq_ok h
    exact ⟨text, Json.asString_sorted_eq_ok_iff.1 htext, rfl⟩
  · rintro ⟨text, rfl, rfl⟩
    rfl

theorem forall₂_spelled_iff {items : List Json} {paths : List Path} :
    List.Forall₂ (fun value path => ∃ text, value = Json.string text ∧ path = .ofText text)
        items paths ↔
      ∃ texts : List String, items = texts.map .string ∧ paths = texts.map Path.ofText := by
  constructor
  · intro h
    induction h with
    | nil => exact ⟨[], rfl, rfl⟩
    | cons hfirst _ ih =>
      obtain ⟨text, rfl, rfl⟩ := hfirst
      obtain ⟨texts, rfl, rfl⟩ := ih
      exact ⟨text :: texts, rfl, rfl⟩
  · rintro ⟨texts, rfl, rfl⟩
    rw [List.forall₂_map_left_iff, List.forall₂_map_right_iff]
    exact List.forall₂_same.2 fun text _ => ⟨text, rfl, rfl⟩

theorem readPaths_eq_ok_iff {value : Json} {paths : List Path} :
    readPaths value.sorted = .ok paths ↔ SpellsPaths value paths := by
  unfold SpellsPaths
  cases value with
  | array items =>
    have hitems : readPaths (Json.array items).sorted = (items.map Json.sorted).mapM fun value =>
        (value.asString "path string").map Path.ofText := by
      rw [Json.sorted, Json.sortedItems_eq_map, readPaths, Json.asList]
    rw [hitems, mapM_eq_ok_iff, List.forall₂_map_left_iff]
    simp only [readPath_eq_ok_iff, forall₂_spelled_iff, Json.array.injEq]
  | null => exact ⟨fun h => (nomatch h), fun ⟨_, h, _⟩ => (nomatch h)⟩
  | bool value => exact ⟨fun h => (nomatch h), fun ⟨_, h, _⟩ => (nomatch h)⟩
  | integer value => exact ⟨fun h => (nomatch h), fun ⟨_, h, _⟩ => (nomatch h)⟩
  | float value => exact ⟨fun h => (nomatch h), fun ⟨_, h, _⟩ => (nomatch h)⟩
  | string text => exact ⟨fun h => (nomatch h), fun ⟨_, h, _⟩ => (nomatch h)⟩
  | object fields => exact ⟨fun h => (nomatch h), fun ⟨_, h, _⟩ => (nomatch h)⟩

/-! ## Fields -/

/-- Reading the value of a field, if there is one, makes `after` of the part `before` of a draft,
which must be empty for it. -/
def ReadsPart {α : Type} (part : Json → Except Json.Mismatch α) (value : Option Json)
    (before after : Option α) : Prop :=
  match value with
  | none => after = before
  | some value => before = none ∧ ∃ a, part value = .ok a ∧ after = some a

/-- Reading the values that the names have makes `after` of the draft `before`. -/
structure Reads (source : JsonSource) (values : String → Option Json) (before after : Draft) :
    Prop where
  sassCase : ReadsPart (readStyle source) (values "sassCase") before.sassCase after.sassCase
  outputCase : ReadsPart (readStyle source) (values "outputCase") before.outputCase after.outputCase
  loadPaths : ReadsPart readPaths (values "loadPaths") before.loadPaths after.loadPaths

/-- Where at most one of two values is there, they are read as one. -/
theorem readsPart_or {α : Type} {part : Json → Except Json.Mismatch α} {first second : Option Json}
    (h : first = none ∨ second = none) {before after : Option α} :
    ReadsPart part (first.or second) before after ↔
      ∃ between, ReadsPart part first before between ∧ ReadsPart part second between after := by
  rcases h with rfl | rfl
  · rw [Option.none_or]
    exact ⟨fun h => ⟨before, rfl, h⟩, fun ⟨_, hbetween, h⟩ => hbetween ▸ h⟩
  · rw [Option.or_none]
    exact ⟨fun h => ⟨after, h, rfl⟩, fun ⟨_, h, hbetween⟩ => hbetween ▸ h⟩

theorem reads_or {source : JsonSource} {first second : String → Option Json}
    (h : ∀ name, first name = none ∨ second name = none) {before after : Draft} :
    Reads source (fun name => (first name).or (second name)) before after ↔
      ∃ between, Reads source first before between ∧ Reads source second between after := by
  constructor
  · rintro ⟨hsass, houtput, hpaths⟩
    obtain ⟨sassCase, hsass, hsass'⟩ := (readsPart_or (h _)).1 hsass
    obtain ⟨outputCase, houtput, houtput'⟩ := (readsPart_or (h _)).1 houtput
    obtain ⟨loadPaths, hpaths, hpaths'⟩ := (readsPart_or (h _)).1 hpaths
    exact ⟨⟨sassCase, outputCase, loadPaths⟩, ⟨hsass, houtput, hpaths⟩, hsass', houtput', hpaths'⟩
  · rintro ⟨between, hfirst, hsecond⟩
    exact ⟨(readsPart_or (h _)).2 ⟨_, hfirst.sassCase, hsecond.sassCase⟩,
      (readsPart_or (h _)).2 ⟨_, hfirst.outputCase, hsecond.outputCase⟩,
      (readsPart_or (h _)).2 ⟨_, hfirst.loadPaths, hsecond.loadPaths⟩⟩

theorem readPart_eq_ok_iff {α : Type} {part : Option α} {read : Except Json.Mismatch α}
    {fault : Json.Mismatch} {put : α → Draft} {after : Draft} :
    (if part.isSome then .error fault else read.map put) = Except.ok after ↔
      part = none ∧ ∃ a, read = .ok a ∧ put a = after := by
  cases part with
  | some a => simp
  | none =>
    cases read with
    | error other => simp [Except.map]
    | ok a => simp [Except.map]

theorem readField_eq_ok_iff {source : JsonSource} {before after : Draft} {name : String}
    {value : Json} : before.readField source name value = .ok after ↔
      name ∈ fieldNames ∧
        Reads source (fun other => if other = name then some value else none) before after := by
  obtain ⟨sassCase, outputCase, loadPaths⟩ := after
  rw [Draft.readField]
  split
  · rename_i hname
    subst hname
    rw [readPart_eq_ok_iff]
    constructor
    · rintro ⟨hnone, a, hread, heq⟩
      cases heq
      exact ⟨by decide, ⟨hnone, a, hread, rfl⟩, rfl, rfl⟩
    · rintro ⟨-, ⟨hnone, a, hread, hsass⟩, houtput, hpaths⟩
      cases hsass
      cases houtput
      cases hpaths
      exact ⟨hnone, a, hread, rfl⟩
  · split
    · rename_i hname
      subst hname
      rw [readPart_eq_ok_iff]
      constructor
      · rintro ⟨hnone, a, hread, heq⟩
        cases heq
        exact ⟨by decide, rfl, ⟨hnone, a, hread, rfl⟩, rfl⟩
      · rintro ⟨-, hsass, ⟨hnone, a, hread, houtput⟩, hpaths⟩
        cases hsass
        cases houtput
        cases hpaths
        exact ⟨hnone, a, hread, rfl⟩
    · split
      · rename_i hname
        subst hname
        rw [readPart_eq_ok_iff]
        constructor
        · rintro ⟨hnone, a, hread, heq⟩
          cases heq
          exact ⟨by decide, rfl, rfl, ⟨hnone, a, hread, rfl⟩⟩
        · rintro ⟨-, hsass, houtput, ⟨hnone, a, hread, hpaths⟩⟩
          cases hsass
          cases houtput
          cases hpaths
          exact ⟨hnone, a, hread, rfl⟩
      · rename_i hsass houtput hpaths
        have hunknown : name ∉ fieldNames := by
          simp [fieldNames, hsass, houtput, hpaths]
        exact ⟨fun h => (nomatch h), fun h => absurd h.1 hunknown⟩

theorem readFields_cons_eq_ok_iff {source : JsonSource} {before after : Draft} {name : String}
    {value : Json} {rest : List (String × Json)} :
    before.readFields source ((name, value) :: rest) = .ok after ↔
      ∃ between, before.readField source name value = .ok between ∧
        between.readFields source rest = .ok after := by
  rw [Draft.readFields]
  split
  · rename_i fault hfault
    simp [hfault]
  · rename_i between hbetween
    simp [hbetween]

/-- Fields of which no two have one name are read one by one, each into an empty part. -/
theorem readFields_eq_ok_iff {source : JsonSource} {before after : Draft}
    {fields : List (String × Json)} (hascending : Ascending fields) :
    before.readFields source fields = .ok after ↔
      (∀ field ∈ fields, field.1 ∈ fieldNames) ∧
        Reads source (fields.lookup ·) before after := by
  induction fields generalizing before with
  | nil =>
    obtain ⟨sassCase, outputCase, loadPaths⟩ := after
    rw [Draft.readFields, Except.ok.injEq]
    constructor
    · rintro rfl
      exact ⟨fun _ hmem => (nomatch hmem), rfl, rfl, rfl⟩
    · rintro ⟨-, hsass, houtput, hpaths⟩
      cases hsass
      cases houtput
      cases hpaths
      rfl
  | cons field rest ih =>
    obtain ⟨name, value⟩ := field
    have honce : ∀ other, (if other = name then some value else none) = none ∨
        rest.lookup other = none := by
      intro other
      by_cases hname : other = name
      · exact .inr (hname ▸ hascending.lookup_rest)
      · exact .inl (if_neg hname)
    have hrest : Ascending rest := (List.pairwise_cons.1 hascending).2
    simp only [Json.lookup_cons_eq_or]
    rw [readFields_cons_eq_ok_iff, reads_or honce, List.forall_mem_cons]
    constructor
    · rintro ⟨between, hfield, hmore⟩
      obtain ⟨hknown, hreads⟩ := readField_eq_ok_iff.1 hfield
      obtain ⟨hothers, hmore⟩ := (ih hrest).1 hmore
      exact ⟨⟨hknown, hothers⟩, between, hreads, hmore⟩
    · rintro ⟨⟨hknown, hothers⟩, between, hreads, hmore⟩
      exact ⟨between, readField_eq_ok_iff.2 ⟨hknown, hreads⟩, (ih hrest).2 ⟨hothers, hmore⟩⟩

/-! ## Objects -/

/-- The value of a field stands for the part of the options, which has its default without one. -/
def SpellsPart {α : Type} (spells : Json → α → Prop) (value : Option Json) (part default : α) :
    Prop :=
  match value with
  | none => part = default
  | some value => spells value part

/-- The object has no other names than those of the fields, and their values stand for the parts of
the options. -/
structure Spells (fields : List (String × Json)) (options : Options) : Prop where
  known : ∀ name value, valueOf? fields name = some value → name ∈ fieldNames
  sassCase : SpellsPart SpellsStyle (valueOf? fields "sassCase") options.sassCase none
  outputCase : SpellsPart SpellsStyle (valueOf? fields "outputCase") options.outputCase none
  loadPaths : SpellsPart SpellsPaths (valueOf? fields "loadPaths") options.loadPaths []

theorem readsPart_empty_iff {α : Type} {part : Json → Except Json.Mismatch α}
    {spells : Json → α → Prop} (h : ∀ value a, part value.sorted = .ok a ↔ spells value a)
    {value : Option Json} {a default : α} :
    (∃ after, ReadsPart part (value.map Json.sorted) none after ∧ after.getD default = a) ↔
      SpellsPart spells value a default := by
  cases value with
  | none =>
    constructor
    · rintro ⟨after, hafter, rfl⟩
      rw [hafter]
      rfl
    · rintro rfl
      exact ⟨none, rfl, rfl⟩
  | some value =>
    constructor
    · rintro ⟨after, ⟨-, b, hread, rfl⟩, rfl⟩
      exact (h value b).1 hread
    · intro hspells
      exact ⟨some a, ⟨rfl, a, (h value a).2 hspells, rfl⟩, rfl⟩

/-- An object stands for options if its fields do, and it stands for no others. -/
theorem ofJson_object_eq_ok_iff {fields : List (String × Json)} {options : Options} :
    ofJson (.object fields) = .ok options ↔ Spells fields options := by
  have hread : ofJson (.object fields) = .ok options ↔
      ∃ draft, Draft.empty.readFields .tree (sortedFields fields []) = .ok draft ∧
        draft.finish = options := by
    rw [ofJson, Json.sorted, decode]
    cases Draft.empty.readFields .tree (sortedFields fields []) with
    | error fault => simp [Except.map, Except.mapError]
    | ok draft => simp [Except.map, Except.mapError]
  have hlookup : ((sortedFields fields []).lookup ·) =
      fun name => (valueOf? fields name).map Json.sorted :=
    funext fun name => Json.lookup_sortedFields fields name
  rw [hread]
  constructor
  · rintro ⟨draft, hdraft, rfl⟩
    obtain ⟨hknown, hreads⟩ :=
      (readFields_eq_ok_iff (Json.ascending_sortedFields fields)).1 hdraft
    rw [hlookup] at hreads
    exact ⟨Json.forall_mem_sortedFields_iff.1 hknown,
      (readsPart_empty_iff fun _ _ => readStyle_eq_ok_iff).1 ⟨_, hreads.sassCase, rfl⟩,
      (readsPart_empty_iff fun _ _ => readStyle_eq_ok_iff).1 ⟨_, hreads.outputCase, rfl⟩,
      (readsPart_empty_iff fun _ _ => readPaths_eq_ok_iff).1 ⟨_, hreads.loadPaths, rfl⟩⟩
  · rintro ⟨hknown, hsass, houtput, hpaths⟩
    obtain ⟨sassCase, hsass, hsass'⟩ :=
      (readsPart_empty_iff fun _ _ => readStyle_eq_ok_iff).2 hsass
    obtain ⟨outputCase, houtput, houtput'⟩ :=
      (readsPart_empty_iff fun _ _ => readStyle_eq_ok_iff).2 houtput
    obtain ⟨loadPaths, hpaths, hpaths'⟩ :=
      (readsPart_empty_iff fun _ _ => readPaths_eq_ok_iff).2 hpaths
    refine ⟨⟨sassCase, outputCase, loadPaths⟩,
      (readFields_eq_ok_iff (Json.ascending_sortedFields fields)).2
        ⟨Json.forall_mem_sortedFields_iff.2 hknown, ?_⟩, ?_⟩
    · rw [hlookup]
      exact ⟨hsass, houtput, hpaths⟩
    · rw [Draft.finish, hsass', houtput', hpaths']

end Options

end StyleConstants
