import StyleConstants.Json.Value

/-!
# Objects as maps

Of an object whose fields have neither order nor repetition, only the last value of each name
counts. The sorted reading of the object has that value under the name, and nothing else.

* `lookup_sortedFields`: the values that are found in the sorted reading.
* `ascending_sortedFields`: its names are in ascending order, so none of them occurs twice.
* `sortedFields_of_ascending`: fields that are sorted already stay where they are.
-/

namespace StyleConstants.Json

/-- The value that the fields give to the name: the last one written for it. -/
def valueOf? (fields : List (String × Json)) (name : String) : Option Json :=
  fields.reverse.lookup name

/-- The names of the fields are in ascending order. -/
def Ascending (fields : List (String × Json)) : Prop := fields.Pairwise (·.1 < ·.1)

/-! ## Lookup -/

theorem lookup_cons_eq (other : String) (value : Json) (fields : List (String × Json))
    (name : String) : ((other, value) :: fields).lookup name =
      if name = other then some value else fields.lookup name := by
  rw [List.lookup_cons]
  by_cases h : name = other
  · rw [if_pos h, beq_iff_eq.2 h]
  · rw [if_neg h, beq_eq_false_iff_ne.2 h]

theorem lookup_cons_eq_or (other : String) (value : Json) (fields : List (String × Json))
    (name : String) : ((other, value) :: fields).lookup name =
      (if name = other then some value else none).or (fields.lookup name) := by
  rw [lookup_cons_eq]
  split <;> rfl

theorem valueOf?_cons (other : String) (value : Json) (fields : List (String × Json))
    (name : String) : valueOf? ((other, value) :: fields) name =
      (valueOf? fields name).or (if name = other then some value else none) := by
  rw [valueOf?, List.reverse_cons, List.lookup_append, lookup_cons_eq, List.lookup_nil, valueOf?]

theorem mem_of_valueOf? {fields : List (String × Json)} {name : String} {value : Json}
    (h : valueOf? fields name = some value) : (name, value) ∈ fields := by
  obtain ⟨front, back, hfields, -⟩ := List.lookup_eq_some_iff.1 h
  exact List.mem_reverse.1 (hfields ▸ List.mem_append_right front List.mem_cons_self)

theorem lookup_insertField (name : String) (value : Json) (fields : List (String × Json))
    (other : String) : (insertField name value fields).lookup other =
      if other = name then some value else fields.lookup other := by
  induction fields with
  | nil => rw [insertField, lookup_cons_eq]
  | cons field rest ih =>
    obtain ⟨first, old⟩ := field
    rw [insertField]
    split
    · rw [lookup_cons_eq]
    · rename_i hlt
      split
      · rename_i heq
        subst heq
        rw [lookup_cons_eq, lookup_cons_eq]
        split <;> rfl
      · rename_i hne
        rw [lookup_cons_eq, ih, lookup_cons_eq]
        by_cases hfirst : other = first
        · rw [if_pos hfirst, if_neg (fun hname => hne (hname.symm.trans hfirst)), if_pos hfirst]
        · rw [if_neg hfirst, if_neg hfirst]

theorem lookup_sortedFields_placed (fields placed : List (String × Json)) (name : String) :
    (sortedFields fields placed).lookup name =
      ((valueOf? fields name).map sorted).or (placed.lookup name) := by
  induction fields generalizing placed with
  | nil => rw [sortedFields]; rfl
  | cons field rest ih =>
    obtain ⟨other, value⟩ := field
    rw [sortedFields, ih, lookup_insertField, valueOf?_cons]
    cases valueOf? rest name with
    | some last => rfl
    | none =>
      rw [Option.map_none, Option.none_or, Option.none_or]
      split <;> rfl

theorem lookup_sortedFields (fields : List (String × Json)) (name : String) :
    (sortedFields fields []).lookup name = (valueOf? fields name).map sorted := by
  rw [lookup_sortedFields_placed, List.lookup_nil, Option.or_none]

theorem forall_mem_sortedFields_iff {fields : List (String × Json)} {p : String → Prop} :
    (∀ field ∈ sortedFields fields [], p field.1) ↔
      ∀ name value, valueOf? fields name = some value → p name := by
  constructor
  · intro h name value hvalue
    have hlookup := lookup_sortedFields fields name
    rw [hvalue, Option.map_some] at hlookup
    obtain ⟨front, back, hfields, -⟩ := List.lookup_eq_some_iff.1 hlookup
    exact h (name, value.sorted) (hfields ▸ List.mem_append_right front List.mem_cons_self)
  · intro h field hmem
    cases hvalue : valueOf? fields field.1 with
    | some value => exact h field.1 value hvalue
    | none =>
      have hlookup := lookup_sortedFields fields field.1
      rw [hvalue, Option.map_none] at hlookup
      exact absurd rfl (bne_iff_ne.1 (List.lookup_eq_none_iff.1 hlookup field hmem))

/-! ## Order -/

theorem Ascending.lookup_rest {name : String} {value : Json} {rest : List (String × Json)}
    (h : Ascending ((name, value) :: rest)) : rest.lookup name = none := by
  refine List.lookup_eq_none_iff.2 fun field hmem => bne_iff_ne.2 fun heq => ?_
  have hlt : name < field.1 := (List.pairwise_cons.1 h).1 field hmem
  rw [← heq] at hlt
  exact String.lt_irrefl name hlt

theorem mem_insertField {name : String} {value : Json} {fields : List (String × Json)}
    {field : String × Json} (h : field ∈ insertField name value fields) :
    field.1 = name ∨ field ∈ fields := by
  induction fields with
  | nil => exact .inl (by rw [List.mem_singleton.1 h])
  | cons first rest ih =>
    obtain ⟨other, old⟩ := first
    rw [insertField] at h
    split at h
    · rcases List.mem_cons.1 h with rfl | h
      · exact .inl rfl
      · exact .inr h
    · split at h
      · rcases List.mem_cons.1 h with rfl | h
        · exact .inl rfl
        · exact .inr (List.mem_cons_of_mem _ h)
      · rcases List.mem_cons.1 h with rfl | h
        · exact .inr List.mem_cons_self
        · exact (ih h).imp_right (List.mem_cons_of_mem _)

theorem Ascending.insertField {fields : List (String × Json)} (h : Ascending fields)
    (name : String) (value : Json) : Ascending (Json.insertField name value fields) := by
  induction fields with
  | nil => exact List.pairwise_singleton _ _
  | cons first rest ih =>
    obtain ⟨other, old⟩ := first
    obtain ⟨hfirst, hrest⟩ := List.pairwise_cons.1 h
    rw [Json.insertField]
    split
    · rename_i hlt
      refine List.pairwise_cons.2 ⟨fun field hmem => ?_, h⟩
      rcases List.mem_cons.1 hmem with rfl | hmem
      · exact hlt
      · exact String.lt_trans hlt (hfirst field hmem)
    · rename_i hge
      split
      · rename_i heq
        subst heq
        exact List.pairwise_cons.2 ⟨hfirst, hrest⟩
      · rename_i hne
        have hlt : other < name := by
          rw [← String.not_le]
          exact fun hle => hne (String.le_antisymm hle (String.not_lt.1 hge))
        refine List.pairwise_cons.2 ⟨fun field hmem => ?_, ih hrest⟩
        rcases mem_insertField hmem with hname | hmem
        · rw [hname]
          exact hlt
        · exact hfirst field hmem

theorem ascending_sortedFields_placed {placed : List (String × Json)} (h : Ascending placed)
    (fields : List (String × Json)) : Ascending (sortedFields fields placed) := by
  induction fields generalizing placed with
  | nil => rwa [sortedFields]
  | cons field rest ih =>
    rw [sortedFields]
    exact ih (h.insertField _ _)

theorem ascending_sortedFields (fields : List (String × Json)) :
    Ascending (sortedFields fields []) :=
  ascending_sortedFields_placed .nil fields

theorem insertField_last {fields : List (String × Json)} {name : String}
    (h : ∀ field ∈ fields, field.1 < name) (value : Json) :
    insertField name value fields = fields ++ [(name, value)] := by
  induction fields with
  | nil => rfl
  | cons first rest ih =>
    obtain ⟨other, old⟩ := first
    have hlt : other < name := h _ List.mem_cons_self
    have hne : name ≠ other := by
      rintro rfl
      exact String.lt_irrefl name hlt
    rw [insertField, if_neg (String.lt_asymm hlt), if_neg hne,
      ih fun field hmem => h field (List.mem_cons_of_mem _ hmem)]
    rfl

theorem sortedFields_append {fields placed : List (String × Json)}
    (h : Ascending (placed ++ fields)) (hsorted : ∀ field ∈ fields, field.2.sorted = field.2) :
    sortedFields fields placed = placed ++ fields := by
  induction fields generalizing placed with
  | nil => rw [sortedFields, List.append_nil]
  | cons field rest ih =>
    obtain ⟨name, value⟩ := field
    have hvalue : value.sorted = value := hsorted _ List.mem_cons_self
    have hbelow : ∀ field ∈ placed, field.1 < name := by
      intro field hmem
      exact (List.pairwise_append.1 h).2.2 field hmem _ List.mem_cons_self
    have hmore : Ascending (placed ++ [(name, value)] ++ rest) := by
      rw [← List.append_cons]
      exact h
    rw [sortedFields, insertField_last hbelow, hvalue,
      ih hmore fun field hmem => hsorted field (List.mem_cons_of_mem _ hmem), ← List.append_cons]

theorem sortedFields_of_ascending {fields : List (String × Json)} (h : Ascending fields)
    (hsorted : ∀ field ∈ fields, field.2.sorted = field.2) : sortedFields fields [] = fields :=
  sortedFields_append h hsorted

/-- Fields in ascending order that give a value to one name only are that one field. -/
theorem Ascending.eq_singleton {fields : List (String × Json)} (h : Ascending fields)
    {name : String} {value : Json}
    (hlookup : ∀ other, fields.lookup other = if other = name then some value else none) :
    fields = [(name, value)] := by
  cases fields with
  | nil =>
    have hname := hlookup name
    rw [if_pos rfl] at hname
    cases hname
  | cons first rest =>
    obtain ⟨other, old⟩ := first
    obtain ⟨hfirst, -⟩ := List.pairwise_cons.1 h
    have hother := hlookup other
    rw [lookup_cons_eq, if_pos rfl] at hother
    split at hother
    · rename_i heq
      subst heq
      cases hother
      cases rest with
      | nil => rfl
      | cons second rest =>
        -- the second name would have a value as well
        have hlt := hfirst second List.mem_cons_self
        have hne : second.1 ≠ other := by
          rintro heq
          rw [heq] at hlt
          exact String.lt_irrefl other hlt
        have hsecond := hlookup second.1
        rw [lookup_cons_eq, if_neg hne, lookup_cons_eq, if_pos rfl, if_neg hne] at hsecond
        cases hsecond
    · cases hother

end StyleConstants.Json
