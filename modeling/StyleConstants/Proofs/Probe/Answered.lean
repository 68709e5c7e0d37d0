import StyleConstants.Probe.Query

/-!
# What an answer holds

A text is read back with a value for every marker of the set or not at all, and names are converted
without losing any. Two names may become one; where they do not, the converted values are the same
as before.

* `mem_readBack`, `of_readBack_eq_ok`: every variable of the set has a value, the one declared.
* `mem_renamed`, `exists_of_getElem?_renamed`, `getElem?_renamed`: the values under converted
  names.
-/

namespace StyleConstants

/-! ## Reading -/

namespace Readback

variable {text : List Char} {entries : List (String × String)} {known values : Values}

theorem mem_of_collect_eq_ok (h : collect text entries known = .ok values) {name : String}
    (hname : name ∈ entries.map (·.1) ∨ name ∈ known) : name ∈ values := by
  induction entries generalizing known with
  | nil =>
    cases h
    exact hname.resolve_left List.not_mem_nil
  | cons entry entries ih =>
    obtain ⟨first, marker⟩ := entry
    rw [collect] at h
    split at h
    · refine ih h ?_
      rw [List.map_cons, List.mem_cons] at hname
      rcases hname with (rfl | hname) | hknown
      · exact .inr (Std.ExtTreeMap.mem_insert.2 (.inl Std.ReflCmp.compare_self))
      · exact .inl hname
      · exact .inr (Std.ExtTreeMap.mem_insert.2 (.inr hknown))
    · cases h

theorem of_collect_eq_ok (h : collect text entries known = .ok values) {name value : String}
    (hvalue : values[name]? = some value) :
    (∃ marker, (name, marker) ∈ entries ∧ valueOf text name marker = .ok value) ∨
      known[name]? = some value := by
  induction entries generalizing known with
  | nil =>
    cases h
    exact .inr hvalue
  | cons entry entries ih =>
    obtain ⟨first, marker⟩ := entry
    rw [collect] at h
    split at h
    · rename_i found hfound
      rcases ih h with ⟨marker', hmem, hread⟩ | hinsert
      · exact .inl ⟨marker', List.mem_cons_of_mem _ hmem, hread⟩
      · rw [Std.ExtTreeMap.getElem?_insert] at hinsert
        split at hinsert
        · rename_i hname
          cases hinsert
          rw [← Std.LawfulEqOrd.eq_of_compare hname]
          exact .inl ⟨marker, List.mem_cons_self, hfound⟩
        · exact .inr hinsert
    · cases h

end Readback

theorem MarkerSet.map_fst_markers (set : MarkerSet) : set.markers.map (·.1) = set.names := by
  rw [markers, List.map_map]
  exact List.map_id _

theorem MarkerSet.mem_readBack {set : MarkerSet} {rendered : String} {values : Values}
    (h : set.readBack rendered = .ok values) {name : String} (hname : name ∈ set.names) :
    name ∈ values := by
  rw [← set.map_fst_markers] at hname
  exact Readback.mem_of_collect_eq_ok h (.inl hname)

/-- What is read back was asked for and is declared in the text. -/
theorem MarkerSet.of_readBack_eq_ok {set : MarkerSet} {rendered : String} {values : Values}
    (h : set.readBack rendered = .ok values) {name value : String}
    (hvalue : values[name]? = some value) : name ∈ set.names ∧
      Readback.valueOf rendered.toList name (set.token.marker name) = .ok value := by
  rcases Readback.of_collect_eq_ok h hvalue with ⟨marker, hmem, hread⟩ | hnone
  · obtain ⟨_, hname, heq⟩ := List.mem_map.1 hmem
    cases heq
    exact ⟨hname, hread⟩
  · rw [Std.ExtTreeMap.getElem?_empty] at hnone
    cases hnone

theorem MarkerSet.mem_readBack_iff {set : MarkerSet} {rendered : String} {values : Values}
    (h : set.readBack rendered = .ok values) {name : String} :
    name ∈ values ↔ name ∈ set.names := by
  constructor
  · intro hname
    obtain ⟨value, hvalue⟩ := Values.mem_iff.1 hname
    exact (of_readBack_eq_ok h hvalue).1
  · exact mem_readBack h

/-! ## Converted names -/

namespace Values

variable {rename : Renaming} {values : Values} {output value : String}

theorem mem_of_mem_toList {entry : String × String} (h : entry ∈ values.toList) :
    entry.1 ∈ values :=
  Values.mem_iff.2 ⟨entry.2, Std.ExtTreeMap.mem_toList_iff_getElem?_eq_some.1 h⟩

theorem mem_renamed :
    output ∈ values.renamed rename ↔ ∃ name ∈ values, rename.apply name = output := by
  rw [renamed, Std.ExtTreeMap.mem_ofList, List.contains_iff_mem, List.map_map, List.mem_map]
  constructor
  · rintro ⟨entry, hentry, rfl⟩
    exact ⟨entry.1, mem_of_mem_toList hentry, rfl⟩
  · rintro ⟨name, hname, rfl⟩
    obtain ⟨value, hvalue⟩ := Values.mem_iff.1 hname
    exact ⟨(name, value), Std.ExtTreeMap.mem_toList_iff_getElem?_eq_some.2 hvalue, rfl⟩

theorem mem_or_of_getElem?_insertMany {entries : List (String × String)}
    (h : (values.insertMany entries)[output]? = some value) :
    (output, value) ∈ entries ∨ values[output]? = some value := by
  induction entries generalizing values with
  | nil => exact .inr (by simpa using h)
  | cons entry entries ih =>
    obtain ⟨name, first⟩ := entry
    rw [Std.ExtTreeMap.insertMany_cons] at h
    rcases ih h with hmem | hinsert
    · exact .inl (List.mem_cons_of_mem _ hmem)
    · rw [Std.ExtTreeMap.getElem?_insert] at hinsert
      split at hinsert
      · rename_i hname
        cases hinsert
        rw [Std.LawfulEqOrd.eq_of_compare hname]
        exact .inl List.mem_cons_self
      · exact .inr hinsert

/-- What stands under a converted name stood under a name that is converted to it. -/
theorem exists_of_getElem?_renamed (h : (values.renamed rename)[output]? = some value) :
    ∃ name, rename.apply name = output ∧ values[name]? = some value := by
  rw [renamed, Std.ExtTreeMap.ofList_eq_insertMany_empty] at h
  rcases mem_or_of_getElem?_insertMany h with hmem | hnone
  · obtain ⟨⟨name, value'⟩, hentry, heq⟩ := List.mem_map.1 hmem
    cases heq
    exact ⟨name, rfl, Std.ExtTreeMap.mem_toList_iff_getElem?_eq_some.1 hentry⟩
  · rw [Std.ExtTreeMap.getElem?_empty] at hnone
    cases hnone

section Injective

variable (hinjective : ∀ a ∈ values, ∀ b ∈ values, rename.apply a = rename.apply b → a = b)

include hinjective

theorem getElem?_renamed_apply {name : String} (h : values[name]? = some value) :
    (values.renamed rename)[rename.apply name]? = some value := by
  have hdistinct : (values.toList.map fun entry => (rename.apply entry.1, entry.2)).Pairwise
      fun a b => ¬ compare a.1 b.1 = .eq := by
    rw [List.pairwise_map]
    refine values.distinct_keys_toList.imp_of_mem fun ha hb hne heq => hne ?_
    have hsame := hinjective _ (mem_of_mem_toList ha) _ (mem_of_mem_toList hb)
      (Std.LawfulEqOrd.eq_of_compare heq)
    rw [hsame]
    exact Std.ReflCmp.compare_self
  exact Std.ExtTreeMap.getElem?_ofList_of_mem Std.ReflCmp.compare_self hdistinct
    (List.mem_map.2 ⟨(name, value), Std.ExtTreeMap.mem_toList_iff_getElem?_eq_some.2 h, rfl⟩)

/-- Where no two names become one, the values are those from before. -/
theorem getElem?_renamed : (values.renamed rename)[output]? = some value ↔
    ∃ name, rename.apply name = output ∧ values[name]? = some value := by
  constructor
  · exact exists_of_getElem?_renamed
  · rintro ⟨name, rfl, hvalue⟩
    exact getElem?_renamed_apply hinjective hvalue

end Injective

end Values

end StyleConstants
