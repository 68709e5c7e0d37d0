import Mathlib.Data.Finset.Card
import Mathlib.Data.List.Induction
import StyleConstants.Proofs.Engine.Growth
import StyleConstants.Proofs.Text.Distinct

/-!
# The history of a cache

A cache that was empty at first is told by what was done to it. Paths count by their components, a
name has the value of the first merge that mentions it, and everything else about an entry follows
from which paths were touched.

* `getElem?_known_ofHistory`: the value of a name is that of the first merge that mentions it.
* `get?_ofHistory_eq_none_iff`, `size_ofHistory`: entries belong to the paths touched.
* `pairwise_missing`, `missing_merge_eq_nil`: what is missing, in which order, and when nothing is.
* `first_write_wins`: all of it.
-/

namespace StyleConstants.Cache

open StyleConstants.Path (Component)

/-! ## Operations -/

/-- What can be done with a cache. -/
inductive Operation where
  | get (path : Path)
  /-- The entry is looked at, and made if there is none. -/
  | entry (path : Path)
  | missing (path : Path) (names : List String)
  | merge (path : Path) (values : Values)
  | markComplete (path : Path)
  | isComplete (path : Path)

/-- The path whose entry the operation makes if there is none. -/
def Operation.touched? : Operation → Option Path
  | entry path | merge path _ => some path
  | get _ | missing _ _ | markComplete _ | isComplete _ => none

/-- The value that the operation has for a name of the file. -/
def Operation.value? (path : Path) (name : String) : Operation → Option String
  | merge other values => if other.sameAs path then values[name]? else none
  | get _ | entry _ | missing _ _ | markComplete _ | isComplete _ => none

/-- The cache after an operation. -/
def perform (cache : Cache) : Operation → Cache
  | .entry path => cache.touch path
  | .merge path values => cache.merge path values
  | .markComplete path => cache.markComplete path
  | .get _ | .missing _ _ | .isComplete _ => cache

/-- The cache that was empty, after operations one after the other. -/
def ofHistory (history : List Operation) : Cache := history.foldl perform empty

variable {cache : Cache} {history : List Operation} {operation : Operation} {path other : Path}
  {names : List String} {name value : String} {values : Values}

theorem ofHistory_concat (history : List Operation) (operation : Operation) :
    ofHistory (history ++ [operation]) = (ofHistory history).perform operation :=
  List.foldl_concat ..

theorem Operation.value?_eq_some_iff : operation.value? path name = some value ↔
    ∃ other values, operation = .merge other values ∧ other.components = path.components ∧
      values[name]? = some value := by
  cases operation with
  | merge other values =>
    rw [value?]
    constructor
    · intro h
      split at h
      · rename_i hsame
        exact ⟨other, values, rfl, Path.sameAs_iff.1 hsame, h⟩
      · cases h
    · rintro ⟨other, values, h, hsame, hvalue⟩
      cases h
      rw [if_pos (Path.sameAs_iff.2 hsame), hvalue]
  | get | entry | missing | markComplete | isComplete =>
    exact ⟨nofun, fun ⟨_, _, h, _⟩ => nomatch h⟩

theorem Operation.value?_eq_none_iff : operation.value? path name = none ↔
    ∀ other values, operation = .merge other values → other.components = path.components →
      name ∉ values := by
  rw [Option.eq_none_iff_forall_ne_some]
  constructor
  · intro h other values hmerge hsame hname
    obtain ⟨value, hvalue⟩ := Values.mem_iff.1 hname
    exact h value (value?_eq_some_iff.2 ⟨other, values, hmerge, hsame, hvalue⟩)
  · intro h value hvalue
    obtain ⟨other, values, hmerge, hsame, hvalue⟩ := value?_eq_some_iff.1 hvalue
    exact h other values hmerge hsame (Values.mem_iff.2 ⟨value, hvalue⟩)

/-! ## Values -/

/-- A name keeps its value, and gets one from the operation if it has none. -/
theorem getElem?_known_perform (cache : Cache) (operation : Operation) (path : Path)
    (name : String) : ((cache.perform operation).known path)[name]? =
      ((cache.known path)[name]?).or (operation.value? path name) := by
  cases operation with
  | merge other values =>
    rw [perform, known_merge, Operation.value?]
    split
    · rw [Std.ExtTreeMap.getElem?_union]
    · rw [Option.or_none]
  | entry other => rw [perform, known_touch, Operation.value?, Option.or_none]
  | markComplete other => rw [perform, known_markComplete, Operation.value?, Option.or_none]
  | get | missing | isComplete => exact Option.or_none.symm

theorem getElem?_known_ofHistory (history : List Operation) (path : Path) (name : String) :
    ((ofHistory history).known path)[name]? = history.findSome? (·.value? path name) := by
  induction history using List.reverseRecOn with
  | nil => exact Std.ExtTreeMap.getElem?_empty
  | append_singleton history operation ih =>
    rw [ofHistory_concat, getElem?_known_perform, ih, List.findSome?_append,
      List.findSome?_singleton]

theorem known_of_get? {entry : Values} (h : cache.get? path = some entry) :
    cache.known path = entry := by
  rw [known, h, Option.getD_some]

theorem getElem?_known_eq_some_iff : (cache.known path)[name]? = some value ↔
    ∃ entry, cache.get? path = some entry ∧ entry[name]? = some value := by
  constructor
  · intro h
    cases hentry : cache.get? path with
    | some entry => exact ⟨entry, rfl, known_of_get? hentry ▸ h⟩
    | none =>
      rw [known, hentry, Option.getD_none, Std.ExtTreeMap.getElem?_empty] at h
      cases h
  · rintro ⟨entry, hentry, hvalue⟩
    rwa [known_of_get? hentry]

theorem mem_known_iff : name ∈ cache.known path ↔
    ∃ entry, cache.get? path = some entry ∧ name ∈ entry := by
  simp only [Values.mem_iff, getElem?_known_eq_some_iff]
  constructor
  · rintro ⟨value, entry, hentry, hvalue⟩
    exact ⟨entry, hentry, value, hvalue⟩
  · rintro ⟨entry, hentry, value, hvalue⟩
    exact ⟨value, entry, hentry, hvalue⟩

/-! ## Entries -/

theorem isSome_get?_perform (cache : Cache) (operation : Operation) (path : Path) :
    ((cache.perform operation).get? path).isSome =
      ((cache.get? path).isSome || operation.touched?.any (·.sameAs path)) := by
  cases operation with
  | entry other =>
    rw [perform, get?_touch, Operation.touched?, Option.any_some]
    cases other.sameAs path <;> simp
  | merge other values =>
    rw [perform, get?_merge, Operation.touched?, Option.any_some]
    cases other.sameAs path <;> simp
  | markComplete other =>
    rw [perform, get?_markComplete, Operation.touched?, Option.any_none, Bool.or_false]
  | get | missing | isComplete => exact (Bool.or_false _).symm

/-- A path has an entry if some path with its components was touched. -/
theorem isSome_get?_ofHistory_iff : ((ofHistory history).get? path).isSome = true ↔
    ∃ operation ∈ history, ∃ touched ∈ operation.touched?,
      touched.components = path.components := by
  induction history using List.reverseRecOn with
  | nil => exact ⟨nofun, fun ⟨_, h, _⟩ => nomatch h⟩
  | append_singleton history operation ih =>
    have htouched : operation.touched?.any (·.sameAs path) = true ↔
        ∃ touched ∈ operation.touched?, touched.components = path.components := by
      simp only [Option.any_eq_true, Path.sameAs_iff, Option.mem_def]
    rw [ofHistory_concat, isSome_get?_perform, Bool.or_eq_true, ih, htouched]
    simp only [List.mem_append, List.mem_singleton, or_and_right, exists_or, exists_eq_left]

theorem get?_ofHistory_eq_none_iff : (ofHistory history).get? path = none ↔
    ∀ operation ∈ history, ∀ touched ∈ operation.touched?,
      touched.components ≠ path.components := by
  rw [← Option.not_isSome_iff_eq_none, isSome_get?_ofHistory_iff]
  simp only [not_exists, not_and, ne_eq]

/-- The components of the paths that have an entry. -/
def keys (cache : Cache) : List (List Component) := cache.entries.map (·.1.components)

theorem mem_keys_iff : path.components ∈ cache.keys ↔ (cache.get? path).isSome = true := by
  rw [keys, get?, Option.isSome_map, List.find?_isSome, List.mem_map]
  simp only [Path.sameAs_iff]

theorem keys_putEntry (path : Path) (values : Values) (entries : List (Path × Values)) :
    (putEntry path values entries).map (·.1.components) =
      if path.components ∈ entries.map (·.1.components) then entries.map (·.1.components)
      else entries.map (·.1.components) ++ [path.components] := by
  induction entries with
  | nil => rfl
  | cons entry rest ih =>
    obtain ⟨first, old⟩ := entry
    rw [putEntry, List.map_cons]
    by_cases hsame : first.components = path.components
    · rw [if_pos (Path.sameAs_iff.2 hsame), if_pos (List.mem_cons.2 (.inl hsame.symm)),
        List.map_cons]
    · rw [if_neg (mt Path.sameAs_iff.1 hsame), List.map_cons, ih]
      by_cases hmem : path.components ∈ rest.map (·.1.components)
      · rw [if_pos hmem, if_pos (List.mem_cons_of_mem _ hmem)]
      · rw [if_neg hmem, if_neg (List.not_mem_cons_of_ne_of_not_mem (Ne.symm hsame) hmem)]
        rfl

theorem nodup_keys_putEntry {values : Values} {entries : List (Path × Values)}
    (h : (entries.map (·.1.components)).Nodup) :
    ((putEntry path values entries).map (·.1.components)).Nodup := by
  rw [keys_putEntry]
  split
  · exact h
  · rename_i hnew
    rw [← List.concat_eq_append]
    exact h.concat hnew

theorem nodup_keys_perform (h : cache.keys.Nodup) (operation : Operation) :
    (cache.perform operation).keys.Nodup := by
  cases operation with
  | entry path => exact nodup_keys_putEntry h
  | merge path values => exact nodup_keys_putEntry h
  | markComplete path =>
    rw [perform, markComplete]
    split <;> exact h
  | get | missing | isComplete => exact h

theorem nodup_keys_ofHistory (history : List Operation) : (ofHistory history).keys.Nodup := by
  induction history using List.reverseRecOn with
  | nil => exact List.nodup_nil
  | append_singleton history operation ih =>
    rw [ofHistory_concat]
    exact nodup_keys_perform ih operation

/-- There are as many entries as lists of components among the paths touched. -/
theorem size_ofHistory (history : List Operation) : (ofHistory history).size =
    ((history.filterMap Operation.touched?).map Path.components).toFinset.card := by
  have hsize : (ofHistory history).size = (ofHistory history).keys.length :=
    (List.length_map _).symm
  rw [hsize, ← List.toFinset_card_of_nodup (nodup_keys_ofHistory history)]
  congr 1
  ext components
  rw [List.mem_toFinset, List.mem_toFinset, List.mem_map]
  constructor
  · intro h
    obtain ⟨entry, -, rfl⟩ := List.mem_map.1 h
    obtain ⟨operation, hoperation, touched, htouched, hsame⟩ :=
      isSome_get?_ofHistory_iff.1 (mem_keys_iff.1 h)
    exact ⟨touched, List.mem_filterMap.2 ⟨operation, hoperation, htouched⟩, hsame⟩
  · rintro ⟨touched, h, rfl⟩
    obtain ⟨operation, hoperation, htouched⟩ := List.mem_filterMap.1 h
    have hentry : ((ofHistory history).get? touched).isSome = true :=
      isSome_get?_ofHistory_iff.2 ⟨operation, hoperation, touched, htouched, rfl⟩
    exact mem_keys_iff.2 hentry

/-! ## Marks -/

theorem isComplete_ofHistory_iff : (ofHistory history).isComplete path = true ↔
    ∃ marked, .markComplete marked ∈ history ∧ marked.components = path.components := by
  induction history using List.reverseRecOn with
  | nil => exact ⟨nofun, fun ⟨_, h, _⟩ => nomatch h⟩
  | append_singleton history operation ih =>
    simp only [ofHistory_concat, List.mem_append, List.mem_singleton, or_and_right, exists_or, ← ih]
    cases operation with
    | markComplete marked =>
      rw [perform, isComplete_markComplete, Bool.or_eq_true, Path.sameAs_iff, or_comm]
      simp
    | get | entry | missing | merge | isComplete => simp [perform, isComplete, touch, Cache.merge]

/-! ## Missing names -/

theorem pairwise_missing (cache : Cache) (path : Path) (names : List String) :
    (cache.missing path names).Pairwise fun a b => names.idxOf a < names.idxOf b := by
  have hunknown : ∀ name ∈ cache.missing path names,
      (!(cache.known path).contains name) = true :=
    fun name h => (List.mem_filter.1 (List.mem_eraseDups.1 h)).2
  exact (pairwise_eraseDups _).imp_of_mem fun ha hb =>
    idxOf_lt_of_filter (hunknown _ ha) (hunknown _ hb)

/-- Nothing is missing after a merge of all that was. -/
theorem missing_merge_eq_nil (hsame : other.sameAs path = true)
    (h : ∀ name ∈ cache.missing path names, name ∈ values) :
    (cache.merge other values).missing path names = [] := by
  rw [missing_eq_nil_iff, known_merge, if_pos hsame]
  intro name hname
  rw [Std.ExtTreeMap.mem_union_iff]
  by_cases hknown : name ∈ cache.known path
  · exact .inr hknown
  · exact .inl (h name (mem_missing.2 ⟨hname, hknown⟩))

/-- **The first write wins.** After any operations on an empty cache, and seen through any path: a
name has the value that it has in the first merge that mentions it, under a path with the same
components. There is no entry exactly if no such path was touched, and there are as many entries as
the paths touched have lists of components. What is missing are the requested names that have no
value, each once and in the order in which they came first, and nothing is missing after a merge
that has them all. Marks are kept apart and change no entry. -/
theorem first_write_wins (history : List Operation) (path : Path) :
    let cache := ofHistory history
    (∀ name value, (∃ entry, cache.get? path = some entry ∧ entry[name]? = some value) ↔
      ∃ earlier other values later, history = earlier ++ .merge other values :: later ∧
        other.components = path.components ∧ values[name]? = some value ∧
        ∀ other' values', .merge other' values' ∈ earlier →
          other'.components = path.components → name ∉ values') ∧
    (cache.get? path = none ↔ ∀ operation ∈ history, ∀ touched ∈ operation.touched?,
      touched.components ≠ path.components) ∧
    cache.size = ((history.filterMap Operation.touched?).map Path.components).toFinset.card ∧
    (∀ names : List String,
      (∀ name, name ∈ cache.missing path names ↔
        name ∈ names ∧ ¬ ∃ entry, cache.get? path = some entry ∧ name ∈ entry) ∧
      ((cache.missing path names).Pairwise fun a b => names.idxOf a < names.idxOf b) ∧
      ∀ other values, other.components = path.components →
        (∀ name ∈ cache.missing path names, name ∈ values) →
          (cache.merge other values).missing path names = []) ∧
    (∀ marked, (cache.markComplete marked).get? path = cache.get? path ∧
      (cache.markComplete marked).size = cache.size) ∧
    (cache.isComplete path = true ↔
      ∃ marked, .markComplete marked ∈ history ∧ marked.components = path.components) := by
  intro cache
  refine ⟨fun name value => ?_, get?_ofHistory_eq_none_iff, size_ofHistory history,
    fun names => ⟨fun name => ?_, pairwise_missing cache path names, ?_⟩, fun marked => ⟨?_, ?_⟩,
    isComplete_ofHistory_iff⟩
  · rw [← getElem?_known_eq_some_iff, getElem?_known_ofHistory, List.findSome?_eq_some_iff]
    constructor
    · rintro ⟨earlier, operation, later, rfl, hvalue, hearlier⟩
      obtain ⟨other, values, rfl, hsame, hvalue⟩ := Operation.value?_eq_some_iff.1 hvalue
      exact ⟨earlier, other, values, later, rfl, hsame, hvalue, fun other' values' hmem =>
        Operation.value?_eq_none_iff.1 (hearlier _ hmem) other' values' rfl⟩
    · rintro ⟨earlier, other, values, later, rfl, hsame, hvalue, hearlier⟩
      refine ⟨earlier, _, later, rfl, Operation.value?_eq_some_iff.2 ⟨_, _, rfl, hsame, hvalue⟩, ?_⟩
      rintro operation hoperation
      refine Operation.value?_eq_none_iff.2 fun other' values' hmerge => ?_
      exact hearlier other' values' (hmerge ▸ hoperation)
  · rw [mem_missing, mem_known_iff]
  · exact fun other values hsame => missing_merge_eq_nil (Path.sameAs_iff.2 hsame)
  · exact get?_markComplete cache marked path
  · rw [markComplete]
    split <;> rfl

/-- Two merges under spellings of one path, with a second path touched between them. -/
def spelledHistory : List Operation :=
  [.merge (.ofText "/a.scss") (.ofList [("x", "1")]), .entry (.ofText "/b.scss"),
    .markComplete (.ofText "/c.scss"),
    .merge (.ofText "//a.scss/") (.ofList [("x", "2"), ("y", "3")])]

theorem first_write_wins_spelled :
    let cache := ofHistory spelledHistory
    (∃ entry, cache.get? (.ofText "/./a.scss") = some entry ∧ entry["x"]? = some "1") ∧
      cache.size = 2 ∧
      cache.missing (.ofText "/./a.scss") ["z", "y", "z"] = ["z"] ∧
      (cache.merge (.ofText "/a.scss/.") (.ofList [("z", "4")])).missing (.ofText "/./a.scss")
          ["z", "y", "z"] =
        [] := by
  intro cache
  obtain ⟨hvalues, -, hsize, hmissing, -⟩ := first_write_wins spelledHistory (.ofText "/./a.scss")
  have hz : cache.missing (.ofText "/./a.scss") ["z", "y", "z"] = ["z"] := by decide +kernel
  refine ⟨(hvalues "x" "1").2 ⟨[], .ofText "/a.scss", .ofList [("x", "1")], _, rfl, ?_, ?_, nofun⟩,
    hsize.trans ?_, hz, (hmissing _).2.2 (.ofText "/a.scss/.") _ ?_ ?_⟩
  · decide +kernel
  · decide +kernel
  · decide +kernel
  · decide +kernel
  · intro name hname
    rw [show ofHistory spelledHistory = cache from rfl, hz, List.mem_singleton] at hname
    subst hname
    decide +kernel

end StyleConstants.Cache
