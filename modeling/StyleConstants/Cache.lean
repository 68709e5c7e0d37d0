import StyleConstants.Path.Basic
import StyleConstants.Probe.Readback

/-!
# The cache of values

Values are kept per file, and the first value of a name is never replaced. A file whose variables
are all known is marked as complete. Files are told apart by the components of their paths.

* `get?_merge`: after a merge an entry has its old values and the new ones of other names.
* `mem_missing`: what is missing are the requested names without a value.
* `isComplete_markComplete`: marking a file says nothing of other files.
-/

namespace StyleConstants

/-- The values known of each file, in the order in which the files were first met, and the files of
which all values are known. -/
structure Cache where
  entries : List (Path × Values)
  complete : List Path

namespace Cache

/-- Nothing known. -/
def empty : Cache := ⟨[], []⟩

/-- The values known of a file, if it has an entry. -/
def get? (cache : Cache) (path : Path) : Option Values :=
  (cache.entries.find? fun entry => entry.1.sameAs path).map (·.2)

/-- The values known of a file. -/
def known (cache : Cache) (path : Path) : Values := (cache.get? path).getD ∅

/-- Puts values into the entry of a file, or into a new one at the end. -/
def putEntry (path : Path) (values : Values) : List (Path × Values) → List (Path × Values)
  | [] => [(path, values)]
  | (other, old) :: rest =>
    if other.sameAs path then (other, values) :: rest
    else (other, old) :: putEntry path values rest

/-- The cache with an entry for the file. -/
def touch (cache : Cache) (path : Path) : Cache :=
  { cache with entries := putEntry path (cache.known path) cache.entries }

/-- The requested names without a known value, each once, in the order of the request. -/
def missing (cache : Cache) (path : Path) (names : List String) : List String :=
  (names.filter fun name => !(cache.known path).contains name).eraseDups

/-- The cache with the values of names that had none. -/
def merge (cache : Cache) (path : Path) (resolved : Values) : Cache :=
  { cache with entries := putEntry path (resolved ∪ cache.known path) cache.entries }

/-- Whether all values of a file are known. -/
def isComplete (cache : Cache) (path : Path) : Bool := cache.complete.any (·.sameAs path)

/-- The cache with all values of a file known. -/
def markComplete (cache : Cache) (path : Path) : Cache :=
  if cache.isComplete path then cache
  else { cache with complete := cache.complete ++ [path] }

/-- The number of files with an entry. -/
def size (cache : Cache) : Nat := cache.entries.length

theorem sameAs_congr {a b : Path} (h : a.sameAs b = true) (c : Path) : c.sameAs a = c.sameAs b := by
  rw [Path.sameAs, Path.sameAs, Path.sameAs_iff.1 h]

theorem find?_putEntry (entries : List (Path × Values)) (path other : Path) (values : Values) :
    ((putEntry path values entries).find? fun entry => entry.1.sameAs other).map (·.2) =
      if path.sameAs other then some values
      else (entries.find? fun entry => entry.1.sameAs other).map (·.2) := by
  induction entries with
  | nil =>
    by_cases h : path.sameAs other = true <;> simp [putEntry, h]
  | cons entry rest ih =>
    obtain ⟨first, old⟩ := entry
    rw [putEntry]
    by_cases hfirst : first.sameAs path = true
    · have heq : first.sameAs other = path.sameAs other := by
        rw [Path.sameAs, Path.sameAs, Path.sameAs_iff.1 hfirst]
      rw [if_pos hfirst, List.find?_cons, List.find?_cons]
      by_cases h : path.sameAs other = true <;> simp [heq, h]
    · rw [if_neg hfirst, List.find?_cons, List.find?_cons]
      by_cases h : first.sameAs other = true
      · have hpath : path.sameAs other = false := by
          rw [Bool.eq_false_iff]
          intro hpath
          exact hfirst ((sameAs_congr hpath first).trans h)
        simp [h, hpath]
      · simpa [h] using ih

theorem get?_touch (cache : Cache) (path other : Path) :
    (cache.touch path).get? other =
      if path.sameAs other then some (cache.known path) else cache.get? other :=
  find?_putEntry cache.entries path other _

theorem get?_merge (cache : Cache) (path other : Path) (resolved : Values) :
    (cache.merge path resolved).get? other =
      if path.sameAs other then some (resolved ∪ cache.known path) else cache.get? other :=
  find?_putEntry cache.entries path other _

theorem get?_markComplete (cache : Cache) (path other : Path) :
    (cache.markComplete path).get? other = cache.get? other := by
  unfold markComplete
  split <;> rfl

theorem mem_missing {cache : Cache} {path : Path} {names : List String} {name : String} :
    name ∈ cache.missing path names ↔ name ∈ names ∧ name ∉ cache.known path := by
  rw [missing, List.mem_eraseDups, List.mem_filter, Bool.not_eq_true', ← Bool.not_eq_true,
    Std.ExtTreeMap.contains_iff_mem]

theorem isComplete_markComplete (cache : Cache) (path other : Path) :
    (cache.markComplete path).isComplete other =
      (path.sameAs other || cache.isComplete other) := by
  by_cases h : cache.isComplete path = true
  · rw [markComplete, if_pos h]
    by_cases hsame : path.sameAs other = true
    · have hany : cache.complete.any (·.sameAs other) = true := by
        obtain ⟨mark, hmem, hmark⟩ := List.any_eq_true.1 h
        exact List.any_eq_true.2 ⟨mark, hmem, (sameAs_congr hsame mark).symm.trans hmark⟩
      simp [isComplete, hsame, hany]
    · simp [hsame]
  · rw [markComplete, if_neg h]
    simp [isComplete, Bool.or_comm]

end Cache

end StyleConstants
