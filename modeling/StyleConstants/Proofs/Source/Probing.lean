import StyleConstants.Proofs.Source.Spelling

/-!
# The order in which files are tried

Resolution takes the first file of a short list. The list is told here without the program: by the
extension of the path and by its name, which may already be that of a partial. Whatever file of the
list is taken, its own list begins with it, so resolution stays with it.

* `Tries`: the files that a path may mean, in their order.
* `candidates_eq_ok_iff`, `candidates_of_other`: these are the files tried, and the paths for which
  nothing is tried.
* `resolve_eq_ok_iff_isFirst`, `resolve_eq_noSource_iff`: the first file there is taken, and if
  there is none, the path is refused.
* `resolve_of_resolve`: resolving the file that was found finds it again.
-/

namespace StyleConstants.Source

open StyleConstants.Path StyleConstants.Text.Utf8

variable {isFile : Path → Bool} {path : Path} {source : Source} {sources : List Source}
  {partials : List Path}

/-! ## Which files are tried -/

/-- The byte in front of the name of a partial. -/
def underscore : UInt8 := 0x5F

/-- The partials that a path may mean: its name behind an underscore, if it has a name and this is
not that of a partial already. A name that no text spells is taken with its replacements. -/
inductive Partials (path : Path) : List Path → Prop
  | nameless (hname : path.fileName? = none) : Partials path []
  | itself {name : List UInt8} (hname : path.fileName? = some name)
      (hfirst : name.head? = some underscore) : Partials path []
  | hidden {name : List UInt8} (hname : path.fileName? = some name)
      (hfirst : name.head? ≠ some underscore) (hspelled : ∃ text, encode text = name) :
      Partials path [path.withFileName (underscore :: name)]
  | replaced {name : List UInt8} (hname : path.fileName? = some name)
      (hfirst : name.head? ≠ some underscore) (hspelled : ∀ text, encode text ≠ name) :
      Partials path [path.withFileName (underscore :: encode (decodeLossy name))]

/-- The files that a path may mean, in the order in which they are tried. With the extension of a
dialect these are the path and its partial; without extension each of them with both extensions. -/
inductive Tries (path : Path) : List Source → Prop
  | explicit {dialect : Dialect} {partials : List Path}
      (hextension : path.extension? = some dialect.extension) (hpartials : Partials path partials) :
      Tries path ((path :: partials).map fun file => ⟨file, dialect⟩)
  | bare {partials : List Path} (hextension : path.extension? = none)
      (hpartials : Partials path partials) :
      Tries path ((path :: partials).flatMap fun file =>
        [⟨file.withExtension "sass", .indented⟩, ⟨file.withExtension "scss", .braced⟩])

theorem head?_decodeLossy_iff_underscore {name : List UInt8} :
    (decodeLossy name).head? = some '_' ↔ name.head? = some underscore :=
  Text.Utf8.head?_decodeLossy_iff (by decide)

theorem Partials.eq (h : Partials path partials) : partials = (underscored? path).toList := by
  unfold underscored?
  cases h with
  | nameless hname => rw [hname]; rfl
  | itself hname hfirst =>
    rw [hname]
    dsimp only
    rw [if_pos (head?_decodeLossy_iff_underscore.2 hfirst)]
    rfl
  | hidden hname hfirst hspelled =>
    obtain ⟨text, rfl⟩ := hspelled
    rw [hname]
    dsimp only
    rw [if_neg (mt head?_decodeLossy_iff_underscore.1 hfirst), partialName_eq, decodeLossy_encode]
    rfl
  | replaced hname hfirst _ =>
    rw [hname]
    dsimp only
    rw [if_neg (mt head?_decodeLossy_iff_underscore.1 hfirst), partialName_eq]
    rfl

theorem exists_partials (path : Path) : ∃ partials, Partials path partials := by
  cases hname : path.fileName? with
  | none => exact ⟨_, .nameless hname⟩
  | some name =>
    by_cases hfirst : name.head? = some underscore
    · exact ⟨_, .itself hname hfirst⟩
    · by_cases hspelled : ∃ text, encode text = name
      · exact ⟨_, .hidden hname hfirst hspelled⟩
      · exact ⟨_, .replaced hname hfirst (not_exists.1 hspelled)⟩

theorem partials_underscored? (path : Path) : Partials path (underscored? path).toList := by
  obtain ⟨partials, hpartials⟩ := exists_partials path
  exact hpartials.eq ▸ hpartials

/-- The candidates of a path are the files that it may mean. -/
theorem candidates_eq_ok_iff : candidates path = .ok sources ↔ Tries path sources := by
  constructor
  · intro h
    unfold candidates at h
    split at h
    · rename_i extension hextension
      split at h
      · rename_i dialect hdialect
        cases h
        obtain rfl := Dialect.ofExtension?_eq_some_iff.1 hdialect
        exact .explicit hextension (partials_underscored? path)
      · cases h
    · rename_i hextension
      cases h
      exact .bare hextension (partials_underscored? path)
  · intro h
    cases h with
    | explicit hextension hpartials =>
      rw [candidates, hextension, hpartials.eq]
      dsimp only
      rw [Dialect.ofExtension?_eq_some_iff.2 rfl]
      rfl
    | bare hextension hpartials =>
      rw [candidates, hextension, hpartials.eq]
      rfl

theorem candidates_of_other {extension : String} (hextension : path.extension? = some extension)
    (hother : ∀ dialect : Dialect, dialect.extension ≠ extension) :
    candidates path = .error (.unknownExtension path extension) := by
  unfold candidates
  rw [hextension]
  dsimp only
  split
  · rename_i dialect hdialect
    exact absurd (Dialect.ofExtension?_eq_some_iff.1 hdialect) (hother dialect)
  · rfl

/-! ## Which file is taken -/

/-- The first of these files that is there. -/
def IsFirst (isFile : Path → Bool) (sources : List Source) (source : Source) : Prop :=
  ∃ before after, sources = before ++ source :: after ∧ isFile source.path = true ∧
    ∀ other ∈ before, isFile other.path = false

theorem resolve_eq_ok_iff_isFirst (h : Tries path sources) :
    resolve isFile path = .ok source ↔ IsFirst isFile sources source := by
  have hcandidates := candidates_eq_ok_iff.2 h
  constructor
  · intro hsource
    obtain ⟨others, hothers, hfind⟩ := resolve_eq_ok_iff.1 hsource
    cases hcandidates.symm.trans hothers
    obtain ⟨hfile, before, after, hsplit, hbefore⟩ := List.find?_eq_some_iff_append.1 hfind
    exact ⟨before, after, hsplit, hfile, fun other hother => by simpa using hbefore other hother⟩
  · rintro ⟨before, after, hsplit, hfile, hbefore⟩
    refine resolve_eq_ok_iff.2 ⟨sources, hcandidates, List.find?_eq_some_iff_append.2 ?_⟩
    exact ⟨hfile, before, after, hsplit, fun other hother => by simpa using hbefore other hother⟩

theorem resolve_eq_noSource_iff (h : Tries path sources) :
    resolve isFile path = .error (.noSource path) ↔
      ∀ source ∈ sources, isFile source.path = false := by
  have hnone : sources.find? (fun source => isFile source.path) = none ↔
      ∀ source ∈ sources, isFile source.path = false := by
    rw [List.find?_eq_none]
    exact forall₂_congr fun source _ => by rw [Bool.not_eq_true]
  rw [resolve, candidates_eq_ok_iff.2 h, ← hnone]
  dsimp only
  cases sources.find? fun source => isFile source.path <;> simp

theorem resolve_of_other {extension : String} (hextension : path.extension? = some extension)
    (hother : ∀ dialect : Dialect, dialect.extension ≠ extension) :
    resolve isFile path = .error (.unknownExtension path extension) := by
  rw [resolve, candidates_of_other hextension hother]

/-- Every path has files that it may mean, or the extension of neither dialect. -/
theorem exists_tries_or (path : Path) : (∃ sources, Tries path sources) ∨
    ∃ extension, path.extension? = some extension ∧
      ∀ dialect : Dialect, dialect.extension ≠ extension := by
  cases hextension : path.extension? with
  | none => exact .inl ⟨_, .bare hextension (partials_underscored? path)⟩
  | some extension =>
    by_cases hdialect : ∃ dialect : Dialect, dialect.extension = extension
    · obtain ⟨dialect, rfl⟩ := hdialect
      exact .inl ⟨_, .explicit hextension (partials_underscored? path)⟩
    · exact .inr ⟨extension, rfl, fun dialect h => hdialect ⟨dialect, h⟩⟩

/-! ## Resolving again -/

/-- A file with the extension of its dialect is tried before all others. -/
theorem resolve_self (hextension : source.path.extension? = some source.dialect.extension)
    (hfile : isFile source.path = true) : resolve isFile source.path = .ok source := by
  refine (resolve_eq_ok_iff_isFirst (.explicit hextension (partials_underscored? _))).2 ?_
  exact ⟨[], _, rfl, hfile, fun _ hother => nomatch hother⟩

/-- The file that a path means is what its own path means. A path without a file name means nothing
but itself, and what another path means has the extension of its dialect. -/
theorem resolve_of_resolve (h : resolve isFile path = .ok source) :
    resolve isFile source.path = .ok source := by
  cases hname : path.fileName? with
  | none => rwa [path_eq_of_resolve hname h]
  | some name => exact resolve_self (extension?_of_resolve hname h) (isFile_of_resolve h)

end StyleConstants.Source
