import StyleConstants.Dialect
import StyleConstants.Failure

/-!
# Which file a path means

A path with the extension of a dialect means the file itself or the file of that name with an
underscore in front. A path without extension means a file with the extension of either dialect,
and again the same with an underscore. The first candidate that is a file is the one meant.

* `Source.resolve_eq_ok_iff`: a path is resolved to its first candidate that is a file.
* `Source.isFile_of_resolve`: what a path is resolved to is a file.
-/

namespace StyleConstants

/-- A stylesheet file: the path that leads to it and the dialect it is written in. -/
structure Source where
  path : Path
  dialect : Dialect
  deriving DecidableEq, Repr

namespace Source

/-- A file name behind an underscore. The name is taken as a text, so what spells no character in it
is replaced. -/
def partialName (name : List UInt8) : List UInt8 :=
  Text.Utf8.encode ('_' :: Text.Utf8.decodeLossy name)

/-- The path with an underscore in front of its file name, unless that starts with one. -/
def underscored? (path : Path) : Option Path :=
  match path.fileName? with
  | some name =>
    if (Text.Utf8.decodeLossy name).head? = some '_' then none
    else some (path.withFileName (partialName name))
  | none => none

/-- The path with the extension of each dialect. -/
def probes (path : Path) : List Source :=
  Dialect.probeOrder.map fun dialect => ⟨path.withExtension dialect.extension, dialect⟩

/-- The files that a path may mean, in the order in which they are tried. -/
def candidates (path : Path) : Except Failure (List Source) :=
  match path.extension? with
  | some extension =>
    match Dialect.ofExtension? extension with
    | some dialect =>
      .ok (⟨path, dialect⟩ :: (underscored? path).toList.map fun other => ⟨other, dialect⟩)
    | none => .error (.unknownExtension path extension)
  | none => .ok (probes path ++ (underscored? path).toList.flatMap probes)

/-- The file that a path means. -/
def resolve (isFile : Path → Bool) (path : Path) : Except Failure Source :=
  match candidates path with
  | .error fault => .error fault
  | .ok sources =>
    match sources.find? fun source => isFile source.path with
    | some source => .ok source
    | none => .error (.noSource path)

theorem resolve_eq_ok_iff {isFile : Path → Bool} {path : Path} {source : Source} :
    resolve isFile path = .ok source ↔ ∃ sources, candidates path = .ok sources ∧
      sources.find? (fun other => isFile other.path) = some source := by
  unfold resolve
  cases candidates path with
  | error fault => simp
  | ok sources => cases h : sources.find? fun other => isFile other.path <;> simp [h]

theorem isFile_of_resolve {isFile : Path → Bool} {path : Path} {source : Source}
    (h : resolve isFile path = .ok source) : isFile source.path = true := by
  obtain ⟨sources, _, hfind⟩ := resolve_eq_ok_iff.1 h
  simpa using List.find?_some hfind

end Source

end StyleConstants
