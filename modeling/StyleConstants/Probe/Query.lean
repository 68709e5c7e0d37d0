import StyleConstants.Case.Naming
import StyleConstants.Failure
import StyleConstants.Probe.Sheet

/-!
# Asking the compiler for values

The compiler and the reader of its output are given from outside. The compiler may answer the same
request differently each time, so an answer depends on the requests made before.

* `Probe.ask_nil`: nothing is rendered if nothing is asked.
-/

namespace StyleConstants

/-- What is given to the compiler: a stylesheet and the directories searched for imports. -/
structure RenderRequest where
  sheet : String
  loadPaths : List Path
  deriving DecidableEq, Repr

/-- A compiler: its answer to a request, given the requests before it, the oldest first. -/
abbrev Renderer := List RenderRequest → RenderRequest → Except RenderFault String

/-- A reader of rendered texts: the values of the variables whose markers were asked for. -/
abbrev OutputReader := MarkerSet → String → Except Failure Values

/-- The reader that expects every marker to be declared exactly once. -/
def OutputReader.declarations : OutputReader := fun set rendered =>
  (set.readBack rendered).mapError .readback

/-- The reader that gives the same values whatever was rendered. -/
def OutputReader.constant (values : Values) : OutputReader := fun _ _ => .ok values

/-- The compiler that gives prepared answers, one after the other, and then always the `last`. -/
def Renderer.prepared (answers : List (Except RenderFault String))
    (last : Except RenderFault String) : Renderer :=
  fun earlier _ => answers.getD earlier.length last

/-- The values with their names converted; of two names that become one the later in order wins. -/
def Values.renamed (rename : Renaming) (values : Values) : Values :=
  .ofList (values.toList.map fun (name, value) => (rename.apply name, value))

/-- A compiler, a reader of its output, and the directories searched for imports. -/
structure Probe where
  renderer : Renderer
  reader : OutputReader
  loadPaths : List Path

namespace Probe

/-- The request for the values of the set's variables. The directory of the target is searched
first. -/
def request (probe : Probe) (target : Path) (set : MarkerSet) : RenderRequest :=
  ⟨set.sheet target, target.parent?.toList ++ probe.loadPaths⟩

/-- The values of the set's variables in the target, under converted names, and the requests made
for them. -/
def ask (probe : Probe) (earlier : List RenderRequest) (target : Path) (set : MarkerSet)
    (rename : Renaming) : Except Failure Values × List RenderRequest :=
  if set.names.isEmpty then (.ok ∅, [])
  else
    let request := probe.request target set
    match probe.renderer earlier request with
    | .error fault => (.error (.render target fault), [request])
    | .ok rendered =>
      match probe.reader set rendered with
      | .error fault => (.error fault, [request])
      | .ok values => (.ok (values.renamed rename), [request])

theorem ask_nil (probe : Probe) (earlier : List RenderRequest) (target : Path)
    {set : MarkerSet} (h : set.names = []) (rename : Renaming) :
    probe.ask earlier target set rename = (.ok ∅, []) := by
  simp [ask, h]

end Probe

end StyleConstants
