import StyleConstants.Path.Basic
import StyleConstants.Probe.Marker
import StyleConstants.Stylesheet.Import

/-!
# The stylesheet that asks for values

Values are never computed here. A small stylesheet imports the file in question and prints each
variable into its marker; the compiler does the rest. Printing is guarded, so that a variable that
does not exist is a missing marker and no error of the compiler.

* `toList_sheet`: the characters of the stylesheet, piece by piece.
-/

namespace StyleConstants.MarkerSet

/-- The guarded declaration that prints one variable. -/
def entryText (name marker : List Char) : List Char :=
  "  @if global-variable-exists(\"".toList ++ name ++ "\") \x7b\n    ".toList ++ marker
    ++ ": #\x7binspect($".toList ++ name ++ ")\x7d;\n  \x7d\n".toList

/-- The stylesheet that imports `target` and prints every variable of the set into its marker. -/
def sheetText (set : MarkerSet) (target : Path) : List Char :=
  "@import \"".toList ++ Stylesheet.escapeLiteral '"' target.text.toList ++ "\";\n".toList
    ++ set.token.selector.toList ++ " \x7b\n".toList
    ++ set.markers.flatMap (fun (name, marker) => entryText name.toList marker.toList)
    ++ ['\x7d']

/-- The stylesheet as a text. -/
def sheet (set : MarkerSet) (target : Path) : String := String.ofList (set.sheetText target)

theorem toList_sheet (set : MarkerSet) (target : Path) :
    (set.sheet target).toList = set.sheetText target :=
  String.toList_ofList

end StyleConstants.MarkerSet
