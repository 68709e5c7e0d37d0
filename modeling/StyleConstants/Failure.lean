import StyleConstants.Files.System
import StyleConstants.Options
import StyleConstants.Probe.Readback
import StyleConstants.Stylesheet.Fault

/-!
# Why a request fails

Every failure is final for the request that it ends, and names the file or the names it is about.
-/

namespace StyleConstants

/-- Why the compiler gives no text. -/
inductive RenderFault where
  /-- The compiler refuses the stylesheet. -/
  | compiler (message : String)
  /-- The compiler cannot read what it needs. -/
  | io (message : String)
  deriving DecidableEq, Repr

/-- The wording of a fault. -/
def RenderFault.message : RenderFault → String
  | compiler message => s!"SASS compilation error: {message}"
  | io message => s!"I/O error: {message}"

/-- Why a request fails. -/
inductive Failure where
  /-- A file is no stylesheet of its dialect. -/
  | parse (path : Path) (rejection : Stylesheet.Rejection)
  /-- No stylesheet stands where a path leads. -/
  | noSource (path : Path)
  /-- A path has the extension of neither dialect. -/
  | unknownExtension (path : Path) (extension : String)
  /-- The compiler refuses the stylesheet that asks for values. -/
  | render (path : Path) (fault : RenderFault)
  /-- The rendered text does not give the values asked for. -/
  | readback (fault : ReadbackFault)
  /-- Requested names do not come back under the configured naming. -/
  | caseMismatch (names : List String)
  /-- A file cannot be read. -/
  | unreadable (path : Path) (fault : ReadFault)
  /-- The configuration is refused. -/
  | options (fault : OptionsFault)
  deriving DecidableEq, Repr

/-- The wording of a fault. -/
def ReadbackFault.message : ReadbackFault → String
  | missing name marker => s!"Value for ${name} not found in rendered output (marker {marker})"
  | repeated name marker count =>
    s!"Value for ${name} appears {count} times in rendered output (marker {marker})"

/-- The wording of an error. -/
def Failure.message : Failure → String
  | parse path rejection =>
    s!"Failed to parse {path.text}:{rejection.line}: {rejection.cause.message}"
  | noSource path => s!"Invalid import {path.text}: no matching .sass or .scss file"
  | unknownExtension path extension => s!"Unknown file extension \".{extension}\" for {path.text}"
  | render path fault => s!"SASS compilation failed for {path.text}: {fault.message}"
  | readback fault => fault.message
  | caseMismatch names =>
    "Import names must be in the same case as `outputCase`: " ++ String.intercalate ", " names
  | unreadable path fault => s!"Failed to read SASS file {path.text}: I/O error: {fault.message}"
  | options fault => s!"Invalid extraction options: {fault.message}"

end StyleConstants
