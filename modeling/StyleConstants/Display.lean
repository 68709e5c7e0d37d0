import StyleConstants.Engine
import StyleConstants.Text.Quoted

/-!
# An engine shown to a programmer

One line with the configuration and the cache. What the engine was given from outside, the files and
the compiler, is not shown.
-/

namespace StyleConstants

/-- A list between two brackets. -/
def bracketed (opening closing : String) (items : List String) : String :=
  opening ++ String.intercalate ", " items ++ closing

/-- A list in braces. -/
def braced (items : List String) : String := bracketed "\x7b" "\x7d" items

/-- How a part of a path is shown: bytes that spell no character by their upper-case digits. -/
def Text.Utf8.Part.display : Text.Utf8.Part → List Char
  | .char c => Text.escape c
  | .stray bytes => bytes.flatMap fun byte =>
    ['\\', 'x', (Text.hexDigit (byte.toNat / 16)).toUpper,
      (Text.hexDigit (byte.toNat % 16)).toUpper]

/-- A path in quotes. -/
def Path.display (path : Path) : String :=
  String.ofList ('"' :: ((Text.Utf8.parts path.bytes).flatMap Text.Utf8.Part.display ++ ['"']))

/-- The name of a style with a capital first letter. -/
def CaseStyle.display (style : CaseStyle) : String := style.name.capitalize

/-- A conversion, by its name. -/
def Renaming.display : Renaming → String
  | .identity => "Identity"
  | .style chosen => s!"Style({chosen.display})"
  | .custom _ => "Custom(<fn>)"

/-- Values by name. -/
def Values.display (values : Values) : String :=
  braced (values.toList.map fun (name, value) =>
    Text.quoted name ++ ": " ++ Text.quoted value)

/-- A structure with named parts. -/
def structureDisplay (name : String) (parts : List (String × String)) : String :=
  name ++ " \x7b " ++ String.intercalate ", " (parts.map fun (label, part) => label ++ ": " ++ part)

/-- The two conversions. -/
def Naming.display (cases : Naming) : String :=
  structureDisplay "CaseTranslation"
    [("sass_case", cases.toDeclared.display), ("output_case", cases.toOutput.display)] ++ " \x7d"

/-- The values known of each file and the files of which all are known. -/
def Cache.display (cache : Cache) : String :=
  structureDisplay "ResolutionCache"
    [("entries", braced (cache.entries.map fun (path, values) =>
        path.display ++ ": " ++ Values.display values)),
      ("complete", braced (cache.complete.map Path.display))] ++ " \x7d"

/-- The engine with its cache. -/
def Engine.display (engine : Engine) (state : Engine.State) : String :=
  structureDisplay "Extractor"
    [("cases", engine.cases.display),
      ("load_paths", bracketed "[" "]" (engine.probe.loadPaths.map Path.display)),
      ("token", "MarkerToken(" ++ Text.quoted engine.token.text ++ ")"),
      ("cache", state.cache.display)] ++ ", .. \x7d"

end StyleConstants
