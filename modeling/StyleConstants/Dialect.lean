/-!
# Dialects

A stylesheet is written in one of two dialects, told apart by the extension of its file.

* `ofExtension?_eq_some_iff`: each dialect has one extension, and no two share one.
-/

namespace StyleConstants

/-- The two ways to write a stylesheet. -/
inductive Dialect where
  /-- Blocks by indentation. -/
  | indented
  /-- Blocks in braces, statements ended by semicolons. -/
  | braced
  deriving DecidableEq, Repr

namespace Dialect

/-- The extension of files in the dialect. -/
def extension : Dialect → String
  | indented => "sass"
  | braced => "scss"

/-- The dialects in the order in which a path without extension tries them. -/
def probeOrder : List Dialect := [indented, braced]

/-- The dialect of files with this extension. -/
def ofExtension? (extension : String) : Option Dialect :=
  probeOrder.find? (·.extension == extension)

theorem extension_injective {a b : Dialect} (h : a.extension = b.extension) : a = b := by
  revert h
  cases a <;> cases b <;> decide

theorem ofExtension?_eq_some_iff {text : String} {dialect : Dialect} :
    ofExtension? text = some dialect ↔ dialect.extension = text := by
  constructor
  · intro h
    simpa using List.find?_some h
  · rintro rfl
    cases dialect <;> decide

end Dialect

end StyleConstants
