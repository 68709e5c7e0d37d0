import StyleConstants.Case.Style

/-!
# Names on both sides

Stylesheets and their consumers may follow different conventions. A naming leads from a
requested name to the declared one and from a declared name to the one handed out.
-/

namespace StyleConstants

/-- A conversion of names. -/
inductive Renaming where
  | identity
  | style (style : CaseStyle)
  /-- A conversion supplied by the caller. -/
  | custom (convert : String → String)

/-- The converted name. -/
def Renaming.apply : Renaming → String → String
  | .identity, name => name
  | .style chosen, name => chosen.convert name
  | .custom convert, name => convert name

/-- The conversion by an optional style; without one names stay as they are. -/
def Renaming.ofStyle? : Option CaseStyle → Renaming
  | some chosen => style chosen
  | none => identity

/-- The two conversions between the names in a stylesheet and the names of its consumer. -/
structure Naming where
  /-- From a requested name to the name declared in a stylesheet. -/
  toDeclared : Renaming
  /-- From a declared name to the name handed out. -/
  toOutput : Renaming

end StyleConstants
