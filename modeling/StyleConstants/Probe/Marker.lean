import StyleConstants.Text.Hex

/-!
# Markers

A marker is a custom property whose name carries a variable's name and a token. The token is drawn
at random, so that no stylesheet holds it by accident.

* `MarkerToken.marker_injective`: distinct names have distinct markers.
* `MarkerSet.mem_names_ofNames`: a set of markers has the names it was made from.
-/

namespace StyleConstants

/-- The token that the markers of one engine share. -/
structure MarkerToken where
  text : String
  deriving DecidableEq, Repr

namespace MarkerToken

/-- The token of a number below `2 ^ 128`: a random identifier of version 4, as 32 digits. The
digits for the version and the variant are set; the others are those of the number. -/
def ofRandom (seed : Nat) : MarkerToken :=
  ⟨String.ofList <| (List.range 32).map fun (place : Nat) =>
    let drawn := seed >>> (4 * (31 - place)) % 16
    if place = 12 then '4'
    else if place = 16 then Text.hexDigit (8 + drawn % 4)
    else Text.hexDigit drawn⟩

/-- The marker of a variable. -/
def marker (token : MarkerToken) (name : String) : String := "--" ++ name ++ "_" ++ token.text

/-- The selector of the rule in which markers stand. -/
def selector (token : MarkerToken) : String := "#vars_" ++ token.text

theorem marker_injective (token : MarkerToken) {a b : String}
    (h : token.marker a = token.marker b) : a = b := by
  have hlist := congrArg String.toList h
  simp only [marker, String.toList_append, List.append_cancel_right_eq,
    List.append_cancel_left_eq] at hlist
  exact String.toList_inj.1 hlist

end MarkerToken

/-- The markers of several variables: a token and the names, each once. -/
structure MarkerSet where
  token : MarkerToken
  names : List String
  deriving DecidableEq, Repr

namespace MarkerSet

/-- The markers of these variables, in the order in which the names come first. -/
def ofNames (token : MarkerToken) (names : List String) : MarkerSet := ⟨token, names.eraseDups⟩

/-- The marker of each name. -/
def markers (set : MarkerSet) : List (String × String) :=
  set.names.map fun name => (name, set.token.marker name)

theorem mem_names_ofNames {token : MarkerToken} {names : List String} {name : String} :
    name ∈ (ofNames token names).names ↔ name ∈ names := by
  simp [ofNames]

end MarkerSet

end StyleConstants
