/-!
# Variable names

What may follow the dollar sign: letters, digits, hyphens, underscores and any character beyond
ASCII, the first one no digit.

* `isVariableName_append`: a name may be continued by any name characters.
-/

namespace StyleConstants.Stylesheet

/-- A character that a variable name may hold. -/
def isNameChar (c : Char) : Bool :=
  c.isAlphanum || c == '-' || c == '_' || 0x80 ≤ c.toNat

/-- A character that a variable name may start with. -/
def isNameStart (c : Char) : Bool :=
  c.isAlpha || c == '-' || c == '_' || 0x80 ≤ c.toNat

/-- Whether the text can follow a dollar sign as the name of a variable. -/
def isVariableName : List Char → Bool
  | [] => false
  | c :: rest => isNameStart c && rest.all isNameChar

theorem isNameChar_of_isNameStart {c : Char} (h : isNameStart c = true) : isNameChar c = true := by
  simp only [isNameStart, isNameChar, Char.isAlphanum, Bool.or_eq_true] at h ⊢
  rcases h with ((h | h) | h) | h <;> simp [h]

theorem isNameChar_of_isVariableName {name : List Char} (h : isVariableName name = true) :
    ∀ c ∈ name, isNameChar c = true := by
  cases name with
  | nil => simp
  | cons c rest =>
    simp only [isVariableName, Bool.and_eq_true, List.all_eq_true] at h
    intro d hd
    rcases List.mem_cons.1 hd with rfl | hd
    · exact isNameChar_of_isNameStart h.1
    · exact h.2 d hd

theorem isVariableName_append {name more : List Char} (h : isVariableName name = true)
    (hmore : ∀ c ∈ more, isNameChar c = true) : isVariableName (name ++ more) = true := by
  cases name with
  | nil => simp [isVariableName] at h
  | cons c rest =>
    simp only [isVariableName, Bool.and_eq_true, List.all_eq_true] at h
    simp only [List.cons_append, isVariableName, Bool.and_eq_true, List.all_eq_true]
    exact ⟨h.1, fun d hd => (List.mem_append.1 hd).elim (h.2 d) (hmore d)⟩

end StyleConstants.Stylesheet
