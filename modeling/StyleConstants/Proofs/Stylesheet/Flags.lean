import StyleConstants.Proofs.Stylesheet.Balanced
import StyleConstants.Proofs.Text.Blank
import StyleConstants.Stylesheet.Statement

/-!
# Values and their flags

A value may be followed by any number of marks, each with blanks in front. They are taken off from
the end, down to a value that ends in none.

* `splitFlags_flagTexts`: what is left is the value, whatever the order and number of the marks.
-/

namespace StyleConstants.Stylesheet

open Text (IsTrimmed isBlank)

/-! ## Flags -/

/-- A mark after the value of a declaration. -/
inductive Flag where
  | default
  | global
  deriving DecidableEq, Repr

/-- The mark as it is written. -/
def Flag.text : Flag → List Char
  | default => "!default".toList
  | global => "!global".toList

/-- Marks one after the other, each with the text in front of it. -/
def flagTexts (flags : List (List Char × Flag)) : List Char :=
  flags.flatMap fun flag => flag.1 ++ flag.2.text

/-- Balanced text without blanks at its ends. -/
structure IsPhrase (text : List Char) : Prop where
  balanced : Balanced false text
  trimmed : IsTrimmed text

/-- What may be declared as a value. -/
structure IsValue (value : List Char) : Prop extends IsPhrase value where
  ne_nil : value ≠ []
  unflagged : ∀ flag : Flag, ¬ flag.text <:+ value

theorem flagTexts_concat (flags : List (List Char × Flag)) (blanks : List Char) (flag : Flag) :
    flagTexts (flags ++ [(blanks, flag)]) = flagTexts flags ++ blanks ++ flag.text := by
  simp [flagTexts]

theorem isBlank_getLast_text {flag : Flag} : ∀ c ∈ flag.text.getLast?, isBlank c = false := by
  intro c hc
  cases flag <;> cases hc <;> decide

/-- The value and its marks end in no blank. -/
theorem isBlank_getLast_flagTexts {value : List Char}
    (hvalue : ∀ c ∈ value.getLast?, isBlank c = false) (flags : List (List Char × Flag)) :
    ∀ c ∈ (value ++ flagTexts flags).getLast?, isBlank c = false := by
  by_cases h : flags = []
  · rw [h, flagTexts, List.flatMap_nil, List.append_nil]
    exact hvalue
  · obtain ⟨others, ⟨blanks, flag⟩, rfl⟩ : ∃ others last, flags = others ++ [last] :=
      ⟨_, _, (List.dropLast_concat_getLast h).symm⟩
    have hne : flag.text ≠ [] := by cases flag <;> decide
    rw [flagTexts_concat, ← List.append_assoc, Text.getLast?_append_of_ne_nil hne]
    exact isBlank_getLast_text

theorem splitFlags_of_dropFlag? {flag : Flag} {text rest : List Char}
    (h : text = rest ++ flag.text) :
    splitFlags text = match flag with
      | .default => { splitFlags (Text.trimEnd rest) with isDefault := true }
      | .global => { splitFlags (Text.trimEnd rest) with isGlobal := true } := by
  subst h
  have hdrop := dropFlag?_append flag.text rest
  cases flag with
  | default =>
    have hdefault : dropFlag? "!default".toList (rest ++ Flag.default.text) =
        some (Text.trimEnd rest) := hdrop
    rw [splitFlags]
    split
    · rename_i rest' hrest
      cases hrest.symm.trans hdefault
      rfl
    · rename_i hrest
      cases hrest.symm.trans hdefault
  | global =>
    have hglobal : dropFlag? "!global".toList (rest ++ Flag.global.text) =
        some (Text.trimEnd rest) := hdrop
    have hdefault : dropFlag? "!default".toList (rest ++ Flag.global.text) = none := by
      refine dropFlag?_eq_none ?_
      rintro ⟨front, hfront⟩
      have hlast := congrArg List.getLast? hfront
      rw [Text.getLast?_append_of_ne_nil (by decide), Text.getLast?_append_of_ne_nil (by decide)]
        at hlast
      exact absurd hlast (by decide)
    rw [splitFlags]
    split
    · rename_i hrest
      cases hrest.symm.trans hdefault
    · split
      · rename_i rest' hrest
        cases hrest.symm.trans hglobal
        rfl
      · rename_i hrest
        cases hrest.symm.trans hglobal

theorem splitFlags_unflagged {value : List Char} (h : ∀ flag : Flag, ¬ flag.text <:+ value) :
    splitFlags value = ⟨value, false, false⟩ := by
  have hdefault : dropFlag? "!default".toList value = none := dropFlag?_eq_none (h .default)
  have hglobal : dropFlag? "!global".toList value = none := dropFlag?_eq_none (h .global)
  rw [splitFlags]
  split
  · rename_i hrest
    cases hrest.symm.trans hdefault
  · split
    · rename_i hrest
      cases hrest.symm.trans hglobal
    · rfl

/-- All marks are taken off a value, whatever their order and number. -/
theorem splitFlags_flagTexts {value : List Char} (htrimmed : IsTrimmed value)
    (hunflagged : ∀ flag : Flag, ¬ flag.text <:+ value) (flags : List (List Char × Flag))
    (hblanks : ∀ flag ∈ flags, ∀ c ∈ flag.1, isBlank c = true) :
    splitFlags (value ++ flagTexts flags) =
      ⟨value, flags.any (·.2 == .default), flags.any (·.2 == .global)⟩ := by
  -- marks are taken off from the end, so the induction is on the reversed list
  obtain ⟨reversed, rfl⟩ : ∃ reversed, flags = reversed.reverse := ⟨flags.reverse, by simp⟩
  induction reversed with
  | nil =>
    rw [List.reverse_nil, flagTexts, List.flatMap_nil, List.append_nil]
    exact splitFlags_unflagged hunflagged
  | cons last reversed ih =>
    obtain ⟨blanks, flag⟩ := last
    rw [List.reverse_cons] at hblanks ⊢
    have hlast : ∀ c ∈ blanks, isBlank c = true := hblanks (blanks, flag) (by simp)
    have hothers : ∀ other ∈ reversed.reverse, ∀ c ∈ other.1, isBlank c = true :=
      fun other hother => hblanks other (List.mem_append_left _ hother)
    have htext : value ++ flagTexts (reversed.reverse ++ [(blanks, flag)]) =
        (value ++ flagTexts reversed.reverse ++ blanks) ++ flag.text := by
      rw [flagTexts_concat]
      simp only [List.append_assoc]
    have htrim : Text.trimEnd (value ++ flagTexts reversed.reverse ++ blanks) =
        value ++ flagTexts reversed.reverse := by
      rw [Text.trimEnd_append_right hlast]
      exact Text.trimEnd_eq_self (isBlank_getLast_flagTexts htrimmed.2 _)
    rw [splitFlags_of_dropFlag? htext, htrim, ih hothers]
    cases flag <;> simp

end StyleConstants.Stylesheet
