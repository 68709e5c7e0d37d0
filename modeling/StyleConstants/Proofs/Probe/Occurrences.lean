import StyleConstants.Probe.Readback

/-!
# Occurrences of a marker

An occurrence is a way to write the text as what stands before it, the marker, and what follows.
The search passes over occurrences that overlap an earlier one. None of these is lost to the reader:
a declaration starts after a character that no marker holds, so nothing overlaps it from the left.

* `exists_split_of_mem`: whatever is found is an occurrence.
* `declarations_eq_singleton`: a marker that is declared at one place only is found there.
-/

namespace StyleConstants.Readback

variable {marker text : List Char}

/-- A step of the search: the characters passed are kept, to say where an occurrence lies. -/
theorem occurrences_cons (marker passed : List Char) (skip : Nat) (c : Char) (rest : List Char) :
    occurrences marker passed.getLast? skip (c :: rest) =
      match skip with
      | skip + 1 => occurrences marker (passed ++ [c]).getLast? skip rest
      | 0 =>
        if marker.isPrefixOf (c :: rest) then
          ⟨passed.getLast?, (c :: rest).drop marker.length⟩
            :: occurrences marker (passed ++ [c]).getLast? (marker.length - 1) rest
        else occurrences marker (passed ++ [c]).getLast? 0 rest := by
  rw [List.getLast?_concat]
  cases skip <;> rw [occurrences]

/-- Whatever is found is an occurrence, and lies behind the characters passed. -/
theorem exists_split_of_mem {passed rest : List Char} {skip : Nat} {found : Occurrence}
    (h : found ∈ occurrences marker passed.getLast? skip rest) :
    ∃ before after, passed ++ rest = before ++ (marker ++ after) ∧
      found = ⟨before.getLast?, after⟩ ∧ passed.length ≤ before.length := by
  induction rest generalizing passed skip with
  | nil => cases h
  | cons c rest ih =>
    have hmore : ∀ {skip : Nat}, found ∈ occurrences marker (passed ++ [c]).getLast? skip rest →
        ∃ before after, passed ++ c :: rest = before ++ (marker ++ after) ∧
          found = ⟨before.getLast?, after⟩ ∧ passed.length ≤ before.length := by
      intro skip hfound
      obtain ⟨before, after, htext, hfound, hlength⟩ := ih hfound
      rw [List.append_assoc, List.singleton_append] at htext
      rw [List.length_append] at hlength
      exact ⟨before, after, htext, hfound, by omega⟩
    rw [occurrences_cons] at h
    cases skip with
    | succ skip => exact hmore h
    | zero =>
      dsimp only at h
      split at h
      · rename_i hprefix
        rcases List.mem_cons.1 h with rfl | h
        · obtain ⟨after, hafter⟩ := List.isPrefixOf_iff_prefix.1 hprefix
          refine ⟨passed, after, by rw [hafter], ?_, Nat.le_refl _⟩
          rw [← hafter, List.drop_left]
        · exact hmore h
      · exact hmore h

/-- A marker that has a value is declared in the text. -/
theorem exists_mem_declarations_of_valueOf {name marker value : String}
    (h : valueOf text name marker = .ok value) :
    ∃ rest, rest ∈ declarations marker.toList text := by
  unfold valueOf at h
  split at h
  · cases h
  · rename_i rest hrest
    exact ⟨rest, hrest ▸ List.mem_singleton_self rest⟩
  · cases h

/-- A text passed that is no longer than `before` is a part of it, if both start the same text. -/
theorem exists_between {passed remaining before rest : List Char}
    (htext : passed ++ remaining = before ++ rest) (hlength : passed.length ≤ before.length) :
    ∃ between, before = passed ++ between ∧ remaining = between ++ rest := by
  rcases List.append_eq_append_iff.1 htext with h | ⟨extra, hpassed, hrest⟩
  · exact h
  · have hextra : extra = [] := by
      have hle := congrArg List.length hpassed
      rw [List.length_append] at hle
      exact List.length_eq_zero_iff.1 (by omega)
    subst hextra
    exact ⟨[], by rw [hpassed, List.append_nil, List.append_nil], hrest.symm⟩

/-- An occurrence of the marker ends where text ends whose last character no marker holds. -/
theorem length_le_of_prefix {between after rest : List Char} (hbetween : between ≠ [])
    (hlast : ∀ c ∈ between.getLast?, c ∉ marker) (htext : marker ++ after = between ++ rest) :
    marker.length ≤ between.length := by
  refine Nat.le_of_not_lt fun hlt => ?_
  obtain ⟨tail, htail, -⟩ := exists_between htext.symm (Nat.le_of_lt hlt)
  refine hlast _ (List.getLast?_eq_some_getLast hbetween) ?_
  rw [htail]
  exact List.mem_append_left _ (List.getLast_mem hbetween)

section Unique

variable {before after rest : List Char}
  (hdeclared : Occurrence.declared? ⟨before.getLast?, after⟩ = some rest)
  (hothers : ∀ before' after', text = before' ++ (marker ++ after') → before' ≠ before →
    Occurrence.declared? ⟨before'.getLast?, after'⟩ = none)

include hothers

/-- Behind the only declaration nothing more is found. -/
theorem filterMap_occurrences_eq_nil {passed remaining : List Char} {skip : Nat}
    (hpassed : before.length < passed.length) (htext : text = passed ++ remaining) :
    (occurrences marker passed.getLast? skip remaining).filterMap Occurrence.declared? = [] := by
  rw [List.filterMap_eq_nil_iff]
  intro found hfound
  obtain ⟨before', after', hsplit, rfl, hlength⟩ := exists_split_of_mem hfound
  have hne : before' ≠ before := by
    rintro rfl
    omega
  exact hothers before' after' (htext.trans hsplit) hne

include hdeclared

/-- Up to the only declaration, the search comes to it without having passed its start. -/
theorem filterMap_occurrences_eq_singleton (hmarker : marker ≠ [])
    (hstart : ∀ c ∈ before.getLast?, c ∉ marker) (hplace : text = before ++ (marker ++ after))
    {passed remaining : List Char} {skip : Nat} (hskip : passed.length + skip ≤ before.length)
    (htext : text = passed ++ remaining) :
    (occurrences marker passed.getLast? skip remaining).filterMap Occurrence.declared? =
      [rest] := by
  have hpos : 0 < marker.length := List.length_pos_iff.2 hmarker
  induction remaining generalizing passed skip with
  | nil =>
    have hlength := congrArg List.length (htext.symm.trans hplace)
    simp only [List.length_append, List.length_nil] at hlength
    omega
  | cons c remaining ih =>
    have htext' : text = (passed ++ [c]) ++ remaining := by
      rw [htext, List.append_assoc, List.singleton_append]
    have hlength : (passed ++ [c]).length = passed.length + 1 := by
      rw [List.length_append, List.length_singleton]
    obtain ⟨between, hbefore, hremaining⟩ :=
      exists_between (htext.symm.trans hplace) (Nat.le_trans (Nat.le_add_right _ _) hskip)
    rw [occurrences_cons]
    cases skip with
    | succ skip => exact ih (by omega) htext'
    | zero =>
      dsimp only
      by_cases hbetween : between = []
      · -- the search stands at the declaration
        subst hbetween
        rw [List.append_nil] at hbefore
        have hprefix : marker.isPrefixOf (c :: remaining) = true := by
          rw [List.isPrefixOf_iff_prefix, hremaining]
          exact ⟨after, rfl⟩
        have hdrop : (c :: remaining).drop marker.length = after := by
          rw [hremaining, List.nil_append, List.drop_left]
        have hnone := @filterMap_occurrences_eq_nil marker text before hothers (passed ++ [c])
          remaining (marker.length - 1) (by rw [hlength, hbefore]; omega) htext'
        rw [if_pos hprefix, hdrop, List.filterMap_cons, ← hbefore, hdeclared]
        dsimp only
        rw [hbefore, hnone]
      · have hbetweenPos : 0 < between.length := List.length_pos_iff.2 hbetween
        have hbeforeLength : before.length = passed.length + between.length := by
          rw [hbefore, List.length_append]
        split
        · rename_i hprefix
          obtain ⟨after', hafter'⟩ := List.isPrefixOf_iff_prefix.1 hprefix
          -- the character in front of the declaration is no part of the occurrence found here
          have hlast : ∀ d ∈ between.getLast?, d ∉ marker := by
            intro d hd
            refine hstart d ?_
            rw [hbefore, List.getLast?_append, hd]
            rfl
          have hclear : marker.length ≤ between.length :=
            length_le_of_prefix hbetween hlast (hafter'.trans hremaining)
          have hne : passed ≠ before := by
            intro hpassed
            rw [← hpassed] at hbeforeLength
            omega
          have hsplit : text = passed ++ (marker ++ after') := by rw [htext, hafter']
          have hskipped := @ih (passed ++ [c]) (marker.length - 1) (by omega) htext'
          have hdrop : (c :: remaining).drop marker.length = after' := by
            rw [← hafter', List.drop_left]
          rw [List.filterMap_cons, hdrop, hothers passed after' hsplit hne]
          exact hskipped
        · exact ih (by omega) htext'

/-- A marker that is declared at one place only is found there. -/
theorem declarations_eq_singleton (hmarker : marker ≠ [])
    (hstart : ∀ c ∈ before.getLast?, c ∉ marker) (hplace : text = before ++ (marker ++ after)) :
    declarations marker text = [rest] :=
  @filterMap_occurrences_eq_singleton marker text before after rest hdeclared hothers hmarker hstart
    hplace [] text 0 (Nat.zero_le _) rfl

end Unique

end StyleConstants.Readback
