import StyleConstants.Case.Words
import StyleConstants.Text.Split

/-!
# Words between separators

A separator cuts a text: the words in front of it and those behind it do not depend on each other.
What is left to say is when a text without separators is a single word.

* `wordsBy_append_separator`, `wordsBy_join`: the words of a text made of parts are those of the
  parts.
* `wordsBy_eq_singleton_iff`: a run of letters and digits is one word exactly if none of them
  starts one after the first.
-/

namespace StyleConstants.Case

variable {alphabet : Alphabet}

/-- The character stands between words, and is no small letter, so that it does not end a run of
capitals in front of it. -/
structure IsSeparator (alphabet : Alphabet) (c : Char) : Prop where
  not_alphanumeric : alphabet.isAlphanumeric c = false
  not_lower : alphabet.isLower c = false

/-! ## Separators -/

theorem startsWord_eq_true {previous : Option Char}
    (h : ∀ p ∈ previous, alphabet.isAlphanumeric p = false) (c : Char) (next : Option Char) :
    startsWord alphabet previous c next = true := by
  cases previous with
  | none => rfl
  | some p => rw [startsWord, h p rfl, Bool.not_false, Bool.true_or, Bool.true_or]

/-- A separator in the place of the end of the text makes no difference to what is in front. -/
theorem startsWord_separator {s : Char} (hs : IsSeparator alphabet s) (previous : Option Char)
    (c : Char) : startsWord alphabet previous c (some s) = startsWord alphabet previous c none := by
  cases previous with
  | none => rfl
  | some p => rw [startsWord, startsWord, isAcronymEnd, isAcronymEnd, Option.any_some, hs.not_lower,
      Option.any_none]

theorem marked_append_separator {s : Char} (hs : IsSeparator alphabet s) (previous : Option Char)
    (text rest : List Char) : marked alphabet previous (text ++ s :: rest) =
      marked alphabet previous text ++ marked alphabet (some s) rest := by
  induction text generalizing previous with
  | nil => simp [marked, hs.not_alphanumeric]
  | cons c text ih =>
    have hstarts : startsWord alphabet previous c (text ++ s :: rest).head? =
        startsWord alphabet previous c text.head? := by
      cases text with
      | nil => exact startsWord_separator hs previous c
      | cons d text => rfl
    rw [List.cons_append, marked, marked, hstarts, ih]
    split <;> rfl

/-- Behind a separator a text is read as if it started there. -/
theorem marked_separator {s : Char} (hs : IsSeparator alphabet s) (text : List Char) :
    marked alphabet (some s) text = marked alphabet none text := by
  cases text with
  | nil => rfl
  | cons c text =>
    rw [marked, marked, startsWord_eq_true fun p hp => Option.some.inj hp ▸ hs.not_alphanumeric]
    rfl

/-- The first letter or digit of a text starts a word. -/
theorem fst_head_marked {previous : Option Char}
    (h : ∀ p ∈ previous, alphabet.isAlphanumeric p = false) (text : List Char) :
    ∀ mark ∈ (marked alphabet previous text).head?, mark.1 = true := by
  induction text generalizing previous with
  | nil => exact fun mark hmark => nomatch hmark
  | cons c text ih =>
    rw [marked]
    split
    · intro mark hmark
      rw [← Option.some.inj hmark]
      exact startsWord_eq_true h c _
    · rename_i hc
      exact ih fun p hp => Option.some.inj hp ▸ Bool.eq_false_iff.2 hc

theorem gather_ne_nil {marks : List (Bool × Char)} (h : marks ≠ []) : gather marks ≠ [] := by
  intro hnil
  have hflatten := flatten_gather marks
  rw [hnil] at hflatten
  exact h (List.map_eq_nil_iff.1 hflatten.symm)

/-- Characters are gathered apart from those that follow if the next one starts a word. -/
theorem gather_append (marks : List (Bool × Char)) {later : List (Bool × Char)}
    (h : ∀ mark ∈ later.head?, mark.1 = true) :
    gather (marks ++ later) = gather marks ++ gather later := by
  induction marks with
  | nil => rfl
  | cons mark marks ih =>
    rw [List.cons_append, gather, gather, ih]
    cases marks with
    | nil =>
      have hapart : later.head?.any (!·.1) = false := by
        cases later with
        | nil => rfl
        | cons mark later => rw [List.head?_cons, Option.any_some, h mark rfl, Bool.not_true]
      rw [List.nil_append, hapart]
      cases gather later <;> rfl
    | cons next marks =>
      obtain ⟨word, others, hwords⟩ := List.exists_cons_of_ne_nil
        (gather_ne_nil (List.cons_ne_nil next marks))
      rw [hwords, List.cons_append, List.head?_cons, List.cons_append, List.head?_cons, attach,
        attach]
      split <;> rfl

theorem wordsBy_append_separator {s : Char} (hs : IsSeparator alphabet s) (text rest : List Char) :
    wordsBy alphabet (text ++ s :: rest) = wordsBy alphabet text ++ wordsBy alphabet rest := by
  rw [wordsBy, marked_append_separator hs, marked_separator hs, gather_append]
  · rfl
  · exact fst_head_marked (by simp) rest

/-- The words of parts with separators between them are the words of the parts. -/
theorem wordsBy_join {s : Char} (hs : IsSeparator alphabet s) (parts : List (List Char)) :
    wordsBy alphabet (Text.join s parts) = parts.flatMap (wordsBy alphabet) := by
  induction parts with
  | nil => rfl
  | cons part parts ih =>
    cases parts with
    | nil => rw [Text.join, List.flatMap_cons, List.flatMap_nil, List.append_nil]
    | cons next parts =>
      rw [Text.join, wordsBy_append_separator hs, ih, ← List.flatMap_cons]

/-! ## Single words -/

/-- Behind `previous` no character starts a word. -/
def Unbroken (alphabet : Alphabet) (previous : Char) : List Char → Prop
  | [] => True
  | c :: rest =>
    startsWord alphabet (some previous) c rest.head? = false ∧ Unbroken alphabet c rest

theorem wordsBy_cons_eq (alphabet : Alphabet) {c : Char} (hc : alphabet.isAlphanumeric c = true)
    (rest : List Char) :
    wordsBy alphabet (c :: rest) = gather ((true, c) :: marked alphabet (some c) rest) := by
  rw [wordsBy, marked, if_pos hc]
  rfl

theorem gather_eq_singleton_iff {c : Char} {rest : List Char}
    (h : ∀ d ∈ rest, alphabet.isAlphanumeric d = true) (starts : Bool) :
    gather ((starts, c) :: marked alphabet (some c) rest) = [c :: rest] ↔
      Unbroken alphabet c rest := by
  induction rest generalizing c starts with
  | nil => exact iff_of_true rfl trivial
  | cons d rest ih =>
    have hd := h d List.mem_cons_self
    have hih := ih (fun e he => h e (List.mem_cons_of_mem d he))
      (startsWord alphabet (some c) d rest.head?) (c := d)
    obtain ⟨word, others, hwords⟩ := List.exists_cons_of_ne_nil
      (gather_ne_nil (List.cons_ne_nil (startsWord alphabet (some c) d rest.head?, d)
        (marked alphabet (some d) rest)))
    rw [marked, if_pos hd, gather, List.head?_cons, Option.any_some, Unbroken, ← hih, hwords,
      attach]
    cases startsWord alphabet (some c) d rest.head? with
    | true => simp
    | false => simp

/-- A run of letters and digits is one word if none of them starts one after the first. -/
theorem wordsBy_eq_singleton_iff {c : Char} {rest : List Char}
    (h : ∀ d ∈ c :: rest, alphabet.isAlphanumeric d = true) :
    wordsBy alphabet (c :: rest) = [c :: rest] ↔ Unbroken alphabet c rest := by
  rw [wordsBy_cons_eq alphabet (h c List.mem_cons_self)]
  exact gather_eq_singleton_iff (fun d hd => h d (List.mem_cons_of_mem c hd)) true

end StyleConstants.Case
