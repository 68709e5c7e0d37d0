import StyleConstants.Proofs.Case.Words

/-!
# Where one word ends and the next begins

The words of a text hold its letters and digits, so they are told by the places at which one word
ends. Such a place lies between two letters or digits that follow each other, and depends on no more
than what stands between them in the text, on the two themselves, and on the one character behind.

* `wordIndex`: which word holds the `n`-th of all characters.
* `wordIndex_gather_iff`: a character stands in another word than the one in front of it exactly if
  it is marked.
* `words_divide_text`: the words of a text, for any classes of characters.
-/

namespace StyleConstants.Case

variable {alphabet : Alphabet}

/-- The number of the word, counted from 0, that holds the `n`-th character of all words. -/
def wordIndex : List (List Char) → Nat → Nat
  | [], _ => 0
  | word :: others, n => if n < word.length then 0 else wordIndex others (n - word.length) + 1

/-! ## Attached characters -/

theorem wordIndex_attach_zero (c : Char) (joined : Bool) (words : List (List Char)) :
    wordIndex (attach c joined words) 0 = 0 := by
  cases words with
  | nil => rfl
  | cons word others => cases joined <;> rfl

/-- A character in front of words moves what they hold one place on; if it is not joined to them, it
is a word more. -/
theorem wordIndex_attach_succ (c : Char) (joined : Bool) {words : List (List Char)}
    (hne : words ≠ []) (n : Nat) : wordIndex (attach c joined words) (n + 1) =
      wordIndex words n + (if joined then 0 else 1) := by
  obtain ⟨word, others, rfl⟩ := List.exists_cons_of_ne_nil hne
  cases joined with
  | true =>
    rw [attach, if_pos rfl, wordIndex, wordIndex, List.length_cons, Nat.add_sub_add_right]
    simp only [Nat.add_lt_add_iff_right, if_true, Nat.add_zero]
  | false =>
    rw [attach, if_neg Bool.false_ne_true, wordIndex, if_neg (by simp), if_neg Bool.false_ne_true]
    rfl

/-- Among marked characters, one stands in another word than the one in front of it exactly if its
mark says that it starts a word. -/
theorem wordIndex_gather_iff (front : List (Bool × Char)) (previous mark : Bool × Char)
    (back : List (Bool × Char)) :
    wordIndex (gather (front ++ previous :: mark :: back)) front.length ≠
        wordIndex (gather (front ++ previous :: mark :: back)) (front.length + 1) ↔
      mark.1 = true := by
  induction front with
  | nil =>
    obtain ⟨starts, c⟩ := mark
    have hne : gather ((starts, c) :: back) ≠ [] := gather_ne_nil (List.cons_ne_nil _ _)
    have hfirst : wordIndex (gather ((starts, c) :: back)) 0 = 0 := wordIndex_attach_zero _ _ _
    rw [List.nil_append, List.length_nil, gather, wordIndex_attach_zero,
      wordIndex_attach_succ _ _ hne, hfirst]
    cases starts <;> simp
  | cons first front ih =>
    have hne : gather (front ++ previous :: mark :: back) ≠ [] := gather_ne_nil (by simp)
    rw [List.cons_append, List.length_cons, gather, wordIndex_attach_succ _ _ hne,
      wordIndex_attach_succ _ _ hne, ne_eq, Nat.add_right_cancel_iff]
    exact ih

/-! ## Marks -/

/-- Characters between words leave no mark; the next one knows the last of them. -/
theorem marked_gap {gap : List Char} (hgap : ∀ c ∈ gap, alphabet.isAlphanumeric c = false)
    (previous : Char) (rest : List Char) :
    marked alphabet (some previous) (gap ++ rest) =
      marked alphabet (some (gap.getLastD previous)) rest := by
  induction gap generalizing previous with
  | nil => rfl
  | cons c gap ih =>
    have hc := hgap c List.mem_cons_self
    rw [List.cons_append, marked, if_neg (by rw [hc]; decide),
      ih fun d hd => hgap d (List.mem_cons_of_mem c hd), List.getLastD_cons]

/-- The marks of a text around two characters that follow each other among its letters and
digits. -/
theorem exists_marked_eq {a b : Char} {gap : List Char} (ha : alphabet.isAlphanumeric a = true)
    (hb : alphabet.isAlphanumeric b = true)
    (hgap : ∀ c ∈ gap, alphabet.isAlphanumeric c = false) (before after : List Char)
    (previous : Option Char) :
    ∃ front mark back, marked alphabet previous (before ++ a :: (gap ++ b :: after)) =
        front ++ mark :: (startsWord alphabet (some (gap.getLastD a)) b after.head?, b) :: back ∧
      front.length = before.countP alphabet.isAlphanumeric := by
  induction before generalizing previous with
  | nil =>
    refine ⟨[], (startsWord alphabet previous a (gap ++ b :: after).head?, a),
      marked alphabet (some b) after, ?_, rfl⟩
    rw [List.nil_append, marked, if_pos ha, marked_gap hgap, marked, if_pos hb]
    rfl
  | cons c before ih =>
    obtain ⟨front, mark, back, hmarks, hlength⟩ := ih (some c)
    rw [List.cons_append, marked, hmarks]
    by_cases hc : alphabet.isAlphanumeric c = true
    · rw [if_pos hc]
      refine ⟨_ :: front, mark, back, rfl, ?_⟩
      rw [List.length_cons, hlength, List.countP_cons_of_pos hc]
    · rw [if_neg hc]
      refine ⟨front, mark, back, rfl, ?_⟩
      rw [hlength, List.countP_cons_of_neg hc]

/-- When a character starts a word, by what stands between it and the one in front of it. -/
theorem startsWord_gap_iff {a b : Char} {gap : List Char} (ha : alphabet.isAlphanumeric a = true)
    (hgap : ∀ c ∈ gap, alphabet.isAlphanumeric c = false) (next : Option Char) :
    startsWord alphabet (some (gap.getLastD a)) b next = true ↔
      gap ≠ [] ∨
      (gap = [] ∧ (alphabet.isLower a = true ∨ a.isDigit = true) ∧ alphabet.isUpper b = true) ∨
      (gap = [] ∧ alphabet.isUpper a = true ∧ alphabet.isUpper b = true ∧
        ∃ c ∈ next, alphabet.isLower c = true) := by
  by_cases hnil : gap = []
  · subst hnil
    have hadjacent : startsWord alphabet (some a) b next =
        (isHump alphabet a b || isAcronymEnd alphabet a b next) := by
      rw [startsWord, ha, Bool.not_true, Bool.false_or]
    rw [List.getLastD_nil, hadjacent, isHump, isAcronymEnd]
    simp [and_assoc, Option.any_eq_true]
  · have hlast : gap.getLastD a ∈ gap := by
      rw [List.getLastD_eq_getLast?, List.getLast?_eq_some_getLast hnil]
      exact List.getLast_mem hnil
    have hstarts : startsWord alphabet (some (gap.getLastD a)) b next = true :=
      startsWord_eq_true (fun p hp => Option.some.inj hp ▸ hgap _ hlast) b next
    exact iff_of_true hstarts (.inl hnil)

/-! ## Words -/

/-- **The words of a text.** They hold its letters and digits in order, none is empty, and of two
letters or digits that follow each other the second starts a word exactly if other characters stand
between them, or if it is a capital behind a small letter or an ASCII digit, or a capital behind a
capital and in front of a small letter. -/
theorem words_divide_text (alphabet : Alphabet) (text : List Char) :
    (wordsBy alphabet text).flatten = text.filter alphabet.isAlphanumeric ∧
    (∀ word ∈ wordsBy alphabet text, word ≠ []) ∧
    ∀ (before gap after : List Char) (a b : Char), text = before ++ a :: (gap ++ b :: after) →
      alphabet.isAlphanumeric a = true → alphabet.isAlphanumeric b = true →
      (∀ c ∈ gap, alphabet.isAlphanumeric c = false) →
      (wordIndex (wordsBy alphabet text) (before.countP alphabet.isAlphanumeric) ≠
          wordIndex (wordsBy alphabet text) (before.countP alphabet.isAlphanumeric + 1) ↔
        gap ≠ [] ∨
        (gap = [] ∧ (alphabet.isLower a = true ∨ a.isDigit = true) ∧ alphabet.isUpper b = true) ∨
        (gap = [] ∧ alphabet.isUpper a = true ∧ alphabet.isUpper b = true ∧
          ∃ c ∈ after.head?, alphabet.isLower c = true)) := by
  refine ⟨flatten_wordsBy alphabet text, fun _ => ne_nil_of_mem_wordsBy alphabet, ?boundaries⟩
  case boundaries =>
    rintro before gap after a b rfl ha hb hgap
    obtain ⟨front, mark, back, hmarks, hlength⟩ := exists_marked_eq ha hb hgap before after none
    rw [wordsBy, hmarks, ← hlength, wordIndex_gather_iff]
    exact startsWord_gap_iff ha hgap after.head?

/-- The last capital of a run starts a word if a small letter follows. -/
theorem words_divide_text_acronym :
    (∀ c ∈ ([] : List Char), Alphabet.unicode.isAlphanumeric c = false) ∧
    wordsBy .unicode "anHTMLPage".toList = ["an".toList, "HTML".toList, "Page".toList] ∧
    wordIndex (wordsBy .unicode "anHTMLPage".toList) 5 ≠
      wordIndex (wordsBy .unicode "anHTMLPage".toList) 6 := by
  have hgap : ∀ c ∈ ([] : List Char), Alphabet.unicode.isAlphanumeric c = false :=
    fun c hc => nomatch hc
  have hboundary := (words_divide_text .unicode "anHTMLPage".toList).2.2 "anHTM".toList []
    "age".toList 'L' 'P' (by decide) (by decide) (by decide) hgap
  have hcount : "anHTM".toList.countP Alphabet.unicode.isAlphanumeric = 5 := by decide
  rw [hcount] at hboundary
  exact ⟨hgap, by decide,
    hboundary.2 (.inr (.inr ⟨rfl, by decide, by decide, 'a', rfl, by decide⟩))⟩

end StyleConstants.Case
