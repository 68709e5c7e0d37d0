import StyleConstants.Proofs.Case.Styles

/-!
# There and back

A name in small letters, with hyphens between its words, becomes a constant and back. In capitals a
word falls apart at each letter behind a digit, since this is where `3D` would begin in `model3D`.
So the name comes back exactly if the digits of each word stand at its end.

* `words_map_toUpper_iff`: which words stay in one piece when they are written in capitals.
* `convert_constant`, `convert_param_constant`: the constant, and what becomes of it.
* `convert_constant_iff`: which names come back.
-/

namespace StyleConstants.CaseStyle

open Text Case

/-- A nonempty run of small ASCII letters and digits. -/
structure IsSmallWord (word : List Char) : Prop where
  ne_nil : word ≠ []
  small : ∀ c ∈ word, c.isLower = true ∨ c.isDigit = true

/-- Behind a digit there are only digits. -/
def DigitsLast (word : List Char) : Prop :=
  word.IsChain fun c next => c.isDigit = true → next.isDigit = true

/-- Words with hyphens between them. -/
def paramName (ws : List (List Char)) : String := String.ofList (join '-' ws)

variable {word : List Char} {ws : List (List Char)}

namespace IsSmallWord

theorem isWord (h : IsSmallWord word) : IsWord word := by
  refine ⟨h.ne_nil, fun c hc => ?_⟩
  rw [isAlphanum_iff]
  rcases h.small c hc with hlower | hdigit
  · exact .inr (.inr (isLower_iff.1 hlower))
  · exact .inl (isDigit_iff.1 hdigit)

theorem not_upper (h : IsSmallWord word) : ∀ c ∈ word, c.isUpper = false := by
  intro c hc
  have hsmall := h.small c hc
  rw [isLower_iff, isDigit_iff] at hsmall
  rw [Bool.eq_false_iff, ne_eq, isUpper_iff]
  omega

theorem map_toLower (h : IsSmallWord word) : word.map Char.toLower = word := by
  refine (List.map_congr_left fun c hc => ?_).trans (List.map_id word)
  exact Char.toLower_eq_of_not_isUpper (Bool.eq_false_iff.1 (h.not_upper c hc))

theorem hyphen_notMem (h : IsSmallWord word) : '-' ∉ word := by
  intro hmem
  have hhyphen := h.small '-' hmem
  simp at hhyphen

theorem words_eq (h : IsSmallWord word) : words word = [word] := by
  cases word with
  | nil => exact absurd rfl h.ne_nil
  | cons c rest =>
    exact (words_eq_singleton_iff h.isWord).2 (unbroken_of_not_upper h.isWord fun d hd =>
      h.not_upper d (List.mem_cons_of_mem c hd))

end IsSmallWord

/-! ## Words in capitals -/

/-- In capitals a word is divided before each letter behind a digit. -/
theorem startsWord_toUpper {c d : Char} (hc : c.isLower = true ∨ c.isDigit = true)
    (hd : d.isLower = true ∨ d.isDigit = true) {next : Option Char}
    (hnext : ∀ e ∈ next, e.toNat < 0x80 ∧ e.isLower = false) :
    startsWord .unicode (some c.toUpper) d.toUpper next = false ↔
      (c.isDigit = true → d.isDigit = true) := by
  rw [isLower_iff, isDigit_iff] at hc hd
  have hcascii : c.toUpper.toNat < 0x80 := toNat_toUpper_lt (by omega)
  have hdascii : d.toUpper.toNat < 0x80 := toNat_toUpper_lt (by omega)
  have halphanumeric : Unicode.isAlphanumeric c.toUpper = true := by
    rw [Unicode.isAlphanumeric_of_ascii hcascii, isAlphanum_toUpper, isAlphanum_iff]
    omega
  have hlower : Unicode.isLower c.toUpper = false := by
    rw [Unicode.isLower_of_ascii hcascii, Char.isLower_toUpper_eq_false]
  have hacronym : next.any Unicode.isLower = false := by
    rw [Option.any_eq_false]
    intro e he
    simp [Unicode.isLower_of_ascii (hnext e he).1, (hnext e he).2]
  have hdigit : c.toUpper.isDigit = true ↔ c.isDigit = true := by
    rw [isDigit_iff, isDigit_iff, toNat_toUpper]
    split <;> omega
  have hupper : d.toUpper.isUpper = true ↔ ¬ d.isDigit = true := by
    rw [isUpper_iff, isDigit_iff, toNat_toUpper]
    split <;> omega
  have hhump : startsWord .unicode (some c.toUpper) d.toUpper next =
      (c.toUpper.isDigit && d.toUpper.isUpper) := by
    simp [startsWord, isHump, isAcronymEnd, Alphabet.unicode, halphanumeric, hlower, hacronym,
      Unicode.isUpper_of_ascii hdascii]
  rw [hhump, ← Bool.not_eq_true, Bool.and_eq_true, hdigit, hupper, not_and, not_not]

theorem unbroken_map_toUpper_iff {c : Char} {rest : List Char} (h : IsSmallWord (c :: rest)) :
    Unbroken .unicode c.toUpper (rest.map Char.toUpper) ↔ DigitsLast (c :: rest) := by
  induction rest generalizing c with
  | nil => exact iff_of_true trivial (.singleton c)
  | cons d rest ih =>
    have hrest : IsSmallWord (d :: rest) :=
      ⟨List.cons_ne_nil d rest, fun e he => h.small e (List.mem_cons_of_mem c he)⟩
    have hnext : ∀ e ∈ (rest.map Char.toUpper).head?, e.toNat < 0x80 ∧ e.isLower = false := by
      intro e he
      obtain ⟨f, hf, rfl⟩ := List.mem_map.1 (List.mem_of_mem_head? he)
      exact ⟨toNat_toUpper_lt (hrest.isWord.ascii f (List.mem_cons_of_mem d hf)),
        Char.isLower_toUpper_eq_false f⟩
    have hstarts := startsWord_toUpper (h.small c List.mem_cons_self)
      (hrest.small d List.mem_cons_self) hnext
    rw [List.map_cons, Unbroken, hstarts, ih hrest, DigitsLast, DigitsLast, List.isChain_cons_cons]

/-- Which words stay in one piece when they are written in capitals. -/
theorem words_map_toUpper_iff (h : IsSmallWord word) :
    words (word.map Char.toUpper) = [word.map Char.toUpper] ↔ DigitsLast word := by
  cases word with
  | nil => exact absurd rfl h.ne_nil
  | cons c rest =>
    have hupper : IsWord ((c :: rest).map Char.toUpper) := by
      rw [← Unicode.uppercase_of_ascii h.isWord.ascii]
      exact isForm_uppercase.isWord h.isWord
    rw [List.map_cons] at hupper ⊢
    rw [words_eq_singleton_iff hupper, unbroken_map_toUpper_iff h]

/-! ## Words taken apart -/

/-- The words that a word written in capitals is divided into, in small letters again. -/
def pieces (word : List Char) : List (List Char) :=
  (words (word.map Char.toUpper)).map (·.map Char.toLower)

theorem map_toLower_map_toUpper (h : IsSmallWord word) :
    (word.map Char.toUpper).map Char.toLower = word := by
  have hlower := h.map_toLower
  simp only [List.map_map, Function.comp_def, Char.toLower_toUpper_eq_toLower]
  exact hlower

theorem flatten_words_map_toUpper (h : IsSmallWord word) :
    (words (word.map Char.toUpper)).flatten = word.map Char.toUpper := by
  rw [words, flatten_wordsBy, List.filter_eq_self]
  intro c hc
  obtain ⟨d, hd, rfl⟩ := List.mem_map.1 hc
  refine isAlphanumeric_of_isAlphanum ?_
  rw [isAlphanum_toUpper]
  exact h.isWord.alphanumeric d hd

theorem flatten_pieces (h : IsSmallWord word) : (pieces word).flatten = word := by
  rw [pieces, ← List.map_flatten, flatten_words_map_toUpper h, map_toLower_map_toUpper h]

theorem ne_nil_of_mem_pieces {piece : List Char} (h : piece ∈ pieces word) : piece ≠ [] := by
  obtain ⟨upper, hupper, rfl⟩ := List.mem_map.1 h
  exact mt List.map_eq_nil_iff.1 (ne_nil_of_mem_wordsBy .unicode hupper)

theorem pieces_eq_singleton_iff (h : IsSmallWord word) :
    pieces word = [word] ↔ DigitsLast word := by
  rw [← words_map_toUpper_iff h]
  constructor
  · intro hpieces
    -- there is one piece only, and the pieces together are the word
    obtain ⟨only, hwords, -⟩ := List.map_eq_singleton_iff.1 hpieces
    have hflatten := flatten_words_map_toUpper h
    rw [hwords, List.flatten_singleton] at hflatten
    rw [hwords, hflatten]
  · intro hwords
    rw [pieces, hwords, List.map_singleton, map_toLower_map_toUpper h]

/-- Words of which each is taken apart stay the same list only if none falls apart. -/
theorem flatMap_pieces_eq_self_iff (hsmall : ∀ word ∈ ws, IsSmallWord word) :
    ws.flatMap pieces = ws ↔ ∀ word ∈ ws, pieces word = [word] := by
  induction ws with
  | nil => simp
  | cons word ws ih =>
    have hword := hsmall word List.mem_cons_self
    have hflatten := flatten_pieces hword
    rw [List.flatMap_cons, List.forall_mem_cons,
      ← ih fun next hnext => hsmall next (List.mem_cons_of_mem word hnext)]
    constructor
    · intro heq
      cases hpieces : pieces word with
      | nil =>
        rw [hpieces] at hflatten
        exact absurd hflatten.symm hword.ne_nil
      | cons first others =>
        rw [hpieces, List.cons_append, List.cons.injEq] at heq
        obtain ⟨rfl, hrest⟩ := heq
        rw [hpieces, List.flatten_cons, List.append_right_eq_self, List.flatten_eq_nil_iff]
          at hflatten
        have hothers : others = [] := by
          refine List.eq_nil_iff_forall_not_mem.2 fun piece hpiece => ?_
          exact ne_nil_of_mem_pieces (hpieces ▸ List.mem_cons_of_mem first hpiece)
            (hflatten piece hpiece)
        rw [hothers, List.nil_append] at hrest
        exact ⟨by rw [hothers], hrest⟩
    · rintro ⟨hpieces, hrest⟩
      rw [hpieces, hrest, List.singleton_append]

/-! ## Names -/

theorem isSeparator_hyphen : IsSeparator .unicode '-' :=
  isSeparator_of_ascii (by decide) (by decide)

theorem isSeparator_underscore : IsSeparator .unicode '_' :=
  isSeparator_of_ascii (by decide) (by decide)

theorem words_paramName (hsmall : ∀ word ∈ ws, IsSmallWord word) :
    words (paramName ws).toList = ws := by
  have hwords : ws.flatMap words = ws.map id := by
    rw [List.map_eq_flatMap]
    exact List.flatMap_congr fun word hword => (hsmall word hword).words_eq
  rw [paramName, String.toList_ofList, words, wordsBy_join isSeparator_hyphen]
  exact hwords.trans (List.map_id ws)

theorem convert_of_layout? {style : CaseStyle} {form : List Char → List Char} {s : Char}
    (h : style.layout? = some ⟨form, form, [s]⟩) (name : String) :
    style.convert name = String.ofList (join s ((words name.toList).map form)) := by
  rw [convert, convertText_of_layout? h, Layout.write_eq_join rfl]
  cases words name.toList <;> rfl

theorem convert_constant (hsmall : ∀ word ∈ ws, IsSmallWord word) :
    constant.convert (paramName ws) = String.ofList (join '_' (ws.map (·.map Char.toUpper))) := by
  have hupper : ws.map Unicode.uppercase = ws.map (·.map Char.toUpper) :=
    List.map_congr_left fun word hword =>
      Unicode.uppercase_of_ascii (hsmall word hword).isWord.ascii
  rw [convert_of_layout? rfl, words_paramName hsmall, hupper]

theorem ascii_of_mem_words_map_toUpper {upper : List Char} (h : IsSmallWord word)
    (hupper : upper ∈ words (word.map Char.toUpper)) : ∀ c ∈ upper, c.toNat < 0x80 := by
  refine (isWord_of_mem_words (fun c hc => ?_) hupper).ascii
  obtain ⟨d, hd, rfl⟩ := List.mem_map.1 hc
  exact toNat_toUpper_lt (h.isWord.ascii d hd)

/-- What becomes of a name by way of its constant. -/
theorem convert_param_constant (hsmall : ∀ word ∈ ws, IsSmallWord word) :
    param.convert (constant.convert (paramName ws)) = paramName (ws.flatMap pieces) := by
  have hpieces : (ws.flatMap fun word => words (word.map Char.toUpper)).map Unicode.lowercase =
      ws.flatMap pieces := by
    rw [List.map_flatMap]
    refine List.flatMap_congr fun word hword => List.map_congr_left fun upper hupper => ?_
    exact Unicode.lowercase_of_ascii (ascii_of_mem_words_map_toUpper (hsmall word hword) hupper)
  rw [convert_constant hsmall, convert_of_layout? rfl, String.toList_ofList, words,
    wordsBy_join isSeparator_underscore, List.flatMap_map]
  exact congrArg paramName hpieces

theorem hyphen_notMem_pieces (h : IsSmallWord word) {piece : List Char}
    (hpiece : piece ∈ pieces word) : '-' ∉ piece := by
  intro hmem
  have hword : '-' ∈ word := flatten_pieces h ▸ List.mem_flatten.2 ⟨piece, hpiece, hmem⟩
  exact h.hyphen_notMem hword

theorem paramName_inj {others : List (List Char)} (hne : ws ≠ []) (hothers : others ≠ [])
    (hws : ∀ word ∈ ws, '-' ∉ word) (hfree : ∀ word ∈ others, '-' ∉ word) :
    paramName ws = paramName others ↔ ws = others := by
  constructor
  · intro h
    rw [← split_join '-' hne hws, String.ofList_injective h, split_join '-' hothers hfree]
  · rintro rfl
    rfl

/-- A name with hyphens between its words is what becomes of its constant exactly if the digits of
each word stand at its end. -/
theorem convert_constant_iff (hne : ws ≠ []) (hsmall : ∀ word ∈ ws, IsSmallWord word) :
    param.convert (constant.convert (paramName ws)) = paramName ws ↔
      ∀ word ∈ ws, DigitsLast word := by
  have hpieces : ws.flatMap pieces ≠ [] := by
    obtain ⟨word, hword⟩ := List.exists_mem_of_ne_nil ws hne
    intro hnil
    have hflatten := flatten_pieces (hsmall word hword)
    rw [List.flatMap_eq_nil_iff.1 hnil word hword] at hflatten
    exact (hsmall word hword).ne_nil hflatten.symm
  have hfree : ∀ piece ∈ ws.flatMap pieces, '-' ∉ piece := by
    intro piece hpiece
    obtain ⟨word, hword, hmem⟩ := List.mem_flatMap.1 hpiece
    exact hyphen_notMem_pieces (hsmall word hword) hmem
  rw [convert_param_constant hsmall, paramName_inj hpieces hne hfree fun word hword =>
    (hsmall word hword).hyphen_notMem, flatMap_pieces_eq_self_iff hsmall]
  exact forall₂_congr fun word hword => pieces_eq_singleton_iff (hsmall word hword)

end StyleConstants.CaseStyle
