import Mathlib
import StyleConstants.Case.Style
import StyleConstants.Proofs.Case.Words
import StyleConstants.Proofs.Text.Letters

/-!
# What separators keep

A style writes each word in a form of its own. The forms change the case of letters only and do not
look at it, so one form of another is the form of the word. A style that puts a separator between
words, and a capital nowhere but at the front of one, can be taken apart again: the words of what it
writes are the forms of the words it was given.

* `IsForm.comp`: of two forms the last one counts.
* `words_write`: the words of what a separating style writes.
* `convert_convert`: converting to a separating style first makes no difference.
-/

namespace StyleConstants.CaseStyle

open Text Case

/-- A nonempty run of ASCII letters and digits. -/
structure IsWord (word : List Char) : Prop where
  ne_nil : word ≠ []
  alphanumeric : ∀ c ∈ word, c.isAlphanum = true

theorem IsWord.ascii {word : List Char} (h : IsWord word) : ∀ c ∈ word, c.toNat < 0x80 :=
  fun c hc => toNat_lt_of_isAlphanum (h.alphanumeric c hc)

theorem isAlphanumeric_of_isAlphanum {c : Char} (h : c.isAlphanum = true) :
    Unicode.isAlphanumeric c = true := by
  rw [Unicode.isAlphanumeric_of_ascii (toNat_lt_of_isAlphanum h), h]

/-- The words of an ASCII text are ASCII. -/
theorem isWord_of_mem_words {text : List Char} (h : ∀ c ∈ text, c.toNat < 0x80)
    {word : List Char} (hword : word ∈ words text) : IsWord word := by
  refine ⟨ne_nil_of_mem_wordsBy .unicode hword, fun c hc => ?_⟩
  have hflat : c ∈ (words text).flatten := List.mem_flatten.2 ⟨word, hword, hc⟩
  rw [words, flatten_wordsBy, List.mem_filter] at hflat
  rw [← Unicode.isAlphanumeric_of_ascii (h c hflat.1)]
  exact hflat.2

/-! ## Forms -/

/-- A form of words: it changes the case of letters only, and does not look at it. -/
structure IsForm (form : List Char → List Char) : Prop where
  map_toLower {word : List Char} : IsWord word →
    (form word).map Char.toLower = word.map Char.toLower
  congr {word other : List Char} : IsWord word → IsWord other →
    word.map Char.toLower = other.map Char.toLower → form word = form other

variable {form other : List Char → List Char} {word : List Char}

theorem IsForm.isWord (h : IsForm form) (hword : IsWord word) : IsWord (form word) := by
  have heq := h.map_toLower hword
  constructor
  · intro hnil
    rw [hnil, List.map_nil, eq_comm, List.map_eq_nil_iff] at heq
    exact hword.ne_nil heq
  · intro c hc
    have hlower : c.toLower ∈ word.map Char.toLower := heq ▸ List.mem_map_of_mem hc
    obtain ⟨d, hd, hdc⟩ := List.mem_map.1 hlower
    rw [← isAlphanum_toLower, ← hdc, isAlphanum_toLower]
    exact hword.alphanumeric d hd

/-- Of two forms the last one counts. -/
theorem IsForm.comp (h : IsForm form) (hother : IsForm other) (hword : IsWord word) :
    form (other word) = form word :=
  h.congr (hother.isWord hword) hword (hother.map_toLower hword)

theorem isForm_lowercase : IsForm Unicode.lowercase where
  map_toLower hword := by
    simp [Unicode.lowercase_of_ascii hword.ascii]
  congr hword hother heq := by
    rw [Unicode.lowercase_of_ascii hword.ascii, Unicode.lowercase_of_ascii hother.ascii, heq]

theorem map_toUpper_eq (text : List Char) :
    text.map Char.toUpper = (text.map Char.toLower).map Char.toUpper := by
  simp

theorem isForm_uppercase : IsForm Unicode.uppercase where
  map_toLower hword := by
    simp [Unicode.uppercase_of_ascii hword.ascii]
  congr {word other} hword hother heq := by
    rw [Unicode.uppercase_of_ascii hword.ascii, Unicode.uppercase_of_ascii hother.ascii,
      map_toUpper_eq word, map_toUpper_eq other, heq]

theorem capitalize_of_ascii {c : Char} {rest : List Char} (h : ∀ d ∈ c :: rest, d.toNat < 0x80) :
    capitalize (c :: rest) = c.toUpper :: rest.map Char.toLower := by
  have hrest : rest.flatMap Unicode.lowerChar = rest.map Char.toLower := by
    rw [List.map_eq_flatMap]
    exact List.flatMap_congr fun d hd =>
      Unicode.lowerChar_of_ascii (h d (List.mem_cons_of_mem c hd))
  rw [capitalize, Unicode.upperChar_of_ascii (h c List.mem_cons_self), hrest, List.singleton_append]

theorem isForm_capitalize : IsForm capitalize where
  map_toLower {word} hword := by
    cases word with
    | nil => rfl
    | cons c rest => simp [capitalize_of_ascii hword.ascii]
  congr {word other} hword hother heq := by
    cases word with
    | nil => exact absurd rfl hword.ne_nil
    | cons c rest =>
      cases other with
      | nil => exact absurd rfl hother.ne_nil
      | cons d others =>
        obtain ⟨hc, hrest⟩ := List.cons.inj heq
        rw [capitalize_of_ascii hword.ascii, capitalize_of_ascii hother.ascii,
          ← Char.toUpper_toLower_eq_toUpper c, ← Char.toUpper_toLower_eq_toUpper d, hc, hrest]

/-! ## Forms that stay in one piece -/

/-- Without a capital behind its first character a word is not divided. -/
theorem unbroken_of_not_upper {c : Char} {rest : List Char} (hword : IsWord (c :: rest))
    (h : ∀ d ∈ rest, d.isUpper = false) : Unbroken .unicode c rest := by
  induction rest generalizing c with
  | nil => trivial
  | cons d rest ih =>
    have hd : IsWord (d :: rest) :=
      ⟨List.cons_ne_nil d rest, fun e he => hword.alphanumeric e (List.mem_cons_of_mem c he)⟩
    have hc : Alphabet.unicode.isAlphanumeric c = true :=
      isAlphanumeric_of_isAlphanum (hword.alphanumeric c List.mem_cons_self)
    have hupper : Alphabet.unicode.isUpper d = false :=
      (Unicode.isUpper_of_ascii (hd.ascii d List.mem_cons_self)).trans (h d List.mem_cons_self)
    refine ⟨?_, ih hd fun e he => h e (List.mem_cons_of_mem d he)⟩
    simp [startsWord, isHump, isAcronymEnd, hc, hupper]

theorem words_eq_singleton_iff {c : Char} {rest : List Char} (hword : IsWord (c :: rest)) :
    words (c :: rest) = [c :: rest] ↔ Unbroken .unicode c rest :=
  wordsBy_eq_singleton_iff fun d hd => isAlphanumeric_of_isAlphanum (hword.alphanumeric d hd)

/-- A form that has capitals at the front of a word only. -/
structure IsSolid (form : List Char → List Char) : Prop extends IsForm form where
  not_upper {word : List Char} : IsWord word → ∀ c ∈ (form word).tail, c.isUpper = false

theorem IsSolid.words (h : IsSolid form) (hword : IsWord word) :
    Case.words (form word) = [form word] := by
  have hform := h.isWord hword
  have hupper := h.not_upper hword
  cases heq : form word with
  | nil => exact absurd heq hform.ne_nil
  | cons c rest =>
    rw [heq] at hform hupper
    exact (words_eq_singleton_iff hform).2 (unbroken_of_not_upper hform hupper)

theorem isUpper_of_mem_map_toLower {text : List Char} {c : Char}
    (h : c ∈ text.map Char.toLower) : c.isUpper = false := by
  obtain ⟨d, -, rfl⟩ := List.mem_map.1 h
  exact Char.isUpper_toLower_eq_false d

theorem isSolid_lowercase : IsSolid Unicode.lowercase where
  toIsForm := isForm_lowercase
  not_upper hword c hc := by
    rw [Unicode.lowercase_of_ascii hword.ascii] at hc
    exact isUpper_of_mem_map_toLower (List.mem_of_mem_tail hc)

theorem isSolid_capitalize : IsSolid capitalize where
  toIsForm := isForm_capitalize
  not_upper {word} hword c hc := by
    cases word with
    | nil => exact absurd rfl hword.ne_nil
    | cons d rest =>
      rw [capitalize_of_ascii hword.ascii, List.tail_cons] at hc
      exact isUpper_of_mem_map_toLower hc

/-! ## Layouts -/

/-- The words in the forms of the layout. -/
def Layout.forms (layout : Layout) : List (List Char) → List (List Char)
  | [] => []
  | word :: rest => layout.first word :: rest.map layout.others

theorem Layout.write_eq_join {layout : Layout} {s : Char} (h : layout.separator = [s])
    (ws : List (List Char)) : layout.write ws = join s (layout.forms ws) := by
  cases ws with
  | nil => rfl
  | cons word rest =>
    rw [write, forms, h]
    generalize layout.first word = first
    induction rest generalizing first with
    | nil => simp [join]
    | cons next rest ih => simp [join, ← ih (layout.others next)]

/-- Both forms of the layout are forms of words. -/
structure Layout.Spells (layout : Layout) : Prop where
  first : IsForm layout.first
  others : IsForm layout.others

/-- The layout puts a separator between words that stay in one piece. -/
structure Layout.Separates (layout : Layout) (s : Char) : Prop where
  first : IsSolid layout.first
  others : IsSolid layout.others
  separator : layout.separator = [s]
  isSeparator : IsSeparator .unicode s

theorem Layout.Separates.spells {layout : Layout} {s : Char} (h : layout.Separates s) :
    layout.Spells :=
  ⟨h.first.toIsForm, h.others.toIsForm⟩

/-- A layout writes the forms of words as it writes the words. -/
theorem Layout.write_forms {layout earlier : Layout} (h : layout.Spells) (hearlier : earlier.Spells)
    {ws : List (List Char)} (hwords : ∀ word ∈ ws, IsWord word) :
    layout.write (earlier.forms ws) = layout.write ws := by
  cases ws with
  | nil => rfl
  | cons word rest =>
    have hrest : (rest.map earlier.others).map layout.others = rest.map layout.others := by
      rw [List.map_map]
      exact List.map_congr_left fun next hnext =>
        h.others.comp hearlier.others (hwords next (List.mem_cons_of_mem word hnext))
    rw [forms, write, write, h.first.comp hearlier.first (hwords word List.mem_cons_self),
      ← List.flatMap_map layout.others, hrest, List.flatMap_map]

theorem Layout.words_write {layout : Layout} {s : Char} (h : layout.Separates s)
    {ws : List (List Char)} (hwords : ∀ word ∈ ws, IsWord word) :
    words (layout.write ws) = layout.forms ws := by
  rw [write_eq_join h.separator, words, wordsBy_join h.isSeparator]
  cases ws with
  | nil => rfl
  | cons word rest =>
    have hrest : (rest.map layout.others).flatMap words = rest.map layout.others := by
      rw [List.flatMap_map, List.map_eq_flatMap]
      exact List.flatMap_congr fun next hnext =>
        h.others.words (hwords next (List.mem_cons_of_mem word hnext))
    rw [forms, List.flatMap_cons]
    change words (layout.first word) ++ (rest.map layout.others).flatMap words = _
    rw [h.first.words (hwords word List.mem_cons_self), hrest, List.singleton_append]

/-! ## Styles -/

/-- The styles that put a separator between words, and capitals at their front only. -/
def separating : List CaseStyle := [param, snake, dot, path, plain, header, capital, sentence]

theorem isSeparator_of_ascii {c : Char} (hascii : c.toNat < 0x80) (h : c.isAlphanum = false) :
    IsSeparator .unicode c := by
  constructor
  · exact (Unicode.isAlphanumeric_of_ascii hascii).trans h
  · refine (Unicode.isLower_of_ascii hascii).trans ?_
    rw [Bool.eq_false_iff, ne_eq, isAlphanum_iff] at h
    rw [Bool.eq_false_iff, ne_eq, isLower_iff]
    omega

theorem separates_of_mem_separating {style : CaseStyle} (h : style ∈ separating) :
    ∃ layout s, style.layout? = some layout ∧ layout.Separates s := by
  have hsolid := isSolid_lowercase
  have hcapital := isSolid_capitalize
  simp only [separating, List.mem_cons, List.not_mem_nil, or_false] at h
  rcases h with rfl | rfl | rfl | rfl | rfl | rfl | rfl | rfl
  · exact ⟨_, '-', rfl, hsolid, hsolid, rfl, isSeparator_of_ascii (by decide) (by decide)⟩
  · exact ⟨_, '_', rfl, hsolid, hsolid, rfl, isSeparator_of_ascii (by decide) (by decide)⟩
  · exact ⟨_, '.', rfl, hsolid, hsolid, rfl, isSeparator_of_ascii (by decide) (by decide)⟩
  · exact ⟨_, '/', rfl, hsolid, hsolid, rfl, isSeparator_of_ascii (by decide) (by decide)⟩
  · exact ⟨_, ' ', rfl, hsolid, hsolid, rfl, isSeparator_of_ascii (by decide) (by decide)⟩
  · exact ⟨_, '-', rfl, hcapital, hcapital, rfl, isSeparator_of_ascii (by decide) (by decide)⟩
  · exact ⟨_, ' ', rfl, hcapital, hcapital, rfl, isSeparator_of_ascii (by decide) (by decide)⟩
  · exact ⟨_, ' ', rfl, hcapital, hsolid, rfl, isSeparator_of_ascii (by decide) (by decide)⟩

theorem spells_of_splitting {style : CaseStyle} (hlower : style ≠ lower) (hupper : style ≠ upper) :
    ∃ layout, style.layout? = some layout ∧ layout.Spells := by
  have hsmall := isForm_lowercase
  have hcapital := isForm_capitalize
  have hbig := isForm_uppercase
  cases style with
  | camel => exact ⟨_, rfl, hsmall, hcapital⟩
  | pascal | header | capital => exact ⟨_, rfl, hcapital, hcapital⟩
  | param | snake | dot | path | plain => exact ⟨_, rfl, hsmall, hsmall⟩
  | constant => exact ⟨_, rfl, hbig, hbig⟩
  | sentence => exact ⟨_, rfl, hcapital, hsmall⟩
  | lower => exact absurd rfl hlower
  | upper => exact absurd rfl hupper

theorem convertText_of_layout? {style : CaseStyle} {layout : Layout}
    (h : style.layout? = some layout) (text : List Char) :
    style.convertText text = layout.write (words text) := by
  rw [convertText, h]

/-- A style that splits its text does so with the words the text had before it was written in a
separating style. -/
theorem convertText_convertText {separated style : CaseStyle} (hseparated : separated ∈ separating)
    (hlower : style ≠ lower) (hupper : style ≠ upper) {text : List Char}
    (h : ∀ c ∈ text, c.toNat < 0x80) :
    style.convertText (separated.convertText text) = style.convertText text := by
  obtain ⟨earlier, s, hearlier, hseparates⟩ := separates_of_mem_separating hseparated
  obtain ⟨layout, hlayout, hspells⟩ := spells_of_splitting hlower hupper
  have hwords : ∀ word ∈ words text, IsWord word := fun word => isWord_of_mem_words h
  rw [convertText_of_layout? hlayout, convertText_of_layout? hearlier,
    convertText_of_layout? hlayout, Layout.words_write hseparates hwords,
    Layout.write_forms hspells hseparates.spells hwords]

theorem convert_convert {separated style : CaseStyle} (hseparated : separated ∈ separating)
    (hlower : style ≠ lower) (hupper : style ≠ upper) {name : String}
    (h : ∀ c ∈ name.toList, c.toNat < 0x80) :
    style.convert (separated.convert name) = style.convert name := by
  rw [convert, convert, String.toList_ofList, convertText_convertText hseparated hlower hupper h,
    convert]

theorem ne_of_mem_separating {style : CaseStyle} (h : style ∈ separating) :
    style ≠ lower ∧ style ≠ upper := by
  constructor
  · rintro rfl
    simp [separating] at h
  · rintro rfl
    simp [separating] at h

/-- **Separating styles lose no words.** Whatever ASCII text is written in a separating style, the
styles that split it find the same words as in the text itself; so each separating style leaves
what it has written as it is, and a name in the form `my-var` is found again behind any of them. -/
theorem separated_words_survive {name : String} (h : ∀ c ∈ name.toList, c.toNat < 0x80) :
    (∀ separated ∈ separating, ∀ style, style ≠ lower → style ≠ upper →
      style.convert (separated.convert name) = style.convert name) ∧
    (∀ separated ∈ separating,
      separated.convert (separated.convert name) = separated.convert name) ∧
    (param.convert name = name → ∀ separated ∈ separating,
      param.convert (separated.convert name) = name) := by
  refine ⟨?splitting, ?idempotent, ?param⟩
  case splitting =>
    exact fun separated hseparated style hlower hupper =>
      convert_convert hseparated hlower hupper h
  case idempotent =>
    intro separated hseparated
    obtain ⟨hlower, hupper⟩ := ne_of_mem_separating hseparated
    exact convert_convert hseparated hlower hupper h
  case param =>
    intro hname separated hseparated
    rw [convert_convert hseparated (by simp) (by simp) h, hname]

theorem separated_words_survive_acronym :
    (∀ c ∈ "XMLHttp2Request".toList, c.toNat < 0x80) ∧
    camel.convert (sentence.convert "XMLHttp2Request") = "xmlHttp2Request" ∧
    param.convert "http2-request" = "http2-request" ∧
    param.convert (header.convert "http2-request") = "http2-request" := by
  have hacronym : ∀ c ∈ "XMLHttp2Request".toList, c.toNat < 0x80 := by simp
  have hascii : ∀ c ∈ "http2-request".toList, c.toNat < 0x80 := by simp
  have hparam : param.convert "http2-request" = "http2-request" := by decide
  have hcamel := (separated_words_survive hacronym).1 sentence (by simp [separating]) camel
    (by simp) (by simp)
  exact ⟨hacronym, hcamel.trans (by decide), hparam,
    (separated_words_survive hascii).2.2 hparam header (by simp [separating])⟩

end StyleConstants.CaseStyle
