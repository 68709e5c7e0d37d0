import StyleConstants.Text.Blank

/-!
# Blanks at the ends of a text

* `trim_append_left`, `trim_append_right`: blanks put before or after a trimmed text are taken off.
* `trim_append_blanks`, `trim_trim`, `head?_trim`: what is taken off any text.
* `takeWhile_dropWhile_append`: a text is cut where the characters of a kind end.
-/

namespace StyleConstants.Text

/-- No blank stands at either end. -/
def IsTrimmed (text : List Char) : Prop :=
  (∀ c ∈ text.head?, isBlank c = false) ∧ ∀ c ∈ text.getLast?, isBlank c = false

theorem isTrimmed_of_ends {text : List Char}
    (hhead : (text.head?.all fun c => !isBlank c) = true)
    (hlast : (text.getLast?.all fun c => !isBlank c) = true) : IsTrimmed text := by
  refine ⟨?_, ?_⟩
  · intro c hc
    rw [Option.mem_def.1 hc] at hhead
    simpa using hhead
  · intro c hc
    rw [Option.mem_def.1 hc] at hlast
    simpa using hlast

theorem isBlank_of_mem_space : ∀ c ∈ [' '], isBlank c = true := by
  intro c hc
  obtain rfl := List.mem_singleton.1 hc
  decide

theorem trimStart_append_left {blanks : List Char} (h : ∀ c ∈ blanks, isBlank c = true)
    (text : List Char) : trimStart (blanks ++ text) = trimStart text :=
  List.dropWhile_append_of_pos h

theorem trimEnd_append_right {blanks : List Char} (h : ∀ c ∈ blanks, isBlank c = true)
    (text : List Char) : trimEnd (text ++ blanks) = trimEnd text := by
  have hreverse : ∀ c ∈ blanks.reverse, isBlank c = true := fun c hc => h c (List.mem_reverse.1 hc)
  rw [trimEnd, List.reverse_append, List.dropWhile_append_of_pos hreverse, trimEnd]

theorem trim_append_right {text blanks : List Char} (htext : IsTrimmed text)
    (h : ∀ c ∈ blanks, isBlank c = true) : trim (text ++ blanks) = text := by
  cases text with
  | nil =>
    have hblanks : trimStart blanks = [] := by
      have hnil := trimStart_append_left h []
      rwa [List.append_nil] at hnil
    rw [List.nil_append, trim, hblanks]
    rfl
  | cons c text =>
    have hstart : trimStart (c :: text ++ blanks) = c :: text ++ blanks := trimStart_eq_self htext.1
    rw [trim, hstart, trimEnd_append_right h, trimEnd_eq_self htext.2]

theorem trim_eq_self {text : List Char} (h : IsTrimmed text) : trim text = text := by
  have hblanks : ∀ c ∈ ([] : List Char), isBlank c = true := fun _ hc => nomatch hc
  have htrim := trim_append_right h hblanks
  rwa [List.append_nil] at htrim

theorem trim_append_left {blanks text : List Char} (h : ∀ c ∈ blanks, isBlank c = true)
    (htext : IsTrimmed text) : trim (blanks ++ text) = text := by
  rw [trim, trimStart_append_left h, ← trim, trim_eq_self htext]

/-! ## Ends of any text -/

theorem isBlank_head_trimStart (text : List Char) :
    ∀ c ∈ (trimStart text).head?, isBlank c = false := by
  intro c hc
  have hfirst := List.head?_dropWhile_not isBlank text
  rw [← trimStart, Option.mem_def.1 hc] at hfirst
  simpa using hfirst

theorem trimStart_trimStart (text : List Char) : trimStart (trimStart text) = trimStart text :=
  trimStart_eq_self (isBlank_head_trimStart text)

theorem trim_append_blanks (text : List Char) {blanks : List Char}
    (h : ∀ c ∈ blanks, isBlank c = true) : trim (text ++ blanks) = trim text := by
  obtain ⟨front, hfront, htext⟩ := exists_blank_append_trimStart text
  have hstart : trimStart (text ++ blanks) = trimStart (trimStart text ++ blanks) := by
    conv => lhs; rw [htext, List.append_assoc]
    exact trimStart_append_left hfront _
  rw [trim, hstart, trim]
  cases hrest : trimStart text with
  | nil =>
    have hblanks := trimStart_append_left h []
    rw [List.append_nil] at hblanks
    rw [List.nil_append, hblanks]
    rfl
  | cons c rest =>
    have hc : isBlank c = false := isBlank_head_trimStart text c (by rw [hrest]; rfl)
    have hself : trimStart (c :: rest ++ blanks) = c :: rest ++ blanks :=
      trimStart_eq_self fun d hd => by cases hd; exact hc
    rw [hself, trimEnd_append_right h]

/-- Blanks are taken off the end only behind what is not blank. -/
theorem trimEnd_append_of_visible {front : List Char}
    (h : ∀ c ∈ front.getLast?, isBlank c = false) (text : List Char) :
    trimEnd (front ++ text) = front ++ trimEnd text := by
  have hfront : front.reverse.dropWhile isBlank = front.reverse :=
    trimStart_eq_self fun c hc => h c (by simpa using hc)
  rw [trimEnd, List.reverse_append, List.dropWhile_append, hfront, trimEnd]
  split
  · rename_i hempty
    rw [List.isEmpty_iff.1 hempty]
    simp
  · simp

theorem trim_trimEnd (text : List Char) : trim (trimEnd text) = trim text := by
  obtain ⟨blanks, hblanks, htext⟩ := exists_trimEnd_append_blank text
  conv => rhs; rw [htext, trim_append_blanks _ hblanks]

theorem trim_trim (text : List Char) : trim (trim text) = trim text := by
  have htrim : trim text = trimEnd (trimStart text) := rfl
  rw [htrim, trim_trimEnd, trim, trimStart_trimStart]

/-- Only blanks at the end are taken off behind the first character that is none. -/
theorem head?_trim (text : List Char) : (trim text).head? = (trimStart text).head? := by
  obtain ⟨blanks, hblanks, htext⟩ := exists_trimEnd_append_blank (trimStart text)
  rw [← trim] at htext
  cases htrim : trim text with
  | cons c rest =>
    rw [htrim] at htext
    rw [htext]
    rfl
  | nil =>
    rw [htrim, List.nil_append] at htext
    cases hstart : trimStart text with
    | nil => rfl
    | cons c rest =>
      have hc : isBlank c = true := hblanks c (by rw [← htext, hstart]; exact List.mem_cons_self)
      have hvisible := isBlank_head_trimStart text c (by rw [hstart]; rfl)
      rw [hc] at hvisible
      cases hvisible

/-- More text behind a text that is not blank does not change how it starts. -/
theorem head?_trim_append {a : List Char} {c : Char} (h : (trim a).head? = some c)
    (b : List Char) : (trim (a ++ b)).head? = some c := by
  rw [head?_trim] at h
  obtain ⟨rest, hrest⟩ := List.head?_eq_some_iff.1 h
  have hne : ¬ (a.dropWhile isBlank).isEmpty = true := by
    rw [← trimStart, hrest]
    exact Bool.false_ne_true
  rw [head?_trim, trimStart, List.dropWhile_append, if_neg hne, ← trimStart, hrest]
  rfl

/-! ## Texts cut in two -/

theorem getLast?_append_of_ne_nil {a b : List Char} (hb : b ≠ []) :
    (a ++ b).getLast? = b.getLast? := by
  rw [List.getLast?_append]
  cases h : b.getLast? with
  | none => exact absurd (List.getLast?_eq_none_iff.1 h) hb
  | some c => rfl

/-- A text with this start is split where the characters of the kind end. -/
theorem takeWhile_dropWhile_append {p : Char → Bool} {front back : List Char}
    (hfront : ∀ c ∈ front, p c = true) (hback : ∀ c ∈ back.head?, p c = false) :
    (front ++ back).takeWhile p = front ∧ (front ++ back).dropWhile p = back := by
  rw [List.takeWhile_append_of_pos hfront, List.dropWhile_append_of_pos hfront]
  cases back with
  | nil => simp
  | cons c back =>
    have hc : ¬ p c = true := by rw [hback c rfl]; decide
    rw [List.takeWhile_cons_of_neg hc, List.dropWhile_cons_of_neg hc, List.append_nil]
    exact ⟨rfl, rfl⟩

end StyleConstants.Text
