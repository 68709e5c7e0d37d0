/-!
# White space

The characters with the Unicode property White_Space, and texts with the blank characters at their
ends removed.

* `trimStart_eq_self`, `trimEnd_eq_self`: nothing is removed where no blank stands.
* `exists_blank_append_trimStart`, `exists_trimEnd_append_blank`: only blanks are removed.
-/

namespace StyleConstants.Text

/-- A character with the property White_Space. -/
def isBlank (c : Char) : Bool :=
  let n := c.toNat
  (0x09 ≤ n && n ≤ 0x0D) || n == 0x20 || n == 0x85 || n == 0xA0 || n == 0x1680
    || (0x2000 ≤ n && n ≤ 0x200A) || n == 0x2028 || n == 0x2029 || n == 0x202F || n == 0x205F
    || n == 0x3000

/-- The text without the blanks it starts with. -/
def trimStart (text : List Char) : List Char := text.dropWhile isBlank

/-- The text without the blanks it ends with. -/
def trimEnd (text : List Char) : List Char := (text.reverse.dropWhile isBlank).reverse

/-- The text without the blanks at both ends. -/
def trim (text : List Char) : List Char := trimEnd (trimStart text)

theorem trimStart_eq_self {text : List Char} (h : ∀ c ∈ text.head?, isBlank c = false) :
    trimStart text = text := by
  cases text with
  | nil => rfl
  | cons c rest => simp [trimStart, h c rfl]

theorem trimEnd_eq_self {text : List Char} (h : ∀ c ∈ text.getLast?, isBlank c = false) :
    trimEnd text = text := by
  have hrev : text.reverse.dropWhile isBlank = text.reverse :=
    trimStart_eq_self fun c hc => h c (by simpa using hc)
  simp [trimEnd, hrev]

theorem exists_blank_append_trimStart (text : List Char) :
    ∃ blanks : List Char, (∀ c ∈ blanks, isBlank c = true) ∧ text = blanks ++ trimStart text :=
  ⟨text.takeWhile isBlank, fun _ hc => List.all_eq_true.1 List.all_takeWhile _ hc,
    List.takeWhile_append_dropWhile.symm⟩

theorem exists_trimEnd_append_blank (text : List Char) :
    ∃ blanks : List Char, (∀ c ∈ blanks, isBlank c = true) ∧ text = trimEnd text ++ blanks := by
  obtain ⟨blanks, hblank, h⟩ := exists_blank_append_trimStart text.reverse
  refine ⟨blanks.reverse, fun c hc => hblank c (List.mem_reverse.1 hc), ?_⟩
  have := congrArg List.reverse h
  simpa [trimEnd, trimStart] using this

end StyleConstants.Text
