import StyleConstants.Unicode.Alphanumeric
import StyleConstants.Unicode.Cased

/-!
# The words of an identifier

Words consist of letters and digits. Any other character separates words; without one a word ends
before a capital that follows a small letter or a digit, and before the last capital of a run of
capitals if a small letter follows it.

* `flatten_wordsBy`: the words hold the letters and digits of the text, in order.
* `ne_nil_of_mem_wordsBy`: no word is empty.
-/

namespace StyleConstants.Case

/-- The classes of characters by which words are told apart. -/
structure Alphabet where
  isAlphanumeric : Char → Bool
  isLower : Char → Bool
  isUpper : Char → Bool

/-- The classes of the Unicode standard. -/
def Alphabet.unicode : Alphabet := ⟨Unicode.isAlphanumeric, Unicode.isLower, Unicode.isUpper⟩

variable (alphabet : Alphabet)

/-- A capital after a small letter or a digit. -/
def isHump (previous c : Char) : Bool :=
  (alphabet.isLower previous || previous.isDigit) && alphabet.isUpper c

/-- The last capital of several, before a small letter. -/
def isAcronymEnd (previous c : Char) (next : Option Char) : Bool :=
  alphabet.isUpper previous && alphabet.isUpper c && next.any alphabet.isLower

/-- Whether the letter or digit `c` starts a word. -/
def startsWord (previous : Option Char) (c : Char) (next : Option Char) : Bool :=
  match previous with
  | none => true
  | some p =>
    !alphabet.isAlphanumeric p || isHump alphabet p c || isAcronymEnd alphabet p c next

/-- The letters and digits of a text, each with whether it starts a word. -/
def marked (previous : Option Char) : List Char → List (Bool × Char)
  | [] => []
  | c :: rest =>
    if alphabet.isAlphanumeric c then
      (startsWord alphabet previous c rest.head?, c) :: marked (some c) rest
    else marked (some c) rest

/-- Puts a character in front of words: into the first one if it is `joined` to it, else as a word
of its own. -/
def attach (c : Char) (joined : Bool) : List (List Char) → List (List Char)
  | [] => [[c]]
  | word :: others => if joined then (c :: word) :: others else [c] :: word :: others

/-- Gathers marked characters into words. -/
def gather : List (Bool × Char) → List (List Char)
  | [] => []
  | (_, c) :: rest => attach c (rest.head?.any (!·.1)) (gather rest)

/-- The words of a text in an alphabet. -/
def wordsBy (text : List Char) : List (List Char) := gather (marked alphabet none text)

/-- The words of a text. -/
def words (text : List Char) : List (List Char) := wordsBy .unicode text

theorem flatten_attach (c : Char) (joined : Bool) (words : List (List Char)) :
    (attach c joined words).flatten = c :: words.flatten := by
  cases words with
  | nil => rfl
  | cons word others => cases joined <;> simp [attach]

theorem ne_nil_of_mem_attach {c : Char} {joined : Bool} {words : List (List Char)}
    (hwords : ∀ word ∈ words, word ≠ []) {word : List Char} (h : word ∈ attach c joined words) :
    word ≠ [] := by
  cases words with
  | nil =>
    rw [attach, List.mem_singleton] at h
    simp [h]
  | cons first others =>
    rw [attach] at h
    split at h
    · rcases List.mem_cons.1 h with rfl | h
      · simp
      · exact hwords word (List.mem_cons_of_mem first h)
    · rcases List.mem_cons.1 h with rfl | h
      · simp
      · exact hwords word h

theorem flatten_gather (marks : List (Bool × Char)) :
    (gather marks).flatten = marks.map (·.2) := by
  induction marks with
  | nil => rfl
  | cons mark rest ih => rw [gather, flatten_attach, ih, List.map_cons]

theorem map_snd_marked (previous : Option Char) (text : List Char) :
    (marked alphabet previous text).map (·.2) = text.filter alphabet.isAlphanumeric := by
  induction text generalizing previous with
  | nil => rfl
  | cons c rest ih =>
    rw [marked]
    split
    · rename_i hc
      simp [hc, ih]
    · rename_i hc
      simp [hc, ih]

theorem flatten_wordsBy (text : List Char) :
    (wordsBy alphabet text).flatten = text.filter alphabet.isAlphanumeric := by
  rw [wordsBy, flatten_gather, map_snd_marked]

theorem ne_nil_of_mem_gather {marks : List (Bool × Char)} {word : List Char}
    (h : word ∈ gather marks) : word ≠ [] := by
  induction marks generalizing word with
  | nil => cases h
  | cons mark rest ih => exact ne_nil_of_mem_attach (fun _ hword => ih hword) h

theorem ne_nil_of_mem_wordsBy {text word : List Char} (h : word ∈ wordsBy alphabet text) :
    word ≠ [] :=
  ne_nil_of_mem_gather h

end StyleConstants.Case
