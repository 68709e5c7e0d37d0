import StyleConstants.Case.Words
import StyleConstants.Unicode.CaseMap

/-!
# Case styles

A style other than the two plain ones splits a name into words, writes the first word in one form
and the others in another, and puts a separator between them.
-/

namespace StyleConstants

/-- A named convention for identifiers. -/
inductive CaseStyle where
  /-- `myVar` -/
  | camel
  /-- `MyVar` -/
  | pascal
  /-- `my-var` -/
  | param
  /-- `my_var` -/
  | snake
  /-- `MY_VAR` -/
  | constant
  /-- `my.var` -/
  | dot
  /-- `my/var` -/
  | path
  /-- `My-Var` -/
  | header
  /-- `My Var` -/
  | capital
  /-- `My var` -/
  | sentence
  /-- `my var` -/
  | plain
  /-- Everything in lower case, without splitting. -/
  | lower
  /-- Everything in upper case, without splitting. -/
  | upper
  deriving DecidableEq, Repr

namespace CaseStyle

/-- Every style, in the order in which they are listed to users. -/
def all : List CaseStyle :=
  [camel, pascal, param, snake, constant, dot, path, header, capital, sentence, plain, lower, upper]

/-- The name of a style in a configuration. -/
def name : CaseStyle → String
  | camel => "camelCase"
  | pascal => "pascalCase"
  | param => "paramCase"
  | snake => "snakeCase"
  | constant => "constantCase"
  | dot => "dotCase"
  | path => "pathCase"
  | header => "headerCase"
  | capital => "capitalCase"
  | sentence => "sentenceCase"
  | plain => "noCase"
  | lower => "lowerCase"
  | upper => "upperCase"

/-- The style with this name. -/
def ofName? (text : String) : Option CaseStyle := all.find? (·.name == text)

/-- A word with a capital first letter and small letters after it. -/
def capitalize : List Char → List Char
  | [] => []
  | c :: rest => Unicode.upperChar c ++ rest.flatMap Unicode.lowerChar

/-- How a style writes words: the form of the first, the form of the others, and what stands
between them. -/
structure Layout where
  first : List Char → List Char
  others : List Char → List Char
  separator : List Char

/-- The words as the layout writes them. -/
def Layout.write (layout : Layout) : List (List Char) → List Char
  | [] => []
  | word :: rest =>
    layout.first word ++ rest.flatMap fun word => layout.separator ++ layout.others word

/-- How the style writes words; none for the two styles that do not split. -/
def layout? : CaseStyle → Option Layout
  | camel => some ⟨Unicode.lowercase, capitalize, []⟩
  | pascal => some ⟨capitalize, capitalize, []⟩
  | param => some ⟨Unicode.lowercase, Unicode.lowercase, ['-']⟩
  | snake => some ⟨Unicode.lowercase, Unicode.lowercase, ['_']⟩
  | constant => some ⟨Unicode.uppercase, Unicode.uppercase, ['_']⟩
  | dot => some ⟨Unicode.lowercase, Unicode.lowercase, ['.']⟩
  | path => some ⟨Unicode.lowercase, Unicode.lowercase, ['/']⟩
  | header => some ⟨capitalize, capitalize, ['-']⟩
  | capital => some ⟨capitalize, capitalize, [' ']⟩
  | sentence => some ⟨capitalize, Unicode.lowercase, [' ']⟩
  | plain => some ⟨Unicode.lowercase, Unicode.lowercase, [' ']⟩
  | lower => none
  | upper => none

/-- The text in the style. -/
def convertText (style : CaseStyle) (text : List Char) : List Char :=
  match style.layout? with
  | some layout => layout.write (Case.words text)
  | none => if style = lower then Unicode.lowercase text else Unicode.uppercase text

/-- The name in the style. -/
def convert (style : CaseStyle) (name : String) : String :=
  String.ofList (style.convertText name.toList)

theorem ofName?_name (style : CaseStyle) : ofName? style.name = some style := by
  cases style <;> decide

theorem ofName?_eq_some_iff {text : String} {style : CaseStyle} :
    ofName? text = some style ↔ style.name = text := by
  constructor
  · intro h
    simpa using List.find?_some h
  · rintro rfl
    exact ofName?_name style

end CaseStyle

end StyleConstants
