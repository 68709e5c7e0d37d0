import StyleConstants.Json.Token

/-!
# Reading a JSON text

The tokens are put together by a machine that keeps the arrays and objects it is inside of. It has
one step per token.

* `read?`: the value that a text spells, if it spells one.
-/

namespace StyleConstants.Json

/-- Whether the character may stand between tokens. -/
def isSpace (c : Char) : Bool := c == ' ' || c == '\n' || c == '\t' || c == '\r'

/-- The tokens of a text. -/
def tokens (source : List Char) : Option (List Token) :=
  match _h : source.dropWhile isSpace with
  | [] => some []
  | c :: tail =>
    match _hnext : Token.next (c :: tail) with
    | some (token, rest) => (tokens rest).map (token :: ·)
    | none => none
termination_by source.length
decreasing_by
  have hlt := Token.next_lt _hnext
  have hle := (List.dropWhile_suffix (l := source) isSpace).length_le
  rw [_h] at hle
  omega

/-- An array or object that is not yet closed, with its parts so far in reverse order. An object
waits for the value of a field. -/
inductive Frame where
  | array (items : List Json)
  | object (fields : List (String × Json)) (name : String)

/-- What may come next. -/
inductive Awaited where
  | value
  /-- A value, or the end of the array just opened. -/
  | valueOrEnd
  /-- The name of a field. -/
  | name (fields : List (String × Json))
  /-- The name of a field, or the end of the object just opened. -/
  | nameOrEnd
  /-- The colon after the name of a field. -/
  | colon (fields : List (String × Json)) (name : String)
  /-- A comma or the end of the innermost array or object, after a value. -/
  | more (value : Json)

/-- Arrays and objects may be nested this deep. -/
def depthLimit : Nat := 127

/-- Reads the tokens on, inside the frames. -/
def assemble (frames : List Frame) : Awaited → List Token → Option Json
  | .more value, [] => if frames.isEmpty then some value else none
  | _, [] => none
  | awaited, token :: rest =>
    match awaited, token with
    | .value, .text s | .valueOrEnd, .text s => assemble frames (.more (.string s)) rest
    | .value, .scalar v | .valueOrEnd, .scalar v => assemble frames (.more v) rest
    | .value, .openArray | .valueOrEnd, .openArray =>
      if frames.length < depthLimit then assemble (.array [] :: frames) .valueOrEnd rest else none
    | .value, .openObject | .valueOrEnd, .openObject =>
      if frames.length < depthLimit then assemble (.object [] "" :: frames) .nameOrEnd rest
      else none
    | .valueOrEnd, .closeArray =>
      match frames with
      | .array _ :: outer => assemble outer (.more (.array [])) rest
      | _ => none
    | .nameOrEnd, .closeObject =>
      match frames with
      | .object _ _ :: outer => assemble outer (.more (.object [])) rest
      | _ => none
    | .nameOrEnd, .text name => assemble frames (.colon [] name) rest
    | .name fields, .text name => assemble frames (.colon fields name) rest
    | .colon fields name, .colon =>
      match frames with
      | .object _ _ :: outer => assemble (.object fields name :: outer) .value rest
      | _ => none
    | .more value, .comma =>
      match frames with
      | .array items :: outer => assemble (.array (value :: items) :: outer) .value rest
      | .object fields name :: outer =>
        assemble (.object fields name :: outer) (.name ((name, value) :: fields)) rest
      | [] => none
    | .more value, .closeArray =>
      match frames with
      | .array items :: outer => assemble outer (.more (.array (value :: items).reverse)) rest
      | _ => none
    | .more value, .closeObject =>
      match frames with
      | .object fields name :: outer =>
        assemble outer (.more (.object ((name, value) :: fields).reverse)) rest
      | _ => none
    | _, _ => none

/-- The value that the text spells, if it spells one. -/
def read? (source : String) : Option Json :=
  match tokens source.toList with
  | some tokens => assemble [] .value tokens
  | none => none

end StyleConstants.Json
