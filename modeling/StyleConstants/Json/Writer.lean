import StyleConstants.Json.Number
import StyleConstants.Text.Hex

/-!
# Writing a JSON text

* `render`: the value on one line, without blanks, with every character beyond ASCII as an escape.
-/

namespace StyleConstants.Json

/-- The escape of sixteen bits. -/
def codeEscape (bits : Nat) : List Char :=
  ['\\', 'u', Text.hexDigit (bits / 4096 % 16), Text.hexDigit (bits / 256 % 16),
    Text.hexDigit (bits / 16 % 16), Text.hexDigit (bits % 16)]

/-- How a character stands in a string. -/
def renderChar (c : Char) : List Char :=
  if c = '"' then ['\\', '"']
  else if c = '\\' then ['\\', '\\']
  else if 0x20 ≤ c.toNat ∧ c.toNat < 0x7F then [c]
  else if c.toNat < 0x10000 then codeEscape c.toNat
  else
    let above := c.toNat - 0x10000
    codeEscape (0xD800 + above / 0x400) ++ codeEscape (0xDC00 + above % 0x400)

/-- A string with its quotes. -/
def renderString (s : String) : String :=
  String.ofList ('"' :: (s.toList.flatMap renderChar ++ ['"']))

mutual

/-- The value as a text. -/
def render : Json → String
  | null => "null"
  | bool true => "true"
  | bool false => "false"
  | integer value => toString value
  | float value => floatText value
  | string value => renderString value
  | array items => "[" ++ renderItems items ++ "]"
  | object fields => "\x7b" ++ renderFields fields ++ "\x7d"

/-- The values with commas between them. -/
def renderItems : List Json → String
  | [] => ""
  | [item] => item.render
  | item :: rest => item.render ++ "," ++ renderItems rest

/-- The fields with commas between them. -/
def renderFields : List (String × Json) → String
  | [] => ""
  | [(name, value)] => renderString name ++ ":" ++ value.render
  | (name, value) :: rest =>
    renderString name ++ ":" ++ value.render ++ "," ++ renderFields rest

end

end StyleConstants.Json
