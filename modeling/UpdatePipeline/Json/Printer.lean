import UpdatePipeline.Json.Basic
set_option autoImplicit false

/-!
# Json: writing a value

The text of a value is compact and in ASCII: everything else stands in `\u` escapes,
a character beyond the basic plane as a surrogate pair.
-/

namespace UpdatePipeline.Json

/-- The hexadecimal digit of a number below sixteen. -/
def hexDigit (n : Nat) : Char := "0123456789abcdef".toList.getD n '0'

/-- The escape of one code unit. -/
def escapeUnit (n : Nat) : List Char :=
  ['\\', 'u', hexDigit (n / 4096 % 16), hexDigit (n / 256 % 16), hexDigit (n / 16 % 16), hexDigit (n % 16)]

/-- A character as it stands in a string literal. -/
def escapeChar (c : Char) : List Char :=
  if c = '"' then ['\\', '"']
  else if c = '\\' then ['\\', '\\']
  else if 0x20 ≤ c.toNat ∧ c.toNat < 0x7F then [c]
  else if c.toNat < 0x10000 then escapeUnit c.toNat
  else
    let n := c.toNat - 0x10000
    escapeUnit (0xD800 + n / 0x400) ++ escapeUnit (0xDC00 + n % 0x400)

/-- A string literal. -/
def renderString (s : String) : String :=
  "\"" ++ String.ofList (s.toList.flatMap escapeChar) ++ "\""

/-- A string literal; a text that is none is written as the replacement character. -/
def renderText (t : Text) : String := renderString (t.getD "\uFFFD")

mutual

/-- The text of a value. -/
def render : Json → String
  | .null => "null"
  | .bool true => "true"
  | .bool false => "false"
  | .int n => toString n
  | .real literal => literal
  | .str t => renderText t
  | .arr items => "[" ++ String.intercalate "," (renderItems items) ++ "]"
  | .obj fields => "\x7b" ++ String.intercalate "," (renderFields fields) ++ "\x7d"

/-- The texts of an array's items. -/
def renderItems : List Json → List String
  | [] => []
  | v :: rest => render v :: renderItems rest

/-- The texts of an object's fields. -/
def renderFields : List (Text × Json) → List String
  | [] => []
  | (name, v) :: rest => (renderText name ++ ":" ++ render v) :: renderFields rest

end

end UpdatePipeline.Json
