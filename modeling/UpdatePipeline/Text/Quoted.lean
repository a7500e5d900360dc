import UpdatePipeline.Text.Printable
set_option autoImplicit false

/-!
# Text: quoted for the eye

A quoted text stands between double quotes, with a backslash in front of quotes and
backslashes, and shows every character: what has no look of its own, and what is drawn
upon the character before it, stands as its code point in braces.
-/

namespace UpdatePipeline.Text

/-- The code point of a character, as an escape. -/
def escapeCodePoint (c : Char) : List Char :=
  ['\\', 'u', '\x7b'] ++ Nat.toDigits 16 c.toNat ++ ['\x7d']

/-- A character as it stands between quotes. -/
def escapeForShow (c : Char) : List Char :=
  match c with
  | '\x00' => ['\\', '0']
  | '\t' => ['\\', 't']
  | '\n' => ['\\', 'n']
  | '\r' => ['\\', 'r']
  | '"' => ['\\', '"']
  | '\\' => ['\\', '\\']
  | c => if isCombining c || !isPrintable c then escapeCodePoint c else [c]

/-- A text between quotes. -/
def quoted (s : String) : String := "\"" ++ String.ofList (s.toList.flatMap escapeForShow) ++ "\""

/-- An optional value as it is shown. -/
def shownOption {α : Type} (shown : α → String) : Option α → String
  | some a => "Some(" ++ shown a ++ ")"
  | none => "None"

/-- A list as it is shown. -/
def shownList {α : Type} (shown : α → String) (items : List α) : String :=
  "[" ++ String.intercalate ", " (items.map shown) ++ "]"

end UpdatePipeline.Text
