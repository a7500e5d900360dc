import UpdatePipeline.Json.Basic
set_option autoImplicit false

/-!
# Json: reading a text

Reading has two passes, and each is one fold.  `Scanner` turns characters into
tokens; `Reading` takes the tokens one by one and keeps the containers still open.
Neither recurses into the value, so nesting has no limit.  Every fault of the text
ends the reading without a value; where it lies is not reported.
-/

namespace UpdatePipeline.Json

/-! ## String literals -/

/-- One unit of a string literal: a character, or a `\u` escape's code unit. -/
inductive TextUnit where
  | char (c : Char)
  | escape (unit : Nat)
  deriving Repr, DecidableEq

/-- A code unit that opens a surrogate pair. -/
def isHighSurrogate (u : Nat) : Bool := 0xD800 ≤ u && u < 0xDC00

/-- A code unit that closes a surrogate pair. -/
def isLowSurrogate (u : Nat) : Bool := 0xDC00 ≤ u && u < 0xE000

/-- The characters that units stand for, behind those already `done` in reverse: a
high surrogate takes the low one behind it, and any other surrogate leaves the
literal without a text. -/
def charsOfUnits (done : List Char) : List TextUnit → Option (List Char)
  | [] => some done.reverse
  | .char c :: rest => charsOfUnits (c :: done) rest
  | .escape u :: .escape v :: rest =>
    if isHighSurrogate u then
      if isLowSurrogate v then
        charsOfUnits (Char.ofNat (0x10000 + (u - 0xD800) * 0x400 + (v - 0xDC00)) :: done) rest
      else none
    else if isLowSurrogate u then none
    else charsOfUnits (Char.ofNat u :: done) (.escape v :: rest)
  | .escape u :: rest =>
    if isHighSurrogate u || isLowSurrogate u then none
    else charsOfUnits (Char.ofNat u :: done) rest

/-- The text of a string literal with these units. -/
def Text.ofUnits (units : List TextUnit) : Text := (charsOfUnits [] units).map String.ofList

/-! ## Number literals -/

/-- The digits at the front, and what follows them. -/
def spanDigits (cs : List Char) : List Char × List Char := cs.span Char.isDigit

/-- The end of a number literal behind its integer part: an optional fraction, then
an optional exponent, each with at least one digit. -/
def isNumberTail (cs : List Char) : Bool :=
  let afterFraction := match cs with
    | '.' :: rest => match spanDigits rest with
      | ([], _) => none
      | (_ :: _, rest) => some rest
    | cs => some cs
  let isExponent : List Char → Bool
    | 'e' :: '+' :: digits | 'e' :: '-' :: digits | 'e' :: digits
    | 'E' :: '+' :: digits | 'E' :: '-' :: digits | 'E' :: digits =>
      !digits.isEmpty && digits.all Char.isDigit
    | [] => true
    | _ => false
  afterFraction.any isExponent

/-- The number a literal stands for.  Its integer part has no superfluous zero in
front; it is an integer if nothing follows, except that a negative zero is not. -/
def ofNumberLiteral (cs : List Char) : Option Json :=
  let (negative, unsigned) := match cs with
    | '-' :: rest => (true, rest)
    | cs => (false, cs)
  let (whole, tail) := spanDigits unsigned
  let wholeIsFine := match whole with
    | [] => false
    | ['0'] => true
    | c :: _ => c != '0'
  if !wholeIsFine || !isNumberTail tail then none
  else
    let magnitude := Nat.ofDigitChars 10 whole 0
    if tail.isEmpty && !(negative && magnitude == 0) then
      some (.int (if negative then -(magnitude : Int) else magnitude))
    else some (.real (String.ofList cs))

/-! ## Tokens -/

/-- The lexical units of a text. -/
inductive Token where
  | openArray
  | closeArray
  | openObject
  | closeObject
  | comma
  | colon
  | text (t : Text)
  /-- A literal other than a string. -/
  | scalar (value : Json)
  deriving Repr, Inhabited

/-- The blanks between tokens. -/
def isBlank (c : Char) : Bool := c == ' ' || c == '\n' || c == '\t' || c == '\r'

/-- A character of a number or of one of the three words. -/
def isLiteralChar (c : Char) : Bool :=
  c.isDigit || c.isLower || c == 'E' || c == '-' || c == '+' || c == '.'

/-- The literal written with these characters. -/
def Token.ofLiteral (cs : List Char) : Option Token :=
  if cs = "null".toList then some (.scalar .null)
  else if cs = "true".toList then some (.scalar (.bool true))
  else if cs = "false".toList then some (.scalar (.bool false))
  else (ofNumberLiteral cs).map .scalar

/-- The token a single mark is. -/
def Token.ofMark : Char → Option Token
  | '[' => some .openArray
  | ']' => some .closeArray
  | '\x7b' => some .openObject
  | '\x7d' => some .closeObject
  | ',' => some .comma
  | ':' => some .colon
  | _ => none

/-- Where the scanner stands.  What is collected is held in reverse. -/
inductive Scanner where
  | between
  | literal (chars : List Char)
  | text (units : List TextUnit)
  /-- Behind a backslash. -/
  | escape (units : List TextUnit)
  /-- Inside a `\u` escape with some digits read. -/
  | hex (units : List TextUnit) (count : Nat) (value : Nat)
  deriving Repr

/-- The value of a hexadecimal digit of either case. -/
def hexDigit? (c : Char) : Option Nat :=
  if c.isDigit then some (c.toNat - '0'.toNat)
  else if 'a' ≤ c ∧ c ≤ 'f' then some (c.toNat - 'a'.toNat + 10)
  else if 'A' ≤ c ∧ c ≤ 'F' then some (c.toNat - 'A'.toNat + 10)
  else none

/-- The character that a one-letter escape stands for. -/
def escaped? : Char → Option Char
  | '"' => some '"'
  | '\\' => some '\\'
  | '/' => some '/'
  | 'b' => some '\x08'
  | 'f' => some '\x0c'
  | 'n' => some '\n'
  | 'r' => some '\r'
  | 't' => some '\t'
  | _ => none

/-- A character met outside of any token, with the tokens it completes. -/
def Scanner.begin (c : Char) : Option (Scanner × List Token) :=
  if isBlank c then some (.between, [])
  else if c = '"' then some (.text [], [])
  else if isLiteralChar c then some (.literal [c], [])
  else (Token.ofMark c).map fun token => (.between, [token])

/-- One character further, with the tokens it completes. -/
def Scanner.step : Scanner → Char → Option (Scanner × List Token)
  | .between, c => Scanner.begin c
  | .literal chars, c =>
    if isLiteralChar c then some (.literal (c :: chars), [])
    else do
      let token ← Token.ofLiteral chars.reverse
      let (next, tokens) ← Scanner.begin c
      return (next, token :: tokens)
  | .text units, c =>
    if c = '"' then some (.between, [.text (Text.ofUnits units.reverse)])
    else if c = '\\' then some (.escape units, [])
    else if c.toNat < 0x20 then none
    else some (.text (.char c :: units), [])
  | .escape units, c =>
    if c = 'u' then some (.hex units 0 0, [])
    else (escaped? c).map fun e => (.text (.char e :: units), [])
  | .hex units count value, c => do
    let digit ← hexDigit? c
    let value := value * 16 + digit
    return if count = 3 then (.text (.escape value :: units), []) else (.hex units (count + 1) value, [])

/-- One character further, with all tokens completed so far in reverse. -/
def Scanner.advance (reached : Scanner × List Token) (c : Char) : Option (Scanner × List Token) := do
  let (next, tokens) ← reached.1.step c
  return (next, tokens.reverseAux reached.2)

/-- The tokens of a text. -/
def tokens? (cs : List Char) : Option (List Token) := do
  match ← cs.foldlM Scanner.advance (.between, []) with
  | (.between, done) => some done.reverse
  | (.literal chars, done) => (Token.ofLiteral chars.reverse).map fun token => (token :: done).reverse
  | _ => none

/-! ## Values -/

/-- A container still open, with what it holds so far in reverse. -/
inductive Frame where
  | items (done : List Json)
  /-- An object whose field `name` is being read. -/
  | field (done : List (Text × Json)) (name : Text)
  deriving Repr

/-- What may come next; `stack` lists the open containers, the innermost first. -/
inductive Reading where
  | value (stack : List Frame)
  /-- Just behind `[`. -/
  | firstItem (stack : List Frame)
  /-- Just behind the opening brace of an object. -/
  | firstName (stack : List Frame)
  /-- Behind a comma of an object with these fields. -/
  | nextName (done : List (Text × Json)) (stack : List Frame)
  | colon (done : List (Text × Json)) (name : Text) (stack : List Frame)
  /-- Behind a value inside an array that holds these items. -/
  | afterItem (done : List Json) (stack : List Frame)
  /-- Behind a field's value inside an object that holds these fields. -/
  | afterField (done : List (Text × Json)) (stack : List Frame)
  | finished (result : Json)
  deriving Repr

/-- A value has been read completely. -/
def Reading.accept (v : Json) : List Frame → Reading
  | [] => .finished v
  | .items done :: stack => .afterItem (v :: done) stack
  | .field done name :: stack => .afterField ((name, v) :: done) stack

/-- A token that begins a value. -/
def Reading.begin (stack : List Frame) : Token → Option Reading
  | .openArray => some (.firstItem stack)
  | .openObject => some (.firstName stack)
  | .text t => some (accept (.str t) stack)
  | .scalar v => some (accept v stack)
  | _ => none

/-- One token further. -/
def Reading.step : Reading → Token → Option Reading
  | .value stack, token => begin stack token
  | .firstItem stack, .closeArray => some (accept (.arr []) stack)
  | .firstItem stack, token => begin (.items [] :: stack) token
  | .firstName stack, .closeObject => some (accept (.obj []) stack)
  | .firstName stack, .text name => some (.colon [] name stack)
  | .nextName done stack, .text name => some (.colon done name stack)
  | .colon done name stack, .colon => some (.value (.field done name :: stack))
  | .afterItem done stack, .comma => some (.value (.items done :: stack))
  | .afterItem done stack, .closeArray => some (accept (.arr done.reverse) stack)
  | .afterField done stack, .comma => some (.nextName done stack)
  | .afterField done stack, .closeObject => some (accept (.obj done.reverse) stack)
  | _, _ => none

/-- The value that the tokens spell. -/
def ofTokens? (tokens : List Token) : Option Json :=
  match tokens.foldlM Reading.step (.value []) with
  | some (.finished v) => some v
  | _ => none

/-- The value that a text spells, blanks around it allowed. -/
def parse? (text : String) : Option Json := do
  ofTokens? (← tokens? text.toList)

end UpdatePipeline.Json
