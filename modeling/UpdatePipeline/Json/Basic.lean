set_option autoImplicit false

/-!
# Json: values as they are written

An object keeps its fields in the order of the text, duplicates included, and a
number literal keeps what it was: an integer, or anything else.  That is what the
schema's rules speak of: a field may not occur twice, and an integer may not be
written with a fraction, an exponent or a negative zero.
-/

namespace UpdatePipeline

/-- The text of a string literal, or `none` if its escapes leave half of a
surrogate pair alone, which no text can hold. -/
abbrev Json.Text := Option String

/-- A JSON value. -/
inductive Json where
  | null
  | bool (value : Bool)
  /-- An integer literal, of any size. -/
  | int (value : Int)
  /-- Any other number literal, as written. -/
  | real (literal : String)
  | str (text : Json.Text)
  | arr (items : List Json)
  | obj (fields : List (Json.Text × Json))
  deriving Repr, Inhabited

namespace Json

/-- The string with this text. -/
def string (s : String) : Json := .str (some s)

/-- The object with these fields, in this order. -/
def object (fields : List (String × Json)) : Json :=
  .obj (fields.map fun (name, value) => (some name, value))

/-- An optional value, `null` when absent. -/
def ofOption {α : Type} (encode : α → Json) : Option α → Json
  | none => .null
  | some a => encode a

/-- An array of encoded values. -/
def ofList {α : Type} (encode : α → Json) (items : List α) : Json :=
  .arr (items.map encode)

/-! ## Reading plain values -/

/-- The Boolean a value is. -/
def bool? : Json → Option Bool
  | .bool b => some b
  | _ => none

/-- The integer literal a value is. -/
def int? : Json → Option Int
  | .int n => some n
  | _ => none

/-- The text a value is. -/
def string? : Json → Option String
  | .str text => text
  | _ => none

/-- The array a value is. -/
def items? : Json → Option (List Json)
  | .arr items => some items
  | _ => none

/-- The integer literal a value is, if 64 bits hold it. -/
def int64? (j : Json) : Option Int64 := do
  let n ← j.int?
  if Int64.minValue.toInt ≤ n ∧ n ≤ Int64.maxValue.toInt then some (Int64.ofInt n) else none

/-- The integer literal a value is, if 32 bits hold it. -/
def int32? (j : Json) : Option Int32 := do
  let n ← j.int?
  if Int32.minValue.toInt ≤ n ∧ n ≤ Int32.maxValue.toInt then some (Int32.ofInt n) else none

/-- The octet a value is. -/
def octet? (j : Json) : Option UInt8 := do
  let n ← j.int?
  if 0 ≤ n ∧ n < 256 then some (UInt8.ofNat n.toNat) else none

/-- The list of values an array holds, each read by `decode`. -/
def list? {α : Type} (decode : Json → Option α) (j : Json) : Option (List α) := do
  (← j.items?).mapM decode

/-- An optional value: `null` is the absent one. -/
def option? {α : Type} (decode : Json → Option α) : Json → Option (Option α)
  | .null => some none
  | j => (decode j).map some

/-- A 64-bit integer. -/
def ofInt64 (n : Int64) : Json := .int n.toInt

/-- A 32-bit integer. -/
def ofInt32 (n : Int32) : Json := .int n.toInt

/-- An octet. -/
def ofOctet (n : UInt8) : Json := .int n.toNat

@[simp] theorem string?_string (s : String) : (string s).string? = some s := rfl

theorem int64?_ofInt64 (n : Int64) : (ofInt64 n).int64? = some n := by
  have h : Int64.minValue.toInt ≤ n.toInt ∧ n.toInt ≤ Int64.maxValue.toInt :=
    ⟨Int64.minValue_le_toInt n, Int64.toInt_le n⟩
  simp only [ofInt64, int64?, int?, Option.bind_eq_bind, Option.bind_some]
  rw [if_pos h, Int64.ofInt_toInt]

theorem int32?_ofInt32 (n : Int32) : (ofInt32 n).int32? = some n := by
  have h : Int32.minValue.toInt ≤ n.toInt ∧ n.toInt ≤ Int32.maxValue.toInt :=
    ⟨Int32.minValue_le_toInt n, Int32.toInt_le n⟩
  simp only [ofInt32, int32?, int?, Option.bind_eq_bind, Option.bind_some]
  rw [if_pos h, Int32.ofInt_toInt]

end Json

end UpdatePipeline
