import UpdatePipeline.Json.Basic
set_option autoImplicit false

/-!
# Json: records and tagged variants

A record is written as an object by field name or as an array in the order of the
declared names.  In an object the order is free, undeclared fields are skipped, and
no declared field may occur twice.  An array may not be longer than the record.

A variant is written as its bare tag when it carries nothing, and otherwise as an
object with the tag as its only field.
-/

namespace UpdatePipeline.Json

/-- The declared fields that a record's written form gives. -/
structure Record where
  /-- The values present, under their declared names. -/
  fields : List (String × Json)
  /-- Whether the record was written as an array. -/
  positional : Bool
  deriving Repr

namespace Record

/-- The fields of an object that are declared, unless a name is no text or a
declared one is repeated. -/
def ofFields? (names : List String) : List (Text × Json) → Option (List (String × Json))
  | [] => some []
  | (none, _) :: _ => none
  | (some name, value) :: rest => do
    let declared ← ofFields? names rest
    if names.contains name then
      if declared.any (·.1 == name) then none else some ((name, value) :: declared)
    else some declared

/-- The record with these declared names, in the order of declaration. -/
def ofJson? (names : List String) : Json → Option Record
  | .obj fields => (ofFields? names fields).map fun declared => ⟨declared, false⟩
  | .arr items =>
    if items.length ≤ names.length then some ⟨names.zip items, true⟩ else none
  | _ => none

/-- The value given for a field. -/
def value? (r : Record) (name : String) : Option Json := r.fields.lookup name

/-- A field that has to be given. -/
def required {α : Type} (r : Record) (name : String) (decode : Json → Option α) : Option α := do
  decode (← r.value? name)

/-- A field that takes `fallback` when it is left out. -/
def withDefault {α : Type} (r : Record) (name : String) (decode : Json → Option α) (fallback : α) :
    Option α :=
  match r.value? name with
  | some value => decode value
  | none => some fallback

/-- An optional field.  In an object it is absent when left out; an array has to
spell it. -/
def optional {α : Type} (r : Record) (name : String) (decode : Json → Option α) : Option (Option α) :=
  match r.value? name with
  | some value => value.option? decode
  | none => if r.positional then none else some none

/-- An optional field that may be left out of either form. -/
def optionalWithDefault {α : Type} (r : Record) (name : String) (decode : Json → Option α) :
    Option (Option α) :=
  r.withDefault name (option? decode) none

end Record

/-! ## Tagged variants -/

/-- A variant as written: its tag and what it carries. -/
structure Tagged where
  tag : String
  body : Option Json
  deriving Repr

/-- The variant that a value spells. -/
def tagged? : Json → Option Tagged
  | .str (some tag) => some ⟨tag, none⟩
  | .obj [(some tag, body)] => some ⟨tag, some body⟩
  | _ => none

/-- A variant that carries nothing: the body is left out or `null`. -/
def Tagged.bare {α : Type} (v : Tagged) (a : α) : Option α :=
  match v.body with
  | none | some .null => some a
  | some _ => none

/-- A variant that carries one value. -/
def Tagged.carrying {α : Type} (v : Tagged) (decode : Json → Option α) : Option α := do
  decode (← v.body)

/-- A variant that carries a record. -/
def Tagged.record {α : Type} (v : Tagged) (names : List String) (decode : Record → Option α) :
    Option α := do
  decode (← Record.ofJson? names (← v.body))

/-- The written form of a variant that carries `body`. -/
def variant (tag : String) (body : Json) : Json := object [(tag, body)]

end UpdatePipeline.Json
