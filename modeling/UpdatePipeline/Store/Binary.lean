import UpdatePipeline.Store.Record
set_option autoImplicit false

/-!
# Store: the binary format

A file of records is little-endian: the number of records in four octets, then per
record the scope in eight, the `pts` in four, and for the `qts` and the date a flag of
one octet, followed by four octets of value if the flag is 1.  Whatever follows the
last record is ignored, and of several records of one scope the last one counts.
-/

namespace UpdatePipeline.Binary

/-- The octets of a file. -/
abbrev Octets := List UInt8

/-! ## Writing -/

/-- The `width` lowest octets of a number, the lowest first. -/
def littleEndian : Nat → Nat → Octets
  | 0, _ => []
  | width + 1, n => UInt8.ofNat (n % 256) :: littleEndian width (n / 256)

/-- Four octets, the lowest first, in two's complement. -/
def encodeInt32 (n : Int32) : Octets := littleEndian 4 n.toUInt32.toNat

/-- Eight octets, the lowest first, in two's complement. -/
def encodeInt64 (n : Int64) : Octets := littleEndian 8 n.toUInt64.toNat

/-- A flag, and the value if there is one. -/
def encodeOption : Option Int32 → Octets
  | some n => 1 :: encodeInt32 n
  | none => [0]

/-- Scope and position, then the two optional values. -/
def encodeRecord (r : StateRecord) : Octets :=
  encodeInt64 r.scope ++ encodeInt32 r.pts ++ encodeOption r.qts ++ encodeOption r.date

/-- The file that holds these records. -/
def encode (records : Records) : Octets :=
  littleEndian 4 records.size ++ records.values.flatMap encodeRecord

/-! ## Reading -/

/-- What a file that is no record file suffers from. -/
inductive Fault where
  | truncated
  | badFlag (flag : UInt8)
  deriving DecidableEq, Repr

/-- The wording. -/
def Fault.message : Fault → String
  | .truncated => "truncated update state"
  | .badFlag flag => s!"bad flag {flag}"

/-- One reading step: a value and what is left, or the fault met. -/
abbrev Step (α : Type) := Octets → Except Fault (α × Octets)

/-- The number that octets spell, the lowest first. -/
def numberOf (octets : Octets) : Nat := octets.foldr (fun o n => o.toNat + 256 * n) 0

/-- The next `width` octets as a number. -/
def takeNumber (width : Nat) : Step Nat := fun octets =>
  if width ≤ octets.length then .ok (numberOf (octets.take width), octets.drop width)
  else .error .truncated

/-- The next four octets as a signed number. -/
def takeInt32 : Step Int32 := fun octets => do
  let (n, rest) ← takeNumber 4 octets
  return ((UInt32.ofNat n).toInt32, rest)

/-- The next eight octets as a signed number. -/
def takeInt64 : Step Int64 := fun octets => do
  let (n, rest) ← takeNumber 8 octets
  return ((UInt64.ofNat n).toInt64, rest)

/-- A flag, and the value it announces. -/
def takeOption : Step (Option Int32)
  | [] => .error .truncated
  | flag :: rest =>
    if flag = 0 then .ok (none, rest)
    else if flag = 1 then do
      let (n, rest) ← takeInt32 rest
      return (some n, rest)
    else .error (.badFlag flag)

/-- The next record: scope, position and the two optional values. -/
def takeRecord : Step StateRecord := fun octets => do
  let (scope, octets) ← takeInt64 octets
  let (pts, octets) ← takeInt32 octets
  let (qts, octets) ← takeOption octets
  let (date, octets) ← takeOption octets
  return ({ scope, pts, qts, date }, octets)

/-- The next `count` records, put over those read before. -/
def takeRecords (count : Nat) (records : Records) : Step Records := fun octets =>
  match count with
  | 0 => .ok (records, octets)
  | count + 1 => do
    let (record, octets) ← takeRecord octets
    takeRecords count (records.set record) octets

/-- The records that a file holds. -/
def decode (octets : Octets) : Except Fault Records := do
  let (count, octets) ← takeNumber 4 octets
  let (records, _) ← takeRecords count ∅ octets
  return records

end UpdatePipeline.Binary
