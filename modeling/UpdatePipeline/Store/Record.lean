import UpdatePipeline.Json.Record
import UpdatePipeline.Schema.Peer
import UpdatePipeline.SortedMap
set_option autoImplicit false

/-!
# Store: sequence records

Every scope keeps the position its sequence has reached: the account in scope 0, each
channel under its marked id.
-/

namespace UpdatePipeline

/-- What a sequence belongs to: 0 for the account, a channel's marked id otherwise. -/
abbrev Scope := Int64

namespace Scope

/-- The account's own sequence. -/
def account : Scope := 0

/-- The scope of a channel. -/
def ofChannel (channelId : Int64) : Scope := Schema.channelMark channelId

/-- The scope of an update: its channel's, or the account's. -/
def ofChannel? : Option Int64 → Scope
  | some channelId => ofChannel channelId
  | none => account

/-- Whether a channel's sequence is kept here. -/
def isChannel (scope : Scope) : Bool := scope < 0

end Scope

/-- The position that a scope's sequence has reached. -/
structure StateRecord where
  scope : Scope
  pts : Int32
  qts : Option Int32 := none
  date : Option Int32 := none
  deriving DecidableEq, Repr, Inhabited

namespace StateRecord

/-- The record as it is written, with every field. -/
def toJson (r : StateRecord) : Json :=
  .object [("scope", .ofInt64 r.scope), ("pts", .ofInt32 r.pts), ("qts", .ofOption .ofInt32 r.qts),
    ("date", .ofOption .ofInt32 r.date)]

/-- The declared fields of a record. -/
def fieldNames : List String := ["scope", "pts", "qts", "date"]

/-- The record that a value spells. -/
def ofJson? (j : Json) : Option StateRecord := do
  let r ← Json.Record.ofJson? fieldNames j
  return {
    scope := ← r.required "scope" Json.int64?
    pts := ← r.required "pts" Json.int32?
    qts := ← r.optional "qts" Json.int32?
    date := ← r.optional "date" Json.int32? }

end StateRecord

/-- At most one record for each scope. -/
abbrev Records := SortedMap StateRecord

namespace Records

/-- The records with one more, over that of the same scope. -/
def set (m : Records) (r : StateRecord) : Records := m.insert r.scope.toInt r

/-- The record of a scope. -/
def find? (m : Records) (scope : Scope) : Option StateRecord := m.get? scope.toInt

/-- The records without that of a scope. -/
def remove (m : Records) (scope : Scope) : Records := m.erase scope.toInt

/-- The records that a list leaves, each put over those before it. -/
def ofList (records : List StateRecord) : Records := records.foldl set ∅

theorem find?_set (m : Records) (r : StateRecord) (scope : Scope) :
    (m.set r).find? scope = if scope = r.scope then some r else m.find? scope := by
  simp only [set, find?, SortedMap.get?_insert, Int64.toInt_inj]

end Records

end UpdatePipeline
