import UpdatePipeline.Proofs.Json.Respelling
set_option autoImplicit false

/-!
# Json: faithful writing and reading

A type is written and read faithfully if what is written of a value is read as that value, and
so is every other spelling of it (`Json.Faithful`).  Numbers, texts and truth values are, and
lists of what is (`Faithful.list`).  The fields of a record are read by `Faithful.required`
and its kin, whichever way the record is spelled.
-/

namespace UpdatePipeline.Json

variable {α : Type}

/-- What is written by `encode` is read by `decode`, whichever way it is spelled. -/
structure Faithful (encode : α → Json) (decode : Json → Option α) : Prop where
  recalls : ∀ a, decode (encode a) = some a
  reads : ∀ a j, Respelled (encode a) j → decode j = some a
  /-- No value is written like an absent one. -/
  solid : ∀ a, encode a ≠ .null

namespace Faithful

variable {encode : α → Json} {decode : Json → Option α}

theorem of_reads (hreads : ∀ a j, Respelled (encode a) j → decode j = some a)
    (hsolid : ∀ a, encode a ≠ .null) : Faithful encode decode where
  recalls a := hreads a _ (.same _)
  reads := hreads
  solid := hsolid

/-- What has one spelling only has to be read as it is written. -/
theorem of_plain (hrecalls : ∀ a, decode (encode a) = some a)
    (hplain : ∀ a items, encode a ≠ .arr items) (hplain' : ∀ a fields, encode a ≠ .obj fields)
    (hsolid : ∀ a, encode a ≠ .null) : Faithful encode decode := by
  refine of_reads (fun a j h => ?_) hsolid
  rw [h.eq_of_plain (hplain a) (hplain' a)]
  exact hrecalls a

/-- What a variant carries is read behind its tag. -/
theorem carried {β : Type} (h : Faithful encode decode) (make : α → β) {a : α} {j : Json}
    (hspelled : Respelled (encode a) j) : (decode j).map make = some (make a) := by
  rw [h.reads a j hspelled, Option.map_some]

end Faithful

/-! ## Plain values and lists -/

theorem faithful_int64 : Faithful ofInt64 int64? :=
  .of_plain int64?_ofInt64 nofun nofun nofun

theorem faithful_int32 : Faithful ofInt32 int32? :=
  .of_plain int32?_ofInt32 nofun nofun nofun

theorem faithful_octet : Faithful ofOctet octet? := by
  refine .of_plain (fun n => ?_) nofun nofun nofun
  have hsmall : 0 ≤ (n.toNat : Int) ∧ (n.toNat : Int) < 256 := by
    have := n.toNat_lt
    omega
  simp only [ofOctet, octet?, int?, Option.bind_eq_bind, Option.bind_some]
  rw [if_pos hsmall, Int.toNat_natCast, UInt8.ofNat_toNat]

theorem faithful_bool : Faithful .bool bool? := .of_plain (fun _ => rfl) nofun nofun nofun

theorem faithful_string : Faithful string string? :=
  .of_plain string?_string nofun nofun nofun

namespace Faithful

variable {encode : α → Json} {decode : Json → Option α}

theorem list (h : Faithful encode decode) : Faithful (ofList encode) (list? decode) := by
  refine of_reads (fun as j hspelled => ?_) nofun
  obtain ⟨items, rfl, hitems⟩ := hspelled.of_arr
  show items.mapM decode = some as
  clear hspelled
  induction as generalizing items with
  | nil =>
    cases hitems
    rfl
  | cons a rest ih =>
    cases hitems with
    | cons hitem hrest =>
      rw [List.mapM_cons, h.reads a _ hitem, ih _ hrest]
      rfl

/-! ## Fields -/

theorem option?_of_ne_null {v : Json} (h : v ≠ .null) : v.option? decode = (decode v).map some := by
  cases v with
  | null => exact absurd rfl h
  | _ => rfl

section Fields

variable {r : Record} {name : String} {a : α}

/-- A field that is not `null` is there. -/
theorem exists_of_gives (h : Faithful encode decode) (hgives : r.Gives name (encode a)) :
    ∃ v, r.value? name = some v ∧ decode v = some a ∧ v ≠ .null := by
  obtain ⟨-, ⟨v, hv, hspelled⟩ | ⟨hnull, -⟩⟩ := hgives
  · refine ⟨v, hv, h.reads a v hspelled, ?_⟩
    rintro rfl
    exact h.solid a hspelled.eq_null
  · exact absurd hnull (h.solid a)

theorem required (h : Faithful encode decode) (hgives : r.Gives name (encode a)) :
    r.required name decode = some a := by
  obtain ⟨v, hv, hread, -⟩ := h.exists_of_gives hgives
  rw [Record.required, hv]
  exact hread

theorem withDefault (h : Faithful encode decode) (fallback : α)
    (hgives : r.Gives name (encode a)) : r.withDefault name decode fallback = some a := by
  obtain ⟨v, hv, hread, -⟩ := h.exists_of_gives hgives
  rw [Record.withDefault, hv]
  exact hread

/-- An optional field is `null` or left out if it is absent, and there if it is not. -/
theorem option_of_gives (h : Faithful encode decode) {o : Option α}
    (hgives : r.Gives name (ofOption encode o)) :
    (∃ v, r.value? name = some v ∧ v.option? decode = some o) ∨
      (r.value? name = none ∧ o = none) := by
  cases o with
  | none =>
    obtain ⟨-, ⟨v, hv, hspelled⟩ | ⟨-, hnone⟩⟩ := hgives
    · obtain rfl : v = .null := hspelled.eq_of_plain nofun nofun
      exact .inl ⟨.null, hv, rfl⟩
    · exact .inr ⟨hnone, rfl⟩
  | some a =>
    obtain ⟨v, hv, hread, hsolid⟩ := h.exists_of_gives (a := a) hgives
    refine .inl ⟨v, hv, ?_⟩
    rw [option?_of_ne_null hsolid, hread]
    rfl

theorem optional (h : Faithful encode decode) {o : Option α}
    (hgives : r.Gives name (ofOption encode o)) : r.optional name decode = some o := by
  rw [Record.optional]
  obtain ⟨v, hv, hread⟩ | ⟨hnone, rfl⟩ := h.option_of_gives hgives
  · rw [hv]
    exact hread
  · rw [hnone, hgives.1]
    rfl

theorem optionalWithDefault (h : Faithful encode decode) {o : Option α}
    (hgives : r.Gives name (ofOption encode o)) :
    r.optionalWithDefault name decode = some o := by
  rw [Record.optionalWithDefault, Record.withDefault]
  obtain ⟨v, hv, hread⟩ | ⟨hnone, rfl⟩ := h.option_of_gives hgives
  · rw [hv]
    exact hread
  · rw [hnone]

end Fields

end Faithful

end UpdatePipeline.Json
