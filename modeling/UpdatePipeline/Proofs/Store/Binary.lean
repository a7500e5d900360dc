import UpdatePipeline.Proofs.Store.Grammar
set_option autoImplicit false

/-!
# Record files are read back

Every value is written as octets that spell it (`Spells`): read off them it comes back as it
was, whatever follows, and of octets that break off within it the reader says that they are
truncated.  A step that parses a grammar does so with all that its grammar spells
(`Parses.spells`), so files of fewer than `2 ^ 32` records are spelled by what is written for
them.  Thus a record file that breaks off anywhere is never taken for another one
(`encode_decodes_only_whole`).
-/

namespace UpdatePipeline

namespace Binary

variable {α : Type}

/-! ## Octets that spell a value -/

/-- A step reads `value` off these octets, whatever follows them, and finds them truncated
wherever they break off. -/
structure Spells (step : Step α) (octets : Octets) (value : α) : Prop where
  read : ∀ rest, step (octets ++ rest) = .ok (value, rest)
  cut : ∀ start, start <+: octets → start ≠ octets → step start = .error .truncated

/-- Values are read off what their grammar spells them with. -/
theorem Parses.spells {step : Step α} {g : Grammar α} (h : Parses step g) {octets : Octets}
    {value : α} (hspells : g.spells octets value) : Spells step octets value where
  read rest := (h.ok_iff _ value rest).2 ⟨octets, rfl, hspells⟩
  cut start hstart hne := by
    obtain ⟨missing, rfl⟩ := hstart
    refine (h.truncated_iff start).2 ⟨missing, value, ?_, hspells⟩
    rintro rfl
    exact hne (List.append_nil start).symm

/-- Four octets are enough to count the records, so the file spells all of them. -/
theorem spells_file {m : Records} (hkeyed : m.IsKeyed) (hsize : m.size < UInt32.size) :
    Spells takeFile (encode m) m := by
  have hlength : m.values.length = m.size := List.length_map _
  have hencode : encode m = fileUpTo m.values.length m.values := by rw [fileUpTo, hlength, encode]
  refine parses_file.spells ⟨m.values, ?_, hencode, hkeyed.ofList_values.symm⟩
  rwa [hlength]

/-! ## Whole files and parts of them -/

theorem decode_encode {m : Records} (hkeyed : m.IsKeyed) (hsize : m.size < UInt32.size) :
    decode (encode m) = .ok m := by
  have hread := (spells_file hkeyed hsize).read []
  rw [List.append_nil] at hread
  rw [decode_eq, hread]
  rfl

theorem decode_of_cut {m : Records} (hkeyed : m.IsKeyed) (hsize : m.size < UInt32.size)
    {start : Octets} (hstart : start <+: encode m) (hne : start ≠ encode m) :
    decode start = .error .truncated := by
  rw [decode_eq, (spells_file hkeyed hsize).cut start hstart hne]
  rfl

/-- Whatever a file holds, a record read from it stands under its own scope. -/
theorem isKeyed_of_decode {octets : Octets} {m : Records} (h : decode octets = .ok m) :
    m.IsKeyed := by
  obtain ⟨rs, -, hlast⟩ := decode_ok_iff_holdsAll.1 h
  exact hlast.keyed

/-- What is written for fewer than `2 ^ 32` records is read back as they were.  Whatever breaks
off within it, be it behind a whole record, is found truncated, and no store opens on it. -/
theorem encode_decodes_only_whole (m : Records) (hkeyed : m.IsKeyed)
    (hsize : m.size < UInt32.size) :
    decode (encode m) = .ok m ∧
      ∀ start, start <+: encode m → start ≠ encode m →
        decode start = .error .truncated ∧
          ∀ v : Volume, v.content = some (.octets start) →
            Store.load .recordFile v = .error ⟨.invalidData, "truncated update state"⟩ := by
  refine ⟨decode_encode hkeyed hsize, fun start hstart hne => ?_⟩
  have htruncated := decode_of_cut hkeyed hsize hstart hne
  refine ⟨htruncated, fun v hv => ?_⟩
  exact Store.load_of_fault hv htruncated

/-- The account and a channel, with and without the optional values. -/
def accountAndChannel : Records :=
  .ofList [{ scope := .account, pts := 12, qts := some (-1), date := some 1001 },
    { scope := Scope.ofChannel 123, pts := 500 }]

theorem encode_decodes_only_whole_accountAndChannel :
    accountAndChannel.IsKeyed ∧ accountAndChannel.size < UInt32.size ∧
      decode (encode accountAndChannel) = .ok accountAndChannel ∧
      decode ((encode accountAndChannel).take 18) = .error .truncated := by
  have hkeyed : accountAndChannel.IsKeyed := Records.isKeyed_ofList _
  have hsize : accountAndChannel.size < UInt32.size := by decide
  obtain ⟨hwhole, hcut⟩ := encode_decodes_only_whole accountAndChannel hkeyed hsize
  exact ⟨hkeyed, hsize, hwhole, (hcut _ (List.take_prefix 18 _) (by decide)).1⟩

end Binary

end UpdatePipeline
