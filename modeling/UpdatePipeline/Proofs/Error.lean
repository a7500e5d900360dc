import Mathlib.Data.List.Induction
import Mathlib.Data.List.TakeWhile
import Mathlib.Data.Nat.Digits.Defs
import UpdatePipeline.Error
set_option autoImplicit false

/-!
# The number in a server's message

The server writes the number of an error behind the last underscore of its message.  It is taken
off if it is one, in decimal digits and of 32 bits, and otherwise the message is the name as it
stands (`RpcError.splitNumber?_eq_some_iff`).  So nothing of a message is lost, and a number that
was printed comes back as it was (`RpcError.ofMessage_takesApart`).
-/

namespace UpdatePipeline

namespace RpcError

/-- A text of decimal digits, at least one. -/
def IsNumeral (s : String) : Prop := s ≠ "" ∧ ∀ c ∈ s.toList, c.isDigit

/-- The number that digits stand for, each ten times as much as the one behind it. -/
def worth (digits : List Char) : Nat :=
  Nat.ofDigits 10 (digits.reverse.map fun c => c.toNat - '0'.toNat)

/-- What follows the last underscore of a message. -/
def IsTail (message tail : String) : Prop :=
  '_' ∉ tail.toList ∧ ∃ front, message = front ++ "_" ++ tail

variable {message name digits : List Char} {v : UInt32}

/-! ## Digits -/

theorem ofDigitChars_eq_worth (digits : List Char) :
    Nat.ofDigitChars 10 digits 0 = worth digits := by
  unfold worth
  induction digits using List.reverseRecOn with
  | nil => rfl
  | append_singleton digits c ih =>
    rw [Nat.ofDigitChars_append, ih, List.reverse_concat, List.map_cons, Nat.ofDigits_cons,
      Nat.ofDigitChars_cons, Nat.ofDigitChars_nil, Nat.add_comm]

theorem worth_toDigits (n : Nat) : worth (Nat.toDigits 10 n) = n := by
  rw [← ofDigitChars_eq_worth, Nat.ofDigitChars_ten_toDigits]

theorem isNumeral_toString (n : Nat) : IsNumeral (toString n) := by
  rw [Nat.toString_eq_ofList_toDigits]
  refine ⟨?_, fun c hc => ?_⟩
  · rw [Ne, String.ofList_eq_empty_iff]
    exact Nat.toDigits_ne_nil
  · rw [String.toList_ofList] at hc
    exact Nat.isDigit_of_mem_toDigits (by decide) (by decide) hc

theorem worth_toString (n : Nat) : worth (toString n).toList = n := by
  rw [Nat.toString_eq_ofList_toDigits, String.toList_ofList, worth_toDigits]

/-- The underscore is no digit. -/
theorem IsNumeral.not_mem {s : String} (h : IsNumeral s) : '_' ∉ s.toList := by
  intro hmem
  exact absurd (h.2 _ hmem) (by decide)

/-! ## Where a message is split -/

/-- Digits behind an underscore are all that is read from the end of the message. -/
theorem splitNumber?_append (hdigits : ∀ c ∈ digits, c.isDigit) :
    splitNumber? (name ++ '_' :: digits) =
      if digits ≠ [] ∧ worth digits < UInt32.size then some (name, UInt32.ofNat (worth digits))
      else none := by
  have hreverse : (name ++ '_' :: digits).reverse = digits.reverse ++ '_' :: name.reverse := by simp
  have hall : ∀ c ∈ digits.reverse, c.isDigit := fun c hc => hdigits c (List.mem_reverse.1 hc)
  have htake : ('_' :: name.reverse).takeWhile Char.isDigit = [] := rfl
  have hdrop : ('_' :: name.reverse).dropWhile Char.isDigit = '_' :: name.reverse := rfl
  unfold splitNumber?
  dsimp only
  rw [hreverse, List.takeWhile_append_of_pos hall, List.dropWhile_append_of_pos hall, htake, hdrop]
  simp only [List.append_nil, List.reverse_reverse, ofDigitChars_eq_worth]

/-- Every message that is split has digits behind an underscore. -/
theorem exists_of_splitNumber? (h : splitNumber? message = some (name, v)) :
    ∃ digits, message = name ++ '_' :: digits ∧ ∀ c ∈ digits, c.isDigit := by
  have hparts := List.takeWhile_append_dropWhile (p := Char.isDigit) (l := message.reverse)
  unfold splitNumber? at h
  dsimp only at h
  split at h
  case h_1 front hfront =>
    obtain ⟨-, hname⟩ := Option.ite_none_right_eq_some.1 h
    obtain ⟨rfl, -⟩ := Prod.mk.inj (Option.some.inj hname)
    refine ⟨(message.reverse.takeWhile Char.isDigit).reverse, ?_, fun c hc => ?_⟩
    · calc message = message.reverse.reverse := (List.reverse_reverse message).symm
        _ = (message.reverse.takeWhile Char.isDigit ++ '_' :: front).reverse := by
          rw [← hfront, hparts]
        _ = front.reverse ++ '_' :: (message.reverse.takeWhile Char.isDigit).reverse := by
          rw [List.reverse_append, List.reverse_cons, List.append_assoc, List.singleton_append]
    · exact List.mem_takeWhile_imp (List.mem_reverse.1 hc)
  case h_2 => cases h

/-- A message is split just before digits that make a number, and nowhere else. -/
theorem splitNumber?_eq_some_iff : splitNumber? message = some (name, v) ↔
    ∃ digits, message = name ++ '_' :: digits ∧ digits ≠ [] ∧ (∀ c ∈ digits, c.isDigit) ∧
      worth digits = v.toNat := by
  constructor
  · intro h
    obtain ⟨digits, rfl, hdigits⟩ := exists_of_splitNumber? h
    rw [splitNumber?_append hdigits] at h
    obtain ⟨⟨hsome, hbound⟩, hsplit⟩ := Option.ite_none_right_eq_some.1 h
    obtain ⟨-, rfl⟩ := Prod.mk.inj (Option.some.inj hsplit)
    exact ⟨digits, rfl, hsome, hdigits, (UInt32.toNat_ofNat_of_lt hbound).symm⟩
  · rintro ⟨digits, rfl, hsome, hdigits, hworth⟩
    rw [splitNumber?_append hdigits, hworth, if_pos ⟨hsome, v.toNat_lt⟩, UInt32.ofNat_toNat]

/-! ## What a message says -/

/-- A message of a name, an underscore and a text. -/
theorem eq_append_iff {message name text : String} :
    message = name ++ "_" ++ text ↔ message.toList = name.toList ++ '_' :: text.toList := by
  rw [← String.toList_inj, String.toList_append, String.toList_append, List.append_assoc]
  exact Iff.rfl

/-- The error that a message names, if it is split and if it is not. -/
theorem ofMessage_cases (code : Int32) (message : String) :
    (splitNumber? message.toList = none ∧ ofMessage code message = { code, name := message }) ∨
      ∃ name v, splitNumber? message.toList = some (name, v) ∧
        ofMessage code message = { code, name := String.ofList name, value := some v } := by
  unfold ofMessage
  cases hsplit : splitNumber? message.toList with
  | none => exact .inl ⟨rfl, rfl⟩
  | some parts => exact .inr ⟨parts.1, parts.2, rfl, rfl⟩

theorem ofMessage_code (code : Int32) (message : String) :
    (ofMessage code message).code = code := by
  rcases ofMessage_cases code message with ⟨-, he⟩ | ⟨name, v, -, he⟩
  · rw [he]
  · rw [he]

/-- An error has a name and a number exactly if its message is the two with an underscore between
them. -/
theorem ofMessage_numbered_iff {code : Int32} {message name : String} {v : UInt32} :
    ((ofMessage code message).name = name ∧ (ofMessage code message).value = some v) ↔
      ∃ digits, message = name ++ "_" ++ digits ∧ IsNumeral digits ∧
        worth digits.toList = v.toNat := by
  have hsplit : ((ofMessage code message).name = name ∧ (ofMessage code message).value = some v) ↔
      splitNumber? message.toList = some (name.toList, v) := by
    rcases ofMessage_cases code message with ⟨hnone, he⟩ | ⟨name', v', hsome, he⟩
    · simp [hnone, he]
    · simp only [hsome, he, Option.some_inj, Prod.mk.injEq, ← String.toList_inj,
        String.toList_ofList]
  rw [hsplit, splitNumber?_eq_some_iff]
  constructor
  · rintro ⟨digits, hmessage, hsome, hdigits, hworth⟩
    refine ⟨String.ofList digits, eq_append_iff.2 ?_, ⟨?_, ?_⟩, ?_⟩
    · rw [hmessage, String.toList_ofList]
    · rwa [Ne, String.ofList_eq_empty_iff]
    · rwa [String.toList_ofList]
    · rwa [String.toList_ofList]
  · rintro ⟨digits, hmessage, ⟨hsome, hdigits⟩, hworth⟩
    refine ⟨digits.toList, eq_append_iff.1 hmessage, ?_, hdigits, hworth⟩
    rwa [Ne, String.toList_eq_nil_iff]

/-- What a message says of the error it stands for. -/
structure TakenApart (code : Int32) (message : String) (e : RpcError) : Prop where
  coded : e.code = code
  /-- Without a number the message is the name. -/
  whole : e.value = none → e.name = message
  /-- With one it is the name, an underscore and the number. -/
  split : ∀ v, e.value = some v → ∃ digits, message = e.name ++ "_" ++ digits ∧
    IsNumeral digits ∧ worth digits.toList = v.toNat
  /-- There is one exactly if one of 32 bits follows the last underscore. -/
  genuine : e.value.isSome ↔ ∃ tail, IsTail message tail ∧ IsNumeral tail ∧
    worth tail.toList < UInt32.size
  /-- A number that was printed behind any name is read. -/
  printed : ∀ name (v : UInt32), message = name ++ "_" ++ toString v.toNat →
    e.name = name ∧ e.value = some v
  /-- The server asks for a wait exactly if this is the name and the code is 420. -/
  asksToWait : ∀ v, e.floodWait? = some v ↔ code = 420 ∧ ∃ digits,
    message = "FLOOD_WAIT_" ++ digits ∧ IsNumeral digits ∧ worth digits.toList = v.toNat
  waits : ∀ v : UInt32, code = 420 → message = "FLOOD_WAIT_" ++ toString v.toNat →
    (InvocationError.rpc e).floodWait? = some v

/-- Whatever the code and the message. -/
theorem ofMessage_takesApart (code : Int32) (message : String) :
    TakenApart code message (ofMessage code message) := by
  have hprinted : ∀ name (v : UInt32), message = name ++ "_" ++ toString v.toNat →
      (ofMessage code message).name = name ∧ (ofMessage code message).value = some v := by
    intro name v hmessage
    exact ofMessage_numbered_iff.2 ⟨_, hmessage, isNumeral_toString _, worth_toString _⟩
  have hwaits : ∀ v, (ofMessage code message).floodWait? = some v ↔ code = 420 ∧ ∃ digits,
      message = "FLOOD_WAIT_" ++ digits ∧ IsNumeral digits ∧ worth digits.toList = v.toNat := by
    intro v
    have hname : "FLOOD_WAIT_" = "FLOOD_WAIT" ++ "_" := rfl
    rw [floodWait?, ofMessage_code, Option.ite_none_right_eq_some, and_assoc, hname]
    exact and_congr_right fun _ => ofMessage_numbered_iff
  constructor
  case coded => exact ofMessage_code code message
  case whole =>
    intro hnone
    rcases ofMessage_cases code message with ⟨-, he⟩ | ⟨name, v, -, he⟩
    · rw [he]
    · rw [he] at hnone
      cases hnone
  case split => exact fun v hv => ofMessage_numbered_iff.1 ⟨rfl, hv⟩
  case genuine =>
    constructor
    · intro hsome
      obtain ⟨v, hv⟩ := Option.isSome_iff_exists.1 hsome
      obtain ⟨digits, hmessage, hnumeral, hworth⟩ := ofMessage_numbered_iff.1 ⟨rfl, hv⟩
      exact ⟨digits, ⟨hnumeral.not_mem, _, hmessage⟩, hnumeral, hworth ▸ v.toNat_lt⟩
    · rintro ⟨tail, ⟨-, front, hmessage⟩, hnumeral, hbound⟩
      have hworth := (UInt32.toNat_ofNat_of_lt' hbound).symm
      rw [(ofMessage_numbered_iff.2 ⟨tail, hmessage, hnumeral, hworth⟩).2]
      rfl
  case printed => exact hprinted
  case asksToWait => exact hwaits
  case waits =>
    intro v hcode hmessage
    exact (hwaits v).2 ⟨hcode, _, hmessage, isNumeral_toString _, worth_toString _⟩

end RpcError

end UpdatePipeline
