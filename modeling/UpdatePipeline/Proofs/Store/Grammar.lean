import UpdatePipeline.Proofs.Peers
import UpdatePipeline.Proofs.Records
import UpdatePipeline.Store.Backend
set_option autoImplicit false

/-!
# The grammar of record files

A grammar says which octets spell which value, and which octets may come before a flag
(`Grammar`).  A step parses a grammar if each of its outcomes is settled by it (`Parses`): it
reads a value exactly off octets that begin with its spelling, it refuses a flag exactly where a
flag is due and neither 0 nor 1 stands, and it finds octets truncated exactly if they lack
something of a spelling.  Steps one behind the other parse the grammars one behind the other
(`Parses.andThen`), so the reader of files parses the grammar of files
(`decode_accepts_grammar`), whatever the count at the beginning of a file announces.
-/

namespace UpdatePipeline

namespace Binary

variable {α β : Type}

/-! ## Steps one after the other -/

/-- A step that reads nothing. -/
def Step.pure (value : α) : Step α := fun octets => .ok (value, octets)

/-- A step, and behind what it has read another one. -/
def Step.andThen (step : Step α) (next : α → Step β) : Step β := fun octets => do
  let (value, rest) ← step octets
  next value rest

theorem Step.andThen_of_ok {step : Step α} {octets rest : Octets} {value : α}
    (h : step octets = .ok (value, rest)) (next : α → Step β) :
    step.andThen next octets = next value rest := by
  rw [andThen, h]
  rfl

theorem Step.andThen_of_error {step : Step α} {octets : Octets} {fault : Fault}
    (h : step octets = .error fault) (next : α → Step β) :
    step.andThen next octets = .error fault := by
  rw [andThen, h]
  rfl

/-- What two steps have read was read by the first and then by the second. -/
theorem Step.andThen_eq_ok {step : Step α} {next : α → Step β} {octets : Octets}
    {r : β × Octets} (h : step.andThen next octets = .ok r) :
    ∃ value rest, step octets = .ok (value, rest) ∧ next value rest = .ok r := by
  cases hstep : step octets with
  | error fault =>
    rw [andThen_of_error hstep] at h
    cases h
  | ok read =>
    rw [andThen_of_ok hstep] at h
    exact ⟨read.1, read.2, rfl, h⟩

/-- A fault of two steps is met by the first, or by the second behind it. -/
theorem Step.andThen_eq_error_iff {step : Step α} {next : α → Step β} {octets : Octets}
    {fault : Fault} : step.andThen next octets = .error fault ↔
      step octets = .error fault ∨
        ∃ value rest, step octets = .ok (value, rest) ∧ next value rest = .error fault := by
  cases hstep : step octets with
  | error met =>
    rw [andThen_of_error hstep]
    simp
  | ok read =>
    obtain ⟨value, rest⟩ := read
    rw [andThen_of_ok hstep]
    simp

/-- The number of records, and as many of them. -/
def takeFile : Step Records := (takeNumber 4).andThen fun count => takeRecords count ∅

theorem takeRecord_eq :
    takeRecord = takeInt64.andThen fun scope => takeInt32.andThen fun pts =>
      takeOption.andThen fun qts => takeOption.andThen fun date =>
        Step.pure { scope, pts, qts, date } := rfl

theorem takeRecords_succ (count : Nat) (records : Records) :
    takeRecords (count + 1) records =
      takeRecord.andThen fun record => takeRecords count (records.set record) := rfl

theorem decode_eq (octets : Octets) : decode octets = (takeFile octets).map (·.1) := by
  unfold decode takeFile Step.andThen
  cases takeNumber 4 octets with
  | error fault => rfl
  | ok read =>
    obtain ⟨count, rest⟩ := read
    change (takeRecords count ∅ rest >>= fun r => pure r.1) = (takeRecords count ∅ rest).map (·.1)
    cases takeRecords count ∅ rest with
    | error fault => rfl
    | ok r => rfl

/-! ## Grammars -/

/-- Which octets spell a value, and which come before a flag. -/
structure Grammar (α : Type) where
  spells : Octets → α → Prop
  flagAt : Octets → Prop := fun _ => False

/-- A value without octets. -/
def Grammar.pure (value : α) : Grammar α where
  spells octets x := octets = [] ∧ x = value

/-- One value, and behind it another. -/
def Grammar.andThen (g : Grammar α) (next : α → Grammar β) : Grammar β where
  spells octets y :=
    ∃ first x second, octets = first ++ second ∧ g.spells first x ∧ (next x).spells second y
  flagAt octets := g.flagAt octets ∨
    ∃ first x second, octets = first ++ second ∧ g.spells first x ∧ (next x).flagAt second

section Grammar

variable {g : Grammar α} {next : α → Grammar β} {first second octets : Octets} {x : α} {y : β}

theorem Grammar.spells_andThen (hx : g.spells first x) (hy : (next x).spells second y) :
    (g.andThen next).spells (first ++ second) y :=
  ⟨first, x, second, rfl, hx, hy⟩

theorem Grammar.flagAt_andThen_within (hdue : g.flagAt octets) : (g.andThen next).flagAt octets :=
  .inl hdue

theorem Grammar.flagAt_andThen_behind (hx : g.spells first x) (hdue : (next x).flagAt second) :
    (g.andThen next).flagAt (first ++ second) :=
  .inr ⟨first, x, second, rfl, hx, hdue⟩

end Grammar

/-- A step reads a grammar: all its outcomes are settled by it. -/
structure Parses (step : Step α) (g : Grammar α) : Prop where
  ok_iff : ∀ octets value rest,
    step octets = .ok (value, rest) ↔ ∃ read, octets = read ++ rest ∧ g.spells read value
  badFlag_iff : ∀ octets flag, step octets = .error (.badFlag flag) ↔
    (flag ≠ 0 ∧ flag ≠ 1) ∧ ∃ before rest, octets = before ++ flag :: rest ∧ g.flagAt before
  truncated_iff : ∀ octets, step octets = .error .truncated ↔
    ∃ missing value, missing ≠ [] ∧ g.spells (octets ++ missing) value

/-- Only what a grammar says matters. -/
theorem Parses.congr {step : Step α} {g g' : Grammar α} (h : Parses step g)
    (hspells : ∀ octets value, g.spells octets value ↔ g'.spells octets value)
    (hflag : ∀ octets, g.flagAt octets ↔ g'.flagAt octets) : Parses step g' where
  ok_iff octets value rest := by simp only [h.ok_iff, hspells]
  badFlag_iff octets flag := by simp only [h.badFlag_iff, hflag]
  truncated_iff octets := by simp only [h.truncated_iff, hspells]

/-- Everything is parsed to an end of some sort, so a grammar that is parsed spells something. -/
theorem Parses.exists_spells {step : Step α} {g : Grammar α} (h : Parses step g) :
    ∃ octets value, g.spells octets value := by
  cases hstep : step [] with
  | ok read =>
    obtain ⟨octets, -, hspells⟩ := (h.ok_iff [] read.1 read.2).1 hstep
    exact ⟨octets, read.1, hspells⟩
  | error fault =>
    cases fault with
    | truncated =>
      obtain ⟨missing, value, -, hspells⟩ := (h.truncated_iff []).1 hstep
      exact ⟨_, value, hspells⟩
    | badFlag flag =>
      obtain ⟨-, before, rest, hnil, -⟩ := (h.badFlag_iff [] flag).1 hstep
      simp at hnil

theorem parses_pure (value : α) : Parses (Step.pure value) (.pure value) where
  ok_iff octets x rest := by
    simp only [Step.pure, Grammar.pure, Except.ok.injEq, Prod.mk.injEq]
    constructor
    · rintro ⟨rfl, rfl⟩
      exact ⟨[], rfl, rfl, rfl⟩
    · rintro ⟨read, rfl, rfl, rfl⟩
      exact ⟨rfl, rfl⟩
  badFlag_iff octets flag := by simp [Step.pure, Grammar.pure]
  truncated_iff octets := by
    simp only [Step.pure, Grammar.pure, reduceCtorEq, false_iff, not_exists, not_and]
    rintro missing x hmissing hnil
    exact absurd (List.append_eq_nil_iff.1 hnil).2 hmissing

theorem Parses.andThen {step : Step α} {next : α → Step β} {g : Grammar α} {h : α → Grammar β}
    (hstep : Parses step g) (hnext : ∀ x, Parses (next x) (h x)) :
    Parses (step.andThen next) (g.andThen h) where
  ok_iff octets y rest := by
    constructor
    · intro hread
      obtain ⟨x, middle, hfirst, hsecond⟩ := Step.andThen_eq_ok hread
      obtain ⟨first, rfl, hx⟩ := (hstep.ok_iff octets x middle).1 hfirst
      obtain ⟨second, rfl, hy⟩ := ((hnext x).ok_iff middle y rest).1 hsecond
      exact ⟨first ++ second, (List.append_assoc _ _ _).symm, Grammar.spells_andThen hx hy⟩
    · rintro ⟨_, rfl, first, x, second, rfl, hx, hy⟩
      have hfirst := (hstep.ok_iff _ x (second ++ rest)).2 ⟨first, List.append_assoc _ _ _, hx⟩
      rw [Step.andThen_of_ok hfirst]
      exact ((hnext x).ok_iff _ y rest).2 ⟨second, rfl, hy⟩
  badFlag_iff octets flag := by
    rw [Step.andThen_eq_error_iff, hstep.badFlag_iff]
    constructor
    · rintro (⟨hbad, before, rest, rfl, hdue⟩ | ⟨x, middle, hfirst, hsecond⟩)
      · exact ⟨hbad, before, rest, rfl, Grammar.flagAt_andThen_within hdue⟩
      · obtain ⟨first, rfl, hx⟩ := (hstep.ok_iff octets x middle).1 hfirst
        obtain ⟨hbad, before, rest, rfl, hdue⟩ := ((hnext x).badFlag_iff middle flag).1 hsecond
        exact ⟨hbad, first ++ before, rest, (List.append_assoc _ _ _).symm,
          Grammar.flagAt_andThen_behind hx hdue⟩
    · rintro ⟨hbad, before, rest, rfl, hdue | ⟨first, x, second, rfl, hx, hdue⟩⟩
      · exact .inl ⟨hbad, before, rest, rfl, hdue⟩
      · refine .inr ⟨x, second ++ flag :: rest, ?_, ?_⟩
        · exact (hstep.ok_iff _ x _).2 ⟨first, List.append_assoc _ _ _, hx⟩
        · exact ((hnext x).badFlag_iff _ flag).2 ⟨hbad, second, rest, rfl, hdue⟩
  truncated_iff octets := by
    rw [Step.andThen_eq_error_iff, hstep.truncated_iff]
    constructor
    · rintro (⟨missing, x, hmissing, hx⟩ | ⟨x, middle, hfirst, hsecond⟩)
      · -- beside the rest of the first value all of a second one is missing
        obtain ⟨second, y, hy⟩ := (hnext x).exists_spells
        refine ⟨missing ++ second, y, by simp [hmissing], octets ++ missing, x, second, ?_, hx, hy⟩
        exact (List.append_assoc _ _ _).symm
      · obtain ⟨first, rfl, hx⟩ := (hstep.ok_iff octets x middle).1 hfirst
        obtain ⟨missing, y, hmissing, hy⟩ := ((hnext x).truncated_iff middle).1 hsecond
        exact ⟨missing, y, hmissing, first, x, middle ++ missing, List.append_assoc _ _ _, hx, hy⟩
    · rintro ⟨missing, y, hmissing, first, x, second, hsplit, hx, hy⟩
      -- the octets end within the first value or within the second
      rcases List.append_eq_append_iff.1 hsplit with ⟨lack, rfl, rfl⟩ | ⟨middle, rfl, rfl⟩
      · by_cases hlack : lack = []
        · subst hlack
          refine .inr ⟨x, [], ?_, ?_⟩
          · exact (hstep.ok_iff _ x []).2 ⟨octets, (List.append_nil _).symm, by simpa using hx⟩
          · exact ((hnext x).truncated_iff []).2 ⟨second, y, by simpa using hmissing, hy⟩
        · exact .inl ⟨lack, x, hlack, hx⟩
      · refine .inr ⟨x, middle, ?_, ?_⟩
        · exact (hstep.ok_iff _ x middle).2 ⟨first, rfl, hx⟩
        · exact ((hnext x).truncated_iff middle).2 ⟨missing, y, hmissing, hy⟩

/-- A value that a step makes of another one is spelled as that one. -/
theorem Parses.map {step : Step α} {g : Grammar α} (h : Parses step g) (f : α → β) :
    Parses (step.andThen fun x => Step.pure (f x))
      { spells := fun octets y => ∃ x, g.spells octets x ∧ y = f x, flagAt := g.flagAt } := by
  refine (h.andThen fun x => parses_pure (f x)).congr (fun octets y => ?_) fun octets => ?_
  · constructor
    · rintro ⟨first, x, _, rfl, hx, rfl, rfl⟩
      exact ⟨x, by rwa [List.append_nil], rfl⟩
    · rintro ⟨x, hx, rfl⟩
      exact ⟨octets, x, [], (List.append_nil _).symm, hx, rfl, rfl⟩
  · simp [Grammar.andThen, Grammar.pure]

/-! ## Numbers -/

/-- Numbers of so many octets, the lowest first. -/
def Grammar.number (width : Nat) : Grammar Nat where
  spells octets n := n < Nat.pow 256 width ∧ octets = littleEndian width n

/-- Values that are spelled as they are written, without flags. -/
def Grammar.written (write : α → Octets) : Grammar α where
  spells octets x := octets = write x

@[simp] theorem length_littleEndian (width n : Nat) : (littleEndian width n).length = width := by
  induction width generalizing n with
  | zero => rfl
  | succ width ih => simp [littleEndian, ih]

theorem numberOf_littleEndian {width n : Nat} (h : n < Nat.pow 256 width) :
    numberOf (littleEndian width n) = n := by
  induction width generalizing n with
  | zero =>
    have hzero : n = 0 := Nat.lt_one_iff.1 h
    rw [hzero]
    rfl
  | succ width ih =>
    have hrest : n / 256 < Nat.pow 256 width :=
      Nat.div_lt_of_lt_mul (by rw [Nat.mul_comm]; exact h)
    have hcons : numberOf (littleEndian (width + 1) n) =
        (UInt8.ofNat (n % 256)).toNat + 256 * numberOf (littleEndian width (n / 256)) := rfl
    rw [hcons, ih hrest, UInt8.toNat_ofNat']
    omega

theorem numberOf_cons (o : UInt8) (octets : Octets) :
    numberOf (o :: octets) = o.toNat + 256 * numberOf octets := rfl

theorem numberOf_lt (octets : Octets) : numberOf octets < Nat.pow 256 octets.length := by
  induction octets with
  | nil => exact Nat.one_pos
  | cons o octets ih =>
    have hpow : Nat.pow 256 (o :: octets).length = Nat.pow 256 octets.length * 256 := rfl
    have ho := o.toNat_lt
    rw [numberOf_cons, hpow]
    omega

theorem littleEndian_numberOf (octets : Octets) :
    littleEndian octets.length (numberOf octets) = octets := by
  induction octets with
  | nil => rfl
  | cons o octets ih =>
    have ho := o.toNat_lt
    have hlow : (o.toNat + 256 * numberOf octets) % 256 = o.toNat := by omega
    have hhigh : (o.toNat + 256 * numberOf octets) / 256 = numberOf octets := by omega
    rw [List.length_cons, littleEndian, numberOf_cons, hlow, hhigh, ih, UInt8.ofNat_toNat]

/-- All octets spell a number. -/
theorem number_spells {width : Nat} {octets : Octets} (h : octets.length = width) :
    (Grammar.number width).spells octets (numberOf octets) := by
  subst h
  exact ⟨numberOf_lt octets, (littleEndian_numberOf octets).symm⟩

/-- A number that is written comes back, whatever follows it. -/
theorem takeNumber_littleEndian {width n : Nat} (h : n < Nat.pow 256 width) (rest : Octets) :
    takeNumber width (littleEndian width n ++ rest) = .ok (n, rest) := by
  have hlength : width ≤ (littleEndian width n ++ rest).length := by simp
  rw [takeNumber, if_pos hlength, List.take_left' (length_littleEndian width n),
    List.drop_left' (length_littleEndian width n), numberOf_littleEndian h]

theorem takeNumber_eq_truncated_iff {width : Nat} {octets : Octets} :
    takeNumber width octets = .error .truncated ↔ octets.length < width := by
  rw [takeNumber]
  split
  · simp only [reduceCtorEq, false_iff]
    omega
  · simp only [true_iff]
    omega

theorem parses_number (width : Nat) : Parses (takeNumber width) (.number width) where
  ok_iff octets n rest := by
    constructor
    · intro hread
      rw [takeNumber] at hread
      split at hread
      · rename_i hlength
        obtain ⟨rfl, rfl⟩ := Prod.mk.inj (Except.ok.inj hread)
        refine ⟨octets.take width, (List.take_append_drop _ _).symm, number_spells ?_⟩
        exact List.length_take_of_le hlength
      · cases hread
    · rintro ⟨_, rfl, hbound, rfl⟩
      exact takeNumber_littleEndian hbound rest
  badFlag_iff octets flag := by
    rw [takeNumber]
    split <;> simp [Grammar.number]
  truncated_iff octets := by
    rw [takeNumber_eq_truncated_iff]
    constructor
    · intro hshort
      let missing : Octets := List.replicate (width - octets.length) 0
      have hwidth : (octets ++ missing).length = width := by
        rw [List.length_append, List.length_replicate]
        omega
      refine ⟨missing, numberOf (octets ++ missing), ?_, number_spells hwidth⟩
      rw [ne_eq, List.replicate_eq_nil_iff]
      omega
    · rintro ⟨missing, n, hmissing, -, hspelled⟩
      have hlength := congrArg List.length hspelled
      have hsome := List.length_pos_of_ne_nil hmissing
      rw [List.length_append, length_littleEndian] at hlength
      omega

/-- Values that correspond to the numbers of so many octets are spelled as their numbers are. -/
theorem parses_numbered {width : Nat} {toNat : α → Nat} (ofNat : Nat → α)
    (hbound : ∀ x, toNat x < Nat.pow 256 width) (hvalue : ∀ x, ofNat (toNat x) = x)
    (hnumber : ∀ n, n < Nat.pow 256 width → toNat (ofNat n) = n) :
    Parses ((takeNumber width).andThen fun n => Step.pure (ofNat n))
      (.written fun x => littleEndian width (toNat x)) := by
  refine ((parses_number width).map ofNat).congr (fun octets x => ?_) fun _ => Iff.rfl
  constructor
  · rintro ⟨n, ⟨hn, rfl⟩, rfl⟩
    exact congrArg (littleEndian width) (hnumber n hn).symm
  · rintro rfl
    exact ⟨toNat x, ⟨hbound x, rfl⟩, (hvalue x).symm⟩

theorem parses_int32 : Parses takeInt32 (.written encodeInt32) := by
  have hbound (n : Int32) : n.toUInt32.toNat < Nat.pow 256 4 := n.toUInt32.toNat_lt
  have hvalue (n : Int32) : (UInt32.ofNat n.toUInt32.toNat).toInt32 = n := by
    rw [UInt32.ofNat_toNat, Int32.toInt32_toUInt32]
  exact parses_numbered (fun k => (UInt32.ofNat k).toInt32) hbound hvalue
    fun k hk => Nat.mod_eq_of_lt hk

theorem parses_int64 : Parses takeInt64 (.written encodeInt64) := by
  have hbound (n : Int64) : n.toUInt64.toNat < Nat.pow 256 8 := n.toUInt64.toNat_lt
  have hvalue (n : Int64) : (UInt64.ofNat n.toUInt64.toNat).toInt64 = n := by
    rw [UInt64.ofNat_toNat, Int64.toInt64_toUInt64]
  exact parses_numbered (fun k => (UInt64.ofNat k).toInt64) hbound hvalue
    fun k hk => Nat.mod_eq_of_lt hk

/-! ## Records -/

/-- Optional values: a flag, and behind the flag 1 a value. -/
def Grammar.option : Grammar (Option Int32) where
  spells octets o := octets = encodeOption o
  flagAt octets := octets = []

theorem takeOption_zero (octets : Octets) : takeOption (0 :: octets) = .ok (none, octets) := rfl

theorem takeOption_one (octets : Octets) :
    takeOption (1 :: octets) = (takeInt32.andThen fun n => Step.pure (some n)) octets := rfl

theorem takeOption_bad {flag : UInt8} (h : flag ≠ 0 ∧ flag ≠ 1) (octets : Octets) :
    takeOption (flag :: octets) = .error (.badFlag flag) := by
  rw [takeOption, if_neg h.1, if_neg h.2]

/-- Flags are 0, 1 or bad. -/
theorem flag_cases (flag : UInt8) : flag = 0 ∨ flag = 1 ∨ flag ≠ 0 ∧ flag ≠ 1 := by
  by_cases hzero : flag = 0
  · exact .inl hzero
  · by_cases hone : flag = 1
    · exact .inr (.inl hone)
    · exact .inr (.inr ⟨hzero, hone⟩)

/-- What an optional value is spelled with is settled by its flag. -/
theorem cons_eq_encodeOption_iff {flag : UInt8} {octets : Octets} {o : Option Int32} :
    flag :: octets = encodeOption o ↔
      flag = 0 ∧ octets = [] ∧ o = none ∨ flag = 1 ∧ ∃ n, octets = encodeInt32 n ∧ o = some n := by
  cases o with
  | none => simp [encodeOption]
  | some n => simp [encodeOption]

theorem parses_option : Parses takeOption .option where
  ok_iff octets o rest := by
    cases octets with
    | nil => cases o <;> simp [takeOption, Grammar.option, encodeOption]
    | cons flag octets =>
      rcases flag_cases flag with rfl | rfl | hbad
      · rw [takeOption_zero]
        cases o <;> simp [Grammar.option, encodeOption, eq_comm]
      · rw [takeOption_one, (parses_int32.map some).ok_iff]
        cases o <;> simp [Grammar.written, Grammar.option, encodeOption]
      · rw [takeOption_bad hbad]
        cases o <;> simp [Grammar.option, encodeOption, hbad]
  badFlag_iff octets flag := by
    cases octets with
    | nil => simp [takeOption, Grammar.option]
    | cons first octets =>
      have hfirst : (∃ before rest, first :: octets = before ++ flag :: rest ∧
          Grammar.option.flagAt before) ↔ first = flag := by
        simp [Grammar.option]
      rw [hfirst]
      rcases flag_cases first with rfl | rfl | hbad
      · rw [takeOption_zero]
        simp +contextual [eq_comm]
      · rw [takeOption_one, (parses_int32.map some).badFlag_iff]
        simp +contextual [Grammar.written, eq_comm]
      · rw [takeOption_bad hbad, Except.error.injEq, Fault.badFlag.injEq]
        exact ⟨fun h => ⟨h ▸ hbad, h⟩, And.right⟩
  truncated_iff octets := by
    cases octets with
    | nil => exact iff_of_true rfl ⟨encodeOption none, none, List.cons_ne_nil _ _, rfl⟩
    | cons flag octets =>
      rcases flag_cases flag with rfl | rfl | hbad
      · rw [takeOption_zero]
        simp [Grammar.option, cons_eq_encodeOption_iff]
      · rw [takeOption_one, (parses_int32.map some).truncated_iff]
        simp [Grammar.written, Grammar.option, cons_eq_encodeOption_iff]
      · rw [takeOption_bad hbad]
        simp [Grammar.option, cons_eq_encodeOption_iff, hbad]

/-- What comes before a flag in a record: the scope and the position, and before the second flag
the first of the optional values too. -/
inductive BeforeFlag : Octets → Prop where
  | qts (scope : Scope) (pts : Int32) : BeforeFlag (encodeInt64 scope ++ encodeInt32 pts)
  | date (scope : Scope) (pts : Int32) (qts : Option Int32) :
      BeforeFlag (encodeInt64 scope ++ encodeInt32 pts ++ encodeOption qts)

/-- Records. -/
def Grammar.record : Grammar StateRecord where
  spells octets r := octets = encodeRecord r
  flagAt := BeforeFlag

theorem parses_record : Parses takeRecord .record := by
  rw [takeRecord_eq]
  refine (parses_int64.andThen fun scope => parses_int32.andThen fun pts =>
    parses_option.andThen fun qts => parses_option.map fun date =>
      ({ scope, pts, qts, date } : StateRecord)).congr (fun octets r => ?_) fun octets => ?_
  · constructor
    · rintro ⟨_, scope, _, rfl, rfl, _, pts, _, rfl, rfl, _, qts, _, rfl, rfl, date, rfl, rfl⟩
      simp [Grammar.record, encodeRecord]
    · rintro rfl
      rw [encodeRecord, List.append_assoc, List.append_assoc]
      refine Grammar.spells_andThen rfl (Grammar.spells_andThen rfl (Grammar.spells_andThen rfl ?_))
      exact ⟨r.date, rfl, rfl⟩
  · constructor
    · rintro (h | ⟨_, scope, _, rfl, rfl, h | ⟨_, pts, _, rfl, rfl, h | ⟨_, qts, _, rfl, rfl, h⟩⟩⟩)
      · exact h.elim
      · exact h.elim
      · obtain rfl := h
        rw [List.append_nil]
        exact .qts scope pts
      · obtain rfl := h
        rw [List.append_nil, ← List.append_assoc]
        exact .date scope pts qts
    · rintro (⟨scope, pts⟩ | ⟨scope, pts, qts⟩)
      · rw [← List.append_nil (encodeInt32 pts)]
        refine Grammar.flagAt_andThen_behind rfl (Grammar.flagAt_andThen_behind rfl ?_)
        exact Grammar.flagAt_andThen_within rfl
      · rw [List.append_assoc, ← List.append_nil (encodeOption qts)]
        refine Grammar.flagAt_andThen_behind rfl (Grammar.flagAt_andThen_behind rfl ?_)
        exact Grammar.flagAt_andThen_behind rfl rfl

/-- So many records, one behind the other, put over those read before. -/
def Grammar.records (count : Nat) (before : Records) : Grammar Records where
  spells octets m := ∃ rs : List StateRecord,
    rs.length = count ∧ octets = rs.flatMap encodeRecord ∧ m = rs.foldl Records.set before
  flagAt octets := ∃ (rs : List StateRecord) (start : Octets),
    rs.length < count ∧ BeforeFlag start ∧ octets = rs.flatMap encodeRecord ++ start

theorem parses_records (count : Nat) (before : Records) :
    Parses (takeRecords count before) (.records count before) := by
  induction count generalizing before with
  | zero =>
    refine (parses_pure before).congr (fun octets m => ?_) fun octets => ?_
    · simp [Grammar.pure, Grammar.records]
    · simp [Grammar.pure, Grammar.records]
  | succ count ih =>
    rw [takeRecords_succ]
    refine (parses_record.andThen fun r => ih (before.set r)).congr (fun octets m => ?_)
      fun octets => ?_
    · constructor
      · rintro ⟨_, r, _, rfl, rfl, rs, rfl, rfl, rfl⟩
        exact ⟨r :: rs, rfl, rfl, rfl⟩
      · rintro ⟨_ | ⟨r, rs⟩, hlength, rfl, rfl⟩
        · cases hlength
        · rw [List.flatMap_cons]
          exact Grammar.spells_andThen rfl ⟨rs, Nat.succ.inj hlength, rfl, rfl⟩
    · -- the flag is within the first record or behind it
      constructor
      · rintro (hdue | ⟨_, r, _, rfl, rfl, rs, start, hlength, hdue, rfl⟩)
        · exact ⟨[], octets, Nat.succ_pos _, hdue, rfl⟩
        · refine ⟨r :: rs, start, Nat.succ_lt_succ hlength, hdue, ?_⟩
          rw [List.flatMap_cons, List.append_assoc]
      · rintro ⟨_ | ⟨r, rs⟩, start, hlength, hdue, rfl⟩
        · exact Grammar.flagAt_andThen_within hdue
        · rw [List.flatMap_cons, List.append_assoc]
          refine Grammar.flagAt_andThen_behind rfl ?_
          exact ⟨rs, start, Nat.lt_of_succ_lt_succ hlength, hdue, rfl⟩

/-! ## Files -/

/-- A file that announces so many records and has come to these. -/
def fileUpTo (count : Nat) (rs : List StateRecord) : Octets :=
  littleEndian 4 count ++ rs.flatMap encodeRecord

/-- Files: as many records as they announce. -/
def Grammar.file : Grammar Records where
  spells octets m := ∃ rs : List StateRecord,
    rs.length < UInt32.size ∧ octets = fileUpTo rs.length rs ∧ m = Records.ofList rs
  flagAt octets := ∃ (count : Nat) (rs : List StateRecord) (start : Octets),
    count < UInt32.size ∧ rs.length < count ∧ BeforeFlag start ∧
      octets = fileUpTo count rs ++ start

theorem parses_file : Parses takeFile .file := by
  refine ((parses_number 4).andThen fun count => parses_records count ∅).congr
    (fun octets m => ?_) fun octets => ?_
  · constructor
    · rintro ⟨_, count, _, rfl, ⟨hcount, rfl⟩, rs, rfl, rfl, rfl⟩
      exact ⟨rs, hcount, rfl, rfl⟩
    · rintro ⟨rs, hcount, rfl, rfl⟩
      exact Grammar.spells_andThen ⟨hcount, rfl⟩ ⟨rs, rfl, rfl, rfl⟩
  · constructor
    · rintro (hdue | ⟨_, count, _, rfl, ⟨hcount, rfl⟩, rs, start, hlength, hdue, rfl⟩)
      · exact hdue.elim
      · exact ⟨count, rs, start, hcount, hlength, hdue, (List.append_assoc _ _ _).symm⟩
    · rintro ⟨count, rs, start, hcount, hlength, hdue, rfl⟩
      rw [fileUpTo, List.append_assoc]
      exact Grammar.flagAt_andThen_behind ⟨hcount, rfl⟩ ⟨rs, start, hlength, hdue, rfl⟩

/-! ## What is made of the octets of a file -/

/-- The octets begin with as many whole records as they announce, and these are they. -/
def HoldsAll (octets : Octets) (rs : List StateRecord) : Prop :=
  rs.length < UInt32.size ∧ fileUpTo rs.length rs <+: octets

/-- The octets come to a flag: whole records go before, fewer than they announce, and then what
comes before a flag in a record. -/
def ComesTo (octets : Octets) (flag : UInt8) : Prop :=
  ∃ (count : Nat) (rs : List StateRecord) (start : Octets),
    count < UInt32.size ∧ rs.length < count ∧ BeforeFlag start ∧
      fileUpTo count rs ++ start ++ [flag] <+: octets

/-- The octets break off before they have come to as many whole records as they announce. -/
def BreaksOff (octets : Octets) : Prop :=
  ∃ rs : List StateRecord, rs.length < UInt32.size ∧
    octets <+: fileUpTo rs.length rs ∧ octets ≠ fileUpTo rs.length rs

/-- Of these records the last one of each scope, and nothing else. -/
structure KeepsLast (rs : List StateRecord) (m : Records) : Prop where
  keyed : m.IsKeyed
  find?_eq : ∀ scope, m.find? scope = (rs.filter (·.scope = scope)).getLast?

theorem find?_ofList (rs : List StateRecord) (scope : Scope) :
    (Records.ofList rs).find? scope = (rs.filter (·.scope = scope)).getLast? := by
  have h : (Records.ofList rs).find? scope = _ :=
    SortedMap.get?_insertAll ∅ (fun r : StateRecord => r.scope.toInt) rs scope.toInt
  have hnone : (∅ : Records).get? scope.toInt = none := rfl
  rw [h, hnone, Option.or_none]
  simp only [Int64.toInt_inj]

theorem keepsLast_iff {rs : List StateRecord} {m : Records} :
    KeepsLast rs m ↔ m = Records.ofList rs := by
  constructor
  · rintro ⟨hkeyed, hfind⟩
    refine hkeyed.ext (Records.isKeyed_ofList rs) fun scope => ?_
    rw [hfind, find?_ofList]
  · rintro rfl
    exact ⟨Records.isKeyed_ofList rs, find?_ofList rs⟩

theorem decode_eq_ok_iff {octets : Octets} {m : Records} :
    decode octets = .ok m ↔ ∃ rest, takeFile octets = .ok (m, rest) := by
  rw [decode_eq]
  cases takeFile octets with
  | error fault => simp [Except.map]
  | ok read =>
    obtain ⟨records, rest⟩ := read
    simp [Except.map]

theorem decode_eq_error_iff {octets : Octets} {fault : Fault} :
    decode octets = .error fault ↔ takeFile octets = .error fault := by
  rw [decode_eq]
  cases takeFile octets with
  | error fault => simp [Except.map]
  | ok read => simp [Except.map]

theorem decode_ok_iff_holdsAll {octets : Octets} {m : Records} :
    decode octets = .ok m ↔ ∃ rs, HoldsAll octets rs ∧ KeepsLast rs m := by
  simp only [decode_eq_ok_iff, parses_file.ok_iff, keepsLast_iff]
  constructor
  · rintro ⟨rest, _, rfl, rs, hcount, rfl, rfl⟩
    exact ⟨rs, ⟨hcount, List.prefix_append _ _⟩, rfl⟩
  · rintro ⟨rs, ⟨hcount, rest, rfl⟩, rfl⟩
    exact ⟨rest, _, rfl, rs, hcount, rfl, rfl⟩

theorem decode_badFlag_iff_comesTo {octets : Octets} {flag : UInt8} :
    decode octets = .error (.badFlag flag) ↔ (flag ≠ 0 ∧ flag ≠ 1) ∧ ComesTo octets flag := by
  rw [decode_eq_error_iff, parses_file.badFlag_iff]
  refine and_congr_right fun _ => ?_
  constructor
  · rintro ⟨_, rest, rfl, count, rs, start, hcount, hlength, hdue, rfl⟩
    exact ⟨count, rs, start, hcount, hlength, hdue, rest, List.append_assoc _ _ _⟩
  · rintro ⟨count, rs, start, hcount, hlength, hdue, rest, rfl⟩
    exact ⟨_, rest, List.append_assoc _ _ _, count, rs, start, hcount, hlength, hdue, rfl⟩

theorem decode_truncated_iff_breaksOff {octets : Octets} :
    decode octets = .error .truncated ↔ BreaksOff octets := by
  rw [decode_eq_error_iff, parses_file.truncated_iff]
  constructor
  · rintro ⟨missing, _, hmissing, rs, hcount, hfile, rfl⟩
    refine ⟨rs, hcount, ⟨missing, hfile⟩, fun hwhole => hmissing ?_⟩
    rw [← hwhole] at hfile
    exact List.self_eq_append_right.1 hfile.symm
  · rintro ⟨rs, hcount, ⟨missing, hfile⟩, hcut⟩
    refine ⟨missing, _, ?_, rs, hcount, hfile, rfl⟩
    rintro rfl
    exact hcut (by rw [← hfile, List.append_nil])

/-- A record takes 14 octets at least. -/
theorem le_length_encodeRecord (r : StateRecord) : 14 ≤ (encodeRecord r).length := by
  have hqts : 1 ≤ (encodeOption r.qts).length := by cases r.qts <;> simp [encodeOption]
  have hdate : 1 ≤ (encodeOption r.date).length := by cases r.date <;> simp [encodeOption]
  simp only [encodeRecord, encodeInt64, encodeInt32, List.length_append, length_littleEndian]
  omega

theorem le_length_fileUpTo (count : Nat) (rs : List StateRecord) :
    4 + 14 * rs.length ≤ (fileUpTo count rs).length := by
  rw [fileUpTo, List.length_append, length_littleEndian]
  induction rs with
  | nil => exact Nat.le_refl 4
  | cons r rs ih =>
    have hr := le_length_encodeRecord r
    rw [List.flatMap_cons, List.length_append, List.length_cons]
    omega

theorem HoldsAll.length_le {octets : Octets} {rs : List StateRecord} (h : HoldsAll octets rs) :
    rs.length ≤ (octets.length - 4) / 14 := by
  have hfile := le_length_fileUpTo rs.length rs
  have hwithin := h.2.length_le
  omega

/-- All that is made of octets which do not break off is made of what they begin with, so
nothing behind that is looked at. -/
theorem decode_of_not_truncated {octets : Octets} (h : decode octets ≠ .error .truncated) :
    ∃ read, read <+: octets ∧ ∀ other, decode (read ++ other) = decode octets := by
  cases hdecode : decode octets with
  | ok m =>
    obtain ⟨rs, ⟨hcount, hread⟩, hlast⟩ := decode_ok_iff_holdsAll.1 hdecode
    refine ⟨fileUpTo rs.length rs, hread, fun other => ?_⟩
    exact decode_ok_iff_holdsAll.2 ⟨rs, ⟨hcount, List.prefix_append _ _⟩, hlast⟩
  | error fault =>
    cases fault with
    | truncated => exact absurd hdecode h
    | badFlag flag =>
      obtain ⟨hbad, count, rs, start, hcount, hlength, hdue, hread⟩ :=
        decode_badFlag_iff_comesTo.1 hdecode
      refine ⟨fileUpTo count rs ++ start ++ [flag], hread, fun other => ?_⟩
      refine decode_badFlag_iff_comesTo.2 ⟨hbad, count, rs, start, hcount, hlength, hdue, ?_⟩
      exact List.prefix_append _ _

end Binary

namespace Store

variable {v : Volume} {octets : Binary.Octets}

/-- A store opens on a record file that can be read, and holds what was read. -/
theorem load_of_decode {engine : Sqlite.Engine} {records : Records}
    (h : v.content = some (.octets octets)) (hdecode : Binary.decode octets = .ok records) :
    load .recordFile v engine = .ok { kind := .recordFile, records, volume := v, engine } := by
  have hfile : loadRecordFile v = .ok records := by
    simp only [loadRecordFile, h, hdecode]
  unfold load
  simp only [hfile]
  rfl

theorem load_of_fault {fault : Binary.Fault} (h : v.content = some (.octets octets))
    (hdecode : Binary.decode octets = .error fault) :
    load .recordFile v = .error ⟨.invalidData, fault.message⟩ := by
  have hfile : loadRecordFile v = .error ⟨.invalidData, fault.message⟩ := by
    simp only [loadRecordFile, h, hdecode]
  unfold load
  simp only [hfile]
  rfl

end Store

namespace Binary

/-- Octets are read as files of records exactly if they begin with one, whatever follows it, and
then hold the last record of each scope; the number of records is bounded by that of the octets,
whatever is announced.  Flags are refused exactly where the reading comes to them, and all other
octets break off.  The reading never leaves the octets: it goes no further than a part from the
beginning on, unless they break off.  A store opens with the records or says what is wrong. -/
theorem decode_accepts_grammar (octets : Octets) :
    (∀ m, decode octets = .ok m ↔ ∃ rs, HoldsAll octets rs ∧ KeepsLast rs m) ∧
      (∀ rs, HoldsAll octets rs → rs.length ≤ (octets.length - 4) / 14) ∧
      (∀ flag, decode octets = .error (.badFlag flag) ↔
        (flag ≠ 0 ∧ flag ≠ 1) ∧ ComesTo octets flag) ∧
      (decode octets = .error .truncated ↔ BreaksOff octets) ∧
      (decode octets ≠ .error .truncated →
        ∃ read, read <+: octets ∧ ∀ other, decode (read ++ other) = decode octets) ∧
      ∀ isWritable, Store.load .recordFile ⟨isWritable, some (.octets octets)⟩ =
        match decode octets with
        | .ok records =>
          .ok { kind := .recordFile, records, volume := ⟨isWritable, some (.octets octets)⟩ }
        | .error .truncated => .error ⟨.invalidData, "truncated update state"⟩
        | .error (.badFlag flag) => .error ⟨.invalidData, "bad flag " ++ toString flag⟩ := by
  refine ⟨fun m => decode_ok_iff_holdsAll, fun rs => HoldsAll.length_le,
    fun flag => decode_badFlag_iff_comesTo, decode_truncated_iff_breaksOff,
    decode_of_not_truncated, fun isWritable => ?_⟩
  cases hdecode : decode octets with
  | ok records => exact Store.load_of_decode rfl hdecode
  | error fault =>
    cases fault with
    | truncated => exact Store.load_of_fault rfl hdecode
    | badFlag flag => exact Store.load_of_fault rfl hdecode

/-- A file that announces as many records as there can be, and breaks off in the first one. -/
example : decode [255, 255, 255, 255, 7, 0, 0] = .error .truncated := rfl

end Binary

end UpdatePipeline
