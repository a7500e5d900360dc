import Mathlib.Data.List.TakeWhile
import UpdatePipeline.Filter
import UpdatePipeline.Parsed.Reading
set_option autoImplicit false

/-!
# Which messages are a command

A message is a command if its text is a slash, the command's name, and behind that nothing, a
blank or an at sign.  What is read of a text as its command is its first word behind the slash
(`Parsed.commandOf?_eq_some_iff`), so blanks between the slash and the name are passed over, and
such a message is taken for the command as well (`Filter.command_accepts_spelled`).
-/

namespace UpdatePipeline

namespace Parsed

/-- Whether a character can be in the name of a command. -/
def isPlain (c : Char) : Bool := !Text.isBlank c && c != '@'

variable {text name word l : List Char} {p : Char → Bool}

theorem isPlain_iff {c : Char} : isPlain c ↔ Text.isBlank c = false ∧ c ≠ '@' := by
  simp [isPlain]

theorem isPlain_eq_false_iff {c : Char} : isPlain c = false ↔ Text.isBlank c ∨ c = '@' := by
  cases hblank : Text.isBlank c <;> simp [isPlain, hblank]

/-! ## Texts -/

theorem takeWhile_eq_iff (hword : ∀ c ∈ word, p c) : l.takeWhile p = word ↔
    ∃ rest, l = word ++ rest ∧ ∀ c, rest.head? = some c → p c = false := by
  constructor
  · rintro rfl
    refine ⟨l.dropWhile p, List.takeWhile_append_dropWhile.symm, fun c hc => ?_⟩
    have hstops := List.head?_dropWhile_not p l
    rwa [hc] at hstops
  · rintro ⟨rest, rfl, hrest⟩
    have hnone : rest.takeWhile p = [] := by
      cases rest with
      | nil => rfl
      | cons c rest => exact List.takeWhile_cons_of_neg (by simp [hrest c rfl])
    rw [List.takeWhile_append_of_pos hword, hnone, List.append_nil]

theorem dropWhile_eq_iff (hword : ∀ c, word.head? = some c → p c = false) :
    l.dropWhile p = word ↔ ∃ front, l = front ++ word ∧ ∀ c ∈ front, p c := by
  constructor
  · rintro rfl
    exact ⟨l.takeWhile p, List.takeWhile_append_dropWhile.symm, fun c => List.mem_takeWhile_imp⟩
  · rintro ⟨front, rfl, hfront⟩
    rw [List.dropWhile_append_of_pos hfront]
    cases word with
    | nil => rfl
    | cons c word => exact List.dropWhile_cons_of_neg (by simp [hword c rfl])

theorem commandOf?_slash_eq_some_iff (hname : name ≠ []) :
    commandOf? ('/' :: text) = some name ↔
      (text.dropWhile Text.isBlank).takeWhile isPlain = name := by
  have hplain : (text.dropWhile Text.isBlank).takeWhile isPlain =
      ((text.dropWhile Text.isBlank).takeWhile (!Text.isBlank ·)).takeWhile (· != '@') := by
    rw [List.takeWhile_takeWhile]
    congr
    funext c
    by_cases hat : c = '@'
    · simp [isPlain, hat]
    · simp [isPlain, hat]
  rw [hplain, commandOf?, Text.firstWord?]
  cases (text.dropWhile Text.isBlank).takeWhile (!Text.isBlank ·) with
  | nil => simp [hname.symm]
  | cons c word => simp

/-- The command of a text is a name just if it stands behind a slash, with nothing but blanks
between them, and the text does not go on with more of a name. -/
theorem commandOf?_eq_some_iff (hname : name ≠ []) (hplain : ∀ c ∈ name, isPlain c) :
    commandOf? text = some name ↔ ∃ blanks rest, text = '/' :: (blanks ++ (name ++ rest)) ∧
      (∀ c ∈ blanks, Text.isBlank c) ∧ ∀ c, rest.head? = some c → isPlain c = false := by
  have hbegins : ∀ rest c, (name ++ rest).head? = some c → Text.isBlank c = false := by
    intro rest c hc
    obtain ⟨d, tail, rfl⟩ := List.exists_cons_of_ne_nil hname
    obtain rfl : d = c := Option.some.inj hc
    exact (isPlain_iff.1 (hplain d List.mem_cons_self)).1
  constructor
  · intro h
    obtain ⟨text, rfl⟩ : ∃ rest, text = '/' :: rest := by
      unfold commandOf? at h
      split at h
      · exact ⟨_, rfl⟩
      · cases h
    rw [commandOf?_slash_eq_some_iff hname, takeWhile_eq_iff hplain] at h
    obtain ⟨rest, hword, hrest⟩ := h
    obtain ⟨blanks, rfl, hblanks⟩ := (dropWhile_eq_iff (hbegins rest)).1 hword
    exact ⟨blanks, rest, rfl, hblanks, hrest⟩
  · rintro ⟨blanks, rest, rfl, hblanks, hrest⟩
    rw [commandOf?_slash_eq_some_iff hname, takeWhile_eq_iff hplain]
    exact ⟨rest, (dropWhile_eq_iff (hbegins rest)).2 ⟨blanks, rfl, hblanks⟩, hrest⟩

/-- The name of a command has no blank and no at sign. -/
structure IsCommandName (name : String) : Prop where
  nonempty : name ≠ ""
  plain : ∀ c ∈ name.toList, Text.isBlank c = false ∧ c ≠ '@'

theorem isCommandName_iff {name : String} :
    IsCommandName name ↔ name ≠ "" ∧ name.toList.all isPlain = true := by
  rw [List.all_eq_true]
  simp only [isPlain_iff]
  exact ⟨fun h => ⟨h.nonempty, h.plain⟩, fun h => ⟨h.1, h.2⟩⟩

instance (name : String) : Decidable (IsCommandName name) :=
  decidable_of_iff _ isCommandName_iff.symm

/-- The text is a slash, something in between, and the name, with nothing, a blank or an at sign
behind it. -/
def Spells (between name text : String) : Prop :=
  ∃ rest, text = "/" ++ between ++ name ++ rest ∧
    ∀ c, rest.toList.head? = some c → Text.isBlank c ∨ c = '@'

section

variable {name between text : String}

theorem IsCommandName.toList_ne_nil (hname : IsCommandName name) : name.toList ≠ [] :=
  mt String.toList_eq_nil_iff.1 hname.nonempty

theorem spells_iff : Spells between name text ↔ ∃ rest : List Char,
    text.toList = '/' :: (between.toList ++ (name.toList ++ rest)) ∧
      ∀ c, rest.head? = some c → isPlain c = false := by
  simp only [isPlain_eq_false_iff]
  constructor
  · rintro ⟨rest, rfl, hrest⟩
    exact ⟨rest.toList, by simp, hrest⟩
  · rintro ⟨rest, htext, hrest⟩
    refine ⟨String.ofList rest, ?_, by rwa [String.toList_ofList]⟩
    rw [← String.toList_inj, htext]
    simp

/-- The command of a message is a name just if nothing but blanks is in between. -/
theorem Message.command?_eq_some_iff (hname : IsCommandName name) (m : Message) :
    m.command? = some name ↔ ∃ text blanks, m.text = some text ∧
      (∀ c ∈ blanks.toList, Text.isBlank c) ∧ Spells blanks name text := by
  have hplain : ∀ c ∈ name.toList, isPlain c := fun c hc => isPlain_iff.2 (hname.plain c hc)
  have hread : m.command? = some name ↔
      ∃ text, m.text = some text ∧ commandOf? text.toList = some name.toList := by
    unfold Message.command?
    rw [Option.map_eq_some_iff]
    constructor
    · rintro ⟨word, hword, rfl⟩
      rw [String.toList_ofList]
      exact Option.bind_eq_some_iff.1 hword
    · intro h
      exact ⟨name.toList, Option.bind_eq_some_iff.2 h, String.ofList_toList⟩
  rw [hread]
  refine exists_congr fun text => ?_
  rw [commandOf?_eq_some_iff hname.toList_ne_nil hplain]
  constructor
  · rintro ⟨htext, blanks, rest, hsplit, hblanks, hrest⟩
    refine ⟨String.ofList blanks, htext, by rwa [String.toList_ofList], ?_⟩
    refine spells_iff.2 ⟨rest, ?_, hrest⟩
    rwa [String.toList_ofList]
  · rintro ⟨blanks, htext, hblanks, hspells⟩
    obtain ⟨rest, hsplit, hrest⟩ := spells_iff.1 hspells
    exact ⟨htext, blanks.toList, rest, hsplit, hblanks, hrest⟩

/-- With blanks in between the name does not follow the slash at once. -/
theorem IsCommandName.eq_empty_of_spells (hname : IsCommandName name)
    (hspells : Spells "" name text) (hblanks : ∀ c ∈ between.toList, Text.isBlank c)
    (hbetween : Spells between name text) : between = "" := by
  obtain ⟨rest, hatOnce, -⟩ := spells_iff.1 hspells
  obtain ⟨rest', hbehind, -⟩ := spells_iff.1 hbetween
  rw [← String.toList_eq_nil_iff]
  cases hchars : between.toList with
  | nil => rfl
  | cons c blanks =>
    obtain ⟨d, tail, hd⟩ := List.exists_cons_of_ne_nil hname.toList_ne_nil
    -- the character behind the slash would be blank and be the first of the name
    have hsame : c = d := by
      rw [hatOnce, hchars, hd] at hbehind
      simpa using (List.cons.inj (List.cons.inj hbehind).2).1.symm
    have hblank := hblanks c (hchars ▸ List.mem_cons_self)
    have hnotBlank := (hname.plain d (hd ▸ List.mem_cons_self)).1
    rw [hsame, hnotBlank] at hblank
    cases hblank

end

end Parsed

namespace Filter

open Parsed (IsCommandName Spells)

/-- What the filter for a command makes of an update. -/
structure TellsCommand (name : String) (u : Parsed.Update) : Prop where
  answers : ∃ accepted, (command name).check u = .ok accepted
  /-- It accepts a message that spells the name behind a slash, with or without blanks between
  them. -/
  accepts : (command name).check u = .ok true ↔ ∃ m text, u.message? = some m ∧
    m.text = some text ∧ ∃ blanks, (∀ c ∈ blanks.toList, Text.isBlank c) ∧ Spells blanks name text
  /-- These are the messages that spell it right behind the slash, unless this one does so behind
  blanks. -/
  atOnce : ∀ m text, u.message? = some m → m.text = some text →
    (((command name).check u = .ok true ↔ Spells "" name text) ↔
      ¬ ∃ blanks, blanks ≠ "" ∧ (∀ c ∈ blanks.toList, Text.isBlank c) ∧ Spells blanks name text)

/-- Whatever the update and its message. -/
theorem command_accepts_spelled (name : String) (hname : IsCommandName name) (u : Parsed.Update) :
    TellsCommand name u := by
  have hcheck : (command name).check u =
      .ok (u.message?.bind Parsed.Message.command? == some name) := rfl
  have haccepts : (command name).check u = .ok true ↔ ∃ m text, u.message? = some m ∧
      m.text = some text ∧ ∃ blanks, (∀ c ∈ blanks.toList, Text.isBlank c) ∧
        Spells blanks name text := by
    rw [hcheck, Except.ok.injEq, beq_iff_eq, Option.bind_eq_some_iff]
    refine exists_congr fun m => ?_
    rw [Parsed.Message.command?_eq_some_iff hname]
    simp only [exists_and_left]
  constructor
  case answers => exact ⟨_, hcheck⟩
  case accepts => exact haccepts
  case atOnce =>
    intro m text hm htext
    have hspelled : (command name).check u = .ok true ↔
        ∃ blanks, (∀ c ∈ blanks.toList, Text.isBlank c) ∧ Spells blanks name text := by
      rw [haccepts]
      simp [hm, htext]
    rw [hspelled]
    constructor
    · rintro honly ⟨blanks, hsome, hblanks, hbehind⟩
      have hatOnce := honly.1 ⟨blanks, hblanks, hbehind⟩
      exact hsome (hname.eq_empty_of_spells hatOnce hblanks hbehind)
    · intro hnone
      constructor
      · rintro ⟨blanks, hblanks, hspells⟩
        by_cases hempty : blanks = ""
        · exact hempty ▸ hspells
        · exact absurd ⟨blanks, hempty, hblanks, hspells⟩ hnone
      · exact fun hatOnce => ⟨"", by simp, hatOnce⟩

/-- A new message of the user 1. -/
def privateMessage (text : String) : Parsed.Update :=
  let data : Schema.MessageData := { id := 1, peer := .user 1, date := 0, text }
  .message {
    id := 1
    chat := { id := 1, kind := .direct, title := none, username := none }
    sender := some { id := 1 }
    date := some 0
    editDate := none
    text := some text
    isOutgoing := false
    source := .message data }

theorem command_accepts_spelled_addressed :
    let u := privateMessage "/start@layer_bot now"
    IsCommandName "start" ∧ TellsCommand "start" u ∧ (command "start").check u = .ok true :=
  ⟨by decide, command_accepts_spelled "start" (by decide) _, by decide⟩

/-- A message with a blank behind the slash is taken for the command, although no name follows the
slash. -/
theorem command_behind_blank_is_accepted :
    let data : Schema.MessageData := { id := 1, peer := .user 1, date := 0, text := "/ start" }
    let u := privateMessage "/ start"
    ((Parsed.Caches.ofCapacities 100 100).read ⟨.newMessage (.message data) 1 1, Peers.none⟩).1 =
        some u ∧
      IsCommandName "start" ∧ (command "start").check u = .ok true ∧
      ¬ Spells "" "start" "/ start" := by
  refine ⟨by decide, by decide, by decide, ?_⟩
  rintro ⟨rest, htext, -⟩
  have hsecond := congrArg (fun s : String => s.toList[1]?) htext
  simp at hsecond

end Filter

end UpdatePipeline
