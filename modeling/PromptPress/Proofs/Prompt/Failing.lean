import Mathlib.Tactic.Common
import PromptPress.Command.Run
import PromptPress.Proofs.Json.Digits
import PromptPress.Proofs.Outcome
import PromptPress.Proofs.Text.Decoding
import PromptPress.Proofs.Text.Pieces

/-!
# How reading a prompt fails

A text that is no prompt is rejected with an error that commands expect, and showing the prompt in a file
ends with exit code 0 or 1. There are three ways in which reading breaks off before a record was checked: a
number of the record is too long, the record is nested deeper than the stack, or the slug is to be made from a
value that is no text. A prompt that was read may still be one that cannot be shown: its record may be deeper
than the stack when it is printed, or hold a loose surrogate. The main law is that there are no other ways
(`Prompt.failsAsExpected_iff`).
-/

namespace PromptPress

open Text

namespace Prompt

variable {α β : Type} {fields : Record Json} {value : Json} {e : ReadError}

/-- The value that the slug of a record is made from: the slug that is given, or the name. -/
def slugSource (fields : Record Json) : Json :=
  filledOr (Json.field fields "slug") (filledOr (Json.field fields "name") (.str defaultName))

/-- The slug of a record is to be made from a value that is no text. -/
def MissesSlugText (value : Json) : Prop :=
  ∃ fields, value = .obj fields ∧ hasComponentCode fields = true ∧ (slugSource fields).string? = none

section Breaks

variable [Interpreter]

/-- Reading the text of a record breaks off: at a number in it, at a container in it, or at its slug. -/
inductive RecordBreaksOff (chars : List Char) : Prop
  | number {count : Nat}
    (h : Json.parse (Interpreter.levels .readPrompt) (String.ofList chars) = .error (.tooManyDigits count))
  | depth {overflow : Overflow}
    (h : Json.parse (Interpreter.levels .readPrompt) (String.ofList chars) = .error (.tooDeep overflow))
  | slug {value : RawJson}
    (h : Json.parse (Interpreter.levels .readPrompt) (String.ofList chars) = .ok value)
    (hslug : MissesSlugText value.replaced)

/-- Reading a text breaks off at the record that it holds. -/
def BreaksOff (text : String) : Prop :=
  isRecordText (trim text.toList) = true ∧ RecordBreaksOff (trim text.toList)

/-- The prompt in a text cannot be shown: its record is deeper than the stack, or has a loose surrogate. -/
def IsUnprintable (text : String) : Prop :=
  ∃ p remarks, read text = .ok (p, remarks) ∧
    ((p.toBriefJson : RawJson).fits (Interpreter.levels .print) = false ∨ isLoose text = true)

end Breaks

/-- If reading fails, then with an error that commands expect. -/
def FailsAsExpected (result : Except ReadError α) : Prop :=
  ∀ e, result = .error e → Command.isExpected e = true

namespace FailsAsExpected

@[simp]
theorem ok (a : α) : FailsAsExpected (.ok a) :=
  Outcome.FailsWith.ok a

@[simp]
theorem error_iff : FailsAsExpected (.error e : Except ReadError α) ↔ Command.isExpected e = true :=
  Outcome.FailsWith.error_iff

@[simp]
theorem map_iff {f : α → β} {result : Except ReadError α} :
    FailsAsExpected (result.map f) ↔ FailsAsExpected result :=
  Outcome.FailsWith.map_iff

/-- Errors of a stage that are all expected. -/
theorem of_mapError {ε : Type} {result : Except ε α} {f : ε → ReadError}
    (h : ∀ e, Command.isExpected (f e) = true) : FailsAsExpected (result.mapError f) := by
  cases result with
  | ok a => exact ok a
  | error e => exact error_iff.mpr (h e)

end FailsAsExpected

/-! ### Records -/

theorem complete_eq :
    complete fields = match slugSource fields with
      | .str source =>
        .ok ((fields.set "name" (filledOr (Json.field fields "name") (.str defaultName))).set "slug"
          (.ofString? (nonEmpty? (Path.slugify source))))
      | _ => .error .slugFromNonText :=
  rfl

theorem ofJson_failsAsExpected_iff : FailsAsExpected (ofJson value) ↔ ¬ MissesSlugText value := by
  cases value with
  | obj fields =>
    by_cases hcode : hasComponentCode fields = true
    · -- the slug is made before the fields are checked, and these fail as expected
      have hchecked : ∀ done, FailsAsExpected ((ofFields done).mapError ReadError.flawed) := fun _ =>
        .of_mapError fun _ => rfl
      simp only [ofJson, complete_eq, MissesSlugText, Json.obj.injEq, exists_eq_left', hcode, true_and]
      cases slugSource fields <;> simp [Json.string?, Command.isExpected, hchecked]
    · simp [ofJson, hcode, MissesSlugText, Command.isExpected]
  | _ => simp [ofJson, MissesSlugText, Command.isExpected]

theorem ofRaw_failsAsExpected_iff {value : RawJson} :
    FailsAsExpected (ofRaw value) ↔ ¬ MissesSlugText value.replaced := by
  rw [← ofJson_failsAsExpected_iff, ofRaw]
  cases ofJson value.replaced with
  | ok p => cases looseFlaws value.object <;> simp [Command.isExpected]
  | error e => simp

section Texts

variable [Interpreter] {text : String} {chars : List Char}

theorem ofRecordText_failsAsExpected_iff :
    FailsAsExpected (ofRecordText chars) ↔ ¬ RecordBreaksOff chars := by
  rw [ofRecordText, recordOf]
  cases hparse : Json.parse (Interpreter.levels .readPrompt) (String.ofList chars) with
  | ok value =>
    have hbreaks : RecordBreaksOff chars ↔ MissesSlugText value.replaced := by
      refine ⟨fun h => ?_, .slug hparse⟩
      cases h with
      | number h | depth h => cases hparse.symm.trans h
      | slug h hslug => exact Except.ok.inj (hparse.symm.trans h) ▸ hslug
    simp [hbreaks, ofRaw_failsAsExpected_iff]
  | error e =>
    cases e with
    | malformed =>
      have hgoes : ¬ RecordBreaksOff chars := fun h => by
        cases h with
        | number h | depth h | slug h => cases hparse.symm.trans h
      simp [hgoes, Command.isExpected]
    | tooManyDigits => simp [RecordBreaksOff.number hparse, Command.isExpected]
    | tooDeep => simp [RecordBreaksOff.depth hparse, Command.isExpected]

theorem read_eq_ofRecordText (h : isRecordText (trim text.toList) = true) :
    read text = ofRecordText (trim text.toList) := by
  rw [read]
  split
  · next hempty => rw [hempty] at h; cases h
  · rw [if_pos h]

theorem read_failsAsExpected_iff : FailsAsExpected (read text) ↔ ¬ BreaksOff text := by
  by_cases hrecord : isRecordText (trim text.toList) = true
  · rw [read_eq_ofRecordText hrecord, ofRecordText_failsAsExpected_iff, BreaksOff, hrecord]
    simp
  · simp only [BreaksOff, hrecord, Bool.false_eq_true, false_and, not_false_iff, iff_true]
    rw [read]
    split
    · exact FailsAsExpected.error_iff.mpr rfl
    · rw [if_neg hrecord]
      exact .of_mapError fun _ => rfl

/-- What a text is rejected with at which reading breaks off. -/
theorem read_of_breaksOff (h : BreaksOff text) :
    read text = .error .slugFromNonText ∨
      (∃ count, read text = .error (.unreadable (.tooManyDigits count)) ∧
        Json.HasLongRun count text.toList) ∨
      ∃ overflow, read text = .error (.unreadable (.tooDeep overflow)) ∧
        Interpreter.levels .readPrompt ≤ Json.openings text.toList + 1 := by
  obtain ⟨hrecord, hbreaks⟩ := h
  have hpart : trim text.toList <:+: text.toList := trimBy_isInfix ..
  rw [read_eq_ofRecordText hrecord, ofRecordText, recordOf]
  cases hbreaks with
  | @number count hparse =>
    have hrun := Json.hasLongRun_of_parse hparse
    rw [String.toList_ofList] at hrun
    exact .inr (.inl ⟨count, by rw [hparse], hrun.of_isInfix hpart⟩)
  | @depth overflow hparse =>
    have hlevels := Json.levels_le_of_parse hparse
    rw [String.toList_ofList] at hlevels
    exact .inr (.inr ⟨overflow, by rw [hparse], hlevels.trans (Nat.succ_le_succ
      (hpart.sublist.countP_le))⟩)
  | @slug value hparse hslug =>
    obtain ⟨fields, hfields, hcode, hslug⟩ := hslug
    left
    rw [hparse]
    simp only [ofRaw, hfields, ofJson, if_pos hcode, complete_eq]
    cases hsource : slugSource fields with
    | str source => simp [hsource, Json.string?] at hslug
    | _ => rfl

end Texts

end Prompt

/-! ### Files -/

namespace Command

variable [Interpreter] {disk : Disk} {path : String} {result : CommandResult}

/-- A command that shows a prompt leaves no other exit code than 0 and 1. -/
theorem exitCode_runParse (h : runParse disk path = .ok result) :
    result.exitCode = 0 ∨ result.exitCode = 1 := by
  unfold runParse at h
  split at h
  · cases h
  · cases h
    exact .inr rfl
  · obtain ⟨output, -, rfl⟩ := Outcome.map_eq_ok_iff.mp h
    exact .inl rfl

theorem readPrompt_eq : readPrompt disk path =
    match disk.read path with
    | .error fault => .error (.expected (fault.message (FileTree.shownPath path)))
    | .ok bytes =>
      match decodeFile bytes with
      | .error fault => .error (.crash (.undecodable fault))
      | .ok text =>
        match Prompt.read text with
        | .ok result => .ok result
        | .error e => .error (if isExpected e then .expected e.message else .crash (.prompt e)) := by
  unfold readPrompt readText
  cases disk.read path with
  | error fault => rfl
  | ok bytes =>
    dsimp only
    cases decodeFile bytes with
    | error fault => rfl
    | ok text => rfl

/-- A record is printed just if it is not too deep and has no loose surrogate. -/
theorem exists_printed_iff {isLoose : Bool} {value : Json} : (∃ output, printed isLoose value = .ok output) ↔
    ¬ ((value : RawJson).fits (Interpreter.levels .print) = false ∨ isLoose = true) := by
  rw [printed]
  cases (value : RawJson).fits (Interpreter.levels .print) <;> cases isLoose <;> simp

/-- **A command that shows a prompt ends** exactly if the file cannot be read at all, or holds a text of
which reading fails as expected, and no prompt that cannot be shown. -/
theorem exists_runParse_iff :
    (∃ result, runParse disk path = .ok result) ↔ ∀ bytes, disk.read path = .ok bytes →
      ∃ text, decodeFile bytes = .ok text ∧ Prompt.FailsAsExpected (Prompt.read text) ∧
        ¬ Prompt.IsUnprintable text := by
  rw [runParse, readPrompt_eq, holdsLoose, readText]
  cases disk.read path with
  | error fault => simp
  | ok bytes =>
    simp only [Except.ok.injEq, forall_eq']
    cases decodeFile bytes with
    | error fault => simp
    | ok text =>
      simp only [Except.ok.injEq, exists_eq_left', Prompt.IsUnprintable]
      cases Prompt.read text with
      | ok result =>
        obtain ⟨p, remarks⟩ := result
        have hloose : ((Except.ok text).mapError fun fault => Fault.crash (.undecodable fault)).toOption.any
            Prompt.isLoose = Prompt.isLoose text := rfl
        simp only [Outcome.exists_map_eq_ok_iff, hloose, exists_printed_iff]
        simp
      | error e => cases hexpected : isExpected e <;> simp [hexpected]

end Command

/-- **Reading fails as expected unless it breaks off**, and a command that shows a prompt ends unless the file
is not UTF-8, or holds such a text or a prompt that cannot be shown. -/
theorem Prompt.failsAsExpected_iff [Interpreter] (text : String) (disk : Disk) (clock : RunClock)
    (path : String) :
    (FailsAsExpected (read text) ↔ ¬ BreaksOff text) ∧
      (BreaksOff text →
        read text = .error .slugFromNonText ∨
          (∃ count, read text = .error (.unreadable (.tooManyDigits count)) ∧
            Json.HasLongRun count text.toList) ∨
          ∃ overflow, read text = .error (.unreadable (.tooDeep overflow)) ∧
            Interpreter.levels .readPrompt ≤ Json.openings text.toList + 1) ∧
      ((∃ result, Command.run disk clock (.parse path) = .ok result ∧
          (result.exitCode = 0 ∨ result.exitCode = 1)) ↔
        ∀ bytes, disk.read path = .ok bytes →
          ∃ content, decodeFile bytes = .ok content ∧ ¬ BreaksOff content ∧ ¬ IsUnprintable content) := by
  refine ⟨read_failsAsExpected_iff, read_of_breaksOff, ?_⟩
  simp only [← read_failsAsExpected_iff, ← Command.exists_runParse_iff]
  exact ⟨fun ⟨result, hrun, _⟩ => ⟨result, hrun⟩,
    fun ⟨result, hrun⟩ => ⟨result, hrun, Command.exitCode_runParse hrun⟩⟩

/-- A slug that is a number breaks reading off, and with it the command that shows the prompt. -/
theorem Prompt.not_failsAsExpected_number :
    let text := "\x7b\"component\": \x7b\"code\": \"x\"\x7d, \"slug\": 5\x7d"
    let disk : Disk := { read := fun _ => .ok (Digest.utf8 text) }
    ¬ FailsAsExpected (read text) ∧
      ∀ clock, Command.run disk clock (.parse "card.json") = .error (.prompt .slugFromNonText) := by
  intro text disk
  have hfails : (read text).map (fun _ => ()) = .error .slugFromNonText := by decide +kernel
  have hread : read text = .error .slugFromNonText := Outcome.map_eq_error_iff.mp hfails
  refine ⟨fun h => Bool.noConfusion (h _ hread), fun clock => ?_⟩
  have htext : decodeFile (Digest.utf8 text) = .ok text := decodeFile_utf8 (by decide)
  rw [Command.run, Command.runParse, Command.readPrompt_eq]
  simp only [disk, htext, hread]
  rfl

end PromptPress
