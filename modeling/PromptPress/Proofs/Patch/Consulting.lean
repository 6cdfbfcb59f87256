import Mathlib.Tactic.Common
import PromptPress.Proofs.Json.Digits
import PromptPress.Proofs.Patch.Manifest

/-!
# Consulting the files of a project

A project is only consulted, so a file that is not there, or that is nothing that one can make use of,
should count as one that says nothing (`knownText`, `knownRanges`). This is so for a path without a file, and
for a manifest that is not well formed or is no object. There are three exceptions: bytes that are no text, a
manifest with too long a number in it, and one that is nested too deep. The main law is that there are no
others (`reconcilesAnyway_iff`).
-/

namespace PromptPress.PackagePatch

open Text Digest

variable {file : Except ReadFault (List UInt8)} {text : String} {known : Option String}
  {ranges : Record RawText RawText} {read : FileReader} {manifestPath themePath : Option String}
  {packages : List NpmPackage} {styles : List StyleEntry} {patch : PackagePatch} {ν : Type} [Ord ν]
  {reader : Npm.RangeReader ν}

/-! ### What is known -/

/-- The text of a file; none if there is no file or if it is no text. -/
def knownText (file : Except ReadFault (List UInt8)) : Option String :=
  file.toOption.bind fun bytes => (decodeFile bytes).toOption

/-- The value that a text of a manifest is read as. -/
def parseManifest [Interpreter] (text : String) : Except Json.ReadError RawJson :=
  Json.parse (Interpreter.levels .readManifest) text

/-- The ranges that the file of a manifest names; none if nothing can be read from it. -/
def knownRanges [Interpreter] (file : Except ReadFault (List UInt8)) : Record RawText RawText :=
  ((knownText file).bind fun text => (parseManifest text).toOption).elim [] manifestRanges

/-- A file whose bytes are no text. -/
def HoldsNoText (file : Except ReadFault (List UInt8)) : Prop :=
  ∃ bytes, file = .ok bytes ∧ ¬ IsText bytes

/-- A file of a text that is not read as a record, as a number in it is too long. -/
def HasLongNumber [Interpreter] (file : Except ReadFault (List UInt8)) : Prop :=
  ∃ text count, knownText file = some text ∧ parseManifest text = .error (.tooManyDigits count)

/-- A file of a text that is not read as a record, as it is nested deeper than the stack. -/
def IsTooDeep [Interpreter] (file : Except ReadFault (List UInt8)) : Prop :=
  ∃ text overflow, knownText file = some text ∧ parseManifest text = .error (.tooDeep overflow)

/-- Nothing is known of a file whose bytes are no text. -/
theorem knownText_of_holdsNoText (h : HoldsNoText file) : knownText file = none := by
  obtain ⟨bytes, rfl, hbytes⟩ := h
  cases hdecoded : decodeFile bytes with
  | ok text => exact absurd (exists_decodeFile_iff.mp ⟨text, hdecoded⟩) hbytes
  | error fault => simp [knownText, hdecoded, Except.toOption]

/-- A manifest that is no object names nothing. -/
theorem knownRanges_eq_nil [Interpreter]
    (h : ∀ text fields, knownText file = some text → parseManifest text ≠ .ok (.obj fields)) :
    knownRanges file = [] := by
  rw [knownRanges]
  cases htext : knownText file with
  | none => rfl
  | some text =>
    rw [Option.bind_some]
    cases hparse : parseManifest text with
    | error e => rfl
    | ok manifest =>
      cases manifest with
      | obj fields => exact absurd hparse (h text fields htext)
      | _ => rfl

/-- A number that is too long stands in the text of the file. -/
theorem HasLongNumber.hasLongRun [Interpreter] (h : HasLongNumber file) :
    ∃ text count, knownText file = some text ∧ Json.HasLongRun count text.toList := by
  obtain ⟨text, count, htext, hparse⟩ := h
  exact ⟨text, count, htext, Json.hasLongRun_of_parse hparse⟩

/-- In a file that is too deep about as many brackets open as there are levels. -/
theorem IsTooDeep.levels_le [Interpreter] (h : IsTooDeep file) :
    ∃ text, knownText file = some text ∧
      Interpreter.levels .readManifest ≤ Json.openings text.toList + 1 := by
  obtain ⟨text, overflow, htext, hparse⟩ := h
  exact ⟨text, htext, Json.levels_le_of_parse hparse⟩

/-- A file of more brackets than there are levels is too deep. -/
theorem isTooDeep_brackets [Interpreter] {count : Nat} (h : Interpreter.levels .readManifest < count) :
    IsTooDeep (.ok (utf8 (String.ofList (List.replicate count '[')))) := by
  have hreturn : '\r' ∉ (String.ofList (List.replicate count '[')).toList := by
    rw [String.toList_ofList]
    exact fun hmem => absurd (List.eq_of_mem_replicate hmem) (by decide)
  refine ⟨_, .array, ?_, Json.parse_brackets h⟩
  rw [knownText, Except.toOption, Option.bind_some, decodeFile_utf8 hreturn]
  rfl

/-! ### What is read -/

theorem hostText_eq_ok_iff :
    hostText file = .ok known ↔ ¬ HoldsNoText file ∧ known = knownText file := by
  cases file with
  | error fault => simp [hostText, HoldsNoText, knownText, Except.toOption, eq_comm]
  | ok bytes =>
    have htext : HoldsNoText (.ok bytes) ↔ ¬ ∃ text, decodeFile bytes = .ok text := by
      simp [HoldsNoText, exists_decodeFile_iff]
    rw [htext, not_not]
    cases hdecoded : decodeFile bytes <;>
      simp [hostText, knownText, hdecoded, Except.map, Except.mapError, Except.toOption, eq_comm]

theorem rangesOfText_eq_ok_iff [Interpreter] :
    rangesOfText text = .ok ranges ↔ (∀ count, parseManifest text ≠ .error (.tooManyDigits count)) ∧
      (∀ overflow, parseManifest text ≠ .error (.tooDeep overflow)) ∧
      ranges = (parseManifest text).toOption.elim [] manifestRanges := by
  rw [rangesOfText, ← parseManifest]
  cases parseManifest text with
  | ok manifest => simp [Except.toOption, eq_comm]
  | error e => cases e <;> simp [Except.toOption, eq_comm]

/-- The ranges that are read from the file of a manifest. -/
def hostRanges [Interpreter] (file : Except ReadFault (List UInt8)) :
    Except HostError (Record RawText RawText) :=
  hostText file >>= fun text => (text.map rangesOfText).getD (.ok [])

theorem hostRanges_eq_ok_iff [Interpreter] :
    hostRanges file = .ok ranges ↔
      ¬ HoldsNoText file ∧ ¬ HasLongNumber file ∧ ¬ IsTooDeep file ∧ ranges = knownRanges file := by
  rw [hostRanges, Outcome.bind_eq_ok_iff]
  simp only [hostText_eq_ok_iff, and_assoc, exists_and_left, exists_eq_left]
  refine and_congr_right fun _ => ?_
  rw [HasLongNumber, IsTooDeep, knownRanges]
  cases knownText file with
  | none => simp [eq_comm]
  | some text => simp [rangesOfText_eq_ok_iff]

theorem create_eq [Interpreter] (reader : Npm.RangeReader ν) (read : FileReader)
    (manifestPath themePath : Option String) (packages : List NpmPackage) (styles : List StyleEntry) :
    create reader read manifestPath themePath packages styles =
      hostRanges (read (manifestFile manifestPath)) >>= fun existing =>
        ((given themePath).map fun path => hostText (read path)).getD (.ok none) >>= fun theme =>
          .ok (ofHost reader existing theme packages styles) := by
  rw [hostRanges, bind_assoc]
  rfl

/-- The text of a theme, if a theme is named and can be read. -/
def knownTheme (read : FileReader) (themePath : Option String) : Option String :=
  (given themePath).bind fun path => knownText (read path)

theorem hostTheme_eq_ok_iff :
    ((given themePath).map fun path => hostText (read path)).getD (.ok none) = .ok known ↔
      (∀ path, given themePath = some path → ¬ HoldsNoText (read path)) ∧
        known = knownTheme read themePath := by
  rw [knownTheme]
  cases given themePath with
  | none => simp [eq_comm]
  | some path => simp [hostText_eq_ok_iff]

/-- **The patch for a project** is that of what is known of it, unless a file that it consults stops it. -/
theorem create_eq_ok_iff [Interpreter] :
    create reader read manifestPath themePath packages styles = .ok patch ↔
      ¬ HoldsNoText (read (manifestFile manifestPath)) ∧
        ¬ HasLongNumber (read (manifestFile manifestPath)) ∧
        ¬ IsTooDeep (read (manifestFile manifestPath)) ∧
        (∀ path, given themePath = some path → ¬ HoldsNoText (read path)) ∧
        patch = ofHost reader (knownRanges (read (manifestFile manifestPath)))
          (knownTheme read themePath) packages styles := by
  rw [create_eq]
  simp only [Outcome.bind_eq_ok_iff, hostRanges_eq_ok_iff, hostTheme_eq_ok_iff]
  constructor
  · rintro ⟨_, ⟨hmanifest, hnumber, hdeep, rfl⟩, _, ⟨htheme, rfl⟩, hpatch⟩
    exact ⟨hmanifest, hnumber, hdeep, htheme, (Except.ok.inj hpatch).symm⟩
  · rintro ⟨hmanifest, hnumber, hdeep, htheme, rfl⟩
    exact ⟨_, ⟨hmanifest, hnumber, hdeep, rfl⟩, _, ⟨htheme, rfl⟩, rfl⟩

/-! ### The main law -/

/-- Packages and styles are reconciled with a project from what is known of it. -/
def ReconcilesAnyway [Interpreter] (reader : Npm.RangeReader ν) (read : FileReader)
    (manifestPath themePath : Option String) (packages : List NpmPackage) (styles : List StyleEntry) :
    Prop :=
  create reader read manifestPath themePath packages styles =
    .ok (ofHost reader (knownRanges (read (manifestFile manifestPath))) (knownTheme read themePath)
      packages styles)

/-- **Reconciliation comes to its end** exactly if manifest and theme, where there are such files, are
texts, no number in the manifest is too long, and the manifest is not too deep. This is so whatever reads
ranges. What is too long or too deep shows in the text of the manifest. -/
theorem reconcilesAnyway_iff [Interpreter] (reader : Npm.RangeReader ν) (read : FileReader)
    (manifestPath themePath : Option String) (packages : List NpmPackage) (styles : List StyleEntry) :
    (ReconcilesAnyway reader read manifestPath themePath packages styles ↔
      ¬ HoldsNoText (read (manifestFile manifestPath)) ∧
        ¬ HasLongNumber (read (manifestFile manifestPath)) ∧
        ¬ IsTooDeep (read (manifestFile manifestPath)) ∧
        ∀ path, given themePath = some path → ¬ HoldsNoText (read path)) ∧
      (HasLongNumber (read (manifestFile manifestPath)) →
        ∃ text count, knownText (read (manifestFile manifestPath)) = some text ∧
          Json.HasLongRun count text.toList) ∧
      (IsTooDeep (read (manifestFile manifestPath)) →
        ∃ text, knownText (read (manifestFile manifestPath)) = some text ∧
          Interpreter.levels .readManifest ≤ Json.openings text.toList + 1) := by
  refine ⟨?_, HasLongNumber.hasLongRun, IsTooDeep.levels_le⟩
  rw [ReconcilesAnyway, create_eq_ok_iff, eq_self_iff_true, and_true]

/-- A byte that is no text stops the reconciliation, in a manifest as well as in a theme. -/
theorem not_reconcilesAnyway_byte :
    let read : FileReader := fun path => if path = "byte" then .ok [0xff] else .error .missing
    ¬ ReconcilesAnyway Npm.Range.parse read (some "byte") none [⟨"react", some "^18.2.0", []⟩] [] ∧
      ¬ ReconcilesAnyway Npm.Range.parse read none (some "byte") [] [⟨"card.css", ".card"⟩] := by
  intro read
  have hbyte : HoldsNoText (read "byte") := ⟨[0xff], rfl, not_isText_byte⟩
  constructor
  · rw [ReconcilesAnyway, create_eq_ok_iff]
    exact fun h => h.1 hbyte
  · rw [ReconcilesAnyway, create_eq_ok_iff]
    exact fun h => h.2.2.2.1 "byte" rfl hbyte

end PromptPress.PackagePatch
