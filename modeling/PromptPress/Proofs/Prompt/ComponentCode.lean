import PromptPress.Build
import PromptPress.Proofs.Prompt.Document
import PromptPress.Proofs.Prompt.Rereading

/-!
# Code of components

A prompt that was read from a record has component code, since the record is checked for it. One that was
read from a document has the code of the first fence of its first component section, and of a fence with
nothing but blanks in it the code is empty. So a prompt that was read has code, and is not
rejected for a lack of it, unless its text is such a document (`Prompt.hasCode_iff`).
-/

namespace PromptPress

open Text

variable {p : Prompt} {text : String} {remarks : List Warning}

/-! ### Builds -/

namespace Placement

theorem safeName_ne_noCode (filename : Option String) (fallback : String) :
    safeName filename fallback ≠ .error .noCode := by
  unfold safeName
  split
  · rw [ne_eq, Outcome.mapError_eq_error_iff]
    rintro ⟨cause, -, ⟨⟩⟩
  · exact nofun

theorem ofText_ne_noCode (kind : ArtifactKind) (filename : Option String) (fallback content : String) :
    ofText kind filename fallback content ≠ .error .noCode := by
  rw [ofText, ne_eq, Outcome.map_eq_error_iff]
  exact safeName_ne_noCode filename fallback

theorem assetBytes_ne_noCode (asset : Asset) : assetBytes asset ≠ .error .noCode := by
  unfold assetBytes
  split
  · rw [ne_eq, Outcome.mapError_eq_error_iff]
    rintro ⟨cause, -, ⟨⟩⟩
  · exact nofun

theorem ofAsset_ne_noCode (asset : Asset) : ofAsset asset ≠ .error .noCode := by
  rw [ofAsset, ne_eq, Outcome.bind_eq_error_iff]
  rintro (hname | ⟨name, -, hrest⟩)
  · exact safeName_ne_noCode _ _ hname
  · rcases Outcome.bind_eq_error_iff.mp hrest with hbytes | ⟨bytes, -, ⟨⟩⟩
    exact assetBytes_ne_noCode asset hbytes

end Placement

/-- No file of a prompt is rejected for a lack of code. -/
theorem Prompt.notMem_placements (p : Prompt) : .error .noCode ∉ p.placements := by
  intro h
  simp only [placements, Placement.ofFiles, Placement.ofAssets, List.cons_append, List.mem_cons,
    List.mem_append, Option.mem_toList, Option.map_eq_some_iff, List.mem_map] at h
  rcases h with h | ((⟨_, -, h⟩ | ⟨_, -, h⟩) | ⟨_, -, h⟩) | ⟨_, -, h⟩
  · exact Placement.ofText_ne_noCode _ _ _ _ h.symm
  · exact Placement.ofText_ne_noCode _ _ _ _ h
  · exact Placement.ofText_ne_noCode _ _ _ _ h
  · exact Placement.ofText_ne_noCode _ _ _ _ h
  · exact Placement.ofAsset_ne_noCode _ h

namespace Draft

theorem write_ne_noCode (draft : Draft) (file : Placement) : draft.write file ≠ .error .noCode := by
  rw [write, ne_eq, Outcome.bind_eq_error_iff]
  rintro (hpath | ⟨segments, -, hrest⟩)
  · obtain ⟨cause, -, ⟨⟩⟩ := Outcome.mapError_eq_error_iff.mp hpath
  · rcases Outcome.bind_eq_error_iff.mp hrest with hwrite | ⟨tree, -, ⟨⟩⟩
    obtain ⟨cause, -, ⟨⟩⟩ := Outcome.mapError_eq_error_iff.mp hwrite

theorem writeAll_ne_noCode {draft : Draft} {placements : List (Except BuildError Placement)}
    (h : .error .noCode ∉ placements) : draft.writeAll placements ≠ .error .noCode := by
  induction placements generalizing draft with
  | nil => exact nofun
  | cons placed rest ih =>
    obtain ⟨hplaced, hrest⟩ := not_or.mp (List.mem_cons.not.mp h)
    cases placed with
    | error e =>
      rw [writeAll]
      rintro ⟨⟩
      exact hplaced rfl
    | ok file =>
      rw [writeAll]
      split
      · exact ih hrest
      · next e hwrite =>
        rintro ⟨⟩
        exact write_ne_noCode _ _ hwrite

end Draft

/-- **A build lacks code** just if the component is without it. -/
theorem Prompt.buildIn_eq_noCode_iff {tree : FileTree} :
    p.buildIn tree = .error .noCode ↔ p.component.code = "" := by
  rw [buildIn]
  split_ifs with hcode
  · exact iff_of_true rfl hcode
  · rw [Outcome.map_eq_error_iff]
    exact iff_of_false (Draft.writeAll_ne_noCode p.notMem_placements) hcode

/-! ### Texts -/

namespace Prompt

/-- A prompt has code, and no build rejects it for a lack of code. -/
structure HasCode (p : Prompt) : Prop where
  code : p.component.code ≠ ""
  builds : ∀ tree, p.buildIn tree ≠ .error .noCode

theorem hasCode_iff_code : p.HasCode ↔ p.component.code ≠ "" :=
  ⟨fun h => h.code, fun h => ⟨h, fun _ => buildIn_eq_noCode_iff.not.mpr h⟩⟩

/-- The first fence of the first component section holds nothing but blanks. -/
def HasBlankComponent (doc : Document) : Prop :=
  ∃ content ∈ doc.content? .component, ∃ fence ∈ (fencesOf content).head?, fence.body.all isBlank = true

instance (doc : Document) : Decidable (HasBlankComponent doc) :=
  inferInstanceAs (Decidable (∃ content ∈ doc.content? .component, ∃ fence ∈ (fencesOf content).head?,
    fence.body.all isBlank = true))

/-- A text is a document with such a fence. -/
def HasBlankFence (text : String) : Prop :=
  isRecordText (trim text.toList) = false ∧
    HasBlankComponent (Document.split (dropReturns (trim text.toList)))

instance (text : String) : Decidable (HasBlankFence text) :=
  inferInstanceAs (Decidable (_ ∧ _))

theorem codeOf_eq_empty_iff {fence : Fence} : codeOf fence = "" ↔ fence.body.all isBlank = true := by
  rw [codeOf, Fence.code, trimEnd, List.all_eq_true, ← dropTail_eq_nil_iff, ← String.toList_inj,
    String.toList_ofList]
  rfl

/-- The code of the component is the one of the first fence of its section. -/
theorem code_eq_empty_iff {doc : Document} (h : ofDocument doc = .ok (p, remarks)) :
    p.component.code = "" ↔ HasBlankComponent doc := by
  have hcode := (isReadFrom_of_ofDocument h).component
  rw [codes] at hcode
  rw [HasBlankComponent]
  cases hcontent : doc.content? .component with
  | none => simp [hcontent] at hcode
  | some content =>
    cases hfences : fencesOf content with
    | nil => simp [hcontent, hfences] at hcode
    | cons fence fences =>
      have hfirst : codeOf fence = p.component.code := by simpa [hcontent, hfences] using hcode
      simp [hfences, ← hfirst, codeOf_eq_empty_iff]

/-- **A prompt that was read has code**, and is not rejected for a lack of it, just if its text is no
document whose first component fence is blank. -/
theorem hasCode_iff [Interpreter] (h : read text = .ok (p, remarks)) : p.HasCode ↔ ¬ HasBlankFence text := by
  rw [hasCode_iff_code, HasBlankFence]
  cases htrim : trim text.toList with
  | nil => simp [read, htrim] at h
  | cons c chars =>
    simp only [read, htrim] at h
    split_ifs at h with hrecord
    · -- a record was checked for code
      obtain ⟨-, value, -, hvalue⟩ := ofRecordText_eq_ok h
      simp [hrecord, (ofJson_eq_ok (ofJson_of_ofRaw hvalue)).2.2.1]
    · rw [Outcome.mapError_eq_ok_iff, ofMarkdown] at h
      split_ifs at h
      simp [hrecord, code_eq_empty_iff h]

/-- A document with a filled fence. -/
theorem hasCode_filled :
    ∃ p remarks, read "# Card\n## Component\n\x60\x60\x60\nexport {}\n\x60\x60\x60" = .ok (p, remarks) ∧
      p.HasCode := by
  have hok : (read "# Card\n## Component\n\x60\x60\x60\nexport {}\n\x60\x60\x60").toOption.isSome := by
    decide +kernel
  obtain ⟨⟨p, remarks⟩, hread⟩ := Outcome.exists_of_isSome hok
  exact ⟨p, remarks, hread, (hasCode_iff hread).mpr (by decide +kernel)⟩

/-- A document with a blank fence is read as a prompt without code. -/
theorem not_hasCode_blank :
    ∃ p remarks, read "# Card\n## Component\n\x60\x60\x60\n\x60\x60\x60" = .ok (p, remarks) ∧
      p.component.code = "" ∧ p.build = .error .noCode := by
  have hcode : (read "# Card\n## Component\n\x60\x60\x60\n\x60\x60\x60").toOption.map
      (·.1.component.code) = some "" := by
    decide +kernel
  obtain ⟨⟨p, remarks⟩, hread, hempty⟩ := Outcome.exists_of_map_toOption hcode
  exact ⟨p, remarks, hread, hempty, buildIn_eq_noCode_iff.mpr hempty⟩

end Prompt

end PromptPress
