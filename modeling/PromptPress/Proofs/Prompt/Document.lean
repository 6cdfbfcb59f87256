import Mathlib.Data.List.Basic
import PromptPress.Prompt.Reading
import PromptPress.Proofs.Outcome

/-!
# What a document gives a prompt

A prompt takes its files from the codes of fences, and each kind of file from the first section of
its kind alone. `codes` names these, and `Prompt.IsReadFrom` says where every part of a prompt comes
from. A document gives a prompt exactly if the first component section has a fence
(`exists_ofDocument_iff`). A text gives a prompt as a record or as a document, and only a document has
remarks made on it (`read_eq_ok`).
-/

namespace PromptPress

open Text

namespace Prompt

/-- The codes of the fences in the first section of a kind. -/
def codes (doc : Document) (kind : SectionKind) : List String :=
  ((doc.content? kind).map fun content => (fencesOf content).map codeOf).getD []

/-- Where the parts of a prompt come from in a document. -/
structure IsReadFrom (prompt : Prompt) (doc : Document) : Prop where
  name : prompt.name = ((FrontMatter.value? doc.frontMatter .name).or
    (FrontMatter.title? doc.frontMatter)).getD defaultName
  component : (codes doc .component).head? = some prompt.component.code
  demo : prompt.demo.map (·.code) = (codes doc .demo).head?
  dependencies : prompt.dependencies.map (·.content) = codes doc .dependencies
  styles : prompt.styles.map (·.content) = codes doc .styles
  assets : prompt.assets.map (·.content) = codes doc .assets
  npmPackages : prompt.npmPackages = ((doc.content? .npm).map packagesOf).getD []
  notes : prompt.notes = ((doc.content? .notes).map notesOf).getD []

/-- A list part takes the codes of its section in order. -/
private theorem map_part {α : Type} (doc : Document) (kind : SectionKind) {make : Nat → Fence → α}
    {content : α → String} (hmake : ∀ i fence, content (make i fence) = codeOf fence) :
    ((part doc kind [] fun text => remarkIfEmpty kind ((fencesOf text).mapIdx make)).1).map content =
      codes doc kind := by
  unfold part codes
  cases doc.content? kind with
  | none => rfl
  | some text =>
    simp only [Option.map_some, Option.getD_some, remarkIfEmpty]
    exact List.ext_getElem (by simp) fun i _ _ => by simp [hmake]

private theorem map_demoPart (doc : Document) (slug : Option String) :
    ((part doc .demo none (demoPart slug)).1).map (·.code) = (codes doc .demo).head? := by
  unfold part codes
  cases doc.content? .demo with
  | none => rfl
  | some text =>
    simp only [Option.map_some, Option.getD_some, demoPart, remarkIfEmpty]
    cases fencesOf text <;> rfl

/-- The parts of a prompt that was read. -/
theorem isReadFrom_of_ofDocument {doc : Document} {prompt : Prompt} {remarks : List Warning}
    (h : ofDocument doc = .ok (prompt, remarks)) : prompt.IsReadFrom doc := by
  unfold ofDocument at h
  cases hcontent : doc.content? .component with
  | none => simp [hcontent, bind, Except.bind] at h
  | some content =>
    cases hfences : fencesOf content with
    | nil => simp [hcontent, hfences, bind, Except.bind] at h
    | cons fence fences =>
      simp only [hcontent, hfences, Option.elim_some, List.head?_cons, bind, Except.bind, pure,
        Except.pure, Except.ok.injEq, Prod.mk.injEq] at h
      obtain ⟨rfl, -⟩ := h
      exact
        { name := rfl
          component := by simp [codes, hcontent, hfences, componentOf]
          demo := map_demoPart doc _
          dependencies := map_part doc .dependencies fun _ _ => rfl
          styles := map_part doc .styles fun _ _ => rfl
          assets := map_part doc .assets fun _ _ => rfl
          npmPackages := by
            unfold part
            cases doc.content? .npm <;> rfl
          notes := rfl }

/-- A document gives a prompt exactly if its first component section has a fence. -/
theorem exists_ofDocument_iff {doc : Document} :
    (∃ prompt remarks, ofDocument doc = .ok (prompt, remarks)) ↔ codes doc .component ≠ [] := by
  constructor
  · rintro ⟨prompt, remarks, h⟩ hnil
    have := (isReadFrom_of_ofDocument h).component
    simp [hnil] at this
  · intro h
    unfold codes at h
    cases hcontent : doc.content? .component with
    | none => simp [hcontent] at h
    | some content =>
      cases hfences : fencesOf content with
      | nil => simp [hcontent, hfences] at h
      | cons fence fences =>
        unfold ofDocument
        simp only [hcontent, hfences, Option.elim_some, List.head?_cons, bind, Except.bind, pure,
          Except.pure]
        exact ⟨_, _, rfl⟩

/-- A prompt is read from a value with a mark in place of each loose surrogate. -/
theorem ofJson_of_ofRaw {value : RawJson} {prompt : Prompt} (h : ofRaw value = .ok prompt) :
    ofJson value.replaced = .ok prompt := by
  rw [ofRaw] at h
  split at h
  · next hread _ => rw [hread, h]
  · cases h
  · cases h

/-- What the text of a record is read as. -/
theorem ofRecordText_eq_ok [Interpreter] {chars : List Char} {prompt : Prompt} {remarks : List Warning}
    (h : ofRecordText chars = .ok (prompt, remarks)) :
    remarks = [] ∧ ∃ value, recordOf chars = .ok value ∧ ofRaw value = .ok prompt := by
  rw [ofRecordText] at h
  split at h
  · cases h
  · next value hvalue =>
    obtain ⟨_, hprompt, heq⟩ := Outcome.map_eq_ok_iff.mp h
    obtain ⟨rfl, rfl⟩ := Prod.mk.inj heq
    exact ⟨rfl, value, hvalue, hprompt⟩

/-- **Where a prompt comes from**: a record, on which there are no remarks, or a document. -/
theorem read_eq_ok [Interpreter] {text : String} {prompt : Prompt} {remarks : List Warning}
    (h : read text = .ok (prompt, remarks)) :
    (isRecordText (trim text.toList) = true ∧ remarks = [] ∧ ∃ value, ofJson value = .ok prompt) ∨
      isRecordText (trim text.toList) = false ∧
        ofDocument (Document.split (dropReturns (trim text.toList))) = .ok (prompt, remarks) := by
  rw [read] at h
  split at h
  · cases h
  · split at h
    · next hrecord =>
      obtain ⟨hremarks, value, -, hvalue⟩ := ofRecordText_eq_ok h
      exact .inl ⟨hrecord, hremarks, value.replaced, ofJson_of_ofRaw hvalue⟩
    · next hrecord =>
      rw [Outcome.mapError_eq_ok_iff, ofMarkdown] at h
      split at h
      · cases h
      · exact .inr ⟨by simpa using hrecord, h⟩

end Prompt

end PromptPress
