import Mathlib.Tactic.Common
import PromptPress.Json.Fields
import PromptPress.Prompt.Reading
import PromptPress.Proofs.Json.Reading
import PromptPress.Proofs.Path.Slug
import PromptPress.Proofs.Prompt.Checked
import PromptPress.Proofs.Prompt.Document

/-!
# Reading prompts again

A prompt that was read from a record is written as a record that is read as the same prompt, with all its
fields, known or not, on every level (`Prompt.toJson_rereads`). Each part of a prompt is restored by its
fields; the name and the slug are not made up a second time, since the slug of a slug is that slug. The
one exception is a prompt whose given slug came to nothing while its name has one: it has no slug when it
is read first, and that of its name when it is read again.
-/

namespace PromptPress

open Checked FieldName PromptPress.Path

/-! ### The parts of a prompt -/

theorem ComponentSource.restores : Restores ofFields toFields := by
  intro fields c h
  obtain ⟨⟨code, filename, exportName⟩, -, rfl⟩ := Outcome.map_eq_ok_iff.mp h
  refine Outcome.map_eq_ok_iff.mpr ⟨(code, filename, exportName), ?_, ?_⟩
  · exact both_eq_ok (required_of_get? rfl rfl)
      (both_eq_ok (optional_of_get? rfl (nullable_text_ofString? filename))
        (optional_of_get? rfl (nullable_text_ofString? exportName)))
  · exact congrArg _ (others_append_others rfl)

theorem ComponentSource.code_of_ofFields {fields : Record Json} {c : ComponentSource}
    (h : ofFields fields = .ok c) : Json.field fields "code" = .str c.code := by
  obtain ⟨⟨code, filename, exportName⟩, hparts, rfl⟩ := Outcome.map_eq_ok_iff.mp h
  exact text_eq_ok_iff.mp (check_of_required rfl (both_eq_ok_iff.mp hparts).1)

theorem DemoSource.restores : Restores ofFields toFields := by
  intro fields d h
  obtain ⟨⟨code, filename⟩, -, rfl⟩ := Outcome.map_eq_ok_iff.mp h
  refine Outcome.map_eq_ok_iff.mpr ⟨(code, filename), ?_, ?_⟩
  · exact both_eq_ok (required_of_get? rfl rfl)
      (optional_of_get? rfl (nullable_text_ofString? filename))
  · exact congrArg _ (others_append_others rfl)

theorem NpmPackage.restores : Restores ofFields toFields := by
  intro fields p h
  obtain ⟨⟨name, version⟩, -, rfl⟩ := Outcome.map_eq_ok_iff.mp h
  refine Outcome.map_eq_ok_iff.mpr ⟨(name, version), ?_, ?_⟩
  · exact both_eq_ok (required_of_get? rfl rfl)
      (optional_of_get? rfl (nullable_text_ofString? version))
  · exact congrArg _ (others_append_others rfl)

/-- A file in which more fields are known is restored if these stand under their first names. -/
theorem SourceFile.ofFieldsWith_toFieldsWith {known : List FieldName} {fields more : Record Json}
    {file : SourceFile} (h : ofFieldsWith known fields = .ok file)
    (hmore : more.keys = known.map (·.name)) :
    ofFieldsWith known (file.toFieldsWith more) = .ok file := by
  obtain ⟨⟨filename, content⟩, -, rfl⟩ := Outcome.map_eq_ok_iff.mp h
  rw [ofFieldsWith]
  refine Outcome.map_eq_ok_iff.mpr ⟨(filename, content), ?_, ?_⟩
  · exact both_eq_ok (required_of_get? rfl rfl) (required_of_get? rfl rfl)
  · refine congrArg _ (others_append_others ?_)
    rw [Record.keys_append, hmore]
    rfl

theorem SourceFile.restores : Restores ofFields toFields := fun _ _ h =>
  ofFieldsWith_toFieldsWith h rfl

theorem Dependency.restores : Restores ofFields toFields := by
  intro fields d h
  obtain ⟨⟨file, kind⟩, hparts, rfl⟩ := Outcome.map_eq_ok_iff.mp h
  have hfile := (both_eq_ok_iff.mp hparts).1
  refine Outcome.map_eq_ok_iff.mpr ⟨(file, kind), ?_, rfl⟩
  exact both_eq_ok (SourceFile.ofFieldsWith_toFieldsWith hfile rfl)
    (optional_of_get? rfl (nullable_text_ofString? kind))

theorem Asset.restores : Restores ofFields toFields := by
  intro fields a h
  obtain ⟨⟨file, encoding, contentType⟩, hparts, rfl⟩ := Outcome.map_eq_ok_iff.mp h
  have hfile := (both_eq_ok_iff.mp hparts).1
  have hencoding : nullable checkEncoding (.ofString? (encoding.map (·.name))) = .ok encoding := by
    rcases encoding with _ | _ | _ <;> rfl
  refine Outcome.map_eq_ok_iff.mpr ⟨(file, encoding, contentType), ?_, rfl⟩
  exact both_eq_ok (SourceFile.ofFieldsWith_toFieldsWith hfile rfl)
    (both_eq_ok (optional_of_get? rfl hencoding)
      (optional_of_get? rfl (nullable_text_ofString? contentType)))

/-! ### Prompts -/

namespace Prompt

theorem restores : Restores ofFields fun p => p.toJson.object := by
  intro fields p h
  obtain ⟨⟨⟨name, slug, description⟩, ⟨component, demo⟩, ⟨dependencies, styles, assets⟩,
    packages, notes⟩, hparts, rfl⟩ := Outcome.map_eq_ok_iff.mp h
  obtain ⟨-, hparts⟩ := both_eq_ok_iff.mp hparts
  obtain ⟨hsources, hparts⟩ := both_eq_ok_iff.mp hparts
  obtain ⟨hfiles, htail⟩ := both_eq_ok_iff.mp hparts
  obtain ⟨hcomponent, hdemo⟩ := both_eq_ok_iff.mp hsources
  obtain ⟨hdependencies, hrest⟩ := both_eq_ok_iff.mp hfiles
  obtain ⟨hstyles, hassets⟩ := both_eq_ok_iff.mp hrest
  obtain ⟨hpackages, -⟩ := both_eq_ok_iff.mp htail
  refine Outcome.map_eq_ok_iff.mpr ⟨((name, slug, description), (component, demo),
    (dependencies, styles, assets), packages, notes), ?_, ?_⟩
  · refine both_eq_ok (both_eq_ok (required_of_get? rfl rfl)
      (both_eq_ok (optional_of_get? rfl (nullable_text_ofString? slug))
        (optional_of_get? rfl (nullable_text_ofString? description)))) ?_
    refine both_eq_ok (both_eq_ok ?component ?demo) (both_eq_ok
      (both_eq_ok ?dependencies (both_eq_ok ?styles ?assets))
      (both_eq_ok ?packages (optional_of_get? rfl (list_text_ofStrings notes))))
    case component =>
      exact required_of_restores (restores_object ComponentSource.restores) hcomponent rfl
    case demo =>
      exact optional_of_restores (restores_nullable_object DemoSource.restores) rfl hdemo rfl
    case dependencies =>
      exact optional_of_restores (restores_objects Dependency.restores) rfl hdependencies rfl
    case styles =>
      exact optional_of_restores (restores_objects SourceFile.restores) rfl hstyles rfl
    case assets => exact optional_of_restores (restores_objects Asset.restores) rfl hassets rfl
    case packages =>
      exact optional_of_restores (restores_objects NpmPackage.restores) rfl hpackages rfl
  · exact congrArg _ (others_append_others rfl)

/-! ### Names and slugs -/

variable {fields done : Record Json} {name : String} {slug : Option String} {p : Prompt}
  {value : Json}

theorem hasComponentCode_iff : hasComponentCode fields = true ↔
    ∃ component, Json.field fields "component" = .obj component ∧
      (Json.field component "code").isFilled = true := by
  rw [hasComponentCode]
  cases Json.field fields "component" <;> simp

theorem isFilled_filledOr (value : Json) : (filledOr value (.str defaultName)).isFilled = true := by
  rw [filledOr]
  split
  · assumption
  · decide

/-- What a record holds once it is complete. -/
theorem complete_eq_ok (h : complete fields = .ok done) :
    Json.field done "name" = filledOr (Json.field fields "name") (.str defaultName) ∧
      Json.field done "component" = Json.field fields "component" ∧
      ∃ source, done.get? "slug" = some (.ofString? (nonEmpty? (slugify source))) := by
  rw [complete] at h
  split at h
  · next source _ =>
    obtain rfl := Except.ok.inj h
    exact ⟨by simp [Json.field, Record.get?_set], by simp [Json.field, Record.get?_set],
      source, by simp [Record.get?_set]⟩
  · cases h

/-- **A record with a name and its slug** is complete as it is. -/
theorem complete_eq_self (hname : fields.get? "name" = some (.str name)) (hfilled : name ≠ "")
    (hslug : fields.get? "slug" = some (.ofString? slug))
    (hnormal : slug = nonEmpty? (slugify (slug.getD name))) : complete fields = .ok fields := by
  have hnamed : filledOr (Json.field fields "name") (.str defaultName) = .str name := by
    simp [filledOr, Json.field, hname, Json.isFilled, hfilled]
  have hsource : filledOr (Json.field fields "slug") (.str name) = .str (slug.getD name) := by
    cases slug with
    | none => simp [filledOr, Json.field, hslug, Json.ofString?, Json.isFilled]
    | some text =>
      have htext : text ≠ "" := by
        rintro rfl
        cases hnormal
      simp [filledOr, Json.field, hslug, Json.ofString?, Json.isFilled, htext]
  rw [complete, hnamed, hsource]
  simp only [← hnormal]
  rw [Record.set_eq_self hname, Record.set_eq_self hslug]

/-- Where the name, the slug and the code of a prompt come from. -/
theorem ofFields_eq_ok (h : ofFields fields = .ok p) :
    Json.field fields "name" = .str p.name ∧
      (∀ slug, fields.get? "slug" = some (.ofString? slug) → p.slug = slug) ∧
      ∃ component, Json.field fields "component" = .obj component ∧
        Json.field component "code" = .str p.component.code := by
  obtain ⟨⟨⟨name, slug, description⟩, ⟨component, demo⟩, rest⟩, hparts, rfl⟩ :=
    Outcome.map_eq_ok_iff.mp h
  obtain ⟨hhead, hparts⟩ := both_eq_ok_iff.mp hparts
  obtain ⟨hname, hmore⟩ := both_eq_ok_iff.mp hhead
  have hslug := (both_eq_ok_iff.mp hmore).1
  have hcomponent := (both_eq_ok_iff.mp (both_eq_ok_iff.mp hparts).1).1
  refine ⟨text_eq_ok_iff.mp (check_of_required rfl hname), fun slug' hget => ?_, ?_⟩
  · exact Except.ok.inj (hslug.symm.trans (optional_of_get? hget (nullable_text_ofString? slug')))
  · obtain ⟨source, hsource, hparts⟩ := object_eq_ok_iff.mp (check_of_required rfl hcomponent)
    exact ⟨source, hsource, ComponentSource.code_of_ofFields hparts⟩

/-- **What is known of a prompt that was read from a value**: it has a name and code, and a slug that
was made from some text. -/
theorem ofJson_eq_ok (h : ofJson value = .ok p) :
    (∃ fields, ofFields fields = .ok p) ∧ p.name ≠ "" ∧ p.component.code ≠ "" ∧
      ∃ source, p.slug = nonEmpty? (slugify source) := by
  cases value with
  | obj fields =>
    rw [ofJson] at h
    split at h
    · next hcode =>
      split at h
      · cases h
      · next done hdone =>
        have hfields := Outcome.mapError_eq_ok_iff.mp h
        obtain ⟨hfilled, hkept, source, hslug⟩ := complete_eq_ok hdone
        obtain ⟨hname, hslugText, component, hcomponent, hcodeText⟩ := ofFields_eq_ok hfields
        refine ⟨⟨done, hfields⟩, fun hempty => ?_, fun hempty => ?_, source, hslugText _ hslug⟩
        · -- a missing name was made up before the fields were checked
          have hname' := isFilled_filledOr (Json.field fields "name")
          rw [← hfilled, hname, hempty] at hname'
          cases hname'
        · -- completing a record leaves its component as it is
          obtain ⟨component', hcomponent', hcode'⟩ := hasComponentCode_iff.mp hcode
          obtain rfl : component' = component :=
            Json.obj.inj (hcomponent'.symm.trans (hkept.symm.trans hcomponent))
          rw [hcodeText, hempty] at hcode'
          cases hcode'
    · cases h
  | _ => cases h

/-- A slug that was made from a text is made from itself again. -/
theorem nonEmpty?_slugify {source slug : String} (h : some slug = nonEmpty? (slugify source)) :
    nonEmpty? (slugify slug) = some slug := by
  rw [nonEmpty?] at h
  split at h
  · cases h
  · next hne =>
    obtain rfl := Option.some.inj h
    rw [(isSlug_slugify hne).slugify_eq, nonEmpty?, if_neg hne]

/-- The record of a prompt that was read from a value is read as that prompt. -/
theorem ofJson_toJson (h : ofJson value = .ok p) (hslug : p.slug.isSome ∨ slugify p.name = "") :
    ofJson p.toJson = .ok p := by
  obtain ⟨⟨fields, hfields⟩, hname, hcode, source, hsource⟩ := ofJson_eq_ok h
  have hcoded : hasComponentCode p.toJson.object = true :=
    hasComponentCode_iff.mpr ⟨p.component.toFields, rfl, bne_iff_ne.mpr hcode⟩
  -- without a slug, the name is what the second reading makes one from
  have hnormal : p.slug = nonEmpty? (slugify (p.slug.getD p.name)) := by
    cases hcase : p.slug with
    | none =>
      rw [hcase, Option.isSome_none] at hslug
      rw [Option.getD_none, hslug.resolve_left Bool.false_ne_true]
      rfl
    | some slug => exact (nonEmpty?_slugify (hcase ▸ hsource)).symm
  have hcomplete : complete p.toJson.object = .ok p.toJson.object :=
    complete_eq_self rfl hname rfl hnormal
  have hread : ofJson (.obj p.toJson.object) = .ok p := by
    rw [ofJson, if_pos hcoded, hcomplete]
    exact Outcome.mapError_eq_ok_iff.mpr (restores fields p hfields)
  exact hread

theorem hasLooseName_ofJson (record : Json) : hasLooseName record = false := by
  cases record with
  | obj fields => simp [hasLooseName, RawJson.ofJson, RawJson.object, RawJson.ofFields_eq_map]
  | _ => rfl

theorem field_ofFields (fields : Record Json) (name : String) :
    RawJson.field (RawJson.ofFields fields) name = Json.field fields name := by
  rw [RawJson.field, RawJson.ofFields_eq_map, Record.get?_map_names (fun _ _ => RawText.ofString_inj.mp),
    Json.field]
  cases fields.get? name <;> rfl

theorem items_ofJson (value : Json) : ∃ items : List Json, (value : RawJson).items = items.map RawJson.ofJson := by
  cases value with
  | arr items => exact ⟨items, RawJson.ofItems_eq_map items⟩
  | _ => exact ⟨[], rfl⟩

/-- **A value of the data format** has no names that a prompt must not have. -/
theorem ofRaw_ofJson (value : Json) : ofRaw value = ofJson value := by
  have hflaws : looseFlaws (value : RawJson).object = [] := by
    obtain ⟨fields, hfields⟩ : ∃ fields, (value : RawJson).object = RawJson.ofFields fields := by
      cases value with
      | obj fields => exact ⟨fields, rfl⟩
      | _ => exact ⟨[], rfl⟩
    have hnone (path : List PathStep) (record : Json) : looseFlaw? path record = none := by
      rw [looseFlaw?, hasLooseName_ofJson]
      rfl
    have hparts (name : String) (value : Json) (record : RawJson) (i : Nat)
        (hmem : (record, i) ∈ (value : RawJson).items.zipIdx) :
        looseFlaw? [.key name, .index i] record = none := by
      obtain ⟨items, hitems⟩ := items_ofJson value
      rw [hitems] at hmem
      obtain ⟨_, -, rfl⟩ := List.mem_map.mp (List.fst_mem_of_mem_zipIdx hmem)
      exact hnone _ _
    have hrecord : looseFlaw? [] (.obj (RawJson.ofFields fields)) = none := hnone [] (.obj fields)
    rw [hfields]
    simpa [looseFlaws, field_ofFields, hrecord, hnone, List.filterMap_eq_nil_iff] using
      ⟨hparts _ _, hparts _ _, hparts _ _, hparts _ _⟩
  rw [ofRaw, hflaws, RawJson.replaced_ofJson]
  cases ofJson value <;> rfl

/-- The record of a prompt that was read is read as that prompt. -/
theorem ofRaw_toJson {value : RawJson} (h : ofRaw value = .ok p)
    (hslug : p.slug.isSome ∨ slugify p.name = "") : ofRaw p.toJson = .ok p := by
  rw [ofRaw_ofJson]
  exact ofJson_toJson (ofJson_of_ofRaw h) hslug

section Texts

variable [Interpreter] {value : RawJson} {chars : List Char}

/-- A text that is read as a value is read as the prompt that the value describes, without remarks. -/
theorem ofRecordText_of_parse
    (hparse : Json.parse (Interpreter.levels .readPrompt) (String.ofList chars) = .ok value)
    (h : ofRaw value = .ok p) : ofRecordText chars = .ok (p, []) := by
  rw [ofRecordText, recordOf, hparse]
  simp only [h]
  rfl

/-- A prompt that was read from a value is read again from its printed record, if that holds no numbers and
there are levels for it. -/
theorem ofRecordText_pretty (h : ofRaw value = .ok p) (hslug : p.slug.isSome ∨ slugify p.name = "")
    (htextual : Json.IsTextual p.toJson)
    (hroom : (p.toJson : RawJson).depth ≤ Interpreter.levels .readPrompt) :
    ofRecordText p.toJson.pretty.toList = .ok (p, []) := by
  have hparse : Json.parse (Interpreter.levels .readPrompt) (String.ofList p.toJson.pretty.toList) =
      .ok p.toJson := by
    rw [String.ofList_toList]
    exact Json.parse_pretty htextual.isReadable hroom
  exact ofRecordText_of_parse hparse (ofRaw_toJson h hslug)

end Texts

/-- **A record of a prompt is read as that prompt.** Whatever value a prompt was read from, under whatever
names its fields stood there: the record of the prompt is read as the prompt, unless it lost its slug
while its name has one; and so is every text of this record, without remarks. -/
theorem toJson_rereads [Interpreter] {value : RawJson} (h : ofRaw value = .ok p)
    (hslug : p.slug.isSome ∨ slugify p.name = "") :
    ofRaw p.toJson = .ok p ∧ ∀ text,
      Json.parse (Interpreter.levels .readPrompt) (String.ofList text) = .ok p.toJson →
        ofRecordText text = .ok (p, []) := by
  have hread := ofRaw_toJson h hslug
  exact ⟨hread, fun text hparse => ofRecordText_of_parse hparse hread⟩

/-- Fields under second names, under both names, and fields that are not known. -/
theorem toJson_rereads_named :
    let value : Json := .obj
      [("owner", .str "design"), ("name", .str "Stats Card"),
       ("npm_packages", .arr [.obj [("name", .str "clsx"), ("pinned", .bool true)]]),
       ("component", .obj [("export_name", .str "Card"), ("code", .str "export {}"),
         ("exportName", .str "StatsCard")])]
    let p : Prompt :=
      { name := "Stats Card"
        slug := some "stats-card"
        component :=
          { code := "export {}", exportName := some "StatsCard", extra := [("export_name", .str "Card")] }
        npmPackages := [{ name := "clsx", extra := [("pinned", .bool true)] }]
        extra := [("owner", .str "design")] }
    ofRaw value = .ok p ∧ (p.slug.isSome ∨ slugify p.name = "") ∧ ofRaw p.toJson = .ok p := by
  intro value p
  have hread : ofRaw value = .ok p := by
    rw [ofRaw_ofJson]
    rfl
  exact ⟨hread, .inl rfl, (toJson_rereads hread (.inl rfl)).1⟩

end Prompt

end PromptPress
