import Mathlib.Data.List.Nodup
import PromptPress.Catalog.Rows
import PromptPress.Proofs.Archive.Import

/-!
# Recording imports in the catalog

The catalog has one row for each slug, and imports keep it so (`Importer.isKeyed_importAll`). An import
is to be an upsert: afterwards each of its components has one row, which names the import, and all
other rows are as before. The rows that are missing are looked for before any of them is added; so two
components of one name ask for two rows if there is none, and nothing is recorded. Neither is it if rows
would get a title that has a loose surrogate. Otherwise an import that is accepted is an upsert
(`Importer.run_recorded_iff`).
-/

namespace PromptPress

namespace Catalog.Rows

variable {rows after : Rows} {result : ImportResult} {slug : String} {row : Row}

/-- No two rows have one slug. -/
def IsKeyed (rows : Rows) : Prop :=
  (rows.map (·.slug)).Nodup

instance (rows : Rows) : Decidable rows.IsKeyed := inferInstanceAs (Decidable (List.Nodup _))

/-- Rows after an import of which every component was recorded. -/
structure IsUpsert (result : ImportResult) (before after : Rows) : Prop where
  /-- There is one row for each component, and it names the import. -/
  one : ∀ slug ∈ result.components, ∃ row, after.filter (·.slug == slug) = [row] ∧
    row.importId = some result.importId ∧ row.archiveKey = some result.keyPrefix ∧
    ∀ title, result.title = some title → title ≠ .ofString "" → .ofString row.name = title
  /-- All other rows are as before. -/
  others : after.filter (fun row => row.slug ∉ result.components) =
    before.filter fun row => row.slug ∉ result.components
  /-- No row is gone. -/
  kept : before.map (·.slug) <+: after.map (·.slug)

/-! ### Slugs -/

theorem hasRepeat_eq_false_iff {slugs : List String} : hasRepeat slugs = false ↔ slugs.Nodup := by
  induction slugs with
  | nil => simp [hasRepeat]
  | cons slug rest ih => simp [hasRepeat, ih]

theorem has_eq_false_iff : rows.has slug = false ↔ slug ∉ rows.map (·.slug) := by
  simp [has]

theorem mem_newSlugs :
    slug ∈ rows.newSlugs result ↔ slug ∈ result.components ∧ slug ∉ rows.map (·.slug) := by
  rw [newSlugs, List.mem_filter, Bool.not_eq_true', has_eq_false_iff]

theorem map_slug_afterImport : (rows.afterImport result).map (·.slug) = rows.map (·.slug) := by
  rw [afterImport, List.map_map]
  refine List.map_congr_left fun row _ => ?_
  rw [Function.comp_apply]
  split <;> rfl

theorem map_slug_ofImport (slugs : List String) :
    (slugs.map (Row.ofImport result)).map (·.slug) = slugs := by
  rw [List.map_map]
  exact List.map_id slugs

/-- In rows that are keyed, a row is the only one with its slug. -/
theorem IsKeyed.filter_eq (h : rows.IsKeyed) (hrow : row ∈ rows) :
    rows.filter (·.slug == row.slug) = [row] := by
  induction rows with
  | nil => cases hrow
  | cons first rest ih =>
    obtain ⟨hfirst, hrest⟩ := List.nodup_cons.mp h
    rcases List.mem_cons.mp hrow with rfl | hmem
    · have hnone : rest.filter (·.slug == row.slug) = [] := by
        refine List.filter_eq_nil_iff.mpr fun other hother heq => hfirst ?_
        exact List.mem_map.mpr ⟨other, hother, by simpa using heq⟩
      simp [hnone]
    · have hne : first.slug ≠ row.slug := by
        intro heq
        exact hfirst (List.mem_map.mpr ⟨row, hmem, heq.symm⟩)
      simp [hne, ih hrest hmem]

/-! ### Recording -/

/-- The rows after an import, those that were added last. -/
def recorded (rows : Rows) (result : ImportResult) : Rows :=
  rows.afterImport result ++ (rows.newSlugs result).map (Row.ofImport result)

/-- The title of an import can be written into the rows of its components, if there are any. -/
def CanWrite (result : ImportResult) : Prop :=
  titleFault? result = none ∨ result.components = []

instance (result : ImportResult) : Decidable (CanWrite result) := inferInstanceAs (Decidable (_ ∨ _))

theorem record_of_nodup (h : (rows.newSlugs result).Nodup) (htitle : CanWrite result) :
    record result rows = .ok (rows.recorded result) := by
  rw [record]
  split
  · next hfault hcomponents =>
    rcases htitle with htitle | htitle
    · rw [htitle] at hfault
      cases hfault
    · rw [htitle] at hcomponents
      cases hcomponents
  · rw [if_neg (by simp [hasRepeat_eq_false_iff.mpr h])]
    rfl

/-- Nothing is recorded if two rows of one slug would have to be added. -/
theorem record_of_not_nodup (h : ¬ (rows.newSlugs result).Nodup) (htitle : titleFault? result = none) :
    record result rows = .error .duplicateSlug := by
  have hrepeat : hasRepeat (rows.newSlugs result) = true := by
    rwa [← Bool.not_eq_false, hasRepeat_eq_false_iff]
  simp only [record, htitle]
  rw [if_pos hrepeat]

/-- Nothing is recorded if a row would get a title with a loose surrogate. -/
theorem record_of_titleFault? {fault : EncodeFault} (h : titleFault? result = some fault)
    (hcomponents : result.components ≠ []) : record result rows = .error (.unencodable fault) := by
  obtain ⟨slug, slugs, hslugs⟩ := List.exists_cons_of_ne_nil hcomponents
  simp only [record, h, hslugs]

/-- A title that can be written and says something is the text that rows get. -/
theorem titleOf_of_canWrite (htitle : CanWrite result) (hslug : slug ∈ result.components) {title : RawText}
    (h : result.title = some title) (hne : title ≠ .ofString "") :
    ∃ name, titleOf result = some name ∧ .ofString name = title := by
  have hfault : titleFault? result = none := htitle.resolve_right (List.ne_nil_of_mem hslug)
  rw [titleFault?, h, Option.bind_some, RawText.fault?_eq_none_iff, RawText.isLoose_eq_false_iff] at hfault
  obtain ⟨name, rfl⟩ := hfault
  have hname : name ≠ "" := fun hempty => hne (hempty ▸ rfl)
  exact ⟨name, by simp [titleOf, h, hname], rfl⟩

theorem map_slug_recorded :
    (rows.recorded result).map (·.slug) = rows.map (·.slug) ++ rows.newSlugs result := by
  rw [recorded, List.map_append, map_slug_afterImport, map_slug_ofImport]

/-- Rows stay keyed when an import is recorded. -/
theorem IsKeyed.recorded (h : rows.IsKeyed) (hnew : (rows.newSlugs result).Nodup) :
    (rows.recorded result).IsKeyed := by
  rw [IsKeyed, map_slug_recorded]
  refine List.nodup_append'.mpr ⟨h, hnew, fun slug hslug hmem => ?_⟩
  exact (mem_newSlugs.mp hmem).2 hslug

theorem IsKeyed.record (h : rows.IsKeyed) (hrecord : record result rows = .ok after) :
    after.IsKeyed := by
  rw [Rows.record] at hrecord
  split at hrecord
  · cases hrecord
  · split at hrecord
    · cases hrecord
    · next hrepeat =>
      have hnew : (rows.newSlugs result).Nodup :=
        hasRepeat_eq_false_iff.mp (by simpa using hrepeat)
      exact Except.ok.inj hrecord ▸ h.recorded hnew

/-- A row that an import has written names it. -/
theorem names_updated : (row.updated result).importId = some result.importId ∧
    (row.updated result).archiveKey = some result.keyPrefix ∧
    ∀ title, titleOf result = some title → (row.updated result).name = title := by
  refine ⟨rfl, rfl, fun title htitle => ?_⟩
  simp [Row.updated, htitle]

theorem names_ofImport : (Row.ofImport result slug).importId = some result.importId ∧
    (Row.ofImport result slug).archiveKey = some result.keyPrefix ∧
    ∀ title, titleOf result = some title → (Row.ofImport result slug).name = title := by
  refine ⟨rfl, rfl, fun title htitle => ?_⟩
  simp [Row.ofImport, htitle]

/-- There is a row for each component afterwards. -/
theorem exists_row_recorded (rows : Rows) (hslug : slug ∈ result.components) :
    ∃ row ∈ rows.recorded result, row.slug = slug ∧ row.importId = some result.importId ∧
      row.archiveKey = some result.keyPrefix ∧
      ∀ title, titleOf result = some title → row.name = title := by
  -- a row that was there is changed, one that was not is added
  by_cases hthere : slug ∈ rows.map (·.slug)
  · obtain ⟨row, hrow, rfl⟩ := List.mem_map.mp hthere
    refine ⟨row.updated result, List.mem_append_left _ ?_, rfl, names_updated⟩
    refine List.mem_map.mpr ⟨row, hrow, ?_⟩
    rw [if_pos (by simpa using hslug)]
  · refine ⟨Row.ofImport result slug, List.mem_append_right _ ?_, rfl, names_ofImport⟩
    exact List.mem_map_of_mem (mem_newSlugs.mpr ⟨hslug, hthere⟩)

theorem filter_afterImport :
    (rows.afterImport result).filter (fun row => row.slug ∉ result.components) =
      rows.filter fun row => row.slug ∉ result.components := by
  induction rows with
  | nil => rfl
  | cons row rest ih =>
    rw [afterImport] at ih
    by_cases hslug : row.slug ∈ result.components
    · have hupdated : (row.updated result).slug ∈ result.components := hslug
      rw [afterImport, List.map_cons, if_pos (by simpa using hslug),
        List.filter_cons_of_neg (by simpa using hupdated),
        List.filter_cons_of_neg (by simpa using hslug), ih]
    · rw [afterImport, List.map_cons, if_neg (by simpa using hslug),
        List.filter_cons_of_pos (by simpa using hslug),
        List.filter_cons_of_pos (by simpa using hslug), ih]

/-- Rows of other slugs are not touched. -/
theorem filter_recorded :
    (rows.recorded result).filter (fun row => row.slug ∉ result.components) =
      rows.filter fun row => row.slug ∉ result.components := by
  have hnew : ((rows.newSlugs result).map (Row.ofImport result)).filter
      (fun row => row.slug ∉ result.components) = [] := by
    refine List.filter_eq_nil_iff.mpr fun row hrow => ?_
    obtain ⟨slug, hslug, rfl⟩ := List.mem_map.mp hrow
    have hcomponent : (Row.ofImport result slug).slug ∈ result.components := (mem_newSlugs.mp hslug).1
    simpa using hcomponent
  rw [recorded, List.filter_append, hnew, List.append_nil, filter_afterImport]

/-- **Recording is an upsert** if no slug has to be added twice and the title can be written. -/
theorem IsKeyed.isUpsert (h : rows.IsKeyed) (hnew : (rows.newSlugs result).Nodup)
    (htitle : CanWrite result) : rows.IsUpsert result (rows.recorded result) where
  one slug hslug := by
    obtain ⟨row, hrow, rfl, hid, hkey, hname⟩ := exists_row_recorded rows hslug
    refine ⟨row, (h.recorded hnew).filter_eq hrow, hid, hkey, fun title hsome hne => ?_⟩
    obtain ⟨name, hof, rfl⟩ := titleOf_of_canWrite htitle hslug hsome hne
    rw [hname name hof]
  others := filter_recorded
  kept := by
    rw [map_slug_recorded]
    exact List.prefix_append ..

end Catalog.Rows

/-! ### Importers that record -/

namespace Importer

variable {ρ : Type} {importer : Importer ρ} {env : Environment} {request : ImportRequest}
  {store : ObjectStore} {result : ImportResult}

open Catalog
open Digest (utf8)

/-- An importer that records imports in the catalog. -/
def recorded (importer : Importer ρ) : Importer Rows :=
  { bucket := importer.bucket
    required := importer.required
    signsIn := importer.signsIn
    readTitle := importer.readTitle
    record := Rows.record }

/-- What an importer accepts is left to be recorded by any importer that differs in its records only. -/
theorem run_recorded {before : ρ} (h : (importer.run env request store before).outcome = .ok result) :
    ∃ after, ∀ rows, importer.recorded.run env request store rows =
      importer.recorded.finish result after rows := by
  obtain ⟨archive, files, ready, after, title, hplan, hconnect, hready, hputs, htitle, rfl⟩ := run_eq_ok h
  -- the checks, the sign-in, the puts and the title do not look at the records
  have hplan' : importer.recorded.plan request.upload = .ok (archive, files) := hplan
  have hconnect' : importer.recorded.connect env = .ok () := hconnect
  have hbucket : importer.recorded.bucketIn env = importer.bucketIn env := rfl
  have htitle' : archive.title importer.recorded.readTitle = .ok title := htitle
  refine ⟨after, fun rows => ?_⟩
  simp only [run, hplan', hconnect', upload, hbucket, hready, hputs, conclude_of_title htitle']

theorem rows_finish {rows : ρ} : (importer.finish result store rows).rows = rows ∨
    importer.record result rows = .ok (importer.finish result store rows).rows := by
  rw [finish]
  split
  · next hrecord => exact .inr hrecord
  · exact .inl rfl

/-- A run leaves the records as they are, or records a result. -/
theorem rows_run (importer : Importer ρ) (env : Environment) (request : ImportRequest)
    (store : ObjectStore) (rows : ρ) : (importer.run env request store rows).rows = rows ∨
    ∃ result, importer.record result rows = .ok (importer.run env request store rows).rows := by
  rw [run]
  split
  · exact .inl rfl
  · split
    · exact .inl rfl
    · rw [upload]
      split
      · exact .inl rfl
      · split
        · exact .inl rfl
        · rw [conclude]
          split
          · exact .inl rfl
          · exact rows_finish.imp_right fun hrecord => ⟨_, hrecord⟩

/-- Imports one after another. -/
def importAll (importer : Importer ρ) (env : Environment) :
    List ImportRequest → ObjectStore × ρ → ObjectStore × ρ
  | [], s => s
  | request :: rest, s =>
    let run := importer.run env request s.1 s.2
    importer.importAll env rest (run.store, run.rows)

/-- **Imports keep the catalog keyed**, whether they succeed or fail. -/
theorem isKeyed_importAll (requests : List ImportRequest) {s : ObjectStore × Rows} (h : s.2.IsKeyed) :
    (importer.recorded.importAll env requests s).2.IsKeyed := by
  induction requests generalizing s with
  | nil => exact h
  | cons request rest ih =>
    refine ih ?_
    rcases rows_run importer.recorded env request s.1 s.2 with hrows | ⟨result, hrecord⟩
    · rwa [hrows]
    · exact h.record hrecord

/-- **An accepted import is recorded as an upsert** exactly if no two of its components have one name and
no row, and no row would get a title with a loose surrogate. Otherwise the import fails and nothing is
recorded. -/
theorem run_recorded_iff (importer : Importer ρ) (env : Environment) (request : ImportRequest)
    (store : ObjectStore) (before : ρ) (result : ImportResult) (rows : Rows) (hkeyed : rows.IsKeyed)
    (haccepted : (importer.run env request store before).outcome = .ok result) :
    let run := importer.recorded.run env request store rows
    (run.outcome = .ok result ∧ rows.IsUpsert result run.rows ↔
      (rows.newSlugs result).Nodup ∧ Rows.CanWrite result) ∧
    (∀ fault, titleFault? result = some fault → result.components ≠ [] →
      run.outcome = .error (.record (.unencodable fault)) ∧ run.rows = rows) ∧
    (titleFault? result = none → ¬ (rows.newSlugs result).Nodup →
      run.outcome = .error (.record .duplicateSlug) ∧ run.rows = rows) := by
  intro run
  obtain ⟨after, hrun⟩ := run_recorded haccepted
  have hfinish : run = importer.recorded.finish result after rows := hrun rows
  -- a record that is refused leaves the rows, and the import has failed
  have hrefused {e : RecordError} (h : Rows.record result rows = .error e) :
      run.outcome = .error (.record e) ∧ run.rows = rows := by
    have hfailed : run = ⟨after, rows, .error (.record e)⟩ := by
      simp only [hfinish, finish, recorded, h]
    rw [hfailed]
    exact ⟨rfl, rfl⟩
  refine ⟨⟨?_, ?_⟩, ?_, ?_⟩
  · rintro ⟨houtcome, -⟩
    by_contra hnot
    rcases hfault : titleFault? result with _ | fault
    · have hnew : ¬ (rows.newSlugs result).Nodup := fun hnew => hnot ⟨hnew, .inl hfault⟩
      rw [(hrefused (Rows.record_of_not_nodup hnew hfault)).1] at houtcome
      cases houtcome
    · have hcomponents : result.components ≠ [] := by
        intro hnil
        have hnone : rows.newSlugs result = [] := by rw [Rows.newSlugs, hnil, List.filter_nil]
        exact hnot ⟨hnone ▸ List.nodup_nil, .inr hnil⟩
      rw [(hrefused (Rows.record_of_titleFault? hfault hcomponents)).1] at houtcome
      cases houtcome
  · rintro ⟨hnew, htitle⟩
    have hrecorded : run = ⟨after, rows.recorded result, .ok result⟩ := by
      simp only [hfinish, finish, recorded, Rows.record_of_nodup hnew htitle]
    rw [hrecorded]
    exact ⟨rfl, hkeyed.isUpsert hnew htitle⟩
  · exact fun fault hfault hcomponents => hrefused (Rows.record_of_titleFault? hfault hcomponents)
  · exact fun hfault hnew => hrefused (Rows.record_of_not_nodup hnew hfault)

/-- A component of two files is imported again, together with a new one. -/
theorem run_recorded_iff_again :
    let archive : Archive := [⟨"schema.json", utf8 "\x7b\"title\": \"Card\"\x7d"⟩, ⟨"preview.html", []⟩,
      ⟨"components/ui/card.tsx", []⟩, ⟨"components/ui/card.css", []⟩, ⟨"components/ui/tab.tsx", []⟩]
    let request : ImportRequest := ⟨.archive archive, "u1", importIdOf 1, none, 0⟩
    let importer : Importer Unit := { bucket := some "b" }
    let rows : Rows := [⟨"hero", "Hero", "component", [], none, none⟩,
      ⟨"card", "Old card", "component", ["ui"], none, none⟩]
    let key := "templates/u1/00000000000000000000000000000001"
    let result : ImportResult := ⟨importIdOf 1, "u1", "b", key,
      archive.map fun entry => s!"{key}/{entry.name}", [], ["card", "card", "tab"], some (.ofString "Card"), 0, none⟩
    let run := importer.recorded.run [] request {} rows
    rows.IsKeyed ∧ (importer.run [] request {} ()).outcome = .ok result ∧
      run.rows = [⟨"hero", "Hero", "component", [], none, none⟩,
        ⟨"card", "Card", "component", ["ui"], some (importIdOf 1), some key⟩,
        ⟨"tab", "Card", "component", [], some (importIdOf 1), some key⟩] ∧
      run.outcome = .ok result ∧ rows.IsUpsert result run.rows := by
  intro archive request importer rows key result run
  have hkeyed : rows.IsKeyed := by decide
  have haccepted : (importer.run [] request {} ()).outcome = .ok result := by decide +kernel
  obtain ⟨hiff, -, -⟩ := run_recorded_iff importer [] request {} () result rows hkeyed haccepted
  exact ⟨hkeyed, haccepted, by decide +kernel, hiff.mpr (by decide +kernel)⟩

/-- A component of two files is imported for the first time: the import is accepted and not recorded. -/
theorem not_recorded_first :
    let archive : Archive := [⟨"schema.json", utf8 "\x7b\"title\": \"Card\"\x7d"⟩, ⟨"preview.html", []⟩,
      ⟨"components/ui/card.tsx", utf8 "x"⟩, ⟨"components/ui/card.css", utf8 "y"⟩]
    let request : ImportRequest := ⟨.archive archive, "u1", importIdOf 1, none, 0⟩
    let importer : Importer Unit := { bucket := some "b" }
    let run := importer.recorded.run [] request {} []
    ∃ result, Rows.IsKeyed [] ∧ (importer.run [] request {} ()).outcome = .ok result ∧
      ¬ (run.outcome = .ok result ∧ Rows.IsUpsert result [] run.rows) := by
  intro archive request importer run
  have haccepted : (importer.run [] request {} ()).outcome.toOption.isSome = true := by decide +kernel
  have hfails : run.outcome = .error (.record .duplicateSlug) := by decide +kernel
  obtain ⟨result, hresult⟩ := Outcome.exists_of_isSome haccepted
  refine ⟨result, List.nodup_nil, hresult, fun h => ?_⟩
  rw [hfails] at h
  cases h.1

end Importer

end PromptPress
