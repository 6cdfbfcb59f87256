import Mathlib.Tactic.Common
import PromptPress.Proofs.Outcome
import PromptPress.Proofs.Text.Decoding
import PromptPress.Settings

/-!
# How loading settings fails

Settings that are loaded keep their bounds, and where there is something wrong with them, a complaint should
say so. Variables are texts, and each of them either fits its setting or is complained about. With the
configuration file it is different: it may be no file that can be read, or hold a value of which not even a
complaint can be made. The main law is that loading breaks off at the file or not at all
(`loadsOrComplains_iff`), in whatever way its format is read.
-/

namespace PromptPress.Settings

open Text Digest Outcome

variable {α β : Type} {slot : Slot} {name : String} {raw : Yaml} {s : Settings} {e : SettingsError}
  {value : RawValue} {layer : List RawValue} {mapping : List (Yaml × Yaml)} {env : Environment}
  {parse : FormatReader} {read : FileReader}

/-- A stage that fails ends in a complaint. -/
def Complains (result : Except SettingsError α) : Prop :=
  FailsWith (fun e => e.isComplaint = true) result

namespace Complains

@[simp]
theorem ok (a : α) : Complains (.ok a) :=
  FailsWith.ok a

@[simp]
theorem error_iff : Complains (.error e : Except SettingsError α) ↔ e.isComplaint = true :=
  FailsWith.error_iff

@[simp]
theorem map_iff {f : α → β} {result : Except SettingsError α} :
    Complains (result.map f) ↔ Complains result :=
  FailsWith.map_iff

theorem bind_iff {f : α → Except SettingsError β} {result : Except SettingsError α}
    (h : ∀ a, Complains (f a)) : Complains (result >>= f) ↔ Complains result :=
  FailsWith.bind_iff h

end Complains

/-- A value that is refused has to be shown. -/
theorem complains_refuse_iff {complaint : SettingsError} (h : complaint.isComplaint = true) :
    Complains (refuse raw complaint : Except SettingsError α) ↔ raw.isShowable = true := by
  rw [refuse, Complains.error_iff]
  cases raw.isShowable
  · exact Iff.of_eq rfl
  · simp only [if_true, h]

theorem complains_shownText_iff : Complains (shownText raw) ↔ raw.isShowable = true := by
  rw [shownText]
  cases raw.isShowable <;> simp [SettingsError.isComplaint]

/-! ### Single values -/

/-- A raw value that is no integer, and of which not even a complaint can be made. -/
def BreaksOffInteger : Yaml → Prop
  | .int _ => False
  | .float x => ∃ negative, x = .infinite negative
  | raw => raw.isShowable = false

/-- A raw value that is no floating point number, and of which not even a complaint can be made. -/
def BreaksOffNumber : Yaml → Prop
  | .int n => (Binary64.ofInt n).isFinite = false
  | raw => raw.isShowable = false

/-- A raw value at which writing a setting breaks off. -/
def Slot.BreaksOff (slot : Slot) (raw : Yaml) : Prop :=
  match slot with
  | text _ | switch _ => raw.isShowable = false
  | integer _ => BreaksOffInteger raw
  | number _ => BreaksOffNumber raw

theorem complains_textOf : Complains (textOf raw) ↔ raw.isShowable = true := by
  cases raw with
  | null => exact iff_of_true (.ok _) rfl
  | _ => rw [textOf, Complains.map_iff, complains_shownText_iff]; exact nofun

theorem complains_switchOf : Complains (switchOf raw) ↔ raw.isShowable = true := by
  cases raw with
  | bool b => exact iff_of_true (.ok _) rfl
  | _ => rw [switchOf, Complains.map_iff, complains_shownText_iff]; exact nofun

theorem complains_integerOf : Complains (integerOf name raw) ↔ ¬ BreaksOffInteger raw := by
  have hrefused (raw : Yaml) :
      Complains (refuse raw (.invalidInteger name raw) : Except SettingsError Int) ↔
        raw.isShowable = true := complains_refuse_iff rfl
  cases raw with
  | int n => simp [integerOf, BreaksOffInteger]
  | bool b => simp [integerOf, BreaksOffInteger, Yaml.isShowable]
  | float x =>
    cases x <;> simp [integerOf, BreaksOffInteger, Binary64.truncate?, Binary64.toRatio?, hrefused,
      Yaml.isShowable, SettingsError.isComplaint]
  | str text =>
    cases hread : Number.readInt? text.toList <;>
      simp [integerOf, BreaksOffInteger, hread, hrefused, Yaml.isShowable]
  | null | seq items | map entries => simp [integerOf, BreaksOffInteger, hrefused]

theorem complains_numberOf : Complains (numberOf name raw) ↔ ¬ BreaksOffNumber raw := by
  have hrefused (raw : Yaml) :
      Complains (refuse raw (.invalidNumber name raw) : Except SettingsError Binary64) ↔
        raw.isShowable = true := complains_refuse_iff rfl
  cases raw with
  | int n =>
    simp only [numberOf, nearest, BreaksOffNumber]
    cases (Binary64.ofInt n).isFinite <;> simp [SettingsError.isComplaint]
  | bool b | float x => simp [numberOf, BreaksOffNumber, Yaml.isShowable]
  | str text =>
    cases hread : Number.readFloat? text.toList <;>
      simp [numberOf, BreaksOffNumber, hread, hrefused, Yaml.isShowable]
  | null | seq items | map entries => simp [numberOf, BreaksOffNumber, hrefused]

/-- **Writing a setting** ends in a complaint, if it fails, unless it breaks off at the value. -/
theorem Slot.complains_write_iff (slot : Slot) (name : String) (raw : Yaml) (s : Settings) :
    Complains (slot.write name raw s) ↔ ¬ slot.BreaksOff raw := by
  cases slot with
  | text put => rw [write, Complains.map_iff, complains_textOf, BreaksOff, Bool.not_eq_false]
  | integer put => rw [write, Complains.map_iff, complains_integerOf, BreaksOff]
  | number put => rw [write, Complains.map_iff, complains_numberOf, BreaksOff]
  | switch put => rw [write, Complains.map_iff, complains_switchOf, BreaksOff, Bool.not_eq_false]

/-! ### Layers -/

/-- A value fits its setting, whatever the settings were before. -/
def RawValue.Fits (value : RawValue) : Prop :=
  ∀ s, ∃ written, value.slot.write value.name value.raw s = .ok written

/-- Writing a layer breaks off at one of its values, and those before it fit. -/
inductive LayerBreaksOff : List RawValue → Prop
  | here {value rest} (h : value.slot.BreaksOff value.raw) : LayerBreaksOff (value :: rest)
  | later {value rest} (hfits : value.Fits) (h : LayerBreaksOff rest) : LayerBreaksOff (value :: rest)

/-- Whether a value fits does not depend on the settings before. -/
theorem RawValue.fits_of_write {written : Settings}
    (h : value.slot.write value.name value.raw s = .ok written) : value.Fits := by
  intro other
  cases hslot : value.slot with
  | text put | integer put | number put | switch put =>
    rw [hslot, Slot.write, Outcome.map_eq_ok_iff] at h
    obtain ⟨read, hread, -⟩ := h
    exact ⟨put read other, Outcome.map_eq_ok_iff.mpr ⟨read, hread, rfl⟩⟩

/-- **Writing a layer** ends in a complaint, if it fails, unless it breaks off at a value. -/
theorem complains_overlay_iff (s : Settings) (layer : List RawValue) :
    Complains (overlay s layer) ↔ ¬ LayerBreaksOff layer := by
  induction layer generalizing s with
  | nil => exact iff_of_true (.ok s) nofun
  | cons value rest ih =>
    have hwrite := value.slot.complains_write_iff value.name value.raw s
    have hstep : overlay s (value :: rest) =
        value.slot.write value.name value.raw s >>= fun s => overlay s rest := rfl
    rw [hstep]
    cases hwritten : value.slot.write value.name value.raw s with
    | error e =>
      -- the value does not fit, so only the value itself can be the one
      have hfits : ¬ value.Fits := by
        intro hfits
        obtain ⟨written, h⟩ := hfits s
        cases hwritten.symm.trans h
      rw [hwritten, Complains.error_iff] at hwrite
      rw [error_bind, Complains.error_iff, hwrite]
      refine not_congr ⟨.here, ?_⟩
      rintro (h | ⟨hfits', -⟩)
      · exact h
      · exact absurd hfits' hfits
    | ok written =>
      have hfits := RawValue.fits_of_write hwritten
      rw [hwritten] at hwrite
      have hbreaks : ¬ value.slot.BreaksOff value.raw := hwrite.mp (.ok written)
      refine (ih written).trans (not_congr ⟨.later hfits, ?_⟩)
      rintro (h | ⟨-, h⟩)
      · exact absurd h hbreaks
      · exact h

theorem not_breaksOff_str (slot : Slot) (text : String) : ¬ slot.BreaksOff (.str text) := by
  cases slot <;> exact nofun

theorem LayerBreaksOff.exists_breaksOff (h : LayerBreaksOff layer) :
    ∃ value ∈ layer, value.slot.BreaksOff value.raw := by
  induction h with
  | here h => exact ⟨_, List.mem_cons_self, h⟩
  | later _ _ ih =>
    obtain ⟨value, hmem, h⟩ := ih
    exact ⟨value, List.mem_cons_of_mem _ hmem, h⟩

/-- The values of variables are texts, at which nothing breaks off. -/
theorem not_layerBreaksOff_variableLayer (env : Environment) :
    ¬ LayerBreaksOff (variableLayer env) := by
  intro h
  obtain ⟨value, hmem, h⟩ := h.exists_breaksOff
  obtain ⟨entry, -, hentry⟩ := List.mem_filterMap.mp hmem
  obtain ⟨text, -, rfl⟩ := Option.map_eq_some_iff.mp hentry
  exact not_breaksOff_str _ _ h

theorem complains_ofLayers_iff (mapping : List (Yaml × Yaml)) (env : Environment) :
    Complains (ofLayers mapping env) ↔ ¬ LayerBreaksOff (fileLayer mapping) := by
  rw [← complains_overlay_iff {}]
  refine Complains.bind_iff fun s => ?_
  have hlast (s : Settings) :
      Complains (if s.isInBounds then return s else throw .outOfBounds) := by
    split
    · exact .ok s
    · exact Complains.error_iff.mpr rfl
  exact (Complains.bind_iff hlast).mpr
    ((complains_overlay_iff s _).mpr (not_layerBreaksOff_variableLayer env))

/-! ### The configuration file -/

/-- Loading settings breaks off at what stands at the path of the configuration file: it cannot be opened,
its bytes cannot be read although they may be in the format, or a value in it is one that its setting breaks
off at. -/
inductive FileBreaksOff (parse : FormatReader) : Except ReadFault (List UInt8) → Prop
  | folder : FileBreaksOff parse (.error .isFolder)
  | nameTooLong : FileBreaksOff parse (.error .nameTooLong)
  | unread {bytes fault} (hparse : parse bytes = .error fault) (hfault : fault ≠ .malformed) :
      FileBreaksOff parse (.ok bytes)
  | value {bytes mapping} (hparse : parse bytes = .ok (.map mapping))
      (hvalue : LayerBreaksOff (fileLayer mapping)) : FileBreaksOff parse (.ok bytes)

/-- An empty mapping has no value that anything breaks off at. -/
theorem complains_ofLayers_nil (env : Environment) : Complains (ofLayers [] env) :=
  (complains_ofLayers_iff [] env).mpr nofun

theorem complains_mappingOf_iff (path : String) (bytes : List UInt8) :
    Complains (mappingOf parse path bytes >>= (ofLayers · env)) ↔ ¬ FileBreaksOff parse (.ok bytes) := by
  rw [mappingOf]
  cases hparse : parse bytes with
  | error fault =>
    cases fault with
    | malformed =>
      refine iff_of_true (Complains.error_iff.mpr rfl) fun h => ?_
      cases h with
      | unread hfault hne => exact hne (Except.error.inj (hfault.symm.trans hparse))
      | value hvalue => cases hparse.symm.trans hvalue
    | undecodable | number | tooDeep =>
      exact iff_of_false (fun h => nomatch h _ rfl) (not_not.mpr (.unread hparse nofun))
  | ok value =>
    have hbreaks : FileBreaksOff parse (.ok bytes) ↔
        ∃ mapping, value = .map mapping ∧ LayerBreaksOff (fileLayer mapping) := by
      refine ⟨fun h => ?_, fun ⟨mapping, hmapping, h⟩ => .value (hmapping ▸ hparse) h⟩
      cases h with
      | unread hfault => cases hparse.symm.trans hfault
      | value hvalue h => exact ⟨_, Except.ok.inj (hparse.symm.trans hvalue), h⟩
    rw [hbreaks]
    cases value with
    | map mapping => simp [ok_bind, complains_ofLayers_iff]
    | _ =>
      refine iff_of_true ?_ (by simp)
      dsimp only
      split
      · exact Complains.error_iff.mpr rfl
      · exact complains_ofLayers_nil env

theorem complains_readFile_iff (path : String) :
    Complains (readFile parse read path >>= (ofLayers · env)) ↔ ¬ FileBreaksOff parse (read path) := by
  rw [readFile]
  cases read path with
  | error fault =>
    cases fault with
    | missing | notFolder => exact iff_of_true (Complains.error_iff.mpr rfl) nofun
    | isFolder => exact iff_of_false (fun h => nomatch h _ rfl) (not_not.mpr .folder)
    | nameTooLong => exact iff_of_false (fun h => nomatch h _ rfl) (not_not.mpr .nameTooLong)
  | ok bytes => exact complains_mappingOf_iff _ bytes

/-! ### Readers of text -/

section Texts

variable {parseText : List Char → Except Yaml.ReadError Yaml}

theorem ofText_of_not_isText {bytes : List UInt8} (h : ¬ IsText bytes) :
    FormatReader.ofText parseText bytes = .error .undecodable := by
  rw [FormatReader.ofText]
  cases hread : ofUtf8? bytes with
  | none => rfl
  | some text => exact absurd ⟨text, (ofUtf8?_eq_some_iff.mp hread).symm⟩ h

theorem ofText_utf8 (text : String) : FormatReader.ofText parseText (utf8 text) =
    (parseText (unifyBreaks text.toList)).mapError .ofText := by
  rw [FormatReader.ofText, ofUtf8?_utf8]

/-- **A reader that decodes all bytes first** breaks off at bytes that are no text, and at the text of others. -/
theorem fileBreaksOff_ofText_iff {bytes : List UInt8} :
    FileBreaksOff (.ofText parseText) (.ok bytes) ↔ ¬ IsText bytes ∨ ∃ text, utf8 text = bytes ∧
      ((∃ e, parseText (unifyBreaks text.toList) = .error e ∧ e ≠ .malformed) ∨
        ∃ mapping, parseText (unifyBreaks text.toList) = .ok (.map mapping) ∧
          LayerBreaksOff (fileLayer mapping)) := by
  by_cases htext : IsText bytes
  · obtain ⟨text, rfl⟩ := htext
    have hfault (e : Yaml.ReadError) : FormatFault.ofText e ≠ .malformed ↔ e ≠ .malformed := by
      cases e <;> simp [FormatFault.ofText]
    constructor
    · intro h
      refine .inr ⟨text, rfl, ?_⟩
      cases h with
      | unread hparse hne =>
        rw [ofText_utf8, Outcome.mapError_eq_error_iff] at hparse
        obtain ⟨e, hparse, rfl⟩ := hparse
        exact .inl ⟨e, hparse, (hfault e).mp hne⟩
      | value hparse hvalue =>
        rw [ofText_utf8, Outcome.mapError_eq_ok_iff] at hparse
        exact .inr ⟨_, hparse, hvalue⟩
    · rintro (hnone | ⟨other, hother, h⟩)
      · exact absurd ⟨text, rfl⟩ hnone
      · obtain rfl := utf8_injective hother
        rcases h with ⟨e, hparse, hne⟩ | ⟨mapping, hparse, hvalue⟩
        · exact .unread (by rw [ofText_utf8, hparse]; rfl) ((hfault e).mpr hne)
        · exact .value (by rw [ofText_utf8, hparse]; rfl) hvalue
  · exact iff_of_true (.unread (ofText_of_not_isText htext) nofun) (.inl htext)

end Texts

/-! ### The main law -/

/-- Settings that load keep their bounds, and if they do not load, there is a complaint. -/
def LoadsOrComplains (result : Except SettingsError Settings) : Prop :=
  (∃ s, result = .ok s ∧ 0 ≤ s.staleMinutes ∧ 0 < s.retryBatchSize ∧ 0 ≤ s.cacheRefreshRetryLimit) ∨
    ∃ e, result = .error e ∧ e.isComplaint = true

theorem loadWith_bounds (h : loadWith parse read env = .ok s) :
    0 ≤ s.staleMinutes ∧ 0 < s.retryBatchSize ∧ 0 ≤ s.cacheRefreshRetryLimit := by
  obtain ⟨mapping, -, hlayers⟩ := Outcome.bind_eq_ok_iff.mp h
  exact isInBounds_iff.mp (isInBounds_of_ofLayers hlayers)

theorem loadsOrComplains_loadWith_iff :
    LoadsOrComplains (loadWith parse read env) ↔ Complains (loadWith parse read env) := by
  cases hload : loadWith parse read env with
  | ok s => exact iff_of_true (.inl ⟨s, rfl, loadWith_bounds hload⟩) (.ok s)
  | error e => simp [LoadsOrComplains]

theorem complains_loadWith_iff :
    Complains (loadWith parse read env) ↔
      ∀ path, env.filled? pathVariable = some path → ¬ FileBreaksOff parse (read path) := by
  rw [loadWith]
  cases env.filled? pathVariable with
  | none => exact iff_of_true (complains_ofLayers_nil env) nofun
  | some path =>
    simp only [Option.some.injEq, forall_eq']
    exact complains_readFile_iff path

/-- **Loading settings** gives settings within their bounds or a complaint, exactly if it does not break
off at a configuration file that is named. -/
theorem loadsOrComplains_iff (parse : FormatReader) (read : FileReader) (env : Environment) :
    LoadsOrComplains (loadWith parse read env) ↔
      ∀ path, env.filled? pathVariable = some path → ¬ FileBreaksOff parse (read path) :=
  loadsOrComplains_loadWith_iff.trans complains_loadWith_iff

/-- A folder in the place of the configuration file, a byte that is no text, and an infinite number where an
integer is wanted are not complained about. -/
theorem not_loadsOrComplains_folder :
    let env : Environment := [("PIPELINE_CONFIG_PATH", "c.yaml")]
    ¬ LoadsOrComplains (load (fun _ => .error .isFolder) env) ∧
      ¬ LoadsOrComplains (load (fun _ => .ok [0xff]) env) ∧
      ¬ LoadsOrComplains (load (fun _ => .ok (utf8 "stale_minutes: .inf")) env) := by
  intro env
  have hbreaks {read : FileReader} (h : FileBreaksOff (.ofText Yaml.parse) (read "c.yaml")) :
      ¬ LoadsOrComplains (load read env) := by
    rw [load, loadsOrComplains_loadWith_iff, complains_loadWith_iff]
    exact fun hnone => hnone "c.yaml" (by decide) h
  refine ⟨hbreaks .folder, hbreaks (fileBreaksOff_ofText_iff.mpr (.inl not_isText_byte)), ?_⟩
  have hnumber : ((load (fun _ => .ok (utf8 "stale_minutes: .inf")) env).mapError
      (·.isComplaint)).map (fun _ => ()) = .error false := by
    decide +kernel
  obtain ⟨e, he, hnot⟩ := Outcome.mapError_eq_error_iff.mp (Outcome.map_eq_error_iff.mp hnumber)
  rw [he]
  rintro (⟨s, hs, -⟩ | ⟨e', he', hcomplaint⟩)
  · cases hs
  · rw [← Except.error.inj he', hnot] at hcomplaint
    cases hcomplaint

end PromptPress.Settings
