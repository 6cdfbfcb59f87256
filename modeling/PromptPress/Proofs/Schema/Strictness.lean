import PromptPress.Proofs.Pipeline.Handover
import PromptPress.Proofs.Schema.Defaults

/-!
# Schemas and defaults in files

A schema is written to its file and read back from it, whatever the notes of its prompt are. The defaults
are as well, unless the text of a list that counts is read as one that no file takes: a list takes a number
like `1e999` at any depth, where a number field takes no infinite one, it takes surrogates without the other
half, and it may be read with more levels than there are left for writing (`Schema.keepsRecords_iff`). A
package is only made of a schema and defaults that are kept (`Prompt.keepsRecords_of_package`).
-/

namespace PromptPress

open Text Number Digest

/-! ### Numbers that are read from text -/

namespace Number

theorem isCanonical_of_readFraction? {negative : Bool} {whole : List Nat} {s : List Char} {x : Binary64}
    (h : readFraction? negative whole s = some x) : x.IsCanonical := by
  unfold readFraction? at h
  split at h
  · dsimp only at h
    split_ifs at h
    obtain ⟨e, -, rfl⟩ := Option.map_eq_some_iff.mp h
    exact Binary64.isCanonical_ofDecimal
  · split_ifs at h
    obtain ⟨e, -, rfl⟩ := Option.map_eq_some_iff.mp h
    exact Binary64.isCanonical_ofDecimal

theorem isCanonical_of_readFloat? {s : List Char} {x : Binary64} (h : readFloat? s = some x) :
    x.IsCanonical := by
  unfold readFloat? at h
  dsimp only at h
  split at h
  · cases h
    trivial
  · cases h
    trivial
  · cases h
    trivial
  · exact isCanonical_of_readFraction? h

end Number

namespace Binary64

/-- A finite number has no more digits before the point than a reader takes. -/
theorem natAbs_truncate?_lt {x : Binary64} {n : Int} (hcanonical : x.IsCanonical)
    (h : x.truncate? = some n) : n.natAbs < 10 ^ maxDigits := by
  cases x with
  | infinite | undefined => cases h
  | finite negative m e =>
    have hm : m < 2 ^ 53 := hcanonical.mantissa_lt
    have he : e ≤ 971 := hcanonical.exponent_le
    have hquotient : (unscale 2 m 1 (-e)).1 / (unscale 2 m 1 (-e)).2 ≤ m * 2 ^ e.toNat := by
      rw [unscale]
      split_ifs with hscale
      · exact (Nat.div_le_self ..).trans (Nat.le_mul_of_pos_right m (by positivity))
      · rw [neg_neg]
        exact Nat.div_le_self ..
    have hn : n.natAbs = (unscale 2 m 1 (-e)).1 / (unscale 2 m 1 (-e)).2 := by
      simp only [truncate?, toRatio?, Option.map_some, Option.some.injEq] at h
      rw [← h]
      split_ifs
      · rw [Int.natAbs_neg, Int.natAbs_natCast]
      · rw [Int.natAbs_natCast]
    calc n.natAbs ≤ m * 2 ^ e.toNat := hn.trans_le hquotient
      _ < 2 ^ 53 * 2 ^ e.toNat := Nat.mul_lt_mul_of_pos_right hm (by positivity)
      _ = 2 ^ (53 + e.toNat) := (pow_add ..).symm
      _ ≤ 10 ^ (53 + e.toNat) := Nat.pow_le_pow_left (by norm_num) _
      _ ≤ 10 ^ maxDigits := Nat.pow_le_pow_right (by norm_num) (by rw [maxDigits]; omega)

end Binary64

namespace FieldType

/-- The default of a number field is null, a whole number that is not too long or a finite number. -/
theorem numberDefault_eq (s : List Char) :
    numberDefault s = .null ∨ (∃ n : Int, n.natAbs < 10 ^ maxDigits ∧ numberDefault s = .int n) ∨
      ∃ x : Binary64, x.IsCanonical ∧ x.isFinite = true ∧ numberDefault s = .float x := by
  unfold numberDefault
  split
  · exact .inl rfl
  · next x hread =>
    have hcanonical := isCanonical_of_readFloat? hread
    split_ifs with hinfinite hwhole
    · exact .inl rfl
    · cases hn : x.truncate? with
      | none => exact .inl rfl
      | some n => exact .inr (.inl ⟨n, Binary64.natAbs_truncate?_lt hcanonical hn, rfl⟩)
    · exact .inr (.inr ⟨x, hcanonical, by simpa using hinfinite, rfl⟩)

theorem isReadable_numberDefault (s : List Char) : (numberDefault s).IsReadable := by
  obtain hnull | ⟨n, hn, hint⟩ | ⟨x, hx, -, hfloat⟩ := numberDefault_eq s
  · exact hnull ▸ .null
  · exact hint ▸ Json.isReadable_int hn
  · exact hfloat ▸ .float x hx

theorem isReadable_absent (type : FieldType) : type.absent.IsReadable := by
  cases type with
  | boolean => exact .bool false
  | number | array | text => exact .null

section Lists

variable [Interpreter] {text : String}

/-- The items of a list that is read. -/
theorem isReadable_listed {items : List RawJson} (h : listed? text = some items) :
    (RawJson.arr items).IsReadable := by
  obtain ⟨value, hread, hitems⟩ := Option.bind_eq_some_iff.mp h
  have hvalue := Json.isReadable_of_parseStrict (Outcome.toOption_eq_some_iff.mp hread)
  cases value with
  | arr others =>
    obtain rfl : others = items := Option.some.inj hitems
    exact hvalue
  | null | bool | int | float | str | obj => cases hitems

theorem isReadable_default {type : FieldType} {value : RawJson} (h : type.default text = .ok value) :
    value.IsReadable := by
  cases type with
  | number => exact Except.ok.inj h ▸ isReadable_numberDefault _
  | boolean => exact Except.ok.inj h ▸ .bool _
  | text => exact Except.ok.inj h ▸ .str _
  | array =>
    rw [arrayDefault_eq_ok h]
    cases hlist : listed? text with
    | none => exact .arr _ fun item hmem => List.mem_singleton.mp hmem ▸ .str text
    | some items => exact isReadable_listed hlist

end Lists

end FieldType

/-! ### Lists that are read -/

/-- A property of values that the default of every field has, unless it is a list that was read. -/
structure RawJson.IsUsual (P : RawJson → Prop) : Prop where
  null : P null
  bool : ∀ b, P (bool b)
  int : ∀ n, P (int n)
  float : ∀ x, x.isFinite = true → P (float x)
  str : ∀ s : String, P (str s)
  list : ∀ s : String, P (.arr [.str s])

theorem RawJson.IsUsual.numberDefault {P : RawJson → Prop} (hP : IsUsual P) (s : List Char) :
    P (FieldType.numberDefault s) := by
  obtain hnull | ⟨n, -, hint⟩ | ⟨x, -, hx, hfloat⟩ := FieldType.numberDefault_eq s
  · exact hnull ▸ hP.null
  · exact hint ▸ hP.int n
  · exact hfloat ▸ hP.float x hx

namespace Directive

variable [Interpreter] {d : Directive} {value : RawJson}

/-- A declaration gives a list that was read and has a property. -/
def Lists (d : Directive) (P : RawJson → Prop) : Prop :=
  d.type = .array ∧ ∃ text ∈ d.defaultText, ∃ items ∈ FieldType.listed? text, P (.arr items)

/-- A declaration gives a list with an infinite number in it. -/
def ListsUnbounded (d : Directive) : Prop :=
  d.Lists fun list => ∃ x, list.Holds x ∧ x.isFinite = false

/-- A declaration gives a list with a loose surrogate in it. -/
def ListsLoose (d : Directive) : Prop :=
  d.Lists fun list => list.isLoose = true

/-- A declaration gives a list that is too deep to be written as the value of a field. -/
def ListsDeep (d : Directive) : Prop :=
  d.Lists fun list => list.fits (Interpreter.levels .writeFile - 1) = false

theorem isReadable_value (h : d.value = .ok value) : value.IsReadable := by
  unfold Directive.value at h
  cases htext : d.defaultText with
  | none =>
    rw [htext] at h
    exact Except.ok.inj h ▸ d.type.isReadable_absent
  | some text =>
    rw [htext] at h
    exact FieldType.isReadable_default h

/-- **The value of a field has a usual property**, if it is not a list that was read without it. -/
theorem usual_value_iff {P : RawJson → Prop} (hP : RawJson.IsUsual P) (h : d.value = .ok value) :
    P value ↔ ¬ d.Lists fun list => ¬ P list := by
  obtain ⟨name, type, defaultText⟩ := d
  cases defaultText with
  | none =>
    obtain rfl : type.absent = value := Except.ok.inj h
    refine iff_of_true ?_ (by simp [Lists])
    cases type with
    | boolean => exact hP.bool false
    | number | array | text => exact hP.null
  | some text =>
    have hdefault : type.default text = .ok value := h
    cases type with
    | number => exact iff_of_true (Except.ok.inj hdefault ▸ hP.numberDefault _) (by simp [Lists])
    | boolean => exact iff_of_true (Except.ok.inj hdefault ▸ hP.bool _) (by simp [Lists])
    | text => exact iff_of_true (Except.ok.inj hdefault ▸ hP.str _) (by simp [Lists])
    | array =>
      rw [FieldType.arrayDefault_eq_ok hdefault, Lists]
      cases hlist : FieldType.listed? text with
      | none => simp [hlist, hP.list]
      | some items => simp [hlist]

theorem isBounded_value_iff (h : d.value = .ok value) : value.isBounded = true ↔ ¬ d.ListsUnbounded := by
  have husual : RawJson.IsUsual (·.isBounded = true) :=
    ⟨rfl, fun _ => rfl, fun _ => rfl, fun _ hx => hx, fun _ => rfl, fun _ => rfl⟩
  rw [usual_value_iff husual h, ListsUnbounded]
  simp only [RawJson.isBounded_iff, not_forall, Bool.not_eq_true, exists_prop]

theorem isLoose_value_iff (h : d.value = .ok value) : value.isLoose = false ↔ ¬ d.ListsLoose := by
  have hstr (s : String) : (RawJson.str s).isLoose = false := RawText.isLoose_ofString s
  have husual : RawJson.IsUsual (·.isLoose = false) :=
    ⟨rfl, fun _ => rfl, fun _ => rfl, fun _ _ => rfl, hstr, fun s => by
      rw [RawJson.isLoose, RawJson.isLooseItem, hstr]
      rfl⟩
  rw [usual_value_iff husual h, ListsLoose]
  simp only [Bool.not_eq_false]

/-- A field of the defaults is written with one level less than the defaults. -/
theorem fits_value_iff (h : d.value = .ok value) :
    value.fits (Interpreter.levels .writeFile - 1) = true ↔ ¬ d.ListsDeep := by
  obtain ⟨levels, hlevels⟩ : ∃ levels, Interpreter.levels .writeFile - 1 = levels + 1 :=
    ⟨Interpreter.levels .writeFile - 2, by
      have hroomy := Interpreter.roomy .writeFile
      omega⟩
  have husual : RawJson.IsUsual (·.fits (levels + 1) = true) :=
    ⟨rfl, fun _ => rfl, fun _ => rfl, fun _ _ => rfl, fun _ => rfl, fun _ => rfl⟩
  rw [ListsDeep, hlevels, usual_value_iff husual h]
  simp only [Bool.not_eq_true]

end Directive

/-! ### Files -/

section Files

variable [Interpreter] {value : RawJson} {prompt : Prompt}

/-- A value without infinite or undefined numbers at any depth is written to a file, and the file is read
as that value if there are levels for it, also by a reader that takes no constants for such numbers. -/
structure RawJson.IsKept (value : RawJson) : Prop where
  finite : ∀ x, value.Holds x → x.isFinite = true
  file : ∃ content text, recordFile value = .ok content ∧ decodeFile content = .ok text ∧
    ∀ levels, value.depth ≤ levels →
      Json.parse levels text = .ok value ∧ Json.parseStrict levels text = .ok value

/-- **A value is kept** just if it is bounded, has no loose surrogates and fits on the stack. -/
theorem RawJson.IsReadable.isKept_iff (h : value.IsReadable) :
    value.IsKept ↔ value.isBounded = true ∧ value.isLoose = false ∧
      value.fits (Interpreter.levels .writeFile) = true := by
  constructor
  · rintro ⟨hfinite, content, text, hfile, -⟩
    obtain ⟨hfits, hbounded, w, rfl, -⟩ := recordFile_eq_ok_iff.mp hfile
    exact ⟨hbounded, RawJson.isLoose_ofJson w, hfits⟩
  · rintro ⟨hbounded, hloose, hfits⟩
    obtain ⟨w, rfl⟩ := RawJson.isLoose_eq_false_iff.mp hloose
    exact
      { finite := RawJson.isBounded_iff.mp hbounded
        file := ⟨utf8 w.pretty, w.pretty, recordFile_eq_ok_iff.mpr ⟨hfits, hbounded, w, rfl, rfl⟩,
          Json.decodeFile_pretty w, fun levels hroom =>
            ⟨Json.parse_pretty h hroom, Json.parseStrict_pretty h hbounded hroom⟩⟩ }

namespace Schema

/-- The schema and the defaults are kept in files. -/
structure KeepsRecords (schema : Schema) : Prop where
  document : (schema.toJson : RawJson).IsKept
  defaults : schema.defaults.IsKept

/-- The fields of the schema that the declarations make. -/
theorem forall_mem_declared_iff {P : RawJson → Prop} :
    (∀ field ∈ (declared prompt).fields, P field.2.2) ↔
      ∀ name d, lastDirective? prompt.notes name = some d → P d.default := by
  have hmem {name : String} {type : FieldType} {value : RawJson} :
      (name, type, value) ∈ (declared prompt).fields ↔
        ∃ d, lastDirective? prompt.notes name = some d ∧ d.type = type ∧ d.default = value := by
    rw [Record.mem_iff_get? (nodup_keys_fields prompt), get?_fields]
    simp
  constructor
  · exact fun h name d hlast => h (name, d.type, d.default) (hmem.mpr ⟨d, hlast, rfl, rfl⟩)
  · rintro h ⟨name, type, value⟩ hfield
    obtain ⟨d, hlast, -, rfl⟩ := hmem.mp hfield
    exact h name d hlast

theorem isReadable_defaults (hdeep : ∀ d ∈ directives prompt.notes, ¬ d.IsTooDeep) :
    (declared prompt).defaults.IsReadable := by
  have hkeys : Record.keys ((declared prompt).fields.map fun field =>
      (RawText.ofString field.1, field.2.2)) = (declared prompt).fields.keys.map RawText.ofString := by
    simp [Record.keys, Function.comp_def]
  refine .obj _ ?_ (List.forall_mem_map.mpr ?_)
  · rw [hkeys]
    exact (nodup_keys_fields prompt).map fun _ _ => RawText.ofString_inj.mp
  · exact forall_mem_declared_iff.mpr fun name d hlast => Directive.isReadable_value
      (Directive.value_eq_default (hdeep d (mem_directives_of_lastDirective? hlast)))

/-- The schema of a prompt has no numbers, only characters, and few levels. -/
theorem isKept_toJson {schema : Schema} (h : ofPrompt prompt = .ok schema) :
    (schema.toJson : RawJson).IsKept := by
  have htextual := isTextual_toJson h
  exact htextual.isReadable.isKept_iff.mpr ⟨htextual.isBounded, RawJson.isLoose_ofJson _,
    RawJson.fits_of_depth_lt _ _ (schema.depth_toJson_le.trans_lt
      ((by decide : 4 < 16).trans_le (Interpreter.roomy _)))⟩

/-- The defaults are kept if they are bounded, have no loose surrogates and fit, field by field. -/
theorem isKept_defaults_iff (hdeep : ∀ d ∈ directives prompt.notes, ¬ d.IsTooDeep) :
    (declared prompt).defaults.IsKept ↔ ∀ name d, lastDirective? prompt.notes name = some d →
      d.default.isBounded = true ∧ d.default.isLoose = false ∧
        d.default.fits (Interpreter.levels .writeFile - 1) = true := by
  have hroom : 0 < Interpreter.levels .writeFile := Nat.zero_lt_of_lt (Interpreter.roomy _)
  rw [(isReadable_defaults hdeep).isKept_iff, defaults, RawJson.isBounded, RawJson.hasBounded_iff,
    RawJson.isLoose, RawJson.isLooseField_eq_false_iff, RawJson.fits_obj_iff hroom]
  simp only [List.forall_mem_map, RawText.isLoose_ofString, true_and, ← forall_and]
  exact forall_mem_declared_iff (P := fun value => value.isBounded = true ∧ value.isLoose = false ∧
    value.fits (Interpreter.levels .writeFile - 1) = true)

/-- **Schema and defaults are kept in files**: there is a schema that is kept with its defaults just if no
default is too deep to be read, and no declaration that counts gives a list with an infinite number or a
loose surrogate in it, or one that is too deep to be written. -/
theorem keepsRecords_iff (prompt : Prompt) :
    (∃ schema, ofPrompt prompt = .ok schema ∧ schema.KeepsRecords) ↔
      (∀ d ∈ directives prompt.notes, ¬ d.IsTooDeep) ∧
        ∀ name d, lastDirective? prompt.notes name = some d →
          ¬ d.ListsUnbounded ∧ ¬ d.ListsLoose ∧ ¬ d.ListsDeep := by
  rw [exists_ofPrompt_and_iff]
  refine and_congr_right fun hdeep => ?_
  have hdocument := isKept_toJson (ofPrompt_eq_ok_iff.mpr ⟨hdeep, rfl⟩)
  have hkeeps : (declared prompt).KeepsRecords ↔ (declared prompt).defaults.IsKept :=
    ⟨KeepsRecords.defaults, KeepsRecords.mk hdocument⟩
  rw [hkeeps, isKept_defaults_iff hdeep]
  refine forall₃_congr fun name d hlast => ?_
  have hvalue := Directive.value_eq_default (hdeep d (mem_directives_of_lastDirective? hlast))
  rw [Directive.isBounded_value_iff hvalue, Directive.isLoose_value_iff hvalue,
    Directive.fits_value_iff hvalue]

end Schema

/-- A package is only made of a schema and defaults that are kept in its files. -/
theorem Prompt.keepsRecords_of_package {host : HostProject} {pkg : Package}
    (h : prompt.package host = .ok pkg) :
    ∃ schema, Schema.ofPrompt prompt = .ok schema ∧ schema.KeepsRecords := by
  simp only [Prompt.package, Outcome.bind_eq_ok_iff, Outcome.mapError_eq_ok_iff] at h
  obtain ⟨b, -, schema, hschema, -, -, tree, -, content, hdefaults, -⟩ := h
  obtain ⟨hfits, hbounded, w, hvalue, -⟩ := recordFile_eq_ok_iff.mp hdefaults
  obtain ⟨hdeep, rfl⟩ := Schema.ofPrompt_eq_ok_iff.mp hschema
  exact ⟨_, hschema, Schema.isKept_toJson hschema, (Schema.isReadable_defaults hdeep).isKept_iff.mpr
    ⟨hbounded, hvalue ▸ RawJson.isLoose_ofJson w, hfits⟩⟩

end Files

/-- A list with a number that is too large to be finite is not kept. -/
theorem Schema.not_keepsRecords_large :
    let prompt : Prompt :=
      { name := "Card", component := { code := "export {}" }, notes := ["@field sizes: array = [1e999]"] }
    ∃ schema, ofPrompt prompt = .ok schema ∧ ¬ schema.KeepsRecords := by
  intro prompt
  have hdirectives : directives prompt.notes = [⟨"sizes", .array, some "[1e999]"⟩] := by decide +kernel
  have hvalue : (⟨"sizes", .array, some "[1e999]"⟩ : Directive).value =
      .ok (.arr [.float (.infinite false)]) := by rfl
  have hdeep : ∀ d ∈ directives prompt.notes, ¬ d.IsTooDeep := by
    rw [hdirectives, List.forall_mem_singleton]
    exact Directive.not_isTooDeep_iff.mpr ⟨_, hvalue⟩
  have hschema := ofPrompt_eq_ok_iff.mpr ⟨hdeep, rfl⟩
  refine ⟨declared prompt, hschema, fun hkeeps => ?_⟩
  have hlast : lastDirective? prompt.notes "sizes" = some ⟨"sizes", .array, some "[1e999]"⟩ := by
    rw [lastDirective?, hdirectives]
    rfl
  have hdefault : Directive.default ⟨"sizes", .array, some "[1e999]"⟩ = .arr [.float (.infinite false)] := by
    rw [Directive.default, hvalue]
    rfl
  have hbounded := ((isKept_defaults_iff hdeep).mp hkeeps.defaults "sizes" _ hlast).1
  rw [hdefault] at hbounded
  cases hbounded

end PromptPress
