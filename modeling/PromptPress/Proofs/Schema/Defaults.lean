import PromptPress.Proofs.Json.Digits
import PromptPress.Proofs.Json.Readable
import PromptPress.Schema

/-!
# Defaults and the schema that they go with

There is a schema of a prompt if no default is nested deeper than the stack; each declaration then gives what
its type makes of its text (`Schema.ofPrompt_eq_ok_iff`). The schema and the defaults have the same names, and
of several declarations of a name the last one gives both. A number, a flag and a text conform to what the
schema says about their field; the schema says of the items of a list that they are texts, but a list is
whatever can be read from its text. So there is a schema to which the defaults conform just if no default is
too deep and no list that counts has other items than texts (`Schema.defaultsConform_iff`).
-/

namespace PromptPress

/-- The items that a value has, if it is an array. -/
def RawJson.items? : RawJson → Option (List RawJson)
  | arr items => some items
  | _ => none

/-! ### Defaults that are too deep -/

section Depth

variable [Interpreter] {d : Directive} {prompt : Prompt} {schema : Schema}

namespace Directive

/-- The default of a field, null if its text is nested deeper than the stack. -/
def default (d : Directive) : RawJson :=
  d.value.toOption.getD .null

/-- The default of a field is nested deeper than the stack. -/
def IsTooDeep (d : Directive) : Prop :=
  ∃ overflow, d.value = .error overflow

theorem value_eq_default (h : ¬ d.IsTooDeep) : d.value = .ok d.default := by
  unfold default
  cases hvalue : d.value with
  | ok value => rfl
  | error overflow => exact absurd ⟨overflow, hvalue⟩ h

theorem not_isTooDeep_iff : ¬ d.IsTooDeep ↔ ∃ value, d.value = .ok value := by
  refine ⟨fun h => ⟨_, value_eq_default h⟩, ?_⟩
  rintro ⟨value, hvalue⟩ ⟨overflow, hdeep⟩
  rw [hvalue] at hdeep
  cases hdeep

theorem field_eq_ok (h : ¬ d.IsTooDeep) : d.field = .ok (d.name, d.type, d.default) := by
  rw [field, value_eq_default h]
  rfl

/-- **Only lists are too deep**: the text of one that is cannot be read to its end. -/
theorem isTooDeep_iff : d.IsTooDeep ↔ d.type = .array ∧ ∃ text ∈ d.defaultText, ∃ overflow,
    Json.parseStrict (Interpreter.levels .readDefault) text = .error (.tooDeep overflow) := by
  rw [IsTooDeep, value]
  cases d.defaultText with
  | none => simp
  | some text =>
    simp only [Option.map_some, Option.getD_some, Option.mem_some_iff, exists_eq_left']
    cases htype : d.type with
    | number | boolean | text => simp [FieldType.default]
    | array =>
      simp only [FieldType.default, FieldType.arrayDefault, true_and]
      split <;> simp_all

/-- In a default that is too deep about as many brackets open as there are levels. -/
theorem IsTooDeep.levels_le (h : d.IsTooDeep) :
    ∃ text ∈ d.defaultText, Interpreter.levels .readDefault ≤ Json.openings text.toList + 1 := by
  obtain ⟨-, text, htext, overflow, hparse⟩ := isTooDeep_iff.mp h
  exact ⟨text, htext, Json.levels_le_of_parseStrict hparse⟩

end Directive

namespace Schema

/-- The schema that the declarations of a prompt make if none of them is too deep. -/
def declared (prompt : Prompt) : Schema where
  title := titleOf prompt
  fields := Record.ofFields ((directives prompt.notes).map fun d => (d.name, d.type, d.default))

/-- **There is a schema** just if no default is too deep. -/
theorem ofPrompt_eq_ok_iff : ofPrompt prompt = .ok schema ↔
    (∀ d ∈ directives prompt.notes, ¬ d.IsTooDeep) ∧ schema = declared prompt := by
  rw [ofPrompt, Outcome.map_eq_ok_iff]
  have hall (h : ∀ d ∈ directives prompt.notes, ¬ d.IsTooDeep) :
      (directives prompt.notes).mapM Directive.field =
        .ok ((directives prompt.notes).map fun d => (d.name, d.type, d.default)) :=
    Outcome.mapM_eq_ok_map_iff.mpr fun d hd => Directive.field_eq_ok (h d hd)
  constructor
  · rintro ⟨fields, hfields, rfl⟩
    have hdeep : ∀ d ∈ directives prompt.notes, ¬ d.IsTooDeep := by
      intro d hd
      obtain ⟨field, -, hfield⟩ := Outcome.exists_of_mem_left (Outcome.mapM_eq_ok_iff.mp hfields) d hd
      obtain ⟨value, hvalue, -⟩ := Outcome.map_eq_ok_iff.mp hfield
      exact Directive.not_isTooDeep_iff.mpr ⟨value, hvalue⟩
    rw [hall hdeep] at hfields
    obtain rfl := Except.ok.inj hfields
    exact ⟨hdeep, rfl⟩
  · rintro ⟨hdeep, rfl⟩
    exact ⟨_, hall hdeep, rfl⟩

/-- A law of the schema of a prompt is one of the schema that its declarations make. -/
theorem exists_ofPrompt_and_iff {P : Schema → Prop} :
    (∃ schema, ofPrompt prompt = .ok schema ∧ P schema) ↔
      (∀ d ∈ directives prompt.notes, ¬ d.IsTooDeep) ∧ P (declared prompt) := by
  simp only [ofPrompt_eq_ok_iff]
  constructor
  · rintro ⟨_, ⟨hdeep, rfl⟩, h⟩
    exact ⟨hdeep, h⟩
  · rintro ⟨hdeep, h⟩
    exact ⟨_, ⟨hdeep, rfl⟩, h⟩

end Schema

end Depth

/-! ### What a schema says about values -/

/-- A value conforms to the property of a schema: it has the type that is named there, the items of a list
conform to what is said about items, and only what is nullable is null. -/
inductive Conforms : Json → RawJson → Prop
  | null {said : Record Json} (h : Json.field said "nullable" = .bool true) : Conforms (.obj said) .null
  | bool {said : Record Json} (h : Json.field said "type" = .str "boolean") (value : Bool) :
    Conforms (.obj said) (.bool value)
  | int {said : Record Json} (h : Json.field said "type" = .str "number") (n : Int) :
    Conforms (.obj said) (.int n)
  | float {said : Record Json} (h : Json.field said "type" = .str "number") (x : Binary64) :
    Conforms (.obj said) (.float x)
  | str {said : Record Json} (h : Json.field said "type" = .str "string") (text : RawText) :
    Conforms (.obj said) (.str text)
  | arr {said : Record Json} (h : Json.field said "type" = .str "array") {items : List RawJson}
    (hitems : ∀ item ∈ items, Conforms (Json.field said "items") item) : Conforms (.obj said) (.arr items)

namespace Schema

/-- What a schema says about a field. -/
def property? (schema : Schema) (name : String) : Option Json := do
  let document ← schema.toJson.fields?
  (← (Json.field document "properties").fields?).get? name

/-- The default of a field. -/
def default? (schema : Schema) (name : String) : Option RawJson :=
  schema.defaults.object.get? (.ofString name)

/-- Every property of a schema has a default that conforms to it. -/
def DefaultsConform (schema : Schema) : Prop :=
  ∀ name property, schema.property? name = some property →
    ∃ value, schema.default? name = some value ∧ Conforms property value

/-- The declaration of a name that counts: the last one. -/
def lastDirective? (notes : List String) (name : String) : Option Directive :=
  (directives notes).reverse.find? fun d => d.name == name

theorem mem_directives_of_lastDirective? {notes : List String} {name : String} {d : Directive}
    (h : lastDirective? notes name = some d) : d ∈ directives notes :=
  List.mem_reverse.mp (List.mem_of_find?_eq_some h)

section Fields

variable [Interpreter]

/-- The fields of a schema are the declarations that count. -/
theorem get?_fields (prompt : Prompt) (name : String) :
    (declared prompt).fields.get? name =
      (lastDirective? prompt.notes name).map fun d => (d.type, d.default) := by
  rw [declared, Record.get?_ofFields, ← List.map_reverse, Record.get?_map_key Directive.name, lastDirective?]

theorem nodup_keys_fields (prompt : Prompt) : (declared prompt).fields.keys.Nodup :=
  Record.nodup_keys_ofFields _

end Fields

end Schema

/-! ### Types and their values -/

namespace FieldType

section Lists

variable [Interpreter]

/-- The items of the list that a text is read as, if it is read as one. -/
def listed? (text : String) : Option (List RawJson) :=
  (Json.parseStrict (Interpreter.levels .readDefault) text).toOption.bind RawJson.items?

/-- The default of a list field is the list that its text is read as, or a list of the text. -/
theorem arrayDefault_eq_ok {text : String} {value : RawJson} (h : arrayDefault text = .ok value) :
    value = .arr ((listed? text).getD [.str text]) := by
  rw [arrayDefault] at h
  rw [listed?]
  cases hread : Json.parseStrict (Interpreter.levels .readDefault) text with
  | ok value =>
    rw [hread] at h
    cases value <;> exact (Except.ok.inj h).symm
  | error e =>
    rw [hread] at h
    cases e with
    | tooDeep overflow => cases h
    | malformed | tooManyDigits => exact (Except.ok.inj h).symm

/-- The text of a default is read as a list with an item that is no text. -/
def ListsOther (type : FieldType) (text : String) : Prop :=
  type = array ∧ ∃ items ∈ listed? text, ∃ item ∈ items, item.text? = none

instance (type : FieldType) (text : String) : Decidable (type.ListsOther text) :=
  inferInstanceAs (Decidable (_ ∧ _))

end Lists

theorem conforms_absent (type : FieldType) : Conforms type.toJson type.absent := by
  cases type with
  | boolean => exact .bool rfl false
  | number | array | text => exact .null rfl

theorem conforms_numberDefault (s : List Char) : Conforms number.toJson (numberDefault s) := by
  unfold numberDefault
  split
  · exact .null rfl
  · next x _ =>
    split_ifs
    · exact .null rfl
    · cases x.truncate? with
      | none => exact .null rfl
      | some n => exact .int rfl n
    · exact .float rfl x

/-- What a list field says about its items: they are texts. -/
theorem conforms_arr_iff {items : List RawJson} :
    Conforms array.toJson (.arr items) ↔ ∀ item ∈ items, item.text? ≠ none := by
  constructor
  · intro h item hmem hother
    cases h with
    | arr _ hitems =>
      cases hitems item hmem with
      | str _ text => cases hother
      | null h | bool h | int h | float h | arr h => simp [Json.field, Record.get?] at h
  · intro htexts
    refine .arr rfl fun value hmem => ?_
    cases value with
    | str text => exact .str rfl text
    | null | bool | int | float | arr | obj => exact absurd rfl (htexts _ hmem)

/-- **A default conforms** to its type, if it is not read as a list with other items than texts. -/
theorem conforms_default_iff [Interpreter] {type : FieldType} {text : String} {value : RawJson}
    (h : type.default text = .ok value) : Conforms type.toJson value ↔ ¬ type.ListsOther text := by
  cases type with
  | number =>
    obtain rfl := Except.ok.inj h
    exact iff_of_true (conforms_numberDefault _) nofun
  | boolean =>
    obtain rfl := Except.ok.inj h
    exact iff_of_true (.bool rfl _) nofun
  | text =>
    obtain rfl := Except.ok.inj h
    exact iff_of_true (.str rfl _) nofun
  | array =>
    rw [arrayDefault_eq_ok h, conforms_arr_iff, ListsOther]
    cases listed? text <;> simp [RawJson.text?]

end FieldType

namespace Directive

variable [Interpreter]

/-- A declaration gives a list with an item that is no text. -/
def ListsOther (d : Directive) : Prop :=
  ∃ text ∈ d.defaultText, d.type.ListsOther text

theorem conforms_value_iff {d : Directive} {value : RawJson} (h : d.value = .ok value) :
    Conforms d.type.toJson value ↔ ¬ d.ListsOther := by
  unfold Directive.value at h
  unfold ListsOther
  cases htext : d.defaultText with
  | none =>
    rw [htext] at h
    obtain rfl := Except.ok.inj h
    simp [FieldType.conforms_absent]
  | some text =>
    rw [htext] at h
    simp [FieldType.conforms_default_iff h]

end Directive

/-! ### Schemas -/

namespace Schema

section Conforming

variable [Interpreter]

theorem property?_eq (prompt : Prompt) (name : String) :
    (declared prompt).property? name = (lastDirective? prompt.notes name).map (·.type.toJson) := by
  have hproperties : (declared prompt).property? name =
      Record.get? ((declared prompt).fields.map fun field => (field.1, field.2.1.toJson)) name := rfl
  rw [hproperties, Record.get?_map (fun field : FieldType × RawJson => field.1.toJson), get?_fields]
  cases lastDirective? prompt.notes name <;> rfl

theorem default?_eq (prompt : Prompt) (name : String) :
    (declared prompt).default? name = (lastDirective? prompt.notes name).map (·.default) := by
  have hdefaults : (declared prompt).default? name =
      Record.get? ((declared prompt).fields.map fun field => (RawText.ofString field.1, field.2.2))
        (.ofString name) := rfl
  rw [hdefaults, Record.get?_map_names (fun _ _ => RawText.ofString_inj.mp)
    (fun field : FieldType × RawJson => field.2), get?_fields]
  cases lastDirective? prompt.notes name <;> rfl

/-- Defaults conform if no declaration that counts gives a list with other items than texts. -/
theorem defaultsConform_declared_iff {prompt : Prompt}
    (hdeep : ∀ d ∈ directives prompt.notes, ¬ d.IsTooDeep) :
    (declared prompt).DefaultsConform ↔
      ∀ name d, lastDirective? prompt.notes name = some d → ¬ d.ListsOther := by
  have hvalue {name : String} {d : Directive} (hlast : lastDirective? prompt.notes name = some d) :
      d.value = .ok d.default :=
    Directive.value_eq_default (hdeep d (mem_directives_of_lastDirective? hlast))
  simp only [DefaultsConform, property?_eq, default?_eq]
  constructor
  · intro hconform name d hlast
    obtain ⟨value, hdefault, hconforms⟩ := hconform name d.type.toJson (by rw [hlast]; rfl)
    obtain rfl : d.default = value := by simpa [hlast] using hdefault
    exact (Directive.conforms_value_iff (hvalue hlast)).mp hconforms
  · intro htexts name property hproperty
    obtain ⟨d, hlast, rfl⟩ := Option.map_eq_some_iff.mp hproperty
    exact ⟨d.default, by rw [hlast]; rfl,
      (Directive.conforms_value_iff (hvalue hlast)).mpr (htexts name d hlast)⟩

/-- **Defaults conform to the schema**: there is a schema to which they conform just if no default is too
deep, and no declaration that counts gives a list with other items than texts. -/
theorem defaultsConform_iff (prompt : Prompt) :
    (∃ schema, ofPrompt prompt = .ok schema ∧ schema.DefaultsConform) ↔
      (∀ d ∈ directives prompt.notes, ¬ d.IsTooDeep) ∧
        ∀ name d, lastDirective? prompt.notes name = some d → ¬ d.ListsOther := by
  rw [exists_ofPrompt_and_iff]
  exact and_congr_right defaultsConform_declared_iff

end Conforming

/-- A list of numbers does not conform to a field that lists texts. -/
theorem not_defaultsConform_numbers :
    let prompt : Prompt :=
      { name := "Card", component := { code := "export {}" }, notes := ["@field items: array = [1, 2]"] }
    ∃ schema, ofPrompt prompt = .ok schema ∧ ¬ schema.DefaultsConform := by
  intro prompt
  have hdirectives : directives prompt.notes = [⟨"items", .array, some "[1, 2]"⟩] := by decide +kernel
  have hvalue : (⟨"items", .array, some "[1, 2]"⟩ : Directive).value = .ok (.arr [.int 1, .int 2]) := by rfl
  have hlists : FieldType.array.ListsOther "[1, 2]" := by decide +kernel
  have hdeep : ∀ d ∈ directives prompt.notes, ¬ d.IsTooDeep := by
    rw [hdirectives, List.forall_mem_singleton]
    exact Directive.not_isTooDeep_iff.mpr ⟨_, hvalue⟩
  refine ⟨declared prompt, ofPrompt_eq_ok_iff.mpr ⟨hdeep, rfl⟩, fun hconform => ?_⟩
  have htexts := (defaultsConform_declared_iff hdeep).mp hconform
  have hlast : lastDirective? prompt.notes "items" = some ⟨"items", .array, some "[1, 2]"⟩ := by
    rw [lastDirective?, hdirectives]
    rfl
  exact htexts "items" _ hlast ⟨_, rfl, hlists⟩

end Schema

end PromptPress
