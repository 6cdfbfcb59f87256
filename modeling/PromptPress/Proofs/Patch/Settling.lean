import Mathlib.Tactic.Common
import PromptPress.Patch
import PromptPress.Proofs.Outcome
import PromptPress.Proofs.Text.Decoding
import PromptPress.Proofs.Text.Pieces

/-!
# Styles that settle in a theme

A project takes a style over by adding its content to the end of the theme. The styles that are new to a
theme are those of a list that count (`distinctStyles`) and that the theme does not hold
(`newStyles_eq_filter`). Once they have been taken over, the theme holds every style that counts, with
one exception: a theme is read with a line feed for each of its line breaks, so it never holds a style
with a carriage return inside, and such a style is new each time (`newToTheme_appended`). The main law is
that styles settle unless there is one of these among them (`settles_iff`).
-/

namespace PromptPress.PackagePatch

open Text Digest

variable {text : String} {style : StyleEntry} {styles new : List StyleEntry}

/-! ### New styles -/

/-- The styles of a list that count: those that are neither blank nor the same as an earlier one. -/
def distinctStyles (styles : List StyleEntry) : List StyleEntry :=
  newStyles none [] styles

/-- What a theme holds does not decide which styles count. -/
theorem newStyles_eq_filter (theme : Option String) (seen : List (String × String))
    (styles : List StyleEntry) :
    newStyles theme seen styles = (newStyles none seen styles).filter (!themeHolds theme ·) := by
  induction styles generalizing seen with
  | nil => rfl
  | cons style rest ih =>
    rw [newStyles, newStyles]
    by_cases hskip : ((trim style.content.toList).isEmpty || seen.contains (styleKey style)) = true
    · rw [if_pos hskip, if_pos hskip, ih]
    · have hnone : themeHolds none style = false := rfl
      rw [if_neg hskip, if_neg hskip, hnone, if_neg Bool.false_ne_true, List.filter_cons, ih]
      cases themeHolds theme style <;> rfl

theorem themeHolds_iff :
    themeHolds (some text) style = true ↔ trim style.content.toList <:+: text.toList :=
  occursIn_iff

/-! ### Taking styles over -/

/-- The styles that are new to a project, given the file of its theme. -/
def newToTheme (file : Except ReadFault (List UInt8)) (styles : List StyleEntry) :
    Except HostError (List StyleEntry) :=
  (hostText file).map fun theme => newStyles theme [] styles

/-- The bytes of a theme with the contents of styles added to its end. -/
def appended (bytes : List UInt8) (styles : List StyleEntry) : List UInt8 :=
  bytes ++ styles.flatMap fun style => utf8 style.content

/-- The styles of a patch are those that are new to the theme of the project. -/
theorem newToTheme_of_create [Interpreter] {ν : Type} [Ord ν] {reader : Npm.RangeReader ν}
    {read : FileReader} {manifestPath themePath : Option String} {packages : List NpmPackage}
    {path : String} {patch : PackagePatch} (hpath : given themePath = some path)
    (h : create reader read manifestPath themePath packages styles = .ok patch) :
    newToTheme (read path) styles = .ok patch.styles := by
  simp only [create, hpath, Option.map_some, Option.getD_some, Outcome.bind_eq_ok_iff] at h
  obtain ⟨manifest, -, ranges, -, theme, htheme, hpatch⟩ := h
  obtain rfl := Except.ok.inj hpatch
  rw [newToTheme, htheme]
  rfl

theorem newToTheme_utf8 (text : String) (styles : List StyleEntry) :
    newToTheme (.ok (utf8 text)) styles =
      .ok (newStyles (some (String.ofList (unifyBreaks text.toList))) [] styles) := by
  rw [newToTheme, hostText, decodeFile_utf8_eq]
  rfl

theorem appended_utf8 (text : String) (styles : List StyleEntry) :
    appended (utf8 text) styles =
      utf8 (String.ofList (text.toList ++ styles.flatMap (·.content.toList))) := by
  have hcontents : styles.flatMap (fun style => utf8 style.content) =
      utf8 (String.ofList (styles.flatMap (·.content.toList))) := by
    induction styles with
    | nil => rw [List.flatMap_nil, List.flatMap_nil, utf8_ofList, List.flatMap_nil]
    | cons style rest ih =>
      rw [List.flatMap_cons, List.flatMap_cons, String.ofList_append, utf8_append, ih,
        String.ofList_toList]
  rw [appended, hcontents, String.ofList_append, utf8_append, String.ofList_toList]

/-- What a theme is read as holds a text without carriage returns that stands somewhere in it, if the
text does not begin with a blank. -/
theorem infix_unifyBreaks {needle s : List Char} (hreturn : '\r' ∉ needle)
    (hblank : ∀ c ∈ needle.head?, isBlank c = false) (h : needle <:+: s) :
    needle <:+: unifyBreaks s := by
  obtain ⟨before, after, rfl⟩ := h
  by_cases hnil : needle = []
  · exact hnil ▸ List.nil_infix
  have hhead : (needle ++ after).head? ≠ some '\n' := by
    intro hhead
    rw [List.head?_append_of_ne_nil _ hnil] at hhead
    exact absurd (hblank '\n' hhead) (by decide)
  have hprefix : needle <+: unifyBreaks (needle ++ after) := by
    have h := unifyBreaks_prefix_append needle after
    rwa [unifyBreaks_of_notMem hreturn] at h
  rw [List.append_assoc, unifyBreaks_append hhead]
  exact hprefix.isInfix.trans (List.suffix_append _ _).isInfix

/-- The theme after the new styles have been taken over, as it is read. -/
def settledTheme (text : String) (styles : List StyleEntry) : String :=
  String.ofList (unifyBreaks (text.toList ++
    (newStyles (some (String.ofList (unifyBreaks text.toList))) [] styles).flatMap (·.content.toList)))

/-- The theme holds a style that counts after the new styles have been taken over, unless there is a
carriage return inside. -/
theorem themeHolds_settledTheme_iff (text : String) (hstyle : style ∈ distinctStyles styles) :
    themeHolds (some (settledTheme text styles)) style = true ↔
      '\r' ∉ trim style.content.toList := by
  rw [themeHolds_iff, settledTheme, String.toList_ofList]
  refine ⟨fun hheld hreturn => return_notMem_unifyBreaks _ (hheld.subset hreturn), fun hreturn => ?_⟩
  by_cases hheld : themeHolds (some (String.ofList (unifyBreaks text.toList))) style = true
  -- the theme held the style before, and still does
  · rw [themeHolds_iff, String.toList_ofList] at hheld
    exact hheld.trans (unifyBreaks_prefix_append _ _).isInfix
  -- the style was new, so its content stands in what was added
  · have hnew : style ∈ newStyles (some (String.ofList (unifyBreaks text.toList))) [] styles := by
      rw [newStyles_eq_filter, List.mem_filter]
      exact ⟨hstyle, by simpa using hheld⟩
    refine infix_unifyBreaks hreturn (fun c hc => not_of_mem_ends_trimBy (.inl hc)) ?_
    have hadded : style.content.toList <:+:
        (newStyles (some (String.ofList (unifyBreaks text.toList))) [] styles).flatMap
          (·.content.toList) :=
      List.infix_of_mem_flatten (List.mem_map_of_mem hnew)
    exact (trimBy_isInfix ..).trans (hadded.trans (List.suffix_append ..).isInfix)

/-- **What is new after the new styles have been taken over**: the styles that count with a carriage
return inside. -/
theorem newToTheme_appended (h : newToTheme (.ok (utf8 text)) styles = .ok new) :
    newToTheme (.ok (appended (utf8 text) new)) styles =
      .ok ((distinctStyles styles).filter fun style => '\r' ∈ trim style.content.toList) := by
  rw [newToTheme_utf8] at h
  obtain rfl := Except.ok.inj h
  rw [appended_utf8, newToTheme_utf8, String.toList_ofList, ← settledTheme, newStyles_eq_filter]
  refine congrArg Except.ok (List.filter_congr fun style hstyle => ?_)
  have hiff := themeHolds_settledTheme_iff text hstyle
  rw [Bool.eq_iff_iff, Bool.not_eq_true', Bool.eq_false_iff, ne_eq, hiff, not_not, decide_eq_true_iff]

/-- The styles of a list settle in a theme: once the new ones have been taken over, none is new. -/
def Settles (text : String) (styles : List StyleEntry) : Prop :=
  ∃ new, newToTheme (.ok (utf8 text)) styles = .ok new ∧
    newToTheme (.ok (appended (utf8 text) new)) styles = .ok []

/-- **Styles settle** exactly if no style that counts has a carriage return inside. -/
theorem settles_iff (text : String) (styles : List StyleEntry) :
    Settles text styles ↔ ∀ style ∈ distinctStyles styles, '\r' ∉ trim style.content.toList := by
  have hempty : (distinctStyles styles).filter (fun style => '\r' ∈ trim style.content.toList) = [] ↔
      ∀ style ∈ distinctStyles styles, '\r' ∉ trim style.content.toList := by
    simp [List.filter_eq_nil_iff]
  rw [← hempty]
  constructor
  · rintro ⟨new, hnew, hsettled⟩
    exact Except.ok.inj ((newToTheme_appended hnew).symm.trans hsettled)
  · intro hnone
    have hnew := newToTheme_utf8 text styles
    exact ⟨_, hnew, (newToTheme_appended hnew).trans (congrArg Except.ok hnone)⟩

/-- A style with a carriage return inside is new again after it has been taken over. -/
theorem not_settles_return : ¬ Settles "" [⟨"card.css", ".card \x7b\r\n\x7d"⟩] := by
  rintro ⟨new, hnew, hsettled⟩
  have hagain := Except.ok.inj ((newToTheme_appended hnew).symm.trans hsettled)
  exact absurd hagain (by decide +kernel)

end PromptPress.PackagePatch
