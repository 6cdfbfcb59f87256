import PromptPress.Prompt.PackageLine
import PromptPress.Proofs.Text.Pieces

/-!
# Lines that name a package

A line names a package and a version with a colon, with blanks or with an at sign between them, and may
have list marks in front, a `v` before the version, and one comma or semicolon behind it. What is read from
such a line is the name and the version, whichever way they are written (`ofLine?_text`). The name itself
may begin with an at sign and hold others: the last one in the line counts, and a version has none.
-/

namespace PromptPress.PackageLine

open Text

/-! ### Writing -/

/-- A name that a line can give. -/
def IsName (name : List Char) : Prop :=
  name ≠ [] ∧ (∀ c ∈ name, isBlank c = false ∧ c ≠ ':') ∧ (∀ c ∈ name.head?, isListMark c = false) ∧
    ∀ c ∈ name.getLast?, c ≠ ',' ∧ c ≠ ';'

/-- A version that a line can give. -/
def IsVersion (version : List Char) : Prop :=
  version ≠ [] ∧ (∀ c ∈ version, isBlank c = false ∧ c ≠ ':' ∧ c ≠ '@') ∧
    (∀ c ∈ version.head?, c ≠ 'v') ∧ ∀ c ∈ version.getLast?, c ≠ ',' ∧ c ≠ ';'

-- the instances name the search through the list, as one through all characters may be at hand
instance (name : List Char) : Decidable (IsName name) :=
  have : Decidable (∀ c ∈ name, isBlank c = false ∧ c ≠ ':') := List.decidableBAll _ name
  have : Decidable (∀ c ∈ name.head?, isListMark c = false) := Option.decidableForallMem _
  have : Decidable (∀ c ∈ name.getLast?, c ≠ ',' ∧ c ≠ ';') := Option.decidableForallMem _
  inferInstanceAs (Decidable (_ ∧ _ ∧ _ ∧ _))

instance (version : List Char) : Decidable (IsVersion version) :=
  have : Decidable (∀ c ∈ version, isBlank c = false ∧ c ≠ ':' ∧ c ≠ '@') := List.decidableBAll _ version
  have : Decidable (∀ c ∈ version.head?, c ≠ 'v') := Option.decidableForallMem _
  have : Decidable (∀ c ∈ version.getLast?, c ≠ ',' ∧ c ≠ ';') := Option.decidableForallMem _
  inferInstanceAs (Decidable (_ ∧ _ ∧ _ ∧ _))

/-- Nothing but blanks. -/
abbrev Blanks := { s : List Char // ∀ c ∈ s, isBlank c = true }

/-- What stands between a name and a version. -/
inductive Separator where
  /-- A colon, with blanks around it or without. -/
  | colon (before after : Blanks)
  | gap (blanks : Blanks) (ne_nil : blanks.1 ≠ [])
  | sign

/-- The text of a separator. -/
def Separator.text : Separator → List Char
  | colon before after => before.1 ++ ':' :: after.1
  | gap blanks _ => blanks.1
  | sign => ['@']

/-- A line that names a package and a version. -/
structure Line where
  /-- List marks and blanks before the name. -/
  front : { s : List Char // ∀ c ∈ s, isListMark c = true }
  name : { s // IsName s }
  separator : Separator
  /-- Whether there is a `v` before the version. -/
  marked : Bool
  version : { s // IsVersion s }
  /-- The comma or semicolon behind the version, if there is one. -/
  stop : Option { c : Char // c = ',' ∨ c = ';' }
  back : Blanks

namespace Line

/-- The version with the marks around it. -/
def markedVersion (line : Line) : List Char :=
  (if line.marked then ['v'] else []) ++ line.version.1 ++ (line.stop.map (·.1)).toList

/-- The text of a line. -/
def text (line : Line) : List Char :=
  line.front.1 ++ (line.name.1 ++ line.separator.text ++ line.markedVersion) ++ line.back.1

end Line

variable {s t name version : List Char}

/-! ### Blanks -/

theorem isListMark_of_isBlank {c : Char} (h : isBlank c = true) : isListMark c = true := by
  simp [isListMark, h]

theorem isBlank_of_not_isListMark {c : Char} (h : isListMark c = false) : isBlank c = false := by
  by_contra hblank
  rw [isListMark_of_isBlank (by simpa using hblank)] at h
  cases h

theorem Blanks.notMem (blanks : Blanks) {c : Char} (h : isBlank c = false) : c ∉ blanks.1 := by
  intro hc
  rw [blanks.2 c hc] at h
  cases h

/-- A text is solid if it is not empty and holds no blank. -/
def IsSolid (s : List Char) : Prop :=
  s ≠ [] ∧ ∀ c ∈ s, isBlank c = false

theorem IsName.isSolid (h : IsName name) : IsSolid name :=
  ⟨h.1, fun c hc => (h.2.1 c hc).1⟩

theorem IsSolid.trim_eq (h : IsSolid s) : trim s = s :=
  trim_eq_self_iff.mpr ⟨fun c hc => h.2 c (List.mem_of_mem_head? hc),
    fun c hc => h.2 c (List.mem_of_mem_getLast? hc)⟩

theorem IsSolid.trim_append (h : IsSolid s) (before after : Blanks) :
    trim (before.1 ++ s ++ after.1) = s :=
  trim_append_of_stops before.2 after.2 h.trim_eq h.1

theorem words_append_cons {c : Char} (hc : isBlank c = true) (s t : List Char) :
    words isBlank (s ++ c :: t) = words isBlank s ++ words isBlank t := by
  rw [words, cut_append_cons hc, List.filter_append]
  rfl

theorem IsSolid.words_eq (h : IsSolid s) : words isBlank s = [s] := by
  rw [words, cut_of_forall_not h.2]
  simp [h.1]

/-- Blanks before a word are passed over. -/
theorem IsSolid.words_append (h : IsSolid s) (blanks : Blanks) : words isBlank (blanks.1 ++ s) = [s] := by
  have hhead : ∀ c ∈ s.head?, isBlank c = false := fun c hc => h.2 c (List.mem_of_mem_head? hc)
  rw [words, ← filter_cut_dropWhile rfl, dropWhile_append_of_stops blanks.2 hhead]
  exact h.words_eq

/-! ### Runs of blanks -/

theorem squeeze_cons {c : Char} (hc : isBlank c = false) (s : List Char) :
    squeeze (c :: s) = c :: squeeze s := by
  cases s with
  | nil => rfl
  | cons d s => rw [squeeze, if_neg (by simp [hc])]

theorem squeeze_append (hs : ∀ c ∈ s, isBlank c = false) (t : List Char) :
    squeeze (s ++ t) = s ++ squeeze t := by
  induction s with
  | nil => rfl
  | cons c s ih =>
    obtain ⟨hc, hs⟩ := List.forall_mem_cons.mp hs
    rw [List.cons_append, squeeze_cons hc, ih hs, List.cons_append]

theorem squeezeRun_cons (c : Char) (s : List Char) :
    squeeze.squeezeRun (c :: s) = if isBlank c then squeeze.squeezeRun s else c :: squeeze s := by
  cases s <;> rfl

theorem squeezeRun_append {blanks : List Char} (hblanks : ∀ c ∈ blanks, isBlank c = true) {c : Char}
    (hc : isBlank c = false) (t : List Char) :
    squeeze.squeezeRun (blanks ++ c :: t) = c :: squeeze t := by
  induction blanks with
  | nil => rw [List.nil_append, squeezeRun_cons, if_neg (by simp [hc])]
  | cons b blanks ih =>
    obtain ⟨hb, hblanks⟩ := List.forall_mem_cons.mp hblanks
    rw [List.cons_append, squeezeRun_cons, if_pos hb, ih hblanks]

/-- Blanks before a word become blanks, and do not vanish. -/
theorem exists_squeeze_blanks (blanks : Blanks) {c : Char} (hc : isBlank c = false) (t : List Char) :
    ∃ kept : Blanks, (blanks.1 ≠ [] → kept.1 ≠ []) ∧
      squeeze (blanks.1 ++ c :: t) = kept.1 ++ c :: squeeze t := by
  obtain ⟨blanks, hblanks⟩ := blanks
  match blanks with
  | [] => exact ⟨⟨[], nofun⟩, id, squeeze_cons hc t⟩
  | [b] =>
    refine ⟨⟨[b], hblanks⟩, id, ?_⟩
    rw [List.singleton_append, squeeze, if_neg (by simp [hc]), squeeze_cons hc, List.singleton_append]
  | b :: b' :: more =>
    have hmore : ∀ c ∈ more, isBlank c = true := fun c hc => hblanks c (by simp [hc])
    refine ⟨⟨[' '], List.forall_mem_singleton.mpr (by decide)⟩, fun _ => List.cons_ne_nil _ _, ?_⟩
    rw [List.cons_append, List.cons_append, squeeze,
      if_pos (by simp [hblanks b (by simp), hblanks b' (by simp)]), squeezeRun_append hmore hc,
      List.singleton_append]

/-- **Separators stay separators** when runs of blanks are squeezed. -/
theorem exists_squeeze_separator (separator : Separator) (hname : IsSolid name)
    (hversion : IsSolid version) :
    ∃ kept : Separator, squeeze (name ++ separator.text ++ version) = name ++ kept.text ++ version := by
  have hall : squeeze version = version := by simpa [squeeze] using squeeze_append hversion.2 []
  obtain ⟨c, cs, rfl⟩ := List.exists_cons_of_ne_nil hversion.1
  obtain ⟨hc, hcs⟩ := List.forall_mem_cons.mp hversion.2
  have hrest : squeeze cs = cs := by simpa [squeeze] using squeeze_append hcs []
  rw [List.append_assoc, squeeze_append hname.2]
  cases separator with
  | colon before after =>
    obtain ⟨before', -, hbefore⟩ := exists_squeeze_blanks before (c := ':') (by decide) (after.1 ++ c :: cs)
    obtain ⟨after', -, hafter⟩ := exists_squeeze_blanks after hc cs
    refine ⟨.colon before' after', ?_⟩
    simp only [Separator.text, List.append_assoc, List.cons_append, hbefore, hafter, hrest]
  | gap blanks hne =>
    obtain ⟨kept, hkept, hblanks⟩ := exists_squeeze_blanks blanks hc cs
    refine ⟨.gap kept (hkept hne), ?_⟩
    simp only [Separator.text, List.append_assoc, hblanks, hrest]
  | sign =>
    refine ⟨.sign, ?_⟩
    rw [Separator.text, List.singleton_append, squeeze_cons (by decide), hall, List.append_assoc,
      List.singleton_append]

/-! ### The parts of a line -/

/-- What may follow a separator: a solid text without colons and at signs. -/
def IsTail (s : List Char) : Prop :=
  IsSolid s ∧ ':' ∉ s ∧ '@' ∉ s

theorem IsName.colon_notMem (h : IsName name) : ':' ∉ name :=
  fun hc => (h.2.1 _ hc).2 rfl

/-- **The three notations agree.** -/
theorem nameAndVersion_separator (hname : IsName name) (htail : IsTail t) (separator : Separator) :
    nameAndVersion (name ++ separator.text ++ t) = (name, some t) := by
  obtain ⟨hsolid, hcolon, hsign⟩ := htail
  have hnone {s : List Char} (h : ':' ∉ s) : splitAtChar? (· == ':') s = none :=
    splitAtChar?_eq_none fun c hc => by simpa using fun e : c = ':' => h (e ▸ hc)
  cases separator with
  | colon before after =>
    have hbefore : ':' ∉ name ++ before.1 :=
      List.not_mem_append hname.colon_notMem (before.notMem (by decide))
    have hsplit : splitAtChar? (· == ':') (name ++ before.1 ++ ':' :: (after.1 ++ t)) =
        some (name ++ before.1, after.1 ++ t) :=
      splitAtChar?_append (fun c hc => by simpa using fun e : c = ':' => hbefore (e ▸ hc)) (by simp) _
    have hleft := hname.isSolid.trim_append ⟨[], nofun⟩ before
    have hright := hsolid.trim_append after ⟨[], nofun⟩
    rw [List.nil_append] at hleft
    rw [List.append_nil] at hright
    have htext : name ++ (before.1 ++ ':' :: after.1) ++ t = name ++ before.1 ++ ':' :: (after.1 ++ t) := by
      simp
    rw [Separator.text, htext, nameAndVersion, hsplit]
    simp only [hleft, hright]
  | gap blanks hne =>
    have hcolons : ':' ∉ name ++ blanks.1 ++ t :=
      List.not_mem_append (List.not_mem_append hname.colon_notMem (blanks.notMem (by decide))) hcolon
    have hwords : words isBlank (name ++ blanks.1 ++ t) = [name, t] := by
      obtain ⟨blanks, hblanks⟩ := blanks
      obtain ⟨b, more, rfl⟩ := List.exists_cons_of_ne_nil hne
      obtain ⟨hb, hmore⟩ := List.forall_mem_cons.mp hblanks
      rw [List.append_assoc, List.cons_append, words_append_cons hb, hname.isSolid.words_eq,
        hsolid.words_append ⟨more, hmore⟩, List.singleton_append]
    rw [Separator.text, nameAndVersion, hnone hcolons]
    simp only [hwords, join]
  | sign =>
    have hcolons : ':' ∉ name ++ ['@'] ++ t :=
      List.not_mem_append (List.not_mem_append hname.colon_notMem (by decide)) hcolon
    have hwhole : IsSolid (name ++ ['@'] ++ t) := by
      refine ⟨by simp, fun c hc => ?_⟩
      rcases List.mem_append.mp hc with hc | hc
      · rcases List.mem_append.mp hc with hc | hc
        · exact (hname.2.1 c hc).1
        · rw [List.mem_singleton.mp hc]
          decide
      · exact hsolid.2 c hc
    -- the version holds no at sign, so the last one is the one in front of it
    have hsplit : splitAtLast? (· == '@') (name ++ ['@'] ++ t) = some (name, t) := by
      rw [List.append_assoc, List.singleton_append]
      exact splitAtLast?_append (by simp) (fun c hc => by simpa using fun e : c = '@' => hsign (e ▸ hc)) _
    obtain ⟨c, cs, rfl⟩ := List.exists_cons_of_ne_nil hname.1
    rw [Separator.text, nameAndVersion, hnone hcolons]
    simp only [hwhole.words_eq, hsplit, hname.isSolid.trim_eq, hsolid.trim_eq]

theorem dropMark_concat {c : Char} (hc : c = ',' ∨ c = ';') (s : List Char) : dropMark (s ++ [c]) = s := by
  rcases hc with rfl | rfl <;> simp [dropMark]

theorem dropMark_eq_self (h : ∀ c ∈ s.getLast?, c ≠ ',' ∧ c ≠ ';') : dropMark s = s := by
  rcases List.eq_nil_or_concat s with rfl | ⟨front, c, rfl⟩
  · rfl
  · obtain ⟨hcomma, hsemicolon⟩ := h c (by simp)
    simp [dropMark, hcomma, hsemicolon]

/-- A `v` in front of a version and a comma or semicolon behind it are taken off. -/
theorem cleanVersion_markedVersion (line : Line) : cleanVersion line.markedVersion = line.version.1 := by
  obtain ⟨hne, -, hhead, hlast⟩ := line.version.2
  have hv : dropV line.markedVersion = line.version.1 ++ (line.stop.map (·.1)).toList := by
    rw [Line.markedVersion]
    cases line.marked with
    | true => rfl
    | false =>
      obtain ⟨c, cs, hversion⟩ := List.exists_cons_of_ne_nil hne
      have hc : c ≠ 'v' := hhead c (by simp [hversion])
      simp [hversion, dropV, hc]
  rw [cleanVersion, hv]
  cases line.stop with
  | none => rw [Option.map_none, Option.toList_none, List.append_nil, dropMark_eq_self hlast]
  | some stop => exact dropMark_concat stop.2 line.version.1

theorem isTail_markedVersion (line : Line) : IsTail line.markedVersion := by
  obtain ⟨hne, hversion, -, -⟩ := line.version.2
  have hall : ∀ c ∈ line.markedVersion, isBlank c = false ∧ c ≠ ':' ∧ c ≠ '@' := by
    intro c hc
    rcases List.mem_append.mp hc with hc | hc
    · rcases List.mem_append.mp hc with hc | hc
      · obtain rfl : c = 'v' := by
          split at hc
          · exact List.mem_singleton.mp hc
          · cases hc
        decide
      · exact hversion c hc
    · obtain ⟨stop, -, rfl⟩ := Option.map_eq_some_iff.mp (Option.mem_toList.mp hc)
      rcases stop.2 with h | h <;> rw [h] <;> decide
  refine ⟨⟨by simp [Line.markedVersion, hne], fun c hc => (hall c hc).1⟩, fun hc => ?_, fun hc => ?_⟩
  · exact (hall _ hc).2.1 rfl
  · exact (hall _ hc).2.2 rfl

/-! ### Whole lines -/

/-- List marks in front of a text and blanks behind it are dropped. -/
theorem dropWhile_trim {front core : List Char} (hfront : ∀ c ∈ front, isListMark c = true)
    (hne : core ≠ []) (hhead : ∀ c ∈ core.head?, isListMark c = false)
    (hlast : ∀ c ∈ core.getLast?, isBlank c = false) (back : Blanks) :
    (trim (front ++ core ++ back.1)).dropWhile isListMark = core := by
  have hblank : ∀ c ∈ (core ++ back.1).head?, isBlank c = false := by
    rw [List.head?_append_of_ne_nil _ hne]
    exact fun c hc => isBlank_of_not_isListMark (hhead c hc)
  have hlast' : ∀ c ∈ (front.dropWhile isBlank ++ core).getLast?, isBlank c = false := by
    rwa [List.getLast?_append_of_ne_nil _ hne]
  -- the blanks that the line begins with are among the marks
  have hmarks : ∀ c ∈ front.dropWhile isBlank, isListMark c = true :=
    fun c hc => hfront c ((List.dropWhile_suffix _).subset hc)
  rw [trim, trimBy, List.append_assoc, dropWhile_append_of_head hblank, ← List.append_assoc,
    dropTail_append_of_stops back.2 hlast', dropWhile_append_of_stops hmarks hhead]

/-- List marks in front and blanks behind are dropped, and runs of blanks squeezed. -/
theorem exists_subject_text (line : Line) :
    ∃ separator : Separator,
      subject line.text = line.name.1 ++ separator.text ++ line.markedVersion := by
  obtain ⟨hsolid, -, -⟩ := isTail_markedVersion line
  have hname := line.name.2
  have hlast (separator : Separator) :
      ∀ c ∈ (line.name.1 ++ separator.text ++ line.markedVersion).getLast?, isBlank c = false := by
    rw [List.getLast?_append_of_ne_nil _ hsolid.1]
    exact fun c hc => hsolid.2 c (List.mem_of_mem_getLast? hc)
  have hhead (separator : Separator) :
      ∀ c ∈ (line.name.1 ++ separator.text ++ line.markedVersion).head?, isListMark c = false := by
    rw [List.append_assoc, List.head?_append_of_ne_nil _ hname.1]
    exact hname.2.2.1
  obtain ⟨kept, hkept⟩ := exists_squeeze_separator line.separator hname.isSolid hsolid
  have htrim : trim (line.name.1 ++ kept.text ++ line.markedVersion) =
      line.name.1 ++ kept.text ++ line.markedVersion :=
    trim_eq_self_iff.mpr ⟨fun c hc => isBlank_of_not_isListMark (hhead kept c hc), hlast kept⟩
  refine ⟨kept, ?_⟩
  rw [subject, Line.text, dropWhile_trim line.front.2 (by simp [hname.1]) (hhead line.separator)
    (hlast line.separator), hkept, htrim]

/-- **A line names what is written in it**, in each of the three notations: its name, and its version
without the marks around it. -/
theorem ofLine?_text (line : Line) :
    NpmPackage.ofLine? line.text =
      some { name := String.ofList line.name.1, version := some (String.ofList line.version.1) } := by
  obtain ⟨separator, hsubject⟩ := exists_subject_text line
  have hparts := nameAndVersion_separator line.name.2 (isTail_markedVersion line) separator
  have hname : dropMark line.name.1 = line.name.1 := dropMark_eq_self line.name.2.2.2.2
  have hversion : given (some (String.ofList line.version.1)) = some (String.ofList line.version.1) := by
    simpa [given] using line.version.2.1
  rw [NpmPackage.ofLine?, hsubject, hparts]
  obtain ⟨c, cs, hcons⟩ := List.exists_cons_of_ne_nil line.name.2.1
  rw [hcons] at hname
  simp only [hcons, hname, Option.map_some, cleanVersion_markedVersion, hversion]

/-- A scoped name and a version in marks, with a separator between them. -/
def Line.scoped (separator : Separator) : Line where
  front := ⟨" 1. ".toList, List.all_eq_true.mp (by decide)⟩
  name := ⟨"@scope/pkg".toList, by decide +kernel⟩
  separator
  marked := true
  version := ⟨"^1.2.3".toList, by decide +kernel⟩
  stop := some ⟨',', .inl rfl⟩
  back := ⟨"  ".toList, List.all_eq_true.mp (by decide)⟩

/-- The line in each of the three notations. -/
theorem ofLine?_text_scoped :
    let blank : Blanks := ⟨[' '], List.all_eq_true.mp (by decide)⟩
    let colon : Separator := .colon ⟨[], nofun⟩ blank
    let gap : Separator := .gap blank (List.cons_ne_nil _ _)
    let read : Option NpmPackage := some { name := "@scope/pkg", version := some "^1.2.3" }
    (Line.scoped colon).text = " 1. @scope/pkg: v^1.2.3,  ".toList ∧
      NpmPackage.ofLine? (Line.scoped colon).text = read ∧
      NpmPackage.ofLine? (Line.scoped gap).text = read ∧
      NpmPackage.ofLine? (Line.scoped .sign).text = read := by
  intro blank colon gap read
  exact ⟨by decide, ofLine?_text _, ofLine?_text _, ofLine?_text _⟩

end PromptPress.PackageLine
