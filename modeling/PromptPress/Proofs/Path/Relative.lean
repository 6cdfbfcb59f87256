import PromptPress.Path.Relative
import PromptPress.Proofs.Outcome
import PromptPress.Proofs.Text.Pieces

/-!
# Plain paths

A path is *plain* if it stands for itself: it holds only characters of file names, and every segment
between its slashes is the name of a file or a folder. Such a path goes through normalization, joining
and resolution unchanged. A name that was made safe is plain (`isPlain_of_sanitizeFilename`), so the
only way for a path that is not plain into a file tree is a name that nothing made safe.
-/

namespace PromptPress.Path

open PromptPress.Text

/-- A segment that names a file or a folder. -/
structure IsProper (segment : List Char) : Prop where
  ne_nil : segment ≠ []
  ne_here : segment ≠ ['.']
  ne_parent : segment ≠ parent

/-- A segment that names a file or a folder and holds only characters of file names. -/
structure IsName (segment : List Char) : Prop extends IsProper segment where
  isFileChar : ∀ c ∈ segment, isFileChar c = true
  slash_notMem : '/' ∉ segment

/-- A path that stands for itself. -/
structure IsPlain (path : String) : Prop where
  isFileChar : ∀ c ∈ path.toList, isFileChar c = true
  isProper : ∀ segment ∈ segments path.toList, IsProper segment

instance (segment : List Char) : Decidable (IsProper segment) :=
  decidable_of_iff (segment ≠ [] ∧ segment ≠ ['.'] ∧ segment ≠ parent)
    ⟨fun ⟨h₁, h₂, h₃⟩ => ⟨h₁, h₂, h₃⟩, fun ⟨h₁, h₂, h₃⟩ => ⟨h₁, h₂, h₃⟩⟩

instance (path : String) : Decidable (IsPlain path) :=
  decidable_of_iff (path.toList.all isFileChar = true ∧
      (segments path.toList).all (fun segment => IsProper segment) = true)
    ⟨fun ⟨h₁, h₂⟩ => ⟨List.all_eq_true.mp h₁, by simpa using h₂⟩,
      fun ⟨h₁, h₂⟩ => ⟨List.all_eq_true.mpr h₁, by simpa using h₂⟩⟩

theorem ne_backslash_of_isFileChar {c : Char} (h : isFileChar c = true) : c ≠ '\\' := by
  rintro rfl
  exact absurd h (by decide)

theorem ne_nul_of_isFileChar {c : Char} (h : isFileChar c = true) : c ≠ '\x00' := by
  rintro rfl
  exact absurd h (by decide)

/-! ### Segments -/

theorem slash_notMem_of_mem_segments {s segment : List Char} (h : segment ∈ segments s) :
    '/' ∉ segment := fun hc => by simpa using not_of_mem_cut h _ hc

theorem segments_append_slash (s t : List Char) :
    segments (s ++ '/' :: t) = segments s ++ segments t :=
  cut_append_cons rfl s t

theorem segments_of_slash_notMem {s : List Char} (h : '/' ∉ s) : segments s = [s] :=
  cut_of_forall_not fun c hc => by simpa using fun e : c = '/' => h (e ▸ hc)

theorem segments_join {pieces : List (List Char)} (hne : pieces ≠ [])
    (h : ∀ piece ∈ pieces, '/' ∉ piece) : segments (join ['/'] pieces) = pieces :=
  cut_join hne h

theorem join_segments (s : List Char) : join ['/'] (segments s) = s :=
  join_cut '/' s

theorem segments_ne_nil (s : List Char) : segments s ≠ [] :=
  cut_ne_nil _ s

/-- A path is plain exactly if its segments are names. -/
theorem isPlain_iff {path : String} : IsPlain path ↔ ∀ s ∈ segments path.toList, IsName s := by
  constructor
  · intro h s hs
    exact { toIsProper := h.isProper s hs
            isFileChar := fun c hc => h.isFileChar c (mem_of_mem_cut hs c hc)
            slash_notMem := slash_notMem_of_mem_segments hs }
  · intro h
    refine ⟨fun c hc => ?_, fun s hs => (h s hs).toIsProper⟩
    by_cases hslash : c = '/'
    · rw [hslash]
      decide
    · obtain ⟨s, hs, hcs⟩ := exists_mem_cut (p := fun c => c == '/') hc (by simpa using hslash)
      exact (h s hs).isFileChar c hcs

/-- Names that are joined with slashes make a path that is plain and has them as its segments. -/
theorem segments_ofList_join {pieces : List (List Char)} (hne : pieces ≠ [])
    (h : ∀ piece ∈ pieces, '/' ∉ piece) :
    segments (String.ofList (join ['/'] pieces)).toList = pieces := by
  rw [String.toList_ofList, segments_join hne h]

/-! ### Walking along segments -/

/-- What is kept after one more segment. -/
def push (rooted : Bool) (kept : List (List Char)) (segment : List Char) : List (List Char) :=
  if segment = [] ∨ segment = ['.'] then kept
  else if segment = parent then
    match kept with
    | [] => if rooted then [] else [parent]
    | last :: before => if last = parent then parent :: kept else before
  else segment :: kept

/-- The walk pushes one segment after another. -/
theorem walk_eq_foldl (rooted : Bool) (kept pieces : List (List Char)) :
    walk rooted kept pieces = pieces.foldl (push rooted) kept := by
  induction pieces generalizing kept with
  | nil => cases kept <;> rfl
  | cons s pieces ih =>
    rw [List.foldl_cons, ← ih]
    unfold push
    cases kept <;> simp only [walk, beq_iff_eq, Bool.or_eq_true] <;> repeat' split
    all_goals rfl

/-- Below a `..` only a `..` is kept. -/
def IsStack (kept : List (List Char)) : Prop :=
  kept.Pairwise fun segment below => segment = parent → below = parent

theorem IsStack.push {kept : List (List Char)} (h : IsStack kept) (rooted : Bool)
    (segment : List Char) : IsStack (push rooted kept segment) := by
  unfold Path.push
  split
  · exact h
  · split
    · cases kept with
      | nil => cases rooted <;> simp [IsStack]
      | cons last before =>
        obtain ⟨hlast, hbefore⟩ := List.pairwise_cons.mp h
        simp only
        split
        · next heq =>
          refine List.pairwise_cons.mpr ⟨fun below hbelow _ => ?_, h⟩
          rcases List.mem_cons.mp hbelow with rfl | hbelow
          · exact heq
          · exact hlast below hbelow heq
        · exact hbefore
    · next hparent => exact List.pairwise_cons.mpr ⟨fun _ _ heq => absurd heq hparent, h⟩

theorem mem_push {rooted : Bool} {kept : List (List Char)} {segment s : List Char}
    (h : s ∈ push rooted kept segment) : s ∈ kept ∨ s = parent ∨ IsProper s ∧ s = segment := by
  unfold push at h
  split at h
  · exact .inl h
  · next hskip =>
    split at h
    · cases kept with
      | nil => cases rooted <;> simp_all
      | cons last before =>
        simp only at h
        split at h
        · rcases List.mem_cons.mp h with h | h
          · exact .inr (.inl h)
          · exact .inl h
        · exact .inl (List.mem_cons_of_mem _ h)
    · next hparent =>
      rcases List.mem_cons.mp h with rfl | h
      · rw [not_or] at hskip
        exact .inr (.inr ⟨⟨hskip.1, hskip.2, hparent⟩, rfl⟩)
      · exact .inl h

theorem IsStack.walk {kept : List (List Char)} (h : IsStack kept) (rooted : Bool)
    (pieces : List (List Char)) : IsStack (walk rooted kept pieces) := by
  rw [walk_eq_foldl]
  induction pieces generalizing kept with
  | nil => exact h
  | cons s pieces ih => exact ih (h.push rooted s)

theorem mem_walk {rooted : Bool} {kept pieces : List (List Char)} {s : List Char}
    (h : s ∈ walk rooted kept pieces) : s ∈ kept ∨ s = parent ∨ IsProper s ∧ s ∈ pieces := by
  rw [walk_eq_foldl] at h
  induction pieces generalizing kept with
  | nil => exact .inl h
  | cons t pieces ih =>
    rcases ih h with h | h | ⟨hproper, h⟩
    · rcases mem_push h with h | h | ⟨hproper, rfl⟩
      · exact .inl h
      · exact .inr (.inl h)
      · exact .inr (.inr ⟨hproper, by simp⟩)
    · exact .inr (.inl h)
    · exact .inr (.inr ⟨hproper, List.mem_cons_of_mem _ h⟩)

theorem push_of_isProper {rooted : Bool} {kept : List (List Char)} {segment : List Char}
    (h : IsProper segment) : push rooted kept segment = segment :: kept := by
  simp [push, h.ne_nil, h.ne_here, h.ne_parent]

/-- Names are kept on the way. -/
theorem walk_of_isProper {rooted : Bool} {kept pieces : List (List Char)}
    (h : ∀ s ∈ pieces, IsProper s) : walk rooted kept pieces = pieces.reverse ++ kept := by
  rw [walk_eq_foldl]
  induction pieces generalizing kept with
  | nil => rfl
  | cons s pieces ih =>
    rw [List.foldl_cons, push_of_isProper (h s (by simp)), ih fun t ht => h t (List.mem_cons_of_mem _ ht)]
    simp

/-! ### Safe paths -/

/-- **The segments of a safe path** are names, each of them a segment of the path that was given. -/
theorem safeSegments_spec {path : String} {pieces : List (List Char)}
    (h : safeSegments path = .ok pieces) :
    pieces ≠ [] ∧ ∀ s ∈ pieces, IsProper s ∧ s ∈ segments (toSlashes path.toList) := by
  unfold safeSegments at h
  split at h
  · cases h
  · next first rest hnormal =>
    split at h
    · cases h
    · next hfirst =>
      obtain rfl : first :: rest = pieces := by simpa using h
      refine ⟨by simp, fun s hs => ?_⟩
      have hwalk := congrArg List.reverse hnormal
      rw [normalSegments, List.reverse_reverse] at hwalk
      have hstack : IsStack (first :: rest).reverse := by
        rw [← hwalk]
        exact IsStack.walk List.Pairwise.nil _ _
      -- a `..` in any place would have a `..` in the first place
      have hparent : s ≠ parent := by
        rintro rfl
        rcases List.mem_cons.mp hs with heq | hrest
        · simp [← heq] at hfirst
        · have := (List.pairwise_cons.mp (List.pairwise_reverse.mp hstack)).1 _ hrest rfl
          simp [this] at hfirst
      rcases mem_walk (hwalk ▸ List.mem_reverse.mpr hs) with hnil | hparent' | hproper
      · cases hnil
      · exact absurd hparent' hparent
      · exact hproper

theorem toSlashes_of_notMem {s : List Char} (h : '\\' ∉ s) : toSlashes s = s := by
  refine (List.map_congr_left fun c hc => ?_).trans (List.map_id s)
  rw [if_neg (by simpa using fun e : c = '\\' => h (e ▸ hc)), id]

variable {path : String}

theorem IsPlain.backslash_notMem (h : IsPlain path) : '\\' ∉ path.toList :=
  fun hc => ne_backslash_of_isFileChar (h.isFileChar _ hc) rfl

theorem IsPlain.safeSegments (h : IsPlain path) :
    safeSegments path = .ok (segments path.toList) := by
  have hnormal : normalSegments path.toList = segments path.toList := by
    rw [normalSegments, toSlashes_of_notMem h.backslash_notMem]
    simp only [walk_of_isProper h.isProper, List.append_nil, List.reverse_reverse]
  obtain ⟨first, rest, hsegments⟩ := List.exists_cons_of_ne_nil (segments_ne_nil path.toList)
  have hfirst : first ≠ parent := (h.isProper first (by simp [hsegments])).ne_parent
  rw [Path.safeSegments, hnormal, hsegments]
  simp [hfirst]

/-- **A plain path is resolved to its segments.** -/
theorem IsPlain.resolveInside (h : IsPlain path) :
    resolveInside path = .ok ((segments path.toList).map String.ofList) := by
  have hnul : (segments path.toList).any (·.contains '\x00') = false := by
    simp only [List.any_eq_false, List.contains_iff_mem]
    intro s hs hc
    exact ne_nul_of_isFileChar (h.isFileChar _ (mem_of_mem_cut hs _ hc)) rfl
  rw [Path.resolveInside, h.safeSegments]
  simp only [bind, Except.bind, hnul, Bool.false_eq_true, if_false]

/-- **The segments of a path in normal form** are names, each of them a segment of the path that was
given. -/
theorem ensureRelative_spec {text : String} (h : ensureRelative text = .ok path) :
    ∀ s ∈ segments path.toList, IsProper s ∧ s ∈ segments (toSlashes text.toList) := by
  obtain ⟨pieces, hpieces, rfl⟩ := Outcome.map_eq_ok_iff.mp h
  obtain ⟨hne, hproper⟩ := safeSegments_spec hpieces
  rwa [segments_ofList_join hne fun s hs => slash_notMem_of_mem_segments (hproper s hs).2]

/-- A safe path of characters of file names is plain. -/
theorem isPlain_of_ensureRelative {text : String} (htext : ∀ c ∈ text.toList, isFileChar c = true)
    (h : ensureRelative text = .ok path) : IsPlain path := by
  have hslashes : toSlashes text.toList = text.toList :=
    toSlashes_of_notMem fun hc => ne_backslash_of_isFileChar (htext _ hc) rfl
  have hproper := ensureRelative_spec h
  rw [hslashes] at hproper
  rw [isPlain_iff]
  exact fun s hs =>
    { toIsProper := (hproper s hs).1
      isFileChar := fun c hc => htext c (mem_of_mem_cut (hproper s hs).2 c hc)
      slash_notMem := slash_notMem_of_mem_segments hs }

/-- **A name that was made safe is plain.** -/
theorem isPlain_of_sanitizeFilename {name : String} (h : sanitizeFilename name = .ok path) :
    IsPlain path := by
  rw [sanitizeFilename] at h
  refine isPlain_of_ensureRelative (fun c hc => ?_) h
  rw [String.toList_ofList] at hc
  obtain ⟨d, -, rfl⟩ := List.mem_map.mp hc
  split
  · assumption
  · decide

/-! ### Joining paths -/

/-- The words of a path between its separators, which are slashes and backslashes. -/
def pathWords (path : String) : List (List Char) :=
  words (fun c => c == '/' || c == '\\') path.toList

theorem joinPath_eq (paths : List String) :
    joinPath paths = String.ofList (join ['/'] (paths.flatMap pathWords)) := rfl

theorem slash_notMem_of_mem_pathWords {word : List Char} (h : word ∈ pathWords path) :
    '/' ∉ word := fun hc => by
  simpa using not_of_mem_cut (List.mem_of_mem_filter h) _ hc

/-- The segments of joined paths are their words. -/
theorem segments_joinPath {paths : List String} (h : paths.flatMap pathWords ≠ []) :
    segments (joinPath paths).toList = paths.flatMap pathWords := by
  rw [joinPath_eq, segments_ofList_join h]
  intro word hword
  obtain ⟨path, -, hpath⟩ := List.mem_flatMap.mp hword
  exact slash_notMem_of_mem_pathWords hpath

/-- The words of a plain path are its segments. -/
theorem IsPlain.pathWords (h : IsPlain path) : pathWords path = segments path.toList := by
  have hcut : cut (fun c => c == '/' || c == '\\') path.toList = segments path.toList :=
    cut_congr fun c hc => by simp [ne_backslash_of_isFileChar (h.isFileChar c hc)]
  rw [Path.pathWords, words, hcut, List.filter_eq_self]
  exact fun s hs => by simpa using (h.isProper s hs).ne_nil

/-- Joined with a plain path, a path of which all words are names is plain. -/
theorem isPlain_joinPath_iff {dir : String} (hdir : IsPlain dir) (name : String) :
    IsPlain (joinPath [dir, name]) ↔ ∀ word ∈ pathWords name, IsName word := by
  have hwords : [dir, name].flatMap Path.pathWords = segments dir.toList ++ Path.pathWords name := by
    simp [hdir.pathWords]
  have hne : segments dir.toList ++ Path.pathWords name ≠ [] := by
    simp [segments_ne_nil]
  rw [isPlain_iff, segments_joinPath (by rwa [hwords]), hwords]
  constructor
  · exact fun h word hword => h word (List.mem_append_right _ hword)
  · intro h word hword
    rcases List.mem_append.mp hword with hword | hword
    · exact isPlain_iff.mp hdir word hword
    · exact h word hword

end PromptPress.Path
