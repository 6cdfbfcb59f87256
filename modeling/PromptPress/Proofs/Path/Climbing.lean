import PromptPress.Proofs.Path.Relative

/-!
# Climbing paths

A `..` takes away the last segment that is kept; if there is none, it climbs out of the place where the
path begins. A path that begins at the root has nowhere to climb to, so it may be safe all the same. Below
a folder there is somewhere to climb to: the first climb takes the folder away, and a second one leaves
the root (`safeSegments_inFolder`).
-/

namespace PromptPress.Path

open PromptPress.Text

/-! ### Folders -/

/-- Whether a character may stand in the name of a folder. -/
def isFolderChar (c : Char) : Bool :=
  c.isAlphanum || c == '-' || c == '_'

/-- The name of a folder: letters, digits, hyphens and underscores. -/
structure IsFolderName (folder : String) : Prop where
  ne_nil : folder.toList ≠ []
  isFolderChar : ∀ c ∈ folder.toList, isFolderChar c = true

theorem isFolderName_iff {folder : String} : IsFolderName folder ↔
    folder.toList ≠ [] ∧ folder.toList.all Path.isFolderChar = true := by
  rw [List.all_eq_true]
  exact ⟨fun ⟨h₁, h₂⟩ => ⟨h₁, h₂⟩, fun ⟨h₁, h₂⟩ => ⟨h₁, h₂⟩⟩

instance (folder : String) : Decidable (IsFolderName folder) :=
  decidable_of_iff' _ isFolderName_iff

/-- A path below a folder. -/
def inFolder (folder path : String) : String :=
  s!"{folder}/{path}"

variable {folder path : String}

theorem toList_inFolder : (inFolder folder path).toList = folder.toList ++ '/' :: path.toList := by
  simp [inFolder, toString]

theorem getLast?_inFolder (h : path.toList ≠ []) :
    (inFolder folder path).toList.getLast? = path.toList.getLast? := by
  rw [toList_inFolder, List.getLast?_append, List.getLast?_cons, List.getLast?_eq_some_getLast h]
  rfl

namespace IsFolderName

theorem slash_notMem (h : IsFolderName folder) : '/' ∉ folder.toList :=
  fun hc => absurd (h.isFolderChar _ hc) (by decide)

theorem backslash_notMem (h : IsFolderName folder) : '\\' ∉ folder.toList :=
  fun hc => absurd (h.isFolderChar _ hc) (by decide)

theorem point_notMem (h : IsFolderName folder) : '.' ∉ folder.toList :=
  fun hc => absurd (h.isFolderChar _ hc) (by decide)

/-- The name of a folder names it. -/
theorem isProper (h : IsFolderName folder) : IsProper folder.toList where
  ne_nil := h.ne_nil
  ne_here heq := h.point_notMem (by simp [heq])
  ne_parent heq := h.point_notMem (by simp [heq, parent])

end IsFolderName

theorem toSlashes_append_slash (s t : List Char) :
    toSlashes (s ++ '/' :: t) = toSlashes s ++ '/' :: toSlashes t := by
  simp [toSlashes]

theorem toSlashes_toSlashes (s : List Char) : toSlashes (toSlashes s) = toSlashes s := by
  refine toSlashes_of_notMem fun hc => ?_
  obtain ⟨c, -, heq⟩ := List.mem_map.mp hc
  split at heq
  · exact absurd heq (by decide)
  · next hne => exact hne (by simp [heq])

/-- The segments of a path below a folder are the folder and the segments of the path. -/
theorem segments_inFolder (h : IsFolderName folder) :
    segments (toSlashes (inFolder folder path).toList) =
      folder.toList :: segments (toSlashes path.toList) := by
  rw [toList_inFolder, toSlashes_append_slash, toSlashes_of_notMem h.backslash_notMem,
    segments_append_slash, segments_of_slash_notMem h.slash_notMem, List.singleton_append]

theorem isRooted_inFolder (h : IsFolderName folder) :
    ((toSlashes (inFolder folder path).toList).head? == some '/') = false := by
  obtain ⟨c, rest, hfolder⟩ := List.exists_cons_of_ne_nil h.ne_nil
  have hc : c ≠ '/' := fun heq => h.slash_notMem (by simp [hfolder, heq])
  rw [toList_inFolder, toSlashes_append_slash, toSlashes_of_notMem h.backslash_notMem, hfolder]
  simpa using hc

/-! ### Climbing -/

/-- How often a path climbs: without a root, a `..` that finds nothing to take away is kept. -/
def climbs (path : String) : Nat :=
  (walk false [] (segments (toSlashes path.toList))).count parent

/-- What is below the names that are kept of a path in a folder, after a number of climbs. -/
def underneath (folder : List Char) : Nat → List (List Char)
  | 0 => [folder]
  | n + 1 => List.replicate n parent

theorem push_append {kept rest : List (List Char)} {segment : List Char} {rooted : Bool}
    (hkept : ∀ s ∈ kept, IsProper s) (h : kept ≠ [] ∨ segment ≠ parent) :
    push rooted (kept ++ rest) segment = push true kept segment ++ rest := by
  unfold push
  split
  · rfl
  · split
    · next hparent =>
      cases kept with
      | nil => exact absurd hparent (h.resolve_left (by simp))
      | cons last before =>
        have hlast : last ≠ parent := (hkept last (by simp)).ne_parent
        simp [hlast]
    · rfl

/-- From the root, names are all that is kept. -/
theorem isProper_push {kept : List (List Char)} (hkept : ∀ s ∈ kept, IsProper s)
    (segment : List Char) : ∀ s ∈ push true kept segment, IsProper s := by
  intro s hs
  rcases mem_push hs with hmem | rfl | ⟨hproper, -⟩
  · exact hkept s hmem
  · unfold push at hs
    split at hs
    · exact hkept _ hs
    · split at hs
      · cases kept with
        | nil => cases hs
        | cons last before =>
          simp only [if_neg (hkept last (by simp)).ne_parent] at hs
          exact hkept _ (List.mem_cons_of_mem _ hs)
      · next hsegment =>
        rcases List.mem_cons.mp hs with heq | hmem
        · exact absurd heq.symm hsegment
        · exact hkept _ hmem
  · exact hproper

/-- **Three walks in step**: along the same segments, without a root, from the root and below a folder,
the same names are kept; what is below them tells how often the path has climbed. -/
theorem exists_walk (hfolder : IsProper folder.toList) (pieces : List (List Char)) :
    ∃ names n, (∀ s ∈ names, IsProper s) ∧
      walk false [] pieces = names ++ List.replicate n parent ∧ walk true [] pieces = names ∧
      walk false [folder.toList] pieces = names ++ underneath folder.toList n := by
  simp only [walk_eq_foldl]
  induction pieces using List.reverseRecOn with
  | nil => exact ⟨[], 0, by simp, rfl, rfl, rfl⟩
  | append_singleton pieces segment ih =>
    obtain ⟨names, n, hnames, hfree, hrooted, hbelow⟩ := ih
    simp only [List.foldl_append, List.foldl_cons, List.foldl_nil, hfree, hrooted, hbelow]
    by_cases hclimb : names = [] ∧ segment = parent
    · -- nothing to take away: the walk without a root keeps the `..`, the one below the folder leaves it
      obtain ⟨rfl, rfl⟩ := hclimb
      refine ⟨[], n + 1, by simp, ?_, ?_, ?_⟩
      · cases n <;> simp [push, parent, List.replicate_succ]
      · simp [push, parent]
      · have hne : folder.toList ≠ parent := hfolder.ne_parent
        rcases n with _ | _ | n
        · have hskip : ¬ (parent = [] ∨ parent = ['.']) := by decide
          simp [push, underneath, hne, hskip]
        · simp [push, underneath, parent]
        · simp [push, underneath, parent, List.replicate_succ]
    · have hpush (rest : List (List Char)) (rooted : Bool) :
          push rooted (names ++ rest) segment = push true names segment ++ rest :=
        push_append hnames (by tauto)
      exact ⟨push true names segment, n, isProper_push hnames segment, hpush _ _, rfl, hpush _ _⟩

theorem count_parent {names : List (List Char)} (hnames : ∀ s ∈ names, IsProper s) (n : ℕ) :
    (names ++ List.replicate n parent).count parent = n := by
  have hnone : parent ∉ names := fun hmem => (hnames parent hmem).ne_parent rfl
  rw [List.count_append, List.count_eq_zero.mpr hnone, List.count_replicate_self, Nat.zero_add]

theorem safeSegments_of_names {names : List (List Char)} (hne : names ≠ [])
    (hnames : ∀ s ∈ names, IsProper s) (h : normalSegments path.toList = names) :
    safeSegments path = .ok names := by
  obtain ⟨first, rest, rfl⟩ := List.exists_cons_of_ne_nil hne
  have hfirst : first ≠ parent := (hnames first List.mem_cons_self).ne_parent
  rw [safeSegments, h]
  simp [hfirst]

theorem safeSegments_of_parent {rest : List (List Char)}
    (h : normalSegments path.toList = parent :: rest) : safeSegments path = .error (.escapes path) := by
  rw [safeSegments, h]
  simp

theorem normalSegments_of_safeSegments {pieces : List (List Char)}
    (h : safeSegments path = .ok pieces) : normalSegments path.toList = pieces := by
  unfold safeSegments at h
  split at h
  · cases h
  · next hnormal =>
    split at h
    · cases h
    · rw [hnormal, Except.ok.inj h]

/-- **A safe path in a folder** is safe if it climbs at most once. If it does not climb, it stays in the
folder; one climb takes the folder away, and nothing else. -/
theorem safeSegments_inFolder {pieces : List (List Char)} (hfolder : IsFolderName folder)
    (h : safeSegments path = .ok pieces) :
    safeSegments (inFolder folder path) =
      match climbs path with
      | 0 => .ok (folder.toList :: pieces)
      | 1 => .ok pieces
      | _ => .error (.escapes (inFolder folder path)) := by
  obtain ⟨names, n, hnames, hfree, hrooted, hbelow⟩ :=
    exists_walk hfolder.isProper (segments (toSlashes path.toList))
  obtain ⟨hne, hspec⟩ := safeSegments_spec h
  have hproper : ∀ s ∈ pieces, IsProper s := fun s hs => (hspec s hs).1
  have hclimbs : climbs path = n := by rw [climbs, hfree, count_parent hnames]
  have hpieces : names.reverse = pieces := by
    have hnormal := normalSegments_of_safeSegments h
    rw [normalSegments] at hnormal
    cases hroot : (toSlashes path.toList).head? == some '/' with
    | true => rwa [hroot, hrooted] at hnormal
    | false =>
      rw [hroot, hfree, List.reverse_append, List.reverse_replicate] at hnormal
      -- a path without a root that climbs is not safe
      cases n with
      | zero => exact hnormal
      | succ n =>
        have hparent : parent ∈ pieces := by simp [← hnormal, List.replicate_succ]
        exact absurd rfl (hproper parent hparent).ne_parent
  have hnormal : normalSegments (inFolder folder path).toList =
      (underneath folder.toList n).reverse ++ pieces := by
    rw [normalSegments, isRooted_inFolder hfolder, segments_inFolder hfolder, walk_eq_foldl,
      List.foldl_cons, ← walk_eq_foldl, push_of_isProper hfolder.isProper, hbelow,
      List.reverse_append, hpieces]
  rw [hclimbs]
  rcases n with _ | _ | n
  · refine safeSegments_of_names (by simp) ?_ hnormal
    exact List.forall_mem_cons.mpr ⟨hfolder.isProper, hproper⟩
  · exact safeSegments_of_names hne hproper hnormal
  · rw [underneath, List.reverse_replicate, List.replicate_succ, List.cons_append] at hnormal
    exact safeSegments_of_parent hnormal

end PromptPress.Path
