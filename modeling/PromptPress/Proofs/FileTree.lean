import Mathlib.Data.List.Nodup
import PromptPress.FileTree
import PromptPress.Proofs.Order
import PromptPress.Proofs.Path.Relative

/-!
# Files that are written

Writing a file changes the content at its path and nothing else, and a file at a new path is added
behind the others. `putAll` is a whole run of writing: the last content that was put at a path is the
one that stays (`file?_putAll`), and if all paths are different nothing is lost (`putAll_of_nodup`).
-/

namespace PromptPress.FileTree

open PromptPress.Path

variable {tree tree' : FileTree} {path : FilePath} {content : List UInt8}

/-! ### One file -/

theorem write_eq_ok (h : tree.write path content = .ok tree') :
    tree' = { tree with files := put path content tree.files } := by
  unfold write at h
  repeat' split at h
  all_goals cases h
  rfl

theorem put_of_notMem {files : List (FilePath × List UInt8)} (h : path ∉ files.map (·.1)) :
    put path content files = files ++ [(path, content)] := by
  induction files with
  | nil => rfl
  | cons file files ih =>
    rw [List.map_cons, List.mem_cons, not_or] at h
    rw [put, if_neg (Ne.symm h.1), ih h.2, List.cons_append]

theorem file?_of_mem (hnodup : (tree.files.map (·.1)).Nodup) (h : (path, content) ∈ tree.files) :
    tree.file? path = some content := by
  rw [file?, Order.find?_key hnodup h]
  rfl

/-! ### A run of writing -/

/-- Puts files one after another. -/
def putAll (files new : List (FilePath × List UInt8)) : List (FilePath × List UInt8) :=
  new.foldl (fun files file => put file.1 file.2 files) files

/-- **The last content counts.** After a run a path has the last content that was put there, or the
content that it had before. -/
theorem file?_putAll (tree : FileTree) (new : List (FilePath × List UInt8)) (path : FilePath) :
    file? { tree with files := putAll tree.files new } path =
      ((new.reverse.find? (·.1 == path)).map (·.2)).or (tree.file? path) := by
  simp only [file?]
  induction new generalizing tree with
  | nil => rfl
  | cons file new ih =>
    have hrest := ih { tree with files := put file.1 file.2 tree.files }
    simp only [file?_put] at hrest
    rw [putAll, List.foldl_cons, ← putAll, hrest, List.reverse_cons, List.find?_append]
    -- a later file of the run counts more than this one, and this one more than the tree
    cases new.reverse.find? (·.1 == path) with
    | some last => rfl
    | none => by_cases hpath : file.1 = path <;> simp [hpath]

/-- A run leaves the other paths as they were. -/
theorem file?_putAll_of_notMem {new : List (FilePath × List UInt8)} (h : path ∉ new.map (·.1)) :
    file? { tree with files := putAll tree.files new } path = tree.file? path := by
  have hnone : new.reverse.find? (·.1 == path) = none := by
    simp only [List.find?_eq_none, List.mem_reverse, beq_iff_eq]
    exact fun file hfile heq => h (heq ▸ List.mem_map_of_mem hfile)
  rw [file?_putAll, hnone, Option.map_none, Option.none_or]

/-- After a run there is a file at every path of the run. -/
theorem isSome_file?_putAll {new : List (FilePath × List UInt8)} (h : path ∈ new.map (·.1)) :
    (file? { tree with files := putAll tree.files new } path).isSome := by
  have hsome : (new.reverse.find? (·.1 == path)).isSome := by
    obtain ⟨file, hfile, rfl⟩ := List.mem_map.mp h
    exact List.find?_isSome.mpr ⟨file, List.mem_reverse.mpr hfile, by simp⟩
  rw [file?_putAll, Option.isSome_or, Option.isSome_map, hsome, Bool.true_or]

theorem keys_put (path : FilePath) (content : List UInt8) (files : List (FilePath × List UInt8)) :
    (put path content files).map (·.1) =
      if path ∈ files.map (·.1) then files.map (·.1) else files.map (·.1) ++ [path] := by
  induction files with
  | nil => rfl
  | cons file files ih =>
    obtain ⟨key, old⟩ := file
    by_cases hkey : key = path
    · simp [put, hkey]
    · simp only [put, if_neg hkey, List.map_cons, ih, List.mem_cons, Ne.symm hkey, false_or]
      split <;> rfl

/-- A run of writing keeps the paths apart. -/
theorem nodup_keys_putAll {files : List (FilePath × List UInt8)} (h : (files.map (·.1)).Nodup)
    (new : List (FilePath × List UInt8)) : ((putAll files new).map (·.1)).Nodup := by
  induction new generalizing files with
  | nil => exact h
  | cons file new ih =>
    refine ih ?_
    rw [keys_put]
    split
    · exact h
    · next hnew => exact List.concat_eq_append ▸ h.concat hnew

theorem mem_keys_putAll {files new : List (FilePath × List UInt8)} :
    path ∈ (putAll files new).map (·.1) ↔ path ∈ files.map (·.1) ∨ path ∈ new.map (·.1) := by
  induction new generalizing files with
  | nil => simp [putAll]
  | cons file new ih =>
    have hput : path ∈ (put file.1 file.2 files).map (·.1) ↔
        path ∈ files.map (·.1) ∨ path = file.1 := by
      rw [keys_put]
      split
      · next hmem => exact ⟨.inl, fun h => h.elim id fun heq => heq ▸ hmem⟩
      · rw [List.mem_append, List.mem_singleton]
    rw [putAll, List.foldl_cons, ← putAll, ih, hput, List.map_cons, List.mem_cons, or_assoc]

/-- **Nothing is lost** if all paths are different. -/
theorem putAll_of_nodup {files new : List (FilePath × List UInt8)}
    (h : ((files ++ new).map (·.1)).Nodup) : putAll files new = files ++ new := by
  induction new generalizing files with
  | nil => simp [putAll]
  | cons file new ih =>
    have hsplit : files ++ file :: new = (files ++ [file]) ++ new := by simp
    have hfresh : file.1 ∉ files.map (·.1) := by
      rw [List.map_append, List.map_cons] at h
      exact fun hmem => (List.nodup_append.mp h).2.2 _ hmem _ (by simp) rfl
    rw [putAll, List.foldl_cons, ← putAll, put_of_notMem hfresh, hsplit]
    exact ih (hsplit ▸ h)

/-! ### Entries -/

/-- The entries of an archive are the files of the tree in another order. -/
theorem entries_perm (tree : FileTree) :
    tree.entries.Perm (tree.files.map fun file => (showPath file.1, file.2)) :=
  (List.mergeSort_perm tree.files _).map _

/-! ### Plain paths -/

theorem pathSegments_of_isPlain {path : String} (h : IsPlain path) :
    pathSegments path = (segments path.toList).map String.ofList := by
  rw [pathSegments, List.filter_eq_self]
  intro name hname
  obtain ⟨s, hs, rfl⟩ := List.mem_map.mp hname
  have hproper := h.isProper s hs
  have hempty : String.ofList s ≠ "" := by simpa using hproper.ne_nil
  have hhere : String.ofList s ≠ "." := fun heq =>
    hproper.ne_here (by simpa using congrArg String.toList heq)
  simp [hempty, hhere]

/-- **A plain path is shown as it was given.** -/
theorem showPath_pathSegments {path : String} (h : IsPlain path) :
    showPath (pathSegments path) = path := by
  have hmap : ((segments path.toList).map String.ofList).map String.toList =
      segments path.toList := by
    simp [Function.comp_def]
  rw [← String.toList_inj, showPath, String.toList_intercalate, pathSegments_of_isPlain h, hmap]
  exact (Text.join_eq_intercalate _ _).symm.trans (join_segments _)

theorem pathSegments_inj {path other : String} (h : IsPlain path) (h' : IsPlain other)
    (heq : pathSegments path = pathSegments other) : path = other := by
  rw [← showPath_pathSegments h, heq, showPath_pathSegments h']

end PromptPress.FileTree
