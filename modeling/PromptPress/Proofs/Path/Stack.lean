import PromptPress.Proofs.Path.Climbing

/-!
# Paths as stacks

The segments of a path that count are put on a stack one after another, and a `..` takes the top away
instead. On an empty stack, `..` has no effect in a path that begins at the root, and leaves the place where
any other path begins. Normalization does exactly this (`safeSegments_eq_stackSegments`), so what it leaves
is left unchanged by it (`ensureRelative_idem`, `sanitizeFilename_idem`).

The place that a safe path leads to from a folder lies strictly below that folder: it is the folder's place
with the stack behind it (`resolveFrom_eq`).
-/

namespace PromptPress.Path

open PromptPress.Text

/-! ### The walk on a stack -/

/-- Whether a path begins at the root. -/
def isRooted (path : String) : Bool :=
  (toSlashes path.toList).head? == some '/'

/-- Whether a segment counts: it is neither empty nor `.`. -/
def counts (segment : List Char) : Bool :=
  segment ≠ [] ∧ segment ≠ ['.']

/-- The stack, its top first, after a segment that counts; none if there is nothing that a `..` could take
away, except in a path from the root. -/
def stackStep (rooted : Bool) (stack : List (List Char)) (segment : List Char) :
    Option (List (List Char)) :=
  if segment = parent then
    match stack with
    | [] => if rooted then some [] else none
    | _ :: below => some below
  else some (segment :: stack)

/-- The stack that the segments of a path leave, its bottom first; none if the path leaves the place where it
begins. -/
def stack? (path : String) : Option (List (List Char)) :=
  (((segments (toSlashes path.toList)).filter counts).foldlM (stackStep (isRooted path)) []).map
    List.reverse

/-- The segments on the stack at the end, or why there are none. -/
def stackSegments (path : String) : Except Unsafe (List (List Char)) :=
  match stack? path with
  | none => .error (.escapes path)
  | some [] => .error (.empty path)
  | some (first :: rest) => .ok (first :: rest)

variable {path : String} {rooted : Bool} {kept pieces : List (List Char)} {segment : List Char}

/-! ### Walking and stacking -/

theorem push_of_not_counts (h : counts segment = false) : push rooted kept segment = kept := by
  have hskip : segment = [] ∨ segment = ['.'] := by simpa [counts, or_iff_not_imp_left] using h
  unfold push
  rw [if_pos hskip]

/-- As long as a stack is left, a segment is pushed just so. -/
theorem push_of_stackStep {next : List (List Char)} (hkept : ∀ s ∈ kept, IsProper s)
    (hcounts : counts segment = true) (h : stackStep rooted kept segment = some next) :
    push rooted kept segment = next ∧ ∀ s ∈ next, IsProper s := by
  obtain ⟨hne, hhere⟩ : segment ≠ [] ∧ segment ≠ ['.'] := of_decide_eq_true hcounts
  have hskip : ¬ (segment = [] ∨ segment = ['.']) := not_or.mpr ⟨hne, hhere⟩
  unfold stackStep at h
  unfold push
  rw [if_neg hskip]
  split at h
  · next hparent =>
    rw [if_pos hparent]
    cases kept with
    | nil =>
      cases rooted with
      | false => cases h
      | true =>
        cases h
        exact ⟨rfl, nofun⟩
    | cons top below =>
      cases h
      have htop : top ≠ parent := (hkept top List.mem_cons_self).ne_parent
      exact ⟨if_neg htop, fun s hs => hkept s (List.mem_cons_of_mem _ hs)⟩
  · next hparent =>
    cases h
    exact ⟨if_neg hparent, List.forall_mem_cons.mpr ⟨⟨hne, hhere, hparent⟩, hkept⟩⟩

/-- A walk along segments that leave a stack keeps that stack, and it holds names. -/
theorem walk_of_stack {stack : List (List Char)} (hkept : ∀ s ∈ kept, IsProper s)
    (h : (pieces.filter counts).foldlM (stackStep rooted) kept = some stack) :
    walk rooted kept pieces = stack ∧ ∀ s ∈ stack, IsProper s := by
  rw [walk_eq_foldl]
  induction pieces generalizing kept with
  | nil =>
    cases h
    exact ⟨rfl, hkept⟩
  | cons s pieces ih =>
    rw [List.foldl_cons]
    cases hcounts : counts s with
    | false =>
      rw [List.filter_cons_of_neg (by simp [hcounts])] at h
      rw [push_of_not_counts hcounts]
      exact ih hkept h
    | true =>
      rw [List.filter_cons_of_pos hcounts, List.foldlM_cons] at h
      obtain ⟨next, hnext, hrest⟩ := Option.bind_eq_some_iff.mp h
      obtain ⟨hpush, hproper⟩ := push_of_stackStep hkept hcounts hnext
      rw [hpush]
      exact ih hproper hrest

/-- A `..` at the bottom stays there. -/
theorem exists_push_concat (rooted : Bool) (kept : List (List Char)) (segment : List Char) :
    ∃ next, push rooted (kept ++ [parent]) segment = next ++ [parent] := by
  unfold push
  split
  · exact ⟨kept, rfl⟩
  · split
    · cases kept with
      | nil => exact ⟨[parent], rfl⟩
      | cons last before =>
        simp only [List.cons_append]
        split
        · exact ⟨parent :: last :: before, rfl⟩
        · exact ⟨before, rfl⟩
    · exact ⟨segment :: kept, rfl⟩

theorem exists_walk_concat (rooted : Bool) (kept pieces : List (List Char)) :
    ∃ left, walk rooted (kept ++ [parent]) pieces = left ++ [parent] := by
  rw [walk_eq_foldl]
  induction pieces generalizing kept with
  | nil => exact ⟨kept, rfl⟩
  | cons s pieces ih =>
    obtain ⟨next, hnext⟩ := exists_push_concat rooted kept s
    rw [List.foldl_cons, hnext]
    exact ih next

/-- A walk along segments that leave no stack has a `..` at the bottom. -/
theorem walk_of_stack_none (hkept : ∀ s ∈ kept, IsProper s)
    (h : (pieces.filter counts).foldlM (stackStep rooted) kept = none) :
    ∃ left, walk rooted kept pieces = left ++ [parent] := by
  induction pieces generalizing kept with
  | nil => cases h
  | cons s pieces ih =>
    rw [walk_eq_foldl, List.foldl_cons, ← walk_eq_foldl]
    cases hcounts : counts s with
    | false =>
      rw [List.filter_cons_of_neg (by simp [hcounts])] at h
      rw [push_of_not_counts hcounts]
      exact ih hkept h
    | true =>
      rw [List.filter_cons_of_pos hcounts, List.foldlM_cons] at h
      cases hstep : stackStep rooted kept s with
      | some next =>
        rw [hstep] at h
        obtain ⟨hpush, hproper⟩ := push_of_stackStep hkept hcounts hstep
        rw [hpush]
        exact ih hproper h
      | none =>
        -- this is the `..` that finds nothing to take away
        obtain ⟨rfl, rfl, rfl⟩ : s = parent ∧ kept = [] ∧ rooted = false := by
          unfold stackStep at hstep
          split at hstep
          · next hparent =>
            cases kept with
            | nil => cases rooted with
              | false => exact ⟨hparent, rfl, rfl⟩
              | true => cases hstep
            | cons => cases hstep
          · cases hstep
        exact exists_walk_concat false [] pieces

/-- **Normalization is a walk on a stack.** -/
theorem safeSegments_eq_stackSegments (path : String) : safeSegments path = stackSegments path := by
  rw [stackSegments, stack?]
  cases hstack : ((segments (toSlashes path.toList)).filter counts).foldlM
      (stackStep (isRooted path)) [] with
  | none =>
    obtain ⟨left, hwalk⟩ := walk_of_stack_none (by simp) hstack
    have hnormal : normalSegments path.toList = parent :: left.reverse :=
      (congrArg List.reverse hwalk).trans (by simp)
    exact safeSegments_of_parent hnormal
  | some stack =>
    obtain ⟨hwalk, hproper⟩ := walk_of_stack (by simp) hstack
    have hnormal : normalSegments path.toList = stack.reverse := congrArg List.reverse hwalk
    rw [Option.map_some]
    cases hreverse : stack.reverse with
    | nil =>
      rw [safeSegments, hnormal, hreverse]
    | cons first rest =>
      rw [hreverse] at hnormal
      refine safeSegments_of_names (List.cons_ne_nil _ _) (fun s hs => ?_) hnormal
      exact hproper s (List.mem_reverse.mp (hreverse ▸ hs))

theorem ensureRelative_eq (path : String) :
    ensureRelative path = (stackSegments path).map fun kept => String.ofList (join ['/'] kept) := by
  rw [ensureRelative, safeSegments_eq_stackSegments]

/-- A path from the root leaves a stack, whatever it climbs. -/
theorem stack?_ne_none (hrooted : isRooted path = true) : stack? path ≠ none := by
  have hsome : ∀ (segments stack : List (List Char)), segments.foldlM (stackStep true) stack ≠ none := by
    intro segments
    induction segments with
    | nil => exact fun _ => Option.some_ne_none _
    | cons s segments ih =>
      intro stack
      obtain ⟨next, hnext⟩ : ∃ next, stackStep true stack s = some next := by
        unfold stackStep
        split
        · cases stack <;> exact ⟨_, rfl⟩
        · exact ⟨_, rfl⟩
      rw [List.foldlM_cons, hnext]
      exact ih next
  rw [stack?, hrooted, ne_eq, Option.map_eq_none_iff]
  exact hsome _ _

/-! ### Normal forms -/

theorem backslash_notMem_toSlashes (s : List Char) : '\\' ∉ toSlashes s := by
  intro hmem
  obtain ⟨c, -, heq⟩ := List.mem_map.mp hmem
  split at heq
  · cases heq
  · next hc => exact hc (by simpa using heq)

/-- The segments of a safe path hold neither slashes nor backslashes. -/
theorem notMem_of_safeSegments (h : safeSegments path = .ok pieces) :
    ∀ s ∈ pieces, '/' ∉ s ∧ '\\' ∉ s := by
  intro s hs
  have hmem := ((safeSegments_spec h).2 s hs).2
  exact ⟨slash_notMem_of_mem_segments hmem, fun hc =>
    backslash_notMem_toSlashes _ (mem_of_mem_cut hmem _ hc)⟩

/-- **Normal forms stay as they are.** -/
theorem ensureRelative_idem {normal : String} (h : ensureRelative path = .ok normal) :
    ensureRelative normal = .ok normal := by
  obtain ⟨pieces, hpieces, rfl⟩ := Outcome.map_eq_ok_iff.mp h
  obtain ⟨hne, hspec⟩ := safeSegments_spec hpieces
  have hnotMem := notMem_of_safeSegments hpieces
  have hslashes : toSlashes (join ['/'] pieces) = join ['/'] pieces := by
    refine toSlashes_of_notMem fun hc => ?_
    rcases mem_join hc with heq | ⟨s, hs, hcs⟩
    · cases heq
    · exact (hnotMem s hs).2 hcs
  have hnormal : normalSegments (String.ofList (join ['/'] pieces)).toList = pieces := by
    rw [normalSegments, String.toList_ofList, hslashes, segments_join hne fun s hs => (hnotMem s hs).1,
      walk_of_isProper fun s hs => (hspec s hs).1, List.append_nil, List.reverse_reverse]
  have hsafe := safeSegments_of_names hne (fun s hs => (hspec s hs).1) hnormal
  rw [ensureRelative, hsafe, Except.map]

/-- A plain path is sanitized to its normal form. -/
theorem IsPlain.sanitizeFilename_eq (h : IsPlain path) : sanitizeFilename path = ensureRelative path := by
  have hwords : words (· == '/') path.toList = segments path.toList := by
    rw [words, segments, List.filter_eq_self]
    exact fun s hs => by simpa using (h.isProper s hs).ne_nil
  have hmap : (path.toList.map fun c => if Path.isFileChar c then c else '-') = path.toList :=
    (List.map_congr_left fun c hc => if_pos (h.isFileChar c hc)).trans (List.map_id' _)
  rw [sanitizeFilename, toSlashes_of_notMem h.backslash_notMem, hwords, join_segments, hmap,
    String.ofList_toList]

/-- **Sanitized names stay as they are.** -/
theorem sanitizeFilename_idem {name : String} (h : sanitizeFilename path = .ok name) :
    sanitizeFilename name = .ok name := by
  rw [(isPlain_of_sanitizeFilename h).sanitizeFilename_eq]
  exact ensureRelative_idem h

/-! ### Places below a root directory -/

/-- The place that a path leads to from a folder: the names on the way from the root of the file system. There
are no links, so a `..` undoes the name before it, and nothing is above the root. -/
def placeFrom (folder : List String) (path : String) : List String :=
  let start := if path.toList.head? == some '/' then [] else folder.reverse.map String.toList
  (walk true start (segments path.toList)).reverse.map String.ofList

/-- The place of a path below a root directory, which is given by a path from the working folder. The path is
refused if it is not safe, or leads neither to the root directory nor below it. -/
def resolveFrom (folder : List String) (root path : String) : Except Unsafe (List String) := do
  let safe ← ensureRelative path
  if (root.toList ++ safe.toList).contains '\x00' then .error .nul
  else
    let base := placeFrom folder root
    let target := placeFrom base safe
    if base.isPrefixOf target then .ok target else .error (.escapes path)

variable {folder : List String} {root : String}

/-- Names lead down from a folder. -/
theorem placeFrom_join (hne : pieces ≠ []) (hproper : ∀ s ∈ pieces, IsProper s)
    (hslash : ∀ s ∈ pieces, '/' ∉ s) :
    placeFrom folder (String.ofList (join ['/'] pieces)) = folder ++ pieces.map String.ofList := by
  have hstart : ((join ['/'] pieces).head? == some '/') = false := by
    obtain ⟨first, rest, rfl⟩ := List.exists_cons_of_ne_nil hne
    obtain ⟨c, cs, rfl⟩ := List.exists_cons_of_ne_nil (hproper first List.mem_cons_self).ne_nil
    have hc : c ≠ '/' := fun heq => hslash _ List.mem_cons_self (heq ▸ List.mem_cons_self)
    rw [join_singleton_cons]
    simpa using hc
  rw [placeFrom, String.toList_ofList, hstart, segments_join hne hslash, walk_of_isProper hproper]
  simp [Function.comp_def]

/-- A path without the character that no name can hold is resolved to its segments. -/
theorem resolveInside_of_notMem (hnul : '\x00' ∉ path.toList) :
    resolveInside path = (safeSegments path).map (·.map String.ofList) := by
  rw [resolveInside]
  cases hsafe : safeSegments path with
  | error e => rfl
  | ok pieces =>
    have hnone : pieces.any (·.contains '\x00') = false := by
      simp only [List.any_eq_false, List.contains_iff_mem]
      intro s hs hc
      obtain ⟨c, hcs, heq⟩ := List.mem_map.mp (mem_of_mem_cut ((safeSegments_spec hsafe).2 s hs).2 _ hc)
      split at heq
      · cases heq
      · exact hnul (heq ▸ hcs)
    simp only [Outcome.ok_bind, hnone, Bool.false_eq_true, if_false, Except.map]

/-- A character that is not in the path of the root directory is in the whole path just if a segment has it. -/
theorem contains_append_join {c : Char} (hroot : c ∉ root.toList) (hc : c ≠ '/') :
    (root.toList ++ join ['/'] pieces).contains c = pieces.any (·.contains c) := by
  rw [Bool.eq_iff_iff, List.contains_iff_mem, List.mem_append, or_iff_right hroot, List.any_eq_true]
  simp only [List.contains_iff_mem]
  constructor
  · exact fun h => (mem_join h).resolve_left (by simpa using hc)
  · rintro ⟨s, hs, h⟩
    exact mem_join_of_mem hs h

/-- **Safe paths stay below the root directory**: the place of a path is that of its segments behind the place
of the root. -/
theorem resolveFrom_eq (hroot : '\x00' ∉ root.toList) (path : String) :
    resolveFrom folder root path = (resolveInside path).map (placeFrom folder root ++ ·) := by
  rw [resolveFrom, resolveInside, ensureRelative]
  cases hsafe : safeSegments path with
  | error e => rfl
  | ok pieces =>
    obtain ⟨hne, hspec⟩ := safeSegments_spec hsafe
    have hplace : placeFrom (placeFrom folder root) (String.ofList (join ['/'] pieces)) =
        placeFrom folder root ++ pieces.map String.ofList :=
      placeFrom_join hne (fun s hs => (hspec s hs).1) fun s hs => (notMem_of_safeSegments hsafe s hs).1
    have hprefix : (placeFrom folder root).isPrefixOf (placeFrom folder root ++ pieces.map String.ofList) :=
      List.isPrefixOf_iff_prefix.mpr (List.prefix_append ..)
    simp only [Except.map, Outcome.ok_bind, String.toList_ofList, hplace, hprefix, if_true,
      contains_append_join hroot (c := '\x00') (by decide)]
    split <;> rfl

/-! ### The stack walk -/

/-- **A path is normalized along a stack.** Its normal form is the stack that its segments leave, if there is
one and it is not empty; a path from the root always leaves a stack, and a stack holds names only. Normal
forms and sanitized names stay as they are. Below a root directory the path is refused in the same cases, and
otherwise leads to the place of that directory with the stack behind it. -/
theorem normalizes_along_stack (hnul : '\x00' ∉ path.toList) :
    ensureRelative path = ((stackSegments path).map fun kept => String.ofList (join ['/'] kept)) ∧
    (isRooted path = true → stack? path ≠ none) ∧
    (∀ kept, stackSegments path = .ok kept → kept ≠ [] ∧ ∀ s ∈ kept, IsProper s ∧ '/' ∉ s) ∧
    (∀ normal, ensureRelative path = .ok normal → ensureRelative normal = .ok normal) ∧
    (∀ name, sanitizeFilename path = .ok name → sanitizeFilename name = .ok name) ∧
    ∀ (folder : List String) (root : String), '\x00' ∉ root.toList →
      resolveFrom folder root path =
        (stackSegments path).map fun kept => placeFrom folder root ++ kept.map String.ofList := by
  refine ⟨ensureRelative_eq path, stack?_ne_none, fun kept hkept => ?_, fun _ => ensureRelative_idem,
    fun _ => sanitizeFilename_idem, fun folder root hroot => ?_⟩
  · rw [← safeSegments_eq_stackSegments] at hkept
    obtain ⟨hne, hspec⟩ := safeSegments_spec hkept
    exact ⟨hne, fun s hs => ⟨(hspec s hs).1, (notMem_of_safeSegments hkept s hs).1⟩⟩
  · rw [resolveFrom_eq hroot, resolveInside_of_notMem hnul, ← safeSegments_eq_stackSegments]
    cases safeSegments path <;> rfl

/-- A path that goes up and down again, in both notations, below a root directory that does so as well. -/
theorem normalizes_along_stack_climbing :
    '\x00' ∉ "a/../x\\.//..\\y/card.tsx".toList ∧ '\x00' ∉ "site/../out".toList ∧
      ensureRelative "a/../x\\.//..\\y/card.tsx" = .ok "y/card.tsx" ∧
      resolveFrom ["home"] "site/../out" "a/../x\\.//..\\y/card.tsx" =
        .ok ["home", "out", "y", "card.tsx"] := by
  have hnul : '\x00' ∉ "a/../x\\.//..\\y/card.tsx".toList := by decide
  have hroot : '\x00' ∉ "site/../out".toList := by decide
  have hstack : stackSegments "a/../x\\.//..\\y/card.tsx" = .ok ["y".toList, "card.tsx".toList] := by rfl
  have hplace : placeFrom ["home"] "site/../out" = ["home", "out"] := by rfl
  obtain ⟨hnormal, -, -, -, -, hresolve⟩ := normalizes_along_stack hnul
  refine ⟨hnul, hroot, ?_, ?_⟩
  · rw [hnormal, hstack]
    rfl
  · rw [hresolve ["home"] "site/../out" hroot, hstack, hplace]
    rfl

end PromptPress.Path
