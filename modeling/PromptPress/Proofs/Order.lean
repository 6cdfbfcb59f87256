import Mathlib.Data.List.Nodup

/-!
# Lists with keys

Items with different keys are found by their keys (`find?_key`), and the first items of their keys are all
different items of a list just if different items have different keys (`eraseDupsBy_eq_eraseDups_iff`). A
list is sorted by a key if smaller keys come first and items of one key keep the order in which they came.
For a list without repetitions that leaves one arrangement (`IsSorting.unique`), which a stable sort finds
(`isSorting_mergeSort`) and which selecting items does not disturb (`IsSorting.filter`).
-/

namespace PromptPress.Order

variable {α : Type} {key : α → Int} {xs ys zs : List α} {a b : α}

/-! ### Looking up a key -/

/-- An item is found by its key if all keys are different. -/
theorem find?_key {κ : Type} [BEq κ] [LawfulBEq κ] {f : α → κ} (hnodup : (xs.map f).Nodup)
    (ha : a ∈ xs) : xs.find? (f · == f a) = some a := by
  obtain ⟨found, hfind⟩ := Option.isSome_iff_exists.mp
    (List.find?_isSome (p := (f · == f a)) |>.mpr ⟨a, ha, beq_self_eq_true _⟩)
  have hkey : f found = f a := by simpa using List.find?_some hfind
  rw [hfind, List.inj_on_of_nodup_map hnodup (List.mem_of_find?_eq_some hfind) ha hkey]

/-! ### The first items of their keys -/

theorem eraseDupsBy_sublist (r : α → α → Bool) (xs : List α) : (xs.eraseDupsBy r).Sublist xs := by
  match xs with
  | [] => exact .slnil
  | x :: rest =>
    rw [List.eraseDupsBy_cons]
    exact ((eraseDupsBy_sublist r _).trans List.filter_sublist).cons_cons x
termination_by xs.length
decreasing_by exact Nat.lt_succ_of_le (List.length_filter_le _ _)

/-- Which items are the first of their kind depends on how the items of the list compare. -/
theorem eraseDupsBy_congr {r s : α → α → Bool} {xs : List α}
    (h : ∀ a ∈ xs, ∀ b ∈ xs, r a b = s a b) : xs.eraseDupsBy r = xs.eraseDupsBy s := by
  match xs with
  | [] => rfl
  | x :: rest =>
    have hfilter : (rest.filter fun y => r y x = false) = rest.filter fun y => s y x = false :=
      List.filter_congr fun y hy => by rw [h y (.tail x hy) x (.head rest)]
    have hrest : ∀ a ∈ rest.filter fun y => s y x = false,
        ∀ b ∈ rest.filter fun y => s y x = false, r a b = s a b := fun a ha b hb =>
      h a (.tail x (List.mem_of_mem_filter ha)) b (.tail x (List.mem_of_mem_filter hb))
    rw [List.eraseDupsBy_cons, List.eraseDupsBy_cons, hfilter, eraseDupsBy_congr hrest]
termination_by xs.length
decreasing_by exact Nat.lt_succ_of_le (List.length_filter_le _ _)

section FirstOfKey

variable {κ : Type} [BEq κ] [LawfulBEq κ] (f : α → κ)

/-- The first items of their keys have different keys. -/
theorem nodup_map_eraseDupsBy (xs : List α) : ((xs.eraseDupsBy (f · == f ·)).map f).Nodup := by
  match xs with
  | [] => exact List.nodup_nil
  | x :: rest =>
    rw [List.eraseDupsBy_cons, List.map_cons, List.nodup_cons]
    refine ⟨fun hmem => ?_, nodup_map_eraseDupsBy _⟩
    obtain ⟨y, hy, heq⟩ := List.mem_map.mp hmem
    have hne := (List.mem_filter.mp ((eraseDupsBy_sublist _ _).subset hy)).2
    simp [heq] at hne
termination_by xs.length
decreasing_by exact Nat.lt_succ_of_le (List.length_filter_le _ _)

/-- The first items of their keys are all different items just if no key is that of two of them. -/
theorem eraseDupsBy_eq_eraseDups_iff [BEq α] [LawfulBEq α] {xs : List α} :
    xs.eraseDupsBy (f · == f ·) = xs.eraseDups ↔ ∀ a ∈ xs, ∀ b ∈ xs, f a = f b → a = b := by
  constructor
  · intro h a ha b hb hkey
    have hmem : ∀ c ∈ xs, c ∈ xs.eraseDupsBy (f · == f ·) := fun c hc =>
      h ▸ List.mem_eraseDups.mpr hc
    exact List.inj_on_of_nodup_map (nodup_map_eraseDupsBy f xs) (hmem a ha) (hmem b hb) hkey
  · intro h
    refine eraseDupsBy_congr fun a ha b hb => ?_
    rw [Bool.eq_iff_iff, beq_iff_eq, beq_iff_eq]
    exact ⟨h a ha b hb, congrArg f⟩

end FirstOfKey

/-! ### Pairs in a list -/

theorem not_pair_sublist_swap (hnodup : xs.Nodup) (h : [a, b].Sublist xs) :
    ¬ [b, a].Sublist xs := by
  induction xs with
  | nil => simp at h
  | cons x xs ih =>
    obtain ⟨hx, hxs⟩ := List.nodup_cons.mp hnodup
    intro hswap
    rcases List.sublist_cons_iff.mp h with hrest | ⟨r, hr, hrest⟩ <;>
      rcases List.sublist_cons_iff.mp hswap with hrest' | ⟨r', hr', hrest'⟩
    · exact ih hxs hrest hrest'
    · cases hr'
      exact hx (hrest.subset (by simp))
    · cases hr
      exact hx (hrest'.subset (by simp))
    · cases hr
      cases hr'
      exact hx (hrest.subset (by simp))

theorem pair_sublist_or_swap (ha : a ∈ xs) (hb : b ∈ xs) (hne : a ≠ b) :
    [a, b].Sublist xs ∨ [b, a].Sublist xs := by
  induction xs with
  | nil => simp at ha
  | cons x xs ih =>
    rcases List.mem_cons.mp ha with rfl | ha' <;> rcases List.mem_cons.mp hb with rfl | hb'
    · exact absurd rfl hne
    · exact .inl ((List.singleton_sublist.mpr hb').cons_cons _)
    · exact .inr ((List.singleton_sublist.mpr ha').cons_cons _)
    · exact (ih ha' hb').imp (·.cons x) (·.cons x)

/-- An item comes before another: its key is smaller, or the keys are the same and it came first. -/
def Precedes (key : α → Int) (xs : List α) (a b : α) : Prop :=
  key a < key b ∨ key a = key b ∧ [a, b].Sublist xs

theorem Precedes.antisymm (hnodup : xs.Nodup) (h : Precedes key xs a b) :
    ¬ Precedes key xs b a := by
  rintro (hlt' | ⟨heq', hswap⟩) <;> rcases h with hlt | ⟨heq, hpair⟩
  · omega
  · omega
  · omega
  · exact not_pair_sublist_swap hnodup hpair hswap

/-- A list holds the items of another one in the order of a key. -/
structure IsSorting (key : α → Int) (xs ys : List α) : Prop where
  perm : ys.Perm xs
  order : ys.Pairwise (Precedes key xs)

theorem IsSorting.unique (hnodup : xs.Nodup) (h : IsSorting key xs ys) (h' : IsSorting key xs zs) :
    ys = zs :=
  List.Perm.eq_of_pairwise (fun _ _ _ _ hab hba => absurd hba (hab.antisymm hnodup))
    h.order h'.order (h.perm.trans h'.perm.symm)

theorem IsSorting.filter (p : α → Bool) (h : IsSorting key xs ys) :
    IsSorting key (xs.filter p) (ys.filter p) := by
  refine ⟨h.perm.filter p, (h.order.filter p).imp_of_mem fun {a b} ha hb hab => ?_⟩
  have hpair : [a, b].filter p = [a, b] := by
    simp [(List.mem_filter.mp ha).2, (List.mem_filter.mp hb).2]
  exact hab.imp_right fun ⟨heq, hsub⟩ => ⟨heq, hpair ▸ hsub.filter p⟩

/-- **A stable sort** of a list without repetitions: what comes first is not greater, and of two items
that are as great as each other it came first before. -/
theorem pairwise_mergeSort_of_nodup {le : α → α → Bool}
    (htrans : ∀ a b c, le a b = true → le b c = true → le a c = true)
    (htotal : ∀ a b, (le a b || le b a) = true) (hnodup : xs.Nodup) :
    (xs.mergeSort le).Pairwise fun a b => le a b = true ∧ (le b a = true → [a, b].Sublist xs) := by
  have hperm := List.mergeSort_perm xs le
  have hsorted_nodup := hperm.nodup_iff.mpr hnodup
  refine List.pairwise_iff_forall_sublist.mpr fun {a b} hpair => ⟨?_, fun hback => ?_⟩
  · exact List.pairwise_iff_forall_sublist.mp (List.pairwise_mergeSort htrans htotal xs) hpair
  have hne : a ≠ b := by simpa using hpair.nodup hsorted_nodup
  have hmem : ∀ c ∈ [a, b], c ∈ xs := fun c hc => hperm.subset (hpair.subset hc)
  rcases pair_sublist_or_swap (hmem a (by simp)) (hmem b (by simp)) hne with hsub | hswap
  · exact hsub
  -- a pair that came the other way round would have stayed so
  · exact absurd (List.pair_sublist_mergeSort htrans htotal hback hswap)
      (not_pair_sublist_swap hsorted_nodup hpair)

theorem isSorting_mergeSort (key : α → Int) (hnodup : xs.Nodup) :
    IsSorting key xs (xs.mergeSort fun a b => key a ≤ key b) := by
  have htrans : ∀ a b c : α, decide (key a ≤ key b) → decide (key b ≤ key c) →
      decide (key a ≤ key c) := by
    intro a b c hab hbc
    simp only [decide_eq_true_eq] at *
    omega
  have htotal : ∀ a b : α, (decide (key a ≤ key b) || decide (key b ≤ key a)) := by
    intro a b
    simp only [Bool.or_eq_true, decide_eq_true_eq]
    omega
  refine ⟨List.mergeSort_perm xs _, (pairwise_mergeSort_of_nodup htrans htotal hnodup).imp ?_⟩
  rintro a b ⟨hle, hstable⟩
  rcases Int.lt_or_eq_of_le (of_decide_eq_true hle) with hlt | heq
  · exact .inl hlt
  · exact .inr ⟨heq, hstable (decide_eq_true (Int.le_of_eq heq.symm))⟩

end PromptPress.Order
