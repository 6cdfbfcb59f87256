import PromptPress.Proofs.Catalog.Ranking
import PromptPress.Proofs.Text.Lower
import PromptPress.Proofs.Text.Pieces

/-!
# What a search finds

A template mentions a query if the query occurs, up to case, in its name, its slug, its description or one of
its tags. A search for a query finds a template that mentions it in its name, its slug or its description,
but of the tags it asks that one of them *is* the query (`Template.score_pos_iff`). So it finds all mentions
exactly if no template of the index has the query only inside a longer tag (`Search.findsMentions_iff`).
-/

namespace PromptPress.Catalog

open Text

/-! ### Mentions -/

/-- Up to case, a query occurs in a text. -/
def IsIn (query text : String) : Prop :=
  lower query.toList <:+: lower text.toList

instance (query text : String) : Decidable (IsIn query text) :=
  decidable_of_iff _ occursIn_iff

namespace Template

variable {t : Template} {query : String}

/-- A query occurs in the texts that describe a template. -/
def IsDescribedBy (t : Template) (query : String) : Prop :=
  IsIn query t.name ∨ IsIn query t.slug ∨ ∃ description ∈ t.description, IsIn query description

/-- A query is a tag of a template, up to case. -/
def IsTagged (t : Template) (query : String) : Prop :=
  ∃ tag ∈ t.tags, lower tag.toList = lower query.toList

/-- A query occurs in the texts that describe a template, or in a tag. -/
def Mentions (t : Template) (query : String) : Prop :=
  t.IsDescribedBy query ∨ ∃ tag ∈ t.tags, IsIn query tag

instance (t : Template) (query : String) : Decidable (t.IsDescribedBy query) :=
  inferInstanceAs (Decidable (_ ∨ _ ∨ _))

instance (t : Template) (query : String) : Decidable (t.IsTagged query) :=
  inferInstanceAs (Decidable (∃ tag ∈ t.tags, lower tag.toList = lower query.toList))

instance (t : Template) (query : String) : Decidable (t.Mentions query) :=
  inferInstanceAs (Decidable (_ ∨ _))

/-- A query that is a tag occurs in that tag. -/
theorem IsTagged.mentions (h : t.IsTagged query) : t.Mentions query := by
  obtain ⟨tag, htag, heq⟩ := h
  have hin : lower query.toList <:+: lower tag.toList := heq ▸ List.infix_rfl
  exact .inr ⟨tag, htag, hin⟩

/-! ### Scores -/

theorem occurs_iff (query text : String) : occurs (lowerString query) text = true ↔ IsIn query text := by
  rw [occurs, lowerString, lowerString, String.toList_ofList, String.toList_ofList, occursIn_iff]
  rfl

/-- A description that is missing counts as an empty one, in which no query occurs. -/
theorem occurs_description_iff (hquery : query ≠ "") (description : Option String) :
    occurs (lowerString query) (description.getD "") = true ↔ ∃ text ∈ description, IsIn query text := by
  rw [occurs_iff]
  cases description with
  | some text => simp
  | none =>
    have hne : lower query.toList ≠ [] := lower_ne_nil (by simpa using hquery)
    simpa [IsIn, lower, lowerAfter] using hne

theorem contains_tags_iff (t : Template) (query : String) :
    (t.tags.map lowerString).contains (lowerString query) = true ↔ t.IsTagged query := by
  rw [List.contains_iff_mem, List.mem_map]
  simp only [lowerString, String.ofList_inj, IsTagged]

/-- **When a template has a score** for a query: the query occurs in what describes the template, or is a
tag of it. -/
theorem score_pos_iff (hquery : query ≠ "") (t : Template) :
    0 < t.score query ↔ t.IsDescribedBy query ∨ t.IsTagged query := by
  have hscore : 0 < t.score query ↔ t.hits query ≠ 0 := by
    rw [score]
    split <;> simp_all [Nat.pos_iff_ne_zero]
  rw [hscore, hits, ← contains_tags_iff, IsDescribedBy, ← occurs_iff, ← occurs_iff,
    ← occurs_description_iff hquery]
  -- the weights are positive, so the sum is zero just if no part of the template counts
  split_ifs <;> simp_all

end Template

/-! ### Searches for a query -/

namespace Search

/-- A search for a query alone. -/
def forQuery (query : String) (limit : Int) : Search :=
  { query := some query, limit := limit }

/-- A search finds exactly the templates that mention a query, each as often as it is in the index. -/
def FindsMentions (search : Search) (items : List Template) (query : String) : Prop :=
  (search.page items).Perm (items.filter (·.Mentions query))

instance (search : Search) (items : List Template) (query : String) :
    Decidable (search.FindsMentions items query) :=
  inferInstanceAs (Decidable (List.Perm _ _))

variable {query : String} {limit : Int} {items : List Template}

theorem finds_forQuery_iff (hquery : query ≠ "") (t : Template) :
    (forQuery query limit).finds t = true ↔ t.IsDescribedBy query ∨ t.IsTagged query := by
  have hwanted : wanted (some query) = some query := by
    rw [wanted]
    exact fun heq => hquery (Option.some.inj heq)
  have hpasses : (forQuery query limit).passes t = true := rfl
  rw [← Template.score_pos_iff hquery, finds, hpasses, forQuery, hwanted]
  simp

/-- A page with room for all templates of an index holds the whole ranking. -/
theorem page_eq_ranking {search : Search} (hoffset : search.offset = 0)
    (hlimit : items.length ≤ search.limit) : search.page items = search.ranking items := by
  have hlength : (search.ranking items).length ≤ items.length := by
    rw [ranking_eq, List.length_mergeSort]
    exact List.length_filter_le ..
  obtain ⟨n, hn⟩ := Int.eq_ofNat_of_zero_le (a := search.limit) (by omega)
  rw [page, hoffset, hn]
  refine (slice_natCast _ 0 n).trans ?_
  rw [List.drop_zero, List.take_of_length_le (by omega)]

/-- **What a search for a query finds**: the templates that the query describes, and those that have it as a
tag. -/
theorem page_forQuery_perm (hquery : query ≠ "") (hlimit : items.length ≤ limit) :
    ((forQuery query limit).page items).Perm
      (items.filter fun t => t.IsDescribedBy query ∨ t.IsTagged query) := by
  rw [page_eq_ranking rfl hlimit, ranking_eq]
  refine (List.mergeSort_perm _ _).trans (.of_eq (List.filter_congr fun t _ => ?_))
  rw [Bool.eq_iff_iff, finds_forQuery_iff hquery, decide_eq_true_iff]

/-- **When a search finds all mentions**: no template of the index has the query only inside longer tags. -/
theorem findsMentions_iff (hquery : query ≠ "") (hlimit : items.length ≤ limit) :
    (forQuery query limit).FindsMentions items query ↔
      ∀ t ∈ items, (∃ tag ∈ t.tags, IsIn query tag) → t.IsDescribedBy query ∨ t.IsTagged query := by
  have hfound := page_forQuery_perm hquery hlimit
  constructor
  · intro hmentions t ht htag
    have hmem : t ∈ items.filter (·.Mentions query) :=
      List.mem_filter.mpr ⟨ht, decide_eq_true (.inr htag)⟩
    have hpage := hfound.subset (hmentions.symm.subset hmem)
    exact of_decide_eq_true (List.mem_filter.mp hpage).2
  · intro hnone
    refine hfound.trans (.of_eq (List.filter_congr fun t ht => decide_eq_decide.mpr ⟨?_, ?_⟩))
    · rintro (hdescribed | htagged)
      · exact .inl hdescribed
      · exact htagged.mentions
    · rintro (hdescribed | htag)
      · exact .inl hdescribed
      · exact hnone t ht htag

/-- A query in other case that is a tag of one template and a part of the name and of a tag of another. -/
theorem findsMentions_heroes :
    let items : List Template := [{ slug := "a", name := "Home", tags := ["x", "HERO"] },
      { slug := "b", name := "Heroes", tags := ["heroes"] }, { slug := "c", name := "Card" }]
    "Hero" ≠ "" ∧ items.length ≤ (20 : Int) ∧
      (∀ t ∈ items, (∃ tag ∈ t.tags, IsIn "Hero" tag) → t.IsDescribedBy "Hero" ∨ t.IsTagged "Hero") ∧
      (forQuery "Hero" 20).FindsMentions items "Hero" := by
  intro items
  have htags : ∀ t ∈ items, (∃ tag ∈ t.tags, IsIn "Hero" tag) →
      t.IsDescribedBy "Hero" ∨ t.IsTagged "Hero" := by decide +kernel
  exact ⟨by decide, by decide, htags, (findsMentions_iff (by decide) (by decide)).mpr htags⟩

/-- A template that has the query inside a longer tag, and nowhere else, is not found. -/
theorem not_findsMentions_inside :
    ¬ (forQuery "land" 20).FindsMentions [{ slug := "home", name := "Home", tags := ["landing"] }]
      "land" := by
  decide +kernel

end Search

end PromptPress.Catalog
