import PromptPress.Slice
import PromptPress.Text.Lower
import PromptPress.Text.Pieces
import PromptPress.Time.Moment

/-!
# Searching templates

Templates are found by filters and a query.  A query scores every template by where it occurs; templates
with a score are listed by it, the others not at all.  Without a query all templates that pass the
filters are listed, the latest first.
-/

namespace PromptPress.Catalog

open PromptPress.Text PromptPress.Time

/-- What is known about a template of the catalog. -/
structure Template where
  slug : String
  name : String
  description : Option String := none
  type : String := "component"
  engine : Option String := none
  tags : List String := []
  updatedAt : Option Moment := none
deriving DecidableEq, Inhabited

namespace Template

/-- When a template was last changed, in microseconds of universal time; before all else if unknown. -/
def changed (t : Template) : Int :=
  (t.updatedAt.map Moment.instant).getD Moment.earliest.instant

/-- Whether a text occurs in another, up to case; the first is in lower case already. -/
def occurs (needle : String) (hay : String) : Bool :=
  occursIn needle.toList (lowerString hay).toList

/-- How well the parts of a template match a query: the name counts most, then the slug, tags that
equal the query, and the description. -/
def hits (t : Template) (query : String) : Nat :=
  let needle := lowerString query
  (if occurs needle t.name then 10 else 0) +
  (if occurs needle t.slug then 8 else 0) +
  (if occurs needle (t.description.getD "") then 4 else 0) +
  (if (t.tags.map lowerString).contains needle then 6 else 0)

/-- Whether a template takes parameters. -/
def isParametric (t : Template) : Bool :=
  lowerString (t.engine.getD "") == "hbs"

/-- The score of a template for a query; templates with parameters that match get a small boost. -/
def score (t : Template) (query : String) : Nat :=
  let hits := t.hits query
  if hits != 0 && t.isParametric then hits + 1 else hits

end Template

/-- What a search asks for; empty parts ask for nothing. -/
structure Search where
  query : Option String := none
  type : Option String := none
  engine : Option String := none
  tags : List String := []
  limit : Int := 20
  offset : Int := 0
deriving Inhabited

namespace Search

/-- A text that is given and not empty. -/
def wanted : Option String → Option String
  | some "" => none
  | text => text

/-- Whether a template passes the filters. -/
def passes (search : Search) (t : Template) : Bool :=
  ((wanted search.type).map (t.type == ·)).getD true &&
  ((wanted search.engine).map (t.engine == some ·)).getD true &&
  (search.tags.isEmpty || search.tags.any t.tags.contains)

/-- Whether the first of two templates with scores does not stand behind the second. -/
def inOrder (a b : Nat × Template) : Bool :=
  if a.1 = b.1 then b.2.changed ≤ a.2.changed else b.1 < a.1

/-- All templates that a search finds, in the order in which they are listed. -/
def ranking (search : Search) (items : List Template) : List Template :=
  let passing := items.filter search.passes
  match wanted search.query with
  | some query =>
    let scored := (passing.map fun t => (t.score query, t)).filter (0 < ·.1)
    (scored.mergeSort inOrder).map (·.2)
  | none => passing.mergeSort fun a b => b.changed ≤ a.changed

/-- The part of the ranking that a search asks for. -/
def page (search : Search) (items : List Template) : List Template :=
  slice (search.ranking items) search.offset (search.offset + search.limit)

/-- How many templates a search finds on all pages. -/
def total (search : Search) (items : List Template) : Nat :=
  (search.ranking items).length

end Search

end PromptPress.Catalog
