import PromptPress.Catalog.Search
import PromptPress.Event.Bus

/-!
# The catalog index

The index holds the templates of the last load that succeeded.  A refresher loads it again whenever
an import is reported: as often as its limit allows until a load succeeds, and never so that the
reported import fails.
-/

namespace PromptPress.Catalog

/-- Why the index is loaded. -/
structure RefreshContext where
  reason : String
  importId : Option String := none
  templateId : Option String := none
  requestId : Option String := none
deriving DecidableEq, Inhabited

/-- The templates of the last load, and what it was for. -/
structure Index where
  items : List Template := []
  lastRefresh : Option RefreshContext := none
deriving DecidableEq, Inhabited

namespace Index

/-- Replaces the templates by those of a load. -/
def refresh (_ : Index) (context : RefreshContext) (loaded : List Template) : Index :=
  ⟨loaded, some context⟩

/-- Empties the index. -/
def reset (_ : Index) : Index :=
  {}

end Index

/-! ### Refreshing after imports -/

/-- How a refresher works. -/
structure RefreshOptions where
  enabled : Bool := true
  /-- How often a load that failed is tried again. -/
  retryLimit : Int := 3
deriving DecidableEq, Inhabited

/-- What a refresher was set up with, what it works with now, and whether it listens. -/
structure Refresher where
  defaults : RefreshOptions := {}
  options : RefreshOptions := {}
  attached : Bool := false
deriving DecidableEq, Inhabited

/-- The reason that refreshes after imports give. -/
def importReason : String := "template-imported"

/-- The context of the refresh after an import; it names the first component, else the first page. -/
def contextOf (payload : Event.Imported) : RefreshContext :=
  { reason := importReason
    importId := some payload.importId
    templateId := if payload.components.isEmpty then payload.pages.head? else payload.components.head?
    requestId := payload.requestId }

/-- Loads until a load succeeds, at most so many times; the answer says whether one did. -/
def loadWithin {σ : Type} (load : RefreshContext → σ → σ × Bool) (context : RefreshContext) :
    Nat → σ → σ × Bool
  | 0, state => (state, false)
  | attempts + 1, state =>
    match load context state with
    | (state, true) => (state, true)
    | (state, false) => loadWithin load context attempts state

/-- Loads once and again after failures, up to a number of repetitions. -/
def refreshWithRetry {σ : Type} (load : RefreshContext → σ → σ × Bool) (payload : Event.Imported)
    (retries : Int) (state : σ) : σ × Bool :=
  loadWithin load (contextOf payload) (retries + 1).toNat state

namespace Refresher

/-- A refresher that does not listen yet. -/
def create (options : RefreshOptions) : Refresher :=
  { defaults := options, options := options }

/-- The message for a retry limit below zero. -/
def negativeLimitMessage : String := "retry_limit must be >= 0"

/-- Changes the options that are given; none if the retry limit is below zero. -/
def configure? (r : Refresher) (enabled : Option Bool) (retryLimit : Option Int) : Option Refresher :=
  if retryLimit.any (· < 0) then none
  else
    some { r with
      options :=
        { enabled := enabled.getD r.options.enabled
          retryLimit := retryLimit.getD r.options.retryLimit } }

/-- Goes back to the options of the setup. -/
def resetConfig (r : Refresher) : Refresher :=
  { r with options := r.defaults }

variable {L : Type}

/-- Begins to listen for imports on a bus, as a listener, unless it listens already. -/
def attach (r : Refresher) (self : L) (bus : Event.Bus L) : Refresher × Event.Bus L :=
  if r.attached then (r, bus)
  else ({ r with attached := true }, (bus.on .imported self).1)

/-- Stops to listen. -/
def detach [DecidableEq L] (r : Refresher) (self : L) (bus : Event.Bus L) :
    Refresher × Event.Bus L :=
  if r.attached then ({ r with attached := false }, bus.off .imported ⟨self, none⟩)
  else (r, bus)

/-- Answers an import with a refresh, unless refreshes are disabled. -/
def handle {σ : Type} (r : Refresher) (load : RefreshContext → σ → σ × Bool)
    (payload : Event.Imported) (state : σ) : σ :=
  if r.options.enabled then (refreshWithRetry load payload r.options.retryLimit state).1 else state

end Refresher

end PromptPress.Catalog
