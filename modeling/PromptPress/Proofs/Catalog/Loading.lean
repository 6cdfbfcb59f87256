import Mathlib.Tactic.Common
import PromptPress.Service

/-!
# Loads that may fail

A loader answers the loads of a service one after another, each with templates or not at all, and
`Service.facing` is a service that finds these answers. A refresh loads until a load succeeds, as often as
its limit allows: one time more than loads fail before (`Catalog.attempts_eq_min`). It leaves in the index
the templates of the last load that succeeded, together with what that load was for
(`Service.isRefreshed_loadWithin`).
-/

namespace PromptPress

namespace Catalog

/-- What the loads give, one after another; none of a load that fails. -/
abbrev Loader := Nat → Option (List Template)

variable {loader : Loader} {first most : Nat}

/-! ### How many loads a refresh makes -/

/-- How many loads fail in a row, from one on, of so many at most. -/
def failuresWithin (loader : Loader) (first : Nat) : (most : Nat) → Nat
  | 0 => 0
  | most + 1 => if (loader first).isSome then 0 else failuresWithin loader (first + 1) most + 1

/-- How many loads are made from one on, if a load that succeeds is the last one. -/
def attempts (loader : Loader) (first most : Nat) : Nat :=
  min (failuresWithin loader first most + 1) most

theorem failuresWithin_of_none {j : Nat} (most : Nat) (h : ∀ i < j, loader (first + i) = none) :
    failuresWithin loader first (j + most) = j + failuresWithin loader (first + j) most := by
  induction j generalizing first with
  | zero => simp
  | succ j ih =>
    have hnext : ∀ i < j, loader (first + 1 + i) = none := fun i hi => by
      rw [Nat.add_right_comm]
      exact h (i + 1) (by omega)
    have hfirst : loader first = none := h 0 (by omega)
    rw [Nat.add_right_comm, failuresWithin, hfirst, if_neg (by simp), ih hnext]
    rw [Nat.add_right_comm first, Nat.add_assoc first]
    omega

theorem attempts_of_none (hfails : ∀ i < most, loader (first + i) = none) :
    attempts loader first most = most := by
  have hall := failuresWithin_of_none 0 hfails
  rw [attempts, ← Nat.add_zero most, hall, failuresWithin]
  omega

/-- **A refresh makes as many loads as it takes to succeed**, within its limit. -/
theorem attempts_eq_min {j : Nat} (hfails : ∀ i < j, loader (first + i) = none)
    (hsucceeds : (loader (first + j)).isSome) : attempts loader first most = min (j + 1) most := by
  rcases Nat.lt_or_ge j most with hlt | hge
  · obtain ⟨rest, rfl⟩ : ∃ rest, most = j + (rest + 1) := ⟨most - j - 1, by omega⟩
    rw [attempts, failuresWithin_of_none _ hfails, failuresWithin, if_pos hsucceeds, Nat.add_zero]
  · rw [attempts_of_none fun i hi => hfails i (by omega)]
    omega

theorem attempts_succ_of_none (h : loader first = none) :
    attempts loader first (most + 1) = attempts loader (first + 1) most + 1 := by
  rw [attempts, failuresWithin, h, if_neg (by simp), attempts]
  omega

theorem attempts_succ_of_some {items : List Template} (h : loader first = some items) :
    attempts loader first (most + 1) = 1 := by
  rw [attempts, failuresWithin, h, if_pos (by simp)]
  omega

/-! ### The index after loads -/

/-- An index holds what the last load gave that succeeded, and what that load was for; it is empty if no
load succeeded. -/
def Index.IsLastOf (index : Index) (loader : Loader) (loads : List RefreshContext) : Prop :=
  (index = {} ∧ ∀ i < loads.length, loader i = none) ∨
    ∃ i context items, loads[i]? = some context ∧ loader i = some items ∧
      index = ⟨items, some context⟩ ∧ ∀ j, i < j → j < loads.length → loader j = none

namespace Index.IsLastOf

variable {index : Index} {loads : List RefreshContext} {context : RefreshContext}

theorem nil : IsLastOf {} loader [] :=
  .inl ⟨rfl, fun _ hi => absurd hi (Nat.not_lt_zero _)⟩

theorem of_none (h : index.IsLastOf loader loads) (hfails : loader loads.length = none) :
    index.IsLastOf loader (loads ++ [context]) := by
  have hlast : ∀ j < (loads ++ [context]).length, j < loads.length ∨ j = loads.length := by
    intro j hj
    rw [List.length_append, List.length_singleton] at hj
    omega
  obtain ⟨rfl, hnone⟩ | ⟨i, context', items, hcontext, hitems, rfl, hnone⟩ := h
  · refine .inl ⟨rfl, fun j hj => ?_⟩
    obtain hj | rfl := hlast j hj
    · exact hnone j hj
    · exact hfails
  · refine .inr ⟨i, context', items, ?_, hitems, rfl, fun j hij hj => ?_⟩
    · rwa [List.getElem?_append_left (List.getElem?_eq_some_iff.mp hcontext).1]
    · obtain hj | rfl := hlast j hj
      · exact hnone j hij hj
      · exact hfails

theorem of_some {items : List Template} (hitems : loader loads.length = some items) :
    IsLastOf ⟨items, some context⟩ loader (loads ++ [context]) := by
  refine .inr ⟨loads.length, context, items, by simp, hitems, rfl, fun j hij hj => ?_⟩
  rw [List.length_append, List.length_singleton] at hj
  omega

end Index.IsLastOf

end Catalog

namespace Service

open Catalog

variable {loader : Loader} {context : RefreshContext} {most : Nat} {s t : Service}

/-! ### Refreshes of a service -/

/-- A service of which one more load was made. -/
def noted (context : RefreshContext) (s : Service) : Service :=
  { s with source := { s.source with loads := s.source.loads ++ [context] } }

/-- A service that finds the answers of a loader at its next loads, of so many at most. -/
def facing (loader : Loader) (most : Nat) (s : Service) : Service :=
  let first := s.source.loads.length
  let failures := failuresWithin loader first most
  { s with
    source := { s.source with
      rows := none
      failures := failures
      templates := (loader (first + failures)).getD [] } }

/-- A load that the loader does not answer fails, and the next one finds the next answer. -/
theorem load_facing_of_none (h : loader s.source.loads.length = none) :
    load context (s.facing loader (most + 1)) = ((s.noted context).facing loader most, false) := by
  simp only [facing, failuresWithin, h, load, noted, List.length_append, List.length_singleton]
  simp [Nat.add_assoc, Nat.add_comm 1]

/-- A load that the loader answers writes the answer into the index. -/
theorem load_facing_of_some {items : List Template} (h : loader s.source.loads.length = some items) :
    load context (s.facing loader (most + 1)) =
      ({ s with
          source := { templates := items, loads := s.source.loads ++ [context] }
          index := ⟨items, some context⟩ }, true) := by
  simp [facing, failuresWithin, h, load, TemplateSource.current, Index.refresh]

/-- What a refresh does: it changes only the source and the index. -/
structure IsRefreshed (loader : Loader) (context : RefreshContext) (most : Nat) (s t : Service) : Prop where
  rest : t = { s with source := t.source, index := t.index }
  loads : t.source.loads =
    s.source.loads ++ List.replicate (attempts loader s.source.loads.length most) context
  index : s.index.IsLastOf loader s.source.loads → t.index.IsLastOf loader t.source.loads
  unchanged : (∀ i < most, loader (s.source.loads.length + i) = none) → t.index = s.index

theorem isRefreshed_facing : IsRefreshed loader context 0 s (s.facing loader most) :=
  ⟨rfl, by simp [facing, attempts], id, fun _ => rfl⟩

/-- **A refresh loads until a load succeeds**, and leaves the last load that succeeded in the index. -/
theorem isRefreshed_loadWithin (loader : Loader) (context : RefreshContext) (most : Nat) (s : Service) :
    IsRefreshed loader context most s (loadWithin load context most (s.facing loader most)).1 := by
  induction most generalizing s with
  | zero => exact isRefreshed_facing
  | succ most ih =>
    cases h : loader s.source.loads.length with
    | none =>
      have hlength : (s.noted context).source.loads.length = s.source.loads.length + 1 := by
        simp [noted]
      -- the failed load is part of the history with which the loads that are left begin
      have hrest := ih (s.noted context)
      rw [loadWithin, load_facing_of_none h]
      refine ⟨hrest.rest, ?_, fun hlast => hrest.index (hlast.of_none h), fun hnone => ?_⟩
      · rw [hrest.loads, hlength, attempts_succ_of_none h, List.replicate_succ]
        simp [noted]
      · refine hrest.unchanged fun i hi => ?_
        rw [hlength, Nat.add_right_comm]
        exact hnone (i + 1) (by omega)
    | some items =>
      rw [loadWithin, load_facing_of_some h]
      refine ⟨rfl, ?_, fun _ => .of_some h, fun hnone => ?_⟩
      · rw [attempts_succ_of_some h]
        rfl
      · -- the first load did not fail
        have hfirst := hnone 0 (by omega)
        rw [Nat.add_zero, h] at hfirst
        cases hfirst

end Service

end PromptPress
