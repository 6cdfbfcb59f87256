import PromptPress.Prompt.Markdown
import PromptPress.Proofs.Text.Pieces

/-!
# Scanning fences that are written down

A scan reads a text from left to right, so each law here takes one part off the front: a part
without a backtick only moves what follows (`next?_append`), and a written fence is found as it
stands (`next?_written`). The conditions on a written fence are the two that a scan depends on: the
info text stays on its line, and the closing marker does not begin earlier, not even with backticks
at the end of the body.

Both the spans of the fences and the number of markers follow from these two laws.
-/

namespace PromptPress

open Text

namespace Fence

/-- A fence as it is written, from the first character of its first marker to the last one of its
second. -/
def written (info body : List Char) : List Char :=
  fenceMarker ++ info ++ '\n' :: body ++ fenceMarker

/-- The closing marker of a fence with this body is the first one after it opens. -/
def IsClosed (body : List Char) : Prop :=
  ¬ fenceMarker <:+: body ++ fenceMarker.dropLast

variable {plain info body : List Char}

theorem length_written (info body : List Char) :
    (written info body).length = (⟨[], info, body⟩ : Fence).size := by
  simp only [written, fenceMarker, size, List.length_append, List.length_cons, List.length_nil]
  omega

/-- A body that ends its last line is closed as soon as it holds no marker. -/
theorem isClosed_concat_newline (h : ¬ fenceMarker <:+: body) : IsClosed (body ++ ['\n']) := by
  rw [IsClosed, List.append_assoc, List.singleton_append, infix_append_cons_iff (by decide)]
  rintro (h' | h')
  · exact h h'
  · exact absurd h'.length_le (by decide)

/-! ### The first fence -/

private theorem splitAt?_fenceMarker_append (h : '\x60' ∉ plain) (s : List Char) :
    splitAt? fenceMarker (plain ++ s) =
      (splitAt? fenceMarker s).map fun (before, after) => (plain ++ before, after) := by
  induction plain with
  | nil => simp
  | cons c cs ih =>
    simp only [List.mem_cons, not_or] at h
    have hstart : dropStart? fenceMarker (c :: (cs ++ s)) = none := by
      simp [fenceMarker, dropStart?, h.1]
    rw [List.cons_append, splitAt?, hstart, ih h.2]
    simp [Function.comp_def]

/-- Text without backticks belongs to what stands before the next fence. -/
theorem next?_append (h : '\x60' ∉ plain) (s : List Char) :
    next? (plain ++ s) = (next? s).map fun (fence, after) =>
      ({ fence with before := plain ++ fence.before }, after) := by
  simp only [next?, Option.bind_eq_bind, splitAt?_fenceMarker_append h]
  cases splitAt? fenceMarker s with
  | none => rfl
  | some found =>
    simp only [Option.map_some, Option.bind_some]
    cases splitAtChar? (· == '\n') found.2 with
    | none => rfl
    | some line =>
      simp only [Option.bind_some]
      cases splitAt? fenceMarker line.2 <;> rfl

/-- A marker at the beginning of a text. -/
theorem splitAt?_marker (after : List Char) :
    splitAt? fenceMarker (fenceMarker ++ after) = some ([], after) := by
  have h : ¬ fenceMarker <:+: [] ++ fenceMarker.dropLast := by decide
  exact splitAt?_append h after

theorem next?_written (hinfo : '\n' ∉ info) (hbody : IsClosed body) (after : List Char) :
    next? (written info body ++ after) = some (⟨[], info, body⟩, after) := by
  have hopen : splitAt? fenceMarker (written info body ++ after) =
      some ([], info ++ '\n' :: (body ++ fenceMarker ++ after)) := by
    rw [← splitAt?_marker]
    simp [written]
  have hline : splitAtChar? (· == '\n') (info ++ '\n' :: (body ++ fenceMarker ++ after)) =
      some (info, body ++ fenceMarker ++ after) :=
    splitAtChar?_append (fun c hc => by simpa using fun e : c = '\n' => hinfo (e ▸ hc)) (by simp) _
  simp only [next?, Option.bind_eq_bind, hopen, Option.bind_some, hline,
    splitAt?_append hbody after]
  rfl

theorem next?_eq_none {s : List Char} (h : '\x60' ∉ s) : next? s = none := by
  rw [next?, splitAt?_eq_none (by decide) fun hs => h (hs.subset (by decide))]
  rfl

/-! ### The scan -/

theorem scan_of_next?_eq_none {s : List Char} (h : next? s = none) : scan s = ([], s) := by
  rw [scan]
  split
  · rfl
  · next hs => simp [h] at hs

theorem scan_of_next?_eq_some {s after : List Char} {fence : Fence}
    (h : next? s = some (fence, after)) : scan s = (fence :: (scan after).1, (scan after).2) := by
  rw [scan]
  split
  · next hs => simp [h] at hs
  · next hs =>
    obtain ⟨rfl, rfl⟩ := by simpa [h] using hs
    rfl

/-- The fences of a text whose start holds no backtick, up to what stands before the first. -/
theorem scan_append (h : '\x60' ∉ plain) (s : List Char) :
    (scan (plain ++ s)).1 = match (scan s).1 with
      | [] => []
      | fence :: fences => { fence with before := plain ++ fence.before } :: fences := by
  have hnext := next?_append h s
  cases hs : next? s with
  | none =>
    rw [hs] at hnext
    rw [scan_of_next?_eq_none hnext, scan_of_next?_eq_none hs]
  | some found =>
    obtain ⟨fence, after⟩ := found
    rw [hs] at hnext
    rw [scan_of_next?_eq_some hnext, scan_of_next?_eq_some hs]

theorem scan_written (hinfo : '\n' ∉ info) (hbody : IsClosed body) (s : List Char) :
    (scan (written info body ++ s)).1 = ⟨[], info, body⟩ :: (scan s).1 := by
  rw [scan_of_next?_eq_some (next?_written hinfo hbody s)]

theorem scan_of_not_mem {s : List Char} (h : '\x60' ∉ s) : (scan s).1 = [] := by
  rw [scan_of_next?_eq_none (next?_eq_none h)]

/-- What stands before a fence plays no part in what the fences of a text give. -/
theorem scan_map_append {α : Type} {f : Fence → α}
    (hf : ∀ fence before, f { fence with before } = f fence) (h : '\x60' ∉ plain) (s : List Char) :
    (scan (plain ++ s)).1.map f = (scan s).1.map f := by
  rw [scan_append h]
  cases (scan s).1 with
  | nil => rfl
  | cons fence fences => simp [hf fence]

/-! ### Spans -/

theorem spans_scan_append (h : '\x60' ∉ plain) (start : Nat) (s : List Char) :
    spans start (scan (plain ++ s)).1 = spans (start + plain.length) (scan s).1 := by
  rw [scan_append h]
  cases (scan s).1 with
  | nil => rfl
  | cons fence fences => simp [spans, size, Nat.add_assoc]

theorem spans_scan_written (hinfo : '\n' ∉ info) (hbody : IsClosed body) (start : Nat)
    (s : List Char) :
    spans start (scan (written info body ++ s)).1 =
      (start, start + (written info body).length) ::
        spans (start + (written info body).length) (scan s).1 := by
  rw [scan_written hinfo hbody, length_written]
  simp [spans]

theorem le_of_mem_spans {fences : List Fence} {start : Nat} {span : Nat × Nat}
    (h : span ∈ spans start fences) : start ≤ span.1 := by
  induction fences generalizing start with
  | nil => simp [spans] at h
  | cons fence fences ih =>
    rcases List.mem_cons.mp h with rfl | h
    · simp
    · have := ih h
      omega

/-! ### The number of markers -/

theorem countMarkers_append (h : '\x60' ∉ plain) (fuel : Nat) (s : List Char) :
    Prompt.countMarkers fuel (plain ++ s) = Prompt.countMarkers fuel s := by
  cases fuel with
  | zero => rfl
  | succ fuel =>
    rw [Prompt.countMarkers, Prompt.countMarkers, splitAt?_fenceMarker_append h]
    cases splitAt? fenceMarker s <;> rfl

/-- A fence whose info text holds no backtick has two markers. -/
theorem countMarkers_written (hinfo : '\x60' ∉ info) (hbody : IsClosed body) (fuel : Nat)
    (s : List Char) :
    Prompt.countMarkers (fuel + 2) (written info body ++ s) = Prompt.countMarkers fuel s + 2 := by
  have hopen : splitAt? fenceMarker (written info body ++ s) =
      some ([], (info ++ ['\n']) ++ (body ++ fenceMarker ++ s)) := by
    rw [← splitAt?_marker]
    simp [written]
  have hplain : '\x60' ∉ info ++ ['\n'] := by simpa using hinfo
  rw [Prompt.countMarkers, hopen]
  simp only
  rw [countMarkers_append hplain, Prompt.countMarkers, splitAt?_append hbody]

theorem countMarkers_of_not_mem {s : List Char} (h : '\x60' ∉ s) (fuel : Nat) :
    Prompt.countMarkers fuel s = 0 := by
  cases fuel with
  | zero => rfl
  | succ fuel =>
    rw [Prompt.countMarkers, splitAt?_eq_none (by decide) fun hs => h (hs.subset (by decide))]

end Fence

end PromptPress
