import PromptPress.Proofs.Build.Overwriting
import PromptPress.Proofs.Prompt.Document
import PromptPress.Proofs.Prompt.Rereading

/-!
# Slugs of prompts

A prompt comes from a record or from a document. In both cases its slug is made from some text, so it
is a slug of lower case words if there is one (`isSlug_of_read`). A build makes a slug of its own for a
prompt without one, in another way; it is made of lower case words all the same
(`isSlug_of_read_of_buildIn`).
-/

namespace PromptPress.Prompt

open Text PromptPress.Path

variable {p : Prompt} {remarks : List Warning} {text : String} {tree : FileTree} {b : Build}

theorem slug_of_ofDocument {doc : Document} (h : ofDocument doc = .ok (p, remarks)) :
    ∃ source, p.slug = nonEmpty? (slugify source) := by
  simp only [ofDocument, Outcome.bind_eq_ok_iff] at h
  obtain ⟨content, -, fence, -, hprompt⟩ := h
  have hslug := congrArg (·.1.slug) (Except.ok.inj hprompt)
  dsimp only at hslug
  exact ⟨_, hslug.symm⟩

/-- **The slug of a prompt that was read** is made of lower case words. -/
theorem isSlug_of_read [Interpreter] (h : read text = .ok (p, remarks)) : ∀ slug ∈ p.slug, IsSlug slug := by
  obtain ⟨source, hsource⟩ : ∃ source, p.slug = nonEmpty? (slugify source) := by
    rcases read_eq_ok h with ⟨-, -, value, hvalue⟩ | ⟨-, hdoc⟩
    · exact (ofJson_eq_ok hvalue).2.2.2
    · exact slug_of_ofDocument hdoc
  intro slug hslug
  rw [hsource, nonEmpty?] at hslug
  split at hslug
  · cases hslug
  · next hne =>
    obtain rfl := Option.some.inj hslug
    exact isSlug_slugify hne

/-! ### Slugs of builds -/

theorem slug_of_buildIn (h : p.buildIn tree = .ok b) : b.slug = p.buildSlug := by
  rw [buildIn] at h
  split at h
  · cases h
  · obtain ⟨draft, -, rfl⟩ := Outcome.map_eq_ok_iff.mp h
    rfl

/-- **Slugs are safe.** The slug of a prompt that was read from a text, if it has one, is made of lower
case words, so that making a slug from it changes nothing; and so is the slug of every build of the
prompt, whatever the tree it is built in holds. -/
theorem isSlug_of_read_of_buildIn [Interpreter] (h : read text = .ok (p, remarks)) :
    (∀ slug ∈ p.slug, IsSlug slug ∧ slugify slug = slug) ∧
      ∀ tree b, p.buildIn tree = .ok b → IsSlug b.slug := by
  have hslug := isSlug_of_read h
  refine ⟨fun slug hmem => ⟨hslug slug hmem, (hslug slug hmem).slugify_eq⟩, fun tree b hbuild => ?_⟩
  rw [slug_of_buildIn hbuild]
  exact isSlug_buildSlug hslug

/-- A title with a sign for kelvin and a capital with a dot above, which have letters of ASCII in lower
case. -/
theorem isSlug_of_read_of_buildIn_folded :
    let text := "# \u212Ait \u0130zmir\n## Component\n\x60\x60\x60\nexport\n\x60\x60\x60"
    ∃ p remarks b, read text = .ok (p, remarks) ∧ p.slug = some "kit-i-zmir" ∧
      p.buildIn {} = .ok b ∧ IsSlug b.slug ∧ ∀ slug ∈ p.slug, IsSlug slug ∧ slugify slug = slug := by
  intro text
  have hbuilt : ((read text).bind fun result =>
      ((result.1.buildIn {}).map fun b => (result.1.slug, b)).mapError fun _ => default).toOption.map
        (·.1) = some (some "kit-i-zmir") := by
    decide +kernel
  obtain ⟨⟨slug, b⟩, hok, hslug⟩ := Outcome.exists_of_map_toOption hbuilt
  obtain ⟨⟨p, remarks⟩, hread, hresult⟩ := Outcome.bind_eq_ok_iff.mp hok
  obtain ⟨b, hbuild, heq⟩ := Outcome.map_eq_ok_iff.mp (Outcome.mapError_eq_ok_iff.mp hresult)
  obtain ⟨rfl, rfl⟩ := Prod.mk.inj heq
  obtain ⟨hprompt, hbuilds⟩ := isSlug_of_read_of_buildIn hread
  exact ⟨p, remarks, b, hread, hslug, hbuild, hbuilds {} b hbuild, hprompt⟩

/-- A record with a name from which no slug comes. -/
example : (read ("\x7b\"name\": \"\u4F60\u597D\", " ++
    "\"component\": \x7b\"code\": \"export\"\x7d\x7d")).toOption.map
      (fun result => (result.1.slug, result.1.buildSlug)) = some (none, "component") := by
  decide +kernel

end PromptPress.Prompt
