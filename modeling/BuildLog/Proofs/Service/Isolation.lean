import BuildLog.Proofs.Resolution
import BuildLog.Service.Basic

/-! Requests to parse stay inside the registry. The check before reading goes through the parts of
the specifier by itself; what it lets pass is never resolved to a rule document, so files and pages
have no part in the answer. -/
namespace BuildLog

open Text

namespace Specifier

theorem ofText_eq_named {text name : String} (named : ofText text = .named name) :
    name = stripped text := by
  unfold ofText at named
  dsimp only at named
  split at named
  · cases named
  · split at named
    · cases named
    · split at named
      · cases named
      · exact (Specifier.named.inj named).symm

/-- What begins with the mark of a pattern is read as one. -/
theorem ofText_isPattern {text : String} (pattern : isPattern text = true) :
    ∃ source, ofText text = .pattern source := by
  have begins : patternMark.toList.isPrefixOf (stripped text).toList = true := pattern
  have not_word (word : String) (other : patternMark.toList.isPrefixOf word.toList = false) :
      stripped text ≠ word := by
    intro same
    rw [same, other] at begins
    cases begins
  have not_empty : stripped text ≠ "" := not_word "" (by decide)
  have not_unknown : stripped text ≠ "unknown" := not_word "unknown" (by decide)
  have not_auto : stripped text ≠ "auto" := not_word "auto" (by decide)
  exact ⟨String.ofList ((stripped text).toList.drop patternMark.toList.length),
    by simp [ofText, dropStart?, begins, not_empty, not_unknown, not_auto]⟩

end Specifier

theorem Registry.resolve_eq_document {g : Registry} {s : Specifier} {name : String}
    (resolved : g.resolve s = .document name) :
    s = .named name ∧ g.find? name = none ∧ Specifier.isDocument name = true := by
  cases s with
  | unknown => cases resolved
  | auto => cases resolved
  | pattern source => cases resolved
  | named n =>
    simp only [resolve] at resolved
    split at resolved
    · cases resolved
    · split at resolved
      · cases resolved
      next missing =>
        split at resolved
        next document =>
          cases resolved
          exact ⟨rfl, missing, document⟩
        · cases resolved

namespace Service

/-- No part of a specifier without references to rule documents is resolved to one. -/
theorem resolve_ne_document {g : Registry} {format : String} (clear : documentParts g format = [])
    {part : String} (member : part ∈ Specifier.parts format) (name : String) :
    g.resolve (.ofText part) ≠ .document name := by
  intro resolved
  obtain ⟨named, missing, document⟩ := Registry.resolve_eq_document resolved
  by_cases pattern : Specifier.isPattern format = true
  · simp only [Specifier.parts, pattern, if_true, List.mem_singleton] at member
    obtain ⟨source, read⟩ := Specifier.ofText_isPattern pattern
    rw [member, read] at named
    cases named
  · simp only [Specifier.parts, documentParts, pattern] at member clear
    have own := Specifier.ofText_eq_named named
    have unflagged := List.filter_eq_nil_iff.mp clear name
      (own ▸ List.mem_map_of_mem member)
    simp [document, Registry.has, missing] at unflagged

/-- A request to parse that passes the checks is resolved inside the registry, part by part; its
answer is the same whatever files and pages there are. -/
theorem parse_stays_inside [Host] (s : Service) (log : Body.Log) :
    (documentParts s.registry log.format = [] →
      ∀ part ∈ Specifier.parts log.format, ∀ name,
        s.registry.resolve (.ofText part) ≠ .document name) ∧
    ∀ w : World, ({ s with world := w } : Service).parse log = s.parse log := by
  refine ⟨fun clear part member name => resolve_ne_document clear member name, fun w => ?_⟩
  obtain ⟨g, limit, world⟩ := s
  by_cases clear : documentParts g log.format = []
  · have same : (Service.context ⟨g, limit, w⟩).parse log.content log.format =
        (Service.context ⟨g, limit, world⟩).parse log.content log.format := by
      apply Context.parse_congr
      · rfl
      · rfl
      · exact fun part member name => resolve_ne_document clear member name
    simp only [parse, same]
  · have flagged : (documentParts g log.format).isEmpty = false := by simpa using clear
    simp only [parse, flagged, Bool.not_false, if_true]

/-- A format whose name looks like that of a rule document is found in the registry. -/
theorem parse_stays_inside_lookalike :
    let g := Registry.standard.register { Format.CompilerText.format with
      profile := { Format.CompilerText.profile with format := "rules.json" } }
    documentParts g "missing, rules.json" = [] ∧
    ∀ part ∈ Specifier.parts "missing, rules.json", ∀ name,
      g.resolve (.ofText part) ≠ .document name := by
  intro g
  have clear : documentParts g "missing, rules.json" = [] := by decide
  exact ⟨clear, (parse_stays_inside ⟨g, 2000, {}⟩ ⟨"", "missing, rules.json"⟩).1 clear⟩

end Service

end BuildLog
