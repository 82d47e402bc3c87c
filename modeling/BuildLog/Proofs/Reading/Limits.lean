import BuildLog.Proofs.Format.Limits
import BuildLog.Proofs.Format.Overlong
import BuildLog.Proofs.Reading.Loaded

/-! The limit of a line's length in a reading. Formats that are handed the caller's limit read a log
as they read the lines that this limit leaves of it. The others, and patterns, cut lines under the
default limit whatever the caller says: what a smaller limit leaves of a log they may read
otherwise than the log. -/
namespace BuildLog

open Text

namespace Specifier

/-- Only what begins with the mark of a pattern is read as one. -/
theorem isPattern_of_ofText {text source : String} (marked : ofText text = .pattern source) :
    isPattern text = true := by
  cases plain : isPattern text with
  | true => rfl
  | false =>
    have unmarked : dropStart? patternMark.toList (stripped text).toList = none := by
      have begins : patternMark.toList.isPrefixOf (stripped text).toList = false := plain
      simp [dropStart?, begins]
    simp only [ofText, unmarked] at marked
    split at marked
    · cases marked
    · split at marked
      · cases marked
      · cases marked

end Specifier

namespace Format

theorem selfLimited_cases [Host] {f : Format} (known : f ∈ builtins)
    (own : f.profile.format ∈ selfLimited) : f = Flake8.format ∨ f = Pytest.format := by
  simp only [selfLimited, List.mem_cons, List.not_mem_nil, or_false] at own
  exact own.imp (Registry.builtin_eq_of_name known (by simp [builtins]))
    (Registry.builtin_eq_of_name known (by simp [builtins]))

/-- Formats that cut lines by themselves read some log otherwise than what a smaller limit than the
default one leaves of it. -/
theorem exists_run_delivered_ne [Host] {f : Format} (known : f ∈ builtins)
    (own : f.profile.format ∈ selfLimited) (s : Surroundings) {limit : Int}
    (smaller : Line.effectiveLimit limit < Line.effectiveLimit Line.defaultLimit) :
    ∃ content, f.run s (Line.delivered limit content) ≠ f.run s content := by
  rcases selfLimited_cases known own with rfl | rfl
  · have alone : Flake8.format.run s = Flake8.parse := rfl
    rw [alone]
    exact exists_delivered_ne Flake8.quotesWhole Flake8.quotesLines smaller
  · have alone : Pytest.format.run s = Pytest.format.parse := rfl
    rw [alone]
    exact exists_delivered_ne Pytest.quotesWhole Pytest.quotesLines smaller

end Format

namespace Context

structure NamesText [Host] (c : Context) (format : String) (f : Format) : Prop where
  whole : ',' ∉ format.toList
  named : ∃ r, c.registry.resolve (.ofText format) = .format r ∧ r.format = f
  known : f ∈ Format.builtins
  text : f.profile.family = .text

section

variable [Host] {c : Context} {format : String}

theorem NamesText.parse_eq {f : Format} (names : c.NamesText format f) (content : String) :
    c.parse content format = c.run f content := by
  obtain ⟨r, found, rfl⟩ := names.named
  exact parse_of_format names.whole found content

theorem parse_of_marked {source : String} (marked : Specifier.ofText format = .pattern source)
    (content : String) : c.parse content format = Format.AdHoc.parse source false content := by
  have pattern := Specifier.isPattern_of_ofText marked
  exact parse_of_single (Specifier.parts_of_isPattern pattern) marked content

/-- Every log is read as the lines are that the limit leaves of it. -/
def ReadsDelivered (c : Context) (format : String) : Prop :=
  ∀ content, c.parse (Line.delivered c.limit content) format = c.parse content format

theorem NamesText.readsDelivered_iff_enough {f : Format} (names : c.NamesText format f) :
    c.ReadsDelivered format ↔
      (f.profile.format ∈ Format.selfLimited →
        Line.effectiveLimit Line.defaultLimit ≤ Line.effectiveLimit c.limit) := by
  constructor
  · intro same own
    by_contra smaller
    obtain ⟨content, differs⟩ :=
      Format.exists_run_delivered_ne names.known own c.surroundings (Nat.lt_of_not_le smaller)
    apply differs
    have read := same content
    rwa [names.parse_eq, names.parse_eq] at read
  · intro enough content
    rw [names.parse_eq, names.parse_eq]
    apply Format.builtins_isBounded names.known names.text
    apply Line.delivered_agreeUnder
    rw [Format.keptLimit_builtins names.known names.text]
    by_cases own : f.profile.format ∈ Format.selfLimited
    · rw [if_pos own]
      exact enough own
    · rw [if_neg own]
      exact Nat.le_refl _

theorem readsDelivered_patterns_iff (c : Context) :
    (∀ format source, Specifier.ofText format = .pattern source → c.ReadsDelivered format) ↔
      Line.effectiveLimit Line.defaultLimit ≤ Line.effectiveLimit c.limit := by
  constructor
  · intro same
    by_contra smaller
    have marked : Specifier.ofText "regexp:x" = .pattern "x" := by decide
    obtain ⟨content, differs⟩ := exists_delivered_ne Format.AdHoc.quotesWhole
      (Format.AdHoc.quotesLines (by decide) false) (Nat.lt_of_not_le smaller)
    apply differs
    have read := same "regexp:x" "x" marked content
    rwa [parse_of_marked marked, parse_of_marked marked] at read
  · intro enough format source marked content
    rw [parse_of_marked marked, parse_of_marked marked]
    exact Format.AdHoc.parse_congr (Line.delivered_agreeUnder enough content) source false

/-- A format for text that is always known reads every log as it reads the lines that the limit
leaves of it, unless it cuts lines by itself and the limit is smaller than the default one. Patterns
do so only if the limit is not smaller. -/
theorem readsDelivered_iff (c : Context) :
    (∀ format f, c.NamesText format f →
      (c.ReadsDelivered format ↔
        (f.profile.format ∈ Format.selfLimited →
          Line.effectiveLimit Line.defaultLimit ≤ Line.effectiveLimit c.limit))) ∧
    ((∀ format source, Specifier.ofText format = .pattern source → c.ReadsDelivered format) ↔
      Line.effectiveLimit Line.defaultLimit ≤ Line.effectiveLimit c.limit) :=
  ⟨fun _ _ names => names.readsDelivered_iff_enough, c.readsDelivered_patterns_iff⟩

end

/-- Under a limit of twenty characters. -/
theorem readsDelivered_twenty :
    let c : Context := { limit := 20 }
    c.ReadsDelivered " gcc " ∧ ¬c.ReadsDelivered "flake8" ∧ ¬c.ReadsDelivered "pytest_text" ∧
      ∃ format source, Specifier.ofText format = .pattern source ∧ ¬c.ReadsDelivered format := by
  intro c
  have ⟨named, patterns⟩ := readsDelivered_iff c
  have smaller : ¬Line.effectiveLimit Line.defaultLimit ≤ Line.effectiveLimit c.limit := by decide
  have gcc : c.NamesText " gcc " Format.CompilerText.format :=
    ⟨by decide, ⟨⟨3, _⟩, rfl, rfl⟩, by simp [Format.builtins], rfl⟩
  have flake8 : c.NamesText "flake8" Format.Flake8.format :=
    ⟨by decide, ⟨⟨4, _⟩, rfl, rfl⟩, by simp [Format.builtins], rfl⟩
  have pytest : c.NamesText "pytest_text" Format.Pytest.format :=
    ⟨by decide, ⟨⟨5, _⟩, rfl, rfl⟩, by simp [Format.builtins], rfl⟩
  refine ⟨(named _ _ gcc).mpr fun own => absurd own (by decide), fun same => ?_, fun same => ?_, ?_⟩
  · exact smaller ((named _ _ flake8).mp same (by decide))
  · exact smaller ((named _ _ pytest).mp same (by decide))
  · by_contra all
    apply smaller
    apply patterns.mp
    intro format source marked
    by_contra differs
    exact all ⟨format, source, marked, differs⟩

end Context

end BuildLog
