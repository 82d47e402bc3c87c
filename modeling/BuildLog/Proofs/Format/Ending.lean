import BuildLog.Format.Builtin
import BuildLog.Format.Rules
import BuildLog.Proofs.Line.Ending
import BuildLog.Proofs.Pattern.Spelling

/-! Formats that do not see how the lines of a log end. All formats that are always known are such,
and so are those of rules when they read a log. -/
namespace BuildLog

/-- Documents are looked for behind normalized terminators. -/
theorem Family.payload_normalize {family : Family} (document : family ≠ .text) (content : String) :
    family.payload (Line.normalize content) = family.payload content := by
  cases family with
  | text => exact absurd rfl document
  | json => simp only [payload, Line.toList_normalize, Line.normalizeChars_normalizeChars]
  | xml => simp only [payload, Line.toList_normalize, Line.normalizeChars_normalizeChars]

namespace Format

/-- Accepting and reading a log do not depend on the spelling of its terminators. -/
structure IsEndingBlind (f : Format) : Prop where
  acceptsLog : ∀ content, f.acceptsLog (Line.normalize content) = f.acceptsLog content
  run : ∀ s content, f.run s (Line.normalize content) = f.run s content

variable {f : Format}

theorem isEndingBlind_of_document (document : f.profile.family ≠ .text) : f.IsEndingBlind where
  acceptsLog content := by simp only [Format.acceptsLog, Family.payload_normalize document]
  run s content := by simp only [Format.run, Family.payload_normalize document]

theorem acceptsLog_normalize
    (accepts : ∀ content, f.accepts (Line.normalize content) = f.accepts content)
    (content : String) : f.acceptsLog (Line.normalize content) = f.acceptsLog content := by
  by_cases document : f.profile.family = .text
  · simp only [acceptsLog, document, Family.payload, accepts]
  · exact (isEndingBlind_of_document document).acceptsLog content

/-- Outside of documents a format that reads lines sees them without their terminators. -/
theorem run_normalize (parse : ∀ content, f.parse (Line.normalize content) = f.parse content)
    (within : ∀ read, f.parseWithin = some read →
      ∀ s content, read s (Line.normalize content) = read s content)
    (s : Surroundings) (content : String) :
    f.run s (Line.normalize content) = f.run s content := by
  by_cases document : f.profile.family = .text
  · simp only [run, document, Family.payload, Line.read_normalize, parse]
    cases reader : f.parseWithin with
    | none => rfl
    | some read => exact within read reader s content
  · exact (isEndingBlind_of_document document).run s content

/-- A format that sees nothing but the log is blind if its reading of the whole log is. -/
theorem isEndingBlind_of_parse (alone : f.parseWithin = none)
    (accepts : ∀ content, f.accepts (Line.normalize content) = f.accepts content)
    (parse : ∀ content, f.parse (Line.normalize content) = f.parse content) :
    f.IsEndingBlind where
  acceptsLog := acceptsLog_normalize accepts
  run := run_normalize parse fun read given => by
    rw [alone] at given
    cases given

section Lines

variable (profile : Profile) (accepts : String → Run Bool) (parseLine : LineReader)
  (parseLines : List Line → Run (List Event))

theorem ofLines_run_normalize (s : Surroundings) (content : String) :
    (ofLines profile accepts parseLine parseLines).run s (Line.normalize content) =
      (ofLines profile accepts parseLine parseLines).run s content := by
  apply run_normalize
  · intro content
    simp only [ofLines, Line.read_normalize]
  · intro read given
    cases given

variable {accepts}

theorem ofLines_isEndingBlind
    (blind : ∀ content, accepts (Line.normalize content) = accepts content) :
    (ofLines profile accepts parseLine parseLines).IsEndingBlind where
  acceptsLog := acceptsLog_normalize blind
  run := ofLines_run_normalize profile accepts parseLine parseLines

end Lines

theorem compilerText_isEndingBlind : CompilerText.format.IsEndingBlind :=
  ofLines_isEndingBlind _ _ _ fun content => by
    simp only [CompilerText.accepts, Line.read_normalize]

theorem anyLint_isEndingBlind : AnyLint.format.IsEndingBlind :=
  ofLines_isEndingBlind _ _ _ fun content => by simp only [AnyLint.accepts, Line.read_normalize]

theorem prefixed_isEndingBlind : Prefixed.format.IsEndingBlind :=
  ofLines_isEndingBlind _ _ _ fun content => by simp only [Prefixed.accepts, Line.read_normalize]

theorem syslog_isEndingBlind [Host] : Syslog.format.IsEndingBlind :=
  ofLines_isEndingBlind _ _ _ fun content => by simp only [Syslog.accepts, Line.read_normalize]

theorem logfmt_isEndingBlind [Host] : Logfmt.format.IsEndingBlind :=
  ofLines_isEndingBlind _ _ _ fun content => by simp only [Logfmt.accepts, Line.read_normalize]

theorem jsonLines_isEndingBlind [Host] : JsonLines.format.IsEndingBlind :=
  ofLines_isEndingBlind _ _ _ fun content => by simp only [JsonLines.accepts, Line.read_normalize]

theorem logRecord_isEndingBlind [Host] : LogRecord.format.IsEndingBlind :=
  ofLines_isEndingBlind _ _ _ fun content => by simp only [LogRecord.accepts, Line.read_normalize]

theorem junit_isEndingBlind : Junit.format.IsEndingBlind := isEndingBlind_of_document (by decide)

theorem eslint_isEndingBlind [Host] : Eslint.format.IsEndingBlind :=
  isEndingBlind_of_document (show Eslint.profile.family ≠ .text by decide)

theorem pytest_isEndingBlind : Pytest.format.IsEndingBlind := by
  have colons : Line.IsInside "::".toList := by decide
  apply isEndingBlind_of_parse rfl
  · intro content
    simp only [Pytest.format, Pytest.accepts, Line.read_normalize, Text.contains_normalize colons]
  · intro content
    simp only [Pytest.format, Line.read_normalize]

theorem ciJob_isEndingBlind : CiJob.format.IsEndingBlind := by
  have header : Line.IsInside CiJob.headerMark.toList := by decide
  have error : Line.IsInside CiJob.Remark.error.mark.toList := by decide
  have groupEnd : Line.IsInside CiJob.groupEndMark.toList := by decide
  have parse (s : Surroundings) (content : String) :
      CiJob.parse s (Line.normalize content) = CiJob.parse s content := by
    simp only [CiJob.parse, CiJob.entries, Line.read_normalize]
  constructor
  · apply acceptsLog_normalize
    intro content
    simp only [CiJob.format, CiJob.accepts, Text.contains_normalize header,
      Text.contains_normalize error, Text.contains_normalize groupEnd]
  · apply run_normalize
    · exact parse {}
    · intro read given
      obtain rfl := Option.some.inj given
      exact parse

section Mention

open Pattern (Node CharClass)

def mentionFront : Node :=
  .cat (.literal ".py") (.cat Flake8.colonNumber (.cat Flake8.colonNumber (.char ':')))

def mentionBack : Node := .cat (.one (.oneOf "FEWC")) Flake8.atLeastThreeDigits

/-- Every text that the tree spells is a piece of a line. -/
def staysInside (node : Node) : Bool := node.takes && node.avoids '\r' && node.avoids '\n'

theorem isInside_of_spells {node : Node} (stays : staysInside node = true) {u : List Char}
    (spelled : node.Spells u) : Line.IsInside u := by
  simp only [staysInside, Bool.and_eq_true] at stays
  obtain ⟨⟨taken, noReturn⟩, noFeed⟩ := stays
  refine ⟨spelled.ne_nil taken, fun c member => ⟨?_, ?_⟩⟩
  · rintro rfl
    exact spelled.avoid noReturn member
  · rintro rfl
    exact spelled.avoid noFeed member

theorem spells_mention (u : List Char) :
    Flake8.mention.root.Spells u ↔ ∃ front between back, u = front ++ between ++ back ∧
      mentionFront.Spells front ∧ between.all Text.isBlank = true ∧ mentionBack.Spells back := by
  constructor
  · rintro ⟨name, _, rfl, named, line, _, rfl, numbered, column, _, rfl, placed, colon, _, rfl,
      closed, between, back, rfl, ⟨-, -, blank⟩, coded⟩
    refine ⟨name ++ (line ++ (column ++ colon)), between, back, by simp, ?_, ?_, coded⟩
    · exact ⟨name, _, rfl, named, line, _, rfl, numbered, column, colon, rfl, placed, closed⟩
    · simpa only [List.all_eq_true, Pattern.blanks_has] using blank
  · rintro ⟨_, between, back, rfl, ⟨name, _, rfl, named, line, _, rfl, numbered, column, colon, rfl,
      placed, closed⟩, blank, coded⟩
    refine ⟨name, line ++ (column ++ (colon ++ (between ++ back))), by simp, named, line, _, rfl,
      numbered, column, _, rfl, placed, colon, _, rfl, closed, between, back, rfl, ?_, coded⟩
    refine ⟨Nat.zero_le _, nofun, ?_⟩
    simpa only [List.all_eq_true, Pattern.blanks_has] using blank

/-- The blanks of a mention may span lines; the terminators among them count as blanks. -/
theorem mention_finds_normalize (content : String) :
    Flake8.mention.finds (Line.normalize content) = Flake8.mention.finds content := by
  have plain : Flake8.mention.root.isPlain = true := by decide
  have opens : staysInside mentionFront = true := by decide
  have closes : staysInside mentionBack = true := by decide
  have pieces (cs : List Char) : (∃ u, Flake8.mention.root.Spells u ∧ u <:+: cs) ↔
      ∃ front back, mentionFront.Spells front ∧ mentionBack.Spells back ∧
        ∃ between, between.all Text.isBlank = true ∧ front ++ between ++ back <:+: cs := by
    simp only [spells_mention]
    constructor
    · rintro ⟨_, ⟨front, between, back, rfl, opened, blank, closed⟩, inside⟩
      exact ⟨front, back, opened, closed, between, blank, inside⟩
    · rintro ⟨front, back, opened, closed, between, blank, inside⟩
      exact ⟨_, ⟨front, between, back, rfl, opened, blank, closed⟩, inside⟩
  rw [Bool.eq_iff_iff, Pattern.finds_iff plain, Pattern.finds_iff plain, pieces, pieces,
    Line.toList_normalize]
  refine exists_congr fun front => exists_congr fun back => and_congr_right fun opened =>
    and_congr_right fun closed => ?_
  exact Line.infix_normalizeChars_around (isInside_of_spells opens opened)
    (isInside_of_spells closes closed) content.toList

end Mention

theorem flake8_isEndingBlind : Flake8.format.IsEndingBlind := by
  apply isEndingBlind_of_parse rfl
  · intro content
    simp only [Flake8.format, mention_finds_normalize]
  · intro content
    simp only [Flake8.format, Flake8.parse, Line.read_normalize]

/-- No format that is always known sees how lines end. -/
theorem builtins_isEndingBlind [Host] : ∀ f ∈ builtins, f.IsEndingBlind := by
  simp only [builtins, List.forall_mem_cons, List.not_mem_nil, false_imp_iff, implies_true,
    and_true]
  exact ⟨ciJob_isEndingBlind, junit_isEndingBlind, eslint_isEndingBlind,
    compilerText_isEndingBlind, flake8_isEndingBlind, pytest_isEndingBlind,
    jsonLines_isEndingBlind, logfmt_isEndingBlind, syslog_isEndingBlind, logRecord_isEndingBlind,
    prefixed_isEndingBlind, anyLint_isEndingBlind⟩

end Format

/-- What rules read in a log does not depend on how its lines end. -/
theorem RuleSet.run_normalize [Host] (rules : RuleSet) (s : Surroundings) (content : String) :
    rules.format.run s (Line.normalize content) = rules.format.run s content :=
  Format.ofLines_run_normalize _ _ _ _ s content

end BuildLog
