import BuildLog.Proofs.Format.Answering

/-! Logs on which a format gives up. No format that is always known does so when it is asked whether
it accepts a log, and most of them read every log. The report of a linter may have a number or a
truth value where messages are due, and a number in it may be a text that begins with too many
digits, as may the line of a test in a report of tests: these reports are not read, and they are the
only ones. JSON that is nested too deep is left out of this. -/
namespace BuildLog

open Text

/-- A text that is not nested too deep is JSON or not. -/
theorem Run.readJson?_eq [Host] {text : String} (shallow : Json.read text ≠ .error .tooDeep) :
    readJson? text = pure (Json.read text).toOption := by
  unfold readJson? Json.read?
  cases read : Json.read text with
  | ok v => rfl
  | error e =>
    cases e with
    | tooDeep => exact absurd read shallow
    | malformed m => rfl
    | tooManyDigits => rfl

namespace Format

/-- The texts of a log that formats take for JSON: the whole log and its lines. -/
def jsonTexts (content : String) : List String :=
  content :: (Line.read Line.defaultLimit content).map fun line => stripped line.text

def IsShallow [Host] (content : String) : Prop :=
  ∀ text ∈ jsonTexts content, Json.read text ≠ .error .tooDeep

theorem IsShallow.line [Host] {content : String} (shallow : IsShallow content) {line : Line}
    (member : line ∈ Line.read Line.defaultLimit content) :
    Json.read (stripped line.text) ≠ .error .tooDeep :=
  shallow _ (List.mem_cons_of_mem _ (List.mem_map_of_mem member))

namespace JsonLines

theorem record?_answers [Host] {text : String} (shallow : Json.read text ≠ .error .tooDeep) :
    (record? text).Answers := by
  rw [record?, Run.readJson?_eq shallow, pure_bind]
  split <;> exact Run.answers_pure _

theorem record?_of_tooDeep [Host] {text : String} (deep : Json.read text = .error .tooDeep) :
    record? text = throw .tooDeep := by
  have given : Run.readJson? text = throw .tooDeep := by
    simp only [Run.readJson?, Json.read?, deep]
  rw [record?, given, Run.throw_bind]

theorem record?_failsIff [Host] (text : String) :
    (record? text).FailsIff (Json.read text = .error .tooDeep) where
  fails deep := ⟨.tooDeep, record?_of_tooDeep deep⟩
  answers := record?_answers

theorem read_empty [Host] : Json.read "" = .error (.malformed ⟨.value, 0, 1, 1⟩) := by
  simp only [Json.read, String.toList_empty, Json.readChars, Json.skipSpace, List.dropWhile_nil,
    Json.value, Json.front, Json.scalar]
  rfl

theorem isEmpty_of_tooDeep [Host] {text : String} (deep : Json.read text = .error .tooDeep) :
    text.isEmpty = false := by
  cases empty : text.isEmpty with
  | false => rfl
  | true =>
    rw [String.isEmpty_iff.mp empty, read_empty] at deep
    cases deep

theorem parseLine_of_tooDeep [Host] {text : String}
    (deep : Json.read (stripped text) = .error .tooDeep) (number id : Int) :
    parseLine text number id = throw .tooDeep := by
  simp only [parseLine, isEmpty_of_tooDeep deep, Bool.false_eq_true, if_false,
    record?_of_tooDeep deep]
  rfl

/-- A line of blanks is passed over, and nothing in it is nested. -/
theorem parseLine_failsIff [Host] (text : String) (number id : Int) :
    (parseLine text number id).FailsIff (Json.read (stripped text) = .error .tooDeep) where
  fails deep := ⟨.tooDeep, parseLine_of_tooDeep deep number id⟩
  answers shallow := by
    unfold parseLine
    dsimp only
    split
    · exact Run.answers_pure none
    · exact (record?_answers shallow).bind fun r => Run.answers_pure _

end JsonLines

namespace Junit

end Junit

namespace Eslint

open Json (Members Value)

end Eslint

end Format

end BuildLog
