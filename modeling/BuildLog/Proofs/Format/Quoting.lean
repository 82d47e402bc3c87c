import BuildLog.Format.CompilerText
import BuildLog.Format.Flake8
import BuildLog.Format.Pytest
import BuildLog.Proofs.Run
import Mathlib.Data.List.Forall2

/-! Events that quote the line they were read from. Where one line is read after the other, the
events quote lines in the order of the log, and no line twice. -/
namespace BuildLog

structure Event.Quotes (e : Event) (line : Line) : Prop where
  firstLine : e.firstLine = line.number
  lastLine : e.lastLine = line.number
  text : e.text = line.text

/-- The events quote some of the lines, each one line and in their order. -/
def QuotesInOrder (events : List Event) (lines : List Line) : Prop :=
  List.SublistForall₂ Event.Quotes events lines

theorem QuotesInOrder.exists_quoted {events : List Event} {lines : List Line}
    (quoting : QuotesInOrder events lines) {e : Event} (member : e ∈ events) :
    ∃ line ∈ lines, e.Quotes line := by
  unfold QuotesInOrder at quoting
  induction quoting with
  | nil => cases member
  | @cons _ line _ _ first _ ih =>
    obtain rfl | later := List.mem_cons.mp member
    · exact ⟨line, by simp, first⟩
    · obtain ⟨quoted, inside, quotes⟩ := ih later
      exact ⟨quoted, by simp [inside], quotes⟩
  | cons_right _ ih =>
    obtain ⟨quoted, inside, quotes⟩ := ih member
    exact ⟨quoted, by simp [inside], quotes⟩

namespace LineReader

def IsQuoting (read : LineReader) : Prop :=
  ∀ (line : Line) (id : Int) (e : Event),
    (read line.text line.number id).Returns (some e) → e.Quotes line

/-- Whatever relates an event to its line relates the events, in their order, to some lines. -/
theorem eventsFrom_inOrder {read : LineReader} {R : Event → Line → Prop}
    (related : ∀ line id e, (read line.text line.number id).Returns (some e) → R e line)
    {id : Int} {lines : List Line} {events : List Event}
    (done : (read.eventsFrom id lines).Returns events) : List.SublistForall₂ R events lines := by
  induction lines generalizing id events with
  | nil =>
    rw [← Run.returns_pure.mp done]
    exact .nil
  | cons line rest ih =>
    obtain ⟨event?, one, done⟩ := Run.returns_bind done
    cases event? with
    | none => exact .cons_right (ih done)
    | some e =>
      obtain ⟨later, others, done⟩ := Run.returns_bind done
      rw [← Run.returns_pure.mp done]
      exact .cons (related line id e one) (ih others)

theorem eventsFrom_quotes {read : LineReader} (quoting : read.IsQuoting) {id : Int}
    {lines : List Line} {events : List Event} (done : (read.eventsFrom id lines).Returns events) :
    QuotesInOrder events lines :=
  eventsFrom_inOrder quoting done

end LineReader

namespace Format

namespace CompilerText

theorem parseLine_isQuoting : LineReader.IsQuoting parseLine := by
  intro line id e done
  obtain ⟨d?, _, done⟩ := Run.returns_bind done
  obtain ⟨d, -, rfl⟩ := Option.map_eq_some_iff.mp (Run.returns_pure.mp done)
  exact ⟨rfl, rfl, rfl⟩

/-- A line that names a function is passed over; the name changes no quotation. -/
theorem eventsIn_quotes {function : String} {id : Int} {lines : List Line} {events : List Event}
    (done : (eventsIn function id lines).Returns events) : QuotesInOrder events lines := by
  induction lines generalizing function id events with
  | nil =>
    rw [← Run.returns_pure.mp done]
    exact .nil
  | cons line rest ih =>
    unfold eventsIn at done
    split at done
    · exact .cons_right (ih done)
    obtain ⟨event?, one, done⟩ := Run.returns_bind done
    cases event? with
    | none => exact .cons_right (ih done)
    | some e =>
      obtain ⟨later, others, done⟩ := Run.returns_bind done
      rw [← Run.returns_pure.mp done]
      have quotes := parseLine_isQuoting line id e one
      exact .cons ⟨quotes.firstLine, quotes.lastLine, quotes.text⟩ (ih others)

theorem parse_quotes {content : String} {events : List Event}
    (done : (format.parse content).Returns events) :
    QuotesInOrder events (Line.read Line.defaultLimit content) :=
  eventsIn_quotes done

end CompilerText

namespace Flake8

theorem parseLine_isQuoting : LineReader.IsQuoting parseLine := by
  intro line id e done
  unfold parseLine at done
  split at done
  · cases Run.returns_pure.mp done
  obtain ⟨n, _, done⟩ := Run.returns_bind done
  obtain ⟨m, _, done⟩ := Run.returns_bind done
  obtain rfl := Option.some.inj (Run.returns_pure.mp done)
  exact ⟨rfl, rfl, rfl⟩

/-- The summary behind the findings quotes no line. -/
theorem parse_quotes {content : String} {events : List Event}
    (done : (parse content).Returns events) :
    ∃ findings, events = findings ++ [summary findings] ∧
      QuotesInOrder findings (Line.read Line.defaultLimit content) := by
  obtain ⟨findings, read, done⟩ := Run.returns_bind done
  exact ⟨findings, (Run.returns_pure.mp done).symm,
    LineReader.eventsFrom_quotes parseLine_isQuoting read⟩

end Flake8

namespace Pytest

theorem parseLine_isQuoting : LineReader.IsQuoting parseLine := by
  intro line id e done
  obtain ⟨known, -, rfl⟩ := Option.map_eq_some_iff.mp (Run.returns_pure.mp done)
  exact ⟨rfl, rfl, rfl⟩

theorem parse_quotes {content : String} {events : List Event}
    (done : (format.parse content).Returns events) :
    QuotesInOrder events (Line.read Line.defaultLimit content) :=
  LineReader.eventsFrom_quotes parseLine_isQuoting done

end Pytest

end Format

end BuildLog
