import BuildLog.Proofs.Line.Stream
import BuildLog.Proofs.Resolution
import BuildLog.Proofs.Text.Blank

/-! Reading a file is reading its text. A file is read line by line if its specifier names one
format that can do so; what the specifier names is found out in a way of its own then. Both ways
agree, and so do the lines that come from the bytes with those of the text. -/
namespace BuildLog

open Text

namespace Specifier

theorem comma_not_mem {format : String} (whole : (stripped format).contains ',' = false) :
    ',' ∉ format.toList := by
  intro member
  have inside : ',' ∈ (stripped format).toList := by
    rw [stripped, String.toList_ofList]
    exact mem_trim (by decide) member
  simp [inside] at whole

/-- A text that is no pattern and has no meaning of its own is a name. -/
theorem ofText_of_plain {text : String} (plain : isPattern text = false)
    (name : ["", "auto", "unknown"].contains (stripped text) = false) :
    ofText text = .named (stripped text) := by
  have unmarked : dropStart? patternMark.toList (stripped text).toList = none := by
    have begins : patternMark.toList.isPrefixOf (stripped text).toList = false := plain
    simp [dropStart?, begins]
  simp only [List.contains_cons, List.contains_nil, Bool.or_eq_false_iff,
    beq_eq_false_iff_ne] at name
  obtain ⟨filled, notAuto, notUnknown, -⟩ := name
  simp [ofText, unmarked, filled, notAuto, notUnknown]

end Specifier

namespace Format

/-- A format that reads texts by itself runs on them as on a file. -/
theorem run_of_alone {f : Format} (alone : f.parseWithin = none) (text : f.profile.family = .text)
    (s : Surroundings) (bytes : List UInt8) :
    f.run s (Utf8.decode bytes) =
      if f.streams then f.parseLines (Line.stream s.limit bytes)
      else f.parse (Utf8.decode bytes) := by
  simp only [run, alone, text, Family.payload, Line.stream_eq_read, beq_self_eq_true, Bool.and_true]

theorem parseFile_of_present {w : World} {path : Path} {bytes : List UInt8}
    (present : w.bytes path = .ok bytes) (f : Format) (limit : Int) :
    f.parseFile w limit path =
      if f.streams then f.parseLines (Line.stream limit bytes)
      else f.parse (Utf8.decode bytes) := by
  simp only [parseFile, present]

end Format

namespace Context

theorem fileFormat?_eq_some [Host] {c : Context} {format : String} {f : Format}
    (chosen : c.fileFormat? format = some f) :
    ',' ∉ format.toList ∧ ["", "auto", "unknown"].contains (stripped format) = false ∧
      c.registry.isGroup (stripped format) = false ∧
      (∃ r, c.registry.find? (stripped format) = some r ∧ r.format = f) ∧
      f.parseWithin = none ∧ f.profile.family = .text := by
  unfold fileFormat? at chosen
  dsimp only at chosen
  split at chosen
  · cases chosen
  next single =>
    simp only [Bool.or_eq_true, not_or, Bool.not_eq_true] at single
    obtain ⟨⟨whole, name⟩, group⟩ := single
    obtain ⟨found, able⟩ := Option.filter_eq_some_iff.mp chosen
    obtain ⟨r, leads, own⟩ := Option.map_eq_some_iff.mp found
    simp only [Bool.and_eq_true, Bool.not_eq_true', Format.needsContext, Option.isSome_eq_false_iff,
      Option.isNone_iff_eq_none, beq_iff_eq] at able
    exact ⟨Specifier.comma_not_mem whole, name, group, ⟨r, leads, own⟩, able.1.1, able.2⟩

/-- To whatever end a file is read, its text is read to the same, with rule documents looked for
in its folder. A specifier that begins like a pattern must not be the name of a format. -/
theorem parseFile_eq_parse [Host] (c : Context) (path : Path) (format : String) {bytes : List UInt8}
    (present : c.world.bytes path = .ok bytes)
    (apart : Specifier.isPattern format = true → c.registry.has (stripped format) = false) :
    c.parseFile path format = (c.beside path).parse (Utf8.decode bytes) format := by
  cases chosen : c.fileFormat? format with
  | none => simp only [parseFile, present, chosen]
  | some f =>
    obtain ⟨whole, name, group, ⟨r, found, own⟩, alone, text⟩ := fileFormat?_eq_some chosen
    have known : c.registry.has (stripped format) = true := by rw [Registry.has, found]; rfl
    have plain : Specifier.isPattern format = false := by
      cases pattern : Specifier.isPattern format with
      | false => rfl
      | true => rw [apart pattern] at known; contradiction
    have resolved : (c.beside path).registry.resolve (.ofText format) = .format r := by
      rw [Specifier.ofText_of_plain plain name]
      exact Registry.resolve_format group found
    calc c.parseFile path format
        = f.parseFile c.world c.limit path := by simp only [parseFile, present, chosen]
      _ = f.run c.surroundings (Utf8.decode bytes) := by
        rw [Format.parseFile_of_present present, Format.run_of_alone alone text]
        rfl
      _ = (c.beside path).runResolution (Utf8.decode bytes) (.format r) := by
        rw [← own]
        rfl
      _ = (c.beside path).parse (Utf8.decode bytes) format := by
        rw [parse, Specifier.parts_eq_singleton whole, runParts_singleton, resolved]

/-- Two diagnostics behind different terminators; the last character is broken off. -/
def brokenLog : List UInt8 :=
  "a.c:1:2: error: x\r\nb.c:3: note: y\r".toList.map (·.toNat.toUInt8) ++ [0xE2, 0x80]

/-- A format under an alias, with a limit that cuts the lines. -/
theorem parseFile_eq_parse_brokenLog :
    let path := Path.read "logs/build.log"
    let c : Context := { world := { files := [(path, brokenLog)] }, limit := 16 }
    c.world.bytes path = .ok brokenLog ∧
      (Specifier.isPattern " g++ " = true → c.registry.has (stripped " g++ ") = false) ∧
      c.registry.find? (stripped " g++ ") = some ⟨3, Format.CompilerText.format⟩ ∧
      c.parseFile path " g++ " = (c.beside path).parse (Utf8.decode brokenLog) " g++ " := by
  intro path c
  have present : c.world.bytes path = .ok brokenLog := by rfl
  exact ⟨present, by decide, by rfl, parseFile_eq_parse c path " g++ " present (by decide)⟩

end Context

end BuildLog
