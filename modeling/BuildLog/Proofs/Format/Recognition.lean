import BuildLog.Proofs.Format.Faults
import BuildLog.Proofs.Format.Folding
import BuildLog.Proofs.Line.Delivery

/-! What it takes to recognise a log. Formats that know their logs by a line look for it in other
ways than they read: in the first lines only, in the first one that is not blank, or in so many
records. Still the line that decides is one they make a finding of, so a log that is recognised is
not read without one. Records of JSON are an exception: further lines are read after the log was
recognised, and one that is nested too deep is given up on. -/
namespace BuildLog

open Text

def HasFinding (events : List Event) : Prop := ∃ e ∈ events, e.kind ≠ .summary

namespace LineReader

/-- Whatever number is next, the line becomes an event that is no summary. -/
def Finds (read : LineReader) (line : Line) : Prop :=
  ∀ id, ∃ e, read line.text line.number id = pure (some e) ∧ e.kind ≠ .summary

theorem eventsFrom_hasFinding {read : LineReader} {line : Line} (finds : read.Finds line)
    {lines : List Line} (member : line ∈ lines) {id : Int} {events : List Event}
    (done : (read.eventsFrom id lines).Returns events) : HasFinding events := by
  induction lines generalizing id events with
  | nil => cases member
  | cons first rest ih =>
    obtain ⟨event?, one, done⟩ := Run.returns_bind done
    cases event? with
    | none =>
      obtain rfl | later := List.mem_cons.mp member
      · obtain ⟨e, made, -⟩ := finds id
        rw [made] at one
        cases Run.returns_pure.mp one
      · exact ih later done
    | some e =>
      obtain ⟨others, read, done⟩ := Run.returns_bind done
      rw [← Run.returns_pure.mp done]
      obtain rfl | later := List.mem_cons.mp member
      · obtain ⟨own, made, kind⟩ := finds id
        rw [made] at one
        obtain rfl := Option.some.inj (Run.returns_pure.mp one)
        exact ⟨own, List.mem_cons_self, kind⟩
      · obtain ⟨found, inside, kind⟩ := ih later read
        exact ⟨found, List.mem_cons_of_mem _ inside, kind⟩

end LineReader

namespace Format

variable {content : String}

/-- A line of the log decides that the format recognises it, and is one it finds something in. -/
def IsDecided (read : LineReader) (content : String) : Prop :=
  ∃ line ∈ Line.read Line.defaultLimit content, read.Finds line

theorem IsDecided.hasFinding {read : LineReader} (decided : IsDecided read content)
    {events : List Event}
    (done : (read.events (Line.read Line.defaultLimit content)).Returns events) :
    HasFinding events := by
  obtain ⟨line, member, finds⟩ := decided
  exact LineReader.eventsFrom_hasFinding finds member done

theorem pytest_isDecided (accepted : (Pytest.format.accepts content).Returns true) :
    IsDecided Pytest.parseLine content := by
  have accepted := Run.returns_pure.mp accepted
  obtain ⟨line, member, found⟩ := List.any_eq_true.mp (Bool.and_eq_true_iff.mp accepted).2
  obtain ⟨m, found⟩ := Option.isSome_iff_exists.mp found
  refine ⟨line, member, fun id => ⟨{ (Pytest.ofResult m).onLine line.number line.text with id },
    ?_, nofun⟩⟩
  simp only [Pytest.parseLine, found, Option.map_some]

/-- The first line that is not blank has pairs. -/
theorem logfmt_isDecided [Host] (accepted : (Logfmt.format.accepts content).Returns true) :
    IsDecided Logfmt.parseLine content := by
  obtain ⟨filled, marked⟩ := Bool.and_eq_true_iff.mp (Run.returns_pure.mp accepted)
  obtain ⟨text, rest, sample⟩ := List.exists_cons_of_ne_nil
    (List.isEmpty_eq_false_iff.mp ((Bool.not_eq_true' _).mp filled))
  rw [sample, List.all_cons, Bool.and_eq_true_iff] at marked
  have sampled : text ∈ List.take Logfmt.sampleSize _ := sample ▸ List.mem_cons_self
  obtain ⟨line, member, rfl⟩ :=
    List.mem_map.mp (List.mem_filter.mp (List.mem_of_mem_take sampled)).1
  have pairs : (Logfmt.pairs line.text).isEmpty = false := by
    have enough := (Bool.and_eq_true_iff.mp marked.1).1
    cases found : Logfmt.pairs line.text with
    | nil => simp [found] at enough
    | cons p rest => rfl
  have kind : (Logfmt.eventOf (Logfmt.pairs line.text)).kind = .debugEvent := by
    simp only [Logfmt.eventOf, Event.withVerdict]
  refine ⟨line, member, fun id => ?_⟩
  simp only [Logfmt.parseLine, pairs, Bool.false_eq_true, if_false]
  refine ⟨_, rfl, ?_⟩
  simp only [Event.onLine, kind]
  exact nofun

theorem syslog_isDecided [Host] (accepted : (Syslog.format.accepts content).Returns true) :
    IsDecided Syslog.parseLine content := by
  have accepted := Run.returns_pure.mp accepted
  split at accepted
  next line first =>
    obtain ⟨parts, found⟩ := Option.isSome_iff_exists.mp accepted
    obtain ⟨status, known⟩ := syslog_status_answers found
    refine ⟨line, List.mem_of_find?_eq_some first, fun id => ?_⟩
    simp only [Syslog.parseLine, found, known, pure_bind]
    exact ⟨_, rfl, nofun⟩
  next => cases accepted

theorem prefixed_isDecided (accepted : (Prefixed.format.accepts content).Returns true) :
    IsDecided Prefixed.parseLine content := by
  obtain ⟨line, member, classified⟩ := List.any_eq_true.mp (Run.returns_pure.mp accepted)
  obtain ⟨⟨verdict, category⟩, found⟩ := Option.isSome_iff_exists.mp classified
  refine ⟨line, List.mem_of_mem_take member, fun id => ?_⟩
  simp only [Prefixed.parseLine, found, Option.map_some]
  refine ⟨_, rfl, ?_⟩
  dsimp only
  split <;> exact nofun

theorem anyLint_isDecided (accepted : (AnyLint.format.accepts content).Returns true) :
    IsDecided AnyLint.parseLine content := by
  obtain ⟨line, member, told⟩ := Run.returns_anyM accepted
  have inside := List.mem_of_mem_take member
  obtain ⟨d?, known⟩ := diagnostic_answers inside
  rw [known, pure_bind] at told
  obtain ⟨d, rfl⟩ := Option.isSome_iff_exists.mp (Run.returns_pure.mp told)
  refine ⟨line, inside, fun id => ?_⟩
  simp only [AnyLint.parseLine, known, pure_bind, Option.map_some]
  exact ⟨_, rfl, nofun⟩

/-- The first record is a line that is not blank. -/
theorem jsonLines_isDecided [Host] (accepted : (JsonLines.format.accepts content).Returns true) :
    IsDecided JsonLines.parseLine content := by
  change (JsonLines.accepts content).Returns true at accepted
  unfold JsonLines.accepts at accepted
  dsimp only at accepted
  split at accepted
  · cases Run.returns_pure.mp accepted
  next filled =>
    obtain ⟨text, rest, sample⟩ := List.exists_cons_of_ne_nil
      (List.isEmpty_eq_false_iff.mp (Bool.eq_false_iff.mpr filled))
    have sampled : text ∈ List.take JsonLines.sampleSize _ := sample ▸ List.mem_cons_self
    obtain ⟨kept, solid⟩ := List.mem_filter.mp (List.mem_of_mem_take sampled)
    obtain ⟨line, member, rfl⟩ := List.mem_map.mp kept
    rw [sample] at accepted
    have decided := Run.returns_allM_head accepted
    unfold JsonLines.isRecord at decided
    split at decided
    · obtain ⟨record?, read, decided⟩ := Run.returns_bind decided
      obtain ⟨record, rfl⟩ := Option.isSome_iff_exists.mp (Run.returns_pure.mp decided)
      have read := (JsonLines.record?_failsIff _).eq_pure read
      have filled : (stripped line.text).isEmpty = false := by simpa using solid
      refine ⟨line, member, fun id => ?_⟩
      simp only [JsonLines.parseLine, filled, Bool.false_eq_true, if_false, read, pure_bind,
        Option.map_some]
      refine ⟨_, rfl, ?_⟩
      rintro ⟨⟩
    · cases Run.returns_pure.mp decided

/-- Whatever is a record makes an event, and no line behind it changes its kind. -/
theorem logRecord_hasFinding [Host] (accepted : (LogRecord.format.accepts content).Returns true) :
    ∃ events, LogRecord.format.parse content = pure events ∧ HasFinding events := by
  obtain ⟨line, member, found⟩ := List.any_eq_true.mp (Run.returns_pure.mp accepted)
  obtain ⟨events, done, folds⟩ := LogRecord.records_folds (Line.read Line.defaultLimit content)
  refine ⟨events, done, ?_⟩
  have record : line ∈ (Line.read Line.defaultLimit content).filter LogRecord.isRecord :=
    List.mem_filter.mpr ⟨member, found⟩
  rw [← LogRecord.spans_records] at record
  obtain ⟨s, inside, -⟩ := List.mem_map.mp record
  obtain ⟨i, place, rfl⟩ := List.mem_iff_getElem.mp inside
  have below : i < events.length := folds.length_eq ▸ place
  have folded : LogRecord.Folds events[i] (LogRecord.spans _)[i] := folds.get below place
  refine ⟨events[i], List.getElem_mem below, ?_⟩
  rw [folded.kind]
  exact nofun

def finders [Host] : List Format :=
  [Pytest.format, JsonLines.format, Logfmt.format, Syslog.format, LogRecord.format,
    Prefixed.format, AnyLint.format]

/-- The format reads JSON from the lines of a log, and one of them is nested too deep. -/
def IsNested [Host] (f : Format) (content : String) : Prop :=
  f.profile.format = JsonLines.profile.format ∧
    ∃ line ∈ Line.read Line.defaultLimit content,
      Json.read (stripped line.text) = .error .tooDeep

structure ReadsRecognised [Host] (f : Format) (content : String) : Prop where
  nested : f.IsNested content → f.parse content = throw .tooDeep
  found : ¬f.IsNested content → ∃ events, f.parse content = pure events ∧ HasFinding events

theorem ReadsRecognised.of_answers [Host] {f : Format}
    (other : f.profile.format ≠ JsonLines.profile.format) (answers : (f.parse content).Answers)
    (found : ∀ events, (f.parse content).Returns events → HasFinding events) :
    f.ReadsRecognised content where
  nested deep := absurd deep.1 other
  found _ := by
    obtain ⟨events, done⟩ := answers
    exact ⟨events, done, found events (Run.returns_of_eq done)⟩

theorem jsonLines_readsRecognised [Host]
    (accepted : (JsonLines.format.accepts content).Returns true) :
    JsonLines.format.ReadsRecognised content where
  nested := by
    rintro ⟨-, line, member, deep⟩
    refine LineReader.eventsFrom_eq_throw (fun line id => ?_)
      (JsonLines.parseLine_of_tooDeep deep line.number) member 1
    by_cases nested : Json.read (stripped line.text) = .error .tooDeep
    · exact .inr (JsonLines.parseLine_of_tooDeep nested line.number id)
    · exact .inl ((JsonLines.parseLine_failsIff line.text line.number id).answers nested)
  found shallow := by
    have fails := LineReader.eventsFrom_failsIff
      (fun line id => JsonLines.parseLine_failsIff line.text line.number id) 1
      (Line.read Line.defaultLimit content)
    obtain ⟨events, done⟩ := fails.answers fun nested => shallow ⟨rfl, nested⟩
    have returned : (JsonLines.parseLine.events (Line.read Line.defaultLimit content)).Returns
        events := by
      rw [LineReader.events, done]
      exact Run.returns_pure.mpr rfl
    exact ⟨events, done, (jsonLines_isDecided accepted).hasFinding returned⟩

/-- What is told of a clean log is told of no log with a finding. -/
theorem anyLint_hasFinding (accepted : (AnyLint.format.accepts content).Returns true)
    {events : List Event} (done : (AnyLint.format.parse content).Returns events) :
    HasFinding events := by
  obtain ⟨found, read, done⟩ := Run.returns_bind done
  have finding : HasFinding found := (anyLint_isDecided accepted).hasFinding read
  have made := Run.returns_pure.mp done
  split at made
  next empty =>
    obtain ⟨e, member, -⟩ := finding
    rw [List.isEmpty_iff.mp empty] at member
    cases member
  next => exact made ▸ finding

/-- A log that one of these formats recognises is read, and there is more than a summary among its
events. Only a log of JSON records with a line that is nested too deep is recognised and then given
up on. -/
theorem recognised_hasFinding [Host] {f : Format} (known : f ∈ finders) {content : String}
    (accepted : (f.accepts content).Returns true) :
    (f.IsNested content → f.parse content = throw .tooDeep) ∧
      (¬f.IsNested content → ∃ events, f.parse content = pure events ∧ HasFinding events) := by
  suffices reads : f.ReadsRecognised content from ⟨reads.nested, reads.found⟩
  simp only [finders, List.mem_cons, List.not_mem_nil, or_false] at known
  have logfmt : Logfmt.profile.format ≠ JsonLines.profile.format := by decide
  have syslog : Syslog.profile.format ≠ JsonLines.profile.format := by decide
  have logRecord : LogRecord.profile.format ≠ JsonLines.profile.format := by decide
  rcases known with rfl | rfl | rfl | rfl | rfl | rfl | rfl
  · exact .of_answers (by decide) (pytest_isAnswering content).parse fun _ =>
      (pytest_isDecided accepted).hasFinding
  · exact jsonLines_readsRecognised accepted
  · exact .of_answers logfmt (logfmt_isAnswering content).parse fun _ =>
      (logfmt_isDecided accepted).hasFinding
  · exact .of_answers syslog (syslog_isAnswering content).parse fun _ =>
      (syslog_isDecided accepted).hasFinding
  · obtain ⟨events, done, finding⟩ := logRecord_hasFinding accepted
    exact ⟨fun nested => absurd nested.1 logRecord, fun _ => ⟨events, done, finding⟩⟩
  · exact .of_answers (by decide) (prefixed_isAnswering content).parse fun _ =>
      (prefixed_isDecided accepted).hasFinding
  · exact .of_answers (by decide) (anyLint_isAnswering content).parse fun _ =>
      anyLint_hasFinding accepted

/-- Brackets beyond the limit are given up on, whatever stands behind them. -/
theorem value_brackets (nested more : Nat) {whole : List Char}
    (h : ('[' :: List.replicate (more + nested) '[').length ≤ whole.length) :
    Json.value whole nested ('[' :: List.replicate (more + nested) '[') h = .error .tooDeep := by
  induction nested generalizing whole with
  | zero =>
    rw [Json.value]
    rfl
  | succ nested ih =>
    have inner {whole : List Char} (h : ('[' :: List.replicate (more + nested) '[').length ≤
        whole.length) :
        Json.items whole nested [] ('[' :: List.replicate (more + nested) '[') h =
          .error .tooDeep := by
      rw [Json.items, ih]
    rw [Json.value]
    exact inner _

def emptyRecord : List Char := ['\x7b', '\x7d']

def brackets : List Char := List.replicate 1500 '['

def nestedLog : String :=
  String.ofList (emptyRecord ++ '\n' :: (emptyRecord ++ '\n' :: (emptyRecord ++ '\n' :: brackets)))

theorem read_nestedLog : Line.read Line.defaultLimit nestedLog =
    [⟨1, String.ofList emptyRecord, false⟩, ⟨2, String.ofList emptyRecord, false⟩,
      ⟨3, String.ofList emptyRecord, false⟩, ⟨4, String.ofList brackets, false⟩] := by
  have record : Line.IsUnbroken emptyRecord := by simp [Line.IsUnbroken, emptyRecord]
  have last : Line.IsUnbroken brackets := Line.isUnbroken_replicate (by decide) 1500
  have short : brackets.length ≤ Line.effectiveLimit Line.defaultLimit := by
    rw [brackets, List.length_replicate]
    decide
  have filled : brackets ≠ [] := by
    rw [← List.length_pos_iff, brackets, List.length_replicate]
    decide
  have lines : Line.split nestedLog.toList =
      [emptyRecord, emptyRecord, emptyRecord, brackets] := by
    rw [nestedLog, String.toList_ofList, Line.split_append_feed record,
      Line.split_append_feed record, Line.split_append_feed record, Line.split_of_isUnbroken last,
      if_neg filled]
  rw [Line.read, lines]
  simp only [List.mapIdx_cons, List.mapIdx_nil, Line.capped_of_short short]
  rfl

theorem read_emptyRecord : Json.read (String.ofList emptyRecord) = .ok (.object []) := by
  have value {whole : List Char} (h : emptyRecord.length ≤ whole.length) :
      Json.value whole Host.jsonDepth emptyRecord h =
        .ok (.object [], ⟨[], Nat.lt_of_lt_of_le (by decide) h⟩) := by
    change Json.value whole (984 + 1) _ _ = _
    rw [Json.value]
    rfl
  have filled : Json.skipSpace emptyRecord = emptyRecord := by decide
  simp only [Json.read, String.toList_ofList, Json.readChars, filled, value]
  rfl

theorem read_brackets : Json.read (stripped (String.ofList brackets)) = .error .tooDeep := by
  have same : stripped (String.ofList brackets) = String.ofList brackets := by
    rw [stripped, String.toList_ofList, brackets, trim_replicate (by decide)]
  have value {whole : List Char} (h : brackets.length ≤ whole.length) :
      Json.value whole Host.jsonDepth brackets h = .error .tooDeep :=
    value_brackets 985 514 h
  have filled : Json.skipSpace brackets = brackets := rfl
  have first : brackets.head? = some '[' := rfl
  simp only [same, Json.read, String.toList_ofList, Json.readChars, filled, first, value]
  rfl

theorem isRecord_emptyRecord : JsonLines.isRecord (String.ofList emptyRecord) = pure true := by
  have found : JsonLines.record? (String.ofList emptyRecord) = pure (some []) := by
    have shallow : Json.read (String.ofList emptyRecord) ≠ .error .tooDeep := by
      rw [read_emptyRecord]
      rintro ⟨⟩
    rw [JsonLines.record?, Run.readJson?_eq shallow, read_emptyRecord]
    rfl
  rw [JsonLines.isRecord, found]
  rfl

/-- The line of brackets is no part of the sample. -/
theorem accepts_nestedLog : JsonLines.accepts nestedLog = pure true := by
  have trimmed : stripped (String.ofList emptyRecord) = String.ofList emptyRecord := by decide
  have filled : (!(String.ofList emptyRecord).isEmpty) = true := by decide
  have sample (rest : List String) :
      ((String.ofList emptyRecord :: String.ofList emptyRecord :: String.ofList emptyRecord ::
        rest).filter (!·.isEmpty)).take JsonLines.sampleSize =
          List.replicate 3 (String.ofList emptyRecord) := by
    simp only [List.filter_cons, filled, if_true]
    rfl
  have three : (List.replicate 3 (String.ofList emptyRecord)).allM JsonLines.isRecord =
      pure true := by
    simp only [List.replicate_succ, List.replicate_zero, List.allM, isRecord_emptyRecord, pure_bind]
  rw [JsonLines.accepts, read_nestedLog]
  simp only [List.map_cons, trimmed, sample]
  rw [three]
  rfl

theorem recognised_hasFinding_nestedLog :
    JsonLines.format ∈ finders ∧ (JsonLines.format.accepts nestedLog).Returns true ∧
      JsonLines.format.IsNested nestedLog ∧
      JsonLines.format.parse nestedLog = throw .tooDeep := by
  have place : finders[1]? = some JsonLines.format := rfl
  have known : JsonLines.format ∈ finders := List.mem_of_getElem? place
  have own : JsonLines.format.accepts = JsonLines.accepts := rfl
  have accepted : (JsonLines.format.accepts nestedLog).Returns true := by
    rw [own, accepts_nestedLog]
    exact Run.returns_pure.mpr rfl
  have nested : JsonLines.format.IsNested nestedLog := by
    refine ⟨rfl, ⟨4, String.ofList brackets, false⟩, ?_, read_brackets⟩
    rw [read_nestedLog]
    simp
  exact ⟨known, accepted, nested, (recognised_hasFinding known accepted).1 nested⟩

end Format

end BuildLog
