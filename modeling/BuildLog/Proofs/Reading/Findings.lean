import BuildLog.Proofs.Format.Findings
import BuildLog.Proofs.Format.Overlong
import BuildLog.Proofs.Registry.Restoring
import BuildLog.Proofs.Resolution

/-! Lines that a greater limit lets through. Loaded rules and the format for system logs are handed
the caller's limit, so lines up to it are delivered whole; but they look into no line beyond the
default limit. Of such a line nothing is told, although a smaller limit would have cut it to a line
in which something may be found. -/
namespace BuildLog.Context

structure Names [Host] (c : Context) (format : String) (f : Format) : Prop where
  whole : ',' ∉ format.toList
  named : ∃ r, c.registry.resolve (.ofText format) = .format r ∧ r.format = f

/-- Of every log the delivered lines for which the condition holds become events, each one event and
in their order, and no other line does. -/
def ReadsFound [Host] (c : Context) (format : String) (finds : String → Bool) : Prop :=
  ∀ content, ∃ events, c.parse content format = pure events ∧
    List.Forall₂ Event.Quotes events
      ((Line.read c.limit content).filter fun line => finds line.text)

/-- An entry of a system log can be of every length that a line with a longer message has. -/
theorem exists_entry {n : Nat} (long : Format.Syslog.entryBegun.length ≤ n) :
    ∃ text : String, Line.IsUnbroken text.toList ∧ Format.Syslog.finds text = true ∧
      text.length = n := by
  refine ⟨String.ofList (Format.Syslog.entryBegun ++
    List.replicate (n - Format.Syslog.entryBegun.length) 'x'), ?_, Format.Syslog.finds_entry _, ?_⟩
  · rw [String.toList_ofList, Line.isUnbroken_append]
    exact ⟨by simp [Line.IsUnbroken, Format.Syslog.entryBegun],
      Line.isUnbroken_replicate (by decide) _⟩
  · rw [String.length_ofList, List.length_append, List.length_replicate]
    omega

section

variable [Host] {c : Context} {format : String} {finds : String → Bool}

theorem Names.readsFound {profile : Profile} {accepts : String → Run Bool} {read : LineReader}
    (names : c.Names format (.ofLines profile accepts read)) (text : profile.family = .text)
    (reads : read.ReadsWhere finds) : c.ReadsFound format finds := by
  intro content
  obtain ⟨r, found, made⟩ := names.named
  rw [parse_of_format names.whole found, made]
  exact reads.run text accepts c.surroundings content

/-- Only what is found in a delivered line beyond the default limit can be lost. -/
theorem ReadsFound.iff_short
    (searched : c.ReadsFound format fun text => Line.isSearched text && finds text) :
    c.ReadsFound format finds ↔
      ∀ text : String, Line.IsUnbroken text.toList → finds text = true →
        text.length ≤ Line.effectiveLimit c.limit → (text.length : Int) ≤ Line.defaultLimit := by
  constructor
  · intro all text unbroken found within
    by_contra long
    -- The log of this line alone has one event by `all` and none by `searched`.
    have lines : Line.read c.limit (Line.alone text.toList) = [⟨1, text, false⟩] := by
      rw [Line.read_alone unbroken (by rwa [String.length_toList]), String.ofList_toList]
    have beyond : Line.isSearched text = false := decide_eq_false long
    obtain ⟨events, done, one⟩ := all (Line.alone text.toList)
    obtain ⟨others, same, none⟩ := searched (Line.alone text.toList)
    have equal : (pure events : Run (List Event)).Returns others := by
      rw [← done, same]
      exact Run.returns_pure.mpr rfl
    obtain rfl := Run.returns_pure.mp equal
    have single : events.length = 1 := by simpa [lines, found] using one.length_eq
    have empty : events.length = 0 := by simpa [lines, beyond] using none.length_eq
    omega
  · intro short content
    obtain ⟨events, done, quoting⟩ := searched content
    refine ⟨events, done, ?_⟩
    have kept : ∀ line ∈ Line.read c.limit content,
        (Line.isSearched line.text && finds line.text) = finds line.text := by
      intro line member
      cases found : finds line.text with
      | false => exact Bool.and_false _
      | true =>
        have within := Line.read_length_le member
        rw [String.length_toList] at within
        have searched := short line.text (Line.read_isUnbroken member) found within
        rw [Bool.and_true]
        exact decide_eq_true searched
    rwa [List.filter_congr kept] at quoting

theorem readsFound_rules {document : String} {rules : RuleSet}
    (read : (RuleSet.read document).Returns rules) (names : c.Names format rules.format) :
    c.ReadsFound format fun text => Line.isSearched text && rules.finds text := by
  obtain ⟨m, name, priority, aliases, groups, -, made⟩ := RuleSet.read_returns read
  have text : rules.profile.family = .text := by rw [made, RuleSet.profileOf]
  exact names.readsFound text rules.parseLine_readsWhere

theorem readsFound_syslog (names : c.Names format Format.Syslog.format) :
    c.ReadsFound format fun text => Line.isSearched text && Format.Syslog.finds text :=
  names.readsFound rfl Format.Syslog.parseLine_readsWhere

/-- Loaded rules and the format for system logs make one event of each delivered line in which they
find something, if it is no longer than the default limit. So they lose no line under a limit if
and only if nothing is found in lines between the default limit and this one. In system logs
something is, so that every greater limit than the default one loses lines. -/
theorem readsFound_iff (c : Context) :
    (∀ document rules format, (RuleSet.read document).Returns rules →
      c.Names format rules.format →
      c.ReadsFound format (fun text => Line.isSearched text && rules.finds text) ∧
      (c.ReadsFound format rules.finds ↔
        ∀ text : String, Line.IsUnbroken text.toList → rules.finds text = true →
          text.length ≤ Line.effectiveLimit c.limit →
          (text.length : Int) ≤ Line.defaultLimit)) ∧
    ∀ format, c.Names format Format.Syslog.format →
      c.ReadsFound format (fun text => Line.isSearched text && Format.Syslog.finds text) ∧
      (c.ReadsFound format Format.Syslog.finds ↔
        (Line.effectiveLimit c.limit : Int) ≤ Line.defaultLimit) := by
  constructor
  · intro document rules format read names
    have searched := readsFound_rules read names
    exact ⟨searched, searched.iff_short⟩
  · intro format names
    have searched := readsFound_syslog names
    refine ⟨searched, searched.iff_short.trans ⟨fun short => ?_, fun smaller => ?_⟩⟩
    · by_contra greater
      have long : Format.Syslog.entryBegun.length ≤ Line.effectiveLimit c.limit := by
        simp only [Line.defaultLimit] at greater
        simp only [Format.Syslog.entryBegun, List.length_cons, List.length_nil]
        omega
      obtain ⟨text, unbroken, found, length⟩ := exists_entry long
      have within := short text unbroken found (Nat.le_of_eq length)
      rw [length] at within
      exact greater within
    · intro text _ _ within
      omega

end

/-- Under a limit of three thousand characters and under the default one. -/
theorem readsFound_raised :
    let raised : Context := { registry := Registry.ruledRegistry, limit := 3000 }
    let usual : Context := { registry := Registry.ruledRegistry }
    let rules := Registry.ruledSet "a" ["x"]
    (¬raised.ReadsFound "a" rules.finds ∧ ¬raised.ReadsFound "syslog" Format.Syslog.finds) ∧
      usual.ReadsFound "a" rules.finds ∧ usual.ReadsFound "syslog" Format.Syslog.finds := by
  intro raised usual rules
  have came : Registry.ruledRegistry = Registry.standard.register rules.format :=
    Registry.ruledRegistry_eq
  have document : RuleSet.read (Registry.ruledText "a" "\"x\"") = pure rules :=
    Registry.read_ruled Registry.document_aliased (by decide) (by decide)
  have read : (RuleSet.read (Registry.ruledText "a" "\"x\"")).Returns rules :=
    document ▸ Run.returns_pure.mpr rfl
  have loaded (limit : Int) :
      Names { registry := Registry.ruledRegistry, limit } "a" rules.format := by
    refine ⟨by decide, ⟨12, rules.format⟩, ?_, rfl⟩
    rw [came]
    rfl
  have known (limit : Int) :
      Names { registry := Registry.ruledRegistry, limit } "syslog" Format.Syslog.format := by
    refine ⟨by decide, ⟨8, Format.Syslog.format⟩, ?_, rfl⟩
    rw [came]
    rfl
  obtain ⟨rulesRaised, syslogRaised⟩ := readsFound_iff raised
  obtain ⟨rulesUsual, syslogUsual⟩ := readsFound_iff usual
  have enough : (Line.effectiveLimit usual.limit : Int) ≤ Line.defaultLimit := by decide
  refine ⟨⟨fun all => ?_, fun all => ?_⟩, ?_, ?_⟩
  · let text := String.ofList (List.replicate 2500 'x')
    have length : text.length = 2500 := by rw [String.length_ofList, List.length_replicate]
    have unbroken : Line.IsUnbroken text.toList := by
      rw [String.toList_ofList]
      exact Line.isUnbroken_replicate (by decide) 2500
    have found : rules.finds text = true := List.any_eq_true.mpr
      ⟨Registry.capturedRule, List.mem_singleton.mpr rfl,
        Format.AdHoc.letter_finds [] (List.replicate 2499 'x')⟩
    have within := (rulesRaised _ _ "a" read (loaded 3000)).2.mp all text unbroken found
      (by rw [length]; decide)
    rw [length] at within
    exact absurd within (by decide)
  · have greater : ¬(Line.effectiveLimit raised.limit : Int) ≤ Line.defaultLimit := by decide
    exact greater ((syslogRaised "syslog" (known 3000)).2.mp all)
  · refine (rulesUsual _ _ "a" read (loaded _)).2.mpr fun text _ _ within => ?_
    omega
  · exact (syslogUsual "syslog" (known _)).2.mpr enough

end BuildLog.Context
