import BuildLog.Reading

/-! What a specifier stands for in a registry, apart from how a log is then read. A name is a group
before it is a format, and a format before it is a rule document. -/
namespace BuildLog

/-- A text without commas is a specifier of its own. -/
theorem Specifier.parts_eq_singleton {text : String} (whole : ',' ∉ text.toList) :
    parts text = [text] := by
  unfold parts
  split
  · rfl
  · simp only [Text.pieces, List.splitOn_eq_singleton whole, List.map_cons, List.map_nil,
      String.ofList_toList]

inductive Resolution where
  | nothing
  | detected
  | pattern (source : String)
  /-- The formats of a group by priority. -/
  | group (members : List Registration)
  | format (r : Registration)
  | document (name : String)

def Registry.resolve (g : Registry) : Specifier → Resolution
  | .unknown => .nothing
  | .auto => .detected
  | .pattern source => .pattern source
  | .named name =>
    if g.isGroup name then .group (g.inGroup name)
    else
      match g.find? name with
      | some r => .format r
      | none => if Specifier.isDocument name then .document name else .nothing

theorem Registry.resolve_group {g : Registry} {name : String} (group : g.isGroup name = true) :
    g.resolve (.named name) = .group (g.inGroup name) := by
  simp only [resolve, group, if_true]

theorem Registry.resolve_format {g : Registry} {name : String} {r : Registration}
    (group : g.isGroup name = false) (found : g.find? name = some r) :
    g.resolve (.named name) = .format r := by
  simp only [resolve, group, found, Bool.false_eq_true, if_false]

namespace Context

def runResolution [Host] (c : Context) (content : String) : Resolution → Run (List Event)
  | .nothing => return []
  | .detected => c.runDetected content
  | .pattern source => Format.AdHoc.parse source false content
  | .group members => c.runFirst content members
  | .format r => c.run r.format content
  | .document name => do c.run (← c.document name).format content

/-- A log is read as what the specifier stands for. -/
theorem runSpecifier_eq [Host] (c : Context) (content : String) (s : Specifier) :
    c.runSpecifier content s = c.runResolution content (c.registry.resolve s) := by
  cases s with
  | unknown => simp only [runSpecifier, Registry.resolve, runResolution]
  | auto => simp only [runSpecifier, Registry.resolve, runResolution]
  | pattern source => simp only [runSpecifier, Registry.resolve, runResolution]
  | named name =>
    simp only [runSpecifier, runNamed, Registry.resolve]
    split
    · rfl
    · cases c.registry.find? name with
      | some r => rfl
      | none =>
        by_cases document : Specifier.isDocument name = true
        · simp only [document, if_true, runResolution]
        · simp only [document, if_false, Bool.false_eq_true, runResolution]

theorem runParts_cons [Host] (c : Context) (content part : String) (rest : List String) :
    c.runParts content (part :: rest) = do
      let events ← c.runResolution content (c.registry.resolve (.ofText part))
      if events.isEmpty then c.runParts content rest else return events := by
  rw [runParts, runSpecifier_eq]

/-- A single specifier needs no choice between its parts. -/
theorem runParts_singleton [Host] (c : Context) (content part : String) :
    c.runParts content [part] = c.runResolution content (c.registry.resolve (.ofText part)) := by
  have kept (events : List Event) :
      (if events.isEmpty then c.runParts content [] else return events) =
        (pure events : Run (List Event)) := by
    cases events <;> rfl
  simp only [runParts_cons, kept, bind_pure]

/-- A log is run through the one format that a specifier stands for. -/
theorem parse_of_format [Host] {c : Context} {text : String} {r : Registration}
    (whole : ',' ∉ text.toList) (found : c.registry.resolve (.ofText text) = .format r)
    (content : String) : c.parse content text = c.run r.format content := by
  rw [parse, Specifier.parts_eq_singleton whole, runParts_singleton, found]
  rfl

/-- A group of which no format accepts a log yields nothing. -/
theorem runFirst_eq_nil [Host] (c : Context) {content : String} {members : List Registration}
    (refused : ∀ r ∈ members, r.format.acceptsLog content = pure false) :
    c.runFirst content members = pure [] := by
  induction members with
  | nil => rfl
  | cons r rest ih =>
    have first := refused r (by simp)
    have later := ih fun r member => refused r (by simp [member])
    have idle : (c.tryRun r.format content).orElse [] = pure [] := by
      simp only [tryRun, first, pure_bind]
      rfl
    simp only [runFirst, idle, later, pure_bind]
    rfl

variable [Host] {c d : Context}

theorem runFirst_congr (same : c.surroundings = d.surroundings) (content : String)
    (members : List Registration) : c.runFirst content members = d.runFirst content members := by
  induction members with
  | nil => rfl
  | cons r rest ih => simp only [runFirst, tryRun, run, same, ih]

/-- Only rule documents are looked for outside of the registry. -/
theorem runResolution_congr (registry : c.registry = d.registry) (limit : c.limit = d.limit)
    (content : String) (r : Resolution) (inside : ∀ name, r ≠ .document name) :
    c.runResolution content r = d.runResolution content r := by
  have same : c.surroundings = d.surroundings := by simp only [surroundings, registry, limit]
  cases r with
  | nothing => rfl
  | detected => simp only [runResolution, runDetected, run, registry, same]
  | pattern source => rfl
  | group members => exact runFirst_congr same content members
  | format r => simp only [runResolution, run, same]
  | document name => exact absurd rfl (inside name)

theorem runParts_congr (registry : c.registry = d.registry) (limit : c.limit = d.limit)
    (content : String) (parts : List String)
    (inside : ∀ part ∈ parts, ∀ name, c.registry.resolve (.ofText part) ≠ .document name) :
    c.runParts content parts = d.runParts content parts := by
  induction parts with
  | nil => rfl
  | cons part rest ih =>
    have first := runResolution_congr registry limit content _ (inside part (by simp))
    have later := ih fun part member => inside part (by simp [member])
    rw [runParts_cons, runParts_cons, first, later, registry]

theorem parse_congr (registry : c.registry = d.registry) (limit : c.limit = d.limit)
    (content format : String) (inside : ∀ part ∈ Specifier.parts format, ∀ name,
      c.registry.resolve (.ofText part) ≠ .document name) :
    c.parse content format = d.parse content format := by
  unfold parse
  exact runParts_congr registry limit content _ inside

end Context

end BuildLog
