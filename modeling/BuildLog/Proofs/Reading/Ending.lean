import BuildLog.Proofs.Format.Ending
import BuildLog.Proofs.Registry.Calls
import BuildLog.Proofs.Registry.Detection
import BuildLog.Proofs.Resolution

/-! A log is read and recognised alike under every spelling of its terminators, provided that the
registered formats do not see these. Whatever a specifier stands for, a log is only ever given to
registered formats, to a pattern that reads lines, and to the rules of a document. -/
namespace BuildLog

namespace Resolution

def registrations : Resolution → List Registration
  | .group members => members
  | .format r => [r]
  | _ => []

end Resolution

namespace Registry

def IsEndingBlind (g : Registry) : Prop := ∀ r ∈ g.entries, r.format.IsEndingBlind

theorem standard_isEndingBlind [Host] : standard.IsEndingBlind := fun _ member =>
  Format.builtins_isEndingBlind _ (mem_ofFormats member)

variable {g : Registry}

theorem mem_resolve (valid : g.Consistent) (s : Specifier) :
    ∀ r ∈ (g.resolve s).registrations, r ∈ g.entries := by
  intro r member
  cases s with
  | named name =>
    simp only [resolve] at member
    split at member
    · exact (mem_ranked valid).mp (List.mem_filter.mp member).1
    · split at member
      next found =>
        rw [List.mem_singleton.mp member]
        exact (owner?_mem (valid.find?_eq name ▸ found)).1
      next =>
        split at member <;> cases member
  | _ => cases member

theorem accepting?_normalize (content : String) {members : List Registration}
    (blind : ∀ r ∈ members, r.format.IsEndingBlind) :
    accepting? (Line.normalize content) members = accepting? content members := by
  induction members with
  | nil => rfl
  | cons r rest ih =>
    have first := blind r (by simp)
    simp only [accepting?_cons, first.acceptsLog, ih fun r member => blind r (by simp [member])]

/-- What follows the recognition of a log matters for the registered formats only. -/
theorem accepting?_bind_congr {content : String} {members : List Registration}
    {f h : Option Registration → Run α} (missing : f none = h none)
    (found : ∀ r ∈ members, f (some r) = h (some r)) :
    (accepting? content members >>= f) = accepting? content members >>= h := by
  induction members with
  | nil => simp only [accepting?_nil, pure_bind, missing]
  | cons r rest ih =>
    simp only [accepting?_cons, bind_assoc]
    congr 1
    funext accepted
    cases accepted with
    | true => simpa using found r (by simp)
    | false => simpa using ih fun r member => found r (by simp [member])

theorem detect_normalize (valid : g.Consistent) (blind : g.IsEndingBlind) (content : String) :
    g.detect (Line.normalize content) = g.detect content :=
  accepting?_normalize content fun r member => blind r ((mem_ranked valid).mp member)

end Registry

theorem Format.AdHoc.parse_normalize [Host] (pattern : String) (keepUnread : Bool)
    (content : String) :
    parse pattern keepUnread (Line.normalize content) = parse pattern keepUnread content := by
  simp only [parse, Line.read_normalize]

namespace Context

variable [Host] (c : Context) (content : String)

theorem runFirst_normalize {members : List Registration}
    (blind : ∀ r ∈ members, r.format.IsEndingBlind) :
    c.runFirst (Line.normalize content) members = c.runFirst content members := by
  induction members with
  | nil => rfl
  | cons r rest ih =>
    have first := blind r (by simp)
    simp only [runFirst, tryRun, run, first.acceptsLog, first.run,
      ih fun r member => blind r (by simp [member])]

theorem runDetected_normalize (valid : c.registry.Consistent) (blind : c.registry.IsEndingBlind) :
    c.runDetected (Line.normalize content) = c.runDetected content := by
  simp only [runDetected, Registry.detect_normalize valid blind]
  refine Registry.accepting?_bind_congr rfl fun r member => ?_
  exact (blind r ((Registry.mem_ranked valid).mp member)).run _ content

theorem runResolution_normalize (valid : c.registry.Consistent)
    (blind : c.registry.IsEndingBlind) {r : Resolution}
    (known : ∀ f ∈ r.registrations, f ∈ c.registry.entries) :
    c.runResolution (Line.normalize content) r = c.runResolution content r := by
  cases r with
  | nothing => rfl
  | detected => exact c.runDetected_normalize content valid blind
  | pattern source => exact Format.AdHoc.parse_normalize source false content
  | group members => exact c.runFirst_normalize content fun r member => blind r (known r member)
  | format r => exact (blind r (known r (List.mem_singleton_self r))).run _ content
  | document name => simp only [runResolution, run, RuleSet.run_normalize]

theorem runParts_normalize (valid : c.registry.Consistent) (blind : c.registry.IsEndingBlind)
    (parts : List String) :
    c.runParts (Line.normalize content) parts = c.runParts content parts := by
  induction parts with
  | nil => rfl
  | cons part rest ih =>
    have known := Registry.mem_resolve valid (.ofText part)
    rw [runParts_cons, runParts_cons, c.runResolution_normalize content valid blind known, ih]

/-- In the formats that are always known, or by a pattern, a log is read to the same end and
recognised as the same format whether its lines end by line feeds, carriage returns or both. -/
theorem parse_standard_normalize (c : Context) (content format : String) :
    let d := { c with registry := .standard }
    d.parse (Line.normalize content) format = d.parse content format ∧
    d.detectedName (Line.normalize content) = d.detectedName content := by
  intro d
  have valid : d.registry.Consistent := Registry.standard_standing.consistent
  have blind : d.registry.IsEndingBlind := Registry.standard_isEndingBlind
  constructor
  · exact d.runParts_normalize content valid blind (Specifier.parts format)
  · simp only [detectedName, Registry.detect_normalize valid blind]

end Context

end BuildLog
