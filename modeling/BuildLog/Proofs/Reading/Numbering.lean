import BuildLog.Proofs.Format.Numbering
import BuildLog.Proofs.Reading.Ending
import BuildLog.Proofs.Registry.Unloading

/-! Numbers of the events that a log is read into. Whatever a specifier stands for, the events are
those of one format, or there are none, so they keep the numbers that the format gave them. -/
namespace BuildLog

namespace Registry

def IsNumbering (g : Registry) : Prop := ∀ r ∈ g.entries, r.format.IsNumbering

theorem Standing.isNumbering [Host] {g : Registry} (valid : g.Standing) : g.IsNumbering := by
  intro r member
  cases known : r.profile.isBuiltin with
  | true => exact Format.builtins_isNumbering _ (mem_ofFormats (valid.mem_standard member known))
  | false =>
    obtain ⟨text, rules, -, own⟩ := (valid.loaded r member known).1
    rw [own]
    exact rules.format_isNumbering

/-- A log is recognised as one of the formats that were asked. -/
theorem accepting?_mem {content : String} {members : List Registration} {r : Registration}
    (done : (accepting? content members).Returns (some r)) : r ∈ members := by
  obtain ⟨told, told', done⟩ := done
  obtain ⟨before, after, rfl, -⟩ := (accepting?_eq_some _ _ _ _ _).mp done
  simp

end Registry

namespace Context

section

variable [Host] {c : Context} {content : String} {events : List Event}

theorem tryRun_numbered {f : Format} (numbering : f.IsNumbering)
    (done : (c.tryRun f content).Returns events) : NumberedFrom 1 events := by
  obtain ⟨accepted, -, done⟩ := Run.returns_bind done
  cases accepted with
  | true => exact numbering _ _ _ done
  | false =>
    rw [← Run.returns_pure.mp done]
    trivial

theorem runFirst_numbered {members : List Registration}
    (numbering : ∀ r ∈ members, r.format.IsNumbering)
    (done : (c.runFirst content members).Returns events) : NumberedFrom 1 events := by
  induction members with
  | nil =>
    rw [← Run.returns_pure.mp done]
    trivial
  | cons r rest ih =>
    obtain ⟨found, tried, done⟩ := Run.returns_bind done
    cases empty : found.isEmpty with
    | true =>
      simp only [empty, if_true] at done
      exact ih (fun r member => numbering r (by simp [member])) done
    | false =>
      simp only [empty, Bool.false_eq_true, if_false] at done
      obtain rfl := Run.returns_pure.mp done
      rcases Run.returns_orElse tried with own | none
      · exact tryRun_numbered (numbering r (by simp)) own
      · simp [none] at empty

theorem runResolution_numbered (valid : c.registry.Consistent)
    (numbering : c.registry.IsNumbering) {r : Resolution}
    (known : ∀ f ∈ r.registrations, f ∈ c.registry.entries)
    (done : (c.runResolution content r).Returns events) : NumberedFrom 1 events := by
  cases r with
  | nothing =>
    rw [← Run.returns_pure.mp done]
    trivial
  | detected =>
    obtain ⟨chosen, recognised, done⟩ := Run.returns_bind done
    cases chosen with
    | none =>
      rw [← Run.returns_pure.mp done]
      trivial
    | some r =>
      have member := (Registry.mem_ranked valid).mp (Registry.accepting?_mem recognised)
      exact numbering r member _ _ _ done
  | pattern source => exact Format.AdHoc.parse_numbered done
  | group members => exact runFirst_numbered (fun r member => numbering r (known r member)) done
  | format r => exact numbering r (known r (List.mem_singleton_self r)) _ _ _ done
  | document name =>
    obtain ⟨rules, -, done⟩ := Run.returns_bind done
    exact rules.format_isNumbering _ _ _ done

theorem runParts_numbered (valid : c.registry.Consistent) (numbering : c.registry.IsNumbering)
    {parts : List String} (done : (c.runParts content parts).Returns events) :
    NumberedFrom 1 events := by
  induction parts with
  | nil =>
    rw [← Run.returns_pure.mp done]
    trivial
  | cons part rest ih =>
    rw [runParts_cons] at done
    obtain ⟨found, first, done⟩ := Run.returns_bind done
    split at done
    · exact ih done
    · obtain rfl := Run.returns_pure.mp done
      exact runResolution_numbered valid numbering (Registry.mem_resolve valid _) first

/-- Whatever was loaded and unloaded before, and whatever the specifier stands for, if a log is
read into events then these are numbered 1, 2, 3 and so on in their order. -/
theorem parse_ids (told : Array Notice) (calls : List Registry.Call) (c : Context)
    (content format : String) {events : List Event}
    (done : ({ c with registry := Registry.standard.callAll told calls }.parse content
      format).Returns events) :
    events.map (·.id) = (List.range events.length).map fun i : Nat => (i : Int) + 1 := by
  have valid : (Registry.standard.callAll told calls).Standing :=
    Registry.callAll_standing told calls
  exact numberedFrom_iff.mp (runParts_numbered valid.consistent valid.isNumbering done)

end

/-- A line that is passed over takes no number. -/
theorem parse_ids_overlappingCalls :
    let c : Context := { registry := Registry.standard.callAll #[] Registry.overlappingCalls }
    ∃ events, (c.parse "error: a\nb\ninfo: c" " generic_error").Returns events ∧
      events.length = 2 ∧ events.map (·.id) = [1, 2] := by
  intro c
  have came := congrArg Prod.fst Registry.foldl_overlapping
  obtain ⟨events, read, two⟩ : ∃ events,
      c.parse "error: a\nb\ninfo: c" " generic_error" = pure events ∧ events.length = 2 := by
    simp only [c, Registry.callAll, came]
    exact ⟨_, rfl, rfl⟩
  have done : (c.parse "error: a\nb\ninfo: c" " generic_error").Returns events := by
    rw [read]
    exact Run.returns_pure.mpr rfl
  have ids := parse_ids #[] Registry.overlappingCalls {} _ _ done
  rw [two] at ids
  exact ⟨events, done, two, ids⟩

end Context

end BuildLog
