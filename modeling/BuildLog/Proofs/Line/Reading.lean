import BuildLog.Line.Reader
import BuildLog.Proofs.Line.Delivery

/-! A text has the same lines in every way to look for them: read one by one with their
terminators, cut at the line feeds that the terminators become, or by the place of the first
terminator alone. No character of a line is lost but by the limit. -/
namespace BuildLog

namespace Text

variable {c d : Char} {u : List Char}

theorem find?_self (c : Char) (rest : List Char) : find? [c] (c :: rest) = some 0 := by
  simp [find?]

theorem find?_cons (apart : c ≠ d) (rest : List Char) :
    find? [c] (d :: rest) = (find? [c] rest).map (· + 1) := by
  simp [find?, apart]

theorem find?_behind (apart : c ∉ u) (rest : List Char) :
    find? [c] (u ++ rest) = (find? [c] rest).map (· + u.length) := by
  induction u with
  | nil => simp
  | cons d u ih =>
    rw [List.mem_cons, not_or] at apart
    rw [List.cons_append, find?_cons apart.1, ih apart.2]
    simp [Nat.add_assoc, Function.comp_def]

theorem find?_missing (apart : c ∉ u) : find? [c] u = none := by
  simpa [find?] using find?_behind apart []

end Text

namespace Line

/-- The first of the texts is the terminator that stands before the second. -/
inductive Terminates : List Char → List Char → Prop
  | feed {rest} : Terminates ['\n'] rest
  | both {rest} : Terminates ['\r', '\n'] rest
  | back {rest} (single : ∀ tail, rest ≠ '\n' :: tail) : Terminates ['\r'] rest

variable {u ending rest : List Char}

theorem Terminates.ne_nil (ends : Terminates ending rest) : ending ≠ [] := by
  cases ends <;> simp

/-- A text is one line without terminator, or its first line stands before a terminator. -/
theorem isUnbroken_or_terminates (cs : List Char) :
    IsUnbroken cs ∨ ∃ u ending rest, cs = u ++ (ending ++ rest) ∧ IsUnbroken u ∧
      Terminates ending rest := by
  fun_induction normalizeChars cs with
  | case1 => exact .inl isUnbroken_nil
  | case2 rest ih => exact .inr ⟨[], ['\r', '\n'], rest, rfl, isUnbroken_nil, .both⟩
  | case3 rest apart ih => exact .inr ⟨[], ['\r'], rest, rfl, isUnbroken_nil, .back apart⟩
  | case4 c rest _ back ih =>
    by_cases feed : c = '\n'
    · subst feed
      exact .inr ⟨[], ['\n'], rest, rfl, isUnbroken_nil, .feed⟩
    rcases ih with unbroken | ⟨u, ending, later, rfl, unbroken, ends⟩
    · exact .inl (isUnbroken_cons.mpr ⟨⟨back, feed⟩, unbroken⟩)
    · refine .inr ⟨c :: u, ending, later, rfl, isUnbroken_cons.mpr ⟨⟨back, feed⟩, unbroken⟩, ends⟩

/-- Induction on the lines of a text. -/
@[elab_as_elim]
theorem induction_lines {motive : List Char → Prop}
    (last : ∀ u, IsUnbroken u → motive u)
    (line : ∀ u ending rest, IsUnbroken u → Terminates ending rest → motive rest →
      motive (u ++ (ending ++ rest))) (cs : List Char) : motive cs := by
  rcases isUnbroken_or_terminates cs with unbroken | ⟨u, ending, rest, same, unbroken, ends⟩
  · exact last cs unbroken
  · have shorter : rest.length < cs.length := by
      have filled := List.length_pos_iff.mpr ends.ne_nil
      simp only [same, List.length_append]
      omega
    rw [same]
    exact line u ending rest unbroken ends (induction_lines last line rest)
termination_by cs.length

theorem split_append_ending (unbroken : IsUnbroken u) (ends : Terminates ending rest) :
    split (u ++ (ending ++ rest)) = u :: split rest := by
  rw [split, splitFrom_append unbroken, List.append_nil]
  cases ends with
  | feed => simp [splitFrom, split]
  | both => simp [splitFrom, split]
  | back single =>
    rw [List.singleton_append, splitFrom, List.reverse_reverse, split]
    exact single

theorem normalizeChars_append_ending (unbroken : IsUnbroken u) (ends : Terminates ending rest) :
    normalizeChars (u ++ (ending ++ rest)) = u ++ '\n' :: normalizeChars rest := by
  rw [normalizeChars_inside_append unbroken]
  cases ends with
  | feed => rw [List.singleton_append, normalizeChars_cons (by decide)]
  | both => rw [List.cons_append, List.singleton_append, normalizeChars]
  | back single => rw [List.singleton_append, normalizeChars_return single]

/-- What stands between the line feeds of a text; an empty piece at the end is left out. -/
def pieces (cs : List Char) : List (List Char) :=
  let parts := cs.splitOn '\n'
  if parts.getLast? = some [] then parts.dropLast else parts

theorem feed_not_mem (unbroken : IsUnbroken u) : '\n' ∉ u := fun feed => (unbroken _ feed).2 rfl

theorem return_not_mem (unbroken : IsUnbroken u) : '\r' ∉ u := fun back => (unbroken _ back).1 rfl

theorem pieces_of_isUnbroken (unbroken : IsUnbroken u) :
    pieces u = if u = [] then [] else [u] := by
  rw [pieces, List.splitOn_eq_singleton (feed_not_mem unbroken)]
  by_cases empty : u = [] <;> simp [empty]

theorem pieces_append_feed (unbroken : IsUnbroken u) (rest : List Char) :
    pieces (u ++ '\n' :: rest) = u :: pieces rest := by
  have filled := List.splitOn_ne_nil '\n' rest
  rw [pieces, List.splitOn_append_cons_self_of_not_mem (feed_not_mem unbroken), pieces]
  simp only [List.getLast?_cons_of_ne_nil filled, List.dropLast_cons_of_ne_nil filled]
  split <;> rfl

/-- The lines of a text are the pieces that remain when all terminators are line feeds. -/
theorem split_eq_pieces (cs : List Char) : split cs = pieces (normalizeChars cs) := by
  induction cs using induction_lines with
  | last u unbroken =>
    rw [split_of_isUnbroken unbroken, normalizeChars_eq_self (return_not_mem unbroken),
      pieces_of_isUnbroken unbroken]
  | line u ending rest unbroken ends ih =>
    rw [split_append_ending unbroken ends, normalizeChars_append_ending unbroken ends,
      pieces_append_feed unbroken, ih]

/-- Every carriage return with a line feed behind it gives way to the line feed. -/
def joinEndings : List Char → List Char
  | [] => []
  | '\r' :: '\n' :: rest => '\n' :: joinEndings rest
  | c :: rest => c :: joinEndings rest

theorem joinEndings_cons {c : Char} (single : ∀ tail, c = '\r' → rest ≠ '\n' :: tail) :
    joinEndings (c :: rest) = c :: joinEndings rest := by
  rw [joinEndings]
  exact single

/-- One pass over the terminators does the same as two, one for those of two characters and one for
the carriage returns that are left. -/
theorem normalizeChars_eq_map (cs : List Char) :
    normalizeChars cs = (joinEndings cs).map fun c => if c = '\r' then '\n' else c := by
  fun_induction normalizeChars cs with
  | case1 => rfl
  | case2 rest ih => simp [joinEndings, ih]
  | case3 rest apart ih => simp [joinEndings_cons fun tail _ => apart tail, ih]
  | case4 c rest single back ih =>
    have kept : (if c = '\r' then '\n' else c) = c := if_neg back
    rw [joinEndings_cons single, List.map_cons, kept, ih]

theorem firstEnding_of_isUnbroken {s : String} (unbroken : IsUnbroken s.toList) :
    firstEnding s = "" := by
  simp only [firstEnding, Text.find?_missing (feed_not_mem unbroken),
    Text.find?_missing (return_not_mem unbroken)]

theorem firstEnding_append {s : String} (written : s.toList = u ++ (ending ++ rest))
    (unbroken : IsUnbroken u) (ends : Terminates ending rest) :
    (firstEnding s).toList = ending := by
  have feeds := Text.find?_behind (feed_not_mem unbroken) (ending ++ rest)
  have backs := Text.find?_behind (return_not_mem unbroken) (ending ++ rest)
  unfold firstEnding
  dsimp only
  rw [written, feeds, backs]
  cases ends with
  | feed =>
    rw [List.singleton_append, Text.find?_self, Text.find?_cons (by decide)]
    cases Text.find? ['\r'] rest with
    | none => simp
    | some n => simp
  | both =>
    rw [List.cons_append, Text.find?_cons (by decide), Text.find?_self]
    -- the carriage return stands first
    have later : ¬1 + u.length < u.length := by omega
    simp [Text.find?_self, later]
  | back single =>
    rw [List.singleton_append, Text.find?_self, Text.find?_cons (by decide)]
    have other : (rest.take 1 == ['\n']) = false := by
      cases rest with
      | nil => rfl
      | cons c tail =>
        have apart : c ≠ '\n' := fun feed => single tail (by rw [feed])
        simpa using apart
    cases Text.find? ['\n'] rest with
    | none => simp [other]
    | some n =>
      have later : ¬n + 1 + u.length < u.length := by omega
      simp [other, later]

theorem nextRaw_append (unbroken : IsUnbroken u) (taken rest : List Char) :
    nextRaw taken (u ++ rest) = nextRaw (u.reverse ++ taken) rest := by
  induction u generalizing taken with
  | nil => rfl
  | cons c u ih =>
    obtain ⟨⟨back, feed⟩, unbroken⟩ := isUnbroken_cons.mp unbroken
    have first : nextRaw taken (c :: (u ++ rest)) = nextRaw (c :: taken) (u ++ rest) := by
      rw [nextRaw]
      · exact fun _ same => absurd same back
      · exact back
      · exact feed
    rw [List.cons_append, first, ih unbroken]
    simp

theorem nextRaw_of_isUnbroken (unbroken : IsUnbroken u) : nextRaw [] u = (u, []) := by
  have whole := nextRaw_append unbroken [] []
  rw [List.append_nil, List.append_nil] at whole
  rw [whole, nextRaw, List.reverse_reverse]

theorem nextRaw_append_ending (unbroken : IsUnbroken u) (ends : Terminates ending rest) :
    nextRaw [] (u ++ (ending ++ rest)) = (u ++ ending, rest) := by
  rw [nextRaw_append unbroken, List.append_nil]
  cases ends with
  | feed => simp [nextRaw]
  | both => simp [nextRaw]
  | back single =>
    rw [List.singleton_append, nextRaw, List.reverse_cons, List.reverse_reverse]
    exact single

theorem withoutEnding_of_isUnbroken (unbroken : IsUnbroken u) : withoutEnding u = u := by
  have apart (v : List Char) (c : Char) (outside : c ∉ u) :
      (v ++ [c]).isSuffixOf u = false := by
    rw [Bool.eq_false_iff]
    intro ends
    have within := (List.isSuffixOf_iff_suffix.mp ends).subset
    exact outside (within (by simp))
  have both := apart ['\r'] '\n' (feed_not_mem unbroken)
  have feed := apart [] '\n' (feed_not_mem unbroken)
  have back := apart [] '\r' (return_not_mem unbroken)
  rw [List.singleton_append] at both
  rw [List.nil_append] at feed back
  simp [withoutEnding, both, feed, back]

theorem withoutEnding_append (unbroken : IsUnbroken u) (ends : Terminates ending rest) :
    withoutEnding (u ++ ending) = u := by
  have single (c : Char) (ends : c = '\n' ∨ c = '\r') : withoutEnding (u ++ [c]) = u := by
    have notBoth : ['\r', '\n'].isSuffixOf (u ++ [c]) = false := by
      rw [Bool.eq_false_iff]
      intro both
      have within := (List.isSuffixOf_iff_suffix.mp both).subset
      have back : '\r' = c := by simpa [return_not_mem unbroken] using within (a := '\r') (by simp)
      have feed : '\n' = c := by simpa [feed_not_mem unbroken] using within (a := '\n') (by simp)
      exact absurd (back.trans feed.symm) (by decide)
    have one : (['\n'].isSuffixOf (u ++ [c]) || ['\r'].isSuffixOf (u ++ [c])) = true := by
      rcases ends with rfl | rfl <;> simp
    rw [withoutEnding, notBoth, one]
    simp
  cases ends with
  | feed => exact single '\n' (.inl rfl)
  | back => exact single '\r' (.inr rfl)
  | both =>
    have both : ['\r', '\n'].isSuffixOf (u ++ ['\r', '\n']) = true := by simp
    have apart : u ++ ['\r', '\n'] = u ++ ['\r'] ++ ['\n'] := by simp
    rw [withoutEnding, both, if_pos rfl, apart, List.dropLast_concat, List.dropLast_concat]

namespace Reader

theorem deliver_of_isExhausted {r : Reader} (exhausted : r.isExhausted = true) (calls : Nat) :
    r.deliver calls = [] := by
  have none : r.next = (none, r) := by simp [next, exhausted]
  induction calls with
  | zero => rfl
  | succ calls ih => simp [deliver, none, ih]

theorem next_of_nil {r : Reader} (ready : r.isExhausted = false) (empty : r.rest = []) :
    r.next = (none, { r with isExhausted := true }) := by
  simp [next, ready, empty, nextRaw]

theorem next_of_line {r : Reader} (ready : r.isExhausted = false) {raw later : List Char}
    (taken : nextRaw [] r.rest = (raw, later)) (filled : raw ≠ []) :
    ∃ isCut, r.next = (some (capped r.limit (r.number + 1) (withoutEnding raw)),
      { r with rest := later, number := r.number + 1, isCut }) := by
  refine ⟨(capped r.limit (r.number + 1) (withoutEnding raw)).isCut, ?_⟩
  simp [next, ready, taken, filled]

/-- Calls give the lines of the text to come, numbered on from the line read last. -/
theorem deliver_eq_take {r : Reader} (ready : r.isExhausted = false) (calls : Nat) :
    r.deliver calls =
      ((split r.rest).mapIdx fun i cs => capped r.limit (r.number + (i + 1)) cs).take calls := by
  induction calls generalizing r with
  | zero => simp [deliver]
  | succ calls ih =>
    rcases isUnbroken_or_terminates r.rest with
      unbroken | ⟨u, ending, rest, written, unbroken, ends⟩
    · by_cases empty : r.rest = []
      · rw [deliver, next_of_nil ready empty, empty]
        simp [deliver_of_isExhausted, split, splitFrom]
      · obtain ⟨isCut, read⟩ := next_of_line ready (nextRaw_of_isUnbroken unbroken) empty
        rw [deliver, read]
        dsimp only
        rw [ih (by exact ready), withoutEnding_of_isUnbroken unbroken, split_of_isUnbroken unbroken,
          if_neg empty]
        simp [split, splitFrom]
    · have taken : nextRaw [] r.rest = (u ++ ending, rest) := by
        rw [written, nextRaw_append_ending unbroken ends]
      obtain ⟨isCut, read⟩ := next_of_line ready taken (by simp [ends.ne_nil])
      rw [deliver, read]
      dsimp only
      rw [ih (by exact ready), withoutEnding_append unbroken ends, written,
        split_append_ending unbroken ends, List.mapIdx_cons, List.take_succ_cons]
      simp [Nat.add_assoc, Nat.add_comm 1]

end Reader

/-- A reader gives the lines of a text one after another, and then no more. They are the pieces
between line feeds once every terminator is one, numbered from one; a longer one than `most`
characters is cut, with three points at its end, and all others are whole. Terminators that have
become line feeds stay as they are; and the first one, told by its place alone, is the one that ends
the first line. -/
theorem read_pieces (limit : Int) (content : String) :
    let most := (max limit 4).toNat
    let lines := pieces (normalize content).toList
    (∀ calls, (Reader.start limit content).deliver calls = (read limit content).take calls) ∧
    read limit content = (lines.mapIdx fun i u =>
      if u.length ≤ most then ⟨i + 1, String.ofList u, false⟩
      else ⟨i + 1, String.ofList (u.take (most - 3) ++ ['.', '.', '.']), true⟩) ∧
    (∀ line ∈ read limit content, '\r' ∉ line.text.toList ∧ '\n' ∉ line.text.toList) ∧
    normalize (normalize content) = normalize content ∧
    (normalize content).toList =
      (joinEndings content.toList).map (fun c => if c = '\r' then '\n' else c) ∧
    ((IsUnbroken content.toList ∧ firstEnding content = "") ∨
      ∃ u rest, content.toList = u ++ ((firstEnding content).toList ++ rest) ∧ IsUnbroken u ∧
        Terminates (firstEnding content).toList rest ∧ lines.head? = some u) := by
  intro most lines
  have same : split content.toList = lines := by
    rw [split_eq_pieces, ← toList_normalize]
  refine ⟨fun calls => ?_, ?_, fun line member => ?_, ?_, ?_, ?_⟩
  · rw [Reader.deliver_eq_take rfl]
    simp [Reader.start, read]
  · have limited : effectiveLimit limit = most := rfl
    rw [read, same, limited]
    congr 1
    funext i u
    by_cases short : u.length ≤ most
    · rw [if_pos short, capped_of_short short]
    · rw [if_neg short, capped_of_long (Nat.lt_of_not_le short)]
      rfl
  · have unbroken := read_isUnbroken member
    exact ⟨return_not_mem unbroken, feed_not_mem unbroken⟩
  · rw [normalize, toList_normalize, normalizeChars_normalizeChars, normalize]
  · rw [toList_normalize, normalizeChars_eq_map]
  · rcases isUnbroken_or_terminates content.toList with
      unbroken | ⟨u, ending, rest, written, unbroken, ends⟩
    · exact .inl ⟨unbroken, firstEnding_of_isUnbroken unbroken⟩
    · obtain rfl := firstEnding_append written unbroken ends
      refine .inr ⟨u, rest, written, unbroken, ends, ?_⟩
      rw [← same, written, split_append_ending unbroken ends, List.head?_cons]

example : ((read 5 "longer\r\r\nb\n\r").map fun line => (line.number, line.text, line.isCut)) =
    [(1, "lo...", true), (2, "", false), (3, "b", false), (4, "", false)] := by decide

end Line

end BuildLog
