import BuildLog.Line.Stream
import BuildLog.Proofs.Line.Ending

/-! Lines read from bytes as they come in are those of the whole text. What is known of a file at
any byte is a line that has begun and perhaps a carriage return before it; the lines still to come
are those of the text that completes it. -/
namespace BuildLog.Line

open Text

/-- A text without the line feed that ends with a carriage return before it. -/
def withoutFeed : List Char → List Char
  | '\n' :: rest => rest
  | cs => cs

theorem splitFrom_return (current cs : List Char) :
    splitFrom current ('\r' :: cs) = current.reverse :: splitFrom [] (withoutFeed cs) := by
  fun_cases withoutFeed cs with
  | case1 rest => rw [splitFrom]
  | case2 _ apart =>
    rw [splitFrom]
    exact apart

theorem withoutFeed_cons {c : Char} (inside : c ≠ '\n') (rest : List Char) :
    withoutFeed (c :: rest) = c :: rest := by
  rw [withoutFeed]
  rintro _ same
  exact inside (List.cons.inj same).1

namespace Cursor

/-- The lines that are still to end if the given text comes. -/
def pending (s : Cursor) (cs : List Char) : List (List Char) :=
  splitFrom s.current (if s.afterReturn then withoutFeed cs else cs)

theorem pending_nil (s : Cursor) : s.pending [] = s.last := by
  cases h : s.afterReturn <;> simp [pending, h, withoutFeed, splitFrom, last]

/-- A character moves lines from those to come to those that have ended. -/
theorem next_pending (s : Cursor) (c : Char) (cs : List Char) :
    (s.next c).1.toList ++ (s.next c).2.pending cs = s.pending (c :: cs) := by
  by_cases back : c = '\r'
  · subst back
    have kept : (if s.afterReturn then withoutFeed ('\r' :: cs) else '\r' :: cs) = '\r' :: cs := by
      rw [withoutFeed_cons (by decide), ite_self]
    rw [pending, pending, kept, splitFrom_return]
    rfl
  by_cases feed : c = '\n'
  · subst feed
    cases after : s.afterReturn with
    | true => simp [next, pending, after, withoutFeed]
    | false => simp [next, pending, after, splitFrom]
  · have kept : (if s.afterReturn then withoutFeed (c :: cs) else c :: cs) = c :: cs := by
      rw [withoutFeed_cons feed, ite_self]
    rw [pending, pending, kept, splitFrom_cons back feed]
    simp [next, back, feed]

theorem nextAll_pending (s : Cursor) (before after : List Char) :
    (s.nextAll before).1 ++ (s.nextAll before).2.pending after = s.pending (before ++ after) := by
  induction before generalizing s with
  | nil => rfl
  | cons c rest ih =>
    rw [List.cons_append, ← next_pending, ← ih]
    simp only [nextAll, List.append_assoc]

theorem linesFrom_eq (s : Cursor) (open? : Option Utf8.Partial) (bytes : List UInt8) :
    s.linesFrom open? bytes = s.pending (Utf8.shown (Utf8.charsFrom open? bytes)) := by
  induction bytes generalizing s open? with
  | nil =>
    have finished := s.nextAll_pending (Utf8.shown (Utf8.unfinished open?)) []
    rw [pending_nil, List.append_nil] at finished
    exact finished
  | cons b rest ih =>
    have split : Utf8.shown (Utf8.charsFrom open? (b :: rest)) =
        Utf8.shown (Utf8.step open? b.toNat).1 ++
          Utf8.shown (Utf8.charsFrom (Utf8.step open? b.toNat).2 rest) := by
      simp only [Utf8.shown, Utf8.charsFrom, List.map_append]
    rw [split, ← nextAll_pending, ← ih]
    rfl

end Cursor

/-- A file read line by line has the lines of its text. -/
theorem stream_eq_read (limit : Int) (bytes : List UInt8) :
    stream limit bytes = read limit (Utf8.decode bytes) := by
  have lines : Cursor.linesFrom {} none bytes = split (Utf8.decode bytes).toList := by
    rw [Cursor.linesFrom_eq, Utf8.decode, String.toList_ofList]
    rfl
  rw [stream, read, lines]

end BuildLog.Line
