import Logworks.Outcome
import Logworks.Proofs.Rotation.Shelf
import Logworks.Rotation.Compressed
import Mathlib.Algebra.GroupWithZero.Nat

/-!
# A compressed history as a row of segments

What a log with a compressed history is to keep: a text that is cut into segments, each with what
the codec made of it. No disk and no codec is in here. This file fixes

* `Segment.file` -- the one file a segment is kept as;
* `Row.after`, `Row.answer` -- **what a call makes of the row**, and how the call ends;
* `Row.reading_run` -- **segments and active text are all that was written**, whatever codecs do;
* `Row.shelf_after` -- a segment that is not compressed goes into slot 1 of the shelf;
* `Counts` -- the tally that a row has.
-/

namespace Logworks.Rotation

open Logworks.Text

/-- What a codec made of a file: the octets of the new one, or why there is none. -/
abbrev Verdict := Except String Octets

/-- A part of the text that was cut off, with what the codec made of it. -/
structure Segment where
  text : Octets
  verdict : Verdict
  deriving DecidableEq

/-- The file that a segment is kept as: the compressed one, or the plain one if there is none. -/
def Segment.file (suffix : String) (s : Segment) (ending : String) : Option Octets :=
  match s.verdict with
  | .ok bytes => if ending = suffix then some bytes else none
  | .error _ => if ending = "" then some s.text else none

/-- The active text and the segments cut off so far, the newest first. -/
structure Row where
  active : Octets
  segments : List Segment := []
  deriving DecidableEq

/-- A call: the line that it adds, if any, and what the codec makes of the segment that ends with
that line, if one does. -/
structure Asked where
  line : Option String
  verdict : Verdict

/-- What a call adds to the active text. -/
def Asked.text (a : Asked) : Octets :=
  match a.line with
  | some line => octetsOf line ++ [lineFeed]
  | none => []

namespace Row

/-! ## 1. Calls -/

/-- The call ends a segment. -/
def ends (maxSize : Nat) (r : Row) (a : Asked) : Bool :=
  a.line.isSome && decide (maxSize ≤ (r.active ++ a.text).length)

/-- The row after a call. -/
def after (maxSize : Nat) (r : Row) (a : Asked) : Row :=
  if r.ends maxSize a then ⟨[], ⟨r.active ++ a.text, a.verdict⟩ :: r.segments⟩
  else { r with active := r.active ++ a.text }

/-- How a call ends: it fails if it ends a segment that could not be compressed. -/
def answer (maxSize : Nat) (source : String) (r : Row) (a : Asked) : Outcome :=
  match a.verdict with
  | .ok _ => .ok
  | .error words => if r.ends maxSize a then .failed (.compression source words) else .ok

/-- The row after calls. -/
def run (maxSize : Nat) : Row → List Asked → Row
  | r, [] => r
  | r, a :: calls => run maxSize (r.after maxSize a) calls

/-- How calls end. -/
def answers (maxSize : Nat) (source : String) : Row → List Asked → List Outcome
  | _, [] => []
  | r, a :: calls => r.answer maxSize source a :: answers maxSize source (r.after maxSize a) calls

/-- All segments from the oldest, then the active text. -/
def reading (r : Row) : Octets := (r.segments.reverse.map Segment.text).flatten ++ r.active

variable {maxSize maxFiles : Nat}

theorem reading_after (r : Row) (a : Asked) :
    (r.after maxSize a).reading = r.reading ++ a.text := by
  unfold after
  split <;> simp [reading]

/-- **Segments and active text are all that was there and all that was written.** -/
theorem reading_run (r : Row) (calls : List Asked) :
    (r.run maxSize calls).reading = r.reading ++ (calls.map Asked.text).flatten := by
  induction calls generalizing r with
  | nil => simp [run]
  | cons a calls ih =>
    rw [run, ih, reading_after, List.append_assoc, List.map_cons, List.flatten_cons]

/-! ## 2. Slots -/

/-- What the slots hold, were there enough of them. -/
def held (suffix : String) (r : Row) : Nat → String → Option Octets
  | 0, _ => none
  | i + 1, ending => r.segments[i]?.bind fun s => s.file suffix ending

def shelf (suffix : String) (r : Row) : Shelf := ⟨r.active, r.held suffix⟩

/-- **A segment that could not be compressed goes into slot 1**, as the shelf has it. -/
theorem shelf_after (hm : maxFiles ≠ 0) (suffix : String) (r : Row) (line words : String) :
    (r.shelf suffix).after maxSize maxFiles (.line line) =
      (r.after maxSize ⟨some line, .error words⟩).shelf suffix := by
  have hactive : ((r.shelf suffix).append (Errand.line line).text).active =
      r.active ++ (octetsOf line ++ [lineFeed]) := rfl
  have hturns : ((r.shelf suffix).append (Errand.line line).text).turns maxSize (.line line) =
      r.ends maxSize ⟨some line, .error words⟩ := rfl
  rw [Shelf.after, hturns, after]
  split
  · rw [Shelf.turned, if_neg hm]
    refine congrArg (Shelf.mk []) (funext fun i => funext fun e => ?_)
    rcases i with _ | _ | i
    · rfl
    · rfl
    · rfl
  · rfl

end Row

/-! ## 3. The tally -/

/-- The segments that were compressed, each with what it became. -/
def packs (segments : List Segment) : List (Octets × Octets) :=
  segments.filterMap fun s => s.verdict.toOption.map fun bytes => (s.text, bytes)

theorem packs_ok (text bytes : Octets) (segments : List Segment) :
    packs (⟨text, .ok bytes⟩ :: segments) = (text, bytes) :: packs segments := rfl

/-- **The tally counts every segment once**, as compressed or as failed, and adds up the sizes of
those that were compressed. -/
structure Counts (t : Tally) (segments : List Segment) : Prop where
  files : t.files = (packs segments).length
  all : t.files + t.failures = segments.length
  sizeBefore : t.sizeBefore = ((packs segments).map fun p => p.1.length).sum
  sizeAfter : t.sizeAfter = ((packs segments).map fun p => p.2.length).sum

theorem counts_nil : Counts {} [] := ⟨rfl, rfl, rfl, rfl⟩

theorem Counts.success {t : Tally} {segments : List Segment} (h : Counts t segments)
    (text bytes : Octets) :
    Counts (t.success text.length bytes.length) (⟨text, .ok bytes⟩ :: segments) where
  files := congrArg (· + 1) h.files
  all := by
    rw [List.length_cons, ← h.all]
    exact Nat.add_right_comm t.files 1 t.failures
  sizeBefore := by
    rw [packs_ok, List.map_cons, List.sum_cons, ← h.sizeBefore]
    exact Nat.add_comm _ _
  sizeAfter := by
    rw [packs_ok, List.map_cons, List.sum_cons, ← h.sizeAfter]
    exact Nat.add_comm _ _

theorem Counts.failure {t : Tally} {segments : List Segment} (h : Counts t segments)
    (text : Octets) (words : String) :
    Counts t.failure (⟨text, .error words⟩ :: segments) where
  files := h.files
  all := congrArg (· + 1) h.all
  sizeBefore := h.sizeBefore
  sizeAfter := h.sizeAfter

end Logworks.Rotation
