import Logworks.Rotation.Log
import Mathlib.Data.List.Basic

/-!
# A log as a row of segments

What a rotating log is to keep: a text that grows at its end and is cut into segments, of which
the oldest is let go. No disk and no writer is in here. This file fixes

* `Shelf` -- the active text, and what each slot holds under each ending;
* `Errand`, `Shelf.after` -- **what a call makes of the shelf**; `Shelf.answers` -- which calls
  rotate;
* `Shelf.reading` -- the slots from the oldest to the newest, then the active text;
* `evicted_append_reading` -- **reading gives all that was there and all that was written, but for
  whole slots that were let go**.
-/

namespace Logworks.Rotation

open Logworks.Text

/-- What is asked of a log. -/
inductive Errand where
  | line (text : String)
  | flush
  | rotate
  deriving DecidableEq, Repr

/-- What a call adds to the active text. -/
def Errand.text : Errand → Octets
  | line s => octetsOf s ++ [lineFeed]
  | flush | rotate => []

/-- The active text, and what a slot holds under an ending. The plain file has the empty one. -/
structure Shelf where
  active : Octets
  held : Nat → String → Option Octets

namespace Shelf

/-! ## 1. Calls -/

def append (s : Shelf) (bytes : Octets) : Shelf := { s with active := s.active ++ bytes }

/-- The slots after a rotation: slot 1 holds the active text alone, each other one holds what the
slot below it held, under every ending. -/
def shifted (s : Shelf) : Nat → String → Option Octets
  | 0, _ => none
  | 1, ending => if ending = "" then some s.active else none
  | i + 2, ending => s.held (i + 1) ending

/-- The shelf after a rotation. Without slots the active text is lost. -/
def turned (maxFiles : Nat) (s : Shelf) : Shelf :=
  if maxFiles = 0 then { s with active := [] } else { active := [], held := s.shifted }

/-- The call rotates, given the shelf that has the text of the call. -/
def turns (maxSize : Nat) (s : Shelf) : Errand → Bool
  | .line _ => decide (maxSize ≤ s.active.length)
  | .flush => false
  | .rotate => true

/-- The shelf after a call. -/
def after (maxSize maxFiles : Nat) (s : Shelf) (c : Errand) : Shelf :=
  let s := s.append c.text
  if s.turns maxSize c then s.turned maxFiles else s

/-- The shelf after calls. -/
def run (maxSize maxFiles : Nat) : Shelf → List Errand → Shelf
  | s, [] => s
  | s, c :: calls => run maxSize maxFiles (s.after maxSize maxFiles c) calls

/-- Which of the calls rotate. -/
def answers (maxSize maxFiles : Nat) : Shelf → List Errand → List Bool
  | _, [] => []
  | s, c :: calls =>
    (s.append c.text).turns maxSize c :: answers maxSize maxFiles (s.after maxSize maxFiles c) calls

/-! ## 2. Reading -/

/-- What a slot holds, the plain file first. -/
def slotText (suffixes : List String) (s : Shelf) (i : Nat) : Octets :=
  (("" :: suffixes).filterMap (s.held i)).flatten

/-- The slots from one down to the first. -/
def history (suffixes : List String) (s : Shelf) : Nat → Octets
  | 0 => []
  | n + 1 => s.slotText suffixes (n + 1) ++ history suffixes s n

/-- All that is kept, from the oldest. -/
def reading (maxFiles : Nat) (suffixes : List String) (s : Shelf) : Octets :=
  s.history suffixes maxFiles ++ s.active

/-- What a rotation lets go: the last slot, or the active text if there is none. -/
def leaving (maxFiles : Nat) (suffixes : List String) (s : Shelf) : Octets :=
  match maxFiles with
  | 0 => s.active
  | n + 1 => s.slotText suffixes (n + 1)

/-- What the calls let go, one item a rotation. -/
def evicted (maxSize maxFiles : Nat) (suffixes : List String) : Shelf → List Errand → List Octets
  | _, [] => []
  | s, c :: calls =>
    (if (s.append c.text).turns maxSize c then [(s.append c.text).leaving maxFiles suffixes]
      else []) ++ evicted maxSize maxFiles suffixes (s.after maxSize maxFiles c) calls

variable {maxSize maxFiles : Nat} {suffixes : List String}

/-- Reading takes nothing but the active text and the slots there are. -/
theorem reading_congr {s t : Shelf} (ha : s.active = t.active)
    (hh : ∀ i e, 1 ≤ i → i ≤ maxFiles → e ∈ "" :: suffixes → s.held i e = t.held i e) :
    s.reading maxFiles suffixes = t.reading maxFiles suffixes := by
  have hhistory : ∀ n ≤ maxFiles, s.history suffixes n = t.history suffixes n := by
    intro n hn
    induction n with
    | zero => rfl
    | succ n ih =>
      have hslot : ("" :: suffixes).filterMap (s.held (n + 1)) =
          ("" :: suffixes).filterMap (t.held (n + 1)) :=
        List.filterMap_congr fun e he => hh (n + 1) e (by omega) hn he
      rw [history, history, slotText, slotText, hslot, ih (by omega)]
  rw [reading, reading, hhistory maxFiles (Nat.le_refl _), ha]

theorem slotText_append (s : Shelf) (bytes : Octets) (i : Nat) :
    (s.append bytes).slotText suffixes i = s.slotText suffixes i := rfl

theorem history_append (s : Shelf) (bytes : Octets) (n : Nat) :
    (s.append bytes).history suffixes n = s.history suffixes n := by
  induction n with
  | zero => rfl
  | succ n ih => rw [history, history, ih, slotText_append]

theorem reading_append (s : Shelf) (bytes : Octets) :
    (s.append bytes).reading maxFiles suffixes = s.reading maxFiles suffixes ++ bytes := by
  rw [reading, reading, history_append, List.append_assoc]
  rfl

/-- Slot 1 holds the active text after a rotation, and nothing else. -/
theorem slotText_shifted_one (h : "" ∉ suffixes) (s : Shelf) :
    slotText suffixes ⟨[], s.shifted⟩ 1 = s.active := by
  have hp : s.shifted 1 "" = some s.active := rfl
  have hs : suffixes.filterMap (s.shifted 1) = [] := by
    rw [List.filterMap_eq_nil_iff]
    intro e he
    exact if_neg fun e' : e = "" => h (e' ▸ he)
  show ((("" :: suffixes).filterMap (s.shifted 1)).flatten : Octets) = s.active
  rw [List.filterMap_cons, hp, hs]
  simp

/-- The history after a rotation is the one before, and the active text behind it. -/
theorem history_shifted (h : "" ∉ suffixes) (s : Shelf) (n : Nat) :
    history suffixes ⟨[], s.shifted⟩ (n + 1) = s.history suffixes n ++ s.active := by
  induction n with
  | zero =>
    show slotText suffixes ⟨[], s.shifted⟩ 1 ++ [] = [] ++ s.active
    rw [slotText_shifted_one h, List.append_nil, List.nil_append]
  | succ n ih =>
    rw [history, ih, history, List.append_assoc]
    rfl

/-- **A rotation lets go one slot, whole.** -/
theorem leaving_append_reading (h : "" ∉ suffixes) (s : Shelf) :
    s.leaving maxFiles suffixes ++ (s.turned maxFiles).reading maxFiles suffixes =
      s.reading maxFiles suffixes := by
  cases maxFiles with
  | zero =>
    show s.active ++ ([] ++ []) = [] ++ s.active
    simp
  | succ n =>
    show s.slotText suffixes (n + 1) ++ (history suffixes ⟨[], s.shifted⟩ (n + 1) ++ []) =
      s.slotText suffixes (n + 1) ++ s.history suffixes n ++ s.active
    rw [history_shifted h, List.append_nil, List.append_assoc]

/-- **All that was there and all that was written is what was let go and what is kept.** -/
theorem evicted_append_reading (h : "" ∉ suffixes) (s : Shelf) (calls : List Errand) :
    (s.evicted maxSize maxFiles suffixes calls).flatten ++
        (s.run maxSize maxFiles calls).reading maxFiles suffixes =
      s.reading maxFiles suffixes ++ (calls.map Errand.text).flatten := by
  induction calls generalizing s with
  | nil => simp [evicted, run]
  | cons c calls ih =>
    rw [evicted, run, List.flatten_append, List.append_assoc, ih, List.map_cons,
      List.flatten_cons, ← List.append_assoc, ← List.append_assoc, ← reading_append, after]
    split
    · rw [List.flatten_singleton, leaving_append_reading h]
    · rfl

end Shelf

end Logworks.Rotation
