import Logworks.Logger
import Mathlib.Data.List.DropRight

/-!
# What changes come to

A change of a logger adds a sink or a filter behind those there are, takes all of them away, or sets
something. What a logger is after many changes is told here by their history, without going through
the loggers in between. This file fixes

* `standing` -- **what was added since all was taken away last**, in the order it came, and behind
  what there was at first if nothing was ever taken away;
* `latest` -- what was set last;
* `Logger.Configured` -- the sinks, the filters, the single predicate, the level and the fields of a
  logger are what the history says; `Configured.changed` -- **so they are after one more change**.
-/

namespace Logworks

variable {α β : Type}

/-! ## 1. Histories -/

/-- What stands of things that are added one by one and taken away all at once. -/
def standing (clears : α → Bool) (adds : α → Option β) (start : List β) (history : List α) :
    List β :=
  (if history.any clears then [] else start) ++
    (history.rtakeWhile fun c => !clears c).filterMap adds

/-- What was set last, or what there was at first. -/
def latest (sets : α → Option β) (start : β) (history : List α) : β :=
  (history.filterMap sets).getLast?.getD start

theorem standing_concat (clears : α → Bool) (adds : α → Option β) (start : List β)
    (history : List α) (c : α) :
    standing clears adds start (history ++ [c]) =
      if clears c then [] else standing clears adds start history ++ (adds c).toList := by
  have hany : (history ++ [c]).any clears = (history.any clears || clears c) := by simp
  rw [standing, standing, hany, List.rtakeWhile_concat]
  cases hc : clears c with
  | true => simp
  | false => cases ha : adds c <;> simp [ha]

theorem latest_concat (sets : α → Option β) (start : β) (history : List α) (c : α) :
    latest sets start (history ++ [c]) = (sets c).getD (latest sets start history) := by
  rw [latest, latest, List.filterMap_append]
  cases h : sets c <;> simp [h]

/-! ## 2. Loggers -/

namespace Logger

variable {π ι : Type} {start l : Logger π ι} {history : List (Change π ι)}

/-- **The logger is what these changes have made of the one at the start**, the counters aside. -/
structure Configured (start : Logger π ι) (history : List (Change π ι)) (l : Logger π ι) :
    Prop where
  name : l.name = start.name
  level : l.level = latest Change.level? start.level history
  sinks : l.sinks = standing Change.clearsSinks Change.sink? start.sinks history
  filters : l.admission.filters =
    standing Change.clearsFilters Change.filter? start.admission.filters history
  predicate : l.admission.predicate =
    (standing Change.clearsFilters Change.predicate? start.admission.predicate.toList
      history).getLast?
  context : l.context = latest Change.context? start.context history

theorem Configured.refl (l : Logger π ι) : l.Configured [] l where
  name := rfl
  level := rfl
  sinks := (List.append_nil _).symm
  filters := (List.append_nil _).symm
  predicate := by cases h : l.admission.predicate <;> rfl
  context := rfl

/-- **One more change.** -/
theorem Configured.changed (h : start.Configured history l) (c : Change π ι) :
    start.Configured (history ++ [c]) (l.changed c) where
  name := (name_changed l c).trans h.name
  level := by rw [level_changed, latest_concat, h.level]
  sinks := by rw [sinks_changed, standing_concat, h.sinks]
  filters := by rw [filters_changed, standing_concat, h.filters]
  predicate := by
    rw [predicate_changed, standing_concat, h.predicate]
    cases c.clearsFilters with
    | true => rfl
    | false =>
      cases hp : c.predicate? <;> simp
  context := by rw [context_changed, latest_concat, h.context]

/-- The counters are no part of it. -/
theorem Configured.recounted (h : start.Configured history l) (m : Metrics) :
    start.Configured history { l with metrics := m } :=
  ⟨h.name, h.level, h.sinks, h.filters, h.predicate, h.context⟩

end Logger

end Logworks
