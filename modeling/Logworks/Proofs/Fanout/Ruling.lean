import Logworks.Delivery.Queue
import Logworks.Proofs.Fanout.Course

/-!
# The ruling on a record

A logger whose predicates look at the record and the fields in force, and at nothing else, rules on
a record the same whichever thread delivers it, and when. This file fixes

* `Scene.Alike` -- scenes that differ in thread and time at most;
* `Admission.Pure` -- the predicates of a logger tell no more scenes apart, and none throws;
* `Logger.ruling`, `Logger.asks`, `Logger.ruled` -- the verdict on a post, and what it does to the
  sinks and the counters;
* `course_post` -- **every course of a delivery does just that**.
-/

namespace Logworks

/-! ## 1. Scenes and predicates -/

/-- The scenes differ in thread and time at most. -/
structure Scene.Alike (s s' : Scene) : Prop where
  ambient : s.ambient = s'.ambient
  logger : s.record.logger = s'.record.logger
  level : s.record.level = s'.record.level
  message : s.record.message = s'.record.message
  fields : s.record.fields = s'.record.fields

theorem Scene.Alike.lookup {s s' : Scene} (h : s.Alike s') (key : String) :
    s.lookup key = s'.lookup key := by
  rw [Scene.lookup, Scene.lookup, h.ambient, h.fields]

theorem Scene.Alike.subject {s s' : Scene} (h : s.Alike s') (source : Option String) :
    Filter.subject s source = Filter.subject s' source := by
  cases source with
  | none => exact h.message
  | some key => rw [Filter.subject, Filter.subject, h.lookup]

theorem Scene.Alike.bare {s s' : Scene} (h : s.Alike s') :
    ({ s with ambient := {} } : Scene).Alike { s' with ambient := {} } :=
  { h with ambient := rfl }

variable {π ι : Type}

namespace Filter

mutual
/-- The predicates a filter may evaluate. -/
def predicates : Filter π → List π
  | level _ | field _ _ | regex _ _ _ => []
  | predicate p => [p]
  | composite _ fs => predicatesAll fs

def predicatesAll : List (Filter π) → List π
  | [] => []
  | f :: fs => predicates f ++ predicatesAll fs
end

end Filter

/-- The predicates a logger may evaluate. -/
def Admission.predicates (a : Admission π) : List π :=
  a.predicate.toList ++ Filter.predicatesAll a.filters

/-- A predicate looks at the record and the fields in force only, and does not throw. -/
structure PurePredicate (eval : π → Scene → Trial) (p : π) : Prop where
  blind : ∀ s s' : Scene, s.Alike s' → (eval p s).verdict = (eval p s').verdict
  calm : ∀ (s : Scene) (e : Payload), (eval p s).verdict ≠ .throws e

/-- All predicates of a logger are so. -/
def Admission.Pure (a : Admission π) (eval : π → Scene → Trial) : Prop :=
  ∀ p ∈ a.predicates, PurePredicate eval p

/-! ## 2. Filters -/

/-- Two trials that come out the same, and not by a throw. -/
structure Trial.Agree (t t' : Trial) : Prop where
  verdict : t.verdict = t'.verdict
  calm : ∀ e, t.verdict ≠ .throws e

theorem Trial.agree_ofBool (b : Bool) : (Trial.ofBool b).Agree (Trial.ofBool b) where
  verdict := rfl
  calm e := by cases b <;> exact fun h => by cases h

theorem Trial.Agree.after {t t' : Trial} (h : t.Agree t') (marks marks' : List String) :
    (t.after marks).Agree (t'.after marks') where
  verdict := h.verdict
  calm := h.calm

theorem Trial.Agree.andThen {t t' u u' : Trial} (h : t.Agree t') (hu : u.Agree u') :
    (t.andThen u).Agree (t'.andThen u') := by
  unfold Trial.andThen
  rw [← h.verdict]
  cases hv : t.verdict with
  | admits => exact hu.after _ _
  | rejects => exact h
  | throws e => exact absurd hv (h.calm e)

namespace Filter

variable {eval : π → Scene → Trial} {s s' : Scene}

mutual
theorem agree_check (hs : s.Alike s') :
    ∀ f : Filter π, (∀ p ∈ f.predicates, PurePredicate eval p) →
      (check eval s f).Agree (check eval s' f)
  | level least, _ => by
    rw [check, check, hs.level]
    exact Trial.agree_ofBool _
  | field key expected, _ => by
    rw [check, check, hs.lookup]
    exact Trial.agree_ofBool _
  | regex e invert source, _ => by
    rw [check, check, hs.subject]
    exact Trial.agree_ofBool _
  | predicate p, hp => by
    have hpure := hp p (by simp [predicates])
    rw [check, check]
    exact ⟨hpure.blind s s' hs, hpure.calm s⟩
  | composite mode [], _ => by
    rw [check, check]
    exact ⟨rfl, fun e h => by cases h⟩
  | composite .all (f :: fs), hp => by
    rw [check, check]
    exact agree_checkAll hs (f :: fs) fun p hm => hp p (by rwa [predicates])
  | composite .any (f :: fs), hp => by
    rw [check, check]
    exact agree_checkAny hs (f :: fs) fun p hm => hp p (by rwa [predicates])

theorem agree_checkAll (hs : s.Alike s') :
    ∀ fs : List (Filter π), (∀ p ∈ predicatesAll fs, PurePredicate eval p) →
      (checkAll eval s fs).Agree (checkAll eval s' fs)
  | [], _ => by
    rw [checkAll, checkAll]
    exact ⟨rfl, fun e h => by cases h⟩
  | f :: fs, hp => by
    rw [predicatesAll] at hp
    have first := agree_check hs f fun p hm => hp p (List.mem_append_left _ hm)
    have rest := agree_checkAll hs fs fun p hm => hp p (List.mem_append_right _ hm)
    rw [checkAll, checkAll]
    exact first.andThen rest

theorem agree_checkAny (hs : s.Alike s') :
    ∀ fs : List (Filter π), (∀ p ∈ predicatesAll fs, PurePredicate eval p) →
      (checkAny eval s fs).Agree (checkAny eval s' fs)
  | [], _ => by
    rw [checkAny, checkAny]
    exact ⟨rfl, fun e h => by cases h⟩
  | f :: fs, hp => by
    rw [predicatesAll] at hp
    have first := agree_check hs f fun p hm => hp p (List.mem_append_left _ hm)
    have rest := agree_checkAny hs fs fun p hm => hp p (List.mem_append_right _ hm)
    simp only [checkAny]
    rw [← first.verdict]
    cases hv : (check eval s f).verdict with
    | admits => exact first
    | rejects => exact rest.after _ _
    | throws e => exact absurd hv (first.calm e)
end

end Filter

theorem Admission.Pure.agree_check {a : Admission π} {eval : π → Scene → Trial}
    (h : a.Pure eval) {s s' : Scene} (hs : s.Alike s') :
    (a.check eval s).Agree (a.check eval s') := by
  have filters := Filter.agree_checkAll hs a.filters fun p hm => h p (List.mem_append_right _ hm)
  cases hp : a.predicate with
  | none => simpa [check, hp] using filters
  | some p =>
    have hpure := h p (List.mem_append_left _ (by simp [hp]))
    have first : (eval p { s with ambient := {} }).Agree (eval p { s' with ambient := {} }) :=
      ⟨hpure.blind _ _ hs.bare, hpure.calm _⟩
    simpa [check, hp] using first.andThen filters

/-! ## 3. What a post comes to -/

/-- The counters that tell what became of delivered records. -/
structure Tally where
  logged : Nat
  filtered : Nat
  deriving DecidableEq, Repr

def Metrics.tally (m : Metrics) : Tally := ⟨m.logged, m.filtered⟩

namespace Logger

open Fanout Delivery

/-- The verdict on a post, by the fields in force where it was logged. -/
def ruling (l : Logger π ι) (eval : π → Scene → Trial) (p : Post) : Verdict :=
  (l.trial eval ⟨p.ambient, none, ⟨0, 0⟩⟩ (l.recordOf ⟨0, 0⟩ ⟨p.level, p.message, {}⟩)).verdict

/-- What a post asks of the sinks. -/
def asks (l : Logger π ι) (trees : List (SinkTree ι)) (eval : π → Scene → Trial) (p : Post) :
    List (ι × Call) :=
  if l.isEnabled p.level then
    match l.ruling eval p with
    | .admits => SinkTree.askedAll (.log l.name p.level p.message) trees
    | _ => []
  else []

/-- What a post does to the counters. -/
def ruled (l : Logger π ι) (eval : π → Scene → Trial) (t : Tally) (p : Post) : Tally :=
  if l.isEnabled p.level then
    match l.ruling eval p with
    | .admits => { t with logged := wrapWord (t.logged + 1) }
    | .rejects => { t with filtered := wrapWord (t.filtered + 1) }
    | .throws _ => t
  else t

theorem agree_trial {l : Logger π ι} {eval : π → Scene → Trial} (h : l.admission.Pure eval)
    (p : Post) (thread : Option String) (time : Time.Instant) :
    (l.trial eval ⟨p.ambient, none, ⟨0, 0⟩⟩ (l.recordOf ⟨0, 0⟩ ⟨p.level, p.message, {}⟩)).Agree
      (l.trial eval ⟨p.ambient, thread, time⟩ (l.recordOf time ⟨p.level, p.message, {}⟩)) := by
  unfold trial
  split
  · exact h.agree_check ⟨rfl, rfl, rfl, rfl, rfl⟩
  · exact ⟨rfl, fun e h => by cases h⟩

/-! ## 4. Every course -/

theorem tally_note_of_isQuiet {e : Event} (h : e.isQuiet = true) (m : Metrics) :
    (m.note e).tally = m.tally := by
  cases e with
  | notice _ | mark _ | failure => rfl
  | refused | delivered => cases h

theorem tally_foldl_of_isQuiet {es : List Event} (h : ∀ e ∈ es, e.isQuiet = true) (m : Metrics) :
    (es.foldl Metrics.note m).tally = m.tally := by
  induction es generalizing m with
  | nil => rfl
  | cons e es ih =>
    rw [List.foldl_cons, ih (fun e' he' => h e' (List.mem_cons_of_mem _ he')),
      tally_note_of_isQuiet (h e List.mem_cons_self)]

/-- **Every course of a delivery does what the ruling says**: no predicate throws, the sinks are
asked in this order, the counters go up by this much. -/
theorem course_post {l : Logger π ι} {trees : List (SinkTree ι)} {eval : π → Scene → Trial}
    (h : l.admission.Pure eval) {p : Post} {thread : Option String} {time : Time.Instant}
    {cs : List (ι × Call)} {es : List Event} {thrown : Option Payload}
    (hc : Round.Course
      (l.logRound trees eval ⟨p.ambient, thread, time⟩ ⟨p.level, p.message, {}⟩) cs es thrown) :
    thrown = none ∧ cs = l.asks trees eval p ∧
      ∀ m : Metrics, (es.foldl Metrics.note m).tally = l.ruled eval m.tally p := by
  have hagree := agree_trial h p thread time
  have hv : l.ruling eval p =
      l.verdict eval ⟨p.ambient, thread, time⟩ ⟨p.level, p.message, {}⟩ := hagree.verdict
  unfold asks ruled
  rw [hv]
  cases comes_of_course hc with
  | off off =>
    have hoff : ¬ l.isEnabled p.level = true := by simp [off]
    exact ⟨rfl, by rw [if_neg hoff], fun m => by rw [if_neg hoff]; rfl⟩
  | refused qs on hr quiet =>
    rw [if_pos on, hr]
    refine ⟨rfl, rfl, fun m => ?_⟩
    rw [if_pos on, List.foldl_append, ← tally_foldl_of_isQuiet quiet m]
    rfl
  | delivered qs on hr quiet =>
    rw [if_pos on, hr]
    refine ⟨rfl, rfl, fun m => ?_⟩
    rw [if_pos on, List.foldl_append, ← tally_foldl_of_isQuiet quiet m]
    rfl
  | thrown e qs on hr quiet => exact absurd (hv.trans hr) (hagree.calm e)

end Logger

end Logworks
