import Logworks.Proofs.Fanout.Course

/-!
# What a logger admits

Filters are evaluated from left to right and no further than is needed. What they come to can be
said without any order: each filter has a value, and a logger admits a record if all its filters
and its single predicate hold. This file fixes

* `Query` -- what the value of a filter depends on; `layered` -- looking a name up in fields that
  lie above one another;
* `Filter.holds` -- the value of a filter; `Filter.consulted` -- the predicates it takes to find it
  out: of each combination the children up to the first that decides;
* `Trial.asking` -- predicates asked one after the other, until one throws;
* `Filter.check_eq_asking` -- **evaluating a filter asks just these, and comes to its value**;
* `Logger.admission_by_meaning` -- the same for a logger.
-/

namespace Logworks

variable {π : Type}

/-! ## 1. Values -/

/-- A name is looked up in the first layer that has it. -/
def layered (layers : List Fields) (key : String) : Option String :=
  layers.findSome? (·.get? key)

/-- What the value of a filter depends on. -/
structure Query (π : Type) where
  level : Level
  message : String
  look : String → Option String
  truth : π → Bool

namespace Mode

/-- The value of some filters together. -/
def joins : Mode → List Bool → Bool
  | all, bs => bs.all id
  | any, bs => bs.any id

/-- No filter behind one of this value matters. -/
def isDecided : Mode → Bool → Bool
  | all, b => !b
  | any, b => b

end Mode

namespace Filter

mutual
/-- The value of a filter. A combination of no filters holds, whichever way it joins. -/
def holds (q : Query π) : Filter π → Bool
  | level least => decide (least ≤ q.level)
  | field key expected => q.look key == some expected
  | regex e invert none => e.isMatch q.message != invert
  | regex e invert (some key) => e.isMatch ((q.look key).getD "") != invert
  | predicate p => q.truth p
  | composite mode fs => fs.isEmpty || mode.joins (holdsEach q fs)

def holdsEach (q : Query π) : List (Filter π) → List Bool
  | [] => []
  | f :: fs => holds q f :: holdsEach q fs
end

theorem holdsEach_eq_map (q : Query π) (fs : List (Filter π)) :
    holdsEach q fs = fs.map (holds q) := by
  induction fs with
  | nil => rw [holdsEach, List.map_nil]
  | cons f fs ih => rw [holdsEach, ih, List.map_cons]

theorem holds_all (q : Query π) (fs : List (Filter π)) :
    holds q (.composite .all fs) = true ↔ ∀ f ∈ fs, holds q f = true := by
  cases fs with
  | nil => simp [holds]
  | cons f fs => simp [holds, Mode.joins, holdsEach_eq_map]

mutual
/-- The predicates it takes to find out the value of a filter, in order. -/
def consulted (q : Query π) : Filter π → List π
  | level _ | field _ _ | regex _ _ _ => []
  | predicate p => [p]
  | composite mode fs =>
    ((consultedEach q fs).take ((holdsEach q fs).findIdx mode.isDecided + 1)).flatten

def consultedEach (q : Query π) : List (Filter π) → List (List π)
  | [] => []
  | f :: fs => consulted q f :: consultedEach q fs
end

/-- Whether the filters behind the first matter is up to its value. -/
theorem consulted_composite_cons (q : Query π) (mode : Mode) (f : Filter π) (fs : List (Filter π)) :
    consulted q (.composite mode (f :: fs)) =
      consulted q f ++
        if mode.isDecided (holds q f) then [] else consulted q (.composite mode fs) := by
  rw [consulted, consulted, consultedEach, holdsEach, List.findIdx_cons]
  cases mode.isDecided (holds q f) <;> simp

end Filter

/-! ## 2. Asking -/

namespace Trial

/-- Predicates are asked one after the other, each about a scene, until one throws. If none does,
this is the verdict. -/
def asking (eval : π → Scene → Trial) : List (π × Scene) → Bool → Trial
  | [], b => .ofBool b
  | (p, s) :: rest, b =>
    match (eval p s).verdict with
    | .throws _ => eval p s
    | _ => (asking eval rest b).after (eval p s).marks

/-- Goes on unless something was thrown. -/
def thenAsking (t next : Trial) : Trial :=
  match t.verdict with
  | .throws _ => t
  | _ => next.after t.marks

/-- What was asked first may say anything but throw for the rest to be asked. -/
theorem asking_append (eval : π → Scene → Trial) (xs ys : List (π × Scene)) (b c : Bool) :
    asking eval (xs ++ ys) b = (asking eval xs c).thenAsking (asking eval ys b) := by
  induction xs with
  | nil => cases c <;> rfl
  | cons x xs ih =>
    obtain ⟨p, s⟩ := x
    rw [List.cons_append, asking, asking]
    cases hv : (eval p s).verdict with
    | throws e => simp only [thenAsking, hv]
    | admits | rejects =>
      rw [ih]
      simp only [thenAsking, after]
      split <;> simp [*]

theorem verdict_asking (eval : π → Scene → Trial) (xs : List (π × Scene)) (b : Bool) :
    (asking eval xs b).verdict = (ofBool b).verdict ∨
      ∃ e, (asking eval xs b).verdict = .throws e := by
  induction xs with
  | nil => exact .inl rfl
  | cons x xs ih =>
    obtain ⟨p, s⟩ := x
    rw [asking]
    cases hv : (eval p s).verdict with
    | throws e => exact .inr ⟨e, hv⟩
    | admits | rejects => exact ih

/-- The rest is asked only if the first admits. -/
theorem asking_andThen (eval : π → Scene → Trial) (p : π) (s : Scene) (xs : List (π × Scene))
    (b : Bool) :
    asking eval ((p, s) :: if (eval p s).verdict == .admits then xs else [])
      ((eval p s).verdict == .admits && b) = (eval p s).andThen (asking eval xs b) := by
  rw [asking, andThen]
  generalize eval p s = t
  obtain ⟨v, marks⟩ := t
  cases v with
  | throws e => rfl
  | admits => rfl
  | rejects => simp [asking, ofBool, after]

def isThrow (t : Trial) : Bool :=
  match t.verdict with
  | .throws _ => true
  | _ => false

/-- The verdict stands if none throws. -/
theorem verdict_asking_iff (eval : π → Scene → Trial) (xs : List (π × Scene)) (b c : Bool) :
    (asking eval xs b).verdict = (ofBool c).verdict ↔
      (∀ x ∈ xs, (eval x.1 x.2).isThrow = false) ∧ b = c := by
  induction xs with
  | nil => cases b <;> cases c <;> simp [asking, ofBool]
  | cons x xs ih =>
    obtain ⟨p, s⟩ := x
    rw [asking, List.forall_mem_cons]
    cases hv : (eval p s).verdict with
    | throws e => cases c <;> simp [isThrow, hv, ofBool]
    | admits | rejects => simpa [isThrow, hv, after] using ih

/-- All are asked up to the first that throws, and leave their marks. -/
theorem marks_asking (eval : π → Scene → Trial) (xs : List (π × Scene)) (b : Bool) :
    (asking eval xs b).marks =
      (xs.take (xs.findIdx (fun x => (eval x.1 x.2).isThrow) + 1)).flatMap
        fun x => (eval x.1 x.2).marks := by
  induction xs with
  | nil => cases b <;> rfl
  | cons x xs ih =>
    obtain ⟨p, s⟩ := x
    rw [asking, List.findIdx_cons]
    cases hv : (eval p s).verdict with
    | throws e => simp [isThrow, hv]
    | admits | rejects => simp [isThrow, hv, after, ih]

end Trial

/-! ## 3. Filters -/

theorem Filter.holds_composite_all (q : Query π) (fs : List (Filter π)) :
    holds q (.composite .all fs) = Mode.all.joins (holdsEach q fs) := by
  cases fs <;> rfl

/-- What the value of a filter depends on where it is evaluated. -/
def Scene.query (s : Scene) (eval : π → Scene → Trial) : Query π :=
  ⟨s.record.level, s.record.message, s.lookup, fun p => (eval p s).verdict == .admits⟩

namespace Filter

open Trial

variable (eval : π → Scene → Trial) (s : Scene)

/-- Predicates asked in a scene. -/
def askedAt (s : Scene) (ps : List π) : List (π × Scene) := ps.map (·, s)

@[simp] theorem askedAt_append (ps qs : List π) :
    askedAt s (ps ++ qs) = askedAt s ps ++ askedAt s qs := List.map_append

/-- The first of some filters that all have to hold. -/
theorem andThen_asking (ps qs : List π) (a b : Bool) :
    (match (asking eval (askedAt s ps) a).verdict with
      | .admits => (asking eval (askedAt s qs) b).after (asking eval (askedAt s ps) a).marks
      | _ => asking eval (askedAt s ps) a) =
      asking eval (askedAt s (ps ++ if Mode.all.isDecided a then [] else qs)) (a && b) := by
  cases a with
  | false =>
    rw [Mode.isDecided, if_pos (by decide), List.append_nil, Bool.false_and]
    rcases verdict_asking eval (askedAt s ps) false with hv | ⟨e, hv⟩
    · rw [hv]
      rfl
    · rw [hv]
  | true =>
    rw [Mode.isDecided, if_neg (by decide), Bool.true_and, askedAt_append,
      asking_append eval _ _ b true]
    rcases verdict_asking eval (askedAt s ps) true with hv | ⟨e, hv⟩
    · simp only [thenAsking, hv]
      rfl
    · simp only [thenAsking, hv]

/-- The first of some filters one of which has to hold. -/
theorem orThen_asking (ps qs : List π) (a b : Bool) :
    (match (asking eval (askedAt s ps) a).verdict with
      | .rejects => (asking eval (askedAt s qs) b).after (asking eval (askedAt s ps) a).marks
      | _ => asking eval (askedAt s ps) a) =
      asking eval (askedAt s (ps ++ if Mode.any.isDecided a then [] else qs)) (a || b) := by
  cases a with
  | true =>
    rw [Mode.isDecided, if_pos rfl, List.append_nil, Bool.true_or]
    rcases verdict_asking eval (askedAt s ps) true with hv | ⟨e, hv⟩
    · rw [hv]
      rfl
    · rw [hv]
  | false =>
    rw [Mode.isDecided, if_neg (by decide), Bool.false_or, askedAt_append,
      asking_append eval _ _ b false]
    rcases verdict_asking eval (askedAt s ps) false with hv | ⟨e, hv⟩
    · simp only [thenAsking, hv]
      rfl
    · simp only [thenAsking, hv]

mutual
/-- **A filter is evaluated by asking the predicates it takes, and comes to its value.** -/
theorem check_eq_asking :
    ∀ f : Filter π, check eval s f =
      asking eval (askedAt s (consulted (s.query eval) f)) (holds (s.query eval) f)
  | level least => rfl
  | field key expected => rfl
  | regex e invert none => rfl
  | regex e invert (some key) => rfl
  | predicate p => by
    rw [check, consulted, holds]
    show eval p s = asking eval [(p, s)] ((eval p s).verdict == .admits)
    rw [asking, asking]
    cases hv : (eval p s).verdict with
    | throws e => rfl
    | admits | rejects =>
      simp only [after, ofBool, List.append_nil]
      exact congrArg (Trial.mk · _) hv
  | composite mode [] => by
    rw [check, consulted, holds, consultedEach]
    rfl
  | composite .all (f :: fs) => by
    rw [check, checkAll_eq_asking (f :: fs), holds]
    rfl
  | composite .any (f :: fs) => by
    rw [check, checkAny_eq_asking (f :: fs), holds]
    rfl

theorem checkAll_eq_asking :
    ∀ fs : List (Filter π), checkAll eval s fs =
      asking eval (askedAt s (consulted (s.query eval) (.composite .all fs)))
        (Mode.all.joins (holdsEach (s.query eval) fs))
  | [] => by
    rw [checkAll, consulted, holdsEach, consultedEach]
    rfl
  | f :: fs => by
    rw [checkAll, check_eq_asking f, checkAll_eq_asking fs, consulted_composite_cons, holdsEach]
    exact andThen_asking eval s _ _ _ _

theorem checkAny_eq_asking :
    ∀ fs : List (Filter π), checkAny eval s fs =
      asking eval (askedAt s (consulted (s.query eval) (.composite .any fs)))
        (Mode.any.joins (holdsEach (s.query eval) fs))
  | [] => by
    rw [checkAny, consulted, holdsEach, consultedEach]
    rfl
  | f :: fs => by
    rw [checkAny, check_eq_asking f, checkAny_eq_asking fs, consulted_composite_cons, holdsEach]
    exact orThen_asking eval s _ _ _ _
end

/-- An alternative behind one that holds is not asked, and nothing is behind one that fails. -/
example :
    consulted ⟨.info, "", fun _ => none, fun n => n == 0⟩
      (.composite .all [.composite .any [.predicate 0, .predicate 1],
        .composite .any [.predicate 2, .predicate 3], .predicate 4]) = [0, 2, 3] := by
  decide

end Filter

/-! ## 4. Loggers -/

theorem Scene.lookup_eq_layered (s : Scene) (key : String) :
    s.lookup key = layered [s.ambient, s.record.fields] key := by
  rw [Scene.lookup]
  cases h : s.ambient.get? key <;> cases h' : s.record.fields.get? key <;> simp [layered, h, h']

theorem layered_above (f g h : Fields) (key : String) :
    layered [f, g.above h] key = layered [f, g, h] key := by
  cases hf : f.get? key <;> cases hg : g.get? key <;> cases hh : h.get? key <;>
    simp [layered, hf, hg, hh]

namespace Logger

variable {ι : Type}

/-- What the filters of a logger see of a draft. -/
def sceneOf (l : Logger π ι) (here : Setting) (d : Draft) : Scene :=
  ⟨l.recordOf here.time d, here.ambient, here.thread⟩

/-- What the single predicate sees. -/
def bareScene (l : Logger π ι) (here : Setting) (d : Draft) : Scene :=
  { l.sceneOf here d with ambient := {} }

/-- What the values of its filters depend on: a name is looked up in the fields in force, then in
those of the call, then in those the logger puts into every record. -/
def query (l : Logger π ι) (eval : π → Scene → Trial) (here : Setting) (d : Draft) : Query π where
  level := d.level
  message := d.message
  look := layered [here.ambient, d.fields, l.context]
  truth p := (eval p (l.sceneOf here d)).verdict == .admits

theorem query_sceneOf (l : Logger π ι) (eval : π → Scene → Trial) (here : Setting) (d : Draft) :
    (l.sceneOf here d).query eval = l.query eval here d := by
  have look : (l.sceneOf here d).lookup = layered [here.ambient, d.fields, l.context] := by
    funext key
    rw [Scene.lookup_eq_layered]
    exact layered_above here.ambient d.fields l.context key
  rw [Scene.query, query, look]
  rfl

/-- The single predicate admits the draft, if there is one. -/
def permits (l : Logger π ι) (eval : π → Scene → Trial) (here : Setting) (d : Draft) : Bool :=
  l.admission.predicate.all fun p => (eval p (l.bareScene here d)).verdict == .admits

/-- The predicates it takes to rule on a draft, and what each of them is shown. -/
def consulted (l : Logger π ι) (eval : π → Scene → Trial) (here : Setting) (d : Draft) :
    List (π × Scene) :=
  (l.admission.predicate.toList.map fun p => (p, l.bareScene here d)) ++
    if l.permits eval here d then
      Filter.askedAt (l.sceneOf here d)
        (Filter.consulted (l.query eval here d) (.composite .all l.admission.filters))
    else []

/-- Everything a logger asks of a draft is so. -/
def Meets (l : Logger π ι) (eval : π → Scene → Trial) (here : Setting) (d : Draft) : Prop :=
  l.permits eval here d = true ∧
    ∀ f ∈ l.admission.filters, f.holds (l.query eval here d) = true

/-- A logger without predicate and filters is no special case. -/
theorem trial_eq_check (l : Logger π ι) (eval : π → Scene → Trial) (here : Setting) (d : Draft) :
    l.trial eval here (l.recordOf here.time d) = l.admission.check eval (l.sceneOf here d) := by
  unfold trial
  split
  · rfl
  · rename_i idle
    simp only [Admission.isActive, Bool.or_eq_true, not_or, Bool.not_eq_true, Bool.not_eq_false',
      List.isEmpty_iff, Option.isSome_eq_false_iff, Option.isNone_iff_eq_none] at idle
    rw [Admission.check, idle.1, idle.2]
    rfl

/-- **The verdict on a draft is found by asking the predicates it takes.** -/
theorem trial_eq_asking (l : Logger π ι) (eval : π → Scene → Trial) (here : Setting) (d : Draft) :
    l.trial eval here (l.recordOf here.time d) =
      .asking eval (l.consulted eval here d)
        (l.permits eval here d &&
          Filter.holds (l.query eval here d) (.composite .all l.admission.filters)) := by
  have filters := Filter.checkAll_eq_asking eval (l.sceneOf here d) l.admission.filters
  rw [query_sceneOf, ← Filter.holds_composite_all] at filters
  rw [trial_eq_check, Admission.check, filters, consulted, permits]
  cases l.admission.predicate with
  | none => simp
  | some p =>
    rw [Option.toList_some, List.map_singleton, Option.all_some, List.singleton_append]
    exact (Trial.asking_andThen eval p _ _ _).symm

/-- **A logger admits what meets its filters, and asks no more than it takes**: a record is
admitted if its single predicate and each of its filters holds, and none of the predicates throws
that it takes to find that out; these are asked in order, the single predicate first, up to one
that throws. -/
theorem admission_by_meaning (l : Logger π ι) (eval : π → Scene → Trial) (here : Setting)
    (d : Draft) :
    (l.verdict eval here d = .admits ↔
      (∀ x ∈ l.consulted eval here d, (eval x.1 x.2).isThrow = false) ∧ l.Meets eval here d) ∧
    (l.verdict eval here d = .rejects ↔
      (∀ x ∈ l.consulted eval here d, (eval x.1 x.2).isThrow = false) ∧ ¬ l.Meets eval here d) ∧
    (l.trial eval here (l.recordOf here.time d)).marks =
      ((l.consulted eval here d).take
        ((l.consulted eval here d).findIdx (fun x => (eval x.1 x.2).isThrow) + 1)).flatMap
          fun x => (eval x.1 x.2).marks := by
  have meets : l.Meets eval here d ↔ (l.permits eval here d &&
      Filter.holds (l.query eval here d) (.composite .all l.admission.filters)) = true := by
    rw [Meets, Bool.and_eq_true, Filter.holds_all]
  rw [verdict, trial_eq_asking, meets, Bool.not_eq_true]
  exact ⟨Trial.verdict_asking_iff eval _ _ true, Trial.verdict_asking_iff eval _ _ false,
    Trial.marks_asking eval _ _⟩

end Logger

end Logworks
