import Logworks.Proofs.Fanout.Ways

/-!
# The flush of a logger

A logger flushes its sinks one after the other. One that fails is counted and named, and the next
one has its turn; but the loop catches nothing, and so a sink that crashes ends it. The delivery of a
record and a branch ask everybody, whatever happens. This file fixes

* `SinkTree.endings` -- what the trees of a logger answer, each by itself;
* `foremost` -- the first crash among answers, or else the first failure;
* `Logger.Flushed` -- the courses of a flush, with the failures counted; `Joins` -- one more tree;
  `flushed_replying`, `Flushed.exists_reply` -- **one course for each way of answering, and no
  other**;
* `flush_reaches_sinks_up_to_a_crash` -- **the trees up to the first that crashes are flushed, once
  each and in order, and no other; without a crash it is as below a branch**;
* `flush_stops_at_a_crash` -- with one, sinks are left out, and the caller has the crash.

NOT here: what the worker of a queue does with a crash. It ends there as it does at a record.
-/

namespace Logworks

open Fanout

variable {ι : Type}

/-! ## 1. Answers -/

namespace Outcome

def isCrash : Outcome → Bool
  | .crashed _ => true
  | _ => false

end Outcome

namespace Fanout

/-- The first crash, if there is one, or else the first failure. Otherwise all is well. -/
def foremost (os : List Outcome) : Outcome :=
  ((os.find? Outcome.isCrash).or (os.find? (· != .ok))).getD .ok

theorem foremost_of_not_crash {os : List Outcome} (calm : ∀ o ∈ os, o.isCrash = false) :
    foremost os = (os.find? (· != .ok)).getD .ok := by
  have none_crashed : os.find? Outcome.isCrash = none :=
    List.find?_eq_none.mpr fun o ho => by simp [calm o ho]
  rw [foremost, none_crashed, Option.none_or]

@[simp] theorem foremost_cons_crashed (p : Payload) (os : List Outcome) :
    foremost (.crashed p :: os) = .crashed p := rfl

@[simp] theorem foremost_cons_ok (os : List Outcome) : foremost (.ok :: os) = foremost os := rfl

/-- A failure gives way to a crash behind it, and to nothing else. -/
theorem foremost_cons_failed (f : Fault) (os : List Outcome) :
    foremost (.failed f :: os) = if (foremost os).isCrash then foremost os else .failed f := by
  have passes : (Outcome.failed f :: os).find? Outcome.isCrash = os.find? Outcome.isCrash := rfl
  cases found : os.find? Outcome.isCrash with
  | none =>
    have calm : ∀ o ∈ os, o.isCrash = false := by simpa using found
    have below : (foremost os).isCrash = false := by
      rw [foremost_of_not_crash calm]
      cases first : os.find? (· != .ok) with
      | none => rfl
      | some o => exact calm o (List.mem_of_find?_eq_some first)
    rw [below, foremost, passes, found]
    rfl
  | some c =>
    have crashed : c.isCrash = true := List.find?_some found
    have above : foremost os = c := by rw [foremost, found]; rfl
    rw [above, crashed, foremost, passes, found]
    rfl

/-- How many of the answers before the first crash are failures. -/
def failedBefore (os : List Outcome) : Nat :=
  (os.take (os.findIdx Outcome.isCrash)).countP (· != .ok)

theorem failedBefore_of_not_crash {os : List Outcome} (calm : ∀ o ∈ os, o.isCrash = false) :
    failedBefore os = os.countP (· != .ok) := by
  rw [failedBefore, List.findIdx_eq_length_of_false calm, List.take_length]

@[simp] theorem failedBefore_cons_crashed (p : Payload) (os : List Outcome) :
    failedBefore (.crashed p :: os) = 0 := rfl

theorem failedBefore_cons {o : Outcome} (calm : o.isCrash = false) (os : List Outcome) :
    failedBefore (o :: os) = failedBefore os + o.failures := by
  rw [failedBefore, List.findIdx_cons, calm, cond_false, List.take_succ_cons, List.countP_cons,
    Outcome.failures_eq_ite]
  rfl

namespace SinkTree

/-- What the trees answer, each asked by itself, when the sinks answer so at the end of each way. -/
def endings (c : Call) (reply : Way → Outcome) (ts : List (SinkTree ι)) : List Outcome :=
  ts.zipIdx.map fun x => ending c (fun w => reply (x.2 :: w)) x.1

theorem endings_cons (c : Call) (reply : Way → Outcome) (t : SinkTree ι) (ts : List (SinkTree ι)) :
    endings c reply (t :: ts) =
      ending c (fun w => reply (0 :: w)) t :: endings c (reply ∘ Way.next) ts := by
  rw [endings, List.zipIdx_cons', List.map_cons, List.map_map]
  rfl

/-- The trees up to the first that crashes, with it. -/
def upToCrash (c : Call) (reply : Way → Outcome) (ts : List (SinkTree ι)) : List (SinkTree ι) :=
  ts.take ((endings c reply ts).findIdx Outcome.isCrash + 1)

theorem upToCrash_of_not_crash {c : Call} {reply : Way → Outcome} {ts : List (SinkTree ι)}
    (calm : ∀ o ∈ endings c reply ts, o.isCrash = false) : upToCrash c reply ts = ts := by
  rw [upToCrash, List.findIdx_eq_length_of_false calm, endings, List.length_map,
    List.length_zipIdx]
  exact List.take_of_length_le (Nat.le_succ _)

/-- The calls below a tree that crashes. -/
theorem calls_cons_crashed {c : Call} {reply : Way → Outcome} {t : SinkTree ι} {p : Payload}
    (crash : ending c (fun w => reply (0 :: w)) t = .crashed p) (ts : List (SinkTree ι)) :
    answersOn c reply (waysAll c (upToCrash c reply (t :: ts))) =
      answersOn c (fun w => reply (0 :: w)) (ways c t) := by
  have alone : upToCrash c reply (t :: ts) = [t] := by
    rw [upToCrash, endings_cons, List.findIdx_cons, crash]
    rfl
  rw [alone, answersOn_waysAll_cons, waysAll]
  exact List.append_nil _

/-- Below one that does not, and behind it. -/
theorem calls_cons {c : Call} {reply : Way → Outcome} {t : SinkTree ι}
    (calm : (ending c (fun w => reply (0 :: w)) t).isCrash = false) (ts : List (SinkTree ι)) :
    answersOn c reply (waysAll c (upToCrash c reply (t :: ts))) =
      answersOn c (fun w => reply (0 :: w)) (ways c t) ++
        answersOn c (reply ∘ Way.next) (waysAll c (upToCrash c (reply ∘ Way.next) ts)) := by
  have more : upToCrash c reply (t :: ts) = t :: upToCrash c (reply ∘ Way.next) ts := by
    rw [upToCrash, endings_cons, List.findIdx_cons, calm]
    rfl
  rw [more, answersOn_waysAll_cons]

end SinkTree

end Fanout

/-! ## 2. Courses -/

namespace Logger

open Fanout.SinkTree

/-- The courses of a flush: the calls with the answers, how many failures were counted, and what was
answered in the end. -/
def Flushed (trees : List (SinkTree ι)) (rs : List (Answer ι)) (n : Nat) (o : Outcome) : Prop :=
  ∃ es, Round.Answered (flushRound trees) rs es o ∧ es.count .failure = n

theorem flushed_nil : Flushed ([] : List (SinkTree ι)) [] 0 .ok := by
  unfold Flushed
  rw [flushRound]
  exact ⟨[], .done _, rfl⟩

/-- One more tree. It crashes, and nothing else happens; or the others have their turn as well, and
what it failed with is the answer unless one of them crashes. -/
inductive Joins (ts : List (SinkTree ι)) (rs : List (Answer ι)) :
    Outcome → List (Answer ι) → Nat → Outcome → Prop where
  | crashed (p : Payload) : Joins ts rs (.crashed p) rs 0 (.crashed p)
  | ok (rs' : List (Answer ι)) (n : Nat) (o : Outcome) (rest : Flushed ts rs' n o) :
      Joins ts rs .ok (rs ++ rs') n o
  | failed (f : Fault) (rs' : List (Answer ι)) (n : Nat) (o : Outcome) (rest : Flushed ts rs' n o) :
      Joins ts rs (.failed f) (rs ++ rs') (n + 1) (if o.isCrash then o else .failed f)

theorem count_failure_of_round {t : SinkTree ι} {rs : List (Answer ι)} {es : List Event}
    {o : Outcome} (h : Round.Answered (t.round .flush) rs es o) : es.count .failure = 0 :=
  List.count_eq_zero.mpr (failure_not_mem_of_round _ t h)

theorem Flushed.joins {t : SinkTree ι} {ts : List (SinkTree ι)} {rs : List (Answer ι)} {n : Nat}
    {o : Outcome} (h : Flushed (t :: ts) rs n o) :
    ∃ rs₁ first, (∃ es, Round.Answered (t.round .flush) rs₁ es first) ∧
      Joins ts rs₁ first rs n o := by
  obtain ⟨es, h, rfl⟩ := h
  rw [flushRound] at h
  obtain ⟨rs₁, es₁, first, rs₂, es₂, h₁, h₂, rfl, rfl⟩ := h.of_bind
  refine ⟨rs₁, first, ⟨es₁, h₁⟩, ?_⟩
  rw [List.count_append, count_failure_of_round h₁, Nat.zero_add]
  cases first with
  | crashed p =>
    cases h₂
    rw [List.append_nil]
    exact .crashed p
  | ok => exact .ok rs₂ _ o ⟨es₂, h₂, rfl⟩
  | failed f =>
    obtain ⟨es₃, h₃, rfl⟩ := h₂.of_events
    obtain ⟨rs₄, es₄, last, rs₅, es₅, h₄, h₅, rfl, rfl⟩ := h₃.of_bind
    have silent : rs₅ = [] ∧ es₅ = [] ∧ o = if last.isCrash then last else .failed f := by
      cases last <;> cases h₅ <;> exact ⟨rfl, rfl, rfl⟩
    obtain ⟨rfl, rfl, rfl⟩ := silent
    rw [List.append_nil, List.append_nil, List.count_append, count_failure_flushReport,
      Nat.add_comm]
    exact .failed f rs₄ _ last ⟨es₄, h₄, rfl⟩

theorem Joins.flushed {t : SinkTree ι} {ts : List (SinkTree ι)} {rs rs₁ : List (Answer ι)}
    {es₁ : List Event} {n : Nat} {first o : Outcome} (joins : Joins ts rs₁ first rs n o)
    (h₁ : Round.Answered (t.round .flush) rs₁ es₁ first) : Flushed (t :: ts) rs n o := by
  unfold Flushed
  rw [flushRound]
  cases joins with
  | crashed p =>
    rw [← List.append_nil rs]
    refine ⟨es₁ ++ [], h₁.bind (.done _), ?_⟩
    rw [List.append_nil, count_failure_of_round h₁]
  | ok rs' n o rest =>
    obtain ⟨es₂, h₂, rfl⟩ := rest
    refine ⟨es₁ ++ es₂, h₁.bind h₂, ?_⟩
    rw [List.count_append, count_failure_of_round h₁, Nat.zero_add]
  | failed f rs' n last rest =>
    obtain ⟨es₂, h₂, rfl⟩ := rest
    have ends : Round.Answered ((flushRound ts).bind fun
        | .crashed p => .done (.crashed p)
        | _ => .done (.failed f)) (rs' ++ []) (es₂ ++ [])
        (if last.isCrash then last else .failed f) := by
      refine h₂.bind ?_
      cases last <;> exact .done _
    rw [List.append_nil, List.append_nil] at ends
    refine ⟨es₁ ++ (flushReport t.name f ++ es₂), h₁.bind (ends.events _), ?_⟩
    rw [List.count_append, count_failure_of_round h₁, List.count_append, count_failure_flushReport,
      Nat.zero_add, Nat.add_comm]

/-! ## 3. The whole flush -/

/-- **Whatever the sinks answer, a flush takes this course.** The trees up to the first that crashes
are flushed, the failures before it counted, and the answer is the crash or else the first
failure. -/
theorem flushed_replying :
    ∀ (trees : List (SinkTree ι)) (reply : Way → Outcome),
      Flushed trees (answersOn .flush reply (waysAll .flush (upToCrash .flush reply trees)))
        (failedBefore (endings .flush reply trees)) (foremost (endings .flush reply trees))
  | [], reply => flushed_nil
  | t :: ts, reply => by
    obtain ⟨es₁, h₁⟩ := (answered_round_iff _ t).mpr ⟨fun w => reply (0 :: w), rfl, rfl⟩
    have rest := flushed_replying ts (reply ∘ Way.next)
    refine Joins.flushed ?_ h₁
    rw [endings_cons]
    cases first : ending .flush (fun w => reply (0 :: w)) t with
    | crashed p =>
      rw [calls_cons_crashed first, foremost_cons_crashed, failedBefore_cons_crashed]
      exact .crashed p
    | ok =>
      rw [calls_cons (by rw [first]; rfl), foremost_cons_ok, failedBefore_cons rfl]
      exact .ok _ _ _ rest
    | failed f =>
      rw [calls_cons (by rw [first]; rfl), foremost_cons_failed, failedBefore_cons rfl]
      exact .failed f _ _ _ rest

/-- **There is no other.** -/
theorem Flushed.exists_reply :
    ∀ {trees : List (SinkTree ι)} {rs : List (Answer ι)} {n : Nat} {o : Outcome},
      Flushed trees rs n o → ∃ reply,
        rs = answersOn .flush reply (waysAll .flush (upToCrash .flush reply trees)) ∧
        n = failedBefore (endings .flush reply trees) ∧ o = foremost (endings .flush reply trees)
  | [], rs, n, o, h => by
    obtain ⟨es, h, rfl⟩ := h
    rw [flushRound] at h
    cases h
    exact ⟨fun _ => .ok, rfl, rfl, rfl⟩
  | t :: ts, rs, n, o, h => by
    obtain ⟨rs₁, first, h₁, joins⟩ := h.joins
    obtain ⟨here, rfl, answer⟩ := (answered_round_iff _ t).mp h₁
    cases joins with
    | crashed p =>
      have crash : ending .flush (fun w => Way.first here (fun _ => .ok) (0 :: w)) t =
          .crashed p := answer.symm
      refine ⟨Way.first here fun _ => .ok, ?_⟩
      rw [calls_cons_crashed crash, endings_cons, crash]
      exact ⟨rfl, rfl, rfl⟩
    | ok rs' n o rest =>
      obtain ⟨there, rfl, rfl, rfl⟩ := rest.exists_reply
      have well : ending .flush (fun w => Way.first here there (0 :: w)) t = .ok := answer.symm
      refine ⟨Way.first here there, ?_⟩
      rw [calls_cons (by rw [well]; rfl), endings_cons, well, Way.first_next, foremost_cons_ok,
        failedBefore_cons rfl]
      exact ⟨rfl, rfl, rfl⟩
    | failed f rs' n last rest =>
      obtain ⟨there, rfl, rfl, rfl⟩ := rest.exists_reply
      have fails : ending .flush (fun w => Way.first here there (0 :: w)) t = .failed f :=
        answer.symm
      refine ⟨Way.first here there, ?_⟩
      rw [calls_cons (by rw [fails]; rfl), endings_cons, fails, Way.first_next,
        foremost_cons_failed, failedBefore_cons rfl]
      exact ⟨rfl, rfl, rfl⟩

/-! ## 4. Sinks that stand for themselves -/

/-- Such sinks, with their names. -/
def leaves (sinks : List (String × ι)) : List (SinkTree ι) := sinks.map fun x => .leaf x.1 x.2

/-- They answer so, one after the other. -/
def replying (os : List Outcome) : Way → Outcome
  | [] => .ok
  | k :: _ => os[k]?.getD .ok

theorem replying_cons_next (o : Outcome) (os : List Outcome) :
    replying (o :: os) ∘ Way.next = replying os := by
  funext w
  cases w <;> rfl

theorem endings_leaves {c : Call} {sinks : List (String × ι)} {os : List Outcome}
    (each : sinks.length = os.length) : endings c (replying os) (leaves sinks) = os := by
  induction sinks generalizing os with
  | nil => exact (List.length_eq_zero_iff.mp each.symm).symm
  | cons x sinks ih =>
    cases os with
    | nil => cases each
    | cons o os =>
      rw [leaves, List.map_cons, endings_cons, replying_cons_next, ending]
      exact congrArg (o :: ·) (ih (Nat.succ.inj each))

theorem calls_leaves {c : Call} {sinks : List (String × ι)} {os : List Outcome}
    (each : sinks.length = os.length) (n : Nat) :
    answersOn c (replying os) (waysAll c ((leaves sinks).take n)) =
      (List.zipWith (fun x o => ⟨x.2, c, o⟩) sinks os).take n := by
  induction sinks generalizing os n with
  | nil =>
    rw [leaves, List.map_nil, List.take_nil, waysAll, List.zipWith_nil_left, List.take_nil]
    rfl
  | cons x sinks ih =>
    cases os with
    | nil => cases each
    | cons o os =>
      cases n with
      | zero =>
        rw [List.take_zero, List.take_zero, waysAll]
        rfl
      | succ n =>
        rw [leaves, List.map_cons, List.take_succ_cons, answersOn_waysAll_cons, replying_cons_next,
          ways, List.zipWith_cons_cons, List.take_succ_cons, ← ih (Nat.succ.inj each) n]
        rfl

/-- Each sink up to the first that crashes is called once, in order. -/
theorem flushed_leaves {sinks : List (String × ι)} {os : List Outcome}
    (each : sinks.length = os.length) :
    Flushed (leaves sinks)
      ((List.zipWith (fun x o => ⟨x.2, .flush, o⟩) sinks os).take
        (os.findIdx Outcome.isCrash + 1))
      (failedBefore os) (foremost os) := by
  have course := flushed_replying (leaves sinks) (replying os)
  rw [upToCrash, endings_leaves each, calls_leaves each] at course
  exact course

/-! ## 5. The promise -/

/-- **A flush reaches the sinks of a logger up to the first that crashes.** These are flushed, once
each and in order, whatever they answer; for each of them that failed one failure is counted; the
answer is the crash if there is one, or else the first failure, or else that all is well. If none
crashes, all of them are flushed, by the very calls that a branch with the same children makes. -/
theorem flush_reaches_sinks_up_to_a_crash :
    (∀ (trees : List (SinkTree ι)) (rs : List (Answer ι)) (n : Nat) (o : Outcome),
      Flushed trees rs n o ↔ ∃ reply,
        rs = answersOn .flush reply (waysAll .flush (upToCrash .flush reply trees)) ∧
        n = failedBefore (endings .flush reply trees) ∧
        o = foremost (endings .flush reply trees)) ∧
    (∀ (sinks : List (String × ι)) (os : List Outcome), sinks.length = os.length →
      Flushed (leaves sinks)
        ((List.zipWith (fun x o => ⟨x.2, .flush, o⟩) sinks os).take
          (os.findIdx Outcome.isCrash + 1))
        (failedBefore os) (foremost os)) ∧
    (∀ (trees : List (SinkTree ι)) (reply : Way → Outcome),
      (∀ o ∈ endings .flush reply trees, o.isCrash = false) → ∀ threshold,
      Flushed trees (answersOn .flush reply ((branch threshold trees).ways .flush))
        ((endings .flush reply trees).countP (· != .ok))
        (((endings .flush reply trees).find? (· != .ok)).getD .ok)) ∧
    ∀ (trees : List (SinkTree ι)) (m : Metrics) (rs : List (Answer ι)) (es : List Event)
      (o : Outcome), Round.Answered (flushRound trees) rs es o →
      Counted m (es.foldl Metrics.note m) 0 0 (es.count .failure) := by
  refine ⟨fun trees rs n o => ⟨Flushed.exists_reply, ?_⟩, fun sinks os each => flushed_leaves each,
    fun trees reply calm threshold => ?_, fun trees m rs es o h => ?_⟩
  · rintro ⟨reply, rfl, rfl, rfl⟩
    exact flushed_replying trees reply
  · have course := flushed_replying trees reply
    rw [upToCrash_of_not_crash calm, failedBefore_of_not_crash calm,
      foremost_of_not_crash calm] at course
    rw [ways]
    exact course
  · rw [foldl_note_of_isQuiet (course_flushRound trees h.course).1]
    obtain ⟨e, he, counted⟩ := repeat_recordError m (es.count .failure)
    rw [he]
    exact ⟨rfl, rfl, counted, rfl⟩

/-- Three sinks, of which the second and the third fail; and three of which the first fails and the
second crashes, so that nobody asks the third. -/
theorem flush_reaches_sinks_up_to_a_crash_faltering :
    let sinks : List (String × Nat) := [("a", 0), ("b", 1), ("c", 2)]
    Flushed (leaves sinks)
      [⟨0, .flush, .ok⟩, ⟨1, .flush, .failed .stopped⟩, ⟨2, .flush, .failed (.sinkFailures 1 2)⟩] 2
      (.failed .stopped) ∧
    Flushed (leaves sinks) [⟨0, .flush, .failed .stopped⟩, ⟨1, .flush, .crashed .other⟩] 1
      (.crashed .other) := by
  obtain ⟨-, singly, calm, -⟩ := flush_reaches_sinks_up_to_a_crash (ι := Nat)
  refine ⟨?_, singly _ [.failed .stopped, .crashed .other, .ok] rfl⟩
  exact calm _ (replying [.ok, .failed .stopped, .failed (.sinkFailures 1 2)]) (by decide) .trace

/-- A logger does not reach all its sinks as a branch does: of two the first crashes, the second is
not flushed, and the caller has the crash. -/
theorem flush_stops_at_a_crash :
    ¬ ∀ (sinks : List (String × Nat)) (os : List Outcome), sinks.length = os.length →
      ∃ o, (∀ p, o ≠ .crashed p) ∧
        Flushed (leaves sinks) (List.zipWith (fun x o => ⟨x.2, .flush, o⟩) sinks os)
          (os.countP (· != .ok)) o := by
  intro promise
  obtain ⟨o, unharmed, es, h, -⟩ := promise [("a", 0), ("b", 1)] [.crashed .other, .ok] rfl
  rw [leaves, List.map_cons, flushRound, SinkTree.round] at h
  cases h with
  | call _ _ _ _ _ _ _ h => cases h

end Logger

end Logworks
