import Logworks.Proofs.Fanout.Isolation

/-!
# The ways down a tree of sinks

A branch asks all its children, and so a call comes down every way that no threshold bars, to the
sink at its end. The same sink may stand at the end of several ways, and is then called on each.
What a branch answers hangs on the answers of its own children alone. This file fixes

* `SinkTree.Way` -- the numbers of the children that lead down from the root;
* `SinkTree.Reaches` -- a way no threshold on it bars, and the sink at its end;
* `SinkTree.ways` -- all of them, listed; `mem_ways_iff`, `ways_ascending` -- **each way comes once,
  from left to right and depth first**;
* `SinkTree.ending` -- what a tree answers, by what the sinks answer on each way;
* `answered_round_iff` -- **the courses of a call are these: one for each way of answering**;
* `answered_deliver`, `answered_flushRound` -- the same for the sinks of a logger, which counts
  one failure for each tree that failed;
* `branch_reaches_every_sink` -- the whole of it for a branch and for the loggers that hold one.

NOT here: sinks and thresholds that change during the call. A branch holds on to its children while
it asks them.
-/

namespace Logworks

open Fanout

variable {π ι : Type}

theorem Outcome.failures_eq_ite (o : Outcome) : o.failures = if o != .ok then 1 else 0 := by
  cases o <;> rfl

namespace Fanout

/-! ## 1. Courses put together -/

namespace Round

variable {α β : Type}

theorem Answered.bind {r : Round ι α} {k : α → Round ι β} {rs rs' : List (Answer ι)}
    {es es' : List Event} {a : α} {b : β} (h : Answered r rs es a) (h' : Answered (k a) rs' es' b) :
    Answered (r.bind k) (rs ++ rs') (es ++ es') b := by
  induction h with
  | done a => exact h'
  | call i c next o rs es a _ ih => exact .call i c _ o _ _ b (ih h')
  | event e next rs es a _ ih => exact .event e _ _ _ b (ih h')

theorem Answered.events (es₀ : List Event) {r : Round ι α} {rs : List (Answer ι)} {es : List Event}
    {a : α} (h : Answered r rs es a) : Answered (.events es₀ r) rs (es₀ ++ es) a := by
  induction es₀ with
  | nil => exact h
  | cons e es₀ ih => exact .event e _ _ _ a ih

end Round

/-! ## 2. Ways -/

/-- What a call needs of the threshold of a branch: a record its level, a flush nothing. -/
def Call.Clears : Call → Level → Prop
  | .log _ level _, threshold => level ≠ .off ∧ threshold ≤ level
  | .flush, _ => True

theorem Call.passes_iff (c : Call) (threshold : Level) :
    c.passes threshold = true ↔ c.Clears threshold := by
  cases c with
  | log logger level message => simp [passes, Clears, Level.admits]
  | flush => exact iff_of_true rfl trivial

instance (c : Call) (threshold : Level) : Decidable (c.Clears threshold) :=
  decidable_of_iff _ (c.passes_iff threshold)

namespace SinkTree

/-- The numbers of the children that lead down from the root. -/
abbrev Way := List Nat

/-- A way down a tree that no threshold on it bars, and the sink at its end. -/
inductive Reaches (c : Call) : SinkTree ι → Way → ι → Prop where
  | leaf (name : String) (i : ι) : Reaches c (.leaf name i) [] i
  | branch (threshold : Level) (children : List (SinkTree ι)) (k : Nat) (t : SinkTree ι) (w : Way)
      (i : ι) (clears : c.Clears threshold) (child : children[k]? = some t) (h : Reaches c t w i) :
      Reaches c (.branch threshold children) (k :: w) i

/-- The same way from one child further on. -/
def Way.next : Way → Way
  | [] => []
  | k :: w => (k + 1) :: w

mutual
/-- All ways a call comes down, from left to right and depth first, with the sinks at their ends. -/
def ways (c : Call) : SinkTree ι → List (Way × ι)
  | leaf _ i => [([], i)]
  | branch threshold children => if c.passes threshold then waysAll c children else []

def waysAll (c : Call) : List (SinkTree ι) → List (Way × ι)
  | [] => []
  | t :: ts => (ways c t).map (Prod.map (0 :: ·) id) ++ (waysAll c ts).map (Prod.map Way.next id)
end

theorem mem_map_zero_cons {xs : List (Way × ι)} {w : Way} {i : ι} :
    (w, i) ∈ xs.map (Prod.map (0 :: ·) id) ↔ ∃ w', w = 0 :: w' ∧ (w', i) ∈ xs := by
  constructor
  · intro h
    obtain ⟨⟨w', j⟩, hx, e⟩ := List.mem_map.mp h
    obtain ⟨rfl, rfl⟩ := Prod.mk.inj e
    exact ⟨w', rfl, hx⟩
  · rintro ⟨w', rfl, hx⟩
    exact List.mem_map.mpr ⟨(w', i), hx, rfl⟩

mutual
/-- **The ways listed are those that no threshold bars.** -/
theorem mem_ways_iff (c : Call) :
    ∀ (t : SinkTree ι) (w : Way) (i : ι), (w, i) ∈ ways c t ↔ Reaches c t w i
  | .leaf name j, w, i => by
    rw [ways, List.mem_singleton]
    constructor
    · intro h
      obtain ⟨rfl, rfl⟩ := Prod.mk.inj h
      exact .leaf name i
    · intro h
      cases h
      rfl
  | .branch threshold children, w, i => by
    rw [ways]
    split
    · rename_i passes
      rw [mem_waysAll_iff c children w i]
      constructor
      · rintro ⟨k, w', t, rfl, child, h⟩
        exact .branch threshold children k t w' i (c.passes_iff threshold |>.mp passes) child h
      · intro h
        cases h with
        | branch _ _ k t w' _ _ child h => exact ⟨k, w', t, rfl, child, h⟩
    · rename_i barred
      refine iff_of_false List.not_mem_nil fun h => ?_
      cases h with
      | branch _ _ _ _ _ _ clears _ _ => exact barred (c.passes_iff threshold |>.mpr clears)

theorem mem_waysAll_iff (c : Call) :
    ∀ (ts : List (SinkTree ι)) (w : Way) (i : ι),
      (w, i) ∈ waysAll c ts ↔ ∃ k w' t, w = k :: w' ∧ ts[k]? = some t ∧ Reaches c t w' i
  | [], w, i => by
    rw [waysAll]
    refine iff_of_false List.not_mem_nil ?_
    rintro ⟨k, w', t, -, child, -⟩
    cases child
  | t :: ts, w, i => by
    rw [waysAll, List.mem_append, mem_map_zero_cons]
    constructor
    · rintro (⟨w', rfl, h⟩ | h)
      · exact ⟨0, w', t, rfl, rfl, (mem_ways_iff c t w' i).mp h⟩
      · obtain ⟨⟨v, j⟩, hv, e⟩ := List.mem_map.mp h
        obtain ⟨rfl, rfl⟩ := Prod.mk.inj e
        obtain ⟨k, w', t', rfl, child, h'⟩ := (mem_waysAll_iff c ts v j).mp hv
        exact ⟨k + 1, w', t', rfl, child, h'⟩
    · rintro ⟨k, w', t', rfl, child, h⟩
      cases k with
      | zero =>
        cases child
        exact .inl ⟨w', rfl, (mem_ways_iff c t w' i).mpr h⟩
      | succ k =>
        have later : (k :: w', i) ∈ waysAll c ts :=
          (mem_waysAll_iff c ts (k :: w') i).mpr ⟨k, w', t', rfl, child, h⟩
        exact .inr (List.mem_map.mpr ⟨(k :: w', i), later, rfl⟩)
end

theorem Way.next_lt_next {k m : Nat} {v w : Way} (h : k :: v < m :: w) :
    Way.next (k :: v) < Way.next (m :: w) := by
  rcases List.cons_lt_cons_iff.mp h with left | ⟨rfl, below⟩
  · exact List.cons_lt_cons_iff.mpr (.inl (Nat.succ_lt_succ left))
  · exact List.cons_lt_cons_iff.mpr (.inr ⟨rfl, below⟩)

/-- Way after way, each further to the right than the last. -/
def Ascending (xs : List (Way × ι)) : Prop := xs.Pairwise fun x y => x.1 < y.1

mutual
/-- **The ways are listed from left to right and depth first**, and none comes twice. -/
theorem ways_ascending (c : Call) : ∀ t : SinkTree ι, Ascending (ways c t)
  | .leaf _ _ => by
    rw [ways]
    exact List.pairwise_singleton _ _
  | .branch threshold children => by
    rw [ways]
    split
    · exact waysAll_ascending c children
    · exact List.Pairwise.nil

theorem waysAll_ascending (c : Call) : ∀ ts : List (SinkTree ι), Ascending (waysAll c ts)
  | [] => by
    rw [waysAll]
    exact List.Pairwise.nil
  | t :: ts => by
    have starts {w : Way} {i : ι} (h : (w, i) ∈ waysAll c ts) : ∃ k w', w = k :: w' := by
      obtain ⟨k, w', -, rfl, -⟩ := (mem_waysAll_iff c ts w i).mp h
      exact ⟨k, w', rfl⟩
    rw [waysAll]
    refine List.pairwise_append.mpr ⟨?_, ?_, ?_⟩
    · rw [List.pairwise_map]
      exact (ways_ascending c t).imp fun h => List.cons_lt_cons_self.mpr h
    · rw [List.pairwise_map]
      refine (waysAll_ascending c ts).imp_of_mem fun {x y} hx hy h => ?_
      obtain ⟨k, v, hv⟩ := starts hx
      obtain ⟨m, w, hw⟩ := starts hy
      rw [hv, hw] at h
      rw [Prod.map_fst, Prod.map_fst, hv, hw]
      exact Way.next_lt_next h
    · intro x hx y hy
      obtain ⟨v, hv, -⟩ := mem_map_zero_cons.mp hx
      obtain ⟨⟨w, j⟩, hw, rfl⟩ := List.mem_map.mp hy
      obtain ⟨m, w, rfl⟩ := starts hw
      rw [hv]
      exact List.cons_lt_cons_iff.mpr (.inl (Nat.succ_pos m))
end

/-! ## 3. Answers -/

mutual
/-- What a tree answers to a call, when the sinks answer so at the end of each way. -/
def ending (c : Call) (reply : Way → Outcome) : SinkTree ι → Outcome
  | leaf _ _ => reply []
  | branch threshold children =>
    if c.passes threshold then branchOutcome (failing c reply children) children.length else .ok

/-- How many of the trees do not answer that all is well. -/
def failing (c : Call) (reply : Way → Outcome) : List (SinkTree ι) → Nat
  | [] => 0
  | t :: ts => (ending c (fun w => reply (0 :: w)) t).failures + failing c (reply ∘ Way.next) ts
end

/-- The number of those that failed is counted over the trees themselves. -/
theorem failing_eq_countP (c : Call) (reply : Way → Outcome) (ts : List (SinkTree ι)) :
    failing c reply ts =
      ts.zipIdx.countP fun x => ending c (fun w => reply (x.2 :: w)) x.1 != .ok := by
  induction ts generalizing reply with
  | nil => rw [failing, List.zipIdx_nil, List.countP_nil]
  | cons t ts ih =>
    rw [failing, ih, List.zipIdx_cons', List.countP_cons, List.countP_map,
      Outcome.failures_eq_ite, Nat.add_comm]
    rfl

/-- A branch that was to ask its children answers how many of them failed, of how many, if any did.
In every other case all is well. -/
theorem ending_branch (c : Call) (reply : Way → Outcome) (threshold : Level)
    (children : List (SinkTree ι)) :
    ending c reply (.branch threshold children) =
      if c.Clears threshold ∧ 0 < failing c reply children then
        .failed (.sinkFailures (failing c reply children) children.length)
      else .ok := by
  rw [ending]
  by_cases clears : c.Clears threshold
  · rw [if_pos ((c.passes_iff threshold).mpr clears), branchOutcome]
    by_cases none_failed : failing c reply children = 0
    · rw [if_pos none_failed, if_neg fun h => Nat.ne_of_gt h.2 none_failed]
    · rw [if_neg none_failed, if_pos ⟨clears, Nat.pos_of_ne_zero none_failed⟩]
  · rw [if_neg fun passes => clears ((c.passes_iff threshold).mp passes),
      if_neg fun h => clears h.1]

/-- The calls on these ways, answered so. -/
def answersOn (c : Call) (reply : Way → Outcome) (xs : List (Way × ι)) : List (Answer ι) :=
  xs.map fun x => ⟨x.2, c, reply x.1⟩

theorem answersOn_waysAll_cons (c : Call) (reply : Way → Outcome) (t : SinkTree ι)
    (ts : List (SinkTree ι)) :
    answersOn c reply (waysAll c (t :: ts)) =
      answersOn c (fun w => reply (0 :: w)) (ways c t) ++
        answersOn c (reply ∘ Way.next) (waysAll c ts) := by
  rw [waysAll, answersOn, List.map_append, List.map_map, List.map_map]
  rfl

/-- Answers below the first of several trees, and below those behind it. -/
def Way.first (here there : Way → Outcome) : Way → Outcome
  | [] => there []
  | 0 :: w => here w
  | (k + 1) :: w => there (k :: w)

theorem Way.first_next (here there : Way → Outcome) : Way.first here there ∘ Way.next = there := by
  funext w
  cases w <;> rfl

/-- Whatever is answered below one tree and whatever below those behind it, both come together. -/
theorem exists_reply_cons (c : Call) (t : SinkTree ι) (ts : List (SinkTree ι))
    (here there : Way → Outcome) :
    ∃ reply, answersOn c here (ways c t) ++ answersOn c there (waysAll c ts) =
        answersOn c reply (waysAll c (t :: ts)) ∧
      (ending c here t).failures + failing c there ts = failing c reply (t :: ts) := by
  refine ⟨Way.first here there, ?_, ?_⟩
  · rw [answersOn_waysAll_cons, Way.first_next]
    rfl
  · rw [failing, Way.first_next]
    rfl

open Round in
mutual
/-- **The courses of a call on a tree**: the sinks are called on all the ways that no threshold bars
and on no other, whatever they answer, and by their answers the tree ends. -/
theorem answered_round_iff (c : Call) :
    ∀ (t : SinkTree ι) {rs : List (Answer ι)} {o : Outcome},
      (∃ es, Answered (t.round c) rs es o) ↔
        ∃ reply, rs = answersOn c reply (ways c t) ∧ o = ending c reply t
  | .leaf name i, rs, o => by
    rw [round, ways]
    constructor
    · rintro ⟨es, h⟩
      cases h with
      | call _ _ _ o' _ _ _ h =>
        cases h
        exact ⟨fun _ => o, rfl, by rw [ending]⟩
    · rintro ⟨reply, rfl, rfl⟩
      rw [ending]
      exact ⟨[], .call i c _ (reply []) [] [] _ (.done _)⟩
  | .branch threshold children, rs, o => by
    rw [round, ways]
    split
    · rename_i passes
      constructor
      · rintro ⟨es, h⟩
        obtain ⟨rs₁, es₁, n, rs₂, es₂, h₁, h₂, rfl, rfl⟩ := h.of_bind
        cases h₂
        obtain ⟨reply, rfl, rfl⟩ := (answered_roundAll_iff c children).mp ⟨es₁, h₁⟩
        exact ⟨reply, List.append_nil _, by rw [ending, if_pos passes]⟩
      · rintro ⟨reply, rfl, rfl⟩
        obtain ⟨es, h⟩ := (answered_roundAll_iff c children).mpr ⟨reply, rfl, rfl⟩
        rw [ending, if_pos passes]
        have course := h.bind (k := fun failed => .done (branchOutcome failed children.length))
          (.done _)
        rw [List.append_nil] at course
        exact ⟨_, course⟩
    · rename_i barred
      constructor
      · rintro ⟨es, h⟩
        cases h
        exact ⟨fun _ => .ok, rfl, by rw [ending, if_neg barred]⟩
      · rintro ⟨reply, rfl, rfl⟩
        rw [ending, if_neg barred]
        exact ⟨[], .done _⟩

theorem answered_roundAll_iff (c : Call) :
    ∀ (ts : List (SinkTree ι)) {rs : List (Answer ι)} {n : Nat},
      (∃ es, Answered (roundAll c ts) rs es n) ↔
        ∃ reply, rs = answersOn c reply (waysAll c ts) ∧ n = failing c reply ts
  | [], rs, n => by
    rw [roundAll, waysAll]
    constructor
    · rintro ⟨es, h⟩
      cases h
      exact ⟨fun _ => .ok, rfl, by rw [failing]⟩
    · rintro ⟨reply, rfl, rfl⟩
      rw [failing]
      exact ⟨[], .done _⟩
  | t :: ts, rs, n => by
    rw [roundAll]
    constructor
    · rintro ⟨es, h⟩
      obtain ⟨rs₁, es₁, o, rs₂, es₂, h₁, h₂, rfl, rfl⟩ := h.of_bind
      obtain ⟨es₃, h₃, rfl⟩ := h₂.of_events
      obtain ⟨rs₄, es₄, m, rs₅, es₅, h₄, h₅, rfl, rfl⟩ := h₃.of_bind
      cases h₅
      obtain ⟨here, rfl, rfl⟩ := (answered_round_iff c t).mp ⟨es₁, h₁⟩
      obtain ⟨there, rfl, rfl⟩ := (answered_roundAll_iff c ts).mp ⟨es₄, h₄⟩
      rw [List.append_nil]
      exact exists_reply_cons c t ts here there
    · rintro ⟨reply, rfl, rfl⟩
      obtain ⟨es₁, h₁⟩ := (answered_round_iff c t).mpr ⟨fun w => reply (0 :: w), rfl, rfl⟩
      obtain ⟨es₂, h₂⟩ := (answered_roundAll_iff c ts).mpr ⟨reply ∘ Way.next, rfl, rfl⟩
      rw [answersOn_waysAll_cons, failing]
      have rest := h₂.bind (k := fun failed =>
        .done ((ending c (fun w => reply (0 :: w)) t).failures + failed)) (.done _)
      rw [List.append_nil] at rest
      exact ⟨_, h₁.bind (rest.events _)⟩
end

end SinkTree

end Fanout

/-! ## 4. Loggers -/

namespace Logger

open Fanout.SinkTree

/-- A record that is delivered comes down all the ways below the sinks of the logger, and one
failure is counted for each of these that failed, whatever happened below it. -/
theorem answered_deliver (r : Record) :
    ∀ (trees : List (SinkTree ι)) {rs : List (Answer ι)} {es : List Event} {a : Unit},
      Round.Answered (deliver r trees) rs es a →
      ∃ reply, rs = answersOn (.log r.logger r.level r.message) reply
          (waysAll (.log r.logger r.level r.message) trees) ∧
        es.count .failure = failing (.log r.logger r.level r.message) reply trees
  | [], rs, es, a, h => by
    rw [deliver] at h
    cases h with
    | event _ _ _ _ _ h =>
      cases h
      exact ⟨fun _ => .ok, by rw [waysAll]; rfl, by rw [failing]; rfl⟩
  | t :: ts, rs, es, a, h => by
    rw [deliver] at h
    obtain ⟨rs₁, es₁, o, rs₂, es₂, h₁, h₂, rfl, rfl⟩ := h.of_bind
    obtain ⟨es₃, h₃, rfl⟩ := h₂.of_events
    obtain ⟨here, rfl, rfl⟩ := (answered_round_iff _ t).mp ⟨es₁, h₁⟩
    obtain ⟨there, rfl, counted⟩ := answered_deliver r ts h₃
    obtain ⟨reply, calls, count⟩ := exists_reply_cons _ t ts here there
    refine ⟨reply, calls, ?_⟩
    have below : es₁.count .failure = 0 :=
      List.count_eq_zero.mpr (failure_not_mem_of_round _ t h₁)
    rw [List.count_append, List.count_append, below, counted, count_failure_logReport,
      ← Outcome.failures_eq_ite, Nat.zero_add, count]

theorem counted_delivered (m : Metrics) (n : Nat) : Counted m (m.delivered n) 1 0 n := by
  obtain ⟨e, he, count⟩ := repeat_recordError m n
  rw [Metrics.delivered, he]
  exact ⟨wrapWord_wrapWord _, rfl, count, rfl⟩

theorem answered_logRound {l : Logger π ι} {trees : List (SinkTree ι)} {eval : π → Scene → Trial}
    {here : Setting} {d : Draft} {rs : List (Answer ι)} {es : List Event} {thrown : Option Payload}
    (h : Round.Answered (l.logRound trees eval here d) rs es thrown)
    (on : l.isEnabled d.level = true) (hv : l.verdict eval here d = .admits) :
    ∃ reply, rs = answersOn (.log l.name d.level d.message) reply
        (waysAll (.log l.name d.level d.message) trees) ∧
      Counted l.metrics (es.foldl Metrics.note l.metrics) 1 0
        (failing (.log l.name d.level d.message) reply trees) := by
  cases goes_of_answered h with
  | off off => rw [on] at off; cases off
  | refused _ refused => rw [hv] at refused; cases refused
  | thrown p _ thrown => rw [hv] at thrown; cases thrown
  | delivered rs es _ _ hd =>
    obtain ⟨reply, calls, counted⟩ := answered_deliver _ _ hd
    obtain ⟨-, qs, rfl, quiet⟩ := course_deliver _ _ hd.course
    have fails : qs.count .failure =
        failing (.log l.name d.level d.message) reply trees := by
      rw [List.count_append] at counted
      exact counted
    rw [List.foldl_append, foldl_note_markEvents, List.foldl_append, foldl_note_of_isQuiet quiet,
      fails]
    exact ⟨reply, calls, counted_delivered l.metrics _⟩

theorem count_failure_flushReport (sink : String) (f : Fault) :
    (flushReport sink f).count .failure = 1 := rfl

/-- A flush of one more tree: it crashes and that is the end, or the others are flushed as well, and
what comes of it ends in a crash only if they do. -/
theorem flushRound_cases {t : SinkTree ι} {ts : List (SinkTree ι)} {rs : List (Answer ι)}
    {es : List Event} {o : Outcome} (h : Round.Answered (flushRound (t :: ts)) rs es o) :
    ∃ rs₁ es₁ first, Round.Answered (t.round .flush) rs₁ es₁ first ∧
      ((∃ p, first = .crashed p ∧ o = .crashed p) ∨
        ∃ rs₂ es₂ last, Round.Answered (flushRound ts) rs₂ es₂ last ∧ rs = rs₁ ++ rs₂ ∧
          es.count .failure = es₁.count .failure + (first.failures + es₂.count .failure) ∧
          ∀ p, o = .crashed p ↔ last = .crashed p) := by
  rw [flushRound] at h
  obtain ⟨rs₁, es₁, first, rs₂, es₂, h₁, h₂, rfl, rfl⟩ := h.of_bind
  refine ⟨rs₁, es₁, first, h₁, ?_⟩
  cases first with
  | crashed p =>
    cases h₂
    exact .inl ⟨p, rfl, rfl⟩
  | ok =>
    refine .inr ⟨rs₂, es₂, o, h₂, rfl, ?_, fun p => Iff.rfl⟩
    rw [List.count_append, Outcome.failures, Nat.zero_add]
  | failed f =>
    obtain ⟨es₃, h₃, rfl⟩ := h₂.of_events
    obtain ⟨rs₄, es₄, last, rs₅, es₅, h₄, h₅, rfl, rfl⟩ := h₃.of_bind
    have silent : rs₅ = [] ∧ es₅ = [] ∧ ∀ p, o = .crashed p ↔ last = .crashed p := by
      cases last with
      | crashed q => cases h₅; exact ⟨rfl, rfl, fun p => Iff.rfl⟩
      | ok | failed _ => cases h₅; exact ⟨rfl, rfl, by simp⟩
    obtain ⟨rfl, rfl, crash⟩ := silent
    refine .inr ⟨rs₄, es₄, last, h₄, by rw [List.append_nil], ?_, crash⟩
    rw [List.append_nil, List.count_append, List.count_append, count_failure_flushReport]
    rfl

/-- A flush that does not end in a crash comes down all the ways below the sinks of the logger, and
one failure is counted for each of these that failed. -/
theorem answered_flushRound :
    ∀ (trees : List (SinkTree ι)) {rs : List (Answer ι)} {es : List Event} {o : Outcome},
      Round.Answered (flushRound trees) rs es o → (∀ p, o ≠ .crashed p) →
      ∃ reply, rs = answersOn .flush reply (waysAll .flush trees) ∧
        es.count .failure = failing .flush reply trees
  | [], rs, es, o, h, _ => by
    rw [flushRound] at h
    cases h
    exact ⟨fun _ => .ok, by rw [waysAll]; rfl, by rw [failing]; rfl⟩
  | t :: ts, rs, es, o, h, unharmed => by
    obtain ⟨rs₁, es₁, first, h₁, ⟨p, -, crashed⟩ | ⟨rs₂, es₂, last, h₂, rfl, counts, crash⟩⟩ :=
      flushRound_cases h
    · exact absurd crashed (unharmed p)
    · have below : es₁.count .failure = 0 :=
        List.count_eq_zero.mpr (failure_not_mem_of_round _ t h₁)
      obtain ⟨here, rfl, rfl⟩ := (answered_round_iff _ t).mp ⟨es₁, h₁⟩
      obtain ⟨there, rfl, counted⟩ :=
        answered_flushRound ts h₂ fun p hp => unharmed p ((crash p).mpr hp)
      obtain ⟨reply, calls, count⟩ := exists_reply_cons _ t ts here there
      exact ⟨reply, calls, by rw [counts, below, counted, Nat.zero_add, count]⟩

/-- A flush that reaches branches only does not end in a crash. -/
theorem unharmed_of_branches :
    ∀ (trees : List (SinkTree ι)) {rs : List (Answer ι)} {es : List Event} {o : Outcome},
      Round.Answered (flushRound trees) rs es o →
      (∀ t ∈ trees, ∃ threshold children, t = .branch threshold children) → ∀ p, o ≠ .crashed p
  | [], rs, es, o, h, _, p => by
    rw [flushRound] at h
    cases h
    exact Outcome.noConfusion
  | t :: ts, rs, es, o, h, all, p => by
    obtain ⟨threshold, children, rfl⟩ := all t List.mem_cons_self
    have rest := fun t ht => all t (List.mem_cons_of_mem _ ht)
    obtain ⟨rs₁, es₁, first, h₁, ⟨q, crashed, -⟩ | ⟨rs₂, es₂, last, h₂, -, -, crash⟩⟩ :=
      flushRound_cases h
    · obtain ⟨here, rfl, answer⟩ := (answered_round_iff _ _).mp ⟨es₁, h₁⟩
      rw [crashed, ending_branch] at answer
      split at answer <;> cases answer
    · exact fun hp => unharmed_of_branches ts h₂ rest p ((crash p).mp hp)

/-- **A branch serves every sink below it, whatever the others do.** A call comes down all the ways
that no threshold bars, each once, from left to right and depth first, with the same arguments, and
there is a course for any answers at their ends. A branch does not crash: it fails if it was to ask
its children and some of them failed, and says how many. A logger that holds trees counts one
failure for each tree that failed, in a record that is delivered and in a flush that no sink of its
own cuts short; and branches cut none short. -/
theorem branch_reaches_every_sink :
    (∀ (c : Call) (t : SinkTree ι),
      (∀ w i, (w, i) ∈ t.ways c ↔ Reaches c t w i) ∧ Ascending (t.ways c) ∧
      ∀ rs o, (∃ es, Round.Answered (t.round c) rs es o) ↔
        ∃ reply, rs = answersOn c reply (t.ways c) ∧ o = t.ending c reply) ∧
    (∀ (c : Call) (reply : Way → Outcome) (threshold : Level) (children : List (SinkTree ι)),
      let failed := children.zipIdx.countP fun x => x.1.ending c (fun w => reply (x.2 :: w)) != .ok
      (branch threshold children).ending c reply =
        if c.Clears threshold ∧ 0 < failed then .failed (.sinkFailures failed children.length)
        else .ok) ∧
    (∀ (place : ι → SinkTree ι) (l : Logger π ι) (eval : π → Scene → Trial) (here : Setting)
      (d : Draft) (answers : Nat → Outcome),
      l.isEnabled d.level = true → l.verdict eval here d = .admits →
      let c := Call.log l.name d.level d.message
      let x := l.turn place (.log eval here d) answers
      ∃ reply, x.answers = answersOn c reply (waysAll c (l.sinks.map place)) ∧
        Counted l.metrics x.after.metrics 1 0
          ((l.sinks.map place).zipIdx.countP fun x =>
            x.1.ending c (fun w => reply (x.2 :: w)) != .ok)) ∧
    ∀ (trees : List (SinkTree ι)) (m : Metrics) (rs : List (Answer ι)) (es : List Event)
      (o : Outcome), Round.Answered (flushRound trees) rs es o →
      ((∀ t ∈ trees, ∃ threshold children, t = branch threshold children) →
        ∀ p, o ≠ .crashed p) ∧
      ((∀ p, o ≠ .crashed p) →
        ∃ reply, rs = answersOn .flush reply (waysAll .flush trees) ∧
          Counted m (es.foldl Metrics.note m) 0 0
            (trees.zipIdx.countP fun x =>
              x.1.ending .flush (fun w => reply (x.2 :: w)) != .ok)) := by
  refine ⟨fun c t => ⟨mem_ways_iff c t, ways_ascending c t, fun rs o => answered_round_iff c t⟩,
    fun c reply threshold children => ?_, fun place l eval here d answers on hv => ?_,
    fun trees m rs es o h => ⟨unharmed_of_branches trees h, fun unharmed => ?_⟩⟩
  · rw [ending_branch, failing_eq_countP]
  · obtain ⟨reply, calls, counted⟩ := answered_logRound (Round.answered_answering _ answers) on hv
    rw [failing_eq_countP] at counted
    exact ⟨reply, calls, counted⟩
  · obtain ⟨reply, calls, count⟩ := answered_flushRound trees h unharmed
    refine ⟨reply, calls, ?_⟩
    rw [foldl_note_of_isQuiet (course_flushRound trees h.course).1, count, failing_eq_countP]
    obtain ⟨e, he, counted⟩ := repeat_recordError m _
    rw [he]
    exact ⟨rfl, rfl, counted, rfl⟩

/-- Of the children of the root one fails, one crashes, and one is a branch that asks nobody. -/
example :
    let low : SinkTree Nat := .branch .error [.leaf "c" 2]
    let tree := SinkTree.branch .trace [.branch .info [.leaf "a" 0, .leaf "b" 1], low, .leaf "a" 0]
    let reply (w : Way) : Outcome := if w = [0, 1] then .failed .stopped else .crashed .other
    (tree.ways (.log "web" .info "go")).map Prod.fst = [[0, 0], [0, 1], [2]] ∧
      (tree.ways .flush).map Prod.fst = [[0, 0], [0, 1], [1, 0], [2]] ∧
      tree.ending (.log "web" .info "go") reply = .failed (.sinkFailures 2 3) ∧
      tree.ending .flush reply = .failed (.sinkFailures 3 3) := by
  decide

end Logger

end Logworks
