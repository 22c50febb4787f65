import Logworks.Logger

/-!
# The course of a round

A round goes on by what the sinks answer, and still most of what it does is known beforehand: a
record reaches each sink below each tree of its logger, whatever the others did with it. This file
fixes

* `Runner.recording` -- any runner, keeping the minutes of what sinks are asked and what is let
  known;
* `Round.Answered` -- one course a round may take, with what each sink answered on it;
  `answered_answering` -- **there is one whatever the sinks answer**;
* `Round.Course` -- the same without the answers; `course_of_run` -- each run takes one;
* `SinkTree.asked` -- the sinks below a tree that a call reaches, in order;
* `course_round`, `course_deliver` -- **the sinks are asked the same in every course**;
* `Logger.Goes`, `Logger.Comes` -- what a record can come to at a logger, with and without the
  answers: turned away, refused, delivered, or ended by a throw; `goes_of_answered`,
  `comes_of_course` -- each course is one of these;
* `course_flushRound` -- a flush that is not cut short reaches every sink.
-/

namespace Logworks

namespace Fanout

/-! ## 1. Courses -/

/-- What a round came upon: what it asked of which sink, and what it let be known. -/
structure Minutes (ι σ : Type) where
  world : σ
  calls : List (ι × Call) := []
  events : List Event := []

/-- A call that was made, and what the sink answered. -/
structure Answer (ι : Type) where
  sink : ι
  what : Call
  outcome : Outcome
  deriving DecidableEq, Repr

def Answer.asked {ι : Type} (x : Answer ι) : ι × Call := (x.sink, x.what)

namespace Round

variable {ι α β σ : Type}

/-- Runs as `m` does, and keeps the minutes. -/
def Runner.recording (m : Runner ι σ) : Runner ι (Minutes ι σ) where
  perform i c s :=
    ((m.perform i c s.world).1,
      { s with world := (m.perform i c s.world).2, calls := s.calls ++ [(i, c)] })
  note e s := { s with world := m.note e s.world, events := s.events ++ [e] }

/-- Every sink answers at once that all is well. -/
def obliging (ι : Type) : Runner ι Unit where
  perform _ _ s := (some .ok, s)
  note _ s := s

/-- A course of a round, with the answer to each call. -/
inductive Answered : Round ι α → List (Answer ι) → List Event → α → Prop where
  | done (a : α) : Answered (.done a) [] [] a
  | call (i : ι) (c : Call) (next : Outcome → Round ι α) (o : Outcome) (rs : List (Answer ι))
      (es : List Event) (a : α) (h : Answered (next o) rs es a) :
      Answered (.call i c next) (⟨i, c, o⟩ :: rs) es a
  | event (e : Event) (next : Round ι α) (rs : List (Answer ι)) (es : List Event) (a : α)
      (h : Answered next rs es a) : Answered (.event e next) rs (e :: es) a

/-- The course on which the calls of a round are answered so, one after the other. -/
def answering : Round ι α → (Nat → Outcome) → List (Answer ι) × List Event × α
  | .done a, _ => ([], [], a)
  | .call i c next, reply =>
    let (rs, es, a) := answering (next (reply 0)) fun k => reply (k + 1)
    (⟨i, c, reply 0⟩ :: rs, es, a)
  | .event e next, reply =>
    let (rs, es, a) := answering next reply
    (rs, e :: es, a)

/-- **Whatever the sinks answer, there is a course on which they do**, and it ends. -/
theorem answered_answering (r : Round ι α) (reply : Nat → Outcome) :
    Answered r (r.answering reply).1 (r.answering reply).2.1 (r.answering reply).2.2 := by
  induction r generalizing reply with
  | done a => exact .done a
  | call i c next ih => exact .call i c next (reply 0) _ _ _ (ih _ _)
  | event e next ih => exact .event e next _ _ _ (ih _)

theorem outcome_answering (r : Round ι α) (reply : Nat → Outcome) {k : Nat} {x : Answer ι}
    (h : (r.answering reply).1[k]? = some x) : x.outcome = reply k := by
  induction r generalizing reply k with
  | done a => cases h
  | call i c next ih =>
    cases k with
    | zero => cases h; rfl
    | succ k => exact ih _ (fun k => reply (k + 1)) h
  | event e next ih => exact ih reply h

/-- A course of a round behind a round is one of each. -/
theorem Answered.of_bind {r : Round ι α} {k : α → Round ι β} {rs : List (Answer ι)}
    {es : List Event} {b : β} (h : Answered (r.bind k) rs es b) :
    ∃ rs₁ es₁ a rs₂ es₂, Answered r rs₁ es₁ a ∧ Answered (k a) rs₂ es₂ b ∧ rs = rs₁ ++ rs₂ ∧
      es = es₁ ++ es₂ := by
  induction r generalizing rs es with
  | done a => exact ⟨[], [], a, rs, es, .done a, h, rfl, rfl⟩
  | call i c next ih =>
    cases h with
    | call _ _ _ o rs es _ h =>
      obtain ⟨rs₁, es₁, a, rs₂, es₂, h₁, h₂, rfl, rfl⟩ := ih o h
      exact ⟨_, _, a, _, _, .call i c next o rs₁ es₁ a h₁, h₂, rfl, rfl⟩
  | event e next ih =>
    cases h with
    | event _ _ rs es _ h =>
      obtain ⟨rs₁, es₁, a, rs₂, es₂, h₁, h₂, rfl, rfl⟩ := ih h
      exact ⟨_, _, a, _, _, .event e next rs₁ es₁ a h₁, h₂, rfl, rfl⟩

theorem Answered.of_events {es₀ : List Event} {r : Round ι α} {rs : List (Answer ι)}
    {es : List Event} {a : α} (h : Answered (.events es₀ r) rs es a) :
    ∃ es', Answered r rs es' a ∧ es = es₀ ++ es' := by
  induction es₀ generalizing es with
  | nil => exact ⟨es, h, rfl⟩
  | cons e es₀ ih =>
    cases h with
    | event _ _ _ es _ h =>
      obtain ⟨es', h', rfl⟩ := ih h
      exact ⟨es', h', rfl⟩

/-- A course of a round: the calls it makes, the events it lets be known, and its end, the sinks
answering as they like. -/
inductive Course : Round ι α → List (ι × Call) → List Event → α → Prop where
  | done (a : α) : Course (.done a) [] [] a
  | call (i : ι) (c : Call) (next : Outcome → Round ι α) (o : Outcome) (cs : List (ι × Call))
      (es : List Event) (a : α) (h : Course (next o) cs es a) :
      Course (.call i c next) ((i, c) :: cs) es a
  | event (e : Event) (next : Round ι α) (cs : List (ι × Call)) (es : List Event) (a : α)
      (h : Course next cs es a) : Course (.event e next) cs (e :: es) a

theorem Answered.course {r : Round ι α} {rs : List (Answer ι)} {es : List Event} {a : α}
    (h : Answered r rs es a) : Course r (rs.map Answer.asked) es a := by
  induction h with
  | done a => exact .done a
  | call i c next o rs es a _ ih => exact .call i c next o _ es a ih
  | event e next rs es a _ ih => exact .event e next _ es a ih

theorem Course.answered {r : Round ι α} {cs : List (ι × Call)} {es : List Event} {a : α}
    (h : Course r cs es a) : ∃ rs, Answered r rs es a ∧ cs = rs.map Answer.asked := by
  induction h with
  | done a => exact ⟨[], .done a, rfl⟩
  | call i c next o cs es a _ ih =>
    obtain ⟨rs, h, rfl⟩ := ih
    exact ⟨_, .call i c next o rs es a h, rfl⟩
  | event e next cs es a _ ih =>
    obtain ⟨rs, h, rfl⟩ := ih
    exact ⟨rs, .event e next rs es a h, rfl⟩

/-- **A run that ends takes a course of the round**, and the minutes tell which. -/
theorem course_of_run (m : Runner ι σ) {r : Round ι α} {s t : Minutes ι σ} {a : α}
    (h : r.run m.recording s = (.ended a, t)) :
    ∃ cs es, Course r cs es a ∧ t.calls = s.calls ++ cs ∧ t.events = s.events ++ es := by
  induction r generalizing s with
  | done b =>
    cases h
    exact ⟨[], [], .done a, (List.append_nil _).symm, (List.append_nil _).symm⟩
  | call i c next ih =>
    simp only [run, Runner.recording] at h
    split at h
    · rename_i o s' ho
      simp only [Prod.mk.injEq] at ho
      obtain ⟨_, rfl⟩ := ho
      obtain ⟨cs, es, hc, ecs, ees⟩ := ih o h
      exact ⟨(i, c) :: cs, es, .call i c next o cs es a hc, by simpa using ecs, ees⟩
    · cases h
  | event e next ih =>
    obtain ⟨cs, es, hc, ecs, ees⟩ := ih h
    exact ⟨cs, e :: es, .event e next cs es a hc, ecs, by simpa [Runner.recording] using ees⟩

/-- There is a run that ends. -/
theorem exists_run_obliging (r : Round ι α) (s : Minutes ι Unit) :
    ∃ a t, r.run (obliging ι).recording s = (.ended a, t) := by
  induction r generalizing s with
  | done a => exact ⟨a, s, rfl⟩
  | call i c next ih => exact ih .ok _
  | event e next ih => exact ih _

theorem Course.of_bind {r : Round ι α} {k : α → Round ι β} {cs : List (ι × Call)}
    {es : List Event} {b : β} (h : Course (r.bind k) cs es b) :
    ∃ cs₁ es₁ a cs₂ es₂, Course r cs₁ es₁ a ∧ Course (k a) cs₂ es₂ b ∧ cs = cs₁ ++ cs₂ ∧
      es = es₁ ++ es₂ := by
  obtain ⟨rs, hr, rfl⟩ := h.answered
  obtain ⟨rs₁, es₁, a, rs₂, es₂, h₁, h₂, rfl, rfl⟩ := hr.of_bind
  exact ⟨_, es₁, a, _, es₂, h₁.course, h₂.course, List.map_append, rfl⟩

theorem Course.of_events {es₀ : List Event} {r : Round ι α} {cs : List (ι × Call)}
    {es : List Event} {a : α} (h : Course (.events es₀ r) cs es a) :
    ∃ es', Course r cs es' a ∧ es = es₀ ++ es' := by
  obtain ⟨rs, hr, rfl⟩ := h.answered
  obtain ⟨es', h', rfl⟩ := hr.of_events
  exact ⟨es', h'.course, rfl⟩

end Round

/-! ## 2. Trees -/

/-- The event is no verdict on the record. -/
def Event.isQuiet : Event → Bool
  | .refused | .delivered => false
  | .notice _ | .mark _ | .failure => true

namespace SinkTree

variable {ι : Type}

mutual
/-- What a call on a tree asks of the sinks below it. -/
def asked (c : Call) : SinkTree ι → List (ι × Call)
  | leaf _ i => [(i, c)]
  | branch threshold children => if c.passes threshold then askedAll c children else []

def askedAll (c : Call) : List (SinkTree ι) → List (ι × Call)
  | [] => []
  | t :: ts => asked c t ++ askedAll c ts
end

theorem isQuiet_of_branchReport {child : String} {c : Call} {o : Outcome} {e : Event}
    (h : e ∈ branchReport child c o) : e.isQuiet = true := by
  cases o with
  | ok => cases h
  | failed f =>
    simp only [branchReport] at h
    split at h
    · cases h
    · rw [List.mem_singleton.mp h]
      rfl
  | crashed p =>
    rw [List.mem_singleton.mp h]
    rfl

open Round in
mutual
/-- **The sinks below a tree are asked the same in every course.** -/
theorem course_round (c : Call) :
    ∀ (t : SinkTree ι) {cs : List (ι × Call)} {es : List Event} {o : Outcome},
      Course (t.round c) cs es o → cs = t.asked c ∧ ∀ e ∈ es, e.isQuiet = true
  | leaf _ i, cs, es, o, h => by
    simp only [round] at h
    cases h with
    | call _ _ _ _ cs es _ h =>
      cases h
      exact ⟨rfl, fun e he => by cases he⟩
  | branch threshold children, cs, es, o, h => by
    simp only [round] at h
    rw [asked]
    split at h
    · obtain ⟨cs₁, es₁, a, cs₂, es₂, h₁, h₂, rfl, rfl⟩ := h.of_bind
      obtain ⟨rfl, hq⟩ := course_roundAll c children h₁
      cases h₂
      rw [if_pos ‹_›, List.append_nil, List.append_nil]
      exact ⟨rfl, hq⟩
    · cases h
      rw [if_neg ‹_›]
      exact ⟨rfl, fun e he => by cases he⟩

theorem course_roundAll (c : Call) :
    ∀ (ts : List (SinkTree ι)) {cs : List (ι × Call)} {es : List Event} {n : Nat},
      Course (roundAll c ts) cs es n → cs = askedAll c ts ∧ ∀ e ∈ es, e.isQuiet = true
  | [], cs, es, n, h => by
    simp only [roundAll] at h
    cases h
    exact ⟨rfl, fun e he => by cases he⟩
  | t :: ts, cs, es, n, h => by
    simp only [roundAll] at h
    obtain ⟨cs₁, es₁, o, cs₂, es₂, h₁, h₂, rfl, rfl⟩ := h.of_bind
    obtain ⟨rfl, hq₁⟩ := course_round c t h₁
    obtain ⟨es₃, h₃, rfl⟩ := h₂.of_events
    obtain ⟨cs₄, es₄, m, cs₅, es₅, h₄, h₅, rfl, rfl⟩ := h₃.of_bind
    obtain ⟨rfl, hq₄⟩ := course_roundAll c ts h₄
    cases h₅
    refine ⟨by rw [askedAll, List.append_nil], fun e he => ?_⟩
    rw [List.append_nil, List.mem_append, List.mem_append] at he
    rcases he with he | he | he
    · exact hq₁ e he
    · exact isQuiet_of_branchReport he
    · exact hq₄ e he
end

end SinkTree

end Fanout

/-! ## 3. Deliveries -/

namespace Logger

open Fanout Fanout.Round

variable {π ι : Type}

theorem isQuiet_of_logReport {logger sink : String} {o : Outcome} {e : Event}
    (h : e ∈ logReport logger sink o) : e.isQuiet = true := by
  cases o with
  | ok => cases h
  | failed f =>
    simp only [logReport] at h
    split at h
    · rw [List.mem_singleton.mp h]
      rfl
    · rcases List.mem_cons.mp h with rfl | h
      · rfl
      · rw [List.mem_singleton.mp h]
        rfl
  | crashed p =>
    rcases List.mem_cons.mp h with rfl | h
    · rfl
    · rw [List.mem_singleton.mp h]
      rfl

/-- **A record that is delivered reaches every sink below every tree**, and the last that is let
known is that it did. -/
theorem course_deliver (r : Record) :
    ∀ (trees : List (SinkTree ι)) {cs : List (ι × Call)} {es : List Event} {a : Unit},
      Course (deliver r trees) cs es a →
      cs = SinkTree.askedAll (.log r.logger r.level r.message) trees ∧
      ∃ qs, es = qs ++ [.delivered] ∧ ∀ e ∈ qs, e.isQuiet = true
  | [], cs, es, a, h => by
    simp only [deliver] at h
    cases h with
    | event _ _ _ es _ h =>
      cases h
      exact ⟨rfl, [], rfl, fun e he => by cases he⟩
  | t :: ts, cs, es, a, h => by
    simp only [deliver] at h
    obtain ⟨cs₁, es₁, o, cs₂, es₂, h₁, h₂, rfl, rfl⟩ := h.of_bind
    obtain ⟨rfl, hq₁⟩ := SinkTree.course_round _ t h₁
    obtain ⟨es₃, h₃, rfl⟩ := h₂.of_events
    obtain ⟨rfl, qs, rfl, hq₃⟩ := course_deliver r ts h₃
    refine ⟨by rw [SinkTree.askedAll], es₁ ++ (logReport r.logger t.name o ++ qs), by simp, ?_⟩
    intro e he
    rw [List.mem_append, List.mem_append] at he
    rcases he with he | he | he
    · exact hq₁ e he
    · exact isQuiet_of_logReport he
    · exact hq₃ e he

theorem isQuiet_map_mark {marks : List String} {e : Event} (h : e ∈ marks.map .mark) :
    e.isQuiet = true := by
  obtain ⟨tag, _, rfl⟩ := List.mem_map.mp h
  rfl

/-- The verdict on a draft, where it is delivered. -/
def verdict (l : Logger π ι) (eval : π → Scene → Trial) (s : Setting) (d : Draft) : Verdict :=
  (l.trial eval s (l.recordOf s.time d)).verdict

/-- What the predicates let be known on the way to the verdict. -/
def markEvents (l : Logger π ι) (eval : π → Scene → Trial) (s : Setting) (d : Draft) :
    List Event :=
  (l.trial eval s (l.recordOf s.time d)).marks.map .mark

/-- How a course of a record can go. -/
inductive Goes (l : Logger π ι) (trees : List (SinkTree ι)) (eval : π → Scene → Trial)
    (s : Setting) (d : Draft) : List (Answer ι) → List Event → Option Payload → Prop where
  /-- The level turns it away, and nobody hears of it. -/
  | off (h : l.isEnabled d.level = false) : Goes l trees eval s d [] [] none
  | refused (on : l.isEnabled d.level = true) (hv : l.verdict eval s d = .rejects) :
      Goes l trees eval s d [] (l.markEvents eval s d ++ [.refused]) none
  | delivered (rs : List (Answer ι)) (es : List Event) (on : l.isEnabled d.level = true)
      (hv : l.verdict eval s d = .admits)
      (h : Answered (deliver (l.recordOf s.time d) trees) rs es ()) :
      Goes l trees eval s d rs (l.markEvents eval s d ++ es) none
  | thrown (p : Payload) (on : l.isEnabled d.level = true)
      (hv : l.verdict eval s d = .throws p) :
      Goes l trees eval s d [] (l.markEvents eval s d) (some p)

/-- **Every course goes in one of these ways.** -/
theorem goes_of_answered {l : Logger π ι} {trees : List (SinkTree ι)} {eval : π → Scene → Trial}
    {s : Setting} {d : Draft} {rs : List (Answer ι)} {es : List Event} {thrown : Option Payload}
    (h : Answered (l.logRound trees eval s d) rs es thrown) :
    l.Goes trees eval s d rs es thrown := by
  unfold logRound at h
  split at h
  · rename_i on
    obtain ⟨es', h', rfl⟩ := h.of_events
    cases hv : l.verdict eval s d with
    | throws p =>
      rw [show (l.trial eval s (l.recordOf s.time d)).verdict = .throws p from hv] at h'
      cases h'
      rw [List.append_nil]
      exact .thrown p on hv
    | rejects =>
      rw [show (l.trial eval s (l.recordOf s.time d)).verdict = .rejects from hv] at h'
      cases h' with
      | event _ _ _ _ _ hd =>
        cases hd
        exact .refused on hv
    | admits =>
      rw [show (l.trial eval s (l.recordOf s.time d)).verdict = .admits from hv] at h'
      obtain ⟨rs₁, es₁, a, rs₂, es₂, hd, hn, rfl, rfl⟩ := h'.of_bind
      cases hn
      rw [List.append_nil, List.append_nil]
      exact .delivered rs₁ es₁ on hv hd
  · have off : l.isEnabled d.level = false := by simpa using ‹¬ l.isEnabled d.level = true›
    cases h
    exact .off off

/-- **What a record can come to at a logger**: what it asks of the sinks, what it lets be known,
and what was thrown. -/
inductive Comes (l : Logger π ι) (trees : List (SinkTree ι)) (eval : π → Scene → Trial)
    (s : Setting) (d : Draft) : List (ι × Call) → List Event → Option Payload → Prop where
  /-- The level turns it away, and nobody hears of it. -/
  | off (h : l.isEnabled d.level = false) : Comes l trees eval s d [] [] none
  | refused (qs : List Event) (on : l.isEnabled d.level = true)
      (hv : l.verdict eval s d = .rejects) (quiet : ∀ e ∈ qs, e.isQuiet = true) :
      Comes l trees eval s d [] (qs ++ [.refused]) none
  | delivered (qs : List Event) (on : l.isEnabled d.level = true)
      (hv : l.verdict eval s d = .admits) (quiet : ∀ e ∈ qs, e.isQuiet = true) :
      Comes l trees eval s d (SinkTree.askedAll (.log l.name d.level d.message) trees)
        (qs ++ [.delivered]) none
  | thrown (p : Payload) (qs : List Event) (on : l.isEnabled d.level = true)
      (hv : l.verdict eval s d = .throws p) (quiet : ∀ e ∈ qs, e.isQuiet = true) :
      Comes l trees eval s d [] qs (some p)

/-- **Every course of a delivery comes to one of these.** -/
theorem comes_of_course {l : Logger π ι} {trees : List (SinkTree ι)} {eval : π → Scene → Trial}
    {s : Setting} {d : Draft} {cs : List (ι × Call)} {es : List Event} {thrown : Option Payload}
    (h : Course (l.logRound trees eval s d) cs es thrown) :
    l.Comes trees eval s d cs es thrown := by
  have quiet : ∀ e ∈ l.markEvents eval s d, e.isQuiet = true := fun e he => isQuiet_map_mark he
  obtain ⟨rs, answered, rfl⟩ := h.answered
  cases goes_of_answered answered with
  | off off => exact .off off
  | refused on hv => exact .refused _ on hv quiet
  | thrown p on hv => exact .thrown p _ on hv quiet
  | delivered rs es on hv hd =>
    obtain ⟨asked, qs, rfl, hqs⟩ := course_deliver _ trees hd.course
    rw [asked, ← List.append_assoc]
    refine .delivered _ on hv fun e he => ?_
    rcases List.mem_append.mp he with he | he
    · exact quiet e he
    · exact hqs e he

/-! ## 4. Flushes -/

theorem isQuiet_of_flushReport {sink : String} {f : Fault} {e : Event}
    (h : e ∈ flushReport sink f) : e.isQuiet = true := by
  rcases List.mem_cons.mp h with rfl | h
  · rfl
  · rw [List.mem_singleton.mp h]
    rfl

/-- **A flush that is not cut short by a crash reaches every sink below every tree**, whatever
failed on the way. -/
theorem course_flushRound :
    ∀ (trees : List (SinkTree ι)) {cs : List (ι × Call)} {es : List Event} {o : Outcome},
      Course (flushRound trees) cs es o →
      (∀ e ∈ es, e.isQuiet = true) ∧
        ((∀ p, o ≠ .crashed p) → cs = SinkTree.askedAll .flush trees)
  | [], cs, es, o, h => by
    simp only [flushRound] at h
    cases h
    exact ⟨fun e he => absurd he List.not_mem_nil, fun _ => rfl⟩
  | t :: ts, cs, es, o, h => by
    simp only [flushRound] at h
    obtain ⟨cs₁, es₁, first, cs₂, es₂, h₁, h₂, rfl, rfl⟩ := h.of_bind
    obtain ⟨rfl, hq₁⟩ := SinkTree.course_round _ t h₁
    cases first with
    | ok =>
      obtain ⟨hq₂, hall⟩ := course_flushRound ts h₂
      refine ⟨fun e he => ?_, fun calm => by rw [hall calm, SinkTree.askedAll]⟩
      rcases List.mem_append.mp he with he | he
      · exact hq₁ e he
      · exact hq₂ e he
    | failed f =>
      obtain ⟨es₃, h₃, rfl⟩ := h₂.of_events
      obtain ⟨cs₄, es₄, rest, cs₅, es₅, h₄, h₅, rfl, rfl⟩ := h₃.of_bind
      obtain ⟨hq₄, hall⟩ := course_flushRound ts h₄
      have ends : cs₅ = [] ∧ es₅ = [] ∧ ∀ p, rest = .crashed p → o = .crashed p := by
        cases rest with
        | crashed p => cases h₅; exact ⟨rfl, rfl, fun _ he => he⟩
        | ok | failed _ => cases h₅; exact ⟨rfl, rfl, nofun⟩
      obtain ⟨rfl, rfl, crash⟩ := ends
      refine ⟨fun e he => ?_, fun calm => ?_⟩
      · rw [List.append_nil, List.mem_append, List.mem_append] at he
        rcases he with he | he | he
        · exact hq₁ e he
        · exact isQuiet_of_flushReport he
        · exact hq₄ e he
      · have calm' : ∀ p, rest ≠ .crashed p := fun p hp => calm p (crash p hp)
        rw [List.append_nil, hall calm', SinkTree.askedAll]
    | crashed p =>
      cases h₂
      refine ⟨fun e he => ?_, fun calm => absurd rfl (calm p)⟩
      rw [List.append_nil] at he
      exact hq₁ e he

end Logger

end Logworks
