import Logworks.Predicate
import Logworks.Proofs.Delivery.Concert

/-!
# Delivery behind a queue is delivery in some order

Behind a queue that makes callers wait, records reach the sinks late and from another thread, and
still nothing can be told from it: what the sinks were asked, and what was counted, is what the
same programs do alone, one operation after the other, in some order that keeps each program's own.
A call takes its place in that order when its record enters the queue. This file fixes

* `Patient` -- calls that wait for room and are never turned away;
* `Flowing` -- the queue runs, holds records only, and loses none;
* `Accounts` -- an order of operations accounts for what the producers did so far;
* `Faithful` -- the sinks and the counters are as the delivered records say;
* `delivered_as_alone` -- the main fact.
-/

namespace Logworks.Delivery

open Fanout

variable {π ι : Type}

/-! ## 1. Calls that wait -/

/-- A call that waits for room, without a limit. -/
def Producer.isPatient : Producer → Bool
  | fresh _ | admitted _ | waiting _ false | finished => true
  | evicting _ _ | retrying _ _ | waiting _ true => false

/-- **What a patient call does before a queue that runs and makes it wait**: it goes on with its
record, or puts it at the back. -/
theorem Producer.patient_step {q r : Queue} {c next : Producer} {notes : List Note}
    (hb : q.policy = .block) (hr : q.isRunning = true) (hp : c.isPatient = true)
    (h : c.step? q = some (next, r, notes)) :
    ∃ p, c.post? = some p ∧
      ((next.isPatient = true ∧ next.post? = some p ∧ r = q ∧ notes = []) ∨
      (next = .finished ∧ r = { q with items := q.items ++ [.post p] } ∧
        notes = [.depth (q.items.length + 1)])) := by
  have places : ∀ {p : Post} {q' : Queue}, q.offer? (.post p) = some q' →
      placed q' = (.finished, { q with items := q.items ++ [.post p] },
        [.depth (q.items.length + 1)]) := by
    intro p q' ho
    obtain ⟨_, rfl⟩ := Queue.offer?_eq_some ho
    simp [placed]
  cases c with
  | fresh p =>
    simp only [step?, hr, if_true] at h
    cases h
    exact ⟨p, rfl, .inl ⟨rfl, rfl, rfl, rfl⟩⟩
  | admitted p =>
    simp only [step?] at h
    split at h
    · rw [places ‹_›] at h
      cases h
      exact ⟨p, rfl, .inr ⟨rfl, rfl, rfl⟩⟩
    · simp only [hb, overflow] at h
      cases h
      exact ⟨p, rfl, .inl ⟨rfl, rfl, rfl, rfl⟩⟩
  | waiting p isLimited =>
    simp only [step?, Option.map_eq_some_iff] at h
    obtain ⟨q', hq', h⟩ := h
    rw [places hq'] at h
    cases h
    exact ⟨p, rfl, .inr ⟨rfl, rfl, rfl⟩⟩
  | finished => cases h
  | evicting _ _ | retrying _ _ => cases hp

namespace Traffic

variable {m : Metrics} {s t : Traffic}

theorem mem_advance {k : Nat} {c d : LogCall} {next : Producer} {q : Queue} {notes : List Note}
    (hd : d ∈ (s.advance k c next q notes).calls) :
    d ∈ s.calls ∨ d = { c with progress := next } :=
  List.mem_or_eq_of_mem_set hd

/-- The producer of an open call is not free. -/
theorem IsFree.ne {i : Nat} (h : s.IsFree i) {k : Nat} {c : LogCall} (hc : s.calls[k]? = some c)
    (ho : c.progress ≠ .finished) : c.caller ≠ i :=
  fun e => ho (h c (List.mem_of_getElem? hc) e)

/-- Who is free after a step of a call was free before, unless the call was its own. -/
theorem IsFree.of_advance {i k : Nat} {c : LogCall} {next : Producer} {q : Queue}
    {notes : List Note} (h : (s.advance k c next q notes).IsFree i)
    (hc : s.calls[k]? = some c) (hi : c.caller ≠ i) : s.IsFree i := by
  intro d hd e
  obtain ⟨j, hj⟩ := List.mem_iff_getElem?.mp hd
  have hjk : j ≠ k := by
    rintro rfl
    rw [hc] at hj
    cases hj
    exact hi e
  refine h d (List.mem_of_getElem? (i := j) ?_) e
  rwa [Traffic.advance, List.getElem?_set_ne (Ne.symm hjk)]

/-- A producer has one call under way at most. -/
theorem Booked.caller_ne (h : Booked m s) {j k : Nat} {c d : LogCall} (hc : s.calls[k]? = some c)
    (hd : s.calls[j]? = some d) (hjk : j ≠ k) (hco : c.progress ≠ .finished)
    (hdo : d.progress ≠ .finished) : d.caller ≠ c.caller := by
  rcases Nat.lt_or_gt_of_ne hjk with hlt | hlt
  · exact (h.last j d hd hdo k c hlt hc).symm
  · exact h.last k c hc hco j d hlt hd

/-! ## 2. Nothing is lost -/

/-- The queue runs, holds records only, and loses none. -/
structure Flowing (m : Metrics) (s : Traffic) : Prop where
  policy : s.queue.policy = .block
  running : s.queue.isRunning = true
  /-- No marks. -/
  posts : ∀ c ∈ s.queue.items, ∃ p, c = .post p
  patient : ∀ c ∈ s.calls, c.progress.isPatient = true
  worker : s.worker = .idle ∨ ∃ p, s.worker = .delivering p false
  whole : s.ledger.course = s.ledger.entered
  counted : s.metrics.dropped = m.dropped

theorem flowing_start (capacity : Nat) (m : Metrics) : Flowing m (start capacity .block m) where
  policy := rfl
  running := rfl
  posts c h := by cases h
  patient c h := by cases h
  worker := .inl rfl
  whole := rfl
  counted := rfl

theorem Flowing.begin (h : Flowing m s) (caller : Nat) (p : Post) :
    Flowing m (s.begin caller p) where
  policy := h.policy
  running := h.running
  posts := h.posts
  patient c hc := by
    rcases List.mem_append.mp hc with hc | hc
    · exact h.patient c hc
    · rw [List.mem_singleton.mp hc]
      rfl
  worker := h.worker
  whole := h.whole
  counted := h.counted

theorem Flowing.advance (h : Flowing m s) {k : Nat} {c : LogCall} (hc : s.calls[k]? = some c)
    {next : Producer} {q : Queue} {notes : List Note}
    (hstep : c.progress.step? s.queue = some (next, q, notes)) :
    Flowing m (s.advance k c next q notes) := by
  obtain ⟨p, hp, ⟨hn, hnp, rfl, rfl⟩ | ⟨rfl, rfl, rfl⟩⟩ := Producer.patient_step h.policy h.running
    (h.patient c (List.mem_of_getElem? hc)) hstep
  · exact {
      policy := h.policy
      running := h.running
      posts := h.posts
      patient := fun d hd => (mem_advance hd).elim (h.patient d) fun e => by rw [e]; exact hn
      worker := h.worker
      whole := by
        show (s.ledger.afterCall k s.queue s.queue next).course =
          (s.ledger.afterCall k s.queue s.queue next).entered
        rw [s.ledger.afterCall_of_goesOn k s.queue (Producer.ne_finished_of_post? hnp)]
        exact h.whole
      counted := h.counted }
  · exact {
      policy := h.policy
      running := h.running
      posts := fun d hd => (List.mem_append.mp hd).elim (h.posts d) fun e =>
        ⟨p, List.mem_singleton.mp e⟩
      patient := fun d hd => (mem_advance hd).elim (h.patient d) fun e => by rw [e]; rfl
      worker := h.worker
      whole := by
        show (s.ledger.afterCall k s.queue _ .finished).course =
          (s.ledger.afterCall k s.queue _ .finished).entered
        rw [s.ledger.afterCall_of_longer k _ (by simp), Ledger.course_enter, h.whole]
        rfl
      counted := h.counted }

theorem Flowing.work (h : Flowing m s) {w : Worker} {q : Queue} {notes : List Note}
    (hd : s.worker.Does s.queue w q notes) :
    Flowing m { s with
      worker := w, queue := q, metrics := notes.foldl Metrics.hear s.metrics
      ledger := s.ledger.afterWork s.queue q } := by
  have idle : s.worker ≠ .draining := by
    rcases h.worker with e | ⟨p, e⟩ <;> rw [e] <;> simp
  have mark : ∀ {c : Command} {rest : List Command}, s.queue.items = c :: rest →
      ∃ p, c = .post p := fun hq => h.posts _ (by rw [hq]; exact List.mem_cons_self)
  cases hd with
  | takes p rest notes hq hn hw =>
    have hi : s.worker = .idle := hw.resolve_right idle
    refine { policy := h.policy, running := h.running, posts := fun d hd => h.posts d ?_,
             patient := h.patient, worker := .inr ⟨p, ?_⟩, whole := ?_, counted := ?_ }
    · rw [hq]
      exact List.mem_cons_of_mem _ hd
    · rw [hi]
      rfl
    · have hl : s.ledger.afterWork s.queue { s.queue with items := rest } = s.ledger.hand := by
        simp [Ledger.afterWork, hq]
      rw [hl, Ledger.course_hand]
      exact h.whole
    · rcases hn with rfl | rfl <;> exact h.counted
  | flushes ticket rest hq hw => exact absurd (mark hq) (by simp)
  | stops rest hq hw => exact absurd (mark hq) (by simp)
  | answers ticket rest hq hw => exact absurd hw idle
  | notices hq hr hw => exact absurd h.running (by simp [hr])
  | closes hq hw => exact absurd hw idle

theorem Flowing.deliver (h : Flowing m s) {p : Post} {isDraining : Bool}
    (hw : s.worker = .delivering p isDraining) (es : List Event) :
    Flowing m { s with
      worker := s.worker.delivered none, metrics := es.foldl Metrics.note s.metrics
      ledger := s.ledger.dispatch p } where
  policy := h.policy
  running := h.running
  posts := h.posts
  patient := h.patient
  worker := by
    left
    rcases h.worker with e | ⟨p', e⟩
    · rw [hw] at e
      cases e
    · show s.worker.delivered none = .idle
      rw [e]
      rfl
  whole := h.whole
  counted := (dropped_foldl_note es _).trans h.counted

end Traffic

/-! ## 3. An order of operations -/

namespace Concert

variable {l : Logger π ι} {trees : List (SinkTree ι)} {eval : π → Scene → Trial}
  {a : Nat → Ambient} {program : Nat → List Op} {w : List (Nat × Op)} {s t : Concert ι}

/-- **The operations `w` account for what the producers did**: a call is among them once its record
is in the queue. -/
structure Accounts (l : Logger π ι) (a : Nat → Ambient) (program : Nat → List Op)
    (w : List (Nat × Op)) (s : Concert ι) : Prop where
  fields : s.fields = fieldsAfter a w
  /-- A call under way comes next in its program, and has the fields in force with it. -/
  open_ : ∀ (k : Nat) (c : LogCall) (p : Post), s.traffic.calls[k]? = some c →
    c.progress.post? = some p →
    opsOf w c.caller ++ .log p.level p.message :: s.rest c.caller = program c.caller ∧
      p.ambient = (s.fields c.caller).fields ∧ l.isEnabled p.level = true
  free : ∀ i, s.traffic.IsFree i → opsOf w i ++ s.rest i = program i
  /-- The records that entered the queue are what `w` lets be logged. -/
  entered : List.Forall₂ (fun k p => s.traffic.posts[k]? = some p) s.traffic.ledger.entered
    (told l a w)

theorem accounts_start (l : Logger π ι) (capacity : Nat) (a : Nat → Ambient)
    (program : Nat → List Op) : Accounts l a program [] (start l capacity a program) where
  fields := rfl
  open_ k c p h := by cases h
  free i _ := rfl
  entered := .nil

/-- An operation that enters no record. -/
theorem Accounts.concat_quiet (h : Accounts l a program w s) {i : Nat} {op : Op} {ops : List Op}
    (free : s.traffic.IsFree i) (hr : s.rest i = op :: ops)
    (hop : op.post? l (s.fields i) = none) :
    Accounts l a program (w ++ [(i, op)]) { s with
      fields := Function.update s.fields i (op.act (s.fields i))
      rest := Function.update s.rest i ops } where
  fields := by rw [fieldsAfter_concat, ← h.fields]
  open_ k c p hc hp := by
    have hne : c.caller ≠ i := free.ne hc (Producer.ne_finished_of_post? hp)
    dsimp only
    rw [opsOf_concat_of_ne w op hne, Function.update_of_ne hne, Function.update_of_ne hne]
    exact h.open_ k c p hc hp
  free j hj := by
    dsimp only
    by_cases e : j = i
    · subst e
      rw [opsOf_concat_self, Function.update_self, List.append_assoc, List.singleton_append, ← hr]
      exact h.free j hj
    · rw [opsOf_concat_of_ne w op e, Function.update_of_ne e]
      exact h.free j hj
  entered := by
    rw [told_concat, ← h.fields, hop]
    simpa using h.entered

/-- A call begins. -/
theorem Accounts.log (h : Accounts l a program w s) {i : Nat} {level : Level} {message : String}
    {ops : List Op} (free : s.traffic.IsFree i) (hr : s.rest i = .log level message :: ops)
    (on : l.isEnabled level = true) :
    Accounts l a program w { s with
      traffic := s.traffic.begin i ⟨level, message, (s.fields i).fields⟩
      rest := Function.update s.rest i ops } where
  fields := h.fields
  open_ k c p hc hp := by
    rcases concat_eq_some hc with hc | ⟨_, rfl⟩
    · have hne : c.caller ≠ i := free.ne hc (Producer.ne_finished_of_post? hp)
      dsimp only
      rw [Function.update_of_ne hne]
      exact h.open_ k c p hc hp
    · cases hp
      refine ⟨?_, rfl, on⟩
      dsimp only
      rw [Function.update_self, ← hr]
      exact h.free i free
  free j hj := by
    have hne : j ≠ i := by
      rintro rfl
      have hend := hj _ (List.mem_append_right _ (List.mem_singleton_self _)) rfl
      cases hend
    dsimp only
    rw [Function.update_of_ne hne]
    exact h.free j fun c hc => hj c (List.mem_append_left _ hc)
  entered := by
    refine (List.Forall₂.imp fun k p hp => ?_) h.entered
    rw [Traffic.posts_begin, List.getElem?_append_left (List.getElem?_eq_some_iff.mp hp).1]
    exact hp

/-- A call goes on. -/
theorem Accounts.goesOn (h : Accounts l a program w s) {k : Nat} {c : LogCall}
    (hc : s.traffic.calls[k]? = some c) {next : Producer} {p : Post}
    (hp : c.progress.post? = some p) (hn : next.post? = some p) :
    Accounts l a program w { s with traffic := s.traffic.advance k c next s.traffic.queue [] } where
  fields := h.fields
  open_ j d q hd hq := by
    by_cases e : j = k
    · subst e
      rw [Traffic.advance, List.getElem?_set_self (List.getElem?_eq_some_iff.mp hc).1] at hd
      cases hd
      exact h.open_ j c q hc (by rw [hp, ← hn]; exact hq)
    · rw [Traffic.advance, List.getElem?_set_ne (Ne.symm e)] at hd
      exact h.open_ j d q hd hq
  free i hi := by
    have hlt := (List.getElem?_eq_some_iff.mp hc).1
    have hne : c.caller ≠ i := by
      intro e
      refine Producer.ne_finished_of_post? hn (hi { c with progress := next } ?_ e)
      exact List.mem_of_getElem? (i := k) (by rw [Traffic.advance, List.getElem?_set_self hlt])
    exact h.free i (hi.of_advance hc hne)
  entered := by
    show List.Forall₂ _ (s.traffic.ledger.afterCall k _ _ next).entered _
    rw [s.traffic.ledger.afterCall_of_goesOn k _ (Producer.ne_finished_of_post? hn)]
    refine (List.Forall₂.imp fun j q hq => ?_) h.entered
    rw [Traffic.posts_advance hc]
    exact hq

/-- **A call takes its place in the order when its record enters the queue.** -/
theorem Accounts.places {m : Metrics} (h : Accounts l a program w s) (hb : s.traffic.Booked m)
    {k : Nat} {c : LogCall} (hc : s.traffic.calls[k]? = some c) {p : Post}
    (hp : c.progress.post? = some p) (depth : Nat) :
    Accounts l a program (w ++ [(c.caller, .log p.level p.message)]) { s with
      traffic := s.traffic.advance k c .finished
        { s.traffic.queue with items := s.traffic.queue.items ++ [.post p] } [.depth depth] } := by
  obtain ⟨hops, hamb, hon⟩ := h.open_ k c p hc hp
  exact {
    fields := by
      rw [fieldsAfter_concat, ← h.fields, update_act_log]
    open_ := fun j d q hd hq => by
      by_cases e : j = k
      · subst e
        rw [Traffic.advance, List.getElem?_set_self (List.getElem?_eq_some_iff.mp hc).1] at hd
        cases hd
        cases hq
      · rw [Traffic.advance, List.getElem?_set_ne (Ne.symm e)] at hd
        have hne := hb.caller_ne hc hd e (Producer.ne_finished_of_post? hp)
          (Producer.ne_finished_of_post? hq)
        rw [opsOf_concat_of_ne w _ hne]
        exact h.open_ j d q hd hq
    free := fun i hi => by
      by_cases e : i = c.caller
      · subst e
        rw [opsOf_concat_self, List.append_assoc]
        exact hops
      · rw [opsOf_concat_of_ne w _ e]
        exact h.free i (hi.of_advance hc (Ne.symm e))
    entered := by
      have hpost : s.traffic.posts[k]? = some p := by
        simp [Traffic.posts, hc, hb.carries k c p hc hp]
      have htold : told l a (w ++ [(c.caller, .log p.level p.message)]) = told l a w ++ [p] := by
        rw [told_concat, ← h.fields, Op.post?, if_pos hon, ← hamb]
        rfl
      show List.Forall₂ _ (s.traffic.ledger.afterCall k _ _ .finished).entered _
      rw [s.traffic.ledger.afterCall_of_longer k _ (by simp), htold]
      refine List.rel_append ((List.Forall₂.imp fun j q hq => ?_) h.entered) (.cons ?_ .nil)
      · rw [Traffic.posts_advance hc]
        exact hq
      · rw [Traffic.posts_advance hc]
        exact hpost }

/-- The worker has no part in it. -/
theorem Accounts.frame (h : Accounts l a program w s) (hc : t.traffic.calls = s.traffic.calls)
    (hl : t.traffic.ledger.entered = s.traffic.ledger.entered) (hf : t.fields = s.fields)
    (hr : t.rest = s.rest) : Accounts l a program w t where
  fields := by rw [hf]; exact h.fields
  open_ := by rw [hc, hf, hr]; exact h.open_
  free i hi := by
    rw [hr]
    exact h.free i (by rw [Traffic.IsFree, ← hc]; exact hi)
  entered := by rw [hl, Traffic.posts, hc]; exact h.entered

/-! ## 4. Sinks and counters -/

/-- The sinks were asked, and the counters went up, as the records say that were delivered. -/
structure Faithful (l : Logger π ι) (trees : List (SinkTree ι)) (eval : π → Scene → Trial)
    (s : Concert ι) : Prop where
  journal : s.journal = s.traffic.ledger.dispatched.flatMap (l.asks trees eval)
  tally : s.traffic.metrics.tally =
    s.traffic.ledger.dispatched.foldl (l.ruled eval) l.metrics.tally

theorem Faithful.frame (h : Faithful l trees eval s) (hj : t.journal = s.journal)
    (hl : t.traffic.ledger.dispatched = s.traffic.ledger.dispatched)
    (hm : t.traffic.metrics.tally = s.traffic.metrics.tally) : Faithful l trees eval t where
  journal := by rw [hj, hl]; exact h.journal
  tally := by rw [hm, hl]; exact h.tally

/-! ## 5. It always holds -/

/-- **What the producers did is explained** by an order of their operations, and what the sinks
were asked by the records delivered so far. -/
structure Explained (l : Logger π ι) (trees : List (SinkTree ι)) (eval : π → Scene → Trial)
    (a : Nat → Ambient) (program : Nat → List Op) (s : Concert ι) : Prop where
  flowing : s.traffic.Flowing l.metrics
  order : ∃ w, Accounts l a program w s
  faithful : Faithful l trees eval s

theorem explained_start (capacity : Nat) :
    Explained l trees eval a program (start l capacity a program) where
  flowing := Traffic.flowing_start capacity l.metrics
  order := ⟨[], accounts_start l capacity a program⟩
  faithful := ⟨rfl, rfl⟩

theorem Explained.produce (h : Explained l trees eval a program s)
    (hb : s.traffic.Booked l.metrics) {k : Nat} {c : LogCall} {next : Producer} {q : Queue}
    {notes : List Note} (hc : s.traffic.calls[k]? = some c)
    (hstep : c.progress.step? s.traffic.queue = some (next, q, notes)) :
    Explained l trees eval a program { s with traffic := s.traffic.advance k c next q notes } where
  flowing := h.flowing.advance hc hstep
  order := by
    obtain ⟨w, hw⟩ := h.order
    obtain ⟨p, hp, ⟨_, hn, rfl, rfl⟩ | ⟨rfl, rfl, rfl⟩⟩ := Producer.patient_step h.flowing.policy
      h.flowing.running (h.flowing.patient c (List.mem_of_getElem? hc)) hstep
    · exact ⟨w, hw.goesOn hc hp hn⟩
    · exact ⟨_, hw.places hb hc hp _⟩
  faithful := h.faithful.frame rfl (Ledger.dispatched_afterCall _ _ _ _ _) (tally_foldl_hear _ _)

theorem Explained.deliver (hpure : l.admission.Pure eval)
    (h : Explained l trees eval a program s) {p : Post} {isDraining : Bool}
    {thread : Option String} {time : Time.Instant} {σ : Type} {sinks : Round.Runner ι σ} {x : σ}
    {t : Minutes ι σ} {thrown : Option Payload}
    (hw : s.traffic.worker = .delivering p isDraining)
    (hrun : (l.logRound trees eval ⟨p.ambient, thread, time⟩ ⟨p.level, p.message, {}⟩).run
      sinks.recording ⟨x, [], []⟩ = (.ended thrown, t)) :
    Explained l trees eval a program { s with
      traffic := { s.traffic with
        worker := s.traffic.worker.delivered thrown
        metrics := t.events.foldl Metrics.note s.traffic.metrics
        ledger := s.traffic.ledger.dispatch p }
      journal := s.journal ++ t.calls } := by
  obtain ⟨cs, es, hc, ecs, ees⟩ := Round.course_of_run sinks hrun
  obtain ⟨rfl, easks, hruled⟩ := Logger.course_post hpure hc
  rw [List.nil_append] at ecs ees
  obtain ⟨w, hA⟩ := h.order
  refine { flowing := h.flowing.deliver hw t.events, order := ⟨w, hA.frame rfl rfl rfl rfl⟩,
           faithful := { journal := ?_, tally := ?_ } }
  · show s.journal ++ t.calls = (s.traffic.ledger.dispatched ++ [p]).flatMap _
    rw [List.flatMap_append, ← h.faithful.journal, ecs, easks, List.flatMap_singleton]
  · show (t.events.foldl Metrics.note s.traffic.metrics).tally =
      (s.traffic.ledger.dispatched ++ [p]).foldl _ _
    rw [List.foldl_append, ← h.faithful.tally, ees, hruled]
    rfl

/-- **Each step keeps it.** -/
theorem explained_step (hpure : l.admission.Pure eval) (h : Explained l trees eval a program s)
    (hb : s.traffic.Booked l.metrics) (hs : Step l trees eval s t) :
    Explained l trees eval a program t := by
  obtain ⟨w, hw⟩ := h.order
  cases hs with
  | act i op ops free hr hop =>
    exact {
      flowing := h.flowing
      order := ⟨_, hw.concat_quiet free hr (Op.post?_of_not_isLog hop l _)⟩
      faithful := h.faithful.frame rfl rfl rfl }
  | pass i level message ops free hr off =>
    have hquiet := hw.concat_quiet free hr (by simp [Op.post?, off])
    rw [update_act_log] at hquiet
    exact { flowing := h.flowing, order := ⟨_, hquiet⟩, faithful := h.faithful.frame rfl rfl rfl }
  | log i level message ops free hr on =>
    exact {
      flowing := h.flowing.begin i _
      order := ⟨w, hw.log free hr on⟩
      faithful := h.faithful.frame rfl rfl rfl }
  | produce k c next q notes hc hstep => exact h.produce hb hc hstep
  | work worker q notes hstep =>
    exact {
      flowing := h.flowing.work (Worker.does_of_step? hstep)
      order := ⟨w, hw.frame rfl (Ledger.entered_afterWork _ _ _) rfl rfl⟩
      faithful := h.faithful.frame rfl (Ledger.dispatched_afterWork _ _ _)
        (tally_foldl_hear _ _) }
  | deliver p isDraining thread time σ sinks x t thrown hd hrun => exact h.deliver hpure hd hrun

theorem explained_of_reachable (hpure : l.admission.Pure eval) {capacity : Nat}
    (h : Reachable l trees eval (start l capacity a program) s) :
    Explained l trees eval a program s := by
  induction h with
  | start => exact explained_start capacity
  | step s t hr hs ih =>
    exact explained_step hpure ih (Traffic.booked_of_reachable (traffic_of_reachable hr)) hs

/-! ## 6. What follows -/

/-- The operations of a producer that `w` holds are those it began with; all of them, once it is
done. -/
theorem Accounts.opsOf_isPrefix (h : Accounts l a program w s) (i : Nat) :
    opsOf w i <+: program i := by
  by_cases hf : s.traffic.IsFree i
  · exact ⟨s.rest i, h.free i hf⟩
  · simp only [Traffic.IsFree, not_forall] at hf
    obtain ⟨c, hm, rfl, ho⟩ := hf
    obtain ⟨k, hk⟩ := List.mem_iff_getElem?.mp hm
    obtain ⟨p, hp⟩ := Option.ne_none_iff_exists'.mp fun e => ho (Producer.post?_eq_none.mp e)
    exact ⟨_, (h.open_ k c p hk hp).1⟩

/-- Once the queue is empty and the worker waits, what entered has been delivered. -/
theorem Accounts.dispatched_eq (h : Accounts l a program w s) (hb : s.traffic.Booked l.metrics)
    (hf : s.traffic.Flowing l.metrics) (empty : s.traffic.queue.items = [])
    (idle : s.traffic.worker = .idle) : s.traffic.ledger.dispatched = told l a w := by
  have hslots : s.traffic.ledger.slots = [] := by
    have hfits := hb.fits
    rw [empty] at hfits
    exact List.forall₂_nil_left_iff.mp hfits
  have hhanded : s.traffic.ledger.handed = s.traffic.ledger.entered := by
    rw [← hf.whole, Ledger.course, Ledger.queued, hslots]
    exact (List.append_nil _).symm
  have hin := hb.inHand
  rw [hhanded, Worker.inHand_of_taking (.inl idle), List.append_nil] at hin
  -- the same calls stand for both lists
  have unique : Relator.RightUnique fun (k : Nat) (p : Post) => s.traffic.posts[k]? = some p :=
    fun k p q hp hq => Option.some.inj (hp.symm.trans hq)
  exact unique.forall₂ hin h.entered

/-- **Delivery behind a queue is delivery in some order.** The logger stays as it is, its
predicates look at the record and the fields in force only, and the queue makes callers wait. Once
the worker has delivered all that entered the queue, there is an order of the operations, with
those of each producer as in its program, such that

* the worker delivered what these operations log, with the fields in force at each call;
* nothing was dropped;
* however the sinks answer, running these operations alone asks the sinks the same, call by call,
  and logs and filters as many records. -/
theorem delivered_as_alone (hpure : l.admission.Pure eval) {capacity : Nat}
    (h : Reachable l trees eval (start l capacity a program) s)
    (empty : s.traffic.queue.items = []) (idle : s.traffic.worker = .idle) :
    ∃ w : List (Nat × Op),
      (∀ i, opsOf w i <+: program i ∧
        (s.traffic.IsFree i → s.rest i = [] → opsOf w i = program i)) ∧
      s.traffic.ledger.dispatched = told l a w ∧
      s.traffic.metrics.dropped = l.metrics.dropped ∧
      (∃ t, Alone.Run l trees eval w ⟨a, l.metrics, []⟩ t) ∧
      ∀ t, Alone.Run l trees eval w ⟨a, l.metrics, []⟩ t →
        t.journal = s.journal ∧ t.metrics.logged = s.traffic.metrics.logged ∧
        t.metrics.filtered = s.traffic.metrics.filtered ∧
        t.metrics.dropped = s.traffic.metrics.dropped ∧ t.fields = s.fields := by
  have hb := Traffic.booked_of_reachable (traffic_of_reachable h)
  obtain ⟨hf, ⟨w, hw⟩, hfaith⟩ := explained_of_reachable hpure h
  have hd := hw.dispatched_eq hb hf empty idle
  refine ⟨w, fun i => ⟨hw.opsOf_isPrefix i, fun hi hr => ?_⟩, hd, hf.counted,
    Alone.exists_run w _, fun t ht => ?_⟩
  · have hops := hw.free i hi
    rwa [hr, List.append_nil] at hops
  · obtain ⟨ef, ej, em, ed⟩ := Alone.journal_of_run hpure ht
    have etally : t.metrics.tally = s.traffic.metrics.tally := by
      rw [em, hfaith.tally, hd]
    refine ⟨?_, congrArg Tally.logged etally, congrArg Tally.filtered etally,
      ed.trans hf.counted.symm, ef.trans hw.fields.symm⟩
    rw [ej, hfaith.journal, hd]
    rfl

/-- A logger that admits the records of one user. -/
def usersLog : Logger Predicate Nat where
  name := "svc"
  sinks := [0]
  admission := { filters := [.field "user" "ann"] }

/-- A producer that logs for the user, and takes the user back before the record is delivered. -/
def visit : Nat → List Op
  | 0 => [.set "user" "ann", .log .info "one", .clear]
  | _ => []

theorem exists_reachable_visit :
    ∃ s, Reachable usersLog [.leaf "sink" 0] Predicate.eval (start usersLog 1 (fun _ => {}) visit)
        s ∧
      s.traffic.queue.items = [] ∧ s.traffic.worker = .idle ∧ s.rest 0 = [] ∧
      s.traffic.IsFree 0 ∧ s.journal = [(0, .log "svc" .info "one")] ∧
      s.traffic.metrics.logged = 1 := by
  have begun : Reachable usersLog [.leaf "sink" 0] Predicate.eval
      (start usersLog 1 (fun _ => {}) visit) (start usersLog 1 (fun _ => {}) visit) := .start
  have named := Reachable.step _ _ begun
    (.act _ 0 (.set "user" "ann") [.log .info "one", .clear] (fun _ h => by cases h) rfl rfl)
  have called := Reachable.step _ _ named
    (.log _ 0 .info "one" [.clear] (fun _ h => by cases h) rfl rfl)
  have looked := Reachable.step _ _ called (.produce _ 0 _ _ _ _ rfl rfl)
  have entered := Reachable.step _ _ looked (.produce _ 0 _ _ _ _ rfl rfl)
  have cleared := Reachable.step _ _ entered (.act _ 0 .clear [] (by
    unfold Traffic.IsFree; decide) rfl rfl)
  have taken := Reachable.step _ _ cleared (.work _ _ _ _ rfl)
  have delivered := Reachable.step _ _ taken
    (.deliver _ _ _ none ⟨0, 0⟩ Unit (Round.obliging Nat) () _ _ rfl rfl)
  exact ⟨_, delivered, rfl, rfl, rfl, by unfold Traffic.IsFree; decide, rfl, rfl⟩

theorem delivered_as_alone_visit :
    ∃ (w : List (Nat × Op)) (t : Alone Nat), opsOf w 0 = visit 0 ∧
      Alone.Run usersLog [.leaf "sink" 0] Predicate.eval w ⟨fun _ => {}, {}, []⟩ t ∧
      t.journal = [(0, .log "svc" .info "one")] ∧ t.metrics.logged = 1 := by
  obtain ⟨s, h, empty, idle, rest, free, journal, logged⟩ := exists_reachable_visit
  have hpure : usersLog.admission.Pure Predicate.eval := fun p hp => by cases hp
  obtain ⟨w, ops, _, _, ⟨t, ht⟩, alone⟩ := delivered_as_alone hpure h empty idle
  obtain ⟨ej, el, _⟩ := alone t ht
  exact ⟨w, t, (ops 0).2 free rest, ht, ej.trans journal, el.trans logged⟩

end Concert

end Logworks.Delivery
