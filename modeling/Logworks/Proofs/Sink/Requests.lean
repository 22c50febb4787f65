import Logworks.Sink.Basic

/-!
# What is asked of a sink

Records come to a sink at their times, its threshold is set, and it is told to flush. This file
fixes

* `Request` -- one of the three, with the record it puts in under a threshold, if any;
* `Request.perform`, `serve` -- **requests one after the other**, with what is answered;
* `Request.perform_below`, `Request.perform_passing` -- a record at a sink that minds its threshold;
* `recordsOf` -- the records that pass, in order, as the threshold is when each comes;
* `answered`, `confirmed` -- these records with what was answered, and those it went well with;
* `serve_keeps` -- **what each request keeps, a run keeps**.
-/

namespace Logworks.Sink

open Fanout Line

inductive Request where
  | log (p : Parts)
  | threshold (level : Level)
  | flush
  deriving DecidableEq, Repr

namespace Request

/-- The threshold behind a request. -/
def next (threshold : Level) : Request → Level
  | .threshold level => level
  | log _ | flush => threshold

/-- The records that a request puts in under a threshold: one or none. -/
def records (threshold : Level) : Request → List Parts
  | log p => if threshold.admits p.level then [p] else []
  | .threshold _ | flush => []

/-- Calls a sink. -/
def call (s : Sink) (c : Call) (site : Site) : Outcome × Sink × Site :=
  let r := s.perform c site
  (r.outcome, { s with kind := r.kind }, r.site)

def perform (s : Sink) (site : Site) : Request → Outcome × Sink × Site
  | log p => call s (.log p.logger p.level p.message) { site with time := p.time }
  | threshold level => (.ok, s.setThreshold level, site)
  | flush => call s .flush site

end Request

/-- Whether records below the threshold are passed over before anything else is done. -/
def Kind.isGated : Kind → Bool
  | .capture _ | .faulty _ => false
  | _ => true

namespace Request

variable {threshold : Level} {k : Kind} {p : Parts}

theorem perform_gated (gated : k.isGated = true) (site : Site) :
    (log p).perform ⟨threshold, k⟩ site =
      let site := { site with time := p.time }
      let r := if threshold.admits p.level then k.take ⟨p.logger, p.level, p.message⟩ site
        else ⟨.ok, k, site⟩
      (r.outcome, ⟨threshold, r.kind⟩, r.site) := by
  cases k with
  | capture | faulty => cases gated
  | _ => rfl

theorem perform_below (gated : k.isGated = true) (below : threshold.admits p.level = false)
    (site : Site) :
    (log p).perform ⟨threshold, k⟩ site = (.ok, ⟨threshold, k⟩, { site with time := p.time }) := by
  rw [perform_gated gated, below]
  rfl

theorem perform_passing (gated : k.isGated = true) (passes : threshold.admits p.level = true)
    (site : Site) :
    (log p).perform ⟨threshold, k⟩ site =
      let r := k.take ⟨p.logger, p.level, p.message⟩ { site with time := p.time }
      (r.outcome, ⟨threshold, r.kind⟩, r.site) := by
  rw [perform_gated gated, passes]
  rfl

end Request

/-- Requests one after the other: what was answered, and what has become of the sink. -/
def serve (s : Sink) (site : Site) : List Request → List Outcome × Sink × Site
  | [] => ([], s, site)
  | q :: qs =>
    let (o, s, site) := q.perform s site
    let (os, s, site) := serve s site qs
    (o :: os, s, site)

/-- The records that requests put in, in order. -/
def recordsOf (threshold : Level) : List Request → List Parts
  | [] => []
  | q :: qs => q.records threshold ++ recordsOf (q.next threshold) qs

/-- The records that requests put in, each with what was answered. -/
def answered (threshold : Level) : List Request → List Outcome → List (Parts × Outcome)
  | q :: qs, o :: os => (q.records threshold).map (·, o) ++ answered (q.next threshold) qs os
  | _, _ => []

theorem map_fst_answered (threshold : Level) {qs : List Request} {os : List Outcome}
    (h : os.length = qs.length) :
    (answered threshold qs os).map Prod.fst = recordsOf threshold qs := by
  induction qs generalizing threshold os with
  | nil => rfl
  | cons q qs ih =>
    cases os with
    | nil => cases h
    | cons o os =>
      have first : ((q.records threshold).map (·, o)).map Prod.fst = q.records threshold := by
        rw [List.map_map]
        exact List.map_id _
      rw [answered, List.map_append, first, ih _ (Nat.succ.inj h), recordsOf]

/-- The records that were answered well, in order. -/
def confirmed (as : List (Parts × Outcome)) : List Parts :=
  (as.filter fun a => a.2 = .ok).map Prod.fst

theorem confirmed_append (as bs : List (Parts × Outcome)) :
    confirmed (as ++ bs) = confirmed as ++ confirmed bs := by
  rw [confirmed, List.filter_append, List.map_append]
  rfl

/-- **What each request keeps, a run keeps**, and what is true of each answer is true of all. -/
theorem serve_keeps {I : List (Parts × Outcome) → Kind → Site → Prop} {P : Outcome → Prop}
    (step : ∀ as k site threshold q, I as k site → ∃ o k' site',
      Request.perform ⟨threshold, k⟩ site q = (o, ⟨q.next threshold, k'⟩, site') ∧ P o ∧
        I (as ++ (q.records threshold).map (·, o)) k' site')
    {as : List (Parts × Outcome)} {k : Kind} {site : Site} (h : I as k site) (threshold : Level)
    (qs : List Request) :
    ∃ os k' site',
      serve ⟨threshold, k⟩ site qs = (os, ⟨qs.foldl Request.next threshold, k'⟩, site') ∧
        os.length = qs.length ∧ (∀ o ∈ os, P o) ∧ I (as ++ answered threshold qs os) k' site' := by
  induction qs generalizing as k site threshold with
  | nil =>
    refine ⟨[], k, site, rfl, rfl, nofun, ?_⟩
    rw [answered, List.append_nil]
    · exact h
    · nofun
  | cons q qs ih =>
    obtain ⟨o, k₁, site₁, first, good, h₁⟩ := step as k site threshold q h
    obtain ⟨os, k₂, site₂, rest, length, all, h₂⟩ := ih h₁ (q.next threshold)
    refine ⟨o :: os, k₂, site₂, ?_, ?_, List.forall_mem_cons.mpr ⟨good, all⟩, ?_⟩
    · simp only [serve, first, rest, List.foldl_cons]
    · rw [List.length_cons, List.length_cons, length]
    · rw [answered, ← List.append_assoc]
      exact h₂

/-- One more request. -/
theorem serve_concat (s : Sink) (site : Site) (qs : List Request) (q : Request) :
    serve s site (qs ++ [q]) =
      let (os, s, site) := serve s site qs
      let (o, s, site) := q.perform s site
      (os ++ [o], s, site) := by
  induction qs generalizing s site with
  | nil => rfl
  | cons q' qs ih => simp only [List.cons_append, serve, ih]

end Logworks.Sink
