import Logworks.Proofs.Rotation.Packing
import Logworks.Sink.Basic

/-!
# A sink with a compressed history

From the disk as it is found, over any calls of the sink: whatever the codec answers, each slot
holds one segment as one file. This file fixes

* `serve`, `askedAll` -- calls of the sink, and what they ask of its log;
* `perform_packs`, `serve_packs` -- each call, and any calls, take the row along;
* `Displays` -- **what the paths of the log show is what the row has**;
* `packs_every_segment` -- **so it is after any calls**; a call fails exactly where a segment that
  it ended could not be compressed, and the tally counts all segments.
-/

namespace Logworks.Rotation

open Logworks.Disk Logworks.Codec Logworks.Text

variable {base : Path} {maxSize maxFiles : Nat} {codec : Codec} {spare : List String}
  {files : Path → Option Nat} {d₀ d d' : Disk}

/-! ## 1. Calls of the sink -/

/-- What is asked of a log by a call of its sink: the line of a record that passes the threshold. -/
def askedOf (base : Path) (codec : Codec) (threshold : Level) (f : Line.Formatter)
    (l : CompressedLog) (site : Site) : Fanout.Call → Asked
  | .flush => ⟨none, .error ""⟩
  | .log logger level message =>
    if threshold.admits level then
      let line := Sink.lineOf f site.time ⟨logger, level, message⟩
      ⟨some line, lineVerdict base codec l line site.disk⟩
    else ⟨none, .error ""⟩

/-- A call without a line leaves the row. -/
theorem after_nothing (maxSize : Nat) (row : Row) (v : Verdict) :
    row.after maxSize ⟨none, v⟩ = row := by
  show { row with active := row.active ++ [] } = row
  rw [List.append_nil]

theorem answer_nothing (maxSize : Nat) (source : String) (row : Row) (v : Verdict) :
    row.answer maxSize source ⟨none, v⟩ = .ok := by
  cases v <;> rfl

/-- **A call of the sink takes the row to the next.** -/
theorem perform_packs {l : CompressedLog} {row : Row} {site : Site}
    (hb : Bare base maxFiles codec.suffix spare d₀) (hc : Honest spare codec)
    (h : Packs base maxSize maxFiles codec spare files row l d₀ site.disk) (threshold : Level)
    (f : Line.Formatter) (c : Fanout.Call) :
    let a := askedOf base codec threshold f l site c
    ∃ l' site' files', Sink.perform ⟨threshold, .compressed f l⟩ c site =
        ⟨row.answer maxSize (slotPath base 1 "").toString a, .compressed f l', site'⟩ ∧
      Packs base maxSize maxFiles codec spare files' (row.after maxSize a) l' d₀ site'.disk := by
  intro a
  cases c with
  | flush =>
    have ha : a = ⟨none, .error ""⟩ := rfl
    obtain ⟨w, d', hflush, hk⟩ := flush_keeps h.keeps
    have hf := h.framed.own hb (h.keeps.within .flush)
    rw [Errand.perform, hflush] at hf
    rw [ha, after_nothing, answer_nothing]
    refine ⟨{ l with log := { l.log with writer := some w } }, { site with disk := d' }, files, ?_,
      ⟨hf, hk, h.coded, h.onRotate, h.counts, h.rotations⟩⟩
    show Sink.Kind.flush (.compressed f l) site = _
    rw [Sink.Kind.flush, hflush]
    rfl
  | log logger level message =>
    have hperform : Sink.perform ⟨threshold, .compressed f l⟩ (.log logger level message) site =
        if threshold.admits level then
          Sink.Kind.take (.compressed f l) ⟨logger, level, message⟩ site
        else ⟨.ok, .compressed f l, site⟩ := rfl
    rw [hperform]
    cases hpass : threshold.admits level with
    | false =>
      have ha : a = ⟨none, .error ""⟩ := if_neg (by simp [hpass])
      rw [ha, after_nothing, answer_nothing]
      exact ⟨l, site, files, rfl, h⟩
    | true =>
      have ha : a = ⟨some (Sink.lineOf f site.time ⟨logger, level, message⟩), _⟩ := if_pos hpass
      obtain ⟨l', d', files', r, hline, hr, hp⟩ :=
        writeLine_packs hb hc h (Sink.lineOf f site.time ⟨logger, level, message⟩)
      rw [ha, ← hr]
      refine ⟨l', { site with disk := d' }.tell [], files', ?_, hp⟩
      rw [if_pos rfl, Sink.Kind.take, hline]

/-- How calls of a sink ended, with the sink and what it shares behind them. -/
structure Served where
  outcomes : List Outcome
  sink : Sink
  site : Site

/-- Calls of a sink, each at its time. -/
def serve : List (Time.Instant × Fanout.Call) → Sink → Site → Served
  | [], s, site => ⟨[], s, site⟩
  | (time, c) :: calls, s, site =>
    let p := s.perform c { site with time := time }
    let rest := serve calls { s with kind := p.kind } p.site
    { rest with outcomes := p.outcome :: rest.outcomes }

/-- What is asked of a compressed log by those calls. -/
def askedAll (base : Path) (codec : Codec) :
    List (Time.Instant × Fanout.Call) → Sink → Site → List Asked
  | [], _, _ => []
  | (time, c) :: calls, s, site =>
    let site := { site with time := time }
    let p := s.perform c site
    let rest := askedAll base codec calls { s with kind := p.kind } p.site
    match s.kind with
    | .compressed f l => askedOf base codec s.threshold f l site c :: rest
    | _ => rest

/-- **Any calls of the sink take the row along.** -/
theorem serve_packs {l : CompressedLog} {row : Row} {site : Site}
    (hb : Bare base maxFiles codec.suffix spare d₀) (hc : Honest spare codec)
    (h : Packs base maxSize maxFiles codec spare files row l d₀ site.disk) (threshold : Level)
    (f : Line.Formatter) (calls : List (Time.Instant × Fanout.Call)) :
    let served := serve calls ⟨threshold, .compressed f l⟩ site
    let asked := askedAll base codec calls ⟨threshold, .compressed f l⟩ site
    served.outcomes = row.answers maxSize (slotPath base 1 "").toString asked ∧
      ∃ l' files', served.sink = ⟨threshold, .compressed f l'⟩ ∧
        Packs base maxSize maxFiles codec spare files' (row.run maxSize asked) l' d₀
          served.site.disk := by
  dsimp only
  induction calls generalizing l row site files with
  | nil => exact ⟨rfl, l, files, rfl, h⟩
  | cons call calls ih =>
    obtain ⟨time, c⟩ := call
    have h' : Packs base maxSize maxFiles codec spare files row l d₀
        { site with time := time }.disk := h
    obtain ⟨l₁, site₁, files₁, hp, h₁⟩ := perform_packs hb hc h' threshold f c
    obtain ⟨hans, l₂, files₂, hs₂, h₂⟩ := ih h₁
    rw [serve, askedAll, hp]
    exact ⟨congrArg _ hans, l₂, files₂, hs₂, h₂⟩

/-! ## 2. What is shown -/

/-- **What the paths of a compressed log show is what the row has.** The newest segments are in the
slots, each as one file. -/
structure Displays (base : Path) (maxFiles : Nat) (codec : Codec) (row : Row) (l : CompressedLog)
    (d : Disk) : Prop where
  active : ∃ w bytes, l.log.writer = some w ∧ d.read? base = .ok bytes ∧
    bytes ++ w.pending = row.active
  plain : ∀ i text words, i < maxFiles → row.segments[i]? = some ⟨text, .error words⟩ →
    d.read? (slotPath base (i + 1) "") = .ok text ∧
      entryAt? d (slotPath base (i + 1) codec.suffix) = none
  packed : ∀ i text bytes, i < maxFiles → row.segments[i]? = some ⟨text, .ok bytes⟩ →
    d.read? (slotPath base (i + 1) codec.suffix) = .ok bytes ∧
      entryAt? d (slotPath base (i + 1) "") = none
  beyond : ∀ i e, min row.segments.length maxFiles < i → IsEnding [codec.suffix] e →
    entryAt? d (slotPath base i e) = none
  counts : Counts l.tally row.segments
  rotations : l.log.rotations = row.segments.length

section

variable {row : Row} {l : CompressedLog}

/-- What a slot shows. -/
theorem Packs.slot (h : Packs base maxSize maxFiles codec spare files row l d₀ d) {i : Nat}
    (hi : 1 ≤ i) (him : i ≤ maxFiles) {e : String} (he : IsEnding [codec.suffix] e) :
    (∀ bytes, row.held codec.suffix i e = some bytes → d.read? (slotPath base i e) = .ok bytes) ∧
      (row.held codec.suffix i e = none → entryAt? d (slotPath base i e) = none) := by
  have hown : IsOwn base maxFiles [codec.suffix] (slotPath base i e) := .slot i e hi him he
  have hheld : (files (slotPath base i e)).map d.octetsOf = row.held codec.suffix i e :=
    h.keeps.held i e hi him he
  have hplaced := h.keeps.racked.kept.toPlaced
  refine ⟨fun bytes hb => ?_, fun hn => ?_⟩
  · rw [← hheld] at hb
    obtain ⟨k, hk, rfl⟩ := Option.map_eq_some_iff.mp hb
    rw [hplaced.read? hown, hk]
  · rw [← hheld, Option.map_eq_none_iff] at hn
    rw [entryAt?_own hplaced hown, hn]
    rfl

theorem Packs.displays (hb : Bare base maxFiles codec.suffix spare d₀)
    (h : Packs base maxSize maxFiles codec spare files row l d₀ d) :
    Displays base maxFiles codec row l d where
  active := h.keeps.shows.active
  plain i text words hi hs := by
    have hheld : ∀ e, row.held codec.suffix (i + 1) e = if e = "" then some text else none := by
      intro e
      show row.segments[i]?.bind _ = _
      rw [hs]
      rfl
    obtain ⟨hsome, -⟩ := h.slot (i := i + 1) (by omega) hi (.inl rfl)
    obtain ⟨-, hnone⟩ := h.slot (i := i + 1) (by omega) hi (.inr List.mem_cons_self)
    exact ⟨hsome text ((hheld "").trans (if_pos rfl)),
      hnone ((hheld codec.suffix).trans (if_neg hb.isSuffix.ne_empty))⟩
  packed i text bytes hi hs := by
    have hheld : ∀ e, row.held codec.suffix (i + 1) e =
        if e = codec.suffix then some bytes else none := by
      intro e
      show row.segments[i]?.bind _ = _
      rw [hs]
      rfl
    obtain ⟨hsome, -⟩ := h.slot (i := i + 1) (by omega) hi (.inr List.mem_cons_self)
    obtain ⟨-, hnone⟩ := h.slot (i := i + 1) (by omega) hi (.inl rfl)
    exact ⟨hsome bytes ((hheld codec.suffix).trans (if_pos rfl)),
      hnone ((hheld "").trans (if_neg hb.isSuffix.ne_empty.symm))⟩
  beyond i e hi he := by
    by_cases him : i ≤ maxFiles
    · obtain ⟨j, rfl⟩ : ∃ j, i = j + 1 := ⟨i - 1, by omega⟩
      refine (h.slot (by omega) him he).2 ?_
      show row.segments[j]?.bind _ = none
      rw [List.getElem?_eq_none (by omega)]
      rfl
    · exact h.framed.entryAt?_beyond hb (by omega) he
  counts := h.counts
  rotations := h.rotations

end

/-! ## 3. Runs -/

/-- To begin a log is to open the active file. -/
theorem create_opened {l : RotatingLog} {suffixes : List String}
    (h : Ready base maxFiles suffixes d)
    (hc : RotatingLog.create base maxSize maxFiles suffixes d = (.ok l, d')) :
    ∃ n, Opened (IsOwn base maxFiles suffixes) (placeAt d) (fileAt? d) base n d d' := by
  unfold RotatingLog.create at hc
  split at hc
  · cases hc
  obtain ⟨n, d₁, hr, ho, -, -⟩ := h.racked.kept.openAppend .active
  have hres : (RotatingLog.resume base).run d =
      (.ok (⟨⟨.file n, none⟩, []⟩, (d₁.octetsOf n).length), d₁) := run_bind_ok hr
  rw [hres] at hc
  cases hc
  exact ⟨n, ho⟩

/-- **A compressed log that is begun keeps the text that was found**, and has no segment yet. -/
theorem create_packs (hb : Bare base maxFiles codec.suffix spare d) (hs : 0 < maxSize)
    (options : Options) (ho : options.onRotate = true) :
    ∃ l d' files', CompressedLog.create base maxSize maxFiles options (some codec) d = (.ok l, d') ∧
      Packs base maxSize maxFiles codec spare files' ⟨(Shelf.found base d).active, []⟩ l d d' := by
  obtain ⟨l, d', files', hc, hrot, hk⟩ := create_keeps hb.ready hs
  obtain ⟨n, hopened⟩ := create_opened hb.ready hc
  refine ⟨⟨l, options, some codec, {}⟩, d', files', ?_,
    ⟨(Framed.refl hb).own hb hopened.within, ?_, rfl, ho, counts_nil, hrot⟩⟩
  · have hc' : RotatingLog.create base maxSize maxFiles ((some codec).toList.map Codec.suffix) d =
        (.ok l, d') := hc
    rw [CompressedLog.create, hc']
  · refine ⟨hk.terms, hk.racked, hk.writer, fun i e hi him he => (hk.held i e hi him he).trans ?_,
      hk.size⟩
    have hown : IsOwn base maxFiles [codec.suffix] (slotPath base i e) := .slot i e hi him he
    have hplaced := hb.ready.racked.kept.toPlaced
    have hnone := hb.vacant i e hi he
    rw [entryAt?_own hplaced hown, Option.map_eq_none_iff] at hnone
    obtain ⟨j, rfl⟩ : ∃ j, i = j + 1 := ⟨i - 1, by omega⟩
    show (d.read? (slotPath base (j + 1) e)).toOption = none
    rw [hplaced.read? hown, hnone]
    rfl

/-- **A sink with a compressed history keeps every segment.** Whatever is asked of it, and whatever
its codec answers: a call fails exactly where it ended a segment that could not be compressed; the
newest segments are in the slots, each as one file, compressed where that succeeded and else as it
was written, and no slot beyond them has a file; the tally counts all segments; and with the active
text behind them they are all that was there and all that was written. -/
theorem packs_every_segment (hb : Bare base maxFiles codec.suffix spare d) (hs : 0 < maxSize)
    (hc : Honest spare codec) (options : Options) (ho : options.onRotate = true) :
    ∃ l d₀, CompressedLog.create base maxSize maxFiles options (some codec) d = (.ok l, d₀) ∧
      ∀ (threshold : Level) (f : Line.Formatter) (site : Site)
        (calls : List (Time.Instant × Fanout.Call)),
        let found : Row := ⟨(Shelf.found base d).active, []⟩
        let sink : Sink := ⟨threshold, .compressed f l⟩
        let asked := askedAll base codec calls sink { site with disk := d₀ }
        let served := serve calls sink { site with disk := d₀ }
        served.outcomes = found.answers maxSize (slotPath base 1 "").toString asked ∧
        (∃ l', served.sink = ⟨threshold, .compressed f l'⟩ ∧
          Displays base maxFiles codec (found.run maxSize asked) l' served.site.disk) ∧
        (found.run maxSize asked).reading = found.active ++ (asked.map Asked.text).flatten := by
  obtain ⟨l, d₀, files₀, hcreate, h⟩ := create_packs hb hs options ho
  refine ⟨l, d₀, hcreate, fun threshold f site calls => ?_⟩
  obtain ⟨hans, l', files', hsink, h'⟩ := serve_packs hb hc
    (show Packs base maxSize maxFiles codec spare files₀ _ l d { site with disk := d₀ }.disk from h)
    threshold f calls
  exact ⟨hans, ⟨l', hsink, h'.displays hb⟩, Row.reading_run _ _⟩

/-- A disk with a directory and nothing in it. -/
def bareDisk : Disk where
  entries := [(["logs".toList], .directory)]

theorem fileAt?_bareDisk {p : Path} (h : IsOwn holedBase 2 [".gz"] p) :
    fileAt? bareDisk p = none := by
  rcases isOwn_holed h with rfl | rfl | rfl | rfl | rfl <;> rfl

theorem ready_bareDisk : Ready holedBase 2 [".gz"] bareDisk where
  harmless := Mishaps.harmless_empty
  suffix := ready_holed.suffix
  found p hp := by rcases isOwn_holed hp with rfl | rfl | rfl | rfl | rfl <;> rfl
  short p hp := by rcases isOwn_holed hp with rfl | rfl | rfl | rfl | rfl <;> rfl
  filed p k hp hk := by
    rw [fileAt?_bareDisk hp] at hk
    cases hk
  single p q k hp _ hk := by
    rw [fileAt?_bareDisk hp] at hk
    cases hk

theorem bare_bareDisk : Bare holedBase 2 ".gz" [] bareDisk where
  ready := ready_bareDisk
  slots := by decide
  vacant i e _ he := by
    have hdir : (placeAt bareDisk holedBase).dropLast = ["logs".toList] := rfl
    refine ready_bareDisk.entryAt?_eq_none he ?_
    rw [hdir]
    simp [Disk.entry?, bareDisk, List.lookup_cons]
  named := by simp
  homed := by simp
  free := by simp

/-- A codec that leaves half of a file, and so nothing of one octet. -/
def halving : Codec := Simple.half.codec ".gz"

/-- A log with this codec that has been begun there. -/
def halvingLog : CompressedLog where
  log :=
    { base := holedBase, maxSize := 1, maxFiles := 2, suffixes := [".gz"]
      writer := some ⟨⟨.file 0, none⟩, []⟩, size := 0 }
  options := {}
  codec := some halving

def halvingDisk : Disk where
  entries := [(["logs".toList], .directory), (["logs".toList, "app.log".toList], .file 0)]
  contents := [[]]

/-- The first segment cannot be compressed and the second can: their files are in slots 2 and 1. A
record below the threshold adds nothing. -/
theorem packs_every_segment_halving :
    let f : Line.Formatter := ⟨"%v", [.message]⟩
    let time : Time.Instant := ⟨0, 0⟩
    let calls : List (Time.Instant × Fanout.Call) :=
      [(time, .log "svc" .info ""), (time, .log "svc" .info "ab"), (time, .log "svc" .debug "no"),
        (time, .flush)]
    Bare holedBase 2 halving.suffix [] bareDisk ∧ 0 < 1 ∧ Honest [] halving ∧
      ({} : Options).onRotate = true ∧
      CompressedLog.create holedBase 1 2 {} (some halving) bareDisk =
        (.ok halvingLog, halvingDisk) ∧
      let served := serve calls ⟨.info, .compressed f halvingLog⟩ { disk := halvingDisk }
      served.outcomes =
        [.failed (.compression "/logs/app.1.log" "compressed output is empty"), .ok, .ok, .ok] ∧
      served.site.disk.read? (slotPath holedBase 1 ".gz") = .ok (octetsOf "a") ∧
      served.site.disk.read? (slotPath holedBase 2 "") = .ok (octetsOf "\n") ∧
      entryAt? served.site.disk (slotPath holedBase 3 "") = none ∧
      ∃ l', served.sink = ⟨.info, .compressed f l'⟩ ∧ l'.tally.files = 1 ∧
        l'.tally.files + l'.tally.failures = 2 ∧ l'.tally.sizeBefore = 3 ∧
        l'.tally.sizeAfter = 1 := by
  intro f time calls
  have hhonest : Honest [] halving := Simple.honest (by decide) ".gz"
  have hl : CompressedLog.create holedBase 1 2 {} (some halving) bareDisk =
      (.ok halvingLog, halvingDisk) := rfl
  obtain ⟨l, d₀, hcreate, h⟩ :=
    packs_every_segment bare_bareDisk (by decide : 0 < 1) hhonest {} rfl
  obtain ⟨hlog, rfl⟩ := Prod.mk.inj (hl.symm.trans hcreate)
  obtain rfl := Except.ok.inj hlog
  obtain ⟨hans, ⟨l', hsink, hd⟩, -⟩ := h .info f { disk := bareDisk } calls
  have hrow : Row.run 1 ⟨(Shelf.found holedBase bareDisk).active, []⟩
      (askedAll holedBase halving calls ⟨.info, .compressed f halvingLog⟩ { disk := halvingDisk }) =
        ⟨[], [⟨octetsOf "ab\n", .ok (octetsOf "a")⟩,
          ⟨octetsOf "\n", .error "compressed output is empty"⟩]⟩ := by
    decide +kernel
  rw [hrow] at hd
  dsimp only at hd
  refine ⟨bare_bareDisk, by decide, hhonest, rfl, hl, hans.trans (by decide +kernel), ?_⟩
  generalize (serve calls ⟨.info, .compressed f halvingLog⟩ { disk := halvingDisk }).site.disk =
    there at hd ⊢
  exact ⟨(hd.packed 0 _ _ (by decide) rfl).1, (hd.plain 1 _ _ (by decide) rfl).1,
    hd.beyond 3 "" (by decide) (.inl rfl), l', hsink, hd.counts.files, hd.counts.all,
    hd.counts.sizeBefore.trans (by decide +kernel), hd.counts.sizeAfter.trans (by decide +kernel)⟩

end Logworks.Rotation
