import Logworks.Proofs.Rotation.Counting

/-!
# The size of the active file

The file that a log counts is the one at its path, whatever failed before. Where nothing fails, the
line that makes the text long enough is the last of its segment. This file fixes

* `Seated` -- the file that is written to is the one at the path; `Goes.seated` -- **it stays so**;
* `goes_performAll`, `tallies_create` -- any calls are made of steps, and a log as it is begun
  counts what is there;
* `FitAgain` -- what can be said of the disk again once a log is given up;
* `Cut`, `cut_of_line` -- **how a segment is cut**;
* `size_accounted` -- **what all that comes to**, after any calls.
-/

namespace Logworks.Rotation

open Logworks.Disk Logworks.Text

variable {l l' : RotatingLog} {d d' : Disk} {ok isExact : Bool}

/-! ## 1. The file at the path -/

variable {place : Path → Place} {files : Path → Option Nat}

/-- **The file that is written to is the one at the path.** -/
structure Seated (place : Path → Place) (files : Path → Option Nat) (l : RotatingLog) (d : Disk) :
    Prop where
  sound : Sound l.base l.suffixes
  placed : Placed (IsOwn l.base l.maxFiles l.suffixes) place files d
  seat : ∀ w, l.writer = some w → ∃ n, files l.base = some n ∧ w.handle.target = .file n

/-- Writing changes no path. -/
theorem Seated.written (hs : Seated place files l d) {w w' : Writer} (hw : l.writer = some w)
    {k size : Nat} {r : Except Cause Unit} (hg : Writer.Grew w d k (r, w', d')) :
    Seated place files { l with writer := some w', size := size } d' := by
  obtain ⟨n, hn, ht⟩ := hs.seat w hw
  have htouch := hg.touches n ht
  refine ⟨hs.sound, hs.placed.refilled htouch.entries htouch.length, fun w₁ hw₁ => ?_⟩
  obtain rfl := Option.some.inj hw₁
  exact ⟨n, hn, hg.target.trans ht⟩

/-- A handle on a new file of the path, or none. -/
theorem seated_opened (hp : Placed (IsOwn l.base l.maxFiles l.suffixes) place files d) :
    ∃ r d' files', (l.stage "Failed to create new log file" (openFresh l.base)).run d = (r, d') ∧
      Placed (IsOwn l.base l.maxFiles l.suffixes) place files' d' ∧
      ∀ h, r = .ok h → ∃ n, files' l.base = some n ∧ h.target = .file n := by
  rcases hp.openFresh_cases .active with ⟨c, he⟩ | ⟨n, d', he, ho, -⟩
  · exact ⟨_, _, files, stage_run_error l _ he, hp.begun, fun h hh => by cases hh⟩
  · refine ⟨_, d', _, stage_run l _ he, ho.placed, fun h hh => ⟨n, Function.update_self _ _ _, ?_⟩⟩
    cases hh
    rfl

/-- **A rotation leaves files at own paths, whatever fails**, and a new one is at the path. -/
theorem Seated.renew (hs : Seated place files l d) (hc : Tallies isExact l d) :
    ∃ files', Placed (IsOwn l.base l.maxFiles l.suffixes) place files' (l.renew.run d).2 ∧
      ∀ h, (l.renew.run d).1 = .ok h → ∃ n, files' l.base = some n ∧ h.target = .file n := by
  obtain ⟨r, d₁, hf, -, hsame, htouch⟩ := finish_cases (fun w hw => hc.steady hw) hc.filed
  have hp₁ : Placed (IsOwn l.base l.maxFiles l.suffixes) place files d₁ := by
    cases hw : l.writer with
    | none => exact hsame hw ▸ hs.placed
    | some w =>
      obtain ⟨n, hn, ht⟩ := hs.seat w hw
      exact hs.placed.refilled (htouch w n hw ht).entries (htouch w n hw ht).length
  unfold RotatingLog.renew
  rcases r with c | ⟨⟩
  · rw [run_bind_error (stage_run_error l _ hf)]
    exact ⟨files, hp₁, fun h hh => by cases hh⟩
  · rw [run_bind_ok (stage_run l _ hf)]
    by_cases hm : 0 < l.maxFiles
    · rw [if_pos hm]
      obtain ⟨files₂, hre, -⟩ := leaves_retire l hs.sound hp₁ hm
      rcases hr : l.retire.run d₁ with ⟨f | ⟨⟩, d₂⟩
      · rw [hr] at hre
        rw [run_bind_error hr]
        exact ⟨files₂, hre.placed, fun h hh => by cases hh⟩
      · rw [hr] at hre
        rw [run_bind_ok hr]
        obtain ⟨r, d', files', he, hp', hn⟩ := seated_opened hre.placed
        rw [he]
        exact ⟨files', hp', hn⟩
    · rw [if_neg hm]
      obtain ⟨r, d', files', he, hp', hn⟩ := seated_opened hp₁
      rw [he]
      exact ⟨files', hp', hn⟩

/-- **It stays the file at the path, whatever fails.** -/
theorem Goes.seated (h : Goes ok l d l' d') (hc : Tallies isExact l d)
    (hs : Seated place files l d) : ∃ files', Seated place files' l' d' := by
  induction h generalizing isExact files with
  | stay l d => exact ⟨files, hs⟩
  | @wrote l d w w' d' pieces hw he =>
    have hg := Writer.grew_writePieces (hc.steady hw) pieces
    rw [he] at hg
    exact ⟨files, hs.written hw hg⟩
  | @broke l d w w' c d' pieces hw he =>
    have hg := Writer.grew_writePieces (hc.steady hw) pieces
    rw [he] at hg
    exact ⟨files, hs.written hw hg⟩
  | @flushed l d w w' r d' hw he =>
    have hg := (Writer.grew_flush (hc.steady hw)).1
    rw [he] at hg
    exact ⟨files, hs.written hw hg⟩
  | @resumed l d w size d' hw he =>
    rcases hs.placed.openAppend_cases .active with ⟨c, ho⟩ | ⟨n, d₁, ho, hopened, -⟩
    · rw [RotatingLog.resume, run_bind_error ho] at he
      cases he
    · rw [RotatingLog.resume, run_bind_ok ho] at he
      cases he
      refine ⟨_, hs.sound, hopened.placed, fun w hw => ⟨n, Function.update_self _ _ _, ?_⟩⟩
      obtain rfl := Option.some.inj hw
      rfl
  | @shut l d c d' hw he =>
    rcases hs.placed.openAppend_cases .active with ⟨c', ho⟩ | ⟨n, d₁, ho, -⟩
    · rw [RotatingLog.resume, run_bind_error ho] at he
      cases he
      exact ⟨files, hs.sound, hs.placed.begun, hs.seat⟩
    · rw [RotatingLog.resume, run_bind_ok ho] at he
      cases he
  | @renewed l d h d' he =>
    obtain ⟨files', hp, hn⟩ := hs.renew hc
    rw [he] at hp hn
    refine ⟨files', hs.sound, hp, fun w hw => ?_⟩
    obtain rfl := Option.some.inj hw
    exact hn h rfl
  | @stopped l d f d' he =>
    obtain ⟨files', hp, -⟩ := hs.renew hc
    rw [he] at hp
    exact ⟨files', hs.sound, hp, fun w hw => by cases hw⟩
  | recounted l d => exact ⟨files, hs.sound, hs.placed, hs.seat⟩
  | trans h h' ih ih' =>
    obtain ⟨files₁, hs₁⟩ := ih hc hs
    exact ih' (h.tallies hc) hs₁

/-! ## 2. Runs -/

variable {base : Path} {maxSize maxFiles : Nat} {suffixes : List String} {d₀ : Disk}

/-- Whether every call but a flush succeeded. -/
def allFine (calls : List Errand) (answers : List (Except Fault Bool × List Notice)) : Bool :=
  (calls.zip answers).all fun x => x.1.isFine x.2.1

/-- Any calls are made of steps. -/
theorem goes_performAll (hm : 0 < l.maxSize) (calls : List Errand) (d : Disk) :
    ∃ ok, Goes ok l d (Errand.performAll calls l d).log (Errand.performAll calls l d).disk ∧
      (allFine calls (Errand.performAll calls l d).answers = true → ok = true) := by
  induction calls generalizing l d with
  | nil => exact ⟨true, .stay l d, fun _ => rfl⟩
  | cons c calls ih =>
    obtain ⟨ok, hg, hok⟩ := goes_perform hm c d
    have hl : HasTerms l.base l.maxSize l.maxFiles l.suffixes l := ⟨rfl, rfl, rfl, rfl⟩
    have ht := hg.terms hl
    obtain ⟨ok', hg', hok'⟩ := ih (ht.maxSize ▸ hm) (c.perform l d).disk
    refine ⟨ok && ok', hg.trans hg', fun hf => ?_⟩
    obtain ⟨hfirst, hrest⟩ := Bool.and_eq_true_iff.mp hf
    rw [hok hfirst, hok' hrest]
    rfl

/-- A log as it is begun counts what is there. -/
theorem tallies_create (hd : d.Filed)
    (hc : RotatingLog.create base maxSize maxFiles suffixes d = (.ok l, d₀)) :
    Tallies true l d₀ ∧ HasTerms base maxSize maxFiles suffixes l ∧ 0 < maxSize := by
  have hgood := (yields_resume hd base).good
  unfold RotatingLog.create at hc
  split at hc
  · cases hc
  rcases he : (RotatingLog.resume base).run d with ⟨c | ⟨w, size⟩, d'⟩
  · rw [he] at hc
    cases hc
  · rw [he] at hc hgood
    cases hc
    obtain ⟨hs, hsize⟩ := hgood _ rfl
    exact ⟨tallies_of_writer hs (fun n hn => ⟨Nat.le_of_eq (hsize n hn), fun _ => hsize n hn⟩) rfl,
      ⟨rfl, rfl, rfl, rfl⟩, Nat.pos_of_ne_zero ‹_›⟩

/-- It writes to the file at its path. -/
theorem seated_create (h : Ready base maxFiles suffixes { d with mishaps := {} })
    (hc : RotatingLog.create base maxSize maxFiles suffixes d = (.ok l, d₀)) :
    ∃ place files, Seated place files l d₀ := by
  have hp : Placed (IsOwn base maxFiles suffixes) (placeAt { d with mishaps := {} })
      (fileAt? { d with mishaps := {} }) d := h.racked.kept.refilled rfl rfl
  unfold RotatingLog.create at hc
  split at hc
  · cases hc
  rcases hp.openAppend_cases .active with ⟨c, hr⟩ | ⟨n, d', hr, ho, -⟩
  · rw [RotatingLog.resume, run_bind_error hr] at hc
    cases hc
  · rw [RotatingLog.resume, run_bind_ok hr] at hc
    cases hc
    refine ⟨_, _, h.sound, ho.placed, fun w hw => ⟨n, Function.update_self _ _ _, ?_⟩⟩
    obtain rfl := Option.some.inj hw
    rfl

/-- What a log keeps after any calls, where nothing fails. -/
theorem keeps_performAll (h : Ready base maxFiles suffixes d) (hs : 0 < maxSize)
    (hc : RotatingLog.create base maxSize maxFiles suffixes d = (.ok l, d₀))
    (calls : List Errand) :
    let done := Errand.performAll calls l d₀
    ∃ files, Keeps base maxSize maxFiles suffixes (placeAt d) files
      ((Shelf.found base d).run maxSize maxFiles calls) done.log done.disk := by
  obtain ⟨l₁, d₁, files₁, hc₁, -, hk₁⟩ := create_keeps h hs
  obtain ⟨rfl, rfl⟩ : l₁ = l ∧ d₁ = d₀ := by
    rw [hc₁] at hc
    cases hc
    exact ⟨rfl, rfl⟩
  obtain ⟨-, -, files₂, hk₂⟩ := performAll_keeps hk₁ calls
  exact ⟨files₂, hk₂⟩

/-- Giving up a log does to the disk what a flush does. -/
theorem close_eq_flush (l : RotatingLog) (d : Disk) :
    l.close d = (Errand.flush.perform l d).disk := by
  unfold RotatingLog.close closeWriter Errand.perform RotatingLog.flush Writer.close
  cases l.writer with
  | none => rfl
  | some w =>
    dsimp only
    rcases w.flush d with ⟨c | ⟨⟩, w', d'⟩ <;> rfl

/-- A log can work where its paths are placed, and where nothing is going to fail. -/
theorem Racked.ready (h : Racked base maxFiles suffixes place files d) :
    Ready base maxFiles suffixes d := by
  have hfind : ∀ p, IsOwn base maxFiles suffixes p →
      d.find .name p = .ok (.named (place p) ((files p).map .file) false) :=
    fun p hp => h.kept.find hp .name
  have hplace : ∀ p, IsOwn base maxFiles suffixes p → placeAt d p = place p := fun p hp => by
    rw [placeAt, hfind p hp]
  have hfile : ∀ p, IsOwn base maxFiles suffixes p → fileAt? d p = files p := fun p hp => by
    rw [fileAt?, hfind p hp]
    cases files p <;> rfl
  refine ⟨h.kept.harmless, h.sound.suffix, fun p hp => ?_, fun p hp => ?_, fun p k hp hk => ?_,
    fun p q k hp hq hk hk' => ?_⟩
  · rw [hplace p hp, hfile p hp]
    exact hfind p hp
  · rw [hplace p hp]
    exact (h.kept.homed p hp).not_hasLongName
  · exact h.kept.filed p k hp (hfile p hp ▸ hk)
  · exact h.kept.single p q k hp hq (hfile p hp ▸ hk) (hfile q hq ▸ hk')

/-- **What could be said of the disk where a log began can be said of it again** where it was given
up, and so another can begin there. -/
structure FitAgain (base : Path) (maxFiles : Nat) (suffixes : List String) (d d' : Disk) : Prop where
  filed : d'.Filed
  standing : Ready base maxFiles suffixes { d with mishaps := {} } →
    Ready base maxFiles suffixes { d' with mishaps := {} }
  ready : Ready base maxFiles suffixes d → Ready base maxFiles suffixes d'

theorem fitAgain_close (hd : d.Filed)
    (hc : RotatingLog.create base maxSize maxFiles suffixes d = (.ok l, d₀)) (calls : List Errand) :
    let done := Errand.performAll calls l d₀
    FitAgain base maxFiles suffixes d (done.log.close done.disk) := by
  intro done
  obtain ⟨hcounts, hterms, hs⟩ := tallies_create hd hc
  obtain ⟨ok, hg, -⟩ := goes_performAll (hterms.maxSize ▸ hs) calls d₀
  obtain ⟨ok', hg', -⟩ := goes_perform ((hg.terms hterms).maxSize ▸ hs) .flush done.disk
  have hgo := hg.trans hg'
  refine ⟨?_, fun hready => ?_, fun hready => ?_⟩
  · rw [close_eq_flush]
    exact (hgo.tallies hcounts).filed
  · obtain ⟨place, files, hseat⟩ := seated_create hready hc
    obtain ⟨files', hsound, hplaced, -⟩ := hgo.seated hcounts hseat
    obtain ⟨hbase, -, hfiles, hsuffixes⟩ := hgo.terms hterms
    rw [hbase, hsuffixes] at hsound
    rw [hbase, hfiles, hsuffixes] at hplaced
    rw [close_eq_flush]
    exact Racked.ready ⟨hsound, hplaced.refilled rfl rfl, hready.harmless⟩
  · obtain ⟨files, hk⟩ := keeps_performAll hready hs hc calls
    obtain ⟨w, d', hf, hk'⟩ := flush_keeps hk
    have hdisk : done.log.close done.disk = d' := by
      rw [close_eq_flush, Errand.perform, hf]
    rw [hdisk]
    exact hk'.racked.ready

/-! ## 3. Segments -/

/-- **Behind a line or a rotation the active text is shorter than the size**; flushes leave it. -/
theorem Shelf.active_run (hs : 0 < maxSize) (s : Shelf) (calls : List Errand) :
    (s.run maxSize maxFiles calls).active.length < maxSize ∨
      (∀ c ∈ calls, c = .flush) ∧ (s.run maxSize maxFiles calls).active = s.active := by
  induction calls generalizing s with
  | nil => exact .inr ⟨fun c hc => (by cases hc), rfl⟩
  | cons c calls ih =>
    have hafter : c = .flush ∧ (s.after maxSize maxFiles c).active = s.active ∨
        (s.after maxSize maxFiles c).active.length < maxSize := by
      rw [Shelf.after]
      cases hturns : (s.append c.text).turns maxSize c with
      | true =>
        right
        rw [if_pos rfl, turned_active]
        exact hs
      | false =>
        rw [if_neg Bool.false_ne_true]
        cases c with
        | line text => exact .inr (Nat.lt_of_not_le (of_decide_eq_false hturns))
        | flush => exact .inl ⟨rfl, List.append_nil _⟩
        | rotate => cases hturns
    rcases ih (s.after maxSize maxFiles c) with hlt | ⟨hall, heq⟩
    · exact .inl hlt
    · rcases hafter with ⟨rfl, hsame⟩ | hlt
      · exact .inr ⟨List.forall_mem_cons.mpr ⟨rfl, hall⟩, heq.trans hsame⟩
      · exact .inl (Nat.lt_of_le_of_lt (Nat.le_of_eq (congrArg List.length heq)) hlt)

/-- What a log keeps as its active text, as it is found. -/
theorem Keeps.text_eq {s : Shelf}
    (h : Keeps base maxSize maxFiles suffixes place files s l d) :
    fileText base d ++ gathered l.writer = s.active := by
  obtain ⟨w, bytes, hw, hread, hactive⟩ := h.shows.active
  rw [hw, fileText, Shelf.found, hread]
  exact hactive

/-- **How a segment is cut**: it is long enough with its last line, and was not without it, unless
it was so when the log was begun. -/
structure Cut (maxSize : Nat) (found before : Octets) (calls : List Errand) (line : String) :
    Prop where
  long : maxSize ≤ (before ++ (Errand.line line).text).length
  short : before.length < maxSize ∨ (∀ c ∈ calls, c = .flush) ∧ maxSize ≤ found.length

/-- **A segment that a line has moved into slot 1 was cut by it**, where nothing fails. -/
theorem cut_of_line (h : Ready base maxFiles suffixes d) (hs : 0 < maxSize) (hm : 1 ≤ maxFiles)
    (hc : RotatingLog.create base maxSize maxFiles suffixes d = (.ok l, d₀))
    (calls : List Errand) (line : String) :
    let done := Errand.performAll calls l d₀
    let e := done.log.writeLine line done.disk
    let before := fileText base done.disk ++ gathered done.log.writer
    e.result = .ok true →
      firstText base e.disk = some (before ++ (Errand.line line).text) ∧
        Cut maxSize (fileText base d) before calls line := by
  intro done e before hr
  obtain ⟨files, hk⟩ := keeps_performAll h hs hc calls
  obtain ⟨l₁, d₁, files₁, he, -, hk₁⟩ := writeLine_keeps hk line
  have hbefore : before = ((Shelf.found base d).run maxSize maxFiles calls).active := hk.text_eq
  have hresult : e.result = .ok ((((Shelf.found base d).run maxSize maxFiles calls).append
      (Errand.line line).text).turns maxSize (.line line)) := congrArg RotatingLog.LineEnd.result he
  rw [hr] at hresult
  have hturns := (Except.ok.inj hresult).symm
  have hlong : maxSize ≤ (before ++ (Errand.line line).text).length := by
    rw [hbefore]
    exact of_decide_eq_true hturns
  refine ⟨?_, hlong, ?_⟩
  · have hdisk : e.disk = d₁ := congrArg RotatingLog.LineEnd.disk he
    rw [hdisk, hbefore]
    show (d₁.read? (slotPath base 1 "")).toOption = _
    rw [hk₁.shows.held 1 "" (Nat.le_refl 1) hm (.inl rfl), Shelf.after, if_pos hturns,
      Shelf.turned, if_neg (by omega)]
    rfl
  · rw [hbefore]
    have hrun : ((Shelf.found base d).run maxSize maxFiles calls).active.length < maxSize ∨ _ :=
      Shelf.active_run hs (Shelf.found base d) calls
    rcases hrun with hlt | ⟨hall, heq⟩
    · exact .inl hlt
    · by_cases hlt : (Shelf.found base d).active.length < maxSize
      · exact .inl (heq ▸ hlt)
      · exact .inr ⟨hall, Nat.le_of_not_lt hlt⟩

/-- **The size is accounted for.** Whatever is found on the disk, whatever fails and whatever is
asked of the log: while it has a writer, its count is not more than the octets in the active file
and behind it in the writer, and as much as long as no line and no rotation has failed. A line that
is written leaves a count below the size at which the log rotates, and its answer tells of a
rotation if and only if there was one. Where nothing fails, each segment was cut by its last line.
And once the log is given up, all this is so of the next one that begins there. -/
theorem size_accounted (hd : d.Filed)
    (hc : RotatingLog.create base maxSize maxFiles suffixes d = (.ok l, d₀))
    (calls : List Errand) :
    let done := Errand.performAll calls l d₀
    FitAgain base maxFiles suffixes d (done.log.close done.disk) ∧
    (∀ w n, done.log.writer = some w → w.handle.target = .file n →
      done.log.size ≤ (done.disk.octetsOf n).length + w.pending.length ∧
      (allFine calls done.answers = true →
        done.log.size = (done.disk.octetsOf n).length + w.pending.length)) ∧
    (Ready base maxFiles suffixes { d with mishaps := {} } → ∀ w, done.log.writer = some w →
      ∃ n, w.handle.target = .file n ∧ done.disk.read? base = .ok (done.disk.octetsOf n)) ∧
    ∀ line,
      let e := done.log.writeLine line done.disk
      (∀ b, e.result = .ok b → e.log.size < maxSize) ∧
      (e.result = .ok true ↔ e.log.rotations = done.log.rotations + 1) ∧
      (Ready base maxFiles suffixes d → 1 ≤ maxFiles → e.result = .ok true →
        let before := fileText base done.disk ++ gathered done.log.writer
        firstText base e.disk = some (before ++ (Errand.line line).text) ∧
          Cut maxSize (fileText base d) before calls line) := by
  intro done
  obtain ⟨hcounts, hterms, hs⟩ := tallies_create hd hc
  obtain ⟨ok, hg, hok⟩ := goes_performAll (hterms.maxSize ▸ hs) calls d₀
  have hdone : Tallies (true && ok) done.log done.disk := hg.tallies hcounts
  have hmax : done.log.maxSize = maxSize := (hg.terms hterms).maxSize
  refine ⟨fitAgain_close hd hc calls, fun w n hw hn => ?_, fun hready w hw => ?_, fun line => ?_⟩
  · obtain ⟨hle, heq⟩ := hdone.size w n hw hn
    exact ⟨hle, fun hf => heq (hok hf)⟩
  · obtain ⟨place, files, hseat⟩ := seated_create hready hc
    obtain ⟨files', hseat'⟩ := hg.seated hcounts hseat
    obtain ⟨n, hn, ht⟩ := hseat'.seat w hw
    have hread := hseat'.placed.read? .active
    rw [hn, (hg.terms hterms).base] at hread
    exact ⟨n, ht, hread⟩
  · have ha := answered_writeLine (l := done.log) (hmax ▸ hs) line done.disk
    exact ⟨fun b hb => hmax ▸ ha.below b hb, ha.rotated, fun hready hm hr =>
      cut_of_line hready hs hm hc calls line hr⟩

theorem filed_holed : holed.Filed := by
  intro x hx n hn
  rcases List.mem_cons.mp hx with rfl | hx
  · cases hn
  · rcases List.mem_cons.mp hx with rfl | hx
    · cases hn
      exact Nat.zero_lt_two
    · obtain rfl := List.mem_singleton.mp hx
      cases hn
      exact Nat.one_lt_two

/-- A rotation fails, and the next line opens the file again. On the same disk where nothing fails,
the second line cuts a segment of six octets. -/
theorem size_accounted_failing :
    (failing [none, some .busy]).Filed ∧
      RotatingLog.create holedBase 5 2 [".gz"] (failing [none, some .busy]) =
        (.ok (failingLog 2), failing [some .busy]) ∧
      (let done := Errand.performAll [.rotate, .line "c"] (failingLog 2) (failing [some .busy])
       allFine [.rotate, .line "c"] done.answers = false ∧
         ∃ w n, done.log.writer = some w ∧ w.handle.target = .file n ∧
           done.log.size ≤ (done.disk.octetsOf n).length + w.pending.length ∧
           done.disk.read? holedBase = .ok (done.disk.octetsOf n)) ∧
      RotatingLog.create holedBase 5 2 [".gz"] holed = (.ok (failingLog 2), holed) ∧
      let done := Errand.performAll [.line "c"] (failingLog 2) holed
      let e := done.log.writeLine "d" done.disk
      e.result = .ok true ∧ e.log.rotations = done.log.rotations + 1 ∧
        firstText holedBase e.disk = some (octetsOf "abc\nd\n") ∧
        Cut 5 (octetsOf "ab") (octetsOf "abc\n") [.line "c"] "d" := by
  have hc : RotatingLog.create holedBase 5 2 [".gz"] (failing [none, some .busy]) =
      (.ok (failingLog 2), failing [some .busy]) := by decide +kernel
  have hc' : RotatingLog.create holedBase 5 2 [".gz"] holed = (.ok (failingLog 2), holed) := by
    decide +kernel
  have hfailing : (failing [none, some .busy]).Filed := filed_holed
  obtain ⟨-, hsize, hseat, -⟩ := size_accounted hfailing hc [.rotate, .line "c"]
  obtain ⟨-, -, -, hline⟩ := size_accounted filed_holed hc' [.line "c"]
  refine ⟨hfailing, hc, ?_, hc', ?_⟩
  · have hopen : (Errand.performAll [.rotate, .line "c"] (failingLog 2)
        (failing [some .busy])).log.writer.isSome = true := by decide +kernel
    obtain ⟨w, hw⟩ := Option.isSome_iff_exists.mp hopen
    obtain ⟨n, hn, hread⟩ := hseat (ready_failing _) w hw
    refine ⟨?_, w, n, hw, hn, (hsize w n hw hn).1, hread⟩
    decide +kernel
  · obtain ⟨-, hrot, hcut⟩ := hline "d"
    have htrue : ((Errand.performAll [.line "c"] (failingLog 2) holed).log.writeLine "d"
        (Errand.performAll [.line "c"] (failingLog 2) holed).disk).result = .ok true := by
      decide +kernel
    have hbefore : fileText holedBase (Errand.performAll [.line "c"] (failingLog 2) holed).disk ++
        gathered (Errand.performAll [.line "c"] (failingLog 2) holed).log.writer =
          octetsOf "abc\n" := by decide +kernel
    have hfound : fileText holedBase holed = octetsOf "ab" := rfl
    obtain ⟨hfirst, hsegment⟩ := hcut ready_holed (by decide) htrue
    rw [hbefore] at hfirst hsegment
    rw [hfound] at hsegment
    refine ⟨htrue, hrot.mp htrue, hfirst.trans ?_, hsegment⟩
    decide +kernel

end Logworks.Rotation
