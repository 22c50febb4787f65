import Logworks.Proofs.Disk.Extent
import Logworks.Proofs.Rotation.Endurance

/-!
# What a log counts

A log counts the octets of its active file as it writes, and rotates when the count has reached a
size. Any operation on the disk may fail, and then the count may fall behind. This file fixes

* `Goes` -- **the steps of a call**, one after the other, and whether all of them succeeded;
  `goes_perform` -- every call is made of such steps;
* `Answered` -- what the answer to a line says of the count and of rotations; `answered_writeLine`
  -- **every line is answered so**;
* `told_of_tries` -- a rotation comes of an attempt only, and an attempt that comes to none fails;
* `Tallies` -- the count is not more than the octets in the file and behind it in the writer;
  `Goes.tallies` -- **each step keeps it so, and those that succeed keep it exact**.

NOT here: which file that is, and where a log cuts its text.
-/

namespace Logworks.Rotation

open Logworks.Disk Logworks.Text

variable {l l' l'' : RotatingLog} {d d' d'' : Disk} {ok ok' : Bool}

/-! ## 1. Steps -/

/-- **What a log goes through**, one step after the other, and whether no step failed. A flush is
not taken to fail, for what it does not write is kept. -/
inductive Goes : Bool → RotatingLog → Disk → RotatingLog → Disk → Prop where
  | stay (l : RotatingLog) (d : Disk) : Goes true l d l d
  | wrote (l : RotatingLog) (d : Disk) {w w' : Writer} {d' : Disk} (pieces : List Octets)
      (hw : l.writer = some w) (he : w.writePieces d pieces = (.ok (), w', d')) :
      Goes true l d { l with writer := some w', size := l.size + pieces.flatten.length } d'
  | broke (l : RotatingLog) (d : Disk) {w w' : Writer} {c : Cause} {d' : Disk}
      (pieces : List Octets) (hw : l.writer = some w)
      (he : w.writePieces d pieces = (.error c, w', d')) :
      Goes false l d { l with writer := some w' } d'
  | flushed (l : RotatingLog) (d : Disk) {w w' : Writer} {r : Except Cause Unit} {d' : Disk}
      (hw : l.writer = some w) (he : w.flush d = (r, w', d')) :
      Goes true l d { l with writer := some w' } d'
  | resumed (l : RotatingLog) (d : Disk) {w : Writer} {size : Nat} {d' : Disk}
      (hw : l.writer = none) (he : (RotatingLog.resume l.base).run d = (.ok (w, size), d')) :
      Goes true l d { l with writer := some w, size := size } d'
  | shut (l : RotatingLog) (d : Disk) {c : Cause} {d' : Disk} (hw : l.writer = none)
      (he : (RotatingLog.resume l.base).run d = (.error c, d')) : Goes false l d l d'
  | renewed (l : RotatingLog) (d : Disk) {h : Handle} {d' : Disk}
      (he : l.renew.run d = (.ok h, d')) :
      Goes true l d
        { l with writer := some ⟨h, []⟩, size := 0, rotations := l.rotations + 1 } d'
  | stopped (l : RotatingLog) (d : Disk) {f : Fault} {d' : Disk}
      (he : l.renew.run d = (.error f, d')) : Goes false l d { l with writer := none } d'
  | recounted (l : RotatingLog) (d : Disk) : Goes false l d { l with size := 0 } d
  | trans {ok ok' : Bool} {l l' l'' : RotatingLog} {d d' d'' : Disk} (h : Goes ok l d l' d')
      (h' : Goes ok' l' d' l'' d'') : Goes (ok && ok') l d l'' d''

/-- The terms of a log never change. -/
theorem Goes.terms {base : Path} {maxSize maxFiles : Nat} {suffixes : List String}
    (h : Goes ok l d l' d') (ht : HasTerms base maxSize maxFiles suffixes l) :
    HasTerms base maxSize maxFiles suffixes l' := by
  induction h with
  | trans h h' ih ih' => exact ih' (ih ht)
  | _ => exact ⟨ht.base, ht.maxSize, ht.maxFiles, ht.suffixes⟩

/-- How an attempt to rotate ends. -/
theorem goes_rotate (l : RotatingLog) (d : Disk) :
    (∃ f d', l.rotate d = (.error f, { l with writer := none }, d') ∧
        Goes false l d { l with writer := none } d') ∨
      ∃ l' d', l.rotate d = (.ok (), l', d') ∧ Goes true l d l' d' ∧ l'.size = 0 ∧
        l'.rotations = l.rotations + 1 := by
  rcases he : l.renew.run d with ⟨f | h, d'⟩
  · exact .inl ⟨f, d', by rw [RotatingLog.rotate, he], .stopped l d he⟩
  · exact .inr ⟨_, d', by rw [RotatingLog.rotate, he], .renewed l d he, rfl, rfl⟩

/-- How a log that has no writer comes to one again. -/
theorem goes_reopen (hw : l.writer = none) (d : Disk) :
    (∃ f d', l.reopen d = (.error f, l, d') ∧ Goes false l d l d') ∨
      ∃ w size d', l.reopen d = (.ok (), { l with writer := some w, size := size }, d') ∧
        Goes true l d { l with writer := some w, size := size } d' := by
  rcases he : (RotatingLog.resume l.base).run d with ⟨c | ⟨w, size⟩, d'⟩
  · refine .inl ⟨.operation "reopening log file"
      ("cannot reopen '" ++ l.base.toString ++ "'") c, d', ?_, .shut l d hw he⟩
    rw [RotatingLog.reopen, hw]
    dsimp only
    rw [he]
  · refine .inr ⟨w, size, d', ?_, .resumed l d hw he⟩
    rw [RotatingLog.reopen, hw]
    dsimp only
    rw [he]

/-- **What the answer to a line says**: where it was written, all steps succeeded, and the count is
below the size at which the log rotates; it says of a rotation if and only if there was one. -/
structure Answered (l : RotatingLog) (d : Disk) (e : RotatingLog.LineEnd) : Prop where
  goes : ∃ ok, Goes ok l d e.log e.disk ∧ ∀ b, e.result = .ok b → ok = true
  below : ∀ b, e.result = .ok b → e.log.size < l.maxSize
  rotated : e.result = .ok true ↔ e.log.rotations = l.rotations + 1

/-- An answer that tells of a failure. -/
theorem answered_error {f : Fault} {ns : List Notice} (hg : Goes ok l d l' d')
    (hr : l'.rotations = l.rotations) : Answered l d ⟨.error f, l', d', ns⟩ where
  goes := ⟨ok, hg, fun b hb => by cases hb⟩
  below b hb := by cases hb
  rotated := ⟨fun hb => (by cases hb), fun he => by
    dsimp only at he
    omega⟩

/-- Steps that succeeded before do not matter to the answer. -/
theorem Answered.behind {e : RotatingLog.LineEnd} (h : Answered l' d' e) (hg : Goes true l d l' d')
    (hm : l'.maxSize = l.maxSize) (hr : l'.rotations = l.rotations) : Answered l d e := by
  obtain ⟨ok, hgo, hok⟩ := h.goes
  exact ⟨⟨true && ok, hg.trans hgo, fun b hb => hok b hb⟩, fun b hb => hm ▸ h.below b hb,
    hr ▸ h.rotated⟩

theorem answered_rotateAfterLine (hm : 0 < l.maxSize) (d : Disk) :
    Answered l d (l.rotateAfterLine d) := by
  unfold RotatingLog.rotateAfterLine
  rcases goes_rotate l d with ⟨f, d₁, he, hg⟩ | ⟨l₁, d₁, he, hg, hsize, hrot⟩
  · rw [he]
    dsimp only
    rcases goes_reopen (l := { l with writer := none }) rfl d₁ with
      ⟨g, d₂, hre, hg₂⟩ | ⟨w, size, d₂, hre, hg₂⟩
    · rw [hre]
      exact answered_error (hg.trans hg₂) rfl
    · rw [hre]
      exact answered_error ((hg.trans hg₂).trans (.recounted _ d₂)) rfl
  · rw [he]
    refine ⟨⟨true, hg, fun _ _ => rfl⟩, fun _ _ => ?_, fun _ => hrot, fun _ => rfl⟩
    show l₁.size < _
    rw [hsize]
    exact hm

/-- How putting a line behind what there is ends. -/
theorem goes_appendLine {w : Writer} (hw : l.writer = some w) (line : String) (d : Disk) :
    (∃ f l' d', l.appendLine w line d = (.error f, l', d') ∧ Goes false l d l' d' ∧
        l'.rotations = l.rotations) ∨
      ∃ l' d', l.appendLine w line d = (.ok (), l', d') ∧ Goes true l d l' d' ∧
        l'.maxSize = l.maxSize ∧ l'.rotations = l.rotations := by
  rcases he : w.writePieces d [octetsOf line, [lineFeed]] with ⟨c | ⟨⟩, w', d'⟩
  · exact .inl ⟨.io c, _, d', by rw [RotatingLog.appendLine, he], .broke l d _ hw he, rfl⟩
  · have hlen : l.size + [octetsOf line, [lineFeed]].flatten.length =
        l.size + (octetsOf line).length + 1 := by simp [Nat.add_assoc]
    have hg := Goes.wrote l d _ hw he
    rw [hlen] at hg
    exact .inr ⟨_, d', by rw [RotatingLog.appendLine, he], hg, rfl, rfl⟩

/-- How taking a line ends. -/
theorem goes_takeLine (l : RotatingLog) (line : String) (d : Disk) :
    (∃ f l' d', l.takeLine line d = (.error f, l', d') ∧ Goes false l d l' d' ∧
        l'.rotations = l.rotations) ∨
      ∃ l' d', l.takeLine line d = (.ok (), l', d') ∧ Goes true l d l' d' ∧
        l'.maxSize = l.maxSize ∧ l'.rotations = l.rotations := by
  unfold RotatingLog.takeLine
  cases hw : l.writer with
  | some w =>
    have hre : l.reopen d = (.ok (), l, d) := by rw [RotatingLog.reopen, hw]
    rw [hre]
    dsimp only
    rw [hw]
    exact goes_appendLine hw line d
  | none =>
    rcases goes_reopen hw d with ⟨f, d₁, hre, hg⟩ | ⟨w, size, d₁, hre, hg⟩
    · rw [hre]
      exact .inl ⟨f, l, d₁, rfl, hg, rfl⟩
    · rw [hre]
      rcases goes_appendLine (l := { l with writer := some w, size := size }) rfl line d₁ with
        ⟨f, l₂, d₂, happ, hg₂, hrot⟩ | ⟨l₂, d₂, happ, hg₂, hmax, hrot⟩
      · exact .inl ⟨f, l₂, d₂, happ, hg.trans hg₂, hrot⟩
      · exact .inr ⟨l₂, d₂, happ, hg.trans hg₂, hmax, hrot⟩

/-- **Every line is answered so.** -/
theorem answered_writeLine (hm : 0 < l.maxSize) (line : String) (d : Disk) :
    Answered l d (l.writeLine line d) := by
  unfold RotatingLog.writeLine
  rcases goes_takeLine l line d with ⟨f, l₁, d₁, he, hg, hrot⟩ | ⟨l₁, d₁, he, hg, hmax, hrot⟩
  · rw [he]
    exact answered_error hg hrot
  · rw [he]
    dsimp only
    split
    · exact (answered_rotateAfterLine (hmax ▸ hm) d₁).behind hg hmax hrot
    · refine ⟨⟨true, hg, fun _ _ => rfl⟩, fun _ _ => hmax ▸ Nat.lt_of_not_le ‹_›, fun hb => ?_,
        fun hb => ?_⟩
      · cases hb
      · dsimp only at hb
        omega

/-- How an attempt that a line has brought about is told. -/
theorem told_rotateAfterLine (l : RotatingLog) (d : Disk) :
    (l.rotateAfterLine d).result = .ok true ∧
        (l.rotateAfterLine d).log.rotations = l.rotations + 1 ∨
      (∃ f, (l.rotateAfterLine d).result = .error f) ∧
        (l.rotateAfterLine d).log.rotations = l.rotations := by
  unfold RotatingLog.rotateAfterLine
  rcases goes_rotate l d with ⟨f, d₁, he, -⟩ | ⟨l₁, d₁, he, -, -, hrot⟩
  · rw [he]
    dsimp only
    rcases goes_reopen (l := { l with writer := none }) rfl d₁ with
      ⟨g, d₂, hre, -⟩ | ⟨w, size, d₂, hre, -⟩
    · rw [hre]
      exact .inr ⟨⟨g, rfl⟩, rfl⟩
    · rw [hre]
      exact .inr ⟨⟨f, rfl⟩, rfl⟩
  · rw [he]
    exact .inl ⟨rfl, hrot⟩

/-- **A call that tries to rotate tells of a rotation or fails, and one that does not try has not
rotated.** -/
theorem told_of_tries (c : Errand) (l : RotatingLog) (d : Disk) :
    if c.tries l d then
      (c.perform l d).result = .ok true ∧ (c.perform l d).log.rotations = l.rotations + 1 ∨
        (∃ f, (c.perform l d).result = .error f) ∧
          (c.perform l d).log.rotations = l.rotations
    else (c.perform l d).result ≠ .ok true ∧ (c.perform l d).log.rotations = l.rotations := by
  cases c with
  | flush =>
    show _ ∧ _
    rw [Errand.perform, RotatingLog.flush]
    cases l.writer with
    | none => exact ⟨fun hb => (by cases hb), rfl⟩
    | some w =>
      dsimp only
      rcases w.flush d with ⟨_ | ⟨⟩, w', d'⟩ <;> exact ⟨fun hb => (by cases hb), rfl⟩
  | rotate =>
    show _ ∨ _
    rw [Errand.perform]
    rcases goes_rotate l d with ⟨f, d', he, -⟩ | ⟨l', d', he, -, -, hrot⟩
    · rw [he]
      exact .inr ⟨⟨f, rfl⟩, rfl⟩
    · rw [he]
      exact .inl ⟨rfl, hrot⟩
  | line text =>
    rw [Errand.tries, Errand.perform, RotatingLog.writeLine]
    rcases goes_takeLine l text d with ⟨f, l₁, d₁, he, -, hrot⟩ | ⟨l₁, d₁, he, -, -, hrot⟩
    · rw [he]
      exact ⟨fun hb => (by cases hb), hrot⟩
    · rw [he]
      dsimp only
      by_cases hfull : l₁.maxSize ≤ l₁.size
      · rw [if_pos (decide_eq_true hfull), if_pos hfull, ← hrot]
        exact told_rotateAfterLine l₁ d₁
      · rw [if_neg (by simpa using hfull), if_neg hfull]
        exact ⟨fun hb => (by cases hb), hrot⟩

/-- Whether the call is a flush, or succeeded. -/
def Errand.isFine : Errand → Except Fault Bool → Bool
  | .flush, _ | _, .ok _ => true
  | _, .error _ => false

/-- **Every call is made of such steps**, and where it succeeds they all do. -/
theorem goes_perform (hm : 0 < l.maxSize) (c : Errand) (d : Disk) :
    ∃ ok, Goes ok l d (c.perform l d).log (c.perform l d).disk ∧
      (c.isFine (c.perform l d).result = true → ok = true) := by
  cases c with
  | line text =>
    obtain ⟨ok, hg, hok⟩ := (answered_writeLine hm text d).goes
    refine ⟨ok, hg, fun hf => ?_⟩
    rcases hr : (l.writeLine text d).result with f | b
    · rw [Errand.perform, hr] at hf
      cases hf
    · exact hok b hr
  | flush =>
    refine ⟨true, ?_, fun _ => rfl⟩
    unfold Errand.perform RotatingLog.flush
    cases hw : l.writer with
    | none => exact .stay l d
    | some w =>
      dsimp only
      rcases he : w.flush d with ⟨c | ⟨⟩, w', d'⟩ <;> exact .flushed l d hw he
  | rotate =>
    unfold Errand.perform
    rcases goes_rotate l d with ⟨f, d', he, hg⟩ | ⟨l', d', he, hg, -⟩
    · rw [he]
      exact ⟨false, hg, fun hf => by cases hf⟩
    · rw [he]
      exact ⟨true, hg, fun _ => rfl⟩

/-! ## 2. The count -/

/-- **The count is not more than the octets in the file and behind it in the writer**, and where it
is exact, it is as much. -/
structure Tallies (isExact : Bool) (l : RotatingLog) (d : Disk) : Prop where
  filed : d.Filed
  appends : ∀ w, l.writer = some w → w.handle.Appends d
  isOpen : isExact = true → l.writer ≠ none
  size : ∀ w n, l.writer = some w → w.handle.target = .file n →
    l.size ≤ w.extent n d ∧ (isExact = true → l.size = w.extent n d)

variable {isExact : Bool}

theorem Tallies.steady (h : Tallies isExact l d) {w : Writer} (hw : l.writer = some w) :
    w.Steady d := ⟨h.filed, h.appends w hw⟩

/-- A log that has a writer, and a count that is exact or behind. -/
theorem tallies_of_writer {w : Writer} (hs : w.Steady d)
    (hsize : ∀ n, w.handle.target = .file n →
      l.size ≤ w.extent n d ∧ (isExact = true → l.size = w.extent n d)) (hw : l.writer = some w) :
    Tallies isExact l d where
  filed := hs.filed
  appends w' hw' := Option.some.inj (hw.symm.trans hw') ▸ hs.appends
  isOpen _ := by simp [hw]
  size w' n hw' hn := by
    obtain rfl := Option.some.inj (hw.symm.trans hw')
    exact hsize n hn

/-- A log that has none. -/
theorem tallies_of_none (hd : d.Filed) (hw : l.writer = none) : Tallies false l d where
  filed := hd
  appends w hw' := by simp [hw] at hw'
  isOpen hx := by cases hx
  size w n hw' := by simp [hw] at hw'

/-- Work that leaves all entries of files in order, and yields something of this kind where it
succeeds. -/
structure Yields {α ε : Type} (s : Except ε α × Disk) (good : α → Disk → Prop) : Prop where
  filed : s.2.Filed
  good : ∀ a, s.1 = .ok a → good a s.2

/-- The size of a file that was opened for more. -/
theorem yields_resume (hd : d.Filed) (path : Path) :
    Yields ((RotatingLog.resume path).run d) fun a d' =>
      a.1.Steady d' ∧ ∀ n, a.1.handle.target = .file n → a.2 = a.1.extent n d' := by
  rcases hd.openAppend path with ⟨c, d', he, hd'⟩ | ⟨h, d', he, hd', happ⟩
  · rw [RotatingLog.resume, run_bind_error he]
    exact ⟨hd', fun a ha => by cases ha⟩
  · rw [RotatingLog.resume, run_bind_ok he]
    refine ⟨hd', fun a ha => ?_⟩
    cases ha
    refine ⟨⟨hd', happ⟩, fun n hn => ?_⟩
    show h.size d' = _
    rw [Handle.size, hn]
    rfl

/-- Giving up a writer leaves its file where it is. -/
theorem finish_cases (hs : ∀ w, l.writer = some w → w.Steady d) (hd : d.Filed) :
    ∃ r d', (RotatingLog.finish l.writer).run d = (r, d') ∧ d'.Filed ∧
      (l.writer = none → d' = d) ∧
      ∀ w n, l.writer = some w → w.handle.target = .file n → Touches n d d' := by
  show ∃ r d', RotatingLog.finish l.writer d = (r, d') ∧ _
  cases hw : l.writer with
  | none => exact ⟨_, d, rfl, hd, fun _ => rfl, fun w n hw => by cases hw⟩
  | some w =>
    obtain ⟨hsteady, htarget, htouch, -⟩ := (Writer.grew_flush (hs w hw)).1
    rcases he : w.flush d with ⟨c | ⟨⟩, w₁, d₁⟩
    · -- what could not be written is tried once more
      rw [he] at hsteady htarget htouch
      obtain ⟨hsteady₂, -, htouch₂, -⟩ := (Writer.grew_flush hsteady).1
      refine ⟨.error c, w₁.close d₁, by rw [RotatingLog.finish, he], hsteady₂.filed,
        fun hn => (by cases hn), fun w' n hw' hn => ?_⟩
      obtain rfl := Option.some.inj hw'
      exact (htouch n hn).trans (htouch₂ n (htarget.trans hn))
    · rw [he] at hsteady htouch
      refine ⟨.ok (), d₁, by rw [RotatingLog.finish, he], hsteady.filed, fun hn => (by cases hn),
        fun w' n hw' hn => ?_⟩
      obtain rfl := Option.some.inj hw'
      exact htouch n hn

theorem shuffles_stage {α : Type} (l : RotatingLog) (words : String) {w : Work α}
    (h : Shuffles w) : Shuffles (l.stage words w) := h.adapt _

theorem shuffles_moveIfThere (p q : Path) : Shuffles (RotatingLog.moveIfThere p q) := by
  intro d
  show Shuffled d ((RotatingLog.moveIfThere p q).run d).2
  rw [RotatingLog.run_moveIfThere]
  split
  · exact shuffles_replace p q d
  · exact .refl d

theorem shuffles_shiftSlots (l : RotatingLog) (n : Nat) : Shuffles (l.shiftSlots n) := by
  induction n using RotatingLog.shiftSlots.induct with
  | case1 => exact shuffles_pure ()
  | case2 => exact shuffles_pure ()
  | case3 n ih =>
    rw [RotatingLog.shiftSlots]
    exact (shuffles_forM fun p _ => shuffles_moveIfThere p.1 p.2).bind fun _ => ih

/-- **Moving the history only puts entries elsewhere.** -/
theorem shuffles_retire (l : RotatingLog) : Shuffles l.retire :=
  (shuffles_stage l _ ((shuffles_forM fun p _ => shuffles_removeIfThere p).bind fun _ =>
    shuffles_shiftSlots l l.maxFiles)).bind fun _ => shuffles_stage l _ (shuffles_replace _ _)

/-- A handle at the end of a file in which there is nothing. -/
def IsFresh (h : Handle) (d : Disk) : Prop :=
  h.Appends d ∧ ∀ n, h.target = .file n → d.octetsOf n = []

theorem yields_begin (l : RotatingLog) (hd : d.Filed) :
    Yields ((l.stage "Failed to create new log file" (openFresh l.base)).run d) IsFresh := by
  rcases hd.openFresh l.base with ⟨c, d', he, hd'⟩ | ⟨h, d', he, hd', happ, hnil⟩
  · rw [stage_run_error l _ he]
    exact ⟨hd', fun h hh => by cases hh⟩
  · rw [stage_run l _ he]
    refine ⟨hd', fun h hh => ?_⟩
    cases hh
    exact ⟨happ, hnil⟩

/-- **Beginning a new file yields one in which there is nothing.** -/
theorem yields_renew (h : Tallies isExact l d) : Yields (l.renew.run d) IsFresh := by
  obtain ⟨r, d₁, hf, hd₁, -⟩ := finish_cases (fun w hw => h.steady hw) h.filed
  unfold RotatingLog.renew
  rcases r with c | ⟨⟩
  · rw [run_bind_error (stage_run_error l _ hf)]
    exact ⟨hd₁, fun h hh => by cases hh⟩
  · rw [run_bind_ok (stage_run l _ hf)]
    by_cases hm : 0 < l.maxFiles
    · rw [if_pos hm]
      have hd₂ := (shuffles_retire l d₁).filed hd₁
      rcases hr : l.retire.run d₁ with ⟨f | ⟨⟩, d₂⟩
      · rw [hr] at hd₂
        rw [run_bind_error hr]
        exact ⟨hd₂, fun h hh => by cases hh⟩
      · rw [hr] at hd₂
        rw [run_bind_ok hr]
        exact yields_begin l hd₂
    · rw [if_neg hm]
      exact yields_begin l hd₁

/-- **Each step keeps the count from running ahead, and those that succeed keep it exact.** -/
theorem Goes.tallies (h : Goes ok l d l' d') (hc : Tallies isExact l d) :
    Tallies (isExact && ok) l' d' := by
  induction h generalizing isExact with
  | stay l d =>
    rw [Bool.and_true]
    exact hc
  | @wrote l d w w' d' pieces hw he =>
    have hg := Writer.grew_writePieces (hc.steady hw) pieces
    rw [he] at hg
    rw [Bool.and_true]
    refine tallies_of_writer hg.steady (fun n hn => ?_) rfl
    have hn' : w.handle.target = .file n := hg.target.symm.trans hn
    obtain ⟨hle, heq⟩ := hc.size w n hw hn'
    have hwhole : w'.extent n d' = w.extent n d + pieces.flatten.length := hg.whole rfl n hn'
    show l.size + pieces.flatten.length ≤ _ ∧ (_ → l.size + pieces.flatten.length = _)
    rw [hwhole]
    exact ⟨by omega, fun hx => by rw [heq hx]⟩
  | @broke l d w w' c d' pieces hw he =>
    have hg := Writer.grew_writePieces (hc.steady hw) pieces
    rw [he] at hg
    rw [Bool.and_false]
    refine tallies_of_writer hg.steady (fun n hn => ⟨?_, fun hx => by cases hx⟩) rfl
    have hn' : w.handle.target = .file n := hg.target.symm.trans hn
    exact Nat.le_trans (hc.size w n hw hn').1 (hg.least n hn')
  | @flushed l d w w' r d' hw he =>
    obtain ⟨hg, hsame⟩ := Writer.grew_flush (hc.steady hw)
    rw [he] at hg hsame
    rw [Bool.and_true]
    refine tallies_of_writer hg.steady (fun n hn => ?_) rfl
    have hn' : w.handle.target = .file n := hg.target.symm.trans hn
    have he' : w'.extent n d' = w.extent n d := hsame n hn'
    rw [he']
    exact hc.size w n hw hn'
  | @resumed l d w size d' hw he =>
    have hgood := (yields_resume hc.filed l.base).good
    rw [he] at hgood
    obtain ⟨hs, hsize⟩ := hgood _ rfl
    exact tallies_of_writer hs (fun n hn => ⟨Nat.le_of_eq (hsize n hn), fun _ => hsize n hn⟩) rfl
  | @shut l d c d' hw he =>
    have hd' := (yields_resume hc.filed l.base).filed
    rw [he] at hd'
    rw [Bool.and_false]
    exact tallies_of_none hd' hw
  | @renewed l d h d' he =>
    obtain ⟨hd', hgood⟩ := yields_renew hc
    rw [he] at hd' hgood
    obtain ⟨happ, hnil⟩ := hgood h rfl
    refine tallies_of_writer (w := ⟨h, []⟩) ⟨hd', happ⟩ (fun n hn => ?_) rfl
    have hzero : Writer.extent ⟨h, []⟩ n d' = 0 := by
      show (d'.octetsOf n).length + 0 = 0
      rw [hnil n hn]
      rfl
    rw [hzero]
    exact ⟨Nat.le_refl 0, fun _ => rfl⟩
  | @stopped l d f d' he =>
    have hd' := (yields_renew hc).filed
    rw [he] at hd'
    rw [Bool.and_false]
    exact tallies_of_none hd' rfl
  | recounted l d =>
    rw [Bool.and_false]
    exact ⟨hc.filed, hc.appends, fun hx => (by cases hx),
      fun w n hw hn => ⟨Nat.zero_le _, fun hx => (by cases hx)⟩⟩
  | trans h h' ih ih' =>
    rw [← Bool.and_assoc]
    exact ih' (ih hc)

end Logworks.Rotation
