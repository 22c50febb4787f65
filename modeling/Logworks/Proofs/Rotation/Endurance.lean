import Logworks.Proofs.Rotation.Recovery

/-!
# Calls of a log whose disk fails

What each call of a log does to the active text and to the history, when any removal, any rename
and any opening of a file may fail. This file fixes

* `Attempted` -- how an attempt to rotate ended: **if it failed, all of the active text is in the
  active file, or all of it in slot 1**;
* `Turn` -- what a call does: a line is refused and nothing is changed, or it comes behind the
  active text, and then there may have been an attempt to rotate;
* `Stands.perform` -- every call does that, and the history survives it;
* `every_call_turns` -- **so does every call of a run**;
* `attempts` -- how many calls of a run try to rotate; a line that is refused does not;
* `history_survives` -- **each attempt moves a file of the history up by one slot at most**; only
  behind the last slot it is gone.

The oldest slot is given up before anything is moved, so a file in it may be lost to an attempt
that fails later (`oldest_lost`).
-/

namespace Logworks.Rotation

open Logworks.Disk Logworks.Text

variable {base : Path} {maxSize maxFiles : Nat} {suffixes : List String} {place : Path → Place}
  {files : Path → Option Nat} {text : Octets} {l : RotatingLog} {d d' : Disk}

/-! ## 1. What a call does -/

/-- What the file at the path holds; nothing, if there is none. -/
def fileText (base : Path) (d : Disk) : Octets := (Shelf.found base d).active

/-- What the plain file in slot 1 holds. -/
def firstText (base : Path) (d : Disk) : Option Octets := (Shelf.found base d).held 1 ""

/-- What a writer has gathered. -/
def gathered (w : Option Writer) : Octets := (w.map Writer.pending).getD []

/-- **How an attempt to rotate ended**, given the active text and what slot 1 held: a new file is
begun and the text is in slot 1, or the attempt failed and all the text is in one of the two. -/
inductive Attempted (base : Path) (maxFiles : Nat) (text : Octets) (first : Option Octets) :
    Except Fault Bool → RotatingLog → Disk → Prop where
  | rotated (l : RotatingLog) (d : Disk) (isOpen : l.writer ≠ none)
      (flushed : gathered l.writer = []) (file : fileText base d = [])
      (slot : 1 ≤ maxFiles → firstText base d = some text) :
      Attempted base maxFiles text first (.ok true) l d
  | stayed (f : Fault) (l : RotatingLog) (d : Disk) (flushed : gathered l.writer = [])
      (file : fileText base d = text)
      (slot : 1 ≤ maxFiles → firstText base d = first ∨ firstText base d = none) :
      Attempted base maxFiles text first (.error f) l d
  | went (f : Fault) (l : RotatingLog) (d : Disk) (hm : 1 ≤ maxFiles)
      (flushed : gathered l.writer = []) (file : fileText base d = [])
      (slot : firstText base d = some text) :
      Attempted base maxFiles text first (.error f) l d

/-- **What becomes of the active text in a call**: a line that cannot be written is refused, and
nothing is changed; else it is behind the text, and then the log may have tried to rotate. -/
inductive Turn (base : Path) (maxFiles : Nat) (l : RotatingLog) (d : Disk) :
    Errand → Except Fault Bool → RotatingLog → Disk → Prop where
  | refused (line : String) (f : Fault) (d' : Disk) (closed : l.writer = none)
      (entries : d'.entries = d.entries) (contents : d'.contents = d.contents) :
      Turn base maxFiles l d (.line line) (.error f) l d'
  | kept (c : Errand) (l' : RotatingLog) (d' : Disk) (hc : c ≠ .rotate)
      (isOpen : c ≠ .flush → l'.writer ≠ none)
      (flushed : c = .flush → gathered l'.writer = [])
      (text : fileText base d' ++ gathered l'.writer =
        fileText base d ++ gathered l.writer ++ c.text)
      (slot : 1 ≤ maxFiles → firstText base d' = firstText base d) :
      Turn base maxFiles l d c (.ok false) l' d'
  | attempted (c : Errand) (r : Except Fault Bool) (l' : RotatingLog) (d' : Disk)
      (hc : c ≠ .flush)
      (attempt : Attempted base maxFiles (fileText base d ++ gathered l.writer ++ c.text)
        (firstText base d) r l' d') :
      Turn base maxFiles l d c r l' d'

/-- Only where there is a slot 1 does it matter what it held. -/
theorem Attempted.congr {first first' : Option Octets} {r : Except Fault Bool}
    (h : Attempted base maxFiles text first r l d) (hf : 1 ≤ maxFiles → first = first') :
    Attempted base maxFiles text first' r l d := by
  cases h with
  | rotated _ _ isOpen flushed file slot => exact .rotated l d isOpen flushed file slot
  | stayed f _ _ flushed file slot => exact .stayed f l d flushed file fun hm => hf hm ▸ slot hm
  | went f _ _ hm flushed file slot => exact .went f l d hm flushed file slot

/-! ## 2. What stands, as it is found -/

theorem fileText_eq (h : Placed (IsOwn base maxFiles suffixes) place files d) :
    fileText base d = activeAt base files d := by
  show ((d.read? base).toOption).getD [] = _
  rw [h.read? .active, activeAt]
  cases files base <;> rfl

/-- What is found in a slot is what its file holds. -/
theorem found_held_eq (h : Placed (IsOwn base maxFiles suffixes) place files d) {i : Nat}
    {e : String} (hi : 1 ≤ i) (him : i ≤ maxFiles) (he : IsEnding suffixes e) :
    (Shelf.found base d).held i e = heldAt base files d i e := by
  show (d.read? (slotPath base i e)).toOption = _
  rw [h.read? (.slot i e hi him he), heldAt]
  cases files (slotPath base i e) <;> rfl

/-- What is read at the path of a slot is what its file holds. -/
theorem read?_slot_iff (h : Placed (IsOwn base maxFiles suffixes) place files d) {i : Nat}
    {e : String} {bytes : Octets} (hi : 1 ≤ i) (him : i ≤ maxFiles) (he : IsEnding suffixes e) :
    d.read? (slotPath base i e) = .ok bytes ↔ heldAt base files d i e = some bytes := by
  rw [h.read? (.slot i e hi him he), heldAt]
  cases files (slotPath base i e) <;> simp

theorem firstText_eq (h : Placed (IsOwn base maxFiles suffixes) place files d)
    (hm : 1 ≤ maxFiles) : firstText base d = heldAt base files d 1 "" :=
  found_held_eq h (Nat.le_refl 1) hm (.inl rfl)

/-- The active text is in the file, and behind it in the writer. -/
theorem Stands.text_eq (h : Stands base maxSize maxFiles suffixes place files text l d) :
    fileText base d ++ gathered l.writer = text := by
  have hreads := h.reads
  rw [fileText_eq h.placed]
  cases hw : l.writer with
  | none =>
    rw [hw] at hreads
    exact (List.append_nil _).trans hreads
  | some w =>
    rw [hw] at hreads
    obtain ⟨n, hn, hholds⟩ := hreads
    rw [activeAt, hn, ← hholds.whole]
    rfl

/-- The first slot is as it was where all slots are. -/
theorem Carried.firstText_eq {files' : Path → Option Nat}
    (h : Carried base maxFiles suffixes place files files' d d')
    (hd : Placed (IsOwn base maxFiles suffixes) place files d) (hm : 1 ≤ maxFiles) :
    firstText base d' = firstText base d := by
  rw [Rotation.firstText_eq h.placed hm, Rotation.firstText_eq hd hm]
  exact h.same 1 "" (Nat.le_refl 1) hm (.inl rfl)

/-- What a rotation that failed has left, as it is found. -/
theorem attempted_of_stopped {files' : Path → Option Nat}
    (hd : Placed (IsOwn base maxFiles suffixes) place files d)
    (hd' : Placed (IsOwn base maxFiles suffixes) place files' d')
    (hs : Stopped base maxFiles files files' text d d') (hg : gathered l.writer = []) (f : Fault) :
    Attempted base maxFiles text (firstText base d) (.error f) l d' := by
  rcases hs with ⟨ha, hone⟩ | ⟨hm, ha, hone⟩
  · refine .stayed f l d' hg ((fileText_eq hd').trans ha) fun hm => ?_
    rw [firstText_eq hd' hm, firstText_eq hd hm]
    exact hone hm
  · exact .went f l d' hm hg ((fileText_eq hd').trans ha) ((firstText_eq hd' hm).trans hone)

/-- What a rotation that succeeded has left. -/
theorem attempted_of_begun {first : Option Octets} {w : Writer}
    (h : Stands base maxSize maxFiles suffixes place files [] l d) (hw : l.writer = some w)
    (hnil : w.pending = []) (hone : 1 ≤ maxFiles → heldAt base files d 1 "" = some text) :
    Attempted base maxFiles text first (.ok true) l d := by
  have hg : gathered l.writer = [] := by
    rw [hw]
    exact hnil
  refine .rotated l d (by simp [hw]) hg ?_ fun hm => (firstText_eq h.placed hm).trans (hone hm)
  have htext := h.text_eq
  rwa [hg, List.append_nil] at htext

/-! ## 3. Every call -/

/-- **A call tries to rotate**: it asks for that, or it is a line that was taken, and with it the
active file has its size. A line that is refused never comes so far. -/
def Errand.tries (c : Errand) (l : RotatingLog) (d : Disk) : Bool :=
  match c with
  | .flush => false
  | .rotate => true
  | .line text =>
    match l.takeLine text d with
    | (.error _, _, _) => false
    | (.ok (), l, _) => decide (l.maxSize ≤ l.size)

/-- **What a call leaves**: the log stands, and the history has survived; nothing of it has moved
if the call did not try to rotate. -/
structure Onward (base : Path) (maxSize maxFiles : Nat) (suffixes : List String)
    (place : Path → Place) (files : Path → Option Nat) (d : Disk) (tried : Bool)
    (files' : Path → Option Nat) (text : Octets) (l' : RotatingLog) (d' : Disk) : Prop where
  stands : Stands base maxSize maxFiles suffixes place files' text l' d'
  shifted : Shifted base maxFiles suffixes place files files' d d'
  quiet : tried = false → Carried base maxFiles suffixes place files files' d d'

/-- The counted size has no part in what stands. -/
theorem Stands.recounted (h : Stands base maxSize maxFiles suffixes place files text l d)
    (size : Nat) :
    Stands base maxSize maxFiles suffixes place files text { l with size := size } d :=
  ⟨⟨h.terms.base, h.terms.maxSize, h.terms.maxFiles, h.terms.suffixes⟩, h.sound, h.placed,
    h.writable, h.reads⟩

/-- Neither has a mishap that was used up. -/
theorem Stands.begun (h : Stands base maxSize maxFiles suffixes place files text l d)
    (hw : l.writer = none) :
    Stands base maxSize maxFiles suffixes place files text l d.begun := by
  have hreads := h.reads
  refine ⟨h.terms, h.sound, h.placed.begun, h.writable, ?_⟩
  rw [hw] at hreads ⊢
  exact hreads

/-- An attempt that a line has brought about. -/
theorem Stands.rotateAfterLine (h : Stands base maxSize maxFiles suffixes place files text l d) :
    ∃ r l' d' ns files' text', l.rotateAfterLine d = ⟨r, l', d', ns⟩ ∧
      Onward base maxSize maxFiles suffixes place files d true files' text' l' d' ∧
      Attempted base maxFiles text (firstText base d) r l' d' := by
  obtain ⟨r, l₁, d₁, files₁, hr, hsh, ⟨⟨f, rfl⟩, hw, hstop, hst⟩ |
    ⟨rfl, ⟨w, hw, hnil⟩, hone, hst⟩⟩ := h.rotate
  · have hrefl := Carried.refl h.placed h.writable
    rcases hst.reopen hw with ⟨g, hre⟩ | ⟨w, l₂, d₂, files₂, hre, hw₂, hnil, hc, ha, hst₂⟩
    · have hc := carried_begun hst.placed hst.writable
      refine ⟨.error g, l₁, d₁.begun, [RotatingLog.rotationWarning f], files₁, _, ?_,
        ⟨hst.begun hw, hsh.between hrefl hc, by simp⟩,
        attempted_of_stopped h.placed hc.placed (hstop.carried hc rfl) ?_ g⟩
      · rw [RotatingLog.rotateAfterLine, hr]
        dsimp only
        rw [hre]
      · rw [hw]
        rfl
    · refine ⟨.error f, { l₂ with size := 0 }, d₂, [RotatingLog.rotationWarning f], files₂, _, ?_,
        ⟨hst₂.recounted 0, hsh.between hrefl hc, by simp⟩,
        attempted_of_stopped h.placed hc.placed (hstop.carried hc ha) ?_ f⟩
      · rw [RotatingLog.rotateAfterLine, hr]
        dsimp only
        rw [hre]
      · show gathered l₂.writer = []
        rw [hw₂]
        exact hnil
  · refine ⟨.ok true, l₁, d₁, [], files₁, [], ?_, ⟨hst, hsh, by simp⟩,
      attempted_of_begun hst hw hnil hone⟩
    rw [RotatingLog.rotateAfterLine, hr]

/-- A line comes behind the active text. -/
theorem Stands.appendLine (h : Stands base maxSize maxFiles suffixes place files text l d)
    {w : Writer} (hw : l.writer = some w) (line : String) :
    ∃ l' d', l.appendLine w line d = (.ok (), l', d') ∧ l'.writer ≠ none ∧
      Carried base maxFiles suffixes place files files d d' ∧
      Stands base maxSize maxFiles suffixes place files (text ++ (Errand.line line).text) l'
        d' := by
  have hreads := h.reads
  rw [hw] at hreads
  obtain ⟨n, hn, hholds⟩ := hreads
  obtain ⟨w', d', hwrite, hholds', ht⟩ := hholds.writePieces h.writable [octetsOf line, [lineFeed]]
  have htext : [octetsOf line, [lineFeed]].flatten = (Errand.line line).text := by
    simp [Errand.text]
  rw [htext] at hholds'
  have hc := carried_of_touches h.sound h.placed h.writable hn ht
  refine ⟨{ l with writer := some w', size := l.size + (octetsOf line).length + 1 }, d', ?_,
    Option.some_ne_none w', hc,
    ⟨h.terms.base, h.terms.maxSize, h.terms.maxFiles, h.terms.suffixes⟩, h.sound, hc.placed,
    hc.writable, n, hn, hholds'⟩
  rw [RotatingLog.appendLine, hwrite]

/-- **A line is refused, and nothing is changed, or it is taken**; no slot is touched. -/
theorem Stands.takeLine (h : Stands base maxSize maxFiles suffixes place files text l d)
    (line : String) :
    (∃ f, l.takeLine line d = (.error f, l, d.begun) ∧ l.writer = none) ∨
      ∃ l' d' files', l.takeLine line d = (.ok (), l', d') ∧ l'.writer ≠ none ∧
        Carried base maxFiles suffixes place files files' d d' ∧
        Stands base maxSize maxFiles suffixes place files' (text ++ (Errand.line line).text)
          l' d' := by
  cases hw : l.writer with
  | some w =>
    have hre : l.reopen d = (.ok (), l, d) := by rw [RotatingLog.reopen, hw]
    obtain ⟨l₁, d₁, happ, hopen, hc, hst⟩ := h.appendLine hw line
    refine .inr ⟨l₁, d₁, files, ?_, hopen, hc, hst⟩
    rw [RotatingLog.takeLine, hre]
    dsimp only
    rw [hw]
    exact happ
  | none =>
    rcases h.reopen hw with ⟨f, hre⟩ | ⟨w, l₁, d₁, files₁, hre, hw₁, -, hc, -, hst⟩
    · refine .inl ⟨f, ?_, rfl⟩
      rw [RotatingLog.takeLine, hre]
    · obtain ⟨l₂, d₂, happ, hopen, hc₂, hst₂⟩ := hst.appendLine hw₁ line
      refine .inr ⟨l₂, d₂, files₁, ?_, hopen, hc.trans hc₂, hst₂⟩
      rw [RotatingLog.takeLine, hre]
      dsimp only
      rw [hw₁]
      exact happ

/-- An attempt behind something that moved nothing. -/
theorem Onward.behind {files₁ files' : Path → Option Nat} {d₁ : Disk} {tried : Bool}
    (h : Onward base maxSize maxFiles suffixes place files₁ d₁ tried files' text l d')
    (hc : Carried base maxFiles suffixes place files files₁ d d₁) :
    Onward base maxSize maxFiles suffixes place files d tried files' text l d' where
  stands := h.stands
  shifted := h.shifted.between hc (.refl h.shifted.placed h.shifted.writable)
  quiet ht := hc.trans (h.quiet ht)

/-- **A call turns out so**: it does one of these, and the history has survived. -/
def TurnsOut (base : Path) (maxSize maxFiles : Nat) (suffixes : List String)
    (place : Path → Place) (files : Path → Option Nat) (l : RotatingLog) (d : Disk) (c : Errand) :
    Prop :=
  ∃ r l' d' ns files' text', c.perform l d = ⟨r, l', d', ns⟩ ∧
    Onward base maxSize maxFiles suffixes place files d (c.tries l d) files' text' l' d' ∧
    Turn base maxFiles l d c r l' d'

theorem Stands.line (h : Stands base maxSize maxFiles suffixes place files text l d)
    (line : String) : TurnsOut base maxSize maxFiles suffixes place files l d (.line line) := by
  rcases h.takeLine line with ⟨f, hl, hw⟩ | ⟨l₁, d₁, files₁, hl, hopen, hc, hst⟩
  · have hc := carried_begun h.placed h.writable
    refine ⟨.error f, l, d.begun, [], files, text, ?_, ⟨h.begun hw, hc.shifted, fun _ => hc⟩,
      .refused line f d.begun hw rfl rfl⟩
    rw [Errand.perform, RotatingLog.writeLine, hl]
  by_cases hfull : l₁.maxSize ≤ l₁.size
  · obtain ⟨r, l', d', ns, files', text', hr, hon, hatt⟩ := hst.rotateAfterLine
    have htries : (Errand.line line).tries l d = true := by
      rw [Errand.tries, hl]
      exact decide_eq_true hfull
    refine ⟨r, l', d', ns, files', text', ?_, htries ▸ hon.behind hc,
      .attempted _ r l' d' (by simp) ?_⟩
    · rw [Errand.perform, RotatingLog.writeLine, hl]
      dsimp only
      rw [if_pos hfull, hr]
    · rw [h.text_eq]
      exact hatt.congr fun hm => hc.firstText_eq h.placed hm
  · refine ⟨.ok false, l₁, d₁, [], files₁, _, ?_, ⟨hst, hc.shifted, fun _ => hc⟩,
      .kept _ l₁ d₁ (by simp) (fun _ => hopen) (by simp) ?_ fun hm => hc.firstText_eq h.placed hm⟩
    · rw [Errand.perform, RotatingLog.writeLine, hl]
      dsimp only
      rw [if_neg hfull]
    · rw [hst.text_eq, h.text_eq]

theorem Stands.flush (h : Stands base maxSize maxFiles suffixes place files text l d) :
    TurnsOut base maxSize maxFiles suffixes place files l d .flush := by
  have hreads := h.reads
  cases hw : l.writer with
  | none =>
    have hf : l.flush d = (.ok (), l, d) := by rw [RotatingLog.flush, hw]
    have hc := Carried.refl h.placed h.writable
    refine ⟨.ok false, l, d, [], files, text, ?_, ⟨h, hc.shifted, fun _ => hc⟩,
      .kept _ l d (by simp) (by simp) (fun _ => ?_) (List.append_nil _).symm fun _ => rfl⟩
    · rw [Errand.perform, hf]
      rfl
    · rw [hw]
      rfl
  | some w =>
    rw [hw] at hreads
    obtain ⟨n, hn, hholds⟩ := hreads
    obtain ⟨w', d', hf, hholds', hnil, ht⟩ := hholds.flush h.writable
    have hflush : l.flush d = (.ok (), { l with writer := some w' }, d') := by
      rw [RotatingLog.flush, hw]
      dsimp only
      rw [hf]
    have hc := carried_of_touches h.sound h.placed h.writable hn ht
    have hst : Stands base maxSize maxFiles suffixes place files text
        { l with writer := some w' } d' :=
      ⟨⟨h.terms.base, h.terms.maxSize, h.terms.maxFiles, h.terms.suffixes⟩, h.sound, hc.placed,
        hc.writable, n, hn, hholds'⟩
    refine ⟨.ok false, _, d', [], files, text, ?_, ⟨hst, hc.shifted, fun _ => hc⟩,
      .kept _ _ d' (by simp) (by simp) (fun _ => hnil) ?_ fun hm => hc.firstText_eq h.placed hm⟩
    · rw [Errand.perform, hflush]
      rfl
    · rw [hst.text_eq, h.text_eq]
      exact (List.append_nil text).symm

theorem Stands.attempt (h : Stands base maxSize maxFiles suffixes place files text l d) :
    TurnsOut base maxSize maxFiles suffixes place files l d .rotate := by
  have htext : fileText base d ++ gathered l.writer ++ Errand.rotate.text = text := by
    rw [h.text_eq]
    exact List.append_nil text
  obtain ⟨r, l', d', files', hr, hsh, ⟨⟨f, rfl⟩, hw, hstop, hst⟩ |
    ⟨rfl, ⟨w, hw, hnil⟩, hone, hst⟩⟩ := h.rotate
  · refine ⟨.error f, l', d', [], files', _, ?_, ⟨hst, hsh, fun ht => nomatch ht⟩,
      .attempted _ _ l' d' (by simp) ?_⟩
    · rw [Errand.perform, hr]
      rfl
    · rw [htext]
      exact attempted_of_stopped h.placed hst.placed hstop (by rw [hw]; rfl) f
  · refine ⟨.ok true, l', d', [], files', [], ?_, ⟨hst, hsh, fun ht => nomatch ht⟩,
      .attempted _ _ l' d' (by simp) ?_⟩
    · rw [Errand.perform, hr]
      rfl
    · rw [htext]
      exact attempted_of_begun hst hw hnil hone

/-- **Every call of a log turns out so**, whatever fails. -/
theorem Stands.perform (h : Stands base maxSize maxFiles suffixes place files text l d)
    (c : Errand) : TurnsOut base maxSize maxFiles suffixes place files l d c := by
  cases c with
  | line line => exact h.line line
  | flush => exact h.flush
  | rotate => exact h.attempt

/-! ## 4. Runs -/

/-- A log is begun on a disk where operations may fail. -/
theorem create_stands (h : Ready base maxFiles suffixes { d with mishaps := {} })
    (hd : d.mishaps.Writable) {d₀ : Disk}
    (hc : RotatingLog.create base maxSize maxFiles suffixes d = (.ok l, d₀)) :
    ∃ files text, Stands base maxSize maxFiles suffixes (placeAt { d with mishaps := {} }) files
      text l d₀ := by
  have hs := h.sound
  have hp : Placed (IsOwn base maxFiles suffixes) (placeAt { d with mishaps := {} })
      (fileAt? { d with mishaps := {} }) d := h.racked.kept.refilled rfl rfl
  unfold RotatingLog.create at hc
  split at hc
  · cases hc
  rcases hp.openAppend_cases .active with ⟨c, hr⟩ | ⟨n, d', hr, ho, hmis, -⟩
  · have hres : (RotatingLog.resume base).run d = (.error c, d.begun) := run_bind_error hr
    rw [hres] at hc
    cases hc
  · have hres : (RotatingLog.resume base).run d =
        (.ok (⟨⟨.file n, none⟩, []⟩, (d'.octetsOf n).length), d') := run_bind_ok hr
    rw [hres] at hc
    cases hc
    have hn : Function.update (fileAt? { d with mishaps := {} }) base (some n) base = some n :=
      Function.update_self _ _ _
    exact ⟨_, d₀.octetsOf n, ⟨rfl, rfl, rfl, rfl⟩, hs, ho.placed, by rw [hmis]; exact hd, n, hn,
      ⟨rfl, ho.placed.filed base n .active hn, .inl rfl⟩, List.append_nil _⟩

/-- How many of some calls try to rotate. -/
def attempts : List Errand → RotatingLog → Disk → Nat
  | [], _, _ => 0
  | c :: calls, l, d =>
    (c.tries l d).toNat + attempts calls (c.perform l d).log (c.perform l d).disk

/-- **The log stands after any calls, and each attempt has moved the history up by one slot at
most.** -/
theorem Stands.performAll (h : Stands base maxSize maxFiles suffixes place files text l d)
    (calls : List Errand) :
    ∃ files' text', Stands base maxSize maxFiles suffixes place files' text'
        (Errand.performAll calls l d).log (Errand.performAll calls l d).disk ∧
      ∀ i e bytes, 1 ≤ i → i + attempts calls l d ≤ maxFiles → IsEnding suffixes e →
        heldAt base files d i e = some bytes →
        ∃ j, i ≤ j ∧ j ≤ i + attempts calls l d ∧
          heldAt base files' (Errand.performAll calls l d).disk j e = some bytes := by
  induction calls generalizing files text l d with
  | nil => exact ⟨files, text, h, fun i e bytes _ _ _ hb => ⟨i, Nat.le_refl i, Nat.le_refl i, hb⟩⟩
  | cons c calls ih =>
    obtain ⟨r, l₁, d₁, ns, files₁, text₁, hr, hon, -⟩ := h.perform c
    obtain ⟨files₂, text₂, hst₂, hup₂⟩ := ih hon.stands
    rw [Errand.performAll, attempts, hr]
    refine ⟨files₂, text₂, hst₂, fun i e bytes hi him he hb => ?_⟩
    dsimp only at him ⊢
    cases ht : c.tries l d with
    | false =>
      rw [ht, Bool.toNat_false, Nat.zero_add] at him
      rw [Bool.toNat_false, Nat.zero_add]
      exact hup₂ i e bytes hi him he (((hon.quiet ht).same i e hi (by omega) he).trans hb)
    | true =>
      rw [ht, Bool.toNat_true] at him
      rw [Bool.toNat_true]
      rcases hon.shifted.survives i e bytes hi (by omega) he hb with hb₁ | hb₁
      · obtain ⟨j, hij, hj, hbj⟩ := hup₂ i e bytes hi (by omega) he hb₁
        exact ⟨j, hij, by omega, hbj⟩
      · obtain ⟨j, hij, hj, hbj⟩ := hup₂ (i + 1) e bytes (by omega) (by omega) he hb₁
        exact ⟨j, by omega, by omega, hbj⟩

/-- **Every call of every run turns out so.** Any removal, any rename and any opening of a file may
fail at any time. A line that cannot be written is refused, and nothing is changed. Else it comes
whole behind all that is in the active file; and if an attempt to rotate fails, with a line or
without, all of that text is in the active file, or all of it in slot 1, and nowhere twice. -/
theorem every_call_turns (h : Ready base maxFiles suffixes { d with mishaps := {} })
    (hd : d.mishaps.Writable) {d₀ : Disk}
    (hc : RotatingLog.create base maxSize maxFiles suffixes d = (.ok l, d₀))
    (calls : List Errand) (c : Errand) :
    let before := Errand.performAll calls l d₀
    let e := c.perform before.log before.disk
    Turn base maxFiles before.log before.disk c e.result e.log e.disk := by
  obtain ⟨files, text, hst⟩ := create_stands h hd hc
  obtain ⟨files₁, text₁, hst₁, -⟩ := hst.performAll calls
  obtain ⟨r, l', d', ns, files', text', hr, -, ht⟩ := hst₁.perform c
  dsimp only
  rw [hr]
  exact ht

/-- A disk with an active file and a history that has holes, where some operations are going to
fail. -/
def failing (names : List (Option SystemCause)) : Disk :=
  { holed with mishaps := { names := names } }

theorem ready_failing (names : List (Option SystemCause)) :
    Ready holedBase 2 [".gz"] { failing names with mishaps := {} } := ready_holed

theorem writable_failing (names : List (Option SystemCause)) :
    (failing names).mishaps.Writable := by
  intro a ha
  cases ha

/-- The log that is begun there. -/
def failingLog (maxFiles : Nat) : RotatingLog where
  base := holedBase
  maxSize := 5
  maxFiles := maxFiles
  suffixes := [".gz"]
  writer := some ⟨⟨.file 0, none⟩, []⟩
  size := 2

/-- The active file has been moved into slot 1 when no new one can be opened; the next line opens a
file again. -/
theorem every_call_turns_failing :
    let names := [none, none, none, none, some .busy]
    Ready holedBase 2 [".gz"] { failing (none :: names) with mishaps := {} } ∧
      (failing (none :: names)).mishaps.Writable ∧
      RotatingLog.create holedBase 5 2 [".gz"] (failing (none :: names)) =
        (.ok (failingLog 2), failing names) ∧
      let before := Errand.performAll [.rotate] (failingLog 2) (failing names)
      let e := (Errand.line "f").perform before.log before.disk
      before.log.writer = none ∧ before.disk.read? holedBase = .error (.system .notFound) ∧
        firstText holedBase before.disk = some (octetsOf "ab") ∧
        Turn holedBase 2 before.log before.disk (.line "f") e.result e.log e.disk ∧
        e.result.toOption = some false := by
  intro names
  have hc : RotatingLog.create holedBase 5 2 [".gz"] (failing (none :: names)) =
      (.ok (failingLog 2), failing names) := by decide +kernel
  have hturn := every_call_turns (ready_failing _) (writable_failing _) hc [.rotate] (.line "f")
  refine ⟨ready_failing _, writable_failing _, hc, ?_, ?_, ?_, hturn, ?_⟩
  · decide +kernel
  · decide +kernel
  · decide +kernel
  · decide +kernel

/-- **The history survives attempts to rotate, whether they fail or not.** Each moves a file of the
history up by one slot at most, under its own ending and with the same octets; so after any number
of attempts every file is there that has as many slots above it. -/
theorem history_survives (h : Ready base maxFiles suffixes { d with mishaps := {} })
    (hd : d.mishaps.Writable) {d₀ : Disk}
    (hc : RotatingLog.create base maxSize maxFiles suffixes d = (.ok l, d₀))
    (calls more : List Errand) :
    let before := Errand.performAll calls l d₀
    let done := Errand.performAll more before.log before.disk
    let k := attempts more before.log before.disk
    ∀ i e bytes, 1 ≤ i → i + k ≤ maxFiles → IsEnding suffixes e →
      before.disk.read? (slotPath base i e) = .ok bytes →
      ∃ j, i ≤ j ∧ j ≤ i + k ∧
        done.disk.read? (slotPath base j e) = .ok bytes := by
  obtain ⟨files, text, hst⟩ := create_stands h hd hc
  obtain ⟨files₁, text₁, hst₁, -⟩ := hst.performAll calls
  obtain ⟨files₂, text₂, hst₂, hup⟩ := hst₁.performAll more
  intro before done k i e bytes hi him he hb
  rw [read?_slot_iff hst₁.placed hi (by omega) he] at hb
  obtain ⟨j, hij, hj, hbj⟩ := hup i e bytes hi him he hb
  have hjm : j ≤ maxFiles := Nat.le_trans hj him
  exact ⟨j, hij, hj, (read?_slot_iff hst₂.placed (Nat.le_trans hi hij) hjm he).mpr hbj⟩

/-- The active file cannot be moved, and the only file of the history is in the slot above. A line
is refused then, for no file can be opened; that is not an attempt. -/
theorem history_survives_failing :
    let names := [none, none, none, some .busy, none, some .busy, some .busy]
    let calls := [Errand.rotate, .line "c"]
    Ready holedBase 2 [".gz"] { failing (none :: names) with mishaps := {} } ∧
      (failing (none :: names)).mishaps.Writable ∧
      RotatingLog.create holedBase 5 2 [".gz"] (failing (none :: names)) =
        (.ok (failingLog 2), failing names) ∧
      let done := Errand.performAll calls (failingLog 2) (failing names)
      done.answers.map (fun a => a.1.toOption) = [none, none] ∧
        attempts calls (failingLog 2) (failing names) = 1 ∧
        (failing names).read? (slotPath holedBase 1 ".gz") = .ok (octetsOf "old") ∧
        ∃ j, 1 ≤ j ∧ j ≤ 2 ∧
          done.disk.read? (slotPath holedBase j ".gz") = .ok (octetsOf "old") := by
  intro names calls
  have hc : RotatingLog.create holedBase 5 2 [".gz"] (failing (none :: names)) =
      (.ok (failingLog 2), failing names) := by decide +kernel
  have hcount : attempts calls (failingLog 2) (failing names) = 1 := by decide +kernel
  have hold : (failing names).read? (slotPath holedBase 1 ".gz") = .ok (octetsOf "old") := rfl
  refine ⟨ready_failing _, writable_failing _, hc, ?_, hcount, hold, ?_⟩
  · decide +kernel
  · have hroom : 1 + attempts calls (failingLog 2) (failing names) ≤ 2 := by omega
    have hup := history_survives (ready_failing _) (writable_failing _) hc [] calls 1 ".gz"
      (octetsOf "old") (by decide) hroom (.inr List.mem_cons_self) hold
    rw [Errand.performAll, hcount] at hup
    exact hup

/-- **The oldest slot is given up before anything is moved**: with one slot its file is lost to an
attempt that fails when the active file is to be moved. -/
theorem oldest_lost :
    let names := [none, none, some .busy, none, some .busy]
    RotatingLog.create holedBase 5 1 [".gz"] (failing (none :: names)) =
        (.ok (failingLog 1), failing names) ∧
      (failing names).read? (slotPath holedBase 1 ".gz") = .ok (octetsOf "old") ∧
      ((failingLog 1).rotate (failing names)).1.toOption = none ∧
      let d := ((failingLog 1).rotate (failing names)).2.2
      d.read? (slotPath holedBase 1 ".gz") = .error (.system .notFound) ∧
        d.read? (slotPath holedBase 2 ".gz") = .error (.system .notFound) := by
  intro names
  refine ⟨?_, ?_, ?_, ?_, ?_⟩
  · decide +kernel
  · decide +kernel
  · decide +kernel
  · decide +kernel
  · decide +kernel

end Logworks.Rotation
