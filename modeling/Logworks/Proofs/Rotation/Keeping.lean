import Logworks.Proofs.Rotation.Shelf
import Logworks.Proofs.Rotation.Shifting

/-!
# A log keeps its shelf

Each call of a log, as what it does to the shelf. No operation on a file is going to fail. This
file fixes

* `Keeps` -- **a log with its disk keeps a shelf**: the file of the active path, with what the
  writer gathered behind it, is the active text; the files of slots are what the slots hold;
* `rotate_keeps`, `writeLine_keeps`, `flush_keeps` -- each call succeeds and takes the shelf to what
  `Shelf.after` says;
* `perform_keeps` -- the same for any call, with its answer.
-/

namespace Logworks.Rotation

open Logworks.Disk Logworks.Text

variable {base : Path} {maxSize maxFiles : Nat} {suffixes : List String} {place : Path → Place}
  {files : Path → Option Nat} {s : Shelf} {l : RotatingLog} {d d' : Disk} {n : Nat}

/-! ## 1. What is kept -/

/-- The log has these terms. -/
structure HasTerms (base : Path) (maxSize maxFiles : Nat) (suffixes : List String)
    (l : RotatingLog) : Prop where
  base : l.base = base
  maxSize : l.maxSize = maxSize
  maxFiles : l.maxFiles = maxFiles
  suffixes : l.suffixes = suffixes

/-- The files of slots are what the slots hold. -/
def Fills (base : Path) (maxFiles : Nat) (suffixes : List String) (files : Path → Option Nat)
    (d : Disk) (held : Nat → String → Option Octets) : Prop :=
  ∀ i e, 1 ≤ i → i ≤ maxFiles → IsEnding suffixes e →
    (files (slotPath base i e)).map d.octetsOf = held i e

/-- **The log with its disk keeps the shelf.** -/
structure Keeps (base : Path) (maxSize maxFiles : Nat) (suffixes : List String)
    (place : Path → Place) (files : Path → Option Nat) (s : Shelf) (l : RotatingLog) (d : Disk) :
    Prop where
  terms : HasTerms base maxSize maxFiles suffixes l
  racked : Racked base maxFiles suffixes place files d
  writer : ∃ w n, l.writer = some w ∧ files base = some n ∧ w.Holds n s.active d
  held : Fills base maxFiles suffixes files d s.held
  size : l.size = s.active.length

/-- The file of the active path is that of no slot. -/
theorem Racked.ne_of_slot (h : Racked base maxFiles suffixes place files d)
    (hn : files base = some n) {i : Nat} {e : String} (hi : 1 ≤ i) (him : i ≤ maxFiles)
    (he : IsEnding suffixes e) : files (slotPath base i e) ≠ some n := fun hk =>
  h.sound.slotPath_ne he (h.kept.single _ _ n (.slot i e hi him he) .active hk hn)

/-- Slots hold the same as long as their files do. -/
theorem Fills.congr {files' : Path → Option Nat} {held : Nat → String → Option Octets}
    (h : Fills base maxFiles suffixes files d held)
    (hsame : ∀ i e, 1 ≤ i → i ≤ maxFiles → IsEnding suffixes e →
      files' (slotPath base i e) = files (slotPath base i e) ∧
      ∀ k, files (slotPath base i e) = some k → d'.octetsOf k = d.octetsOf k) :
    Fills base maxFiles suffixes files' d' held := by
  intro i e hi him he
  obtain ⟨hf, ho⟩ := hsame i e hi him he
  rw [hf, ← h i e hi him he]
  cases hk : files (slotPath base i e) with
  | none => rfl
  | some k => exact congrArg some (ho k hk)

/-- Only the active file was written to. -/
theorem Racked.touched (h : Racked base maxFiles suffixes place files d) (ht : Touches n d d') :
    Racked base maxFiles suffixes place files d' where
  sound := h.sound
  kept := ⟨h.kept.refilled ht.entries ht.length, ht.harmless h.kept.harmless⟩

theorem Fills.touched {held : Nat → String → Option Octets}
    (h : Fills base maxFiles suffixes files d held)
    (hr : Racked base maxFiles suffixes place files d) (hn : files base = some n)
    (ht : Touches n d d') : Fills base maxFiles suffixes files d' held := by
  refine h.congr fun i e hi him he => ⟨rfl, fun k hk => ht.others k ?_⟩
  rintro rfl
  exact hr.ne_of_slot hn hi him he hk

/-! ## 2. Flushing -/

theorem flush_keeps (h : Keeps base maxSize maxFiles suffixes place files s l d) :
    ∃ w d', l.flush d = (.ok (), { l with writer := some w }, d') ∧
      Keeps base maxSize maxFiles suffixes place files s { l with writer := some w } d' := by
  obtain ⟨w, n, hw, hn, hholds⟩ := h.writer
  obtain ⟨w', d', hf, hholds', -, ht⟩ := hholds.flush h.racked.kept.harmless.writes
  refine ⟨w', d', ?_, ⟨h.terms.base, h.terms.maxSize, h.terms.maxFiles, h.terms.suffixes⟩,
    h.racked.touched ht, ⟨w', n, rfl, hn, hholds'⟩, h.held.touched h.racked hn ht, h.size⟩
  rw [RotatingLog.flush, hw]
  dsimp only
  rw [hf]

/-! ## 3. Rotating -/

theorem stage_run {α : Type} (l : RotatingLog) (words : String) {w : Work α} {a : α}
    (h : w.run d = (.ok a, d')) : (l.stage words w).run d = (.ok a, d') :=
  run_adapt_ok _ h

/-- What the writer gathered is in the file, and the writer is given up. -/
theorem finish_run (h : Keeps base maxSize maxFiles suffixes place files s l d) :
    ∃ n d', (RotatingLog.finish l.writer).run d = (.ok (), d') ∧ files base = some n ∧
      d'.octetsOf n = s.active ∧ Racked base maxFiles suffixes place files d' ∧
      Fills base maxFiles suffixes files d' s.held := by
  obtain ⟨w, n, hw, hn, hholds⟩ := h.writer
  obtain ⟨w', d', hf, hholds', hnil, ht⟩ := hholds.flush h.racked.kept.harmless.writes
  refine ⟨n, d', ?_, hn, ?_, h.racked.touched ht, h.held.touched h.racked hn ht⟩
  · show RotatingLog.finish l.writer d = _
    rw [hw, RotatingLog.finish, hf]
  · rw [← hholds'.whole, hnil, List.append_nil]

/-- **The history moves up and the active file is slot 1.** -/
theorem retire_run (hl : HasTerms base maxSize maxFiles suffixes l)
    (h : Racked base maxFiles suffixes place files d) (hm : 1 ≤ maxFiles)
    (hn : files base = some n) (hh : Fills base maxFiles suffixes files d s.held)
    (ho : d.octetsOf n = s.active) :
    ∃ d' files', l.retire.run d = (.ok (), d') ∧
      Racked base maxFiles suffixes place files' d' ∧
      Fills base maxFiles suffixes files' d' s.shifted := by
  obtain ⟨rfl, -, rfl, rfl⟩ := hl
  obtain ⟨d₁, files₁, hr₁, h₁, hc₁, hb₁, hs₁⟩ := shiftHistory_run l h hm
  have hne : l.base ≠ slotPath l.base 1 "" := (h.sound.slotPath_ne (.inl rfl)).symm
  rw [hn] at hb₁
  obtain ⟨d₂, hr₂, h₂, hc₂⟩ :=
    h₁.kept.replace .active (.slot 1 "" (Nat.le_refl 1) hm (.inl rfl)) hne hb₁
  refine ⟨d₂, _, ?_, ⟨h.sound, h₂⟩, fun i e hi him he => ?_⟩
  · rw [slotPath_empty] at hr₂
    exact (run_bind_ok (stage_run l _ hr₁)).trans (stage_run l _ hr₂)
  have hoct : d₂.octetsOf = d.octetsOf := by
    funext k
    rw [Disk.octetsOf, Disk.octetsOf, hc₂, hc₁]
  have hnb : slotPath l.base i e ≠ l.base := h.sound.slotPath_ne he
  obtain ⟨hone, hup⟩ := hs₁ e he
  rw [hoct, Placed.moveFile]
  by_cases h1 : i = 1
  · subst h1
    by_cases hee : e = ""
    · rw [hee, if_pos rfl, hb₁, Shelf.shifted, if_pos rfl, Option.map_some, ho]
    · have hns : slotPath l.base 1 e ≠ slotPath l.base 1 "" := fun hp =>
        hee (h.sound.slotPath_inj he (.inl rfl) hp).2
      rw [if_neg hns, if_neg hnb, hone, Shelf.shifted, if_neg hee, Option.map_none]
  · obtain ⟨j, rfl⟩ : ∃ j, i = j + 2 := ⟨i - 2, by omega⟩
    have hns : slotPath l.base (j + 2) e ≠ slotPath l.base 1 "" := fun hp =>
      absurd (h.sound.slotPath_inj he (.inl rfl) hp).1 (by omega)
    rw [if_neg hns, if_neg hnb, hup (j + 1) (by omega) (by omega)]
    exact hh (j + 1) e (by omega) (by omega) he

/-- A new active file is begun, and the slots hold what they held. -/
theorem begin_run (h : Racked base maxFiles suffixes place files d)
    {held : Nat → String → Option Octets} (hh : Fills base maxFiles suffixes files d held) :
    ∃ n d' files', (openFresh base).run d = (.ok ⟨.file n, some 0⟩, d') ∧
      Racked base maxFiles suffixes place files' d' ∧ files' base = some n ∧
      d'.octetsOf n = [] ∧ Fills base maxFiles suffixes files' d' held := by
  obtain ⟨n, d', hr, ho, hharm, hnil⟩ := h.kept.openFresh .active
  refine ⟨n, d', _, hr, ⟨h.sound, ho.placed, hharm⟩, Function.update_self _ _ _, hnil,
    hh.congr fun i e hi him he => ?_⟩
  have hne := h.sound.slotPath_ne (i := i) he
  exact ⟨Function.update_of_ne hne _ _, fun k hk =>
    ho.octetsOf_other h.kept.toPlaced (.slot i e hi him he) hne hk⟩

theorem turned_active (maxFiles : Nat) (s : Shelf) : (s.turned maxFiles).active = [] := by
  unfold Shelf.turned
  split <;> rfl

/-- **The active file goes into the history**, if there is one, and a new one is begun. -/
theorem renew_run (h : Keeps base maxSize maxFiles suffixes place files s l d) :
    ∃ n d' files', l.renew.run d = (.ok ⟨.file n, some 0⟩, d') ∧
      Racked base maxFiles suffixes place files' d' ∧ files' base = some n ∧
      d'.octetsOf n = [] ∧
      Fills base maxFiles suffixes files' d' (s.turned maxFiles).held := by
  obtain ⟨n₀, d₁, hr₁, hn₀, ho₁, h₁, hh₁⟩ := finish_run h
  have hb := h.terms.base
  have hm := h.terms.maxFiles
  by_cases hz : maxFiles = 0
  · obtain ⟨n, d₃, files₃, hr₃, h₃, hn₃, hnil, hh₃⟩ := begin_run h₁ hh₁
    refine ⟨n, d₃, files₃, ?_, h₃, hn₃, hnil, ?_⟩
    · unfold RotatingLog.renew
      rw [run_bind_ok (stage_run l _ hr₁), if_neg (by omega)]
      rw [← hb] at hr₃
      exact stage_run l _ hr₃
    · rw [Shelf.turned, if_pos hz]
      exact hh₃
  · obtain ⟨d₂, files₂, hr₂, h₂, hh₂⟩ :=
      retire_run h.terms h₁ (Nat.one_le_iff_ne_zero.mpr hz) hn₀ hh₁ ho₁
    obtain ⟨n, d₃, files₃, hr₃, h₃, hn₃, hnil, hh₃⟩ := begin_run h₂ hh₂
    refine ⟨n, d₃, files₃, ?_, h₃, hn₃, hnil, ?_⟩
    · unfold RotatingLog.renew
      rw [run_bind_ok (stage_run l _ hr₁), if_pos (by omega), run_bind_ok hr₂]
      rw [← hb] at hr₃
      exact stage_run l _ hr₃
    · rw [Shelf.turned, if_neg hz]
      exact hh₃

/-- **A rotation turns the shelf.** -/
theorem rotate_keeps (h : Keeps base maxSize maxFiles suffixes place files s l d) :
    ∃ l' d' files', l.rotate d = (.ok (), l', d') ∧ l'.rotations = l.rotations + 1 ∧
      Keeps base maxSize maxFiles suffixes place files' (s.turned maxFiles) l' d' := by
  obtain ⟨n, d', files', hr, hracked, hn, hnil, hheld⟩ := renew_run h
  let w : Writer := ⟨⟨.file n, some 0⟩, []⟩
  refine ⟨{ l with writer := some w, size := 0, rotations := l.rotations + 1 }, d', files', ?_, rfl,
    ⟨h.terms.base, h.terms.maxSize, h.terms.maxFiles, h.terms.suffixes⟩, hracked,
    ⟨_, n, rfl, hn, ⟨rfl, hracked.kept.filed base n .active hn, .inr ?_⟩, ?_⟩, hheld, ?_⟩
  · rw [RotatingLog.rotate, hr]
  · rw [hnil]
    rfl
  · rw [hnil, turned_active]
    rfl
  · rw [turned_active]
    rfl

/-! ## 4. Lines -/

/-- A line comes behind the active text; then the log may rotate. -/
theorem appendLine_keeps (h : Keeps base maxSize maxFiles suffixes place files s l d)
    (line : String) :
    ∃ l' d',
      l.writeLine line d =
        (if maxSize ≤ l'.size then l'.rotateAfterLine d' else ⟨.ok false, l', d', []⟩) ∧
      l'.rotations = l.rotations ∧
      Keeps base maxSize maxFiles suffixes place files (s.append (Errand.line line).text)
        l' d' := by
  obtain ⟨w, n, hw, hn, hholds⟩ := h.writer
  obtain ⟨w', d', hwrite, hholds', ht⟩ :=
    hholds.writePieces h.racked.kept.harmless.writes [octetsOf line, [lineFeed]]
  have htext : [octetsOf line, [lineFeed]].flatten = (Errand.line line).text := by
    simp [Errand.text]
  rw [htext] at hholds'
  refine ⟨{ l with writer := some w', size := l.size + (octetsOf line).length + 1 }, d', ?_, rfl,
    ⟨h.terms.base, h.terms.maxSize, h.terms.maxFiles, h.terms.suffixes⟩, h.racked.touched ht,
    ⟨w', n, rfl, hn, hholds'⟩, h.held.touched h.racked hn ht, ?_⟩
  · rw [← h.terms.maxSize, RotatingLog.writeLine, RotatingLog.takeLine, RotatingLog.reopen, hw]
    dsimp only
    rw [hw]
    dsimp only
    rw [RotatingLog.appendLine, hwrite]
  · show l.size + (octetsOf line).length + 1 = (s.active ++ (Errand.line line).text).length
    rw [h.size, List.length_append, Errand.text, List.length_append]
    rfl

/-- **A line comes behind the active text**, and the shelf turns once that is long enough. -/
theorem writeLine_keeps (h : Keeps base maxSize maxFiles suffixes place files s l d)
    (line : String) :
    ∃ l' d' files',
      l.writeLine line d =
        ⟨.ok ((s.append (Errand.line line).text).turns maxSize (.line line)), l', d', []⟩ ∧
      l'.rotations =
        l.rotations + ((s.append (Errand.line line).text).turns maxSize (.line line)).toNat ∧
      Keeps base maxSize maxFiles suffixes place files' (s.after maxSize maxFiles (.line line))
        l' d' := by
  obtain ⟨l₁, d₁, hline, hrot₁, hk₁⟩ := appendLine_keeps h line
  rw [hline, Shelf.after, hk₁.size, ← hrot₁]
  by_cases hfull : maxSize ≤ (s.append (Errand.line line).text).active.length
  · obtain ⟨l₂, d₂, files₂, hr, hrot₂, hk₂⟩ := rotate_keeps hk₁
    have hturns : (s.append (Errand.line line).text).turns maxSize (.line line) = true :=
      decide_eq_true hfull
    rw [if_pos hfull, hturns]
    refine ⟨l₂, d₂, files₂, ?_, hrot₂, hk₂⟩
    rw [RotatingLog.rotateAfterLine, hr]
  · have hturns : (s.append (Errand.line line).text).turns maxSize (.line line) = false :=
      decide_eq_false hfull
    rw [if_neg hfull, hturns]
    exact ⟨l₁, d₁, files, rfl, rfl, hk₁⟩

/-! ## 5. Calls -/

/-- A call of a log; the answer says whether the log rotated. -/
def Errand.perform (c : Errand) (l : RotatingLog) (d : Disk) : RotatingLog.LineEnd :=
  match c with
  | .line text => l.writeLine text d
  | .flush =>
    match l.flush d with
    | (r, l, d) => ⟨r.map fun _ => false, l, d, []⟩
  | .rotate =>
    match l.rotate d with
    | (r, l, d) => ⟨r.map fun _ => true, l, d, []⟩

/-- **Every call succeeds, rotates when it should, and takes the shelf to the next.** -/
theorem perform_keeps (h : Keeps base maxSize maxFiles suffixes place files s l d) (c : Errand) :
    ∃ l' d' files',
      c.perform l d = ⟨.ok ((s.append c.text).turns maxSize c), l', d', []⟩ ∧
      l'.rotations = l.rotations + ((s.append c.text).turns maxSize c).toNat ∧
      Keeps base maxSize maxFiles suffixes place files' (s.after maxSize maxFiles c) l' d' := by
  have hnothing : s.append [] = s := by
    rw [Shelf.append, List.append_nil]
  cases c with
  | line text => exact writeLine_keeps h text
  | flush =>
    obtain ⟨w, d', hf, hk⟩ := flush_keeps h
    refine ⟨{ l with writer := some w }, d', files, ?_, rfl, ?_⟩
    · rw [Errand.perform, hf]
      rfl
    · show Keeps base maxSize maxFiles suffixes place files (s.append []) _ d'
      rw [hnothing]
      exact hk
  | rotate =>
    obtain ⟨l', d', files', hr, hrot, hk⟩ := rotate_keeps h
    refine ⟨l', d', files', ?_, hrot, ?_⟩
    · rw [Errand.perform, hr]
      rfl
    · show Keeps base maxSize maxFiles suffixes place files' ((s.append []).turned maxFiles) l' d'
      rw [hnothing]
      exact hk

end Logworks.Rotation
