import Logworks.Proofs.Disk.Elsewhere
import Logworks.Proofs.Rotation.Refinement
import Logworks.Proofs.Rotation.Survival

/-!
# A log goes on where a rotation failed

Any removal, any rename and any opening of a file may fail, whatever is asked of the log; what is
written to an open file is taken. This file fixes

* `Stands` -- **the active file, with what the writer gathered behind it, is a text**, or the log
  has no writer and the file is the text alone, if it is there at all;
* `Carried`, `Shifted` -- slots hold what they held, or it has moved up by one;
* `Stands.rotate` -- **a rotation that fails leaves the text in the active file, or in slot 1**;
* `Stands.reopen` -- the file is opened again, or nothing is changed.
-/

namespace Logworks.Rotation

open Logworks.Disk Logworks.Text

variable {base : Path} {maxSize maxFiles : Nat} {suffixes : List String} {place : Path → Place}
  {files : Path → Option Nat} {text : Octets} {l : RotatingLog} {d d' : Disk}

/-! ## 1. What stands -/

/-- What the file of the active path holds; nothing, if it is not there. -/
def activeAt (base : Path) (files : Path → Option Nat) (d : Disk) : Octets :=
  ((files base).map d.octetsOf).getD []

/-- What a slot holds under an ending. -/
def heldAt (base : Path) (files : Path → Option Nat) (d : Disk) (i : Nat) (e : String) :
    Option Octets :=
  (files (slotPath base i e)).map d.octetsOf

/-- The active text, given the writer. -/
def Reads (base : Path) (files : Path → Option Nat) (text : Octets) (d : Disk) :
    Option Writer → Prop
  | some w => ∃ n, files base = some n ∧ w.Holds n text d
  | none => activeAt base files d = text

/-- **A log stands on its disk with an active text**, whether it has a writer or not. -/
structure Stands (base : Path) (maxSize maxFiles : Nat) (suffixes : List String)
    (place : Path → Place) (files : Path → Option Nat) (text : Octets) (l : RotatingLog)
    (d : Disk) : Prop where
  terms : HasTerms base maxSize maxFiles suffixes l
  sound : Sound base suffixes
  placed : Placed (IsOwn base maxFiles suffixes) place files d
  writable : d.mishaps.Writable
  reads : Reads base files text d l.writer

/-- The log may go on here, and slots hold what they held. -/
structure Carried (base : Path) (maxFiles : Nat) (suffixes : List String) (place : Path → Place)
    (files files' : Path → Option Nat) (d d' : Disk) : Prop where
  placed : Placed (IsOwn base maxFiles suffixes) place files' d'
  writable : d'.mishaps.Writable
  within : Within (IsOwn base maxFiles suffixes) place d d'
  spared : Spared (IsOwn base maxFiles suffixes) (· = base) place d d'
  same : ∀ i e, 1 ≤ i → i ≤ maxFiles → IsEnding suffixes e →
    heldAt base files' d' i e = heldAt base files d i e

theorem Carried.refl (h : Placed (IsOwn base maxFiles suffixes) place files d)
    (hw : d.mishaps.Writable) : Carried base maxFiles suffixes place files files d d where
  placed := h
  writable := hw
  within _ _ := rfl
  spared := .refl _ _ _ _
  same _ _ _ _ _ := rfl

theorem Carried.trans {files₁ files' : Path → Option Nat} {d₁ : Disk}
    (h : Carried base maxFiles suffixes place files files₁ d d₁)
    (h' : Carried base maxFiles suffixes place files₁ files' d₁ d') :
    Carried base maxFiles suffixes place files files' d d' where
  placed := h'.placed
  writable := h'.writable
  within o ho := (h'.within o ho).trans (h.within o ho)
  spared := h.spared.trans h'.spared
  same i e hi him he := (h'.same i e hi him he).trans (h.same i e hi him he)

/-- Slots hold the same as long as their files do. -/
theorem heldAt_congr {files' : Path → Option Nat} {i : Nat} {e : String}
    (hf : files' (slotPath base i e) = files (slotPath base i e))
    (ho : ∀ k, files (slotPath base i e) = some k → d'.octetsOf k = d.octetsOf k) :
    heldAt base files' d' i e = heldAt base files d i e := by
  rw [heldAt, heldAt, hf]
  cases hk : files (slotPath base i e) with
  | none => rfl
  | some k => exact congrArg some (ho k hk)

/-- Only the active file was written to. -/
theorem carried_of_touches (hs : Sound base suffixes)
    (h : Placed (IsOwn base maxFiles suffixes) place files d) (hw : d.mishaps.Writable) {n : Nat}
    (hn : files base = some n) (ht : Touches n d d') :
    Carried base maxFiles suffixes place files files d d' where
  placed := h.refilled ht.entries ht.length
  writable := ht.writable hw
  within o _ := entry?_congr ht.entries o
  spared := spared_of_touches h .active rfl hn ht
  same i e hi him he := by
    refine heldAt_congr rfl fun k hk => ht.others k ?_
    rintro rfl
    exact hs.slotPath_ne he (h.single _ _ k (.slot i e hi him he) .active hk hn)

/-- The active file was opened. -/
theorem carried_of_opened (hs : Sound base suffixes)
    (h : Placed (IsOwn base maxFiles suffixes) place files d) (hw : d'.mishaps.Writable) {n : Nat}
    (ho : Opened (IsOwn base maxFiles suffixes) place files base n d d') :
    Carried base maxFiles suffixes place files (Function.update files base (some n)) d d' where
  placed := ho.placed
  writable := hw
  within := ho.within
  spared := spared_of_opened h .active ho
  same i e hi him he := heldAt_congr (Function.update_of_ne (hs.slotPath_ne he) _ _) fun _ hk =>
    ho.octetsOf_other h (.slot i e hi him he) (hs.slotPath_ne he) hk

/-- What the writer gathered is in the file, and the writer is given up. -/
theorem Stands.finish (h : Stands base maxSize maxFiles suffixes place files text l d) :
    ∃ d', (RotatingLog.finish l.writer).run d = (.ok (), d') ∧
      Carried base maxFiles suffixes place files files d d' ∧ activeAt base files d' = text := by
  have hreads := h.reads
  cases hw : l.writer with
  | none =>
    rw [hw] at hreads
    exact ⟨d, rfl, .refl h.placed h.writable, hreads⟩
  | some w =>
    rw [hw] at hreads
    obtain ⟨n, hn, hholds⟩ := hreads
    obtain ⟨w', d', hf, hholds', hnil, ht⟩ := hholds.flush h.writable
    refine ⟨d', ?_, carried_of_touches h.sound h.placed h.writable hn ht, ?_⟩
    · show RotatingLog.finish (some w) d = _
      rw [RotatingLog.finish, hf]
    · rw [activeAt, hn, ← hholds'.whole, hnil, List.append_nil]
      rfl

/-! ## 2. A rotation -/

/-- **What slots hold has moved up by one, or has not moved**; and the log may go on here. -/
structure Shifted (base : Path) (maxFiles : Nat) (suffixes : List String) (place : Path → Place)
    (files files' : Path → Option Nat) (d d' : Disk) : Prop where
  placed : Placed (IsOwn base maxFiles suffixes) place files' d'
  writable : d'.mishaps.Writable
  within : Within (IsOwn base maxFiles suffixes) place d d'
  spared : Spared (IsOwn base maxFiles suffixes) (· = base) place d d'
  survives : ∀ i e bytes, 1 ≤ i → i < maxFiles → IsEnding suffixes e →
    heldAt base files d i e = some bytes →
      heldAt base files' d' i e = some bytes ∨ heldAt base files' d' (i + 1) e = some bytes

theorem Carried.shifted {files' : Path → Option Nat}
    (h : Carried base maxFiles suffixes place files files' d d') :
    Shifted base maxFiles suffixes place files files' d d' where
  placed := h.placed
  writable := h.writable
  within := h.within
  spared := h.spared
  survives i e bytes hi him he hb := .inl ((h.same i e hi (by omega) he).trans hb)

/-- Nothing moves before a shift or behind it. -/
theorem Shifted.between {files₁ files₂ files' : Path → Option Nat} {d₁ d₂ : Disk}
    (h : Shifted base maxFiles suffixes place files₁ files₂ d₁ d₂)
    (hbefore : Carried base maxFiles suffixes place files files₁ d d₁)
    (hbehind : Carried base maxFiles suffixes place files₂ files' d₂ d') :
    Shifted base maxFiles suffixes place files files' d d' where
  placed := hbehind.placed
  writable := hbehind.writable
  within o ho := ((hbehind.within o ho).trans (h.within o ho)).trans (hbefore.within o ho)
  spared := (hbefore.spared.trans h.spared).trans hbehind.spared
  survives i e bytes hi him he hb := by
    rw [hbehind.same i e hi (by omega) he, hbehind.same (i + 1) e (by omega) him he]
    exact h.survives i e bytes hi him he ((hbefore.same i e hi (by omega) he).trans hb)

/-- The plain file in slot 1 is what it was, or gone. -/
def FirstCleared (base : Path) (files files' : Path → Option Nat) (d d' : Disk) : Prop :=
  heldAt base files' d' 1 "" = heldAt base files d 1 "" ∨ heldAt base files' d' 1 "" = none

/-- **What a rotation that failed leaves**: the text is where it was, or in slot 1. -/
def Stopped (base : Path) (maxFiles : Nat) (files files' : Path → Option Nat) (text : Octets)
    (d d' : Disk) : Prop :=
  (activeAt base files' d' = text ∧ (1 ≤ maxFiles → FirstCleared base files files' d d')) ∨
    (1 ≤ maxFiles ∧ activeAt base files' d' = [] ∧ heldAt base files' d' 1 "" = some text)

/-- So it is as long as neither the active file nor slot 1 changes. -/
theorem Stopped.carried {files₁ files₂ : Path → Option Nat} {d₁ d₂ : Disk}
    (h : Stopped base maxFiles files files₁ text d d₁)
    (hc : Carried base maxFiles suffixes place files₁ files₂ d₁ d₂)
    (ha : activeAt base files₂ d₂ = activeAt base files₁ d₁) :
    Stopped base maxFiles files files₂ text d d₂ := by
  have hone := fun hm => hc.same 1 "" (Nat.le_refl 1) hm (.inl rfl)
  rcases h with ⟨ht, hf⟩ | ⟨hm, ht, hf⟩
  · refine .inl ⟨ha.trans ht, fun hm => ?_⟩
    rw [FirstCleared, hone hm]
    exact hf hm
  · exact .inr ⟨hm, ha.trans ht, (hone hm).trans hf⟩

/-- What one that succeeded leaves: an empty file, and the text in slot 1. -/
def Begun (base : Path) (maxFiles : Nat) (files' : Path → Option Nat) (text : Octets) (n : Nat)
    (d' : Disk) : Prop :=
  files' base = some n ∧ d'.octetsOf n = [] ∧
    (1 ≤ maxFiles → heldAt base files' d' 1 "" = some text)

/-- Nothing but a beginning. -/
theorem carried_begun (h : Placed (IsOwn base maxFiles suffixes) place files d)
    (hw : d.mishaps.Writable) : Carried base maxFiles suffixes place files files d d.begun where
  placed := h.begun
  writable := hw
  within _ _ := rfl
  spared := h.rearranged_begun.spared h fun _ hp => ⟨hp ▸ .active, .inr rfl⟩
  same _ _ _ _ _ := rfl

/-- A new active file, or nothing is changed. -/
theorem openFresh_carried (hs : Sound base suffixes)
    (h : Placed (IsOwn base maxFiles suffixes) place files d) (hw : d.mishaps.Writable) :
    (∃ c, (openFresh base).run d = (.error c, d.begun)) ∨
      ∃ n d' files', (openFresh base).run d = (.ok ⟨.file n, some 0⟩, d') ∧
        Carried base maxFiles suffixes place files files' d d' ∧ files' base = some n ∧
        d'.octetsOf n = [] := by
  refine (h.openFresh_cases .active).imp_right ?_
  rintro ⟨n, d', hr, ho, hm, hnil⟩
  have hw' : d'.mishaps.Writable := by
    rw [hm]
    exact hw
  exact ⟨n, d', _, hr, carried_of_opened hs h hw' ho, Function.update_self _ _ _, hnil⟩

theorem stage_run_error {α : Type} (l : RotatingLog) (words : String) {w : Work α} {c : Cause}
    (h : w.run d = (.error c, d')) :
    (l.stage words w).run d =
      (.error (.rotation l.base.toString (words ++ ": " ++ c.message)), d') := by
  show (match w.run d with | (r, e) => (r.mapError _, e)) = _
  rw [h]
  rfl

/-- **The active file goes into the history**, and the history survives that. -/
theorem retire_shifted (hl : HasTerms base maxSize maxFiles suffixes l)
    (hs : Sound base suffixes) (h : Placed (IsOwn base maxFiles suffixes) place files d)
    (hw : d.mishaps.Writable) (hm : 1 ≤ maxFiles) (ha : activeAt base files d = text) :
    ∃ r d' files', l.retire.run d = (r, d') ∧
      Shifted base maxFiles suffixes place files files' d d' ∧
      ((∃ f, r = .error f) ∧ activeAt base files' d' = text ∧ FirstCleared base files files' d d' ∨
        r = .ok () ∧ files' base = none ∧ heldAt base files' d' 1 "" = some text) := by
  obtain ⟨rfl, -, rfl, rfl⟩ := hl
  obtain ⟨files', hre, hup, hh⟩ := leaves_retire l hs h hm
  have hheld : ∀ {i : Nat} {e : String} {k : Nat}, files' (slotPath l.base i e) = some k →
      heldAt l.base files' (l.retire.run d).2 i e = some (d.octetsOf k) := by
    intro i e k hk
    rw [heldAt, hk, Option.map_some, hre.octetsOf]
  refine ⟨(l.retire.run d).1, (l.retire.run d).2, files', rfl, ⟨hre.placed, ?_, hre.within,
    hre.spared h ?_, fun i e bytes hi him he hb => ?_⟩, ?_⟩
  · intro a ha
    exact hw a (hre.writes ▸ ha)
  · rintro _ rfl
    rcases hh with ⟨-, hb, -⟩ | ⟨-, hb, -⟩
    · exact ⟨.active, .inr hb⟩
    · exact ⟨.active, .inl hb⟩
  · obtain ⟨k, hk, rfl⟩ := Option.map_eq_some_iff.mp hb
    exact (hup i e hi him he k hk).imp hheld hheld
  · rcases hh with ⟨hr, hb, hone⟩ | ⟨hr, hb, hsome, hone⟩
    · refine .inl ⟨?_, ?_, ?_⟩
      · rcases hrun : (l.retire.run d).1 with f | u
        · exact ⟨f, rfl⟩
        · rw [hrun] at hr
          cases hr
      · rw [activeAt, hb, ← ha, activeAt]
        cases files l.base with
        | none => rfl
        | some k => exact hre.octetsOf k
      · rcases hone with he | he
        · exact .inl (heldAt_congr he fun k _ => hre.octetsOf k)
        · exact .inr (by rw [heldAt, he, Option.map_none])
    · refine .inr ⟨?_, hb, ?_⟩
      · rcases hrun : (l.retire.run d).1 with f | u
        · rw [hrun] at hr
          cases hr
        · rfl
      · obtain ⟨k, hk⟩ := Option.ne_none_iff_exists'.mp hsome
        rw [hheld (hone.trans hk), ← ha, activeAt, hk]
        rfl

/-- **The text goes into slot 1 and a new file is begun**, or it is left in one of the two. -/
theorem Stands.renew (h : Stands base maxSize maxFiles suffixes place files text l d) :
    ∃ r d' files', l.renew.run d = (r, d') ∧
      Shifted base maxFiles suffixes place files files' d d' ∧
      ((∃ f, r = .error f) ∧ Stopped base maxFiles files files' text d d' ∨
        ∃ n, r = .ok ⟨.file n, some 0⟩ ∧ Begun base maxFiles files' text n d') := by
  obtain ⟨d₁, hr₁, hc₁, ha₁⟩ := h.finish
  have hl := h.terms
  have hs := h.sound
  obtain ⟨rfl, -, rfl, rfl⟩ := h.terms
  have hrun : l.renew.run d =
      (if 0 < l.maxFiles then
          l.retire >>= fun _ => l.stage "Failed to create new log file" (openFresh l.base)
        else l.stage "Failed to create new log file" (openFresh l.base)).run d₁ := by
    unfold RotatingLog.renew
    rw [run_bind_ok (stage_run l _ hr₁)]
  by_cases hm : 0 < l.maxFiles
  · obtain ⟨r₂, d₂, files₂, hr₂, hsh, ⟨⟨f, rfl⟩, ha₂, hone⟩ | ⟨rfl, hb₂, hone⟩⟩ :=
      retire_shifted hl hs hc₁.placed hc₁.writable hm ha₁
    · refine ⟨_, d₂, files₂, ?_, hsh.between hc₁ (.refl hsh.placed hsh.writable),
        .inl ⟨⟨f, rfl⟩, .inl ⟨ha₂, fun _ => ?_⟩⟩⟩
      · rw [hrun, if_pos hm]
        exact run_bind_error hr₂
      · rw [FirstCleared, ← hc₁.same 1 "" (Nat.le_refl 1) hm (.inl rfl)]
        exact hone
    · have hrun₂ : l.renew.run d =
          (l.stage "Failed to create new log file" (openFresh l.base)).run d₂ := by
        rw [hrun, if_pos hm]
        exact run_bind_ok hr₂
      rcases openFresh_carried hs hsh.placed hsh.writable with
        ⟨c, hr₃⟩ | ⟨n, d₃, files₃, hr₃, hc₃, hn, hnil⟩
      · refine ⟨_, _, files₂, hrun₂.trans (stage_run_error l _ hr₃),
          hsh.between hc₁ (carried_begun hsh.placed hsh.writable),
          .inl ⟨⟨_, rfl⟩, .inr ⟨hm, ?_, hone⟩⟩⟩
        rw [activeAt, hb₂]
        rfl
      · refine ⟨_, d₃, files₃, hrun₂.trans (stage_run l _ hr₃), hsh.between hc₁ hc₃,
          .inr ⟨n, rfl, hn, hnil, fun _ => ?_⟩⟩
        exact (hc₃.same 1 "" (Nat.le_refl 1) hm (.inl rfl)).trans hone
  · -- without slots the active file is emptied where it is
    rw [if_neg hm] at hrun
    rcases openFresh_carried hs hc₁.placed hc₁.writable with
      ⟨c, hr₃⟩ | ⟨n, d₃, files₃, hr₃, hc₃, hn, hnil⟩
    · exact ⟨_, _, files, hrun.trans (stage_run_error l _ hr₃),
        (hc₁.trans (carried_begun hc₁.placed hc₁.writable)).shifted,
        .inl ⟨⟨_, rfl⟩, .inl ⟨ha₁, fun hm' => absurd hm' hm⟩⟩⟩
    · exact ⟨_, d₃, files₃, hrun.trans (stage_run l _ hr₃), (hc₁.trans hc₃).shifted,
        .inr ⟨n, rfl, hn, hnil, fun hm' => absurd hm' hm⟩⟩

/-- **A rotation begins a new file, with the text in slot 1, or fails and leaves the text**; and
then the log has no writer. -/
theorem Stands.rotate (h : Stands base maxSize maxFiles suffixes place files text l d) :
    ∃ r l' d' files', l.rotate d = (r, l', d') ∧
      Shifted base maxFiles suffixes place files files' d d' ∧
      ((∃ f, r = .error f) ∧ l'.writer = none ∧ Stopped base maxFiles files files' text d d' ∧
          Stands base maxSize maxFiles suffixes place files' (activeAt base files' d') l' d' ∨
        r = .ok () ∧ (∃ w, l'.writer = some w ∧ w.pending = []) ∧
          (1 ≤ maxFiles → heldAt base files' d' 1 "" = some text) ∧
          Stands base maxSize maxFiles suffixes place files' [] l' d') := by
  obtain ⟨r, d', files', hr, hsh, ⟨⟨f, rfl⟩, hstop⟩ | ⟨n, rfl, hn, hnil, hone⟩⟩ := h.renew
  · refine ⟨_, { l with writer := none }, d', files', ?_, hsh, .inl ⟨⟨f, rfl⟩, rfl, hstop,
      ⟨h.terms.base, h.terms.maxSize, h.terms.maxFiles, h.terms.suffixes⟩, h.sound, hsh.placed,
      hsh.writable, rfl⟩⟩
    rw [RotatingLog.rotate, hr]
  · refine ⟨.ok (), { l with
        writer := some ⟨⟨.file n, some 0⟩, []⟩
        size := 0
        rotations := l.rotations + 1 }, d', files', ?_, hsh, .inr ⟨rfl, ⟨_, rfl, rfl⟩, hone,
      ⟨h.terms.base, h.terms.maxSize, h.terms.maxFiles, h.terms.suffixes⟩, h.sound, hsh.placed,
      hsh.writable, n, hn, ⟨rfl, hsh.placed.filed base n .active hn, .inr ?_⟩, ?_⟩⟩
    · rw [RotatingLog.rotate, hr]
    · rw [hnil]
      rfl
    · rw [hnil]
      rfl

/-- The file is opened again for more lines, or nothing is changed. -/
theorem Stands.reopen (h : Stands base maxSize maxFiles suffixes place files text l d)
    (hw : l.writer = none) :
    (∃ f, l.reopen d = (.error f, l, d.begun)) ∨
      ∃ w l' d' files', l.reopen d = (.ok (), l', d') ∧ l'.writer = some w ∧ w.pending = [] ∧
        Carried base maxFiles suffixes place files files' d d' ∧
        activeAt base files' d' = text ∧
        Stands base maxSize maxFiles suffixes place files' text l' d' := by
  have hreads := h.reads
  rw [hw] at hreads
  have hb := h.terms.base
  rcases h.placed.openAppend_cases .active with ⟨c, hr⟩ | ⟨n, d', hr, ho, hmis, hoct⟩
  · refine .inl ⟨.operation "reopening log file"
      ("cannot reopen '" ++ l.base.toString ++ "'") c, ?_⟩
    have hres : (RotatingLog.resume base).run d = (.error c, d.begun) := run_bind_error hr
    rw [RotatingLog.reopen, hw, hb]
    dsimp only
    rw [hres]
  · have hres : (RotatingLog.resume base).run d =
        (.ok (⟨⟨.file n, none⟩, []⟩, (d'.octetsOf n).length), d') := run_bind_ok hr
    have hcar := carried_of_opened h.sound h.placed (by rw [hmis]; exact h.writable) ho
    have hn : Function.update files base (some n) base = some n := Function.update_self _ _ _
    have htext : d'.octetsOf n = text := hoct.trans hreads
    refine .inr ⟨⟨⟨.file n, none⟩, []⟩, { l with
        writer := some ⟨⟨.file n, none⟩, []⟩
        size := (d'.octetsOf n).length }, d', _, ?_, rfl, rfl, hcar, ?_,
      ⟨h.terms.base, h.terms.maxSize, h.terms.maxFiles, h.terms.suffixes⟩, h.sound, hcar.placed,
      hcar.writable, n, hn, ⟨rfl, hcar.placed.filed base n .active hn, .inl rfl⟩, ?_⟩
    · rw [RotatingLog.reopen, hw, hb]
      dsimp only
      rw [hres]
    · rw [activeAt, hn]
      exact htext
    · rw [htext]
      exact List.append_nil text

end Logworks.Rotation
