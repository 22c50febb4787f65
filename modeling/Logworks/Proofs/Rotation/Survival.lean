import Logworks.Proofs.Disk.Failing
import Logworks.Proofs.Rotation.Shifting

/-!
# A history survives work that fails

The shift of a history may stop at any removal and at any rename. It starts with the oldest slot,
so a file that moves finds its new path free, unless that is the oldest. This file fixes

* `Passed` -- a file is where it was or at the next path, and what comes there is nothing else;
* `leaves_shiftSlot`, `leaves_shiftSlots` -- **wherever the shift stops, each file has moved up by
  one slot or has not moved**;
* `leaves_shiftHistory` -- only a file in the last slot may be gone;
* `leaves_retire` -- and the active file is where it was, or in slot 1.
-/

namespace Logworks.Rotation

open Logworks.Disk

/-! ## 1. One move -/

/-- The file of a path is there yet, or at the next path; where there is none, none is lost. -/
structure Passed (p q : Path) (files files' : Path → Option Nat) : Prop where
  left : files' p = files p ∨ files' p = none
  stays : files p = none → files' q = files q
  passes : ∀ k, files p = some k → files' p = some k ∨ files' q = some k

theorem passed_of_eq {p q : Path} {files files' : Path → Option Nat} (hp : files' p = files p)
    (hq : files' q = files q) : Passed p q files files' where
  left := .inl hp
  stays _ := hq
  passes _ hk := .inl (hp.trans hk)

/-- Moves elsewhere do not matter. -/
theorem Passed.congr {p q : Path} {files files₁ files' : Path → Option Nat}
    (h : Passed p q files₁ files') (hp : files₁ p = files p) (hq : files₁ q = files q) :
    Passed p q files files' where
  left := hp ▸ h.left
  stays hk := (h.stays (hp.trans hk)).trans hq
  passes k hk := h.passes k (hp.trans hk)

/-- What has passed stays where it is. -/
theorem Passed.trans {p q : Path} {files files₁ files' : Path → Option Nat}
    (h : Passed p q files files₁) (hfree : files₁ p = none) (h' : Passed p q files₁ files') :
    Passed p q files files' where
  left := by
    rcases h'.left with he | he
    · exact .inr (he.trans hfree)
    · exact .inr he
  stays hk := (h'.stays hfree).trans (h.stays hk)
  passes k hk := by
    rcases h.passes k hk with he | he
    · rw [hfree] at he
      cases he
    · exact .inr ((h'.stays hfree).trans he)

section Moves

variable {own : Path → Prop} {place : Path → Place} {files : Path → Option Nat} {d : Disk}
  {p q : Path}

theorem leaves_moveIfThere (h : Placed own place files d) (hp : own p) (hq : own q)
    (hpq : p ≠ q) :
    Leaves own place d (RotatingLog.moveIfThere p q) fun r files' =>
      Passed p q files files' ∧ (∀ x, x ≠ p → x ≠ q → files' x = files x) ∧
        (r ≠ none → files' p = none) := by
  have hrun := RotatingLog.run_moveIfThere p q d
  rw [h.hasEntry hp] at hrun
  cases hk : files p with
  | none =>
    rw [hk] at hrun
    exact leaves_of_run hrun (.refl h) ⟨passed_of_eq rfl rfl, fun _ _ _ => rfl, fun _ => hk⟩
  | some k =>
    rw [hk] at hrun
    obtain ⟨files', hre, hh⟩ := h.leaves_replace hp hq hpq
    refine leaves_of_run hrun hre ?_
    rcases hh with ⟨hr, rfl | rfl⟩ | ⟨-, -, rfl⟩
    · exact ⟨passed_of_eq rfl rfl, fun _ _ _ => rfl, fun hne => absurd hr hne⟩
    · refine ⟨⟨.inl (Function.update_of_ne hpq _ _), fun hn => ?_, fun j hj => .inl ?_⟩,
        fun x _ hxq => Function.update_of_ne hxq _ _, fun hne => absurd hr hne⟩
      · rw [hk] at hn
        cases hn
      · rw [Function.update_of_ne hpq, hj]
    · have hgone : Placed.moveFile files p q p = none := by
        rw [Placed.moveFile, if_neg hpq, if_pos rfl]
      have hcome : Placed.moveFile files p q q = files p := if_pos rfl
      refine ⟨⟨.inr hgone, fun hn => ?_, fun j hj => .inr (hcome.trans hj)⟩, fun x hxp hxq => ?_,
        fun _ => hgone⟩
      · rw [hk] at hn
        cases hn
      · rw [Placed.moveFile, if_neg hxq, if_neg hxp]

/-- Files are removed as far as that goes. -/
theorem leaves_removeAll (h : Placed own place files d) (ps : List Path)
    (hps : ∀ p ∈ ps, own p) :
    Leaves own place d (ps.forM removeIfThere) fun _ files' =>
      (∀ x, x ∉ ps → files' x = files x) ∧ ∀ x, files' x = files x ∨ files' x = none := by
  induction ps generalizing d files with
  | nil => exact leaves_pure h _ ⟨fun _ _ => rfl, fun _ => .inl rfl⟩
  | cons p ps ih =>
    have hstep : ∀ {files₁ : Path → Option Nat},
        files₁ = files ∨ files₁ = Function.update files p none →
          ∀ x, (x ≠ p → files₁ x = files x) ∧ (files₁ x = files x ∨ files₁ x = none) := by
      rintro files₁ (rfl | rfl) x
      · exact ⟨fun _ => rfl, .inl rfl⟩
      · by_cases hx : x = p
        · exact ⟨fun hne => absurd hx hne, .inr (hx ▸ Function.update_self _ _ _)⟩
        · have he := Function.update_of_ne hx none files
          exact ⟨fun _ => he, .inl he⟩
    refine (h.leaves_removeIfThere (hps p List.mem_cons_self)).bind ?_ fun files₁ hh =>
      ⟨fun x hx => (hstep hh x).1 (List.ne_of_not_mem_cons hx), fun x => (hstep hh x).2⟩
    intro _ files₁ d₁ h₁ hh₁
    refine (ih h₁ fun q hq => hps q (List.mem_cons_of_mem p hq)).mono fun _ files₂ hh₂ =>
      ⟨fun x hx => ?_, fun x => ?_⟩
    · rw [hh₂.1 x (List.not_mem_of_not_mem_cons hx)]
      exact (hstep hh₁ x).1 (List.ne_of_not_mem_cons hx)
    · rcases hh₂.2 x with he | he
      · rw [he]
        exact (hstep hh₁ x).2
      · exact .inr he

end Moves

/-! ## 2. From slot to slot -/

variable {base : Path} {maxFiles : Nat} {suffixes : List String} {place : Path → Place}
  {files : Path → Option Nat} {d : Disk}

/-- The files of one slot move to the next, under some endings, as far as that goes. -/
theorem leaves_moveEndings (hs : Sound base suffixes)
    (h : Placed (IsOwn base maxFiles suffixes) place files d) {i : Nat} (hi : 1 ≤ i)
    (hn : i + 1 ≤ maxFiles) (endings : List String)
    (hends : ∀ e ∈ endings, IsEnding suffixes e) :
    Leaves (IsOwn base maxFiles suffixes) place d
      ((endings.map fun e => (slotPath base i e, slotPath base (i + 1) e)).forM fun p =>
        RotatingLog.moveIfThere p.1 p.2)
      fun r files' =>
        (∀ e, IsEnding suffixes e →
          Passed (slotPath base i e) (slotPath base (i + 1) e) files files') ∧
        (∀ x, (∀ e, IsEnding suffixes e → x ≠ slotPath base i e ∧ x ≠ slotPath base (i + 1) e) →
          files' x = files x) ∧
        (r ≠ none → ∀ e ∈ endings, files' (slotPath base i e) = none) := by
  induction endings generalizing d files with
  | nil =>
    exact leaves_pure h _ ⟨fun _ _ => passed_of_eq rfl rfl, fun _ _ => rfl, by simp⟩
  | cons e endings ih =>
    have he : IsEnding suffixes e := hends e List.mem_cons_self
    have hne : slotPath base i e ≠ slotPath base (i + 1) e := fun hp =>
      absurd (hs.slotPath_inj he he hp).1 (by omega)
    -- the paths of other endings are others
    have hother : ∀ {a b : Nat} {e' : String}, IsEnding suffixes e' → e' ≠ e →
        slotPath base a e' ≠ slotPath base b e := fun he' hee hp =>
      hee (hs.slotPath_inj he' he hp).2
    have hkeep : ∀ {files₁ : Path → Option Nat},
        (∀ x, x ≠ slotPath base i e → x ≠ slotPath base (i + 1) e → files₁ x = files x) →
        ∀ {a : Nat} {e' : String}, IsEnding suffixes e' → e' ≠ e →
          files₁ (slotPath base a e') = files (slotPath base a e') := fun hstay _ _ he' hee =>
      hstay _ (hother he' hee) (hother he' hee)
    refine (leaves_moveIfThere h (.slot i e hi (by omega) he) (.slot (i + 1) e (by omega) hn he)
      hne).bind ?_ fun files₁ hh => ⟨fun e' he' => ?_, fun x hx => hh.2.1 x (hx e he).1 (hx e he).2,
        fun hr => absurd rfl hr⟩
    · rintro _ files₁ d₁ h₁ ⟨hpass₁, hstay₁, hfree₁⟩
      refine (ih h₁ fun e' h' => hends e' (List.mem_cons_of_mem e h')).mono ?_
      rintro r files₂ ⟨hpass₂, hstay₂, hfree₂⟩
      refine ⟨fun e' he' => ?_, fun x hx => ?_, fun hr e' h' => ?_⟩
      · by_cases hee : e' = e
        · rw [hee]
          exact hpass₁.trans (hfree₁ (by simp)) (hpass₂ e he)
        · exact (hpass₂ e' he').congr (hkeep hstay₁ he' hee) (hkeep hstay₁ he' hee)
      · rw [hstay₂ x hx, hstay₁ x (hx e he).1 (hx e he).2]
      · rcases List.mem_cons.mp h' with rfl | hmem
        · rcases (hpass₂ e' he).left with hl | hl
          · exact hl.trans (hfree₁ (by simp))
          · exact hl
        · exact hfree₂ hr e' hmem
    · by_cases hee : e' = e
      · rw [hee]
        exact hh.1
      · exact passed_of_eq (hkeep hh.2.1 he' hee) (hkeep hh.2.1 he' hee)

/-- **What a slot holds has moved to the next, or has not moved.** -/
theorem leaves_shiftSlot (l : RotatingLog) (hs : Sound l.base l.suffixes)
    (h : Placed (IsOwn l.base l.maxFiles l.suffixes) place files d) {i : Nat} (hi : 1 ≤ i)
    (hn : i + 1 ≤ l.maxFiles) :
    Leaves (IsOwn l.base l.maxFiles l.suffixes) place d (l.shiftSlot i) fun r files' =>
      files' l.base = files l.base ∧
      ∀ e, IsEnding l.suffixes e →
        Passed (slotPath l.base i e) (slotPath l.base (i + 1) e) files files' ∧
        (∀ j, j ≠ i → j ≠ i + 1 → files' (slotPath l.base j e) = files (slotPath l.base j e)) ∧
        (r ≠ none → files' (slotPath l.base i e) = none) := by
  rw [RotatingLog.shiftSlot, slotPaths_eq, slotPaths_eq, List.zip_map']
  refine (leaves_moveEndings hs h hi hn ("" :: l.suffixes) fun e he => mem_endings.mp he).mono ?_
  rintro r files' ⟨hpass, hstay, hfree⟩
  refine ⟨?_, fun e he => ⟨hpass e he, fun j hj hj' => ?_,
    fun hr => hfree hr e (mem_endings.mpr he)⟩⟩
  · exact hstay l.base fun e he => ⟨(hs.slotPath_ne he).symm, (hs.slotPath_ne he).symm⟩
  · exact hstay _ fun e' he' => ⟨fun hp => hj (hs.slotPath_inj he he' hp).1,
      fun hp => hj' (hs.slotPath_inj he he' hp).1⟩

/-- The file of a slot has moved up by one, or has not moved. -/
def Survives (base : Path) (i : Nat) (e : String) (files files' : Path → Option Nat) : Prop :=
  ∀ k, files (slotPath base i e) = some k →
    files' (slotPath base i e) = some k ∨ files' (slotPath base (i + 1) e) = some k

/-- The file in slot 1 is gone or moved on, and nothing else has come there. -/
def Cleared (base : Path) (e : String) (files files' : Path → Option Nat) : Prop :=
  files' (slotPath base 1 e) = files (slotPath base 1 e) ∨ files' (slotPath base 1 e) = none

/-- **Wherever the shift of the slots below `n` stops, their files survive.** -/
theorem leaves_shiftSlots (l : RotatingLog) (n : Nat) (hn : n ≤ l.maxFiles)
    (hs : Sound l.base l.suffixes)
    (h : Placed (IsOwn l.base l.maxFiles l.suffixes) place files d) :
    Leaves (IsOwn l.base l.maxFiles l.suffixes) place d (l.shiftSlots n) fun r files' =>
      files' l.base = files l.base ∧
      ∀ e, IsEnding l.suffixes e →
        (∀ i, 1 ≤ i → i < n → Survives l.base i e files files') ∧
        (∀ i, n < i → files' (slotPath l.base i e) = files (slotPath l.base i e)) ∧
        Cleared l.base e files files' ∧
        (r ≠ none → 2 ≤ n ∨ files (slotPath l.base 1 e) = none →
          files' (slotPath l.base 1 e) = none) := by
  induction n using RotatingLog.shiftSlots.induct generalizing d files with
  | case1 =>
    exact leaves_pure h _ ⟨rfl, fun e _ => ⟨by omega, fun _ _ => rfl, .inl rfl,
      fun _ hone => hone.resolve_left (by omega)⟩⟩
  | case2 =>
    exact leaves_pure h _ ⟨rfl, fun e _ => ⟨by omega, fun _ _ => rfl, .inl rfl,
      fun _ hone => hone.resolve_left (by omega)⟩⟩
  | case3 n ih =>
    rw [RotatingLog.shiftSlots]
    refine (leaves_shiftSlot l hs h (i := n + 1) (by omega) hn).bind ?_ ?_
    · rintro _ files₁ d₁ h₁ ⟨hbase₁, hslot₁⟩
      refine (ih (by omega) h₁).mono ?_
      rintro r files₂ ⟨hbase₂, hslot₂⟩
      refine ⟨hbase₂.trans hbase₁, fun e he => ?_⟩
      obtain ⟨hpass, hstay, hfree⟩ := hslot₁ e he
      obtain ⟨hup, habove, hone, hclear⟩ := hslot₂ e he
      have hgone : files₁ (slotPath l.base (n + 1) e) = none := hfree (by simp)
      refine ⟨fun i hi hin k hk => ?_, fun i hin => ?_, ?_, fun hr _ => hclear hr ?_⟩
      · by_cases hlast : i = n + 1
        · subst hlast
          rcases hpass.passes k hk with he' | he'
          · rw [hgone] at he'
            cases he'
          · exact .inr ((habove (n + 1 + 1) (by omega)).trans he')
        · exact hup i hi (by omega) k ((hstay i hlast (by omega)).trans hk)
      · rw [habove i (by omega), hstay i (by omega) (by omega)]
      · by_cases hz : n = 0
        · subst hz
          exact .inr (hone.elim (fun he' => he'.trans hgone) id)
        · rw [Cleared, ← hstay 1 (by omega) (by omega)]
          exact hone
      · by_cases hz : n = 0
        · subst hz
          exact .inr hgone
        · exact .inl (by omega)
    · rintro files₁ ⟨hbase₁, hslot₁⟩
      refine ⟨hbase₁, fun e he => ?_⟩
      obtain ⟨hpass, hstay, -⟩ := hslot₁ e he
      refine ⟨fun i hi hin k hk => ?_, fun i hin => hstay i (by omega) (by omega), ?_,
        fun hr => absurd rfl hr⟩
      · by_cases hlast : i = n + 1
        · subst hlast
          exact hpass.passes k hk
        · exact .inl ((hstay i hlast (by omega)).trans hk)
      · by_cases hz : n = 0
        · subst hz
          exact hpass.left
        · exact .inl (hstay 1 (by omega) (by omega))

/-- **Only a file in the last slot may be gone**, wherever the shift of the history stops. -/
theorem leaves_shiftHistory (l : RotatingLog) (hs : Sound l.base l.suffixes)
    (h : Placed (IsOwn l.base l.maxFiles l.suffixes) place files d) (hm : 1 ≤ l.maxFiles) :
    Leaves (IsOwn l.base l.maxFiles l.suffixes) place d l.shiftHistory fun r files' =>
      files' l.base = files l.base ∧
      ∀ e, IsEnding l.suffixes e →
        (∀ i, 1 ≤ i → i < l.maxFiles → Survives l.base i e files files') ∧
        Cleared l.base e files files' ∧
        (r ≠ none → 2 ≤ l.maxFiles → files' (slotPath l.base 1 e) = none) := by
  rw [RotatingLog.shiftHistory, slotPaths_eq]
  have howns : ∀ p ∈ ("" :: l.suffixes).map (slotPath l.base l.maxFiles),
      IsOwn l.base l.maxFiles l.suffixes p := by
    intro p hp
    obtain ⟨e, he, rfl⟩ := List.mem_map.mp hp
    exact .slot l.maxFiles e hm (Nat.le_refl _) (mem_endings.mp he)
  have hbase : l.base ∉ ("" :: l.suffixes).map (slotPath l.base l.maxFiles) := by
    intro hmem
    obtain ⟨e, he, hp⟩ := List.mem_map.mp hmem
    exact hs.slotPath_ne (mem_endings.mp he) hp
  have hlower : ∀ {i : Nat} {e : String}, i < l.maxFiles → IsEnding l.suffixes e →
      slotPath l.base i e ∉ ("" :: l.suffixes).map (slotPath l.base l.maxFiles) := by
    intro i e hi he hmem
    obtain ⟨e', he', hp⟩ := List.mem_map.mp hmem
    exact absurd (hs.slotPath_inj (mem_endings.mp he') he hp).1 (by omega)
  refine (leaves_removeAll h _ howns).bind ?_ fun files₁ hh =>
    ⟨hh.1 _ hbase, fun e he => ⟨fun i _ hin k hk => .inl ((hh.1 _ (hlower hin he)).trans hk),
      hh.2 _, fun hr => absurd rfl hr⟩⟩
  rintro _ files₁ d₁ h₁ ⟨hstay₁, hgone₁⟩
  refine (leaves_shiftSlots l l.maxFiles (Nat.le_refl _) hs h₁).mono ?_
  rintro r files₂ ⟨hbase₂, hslot₂⟩
  refine ⟨hbase₂.trans (hstay₁ _ hbase), fun e he => ?_⟩
  obtain ⟨hup, -, hone, hclear⟩ := hslot₂ e he
  refine ⟨fun i hi hin k hk => hup i hi hin k ((hstay₁ _ (hlower hin he)).trans hk), ?_,
    fun hr hm => hclear hr (.inl hm)⟩
  rcases hone with he' | he'
  · rw [Cleared, he']
    exact hgone₁ _
  · exact .inr he'

/-! ## 3. The active file -/

theorem leaves_stage {own : Path → Prop} {α : Type} (l : RotatingLog) (words : String)
    {w : Work α} {holds : Option α → (Path → Option Nat) → Prop}
    (h : Leaves own place d w holds) : Leaves own place d (l.stage words w) holds := by
  obtain ⟨files', hre, hh⟩ := h
  have hrun : (l.stage words w).run d =
      ((w.run d).1.mapError fun c => .rotation l.base.toString (words ++ ": " ++ c.message),
        (w.run d).2) := rfl
  refine leaves_of_run hrun hre ?_
  generalize (w.run d).1 = r at hh ⊢
  cases r <;> exact hh

/-- **The active file is where it was, or in slot 1**, and the history survives. -/
theorem leaves_retire (l : RotatingLog) (hs : Sound l.base l.suffixes)
    (h : Placed (IsOwn l.base l.maxFiles l.suffixes) place files d) (hm : 1 ≤ l.maxFiles) :
    Leaves (IsOwn l.base l.maxFiles l.suffixes) place d l.retire fun r files' =>
      (∀ i e, 1 ≤ i → i < l.maxFiles → IsEnding l.suffixes e → Survives l.base i e files files') ∧
        ((r = none ∧ files' l.base = files l.base ∧ Cleared l.base "" files files') ∨
          (r = some () ∧ files' l.base = none ∧ files l.base ≠ none ∧
            files' (slotPath l.base 1 "") = files l.base)) := by
  have hne : l.base ≠ slotPath l.base 1 "" := (hs.slotPath_ne (.inl rfl)).symm
  rw [RotatingLog.retire, ← slotPath_empty]
  refine (leaves_stage l _ (leaves_shiftHistory l hs h hm)).bind ?_ fun files₁ hh =>
    ⟨fun i e hi hin he => (hh.2 e he).1 i hi hin, .inl ⟨rfl, hh.1, (hh.2 "" (.inl rfl)).2.1⟩⟩
  rintro _ files₁ d₁ h₁ ⟨hbase₁, hslot₁⟩
  obtain ⟨-, hone₁, hclear₁⟩ := hslot₁ "" (.inl rfl)
  refine leaves_stage l _ ((h₁.leaves_replace .active (.slot 1 "" (Nat.le_refl 1) hm (.inl rfl))
    hne).mono fun r files₂ hh => ?_)
  -- what survived the shift is not in the way
  have hstay : (∀ x, x ≠ l.base → x ≠ slotPath l.base 1 "" → files₂ x = files₁ x) →
      ∀ i e, 1 ≤ i → i < l.maxFiles → IsEnding l.suffixes e → Survives l.base i e files files₂ := by
    intro hx i e hi hin he k hk
    have hnext : ∀ j, files₁ (slotPath l.base j e) = some k →
        files₂ (slotPath l.base j e) = some k := by
      intro j hj
      refine (hx _ (hs.slotPath_ne he) fun hp => ?_).trans hj
      rw [hp, hclear₁ (by simp) (by omega)] at hj
      cases hj
    exact ((hslot₁ e he).1 i hi hin k hk).imp (hnext i) (hnext (i + 1))
  rcases hh with ⟨rfl, rfl | rfl⟩ | ⟨rfl, hsome, rfl⟩
  · exact ⟨hstay fun _ _ _ => rfl, .inl ⟨rfl, hbase₁, hone₁⟩⟩
  · exact ⟨hstay fun _ _ hx => Function.update_of_ne hx _ _, .inl ⟨rfl,
      (Function.update_of_ne hne _ _).trans hbase₁, .inr (Function.update_self _ _ _)⟩⟩
  · refine ⟨hstay fun x hxb hxs => ?_, .inr ⟨rfl, ?_, hbase₁ ▸ hsome, ?_⟩⟩
    · rw [Placed.moveFile, if_neg hxs, if_neg hxb]
    · rw [Placed.moveFile, if_neg hne, if_pos rfl]
    · rw [Placed.moveFile, if_pos rfl, hbase₁]

end Logworks.Rotation
