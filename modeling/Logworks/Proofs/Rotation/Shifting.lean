import Logworks.Proofs.Disk.Writing
import Logworks.Proofs.Rotation.SlotPaths

/-!
# Files move up by a slot

The work on the history of a log, as what it does to the files of its paths. This file fixes

* `IsOwn` -- the paths a log works on; `Sound.slotPath_inj` -- they are told apart;
* `Racked` -- they lead to files, or to nothing;
* `shiftSlot_run`, `shiftSlots_run` -- **each file moves to the next slot, under its own ending**,
  the highest first, so that none is lost;
* `shiftHistory_run` -- **only what the last slot held is lost**.
-/

namespace Logworks.Rotation

open Logworks.Disk

/-! ## 1. Paths of a log -/

theorem slotPaths_eq (l : RotatingLog) (i : Nat) :
    l.slotPaths i = ("" :: l.suffixes).map (slotPath l.base i) :=
  variants_slot l.suffixes l.base i

/-- The active file, and those of slots. -/
inductive IsOwn (base : Path) (maxFiles : Nat) (suffixes : List String) : Path → Prop where
  | active : IsOwn base maxFiles suffixes base
  | slot (i : Nat) (e : String) (hi : 1 ≤ i) (hn : i ≤ maxFiles) (he : IsEnding suffixes e) :
      IsOwn base maxFiles suffixes (slotPath base i e)

/-- The path has a name, and what stands behind the names of slots are suffixes. -/
structure Sound (base : Path) (suffixes : List String) : Prop where
  name : ∃ heads m, Path.HasName base heads m
  suffix : ∀ s ∈ suffixes, IsSuffix s

variable {base : Path} {maxFiles : Nat} {suffixes : List String}

/-- A slot's name with something behind it is one name. -/
theorem Sound.one_name (h : Sound base suffixes) (i : Nat) {s : List Char} (hs : '/' ∉ s) :
    '/' ∉ slotName base i ++ s ∧ slotName base i ++ s ≠ [] := by
  obtain ⟨heads, m, hm⟩ := h.name
  have hname := Path.name?_of_hasName hm
  rw [List.mem_append, not_or]
  exact ⟨⟨slash_not_mem_slotName hname (Path.slash_not_mem_name hm) i, hs⟩,
    by simp [slotName_ne_nil hname]⟩

theorem Sound.slash_not_mem (h : Sound base suffixes) (i : Nat) {e : String}
    (he : IsEnding suffixes e) : '/' ∉ slotName base i ++ e.toList :=
  (h.one_name i (he.slash h.suffix)).1

/-- **The paths of slots tell number and ending.** -/
theorem Sound.slotPath_inj (h : Sound base suffixes) {i j : Nat} {e e' : String}
    (he : IsEnding suffixes e) (he' : IsEnding suffixes e')
    (hp : slotPath base i e = slotPath base j e') : i = j ∧ e = e' := by
  obtain ⟨heads, m, hm⟩ := h.name
  exact slotPath_eq_inj (Path.name?_of_hasName hm) (he.dotted h.suffix) (he'.dotted h.suffix) hp

/-- **None of them is that of the active file.** -/
theorem Sound.slotPath_ne (h : Sound base suffixes) {i : Nat} {e : String}
    (he : IsEnding suffixes e) : slotPath base i e ≠ base := by
  obtain ⟨heads, m, hm⟩ := h.name
  exact slotPath_ne_base (Path.name?_of_hasName hm) i (he.dotted h.suffix)

/-! ## 2. One move -/

section Moves

variable {own : Path → Prop} {place : Path → Place} {files : Path → Option Nat} {d : Disk}
  {p q : Path}

/-- **A file moves, if there is one**, and what was at its new path is gone. -/
theorem moveIfThere_run (h : Kept own place files d) (hp : own p) (hq : own q) (hpq : p ≠ q) :
    ∃ d' files', (RotatingLog.moveIfThere p q).run d = (.ok (), d') ∧
      Kept own place files' d' ∧ d'.contents = d.contents ∧
      files' q = (files p).or (files q) ∧ files' p = none ∧
      ∀ r, r ≠ p → r ≠ q → files' r = files r := by
  rw [RotatingLog.run_moveIfThere, h.toPlaced.hasEntry hp]
  cases hk : files p with
  | none => exact ⟨d, files, rfl, h, rfl, rfl, hk, fun _ _ _ => rfl⟩
  | some k =>
    obtain ⟨d', hr, hkept, hc⟩ := h.replace hp hq hpq hk
    refine ⟨d', _, hr, hkept, hc, ?_, ?_, fun r hrp hrq => ?_⟩
    · rw [Placed.moveFile, if_pos rfl, hk]
      rfl
    · rw [Placed.moveFile, if_neg hpq, if_pos rfl]
    · rw [Placed.moveFile, if_neg hrq, if_neg hrp]

/-- Files are removed, those that are there. -/
theorem removeAll_run (h : Kept own place files d) (ps : List Path) (hps : ∀ p ∈ ps, own p) :
    ∃ d' files', (ps.forM removeIfThere).run d = (.ok (), d') ∧ Kept own place files' d' ∧
      d'.contents = d.contents ∧ (∀ p ∈ ps, files' p = none) ∧
      ∀ r, r ∉ ps → files' r = files r := by
  induction ps generalizing d files with
  | nil => exact ⟨d, files, rfl, h, rfl, by simp, fun _ _ => rfl⟩
  | cons p ps ih =>
    obtain ⟨d₁, hr₁, h₁, hc₁⟩ := h.removeIfThere (hps p List.mem_cons_self)
    obtain ⟨d₂, files₂, hr₂, h₂, hc₂, hgone, hstay⟩ :=
      ih h₁ fun q hq => hps q (List.mem_cons_of_mem p hq)
    have hnone : ∀ q, q ∉ ps → files₂ q = if q = p then none else files q := by
      intro q hq
      rw [hstay q hq, Function.update_apply]
    refine ⟨d₂, files₂, (run_bind_ok hr₁).trans hr₂, h₂, hc₂.trans hc₁, fun q hq => ?_,
      fun r hr => ?_⟩
    · by_cases hqs : q ∈ ps
      · exact hgone q hqs
      · obtain rfl : q = p := (List.mem_cons.mp hq).resolve_right hqs
        rw [hnone q hqs, if_pos rfl]
    · rw [List.mem_cons, not_or] at hr
      rw [hnone r hr.2, if_neg hr.1]

end Moves

/-! ## 3. From slot to slot -/

/-- The log works on paths that lead to files, each told from the others. -/
structure Racked (base : Path) (maxFiles : Nat) (suffixes : List String) (place : Path → Place)
    (files : Path → Option Nat) (d : Disk) : Prop where
  sound : Sound base suffixes
  kept : Kept (IsOwn base maxFiles suffixes) place files d

variable {place : Path → Place} {files : Path → Option Nat} {d : Disk}

/-- The files of one slot move to the next, under some endings. -/
theorem moveEndings_run (h : Racked base maxFiles suffixes place files d) {i : Nat} (hi : 1 ≤ i)
    (hn : i + 1 ≤ maxFiles) (endings : List String)
    (hends : ∀ e ∈ endings, IsEnding suffixes e) :
    ∃ d' files',
      ((endings.map fun e => (slotPath base i e, slotPath base (i + 1) e)).forM fun p =>
        RotatingLog.moveIfThere p.1 p.2).run d = (.ok (), d') ∧
      Racked base maxFiles suffixes place files' d' ∧ d'.contents = d.contents ∧
      (∀ e ∈ endings, files' (slotPath base (i + 1) e) =
        (files (slotPath base i e)).or (files (slotPath base (i + 1) e)) ∧
        files' (slotPath base i e) = none) ∧
      ∀ r, (∀ e ∈ endings, r ≠ slotPath base i e ∧ r ≠ slotPath base (i + 1) e) →
        files' r = files r := by
  induction endings generalizing d files with
  | nil => exact ⟨d, files, rfl, h, rfl, by simp, fun _ _ => rfl⟩
  | cons e endings ih =>
    have he : IsEnding suffixes e := hends e List.mem_cons_self
    have hends' : ∀ e' ∈ endings, IsEnding suffixes e' := fun e' h' =>
      hends e' (List.mem_cons_of_mem e h')
    have hne : slotPath base i e ≠ slotPath base (i + 1) e := fun hp =>
      absurd (h.sound.slotPath_inj he he hp).1 (by omega)
    obtain ⟨d₁, files₁, hr₁, h₁, hc₁, hto₁, hfrom₁, hstay₁⟩ :=
      moveIfThere_run h.kept (.slot i e hi (by omega) he) (.slot (i + 1) e (by omega) hn he) hne
    obtain ⟨d₂, files₂, hr₂, h₂, hc₂, hmove₂, hstay₂⟩ := ih ⟨h.sound, h₁⟩ hends'
    -- the paths of other endings are others
    have hother : ∀ {a b : Nat} {e' : String}, IsEnding suffixes e' → e' ≠ e →
        slotPath base a e' ≠ slotPath base b e := fun he' hee hp =>
      hee (h.sound.slotPath_inj he' he hp).2
    refine ⟨d₂, files₂, (run_bind_ok hr₁).trans hr₂, h₂, hc₂.trans hc₁, fun e' h' => ?_,
      fun r hr => ?_⟩
    · have he' := hends e' h'
      by_cases hmem : e' ∈ endings
      · obtain ⟨hto, hfrom⟩ := hmove₂ e' hmem
        refine ⟨?_, hfrom⟩
        by_cases hee : e' = e
        · subst hee
          rw [hto, hfrom₁, hto₁]
          rfl
        · rw [hto, hstay₁ _ (hother he' hee) (hother he' hee),
            hstay₁ _ (hother he' hee) (hother he' hee)]
      · obtain rfl : e' = e := (List.mem_cons.mp h').resolve_right hmem
        have hapart : ∀ a b, ∀ e'' ∈ endings, slotPath base a e' ≠ slotPath base b e'' := by
          intro a b e'' hm hp
          obtain rfl := (h.sound.slotPath_inj he' (hends' e'' hm) hp).2
          exact hmem hm
        rw [hstay₂ _ fun e'' hm => ⟨hapart _ _ e'' hm, hapart _ _ e'' hm⟩,
          hstay₂ _ fun e'' hm => ⟨hapart _ _ e'' hm, hapart _ _ e'' hm⟩]
        exact ⟨hto₁, hfrom₁⟩
    · obtain ⟨hri, hri'⟩ := hr e List.mem_cons_self
      rw [hstay₂ r fun e' h' => hr e' (List.mem_cons_of_mem e h'), hstay₁ r hri hri']

/-- **What a slot holds moves to the next**, each file under its own ending. -/
theorem shiftSlot_run (l : RotatingLog)
    (h : Racked l.base l.maxFiles l.suffixes place files d) {i : Nat} (hi : 1 ≤ i)
    (hn : i + 1 ≤ l.maxFiles) :
    ∃ d' files', (l.shiftSlot i).run d = (.ok (), d') ∧
      Racked l.base l.maxFiles l.suffixes place files' d' ∧ d'.contents = d.contents ∧
      files' l.base = files l.base ∧
      ∀ e, IsEnding l.suffixes e →
        files' (slotPath l.base (i + 1) e) =
          (files (slotPath l.base i e)).or (files (slotPath l.base (i + 1) e)) ∧
        files' (slotPath l.base i e) = none ∧
        ∀ j, j ≠ i → j ≠ i + 1 → files' (slotPath l.base j e) = files (slotPath l.base j e) := by
  obtain ⟨d', files', hr, h', hc, hmove, hstay⟩ :=
    moveEndings_run h hi hn ("" :: l.suffixes) fun e he => mem_endings.mp he
  refine ⟨d', files', ?_, h', hc, ?_, fun e he => ⟨(hmove e (mem_endings.mpr he)).1,
    (hmove e (mem_endings.mpr he)).2, fun j hj hj' => ?_⟩⟩
  · rw [RotatingLog.shiftSlot, slotPaths_eq, slotPaths_eq, List.zip_map']
    exact hr
  · exact hstay l.base fun e he => ⟨(h.sound.slotPath_ne (mem_endings.mp he)).symm,
      (h.sound.slotPath_ne (mem_endings.mp he)).symm⟩
  · refine hstay _ fun e' he' => ⟨fun hp => hj ?_, fun hp => hj' ?_⟩
    · exact (h.sound.slotPath_inj he (mem_endings.mp he') hp).1
    · exact (h.sound.slotPath_inj he (mem_endings.mp he') hp).1

/-- **The slots below `n` move up, if slot `n` is free**: each finds the next one free. -/
theorem shiftSlots_run (l : RotatingLog) (n : Nat) (hn : n ≤ l.maxFiles)
    (h : Racked l.base l.maxFiles l.suffixes place files d)
    (hfree : ∀ e, IsEnding l.suffixes e → files (slotPath l.base n e) = none) :
    ∃ d' files', (l.shiftSlots n).run d = (.ok (), d') ∧
      Racked l.base l.maxFiles l.suffixes place files' d' ∧ d'.contents = d.contents ∧
      files' l.base = files l.base ∧
      ∀ e, IsEnding l.suffixes e →
        (1 ≤ n → files' (slotPath l.base 1 e) = none) ∧
        (∀ i, 1 ≤ i → i < n →
          files' (slotPath l.base (i + 1) e) = files (slotPath l.base i e)) ∧
        ∀ i, n < i → files' (slotPath l.base i e) = files (slotPath l.base i e) := by
  induction n using RotatingLog.shiftSlots.induct generalizing d files with
  | case1 =>
    exact ⟨d, files, rfl, h, rfl, rfl, fun e _ => ⟨by simp, by omega, fun _ _ => rfl⟩⟩
  | case2 =>
    exact ⟨d, files, rfl, h, rfl, rfl, fun e he => ⟨fun _ => hfree e he, by omega,
      fun _ _ => rfl⟩⟩
  | case3 n ih =>
    obtain ⟨d₁, files₁, hr₁, h₁, hc₁, hb₁, hs₁⟩ := shiftSlot_run l h (i := n + 1) (by omega) hn
    obtain ⟨d₂, files₂, hr₂, h₂, hc₂, hb₂, hs₂⟩ :=
      ih (by omega) h₁ fun e he => (hs₁ e he).2.1
    refine ⟨d₂, files₂, ?_, h₂, hc₂.trans hc₁, hb₂.trans hb₁, fun e he => ?_⟩
    · rw [RotatingLog.shiftSlots]
      exact (run_bind_ok hr₁).trans hr₂
    obtain ⟨hto, hfrom, hstay⟩ := hs₁ e he
    obtain ⟨hone, hup, habove⟩ := hs₂ e he
    refine ⟨fun _ => hone (by omega), fun i hi hin => ?_, fun i hin => ?_⟩
    · by_cases hlast : i = n + 1
      · subst hlast
        rw [habove (n + 1 + 1) (by omega), hto, hfree e he, Option.or_none]
      · rw [hup i hi (by omega), hstay i (by omega) (by omega)]
    · rw [habove i (by omega), hstay i (by omega) (by omega)]

/-- **Each slot holds what the one below held**; slot 1 is free. -/
theorem shiftHistory_run (l : RotatingLog)
    (h : Racked l.base l.maxFiles l.suffixes place files d) (hn : 1 ≤ l.maxFiles) :
    ∃ d' files', l.shiftHistory.run d = (.ok (), d') ∧
      Racked l.base l.maxFiles l.suffixes place files' d' ∧ d'.contents = d.contents ∧
      files' l.base = files l.base ∧
      ∀ e, IsEnding l.suffixes e →
        files' (slotPath l.base 1 e) = none ∧
        ∀ i, 1 ≤ i → i < l.maxFiles →
          files' (slotPath l.base (i + 1) e) = files (slotPath l.base i e) := by
  have howns : ∀ p ∈ ("" :: l.suffixes).map (slotPath l.base l.maxFiles),
      IsOwn l.base l.maxFiles l.suffixes p := by
    intro p hp
    obtain ⟨e, he, rfl⟩ := List.mem_map.mp hp
    exact .slot l.maxFiles e hn (Nat.le_refl _) (mem_endings.mp he)
  obtain ⟨d₁, files₁, hr₁, h₁, hc₁, hgone, hstay⟩ := removeAll_run h.kept _ howns
  have hfree : ∀ e, IsEnding l.suffixes e → files₁ (slotPath l.base l.maxFiles e) = none :=
    fun e he => hgone _ (List.mem_map_of_mem (mem_endings.mpr he))
  obtain ⟨d₂, files₂, hr₂, h₂, hc₂, hb₂, hs₂⟩ :=
    shiftSlots_run l l.maxFiles (Nat.le_refl _) ⟨h.sound, h₁⟩ hfree
  refine ⟨d₂, files₂, ?_, h₂, hc₂.trans hc₁, ?_, fun e he => ?_⟩
  · rw [RotatingLog.shiftHistory, slotPaths_eq]
    exact (run_bind_ok hr₁).trans hr₂
  · rw [hb₂, hstay]
    intro hm
    obtain ⟨e, he, hp⟩ := List.mem_map.mp hm
    exact h.sound.slotPath_ne (mem_endings.mp he) hp
  · obtain ⟨hone, hup, -⟩ := hs₂ e he
    refine ⟨hone hn, fun i hi hin => ?_⟩
    rw [hup i hi hin, hstay]
    intro hm
    obtain ⟨e', he', hp⟩ := List.mem_map.mp hm
    exact absurd (h.sound.slotPath_inj (mem_endings.mp he') he hp).1 (by omega)

end Logworks.Rotation
