import Logworks.Proofs.Disk.Writing

/-!
# Work that may fail

Any operation on names may fail, at any time. Work on own paths then leaves files behind in some
order, and those hold what they held. This file fixes

* `Leaves` -- **whatever fails, this holds of what the work came to and of the files it leaves**;
  `Leaves.bind` puts work behind work;
* `Placed.leaves_removeIfThere`, `Placed.leaves_replace` -- what is left where a removal, or a
  rename with its second attempt, may have failed;
* `Placed.openAppend_cases`, `Placed.openFresh_cases` -- a file is opened, or nothing is changed.
-/

namespace Logworks.Disk

variable {own : Path → Prop} {place : Path → Place} {files files' : Path → Option Nat}
  {d d' d'' : Disk} {p q : Path} {ε α β : Type}

/-! ## 1. What is left -/

theorem Rearranged.refl (h : Placed own place files d) : Rearranged own place files d d where
  placed := h
  within _ _ := rfl
  origin p _ hp hk := ⟨p, hp, (h.entry_eq_file hp).mpr hk⟩
  contents := rfl
  names := List.suffix_refl _
  writes := rfl

theorem Rearranged.trans (h : Rearranged own place files d d')
    (h' : Rearranged own place files' d' d'') : Rearranged own place files' d d'' where
  placed := h'.placed
  within o ho := (h'.within o ho).trans (h.within o ho)
  origin p k hp hk := by
    obtain ⟨q, hq, he⟩ := h'.origin p k hp hk
    exact h.origin q k hq ((h.placed.entry_eq_file hq).mp he)
  contents := h'.contents.trans h.contents
  names := h'.names.trans h.names
  writes := h'.writes.trans h.writes

theorem Rearranged.octetsOf (h : Rearranged own place files' d d') (k : Nat) :
    d'.octetsOf k = d.octetsOf k := by
  rw [Disk.octetsOf, Disk.octetsOf, h.contents]

/-- **Work leaves own paths in an order of which this holds**, given what it came to: nothing, if
it failed. -/
def Leaves (own : Path → Prop) (place : Path → Place) (d : Disk) (w : ExceptT ε (StateM Disk) α)
    (holds : Option α → (Path → Option Nat) → Prop) : Prop :=
  ∃ files', Rearranged own place files' d (w.run d).2 ∧ holds (w.run d).1.toOption files'

variable {holds holds' : Option α → (Path → Option Nat) → Prop}

theorem Leaves.mono {w : ExceptT ε (StateM Disk) α} (h : Leaves own place d w holds)
    (hh : ∀ a files', holds a files' → holds' a files') : Leaves own place d w holds' := by
  obtain ⟨files', hr, ha⟩ := h
  exact ⟨files', hr, hh _ _ ha⟩

/-- Work that has an end. -/
theorem leaves_of_run {w : ExceptT ε (StateM Disk) α} {r : Except ε α}
    (hr : w.run d = (r, d')) (h : Rearranged own place files' d d')
    (hh : holds r.toOption files') : Leaves own place d w holds := by
  refine ⟨files', ?_, ?_⟩
  · rw [hr]
    exact h
  · rw [hr]
    exact hh

theorem leaves_pure (h : Placed own place files d) (a : α) (hh : holds (some a) files) :
    Leaves own place d (pure a : ExceptT ε (StateM Disk) α) holds :=
  leaves_of_run rfl (.refl h) hh

/-- **Work behind work is done where that succeeds, and left out where it fails.** -/
theorem Leaves.bind {w : ExceptT ε (StateM Disk) β} {f : β → ExceptT ε (StateM Disk) α}
    {mid : Option β → (Path → Option Nat) → Prop} (hw : Leaves own place d w mid)
    (hf : ∀ b files' d', Placed own place files' d' → mid (some b) files' →
      Leaves own place d' (f b) holds)
    (hfail : ∀ files', mid none files' → holds none files') :
    Leaves own place d (w >>= f) holds := by
  obtain ⟨files₁, hr₁, hh₁⟩ := hw
  rcases hrun : w.run d with ⟨c | b, d₁⟩
  · rw [hrun] at hr₁ hh₁
    exact leaves_of_run (run_bind_error hrun) hr₁ (hfail files₁ hh₁)
  · rw [hrun] at hr₁ hh₁
    obtain ⟨files₂, hr₂, hh₂⟩ := hf b files₁ d₁ hr₁.placed hh₁
    refine leaves_of_run (run_bind_ok hrun) (hr₁.trans hr₂) hh₂

/-! ## 2. Removing and renaming -/

namespace Placed

/-- A file is removed, or left where it is. -/
theorem leaves_removeIfThere (h : Placed own place files d) (hp : own p) :
    Leaves own place d (Disk.removeIfThere p) fun _ files' =>
      files' = files ∨ files' = Function.update files p none := by
  rcases run_mishap_cases d with hm | ⟨c, hm⟩
  · obtain ⟨d', hr, hre⟩ := h.removeIfThere hp hm
    exact leaves_of_run hr hre (.inr rfl)
  · have hf : (Disk.removeFile p).run d = (.error c, d.begun) := run_bind_error hm
    have hr : ∃ r, (Disk.removeIfThere p).run d = (r, d.begun) := by
      show ∃ r, Disk.removeIfThere p d = (r, d.begun)
      rw [Disk.removeIfThere, hf]
      split
      · exact ⟨_, congrArg (Prod.mk _) (Prod.mk.inj ‹_›).2.symm⟩
      · exact ⟨_, rfl⟩
    obtain ⟨r, hr⟩ := hr
    exact leaves_of_run hr h.rearranged_begun (.inl rfl)

/-- A file is renamed, or all is left as it is. -/
theorem leaves_rename (h : Placed own place files d) (hp : own p) (hq : own q) (hpq : p ≠ q) :
    Leaves own place d (Disk.rename p q) fun r files' =>
      (r = none ∧ files' = files) ∨
        (r = some () ∧ files p ≠ none ∧ files' = moveFile files p q) := by
  rcases run_mishap_cases d with hm | ⟨c, hm⟩
  · cases hk : files p with
    | none =>
      exact leaves_of_run (h.rename_of_none hp hq hpq hm hk) h.rearranged_begun (.inl ⟨rfl, rfl⟩)
    | some k =>
      obtain ⟨d', hr, hre⟩ := h.rename hp hq hpq hm hk
      exact leaves_of_run hr hre (.inr ⟨rfl, by simp, rfl⟩)
  · exact leaves_of_run (run_bind_error hm) h.rearranged_begun (.inl ⟨rfl, rfl⟩)

/-- What a move leaves does not hang on what was in its way. -/
theorem moveFile_update (hpq : p ≠ q) :
    moveFile (Function.update files q none) p q = moveFile files p q := by
  funext r
  unfold moveFile
  rw [Function.update_of_ne hpq]
  by_cases hr : r = q
  · rw [if_pos hr, if_pos hr]
  · rw [if_neg hr, if_neg hr, Function.update_of_ne hr]

/-- **A file takes the place of another, or stays where it is**, and then the other may be gone. -/
theorem leaves_replace (h : Placed own place files d) (hp : own p) (hq : own q) (hpq : p ≠ q) :
    Leaves own place d (Disk.replace p q) fun r files' =>
      (r = none ∧ (files' = files ∨ files' = Function.update files q none)) ∨
        (r = some () ∧ files p ≠ none ∧ files' = moveFile files p q) := by
  obtain ⟨files₁, hre₁, hh₁⟩ := h.leaves_rename hp hq hpq
  rcases hrun : (Disk.rename p q).run d with ⟨c | ⟨⟩, d₁⟩
  · -- the second attempt, behind a removal
    rw [hrun] at hre₁ hh₁
    obtain rfl : files₁ = files := by
      rcases hh₁ with ⟨-, he⟩ | ⟨he, -⟩
      · exact he
      · cases he
    have hagain : Leaves own place d₁
        (Disk.removeIfThere q >>= fun _ => Disk.rename p q : Work Unit) fun r files' =>
          (r = none ∧ (files' = files₁ ∨ files' = Function.update files₁ q none)) ∨
            (r = some () ∧ files₁ p ≠ none ∧ files' = moveFile files₁ p q) := by
      refine (hre₁.placed.leaves_removeIfThere hq).bind ?_ fun files' hh => .inl ⟨rfl, hh⟩
      intro _ files₂ d₂ h₂ hh₂
      refine (h₂.leaves_rename hp hq hpq).mono fun r files' hh => ?_
      rcases hh with ⟨hr, rfl⟩ | ⟨hr, hsome, rfl⟩
      · exact .inl ⟨hr, hh₂⟩
      · rcases hh₂ with rfl | rfl
        · exact .inr ⟨hr, hsome, rfl⟩
        · rw [Function.update_of_ne hpq] at hsome
          exact .inr ⟨hr, hsome, moveFile_update hpq⟩
    obtain ⟨files₂, hre₂, hh₂⟩ := hagain
    have hr : (Disk.replace p q).run d =
        (Disk.removeIfThere q >>= fun _ => Disk.rename p q : Work Unit).run d₁ := by
      show Disk.replace p q d = _
      rw [Disk.replace, hrun]
    exact ⟨files₂, by rw [hr]; exact hre₁.trans hre₂, by rw [hr]; exact hh₂⟩
  · rw [hrun] at hre₁ hh₁
    have hr : (Disk.replace p q).run d = (.ok (), d₁) := by
      show Disk.replace p q d = _
      rw [Disk.replace, hrun]
    refine leaves_of_run hr hre₁ ?_
    rcases hh₁ with ⟨he, -⟩ | hh₁
    · cases he
    · exact .inr hh₁

/-! ## 3. Opening -/

/-- A handle at the end of the file, or nothing is changed. -/
theorem openAppend_cases (h : Placed own place files d) (hp : own p) :
    (∃ c, (Disk.openAppend p).run d = (.error c, d.begun)) ∨
      ∃ n d', (Disk.openAppend p).run d = (.ok ⟨.file n, none⟩, d') ∧
        Opened own place files p n d d' ∧ d'.mishaps = d.begun.mishaps ∧
        d'.octetsOf n = ((files p).map d.octetsOf).getD [] := by
  rcases run_mishap_cases d with hm | ⟨c, hm⟩
  · exact .inr (h.openAppend hp hm)
  · exact .inl ⟨c, run_bind_error hm⟩

/-- **A handle on an empty file, or nothing is changed.** -/
theorem openFresh_cases (h : Placed own place files d) (hp : own p) :
    (∃ c, (Disk.openFresh p).run d = (.error c, d.begun)) ∨
      ∃ n d', (Disk.openFresh p).run d = (.ok ⟨.file n, some 0⟩, d') ∧
        Opened own place files p n d d' ∧ d'.mishaps = d.begun.mishaps ∧ d'.octetsOf n = [] := by
  rcases run_mishap_cases d with hm | ⟨c, hm⟩
  · exact .inr (h.openFresh hp hm)
  · exact .inl ⟨c, run_bind_error hm⟩

end Placed

end Logworks.Disk
