import Logworks.Proofs.Disk.Writing

/-!
# Files that are there

Every entry of a file names contents that are there, and so does every handle. Removing and renaming
leave it so whatever fails, for they only put entries elsewhere. This file fixes

* `Filed` -- the entries of a disk name contents that are there;
* `Shuffled` -- each entry was there before, at some place, and files hold what they held;
  `Shuffles` -- **work that does no more than that, whatever fails**: `shuffles_removeIfThere`,
  `shuffles_replace`;
* `Filed.openAppend`, `Filed.openFresh` -- **a file that was opened is there**, and the handle
  appends to it; `Handle.Appends.writeAll` -- it does so behind every write.
-/

namespace Logworks.Disk

variable {d d' d'' : Disk} {p q : Path} {ε α β : Type}

/-! ## 1. Entries of files -/

/-- **Every entry of a file names contents that are there.** -/
def Filed (d : Disk) : Prop := ∀ x ∈ d.entries, ∀ n, x.2 = .file n → n < d.contents.length

theorem mem_of_lookup {l : List (Place × Entry)} {place : Place} {e : Entry}
    (h : l.lookup place = some e) : (place, e) ∈ l := by
  induction l with
  | nil => cases h
  | cons x l ih =>
    obtain ⟨k, v⟩ := x
    rw [List.lookup_cons] at h
    by_cases hk : place = k
    · subst hk
      rw [beq_self_eq_true] at h
      cases h
      exact List.mem_cons_self
    · rw [beq_false_of_ne hk] at h
      exact List.mem_cons_of_mem _ (ih h)

theorem Filed.lt_of_entry? (h : d.Filed) {place : Place} {n : Nat}
    (he : d.entry? place = some (.file n)) : n < d.contents.length := by
  unfold entry? at he
  split at he
  · cases he
  · exact h _ (mem_of_lookup he) n rfl

theorem entry?_of_walkTo {purpose : Purpose}
    {follow : Place → List Name → Bool → Except SystemCause Spot} {here place : Place}
    {ns : List Name} {isSlashed b : Bool} {e : Option Entry}
    (hf : ∀ p ms s, follow p ms s = .ok (.named place e b) → e = d.entry? place)
    (h : d.walkTo purpose follow here ns isSlashed = .ok (.named place e b)) :
    e = d.entry? place := by
  fun_induction walkTo <;> grind

/-- What a walk finds at a place is what stands there. -/
theorem entry?_of_walk {purpose : Purpose} {links : Nat} {here place : Place} {ns : List Name}
    {isSlashed b : Bool} {e : Option Entry}
    (h : d.walk purpose links here ns isSlashed = .ok (.named place e b)) :
    e = d.entry? place := by
  induction links generalizing here ns isSlashed with
  | zero => exact entry?_of_walkTo (fun _ _ _ h => by cases h) h
  | succ links ih => exact entry?_of_walkTo (fun _ _ _ h => ih h) h

theorem entry?_of_find {purpose : Purpose} {place : Place} {b : Bool} {e : Option Entry}
    (h : d.find purpose p = .ok (.named place e b)) : e = d.entry? place := by
  unfold find at h
  split at h
  · cases h
  · split at h
    · cases h
      exact entry?_of_walk ‹_›
    · cases h

/-! ## 2. Names -/

/-- **Each entry was there, at this place or another**, and files hold what they held. -/
structure Shuffled (d d' : Disk) : Prop where
  entries : ∀ x ∈ d'.entries, ∃ y ∈ d.entries, y.2 = x.2
  contents : d'.contents = d.contents

theorem Shuffled.refl (d : Disk) : Shuffled d d := ⟨fun x hx => ⟨x, hx, rfl⟩, rfl⟩

theorem Shuffled.trans (h : Shuffled d d') (h' : Shuffled d' d'') : Shuffled d d'' where
  entries x hx := by
    obtain ⟨y, hy, hyx⟩ := h'.entries x hx
    obtain ⟨z, hz, hzy⟩ := h.entries y hy
    exact ⟨z, hz, hzy.trans hyx⟩
  contents := h'.contents.trans h.contents

theorem Shuffled.filed (h : Shuffled d d') (hd : d.Filed) : d'.Filed := by
  intro x hx n hn
  obtain ⟨y, hy, hyx⟩ := h.entries x hx
  rw [h.contents]
  exact hd y hy n (hyx.trans hn)

/-- Some entries are left, each where it was. -/
theorem shuffled_filter (d : Disk) (keep : Place × Entry → Bool) :
    Shuffled d { d with entries := d.entries.filter keep } :=
  ⟨fun x hx => ⟨x, (List.mem_filter.mp hx).1, rfl⟩, rfl⟩

theorem shuffled_moved (d : Disk) (source target : Place) : Shuffled d (d.moved source target) := by
  refine ⟨fun x hx => ?_, rfl⟩
  rcases List.mem_append.mp hx with hx | hx
  · exact ⟨x, (List.mem_filter.mp hx).1, rfl⟩
  · obtain ⟨y, hy, rfl⟩ := List.mem_map.mp hx
    exact ⟨y, (List.mem_filter.mp hy).1, rfl⟩

theorem shuffled_transferred {source target : Place} {e : Entry} {f : Option Entry} {b : Bool}
    (h : d.transferred source e target f b = .ok d') : Shuffled d d' := by
  have hmoved : d.moved source target = d' → Shuffled d d' := fun he =>
    he ▸ shuffled_moved d source target
  unfold transferred at h
  iterate 4 split at h; · cases h
  split at h
  · cases h
    exact .refl d
  · cases f with
    | none => exact hmoved (Except.ok.inj h)
    | some f =>
      dsimp only at h
      cases hm : d.mayReplace e target f with
      | error c =>
        rw [hm] at h
        cases h
      | ok u =>
        rw [hm] at h
        exact hmoved (Except.ok.inj h)

/-- **Work that only puts entries elsewhere**, whatever fails. -/
def Shuffles (w : ExceptT ε (StateM Disk) α) : Prop := ∀ d, Shuffled d (w.run d).2

theorem shuffles_pure (a : α) : Shuffles (pure a : ExceptT ε (StateM Disk) α) := .refl

theorem Shuffles.bind {w : ExceptT ε (StateM Disk) β} {f : β → ExceptT ε (StateM Disk) α}
    (hw : Shuffles w) (hf : ∀ b, Shuffles (f b)) : Shuffles (w >>= f) := by
  intro d
  have h := hw d
  rcases hrun : w.run d with ⟨c | b, d₁⟩
  · rw [run_bind_error hrun]
    rwa [hrun] at h
  · rw [run_bind_ok hrun]
    rw [hrun] at h
    exact h.trans (hf b d₁)

theorem shuffles_mishap : Shuffles mishap := by
  intro d
  rcases run_mishap_cases d with h | ⟨c, h⟩ <;> rw [h] <;> exact ⟨fun x hx => ⟨x, hx, rfl⟩, rfl⟩

theorem shuffles_change {f : Disk → Except Cause (α × Disk)}
    (hf : ∀ d a d', f d = .ok (a, d') → Shuffled d d') : Shuffles (change f) := by
  intro d
  rcases h : f d with c | ⟨a, d'⟩
  · rw [run_change_error h]
    exact .refl d
  · rw [run_change_ok h]
    exact hf d a d' h

/-- Work that says its failures in other words. -/
theorem Shuffles.adapt {ε' : Type} {w : ExceptT ε (StateM Disk) α} (hw : Shuffles w)
    (f : ε → ε') : Shuffles (ExceptT.adapt f w) := fun d => hw d

theorem shuffles_forM {l : List β} {f : β → ExceptT ε (StateM Disk) PUnit}
    (hf : ∀ b ∈ l, Shuffles (f b)) : Shuffles (l.forM f) := by
  induction l with
  | nil => exact shuffles_pure _
  | cons b l ih =>
    exact (hf b List.mem_cons_self).bind fun _ =>
      ih fun c hc => hf c (List.mem_cons_of_mem b hc)

theorem shuffles_removeFile (p : Path) : Shuffles (removeFile p) := by
  refine shuffles_mishap.bind fun _ => shuffles_change fun d u d' h => ?_
  unfold withoutFile at h
  split at h
  · cases h
  · cases h
  · split at h
    · cases h
    · split at h
      · cases h
      · cases h
      · split at h
        · cases h
        · cases h
          exact shuffled_filter d _

theorem shuffles_removeIfThere (p : Path) : Shuffles (removeIfThere p) := by
  intro d
  have h : Shuffled d ((removeFile p).run d).2 := shuffles_removeFile p d
  show Shuffled d (removeIfThere p d).2
  unfold removeIfThere
  split
  · rename_i he
    rwa [he] at h
  · exact h

theorem shuffles_rename (p q : Path) : Shuffles (rename p q) := by
  refine shuffles_mishap.bind fun _ => shuffles_change fun d u d' h => ?_
  unfold renamed at h
  split at h
  · cases h
  · cases h
  · split at h
    · cases h
    · split at h
      · cases h
      · split at h
        · cases h
          exact shuffled_transferred ‹_›
        · cases h
  · cases h

theorem shuffles_replace (p q : Path) : Shuffles (replace p q) := by
  intro d
  have h : Shuffled d ((rename p q).run d).2 := shuffles_rename p q d
  show Shuffled d (replace p q d).2
  unfold replace
  split
  · rename_i he
    rwa [he] at h
  · rename_i he
    rw [he] at h
    exact h.trans (((shuffles_removeIfThere q).bind fun _ => shuffles_rename p q) _)

/-! ## 3. Opening -/

/-- A target that is a file is there. -/
def Target.IsFiled (t : Target) (d : Disk) : Prop := ∀ n, t = .file n → n < d.contents.length

theorem Filed.target (h : d.Filed) {t : Target} (ht : target p d = .ok (t, d')) :
    d'.Filed ∧ t.IsFiled d' := by
  unfold Disk.target at ht
  split at ht
  · cases ht
    refine ⟨h, fun n hn => ?_⟩
    cases hn
    exact h.lt_of_entry? (entry?_of_find ‹_›).symm
  · cases ht
    exact ⟨h, fun n hn => by cases hn⟩
  · cases ht
  · cases ht
  · cases ht
    have hlt : d.contents.length < (d.contents ++ [[]]).length := by simp
    refine ⟨fun x hx n hn => ?_, fun n hn => ?_⟩
    · rcases List.mem_append.mp hx with hx | hx
      · exact Nat.lt_trans (h x (List.mem_filter.mp hx).1 n hn) hlt
      · obtain rfl := List.mem_singleton.mp hx
        cases hn
        exact hlt
    · cases hn
      exact hlt
  · cases ht

/-- The handle writes at the end of its file, if it leads to one. -/
def Handle.Appends (h : Handle) (d : Disk) : Prop := ∀ n, h.target = .file n → h.AtEnd n d

/-- How an opening begins on a disk whose files are there. -/
theorem Filed.mishap_target (h : d.Filed) (p : Path) :
    (∃ c d', d'.Filed ∧ ∀ {γ : Type} (f : Target → Work γ),
        (mishap >>= fun _ => change (Disk.target p) >>= f : Work γ).run d = (.error c, d')) ∨
      ∃ t d', d'.Filed ∧ t.IsFiled d' ∧ ∀ {γ : Type} (f : Target → Work γ),
        (mishap >>= fun _ => change (Disk.target p) >>= f : Work γ).run d = (f t).run d' := by
  rcases run_mishap_cases d with hm | ⟨c, hm⟩
  · rcases ht : Disk.target p d.begun with c | ⟨t, d'⟩
    · exact .inl ⟨c, d.begun, h, fun f =>
        (run_bind_ok hm).trans (run_bind_error (run_change_error ht))⟩
    · have hbegun : d.begun.Filed := h
      obtain ⟨hd', htd⟩ := hbegun.target ht
      exact .inr ⟨t, d', hd', htd, fun f =>
        (run_bind_ok hm).trans (run_bind_ok (run_change_ok ht))⟩
  · exact .inl ⟨c, d.begun, h, fun f => run_bind_error hm⟩

/-- **A file that was opened for more is there**, and is written at its end. -/
theorem Filed.openAppend (h : d.Filed) (p : Path) :
    (∃ c d', (Disk.openAppend p).run d = (.error c, d') ∧ d'.Filed) ∨
      ∃ hd d', (Disk.openAppend p).run d = (.ok hd, d') ∧ d'.Filed ∧ hd.Appends d' := by
  rcases h.mishap_target p with ⟨c, d', hd', hr⟩ | ⟨t, d', hd', htd, hr⟩
  · exact .inl ⟨c, d', hr _, hd'⟩
  · exact .inr ⟨⟨t, none⟩, d', hr _, hd', fun n hn => ⟨hn, htd n hn, .inl rfl⟩⟩

theorem filed_setOctets (h : d.Filed) (n : Nat) (bytes : Text.Octets) :
    (d.setOctets n bytes).Filed := by
  intro x hx k hk
  show k < (d.contents.set n bytes).length
  rw [List.length_set]
  exact h x hx k hk

/-- **A file that was opened anew is there and empty.** -/
theorem Filed.openFresh (h : d.Filed) (p : Path) :
    (∃ c d', (Disk.openFresh p).run d = (.error c, d') ∧ d'.Filed) ∨
      ∃ hd d', (Disk.openFresh p).run d = (.ok hd, d') ∧ d'.Filed ∧ hd.Appends d' ∧
        ∀ n, hd.target = .file n → d'.octetsOf n = [] := by
  rcases h.mishap_target p with ⟨c, d', hd', hr⟩ | ⟨t, d', hd', htd, hr⟩
  · exact .inl ⟨c, d', hr _, hd'⟩
  · refine .inr ⟨⟨t, some 0⟩, emptied t d', hr _, ?_, fun n hn => ?_, fun n hn => ?_⟩
    · cases t with
      | file n => exact filed_setOctets hd' n []
      | device v => exact hd'
    all_goals
      obtain rfl : t = .file n := hn
      have hoct := octetsOf_setOctets d' (htd n rfl) [] n
      rw [if_pos rfl] at hoct
    · refine ⟨rfl, ?_, .inr ?_⟩
      · show n < (d'.contents.set n []).length
        rw [List.length_set]
        exact htd n rfl
      · show some 0 = some ((d'.setOctets n []).octetsOf n).length
        rw [hoct]
        rfl
    · exact hoct

/-! ## 4. Writing -/

theorem Filed.touched (h : d.Filed) {n : Nat} (ht : Touches n d d') : d'.Filed := by
  intro x hx k hk
  rw [ht.length]
  exact h x (ht.entries ▸ hx) k hk

theorem taken_device {h : Handle} {v : Device} (hv : h.target = .device v) (bytes : Text.Octets)
    (d : Disk) : h.taken bytes d = (h, d) := by
  rw [Handle.taken, hv]

theorem writePlain_device {h : Handle} {v : Device} (hv : h.target = .device v)
    (bytes : Text.Octets) (d : Disk) : ∃ e, h.writePlain bytes d = (e, h, d) := by
  unfold Handle.writePlain
  split
  · exact ⟨_, rfl⟩
  · rw [taken_device hv]
    exact ⟨_, rfl⟩

/-- Writing to a device changes nothing but what is planned. -/
theorem writeAttempts_device {h : Handle} {v : Device} (hv : h.target = .device v)
    (plan : List Attempt) (bytes : Text.Octets) (d : Disk) :
    ∃ e rest, h.writeAttempts plan bytes d =
      (e, h, { d with mishaps := { d.mishaps with writes := rest } }) := by
  fun_induction Handle.writeAttempts plan h bytes d with
  | case2 h bytes d hne =>
    obtain ⟨e, he⟩ :=
      writePlain_device hv bytes { d with mishaps := { d.mishaps with writes := [] } }
    exact ⟨e, [], he⟩
  | _ => grind [taken_device]

/-- **A handle that appends does so behind every write**, and files stay there. -/
theorem Handle.Appends.writeAll {h : Handle} (ha : h.Appends d) (hd : d.Filed)
    (bytes : Text.Octets) :
    (h.writeAll bytes d).2.1.target = h.target ∧
      (h.writeAll bytes d).2.1.Appends (h.writeAll bytes d).2.2 ∧
      (h.writeAll bytes d).2.2.Filed ∧
      ∀ n, h.target = .file n → Handle.Wrote n bytes d (h.writeAll bytes d) := by
  have hwrote : ∀ n, h.target = .file n → Handle.Wrote n bytes d (h.writeAll bytes d) :=
    fun n ht => ((ha n ht).writeAttempts (List.suffix_refl _) bytes).1
  cases ht : h.target with
  | file n =>
    obtain ⟨hend, htouch, -⟩ := hwrote n ht
    refine ⟨hend.target, fun k hk => ?_, hd.touched htouch, ht ▸ hwrote⟩
    obtain rfl := Target.file.inj (hend.target.symm.trans hk)
    exact hend
  | device v =>
    obtain ⟨e, rest, he⟩ := writeAttempts_device ht d.mishaps.writes bytes d
    have hw : h.writeAll bytes d =
        (e, h, { d with mishaps := { d.mishaps with writes := rest } }) := he
    rw [hw]
    refine ⟨ht, fun n hn => ?_, hd, fun n hn => by cases hn⟩
    rw [ht] at hn
    cases hn

end Logworks.Disk
