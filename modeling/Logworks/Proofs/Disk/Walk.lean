import Logworks.Disk.Names

/-!
# Where paths lead

A path is followed name by name, and what stands on the way is either a directory or a link. So
where a path leads depends on directories and links only, and on no file. This file fixes

* `Leads` -- the names lead from one directory to another; `walk_of_leads` -- so they are followed
  in the same way whatever the path is wanted for;
* `Leads.mono` -- **they still do when files come and go**;
* `Homed` -- the last name of a path stands for a place in a directory; `Homed.find` -- **then every
  purpose finds that place**, as long as a file stands there or nothing.
-/

namespace Logworks.Disk

/-- The name says which way to go, and is looked up nowhere. -/
def isDots (n : Name) : Bool := n == ['.'] || n == ['.', '.']

theorem isDots_eq_false {n : Name} : isDots n = false ↔ n ≠ ['.'] ∧ n ≠ ['.', '.'] := by
  simp [isDots]

/-! ## 1. From directory to directory -/

/-- The names lead from `p`, with `links` links to follow at most, to the directory `dir`, with
`left` links left. -/
inductive Leads (d : Disk) : Nat → Place → List Name → Nat → Place → Prop where
  | here (links : Nat) (p : Place) : Leads d links p [] links p
  | dot (links left : Nat) (p dir : Place) (ns : List Name) (h : Leads d links p ns left dir) :
      Leads d links p (['.'] :: ns) left dir
  | up (links left : Nat) (p dir : Place) (ns : List Name)
      (h : Leads d links p.dropLast ns left dir) : Leads d links p (['.', '.'] :: ns) left dir
  | down (links left : Nat) (p dir : Place) (n : Name) (ns : List Name) (hn : isDots n = false)
      (hl : isTooLong n = false) (he : d.entry? (p ++ [n]) = some .directory)
      (h : Leads d links (p ++ [n]) ns left dir) : Leads d links p (n :: ns) left dir
  | link (links left : Nat) (p dir : Place) (n : Name) (ns : List Name) (target : Path)
      (hn : isDots n = false) (hl : isTooLong n = false)
      (he : d.entry? (p ++ [n]) = some (.link target))
      (h : Leads d links (if target.isAbsolute then [] else p) (target.names ++ ns) left dir) :
      Leads d (links + 1) p (n :: ns) left dir

variable {d d' : Disk} {links left : Nat} {p dir : Place} {ns rest : List Name}

/-- One step of a walk that goes on behind a name. -/
theorem walk_cons_of_ne (purpose : Purpose) (links : Nat) (p : Place) {n : Name}
    (hn : isDots n = false) (hl : isTooLong n = false) (hr : rest ≠ []) (isSlashed : Bool) :
    d.walk purpose links p (n :: rest) isSlashed =
      match d.entry? (p ++ [n]) with
      | none => .error .notFound
      | some .directory => d.walk purpose links (p ++ [n]) rest isSlashed
      | some (.link target) =>
        match links with
        | 0 => .error .tooManyLinks
        | links + 1 =>
          d.walk purpose links (if target.isAbsolute then [] else p) (target.names ++ rest)
            isSlashed
      | some _ => .error .notADirectory := by
  obtain ⟨h1, h2⟩ := isDots_eq_false.mp hn
  have he : rest.isEmpty = false := by simpa using hr
  rw [walk_cons, if_neg h1, if_neg h2, he, hl]
  cases d.entry? (p ++ [n]) with
  | none => rfl
  | some e =>
    cases e with
    | directory => rfl
    | link target =>
      cases links with
      | zero => rfl
      | succ links =>
        show d.walk purpose links _ _ (isSlashed || (false && target.isSlashed)) = _
        rw [Bool.false_and, Bool.or_false]
    | file number => rfl
    | device v => rfl

/-- **The names of a path are followed up to the last in the same way for every purpose.** -/
theorem walk_of_leads (h : Leads d links p ns left dir) (purpose : Purpose) (hr : rest ≠ [])
    (isSlashed : Bool) :
    d.walk purpose links p (ns ++ rest) isSlashed = d.walk purpose left dir rest isSlashed := by
  have hr' : ∀ ns : List Name, ns ++ rest ≠ [] := fun ns e => hr (List.append_eq_nil_iff.mp e).2
  induction h with
  | here links p => rfl
  | dot links left p dir ns h ih =>
    rw [List.cons_append, walk_cons, if_pos rfl]
    exact ih
  | up links left p dir ns h ih =>
    rw [List.cons_append, walk_cons, if_neg (by decide), if_pos rfl]
    exact ih
  | down links left p dir n ns hn hl he h ih =>
    rw [List.cons_append, walk_cons_of_ne purpose links p hn hl (hr' ns), he]
    exact ih
  | link links left p dir n ns target hn hl he h ih =>
    rw [List.cons_append, walk_cons_of_ne purpose (links + 1) p hn hl (hr' ns), he]
    rw [List.append_assoc] at ih
    exact ih

/-- A walk that comes to its end has been led there. -/
theorem exists_leads {purpose : Purpose} {m : Name} {isSlashed : Bool} {s : Spot}
    (h : d.walk purpose links p (ns ++ [m]) isSlashed = .ok s) :
    ∃ left dir, Leads d links p ns left dir := by
  induction links using Nat.strongRecOn generalizing p ns with
  | ind links ihl =>
    induction ns generalizing p with
    | nil => exact ⟨links, p, .here links p⟩
    | cons n ns ihn =>
      have hr : ns ++ [m] ≠ [] := by simp
      by_cases h1 : n = ['.']
      · subst h1
        rw [List.cons_append, walk_cons, if_pos rfl] at h
        obtain ⟨left, dir, hl⟩ := ihn h
        exact ⟨left, dir, .dot _ _ _ _ _ hl⟩
      by_cases h2 : n = ['.', '.']
      · subst h2
        rw [List.cons_append, walk_cons, if_neg (by decide), if_pos rfl] at h
        obtain ⟨left, dir, hl⟩ := ihn h
        exact ⟨left, dir, .up _ _ _ _ _ hl⟩
      have hn : isDots n = false := isDots_eq_false.mpr ⟨h1, h2⟩
      cases hl : isTooLong n with
      | true =>
        have he : (ns ++ [m]).isEmpty = false := by simp
        rw [List.cons_append, walk_cons] at h
        simp only [if_neg h1, if_neg h2, he, hl, Bool.false_and, Bool.false_eq_true, if_false,
          if_true] at h
        cases h
      | false =>
        rw [List.cons_append, walk_cons_of_ne purpose links p hn hl hr] at h
        cases he : d.entry? (p ++ [n]) with
        | none => rw [he] at h; cases h
        | some e =>
          rw [he] at h
          cases e with
          | file number => cases h
          | device v => cases h
          | directory =>
            obtain ⟨left, dir, hd⟩ := ihn h
            exact ⟨left, dir, .down _ _ _ _ _ _ hn hl he hd⟩
          | link target =>
            cases links with
            | zero => cases h
            | succ links =>
              dsimp only at h
              rw [← List.append_assoc] at h
              obtain ⟨left, dir, hd⟩ := ihl links (Nat.lt_succ_self links) h
              exact ⟨left, dir, .link _ _ _ _ _ _ target hn hl he hd⟩

/-- Every place on the way down to `p` is a directory. -/
def Inside (d : Disk) (p : Place) : Prop :=
  ∀ q : Place, q <+: p → d.entry? q = some .directory

theorem inside_nil (d : Disk) : Inside d [] := by
  intro q hq
  rw [List.prefix_nil.mp hq]
  rfl

theorem Inside.concat (h : Inside d p) {n : Name} (he : d.entry? (p ++ [n]) = some .directory) :
    Inside d (p ++ [n]) := by
  intro q hq
  rcases List.prefix_concat_iff.mp hq with rfl | hq
  · exact he
  · exact h q hq

theorem Inside.dropLast (h : Inside d p) : Inside d p.dropLast :=
  fun q hq => h q (hq.trans p.dropLast_prefix)

/-- Names lead down through directories only. -/
theorem Leads.inside (h : Leads d links p ns left dir) (hi : Inside d p) : Inside d dir := by
  induction h with
  | here links p => exact hi
  | dot links left p dir ns h ih => exact ih hi
  | up links left p dir ns h ih => exact ih hi.dropLast
  | down links left p dir n ns hn hl he h ih => exact ih (hi.concat he)
  | link links left p dir n ns target hn hl he h ih =>
    refine ih ?_
    split
    · exact inside_nil d
    · exact hi

/-- Nothing but a file stands at the place, if anything. -/
def IsVacantOrFile (d : Disk) (p : Place) : Prop :=
  d.entry? p = none ∨ ∃ k, d.entry? p = some (.file k)

theorem IsVacantOrFile.ne_directory (h : IsVacantOrFile d p) :
    d.entry? p ≠ some .directory := by
  rcases h with h | ⟨k, h⟩ <;> rw [h] <;> simp

/-- Only what stands at some places, or below them, differs. -/
def DiffersAt (own : Place → Prop) (d d' : Disk) : Prop :=
  ∀ q : Place, (∀ o, own o → ¬ o <+: q) → d'.entry? q = d.entry? q

/-- What stands right inside a directory and is no file is at none of the places of files. -/
theorem Inside.not_own {own : Place → Prop} (hi : Inside d p)
    (hown : ∀ o, own o → IsVacantOrFile d o) {n : Name}
    (he : ¬ IsVacantOrFile d (p ++ [n])) (o : Place) (ho : own o) : ¬ o <+: p ++ [n] := by
  intro hp
  rcases List.prefix_concat_iff.mp hp with rfl | hp
  · exact he (hown _ ho)
  · exact (hown o ho).ne_directory (hi o hp)

/-- **Names lead where they led, whatever files come and go.** -/
theorem Leads.mono {own : Place → Prop} (h : Leads d links p ns left dir) (hi : Inside d p)
    (hown : ∀ o, own o → IsVacantOrFile d o) (hd : DiffersAt own d d') :
    Leads d' links p ns left dir := by
  have nofile : ∀ {q : Place} {e : Entry}, d.entry? q = some e → (∀ k, e ≠ .file k) →
      ¬ IsVacantOrFile d q := by
    rintro q e he hne (hv | ⟨k, hv⟩)
    · rw [he] at hv
      cases hv
    · rw [he] at hv
      exact hne k (Option.some.inj hv)
  induction h with
  | here links p => exact .here links p
  | dot links left p dir ns h ih => exact .dot _ _ _ _ _ (ih hi)
  | up links left p dir ns h ih => exact .up _ _ _ _ _ (ih hi.dropLast)
  | down links left p dir n ns hn hl he h ih =>
    have he' := hd _ (hi.not_own hown (nofile he fun k e => by cases e))
    exact .down _ _ _ _ _ _ hn hl (he'.trans he) (ih (hi.concat he))
  | link links left p dir n ns target hn hl he h ih =>
    have he' := hd _ (hi.not_own hown (nofile he fun k e => by cases e))
    refine .link _ _ _ _ _ _ target hn hl (he'.trans he) (ih ?_)
    split
    · exact inside_nil d
    · exact hi

/-! ## 2. The place of a path -/

/-- The last name of the path stands for the place, in a directory that the others lead to. -/
structure Homed (d : Disk) (p : Path) (place : Place) : Prop where
  sound : pathFault? p = none
  bare : p.isSlashed = false
  leads : ∃ ns m left dir, p.names = ns ++ [m] ∧ isDots m = false ∧ isTooLong m = false ∧
    Leads d mostLinks [] ns left dir ∧ place = dir ++ [m]

theorem Homed.mono {own : Place → Prop} {p : Path} {place : Place} (h : Homed d p place)
    (hown : ∀ o, own o → IsVacantOrFile d o) (hd : DiffersAt own d d') : Homed d' p place where
  sound := h.sound
  bare := h.bare
  leads := by
    obtain ⟨ns, m, left, dir, hn, hdots, hlong, hl, hp⟩ := h.leads
    exact ⟨ns, m, left, dir, hn, hdots, hlong, hl.mono (inside_nil d) hown hd, hp⟩

theorem Homed.not_hasLongName {p : Path} {place : Place} (h : Homed d p place) :
    hasLongName place = false := by
  obtain ⟨ns, m, left, dir, _, _, hlong, _, rfl⟩ := h.leads
  simpa [hasLongName] using hlong

theorem Homed.ne_nil {p : Path} {place : Place} (h : Homed d p place) : place ≠ [] := by
  obtain ⟨ns, m, left, dir, _, _, _, _, rfl⟩ := h.leads
  simp

/-- What is no directory is not on the way to the place. -/
theorem Homed.eq_of_below {p : Path} {o place : Place} (h : Homed d p place)
    (ho : IsVacantOrFile d o) (hp : o <+: place) : o = place := by
  obtain ⟨ns, m, left, dir, -, -, -, hl, rfl⟩ := h.leads
  rcases List.prefix_concat_iff.mp hp with rfl | hp
  · rfl
  · exact absurd (hl.inside (inside_nil d) o hp) ho.ne_directory

/-- **Every purpose finds the place**, as long as a file stands there or nothing. -/
theorem Homed.find {p : Path} {place : Place} (h : Homed d p place) (hv : IsVacantOrFile d place)
    (purpose : Purpose) : d.find purpose p = .ok (.named place (d.entry? place) false) := by
  obtain ⟨ns, m, left, dir, hn, hdots, hlong, hl, rfl⟩ := h.leads
  obtain ⟨h1, h2⟩ := isDots_eq_false.mp hdots
  have hw : d.walk purpose mostLinks [] p.names p.isSlashed =
      .ok (.named (dir ++ [m]) (d.entry? (dir ++ [m])) false) := by
    rw [hn, h.bare, walk_of_leads hl purpose (by simp), walk_cons]
    simp only [if_neg h1, if_neg h2, hlong, List.isEmpty_nil, Bool.true_and, Bool.and_false,
      Bool.false_and, Bool.false_eq_true, if_false, if_true, Bool.not_false]
    split
    · rfl
    · rcases hv with hv | ⟨k, hv⟩ <;> rw [hv]
  rw [Disk.find, h.sound, hw]

/-- A path that is found by its last name has its place there. -/
theorem homed_of_find {p : Path} {place : Place} {e : Option Entry}
    (h : d.find .name p = .ok (.named place e false)) (hlong : hasLongName place = false) :
    Homed d p place ∧ e = d.entry? place := by
  unfold Disk.find at h
  split at h
  · cases h
  · rename_i hs
    split at h
    · rename_i s hw
      cases h
      rcases List.eq_nil_or_concat p.names with hn | ⟨ns, m, hn⟩
      · rw [hn, walk_nil] at hw
        cases hw
      · rw [List.concat_eq_append] at hn
        rw [hn] at hw
        obtain ⟨left, dir, hl⟩ := exists_leads hw
        rw [walk_of_leads hl .name (by simp), walk_cons] at hw
        split at hw
        · rw [walk_nil] at hw
          cases hw
        · split at hw
          · rw [walk_nil] at hw
            cases hw
          · rename_i h1 h2
            simp only [List.isEmpty_nil, Bool.true_and, beq_self_eq_true, if_true] at hw
            simp only [Except.ok.injEq, Spot.named.injEq] at hw
            obtain ⟨rfl, rfl, hbare⟩ := hw
            refine ⟨⟨hs, hbare, ns, m, left, dir, hn, isDots_eq_false.mpr ⟨h1, h2⟩, ?_, hl, rfl⟩,
              rfl⟩
            simpa [hasLongName] using hlong
    · cases h

end Logworks.Disk
