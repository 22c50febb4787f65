import Logworks.Disk.Handle
import Logworks.Proofs.Disk.Walk
import Mathlib.Logic.Function.Basic

/-!
# Files come and go

Some paths are the own of one who uses them: each stands for a place, no place lies in another, and
files stand there or nothing. Then removing, renaming and opening do what they say, and nothing
else. This file fixes

* `Mishaps.Harmless` -- no operation on names is going to fail, nor any attempt to write, though
  several may be needed;
* `entry?_moved` -- what stands where after an entry was moved;
* `Placed` -- **which file each own path leads to**; `Placed.reassigned` -- one of them changes;
* `Rearranged` -- what an operation on names makes of it: `Placed.removeIfThere`, `Placed.rename`;
* `Kept` -- the same where nothing is going to fail.
-/

namespace Logworks.Disk

/-! ## 1. Nothing goes wrong -/

/-- The attempt takes something, or the same is tried again. -/
def Attempt.isHarmless : Attempt → Bool
  | takes 0 | refused | fails _ => false
  | takes (_ + 1) | interrupted => true

/-- No attempt to write is going to fail. -/
def Mishaps.Writable (m : Mishaps) : Prop := ∀ a ∈ m.writes, a.isHarmless = true

/-- No operation on names is going to fail, and no attempt to write. -/
structure Mishaps.Harmless (m : Mishaps) : Prop where
  names : ∀ c ∈ m.names, c = none
  writes : ∀ a ∈ m.writes, a.isHarmless = true

theorem Mishaps.harmless_empty : Mishaps.Harmless {} where
  names c h := by cases h
  writes a h := by cases h

/-- The disk after an operation on names has begun. -/
def begun (d : Disk) : Disk :=
  { d with mishaps := { d.mishaps with names := d.mishaps.names.tail } }

theorem harmless_begun {d : Disk} (h : d.mishaps.Harmless) : d.begun.mishaps.Harmless where
  names c hc := h.names c (List.mem_of_mem_tail hc)
  writes := h.writes

/-- Work behind work that succeeded goes on where that ended. -/
theorem run_bind_ok {ε α β : Type} {w : ExceptT ε (StateM Disk) α}
    {f : α → ExceptT ε (StateM Disk) β} {d e : Disk} {a : α} (h : w.run d = (.ok a, e)) :
    (w >>= f).run d = (f a).run e := by
  show (match w.run d with | (r, s) => ExceptT.bindCont f r s) = _
  rw [h]
  rfl

/-- Work behind work that failed is not done. -/
theorem run_bind_error {ε α β : Type} {w : ExceptT ε (StateM Disk) α}
    {f : α → ExceptT ε (StateM Disk) β} {d e : Disk} {c : ε} (h : w.run d = (.error c, e)) :
    (w >>= f).run d = (.error c, e) := by
  show (match w.run d with | (r, s) => ExceptT.bindCont f r s) = _
  rw [h]
  rfl

/-- Work that says its failures in other words succeeds as it did. -/
theorem run_adapt_ok {ε ε' α : Type} {w : ExceptT ε (StateM Disk) α} (f : ε → ε') {d e : Disk}
    {a : α} (h : w.run d = (.ok a, e)) : (ExceptT.adapt f w).run d = (.ok a, e) := by
  show (match w.run d with | (r, s) => (r.mapError f, s)) = _
  rw [h]
  rfl

theorem run_change_ok {α : Type} {f : Disk → Except Cause (α × Disk)} {d e : Disk} {a : α}
    (h : f d = .ok (a, e)) : (change f).run d = (.ok a, e) := by
  show change f d = _
  rw [change, h]

theorem run_change_error {α : Type} {f : Disk → Except Cause (α × Disk)} {d : Disk} {c : Cause}
    (h : f d = .error c) : (change f).run d = (.error c, d) := by
  show change f d = _
  rw [change, h]

/-- An operation on names begins well or fails, and a mishap is used up. -/
theorem run_mishap_cases (d : Disk) :
    mishap.run d = (.ok (), d.begun) ∨ ∃ c, mishap.run d = (.error c, d.begun) := by
  show mishap d = _ ∨ ∃ c, mishap d = _
  unfold mishap begun
  rcases hn : d.mishaps.names with _ | ⟨_ | c, rest⟩
  · left
    dsimp only [List.tail_nil]
    rw [← hn]
  · exact .inl rfl
  · exact .inr ⟨_, rfl⟩

theorem run_mishap {d : Disk} (h : d.mishaps.Harmless) : mishap.run d = (.ok (), d.begun) := by
  show mishap d = _
  unfold mishap begun
  rcases hn : d.mishaps.names with _ | ⟨c, rest⟩
  · dsimp only [List.tail_nil]
    rw [← hn]
  · obtain rfl : c = none := h.names c (by rw [hn]; exact List.mem_cons_self)
    rfl

/-! ## 2. What stands where -/

theorem lookup_filter_key {β : Type} (keep : Place → Bool) (l : List (Place × β)) (p : Place) :
    (l.filter fun q => keep q.1).lookup p = if keep p then l.lookup p else none := by
  induction l with
  | nil => simp
  | cons q l ih =>
    obtain ⟨k, v⟩ := q
    cases hk : keep k with
    | true =>
      rw [List.filter_cons_of_pos (by simpa using hk), List.lookup_cons, List.lookup_cons, ih]
      by_cases h : p = k
      · subst h
        simp [hk]
      · simp [beq_false_of_ne h]
    | false =>
      rw [List.filter_cons_of_neg (by simp [hk]), ih, List.lookup_cons]
      by_cases h : p = k
      · subst h
        simp [hk]
      · simp [beq_false_of_ne h]

theorem entry?_of_ne_nil (d : Disk) {p : Place} (h : p ≠ []) : d.entry? p = d.entries.lookup p := by
  unfold entry?
  simp [h]

@[simp] theorem entry?_nil (d : Disk) : d.entry? [] = some .directory := rfl

theorem entry?_erase (d : Disk) {p : Place} (hp : p ≠ []) (q : Place) :
    entry? (d.erase p) q = if q = p then none else d.entry? q := by
  by_cases hq : q = []
  · subst hq
    rw [if_neg (Ne.symm hp), entry?_nil, entry?_nil]
  · rw [entry?_of_ne_nil _ hq, entry?_of_ne_nil _ hq]
    show (d.entries.filter fun r => r.1 != p).lookup q = _
    rw [lookup_filter_key (fun k => k != p)]
    by_cases h : q = p <;> simp [h]

theorem entry?_put (d : Disk) {p : Place} (hp : p ≠ []) (e : Entry) (q : Place) :
    entry? (d.put p e) q = if q = p then some e else d.entry? q := by
  by_cases hq : q = []
  · subst hq
    rw [if_neg (Ne.symm hp), entry?_nil, entry?_nil]
  · rw [entry?_of_ne_nil _ hq, entry?_of_ne_nil _ hq]
    show ((d.entries.filter fun r => r.1 != p) ++ [(p, e)]).lookup q = _
    rw [List.lookup_append, lookup_filter_key (fun k => k != p), List.lookup_cons, List.lookup_nil]
    by_cases h : q = p
    · subst h
      simp
    · simp [h, beq_false_of_ne h]

/-- The entries below `source`, seen from `target`: the one at `source` itself, -/
theorem lookup_rebased_self {β : Type} (source target : Place) (l : List (Place × β)) :
    ((l.filter fun q => source.isPrefixOf q.1).map
      fun q => (rebase source target q.1, q.2)).lookup target = l.lookup source := by
  induction l with
  | nil => rfl
  | cons q l ih =>
    obtain ⟨k, v⟩ := q
    by_cases h : source <+: k
    · rw [List.filter_cons_of_pos (by simpa using h), List.map_cons, List.lookup_cons,
        List.lookup_cons]
      obtain ⟨rest, rfl⟩ := h
      cases rest with
      | nil => simp [rebase]
      | cons n rest =>
        have h1 : (target == target ++ n :: rest) = false := beq_false_of_ne (by simp)
        have h2 : (source == source ++ n :: rest) = false := beq_false_of_ne (by simp)
        simp only [rebase, List.drop_left, h1, h2] at ih ⊢
        exact ih
    · rw [List.filter_cons_of_neg (by simpa using h), ih, List.lookup_cons]
      have hne : source ≠ k := fun e => h (e ▸ List.prefix_refl _)
      simp [beq_false_of_ne hne]

/-- and none that is not below `target`. -/
theorem lookup_rebased_of_not_prefix {β : Type} (source target : Place) (l : List (Place × β))
    {p : Place} (hp : ¬ target <+: p) :
    ((l.filter fun q => source.isPrefixOf q.1).map
      fun q => (rebase source target q.1, q.2)).lookup p = none := by
  rw [List.lookup_eq_none_iff]
  intro q hq
  obtain ⟨r, _, rfl⟩ := List.mem_map.mp hq
  have hne : p ≠ rebase source target r.1 := by
    intro e
    rw [e] at hp
    exact hp (List.prefix_append _ _)
  simpa using hne

/-- **What stands where after an entry was moved**: nothing where it was, the entry at its new
place, and elsewhere what was there. -/
theorem entry?_moved (d : Disk) {source target : Place} (hs : source ≠ []) (ht : target ≠ [])
    (hst : ¬ target <+: source) {p : Place} (hp : p = target ∨ p = source ∨
      (¬ source <+: p ∧ ¬ target <+: p)) :
    entry? (d.moved source target) p =
      if p = target then d.entry? source else if p = source then none else d.entry? p := by
  have hl : ∀ {p : Place}, p ≠ [] → entry? (d.moved source target) p =
      ((d.entries.filter fun q => !source.isPrefixOf q.1 && q.1 != target).lookup p).or
        (((d.entries.filter fun q => source.isPrefixOf q.1).map
          fun q => (rebase source target q.1, q.2)).lookup p) := by
    intro p hp
    rw [entry?_of_ne_nil _ hp, ← List.lookup_append]
    rfl
  have hstays : ∀ p : Place,
      (d.entries.filter fun q => !source.isPrefixOf q.1 && q.1 != target).lookup p =
        if !source.isPrefixOf p && p != target then d.entries.lookup p else none :=
    fun p => lookup_filter_key (fun k => !source.isPrefixOf k && k != target) d.entries p
  rcases hp with rfl | rfl | ⟨hsp, htp⟩
  · rw [if_pos rfl, hl ht, hstays, lookup_rebased_self, entry?_of_ne_nil _ hs]
    simp
  · have hne : p ≠ target := fun e => hst (e ▸ List.prefix_refl _)
    have hself : p.isPrefixOf p = true := List.isPrefixOf_iff_prefix.mpr (List.prefix_refl p)
    rw [if_neg hne, if_pos rfl, hl hs, hstays, lookup_rebased_of_not_prefix _ _ _ hst, hself]
    rfl
  · have hpt : p ≠ target := fun e => htp (e ▸ List.prefix_refl _)
    have hps : p ≠ source := fun e => hsp (e ▸ List.prefix_refl _)
    rw [if_neg hpt, if_neg hps]
    by_cases hn : p = []
    · subst hn
      rfl
    · rw [hl hn, hstays, lookup_rebased_of_not_prefix _ _ _ htp, entry?_of_ne_nil _ hn]
      simp [hsp, hpt]

/-! ## 3. Own paths -/

/-- **Each own path stands for a place, and leads to the file that `files` says**, if to any. -/
structure Placed (own : Path → Prop) (place : Path → Place) (files : Path → Option Nat)
    (d : Disk) : Prop where
  /-- No place lies in another. -/
  apart : ∀ p q, own p → own q → place p <+: place q → p = q
  homed : ∀ p, own p → Homed d p (place p)
  entry : ∀ p, own p → d.entry? (place p) = (files p).map .file
  filed : ∀ p k, own p → files p = some k → k < d.contents.length
  /-- No file has two of the paths. -/
  single : ∀ p q k, own p → own q → files p = some k → files q = some k → p = q

/-- So it is, and nothing is going to fail. -/
structure Kept (own : Path → Prop) (place : Path → Place) (files : Path → Option Nat)
    (d : Disk) : Prop extends Placed own place files d where
  harmless : d.mishaps.Harmless

/-- Only what stands at own places, or below them, differs. -/
abbrev Within (own : Path → Prop) (place : Path → Place) (d d' : Disk) : Prop :=
  DiffersAt (fun o => ∃ p, own p ∧ place p = o) d d'

namespace Placed

variable {own : Path → Prop} {place : Path → Place} {files : Path → Option Nat} {d d' : Disk}
  {p q : Path}

theorem isVacantOrFile (h : Placed own place files d) (hp : own p) :
    IsVacantOrFile d (place p) := by
  unfold IsVacantOrFile
  rw [h.entry p hp]
  cases files p with
  | none => exact .inl rfl
  | some k => exact .inr ⟨k, rfl⟩

theorem ne_nil (h : Placed own place files d) (hp : own p) : place p ≠ [] := (h.homed p hp).ne_nil

theorem place_ne (h : Placed own place files d) (hp : own p) (hq : own q) (hpq : p ≠ q) :
    place p ≠ place q :=
  fun e => hpq (h.apart p q hp hq (e ▸ List.prefix_refl _))

/-- **Every purpose finds the place of an own path.** -/
theorem find (h : Placed own place files d) (hp : own p) (purpose : Purpose) :
    d.find purpose p = .ok (.named (place p) ((files p).map .file) false) := by
  rw [(h.homed p hp).find (h.isVacantOrFile hp) purpose, h.entry p hp]

/-- A change at the own places, and below them at most. -/
theorem changed (h : Placed own place files d) (files' : Path → Option Nat)
    (within : Within own place d d')
    (entry : ∀ p, own p → d'.entry? (place p) = (files' p).map .file)
    (filed : ∀ p k, own p → files' p = some k → k < d'.contents.length)
    (single : ∀ p q k, own p → own q → files' p = some k → files' q = some k → p = q) :
    Placed own place files' d' where
  apart := h.apart
  homed p hp := by
    refine (h.homed p hp).mono ?_ within
    rintro o ⟨q, hq, rfl⟩
    exact h.isVacantOrFile hq
  entry := entry
  filed := filed
  single := single

theorem begun (h : Placed own place files d) : Placed own place files d.begun :=
  h.changed files (fun _ _ => rfl) h.entry h.filed h.single

theorem not_prefix (h : Placed own place files d) (hp : own p) (hq : own q) (hpq : p ≠ q) :
    ¬ place p <+: place q := fun e => hpq (h.apart p q hp hq e)

/-- One own path leads to another file, or to none. -/
theorem renumbered (h : Placed own place files d) (p : Path) (v : Option Nat)
    (homed : ∀ q, own q → Homed d' q (place q))
    (entry : ∀ q, own q → d'.entry? (place q) = (Function.update files p v q).map .file)
    (length : d.contents.length ≤ d'.contents.length)
    (filed : ∀ k, v = some k → k < d'.contents.length)
    (fresh : ∀ q k, own q → files q = some k → v ≠ some k) :
    Placed own place (Function.update files p v) d' := by
  have hcases : ∀ q k, Function.update files p v q = some k →
      q = p ∧ v = some k ∨ files q = some k := by
    intro q k hqk
    by_cases hq : q = p
    · rw [hq, Function.update_self] at hqk
      exact .inl ⟨hq, hqk⟩
    · rw [Function.update_of_ne hq] at hqk
      exact .inr hqk
  refine ⟨h.apart, homed, entry, fun q k hq hqk => ?_, fun q r k hq hr hqk hrk => ?_⟩
  · rcases hcases q k hqk with ⟨-, hv⟩ | hf
    · exact filed k hv
    · exact Nat.lt_of_lt_of_le (h.filed q k hq hf) length
  · rcases hcases q k hqk with ⟨hqp, hv⟩ | hf <;> rcases hcases r k hrk with ⟨hrp, hv'⟩ | hf'
    · exact hqp.trans hrp.symm
    · exact absurd hv (fresh r k hr hf')
    · exact absurd hv' (fresh q k hq hf)
    · exact h.single q r k hq hr hf hf'

/-- One own path leads to another file, or to none, and that is the only change. -/
theorem reassigned (h : Placed own place files d) (hp : own p) (v : Option Nat)
    (entry : ∀ r, d'.entry? r = if r = place p then v.map .file else d.entry? r)
    (length : d.contents.length ≤ d'.contents.length)
    (filed : ∀ k, v = some k → k < d'.contents.length)
    (fresh : ∀ q k, own q → files q = some k → v ≠ some k) :
    Placed own place (Function.update files p v) d' := by
  have hat : ∀ o, (∃ r, r = p ∧ place r = o) → IsVacantOrFile d o := by
    rintro o ⟨r, rfl, rfl⟩
    exact h.isVacantOrFile hp
  refine h.renumbered p v (fun q hq => (h.homed q hq).mono hat fun o ho => ?_) (fun q hq => ?_)
    length filed fresh
  · rw [entry, if_neg]
    exact fun e => ho _ ⟨p, rfl, rfl⟩ (e ▸ List.prefix_refl _)
  · rw [entry]
    by_cases e : q = p
    · rw [e, if_pos rfl, Function.update_self]
    · rw [if_neg (h.place_ne hq hp e), Function.update_of_ne e]
      exact h.entry q hq

/-! ## 4. Removing and renaming -/

/-- What is removed is a file; where there is none, that is said. -/
theorem withoutFile (h : Placed own place files d) (hp : own p) :
    Disk.withoutFile p d = match files p with
      | some _ => .ok ((), d.erase (place p))
      | none => .error (.system .notFound) := by
  rw [Disk.withoutFile, h.find hp .name]
  cases files p <;> simp [(h.homed p hp).not_hasLongName]

theorem within_erase (h : Placed own place files d) (hp : own p) :
    Within own place d (d.erase (place p)) := by
  intro o ho
  rw [entry?_erase d (h.ne_nil hp), if_neg]
  rintro rfl
  exact ho _ ⟨p, hp, rfl⟩ (List.prefix_refl _)

/-- **An own path that is removed leads nowhere.** -/
theorem erased (h : Placed own place files d) (hp : own p) :
    Placed own place (Function.update files p none) (d.erase (place p)) :=
  h.reassigned hp none (entry?_erase d (h.ne_nil hp)) (Nat.le_refl _) (fun _ e => by cases e)
    (fun _ _ _ _ e => by cases e)

/-- The files after one went from `p` to `q`. -/
def moveFile (files : Path → Option Nat) (p q : Path) (r : Path) : Option Nat :=
  if r = q then files p else if r = p then none else files r

/-- The one file that there is, is moved. -/
theorem moveFile_single (p q : Path) (v : Option Nat) :
    moveFile (Function.update (fun _ => none) p v) p q = Function.update (fun _ => none) q v := by
  funext r
  unfold moveFile
  by_cases hq : r = q
  · rw [if_pos hq, Function.update_self, hq, Function.update_self]
  · rw [if_neg hq, Function.update_of_ne hq]
    split
    · rfl
    · exact Function.update_of_ne ‹_› _ _

/-- What a path leads to after a move, another led to before. -/
theorem exists_of_moveFile {r : Path} {k : Nat} (hr : moveFile files p q r = some k) :
    r = q ∧ files p = some k ∨ r ≠ q ∧ r ≠ p ∧ files r = some k := by
  unfold moveFile at hr
  split at hr
  · exact .inl ⟨‹_›, hr⟩
  · split at hr
    · cases hr
    · exact .inr ⟨‹_›, ‹_›, hr⟩

theorem within_moved (h : Placed own place files d) (hp : own p) (hq : own q) (hpq : p ≠ q) :
    Within own place d (d.moved (place p) (place q)) := by
  intro o ho
  have hop := ho _ ⟨p, hp, rfl⟩
  have hoq := ho _ ⟨q, hq, rfl⟩
  have hneq : o ≠ place q := fun e => hoq (e ▸ List.prefix_refl _)
  have hnep : o ≠ place p := fun e => hop (e ▸ List.prefix_refl _)
  rw [entry?_moved d (h.ne_nil hp) (h.ne_nil hq) (h.not_prefix hq hp hpq.symm)
    (.inr (.inr ⟨hop, hoq⟩)), if_neg hneq, if_neg hnep]

/-- **A file that is moved is at the other own path**, whatever was there. -/
theorem moved (h : Placed own place files d) (hp : own p) (hq : own q) (hpq : p ≠ q) :
    Placed own place (moveFile files p q) (d.moved (place p) (place q)) := by
  have hne : place p ≠ place q := h.place_ne hp hq hpq
  have he := fun {r : Place} =>
    entry?_moved d (h.ne_nil hp) (h.ne_nil hq) (h.not_prefix hq hp hpq.symm) (p := r)
  refine h.changed _ (h.within_moved hp hq hpq) (fun r hr => ?_) (fun r k hr hk => ?_)
    (fun r r' k hr hr' hk hk' => ?_)
  · by_cases erq : r = q
    · rw [erq, he (.inl rfl), if_pos rfl, moveFile, if_pos rfl]
      exact h.entry p hp
    by_cases erp : r = p
    · rw [erp, he (.inr (.inl rfl)), if_neg hne, if_pos rfl, moveFile, if_neg hpq, if_pos rfl]
      rfl
    have hpr := h.not_prefix hp hr (Ne.symm erp)
    have hqr := h.not_prefix hq hr (Ne.symm erq)
    rw [he (.inr (.inr ⟨hpr, hqr⟩)), if_neg (h.place_ne hr hq erq),
      if_neg (h.place_ne hr hp erp), moveFile, if_neg erq, if_neg erp]
    exact h.entry r hr
  · rcases exists_of_moveFile hk with ⟨-, hk⟩ | ⟨-, -, hk⟩
    · exact h.filed p k hp hk
    · exact h.filed r k hr hk
  · rcases exists_of_moveFile hk with ⟨e, hj⟩ | ⟨-, hrp, hj⟩
    · rcases exists_of_moveFile hk' with ⟨e', -⟩ | ⟨-, hrp', hj'⟩
      · rw [e, e']
      · exact absurd (h.single r' p k hr' hp hj' hj) hrp'
    · rcases exists_of_moveFile hk' with ⟨-, hj'⟩ | ⟨-, -, hj'⟩
      · exact absurd (h.single r p k hr hp hj hj') hrp
      · exact h.single r r' k hr hr' hj hj'

/-- Nothing forbids the move. -/
theorem transferred (h : Placed own place files d) (hp : own p) (hq : own q) (hpq : p ≠ q)
    (k : Nat) :
    Disk.transferred d (place p) (.file k) (place q) ((files q).map .file) false =
      .ok (d.moved (place p) (place q)) := by
  have hne : place p ≠ place q := h.place_ne hp hq hpq
  have habove : ∀ {r r' : Path}, own r → own r' → r ≠ r' →
      (place r).isPrefixOf (place r').dropLast = false := by
    intro r r' hr hr' hrr
    rw [Bool.eq_false_iff]
    intro e
    exact h.not_prefix hr hr' hrr
      ((List.isPrefixOf_iff_prefix.mp e).trans (List.dropLast_prefix _))
  unfold Disk.transferred
  rw [(h.homed q hq).not_hasLongName, habove hp hq hpq, habove hq hp hpq.symm]
  cases files q with
  | none => simp [hne]
  | some j => simp [hne, mayReplace, Except.map]

/-- A file is renamed; where there is none, that is said. -/
theorem renamed (h : Placed own place files d) (hp : own p) (hq : own q) (hpq : p ≠ q) :
    Disk.renamed p q d = match files p with
      | some _ => .ok ((), d.moved (place p) (place q))
      | none => .error (.system .notFound) := by
  have hlong := (h.homed p hp).not_hasLongName
  rw [Disk.renamed, h.find hp .name, h.find hq .name]
  cases files p with
  | none => simp [hlong]
  | some k => simp [hlong, h.transferred hp hq hpq k]

end Placed

/-! ## 5. What an operation makes of the files -/

/-- **Own paths lead to the files that `files'` says now.** Entries have gone or moved, what files
hold is as it was, and no mishap is new. -/
structure Rearranged (own : Path → Prop) (place : Path → Place) (files' : Path → Option Nat)
    (d d' : Disk) : Prop where
  placed : Placed own place files' d'
  within : Within own place d d'
  /-- No file is new. -/
  origin : ∀ p k, own p → files' p = some k → ∃ q, own q ∧ d.entry? (place q) = some (.file k)
  contents : d'.contents = d.contents
  names : d'.mishaps.names <:+ d.mishaps.names
  writes : d'.mishaps.writes = d.mishaps.writes

namespace Placed

variable {own : Path → Prop} {place : Path → Place} {files : Path → Option Nat} {d : Disk}
  {p q : Path}

/-- The file of an own path is what stands at its place. -/
theorem entry_eq_file (h : Placed own place files d) (hp : own p) {k : Nat} :
    d.entry? (place p) = some (.file k) ↔ files p = some k := by
  rw [h.entry p hp]
  cases files p <;> simp

/-- Where files only went or moved, none is new. -/
theorem origin_of_removed (h : Placed own place files d) {r : Path} {k : Nat} (hr : own r)
    (hk : Function.update files p none r = some k) :
    ∃ q, own q ∧ d.entry? (place q) = some (.file k) := by
  by_cases e : r = p
  · rw [e, Function.update_self] at hk
    cases hk
  · rw [Function.update_of_ne e] at hk
    exact ⟨r, hr, (h.entry_eq_file hr).mpr hk⟩

theorem origin_of_moved (h : Placed own place files d) (hp : own p) {r : Path} {k : Nat}
    (hr : own r) (hk : moveFile files p q r = some k) :
    ∃ q, own q ∧ d.entry? (place q) = some (.file k) := by
  rcases exists_of_moveFile hk with ⟨-, hj⟩ | ⟨-, -, hj⟩
  · exact ⟨p, hp, (h.entry_eq_file hp).mpr hj⟩
  · exact ⟨r, hr, (h.entry_eq_file hr).mpr hj⟩

/-- An operation has begun, and that was all. -/
theorem rearranged_begun (h : Placed own place files d) :
    Rearranged own place files d d.begun where
  placed := h.begun
  within _ _ := rfl
  origin p _ hp hk := ⟨p, hp, (h.entry_eq_file hp).mpr hk⟩
  contents := rfl
  names := List.tail_suffix _
  writes := rfl

/-- An own path is removed, once that has begun well; where nothing is, that is said. -/
theorem removeFile (h : Placed own place files d) (hp : own p)
    (hm : mishap.run d = (.ok (), d.begun)) :
    ∃ d', (Disk.removeFile p).run d =
        (if (files p).isSome then .ok () else .error (.system .notFound), d') ∧
      Rearranged own place (Function.update files p none) d d' := by
  have hb := h.begun
  have hw := hb.withoutFile hp
  have hrun := run_bind_ok (f := fun _ => change (Disk.withoutFile p)) hm
  cases hk : files p with
  | none =>
    rw [hk] at hw
    refine ⟨d.begun, hrun.trans (run_change_error hw), ?_⟩
    rw [← hk, Function.update_eq_self]
    exact h.rearranged_begun
  | some k =>
    rw [hk] at hw
    exact ⟨d.begun.erase (place p), hrun.trans (run_change_ok hw), hb.erased hp,
      hb.within_erase hp, fun _ _ => hb.origin_of_removed, rfl, List.tail_suffix _, rfl⟩

/-- One that is not there needs no removing. -/
theorem removeIfThere (h : Placed own place files d) (hp : own p)
    (hm : mishap.run d = (.ok (), d.begun)) :
    ∃ d', (Disk.removeIfThere p).run d = (.ok (), d') ∧
      Rearranged own place (Function.update files p none) d d' := by
  obtain ⟨d', hr, hre⟩ := h.removeFile hp hm
  refine ⟨d', ?_, hre⟩
  show Disk.removeIfThere p d = _
  rw [Disk.removeIfThere, hr]
  cases files p <;> rfl

/-- A file is renamed, once that has begun well. -/
theorem rename (h : Placed own place files d) (hp : own p) (hq : own q) (hpq : p ≠ q)
    (hm : mishap.run d = (.ok (), d.begun)) {k : Nat} (hk : files p = some k) :
    ∃ d', (Disk.rename p q).run d = (.ok (), d') ∧
      Rearranged own place (moveFile files p q) d d' := by
  have hb := h.begun
  have hw := hb.renamed hp hq hpq
  rw [hk] at hw
  exact ⟨d.begun.moved (place p) (place q), (run_bind_ok hm).trans (run_change_ok hw),
    hb.moved hp hq hpq, hb.within_moved hp hq hpq, fun _ _ => hb.origin_of_moved hp, rfl,
    List.tail_suffix _, rfl⟩

/-- What is not there is not renamed. -/
theorem rename_of_none (h : Placed own place files d) (hp : own p) (hq : own q) (hpq : p ≠ q)
    (hm : mishap.run d = (.ok (), d.begun)) (hk : files p = none) :
    (Disk.rename p q).run d = (.error (.system .notFound), d.begun) := by
  have hw := h.begun.renamed hp hq hpq
  rw [hk] at hw
  exact (run_bind_ok hm).trans (run_change_error hw)

end Placed

/-! ## 6. Where nothing fails -/

namespace Kept

variable {own : Path → Prop} {place : Path → Place} {files files' : Path → Option Nat}
  {d d' : Disk} {p q : Path}

theorem rearranged (h : Kept own place files d) (hr : Rearranged own place files' d d') :
    Kept own place files' d' where
  toPlaced := hr.placed
  harmless := {
    names := fun c hc => h.harmless.names c (hr.names.subset hc)
    writes := hr.writes ▸ h.harmless.writes }

/-- **An own path is removed.** -/
theorem removeIfThere (h : Kept own place files d) (hp : own p) :
    ∃ d', (Disk.removeIfThere p).run d = (.ok (), d') ∧
      Kept own place (Function.update files p none) d' ∧ d'.contents = d.contents := by
  obtain ⟨d', hr, hre⟩ := h.toPlaced.removeIfThere hp (run_mishap h.harmless)
  exact ⟨d', hr, h.rearranged hre, hre.contents⟩

theorem rename (h : Kept own place files d) (hp : own p) (hq : own q) (hpq : p ≠ q) {k : Nat}
    (hk : files p = some k) :
    ∃ d', (Disk.rename p q).run d = (.ok (), d') ∧
      Kept own place (Placed.moveFile files p q) d' ∧ d'.contents = d.contents := by
  obtain ⟨d', hr, hre⟩ := h.toPlaced.rename hp hq hpq (run_mishap h.harmless) hk
  exact ⟨d', hr, h.rearranged hre, hre.contents⟩

theorem replace (h : Kept own place files d) (hp : own p) (hq : own q) (hpq : p ≠ q) {k : Nat}
    (hk : files p = some k) :
    ∃ d', (Disk.replace p q).run d = (.ok (), d') ∧
      Kept own place (Placed.moveFile files p q) d' ∧ d'.contents = d.contents := by
  obtain ⟨d', hr, hkept⟩ := h.rename hp hq hpq hk
  refine ⟨d', ?_, hkept⟩
  show Disk.replace p q d = _
  rw [Disk.replace, hr]

end Kept

end Logworks.Disk
