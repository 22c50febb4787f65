import Logworks.Proofs.Codec.Honest
import Logworks.Proofs.Rotation.Endurance
import Mathlib.Data.List.Infix

/-!
# What stands beside a log

A log works in one directory, together with the codec that compresses its history. Names there that
are neither the log's nor the codec's keep what they have. This file fixes

* `entryAt?` -- what stands at the name of a path;
* `Bare` -- **the disk as a log with a codec may find it, with no history yet**;
* `Framed` -- what the two may have done to it; `Framed.own`, `Framed.made` -- and go on to do;
* `Framed.entryAt?_beyond` -- **then nothing stands in a slot beyond the last one**;
* `Framed.laid` -- and the codec may begin whenever slot 1 has a plain file and no other.
-/

namespace Logworks.Rotation

open Logworks.Disk Logworks.Codec

/-! ## 1. Names beside those of a log -/

/-- What stands at the name of a path, not followed if it is a link. -/
def entryAt? (d : Disk) (p : Path) : Option Entry :=
  match d.find .name p with
  | .ok (.named _ e _) => e
  | _ => none

variable {base : Path} {maxFiles : Nat} {suffixes : List String} {d d' : Disk}

/-- The last name of a path, which is not followed. -/
theorem walk_name (d : Disk) (links : Nat) (dir : Place) (x : Name) (isSlashed : Bool) :
    d.walk .name links dir [x] isSlashed =
      if x = ['.'] then .ok (.unnamed dir)
      else if x = ['.', '.'] then .ok (.unnamed dir.dropLast)
      else .ok (.named (dir ++ [x]) (d.entry? (dir ++ [x])) isSlashed) := by
  rw [walk_cons, walk_nil, walk_nil]
  rfl

/-- **Names that lead to a directory lead to what stands in it.** -/
theorem entryAt?_of_leads {ns : List Name} {x : Name} {left : Nat} {dir : Place} {p : Path}
    (hl : Leads d mostLinks [] ns left dir) (hn : p.names = ns ++ [x]) :
    entryAt? d p =
      if (pathFault? p).isSome || isDots x then none else d.entry? (dir ++ [x]) := by
  unfold entryAt? Disk.find
  rw [hn, walk_of_leads hl .name (by simp), walk_name, isDots]
  cases pathFault? p with
  | some c => rfl
  | none =>
    by_cases h1 : x = ['.']
    · simp [h1]
    · by_cases h2 : x = ['.', '.'] <;> simp [h1, h2]

/-- The names of slots, whatever is behind them, are names in the directory of the log. -/
theorem Ready.exists_leads (h : Ready base maxFiles suffixes d) :
    ∃ ns left, Leads d mostLinks [] ns left (placeAt d base).dropLast ∧
      ∀ i (e : String), '/' ∉ e.toList →
        (slotPath base i e).names = ns ++ [slotName base i ++ e.toList] := by
  obtain ⟨ns, left, hl, hnames⟩ := (h.homed .active).1.exists_leads
  refine ⟨ns, left, hl, fun i e he => ?_⟩
  obtain ⟨hslash, hne⟩ := h.sound.one_name i he
  rw [slotPath_eq, hnames _ hslash hne]

/-- So their places are in that directory. -/
theorem Ready.place_beside (h : Ready base maxFiles suffixes d) {i : Nat} {e : String}
    {place : Place} (hh : Homed d (slotPath base i e) place) (he : '/' ∉ e.toList) :
    place = (placeAt d base).dropLast ++ [slotName base i ++ e.toList] := by
  obtain ⟨hslash, hne⟩ := h.sound.one_name i he
  rw [slotPath_eq] at hh
  exact (h.homed .active).1.beside hh hslash hne

/-- A slot has no file if nothing stands at its place. -/
theorem Ready.entryAt?_eq_none (h : Ready base maxFiles suffixes d) {i : Nat} {e : String}
    (he : IsEnding suffixes e)
    (hnone : d.entry? ((placeAt d base).dropLast ++ [slotName base i ++ e.toList]) = none) :
    entryAt? d (slotPath base i e) = none := by
  obtain ⟨ns, left, hl, hnames⟩ := h.exists_leads
  rw [entryAt?_of_leads hl (hnames i e (he.slash h.suffix)), hnone, ite_self]

/-- The place of a path of a log, and its name there. -/
theorem Ready.exists_name (h : Ready base maxFiles suffixes d) {m : Name}
    (hm : base.name? = some m) {p : Path} (hp : IsOwn base maxFiles suffixes p) :
    ∃ x, placeAt d p = (placeAt d base).dropLast ++ [x] ∧
      (x = m ∨ ∃ i e, i ≤ maxFiles ∧ IsEnding suffixes e ∧ x = slotName base i ++ e.toList) := by
  cases hp with
  | active =>
    obtain ⟨heads, m', left, dir, hm', hplace, -⟩ := (h.homed .active).1.exists_hasName
    obtain rfl : m' = m := by
      have hn := Path.name?_of_hasName hm'
      rw [hm, Option.some.injEq] at hn
      exact hn.symm
    exact ⟨m', by rw [hplace, List.dropLast_concat], .inl rfl⟩
  | slot i e hi hn he =>
    have hh := (h.homed (.slot i e hi hn he)).1
    exact ⟨_, h.place_beside hh (he.slash h.suffix), .inr ⟨i, e, hn, he, rfl⟩⟩

/-- **No path of a log stands for the place of another slot**, or for one above it. -/
theorem Ready.not_prefix (h : Ready base maxFiles suffixes d) {i : Nat} {s : List Char}
    (hs : Dotted s) (hother : ∀ e, i ≤ maxFiles → IsEnding suffixes e → e.toList ≠ s) {p : Path}
    (hp : IsOwn base maxFiles suffixes p) :
    ¬ placeAt d p <+: (placeAt d base).dropLast ++ [slotName base i ++ s] := by
  obtain ⟨heads, m, hm⟩ := h.sound.name
  have hname := Path.name?_of_hasName hm
  obtain ⟨x, hx, hcases⟩ := h.exists_name hname hp
  intro hpre
  rw [hx, List.prefix_append_right_inj] at hpre
  obtain rfl : x = slotName base i ++ s := by simpa using hpre
  rcases hcases with hxm | ⟨j, e, hj, he, hxj⟩
  · exact slotName_append_ne hname i s hxm
  · obtain ⟨rfl, hse⟩ := slotName_append_inj hname hs (he.dotted h.sound.suffix) hxj
    exact hother e hj he hse.symm

/-! ## 2. A log and its codec -/

variable {place : Path → Place} {files : Path → Option Nat} {suffix : String} {spare : List String}
  {d₀ : Disk} {v : Option Nat} {r : Except Fault Nat}

/-- What stands at the name of an own path. -/
theorem entryAt?_own {own : Path → Prop} (h : Placed own place files d) {p : Path} (hp : own p) :
    entryAt? d p = (files p).map .file := by
  rw [entryAt?, h.find hp .name]

/-- The paths of a log, and those that its codec works with. -/
def IsMine (base : Path) (maxFiles : Nat) (suffix : String) (spare : List String) (p : Path) :
    Prop :=
  IsOwn base maxFiles [suffix] p ∨ ∃ t ∈ spare, p = slotPath base 1 (suffix ++ t)

/-- The codec uses the compressed file of slot 1, and its own files beside that. -/
theorem uses_cases {p : Path} (h : Uses spare (slotPath base 1 suffix) p) :
    p = slotPath base 1 suffix ∨ ∃ t ∈ spare, p = slotPath base 1 (suffix ++ t) := by
  obtain ⟨t, ht, rfl⟩ := h
  rw [slotPath_withSuffix]
  rcases List.mem_cons.mp ht with rfl | ht
  · exact .inl (by rw [String.append_empty])
  · exact .inr ⟨t, ht, rfl⟩

theorem uses_spare {t : String} (ht : t ∈ spare) :
    Uses spare (slotPath base 1 suffix) (slotPath base 1 (suffix ++ t)) :=
  ⟨t, List.mem_cons_of_mem _ ht, (slotPath_withSuffix base 1 suffix t).symm⟩

/-- **The disk as a log with a codec may find it**: the log can work, no slot has a file, and the
codec can make its files beside slot 1. -/
structure Bare (base : Path) (maxFiles : Nat) (suffix : String) (spare : List String) (d : Disk) :
    Prop where
  ready : Ready base maxFiles [suffix] d
  slots : 1 ≤ maxFiles
  vacant : ∀ i e, 1 ≤ i → IsEnding [suffix] e → entryAt? d (slotPath base i e) = none
  named : ∀ t ∈ spare, t ≠ "" ∧ '/' ∉ t.toList
  homed : ∀ t ∈ spare, Homed d (slotPath base 1 (suffix ++ t))
    (placeAt d (slotPath base 1 (suffix ++ t)))
  free : ∀ t ∈ spare, d.entry? (placeAt d (slotPath base 1 (suffix ++ t))) = none

namespace Bare

theorem isSuffix (h : Bare base maxFiles suffix spare d) : IsSuffix suffix :=
  h.ready.suffix suffix List.mem_cons_self

/-- The two files that slot 1 may have. -/
theorem own_plain (h : Bare base maxFiles suffix spare d) :
    IsOwn base maxFiles [suffix] (slotPath base 1 "") :=
  .slot 1 "" (Nat.le_refl 1) h.slots (.inl rfl)

theorem own_packed (h : Bare base maxFiles suffix spare d) :
    IsOwn base maxFiles [suffix] (slotPath base 1 suffix) :=
  .slot 1 suffix (Nat.le_refl 1) h.slots (.inr List.mem_cons_self)

theorem dotted_append (h : Bare base maxFiles suffix spare d) (t : String) :
    Dotted (suffix ++ t).toList := by
  obtain ⟨rest, hrest⟩ := h.isSuffix.dot
  rw [String.toList_append, hrest]
  exact .inr ⟨rest ++ t.toList, rfl⟩

theorem isVacantOrFile (h : Bare base maxFiles suffix spare d) (o : Place)
    (ho : ∃ p, IsMine base maxFiles suffix spare p ∧ placeAt d p = o) : IsVacantOrFile d o := by
  obtain ⟨p, hp | ⟨t, ht, rfl⟩, rfl⟩ := ho
  · exact h.ready.racked.kept.isVacantOrFile hp
  · exact .inl (h.free t ht)

/-- Where the codec works beside slot 1. -/
theorem place_spare (h : Bare base maxFiles suffix spare d) {t : String} (ht : t ∈ spare) :
    placeAt d (slotPath base 1 (suffix ++ t)) =
      (placeAt d base).dropLast ++ [slotName base 1 ++ (suffix ++ t).toList] := by
  refine h.ready.place_beside (h.homed t ht) ?_
  rw [String.toList_append, List.mem_append, not_or]
  exact ⟨h.isSuffix.slash, (h.named t ht).2⟩

/-- **The log's paths are not those that the codec works with.** -/
theorem not_prefix_spare (h : Bare base maxFiles suffix spare d) {t : String} (ht : t ∈ spare)
    {p : Path} (hp : IsOwn base maxFiles [suffix] p) :
    ¬ placeAt d p <+: placeAt d (slotPath base 1 (suffix ++ t)) := by
  rw [h.place_spare ht]
  refine h.ready.not_prefix (h.dotted_append t) (fun e _ he hse => ?_) hp
  have heq := String.toList_inj.mp hse
  rcases he with rfl | he
  · exact h.isSuffix.ne_empty (String.append_eq_empty_iff.mp heq.symm).1
  · rw [List.mem_singleton.mp he] at hse
    rw [String.toList_append] at hse
    exact (h.named t ht).1 (String.toList_eq_nil_iff.mp (List.append_right_eq_self.mp hse.symm))

end Bare

/-! ## 3. What a log and its codec do to a disk -/

/-- **Only the log's paths and the codec's have changed**, and the codec has left nothing behind. -/
structure Framed (base : Path) (maxFiles : Nat) (suffix : String) (spare : List String)
    (d₀ d : Disk) : Prop where
  within : Within (IsMine base maxFiles suffix spare) (placeAt d₀) d₀ d
  cleared : ∀ t ∈ spare, d.entry? (placeAt d₀ (slotPath base 1 (suffix ++ t))) = none

namespace Framed

theorem refl (hb : Bare base maxFiles suffix spare d) : Framed base maxFiles suffix spare d d where
  within _ _ := rfl
  cleared := hb.free

theorem homed (h : Framed base maxFiles suffix spare d₀ d)
    (hb : Bare base maxFiles suffix spare d₀) {p : Path} {there : Place} (hp : Homed d₀ p there) :
    Homed d p there := hp.mono hb.isVacantOrFile h.within

/-- The log has worked on its paths. -/
theorem own (h : Framed base maxFiles suffix spare d₀ d) (hb : Bare base maxFiles suffix spare d₀)
    (hw : Within (IsOwn base maxFiles [suffix]) (placeAt d₀) d d') :
    Framed base maxFiles suffix spare d₀ d' where
  within o ho := by
    refine (hw o ?_).trans (h.within o ho)
    rintro _ ⟨p, hp, rfl⟩
    exact ho _ ⟨p, .inl hp, rfl⟩
  cleared t ht := by
    refine (hw _ ?_).trans (h.cleared t ht)
    rintro _ ⟨p, hp, rfl⟩
    exact hb.not_prefix_spare ht hp

/-- The codec has compressed slot 1. -/
theorem made (h : Framed base maxFiles suffix spare d₀ d) (hb : Bare base maxFiles suffix spare d₀)
    (hmade : Made spare (slotPath base 1 suffix) (placeAt d₀) v d r d') :
    Framed base maxFiles suffix spare d₀ d' where
  within o ho := by
    refine (hmade.within o ?_).trans (h.within o ho)
    rintro _ ⟨p, hp, rfl⟩
    refine ho _ ⟨p, ?_, rfl⟩
    rcases uses_cases hp with rfl | hp
    · exact .inl hb.own_packed
    · exact .inr hp
  cleared t ht := by
    refine hmade.cleared _ (uses_spare ht) fun he => hb.not_prefix_spare ht hb.own_packed ?_
    rw [he]

/-- **The codec may begin** when slot 1 has a plain file and no compressed one. -/
theorem laid (h : Framed base maxFiles suffix spare d₀ d) (hb : Bare base maxFiles suffix spare d₀)
    (hk : Kept (IsOwn base maxFiles [suffix]) (placeAt d₀) files d) {k : Nat}
    (hsource : files (slotPath base 1 "") = some k)
    (hfree : files (slotPath base 1 suffix) = none) :
    Laid spare (slotPath base 1 "") (slotPath base 1 suffix) (placeAt d₀) d := by
  refine ⟨hk.harmless, ⟨_, k, hk.homed _ hb.own_plain, ?_, hk.filed _ k hb.own_plain hsource⟩,
    fun p hp => ?_, fun p hp => ?_⟩
  · rw [hk.entry _ hb.own_plain, hsource]
    rfl
  · rcases uses_cases hp with rfl | ⟨t, ht, rfl⟩
    · exact hk.homed _ hb.own_packed
    · exact h.homed hb (hb.homed t ht)
  · rcases uses_cases hp with rfl | ⟨t, ht, rfl⟩
    · rw [hk.entry _ hb.own_packed, hfree]
      rfl
    · exact h.cleared t ht

/-- **The new file is that of the compressed slot**, and all else is as it was. -/
theorem placed (h : Framed base maxFiles suffix spare d₀ d)
    (hb : Bare base maxFiles suffix spare d₀)
    (hk : Kept (IsOwn base maxFiles [suffix]) (placeAt d₀) files d)
    (hfree : files (slotPath base 1 suffix) = none)
    (hmade : Made spare (slotPath base 1 suffix) (placeAt d₀) v d r d') :
    Kept (IsOwn base maxFiles [suffix]) (placeAt d₀)
      (Function.update files (slotPath base 1 suffix) v) d' := by
  have hvacant : ∀ o, (∃ p, Uses spare (slotPath base 1 suffix) p ∧ placeAt d₀ p = o) →
      d.entry? o = none := by
    rintro _ ⟨p, hp, rfl⟩
    rcases uses_cases hp with rfl | ⟨t, ht, rfl⟩
    · rw [hk.entry _ hb.own_packed, hfree]
      rfl
    · exact h.cleared t ht
  have hother : ∀ q, IsOwn base maxFiles [suffix] q → q ≠ slotPath base 1 suffix →
      d'.entry? (placeAt d₀ q) = d.entry? (placeAt d₀ q) := by
    intro q hq hne
    refine hmade.within _ ?_
    rintro _ ⟨p, hp, rfl⟩ hpre
    rcases uses_cases hp with rfl | ⟨t, ht, rfl⟩
    · exact hk.not_prefix hb.own_packed hq hne.symm hpre
    · have he := (hk.homed q hq).eq_of_below (.inl (h.cleared t ht)) hpre
      exact hb.not_prefix_spare ht hq (he ▸ List.prefix_refl _)
  refine ⟨hk.renumbered _ v (fun p hp => ?_) (fun p hp => ?_) hmade.length
    (fun k hv => (hmade.fresh k hv).2) (fun q k hq hqk hvk => ?_), hmade.harmless⟩
  · exact (hk.homed p hp).mono (fun o ho => .inl (hvacant o ho)) hmade.within
  · by_cases hne : p = slotPath base 1 suffix
    · rw [hne, Function.update_self]
      exact hmade.entry
    · rw [Function.update_of_ne hne, hother p hp hne]
      exact hk.entry p hp
  · exact absurd (hk.filed q k hq hqk) (Nat.not_lt_of_le (hmade.fresh k hvk).1)

/-- **Nothing stands in a slot beyond the last one.** -/
theorem entryAt?_beyond (h : Framed base maxFiles suffix spare d₀ d)
    (hb : Bare base maxFiles suffix spare d₀) {i : Nat} (hi : maxFiles < i) {e : String}
    (he : IsEnding [suffix] e) : entryAt? d (slotPath base i e) = none := by
  obtain ⟨heads, m, hname⟩ := hb.ready.sound.name
  have hm' := Path.name?_of_hasName hname
  obtain ⟨ns, left, hl, hnames⟩ := hb.ready.exists_leads
  have hns := hnames i e (he.slash hb.ready.suffix)
  have hsame : entryAt? d (slotPath base i e) = entryAt? d₀ (slotPath base i e) := by
    rw [entryAt?_of_leads hl hns,
      entryAt?_of_leads (hl.mono (inside_nil d₀) hb.isVacantOrFile h.within) hns, h.within]
    rintro _ ⟨p, hp | ⟨t, ht, rfl⟩, rfl⟩
    · exact hb.ready.not_prefix (he.dotted hb.ready.suffix) (fun _ hle => by omega) hp
    · rw [hb.place_spare ht, List.prefix_append_right_inj]
      intro hpre
      have hsame : slotName base 1 ++ (suffix ++ t).toList = slotName base i ++ e.toList := by
        simpa using hpre
      obtain ⟨hone, -⟩ :=
        slotName_append_inj hm' (hb.dotted_append t) (he.dotted hb.ready.suffix) hsame
      have hone' := hb.slots
      omega
  rw [hsame, hb.vacant i e (Nat.le_trans hb.slots (Nat.le_of_lt hi)) he]

end Framed

end Logworks.Rotation
