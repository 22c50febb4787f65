import Logworks.Codec.Basic
import Logworks.Proofs.Disk.Beside
import Logworks.Proofs.Rotation.SlotPaths

/-!
# Slots never collide

A log and the files of its history are in one directory, where each of them needs a name of its own.
The name of a log may end in numbers or in endings itself; still no file of the history is written
over by another one, by the log, or by a compression that is under way. This file fixes

* `not_alike_half` -- **a path half-way to a compressed file is no path of a slot**;
* `slotPath_inj_of_homed`, `not_homed_base` -- no disk has two of the files at one place;
* `slots_never_collide` -- **the paths of a log and its slots are distinct**.
-/

namespace Logworks.Rotation

open Logworks.Disk Logworks.Codec

/-! ## 1. Half-way paths -/

variable {base : Path} {m : List Char} {s t : String}

/-- The last part of an ending that is half-way says something. So its first part has the end of it
unless more parts follow that do. -/
theorem exists_half_parts (hs : Dotted s.toList) :
    ∃ first rest, Path.partsOf (s ++ ".tmp").toList = first :: rest ∧ Dotted first ∧
      (rest.filter (!Path.isVoid ·) = [] → first.getLast? = some 'p') := by
  obtain ⟨first, rest, parts, dotted⟩ := exists_first hs.half
  refine ⟨first, rest, parts, dotted, fun none => ?_⟩
  obtain ⟨init, x, last⟩ : ∃ init x, Path.partsOf s.toList = init ++ [x] :=
    ⟨_, _, (List.dropLast_concat_getLast (Path.partsOf_ne_nil _)).symm⟩
  rw [String.toList_append, Path.partsOf_append_last last (by decide)] at parts
  cases init with
  | nil =>
    obtain ⟨rfl, -⟩ := List.cons.inj parts
    rw [List.getLast?_append]
    rfl
  | cons head init =>
    rw [List.cons_append, List.cons.injEq] at parts
    obtain ⟨-, rfl⟩ := parts
    have solid : Path.isVoid (x ++ ".tmp".toList) = false :=
      Path.isVoid_eq_false.mpr ⟨by simp, fun same => by simpa using congrArg List.getLast? same⟩
    have void := List.filter_eq_nil_iff.mp none (x ++ ".tmp".toList) (List.mem_append_right _
      List.mem_cons_self)
    rw [solid] at void
    exact absurd rfl void

/-- **A path half-way to a compressed file is none of them.** -/
theorem not_alike_half (named : base.name? = some m) (i : Nat) (hs : Dotted s.toList) {j : Nat}
    (ht : IsEnding [gzip.suffix, zstd.suffix] t) :
    ¬ (slotPath base i (s ++ ".tmp")).Alike (slotPath base j t) := by
  intro alike
  have suffixes : ∀ e ∈ [gzip.suffix, zstd.suffix], IsSuffix e := by
    simp only [List.forall_mem_cons, List.not_mem_nil, false_implies, implies_true, and_true]
    exact ⟨⟨⟨['g', 'z'], rfl⟩, by decide⟩, ⟨⟨['z', 's', 't'], rfl⟩, by decide⟩⟩
  obtain ⟨heads, voids, h⟩ := Path.exists_named named
  obtain ⟨first, rest, parts, dotted, whole⟩ := exists_half_parts hs
  have same := alike.route
  rw [route_slotPath h i parts,
    route_slotPath h j (Path.partsOf_of_not_mem (ht.slash suffixes)),
    List.append_cancel_left_eq, List.cons.injEq] at same
  have last : t.toList.getLast? = some 'p' := by
    rw [← (slotName_append_inj named dotted (ht.dotted suffixes) same.1).2]
    exact whole same.2
  have other : ∀ e ∈ ["", gzip.suffix, zstd.suffix], e.toList.getLast? ≠ some 'p' := by decide
  exact other t (mem_endings.mpr ht) last

/-! ## 2. Places -/

variable {d : Disk} {place : Place}

/-- **No disk has two of them at one place.** -/
theorem slotPath_inj_of_homed (named : base.name? = some m) {i j : Nat} (hs : Dotted s.toList)
    (slash : '/' ∉ s.toList) (ht : Dotted t.toList) (slash' : '/' ∉ t.toList)
    (h : Homed d (slotPath base i s) place) (h' : Homed d (slotPath base j t) place) :
    i = j ∧ s = t := by
  have same := h.name?_eq.trans h'.name?_eq.symm
  rw [name?_slotPath named i slash, name?_slotPath named j slash', Option.some.injEq] at same
  obtain ⟨number, ending⟩ := slotName_append_inj named hs ht same
  exact ⟨number, String.toList_inj.mp ending⟩

/-- Nor one of them at the place of the log. -/
theorem not_homed_base (named : base.name? = some m) {i : Nat} (slash : '/' ∉ s.toList)
    (h : Homed d (slotPath base i s) place) : ¬ Homed d base place := by
  intro h'
  have same := h.name?_eq.trans h'.name?_eq.symm
  rw [name?_slotPath named i slash, named, Option.some.injEq] at same
  exact slotName_append_ne named i s.toList same

/-! ## 3. All together -/

/-- **Paths of slots never collide.** As texts they tell their number and ending, and so they do as
paths if the endings are parts of a name, with no slash. None of them says what the path of the log
says, and the path half-way to a compressed file says neither that nor what one of a slot says. A
slot is beneath the directory of the log; under an ending without a slash it is in that directory,
and no disk has it at the place of the log or of another slot. -/
theorem slots_never_collide {base : Path} {m : List Char} (named : base.name? = some m) :
    (∀ (i j : Nat) (s t : String), Dotted s.toList → Dotted t.toList →
      (slotPath base i s = slotPath base j t → i = j ∧ s = t) ∧
      ((slotPath base i s).Alike (slotPath base j t) →
        i = j ∧ ('/' ∉ s.toList → '/' ∉ t.toList → s = t))) ∧
    ∀ (i : Nat) (s : String), Dotted s.toList →
      ¬ (slotPath base i s).Alike base ∧
      ¬ (besideTarget (slotPath base i s)).Alike base ∧
      (∀ (j : Nat), ∀ q ∈ variants [gzip.suffix, zstd.suffix] (slot base j),
        ¬ (besideTarget (slotPath base i s)).Alike q) ∧
      (∀ directory, base.parent? = some directory →
        directory.route <+: (slotPath base i s).route) ∧
      ('/' ∉ s.toList →
        (slotPath base i s).parent? = base.parent? ∧
        ∀ (d : Disk) (place : Place), Homed d (slotPath base i s) place →
          ¬ Homed d base place ∧
          ∀ (j : Nat) (t : String), Dotted t.toList → '/' ∉ t.toList →
            Homed d (slotPath base j t) place → i = j ∧ s = t) := by
  refine ⟨fun i j s t hs ht => ⟨slotPath_eq_inj named hs ht, slotPath_alike named hs ht⟩,
    fun i s hs => ?_⟩
  have half : besideTarget (slotPath base i s) = slotPath base i (s ++ ".tmp") :=
    slotPath_withSuffix base i s ".tmp"
  rw [half]
  refine ⟨not_alike_base named i hs, not_alike_base named i hs.half, fun j q hq => ?_,
    fun directory => beneath_parent named i hs, fun slash => ⟨parent?_slotPath named i slash,
      fun d place there => ⟨not_homed_base named slash there, fun j t ht slash' there' =>
        slotPath_inj_of_homed named hs slash ht slash' there there'⟩⟩⟩
  rw [variants_slot, List.mem_map] at hq
  obtain ⟨t, ht, rfl⟩ := hq
  exact not_alike_half named i hs (mem_endings.mp ht)

/-- A hidden file whose name ends in a number and in an ending, in a path that ends in a dot. -/
theorem slots_never_collide_hidden :
    (Path.ofString "log//.app.1.gz/.").name? = some ".app.1.gz".toList ∧
      Dotted ".gz".toList ∧ Dotted "".toList ∧ '/' ∉ ".gz".toList ∧
      (slotPath (.ofString "log//.app.1.gz/.") 1 ".gz").toString = "log/.app.1.1.gz.gz" ∧
      slotPath (.ofString "log//.app.1.gz/.") 1 ".gz" ≠
        slotPath (.ofString "log//.app.1.gz/.") 11 "" ∧
      ¬ (slotPath (.ofString "log//.app.1.gz/.") 1 ".gz").Alike (.ofString "log//.app.1.gz/.") ∧
      (slotPath (.ofString "log//.app.1.gz/.") 1 ".gz").parent? = some (.ofString "log") ∧
      ¬ (besideTarget (slotPath (.ofString "log//.app.1.gz/.") 1 ".gz")).Alike
        (slot (.ofString "log//.app.1.gz/.") 2) := by
  have named : (Path.ofString "log//.app.1.gz/.").name? = some ".app.1.gz".toList := by decide
  have packed : Dotted ".gz".toList := .inr ⟨['g', 'z'], rfl⟩
  have bare : Dotted "".toList := .inl rfl
  have slash : '/' ∉ ".gz".toList := by decide
  obtain ⟨told, beside⟩ := slots_never_collide named
  obtain ⟨apart, -, half, -, within⟩ := beside 1 ".gz" packed
  refine ⟨named, packed, bare, slash, by decide +kernel, fun same => ?_, apart,
    (within slash).1.trans (by decide), half 2 _ List.mem_cons_self⟩
  exact absurd ((told 1 11 ".gz" "" packed bare).1 same).1 (by decide)

end Logworks.Rotation
