import Logworks.Ring.Basic
import Mathlib.Algebra.GroupWithZero.Nat

/-!
# What is in a ring

The unread octets of a ring are those at the positions between its cursors. A position is a word
that wraps, its slot a remainder, so that the slots of a row of positions are a row around the ring
only where wrapping and remainder agree. This file fixes

* `unread` -- the octets from the read cursor up to the written one;
* `Follows` -- the slots of some positions follow one another around the ring;
  `follows_of_le` -- they do where the positions do not wrap;
* `Sound` -- a ring whose unread octets lie in slots that follow one another;
* `Sound.pushAll` -- **octets that have room come behind the unread ones**;
* `Sound.chunk_eq`, `Sound.advanced` -- **a chunk is the front of them, and they go on behind it**.
-/

namespace Logworks.Ring

open Disk Text

variable {w : Nat} {r : Ring w}

/-! ## 1. Positions and slots -/

/-- The octet at a position. -/
def octetAt (r : Ring w) (p : BitVec w) : UInt8 := r.slots.getD (p.toNat % r.capacity) 0

/-- What was written and not read. -/
def unread (r : Ring w) : Octets :=
  (List.range r.buffered).map fun i => r.octetAt (r.read + BitVec.ofNat w i)

@[simp] theorem length_unread (r : Ring w) : r.unread.length = r.buffered := by
  simp [unread]

/-- The slots of `n` positions from `p` on follow one another around the ring. -/
def Follows (capacity : Nat) (p : BitVec w) (n : Nat) : Prop :=
  ∀ i < n, (p + BitVec.ofNat w i).toNat % capacity = (p.toNat + i) % capacity

theorem toNat_ofNat {n : Nat} (h : n < 2 ^ w) : (BitVec.ofNat w n).toNat = n := by
  rw [BitVec.toNat_ofNat, Nat.mod_eq_of_lt h]

theorem toNat_add_ofNat {p : BitVec w} {i : Nat} (h : p.toNat + i < 2 ^ w) :
    (p + BitVec.ofNat w i).toNat = p.toNat + i := by
  rw [BitVec.toNat_add, BitVec.toNat_ofNat, Nat.add_mod_mod, Nat.mod_eq_of_lt h]

/-- **Slots follow one another as long as the positions do not wrap.** -/
theorem follows_of_le {capacity n : Nat} {p : BitVec w} (h : p.toNat + n ≤ 2 ^ w) :
    Follows capacity p n := by
  intro i hi
  rw [toNat_add_ofNat (by omega)]

theorem Follows.mono {capacity m n : Nat} {p : BitVec w} (h : Follows capacity p n)
    (hm : m ≤ n) : Follows capacity p m := fun i hi => h i (by omega)

/-- Behind the first positions the others follow. -/
theorem Follows.advance {capacity m n : Nat} {p : BitVec w} (h : Follows capacity p (m + n)) :
    Follows capacity (p + BitVec.ofNat w m) n := by
  intro i hi
  have hstart := h m (by omega)
  have hother := h (m + i) (by omega)
  rw [BitVec.ofNat_add, ← BitVec.add_assoc] at hother
  rw [hother, ← Nat.add_assoc, Nat.add_mod, ← hstart, ← Nat.add_mod]

/-- Less than once around the ring no slot comes twice. -/
theorem slot_ne (start : Nat) {capacity i j : Nat} (hij : i < j) (hj : j < capacity) :
    (start + i) % capacity ≠ (start + j) % capacity := by
  intro he
  have hdvd : capacity ∣ start + j - (start + i) :=
    Nat.dvd_of_mod_eq_zero (Nat.sub_mod_eq_zero_of_mod_eq he.symm)
  have hzero : start + j - (start + i) = 0 := Nat.eq_zero_of_dvd_of_lt hdvd (by omega)
  omega

/-! ## 2. Sound rings -/

/-- There are as many slots as there should be, and the unread octets lie in some that follow one
another, each in its own. -/
structure Sound (r : Ring w) : Prop where
  pos : 0 < r.capacity
  size : r.slots.size = r.capacity
  fits : r.buffered ≤ r.capacity
  follows : Follows r.capacity r.read r.buffered

theorem read_add_buffered (r : Ring w) : r.read + BitVec.ofNat w r.buffered = r.written := by
  have hw : BitVec.ofNat w (r.written - r.read).toNat = r.written - r.read := by
    rw [BitVec.ofNat_toNat, BitVec.setWidth_eq]
  rw [buffered, hw, BitVec.add_comm, BitVec.sub_add_cancel]

/-- The cursors meet where nothing is unread. -/
theorem written_eq_read (h : r.buffered = 0) : r.written = r.read := by
  rw [← r.read_add_buffered, h, BitVec.add_zero]

theorem Sound.lt_size (h : r.Sound) (p : Nat) : p % r.capacity < r.slots.size := by
  rw [h.size]
  exact Nat.mod_lt p h.pos

/-- The unread octets, slot by slot. -/
theorem Sound.unread_eq (h : r.Sound) :
    r.unread = (List.range r.buffered).map fun i =>
      r.slots.getD ((r.read.toNat + i) % r.capacity) 0 := by
  refine List.map_congr_left fun i hi => ?_
  rw [octetAt, h.follows i (List.mem_range.mp hi)]

/-! ## 3. Putting octets in -/

@[simp] theorem push_capacity (r : Ring w) (b : UInt8) : (r.push b).capacity = r.capacity := rfl

@[simp] theorem push_read (r : Ring w) (b : UInt8) : (r.push b).read = r.read := rfl

theorem buffered_push {b : UInt8} (h : r.buffered + 1 < 2 ^ w) :
    (r.push b).buffered = r.buffered + 1 := by
  have hone : (1#w).toNat = 1 := toNat_ofNat (by omega)
  have he : r.written + 1 - r.read = r.written - r.read + 1 := BitVec.sub_add_comm.symm
  show (r.written + 1 - r.read).toNat = _
  rw [he]
  show (r.written - r.read + 1#w).toNat = _
  rw [BitVec.toNat_add_of_lt, hone]
  · rfl
  · rw [hone]
    exact h

/-- The slots after one octet was put in. -/
theorem Sound.getD_push (h : r.Sound) {b : UInt8} {i : Nat}
    (hf : Follows r.capacity r.read (r.buffered + 1)) (hroom : r.buffered < r.capacity)
    (hi : i ≤ r.buffered) :
    (r.push b).slots.getD ((r.read.toNat + i) % r.capacity) 0 =
      if i = r.buffered then b else r.slots.getD ((r.read.toNat + i) % r.capacity) 0 := by
  have hslot : r.written.toNat % r.capacity = (r.read.toNat + r.buffered) % r.capacity := by
    rw [← hf r.buffered (Nat.lt_succ_self _), r.read_add_buffered]
  show (r.slots.setIfInBounds (r.written.toNat % r.capacity) b).getD _ 0 = _
  rw [hslot, Array.getD_eq_getD_getElem?, Array.getElem?_setIfInBounds]
  by_cases he : i = r.buffered
  · subst he
    simp [h.lt_size]
  · have hne := slot_ne r.read.toNat (Nat.lt_of_le_of_ne hi he) hroom
    rw [if_neg he, if_neg (Ne.symm hne), Array.getD_eq_getD_getElem?]

/-- One octet comes behind the unread ones. -/
theorem Sound.push (h : r.Sound) (b : UInt8) (hf : Follows r.capacity r.read (r.buffered + 1))
    (hroom : r.buffered < r.capacity) (hlt : r.buffered + 1 < 2 ^ w) :
    (r.push b).Sound ∧ (r.push b).unread = r.unread ++ [b] := by
  have hb := buffered_push (b := b) hlt
  have hs : (r.push b).Sound := {
    pos := h.pos
    size := Array.size_setIfInBounds.trans h.size
    fits := by
      rw [hb]
      exact hroom
    follows := by
      rw [hb]
      exact hf }
  refine ⟨hs, ?_⟩
  have hget := fun i hi => h.getD_push (b := b) (i := i) hf hroom hi
  rw [hs.unread_eq, hb, List.range_succ, List.map_append, List.map_singleton, h.unread_eq]
  congr 1
  · refine List.map_congr_left fun i hi => ?_
    have hi' := List.mem_range.mp hi
    exact (hget i (by omega)).trans (if_neg (by omega))
  · exact congrArg (fun x => [x]) ((hget r.buffered (Nat.le_refl _)).trans (if_pos rfl))

/-- Putting octets in changes the slots and moves the written cursor. -/
theorem pushAll_eq (r : Ring w) (bytes : Octets) :
    bytes.foldl Ring.push r =
      { r with
        slots := (bytes.foldl Ring.push r).slots
        written := r.written + BitVec.ofNat w bytes.length } := by
  induction bytes generalizing r with
  | nil => simp
  | cons b bytes ih =>
    have hw : r.written + 1 + BitVec.ofNat w bytes.length =
        r.written + BitVec.ofNat w (b :: bytes).length := by
      rw [List.length_cons, Nat.add_comm, BitVec.ofNat_add, BitVec.add_assoc]
      rfl
    rw [List.foldl_cons, ih, ← hw]
    rfl

/-- **Octets that have room come behind the unread ones.** -/
theorem Sound.pushAll (h : r.Sound) (bytes : Octets)
    (hf : Follows r.capacity r.read (r.buffered + bytes.length))
    (hroom : r.buffered + bytes.length ≤ r.capacity) (hlt : r.buffered + bytes.length < 2 ^ w) :
    (bytes.foldl Ring.push r).Sound ∧ (bytes.foldl Ring.push r).unread = r.unread ++ bytes := by
  induction bytes generalizing r with
  | nil => exact ⟨h, (List.append_nil _).symm⟩
  | cons b bytes ih =>
    rw [List.length_cons] at hf hroom hlt
    obtain ⟨hs, hu⟩ := h.push b (hf.mono (by omega)) (by omega) (by omega)
    have hb := buffered_push (r := r) (b := b) (by omega)
    obtain ⟨hs', hu'⟩ := ih hs (by rw [hb]; exact hf.mono (by omega))
      (by rw [hb, push_capacity]; omega) (by rw [hb]; omega)
    refine ⟨hs', hu'.trans ?_⟩
    rw [hu, List.append_assoc, List.singleton_append]

/-! ## 4. Taking chunks out -/

/-- The ring with the read cursor some octets further, and the handle that took them. -/
def advanced (r : Ring w) (h : Handle) (n : Nat) : Ring w :=
  { r with handle := some h, read := r.read + BitVec.ofNat w n }

/-- The slot of the read cursor. -/
def start (r : Ring w) : Nat := r.read.toNat % r.capacity

/-- **A chunk is the front of the unread octets**, up to the last slot. -/
theorem Sound.chunk_eq (h : r.Sound) : r.chunk = r.unread.take (r.capacity - r.start) := by
  have hstart : r.start < r.capacity := Nat.mod_lt _ h.pos
  refine List.ext_getElem? fun i => ?_
  have hc : r.chunk[i]? = if i < min r.buffered (r.capacity - r.start)
      then r.slots[r.start + i]? else none := by
    have hsize : r.start + min r.buffered (r.capacity - r.start) ≤ r.slots.size := by
      rw [h.size]
      omega
    show (r.slots.extract r.start (r.start + min r.buffered (r.capacity - r.start))).toList[i]? = _
    rw [Array.getElem?_toList, Array.getElem?_extract, Nat.min_eq_left hsize]
    congr 1
    rw [Nat.add_sub_cancel_left]
  rw [hc, List.getElem?_take, h.unread_eq, List.getElem?_map]
  by_cases hi : i < min r.buffered (r.capacity - r.start)
  · have hslot : (r.read.toNat + i) % r.capacity = r.start + i := by
      rw [Nat.add_mod, Nat.mod_eq_of_lt (by omega : i < r.capacity)]
      exact Nat.mod_eq_of_lt (by show r.start + i < _; omega)
    rw [if_pos hi, if_pos (by omega), List.getElem?_range (by omega), Option.map_some, hslot,
      Array.getD_eq_getD_getElem?]
    have hlt : r.start + i < r.slots.size := by
      rw [h.size]
      omega
    rw [Array.getElem?_eq_getElem hlt]
    rfl
  · rw [if_neg hi]
    by_cases hi' : i < r.capacity - r.start
    · rw [if_pos hi', List.getElem?_eq_none (by rw [List.length_range]; omega)]
      rfl
    · rw [if_neg hi']

theorem Sound.length_chunk (h : r.Sound) :
    r.chunk.length = min (r.capacity - r.start) r.buffered := by
  rw [h.chunk_eq, List.length_take, length_unread]

theorem buffered_advanced (hd : Handle) {n : Nat} (hn : n ≤ r.buffered) :
    (r.advanced hd n).buffered = r.buffered - n := by
  have hlt : r.buffered < 2 ^ w := BitVec.isLt _
  have hn' : (BitVec.ofNat w n).toNat = n := toNat_ofNat (by omega)
  show (r.written - (r.read + BitVec.ofNat w n)).toNat = _
  rw [← BitVec.sub_sub, BitVec.toNat_sub_of_le, hn']
  · rfl
  · rw [BitVec.le_def, hn']
    exact hn

/-- **The unread octets go on behind those that were read.** -/
theorem Sound.advanced (h : r.Sound) (hd : Handle) {n : Nat} (hn : n ≤ r.buffered) :
    (r.advanced hd n).Sound ∧ (r.advanced hd n).unread = r.unread.drop n := by
  have hb := buffered_advanced hd hn
  refine ⟨⟨h.pos, h.size, ?_, ?_⟩, ?_⟩
  · rw [hb]
    exact Nat.le_trans (Nat.sub_le _ _) h.fits
  · rw [hb]
    refine Follows.advance ?_
    rw [Nat.add_sub_cancel' hn]
    exact h.follows
  · refine List.ext_getElem? fun i => ?_
    rw [List.getElem?_drop, unread, unread, List.getElem?_map, List.getElem?_map, hb]
    by_cases hi : i < r.buffered - n
    · rw [List.getElem?_range hi, List.getElem?_range (by omega), Option.map_some, Option.map_some,
        BitVec.ofNat_add, ← BitVec.add_assoc]
      rfl
    · rw [List.getElem?_eq_none (by rw [List.length_range]; omega),
        List.getElem?_eq_none (by rw [List.length_range]; omega)]
      rfl

/-- Behind the last slot comes the first. -/
theorem Sound.start_advanced (h : r.Sound) (hd : Handle) (hn : r.capacity - r.start < r.buffered) :
    (r.advanced hd (r.capacity - r.start)).start = 0 := by
  have hstart : r.start < r.capacity := Nat.mod_lt _ h.pos
  show (r.read + BitVec.ofNat w (r.capacity - r.start)).toNat % r.capacity = 0
  rw [h.follows _ hn, Nat.add_mod]
  show (r.start + (r.capacity - r.start) % r.capacity) % r.capacity = 0
  rw [Nat.add_mod_mod, Nat.add_sub_cancel' (Nat.le_of_lt hstart), Nat.mod_self]

end Logworks.Ring
