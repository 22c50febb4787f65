import Logworks.Proofs.Ring.Exactness

/-!
# Cursors that wrap

The cursors of a ring are words, and go from the greatest word to zero. A slot is the remainder of a
position by the capacity, and so the slots go on around the ring there only if the number of words
is a multiple of the capacity. This file fixes

* `follows_iff` -- **slots follow one another exactly where the positions do not wrap, or where the
  capacity divides the number of words**; `Follows.distinct`, `Follows.next` -- and then they
  differ, and each is behind the one before;
* `Bears` -- what the file and the ring hold together, wherever the cursors are;
* `relay` -- a record is put in, and the ring is drained; `Bears.relay` -- **it comes to the file**;
* `Uncrossed` -- no record lies across the end of the words, though one may end there;
* `survives_wrap` -- **so do any number of records, from any place of the cursors on**, and the
  ring is ready for more;
* `wrap_loses` -- elsewhere octets are lost, and also where an attempt to write fails.

NOT here: how far cursors come. No run takes as many octets as there are words.
-/

namespace Logworks.Ring

open Disk Text

variable {w : Nat} {r : Ring w} {n : Nat} {d : Disk} {text : Octets}

/-! ## 1. Positions that wrap -/

/-- **Slots follow one another where the capacity divides the number of words.** -/
theorem follows_of_dvd {capacity : Nat} (h : capacity ∣ 2 ^ w) (p : BitVec w) (m : Nat) :
    Follows capacity p m := by
  intro i _
  rw [BitVec.toNat_add, BitVec.toNat_ofNat, Nat.add_mod_mod, Nat.mod_mod_of_dvd _ h]

/-- **Slots follow one another exactly where no position wraps, or where it does not matter.** The
position behind the greatest one has slot 0, whatever slot comes next. -/
theorem follows_iff {capacity m : Nat} {p : BitVec w} :
    Follows capacity p m ↔ p.toNat + m ≤ 2 ^ w ∨ capacity ∣ 2 ^ w := by
  refine ⟨fun h => ?_, fun h => ?_⟩
  · have hlt : p.toNat < 2 ^ w := p.isLt
    by_cases hle : p.toNat + m ≤ 2 ^ w
    · exact .inl hle
    · have hwrap := h (2 ^ w - p.toNat) (by omega)
      rw [BitVec.toNat_add, BitVec.toNat_ofNat, Nat.add_mod_mod,
        Nat.add_sub_cancel' (Nat.le_of_lt hlt), Nat.mod_self, Nat.zero_mod] at hwrap
      exact .inr (Nat.dvd_of_mod_eq_zero hwrap.symm)
  · rcases h with hle | hdvd
    · exact follows_of_le hle
    · exact follows_of_dvd hdvd p m

/-- Positions of one round have slots of their own. -/
theorem Follows.distinct {capacity m i j : Nat} {p : BitVec w} (h : Follows capacity p m)
    (hm : m ≤ capacity) (hij : i < j) (hj : j < m) :
    (p + BitVec.ofNat w i).toNat % capacity ≠ (p + BitVec.ofNat w j).toNat % capacity := by
  rw [h i (by omega), h j hj]
  exact slot_ne p.toNat hij (by omega)

/-- The slot of the next position is the next slot. -/
theorem Follows.next {capacity m i : Nat} {p : BitVec w} (h : Follows capacity p m)
    (hi : i + 1 < m) :
    (p + BitVec.ofNat w (i + 1)).toNat % capacity =
      ((p + BitVec.ofNat w i).toNat % capacity + 1) % capacity := by
  rw [h i (by omega), h (i + 1) hi, Nat.mod_add_mod, Nat.add_assoc]

/-! ## 2. File and ring together -/

/-- **The file, with what is unread behind it, is this text.** The cursors may be anywhere. -/
structure Bears (n : Nat) (text : Octets) (r : Ring w) (d : Disk) : Prop where
  sound : r.Sound
  ready : ∃ h : Handle, r.handle = some h ∧ h.AtEnd n d
  writable : d.mishaps.Writable
  whole : d.octetsOf n ++ r.unread = text

/-- A drain brings all of it to the file. -/
theorem Bears.drain (hb : Bears n text r d) :
    ∃ r' d', r.drain d = (some true, r', d') ∧ Bears n text r' d' ∧ d'.octetsOf n = text ∧
      r'.read = r'.written ∧ r'.written = r.written ∧ r'.capacity = r.capacity := by
  obtain ⟨h, hr, hend⟩ := hb.ready
  obtain ⟨r', d', he, ⟨h', hr', hend'⟩, hfile, htouch⟩ := hb.sound.drain hr hend hb.writable
  have hs : r'.Sound ∧ r'.unread = r.unread.drop r.buffered := by
    rw [hr', ← advanced_buffered]
    exact hb.sound.advanced h' (Nat.le_refl _)
  have hnil : r'.unread = [] := by
    rw [hs.2, List.drop_of_length_le (Nat.le_of_eq (length_unread r))]
  have htext : d'.octetsOf n = text := hfile.trans hb.whole
  refine ⟨r', d', he, ⟨hs.1, ⟨h', by rw [hr'], hend'⟩, htouch.writable hb.writable, ?_⟩, htext, ?_,
    ?_, ?_⟩
  · rw [hnil, List.append_nil, htext]
  all_goals rw [hr']

/-- A record that has room is put in behind it. -/
theorem Bears.put (hb : Bears n text r d) (bytes : Octets)
    (hf : Follows r.capacity r.read (r.buffered + bytes.length))
    (hroom : r.buffered + bytes.length ≤ r.capacity) (hwide : r.capacity < 2 ^ w) :
    Bears n (text ++ bytes) (bytes.foldl push r) d := by
  obtain ⟨hs, hu⟩ := hb.sound.pushAll bytes hf hroom (by omega)
  obtain ⟨h, hr, hend⟩ := hb.ready
  refine ⟨hs, ⟨h, ?_, hend⟩, hb.writable, ?_⟩
  · rw [pushAll_eq]
    exact hr
  · rw [hu, ← List.append_assoc, hb.whole]

/-! ## 3. Records that are put in and drained -/

/-- A record is put in, and then the ring is drained: whether it was taken, and whether all was
written. -/
def relay (r : Ring w) (bytes : Octets) (d : Disk) : (Bool × Option Bool) × Ring w × Disk :=
  let (isTaken, r, d) := r.produce bytes d
  let (isWhole, r, d) := r.drain d
  ((isTaken, isWhole), r, d)

/-- Records, one after the other. -/
def relayAll (r : Ring w) (d : Disk) : List Octets → List (Bool × Option Bool) × Ring w × Disk
  | [] => ([], r, d)
  | bytes :: records =>
    let (a, r, d) := r.relay bytes d
    let (as, r, d) := relayAll r d records
    (a :: as, r, d)

/-- **A record that is not longer than the ring comes to the file**, if its slots follow one
another. -/
theorem Bears.relay (hb : Bears n text r d) (hmet : r.read = r.written) (hwide : r.capacity < 2 ^ w)
    {bytes : Octets} (hle : bytes.length ≤ r.capacity)
    (hf : Follows r.capacity r.read bytes.length) :
    ∃ r' d', r.relay bytes d = ((true, some true), r', d') ∧ Bears n (text ++ bytes) r' d' ∧
      d'.octetsOf n = text ++ bytes ∧ r'.read = r'.written ∧
      r'.written = r.written + BitVec.ofNat w bytes.length ∧ r'.capacity = r.capacity := by
  have hzero : r.buffered = 0 := by
    rw [buffered, hmet, BitVec.sub_self]
    rfl
  have hready : r.isReady = true := by
    obtain ⟨h, hr, -⟩ := hb.ready
    rw [isReady, hr]
    rfl
  have hreserve : r.reserve bytes d = (true, bytes.foldl push r, d) := by
    rw [Ring.reserve, if_neg (by omega), if_pos (by rw [room, hzero]; exact hle)]
  have hput := hb.put bytes (by rw [hzero, Nat.zero_add]; exact hf)
    (by rw [hzero, Nat.zero_add]; exact hle) hwide
  have hwritten : (bytes.foldl push r).written = r.written + BitVec.ofNat w bytes.length := by
    rw [pushAll_eq]
  have hcap : (bytes.foldl push r).capacity = r.capacity := by rw [pushAll_eq]
  -- the ring is drained at once if it is more than half full
  have hproduce : ∃ r₁ d₁, r.produce bytes d = (true, r₁, d₁) ∧ Bears n (text ++ bytes) r₁ d₁ ∧
      r₁.written = r.written + BitVec.ofNat w bytes.length ∧ r₁.capacity = r.capacity := by
    unfold Ring.produce
    rw [hready, hreserve]
    by_cases hmore : (bytes.foldl push r).capacity / 2 < (bytes.foldl push r).buffered
    · obtain ⟨r₁, d₁, he, h₁, -, -, hw₁, hc₁⟩ := hput.drain
      refine ⟨r₁, d₁, ?_, h₁, hw₁.trans hwritten, hc₁.trans hcap⟩
      simp only [Bool.not_true, Bool.false_eq_true, if_false, if_pos hmore, he]
    · refine ⟨_, d, ?_, hput, hwritten, hcap⟩
      simp only [Bool.not_true, Bool.false_eq_true, if_false, if_neg hmore]
  obtain ⟨r₁, d₁, he₁, h₁, hw₁, hc₁⟩ := hproduce
  obtain ⟨r₂, d₂, he₂, h₂, hfile, hmet₂, hw₂, hc₂⟩ := h₁.drain
  refine ⟨r₂, d₂, ?_, h₂, hfile, hmet₂, hw₂.trans hw₁, hc₂.trans hc₁⟩
  rw [Ring.relay, he₁]
  dsimp only
  rw [he₂]

/-- **No record lies across the end of the words**, where the first is put in at this position and
each behind the one before. -/
def Uncrossed (p : BitVec w) : List Octets → Prop
  | [] => True
  | bytes :: records =>
    p.toNat + bytes.length ≤ 2 ^ w ∧ Uncrossed (p + BitVec.ofNat w bytes.length) records

/-- So it is where all of them together do not come past it. -/
theorem uncrossed_of_le {p : BitVec w} {records : List Octets}
    (h : p.toNat + records.flatten.length ≤ 2 ^ w) : Uncrossed p records := by
  induction records generalizing p with
  | nil => trivial
  | cons bytes records ih =>
    rw [List.flatten_cons, List.length_append] at h
    have hnext : (p + BitVec.ofNat w bytes.length).toNat ≤ p.toNat + bytes.length := by
      rw [BitVec.toNat_add, BitVec.toNat_ofNat, Nat.add_mod_mod]
      exact Nat.mod_le _ _
    exact ⟨by omega, ih (by omega)⟩

/-- **All records come to the file**, one behind the other. -/
theorem Bears.relayAll (hb : Bears n text r d) (hmet : r.read = r.written)
    (hwide : r.capacity < 2 ^ w) (hdone : d.octetsOf n = text) (records : List Octets)
    (hle : ∀ bytes ∈ records, bytes.length ≤ r.capacity)
    (hspan : Uncrossed r.read records ∨ r.capacity ∣ 2 ^ w) :
    ∃ r' d', r.relayAll d records = (records.map fun _ => (true, some true), r', d') ∧
      Bears n (text ++ records.flatten) r' d' ∧ d'.octetsOf n = text ++ records.flatten ∧
      r'.read = r'.written ∧ r'.written = r.written + BitVec.ofNat w records.flatten.length ∧
      r'.capacity = r.capacity := by
  induction records generalizing r d text with
  | nil =>
    rw [List.flatten_nil, List.append_nil]
    exact ⟨r, d, rfl, hb, hdone, hmet, by simp, rfl⟩
  | cons bytes records ih =>
    have hf : Follows r.capacity r.read bytes.length := follows_iff.mpr (hspan.imp_left And.left)
    obtain ⟨r₁, d₁, he₁, h₁, hfile₁, hmet₁, hw₁, hc₁⟩ :=
      hb.relay hmet hwide (hle bytes List.mem_cons_self) hf
    have hread₁ : r₁.read = r.read + BitVec.ofNat w bytes.length := by rw [hmet₁, hw₁, hmet]
    obtain ⟨r₂, d₂, he₂, h₂, hfile₂, hmet₂, hw₂, hc₂⟩ := ih h₁ hmet₁ (hc₁ ▸ hwide) hfile₁
      (fun b hb => hc₁ ▸ hle b (List.mem_cons_of_mem bytes hb))
      (hspan.imp (fun h => hread₁ ▸ h.2) fun h => hc₁ ▸ h)
    rw [List.append_assoc] at h₂ hfile₂
    refine ⟨r₂, d₂, ?_, h₂, hfile₂, hmet₂, ?_, hc₂.trans hc₁⟩
    · rw [Ring.relayAll, he₁]
      dsimp only
      rw [he₂]
      rfl
    · rw [hw₂, hw₁, List.flatten_cons, List.length_append, BitVec.ofNat_add, BitVec.add_assoc]

/-! ## 4. From any place on -/

/-- **A ring survives that its cursors wrap**, if the capacity divides the number of words or no
record lies across their end. Wherever the cursors have met, and whatever is in the slots, any
records that are not longer than the ring are taken, and each is behind the one before in the file
once the ring is drained; then the cursors have met again, and more records may come. And the slots
of a span differ, and follow one another. -/
theorem survives_wrap {h : Handle} (hpos : 0 < r.capacity) (hsize : r.slots.size = r.capacity)
    (hwide : r.capacity < 2 ^ w) (hmet : r.read = r.written) (hr : r.handle = some h)
    (hend : h.AtEnd n d) (hd : d.mishaps.Writable) (records : List Octets)
    (hle : ∀ bytes ∈ records, bytes.length ≤ r.capacity)
    (hspan : Uncrossed r.read records ∨ r.capacity ∣ 2 ^ w) :
    (∃ r' d', r.relayAll d records = (records.map fun _ => (true, some true), r', d') ∧
      d'.octetsOf n = d.octetsOf n ++ records.flatten ∧ r'.read = r'.written ∧
      r'.written = r.written + BitVec.ofNat w records.flatten.length ∧
      r'.capacity = r.capacity ∧ r'.slots.size = r'.capacity ∧
      (∃ h', r'.handle = some h' ∧ h'.AtEnd n d') ∧ d'.mishaps.Writable) ∧
    ∀ m ≤ r.capacity, r.read.toNat + m ≤ 2 ^ w ∨ r.capacity ∣ 2 ^ w →
      (∀ i j, i < j → j < m → (r.read + BitVec.ofNat w i).toNat % r.capacity ≠
        (r.read + BitVec.ofNat w j).toNat % r.capacity) ∧
      ∀ i, i + 1 < m → (r.read + BitVec.ofNat w (i + 1)).toNat % r.capacity =
        ((r.read + BitVec.ofNat w i).toNat % r.capacity + 1) % r.capacity := by
  have hzero : r.buffered = 0 := by
    rw [buffered, hmet, BitVec.sub_self]
    rfl
  have hnil : r.unread = [] := List.eq_nil_of_length_eq_zero ((length_unread r).trans hzero)
  have hsound : r.Sound := {
    pos := hpos
    size := hsize
    fits := hzero ▸ Nat.zero_le _
    follows := fun i hi => absurd hi (by omega) }
  have hbears : Bears n (d.octetsOf n) r d :=
    ⟨hsound, ⟨h, hr, hend⟩, hd, by rw [hnil, List.append_nil]⟩
  obtain ⟨r', d', he, hb', hfile, hmet', hwritten, hcap⟩ :=
    hbears.relayAll hmet hwide rfl records hle hspan
  refine ⟨⟨r', d', he, hfile, hmet', hwritten, hcap, hb'.sound.size, hb'.ready, hb'.writable⟩,
    fun m hm hspan => ?_⟩
  have hf : Follows r.capacity r.read m := follows_iff.mpr hspan
  exact ⟨fun i j hij hj => hf.distinct hm hij hj, fun i hi => hf.next hi⟩

/-- A ring whose cursors are both at the greatest word. -/
def turning (w capacity : Nat) : Ring w where
  path := .ofString "/logs/crash.log"
  handle := some ⟨.file 0, none⟩
  capacity := capacity
  slots := Array.replicate capacity 0
  written := BitVec.allOnes w
  read := BitVec.allOnes w

/-- A disk with the file of that ring, where writing takes several attempts. -/
def pausing : Disk where
  entries := [(["logs".toList], .directory), (["logs".toList, "crash.log".toList], .file 0)]
  contents := [Text.octetsOf "was "]
  mishaps := { writes := [.takes 1, .interrupted, .takes 1] }

/-- Four slots divide the number of words, and two records come through. Three do not; records come
through of which one ends with the words. -/
theorem survives_wrap_turning :
    (∃ r' d', (turning 64 4).relayAll pausing [Text.octetsOf "abc", Text.octetsOf "de"] =
        ([(true, some true), (true, some true)], r', d') ∧
      d'.octetsOf 0 = Text.octetsOf "was abcde" ∧ r'.read = r'.written ∧ r'.written = 4) ∧
    ∃ r' d', (turning 64 3).relayAll pausing [Text.octetsOf "a", Text.octetsOf "bcd"] =
        ([(true, some true), (true, some true)], r', d') ∧
      d'.octetsOf 0 = Text.octetsOf "was abcd" ∧ r'.read = r'.written ∧ r'.written = 3 := by
  have hend : (⟨.file 0, none⟩ : Handle).AtEnd 0 pausing := ⟨rfl, by decide, .inl rfl⟩
  have hwrites : pausing.mishaps.Writable := by
    show ∀ a ∈ [Attempt.takes 1, .interrupted, .takes 1], a.isHarmless = true
    decide
  constructor
  · obtain ⟨⟨r', d', he, hfile, hmet, hwritten, -⟩, -⟩ :=
      survives_wrap (r := turning 64 4) (by decide) (by decide) (by decide) rfl rfl hend hwrites
        [Text.octetsOf "abc", Text.octetsOf "de"] (by decide) (.inr (by decide))
    exact ⟨r', d', he, hfile.trans rfl, hmet, hwritten.trans rfl⟩
  · obtain ⟨⟨r', d', he, hfile, hmet, hwritten, -⟩, -⟩ :=
      survives_wrap (r := turning 64 3) (by decide) (by decide) (by decide) rfl rfl hend hwrites
        [Text.octetsOf "a", Text.octetsOf "bcd"] (by decide)
        (.inl ⟨by decide, by decide, trivial⟩)
    exact ⟨r', d', he, hfile.trans rfl, hmet, hwritten.trans rfl⟩

/-- **Three slots do not divide it**: the second octet of a record comes to the slot of the first,
though the record is taken and all is written. And where no attempt to write succeeds, a record that
was taken is lost wherever the cursors are. -/
theorem wrap_loses :
    (let (a, _, d) := (turning 64 3).relay (Text.octetsOf "abc") { pausing with mishaps := {} }
     a = (true, some true) ∧ d.octetsOf 0 = Text.octetsOf "was bc\x00" ∧
       d.octetsOf 0 ≠ Text.octetsOf "was abc") ∧
    (let (a, _, d) := (turning 32 3).relay (Text.octetsOf "abc") { pausing with mishaps := {} }
     a = (true, some true) ∧ d.octetsOf 0 = Text.octetsOf "was bc\x00" ∧
       d.octetsOf 0 ≠ Text.octetsOf "was abc") ∧
    let (_, r, d) := create (w := 64) (.ofString "/dev/full") 8 (.fresh "logs".toList)
    let (a, r, _) := r.relay (Text.octetsOf "abc") d
    a = (true, some false) ∧ r.writeErrors = 1 := by
  refine ⟨?_, ?_, ?_⟩
  · decide
  · decide
  · exact ⟨rfl, rfl⟩

end Logworks.Ring
