import Logworks.Proofs.Disk.Filed
import Logworks.Proofs.Ring.Exactness

/-!
# Drains that go on

Any attempt to write may take a part only, be interrupted, take nothing, or fail. A drain goes on
all the same: what could not be written is given up. So a ring is empty behind every drain. This
file fixes

* `Drains` -- reading and writing chunks until the cursors meet, however many that takes;
  `Shaped.drains` -- **two are enough**, also where a cursor wraps; `drainChunks_of_drains` -- so a
  drain does that;
* `Drains.left`, `Drains.counted`, `Drains.written`, `Drains.bytes` -- what is left of the ring, and
  what came to the file;
* `Comes` -- the states that a ring comes to, also in the middle of a call; `Upright`,
  `Comes.upright` -- **what holds in each of them**, and with it all of the above.

NOT here: whether a record is taken.
-/

namespace Logworks.Ring

open Disk Text

variable {w : Nat} {r r' : Ring w} {n : Nat} {d d' : Disk} {h h' : Handle}

/-! ## 1. The shape of a ring -/

/-- There are as many slots as there should be, no more is unread than they hold, and a cursor goes
further than once around. -/
structure Shaped (r : Ring w) : Prop where
  pos : 0 < r.capacity
  size : r.slots.size = r.capacity
  fits : r.buffered ≤ r.capacity
  wide : r.capacity < 2 ^ w

theorem Shaped.start_lt (hs : r.Shaped) : r.start < r.capacity := Nat.mod_lt _ hs.pos

theorem Shaped.length_chunk (hs : r.Shaped) :
    r.chunk.length = min r.buffered (r.capacity - r.start) := by
  have hstart := hs.start_lt
  have hsize := hs.size
  show (r.slots.extract r.start (r.start + min r.buffered (r.capacity - r.start))).toList.length = _
  rw [Array.length_toList, Array.size_extract]
  omega

/-- **What is unread behind the last slot lies in a row**, before the place where it began. That is
so too where the read cursor wraps on the way. -/
theorem Shaped.start_advanced_le (hs : r.Shaped) (h : Handle) :
    (r.advanced h (r.capacity - r.start)).start + r.start ≤ r.capacity := by
  have hstart := hs.start_lt
  have hwide := hs.wide
  have hlt : r.read.toNat < 2 ^ w := r.read.isLt
  have hdiv : r.capacity * (r.read.toNat / r.capacity) + r.start = r.read.toNat :=
    Nat.div_add_mod _ _
  have hnat : (r.read + BitVec.ofNat w (r.capacity - r.start)).toNat =
      (r.read.toNat + (r.capacity - r.start)) % 2 ^ w := by
    rw [BitVec.toNat_add, BitVec.toNat_ofNat, Nat.add_mod_mod]
  show (r.read + BitVec.ofNat w (r.capacity - r.start)).toNat % r.capacity + r.start ≤ _
  rw [hnat]
  by_cases hwrap : r.read.toNat + (r.capacity - r.start) < 2 ^ w
  · -- the next position is that of the first slot
    have he : r.read.toNat + (r.capacity - r.start) =
        r.capacity * (r.read.toNat / r.capacity + 1) := by
      rw [Nat.mul_add]
      omega
    rw [Nat.mod_eq_of_lt hwrap, he, Nat.mul_mod_right]
    omega
  · -- the cursor is at a small number then, of fewer slots than there were behind it
    have he : (r.read.toNat + (r.capacity - r.start)) % 2 ^ w =
        r.read.toNat + (r.capacity - r.start) - 2 ^ w := by
      rw [Nat.mod_eq_sub_mod (by omega), Nat.mod_eq_of_lt (by omega)]
    rw [he, Nat.mod_eq_of_lt (by omega)]
    omega

/-! ## 2. Draining to the end -/

/-- A chunk that was read, and how writing it ended. -/
structure Chunk where
  bytes : Octets
  ending : Written

/-- The chunk was written whole. -/
def Chunk.isWhole (c : Chunk) : Bool := Ring.isWhole c.ending

/-- What was taken of a chunk. -/
def Chunk.taken (c : Chunk) : Octets := c.bytes.take (c.bytes.length - c.ending.rest.length)

theorem Chunk.taken_prefix (c : Chunk) : c.taken <+: c.bytes := List.take_prefix _ _

theorem Chunk.taken_of_isWhole {c : Chunk} (hc : c.isWhole = true) : c.taken = c.bytes := by
  obtain ⟨bytes, e⟩ := c
  cases e with
  | all => exact List.take_length
  | stalled rest => cases hc
  | failed c rest => cases hc

/-- **Reading and writing chunks until the cursors meet**, whatever becomes of the writing. -/
inductive Drains : Ring w → Handle → Disk → List Chunk → Ring w → Handle → Disk → Prop where
  | met (r : Ring w) (h : Handle) (d : Disk) (hz : r.read = r.written) : Drains r h d [] r h d
  | next {r r' : Ring w} {h h₁ h' : Handle} {d d₁ d' : Disk} {e : Written} {cs : List Chunk}
      (hz : r.read ≠ r.written) (hw : h.writeAll r.chunk d = (e, h₁, d₁))
      (rest : Drains (r.afterChunk h₁ r.chunk.length e) h₁ d₁ cs r' h' d') :
      Drains r h d (⟨r.chunk, e⟩ :: cs) r' h' d'

theorem buffered_eq_zero_iff : r.buffered = 0 ↔ r.read = r.written := by
  refine ⟨fun hz => (written_eq_read hz).symm, fun he => ?_⟩
  rw [buffered, he, BitVec.sub_self]
  rfl

/-- What a chunk changes besides what is known of failures. -/
theorem afterChunk_eq (r : Ring w) (h : Handle) (k : Nat) (e : Written) :
    ∃ cause, r.afterChunk h k e =
      { r.advanced h k with
        writeErrors := r.writeErrors + if Ring.isWhole e then 0 else 1
        lastError := cause } := by
  cases e <;> exact ⟨_, rfl⟩

@[simp] theorem afterChunk_buffered (r : Ring w) (h : Handle) (k : Nat) (e : Written) :
    (r.afterChunk h k e).buffered = (r.advanced h k).buffered := by cases e <;> rfl

@[simp] theorem afterChunk_start (r : Ring w) (h : Handle) (k : Nat) (e : Written) :
    (r.afterChunk h k e).start = (r.advanced h k).start := by cases e <;> rfl

theorem Shaped.afterChunk (hs : r.Shaped) (h : Handle) {k : Nat} (hk : k ≤ r.buffered)
    (e : Written) : (r.afterChunk h k e).Shaped ∧
      (r.afterChunk h k e).buffered = r.buffered - k := by
  obtain ⟨cause, he⟩ := r.afterChunk_eq h k e
  have hb : (r.afterChunk h k e).buffered = r.buffered - k := by
    rw [afterChunk_buffered, buffered_advanced h hk]
  refine ⟨⟨?_, ?_, ?_, ?_⟩, hb⟩
  · rw [he]
    exact hs.pos
  · rw [he]
    exact hs.size
  · rw [hb, he]
    exact Nat.le_trans (Nat.sub_le _ _) hs.fits
  · rw [he]
    exact hs.wide

/-- What lies in a row is drained by one chunk. -/
theorem Shaped.drainsRow (hs : r.Shaped) (hrow : r.start + r.buffered ≤ r.capacity) (h : Handle)
    (d : Disk) : ∃ cs r' h' d', Drains r h d cs r' h' d' ∧ cs.length ≤ 1 := by
  by_cases hz : r.buffered = 0
  · exact ⟨[], r, h, d, .met r h d (buffered_eq_zero_iff.mp hz), Nat.zero_le _⟩
  · have hlen := hs.length_chunk
    rcases hw : h.writeAll r.chunk d with ⟨e, h₁, d₁⟩
    obtain ⟨-, hb⟩ := hs.afterChunk h₁ (k := r.chunk.length) (by omega) e
    refine ⟨[⟨r.chunk, e⟩], _, h₁, d₁,
      .next (fun he => hz (buffered_eq_zero_iff.mpr he)) hw (.met _ h₁ d₁ ?_), Nat.le_refl _⟩
    rw [← buffered_eq_zero_iff]
    omega

/-- **Two chunks are enough.** -/
theorem Shaped.drains (hs : r.Shaped) (h : Handle) (d : Disk) :
    ∃ cs r' h' d', Drains r h d cs r' h' d' ∧ cs.length ≤ mostChunks := by
  by_cases hrow : r.start + r.buffered ≤ r.capacity
  · obtain ⟨cs, r', h', d', hdr, hcs⟩ := hs.drainsRow hrow h d
    exact ⟨cs, r', h', d', hdr, Nat.le_succ_of_le hcs⟩
  · have hstart := hs.start_lt
    have hfits := hs.fits
    have hlen : r.chunk.length = r.capacity - r.start := by
      rw [hs.length_chunk]
      omega
    rcases hw : h.writeAll r.chunk d with ⟨e, h₁, d₁⟩
    obtain ⟨hs₁, hb₁⟩ := hs.afterChunk h₁ (k := r.chunk.length) (by omega) e
    have hrow₁ : (r.afterChunk h₁ r.chunk.length e).start +
        (r.afterChunk h₁ r.chunk.length e).buffered ≤
          (r.afterChunk h₁ r.chunk.length e).capacity := by
      have hle := hs.start_advanced_le h₁
      have hcap : (r.afterChunk h₁ r.chunk.length e).capacity = r.capacity := by
        cases e <;> rfl
      rw [hcap, afterChunk_start, hb₁, hlen]
      omega
    obtain ⟨cs, r', h', d', hdr, hcs⟩ := hs₁.drainsRow hrow₁ h₁ d₁
    refine ⟨_, r', h', d', .next (fun he => ?_) hw hdr, Nat.succ_le_succ hcs⟩
    have hz := buffered_eq_zero_iff.mpr he
    omega

/-- **A bound that is not reached does not matter.** -/
theorem drainChunks_of_drains {cs : List Chunk} (hd : Drains r h d cs r' h' d') {turns : Nat}
    (hcs : cs.length ≤ turns) :
    drainChunks turns r h d = (cs.all Chunk.isWhole, r', d') := by
  induction hd generalizing turns with
  | met r h d hz => exact drainChunks_of_empty (buffered_eq_zero_iff.mpr hz) turns h d
  | next hz hw rest ih =>
    obtain ⟨turns, rfl⟩ : ∃ k, turns = k + 1 := ⟨turns - 1, by
      rw [List.length_cons] at hcs
      omega⟩
    rw [drainChunks, if_neg (fun he => hz (buffered_eq_zero_iff.mp he))]
    dsimp only
    rw [hw]
    dsimp only
    rw [ih (Nat.le_of_succ_le_succ hcs)]
    rfl

/-! ## 3. What a drain leaves -/

/-- **The read cursor has come to the written one**, and nothing else of the ring has changed but
what is known of failures. -/
theorem Drains.left {cs : List Chunk} (hd : Drains r h d cs r' h' d') :
    r'.read = r'.written ∧ r'.written = r.written ∧ r'.capacity = r.capacity ∧
      r'.slots = r.slots ∧ r'.path = r.path ∧ r'.dropped = r.dropped ∧
      (r.handle = some h → r'.handle = some h') := by
  induction hd with
  | met r h d hz => exact ⟨hz, rfl, rfl, rfl, rfl, rfl, id⟩
  | @next r r' h h₁ h' d d₁ d' e cs hz hw rest ih =>
    obtain ⟨cause, he⟩ := r.afterChunk_eq h₁ r.chunk.length e
    rw [he] at ih
    obtain ⟨hmet, hwritten, hcap, hslots, hpath, hdropped, hhandle⟩ := ih
    exact ⟨hmet, hwritten, hcap, hslots, hpath, hdropped, fun _ => hhandle rfl⟩

/-- **Each chunk that was not written whole is counted.** -/
theorem Drains.counted {cs : List Chunk} (hd : Drains r h d cs r' h' d') :
    r'.writeErrors = r.writeErrors + cs.countP (fun c => !c.isWhole) := by
  induction hd with
  | met r h d hz => rfl
  | @next r r' h h₁ h' d d₁ d' e cs hz hw rest ih =>
    obtain ⟨cause, he⟩ := r.afterChunk_eq h₁ r.chunk.length e
    rw [ih, he, List.countP_cons]
    show r.writeErrors + (if Ring.isWhole e then 0 else 1) + _ =
      r.writeErrors + (_ + if !Ring.isWhole e then 1 else 0)
    cases Ring.isWhole e with
    | true => rfl
    | false =>
      show r.writeErrors + 1 + cs.countP _ = r.writeErrors + (cs.countP _ + 1)
      omega

/-- The handle leads where it led. -/
theorem Drains.appends {cs : List Chunk} (hd : Drains r h d cs r' h' d') (hf : d.Filed)
    (ha : h.Appends d) : h'.target = h.target ∧ h'.Appends d' ∧ d'.Filed := by
  induction hd with
  | met r h d hz => exact ⟨rfl, ha, hf⟩
  | @next r r' h h₁ h' d d₁ d' e cs hz hw rest ih =>
    obtain ⟨ht₁, ha₁, hf₁, -⟩ := ha.writeAll hf r.chunk
    rw [hw] at ht₁ ha₁ hf₁
    obtain ⟨ht, ha', hf'⟩ := ih hf₁ ha₁
    exact ⟨ht.trans ht₁, ha', hf'⟩

/-- **What was taken of the chunks is at the end of the file.** -/
theorem Drains.written {cs : List Chunk} (hd : Drains r h d cs r' h' d') (hend : h.AtEnd n d) :
    d'.octetsOf n = d.octetsOf n ++ (cs.map Chunk.taken).flatten := by
  induction hd with
  | met r h d hz => simp
  | @next r r' h h₁ h' d d₁ d' e cs hz hw rest ih =>
    obtain ⟨⟨hend₁, -, front, hfront, hoct⟩, -⟩ :=
      hend.writeAttempts (List.suffix_refl d.mishaps.writes) r.chunk
    rw [show h.writeAttempts d.mishaps.writes r.chunk d = (e, h₁, d₁) from hw] at hend₁ hfront hoct
    dsimp only at hfront hoct
    have htaken : Chunk.taken ⟨r.chunk, e⟩ = front := by
      show r.chunk.take (r.chunk.length - e.rest.length) = front
      rw [← hfront, List.length_append, Nat.add_sub_cancel, List.take_left]
    rw [ih hend₁, hoct, List.map_cons, List.flatten_cons, htaken, List.append_assoc]

/-- **The chunks are what was unread**, in order. -/
theorem Drains.bytes {cs : List Chunk} (hd : Drains r h d cs r' h' d') (hs : r.Sound) :
    (cs.map Chunk.bytes).flatten = r.unread := by
  induction hd with
  | met r h d hz =>
    refine (List.eq_nil_of_length_eq_zero ?_).symm
    rw [length_unread, buffered_eq_zero_iff.mpr hz]
  | @next r r' h h₁ h' d d₁ d' e cs hz hw rest ih =>
    have hlen := hs.length_chunk
    obtain ⟨⟨hpos, hsize, hfits, hfollows⟩, hu⟩ :=
      hs.advanced h₁ (n := r.chunk.length) (by omega)
    obtain ⟨cause, he⟩ := r.afterChunk_eq h₁ r.chunk.length e
    rw [he] at ih
    -- what is known of failures is no part of what is unread
    have hrest : (cs.map Chunk.bytes).flatten = (r.advanced h₁ r.chunk.length).unread :=
      ih ⟨hpos, hsize, hfits, hfollows⟩
    rw [List.map_cons, List.flatten_cons, hrest, hu]
    obtain ⟨rest', hu'⟩ : r.chunk <+: r.unread := hs.chunk_eq ▸ List.take_prefix _ _
    show r.chunk ++ r.unread.drop r.chunk.length = r.unread
    rw [← hu', List.drop_left]

/-! ## 4. The states of a ring -/

/-- **The states a ring comes to**, also in the middle of a call, and how many octets were put in so
far. What is going to become of further attempts to write, and of syncing the file, is open at any
time. -/
inductive Comes (r₀ : Ring w) (d₀ : Disk) : Ring w → Disk → Nat → Prop where
  | start : Comes r₀ d₀ r₀ d₀ 0
  | put {r : Ring w} {d : Disk} {total : Nat} (bytes : Octets) (hc : Comes r₀ d₀ r d total)
      (hready : r.isReady = true) (hroom : bytes.length ≤ r.room) :
      Comes r₀ d₀ (bytes.foldl push r) d (total + bytes.length)
  | drained {r : Ring w} {d : Disk} {total : Nat} (hc : Comes r₀ d₀ r d total) :
      Comes r₀ d₀ (r.drain d).2.1 (r.drain d).2.2 total
  | dropped {r : Ring w} {d : Disk} {total : Nat} (hc : Comes r₀ d₀ r d total) :
      Comes r₀ d₀ r.drop d total
  | planned {r : Ring w} {d : Disk} {total : Nat} (m : Mishaps) (hc : Comes r₀ d₀ r d total) :
      Comes r₀ d₀ r { d with mishaps := m } total

/-- **What holds in each of these states.** The written cursor counts the octets, as far as a word
can. -/
structure Upright (r : Ring w) (d : Disk) (total : Nat) : Prop where
  shaped : r.Shaped
  written : r.written = BitVec.ofNat w total
  buffered : r.buffered ≤ total
  filed : d.Filed
  appends : ∀ h, r.handle = some h → h.Appends d
  idle : r.handle = none → r.buffered = 0

variable {r₀ : Ring w} {d₀ : Disk} {total : Nat}

/-- **No position has wrapped as long as fewer octets were put in than a word can count.** -/
theorem Upright.sound (hu : Upright r d total) (ht : total < 2 ^ w) : r.Sound := by
  have hlt : r.read.toNat < 2 ^ w := r.read.isLt
  have hsum : (r.read.toNat + r.buffered) % 2 ^ w = total := by
    rw [← toNat_ofNat ht, ← hu.written, ← r.read_add_buffered, BitVec.toNat_add,
      BitVec.toNat_ofNat, Nat.add_mod_mod]
  have hle := hu.buffered
  refine ⟨hu.shaped.pos, hu.shaped.size, hu.shaped.fits, follows_of_le ?_⟩
  by_cases hwrap : r.read.toNat + r.buffered < 2 ^ w
  · exact Nat.le_of_lt hwrap
  · -- less would have been put in than is unread
    rw [Nat.mod_eq_sub_mod (by omega), Nat.mod_eq_of_lt (by omega)] at hsum
    omega

theorem buffered_pushAll (bytes : Octets) (hlt : r.buffered + bytes.length < 2 ^ w) :
    (bytes.foldl push r).buffered = r.buffered + bytes.length := by
  induction bytes generalizing r with
  | nil => rfl
  | cons b bytes ih =>
    rw [List.length_cons] at hlt
    have hb := buffered_push (r := r) (b := b) (by omega)
    rw [List.foldl_cons, ih (by omega), hb, List.length_cons]
    omega

theorem size_pushAll (bytes : Octets) : (bytes.foldl push r).slots.size = r.slots.size := by
  induction bytes generalizing r with
  | nil => rfl
  | cons b bytes ih =>
    rw [List.foldl_cons, ih]
    exact Array.size_setIfInBounds

theorem Upright.put (hu : Upright r d total) (bytes : Octets) (hready : r.isReady = true)
    (hroom : bytes.length ≤ r.room) : Upright (bytes.foldl push r) d (total + bytes.length) := by
  obtain ⟨⟨hpos, hsize, hfits, hwide⟩, hwritten, hle, hfiled, happ, -⟩ := hu
  unfold room at hroom
  have hb := buffered_pushAll (r := r) bytes (by omega)
  have hsame := pushAll_eq r bytes
  have hcap : (bytes.foldl push r).capacity = r.capacity := by rw [hsame]
  have hhandle : (bytes.foldl push r).handle = r.handle := by rw [hsame]
  refine ⟨⟨?_, ?_, ?_, ?_⟩, ?_, ?_, hfiled, ?_, fun hn => ?_⟩
  · rw [hcap]
    exact hpos
  · rw [size_pushAll, hcap]
    exact hsize
  · rw [hb, hcap]
    omega
  · rw [hcap]
    exact hwide
  · rw [hsame]
    show r.written + BitVec.ofNat w bytes.length = _
    rw [hwritten, ← BitVec.ofNat_add]
  · rw [hb]
    omega
  · rw [hhandle]
    exact happ
  · rw [hhandle] at hn
    rw [isReady, hn] at hready
    cases hready

/-- **How a drain goes**, whatever becomes of the writing: the ring is empty behind it. -/
structure Emptied (r : Ring w) (h : Handle) (d : Disk) (cs : List Chunk) (r' : Ring w) (h' : Handle)
    (d' : Disk) : Prop where
  drains : Drains r h d cs r' h' d'
  turns : cs.length ≤ mostChunks
  answer : r.drain d = (some (cs.all Chunk.isWhole), r', d')

theorem Shaped.emptied (hs : r.Shaped) (hr : r.handle = some h) (d : Disk) :
    ∃ cs r' h' d', Emptied r h d cs r' h' d' := by
  obtain ⟨cs, r', h', d', hdr, hcs⟩ := hs.drains h d
  refine ⟨cs, r', h', d', hdr, hcs, ?_⟩
  rw [drain, hr]
  dsimp only
  rw [drainChunks_of_drains hdr hcs]

theorem Upright.drained (hu : Upright r d total) :
    Upright (r.drain d).2.1 (r.drain d).2.2 total ∧ (r.drain d).2.1.buffered = 0 ∧
      Alike r (r.drain d).2.1 ∧ (r.drain d).2.1.isReady = r.isReady := by
  cases hr : r.handle with
  | none =>
    have he : r.drain d = (none, r, d) := by rw [drain, hr]
    rw [he]
    exact ⟨hu, hu.idle hr, .refl r, rfl⟩
  | some h =>
    obtain ⟨cs, r', h', d', hdr, -, he⟩ := hu.shaped.emptied hr d
    obtain ⟨hmet, hwritten, hcap, hslots, hpath, hdropped, hhandle⟩ := hdr.left
    obtain ⟨-, happ, hfiled⟩ := hdr.appends hu.filed (hu.appends h hr)
    have hz : r'.buffered = 0 := buffered_eq_zero_iff.mpr hmet
    obtain ⟨⟨hpos, hsize, -, hwide⟩, hw, -⟩ := hu
    rw [he]
    refine ⟨⟨⟨hcap ▸ hpos, ?_, ?_, hcap ▸ hwide⟩, hwritten.trans hw, ?_, hfiled, fun k hk => ?_,
      fun hn => hz⟩, hz, ⟨hpath, hcap, hdropped⟩, ?_⟩
    · show r'.slots.size = r'.capacity
      rw [hslots, hcap]
      exact hsize
    · show r'.buffered ≤ _
      rw [hz]
      exact Nat.zero_le _
    · show r'.buffered ≤ _
      rw [hz]
      exact Nat.zero_le _
    · obtain rfl := Option.some.inj ((hhandle hr).symm.trans hk)
      exact happ
    · show r'.handle.isSome = _
      rw [hhandle hr, isReady, hr]
      rfl

/-- **A ring is upright in every state it comes to.** -/
theorem Comes.upright (hc : Comes r₀ d₀ r d total) (h₀ : Upright r₀ d₀ 0) :
    Upright r d total := by
  induction hc with
  | start => exact h₀
  | put bytes hc hready hroom ih => exact ih.put bytes hready hroom
  | drained hc ih => exact ih.drained.1
  | dropped hc ih =>
    obtain ⟨⟨hpos, hsize, hfits, hwide⟩, hwritten, hle, hfiled, happ, hidle⟩ := ih
    exact ⟨⟨hpos, hsize, hfits, hwide⟩, hwritten, hle, hfiled, happ, hidle⟩
  | planned m hc ih =>
    obtain ⟨hshaped, hwritten, hle, hfiled, happ, hidle⟩ := ih
    refine ⟨hshaped, hwritten, hle, hfiled, fun h hh k hk => ?_, hidle⟩
    obtain ⟨htarget, hlt, hpos⟩ := happ h hh k hk
    exact ⟨htarget, hlt, hpos⟩

/-- A ring as it is made stands upright, before a file or not. -/
theorem upright_create {path : Path} {size : Nat} {o : Except Cause Unit} (hd : d.Filed)
    (hw : greatestCapacity < 2 ^ w) (hc : create path size d = (o, r, d₀)) :
    Upright r d₀ 0 ∧ r.buffered = 0 ∧ r.dropped = 0 ∧
      r.capacity = min (max size 1) greatestCapacity := by
  have hempty : ∀ handle : Option Handle,
      (empty (w := w) path handle size).buffered = 0 ∧
        (empty (w := w) path handle size).Shaped := by
    intro handle
    have hzero : (empty (w := w) path handle size).buffered = 0 := by
      show ((0 : BitVec w) - 0).toNat = 0
      simp
    have hcap : (empty (w := w) path handle size).capacity =
        min (max size 1) greatestCapacity := rfl
    refine ⟨hzero, ?_, Array.size_replicate, ?_, ?_⟩
    · rw [hcap, greatestCapacity]
      omega
    · rw [hzero]
      exact Nat.zero_le _
    · rw [hcap]
      omega
  unfold create at hc
  rcases hd.openAppend path with ⟨c, d', ho, hd'⟩ | ⟨h, d', ho, hd', happ⟩
  · rw [ho] at hc
    cases hc
    obtain ⟨hzero, hshaped⟩ := hempty none
    exact ⟨⟨hshaped, rfl, Nat.le_of_eq hzero, hd', fun h hh => (by cases hh), fun _ => hzero⟩,
      hzero, rfl, rfl⟩
  · rw [ho] at hc
    cases hc
    obtain ⟨hzero, hshaped⟩ := hempty (some h)
    refine ⟨⟨hshaped, rfl, Nat.le_of_eq hzero, hd', fun k hk => ?_, fun hn => by cases hn⟩, hzero,
      rfl, rfl⟩
    obtain rfl := Option.some.inj hk
    exact happ

end Logworks.Ring
