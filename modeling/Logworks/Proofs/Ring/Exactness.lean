import Logworks.Proofs.Disk.Writing
import Logworks.Proofs.Ring.Unread
import Logworks.Sink.Basic

/-!
# A ring reproduces what it accepts

One thread works on a ring, and no attempt to write fails, though each may take a part only; the
file may fail to sync. Then nothing that was accepted is lost, doubled or put in another order.
This file fixes

* `Drained` -- a drain puts the unread octets behind the file, and leaves none;
* `Holds` -- **what was taken is in the file and behind it in the ring**; `Holds.produce` -- a
  record comes behind that, or is dropped because it is longer than the ring;
* `Errand`, `offered` -- what is asked of a sink that is a ring, and the records that offers;
  `answers` -- what it answers, by what comes of syncing the file;
* `reproduces_accepted` -- **after any calls file and ring hold the accepted records, in their
  order**, and the ring is at most half full.

NOT here: attempts that fail, and cursors that wrap; no run takes that many octets.
-/

namespace Logworks.Ring

open Disk Text

variable {w : Nat} {r : Ring w} {n : Nat} {d : Disk}

/-! ## 1. Draining -/

/-- **The ring is empty, and what was in it is at the end of the file.** -/
structure Drained (n : Nat) (r : Ring w) (d : Disk) (r' : Ring w) (d' : Disk) : Prop where
  ring : ∃ h : Handle, r' = { r with handle := some h, read := r.written } ∧ h.AtEnd n d'
  file : d'.octetsOf n = d.octetsOf n ++ r.unread
  touches : Touches n d d'

theorem drainChunks_of_empty (h : r.buffered = 0) (turns : Nat) (hd : Handle) (d : Disk) :
    drainChunks turns r hd d = (true, r, d) := by
  cases turns with
  | zero => rfl
  | succ turns => rw [drainChunks, if_pos h]

/-- A turn that writes its chunk whole. -/
theorem drainChunks_succ {turns : Nat} {hd h' : Handle} {d' : Disk} (hz : r.buffered ≠ 0)
    (hw : hd.writeAll r.chunk d = (.all, h', d')) :
    drainChunks (turns + 1) r hd d =
      drainChunks turns (r.advanced h' r.chunk.length) h' d' := by
  have hafter : r.afterChunk h' r.chunk.length .all = r.advanced h' r.chunk.length := rfl
  rw [drainChunks, if_neg hz]
  dsimp only
  rw [hw]
  dsimp only
  rw [hafter]
  simp only [isWhole, Bool.true_and]

theorem advanced_buffered (r : Ring w) (hd : Handle) :
    r.advanced hd r.buffered = { r with handle := some hd, read := r.written } := by
  rw [advanced, read_add_buffered]

/-- Octets that lie in a row are drained in one turn. -/
theorem Sound.drainRow (h : r.Sound) (hrow : r.start + r.buffered ≤ r.capacity) {hd : Handle}
    (hr : r.handle = some hd) (hend : hd.AtEnd n d) (hd' : d.mishaps.Writable) (turns : Nat) :
    ∃ r' d', drainChunks (turns + 1) r hd d = (true, r', d') ∧ Drained n r d r' d' := by
  by_cases hz : r.buffered = 0
  · have hnil : r.unread = [] := List.eq_nil_of_length_eq_zero ((length_unread r).trans hz)
    refine ⟨r, d, drainChunks_of_empty hz _ hd d, ⟨hd, ?_, hend⟩, ?_, .refl n d⟩
    · rw [← advanced_buffered, Ring.advanced, hz, BitVec.add_zero, ← hr]
    · rw [hnil, List.append_nil]
  · have hchunk : r.chunk = r.unread := by
      rw [h.chunk_eq, List.take_of_length_le]
      rw [length_unread]
      omega
    obtain ⟨h', d', hw, hend', hoct, ht⟩ := hend.writeAll hd' r.chunk
    have hempty : (r.advanced h' r.buffered).buffered = 0 := by
      rw [buffered_advanced h' (Nat.le_refl _), Nat.sub_self]
    refine ⟨r.advanced h' r.buffered, d', ?_, ⟨h', advanced_buffered r h', hend'⟩, ?_, ht⟩
    · rw [drainChunks_succ hz hw, hchunk, length_unread, drainChunks_of_empty hempty]
    · rw [hoct, hchunk]

/-- **A drain puts all unread octets behind the file.** -/
theorem Sound.drain (h : r.Sound) {hd : Handle} (hr : r.handle = some hd) (hend : hd.AtEnd n d)
    (hd' : d.mishaps.Writable) :
    ∃ r' d', r.drain d = (some true, r', d') ∧ Drained n r d r' d' := by
  have hchunks : ∃ r' d', drainChunks mostChunks r hd d = (true, r', d') ∧
      Drained n r d r' d' := by
    by_cases hrow : r.start + r.buffered ≤ r.capacity
    · exact h.drainRow hrow hr hend hd' 1
    · -- the first turn goes up to the last slot, the second one starts at the first slot
      have hstart : r.start < r.capacity := Nat.mod_lt _ h.pos
      have hlen : r.chunk.length = r.capacity - r.start := by
        rw [h.length_chunk]
        omega
      obtain ⟨h₁, d₁, hw, hend₁, hoct, ht₁⟩ := hend.writeAll hd' r.chunk
      obtain ⟨hs₁, hu₁⟩ := h.advanced h₁ (n := r.capacity - r.start) (by omega)
      have hrow₁ : (r.advanced h₁ (r.capacity - r.start)).start +
          (r.advanced h₁ (r.capacity - r.start)).buffered ≤ r.capacity := by
        rw [h.start_advanced h₁ (by omega), Nat.zero_add]
        exact hs₁.fits
      obtain ⟨r', d', he, ⟨h₂, hr', hend₂⟩, hfile, ht₂⟩ :=
        hs₁.drainRow hrow₁ rfl hend₁ (ht₁.writable hd') 0
      refine ⟨r', d', ?_, ⟨h₂, hr', hend₂⟩, ?_, ht₁.trans ht₂⟩
      · rw [mostChunks, drainChunks_succ (by omega) hw, hlen]
        exact he
      · rw [hfile, hu₁, hoct, h.chunk_eq, List.append_assoc, List.take_append_drop]
  obtain ⟨r', d', he, hdr⟩ := hchunks
  refine ⟨r', d', ?_, hdr⟩
  rw [Ring.drain, hr]
  dsimp only
  rw [he]

/-! ## 2. File and ring together -/

/-- **The octets taken are in the file, behind what was there before, and the rest of them is in
the ring.** The read cursor has not wrapped, so that positions count octets. What becomes of the
file when it is synced is planned. -/
structure Holds (n : Nat) (before taken : Octets) (plan : List (Option SystemCause)) (r : Ring w)
    (d : Disk) : Prop where
  sound : r.Sound
  ready : ∃ h : Handle, r.handle = some h ∧ h.AtEnd n d
  writable : d.mishaps.Writable
  syncs : d.mishaps.syncs = plan
  whole : ∃ out, d.octetsOf n = before ++ out ∧ out ++ r.unread = taken
  cursor : r.read.toNat + r.buffered = taken.length
  bounded : taken.length < 2 ^ w

variable {before taken : Octets} {plan : List (Option SystemCause)}

/-- Octets that have room are put in. -/
theorem Holds.put (h : Holds n before taken plan r d) (bytes : Octets)
    (hroom : bytes.length ≤ r.room) (hlt : (taken ++ bytes).length < 2 ^ w) :
    Holds n before (taken ++ bytes) plan (bytes.foldl push r) d := by
  have hlen : (taken ++ bytes).length = taken.length + bytes.length := List.length_append
  have hcur := h.cursor
  have hfits := h.sound.fits
  unfold room at hroom
  obtain ⟨hs, hu⟩ := h.sound.pushAll bytes (follows_of_le (by omega)) (by omega) (by omega)
  have hb : (bytes.foldl push r).buffered = r.buffered + bytes.length := by
    rw [← length_unread, hu, List.length_append, length_unread]
  obtain ⟨hd, hr, hend⟩ := h.ready
  obtain ⟨out, hout, hall⟩ := h.whole
  refine ⟨hs, ⟨hd, ?_, hend⟩, h.writable, h.syncs, ⟨out, hout, ?_⟩, ?_, hlt⟩
  · rw [pushAll_eq]
    exact hr
  · rw [hu, ← List.append_assoc, hall]
  · have hread : (bytes.foldl push r).read = r.read := by rw [pushAll_eq]
    rw [hread, hb]
    omega

/-- What no step but a drop changes. -/
structure Alike (r r' : Ring w) : Prop where
  path : r'.path = r.path
  capacity : r'.capacity = r.capacity
  dropped : r'.dropped = r.dropped

theorem Alike.refl (r : Ring w) : Alike r r := ⟨rfl, rfl, rfl⟩

theorem Alike.trans {a b c : Ring w} (h : Alike a b) (h' : Alike b c) : Alike a c :=
  ⟨h'.path.trans h.path, h'.capacity.trans h.capacity, h'.dropped.trans h.dropped⟩

theorem alike_pushAll (r : Ring w) (bytes : Octets) : Alike r (bytes.foldl push r) := by
  rw [pushAll_eq]
  exact ⟨rfl, rfl, rfl⟩

theorem Holds.drain (h : Holds n before taken plan r d) :
    ∃ r' d', r.drain d = (some true, r', d') ∧ Holds n before taken plan r' d' ∧
      r'.buffered = 0 ∧ Alike r r' := by
  obtain ⟨hd, hr, hend⟩ := h.ready
  obtain ⟨out, hout, hall⟩ := h.whole
  obtain ⟨r', d', he, ⟨hd', hr', hend'⟩, hfile, htouch⟩ := h.sound.drain hr hend h.writable
  have hcur := h.cursor
  have hlt := h.bounded
  have hs : r'.Sound ∧ r'.unread = r.unread.drop r.buffered := by
    rw [hr', ← advanced_buffered]
    exact h.sound.advanced hd' (Nat.le_refl _)
  have hnil : r'.unread = [] := by
    rw [hs.2, List.drop_of_length_le (Nat.le_of_eq (length_unread r))]
  have hzero : r'.buffered = 0 := by rw [← length_unread, hnil, List.length_nil]
  refine ⟨r', d', he, ⟨hs.1, ⟨hd', by rw [hr'], hend'⟩, htouch.writable h.writable,
    htouch.syncs.trans h.syncs, ⟨taken, ?_, by rw [hnil, List.append_nil]⟩, ?_, hlt⟩, hzero,
    by rw [hr']; exact ⟨rfl, rfl, rfl⟩⟩
  · rw [hfile, hout, List.append_assoc, hall]
  · have hread : r'.read.toNat = r.read.toNat + r.buffered := by
      rw [hr']
      show r.written.toNat = _
      rw [← r.read_add_buffered, toNat_add_ofNat (by omega)]
    rw [hzero, hread]
    exact hcur

/-- **A file is synced**, and what is planned for that is used up. -/
theorem sync_of_file {h : Handle} (hr : r.handle = some h) (ht : h.target = .file n) (d : Disk) :
    r.sync d = (syncEnd r.path d.mishaps.syncs.head?.join, d.synced) := by
  rw [sync, hr]
  dsimp only
  rw [Handle.sync, ht]

/-- A device has nothing to sync, and that is well. -/
theorem sync_of_device {h : Handle} {v : Device} (hr : r.handle = some h)
    (ht : h.target = .device v) (d : Disk) : r.sync d = (.ok (), d) := by
  rw [sync, hr]
  dsimp only
  rw [Handle.sync, ht]
  rfl

/-- What a flush does: a drain, and then the file is synced. -/
theorem Holds.flush (h : Holds n before taken plan r d) :
    ∃ r' d', r.flush d = (syncEnd r.path plan.head?.join, r', d') ∧
      Holds n before taken plan.tail r' d' ∧ r'.buffered = 0 ∧ Alike r r' := by
  obtain ⟨r', d', he, h', hzero, hlike⟩ := h.drain
  obtain ⟨hd, hr, hend⟩ := h'.ready
  refine ⟨r', d'.synced, ?_, ⟨h'.sound, ⟨hd, hr, ⟨hend.target, hend.filed, hend.position⟩⟩,
    h'.writable, congrArg List.tail h'.syncs, h'.whole, h'.cursor, h'.bounded⟩, hzero, hlike⟩
  rw [Ring.flush, he]
  dsimp only
  rw [sync_of_file hr hend.target, h'.syncs, hlike.path]

/-- The records that are not longer than the ring. -/
def accepted (capacity : Nat) (records : List Octets) : List Octets :=
  records.filter fun bytes => decide (bytes.length ≤ capacity)

/-- The records that are longer. -/
def rejected (capacity : Nat) (records : List Octets) : List Octets :=
  records.filter fun bytes => decide (capacity < bytes.length)

theorem accepted_append (capacity : Nat) (a b : List Octets) :
    accepted capacity (a ++ b) = accepted capacity a ++ accepted capacity b :=
  List.filter_append a b

theorem rejected_append (capacity : Nat) (a b : List Octets) :
    rejected capacity (a ++ b) = rejected capacity a ++ rejected capacity b :=
  List.filter_append a b

/-- **A record has room if and only if it is not longer than the ring.** -/
theorem Holds.reserve (h : Holds n before taken plan r d) (bytes : Octets)
    (hlt : (taken ++ (accepted r.capacity [bytes]).flatten).length < 2 ^ w) :
    ∃ r' d', r.reserve bytes d = (decide (bytes.length ≤ r.capacity), r', d') ∧
      Holds n before (taken ++ (accepted r.capacity [bytes]).flatten) plan r' d' ∧ Alike r r' ∧
      (r.capacity < bytes.length → r' = r) := by
  unfold Ring.reserve
  by_cases hlong : r.capacity < bytes.length
  · have hnone : accepted r.capacity [bytes] = [] := by simp [accepted, hlong]
    rw [if_pos hlong, hnone, List.flatten_nil, List.append_nil]
    exact ⟨r, d, by simp [hlong], h, .refl r, fun _ => rfl⟩
  have hle : bytes.length ≤ r.capacity := by omega
  have hsome : (accepted r.capacity [bytes]).flatten = bytes := by simp [accepted, hle]
  rw [hsome] at hlt ⊢
  rw [if_neg hlong]
  by_cases hroom : bytes.length ≤ r.room
  · rw [if_pos hroom]
    exact ⟨_, d, by simp [hle], h.put bytes hroom hlt, alike_pushAll r bytes,
      fun e => absurd e hlong⟩
  · -- after a drain all slots are free
    obtain ⟨r₁, d₁, he, h₁, hzero, hlike⟩ := h.drain
    have hroom₁ : bytes.length ≤ r₁.room := by
      rw [room, hzero, hlike.capacity]
      exact hle
    rw [if_neg hroom, he]
    dsimp only
    rw [if_pos hroom₁]
    exact ⟨_, d₁, by simp [hle], h₁.put bytes hroom₁ hlt, hlike.trans (alike_pushAll r₁ bytes),
      fun e => absurd e hlong⟩

/-- **What records make of a ring**: those that fit come behind what was taken, the others are
counted, and the ring is at most half full. -/
structure Took (n : Nat) (before taken : Octets) (plan : List (Option SystemCause))
    (records : List Octets) (r r' : Ring w) (d' : Disk) : Prop where
  holds : Holds n before (taken ++ (accepted r.capacity records).flatten) plan r' d'
  path : r'.path = r.path
  capacity : r'.capacity = r.capacity
  dropped : r'.dropped = r.dropped + (rejected r.capacity records).length
  half : r'.buffered ≤ r.capacity / 2

/-- No record came. -/
theorem Holds.took_nothing {r' : Ring w} {d' : Disk} (h : Holds n before taken plan r' d')
    (hlike : Alike r r') (hhalf : r'.buffered ≤ r.capacity / 2) :
    Took n before taken plan [] r r' d' where
  holds := (List.append_nil taken).symm ▸ h
  path := hlike.path
  capacity := hlike.capacity
  dropped := hlike.dropped
  half := hhalf

theorem Took.trans {a b : List Octets} {plan' : List (Option SystemCause)} {r₁ r₂ : Ring w}
    {d₁ d₂ : Disk} (h : Took n before taken plan a r r₁ d₁)
    (h' : Took n before (taken ++ (accepted r.capacity a).flatten) plan' b r₁ r₂ d₂) :
    Took n before taken plan' (a ++ b) r r₂ d₂ where
  holds := by
    have hh := h'.holds
    rw [h.capacity] at hh
    rw [accepted_append, List.flatten_append, ← List.append_assoc]
    exact hh
  path := h'.path.trans h.path
  capacity := h'.capacity.trans h.capacity
  dropped := by
    rw [h'.dropped, h.dropped, h.capacity, rejected_append, List.length_append, Nat.add_assoc]
  half := by
    rw [← h.capacity]
    exact h'.half

/-- **A record is taken or counted as dropped**, and the answer says which. -/
theorem Holds.produce (h : Holds n before taken plan r d) (hhalf : r.buffered ≤ r.capacity / 2)
    (bytes : Octets) (hlt : (taken ++ (accepted r.capacity [bytes]).flatten).length < 2 ^ w) :
    ∃ r' d', r.produce bytes d = (decide (bytes.length ≤ r.capacity), r', d') ∧
      Took n before taken plan [bytes] r r' d' := by
  have hready : r.isReady = true := by
    obtain ⟨hd, hr, -⟩ := h.ready
    rw [isReady, hr]
    rfl
  obtain ⟨r₁, d₁, he, h₁, hlike, hsame⟩ := h.reserve bytes hlt
  unfold Ring.produce
  rw [hready, he]
  by_cases hle : bytes.length ≤ r.capacity
  · have hnone : rejected r.capacity [bytes] = [] := by simp [rejected, hle]
    have hdropped := fun {r' : Ring w} (hl : Alike r r') => show
        r'.dropped = r.dropped + (rejected r.capacity [bytes]).length by
      rw [hnone, hl.dropped, List.length_nil, Nat.add_zero]
    rw [decide_eq_true hle]
    by_cases hmore : r₁.capacity / 2 < r₁.buffered
    · obtain ⟨r₂, d₂, he₂, h₂, hzero, hlike₂⟩ := h₁.drain
      have hl := hlike.trans hlike₂
      refine ⟨r₂, d₂, ?_, h₂, hl.path, hl.capacity, hdropped hl, ?_⟩
      · simp only [Bool.not_true, Bool.false_eq_true, if_false, if_pos hmore, he₂]
      · rw [hzero]
        exact Nat.zero_le _
    · refine ⟨r₁, d₁, ?_, h₁, hlike.path, hlike.capacity, hdropped hlike, ?_⟩
      · simp only [Bool.not_true, Bool.false_eq_true, if_false, if_neg hmore]
      · rw [← hlike.capacity]
        omega
  · have hone : (rejected r.capacity [bytes]).length = 1 := by
      simp [rejected, Nat.lt_of_not_le hle]
    rw [decide_eq_false hle]
    obtain rfl := hsame (Nat.lt_of_not_le hle)
    -- the count of dropped records is no part of what `Holds` is about
    refine ⟨r₁.drop, d₁, rfl, ⟨⟨h₁.sound.pos, h₁.sound.size, h₁.sound.fits, h₁.sound.follows⟩,
      h₁.ready, h₁.writable, h₁.syncs, h₁.whole, h₁.cursor, h₁.bounded⟩, rfl, rfl, ?_, hhalf⟩
    rw [hone]
    rfl

/-! ## 3. A sink that is a ring -/

/-- What is asked of a sink that is a ring. -/
inductive Errand where
  | write (bytes : Octets)
  | log (logger : String) (level : Level) (message : String)
  | threshold (level : Level)
  /-- Writes what was not read, and says whether that was whole. -/
  | drain
  | flush

/-- What is answered. -/
inductive Answer where
  | taken (isTaken : Bool)
  | drained (isWhole : Bool)
  | outcome (o : Outcome)
  | done
  deriving DecidableEq

/-- Works on the ring of a sink, if it is one. -/
def onRing (s : Sink) (site : Site) (f : Ring 64 → Disk → Bool × Ring 64 × Disk)
    (answer : Bool → Answer) : Answer × Sink × Site :=
  match s.kind with
  | .ring r =>
    let (b, r, d) := f r site.disk
    (answer b, { s with kind := .ring r }, { site with disk := d })
  | _ => (.done, s, site)

/-- Calls a sink. -/
def onSink (s : Sink) (c : Fanout.Call) (site : Site) : Answer × Sink × Site :=
  let p := s.perform c site
  (.outcome p.outcome, { s with kind := p.kind }, p.site)

def Errand.perform (s : Sink) (site : Site) : Errand → Answer × Sink × Site
  | write bytes => onRing s site (fun r d => r.produce bytes d) .taken
  | drain => onRing s site flushBuffer .drained
  | log logger level message => onSink s (.log logger level message) site
  | flush => onSink s .flush site
  | threshold level => (.done, s.setThreshold level, site)

/-- Errands one after the other, with what is answered. -/
def performAll (s : Sink) (site : Site) : List Errand → List Answer × Sink × Site
  | [] => ([], s, site)
  | e :: es =>
    let (a, s, site) := e.perform s site
    let (as, s, site) := performAll s site es
    (a :: as, s, site)

/-- The octets of a record: its level in brackets, and its message. -/
def lineOctets (level : Level) (message : String) : Octets :=
  Text.octetsOf ("[" ++ level.name ++ "] " ++ message ++ "\n")

theorem recordOctets_eq (level : Level) (message : String) :
    recordOctets level message = lineOctets level message := by
  simp [recordOctets, lineOctets, Text.octetsOf]

/-- The records that an errand offers under a threshold: one or none. -/
def Errand.records (threshold : Level) : Errand → List Octets
  | write bytes => [bytes]
  | log _ level message =>
    if threshold.admits level then [lineOctets level message] else []
  | _ => []

/-- The threshold behind an errand. -/
def Errand.next (threshold : Level) : Errand → Level
  | .threshold level => level
  | _ => threshold

/-- The records that errands offer, in order. -/
def offered (threshold : Level) : List Errand → List Octets
  | [] => []
  | e :: es => e.records threshold ++ offered (e.next threshold) es

/-- What an errand should be answered: a write whether it fits, a drain that it was whole, and a
flush what is told of the file that was synced. -/
def Errand.answer (capacity : Nat) (told : Except Fault Unit) : Errand → Answer
  | write bytes => .taken (decide (bytes.length ≤ capacity))
  | drain => .drained true
  | log .. => .outcome .ok
  | flush => .outcome (.ofExcept told)
  | threshold _ => .done

/-- What is planned for syncs behind an errand: a flush syncs the file once. -/
def Errand.planned (plan : List (Option SystemCause)) : Errand → List (Option SystemCause)
  | flush => plan.tail
  | _ => plan

/-- What errands should be answered, by what is planned for syncs. -/
def answers (path : Path) (capacity : Nat) :
    List (Option SystemCause) → List Errand → List Answer
  | _, [] => []
  | plan, e :: es =>
    e.answer capacity (syncEnd path plan.head?.join) ::
      answers path capacity (e.planned plan) es

/-- Where syncing is not going to fail, each errand is answered by itself. -/
theorem answers_of_calm (path : Path) (capacity : Nat) (es : List Errand)
    (calm : ∀ c ∈ plan, c = none) :
    answers path capacity plan es = es.map (·.answer capacity (.ok ())) := by
  induction es generalizing plan with
  | nil => rfl
  | cons e es ih =>
    have hhead : plan.head?.join = none := by
      cases plan with
      | nil => rfl
      | cons c plan => exact calm c List.mem_cons_self
    have hrest : ∀ c ∈ e.planned plan, c = none := by
      cases e with
      | flush => exact fun c hc => calm c (List.mem_of_mem_tail hc)
      | _ => exact calm
    rw [answers, hhead, ih hrest, List.map_cons]
    rfl

/-- The errand leaves nothing in the ring. -/
def Errand.empties : Errand → Bool
  | drain | flush => true
  | _ => false

/-! ## 4. Runs -/

section Runs

variable {r : Ring 64} {site : Site}

/-- What one errand does. -/
theorem Holds.perform (h : Holds n before taken plan r site.disk)
    (hhalf : r.buffered ≤ r.capacity / 2) (threshold : Level) (e : Errand)
    (hlt : (taken ++ (accepted r.capacity (e.records threshold)).flatten).length < 2 ^ 64) :
    ∃ r' site', e.perform ⟨threshold, .ring r⟩ site =
        (e.answer r.capacity (syncEnd r.path plan.head?.join),
          ⟨e.next threshold, .ring r'⟩, site') ∧
      Took n before taken (e.planned plan) (e.records threshold) r r' site'.disk ∧
      (e.empties = true → r'.buffered = 0) := by
  cases e with
  | write bytes =>
    obtain ⟨r', d', he, ht⟩ := h.produce hhalf bytes hlt
    refine ⟨r', { site with disk := d' }, ?_, ht, by simp [Errand.empties]⟩
    simp only [Errand.perform, onRing, he]
    rfl
  | log logger level message =>
    by_cases ha : threshold.admits level = true
    · have hrec : (Errand.log logger level message).records threshold =
          [lineOctets level message] := if_pos ha
      rw [hrec] at hlt ⊢
      obtain ⟨r', d', he, ht⟩ := h.produce hhalf _ hlt
      refine ⟨r', { site with disk := d' }, ?_, ht, by simp [Errand.empties]⟩
      simp only [Errand.perform, onSink, Sink.perform, ha, if_true, Sink.Kind.take,
        recordOctets_eq, he]
      rfl
    · have hrec : (Errand.log logger level message).records threshold = [] := if_neg ha
      rw [hrec]
      refine ⟨r, site, ?_, h.took_nothing (.refl r) hhalf, by simp [Errand.empties]⟩
      simp only [Errand.perform, onSink, Sink.perform, ha]
      rfl
  | threshold level =>
    exact ⟨r, site, rfl, h.took_nothing (.refl r) hhalf, by simp [Errand.empties]⟩
  | drain =>
    obtain ⟨r', d', he, h', hzero, hlike⟩ := h.drain
    refine ⟨r', { site with disk := d' }, ?_, h'.took_nothing hlike (by omega), fun _ => hzero⟩
    simp only [Errand.perform, onRing, flushBuffer, he]
    rfl
  | flush =>
    obtain ⟨r', d', he, h', hzero, hlike⟩ := h.flush
    refine ⟨r', { site with disk := d' }, ?_, h'.took_nothing hlike (by omega), fun _ => hzero⟩
    simp only [Errand.perform, onSink, Sink.perform, Sink.Kind.flush, he]
    rfl

/-- What errands do, one after the other. -/
theorem Holds.performAll (h : Holds n before taken plan r site.disk)
    (hhalf : r.buffered ≤ r.capacity / 2) (threshold : Level) (es : List Errand)
    (hlt : (taken ++ (accepted r.capacity (offered threshold es)).flatten).length < 2 ^ 64) :
    ∃ r' site' level left, performAll ⟨threshold, .ring r⟩ site es =
        (answers r.path r.capacity plan es, ⟨level, .ring r'⟩, site') ∧
      Took n before taken left (offered threshold es) r r' site'.disk ∧
      (∀ e, es.getLast? = some e → e.empties = true → r'.buffered = 0) := by
  induction es generalizing r site threshold taken plan with
  | nil => exact ⟨r, site, threshold, plan, rfl, h.took_nothing (.refl r) hhalf, by simp⟩
  | cons e es ih =>
    rw [offered, accepted_append, List.flatten_append, ← List.append_assoc] at hlt
    obtain ⟨r₁, site₁, he, ht₁, hempty⟩ := h.perform hhalf threshold e (by
      rw [List.length_append] at hlt
      omega)
    obtain ⟨r₂, site₂, level, left, hes, ht₂, hlast⟩ := ih ht₁.holds (ht₁.capacity ▸ ht₁.half)
      (e.next threshold) (ht₁.capacity ▸ hlt)
    refine ⟨r₂, site₂, level, left, ?_, ht₁.trans ht₂, fun f hf hfe => ?_⟩
    · simp only [Ring.performAll, he, hes, ht₁.capacity, ht₁.path, answers]
    · cases es with
      | nil =>
        obtain rfl : e = f := Option.some.inj hf
        cases hes
        exact hempty hfe
      | cons e' es => exact hlast f (by rw [← hf, List.getLast?_cons_cons]) hfe

end Runs

/-! ## 5. From the start -/

/-- **A ring as it is made holds nothing.** -/
theorem holds_create {path : Path} {size : Nat} {d₀ : Disk}
    (hc : create path size d = (.ok (), r, d₀))
    (hfile : r.handle.map (·.target) = some (.file n)) (hn : n < d₀.contents.length)
    (hd : d₀.mishaps.Writable) :
    Holds n (d₀.octetsOf n) [] d₀.mishaps.syncs r d₀ ∧ r.buffered = 0 ∧ r.dropped = 0 := by
  unfold create at hc
  rcases ho : (openAppend path).run d with ⟨c | h, d'⟩
  · rw [ho] at hc
    cases hc
  rw [ho] at hc
  obtain ⟨rfl, rfl⟩ : empty path (some h) size = r ∧ d' = d₀ := by
    simpa using hc
  have htarget : h.target = .file n := Option.some.inj hfile
  have hzero : (empty (w := w) path (some h) size).buffered = 0 := by
    show ((0 : BitVec w) - 0).toNat = 0
    simp
  have hnil : (empty (w := w) path (some h) size).unread = [] :=
    List.eq_nil_of_length_eq_zero ((length_unread _).trans hzero)
  have hpos : 0 < (empty (w := w) path (some h) size).capacity := by
    show 0 < min (max size 1) greatestCapacity
    rw [greatestCapacity]
    omega
  refine ⟨⟨⟨hpos, Array.size_replicate, ?_, ?_⟩,
    ⟨h, rfl, htarget, hn, .inl (position_of_openAppend ho)⟩, hd, rfl,
    ⟨[], (List.append_nil _).symm, hnil⟩, ?_, ?_⟩, hzero, rfl⟩
  · rw [hzero]
    exact Nat.zero_le _
  · rw [hzero]
    exact fun i hi => absurd hi (Nat.not_lt_zero i)
  · rw [hzero]
    show (0 : BitVec w).toNat + 0 = 0
    simp
  · exact Nat.two_pow_pos w

/-- **A ring reproduces what it accepts.** Whatever is asked of a sink that is a ring of any size,
in any number of calls: a record is taken if and only if it is not longer than the ring, and each
that is not is counted; what came to the file, with the unread octets behind it, is all that was
taken, in its order; the ring is at most half full behind every call, empty behind a flush, and
never holds more than it has room for while a record is put in. That the file fails to sync is told
by a flush, and changes nothing else. -/
theorem reproduces_accepted {path : Path} {size : Nat} {d₀ : Disk} {r : Ring 64}
    (hc : create path size d = (.ok (), r, d₀))
    (hfile : r.handle.map (·.target) = some (.file n)) (hn : n < d₀.contents.length)
    (hd : d₀.mishaps.Writable) (threshold : Level) (site : Site) (errands : List Errand)
    (hlt : (accepted r.capacity (offered threshold errands)).flatten.length < 2 ^ 64) :
    ∃ r' site' level,
      performAll ⟨threshold, .ring r⟩ { site with disk := d₀ } errands =
        (answers r.path r.capacity d₀.mishaps.syncs errands, ⟨level, .ring r'⟩, site') ∧
      ((∀ c ∈ d₀.mishaps.syncs, c = none) → answers r.path r.capacity d₀.mishaps.syncs errands =
        errands.map (·.answer r.capacity (.ok ()))) ∧
      r'.capacity = r.capacity ∧
      r'.dropped = (rejected r.capacity (offered threshold errands)).length ∧
      (∃ out, site'.disk.octetsOf n = d₀.octetsOf n ++ out ∧
        out ++ r'.unread = (accepted r.capacity (offered threshold errands)).flatten) ∧
      r'.buffered ≤ r.capacity / 2 ∧
      (∀ e, errands.getLast? = some e → e.empties = true → r'.buffered = 0) ∧
      ∀ bytes : Octets,
        (accepted r.capacity (offered threshold errands ++ [bytes])).flatten.length < 2 ^ 64 →
          (r'.reserve bytes site'.disk).2.1.buffered ≤ r.capacity := by
  obtain ⟨h, hzero, hnone⟩ := holds_create hc hfile hn hd
  have hhalf : r.buffered ≤ r.capacity / 2 := by
    rw [hzero]
    exact Nat.zero_le _
  have hsite : Holds n (d₀.octetsOf n) [] d₀.mishaps.syncs r { site with disk := d₀ : Site }.disk :=
    h
  obtain ⟨r', site', level, left, he, ht, hlast⟩ := hsite.performAll hhalf threshold errands hlt
  refine ⟨r', site', level, he, answers_of_calm r.path r.capacity errands, ht.capacity, ?_,
    ht.holds.whole, ht.half, hlast, fun bytes hb => ?_⟩
  · rw [ht.dropped, hnone, Nat.zero_add]
  · rw [accepted_append, List.flatten_append, ← ht.capacity] at hb
    have hheld := ht.holds
    rw [List.nil_append, ← ht.capacity] at hheld
    obtain ⟨r'', d'', hr, h'', hlike, -⟩ := hheld.reserve bytes hb
    rw [hr, ← ht.capacity, ← hlike.capacity]
    exact h''.sound.fits

/-- A disk with a file that is there, where writing takes several attempts, and the file is not
synced at first. -/
def halting : Disk where
  entries := [(["logs".toList], .directory), (["logs".toList, "crash.log".toList], .file 0)]
  contents := [Text.octetsOf "was "]
  mishaps :=
    { writes := [.takes 1, .interrupted, .takes 2, .takes 3], syncs := [some .noSpaceLeft] }

/-- A ring of eight octets before that file. -/
def halted : Except Cause Unit × Ring 64 × Disk := create (.ofString "/logs/crash.log") 8 halting

/-- Errands on that ring: the second record fills it, the third is too long, and the fourth is below
the threshold. -/
def haltingErrands : List Errand :=
  [.write (Text.octetsOf "abc"), .log "svc" .info "", .write (Text.octetsOf "too long."), .flush,
    .threshold .error, .log "svc" .info "below", .write (Text.octetsOf "de")]

/-- The flush tells that the file was not synced. -/
theorem reproduces_accepted_halting :
    halted.1 = .ok () ∧ halted.2.1.handle.map (·.target) = some (.file 0) ∧
      halted.2.2.mishaps.Writable ∧
      ∃ r' site' level,
        performAll ⟨.trace, .ring halted.2.1⟩ { disk := halted.2.2 } haltingErrands =
          ([.taken true, .outcome .ok, .taken false,
              .outcome (.failed (.operation "syncing signal-safe log" "/logs/crash.log"
                (.system .noSpaceLeft))),
              .done, .outcome .ok, .taken true],
            ⟨level, .ring r'⟩, site') ∧
        r'.dropped = 1 ∧ r'.buffered ≤ 4 ∧
        ∃ out, site'.disk.octetsOf 0 = Text.octetsOf "was " ++ out ∧
          out ++ r'.unread = Text.octetsOf "abc[INFO] \nde" := by
  have hok : halted.1 = .ok () := rfl
  have hcap : halted.2.1.capacity = 8 := rfl
  have hfile : halted.2.1.handle.map (·.target) = some (.file 0) := rfl
  have hwrites : halted.2.2.mishaps.Writable := by
    have he : halted.2.2.mishaps.writes = [.takes 1, .interrupted, .takes 2, .takes 3] := rfl
    intro a ha
    rw [he] at ha
    revert a
    decide
  refine ⟨hok, hfile, hwrites, ?_⟩
  obtain ⟨r', site', level, he, -, -, hdropped, ⟨out, hout, hall⟩, hhalf, -⟩ :=
    reproduces_accepted (Prod.ext hok rfl : halted = (.ok (), halted.2.1, halted.2.2)) hfile
      (by decide) hwrites .trace { disk := halted.2.2 } haltingErrands (by rw [hcap]; decide)
  rw [hcap] at he hdropped hall hhalf
  refine ⟨r', site', level, he.trans ?_, hdropped.trans ?_, hhalf, out, hout.trans ?_,
    hall.trans ?_⟩
  · rfl
  · rfl
  · rfl
  · rfl

end Logworks.Ring
