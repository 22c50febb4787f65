import Logworks.Proofs.Ring.Chunks

/-!
# A ring whose writes fail

A ring is empty behind every drain, whatever became of the writing, and so whether a record is taken
does not hang on what became of the others. This file fixes

* `verdict` -- what is decided of a record; `Comes.produce` -- **by its length alone, once there is
  a file**;
* `Went` -- what records make of a ring; `Comes.perform`, `Comes.performAll` -- an errand and a run,
  whatever fails;
* `decisions` -- which records are taken as a sink goes on;
* `Tolerates` -- how one drain goes, and how a flush goes on from there;
* `drains_whatever_fails` -- **all that, for every state and every run**.

NOT here: how often an attempt is interrupted. A drain that is interrupted forever has no end.
-/

namespace Logworks.Ring

open Disk Text

variable {w : Nat} {r r' r₀ : Ring w} {d d' d₀ : Disk} {h : Handle} {total : Nat}

/-! ## 1. Records -/

/-- What is decided of a record: it is taken if it is not longer than the ring, and there is a
file. -/
def verdict (isReady : Bool) (capacity : Nat) (bytes : Octets) : Bool :=
  isReady && decide (bytes.length ≤ capacity)

/-- What records make of a ring, whatever fails: those that are not taken are counted. -/
structure Went (r₀ : Ring w) (d₀ : Disk) (total : Nat) (records : List Octets) (r r' : Ring w)
    (d' : Disk) : Prop where
  comes : Comes r₀ d₀ r' d' (total + (records.filter (verdict r.isReady r.capacity)).flatten.length)
  capacity : r'.capacity = r.capacity
  ready : r'.isReady = r.isReady
  dropped : r'.dropped = r.dropped + records.countP fun bytes => !verdict r.isReady r.capacity bytes
  half : r'.buffered ≤ r.capacity / 2

variable {records : List Octets}

/-- No record came. -/
theorem went_nothing (hc : Comes r₀ d₀ r' d' total) (hlike : Alike r r')
    (hready : r'.isReady = r.isReady) (hhalf : r'.buffered ≤ r.capacity / 2) :
    Went r₀ d₀ total [] r r' d' :=
  ⟨hc, hlike.capacity, hready, hlike.dropped, hhalf⟩

theorem Went.trans {more : List Octets} {r₁ r₂ : Ring w} {d₁ d₂ : Disk}
    (h : Went r₀ d₀ total records r r₁ d₁)
    (h' : Went r₀ d₀ (total + (records.filter (verdict r.isReady r.capacity)).flatten.length) more
      r₁ r₂ d₂) : Went r₀ d₀ total (records ++ more) r r₂ d₂ := by
  obtain ⟨hc', hcap', hready', hdropped', hhalf'⟩ := h'
  rw [h.capacity, h.ready] at hc' hdropped'
  refine ⟨?_, hcap'.trans h.capacity, hready'.trans h.ready, ?_, h.capacity ▸ hhalf'⟩
  · rw [List.filter_append, List.flatten_append, List.length_append, ← Nat.add_assoc]
    exact hc'
  · rw [hdropped', h.dropped, List.countP_append, Nat.add_assoc]

/-- **There is room for every record that is not longer than the ring**: if there is none at first,
there is behind a drain. -/
theorem Comes.reserve (hc : Comes r₀ d₀ r d total) (hu : Upright r d total)
    (hready : r.isReady = true) (bytes : Octets) :
    ∃ r' d', r.reserve bytes d = (decide (bytes.length ≤ r.capacity), r', d') ∧
      if bytes.length ≤ r.capacity then
        Comes r₀ d₀ r' d' (total + bytes.length) ∧ Alike r r' ∧ r'.isReady = r.isReady
      else r' = r ∧ d' = d := by
  unfold Ring.reserve
  by_cases hlong : r.capacity < bytes.length
  · rw [if_pos hlong, decide_eq_false (by omega)]
    exact ⟨r, d, rfl, by rw [if_neg (by omega)]; exact ⟨rfl, rfl⟩⟩
  have hle : bytes.length ≤ r.capacity := by omega
  rw [if_neg hlong, decide_eq_true hle]
  have hput : ∀ q : Ring w, (bytes.foldl push q).isReady = q.isReady := fun q => by
    rw [pushAll_eq]
    rfl
  by_cases hroom : bytes.length ≤ r.room
  · rw [if_pos hroom]
    refine ⟨_, d, rfl, ?_⟩
    rw [if_pos hle]
    exact ⟨hc.put bytes hready hroom, alike_pushAll r bytes, hput r⟩
  · obtain ⟨-, hzero, hlike, hready'⟩ := hu.drained
    have hroom' : bytes.length ≤ (r.drain d).2.1.room := by
      rw [room, hzero, hlike.capacity]
      exact hle
    rw [if_neg hroom]
    dsimp only
    rw [if_pos hroom']
    refine ⟨_, _, rfl, ?_⟩
    rw [if_pos hle]
    exact ⟨hc.drained.put bytes (hready'.trans hready) hroom', hlike.trans (alike_pushAll _ bytes),
      (hput _).trans hready'⟩

/-- A record that is turned away is counted. -/
theorem went_dropped (hc : Comes r₀ d₀ r d total) (hhalf : r.buffered ≤ r.capacity / 2)
    {bytes : Octets} (hv : verdict r.isReady r.capacity bytes = false) :
    Went r₀ d₀ total [bytes] r r.drop d := by
  refine ⟨?_, rfl, rfl, ?_, hhalf⟩
  · rw [List.filter_cons_of_neg (by simp [hv])]
    exact hc.dropped
  · simp [hv, drop]

/-- One that is taken is not. -/
theorem went_taken {bytes : Octets} (hv : verdict r.isReady r.capacity bytes = true)
    (hc : Comes r₀ d₀ r' d' (total + bytes.length)) (hlike : Alike r r')
    (hready : r'.isReady = r.isReady) (hhalf : r'.buffered ≤ r.capacity / 2) :
    Went r₀ d₀ total [bytes] r r' d' := by
  refine ⟨?_, hlike.capacity, hready, ?_, hhalf⟩
  · rw [List.filter_cons_of_pos hv, List.filter_nil, List.flatten_singleton]
    exact hc
  · simp [hv, hlike.dropped]

/-- **A record is taken or counted, and what is decided does not hang on any failure.** -/
theorem Comes.produce (hc : Comes r₀ d₀ r d total) (hu₀ : Upright r₀ d₀ 0)
    (hhalf : r.buffered ≤ r.capacity / 2) (bytes : Octets) :
    ∃ r' d', r.produce bytes d = (verdict r.isReady r.capacity bytes, r', d') ∧
      Went r₀ d₀ total [bytes] r r' d' := by
  cases hready : r.isReady with
  | false =>
    have hv : verdict r.isReady r.capacity bytes = false := by rw [hready]; rfl
    refine ⟨r.drop, d, ?_, went_dropped hc hhalf hv⟩
    rw [Ring.produce, hready]
    rfl
  | true =>
    have hv : verdict r.isReady r.capacity bytes = decide (bytes.length ≤ r.capacity) := by
      rw [hready]
      exact Bool.true_and _
    obtain ⟨r₁, d₁, he, h₁⟩ := hc.reserve (hc.upright hu₀) hready bytes
    rw [← hready, hv, Ring.produce, hready, he]
    by_cases hle : bytes.length ≤ r.capacity
    · rw [if_pos hle] at h₁
      rw [decide_eq_true hle] at hv ⊢
      obtain ⟨hc₁, hlike, hready₁⟩ := h₁
      -- the ring is drained at once if it is more than half full
      by_cases hmore : r₁.capacity / 2 < r₁.buffered
      · obtain ⟨-, hzero, hlike₂, hready₂⟩ := (hc₁.upright hu₀).drained
        refine ⟨(r₁.drain d₁).2.1, (r₁.drain d₁).2.2, ?_, went_taken hv hc₁.drained
          (hlike.trans hlike₂) (hready₂.trans hready₁) ?_⟩
        · simp only [Bool.not_true, Bool.false_eq_true, if_false, if_pos hmore]
        · rw [hzero]
          exact Nat.zero_le _
      · refine ⟨r₁, d₁, ?_, went_taken hv hc₁ hlike hready₁ ?_⟩
        · simp only [Bool.not_true, Bool.false_eq_true, if_false, if_neg hmore]
        · rw [← hlike.capacity]
          omega
    · rw [if_neg hle] at h₁
      rw [decide_eq_false hle] at hv ⊢
      obtain ⟨rfl, rfl⟩ := h₁
      exact ⟨_, _, rfl, went_dropped hc hhalf hv⟩

/-! ## 2. Runs -/

section Runs

variable {r r₀ : Ring 64} {site : Site}

/-- Whether the ring of a sink takes a record, as it stands. -/
def takes (s : Sink) (site : Site) (bytes : Octets) : Bool :=
  match s.kind with
  | .ring r => (r.produce bytes site.disk).1
  | _ => false

/-- **Which records are taken while errands are done**, each of them as the errands before it have
left the sink. -/
def decisions (s : Sink) (site : Site) : List Errand → List Bool
  | [] => []
  | e :: es =>
    (e.records s.threshold).map (takes s site) ++
      decisions (e.perform s site).2.1 (e.perform s site).2.2 es

/-- The records that a sink which is a ring has not taken. -/
def lost (s : Sink) : Nat :=
  match s.kind with
  | .ring r => r.dropped
  | _ => 0

/-- Syncing the file changes no more than what is planned. -/
theorem sync_snd (r : Ring w) (d : Disk) : ∃ m, (r.sync d).2 = { d with mishaps := m } := by
  unfold sync
  cases r.handle with
  | none => exact ⟨d.mishaps, rfl⟩
  | some h =>
    dsimp only
    unfold Handle.sync
    cases h.target with
    | file n => exact ⟨d.synced.mishaps, rfl⟩
    | device v => exact ⟨d.mishaps, rfl⟩

/-- A flush leaves what a drain leaves. -/
theorem flush_snd (r : Ring w) (d : Disk) :
    ∃ m, (r.flush d).2 = ((r.drain d).2.1, { (r.drain d).2.2 with mishaps := m }) := by
  unfold Ring.flush
  split
  · rename_i r' d' he
    rw [he]
    exact ⟨d'.mishaps, rfl⟩
  · rename_i r' d' _ he
    obtain ⟨m, hm⟩ := sync_snd r' d'
    rw [he]
    exact ⟨m, Prod.ext rfl hm⟩

/-- What one errand does, whatever fails. -/
theorem Comes.perform (hc : Comes r₀ d₀ r site.disk total) (hu₀ : Upright r₀ d₀ 0)
    (hhalf : r.buffered ≤ r.capacity / 2) (threshold : Level) (e : Errand) :
    ∃ a r' site', e.perform ⟨threshold, .ring r⟩ site =
        (a, ⟨e.next threshold, .ring r'⟩, site') ∧
      Went r₀ d₀ total (e.records threshold) r r' site'.disk ∧
      (e.records threshold).map (takes ⟨threshold, .ring r⟩ site) =
        (e.records threshold).map (verdict r.isReady r.capacity) := by
  have htakes : ∀ bytes, takes ⟨threshold, .ring r⟩ site bytes =
      verdict r.isReady r.capacity bytes := by
    intro bytes
    obtain ⟨r', d', he, -⟩ := hc.produce hu₀ hhalf bytes
    show (r.produce bytes site.disk).1 = _
    rw [he]
  suffices h : ∃ a r' site', e.perform ⟨threshold, .ring r⟩ site =
      (a, ⟨e.next threshold, .ring r'⟩, site') ∧
        Went r₀ d₀ total (e.records threshold) r r' site'.disk by
    obtain ⟨a, r', site', he, hw⟩ := h
    exact ⟨a, r', site', he, hw, List.map_congr_left fun bytes _ => htakes bytes⟩
  have hnothing : Went r₀ d₀ total [] r r site.disk := went_nothing hc (.refl r) rfl hhalf
  have hdrained : Went r₀ d₀ total [] r (r.drain site.disk).2.1 (r.drain site.disk).2.2 := by
    obtain ⟨-, hzero, hlike, hready⟩ := (hc.upright hu₀).drained
    refine went_nothing hc.drained hlike hready ?_
    rw [hzero]
    exact Nat.zero_le _
  cases e with
  | write bytes =>
    obtain ⟨r', d', he, ht⟩ := hc.produce hu₀ hhalf bytes
    refine ⟨.taken (verdict r.isReady r.capacity bytes), r', { site with disk := d' }, ?_, ht⟩
    simp only [Errand.perform, onRing, he]
    rfl
  | log logger level message =>
    by_cases ha : threshold.admits level = true
    · obtain ⟨r', d', he, ht⟩ := hc.produce hu₀ hhalf (lineOctets level message)
      refine ⟨.outcome .ok, r', { site with disk := d' }, ?_, ?_⟩
      · simp only [Errand.perform, onSink, Sink.perform, ha, if_true, Sink.Kind.take,
          recordOctets_eq, he]
        rfl
      · rw [Errand.records, if_pos ha]
        exact ht
    · refine ⟨.outcome .ok, r, site, ?_, ?_⟩
      · simp only [Errand.perform, onSink, Sink.perform, ha]
        rfl
      · rw [Errand.records, if_neg ha]
        exact hnothing
  | threshold level => exact ⟨.done, r, site, rfl, hnothing⟩
  | drain =>
    exact ⟨.drained ((r.drain site.disk).1 == some true), (r.drain site.disk).2.1,
      { site with disk := (r.drain site.disk).2.2 }, rfl, hdrained⟩
  | flush =>
    obtain ⟨m, hstate⟩ := flush_snd r site.disk
    refine ⟨.outcome (.ofExcept (r.flush site.disk).1), (r.flush site.disk).2.1,
      { site with disk := (r.flush site.disk).2.2 }, rfl, ?_⟩
    rw [hstate]
    exact ⟨hdrained.comes.planned m, hdrained.capacity, hdrained.ready, hdrained.dropped,
      hdrained.half⟩

/-- **What errands do, whatever fails.** -/
theorem Comes.performAll (hc : Comes r₀ d₀ r site.disk total) (hu₀ : Upright r₀ d₀ 0)
    (hhalf : r.buffered ≤ r.capacity / 2) (threshold : Level) (es : List Errand) :
    ∃ as r' level site', performAll ⟨threshold, .ring r⟩ site es =
        (as, ⟨level, .ring r'⟩, site') ∧
      Went r₀ d₀ total (offered threshold es) r r' site'.disk ∧
      decisions ⟨threshold, .ring r⟩ site es =
        (offered threshold es).map (verdict r.isReady r.capacity) := by
  induction es generalizing r site threshold total with
  | nil => exact ⟨[], r, threshold, site, rfl, went_nothing hc (.refl r) rfl hhalf, rfl⟩
  | cons e es ih =>
    obtain ⟨a, r₁, site₁, he, hw₁, hdec₁⟩ := hc.perform hu₀ hhalf threshold e
    have hhalf₁ : r₁.buffered ≤ r₁.capacity / 2 := hw₁.capacity ▸ hw₁.half
    obtain ⟨as, r₂, level, site₂, hes, hw₂, hdec₂⟩ := ih hw₁.comes hhalf₁ (e.next threshold)
    refine ⟨a :: as, r₂, level, site₂, ?_, hw₁.trans hw₂, ?_⟩
    · rw [Ring.performAll, he]
      dsimp only
      rw [hes]
    · rw [decisions, hdec₁, he, hdec₂, hw₁.ready, hw₁.capacity, offered, List.map_append]

end Runs

/-! ## 3. From the start -/

/-- **How a drain of a ring before a file goes**, whatever becomes of each attempt to write, and
what a flush tells of it. -/
structure Tolerates (r : Ring w) (h : Handle) (d : Disk) (cs : List Chunk) (r' : Ring w)
    (d' : Disk) : Prop where
  /-- The loop comes to its end, with these chunks. -/
  drains : ∃ h', Drains r h d cs r' h' d'
  turns : cs.length ≤ 2
  met : r'.read = r'.written
  counted : r'.writeErrors = r.writeErrors + cs.countP fun c => !c.isWhole
  bytes : (cs.map Chunk.bytes).flatten = r.unread
  file : ∀ n, h.target = .file n →
    d'.octetsOf n = d.octetsOf n ++ (cs.map Chunk.taken).flatten
  parts : ∀ c ∈ cs, c.taken <+: c.bytes ∧ (c.isWhole = true → c.taken = c.bytes)
  drain : r.drain d = (some (cs.all Chunk.isWhole), r', d')
  flushBuffer : r.flushBuffer d = (cs.all Chunk.isWhole, r', d')
  /-- A flush gets past writing if every chunk was whole; then the file is synced. -/
  flush : r.flush d =
    if cs.all Chunk.isWhole then ((r'.sync d').1, r', (r'.sync d').2)
    else (.error (.operation "writing signal-safe log" r.path.toString r'.lastCause), r', d')
  synced : ∀ n, h.target = .file n →
    r'.sync d' = (syncEnd r.path d'.mishaps.syncs.head?.join, d'.synced)
  unsynced : ∀ v, h.target = .device v → r'.sync d' = (.ok (), d')

theorem Upright.tolerates (hu : Upright r d total) (ht : total < 2 ^ w) (hr : r.handle = some h) :
    ∃ cs r' d', Tolerates r h d cs r' d' := by
  obtain ⟨cs, r', h', d', hdr, hcs, he⟩ := hu.shaped.emptied hr d
  obtain ⟨hmet, -, -, -, hpath, -, hhandle⟩ := hdr.left
  have htarget := (hdr.appends hu.filed (hu.appends h hr)).1
  refine ⟨cs, r', d', ⟨h', hdr⟩, hcs, hmet, hdr.counted, hdr.bytes (hu.sound ht),
    fun n hn => hdr.written (hu.appends h hr n hn), fun c _ => ⟨c.taken_prefix, c.taken_of_isWhole⟩,
    he, ?_, ?_, fun n hn => ?_, fun v hv => ?_⟩
  · rw [flushBuffer, he]
    cases cs.all Chunk.isWhole <;> rfl
  · rw [Ring.flush, he, ← hpath]
    cases cs.all Chunk.isWhole <;> rfl
  · rw [sync_of_file (hhandle hr) (htarget.trans hn), hpath]
  · exact sync_of_device (hhandle hr) (htarget.trans hv) d'

/-- **What errands do from the start**, on any disk. -/
theorem performAll_create {path : Path} {size : Nat} {d d₀ : Disk} {o : Except Cause Unit}
    {r : Ring 64} (hd : d.Filed) (hc : create path size d = (o, r, d₀)) (threshold : Level)
    (site : Site) (errands : List Errand) :
    ∃ answers r' level site',
      performAll ⟨threshold, .ring r⟩ { site with disk := d₀ } errands =
        (answers, ⟨level, .ring r'⟩, site') ∧
      Went r d₀ 0 (offered threshold errands) r r' site'.disk ∧
      decisions ⟨threshold, .ring r⟩ { site with disk := d₀ } errands =
        (offered threshold errands).map (verdict r.isReady r.capacity) := by
  obtain ⟨hu, hzero, -, -⟩ := upright_create hd (by decide) hc
  have hstart : Comes r d₀ r { site with disk := d₀ : Site }.disk 0 := .start
  refine hstart.performAll hu ?_ threshold errands
  rw [hzero]
  exact Nat.zero_le _

/-- **A ring drains whatever fails.** However attempts to write turn out, a drain comes to its end
after two chunks at most and leaves nothing; each chunk is whole in the file or a front part of it
is, and each that is not whole is counted and told. In any run the records that are taken, and the
count of the others, are the same as in any other with a ring of that size, such as one where no
attempt fails. -/
theorem drains_whatever_fails {path : Path} {size : Nat} {d d₀ : Disk} {o : Except Cause Unit}
    {r : Ring 64} (hd : d.Filed) (hc : create path size d = (o, r, d₀)) :
    (∀ r₁ d₁ total, Comes r d₀ r₁ d₁ total → total < 2 ^ 64 →
      (∀ h, r₁.handle = some h → ∃ cs r₂ d₂, Tolerates r₁ h d₁ cs r₂ d₂) ∧
      (r₁.handle = none → r₁.drain d₁ = (none, r₁, d₁) ∧ r₁.read = r₁.written)) ∧
    (∀ threshold (site : Site) errands, ∃ answers r' level site',
      performAll ⟨threshold, .ring r⟩ { site with disk := d₀ } errands =
        (answers, ⟨level, .ring r'⟩, site') ∧
      Went r d₀ 0 (offered threshold errands) r r' site'.disk ∧
      decisions ⟨threshold, .ring r⟩ { site with disk := d₀ } errands =
        (offered threshold errands).map (verdict r.isReady r.capacity)) ∧
    ∀ {path' : Path} {d' e₀ : Disk} {o' : Except Cause Unit} {q : Ring 64}, d'.Filed →
      create path' size d' = (o', q, e₀) → q.isReady = r.isReady →
      ∀ threshold (site site' : Site) errands,
        decisions ⟨threshold, .ring r⟩ { site with disk := d₀ } errands =
          decisions ⟨threshold, .ring q⟩ { site' with disk := e₀ } errands ∧
        lost (performAll ⟨threshold, .ring r⟩ { site with disk := d₀ } errands).2.1 =
          lost (performAll ⟨threshold, .ring q⟩ { site' with disk := e₀ } errands).2.1 := by
  obtain ⟨hu, -, hnone, hcap⟩ := upright_create hd (by decide) hc
  refine ⟨fun r₁ d₁ total hcomes ht => ⟨fun h hr => (hcomes.upright hu).tolerates ht hr,
    fun hr => ⟨by rw [Ring.drain, hr], ?_⟩⟩, performAll_create hd hc,
    fun hd' hc' hready threshold site site' errands => ?_⟩
  · exact buffered_eq_zero_iff.mp ((hcomes.upright hu).idle hr)
  · obtain ⟨-, -, hnone', hcap'⟩ := upright_create hd' (by decide) hc'
    obtain ⟨as, r', level, s', he, hw, hdec⟩ := performAll_create hd hc threshold site errands
    obtain ⟨as', q', level', t', he', hw', hdec'⟩ :=
      performAll_create hd' hc' threshold site' errands
    have hsame := hw'.dropped
    rw [hready, hcap', ← hcap, hnone', ← hnone, ← hw.dropped] at hsame
    refine ⟨?_, ?_⟩
    · rw [hdec, hdec', hready, hcap, hcap']
    · rw [he, he']
      exact hsame.symm

/-- A disk where the first attempt takes two octets, the next one fails, and another takes
nothing. -/
def faltering : Disk where
  entries := [(["logs".toList], .directory), (["logs".toList, "crash.log".toList], .file 0)]
  contents := [Text.octetsOf "was "]
  mishaps := { writes := [.takes 2, .fails .noSpaceLeft, .interrupted, .refused] }

theorem filed_faltering : faltering.Filed := by
  intro x hx n hn
  rcases List.mem_cons.mp hx with rfl | hx
  · cases hn
  · obtain rfl := List.mem_singleton.mp hx
    cases hn
    decide

/-- A ring of eight octets before that file. -/
def faltered (d : Disk) : Except Cause Unit × Ring 64 × Disk :=
  create (.ofString "/logs/crash.log") 8 d

/-- Errands on that ring. -/
def faltered.run (d : Disk) (errands : List Errand) : List Answer × Sink × Site :=
  performAll ⟨.trace, .ring (faltered d).2.1⟩ { disk := (faltered d).2.2 } errands

/-- What these errands decide. -/
def faltered.decisions (d : Disk) (errands : List Errand) : List Bool :=
  Ring.decisions ⟨.trace, .ring (faltered d).2.1⟩ { disk := (faltered d).2.2 } errands

/-- The chunks that failed and the file, once the ring is drained. -/
def faltered.drained (s : Sink) (d : Disk) : Nat × Octets :=
  match s.kind with
  | .ring r => ((r.drain d).2.1.writeErrors, (r.drain d).2.2.octetsOf 0)
  | _ => (0, [])

/-- Two octets of three come to the file. The last of three records lies around the end of the ring,
and its first chunk is lost; the second is too long on any disk. -/
theorem drains_whatever_fails_faltering :
    faltering.Filed ∧
      (let done := faltered.run faltering [.write (Text.octetsOf "abc")]
       ∃ r₁ h cs r₂ d₂, done.2.1.kind = .ring r₁ ∧ Tolerates r₁ h done.2.2.disk cs r₂ d₂ ∧
         r₂.writeErrors = 1 ∧ d₂.octetsOf 0 = Text.octetsOf "was ab") ∧
      let errands := [.write (Text.octetsOf "abcdef"), .write (Text.octetsOf "too long."),
        .log "svc" .info ""]
      faltered.decisions faltering errands =
          faltered.decisions { faltering with mishaps := {} } errands ∧
        faltered.decisions faltering errands = [true, false, true] ∧
        lost (faltered.run faltering errands).2.1 = 1 ∧
        (faltered.run faltering errands).2.2.disk.octetsOf 0 =
          Text.octetsOf "was abNFO] \n" := by
  have hsound : (({ faltering with mishaps := {} } : Disk)).Filed := filed_faltering
  have hc : ∀ d, create (.ofString "/logs/crash.log") 8 d =
      ((faltered d).1, (faltered d).2.1, (faltered d).2.2) := fun _ => rfl
  obtain ⟨hstates, hruns, hsame⟩ := drains_whatever_fails filed_faltering (hc faltering)
  refine ⟨filed_faltering, ?_, ?_, ?_, ?_, ?_⟩
  · obtain ⟨answers, r₁, level, site, he, hw, -⟩ :=
      hruns .trace { disk := (faltered faltering).2.2 } [.write (Text.octetsOf "abc")]
    have hrun : faltered.run faltering [.write (Text.octetsOf "abc")] =
        (answers, ⟨level, .ring r₁⟩, site) := he
    obtain ⟨h, hr⟩ : ∃ h, r₁.handle = some h :=
      Option.isSome_iff_exists.mp (hw.ready.trans rfl)
    obtain ⟨cs, r₂, d₂, htol⟩ := (hstates r₁ site.disk _ hw.comes (by decide)).1 h hr
    have hseen : faltered.drained ⟨level, .ring r₁⟩ site.disk = (1, Text.octetsOf "was ab") := by
      have hval : faltered.drained (faltered.run faltering [.write (Text.octetsOf "abc")]).2.1
          (faltered.run faltering [.write (Text.octetsOf "abc")]).2.2.disk =
            (1, Text.octetsOf "was ab") := rfl
      rwa [hrun] at hval
    unfold faltered.drained at hseen
    dsimp only at hseen
    rw [htol.drain] at hseen
    obtain ⟨herrors, hfile⟩ := Prod.mk.inj hseen
    rw [hrun]
    exact ⟨r₁, h, cs, r₂, d₂, rfl, htol, herrors, hfile⟩
  · exact (hsame hsound (hc _) rfl .trace { disk := (faltered faltering).2.2 }
      { disk := (faltered faltering).2.2 } _).1
  · rfl
  · rfl
  · rfl

end Logworks.Ring
