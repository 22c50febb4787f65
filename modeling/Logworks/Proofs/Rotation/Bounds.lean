import Logworks.Proofs.Rotation.Compression
import Logworks.Proofs.Rotation.Reach
import Logworks.Proofs.Sink.Requests

/-!
# A file sink keeps to its own files

From the disk as it is found, over any requests: a sink with a history leaves alone all that is not
its own. This file fixes

* `FileSink` -- the sinks with a history, and how they are made;
* `Untouched` -- **all else is as it was**: nothing has come or gone at other places, other files
  read the same, so do slots beyond the last, and no file is left half-way;
* `LeftAlone` -- the same as a relation that work keeps; `LeftAlone.own` -- work of the log does,
  `Bounded.compressed` -- and so does a compression;
* `keeps_to_its_own` -- **so it is after any requests**;
* `takes_a_stranger` -- except that a log without slots compresses a file that is in slot 1 all the
  same.
-/

namespace Logworks.Rotation

open Logworks.Disk Logworks.Codec Logworks.Text

/-! ## 1. Sinks -/

/-- The sinks that put lines into a file with a history. -/
inductive FileSink where
  | rotating
  | compressed (options : Options)

namespace FileSink

/-- A rotating sink has no codec, the other one that of its options. -/
def codec? : FileSink → Option Codec
  | rotating => none
  | compressed o => o.codec?

/-- Whether the file in slot 1 is compressed after a rotation. -/
def packs : FileSink → Bool
  | rotating => false
  | compressed o => o.onRotate && o.codec?.isSome

def create (f : Line.Formatter) (base : Path) (maxSize maxFiles : Nat) (d : Disk) :
    FileSink → Except Fault Sink.Kind × Disk
  | rotating =>
    match RotatingLog.create base maxSize maxFiles [] d with
    | (r, d) => (r.map (.rotating f), d)
  | compressed o =>
    match CompressedLog.create base maxSize maxFiles o o.codec? d with
    | (r, d) => (r.map (.compressed f), d)

end FileSink

/-! ## 2. All else -/

/-- There is such a file, and it is none that is written to. -/
def IsSafe (base : Path) (maxFiles : Nat) (codec : Option Codec) (d : Disk) (k : Nat) : Prop :=
  k < d.contents.length ∧ ∀ r, IsWritten base maxFiles codec r → fileAt? d r ≠ some k

/-- **All that is not the sink's own is as it was.** -/
structure Untouched (base : Path) (maxFiles : Nat) (codec : Option Codec) (d d' : Disk) : Prop where
  /-- Nothing has come or gone, and nothing has another name. -/
  places : Within (IsReached base maxFiles codec) (placeAt d) d d'
  /-- A path that led to another file leads to it still, and the file is the same. -/
  elsewhere : ∀ p q k, d.look? p = .ok (q, .file k) →
    (∀ r, IsReached base maxFiles codec r → ¬ placeAt d r <+: q) →
    IsSafe base maxFiles codec d k → d'.look? p = .ok (q, .file k) ∧ d'.read? p = d.read? p
  /-- What is in a slot beyond the last is there still, with any suffix. -/
  beyond : ∀ i e, maxFiles < i → Dotted e.toList → '/' ∉ e.toList →
    entryAt? d' (slotPath base i e) = entryAt? d (slotPath base i e) ∧
      ∀ k, entryAt? d (slotPath base i e) = some (.file k) → IsSafe base maxFiles codec d k →
        d'.read? (slotPath base i e) = d.read? (slotPath base i e)
  /-- No file is left half-way, unless one was there and is as it was. -/
  half : ∀ p, IsHalf base maxFiles codec p → entryAt? d' p = none ∨
    entryAt? d' p = entryAt? d p ∧ d'.read? p = d.read? p

/-- The same in terms of places and of numbers of files. -/
structure LeftAlone (base : Path) (maxFiles : Nat) (codec : Option Codec) (d₀ d : Disk) :
    Prop where
  kept : ∃ files, Kept (IsReached base maxFiles codec) (placeAt d₀) files d
  within : Within (IsReached base maxFiles codec) (placeAt d₀) d₀ d
  spared : Spared (IsReached base maxFiles codec) (IsWritten base maxFiles codec) (placeAt d₀) d₀ d
  half : ∀ p, IsHalf base maxFiles codec p → d.entry? (placeAt d₀ p) = none ∨
    d.entry? (placeAt d₀ p) = d₀.entry? (placeAt d₀ p) ∧
      ∀ k, d₀.entry? (placeAt d₀ p) = some (.file k) → d.octetsOf k = d₀.octetsOf k

/-- **A log works within its bounds.** -/
structure Bounded (base : Path) (maxSize maxFiles : Nat) (codec : Option Codec) (d₀ : Disk)
    (l : RotatingLog) (d : Disk) : Prop where
  left : LeftAlone base maxFiles codec d₀ d
  keeps : ∃ files s, Keeps base maxSize maxFiles (suffixesOf codec) (placeAt d₀) files s l d

variable {base : Path} {maxSize maxFiles : Nat} {codec : Option Codec} {c : Codec}
  {d₀ d d' : Disk} {p : Path}

/-! ## 3. What is left alone -/

namespace LeftAlone

/-- The names beside the log are those in one directory, then and now. -/
theorem exists_leads (h : LeftAlone base maxFiles codec d₀ d)
    (hp : Prepared base maxFiles codec d₀) (hb : ∀ c, codec = some c → IsBeside c) :
    ∃ ns left, Leads d₀ mostLinks [] ns left (placeAt d₀ base).dropLast ∧
      Leads d mostLinks [] ns left (placeAt d₀ base).dropLast ∧
      ∀ i (e : String), '/' ∉ e.toList →
        (slotPath base i e).names = ns ++ [slotName base i ++ e.toList] := by
  obtain ⟨ns, left, hl, hnames⟩ := (hp.ready hb).exists_leads
  exact ⟨ns, left, hl, hl.mono (inside_nil d₀) (hp.isVacantOrFile hb) h.within, hnames⟩

/-- **What stands in a slot beyond the last stands there still.** -/
theorem entry?_beyond (h : LeftAlone base maxFiles codec d₀ d)
    (hp : Prepared base maxFiles codec d₀) (hb : ∀ c, codec = some c → IsBeside c) {i : Nat}
    (hi : maxFiles < i) {s : List Char} (hs : Dotted s) :
    d.entry? ((placeAt d₀ base).dropLast ++ [slotName base i ++ s]) =
      d₀.entry? ((placeAt d₀ base).dropLast ++ [slotName base i ++ s]) := by
  refine h.within _ ?_
  rintro _ ⟨p, hr, rfl⟩
  exact hp.not_reached hb hi hs hr

/-- Without slots nothing is in slot 1, if nothing was. -/
theorem hasEntry_slot (h : LeftAlone base maxFiles codec d₀ d)
    (hp : Prepared base maxFiles codec d₀) (hb : ∀ c, codec = some c → IsBeside c)
    (hm : maxFiles = 0) (hnone : entryAt? d₀ (slot base 1) = none) :
    d.hasEntry (slot base 1) = false := by
  obtain ⟨ns, left, hl₀, hl, hnames⟩ := h.exists_leads hp hb
  have hn := hnames 1 "" (by simp)
  rw [slotPath_empty] at hn
  have hx := (hp.ready hb).sound.not_isDots 1 "".toList
  have hsame := h.entry?_beyond hp hb (show maxFiles < 1 by omega)
    (show Dotted "".toList from .inl rfl)
  rw [entryAt?_of_leads hl₀ hn, hx] at hnone
  refine hasEntry_of_leads hl hn hx fun hf => hsame.trans ?_
  simpa [hf] using hnone

/-- Files that are not written to hold what they held. -/
theorem octetsOf (h : LeftAlone base maxFiles codec d₀ d) (hp : Prepared base maxFiles codec d₀)
    (hb : ∀ c, codec = some c → IsBeside c) {k : Nat} (hk : IsSafe base maxFiles codec d₀ k) :
    d.octetsOf k = d₀.octetsOf k :=
  h.spared.others k hk.1 fun r hr he =>
    hk.2 r hr (((hp.kept hb).entry_eq_file hr.reached).mp he)

/-- The half-way path shows nothing, or what it showed. -/
theorem half_shows (h : LeftAlone base maxFiles codec d₀ d) (hp : Prepared base maxFiles codec d₀)
    (hb : ∀ c, codec = some c → IsBeside c) (hh : IsHalf base maxFiles codec p) :
    entryAt? d p = none ∨ entryAt? d p = entryAt? d₀ p ∧ d.read? p = d₀.read? p := by
  obtain ⟨files, hkept⟩ := h.kept
  have hkept₀ := hp.kept hb
  have hr : IsReached base maxFiles codec p := .inr hh
  rw [entryAt?_own hkept.toPlaced hr, entryAt?_own hkept₀.toPlaced hr, hkept.read? hr,
    hkept₀.read? hr, ← hkept.entry p hr, ← hkept₀.entry p hr]
  refine (h.half p hh).imp_right fun ⟨hsame, hoct⟩ => ⟨hsame, ?_⟩
  cases hf : fileAt? d₀ p with
  | none =>
    rw [hkept.entry p hr, hkept₀.entry p hr, hf, Option.map_none, Option.map_eq_none_iff] at hsame
    rw [hsame]
  | some k =>
    have he := (hkept₀.entry_eq_file hr).mpr hf
    rw [(hkept.entry_eq_file hr).mp (hsame.trans he)]
    exact congrArg Except.ok (hoct k he)

/-- **All else is as it was.** -/
theorem untouched (h : LeftAlone base maxFiles codec d₀ d) (hp : Prepared base maxFiles codec d₀)
    (hb : ∀ c, codec = some c → IsBeside c) : Untouched base maxFiles codec d₀ d where
  places := h.within
  elsewhere p q k hlook hq hk := by
    have hlook' : d.look? p = .ok (q, .file k) := by
      refine look?_elsewhere (hp.isVacantOrFile hb) h.within hlook ?_
      rintro _ ⟨r, hr, rfl⟩
      exact hq r hr
    refine ⟨hlook', ?_⟩
    rw [Disk.read?, Disk.read?, hlook, hlook']
    exact congrArg Except.ok (h.octetsOf hp hb hk)
  beyond i e hi hs hslash := by
    obtain ⟨ns, left, hl₀, hl, hnames⟩ := h.exists_leads hp hb
    have hn := hnames i e hslash
    have hx := (hp.ready hb).sound.not_isDots i e.toList
    have hsame := h.entry?_beyond hp hb hi hs
    rw [entryAt?_of_leads hl₀ hn, entryAt?_of_leads hl hn, hsame]
    refine ⟨rfl, fun k hk hsafe => ?_⟩
    cases hf : pathFault? (slotPath base i e) with
    | some c => simp [hf] at hk
    | none =>
      have he : d₀.entry? ((placeAt d₀ base).dropLast ++ [slotName base i ++ e.toList]) =
          some (.file k) := by
        simpa [hf, hx] using hk
      rw [Disk.read?, Disk.read?, look?_of_leads hl₀ hn hx he,
        look?_of_leads hl hn hx (hsame.trans he), hf]
      dsimp only
      -- the path may be too long a name, or end in a slash
      cases isTooLong (slotName base i ++ e.toList) with
      | true => rfl
      | false =>
        cases (slotPath base i e).isSlashed with
        | true => rfl
        | false => exact congrArg Except.ok (h.octetsOf hp hb hsafe)
  half p hh := h.half_shows hp hb hh

/-! ## 4. Work of the log -/

/-- Nothing is changed where nothing was done. -/
theorem refl (hp : Prepared base maxFiles codec d) (hb : ∀ c, codec = some c → IsBeside c) :
    LeftAlone base maxFiles codec d d where
  kept := ⟨_, hp.kept hb⟩
  within _ _ := rfl
  spared := .refl _ _ _ _
  half _ _ := .inr ⟨rfl, fun _ _ => rfl⟩

/-- Work at the paths that are reached goes on with that. -/
theorem further (h : LeftAlone base maxFiles codec d₀ d) {files : Path → Option Nat}
    (hk : Kept (IsReached base maxFiles codec) (placeAt d₀) files d')
    (hw : Within (IsReached base maxFiles codec) (placeAt d₀) d d')
    (hs : Spared (IsReached base maxFiles codec) (IsWritten base maxFiles codec) (placeAt d₀) d d')
    (hhalf : ∀ p, IsHalf base maxFiles codec p → d'.entry? (placeAt d₀ p) = none ∨
      d'.entry? (placeAt d₀ p) = d.entry? (placeAt d₀ p) ∧
        ∀ k, d.entry? (placeAt d₀ p) = some (.file k) → d'.octetsOf k = d.octetsOf k) :
    LeftAlone base maxFiles codec d₀ d' where
  kept := ⟨files, hk⟩
  within o ho := (hw o ho).trans (h.within o ho)
  spared := h.spared.trans hs
  half p hh := by
    rcases hhalf p hh with hnone | ⟨hsame, hoct⟩
    · exact .inl hnone
    · rw [hsame]
      exact (h.half p hh).imp_right fun ⟨hfirst, hheld⟩ =>
        ⟨hfirst, fun k he => (hoct k (hfirst.trans he)).trans (hheld k he)⟩

/-- **The log has worked on its own paths.** -/
theorem own (h : LeftAlone base maxFiles codec d₀ d) (hp : Prepared base maxFiles codec d₀)
    (hb : ∀ c, codec = some c → IsBeside c) {files : Path → Option Nat}
    (hk : Kept (IsOwn base maxFiles (suffixesOf codec)) (placeAt d₀) files d')
    (hw : Within (IsOwn base maxFiles (suffixesOf codec)) (placeAt d₀) d d')
    (hs : Spared (IsOwn base maxFiles (suffixesOf codec)) (· = base) (placeAt d₀) d d') :
    LeftAlone base maxFiles codec d₀ d' := by
  obtain ⟨wide, hwide⟩ := h.kept
  have hstays : ∀ p, IsReached base maxFiles codec p →
      IsOwn base maxFiles (suffixesOf codec) p ∨
        d'.entry? (placeAt d₀ p) = d.entry? (placeAt d₀ p) :=
    fun p => hwide.toPlaced.stays (fun _ => .inl) hw
  have hquiet : ∀ p, IsHalf base maxFiles codec p →
      d'.entry? (placeAt d₀ p) = d.entry? (placeAt d₀ p) :=
    fun p hh => (hstays p (.inr hh)).resolve_left (hp.half_not_own hb hh)
  refine h.further (hwide.widen hk (fun _ => .inl) hw hs) (fun o ho => hw o ?_)
    (hs.widen (fun _ => .inl) (fun _ => .inl) hstays fun p hi => hi.imp_right (hquiet p))
    fun p hh => .inr ⟨hquiet p hh, fun k he => ?_⟩
  · rintro _ ⟨p, hown, rfl⟩
    exact ho _ ⟨p, .inl hown, rfl⟩
  · have hfile := (hwide.entry_eq_file (.inr hh)).mp he
    refine hs.others k (hwide.filed p k (.inr hh) hfile) ?_
    -- the half-way file is not the active one
    rintro _ rfl hat
    have hactive := (hwide.entry_eq_file (.inl .active)).mp hat
    exact hp.half_not_own hb hh
      (hwide.single p _ k (.inr hh) (.inl .active) hfile hactive ▸ .active)

end LeftAlone

namespace Bounded

/-- **Every call of the log stays within the bounds.** -/
theorem perform {l : RotatingLog} (h : Bounded base maxSize maxFiles codec d₀ l d)
    (hp : Prepared base maxFiles codec d₀) (hb : ∀ c, codec = some c → IsBeside c) (e : Errand) :
    Bounded base maxSize maxFiles codec d₀ (e.perform l d).log (e.perform l d).disk := by
  obtain ⟨files, s, hk⟩ := h.keeps
  obtain ⟨l', d', files', hr, -, hk'⟩ := perform_keeps hk e
  have hw := hk.within e
  have hs := hk.spared e
  rw [hr] at hw hs ⊢
  exact ⟨h.left.own hp hb hk'.racked.kept hw hs, files', _, hk'⟩

/-- A log that is begun does. -/
theorem create (hp : Prepared base maxFiles codec d) (hb : ∀ c, codec = some c → IsBeside c)
    (hs : 0 < maxSize) :
    ∃ l d', RotatingLog.create base maxSize maxFiles (suffixesOf codec) d = (.ok l, d') ∧
      Bounded base maxSize maxFiles codec d l d' := by
  have hr := hp.ready hb
  obtain ⟨l, d', files, hc, -, hk⟩ := create_keeps hr hs
  obtain ⟨n, ho⟩ := create_opened hr hc
  exact ⟨l, d', hc, (LeftAlone.refl hp hb).own hp hb hk.racked.kept ho.within
    (spared_of_opened hr.racked.kept.toPlaced .active ho), files, _, hk⟩

/-! ## 5. Compressing -/

/-- **Compressing the file in slot 1 stays within the bounds**, if there is such a slot. -/
theorem compressed {l : CompressedLog} (h : Bounded base maxSize maxFiles codec d₀ l.log d)
    (hp : Prepared base maxFiles codec d₀) (hb : ∀ c, codec = some c → IsBeside c)
    (hc : codec = some c) (hm : 1 ≤ maxFiles) (hentry : d.hasEntry (slot base 1) = true) :
    let e := l.compressFile c (slotPath base 1 "") (slotPath base 1 c.suffix) d
    Bounded base maxSize maxFiles codec d₀ e.log.log e.disk ∧ e.log.codec = l.codec ∧
      e.log.options = l.options := by
  intro e
  obtain ⟨files, hkept⟩ := h.left.kept
  obtain ⟨files₀, s, hk⟩ := h.keeps
  have hmem : c.suffix ∈ suffixesOf codec := by
    rw [hc]
    exact List.mem_singleton_self _
  have hsource : IsOwn base maxFiles (suffixesOf codec) (slotPath base 1 "") :=
    .slot 1 "" (Nat.le_refl 1) hm (.inl rfl)
  have htarget : IsOwn base maxFiles (suffixesOf codec) (slotPath base 1 c.suffix) :=
    .slot 1 c.suffix (Nat.le_refl 1) hm (.inr hmem)
  have hhalf : IsHalf base maxFiles codec (besideTarget (slotPath base 1 c.suffix)) :=
    .mk c hc hm
  have hnot : ∀ {r}, IsOwn base maxFiles (suffixesOf codec) r →
      r ≠ besideTarget (slotPath base 1 c.suffix) := by
    rintro r hr rfl
    exact hp.half_not_own hb hhalf hr
  have hsound := hk.racked.sound
  obtain ⟨k, hfile⟩ : ∃ k, files (slotPath base 1 "") = some k := by
    rw [← slotPath_empty, hkept.hasEntry (.inl hsource)] at hentry
    exact Option.isSome_iff_exists.mp hentry
  obtain ⟨hlog, hcodec, hoptions, files', hkept', hw, hs, hgone, hrest⟩ :=
    compressFile_repacks hkept (hb c hc) (.inl hsource) (.inl htarget) (.inr hhalf) (hnot hsource)
      hfile l
  -- the active file is where it was, and holds what it held
  have hbase := hrest base (hsound.slotPath_ne (.inl rfl)).symm
    (hsound.slotPath_ne (.inr hmem)).symm (hnot .active)
  have hfiles : files₀ base = files base := by
    refine Option.ext fun n => ?_
    rw [← hk.racked.kept.entry_eq_file .active, hkept.entry_eq_file (.inl .active)]
  have hsame : ∀ p, IsHalf base maxFiles codec p →
      p = besideTarget (slotPath base 1 c.suffix) := by
    rintro _ ⟨c', hc', -⟩
    rw [Option.some.inj (hc'.symm.trans hc), halfPath]
  have hactive : ∀ n, files₀ base = some n → e.disk.octetsOf n = d.octetsOf n := by
    intro n hn
    refine hs.others n (hk.racked.kept.filed base n .active hn) ?_
    rintro _ rfl hat
    exact hnot .active (hkept.single base _ n (.inl .active) (.inr hhalf) (hfiles ▸ hn)
      ((hkept.entry_eq_file (.inr hhalf)).mp hat))
  have hk' := hk.reshelved (hkept'.narrow fun _ => .inl) (hbase.trans hfiles.symm) hs.length
    hactive
  rw [← hlog] at hk'
  refine ⟨⟨h.left.further hkept' hw (hs.widen (fun _ => id) (fun p hp => .inr (hp ▸ hhalf))
    (fun _ => .inl) fun p hi => ?_) fun p hh => .inl ?_, files', _, hk'⟩, hcodec, hoptions⟩
  · rcases hi with rfl | hh
    · refine .inr ?_
      rw [hkept'.entry _ (.inl .active), hkept.entry _ (.inl .active), hbase]
    · exact .inl (hsame p hh)
  · rw [hkept'.entry p (.inr hh), hsame p hh, hgone]
    rfl

/-- **After a rotation, compressing stays within the bounds.** -/
theorem compressNewest {l : CompressedLog} (h : Bounded base maxSize maxFiles codec d₀ l.log d)
    (hp : Prepared base maxFiles codec d₀) (hb : ∀ c, codec = some c → IsBeside c)
    (hc : l.codec = codec)
    (hnone : l.options.onRotate && codec.isSome → maxFiles = 0 →
      entryAt? d₀ (slot base 1) = none) :
    let e := l.compressNewest d
    Bounded base maxSize maxFiles codec d₀ e.log.log e.disk ∧ e.log.codec = l.codec ∧
      e.log.options = l.options := by
  intro e
  obtain ⟨files, s, hk⟩ := h.keeps
  have he : e = l.compressNewest d := rfl
  rw [CompressedLog.compressNewest, hc] at he
  cases codec with
  | none => exact ⟨he ▸ h, by rw [he], by rw [he]⟩
  | some c =>
    dsimp only at he
    split at he
    · obtain ⟨hwant, hentry⟩ := Bool.and_eq_true_iff.mp ‹_›
      rw [hk.terms.base] at he hentry
      have hm : 1 ≤ maxFiles := by
        by_contra hm
        have hzero : maxFiles = 0 := by omega
        rw [h.left.hasEntry_slot hp hb hzero (hnone (by simp [hwant]) hzero)] at hentry
        cases hentry
      have hdone := h.compressed hp hb rfl hm hentry
      rw [slotPath_empty] at hdone
      exact he ▸ hdone
    · exact ⟨he ▸ h, by rw [he], by rw [he]⟩

/-- A line, and what comes of it, stays within the bounds. -/
theorem writeLine {l : CompressedLog} (h : Bounded base maxSize maxFiles codec d₀ l.log d)
    (hp : Prepared base maxFiles codec d₀) (hb : ∀ c, codec = some c → IsBeside c)
    (hc : l.codec = codec)
    (hnone : l.options.onRotate && codec.isSome → maxFiles = 0 →
      entryAt? d₀ (slot base 1) = none) (line : String) :
    let e := l.writeLine line d
    Bounded base maxSize maxFiles codec d₀ e.log.log e.disk ∧ e.log.codec = l.codec ∧
      e.log.options = l.options := by
  have hline : Bounded base maxSize maxFiles codec d₀ (l.log.writeLine line d).log
      (l.log.writeLine line d).disk := h.perform hp hb (.line line)
  rw [CompressedLog.writeLine]
  generalize l.log.writeLine line d = e at hline ⊢
  obtain ⟨_ | _ | _, log, d', notices⟩ := e
  · exact ⟨hline, rfl, rfl⟩
  · exact ⟨hline, rfl, rfl⟩
  · exact compressNewest (l := { l with log }) hline hp hb hc hnone

end Bounded

/-! ## 6. Requests -/

namespace FileSink

/-- The codecs of these sinks work beside their targets. -/
theorem isBeside (s : FileSink) (c : Codec) (hc : s.codec? = some c) : IsBeside c := by
  cases s with
  | rotating => cases hc
  | compressed o => exact isBeside_of_codec? hc

/-- The sink is of this kind, and its log works within its bounds. -/
inductive Works (base : Path) (maxSize maxFiles : Nat) (d₀ : Disk) :
    FileSink → Sink.Kind → Disk → Prop where
  | rotating (f : Line.Formatter) (l : RotatingLog) (d : Disk)
      (h : Bounded base maxSize maxFiles none d₀ l d) :
      Works base maxSize maxFiles d₀ .rotating (.rotating f l) d
  | compressed (o : Options) (f : Line.Formatter) (l : CompressedLog) (d : Disk)
      (h : Bounded base maxSize maxFiles o.codec? d₀ l.log d) (hc : l.codec = o.codec?)
      (ho : l.options = o) :
      Works base maxSize maxFiles d₀ (.compressed o) (.compressed f l) d

variable {s : FileSink} {k : Sink.Kind} {site : Site}

theorem Works.left (h : s.Works base maxSize maxFiles d₀ k d) :
    LeftAlone base maxFiles s.codec? d₀ d := by
  cases h with
  | rotating f l d h => exact h.left
  | compressed o f l d h => exact h.left

/-- A record that passes the threshold. -/
theorem Works.take (h : s.Works base maxSize maxFiles d₀ k site.disk)
    (hp : Prepared base maxFiles s.codec? d₀)
    (hnone : s.packs = true → maxFiles = 0 → entryAt? d₀ (slot base 1) = none) (g : Sink.Given) :
    s.Works base maxSize maxFiles d₀ (k.take g site).kind (k.take g site).site.disk := by
  cases h with
  | rotating f l _ h => exact .rotating f _ _ (h.perform hp (isBeside .rotating) (.line _))
  | compressed o f l _ h hc ho =>
    subst ho
    obtain ⟨hdone, hcodec, hoptions⟩ := h.writeLine hp (isBeside (.compressed l.options)) hc hnone
      (Sink.lineOf f site.time g)
    exact .compressed _ f _ _ hdone (hcodec.trans hc) hoptions

theorem Works.flush (h : s.Works base maxSize maxFiles d₀ k site.disk)
    (hp : Prepared base maxFiles s.codec? d₀) :
    s.Works base maxSize maxFiles d₀ (k.flush site).kind (k.flush site).site.disk := by
  cases h with
  | rotating f l _ h => exact .rotating f _ _ (h.perform hp (isBeside .rotating) .flush)
  | compressed o f l _ h hc ho =>
    exact .compressed o f _ _ (h.perform hp (isBeside (.compressed o)) .flush) hc ho

/-- **Every request does.** -/
theorem Works.perform (h : s.Works base maxSize maxFiles d₀ k site.disk)
    (hp : Prepared base maxFiles s.codec? d₀)
    (hnone : s.packs = true → maxFiles = 0 → entryAt? d₀ (slot base 1) = none)
    (threshold : Level) (q : Sink.Request) :
    ∃ o k' site', q.perform ⟨threshold, k⟩ site = (o, ⟨q.next threshold, k'⟩, site') ∧
      s.Works base maxSize maxFiles d₀ k' site'.disk := by
  cases q with
  | flush => exact ⟨_, _, _, rfl, h.flush hp⟩
  | threshold level =>
    refine ⟨.ok, k, site, ?_, h⟩
    cases h <;> rfl
  | log p =>
    have gated : k.isGated = true := by cases h <;> rfl
    cases hpass : threshold.admits p.level with
    | false => exact ⟨_, _, _, Sink.Request.perform_below gated hpass site, h⟩
    | true =>
      have h' : s.Works base maxSize maxFiles d₀ k { site with time := p.time }.disk := h
      exact ⟨_, _, _, Sink.Request.perform_passing gated hpass site, h'.take hp hnone _⟩

/-- A sink that is made does. -/
theorem create_works (s : FileSink) (f : Line.Formatter) (hp : Prepared base maxFiles s.codec? d)
    (hs : 0 < maxSize) :
    ∃ k d', s.create f base maxSize maxFiles d = (.ok k, d') ∧
      s.Works base maxSize maxFiles d k d' := by
  obtain ⟨l, d', hc, hl⟩ := Bounded.create hp s.isBeside hs
  cases s with
  | rotating =>
    refine ⟨.rotating f l, d', ?_, .rotating f l d' hl⟩
    have hc' : RotatingLog.create base maxSize maxFiles [] d = (.ok l, d') := hc
    rw [create, hc']
    rfl
  | compressed o =>
    refine ⟨.compressed f ⟨l, o, o.codec?, {}⟩, d', ?_, .compressed o f _ d' hl rfl rfl⟩
    have hc' : RotatingLog.create base maxSize maxFiles (o.codec?.toList.map Codec.suffix) d =
        (.ok l, d') := hc
    rw [create, CompressedLog.create, hc']
    rfl

end FileSink

/-- So it works after any requests. -/
theorem FileSink.Works.serve {s : FileSink} {k : Sink.Kind} {site : Site}
    (h : s.Works base maxSize maxFiles d₀ k site.disk) (hp : Prepared base maxFiles s.codec? d₀)
    (hnone : s.packs = true → maxFiles = 0 → entryAt? d₀ (slot base 1) = none)
    (threshold : Level) (qs : List Sink.Request) :
    ∃ os k' site', Sink.serve ⟨threshold, k⟩ site qs =
        (os, ⟨qs.foldl Sink.Request.next threshold, k'⟩, site') ∧
      s.Works base maxSize maxFiles d₀ k' site'.disk := by
  have step : ∀ (as : List (Line.Parts × Outcome)) (k : Sink.Kind) (site : Site)
      (threshold : Level) (q : Sink.Request), s.Works base maxSize maxFiles d₀ k site.disk →
      ∃ o k' site', q.perform ⟨threshold, k⟩ site = (o, ⟨q.next threshold, k'⟩, site') ∧ True ∧
        s.Works base maxSize maxFiles d₀ k' site'.disk := by
    intro as k site threshold q h
    obtain ⟨o, k', site', hq, h'⟩ := h.perform hp hnone threshold q
    exact ⟨o, k', site', hq, trivial, h'⟩
  obtain ⟨os, k', site', hr, -, -, hw⟩ :=
    @Sink.serve_keeps (fun _ k site => s.Works base maxSize maxFiles d₀ k site.disk)
      (fun _ => True) step [] k site h threshold qs
  exact ⟨os, k', site', hr, hw⟩

/-- **A file sink keeps to its own files.** Whatever is in the directory and whatever is asked of
the sink, in any number of requests: nothing comes or goes at another place than those of the active
file, of the slots up to the last and of the half-way file; every other file is what it was,
whatever path leads to it; so are the files in slots beyond the last, and all of the history if
there is no slot; and no half-way file is left. This holds unless there is no slot and the sink
compresses what it finds in slot 1. -/
theorem keeps_to_its_own (s : FileSink) (f : Line.Formatter)
    (hp : Prepared base maxFiles s.codec? d) (hs : 0 < maxSize)
    (hnone : s.packs = true → maxFiles = 0 → entryAt? d (slot base 1) = none) :
    ∃ k d', s.create f base maxSize maxFiles d = (.ok k, d') ∧
      ∀ (threshold : Level) (site : Site) (qs : List Sink.Request),
        Untouched base maxFiles s.codec? d
          (Sink.serve ⟨threshold, k⟩ { site with disk := d' } qs).2.2.disk := by
  obtain ⟨k, d', hc, hw⟩ := s.create_works f hp hs
  refine ⟨k, d', hc, fun threshold site qs => ?_⟩
  have hw' : s.Works base maxSize maxFiles d k { site with disk := d' }.disk := hw
  obtain ⟨os, k', site', hr, hdone⟩ := hw'.serve hp hnone threshold qs
  rw [hr]
  exact hdone.left.untouched hp s.isBeside

/-- An active file, two files of an earlier history, and one that was left half-way. -/
def crowded : Disk where
  entries :=
    [(["logs".toList], .directory), (["logs".toList, "app.log".toList], .file 0),
     (["logs".toList, "app.1.log".toList], .file 1), (["logs".toList, "app.2.log".toList], .file 2),
     (["logs".toList, "app.1.log.gz.tmp".toList], .file 3)]
  contents := [octetsOf "ab", octetsOf "new", octetsOf "old", octetsOf "half"]

theorem isReached_crowded {p : Path} {maxFiles : Nat} (hm : maxFiles ≤ 1)
    (h : IsReached holedBase maxFiles (some Codec.gzip) p) :
    p = holedBase ∨ p = slotPath holedBase 1 "" ∨ p = slotPath holedBase 1 ".gz" ∨
      p = halfPath holedBase Codec.gzip := by
  rcases h with h | ⟨c, hc, -⟩
  · cases h with
    | active => exact .inl rfl
    | slot i e hi hn he =>
      obtain rfl : i = 1 := by omega
      rcases he with rfl | he
      · exact .inr (.inl rfl)
      · obtain rfl := List.mem_singleton.mp he
        exact .inr (.inr (.inl rfl))
  · cases hc
    exact .inr (.inr (.inr rfl))

theorem fileAt?_crowded {p : Path} {maxFiles k : Nat} (hm : maxFiles ≤ 1)
    (h : IsReached holedBase maxFiles (some Codec.gzip) p) (hk : fileAt? crowded p = some k) :
    p = holedBase ∧ k = 0 ∨ p = slotPath holedBase 1 "" ∧ k = 1 ∨
      p = halfPath holedBase Codec.gzip ∧ k = 3 := by
  have h0 : fileAt? crowded holedBase = some 0 := rfl
  have h1 : fileAt? crowded (slotPath holedBase 1 "") = some 1 := rfl
  have h2 : fileAt? crowded (slotPath holedBase 1 ".gz") = none := rfl
  have h3 : fileAt? crowded (halfPath holedBase Codec.gzip) = some 3 := rfl
  rcases isReached_crowded hm h with rfl | rfl | rfl | rfl
  · exact .inl ⟨rfl, by simpa [h0] using hk.symm⟩
  · exact .inr (.inl ⟨rfl, by simpa [h1] using hk.symm⟩)
  · rw [h2] at hk
    cases hk
  · exact .inr (.inr ⟨rfl, by simpa [h3] using hk.symm⟩)

theorem prepared_crowded {maxFiles : Nat} (hm : maxFiles ≤ 1) :
    Prepared holedBase maxFiles (some Codec.gzip) crowded where
  harmless := Mishaps.harmless_empty
  found p hp := by rcases isReached_crowded hm hp with rfl | rfl | rfl | rfl <;> rfl
  short p hp := by rcases isReached_crowded hm hp with rfl | rfl | rfl | rfl <;> rfl
  filed p k hp hk := by
    rcases fileAt?_crowded hm hp hk with ⟨-, rfl⟩ | ⟨-, rfl⟩ | ⟨-, rfl⟩ <;> decide
  single p q k hp hq hk hk' := by
    rcases fileAt?_crowded hm hp hk with ⟨rfl, rfl⟩ | ⟨rfl, rfl⟩ | ⟨rfl, rfl⟩ <;>
      rcases fileAt?_crowded hm hq hk' with ⟨rfl, h⟩ | ⟨rfl, h⟩ | ⟨rfl, h⟩ <;>
      first | rfl | cases h

/-- With one slot the file in slot 2 is what it was, and the one left half-way is not in the way. -/
theorem keeps_to_its_own_crowded :
    let f : Line.Formatter := ⟨"%v", [.message]⟩
    Prepared holedBase 1 (FileSink.compressed {}).codec? crowded ∧ 0 < 1 ∧
      ((FileSink.compressed {}).packs = true → 1 = 0 →
        entryAt? crowded (slot holedBase 1) = none) ∧
      ∃ k d', (FileSink.compressed {}).create f holedBase 1 1 crowded = (.ok k, d') ∧
        ∀ (threshold : Level) (site : Site) (qs : List Sink.Request),
          let there := (Sink.serve ⟨threshold, k⟩ { site with disk := d' } qs).2.2.disk
          there.read? (slotPath holedBase 2 "") = .ok (octetsOf "old") ∧
            entryAt? there (slotPath holedBase 3 ".gz") = none ∧
            (entryAt? there (halfPath holedBase Codec.gzip) = none ∨
              there.read? (halfPath holedBase Codec.gzip) = .ok (octetsOf "half")) := by
  intro f
  have hp := prepared_crowded (Nat.le_refl 1)
  refine ⟨hp, by decide, nofun, ?_⟩
  obtain ⟨k, d', hc, h⟩ := keeps_to_its_own (.compressed {}) f hp (by decide : 0 < 1) nofun
  refine ⟨k, d', hc, fun threshold site qs => ?_⟩
  obtain ⟨-, -, hbeyond, hhalf⟩ := h threshold site qs
  have hsafe : IsSafe holedBase 1 (some Codec.gzip) crowded 2 := by
    refine ⟨by decide, fun r hr hk => ?_⟩
    rcases fileAt?_crowded (Nat.le_refl 1) hr.reached hk with ⟨-, h⟩ | ⟨-, h⟩ | ⟨-, h⟩ <;> cases h
  have hread : crowded.read? (slotPath holedBase 2 "") = .ok (octetsOf "old") := rfl
  have hold : crowded.read? (halfPath holedBase Codec.gzip) = .ok (octetsOf "half") := rfl
  refine ⟨?_, ?_, ?_⟩
  · exact ((hbeyond 2 "" (by decide) (.inl rfl) (by decide)).2 2 rfl hsafe).trans hread
  · refine (hbeyond 3 ".gz" (by decide) (.inr ⟨_, rfl⟩) (by decide)).1.trans ?_
    rfl
  · exact (hhalf _ (.mk _ rfl (Nat.le_refl 1))).imp_right fun h => h.2.trans hold

/-- **Without slots, a compressing sink takes the file it finds in slot 1**, which is none of its
own: it makes a compressed one of it and removes it. -/
theorem takes_a_stranger :
    let f : Line.Formatter := ⟨"%v", [.message]⟩
    Prepared holedBase 0 (FileSink.compressed {}).codec? crowded ∧
      ∃ k d', (FileSink.compressed {}).create f holedBase 1 0 crowded = (.ok k, d') ∧
        let served := Sink.serve ⟨.info, k⟩ { disk := d' } [.log ⟨⟨0, 0⟩, "svc", .info, "x"⟩]
        served.1 = [.ok] ∧
          entryAt? crowded (slotPath holedBase 1 "") = some (.file 1) ∧
          crowded.hasEntry (slotPath holedBase 1 ".gz") = false ∧
          entryAt? served.2.2.disk (slotPath holedBase 1 "") = none ∧
          served.2.2.disk.hasEntry (slotPath holedBase 1 ".gz") = true ∧
          ¬ Untouched holedBase 0 (some Codec.gzip) crowded served.2.2.disk := by
  intro f
  let log : RotatingLog :=
    { base := holedBase, maxSize := 1, maxFiles := 0, suffixes := [".gz"]
      writer := some ⟨⟨.file 0, none⟩, []⟩, size := 2 }
  refine ⟨prepared_crowded (Nat.zero_le 1), .compressed f ⟨log, {}, some Codec.gzip, {}⟩, crowded,
    rfl, ?_⟩
  have hthere : entryAt? crowded (slotPath holedBase 1 "") = some (.file 1) := rfl
  generalize hr : Sink.serve _ _ _ = served
  have hgone : entryAt? served.2.2.disk (slotPath holedBase 1 "") = none := by
    rw [← hr]
    decide +kernel
  refine ⟨?_, hthere, rfl, hgone, ?_, fun h => ?_⟩
  · rw [← hr]
    decide +kernel
  · rw [← hr]
    decide +kernel
  · have hsame := (h.beyond 1 "" (by decide) (.inl rfl) (by decide)).1
    rw [hgone, hthere] at hsame
    cases hsame

end Logworks.Rotation
