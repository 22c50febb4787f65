import Logworks.Disk.Writer
import Logworks.Proofs.Disk.Files

/-!
# Opening, reading, writing

What is written through a handle at the end of a file comes behind what is there, however many
attempts it takes, and a writer only defers it. This file fixes

* `Placed.read?`, `Placed.hasEntry` -- what an own path shows;
* `Placed.openFresh`, `Placed.openAppend` -- **a handle at the end of the file of an own path**;
* `Touches` -- a change of one file, and of nothing else;
* `Handle.Wrote` -- what is taken is a front part; `AtEnd.writeAll` -- all, where nothing fails;
* `Writer.Holds` -- **the file, with what the writer gathered behind it**; `Holds.writePieces` and
  `Holds.flush` say what becomes of it.
-/

namespace Logworks.Disk

open Logworks.Text

/-! ## 1. Contents -/

theorem octetsOf_setOctets (d : Disk) {n : Nat} (hn : n < d.contents.length) (bytes : Octets)
    (k : Nat) : (d.setOctets n bytes).octetsOf k = if k = n then bytes else d.octetsOf k := by
  show ((d.contents.set n bytes)[k]?).getD [] = _
  by_cases h : k = n
  · subst h
    rw [if_pos rfl, List.getElem?_set_self hn]
    rfl
  · rw [if_neg h, List.getElem?_set_ne (Ne.symm h)]
    rfl

theorem entry?_congr {d d' : Disk} (he : d'.entries = d.entries) (q : Place) :
    d'.entry? q = d.entry? q := by
  unfold entry?
  rw [he]

/-- The path `p` leads to file `n`, which no other own path does; all else is as it was. -/
structure Opened (own : Path → Prop) (place : Path → Place) (files : Path → Option Nat) (p : Path)
    (n : Nat) (d d' : Disk) : Prop where
  placed : Placed own place (Function.update files p (some n)) d'
  within : Within own place d d'
  length : d.contents.length ≤ d'.contents.length
  others : ∀ k < d.contents.length, k ≠ n → d'.octetsOf k = d.octetsOf k
  single : ∀ q, own q → q ≠ p → files q ≠ some n
  same : ∀ k, files p = some k → n = k
  fresh : files p = none → d.contents.length ≤ n

/-- The files of the other own paths hold what they held. -/
theorem Opened.octetsOf_other {own : Path → Prop} {place : Path → Place}
    {files : Path → Option Nat} {d d' : Disk} {p q : Path} {n k : Nat}
    (h : Opened own place files p n d d') (hd : Placed own place files d) (hq : own q)
    (hqp : q ≠ p) (hk : files q = some k) : d'.octetsOf k = d.octetsOf k := by
  refine h.others k (hd.filed q k hq hk) ?_
  rintro rfl
  exact h.single q hq hqp hk

namespace Placed

variable {own : Path → Prop} {place : Path → Place} {files : Path → Option Nat} {d d' : Disk}
  {p q : Path}

/-- A change of what files hold. -/
theorem refilled (h : Placed own place files d) (he : d'.entries = d.entries)
    (hc : d'.contents.length = d.contents.length) : Placed own place files d' := by
  refine h.changed files (fun q _ => entry?_congr he q) (fun p hp => ?_) (fun p k hp hk => ?_)
    h.single
  · rw [entry?_congr he]
    exact h.entry p hp
  · rw [hc]
    exact h.filed p k hp hk

theorem look? (h : Placed own place files d) (hp : own p) :
    d.look? p = match files p with
      | some k => .ok (place p, .file k)
      | none => .error (.system .notFound) := by
  rw [Disk.look?, h.find hp .look]
  cases files p <;> rfl

theorem read? (h : Placed own place files d) (hp : own p) :
    d.read? p = match files p with
      | some k => .ok (d.octetsOf k)
      | none => .error (.system .notFound) := by
  rw [Disk.read?, h.look? hp]
  cases files p <;> rfl

theorem hasEntry (h : Placed own place files d) (hp : own p) :
    d.hasEntry p = (files p).isSome := by
  rw [Disk.hasEntry, h.look? hp]
  cases files p <;> rfl

/-! ## 2. Opening -/

/-- **An own path always leads to a file that can be opened**: the one that is there, or a new one
that is empty. -/
theorem target (h : Placed own place files d) (hp : own p) :
    ∃ n d', Disk.target p d = .ok (.file n, d') ∧ Opened own place files p n d d' ∧
      d'.mishaps = d.mishaps ∧ d'.octetsOf n = ((files p).map d.octetsOf).getD [] := by
  have hfind := h.find hp .make
  cases hk : files p with
  | some k =>
    refine ⟨k, d, ?_, ⟨?_, fun _ _ => rfl, Nat.le_refl _, fun _ _ _ => rfl,
      fun q hq hqp e => hqp (h.single q p k hq hp e hk),
      fun j e => Option.some.inj (hk.symm.trans e), fun e => by simp [hk] at e⟩, rfl, rfl⟩
    · rw [Disk.target, hfind, hk]
      rfl
    · rw [← hk, Function.update_eq_self]
      exact h
  | none =>
    have hfresh : ∀ q, own q → files q ≠ some d.contents.length := fun q hq e =>
      Nat.lt_irrefl _ (h.filed q _ hq e)
    have he := entry?_put d (h.ne_nil hp) (.file d.contents.length)
    refine ⟨d.contents.length,
      { d.put (place p) (.file d.contents.length) with contents := d.contents ++ [[]] }, ?_,
      ⟨?_, fun o ho => ?_, List.length_append ▸ Nat.le_add_right _ _, fun k hk _ => ?_,
        fun q hq _ => hfresh q hq, fun j e => by simp [hk] at e, fun _ => Nat.le_refl _⟩, rfl, ?_⟩
    · rw [Disk.target, hfind, hk]
      rfl
    · refine h.reassigned hp _ he ?_ ?_ ?_
      · exact List.length_append ▸ Nat.le_add_right _ _
      · intro k e
        rw [← Option.some.inj e]
        show d.contents.length < (d.contents ++ [[]]).length
        rw [List.length_append, List.length_singleton]
        exact Nat.lt_succ_self _
      · intro q k hq hk e
        exact hfresh q hq (hk.trans e.symm)
    · refine (he o).trans (if_neg ?_)
      rintro rfl
      exact ho _ ⟨p, hp, rfl⟩ (List.prefix_refl _)
    · show ((d.contents ++ [[]])[k]?).getD [] = _
      rw [List.getElem?_append_left hk]
      rfl
    · show (((d.contents ++ [[]])[d.contents.length]?).getD [] : Octets) = _
      rw [List.getElem?_concat_length]
      rfl

/-- A handle that writes at the end of the file is made, once the opening has begun well. -/
theorem openAppend (h : Placed own place files d) (hp : own p)
    (hm : mishap.run d = (.ok (), d.begun)) :
    ∃ n d', (Disk.openAppend p).run d = (.ok ⟨.file n, none⟩, d') ∧
      Opened own place files p n d d' ∧ d'.mishaps = d.begun.mishaps ∧
      d'.octetsOf n = ((files p).map d.octetsOf).getD [] := by
  obtain ⟨n, d', ht, ho, hrest⟩ := h.begun.target hp
  refine ⟨n, d', ?_,
    ⟨ho.placed, ho.within, ho.length, ho.others, ho.single, ho.same, ho.fresh⟩, hrest⟩
  have hr : (change (Disk.target p)).run d.begun = (.ok (.file n), d') := run_change_ok ht
  show (mishap >>= fun _ => change (Disk.target p) >>= fun t =>
    pure (⟨t, none⟩ : Handle) : Work Handle).run d = _
  rw [run_bind_ok hm, run_bind_ok hr]
  rfl

/-- **A handle at the start of an empty file is made**, once the opening has begun well. -/
theorem openFresh (h : Placed own place files d) (hp : own p)
    (hm : mishap.run d = (.ok (), d.begun)) :
    ∃ n d', (Disk.openFresh p).run d = (.ok ⟨.file n, some 0⟩, d') ∧
      Opened own place files p n d d' ∧ d'.mishaps = d.begun.mishaps ∧ d'.octetsOf n = [] := by
  obtain ⟨n, d', ht, ho, hmis, -⟩ := h.begun.target hp
  have hlt : n < d'.contents.length := ho.placed.filed p n hp (Function.update_self _ _ _)
  have hoct := octetsOf_setOctets d' hlt []
  refine ⟨n, d'.setOctets n [], ?_, ⟨ho.placed.refilled rfl List.length_set, ho.within,
    Nat.le_trans ho.length (Nat.le_of_eq List.length_set.symm), fun k hk hkn => ?_, ho.single,
    ho.same, ho.fresh⟩, hmis, ?_⟩
  · have hr : (change (Disk.target p)).run d.begun = (.ok (.file n), d') := run_change_ok ht
    show (mishap >>= fun _ => change (Disk.target p) >>= fun t =>
      modify (emptied t) >>= fun _ => pure (⟨t, some 0⟩ : Handle) : Work Handle).run d = _
    rw [run_bind_ok hm, run_bind_ok hr]
    rfl
  · rw [hoct, if_neg hkn]
    exact ho.others k hk hkn
  · rw [hoct, if_pos rfl]

end Placed

namespace Kept

variable {own : Path → Prop} {place : Path → Place} {files : Path → Option Nat} {d : Disk}
  {p : Path}

theorem openAppend (h : Kept own place files d) (hp : own p) :
    ∃ n d', (Disk.openAppend p).run d = (.ok ⟨.file n, none⟩, d') ∧
      Opened own place files p n d d' ∧ d'.mishaps.Harmless ∧
      d'.octetsOf n = ((files p).map d.octetsOf).getD [] := by
  obtain ⟨n, d', hr, ho, hm, hoct⟩ := h.toPlaced.openAppend hp (run_mishap h.harmless)
  exact ⟨n, d', hr, ho, hm ▸ harmless_begun h.harmless, hoct⟩

theorem openFresh (h : Kept own place files d) (hp : own p) :
    ∃ n d', (Disk.openFresh p).run d = (.ok ⟨.file n, some 0⟩, d') ∧
      Opened own place files p n d d' ∧ d'.mishaps.Harmless ∧ d'.octetsOf n = [] := by
  obtain ⟨n, d', hr, ho, hm, hnil⟩ := h.toPlaced.openFresh hp (run_mishap h.harmless)
  exact ⟨n, d', hr, ho, hm ▸ harmless_begun h.harmless, hnil⟩

end Kept

/-- A handle that was made to append has no position of its own. -/
theorem position_of_openAppend {path : Path} {d d' : Disk} {h : Handle}
    (he : (openAppend path).run d = (.ok h, d')) : h.position = none := by
  rcases run_mishap_cases d with hm | ⟨c, hm⟩
  · rcases ht : target path d.begun with c | ⟨t, d''⟩
    · have hf : (openAppend path).run d = (.error c, d.begun) :=
        (run_bind_ok hm).trans (run_bind_error (run_change_error ht))
      rw [hf] at he
      cases he
    · have ho : (openAppend path).run d = (.ok ⟨t, none⟩, d'') :=
        (run_bind_ok hm).trans (run_bind_ok (run_change_ok ht))
      rw [ho] at he
      cases he
      rfl
  · have hf : (openAppend path).run d = (.error c, d.begun) := run_bind_error hm
    rw [hf] at he
    cases he

/-! ## 3. Writing through a handle -/

/-- Only the contents of file `n` differ, and fewer attempts to write are planned. -/
structure Touches (n : Nat) (d d' : Disk) : Prop where
  entries : d'.entries = d.entries
  length : d'.contents.length = d.contents.length
  others : ∀ k, k ≠ n → d'.octetsOf k = d.octetsOf k
  names : d'.mishaps.names = d.mishaps.names
  writes : d'.mishaps.writes <:+ d.mishaps.writes
  syncs : d'.mishaps.syncs = d.mishaps.syncs

theorem Touches.refl (n : Nat) (d : Disk) : Touches n d d :=
  ⟨rfl, rfl, fun _ _ => rfl, rfl, List.suffix_refl _, rfl⟩

theorem Touches.trans {n : Nat} {d e f : Disk} (h : Touches n d e) (h' : Touches n e f) :
    Touches n d f where
  entries := h'.entries.trans h.entries
  length := h'.length.trans h.length
  others k hk := (h'.others k hk).trans (h.others k hk)
  names := h'.names.trans h.names
  writes := h'.writes.trans h.writes
  syncs := h'.syncs.trans h.syncs

/-- What was opened is written to. -/
theorem Opened.touched {own : Path → Prop} {place : Path → Place} {files : Path → Option Nat}
    {p : Path} {n : Nat} {d e f : Disk} (h : Opened own place files p n d e) (ht : Touches n e f) :
    Opened own place files p n d f where
  placed := h.placed.refilled ht.entries ht.length
  within o ho := (entry?_congr ht.entries o).trans (h.within o ho)
  length := ht.length ▸ h.length
  others k hk hkn := (ht.others k hkn).trans (h.others k hk hkn)
  single := h.single
  same := h.same
  fresh := h.fresh

theorem Touches.writable {n : Nat} {d d' : Disk} (h : Touches n d d')
    (hd : d.mishaps.Writable) : d'.mishaps.Writable := fun a ha => hd a (h.writes.subset ha)

theorem Touches.harmless {n : Nat} {d d' : Disk} (h : Touches n d d')
    (hd : d.mishaps.Harmless) : d'.mishaps.Harmless where
  names := by
    rw [h.names]
    exact hd.names
  writes := h.writable hd.writes

theorem touches_setOctets {n : Nat} {d : Disk} (hn : n < d.contents.length) (bytes : Octets) :
    Touches n d (d.setOctets n bytes) where
  entries := rfl
  length := List.length_set
  others k hk := by rw [octetsOf_setOctets d hn, if_neg hk]
  names := rfl
  writes := List.suffix_refl _
  syncs := rfl

/-- Fewer attempts are planned. -/
theorem touches_planned (n : Nat) (d : Disk) {plan : List Attempt}
    (h : plan <:+ d.mishaps.writes) :
    Touches n d { d with mishaps := { d.mishaps with writes := plan } } where
  entries := rfl
  length := rfl
  others _ _ := rfl
  names := rfl
  writes := h
  syncs := rfl

/-- What was not written. -/
def Written.rest : Written → Octets
  | all => []
  | stalled rest | failed _ rest => rest

namespace Handle

/-- The handle writes at the end of file `n`. -/
structure AtEnd (h : Handle) (n : Nat) (d : Disk) : Prop where
  target : h.target = .file n
  filed : n < d.contents.length
  position : h.position = none ∨ h.position = some (d.octetsOf n).length

variable {h : Handle} {n : Nat} {d : Disk}

theorem AtEnd.planned (hh : h.AtEnd n d) (plan : List Attempt) :
    h.AtEnd n { d with mishaps := { d.mishaps with writes := plan } } :=
  ⟨hh.target, hh.filed, hh.position⟩

theorem overwrite_length (bytes old : Octets) :
    overwrite old.length bytes old = old ++ bytes := by
  simp [overwrite]

/-- What is taken comes behind what is there. -/
theorem AtEnd.taken (hh : h.AtEnd n d) (bytes : Octets) :
    (h.taken bytes d).2 = d.setOctets n (d.octetsOf n ++ bytes) ∧
      (h.taken bytes d).1.AtEnd n (d.setOctets n (d.octetsOf n ++ bytes)) := by
  have hoct : (d.setOctets n (d.octetsOf n ++ bytes)).octetsOf n = d.octetsOf n ++ bytes := by
    rw [octetsOf_setOctets d hh.filed, if_pos rfl]
  have hlt : n < (d.setOctets n (d.octetsOf n ++ bytes)).contents.length := by
    rw [(touches_setOctets hh.filed _).length]
    exact hh.filed
  unfold Handle.taken
  rw [hh.target]
  rcases hh.position with hp | hp
  · rw [hp]
    exact ⟨rfl, hh.target, hlt, .inl hp⟩
  · rw [hp]
    dsimp only
    rw [overwrite_length]
    refine ⟨rfl, rfl, hlt, .inr ?_⟩
    rw [hoct, List.length_append]

/-- **How writing goes**: a front part comes behind what is there, and that is the only change. -/
structure Wrote (n : Nat) (bytes : Octets) (d : Disk) (r : Written × Handle × Disk) : Prop where
  atEnd : r.2.1.AtEnd n r.2.2
  touches : Touches n d r.2.2
  front : ∃ front, front ++ r.1.rest = bytes ∧ r.2.2.octetsOf n = d.octetsOf n ++ front

/-- Nothing was written. -/
theorem AtEnd.wrote_nothing (hh : h.AtEnd n d) {plan : List Attempt}
    (hs : plan <:+ d.mishaps.writes) {bytes : Octets} {r : Written} (hr : r.rest = bytes) :
    Wrote n bytes d (r, h, { d with mishaps := { d.mishaps with writes := plan } }) where
  atEnd := hh.planned plan
  touches := touches_planned n d hs
  front := ⟨[], hr, (List.append_nil _).symm⟩

theorem AtEnd.natural (hh : h.AtEnd n d) (octets : Nat) : h.natural octets = .takes octets := by
  rw [Handle.natural, hh.target]

theorem AtEnd.writePlain (hh : h.AtEnd n d) (bytes : Octets) :
    (h.writePlain bytes d).1 = .all ∧ Wrote n bytes d (h.writePlain bytes d) := by
  obtain ⟨hd, hend⟩ := hh.taken bytes
  have he : h.writePlain bytes d = (.all, (h.taken bytes d).1, (h.taken bytes d).2) := by
    rw [Handle.writePlain, hh.natural]
  rw [he, hd]
  refine ⟨rfl, hend, touches_setOctets hh.filed _, bytes, List.append_nil _, ?_⟩
  rw [octetsOf_setOctets d hh.filed, if_pos rfl]

/-- What is written in parts is written. -/
theorem Wrote.append {a b : Octets} {r : Written × Handle × Disk} (hn : n < d.contents.length)
    (h : Wrote n b (d.setOctets n (d.octetsOf n ++ a)) r) : Wrote n (a ++ b) d r where
  atEnd := h.atEnd
  touches := (touches_setOctets hn _).trans h.touches
  front := by
    obtain ⟨front, hfront, hoct⟩ := h.front
    refine ⟨a ++ front, by rw [List.append_assoc, hfront], ?_⟩
    rw [hoct, octetsOf_setOctets d hn, if_pos rfl, List.append_assoc]

/-- **A front part is taken, and all where no attempt fails.** -/
theorem AtEnd.writeAttempts {plan : List Attempt} (hs : plan <:+ d.mishaps.writes)
    (hh : h.AtEnd n d) (bytes : Octets) :
    Wrote n bytes d (h.writeAttempts plan bytes d) ∧
      ((∀ a ∈ plan, a.isHarmless = true) → (h.writeAttempts plan bytes d).1 = .all) := by
  induction plan generalizing h bytes d with
  | nil =>
    cases bytes with
    | nil =>
      rw [Handle.writeAttempts]
      exact ⟨hh.wrote_nothing hs rfl, fun _ => rfl⟩
    | cons b bs =>
      rw [Handle.writeAttempts]
      · obtain ⟨hall, hend, htouch, hfront⟩ := (hh.planned []).writePlain (b :: bs)
        exact ⟨⟨hend, (touches_planned n d hs).trans htouch, hfront⟩, fun _ => hall⟩
      · simp
  | cons a plan ih =>
    have hs' : plan <:+ d.mishaps.writes := (List.suffix_cons a plan).trans hs
    have hrest : (∀ a' ∈ a :: plan, a'.isHarmless = true) →
        a.isHarmless = true ∧ ∀ a' ∈ plan, a'.isHarmless = true := List.forall_mem_cons.mp
    cases bytes with
    | nil =>
      rw [Handle.writeAttempts]
      exact ⟨hh.wrote_nothing hs rfl, fun _ => rfl⟩
    | cons b bs =>
      cases a with
      | refused =>
        simp only [Handle.writeAttempts, hh.natural]
        exact ⟨hh.wrote_nothing hs' rfl, fun h => nomatch (hrest h).1⟩
      | fails c =>
        simp only [Handle.writeAttempts, hh.natural]
        exact ⟨hh.wrote_nothing hs' rfl, fun h => nomatch (hrest h).1⟩
      | interrupted =>
        simp only [Handle.writeAttempts, hh.natural]
        obtain ⟨hw, hall⟩ := ih hs' hh (b :: bs)
        exact ⟨hw, fun h => hall (hrest h).2⟩
      | takes m =>
        cases m with
        | zero =>
          simp only [Handle.writeAttempts, hh.natural]
          exact ⟨hh.wrote_nothing hs' rfl, fun h => nomatch (hrest h).1⟩
        | succ m =>
          obtain ⟨hd, hend⟩ := hh.taken ((b :: bs).take (m + 1))
          simp only [Handle.writeAttempts, hh.natural]
          rw [hd]
          obtain ⟨hw, hall⟩ := ih (d := d.setOctets n _) hs' hend ((b :: bs).drop (m + 1))
          refine ⟨?_, fun h => hall (hrest h).2⟩
          have hw' := hw.append hh.filed
          rw [List.take_append_drop] at hw'
          exact hw'

/-- **Where no attempt fails, all is taken in the end.** -/
theorem AtEnd.writeAll (hh : h.AtEnd n d) (hd : d.mishaps.Writable) (bytes : Octets) :
    ∃ h' d', h.writeAll bytes d = (.all, h', d') ∧ h'.AtEnd n d' ∧
      d'.octetsOf n = d.octetsOf n ++ bytes ∧ Touches n d d' := by
  obtain ⟨⟨hend, htouch, front, hfront, hoct⟩, hall⟩ :=
    hh.writeAttempts (List.suffix_refl d.mishaps.writes) bytes
  have hall' := hall hd
  rw [hall'] at hfront
  obtain rfl : front = bytes := (List.append_nil front).symm.trans hfront
  exact ⟨_, _, Prod.ext hall' rfl, hend, hoct, htouch⟩

end Handle

/-! ## 4. Writing through a writer -/

namespace Writer

/-- **The file, with what the writer gathered behind it, is this text.** -/
structure Holds (w : Writer) (n : Nat) (text : Octets) (d : Disk) : Prop where
  atEnd : w.handle.AtEnd n d
  whole : d.octetsOf n ++ w.pending = text

variable {w : Writer} {n : Nat} {text : Octets} {d : Disk}

theorem Holds.flush (h : w.Holds n text d) (hd : d.mishaps.Writable) :
    ∃ w' d', w.flush d = (.ok (), w', d') ∧ w'.Holds n text d' ∧ w'.pending = [] ∧
      Touches n d d' := by
  obtain ⟨h', d', hr, hend, hoct, htouch⟩ := h.atEnd.writeAll hd w.pending
  refine ⟨⟨h', []⟩, d', by rw [Writer.flush, hr], ⟨hend, ?_⟩, rfl, htouch⟩
  rw [hoct, h.whole]
  exact List.append_nil _

theorem Holds.gatherOrDirect (h : w.Holds n text d) (hd : d.mishaps.Writable) (bytes : Octets)
    (hp : w.pending = [] ∨ w.pending.length + bytes.length ≤ writerRoom) :
    ∃ w' d', w.gatherOrDirect bytes d = (.ok (), w', d') ∧ w'.Holds n (text ++ bytes) d' ∧
      Touches n d d' := by
  unfold Writer.gatherOrDirect
  split
  · -- past the writer only when it has gathered nothing
    have hnil : w.pending = [] := by
      rcases hp with hp | hp
      · exact hp
      · exact List.eq_nil_of_length_eq_zero (by omega)
    obtain ⟨h', d', hr, hend, hoct, htouch⟩ := h.atEnd.writeAll hd bytes
    refine ⟨{ w with handle := h' }, d', by rw [direct, hr], ⟨hend, ?_⟩, htouch⟩
    rw [hoct, ← h.whole, hnil]
    simp
  · refine ⟨w.gather bytes, d, rfl, ⟨h.atEnd, ?_⟩, .refl n d⟩
    rw [← h.whole, List.append_assoc]
    rfl

theorem Holds.write (h : w.Holds n text d) (hd : d.mishaps.Writable) (bytes : Octets) :
    ∃ w' d', w.write bytes d = (.ok (), w', d') ∧ w'.Holds n (text ++ bytes) d' ∧
      Touches n d d' := by
  unfold Writer.write
  split
  · exact h.gatherOrDirect hd bytes (.inr ‹_›)
  · obtain ⟨w₁, d₁, hf, h₁, hnil, ht₁⟩ := h.flush hd
    obtain ⟨w₂, d₂, hg, h₂, ht₂⟩ := h₁.gatherOrDirect (ht₁.writable hd) bytes (.inl hnil)
    rw [hf]
    exact ⟨w₂, d₂, hg, h₂, ht₁.trans ht₂⟩

/-- **Pieces come one behind the other, behind what is there.** -/
theorem Holds.writePieces (h : w.Holds n text d) (hd : d.mishaps.Writable)
    (pieces : List Octets) :
    ∃ w' d', w.writePieces d pieces = (.ok (), w', d') ∧ w'.Holds n (text ++ pieces.flatten) d' ∧
      Touches n d d' := by
  induction pieces generalizing w text d with
  | nil => exact ⟨w, d, rfl, by simpa using h, .refl n d⟩
  | cons b bs ih =>
    obtain ⟨w₁, d₁, hw, h₁, ht₁⟩ := h.write hd b
    obtain ⟨w₂, d₂, hws, h₂, ht₂⟩ := ih h₁ (ht₁.writable hd)
    refine ⟨w₂, d₂, ?_, ?_, ht₁.trans ht₂⟩
    · rw [Writer.writePieces, hw]
      exact hws
    · rw [List.flatten_cons, ← List.append_assoc]
      exact h₂

end Writer

end Logworks.Disk
