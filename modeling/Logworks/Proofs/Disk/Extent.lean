import Logworks.Disk.Writer
import Logworks.Proofs.Disk.Filed

/-!
# How far a file reaches

The octets of a file and those that a writer has gathered for it, counted together. Writing that
fails on the way may have moved some from the writer to the file, and may have added some, but it
takes none away. This file fixes

* `Writer.extent` -- the octets in a file and behind it in the writer;
* `Writer.Grew` -- **what a step of a writer that may fail does to the extent**: it is as much greater
  as was to be written, or the step failed, and it is not less;
* `grew_flush`, `grew_write`, `grew_writePieces` -- a flush adds nothing, whether it fails or not, and
  pieces add their octets.
-/

namespace Logworks.Disk

open Logworks.Text

namespace Writer

/-- **The octets in file `n`, and those gathered behind them.** -/
def extent (w : Writer) (n : Nat) (d : Disk) : Nat := (d.octetsOf n).length + w.pending.length

/-- The writer appends to its file, and the file is there. -/
structure Steady (w : Writer) (d : Disk) : Prop where
  filed : d.Filed
  appends : w.handle.Appends d

/-- **A step of a writer that was to add so many octets.** -/
structure Grew (w : Writer) (d : Disk) (octets : Nat) (s : Step) : Prop where
  steady : s.2.1.Steady s.2.2
  target : s.2.1.handle.target = w.handle.target
  touches : ∀ n, w.handle.target = .file n → Touches n d s.2.2
  least : ∀ n, w.handle.target = .file n → w.extent n d ≤ s.2.1.extent n s.2.2
  whole : s.1 = .ok () → ∀ n, w.handle.target = .file n →
    s.2.1.extent n s.2.2 = w.extent n d + octets

variable {w : Writer} {d : Disk} {k m : Nat} {s : Step}

/-- What goes through the handle of a writer, and what is left of it. -/
theorem Steady.writeAll (h : w.Steady d) (bytes : Octets) {e : Written} {hd : Handle} {d' : Disk}
    (he : w.handle.writeAll bytes d = (e, hd, d')) (pending : Octets) :
    Steady ⟨hd, pending⟩ d' ∧ hd.target = w.handle.target ∧
      ∀ n, w.handle.target = .file n → Touches n d d' ∧
        (d.octetsOf n).length ≤ (d'.octetsOf n).length ∧
        (d'.octetsOf n).length + e.rest.length = (d.octetsOf n).length + bytes.length := by
  obtain ⟨htarget, happ, hfiled, hwrote⟩ := h.appends.writeAll h.filed bytes
  rw [he] at htarget happ hfiled hwrote
  refine ⟨⟨hfiled, happ⟩, htarget, fun n hn => ?_⟩
  obtain ⟨-, htouch, front, hfront, hoct⟩ := hwrote n hn
  dsimp only at hfront hoct
  rw [hoct, ← hfront, List.length_append, List.length_append]
  exact ⟨htouch, Nat.le_add_right _ _, by omega⟩

/-- **A flush adds nothing and loses nothing**, whether it fails or not. -/
theorem grew_flush (h : w.Steady d) :
    Grew w d 0 (w.flush d) ∧ ∀ n, w.handle.target = .file n →
      (w.flush d).2.1.extent n (w.flush d).2.2 = w.extent n d := by
  rcases he : w.handle.writeAll w.pending d with ⟨e, hd, d'⟩
  obtain ⟨hsteady, htarget, hfile⟩ := h.writeAll w.pending he e.rest
  have hstep : (w.flush d).2 = (⟨hd, e.rest⟩, d') := by
    rw [flush, he]
    cases e <;> rfl
  have hsame : ∀ n, w.handle.target = .file n →
      (w.flush d).2.1.extent n (w.flush d).2.2 = w.extent n d := by
    intro n hn
    rw [hstep]
    exact (hfile n hn).2.2
  refine ⟨⟨?_, ?_, fun n hn => ?_, fun n hn => Nat.le_of_eq (hsame n hn).symm,
    fun _ n hn => hsame n hn⟩, hsame⟩
  · rw [hstep]
    exact hsteady
  · rw [hstep]
    exact htarget
  · rw [hstep]
    exact (hfile n hn).1

theorem grew_direct (h : w.Steady d) (bytes : Octets) :
    Grew w d bytes.length (w.direct bytes d) := by
  rcases he : w.handle.writeAll bytes d with ⟨e, hd, d'⟩
  obtain ⟨hsteady, htarget, hfile⟩ := h.writeAll bytes he w.pending
  have hstep : (w.direct bytes d).2 = ({ w with handle := hd }, d') := by
    rw [direct, he]
    cases e <;> rfl
  have hwhole : (w.direct bytes d).1 = .ok () → e = .all := by
    rw [direct, he]
    cases e with
    | all => exact fun _ => rfl
    | stalled rest | failed c rest =>
      intro hc
      cases hc
  refine ⟨?_, ?_, fun n hn => ?_, fun n hn => ?_, fun hok n hn => ?_⟩
  · rw [hstep]
    exact hsteady
  · rw [hstep]
    exact htarget
  · rw [hstep]
    exact (hfile n hn).1
  · rw [hstep]
    exact Nat.add_le_add_right (hfile n hn).2.1 _
  · have hlen := (hfile n hn).2.2
    rw [hwhole hok] at hlen
    rw [hstep]
    show (d'.octetsOf n).length + w.pending.length =
      (d.octetsOf n).length + w.pending.length + bytes.length
    have hzero : Written.all.rest.length = 0 := rfl
    omega

theorem grew_gather (h : w.Steady d) (bytes : Octets) :
    Grew w d bytes.length (.ok (), w.gather bytes, d) := by
  have hlen : ∀ n, (w.gather bytes).extent n d = w.extent n d + bytes.length := fun n => by
    show (d.octetsOf n).length + (w.pending ++ bytes).length = _
    rw [List.length_append, ← Nat.add_assoc]
    rfl
  exact ⟨⟨h.filed, h.appends⟩, rfl, fun n _ => .refl n d,
    fun n _ => hlen n ▸ Nat.le_add_right _ _, fun _ n _ => hlen n⟩

/-- A step that adds nothing, and one behind it. -/
theorem Grew.trans {w₁ : Writer} {d₁ : Disk} (h : Grew w d k (.ok (), w₁, d₁))
    (h' : Grew w₁ d₁ m s) : Grew w d (k + m) s where
  steady := h'.steady
  target := h'.target.trans h.target
  touches n hn := (h.touches n hn).trans (h'.touches n (h.target.trans hn))
  least n hn := Nat.le_trans (h.least n hn) (h'.least n (h.target.trans hn))
  whole hok n hn := by
    have hfirst := h.whole rfl n hn
    rw [h'.whole hok n (h.target.trans hn)]
    dsimp only at hfirst
    omega

/-- A step that failed was to add anything. -/
theorem Grew.failed {c : Cause} {w₁ : Writer} {d₁ : Disk} (h : Grew w d k (.error c, w₁, d₁)) :
    Grew w d m (.error c, w₁, d₁) :=
  ⟨h.steady, h.target, h.touches, h.least, fun hok => by cases hok⟩

theorem grew_gatherOrDirect (h : w.Steady d) (bytes : Octets) :
    Grew w d bytes.length (w.gatherOrDirect bytes d) := by
  unfold gatherOrDirect
  split
  · exact grew_direct h bytes
  · exact grew_gather h bytes

theorem grew_write (h : w.Steady d) (bytes : Octets) :
    Grew w d bytes.length (w.write bytes d) := by
  unfold write
  split
  · exact grew_gatherOrDirect h bytes
  · have hflush := (grew_flush h).1
    rcases hf : w.flush d with ⟨c | ⟨⟩, w₁, d₁⟩
    · rw [hf] at hflush
      exact hflush.failed
    · rw [hf] at hflush
      have hboth := hflush.trans (grew_gatherOrDirect hflush.steady bytes)
      rwa [Nat.zero_add] at hboth

/-- **Pieces add their octets**, and those that are written before one fails stay. -/
theorem grew_writePieces (h : w.Steady d) (pieces : List Octets) :
    Grew w d pieces.flatten.length (w.writePieces d pieces) := by
  induction pieces generalizing w d with
  | nil => exact ⟨h, rfl, fun n _ => .refl n d, fun n _ => Nat.le_refl _, fun _ n _ => rfl⟩
  | cons b bs ih =>
    have hfirst := grew_write h b
    rw [writePieces, List.flatten_cons, List.length_append]
    rcases hf : w.write b d with ⟨c | ⟨⟩, w₁, d₁⟩
    · rw [hf] at hfirst
      exact hfirst.failed
    · rw [hf] at hfirst
      exact hfirst.trans (ih hfirst.steady)

end Writer

end Logworks.Disk
