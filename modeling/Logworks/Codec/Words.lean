import Logworks.Text.Octets

/-!
# Numbers in octets, and a checksum

A number is written with its lowest octet first. The checksum of thirty-two bits is the remainder
of the octets, read as a polynomial from its lowest bit on, with all bits turned at both ends.
-/

namespace Logworks.Codec

open Logworks.Text

/-- A number in so many octets, the lowest first. -/
def littleEndian : Nat → Nat → Octets
  | 0, _ => []
  | places + 1, n => UInt8.ofNat n :: littleEndian places (n / 256)

/-- The number some octets stand for. -/
def ofLittleEndian : Octets → Nat
  | [] => 0
  | b :: bs => b.toNat + 256 * ofLittleEndian bs

@[simp] theorem length_littleEndian (places n : Nat) : (littleEndian places n).length = places := by
  induction places generalizing n with
  | zero => rfl
  | succ k ih => simp [littleEndian, ih]

theorem ofLittleEndian_littleEndian (places n : Nat) :
    ofLittleEndian (littleEndian places n) = n % Nat.pow 256 places := by
  induction places generalizing n with
  | zero => simp [littleEndian, ofLittleEndian, Nat.mod_one]
  | succ k ih =>
    simp only [littleEndian, ofLittleEndian, ih, Nat.pow_eq, Nat.pow_succ]
    rw [Nat.mul_comm (256 ^ k) 256, Nat.mod_mul]
    simp

/-! ## The checksum -/

/-- The polynomial, its lowest power in the highest bit. -/
def polynomial : UInt32 := 0xEDB88320

/-- Divides by one more power. -/
def reduce (c : UInt32) : UInt32 :=
  if c &&& 1 = 1 then (c >>> 1) ^^^ polynomial else c >>> 1

def checkOctet (c : UInt32) (b : UInt8) : UInt32 :=
  (List.range 8).foldl (fun c _ => reduce c) (c ^^^ b.toUInt32)

def checksum (bytes : Octets) : Nat :=
  ((bytes.foldl checkOctet 0xFFFFFFFF) ^^^ 0xFFFFFFFF).toNat

end Logworks.Codec
