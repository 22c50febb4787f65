import Logworks.Codec.Words

/-!
# Zstandard files

A Zstandard file is a mark, a head and a row of blocks of which the last says so. The blocks
written here hold their octets as they are. This file fixes

* `Zstd.encode` -- the file of some octets;
* `Zstd.decode?` -- the octets of a file made of such blocks.
-/

namespace Logworks.Codec.Zstd

open Logworks.Text

/-- The mark of the format; a head without flags; a window of as much as a block may hold. -/
def head : Octets := [0x28, 0xB5, 0x2F, 0xFD, 0, 0x38]

/-- The most octets of a block. -/
def blockRoom : Nat := 131072

/-- One block: three octets hold the size, the kind and whether it is the last. -/
def block (last : Bool) (bytes : Octets) : Octets :=
  littleEndian 3 (8 * bytes.length + if last then 1 else 0) ++ bytes

def blocks (bytes : Octets) : Octets :=
  if bytes.length ≤ blockRoom then block true bytes
  else block false (bytes.take blockRoom) ++ blocks (bytes.drop blockRoom)
termination_by bytes.length
decreasing_by simp_all [blockRoom]; omega

def encode (bytes : Octets) : Octets := head ++ blocks bytes

/-- The octets of a row of blocks behind which nothing comes. -/
def decodeBlocks? : Octets → Option Octets
  | a :: b :: c :: rest =>
    let word := ofLittleEndian [a, b, c]
    let size := word / 8
    if rest.length < size then none
    else if word % 8 = 1 then
      if (rest.drop size).isEmpty then some rest else none
    else if word % 8 = 0 then
      (decodeBlocks? (rest.drop size)).map fun bytes => rest.take size ++ bytes
    else none
  | _ => none
termination_by bytes => bytes.length
decreasing_by
  simp only [List.length_drop, List.length_cons]
  omega

def decode? (file : Octets) : Option Octets :=
  if file.take head.length != head then none else decodeBlocks? (file.drop head.length)

end Logworks.Codec.Zstd
