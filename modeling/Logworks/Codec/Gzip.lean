import Logworks.Codec.Words

/-!
# Gzip files

A gzip file is a head, a row of blocks of which the last says so, a checksum and a length. The
blocks written here hold their octets as they are. This file fixes

* `Gzip.encode` -- the file of some octets;
* `Gzip.decode?` -- the octets of a file made of such blocks.
-/

namespace Logworks.Codec.Gzip

open Logworks.Text

/-- The head: the mark of the format, the method, no flags, no time, no system. -/
def head : Octets := [0x1F, 0x8B, 8, 0, 0, 0, 0, 0, 0, 0xFF]

/-- The most octets of a block. -/
def blockRoom : Nat := 65535

/-- One block; `last` tells that none comes behind it. -/
def block (last : Bool) (bytes : Octets) : Octets :=
  (if last then 1 else 0) :: littleEndian 2 bytes.length ++
    littleEndian 2 (blockRoom - bytes.length) ++ bytes

def blocks (bytes : Octets) : Octets :=
  if bytes.length ≤ blockRoom then block true bytes
  else block false (bytes.take blockRoom) ++ blocks (bytes.drop blockRoom)
termination_by bytes.length
decreasing_by simp_all [blockRoom]; omega

def encode (bytes : Octets) : Octets :=
  head ++ blocks bytes ++ littleEndian 4 (checksum bytes) ++ littleEndian 4 bytes.length

/-- The octets of a row of blocks, and what comes behind them. -/
def decodeBlocks? : Octets → Option (Octets × Octets)
  | kind :: a :: b :: c :: e :: rest =>
    let size := ofLittleEndian [a, b]
    if ofLittleEndian [c, e] != blockRoom - size || rest.length < size then none
    else if kind = 1 then some (rest.take size, rest.drop size)
    else if kind = 0 then
      (decodeBlocks? (rest.drop size)).map fun p => (rest.take size ++ p.1, p.2)
    else none
  | _ => none
termination_by bytes => bytes.length
decreasing_by simp; omega

def decode? (file : Octets) : Option Octets :=
  if file.take head.length != head then none
  else match decodeBlocks? (file.drop head.length) with
    | none => none
    | some (bytes, tail) =>
      if tail == littleEndian 4 (checksum bytes) ++ littleEndian 4 bytes.length then some bytes
      else none

end Logworks.Codec.Gzip
