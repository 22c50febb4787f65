import Logworks.Disk.Path

/-!
# The slots of a rotating log

The history of a log lies beside it, one file a slot, numbered from 1 with the newest first: slot
1 of `app.log` is `app.1.log`, slot 1 of `app` is `app.1`. A slot may hold its file under a
suffix as well (`app.1.log.gz`).
-/

namespace Logworks.Rotation

open Logworks.Disk

/-- The name of a slot: the number stands before the extension. -/
def slotName (base : Path) (index : Nat) : List Char :=
  let stem := base.stem?.getD "log".toList
  let number := Nat.toDigits 10 index
  match base.extension? with
  | some ext => stem ++ '.' :: number ++ '.' :: ext
  | none => stem ++ '.' :: number

/-- The path of a slot, in the directory of the log itself. -/
def slot (base : Path) (index : Nat) : Path :=
  base.withName (slotName base index)

/-- The paths a slot's file may have: plain, then with each suffix. -/
def variants (suffixes : List String) (p : Path) : List Path :=
  p :: suffixes.map p.withSuffix

example : (slot (.ofString "/var/log/app.log") 12).toString = "/var/log/app.12.log" := by
  decide +kernel

example : (slot (.ofString "dir/..") 1).toString = "dir/../log.1" := by decide +kernel

end Logworks.Rotation
