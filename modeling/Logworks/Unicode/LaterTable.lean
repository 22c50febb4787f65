import Logworks.Unicode.Ranges

/-!
# Characters of version 17

The other tables hold version 16 of the standard, the one sets in expressions are read by. Names
of groups and quoted texts go by version 17; this table gives the characters it added.
-/

namespace Logworks.Unicode

/-- All characters added by version 17. -/
def addedLater : Ranges := .ofLines
  ["88f 3cc 7f df2+e 2+b 5d5 ad4 7c37+1 2 1 1c 53d1+f 1bd+1 36+6 b71+19 56b+2 8+8 21+1 c64+7",
     "248+2b 4+9 50b6+18 2+18 11e+4 1801+7 509+15 61+72 3f07+2 1bd+16 f+10 17cf+1e 1+15 8+1",
     "fd8 9e+3 155+8 17b+3 32 3 39 4 1c 4 10a bb3f+5 1762+b 5502+10c9"]

/-- Those of them that are alphabetic. -/
def alphabeticLater : Ranges := .ofLines
  ["88f 3cc 7f 9af1+1 2 1 1c 614e+19 56b+2 32+1 c64+7 248+2b 50c4+18 2+18 11e+4 1801+7",
     "509+15 61+72 58cd+1e 1+15 8+1 d03a+5 1762+b 5502+10c9"]

/-- Those of them that are numbers. -/
def numberLater : Ranges := .ofLines
  ["11de0+9 520a+2"]

/-- Those of them that extend the character before them. -/
def extendLater : Ranges := .ofLines
  ["1acf+e 2+b f40e+1 c64 1+2 1 cb7c 2 7+1 5"]

end Logworks.Unicode
