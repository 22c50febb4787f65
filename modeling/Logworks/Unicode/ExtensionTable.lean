import Logworks.Unicode.ScriptTable

/-!
# Script extensions

Some characters are used with several scripts. The table gives, for each script, the characters
used with it that belong to another one, or to `Common` or `Inherited`. A character of these two
that is used with named scripts no longer counts for them.
-/

namespace Logworks.Unicode

/-- The long name of a script and the ranges of the characters it borrows. -/
def borrowedTexts : List (String × List String) :=
  [("Adlam",
    ["61f 20 1a0e df1"]),
   ("Arabic",
    ["60c e 3 20 a+a 1a 19de df1 cefc+1 5a0+1b"]),
   ("Armenian",
    ["308"]),
   ("Avestan",
    ["b7 2d78+1"]),
   ("Bengali",
    ["2bc 694+1 11+1 136a 1 2+1 1 8 8 2 4 2+2 8bf9"]),
   ("Bopomofo",
    ["2c7 1+2 d 2d27+2 4+9 1+c a+3 2 6 c3 cd49+1 11a+4"]),
   ("Buginese",
    ["a9cf"]),
   ("Buhid",
    ["1735+1"]),
   ("Carian",
    ["b7 1fa2 2 dd3"]),
   ("Caucasian_Albanian",
    ["304 2c 2c"]),
   ("Chakma",
    ["9e6+9 650+9"]),
   ("Cherokee",
    ["300+2 1 6+1 16+1 b+1"]),
   ("Coptic",
    ["b7 248 3+1 1 6c+1 2aa1 d4c8+1b"]),
   ("Cypriot",
    ["10100+2 4+2c 3+8"]),
   ("Cypro_Minoan",
    ["10100+1"]),
   ("Cyrillic",
    ["2bc 43+2 1 1 1 2 5 173+1 1971 104a"]),
   ("Devanagari",
    ["2bc 694+1 11+1 136a+26 1+1 3f6 873f+9"]),
   ("Dogra",
    ["964+b 9ec0+9"]),
   ("Duployan",
    ["b7 24f+1 1 18+1 2b17 18e63+3"]),
   ("Elbasan",
    ["b7 24d"]),
   ("Ethiopic",
    ["30e"]),
   ("Garay",
    ["60c e 3"]),
   ("Georgian",
    ["b7 4d1 b71 f5e dd6"]),
   ("Glagolitic",
    ["b7 24b 1 17e 2 101 b71 f5e de8 782b"]),
   ("Gothic",
    ["b7 24c+1 2 28"]),
   ("Grantha",
    ["951+1 11+1 280+d 10dc 1+1 1e+2 3+1 3f6 f24a c94+1 1"]),
   ("Greek",
    ["b7 248+1 2 1 1 a 2e 2 2e 1a4b+1 29b"]),
   ("Gujarati",
    ["951+1 11+1 9eca+9"]),
   ("Gunjala_Gondi",
    ["b7 8ac+1"]),
   ("Gurmukhi",
    ["951+1 11+1 9eca+9"]),
   ("Gurung_Khema",
    ["965"]),
   ("Han",
    ["b7 2f38+f 1+2 2 1+9 1+c a+3 2 6 4+3 bb 94+f 20+25 9 30+27 38+30 f+b 33 58+18 a+4 60+1e",
     "7301+7 573d+1 11a+4 d3fa+11 1ede+1"]),
   ("Hangul",
    ["3001+2 4+9 1+c 10 6 c3 cd49+1 11a+4"]),
   ("Hanifi_Rohingya",
    ["60c e 3 20 93"]),
   ("Hanunoo",
    ["1735+1"]),
   ("Hebrew",
    ["307+1"]),
   ("Hiragana",
    ["3001+2 4+9 1+c 10+5 1 4+1 5b+3 3 5a+1 cd48+1 11a+4 a 2d+1"]),
   ("Javanese",
    ["a9cf"]),
   ("Kaithi",
    ["966+9 24c1 79fe+9"]),
   ("Kannada",
    ["951+1 11+1 136a 1+1 6 17 1 8b3b+5"]),
   ("Katakana",
    ["305 1d 2cdd+2 4+9 1+c 10+5 1 4+1 5b+3 3 5a+1 cd48+1 11a+4 a 2d+1"]),
   ("Kayah_Li",
    ["a92e"]),
   ("Khojki",
    ["ae6+9 9d40+9"]),
   ("Khudawadi",
    ["964+1 9eca+9"]),
   ("Latin",
    ["b7 204 a 1+2 1 9 1 26+e 1+1 1 f+2 7+1 1+1 26 5 4+c 115+1 4ca+1 7a8 cfc 236 c0 d26 78e8+7",
     "226"]),
   ("Limbu",
    ["965"]),
   ("Linear_A",
    ["10107+2c"]),
   ("Linear_B",
    ["10100+2 4+2c 3+8"]),
   ("Lisu",
    ["2bc 10 2d3c+1"]),
   ("Lycian",
    ["205a"]),
   ("Lydian",
    ["b7 2d79"]),
   ("Mahajani",
    ["b7 8ac+b 9ec0+9"]),
   ("Malayalam",
    ["951+1 11+1 1374 17 8b3d+2"]),
   ("Mandaic",
    ["640"]),
   ("Manichaean",
    ["640"]),
   ("Masaram_Gondi",
    ["964+1"]),
   ("Meroitic_Hieroglyphs",
    ["205d"]),
   ("Modi",
    ["a830+9"]),
   ("Mongolian",
    ["1802+1 1 829 fd1+1 5+3"]),
   ("Multani",
    ["a66+9"]),
   ("Myanmar",
    ["a92e"]),
   ("Nandinagari",
    ["951 12+1 380+9 ff9 8 7 8b35+5"]),
   ("Newa",
    ["951+1 1382 1+1 9 6 1 1"]),
   ("Nko",
    ["60c e 3 f71e+1"]),
   ("Ol_Onal",
    ["964+1"]),
   ("Old_Hungarian",
    ["205a 2 dd3 f"]),
   ("Old_Permic",
    ["b7 248 5+2 a 16f"]),
   ("Old_Turkic",
    ["205a dd5"]),
   ("Old_Uyghur",
    ["640 104b1"]),
   ("Oriya",
    ["951+1 11+1 1374 17"]),
   ("Osage",
    ["301 2 6 4c"]),
   ("Phags_Pa",
    ["1802+1 1 829 fd2"]),
   ("Psalter_Pahlavi",
    ["640"]),
   ("Runic",
    ["16eb+2"]),
   ("Samaritan",
    ["2e31"]),
   ("Sharada",
    ["951 1385 1 2+1 2 9 2 8b42+5 2"]),
   ("Shavian",
    ["b7"]),
   ("Sinhala",
    ["964+1 138c"]),
   ("Sogdian",
    ["640"]),
   ("Sunuwar",
    ["300+1 1 9 2 1c 3"]),
   ("Syloti_Nagri",
    ["964+1 80+9"]),
   ("Syriac",
    ["303+1 2+1 1 18+2 7+1 1+1 2da e+1 2 20 a+a 1a 1787 1"]),
   ("Tagalog",
    ["1735+1"]),
   ("Tagbanwa",
    ["1735+1"]),
   ("Tai_Le",
    ["300+1 5+1 3 d33+9"]),
   ("Takri",
    ["964+1 9eca+9"]),
   ("Tamil",
    ["951+1 11+1 1374 8c18 6a0d 1 37+1"]),
   ("Tangut",
    ["2ff0+f 1ef"]),
   ("Telugu",
    ["951+1 11+1 136f+1 1 1 17"]),
   ("Thaana",
    ["60c e+1 2 40+9 f788 a"]),
   ("Thai",
    ["2bc 1a 2b 2d"]),
   ("Tibetan",
    ["3008+3"]),
   ("Tifinagh",
    ["302 1 1+3 19"]),
   ("Tirhuta",
    ["951+1 11+1 136f c f 8b3d+9"]),
   ("Todhri",
    ["301 2 2 9 1 4a"]),
   ("Toto",
    ["2bc"]),
   ("Tulu_Tigalari",
    ["ce6+9 1002 1 8b3b+5 bb"]),
   ("Yezidi",
    ["60c e 3 40+9"]),
   ("Yi",
    ["3001+1 5+9 2+7 df ce65+4"])]

/-- All characters that some script borrows. -/
def borrowed : Ranges := .normal (borrowedTexts.flatMap fun b => Ranges.ofLines b.2)

/-- The characters of a script, given by its long name and its own ranges, with those it
borrows; `Common` and `Inherited` keep what no script borrows. -/
def extended (name : String) (own : Ranges) : Ranges :=
  if name == "Common" || name == "Inherited" then own.diff borrowed
  else own.union (.ofLines ((borrowedTexts.lookup name).getD []))

end Logworks.Unicode
