import SwimSets.Text.Ascii

/-!
# The spellings of the program

A table of the characters that are met with in training plans and their spellings, and the way of
spelling that it makes up (`Speller.known`).

**Spelling a character** (`knownSpelling`). A printable ASCII character spells itself, a full-width
form spells the character that it is a form of, a control character spells nothing, and for all
others the table is asked.

**Words that end in a space** (`closeUp`). The last space of a longer spelling is left out where
another one or the end of the text follows.
-/

namespace SwimSets

/-- The spellings of characters beyond ASCII. -/
def spellings : List (Nat × String) := [
  (0xA0, " "), (0xA1, "!"), (0xA2, "C/"), (0xA3, "PS"), (0xA4, "$?"), (0xA5, "Y="), (0xA6, "|"),
  (0xA7, "SS"), (0xA8, "\""), (0xA9, "(c)"), (0xAA, "a"), (0xAB, "<<"), (0xAC, "!"), (0xAD, ""),
  (0xAE, "(r)"), (0xAF, "-"), (0xB0, "deg"), (0xB1, "+-"), (0xB2, "2"), (0xB3, "3"), (0xB4, "'"),
  (0xB5, "u"), (0xB6, "P"), (0xB7, "*"), (0xB8, ","), (0xB9, "1"), (0xBA, "o"), (0xBB, ">>"),
  (0xBC, "1/4"), (0xBD, "1/2"), (0xBE, "3/4"), (0xBF, "?"), (0xC0, "A"), (0xC1, "A"), (0xC2, "A"),
  (0xC3, "A"), (0xC4, "A"), (0xC5, "A"), (0xC6, "AE"), (0xC7, "C"), (0xC8, "E"), (0xC9, "E"),
  (0xCA, "E"), (0xCB, "E"), (0xCC, "I"), (0xCD, "I"), (0xCE, "I"), (0xCF, "I"), (0xD0, "D"),
  (0xD1, "N"), (0xD2, "O"), (0xD3, "O"), (0xD4, "O"), (0xD5, "O"), (0xD6, "O"), (0xD7, "x"),
  (0xD8, "O"), (0xD9, "U"), (0xDA, "U"), (0xDB, "U"), (0xDC, "U"), (0xDD, "Y"), (0xDE, "Th"),
  (0xDF, "ss"), (0xE0, "a"), (0xE1, "a"), (0xE2, "a"), (0xE3, "a"), (0xE4, "a"), (0xE5, "a"),
  (0xE6, "ae"), (0xE7, "c"), (0xE8, "e"), (0xE9, "e"), (0xEA, "e"), (0xEB, "e"), (0xEC, "i"),
  (0xED, "i"), (0xEE, "i"), (0xEF, "i"), (0xF0, "d"), (0xF1, "n"), (0xF2, "o"), (0xF3, "o"),
  (0xF4, "o"), (0xF5, "o"), (0xF6, "o"), (0xF7, "/"), (0xF8, "o"), (0xF9, "u"), (0xFA, "u"),
  (0xFB, "u"), (0xFC, "u"), (0xFD, "y"), (0xFE, "th"), (0xFF, "y"), (0x100, "A"), (0x101, "a"),
  (0x102, "A"), (0x103, "a"), (0x104, "A"), (0x105, "a"), (0x106, "C"), (0x107, "c"), (0x108, "C"),
  (0x109, "c"), (0x10A, "C"), (0x10B, "c"), (0x10C, "C"), (0x10D, "c"), (0x10E, "D"), (0x10F, "d"),
  (0x110, "D"), (0x111, "d"), (0x112, "E"), (0x113, "e"), (0x114, "E"), (0x115, "e"), (0x116, "E"),
  (0x117, "e"), (0x118, "E"), (0x119, "e"), (0x11A, "E"), (0x11B, "e"), (0x11C, "G"), (0x11D, "g"),
  (0x11E, "G"), (0x11F, "g"), (0x120, "G"), (0x121, "g"), (0x122, "G"), (0x123, "g"), (0x124, "H"),
  (0x125, "h"), (0x126, "H"), (0x127, "h"), (0x128, "I"), (0x129, "i"), (0x12A, "I"), (0x12B, "i"),
  (0x12C, "I"), (0x12D, "i"), (0x12E, "I"), (0x12F, "i"), (0x130, "I"), (0x131, "i"), (0x132, "IJ"),
  (0x133, "ij"), (0x134, "J"), (0x135, "j"), (0x136, "K"), (0x137, "k"), (0x138, "k"), (0x139, "L"),
  (0x13A, "l"), (0x13B, "L"), (0x13C, "l"), (0x13D, "L"), (0x13E, "l"), (0x13F, "L"), (0x140, "l"),
  (0x141, "L"), (0x142, "l"), (0x143, "N"), (0x144, "n"), (0x145, "N"), (0x146, "n"), (0x147, "N"),
  (0x148, "n"), (0x149, "'n"), (0x14A, "ng"), (0x14B, "NG"), (0x14C, "O"), (0x14D, "o"),
  (0x14E, "O"), (0x14F, "o"), (0x150, "O"), (0x151, "o"), (0x152, "OE"), (0x153, "oe"),
  (0x154, "R"), (0x155, "r"), (0x156, "R"), (0x157, "r"), (0x158, "R"), (0x159, "r"), (0x15A, "S"),
  (0x15B, "s"), (0x15C, "S"), (0x15D, "s"), (0x15E, "S"), (0x15F, "s"), (0x160, "S"), (0x161, "s"),
  (0x162, "T"), (0x163, "t"), (0x164, "T"), (0x165, "t"), (0x166, "T"), (0x167, "t"), (0x168, "U"),
  (0x169, "u"), (0x16A, "U"), (0x16B, "u"), (0x16C, "U"), (0x16D, "u"), (0x16E, "U"), (0x16F, "u"),
  (0x170, "U"), (0x171, "u"), (0x172, "U"), (0x173, "u"), (0x174, "W"), (0x175, "w"), (0x176, "Y"),
  (0x177, "y"), (0x178, "Y"), (0x179, "Z"), (0x17A, "z"), (0x17B, "Z"), (0x17C, "z"), (0x17D, "Z"),
  (0x17E, "z"), (0x17F, "s"), (0x301, ""), (0x386, "A"), (0x388, "E"), (0x389, "E"), (0x38A, "I"),
  (0x38C, "O"), (0x38E, "U"), (0x38F, "O"), (0x390, "I"), (0x391, "A"), (0x392, "B"), (0x393, "G"),
  (0x394, "D"), (0x395, "E"), (0x396, "Z"), (0x397, "E"), (0x398, "Th"), (0x399, "I"), (0x39A, "K"),
  (0x39B, "L"), (0x39C, "M"), (0x39D, "N"), (0x39E, "X"), (0x39F, "O"), (0x3A0, "P"), (0x3A1, "R"),
  (0x3A3, "S"), (0x3A4, "T"), (0x3A5, "U"), (0x3A6, "Ph"), (0x3A7, "Kh"), (0x3A8, "Ps"),
  (0x3A9, "O"), (0x3AA, "I"), (0x3AB, "U"), (0x3AC, "a"), (0x3AD, "e"), (0x3AE, "e"), (0x3AF, "i"),
  (0x3B0, "u"), (0x3B1, "a"), (0x3B2, "b"), (0x3B3, "g"), (0x3B4, "d"), (0x3B5, "e"), (0x3B6, "z"),
  (0x3B7, "e"), (0x3B8, "th"), (0x3B9, "i"), (0x3BA, "k"), (0x3BB, "l"), (0x3BC, "m"), (0x3BD, "n"),
  (0x3BE, "x"), (0x3BF, "o"), (0x3C0, "p"), (0x3C1, "r"), (0x3C2, "s"), (0x3C3, "s"), (0x3C4, "t"),
  (0x3C5, "u"), (0x3C6, "ph"), (0x3C7, "kh"), (0x3C8, "ps"), (0x3C9, "o"), (0x3CA, "i"),
  (0x3CB, "u"), (0x3CC, "o"), (0x3CD, "u"), (0x3CE, "o"), (0x401, "Io"), (0x410, "A"), (0x411, "B"),
  (0x412, "V"), (0x413, "G"), (0x414, "D"), (0x415, "E"), (0x416, "Zh"), (0x417, "Z"), (0x418, "I"),
  (0x419, "I"), (0x41A, "K"), (0x41B, "L"), (0x41C, "M"), (0x41D, "N"), (0x41E, "O"), (0x41F, "P"),
  (0x420, "R"), (0x421, "S"), (0x422, "T"), (0x423, "U"), (0x424, "F"), (0x425, "Kh"),
  (0x426, "Ts"), (0x427, "Ch"), (0x428, "Sh"), (0x429, "Shch"), (0x42A, "'"), (0x42B, "Y"),
  (0x42C, "'"), (0x42D, "E"), (0x42E, "Iu"), (0x42F, "Ia"), (0x430, "a"), (0x431, "b"),
  (0x432, "v"), (0x433, "g"), (0x434, "d"), (0x435, "e"), (0x436, "zh"), (0x437, "z"), (0x438, "i"),
  (0x439, "i"), (0x43A, "k"), (0x43B, "l"), (0x43C, "m"), (0x43D, "n"), (0x43E, "o"), (0x43F, "p"),
  (0x440, "r"), (0x441, "s"), (0x442, "t"), (0x443, "u"), (0x444, "f"), (0x445, "kh"),
  (0x446, "ts"), (0x447, "ch"), (0x448, "sh"), (0x449, "shch"), (0x44A, "'"), (0x44B, "y"),
  (0x44C, "'"), (0x44D, "e"), (0x44E, "iu"), (0x44F, "ia"), (0x451, "io"), (0x5D0, "'"),
  (0x5D1, "b"), (0x627, ""), (0x628, "b"), (0x62D, "H"), (0x631, "r"), (0x645, "m"), (0x660, "0"),
  (0x661, "1"), (0x800, "'"), (0x1100, "g"), (0x1161, "a"), (0x11A8, "g"), (0x1680, " "),
  (0x1D3F, "R"), (0x2000, " "), (0x2001, " "), (0x2002, " "), (0x2003, " "), (0x2004, " "),
  (0x2005, " "), (0x2006, " "), (0x2007, " "), (0x2008, " "), (0x2009, " "), (0x200A, " "),
  (0x200B, " "), (0x200C, ""), (0x200D, ""), (0x200E, ""), (0x200F, ""), (0x2010, "-"),
  (0x2011, "-"), (0x2012, "-"), (0x2013, "-"), (0x2014, "--"), (0x2015, "--"), (0x2016, "||"),
  (0x2017, "_"), (0x2018, "'"), (0x2019, "'"), (0x201A, ","), (0x201B, "'"), (0x201C, "\""),
  (0x201D, "\""), (0x201E, ",,"), (0x201F, "\""), (0x2020, "+"), (0x2021, "++"), (0x2022, "*"),
  (0x2023, "*>"), (0x2024, "."), (0x2025, ".."), (0x2026, "..."), (0x2027, "."), (0x2028, "\n"),
  (0x2029, "\n\n"), (0x202A, ""), (0x202B, ""), (0x202C, ""), (0x202D, ""), (0x202E, ""),
  (0x202F, " "), (0x2030, "%0"), (0x2032, "'"), (0x2033, "''"), (0x2039, "<"), (0x203A, ">"),
  (0x2044, "/"), (0x205F, " "), (0x2070, "0"), (0x2074, "4"), (0x2075, "5"), (0x2076, "6"),
  (0x2077, "7"), (0x2078, "8"), (0x2079, "9"), (0x2080, "0"), (0x2081, "1"), (0x2082, "2"),
  (0x2083, "3"), (0x2084, "4"), (0x2085, "5"), (0x2086, "6"), (0x2087, "7"), (0x2088, "8"),
  (0x2089, "9"), (0x20AC, "EUR"), (0x2116, "No"), (0x2122, "tm"), (0x2153, "1/3"), (0x2154, "2/3"),
  (0x2155, "1/5"), (0x2156, "2/5"), (0x2157, "3/5"), (0x2158, "4/5"), (0x2159, "1/6"),
  (0x215A, "5/6"), (0x215B, "1/8"), (0x215C, "3/8"), (0x215D, "5/8"), (0x215E, "7/8"),
  (0x2160, "I"), (0x2161, "II"), (0x2162, "III"), (0x2163, "IV"), (0x2164, "V"), (0x2165, "VI"),
  (0x2166, "VII"), (0x2167, "VIII"), (0x2168, "IX"), (0x2169, "X"), (0x216A, "XI"), (0x216B, "XII"),
  (0x216C, "L"), (0x216D, "C"), (0x216E, "D"), (0x216F, "M"), (0x2170, "i"), (0x2171, "ii"),
  (0x2172, "iii"), (0x2173, "iv"), (0x2174, "v"), (0x2175, "vi"), (0x2176, "vii"), (0x2177, "viii"),
  (0x2178, "ix"), (0x2179, "x"), (0x217A, "xi"), (0x217B, "xii"), (0x217C, "l"), (0x217D, "c"),
  (0x217E, "d"), (0x217F, "m"), (0x2192, "-"), (0x2212, "-"), (0x2215, "/"), (0x2220, "<"),
  (0x2460, "1"), (0x2461, "2"), (0x2462, "3"), (0x2463, "4"), (0x2464, "5"), (0x2465, "6"),
  (0x2466, "7"), (0x2467, "8"), (0x2468, "9"), (0x2469, "10"), (0x246A, "11"), (0x246B, "12"),
  (0x246C, "13"), (0x246D, "14"), (0x246E, "15"), (0x246F, "16"), (0x2470, "17"), (0x2471, "18"),
  (0x2472, "19"), (0x2473, "20"), (0x2500, "-"), (0x2501, "-"), (0x2603, "snowman "),
  (0x26A0, "warning "), (0x2715, "X"), (0x2764, "heart"), (0x2A09, "X"), (0x3000, " "),
  (0x3001, ", "), (0x304B, "ka"), (0x306A, "na"), (0x30AB, "ka"), (0x30B9, "su"), (0x30C6, "te"),
  (0x30C8, "to"), (0x30CA, "na"), (0x30FC, ""), (0x339C, "mm"), (0x339D, "cm"), (0x339E, "km"),
  (0x33A1, "m^2"), (0x4EAC, "Jing "), (0x5317, "Bei "), (0x65E5, "Ri "), (0x672C, "Ben "),
  (0x7531, "You "), (0x7C73, "Mi "), (0x81EA, "Zi "), (0x8A9E, "Yu "), (0xAD6D, "gug"),
  (0xC5B4, "eo"), (0xD55C, "han"), (0xFB00, "ff"), (0xFB01, "fi"), (0xFB02, "fl"), (0xFB03, "ffi"),
  (0xFB04, "ffl"), (0xFB05, "st"), (0xFB06, "st"), (0xFE0F, ""), (0xFEFF, ""), (0xFF71, "a"),
  (0xFF72, "i"), (0xFF73, "u"), (0xFF74, "e"), (0xFFFD, "?"), (0x1F3CA, "swimmer "), (0x1F3FD, ""),
  (0x1F44D, "+1 "), (0x1F467, "girl "), (0x1F468, "man "), (0x1F469, "woman "), (0x1F4AA, "muscle ")
]

/-- How the character is spelled, where that is known. -/
def knownSpelling (c : Char) : Option Text :=
  let n := c.toNat
  if isControl c then some []
  else if n < 127 then some [c]
  else if 0xFF01 ≤ n && n ≤ 0xFF5E then some [Char.ofNat (n - 0xFEE0)]
  else (spellings.lookup n).map String.toList

/-- What is written of a spelling: a last space of a longer one is dropped at the end of the text
and before a spelling that starts with a space. -/
def closeUp (ends : Bool) (s : Text) : Text :=
  if 1 < s.length && s.getLast? == some ' ' && ends then s.dropLast else s

/-- All known spellings are plain. -/
theorem knownSpelling_plain {c : Char} {s : Text} (h : knownSpelling c = some s) :
    ∀ d ∈ s, isPlain d = true := by
  unfold knownSpelling at h
  simp only at h
  split at h
  · cases h
    exact List.forall_mem_nil _
  split at h
  case isTrue hplain =>
    cases h
    exact List.forall_mem_singleton.2 (decide_eq_true hplain)
  split at h
  case isTrue hwide =>
    cases h
    simp only [Bool.and_eq_true, decide_eq_true_eq] at hwide
    have hall : (List.range' 0xFF01 94).all fun n => isPlain (Char.ofNat (n - 0xFEE0)) := by
      decide +kernel
    exact List.forall_mem_singleton.2
      (List.all_eq_true.1 hall c.toNat (List.mem_range'_1.2 (by omega)))
  · obtain ⟨w, hw, rfl⟩ := Option.map_eq_some_iff.1 h
    obtain ⟨l₁, l₂, hl, -⟩ := List.lookup_eq_some_iff.1 hw
    have hall : spellings.all fun e => e.2.toList.all isPlain := by decide +kernel
    exact List.all_eq_true.1 (List.all_eq_true.1 hall (c.toNat, w) (hl ▸ by simp))

theorem knownSpelling_printable {c : Char} (hlow : 32 ≤ c.toNat) (hhigh : c.toNat < 127) :
    knownSpelling c = some [c] := by
  have hcontrol : isControl c = false := by
    simp only [isControl, Bool.or_eq_false_iff, Bool.and_eq_false_iff, decide_eq_false_iff_not]
    omega
  simp [knownSpelling, hcontrol, hhigh]

theorem knownSpelling_letter {c : Char} (h : isAsciiLetter c = true) :
    knownSpelling c = some [c] := by
  simp only [isAsciiLetter, Bool.or_eq_true, Bool.and_eq_true, decide_eq_true_eq] at h
  rcases h with ⟨hlow, hhigh⟩ | ⟨hlow, hhigh⟩ <;>
    exact knownSpelling_printable (Nat.le_trans (by decide) (UInt32.le_iff_toNat_le.1 hlow))
      (Nat.lt_of_le_of_lt (UInt32.le_iff_toNat_le.1 hhigh) (by decide))

/-- The way of spelling of the program. -/
instance Speller.known : Speller where
  spelling := knownSpelling
  close := closeUp
  spelling_plain := knownSpelling_plain
  spelling_letter := knownSpelling_letter
  close_eq b s := by
    unfold closeUp
    by_cases h : (1 < s.length && s.getLast? == some ' ' && b) = true
    · rw [if_pos h]
      simp only [Bool.and_eq_true, beq_iff_eq] at h
      obtain ⟨u, rfl⟩ := List.getLast?_eq_some_iff.1 h.1.2
      exact .inr (by rw [List.dropLast_concat])
    · exact .inl (if_neg h)

instance : Speller.KeepsAscii where
  spelling_printable := knownSpelling_printable
  spelling_control {c} h := by
    have hcontrol : isControl c = true := by
      simp only [isControl, Bool.or_eq_true, Bool.and_eq_true, decide_eq_true_eq]
      omega
    exact if_pos hcontrol
  close_singleton _ _ := rfl

end SwimSets
