import LittleMan.Text.Extender

/-! The number of columns a character takes on a terminal, after Unicode 18. -/

namespace LittleMan.Text

private def wideChangesA : List Nat :=
  [
    0x1100, 0x1160, 0x231a, 0x231c, 0x2329, 0x232b, 0x23e9, 0x23ed, 0x23f0, 0x23f1, 0x23f3, 0x23f4,
    0x25fd, 0x25ff, 0x2614, 0x2616, 0x2630, 0x2638, 0x2648, 0x2654, 0x267f, 0x2680, 0x268a, 0x2690,
    0x2693, 0x2694, 0x26a1, 0x26a2, 0x26aa, 0x26ac, 0x26bd, 0x26bf, 0x26c4, 0x26c6, 0x26ce, 0x26cf,
    0x26d4, 0x26d5, 0x26ea, 0x26eb, 0x26f2, 0x26f4, 0x26f5, 0x26f6, 0x26fa, 0x26fb, 0x26fd, 0x26fe,
    0x2705, 0x2706, 0x270a, 0x270c, 0x2728, 0x2729, 0x274c, 0x274d, 0x274e, 0x274f, 0x2753, 0x2756,
    0x2757, 0x2758, 0x2795, 0x2798, 0x27b0, 0x27b1, 0x27bf, 0x27c0, 0x2b1b, 0x2b1d, 0x2b50, 0x2b51,
    0x2b55, 0x2b56, 0x2e80, 0x2e9a, 0x2e9b, 0x2ef4, 0x2f00, 0x2fd6, 0x2ff0, 0x303f, 0x3041, 0x3097,
    0x3099, 0x3100, 0x3105, 0x3130, 0x3131, 0x318f, 0x3190, 0x31e6, 0x31ef, 0x321f, 0x3220, 0x3248,
    0x3250, 0xa48d, 0xa490, 0xa4c7, 0xa960, 0xa97d, 0xac00, 0xd7a4, 0xf900, 0xfb00, 0xfe10, 0xfe1a,
    0xfe30, 0xfe53, 0xfe54, 0xfe67, 0xfe68, 0xfe6c, 0xff01, 0xff61, 0xffe0, 0xffe7, 0x16fe0,
    0x16fe5, 0x16ff0, 0x16ff7, 0x17000, 0x18cdb, 0x18cff, 0x18d21, 0x18d80, 0x18df3, 0x18e00,
    0x19192, 0x191a0, 0x191d3, 0x1aff0, 0x1aff4, 0x1aff5, 0x1affc, 0x1affd, 0x1afff, 0x1b000,
    0x1b129, 0x1b132, 0x1b133, 0x1b150, 0x1b153, 0x1b155, 0x1b156, 0x1b164, 0x1b169, 0x1b170,
    0x1b2fc, 0x1d300, 0x1d357, 0x1d360, 0x1d377, 0x1f004, 0x1f005, 0x1f0cf, 0x1f0d0, 0x1f18e,
    0x1f18f, 0x1f191, 0x1f19b, 0x1f1ae, 0x1f1af, 0x1f200, 0x1f203, 0x1f210, 0x1f23c, 0x1f240,
    0x1f249, 0x1f250, 0x1f252, 0x1f260, 0x1f266, 0x1f300, 0x1f321, 0x1f32d, 0x1f336, 0x1f337,
    0x1f37d, 0x1f37e, 0x1f394, 0x1f3a0, 0x1f3cb, 0x1f3cf, 0x1f3d4, 0x1f3e0, 0x1f3f1, 0x1f3f4,
    0x1f3f5, 0x1f3f8, 0x1f43f, 0x1f440, 0x1f441, 0x1f442, 0x1f4fd, 0x1f4ff, 0x1f53e, 0x1f54b,
    0x1f54f, 0x1f550, 0x1f568, 0x1f57a, 0x1f57b, 0x1f595, 0x1f597, 0x1f5a4, 0x1f5a5, 0x1f5fb,
    0x1f650, 0x1f680, 0x1f6c6, 0x1f6cc, 0x1f6cd, 0x1f6d0, 0x1f6d3, 0x1f6d5, 0x1f6da, 0x1f6dc,
    0x1f6e0, 0x1f6eb, 0x1f6ed, 0x1f6f4, 0x1f6fd, 0x1f7da, 0x1f7db, 0x1f7e0, 0x1f7ec, 0x1f7f0,
    0x1f7f1, 0x1f90c, 0x1f93b, 0x1f93c, 0x1f946, 0x1f947, 0x1fa00, 0x1fa70, 0x1fa7d, 0x1fa80,
    0x1fac7, 0x1fac8, 0x1fac9, 0x1facc, 0x1fade, 0x1fadf, 0x1faec, 0x1faef, 0x1fafb, 0x20000,
    0x2fffe]

private def wideChangesB : List Nat :=
  [
    0x30000, 0x3fffe]

/-- Where the code points that are wide or full-width in East Asian text begin and end. -/
def wideChanges : List Nat :=
  wideChangesA ++ wideChangesB

/-- The vowels and the final consonants that complete a Hangul syllable. -/
def completesSyllable (c : Char) : Bool :=
  holdsAt [0x1160, 0x1200, 0xd7b0, 0xd7c7, 0xd7cb, 0xd7fc] c.toNat

/-- Where the marks begin and end that are drawn on the characters after them, and the
caret that is drawn between two characters. -/
def overlayChanges : List Nat :=
  [
    0x605, 0x606, 0x70f, 0x710, 0x890, 0x892, 0x8e2, 0x8e3, 0xd4e, 0xd4f, 0xa8fa, 0xa8fb,
    0x111c2, 0x111c4, 0x113d1, 0x113d2, 0x1193f, 0x11940, 0x11941, 0x11942, 0x11a84, 0x11a8a,
    0x11d46, 0x11d47, 0x11f02, 0x11f03]

/-- Whether a character is drawn without a column of its own. -/
def hasNoColumn (c : Char) : Bool :=
  isIgnorable c || joinsPrevious c || completesSyllable c || holdsAt overlayChanges c.toNat

def isControl (c : Char) : Bool := holdsAt [0, 0x20, 0x7f, 0xa0] c.toNat

/-- The columns of one character. A few are wider than their kind: the filler that opens
a Hangul syllable, two Khmer signs, and the joiner of Tifinagh consonants. -/
def columns (c : Char) : Nat :=
  if isControl c then 0
  else if c.toNat = 0x115f ∨ c.toNat = 0x17a4 then 2
  else if c.toNat = 0x17d8 then 3
  else if c.toNat = 0x2d7f then 1
  else if hasNoColumn c then 0
  else if holdsAt wideChanges c.toNat then 2
  else 1

end LittleMan.Text
