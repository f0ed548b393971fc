/-
Joiners in host names.

Two characters without a shape of their own tell whether letters around them are
joined. They may stand where that makes a difference only: behind a mark that takes
away the vowel of a letter, and the one that keeps letters apart also between letters
that would be joined otherwise. The classes of characters are those of Unicode 17.
-/
import CallExplorer.Uri.Writing

namespace CallExplorer.Uri.HostName

/-- The marks that take away the vowel of the letter in front. -/
def vowelKillers : List Nat := [
  0x94D, 0x9CD, 0xA4D, 0xACD, 0xB4D, 0xBCD, 0xC4D, 0xCCD, 0xD3B, 0xD3C, 0xD4D, 0xDCA, 0xE3A, 0xEBA,
  0xF84, 0x1039, 0x103A, 0x1714, 0x1715, 0x1734, 0x17D2, 0x1A60, 0x1B44, 0x1BAA, 0x1BAB, 0x1BF2,
  0x1BF3, 0x2D7F, 0xA806, 0xA82C, 0xA8C4, 0xA953, 0xA9C0, 0xAAF6, 0xABED, 0x10A3F, 0x11046,
  0x11070, 0x1107F, 0x110B9, 0x11133, 0x11134, 0x111C0, 0x11235, 0x112EA, 0x1134D, 0x113CE,
  0x113CF, 0x113D0, 0x11442, 0x114C2, 0x115BF, 0x1163F, 0x116B6, 0x1172B, 0x11839, 0x1193D,
  0x1193E, 0x119E0, 0x11A34, 0x11A47, 0x11A99, 0x11C3F, 0x11D44, 0x11D45, 0x11D97, 0x11F41,
  0x11F42, 0x1612F]

/-- The letters that are joined with the one behind, among the characters that are no marks
without space of their own. -/
def joinsNextSet : Text.CharSet := ⟨[
  0x620, 0x621, 0x626, 0x627, 0x628, 0x629, 0x62A, 0x62F, 0x633, 0x640, 0x641, 0x648, 0x649, 0x660,
  0x66E, 0x671, 0x679, 0x688, 0x69A, 0x6C0, 0x6C1, 0x6C3, 0x6CC, 0x6CD, 0x6CE, 0x6CF, 0x6D0, 0x6D2,
  0x6FA, 0x6FD, 0x6FF, 0x700, 0x712, 0x715, 0x71A, 0x71E, 0x71F, 0x728, 0x729, 0x72A, 0x72B, 0x72C,
  0x72D, 0x72F, 0x74E, 0x759, 0x75C, 0x76B, 0x76D, 0x771, 0x772, 0x773, 0x775, 0x778, 0x77A, 0x780,
  0x7CA, 0x7F4, 0x841, 0x846, 0x848, 0x849, 0x84A, 0x854, 0x855, 0x856, 0x860, 0x861, 0x862, 0x866,
  0x868, 0x869, 0x886, 0x887, 0x889, 0x88E, 0x88F, 0x8AA, 0x8AF, 0x8B1, 0x8B3, 0x8B9, 0x8BA, 0x8C9,
  0x1807, 0x1808, 0x1820, 0x1880, 0x1887, 0x18B0, 0xA840, 0xA873, 0xFB52, 0xFB82, 0xFB8E, 0xFBA4,
  0xFBA6, 0xFBAE, 0xFBD3, 0xFBD7, 0xFBE4, 0xFBEA, 0xFBF6, 0xFC37, 0xFC38, 0xFC5B, 0xFC5D, 0xFC5E,
  0xFC66, 0xFC6A, 0xFC6C, 0xFC70, 0xFC72, 0xFC76, 0xFC78, 0xFC80, 0xFC81, 0xFC88, 0xFC89, 0xFC8A,
  0xFC8C, 0xFC91, 0xFC93, 0xFCF2, 0xFCF5, 0xFD0D, 0xFD11, 0xFD29, 0xFD2D, 0xFD3C, 0xFD50, 0xFD90,
  0xFD92, 0xFDC8, 0xFDF2, 0xFDF3, 0xFDF5, 0xFDFD, 0xFE89, 0xFE8D, 0xFE8F, 0xFE93, 0xFE95, 0xFEA9,
  0xFEB1, 0xFEED, 0xFEEF, 0xFEF5, 0x10AC0, 0x10AC5, 0x10ACD, 0x10ACE, 0x10AD3, 0x10ADD, 0x10ADE,
  0x10AE1, 0x10AEB, 0x10AEF, 0x10B80, 0x10B81, 0x10B82, 0x10B83, 0x10B86, 0x10B89, 0x10B8A,
  0x10B8C, 0x10B8D, 0x10B8E, 0x10B90, 0x10B91, 0x10BAD, 0x10BAF, 0x10D00, 0x10D22, 0x10D23,
  0x10D30, 0x10EC3, 0x10EC5, 0x10EC6, 0x10ED0, 0x10F30, 0x10F33, 0x10F34, 0x10F45, 0x10F51,
  0x10F54, 0x10F70, 0x10F74, 0x10F76, 0x10F86, 0x10FB0, 0x10FB1, 0x10FB2, 0x10FB4, 0x10FB8,
  0x10FB9, 0x10FBB, 0x10FBD, 0x10FBE, 0x10FC0, 0x10FC1, 0x10FC2, 0x10FC4, 0x10FC5, 0x10FCA,
  0x10FE0, 0x1E900, 0x1E950, 0x1EE01, 0x1EE03, 0x1EE07, 0x1EE13, 0x1EE14, 0x1EE18, 0x1EE19,
  0x1EE80, 0x1EE81, 0x1EE83, 0x1EE84, 0x1EE85, 0x1EE87, 0x1EE93, 0x1EE94, 0x1EE98, 0x1EE99,
  0x1EEA3, 0x1EEA7, 0x1EEB3, 0x1EEB4, 0x1EEB8, 0x1EEB9, 0x1EEF0]⟩

/-- The letters that are joined with the one in front, among the same characters. -/
def joinsPreviousSet : Text.CharSet := ⟨[
  0x620, 0x621, 0x622, 0x640, 0x641, 0x660, 0x66E, 0x674, 0x675, 0x6D4, 0x6D5, 0x6DE, 0x6EE, 0x6F0,
  0x6FA, 0x6FD, 0x6FF, 0x700, 0x710, 0x780, 0x7CA, 0x7F4, 0x840, 0x85E, 0x860, 0x861, 0x862, 0x866,
  0x867, 0x883, 0x886, 0x887, 0x889, 0x8AD, 0x8AE, 0x8C9, 0x1807, 0x1808, 0x1820, 0x1880, 0x1887,
  0x18B0, 0xA840, 0xA872, 0xFB50, 0xFBB2, 0xFBD3, 0xFC5E, 0xFC64, 0xFCF2, 0xFCF5, 0xFD3E, 0xFD50,
  0xFD90, 0xFD92, 0xFDC8, 0xFDF0, 0xFDFD, 0xFE81, 0xFF5F, 0x10AC0, 0x10AC6, 0x10AC7, 0x10AC8,
  0x10AC9, 0x10ACB, 0x10ACE, 0x10AD7, 0x10AD8, 0x10AE2, 0x10AE4, 0x10AF0, 0x10B80, 0x10B99,
  0x10BA9, 0x10BAF, 0x10D01, 0x10D30, 0x10EC2, 0x10EC5, 0x10EC6, 0x10ED0, 0x10F30, 0x10F45,
  0x10F51, 0x10F55, 0x10F70, 0x10F86, 0x10FB0, 0x10FB1, 0x10FB2, 0x10FB7, 0x10FB8, 0x10FC0,
  0x10FC1, 0x10FC5, 0x10FC9, 0x10FCB, 0x1E900, 0x1E950, 0x1EE00, 0x1EEF0]⟩

/-- Whether the first of some characters that is no mark is in a set. -/
def meets (joining : Text.CharSet) : List Char → Bool
  | [] => false
  | c :: cs =>
    if isNonspacing c || c.toNat == 0x1E94B then meets joining cs else joining.contains c

/-- Whether every joiner in a part of a name may stand there. What comes in front of the
rest is given the last character first. -/
def joinersFit (before : List Char) : List Char → Bool
  | [] => true
  | c :: rest =>
    let behindKiller := before.head?.any fun b => vowelKillers.contains b.toNat
    (if c == '\u200D' then behindKiller
      else if c == '\u200C' then
        behindKiller || (meets joinsNextSet before && meets joinsPreviousSet rest)
      else true)
      && joinersFit (c :: before) rest

end CallExplorer.Uri.HostName
