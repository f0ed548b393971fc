/-
Directions of writing in host names.

Some scripts go from right to left. A name with letters of such a script, or with
Arabic numbers, could be read in more than one order, unless each of its parts keeps
to one direction: it begins with a letter, which gives the direction, has no letters
of the other one, and does not end in between. The classes of characters are those
of Unicode 17.
-/
import CallExplorer.Uri.HostChar

namespace CallExplorer.Uri.HostName

-- ============================================ classes

/-- The marks that take up space of their own, among the marks. -/
def spacingSet : Text.CharSet := ⟨[
  0x903, 0x93A, 0x93B, 0x93C, 0x93E, 0x941, 0x949, 0x94D, 0x94E, 0x951, 0x982, 0x9BC, 0x9BE, 0x9C1,
  0x9C7, 0x9CD, 0x9D7, 0x9E2, 0xA03, 0xA3C, 0xA3E, 0xA41, 0xA83, 0xABC, 0xABE, 0xAC1, 0xAC9, 0xACD,
  0xB02, 0xB3C, 0xB3E, 0xB3F, 0xB40, 0xB41, 0xB47, 0xB4D, 0xB57, 0xB62, 0xBBE, 0xBC0, 0xBC1, 0xBCD,
  0xBD7, 0xC00, 0xC01, 0xC04, 0xC41, 0xC46, 0xC82, 0xCBC, 0xCBE, 0xCCC, 0xCD5, 0xCE2, 0xCF3, 0xD00,
  0xD02, 0xD3B, 0xD3E, 0xD41, 0xD46, 0xD4D, 0xD57, 0xD62, 0xD82, 0xDCA, 0xDCF, 0xDD2, 0xDD8, 0xE31,
  0xE33, 0xE34, 0xEB3, 0xEB4, 0xF3E, 0xF71, 0xF7F, 0xF80, 0x102B, 0x102D, 0x1031, 0x1032, 0x1038,
  0x1039, 0x103B, 0x103D, 0x1056, 0x1058, 0x1062, 0x1071, 0x1083, 0x1085, 0x1087, 0x108D, 0x108F,
  0x109D, 0x1715, 0x1732, 0x1734, 0x1752, 0x17B6, 0x17B7, 0x17BE, 0x17C6, 0x17C7, 0x17C9, 0x1923,
  0x1927, 0x1929, 0x1932, 0x1933, 0x1939, 0x1A19, 0x1A1B, 0x1A55, 0x1A56, 0x1A57, 0x1A58, 0x1A61,
  0x1A62, 0x1A63, 0x1A65, 0x1A6D, 0x1A73, 0x1B04, 0x1B34, 0x1B35, 0x1B36, 0x1B3B, 0x1B3C, 0x1B3D,
  0x1B42, 0x1B43, 0x1B6B, 0x1B82, 0x1BA2, 0x1BA6, 0x1BA8, 0x1BAA, 0x1BAB, 0x1BE7, 0x1BE8, 0x1BEA,
  0x1BED, 0x1BEE, 0x1BEF, 0x1BF2, 0x1C2C, 0x1C34, 0x1C36, 0x1CE1, 0x1CE2, 0x1CF7, 0x1CF8, 0x302E,
  0x3099, 0xA823, 0xA825, 0xA827, 0xA82C, 0xA880, 0xA8C4, 0xA952, 0xA980, 0xA983, 0xA9B3, 0xA9B4,
  0xA9B6, 0xA9BA, 0xA9BC, 0xA9BE, 0xA9E5, 0xAA2F, 0xAA31, 0xAA33, 0xAA35, 0xAA4D, 0xAA7C, 0xAA7D,
  0xAAB0, 0xAAEB, 0xAAEC, 0xAAEE, 0xAAF6, 0xABE3, 0xABE5, 0xABE6, 0xABE8, 0xABE9, 0xABED, 0x11000,
  0x11001, 0x11002, 0x11038, 0x11082, 0x110B3, 0x110B7, 0x110B9, 0x1112C, 0x1112D, 0x11145,
  0x11173, 0x11182, 0x111B6, 0x111BF, 0x111C9, 0x111CE, 0x111CF, 0x1122C, 0x1122F, 0x11232,
  0x11234, 0x11235, 0x11236, 0x112E0, 0x112E3, 0x11302, 0x1133B, 0x1133E, 0x11340, 0x11341,
  0x11366, 0x113B8, 0x113BB, 0x113C2, 0x113CE, 0x113CF, 0x113D0, 0x11435, 0x11438, 0x11440,
  0x11442, 0x11445, 0x11446, 0x114B0, 0x114B3, 0x114B9, 0x114BA, 0x114BB, 0x114BF, 0x114C1,
  0x114C2, 0x115AF, 0x115B2, 0x115B8, 0x115BC, 0x115BE, 0x115BF, 0x11630, 0x11633, 0x1163B,
  0x1163D, 0x1163E, 0x1163F, 0x116AC, 0x116AD, 0x116AE, 0x116B0, 0x116B6, 0x116B7, 0x11720,
  0x11722, 0x11726, 0x11727, 0x1182C, 0x1182F, 0x11838, 0x11839, 0x11930, 0x1193B, 0x1193D,
  0x1193E, 0x11940, 0x11943, 0x119D1, 0x119D4, 0x119DC, 0x119E0, 0x119E4, 0x11A01, 0x11A07,
  0x11A09, 0x11A39, 0x11A3B, 0x11A57, 0x11A59, 0x11A97, 0x11A98, 0x11B61, 0x11B62, 0x11B65,
  0x11B66, 0x11B67, 0x11C30, 0x11C3E, 0x11C92, 0x11CA9, 0x11CAA, 0x11CB1, 0x11CB2, 0x11CB4,
  0x11CB5, 0x11D8A, 0x11D90, 0x11D93, 0x11D95, 0x11D96, 0x11D97, 0x11EF5, 0x11F00, 0x11F03,
  0x11F36, 0x11F3E, 0x11F40, 0x11F41, 0x11F42, 0x1612A, 0x1612D, 0x16F51, 0x16F8F, 0x16FF0,
  0x1BC9D, 0x1D165, 0x1D167, 0x1D16D, 0x1D17B]⟩

/-- The letters of scripts from right to left, among the characters that are no marks
without space of their own. -/
def leftwardSet : Text.CharSet := ⟨[
  0x5BE, 0x606, 0x608, 0x609, 0x60B, 0x60C, 0x60D, 0x60E, 0x61B, 0x660, 0x66D, 0x6DE, 0x6E5, 0x6E9,
  0x6EE, 0x6F0, 0x6FA, 0x7F6, 0x7FA, 0x903, 0x2135, 0x213A, 0xFB1D, 0xFBC3, 0xFBD3, 0xFD3E, 0xFD50,
  0xFD90, 0xFD92, 0xFDC8, 0xFDF0, 0xFDFD, 0xFE70, 0xFF5F, 0x10800, 0x1091F, 0x10920, 0x10B39,
  0x10B40, 0x10D30, 0x10D4A, 0x10D6E, 0x10D6F, 0x10E60, 0x10E80, 0x10ED0, 0x10F00, 0x11000,
  0x1E800, 0x1EEF0]⟩

/-- The characters without a direction, among those that are neither marks nor letters from
right to left nor digits. -/
def neutralSet : Text.CharSet := ⟨[
  0xA1, 0xB5, 0xB6, 0xC0, 0xD7, 0xD8, 0xF7, 0xF8, 0x2B9, 0x2BB, 0x2C2, 0x2D0, 0x2D2, 0x2E0, 0x2E5,
  0x2EE, 0x2EF, 0x345, 0x374, 0x376, 0x384, 0x386, 0x387, 0x388, 0x3F6, 0x3F7, 0x58A, 0x903, 0x9F2,
  0x9F4, 0x9FB, 0x9FC, 0xAF1, 0xAF9, 0xBF3, 0xC01, 0xC78, 0xC7F, 0xE3F, 0xE40, 0xF3A, 0xF3E,
  0x1390, 0x13A0, 0x1400, 0x1401, 0x169B, 0x16A0, 0x17DB, 0x17DC, 0x17F0, 0x1810, 0x1940, 0x1946,
  0x19DE, 0x1A00, 0x1FBD, 0x1FBE, 0x1FBF, 0x1FC2, 0x1FCD, 0x1FD0, 0x1FDD, 0x1FE0, 0x1FED, 0x1FF2,
  0x1FFD, 0x2094, 0x20A0, 0x2107, 0x2108, 0x210F, 0x2114, 0x2126, 0x2127, 0x212B, 0x212E, 0x2132,
  0x213A, 0x213C, 0x2140, 0x214E, 0x215F, 0x2180, 0x218A, 0x2336, 0x237B, 0x2395, 0x2396, 0x26AC,
  0x26AD, 0x2800, 0x2900, 0x2C00, 0x2CE5, 0x2CEB, 0x2CF9, 0x2D00, 0x2E00, 0x2E9F, 0x2EA0, 0x2EF3,
  0x3001, 0x3005, 0x3008, 0x3021, 0x3030, 0x3031, 0x3036, 0x3038, 0x303D, 0x3041, 0x309B, 0x309D,
  0x30A0, 0x30A1, 0x30FB, 0x30FC, 0x31C0, 0x31F0, 0x321D, 0x3220, 0x4DC0, 0x4E00, 0xA490, 0xA4D0,
  0xA60D, 0xA610, 0xA673, 0xA680, 0xA700, 0xA722, 0xA788, 0xA789, 0xA828, 0xA830, 0xA838, 0xA840,
  0xA874, 0xA880, 0xAB6A, 0xAB70, 0xFBC3, 0xFF66, 0xFFE0, 0x10000, 0x10101, 0x10102, 0x10140,
  0x1018D, 0x10190, 0x101D0, 0x1091F, 0x11000, 0x11052, 0x11066, 0x11660, 0x11680, 0x11FD5,
  0x11FFF, 0x16FE2, 0x16FE3, 0x1CC00, 0x1CF50, 0x1D1E9, 0x1D2C0, 0x1D300, 0x1D360, 0x1D6C1,
  0x1D6C2, 0x1D6DB, 0x1D6DC, 0x1D6FB, 0x1D6FC, 0x1D715, 0x1D716, 0x1D735, 0x1D736, 0x1D74F,
  0x1D750, 0x1D76F, 0x1D770, 0x1D789, 0x1D78A, 0x1D7A9, 0x1D7AA, 0x1D7C3, 0x1D7C4, 0x1E2FF,
  0x1E4D0, 0x1EEF0, 0x1F12A, 0x1F12F, 0x1F150, 0x1F16D, 0x1F170, 0x1F1AD, 0x1F1E6, 0x1F260,
  0x20000]⟩

/-- Whether a character is a mark that takes up no space of its own. -/
def isNonspacing (c : Char) : Bool := markSet.contains c && !spacingSet.contains c

/-- What a character does to the direction of writing. -/
inductive Flow where
  /-- It goes from left to right. -/
  | rightward
  /-- It goes from right to left. -/
  | leftward
  /-- A digit, or a fraction of digits. -/
  | digit
  | arabicDigit
  /-- It follows the character in front. -/
  | mark
  | neutral
  deriving DecidableEq, Repr

/-- What a character does to the direction of writing. -/
def flow (c : Char) : Flow :=
  let within (first last : Nat) : Bool := first ≤ c.toNat && c.toNat ≤ last
  if c.toNat < 0x80 then
    if c.isAlpha then .rightward else if c.isDigit then .digit else .neutral
  else if isNonspacing c then .mark
  else if leftwardSet.contains c then .leftward
  else if within 0x660 0x669 || within 0x66B 0x66C || within 0x10D30 0x10D49
      || within 0x10E60 0x10E7E then .arabicDigit
  else if within 0xBC 0xBE || within 0x6F0 0x6F9 || within 0x2150 0x215E || c.toNat == 0x2189
      || within 0x102E1 0x102FB then .digit
  else if neutralSet.contains c then .neutral
  else .rightward

-- ============================================ parts of a name

/-- Whether a part of a name asks for the direction of all parts. -/
def asksForDirection (label : List Char) : Bool :=
  label.any fun c => flow c == .leftward || flow c == .arabicDigit

/-- Whether a part of a name keeps to one direction. From right to left there may be digits of
one kind only, and from left to right no Arabic ones. -/
def keepsDirection (label : List Char) : Bool :=
  match label.map flow with
  | [] => true
  | first :: rest =>
    let last := (rest.reverse.find? (· != .mark)).getD first
    last != .neutral
      && match first with
        | .rightward => !rest.contains .leftward && !rest.contains .arabicDigit
        | .leftward =>
          !rest.contains .rightward && !(rest.contains .digit && rest.contains .arabicDigit)
        | _ => false

end CallExplorer.Uri.HostName
