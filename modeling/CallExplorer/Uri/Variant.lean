/-
Variants of characters in host names.

Beyond the forms of ASCII there are capitals and other variants of characters, which
a name may be written with, since they are taken for the ones they are variants of.
Where a part of a name comes in disguise they must have been replaced before. The
tables are those for internationalised names of Unicode 17.
-/
import CallExplorer.Text.CharSet

namespace CallExplorer.Uri.HostName

/-- The variants beyond ASCII, among the characters that neither are forms of ASCII nor must
not occur, and but for those below. -/
def variantSet : Text.CharSet := ⟨[
  0xA8, 0xA9, 0xAF, 0xB0, 0xB4, 0xB6, 0xBD, 0xBF, 0xC1, 0xD7, 0xD9, 0xDF, 0x140, 0x142, 0x18A,
  0x18C, 0x18E, 0x192, 0x193, 0x195, 0x196, 0x199, 0x19C, 0x19E, 0x19F, 0x1A1, 0x1A7, 0x1A8, 0x1A9,
  0x1AA, 0x1AC, 0x1AD, 0x1AE, 0x1B0, 0x1B1, 0x1B4, 0x1B5, 0x1B6, 0x1B7, 0x1B9, 0x1BC, 0x1BD, 0x1C4,
  0x1CE, 0x1F7, 0x1F9, 0x23A, 0x23C, 0x23D, 0x23F, 0x2B1, 0x2B9, 0x2D8, 0x2DE, 0x2E0, 0x2E5, 0x340,
  0x342, 0x343, 0x346, 0x384, 0x390, 0x392, 0x3AC, 0x3CF, 0x3D7, 0x3F1, 0x3F3, 0x3FA, 0x3FB, 0x3FD,
  0x430, 0x531, 0x559, 0x587, 0x588, 0x675, 0x679, 0x958, 0x960, 0x9DC, 0x9E0, 0xA33, 0xA35, 0xA36,
  0xA38, 0xA59, 0xA5C, 0xA5E, 0xA66, 0xB5C, 0xB5F, 0xE33, 0xE34, 0xEB3, 0xEB4, 0xEDC, 0xEDE, 0xF0C,
  0xF0D, 0xF43, 0xF44, 0xF4D, 0xF4E, 0xF52, 0xF53, 0xF57, 0xF58, 0xF5C, 0xF5D, 0xF69, 0xF6A, 0xF76,
  0xF7A, 0xF81, 0xF82, 0xF93, 0xF94, 0xF9D, 0xF9E, 0xFA2, 0xFA3, 0xFA7, 0xFA8, 0xFAC, 0xFAD, 0xFB9,
  0xFBA, 0x10A0, 0x10D0, 0x10FC, 0x10FD, 0x13F8, 0x1400, 0x1C80, 0x1C8A, 0x1C90, 0x1CC0, 0x1D2D,
  0x1D2F, 0x1D54, 0x1D6B, 0x1D78, 0x1D79, 0x1D9B, 0x1DC0, 0x1E9A, 0x1E9C, 0x1F08, 0x1F10, 0x1F18,
  0x1F20, 0x1F28, 0x1F30, 0x1F38, 0x1F40, 0x1F48, 0x1F50, 0x1F59, 0x1F60, 0x1F68, 0x1F70, 0x1F80,
  0x1FB0, 0x1FB2, 0x1FB6, 0x1FB7, 0x1FC6, 0x1FC7, 0x1FD0, 0x1FD3, 0x1FD6, 0x1FD8, 0x1FE0, 0x1FE3,
  0x1FE4, 0x1FE8, 0x1FF6, 0x1FF7, 0x200C, 0x2011, 0x2012, 0x2017, 0x2018, 0x2033, 0x2035, 0x2036,
  0x2038, 0x203E, 0x203F, 0x2057, 0x2058, 0x207B, 0x20A0, 0x2126, 0x2127, 0x2132, 0x213A, 0x213C,
  0x2141, 0x2150, 0x2180, 0x2183, 0x2184, 0x2189, 0x218A, 0x222C, 0x222E, 0x222F, 0x2231, 0x2329,
  0x232B, 0x2A0C, 0x2A0D, 0x2ADC, 0x2ADD, 0x2C00, 0x2C30, 0x2C63, 0x2C65, 0x2C6E, 0x2C71, 0x2C72,
  0x2C73, 0x2C75, 0x2C76, 0x2C7F, 0x2C81, 0x2CEB, 0x2CEC, 0x2CED, 0x2CEE, 0x2CF2, 0x2CF3, 0x2D6F,
  0x2D70, 0x2E9F, 0x2EA0, 0x2EF3, 0x3001, 0x3039, 0x303B, 0x309B, 0x309D, 0x309F, 0x30A0, 0x30FF,
  0x3105, 0x3131, 0x3190, 0x3192, 0x31A0, 0x3200, 0x3248, 0x3261, 0x327F, 0x3281, 0x3400, 0xA69D,
  0xA69E, 0xA78B, 0xA78C, 0xA78D, 0xA78E, 0xA790, 0xA791, 0xA792, 0xA793, 0xA7AB, 0xA7AF, 0xA7B1,
  0xA7B5, 0xA7F5, 0xA7F6, 0xA7F8, 0xA7FA, 0xAB5C, 0xAB60, 0xAB69, 0xAB6A, 0xAB70, 0xABC0, 0xF900,
  0xFA0E, 0xFA10, 0xFA11, 0xFA12, 0xFA13, 0xFA15, 0xFA1F, 0xFA20, 0xFA21, 0xFA22, 0xFA23, 0xFA25,
  0xFA27, 0xFA2A, 0xFB1E, 0xFB1F, 0xFBB2, 0xFBD3, 0xFD3E, 0xFD50, 0xFD90, 0xFD92, 0xFDC8, 0xFDF0,
  0xFDFD, 0xFE11, 0xFE20, 0xFE31, 0xFE45, 0xFE49, 0xFE73, 0xFE74, 0x10000, 0x10400, 0x10428,
  0x104B0, 0x104D8, 0x10570, 0x10597, 0x10781, 0x10800, 0x10C80, 0x10CC0, 0x10D50, 0x10D69, 0x118A0,
  0x118C0, 0x16E40, 0x16E60, 0x16EA0, 0x16EBB, 0x1D15E, 0x1D165, 0x1D1BB, 0x1D1C1, 0x1D6A4, 0x1D800,
  0x1E030, 0x1E08F, 0x1E900, 0x1E922, 0x1EE00, 0x1EEF0, 0x1F12A, 0x1F12F, 0x1F200, 0x1F260, 0x2F800,
  0x30000]⟩

/-- Stretches in which every other character is a variant: the first, and the last of these. -/
def alternateVariants : List (Nat × Nat) := [
  (0xB8, 0xDE), (0x100, 0x136), (0x139, 0x149), (0x14A, 0x178), (0x179, 0x181), (0x182, 0x186),
  (0x187, 0x18B), (0x1A2, 0x1A6), (0x1CF, 0x1DB), (0x1DE, 0x1EE), (0x1F4, 0x232), (0x241, 0x245),
  (0x244, 0x24E), (0x370, 0x37A), (0x37F, 0x3AB), (0x3D8, 0x3F4), (0x3F5, 0x3F9), (0x460, 0x480),
  (0x48A, 0x4C0), (0x4C1, 0x4CD), (0x4D0, 0x556), (0xF73, 0xF79), (0x1D32, 0x1D4C),
  (0x1D3D, 0x1D69), (0x1E00, 0x1E94), (0x1E9E, 0x1EFE), (0x1F71, 0x1FAF), (0x2103, 0x210F),
  (0x212B, 0x213F), (0x2C60, 0x2C64), (0x2C67, 0x2C6F), (0x2C7E, 0x2CE2), (0x3036, 0x303A),
  (0x3260, 0x33FE), (0xA640, 0xA66C), (0xA680, 0xA69C), (0xA722, 0xA72E), (0xA732, 0xA770),
  (0xA779, 0xA77D), (0xA77E, 0xA786), (0xA796, 0xA7C6), (0xA7C5, 0xA7CB), (0xA7CC, 0xA7DC)]

/-- Whether a character is a variant of others beyond ASCII. -/
def isVariant (c : Char) : Bool :=
  variantSet.contains c
    || alternateVariants.any fun (first, last) =>
      first ≤ c.toNat && c.toNat ≤ last && (c.toNat - first) % 2 == 0

end CallExplorer.Uri.HostName
