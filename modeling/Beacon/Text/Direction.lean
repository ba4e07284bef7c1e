import Beacon.Text.CharTable

/-!
# Directions

In which direction a character is read, by the property `Bidi_Class` of Unicode 17, with the newer
marks U+05C8, U+0B53 and U+1ADE. The classes of separators, terminators, symbols and boundaries that
may stand inside a word of either direction are one.
-/

namespace Beacon.Text

/-- How a character is read. -/
inductive Direction where
  | left
  | right
  /-- From right to left, as a letter of the Arabic script. -/
  | arabicLetter
  /-- As a digit that is read from left to right everywhere. -/
  | europeanNumber
  | arabicNumber
  /-- As the character before it. -/
  | mark
  /-- As its neighbours. -/
  | neutral
  /-- As the blank or control of a whole paragraph. -/
  | other
deriving DecidableEq, Repr

/-- The directions of all characters. -/
def directions : CharMap Direction := ⟨.other, #[
  (0x9, .other), (0xE, .neutral), (0x1C, .other), (0x21, .neutral), (0x30, .europeanNumber),
  (0x3A, .neutral), (0x41, .left), (0x5B, .neutral), (0x61, .left), (0x7B, .neutral),
  (0x85, .other), (0x86, .neutral), (0xAA, .left), (0xAB, .neutral), (0xB2, .europeanNumber),
  (0xB4, .neutral), (0xB5, .left), (0xB6, .neutral), (0xB9, .europeanNumber), (0xBA, .left),
  (0xBB, .neutral), (0xC0, .left), (0xD7, .neutral), (0xD8, .left), (0xF7, .neutral),
  (0xF8, .left), (0x2B9, .neutral), (0x2BB, .left), (0x2C2, .neutral), (0x2D0, .left),
  (0x2D2, .neutral), (0x2E0, .left), (0x2E5, .neutral), (0x2EE, .left), (0x2EF, .neutral),
  (0x300, .mark), (0x370, .left), (0x374, .neutral), (0x376, .left), (0x37E, .neutral),
  (0x37F, .left), (0x384, .neutral), (0x386, .left), (0x387, .neutral), (0x388, .left),
  (0x3F6, .neutral), (0x3F7, .left), (0x483, .mark), (0x48A, .left), (0x58A, .neutral),
  (0x58B, .left), (0x58D, .neutral), (0x590, .right), (0x591, .mark), (0x5BE, .right),
  (0x5BF, .mark), (0x5C0, .right), (0x5C1, .mark), (0x5C3, .right), (0x5C4, .mark),
  (0x5C6, .right), (0x5C7, .mark), (0x5C9, .right), (0x600, .arabicNumber), (0x606, .neutral),
  (0x608, .arabicLetter), (0x609, .neutral), (0x60B, .arabicLetter), (0x60C, .neutral),
  (0x60D, .arabicLetter), (0x60E, .neutral), (0x610, .mark), (0x61B, .arabicLetter),
  (0x64B, .mark), (0x660, .arabicNumber), (0x66A, .neutral), (0x66B, .arabicNumber),
  (0x66D, .arabicLetter), (0x670, .mark), (0x671, .arabicLetter), (0x6D6, .mark),
  (0x6DD, .arabicNumber), (0x6DE, .neutral), (0x6DF, .mark), (0x6E5, .arabicLetter),
  (0x6E7, .mark), (0x6E9, .neutral), (0x6EA, .mark), (0x6EE, .arabicLetter),
  (0x6F0, .europeanNumber), (0x6FA, .arabicLetter), (0x711, .mark), (0x712, .arabicLetter),
  (0x730, .mark), (0x74B, .arabicLetter), (0x7A6, .mark), (0x7B1, .arabicLetter), (0x7C0, .right),
  (0x7EB, .mark), (0x7F4, .right), (0x7F6, .neutral), (0x7FA, .right), (0x7FD, .mark),
  (0x7FE, .right), (0x816, .mark), (0x81A, .right), (0x81B, .mark), (0x824, .right),
  (0x825, .mark), (0x828, .right), (0x829, .mark), (0x82E, .right), (0x859, .mark),
  (0x85C, .right), (0x860, .arabicLetter), (0x890, .arabicNumber), (0x892, .arabicLetter),
  (0x897, .mark), (0x8A0, .arabicLetter), (0x8CA, .mark), (0x8E2, .arabicNumber), (0x8E3, .mark),
  (0x903, .left), (0x93A, .mark), (0x93B, .left), (0x93C, .mark), (0x93D, .left), (0x941, .mark),
  (0x949, .left), (0x94D, .mark), (0x94E, .left), (0x951, .mark), (0x958, .left), (0x962, .mark),
  (0x964, .left), (0x981, .mark), (0x982, .left), (0x9BC, .mark), (0x9BD, .left), (0x9C1, .mark),
  (0x9C5, .left), (0x9CD, .mark), (0x9CE, .left), (0x9E2, .mark), (0x9E4, .left),
  (0x9F2, .neutral), (0x9F4, .left), (0x9FB, .neutral), (0x9FC, .left), (0x9FE, .mark),
  (0x9FF, .left), (0xA01, .mark), (0xA03, .left), (0xA3C, .mark), (0xA3D, .left), (0xA41, .mark),
  (0xA43, .left), (0xA47, .mark), (0xA49, .left), (0xA4B, .mark), (0xA4E, .left), (0xA51, .mark),
  (0xA52, .left), (0xA70, .mark), (0xA72, .left), (0xA75, .mark), (0xA76, .left), (0xA81, .mark),
  (0xA83, .left), (0xABC, .mark), (0xABD, .left), (0xAC1, .mark), (0xAC6, .left), (0xAC7, .mark),
  (0xAC9, .left), (0xACD, .mark), (0xACE, .left), (0xAE2, .mark), (0xAE4, .left),
  (0xAF1, .neutral), (0xAF2, .left), (0xAFA, .mark), (0xB00, .left), (0xB01, .mark),
  (0xB02, .left), (0xB3C, .mark), (0xB3D, .left), (0xB3F, .mark), (0xB40, .left), (0xB41, .mark),
  (0xB45, .left), (0xB4D, .mark), (0xB4E, .left), (0xB53, .mark), (0xB54, .left), (0xB55, .mark),
  (0xB57, .left), (0xB62, .mark), (0xB64, .left), (0xB82, .mark), (0xB83, .left), (0xBC0, .mark),
  (0xBC1, .left), (0xBCD, .mark), (0xBCE, .left), (0xBF3, .neutral), (0xBFB, .left),
  (0xC00, .mark), (0xC01, .left), (0xC04, .mark), (0xC05, .left), (0xC3C, .mark), (0xC3D, .left),
  (0xC3E, .mark), (0xC41, .left), (0xC46, .mark), (0xC49, .left), (0xC4A, .mark), (0xC4E, .left),
  (0xC55, .mark), (0xC57, .left), (0xC62, .mark), (0xC64, .left), (0xC78, .neutral),
  (0xC7F, .left), (0xC81, .mark), (0xC82, .left), (0xCBC, .mark), (0xCBD, .left), (0xCCC, .mark),
  (0xCCE, .left), (0xCE2, .mark), (0xCE4, .left), (0xD00, .mark), (0xD02, .left), (0xD3B, .mark),
  (0xD3D, .left), (0xD41, .mark), (0xD45, .left), (0xD4D, .mark), (0xD4E, .left), (0xD62, .mark),
  (0xD64, .left), (0xD81, .mark), (0xD82, .left), (0xDCA, .mark), (0xDCB, .left), (0xDD2, .mark),
  (0xDD5, .left), (0xDD6, .mark), (0xDD7, .left), (0xE31, .mark), (0xE32, .left), (0xE34, .mark),
  (0xE3B, .left), (0xE3F, .neutral), (0xE40, .left), (0xE47, .mark), (0xE4F, .left),
  (0xEB1, .mark), (0xEB2, .left), (0xEB4, .mark), (0xEBD, .left), (0xEC8, .mark), (0xECF, .left),
  (0xF18, .mark), (0xF1A, .left), (0xF35, .mark), (0xF36, .left), (0xF37, .mark), (0xF38, .left),
  (0xF39, .mark), (0xF3A, .neutral), (0xF3E, .left), (0xF71, .mark), (0xF7F, .left),
  (0xF80, .mark), (0xF85, .left), (0xF86, .mark), (0xF88, .left), (0xF8D, .mark), (0xF98, .left),
  (0xF99, .mark), (0xFBD, .left), (0xFC6, .mark), (0xFC7, .left), (0x102D, .mark),
  (0x1031, .left), (0x1032, .mark), (0x1038, .left), (0x1039, .mark), (0x103B, .left),
  (0x103D, .mark), (0x103F, .left), (0x1058, .mark), (0x105A, .left), (0x105E, .mark),
  (0x1061, .left), (0x1071, .mark), (0x1075, .left), (0x1082, .mark), (0x1083, .left),
  (0x1085, .mark), (0x1087, .left), (0x108D, .mark), (0x108E, .left), (0x109D, .mark),
  (0x109E, .left), (0x135D, .mark), (0x1360, .left), (0x1390, .neutral), (0x139A, .left),
  (0x1400, .neutral), (0x1401, .left), (0x1680, .other), (0x1681, .left), (0x169B, .neutral),
  (0x169D, .left), (0x1712, .mark), (0x1715, .left), (0x1732, .mark), (0x1734, .left),
  (0x1752, .mark), (0x1754, .left), (0x1772, .mark), (0x1774, .left), (0x17B4, .mark),
  (0x17B6, .left), (0x17B7, .mark), (0x17BE, .left), (0x17C6, .mark), (0x17C7, .left),
  (0x17C9, .mark), (0x17D4, .left), (0x17DB, .neutral), (0x17DC, .left), (0x17DD, .mark),
  (0x17DE, .left), (0x17F0, .neutral), (0x17FA, .left), (0x1800, .neutral), (0x180B, .mark),
  (0x180E, .neutral), (0x180F, .mark), (0x1810, .left), (0x1885, .mark), (0x1887, .left),
  (0x18A9, .mark), (0x18AA, .left), (0x1920, .mark), (0x1923, .left), (0x1927, .mark),
  (0x1929, .left), (0x1932, .mark), (0x1933, .left), (0x1939, .mark), (0x193C, .left),
  (0x1940, .neutral), (0x1941, .left), (0x1944, .neutral), (0x1946, .left), (0x19DE, .neutral),
  (0x1A00, .left), (0x1A17, .mark), (0x1A19, .left), (0x1A1B, .mark), (0x1A1C, .left),
  (0x1A56, .mark), (0x1A57, .left), (0x1A58, .mark), (0x1A5F, .left), (0x1A60, .mark),
  (0x1A61, .left), (0x1A62, .mark), (0x1A63, .left), (0x1A65, .mark), (0x1A6D, .left),
  (0x1A73, .mark), (0x1A7D, .left), (0x1A7F, .mark), (0x1A80, .left), (0x1AB0, .mark),
  (0x1ADF, .left), (0x1AE0, .mark), (0x1AEC, .left), (0x1B00, .mark), (0x1B04, .left),
  (0x1B34, .mark), (0x1B35, .left), (0x1B36, .mark), (0x1B3B, .left), (0x1B3C, .mark),
  (0x1B3D, .left), (0x1B42, .mark), (0x1B43, .left), (0x1B6B, .mark), (0x1B74, .left),
  (0x1B80, .mark), (0x1B82, .left), (0x1BA2, .mark), (0x1BA6, .left), (0x1BA8, .mark),
  (0x1BAA, .left), (0x1BAB, .mark), (0x1BAE, .left), (0x1BE6, .mark), (0x1BE7, .left),
  (0x1BE8, .mark), (0x1BEA, .left), (0x1BED, .mark), (0x1BEE, .left), (0x1BEF, .mark),
  (0x1BF2, .left), (0x1C2C, .mark), (0x1C34, .left), (0x1C36, .mark), (0x1C38, .left),
  (0x1CD0, .mark), (0x1CD3, .left), (0x1CD4, .mark), (0x1CE1, .left), (0x1CE2, .mark),
  (0x1CE9, .left), (0x1CED, .mark), (0x1CEE, .left), (0x1CF4, .mark), (0x1CF5, .left),
  (0x1CF8, .mark), (0x1CFA, .left), (0x1DC0, .mark), (0x1E00, .left), (0x1FBD, .neutral),
  (0x1FBE, .left), (0x1FBF, .neutral), (0x1FC2, .left), (0x1FCD, .neutral), (0x1FD0, .left),
  (0x1FDD, .neutral), (0x1FE0, .left), (0x1FED, .neutral), (0x1FF0, .left), (0x1FFD, .neutral),
  (0x1FFF, .left), (0x2000, .other), (0x200B, .neutral), (0x200E, .left), (0x200F, .right),
  (0x2010, .neutral), (0x2028, .other), (0x202F, .neutral), (0x205F, .other), (0x2060, .neutral),
  (0x2066, .other), (0x206A, .neutral), (0x2070, .europeanNumber), (0x2071, .left),
  (0x2074, .europeanNumber), (0x207A, .neutral), (0x207F, .left), (0x2080, .europeanNumber),
  (0x208A, .neutral), (0x208F, .left), (0x20A0, .neutral), (0x20D0, .mark), (0x20F1, .left),
  (0x2100, .neutral), (0x2102, .left), (0x2103, .neutral), (0x2107, .left), (0x2108, .neutral),
  (0x210A, .left), (0x2114, .neutral), (0x2115, .left), (0x2116, .neutral), (0x2119, .left),
  (0x211E, .neutral), (0x2124, .left), (0x2125, .neutral), (0x2126, .left), (0x2127, .neutral),
  (0x2128, .left), (0x2129, .neutral), (0x212A, .left), (0x212E, .neutral), (0x212F, .left),
  (0x213A, .neutral), (0x213C, .left), (0x2140, .neutral), (0x2145, .left), (0x214A, .neutral),
  (0x214E, .left), (0x2150, .neutral), (0x2160, .left), (0x2189, .neutral), (0x218C, .left),
  (0x2190, .neutral), (0x2336, .left), (0x237B, .neutral), (0x2395, .left), (0x2396, .neutral),
  (0x242A, .left), (0x2440, .neutral), (0x244B, .left), (0x2460, .neutral),
  (0x2488, .europeanNumber), (0x249C, .left), (0x24EA, .neutral), (0x26AC, .left),
  (0x26AD, .neutral), (0x2800, .left), (0x2900, .neutral), (0x2B74, .left), (0x2B76, .neutral),
  (0x2C00, .left), (0x2CE5, .neutral), (0x2CEB, .left), (0x2CEF, .mark), (0x2CF2, .left),
  (0x2CF9, .neutral), (0x2D00, .left), (0x2D7F, .mark), (0x2D80, .left), (0x2DE0, .mark),
  (0x2E00, .neutral), (0x2E5E, .left), (0x2E80, .neutral), (0x2E9A, .left), (0x2E9B, .neutral),
  (0x2EF4, .left), (0x2F00, .neutral), (0x2FD6, .left), (0x2FF0, .neutral), (0x3000, .other),
  (0x3001, .neutral), (0x3005, .left), (0x3008, .neutral), (0x3021, .left), (0x302A, .mark),
  (0x302E, .left), (0x3030, .neutral), (0x3031, .left), (0x3036, .neutral), (0x3038, .left),
  (0x303D, .neutral), (0x3040, .left), (0x3099, .mark), (0x309B, .neutral), (0x309D, .left),
  (0x30A0, .neutral), (0x30A1, .left), (0x30FB, .neutral), (0x30FC, .left), (0x31C0, .neutral),
  (0x31E6, .left), (0x31EF, .neutral), (0x31F0, .left), (0x321D, .neutral), (0x321F, .left),
  (0x3250, .neutral), (0x3260, .left), (0x327C, .neutral), (0x327F, .left), (0x32B1, .neutral),
  (0x32C0, .left), (0x32CC, .neutral), (0x32D0, .left), (0x3377, .neutral), (0x337B, .left),
  (0x33DE, .neutral), (0x33E0, .left), (0x33FF, .neutral), (0x3400, .left), (0x4DC0, .neutral),
  (0x4E00, .left), (0xA490, .neutral), (0xA4C7, .left), (0xA60D, .neutral), (0xA610, .left),
  (0xA66F, .mark), (0xA673, .neutral), (0xA674, .mark), (0xA67E, .neutral), (0xA680, .left),
  (0xA69E, .mark), (0xA6A0, .left), (0xA6F0, .mark), (0xA6F2, .left), (0xA700, .neutral),
  (0xA722, .left), (0xA788, .neutral), (0xA789, .left), (0xA802, .mark), (0xA803, .left),
  (0xA806, .mark), (0xA807, .left), (0xA80B, .mark), (0xA80C, .left), (0xA825, .mark),
  (0xA827, .left), (0xA828, .neutral), (0xA82C, .mark), (0xA82D, .left), (0xA838, .neutral),
  (0xA83A, .left), (0xA874, .neutral), (0xA878, .left), (0xA8C4, .mark), (0xA8C6, .left),
  (0xA8E0, .mark), (0xA8F2, .left), (0xA8FF, .mark), (0xA900, .left), (0xA926, .mark),
  (0xA92E, .left), (0xA947, .mark), (0xA952, .left), (0xA980, .mark), (0xA983, .left),
  (0xA9B3, .mark), (0xA9B4, .left), (0xA9B6, .mark), (0xA9BA, .left), (0xA9BC, .mark),
  (0xA9BE, .left), (0xA9E5, .mark), (0xA9E6, .left), (0xAA29, .mark), (0xAA2F, .left),
  (0xAA31, .mark), (0xAA33, .left), (0xAA35, .mark), (0xAA37, .left), (0xAA43, .mark),
  (0xAA44, .left), (0xAA4C, .mark), (0xAA4D, .left), (0xAA7C, .mark), (0xAA7D, .left),
  (0xAAB0, .mark), (0xAAB1, .left), (0xAAB2, .mark), (0xAAB5, .left), (0xAAB7, .mark),
  (0xAAB9, .left), (0xAABE, .mark), (0xAAC0, .left), (0xAAC1, .mark), (0xAAC2, .left),
  (0xAAEC, .mark), (0xAAEE, .left), (0xAAF6, .mark), (0xAAF7, .left), (0xAB6A, .neutral),
  (0xAB6C, .left), (0xABE5, .mark), (0xABE6, .left), (0xABE8, .mark), (0xABE9, .left),
  (0xABED, .mark), (0xABEE, .left), (0xFB1D, .right), (0xFB1E, .mark), (0xFB1F, .right),
  (0xFB29, .neutral), (0xFB2A, .right), (0xFB50, .arabicLetter), (0xFBC3, .neutral),
  (0xFBD3, .arabicLetter), (0xFD3E, .neutral), (0xFD50, .arabicLetter), (0xFD90, .neutral),
  (0xFD92, .arabicLetter), (0xFDC8, .neutral), (0xFDF0, .arabicLetter), (0xFDFD, .neutral),
  (0xFE00, .mark), (0xFE10, .neutral), (0xFE1A, .left), (0xFE20, .mark), (0xFE30, .neutral),
  (0xFE53, .left), (0xFE54, .neutral), (0xFE67, .left), (0xFE68, .neutral), (0xFE6C, .left),
  (0xFE70, .arabicLetter), (0xFEFF, .neutral), (0xFF00, .left), (0xFF01, .neutral),
  (0xFF10, .europeanNumber), (0xFF1A, .neutral), (0xFF21, .left), (0xFF3B, .neutral),
  (0xFF41, .left), (0xFF5B, .neutral), (0xFF66, .left), (0xFFE0, .neutral), (0xFFE7, .left),
  (0xFFE8, .neutral), (0xFFEF, .left), (0xFFF0, .neutral), (0x10000, .left), (0x10101, .neutral),
  (0x10102, .left), (0x10140, .neutral), (0x1018D, .left), (0x10190, .neutral), (0x1019D, .left),
  (0x101A0, .neutral), (0x101A1, .left), (0x101FD, .mark), (0x101FE, .left), (0x102E0, .mark),
  (0x102E1, .europeanNumber), (0x102FC, .left), (0x10376, .mark), (0x1037B, .left),
  (0x10800, .right), (0x1091F, .neutral), (0x10920, .right), (0x10A01, .mark), (0x10A04, .right),
  (0x10A05, .mark), (0x10A07, .right), (0x10A0C, .mark), (0x10A10, .right), (0x10A38, .mark),
  (0x10A3B, .right), (0x10A3F, .mark), (0x10A40, .right), (0x10AE5, .mark), (0x10AE7, .right),
  (0x10B39, .neutral), (0x10B40, .right), (0x10D00, .arabicLetter), (0x10D24, .mark),
  (0x10D28, .arabicLetter), (0x10D30, .arabicNumber), (0x10D3A, .arabicLetter),
  (0x10D40, .arabicNumber), (0x10D4A, .right), (0x10D69, .mark), (0x10D6E, .neutral),
  (0x10D6F, .right), (0x10E60, .arabicNumber), (0x10E7F, .right), (0x10EAB, .mark),
  (0x10EAD, .right), (0x10EC0, .arabicLetter), (0x10ED0, .neutral), (0x10ED9, .arabicLetter),
  (0x10EFA, .mark), (0x10F00, .right), (0x10F30, .arabicLetter), (0x10F46, .mark),
  (0x10F51, .arabicLetter), (0x10F70, .right), (0x10F82, .mark), (0x10F86, .right),
  (0x11000, .left), (0x11001, .mark), (0x11002, .left), (0x11038, .mark), (0x11047, .left),
  (0x11052, .neutral), (0x11066, .left), (0x11070, .mark), (0x11071, .left), (0x11073, .mark),
  (0x11075, .left), (0x1107F, .mark), (0x11082, .left), (0x110B3, .mark), (0x110B7, .left),
  (0x110B9, .mark), (0x110BB, .left), (0x110C2, .mark), (0x110C3, .left), (0x11100, .mark),
  (0x11103, .left), (0x11127, .mark), (0x1112C, .left), (0x1112D, .mark), (0x11135, .left),
  (0x11173, .mark), (0x11174, .left), (0x11180, .mark), (0x11182, .left), (0x111B6, .mark),
  (0x111BF, .left), (0x111C9, .mark), (0x111CD, .left), (0x111CF, .mark), (0x111D0, .left),
  (0x1122F, .mark), (0x11232, .left), (0x11234, .mark), (0x11235, .left), (0x11236, .mark),
  (0x11238, .left), (0x1123E, .mark), (0x1123F, .left), (0x11241, .mark), (0x11242, .left),
  (0x112DF, .mark), (0x112E0, .left), (0x112E3, .mark), (0x112EB, .left), (0x11300, .mark),
  (0x11302, .left), (0x1133B, .mark), (0x1133D, .left), (0x11340, .mark), (0x11341, .left),
  (0x11366, .mark), (0x1136D, .left), (0x11370, .mark), (0x11375, .left), (0x113BB, .mark),
  (0x113C1, .left), (0x113CE, .mark), (0x113CF, .left), (0x113D0, .mark), (0x113D1, .left),
  (0x113D2, .mark), (0x113D3, .left), (0x113E1, .mark), (0x113E3, .left), (0x11438, .mark),
  (0x11440, .left), (0x11442, .mark), (0x11445, .left), (0x11446, .mark), (0x11447, .left),
  (0x1145E, .mark), (0x1145F, .left), (0x114B3, .mark), (0x114B9, .left), (0x114BA, .mark),
  (0x114BB, .left), (0x114BF, .mark), (0x114C1, .left), (0x114C2, .mark), (0x114C4, .left),
  (0x115B2, .mark), (0x115B6, .left), (0x115BC, .mark), (0x115BE, .left), (0x115BF, .mark),
  (0x115C1, .left), (0x115DC, .mark), (0x115DE, .left), (0x11633, .mark), (0x1163B, .left),
  (0x1163D, .mark), (0x1163E, .left), (0x1163F, .mark), (0x11641, .left), (0x11660, .neutral),
  (0x1166D, .left), (0x116AB, .mark), (0x116AC, .left), (0x116AD, .mark), (0x116AE, .left),
  (0x116B0, .mark), (0x116B6, .left), (0x116B7, .mark), (0x116B8, .left), (0x1171D, .mark),
  (0x1171E, .left), (0x1171F, .mark), (0x11720, .left), (0x11722, .mark), (0x11726, .left),
  (0x11727, .mark), (0x1172C, .left), (0x1182F, .mark), (0x11838, .left), (0x11839, .mark),
  (0x1183B, .left), (0x1193B, .mark), (0x1193D, .left), (0x1193E, .mark), (0x1193F, .left),
  (0x11943, .mark), (0x11944, .left), (0x119D4, .mark), (0x119D8, .left), (0x119DA, .mark),
  (0x119DC, .left), (0x119E0, .mark), (0x119E1, .left), (0x11A01, .mark), (0x11A07, .left),
  (0x11A09, .mark), (0x11A0B, .left), (0x11A33, .mark), (0x11A39, .left), (0x11A3B, .mark),
  (0x11A3F, .left), (0x11A47, .mark), (0x11A48, .left), (0x11A51, .mark), (0x11A57, .left),
  (0x11A59, .mark), (0x11A5C, .left), (0x11A8A, .mark), (0x11A97, .left), (0x11A98, .mark),
  (0x11A9A, .left), (0x11B60, .mark), (0x11B61, .left), (0x11B62, .mark), (0x11B65, .left),
  (0x11B66, .mark), (0x11B67, .left), (0x11C30, .mark), (0x11C37, .left), (0x11C38, .mark),
  (0x11C3E, .left), (0x11C92, .mark), (0x11CA8, .left), (0x11CAA, .mark), (0x11CB1, .left),
  (0x11CB2, .mark), (0x11CB4, .left), (0x11CB5, .mark), (0x11CB7, .left), (0x11D31, .mark),
  (0x11D37, .left), (0x11D3A, .mark), (0x11D3B, .left), (0x11D3C, .mark), (0x11D3E, .left),
  (0x11D3F, .mark), (0x11D46, .left), (0x11D47, .mark), (0x11D48, .left), (0x11D90, .mark),
  (0x11D92, .left), (0x11D95, .mark), (0x11D96, .left), (0x11D97, .mark), (0x11D98, .left),
  (0x11EF3, .mark), (0x11EF5, .left), (0x11F00, .mark), (0x11F02, .left), (0x11F36, .mark),
  (0x11F3B, .left), (0x11F40, .mark), (0x11F41, .left), (0x11F42, .mark), (0x11F43, .left),
  (0x11F5A, .mark), (0x11F5B, .left), (0x11FD5, .neutral), (0x11FF2, .left), (0x13440, .mark),
  (0x13441, .left), (0x13447, .mark), (0x13456, .left), (0x1611E, .mark), (0x1612A, .left),
  (0x1612D, .mark), (0x16130, .left), (0x16AF0, .mark), (0x16AF5, .left), (0x16B30, .mark),
  (0x16B37, .left), (0x16F4F, .mark), (0x16F50, .left), (0x16F8F, .mark), (0x16F93, .left),
  (0x16FE2, .neutral), (0x16FE3, .left), (0x16FE4, .mark), (0x16FE5, .left), (0x1BC9D, .mark),
  (0x1BC9F, .left), (0x1BCA0, .neutral), (0x1BCA4, .left), (0x1CC00, .neutral), (0x1CCD6, .left),
  (0x1CCF0, .europeanNumber), (0x1CCFA, .neutral), (0x1CCFD, .left), (0x1CD00, .neutral),
  (0x1CEB4, .left), (0x1CEBA, .neutral), (0x1CED1, .left), (0x1CEE0, .neutral), (0x1CEF1, .left),
  (0x1CF00, .mark), (0x1CF2E, .left), (0x1CF30, .mark), (0x1CF47, .left), (0x1D167, .mark),
  (0x1D16A, .left), (0x1D173, .neutral), (0x1D17B, .mark), (0x1D183, .left), (0x1D185, .mark),
  (0x1D18C, .left), (0x1D1AA, .mark), (0x1D1AE, .left), (0x1D1E9, .neutral), (0x1D1EB, .left),
  (0x1D200, .neutral), (0x1D242, .mark), (0x1D245, .neutral), (0x1D246, .left),
  (0x1D300, .neutral), (0x1D357, .left), (0x1D6C1, .neutral), (0x1D6C2, .left),
  (0x1D6DB, .neutral), (0x1D6DC, .left), (0x1D6FB, .neutral), (0x1D6FC, .left),
  (0x1D715, .neutral), (0x1D716, .left), (0x1D735, .neutral), (0x1D736, .left),
  (0x1D74F, .neutral), (0x1D750, .left), (0x1D76F, .neutral), (0x1D770, .left),
  (0x1D789, .neutral), (0x1D78A, .left), (0x1D7A9, .neutral), (0x1D7AA, .left),
  (0x1D7C3, .neutral), (0x1D7C4, .left), (0x1D7CE, .europeanNumber), (0x1D800, .left),
  (0x1DA00, .mark), (0x1DA37, .left), (0x1DA3B, .mark), (0x1DA6D, .left), (0x1DA75, .mark),
  (0x1DA76, .left), (0x1DA84, .mark), (0x1DA85, .left), (0x1DA9B, .mark), (0x1DAA0, .left),
  (0x1DAA1, .mark), (0x1DAB0, .left), (0x1E000, .mark), (0x1E007, .left), (0x1E008, .mark),
  (0x1E019, .left), (0x1E01B, .mark), (0x1E022, .left), (0x1E023, .mark), (0x1E025, .left),
  (0x1E026, .mark), (0x1E02B, .left), (0x1E08F, .mark), (0x1E090, .left), (0x1E130, .mark),
  (0x1E137, .left), (0x1E2AE, .mark), (0x1E2AF, .left), (0x1E2EC, .mark), (0x1E2F0, .left),
  (0x1E2FF, .neutral), (0x1E300, .left), (0x1E4EC, .mark), (0x1E4F0, .left), (0x1E5EE, .mark),
  (0x1E5F0, .left), (0x1E6E3, .mark), (0x1E6E4, .left), (0x1E6E6, .mark), (0x1E6E7, .left),
  (0x1E6EE, .mark), (0x1E6F0, .left), (0x1E6F5, .mark), (0x1E6F6, .left), (0x1E800, .right),
  (0x1E8D0, .mark), (0x1E8D7, .right), (0x1E944, .mark), (0x1E94B, .right),
  (0x1EC70, .arabicLetter), (0x1ECC0, .right), (0x1ED00, .arabicLetter), (0x1ED50, .right),
  (0x1EE00, .arabicLetter), (0x1EEF0, .neutral), (0x1EEF2, .arabicLetter), (0x1EF00, .right),
  (0x1F000, .neutral), (0x1F02C, .left), (0x1F030, .neutral), (0x1F094, .left),
  (0x1F0A0, .neutral), (0x1F0AF, .left), (0x1F0B1, .neutral), (0x1F0C0, .left),
  (0x1F0C1, .neutral), (0x1F0D0, .left), (0x1F0D1, .neutral), (0x1F0F6, .left),
  (0x1F100, .europeanNumber), (0x1F10B, .neutral), (0x1F110, .left), (0x1F12F, .neutral),
  (0x1F130, .left), (0x1F16A, .neutral), (0x1F170, .left), (0x1F1AD, .neutral), (0x1F1AE, .left),
  (0x1F260, .neutral), (0x1F266, .left), (0x1F300, .neutral), (0x1F6D9, .left),
  (0x1F6DC, .neutral), (0x1F6ED, .left), (0x1F6F0, .neutral), (0x1F6FD, .left),
  (0x1F700, .neutral), (0x1F7DA, .left), (0x1F7E0, .neutral), (0x1F7EC, .left),
  (0x1F7F0, .neutral), (0x1F7F1, .left), (0x1F800, .neutral), (0x1F80C, .left),
  (0x1F810, .neutral), (0x1F848, .left), (0x1F850, .neutral), (0x1F85A, .left),
  (0x1F860, .neutral), (0x1F888, .left), (0x1F890, .neutral), (0x1F8AE, .left),
  (0x1F8B0, .neutral), (0x1F8BC, .left), (0x1F8C0, .neutral), (0x1F8C2, .left),
  (0x1F8D0, .neutral), (0x1F8D9, .left), (0x1F900, .neutral), (0x1FA58, .left),
  (0x1FA60, .neutral), (0x1FA6E, .left), (0x1FA70, .neutral), (0x1FA7D, .left),
  (0x1FA80, .neutral), (0x1FA8B, .left), (0x1FA8E, .neutral), (0x1FAC7, .left),
  (0x1FAC8, .neutral), (0x1FAC9, .left), (0x1FACD, .neutral), (0x1FADD, .left),
  (0x1FADF, .neutral), (0x1FAEB, .left), (0x1FAEF, .neutral), (0x1FAF9, .left),
  (0x1FB00, .neutral), (0x1FB93, .left), (0x1FB94, .neutral), (0x1FBF0, .europeanNumber),
  (0x1FBFA, .neutral), (0x1FBFB, .left), (0x1FFFE, .neutral), (0x20000, .left),
  (0x2FFFE, .neutral), (0x30000, .left), (0x3FFFE, .neutral), (0x40000, .left),
  (0x4FFFE, .neutral), (0x50000, .left), (0x5FFFE, .neutral), (0x60000, .left),
  (0x6FFFE, .neutral), (0x70000, .left), (0x7FFFE, .neutral), (0x80000, .left),
  (0x8FFFE, .neutral), (0x90000, .left), (0x9FFFE, .neutral), (0xA0000, .left),
  (0xAFFFE, .neutral), (0xB0000, .left), (0xBFFFE, .neutral), (0xC0000, .left),
  (0xCFFFE, .neutral), (0xD0000, .left), (0xDFFFE, .neutral), (0xE0100, .mark),
  (0xE01F0, .neutral), (0xE1000, .left), (0xEFFFE, .neutral), (0xF0000, .left),
  (0xFFFFE, .neutral), (0x100000, .left), (0x10FFFE, .neutral)]⟩

/-- The direction of a character. -/
def direction (c : Char) : Direction := directions.value c

/-- Whether a direction makes a text one that has to be ordered for reading. -/
def Direction.isRightToLeft : Direction → Bool
  | .right | .arabicLetter | .arabicNumber => true
  | _ => false

end Beacon.Text
