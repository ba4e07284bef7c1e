import Beacon.Text.CharTable

/-!
# Joining

On which sides the form of a letter joins its neighbours, by the property `Joining_Type` of
Unicode 17 with the newer marks U+05C8, U+0B53 and U+1ADE, and the two characters without a form
that ask for joined and for separate forms.
-/

namespace Beacon.Text

/-- The sides on which a character joins its neighbours. -/
inductive Joining where
  | none
  /-- The following character only. -/
  | left
  /-- The character before it only. -/
  | right
  | dual
  /-- Both sides, without a form that changes. -/
  | causing
  /-- The characters at its sides join across it. -/
  | transparent
deriving DecidableEq, Repr

/-- The joining types of all characters. -/
def joinings : CharMap Joining := ⟨.none, #[
  (0xAD, .transparent), (0xAE, .none), (0x300, .transparent), (0x370, .none),
  (0x483, .transparent), (0x48A, .none), (0x591, .transparent), (0x5BE, .none),
  (0x5BF, .transparent), (0x5C0, .none), (0x5C1, .transparent), (0x5C3, .none),
  (0x5C4, .transparent), (0x5C6, .none), (0x5C7, .transparent), (0x5C9, .none),
  (0x610, .transparent), (0x61B, .none), (0x61C, .transparent), (0x61D, .none), (0x620, .dual),
  (0x621, .none), (0x622, .right), (0x626, .dual), (0x627, .right), (0x628, .dual),
  (0x629, .right), (0x62A, .dual), (0x62F, .right), (0x633, .dual), (0x640, .causing),
  (0x641, .dual), (0x648, .right), (0x649, .dual), (0x64B, .transparent), (0x660, .none),
  (0x66E, .dual), (0x670, .transparent), (0x671, .right), (0x674, .none), (0x675, .right),
  (0x678, .dual), (0x688, .right), (0x69A, .dual), (0x6C0, .right), (0x6C1, .dual),
  (0x6C3, .right), (0x6CC, .dual), (0x6CD, .right), (0x6CE, .dual), (0x6CF, .right),
  (0x6D0, .dual), (0x6D2, .right), (0x6D4, .none), (0x6D5, .right), (0x6D6, .transparent),
  (0x6DD, .none), (0x6DF, .transparent), (0x6E5, .none), (0x6E7, .transparent), (0x6E9, .none),
  (0x6EA, .transparent), (0x6EE, .right), (0x6F0, .none), (0x6FA, .dual), (0x6FD, .none),
  (0x6FF, .dual), (0x700, .none), (0x70F, .transparent), (0x710, .right), (0x711, .transparent),
  (0x712, .dual), (0x715, .right), (0x71A, .dual), (0x71E, .right), (0x71F, .dual),
  (0x728, .right), (0x729, .dual), (0x72A, .right), (0x72B, .dual), (0x72C, .right),
  (0x72D, .dual), (0x72F, .right), (0x730, .transparent), (0x74B, .none), (0x74D, .right),
  (0x74E, .dual), (0x759, .right), (0x75C, .dual), (0x76B, .right), (0x76D, .dual),
  (0x771, .right), (0x772, .dual), (0x773, .right), (0x775, .dual), (0x778, .right),
  (0x77A, .dual), (0x780, .none), (0x7A6, .transparent), (0x7B1, .none), (0x7CA, .dual),
  (0x7EB, .transparent), (0x7F4, .none), (0x7FA, .causing), (0x7FB, .none), (0x7FD, .transparent),
  (0x7FE, .none), (0x816, .transparent), (0x81A, .none), (0x81B, .transparent), (0x824, .none),
  (0x825, .transparent), (0x828, .none), (0x829, .transparent), (0x82E, .none), (0x840, .right),
  (0x841, .dual), (0x846, .right), (0x848, .dual), (0x849, .right), (0x84A, .dual),
  (0x854, .right), (0x855, .dual), (0x856, .right), (0x859, .transparent), (0x85C, .none),
  (0x860, .dual), (0x861, .none), (0x862, .dual), (0x866, .none), (0x867, .right), (0x868, .dual),
  (0x869, .right), (0x86B, .none), (0x870, .right), (0x883, .causing), (0x886, .dual),
  (0x887, .none), (0x889, .dual), (0x88E, .right), (0x88F, .dual), (0x890, .none),
  (0x897, .transparent), (0x8A0, .dual), (0x8AA, .right), (0x8AD, .none), (0x8AE, .right),
  (0x8AF, .dual), (0x8B1, .right), (0x8B3, .dual), (0x8B9, .right), (0x8BA, .dual),
  (0x8C9, .none), (0x8CA, .transparent), (0x8E2, .none), (0x8E3, .transparent), (0x903, .none),
  (0x93A, .transparent), (0x93B, .none), (0x93C, .transparent), (0x93D, .none),
  (0x941, .transparent), (0x949, .none), (0x94D, .transparent), (0x94E, .none),
  (0x951, .transparent), (0x958, .none), (0x962, .transparent), (0x964, .none),
  (0x981, .transparent), (0x982, .none), (0x9BC, .transparent), (0x9BD, .none),
  (0x9C1, .transparent), (0x9C5, .none), (0x9CD, .transparent), (0x9CE, .none),
  (0x9E2, .transparent), (0x9E4, .none), (0x9FE, .transparent), (0x9FF, .none),
  (0xA01, .transparent), (0xA03, .none), (0xA3C, .transparent), (0xA3D, .none),
  (0xA41, .transparent), (0xA43, .none), (0xA47, .transparent), (0xA49, .none),
  (0xA4B, .transparent), (0xA4E, .none), (0xA51, .transparent), (0xA52, .none),
  (0xA70, .transparent), (0xA72, .none), (0xA75, .transparent), (0xA76, .none),
  (0xA81, .transparent), (0xA83, .none), (0xABC, .transparent), (0xABD, .none),
  (0xAC1, .transparent), (0xAC6, .none), (0xAC7, .transparent), (0xAC9, .none),
  (0xACD, .transparent), (0xACE, .none), (0xAE2, .transparent), (0xAE4, .none),
  (0xAFA, .transparent), (0xB00, .none), (0xB01, .transparent), (0xB02, .none),
  (0xB3C, .transparent), (0xB3D, .none), (0xB3F, .transparent), (0xB40, .none),
  (0xB41, .transparent), (0xB45, .none), (0xB4D, .transparent), (0xB4E, .none),
  (0xB53, .transparent), (0xB54, .none), (0xB55, .transparent), (0xB57, .none),
  (0xB62, .transparent), (0xB64, .none), (0xB82, .transparent), (0xB83, .none),
  (0xBC0, .transparent), (0xBC1, .none), (0xBCD, .transparent), (0xBCE, .none),
  (0xC00, .transparent), (0xC01, .none), (0xC04, .transparent), (0xC05, .none),
  (0xC3C, .transparent), (0xC3D, .none), (0xC3E, .transparent), (0xC41, .none),
  (0xC46, .transparent), (0xC49, .none), (0xC4A, .transparent), (0xC4E, .none),
  (0xC55, .transparent), (0xC57, .none), (0xC62, .transparent), (0xC64, .none),
  (0xC81, .transparent), (0xC82, .none), (0xCBC, .transparent), (0xCBD, .none),
  (0xCBF, .transparent), (0xCC0, .none), (0xCC6, .transparent), (0xCC7, .none),
  (0xCCC, .transparent), (0xCCE, .none), (0xCE2, .transparent), (0xCE4, .none),
  (0xD00, .transparent), (0xD02, .none), (0xD3B, .transparent), (0xD3D, .none),
  (0xD41, .transparent), (0xD45, .none), (0xD4D, .transparent), (0xD4E, .none),
  (0xD62, .transparent), (0xD64, .none), (0xD81, .transparent), (0xD82, .none),
  (0xDCA, .transparent), (0xDCB, .none), (0xDD2, .transparent), (0xDD5, .none),
  (0xDD6, .transparent), (0xDD7, .none), (0xE31, .transparent), (0xE32, .none),
  (0xE34, .transparent), (0xE3B, .none), (0xE47, .transparent), (0xE4F, .none),
  (0xEB1, .transparent), (0xEB2, .none), (0xEB4, .transparent), (0xEBD, .none),
  (0xEC8, .transparent), (0xECF, .none), (0xF18, .transparent), (0xF1A, .none),
  (0xF35, .transparent), (0xF36, .none), (0xF37, .transparent), (0xF38, .none),
  (0xF39, .transparent), (0xF3A, .none), (0xF71, .transparent), (0xF7F, .none),
  (0xF80, .transparent), (0xF85, .none), (0xF86, .transparent), (0xF88, .none),
  (0xF8D, .transparent), (0xF98, .none), (0xF99, .transparent), (0xFBD, .none),
  (0xFC6, .transparent), (0xFC7, .none), (0x102D, .transparent), (0x1031, .none),
  (0x1032, .transparent), (0x1038, .none), (0x1039, .transparent), (0x103B, .none),
  (0x103D, .transparent), (0x103F, .none), (0x1058, .transparent), (0x105A, .none),
  (0x105E, .transparent), (0x1061, .none), (0x1071, .transparent), (0x1075, .none),
  (0x1082, .transparent), (0x1083, .none), (0x1085, .transparent), (0x1087, .none),
  (0x108D, .transparent), (0x108E, .none), (0x109D, .transparent), (0x109E, .none),
  (0x135D, .transparent), (0x1360, .none), (0x1712, .transparent), (0x1715, .none),
  (0x1732, .transparent), (0x1734, .none), (0x1752, .transparent), (0x1754, .none),
  (0x1772, .transparent), (0x1774, .none), (0x17B4, .transparent), (0x17B6, .none),
  (0x17B7, .transparent), (0x17BE, .none), (0x17C6, .transparent), (0x17C7, .none),
  (0x17C9, .transparent), (0x17D4, .none), (0x17DD, .transparent), (0x17DE, .none),
  (0x1807, .dual), (0x1808, .none), (0x180A, .causing), (0x180B, .transparent), (0x180E, .none),
  (0x180F, .transparent), (0x1810, .none), (0x1820, .dual), (0x1879, .none),
  (0x1885, .transparent), (0x1887, .dual), (0x18A9, .transparent), (0x18AA, .dual),
  (0x18AB, .none), (0x1920, .transparent), (0x1923, .none), (0x1927, .transparent),
  (0x1929, .none), (0x1932, .transparent), (0x1933, .none), (0x1939, .transparent),
  (0x193C, .none), (0x1A17, .transparent), (0x1A19, .none), (0x1A1B, .transparent),
  (0x1A1C, .none), (0x1A56, .transparent), (0x1A57, .none), (0x1A58, .transparent),
  (0x1A5F, .none), (0x1A60, .transparent), (0x1A61, .none), (0x1A62, .transparent),
  (0x1A63, .none), (0x1A65, .transparent), (0x1A6D, .none), (0x1A73, .transparent),
  (0x1A7D, .none), (0x1A7F, .transparent), (0x1A80, .none), (0x1AB0, .transparent),
  (0x1ADF, .none), (0x1AE0, .transparent), (0x1AEC, .none), (0x1B00, .transparent),
  (0x1B04, .none), (0x1B34, .transparent), (0x1B35, .none), (0x1B36, .transparent),
  (0x1B3B, .none), (0x1B3C, .transparent), (0x1B3D, .none), (0x1B42, .transparent),
  (0x1B43, .none), (0x1B6B, .transparent), (0x1B74, .none), (0x1B80, .transparent),
  (0x1B82, .none), (0x1BA2, .transparent), (0x1BA6, .none), (0x1BA8, .transparent),
  (0x1BAA, .none), (0x1BAB, .transparent), (0x1BAE, .none), (0x1BE6, .transparent),
  (0x1BE7, .none), (0x1BE8, .transparent), (0x1BEA, .none), (0x1BED, .transparent),
  (0x1BEE, .none), (0x1BEF, .transparent), (0x1BF2, .none), (0x1C2C, .transparent),
  (0x1C34, .none), (0x1C36, .transparent), (0x1C38, .none), (0x1CD0, .transparent),
  (0x1CD3, .none), (0x1CD4, .transparent), (0x1CE1, .none), (0x1CE2, .transparent),
  (0x1CE9, .none), (0x1CED, .transparent), (0x1CEE, .none), (0x1CF4, .transparent),
  (0x1CF5, .none), (0x1CF8, .transparent), (0x1CFA, .none), (0x1DC0, .transparent),
  (0x1E00, .none), (0x200B, .transparent), (0x200C, .none), (0x200D, .causing),
  (0x200E, .transparent), (0x2010, .none), (0x202A, .transparent), (0x202F, .none),
  (0x2060, .transparent), (0x2065, .none), (0x206A, .transparent), (0x2070, .none),
  (0x20D0, .transparent), (0x20F1, .none), (0x2CEF, .transparent), (0x2CF2, .none),
  (0x2D7F, .transparent), (0x2D80, .none), (0x2DE0, .transparent), (0x2E00, .none),
  (0x302A, .transparent), (0x302E, .none), (0x3099, .transparent), (0x309B, .none),
  (0xA66F, .transparent), (0xA673, .none), (0xA674, .transparent), (0xA67E, .none),
  (0xA69E, .transparent), (0xA6A0, .none), (0xA6F0, .transparent), (0xA6F2, .none),
  (0xA802, .transparent), (0xA803, .none), (0xA806, .transparent), (0xA807, .none),
  (0xA80B, .transparent), (0xA80C, .none), (0xA825, .transparent), (0xA827, .none),
  (0xA82C, .transparent), (0xA82D, .none), (0xA840, .dual), (0xA872, .left), (0xA873, .none),
  (0xA8C4, .transparent), (0xA8C6, .none), (0xA8E0, .transparent), (0xA8F2, .none),
  (0xA8FF, .transparent), (0xA900, .none), (0xA926, .transparent), (0xA92E, .none),
  (0xA947, .transparent), (0xA952, .none), (0xA980, .transparent), (0xA983, .none),
  (0xA9B3, .transparent), (0xA9B4, .none), (0xA9B6, .transparent), (0xA9BA, .none),
  (0xA9BC, .transparent), (0xA9BE, .none), (0xA9E5, .transparent), (0xA9E6, .none),
  (0xAA29, .transparent), (0xAA2F, .none), (0xAA31, .transparent), (0xAA33, .none),
  (0xAA35, .transparent), (0xAA37, .none), (0xAA43, .transparent), (0xAA44, .none),
  (0xAA4C, .transparent), (0xAA4D, .none), (0xAA7C, .transparent), (0xAA7D, .none),
  (0xAAB0, .transparent), (0xAAB1, .none), (0xAAB2, .transparent), (0xAAB5, .none),
  (0xAAB7, .transparent), (0xAAB9, .none), (0xAABE, .transparent), (0xAAC0, .none),
  (0xAAC1, .transparent), (0xAAC2, .none), (0xAAEC, .transparent), (0xAAEE, .none),
  (0xAAF6, .transparent), (0xAAF7, .none), (0xABE5, .transparent), (0xABE6, .none),
  (0xABE8, .transparent), (0xABE9, .none), (0xABED, .transparent), (0xABEE, .none),
  (0xFB1E, .transparent), (0xFB1F, .none), (0xFE00, .transparent), (0xFE10, .none),
  (0xFE20, .transparent), (0xFE30, .none), (0xFEFF, .transparent), (0xFF00, .none),
  (0xFFF9, .transparent), (0xFFFC, .none), (0x101FD, .transparent), (0x101FE, .none),
  (0x102E0, .transparent), (0x102E1, .none), (0x10376, .transparent), (0x1037B, .none),
  (0x10A01, .transparent), (0x10A04, .none), (0x10A05, .transparent), (0x10A07, .none),
  (0x10A0C, .transparent), (0x10A10, .none), (0x10A38, .transparent), (0x10A3B, .none),
  (0x10A3F, .transparent), (0x10A40, .none), (0x10AC0, .dual), (0x10AC5, .right),
  (0x10AC6, .none), (0x10AC7, .right), (0x10AC8, .none), (0x10AC9, .right), (0x10ACB, .none),
  (0x10ACD, .left), (0x10ACE, .right), (0x10AD3, .dual), (0x10AD7, .left), (0x10AD8, .dual),
  (0x10ADD, .right), (0x10ADE, .dual), (0x10AE1, .right), (0x10AE2, .none), (0x10AE4, .right),
  (0x10AE5, .transparent), (0x10AE7, .none), (0x10AEB, .dual), (0x10AEF, .right),
  (0x10AF0, .none), (0x10B80, .dual), (0x10B81, .right), (0x10B82, .dual), (0x10B83, .right),
  (0x10B86, .dual), (0x10B89, .right), (0x10B8A, .dual), (0x10B8C, .right), (0x10B8D, .dual),
  (0x10B8E, .right), (0x10B90, .dual), (0x10B91, .right), (0x10B92, .none), (0x10BA9, .right),
  (0x10BAD, .dual), (0x10BAF, .none), (0x10D00, .left), (0x10D01, .dual), (0x10D22, .right),
  (0x10D23, .dual), (0x10D24, .transparent), (0x10D28, .none), (0x10D69, .transparent),
  (0x10D6E, .none), (0x10EAB, .transparent), (0x10EAD, .none), (0x10EC2, .right),
  (0x10EC3, .dual), (0x10EC5, .none), (0x10EC6, .dual), (0x10EC8, .none), (0x10EFA, .transparent),
  (0x10F00, .none), (0x10F30, .dual), (0x10F33, .right), (0x10F34, .dual), (0x10F45, .none),
  (0x10F46, .transparent), (0x10F51, .dual), (0x10F54, .right), (0x10F55, .none),
  (0x10F70, .dual), (0x10F74, .right), (0x10F76, .dual), (0x10F82, .transparent),
  (0x10F86, .none), (0x10FB0, .dual), (0x10FB1, .none), (0x10FB2, .dual), (0x10FB4, .right),
  (0x10FB7, .none), (0x10FB8, .dual), (0x10FB9, .right), (0x10FBB, .dual), (0x10FBD, .right),
  (0x10FBE, .dual), (0x10FC0, .none), (0x10FC1, .dual), (0x10FC2, .right), (0x10FC4, .dual),
  (0x10FC5, .none), (0x10FC9, .right), (0x10FCA, .dual), (0x10FCB, .left), (0x10FCC, .none),
  (0x11001, .transparent), (0x11002, .none), (0x11038, .transparent), (0x11047, .none),
  (0x11070, .transparent), (0x11071, .none), (0x11073, .transparent), (0x11075, .none),
  (0x1107F, .transparent), (0x11082, .none), (0x110B3, .transparent), (0x110B7, .none),
  (0x110B9, .transparent), (0x110BB, .none), (0x110C2, .transparent), (0x110C3, .none),
  (0x11100, .transparent), (0x11103, .none), (0x11127, .transparent), (0x1112C, .none),
  (0x1112D, .transparent), (0x11135, .none), (0x11173, .transparent), (0x11174, .none),
  (0x11180, .transparent), (0x11182, .none), (0x111B6, .transparent), (0x111BF, .none),
  (0x111C9, .transparent), (0x111CD, .none), (0x111CF, .transparent), (0x111D0, .none),
  (0x1122F, .transparent), (0x11232, .none), (0x11234, .transparent), (0x11235, .none),
  (0x11236, .transparent), (0x11238, .none), (0x1123E, .transparent), (0x1123F, .none),
  (0x11241, .transparent), (0x11242, .none), (0x112DF, .transparent), (0x112E0, .none),
  (0x112E3, .transparent), (0x112EB, .none), (0x11300, .transparent), (0x11302, .none),
  (0x1133B, .transparent), (0x1133D, .none), (0x11340, .transparent), (0x11341, .none),
  (0x11366, .transparent), (0x1136D, .none), (0x11370, .transparent), (0x11375, .none),
  (0x113BB, .transparent), (0x113C1, .none), (0x113CE, .transparent), (0x113CF, .none),
  (0x113D0, .transparent), (0x113D1, .none), (0x113D2, .transparent), (0x113D3, .none),
  (0x113E1, .transparent), (0x113E3, .none), (0x11438, .transparent), (0x11440, .none),
  (0x11442, .transparent), (0x11445, .none), (0x11446, .transparent), (0x11447, .none),
  (0x1145E, .transparent), (0x1145F, .none), (0x114B3, .transparent), (0x114B9, .none),
  (0x114BA, .transparent), (0x114BB, .none), (0x114BF, .transparent), (0x114C1, .none),
  (0x114C2, .transparent), (0x114C4, .none), (0x115B2, .transparent), (0x115B6, .none),
  (0x115BC, .transparent), (0x115BE, .none), (0x115BF, .transparent), (0x115C1, .none),
  (0x115DC, .transparent), (0x115DE, .none), (0x11633, .transparent), (0x1163B, .none),
  (0x1163D, .transparent), (0x1163E, .none), (0x1163F, .transparent), (0x11641, .none),
  (0x116AB, .transparent), (0x116AC, .none), (0x116AD, .transparent), (0x116AE, .none),
  (0x116B0, .transparent), (0x116B6, .none), (0x116B7, .transparent), (0x116B8, .none),
  (0x1171D, .transparent), (0x1171E, .none), (0x1171F, .transparent), (0x11720, .none),
  (0x11722, .transparent), (0x11726, .none), (0x11727, .transparent), (0x1172C, .none),
  (0x1182F, .transparent), (0x11838, .none), (0x11839, .transparent), (0x1183B, .none),
  (0x1193B, .transparent), (0x1193D, .none), (0x1193E, .transparent), (0x1193F, .none),
  (0x11943, .transparent), (0x11944, .none), (0x119D4, .transparent), (0x119D8, .none),
  (0x119DA, .transparent), (0x119DC, .none), (0x119E0, .transparent), (0x119E1, .none),
  (0x11A01, .transparent), (0x11A0B, .none), (0x11A33, .transparent), (0x11A39, .none),
  (0x11A3B, .transparent), (0x11A3F, .none), (0x11A47, .transparent), (0x11A48, .none),
  (0x11A51, .transparent), (0x11A57, .none), (0x11A59, .transparent), (0x11A5C, .none),
  (0x11A8A, .transparent), (0x11A97, .none), (0x11A98, .transparent), (0x11A9A, .none),
  (0x11B60, .transparent), (0x11B61, .none), (0x11B62, .transparent), (0x11B65, .none),
  (0x11B66, .transparent), (0x11B67, .none), (0x11C30, .transparent), (0x11C37, .none),
  (0x11C38, .transparent), (0x11C3E, .none), (0x11C3F, .transparent), (0x11C40, .none),
  (0x11C92, .transparent), (0x11CA8, .none), (0x11CAA, .transparent), (0x11CB1, .none),
  (0x11CB2, .transparent), (0x11CB4, .none), (0x11CB5, .transparent), (0x11CB7, .none),
  (0x11D31, .transparent), (0x11D37, .none), (0x11D3A, .transparent), (0x11D3B, .none),
  (0x11D3C, .transparent), (0x11D3E, .none), (0x11D3F, .transparent), (0x11D46, .none),
  (0x11D47, .transparent), (0x11D48, .none), (0x11D90, .transparent), (0x11D92, .none),
  (0x11D95, .transparent), (0x11D96, .none), (0x11D97, .transparent), (0x11D98, .none),
  (0x11EF3, .transparent), (0x11EF5, .none), (0x11F00, .transparent), (0x11F02, .none),
  (0x11F36, .transparent), (0x11F3B, .none), (0x11F40, .transparent), (0x11F41, .none),
  (0x11F42, .transparent), (0x11F43, .none), (0x11F5A, .transparent), (0x11F5B, .none),
  (0x13430, .transparent), (0x13441, .none), (0x13447, .transparent), (0x13456, .none),
  (0x1611E, .transparent), (0x1612A, .none), (0x1612D, .transparent), (0x16130, .none),
  (0x16AF0, .transparent), (0x16AF5, .none), (0x16B30, .transparent), (0x16B37, .none),
  (0x16F4F, .transparent), (0x16F50, .none), (0x16F8F, .transparent), (0x16F93, .none),
  (0x16FE4, .transparent), (0x16FE5, .none), (0x1BC9D, .transparent), (0x1BC9F, .none),
  (0x1BCA0, .transparent), (0x1BCA4, .none), (0x1CF00, .transparent), (0x1CF2E, .none),
  (0x1CF30, .transparent), (0x1CF47, .none), (0x1D167, .transparent), (0x1D16A, .none),
  (0x1D173, .transparent), (0x1D183, .none), (0x1D185, .transparent), (0x1D18C, .none),
  (0x1D1AA, .transparent), (0x1D1AE, .none), (0x1D242, .transparent), (0x1D245, .none),
  (0x1DA00, .transparent), (0x1DA37, .none), (0x1DA3B, .transparent), (0x1DA6D, .none),
  (0x1DA75, .transparent), (0x1DA76, .none), (0x1DA84, .transparent), (0x1DA85, .none),
  (0x1DA9B, .transparent), (0x1DAA0, .none), (0x1DAA1, .transparent), (0x1DAB0, .none),
  (0x1E000, .transparent), (0x1E007, .none), (0x1E008, .transparent), (0x1E019, .none),
  (0x1E01B, .transparent), (0x1E022, .none), (0x1E023, .transparent), (0x1E025, .none),
  (0x1E026, .transparent), (0x1E02B, .none), (0x1E08F, .transparent), (0x1E090, .none),
  (0x1E130, .transparent), (0x1E137, .none), (0x1E2AE, .transparent), (0x1E2AF, .none),
  (0x1E2EC, .transparent), (0x1E2F0, .none), (0x1E4EC, .transparent), (0x1E4F0, .none),
  (0x1E5EE, .transparent), (0x1E5F0, .none), (0x1E6E3, .transparent), (0x1E6E4, .none),
  (0x1E6E6, .transparent), (0x1E6E7, .none), (0x1E6EE, .transparent), (0x1E6F0, .none),
  (0x1E6F5, .transparent), (0x1E6F6, .none), (0x1E8D0, .transparent), (0x1E8D7, .none),
  (0x1E900, .dual), (0x1E944, .transparent), (0x1E94C, .none), (0xE0001, .transparent),
  (0xE0002, .none), (0xE0020, .transparent), (0xE0080, .none), (0xE0100, .transparent),
  (0xE01F0, .none)]⟩

/-- The joining type of a character. -/
def joining (c : Char) : Joining := joinings.value c

/-- The character that asks for separate forms at its sides. -/
def nonJoiner : Char := '\u200c'

/-- The character that asks for joined forms at its sides. -/
def joiner : Char := '\u200d'

end Beacon.Text
