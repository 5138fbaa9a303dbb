import StructuralEdit.CharSet.Table
/-!
Simple case folding of the Unicode character database, version 16: which characters differ
only in case.
-/
namespace StructuralEdit.CaseFolding

/-- Pairs of characters that differ in case only: each listed character goes with the one
the given distance above it. -/
def pairs : List (Nat × String) := [
  (1, "100-12E/2 132-136/2 139-147/2 14A-176/2 179-17D/2 182 184 187 18B 191 198 1A0-1A4/2 1A7 1AC
    1AF 1B3 1B5 1B8 1BC 1CD-1DB/2 1DE-1EE/2 1F4 1F8-21E/2 222-232/2 23B 241 246-24E/2 370 372
    376 3D8-3EE/2 3F7 3FA 460 464-480/2 48A-4BE/2 4C1-4CD/2 4D0-52E/2 1C89 1E00-1E5E/2
    1E62-1E94/2 1EA0-1EFE/2 2183 2C60 2C67-2C6B/2 2C72 2C75 2C80-2CE2/2 2CEB 2CED 2CF2
    A640-A648/2 A64C-A66C/2 A680-A69A/2 A722-A72E/2 A732-A76E/2 A779 A77B A77E-A786/2 A78B A790
    A792 A796-A7A8/2 A7B4-A7C2/2 A7C7 A7C9 A7CC A7D0 A7D6-A7DA/2 A7F5 FB05"),
  (7, "3F2 1FE5"),
  (8, "3CF 13F0-13F5 1F00-1F07 1F10-1F15 1F20-1F27 1F30-1F37 1F40-1F45 1F51-1F57/2 1F60-1F67
    1F80-1F87 1F90-1F97 1FA0-1FA7 1FB0 1FB1 1FD0 1FD1 1FE0 1FE1"),
  (9, "1FB3 1FC3 1FF3"),
  (15, "4C0"),
  (16, "2160-216F"),
  (26, "24B6-24CF"),
  (28, "2132"),
  (32, "41-4A 4C-5A/2 4D-51/2 55-59/2 C0-DE/2 C1 C3 C7-D5/2 D9-DD/2 391 393 394 396 397 39B-39F/2
    39E 3A4 3A5 3A7 3A8 3AA 3AB 410 411-41F/2 416-41C/2 420 423-429 42B-42F FF21-FF3A
    10D50-10D65 118A0-118BF 16E40-16E5F"),
  (34, "1E900-1E921"),
  (37, "388-38A"),
  (38, "386"),
  (39, "10570-10594/2 10571-10579/2 1057D-10589/2 1058D-10591/2 10595"),
  (40, "10400-10427 104B0-104D3"),
  (48, "531-556 2C00-2C2F A794"),
  (56, "1BF"),
  (63, "38E 38F"),
  (64, "38C 10C80-10CB2"),
  (69, "244"),
  (71, "245"),
  (74, "1F70 1F71"),
  (79, "18E"),
  (80, "400-40F"),
  (86, "1F72-1F75"),
  (97, "195"),
  (100, "1F76 1F77"),
  (112, "1F7A 1F7B"),
  (116, "37F"),
  (121, "FF"),
  (126, "1F7C 1F7D"),
  (128, "1F78 1F79"),
  (130, "19E 37B-37D"),
  (163, "19A"),
  (195, "180"),
  (202, "18F"),
  (203, "190"),
  (205, "189 18A 193"),
  (206, "186"),
  (207, "194"),
  (209, "197"),
  (210, "181"),
  (211, "196 19C"),
  (213, "19D"),
  (214, "19F"),
  (217, "1B1 1B2"),
  (218, "1A6 1A9 1AE"),
  (219, "1B7"),
  (928, "A7B3"),
  (3008, "10D0-10FA 10FD-10FF"),
  (3814, "1D7D"),
  (7219, "3B0"),
  (7235, "390"),
  (7264, "10A0-10C5 10C7 10CD"),
  (7615, "DF"),
  (10727, "27D"),
  (10743, "26B"),
  (10749, "271"),
  (10780, "251"),
  (10782, "252"),
  (10783, "250"),
  (10792, "23E"),
  (10795, "23A"),
  (10815, "23F 240"),
  (35332, "1D79"),
  (35384, "1D8E"),
  (38864, "13A0-13EF"),
  (42258, "29E"),
  (42261, "29D"),
  (42280, "265"),
  (42282, "287"),
  (42305, "26C"),
  (42307, "282"),
  (42308, "266 26A"),
  (42315, "261"),
  (42319, "25C"),
  (42343, "264"),
  (42561, "19B")]

def groups : List (List Nat) := [
  [0x4B, 0x6B, 0x212A],
  [0x53, 0x73, 0x17F],
  [0xB5, 0x39C, 0x3BC],
  [0xC5, 0xE5, 0x212B],
  [0x1C4, 0x1C5, 0x1C6],
  [0x1C7, 0x1C8, 0x1C9],
  [0x1CA, 0x1CB, 0x1CC],
  [0x1F1, 0x1F2, 0x1F3],
  [0x345, 0x399, 0x3B9, 0x1FBE],
  [0x392, 0x3B2, 0x3D0],
  [0x395, 0x3B5, 0x3F5],
  [0x398, 0x3B8, 0x3D1, 0x3F4],
  [0x39A, 0x3BA, 0x3F0],
  [0x3A0, 0x3C0, 0x3D6],
  [0x3A1, 0x3C1, 0x3F1],
  [0x3A3, 0x3C2, 0x3C3],
  [0x3A6, 0x3C6, 0x3D5],
  [0x3A9, 0x3C9, 0x2126],
  [0x412, 0x432, 0x1C80],
  [0x414, 0x434, 0x1C81],
  [0x41E, 0x43E, 0x1C82],
  [0x421, 0x441, 0x1C83],
  [0x422, 0x442, 0x1C84, 0x1C85],
  [0x42A, 0x44A, 0x1C86],
  [0x462, 0x463, 0x1C87],
  [0x1C88, 0xA64A, 0xA64B],
  [0x1E60, 0x1E61, 0x1E9B]]

def orbits : List (List Nat) :=
  groups ++ pairs.flatMap fun (distance, table) =>
    (CharSet.ofTable table).toList.map fun c => [c, c + distance]

end StructuralEdit.CaseFolding

namespace StructuralEdit.CharSet

def foldCase (s : CharSet) : CharSet :=
  .ofRanges (s.ranges ++ (CaseFolding.orbits.filter fun o => o.any s.hasCode).flatMap fun o =>
    o.map fun c => (c, c))

end StructuralEdit.CharSet
