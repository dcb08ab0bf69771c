import ODataTable.Text.Ranges

/-! Characters in names of hosts.

Each character has an image, which is what it counts as: a letter in lower case, a plain letter
for a decorated one, nothing for what is not shown. Most characters are their own images.
-/

set_option autoImplicit false

namespace ODataTable.NameImage

def allowedRanges : List (Nat × Nat) :=
  readRanges "
    A1-A7 A9-AE B0-B3 B5-B7 B9-2D7 2DE-377 37B-37F 386-38A 38C 38E-3A1 3A3-52F 531-556 559-58A
    58D-58F 591-5C7 5D0-5EA 5EF-5F4 606-61B 61D-6DC 6DE-70D 710-74A 74D-7B1 7C0-7FA 7FD-82D
    830-83E 840-85B 85E 860-86A 870-88F 897-8E1 8E3-983 985-98C 98F-990 993-9A8 9AA-9B0 9B2
    9B6-9B9 9BC-9C4 9C7-9C8 9CB-9CE 9D7 9DC-9DD 9DF-9E3 9E6-9FE A01-A03 A05-A0A A0F-A10 A13-A28
    A2A-A30 A32-A33 A35-A36 A38-A39 A3C A3E-A42 A47-A48 A4B-A4D A51 A59-A5C A5E A66-A76 A81-A83
    A85-A8D A8F-A91 A93-AA8 AAA-AB0 AB2-AB3 AB5-AB9 ABC-AC5 AC7-AC9 ACB-ACD AD0 AE0-AE3 AE6-AF1
    AF9-AFF B01-B03 B05-B0C B0F-B10 B13-B28 B2A-B30 B32-B33 B35-B39 B3C-B44 B47-B48 B4B-B4D
    B55-B57 B5C-B5D B5F-B63 B66-B77 B82-B83 B85-B8A B8E-B90 B92-B95 B99-B9A B9C B9E-B9F BA3-BA4
    BA8-BAA BAE-BB9 BBE-BC2 BC6-BC8 BCA-BCD BD0 BD7 BE6-BFA C00-C0C C0E-C10 C12-C28 C2A-C39
    C3C-C44 C46-C48 C4A-C4D C55-C56 C58-C5A C5C-C5D C60-C63 C66-C6F C77-C8C C8E-C90 C92-CA8
    CAA-CB3 CB5-CB9 CBC-CC4 CC6-CC8 CCA-CCD CD5-CD6 CDC-CDE CE0-CE3 CE6-CEF CF1-CF3 D00-D0C
    D0E-D10 D12-D44 D46-D48 D4A-D4F D54-D63 D66-D7F D81-D83 D85-D96 D9A-DB1 DB3-DBB DBD DC0-DC6
    DCA DCF-DD4 DD6 DD8-DDF DE6-DEF DF2-DF4 E01-E3A E3F-E5B E81-E82 E84 E86-E8A E8C-EA3 EA5
    EA7-EBD EC0-EC4 EC6 EC8-ECE ED0-ED9 EDC-EDF F00-F47 F49-F6C F71-F97 F99-FBC FBE-FCC FCE-FDA
    1000-10C5 10C7 10CD 10D0-1248 124A-124D 1250-1256 1258 125A-125D 1260-1288 128A-128D 1290-12B0
    12B2-12B5 12B8-12BE 12C0 12C2-12C5 12C8-12D6 12D8-1310 1312-1315 1318-135A 135D-137C 1380-1399
    13A0-13F5 13F8-13FD 1400-167F 1681-169C 16A0-16F8 1700-1715 171F-1736 1740-1753 1760-176C
    176E-1770 1772-1773 1780-17DD 17E0-17E9 17F0-17F9 1800-1819 1820-1878 1880-18AA 18B0-18F5
    1900-191E 1920-192B 1930-193B 1940 1944-196D 1970-1974 1980-19AB 19B0-19C9 19D0-19DA 19DE-1A1B
    1A1E-1A5E 1A60-1A7C 1A7F-1A89 1A90-1A99 1AA0-1AAD 1AB0-1ADD 1AE0-1AEB 1B00-1B4C 1B4E-1BF3
    1BFC-1C37 1C3B-1C49 1C4D-1C8A 1C90-1CBA 1CBD-1CC7 1CD0-1CFA 1D00-1F15 1F18-1F1D 1F20-1F45
    1F48-1F4D 1F50-1F57 1F59 1F5B 1F5D 1F5F-1F7D 1F80-1FB4 1FB6-1FBC 1FBE 1FC2-1FC4 1FC6-1FCC
    1FD0-1FD3 1FD6-1FDB 1FE0-1FEC 1FEF 1FF2-1FF4 1FF6-1FFC 200B-200D 2010-2016 2018-2023 2027
    2030-203D 203F-205E 2060-2064 206A-2071 2074-208E 2090-209C 20A0-20C1 20D0-20F0 2100-218B
    2190-2429 2440-244A 2460-2487 249C-2B73 2B76-2CF3 2CF9-2D25 2D27 2D2D 2D30-2D67 2D6F-2D70
    2D7F-2D96 2DA0-2DA6 2DA8-2DAE 2DB0-2DB6 2DB8-2DBE 2DC0-2DC6 2DC8-2DCE 2DD0-2DD6 2DD8-2DDE
    2DE0-2E5D 2E80-2E99 2E9B-2EF3 2F00-2FD5 3001-303F 3041-3096 3099-309A 309D-30FF 3105-312F
    3131-318E 3190-31E5 31F0-321E 3220-33C1 33C3-33C6 33C8-33D7 33D9-A48C A490-A4C6 A4D0-A62B
    A640-A6F7 A700-A7DC A7F1-A82C A830-A839 A840-A877 A880-A8C5 A8CE-A8D9 A8E0-A953 A95F-A97C
    A980-A9CD A9CF-A9D9 A9DE-A9FE AA00-AA36 AA40-AA4D AA50-AA59 AA5C-AAC2 AADB-AAF6 AB01-AB06
    AB09-AB0E AB11-AB16 AB20-AB26 AB28-AB2E AB30-AB6B AB70-ABED ABF0-ABF9 AC00-D7A3 D7B0-D7C6
    D7CB-D7FB F900-FA6D FA70-FAD9 FB00-FB06 FB13-FB17 FB1D-FB36 FB38-FB3C FB3E FB40-FB41 FB43-FB44
    FB46-FC5D FC64-FDCF FDF0-FDF9 FDFC-FE11 FE13-FE18 FE20-FE2F FE31-FE48 FE4D-FE51 FE54-FE66
    FE68-FE6B FE71 FE73 FE77 FE79 FE7B FE7D FE7F-FEFC FEFF FF01-FFBE FFC2-FFC7 FFCA-FFCF FFD2-FFD7
    FFDA-FFDC FFE0-FFE2 FFE4-FFE6 FFE8-FFEE 10000-1000B 1000D-10026 10028-1003A 1003C-1003D
    1003F-1004D 10050-1005D 10080-100FA 10100-10102 10107-10133 10137-1018E 10190-1019C 101A0
    101D0-101FD 10280-1029C 102A0-102D0 102E0-102FB 10300-10323 1032D-1034A 10350-1037A
    10380-1039D 1039F-103C3 103C8-103D5 10400-1049D 104A0-104A9 104B0-104D3 104D8-104FB
    10500-10527 10530-10563 1056F-1057A 1057C-1058A 1058C-10592 10594-10595 10597-105A1
    105A3-105B1 105B3-105B9 105BB-105BC 105C0-105F3 10600-10736 10740-10755 10760-10767
    10780-10785 10787-107B0 107B2-107BA 10800-10805 10808 1080A-10835 10837-10838 1083C
    1083F-10855 10857-1089E 108A7-108AF 108E0-108F2 108F4-108F5 108FB-1091B 1091F-10939
    1093F-10959 10980-109B7 109BC-109CF 109D2-10A03 10A05-10A06 10A0C-10A13 10A15-10A17
    10A19-10A35 10A38-10A3A 10A3F-10A48 10A50-10A58 10A60-10A9F 10AC0-10AE6 10AEB-10AF6
    10B00-10B35 10B39-10B55 10B58-10B72 10B78-10B91 10B99-10B9C 10BA9-10BAF 10C00-10C48
    10C80-10CB2 10CC0-10CF2 10CFA-10D27 10D30-10D39 10D40-10D65 10D69-10D85 10D8E-10D8F
    10E60-10E7E 10E80-10EA9 10EAB-10EAD 10EB0-10EB1 10EC2-10EC7 10ED0-10ED8 10EFA-10F27
    10F30-10F59 10F70-10F89 10FB0-10FCB 10FE0-10FF6 11000-1104D 11052-11075 1107F-110BC
    110BE-110C2 110D0-110E8 110F0-110F9 11100-11134 11136-11147 11150-11176 11180-111DF
    111E1-111F4 11200-11211 11213-11241 11280-11286 11288 1128A-1128D 1128F-1129D 1129F-112A9
    112B0-112EA 112F0-112F9 11300-11303 11305-1130C 1130F-11310 11313-11328 1132A-11330
    11332-11333 11335-11339 1133B-11344 11347-11348 1134B-1134D 11350 11357 1135D-11363
    11366-1136C 11370-11374 11380-11389 1138B 1138E 11390-113B5 113B7-113C0 113C2 113C5
    113C7-113CA 113CC-113D5 113D7-113D8 113E1-113E2 11400-1145B 1145D-11461 11480-114C7
    114D0-114D9 11580-115B5 115B8-115DD 11600-11644 11650-11659 11660-1166C 11680-116B9
    116C0-116C9 116D0-116E3 11700-1171A 1171D-1172B 11730-11746 11800-1183B 118A0-118F2
    118FF-11906 11909 1190C-11913 11915-11916 11918-11935 11937-11938 1193B-11946 11950-11959
    119A0-119A7 119AA-119D7 119DA-119E4 11A00-11A47 11A50-11AA2 11AB0-11AF8 11B00-11B09
    11B60-11B67 11BC0-11BE1 11BF0-11BF9 11C00-11C08 11C0A-11C36 11C38-11C45 11C50-11C6C
    11C70-11C8F 11C92-11CA7 11CA9-11CB6 11D00-11D06 11D08-11D09 11D0B-11D36 11D3A 11D3C-11D3D
    11D3F-11D47 11D50-11D59 11D60-11D65 11D67-11D68 11D6A-11D8E 11D90-11D91 11D93-11D98
    11DA0-11DA9 11DB0-11DDB 11DE0-11DE9 11EE0-11EF8 11F00-11F10 11F12-11F3A 11F3E-11F5A 11FB0
    11FC0-11FF1 11FFF-12399 12400-1246E 12470-12474 12480-12543 12F90-12FF2 13000-1342F
    13440-13455 13460-143FA 14400-14646 16100-16139 16800-16A38 16A40-16A5E 16A60-16A69
    16A6E-16ABE 16AC0-16AC9 16AD0-16AED 16AF0-16AF5 16B00-16B45 16B50-16B59 16B5B-16B61
    16B63-16B77 16B7D-16B8F 16D40-16D79 16E40-16E9A 16EA0-16EB8 16EBB-16ED3 16F00-16F4A
    16F4F-16F87 16F8F-16F9F 16FE0-16FE4 16FF0-16FF6 17000-18CD5 18CFF-18D1E 18D80-18DF2
    1AFF0-1AFF3 1AFF5-1AFFB 1AFFD-1AFFE 1B000-1B122 1B132 1B150-1B152 1B155 1B164-1B167
    1B170-1B2FB 1BC00-1BC6A 1BC70-1BC7C 1BC80-1BC88 1BC90-1BC99 1BC9C-1BCA3 1CC00-1CCFC
    1CD00-1CEB3 1CEBA-1CED0 1CEE0-1CEF0 1CF00-1CF2D 1CF30-1CF46 1CF50-1CFC3 1D000-1D0F5
    1D100-1D126 1D129-1D1EA 1D200-1D245 1D2C0-1D2D3 1D2E0-1D2F3 1D300-1D356 1D360-1D378
    1D400-1D454 1D456-1D49C 1D49E-1D49F 1D4A2 1D4A5-1D4A6 1D4A9-1D4AC 1D4AE-1D4B9 1D4BB
    1D4BD-1D4C3 1D4C5-1D505 1D507-1D50A 1D50D-1D514 1D516-1D51C 1D51E-1D539 1D53B-1D53E
    1D540-1D544 1D546 1D54A-1D550 1D552-1D6A5 1D6A8-1D7CB 1D7CE-1DA8B 1DA9B-1DA9F 1DAA1-1DAAF
    1DF00-1DF1E 1DF25-1DF2A 1E000-1E006 1E008-1E018 1E01B-1E021 1E023-1E024 1E026-1E02A
    1E030-1E06D 1E08F 1E100-1E12C 1E130-1E13D 1E140-1E149 1E14E-1E14F 1E290-1E2AE 1E2C0-1E2F9
    1E2FF 1E4D0-1E4F9 1E5D0-1E5FA 1E5FF 1E6C0-1E6DE 1E6E0-1E6F5 1E6FE-1E6FF 1E7E0-1E7E6
    1E7E8-1E7EB 1E7ED-1E7EE 1E7F0-1E7FE 1E800-1E8C4 1E8C7-1E8D6 1E900-1E94B 1E950-1E959
    1E95E-1E95F 1EC71-1ECB4 1ED01-1ED3D 1EE00-1EE03 1EE05-1EE1F 1EE21-1EE22 1EE24 1EE27
    1EE29-1EE32 1EE34-1EE37 1EE39 1EE3B 1EE42 1EE47 1EE49 1EE4B 1EE4D-1EE4F 1EE51-1EE52 1EE54
    1EE57 1EE59 1EE5B 1EE5D 1EE5F 1EE61-1EE62 1EE64 1EE67-1EE6A 1EE6C-1EE72 1EE74-1EE77
    1EE79-1EE7C 1EE7E 1EE80-1EE89 1EE8B-1EE9B 1EEA1-1EEA3 1EEA5-1EEA9 1EEAB-1EEBB 1EEF0-1EEF1
    1F000-1F02B 1F030-1F093 1F0A0-1F0AE 1F0B1-1F0BF 1F0C1-1F0CF 1F0D1-1F0F5 1F101-1F1AD
    1F1E6-1F202 1F210-1F23B 1F240-1F248 1F250-1F251 1F260-1F265 1F300-1F6D8 1F6DC-1F6EC
    1F6F0-1F6FC 1F700-1F7D9 1F7E0-1F7EB 1F7F0 1F800-1F80B 1F810-1F847 1F850-1F859 1F860-1F887
    1F890-1F8AD 1F8B0-1F8BB 1F8C0-1F8C1 1F8D0-1F8D8 1F900-1FA57 1FA60-1FA6D 1FA70-1FA7C
    1FA80-1FA8A 1FA8E-1FAC6 1FAC8 1FACD-1FADC 1FADF-1FAEA 1FAEF-1FAF8 1FB00-1FB92 1FB94-1FBFA
    20000-2A6DF 2A700-2B81D 2B820-2CEAD 2CEB0-2EBE0 2EBF0-2EE5D 2F800-2FA1D 30000-3134A
    31350-33479 E0100-E01EF"

/-- The images of consecutive code points from the first on, in hexadecimal digits. `=` stands for
the code point itself and `-` for nothing, `_` joins the code points of one image, `*` repeats an
image a number of times, `:` runs from one image to another, and `/` does so for every second code
point while the others are their own images. -/
def texts : List (Nat × String) :=
  [
    (0xAA, "
      61 =*2 - =*4 32 33 = 3BC =*3 31 6F = 31_2044_34 31_2044_32 33_2044_34 = E0:F6 = F8:FE"),
    (0x100, "
      101/12F = 69_307 = 69_6A*2 135 = 137 =*2 13A/13E = 6C_B7*2 142/148 = 2BC_6E 14B/177 = FF
      17A/17E = 73 = 253 183 = 185 = 254 188 = 256 257 18C =*2 1DD 259 25B 192 = 260 263 = 269 268
      199 =*3 26F 272 = 275 1A1/1A5 = 280 1A8 = 283 =*2 1AD = 288 1B0 = 28A 28B 1B4 = 1B6 = 292
      1B9 =*3 1BD =*7 64_17E*3 6C_6A*3 6E_6A*3 1CE/1DC =*2 1DF/1EF =*2 64_7A*3 1F5 = 195 1BF
      1F9/21F = 19E = 223/233 =*7 2C65 23C = 19A 2C66 =*2 242 = 180 289 28C 247/24F"),
    (0x2B0, "68 266 6A 72 279 27B 281 77 79"), (0x2E0, "263 6C 73 78 295"),
    (0x340, "300 301 = 313 308_301 3B9"), (0x34F, "-"),
    (0x370, "
      371 = 373 = 2B9 = 377 =*7 3B 3F3 =*6 3AC B7 3AD:3AF = 3CC = 3CD 3CE = 3B1:3C1 = 3C3:3CB"),
    (0x3CF, "
      3D7 3B2 3B8 3C5 3CD 3CB 3C6 3C0 = 3D9/3EF = 3BA 3C1 3C3 = 3B8 3B5 = 3F8 = 3C3 3FB =*2
      37B:37D 450:45F 430:44F"),
    (0x460, "461/481"), (0x48A, "48B/4BF = 4CF 4C2/4CE =*2 4D1/52F =*2 561:586"),
    (0x587, "565_582"), (0x675, "627_674 648_674 6C7_674 64A_674"),
    (0x958, "915_93C 916_93C 917_93C 91C_93C 921_93C 922_93C 92B_93C 92F_93C"),
    (0x9DC, "9A1_9BC 9A2_9BC = 9AF_9BC"), (0xA33, "A32_A3C =*2 A38_A3C"),
    (0xA59, "A16_A3C A17_A3C A1C_A3C =*2 A2B_A3C"), (0xB5C, "B21_B3C B22_B3C"), (0xE33, "E4D_E32"),
    (0xEB3, "ECD_EB2"), (0xEDC, "EAB_E99 EAB_EA1"), (0xF0C, "F0B"), (0xF43, "F42_FB7"),
    (0xF4D, "F4C_FB7 =*4 F51_FB7 =*4 F56_FB7 =*4 F5B_FB7"), (0xF69, "F40_FB5"),
    (0xF73, "F71_F72 = F71_F74 FB2_F80 FB2_F71_F80 FB3_F80 FB3_F71_F80 =*7 F71_F80"),
    (0xF93, "F92_FB7"), (0xF9D, "F9C_FB7 =*4 FA1_FB7 =*4 FA6_FB7 =*4 FAB_FB7"), (0xFB9, "F90_FB5"),
    (0x10A0, "2D00:2D25 = 2D27 =*5 2D2D"), (0x10FC, "10DC"), (0x115F, "-*2"), (0x13F8, "13F0:13F5"),
    (0x17B4, "-*2"), (0x180B, "-*5"),
    (0x1C80, "432 434 43E 441 442*2 44A 463 A64B 1C8A =*6 10D0:10FA =*2 10FD:10FF"),
    (0x1D2C, "
      61 E6 62 = 64 65 1DD 67:6E = 6F 223 70 72 74 75 77 61 250 251 1D02 62 64 65 259 25B 25C 67 =
      6B 6D 14B 6F 254 1D16 1D17 70 74 75 1D1D 26F 76 1D25 3B2:3B4 3C6 3C7 69 72 75 76 3B2 3B3 3C1
      3C6 3C7"),
    (0x1D78, "43D"),
    (0x1D9B, "
      252 63 255 F0 25C 66 25F 261 265 268:26A 1D7B 29D 26D 1D85 29F 271 270 272:275 278 282 283
      1AB 289 28A 1D1C 28B 28C 7A 290:292 3B8"),
    (0x1E00, "1E01/1E95 =*5 61_2BE 1E61 =*2 DF = 1EA1/1EFF"), (0x1F08, "1F00:1F07 =*8 1F10:1F15"),
    (0x1F28, "1F20:1F27 =*8 1F30:1F37 =*8 1F40:1F45"),
    (0x1F59, "
      1F51/1F57 =*8 1F60:1F67 = 3AC = 3AD = 3AE = 3AF = 3CC = 3CD = 3CE =*2 1F00_3B9 1F01_3B9
      1F02_3B9 1F03_3B9 1F04_3B9 1F05_3B9 1F06_3B9 1F07_3B9 1F00_3B9 1F01_3B9 1F02_3B9 1F03_3B9
      1F04_3B9 1F05_3B9 1F06_3B9 1F07_3B9 1F20_3B9 1F21_3B9 1F22_3B9 1F23_3B9 1F24_3B9 1F25_3B9
      1F26_3B9 1F27_3B9 1F20_3B9 1F21_3B9 1F22_3B9 1F23_3B9 1F24_3B9 1F25_3B9 1F26_3B9 1F27_3B9
      1F60_3B9 1F61_3B9 1F62_3B9 1F63_3B9 1F64_3B9 1F65_3B9 1F66_3B9 1F67_3B9 1F60_3B9 1F61_3B9
      1F62_3B9 1F63_3B9 1F64_3B9 1F65_3B9 1F66_3B9 1F67_3B9 =*2 1F70_3B9 3B1_3B9 3AC_3B9 =*2
      1FB6_3B9 1FB0 1FB1 1F70 3AC 3B1_3B9 = 3B9 =*3 1F74_3B9 3B7_3B9 3AE_3B9 =*2 1FC6_3B9 1F72 3AD
      1F74 3AE 3B7_3B9 =*6 390 =*4 1FD0 1FD1 1F76 3AF =*7 3B0 =*4 1FE0 1FE1 1F7A 3CD 1FE5 =*2 60
      =*2 1F7C_3B9 3C9_3B9 3CE_3B9 =*2 1FF6_3B9 1F78 3CC 1F7C 3CE 3C9_3B9"),
    (0x200B, "- =*5 2010"),
    (0x2033, "2032_2032 2032_2032_2032 = 2035_2035 2035_2035_2035 =*4 21_21"),
    (0x2047, "3F_3F 3F_21 21_3F"),
    (0x2057, "
      2032_2032_2032_2032 =*8 -*5 =*5 -*6 30 69 =*2 34:39 2B 2212 3D 28 29 6E 30:39 2B 2212 3D 28
      29 = 61 65 6F 78 259 68 6B:6E 70 73 74"),
    (0x20A8, "72_73"),
    (0x2100, "
      61_2F_63 61_2F_73 63 B0_63 = 63_2F_6F 63_2F_75 25B = B0_66 67 68*4 127 69*2 6C*2 = 6E 6E_6F
      =*2 70:72 72*2 =*2 73_6D 74_65_6C 74_6D = 7A = 3C9 = 7A = 6B E5 62 63 = 65*2 66 214E 6D 6F
      5D0:5D3 69 = 66_61_78 3C0 3B3*2 3C0 2211 =*4 64*2 65 69 6A =*6 31_2044_37 31_2044_39
      31_2044_31_30 31_2044_33 32_2044_33 31_2044_35 32_2044_35 33_2044_35 34_2044_35 31_2044_36
      35_2044_36 31_2044_38 33_2044_38 35_2044_38 37_2044_38 31_2044 69 69_69 69_69_69 69_76 76
      76_69 76_69_69 76_69_69_69 69_78 78 78_69 78_69_69 6C 63 64 6D 69 69_69 69_69_69 69_76 76
      76_69 76_69_69 76_69_69_69 69_78 78 78_69 78_69_69 6C 63 64 6D =*3 2184 =*5 30_2044_33"),
    (0x222C, "222B_222B 222B_222B_222B = 222E_222E 222E_222E_222E"), (0x2329, "3008 3009"),
    (0x2460, "
      31:39 31_30 31_31 31_32 31_33 31_34 31_35 31_36 31_37 31_38 31_39 32_30 28_31_29 28_32_29
      28_33_29 28_34_29 28_35_29 28_36_29 28_37_29 28_38_29 28_39_29 28_31_30_29 28_31_31_29
      28_31_32_29 28_31_33_29 28_31_34_29 28_31_35_29 28_31_36_29 28_31_37_29 28_31_38_29
      28_31_39_29 28_32_30_29"),
    (0x249C, "
      28_61_29 28_62_29 28_63_29 28_64_29 28_65_29 28_66_29 28_67_29 28_68_29 28_69_29 28_6A_29
      28_6B_29 28_6C_29 28_6D_29 28_6E_29 28_6F_29 28_70_29 28_71_29 28_72_29 28_73_29 28_74_29
      28_75_29 28_76_29 28_77_29 28_78_29 28_79_29 28_7A_29 61:7A 61:7A 30"),
    (0x2A0C, "222B_222B_222B_222B"), (0x2A74, "3A_3A_3D 3D_3D 3D_3D_3D"), (0x2ADC, "2ADD_338"),
    (0x2C00, "2C30:2C5F"),
    (0x2C60, "
      2C61 = 26B 1D7D 27D =*2 2C68/2C6C = 251 271 250 252 = 2C73 =*2 2C76 =*6 6A 76 23F 240
      2C81/2CE3 =*8 2CEC = 2CEE =*4 2CF3"),
    (0x2D6F, "2D61"), (0x2E9F, "6BCD"), (0x2EF3, "9F9F"),
    (0x2F00, "
      4E00 4E28 4E36 4E3F 4E59 4E85 4E8C 4EA0 4EBA 513F 5165 516B 5182 5196 51AB 51E0 51F5 5200
      529B 52F9 5315 531A 5338 5341 535C 5369 5382 53B6 53C8 53E3 56D7 571F 58EB 5902 590A 5915
      5927 5973 5B50 5B80 5BF8 5C0F 5C22 5C38 5C6E 5C71 5DDB 5DE5 5DF1 5DFE 5E72 5E7A 5E7F 5EF4
      5EFE 5F0B 5F13 5F50 5F61 5F73 5FC3 6208 6236 624B 652F 6534 6587 6597 65A4 65B9 65E0 65E5
      66F0 6708 6728 6B20 6B62 6B79 6BB3 6BCB 6BD4 6BDB 6C0F 6C14 6C34 706B 722A 7236 723B 723F
      7247 7259 725B 72AC 7384 7389 74DC 74E6 7518 751F 7528 7530 758B 7592 7676 767D 76AE 76BF
      76EE 77DB 77E2 77F3 793A 79B8 79BE 7A74 7ACB 7AF9 7C73 7CF8 7F36 7F51 7F8A 7FBD 8001 800C
      8012 8033 807F 8089 81E3 81EA 81F3 81FC 820C 821B 821F 826E 8272 8278 864D 866B 8840 884C
      8863 897E 898B 89D2 8A00 8C37 8C46 8C55 8C78 8C9D 8D64 8D70 8DB3 8EAB 8ECA 8F9B 8FB0 8FB5
      9091 9149 91C6 91CC 91D1 9577 9580 961C 96B6 96B9 96E8 9751 975E 9762 9769 97CB 97ED 97F3
      9801 98A8 98DB 98DF 9996 9999 99AC 9AA8 9AD8 9ADF 9B25 9B2F 9B32 9B3C 9B5A 9CE5 9E75 9E7F
      9EA5 9EBB 9EC3 9ECD 9ED1 9EF9 9EFD 9F0E 9F13 9F20 9F3B 9F4A 9F52 9F8D 9F9C 9FA0"),
    (0x3002, "2E"), (0x3036, "3012 = 5341 5344 5345"), (0x309F, "3088_308A"), (0x30FF, "30B3_30C8"),
    (0x3131, "
      1100 1101 11AA 1102 11AC 11AD 1103:1105 11B0:11B5 111A 1106:1108 1121 1109:1112 1161:1175 -
      1114 1115 11C7 11C8 11CC 11CE 11D3 11D7 11D9 111C 11DD 11DF 111D 111E 1120 1122 1123 1127
      1129 112B:112F 1132 1136 1140 1147 114C 11F1 11F2 1157:1159 1184 1185 1188 1191 1192 1194
      119E 11A1 =*3 4E00 4E8C 4E09 56DB 4E0A 4E2D 4E0B 7532 4E59 4E19 4E01 5929 5730 4EBA"),
    (0x3200, "
      28_1100_29 28_1102_29 28_1103_29 28_1105_29 28_1106_29 28_1107_29 28_1109_29 28_110B_29
      28_110C_29 28_110E_29 28_110F_29 28_1110_29 28_1111_29 28_1112_29 28_AC00_29 28_B098_29
      28_B2E4_29 28_B77C_29 28_B9C8_29 28_BC14_29 28_C0AC_29 28_C544_29 28_C790_29 28_CC28_29
      28_CE74_29 28_D0C0_29 28_D30C_29 28_D558_29 28_C8FC_29 28_C624_C804_29 28_C624_D6C4_29 =
      28_4E00_29 28_4E8C_29 28_4E09_29 28_56DB_29 28_4E94_29 28_516D_29 28_4E03_29 28_516B_29
      28_4E5D_29 28_5341_29 28_6708_29 28_706B_29 28_6C34_29 28_6728_29 28_91D1_29 28_571F_29
      28_65E5_29 28_682A_29 28_6709_29 28_793E_29 28_540D_29 28_7279_29 28_8CA1_29 28_795D_29
      28_52B4_29 28_4EE3_29 28_547C_29 28_5B66_29 28_76E3_29 28_4F01_29 28_8CC7_29 28_5354_29
      28_796D_29 28_4F11_29 28_81EA_29 28_81F3_29 554F 5E7C 6587 7B8F =*8 70_74_65 32_31 32_32
      32_33 32_34 32_35 32_36 32_37 32_38 32_39 33_30 33_31 33_32 33_33 33_34 33_35 1100 1102 1103
      1105:1107 1109 110B 110C 110E:1112 AC00 B098 B2E4 B77C B9C8 BC14 C0AC C544 C790 CC28 CE74
      D0C0 D30C D558 CC38_ACE0 C8FC_C758 C6B0 = 4E00 4E8C 4E09 56DB 4E94 516D 4E03 516B 4E5D 5341
      6708 706B 6C34 6728 91D1 571F 65E5 682A 6709 793E 540D 7279 8CA1 795D 52B4 79D8 7537 5973
      9069 512A 5370 6CE8 9805 4F11 5199 6B63 4E0A 4E2D 4E0B 5DE6 53F3 533B 5B97 5B66 76E3 4F01
      8CC7 5354 591C 33_36 33_37 33_38 33_39 34_30 34_31 34_32 34_33 34_34 34_35 34_36 34_37 34_38
      34_39 35_30 31_6708 32_6708 33_6708 34_6708 35_6708 36_6708 37_6708 38_6708 39_6708
      31_30_6708 31_31_6708 31_32_6708 68_67 65_72_67 65_76 6C_74_64 30A2 30A4 30A6 30A8 30AA 30AB
      30AD 30AF 30B1 30B3 30B5 30B7 30B9 30BB 30BD 30BF 30C1 30C4 30C6 30C8 30CA:30CF 30D2 30D5
      30D8 30DB 30DE:30E2 30E4 30E6 30E8:30ED 30EF:30F2 4EE4_548C 30A2_30D1_30FC_30C8
      30A2_30EB_30D5_30A1 30A2_30F3_30DA_30A2 30A2_30FC_30EB 30A4_30CB_30F3_30B0 30A4_30F3_30C1
      30A6_30A9_30F3 30A8_30B9_30AF_30FC_30C9 30A8_30FC_30AB_30FC 30AA_30F3_30B9 30AA_30FC_30E0
      30AB_30A4_30EA 30AB_30E9_30C3_30C8 30AB_30ED_30EA_30FC 30AC_30ED_30F3 30AC_30F3_30DE
      30AE_30AC 30AE_30CB_30FC 30AD_30E5_30EA_30FC 30AE_30EB_30C0_30FC 30AD_30ED
      30AD_30ED_30B0_30E9_30E0 30AD_30ED_30E1_30FC_30C8_30EB 30AD_30ED_30EF_30C3_30C8
      30B0_30E9_30E0 30B0_30E9_30E0_30C8_30F3 30AF_30EB_30BC_30A4_30ED 30AF_30ED_30FC_30CD
      30B1_30FC_30B9 30B3_30EB_30CA 30B3_30FC_30DD 30B5_30A4_30AF_30EB 30B5_30F3_30C1_30FC_30E0
      30B7_30EA_30F3_30B0 30BB_30F3_30C1 30BB_30F3_30C8 30C0_30FC_30B9 30C7_30B7 30C9_30EB
      30C8_30F3 30CA_30CE 30CE_30C3_30C8 30CF_30A4_30C4 30D1_30FC_30BB_30F3_30C8 30D1_30FC_30C4
      30D0_30FC_30EC_30EB 30D4_30A2_30B9_30C8_30EB 30D4_30AF_30EB 30D4_30B3 30D3_30EB
      30D5_30A1_30E9_30C3_30C9 30D5_30A3_30FC_30C8 30D6_30C3_30B7_30A7_30EB 30D5_30E9_30F3
      30D8_30AF_30BF_30FC_30EB 30DA_30BD 30DA_30CB_30D2 30D8_30EB_30C4 30DA_30F3_30B9
      30DA_30FC_30B8 30D9_30FC_30BF 30DD_30A4_30F3_30C8 30DC_30EB_30C8 30DB_30F3 30DD_30F3_30C9
      30DB_30FC_30EB 30DB_30FC_30F3 30DE_30A4_30AF_30ED 30DE_30A4_30EB 30DE_30C3_30CF
      30DE_30EB_30AF 30DE_30F3_30B7_30E7_30F3 30DF_30AF_30ED_30F3 30DF_30EA
      30DF_30EA_30D0_30FC_30EB 30E1_30AC 30E1_30AC_30C8_30F3 30E1_30FC_30C8_30EB 30E4_30FC_30C9
      30E4_30FC_30EB 30E6_30A2_30F3 30EA_30C3_30C8_30EB 30EA_30E9 30EB_30D4_30FC
      30EB_30FC_30D6_30EB 30EC_30E0 30EC_30F3_30C8_30B2_30F3 30EF_30C3_30C8 30_70B9 31_70B9
      32_70B9 33_70B9 34_70B9 35_70B9 36_70B9 37_70B9 38_70B9 39_70B9 31_30_70B9 31_31_70B9
      31_32_70B9 31_33_70B9 31_34_70B9 31_35_70B9 31_36_70B9 31_37_70B9 31_38_70B9 31_39_70B9
      32_30_70B9 32_31_70B9 32_32_70B9 32_33_70B9 32_34_70B9 68_70_61 64_61 61_75 62_61_72 6F_76
      70_63 64_6D 64_6D_32 64_6D_33 69_75 5E73_6210 662D_548C 5927_6B63 660E_6CBB
      682A_5F0F_4F1A_793E 70_61 6E_61 3BC_61 6D_61 6B_61 6B_62 6D_62 67_62 63_61_6C 6B_63_61_6C
      70_66 6E_66 3BC_66 3BC_67 6D_67 6B_67 68_7A 6B_68_7A 6D_68_7A 67_68_7A 74_68_7A 3BC_6C 6D_6C
      64_6C 6B_6C 66_6D 6E_6D 3BC_6D 6D_6D 63_6D 6B_6D 6D_6D_32 63_6D_32 6D_32 6B_6D_32 6D_6D_33
      63_6D_33 6D_33 6B_6D_33 6D_2215_73 6D_2215_73_32 70_61 6B_70_61 6D_70_61 67_70_61 72_61_64
      72_61_64_2215_73 72_61_64_2215_73_32 70_73 6E_73 3BC_73 6D_73 70_76 6E_76 3BC_76 6D_76 6B_76
      6D_76 70_77 6E_77 3BC_77 6D_77 6B_77 6D_77 6B_3C9 6D_3C9 = 62_71 63_63 63_64 63_2215_6B_67 =
      64_62 67_79 68_61 68_70 69_6E 6B_6B 6B_6D 6B_74 6C_6D 6C_6E 6C_6F_67 6C_78 6D_62 6D_69_6C
      6D_6F_6C 70_68 = 70_70_6D 70_72 73_72 73_76 77_62 76_2215_6D 61_2215_6D 31_65E5 32_65E5
      33_65E5 34_65E5 35_65E5 36_65E5 37_65E5 38_65E5 39_65E5 31_30_65E5 31_31_65E5 31_32_65E5
      31_33_65E5 31_34_65E5 31_35_65E5 31_36_65E5 31_37_65E5 31_38_65E5 31_39_65E5 32_30_65E5
      32_31_65E5 32_32_65E5 32_33_65E5 32_34_65E5 32_35_65E5 32_36_65E5 32_37_65E5 32_38_65E5
      32_39_65E5 33_30_65E5 33_31_65E5 67_61_6C"),
    (0xA640, "A641/A66D"), (0xA680, "A681/A69B = 44A 44C"),
    (0xA722, "
      A723/A72F =*3 A733/A76F = A76F =*8 A77A = A77C = 1D79 A77F/A787 =*4 A78C = 265 =*2 A791 =
      A793 =*3 A797/A7A9 = 266 25C 261 26C 26A = 29E 287 29D AB53 A7B5/A7C3 = A794 282 1D8E A7C8 =
      A7CA = 264 A7CD/A7DB = 19B"),
    (0xA7F1, "73 63 66 71 A7F6 =*2 127 153"), (0xAB5C, "A727 AB37 26B AB52"),
    (0xAB69, "28D =*6 13A0:13EF"),
    (0xF900, "
      8C48 66F4 8ECA 8CC8 6ED1 4E32 53E5 9F9C*2 5951 91D1 5587 5948 61F6 7669 7F85 863F 87BA 88F8
      908F 6A02 6D1B 70D9 73DE 843D 916A 99F1 4E82 5375 6B04 721B 862D 9E1E 5D50 6FEB 85CD 8964
      62C9 81D8 881F 5ECA 6717 6D6A 72FC 90CE 4F86 51B7 52DE 64C4 6AD3 7210 76E7 8001 8606 865C
      8DEF 9732 9B6F 9DFA 788C 797F 7DA0 83C9 9304 9E7F 8AD6 58DF 5F04 7C60 807E 7262 78CA 8CC2
      96F7 58D8 5C62 6A13 6DDA 6F0F 7D2F 7E37 964B 52D2 808B 51DC 51CC 7A1C 7DBE 83F1 9675 8B80
      62CF 6A02 8AFE 4E39 5BE7 6012 7387 7570 5317 78FB 4FBF 5FA9 4E0D 6CCC 6578 7D22 53C3 585E
      7701 8449 8AAA 6BBA 8FB0 6C88 62FE 82E5 63A0 7565 4EAE 5169 51C9 6881 7CE7 826F 8AD2 91CF
      52F5 5442 5973 5EEC 65C5 6FFE 792A 95AD 9A6A 9E97 9ECE 529B 66C6 6B77 8F62 5E74 6190 6200
      649A 6F23 7149 7489 79CA 7DF4 806F 8F26 84EE 9023 934A 5217 52A3 54BD 70C8 88C2 8AAA 5EC9
      5FF5 637B 6BAE 7C3E 7375 4EE4 56F9 5BE7 5DBA 601C 73B2 7469 7F9A 8046 9234 96F6 9748 9818
      4F8B 79AE 91B4 96B8 60E1 4E86 50DA 5BEE 5C3F 6599 6A02 71CE 7642 84FC 907C 9F8D 6688 962E
      5289 677B 67F3 6D41 6E9C 7409 7559 786B 7D10 985E 516D 622E 9678 502B 5D19 6DEA 8F2A 5F8B
      6144 6817 7387 9686 5229 540F 5C65 6613 674E 68A8 6CE5 7406 75E2 7F79 88CF 88E1 91CC 96E2
      533F 6EBA 541D 71D0 7498 85FA 96A3 9C57 9E9F 6797 6DCB 81E8 7ACB 7B20 7C92 72C0 7099 8B58
      4EC0 8336 523A 5207 5EA6 62D3 7CD6 5B85 6D1E 66B4 8F3B 884C 964D 898B 5ED3 5140 55C0 =*2
      585A = 6674 =*2 51DE 732A 76CA 793C 795E 7965 798F 9756 7CBE 7FBD = 8612 = 8AF8 =*2 9038
      90FD =*3 98EF 98FC 9928 9DB4 90DE 96B7 4FAE 50E7 514D 52C9 52E4 5351 559D 5606 5668 5840
      58A8 5C64 5C6E 6094 6168 618E 61F2 654F 65E2 6691 6885 6D77 6E1A 6F22 716E 722B 7422 7891
      793E 7949 7948 7950 7956 795D 798D 798E 7A40 7A81 7BC0 7DF4 7E09 7E41 7F72 8005 81ED 8279*2
      8457 8910 8996 8B01 8B39 8CD3 8D08 8FB6 9038 96E3 97FF 983B 6075 242EE 8218 =*2 4E26 51B5
      5168 4F80 5145 5180 52C7 52FA 559D 5555 5599 55E2 585A 58B3 5944 5954 5A62 5B28 5ED2 5ED9
      5F69 5FAD 60D8 614E 6108 618E 6160 61F2 6234 63C4 641C 6452 6556 6674 6717 671B 6756 6B79
      6BBA 6D41 6EDB 6ECB 6F22 701E 716E 77A7 7235 72AF 732A 7471 7506 753B 761D 761F 76CA 76DB
      76F4 774A 7740 78CC 7AB1 7BC0 7C7B 7D5B 7DF4 7F3E 8005 8352 83EF 8779 8941 8986 8996 8ABF
      8AF8 8ACB 8B01 8AFE 8AED 8B39 8B8A 8D08 8F38 9072 9199 9276 967C 96E3 9756 97DB 97FF 980B
      983B 9B12 9F9C 2284A 22844 233D5 3B9D 4018 4039 25249 25CD0 27ED3 9F43 9F8E"),
    (0xFB00, "66_66 66_69 66_6C 66_66_69 66_66_6C 73_74*2"),
    (0xFB13, "
      574_576 574_565 574_56B 57E_576 574_56D =*5 5D9_5B4 = 5F2_5B7 5E2 5D0 5D3 5D4 5DB:5DD 5E8
      5EA 2B 5E9_5C1 5E9_5C2 5E9_5BC_5C1 5E9_5BC_5C2 5D0_5B7 5D0_5B8 5D0_5BC 5D1_5BC 5D2_5BC
      5D3_5BC 5D4_5BC 5D5_5BC 5D6_5BC = 5D8_5BC 5D9_5BC 5DA_5BC 5DB_5BC 5DC_5BC = 5DE_5BC =
      5E0_5BC 5E1_5BC = 5E3_5BC 5E4_5BC = 5E6_5BC 5E7_5BC 5E8_5BC 5E9_5BC 5EA_5BC 5D5_5B9 5D1_5BF
      5DB_5BF 5E4_5BF 5D0_5DC 671*2 67B*4 67E*4 680*4 67A*4 67F*4 679*4 6A4*4 6A6*4 684*4 683*4
      686*4 687*4 68D*2 68C*2 68E*2 688*2 698*2 691*2 6A9*4 6AF*4 6B3*4 6B1*4 6BA*2 6BB*4 6C0*2
      6C1*4 6BE*4 6D2*2 6D3*2"),
    (0xFBD3, "
      6AD*4 6C7*2 6C6*2 6C8*2 6C7_674 6CB*2 6C5*2 6C9*2 6D0*4 649*2 626_627*2 626_6D5*2 626_648*2
      626_6C7*2 626_6C6*2 626_6C8*2 626_6D0*3 626_649*3 6CC*4 626_62C 626_62D 626_645 626_649
      626_64A 628_62C 628_62D 628_62E 628_645 628_649 628_64A 62A_62C 62A_62D 62A_62E 62A_645
      62A_649 62A_64A 62B_62C 62B_645 62B_649 62B_64A 62C_62D 62C_645 62D_62C 62D_645 62E_62C
      62E_62D 62E_645 633_62C 633_62D 633_62E 633_645 635_62D 635_645 636_62C 636_62D 636_62E
      636_645 637_62D 637_645 638_645 639_62C 639_645 63A_62C 63A_645 641_62C 641_62D 641_62E
      641_645 641_649 641_64A 642_62D 642_645 642_649 642_64A 643_627 643_62C 643_62D 643_62E
      643_644 643_645 643_649 643_64A 644_62C 644_62D 644_62E 644_645 644_649 644_64A 645_62C
      645_62D 645_62E 645_645 645_649 645_64A 646_62C 646_62D 646_62E 646_645 646_649 646_64A
      647_62C 647_645 647_649 647_64A 64A_62C 64A_62D 64A_62E 64A_645 64A_649 64A_64A 630_670
      631_670 649_670 =*6 626_631 626_632 626_645 626_646 626_649 626_64A 628_631 628_632 628_645
      628_646 628_649 628_64A 62A_631 62A_632 62A_645 62A_646 62A_649 62A_64A 62B_631 62B_632
      62B_645 62B_646 62B_649 62B_64A 641_649 641_64A 642_649 642_64A 643_627 643_644 643_645
      643_649 643_64A 644_645 644_649 644_64A 645_627 645_645 646_631 646_632 646_645 646_646
      646_649 646_64A 649_670 64A_631 64A_632 64A_645 64A_646 64A_649 64A_64A 626_62C 626_62D
      626_62E 626_645 626_647 628_62C 628_62D 628_62E 628_645 628_647 62A_62C 62A_62D 62A_62E
      62A_645 62A_647 62B_645 62C_62D 62C_645 62D_62C 62D_645 62E_62C 62E_645 633_62C 633_62D
      633_62E 633_645 635_62D 635_62E 635_645 636_62C 636_62D 636_62E 636_645 637_62D 638_645
      639_62C 639_645 63A_62C 63A_645 641_62C 641_62D 641_62E 641_645 642_62D 642_645 643_62C
      643_62D 643_62E 643_644 643_645 644_62C 644_62D 644_62E 644_645 644_647 645_62C 645_62D
      645_62E 645_645 646_62C 646_62D 646_62E 646_645 646_647 647_62C 647_645 647_670 64A_62C
      64A_62D 64A_62E 64A_645 64A_647 626_645 626_647 628_645 628_647 62A_645 62A_647 62B_645
      62B_647 633_645 633_647 634_645 634_647 643_644 643_645 644_645 646_645 646_647 64A_645
      64A_647 640_64E_651 640_64F_651 640_650_651 637_649 637_64A 639_649 639_64A 63A_649 63A_64A
      633_649 633_64A 634_649 634_64A 62D_649 62D_64A 62C_649 62C_64A 62E_649 62E_64A 635_649
      635_64A 636_649 636_64A 634_62C 634_62D 634_62E 634_645 634_631 633_631 635_631 636_631
      637_649 637_64A 639_649 639_64A 63A_649 63A_64A 633_649 633_64A 634_649 634_64A 62D_649
      62D_64A 62C_649 62C_64A 62E_649 62E_64A 635_649 635_64A 636_649 636_64A 634_62C 634_62D
      634_62E 634_645 634_631 633_631 635_631 636_631 634_62C 634_62D 634_62E 634_645 633_647
      634_647 637_645 633_62C 633_62D 633_62E 634_62C 634_62D 634_62E 637_645 638_645 627_64B*2"),
    (0xFD50, "
      62A_62C_645 62A_62D_62C*2 62A_62D_645 62A_62E_645 62A_645_62C 62A_645_62D 62A_645_62E
      62C_645_62D*2 62D_645_64A 62D_645_649 633_62D_62C 633_62C_62D 633_62C_649 633_645_62D*2
      633_645_62C 633_645_645*2 635_62D_62D*2 635_645_645 634_62D_645*2 634_62C_64A 634_645_62E*2
      634_645_645*2 636_62D_649 636_62E_645*2 637_645_62D*2 637_645_645 637_645_64A 639_62C_645
      639_645_645*2 639_645_649 63A_645_645 63A_645_64A 63A_645_649 641_62E_645*2 642_645_62D
      642_645_645 644_62D_645 644_62D_64A 644_62D_649 644_62C_62C*2 644_62E_645*2 644_645_62D*2
      645_62D_62C 645_62D_645 645_62D_64A 645_62C_62D 645_62C_645 645_62E_62C 645_62E_645 =*2
      645_62C_62E 647_645_62C 647_645_645 646_62D_645 646_62D_649 646_62C_645*2 646_62C_649
      646_645_64A 646_645_649 64A_645_645*2 628_62E_64A 62A_62C_64A 62A_62C_649 62A_62E_64A
      62A_62E_649 62A_645_64A 62A_645_649 62C_645_64A 62C_62D_649 62C_645_649 633_62E_649
      635_62D_64A 634_62D_64A 636_62D_64A 644_62C_64A 644_645_64A 64A_62D_64A 64A_62C_64A
      64A_645_64A 645_645_64A 642_645_64A 646_62D_64A 642_645_62D 644_62D_645 639_645_64A
      643_645_64A 646_62C_62D 645_62E_64A 644_62C_645 643_645_645 644_62C_645 646_62C_62D
      62C_62D_64A 62D_62C_64A 645_62C_64A 641_645_64A 628_62D_64A 643_645_645 639_62C_645
      635_645_645 633_62E_64A 646_62C_64A"),
    (0xFDF0, "
      635_644_6D2 642_644_6D2 627_644_644_647 627_643_628_631 645_62D_645_62F 635_644_639_645
      631_633_648_644 639_644_64A_647 648_633_644_645 635_644_649 =*2 631_6CC_627_644 =*3 -*10 2C
      3001 = 3A 3B 21 3F 3016 3017"),
    (0xFE31, "
      2014 2013 5F*2 28 29 7B 7D 3014 3015 3010 3011 300A 300B 3008 3009 300C:300F =*2 5B 5D =*4
      5F*3 2C 3001 =*2 3B 3A 3F 21 2014 28 29 7B 7D 3014 3015 23 26 2A 2B 2D 3C 3E 3D = 5C 24 25
      40 =*5 640_64B =*5 640_64E = 640_64F = 640_650 = 640_651 = 640_652 621 622*2 623*2 624*2
      625*2 626*4 627*2 628*4 629*2 62A*4 62B*4 62C*4 62D*4 62E*4 62F*2 630*2 631*2 632*2 633*4
      634*4 635*4 636*4 637*4 638*4 639*4 63A*4 641*4 642*4 643*4 644*4 645*4 646*4 647*4 648*2
      649*2 64A*4 644_622*2 644_623*2 644_625*2 644_627*2 =*2 - = 21:40 61:7A 5B:7E 2985 2986 2E
      300C 300D 3001 30FB 30F2 30A1 30A3 30A5 30A7 30A9 30E3 30E5 30E7 30C3 30FC 30A2 30A4 30A6
      30A8 30AA 30AB 30AD 30AF 30B1 30B3 30B5 30B7 30B9 30BB 30BD 30BF 30C1 30C4 30C6 30C8
      30CA:30CF 30D2 30D5 30D8 30DB 30DE:30E2 30E4 30E6 30E8:30ED 30EF 30F3 3099 309A - 1100 1101
      11AA 1102 11AC 11AD 1103:1105 11B0:11B5 111A 1106:1108 1121 1109:1112 =*3 1161:1166 =*2
      1167:116C =*2 116D:1172 =*2 1173:1175 =*3 A2 A3 AC = A6 A5 20A9 = 2502 2190:2193 25A0 25CB"),
    (0x10400, "10428:1044F"), (0x104B0, "104D8:104FB"),
    (0x10570, "10597:105A1 = 105A3:105B1 = 105B3:105B9 = 105BB 105BC"),
    (0x10781, "
      2D0 2D1 E6 299 253 = 2A3 AB66 2A5 2A4 256 257 1D91 258 25E 2A9 264 262 260 29B 127 29C 267
      284 2AA 2AB 26C 1DF04 A78E 26E 1DF05 28E 1DF06 F8 276 277 71 27A 1DF08 27D 27E 280 2A8 2A6
      AB67 2A7 288 2C71 = 28F 2A1 2A2 298 1C0:1C2 1DF0A 1DF1E"),
    (0x10C80, "10CC0:10CF2"), (0x10D50, "10D70:10D85"), (0x118A0, "118C0:118DF"),
    (0x16E40, "16E60:16E7F"), (0x16EA0, "16EBB:16ED3"), (0x1BCA0, "-*4"), (0x1CCD6, "61:7A 30:39"),
    (0x1D15E, "
      1D157_1D165 1D158_1D165 1D158_1D165_1D16E 1D158_1D165_1D16F 1D158_1D165_1D170
      1D158_1D165_1D171 1D158_1D165_1D172"),
    (0x1D173, "-*8"),
    (0x1D1BB, "
      1D1B9_1D165 1D1BA_1D165 1D1B9_1D165_1D16E 1D1BA_1D165_1D16E 1D1B9_1D165_1D16F
      1D1BA_1D165_1D16F"),
    (0x1D400, "
      61:7A 61:7A 61:7A 61:67 = 69:7A 61:7A 61:7A 61 = 63 64 =*2 67 =*2 6A 6B =*2 6E:71 = 73:7A
      61:64 = 66 = 68:6E = 70:7A 61:7A 61:7A 61 62 = 64:67 =*2 6A:71 = 73:79 = 61:7A 61 62 = 64:67
      = 69:6D = 6F =*3 73:79 = 61:7A 61:7A 61:7A 61:7A 61:7A 61:7A 61:7A 61:7A 61:7A 61:7A 61:7A
      61:7A 61:7A 131 237 =*2 3B1:3C1 3B8 3C3:3C9 2207 3B1:3C1 3C3*2 3C4:3C9 2202 3B5 3B8 3BA 3C6
      3C1 3C0 3B1:3C1 3B8 3C3:3C9 2207 3B1:3C1 3C3*2 3C4:3C9 2202 3B5 3B8 3BA 3C6 3C1 3C0 3B1:3C1
      3B8 3C3:3C9 2207 3B1:3C1 3C3*2 3C4:3C9 2202 3B5 3B8 3BA 3C6 3C1 3C0 3B1:3C1 3B8 3C3:3C9 2207
      3B1:3C1 3C3*2 3C4:3C9 2202 3B5 3B8 3BA 3C6 3C1 3C0 3B1:3C1 3B8 3C3:3C9 2207 3B1:3C1 3C3*2
      3C4:3C9 2202 3B5 3B8 3BA 3C6 3C1 3C0 3DD*2 =*2 30:39 30:39 30:39 30:39 30:39"),
    (0x1E030, "
      430:438 43A:43C 43E:448 44B 44D 44E A689 4D9 456 458 4E9 4AF 4CF 430:438 43A 43B 43E 43F 441
      443:448 44A 44B 491 456 455 45F 4AB A651 4B1"),
    (0x1E900, "1E922:1E943"),
    (0x1EE00, "
      627 628 62C 62F = 648 632 62D 637 64A 643:646 633 639 641 635 642 631 634 62A 62B 62E 630
      636 638 63A 66E 6BA 6A1 66F = 628 62C = 647 =*2 62D = 64A 643:646 633 639 641 635 642 = 634
      62A 62B 62E = 636 = 63A =*6 62C =*4 62D = 64A = 644 = 646 633 639 = 635 642 = 634 =*2 62E =
      636 = 63A = 6BA = 66F = 628 62C = 647 =*2 62D 637 64A 643 = 645 646 633 639 641 635 642 =
      634 62A 62B 62E = 636 638 63A 66E = 6A1 = 627 628 62C 62F 647 648 632 62D 637 64A = 644:646
      633 639 641 635 642 631 634 62A 62B 62E 630 636 638 63A =*5 628 62C 62F = 648 632 62D 637
      64A = 644:646 633 639 641 635 642 631 634 62A 62B 62E 630 636 638 63A"),
    (0x1F101, "
      30_2C 31_2C 32_2C 33_2C 34_2C 35_2C 36_2C 37_2C 38_2C 39_2C =*5 28_61_29 28_62_29 28_63_29
      28_64_29 28_65_29 28_66_29 28_67_29 28_68_29 28_69_29 28_6A_29 28_6B_29 28_6C_29 28_6D_29
      28_6E_29 28_6F_29 28_70_29 28_71_29 28_72_29 28_73_29 28_74_29 28_75_29 28_76_29 28_77_29
      28_78_29 28_79_29 28_7A_29 3014_73_3015 63 72 63_64 77_7A = 61:7A 68_76 6D_76 73_64 73_73
      70_70_76 77_63"),
    (0x1F16A, "6D_63 6D_64 6D_72"), (0x1F190, "64_6A"), (0x1F200, "307B_304B 30B3_30B3 30B5"),
    (0x1F210, "
      624B 5B57 53CC 30C7 4E8C 591A 89E3 5929 4EA4 6620 7121 6599 524D 5F8C 518D 65B0 521D 7D42
      751F 8CA9 58F0 5439 6F14 6295 6355 4E00 4E09 904A 5DE6 4E2D 53F3 6307 8D70 6253 7981 7A7A
      5408 6E80 6709 6708 7533 5272 55B6 914D =*4 3014_672C_3015 3014_4E09_3015 3014_4E8C_3015
      3014_5B89_3015 3014_70B9_3015 3014_6253_3015 3014_76D7_3015 3014_52DD_3015 3014_6557_3015
      =*7 5F97 53EF"),
    (0x1FBF0, "30:39"),
    (0x2F800, "
      4E3D 4E38 4E41 20122 4F60 4FAE 4FBB 5002 507A 5099 50E7 50CF 349E 2063A 514D 5154 5164 5177
      2051C 34B9 5167 518D 2054B 5197 51A4 4ECC 51AC 51B5 291DF 51F5 5203 34DF 523B 5246 5272 5277
      3515 52C7 52C9 52E4 52FA 5305 5306 5317 5349 5351 535A 5373 537D 537F*3 20A2C 7070 53CA 53DF
      20B63 53EB 53F1 5406 549E 5438 5448 5468 54A2 54F6 5510 5553 5563 5584*2 5599 55AB 55B3 55C2
      5716 5606 5717 5651 5674 5207 58EE 57CE 57F4 580D 578B 5832 5831 58AC 214E4 58F2 58F7 5906
      591A 5922 5962 216A8 216EA 59EC 5A1B 5A27 59D8 5A66 36EE 36FC 5B08 5B3E*2 219C8 5BC3 5BD8
      5BE7 5BF3 21B18 5BFF 5C06 5F53 5C22 3781 5C60 5C6E 5CC0 5C8D 21DE4 5D43 21DE6 5D6E 5D6B 5D7C
      5DE1 5DE2 382F 5DFD 5E28 5E3D 5E69 3862 22183 387C 5EB0 5EB3 5EB6 5ECA 2A392 5EFE 22331*2
      8201 5F22*2 38C7 232B8 261DA 5F62 5F6B 38E3 5F9A 5FCD 5FD7 5FF9 6081 393A 391C 6094 226D4
      60C7 6148 614C 614E 614C 617A 618E 61B2 61A4 61AF 61DE 61F2 61F6 6210 621B 625D 62B1 62D4
      6350 22B0C 633D 62FC 6368 6383 63E4 22BF1 6422 63C5 63A9 3A2E 6469 647E 649D 6477 3A6C 654F
      656C 2300A 65E3 66F8 6649 3B19 6691 3B08 3AE4 5192 5195 6700 669C 80AD 43D9 6717 671B 6721
      675E 6753 233C3 3B49 67FA 6785 6852 6885 2346D 688E 681F 6914 3B9D 6942 69A3 69EA 6AA8 236A3
      6ADB 3C18 6B21 238A7 6B54 3C4E 6B72 6B9F 6BBA 6BBB 23A8D 21D0B 23AFA 6C4E 23CBC 6CBF 6CCD
      6C67 6D16 6D3E 6D77 6D41 6D69 6D78 6D85 23D1E 6D34 6E2F 6E6E 3D33 6ECB 6EC7 23ED1 6DF9 6F6E
      23F5E 23F8E 6FC6 7039 701E 701B 3D96 704A 707D 7077 70AD 20525 7145 24263 719C 243AB 7228
      7235 7250 24608 7280 7295 24735 24814 737A 738B 3EAC 73A5 3EB8*2 7447 745C 7471 7485 74CA
      3F1B 7524 24C36 753E 24C92 7570 2219F 7610 24FA1 24FB8 25044 3FFC 4008 76F4 250F3 250F2
      25119 25133 771E 771F*2 774A 4039 778B 4046 4096 2541D 784E 788C 78CC 40E3 25626 7956 2569A
      256C5 798F 79EB 412F 7A40 7A4A 7A4F 2597C 25AA7*2 7AEE 4202 25BAB 7BC6 7BC9 4227 25C80 7CD2
      42A0 7CE8 7CE3 7D00 25F86 7D63 4301 7DC7 7E02 7E45 4334 26228 26247 4359 262D9 7F7A 2633E
      7F95 7FFA 8005 264DA 26523 8060 265A8 8070 2335F 43D5 80B2 8103 440B 813E 5AB5 267A7 267B5
      23393 2339C 8201 8204 8F9E 446B 8291 828B 829D 52B3 82B1 82B3 82BD 82E6 26B3C 82E5 831D 8363
      83AD 8323 83BD 83E7 8457 8353 83CA 83CC 83DC 26C36 26D6B 26CD5 452B 84F1 84F3 8516 273CA
      8564 26F2C 455D 4561 26FB1 270D2 456B 8650 865C 8667 8669 86A9 8688 870E 86E2 8779 8728 876B
      8786 45D7 87E1 8801 45F9 8860 8863 27667 88D7 88DE 4635 88FA 34BB 278AE 27966 46BE 46C7 8AA0
      8AED 8B8A 8C55 27CA8 8CAB 8CC1 8D1B 8D77 27F2F 20804 8DCB 8DBC 8DF0 208DE 8ED4 8F38 285D2
      285ED 9094 90F1 9111 2872E 911B 9238 92D7 92D8 927C 93F9 9415 28BFA 958B 4995 95B7 28D77
      49E6 96C3 5DB2 9723 29145 2921A 4A6E 4A76 97E0 2940A 4AB2 29496 980B*2 9829 295B6 98E2 4B33
      9929 99A7 99C2 99FE 4BCE 29B30 9B12 9C40 9CFD 4CCE 4CED 9D67 2A0CE 4CF8 2A105 2A20E 2A291
      9EBB 4D56 9EF9 9EFE 9F05 9F0F 9F16 9F3B 2A600"),
    (0xE0100, "-*F0")
  ]

def readImage (word : List Char) : Option (List Nat) :=
  match word with
  | ['='] => none
  | ['-'] => some []
  | word => (splitWhere (· = '_') word).mapM (Radix.read? 16)

/-- The images between two code points, with `gap` code points between any two of them that are
their own images. -/
def readRun (gap : Nat) (word : List (List Char)) : List (Option (List Nat)) :=
  match word.mapM (Radix.read? 16) with
  | some [first, last] =>
    (List.range (last + 1 - first)).map fun step =>
      if step % (gap + 1) = 0 then some [first + step] else none
  | _ => []

def readWord (word : List Char) : List (Option (List Nat)) :=
  if word.contains ':' then readRun 0 (splitWhere (· = ':') word)
  else if word.contains '/' then readRun 1 (splitWhere (· = '/') word)
  else
    match cutWhere (· = '*') word with
    | (image, none) => [readImage image]
    | (image, some count) => List.replicate ((Radix.read? 16 count).getD 0) (readImage image)

def blocks : List (Nat × Array (Option (List Nat))) :=
  texts.map fun (first, text) =>
    (first, ((splitWords text.toList).flatMap readWord).toArray)

def ofChar (c : Char) : List Char :=
  if c.toNat < 0x80 then [c.toLower]
  else
    match blocks.find? fun block =>
      block.1 ≤ c.toNat && c.toNat - block.1 < block.2.size with
    | none => [c]
    | some (first, images) =>
      match images[c.toNat - first]? with
      | some (some image) => image.map Char.ofNat
      | _ => [c]

def isAllowed (c : Char) : Bool :=
  c.toNat < 0x80 || inRanges allowedRanges c

end ODataTable.NameImage
