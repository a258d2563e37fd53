import BnfParsing.Unicode.Category

/-!
Contract: the binary properties of Unicode as code point sets.

Owns: the properties that case mapping, quoting, display width and expression
classes ask for. A property that the standard derives from categories is
derived here in the same way, from the categories and its listed exceptions.

Does not own: names under which an expression may ask for a property.
-/

set_option autoImplicit false

namespace BnfParsing.Unicode.Property

open Category

/-- Property Alphabetic. -/
def alphabetic : CodePointSet := ⟨[
    0x41, 0x5B, 0x61, 0x7B, 0xAA, 0xAB, 0xB5, 0xB6, 0xBA, 0xBB, 0xC0, 0xD7, 0xD8, 0xF7, 0xF8,
    0x2C2, 0x2C6, 0x2D2, 0x2E0, 0x2E5, 0x2EC, 0x2ED, 0x2EE, 0x2EF, 0x345, 0x346, 0x363, 0x375,
    0x376, 0x378, 0x37A, 0x37E, 0x37F, 0x380, 0x386, 0x387, 0x388, 0x38B, 0x38C, 0x38D, 0x38E,
    0x3A2, 0x3A3, 0x3F6, 0x3F7, 0x482, 0x48A, 0x530, 0x531, 0x557, 0x559, 0x55A, 0x560, 0x589,
    0x5B0, 0x5BE, 0x5BF, 0x5C0, 0x5C1, 0x5C3, 0x5C4, 0x5C6, 0x5C7, 0x5C8, 0x5D0, 0x5EB, 0x5EF,
    0x5F3, 0x610, 0x61B, 0x620, 0x658, 0x659, 0x660, 0x66E, 0x6D4, 0x6D5, 0x6DD, 0x6E1, 0x6E9,
    0x6ED, 0x6F0, 0x6FA, 0x6FD, 0x6FF, 0x700, 0x710, 0x740, 0x74D, 0x7B2, 0x7CA, 0x7EB, 0x7F4,
    0x7F6, 0x7FA, 0x7FB, 0x800, 0x818, 0x81A, 0x82D, 0x840, 0x859, 0x860, 0x86B, 0x870, 0x888,
    0x889, 0x890, 0x897, 0x898, 0x8A0, 0x8CA, 0x8D4, 0x8E0, 0x8E3, 0x8EA, 0x8F0, 0x93C, 0x93D,
    0x94D, 0x94E, 0x951, 0x955, 0x964, 0x971, 0x984, 0x985, 0x98D, 0x98F, 0x991, 0x993, 0x9A9,
    0x9AA, 0x9B1, 0x9B2, 0x9B3, 0x9B6, 0x9BA, 0x9BD, 0x9C5, 0x9C7, 0x9C9, 0x9CB, 0x9CD, 0x9CE,
    0x9CF, 0x9D7, 0x9D8, 0x9DC, 0x9DE, 0x9DF, 0x9E4, 0x9F0, 0x9F2, 0x9FC, 0x9FD, 0xA01, 0xA04,
    0xA05, 0xA0B, 0xA0F, 0xA11, 0xA13, 0xA29, 0xA2A, 0xA31, 0xA32, 0xA34, 0xA35, 0xA37, 0xA38,
    0xA3A, 0xA3E, 0xA43, 0xA47, 0xA49, 0xA4B, 0xA4D, 0xA51, 0xA52, 0xA59, 0xA5D, 0xA5E, 0xA5F,
    0xA70, 0xA76, 0xA81, 0xA84, 0xA85, 0xA8E, 0xA8F, 0xA92, 0xA93, 0xAA9, 0xAAA, 0xAB1, 0xAB2,
    0xAB4, 0xAB5, 0xABA, 0xABD, 0xAC6, 0xAC7, 0xACA, 0xACB, 0xACD, 0xAD0, 0xAD1, 0xAE0, 0xAE4,
    0xAF9, 0xAFD, 0xB01, 0xB04, 0xB05, 0xB0D, 0xB0F, 0xB11, 0xB13, 0xB29, 0xB2A, 0xB31, 0xB32,
    0xB34, 0xB35, 0xB3A, 0xB3D, 0xB45, 0xB47, 0xB49, 0xB4B, 0xB4D, 0xB56, 0xB58, 0xB5C, 0xB5E,
    0xB5F, 0xB64, 0xB71, 0xB72, 0xB82, 0xB84, 0xB85, 0xB8B, 0xB8E, 0xB91, 0xB92, 0xB96, 0xB99,
    0xB9B, 0xB9C, 0xB9D, 0xB9E, 0xBA0, 0xBA3, 0xBA5, 0xBA8, 0xBAB, 0xBAE, 0xBBA, 0xBBE, 0xBC3,
    0xBC6, 0xBC9, 0xBCA, 0xBCD, 0xBD0, 0xBD1, 0xBD7, 0xBD8, 0xC00, 0xC0D, 0xC0E, 0xC11, 0xC12,
    0xC29, 0xC2A, 0xC3A, 0xC3D, 0xC45, 0xC46, 0xC49, 0xC4A, 0xC4D, 0xC55, 0xC57, 0xC58, 0xC5B,
    0xC5C, 0xC5E, 0xC60, 0xC64, 0xC80, 0xC84, 0xC85, 0xC8D, 0xC8E, 0xC91, 0xC92, 0xCA9, 0xCAA,
    0xCB4, 0xCB5, 0xCBA, 0xCBD, 0xCC5, 0xCC6, 0xCC9, 0xCCA, 0xCCD, 0xCD5, 0xCD7, 0xCDC, 0xCDF,
    0xCE0, 0xCE4, 0xCF1, 0xCF4, 0xD00, 0xD0D, 0xD0E, 0xD11, 0xD12, 0xD3B, 0xD3D, 0xD45, 0xD46,
    0xD49, 0xD4A, 0xD4D, 0xD4E, 0xD4F, 0xD54, 0xD58, 0xD5F, 0xD64, 0xD7A, 0xD80, 0xD81, 0xD84,
    0xD85, 0xD97, 0xD9A, 0xDB2, 0xDB3, 0xDBC, 0xDBD, 0xDBE, 0xDC0, 0xDC7, 0xDCF, 0xDD5, 0xDD6,
    0xDD7, 0xDD8, 0xDE0, 0xDF2, 0xDF4, 0xE01, 0xE3B, 0xE40, 0xE47, 0xE4D, 0xE4E, 0xE81, 0xE83,
    0xE84, 0xE85, 0xE86, 0xE8B, 0xE8C, 0xEA4, 0xEA5, 0xEA6, 0xEA7, 0xEBA, 0xEBB, 0xEBE, 0xEC0,
    0xEC5, 0xEC6, 0xEC7, 0xECD, 0xECE, 0xEDC, 0xEE0, 0xF00, 0xF01, 0xF40, 0xF48, 0xF49, 0xF6D,
    0xF71, 0xF84, 0xF88, 0xF98, 0xF99, 0xFBD, 0x1000, 0x1037, 0x1038, 0x1039, 0x103B, 0x1040,
    0x1050, 0x1090, 0x109A, 0x109E, 0x10A0, 0x10C6, 0x10C7, 0x10C8, 0x10CD, 0x10CE, 0x10D0,
    0x10FB, 0x10FC, 0x1249, 0x124A, 0x124E, 0x1250, 0x1257, 0x1258, 0x1259, 0x125A, 0x125E,
    0x1260, 0x1289, 0x128A, 0x128E, 0x1290, 0x12B1, 0x12B2, 0x12B6, 0x12B8, 0x12BF, 0x12C0,
    0x12C1, 0x12C2, 0x12C6, 0x12C8, 0x12D7, 0x12D8, 0x1311, 0x1312, 0x1316, 0x1318, 0x135B,
    0x1380, 0x1390, 0x13A0, 0x13F6, 0x13F8, 0x13FE, 0x1401, 0x166D, 0x166F, 0x1680, 0x1681,
    0x169B, 0x16A0, 0x16EB, 0x16EE, 0x16F9, 0x1700, 0x1714, 0x171F, 0x1734, 0x1740, 0x1754,
    0x1760, 0x176D, 0x176E, 0x1771, 0x1772, 0x1774, 0x1780, 0x17B4, 0x17B6, 0x17C9, 0x17D7,
    0x17D8, 0x17DC, 0x17DD, 0x1820, 0x1879, 0x1880, 0x18AB, 0x18B0, 0x18F6, 0x1900, 0x191F,
    0x1920, 0x192C, 0x1930, 0x1939, 0x1950, 0x196E, 0x1970, 0x1975, 0x1980, 0x19AC, 0x19B0,
    0x19CA, 0x1A00, 0x1A1C, 0x1A20, 0x1A5F, 0x1A61, 0x1A75, 0x1AA7, 0x1AA8, 0x1ABF, 0x1AC1,
    0x1ACC, 0x1ACF, 0x1B00, 0x1B34, 0x1B35, 0x1B44, 0x1B45, 0x1B4D, 0x1B80, 0x1BAA, 0x1BAC,
    0x1BB0, 0x1BBA, 0x1BE6, 0x1BE7, 0x1BF2, 0x1C00, 0x1C37, 0x1C4D, 0x1C50, 0x1C5A, 0x1C7E,
    0x1C80, 0x1C8B, 0x1C90, 0x1CBB, 0x1CBD, 0x1CC0, 0x1CE9, 0x1CED, 0x1CEE, 0x1CF4, 0x1CF5,
    0x1CF7, 0x1CFA, 0x1CFB, 0x1D00, 0x1DC0, 0x1DD3, 0x1DF5, 0x1E00, 0x1F16, 0x1F18, 0x1F1E,
    0x1F20, 0x1F46, 0x1F48, 0x1F4E, 0x1F50, 0x1F58, 0x1F59, 0x1F5A, 0x1F5B, 0x1F5C, 0x1F5D,
    0x1F5E, 0x1F5F, 0x1F7E, 0x1F80, 0x1FB5, 0x1FB6, 0x1FBD, 0x1FBE, 0x1FBF, 0x1FC2, 0x1FC5,
    0x1FC6, 0x1FCD, 0x1FD0, 0x1FD4, 0x1FD6, 0x1FDC, 0x1FE0, 0x1FED, 0x1FF2, 0x1FF5, 0x1FF6,
    0x1FFD, 0x2071, 0x2072, 0x207F, 0x2080, 0x2090, 0x209D, 0x2102, 0x2103, 0x2107, 0x2108,
    0x210A, 0x2114, 0x2115, 0x2116, 0x2119, 0x211E, 0x2124, 0x2125, 0x2126, 0x2127, 0x2128,
    0x2129, 0x212A, 0x212E, 0x212F, 0x213A, 0x213C, 0x2140, 0x2145, 0x214A, 0x214E, 0x214F,
    0x2160, 0x2189, 0x24B6, 0x24EA, 0x2C00, 0x2CE5, 0x2CEB, 0x2CEF, 0x2CF2, 0x2CF4, 0x2D00,
    0x2D26, 0x2D27, 0x2D28, 0x2D2D, 0x2D2E, 0x2D30, 0x2D68, 0x2D6F, 0x2D70, 0x2D80, 0x2D97,
    0x2DA0, 0x2DA7, 0x2DA8, 0x2DAF, 0x2DB0, 0x2DB7, 0x2DB8, 0x2DBF, 0x2DC0, 0x2DC7, 0x2DC8,
    0x2DCF, 0x2DD0, 0x2DD7, 0x2DD8, 0x2DDF, 0x2DE0, 0x2E00, 0x2E2F, 0x2E30, 0x3005, 0x3008,
    0x3021, 0x302A, 0x3031, 0x3036, 0x3038, 0x303D, 0x3041, 0x3097, 0x309D, 0x30A0, 0x30A1,
    0x30FB, 0x30FC, 0x3100, 0x3105, 0x3130, 0x3131, 0x318F, 0x31A0, 0x31C0, 0x31F0, 0x3200,
    0x3400, 0x4DC0, 0x4E00, 0xA48D, 0xA4D0, 0xA4FE, 0xA500, 0xA60D, 0xA610, 0xA620, 0xA62A,
    0xA62C, 0xA640, 0xA66F, 0xA674, 0xA67C, 0xA67F, 0xA6F0, 0xA717, 0xA720, 0xA722, 0xA789,
    0xA78B, 0xA7DD, 0xA7F1, 0xA806, 0xA807, 0xA828, 0xA840, 0xA874, 0xA880, 0xA8C4, 0xA8C5,
    0xA8C6, 0xA8F2, 0xA8F8, 0xA8FB, 0xA8FC, 0xA8FD, 0xA900, 0xA90A, 0xA92B, 0xA930, 0xA953,
    0xA960, 0xA97D, 0xA980, 0xA9B3, 0xA9B4, 0xA9C0, 0xA9CF, 0xA9D0, 0xA9E0, 0xA9F0, 0xA9FA,
    0xA9FF, 0xAA00, 0xAA37, 0xAA40, 0xAA4E, 0xAA60, 0xAA77, 0xAA7A, 0xAABF, 0xAAC0, 0xAAC1,
    0xAAC2, 0xAAC3, 0xAADB, 0xAADE, 0xAAE0, 0xAAF0, 0xAAF2, 0xAAF6, 0xAB01, 0xAB07, 0xAB09,
    0xAB0F, 0xAB11, 0xAB17, 0xAB20, 0xAB27, 0xAB28, 0xAB2F, 0xAB30, 0xAB5B, 0xAB5C, 0xAB6A,
    0xAB70, 0xABEB, 0xAC00, 0xD7A4, 0xD7B0, 0xD7C7, 0xD7CB, 0xD7FC, 0xF900, 0xFA6E, 0xFA70,
    0xFADA, 0xFB00, 0xFB07, 0xFB13, 0xFB18, 0xFB1D, 0xFB29, 0xFB2A, 0xFB37, 0xFB38, 0xFB3D,
    0xFB3E, 0xFB3F, 0xFB40, 0xFB42, 0xFB43, 0xFB45, 0xFB46, 0xFBB2, 0xFBD3, 0xFD3E, 0xFD50,
    0xFD90, 0xFD92, 0xFDC8, 0xFDF0, 0xFDFC, 0xFE70, 0xFE75, 0xFE76, 0xFEFD, 0xFF21, 0xFF3B,
    0xFF41, 0xFF5B, 0xFF66, 0xFFBF, 0xFFC2, 0xFFC8, 0xFFCA, 0xFFD0, 0xFFD2, 0xFFD8, 0xFFDA,
    0xFFDD, 0x10000, 0x1000C, 0x1000D, 0x10027, 0x10028, 0x1003B, 0x1003C, 0x1003E, 0x1003F,
    0x1004E, 0x10050, 0x1005E, 0x10080, 0x100FB, 0x10140, 0x10175, 0x10280, 0x1029D, 0x102A0,
    0x102D1, 0x10300, 0x10320, 0x1032D, 0x1034B, 0x10350, 0x1037B, 0x10380, 0x1039E, 0x103A0,
    0x103C4, 0x103C8, 0x103D0, 0x103D1, 0x103D6, 0x10400, 0x1049E, 0x104B0, 0x104D4, 0x104D8,
    0x104FC, 0x10500, 0x10528, 0x10530, 0x10564, 0x10570, 0x1057B, 0x1057C, 0x1058B, 0x1058C,
    0x10593, 0x10594, 0x10596, 0x10597, 0x105A2, 0x105A3, 0x105B2, 0x105B3, 0x105BA, 0x105BB,
    0x105BD, 0x105C0, 0x105F4, 0x10600, 0x10737, 0x10740, 0x10756, 0x10760, 0x10768, 0x10780,
    0x10786, 0x10787, 0x107B1, 0x107B2, 0x107BB, 0x10800, 0x10806, 0x10808, 0x10809, 0x1080A,
    0x10836, 0x10837, 0x10839, 0x1083C, 0x1083D, 0x1083F, 0x10856, 0x10860, 0x10877, 0x10880,
    0x1089F, 0x108E0, 0x108F3, 0x108F4, 0x108F6, 0x10900, 0x10916, 0x10920, 0x1093A, 0x10940,
    0x1095A, 0x10980, 0x109B8, 0x109BE, 0x109C0, 0x10A00, 0x10A04, 0x10A05, 0x10A07, 0x10A0C,
    0x10A14, 0x10A15, 0x10A18, 0x10A19, 0x10A36, 0x10A60, 0x10A7D, 0x10A80, 0x10A9D, 0x10AC0,
    0x10AC8, 0x10AC9, 0x10AE5, 0x10B00, 0x10B36, 0x10B40, 0x10B56, 0x10B60, 0x10B73, 0x10B80,
    0x10B92, 0x10C00, 0x10C49, 0x10C80, 0x10CB3, 0x10CC0, 0x10CF3, 0x10D00, 0x10D28, 0x10D4A,
    0x10D66, 0x10D69, 0x10D6A, 0x10D6F, 0x10D86, 0x10E80, 0x10EAA, 0x10EAB, 0x10EAD, 0x10EB0,
    0x10EB2, 0x10EC2, 0x10EC8, 0x10EFA, 0x10EFD, 0x10F00, 0x10F1D, 0x10F27, 0x10F28, 0x10F30,
    0x10F46, 0x10F70, 0x10F82, 0x10FB0, 0x10FC5, 0x10FE0, 0x10FF7, 0x11000, 0x11046, 0x11071,
    0x11076, 0x11080, 0x110B9, 0x110C2, 0x110C3, 0x110D0, 0x110E9, 0x11100, 0x11133, 0x11144,
    0x11148, 0x11150, 0x11173, 0x11176, 0x11177, 0x11180, 0x111C0, 0x111C1, 0x111C5, 0x111CE,
    0x111D0, 0x111DA, 0x111DB, 0x111DC, 0x111DD, 0x11200, 0x11212, 0x11213, 0x11235, 0x11237,
    0x11238, 0x1123E, 0x11242, 0x11280, 0x11287, 0x11288, 0x11289, 0x1128A, 0x1128E, 0x1128F,
    0x1129E, 0x1129F, 0x112A9, 0x112B0, 0x112E9, 0x11300, 0x11304, 0x11305, 0x1130D, 0x1130F,
    0x11311, 0x11313, 0x11329, 0x1132A, 0x11331, 0x11332, 0x11334, 0x11335, 0x1133A, 0x1133D,
    0x11345, 0x11347, 0x11349, 0x1134B, 0x1134D, 0x11350, 0x11351, 0x11357, 0x11358, 0x1135D,
    0x11364, 0x11380, 0x1138A, 0x1138B, 0x1138C, 0x1138E, 0x1138F, 0x11390, 0x113B6, 0x113B7,
    0x113C1, 0x113C2, 0x113C3, 0x113C5, 0x113C6, 0x113C7, 0x113CB, 0x113CC, 0x113CE, 0x113D1,
    0x113D2, 0x113D3, 0x113D4, 0x11400, 0x11442, 0x11443, 0x11446, 0x11447, 0x1144B, 0x1145F,
    0x11462, 0x11480, 0x114C2, 0x114C4, 0x114C6, 0x114C7, 0x114C8, 0x11580, 0x115B6, 0x115B8,
    0x115BF, 0x115D8, 0x115DE, 0x11600, 0x1163F, 0x11640, 0x11641, 0x11644, 0x11645, 0x11680,
    0x116B6, 0x116B8, 0x116B9, 0x11700, 0x1171B, 0x1171D, 0x1172B, 0x11740, 0x11747, 0x11800,
    0x11839, 0x118A0, 0x118E0, 0x118FF, 0x11907, 0x11909, 0x1190A, 0x1190C, 0x11914, 0x11915,
    0x11917, 0x11918, 0x11936, 0x11937, 0x11939, 0x1193B, 0x1193D, 0x1193F, 0x11943, 0x119A0,
    0x119A8, 0x119AA, 0x119D8, 0x119DA, 0x119E0, 0x119E1, 0x119E2, 0x119E3, 0x119E5, 0x11A00,
    0x11A33, 0x11A35, 0x11A3F, 0x11A50, 0x11A98, 0x11A9D, 0x11A9E, 0x11AB0, 0x11AF9, 0x11B60,
    0x11B68, 0x11BC0, 0x11BE1, 0x11C00, 0x11C09, 0x11C0A, 0x11C37, 0x11C38, 0x11C3F, 0x11C40,
    0x11C41, 0x11C72, 0x11C90, 0x11C92, 0x11CA8, 0x11CA9, 0x11CB7, 0x11D00, 0x11D07, 0x11D08,
    0x11D0A, 0x11D0B, 0x11D37, 0x11D3A, 0x11D3B, 0x11D3C, 0x11D3E, 0x11D3F, 0x11D42, 0x11D43,
    0x11D44, 0x11D46, 0x11D48, 0x11D60, 0x11D66, 0x11D67, 0x11D69, 0x11D6A, 0x11D8F, 0x11D90,
    0x11D92, 0x11D93, 0x11D97, 0x11D98, 0x11D99, 0x11DB0, 0x11DDC, 0x11EE0, 0x11EF7, 0x11F00,
    0x11F11, 0x11F12, 0x11F3B, 0x11F3E, 0x11F41, 0x11FB0, 0x11FB1, 0x12000, 0x1239A, 0x12400,
    0x1246F, 0x12480, 0x12544, 0x12F90, 0x12FF1, 0x13000, 0x13430, 0x13441, 0x13447, 0x13460,
    0x143FB, 0x14400, 0x14647, 0x16100, 0x1612F, 0x16800, 0x16A39, 0x16A40, 0x16A5F, 0x16A70,
    0x16ABF, 0x16AD0, 0x16AEE, 0x16B00, 0x16B30, 0x16B40, 0x16B44, 0x16B63, 0x16B78, 0x16B7D,
    0x16B90, 0x16D40, 0x16D6D, 0x16E40, 0x16E80, 0x16EA0, 0x16EB9, 0x16EBB, 0x16ED4, 0x16F00,
    0x16F4B, 0x16F4F, 0x16F88, 0x16F8F, 0x16FA0, 0x16FE0, 0x16FE2, 0x16FE3, 0x16FE4, 0x16FF0,
    0x16FF7, 0x17000, 0x18CD6, 0x18CFF, 0x18D1F, 0x18D80, 0x18DF3, 0x1AFF0, 0x1AFF4, 0x1AFF5,
    0x1AFFC, 0x1AFFD, 0x1AFFF, 0x1B000, 0x1B123, 0x1B132, 0x1B133, 0x1B150, 0x1B153, 0x1B155,
    0x1B156, 0x1B164, 0x1B168, 0x1B170, 0x1B2FC, 0x1BC00, 0x1BC6B, 0x1BC70, 0x1BC7D, 0x1BC80,
    0x1BC89, 0x1BC90, 0x1BC9A, 0x1BC9E, 0x1BC9F, 0x1D400, 0x1D455, 0x1D456, 0x1D49D, 0x1D49E,
    0x1D4A0, 0x1D4A2, 0x1D4A3, 0x1D4A5, 0x1D4A7, 0x1D4A9, 0x1D4AD, 0x1D4AE, 0x1D4BA, 0x1D4BB,
    0x1D4BC, 0x1D4BD, 0x1D4C4, 0x1D4C5, 0x1D506, 0x1D507, 0x1D50B, 0x1D50D, 0x1D515, 0x1D516,
    0x1D51D, 0x1D51E, 0x1D53A, 0x1D53B, 0x1D53F, 0x1D540, 0x1D545, 0x1D546, 0x1D547, 0x1D54A,
    0x1D551, 0x1D552, 0x1D6A6, 0x1D6A8, 0x1D6C1, 0x1D6C2, 0x1D6DB, 0x1D6DC, 0x1D6FB, 0x1D6FC,
    0x1D715, 0x1D716, 0x1D735, 0x1D736, 0x1D74F, 0x1D750, 0x1D76F, 0x1D770, 0x1D789, 0x1D78A,
    0x1D7A9, 0x1D7AA, 0x1D7C3, 0x1D7C4, 0x1D7CC, 0x1DF00, 0x1DF1F, 0x1DF25, 0x1DF2B, 0x1E000,
    0x1E007, 0x1E008, 0x1E019, 0x1E01B, 0x1E022, 0x1E023, 0x1E025, 0x1E026, 0x1E02B, 0x1E030,
    0x1E06E, 0x1E08F, 0x1E090, 0x1E100, 0x1E12D, 0x1E137, 0x1E13E, 0x1E14E, 0x1E14F, 0x1E290,
    0x1E2AE, 0x1E2C0, 0x1E2EC, 0x1E4D0, 0x1E4EC, 0x1E5D0, 0x1E5EE, 0x1E5F0, 0x1E5F1, 0x1E6C0,
    0x1E6DF, 0x1E6E0, 0x1E6F6, 0x1E6FE, 0x1E700, 0x1E7E0, 0x1E7E7, 0x1E7E8, 0x1E7EC, 0x1E7ED,
    0x1E7EF, 0x1E7F0, 0x1E7FF, 0x1E800, 0x1E8C5, 0x1E900, 0x1E944, 0x1E947, 0x1E948, 0x1E94B,
    0x1E94C, 0x1EE00, 0x1EE04, 0x1EE05, 0x1EE20, 0x1EE21, 0x1EE23, 0x1EE24, 0x1EE25, 0x1EE27,
    0x1EE28, 0x1EE29, 0x1EE33, 0x1EE34, 0x1EE38, 0x1EE39, 0x1EE3A, 0x1EE3B, 0x1EE3C, 0x1EE42,
    0x1EE43, 0x1EE47, 0x1EE48, 0x1EE49, 0x1EE4A, 0x1EE4B, 0x1EE4C, 0x1EE4D, 0x1EE50, 0x1EE51,
    0x1EE53, 0x1EE54, 0x1EE55, 0x1EE57, 0x1EE58, 0x1EE59, 0x1EE5A, 0x1EE5B, 0x1EE5C, 0x1EE5D,
    0x1EE5E, 0x1EE5F, 0x1EE60, 0x1EE61, 0x1EE63, 0x1EE64, 0x1EE65, 0x1EE67, 0x1EE6B, 0x1EE6C,
    0x1EE73, 0x1EE74, 0x1EE78, 0x1EE79, 0x1EE7D, 0x1EE7E, 0x1EE7F, 0x1EE80, 0x1EE8A, 0x1EE8B,
    0x1EE9C, 0x1EEA1, 0x1EEA4, 0x1EEA5, 0x1EEAA, 0x1EEAB, 0x1EEBC, 0x1F130, 0x1F14A, 0x1F150,
    0x1F16A, 0x1F170, 0x1F18A, 0x20000, 0x2A6E0, 0x2A700, 0x2B81E, 0x2B820, 0x2CEAE, 0x2CEB0,
    0x2EBE1, 0x2EBF0, 0x2EE5E, 0x2F800, 0x2FA1E, 0x30000, 0x3134B, 0x31350, 0x3347A]⟩

/-- Property ASCII_Hex_Digit. -/
def asciiHexDigit : CodePointSet := ⟨[
    0x30, 0x3A, 0x41, 0x47, 0x61, 0x67]⟩

/-- Property Bidi_Control. -/
def bidiControl : CodePointSet := ⟨[
    0x61C, 0x61D, 0x200E, 0x2010, 0x202A, 0x202F, 0x2066, 0x206A]⟩

/-- Property Dash. -/
def dash : CodePointSet := ⟨[
    0x2D, 0x2E, 0x58A, 0x58B, 0x5BE, 0x5BF, 0x1400, 0x1401, 0x1806, 0x1807, 0x2010, 0x2016,
    0x2053, 0x2054, 0x207B, 0x207C, 0x208B, 0x208C, 0x2212, 0x2213, 0x2E17, 0x2E18, 0x2E1A,
    0x2E1B, 0x2E3A, 0x2E3C, 0x2E40, 0x2E41, 0x2E5D, 0x2E5E, 0x301C, 0x301D, 0x3030, 0x3031,
    0x30A0, 0x30A1, 0xFE31, 0xFE33, 0xFE58, 0xFE59, 0xFE63, 0xFE64, 0xFF0D, 0xFF0E, 0x10D6E,
    0x10D6F, 0x10EAD, 0x10EAE]⟩

/-- Property Default_Ignorable_Code_Point. -/
def defaultIgnorableCodePoint : CodePointSet := ⟨[
    0xAD, 0xAE, 0x34F, 0x350, 0x61C, 0x61D, 0x115F, 0x1161, 0x17B4, 0x17B6, 0x180B, 0x1810,
    0x200B, 0x2010, 0x202A, 0x202F, 0x2060, 0x2070, 0x3164, 0x3165, 0xFE00, 0xFE10, 0xFEFF,
    0xFF00, 0xFFA0, 0xFFA1, 0xFFF0, 0xFFF9, 0x1BCA0, 0x1BCA4, 0x1D173, 0x1D17B, 0xE0000, 0xE1000]⟩

/-- Property Deprecated. -/
def deprecated : CodePointSet := ⟨[
    0x149, 0x14A, 0x673, 0x674, 0xF77, 0xF78, 0xF79, 0xF7A, 0x17A3, 0x17A5, 0x206A, 0x2070,
    0x2329, 0x232B, 0xE0001, 0xE0002]⟩

/-- Property Diacritic. -/
def diacritic : CodePointSet := ⟨[
    0x5E, 0x5F, 0x60, 0x61, 0xA8, 0xA9, 0xAF, 0xB0, 0xB4, 0xB5, 0xB7, 0xB9, 0x2B0, 0x34F, 0x350,
    0x358, 0x35D, 0x363, 0x374, 0x376, 0x37A, 0x37B, 0x384, 0x386, 0x483, 0x488, 0x559, 0x55A,
    0x591, 0x5BE, 0x5BF, 0x5C0, 0x5C1, 0x5C3, 0x5C4, 0x5C6, 0x5C7, 0x5C8, 0x64B, 0x653, 0x657,
    0x659, 0x6DF, 0x6E1, 0x6E5, 0x6E7, 0x6EA, 0x6ED, 0x730, 0x74B, 0x7A6, 0x7B1, 0x7EB, 0x7F6,
    0x818, 0x81A, 0x898, 0x8A0, 0x8C9, 0x8D3, 0x8E3, 0x8FF, 0x93C, 0x93D, 0x94D, 0x94E, 0x951,
    0x955, 0x971, 0x972, 0x9BC, 0x9BD, 0x9CD, 0x9CE, 0xA3C, 0xA3D, 0xA4D, 0xA4E, 0xABC, 0xABD,
    0xACD, 0xACE, 0xAFD, 0xB00, 0xB3C, 0xB3D, 0xB4D, 0xB4E, 0xB55, 0xB56, 0xBCD, 0xBCE, 0xC3C,
    0xC3D, 0xC4D, 0xC4E, 0xCBC, 0xCBD, 0xCCD, 0xCCE, 0xD3B, 0xD3D, 0xD4D, 0xD4E, 0xDCA, 0xDCB,
    0xE3A, 0xE3B, 0xE47, 0xE4D, 0xE4E, 0xE4F, 0xEBA, 0xEBB, 0xEC8, 0xECD, 0xF18, 0xF1A, 0xF35,
    0xF36, 0xF37, 0xF38, 0xF39, 0xF3A, 0xF3E, 0xF40, 0xF82, 0xF85, 0xF86, 0xF88, 0xFC6, 0xFC7,
    0x1037, 0x1038, 0x1039, 0x103B, 0x1063, 0x1065, 0x1069, 0x106E, 0x1087, 0x108E, 0x108F,
    0x1090, 0x109A, 0x109C, 0x135D, 0x1360, 0x1714, 0x1716, 0x1734, 0x1735, 0x17C9, 0x17D4,
    0x17DD, 0x17DE, 0x1939, 0x193C, 0x1A60, 0x1A61, 0x1A75, 0x1A7D, 0x1A7F, 0x1A80, 0x1AB0,
    0x1ABF, 0x1AC1, 0x1ACC, 0x1ACF, 0x1ADE, 0x1AE0, 0x1AEC, 0x1B34, 0x1B35, 0x1B44, 0x1B45,
    0x1B6B, 0x1B74, 0x1BAA, 0x1BAC, 0x1BE6, 0x1BE7, 0x1BF2, 0x1BF4, 0x1C36, 0x1C38, 0x1C78,
    0x1C7E, 0x1CD0, 0x1CE9, 0x1CED, 0x1CEE, 0x1CF4, 0x1CF5, 0x1CF7, 0x1CFA, 0x1D2C, 0x1D6B,
    0x1D9B, 0x1DBF, 0x1DC4, 0x1DD0, 0x1DF5, 0x1E00, 0x1FBD, 0x1FBE, 0x1FBF, 0x1FC2, 0x1FCD,
    0x1FD0, 0x1FDD, 0x1FE0, 0x1FED, 0x1FF0, 0x1FFD, 0x1FFF, 0x2CEF, 0x2CF2, 0x2E2F, 0x2E30,
    0x302A, 0x3030, 0x3099, 0x309D, 0x30FC, 0x30FD, 0xA66F, 0xA670, 0xA67C, 0xA67E, 0xA67F,
    0xA680, 0xA69C, 0xA69E, 0xA6F0, 0xA6F2, 0xA700, 0xA722, 0xA788, 0xA78B, 0xA7F1, 0xA7F2,
    0xA7F8, 0xA7FA, 0xA806, 0xA807, 0xA82C, 0xA82D, 0xA8C4, 0xA8C5, 0xA8E0, 0xA8F2, 0xA92B,
    0xA92F, 0xA953, 0xA954, 0xA9B3, 0xA9B4, 0xA9C0, 0xA9C1, 0xA9E5, 0xA9E6, 0xAA7B, 0xAA7E,
    0xAABF, 0xAAC3, 0xAAF6, 0xAAF7, 0xAB5B, 0xAB60, 0xAB69, 0xAB6C, 0xABEC, 0xABEE, 0xFB1E,
    0xFB1F, 0xFE20, 0xFE30, 0xFF3E, 0xFF3F, 0xFF40, 0xFF41, 0xFF70, 0xFF71, 0xFF9E, 0xFFA0,
    0xFFE3, 0xFFE4, 0x102E0, 0x102E1, 0x10780, 0x10786, 0x10787, 0x107B1, 0x107B2, 0x107BB,
    0x10A38, 0x10A3B, 0x10A3F, 0x10A40, 0x10AE5, 0x10AE7, 0x10D22, 0x10D28, 0x10D4E, 0x10D4F,
    0x10D69, 0x10D6E, 0x10EFA, 0x10EFB, 0x10EFD, 0x10F00, 0x10F46, 0x10F51, 0x10F82, 0x10F86,
    0x11046, 0x11047, 0x11070, 0x11071, 0x110B9, 0x110BB, 0x11133, 0x11135, 0x11173, 0x11174,
    0x111C0, 0x111C1, 0x111CA, 0x111CD, 0x11235, 0x11237, 0x112E9, 0x112EB, 0x1133B, 0x1133D,
    0x1134D, 0x1134E, 0x11366, 0x1136D, 0x11370, 0x11375, 0x113CE, 0x113D1, 0x113D2, 0x113D4,
    0x113E1, 0x113E3, 0x11442, 0x11443, 0x11446, 0x11447, 0x114C2, 0x114C4, 0x115BF, 0x115C1,
    0x1163F, 0x11640, 0x116B6, 0x116B8, 0x1172B, 0x1172C, 0x11839, 0x1183B, 0x1193D, 0x1193F,
    0x11943, 0x11944, 0x119E0, 0x119E1, 0x11A34, 0x11A35, 0x11A47, 0x11A48, 0x11A99, 0x11A9A,
    0x11C3F, 0x11C40, 0x11D42, 0x11D43, 0x11D44, 0x11D46, 0x11D97, 0x11D98, 0x11DD9, 0x11DDA,
    0x11F41, 0x11F43, 0x11F5A, 0x11F5B, 0x13447, 0x13456, 0x1612F, 0x16130, 0x16AF0, 0x16AF5,
    0x16B30, 0x16B37, 0x16D6B, 0x16D6D, 0x16F8F, 0x16FA0, 0x16FF0, 0x16FF2, 0x1AFF0, 0x1AFF4,
    0x1AFF5, 0x1AFFC, 0x1AFFD, 0x1AFFF, 0x1CF00, 0x1CF2E, 0x1CF30, 0x1CF47, 0x1D167, 0x1D16A,
    0x1D16D, 0x1D173, 0x1D17B, 0x1D183, 0x1D185, 0x1D18C, 0x1D1AA, 0x1D1AE, 0x1E030, 0x1E06E,
    0x1E130, 0x1E137, 0x1E2AE, 0x1E2AF, 0x1E2EC, 0x1E2F0, 0x1E5EE, 0x1E5F0, 0x1E8D0, 0x1E8D7,
    0x1E944, 0x1E947, 0x1E948, 0x1E94B]⟩

/-- Property Emoji. -/
def emoji : CodePointSet := ⟨[
    0x23, 0x24, 0x2A, 0x2B, 0x30, 0x3A, 0xA9, 0xAA, 0xAE, 0xAF, 0x203C, 0x203D, 0x2049, 0x204A,
    0x2122, 0x2123, 0x2139, 0x213A, 0x2194, 0x219A, 0x21A9, 0x21AB, 0x231A, 0x231C, 0x2328,
    0x2329, 0x23CF, 0x23D0, 0x23E9, 0x23F4, 0x23F8, 0x23FB, 0x24C2, 0x24C3, 0x25AA, 0x25AC,
    0x25B6, 0x25B7, 0x25C0, 0x25C1, 0x25FB, 0x25FF, 0x2600, 0x2605, 0x260E, 0x260F, 0x2611,
    0x2612, 0x2614, 0x2616, 0x2618, 0x2619, 0x261D, 0x261E, 0x2620, 0x2621, 0x2622, 0x2624,
    0x2626, 0x2627, 0x262A, 0x262B, 0x262E, 0x2630, 0x2638, 0x263B, 0x2640, 0x2641, 0x2642,
    0x2643, 0x2648, 0x2654, 0x265F, 0x2661, 0x2663, 0x2664, 0x2665, 0x2667, 0x2668, 0x2669,
    0x267B, 0x267C, 0x267E, 0x2680, 0x2692, 0x2698, 0x2699, 0x269A, 0x269B, 0x269D, 0x26A0,
    0x26A2, 0x26A7, 0x26A8, 0x26AA, 0x26AC, 0x26B0, 0x26B2, 0x26BD, 0x26BF, 0x26C4, 0x26C6,
    0x26C8, 0x26C9, 0x26CE, 0x26D0, 0x26D1, 0x26D2, 0x26D3, 0x26D5, 0x26E9, 0x26EB, 0x26F0,
    0x26F6, 0x26F7, 0x26FB, 0x26FD, 0x26FE, 0x2702, 0x2703, 0x2705, 0x2706, 0x2708, 0x270E,
    0x270F, 0x2710, 0x2712, 0x2713, 0x2714, 0x2715, 0x2716, 0x2717, 0x271D, 0x271E, 0x2721,
    0x2722, 0x2728, 0x2729, 0x2733, 0x2735, 0x2744, 0x2745, 0x2747, 0x2748, 0x274C, 0x274D,
    0x274E, 0x274F, 0x2753, 0x2756, 0x2757, 0x2758, 0x2763, 0x2765, 0x2795, 0x2798, 0x27A1,
    0x27A2, 0x27B0, 0x27B1, 0x27BF, 0x27C0, 0x2934, 0x2936, 0x2B05, 0x2B08, 0x2B1B, 0x2B1D,
    0x2B50, 0x2B51, 0x2B55, 0x2B56, 0x3030, 0x3031, 0x303D, 0x303E, 0x3297, 0x3298, 0x3299,
    0x329A, 0x1F004, 0x1F005, 0x1F0CF, 0x1F0D0, 0x1F170, 0x1F172, 0x1F17E, 0x1F180, 0x1F18E,
    0x1F18F, 0x1F191, 0x1F19B, 0x1F1E6, 0x1F200, 0x1F201, 0x1F203, 0x1F21A, 0x1F21B, 0x1F22F,
    0x1F230, 0x1F232, 0x1F23B, 0x1F250, 0x1F252, 0x1F300, 0x1F322, 0x1F324, 0x1F394, 0x1F396,
    0x1F398, 0x1F399, 0x1F39C, 0x1F39E, 0x1F3F1, 0x1F3F3, 0x1F3F6, 0x1F3F7, 0x1F4FE, 0x1F4FF,
    0x1F53E, 0x1F549, 0x1F54F, 0x1F550, 0x1F568, 0x1F56F, 0x1F571, 0x1F573, 0x1F57B, 0x1F587,
    0x1F588, 0x1F58A, 0x1F58E, 0x1F590, 0x1F591, 0x1F595, 0x1F597, 0x1F5A4, 0x1F5A6, 0x1F5A8,
    0x1F5A9, 0x1F5B1, 0x1F5B3, 0x1F5BC, 0x1F5BD, 0x1F5C2, 0x1F5C5, 0x1F5D1, 0x1F5D4, 0x1F5DC,
    0x1F5DF, 0x1F5E1, 0x1F5E2, 0x1F5E3, 0x1F5E4, 0x1F5E8, 0x1F5E9, 0x1F5EF, 0x1F5F0, 0x1F5F3,
    0x1F5F4, 0x1F5FA, 0x1F650, 0x1F680, 0x1F6C6, 0x1F6CB, 0x1F6D3, 0x1F6D5, 0x1F6D9, 0x1F6DC,
    0x1F6E6, 0x1F6E9, 0x1F6EA, 0x1F6EB, 0x1F6ED, 0x1F6F0, 0x1F6F1, 0x1F6F3, 0x1F6FD, 0x1F7E0,
    0x1F7EC, 0x1F7F0, 0x1F7F1, 0x1F90C, 0x1F93B, 0x1F93C, 0x1F946, 0x1F947, 0x1FA00, 0x1FA70,
    0x1FA7D, 0x1FA80, 0x1FA8B, 0x1FA8E, 0x1FAC7, 0x1FAC8, 0x1FAC9, 0x1FACD, 0x1FADD, 0x1FADF,
    0x1FAEB, 0x1FAEF, 0x1FAF9]⟩

/-- Property Emoji_Component. -/
def emojiComponent : CodePointSet := ⟨[
    0x23, 0x24, 0x2A, 0x2B, 0x30, 0x3A, 0x200D, 0x200E, 0x20E3, 0x20E4, 0xFE0F, 0xFE10, 0x1F1E6,
    0x1F200, 0x1F3FB, 0x1F400, 0x1F9B0, 0x1F9B4, 0xE0020, 0xE0080]⟩

/-- Property Emoji_Modifier. -/
def emojiModifier : CodePointSet := ⟨[
    0x1F3FB, 0x1F400]⟩

/-- Property Emoji_Modifier_Base. -/
def emojiModifierBase : CodePointSet := ⟨[
    0x261D, 0x261E, 0x26F9, 0x26FA, 0x270A, 0x270E, 0x1F385, 0x1F386, 0x1F3C2, 0x1F3C5, 0x1F3C7,
    0x1F3C8, 0x1F3CA, 0x1F3CD, 0x1F442, 0x1F444, 0x1F446, 0x1F451, 0x1F466, 0x1F479, 0x1F47C,
    0x1F47D, 0x1F481, 0x1F484, 0x1F485, 0x1F488, 0x1F48F, 0x1F490, 0x1F491, 0x1F492, 0x1F4AA,
    0x1F4AB, 0x1F574, 0x1F576, 0x1F57A, 0x1F57B, 0x1F590, 0x1F591, 0x1F595, 0x1F597, 0x1F645,
    0x1F648, 0x1F64B, 0x1F650, 0x1F6A3, 0x1F6A4, 0x1F6B4, 0x1F6B7, 0x1F6C0, 0x1F6C1, 0x1F6CC,
    0x1F6CD, 0x1F90C, 0x1F90D, 0x1F90F, 0x1F910, 0x1F918, 0x1F920, 0x1F926, 0x1F927, 0x1F930,
    0x1F93A, 0x1F93C, 0x1F93F, 0x1F977, 0x1F978, 0x1F9B5, 0x1F9B7, 0x1F9B8, 0x1F9BA, 0x1F9BB,
    0x1F9BC, 0x1F9CD, 0x1F9D0, 0x1F9D1, 0x1F9DE, 0x1FAC3, 0x1FAC6, 0x1FAF0, 0x1FAF9]⟩

/-- Property Emoji_Presentation. -/
def emojiPresentation : CodePointSet := ⟨[
    0x231A, 0x231C, 0x23E9, 0x23ED, 0x23F0, 0x23F1, 0x23F3, 0x23F4, 0x25FD, 0x25FF, 0x2614,
    0x2616, 0x2648, 0x2654, 0x267F, 0x2680, 0x2693, 0x2694, 0x26A1, 0x26A2, 0x26AA, 0x26AC,
    0x26BD, 0x26BF, 0x26C4, 0x26C6, 0x26CE, 0x26CF, 0x26D4, 0x26D5, 0x26EA, 0x26EB, 0x26F2,
    0x26F4, 0x26F5, 0x26F6, 0x26FA, 0x26FB, 0x26FD, 0x26FE, 0x2705, 0x2706, 0x270A, 0x270C,
    0x2728, 0x2729, 0x274C, 0x274D, 0x274E, 0x274F, 0x2753, 0x2756, 0x2757, 0x2758, 0x2795,
    0x2798, 0x27B0, 0x27B1, 0x27BF, 0x27C0, 0x2B1B, 0x2B1D, 0x2B50, 0x2B51, 0x2B55, 0x2B56,
    0x1F004, 0x1F005, 0x1F0CF, 0x1F0D0, 0x1F18E, 0x1F18F, 0x1F191, 0x1F19B, 0x1F1E6, 0x1F200,
    0x1F201, 0x1F202, 0x1F21A, 0x1F21B, 0x1F22F, 0x1F230, 0x1F232, 0x1F237, 0x1F238, 0x1F23B,
    0x1F250, 0x1F252, 0x1F300, 0x1F321, 0x1F32D, 0x1F336, 0x1F337, 0x1F37D, 0x1F37E, 0x1F394,
    0x1F3A0, 0x1F3CB, 0x1F3CF, 0x1F3D4, 0x1F3E0, 0x1F3F1, 0x1F3F4, 0x1F3F5, 0x1F3F8, 0x1F43F,
    0x1F440, 0x1F441, 0x1F442, 0x1F4FD, 0x1F4FF, 0x1F53E, 0x1F54B, 0x1F54F, 0x1F550, 0x1F568,
    0x1F57A, 0x1F57B, 0x1F595, 0x1F597, 0x1F5A4, 0x1F5A5, 0x1F5FB, 0x1F650, 0x1F680, 0x1F6C6,
    0x1F6CC, 0x1F6CD, 0x1F6D0, 0x1F6D3, 0x1F6D5, 0x1F6D9, 0x1F6DC, 0x1F6E0, 0x1F6EB, 0x1F6ED,
    0x1F6F4, 0x1F6FD, 0x1F7E0, 0x1F7EC, 0x1F7F0, 0x1F7F1, 0x1F90C, 0x1F93B, 0x1F93C, 0x1F946,
    0x1F947, 0x1FA00, 0x1FA70, 0x1FA7D, 0x1FA80, 0x1FA8B, 0x1FA8E, 0x1FAC7, 0x1FAC8, 0x1FAC9,
    0x1FACD, 0x1FADD, 0x1FADF, 0x1FAEB, 0x1FAEF, 0x1FAF9]⟩

/-- Property Extended_Pictographic. -/
def extendedPictographic : CodePointSet := ⟨[
    0xA9, 0xAA, 0xAE, 0xAF, 0x203C, 0x203D, 0x2049, 0x204A, 0x2122, 0x2123, 0x2139, 0x213A,
    0x2194, 0x219A, 0x21A9, 0x21AB, 0x231A, 0x231C, 0x2328, 0x2329, 0x23CF, 0x23D0, 0x23E9,
    0x23F4, 0x23F8, 0x23FB, 0x24C2, 0x24C3, 0x25AA, 0x25AC, 0x25B6, 0x25B7, 0x25C0, 0x25C1,
    0x25FB, 0x25FF, 0x2600, 0x2605, 0x260E, 0x260F, 0x2611, 0x2612, 0x2614, 0x2616, 0x2618,
    0x2619, 0x261D, 0x261E, 0x2620, 0x2621, 0x2622, 0x2624, 0x2626, 0x2627, 0x262A, 0x262B,
    0x262E, 0x2630, 0x2638, 0x263B, 0x2640, 0x2641, 0x2642, 0x2643, 0x2648, 0x2654, 0x265F,
    0x2661, 0x2663, 0x2664, 0x2665, 0x2667, 0x2668, 0x2669, 0x267B, 0x267C, 0x267E, 0x2680,
    0x2692, 0x2698, 0x2699, 0x269A, 0x269B, 0x269D, 0x26A0, 0x26A2, 0x26A7, 0x26A8, 0x26AA,
    0x26AC, 0x26B0, 0x26B2, 0x26BD, 0x26BF, 0x26C4, 0x26C6, 0x26C8, 0x26C9, 0x26CE, 0x26D0,
    0x26D1, 0x26D2, 0x26D3, 0x26D5, 0x26E9, 0x26EB, 0x26F0, 0x26F6, 0x26F7, 0x26FB, 0x26FD,
    0x26FE, 0x2702, 0x2703, 0x2705, 0x2706, 0x2708, 0x270E, 0x270F, 0x2710, 0x2712, 0x2713,
    0x2714, 0x2715, 0x2716, 0x2717, 0x271D, 0x271E, 0x2721, 0x2722, 0x2728, 0x2729, 0x2733,
    0x2735, 0x2744, 0x2745, 0x2747, 0x2748, 0x274C, 0x274D, 0x274E, 0x274F, 0x2753, 0x2756,
    0x2757, 0x2758, 0x2763, 0x2765, 0x2795, 0x2798, 0x27A1, 0x27A2, 0x27B0, 0x27B1, 0x27BF,
    0x27C0, 0x2934, 0x2936, 0x2B05, 0x2B08, 0x2B1B, 0x2B1D, 0x2B50, 0x2B51, 0x2B55, 0x2B56,
    0x3030, 0x3031, 0x303D, 0x303E, 0x3297, 0x3298, 0x3299, 0x329A, 0x1F004, 0x1F005, 0x1F02C,
    0x1F030, 0x1F094, 0x1F0A0, 0x1F0AF, 0x1F0B1, 0x1F0C0, 0x1F0C1, 0x1F0CF, 0x1F0D1, 0x1F0F6,
    0x1F100, 0x1F170, 0x1F172, 0x1F17E, 0x1F180, 0x1F18E, 0x1F18F, 0x1F191, 0x1F19B, 0x1F1AE,
    0x1F1E6, 0x1F201, 0x1F210, 0x1F21A, 0x1F21B, 0x1F22F, 0x1F230, 0x1F232, 0x1F23B, 0x1F23C,
    0x1F240, 0x1F249, 0x1F260, 0x1F266, 0x1F322, 0x1F324, 0x1F394, 0x1F396, 0x1F398, 0x1F399,
    0x1F39C, 0x1F39E, 0x1F3F1, 0x1F3F3, 0x1F3F6, 0x1F3F7, 0x1F3FB, 0x1F400, 0x1F4FE, 0x1F4FF,
    0x1F53E, 0x1F549, 0x1F54F, 0x1F550, 0x1F568, 0x1F56F, 0x1F571, 0x1F573, 0x1F57B, 0x1F587,
    0x1F588, 0x1F58A, 0x1F58E, 0x1F590, 0x1F591, 0x1F595, 0x1F597, 0x1F5A4, 0x1F5A6, 0x1F5A8,
    0x1F5A9, 0x1F5B1, 0x1F5B3, 0x1F5BC, 0x1F5BD, 0x1F5C2, 0x1F5C5, 0x1F5D1, 0x1F5D4, 0x1F5DC,
    0x1F5DF, 0x1F5E1, 0x1F5E2, 0x1F5E3, 0x1F5E4, 0x1F5E8, 0x1F5E9, 0x1F5EF, 0x1F5F0, 0x1F5F3,
    0x1F5F4, 0x1F5FA, 0x1F650, 0x1F680, 0x1F6C6, 0x1F6CB, 0x1F6D3, 0x1F6D5, 0x1F6E6, 0x1F6E9,
    0x1F6EA, 0x1F6EB, 0x1F6F1, 0x1F6F3, 0x1F700, 0x1F7DA, 0x1F800, 0x1F80C, 0x1F810, 0x1F848,
    0x1F850, 0x1F85A, 0x1F860, 0x1F888, 0x1F890, 0x1F8AE, 0x1F8B0, 0x1F8BC, 0x1F8C0, 0x1F8C2,
    0x1F8D0, 0x1F8D9, 0x1F900, 0x1F90C, 0x1F93B, 0x1F93C, 0x1F946, 0x1F947, 0x1FA00, 0x1FA58,
    0x1FA60, 0x1FA6E, 0x1FB00, 0x1FC00, 0x1FFFE]⟩

/-- Property Extender. -/
def extender : CodePointSet := ⟨[
    0xB7, 0xB8, 0x2D0, 0x2D2, 0x640, 0x641, 0x7FA, 0x7FB, 0xA71, 0xA72, 0xAFB, 0xAFC, 0xB55,
    0xB56, 0xE46, 0xE47, 0xEC6, 0xEC7, 0x180A, 0x180B, 0x1843, 0x1844, 0x1AA7, 0x1AA8, 0x1C36,
    0x1C37, 0x1C7B, 0x1C7C, 0x3005, 0x3006, 0x3031, 0x3036, 0x309D, 0x309F, 0x30FC, 0x30FF,
    0xA015, 0xA016, 0xA60C, 0xA60D, 0xA9CF, 0xA9D0, 0xA9E6, 0xA9E7, 0xAA70, 0xAA71, 0xAADD,
    0xAADE, 0xAAF3, 0xAAF5, 0xFF70, 0xFF71, 0x10781, 0x10783, 0x10D4E, 0x10D4F, 0x10D6A, 0x10D6B,
    0x10D6F, 0x10D70, 0x11237, 0x11238, 0x1135D, 0x1135E, 0x113D2, 0x113D4, 0x115C6, 0x115C9,
    0x11A98, 0x11A99, 0x11DD9, 0x11DDA, 0x16B42, 0x16B44, 0x16FE0, 0x16FE2, 0x16FE3, 0x16FE4,
    0x16FF2, 0x16FF4, 0x1E13C, 0x1E13E, 0x1E5EF, 0x1E5F0, 0x1E944, 0x1E947]⟩

/-- Property Hex_Digit. -/
def hexDigit : CodePointSet := ⟨[
    0x30, 0x3A, 0x41, 0x47, 0x61, 0x67, 0xFF10, 0xFF1A, 0xFF21, 0xFF27, 0xFF41, 0xFF47]⟩

/-- Property Ideographic. -/
def ideographic : CodePointSet := ⟨[
    0x3006, 0x3008, 0x3021, 0x302A, 0x3038, 0x303B, 0x3400, 0x4DC0, 0x4E00, 0xA000, 0xF900,
    0xFA6E, 0xFA70, 0xFADA, 0x16FE4, 0x16FE5, 0x16FF2, 0x16FF7, 0x17000, 0x18CD6, 0x18CFF,
    0x18D1F, 0x18D80, 0x18DF3, 0x1B170, 0x1B2FC, 0x20000, 0x2A6E0, 0x2A700, 0x2B81E, 0x2B820,
    0x2CEAE, 0x2CEB0, 0x2EBE1, 0x2EBF0, 0x2EE5E, 0x2F800, 0x2FA1E, 0x30000, 0x3134B, 0x31350,
    0x3347A]⟩

/-- Property Join_Control. -/
def joinControl : CodePointSet := ⟨[
    0x200C, 0x200E]⟩

/-- Property Logical_Order_Exception. -/
def logicalOrderException : CodePointSet := ⟨[
    0xE40, 0xE45, 0xEC0, 0xEC5, 0x19B5, 0x19B8, 0x19BA, 0x19BB, 0xAAB5, 0xAAB7, 0xAAB9, 0xAABA,
    0xAABB, 0xAABD]⟩

/-- Property Math. -/
def math : CodePointSet := ⟨[
    0x2B, 0x2C, 0x3C, 0x3F, 0x5E, 0x5F, 0x7C, 0x7D, 0x7E, 0x7F, 0xAC, 0xAD, 0xB1, 0xB2, 0xD7,
    0xD8, 0xF7, 0xF8, 0x3D0, 0x3D3, 0x3D5, 0x3D6, 0x3F0, 0x3F2, 0x3F4, 0x3F7, 0x606, 0x609,
    0x2016, 0x2017, 0x2032, 0x2035, 0x2040, 0x2041, 0x2044, 0x2045, 0x2052, 0x2053, 0x2061,
    0x2065, 0x207A, 0x207F, 0x208A, 0x208F, 0x20D0, 0x20DD, 0x20E1, 0x20E2, 0x20E5, 0x20E7,
    0x20EB, 0x20F0, 0x2102, 0x2103, 0x2107, 0x2108, 0x210A, 0x2114, 0x2115, 0x2116, 0x2118,
    0x211E, 0x2124, 0x2125, 0x2128, 0x212A, 0x212C, 0x212E, 0x212F, 0x2132, 0x2133, 0x2139,
    0x213C, 0x214A, 0x214B, 0x214C, 0x2190, 0x21A8, 0x21A9, 0x21AF, 0x21B0, 0x21B2, 0x21B6,
    0x21B8, 0x21BC, 0x21DC, 0x21DD, 0x21DE, 0x21E4, 0x21E6, 0x21F4, 0x2300, 0x2308, 0x230C,
    0x2320, 0x2322, 0x237C, 0x237D, 0x239B, 0x23B6, 0x23B7, 0x23B8, 0x23D0, 0x23D1, 0x23DC,
    0x23E3, 0x25A0, 0x25A2, 0x25AE, 0x25B8, 0x25BC, 0x25C2, 0x25C6, 0x25C8, 0x25CA, 0x25CC,
    0x25CF, 0x25D4, 0x25E2, 0x25E3, 0x25E4, 0x25E5, 0x25E7, 0x25ED, 0x25F8, 0x2600, 0x2605,
    0x2607, 0x2640, 0x2641, 0x2642, 0x2643, 0x2660, 0x2664, 0x266D, 0x2670, 0x27C0, 0x2800,
    0x2900, 0x2B00, 0x2B30, 0x2B45, 0x2B47, 0x2B4D, 0xFB29, 0xFB2A, 0xFE61, 0xFE67, 0xFE68,
    0xFE69, 0xFF0B, 0xFF0C, 0xFF1C, 0xFF1F, 0xFF3C, 0xFF3D, 0xFF3E, 0xFF3F, 0xFF5C, 0xFF5D,
    0xFF5E, 0xFF5F, 0xFFE2, 0xFFE3, 0xFFE9, 0xFFED, 0x10D8E, 0x10D90, 0x1CEF0, 0x1CEF1, 0x1D400,
    0x1D455, 0x1D456, 0x1D49D, 0x1D49E, 0x1D4A0, 0x1D4A2, 0x1D4A3, 0x1D4A5, 0x1D4A7, 0x1D4A9,
    0x1D4AD, 0x1D4AE, 0x1D4BA, 0x1D4BB, 0x1D4BC, 0x1D4BD, 0x1D4C4, 0x1D4C5, 0x1D506, 0x1D507,
    0x1D50B, 0x1D50D, 0x1D515, 0x1D516, 0x1D51D, 0x1D51E, 0x1D53A, 0x1D53B, 0x1D53F, 0x1D540,
    0x1D545, 0x1D546, 0x1D547, 0x1D54A, 0x1D551, 0x1D552, 0x1D6A6, 0x1D6A8, 0x1D7CC, 0x1D7CE,
    0x1D800, 0x1EE00, 0x1EE04, 0x1EE05, 0x1EE20, 0x1EE21, 0x1EE23, 0x1EE24, 0x1EE25, 0x1EE27,
    0x1EE28, 0x1EE29, 0x1EE33, 0x1EE34, 0x1EE38, 0x1EE39, 0x1EE3A, 0x1EE3B, 0x1EE3C, 0x1EE42,
    0x1EE43, 0x1EE47, 0x1EE48, 0x1EE49, 0x1EE4A, 0x1EE4B, 0x1EE4C, 0x1EE4D, 0x1EE50, 0x1EE51,
    0x1EE53, 0x1EE54, 0x1EE55, 0x1EE57, 0x1EE58, 0x1EE59, 0x1EE5A, 0x1EE5B, 0x1EE5C, 0x1EE5D,
    0x1EE5E, 0x1EE5F, 0x1EE60, 0x1EE61, 0x1EE63, 0x1EE64, 0x1EE65, 0x1EE67, 0x1EE6B, 0x1EE6C,
    0x1EE73, 0x1EE74, 0x1EE78, 0x1EE79, 0x1EE7D, 0x1EE7E, 0x1EE7F, 0x1EE80, 0x1EE8A, 0x1EE8B,
    0x1EE9C, 0x1EEA1, 0x1EEA4, 0x1EEA5, 0x1EEAA, 0x1EEAB, 0x1EEBC, 0x1EEF0, 0x1EEF2, 0x1F8D0,
    0x1F8D9]⟩

/-- Property Noncharacter_Code_Point. -/
def noncharacterCodePoint : CodePointSet := ⟨[
    0xFDD0, 0xFDF0, 0xFFFE, 0x10000, 0x1FFFE, 0x20000, 0x2FFFE, 0x30000, 0x3FFFE, 0x40000,
    0x4FFFE, 0x50000, 0x5FFFE, 0x60000, 0x6FFFE, 0x70000, 0x7FFFE, 0x80000, 0x8FFFE, 0x90000,
    0x9FFFE, 0xA0000, 0xAFFFE, 0xB0000, 0xBFFFE, 0xC0000, 0xCFFFE, 0xD0000, 0xDFFFE, 0xE0000,
    0xEFFFE, 0xF0000, 0xFFFFE, 0x100000, 0x10FFFE, 0x110000]⟩

/-- Property Pattern_Syntax. -/
def patternSyntax : CodePointSet := ⟨[
    0x21, 0x30, 0x3A, 0x41, 0x5B, 0x5F, 0x60, 0x61, 0x7B, 0x7F, 0xA1, 0xA8, 0xA9, 0xAA, 0xAB,
    0xAD, 0xAE, 0xAF, 0xB0, 0xB2, 0xB6, 0xB7, 0xBB, 0xBC, 0xBF, 0xC0, 0xD7, 0xD8, 0xF7, 0xF8,
    0x2010, 0x2028, 0x2030, 0x203F, 0x2041, 0x2054, 0x2055, 0x205F, 0x2190, 0x2460, 0x2500,
    0x2776, 0x2794, 0x2C00, 0x2E00, 0x2E80, 0x3001, 0x3004, 0x3008, 0x3021, 0x3030, 0x3031,
    0xFD3E, 0xFD40, 0xFE45, 0xFE47]⟩

/-- Property Pattern_White_Space. -/
def patternWhiteSpace : CodePointSet := ⟨[
    0x9, 0xE, 0x20, 0x21, 0x85, 0x86, 0x200E, 0x2010, 0x2028, 0x202A]⟩

/-- Property Quotation_Mark. -/
def quotationMark : CodePointSet := ⟨[
    0x22, 0x23, 0x27, 0x28, 0xAB, 0xAC, 0xBB, 0xBC, 0x2018, 0x2020, 0x2039, 0x203B, 0x2E42,
    0x2E43, 0x300C, 0x3010, 0x301D, 0x3020, 0xFE41, 0xFE45, 0xFF02, 0xFF03, 0xFF07, 0xFF08,
    0xFF62, 0xFF64]⟩

/-- Property Radical. -/
def radical : CodePointSet := ⟨[
    0x2E80, 0x2E9A, 0x2E9B, 0x2EF4, 0x2F00, 0x2FD6]⟩

/-- Property Regional_Indicator. -/
def regionalIndicator : CodePointSet := ⟨[
    0x1F1E6, 0x1F200]⟩

/-- Property Sentence_Terminal. -/
def sentenceTerminal : CodePointSet := ⟨[
    0x21, 0x22, 0x2E, 0x2F, 0x3F, 0x40, 0x589, 0x58A, 0x61D, 0x620, 0x6D4, 0x6D5, 0x700, 0x703,
    0x7F9, 0x7FA, 0x837, 0x838, 0x839, 0x83A, 0x83D, 0x83F, 0x964, 0x966, 0x104A, 0x104C, 0x1362,
    0x1363, 0x1367, 0x1369, 0x166E, 0x166F, 0x1735, 0x1737, 0x17D4, 0x17D6, 0x1803, 0x1804,
    0x1809, 0x180A, 0x1944, 0x1946, 0x1AA8, 0x1AAC, 0x1B4E, 0x1B50, 0x1B5A, 0x1B5C, 0x1B5E,
    0x1B60, 0x1B7D, 0x1B80, 0x1C3B, 0x1C3D, 0x1C7E, 0x1C80, 0x2024, 0x2025, 0x203C, 0x203E,
    0x2047, 0x204A, 0x2CF9, 0x2CFC, 0x2E2E, 0x2E2F, 0x2E3C, 0x2E3D, 0x2E53, 0x2E55, 0x3002,
    0x3003, 0xA4FF, 0xA500, 0xA60E, 0xA610, 0xA6F3, 0xA6F4, 0xA6F7, 0xA6F8, 0xA876, 0xA878,
    0xA8CE, 0xA8D0, 0xA92F, 0xA930, 0xA9C8, 0xA9CA, 0xAA5D, 0xAA60, 0xAAF0, 0xAAF2, 0xABEB,
    0xABEC, 0xFE12, 0xFE13, 0xFE15, 0xFE17, 0xFE52, 0xFE53, 0xFE56, 0xFE58, 0xFF01, 0xFF02,
    0xFF0E, 0xFF0F, 0xFF1F, 0xFF20, 0xFF61, 0xFF62, 0x10A56, 0x10A58, 0x10F55, 0x10F5A, 0x10F86,
    0x10F8A, 0x11047, 0x11049, 0x110BE, 0x110C2, 0x11141, 0x11144, 0x111C5, 0x111C7, 0x111CD,
    0x111CE, 0x111DE, 0x111E0, 0x11238, 0x1123A, 0x1123B, 0x1123D, 0x112A9, 0x112AA, 0x113D4,
    0x113D6, 0x1144B, 0x1144D, 0x115C2, 0x115C4, 0x115C9, 0x115D8, 0x11641, 0x11643, 0x1173C,
    0x1173F, 0x11944, 0x11945, 0x11946, 0x11947, 0x11A42, 0x11A44, 0x11A9B, 0x11A9D, 0x11C41,
    0x11C43, 0x11EF7, 0x11EF9, 0x11F43, 0x11F45, 0x16A6E, 0x16A70, 0x16AF5, 0x16AF6, 0x16B37,
    0x16B39, 0x16B44, 0x16B45, 0x16D6E, 0x16D70, 0x16E98, 0x16E99, 0x1BC9F, 0x1BCA0, 0x1DA88,
    0x1DA89]⟩

/-- Property Soft_Dotted. -/
def softDotted : CodePointSet := ⟨[
    0x69, 0x6B, 0x12F, 0x130, 0x249, 0x24A, 0x268, 0x269, 0x29D, 0x29E, 0x2B2, 0x2B3, 0x3F3,
    0x3F4, 0x456, 0x457, 0x458, 0x459, 0x1D62, 0x1D63, 0x1D96, 0x1D97, 0x1DA4, 0x1DA5, 0x1DA8,
    0x1DA9, 0x1E2D, 0x1E2E, 0x1ECB, 0x1ECC, 0x2071, 0x2072, 0x2148, 0x214A, 0x2C7C, 0x2C7D,
    0x1D422, 0x1D424, 0x1D456, 0x1D458, 0x1D48A, 0x1D48C, 0x1D4BE, 0x1D4C0, 0x1D4F2, 0x1D4F4,
    0x1D526, 0x1D528, 0x1D55A, 0x1D55C, 0x1D58E, 0x1D590, 0x1D5C2, 0x1D5C4, 0x1D5F6, 0x1D5F8,
    0x1D62A, 0x1D62C, 0x1D65E, 0x1D660, 0x1D692, 0x1D694, 0x1DF1A, 0x1DF1B, 0x1E04C, 0x1E04E,
    0x1E068, 0x1E069]⟩

/-- Property Terminal_Punctuation. -/
def terminalPunctuation : CodePointSet := ⟨[
    0x21, 0x22, 0x2C, 0x2D, 0x2E, 0x2F, 0x3A, 0x3C, 0x3F, 0x40, 0x37E, 0x37F, 0x387, 0x388,
    0x589, 0x58A, 0x5C3, 0x5C4, 0x60C, 0x60D, 0x61B, 0x61C, 0x61D, 0x620, 0x6D4, 0x6D5, 0x700,
    0x70B, 0x70C, 0x70D, 0x7F8, 0x7FA, 0x830, 0x836, 0x837, 0x83F, 0x85E, 0x85F, 0x964, 0x966,
    0xE5A, 0xE5C, 0xF08, 0xF09, 0xF0D, 0xF13, 0x104A, 0x104C, 0x1361, 0x1369, 0x166E, 0x166F,
    0x16EB, 0x16EE, 0x1735, 0x1737, 0x17D4, 0x17D7, 0x17DA, 0x17DB, 0x1802, 0x1806, 0x1808,
    0x180A, 0x1944, 0x1946, 0x1AA8, 0x1AAC, 0x1B4E, 0x1B50, 0x1B5A, 0x1B5C, 0x1B5D, 0x1B60,
    0x1B7D, 0x1B80, 0x1C3B, 0x1C40, 0x1C7E, 0x1C80, 0x2024, 0x2025, 0x203C, 0x203E, 0x2047,
    0x204A, 0x2CF9, 0x2CFC, 0x2E2E, 0x2E2F, 0x2E3C, 0x2E3D, 0x2E41, 0x2E42, 0x2E4C, 0x2E4D,
    0x2E4E, 0x2E50, 0x2E53, 0x2E55, 0x3001, 0x3003, 0xA4FE, 0xA500, 0xA60D, 0xA610, 0xA6F3,
    0xA6F8, 0xA876, 0xA878, 0xA8CE, 0xA8D0, 0xA92F, 0xA930, 0xA9C7, 0xA9CA, 0xAA5D, 0xAA60,
    0xAADF, 0xAAE0, 0xAAF0, 0xAAF2, 0xABEB, 0xABEC, 0xFE12, 0xFE13, 0xFE15, 0xFE17, 0xFE50,
    0xFE53, 0xFE54, 0xFE58, 0xFF01, 0xFF02, 0xFF0C, 0xFF0D, 0xFF0E, 0xFF0F, 0xFF1A, 0xFF1C,
    0xFF1F, 0xFF20, 0xFF61, 0xFF62, 0xFF64, 0xFF65, 0x1039F, 0x103A0, 0x103D0, 0x103D1, 0x10857,
    0x10858, 0x1091F, 0x10920, 0x10A56, 0x10A58, 0x10AF0, 0x10AF6, 0x10B3A, 0x10B40, 0x10B99,
    0x10B9D, 0x10F55, 0x10F5A, 0x10F86, 0x10F8A, 0x11047, 0x1104E, 0x110BE, 0x110C2, 0x11141,
    0x11144, 0x111C5, 0x111C7, 0x111CD, 0x111CE, 0x111DE, 0x111E0, 0x11238, 0x1123D, 0x112A9,
    0x112AA, 0x113D4, 0x113D6, 0x1144B, 0x1144E, 0x1145A, 0x1145C, 0x115C2, 0x115C6, 0x115C9,
    0x115D8, 0x11641, 0x11643, 0x1173C, 0x1173F, 0x11944, 0x11945, 0x11946, 0x11947, 0x11A42,
    0x11A44, 0x11A9B, 0x11A9D, 0x11AA1, 0x11AA3, 0x11C41, 0x11C44, 0x11C71, 0x11C72, 0x11EF7,
    0x11EF9, 0x11F43, 0x11F45, 0x12470, 0x12475, 0x16A6E, 0x16A70, 0x16AF5, 0x16AF6, 0x16B37,
    0x16B3A, 0x16B44, 0x16B45, 0x16D6E, 0x16D70, 0x16E97, 0x16E99, 0x1BC9F, 0x1BCA0, 0x1DA87,
    0x1DA8B]⟩

/-- Property Unified_Ideograph. -/
def unifiedIdeograph : CodePointSet := ⟨[
    0x3400, 0x4DC0, 0x4E00, 0xA000, 0xFA0E, 0xFA10, 0xFA11, 0xFA12, 0xFA13, 0xFA15, 0xFA1F,
    0xFA20, 0xFA21, 0xFA22, 0xFA23, 0xFA25, 0xFA27, 0xFA2A, 0x20000, 0x2A6E0, 0x2A700, 0x2B81E,
    0x2B820, 0x2CEAE, 0x2CEB0, 0x2EBE1, 0x2EBF0, 0x2EE5E, 0x30000, 0x3134B, 0x31350, 0x3347A]⟩

/-- Property Variation_Selector. -/
def variationSelector : CodePointSet := ⟨[
    0x180B, 0x180E, 0x180F, 0x1810, 0xFE00, 0xFE10, 0xE0100, 0xE01F0]⟩

/-- Property White_Space. -/
def whiteSpace : CodePointSet := ⟨[
    0x9, 0xE, 0x20, 0x21, 0x85, 0x86, 0xA0, 0xA1, 0x1680, 0x1681, 0x2000, 0x200B, 0x2028, 0x202A,
    0x202F, 0x2030, 0x205F, 0x2060, 0x3000, 0x3001]⟩

/-- Property Lowercase: category Ll and the listed exceptions. -/
def lowercase : CodePointSet :=
  .unions [lowercaseLetter, ⟨[
    0xAA, 0xAB, 0xBA, 0xBB, 0x2B0, 0x2B9, 0x2C0, 0x2C2, 0x2E0, 0x2E5, 0x345, 0x346, 0x37A, 0x37B,
    0x10FC, 0x10FD, 0x1D2C, 0x1D6B, 0x1D78, 0x1D79, 0x1D9B, 0x1DC0, 0x2071, 0x2072, 0x207F,
    0x2080, 0x2090, 0x209D, 0x2170, 0x2180, 0x24D0, 0x24EA, 0x2C7C, 0x2C7E, 0xA69C, 0xA69E,
    0xA770, 0xA771, 0xA7F1, 0xA7F5, 0xA7F8, 0xA7FA, 0xAB5C, 0xAB60, 0xAB69, 0xAB6A, 0x10780,
    0x10781, 0x10783, 0x10786, 0x10787, 0x107B1, 0x107B2, 0x107BB, 0x1E030, 0x1E06E]⟩]

/-- Property Uppercase: category Lu and the listed exceptions. -/
def uppercase : CodePointSet :=
  .unions [uppercaseLetter, ⟨[
    0x2160, 0x2170, 0x24B6, 0x24D0, 0x1F130, 0x1F14A, 0x1F150, 0x1F16A, 0x1F170, 0x1F18A]⟩]

/-- Property Cased. -/
def cased : CodePointSet :=
  .unions [lowercase, uppercase, titlecaseLetter]

/-- Property Case_Ignorable. -/
def caseIgnorable : CodePointSet :=
  .unions [nonspacingMark, enclosingMark, format, modifierLetter, modifierSymbol, ⟨[
    0x27, 0x28, 0x2E, 0x2F, 0x3A, 0x3B, 0xB7, 0xB8, 0x387, 0x388, 0x55F, 0x560, 0x5F4, 0x5F5,
    0x2018, 0x201A, 0x2024, 0x2025, 0x2027, 0x2028, 0xFE13, 0xFE14, 0xFE52, 0xFE53, 0xFE55,
    0xFE56, 0xFF07, 0xFF08, 0xFF0E, 0xFF0F, 0xFF1A, 0xFF1B]⟩]

/-- Property Grapheme_Extend. -/
def graphemeExtend : CodePointSet :=
  .unions [nonspacingMark, enclosingMark, ⟨[
    0x9BE, 0x9BF, 0x9D7, 0x9D8, 0xB3E, 0xB3F, 0xB57, 0xB58, 0xBBE, 0xBBF, 0xBD7, 0xBD8, 0xCC0,
    0xCC1, 0xCC2, 0xCC3, 0xCC7, 0xCC9, 0xCCA, 0xCCC, 0xCD5, 0xCD7, 0xD3E, 0xD3F, 0xD57, 0xD58,
    0xDCF, 0xDD0, 0xDDF, 0xDE0, 0x1715, 0x1716, 0x1734, 0x1735, 0x1B35, 0x1B36, 0x1B3B, 0x1B3C,
    0x1B3D, 0x1B3E, 0x1B43, 0x1B45, 0x1BAA, 0x1BAB, 0x1BF2, 0x1BF4, 0x200C, 0x200D, 0x302E,
    0x3030, 0xA953, 0xA954, 0xA9C0, 0xA9C1, 0xFF9E, 0xFFA0, 0x111C0, 0x111C1, 0x11235, 0x11236,
    0x1133E, 0x1133F, 0x1134D, 0x1134E, 0x11357, 0x11358, 0x113B8, 0x113B9, 0x113C2, 0x113C3,
    0x113C5, 0x113C6, 0x113C7, 0x113CA, 0x113CF, 0x113D0, 0x114B0, 0x114B1, 0x114BD, 0x114BE,
    0x115AF, 0x115B0, 0x116B6, 0x116B7, 0x11930, 0x11931, 0x1193D, 0x1193E, 0x11F41, 0x11F42,
    0x16FF0, 0x16FF2, 0x1D165, 0x1D167, 0x1D16D, 0x1D173, 0xE0020, 0xE0080]⟩]

/-- Property ID_Start. -/
def idStart : CodePointSet :=
  (CodePointSet.unions [letter, letterNumber, ⟨[
    0x1885, 0x1887, 0x2118, 0x2119, 0x212E, 0x212F, 0x309B, 0x309D]⟩]).diff ⟨[
    0x2E2F, 0x2E30]⟩

/-- Property ID_Continue. -/
def idContinue : CodePointSet :=
  (CodePointSet.unions [letter, letterNumber, nonspacingMark, spacingMark, decimalNumber,
    connectorPunctuation, ⟨[
    0xB7, 0xB8, 0x387, 0x388, 0x1369, 0x1372, 0x19DA, 0x19DB, 0x200C, 0x200E, 0x2118, 0x2119,
    0x212E, 0x212F, 0x309B, 0x309D, 0x30FB, 0x30FC, 0xFF65, 0xFF66]⟩]).diff ⟨[
    0x2E2F, 0x2E30]⟩

/-- Property XID_Start. -/
def xidStart : CodePointSet :=
  (CodePointSet.unions [idStart]).diff ⟨[
    0x37A, 0x37B, 0xE33, 0xE34, 0xEB3, 0xEB4, 0x309B, 0x309D, 0xFC5E, 0xFC64, 0xFDFA, 0xFDFC,
    0xFE70, 0xFE71, 0xFE72, 0xFE73, 0xFE74, 0xFE75, 0xFE76, 0xFE77, 0xFE78, 0xFE79, 0xFE7A,
    0xFE7B, 0xFE7C, 0xFE7D, 0xFE7E, 0xFE7F, 0xFF9E, 0xFFA0]⟩

/-- Property XID_Continue. -/
def xidContinue : CodePointSet :=
  (CodePointSet.unions [idContinue]).diff ⟨[
    0x37A, 0x37B, 0x309B, 0x309D, 0xFC5E, 0xFC64, 0xFDFA, 0xFDFC, 0xFE70, 0xFE71, 0xFE72, 0xFE73,
    0xFE74, 0xFE75, 0xFE76, 0xFE77, 0xFE78, 0xFE79, 0xFE7A, 0xFE7B, 0xFE7C, 0xFE7D, 0xFE7E,
    0xFE7F]⟩

/-- The characters of words: alphabetic characters, marks, decimal digits, connectors
and joiners. -/
def word : CodePointSet :=
  .unions [alphabetic, mark, decimalNumber, connectorPunctuation, joinControl]

/-- Property Grapheme_Base. -/
def graphemeBase : CodePointSet :=
  CodePointSet.compl (.unions [other, lineSeparator, paragraphSeparator, graphemeExtend])

end BnfParsing.Unicode.Property
