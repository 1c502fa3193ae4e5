import ChannelMux.Text.CodeRange

/-!
Unicode data on characters outside ASCII in domain names: which are left out, which are refused, and
which are replaced by others, capitals by small letters and compatibility forms by plain ones.
-/
namespace ChannelMux.Domain

open Text (CodeRange ShiftRun)

/-- Characters that are left out. -/
def ignored : List CodeRange :=
  [⟨0xAD, 0xAD⟩, ⟨0x34F, 0x34F⟩, ⟨0x115F, 0x1160⟩, ⟨0x17B4, 0x17B5⟩, ⟨0x180B, 0x180F⟩,
    ⟨0x200B, 0x200B⟩, ⟨0x2060, 0x2064⟩, ⟨0x206A, 0x206F⟩, ⟨0x3164, 0x3164⟩, ⟨0xFE00, 0xFE0F⟩,
    ⟨0xFEFF, 0xFEFF⟩, ⟨0xFFA0, 0xFFA0⟩, ⟨0x1BCA0, 0x1BCA3⟩, ⟨0x1D173, 0x1D17A⟩, ⟨0xE0100, 0xE01EF⟩]

/-- Characters that may not occur, besides the code points without a character. -/
def refused : List CodeRange :=
  [⟨0x80, 0x9F⟩, ⟨0x600, 0x605⟩, ⟨0x61C, 0x61C⟩, ⟨0x6DD, 0x6DD⟩, ⟨0x70F, 0x70F⟩, ⟨0x890, 0x891⟩,
    ⟨0x8E2, 0x8E2⟩, ⟨0x1680, 0x1680⟩, ⟨0x200E, 0x200F⟩, ⟨0x2024, 0x2026⟩, ⟨0x2028, 0x202E⟩,
    ⟨0x2066, 0x2069⟩, ⟨0x2488, 0x249B⟩, ⟨0x2FF0, 0x2FFF⟩, ⟨0x31EF, 0x31EF⟩, ⟨0x33C2, 0x33C2⟩,
    ⟨0x33C7, 0x33C7⟩, ⟨0x33D8, 0x33D8⟩, ⟨0xD800, 0xF8FF⟩, ⟨0xFE12, 0xFE12⟩, ⟨0xFE19, 0xFE19⟩,
    ⟨0xFE30, 0xFE30⟩, ⟨0xFE52, 0xFE52⟩, ⟨0xFFF9, 0xFFFD⟩, ⟨0x110BD, 0x110BD⟩, ⟨0x110CD, 0x110CD⟩,
    ⟨0x13430, 0x1343F⟩, ⟨0x1F100, 0x1F100⟩, ⟨0xE0001, 0xE0001⟩, ⟨0xE0020, 0xE007F⟩,
    ⟨0xF0000, 0xFFFFD⟩, ⟨0x100000, 0x10FFFD⟩]

/-- Characters that are replaced by one a fixed number of places away. -/
def shifts : List ShiftRun :=
  [⟨0xB2, 0xB3, 1, -128⟩, ⟨0xC0, 0xD6, 1, 32⟩, ⟨0xD8, 0xDE, 1, 32⟩, ⟨0x100, 0x12E, 2, 1⟩,
    ⟨0x134, 0x136, 2, 1⟩, ⟨0x139, 0x13D, 2, 1⟩, ⟨0x141, 0x147, 2, 1⟩, ⟨0x14A, 0x176, 2, 1⟩,
    ⟨0x179, 0x17D, 2, 1⟩, ⟨0x182, 0x184, 2, 1⟩, ⟨0x189, 0x18A, 1, 205⟩, ⟨0x1A0, 0x1A4, 2, 1⟩,
    ⟨0x1B1, 0x1B2, 1, 217⟩, ⟨0x1B3, 0x1B5, 2, 1⟩, ⟨0x1CD, 0x1DB, 2, 1⟩, ⟨0x1DE, 0x1EE, 2, 1⟩,
    ⟨0x1F8, 0x21E, 2, 1⟩, ⟨0x222, 0x232, 2, 1⟩, ⟨0x246, 0x24E, 2, 1⟩, ⟨0x340, 0x341, 1, -64⟩,
    ⟨0x370, 0x372, 2, 1⟩, ⟨0x388, 0x38A, 1, 37⟩, ⟨0x38E, 0x38F, 1, 63⟩, ⟨0x391, 0x3A1, 1, 32⟩,
    ⟨0x3A3, 0x3AB, 1, 32⟩, ⟨0x3D8, 0x3EE, 2, 1⟩, ⟨0x3FD, 0x3FF, 1, -130⟩, ⟨0x400, 0x40F, 1, 80⟩,
    ⟨0x410, 0x42F, 1, 32⟩, ⟨0x460, 0x480, 2, 1⟩, ⟨0x48A, 0x4BE, 2, 1⟩, ⟨0x4C1, 0x4CD, 2, 1⟩,
    ⟨0x4D0, 0x52E, 2, 1⟩, ⟨0x531, 0x556, 1, 48⟩, ⟨0x10A0, 0x10C5, 1, 7264⟩, ⟨0x13F8, 0x13FD, 1, -8⟩,
    ⟨0x1C83, 0x1C84, 1, -6210⟩, ⟨0x1C90, 0x1CBA, 1, -3008⟩, ⟨0x1CBD, 0x1CBF, 1, -3008⟩,
    ⟨0x1D2E, 0x1D30, 2, -7372⟩, ⟨0x1D33, 0x1D3A, 1, -7372⟩, ⟨0x1D40, 0x1D41, 1, -7372⟩,
    ⟨0x1D44, 0x1D45, 1, -6900⟩, ⟨0x1D48, 0x1D49, 1, -7396⟩, ⟨0x1D4B, 0x1D4C, 1, -6896⟩,
    ⟨0x1D54, 0x1D55, 1, -62⟩, ⟨0x1D57, 0x1D58, 1, -7395⟩, ⟨0x1D5D, 0x1D5F, 1, -6571⟩,
    ⟨0x1D60, 0x1D61, 1, -6554⟩, ⟨0x1D64, 0x1D65, 1, -7407⟩, ⟨0x1D66, 0x1D67, 1, -6580⟩,
    ⟨0x1D69, 0x1D6A, 1, -6563⟩, ⟨0x1DA4, 0x1DA6, 1, -6972⟩, ⟨0x1DAE, 0x1DB1, 1, -6972⟩,
    ⟨0x1DB3, 0x1DB4, 1, -6961⟩, ⟨0x1DB6, 0x1DB7, 1, -6957⟩, ⟨0x1DB9, 0x1DBA, 1, -6958⟩,
    ⟨0x1DBC, 0x1DBE, 1, -6956⟩, ⟨0x1E00, 0x1E94, 2, 1⟩, ⟨0x1EA0, 0x1EFE, 2, 1⟩,
    ⟨0x1F08, 0x1F0F, 1, -8⟩, ⟨0x1F18, 0x1F1D, 1, -8⟩, ⟨0x1F28, 0x1F2F, 1, -8⟩,
    ⟨0x1F38, 0x1F3F, 1, -8⟩, ⟨0x1F48, 0x1F4D, 1, -8⟩, ⟨0x1F59, 0x1F5F, 2, -8⟩,
    ⟨0x1F68, 0x1F6F, 1, -8⟩, ⟨0x1FB8, 0x1FB9, 1, -8⟩, ⟨0x1FD8, 0x1FD9, 1, -8⟩,
    ⟨0x1FE8, 0x1FE9, 1, -8⟩, ⟨0x2074, 0x2079, 1, -8256⟩, ⟨0x207D, 0x207E, 1, -8277⟩,
    ⟨0x2080, 0x2089, 1, -8272⟩, ⟨0x208D, 0x208E, 1, -8293⟩, ⟨0x2096, 0x2099, 1, -8235⟩,
    ⟨0x209B, 0x209C, 1, -8232⟩, ⟨0x210A, 0x210B, 1, -8355⟩, ⟨0x2113, 0x2115, 2, -8359⟩,
    ⟨0x2119, 0x211B, 1, -8361⟩, ⟨0x212C, 0x212D, 1, -8394⟩, ⟨0x2130, 0x2131, 1, -8395⟩,
    ⟨0x2135, 0x2138, 1, -7013⟩, ⟨0x2146, 0x2147, 1, -8418⟩, ⟨0x2148, 0x2149, 1, -8415⟩,
    ⟨0x216D, 0x216E, 1, -8458⟩, ⟨0x217D, 0x217E, 1, -8474⟩, ⟨0x2329, 0x232A, 1, 3295⟩,
    ⟨0x2460, 0x2468, 1, -9263⟩, ⟨0x24B6, 0x24CF, 1, -9301⟩, ⟨0x24D0, 0x24E9, 1, -9327⟩,
    ⟨0x2C00, 0x2C2F, 1, 48⟩, ⟨0x2C67, 0x2C6B, 2, 1⟩, ⟨0x2C7E, 0x2C7F, 1, -10815⟩,
    ⟨0x2C80, 0x2CE2, 2, 1⟩, ⟨0x2CEB, 0x2CED, 2, 1⟩, ⟨0x3039, 0x303A, 1, 8971⟩,
    ⟨0x3131, 0x3132, 1, -8241⟩, ⟨0x3135, 0x3136, 1, -8073⟩, ⟨0x3137, 0x3139, 1, -8244⟩,
    ⟨0x313A, 0x313F, 1, -8074⟩, ⟨0x3141, 0x3143, 1, -8251⟩, ⟨0x3145, 0x314E, 1, -8252⟩,
    ⟨0x314F, 0x3163, 1, -8174⟩, ⟨0x3165, 0x3166, 1, -8273⟩, ⟨0x3167, 0x3168, 1, -8096⟩,
    ⟨0x3171, 0x3172, 1, -8276⟩, ⟨0x3174, 0x3175, 1, -8274⟩, ⟨0x3178, 0x317C, 1, -8269⟩,
    ⟨0x3182, 0x3183, 1, -8081⟩, ⟨0x3184, 0x3186, 1, -8237⟩, ⟨0x3187, 0x3188, 1, -8195⟩,
    ⟨0x318A, 0x318B, 1, -8185⟩, ⟨0x3261, 0x3262, 1, -8543⟩, ⟨0x3263, 0x3265, 1, -8542⟩,
    ⟨0x3267, 0x3268, 1, -8540⟩, ⟨0x3269, 0x326D, 1, -8539⟩, ⟨0x32D4, 0x32D5, 1, -554⟩,
    ⟨0x32E4, 0x32E9, 1, -538⟩, ⟨0x32EE, 0x32F2, 1, -528⟩, ⟨0x32F5, 0x32FA, 1, -525⟩,
    ⟨0x32FB, 0x32FE, 1, -524⟩, ⟨0xA640, 0xA66C, 2, 1⟩, ⟨0xA680, 0xA69A, 2, 1⟩,
    ⟨0xA722, 0xA72E, 2, 1⟩, ⟨0xA732, 0xA76E, 2, 1⟩, ⟨0xA779, 0xA77B, 2, 1⟩, ⟨0xA77E, 0xA786, 2, 1⟩,
    ⟨0xA790, 0xA792, 2, 1⟩, ⟨0xA796, 0xA7A8, 2, 1⟩, ⟨0xA7B4, 0xA7C2, 2, 1⟩, ⟨0xA7C7, 0xA7C9, 2, 1⟩,
    ⟨0xA7CC, 0xA7DA, 2, 1⟩, ⟨0xAB70, 0xABBF, 1, -38864⟩, ⟨0xFA52, 0xFA53, 1, -32965⟩,
    ⟨0xFB22, 0xFB23, 1, -62799⟩, ⟨0xFB24, 0xFB26, 1, -62793⟩, ⟨0xFB7D, 0xFB7E, 1, -62711⟩,
    ⟨0xFB9F, 0xFBA0, 1, -62693⟩, ⟨0xFBA5, 0xFBA6, 1, -62693⟩, ⟨0xFBAF, 0xFBB0, 1, -62685⟩,
    ⟨0xFE13, 0xFE14, 1, -64985⟩, ⟨0xFE17, 0xFE18, 1, -52737⟩, ⟨0xFE35, 0xFE36, 1, -65037⟩,
    ⟨0xFE39, 0xFE3A, 1, -52773⟩, ⟨0xFE3B, 0xFE3C, 1, -52779⟩, ⟨0xFE3D, 0xFE3E, 1, -52787⟩,
    ⟨0xFE3F, 0xFE40, 1, -52791⟩, ⟨0xFE41, 0xFE44, 1, -52789⟩, ⟨0xFE59, 0xFE5A, 1, -65073⟩,
    ⟨0xFE5D, 0xFE5E, 1, -52809⟩, ⟨0xFE61, 0xFE62, 1, -65079⟩, ⟨0xFE69, 0xFE6A, 1, -65093⟩,
    ⟨0xFE80, 0xFE81, 1, -63583⟩, ⟨0xFE82, 0xFE83, 1, -63584⟩, ⟨0xFE84, 0xFE85, 1, -63585⟩,
    ⟨0xFE86, 0xFE87, 1, -63586⟩, ⟨0xFE88, 0xFE89, 1, -63587⟩, ⟨0xFE8C, 0xFE8D, 1, -63590⟩,
    ⟨0xFE8E, 0xFE8F, 1, -63591⟩, ⟨0xFE92, 0xFE93, 1, -63594⟩, ⟨0xFE94, 0xFE95, 1, -63595⟩,
    ⟨0xFE98, 0xFE99, 1, -63598⟩, ⟨0xFE9C, 0xFE9D, 1, -63601⟩, ⟨0xFEA0, 0xFEA1, 1, -63604⟩,
    ⟨0xFEA4, 0xFEA5, 1, -63607⟩, ⟨0xFEA8, 0xFEA9, 1, -63610⟩, ⟨0xFEAA, 0xFEAB, 1, -63611⟩,
    ⟨0xFEAC, 0xFEAD, 1, -63612⟩, ⟨0xFEAE, 0xFEAF, 1, -63613⟩, ⟨0xFEB0, 0xFEB1, 1, -63614⟩,
    ⟨0xFEB4, 0xFEB5, 1, -63617⟩, ⟨0xFEB8, 0xFEB9, 1, -63620⟩, ⟨0xFEBC, 0xFEBD, 1, -63623⟩,
    ⟨0xFEC0, 0xFEC1, 1, -63626⟩, ⟨0xFEC4, 0xFEC5, 1, -63629⟩, ⟨0xFEC8, 0xFEC9, 1, -63632⟩,
    ⟨0xFECC, 0xFECD, 1, -63635⟩, ⟨0xFED4, 0xFED5, 1, -63635⟩, ⟨0xFED8, 0xFED9, 1, -63638⟩,
    ⟨0xFEDC, 0xFEDD, 1, -63641⟩, ⟨0xFEE0, 0xFEE1, 1, -63644⟩, ⟨0xFEE4, 0xFEE5, 1, -63647⟩,
    ⟨0xFEE8, 0xFEE9, 1, -63650⟩, ⟨0xFEEC, 0xFEED, 1, -63653⟩, ⟨0xFEEE, 0xFEEF, 1, -63654⟩,
    ⟨0xFEF0, 0xFEF1, 1, -63655⟩, ⟨0xFF01, 0xFF20, 1, -65248⟩, ⟨0xFF21, 0xFF3A, 1, -65216⟩,
    ⟨0xFF3B, 0xFF5E, 1, -65248⟩, ⟨0xFF5F, 0xFF60, 1, -54746⟩, ⟨0xFF62, 0xFF63, 1, -53078⟩,
    ⟨0xFF75, 0xFF76, 1, -52939⟩, ⟨0xFF85, 0xFF8A, 1, -52923⟩, ⟨0xFF8F, 0xFF93, 1, -52913⟩,
    ⟨0xFF96, 0xFF9B, 1, -52910⟩, ⟨0xFF9E, 0xFF9F, 1, -52997⟩, ⟨0xFFA1, 0xFFA2, 1, -61089⟩,
    ⟨0xFFA5, 0xFFA6, 1, -60921⟩, ⟨0xFFA7, 0xFFA9, 1, -61092⟩, ⟨0xFFAA, 0xFFAF, 1, -60922⟩,
    ⟨0xFFB1, 0xFFB3, 1, -61099⟩, ⟨0xFFB5, 0xFFBE, 1, -61100⟩, ⟨0xFFC2, 0xFFC7, 1, -61025⟩,
    ⟨0xFFCA, 0xFFCF, 1, -61027⟩, ⟨0xFFD2, 0xFFD7, 1, -61029⟩, ⟨0xFFDA, 0xFFDC, 1, -61031⟩,
    ⟨0xFFE0, 0xFFE1, 1, -65342⟩, ⟨0xFFE9, 0xFFEC, 1, -56921⟩, ⟨0x10400, 0x10427, 1, 40⟩,
    ⟨0x104B0, 0x104D3, 1, 40⟩, ⟨0x10570, 0x1057A, 1, 39⟩, ⟨0x1057C, 0x1058A, 1, 39⟩,
    ⟨0x1058C, 0x10592, 1, 39⟩, ⟨0x10594, 0x10595, 1, 39⟩, ⟨0x10781, 0x10782, 1, -66737⟩,
    ⟨0x1078B, 0x1078C, 1, -66869⟩, ⟨0x10799, 0x1079A, 1, -66799⟩, ⟨0x107A3, 0x107A4, 1, -66861⟩,
    ⟨0x107A8, 0x107A9, 1, -66859⟩, ⟨0x107B3, 0x107B4, 1, -66834⟩, ⟨0x107B6, 0x107B8, 1, -67062⟩,
    ⟨0x10C80, 0x10CB2, 1, 64⟩, ⟨0x10D50, 0x10D65, 1, 32⟩, ⟨0x118A0, 0x118BF, 1, 32⟩,
    ⟨0x16E40, 0x16E5F, 1, 32⟩, ⟨0x16EA0, 0x16EB8, 1, 27⟩, ⟨0x1CCD6, 0x1CCEF, 1, -117877⟩,
    ⟨0x1CCF0, 0x1CCF9, 1, -117952⟩, ⟨0x1D400, 0x1D419, 1, -119711⟩, ⟨0x1D41A, 0x1D433, 1, -119737⟩,
    ⟨0x1D434, 0x1D44D, 1, -119763⟩, ⟨0x1D44E, 0x1D454, 1, -119789⟩, ⟨0x1D456, 0x1D467, 1, -119789⟩,
    ⟨0x1D468, 0x1D481, 1, -119815⟩, ⟨0x1D482, 0x1D49B, 1, -119841⟩, ⟨0x1D49C, 0x1D49E, 2, -119867⟩,
    ⟨0x1D4A5, 0x1D4A6, 1, -119867⟩, ⟨0x1D4A9, 0x1D4AC, 1, -119867⟩, ⟨0x1D4AE, 0x1D4B5, 1, -119867⟩,
    ⟨0x1D4B6, 0x1D4B9, 1, -119893⟩, ⟨0x1D4BB, 0x1D4BD, 2, -119893⟩, ⟨0x1D4BE, 0x1D4C3, 1, -119893⟩,
    ⟨0x1D4C5, 0x1D4CF, 1, -119893⟩, ⟨0x1D4D0, 0x1D4E9, 1, -119919⟩, ⟨0x1D4EA, 0x1D503, 1, -119945⟩,
    ⟨0x1D504, 0x1D505, 1, -119971⟩, ⟨0x1D507, 0x1D50A, 1, -119971⟩, ⟨0x1D50D, 0x1D514, 1, -119971⟩,
    ⟨0x1D516, 0x1D51C, 1, -119971⟩, ⟨0x1D51E, 0x1D537, 1, -119997⟩, ⟨0x1D538, 0x1D539, 1, -120023⟩,
    ⟨0x1D53B, 0x1D53E, 1, -120023⟩, ⟨0x1D540, 0x1D544, 1, -120023⟩, ⟨0x1D54A, 0x1D550, 1, -120023⟩,
    ⟨0x1D552, 0x1D56B, 1, -120049⟩, ⟨0x1D56C, 0x1D585, 1, -120075⟩, ⟨0x1D586, 0x1D59F, 1, -120101⟩,
    ⟨0x1D5A0, 0x1D5B9, 1, -120127⟩, ⟨0x1D5BA, 0x1D5D3, 1, -120153⟩, ⟨0x1D5D4, 0x1D5ED, 1, -120179⟩,
    ⟨0x1D5EE, 0x1D607, 1, -120205⟩, ⟨0x1D608, 0x1D621, 1, -120231⟩, ⟨0x1D622, 0x1D63B, 1, -120257⟩,
    ⟨0x1D63C, 0x1D655, 1, -120283⟩, ⟨0x1D656, 0x1D66F, 1, -120309⟩, ⟨0x1D670, 0x1D689, 1, -120335⟩,
    ⟨0x1D68A, 0x1D6A3, 1, -120361⟩, ⟨0x1D6A8, 0x1D6B8, 1, -119543⟩, ⟨0x1D6BA, 0x1D6C0, 1, -119543⟩,
    ⟨0x1D6C2, 0x1D6D2, 1, -119569⟩, ⟨0x1D6D4, 0x1D6DA, 1, -119569⟩, ⟨0x1D6E2, 0x1D6F2, 1, -119601⟩,
    ⟨0x1D6F4, 0x1D6FA, 1, -119601⟩, ⟨0x1D6FC, 0x1D70C, 1, -119627⟩, ⟨0x1D70E, 0x1D714, 1, -119627⟩,
    ⟨0x1D71C, 0x1D72C, 1, -119659⟩, ⟨0x1D72E, 0x1D734, 1, -119659⟩, ⟨0x1D736, 0x1D746, 1, -119685⟩,
    ⟨0x1D748, 0x1D74E, 1, -119685⟩, ⟨0x1D756, 0x1D766, 1, -119717⟩, ⟨0x1D768, 0x1D76E, 1, -119717⟩,
    ⟨0x1D770, 0x1D780, 1, -119743⟩, ⟨0x1D782, 0x1D788, 1, -119743⟩, ⟨0x1D790, 0x1D7A0, 1, -119775⟩,
    ⟨0x1D7A2, 0x1D7A8, 1, -119775⟩, ⟨0x1D7AA, 0x1D7BA, 1, -119801⟩, ⟨0x1D7BC, 0x1D7C2, 1, -119801⟩,
    ⟨0x1D7CE, 0x1D7D7, 1, -120734⟩, ⟨0x1D7D8, 0x1D7E1, 1, -120744⟩, ⟨0x1D7E2, 0x1D7EB, 1, -120754⟩,
    ⟨0x1D7EC, 0x1D7F5, 1, -120764⟩, ⟨0x1D7F6, 0x1D7FF, 1, -120774⟩, ⟨0x1E030, 0x1E038, 1, -121856⟩,
    ⟨0x1E039, 0x1E03B, 1, -121855⟩, ⟨0x1E03C, 0x1E046, 1, -121854⟩, ⟨0x1E048, 0x1E049, 1, -121851⟩,
    ⟨0x1E051, 0x1E059, 1, -121889⟩, ⟨0x1E05A, 0x1E05B, 1, -121888⟩, ⟨0x1E05C, 0x1E05D, 1, -121886⟩,
    ⟨0x1E05F, 0x1E064, 1, -121884⟩, ⟨0x1E065, 0x1E066, 1, -121883⟩, ⟨0x1E900, 0x1E921, 1, 34⟩,
    ⟨0x1EE00, 0x1EE01, 1, -124889⟩, ⟨0x1EE0A, 0x1EE0D, 1, -124871⟩, ⟨0x1EE15, 0x1EE16, 1, -124907⟩,
    ⟨0x1EE2A, 0x1EE2D, 1, -124903⟩, ⟨0x1EE35, 0x1EE36, 1, -124939⟩, ⟨0x1EE4B, 0x1EE4D, 2, -124935⟩,
    ⟨0x1EE6A, 0x1EE6C, 2, -124967⟩, ⟨0x1EE75, 0x1EE76, 1, -125003⟩, ⟨0x1EE80, 0x1EE81, 1, -125017⟩,
    ⟨0x1EE84, 0x1EE85, 1, -124989⟩, ⟨0x1EE8B, 0x1EE8D, 1, -124999⟩, ⟨0x1EE95, 0x1EE96, 1, -125035⟩,
    ⟨0x1EEAB, 0x1EEAD, 1, -125031⟩, ⟨0x1EEB5, 0x1EEB6, 1, -125067⟩, ⟨0x1F130, 0x1F149, 1, -127183⟩,
    ⟨0x1FBF0, 0x1FBF9, 1, -129984⟩, ⟨0x2F829, 0x2F82A, 1, -173348⟩, ⟨0x2F881, 0x2F882, 1, -170656⟩,
    ⟨0x2F8F5, 0x2F8F6, 1, -167227⟩, ⟨0x2F945, 0x2F946, 1, -164391⟩, ⟨0x2F9E8, 0x2F9E9, 1, -157457⟩]

/-- The characters from `first` on are replaced by `texts` in turn. -/
structure FormRun where
  first : Nat
  texts : List String

def FormRun.covers (run : FormRun) (code : Nat) : Bool :=
  run.first ≤ code && code < run.first + run.texts.length

/-- Plain forms of letters, signs and numbers. -/
def letterForms : List FormRun :=
  [⟨0xA0, [" "]⟩, ⟨0xA8, [" \u0308"]⟩, ⟨0xAA, ["a"]⟩, ⟨0xAF, [" \u0304"]⟩,
    ⟨0xB4, [" \u0301", "μ"]⟩, ⟨0xB8, [" \u0327", "1", "o"]⟩, ⟨0xBC, ["1⁄4", "1⁄2", "3⁄4"]⟩,
    ⟨0x130, ["i\u0307"]⟩, ⟨0x132, ["ij", "ij"]⟩, ⟨0x13F, ["l·"]⟩, ⟨0x140, ["l·"]⟩, ⟨0x149, ["ʼn"]⟩,
    ⟨0x178, ["ÿ"]⟩, ⟨0x17F, ["s"]⟩, ⟨0x181, ["ɓ"]⟩, ⟨0x186, ["ɔ", "ƈ"]⟩, ⟨0x18B, ["ƌ"]⟩,
    ⟨0x18E, ["ǝ", "ə", "ɛ", "ƒ"]⟩, ⟨0x193, ["ɠ", "ɣ"]⟩, ⟨0x196, ["ɩ", "ɨ", "ƙ"]⟩,
    ⟨0x19C, ["ɯ", "ɲ"]⟩, ⟨0x19F, ["ɵ"]⟩, ⟨0x1A6, ["ʀ", "ƨ"]⟩, ⟨0x1A9, ["ʃ"]⟩, ⟨0x1AC, ["ƭ"]⟩,
    ⟨0x1AE, ["ʈ", "ư"]⟩, ⟨0x1B7, ["ʒ", "ƹ"]⟩, ⟨0x1BC, ["ƽ"]⟩,
    ⟨0x1C4, ["dž", "dž", "dž", "lj", "lj", "lj", "nj", "nj", "nj"]⟩,
    ⟨0x1F1, ["dz", "dz", "dz", "ǵ"]⟩, ⟨0x1F6, ["ƕ", "ƿ"]⟩, ⟨0x220, ["ƞ"]⟩, ⟨0x23A, ["ⱥ", "ȼ"]⟩,
    ⟨0x23D, ["ƚ", "ⱦ"]⟩, ⟨0x241, ["ɂ"]⟩, ⟨0x243, ["ƀ", "ʉ", "ʌ"]⟩,
    ⟨0x2B0, ["h", "ɦ", "j", "r", "ɹ", "ɻ", "ʁ", "w", "y"]⟩,
    ⟨0x2D8, [" \u0306", " \u0307", " \u030a", " \u0328", " \u0303", " \u030b"]⟩,
    ⟨0x2E0, ["ɣ", "l", "s", "x", "ʕ"]⟩, ⟨0x343, ["\u0313", "\u0308\u0301", "ι"]⟩, ⟨0x374, ["ʹ"]⟩,
    ⟨0x376, ["ͷ"]⟩, ⟨0x37A, [" ι"]⟩, ⟨0x37E, [";", "ϳ"]⟩,
    ⟨0x384, [" \u0301", " \u0308\u0301", "ά", "·"]⟩, ⟨0x38C, ["ό"]⟩,
    ⟨0x3CF, ["ϗ", "β", "θ", "υ", "ύ", "ϋ", "φ", "π"]⟩, ⟨0x3F0, ["κ", "ρ", "σ"]⟩,
    ⟨0x3F4, ["θ", "ε"]⟩, ⟨0x3F7, ["ϸ"]⟩, ⟨0x3F9, ["σ", "ϻ"]⟩, ⟨0x4C0, ["ӏ"]⟩, ⟨0x587, ["եւ"]⟩,
    ⟨0x675, ["\u0627\u0674", "\u0648\u0674", "\u06c7\u0674", "\u064a\u0674"]⟩,
    ⟨0x958, ["क\u093c", "ख\u093c", "ग\u093c", "ज\u093c", "ड\u093c", "ढ\u093c", "फ\u093c",
      "य\u093c"]⟩,
    ⟨0x9DC, ["ড\u09bc", "ঢ\u09bc"]⟩, ⟨0x9DF, ["য\u09bc"]⟩, ⟨0xA33, ["ਲ\u0a3c"]⟩,
    ⟨0xA36, ["ਸ\u0a3c"]⟩, ⟨0xA59, ["ਖ\u0a3c", "ਗ\u0a3c", "ਜ\u0a3c"]⟩, ⟨0xA5E, ["ਫ\u0a3c"]⟩,
    ⟨0xB5C, ["ଡ\u0b3c", "ଢ\u0b3c"]⟩, ⟨0xE33, ["\u0e4dา"]⟩, ⟨0xEB3, ["\u0ecdາ"]⟩,
    ⟨0xEDC, ["ຫນ", "ຫມ"]⟩, ⟨0xF0C, ["་"]⟩, ⟨0xF43, ["ག\u0fb7"]⟩, ⟨0xF4D, ["ཌ\u0fb7"]⟩,
    ⟨0xF52, ["ད\u0fb7"]⟩, ⟨0xF57, ["བ\u0fb7"]⟩, ⟨0xF5C, ["ཛ\u0fb7"]⟩, ⟨0xF69, ["ཀ\u0fb5"]⟩,
    ⟨0xF73, ["\u0f71\u0f72"]⟩,
    ⟨0xF75, ["\u0f71\u0f74", "\u0fb2\u0f80", "\u0fb2\u0f71\u0f80", "\u0fb3\u0f80",
      "\u0fb3\u0f71\u0f80"]⟩,
    ⟨0xF81, ["\u0f71\u0f80"]⟩, ⟨0xF93, ["\u0f92\u0fb7"]⟩, ⟨0xF9D, ["\u0f9c\u0fb7"]⟩,
    ⟨0xFA2, ["\u0fa1\u0fb7"]⟩, ⟨0xFA7, ["\u0fa6\u0fb7"]⟩, ⟨0xFAC, ["\u0fab\u0fb7"]⟩,
    ⟨0xFB9, ["\u0f90\u0fb5"]⟩, ⟨0x10C7, ["ⴧ"]⟩, ⟨0x10CD, ["ⴭ"]⟩, ⟨0x10FC, ["ნ"]⟩,
    ⟨0x1C80, ["в", "д", "о"]⟩, ⟨0x1C85, ["т", "ъ", "ѣ", "ꙋ", "ᲊ"]⟩, ⟨0x1D2C, ["a", "æ"]⟩,
    ⟨0x1D31, ["e", "ǝ"]⟩, ⟨0x1D3C, ["o", "ȣ", "p", "r"]⟩, ⟨0x1D42, ["w", "a"]⟩,
    ⟨0x1D46, ["ᴂ", "b"]⟩, ⟨0x1D4A, ["ə"]⟩, ⟨0x1D4D, ["g"]⟩, ⟨0x1D4F, ["k", "m", "ŋ", "o", "ɔ"]⟩,
    ⟨0x1D56, ["p"]⟩, ⟨0x1D59, ["ᴝ", "ɯ", "v", "ᴥ"]⟩, ⟨0x1D62, ["i", "r"]⟩, ⟨0x1D68, ["ρ"]⟩,
    ⟨0x1D78, ["н"]⟩, ⟨0x1D9B, ["ɒ", "c", "ɕ", "ð", "ɜ", "f", "ɟ", "ɡ", "ɥ"]⟩,
    ⟨0x1DA7, ["ᵻ", "ʝ", "ɭ", "ᶅ", "ʟ", "ɱ", "ɰ"]⟩, ⟨0x1DB2, ["ɸ"]⟩, ⟨0x1DB5, ["ƫ"]⟩,
    ⟨0x1DB8, ["ᴜ"]⟩, ⟨0x1DBB, ["z"]⟩, ⟨0x1DBF, ["θ"]⟩, ⟨0x1E9A, ["aʾ", "ṡ"]⟩, ⟨0x1E9E, ["ß"]⟩,
    ⟨0x1F71, ["ά"]⟩, ⟨0x1F73, ["έ"]⟩, ⟨0x1F75, ["ή"]⟩, ⟨0x1F77, ["ί"]⟩, ⟨0x1F79, ["ό"]⟩,
    ⟨0x1F7B, ["ύ"]⟩, ⟨0x1F7D, ["ώ"]⟩,
    ⟨0x1F80, ["ἀι", "ἁι", "ἂι", "ἃι", "ἄι", "ἅι", "ἆι", "ἇι", "ἀι", "ἁι", "ἂι", "ἃι", "ἄι", "ἅι",
      "ἆι", "ἇι", "ἠι", "ἡι", "ἢι", "ἣι", "ἤι", "ἥι", "ἦι", "ἧι", "ἠι", "ἡι", "ἢι", "ἣι", "ἤι",
      "ἥι", "ἦι", "ἧι", "ὠι", "ὡι", "ὢι", "ὣι", "ὤι", "ὥι", "ὦι", "ὧι", "ὠι", "ὡι", "ὢι", "ὣι",
      "ὤι", "ὥι", "ὦι", "ὧι"]⟩,
    ⟨0x1FB2, ["ὰι", "αι", "άι"]⟩, ⟨0x1FB7, ["ᾶι"]⟩,
    ⟨0x1FBA, ["ὰ", "ά", "αι", " \u0313", "ι", " \u0313"]⟩,
    ⟨0x1FC0, [" \u0342", " \u0308\u0342", "ὴι", "ηι", "ήι"]⟩,
    ⟨0x1FC7, ["ῆι", "ὲ", "έ", "ὴ", "ή", "ηι", " \u0313\u0300", " \u0313\u0301", " \u0313\u0342"]⟩,
    ⟨0x1FD3, ["ΐ"]⟩, ⟨0x1FDA, ["ὶ", "ί"]⟩,
    ⟨0x1FDD, [" \u0314\u0300", " \u0314\u0301", " \u0314\u0342"]⟩, ⟨0x1FE3, ["ΰ"]⟩,
    ⟨0x1FEA, ["ὺ", "ύ", "ῥ", " \u0308\u0300", " \u0308\u0301", "`"]⟩, ⟨0x1FF2, ["ὼι", "ωι", "ώι"]⟩,
    ⟨0x1FF7, ["ῶι", "ὸ", "ό", "ὼ", "ώ", "ωι", " \u0301", " \u0314"]⟩,
    ⟨0x2000, [" ", " ", " ", " ", " ", " ", " ", " ", " ", " ", " "]⟩, ⟨0x2011, ["‐"]⟩,
    ⟨0x2017, [" \u0333"]⟩, ⟨0x202F, [" "]⟩, ⟨0x2033, ["′′", "′′′"]⟩, ⟨0x2036, ["‵‵", "‵‵‵"]⟩,
    ⟨0x203C, ["!!"]⟩, ⟨0x203E, [" \u0305"]⟩, ⟨0x2047, ["??", "?!", "!?"]⟩, ⟨0x2057, ["′′′′"]⟩,
    ⟨0x205F, [" "]⟩, ⟨0x2070, ["0", "i"]⟩, ⟨0x207A, ["+", "−", "="]⟩, ⟨0x207F, ["n"]⟩,
    ⟨0x208A, ["+", "−", "="]⟩, ⟨0x2090, ["a", "e", "o", "x", "ə", "h"]⟩, ⟨0x209A, ["p"]⟩,
    ⟨0x20A8, ["rs"]⟩, ⟨0x2100, ["a/c", "a/s", "c", "°c"]⟩, ⟨0x2105, ["c/o", "c/u", "ɛ"]⟩,
    ⟨0x2109, ["°f"]⟩, ⟨0x210C, ["h", "h", "h", "ħ", "i", "i", "l"]⟩, ⟨0x2116, ["no"]⟩,
    ⟨0x211C, ["r", "r"]⟩, ⟨0x2120, ["sm", "tel", "tm"]⟩, ⟨0x2124, ["z"]⟩, ⟨0x2126, ["ω"]⟩,
    ⟨0x2128, ["z"]⟩, ⟨0x212A, ["k", "å"]⟩, ⟨0x212F, ["e"]⟩, ⟨0x2132, ["ⅎ", "m", "o"]⟩,
    ⟨0x2139, ["i"]⟩, ⟨0x213B, ["fax", "π", "γ", "γ", "π"]⟩, ⟨0x2140, ["∑"]⟩, ⟨0x2145, ["d"]⟩,
    ⟨0x2150, ["1⁄7", "1⁄9", "1⁄10", "1⁄3", "2⁄3", "1⁄5", "2⁄5", "3⁄5", "4⁄5", "1⁄6", "5⁄6",
      "1⁄8", "3⁄8", "5⁄8", "7⁄8", "1⁄", "i", "ii", "iii", "iv", "v", "vi", "vii", "viii", "ix",
      "x", "xi", "xii", "l"]⟩,
    ⟨0x216F, ["m", "i", "ii", "iii", "iv", "v", "vi", "vii", "viii", "ix", "x", "xi", "xii", "l"]⟩,
    ⟨0x217F, ["m"]⟩, ⟨0x2183, ["ↄ"]⟩, ⟨0x2189, ["0⁄3"]⟩, ⟨0x222C, ["∫∫", "∫∫∫"]⟩,
    ⟨0x222F, ["∮∮", "∮∮∮"]⟩,
    ⟨0x2469, ["10", "11", "12", "13", "14", "15", "16", "17", "18", "19", "20", "(1)", "(2)",
      "(3)", "(4)", "(5)", "(6)", "(7)", "(8)", "(9)", "(10)", "(11)", "(12)"]⟩,
    ⟨0x2480, ["(13)", "(14)", "(15)", "(16)", "(17)", "(18)", "(19)", "(20)"]⟩,
    ⟨0x249C, ["(a)", "(b)", "(c)", "(d)", "(e)", "(f)", "(g)", "(h)", "(i)", "(j)", "(k)", "(l)",
      "(m)", "(n)", "(o)", "(p)", "(q)", "(r)", "(s)", "(t)", "(u)", "(v)", "(w)", "(x)", "(y)",
      "(z)"]⟩,
    ⟨0x24EA, ["0"]⟩, ⟨0x2A0C, ["∫∫∫∫"]⟩, ⟨0x2A74, ["::=", "==", "==="]⟩, ⟨0x2ADC, ["⫝\u0338"]⟩,
    ⟨0x2C60, ["ⱡ"]⟩, ⟨0x2C62, ["ɫ", "ᵽ", "ɽ"]⟩, ⟨0x2C6D, ["ɑ", "ɱ", "ɐ", "ɒ"]⟩, ⟨0x2C72, ["ⱳ"]⟩,
    ⟨0x2C75, ["ⱶ"]⟩, ⟨0x2C7C, ["j", "v"]⟩, ⟨0x2CF2, ["ⳳ"]⟩, ⟨0x2D6F, ["ⵡ"]⟩]

/-- Plain forms of radicals. -/
def radicalForms : List FormRun :=
  [⟨0x2E9F, ["母"]⟩, ⟨0x2EF3, ["龟"]⟩,
    ⟨0x2F00, ["一", "丨", "丶", "丿", "乙", "亅", "二", "亠", "人", "儿", "入", "八", "冂", "冖", "冫", "几",
      "凵", "刀", "力", "勹", "匕", "匚", "匸", "十", "卜", "卩", "厂", "厶", "又", "口", "囗", "土", "士", "夂",
      "夊", "夕", "大", "女", "子", "宀", "寸", "小", "尢", "尸", "屮", "山", "巛", "工", "己", "巾", "干", "幺",
      "广", "廴", "廾", "弋", "弓", "彐", "彡", "彳", "心", "戈", "戶", "手"]⟩,
    ⟨0x2F40, ["支", "攴", "文", "斗", "斤", "方", "无", "日", "曰", "月", "木", "欠", "止", "歹", "殳", "毋",
      "比", "毛", "氏", "气", "水", "火", "爪", "父", "爻", "爿", "片", "牙", "牛", "犬", "玄", "玉", "瓜", "瓦",
      "甘", "生", "用", "田", "疋", "疒", "癶", "白", "皮", "皿", "目", "矛", "矢", "石", "示", "禸", "禾", "穴",
      "立", "竹", "米", "糸", "缶", "网", "羊", "羽", "老", "而", "耒", "耳"]⟩,
    ⟨0x2F80, ["聿", "肉", "臣", "自", "至", "臼", "舌", "舛", "舟", "艮", "色", "艸", "虍", "虫", "血", "行",
      "衣", "襾", "見", "角", "言", "谷", "豆", "豕", "豸", "貝", "赤", "走", "足", "身", "車", "辛", "辰", "辵",
      "邑", "酉", "釆", "里", "金", "長", "門", "阜", "隶", "隹", "雨", "靑", "非", "面", "革", "韋", "韭", "音",
      "頁", "風", "飛", "食", "首", "香", "馬", "骨", "高", "髟", "鬥", "鬯"]⟩,
    ⟨0x2FC0, ["鬲", "鬼", "魚", "鳥", "鹵", "鹿", "麥", "麻", "黃", "黍", "黑", "黹", "黽", "鼎", "鼓", "鼠",
      "鼻", "齊", "齒", "龍", "龜", "龠"]⟩]

/-- Plain forms of letters and words in squares and circles. -/
def squareForms : List FormRun :=
  [⟨0x3000, [" "]⟩, ⟨0x3002, ["."]⟩, ⟨0x3036, ["〒"]⟩, ⟨0x3038, ["十"]⟩,
    ⟨0x309B, [" \u3099", " \u309a"]⟩, ⟨0x309F, ["より"]⟩, ⟨0x30FF, ["コト"]⟩, ⟨0x3133, ["ᆪ", "ᄂ"]⟩,
    ⟨0x3140, ["ᄚ"]⟩, ⟨0x3144, ["ᄡ"]⟩, ⟨0x3169, ["ᇌ", "ᇎ", "ᇓ", "ᇗ", "ᇙ", "ᄜ", "ᇝ", "ᇟ"]⟩,
    ⟨0x3173, ["ᄠ"]⟩, ⟨0x3176, ["ᄧ", "ᄩ"]⟩, ⟨0x317D, ["ᄲ", "ᄶ", "ᅀ"]⟩, ⟨0x3180, ["ᅇ", "ᅌ"]⟩,
    ⟨0x3189, ["ᆈ"]⟩, ⟨0x318C, ["ᆔ", "ᆞ", "ᆡ"]⟩,
    ⟨0x3192, ["一", "二", "三", "四", "上", "中", "下", "甲", "乙", "丙", "丁", "天", "地", "人"]⟩,
    ⟨0x3200, ["(ᄀ)", "(ᄂ)", "(ᄃ)", "(ᄅ)", "(ᄆ)", "(ᄇ)", "(ᄉ)", "(ᄋ)", "(ᄌ)", "(ᄎ)", "(ᄏ)", "(ᄐ)",
      "(ᄑ)", "(ᄒ)", "(가)", "(나)", "(다)", "(라)", "(마)", "(바)", "(사)", "(아)", "(자)", "(차)", "(카)",
      "(타)", "(파)", "(하)", "(주)", "(오전)", "(오후)"]⟩,
    ⟨0x3220, ["(一)", "(二)", "(三)", "(四)", "(五)", "(六)", "(七)", "(八)", "(九)", "(十)", "(月)", "(火)",
      "(水)", "(木)", "(金)", "(土)", "(日)", "(株)", "(有)", "(社)", "(名)", "(特)", "(財)", "(祝)", "(労)",
      "(代)", "(呼)", "(学)", "(監)", "(企)", "(資)", "(協)"]⟩,
    ⟨0x3240, ["(祭)", "(休)", "(自)", "(至)", "問", "幼", "文", "箏"]⟩,
    ⟨0x3250, ["pte", "21", "22", "23", "24", "25", "26", "27", "28", "29", "30", "31", "32",
      "33", "34", "35", "ᄀ"]⟩,
    ⟨0x3266, ["ᄉ"]⟩,
    ⟨0x326E, ["가", "나", "다", "라", "마", "바", "사", "아", "자", "차", "카", "타", "파", "하", "참고", "주의",
      "우"]⟩,
    ⟨0x3280, ["一", "二", "三", "四", "五", "六", "七", "八", "九", "十", "月", "火", "水", "木", "金", "土",
      "日", "株", "有", "社", "名", "特", "財", "祝", "労", "秘", "男", "女", "適", "優", "印", "注", "項", "休",
      "写", "正", "上", "中", "下", "左", "右", "医", "宗", "学", "監", "企", "資", "協", "夜", "36", "37",
      "38", "39", "40", "41", "42", "43", "44", "45", "46", "47", "48", "49", "50"]⟩,
    ⟨0x32C0, ["1月", "2月", "3月", "4月", "5月", "6月", "7月", "8月", "9月", "10月", "11月", "12月", "hg",
      "erg", "ev", "ltd", "ア", "イ", "ウ", "エ"]⟩,
    ⟨0x32D6, ["キ", "ク", "ケ", "コ", "サ", "シ", "ス", "セ", "ソ", "タ", "チ", "ツ", "テ", "ト"]⟩,
    ⟨0x32EA, ["ヒ", "フ", "ヘ", "ホ"]⟩, ⟨0x32F3, ["ヤ", "ユ"]⟩, ⟨0x32FF, ["令和"]⟩,
    ⟨0x3300, ["アパート", "アルファ", "アンペア", "アール", "イニング", "インチ", "ウォン", "エスクード", "エーカー", "オンス", "オーム",
      "カイリ", "カラット", "カロリー", "ガロン", "ガンマ", "ギガ", "ギニー", "キュリー", "ギルダー", "キロ", "キログラム", "キロメートル",
      "キロワット", "グラム", "グラムトン", "クルゼイロ", "クローネ", "ケース", "コルナ", "コーポ", "サイクル", "サンチーム", "シリング",
      "センチ", "セント", "ダース", "デシ", "ドル", "トン", "ナノ", "ノット", "ハイツ", "パーセント", "パーツ", "バーレル", "ピアストル",
      "ピクル", "ピコ", "ビル", "ファラッド", "フィート", "ブッシェル", "フラン", "ヘクタール", "ペソ", "ペニヒ", "ヘルツ", "ペンス",
      "ページ", "ベータ", "ポイント", "ボルト", "ホン"]⟩,
    ⟨0x3340, ["ポンド", "ホール", "ホーン", "マイクロ", "マイル", "マッハ", "マルク", "マンション", "ミクロン", "ミリ", "ミリバール",
      "メガ", "メガトン", "メートル", "ヤード", "ヤール", "ユアン", "リットル", "リラ", "ルピー", "ルーブル", "レム", "レントゲン",
      "ワット", "0点", "1点", "2点", "3点", "4点", "5点", "6点", "7点", "8点", "9点", "10点", "11点", "12点",
      "13点", "14点", "15点", "16点", "17点", "18点", "19点", "20点", "21点", "22点", "23点", "24点", "hpa",
      "da", "au", "bar", "ov", "pc", "dm", "dm2", "dm3", "iu", "平成", "昭和", "大正", "明治", "株式会社"]⟩,
    ⟨0x3380, ["pa", "na", "μa", "ma", "ka", "kb", "mb", "gb", "cal", "kcal", "pf", "nf", "μf",
      "μg", "mg", "kg", "hz", "khz", "mhz", "ghz", "thz", "μl", "ml", "dl", "kl", "fm", "nm",
      "μm", "mm", "cm", "km", "mm2", "cm2", "m2", "km2", "mm3", "cm3", "m3", "km3", "m∕s",
      "m∕s2", "pa", "kpa", "mpa", "gpa", "rad", "rad∕s", "rad∕s2", "ps", "ns", "μs", "ms", "pv",
      "nv", "μv", "mv", "kv", "mv", "pw", "nw", "μw", "mw", "kw", "mw"]⟩,
    ⟨0x33C0, ["kω", "mω"]⟩, ⟨0x33C3, ["bq", "cc", "cd", "c∕kg"]⟩,
    ⟨0x33C8, ["db", "gy", "ha", "hp", "in", "kk", "km", "kt", "lm", "ln", "log", "lx", "mb",
      "mil", "mol", "ph"]⟩,
    ⟨0x33D9, ["ppm", "pr", "sr", "sv", "wb", "v∕m", "a∕m", "1日", "2日", "3日", "4日", "5日", "6日",
      "7日", "8日", "9日", "10日", "11日", "12日", "13日", "14日", "15日", "16日", "17日", "18日", "19日",
      "20日", "21日", "22日", "23日", "24日", "25日", "26日", "27日", "28日", "29日", "30日", "31日", "gal"]⟩]

/-- Plain forms of ideographs. -/
def ideographForms : List FormRun :=
  [⟨0xF900, ["豈", "更", "車", "賈", "滑", "串", "句", "龜", "龜", "契", "金", "喇", "奈", "懶", "癩", "羅",
      "蘿", "螺", "裸", "邏", "樂", "洛", "烙", "珞", "落", "酪", "駱", "亂", "卵", "欄", "爛", "蘭", "鸞", "嵐",
      "濫", "藍", "襤", "拉", "臘", "蠟", "廊", "朗", "浪", "狼", "郎", "來", "冷", "勞", "擄", "櫓", "爐", "盧",
      "老", "蘆", "虜", "路", "露", "魯", "鷺", "碌", "祿", "綠", "菉", "錄"]⟩,
    ⟨0xF940, ["鹿", "論", "壟", "弄", "籠", "聾", "牢", "磊", "賂", "雷", "壘", "屢", "樓", "淚", "漏", "累",
      "縷", "陋", "勒", "肋", "凜", "凌", "稜", "綾", "菱", "陵", "讀", "拏", "樂", "諾", "丹", "寧", "怒", "率",
      "異", "北", "磻", "便", "復", "不", "泌", "數", "索", "參", "塞", "省", "葉", "說", "殺", "辰", "沈", "拾",
      "若", "掠", "略", "亮", "兩", "凉", "梁", "糧", "良", "諒", "量", "勵"]⟩,
    ⟨0xF980, ["呂", "女", "廬", "旅", "濾", "礪", "閭", "驪", "麗", "黎", "力", "曆", "歷", "轢", "年", "憐",
      "戀", "撚", "漣", "煉", "璉", "秊", "練", "聯", "輦", "蓮", "連", "鍊", "列", "劣", "咽", "烈", "裂", "說",
      "廉", "念", "捻", "殮", "簾", "獵", "令", "囹", "寧", "嶺", "怜", "玲", "瑩", "羚", "聆", "鈴", "零", "靈",
      "領", "例", "禮", "醴", "隸", "惡", "了", "僚", "寮", "尿", "料", "樂"]⟩,
    ⟨0xF9C0, ["燎", "療", "蓼", "遼", "龍", "暈", "阮", "劉", "杻", "柳", "流", "溜", "琉", "留", "硫", "紐",
      "類", "六", "戮", "陸", "倫", "崙", "淪", "輪", "律", "慄", "栗", "率", "隆", "利", "吏", "履", "易", "李",
      "梨", "泥", "理", "痢", "罹", "裏", "裡", "里", "離", "匿", "溺", "吝", "燐", "璘", "藺", "隣", "鱗", "麟",
      "林", "淋", "臨", "立", "笠", "粒", "狀", "炙", "識", "什", "茶", "刺"]⟩,
    ⟨0xFA00, ["切", "度", "拓", "糖", "宅", "洞", "暴", "輻", "行", "降", "見", "廓", "兀", "嗀"]⟩,
    ⟨0xFA10, ["塚"]⟩, ⟨0xFA12, ["晴"]⟩, ⟨0xFA15, ["凞", "猪", "益", "礼", "神", "祥", "福", "靖", "精", "羽"]⟩,
    ⟨0xFA20, ["蘒"]⟩, ⟨0xFA22, ["諸"]⟩, ⟨0xFA25, ["逸", "都"]⟩,
    ⟨0xFA2A, ["飯", "飼", "館", "鶴", "郞", "隷", "侮", "僧", "免", "勉", "勤", "卑", "喝", "嘆", "器", "塀",
      "墨", "層", "屮", "悔", "慨", "憎"]⟩,
    ⟨0xFA40, ["懲", "敏", "既", "暑", "梅", "海", "渚", "漢", "煮", "爫", "琢", "碑", "社", "祉", "祈", "祐",
      "祖", "祝"]⟩,
    ⟨0xFA54, ["穀", "突", "節", "練", "縉", "繁", "署", "者", "臭", "艹", "艹", "著", "褐", "視", "謁", "謹",
      "賓", "贈", "辶", "逸", "難", "響", "頻", "恵", "𤋮", "舘"]⟩,
    ⟨0xFA70, ["並", "况", "全", "侀", "充", "冀", "勇", "勺", "喝", "啕", "喙", "嗢", "塚", "墳", "奄", "奔"]⟩,
    ⟨0xFA80, ["婢", "嬨", "廒", "廙", "彩", "徭", "惘", "慎", "愈", "憎", "慠", "懲", "戴", "揄", "搜", "摒",
      "敖", "晴", "朗", "望", "杖", "歹", "殺", "流", "滛", "滋", "漢", "瀞", "煮", "瞧", "爵", "犯", "猪", "瑱",
      "甆", "画", "瘝", "瘟", "益", "盛", "直", "睊", "着", "磌", "窱", "節", "类", "絛", "練", "缾", "者", "荒",
      "華", "蝹", "襁", "覆", "視", "調", "諸", "請", "謁", "諾", "諭", "謹"]⟩,
    ⟨0xFAC0, ["變", "贈", "輸", "遲", "醙", "鉶", "陼", "難", "靖", "韛", "響", "頋", "頻", "鬒", "龜", "𢡊",
      "𢡄", "𣏕", "㮝", "䀘", "䀹", "𥉉", "𥳐", "𧻓", "齃", "龎"]⟩]

/-- Plain forms of ligatures, joined letters and narrow letters. -/
def presentationForms : List FormRun :=
  [⟨0xA69C, ["ъ", "ь"]⟩, ⟨0xA770, ["ꝯ"]⟩, ⟨0xA77D, ["ᵹ"]⟩, ⟨0xA78B, ["ꞌ"]⟩, ⟨0xA78D, ["ɥ"]⟩,
    ⟨0xA7AA, ["ɦ", "ɜ", "ɡ", "ɬ", "ɪ"]⟩, ⟨0xA7B0, ["ʞ", "ʇ", "ʝ", "ꭓ"]⟩, ⟨0xA7C4, ["ꞔ", "ʂ", "ᶎ"]⟩,
    ⟨0xA7CB, ["ɤ"]⟩, ⟨0xA7DC, ["ƛ"]⟩, ⟨0xA7F1, ["s", "c", "f", "q", "ꟶ"]⟩, ⟨0xA7F8, ["ħ", "œ"]⟩,
    ⟨0xAB5C, ["ꜧ", "ꬷ", "ɫ", "ꭒ"]⟩, ⟨0xAB69, ["ʍ"]⟩,
    ⟨0xFB00, ["ff", "fi", "fl", "ffi", "ffl", "st", "st"]⟩,
    ⟨0xFB13, ["մն", "մե", "մի", "վն", "մխ"]⟩, ⟨0xFB1D, ["\u05d9\u05b4"]⟩,
    ⟨0xFB1F, ["\u05f2\u05b7", "\u05e2", "\u05d0"]⟩,
    ⟨0xFB27, ["\u05e8", "\u05ea", "+", "\u05e9\u05c1", "\u05e9\u05c2", "\u05e9\u05bc\u05c1",
      "\u05e9\u05bc\u05c2", "\u05d0\u05b7", "\u05d0\u05b8", "\u05d0\u05bc", "\u05d1\u05bc",
      "\u05d2\u05bc", "\u05d3\u05bc", "\u05d4\u05bc", "\u05d5\u05bc", "\u05d6\u05bc"]⟩,
    ⟨0xFB38, ["\u05d8\u05bc", "\u05d9\u05bc", "\u05da\u05bc", "\u05db\u05bc", "\u05dc\u05bc"]⟩,
    ⟨0xFB3E, ["\u05de\u05bc"]⟩, ⟨0xFB40, ["\u05e0\u05bc", "\u05e1\u05bc"]⟩,
    ⟨0xFB43, ["\u05e3\u05bc", "\u05e4\u05bc"]⟩,
    ⟨0xFB46, ["\u05e6\u05bc", "\u05e7\u05bc", "\u05e8\u05bc", "\u05e9\u05bc", "\u05ea\u05bc",
      "\u05d5\u05b9", "\u05d1\u05bf", "\u05db\u05bf", "\u05e4\u05bf", "\u05d0\u05dc", "\u0671",
      "\u0671", "\u067b", "\u067b", "\u067b", "\u067b", "\u067e", "\u067e", "\u067e", "\u067e",
      "\u0680", "\u0680", "\u0680", "\u0680", "\u067a", "\u067a", "\u067a", "\u067a", "\u067f",
      "\u067f", "\u067f", "\u067f", "\u0679", "\u0679", "\u0679", "\u0679", "\u06a4", "\u06a4",
      "\u06a4", "\u06a4", "\u06a6", "\u06a6", "\u06a6", "\u06a6", "\u0684", "\u0684", "\u0684",
      "\u0684", "\u0683", "\u0683", "\u0683", "\u0683", "\u0686", "\u0686", "\u0686"]⟩,
    ⟨0xFB7F, ["\u0687"]⟩,
    ⟨0xFB80, ["\u0687", "\u0687", "\u068d", "\u068d", "\u068c", "\u068c", "\u068e", "\u068e",
      "\u0688", "\u0688", "\u0698", "\u0698", "\u0691", "\u0691", "\u06a9", "\u06a9", "\u06a9",
      "\u06a9", "\u06af", "\u06af", "\u06af", "\u06af", "\u06b3", "\u06b3", "\u06b3", "\u06b3",
      "\u06b1", "\u06b1", "\u06b1", "\u06b1", "\u06ba"]⟩,
    ⟨0xFBA1, ["\u06bb", "\u06bb", "\u06bb", "\u06c0"]⟩,
    ⟨0xFBA7, ["\u06c1", "\u06c1", "\u06c1", "\u06be", "\u06be", "\u06be", "\u06be", "\u06d2"]⟩,
    ⟨0xFBB1, ["\u06d3"]⟩,
    ⟨0xFBD3, ["\u06ad", "\u06ad", "\u06ad", "\u06ad", "\u06c7", "\u06c7", "\u06c6", "\u06c6",
      "\u06c8", "\u06c8", "\u06c7\u0674", "\u06cb", "\u06cb", "\u06c5", "\u06c5", "\u06c9",
      "\u06c9", "\u06d0", "\u06d0", "\u06d0", "\u06d0", "\u0649", "\u0649", "\u0626\u0627",
      "\u0626\u0627", "\u0626\u06d5", "\u0626\u06d5", "\u0626\u0648", "\u0626\u0648",
      "\u0626\u06c7", "\u0626\u06c7", "\u0626\u06c6", "\u0626\u06c6", "\u0626\u06c8",
      "\u0626\u06c8", "\u0626\u06d0", "\u0626\u06d0", "\u0626\u06d0", "\u0626\u0649",
      "\u0626\u0649", "\u0626\u0649", "\u06cc", "\u06cc", "\u06cc", "\u06cc"]⟩,
    ⟨0xFC00, ["\u0626\u062c", "\u0626\u062d", "\u0626\u0645", "\u0626\u0649", "\u0626\u064a",
      "\u0628\u062c", "\u0628\u062d", "\u0628\u062e", "\u0628\u0645", "\u0628\u0649",
      "\u0628\u064a", "\u062a\u062c", "\u062a\u062d", "\u062a\u062e", "\u062a\u0645",
      "\u062a\u0649", "\u062a\u064a", "\u062b\u062c", "\u062b\u0645", "\u062b\u0649",
      "\u062b\u064a", "\u062c\u062d", "\u062c\u0645", "\u062d\u062c", "\u062d\u0645",
      "\u062e\u062c", "\u062e\u062d", "\u062e\u0645", "\u0633\u062c", "\u0633\u062d",
      "\u0633\u062e", "\u0633\u0645", "\u0635\u062d", "\u0635\u0645", "\u0636\u062c",
      "\u0636\u062d", "\u0636\u062e", "\u0636\u0645", "\u0637\u062d", "\u0637\u0645",
      "\u0638\u0645", "\u0639\u062c", "\u0639\u0645", "\u063a\u062c", "\u063a\u0645",
      "\u0641\u062c", "\u0641\u062d", "\u0641\u062e", "\u0641\u0645", "\u0641\u0649",
      "\u0641\u064a", "\u0642\u062d", "\u0642\u0645", "\u0642\u0649", "\u0642\u064a",
      "\u0643\u0627", "\u0643\u062c", "\u0643\u062d", "\u0643\u062e", "\u0643\u0644",
      "\u0643\u0645", "\u0643\u0649", "\u0643\u064a", "\u0644\u062c"]⟩,
    ⟨0xFC40, ["\u0644\u062d", "\u0644\u062e", "\u0644\u0645", "\u0644\u0649", "\u0644\u064a",
      "\u0645\u062c", "\u0645\u062d", "\u0645\u062e", "\u0645\u0645", "\u0645\u0649",
      "\u0645\u064a", "\u0646\u062c", "\u0646\u062d", "\u0646\u062e", "\u0646\u0645",
      "\u0646\u0649", "\u0646\u064a", "\u0647\u062c", "\u0647\u0645", "\u0647\u0649",
      "\u0647\u064a", "\u064a\u062c", "\u064a\u062d", "\u064a\u062e", "\u064a\u0645",
      "\u064a\u0649", "\u064a\u064a", "\u0630\u0670", "\u0631\u0670", "\u0649\u0670",
      " \u064c\u0651", " \u064d\u0651", " \u064e\u0651", " \u064f\u0651", " \u0650\u0651",
      " \u0651\u0670", "\u0626\u0631", "\u0626\u0632", "\u0626\u0645", "\u0626\u0646",
      "\u0626\u0649", "\u0626\u064a", "\u0628\u0631", "\u0628\u0632", "\u0628\u0645",
      "\u0628\u0646", "\u0628\u0649", "\u0628\u064a", "\u062a\u0631", "\u062a\u0632",
      "\u062a\u0645", "\u062a\u0646", "\u062a\u0649", "\u062a\u064a", "\u062b\u0631",
      "\u062b\u0632", "\u062b\u0645", "\u062b\u0646", "\u062b\u0649", "\u062b\u064a",
      "\u0641\u0649", "\u0641\u064a", "\u0642\u0649", "\u0642\u064a"]⟩,
    ⟨0xFC80, ["\u0643\u0627", "\u0643\u0644", "\u0643\u0645", "\u0643\u0649", "\u0643\u064a",
      "\u0644\u0645", "\u0644\u0649", "\u0644\u064a", "\u0645\u0627", "\u0645\u0645",
      "\u0646\u0631", "\u0646\u0632", "\u0646\u0645", "\u0646\u0646", "\u0646\u0649",
      "\u0646\u064a", "\u0649\u0670", "\u064a\u0631", "\u064a\u0632", "\u064a\u0645",
      "\u064a\u0646", "\u064a\u0649", "\u064a\u064a", "\u0626\u062c", "\u0626\u062d",
      "\u0626\u062e", "\u0626\u0645", "\u0626\u0647", "\u0628\u062c", "\u0628\u062d",
      "\u0628\u062e", "\u0628\u0645", "\u0628\u0647", "\u062a\u062c", "\u062a\u062d",
      "\u062a\u062e", "\u062a\u0645", "\u062a\u0647", "\u062b\u0645", "\u062c\u062d",
      "\u062c\u0645", "\u062d\u062c", "\u062d\u0645", "\u062e\u062c", "\u062e\u0645",
      "\u0633\u062c", "\u0633\u062d", "\u0633\u062e", "\u0633\u0645", "\u0635\u062d",
      "\u0635\u062e", "\u0635\u0645", "\u0636\u062c", "\u0636\u062d", "\u0636\u062e",
      "\u0636\u0645", "\u0637\u062d", "\u0638\u0645", "\u0639\u062c", "\u0639\u0645",
      "\u063a\u062c", "\u063a\u0645", "\u0641\u062c", "\u0641\u062d"]⟩,
    ⟨0xFCC0, ["\u0641\u062e", "\u0641\u0645", "\u0642\u062d", "\u0642\u0645", "\u0643\u062c",
      "\u0643\u062d", "\u0643\u062e", "\u0643\u0644", "\u0643\u0645", "\u0644\u062c",
      "\u0644\u062d", "\u0644\u062e", "\u0644\u0645", "\u0644\u0647", "\u0645\u062c",
      "\u0645\u062d", "\u0645\u062e", "\u0645\u0645", "\u0646\u062c", "\u0646\u062d",
      "\u0646\u062e", "\u0646\u0645", "\u0646\u0647", "\u0647\u062c", "\u0647\u0645",
      "\u0647\u0670", "\u064a\u062c", "\u064a\u062d", "\u064a\u062e", "\u064a\u0645",
      "\u064a\u0647", "\u0626\u0645", "\u0626\u0647", "\u0628\u0645", "\u0628\u0647",
      "\u062a\u0645", "\u062a\u0647", "\u062b\u0645", "\u062b\u0647", "\u0633\u0645",
      "\u0633\u0647", "\u0634\u0645", "\u0634\u0647", "\u0643\u0644", "\u0643\u0645",
      "\u0644\u0645", "\u0646\u0645", "\u0646\u0647", "\u064a\u0645", "\u064a\u0647",
      "\u0640\u064e\u0651", "\u0640\u064f\u0651", "\u0640\u0650\u0651", "\u0637\u0649",
      "\u0637\u064a", "\u0639\u0649", "\u0639\u064a", "\u063a\u0649", "\u063a\u064a",
      "\u0633\u0649", "\u0633\u064a", "\u0634\u0649", "\u0634\u064a", "\u062d\u0649"]⟩,
    ⟨0xFD00, ["\u062d\u064a", "\u062c\u0649", "\u062c\u064a", "\u062e\u0649", "\u062e\u064a",
      "\u0635\u0649", "\u0635\u064a", "\u0636\u0649", "\u0636\u064a", "\u0634\u062c",
      "\u0634\u062d", "\u0634\u062e", "\u0634\u0645", "\u0634\u0631", "\u0633\u0631",
      "\u0635\u0631", "\u0636\u0631", "\u0637\u0649", "\u0637\u064a", "\u0639\u0649",
      "\u0639\u064a", "\u063a\u0649", "\u063a\u064a", "\u0633\u0649", "\u0633\u064a",
      "\u0634\u0649", "\u0634\u064a", "\u062d\u0649", "\u062d\u064a", "\u062c\u0649",
      "\u062c\u064a", "\u062e\u0649", "\u062e\u064a", "\u0635\u0649", "\u0635\u064a",
      "\u0636\u0649", "\u0636\u064a", "\u0634\u062c", "\u0634\u062d", "\u0634\u062e",
      "\u0634\u0645", "\u0634\u0631", "\u0633\u0631", "\u0635\u0631", "\u0636\u0631",
      "\u0634\u062c", "\u0634\u062d", "\u0634\u062e", "\u0634\u0645", "\u0633\u0647",
      "\u0634\u0647", "\u0637\u0645", "\u0633\u062c", "\u0633\u062d", "\u0633\u062e",
      "\u0634\u062c", "\u0634\u062d", "\u0634\u062e", "\u0637\u0645", "\u0638\u0645",
      "\u0627\u064b", "\u0627\u064b"]⟩,
    ⟨0xFD50, ["\u062a\u062c\u0645", "\u062a\u062d\u062c", "\u062a\u062d\u062c",
      "\u062a\u062d\u0645", "\u062a\u062e\u0645", "\u062a\u0645\u062c", "\u062a\u0645\u062d",
      "\u062a\u0645\u062e", "\u062c\u0645\u062d", "\u062c\u0645\u062d", "\u062d\u0645\u064a",
      "\u062d\u0645\u0649", "\u0633\u062d\u062c", "\u0633\u062c\u062d", "\u0633\u062c\u0649",
      "\u0633\u0645\u062d", "\u0633\u0645\u062d", "\u0633\u0645\u062c", "\u0633\u0645\u0645",
      "\u0633\u0645\u0645", "\u0635\u062d\u062d", "\u0635\u062d\u062d", "\u0635\u0645\u0645",
      "\u0634\u062d\u0645", "\u0634\u062d\u0645", "\u0634\u062c\u064a", "\u0634\u0645\u062e",
      "\u0634\u0645\u062e", "\u0634\u0645\u0645", "\u0634\u0645\u0645", "\u0636\u062d\u0649",
      "\u0636\u062e\u0645", "\u0636\u062e\u0645", "\u0637\u0645\u062d", "\u0637\u0645\u062d",
      "\u0637\u0645\u0645", "\u0637\u0645\u064a", "\u0639\u062c\u0645", "\u0639\u0645\u0645",
      "\u0639\u0645\u0645", "\u0639\u0645\u0649", "\u063a\u0645\u0645", "\u063a\u0645\u064a",
      "\u063a\u0645\u0649", "\u0641\u062e\u0645", "\u0641\u062e\u0645", "\u0642\u0645\u062d",
      "\u0642\u0645\u0645"]⟩,
    ⟨0xFD80, ["\u0644\u062d\u0645", "\u0644\u062d\u064a", "\u0644\u062d\u0649",
      "\u0644\u062c\u062c", "\u0644\u062c\u062c", "\u0644\u062e\u0645", "\u0644\u062e\u0645",
      "\u0644\u0645\u062d", "\u0644\u0645\u062d", "\u0645\u062d\u062c", "\u0645\u062d\u0645",
      "\u0645\u062d\u064a", "\u0645\u062c\u062d", "\u0645\u062c\u0645", "\u0645\u062e\u062c",
      "\u0645\u062e\u0645"]⟩,
    ⟨0xFD92, ["\u0645\u062c\u062e", "\u0647\u0645\u062c", "\u0647\u0645\u0645",
      "\u0646\u062d\u0645", "\u0646\u062d\u0649", "\u0646\u062c\u0645", "\u0646\u062c\u0645",
      "\u0646\u062c\u0649", "\u0646\u0645\u064a", "\u0646\u0645\u0649", "\u064a\u0645\u0645",
      "\u064a\u0645\u0645", "\u0628\u062e\u064a", "\u062a\u062c\u064a", "\u062a\u062c\u0649",
      "\u062a\u062e\u064a", "\u062a\u062e\u0649", "\u062a\u0645\u064a", "\u062a\u0645\u0649",
      "\u062c\u0645\u064a", "\u062c\u062d\u0649", "\u062c\u0645\u0649", "\u0633\u062e\u0649",
      "\u0635\u062d\u064a", "\u0634\u062d\u064a", "\u0636\u062d\u064a", "\u0644\u062c\u064a",
      "\u0644\u0645\u064a", "\u064a\u062d\u064a", "\u064a\u062c\u064a", "\u064a\u0645\u064a",
      "\u0645\u0645\u064a", "\u0642\u0645\u064a", "\u0646\u062d\u064a", "\u0642\u0645\u062d",
      "\u0644\u062d\u0645", "\u0639\u0645\u064a", "\u0643\u0645\u064a", "\u0646\u062c\u062d",
      "\u0645\u062e\u064a", "\u0644\u062c\u0645", "\u0643\u0645\u0645", "\u0644\u062c\u0645",
      "\u0646\u062c\u062d", "\u062c\u062d\u064a", "\u062d\u062c\u064a"]⟩,
    ⟨0xFDC0, ["\u0645\u062c\u064a", "\u0641\u0645\u064a", "\u0628\u062d\u064a",
      "\u0643\u0645\u0645", "\u0639\u062c\u0645", "\u0635\u0645\u0645", "\u0633\u062e\u064a",
      "\u0646\u062c\u064a"]⟩,
    ⟨0xFDF0, ["\u0635\u0644\u06d2", "\u0642\u0644\u06d2", "\u0627\u0644\u0644\u0647",
      "\u0627\u0643\u0628\u0631", "\u0645\u062d\u0645\u062f", "\u0635\u0644\u0639\u0645",
      "\u0631\u0633\u0648\u0644", "\u0639\u0644\u064a\u0647", "\u0648\u0633\u0644\u0645",
      "\u0635\u0644\u0649",
      "\u0635\u0644\u0649 \u0627\u0644\u0644\u0647 \u0639\u0644\u064a\u0647 \u0648\u0633\u0644\u0645",
      "\u062c\u0644 \u062c\u0644\u0627\u0644\u0647", "\u0631\u06cc\u0627\u0644"]⟩,
    ⟨0xFE10, [",", "、"]⟩, ⟨0xFE15, ["!", "?"]⟩, ⟨0xFE31, ["—", "–", "_", "_"]⟩,
    ⟨0xFE37, ["\x7b", "\x7d"]⟩,
    ⟨0xFE47, ["[", "]", " \u0305", " \u0305", " \u0305", " \u0305", "_", "_", "_", ",", "、"]⟩,
    ⟨0xFE54, [";", ":", "?", "!", "—"]⟩, ⟨0xFE5B, ["\x7b", "\x7d"]⟩, ⟨0xFE5F, ["#", "&"]⟩,
    ⟨0xFE63, ["-", "<", ">", "="]⟩, ⟨0xFE68, ["\\"]⟩, ⟨0xFE6B, ["@"]⟩,
    ⟨0xFE70, [" \u064b", "\u0640\u064b", " \u064c"]⟩, ⟨0xFE74, [" \u064d"]⟩,
    ⟨0xFE76, [" \u064e", "\u0640\u064e", " \u064f", "\u0640\u064f", " \u0650", "\u0640\u0650",
      " \u0651", "\u0640\u0651", " \u0652", "\u0640\u0652"]⟩,
    ⟨0xFE8A, ["\u0626", "\u0626"]⟩, ⟨0xFE90, ["\u0628", "\u0628"]⟩, ⟨0xFE96, ["\u062a", "\u062a"]⟩,
    ⟨0xFE9A, ["\u062b", "\u062b"]⟩, ⟨0xFE9E, ["\u062c", "\u062c"]⟩, ⟨0xFEA2, ["\u062d", "\u062d"]⟩,
    ⟨0xFEA6, ["\u062e", "\u062e"]⟩, ⟨0xFEB2, ["\u0633", "\u0633"]⟩, ⟨0xFEB6, ["\u0634", "\u0634"]⟩,
    ⟨0xFEBA, ["\u0635", "\u0635"]⟩, ⟨0xFEBE, ["\u0636", "\u0636"]⟩, ⟨0xFEC2, ["\u0637", "\u0637"]⟩,
    ⟨0xFEC6, ["\u0638", "\u0638"]⟩, ⟨0xFECA, ["\u0639", "\u0639"]⟩,
    ⟨0xFECE, ["\u063a", "\u063a", "\u063a", "\u0641", "\u0641", "\u0641"]⟩,
    ⟨0xFED6, ["\u0642", "\u0642"]⟩, ⟨0xFEDA, ["\u0643", "\u0643"]⟩, ⟨0xFEDE, ["\u0644", "\u0644"]⟩,
    ⟨0xFEE2, ["\u0645", "\u0645"]⟩, ⟨0xFEE6, ["\u0646", "\u0646"]⟩, ⟨0xFEEA, ["\u0647", "\u0647"]⟩,
    ⟨0xFEF2, ["\u064a", "\u064a", "\u064a", "\u0644\u0622", "\u0644\u0622", "\u0644\u0623",
      "\u0644\u0623", "\u0644\u0625", "\u0644\u0625", "\u0644\u0627", "\u0644\u0627"]⟩,
    ⟨0xFF61, ["."]⟩,
    ⟨0xFF64, ["、", "・", "ヲ", "ァ", "ィ", "ゥ", "ェ", "ォ", "ャ", "ュ", "ョ", "ッ", "ー", "ア", "イ", "ウ",
      "エ"]⟩,
    ⟨0xFF77, ["キ", "ク", "ケ", "コ", "サ", "シ", "ス", "セ", "ソ"]⟩, ⟨0xFF80, ["タ", "チ", "ツ", "テ", "ト"]⟩,
    ⟨0xFF8B, ["ヒ", "フ", "ヘ", "ホ"]⟩, ⟨0xFF94, ["ヤ", "ユ"]⟩, ⟨0xFF9C, ["ワ", "ン"]⟩,
    ⟨0xFFA3, ["ᆪ", "ᄂ"]⟩, ⟨0xFFB0, ["ᄚ"]⟩, ⟨0xFFB4, ["ᄡ"]⟩,
    ⟨0xFFE2, ["¬", " \u0304", "¦", "¥", "₩"]⟩, ⟨0xFFE8, ["│"]⟩, ⟨0xFFED, ["■", "○"]⟩]

/-- Plain forms of letters in mathematics and of letters in boxes. -/
def mathematicalForms : List FormRun :=
  [⟨0x10783, ["æ", "ʙ", "ɓ"]⟩, ⟨0x10787, ["ʣ", "ꭦ", "ʥ", "ʤ"]⟩,
    ⟨0x1078D, ["ᶑ", "ɘ", "ɞ", "ʩ", "ɤ", "ɢ", "ɠ", "ʛ", "ħ", "ʜ", "ɧ", "ʄ"]⟩,
    ⟨0x1079B, ["ɬ", "𝼄", "ꞎ", "ɮ", "𝼅", "ʎ", "𝼆", "ø"]⟩, ⟨0x107A5, ["q", "ɺ", "𝼈"]⟩,
    ⟨0x107AA, ["ʀ", "ʨ", "ʦ", "ꭧ", "ʧ", "ʈ", "ⱱ"]⟩, ⟨0x107B2, ["ʏ"]⟩, ⟨0x107B5, ["ʘ"]⟩,
    ⟨0x107B9, ["𝼊", "𝼞"]⟩, ⟨0x1D15E, ["𝅗𝅥", "𝅘𝅥", "𝅘𝅥𝅮", "𝅘𝅥𝅯", "𝅘𝅥𝅰", "𝅘𝅥𝅱", "𝅘𝅥𝅲"]⟩,
    ⟨0x1D1BB, ["𝆹𝅥", "𝆺𝅥", "𝆹𝅥𝅮", "𝆺𝅥𝅮", "𝆹𝅥𝅯"]⟩, ⟨0x1D1C0, ["𝆺𝅥𝅯"]⟩, ⟨0x1D49F, ["d"]⟩,
    ⟨0x1D4A2, ["g"]⟩, ⟨0x1D546, ["o"]⟩, ⟨0x1D6A4, ["ı", "ȷ"]⟩, ⟨0x1D6B9, ["θ"]⟩, ⟨0x1D6C1, ["∇"]⟩,
    ⟨0x1D6D3, ["σ"]⟩, ⟨0x1D6DB, ["∂", "ε", "θ", "κ", "φ", "ρ", "π"]⟩, ⟨0x1D6F3, ["θ"]⟩,
    ⟨0x1D6FB, ["∇"]⟩, ⟨0x1D70D, ["σ"]⟩, ⟨0x1D715, ["∂", "ε", "θ", "κ", "φ", "ρ", "π"]⟩,
    ⟨0x1D72D, ["θ"]⟩, ⟨0x1D735, ["∇"]⟩, ⟨0x1D747, ["σ"]⟩,
    ⟨0x1D74F, ["∂", "ε", "θ", "κ", "φ", "ρ", "π"]⟩, ⟨0x1D767, ["θ"]⟩, ⟨0x1D76F, ["∇"]⟩,
    ⟨0x1D781, ["σ"]⟩, ⟨0x1D789, ["∂", "ε", "θ", "κ", "φ", "ρ", "π"]⟩, ⟨0x1D7A1, ["θ"]⟩,
    ⟨0x1D7A9, ["∇"]⟩, ⟨0x1D7BB, ["σ"]⟩, ⟨0x1D7C3, ["∂", "ε", "θ", "κ", "φ", "ρ", "π", "ϝ", "ϝ"]⟩,
    ⟨0x1E047, ["ы"]⟩, ⟨0x1E04A, ["ꚉ", "ә", "і", "ј", "ө", "ү", "ӏ"]⟩, ⟨0x1E05E, ["с"]⟩,
    ⟨0x1E067, ["ґ", "і", "ѕ", "џ", "ҫ", "ꙑ", "ұ"]⟩, ⟨0x1EE02, ["\u062c", "\u062f"]⟩,
    ⟨0x1EE05, ["\u0648", "\u0632", "\u062d", "\u0637", "\u064a"]⟩,
    ⟨0x1EE0E, ["\u0633", "\u0639", "\u0641", "\u0635", "\u0642", "\u0631", "\u0634"]⟩,
    ⟨0x1EE17, ["\u062e", "\u0630", "\u0636", "\u0638", "\u063a", "\u066e", "\u06ba", "\u06a1",
      "\u066f"]⟩,
    ⟨0x1EE21, ["\u0628", "\u062c"]⟩, ⟨0x1EE24, ["\u0647"]⟩, ⟨0x1EE27, ["\u062d"]⟩,
    ⟨0x1EE29, ["\u064a"]⟩, ⟨0x1EE2E, ["\u0633", "\u0639", "\u0641", "\u0635", "\u0642"]⟩,
    ⟨0x1EE34, ["\u0634"]⟩, ⟨0x1EE37, ["\u062e"]⟩, ⟨0x1EE39, ["\u0636"]⟩, ⟨0x1EE3B, ["\u063a"]⟩,
    ⟨0x1EE42, ["\u062c"]⟩, ⟨0x1EE47, ["\u062d"]⟩, ⟨0x1EE49, ["\u064a"]⟩,
    ⟨0x1EE4E, ["\u0633", "\u0639"]⟩, ⟨0x1EE51, ["\u0635", "\u0642"]⟩, ⟨0x1EE54, ["\u0634"]⟩,
    ⟨0x1EE57, ["\u062e"]⟩, ⟨0x1EE59, ["\u0636"]⟩, ⟨0x1EE5B, ["\u063a"]⟩, ⟨0x1EE5D, ["\u06ba"]⟩,
    ⟨0x1EE5F, ["\u066f"]⟩, ⟨0x1EE61, ["\u0628", "\u062c"]⟩, ⟨0x1EE64, ["\u0647"]⟩,
    ⟨0x1EE67, ["\u062d", "\u0637", "\u064a"]⟩,
    ⟨0x1EE6D, ["\u0646", "\u0633", "\u0639", "\u0641", "\u0635", "\u0642"]⟩, ⟨0x1EE74, ["\u0634"]⟩,
    ⟨0x1EE77, ["\u062e"]⟩, ⟨0x1EE79, ["\u0636", "\u0638", "\u063a", "\u066e"]⟩,
    ⟨0x1EE7E, ["\u06a1"]⟩, ⟨0x1EE82, ["\u062c", "\u062f"]⟩,
    ⟨0x1EE86, ["\u0632", "\u062d", "\u0637", "\u064a"]⟩,
    ⟨0x1EE8E, ["\u0633", "\u0639", "\u0641", "\u0635", "\u0642", "\u0631", "\u0634"]⟩,
    ⟨0x1EE97, ["\u062e", "\u0630", "\u0636", "\u0638", "\u063a"]⟩,
    ⟨0x1EEA1, ["\u0628", "\u062c", "\u062f"]⟩,
    ⟨0x1EEA5, ["\u0648", "\u0632", "\u062d", "\u0637", "\u064a"]⟩,
    ⟨0x1EEAE, ["\u0633", "\u0639", "\u0641", "\u0635", "\u0642", "\u0631", "\u0634"]⟩,
    ⟨0x1EEB7, ["\u062e", "\u0630", "\u0636", "\u0638", "\u063a"]⟩,
    ⟨0x1F101, ["0,", "1,", "2,", "3,", "4,", "5,", "6,", "7,", "8,", "9,"]⟩,
    ⟨0x1F110, ["(a)", "(b)", "(c)", "(d)", "(e)", "(f)", "(g)", "(h)", "(i)", "(j)", "(k)",
      "(l)", "(m)", "(n)", "(o)", "(p)", "(q)", "(r)", "(s)", "(t)", "(u)", "(v)", "(w)", "(x)",
      "(y)", "(z)", "〔s〕", "c", "r", "cd", "wz"]⟩,
    ⟨0x1F14A, ["hv", "mv", "sd", "ss", "ppv", "wc"]⟩, ⟨0x1F16A, ["mc", "md", "mr"]⟩,
    ⟨0x1F190, ["dj"]⟩, ⟨0x1F200, ["ほか", "ココ", "サ"]⟩,
    ⟨0x1F210, ["手", "字", "双", "デ", "二", "多", "解", "天", "交", "映", "無", "料", "前", "後", "再", "新",
      "初", "終", "生", "販", "声", "吹", "演", "投", "捕", "一", "三", "遊", "左", "中", "右", "指", "走", "打",
      "禁", "空", "合", "満", "有", "月", "申", "割", "営", "配"]⟩,
    ⟨0x1F240, ["〔本〕", "〔三〕", "〔二〕", "〔安〕", "〔点〕", "〔打〕", "〔盗〕", "〔勝〕", "〔敗〕"]⟩,
    ⟨0x1F250, ["得", "可"]⟩]

/-- Plain forms of ideographs in a later plane. -/
def variantForms : List FormRun :=
  [⟨0x2F800, ["丽", "丸", "乁", "𠄢", "你", "侮", "侻", "倂", "偺", "備", "僧", "像", "㒞", "𠘺", "免", "兔",
      "兤", "具", "𠔜", "㒹", "內", "再", "𠕋", "冗", "冤", "仌", "冬", "况", "𩇟", "凵", "刃", "㓟", "刻", "剆",
      "割", "剷", "㔕", "勇", "勉", "勤", "勺"]⟩,
    ⟨0x2F82B, ["北", "卉", "卑", "博", "即", "卽", "卿", "卿", "卿", "𠨬", "灰", "及", "叟", "𠭣", "叫", "叱",
      "吆", "咞", "吸", "呈", "周"]⟩,
    ⟨0x2F840, ["咢", "哶", "唐", "啓", "啣", "善", "善", "喙", "喫", "喳", "嗂", "圖", "嘆", "圗", "噑", "噴",
      "切", "壮", "城", "埴", "堍", "型", "堲", "報", "墬", "𡓤", "売", "壷", "夆", "多", "夢", "奢", "𡚨", "𡛪",
      "姬", "娛", "娧", "姘", "婦", "㛮", "㛼", "嬈", "嬾", "嬾", "𡧈", "寃", "寘", "寧", "寳", "𡬘", "寿", "将",
      "当", "尢", "㞁", "屠", "屮", "峀", "岍", "𡷤", "嵃", "𡷦", "嵮", "嵫"]⟩,
    ⟨0x2F880, ["嵼"]⟩,
    ⟨0x2F883, ["㠯", "巽", "帨", "帽", "幩", "㡢", "𢆃", "㡼", "庰", "庳", "庶", "廊", "𪎒", "廾", "𢌱", "𢌱",
      "舁", "弢", "弢", "㣇", "𣊸", "𦇚", "形", "彫", "㣣", "徚", "忍", "志", "忹", "悁", "㤺", "㤜", "悔", "𢛔",
      "惇", "慈", "慌", "慎", "慌", "慺", "憎", "憲", "憤", "憯", "懞", "懲", "懶", "成", "戛", "扝", "抱", "拔",
      "捐", "𢬌", "挽", "拼", "捨", "掃", "揤", "𢯱", "搢"]⟩,
    ⟨0x2F8C0, ["揅", "掩", "㨮", "摩", "摾", "撝", "摷", "㩬", "敏", "敬", "𣀊", "旣", "書", "晉", "㬙", "暑",
      "㬈", "㫤", "冒", "冕", "最", "暜", "肭", "䏙", "朗", "望", "朡", "杞", "杓", "𣏃", "㭉", "柺", "枅", "桒",
      "梅", "𣑭", "梎", "栟", "椔", "㮝", "楂", "榣", "槪", "檨", "𣚣", "櫛", "㰘", "次", "𣢧", "歔", "㱎", "歲",
      "殟"]⟩,
    ⟨0x2F8F7, ["𣪍", "𡴋", "𣫺", "汎", "𣲼", "沿", "泍", "汧", "洖"]⟩,
    ⟨0x2F900, ["派", "海", "流", "浩", "浸", "涅", "𣴞", "洴", "港", "湮", "㴳", "滋", "滇", "𣻑", "淹", "潮",
      "𣽞", "𣾎", "濆", "瀹", "瀞", "瀛", "㶖", "灊", "災", "灷", "炭", "𠔥", "煅", "𤉣", "熜", "𤎫", "爨", "爵",
      "牐", "𤘈", "犀", "犕", "𤜵", "𤠔", "獺", "王", "㺬", "玥", "㺸", "㺸", "瑇", "瑜", "瑱", "璅", "瓊", "㼛",
      "甤", "𤰶", "甾", "𤲒", "異", "𢆟", "瘐", "𤾡", "𤾸", "𥁄", "㿼", "䀈"]⟩,
    ⟨0x2F940, ["直", "𥃳", "𥃲", "𥄙", "𥄳"]⟩,
    ⟨0x2F947, ["真", "睊", "䀹", "瞋", "䁆", "䂖", "𥐝", "硎", "碌", "磌", "䃣", "𥘦", "祖", "𥚚", "𥛅", "福",
      "秫", "䄯", "穀", "穊", "穏", "𥥼", "𥪧", "𥪧", "竮", "䈂", "𥮫", "篆", "築", "䈧", "𥲀", "糒", "䊠", "糨",
      "糣", "紀", "𥾆", "絣", "䌁", "緇", "縂", "繅", "䌴", "𦈨", "𦉇", "䍙", "𦋙", "罺", "𦌾", "羕", "翺", "者",
      "𦓚", "𦔣", "聠", "𦖨", "聰"]⟩,
    ⟨0x2F980, ["𣍟", "䏕", "育", "脃", "䐋", "脾", "媵", "𦞧", "𦞵", "𣎓", "𣎜", "舁", "舄", "辞", "䑫", "芑",
      "芋", "芝", "劳", "花", "芳", "芽", "苦", "𦬼", "若", "茝", "荣", "莭", "茣", "莽", "菧", "著", "荓", "菊",
      "菌", "菜", "𦰶", "𦵫", "𦳕", "䔫", "蓱", "蓳", "蔖", "𧏊", "蕤", "𦼬", "䕝", "䕡", "𦾱", "𧃒", "䕫", "虐",
      "虜", "虧", "虩", "蚩", "蚈", "蜎", "蛢", "蝹", "蜨", "蝫", "螆", "䗗"]⟩,
    ⟨0x2F9C0, ["蟡", "蠁", "䗹", "衠", "衣", "𧙧", "裗", "裞", "䘵", "裺", "㒻", "𧢮", "𧥦", "䚾", "䛇", "誠",
      "諭", "變", "豕", "𧲨", "貫", "賁", "贛", "起", "𧼯", "𠠄", "跋", "趼", "跰", "𠣞", "軔", "輸", "𨗒", "𨗭",
      "邔", "郱", "鄑", "𨜮", "鄛", "鈸"]⟩,
    ⟨0x2F9EA, ["鉼", "鏹", "鐕", "𨯺", "開", "䦕", "閷", "𨵷", "䧦", "雃", "嶲", "霣", "𩅅", "𩈚", "䩮", "䩶",
      "韠", "𩐊", "䪲", "𩒖", "頋", "頋"]⟩,
    ⟨0x2FA00, ["頩", "𩖶", "飢", "䬳", "餩", "馧", "駂", "駾", "䯎", "𩬰", "鬒", "鱀", "鳽", "䳎", "䳭", "鵧",
      "𪃎", "䳸", "𪄅", "𪈎", "𪊑", "麻", "䵖", "黹", "黾", "鼅", "鼏", "鼖", "鼻", "𪘀"]⟩]

/-- Characters that are replaced by texts. -/
def forms : List FormRun :=
  letterForms ++ radicalForms ++ squareForms ++ ideographForms ++ presentationForms ++
    mathematicalForms ++ variantForms

end ChannelMux.Domain
