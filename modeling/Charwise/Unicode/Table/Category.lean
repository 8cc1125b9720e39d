import Charwise.Unicode.CodeTable
import Charwise.Unicode.GeneralCategory

/-!
# General categories

The general category of every code point, as of Unicode 15.0. An entry holds from its code point up
to the next entry.
-/

set_option maxRecDepth 100000

namespace Charwise.Unicode.Table

/-- The general category of each code point. -/
def category : CodeMap GeneralCategory where
  outside := .unassigned
  entries := #[
    (0x0000, .control), (0x0020, .spaceSeparator), (0x0021, .otherPunctuation),
    (0x0024, .currencySymbol), (0x0025, .otherPunctuation), (0x0028, .openPunctuation),
    (0x0029, .closePunctuation), (0x002A, .otherPunctuation), (0x002B, .mathSymbol),
    (0x002C, .otherPunctuation), (0x002D, .dashPunctuation), (0x002E, .otherPunctuation),
    (0x0030, .decimalNumber), (0x003A, .otherPunctuation), (0x003C, .mathSymbol),
    (0x003F, .otherPunctuation), (0x0041, .uppercaseLetter), (0x005B, .openPunctuation),
    (0x005C, .otherPunctuation), (0x005D, .closePunctuation), (0x005E, .modifierSymbol),
    (0x005F, .connectorPunctuation), (0x0060, .modifierSymbol), (0x0061, .lowercaseLetter),
    (0x007B, .openPunctuation), (0x007C, .mathSymbol), (0x007D, .closePunctuation),
    (0x007E, .mathSymbol), (0x007F, .control), (0x00A0, .spaceSeparator),
    (0x00A1, .otherPunctuation), (0x00A2, .currencySymbol), (0x00A6, .otherSymbol),
    (0x00A7, .otherPunctuation), (0x00A8, .modifierSymbol), (0x00A9, .otherSymbol),
    (0x00AA, .otherLetter), (0x00AB, .initialPunctuation), (0x00AC, .mathSymbol),
    (0x00AD, .format), (0x00AE, .otherSymbol), (0x00AF, .modifierSymbol), (0x00B0, .otherSymbol),
    (0x00B1, .mathSymbol), (0x00B2, .otherNumber), (0x00B4, .modifierSymbol),
    (0x00B5, .lowercaseLetter), (0x00B6, .otherPunctuation), (0x00B8, .modifierSymbol),
    (0x00B9, .otherNumber), (0x00BA, .otherLetter), (0x00BB, .finalPunctuation),
    (0x00BC, .otherNumber), (0x00BF, .otherPunctuation), (0x00C0, .uppercaseLetter),
    (0x00D7, .mathSymbol), (0x00D8, .uppercaseLetter), (0x00DF, .lowercaseLetter),
    (0x00F7, .mathSymbol), (0x00F8, .lowercaseLetter), (0x0100, .uppercaseLetter),
    (0x0101, .lowercaseLetter), (0x0102, .uppercaseLetter), (0x0103, .lowercaseLetter),
    (0x0104, .uppercaseLetter), (0x0105, .lowercaseLetter), (0x0106, .uppercaseLetter),
    (0x0107, .lowercaseLetter), (0x0108, .uppercaseLetter), (0x0109, .lowercaseLetter),
    (0x010A, .uppercaseLetter), (0x010B, .lowercaseLetter), (0x010C, .uppercaseLetter),
    (0x010D, .lowercaseLetter), (0x010E, .uppercaseLetter), (0x010F, .lowercaseLetter),
    (0x0110, .uppercaseLetter), (0x0111, .lowercaseLetter), (0x0112, .uppercaseLetter),
    (0x0113, .lowercaseLetter), (0x0114, .uppercaseLetter), (0x0115, .lowercaseLetter),
    (0x0116, .uppercaseLetter), (0x0117, .lowercaseLetter), (0x0118, .uppercaseLetter),
    (0x0119, .lowercaseLetter), (0x011A, .uppercaseLetter), (0x011B, .lowercaseLetter),
    (0x011C, .uppercaseLetter), (0x011D, .lowercaseLetter), (0x011E, .uppercaseLetter),
    (0x011F, .lowercaseLetter), (0x0120, .uppercaseLetter), (0x0121, .lowercaseLetter),
    (0x0122, .uppercaseLetter), (0x0123, .lowercaseLetter), (0x0124, .uppercaseLetter),
    (0x0125, .lowercaseLetter), (0x0126, .uppercaseLetter), (0x0127, .lowercaseLetter),
    (0x0128, .uppercaseLetter), (0x0129, .lowercaseLetter), (0x012A, .uppercaseLetter),
    (0x012B, .lowercaseLetter), (0x012C, .uppercaseLetter), (0x012D, .lowercaseLetter),
    (0x012E, .uppercaseLetter), (0x012F, .lowercaseLetter), (0x0130, .uppercaseLetter),
    (0x0131, .lowercaseLetter), (0x0132, .uppercaseLetter), (0x0133, .lowercaseLetter),
    (0x0134, .uppercaseLetter), (0x0135, .lowercaseLetter), (0x0136, .uppercaseLetter),
    (0x0137, .lowercaseLetter), (0x0139, .uppercaseLetter), (0x013A, .lowercaseLetter),
    (0x013B, .uppercaseLetter), (0x013C, .lowercaseLetter), (0x013D, .uppercaseLetter),
    (0x013E, .lowercaseLetter), (0x013F, .uppercaseLetter), (0x0140, .lowercaseLetter),
    (0x0141, .uppercaseLetter), (0x0142, .lowercaseLetter), (0x0143, .uppercaseLetter),
    (0x0144, .lowercaseLetter), (0x0145, .uppercaseLetter), (0x0146, .lowercaseLetter),
    (0x0147, .uppercaseLetter), (0x0148, .lowercaseLetter), (0x014A, .uppercaseLetter),
    (0x014B, .lowercaseLetter), (0x014C, .uppercaseLetter), (0x014D, .lowercaseLetter),
    (0x014E, .uppercaseLetter), (0x014F, .lowercaseLetter), (0x0150, .uppercaseLetter),
    (0x0151, .lowercaseLetter), (0x0152, .uppercaseLetter), (0x0153, .lowercaseLetter),
    (0x0154, .uppercaseLetter), (0x0155, .lowercaseLetter), (0x0156, .uppercaseLetter),
    (0x0157, .lowercaseLetter), (0x0158, .uppercaseLetter), (0x0159, .lowercaseLetter),
    (0x015A, .uppercaseLetter), (0x015B, .lowercaseLetter), (0x015C, .uppercaseLetter),
    (0x015D, .lowercaseLetter), (0x015E, .uppercaseLetter), (0x015F, .lowercaseLetter),
    (0x0160, .uppercaseLetter), (0x0161, .lowercaseLetter), (0x0162, .uppercaseLetter),
    (0x0163, .lowercaseLetter), (0x0164, .uppercaseLetter), (0x0165, .lowercaseLetter),
    (0x0166, .uppercaseLetter), (0x0167, .lowercaseLetter), (0x0168, .uppercaseLetter),
    (0x0169, .lowercaseLetter), (0x016A, .uppercaseLetter), (0x016B, .lowercaseLetter),
    (0x016C, .uppercaseLetter), (0x016D, .lowercaseLetter), (0x016E, .uppercaseLetter),
    (0x016F, .lowercaseLetter), (0x0170, .uppercaseLetter), (0x0171, .lowercaseLetter),
    (0x0172, .uppercaseLetter), (0x0173, .lowercaseLetter), (0x0174, .uppercaseLetter),
    (0x0175, .lowercaseLetter), (0x0176, .uppercaseLetter), (0x0177, .lowercaseLetter),
    (0x0178, .uppercaseLetter), (0x017A, .lowercaseLetter), (0x017B, .uppercaseLetter),
    (0x017C, .lowercaseLetter), (0x017D, .uppercaseLetter), (0x017E, .lowercaseLetter),
    (0x0181, .uppercaseLetter), (0x0183, .lowercaseLetter), (0x0184, .uppercaseLetter),
    (0x0185, .lowercaseLetter), (0x0186, .uppercaseLetter), (0x0188, .lowercaseLetter),
    (0x0189, .uppercaseLetter), (0x018C, .lowercaseLetter), (0x018E, .uppercaseLetter),
    (0x0192, .lowercaseLetter), (0x0193, .uppercaseLetter), (0x0195, .lowercaseLetter),
    (0x0196, .uppercaseLetter), (0x0199, .lowercaseLetter), (0x019C, .uppercaseLetter),
    (0x019E, .lowercaseLetter), (0x019F, .uppercaseLetter), (0x01A1, .lowercaseLetter),
    (0x01A2, .uppercaseLetter), (0x01A3, .lowercaseLetter), (0x01A4, .uppercaseLetter),
    (0x01A5, .lowercaseLetter), (0x01A6, .uppercaseLetter), (0x01A8, .lowercaseLetter),
    (0x01A9, .uppercaseLetter), (0x01AA, .lowercaseLetter), (0x01AC, .uppercaseLetter),
    (0x01AD, .lowercaseLetter), (0x01AE, .uppercaseLetter), (0x01B0, .lowercaseLetter),
    (0x01B1, .uppercaseLetter), (0x01B4, .lowercaseLetter), (0x01B5, .uppercaseLetter),
    (0x01B6, .lowercaseLetter), (0x01B7, .uppercaseLetter), (0x01B9, .lowercaseLetter),
    (0x01BB, .otherLetter), (0x01BC, .uppercaseLetter), (0x01BD, .lowercaseLetter),
    (0x01C0, .otherLetter), (0x01C4, .uppercaseLetter), (0x01C5, .titlecaseLetter),
    (0x01C6, .lowercaseLetter), (0x01C7, .uppercaseLetter), (0x01C8, .titlecaseLetter),
    (0x01C9, .lowercaseLetter), (0x01CA, .uppercaseLetter), (0x01CB, .titlecaseLetter),
    (0x01CC, .lowercaseLetter), (0x01CD, .uppercaseLetter), (0x01CE, .lowercaseLetter),
    (0x01CF, .uppercaseLetter), (0x01D0, .lowercaseLetter), (0x01D1, .uppercaseLetter),
    (0x01D2, .lowercaseLetter), (0x01D3, .uppercaseLetter), (0x01D4, .lowercaseLetter),
    (0x01D5, .uppercaseLetter), (0x01D6, .lowercaseLetter), (0x01D7, .uppercaseLetter),
    (0x01D8, .lowercaseLetter), (0x01D9, .uppercaseLetter), (0x01DA, .lowercaseLetter),
    (0x01DB, .uppercaseLetter), (0x01DC, .lowercaseLetter), (0x01DE, .uppercaseLetter),
    (0x01DF, .lowercaseLetter), (0x01E0, .uppercaseLetter), (0x01E1, .lowercaseLetter),
    (0x01E2, .uppercaseLetter), (0x01E3, .lowercaseLetter), (0x01E4, .uppercaseLetter),
    (0x01E5, .lowercaseLetter), (0x01E6, .uppercaseLetter), (0x01E7, .lowercaseLetter),
    (0x01E8, .uppercaseLetter), (0x01E9, .lowercaseLetter), (0x01EA, .uppercaseLetter),
    (0x01EB, .lowercaseLetter), (0x01EC, .uppercaseLetter), (0x01ED, .lowercaseLetter),
    (0x01EE, .uppercaseLetter), (0x01EF, .lowercaseLetter), (0x01F1, .uppercaseLetter),
    (0x01F2, .titlecaseLetter), (0x01F3, .lowercaseLetter), (0x01F4, .uppercaseLetter),
    (0x01F5, .lowercaseLetter), (0x01F6, .uppercaseLetter), (0x01F9, .lowercaseLetter),
    (0x01FA, .uppercaseLetter), (0x01FB, .lowercaseLetter), (0x01FC, .uppercaseLetter),
    (0x01FD, .lowercaseLetter), (0x01FE, .uppercaseLetter), (0x01FF, .lowercaseLetter),
    (0x0200, .uppercaseLetter), (0x0201, .lowercaseLetter), (0x0202, .uppercaseLetter),
    (0x0203, .lowercaseLetter), (0x0204, .uppercaseLetter), (0x0205, .lowercaseLetter),
    (0x0206, .uppercaseLetter), (0x0207, .lowercaseLetter), (0x0208, .uppercaseLetter),
    (0x0209, .lowercaseLetter), (0x020A, .uppercaseLetter), (0x020B, .lowercaseLetter),
    (0x020C, .uppercaseLetter), (0x020D, .lowercaseLetter), (0x020E, .uppercaseLetter),
    (0x020F, .lowercaseLetter), (0x0210, .uppercaseLetter), (0x0211, .lowercaseLetter),
    (0x0212, .uppercaseLetter), (0x0213, .lowercaseLetter), (0x0214, .uppercaseLetter),
    (0x0215, .lowercaseLetter), (0x0216, .uppercaseLetter), (0x0217, .lowercaseLetter),
    (0x0218, .uppercaseLetter), (0x0219, .lowercaseLetter), (0x021A, .uppercaseLetter),
    (0x021B, .lowercaseLetter), (0x021C, .uppercaseLetter), (0x021D, .lowercaseLetter),
    (0x021E, .uppercaseLetter), (0x021F, .lowercaseLetter), (0x0220, .uppercaseLetter),
    (0x0221, .lowercaseLetter), (0x0222, .uppercaseLetter), (0x0223, .lowercaseLetter),
    (0x0224, .uppercaseLetter), (0x0225, .lowercaseLetter), (0x0226, .uppercaseLetter),
    (0x0227, .lowercaseLetter), (0x0228, .uppercaseLetter), (0x0229, .lowercaseLetter),
    (0x022A, .uppercaseLetter), (0x022B, .lowercaseLetter), (0x022C, .uppercaseLetter),
    (0x022D, .lowercaseLetter), (0x022E, .uppercaseLetter), (0x022F, .lowercaseLetter),
    (0x0230, .uppercaseLetter), (0x0231, .lowercaseLetter), (0x0232, .uppercaseLetter),
    (0x0233, .lowercaseLetter), (0x023A, .uppercaseLetter), (0x023C, .lowercaseLetter),
    (0x023D, .uppercaseLetter), (0x023F, .lowercaseLetter), (0x0241, .uppercaseLetter),
    (0x0242, .lowercaseLetter), (0x0243, .uppercaseLetter), (0x0247, .lowercaseLetter),
    (0x0248, .uppercaseLetter), (0x0249, .lowercaseLetter), (0x024A, .uppercaseLetter),
    (0x024B, .lowercaseLetter), (0x024C, .uppercaseLetter), (0x024D, .lowercaseLetter),
    (0x024E, .uppercaseLetter), (0x024F, .lowercaseLetter), (0x0294, .otherLetter),
    (0x0295, .lowercaseLetter), (0x02B0, .modifierLetter), (0x02C2, .modifierSymbol),
    (0x02C6, .modifierLetter), (0x02D2, .modifierSymbol), (0x02E0, .modifierLetter),
    (0x02E5, .modifierSymbol), (0x02EC, .modifierLetter), (0x02ED, .modifierSymbol),
    (0x02EE, .modifierLetter), (0x02EF, .modifierSymbol), (0x0300, .nonspacingMark),
    (0x0370, .uppercaseLetter), (0x0371, .lowercaseLetter), (0x0372, .uppercaseLetter),
    (0x0373, .lowercaseLetter), (0x0374, .modifierLetter), (0x0375, .modifierSymbol),
    (0x0376, .uppercaseLetter), (0x0377, .lowercaseLetter), (0x0378, .unassigned),
    (0x037A, .modifierLetter), (0x037B, .lowercaseLetter), (0x037E, .otherPunctuation),
    (0x037F, .uppercaseLetter), (0x0380, .unassigned), (0x0384, .modifierSymbol),
    (0x0386, .uppercaseLetter), (0x0387, .otherPunctuation), (0x0388, .uppercaseLetter),
    (0x038B, .unassigned), (0x038C, .uppercaseLetter), (0x038D, .unassigned),
    (0x038E, .uppercaseLetter), (0x0390, .lowercaseLetter), (0x0391, .uppercaseLetter),
    (0x03A2, .unassigned), (0x03A3, .uppercaseLetter), (0x03AC, .lowercaseLetter),
    (0x03CF, .uppercaseLetter), (0x03D0, .lowercaseLetter), (0x03D2, .uppercaseLetter),
    (0x03D5, .lowercaseLetter), (0x03D8, .uppercaseLetter), (0x03D9, .lowercaseLetter),
    (0x03DA, .uppercaseLetter), (0x03DB, .lowercaseLetter), (0x03DC, .uppercaseLetter),
    (0x03DD, .lowercaseLetter), (0x03DE, .uppercaseLetter), (0x03DF, .lowercaseLetter),
    (0x03E0, .uppercaseLetter), (0x03E1, .lowercaseLetter), (0x03E2, .uppercaseLetter),
    (0x03E3, .lowercaseLetter), (0x03E4, .uppercaseLetter), (0x03E5, .lowercaseLetter),
    (0x03E6, .uppercaseLetter), (0x03E7, .lowercaseLetter), (0x03E8, .uppercaseLetter),
    (0x03E9, .lowercaseLetter), (0x03EA, .uppercaseLetter), (0x03EB, .lowercaseLetter),
    (0x03EC, .uppercaseLetter), (0x03ED, .lowercaseLetter), (0x03EE, .uppercaseLetter),
    (0x03EF, .lowercaseLetter), (0x03F4, .uppercaseLetter), (0x03F5, .lowercaseLetter),
    (0x03F6, .mathSymbol), (0x03F7, .uppercaseLetter), (0x03F8, .lowercaseLetter),
    (0x03F9, .uppercaseLetter), (0x03FB, .lowercaseLetter), (0x03FD, .uppercaseLetter),
    (0x0430, .lowercaseLetter), (0x0460, .uppercaseLetter), (0x0461, .lowercaseLetter),
    (0x0462, .uppercaseLetter), (0x0463, .lowercaseLetter), (0x0464, .uppercaseLetter),
    (0x0465, .lowercaseLetter), (0x0466, .uppercaseLetter), (0x0467, .lowercaseLetter),
    (0x0468, .uppercaseLetter), (0x0469, .lowercaseLetter), (0x046A, .uppercaseLetter),
    (0x046B, .lowercaseLetter), (0x046C, .uppercaseLetter), (0x046D, .lowercaseLetter),
    (0x046E, .uppercaseLetter), (0x046F, .lowercaseLetter), (0x0470, .uppercaseLetter),
    (0x0471, .lowercaseLetter), (0x0472, .uppercaseLetter), (0x0473, .lowercaseLetter),
    (0x0474, .uppercaseLetter), (0x0475, .lowercaseLetter), (0x0476, .uppercaseLetter),
    (0x0477, .lowercaseLetter), (0x0478, .uppercaseLetter), (0x0479, .lowercaseLetter),
    (0x047A, .uppercaseLetter), (0x047B, .lowercaseLetter), (0x047C, .uppercaseLetter),
    (0x047D, .lowercaseLetter), (0x047E, .uppercaseLetter), (0x047F, .lowercaseLetter),
    (0x0480, .uppercaseLetter), (0x0481, .lowercaseLetter), (0x0482, .otherSymbol),
    (0x0483, .nonspacingMark), (0x0488, .enclosingMark), (0x048A, .uppercaseLetter),
    (0x048B, .lowercaseLetter), (0x048C, .uppercaseLetter), (0x048D, .lowercaseLetter),
    (0x048E, .uppercaseLetter), (0x048F, .lowercaseLetter), (0x0490, .uppercaseLetter),
    (0x0491, .lowercaseLetter), (0x0492, .uppercaseLetter), (0x0493, .lowercaseLetter),
    (0x0494, .uppercaseLetter), (0x0495, .lowercaseLetter), (0x0496, .uppercaseLetter),
    (0x0497, .lowercaseLetter), (0x0498, .uppercaseLetter), (0x0499, .lowercaseLetter),
    (0x049A, .uppercaseLetter), (0x049B, .lowercaseLetter), (0x049C, .uppercaseLetter),
    (0x049D, .lowercaseLetter), (0x049E, .uppercaseLetter), (0x049F, .lowercaseLetter),
    (0x04A0, .uppercaseLetter), (0x04A1, .lowercaseLetter), (0x04A2, .uppercaseLetter),
    (0x04A3, .lowercaseLetter), (0x04A4, .uppercaseLetter), (0x04A5, .lowercaseLetter),
    (0x04A6, .uppercaseLetter), (0x04A7, .lowercaseLetter), (0x04A8, .uppercaseLetter),
    (0x04A9, .lowercaseLetter), (0x04AA, .uppercaseLetter), (0x04AB, .lowercaseLetter),
    (0x04AC, .uppercaseLetter), (0x04AD, .lowercaseLetter), (0x04AE, .uppercaseLetter),
    (0x04AF, .lowercaseLetter), (0x04B0, .uppercaseLetter), (0x04B1, .lowercaseLetter),
    (0x04B2, .uppercaseLetter), (0x04B3, .lowercaseLetter), (0x04B4, .uppercaseLetter),
    (0x04B5, .lowercaseLetter), (0x04B6, .uppercaseLetter), (0x04B7, .lowercaseLetter),
    (0x04B8, .uppercaseLetter), (0x04B9, .lowercaseLetter), (0x04BA, .uppercaseLetter),
    (0x04BB, .lowercaseLetter), (0x04BC, .uppercaseLetter), (0x04BD, .lowercaseLetter),
    (0x04BE, .uppercaseLetter), (0x04BF, .lowercaseLetter), (0x04C0, .uppercaseLetter),
    (0x04C2, .lowercaseLetter), (0x04C3, .uppercaseLetter), (0x04C4, .lowercaseLetter),
    (0x04C5, .uppercaseLetter), (0x04C6, .lowercaseLetter), (0x04C7, .uppercaseLetter),
    (0x04C8, .lowercaseLetter), (0x04C9, .uppercaseLetter), (0x04CA, .lowercaseLetter),
    (0x04CB, .uppercaseLetter), (0x04CC, .lowercaseLetter), (0x04CD, .uppercaseLetter),
    (0x04CE, .lowercaseLetter), (0x04D0, .uppercaseLetter), (0x04D1, .lowercaseLetter),
    (0x04D2, .uppercaseLetter), (0x04D3, .lowercaseLetter), (0x04D4, .uppercaseLetter),
    (0x04D5, .lowercaseLetter), (0x04D6, .uppercaseLetter), (0x04D7, .lowercaseLetter),
    (0x04D8, .uppercaseLetter), (0x04D9, .lowercaseLetter), (0x04DA, .uppercaseLetter),
    (0x04DB, .lowercaseLetter), (0x04DC, .uppercaseLetter), (0x04DD, .lowercaseLetter),
    (0x04DE, .uppercaseLetter), (0x04DF, .lowercaseLetter), (0x04E0, .uppercaseLetter),
    (0x04E1, .lowercaseLetter), (0x04E2, .uppercaseLetter), (0x04E3, .lowercaseLetter),
    (0x04E4, .uppercaseLetter), (0x04E5, .lowercaseLetter), (0x04E6, .uppercaseLetter),
    (0x04E7, .lowercaseLetter), (0x04E8, .uppercaseLetter), (0x04E9, .lowercaseLetter),
    (0x04EA, .uppercaseLetter), (0x04EB, .lowercaseLetter), (0x04EC, .uppercaseLetter),
    (0x04ED, .lowercaseLetter), (0x04EE, .uppercaseLetter), (0x04EF, .lowercaseLetter),
    (0x04F0, .uppercaseLetter), (0x04F1, .lowercaseLetter), (0x04F2, .uppercaseLetter),
    (0x04F3, .lowercaseLetter), (0x04F4, .uppercaseLetter), (0x04F5, .lowercaseLetter),
    (0x04F6, .uppercaseLetter), (0x04F7, .lowercaseLetter), (0x04F8, .uppercaseLetter),
    (0x04F9, .lowercaseLetter), (0x04FA, .uppercaseLetter), (0x04FB, .lowercaseLetter),
    (0x04FC, .uppercaseLetter), (0x04FD, .lowercaseLetter), (0x04FE, .uppercaseLetter),
    (0x04FF, .lowercaseLetter), (0x0500, .uppercaseLetter), (0x0501, .lowercaseLetter),
    (0x0502, .uppercaseLetter), (0x0503, .lowercaseLetter), (0x0504, .uppercaseLetter),
    (0x0505, .lowercaseLetter), (0x0506, .uppercaseLetter), (0x0507, .lowercaseLetter),
    (0x0508, .uppercaseLetter), (0x0509, .lowercaseLetter), (0x050A, .uppercaseLetter),
    (0x050B, .lowercaseLetter), (0x050C, .uppercaseLetter), (0x050D, .lowercaseLetter),
    (0x050E, .uppercaseLetter), (0x050F, .lowercaseLetter), (0x0510, .uppercaseLetter),
    (0x0511, .lowercaseLetter), (0x0512, .uppercaseLetter), (0x0513, .lowercaseLetter),
    (0x0514, .uppercaseLetter), (0x0515, .lowercaseLetter), (0x0516, .uppercaseLetter),
    (0x0517, .lowercaseLetter), (0x0518, .uppercaseLetter), (0x0519, .lowercaseLetter),
    (0x051A, .uppercaseLetter), (0x051B, .lowercaseLetter), (0x051C, .uppercaseLetter),
    (0x051D, .lowercaseLetter), (0x051E, .uppercaseLetter), (0x051F, .lowercaseLetter),
    (0x0520, .uppercaseLetter), (0x0521, .lowercaseLetter), (0x0522, .uppercaseLetter),
    (0x0523, .lowercaseLetter), (0x0524, .uppercaseLetter), (0x0525, .lowercaseLetter),
    (0x0526, .uppercaseLetter), (0x0527, .lowercaseLetter), (0x0528, .uppercaseLetter),
    (0x0529, .lowercaseLetter), (0x052A, .uppercaseLetter), (0x052B, .lowercaseLetter),
    (0x052C, .uppercaseLetter), (0x052D, .lowercaseLetter), (0x052E, .uppercaseLetter),
    (0x052F, .lowercaseLetter), (0x0530, .unassigned), (0x0531, .uppercaseLetter),
    (0x0557, .unassigned), (0x0559, .modifierLetter), (0x055A, .otherPunctuation),
    (0x0560, .lowercaseLetter), (0x0589, .otherPunctuation), (0x058A, .dashPunctuation),
    (0x058B, .unassigned), (0x058D, .otherSymbol), (0x058F, .currencySymbol),
    (0x0590, .unassigned), (0x0591, .nonspacingMark), (0x05BE, .dashPunctuation),
    (0x05BF, .nonspacingMark), (0x05C0, .otherPunctuation), (0x05C1, .nonspacingMark),
    (0x05C3, .otherPunctuation), (0x05C4, .nonspacingMark), (0x05C6, .otherPunctuation),
    (0x05C7, .nonspacingMark), (0x05C8, .unassigned), (0x05D0, .otherLetter),
    (0x05EB, .unassigned), (0x05EF, .otherLetter), (0x05F3, .otherPunctuation),
    (0x05F5, .unassigned), (0x0600, .format), (0x0606, .mathSymbol), (0x0609, .otherPunctuation),
    (0x060B, .currencySymbol), (0x060C, .otherPunctuation), (0x060E, .otherSymbol),
    (0x0610, .nonspacingMark), (0x061B, .otherPunctuation), (0x061C, .format),
    (0x061D, .otherPunctuation), (0x0620, .otherLetter), (0x0640, .modifierLetter),
    (0x0641, .otherLetter), (0x064B, .nonspacingMark), (0x0660, .decimalNumber),
    (0x066A, .otherPunctuation), (0x066E, .otherLetter), (0x0670, .nonspacingMark),
    (0x0671, .otherLetter), (0x06D4, .otherPunctuation), (0x06D5, .otherLetter),
    (0x06D6, .nonspacingMark), (0x06DD, .format), (0x06DE, .otherSymbol),
    (0x06DF, .nonspacingMark), (0x06E5, .modifierLetter), (0x06E7, .nonspacingMark),
    (0x06E9, .otherSymbol), (0x06EA, .nonspacingMark), (0x06EE, .otherLetter),
    (0x06F0, .decimalNumber), (0x06FA, .otherLetter), (0x06FD, .otherSymbol),
    (0x06FF, .otherLetter), (0x0700, .otherPunctuation), (0x070E, .unassigned),
    (0x070F, .format), (0x0710, .otherLetter), (0x0711, .nonspacingMark), (0x0712, .otherLetter),
    (0x0730, .nonspacingMark), (0x074B, .unassigned), (0x074D, .otherLetter),
    (0x07A6, .nonspacingMark), (0x07B1, .otherLetter), (0x07B2, .unassigned),
    (0x07C0, .decimalNumber), (0x07CA, .otherLetter), (0x07EB, .nonspacingMark),
    (0x07F4, .modifierLetter), (0x07F6, .otherSymbol), (0x07F7, .otherPunctuation),
    (0x07FA, .modifierLetter), (0x07FB, .unassigned), (0x07FD, .nonspacingMark),
    (0x07FE, .currencySymbol), (0x0800, .otherLetter), (0x0816, .nonspacingMark),
    (0x081A, .modifierLetter), (0x081B, .nonspacingMark), (0x0824, .modifierLetter),
    (0x0825, .nonspacingMark), (0x0828, .modifierLetter), (0x0829, .nonspacingMark),
    (0x082E, .unassigned), (0x0830, .otherPunctuation), (0x083F, .unassigned),
    (0x0840, .otherLetter), (0x0859, .nonspacingMark), (0x085C, .unassigned),
    (0x085E, .otherPunctuation), (0x085F, .unassigned), (0x0860, .otherLetter),
    (0x086B, .unassigned), (0x0870, .otherLetter), (0x0888, .modifierSymbol),
    (0x0889, .otherLetter), (0x088F, .unassigned), (0x0890, .format), (0x0892, .unassigned),
    (0x0898, .nonspacingMark), (0x08A0, .otherLetter), (0x08C9, .modifierLetter),
    (0x08CA, .nonspacingMark), (0x08E2, .format), (0x08E3, .nonspacingMark),
    (0x0903, .spacingMark), (0x0904, .otherLetter), (0x093A, .nonspacingMark),
    (0x093B, .spacingMark), (0x093C, .nonspacingMark), (0x093D, .otherLetter),
    (0x093E, .spacingMark), (0x0941, .nonspacingMark), (0x0949, .spacingMark),
    (0x094D, .nonspacingMark), (0x094E, .spacingMark), (0x0950, .otherLetter),
    (0x0951, .nonspacingMark), (0x0958, .otherLetter), (0x0962, .nonspacingMark),
    (0x0964, .otherPunctuation), (0x0966, .decimalNumber), (0x0970, .otherPunctuation),
    (0x0971, .modifierLetter), (0x0972, .otherLetter), (0x0981, .nonspacingMark),
    (0x0982, .spacingMark), (0x0984, .unassigned), (0x0985, .otherLetter), (0x098D, .unassigned),
    (0x098F, .otherLetter), (0x0991, .unassigned), (0x0993, .otherLetter), (0x09A9, .unassigned),
    (0x09AA, .otherLetter), (0x09B1, .unassigned), (0x09B2, .otherLetter), (0x09B3, .unassigned),
    (0x09B6, .otherLetter), (0x09BA, .unassigned), (0x09BC, .nonspacingMark),
    (0x09BD, .otherLetter), (0x09BE, .spacingMark), (0x09C1, .nonspacingMark),
    (0x09C5, .unassigned), (0x09C7, .spacingMark), (0x09C9, .unassigned), (0x09CB, .spacingMark),
    (0x09CD, .nonspacingMark), (0x09CE, .otherLetter), (0x09CF, .unassigned),
    (0x09D7, .spacingMark), (0x09D8, .unassigned), (0x09DC, .otherLetter), (0x09DE, .unassigned),
    (0x09DF, .otherLetter), (0x09E2, .nonspacingMark), (0x09E4, .unassigned),
    (0x09E6, .decimalNumber), (0x09F0, .otherLetter), (0x09F2, .currencySymbol),
    (0x09F4, .otherNumber), (0x09FA, .otherSymbol), (0x09FB, .currencySymbol),
    (0x09FC, .otherLetter), (0x09FD, .otherPunctuation), (0x09FE, .nonspacingMark),
    (0x09FF, .unassigned), (0x0A01, .nonspacingMark), (0x0A03, .spacingMark),
    (0x0A04, .unassigned), (0x0A05, .otherLetter), (0x0A0B, .unassigned), (0x0A0F, .otherLetter),
    (0x0A11, .unassigned), (0x0A13, .otherLetter), (0x0A29, .unassigned), (0x0A2A, .otherLetter),
    (0x0A31, .unassigned), (0x0A32, .otherLetter), (0x0A34, .unassigned), (0x0A35, .otherLetter),
    (0x0A37, .unassigned), (0x0A38, .otherLetter), (0x0A3A, .unassigned),
    (0x0A3C, .nonspacingMark), (0x0A3D, .unassigned), (0x0A3E, .spacingMark),
    (0x0A41, .nonspacingMark), (0x0A43, .unassigned), (0x0A47, .nonspacingMark),
    (0x0A49, .unassigned), (0x0A4B, .nonspacingMark), (0x0A4E, .unassigned),
    (0x0A51, .nonspacingMark), (0x0A52, .unassigned), (0x0A59, .otherLetter),
    (0x0A5D, .unassigned), (0x0A5E, .otherLetter), (0x0A5F, .unassigned),
    (0x0A66, .decimalNumber), (0x0A70, .nonspacingMark), (0x0A72, .otherLetter),
    (0x0A75, .nonspacingMark), (0x0A76, .otherPunctuation), (0x0A77, .unassigned),
    (0x0A81, .nonspacingMark), (0x0A83, .spacingMark), (0x0A84, .unassigned),
    (0x0A85, .otherLetter), (0x0A8E, .unassigned), (0x0A8F, .otherLetter), (0x0A92, .unassigned),
    (0x0A93, .otherLetter), (0x0AA9, .unassigned), (0x0AAA, .otherLetter), (0x0AB1, .unassigned),
    (0x0AB2, .otherLetter), (0x0AB4, .unassigned), (0x0AB5, .otherLetter), (0x0ABA, .unassigned),
    (0x0ABC, .nonspacingMark), (0x0ABD, .otherLetter), (0x0ABE, .spacingMark),
    (0x0AC1, .nonspacingMark), (0x0AC6, .unassigned), (0x0AC7, .nonspacingMark),
    (0x0AC9, .spacingMark), (0x0ACA, .unassigned), (0x0ACB, .spacingMark),
    (0x0ACD, .nonspacingMark), (0x0ACE, .unassigned), (0x0AD0, .otherLetter),
    (0x0AD1, .unassigned), (0x0AE0, .otherLetter), (0x0AE2, .nonspacingMark),
    (0x0AE4, .unassigned), (0x0AE6, .decimalNumber), (0x0AF0, .otherPunctuation),
    (0x0AF1, .currencySymbol), (0x0AF2, .unassigned), (0x0AF9, .otherLetter),
    (0x0AFA, .nonspacingMark), (0x0B00, .unassigned), (0x0B01, .nonspacingMark),
    (0x0B02, .spacingMark), (0x0B04, .unassigned), (0x0B05, .otherLetter), (0x0B0D, .unassigned),
    (0x0B0F, .otherLetter), (0x0B11, .unassigned), (0x0B13, .otherLetter), (0x0B29, .unassigned),
    (0x0B2A, .otherLetter), (0x0B31, .unassigned), (0x0B32, .otherLetter), (0x0B34, .unassigned),
    (0x0B35, .otherLetter), (0x0B3A, .unassigned), (0x0B3C, .nonspacingMark),
    (0x0B3D, .otherLetter), (0x0B3E, .spacingMark), (0x0B3F, .nonspacingMark),
    (0x0B40, .spacingMark), (0x0B41, .nonspacingMark), (0x0B45, .unassigned),
    (0x0B47, .spacingMark), (0x0B49, .unassigned), (0x0B4B, .spacingMark),
    (0x0B4D, .nonspacingMark), (0x0B4E, .unassigned), (0x0B55, .nonspacingMark),
    (0x0B57, .spacingMark), (0x0B58, .unassigned), (0x0B5C, .otherLetter), (0x0B5E, .unassigned),
    (0x0B5F, .otherLetter), (0x0B62, .nonspacingMark), (0x0B64, .unassigned),
    (0x0B66, .decimalNumber), (0x0B70, .otherSymbol), (0x0B71, .otherLetter),
    (0x0B72, .otherNumber), (0x0B78, .unassigned), (0x0B82, .nonspacingMark),
    (0x0B83, .otherLetter), (0x0B84, .unassigned), (0x0B85, .otherLetter), (0x0B8B, .unassigned),
    (0x0B8E, .otherLetter), (0x0B91, .unassigned), (0x0B92, .otherLetter), (0x0B96, .unassigned),
    (0x0B99, .otherLetter), (0x0B9B, .unassigned), (0x0B9C, .otherLetter), (0x0B9D, .unassigned),
    (0x0B9E, .otherLetter), (0x0BA0, .unassigned), (0x0BA3, .otherLetter), (0x0BA5, .unassigned),
    (0x0BA8, .otherLetter), (0x0BAB, .unassigned), (0x0BAE, .otherLetter), (0x0BBA, .unassigned),
    (0x0BBE, .spacingMark), (0x0BC0, .nonspacingMark), (0x0BC1, .spacingMark),
    (0x0BC3, .unassigned), (0x0BC6, .spacingMark), (0x0BC9, .unassigned), (0x0BCA, .spacingMark),
    (0x0BCD, .nonspacingMark), (0x0BCE, .unassigned), (0x0BD0, .otherLetter),
    (0x0BD1, .unassigned), (0x0BD7, .spacingMark), (0x0BD8, .unassigned),
    (0x0BE6, .decimalNumber), (0x0BF0, .otherNumber), (0x0BF3, .otherSymbol),
    (0x0BF9, .currencySymbol), (0x0BFA, .otherSymbol), (0x0BFB, .unassigned),
    (0x0C00, .nonspacingMark), (0x0C01, .spacingMark), (0x0C04, .nonspacingMark),
    (0x0C05, .otherLetter), (0x0C0D, .unassigned), (0x0C0E, .otherLetter), (0x0C11, .unassigned),
    (0x0C12, .otherLetter), (0x0C29, .unassigned), (0x0C2A, .otherLetter), (0x0C3A, .unassigned),
    (0x0C3C, .nonspacingMark), (0x0C3D, .otherLetter), (0x0C3E, .nonspacingMark),
    (0x0C41, .spacingMark), (0x0C45, .unassigned), (0x0C46, .nonspacingMark),
    (0x0C49, .unassigned), (0x0C4A, .nonspacingMark), (0x0C4E, .unassigned),
    (0x0C55, .nonspacingMark), (0x0C57, .unassigned), (0x0C58, .otherLetter),
    (0x0C5B, .unassigned), (0x0C5D, .otherLetter), (0x0C5E, .unassigned), (0x0C60, .otherLetter),
    (0x0C62, .nonspacingMark), (0x0C64, .unassigned), (0x0C66, .decimalNumber),
    (0x0C70, .unassigned), (0x0C77, .otherPunctuation), (0x0C78, .otherNumber),
    (0x0C7F, .otherSymbol), (0x0C80, .otherLetter), (0x0C81, .nonspacingMark),
    (0x0C82, .spacingMark), (0x0C84, .otherPunctuation), (0x0C85, .otherLetter),
    (0x0C8D, .unassigned), (0x0C8E, .otherLetter), (0x0C91, .unassigned), (0x0C92, .otherLetter),
    (0x0CA9, .unassigned), (0x0CAA, .otherLetter), (0x0CB4, .unassigned), (0x0CB5, .otherLetter),
    (0x0CBA, .unassigned), (0x0CBC, .nonspacingMark), (0x0CBD, .otherLetter),
    (0x0CBE, .spacingMark), (0x0CBF, .nonspacingMark), (0x0CC0, .spacingMark),
    (0x0CC5, .unassigned), (0x0CC6, .nonspacingMark), (0x0CC7, .spacingMark),
    (0x0CC9, .unassigned), (0x0CCA, .spacingMark), (0x0CCC, .nonspacingMark),
    (0x0CCE, .unassigned), (0x0CD5, .spacingMark), (0x0CD7, .unassigned), (0x0CDD, .otherLetter),
    (0x0CDF, .unassigned), (0x0CE0, .otherLetter), (0x0CE2, .nonspacingMark),
    (0x0CE4, .unassigned), (0x0CE6, .decimalNumber), (0x0CF0, .unassigned),
    (0x0CF1, .otherLetter), (0x0CF3, .spacingMark), (0x0CF4, .unassigned),
    (0x0D00, .nonspacingMark), (0x0D02, .spacingMark), (0x0D04, .otherLetter),
    (0x0D0D, .unassigned), (0x0D0E, .otherLetter), (0x0D11, .unassigned), (0x0D12, .otherLetter),
    (0x0D3B, .nonspacingMark), (0x0D3D, .otherLetter), (0x0D3E, .spacingMark),
    (0x0D41, .nonspacingMark), (0x0D45, .unassigned), (0x0D46, .spacingMark),
    (0x0D49, .unassigned), (0x0D4A, .spacingMark), (0x0D4D, .nonspacingMark),
    (0x0D4E, .otherLetter), (0x0D4F, .otherSymbol), (0x0D50, .unassigned),
    (0x0D54, .otherLetter), (0x0D57, .spacingMark), (0x0D58, .otherNumber),
    (0x0D5F, .otherLetter), (0x0D62, .nonspacingMark), (0x0D64, .unassigned),
    (0x0D66, .decimalNumber), (0x0D70, .otherNumber), (0x0D79, .otherSymbol),
    (0x0D7A, .otherLetter), (0x0D80, .unassigned), (0x0D81, .nonspacingMark),
    (0x0D82, .spacingMark), (0x0D84, .unassigned), (0x0D85, .otherLetter), (0x0D97, .unassigned),
    (0x0D9A, .otherLetter), (0x0DB2, .unassigned), (0x0DB3, .otherLetter), (0x0DBC, .unassigned),
    (0x0DBD, .otherLetter), (0x0DBE, .unassigned), (0x0DC0, .otherLetter), (0x0DC7, .unassigned),
    (0x0DCA, .nonspacingMark), (0x0DCB, .unassigned), (0x0DCF, .spacingMark),
    (0x0DD2, .nonspacingMark), (0x0DD5, .unassigned), (0x0DD6, .nonspacingMark),
    (0x0DD7, .unassigned), (0x0DD8, .spacingMark), (0x0DE0, .unassigned),
    (0x0DE6, .decimalNumber), (0x0DF0, .unassigned), (0x0DF2, .spacingMark),
    (0x0DF4, .otherPunctuation), (0x0DF5, .unassigned), (0x0E01, .otherLetter),
    (0x0E31, .nonspacingMark), (0x0E32, .otherLetter), (0x0E34, .nonspacingMark),
    (0x0E3B, .unassigned), (0x0E3F, .currencySymbol), (0x0E40, .otherLetter),
    (0x0E46, .modifierLetter), (0x0E47, .nonspacingMark), (0x0E4F, .otherPunctuation),
    (0x0E50, .decimalNumber), (0x0E5A, .otherPunctuation), (0x0E5C, .unassigned),
    (0x0E81, .otherLetter), (0x0E83, .unassigned), (0x0E84, .otherLetter), (0x0E85, .unassigned),
    (0x0E86, .otherLetter), (0x0E8B, .unassigned), (0x0E8C, .otherLetter), (0x0EA4, .unassigned),
    (0x0EA5, .otherLetter), (0x0EA6, .unassigned), (0x0EA7, .otherLetter),
    (0x0EB1, .nonspacingMark), (0x0EB2, .otherLetter), (0x0EB4, .nonspacingMark),
    (0x0EBD, .otherLetter), (0x0EBE, .unassigned), (0x0EC0, .otherLetter), (0x0EC5, .unassigned),
    (0x0EC6, .modifierLetter), (0x0EC7, .unassigned), (0x0EC8, .nonspacingMark),
    (0x0ECF, .unassigned), (0x0ED0, .decimalNumber), (0x0EDA, .unassigned),
    (0x0EDC, .otherLetter), (0x0EE0, .unassigned), (0x0F00, .otherLetter),
    (0x0F01, .otherSymbol), (0x0F04, .otherPunctuation), (0x0F13, .otherSymbol),
    (0x0F14, .otherPunctuation), (0x0F15, .otherSymbol), (0x0F18, .nonspacingMark),
    (0x0F1A, .otherSymbol), (0x0F20, .decimalNumber), (0x0F2A, .otherNumber),
    (0x0F34, .otherSymbol), (0x0F35, .nonspacingMark), (0x0F36, .otherSymbol),
    (0x0F37, .nonspacingMark), (0x0F38, .otherSymbol), (0x0F39, .nonspacingMark),
    (0x0F3A, .openPunctuation), (0x0F3B, .closePunctuation), (0x0F3C, .openPunctuation),
    (0x0F3D, .closePunctuation), (0x0F3E, .spacingMark), (0x0F40, .otherLetter),
    (0x0F48, .unassigned), (0x0F49, .otherLetter), (0x0F6D, .unassigned),
    (0x0F71, .nonspacingMark), (0x0F7F, .spacingMark), (0x0F80, .nonspacingMark),
    (0x0F85, .otherPunctuation), (0x0F86, .nonspacingMark), (0x0F88, .otherLetter),
    (0x0F8D, .nonspacingMark), (0x0F98, .unassigned), (0x0F99, .nonspacingMark),
    (0x0FBD, .unassigned), (0x0FBE, .otherSymbol), (0x0FC6, .nonspacingMark),
    (0x0FC7, .otherSymbol), (0x0FCD, .unassigned), (0x0FCE, .otherSymbol),
    (0x0FD0, .otherPunctuation), (0x0FD5, .otherSymbol), (0x0FD9, .otherPunctuation),
    (0x0FDB, .unassigned), (0x1000, .otherLetter), (0x102B, .spacingMark),
    (0x102D, .nonspacingMark), (0x1031, .spacingMark), (0x1032, .nonspacingMark),
    (0x1038, .spacingMark), (0x1039, .nonspacingMark), (0x103B, .spacingMark),
    (0x103D, .nonspacingMark), (0x103F, .otherLetter), (0x1040, .decimalNumber),
    (0x104A, .otherPunctuation), (0x1050, .otherLetter), (0x1056, .spacingMark),
    (0x1058, .nonspacingMark), (0x105A, .otherLetter), (0x105E, .nonspacingMark),
    (0x1061, .otherLetter), (0x1062, .spacingMark), (0x1065, .otherLetter),
    (0x1067, .spacingMark), (0x106E, .otherLetter), (0x1071, .nonspacingMark),
    (0x1075, .otherLetter), (0x1082, .nonspacingMark), (0x1083, .spacingMark),
    (0x1085, .nonspacingMark), (0x1087, .spacingMark), (0x108D, .nonspacingMark),
    (0x108E, .otherLetter), (0x108F, .spacingMark), (0x1090, .decimalNumber),
    (0x109A, .spacingMark), (0x109D, .nonspacingMark), (0x109E, .otherSymbol),
    (0x10A0, .uppercaseLetter), (0x10C6, .unassigned), (0x10C7, .uppercaseLetter),
    (0x10C8, .unassigned), (0x10CD, .uppercaseLetter), (0x10CE, .unassigned),
    (0x10D0, .lowercaseLetter), (0x10FB, .otherPunctuation), (0x10FC, .modifierLetter),
    (0x10FD, .lowercaseLetter), (0x1100, .otherLetter), (0x1249, .unassigned),
    (0x124A, .otherLetter), (0x124E, .unassigned), (0x1250, .otherLetter), (0x1257, .unassigned),
    (0x1258, .otherLetter), (0x1259, .unassigned), (0x125A, .otherLetter), (0x125E, .unassigned),
    (0x1260, .otherLetter), (0x1289, .unassigned), (0x128A, .otherLetter), (0x128E, .unassigned),
    (0x1290, .otherLetter), (0x12B1, .unassigned), (0x12B2, .otherLetter), (0x12B6, .unassigned),
    (0x12B8, .otherLetter), (0x12BF, .unassigned), (0x12C0, .otherLetter), (0x12C1, .unassigned),
    (0x12C2, .otherLetter), (0x12C6, .unassigned), (0x12C8, .otherLetter), (0x12D7, .unassigned),
    (0x12D8, .otherLetter), (0x1311, .unassigned), (0x1312, .otherLetter), (0x1316, .unassigned),
    (0x1318, .otherLetter), (0x135B, .unassigned), (0x135D, .nonspacingMark),
    (0x1360, .otherPunctuation), (0x1369, .otherNumber), (0x137D, .unassigned),
    (0x1380, .otherLetter), (0x1390, .otherSymbol), (0x139A, .unassigned),
    (0x13A0, .uppercaseLetter), (0x13F6, .unassigned), (0x13F8, .lowercaseLetter),
    (0x13FE, .unassigned), (0x1400, .dashPunctuation), (0x1401, .otherLetter),
    (0x166D, .otherSymbol), (0x166E, .otherPunctuation), (0x166F, .otherLetter),
    (0x1680, .spaceSeparator), (0x1681, .otherLetter), (0x169B, .openPunctuation),
    (0x169C, .closePunctuation), (0x169D, .unassigned), (0x16A0, .otherLetter),
    (0x16EB, .otherPunctuation), (0x16EE, .letterNumber), (0x16F1, .otherLetter),
    (0x16F9, .unassigned), (0x1700, .otherLetter), (0x1712, .nonspacingMark),
    (0x1715, .spacingMark), (0x1716, .unassigned), (0x171F, .otherLetter),
    (0x1732, .nonspacingMark), (0x1734, .spacingMark), (0x1735, .otherPunctuation),
    (0x1737, .unassigned), (0x1740, .otherLetter), (0x1752, .nonspacingMark),
    (0x1754, .unassigned), (0x1760, .otherLetter), (0x176D, .unassigned), (0x176E, .otherLetter),
    (0x1771, .unassigned), (0x1772, .nonspacingMark), (0x1774, .unassigned),
    (0x1780, .otherLetter), (0x17B4, .nonspacingMark), (0x17B6, .spacingMark),
    (0x17B7, .nonspacingMark), (0x17BE, .spacingMark), (0x17C6, .nonspacingMark),
    (0x17C7, .spacingMark), (0x17C9, .nonspacingMark), (0x17D4, .otherPunctuation),
    (0x17D7, .modifierLetter), (0x17D8, .otherPunctuation), (0x17DB, .currencySymbol),
    (0x17DC, .otherLetter), (0x17DD, .nonspacingMark), (0x17DE, .unassigned),
    (0x17E0, .decimalNumber), (0x17EA, .unassigned), (0x17F0, .otherNumber),
    (0x17FA, .unassigned), (0x1800, .otherPunctuation), (0x1806, .dashPunctuation),
    (0x1807, .otherPunctuation), (0x180B, .nonspacingMark), (0x180E, .format),
    (0x180F, .nonspacingMark), (0x1810, .decimalNumber), (0x181A, .unassigned),
    (0x1820, .otherLetter), (0x1843, .modifierLetter), (0x1844, .otherLetter),
    (0x1879, .unassigned), (0x1880, .otherLetter), (0x1885, .nonspacingMark),
    (0x1887, .otherLetter), (0x18A9, .nonspacingMark), (0x18AA, .otherLetter),
    (0x18AB, .unassigned), (0x18B0, .otherLetter), (0x18F6, .unassigned), (0x1900, .otherLetter),
    (0x191F, .unassigned), (0x1920, .nonspacingMark), (0x1923, .spacingMark),
    (0x1927, .nonspacingMark), (0x1929, .spacingMark), (0x192C, .unassigned),
    (0x1930, .spacingMark), (0x1932, .nonspacingMark), (0x1933, .spacingMark),
    (0x1939, .nonspacingMark), (0x193C, .unassigned), (0x1940, .otherSymbol),
    (0x1941, .unassigned), (0x1944, .otherPunctuation), (0x1946, .decimalNumber),
    (0x1950, .otherLetter), (0x196E, .unassigned), (0x1970, .otherLetter), (0x1975, .unassigned),
    (0x1980, .otherLetter), (0x19AC, .unassigned), (0x19B0, .otherLetter), (0x19CA, .unassigned),
    (0x19D0, .decimalNumber), (0x19DA, .otherNumber), (0x19DB, .unassigned),
    (0x19DE, .otherSymbol), (0x1A00, .otherLetter), (0x1A17, .nonspacingMark),
    (0x1A19, .spacingMark), (0x1A1B, .nonspacingMark), (0x1A1C, .unassigned),
    (0x1A1E, .otherPunctuation), (0x1A20, .otherLetter), (0x1A55, .spacingMark),
    (0x1A56, .nonspacingMark), (0x1A57, .spacingMark), (0x1A58, .nonspacingMark),
    (0x1A5F, .unassigned), (0x1A60, .nonspacingMark), (0x1A61, .spacingMark),
    (0x1A62, .nonspacingMark), (0x1A63, .spacingMark), (0x1A65, .nonspacingMark),
    (0x1A6D, .spacingMark), (0x1A73, .nonspacingMark), (0x1A7D, .unassigned),
    (0x1A7F, .nonspacingMark), (0x1A80, .decimalNumber), (0x1A8A, .unassigned),
    (0x1A90, .decimalNumber), (0x1A9A, .unassigned), (0x1AA0, .otherPunctuation),
    (0x1AA7, .modifierLetter), (0x1AA8, .otherPunctuation), (0x1AAE, .unassigned),
    (0x1AB0, .nonspacingMark), (0x1ABE, .enclosingMark), (0x1ABF, .nonspacingMark),
    (0x1ACF, .unassigned), (0x1B00, .nonspacingMark), (0x1B04, .spacingMark),
    (0x1B05, .otherLetter), (0x1B34, .nonspacingMark), (0x1B35, .spacingMark),
    (0x1B36, .nonspacingMark), (0x1B3B, .spacingMark), (0x1B3C, .nonspacingMark),
    (0x1B3D, .spacingMark), (0x1B42, .nonspacingMark), (0x1B43, .spacingMark),
    (0x1B45, .otherLetter), (0x1B4D, .unassigned), (0x1B50, .decimalNumber),
    (0x1B5A, .otherPunctuation), (0x1B61, .otherSymbol), (0x1B6B, .nonspacingMark),
    (0x1B74, .otherSymbol), (0x1B7D, .otherPunctuation), (0x1B7F, .unassigned),
    (0x1B80, .nonspacingMark), (0x1B82, .spacingMark), (0x1B83, .otherLetter),
    (0x1BA1, .spacingMark), (0x1BA2, .nonspacingMark), (0x1BA6, .spacingMark),
    (0x1BA8, .nonspacingMark), (0x1BAA, .spacingMark), (0x1BAB, .nonspacingMark),
    (0x1BAE, .otherLetter), (0x1BB0, .decimalNumber), (0x1BBA, .otherLetter),
    (0x1BE6, .nonspacingMark), (0x1BE7, .spacingMark), (0x1BE8, .nonspacingMark),
    (0x1BEA, .spacingMark), (0x1BED, .nonspacingMark), (0x1BEE, .spacingMark),
    (0x1BEF, .nonspacingMark), (0x1BF2, .spacingMark), (0x1BF4, .unassigned),
    (0x1BFC, .otherPunctuation), (0x1C00, .otherLetter), (0x1C24, .spacingMark),
    (0x1C2C, .nonspacingMark), (0x1C34, .spacingMark), (0x1C36, .nonspacingMark),
    (0x1C38, .unassigned), (0x1C3B, .otherPunctuation), (0x1C40, .decimalNumber),
    (0x1C4A, .unassigned), (0x1C4D, .otherLetter), (0x1C50, .decimalNumber),
    (0x1C5A, .otherLetter), (0x1C78, .modifierLetter), (0x1C7E, .otherPunctuation),
    (0x1C80, .lowercaseLetter), (0x1C89, .unassigned), (0x1C90, .uppercaseLetter),
    (0x1CBB, .unassigned), (0x1CBD, .uppercaseLetter), (0x1CC0, .otherPunctuation),
    (0x1CC8, .unassigned), (0x1CD0, .nonspacingMark), (0x1CD3, .otherPunctuation),
    (0x1CD4, .nonspacingMark), (0x1CE1, .spacingMark), (0x1CE2, .nonspacingMark),
    (0x1CE9, .otherLetter), (0x1CED, .nonspacingMark), (0x1CEE, .otherLetter),
    (0x1CF4, .nonspacingMark), (0x1CF5, .otherLetter), (0x1CF7, .spacingMark),
    (0x1CF8, .nonspacingMark), (0x1CFA, .otherLetter), (0x1CFB, .unassigned),
    (0x1D00, .lowercaseLetter), (0x1D2C, .modifierLetter), (0x1D6B, .lowercaseLetter),
    (0x1D78, .modifierLetter), (0x1D79, .lowercaseLetter), (0x1D9B, .modifierLetter),
    (0x1DC0, .nonspacingMark), (0x1E00, .uppercaseLetter), (0x1E01, .lowercaseLetter),
    (0x1E02, .uppercaseLetter), (0x1E03, .lowercaseLetter), (0x1E04, .uppercaseLetter),
    (0x1E05, .lowercaseLetter), (0x1E06, .uppercaseLetter), (0x1E07, .lowercaseLetter),
    (0x1E08, .uppercaseLetter), (0x1E09, .lowercaseLetter), (0x1E0A, .uppercaseLetter),
    (0x1E0B, .lowercaseLetter), (0x1E0C, .uppercaseLetter), (0x1E0D, .lowercaseLetter),
    (0x1E0E, .uppercaseLetter), (0x1E0F, .lowercaseLetter), (0x1E10, .uppercaseLetter),
    (0x1E11, .lowercaseLetter), (0x1E12, .uppercaseLetter), (0x1E13, .lowercaseLetter),
    (0x1E14, .uppercaseLetter), (0x1E15, .lowercaseLetter), (0x1E16, .uppercaseLetter),
    (0x1E17, .lowercaseLetter), (0x1E18, .uppercaseLetter), (0x1E19, .lowercaseLetter),
    (0x1E1A, .uppercaseLetter), (0x1E1B, .lowercaseLetter), (0x1E1C, .uppercaseLetter),
    (0x1E1D, .lowercaseLetter), (0x1E1E, .uppercaseLetter), (0x1E1F, .lowercaseLetter),
    (0x1E20, .uppercaseLetter), (0x1E21, .lowercaseLetter), (0x1E22, .uppercaseLetter),
    (0x1E23, .lowercaseLetter), (0x1E24, .uppercaseLetter), (0x1E25, .lowercaseLetter),
    (0x1E26, .uppercaseLetter), (0x1E27, .lowercaseLetter), (0x1E28, .uppercaseLetter),
    (0x1E29, .lowercaseLetter), (0x1E2A, .uppercaseLetter), (0x1E2B, .lowercaseLetter),
    (0x1E2C, .uppercaseLetter), (0x1E2D, .lowercaseLetter), (0x1E2E, .uppercaseLetter),
    (0x1E2F, .lowercaseLetter), (0x1E30, .uppercaseLetter), (0x1E31, .lowercaseLetter),
    (0x1E32, .uppercaseLetter), (0x1E33, .lowercaseLetter), (0x1E34, .uppercaseLetter),
    (0x1E35, .lowercaseLetter), (0x1E36, .uppercaseLetter), (0x1E37, .lowercaseLetter),
    (0x1E38, .uppercaseLetter), (0x1E39, .lowercaseLetter), (0x1E3A, .uppercaseLetter),
    (0x1E3B, .lowercaseLetter), (0x1E3C, .uppercaseLetter), (0x1E3D, .lowercaseLetter),
    (0x1E3E, .uppercaseLetter), (0x1E3F, .lowercaseLetter), (0x1E40, .uppercaseLetter),
    (0x1E41, .lowercaseLetter), (0x1E42, .uppercaseLetter), (0x1E43, .lowercaseLetter),
    (0x1E44, .uppercaseLetter), (0x1E45, .lowercaseLetter), (0x1E46, .uppercaseLetter),
    (0x1E47, .lowercaseLetter), (0x1E48, .uppercaseLetter), (0x1E49, .lowercaseLetter),
    (0x1E4A, .uppercaseLetter), (0x1E4B, .lowercaseLetter), (0x1E4C, .uppercaseLetter),
    (0x1E4D, .lowercaseLetter), (0x1E4E, .uppercaseLetter), (0x1E4F, .lowercaseLetter),
    (0x1E50, .uppercaseLetter), (0x1E51, .lowercaseLetter), (0x1E52, .uppercaseLetter),
    (0x1E53, .lowercaseLetter), (0x1E54, .uppercaseLetter), (0x1E55, .lowercaseLetter),
    (0x1E56, .uppercaseLetter), (0x1E57, .lowercaseLetter), (0x1E58, .uppercaseLetter),
    (0x1E59, .lowercaseLetter), (0x1E5A, .uppercaseLetter), (0x1E5B, .lowercaseLetter),
    (0x1E5C, .uppercaseLetter), (0x1E5D, .lowercaseLetter), (0x1E5E, .uppercaseLetter),
    (0x1E5F, .lowercaseLetter), (0x1E60, .uppercaseLetter), (0x1E61, .lowercaseLetter),
    (0x1E62, .uppercaseLetter), (0x1E63, .lowercaseLetter), (0x1E64, .uppercaseLetter),
    (0x1E65, .lowercaseLetter), (0x1E66, .uppercaseLetter), (0x1E67, .lowercaseLetter),
    (0x1E68, .uppercaseLetter), (0x1E69, .lowercaseLetter), (0x1E6A, .uppercaseLetter),
    (0x1E6B, .lowercaseLetter), (0x1E6C, .uppercaseLetter), (0x1E6D, .lowercaseLetter),
    (0x1E6E, .uppercaseLetter), (0x1E6F, .lowercaseLetter), (0x1E70, .uppercaseLetter),
    (0x1E71, .lowercaseLetter), (0x1E72, .uppercaseLetter), (0x1E73, .lowercaseLetter),
    (0x1E74, .uppercaseLetter), (0x1E75, .lowercaseLetter), (0x1E76, .uppercaseLetter),
    (0x1E77, .lowercaseLetter), (0x1E78, .uppercaseLetter), (0x1E79, .lowercaseLetter),
    (0x1E7A, .uppercaseLetter), (0x1E7B, .lowercaseLetter), (0x1E7C, .uppercaseLetter),
    (0x1E7D, .lowercaseLetter), (0x1E7E, .uppercaseLetter), (0x1E7F, .lowercaseLetter),
    (0x1E80, .uppercaseLetter), (0x1E81, .lowercaseLetter), (0x1E82, .uppercaseLetter),
    (0x1E83, .lowercaseLetter), (0x1E84, .uppercaseLetter), (0x1E85, .lowercaseLetter),
    (0x1E86, .uppercaseLetter), (0x1E87, .lowercaseLetter), (0x1E88, .uppercaseLetter),
    (0x1E89, .lowercaseLetter), (0x1E8A, .uppercaseLetter), (0x1E8B, .lowercaseLetter),
    (0x1E8C, .uppercaseLetter), (0x1E8D, .lowercaseLetter), (0x1E8E, .uppercaseLetter),
    (0x1E8F, .lowercaseLetter), (0x1E90, .uppercaseLetter), (0x1E91, .lowercaseLetter),
    (0x1E92, .uppercaseLetter), (0x1E93, .lowercaseLetter), (0x1E94, .uppercaseLetter),
    (0x1E95, .lowercaseLetter), (0x1E9E, .uppercaseLetter), (0x1E9F, .lowercaseLetter),
    (0x1EA0, .uppercaseLetter), (0x1EA1, .lowercaseLetter), (0x1EA2, .uppercaseLetter),
    (0x1EA3, .lowercaseLetter), (0x1EA4, .uppercaseLetter), (0x1EA5, .lowercaseLetter),
    (0x1EA6, .uppercaseLetter), (0x1EA7, .lowercaseLetter), (0x1EA8, .uppercaseLetter),
    (0x1EA9, .lowercaseLetter), (0x1EAA, .uppercaseLetter), (0x1EAB, .lowercaseLetter),
    (0x1EAC, .uppercaseLetter), (0x1EAD, .lowercaseLetter), (0x1EAE, .uppercaseLetter),
    (0x1EAF, .lowercaseLetter), (0x1EB0, .uppercaseLetter), (0x1EB1, .lowercaseLetter),
    (0x1EB2, .uppercaseLetter), (0x1EB3, .lowercaseLetter), (0x1EB4, .uppercaseLetter),
    (0x1EB5, .lowercaseLetter), (0x1EB6, .uppercaseLetter), (0x1EB7, .lowercaseLetter),
    (0x1EB8, .uppercaseLetter), (0x1EB9, .lowercaseLetter), (0x1EBA, .uppercaseLetter),
    (0x1EBB, .lowercaseLetter), (0x1EBC, .uppercaseLetter), (0x1EBD, .lowercaseLetter),
    (0x1EBE, .uppercaseLetter), (0x1EBF, .lowercaseLetter), (0x1EC0, .uppercaseLetter),
    (0x1EC1, .lowercaseLetter), (0x1EC2, .uppercaseLetter), (0x1EC3, .lowercaseLetter),
    (0x1EC4, .uppercaseLetter), (0x1EC5, .lowercaseLetter), (0x1EC6, .uppercaseLetter),
    (0x1EC7, .lowercaseLetter), (0x1EC8, .uppercaseLetter), (0x1EC9, .lowercaseLetter),
    (0x1ECA, .uppercaseLetter), (0x1ECB, .lowercaseLetter), (0x1ECC, .uppercaseLetter),
    (0x1ECD, .lowercaseLetter), (0x1ECE, .uppercaseLetter), (0x1ECF, .lowercaseLetter),
    (0x1ED0, .uppercaseLetter), (0x1ED1, .lowercaseLetter), (0x1ED2, .uppercaseLetter),
    (0x1ED3, .lowercaseLetter), (0x1ED4, .uppercaseLetter), (0x1ED5, .lowercaseLetter),
    (0x1ED6, .uppercaseLetter), (0x1ED7, .lowercaseLetter), (0x1ED8, .uppercaseLetter),
    (0x1ED9, .lowercaseLetter), (0x1EDA, .uppercaseLetter), (0x1EDB, .lowercaseLetter),
    (0x1EDC, .uppercaseLetter), (0x1EDD, .lowercaseLetter), (0x1EDE, .uppercaseLetter),
    (0x1EDF, .lowercaseLetter), (0x1EE0, .uppercaseLetter), (0x1EE1, .lowercaseLetter),
    (0x1EE2, .uppercaseLetter), (0x1EE3, .lowercaseLetter), (0x1EE4, .uppercaseLetter),
    (0x1EE5, .lowercaseLetter), (0x1EE6, .uppercaseLetter), (0x1EE7, .lowercaseLetter),
    (0x1EE8, .uppercaseLetter), (0x1EE9, .lowercaseLetter), (0x1EEA, .uppercaseLetter),
    (0x1EEB, .lowercaseLetter), (0x1EEC, .uppercaseLetter), (0x1EED, .lowercaseLetter),
    (0x1EEE, .uppercaseLetter), (0x1EEF, .lowercaseLetter), (0x1EF0, .uppercaseLetter),
    (0x1EF1, .lowercaseLetter), (0x1EF2, .uppercaseLetter), (0x1EF3, .lowercaseLetter),
    (0x1EF4, .uppercaseLetter), (0x1EF5, .lowercaseLetter), (0x1EF6, .uppercaseLetter),
    (0x1EF7, .lowercaseLetter), (0x1EF8, .uppercaseLetter), (0x1EF9, .lowercaseLetter),
    (0x1EFA, .uppercaseLetter), (0x1EFB, .lowercaseLetter), (0x1EFC, .uppercaseLetter),
    (0x1EFD, .lowercaseLetter), (0x1EFE, .uppercaseLetter), (0x1EFF, .lowercaseLetter),
    (0x1F08, .uppercaseLetter), (0x1F10, .lowercaseLetter), (0x1F16, .unassigned),
    (0x1F18, .uppercaseLetter), (0x1F1E, .unassigned), (0x1F20, .lowercaseLetter),
    (0x1F28, .uppercaseLetter), (0x1F30, .lowercaseLetter), (0x1F38, .uppercaseLetter),
    (0x1F40, .lowercaseLetter), (0x1F46, .unassigned), (0x1F48, .uppercaseLetter),
    (0x1F4E, .unassigned), (0x1F50, .lowercaseLetter), (0x1F58, .unassigned),
    (0x1F59, .uppercaseLetter), (0x1F5A, .unassigned), (0x1F5B, .uppercaseLetter),
    (0x1F5C, .unassigned), (0x1F5D, .uppercaseLetter), (0x1F5E, .unassigned),
    (0x1F5F, .uppercaseLetter), (0x1F60, .lowercaseLetter), (0x1F68, .uppercaseLetter),
    (0x1F70, .lowercaseLetter), (0x1F7E, .unassigned), (0x1F80, .lowercaseLetter),
    (0x1F88, .titlecaseLetter), (0x1F90, .lowercaseLetter), (0x1F98, .titlecaseLetter),
    (0x1FA0, .lowercaseLetter), (0x1FA8, .titlecaseLetter), (0x1FB0, .lowercaseLetter),
    (0x1FB5, .unassigned), (0x1FB6, .lowercaseLetter), (0x1FB8, .uppercaseLetter),
    (0x1FBC, .titlecaseLetter), (0x1FBD, .modifierSymbol), (0x1FBE, .lowercaseLetter),
    (0x1FBF, .modifierSymbol), (0x1FC2, .lowercaseLetter), (0x1FC5, .unassigned),
    (0x1FC6, .lowercaseLetter), (0x1FC8, .uppercaseLetter), (0x1FCC, .titlecaseLetter),
    (0x1FCD, .modifierSymbol), (0x1FD0, .lowercaseLetter), (0x1FD4, .unassigned),
    (0x1FD6, .lowercaseLetter), (0x1FD8, .uppercaseLetter), (0x1FDC, .unassigned),
    (0x1FDD, .modifierSymbol), (0x1FE0, .lowercaseLetter), (0x1FE8, .uppercaseLetter),
    (0x1FED, .modifierSymbol), (0x1FF0, .unassigned), (0x1FF2, .lowercaseLetter),
    (0x1FF5, .unassigned), (0x1FF6, .lowercaseLetter), (0x1FF8, .uppercaseLetter),
    (0x1FFC, .titlecaseLetter), (0x1FFD, .modifierSymbol), (0x1FFF, .unassigned),
    (0x2000, .spaceSeparator), (0x200B, .format), (0x2010, .dashPunctuation),
    (0x2016, .otherPunctuation), (0x2018, .initialPunctuation), (0x2019, .finalPunctuation),
    (0x201A, .openPunctuation), (0x201B, .initialPunctuation), (0x201D, .finalPunctuation),
    (0x201E, .openPunctuation), (0x201F, .initialPunctuation), (0x2020, .otherPunctuation),
    (0x2028, .lineSeparator), (0x2029, .paragraphSeparator), (0x202A, .format),
    (0x202F, .spaceSeparator), (0x2030, .otherPunctuation), (0x2039, .initialPunctuation),
    (0x203A, .finalPunctuation), (0x203B, .otherPunctuation), (0x203F, .connectorPunctuation),
    (0x2041, .otherPunctuation), (0x2044, .mathSymbol), (0x2045, .openPunctuation),
    (0x2046, .closePunctuation), (0x2047, .otherPunctuation), (0x2052, .mathSymbol),
    (0x2053, .otherPunctuation), (0x2054, .connectorPunctuation), (0x2055, .otherPunctuation),
    (0x205F, .spaceSeparator), (0x2060, .format), (0x2065, .unassigned), (0x2066, .format),
    (0x2070, .otherNumber), (0x2071, .modifierLetter), (0x2072, .unassigned),
    (0x2074, .otherNumber), (0x207A, .mathSymbol), (0x207D, .openPunctuation),
    (0x207E, .closePunctuation), (0x207F, .modifierLetter), (0x2080, .otherNumber),
    (0x208A, .mathSymbol), (0x208D, .openPunctuation), (0x208E, .closePunctuation),
    (0x208F, .unassigned), (0x2090, .modifierLetter), (0x209D, .unassigned),
    (0x20A0, .currencySymbol), (0x20C1, .unassigned), (0x20D0, .nonspacingMark),
    (0x20DD, .enclosingMark), (0x20E1, .nonspacingMark), (0x20E2, .enclosingMark),
    (0x20E5, .nonspacingMark), (0x20F1, .unassigned), (0x2100, .otherSymbol),
    (0x2102, .uppercaseLetter), (0x2103, .otherSymbol), (0x2107, .uppercaseLetter),
    (0x2108, .otherSymbol), (0x210A, .lowercaseLetter), (0x210B, .uppercaseLetter),
    (0x210E, .lowercaseLetter), (0x2110, .uppercaseLetter), (0x2113, .lowercaseLetter),
    (0x2114, .otherSymbol), (0x2115, .uppercaseLetter), (0x2116, .otherSymbol),
    (0x2118, .mathSymbol), (0x2119, .uppercaseLetter), (0x211E, .otherSymbol),
    (0x2124, .uppercaseLetter), (0x2125, .otherSymbol), (0x2126, .uppercaseLetter),
    (0x2127, .otherSymbol), (0x2128, .uppercaseLetter), (0x2129, .otherSymbol),
    (0x212A, .uppercaseLetter), (0x212E, .otherSymbol), (0x212F, .lowercaseLetter),
    (0x2130, .uppercaseLetter), (0x2134, .lowercaseLetter), (0x2135, .otherLetter),
    (0x2139, .lowercaseLetter), (0x213A, .otherSymbol), (0x213C, .lowercaseLetter),
    (0x213E, .uppercaseLetter), (0x2140, .mathSymbol), (0x2145, .uppercaseLetter),
    (0x2146, .lowercaseLetter), (0x214A, .otherSymbol), (0x214B, .mathSymbol),
    (0x214C, .otherSymbol), (0x214E, .lowercaseLetter), (0x214F, .otherSymbol),
    (0x2150, .otherNumber), (0x2160, .letterNumber), (0x2183, .uppercaseLetter),
    (0x2184, .lowercaseLetter), (0x2185, .letterNumber), (0x2189, .otherNumber),
    (0x218A, .otherSymbol), (0x218C, .unassigned), (0x2190, .mathSymbol), (0x2195, .otherSymbol),
    (0x219A, .mathSymbol), (0x219C, .otherSymbol), (0x21A0, .mathSymbol), (0x21A1, .otherSymbol),
    (0x21A3, .mathSymbol), (0x21A4, .otherSymbol), (0x21A6, .mathSymbol), (0x21A7, .otherSymbol),
    (0x21AE, .mathSymbol), (0x21AF, .otherSymbol), (0x21CE, .mathSymbol), (0x21D0, .otherSymbol),
    (0x21D2, .mathSymbol), (0x21D3, .otherSymbol), (0x21D4, .mathSymbol), (0x21D5, .otherSymbol),
    (0x21F4, .mathSymbol), (0x2300, .otherSymbol), (0x2308, .openPunctuation),
    (0x2309, .closePunctuation), (0x230A, .openPunctuation), (0x230B, .closePunctuation),
    (0x230C, .otherSymbol), (0x2320, .mathSymbol), (0x2322, .otherSymbol),
    (0x2329, .openPunctuation), (0x232A, .closePunctuation), (0x232B, .otherSymbol),
    (0x237C, .mathSymbol), (0x237D, .otherSymbol), (0x239B, .mathSymbol), (0x23B4, .otherSymbol),
    (0x23DC, .mathSymbol), (0x23E2, .otherSymbol), (0x2427, .unassigned), (0x2440, .otherSymbol),
    (0x244B, .unassigned), (0x2460, .otherNumber), (0x249C, .otherSymbol),
    (0x24EA, .otherNumber), (0x2500, .otherSymbol), (0x25B7, .mathSymbol),
    (0x25B8, .otherSymbol), (0x25C1, .mathSymbol), (0x25C2, .otherSymbol), (0x25F8, .mathSymbol),
    (0x2600, .otherSymbol), (0x266F, .mathSymbol), (0x2670, .otherSymbol),
    (0x2768, .openPunctuation), (0x2769, .closePunctuation), (0x276A, .openPunctuation),
    (0x276B, .closePunctuation), (0x276C, .openPunctuation), (0x276D, .closePunctuation),
    (0x276E, .openPunctuation), (0x276F, .closePunctuation), (0x2770, .openPunctuation),
    (0x2771, .closePunctuation), (0x2772, .openPunctuation), (0x2773, .closePunctuation),
    (0x2774, .openPunctuation), (0x2775, .closePunctuation), (0x2776, .otherNumber),
    (0x2794, .otherSymbol), (0x27C0, .mathSymbol), (0x27C5, .openPunctuation),
    (0x27C6, .closePunctuation), (0x27C7, .mathSymbol), (0x27E6, .openPunctuation),
    (0x27E7, .closePunctuation), (0x27E8, .openPunctuation), (0x27E9, .closePunctuation),
    (0x27EA, .openPunctuation), (0x27EB, .closePunctuation), (0x27EC, .openPunctuation),
    (0x27ED, .closePunctuation), (0x27EE, .openPunctuation), (0x27EF, .closePunctuation),
    (0x27F0, .mathSymbol), (0x2800, .otherSymbol), (0x2900, .mathSymbol),
    (0x2983, .openPunctuation), (0x2984, .closePunctuation), (0x2985, .openPunctuation),
    (0x2986, .closePunctuation), (0x2987, .openPunctuation), (0x2988, .closePunctuation),
    (0x2989, .openPunctuation), (0x298A, .closePunctuation), (0x298B, .openPunctuation),
    (0x298C, .closePunctuation), (0x298D, .openPunctuation), (0x298E, .closePunctuation),
    (0x298F, .openPunctuation), (0x2990, .closePunctuation), (0x2991, .openPunctuation),
    (0x2992, .closePunctuation), (0x2993, .openPunctuation), (0x2994, .closePunctuation),
    (0x2995, .openPunctuation), (0x2996, .closePunctuation), (0x2997, .openPunctuation),
    (0x2998, .closePunctuation), (0x2999, .mathSymbol), (0x29D8, .openPunctuation),
    (0x29D9, .closePunctuation), (0x29DA, .openPunctuation), (0x29DB, .closePunctuation),
    (0x29DC, .mathSymbol), (0x29FC, .openPunctuation), (0x29FD, .closePunctuation),
    (0x29FE, .mathSymbol), (0x2B00, .otherSymbol), (0x2B30, .mathSymbol), (0x2B45, .otherSymbol),
    (0x2B47, .mathSymbol), (0x2B4D, .otherSymbol), (0x2B74, .unassigned), (0x2B76, .otherSymbol),
    (0x2B96, .unassigned), (0x2B97, .otherSymbol), (0x2C00, .uppercaseLetter),
    (0x2C30, .lowercaseLetter), (0x2C60, .uppercaseLetter), (0x2C61, .lowercaseLetter),
    (0x2C62, .uppercaseLetter), (0x2C65, .lowercaseLetter), (0x2C67, .uppercaseLetter),
    (0x2C68, .lowercaseLetter), (0x2C69, .uppercaseLetter), (0x2C6A, .lowercaseLetter),
    (0x2C6B, .uppercaseLetter), (0x2C6C, .lowercaseLetter), (0x2C6D, .uppercaseLetter),
    (0x2C71, .lowercaseLetter), (0x2C72, .uppercaseLetter), (0x2C73, .lowercaseLetter),
    (0x2C75, .uppercaseLetter), (0x2C76, .lowercaseLetter), (0x2C7C, .modifierLetter),
    (0x2C7E, .uppercaseLetter), (0x2C81, .lowercaseLetter), (0x2C82, .uppercaseLetter),
    (0x2C83, .lowercaseLetter), (0x2C84, .uppercaseLetter), (0x2C85, .lowercaseLetter),
    (0x2C86, .uppercaseLetter), (0x2C87, .lowercaseLetter), (0x2C88, .uppercaseLetter),
    (0x2C89, .lowercaseLetter), (0x2C8A, .uppercaseLetter), (0x2C8B, .lowercaseLetter),
    (0x2C8C, .uppercaseLetter), (0x2C8D, .lowercaseLetter), (0x2C8E, .uppercaseLetter),
    (0x2C8F, .lowercaseLetter), (0x2C90, .uppercaseLetter), (0x2C91, .lowercaseLetter),
    (0x2C92, .uppercaseLetter), (0x2C93, .lowercaseLetter), (0x2C94, .uppercaseLetter),
    (0x2C95, .lowercaseLetter), (0x2C96, .uppercaseLetter), (0x2C97, .lowercaseLetter),
    (0x2C98, .uppercaseLetter), (0x2C99, .lowercaseLetter), (0x2C9A, .uppercaseLetter),
    (0x2C9B, .lowercaseLetter), (0x2C9C, .uppercaseLetter), (0x2C9D, .lowercaseLetter),
    (0x2C9E, .uppercaseLetter), (0x2C9F, .lowercaseLetter), (0x2CA0, .uppercaseLetter),
    (0x2CA1, .lowercaseLetter), (0x2CA2, .uppercaseLetter), (0x2CA3, .lowercaseLetter),
    (0x2CA4, .uppercaseLetter), (0x2CA5, .lowercaseLetter), (0x2CA6, .uppercaseLetter),
    (0x2CA7, .lowercaseLetter), (0x2CA8, .uppercaseLetter), (0x2CA9, .lowercaseLetter),
    (0x2CAA, .uppercaseLetter), (0x2CAB, .lowercaseLetter), (0x2CAC, .uppercaseLetter),
    (0x2CAD, .lowercaseLetter), (0x2CAE, .uppercaseLetter), (0x2CAF, .lowercaseLetter),
    (0x2CB0, .uppercaseLetter), (0x2CB1, .lowercaseLetter), (0x2CB2, .uppercaseLetter),
    (0x2CB3, .lowercaseLetter), (0x2CB4, .uppercaseLetter), (0x2CB5, .lowercaseLetter),
    (0x2CB6, .uppercaseLetter), (0x2CB7, .lowercaseLetter), (0x2CB8, .uppercaseLetter),
    (0x2CB9, .lowercaseLetter), (0x2CBA, .uppercaseLetter), (0x2CBB, .lowercaseLetter),
    (0x2CBC, .uppercaseLetter), (0x2CBD, .lowercaseLetter), (0x2CBE, .uppercaseLetter),
    (0x2CBF, .lowercaseLetter), (0x2CC0, .uppercaseLetter), (0x2CC1, .lowercaseLetter),
    (0x2CC2, .uppercaseLetter), (0x2CC3, .lowercaseLetter), (0x2CC4, .uppercaseLetter),
    (0x2CC5, .lowercaseLetter), (0x2CC6, .uppercaseLetter), (0x2CC7, .lowercaseLetter),
    (0x2CC8, .uppercaseLetter), (0x2CC9, .lowercaseLetter), (0x2CCA, .uppercaseLetter),
    (0x2CCB, .lowercaseLetter), (0x2CCC, .uppercaseLetter), (0x2CCD, .lowercaseLetter),
    (0x2CCE, .uppercaseLetter), (0x2CCF, .lowercaseLetter), (0x2CD0, .uppercaseLetter),
    (0x2CD1, .lowercaseLetter), (0x2CD2, .uppercaseLetter), (0x2CD3, .lowercaseLetter),
    (0x2CD4, .uppercaseLetter), (0x2CD5, .lowercaseLetter), (0x2CD6, .uppercaseLetter),
    (0x2CD7, .lowercaseLetter), (0x2CD8, .uppercaseLetter), (0x2CD9, .lowercaseLetter),
    (0x2CDA, .uppercaseLetter), (0x2CDB, .lowercaseLetter), (0x2CDC, .uppercaseLetter),
    (0x2CDD, .lowercaseLetter), (0x2CDE, .uppercaseLetter), (0x2CDF, .lowercaseLetter),
    (0x2CE0, .uppercaseLetter), (0x2CE1, .lowercaseLetter), (0x2CE2, .uppercaseLetter),
    (0x2CE3, .lowercaseLetter), (0x2CE5, .otherSymbol), (0x2CEB, .uppercaseLetter),
    (0x2CEC, .lowercaseLetter), (0x2CED, .uppercaseLetter), (0x2CEE, .lowercaseLetter),
    (0x2CEF, .nonspacingMark), (0x2CF2, .uppercaseLetter), (0x2CF3, .lowercaseLetter),
    (0x2CF4, .unassigned), (0x2CF9, .otherPunctuation), (0x2CFD, .otherNumber),
    (0x2CFE, .otherPunctuation), (0x2D00, .lowercaseLetter), (0x2D26, .unassigned),
    (0x2D27, .lowercaseLetter), (0x2D28, .unassigned), (0x2D2D, .lowercaseLetter),
    (0x2D2E, .unassigned), (0x2D30, .otherLetter), (0x2D68, .unassigned),
    (0x2D6F, .modifierLetter), (0x2D70, .otherPunctuation), (0x2D71, .unassigned),
    (0x2D7F, .nonspacingMark), (0x2D80, .otherLetter), (0x2D97, .unassigned),
    (0x2DA0, .otherLetter), (0x2DA7, .unassigned), (0x2DA8, .otherLetter), (0x2DAF, .unassigned),
    (0x2DB0, .otherLetter), (0x2DB7, .unassigned), (0x2DB8, .otherLetter), (0x2DBF, .unassigned),
    (0x2DC0, .otherLetter), (0x2DC7, .unassigned), (0x2DC8, .otherLetter), (0x2DCF, .unassigned),
    (0x2DD0, .otherLetter), (0x2DD7, .unassigned), (0x2DD8, .otherLetter), (0x2DDF, .unassigned),
    (0x2DE0, .nonspacingMark), (0x2E00, .otherPunctuation), (0x2E02, .initialPunctuation),
    (0x2E03, .finalPunctuation), (0x2E04, .initialPunctuation), (0x2E05, .finalPunctuation),
    (0x2E06, .otherPunctuation), (0x2E09, .initialPunctuation), (0x2E0A, .finalPunctuation),
    (0x2E0B, .otherPunctuation), (0x2E0C, .initialPunctuation), (0x2E0D, .finalPunctuation),
    (0x2E0E, .otherPunctuation), (0x2E17, .dashPunctuation), (0x2E18, .otherPunctuation),
    (0x2E1A, .dashPunctuation), (0x2E1B, .otherPunctuation), (0x2E1C, .initialPunctuation),
    (0x2E1D, .finalPunctuation), (0x2E1E, .otherPunctuation), (0x2E20, .initialPunctuation),
    (0x2E21, .finalPunctuation), (0x2E22, .openPunctuation), (0x2E23, .closePunctuation),
    (0x2E24, .openPunctuation), (0x2E25, .closePunctuation), (0x2E26, .openPunctuation),
    (0x2E27, .closePunctuation), (0x2E28, .openPunctuation), (0x2E29, .closePunctuation),
    (0x2E2A, .otherPunctuation), (0x2E2F, .modifierLetter), (0x2E30, .otherPunctuation),
    (0x2E3A, .dashPunctuation), (0x2E3C, .otherPunctuation), (0x2E40, .dashPunctuation),
    (0x2E41, .otherPunctuation), (0x2E42, .openPunctuation), (0x2E43, .otherPunctuation),
    (0x2E50, .otherSymbol), (0x2E52, .otherPunctuation), (0x2E55, .openPunctuation),
    (0x2E56, .closePunctuation), (0x2E57, .openPunctuation), (0x2E58, .closePunctuation),
    (0x2E59, .openPunctuation), (0x2E5A, .closePunctuation), (0x2E5B, .openPunctuation),
    (0x2E5C, .closePunctuation), (0x2E5D, .dashPunctuation), (0x2E5E, .unassigned),
    (0x2E80, .otherSymbol), (0x2E9A, .unassigned), (0x2E9B, .otherSymbol), (0x2EF4, .unassigned),
    (0x2F00, .otherSymbol), (0x2FD6, .unassigned), (0x2FF0, .otherSymbol), (0x2FFC, .unassigned),
    (0x3000, .spaceSeparator), (0x3001, .otherPunctuation), (0x3004, .otherSymbol),
    (0x3005, .modifierLetter), (0x3006, .otherLetter), (0x3007, .letterNumber),
    (0x3008, .openPunctuation), (0x3009, .closePunctuation), (0x300A, .openPunctuation),
    (0x300B, .closePunctuation), (0x300C, .openPunctuation), (0x300D, .closePunctuation),
    (0x300E, .openPunctuation), (0x300F, .closePunctuation), (0x3010, .openPunctuation),
    (0x3011, .closePunctuation), (0x3012, .otherSymbol), (0x3014, .openPunctuation),
    (0x3015, .closePunctuation), (0x3016, .openPunctuation), (0x3017, .closePunctuation),
    (0x3018, .openPunctuation), (0x3019, .closePunctuation), (0x301A, .openPunctuation),
    (0x301B, .closePunctuation), (0x301C, .dashPunctuation), (0x301D, .openPunctuation),
    (0x301E, .closePunctuation), (0x3020, .otherSymbol), (0x3021, .letterNumber),
    (0x302A, .nonspacingMark), (0x302E, .spacingMark), (0x3030, .dashPunctuation),
    (0x3031, .modifierLetter), (0x3036, .otherSymbol), (0x3038, .letterNumber),
    (0x303B, .modifierLetter), (0x303C, .otherLetter), (0x303D, .otherPunctuation),
    (0x303E, .otherSymbol), (0x3040, .unassigned), (0x3041, .otherLetter), (0x3097, .unassigned),
    (0x3099, .nonspacingMark), (0x309B, .modifierSymbol), (0x309D, .modifierLetter),
    (0x309F, .otherLetter), (0x30A0, .dashPunctuation), (0x30A1, .otherLetter),
    (0x30FB, .otherPunctuation), (0x30FC, .modifierLetter), (0x30FF, .otherLetter),
    (0x3100, .unassigned), (0x3105, .otherLetter), (0x3130, .unassigned), (0x3131, .otherLetter),
    (0x318F, .unassigned), (0x3190, .otherSymbol), (0x3192, .otherNumber),
    (0x3196, .otherSymbol), (0x31A0, .otherLetter), (0x31C0, .otherSymbol),
    (0x31E4, .unassigned), (0x31F0, .otherLetter), (0x3200, .otherSymbol), (0x321F, .unassigned),
    (0x3220, .otherNumber), (0x322A, .otherSymbol), (0x3248, .otherNumber),
    (0x3250, .otherSymbol), (0x3251, .otherNumber), (0x3260, .otherSymbol),
    (0x3280, .otherNumber), (0x328A, .otherSymbol), (0x32B1, .otherNumber),
    (0x32C0, .otherSymbol), (0x3400, .otherLetter), (0x4DC0, .otherSymbol),
    (0x4E00, .otherLetter), (0xA015, .modifierLetter), (0xA016, .otherLetter),
    (0xA48D, .unassigned), (0xA490, .otherSymbol), (0xA4C7, .unassigned), (0xA4D0, .otherLetter),
    (0xA4F8, .modifierLetter), (0xA4FE, .otherPunctuation), (0xA500, .otherLetter),
    (0xA60C, .modifierLetter), (0xA60D, .otherPunctuation), (0xA610, .otherLetter),
    (0xA620, .decimalNumber), (0xA62A, .otherLetter), (0xA62C, .unassigned),
    (0xA640, .uppercaseLetter), (0xA641, .lowercaseLetter), (0xA642, .uppercaseLetter),
    (0xA643, .lowercaseLetter), (0xA644, .uppercaseLetter), (0xA645, .lowercaseLetter),
    (0xA646, .uppercaseLetter), (0xA647, .lowercaseLetter), (0xA648, .uppercaseLetter),
    (0xA649, .lowercaseLetter), (0xA64A, .uppercaseLetter), (0xA64B, .lowercaseLetter),
    (0xA64C, .uppercaseLetter), (0xA64D, .lowercaseLetter), (0xA64E, .uppercaseLetter),
    (0xA64F, .lowercaseLetter), (0xA650, .uppercaseLetter), (0xA651, .lowercaseLetter),
    (0xA652, .uppercaseLetter), (0xA653, .lowercaseLetter), (0xA654, .uppercaseLetter),
    (0xA655, .lowercaseLetter), (0xA656, .uppercaseLetter), (0xA657, .lowercaseLetter),
    (0xA658, .uppercaseLetter), (0xA659, .lowercaseLetter), (0xA65A, .uppercaseLetter),
    (0xA65B, .lowercaseLetter), (0xA65C, .uppercaseLetter), (0xA65D, .lowercaseLetter),
    (0xA65E, .uppercaseLetter), (0xA65F, .lowercaseLetter), (0xA660, .uppercaseLetter),
    (0xA661, .lowercaseLetter), (0xA662, .uppercaseLetter), (0xA663, .lowercaseLetter),
    (0xA664, .uppercaseLetter), (0xA665, .lowercaseLetter), (0xA666, .uppercaseLetter),
    (0xA667, .lowercaseLetter), (0xA668, .uppercaseLetter), (0xA669, .lowercaseLetter),
    (0xA66A, .uppercaseLetter), (0xA66B, .lowercaseLetter), (0xA66C, .uppercaseLetter),
    (0xA66D, .lowercaseLetter), (0xA66E, .otherLetter), (0xA66F, .nonspacingMark),
    (0xA670, .enclosingMark), (0xA673, .otherPunctuation), (0xA674, .nonspacingMark),
    (0xA67E, .otherPunctuation), (0xA67F, .modifierLetter), (0xA680, .uppercaseLetter),
    (0xA681, .lowercaseLetter), (0xA682, .uppercaseLetter), (0xA683, .lowercaseLetter),
    (0xA684, .uppercaseLetter), (0xA685, .lowercaseLetter), (0xA686, .uppercaseLetter),
    (0xA687, .lowercaseLetter), (0xA688, .uppercaseLetter), (0xA689, .lowercaseLetter),
    (0xA68A, .uppercaseLetter), (0xA68B, .lowercaseLetter), (0xA68C, .uppercaseLetter),
    (0xA68D, .lowercaseLetter), (0xA68E, .uppercaseLetter), (0xA68F, .lowercaseLetter),
    (0xA690, .uppercaseLetter), (0xA691, .lowercaseLetter), (0xA692, .uppercaseLetter),
    (0xA693, .lowercaseLetter), (0xA694, .uppercaseLetter), (0xA695, .lowercaseLetter),
    (0xA696, .uppercaseLetter), (0xA697, .lowercaseLetter), (0xA698, .uppercaseLetter),
    (0xA699, .lowercaseLetter), (0xA69A, .uppercaseLetter), (0xA69B, .lowercaseLetter),
    (0xA69C, .modifierLetter), (0xA69E, .nonspacingMark), (0xA6A0, .otherLetter),
    (0xA6E6, .letterNumber), (0xA6F0, .nonspacingMark), (0xA6F2, .otherPunctuation),
    (0xA6F8, .unassigned), (0xA700, .modifierSymbol), (0xA717, .modifierLetter),
    (0xA720, .modifierSymbol), (0xA722, .uppercaseLetter), (0xA723, .lowercaseLetter),
    (0xA724, .uppercaseLetter), (0xA725, .lowercaseLetter), (0xA726, .uppercaseLetter),
    (0xA727, .lowercaseLetter), (0xA728, .uppercaseLetter), (0xA729, .lowercaseLetter),
    (0xA72A, .uppercaseLetter), (0xA72B, .lowercaseLetter), (0xA72C, .uppercaseLetter),
    (0xA72D, .lowercaseLetter), (0xA72E, .uppercaseLetter), (0xA72F, .lowercaseLetter),
    (0xA732, .uppercaseLetter), (0xA733, .lowercaseLetter), (0xA734, .uppercaseLetter),
    (0xA735, .lowercaseLetter), (0xA736, .uppercaseLetter), (0xA737, .lowercaseLetter),
    (0xA738, .uppercaseLetter), (0xA739, .lowercaseLetter), (0xA73A, .uppercaseLetter),
    (0xA73B, .lowercaseLetter), (0xA73C, .uppercaseLetter), (0xA73D, .lowercaseLetter),
    (0xA73E, .uppercaseLetter), (0xA73F, .lowercaseLetter), (0xA740, .uppercaseLetter),
    (0xA741, .lowercaseLetter), (0xA742, .uppercaseLetter), (0xA743, .lowercaseLetter),
    (0xA744, .uppercaseLetter), (0xA745, .lowercaseLetter), (0xA746, .uppercaseLetter),
    (0xA747, .lowercaseLetter), (0xA748, .uppercaseLetter), (0xA749, .lowercaseLetter),
    (0xA74A, .uppercaseLetter), (0xA74B, .lowercaseLetter), (0xA74C, .uppercaseLetter),
    (0xA74D, .lowercaseLetter), (0xA74E, .uppercaseLetter), (0xA74F, .lowercaseLetter),
    (0xA750, .uppercaseLetter), (0xA751, .lowercaseLetter), (0xA752, .uppercaseLetter),
    (0xA753, .lowercaseLetter), (0xA754, .uppercaseLetter), (0xA755, .lowercaseLetter),
    (0xA756, .uppercaseLetter), (0xA757, .lowercaseLetter), (0xA758, .uppercaseLetter),
    (0xA759, .lowercaseLetter), (0xA75A, .uppercaseLetter), (0xA75B, .lowercaseLetter),
    (0xA75C, .uppercaseLetter), (0xA75D, .lowercaseLetter), (0xA75E, .uppercaseLetter),
    (0xA75F, .lowercaseLetter), (0xA760, .uppercaseLetter), (0xA761, .lowercaseLetter),
    (0xA762, .uppercaseLetter), (0xA763, .lowercaseLetter), (0xA764, .uppercaseLetter),
    (0xA765, .lowercaseLetter), (0xA766, .uppercaseLetter), (0xA767, .lowercaseLetter),
    (0xA768, .uppercaseLetter), (0xA769, .lowercaseLetter), (0xA76A, .uppercaseLetter),
    (0xA76B, .lowercaseLetter), (0xA76C, .uppercaseLetter), (0xA76D, .lowercaseLetter),
    (0xA76E, .uppercaseLetter), (0xA76F, .lowercaseLetter), (0xA770, .modifierLetter),
    (0xA771, .lowercaseLetter), (0xA779, .uppercaseLetter), (0xA77A, .lowercaseLetter),
    (0xA77B, .uppercaseLetter), (0xA77C, .lowercaseLetter), (0xA77D, .uppercaseLetter),
    (0xA77F, .lowercaseLetter), (0xA780, .uppercaseLetter), (0xA781, .lowercaseLetter),
    (0xA782, .uppercaseLetter), (0xA783, .lowercaseLetter), (0xA784, .uppercaseLetter),
    (0xA785, .lowercaseLetter), (0xA786, .uppercaseLetter), (0xA787, .lowercaseLetter),
    (0xA788, .modifierLetter), (0xA789, .modifierSymbol), (0xA78B, .uppercaseLetter),
    (0xA78C, .lowercaseLetter), (0xA78D, .uppercaseLetter), (0xA78E, .lowercaseLetter),
    (0xA78F, .otherLetter), (0xA790, .uppercaseLetter), (0xA791, .lowercaseLetter),
    (0xA792, .uppercaseLetter), (0xA793, .lowercaseLetter), (0xA796, .uppercaseLetter),
    (0xA797, .lowercaseLetter), (0xA798, .uppercaseLetter), (0xA799, .lowercaseLetter),
    (0xA79A, .uppercaseLetter), (0xA79B, .lowercaseLetter), (0xA79C, .uppercaseLetter),
    (0xA79D, .lowercaseLetter), (0xA79E, .uppercaseLetter), (0xA79F, .lowercaseLetter),
    (0xA7A0, .uppercaseLetter), (0xA7A1, .lowercaseLetter), (0xA7A2, .uppercaseLetter),
    (0xA7A3, .lowercaseLetter), (0xA7A4, .uppercaseLetter), (0xA7A5, .lowercaseLetter),
    (0xA7A6, .uppercaseLetter), (0xA7A7, .lowercaseLetter), (0xA7A8, .uppercaseLetter),
    (0xA7A9, .lowercaseLetter), (0xA7AA, .uppercaseLetter), (0xA7AF, .lowercaseLetter),
    (0xA7B0, .uppercaseLetter), (0xA7B5, .lowercaseLetter), (0xA7B6, .uppercaseLetter),
    (0xA7B7, .lowercaseLetter), (0xA7B8, .uppercaseLetter), (0xA7B9, .lowercaseLetter),
    (0xA7BA, .uppercaseLetter), (0xA7BB, .lowercaseLetter), (0xA7BC, .uppercaseLetter),
    (0xA7BD, .lowercaseLetter), (0xA7BE, .uppercaseLetter), (0xA7BF, .lowercaseLetter),
    (0xA7C0, .uppercaseLetter), (0xA7C1, .lowercaseLetter), (0xA7C2, .uppercaseLetter),
    (0xA7C3, .lowercaseLetter), (0xA7C4, .uppercaseLetter), (0xA7C8, .lowercaseLetter),
    (0xA7C9, .uppercaseLetter), (0xA7CA, .lowercaseLetter), (0xA7CB, .unassigned),
    (0xA7D0, .uppercaseLetter), (0xA7D1, .lowercaseLetter), (0xA7D2, .unassigned),
    (0xA7D3, .lowercaseLetter), (0xA7D4, .unassigned), (0xA7D5, .lowercaseLetter),
    (0xA7D6, .uppercaseLetter), (0xA7D7, .lowercaseLetter), (0xA7D8, .uppercaseLetter),
    (0xA7D9, .lowercaseLetter), (0xA7DA, .unassigned), (0xA7F2, .modifierLetter),
    (0xA7F5, .uppercaseLetter), (0xA7F6, .lowercaseLetter), (0xA7F7, .otherLetter),
    (0xA7F8, .modifierLetter), (0xA7FA, .lowercaseLetter), (0xA7FB, .otherLetter),
    (0xA802, .nonspacingMark), (0xA803, .otherLetter), (0xA806, .nonspacingMark),
    (0xA807, .otherLetter), (0xA80B, .nonspacingMark), (0xA80C, .otherLetter),
    (0xA823, .spacingMark), (0xA825, .nonspacingMark), (0xA827, .spacingMark),
    (0xA828, .otherSymbol), (0xA82C, .nonspacingMark), (0xA82D, .unassigned),
    (0xA830, .otherNumber), (0xA836, .otherSymbol), (0xA838, .currencySymbol),
    (0xA839, .otherSymbol), (0xA83A, .unassigned), (0xA840, .otherLetter),
    (0xA874, .otherPunctuation), (0xA878, .unassigned), (0xA880, .spacingMark),
    (0xA882, .otherLetter), (0xA8B4, .spacingMark), (0xA8C4, .nonspacingMark),
    (0xA8C6, .unassigned), (0xA8CE, .otherPunctuation), (0xA8D0, .decimalNumber),
    (0xA8DA, .unassigned), (0xA8E0, .nonspacingMark), (0xA8F2, .otherLetter),
    (0xA8F8, .otherPunctuation), (0xA8FB, .otherLetter), (0xA8FC, .otherPunctuation),
    (0xA8FD, .otherLetter), (0xA8FF, .nonspacingMark), (0xA900, .decimalNumber),
    (0xA90A, .otherLetter), (0xA926, .nonspacingMark), (0xA92E, .otherPunctuation),
    (0xA930, .otherLetter), (0xA947, .nonspacingMark), (0xA952, .spacingMark),
    (0xA954, .unassigned), (0xA95F, .otherPunctuation), (0xA960, .otherLetter),
    (0xA97D, .unassigned), (0xA980, .nonspacingMark), (0xA983, .spacingMark),
    (0xA984, .otherLetter), (0xA9B3, .nonspacingMark), (0xA9B4, .spacingMark),
    (0xA9B6, .nonspacingMark), (0xA9BA, .spacingMark), (0xA9BC, .nonspacingMark),
    (0xA9BE, .spacingMark), (0xA9C1, .otherPunctuation), (0xA9CE, .unassigned),
    (0xA9CF, .modifierLetter), (0xA9D0, .decimalNumber), (0xA9DA, .unassigned),
    (0xA9DE, .otherPunctuation), (0xA9E0, .otherLetter), (0xA9E5, .nonspacingMark),
    (0xA9E6, .modifierLetter), (0xA9E7, .otherLetter), (0xA9F0, .decimalNumber),
    (0xA9FA, .otherLetter), (0xA9FF, .unassigned), (0xAA00, .otherLetter),
    (0xAA29, .nonspacingMark), (0xAA2F, .spacingMark), (0xAA31, .nonspacingMark),
    (0xAA33, .spacingMark), (0xAA35, .nonspacingMark), (0xAA37, .unassigned),
    (0xAA40, .otherLetter), (0xAA43, .nonspacingMark), (0xAA44, .otherLetter),
    (0xAA4C, .nonspacingMark), (0xAA4D, .spacingMark), (0xAA4E, .unassigned),
    (0xAA50, .decimalNumber), (0xAA5A, .unassigned), (0xAA5C, .otherPunctuation),
    (0xAA60, .otherLetter), (0xAA70, .modifierLetter), (0xAA71, .otherLetter),
    (0xAA77, .otherSymbol), (0xAA7A, .otherLetter), (0xAA7B, .spacingMark),
    (0xAA7C, .nonspacingMark), (0xAA7D, .spacingMark), (0xAA7E, .otherLetter),
    (0xAAB0, .nonspacingMark), (0xAAB1, .otherLetter), (0xAAB2, .nonspacingMark),
    (0xAAB5, .otherLetter), (0xAAB7, .nonspacingMark), (0xAAB9, .otherLetter),
    (0xAABE, .nonspacingMark), (0xAAC0, .otherLetter), (0xAAC1, .nonspacingMark),
    (0xAAC2, .otherLetter), (0xAAC3, .unassigned), (0xAADB, .otherLetter),
    (0xAADD, .modifierLetter), (0xAADE, .otherPunctuation), (0xAAE0, .otherLetter),
    (0xAAEB, .spacingMark), (0xAAEC, .nonspacingMark), (0xAAEE, .spacingMark),
    (0xAAF0, .otherPunctuation), (0xAAF2, .otherLetter), (0xAAF3, .modifierLetter),
    (0xAAF5, .spacingMark), (0xAAF6, .nonspacingMark), (0xAAF7, .unassigned),
    (0xAB01, .otherLetter), (0xAB07, .unassigned), (0xAB09, .otherLetter), (0xAB0F, .unassigned),
    (0xAB11, .otherLetter), (0xAB17, .unassigned), (0xAB20, .otherLetter), (0xAB27, .unassigned),
    (0xAB28, .otherLetter), (0xAB2F, .unassigned), (0xAB30, .lowercaseLetter),
    (0xAB5B, .modifierSymbol), (0xAB5C, .modifierLetter), (0xAB60, .lowercaseLetter),
    (0xAB69, .modifierLetter), (0xAB6A, .modifierSymbol), (0xAB6C, .unassigned),
    (0xAB70, .lowercaseLetter), (0xABC0, .otherLetter), (0xABE3, .spacingMark),
    (0xABE5, .nonspacingMark), (0xABE6, .spacingMark), (0xABE8, .nonspacingMark),
    (0xABE9, .spacingMark), (0xABEB, .otherPunctuation), (0xABEC, .spacingMark),
    (0xABED, .nonspacingMark), (0xABEE, .unassigned), (0xABF0, .decimalNumber),
    (0xABFA, .unassigned), (0xAC00, .otherLetter), (0xD7A4, .unassigned), (0xD7B0, .otherLetter),
    (0xD7C7, .unassigned), (0xD7CB, .otherLetter), (0xD7FC, .unassigned), (0xD800, .surrogate),
    (0xE000, .privateUse), (0xF900, .otherLetter), (0xFA6E, .unassigned), (0xFA70, .otherLetter),
    (0xFADA, .unassigned), (0xFB00, .lowercaseLetter), (0xFB07, .unassigned),
    (0xFB13, .lowercaseLetter), (0xFB18, .unassigned), (0xFB1D, .otherLetter),
    (0xFB1E, .nonspacingMark), (0xFB1F, .otherLetter), (0xFB29, .mathSymbol),
    (0xFB2A, .otherLetter), (0xFB37, .unassigned), (0xFB38, .otherLetter), (0xFB3D, .unassigned),
    (0xFB3E, .otherLetter), (0xFB3F, .unassigned), (0xFB40, .otherLetter), (0xFB42, .unassigned),
    (0xFB43, .otherLetter), (0xFB45, .unassigned), (0xFB46, .otherLetter),
    (0xFBB2, .modifierSymbol), (0xFBC3, .unassigned), (0xFBD3, .otherLetter),
    (0xFD3E, .closePunctuation), (0xFD3F, .openPunctuation), (0xFD40, .otherSymbol),
    (0xFD50, .otherLetter), (0xFD90, .unassigned), (0xFD92, .otherLetter), (0xFDC8, .unassigned),
    (0xFDCF, .otherSymbol), (0xFDD0, .unassigned), (0xFDF0, .otherLetter),
    (0xFDFC, .currencySymbol), (0xFDFD, .otherSymbol), (0xFE00, .nonspacingMark),
    (0xFE10, .otherPunctuation), (0xFE17, .openPunctuation), (0xFE18, .closePunctuation),
    (0xFE19, .otherPunctuation), (0xFE1A, .unassigned), (0xFE20, .nonspacingMark),
    (0xFE30, .otherPunctuation), (0xFE31, .dashPunctuation), (0xFE33, .connectorPunctuation),
    (0xFE35, .openPunctuation), (0xFE36, .closePunctuation), (0xFE37, .openPunctuation),
    (0xFE38, .closePunctuation), (0xFE39, .openPunctuation), (0xFE3A, .closePunctuation),
    (0xFE3B, .openPunctuation), (0xFE3C, .closePunctuation), (0xFE3D, .openPunctuation),
    (0xFE3E, .closePunctuation), (0xFE3F, .openPunctuation), (0xFE40, .closePunctuation),
    (0xFE41, .openPunctuation), (0xFE42, .closePunctuation), (0xFE43, .openPunctuation),
    (0xFE44, .closePunctuation), (0xFE45, .otherPunctuation), (0xFE47, .openPunctuation),
    (0xFE48, .closePunctuation), (0xFE49, .otherPunctuation), (0xFE4D, .connectorPunctuation),
    (0xFE50, .otherPunctuation), (0xFE53, .unassigned), (0xFE54, .otherPunctuation),
    (0xFE58, .dashPunctuation), (0xFE59, .openPunctuation), (0xFE5A, .closePunctuation),
    (0xFE5B, .openPunctuation), (0xFE5C, .closePunctuation), (0xFE5D, .openPunctuation),
    (0xFE5E, .closePunctuation), (0xFE5F, .otherPunctuation), (0xFE62, .mathSymbol),
    (0xFE63, .dashPunctuation), (0xFE64, .mathSymbol), (0xFE67, .unassigned),
    (0xFE68, .otherPunctuation), (0xFE69, .currencySymbol), (0xFE6A, .otherPunctuation),
    (0xFE6C, .unassigned), (0xFE70, .otherLetter), (0xFE75, .unassigned), (0xFE76, .otherLetter),
    (0xFEFD, .unassigned), (0xFEFF, .format), (0xFF00, .unassigned), (0xFF01, .otherPunctuation),
    (0xFF04, .currencySymbol), (0xFF05, .otherPunctuation), (0xFF08, .openPunctuation),
    (0xFF09, .closePunctuation), (0xFF0A, .otherPunctuation), (0xFF0B, .mathSymbol),
    (0xFF0C, .otherPunctuation), (0xFF0D, .dashPunctuation), (0xFF0E, .otherPunctuation),
    (0xFF10, .decimalNumber), (0xFF1A, .otherPunctuation), (0xFF1C, .mathSymbol),
    (0xFF1F, .otherPunctuation), (0xFF21, .uppercaseLetter), (0xFF3B, .openPunctuation),
    (0xFF3C, .otherPunctuation), (0xFF3D, .closePunctuation), (0xFF3E, .modifierSymbol),
    (0xFF3F, .connectorPunctuation), (0xFF40, .modifierSymbol), (0xFF41, .lowercaseLetter),
    (0xFF5B, .openPunctuation), (0xFF5C, .mathSymbol), (0xFF5D, .closePunctuation),
    (0xFF5E, .mathSymbol), (0xFF5F, .openPunctuation), (0xFF60, .closePunctuation),
    (0xFF61, .otherPunctuation), (0xFF62, .openPunctuation), (0xFF63, .closePunctuation),
    (0xFF64, .otherPunctuation), (0xFF66, .otherLetter), (0xFF70, .modifierLetter),
    (0xFF71, .otherLetter), (0xFF9E, .modifierLetter), (0xFFA0, .otherLetter),
    (0xFFBF, .unassigned), (0xFFC2, .otherLetter), (0xFFC8, .unassigned), (0xFFCA, .otherLetter),
    (0xFFD0, .unassigned), (0xFFD2, .otherLetter), (0xFFD8, .unassigned), (0xFFDA, .otherLetter),
    (0xFFDD, .unassigned), (0xFFE0, .currencySymbol), (0xFFE2, .mathSymbol),
    (0xFFE3, .modifierSymbol), (0xFFE4, .otherSymbol), (0xFFE5, .currencySymbol),
    (0xFFE7, .unassigned), (0xFFE8, .otherSymbol), (0xFFE9, .mathSymbol), (0xFFED, .otherSymbol),
    (0xFFEF, .unassigned), (0xFFF9, .format), (0xFFFC, .otherSymbol), (0xFFFE, .unassigned),
    (0x10000, .otherLetter), (0x1000C, .unassigned), (0x1000D, .otherLetter),
    (0x10027, .unassigned), (0x10028, .otherLetter), (0x1003B, .unassigned),
    (0x1003C, .otherLetter), (0x1003E, .unassigned), (0x1003F, .otherLetter),
    (0x1004E, .unassigned), (0x10050, .otherLetter), (0x1005E, .unassigned),
    (0x10080, .otherLetter), (0x100FB, .unassigned), (0x10100, .otherPunctuation),
    (0x10103, .unassigned), (0x10107, .otherNumber), (0x10134, .unassigned),
    (0x10137, .otherSymbol), (0x10140, .letterNumber), (0x10175, .otherNumber),
    (0x10179, .otherSymbol), (0x1018A, .otherNumber), (0x1018C, .otherSymbol),
    (0x1018F, .unassigned), (0x10190, .otherSymbol), (0x1019D, .unassigned),
    (0x101A0, .otherSymbol), (0x101A1, .unassigned), (0x101D0, .otherSymbol),
    (0x101FD, .nonspacingMark), (0x101FE, .unassigned), (0x10280, .otherLetter),
    (0x1029D, .unassigned), (0x102A0, .otherLetter), (0x102D1, .unassigned),
    (0x102E0, .nonspacingMark), (0x102E1, .otherNumber), (0x102FC, .unassigned),
    (0x10300, .otherLetter), (0x10320, .otherNumber), (0x10324, .unassigned),
    (0x1032D, .otherLetter), (0x10341, .letterNumber), (0x10342, .otherLetter),
    (0x1034A, .letterNumber), (0x1034B, .unassigned), (0x10350, .otherLetter),
    (0x10376, .nonspacingMark), (0x1037B, .unassigned), (0x10380, .otherLetter),
    (0x1039E, .unassigned), (0x1039F, .otherPunctuation), (0x103A0, .otherLetter),
    (0x103C4, .unassigned), (0x103C8, .otherLetter), (0x103D0, .otherPunctuation),
    (0x103D1, .letterNumber), (0x103D6, .unassigned), (0x10400, .uppercaseLetter),
    (0x10428, .lowercaseLetter), (0x10450, .otherLetter), (0x1049E, .unassigned),
    (0x104A0, .decimalNumber), (0x104AA, .unassigned), (0x104B0, .uppercaseLetter),
    (0x104D4, .unassigned), (0x104D8, .lowercaseLetter), (0x104FC, .unassigned),
    (0x10500, .otherLetter), (0x10528, .unassigned), (0x10530, .otherLetter),
    (0x10564, .unassigned), (0x1056F, .otherPunctuation), (0x10570, .uppercaseLetter),
    (0x1057B, .unassigned), (0x1057C, .uppercaseLetter), (0x1058B, .unassigned),
    (0x1058C, .uppercaseLetter), (0x10593, .unassigned), (0x10594, .uppercaseLetter),
    (0x10596, .unassigned), (0x10597, .lowercaseLetter), (0x105A2, .unassigned),
    (0x105A3, .lowercaseLetter), (0x105B2, .unassigned), (0x105B3, .lowercaseLetter),
    (0x105BA, .unassigned), (0x105BB, .lowercaseLetter), (0x105BD, .unassigned),
    (0x10600, .otherLetter), (0x10737, .unassigned), (0x10740, .otherLetter),
    (0x10756, .unassigned), (0x10760, .otherLetter), (0x10768, .unassigned),
    (0x10780, .modifierLetter), (0x10786, .unassigned), (0x10787, .modifierLetter),
    (0x107B1, .unassigned), (0x107B2, .modifierLetter), (0x107BB, .unassigned),
    (0x10800, .otherLetter), (0x10806, .unassigned), (0x10808, .otherLetter),
    (0x10809, .unassigned), (0x1080A, .otherLetter), (0x10836, .unassigned),
    (0x10837, .otherLetter), (0x10839, .unassigned), (0x1083C, .otherLetter),
    (0x1083D, .unassigned), (0x1083F, .otherLetter), (0x10856, .unassigned),
    (0x10857, .otherPunctuation), (0x10858, .otherNumber), (0x10860, .otherLetter),
    (0x10877, .otherSymbol), (0x10879, .otherNumber), (0x10880, .otherLetter),
    (0x1089F, .unassigned), (0x108A7, .otherNumber), (0x108B0, .unassigned),
    (0x108E0, .otherLetter), (0x108F3, .unassigned), (0x108F4, .otherLetter),
    (0x108F6, .unassigned), (0x108FB, .otherNumber), (0x10900, .otherLetter),
    (0x10916, .otherNumber), (0x1091C, .unassigned), (0x1091F, .otherPunctuation),
    (0x10920, .otherLetter), (0x1093A, .unassigned), (0x1093F, .otherPunctuation),
    (0x10940, .unassigned), (0x10980, .otherLetter), (0x109B8, .unassigned),
    (0x109BC, .otherNumber), (0x109BE, .otherLetter), (0x109C0, .otherNumber),
    (0x109D0, .unassigned), (0x109D2, .otherNumber), (0x10A00, .otherLetter),
    (0x10A01, .nonspacingMark), (0x10A04, .unassigned), (0x10A05, .nonspacingMark),
    (0x10A07, .unassigned), (0x10A0C, .nonspacingMark), (0x10A10, .otherLetter),
    (0x10A14, .unassigned), (0x10A15, .otherLetter), (0x10A18, .unassigned),
    (0x10A19, .otherLetter), (0x10A36, .unassigned), (0x10A38, .nonspacingMark),
    (0x10A3B, .unassigned), (0x10A3F, .nonspacingMark), (0x10A40, .otherNumber),
    (0x10A49, .unassigned), (0x10A50, .otherPunctuation), (0x10A59, .unassigned),
    (0x10A60, .otherLetter), (0x10A7D, .otherNumber), (0x10A7F, .otherPunctuation),
    (0x10A80, .otherLetter), (0x10A9D, .otherNumber), (0x10AA0, .unassigned),
    (0x10AC0, .otherLetter), (0x10AC8, .otherSymbol), (0x10AC9, .otherLetter),
    (0x10AE5, .nonspacingMark), (0x10AE7, .unassigned), (0x10AEB, .otherNumber),
    (0x10AF0, .otherPunctuation), (0x10AF7, .unassigned), (0x10B00, .otherLetter),
    (0x10B36, .unassigned), (0x10B39, .otherPunctuation), (0x10B40, .otherLetter),
    (0x10B56, .unassigned), (0x10B58, .otherNumber), (0x10B60, .otherLetter),
    (0x10B73, .unassigned), (0x10B78, .otherNumber), (0x10B80, .otherLetter),
    (0x10B92, .unassigned), (0x10B99, .otherPunctuation), (0x10B9D, .unassigned),
    (0x10BA9, .otherNumber), (0x10BB0, .unassigned), (0x10C00, .otherLetter),
    (0x10C49, .unassigned), (0x10C80, .uppercaseLetter), (0x10CB3, .unassigned),
    (0x10CC0, .lowercaseLetter), (0x10CF3, .unassigned), (0x10CFA, .otherNumber),
    (0x10D00, .otherLetter), (0x10D24, .nonspacingMark), (0x10D28, .unassigned),
    (0x10D30, .decimalNumber), (0x10D3A, .unassigned), (0x10E60, .otherNumber),
    (0x10E7F, .unassigned), (0x10E80, .otherLetter), (0x10EAA, .unassigned),
    (0x10EAB, .nonspacingMark), (0x10EAD, .dashPunctuation), (0x10EAE, .unassigned),
    (0x10EB0, .otherLetter), (0x10EB2, .unassigned), (0x10EFD, .nonspacingMark),
    (0x10F00, .otherLetter), (0x10F1D, .otherNumber), (0x10F27, .otherLetter),
    (0x10F28, .unassigned), (0x10F30, .otherLetter), (0x10F46, .nonspacingMark),
    (0x10F51, .otherNumber), (0x10F55, .otherPunctuation), (0x10F5A, .unassigned),
    (0x10F70, .otherLetter), (0x10F82, .nonspacingMark), (0x10F86, .otherPunctuation),
    (0x10F8A, .unassigned), (0x10FB0, .otherLetter), (0x10FC5, .otherNumber),
    (0x10FCC, .unassigned), (0x10FE0, .otherLetter), (0x10FF7, .unassigned),
    (0x11000, .spacingMark), (0x11001, .nonspacingMark), (0x11002, .spacingMark),
    (0x11003, .otherLetter), (0x11038, .nonspacingMark), (0x11047, .otherPunctuation),
    (0x1104E, .unassigned), (0x11052, .otherNumber), (0x11066, .decimalNumber),
    (0x11070, .nonspacingMark), (0x11071, .otherLetter), (0x11073, .nonspacingMark),
    (0x11075, .otherLetter), (0x11076, .unassigned), (0x1107F, .nonspacingMark),
    (0x11082, .spacingMark), (0x11083, .otherLetter), (0x110B0, .spacingMark),
    (0x110B3, .nonspacingMark), (0x110B7, .spacingMark), (0x110B9, .nonspacingMark),
    (0x110BB, .otherPunctuation), (0x110BD, .format), (0x110BE, .otherPunctuation),
    (0x110C2, .nonspacingMark), (0x110C3, .unassigned), (0x110CD, .format),
    (0x110CE, .unassigned), (0x110D0, .otherLetter), (0x110E9, .unassigned),
    (0x110F0, .decimalNumber), (0x110FA, .unassigned), (0x11100, .nonspacingMark),
    (0x11103, .otherLetter), (0x11127, .nonspacingMark), (0x1112C, .spacingMark),
    (0x1112D, .nonspacingMark), (0x11135, .unassigned), (0x11136, .decimalNumber),
    (0x11140, .otherPunctuation), (0x11144, .otherLetter), (0x11145, .spacingMark),
    (0x11147, .otherLetter), (0x11148, .unassigned), (0x11150, .otherLetter),
    (0x11173, .nonspacingMark), (0x11174, .otherPunctuation), (0x11176, .otherLetter),
    (0x11177, .unassigned), (0x11180, .nonspacingMark), (0x11182, .spacingMark),
    (0x11183, .otherLetter), (0x111B3, .spacingMark), (0x111B6, .nonspacingMark),
    (0x111BF, .spacingMark), (0x111C1, .otherLetter), (0x111C5, .otherPunctuation),
    (0x111C9, .nonspacingMark), (0x111CD, .otherPunctuation), (0x111CE, .spacingMark),
    (0x111CF, .nonspacingMark), (0x111D0, .decimalNumber), (0x111DA, .otherLetter),
    (0x111DB, .otherPunctuation), (0x111DC, .otherLetter), (0x111DD, .otherPunctuation),
    (0x111E0, .unassigned), (0x111E1, .otherNumber), (0x111F5, .unassigned),
    (0x11200, .otherLetter), (0x11212, .unassigned), (0x11213, .otherLetter),
    (0x1122C, .spacingMark), (0x1122F, .nonspacingMark), (0x11232, .spacingMark),
    (0x11234, .nonspacingMark), (0x11235, .spacingMark), (0x11236, .nonspacingMark),
    (0x11238, .otherPunctuation), (0x1123E, .nonspacingMark), (0x1123F, .otherLetter),
    (0x11241, .nonspacingMark), (0x11242, .unassigned), (0x11280, .otherLetter),
    (0x11287, .unassigned), (0x11288, .otherLetter), (0x11289, .unassigned),
    (0x1128A, .otherLetter), (0x1128E, .unassigned), (0x1128F, .otherLetter),
    (0x1129E, .unassigned), (0x1129F, .otherLetter), (0x112A9, .otherPunctuation),
    (0x112AA, .unassigned), (0x112B0, .otherLetter), (0x112DF, .nonspacingMark),
    (0x112E0, .spacingMark), (0x112E3, .nonspacingMark), (0x112EB, .unassigned),
    (0x112F0, .decimalNumber), (0x112FA, .unassigned), (0x11300, .nonspacingMark),
    (0x11302, .spacingMark), (0x11304, .unassigned), (0x11305, .otherLetter),
    (0x1130D, .unassigned), (0x1130F, .otherLetter), (0x11311, .unassigned),
    (0x11313, .otherLetter), (0x11329, .unassigned), (0x1132A, .otherLetter),
    (0x11331, .unassigned), (0x11332, .otherLetter), (0x11334, .unassigned),
    (0x11335, .otherLetter), (0x1133A, .unassigned), (0x1133B, .nonspacingMark),
    (0x1133D, .otherLetter), (0x1133E, .spacingMark), (0x11340, .nonspacingMark),
    (0x11341, .spacingMark), (0x11345, .unassigned), (0x11347, .spacingMark),
    (0x11349, .unassigned), (0x1134B, .spacingMark), (0x1134E, .unassigned),
    (0x11350, .otherLetter), (0x11351, .unassigned), (0x11357, .spacingMark),
    (0x11358, .unassigned), (0x1135D, .otherLetter), (0x11362, .spacingMark),
    (0x11364, .unassigned), (0x11366, .nonspacingMark), (0x1136D, .unassigned),
    (0x11370, .nonspacingMark), (0x11375, .unassigned), (0x11400, .otherLetter),
    (0x11435, .spacingMark), (0x11438, .nonspacingMark), (0x11440, .spacingMark),
    (0x11442, .nonspacingMark), (0x11445, .spacingMark), (0x11446, .nonspacingMark),
    (0x11447, .otherLetter), (0x1144B, .otherPunctuation), (0x11450, .decimalNumber),
    (0x1145A, .otherPunctuation), (0x1145C, .unassigned), (0x1145D, .otherPunctuation),
    (0x1145E, .nonspacingMark), (0x1145F, .otherLetter), (0x11462, .unassigned),
    (0x11480, .otherLetter), (0x114B0, .spacingMark), (0x114B3, .nonspacingMark),
    (0x114B9, .spacingMark), (0x114BA, .nonspacingMark), (0x114BB, .spacingMark),
    (0x114BF, .nonspacingMark), (0x114C1, .spacingMark), (0x114C2, .nonspacingMark),
    (0x114C4, .otherLetter), (0x114C6, .otherPunctuation), (0x114C7, .otherLetter),
    (0x114C8, .unassigned), (0x114D0, .decimalNumber), (0x114DA, .unassigned),
    (0x11580, .otherLetter), (0x115AF, .spacingMark), (0x115B2, .nonspacingMark),
    (0x115B6, .unassigned), (0x115B8, .spacingMark), (0x115BC, .nonspacingMark),
    (0x115BE, .spacingMark), (0x115BF, .nonspacingMark), (0x115C1, .otherPunctuation),
    (0x115D8, .otherLetter), (0x115DC, .nonspacingMark), (0x115DE, .unassigned),
    (0x11600, .otherLetter), (0x11630, .spacingMark), (0x11633, .nonspacingMark),
    (0x1163B, .spacingMark), (0x1163D, .nonspacingMark), (0x1163E, .spacingMark),
    (0x1163F, .nonspacingMark), (0x11641, .otherPunctuation), (0x11644, .otherLetter),
    (0x11645, .unassigned), (0x11650, .decimalNumber), (0x1165A, .unassigned),
    (0x11660, .otherPunctuation), (0x1166D, .unassigned), (0x11680, .otherLetter),
    (0x116AB, .nonspacingMark), (0x116AC, .spacingMark), (0x116AD, .nonspacingMark),
    (0x116AE, .spacingMark), (0x116B0, .nonspacingMark), (0x116B6, .spacingMark),
    (0x116B7, .nonspacingMark), (0x116B8, .otherLetter), (0x116B9, .otherPunctuation),
    (0x116BA, .unassigned), (0x116C0, .decimalNumber), (0x116CA, .unassigned),
    (0x11700, .otherLetter), (0x1171B, .unassigned), (0x1171D, .nonspacingMark),
    (0x11720, .spacingMark), (0x11722, .nonspacingMark), (0x11726, .spacingMark),
    (0x11727, .nonspacingMark), (0x1172C, .unassigned), (0x11730, .decimalNumber),
    (0x1173A, .otherNumber), (0x1173C, .otherPunctuation), (0x1173F, .otherSymbol),
    (0x11740, .otherLetter), (0x11747, .unassigned), (0x11800, .otherLetter),
    (0x1182C, .spacingMark), (0x1182F, .nonspacingMark), (0x11838, .spacingMark),
    (0x11839, .nonspacingMark), (0x1183B, .otherPunctuation), (0x1183C, .unassigned),
    (0x118A0, .uppercaseLetter), (0x118C0, .lowercaseLetter), (0x118E0, .decimalNumber),
    (0x118EA, .otherNumber), (0x118F3, .unassigned), (0x118FF, .otherLetter),
    (0x11907, .unassigned), (0x11909, .otherLetter), (0x1190A, .unassigned),
    (0x1190C, .otherLetter), (0x11914, .unassigned), (0x11915, .otherLetter),
    (0x11917, .unassigned), (0x11918, .otherLetter), (0x11930, .spacingMark),
    (0x11936, .unassigned), (0x11937, .spacingMark), (0x11939, .unassigned),
    (0x1193B, .nonspacingMark), (0x1193D, .spacingMark), (0x1193E, .nonspacingMark),
    (0x1193F, .otherLetter), (0x11940, .spacingMark), (0x11941, .otherLetter),
    (0x11942, .spacingMark), (0x11943, .nonspacingMark), (0x11944, .otherPunctuation),
    (0x11947, .unassigned), (0x11950, .decimalNumber), (0x1195A, .unassigned),
    (0x119A0, .otherLetter), (0x119A8, .unassigned), (0x119AA, .otherLetter),
    (0x119D1, .spacingMark), (0x119D4, .nonspacingMark), (0x119D8, .unassigned),
    (0x119DA, .nonspacingMark), (0x119DC, .spacingMark), (0x119E0, .nonspacingMark),
    (0x119E1, .otherLetter), (0x119E2, .otherPunctuation), (0x119E3, .otherLetter),
    (0x119E4, .spacingMark), (0x119E5, .unassigned), (0x11A00, .otherLetter),
    (0x11A01, .nonspacingMark), (0x11A0B, .otherLetter), (0x11A33, .nonspacingMark),
    (0x11A39, .spacingMark), (0x11A3A, .otherLetter), (0x11A3B, .nonspacingMark),
    (0x11A3F, .otherPunctuation), (0x11A47, .nonspacingMark), (0x11A48, .unassigned),
    (0x11A50, .otherLetter), (0x11A51, .nonspacingMark), (0x11A57, .spacingMark),
    (0x11A59, .nonspacingMark), (0x11A5C, .otherLetter), (0x11A8A, .nonspacingMark),
    (0x11A97, .spacingMark), (0x11A98, .nonspacingMark), (0x11A9A, .otherPunctuation),
    (0x11A9D, .otherLetter), (0x11A9E, .otherPunctuation), (0x11AA3, .unassigned),
    (0x11AB0, .otherLetter), (0x11AF9, .unassigned), (0x11B00, .otherPunctuation),
    (0x11B0A, .unassigned), (0x11C00, .otherLetter), (0x11C09, .unassigned),
    (0x11C0A, .otherLetter), (0x11C2F, .spacingMark), (0x11C30, .nonspacingMark),
    (0x11C37, .unassigned), (0x11C38, .nonspacingMark), (0x11C3E, .spacingMark),
    (0x11C3F, .nonspacingMark), (0x11C40, .otherLetter), (0x11C41, .otherPunctuation),
    (0x11C46, .unassigned), (0x11C50, .decimalNumber), (0x11C5A, .otherNumber),
    (0x11C6D, .unassigned), (0x11C70, .otherPunctuation), (0x11C72, .otherLetter),
    (0x11C90, .unassigned), (0x11C92, .nonspacingMark), (0x11CA8, .unassigned),
    (0x11CA9, .spacingMark), (0x11CAA, .nonspacingMark), (0x11CB1, .spacingMark),
    (0x11CB2, .nonspacingMark), (0x11CB4, .spacingMark), (0x11CB5, .nonspacingMark),
    (0x11CB7, .unassigned), (0x11D00, .otherLetter), (0x11D07, .unassigned),
    (0x11D08, .otherLetter), (0x11D0A, .unassigned), (0x11D0B, .otherLetter),
    (0x11D31, .nonspacingMark), (0x11D37, .unassigned), (0x11D3A, .nonspacingMark),
    (0x11D3B, .unassigned), (0x11D3C, .nonspacingMark), (0x11D3E, .unassigned),
    (0x11D3F, .nonspacingMark), (0x11D46, .otherLetter), (0x11D47, .nonspacingMark),
    (0x11D48, .unassigned), (0x11D50, .decimalNumber), (0x11D5A, .unassigned),
    (0x11D60, .otherLetter), (0x11D66, .unassigned), (0x11D67, .otherLetter),
    (0x11D69, .unassigned), (0x11D6A, .otherLetter), (0x11D8A, .spacingMark),
    (0x11D8F, .unassigned), (0x11D90, .nonspacingMark), (0x11D92, .unassigned),
    (0x11D93, .spacingMark), (0x11D95, .nonspacingMark), (0x11D96, .spacingMark),
    (0x11D97, .nonspacingMark), (0x11D98, .otherLetter), (0x11D99, .unassigned),
    (0x11DA0, .decimalNumber), (0x11DAA, .unassigned), (0x11EE0, .otherLetter),
    (0x11EF3, .nonspacingMark), (0x11EF5, .spacingMark), (0x11EF7, .otherPunctuation),
    (0x11EF9, .unassigned), (0x11F00, .nonspacingMark), (0x11F02, .otherLetter),
    (0x11F03, .spacingMark), (0x11F04, .otherLetter), (0x11F11, .unassigned),
    (0x11F12, .otherLetter), (0x11F34, .spacingMark), (0x11F36, .nonspacingMark),
    (0x11F3B, .unassigned), (0x11F3E, .spacingMark), (0x11F40, .nonspacingMark),
    (0x11F41, .spacingMark), (0x11F42, .nonspacingMark), (0x11F43, .otherPunctuation),
    (0x11F50, .decimalNumber), (0x11F5A, .unassigned), (0x11FB0, .otherLetter),
    (0x11FB1, .unassigned), (0x11FC0, .otherNumber), (0x11FD5, .otherSymbol),
    (0x11FDD, .currencySymbol), (0x11FE1, .otherSymbol), (0x11FF2, .unassigned),
    (0x11FFF, .otherPunctuation), (0x12000, .otherLetter), (0x1239A, .unassigned),
    (0x12400, .letterNumber), (0x1246F, .unassigned), (0x12470, .otherPunctuation),
    (0x12475, .unassigned), (0x12480, .otherLetter), (0x12544, .unassigned),
    (0x12F90, .otherLetter), (0x12FF1, .otherPunctuation), (0x12FF3, .unassigned),
    (0x13000, .otherLetter), (0x13430, .format), (0x13440, .nonspacingMark),
    (0x13441, .otherLetter), (0x13447, .nonspacingMark), (0x13456, .unassigned),
    (0x14400, .otherLetter), (0x14647, .unassigned), (0x16800, .otherLetter),
    (0x16A39, .unassigned), (0x16A40, .otherLetter), (0x16A5F, .unassigned),
    (0x16A60, .decimalNumber), (0x16A6A, .unassigned), (0x16A6E, .otherPunctuation),
    (0x16A70, .otherLetter), (0x16ABF, .unassigned), (0x16AC0, .decimalNumber),
    (0x16ACA, .unassigned), (0x16AD0, .otherLetter), (0x16AEE, .unassigned),
    (0x16AF0, .nonspacingMark), (0x16AF5, .otherPunctuation), (0x16AF6, .unassigned),
    (0x16B00, .otherLetter), (0x16B30, .nonspacingMark), (0x16B37, .otherPunctuation),
    (0x16B3C, .otherSymbol), (0x16B40, .modifierLetter), (0x16B44, .otherPunctuation),
    (0x16B45, .otherSymbol), (0x16B46, .unassigned), (0x16B50, .decimalNumber),
    (0x16B5A, .unassigned), (0x16B5B, .otherNumber), (0x16B62, .unassigned),
    (0x16B63, .otherLetter), (0x16B78, .unassigned), (0x16B7D, .otherLetter),
    (0x16B90, .unassigned), (0x16E40, .uppercaseLetter), (0x16E60, .lowercaseLetter),
    (0x16E80, .otherNumber), (0x16E97, .otherPunctuation), (0x16E9B, .unassigned),
    (0x16F00, .otherLetter), (0x16F4B, .unassigned), (0x16F4F, .nonspacingMark),
    (0x16F50, .otherLetter), (0x16F51, .spacingMark), (0x16F88, .unassigned),
    (0x16F8F, .nonspacingMark), (0x16F93, .modifierLetter), (0x16FA0, .unassigned),
    (0x16FE0, .modifierLetter), (0x16FE2, .otherPunctuation), (0x16FE3, .modifierLetter),
    (0x16FE4, .nonspacingMark), (0x16FE5, .unassigned), (0x16FF0, .spacingMark),
    (0x16FF2, .unassigned), (0x17000, .otherLetter), (0x187F8, .unassigned),
    (0x18800, .otherLetter), (0x18CD6, .unassigned), (0x18D00, .otherLetter),
    (0x18D09, .unassigned), (0x1AFF0, .modifierLetter), (0x1AFF4, .unassigned),
    (0x1AFF5, .modifierLetter), (0x1AFFC, .unassigned), (0x1AFFD, .modifierLetter),
    (0x1AFFF, .unassigned), (0x1B000, .otherLetter), (0x1B123, .unassigned),
    (0x1B132, .otherLetter), (0x1B133, .unassigned), (0x1B150, .otherLetter),
    (0x1B153, .unassigned), (0x1B155, .otherLetter), (0x1B156, .unassigned),
    (0x1B164, .otherLetter), (0x1B168, .unassigned), (0x1B170, .otherLetter),
    (0x1B2FC, .unassigned), (0x1BC00, .otherLetter), (0x1BC6B, .unassigned),
    (0x1BC70, .otherLetter), (0x1BC7D, .unassigned), (0x1BC80, .otherLetter),
    (0x1BC89, .unassigned), (0x1BC90, .otherLetter), (0x1BC9A, .unassigned),
    (0x1BC9C, .otherSymbol), (0x1BC9D, .nonspacingMark), (0x1BC9F, .otherPunctuation),
    (0x1BCA0, .format), (0x1BCA4, .unassigned), (0x1CF00, .nonspacingMark),
    (0x1CF2E, .unassigned), (0x1CF30, .nonspacingMark), (0x1CF47, .unassigned),
    (0x1CF50, .otherSymbol), (0x1CFC4, .unassigned), (0x1D000, .otherSymbol),
    (0x1D0F6, .unassigned), (0x1D100, .otherSymbol), (0x1D127, .unassigned),
    (0x1D129, .otherSymbol), (0x1D165, .spacingMark), (0x1D167, .nonspacingMark),
    (0x1D16A, .otherSymbol), (0x1D16D, .spacingMark), (0x1D173, .format),
    (0x1D17B, .nonspacingMark), (0x1D183, .otherSymbol), (0x1D185, .nonspacingMark),
    (0x1D18C, .otherSymbol), (0x1D1AA, .nonspacingMark), (0x1D1AE, .otherSymbol),
    (0x1D1EB, .unassigned), (0x1D200, .otherSymbol), (0x1D242, .nonspacingMark),
    (0x1D245, .otherSymbol), (0x1D246, .unassigned), (0x1D2C0, .otherNumber),
    (0x1D2D4, .unassigned), (0x1D2E0, .otherNumber), (0x1D2F4, .unassigned),
    (0x1D300, .otherSymbol), (0x1D357, .unassigned), (0x1D360, .otherNumber),
    (0x1D379, .unassigned), (0x1D400, .uppercaseLetter), (0x1D41A, .lowercaseLetter),
    (0x1D434, .uppercaseLetter), (0x1D44E, .lowercaseLetter), (0x1D455, .unassigned),
    (0x1D456, .lowercaseLetter), (0x1D468, .uppercaseLetter), (0x1D482, .lowercaseLetter),
    (0x1D49C, .uppercaseLetter), (0x1D49D, .unassigned), (0x1D49E, .uppercaseLetter),
    (0x1D4A0, .unassigned), (0x1D4A2, .uppercaseLetter), (0x1D4A3, .unassigned),
    (0x1D4A5, .uppercaseLetter), (0x1D4A7, .unassigned), (0x1D4A9, .uppercaseLetter),
    (0x1D4AD, .unassigned), (0x1D4AE, .uppercaseLetter), (0x1D4B6, .lowercaseLetter),
    (0x1D4BA, .unassigned), (0x1D4BB, .lowercaseLetter), (0x1D4BC, .unassigned),
    (0x1D4BD, .lowercaseLetter), (0x1D4C4, .unassigned), (0x1D4C5, .lowercaseLetter),
    (0x1D4D0, .uppercaseLetter), (0x1D4EA, .lowercaseLetter), (0x1D504, .uppercaseLetter),
    (0x1D506, .unassigned), (0x1D507, .uppercaseLetter), (0x1D50B, .unassigned),
    (0x1D50D, .uppercaseLetter), (0x1D515, .unassigned), (0x1D516, .uppercaseLetter),
    (0x1D51D, .unassigned), (0x1D51E, .lowercaseLetter), (0x1D538, .uppercaseLetter),
    (0x1D53A, .unassigned), (0x1D53B, .uppercaseLetter), (0x1D53F, .unassigned),
    (0x1D540, .uppercaseLetter), (0x1D545, .unassigned), (0x1D546, .uppercaseLetter),
    (0x1D547, .unassigned), (0x1D54A, .uppercaseLetter), (0x1D551, .unassigned),
    (0x1D552, .lowercaseLetter), (0x1D56C, .uppercaseLetter), (0x1D586, .lowercaseLetter),
    (0x1D5A0, .uppercaseLetter), (0x1D5BA, .lowercaseLetter), (0x1D5D4, .uppercaseLetter),
    (0x1D5EE, .lowercaseLetter), (0x1D608, .uppercaseLetter), (0x1D622, .lowercaseLetter),
    (0x1D63C, .uppercaseLetter), (0x1D656, .lowercaseLetter), (0x1D670, .uppercaseLetter),
    (0x1D68A, .lowercaseLetter), (0x1D6A6, .unassigned), (0x1D6A8, .uppercaseLetter),
    (0x1D6C1, .mathSymbol), (0x1D6C2, .lowercaseLetter), (0x1D6DB, .mathSymbol),
    (0x1D6DC, .lowercaseLetter), (0x1D6E2, .uppercaseLetter), (0x1D6FB, .mathSymbol),
    (0x1D6FC, .lowercaseLetter), (0x1D715, .mathSymbol), (0x1D716, .lowercaseLetter),
    (0x1D71C, .uppercaseLetter), (0x1D735, .mathSymbol), (0x1D736, .lowercaseLetter),
    (0x1D74F, .mathSymbol), (0x1D750, .lowercaseLetter), (0x1D756, .uppercaseLetter),
    (0x1D76F, .mathSymbol), (0x1D770, .lowercaseLetter), (0x1D789, .mathSymbol),
    (0x1D78A, .lowercaseLetter), (0x1D790, .uppercaseLetter), (0x1D7A9, .mathSymbol),
    (0x1D7AA, .lowercaseLetter), (0x1D7C3, .mathSymbol), (0x1D7C4, .lowercaseLetter),
    (0x1D7CA, .uppercaseLetter), (0x1D7CB, .lowercaseLetter), (0x1D7CC, .unassigned),
    (0x1D7CE, .decimalNumber), (0x1D800, .otherSymbol), (0x1DA00, .nonspacingMark),
    (0x1DA37, .otherSymbol), (0x1DA3B, .nonspacingMark), (0x1DA6D, .otherSymbol),
    (0x1DA75, .nonspacingMark), (0x1DA76, .otherSymbol), (0x1DA84, .nonspacingMark),
    (0x1DA85, .otherSymbol), (0x1DA87, .otherPunctuation), (0x1DA8C, .unassigned),
    (0x1DA9B, .nonspacingMark), (0x1DAA0, .unassigned), (0x1DAA1, .nonspacingMark),
    (0x1DAB0, .unassigned), (0x1DF00, .lowercaseLetter), (0x1DF0A, .otherLetter),
    (0x1DF0B, .lowercaseLetter), (0x1DF1F, .unassigned), (0x1DF25, .lowercaseLetter),
    (0x1DF2B, .unassigned), (0x1E000, .nonspacingMark), (0x1E007, .unassigned),
    (0x1E008, .nonspacingMark), (0x1E019, .unassigned), (0x1E01B, .nonspacingMark),
    (0x1E022, .unassigned), (0x1E023, .nonspacingMark), (0x1E025, .unassigned),
    (0x1E026, .nonspacingMark), (0x1E02B, .unassigned), (0x1E030, .modifierLetter),
    (0x1E06E, .unassigned), (0x1E08F, .nonspacingMark), (0x1E090, .unassigned),
    (0x1E100, .otherLetter), (0x1E12D, .unassigned), (0x1E130, .nonspacingMark),
    (0x1E137, .modifierLetter), (0x1E13E, .unassigned), (0x1E140, .decimalNumber),
    (0x1E14A, .unassigned), (0x1E14E, .otherLetter), (0x1E14F, .otherSymbol),
    (0x1E150, .unassigned), (0x1E290, .otherLetter), (0x1E2AE, .nonspacingMark),
    (0x1E2AF, .unassigned), (0x1E2C0, .otherLetter), (0x1E2EC, .nonspacingMark),
    (0x1E2F0, .decimalNumber), (0x1E2FA, .unassigned), (0x1E2FF, .currencySymbol),
    (0x1E300, .unassigned), (0x1E4D0, .otherLetter), (0x1E4EB, .modifierLetter),
    (0x1E4EC, .nonspacingMark), (0x1E4F0, .decimalNumber), (0x1E4FA, .unassigned),
    (0x1E7E0, .otherLetter), (0x1E7E7, .unassigned), (0x1E7E8, .otherLetter),
    (0x1E7EC, .unassigned), (0x1E7ED, .otherLetter), (0x1E7EF, .unassigned),
    (0x1E7F0, .otherLetter), (0x1E7FF, .unassigned), (0x1E800, .otherLetter),
    (0x1E8C5, .unassigned), (0x1E8C7, .otherNumber), (0x1E8D0, .nonspacingMark),
    (0x1E8D7, .unassigned), (0x1E900, .uppercaseLetter), (0x1E922, .lowercaseLetter),
    (0x1E944, .nonspacingMark), (0x1E94B, .modifierLetter), (0x1E94C, .unassigned),
    (0x1E950, .decimalNumber), (0x1E95A, .unassigned), (0x1E95E, .otherPunctuation),
    (0x1E960, .unassigned), (0x1EC71, .otherNumber), (0x1ECAC, .otherSymbol),
    (0x1ECAD, .otherNumber), (0x1ECB0, .currencySymbol), (0x1ECB1, .otherNumber),
    (0x1ECB5, .unassigned), (0x1ED01, .otherNumber), (0x1ED2E, .otherSymbol),
    (0x1ED2F, .otherNumber), (0x1ED3E, .unassigned), (0x1EE00, .otherLetter),
    (0x1EE04, .unassigned), (0x1EE05, .otherLetter), (0x1EE20, .unassigned),
    (0x1EE21, .otherLetter), (0x1EE23, .unassigned), (0x1EE24, .otherLetter),
    (0x1EE25, .unassigned), (0x1EE27, .otherLetter), (0x1EE28, .unassigned),
    (0x1EE29, .otherLetter), (0x1EE33, .unassigned), (0x1EE34, .otherLetter),
    (0x1EE38, .unassigned), (0x1EE39, .otherLetter), (0x1EE3A, .unassigned),
    (0x1EE3B, .otherLetter), (0x1EE3C, .unassigned), (0x1EE42, .otherLetter),
    (0x1EE43, .unassigned), (0x1EE47, .otherLetter), (0x1EE48, .unassigned),
    (0x1EE49, .otherLetter), (0x1EE4A, .unassigned), (0x1EE4B, .otherLetter),
    (0x1EE4C, .unassigned), (0x1EE4D, .otherLetter), (0x1EE50, .unassigned),
    (0x1EE51, .otherLetter), (0x1EE53, .unassigned), (0x1EE54, .otherLetter),
    (0x1EE55, .unassigned), (0x1EE57, .otherLetter), (0x1EE58, .unassigned),
    (0x1EE59, .otherLetter), (0x1EE5A, .unassigned), (0x1EE5B, .otherLetter),
    (0x1EE5C, .unassigned), (0x1EE5D, .otherLetter), (0x1EE5E, .unassigned),
    (0x1EE5F, .otherLetter), (0x1EE60, .unassigned), (0x1EE61, .otherLetter),
    (0x1EE63, .unassigned), (0x1EE64, .otherLetter), (0x1EE65, .unassigned),
    (0x1EE67, .otherLetter), (0x1EE6B, .unassigned), (0x1EE6C, .otherLetter),
    (0x1EE73, .unassigned), (0x1EE74, .otherLetter), (0x1EE78, .unassigned),
    (0x1EE79, .otherLetter), (0x1EE7D, .unassigned), (0x1EE7E, .otherLetter),
    (0x1EE7F, .unassigned), (0x1EE80, .otherLetter), (0x1EE8A, .unassigned),
    (0x1EE8B, .otherLetter), (0x1EE9C, .unassigned), (0x1EEA1, .otherLetter),
    (0x1EEA4, .unassigned), (0x1EEA5, .otherLetter), (0x1EEAA, .unassigned),
    (0x1EEAB, .otherLetter), (0x1EEBC, .unassigned), (0x1EEF0, .mathSymbol),
    (0x1EEF2, .unassigned), (0x1F000, .otherSymbol), (0x1F02C, .unassigned),
    (0x1F030, .otherSymbol), (0x1F094, .unassigned), (0x1F0A0, .otherSymbol),
    (0x1F0AF, .unassigned), (0x1F0B1, .otherSymbol), (0x1F0C0, .unassigned),
    (0x1F0C1, .otherSymbol), (0x1F0D0, .unassigned), (0x1F0D1, .otherSymbol),
    (0x1F0F6, .unassigned), (0x1F100, .otherNumber), (0x1F10D, .otherSymbol),
    (0x1F1AE, .unassigned), (0x1F1E6, .otherSymbol), (0x1F203, .unassigned),
    (0x1F210, .otherSymbol), (0x1F23C, .unassigned), (0x1F240, .otherSymbol),
    (0x1F249, .unassigned), (0x1F250, .otherSymbol), (0x1F252, .unassigned),
    (0x1F260, .otherSymbol), (0x1F266, .unassigned), (0x1F300, .otherSymbol),
    (0x1F3FB, .modifierSymbol), (0x1F400, .otherSymbol), (0x1F6D8, .unassigned),
    (0x1F6DC, .otherSymbol), (0x1F6ED, .unassigned), (0x1F6F0, .otherSymbol),
    (0x1F6FD, .unassigned), (0x1F700, .otherSymbol), (0x1F777, .unassigned),
    (0x1F77B, .otherSymbol), (0x1F7DA, .unassigned), (0x1F7E0, .otherSymbol),
    (0x1F7EC, .unassigned), (0x1F7F0, .otherSymbol), (0x1F7F1, .unassigned),
    (0x1F800, .otherSymbol), (0x1F80C, .unassigned), (0x1F810, .otherSymbol),
    (0x1F848, .unassigned), (0x1F850, .otherSymbol), (0x1F85A, .unassigned),
    (0x1F860, .otherSymbol), (0x1F888, .unassigned), (0x1F890, .otherSymbol),
    (0x1F8AE, .unassigned), (0x1F8B0, .otherSymbol), (0x1F8B2, .unassigned),
    (0x1F900, .otherSymbol), (0x1FA54, .unassigned), (0x1FA60, .otherSymbol),
    (0x1FA6E, .unassigned), (0x1FA70, .otherSymbol), (0x1FA7D, .unassigned),
    (0x1FA80, .otherSymbol), (0x1FA89, .unassigned), (0x1FA90, .otherSymbol),
    (0x1FABE, .unassigned), (0x1FABF, .otherSymbol), (0x1FAC6, .unassigned),
    (0x1FACE, .otherSymbol), (0x1FADC, .unassigned), (0x1FAE0, .otherSymbol),
    (0x1FAE9, .unassigned), (0x1FAF0, .otherSymbol), (0x1FAF9, .unassigned),
    (0x1FB00, .otherSymbol), (0x1FB93, .unassigned), (0x1FB94, .otherSymbol),
    (0x1FBCB, .unassigned), (0x1FBF0, .decimalNumber), (0x1FBFA, .unassigned),
    (0x20000, .otherLetter), (0x2A6E0, .unassigned), (0x2A700, .otherLetter),
    (0x2B73A, .unassigned), (0x2B740, .otherLetter), (0x2B81E, .unassigned),
    (0x2B820, .otherLetter), (0x2CEA2, .unassigned), (0x2CEB0, .otherLetter),
    (0x2EBE1, .unassigned), (0x2F800, .otherLetter), (0x2FA1E, .unassigned),
    (0x30000, .otherLetter), (0x3134B, .unassigned), (0x31350, .otherLetter),
    (0x323B0, .unassigned), (0xE0001, .format), (0xE0002, .unassigned), (0xE0020, .format),
    (0xE0080, .unassigned), (0xE0100, .nonspacingMark), (0xE01F0, .unassigned),
    (0xF0000, .privateUse), (0xFFFFE, .unassigned), (0x100000, .privateUse),
    (0x10FFFE, .unassigned)]

end Charwise.Unicode.Table
