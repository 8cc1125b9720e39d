import Charwise.Unicode.CodeTable
import Charwise.Unicode.Script

/-!
# Scripts

The script of every code point, as of Unicode 17.0 with additions of 18.0: the scripts Jurchen,
Proto-Cuneiform and Seal, and characters of other scripts up to U+1D6A6. An entry holds from its
code point up to the next entry.
-/

set_option maxRecDepth 100000

namespace Charwise.Unicode.Table

/-- The script of each code point. -/
def script : CodeMap Script where
  outside := .unknown
  entries := #[
    (0x0000, .common), (0x0041, .latin), (0x005B, .common), (0x0061, .latin), (0x007B, .common),
    (0x00AA, .latin), (0x00AB, .common), (0x00BA, .latin), (0x00BB, .common), (0x00C0, .latin),
    (0x00D7, .common), (0x00D8, .latin), (0x00F7, .common), (0x00F8, .latin), (0x02B9, .common),
    (0x02E0, .latin), (0x02E5, .common), (0x02EA, .bopomofo), (0x02EC, .common),
    (0x0300, .inherited), (0x0370, .greek), (0x0374, .common), (0x0375, .greek),
    (0x0378, .unknown), (0x037A, .greek), (0x037E, .common), (0x037F, .greek),
    (0x0380, .unknown), (0x0384, .greek), (0x0385, .common), (0x0386, .greek), (0x0387, .common),
    (0x0388, .greek), (0x038B, .unknown), (0x038C, .greek), (0x038D, .unknown), (0x038E, .greek),
    (0x03A2, .unknown), (0x03A3, .greek), (0x03E2, .coptic), (0x03F0, .greek),
    (0x0400, .cyrillic), (0x0485, .inherited), (0x0487, .cyrillic), (0x0530, .unknown),
    (0x0531, .armenian), (0x0557, .unknown), (0x0558, .armenian), (0x0590, .unknown),
    (0x0591, .hebrew), (0x05CA, .unknown), (0x05D0, .hebrew), (0x05EB, .unknown),
    (0x05EF, .hebrew), (0x05F5, .unknown), (0x0600, .arabic), (0x0605, .common),
    (0x0606, .arabic), (0x060C, .common), (0x060D, .arabic), (0x061B, .common),
    (0x061C, .arabic), (0x061F, .common), (0x0620, .arabic), (0x0640, .common),
    (0x0641, .arabic), (0x064B, .inherited), (0x0656, .arabic), (0x0670, .inherited),
    (0x0671, .arabic), (0x06DD, .common), (0x06DE, .arabic), (0x0700, .syriac),
    (0x070E, .unknown), (0x070F, .syriac), (0x074B, .unknown), (0x074D, .syriac),
    (0x0750, .arabic), (0x0780, .thaana), (0x07B2, .unknown), (0x07C0, .nko), (0x07FB, .unknown),
    (0x07FD, .nko), (0x0800, .samaritan), (0x082E, .unknown), (0x0830, .samaritan),
    (0x083F, .unknown), (0x0840, .mandaic), (0x085C, .unknown), (0x085E, .mandaic),
    (0x085F, .unknown), (0x0860, .syriac), (0x086B, .unknown), (0x0870, .arabic),
    (0x0892, .unknown), (0x0897, .arabic), (0x08E2, .common), (0x08E3, .arabic),
    (0x0900, .devanagari), (0x0951, .inherited), (0x0955, .devanagari), (0x0964, .common),
    (0x0966, .devanagari), (0x0980, .bengali), (0x0984, .unknown), (0x0985, .bengali),
    (0x098D, .unknown), (0x098F, .bengali), (0x0991, .unknown), (0x0993, .bengali),
    (0x09A9, .unknown), (0x09AA, .bengali), (0x09B1, .unknown), (0x09B2, .bengali),
    (0x09B3, .unknown), (0x09B6, .bengali), (0x09BA, .unknown), (0x09BC, .bengali),
    (0x09C5, .unknown), (0x09C7, .bengali), (0x09C9, .unknown), (0x09CB, .bengali),
    (0x09CF, .unknown), (0x09D7, .bengali), (0x09D8, .unknown), (0x09DC, .bengali),
    (0x09DE, .unknown), (0x09DF, .bengali), (0x09E4, .unknown), (0x09E6, .bengali),
    (0x09FF, .unknown), (0x0A01, .gurmukhi), (0x0A04, .unknown), (0x0A05, .gurmukhi),
    (0x0A0B, .unknown), (0x0A0F, .gurmukhi), (0x0A11, .unknown), (0x0A13, .gurmukhi),
    (0x0A29, .unknown), (0x0A2A, .gurmukhi), (0x0A31, .unknown), (0x0A32, .gurmukhi),
    (0x0A34, .unknown), (0x0A35, .gurmukhi), (0x0A37, .unknown), (0x0A38, .gurmukhi),
    (0x0A3A, .unknown), (0x0A3C, .gurmukhi), (0x0A3D, .unknown), (0x0A3E, .gurmukhi),
    (0x0A43, .unknown), (0x0A47, .gurmukhi), (0x0A49, .unknown), (0x0A4B, .gurmukhi),
    (0x0A4E, .unknown), (0x0A51, .gurmukhi), (0x0A52, .unknown), (0x0A59, .gurmukhi),
    (0x0A5D, .unknown), (0x0A5E, .gurmukhi), (0x0A5F, .unknown), (0x0A66, .gurmukhi),
    (0x0A77, .unknown), (0x0A81, .gujarati), (0x0A84, .unknown), (0x0A85, .gujarati),
    (0x0A8E, .unknown), (0x0A8F, .gujarati), (0x0A92, .unknown), (0x0A93, .gujarati),
    (0x0AA9, .unknown), (0x0AAA, .gujarati), (0x0AB1, .unknown), (0x0AB2, .gujarati),
    (0x0AB4, .unknown), (0x0AB5, .gujarati), (0x0ABA, .unknown), (0x0ABC, .gujarati),
    (0x0AC6, .unknown), (0x0AC7, .gujarati), (0x0ACA, .unknown), (0x0ACB, .gujarati),
    (0x0ACE, .unknown), (0x0AD0, .gujarati), (0x0AD1, .unknown), (0x0AE0, .gujarati),
    (0x0AE4, .unknown), (0x0AE6, .gujarati), (0x0AF2, .unknown), (0x0AF9, .gujarati),
    (0x0B00, .unknown), (0x0B01, .oriya), (0x0B04, .unknown), (0x0B05, .oriya),
    (0x0B0D, .unknown), (0x0B0F, .oriya), (0x0B11, .unknown), (0x0B13, .oriya),
    (0x0B29, .unknown), (0x0B2A, .oriya), (0x0B31, .unknown), (0x0B32, .oriya),
    (0x0B34, .unknown), (0x0B35, .oriya), (0x0B3A, .unknown), (0x0B3C, .oriya),
    (0x0B45, .unknown), (0x0B47, .oriya), (0x0B49, .unknown), (0x0B4B, .oriya),
    (0x0B4E, .unknown), (0x0B53, .oriya), (0x0B58, .unknown), (0x0B5C, .oriya),
    (0x0B5E, .unknown), (0x0B5F, .oriya), (0x0B64, .unknown), (0x0B66, .oriya),
    (0x0B78, .unknown), (0x0B82, .tamil), (0x0B84, .unknown), (0x0B85, .tamil),
    (0x0B8B, .unknown), (0x0B8E, .tamil), (0x0B91, .unknown), (0x0B92, .tamil),
    (0x0B96, .unknown), (0x0B99, .tamil), (0x0B9B, .unknown), (0x0B9C, .tamil),
    (0x0B9D, .unknown), (0x0B9E, .tamil), (0x0BA0, .unknown), (0x0BA3, .tamil),
    (0x0BA5, .unknown), (0x0BA8, .tamil), (0x0BAB, .unknown), (0x0BAE, .tamil),
    (0x0BBA, .unknown), (0x0BBE, .tamil), (0x0BC3, .unknown), (0x0BC6, .tamil),
    (0x0BC9, .unknown), (0x0BCA, .tamil), (0x0BCE, .unknown), (0x0BD0, .tamil),
    (0x0BD1, .unknown), (0x0BD7, .tamil), (0x0BD8, .unknown), (0x0BE6, .tamil),
    (0x0BFB, .unknown), (0x0C00, .telugu), (0x0C0D, .unknown), (0x0C0E, .telugu),
    (0x0C11, .unknown), (0x0C12, .telugu), (0x0C29, .unknown), (0x0C2A, .telugu),
    (0x0C3A, .unknown), (0x0C3C, .telugu), (0x0C45, .unknown), (0x0C46, .telugu),
    (0x0C49, .unknown), (0x0C4A, .telugu), (0x0C4E, .unknown), (0x0C55, .telugu),
    (0x0C57, .unknown), (0x0C58, .telugu), (0x0C5B, .unknown), (0x0C5C, .telugu),
    (0x0C5E, .unknown), (0x0C60, .telugu), (0x0C64, .unknown), (0x0C66, .telugu),
    (0x0C70, .unknown), (0x0C77, .telugu), (0x0C80, .kannada), (0x0C8D, .unknown),
    (0x0C8E, .kannada), (0x0C91, .unknown), (0x0C92, .kannada), (0x0CA9, .unknown),
    (0x0CAA, .kannada), (0x0CB4, .unknown), (0x0CB5, .kannada), (0x0CBA, .unknown),
    (0x0CBC, .kannada), (0x0CC5, .unknown), (0x0CC6, .kannada), (0x0CC9, .unknown),
    (0x0CCA, .kannada), (0x0CCE, .unknown), (0x0CD5, .kannada), (0x0CD7, .unknown),
    (0x0CDC, .kannada), (0x0CDF, .unknown), (0x0CE0, .kannada), (0x0CE4, .unknown),
    (0x0CE6, .kannada), (0x0CF0, .unknown), (0x0CF1, .kannada), (0x0CF4, .unknown),
    (0x0D00, .malayalam), (0x0D0D, .unknown), (0x0D0E, .malayalam), (0x0D11, .unknown),
    (0x0D12, .malayalam), (0x0D45, .unknown), (0x0D46, .malayalam), (0x0D49, .unknown),
    (0x0D4A, .malayalam), (0x0D50, .unknown), (0x0D54, .malayalam), (0x0D64, .unknown),
    (0x0D66, .malayalam), (0x0D80, .unknown), (0x0D81, .sinhala), (0x0D84, .unknown),
    (0x0D85, .sinhala), (0x0D97, .unknown), (0x0D9A, .sinhala), (0x0DB2, .unknown),
    (0x0DB3, .sinhala), (0x0DBC, .unknown), (0x0DBD, .sinhala), (0x0DBE, .unknown),
    (0x0DC0, .sinhala), (0x0DC7, .unknown), (0x0DCA, .sinhala), (0x0DCB, .unknown),
    (0x0DCF, .sinhala), (0x0DD5, .unknown), (0x0DD6, .sinhala), (0x0DD7, .unknown),
    (0x0DD8, .sinhala), (0x0DE0, .unknown), (0x0DE6, .sinhala), (0x0DF0, .unknown),
    (0x0DF2, .sinhala), (0x0DF5, .unknown), (0x0E01, .thai), (0x0E3B, .unknown),
    (0x0E3F, .common), (0x0E40, .thai), (0x0E5C, .unknown), (0x0E81, .lao), (0x0E83, .unknown),
    (0x0E84, .lao), (0x0E85, .unknown), (0x0E86, .lao), (0x0E8B, .unknown), (0x0E8C, .lao),
    (0x0EA4, .unknown), (0x0EA5, .lao), (0x0EA6, .unknown), (0x0EA7, .lao), (0x0EBE, .unknown),
    (0x0EC0, .lao), (0x0EC5, .unknown), (0x0EC6, .lao), (0x0EC7, .unknown), (0x0EC8, .lao),
    (0x0ECF, .unknown), (0x0ED0, .lao), (0x0EDA, .unknown), (0x0EDC, .lao), (0x0EE0, .unknown),
    (0x0F00, .tibetan), (0x0F48, .unknown), (0x0F49, .tibetan), (0x0F6D, .unknown),
    (0x0F71, .tibetan), (0x0F98, .unknown), (0x0F99, .tibetan), (0x0FBD, .unknown),
    (0x0FBE, .tibetan), (0x0FCD, .unknown), (0x0FCE, .tibetan), (0x0FD5, .common),
    (0x0FD9, .tibetan), (0x0FDB, .unknown), (0x1000, .myanmar), (0x10A0, .georgian),
    (0x10C6, .unknown), (0x10C7, .georgian), (0x10C8, .unknown), (0x10CD, .georgian),
    (0x10CE, .unknown), (0x10D0, .georgian), (0x10FB, .common), (0x10FC, .georgian),
    (0x1100, .hangul), (0x1200, .ethiopic), (0x1249, .unknown), (0x124A, .ethiopic),
    (0x124E, .unknown), (0x1250, .ethiopic), (0x1257, .unknown), (0x1258, .ethiopic),
    (0x1259, .unknown), (0x125A, .ethiopic), (0x125E, .unknown), (0x1260, .ethiopic),
    (0x1289, .unknown), (0x128A, .ethiopic), (0x128E, .unknown), (0x1290, .ethiopic),
    (0x12B1, .unknown), (0x12B2, .ethiopic), (0x12B6, .unknown), (0x12B8, .ethiopic),
    (0x12BF, .unknown), (0x12C0, .ethiopic), (0x12C1, .unknown), (0x12C2, .ethiopic),
    (0x12C6, .unknown), (0x12C8, .ethiopic), (0x12D7, .unknown), (0x12D8, .ethiopic),
    (0x1311, .unknown), (0x1312, .ethiopic), (0x1316, .unknown), (0x1318, .ethiopic),
    (0x135B, .unknown), (0x135D, .ethiopic), (0x137D, .unknown), (0x1380, .ethiopic),
    (0x139A, .unknown), (0x13A0, .cherokee), (0x13F6, .unknown), (0x13F8, .cherokee),
    (0x13FE, .unknown), (0x1400, .canadianAboriginal), (0x1680, .ogham), (0x169D, .unknown),
    (0x16A0, .runic), (0x16EB, .common), (0x16EE, .runic), (0x16F9, .unknown),
    (0x1700, .tagalog), (0x1716, .unknown), (0x171F, .tagalog), (0x1720, .hanunoo),
    (0x1735, .common), (0x1737, .unknown), (0x1740, .buhid), (0x1754, .unknown),
    (0x1760, .tagbanwa), (0x176D, .unknown), (0x176E, .tagbanwa), (0x1771, .unknown),
    (0x1772, .tagbanwa), (0x1774, .unknown), (0x1780, .khmer), (0x17DE, .unknown),
    (0x17E0, .khmer), (0x17EA, .unknown), (0x17F0, .khmer), (0x17FA, .unknown),
    (0x1800, .mongolian), (0x1802, .common), (0x1804, .mongolian), (0x1805, .common),
    (0x1806, .mongolian), (0x181A, .unknown), (0x1820, .mongolian), (0x1879, .unknown),
    (0x1880, .mongolian), (0x18AB, .unknown), (0x18B0, .canadianAboriginal), (0x18F6, .unknown),
    (0x1900, .limbu), (0x191F, .unknown), (0x1920, .limbu), (0x192C, .unknown), (0x1930, .limbu),
    (0x193C, .unknown), (0x1940, .limbu), (0x1941, .unknown), (0x1944, .limbu), (0x1950, .taiLe),
    (0x196E, .unknown), (0x1970, .taiLe), (0x1975, .unknown), (0x1980, .newTaiLue),
    (0x19AC, .unknown), (0x19B0, .newTaiLue), (0x19CA, .unknown), (0x19D0, .newTaiLue),
    (0x19DB, .unknown), (0x19DE, .newTaiLue), (0x19E0, .khmer), (0x1A00, .buginese),
    (0x1A1C, .unknown), (0x1A1E, .buginese), (0x1A20, .taiTham), (0x1A5F, .unknown),
    (0x1A60, .taiTham), (0x1A7D, .unknown), (0x1A7F, .taiTham), (0x1A8A, .unknown),
    (0x1A90, .taiTham), (0x1A9A, .unknown), (0x1AA0, .taiTham), (0x1AAE, .unknown),
    (0x1AB0, .inherited), (0x1AF1, .unknown), (0x1B00, .balinese), (0x1B4D, .unknown),
    (0x1B4E, .balinese), (0x1B80, .sundanese), (0x1BC0, .batak), (0x1BF4, .unknown),
    (0x1BFC, .batak), (0x1C00, .lepcha), (0x1C38, .unknown), (0x1C3B, .lepcha),
    (0x1C4A, .unknown), (0x1C4D, .lepcha), (0x1C50, .olChiki), (0x1C80, .cyrillic),
    (0x1C8B, .unknown), (0x1C90, .georgian), (0x1CBB, .unknown), (0x1CBD, .georgian),
    (0x1CC0, .sundanese), (0x1CC8, .unknown), (0x1CD0, .inherited), (0x1CD3, .common),
    (0x1CD4, .inherited), (0x1CE1, .common), (0x1CE2, .inherited), (0x1CE9, .common),
    (0x1CED, .inherited), (0x1CEE, .common), (0x1CF4, .inherited), (0x1CF5, .common),
    (0x1CF8, .inherited), (0x1CFA, .common), (0x1CFB, .unknown), (0x1D00, .latin),
    (0x1D26, .greek), (0x1D2B, .cyrillic), (0x1D2C, .latin), (0x1D5D, .greek), (0x1D62, .latin),
    (0x1D66, .greek), (0x1D6B, .latin), (0x1D78, .cyrillic), (0x1D79, .latin), (0x1DBF, .greek),
    (0x1DC0, .inherited), (0x1E00, .latin), (0x1F00, .greek), (0x1F16, .unknown),
    (0x1F18, .greek), (0x1F1E, .unknown), (0x1F20, .greek), (0x1F46, .unknown), (0x1F48, .greek),
    (0x1F4E, .unknown), (0x1F50, .greek), (0x1F58, .unknown), (0x1F59, .greek),
    (0x1F5A, .unknown), (0x1F5B, .greek), (0x1F5C, .unknown), (0x1F5D, .greek),
    (0x1F5E, .unknown), (0x1F5F, .greek), (0x1F7E, .unknown), (0x1F80, .greek),
    (0x1FB5, .unknown), (0x1FB6, .greek), (0x1FC5, .unknown), (0x1FC6, .greek),
    (0x1FD4, .unknown), (0x1FD6, .greek), (0x1FDC, .unknown), (0x1FDD, .greek),
    (0x1FF0, .unknown), (0x1FF2, .greek), (0x1FF5, .unknown), (0x1FF6, .greek),
    (0x1FFF, .unknown), (0x2000, .common), (0x200C, .inherited), (0x200E, .common),
    (0x2065, .unknown), (0x2066, .common), (0x2071, .latin), (0x2072, .unknown),
    (0x2074, .common), (0x207F, .latin), (0x2080, .common), (0x2090, .latin), (0x20A0, .common),
    (0x20C5, .unknown), (0x20D0, .inherited), (0x20F1, .unknown), (0x2100, .common),
    (0x2126, .greek), (0x2127, .common), (0x212A, .latin), (0x212C, .common), (0x2132, .latin),
    (0x2133, .common), (0x214E, .latin), (0x214F, .common), (0x2160, .latin), (0x2189, .common),
    (0x218C, .unknown), (0x2190, .common), (0x242A, .unknown), (0x2440, .common),
    (0x244B, .unknown), (0x2460, .common), (0x2800, .braille), (0x2900, .common),
    (0x2B74, .unknown), (0x2B76, .common), (0x2C00, .glagolitic), (0x2C60, .latin),
    (0x2C80, .coptic), (0x2CF4, .unknown), (0x2CF9, .coptic), (0x2D00, .georgian),
    (0x2D26, .unknown), (0x2D27, .georgian), (0x2D28, .unknown), (0x2D2D, .georgian),
    (0x2D2E, .unknown), (0x2D30, .tifinagh), (0x2D68, .unknown), (0x2D6F, .tifinagh),
    (0x2D71, .unknown), (0x2D7F, .tifinagh), (0x2D80, .ethiopic), (0x2D97, .unknown),
    (0x2DA0, .ethiopic), (0x2DA7, .unknown), (0x2DA8, .ethiopic), (0x2DAF, .unknown),
    (0x2DB0, .ethiopic), (0x2DB7, .unknown), (0x2DB8, .ethiopic), (0x2DBF, .unknown),
    (0x2DC0, .ethiopic), (0x2DC7, .unknown), (0x2DC8, .ethiopic), (0x2DCF, .unknown),
    (0x2DD0, .ethiopic), (0x2DD7, .unknown), (0x2DD8, .ethiopic), (0x2DDF, .unknown),
    (0x2DE0, .cyrillic), (0x2E00, .common), (0x2E5E, .unknown), (0x2E60, .common),
    (0x2E64, .unknown), (0x2E80, .han), (0x2E9A, .unknown), (0x2E9B, .han), (0x2EF4, .unknown),
    (0x2F00, .han), (0x2FD6, .unknown), (0x2FF0, .common), (0x3005, .han), (0x3006, .common),
    (0x3007, .han), (0x3008, .common), (0x3021, .han), (0x302A, .inherited), (0x302E, .hangul),
    (0x3030, .common), (0x3038, .han), (0x303C, .common), (0x3040, .unknown),
    (0x3041, .hiragana), (0x3097, .unknown), (0x3099, .inherited), (0x309B, .common),
    (0x309D, .hiragana), (0x30A0, .common), (0x30A1, .katakana), (0x30FB, .common),
    (0x30FD, .katakana), (0x3100, .unknown), (0x3105, .bopomofo), (0x3130, .unknown),
    (0x3131, .hangul), (0x318F, .unknown), (0x3190, .common), (0x31A0, .bopomofo),
    (0x31C0, .common), (0x31E6, .unknown), (0x31EF, .common), (0x31F0, .katakana),
    (0x3200, .hangul), (0x321F, .unknown), (0x3220, .common), (0x3260, .hangul),
    (0x327F, .common), (0x32D0, .katakana), (0x32FF, .common), (0x3300, .katakana),
    (0x3358, .common), (0x3400, .han), (0x4DC0, .common), (0x4E00, .han), (0xA000, .yi),
    (0xA48D, .unknown), (0xA490, .yi), (0xA4C7, .unknown), (0xA4D0, .lisu), (0xA500, .vai),
    (0xA62C, .unknown), (0xA640, .cyrillic), (0xA6A0, .bamum), (0xA6F8, .unknown),
    (0xA700, .common), (0xA722, .latin), (0xA788, .common), (0xA78B, .latin), (0xA7DE, .unknown),
    (0xA7E2, .latin), (0xA7E3, .unknown), (0xA7F1, .latin), (0xA800, .sylotiNagri),
    (0xA82D, .unknown), (0xA830, .common), (0xA83A, .unknown), (0xA840, .phagsPa),
    (0xA878, .unknown), (0xA880, .saurashtra), (0xA8C6, .unknown), (0xA8CE, .saurashtra),
    (0xA8DA, .unknown), (0xA8E0, .devanagari), (0xA900, .kayahLi), (0xA92E, .common),
    (0xA92F, .kayahLi), (0xA930, .rejang), (0xA954, .unknown), (0xA95F, .rejang),
    (0xA960, .hangul), (0xA97D, .unknown), (0xA980, .javanese), (0xA9CE, .unknown),
    (0xA9CF, .common), (0xA9D0, .javanese), (0xA9DA, .unknown), (0xA9DE, .javanese),
    (0xA9E0, .myanmar), (0xA9FF, .unknown), (0xAA00, .cham), (0xAA37, .unknown), (0xAA40, .cham),
    (0xAA4E, .unknown), (0xAA50, .cham), (0xAA5A, .unknown), (0xAA5C, .cham), (0xAA60, .myanmar),
    (0xAA80, .taiViet), (0xAAC3, .unknown), (0xAADB, .taiViet), (0xAAE0, .meeteiMayek),
    (0xAAF7, .unknown), (0xAB01, .ethiopic), (0xAB07, .unknown), (0xAB09, .ethiopic),
    (0xAB0F, .unknown), (0xAB11, .ethiopic), (0xAB17, .unknown), (0xAB20, .ethiopic),
    (0xAB27, .unknown), (0xAB28, .ethiopic), (0xAB2F, .unknown), (0xAB30, .latin),
    (0xAB5B, .common), (0xAB5C, .latin), (0xAB65, .greek), (0xAB66, .latin), (0xAB6A, .common),
    (0xAB6C, .latin), (0xAB6E, .unknown), (0xAB70, .cherokee), (0xABC0, .meeteiMayek),
    (0xABEE, .unknown), (0xABF0, .meeteiMayek), (0xABFA, .unknown), (0xAC00, .hangul),
    (0xD7A4, .unknown), (0xD7B0, .hangul), (0xD7C7, .unknown), (0xD7CB, .hangul),
    (0xD7FC, .unknown), (0xF900, .han), (0xFA6E, .unknown), (0xFA70, .han), (0xFADA, .unknown),
    (0xFB00, .latin), (0xFB07, .unknown), (0xFB13, .armenian), (0xFB18, .unknown),
    (0xFB1D, .hebrew), (0xFB37, .unknown), (0xFB38, .hebrew), (0xFB3D, .unknown),
    (0xFB3E, .hebrew), (0xFB3F, .unknown), (0xFB40, .hebrew), (0xFB42, .unknown),
    (0xFB43, .hebrew), (0xFB45, .unknown), (0xFB46, .hebrew), (0xFB50, .arabic),
    (0xFD3E, .common), (0xFD40, .arabic), (0xFDD0, .unknown), (0xFDF0, .arabic),
    (0xFE00, .inherited), (0xFE10, .common), (0xFE1A, .unknown), (0xFE20, .inherited),
    (0xFE2E, .cyrillic), (0xFE30, .common), (0xFE53, .unknown), (0xFE54, .common),
    (0xFE67, .unknown), (0xFE68, .common), (0xFE6C, .unknown), (0xFE70, .arabic),
    (0xFE75, .unknown), (0xFE76, .arabic), (0xFEFD, .unknown), (0xFEFF, .common),
    (0xFF00, .unknown), (0xFF01, .common), (0xFF21, .latin), (0xFF3B, .common), (0xFF41, .latin),
    (0xFF5B, .common), (0xFF66, .katakana), (0xFF70, .common), (0xFF71, .katakana),
    (0xFF9E, .common), (0xFFA0, .hangul), (0xFFBF, .unknown), (0xFFC2, .hangul),
    (0xFFC8, .unknown), (0xFFCA, .hangul), (0xFFD0, .unknown), (0xFFD2, .hangul),
    (0xFFD8, .unknown), (0xFFDA, .hangul), (0xFFDD, .unknown), (0xFFE0, .common),
    (0xFFE7, .unknown), (0xFFE8, .common), (0xFFEF, .unknown), (0xFFF9, .common),
    (0xFFFE, .unknown), (0x10000, .linearB), (0x1000C, .unknown), (0x1000D, .linearB),
    (0x10027, .unknown), (0x10028, .linearB), (0x1003B, .unknown), (0x1003C, .linearB),
    (0x1003E, .unknown), (0x1003F, .linearB), (0x1004E, .unknown), (0x10050, .linearB),
    (0x1005E, .unknown), (0x10080, .linearB), (0x100FB, .unknown), (0x10100, .common),
    (0x10103, .unknown), (0x10107, .common), (0x10134, .unknown), (0x10137, .common),
    (0x10140, .greek), (0x1018F, .unknown), (0x10190, .common), (0x1019D, .unknown),
    (0x101A0, .greek), (0x101A1, .unknown), (0x101D0, .common), (0x101FD, .inherited),
    (0x101FE, .unknown), (0x10280, .lycian), (0x1029D, .unknown), (0x102A0, .carian),
    (0x102D1, .unknown), (0x102E0, .inherited), (0x102E1, .common), (0x102FC, .unknown),
    (0x10300, .oldItalic), (0x10324, .unknown), (0x1032D, .oldItalic), (0x10330, .gothic),
    (0x1034B, .unknown), (0x10350, .oldPermic), (0x1037B, .unknown), (0x10380, .ugaritic),
    (0x1039E, .unknown), (0x1039F, .ugaritic), (0x103A0, .oldPersian), (0x103C4, .unknown),
    (0x103C8, .oldPersian), (0x103D6, .unknown), (0x10400, .deseret), (0x10450, .shavian),
    (0x10480, .osmanya), (0x1049E, .unknown), (0x104A0, .osmanya), (0x104AA, .unknown),
    (0x104B0, .osage), (0x104D4, .unknown), (0x104D8, .osage), (0x104FC, .unknown),
    (0x10500, .elbasan), (0x10528, .unknown), (0x10530, .caucasianAlbanian), (0x10564, .unknown),
    (0x1056F, .caucasianAlbanian), (0x10570, .vithkuqi), (0x1057B, .unknown),
    (0x1057C, .vithkuqi), (0x1058B, .unknown), (0x1058C, .vithkuqi), (0x10593, .unknown),
    (0x10594, .vithkuqi), (0x10596, .unknown), (0x10597, .vithkuqi), (0x105A2, .unknown),
    (0x105A3, .vithkuqi), (0x105B2, .unknown), (0x105B3, .vithkuqi), (0x105BA, .unknown),
    (0x105BB, .vithkuqi), (0x105BD, .unknown), (0x105C0, .todhri), (0x105F4, .unknown),
    (0x10600, .linearA), (0x10737, .unknown), (0x10740, .linearA), (0x10756, .unknown),
    (0x10760, .linearA), (0x10768, .unknown), (0x10780, .latin), (0x10786, .unknown),
    (0x10787, .latin), (0x107B1, .unknown), (0x107B2, .latin), (0x107C0, .unknown),
    (0x10800, .cypriot), (0x10806, .unknown), (0x10808, .cypriot), (0x10809, .unknown),
    (0x1080A, .cypriot), (0x10836, .unknown), (0x10837, .cypriot), (0x10839, .unknown),
    (0x1083C, .cypriot), (0x1083D, .unknown), (0x1083F, .cypriot), (0x10840, .imperialAramaic),
    (0x10856, .unknown), (0x10857, .imperialAramaic), (0x10860, .palmyrene),
    (0x10880, .nabataean), (0x1089F, .unknown), (0x108A7, .nabataean), (0x108B0, .unknown),
    (0x108E0, .hatran), (0x108F3, .unknown), (0x108F4, .hatran), (0x108F6, .unknown),
    (0x108FB, .hatran), (0x10900, .phoenician), (0x1091C, .unknown), (0x1091F, .phoenician),
    (0x10920, .lydian), (0x1093A, .unknown), (0x1093F, .lydian), (0x10940, .sidetic),
    (0x1095A, .unknown), (0x10980, .meroiticHieroglyphs), (0x109A0, .meroiticCursive),
    (0x109B8, .unknown), (0x109BC, .meroiticCursive), (0x109D0, .unknown),
    (0x109D2, .meroiticCursive), (0x10A00, .kharoshthi), (0x10A04, .unknown),
    (0x10A05, .kharoshthi), (0x10A07, .unknown), (0x10A0C, .kharoshthi), (0x10A14, .unknown),
    (0x10A15, .kharoshthi), (0x10A18, .unknown), (0x10A19, .kharoshthi), (0x10A36, .unknown),
    (0x10A38, .kharoshthi), (0x10A3B, .unknown), (0x10A3F, .kharoshthi), (0x10A49, .unknown),
    (0x10A50, .kharoshthi), (0x10A59, .unknown), (0x10A60, .oldSouthArabian),
    (0x10A80, .oldNorthArabian), (0x10AA0, .unknown), (0x10AC0, .manichaean),
    (0x10AE7, .unknown), (0x10AEB, .manichaean), (0x10AF7, .unknown), (0x10B00, .avestan),
    (0x10B36, .unknown), (0x10B39, .avestan), (0x10B40, .inscriptionalParthian),
    (0x10B56, .unknown), (0x10B58, .inscriptionalParthian), (0x10B60, .inscriptionalPahlavi),
    (0x10B73, .unknown), (0x10B78, .inscriptionalPahlavi), (0x10B80, .psalterPahlavi),
    (0x10B92, .unknown), (0x10B99, .psalterPahlavi), (0x10B9D, .unknown),
    (0x10BA9, .psalterPahlavi), (0x10BB0, .unknown), (0x10C00, .oldTurkic), (0x10C49, .unknown),
    (0x10C80, .oldHungarian), (0x10CB3, .unknown), (0x10CC0, .oldHungarian), (0x10CF3, .unknown),
    (0x10CFA, .oldHungarian), (0x10D00, .hanifiRohingya), (0x10D28, .unknown),
    (0x10D30, .hanifiRohingya), (0x10D3A, .unknown), (0x10D40, .garay), (0x10D66, .unknown),
    (0x10D69, .garay), (0x10D86, .unknown), (0x10D8E, .garay), (0x10D90, .unknown),
    (0x10E60, .arabic), (0x10E7F, .unknown), (0x10E80, .yezidi), (0x10EAA, .unknown),
    (0x10EAB, .yezidi), (0x10EAE, .unknown), (0x10EB0, .yezidi), (0x10EB2, .unknown),
    (0x10EC2, .arabic), (0x10EC8, .unknown), (0x10EC9, .arabic), (0x10EEF, .unknown),
    (0x10EF0, .arabic), (0x10F00, .oldSogdian), (0x10F28, .unknown), (0x10F30, .sogdian),
    (0x10F5A, .unknown), (0x10F70, .oldUyghur), (0x10F8A, .unknown), (0x10FB0, .chorasmian),
    (0x10FCC, .unknown), (0x10FE0, .elymaic), (0x10FF7, .unknown), (0x11000, .brahmi),
    (0x1104E, .unknown), (0x11052, .brahmi), (0x11076, .unknown), (0x1107F, .brahmi),
    (0x11080, .kaithi), (0x110C3, .unknown), (0x110CD, .kaithi), (0x110CE, .unknown),
    (0x110D0, .soraSompeng), (0x110E9, .unknown), (0x110F0, .soraSompeng), (0x110FA, .unknown),
    (0x11100, .chakma), (0x11135, .unknown), (0x11136, .chakma), (0x11148, .unknown),
    (0x11150, .mahajani), (0x11177, .unknown), (0x11180, .sharada), (0x111E0, .unknown),
    (0x111E1, .sinhala), (0x111F5, .unknown), (0x11200, .khojki), (0x11212, .unknown),
    (0x11213, .khojki), (0x11242, .unknown), (0x11280, .multani), (0x11287, .unknown),
    (0x11288, .multani), (0x11289, .unknown), (0x1128A, .multani), (0x1128E, .unknown),
    (0x1128F, .multani), (0x1129E, .unknown), (0x1129F, .multani), (0x112AA, .unknown),
    (0x112B0, .khudawadi), (0x112EB, .unknown), (0x112F0, .khudawadi), (0x112FA, .unknown),
    (0x11300, .grantha), (0x11304, .unknown), (0x11305, .grantha), (0x1130D, .unknown),
    (0x1130F, .grantha), (0x11311, .unknown), (0x11313, .grantha), (0x11329, .unknown),
    (0x1132A, .grantha), (0x11331, .unknown), (0x11332, .grantha), (0x11334, .unknown),
    (0x11335, .grantha), (0x1133A, .unknown), (0x1133B, .inherited), (0x1133C, .grantha),
    (0x11345, .unknown), (0x11347, .grantha), (0x11349, .unknown), (0x1134B, .grantha),
    (0x1134E, .unknown), (0x11350, .grantha), (0x11351, .unknown), (0x11357, .grantha),
    (0x11358, .unknown), (0x1135D, .grantha), (0x11364, .unknown), (0x11366, .grantha),
    (0x1136D, .unknown), (0x11370, .grantha), (0x11375, .unknown), (0x11380, .tuluTigalari),
    (0x1138A, .unknown), (0x1138B, .tuluTigalari), (0x1138C, .unknown), (0x1138E, .tuluTigalari),
    (0x1138F, .unknown), (0x11390, .tuluTigalari), (0x113B6, .unknown), (0x113B7, .tuluTigalari),
    (0x113C1, .unknown), (0x113C2, .tuluTigalari), (0x113C3, .unknown), (0x113C5, .tuluTigalari),
    (0x113C6, .unknown), (0x113C7, .tuluTigalari), (0x113CB, .unknown), (0x113CC, .tuluTigalari),
    (0x113D6, .unknown), (0x113D7, .tuluTigalari), (0x113D9, .unknown), (0x113E1, .tuluTigalari),
    (0x113E3, .unknown), (0x11400, .newa), (0x1145C, .unknown), (0x1145D, .newa),
    (0x11462, .unknown), (0x11480, .tirhuta), (0x114C8, .unknown), (0x114D0, .tirhuta),
    (0x114DA, .unknown), (0x11580, .siddham), (0x115B6, .unknown), (0x115B8, .siddham),
    (0x115DE, .unknown), (0x11600, .modi), (0x11645, .unknown), (0x11650, .modi),
    (0x1165A, .unknown), (0x11660, .mongolian), (0x1166D, .unknown), (0x11680, .takri),
    (0x116BA, .unknown), (0x116C0, .takri), (0x116CA, .unknown), (0x116D0, .myanmar),
    (0x116E4, .unknown), (0x11700, .ahom), (0x1171B, .unknown), (0x1171D, .ahom),
    (0x1172C, .unknown), (0x11730, .ahom), (0x11747, .unknown), (0x11800, .dogra),
    (0x1183C, .unknown), (0x118A0, .warangCiti), (0x118F3, .unknown), (0x118FF, .warangCiti),
    (0x11900, .divesAkuru), (0x11907, .unknown), (0x11909, .divesAkuru), (0x1190A, .unknown),
    (0x1190C, .divesAkuru), (0x11914, .unknown), (0x11915, .divesAkuru), (0x11917, .unknown),
    (0x11918, .divesAkuru), (0x11936, .unknown), (0x11937, .divesAkuru), (0x11939, .unknown),
    (0x1193B, .divesAkuru), (0x11947, .unknown), (0x11950, .divesAkuru), (0x1195A, .unknown),
    (0x119A0, .nandinagari), (0x119A8, .unknown), (0x119AA, .nandinagari), (0x119D8, .unknown),
    (0x119DA, .nandinagari), (0x119E5, .unknown), (0x11A00, .zanabazarSquare),
    (0x11A48, .unknown), (0x11A50, .soyombo), (0x11AA3, .unknown),
    (0x11AB0, .canadianAboriginal), (0x11AC0, .pauCinHau), (0x11AF9, .unknown),
    (0x11B00, .devanagari), (0x11B0B, .unknown), (0x11B60, .sharada), (0x11B68, .unknown),
    (0x11BC0, .sunuwar), (0x11BE2, .unknown), (0x11BF0, .sunuwar), (0x11BFA, .unknown),
    (0x11C00, .bhaiksuki), (0x11C09, .unknown), (0x11C0A, .bhaiksuki), (0x11C37, .unknown),
    (0x11C38, .bhaiksuki), (0x11C46, .unknown), (0x11C50, .bhaiksuki), (0x11C6D, .unknown),
    (0x11C70, .marchen), (0x11C90, .unknown), (0x11C92, .marchen), (0x11CA8, .unknown),
    (0x11CA9, .marchen), (0x11CB7, .unknown), (0x11D00, .masaramGondi), (0x11D07, .unknown),
    (0x11D08, .masaramGondi), (0x11D0A, .unknown), (0x11D0B, .masaramGondi), (0x11D37, .unknown),
    (0x11D3A, .masaramGondi), (0x11D3B, .unknown), (0x11D3C, .masaramGondi), (0x11D3E, .unknown),
    (0x11D3F, .masaramGondi), (0x11D48, .unknown), (0x11D50, .masaramGondi), (0x11D5A, .unknown),
    (0x11D60, .gunjalaGondi), (0x11D66, .unknown), (0x11D67, .gunjalaGondi), (0x11D69, .unknown),
    (0x11D6A, .gunjalaGondi), (0x11D8F, .unknown), (0x11D90, .gunjalaGondi), (0x11D92, .unknown),
    (0x11D93, .gunjalaGondi), (0x11D99, .unknown), (0x11DA0, .gunjalaGondi), (0x11DAA, .unknown),
    (0x11DB0, .tolongSiki), (0x11DDC, .unknown), (0x11DE0, .tolongSiki), (0x11DEA, .unknown),
    (0x11DF0, .bengali), (0x11DF2, .unknown), (0x11EE0, .makasar), (0x11EF9, .unknown),
    (0x11F00, .kawi), (0x11F11, .unknown), (0x11F12, .kawi), (0x11F3B, .unknown),
    (0x11F3E, .kawi), (0x11F5B, .unknown), (0x11FB0, .lisu), (0x11FB1, .unknown),
    (0x11FC0, .tamil), (0x11FF2, .unknown), (0x11FFF, .tamil), (0x12000, .cuneiform),
    (0x1239A, .unknown), (0x12400, .cuneiform), (0x12544, .unknown), (0x12550, .cuneiform),
    (0x125A8, .protoCuneiform), (0x1264C, .cuneiform), (0x12687, .unknown),
    (0x12F90, .cyproMinoan), (0x12FF3, .unknown), (0x13000, .egyptianHieroglyphs),
    (0x13456, .unknown), (0x13460, .egyptianHieroglyphs), (0x143FB, .unknown),
    (0x14400, .anatolianHieroglyphs), (0x14647, .unknown), (0x16100, .gurungKhema),
    (0x1613A, .unknown), (0x16800, .bamum), (0x16A39, .unknown), (0x16A40, .mro),
    (0x16A5F, .unknown), (0x16A60, .mro), (0x16A6A, .unknown), (0x16A6E, .mro),
    (0x16A70, .tangsa), (0x16ABF, .unknown), (0x16AC0, .tangsa), (0x16ACA, .unknown),
    (0x16AD0, .bassaVah), (0x16AEE, .unknown), (0x16AF0, .bassaVah), (0x16AF6, .unknown),
    (0x16B00, .pahawhHmong), (0x16B46, .unknown), (0x16B50, .pahawhHmong), (0x16B5A, .unknown),
    (0x16B5B, .pahawhHmong), (0x16B62, .unknown), (0x16B63, .pahawhHmong), (0x16B78, .unknown),
    (0x16B7D, .pahawhHmong), (0x16B90, .unknown), (0x16D40, .kiratRai), (0x16D7A, .unknown),
    (0x16E40, .medefaidrin), (0x16E9B, .unknown), (0x16EA0, .beriaErfe), (0x16EB9, .unknown),
    (0x16EBB, .beriaErfe), (0x16ED4, .unknown), (0x16F00, .miao), (0x16F4B, .unknown),
    (0x16F4F, .miao), (0x16F88, .unknown), (0x16F8F, .miao), (0x16FA0, .unknown),
    (0x16FE0, .tangut), (0x16FE1, .nushu), (0x16FE2, .han), (0x16FE4, .khitanSmallScript),
    (0x16FE5, .unknown), (0x16FF0, .han), (0x16FF7, .unknown), (0x17000, .tangut),
    (0x18B00, .khitanSmallScript), (0x18CDB, .unknown), (0x18CFF, .khitanSmallScript),
    (0x18D00, .tangut), (0x18D21, .unknown), (0x18D80, .tangut), (0x18DF3, .unknown),
    (0x18E00, .jurchen), (0x19192, .unknown), (0x191A0, .jurchen), (0x191D3, .unknown),
    (0x1AFF0, .katakana), (0x1AFF4, .unknown), (0x1AFF5, .katakana), (0x1AFFC, .unknown),
    (0x1AFFD, .katakana), (0x1AFFF, .unknown), (0x1B000, .katakana), (0x1B001, .hiragana),
    (0x1B120, .katakana), (0x1B123, .hiragana), (0x1B124, .katakana), (0x1B129, .unknown),
    (0x1B132, .hiragana), (0x1B133, .unknown), (0x1B150, .hiragana), (0x1B153, .unknown),
    (0x1B155, .katakana), (0x1B156, .unknown), (0x1B164, .katakana), (0x1B169, .unknown),
    (0x1B170, .nushu), (0x1B2FC, .unknown), (0x1BC00, .duployan), (0x1BC6B, .unknown),
    (0x1BC70, .duployan), (0x1BC7D, .unknown), (0x1BC80, .duployan), (0x1BC89, .unknown),
    (0x1BC90, .duployan), (0x1BC9A, .unknown), (0x1BC9C, .duployan), (0x1BCA0, .common),
    (0x1BCA4, .unknown), (0x1CC00, .common), (0x1CCFD, .unknown), (0x1CD00, .common),
    (0x1CEB4, .unknown), (0x1CEBA, .common), (0x1CED1, .unknown), (0x1CED2, .common),
    (0x1CED5, .unknown), (0x1CEDD, .common), (0x1CEFE, .unknown), (0x1CF00, .inherited),
    (0x1CF2E, .unknown), (0x1CF30, .inherited), (0x1CF47, .unknown), (0x1CF50, .common),
    (0x1CFC4, .unknown), (0x1D000, .common), (0x1D0F6, .unknown), (0x1D100, .common),
    (0x1D127, .inherited), (0x1D129, .common), (0x1D167, .inherited), (0x1D16A, .common),
    (0x1D17B, .inherited), (0x1D183, .common), (0x1D185, .inherited), (0x1D18C, .common),
    (0x1D1AA, .inherited), (0x1D1AE, .common), (0x1D200, .greek), (0x1D246, .unknown),
    (0x1D250, .common), (0x1D25B, .inherited), (0x1D25D, .common), (0x1D282, .unknown),
    (0x1D2C0, .common), (0x1D2D4, .unknown), (0x1D2E0, .common), (0x1D2F4, .unknown),
    (0x1D300, .common), (0x1D357, .unknown), (0x1D360, .common), (0x1D379, .unknown),
    (0x1D400, .common), (0x1D455, .unknown), (0x1D456, .common), (0x1D49D, .unknown),
    (0x1D49E, .common), (0x1D4A0, .unknown), (0x1D4A2, .common), (0x1D4A3, .unknown),
    (0x1D4A5, .common), (0x1D4A7, .unknown), (0x1D4A9, .common), (0x1D4AD, .unknown),
    (0x1D4AE, .common), (0x1D4BA, .unknown), (0x1D4BB, .common), (0x1D4BC, .unknown),
    (0x1D4BD, .common), (0x1D4C4, .unknown), (0x1D4C5, .common), (0x1D506, .unknown),
    (0x1D507, .common), (0x1D50B, .unknown), (0x1D50D, .common), (0x1D515, .unknown),
    (0x1D516, .common), (0x1D51D, .unknown), (0x1D51E, .common), (0x1D53A, .unknown),
    (0x1D53B, .common), (0x1D53F, .unknown), (0x1D540, .common), (0x1D545, .unknown),
    (0x1D546, .common), (0x1D547, .unknown), (0x1D54A, .common), (0x1D551, .unknown),
    (0x1D552, .common), (0x1D6A7, .unknown), (0x1D6A8, .common), (0x1D7CC, .unknown),
    (0x1D7CE, .common), (0x1D800, .signWriting), (0x1DA8C, .unknown), (0x1DA9B, .signWriting),
    (0x1DAA0, .unknown), (0x1DAA1, .signWriting), (0x1DAB0, .unknown), (0x1DF00, .latin),
    (0x1DF1F, .unknown), (0x1DF25, .latin), (0x1DF2B, .unknown), (0x1E000, .glagolitic),
    (0x1E007, .unknown), (0x1E008, .glagolitic), (0x1E019, .unknown), (0x1E01B, .glagolitic),
    (0x1E022, .unknown), (0x1E023, .glagolitic), (0x1E025, .unknown), (0x1E026, .glagolitic),
    (0x1E02B, .unknown), (0x1E030, .cyrillic), (0x1E06E, .unknown), (0x1E08F, .cyrillic),
    (0x1E090, .unknown), (0x1E100, .nyiakengPuachueHmong), (0x1E12D, .unknown),
    (0x1E130, .nyiakengPuachueHmong), (0x1E13E, .unknown), (0x1E140, .nyiakengPuachueHmong),
    (0x1E14A, .unknown), (0x1E14E, .nyiakengPuachueHmong), (0x1E150, .unknown), (0x1E290, .toto),
    (0x1E2AF, .unknown), (0x1E2C0, .wancho), (0x1E2FA, .unknown), (0x1E2FF, .wancho),
    (0x1E300, .unknown), (0x1E4D0, .nagMundari), (0x1E4FA, .unknown), (0x1E5D0, .olOnal),
    (0x1E5FB, .unknown), (0x1E5FF, .olOnal), (0x1E600, .unknown), (0x1E6C0, .taiYo),
    (0x1E6DF, .unknown), (0x1E6E0, .taiYo), (0x1E6F6, .unknown), (0x1E6FE, .taiYo),
    (0x1E700, .unknown), (0x1E7E0, .ethiopic), (0x1E7E7, .unknown), (0x1E7E8, .ethiopic),
    (0x1E7EC, .unknown), (0x1E7ED, .ethiopic), (0x1E7EF, .unknown), (0x1E7F0, .ethiopic),
    (0x1E7FF, .unknown), (0x1E800, .mendeKikakui), (0x1E8C5, .unknown), (0x1E8C7, .mendeKikakui),
    (0x1E8D7, .unknown), (0x1E900, .adlam), (0x1E94C, .unknown), (0x1E950, .adlam),
    (0x1E95A, .unknown), (0x1E95E, .adlam), (0x1E960, .unknown), (0x1EC71, .common),
    (0x1ECB5, .unknown), (0x1ED01, .common), (0x1ED3E, .unknown), (0x1EE00, .arabic),
    (0x1EE04, .unknown), (0x1EE05, .arabic), (0x1EE20, .unknown), (0x1EE21, .arabic),
    (0x1EE23, .unknown), (0x1EE24, .arabic), (0x1EE25, .unknown), (0x1EE27, .arabic),
    (0x1EE28, .unknown), (0x1EE29, .arabic), (0x1EE33, .unknown), (0x1EE34, .arabic),
    (0x1EE38, .unknown), (0x1EE39, .arabic), (0x1EE3A, .unknown), (0x1EE3B, .arabic),
    (0x1EE3C, .unknown), (0x1EE42, .arabic), (0x1EE43, .unknown), (0x1EE47, .arabic),
    (0x1EE48, .unknown), (0x1EE49, .arabic), (0x1EE4A, .unknown), (0x1EE4B, .arabic),
    (0x1EE4C, .unknown), (0x1EE4D, .arabic), (0x1EE50, .unknown), (0x1EE51, .arabic),
    (0x1EE53, .unknown), (0x1EE54, .arabic), (0x1EE55, .unknown), (0x1EE57, .arabic),
    (0x1EE58, .unknown), (0x1EE59, .arabic), (0x1EE5A, .unknown), (0x1EE5B, .arabic),
    (0x1EE5C, .unknown), (0x1EE5D, .arabic), (0x1EE5E, .unknown), (0x1EE5F, .arabic),
    (0x1EE60, .unknown), (0x1EE61, .arabic), (0x1EE63, .unknown), (0x1EE64, .arabic),
    (0x1EE65, .unknown), (0x1EE67, .arabic), (0x1EE6B, .unknown), (0x1EE6C, .arabic),
    (0x1EE73, .unknown), (0x1EE74, .arabic), (0x1EE78, .unknown), (0x1EE79, .arabic),
    (0x1EE7D, .unknown), (0x1EE7E, .arabic), (0x1EE7F, .unknown), (0x1EE80, .arabic),
    (0x1EE8A, .unknown), (0x1EE8B, .arabic), (0x1EE9C, .unknown), (0x1EEA1, .arabic),
    (0x1EEA4, .unknown), (0x1EEA5, .arabic), (0x1EEAA, .unknown), (0x1EEAB, .arabic),
    (0x1EEBC, .unknown), (0x1EEF0, .arabic), (0x1EEF2, .unknown), (0x1F000, .common),
    (0x1F02C, .unknown), (0x1F030, .common), (0x1F094, .unknown), (0x1F0A0, .common),
    (0x1F0AF, .unknown), (0x1F0B1, .common), (0x1F0C0, .unknown), (0x1F0C1, .common),
    (0x1F0D0, .unknown), (0x1F0D1, .common), (0x1F0F6, .unknown), (0x1F100, .common),
    (0x1F1AE, .unknown), (0x1F1E6, .common), (0x1F200, .hiragana), (0x1F201, .common),
    (0x1F203, .unknown), (0x1F210, .common), (0x1F23C, .unknown), (0x1F240, .common),
    (0x1F249, .unknown), (0x1F250, .common), (0x1F252, .unknown), (0x1F260, .common),
    (0x1F266, .unknown), (0x1F300, .common), (0x1F6D9, .unknown), (0x1F6DC, .common),
    (0x1F6ED, .unknown), (0x1F6F0, .common), (0x1F6FD, .unknown), (0x1F700, .common),
    (0x1F7DA, .unknown), (0x1F7E0, .common), (0x1F7EC, .unknown), (0x1F7F0, .common),
    (0x1F7F1, .unknown), (0x1F800, .common), (0x1F80C, .unknown), (0x1F810, .common),
    (0x1F848, .unknown), (0x1F850, .common), (0x1F85A, .unknown), (0x1F860, .common),
    (0x1F888, .unknown), (0x1F890, .common), (0x1F8AE, .unknown), (0x1F8B0, .common),
    (0x1F8BC, .unknown), (0x1F8C0, .common), (0x1F8C2, .unknown), (0x1F8D0, .common),
    (0x1F8D9, .unknown), (0x1F900, .common), (0x1FA58, .unknown), (0x1FA60, .common),
    (0x1FA6E, .unknown), (0x1FA70, .common), (0x1FA7D, .unknown), (0x1FA80, .common),
    (0x1FA8B, .unknown), (0x1FA8E, .common), (0x1FAC7, .unknown), (0x1FAC8, .common),
    (0x1FAC9, .unknown), (0x1FACD, .common), (0x1FADD, .unknown), (0x1FADF, .common),
    (0x1FAEB, .unknown), (0x1FAEF, .common), (0x1FAF9, .unknown), (0x1FB00, .common),
    (0x1FB93, .unknown), (0x1FB94, .common), (0x1FBFB, .unknown), (0x20000, .han),
    (0x2A6E0, .unknown), (0x2A700, .han), (0x2B81E, .unknown), (0x2B820, .han),
    (0x2CEAE, .unknown), (0x2CEB0, .han), (0x2EBE1, .unknown), (0x2EBF0, .han),
    (0x2EE5E, .unknown), (0x2F800, .han), (0x2FA1E, .unknown), (0x30000, .han),
    (0x3134B, .unknown), (0x31350, .han), (0x3347A, .unknown), (0x3D000, .seal),
    (0x3FC40, .unknown), (0xE0001, .common), (0xE0002, .unknown), (0xE0020, .common),
    (0xE0080, .unknown), (0xE0100, .inherited), (0xE01F0, .unknown)]

end Charwise.Unicode.Table
