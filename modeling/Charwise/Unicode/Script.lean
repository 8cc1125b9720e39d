/-!
# Scripts

The scripts a code point may belong to, each with its full name. Code points outside every script
belong to `unknown`.
-/

namespace Charwise.Unicode

/-- The script of a code point. -/
inductive Script where
  | adlam
  | ahom
  | anatolianHieroglyphs
  | arabic
  | armenian
  | avestan
  | balinese
  | bamum
  | bassaVah
  | batak
  | bengali
  | beriaErfe
  | bhaiksuki
  | bopomofo
  | brahmi
  | braille
  | buginese
  | buhid
  | canadianAboriginal
  | carian
  | caucasianAlbanian
  | chakma
  | cham
  | cherokee
  | chorasmian
  | common
  | coptic
  | cuneiform
  | cypriot
  | cyproMinoan
  | cyrillic
  | deseret
  | devanagari
  | divesAkuru
  | dogra
  | duployan
  | egyptianHieroglyphs
  | elbasan
  | elymaic
  | ethiopic
  | garay
  | georgian
  | glagolitic
  | gothic
  | grantha
  | greek
  | gujarati
  | gunjalaGondi
  | gurmukhi
  | gurungKhema
  | han
  | hangul
  | hanifiRohingya
  | hanunoo
  | hatran
  | hebrew
  | hiragana
  | imperialAramaic
  | inherited
  | inscriptionalPahlavi
  | inscriptionalParthian
  | javanese
  | jurchen
  | kaithi
  | kannada
  | katakana
  | kawi
  | kayahLi
  | kharoshthi
  | khitanSmallScript
  | khmer
  | khojki
  | khudawadi
  | kiratRai
  | lao
  | latin
  | lepcha
  | limbu
  | linearA
  | linearB
  | lisu
  | lycian
  | lydian
  | mahajani
  | makasar
  | malayalam
  | mandaic
  | manichaean
  | marchen
  | masaramGondi
  | medefaidrin
  | meeteiMayek
  | mendeKikakui
  | meroiticCursive
  | meroiticHieroglyphs
  | miao
  | modi
  | mongolian
  | mro
  | multani
  | myanmar
  | nabataean
  | nagMundari
  | nandinagari
  | newTaiLue
  | newa
  | nko
  | nushu
  | nyiakengPuachueHmong
  | ogham
  | olChiki
  | olOnal
  | oldHungarian
  | oldItalic
  | oldNorthArabian
  | oldPermic
  | oldPersian
  | oldSogdian
  | oldSouthArabian
  | oldTurkic
  | oldUyghur
  | oriya
  | osage
  | osmanya
  | pahawhHmong
  | palmyrene
  | pauCinHau
  | phagsPa
  | phoenician
  | protoCuneiform
  | psalterPahlavi
  | rejang
  | runic
  | samaritan
  | saurashtra
  | seal
  | sharada
  | shavian
  | siddham
  | sidetic
  | signWriting
  | sinhala
  | sogdian
  | soraSompeng
  | soyombo
  | sundanese
  | sunuwar
  | sylotiNagri
  | syriac
  | tagalog
  | tagbanwa
  | taiLe
  | taiTham
  | taiViet
  | taiYo
  | takri
  | tamil
  | tangsa
  | tangut
  | telugu
  | thaana
  | thai
  | tibetan
  | tifinagh
  | tirhuta
  | todhri
  | tolongSiki
  | toto
  | tuluTigalari
  | ugaritic
  | unknown
  | vai
  | vithkuqi
  | wancho
  | warangCiti
  | yezidi
  | yi
  | zanabazarSquare
  deriving DecidableEq

namespace Script

/-- Every script, in the order of the names. -/
def all : List Script := [
  .adlam, .ahom, .anatolianHieroglyphs, .arabic, .armenian, .avestan, .balinese, .bamum,
  .bassaVah, .batak, .bengali, .beriaErfe, .bhaiksuki, .bopomofo, .brahmi, .braille, .buginese,
  .buhid, .canadianAboriginal, .carian, .caucasianAlbanian, .chakma, .cham, .cherokee,
  .chorasmian, .common, .coptic, .cuneiform, .cypriot, .cyproMinoan, .cyrillic, .deseret,
  .devanagari, .divesAkuru, .dogra, .duployan, .egyptianHieroglyphs, .elbasan, .elymaic,
  .ethiopic, .garay, .georgian, .glagolitic, .gothic, .grantha, .greek, .gujarati, .gunjalaGondi,
  .gurmukhi, .gurungKhema, .han, .hangul, .hanifiRohingya, .hanunoo, .hatran, .hebrew, .hiragana,
  .imperialAramaic, .inherited, .inscriptionalPahlavi, .inscriptionalParthian, .javanese,
  .jurchen, .kaithi, .kannada, .katakana, .kawi, .kayahLi, .kharoshthi, .khitanSmallScript,
  .khmer, .khojki, .khudawadi, .kiratRai, .lao, .latin, .lepcha, .limbu, .linearA, .linearB,
  .lisu, .lycian, .lydian, .mahajani, .makasar, .malayalam, .mandaic, .manichaean, .marchen,
  .masaramGondi, .medefaidrin, .meeteiMayek, .mendeKikakui, .meroiticCursive,
  .meroiticHieroglyphs, .miao, .modi, .mongolian, .mro, .multani, .myanmar, .nabataean,
  .nagMundari, .nandinagari, .newTaiLue, .newa, .nko, .nushu, .nyiakengPuachueHmong, .ogham,
  .olChiki, .olOnal, .oldHungarian, .oldItalic, .oldNorthArabian, .oldPermic, .oldPersian,
  .oldSogdian, .oldSouthArabian, .oldTurkic, .oldUyghur, .oriya, .osage, .osmanya, .pahawhHmong,
  .palmyrene, .pauCinHau, .phagsPa, .phoenician, .protoCuneiform, .psalterPahlavi, .rejang,
  .runic, .samaritan, .saurashtra, .seal, .sharada, .shavian, .siddham, .sidetic, .signWriting,
  .sinhala, .sogdian, .soraSompeng, .soyombo, .sundanese, .sunuwar, .sylotiNagri, .syriac,
  .tagalog, .tagbanwa, .taiLe, .taiTham, .taiViet, .taiYo, .takri, .tamil, .tangsa, .tangut,
  .telugu, .thaana, .thai, .tibetan, .tifinagh, .tirhuta, .todhri, .tolongSiki, .toto,
  .tuluTigalari, .ugaritic, .unknown, .vai, .vithkuqi, .wancho, .warangCiti, .yezidi, .yi,
  .zanabazarSquare]

/-- The full name, with an underscore between words. -/
def name : Script → String
  | .adlam => "Adlam"
  | .ahom => "Ahom"
  | .anatolianHieroglyphs => "Anatolian_Hieroglyphs"
  | .arabic => "Arabic"
  | .armenian => "Armenian"
  | .avestan => "Avestan"
  | .balinese => "Balinese"
  | .bamum => "Bamum"
  | .bassaVah => "Bassa_Vah"
  | .batak => "Batak"
  | .bengali => "Bengali"
  | .beriaErfe => "Beria_Erfe"
  | .bhaiksuki => "Bhaiksuki"
  | .bopomofo => "Bopomofo"
  | .brahmi => "Brahmi"
  | .braille => "Braille"
  | .buginese => "Buginese"
  | .buhid => "Buhid"
  | .canadianAboriginal => "Canadian_Aboriginal"
  | .carian => "Carian"
  | .caucasianAlbanian => "Caucasian_Albanian"
  | .chakma => "Chakma"
  | .cham => "Cham"
  | .cherokee => "Cherokee"
  | .chorasmian => "Chorasmian"
  | .common => "Common"
  | .coptic => "Coptic"
  | .cuneiform => "Cuneiform"
  | .cypriot => "Cypriot"
  | .cyproMinoan => "Cypro_Minoan"
  | .cyrillic => "Cyrillic"
  | .deseret => "Deseret"
  | .devanagari => "Devanagari"
  | .divesAkuru => "Dives_Akuru"
  | .dogra => "Dogra"
  | .duployan => "Duployan"
  | .egyptianHieroglyphs => "Egyptian_Hieroglyphs"
  | .elbasan => "Elbasan"
  | .elymaic => "Elymaic"
  | .ethiopic => "Ethiopic"
  | .garay => "Garay"
  | .georgian => "Georgian"
  | .glagolitic => "Glagolitic"
  | .gothic => "Gothic"
  | .grantha => "Grantha"
  | .greek => "Greek"
  | .gujarati => "Gujarati"
  | .gunjalaGondi => "Gunjala_Gondi"
  | .gurmukhi => "Gurmukhi"
  | .gurungKhema => "Gurung_Khema"
  | .han => "Han"
  | .hangul => "Hangul"
  | .hanifiRohingya => "Hanifi_Rohingya"
  | .hanunoo => "Hanunoo"
  | .hatran => "Hatran"
  | .hebrew => "Hebrew"
  | .hiragana => "Hiragana"
  | .imperialAramaic => "Imperial_Aramaic"
  | .inherited => "Inherited"
  | .inscriptionalPahlavi => "Inscriptional_Pahlavi"
  | .inscriptionalParthian => "Inscriptional_Parthian"
  | .javanese => "Javanese"
  | .jurchen => "Jurchen"
  | .kaithi => "Kaithi"
  | .kannada => "Kannada"
  | .katakana => "Katakana"
  | .kawi => "Kawi"
  | .kayahLi => "Kayah_Li"
  | .kharoshthi => "Kharoshthi"
  | .khitanSmallScript => "Khitan_Small_Script"
  | .khmer => "Khmer"
  | .khojki => "Khojki"
  | .khudawadi => "Khudawadi"
  | .kiratRai => "Kirat_Rai"
  | .lao => "Lao"
  | .latin => "Latin"
  | .lepcha => "Lepcha"
  | .limbu => "Limbu"
  | .linearA => "Linear_A"
  | .linearB => "Linear_B"
  | .lisu => "Lisu"
  | .lycian => "Lycian"
  | .lydian => "Lydian"
  | .mahajani => "Mahajani"
  | .makasar => "Makasar"
  | .malayalam => "Malayalam"
  | .mandaic => "Mandaic"
  | .manichaean => "Manichaean"
  | .marchen => "Marchen"
  | .masaramGondi => "Masaram_Gondi"
  | .medefaidrin => "Medefaidrin"
  | .meeteiMayek => "Meetei_Mayek"
  | .mendeKikakui => "Mende_Kikakui"
  | .meroiticCursive => "Meroitic_Cursive"
  | .meroiticHieroglyphs => "Meroitic_Hieroglyphs"
  | .miao => "Miao"
  | .modi => "Modi"
  | .mongolian => "Mongolian"
  | .mro => "Mro"
  | .multani => "Multani"
  | .myanmar => "Myanmar"
  | .nabataean => "Nabataean"
  | .nagMundari => "Nag_Mundari"
  | .nandinagari => "Nandinagari"
  | .newTaiLue => "New_Tai_Lue"
  | .newa => "Newa"
  | .nko => "Nko"
  | .nushu => "Nushu"
  | .nyiakengPuachueHmong => "Nyiakeng_Puachue_Hmong"
  | .ogham => "Ogham"
  | .olChiki => "Ol_Chiki"
  | .olOnal => "Ol_Onal"
  | .oldHungarian => "Old_Hungarian"
  | .oldItalic => "Old_Italic"
  | .oldNorthArabian => "Old_North_Arabian"
  | .oldPermic => "Old_Permic"
  | .oldPersian => "Old_Persian"
  | .oldSogdian => "Old_Sogdian"
  | .oldSouthArabian => "Old_South_Arabian"
  | .oldTurkic => "Old_Turkic"
  | .oldUyghur => "Old_Uyghur"
  | .oriya => "Oriya"
  | .osage => "Osage"
  | .osmanya => "Osmanya"
  | .pahawhHmong => "Pahawh_Hmong"
  | .palmyrene => "Palmyrene"
  | .pauCinHau => "Pau_Cin_Hau"
  | .phagsPa => "Phags_Pa"
  | .phoenician => "Phoenician"
  | .protoCuneiform => "Proto_Cuneiform"
  | .psalterPahlavi => "Psalter_Pahlavi"
  | .rejang => "Rejang"
  | .runic => "Runic"
  | .samaritan => "Samaritan"
  | .saurashtra => "Saurashtra"
  | .seal => "Seal"
  | .sharada => "Sharada"
  | .shavian => "Shavian"
  | .siddham => "Siddham"
  | .sidetic => "Sidetic"
  | .signWriting => "SignWriting"
  | .sinhala => "Sinhala"
  | .sogdian => "Sogdian"
  | .soraSompeng => "Sora_Sompeng"
  | .soyombo => "Soyombo"
  | .sundanese => "Sundanese"
  | .sunuwar => "Sunuwar"
  | .sylotiNagri => "Syloti_Nagri"
  | .syriac => "Syriac"
  | .tagalog => "Tagalog"
  | .tagbanwa => "Tagbanwa"
  | .taiLe => "Tai_Le"
  | .taiTham => "Tai_Tham"
  | .taiViet => "Tai_Viet"
  | .taiYo => "Tai_Yo"
  | .takri => "Takri"
  | .tamil => "Tamil"
  | .tangsa => "Tangsa"
  | .tangut => "Tangut"
  | .telugu => "Telugu"
  | .thaana => "Thaana"
  | .thai => "Thai"
  | .tibetan => "Tibetan"
  | .tifinagh => "Tifinagh"
  | .tirhuta => "Tirhuta"
  | .todhri => "Todhri"
  | .tolongSiki => "Tolong_Siki"
  | .toto => "Toto"
  | .tuluTigalari => "Tulu_Tigalari"
  | .ugaritic => "Ugaritic"
  | .unknown => "Unknown"
  | .vai => "Vai"
  | .vithkuqi => "Vithkuqi"
  | .wancho => "Wancho"
  | .warangCiti => "Warang_Citi"
  | .yezidi => "Yezidi"
  | .yi => "Yi"
  | .zanabazarSquare => "Zanabazar_Square"

/-- The name in lower case, which is how a script is written in a message. -/
def lowerName (script : Script) : String :=
  script.name.toLower

/-- The script of a full name. -/
def ofName? (name : String) : Option Script :=
  all.find? (·.name == name)

end Script

end Charwise.Unicode
