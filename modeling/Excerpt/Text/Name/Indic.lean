import Excerpt.Text.Name.Series

/-!
The names of the scripts of India and Sri Lanka, from U+0900 to U+0DFF.
-/

namespace Excerpt.Text.Name

def indic : List Series := [
  ⟨0x900, "DEVANAGARI SIGN ", "INVERTED CANDRABINDU|CANDRABINDU|ANUSVARA|VISARGA"⟩,
  ⟨0x904, "DEVANAGARI LETTER ", "SHORT A|A|AA|I|II|U|UU|VOCALIC R|VOCALIC L|CANDRA E|SHORT E|E|
    AI|CANDRA O|SHORT O|O|AU|KA|KHA|GA|GHA|NGA|CA|CHA|JA|JHA|NYA|TTA|TTHA|DDA|DDHA|NNA|TA|THA|
    DA|DHA|NA|NNNA|PA|PHA|BA|BHA|MA|YA|RA|RRA|LA|LLA|LLLA|VA|SHA|SSA|SA|HA"⟩,
  ⟨0x93A, "DEVANAGARI ", "VOWEL SIGN OE|VOWEL SIGN OOE|SIGN NUKTA|SIGN AVAGRAHA"⟩,
  ⟨0x93E, "DEVANAGARI VOWEL SIGN ", "AA|I|II|U|UU|VOCALIC R|VOCALIC RR|CANDRA E|SHORT E|E|AI|
    CANDRA O|SHORT O|O|AU"⟩,
  ⟨0x94D, "DEVANAGARI ", "SIGN VIRAMA|VOWEL SIGN PRISHTHAMATRA E|VOWEL SIGN AW|OM|
    STRESS SIGN UDATTA|STRESS SIGN ANUDATTA|GRAVE ACCENT|ACUTE ACCENT|VOWEL SIGN CANDRA LONG E|
    VOWEL SIGN UE|VOWEL SIGN UUE|LETTER QA|LETTER KHHA|LETTER GHHA|LETTER ZA|LETTER DDDHA|
    LETTER RHA|LETTER FA|LETTER YYA|LETTER VOCALIC RR|LETTER VOCALIC LL|VOWEL SIGN VOCALIC L|
    VOWEL SIGN VOCALIC LL|DANDA|DOUBLE DANDA|DIGIT ZERO|DIGIT ONE|DIGIT TWO|DIGIT THREE|
    DIGIT FOUR|DIGIT FIVE|DIGIT SIX|DIGIT SEVEN|DIGIT EIGHT|DIGIT NINE|ABBREVIATION SIGN|
    SIGN HIGH SPACING DOT"⟩,
  ⟨0x972, "DEVANAGARI LETTER ", "CANDRA A|OE|OOE|AW|UE|UUE|MARWARI DDA|ZHA|HEAVY YA|GGA|JJA|
    GLOTTAL STOP|DDDA|BBA"⟩,
  ⟨0x980, "BENGALI ", "ANJI|SIGN CANDRABINDU|SIGN ANUSVARA|SIGN VISARGA"⟩,
  ⟨0x985, "BENGALI LETTER ", "A|AA|I|II|U|UU|VOCALIC R|VOCALIC L"⟩,
  ⟨0x98F, "BENGALI LETTER ", "E|AI"⟩,
  ⟨0x993, "BENGALI LETTER ", "O|AU|KA|KHA|GA|GHA|NGA|CA|CHA|JA|JHA|NYA|TTA|TTHA|DDA|DDHA|NNA|TA|
    THA|DA|DHA|NA"⟩,
  ⟨0x9AA, "BENGALI LETTER ", "PA|PHA|BA|BHA|MA|YA|RA"⟩,
  ⟨0x9B2, "BENGALI LETTER ", "LA"⟩,
  ⟨0x9B6, "BENGALI LETTER ", "SHA|SSA|SA|HA"⟩,
  ⟨0x9BC, "BENGALI SIGN ", "NUKTA|AVAGRAHA"⟩,
  ⟨0x9BE, "BENGALI VOWEL SIGN ", "AA|I|II|U|UU|VOCALIC R|VOCALIC RR"⟩,
  ⟨0x9C7, "BENGALI VOWEL SIGN ", "E|AI"⟩,
  ⟨0x9CB, "BENGALI ", "VOWEL SIGN O|VOWEL SIGN AU|SIGN VIRAMA|LETTER KHANDA TA"⟩,
  ⟨0x9D7, "BENGALI AU LENGTH ", "MARK"⟩,
  ⟨0x9DC, "BENGALI LETTER ", "RRA|RHA"⟩,
  ⟨0x9DF, "BENGALI LETTER ", "YYA|VOCALIC RR|VOCALIC LL"⟩,
  ⟨0x9E2, "BENGALI VOWEL SIGN VOCALIC ", "L|LL"⟩,
  ⟨0x9E6, "BENGALI DIGIT ", "ZERO|ONE|TWO|THREE|FOUR|FIVE|SIX|SEVEN|EIGHT|NINE"⟩,
  ⟨0x9F0, "BENGALI ", "LETTER RA WITH MIDDLE DIAGONAL|LETTER RA WITH LOWER DIAGONAL|RUPEE MARK|
    RUPEE SIGN"⟩,
  ⟨0x9F4, "BENGALI CURRENCY NUMERATOR ", "ONE|TWO|THREE|FOUR|ONE LESS THAN THE DENOMINATOR"⟩,
  ⟨0x9F9, "BENGALI ", "CURRENCY DENOMINATOR SIXTEEN|ISSHAR|GANDA MARK|LETTER VEDIC ANUSVARA|
    ABBREVIATION SIGN|SANDHI MARK"⟩,
  ⟨0xA01, "GURMUKHI SIGN ", "ADAK BINDI|BINDI|VISARGA"⟩,
  ⟨0xA05, "GURMUKHI LETTER ", "A|AA|I|II|U|UU"⟩,
  ⟨0xA0F, "GURMUKHI LETTER ", "EE|AI"⟩,
  ⟨0xA13, "GURMUKHI LETTER ", "OO|AU|KA|KHA|GA|GHA|NGA|CA|CHA|JA|JHA|NYA|TTA|TTHA|DDA|DDHA|NNA|
    TA|THA|DA|DHA|NA"⟩,
  ⟨0xA2A, "GURMUKHI LETTER ", "PA|PHA|BA|BHA|MA|YA|RA"⟩,
  ⟨0xA32, "GURMUKHI LETTER ", "LA|LLA"⟩,
  ⟨0xA35, "GURMUKHI LETTER ", "VA|SHA"⟩,
  ⟨0xA38, "GURMUKHI LETTER ", "SA|HA"⟩,
  ⟨0xA3C, "GURMUKHI SIGN ", "NUKTA"⟩,
  ⟨0xA3E, "GURMUKHI VOWEL SIGN ", "AA|I|II|U|UU"⟩,
  ⟨0xA47, "GURMUKHI VOWEL SIGN ", "EE|AI"⟩,
  ⟨0xA4B, "GURMUKHI ", "VOWEL SIGN OO|VOWEL SIGN AU|SIGN VIRAMA"⟩,
  ⟨0xA51, "GURMUKHI SIGN ", "UDAAT"⟩,
  ⟨0xA59, "GURMUKHI LETTER ", "KHHA|GHHA|ZA|RRA"⟩,
  ⟨0xA5E, "GURMUKHI LETTER ", "FA"⟩,
  ⟨0xA66, "GURMUKHI DIGIT ", "ZERO|ONE|TWO|THREE|FOUR|FIVE|SIX|SEVEN|EIGHT|NINE"⟩,
  ⟨0xA70, "GURMUKHI ", "TIPPI|ADDAK|IRI|URA|EK ONKAR|SIGN YAKASH|ABBREVIATION SIGN"⟩,
  ⟨0xA81, "GUJARATI SIGN ", "CANDRABINDU|ANUSVARA|VISARGA"⟩,
  ⟨0xA85, "GUJARATI LETTER ", "A|AA|I|II|U|UU|VOCALIC R|VOCALIC L"⟩,
  ⟨0xA8D, "GUJARATI VOWEL CANDRA ", "E"⟩,
  ⟨0xA8F, "GUJARATI ", "LETTER E|LETTER AI|VOWEL CANDRA O"⟩,
  ⟨0xA93, "GUJARATI LETTER ", "O|AU|KA|KHA|GA|GHA|NGA|CA|CHA|JA|JHA|NYA|TTA|TTHA|DDA|DDHA|NNA|
    TA|THA|DA|DHA|NA"⟩,
  ⟨0xAAA, "GUJARATI LETTER ", "PA|PHA|BA|BHA|MA|YA|RA"⟩,
  ⟨0xAB2, "GUJARATI LETTER ", "LA|LLA"⟩,
  ⟨0xAB5, "GUJARATI LETTER ", "VA|SHA|SSA|SA|HA"⟩,
  ⟨0xABC, "GUJARATI SIGN ", "NUKTA|AVAGRAHA"⟩,
  ⟨0xABE, "GUJARATI VOWEL SIGN ", "AA|I|II|U|UU|VOCALIC R|VOCALIC RR|CANDRA E"⟩,
  ⟨0xAC7, "GUJARATI VOWEL SIGN ", "E|AI|CANDRA O"⟩,
  ⟨0xACB, "GUJARATI ", "VOWEL SIGN O|VOWEL SIGN AU|SIGN VIRAMA"⟩,
  ⟨0xAD0, "GUJARATI ", "OM"⟩,
  ⟨0xAE0, "GUJARATI LETTER VOCALIC ", "RR|LL"⟩,
  ⟨0xAE2, "GUJARATI VOWEL SIGN VOCALIC ", "L|LL"⟩,
  ⟨0xAE6, "GUJARATI DIGIT ", "ZERO|ONE|TWO|THREE|FOUR|FIVE|SIX|SEVEN|EIGHT|NINE"⟩,
  ⟨0xAF0, "GUJARATI ", "ABBREVIATION SIGN|RUPEE SIGN"⟩,
  ⟨0xAF9, "GUJARATI ", "LETTER ZHA|SIGN SUKUN|SIGN SHADDA|SIGN MADDAH|
    SIGN THREE-DOT NUKTA ABOVE|SIGN CIRCLE NUKTA ABOVE|SIGN TWO-CIRCLE NUKTA ABOVE"⟩,
  ⟨0xB01, "ORIYA SIGN ", "CANDRABINDU|ANUSVARA|VISARGA"⟩,
  ⟨0xB05, "ORIYA LETTER ", "A|AA|I|II|U|UU|VOCALIC R|VOCALIC L"⟩,
  ⟨0xB0F, "ORIYA LETTER ", "E|AI"⟩,
  ⟨0xB13, "ORIYA LETTER ", "O|AU|KA|KHA|GA|GHA|NGA|CA|CHA|JA|JHA|NYA|TTA|TTHA|DDA|DDHA|NNA|TA|
    THA|DA|DHA|NA"⟩,
  ⟨0xB2A, "ORIYA LETTER ", "PA|PHA|BA|BHA|MA|YA|RA"⟩,
  ⟨0xB32, "ORIYA LETTER ", "LA|LLA"⟩,
  ⟨0xB35, "ORIYA LETTER ", "VA|SHA|SSA|SA|HA"⟩,
  ⟨0xB3C, "ORIYA SIGN ", "NUKTA|AVAGRAHA"⟩,
  ⟨0xB3E, "ORIYA VOWEL SIGN ", "AA|I|II|U|UU|VOCALIC R|VOCALIC RR"⟩,
  ⟨0xB47, "ORIYA VOWEL SIGN ", "E|AI"⟩,
  ⟨0xB4B, "ORIYA ", "VOWEL SIGN O|VOWEL SIGN AU|SIGN VIRAMA"⟩,
  ⟨0xB55, "ORIYA ", "SIGN OVERLINE|AI LENGTH MARK|AU LENGTH MARK"⟩,
  ⟨0xB5C, "ORIYA LETTER ", "RRA|RHA"⟩,
  ⟨0xB5F, "ORIYA LETTER ", "YYA|VOCALIC RR|VOCALIC LL"⟩,
  ⟨0xB62, "ORIYA VOWEL SIGN VOCALIC ", "L|LL"⟩,
  ⟨0xB66, "ORIYA DIGIT ", "ZERO|ONE|TWO|THREE|FOUR|FIVE|SIX|SEVEN|EIGHT|NINE"⟩,
  ⟨0xB70, "ORIYA ", "ISSHAR|LETTER WA"⟩,
  ⟨0xB72, "ORIYA FRACTION ", "ONE QUARTER|ONE HALF|THREE QUARTERS|ONE SIXTEENTH|ONE EIGHTH|
    THREE SIXTEENTHS"⟩,
  ⟨0xB82, "TAMIL SIGN ", "ANUSVARA|VISARGA"⟩,
  ⟨0xB85, "TAMIL LETTER ", "A|AA|I|II|U|UU"⟩,
  ⟨0xB8E, "TAMIL LETTER ", "E|EE|AI"⟩,
  ⟨0xB92, "TAMIL LETTER ", "O|OO|AU|KA"⟩,
  ⟨0xB99, "TAMIL LETTER ", "NGA|CA"⟩,
  ⟨0xB9C, "TAMIL LETTER ", "JA"⟩,
  ⟨0xB9E, "TAMIL LETTER ", "NYA|TTA"⟩,
  ⟨0xBA3, "TAMIL LETTER ", "NNA|TA"⟩,
  ⟨0xBA8, "TAMIL LETTER ", "NA|NNNA|PA"⟩,
  ⟨0xBAE, "TAMIL LETTER ", "MA|YA|RA|RRA|LA|LLA|LLLA|VA|SHA|SSA|SA|HA"⟩,
  ⟨0xBBE, "TAMIL VOWEL SIGN ", "AA|I|II|U|UU"⟩,
  ⟨0xBC6, "TAMIL VOWEL SIGN ", "E|EE|AI"⟩,
  ⟨0xBCA, "TAMIL ", "VOWEL SIGN O|VOWEL SIGN OO|VOWEL SIGN AU|SIGN VIRAMA"⟩,
  ⟨0xBD0, "TAMIL ", "OM"⟩,
  ⟨0xBD7, "TAMIL AU LENGTH ", "MARK"⟩,
  ⟨0xBE6, "TAMIL DIGIT ", "ZERO|ONE|TWO|THREE|FOUR|FIVE|SIX|SEVEN|EIGHT|NINE"⟩,
  ⟨0xBF0, "TAMIL ", "NUMBER TEN|NUMBER ONE HUNDRED|NUMBER ONE THOUSAND|DAY SIGN|MONTH SIGN|
    YEAR SIGN|DEBIT SIGN|CREDIT SIGN|AS ABOVE SIGN|RUPEE SIGN|NUMBER SIGN"⟩,
  ⟨0xC00, "TELUGU SIGN ", "COMBINING CANDRABINDU ABOVE|CANDRABINDU|ANUSVARA|VISARGA|
    COMBINING ANUSVARA ABOVE"⟩,
  ⟨0xC05, "TELUGU LETTER ", "A|AA|I|II|U|UU|VOCALIC R|VOCALIC L"⟩,
  ⟨0xC0E, "TELUGU LETTER ", "E|EE|AI"⟩,
  ⟨0xC12, "TELUGU LETTER ", "O|OO|AU|KA|KHA|GA|GHA|NGA|CA|CHA|JA|JHA|NYA|TTA|TTHA|DDA|DDHA|NNA|
    TA|THA|DA|DHA|NA"⟩,
  ⟨0xC2A, "TELUGU LETTER ", "PA|PHA|BA|BHA|MA|YA|RA|RRA|LA|LLA|LLLA|VA|SHA|SSA|SA|HA"⟩,
  ⟨0xC3C, "TELUGU SIGN ", "NUKTA|AVAGRAHA"⟩,
  ⟨0xC3E, "TELUGU VOWEL SIGN ", "AA|I|II|U|UU|VOCALIC R|VOCALIC RR"⟩,
  ⟨0xC46, "TELUGU VOWEL SIGN ", "E|EE|AI"⟩,
  ⟨0xC4A, "TELUGU ", "VOWEL SIGN O|VOWEL SIGN OO|VOWEL SIGN AU|SIGN VIRAMA"⟩,
  ⟨0xC55, "TELUGU ", "LENGTH MARK|AI LENGTH MARK"⟩,
  ⟨0xC58, "TELUGU LETTER ", "TSA|DZA|RRRA"⟩,
  ⟨0xC5D, "TELUGU LETTER NAKAARA ", "POLLU"⟩,
  ⟨0xC60, "TELUGU LETTER VOCALIC ", "RR|LL"⟩,
  ⟨0xC62, "TELUGU VOWEL SIGN VOCALIC ", "L|LL"⟩,
  ⟨0xC66, "TELUGU DIGIT ", "ZERO|ONE|TWO|THREE|FOUR|FIVE|SIX|SEVEN|EIGHT|NINE"⟩,
  ⟨0xC77, "TELUGU SIGN ", "SIDDHAM"⟩,
  ⟨0xC78, "TELUGU FRACTION DIGIT ", "ZERO FOR ODD POWERS OF FOUR|ONE FOR ODD POWERS OF FOUR|
    TWO FOR ODD POWERS OF FOUR|THREE FOR ODD POWERS OF FOUR|ONE FOR EVEN POWERS OF FOUR|
    TWO FOR EVEN POWERS OF FOUR|THREE FOR EVEN POWERS OF FOUR"⟩,
  ⟨0xC7F, "TELUGU SIGN ", "TUUMU"⟩,
  ⟨0xC80, "KANNADA SIGN ", "SPACING CANDRABINDU|CANDRABINDU|ANUSVARA|VISARGA|SIDDHAM"⟩,
  ⟨0xC85, "KANNADA LETTER ", "A|AA|I|II|U|UU|VOCALIC R|VOCALIC L"⟩,
  ⟨0xC8E, "KANNADA LETTER ", "E|EE|AI"⟩,
  ⟨0xC92, "KANNADA LETTER ", "O|OO|AU|KA|KHA|GA|GHA|NGA|CA|CHA|JA|JHA|NYA|TTA|TTHA|DDA|DDHA|NNA|
    TA|THA|DA|DHA|NA"⟩,
  ⟨0xCAA, "KANNADA LETTER ", "PA|PHA|BA|BHA|MA|YA|RA|RRA|LA|LLA"⟩,
  ⟨0xCB5, "KANNADA LETTER ", "VA|SHA|SSA|SA|HA"⟩,
  ⟨0xCBC, "KANNADA SIGN ", "NUKTA|AVAGRAHA"⟩,
  ⟨0xCBE, "KANNADA VOWEL SIGN ", "AA|I|II|U|UU|VOCALIC R|VOCALIC RR"⟩,
  ⟨0xCC6, "KANNADA VOWEL SIGN ", "E|EE|AI"⟩,
  ⟨0xCCA, "KANNADA ", "VOWEL SIGN O|VOWEL SIGN OO|VOWEL SIGN AU|SIGN VIRAMA"⟩,
  ⟨0xCD5, "KANNADA ", "LENGTH MARK|AI LENGTH MARK"⟩,
  ⟨0xCDD, "KANNADA LETTER ", "NAKAARA POLLU|FA"⟩,
  ⟨0xCE0, "KANNADA LETTER VOCALIC ", "RR|LL"⟩,
  ⟨0xCE2, "KANNADA VOWEL SIGN VOCALIC ", "L|LL"⟩,
  ⟨0xCE6, "KANNADA DIGIT ", "ZERO|ONE|TWO|THREE|FOUR|FIVE|SIX|SEVEN|EIGHT|NINE"⟩,
  ⟨0xCF1, "KANNADA SIGN ", "JIHVAMULIYA|UPADHMANIYA"⟩,
  ⟨0xD00, "MALAYALAM SIGN ", "COMBINING ANUSVARA ABOVE|CANDRABINDU|ANUSVARA|VISARGA"⟩,
  ⟨0xD04, "MALAYALAM LETTER ", "VEDIC ANUSVARA|A|AA|I|II|U|UU|VOCALIC R|VOCALIC L"⟩,
  ⟨0xD0E, "MALAYALAM LETTER ", "E|EE|AI"⟩,
  ⟨0xD12, "MALAYALAM LETTER ", "O|OO|AU|KA|KHA|GA|GHA|NGA|CA|CHA|JA|JHA|NYA|TTA|TTHA|DDA|DDHA|
    NNA|TA|THA|DA|DHA|NA|NNNA|PA|PHA|BA|BHA|MA|YA|RA|RRA|LA|LLA|LLLA|VA|SHA|SSA|SA|HA|TTTA"⟩,
  ⟨0xD3B, "MALAYALAM SIGN ", "VERTICAL BAR VIRAMA|CIRCULAR VIRAMA|AVAGRAHA"⟩,
  ⟨0xD3E, "MALAYALAM VOWEL SIGN ", "AA|I|II|U|UU|VOCALIC R|VOCALIC RR"⟩,
  ⟨0xD46, "MALAYALAM VOWEL SIGN ", "E|EE|AI"⟩,
  ⟨0xD4A, "MALAYALAM ", "VOWEL SIGN O|VOWEL SIGN OO|VOWEL SIGN AU|SIGN VIRAMA|LETTER DOT REPH|
    SIGN PARA"⟩,
  ⟨0xD54, "MALAYALAM ", "LETTER CHILLU M|LETTER CHILLU Y|LETTER CHILLU LLL|AU LENGTH MARK|
    FRACTION ONE ONE-HUNDRED-AND-SIXTIETH|FRACTION ONE FORTIETH|FRACTION THREE EIGHTIETHS|
    FRACTION ONE TWENTIETH|FRACTION ONE TENTH|FRACTION THREE TWENTIETHS|FRACTION ONE FIFTH|
    LETTER ARCHAIC II|LETTER VOCALIC RR|LETTER VOCALIC LL|VOWEL SIGN VOCALIC L|
    VOWEL SIGN VOCALIC LL"⟩,
  ⟨0xD66, "MALAYALAM DIGIT ", "ZERO|ONE|TWO|THREE|FOUR|FIVE|SIX|SEVEN|EIGHT|NINE"⟩,
  ⟨0xD70, "MALAYALAM ", "NUMBER TEN|NUMBER ONE HUNDRED|NUMBER ONE THOUSAND|FRACTION ONE QUARTER|
    FRACTION ONE HALF|FRACTION THREE QUARTERS|FRACTION ONE SIXTEENTH|FRACTION ONE EIGHTH|
    FRACTION THREE SIXTEENTHS|DATE MARK"⟩,
  ⟨0xD7A, "MALAYALAM LETTER CHILLU ", "NN|N|RR|L|LL|K"⟩,
  ⟨0xD81, "SINHALA SIGN ", "CANDRABINDU|ANUSVARAYA|VISARGAYA"⟩,
  ⟨0xD85, "SINHALA LETTER ", "AYANNA|AAYANNA|AEYANNA|AEEYANNA|IYANNA|IIYANNA|UYANNA|UUYANNA|
    IRUYANNA|IRUUYANNA|ILUYANNA|ILUUYANNA|EYANNA|EEYANNA|AIYANNA|OYANNA|OOYANNA|AUYANNA"⟩,
  ⟨0xD9A, "SINHALA LETTER ", "ALPAPRAANA KAYANNA|MAHAAPRAANA KAYANNA|ALPAPRAANA GAYANNA|
    MAHAAPRAANA GAYANNA|KANTAJA NAASIKYAYA|SANYAKA GAYANNA|ALPAPRAANA CAYANNA|
    MAHAAPRAANA CAYANNA|ALPAPRAANA JAYANNA|MAHAAPRAANA JAYANNA|TAALUJA NAASIKYAYA|
    TAALUJA SANYOOGA NAAKSIKYAYA|SANYAKA JAYANNA|ALPAPRAANA TTAYANNA|MAHAAPRAANA TTAYANNA|
    ALPAPRAANA DDAYANNA|MAHAAPRAANA DDAYANNA|MUURDHAJA NAYANNA|SANYAKA DDAYANNA|
    ALPAPRAANA TAYANNA|MAHAAPRAANA TAYANNA|ALPAPRAANA DAYANNA|MAHAAPRAANA DAYANNA|
    DANTAJA NAYANNA"⟩,
  ⟨0xDB3, "SINHALA LETTER ", "SANYAKA DAYANNA|ALPAPRAANA PAYANNA|MAHAAPRAANA PAYANNA|
    ALPAPRAANA BAYANNA|MAHAAPRAANA BAYANNA|MAYANNA|AMBA BAYANNA|YAYANNA|RAYANNA"⟩,
  ⟨0xDBD, "SINHALA LETTER DANTAJA ", "LAYANNA"⟩,
  ⟨0xDC0, "SINHALA LETTER ", "VAYANNA|TAALUJA SAYANNA|MUURDHAJA SAYANNA|DANTAJA SAYANNA|HAYANNA|
    MUURDHAJA LAYANNA|FAYANNA"⟩,
  ⟨0xDCA, "SINHALA SIGN AL-", "LAKUNA"⟩,
  ⟨0xDCF, "SINHALA VOWEL SIGN ", "AELA-PILLA|KETTI AEDA-PILLA|DIGA AEDA-PILLA|KETTI IS-PILLA|
    DIGA IS-PILLA|KETTI PAA-PILLA"⟩,
  ⟨0xDD6, "SINHALA VOWEL SIGN DIGA PAA-", "PILLA"⟩,
  ⟨0xDD8, "SINHALA VOWEL SIGN ", "GAETTA-PILLA|KOMBUVA|DIGA KOMBUVA|KOMBU DEKA|
    KOMBUVA HAA AELA-PILLA|KOMBUVA HAA DIGA AELA-PILLA|KOMBUVA HAA GAYANUKITTA|GAYANUKITTA"⟩,
  ⟨0xDE6, "SINHALA LITH DIGIT ", "ZERO|ONE|TWO|THREE|FOUR|FIVE|SIX|SEVEN|EIGHT|NINE"⟩,
  ⟨0xDF2, "SINHALA ", "VOWEL SIGN DIGA GAETTA-PILLA|VOWEL SIGN DIGA GAYANUKITTA|
    PUNCTUATION KUNDDALIYA"⟩]

end Excerpt.Text.Name
