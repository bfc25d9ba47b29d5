import Excerpt.Text.Name.Series

/-!
The names of Glagolitic, Tifinagh and further letters and punctuation, from U+2C00 to U+2E7F.
-/

namespace Excerpt.Text.Name

def glagolitic : List Series := [
  ⟨0x2C00, "GLAGOLITIC CAPITAL LETTER ", "AZU|BUKY|VEDE|GLAGOLI|DOBRO|YESTU|ZHIVETE|DZELO|
    ZEMLJA|IZHE|INITIAL IZHE|I|DJERVI|KAKO|LJUDIJE|MYSLITE|NASHI|ONU|POKOJI|RITSI|SLOVO|TVRIDO|
    UKU|FRITU|HERU|OTU|PE|SHTA|TSI|CHRIVI|SHA|YERU|YERI|YATI|SPIDERY HA|YU|SMALL YUS|
    SMALL YUS WITH TAIL|YO|IOTATED SMALL YUS|BIG YUS|IOTATED BIG YUS|FITA|IZHITSA|SHTAPIC|
    TROKUTASTI A|LATINATE MYSLITE|CAUDATE CHRIVI"⟩,
  ⟨0x2C30, "GLAGOLITIC SMALL LETTER ", "AZU|BUKY|VEDE|GLAGOLI|DOBRO|YESTU|ZHIVETE|DZELO|ZEMLJA|
    IZHE|INITIAL IZHE|I|DJERVI|KAKO|LJUDIJE|MYSLITE|NASHI|ONU|POKOJI|RITSI|SLOVO|TVRIDO|UKU|
    FRITU|HERU|OTU|PE|SHTA|TSI|CHRIVI|SHA|YERU|YERI|YATI|SPIDERY HA|YU|SMALL YUS|
    SMALL YUS WITH TAIL|YO|IOTATED SMALL YUS|BIG YUS|IOTATED BIG YUS|FITA|IZHITSA|SHTAPIC|
    TROKUTASTI A|LATINATE MYSLITE|CAUDATE CHRIVI"⟩,
  ⟨0x2C60, "LATIN ", "CAPITAL LETTER L WITH DOUBLE BAR|SMALL LETTER L WITH DOUBLE BAR|
    CAPITAL LETTER L WITH MIDDLE TILDE|CAPITAL LETTER P WITH STROKE|CAPITAL LETTER R WITH TAIL|
    SMALL LETTER A WITH STROKE|SMALL LETTER T WITH DIAGONAL STROKE|
    CAPITAL LETTER H WITH DESCENDER|SMALL LETTER H WITH DESCENDER|
    CAPITAL LETTER K WITH DESCENDER|SMALL LETTER K WITH DESCENDER|
    CAPITAL LETTER Z WITH DESCENDER|SMALL LETTER Z WITH DESCENDER|CAPITAL LETTER ALPHA|
    CAPITAL LETTER M WITH HOOK|CAPITAL LETTER TURNED A|CAPITAL LETTER TURNED ALPHA|
    SMALL LETTER V WITH RIGHT HOOK|CAPITAL LETTER W WITH HOOK|SMALL LETTER W WITH HOOK|
    SMALL LETTER V WITH CURL|CAPITAL LETTER HALF H"⟩,
  ⟨0x2C76, "LATIN SMALL LETTER ", "HALF H|TAILLESS PHI|E WITH NOTCH|TURNED R WITH TAIL|
    O WITH LOW RING INSIDE"⟩,
  ⟨0x2C7B, "", "LATIN LETTER SMALL CAPITAL TURNED E|LATIN SUBSCRIPT SMALL LETTER J|
    MODIFIER LETTER CAPITAL V|LATIN CAPITAL LETTER S WITH SWASH TAIL|
    LATIN CAPITAL LETTER Z WITH SWASH TAIL"⟩,
  ⟨0x2C80, "COPTIC ", "CAPITAL LETTER ALFA|SMALL LETTER ALFA|CAPITAL LETTER VIDA|
    SMALL LETTER VIDA|CAPITAL LETTER GAMMA|SMALL LETTER GAMMA|CAPITAL LETTER DALDA|
    SMALL LETTER DALDA|CAPITAL LETTER EIE|SMALL LETTER EIE|CAPITAL LETTER SOU|SMALL LETTER SOU|
    CAPITAL LETTER ZATA|SMALL LETTER ZATA|CAPITAL LETTER HATE|SMALL LETTER HATE|
    CAPITAL LETTER THETHE|SMALL LETTER THETHE|CAPITAL LETTER IAUDA|SMALL LETTER IAUDA|
    CAPITAL LETTER KAPA|SMALL LETTER KAPA|CAPITAL LETTER LAULA|SMALL LETTER LAULA|
    CAPITAL LETTER MI|SMALL LETTER MI|CAPITAL LETTER NI|SMALL LETTER NI|CAPITAL LETTER KSI|
    SMALL LETTER KSI|CAPITAL LETTER O|SMALL LETTER O|CAPITAL LETTER PI|SMALL LETTER PI|
    CAPITAL LETTER RO|SMALL LETTER RO|CAPITAL LETTER SIMA|SMALL LETTER SIMA|CAPITAL LETTER TAU|
    SMALL LETTER TAU|CAPITAL LETTER UA|SMALL LETTER UA|CAPITAL LETTER FI|SMALL LETTER FI|
    CAPITAL LETTER KHI|SMALL LETTER KHI|CAPITAL LETTER PSI|SMALL LETTER PSI|CAPITAL LETTER OOU|
    SMALL LETTER OOU|CAPITAL LETTER DIALECT-P ALEF|SMALL LETTER DIALECT-P ALEF|
    CAPITAL LETTER OLD COPTIC AIN|SMALL LETTER OLD COPTIC AIN|CAPITAL LETTER CRYPTOGRAMMIC EIE|
    SMALL LETTER CRYPTOGRAMMIC EIE|CAPITAL LETTER DIALECT-P KAPA|SMALL LETTER DIALECT-P KAPA|
    CAPITAL LETTER DIALECT-P NI|SMALL LETTER DIALECT-P NI|CAPITAL LETTER CRYPTOGRAMMIC NI|
    SMALL LETTER CRYPTOGRAMMIC NI|CAPITAL LETTER OLD COPTIC OOU|SMALL LETTER OLD COPTIC OOU|
    CAPITAL LETTER SAMPI|SMALL LETTER SAMPI|CAPITAL LETTER CROSSED SHEI|
    SMALL LETTER CROSSED SHEI|CAPITAL LETTER OLD COPTIC SHEI|SMALL LETTER OLD COPTIC SHEI|
    CAPITAL LETTER OLD COPTIC ESH|SMALL LETTER OLD COPTIC ESH|CAPITAL LETTER AKHMIMIC KHEI|
    SMALL LETTER AKHMIMIC KHEI|CAPITAL LETTER DIALECT-P HORI|SMALL LETTER DIALECT-P HORI|
    CAPITAL LETTER OLD COPTIC HORI|SMALL LETTER OLD COPTIC HORI|CAPITAL LETTER OLD COPTIC HA|
    SMALL LETTER OLD COPTIC HA|CAPITAL LETTER L-SHAPED HA|SMALL LETTER L-SHAPED HA|
    CAPITAL LETTER OLD COPTIC HEI|SMALL LETTER OLD COPTIC HEI|CAPITAL LETTER OLD COPTIC HAT|
    SMALL LETTER OLD COPTIC HAT|CAPITAL LETTER OLD COPTIC GANGIA|SMALL LETTER OLD COPTIC GANGIA|
    CAPITAL LETTER OLD COPTIC DJA|SMALL LETTER OLD COPTIC DJA|CAPITAL LETTER OLD COPTIC SHIMA|
    SMALL LETTER OLD COPTIC SHIMA|CAPITAL LETTER OLD NUBIAN SHIMA|SMALL LETTER OLD NUBIAN SHIMA|
    CAPITAL LETTER OLD NUBIAN NGI|SMALL LETTER OLD NUBIAN NGI|CAPITAL LETTER OLD NUBIAN NYI|
    SMALL LETTER OLD NUBIAN NYI|CAPITAL LETTER OLD NUBIAN WAU|SMALL LETTER OLD NUBIAN WAU|
    SYMBOL KAI|SYMBOL MI RO|SYMBOL PI RO|SYMBOL STAUROS|SYMBOL TAU RO|SYMBOL KHI RO|
    SYMBOL SHIMA SIMA|CAPITAL LETTER CRYPTOGRAMMIC SHEI|SMALL LETTER CRYPTOGRAMMIC SHEI|
    CAPITAL LETTER CRYPTOGRAMMIC GANGIA|SMALL LETTER CRYPTOGRAMMIC GANGIA|COMBINING NI ABOVE|
    COMBINING SPIRITUS ASPER|COMBINING SPIRITUS LENIS|CAPITAL LETTER BOHAIRIC KHEI|
    SMALL LETTER BOHAIRIC KHEI"⟩,
  ⟨0x2CF9, "COPTIC OLD NUBIAN ", "FULL STOP|DIRECT QUESTION MARK|INDIRECT QUESTION MARK|
    VERSE DIVIDER"⟩,
  ⟨0x2CFD, "COPTIC ", "FRACTION ONE HALF|FULL STOP|MORPHOLOGICAL DIVIDER"⟩,
  ⟨0x2D00, "GEORGIAN SMALL LETTER ", "AN|BAN|GAN|DON|EN|VIN|ZEN|TAN|IN|KAN|LAS|MAN|NAR|ON|PAR|
    ZHAR|RAE|SAN|TAR|UN|PHAR|KHAR|GHAN|QAR|SHIN|CHIN|CAN|JIL|CIL|CHAR|XAN|JHAN|HAE|HE|HIE|WE|
    HAR|HOE"⟩,
  ⟨0x2D27, "GEORGIAN SMALL LETTER ", "YN"⟩,
  ⟨0x2D2D, "GEORGIAN SMALL LETTER ", "AEN"⟩,
  ⟨0x2D30, "TIFINAGH LETTER ", "YA|YAB|YABH|YAG|YAGHH|BERBER ACADEMY YAJ|YAJ|YAD|YADH|YADD|
    YADDH|YEY|YAF|YAK|TUAREG YAK|YAKHH|YAH|BERBER ACADEMY YAH|TUAREG YAH|YAHH|YAA|YAKH|
    TUAREG YAKH|YAQ|TUAREG YAQ|YI|YAZH|AHAGGAR YAZH|TUAREG YAZH|YAL|YAM|YAN|TUAREG YAGN|
    TUAREG YANG|YAP|YU|YAR|YARR|YAGH|TUAREG YAGH|AYER YAGH|YAS|YASS|YASH|YAT|YATH|YACH|YATT|YAV|
    YAW|YAY|YAZ|TAWELLEMET YAZ|YAZZ|YE|YO"⟩,
  ⟨0x2D6F, "TIFINAGH ", "MODIFIER LETTER LABIALIZATION MARK|SEPARATOR MARK"⟩,
  ⟨0x2D7F, "TIFINAGH CONSONANT ", "JOINER"⟩,
  ⟨0x2D80, "ETHIOPIC SYLLABLE ", "LOA|MOA|ROA|SOA|SHOA|BOA|TOA|COA|NOA|NYOA|GLOTTAL OA|ZOA|DOA|
    DDOA|JOA|THOA|CHOA|PHOA|POA|GGWA|GGWI|GGWEE|GGWE"⟩,
  ⟨0x2DA0, "ETHIOPIC SYLLABLE ", "SSA|SSU|SSI|SSAA|SSEE|SSE|SSO"⟩,
  ⟨0x2DA8, "ETHIOPIC SYLLABLE ", "CCA|CCU|CCI|CCAA|CCEE|CCE|CCO"⟩,
  ⟨0x2DB0, "ETHIOPIC SYLLABLE ", "ZZA|ZZU|ZZI|ZZAA|ZZEE|ZZE|ZZO"⟩,
  ⟨0x2DB8, "ETHIOPIC SYLLABLE ", "CCHA|CCHU|CCHI|CCHAA|CCHEE|CCHE|CCHO"⟩,
  ⟨0x2DC0, "ETHIOPIC SYLLABLE ", "QYA|QYU|QYI|QYAA|QYEE|QYE|QYO"⟩,
  ⟨0x2DC8, "ETHIOPIC SYLLABLE ", "KYA|KYU|KYI|KYAA|KYEE|KYE|KYO"⟩,
  ⟨0x2DD0, "ETHIOPIC SYLLABLE ", "XYA|XYU|XYI|XYAA|XYEE|XYE|XYO"⟩,
  ⟨0x2DD8, "ETHIOPIC SYLLABLE ", "GYA|GYU|GYI|GYAA|GYEE|GYE|GYO"⟩,
  ⟨0x2DE0, "COMBINING CYRILLIC LETTER ", "BE|VE|GHE|DE|ZHE|ZE|KA|EL|EM|EN|O|PE|ER|ES|TE|HA|TSE|
    CHE|SHA|SHCHA|FITA|ES-TE|A|IE|DJERV|MONOGRAPH UK|YAT|YU|IOTIFIED A|LITTLE YUS|BIG YUS|
    IOTIFIED BIG YUS"⟩,
  ⟨0x2E00, "", "RIGHT ANGLE SUBSTITUTION MARKER|RIGHT ANGLE DOTTED SUBSTITUTION MARKER|
    LEFT SUBSTITUTION BRACKET|RIGHT SUBSTITUTION BRACKET|LEFT DOTTED SUBSTITUTION BRACKET|
    RIGHT DOTTED SUBSTITUTION BRACKET|RAISED INTERPOLATION MARKER|
    RAISED DOTTED INTERPOLATION MARKER|DOTTED TRANSPOSITION MARKER|LEFT TRANSPOSITION BRACKET|
    RIGHT TRANSPOSITION BRACKET|RAISED SQUARE|LEFT RAISED OMISSION BRACKET|
    RIGHT RAISED OMISSION BRACKET|EDITORIAL CORONIS|PARAGRAPHOS|FORKED PARAGRAPHOS|
    REVERSED FORKED PARAGRAPHOS|HYPODIASTOLE|DOTTED OBELOS|DOWNWARDS ANCORA|UPWARDS ANCORA|
    DOTTED RIGHT-POINTING ANGLE|DOUBLE OBLIQUE HYPHEN|INVERTED INTERROBANG|PALM BRANCH|
    HYPHEN WITH DIAERESIS|TILDE WITH RING ABOVE|LEFT LOW PARAPHRASE BRACKET|
    RIGHT LOW PARAPHRASE BRACKET|TILDE WITH DOT ABOVE|TILDE WITH DOT BELOW|
    LEFT VERTICAL BAR WITH QUILL|RIGHT VERTICAL BAR WITH QUILL|TOP LEFT HALF BRACKET|
    TOP RIGHT HALF BRACKET|BOTTOM LEFT HALF BRACKET|BOTTOM RIGHT HALF BRACKET|
    LEFT SIDEWAYS U BRACKET|RIGHT SIDEWAYS U BRACKET|LEFT DOUBLE PARENTHESIS|
    RIGHT DOUBLE PARENTHESIS|TWO DOTS OVER ONE DOT PUNCTUATION|
    ONE DOT OVER TWO DOTS PUNCTUATION|SQUARED FOUR DOT PUNCTUATION|FIVE DOT MARK|
    REVERSED QUESTION MARK|VERTICAL TILDE|RING POINT|WORD SEPARATOR MIDDLE DOT|TURNED COMMA|
    RAISED DOT|RAISED COMMA|TURNED SEMICOLON|DAGGER WITH LEFT GUARD|DAGGER WITH RIGHT GUARD|
    TURNED DAGGER|TOP HALF SECTION SIGN|TWO-EM DASH|THREE-EM DASH|STENOGRAPHIC FULL STOP|
    VERTICAL SIX DOTS|WIGGLY VERTICAL LINE|CAPITULUM|DOUBLE HYPHEN|REVERSED COMMA|
    DOUBLE LOW-REVERSED-9 QUOTATION MARK|DASH WITH LEFT UPTURN|DOUBLE SUSPENSION MARK|
    INVERTED LOW KAVYKA|INVERTED LOW KAVYKA WITH KAVYKA ABOVE|LOW KAVYKA|LOW KAVYKA WITH DOT|
    DOUBLE STACKED COMMA|DOTTED SOLIDUS|TRIPLE DAGGER|MEDIEVAL COMMA|PARAGRAPHUS MARK|
    PUNCTUS ELEVATUS MARK|CORNISH VERSE DIVIDER|CROSS PATTY WITH RIGHT CROSSBAR|
    CROSS PATTY WITH LEFT CROSSBAR|TIRONIAN SIGN CAPITAL ET|MEDIEVAL EXCLAMATION MARK|
    MEDIEVAL QUESTION MARK|LEFT SQUARE BRACKET WITH STROKE|RIGHT SQUARE BRACKET WITH STROKE|
    LEFT SQUARE BRACKET WITH DOUBLE STROKE|RIGHT SQUARE BRACKET WITH DOUBLE STROKE|
    TOP HALF LEFT PARENTHESIS|TOP HALF RIGHT PARENTHESIS|BOTTOM HALF LEFT PARENTHESIS|
    BOTTOM HALF RIGHT PARENTHESIS|OBLIQUE HYPHEN"⟩]

end Excerpt.Text.Name
