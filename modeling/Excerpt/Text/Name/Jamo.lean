import Excerpt.Text.Name.Series

/-!
The names of Hangul letters, Ethiopic and Cherokee, from U+1100 to U+13FF.
-/

namespace Excerpt.Text.Name

def jamo : List Series := [
  ⟨0x1100, "HANGUL CHOSEONG ", "KIYEOK|SSANGKIYEOK|NIEUN|TIKEUT|SSANGTIKEUT|RIEUL|MIEUM|PIEUP|
    SSANGPIEUP|SIOS|SSANGSIOS|IEUNG|CIEUC|SSANGCIEUC|CHIEUCH|KHIEUKH|THIEUTH|PHIEUPH|HIEUH|
    NIEUN-KIYEOK|SSANGNIEUN|NIEUN-TIKEUT|NIEUN-PIEUP|TIKEUT-KIYEOK|RIEUL-NIEUN|SSANGRIEUL|
    RIEUL-HIEUH|KAPYEOUNRIEUL|MIEUM-PIEUP|KAPYEOUNMIEUM|PIEUP-KIYEOK|PIEUP-NIEUN|PIEUP-TIKEUT|
    PIEUP-SIOS|PIEUP-SIOS-KIYEOK|PIEUP-SIOS-TIKEUT|PIEUP-SIOS-PIEUP|PIEUP-SSANGSIOS|
    PIEUP-SIOS-CIEUC|PIEUP-CIEUC|PIEUP-CHIEUCH|PIEUP-THIEUTH|PIEUP-PHIEUPH|KAPYEOUNPIEUP|
    KAPYEOUNSSANGPIEUP|SIOS-KIYEOK|SIOS-NIEUN|SIOS-TIKEUT|SIOS-RIEUL|SIOS-MIEUM|SIOS-PIEUP|
    SIOS-PIEUP-KIYEOK|SIOS-SSANGSIOS|SIOS-IEUNG|SIOS-CIEUC|SIOS-CHIEUCH|SIOS-KHIEUKH|
    SIOS-THIEUTH|SIOS-PHIEUPH|SIOS-HIEUH|CHITUEUMSIOS|CHITUEUMSSANGSIOS|CEONGCHIEUMSIOS|
    CEONGCHIEUMSSANGSIOS|PANSIOS|IEUNG-KIYEOK|IEUNG-TIKEUT|IEUNG-MIEUM|IEUNG-PIEUP|IEUNG-SIOS|
    IEUNG-PANSIOS|SSANGIEUNG|IEUNG-CIEUC|IEUNG-CHIEUCH|IEUNG-THIEUTH|IEUNG-PHIEUPH|YESIEUNG|
    CIEUC-IEUNG|CHITUEUMCIEUC|CHITUEUMSSANGCIEUC|CEONGCHIEUMCIEUC|CEONGCHIEUMSSANGCIEUC|
    CHIEUCH-KHIEUKH|CHIEUCH-HIEUH|CHITUEUMCHIEUCH|CEONGCHIEUMCHIEUCH|PHIEUPH-PIEUP|
    KAPYEOUNPHIEUPH|SSANGHIEUH|YEORINHIEUH|KIYEOK-TIKEUT|NIEUN-SIOS|NIEUN-CIEUC|NIEUN-HIEUH|
    TIKEUT-RIEUL|FILLER"⟩,
  ⟨0x1160, "HANGUL JUNGSEONG ", "FILLER|A|AE|YA|YAE|EO|E|YEO|YE|O|WA|WAE|OE|YO|U|WEO|WE|WI|YU|
    EU|YI|I|A-O|A-U|YA-O|YA-YO|EO-O|EO-U|EO-EU|YEO-O|YEO-U|O-EO|O-E|O-YE|O-O|O-U|YO-YA|YO-YAE|
    YO-YEO|YO-O|YO-I|U-A|U-AE|U-EO-EU|U-YE|U-U|YU-A|YU-EO|YU-E|YU-YEO|YU-YE|YU-U|YU-I|EU-U|
    EU-EU|YI-U|I-A|I-YA|I-O|I-U|I-EU|I-ARAEA|ARAEA|ARAEA-EO|ARAEA-U|ARAEA-I|SSANGARAEA|A-EU|
    YA-U|YEO-YA|O-YA|O-YAE"⟩,
  ⟨0x11A8, "HANGUL JONGSEONG ", "KIYEOK|SSANGKIYEOK|KIYEOK-SIOS|NIEUN|NIEUN-CIEUC|NIEUN-HIEUH|
    TIKEUT|RIEUL|RIEUL-KIYEOK|RIEUL-MIEUM|RIEUL-PIEUP|RIEUL-SIOS|RIEUL-THIEUTH|RIEUL-PHIEUPH|
    RIEUL-HIEUH|MIEUM|PIEUP|PIEUP-SIOS|SIOS|SSANGSIOS|IEUNG|CIEUC|CHIEUCH|KHIEUKH|THIEUTH|
    PHIEUPH|HIEUH|KIYEOK-RIEUL|KIYEOK-SIOS-KIYEOK|NIEUN-KIYEOK|NIEUN-TIKEUT|NIEUN-SIOS|
    NIEUN-PANSIOS|NIEUN-THIEUTH|TIKEUT-KIYEOK|TIKEUT-RIEUL|RIEUL-KIYEOK-SIOS|RIEUL-NIEUN|
    RIEUL-TIKEUT|RIEUL-TIKEUT-HIEUH|SSANGRIEUL|RIEUL-MIEUM-KIYEOK|RIEUL-MIEUM-SIOS|
    RIEUL-PIEUP-SIOS|RIEUL-PIEUP-HIEUH|RIEUL-KAPYEOUNPIEUP|RIEUL-SSANGSIOS|RIEUL-PANSIOS|
    RIEUL-KHIEUKH|RIEUL-YEORINHIEUH|MIEUM-KIYEOK|MIEUM-RIEUL|MIEUM-PIEUP|MIEUM-SIOS|
    MIEUM-SSANGSIOS|MIEUM-PANSIOS|MIEUM-CHIEUCH|MIEUM-HIEUH|KAPYEOUNMIEUM|PIEUP-RIEUL|
    PIEUP-PHIEUPH|PIEUP-HIEUH|KAPYEOUNPIEUP|SIOS-KIYEOK|SIOS-TIKEUT|SIOS-RIEUL|SIOS-PIEUP|
    PANSIOS|IEUNG-KIYEOK|IEUNG-SSANGKIYEOK|SSANGIEUNG|IEUNG-KHIEUKH|YESIEUNG|YESIEUNG-SIOS|
    YESIEUNG-PANSIOS|PHIEUPH-PIEUP|KAPYEOUNPHIEUPH|HIEUH-NIEUN|HIEUH-RIEUL|HIEUH-MIEUM|
    HIEUH-PIEUP|YEORINHIEUH|KIYEOK-NIEUN|KIYEOK-PIEUP|KIYEOK-CHIEUCH|KIYEOK-KHIEUKH|
    KIYEOK-HIEUH|SSANGNIEUN"⟩,
  ⟨0x1200, "ETHIOPIC SYLLABLE ", "HA|HU|HI|HAA|HEE|HE|HO|HOA|LA|LU|LI|LAA|LEE|LE|LO|LWA|HHA|HHU|
    HHI|HHAA|HHEE|HHE|HHO|HHWA|MA|MU|MI|MAA|MEE|ME|MO|MWA|SZA|SZU|SZI|SZAA|SZEE|SZE|SZO|SZWA|RA|
    RU|RI|RAA|REE|RE|RO|RWA|SA|SU|SI|SAA|SEE|SE|SO|SWA|SHA|SHU|SHI|SHAA|SHEE|SHE|SHO|SHWA|QA|QU|
    QI|QAA|QEE|QE|QO|QOA|QWA"⟩,
  ⟨0x124A, "ETHIOPIC SYLLABLE ", "QWI|QWAA|QWEE|QWE"⟩,
  ⟨0x1250, "ETHIOPIC SYLLABLE ", "QHA|QHU|QHI|QHAA|QHEE|QHE|QHO"⟩,
  ⟨0x1258, "ETHIOPIC SYLLABLE ", "QHWA"⟩,
  ⟨0x125A, "ETHIOPIC SYLLABLE ", "QHWI|QHWAA|QHWEE|QHWE"⟩,
  ⟨0x1260, "ETHIOPIC SYLLABLE ", "BA|BU|BI|BAA|BEE|BE|BO|BWA|VA|VU|VI|VAA|VEE|VE|VO|VWA|TA|TU|
    TI|TAA|TEE|TE|TO|TWA|CA|CU|CI|CAA|CEE|CE|CO|CWA|XA|XU|XI|XAA|XEE|XE|XO|XOA|XWA"⟩,
  ⟨0x128A, "ETHIOPIC SYLLABLE ", "XWI|XWAA|XWEE|XWE"⟩,
  ⟨0x1290, "ETHIOPIC SYLLABLE ", "NA|NU|NI|NAA|NEE|NE|NO|NWA|NYA|NYU|NYI|NYAA|NYEE|NYE|NYO|NYWA|
    GLOTTAL A|GLOTTAL U|GLOTTAL I|GLOTTAL AA|GLOTTAL EE|GLOTTAL E|GLOTTAL O|GLOTTAL WA|KA|KU|KI|
    KAA|KEE|KE|KO|KOA|KWA"⟩,
  ⟨0x12B2, "ETHIOPIC SYLLABLE ", "KWI|KWAA|KWEE|KWE"⟩,
  ⟨0x12B8, "ETHIOPIC SYLLABLE ", "KXA|KXU|KXI|KXAA|KXEE|KXE|KXO"⟩,
  ⟨0x12C0, "ETHIOPIC SYLLABLE ", "KXWA"⟩,
  ⟨0x12C2, "ETHIOPIC SYLLABLE ", "KXWI|KXWAA|KXWEE|KXWE"⟩,
  ⟨0x12C8, "ETHIOPIC SYLLABLE ", "WA|WU|WI|WAA|WEE|WE|WO|WOA"⟩,
  ⟨0x12D0, "ETHIOPIC SYLLABLE PHARYNGEAL ", "A|U|I|AA|EE|E|O"⟩,
  ⟨0x12D8, "ETHIOPIC SYLLABLE ", "ZA|ZU|ZI|ZAA|ZEE|ZE|ZO|ZWA|ZHA|ZHU|ZHI|ZHAA|ZHEE|ZHE|ZHO|ZHWA|
    YA|YU|YI|YAA|YEE|YE|YO|YOA|DA|DU|DI|DAA|DEE|DE|DO|DWA|DDA|DDU|DDI|DDAA|DDEE|DDE|DDO|DDWA|JA|
    JU|JI|JAA|JEE|JE|JO|JWA|GA|GU|GI|GAA|GEE|GE|GO|GOA|GWA"⟩,
  ⟨0x1312, "ETHIOPIC SYLLABLE ", "GWI|GWAA|GWEE|GWE"⟩,
  ⟨0x1318, "ETHIOPIC SYLLABLE ", "GGA|GGU|GGI|GGAA|GGEE|GGE|GGO|GGWAA|THA|THU|THI|THAA|THEE|THE|
    THO|THWA|CHA|CHU|CHI|CHAA|CHEE|CHE|CHO|CHWA|PHA|PHU|PHI|PHAA|PHEE|PHE|PHO|PHWA|TSA|TSU|TSI|
    TSAA|TSEE|TSE|TSO|TSWA|TZA|TZU|TZI|TZAA|TZEE|TZE|TZO|TZOA|FA|FU|FI|FAA|FEE|FE|FO|FWA|PA|PU|
    PI|PAA|PEE|PE|PO|PWA|RYA|MYA|FYA"⟩,
  ⟨0x135D, "ETHIOPIC ", "COMBINING GEMINATION AND VOWEL LENGTH MARK|COMBINING VOWEL LENGTH MARK|
    COMBINING GEMINATION MARK|SECTION MARK|WORDSPACE|FULL STOP|COMMA|SEMICOLON|COLON|
    PREFACE COLON|QUESTION MARK|PARAGRAPH SEPARATOR"⟩,
  ⟨0x1369, "ETHIOPIC DIGIT ", "ONE|TWO|THREE|FOUR|FIVE|SIX|SEVEN|EIGHT|NINE"⟩,
  ⟨0x1372, "ETHIOPIC NUMBER ", "TEN|TWENTY|THIRTY|FORTY|FIFTY|SIXTY|SEVENTY|EIGHTY|NINETY|
    HUNDRED|TEN THOUSAND"⟩,
  ⟨0x1380, "ETHIOPIC SYLLABLE ", "SEBATBEIT MWA|MWI|MWEE|MWE|SEBATBEIT BWA|BWI|BWEE|BWE|
    SEBATBEIT FWA|FWI|FWEE|FWE|SEBATBEIT PWA|PWI|PWEE|PWE"⟩,
  ⟨0x1390, "ETHIOPIC TONAL MARK ", "YIZET|DERET|RIKRIK|SHORT RIKRIK|DIFAT|KENAT|CHIRET|HIDET|
    DERET-HIDET|KURT"⟩,
  ⟨0x13A0, "CHEROKEE LETTER ", "A|E|I|O|U|V|GA|KA|GE|GI|GO|GU|GV|HA|HE|HI|HO|HU|HV|LA|LE|LI|LO|
    LU|LV|MA|ME|MI|MO|MU|NA|HNA|NAH|NE|NI|NO|NU|NV|QUA|QUE|QUI|QUO|QUU|QUV|SA|S|SE|SI|SO|SU|SV|
    DA|TA|DE|TE|DI|TI|DO|DU|DV|DLA|TLA|TLE|TLI|TLO|TLU|TLV|TSA|TSE|TSI|TSO|TSU|TSV|WA|WE|WI|WO|
    WU|WV|YA|YE|YI|YO|YU|YV|MV"⟩,
  ⟨0x13F8, "CHEROKEE SMALL LETTER ", "YE|YI|YO|YU|YV|MV"⟩]

end Excerpt.Text.Name
