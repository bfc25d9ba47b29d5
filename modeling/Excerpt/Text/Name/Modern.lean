import Excerpt.Text.Name.Series

/-!
The names of Mende Kikakui, Adlam and further scripts of today, from U+1E000 to U+1EFFF.
-/

namespace Excerpt.Text.Name

def modern : List Series := [
  ⟨0x1E000, "COMBINING GLAGOLITIC LETTER ", "AZU|BUKY|VEDE|GLAGOLI|DOBRO|YESTU|ZHIVETE"⟩,
  ⟨0x1E008, "COMBINING GLAGOLITIC LETTER ", "ZEMLJA|IZHE|INITIAL IZHE|I|DJERVI|KAKO|LJUDIJE|
    MYSLITE|NASHI|ONU|POKOJI|RITSI|SLOVO|TVRIDO|UKU|FRITU|HERU"⟩,
  ⟨0x1E01B, "COMBINING GLAGOLITIC LETTER ", "SHTA|TSI|CHRIVI|SHA|YERU|YERI|YATI"⟩,
  ⟨0x1E023, "COMBINING GLAGOLITIC LETTER ", "YU|SMALL YUS"⟩,
  ⟨0x1E026, "COMBINING GLAGOLITIC LETTER ", "YO|IOTATED SMALL YUS|BIG YUS|IOTATED BIG YUS|FITA"⟩,
  ⟨0x1E100, "NYIAKENG PUACHUE HMONG LETTER ", "MA|TSA|NTA|TA|HA|NA|XA|NKA|CA|LA|SA|ZA|NCA|NTSA|
    KA|DA|NYA|NRA|VA|NTXA|TXA|FA|RA|QA|YA|NQA|PA|XYA|NPA|DLA|NPLA|HAH|MLA|PLA|GA|RRA|A|AA|I|U|O|
    OO|E|EE|W"⟩,
  ⟨0x1E130, "NYIAKENG PUACHUE HMONG ", "TONE-B|TONE-M|TONE-J|TONE-V|TONE-S|TONE-G|TONE-D|
    SIGN FOR PERSON|SIGN FOR THING|SIGN FOR LOCATION|SIGN FOR ANIMAL|SIGN FOR INVERTEBRATE|
    SIGN XW XW|SYLLABLE LENGTHENER"⟩,
  ⟨0x1E140, "NYIAKENG PUACHUE HMONG DIGIT ", "ZERO|ONE|TWO|THREE|FOUR|FIVE|SIX|SEVEN|EIGHT|NINE"⟩,
  ⟨0x1E14E, "NYIAKENG PUACHUE HMONG ", "LOGOGRAM NYAJ|CIRCLED CA"⟩,
  ⟨0x1E290, "TOTO LETTER ", "PA|BA|TA|DA|KA|GA|MA|NA|NGA|SA|CHA|YA|WA|JA|HA|RA|LA|I|BREATHY I|
    IU|BREATHY IU|U|E|BREATHY E|EO|BREATHY EO|O|AE|BREATHY AE|A"⟩,
  ⟨0x1E2AE, "TOTO SIGN RISING ", "TONE"⟩,
  ⟨0x1E2C0, "WANCHO LETTER ", "AA|A|BA|CA|DA|GA|YA|PHA|LA|NA|PA|TA|THA|FA|SA|SHA|JA|ZA|WA|VA|KA|
    O|AU|RA|MA|KHA|HA|E|I|NGA|U|LLHA|TSA|TRA|ONG|AANG|ANG|ING|ON|EN|AAN|NYA|UEN|YIH"⟩,
  ⟨0x1E2EC, "WANCHO TONE ", "TUP|TUPNI|KOI|KOINI"⟩,
  ⟨0x1E2F0, "WANCHO DIGIT ", "ZERO|ONE|TWO|THREE|FOUR|FIVE|SIX|SEVEN|EIGHT|NINE"⟩,
  ⟨0x1E2FF, "WANCHO NGUN ", "SIGN"⟩,
  ⟨0x1E7E0, "ETHIOPIC SYLLABLE ", "HHYA|HHYU|HHYI|HHYAA|HHYEE|HHYE|HHYO"⟩,
  ⟨0x1E7E8, "ETHIOPIC SYLLABLE ", "GURAGE HHWA|HHWI|HHWEE|HHWE"⟩,
  ⟨0x1E7ED, "ETHIOPIC SYLLABLE GURAGE ", "MWI|MWEE"⟩,
  ⟨0x1E7F0, "ETHIOPIC SYLLABLE GURAGE ", "QWI|QWEE|QWE|BWI|BWEE|KWI|KWEE|KWE|GWI|GWEE|GWE|FWI|
    FWEE|PWI|PWEE"⟩,
  ⟨0x1E800, "MENDE KIKAKUI SYLLABLE ", "M001 KI|M002 KA|M003 KU|M065 KEE|M095 KE|M076 KOO|
    M048 KO|M179 KUA|M004 WI|M005 WA|M006 WU|M126 WEE|M118 WE|M114 WOO|M045 WO|M194 WUI|
    M143 WEI|M061 WVI|M049 WVA|M139 WVE|M007 MIN|M008 MAN|M009 MUN|M059 MEN|M094 MON|M154 MUAN|
    M189 MUEN|M010 BI|M011 BA|M012 BU|M150 BEE|M097 BE|M103 BOO|M138 BO|M013 I|M014 A|M015 U|
    M163 EE|M100 E|M165 OO|M147 O|M137 EI|M131 IN|M135 IN|M195 AN|M178 EN|M019 SI|M020 SA|
    M021 SU|M162 SEE|M116 SE|M136 SOO|M079 SO|M196 SIA|M025 LI|M026 LA|M027 LU|M084 LEE|M073 LE|
    M054 LOO|M153 LO|M110 LONG LE|M016 DI|M017 DA|M018 DU|M089 DEE|M180 DOO|M181 DO|M022 TI|
    M023 TA|M024 TU|M091 TEE|M055 TE|M104 TOO|M069 TO|M028 JI|M029 JA|M030 JU|M157 JEE|M113 JE|
    M160 JOO|M063 JO|M175 LONG JO|M031 YI|M032 YA|M033 YU|M109 YEE|M080 YE|M141 YOO|M121 YO|
    M034 FI|M035 FA|M036 FU|M078 FEE|M075 FE|M133 FOO|M088 FO|M197 FUA|M101 FAN|M037 NIN|
    M038 NAN|M039 NUN|M117 NEN|M169 NON|M176 HI|M041 HA|M186 HU|M040 HEE|M096 HE|M042 HOO|
    M140 HO|M083 HEEI|M128 HOOU|M053 HIN|M130 HAN|M087 HUN|M052 HEN|M193 HON|M046 HUAN|
    M090 NGGI|M043 NGGA|M082 NGGU|M115 NGGEE|M146 NGGE|M156 NGGOO|M120 NGGO|M159 NGGAA|
    M127 NGGUA|M086 LONG NGGE|M106 LONG NGGOO|M183 LONG NGGO|M155 GI|M111 GA|M168 GU|M190 GEE|
    M166 GUEI|M167 GUAN|M184 NGEN|M057 NGON|M177 NGUAN|M068 PI|M099 PA|M050 PU|M081 PEE|M051 PE|
    M102 POO|M066 PO|M145 MBI|M062 MBA|M122 MBU|M047 MBEE|M188 MBEE|M072 MBE|M172 MBOO|M174 MBO|
    M187 MBUU|M161 LONG MBE|M105 LONG MBOO|M142 LONG MBO|M132 KPI|M092 KPA|M074 KPU|M044 KPEE|
    M108 KPE|M112 KPOO|M158 KPO|M124 GBI|M056 GBA|M148 GBU|M093 GBEE|M107 GBE|M071 GBOO|
    M070 GBO|M171 RA|M123 NDI|M129 NDA|M125 NDU|M191 NDEE|M119 NDE|M067 NDOO|M064 NDO|M152 NJA|
    M192 NJU|M149 NJEE|M134 NJOO|M182 VI|M185 VA|M151 VU|M173 VEE|M085 VE|M144 VOO|M077 VO|
    M164 NYIN|M058 NYAN|M170 NYUN|M098 NYEN|M060 NYON"⟩,
  ⟨0x1E8C7, "MENDE KIKAKUI DIGIT ", "ONE|TWO|THREE|FOUR|FIVE|SIX|SEVEN|EIGHT|NINE"⟩,
  ⟨0x1E8D0, "MENDE KIKAKUI COMBINING NUMBER ", "TEENS|TENS|HUNDREDS|THOUSANDS|TEN THOUSANDS|
    HUNDRED THOUSANDS|MILLIONS"⟩,
  ⟨0x1E900, "ADLAM CAPITAL LETTER ", "ALIF|DAALI|LAAM|MIIM|BA|SINNYIIYHE|PE|BHE|RA|E|FA|I|O|DHA|
    YHE|WAW|NUN|KAF|YA|U|JIIM|CHI|HA|QAAF|GA|NYA|TU|NHA|VA|KHA|GBE|ZAL|KPO|SHA"⟩,
  ⟨0x1E922, "ADLAM SMALL LETTER ", "ALIF|DAALI|LAAM|MIIM|BA|SINNYIIYHE|PE|BHE|RA|E|FA|I|O|DHA|
    YHE|WAW|NUN|KAF|YA|U|JIIM|CHI|HA|QAAF|GA|NYA|TU|NHA|VA|KHA|GBE|ZAL|KPO|SHA"⟩,
  ⟨0x1E944, "ADLAM ", "ALIF LENGTHENER|VOWEL LENGTHENER|GEMINATION MARK|HAMZA|
    CONSONANT MODIFIER|GEMINATE CONSONANT MODIFIER|NUKTA|NASALIZATION MARK"⟩,
  ⟨0x1E950, "ADLAM DIGIT ", "ZERO|ONE|TWO|THREE|FOUR|FIVE|SIX|SEVEN|EIGHT|NINE"⟩,
  ⟨0x1E95E, "ADLAM INITIAL ", "EXCLAMATION MARK|QUESTION MARK"⟩,
  ⟨0x1EC71, "INDIC SIYAQ NUMBER ", "ONE|TWO|THREE|FOUR|FIVE|SIX|SEVEN|EIGHT|NINE|TEN|TWENTY|
    THIRTY|FORTY|FIFTY|SIXTY|SEVENTY|EIGHTY|NINETY|ONE HUNDRED|TWO HUNDRED|THREE HUNDRED|
    FOUR HUNDRED|FIVE HUNDRED|SIX HUNDRED|SEVEN HUNDRED|EIGHT HUNDRED|NINE HUNDRED|ONE THOUSAND|
    TWO THOUSAND|THREE THOUSAND|FOUR THOUSAND|FIVE THOUSAND|SIX THOUSAND|SEVEN THOUSAND|
    EIGHT THOUSAND|NINE THOUSAND|TEN THOUSAND|TWENTY THOUSAND|THIRTY THOUSAND|FORTY THOUSAND|
    FIFTY THOUSAND|SIXTY THOUSAND|SEVENTY THOUSAND|EIGHTY THOUSAND|NINETY THOUSAND|LAKH|LAKHAN"⟩,
  ⟨0x1ECA0, "INDIC SIYAQ ", "LAKH MARK|NUMBER KAROR|NUMBER KARORAN"⟩,
  ⟨0x1ECA3, "INDIC SIYAQ NUMBER PREFIXED ", "ONE|TWO|THREE|FOUR|FIVE|SIX|SEVEN|EIGHT|NINE"⟩,
  ⟨0x1ECAC, "INDIC SIYAQ ", "PLACEHOLDER|FRACTION ONE QUARTER|FRACTION ONE HALF|
    FRACTION THREE QUARTERS|RUPEE MARK|NUMBER ALTERNATE ONE|NUMBER ALTERNATE TWO|
    NUMBER ALTERNATE TEN THOUSAND|ALTERNATE LAKH MARK"⟩,
  ⟨0x1ED01, "OTTOMAN SIYAQ NUMBER ", "ONE|TWO|THREE|FOUR|FIVE|SIX|SEVEN|EIGHT|NINE|TEN|TWENTY|
    THIRTY|FORTY|FIFTY|SIXTY|SEVENTY|EIGHTY|NINETY|ONE HUNDRED|TWO HUNDRED|THREE HUNDRED|
    FOUR HUNDRED|FIVE HUNDRED|SIX HUNDRED|SEVEN HUNDRED|EIGHT HUNDRED|NINE HUNDRED|ONE THOUSAND|
    TWO THOUSAND|THREE THOUSAND|FOUR THOUSAND|FIVE THOUSAND|SIX THOUSAND|SEVEN THOUSAND|
    EIGHT THOUSAND|NINE THOUSAND|TEN THOUSAND|TWENTY THOUSAND|THIRTY THOUSAND|FORTY THOUSAND|
    FIFTY THOUSAND|SIXTY THOUSAND|SEVENTY THOUSAND|EIGHTY THOUSAND|NINETY THOUSAND"⟩,
  ⟨0x1ED2E, "OTTOMAN SIYAQ ", "MARRATAN"⟩,
  ⟨0x1ED2F, "OTTOMAN SIYAQ ALTERNATE NUMBER ", "TWO|THREE|FOUR|FIVE|SIX|SEVEN|EIGHT|NINE|TEN|
    FOUR HUNDRED|SIX HUNDRED|TWO THOUSAND|TEN THOUSAND"⟩,
  ⟨0x1ED3C, "OTTOMAN SIYAQ FRACTION ONE ", "HALF|SIXTH"⟩,
  ⟨0x1EE00, "ARABIC MATHEMATICAL ", "ALEF|BEH|JEEM|DAL"⟩,
  ⟨0x1EE05, "ARABIC MATHEMATICAL ", "WAW|ZAIN|HAH|TAH|YEH|KAF|LAM|MEEM|NOON|SEEN|AIN|FEH|SAD|
    QAF|REH|SHEEN|TEH|THEH|KHAH|THAL|DAD|ZAH|GHAIN|DOTLESS BEH|DOTLESS NOON|DOTLESS FEH|
    DOTLESS QAF"⟩,
  ⟨0x1EE21, "ARABIC MATHEMATICAL INITIAL ", "BEH|JEEM"⟩,
  ⟨0x1EE24, "ARABIC MATHEMATICAL INITIAL ", "HEH"⟩,
  ⟨0x1EE27, "ARABIC MATHEMATICAL INITIAL ", "HAH"⟩,
  ⟨0x1EE29, "ARABIC MATHEMATICAL INITIAL ", "YEH|KAF|LAM|MEEM|NOON|SEEN|AIN|FEH|SAD|QAF"⟩,
  ⟨0x1EE34, "ARABIC MATHEMATICAL INITIAL ", "SHEEN|TEH|THEH|KHAH"⟩,
  ⟨0x1EE39, "ARABIC MATHEMATICAL INITIAL ", "DAD"⟩,
  ⟨0x1EE3B, "ARABIC MATHEMATICAL INITIAL ", "GHAIN"⟩,
  ⟨0x1EE42, "ARABIC MATHEMATICAL TAILED ", "JEEM"⟩,
  ⟨0x1EE47, "ARABIC MATHEMATICAL TAILED ", "HAH"⟩,
  ⟨0x1EE49, "ARABIC MATHEMATICAL TAILED ", "YEH"⟩,
  ⟨0x1EE4B, "ARABIC MATHEMATICAL TAILED ", "LAM"⟩,
  ⟨0x1EE4D, "ARABIC MATHEMATICAL TAILED ", "NOON|SEEN|AIN"⟩,
  ⟨0x1EE51, "ARABIC MATHEMATICAL TAILED ", "SAD|QAF"⟩,
  ⟨0x1EE54, "ARABIC MATHEMATICAL TAILED ", "SHEEN"⟩,
  ⟨0x1EE57, "ARABIC MATHEMATICAL TAILED ", "KHAH"⟩,
  ⟨0x1EE59, "ARABIC MATHEMATICAL TAILED ", "DAD"⟩,
  ⟨0x1EE5B, "ARABIC MATHEMATICAL TAILED ", "GHAIN"⟩,
  ⟨0x1EE5D, "ARABIC MATHEMATICAL TAILED DOTLESS ", "NOON"⟩,
  ⟨0x1EE5F, "ARABIC MATHEMATICAL TAILED DOTLESS ", "QAF"⟩,
  ⟨0x1EE61, "ARABIC MATHEMATICAL STRETCHED ", "BEH|JEEM"⟩,
  ⟨0x1EE64, "ARABIC MATHEMATICAL STRETCHED ", "HEH"⟩,
  ⟨0x1EE67, "ARABIC MATHEMATICAL STRETCHED ", "HAH|TAH|YEH|KAF"⟩,
  ⟨0x1EE6C, "ARABIC MATHEMATICAL STRETCHED ", "MEEM|NOON|SEEN|AIN|FEH|SAD|QAF"⟩,
  ⟨0x1EE74, "ARABIC MATHEMATICAL STRETCHED ", "SHEEN|TEH|THEH|KHAH"⟩,
  ⟨0x1EE79, "ARABIC MATHEMATICAL STRETCHED ", "DAD|ZAH|GHAIN|DOTLESS BEH"⟩,
  ⟨0x1EE7E, "ARABIC MATHEMATICAL STRETCHED DOTLESS ", "FEH"⟩,
  ⟨0x1EE80, "ARABIC MATHEMATICAL LOOPED ", "ALEF|BEH|JEEM|DAL|HEH|WAW|ZAIN|HAH|TAH|YEH"⟩,
  ⟨0x1EE8B, "ARABIC MATHEMATICAL LOOPED ", "LAM|MEEM|NOON|SEEN|AIN|FEH|SAD|QAF|REH|SHEEN|TEH|
    THEH|KHAH|THAL|DAD|ZAH|GHAIN"⟩,
  ⟨0x1EEA1, "ARABIC MATHEMATICAL DOUBLE-STRUCK ", "BEH|JEEM|DAL"⟩,
  ⟨0x1EEA5, "ARABIC MATHEMATICAL DOUBLE-STRUCK ", "WAW|ZAIN|HAH|TAH|YEH"⟩,
  ⟨0x1EEAB, "ARABIC MATHEMATICAL DOUBLE-STRUCK ", "LAM|MEEM|NOON|SEEN|AIN|FEH|SAD|QAF|REH|SHEEN|
    TEH|THEH|KHAH|THAL|DAD|ZAH|GHAIN"⟩,
  ⟨0x1EEF0, "ARABIC MATHEMATICAL OPERATOR ", "MEEM WITH HAH WITH TATWEEL|HAH WITH DAL"⟩]

end Excerpt.Text.Name
