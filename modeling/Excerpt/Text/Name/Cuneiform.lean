import Excerpt.Text.Name.Series

/-!
The names of Cuneiform and Cypro-Minoan, from U+12000 to U+12FFF.
-/

namespace Excerpt.Text.Name

def cuneiform : List Series := [
  ⟨0x12001, "CUNEIFORM SIGN A TIMES ", "A|BAD|GAN2 TENU|HA|IGI|LAGAR GUNU|MUSH|SAG"⟩,
  ⟨0x12009, "CUNEIFORM SIGN ", "A2|AB"⟩,
  ⟨0x1200B, "CUNEIFORM SIGN AB TIMES ", "ASH2|DUN3 GUNU|GAL|GAN2 TENU|HA|IGI GUNU|IMIN|LAGAB|
    SHESH|U PLUS U PLUS U"⟩,
  ⟨0x12015, "CUNEIFORM SIGN ", "AB GUNU|AB2|AB2 TIMES BALAG|AB2 TIMES GAN2 TENU|
    AB2 TIMES ME PLUS EN|AB2 TIMES SHA3|AB2 TIMES TAK4|AD|AK|AK TIMES ERIN2|
    AK TIMES SHITA PLUS GISH|AL|AL TIMES AL|AL TIMES DIM2|AL TIMES GISH|AL TIMES HA|
    AL TIMES KAD3|AL TIMES KI|AL TIMES SHE|AL TIMES USH|ALAN|ALEPH|AMAR|AMAR TIMES SHE|AN|
    AN OVER AN|AN THREE TIMES|AN PLUS NAGA OPPOSING AN PLUS NAGA|AN PLUS NAGA SQUARED|ANSHE|
    APIN|ARAD|ARAD TIMES KUR|ARKAB|ASAL2|ASH|ASH ZIDA TENU|ASH KABA TENU|
    ASH OVER ASH TUG2 OVER TUG2 TUG2 OVER TUG2 PAP|ASH OVER ASH OVER ASH|
    ASH OVER ASH OVER ASH CROSSING ASH OVER ASH OVER ASH|ASH2|ASHGAB|BA|BAD|BAG3|BAHAR2|BAL|
    BAL OVER BAL|BALAG|BAR|BARA2|BI|BI TIMES A|BI TIMES GAR|BI TIMES IGI GUNU|BU|BU OVER BU AB|
    BU OVER BU UN|BU CROSSING BU|BULUG|BULUG OVER BULUG|BUR|BUR2|DA|DAG"⟩,
  ⟨0x12057, "CUNEIFORM SIGN DAG KISIM5 TIMES ", "A PLUS MASH|AMAR|BALAG|BI|GA|GA PLUS MASH|GI|
    GIR2|GUD|HA|IR|IR PLUS LU|KAK|LA|LU|LU PLUS MASH2|LUM|NE|PAP PLUS PAP|SI|TAK4|U2 PLUS GIR2|
    USH"⟩,
  ⟨0x1206E, "CUNEIFORM SIGN ", "DAM|DAR|DARA3|DARA4|DI|DIB|DIM|DIM TIMES SHE|DIM2|DIN|
    DIN KASKAL U GUNU DISH|DISH|DU|DU OVER DU|DU GUNU|DU SHESHIG|DUB|DUB TIMES ESH2|DUB2|DUG|
    DUGUD|DUH|DUN|DUN3|DUN3 GUNU|DUN3 GUNU GUNU|DUN4|DUR2|E|E TIMES PAP|E OVER E NUN OVER NUN|
    E2|E2 TIMES A PLUS HA PLUS DA|E2 TIMES GAR|E2 TIMES MI|E2 TIMES SAL|E2 TIMES SHE|E2 TIMES U|
    EDIN|EGIR|EL|EN|EN TIMES GAN2|EN TIMES GAN2 TENU|EN TIMES ME|EN CROSSING EN|EN OPPOSING EN|
    EN SQUARED|EREN|ERIN2|ESH2|EZEN"⟩,
  ⟨0x120A2, "CUNEIFORM SIGN EZEN TIMES ", "A|A PLUS LAL|A PLUS LAL TIMES LAL|AN|BAD|DUN3 GUNU|
    DUN3 GUNU GUNU|HA|HA GUNU|IGI GUNU|KASKAL|KASKAL SQUARED|KU3|LA|LAL TIMES LAL|LI|LU|U2|UD"⟩,
  ⟨0x120B5, "CUNEIFORM SIGN ", "GA|GA GUNU|GA2"⟩,
  ⟨0x120B8, "CUNEIFORM SIGN GA2 TIMES ", "A PLUS DA PLUS HA|A PLUS HA|A PLUS IGI|
    AB2 TENU PLUS TAB|AN|ASH|ASH2 PLUS GAL|BAD|BAR PLUS RA|BUR|BUR PLUS RA|DA|DI|DIM TIMES SHE|
    DUB|EL|EL PLUS LA|EN|EN TIMES GAN2 TENU|GAN2 TENU|GAR|GI|GI4|GI4 PLUS A|GIR2 PLUS SU|
    HA PLUS LU PLUS ESH2|HAL|HAL PLUS LA|HI PLUS LI|HUB2|IGI GUNU|ISH PLUS HU PLUS ASH|KAK|
    KASKAL|KID|KID PLUS LAL|KU3 PLUS AN|LA|ME PLUS EN|MI|NUN|NUN OVER NUN|PA|SAL|SAR|SHE|
    SHE PLUS TUR|SHID|SUM|TAK4|U|UD|UD PLUS DU"⟩,
  ⟨0x120ED, "CUNEIFORM SIGN ", "GA2 OVER GA2|GABA|GABA CROSSING GABA|GAD|
    GAD OVER GAD GAR OVER GAR|GAL|GAL GAD OVER GAD GAR OVER GAR|GALAM|GAM|GAN|GAN2|GAN2 TENU|
    GAN2 OVER GAN2|GAN2 CROSSING GAN2|GAR|GAR3|GASHAN|GESHTIN|GESHTIN TIMES KUR|GI|GI TIMES E|
    GI TIMES U|GI CROSSING GI|GI4|GI4 OVER GI4|GI4 CROSSING GI4|GIDIM|GIR2|GIR2 GUNU|GIR3|
    GIR3 TIMES A PLUS IGI|GIR3 TIMES GAN2 TENU|GIR3 TIMES IGI|GIR3 TIMES LU PLUS IGI|
    GIR3 TIMES PA|GISAL|GISH|GISH CROSSING GISH|GISH TIMES BAD|GISH TIMES TAK4|GISH TENU|GU|
    GU CROSSING GU|GU2|GU2 TIMES KAK|GU2 TIMES KAK TIMES IGI GUNU|GU2 TIMES NUN|
    GU2 TIMES SAL PLUS TUG2|GU2 GUNU|GUD|GUD TIMES A PLUS KUR|GUD TIMES KUR|GUD OVER GUD LUGAL|
    GUL|GUM|GUM TIMES SHE|GUR|GUR7|GURUN|GURUSH|HA|HA TENU|HA GUNU|HAL|HI|HI TIMES ASH|
    HI TIMES ASH2|HI TIMES BAD|HI TIMES DISH|HI TIMES GAD|HI TIMES KIN|HI TIMES NUN|
    HI TIMES SHE|HI TIMES U|HU|HUB2|HUB2 TIMES AN|HUB2 TIMES HAL|HUB2 TIMES KASKAL|
    HUB2 TIMES LISH|HUB2 TIMES UD|HUL2|I|I A|IB|IDIM|IDIM OVER IDIM BUR|IDIM OVER IDIM SQUARED|
    IG|IGI|IGI DIB|IGI RI|IGI OVER IGI SHIR OVER SHIR UD OVER UD|IGI GUNU|IL|IL TIMES GAN2 TENU|
    IL2|IM|IM TIMES TAK4|IM CROSSING IM|IM OPPOSING IM|IM SQUARED|IMIN|IN|IR|ISH|KA"⟩,
  ⟨0x12158, "CUNEIFORM SIGN KA TIMES ", "A|AD|AD PLUS KU3|ASH2|BAD|BALAG|BAR|BI|ERIN2|ESH2|GA|
    GAL|GAN2 TENU|GAR|GAR PLUS SHA3 PLUS A|GI|GIR2|GISH PLUS SAR|GISH CROSSING GISH|GU|GUR7|IGI|
    IM|KAK|KI|KID|LI|LU|ME|ME PLUS DU|ME PLUS GI|ME PLUS TE|MI|MI PLUS NUNUZ|NE|NUN|PI|RU|SA|
    SAR|SHA|SHE|SHID|SHU|SIG|SUHUR|TAR|U|U2|UD|UMUM TIMES PA|USH|ZI"⟩,
  ⟨0x1218D, "CUNEIFORM SIGN ", "KA2|KA2 CROSSING KA2|KAB|KAD2|KAD3|KAD4|KAD5|KAD5 OVER KAD5|KAK|
    KAK TIMES IGI GUNU|KAL|KAL TIMES BAD|KAL CROSSING KAL|KAM2|KAM4|KASKAL|
    KASKAL LAGAB TIMES U OVER LAGAB TIMES U|KASKAL OVER KASKAL LAGAB TIMES U OVER LAGAB TIMES U|
    KESH2|KI|KI TIMES BAD|KI TIMES U|KI TIMES UD|KID|KIN|KISAL|KISH|KISIM5|KISIM5 OVER KISIM5|
    KU|KU OVER HI TIMES ASH2 KU OVER HI TIMES ASH2|KU3|KU4|KU4 VARIANT FORM|KU7|KUL|KUL GUNU|
    KUN|KUR|KUR OPPOSING KUR|KUSHU2|KWU318|LA|LAGAB"⟩,
  ⟨0x121B9, "CUNEIFORM SIGN LAGAB TIMES ", "A|A PLUS DA PLUS HA|A PLUS GAR|A PLUS LAL|AL|AN|
    ASH ZIDA TENU|BAD|BI|DAR|EN|GA|GAR|GUD|GUD PLUS GUD|HA|HAL|HI TIMES NUN|IGI GUNU|IM|
    IM PLUS HA|IM PLUS LU|KI|KIN|KU3|KUL|KUL PLUS HI PLUS A|LAGAB|LISH|LU|LUL|ME|ME PLUS EN|
    MUSH|NE|SHE PLUS SUM|SHITA PLUS GISH PLUS ERIN2|SHITA PLUS GISH TENU|SHU2|SHU2 PLUS SHU2|
    SUM|TAG|TAK4|TE PLUS A PLUS SU PLUS NA|U|U PLUS A|U PLUS U PLUS U|U2 PLUS ASH|UD|USH"⟩,
  ⟨0x121EB, "CUNEIFORM SIGN ", "LAGAB SQUARED|LAGAR|LAGAR TIMES SHE|LAGAR TIMES SHE PLUS SUM|
    LAGAR GUNU|LAGAR GUNU OVER LAGAR GUNU SHE|LAHSHU|LAL|LAL TIMES LAL|LAM|LAM TIMES KUR|
    LAM TIMES KUR PLUS RU|LI|LIL|LIMMU2|LISH|LU|LU TIMES BAD|LU2"⟩,
  ⟨0x121FE, "CUNEIFORM SIGN LU2 TIMES ", "AL|BAD|ESH2|ESH2 TENU|GAN2 TENU|HI TIMES BAD|IM|KAD2|
    KAD3|KAD3 PLUS ASH|KI|LA PLUS ASH|LAGAB|ME PLUS EN|NE|NU|SI PLUS ASH|SIK2 PLUS BU|TUG2"⟩,
  ⟨0x12211, "CUNEIFORM SIGN ", "LU2 TENU|LU2 CROSSING LU2|LU2 OPPOSING LU2|LU2 SQUARED|
    LU2 SHESHIG|LU3|LUGAL|LUGAL OVER LUGAL|LUGAL OPPOSING LUGAL|LUGAL SHESHIG|LUH|LUL|LUM|
    LUM OVER LUM|LUM OVER LUM GAR OVER GAR|MA|MA TIMES TAK4|MA GUNU|MA2|MAH|MAR|MASH|MASH2|ME|
    MES|MI|MIN|MU|MU OVER MU|MUG|MUG GUNU|MUNSUB|MURGU2|MUSH|MUSH TIMES A|MUSH TIMES KUR|
    MUSH TIMES ZA|MUSH OVER MUSH|MUSH OVER MUSH TIMES A PLUS NA|MUSH CROSSING MUSH|MUSH3|
    MUSH3 TIMES A|MUSH3 TIMES A PLUS DI|MUSH3 TIMES DI|MUSH3 GUNU|NA|NA2|NAGA|NAGA INVERTED|
    NAGA TIMES SHU TENU|NAGA OPPOSING NAGA|NAGAR|NAM NUTILLU|NAM|NAM2|NE|NE TIMES A|NE TIMES UD|
    NE SHESHIG|NI|NI TIMES E|NI2|NIM|NIM TIMES GAN2 TENU|NIM TIMES GAR PLUS GAN2 TENU|NINDA2"⟩,
  ⟨0x12253, "CUNEIFORM SIGN NINDA2 TIMES ", "AN|ASH|ASH PLUS ASH|GUD|ME PLUS GAN2 TENU|NE|NUN|
    SHE|SHE PLUS A AN|SHE PLUS ASH|SHE PLUS ASH PLUS ASH|U2 PLUS ASH|USH"⟩,
  ⟨0x12260, "CUNEIFORM SIGN ", "NISAG|NU|NU11|NUN|NUN LAGAR TIMES GAR|NUN LAGAR TIMES MASH|
    NUN LAGAR TIMES SAL|NUN LAGAR TIMES SAL OVER NUN LAGAR TIMES SAL|NUN LAGAR TIMES USH|
    NUN TENU|NUN OVER NUN|NUN CROSSING NUN|NUN CROSSING NUN LAGAR OVER LAGAR|NUNUZ"⟩,
  ⟨0x1226E, "CUNEIFORM SIGN NUNUZ AB2 TIMES ", "ASHGAB|BI|DUG|GUD|IGI GUNU|KAD3|LA|NE|SILA3|U2"⟩,
  ⟨0x12278, "CUNEIFORM SIGN ", "NUNUZ KISIM5 TIMES BI|NUNUZ KISIM5 TIMES BI U|PA|PAD|PAN|PAP|
    PESH2|PI|PI TIMES A|PI TIMES AB|PI TIMES BI|PI TIMES BU|PI TIMES E|PI TIMES I|PI TIMES IB|
    PI TIMES U|PI TIMES U2|PI CROSSING PI|PIRIG|PIRIG TIMES KAL|PIRIG TIMES UD|PIRIG TIMES ZA|
    PIRIG OPPOSING PIRIG|RA|RAB|RI|RU|SA|SAG NUTILLU|SAG"⟩,
  ⟨0x12296, "CUNEIFORM SIGN SAG TIMES ", "A|DU|DUB|HA|KAK|KUR|LUM|MI|NUN|SAL|SHID|TAB|U2|UB|UM|
    UR|USH"⟩,
  ⟨0x122A7, "CUNEIFORM SIGN ", "SAG OVER SAG|SAG GUNU|SAL|SAL LAGAB TIMES ASH2|SANGA2|SAR|SHA|
    SHA3"⟩,
  ⟨0x122AF, "CUNEIFORM SIGN SHA3 TIMES ", "A|BAD|GISH|NE|SHU2|TUR|U|U PLUS A"⟩,
  ⟨0x122B7, "CUNEIFORM SIGN ", "SHA6|SHAB6|SHAR2|SHE|SHE HU|
    SHE OVER SHE GAD OVER GAD GAR OVER GAR|SHE OVER SHE TAB OVER TAB GAR OVER GAR|SHEG9|SHEN|
    SHESH|SHESH2|SHESHLAM|SHID|SHID TIMES A|SHID TIMES IM|SHIM"⟩,
  ⟨0x122C7, "CUNEIFORM SIGN SHIM TIMES ", "A|BAL|BULUG|DIN|GAR|IGI|IGI GUNU|KUSHU2|LUL|MUG|SAL"⟩,
  ⟨0x122D2, "CUNEIFORM SIGN ", "SHINIG|SHIR|SHIR TENU|SHIR OVER SHIR BUR OVER BUR|SHITA|SHU|
    SHU OVER INVERTED SHU|SHU2|SHUBUR|SI|SI GUNU|SIG|SIG4|SIG4 OVER SIG4 SHU2|SIK2|SILA3|SU|
    SU OVER SU|SUD|SUD2|SUHUR|SUM|SUMASH|SUR|SUR9|TA|TA ASTERISK|TA TIMES HI|TA TIMES MI|
    TA GUNU|TAB|TAB OVER TAB NI OVER NI DISH OVER DISH|TAB SQUARED|TAG|TAG TIMES BI|
    TAG TIMES GUD|TAG TIMES SHE|TAG TIMES SHU|TAG TIMES TUG2|TAG TIMES UD|TAK4|TAR|TE|TE GUNU|
    TI|TI TENU|TIL|TIR|TIR TIMES TAK4|TIR OVER TIR|TIR OVER TIR GAD OVER GAD GAR OVER GAR|TU|
    TUG2|TUK|TUM|TUR|TUR OVER TUR ZA OVER ZA|U|U GUD|U U U|U OVER U PA OVER PA GAR OVER GAR|
    U OVER U SUR OVER SUR|U OVER U U REVERSED OVER U REVERSED|U2|UB|UD|UD KUSHU2|UD TIMES BAD|
    UD TIMES MI|UD TIMES U PLUS U PLUS U|UD TIMES U PLUS U PLUS U GUNU|UD GUNU|UD SHESHIG|
    UD SHESHIG TIMES BAD|UDUG|UM|UM TIMES LAGAB|UM TIMES ME PLUS DA|UM TIMES SHA3|UM TIMES U|
    UMBIN|UMUM|UMUM TIMES KASKAL|UMUM TIMES PA|UN|UN GUNU|UR|UR CROSSING UR|UR SHESHIG|UR2|
    UR2 TIMES A PLUS HA|UR2 TIMES A PLUS NA|UR2 TIMES AL|UR2 TIMES HA|UR2 TIMES NUN|
    UR2 TIMES U2|UR2 TIMES U2 PLUS ASH|UR2 TIMES U2 PLUS BI|UR4|URI|URI3|URU"⟩,
  ⟨0x12338, "CUNEIFORM SIGN URU TIMES ", "A|ASHGAB|BAR|DUN|GA|GAL|GAN2 TENU|GAR|GU|HA|IGI|IM|
    ISH|KI|LUM|MIN|PA|SHE|SIG4|TU|U PLUS GUD|UD|URUDA"⟩,
  ⟨0x1234F, "CUNEIFORM SIGN ", "URUDA|URUDA TIMES U|USH|USH TIMES A|USH TIMES KU|USH TIMES KUR|
    USH TIMES TAK4|USHX|USH2|USHUMX|UTUKI|UZ3|UZ3 TIMES KASKAL|UZU|ZA|ZA TENU|
    ZA SQUARED TIMES KUR|ZAG|ZAMX|ZE2|ZI|ZI OVER ZI|ZI3|ZIB|ZIB KABA TENU|ZIG|ZIZ2|ZU|ZU5|
    ZU5 TIMES A|ZUBUR|ZUM|KAP ELAMITE|AB TIMES NUN|AB2 TIMES A|AMAR TIMES KUG|
    DAG KISIM5 TIMES U2 PLUS MASH|DAG3|DISH PLUS SHU|DUB TIMES SHE|EZEN TIMES GUD|
    EZEN TIMES SHE|GA2 TIMES AN PLUS KAK PLUS A|GA2 TIMES ASH2|GE22|GIG|HUSH"⟩,
  ⟨0x1237E, "CUNEIFORM SIGN KA TIMES ", "ANSHE|ASH3|GISH|GUD|HI TIMES ASH2|LUM|PA|SHUL|TU|UR2"⟩,
  ⟨0x12388, "CUNEIFORM SIGN ", "LAGAB TIMES GI|LU2 SHESHIG TIMES BAD|LU2 TIMES ESH2 PLUS LAL|
    LU2 TIMES SHU|MESH|MUSH3 TIMES ZA|NA4|NIN|NIN9|NINDA2 TIMES BAL|NINDA2 TIMES GI|
    NU11 ROTATED NINETY DEGREES|PESH2 ASTERISK|PIR2|SAG TIMES IGI GUNU|TI2|UM TIMES ME|U U"⟩,
  ⟨0x12400, "CUNEIFORM NUMERIC SIGN ", "TWO ASH|THREE ASH|FOUR ASH|FIVE ASH|SIX ASH|SEVEN ASH|
    EIGHT ASH|NINE ASH|THREE DISH|FOUR DISH|FIVE DISH|SIX DISH|SEVEN DISH|EIGHT DISH|NINE DISH|
    FOUR U|FIVE U|SIX U|SEVEN U|EIGHT U|NINE U|ONE GESH2|TWO GESH2|THREE GESH2|FOUR GESH2|
    FIVE GESH2|SIX GESH2|SEVEN GESH2|EIGHT GESH2|NINE GESH2|ONE GESHU|TWO GESHU|THREE GESHU|
    FOUR GESHU|FIVE GESHU|TWO SHAR2|THREE SHAR2|THREE SHAR2 VARIANT FORM|FOUR SHAR2|FIVE SHAR2|
    SIX SHAR2|SEVEN SHAR2|EIGHT SHAR2|NINE SHAR2|ONE SHARU|TWO SHARU|THREE SHARU|
    THREE SHARU VARIANT FORM|FOUR SHARU|FIVE SHARU|SHAR2 TIMES GAL PLUS DISH|
    SHAR2 TIMES GAL PLUS MIN|ONE BURU|TWO BURU|THREE BURU|THREE BURU VARIANT FORM|FOUR BURU|
    FIVE BURU|THREE VARIANT FORM ESH16|THREE VARIANT FORM ESH21|FOUR VARIANT FORM LIMMU|
    FOUR VARIANT FORM LIMMU4|FOUR VARIANT FORM LIMMU A|FOUR VARIANT FORM LIMMU B|
    SIX VARIANT FORM ASH9|SEVEN VARIANT FORM IMIN3|SEVEN VARIANT FORM IMIN A|
    SEVEN VARIANT FORM IMIN B|EIGHT VARIANT FORM USSU|EIGHT VARIANT FORM USSU3|
    NINE VARIANT FORM ILIMMU|NINE VARIANT FORM ILIMMU3|NINE VARIANT FORM ILIMMU4|
    NINE VARIANT FORM ILIMMU A|TWO ASH TENU|THREE ASH TENU|FOUR ASH TENU|FIVE ASH TENU|
    SIX ASH TENU|ONE BAN2|TWO BAN2|THREE BAN2|FOUR BAN2|FOUR BAN2 VARIANT FORM|FIVE BAN2|
    FIVE BAN2 VARIANT FORM|NIGIDAMIN|NIGIDAESH|ONE ESHE3|TWO ESHE3|ONE THIRD DISH|
    TWO THIRDS DISH|FIVE SIXTHS DISH|ONE THIRD VARIANT FORM A|TWO THIRDS VARIANT FORM A|
    ONE EIGHTH ASH|ONE QUARTER ASH|OLD ASSYRIAN ONE SIXTH|OLD ASSYRIAN ONE QUARTER|
    ONE QUARTER GUR|ONE HALF GUR|ELAMITE ONE THIRD|ELAMITE TWO THIRDS|ELAMITE FORTY|
    ELAMITE FIFTY|FOUR U VARIANT FORM|FIVE U VARIANT FORM|SIX U VARIANT FORM|
    SEVEN U VARIANT FORM|EIGHT U VARIANT FORM|NINE U VARIANT FORM"⟩,
  ⟨0x12470, "CUNEIFORM PUNCTUATION SIGN ", "OLD ASSYRIAN WORD DIVIDER|VERTICAL COLON|
    DIAGONAL COLON|DIAGONAL TRICOLON|DIAGONAL QUADCOLON"⟩,
  ⟨0x12480, "CUNEIFORM SIGN ", "AB TIMES NUN TENU|AB TIMES SHU2|AD TIMES ESH2|
    BAD TIMES DISH TENU|BAHAR2 TIMES AB2|BAHAR2 TIMES NI|BAHAR2 TIMES ZA|BU OVER BU TIMES NA2|
    DA TIMES TAK4|DAG TIMES KUR|DIM TIMES IGI|DIM TIMES U U U|DIM2 TIMES UD"⟩,
  ⟨0x1248D, "CUNEIFORM SIGN DUG TIMES ", "ANSHE|ASH|ASH AT LEFT|DIN|DUN|ERIN2|GA|GI|GIR2 GUNU|
    GISH|HA|HI|IGI GUNU|KASKAL|KUR|KUSHU2|KUSHU2 PLUS KASKAL|LAK-020|LAM|LAM TIMES KUR|
    LUH PLUS GISH|MASH|MES|MI|NI|PI|SHE|SI GUNU"⟩,
  ⟨0x124A9, "CUNEIFORM SIGN ", "E2 TIMES KUR|E2 TIMES PAP|ERIN2 X|ESH2 CROSSING ESH2"⟩,
  ⟨0x124AD, "CUNEIFORM SIGN EZEN SHESHIG TIMES ", "ASH|HI|IGI GUNU|LA|LAL|ME|MES|SU"⟩,
  ⟨0x124B5, "CUNEIFORM SIGN EZEN TIMES ", "SU"⟩,
  ⟨0x124B6, "CUNEIFORM SIGN GA2 TIMES ", "BAHAR2|DIM GUNU|DUG TIMES IGI GUNU|DUG TIMES KASKAL|
    EREN|GA|GAR PLUS DI|GAR PLUS NE|HA PLUS A|KUSHU2 PLUS KASKAL|LAM|LAM TIMES KUR|LUH|MUSH|NE|
    NE PLUS E2|NE PLUS GI|SHIM|ZIZ2"⟩,
  ⟨0x124C9, "CUNEIFORM SIGN ", "GABA ROTATED NINETY DEGREES|GESHTIN TIMES U|
    GISH TIMES GISH CROSSING GISH|GU2 TIMES IGI GUNU|GUD PLUS GISH TIMES TAK4|HA TENU GUNU|
    HI TIMES ASH OVER HI TIMES ASH|KA TIMES BU|KA TIMES KA|KA TIMES U U U|KA TIMES UR|
    LAGAB TIMES ZU OVER ZU"⟩,
  ⟨0x124D5, "CUNEIFORM SIGN LAK-", "003|021|025|030|050|051|062|079 OVER LAK-079 GUNU|080|
    081 OVER LAK-081|092|130|142|210|219|220|225|228|238|265|266|343|347|348|383|384|390|441|
    449|449 TIMES GU|449 TIMES IGI|449 TIMES PAP PLUS LU3|449 TIMES PAP PLUS PAP PLUS LU3|
    449 TIMES U2 PLUS BA|450|457|470|483|490|492|493|495|550|608|617"⟩,
  ⟨0x12502, "CUNEIFORM SIGN LAK-617 TIMES ", "ASH|BAD|DUN3 GUNU GUNU|KU3|LA|TAR|TE|U2|UD|URUDA"⟩,
  ⟨0x1250C, "CUNEIFORM SIGN LAK-", "636|648"⟩,
  ⟨0x1250E, "CUNEIFORM SIGN LAK-648 TIMES ", "DUB|GA|IGI|IGI GUNU|NI|PAP PLUS PAP PLUS LU3|
    SHESH PLUS KI|UD|URUDA"⟩,
  ⟨0x12517, "CUNEIFORM SIGN ", "LAK-724|LAK-749|LU2 GUNU TIMES ASH|LU2 TIMES DISH|LU2 TIMES HAL|
    LU2 TIMES PAP|LU2 TIMES PAP PLUS PAP PLUS LU3|LU2 TIMES TAK4|MI PLUS ZA7|
    MUSH OVER MUSH TIMES GA|MUSH OVER MUSH TIMES KAK"⟩,
  ⟨0x12522, "CUNEIFORM SIGN NINDA2 TIMES ", "DIM GUNU|GISH|GUL|HI|KESH2|LAK-050|MASH|
    PAP PLUS PAP|U|U PLUS U|URUDA"⟩,
  ⟨0x1252D, "CUNEIFORM SIGN ", "SAG GUNU TIMES HA|SAG TIMES EN|SAG TIMES SHE AT LEFT|
    SAG TIMES TAK4|SHA6 TENU|SHE OVER SHE|SHE PLUS HUB2|SHE PLUS NAM2|SHE PLUS SAR|
    SHU2 PLUS DUG TIMES NI|SHU2 PLUS E2 TIMES AN|SI TIMES TAK4|TAK4 PLUS SAG|
    TUM TIMES GAN2 TENU|TUM TIMES THREE DISH|UR2 INVERTED|UR2 TIMES UD|URU TIMES DARA3|
    URU TIMES LAK-668|URU TIMES LU3|ZA7|ZU OVER ZU PLUS SAR|ZU5 TIMES THREE DISH TENU"⟩,
  ⟨0x12F90, "CYPRO-MINOAN SIGN ", "CM001|CM002|CM004|CM005|CM006|CM007|CM008|CM009|CM010|CM011|
    CM012|CM012B|CM013|CM015|CM017|CM019|CM021|CM023|CM024|CM025|CM026|CM027|CM028|CM029|CM030|
    CM033|CM034|CM035|CM036|CM037|CM038|CM039|CM040|CM041|CM044|CM046|CM047|CM049|CM050|CM051|
    CM052|CM053|CM054|CM055|CM056|CM058|CM059|CM060|CM061|CM062|CM063|CM064|CM066|CM067|CM068|
    CM069|CM070|CM071|CM072|CM073|CM074|CM075|CM075B|CM076|CM078|CM079|CM080|CM081|CM082|CM083|
    CM084|CM085|CM086|CM087|CM088|CM089|CM090|CM091|CM092|CM094|CM095|CM096|CM097|CM098|CM099|
    CM100|CM101|CM102|CM103|CM104|CM105|CM107|CM108|CM109|CM110|CM112|CM114|CM301|CM302"⟩]

end Excerpt.Text.Name
