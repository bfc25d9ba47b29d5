import Excerpt.Text.Name.Series

/-!
The names of the signs of SignWriting, from U+1D800 to U+1DFFF.
-/

namespace Excerpt.Text.Name

def signWriting : List Series := [
  ⟨0x1D800, "SIGNWRITING HAND-", "FIST INDEX|CIRCLE INDEX|CUP INDEX|OVAL INDEX|HINGE INDEX|
    ANGLE INDEX|FIST INDEX BENT|CIRCLE INDEX BENT|FIST THUMB UNDER INDEX BENT|
    FIST INDEX RAISED KNUCKLE|FIST INDEX CUPPED|FIST INDEX HINGED|FIST INDEX HINGED LOW|
    CIRCLE INDEX HINGE|FIST INDEX MIDDLE|CIRCLE INDEX MIDDLE"⟩,
  ⟨0x1D810, "SIGNWRITING HAND-FIST INDEX ", "MIDDLE BENT|MIDDLE RAISED KNUCKLES|MIDDLE HINGED|
    UP MIDDLE HINGED|HINGED MIDDLE UP|MIDDLE CONJOINED|MIDDLE CONJOINED INDEX BENT|
    MIDDLE CONJOINED MIDDLE BENT|MIDDLE CONJOINED CUPPED|MIDDLE CONJOINED HINGED|MIDDLE CROSSED"⟩,
  ⟨0x1D81B, "SIGNWRITING HAND-", "CIRCLE INDEX MIDDLE CROSSED|FIST MIDDLE BENT OVER INDEX|
    FIST INDEX BENT OVER MIDDLE|FIST INDEX MIDDLE THUMB|CIRCLE INDEX MIDDLE THUMB"⟩,
  ⟨0x1D820, "SIGNWRITING HAND-FIST INDEX ", "MIDDLE STRAIGHT THUMB BENT|
    MIDDLE BENT THUMB STRAIGHT|MIDDLE THUMB BENT|MIDDLE HINGED SPREAD THUMB SIDE|
    UP MIDDLE HINGED THUMB SIDE|UP MIDDLE HINGED THUMB CONJOINED|HINGED MIDDLE UP THUMB SIDE|
    MIDDLE UP SPREAD THUMB FORWARD|MIDDLE THUMB CUPPED|MIDDLE THUMB CIRCLED|MIDDLE THUMB HOOKED|
    MIDDLE THUMB HINGED"⟩,
  ⟨0x1D82C, "SIGNWRITING HAND-FIST ", "THUMB BETWEEN INDEX MIDDLE STRAIGHT|
    INDEX MIDDLE CONJOINED THUMB SIDE|INDEX MIDDLE CONJOINED THUMB SIDE CONJOINED|
    INDEX MIDDLE CONJOINED THUMB SIDE BENT|MIDDLE THUMB HOOKED INDEX UP|
    INDEX THUMB HOOKED MIDDLE UP|INDEX MIDDLE CONJOINED HINGED THUMB SIDE|
    INDEX MIDDLE CROSSED THUMB SIDE|INDEX MIDDLE CONJOINED THUMB FORWARD|
    INDEX MIDDLE CONJOINED CUPPED THUMB FORWARD|MIDDLE THUMB CUPPED INDEX UP|
    INDEX THUMB CUPPED MIDDLE UP|MIDDLE THUMB CIRCLED INDEX UP|
    MIDDLE THUMB CIRCLED INDEX HINGED|INDEX THUMB ANGLED OUT MIDDLE UP|
    INDEX THUMB ANGLED IN MIDDLE UP|INDEX THUMB CIRCLED MIDDLE UP|
    INDEX MIDDLE THUMB CONJOINED HINGED|INDEX MIDDLE THUMB ANGLED OUT|INDEX MIDDLE THUMB ANGLED|
    MIDDLE THUMB ANGLED OUT INDEX UP|MIDDLE THUMB ANGLED OUT INDEX CROSSED|
    MIDDLE THUMB ANGLED INDEX UP|INDEX THUMB HOOKED MIDDLE HINGED"⟩,
  ⟨0x1D844, "SIGNWRITING HAND-FLAT FOUR ", "FINGERS|FINGERS BENT|FINGERS HINGED|
    FINGERS CONJOINED|FINGERS CONJOINED SPLIT"⟩,
  ⟨0x1D849, "SIGNWRITING HAND-", "CLAW FOUR FINGERS CONJOINED|FIST FOUR FINGERS CONJOINED BENT|
    HINGE FOUR FINGERS CONJOINED|FLAT FIVE FINGERS SPREAD|FLAT HEEL FIVE FINGERS SPREAD|
    FLAT FIVE FINGERS SPREAD FOUR BENT|FLAT HEEL FIVE FINGERS SPREAD FOUR BENT|
    FLAT FIVE FINGERS SPREAD BENT|FLAT HEEL FIVE FINGERS SPREAD BENT|
    FLAT FIVE FINGERS SPREAD THUMB FORWARD|CUP FIVE FINGERS SPREAD|CUP FIVE FINGERS SPREAD OPEN|
    HINGE FIVE FINGERS SPREAD OPEN|OVAL FIVE FINGERS SPREAD|FLAT FIVE FINGERS SPREAD HINGED|
    FLAT FIVE FINGERS SPREAD HINGED THUMB SIDE|FLAT FIVE FINGERS SPREAD HINGED NO THUMB|FLAT|
    FLAT BETWEEN PALM FACINGS|FLAT HEEL|FLAT THUMB SIDE|FLAT HEEL THUMB SIDE|FLAT THUMB BENT|
    FLAT THUMB FORWARD|FLAT SPLIT INDEX THUMB SIDE|FLAT SPLIT CENTRE|
    FLAT SPLIT CENTRE THUMB SIDE|FLAT SPLIT CENTRE THUMB SIDE BENT|FLAT SPLIT LITTLE|CLAW|
    CLAW THUMB SIDE|CLAW NO THUMB|CLAW THUMB FORWARD|HOOK CURLICUE|HOOK|CUP OPEN|CUP|
    CUP OPEN THUMB SIDE|CUP THUMB SIDE|CUP OPEN NO THUMB|CUP NO THUMB|CUP OPEN THUMB FORWARD|
    CUP THUMB FORWARD|CURLICUE OPEN|CURLICUE|CIRCLE|OVAL|OVAL THUMB SIDE|OVAL NO THUMB|
    OVAL THUMB FORWARD|HINGE OPEN|HINGE OPEN THUMB FORWARD|HINGE|HINGE SMALL|
    HINGE OPEN THUMB SIDE|HINGE THUMB SIDE|HINGE OPEN NO THUMB|HINGE NO THUMB|
    HINGE THUMB SIDE TOUCHING INDEX|HINGE THUMB BETWEEN MIDDLE RING|ANGLE|
    FIST INDEX MIDDLE RING|CIRCLE INDEX MIDDLE RING|HINGE INDEX MIDDLE RING|
    ANGLE INDEX MIDDLE RING|HINGE LITTLE|FIST INDEX MIDDLE RING BENT|
    FIST INDEX MIDDLE RING CONJOINED|HINGE INDEX MIDDLE RING CONJOINED|FIST LITTLE DOWN|
    FIST LITTLE DOWN RIPPLE STRAIGHT|FIST LITTLE DOWN RIPPLE CURVED|
    FIST LITTLE DOWN OTHERS CIRCLED|FIST LITTLE UP|FIST THUMB UNDER LITTLE UP|CIRCLE LITTLE UP|
    OVAL LITTLE UP|ANGLE LITTLE UP|FIST LITTLE RAISED KNUCKLE|FIST LITTLE BENT|
    FIST LITTLE TOUCHES THUMB|FIST LITTLE THUMB|HINGE LITTLE THUMB|FIST LITTLE INDEX THUMB|
    HINGE LITTLE INDEX THUMB|ANGLE LITTLE INDEX THUMB INDEX THUMB OUT|
    ANGLE LITTLE INDEX THUMB INDEX THUMB|FIST LITTLE INDEX|CIRCLE LITTLE INDEX|
    HINGE LITTLE INDEX|ANGLE LITTLE INDEX|FIST INDEX MIDDLE LITTLE|CIRCLE INDEX MIDDLE LITTLE|
    HINGE INDEX MIDDLE LITTLE|HINGE RING|ANGLE INDEX MIDDLE LITTLE|
    FIST INDEX MIDDLE CROSS LITTLE|CIRCLE INDEX MIDDLE CROSS LITTLE|FIST RING DOWN|
    HINGE RING DOWN INDEX THUMB HOOK MIDDLE|ANGLE RING DOWN MIDDLE THUMB INDEX CROSS|
    FIST RING UP|FIST RING RAISED KNUCKLE|FIST RING LITTLE|CIRCLE RING LITTLE|OVAL RING LITTLE|
    ANGLE RING LITTLE|FIST RING MIDDLE|FIST RING MIDDLE CONJOINED|
    FIST RING MIDDLE RAISED KNUCKLES|FIST RING INDEX|FIST RING THUMB|HOOK RING THUMB|
    FIST INDEX RING LITTLE|CIRCLE INDEX RING LITTLE|CURLICUE INDEX RING LITTLE ON|
    HOOK INDEX RING LITTLE OUT|HOOK INDEX RING LITTLE IN|HOOK INDEX RING LITTLE UNDER|
    CUP INDEX RING LITTLE|HINGE INDEX RING LITTLE|ANGLE INDEX RING LITTLE OUT|
    ANGLE INDEX RING LITTLE|FIST MIDDLE DOWN|HINGE MIDDLE|FIST MIDDLE UP|CIRCLE MIDDLE UP|
    FIST MIDDLE RAISED KNUCKLE|FIST MIDDLE UP THUMB SIDE|HOOK MIDDLE THUMB|
    FIST MIDDLE THUMB LITTLE|FIST MIDDLE LITTLE|FIST MIDDLE RING LITTLE|
    CIRCLE MIDDLE RING LITTLE|CURLICUE MIDDLE RING LITTLE ON|CUP MIDDLE RING LITTLE|
    HINGE MIDDLE RING LITTLE|ANGLE MIDDLE RING LITTLE OUT|ANGLE MIDDLE RING LITTLE IN|
    ANGLE MIDDLE RING LITTLE|CIRCLE MIDDLE RING LITTLE BENT|CLAW MIDDLE RING LITTLE CONJOINED|
    CLAW MIDDLE RING LITTLE CONJOINED SIDE|HOOK MIDDLE RING LITTLE CONJOINED OUT|
    HOOK MIDDLE RING LITTLE CONJOINED IN|HOOK MIDDLE RING LITTLE CONJOINED|HINGE INDEX HINGED|
    FIST INDEX THUMB SIDE|HINGE INDEX THUMB SIDE"⟩,
  ⟨0x1D8DE, "SIGNWRITING HAND-FIST INDEX THUMB ", "SIDE THUMB DIAGONAL|SIDE THUMB CONJOINED|
    SIDE THUMB BENT|SIDE INDEX BENT|SIDE BOTH BENT|SIDE INDEX HINGE|FORWARD INDEX STRAIGHT|
    FORWARD INDEX BENT|HOOK|CURLICUE|CURVE THUMB INSIDE"⟩,
  ⟨0x1D8E9, "SIGNWRITING HAND-", "CLAW INDEX THUMB CURVE THUMB INSIDE|
    FIST INDEX THUMB CURVE THUMB UNDER|FIST INDEX THUMB CIRCLE|CUP INDEX THUMB|
    CUP INDEX THUMB OPEN|HINGE INDEX THUMB OPEN|HINGE INDEX THUMB LARGE|HINGE INDEX THUMB|
    HINGE INDEX THUMB SMALL|ANGLE INDEX THUMB OUT|ANGLE INDEX THUMB IN|ANGLE INDEX THUMB|
    FIST THUMB"⟩,
  ⟨0x1D8F6, "SIGNWRITING HAND-FIST THUMB ", "HEEL|SIDE DIAGONAL|SIDE CONJOINED|SIDE BENT|
    FORWARD|BETWEEN INDEX MIDDLE|BETWEEN MIDDLE RING|BETWEEN RING LITTLE|UNDER TWO FINGERS|
    OVER TWO FINGERS|UNDER THREE FINGERS|UNDER FOUR FINGERS|OVER FOUR RAISED KNUCKLES"⟩,
  ⟨0x1D903, "SIGNWRITING ", "HAND-FIST|HAND-FIST HEEL|TOUCH SINGLE|TOUCH MULTIPLE|TOUCH BETWEEN|
    GRASP SINGLE|GRASP MULTIPLE|GRASP BETWEEN|STRIKE SINGLE|STRIKE MULTIPLE|STRIKE BETWEEN|
    BRUSH SINGLE|BRUSH MULTIPLE|BRUSH BETWEEN|RUB SINGLE|RUB MULTIPLE|RUB BETWEEN|
    SURFACE SYMBOLS|SURFACE BETWEEN|SQUEEZE LARGE SINGLE|SQUEEZE SMALL SINGLE|
    SQUEEZE LARGE MULTIPLE|SQUEEZE SMALL MULTIPLE|SQUEEZE SEQUENTIAL|FLICK LARGE SINGLE|
    FLICK SMALL SINGLE|FLICK LARGE MULTIPLE|FLICK SMALL MULTIPLE|FLICK SEQUENTIAL|
    SQUEEZE FLICK ALTERNATING"⟩,
  ⟨0x1D921, "SIGNWRITING MOVEMENT-", "HINGE UP DOWN LARGE|HINGE UP DOWN SMALL|
    HINGE UP SEQUENTIAL|HINGE DOWN SEQUENTIAL|HINGE UP DOWN ALTERNATING LARGE|
    HINGE UP DOWN ALTERNATING SMALL|HINGE SIDE TO SIDE SCISSORS|WALLPLANE FINGER CONTACT|
    FLOORPLANE FINGER CONTACT"⟩,
  ⟨0x1D92A, "SIGNWRITING MOVEMENT-WALLPLANE ", "SINGLE STRAIGHT SMALL|SINGLE STRAIGHT MEDIUM|
    SINGLE STRAIGHT LARGE|SINGLE STRAIGHT LARGEST|SINGLE WRIST FLEX|DOUBLE STRAIGHT|
    DOUBLE WRIST FLEX|DOUBLE ALTERNATING|DOUBLE ALTERNATING WRIST FLEX|CROSS|
    TRIPLE STRAIGHT MOVEMENT|TRIPLE WRIST FLEX|TRIPLE ALTERNATING|TRIPLE ALTERNATING WRIST FLEX|
    BEND SMALL|BEND MEDIUM|BEND LARGE|CORNER SMALL|CORNER MEDIUM|CORNER LARGE|CORNER ROTATION|
    CHECK SMALL|CHECK MEDIUM|CHECK LARGE|BOX SMALL|BOX MEDIUM|BOX LARGE|ZIGZAG SMALL|
    ZIGZAG MEDIUM|ZIGZAG LARGE|PEAKS SMALL|PEAKS MEDIUM|PEAKS LARGE"⟩,
  ⟨0x1D94B, "SIGNWRITING TRAVEL-WALLPLANE ", "ROTATION-WALLPLANE SINGLE|
    ROTATION-WALLPLANE DOUBLE|ROTATION-WALLPLANE ALTERNATING|ROTATION-FLOORPLANE SINGLE|
    ROTATION-FLOORPLANE DOUBLE|ROTATION-FLOORPLANE ALTERNATING|SHAKING|ARM SPIRAL SINGLE|
    ARM SPIRAL DOUBLE|ARM SPIRAL TRIPLE"⟩,
  ⟨0x1D955, "SIGNWRITING MOVEMENT-DIAGONAL ", "AWAY SMALL|AWAY MEDIUM|AWAY LARGE|AWAY LARGEST|
    TOWARDS SMALL|TOWARDS MEDIUM|TOWARDS LARGE|TOWARDS LARGEST"⟩,
  ⟨0x1D95D, "SIGNWRITING MOVEMENT-DIAGONAL BETWEEN ", "AWAY SMALL|AWAY MEDIUM|AWAY LARGE|
    AWAY LARGEST|TOWARDS SMALL|TOWARDS MEDIUM|TOWARDS LARGE|TOWARDS LARGEST"⟩,
  ⟨0x1D965, "SIGNWRITING MOVEMENT-FLOORPLANE ", "SINGLE STRAIGHT SMALL|SINGLE STRAIGHT MEDIUM|
    SINGLE STRAIGHT LARGE|SINGLE STRAIGHT LARGEST|SINGLE WRIST FLEX|DOUBLE STRAIGHT|
    DOUBLE WRIST FLEX|DOUBLE ALTERNATING|DOUBLE ALTERNATING WRIST FLEX|CROSS|
    TRIPLE STRAIGHT MOVEMENT|TRIPLE WRIST FLEX|TRIPLE ALTERNATING MOVEMENT|
    TRIPLE ALTERNATING WRIST FLEX|BEND|CORNER SMALL|CORNER MEDIUM|CORNER LARGE|CHECK|BOX SMALL|
    BOX MEDIUM|BOX LARGE|ZIGZAG SMALL|ZIGZAG MEDIUM|ZIGZAG LARGE|PEAKS SMALL|PEAKS MEDIUM|
    PEAKS LARGE"⟩,
  ⟨0x1D981, "SIGNWRITING TRAVEL-FLOORPLANE ", "ROTATION-FLOORPLANE SINGLE|
    ROTATION-FLOORPLANE DOUBLE|ROTATION-FLOORPLANE ALTERNATING|ROTATION-WALLPLANE SINGLE|
    ROTATION-WALLPLANE DOUBLE|ROTATION-WALLPLANE ALTERNATING|SHAKING"⟩,
  ⟨0x1D988, "SIGNWRITING MOVEMENT-WALLPLANE CURVE ", "QUARTER SMALL|QUARTER MEDIUM|
    QUARTER LARGE|QUARTER LARGEST|HALF-CIRCLE SMALL|HALF-CIRCLE MEDIUM|HALF-CIRCLE LARGE|
    HALF-CIRCLE LARGEST|THREE-QUARTER CIRCLE SMALL|THREE-QUARTER CIRCLE MEDIUM"⟩,
  ⟨0x1D992, "SIGNWRITING MOVEMENT-WALLPLANE ", "HUMP SMALL|HUMP MEDIUM|HUMP LARGE|LOOP SMALL|
    LOOP MEDIUM|LOOP LARGE|LOOP SMALL DOUBLE|WAVE CURVE DOUBLE SMALL|WAVE CURVE DOUBLE MEDIUM|
    WAVE CURVE DOUBLE LARGE|WAVE CURVE TRIPLE SMALL|WAVE CURVE TRIPLE MEDIUM|
    WAVE CURVE TRIPLE LARGE|CURVE THEN STRAIGHT|CURVED CROSS SMALL|CURVED CROSS MEDIUM"⟩,
  ⟨0x1D9A2, "SIGNWRITING ROTATION-WALLPLANE ", "SINGLE|DOUBLE|ALTERNATE"⟩,
  ⟨0x1D9A5, "SIGNWRITING MOVEMENT-WALLPLANE ", "SHAKING|CURVE HITTING FRONT WALL|
    HUMP HITTING FRONT WALL|LOOP HITTING FRONT WALL|WAVE HITTING FRONT WALL"⟩,
  ⟨0x1D9AA, "SIGNWRITING ROTATION-WALLPLANE ", "SINGLE HITTING FRONT WALL|
    DOUBLE HITTING FRONT WALL|ALTERNATING HITTING FRONT WALL"⟩,
  ⟨0x1D9AD, "SIGNWRITING MOVEMENT-WALLPLANE ", "CURVE HITTING CHEST|HUMP HITTING CHEST|
    LOOP HITTING CHEST|WAVE HITTING CHEST"⟩,
  ⟨0x1D9B1, "SIGNWRITING ROTATION-WALLPLANE ", "SINGLE HITTING CHEST|DOUBLE HITTING CHEST|
    ALTERNATING HITTING CHEST"⟩,
  ⟨0x1D9B4, "SIGNWRITING MOVEMENT-WALLPLANE WAVE DIAGONAL PATH ", "SMALL|MEDIUM|LARGE"⟩,
  ⟨0x1D9B7, "SIGNWRITING MOVEMENT-FLOORPLANE CURVE HITTING CEILING ", "SMALL|LARGE"⟩,
  ⟨0x1D9B9, "SIGNWRITING MOVEMENT-FLOORPLANE HUMP HITTING CEILING ", "SMALL DOUBLE|LARGE DOUBLE|
    SMALL TRIPLE|LARGE TRIPLE"⟩,
  ⟨0x1D9BD, "SIGNWRITING MOVEMENT-FLOORPLANE LOOP HITTING CEILING ", "SMALL SINGLE|LARGE SINGLE|
    SMALL DOUBLE|LARGE DOUBLE"⟩,
  ⟨0x1D9C1, "SIGNWRITING MOVEMENT-FLOORPLANE WAVE HITTING CEILING ", "SMALL|LARGE"⟩,
  ⟨0x1D9C3, "SIGNWRITING ROTATION-FLOORPLANE ", "SINGLE HITTING CEILING|DOUBLE HITTING CEILING|
    ALTERNATING HITTING CEILING"⟩,
  ⟨0x1D9C6, "SIGNWRITING MOVEMENT-FLOORPLANE ", "CURVE HITTING FLOOR SMALL|
    CURVE HITTING FLOOR LARGE|HUMP HITTING FLOOR SMALL DOUBLE|HUMP HITTING FLOOR LARGE DOUBLE|
    HUMP HITTING FLOOR TRIPLE SMALL TRIPLE|HUMP HITTING FLOOR TRIPLE LARGE TRIPLE|
    LOOP HITTING FLOOR SMALL SINGLE|LOOP HITTING FLOOR LARGE SINGLE|
    LOOP HITTING FLOOR SMALL DOUBLE|LOOP HITTING FLOOR LARGE DOUBLE|WAVE HITTING FLOOR SMALL|
    WAVE HITTING FLOOR LARGE"⟩,
  ⟨0x1D9D2, "SIGNWRITING ROTATION-FLOORPLANE ", "SINGLE HITTING FLOOR|DOUBLE HITTING FLOOR|
    ALTERNATING HITTING FLOOR"⟩,
  ⟨0x1D9D5, "SIGNWRITING MOVEMENT-FLOORPLANE ", "CURVE SMALL|CURVE MEDIUM|CURVE LARGE|
    CURVE LARGEST|CURVE COMBINED|HUMP SMALL|LOOP SMALL|WAVE SNAKE|WAVE SMALL|WAVE LARGE"⟩,
  ⟨0x1D9DF, "SIGNWRITING ROTATION-FLOORPLANE ", "SINGLE|DOUBLE|ALTERNATING"⟩,
  ⟨0x1D9E2, "SIGNWRITING MOVEMENT-FLOORPLANE SHAKING ", "PARALLEL"⟩,
  ⟨0x1D9E3, "SIGNWRITING MOVEMENT-WALLPLANE ARM CIRCLE ", "SMALL SINGLE|MEDIUM SINGLE|
    SMALL DOUBLE|MEDIUM DOUBLE"⟩,
  ⟨0x1D9E7, "SIGNWRITING MOVEMENT-FLOORPLANE ARM CIRCLE HITTING WALL ", "SMALL SINGLE|
    MEDIUM SINGLE|LARGE SINGLE|SMALL DOUBLE|MEDIUM DOUBLE|LARGE DOUBLE"⟩,
  ⟨0x1D9ED, "SIGNWRITING MOVEMENT-WALLPLANE WRIST CIRCLE FRONT ", "SINGLE|DOUBLE"⟩,
  ⟨0x1D9EF, "SIGNWRITING MOVEMENT-FLOORPLANE WRIST CIRCLE HITTING WALL ", "SINGLE|DOUBLE"⟩,
  ⟨0x1D9F1, "SIGNWRITING MOVEMENT-WALLPLANE FINGER CIRCLES ", "SINGLE|DOUBLE"⟩,
  ⟨0x1D9F3, "SIGNWRITING MOVEMENT-FLOORPLANE FINGER CIRCLES HITTING WALL ", "SINGLE|DOUBLE"⟩,
  ⟨0x1D9F5, "SIGNWRITING DYNAMIC ", "ARROWHEAD SMALL|ARROWHEAD LARGE|FAST|SLOW|TENSE|RELAXED|
    SIMULTANEOUS|SIMULTANEOUS ALTERNATING|EVERY OTHER TIME|GRADUAL"⟩,
  ⟨0x1D9FF, "SIGNWRITING ", "HEAD|HEAD RIM|HEAD MOVEMENT-WALLPLANE STRAIGHT|
    HEAD MOVEMENT-WALLPLANE TILT|HEAD MOVEMENT-FLOORPLANE STRAIGHT|
    HEAD MOVEMENT-WALLPLANE CURVE|HEAD MOVEMENT-FLOORPLANE CURVE|HEAD MOVEMENT CIRCLE"⟩,
  ⟨0x1DA07, "SIGNWRITING FACE DIRECTION POSITION NOSE ", "FORWARD TILTING|UP OR DOWN|
    UP OR DOWN TILTING"⟩,
  ⟨0x1DA0A, "SIGNWRITING EYEBROWS STRAIGHT ", "UP|NEUTRAL|DOWN"⟩,
  ⟨0x1DA0D, "SIGNWRITING DREAMY EYEBROWS ", "NEUTRAL DOWN|DOWN NEUTRAL|UP NEUTRAL|NEUTRAL UP"⟩,
  ⟨0x1DA11, "SIGNWRITING ", "FOREHEAD NEUTRAL|FOREHEAD CONTACT|FOREHEAD WRINKLED|EYES OPEN|
    EYES SQUEEZED|EYES CLOSED|EYE BLINK SINGLE|EYE BLINK MULTIPLE|EYES HALF OPEN|EYES WIDE OPEN|
    EYES HALF CLOSED|EYES WIDENING MOVEMENT|EYE WINK|EYELASHES UP|EYELASHES DOWN|
    EYELASHES FLUTTERING|EYEGAZE-WALLPLANE STRAIGHT|EYEGAZE-WALLPLANE STRAIGHT DOUBLE|
    EYEGAZE-WALLPLANE STRAIGHT ALTERNATING|EYEGAZE-FLOORPLANE STRAIGHT|
    EYEGAZE-FLOORPLANE STRAIGHT DOUBLE|EYEGAZE-FLOORPLANE STRAIGHT ALTERNATING|
    EYEGAZE-WALLPLANE CURVED|EYEGAZE-FLOORPLANE CURVED|EYEGAZE-WALLPLANE CIRCLING|CHEEKS PUFFED|
    CHEEKS NEUTRAL|CHEEKS SUCKED|TENSE CHEEKS HIGH|TENSE CHEEKS MIDDLE|TENSE CHEEKS LOW|EARS|
    NOSE NEUTRAL|NOSE CONTACT|NOSE WRINKLES|NOSE WIGGLES|AIR BLOWING OUT|AIR SUCKING IN|
    AIR BLOW SMALL ROTATIONS|AIR SUCK SMALL ROTATIONS|BREATH INHALE|BREATH EXHALE"⟩,
  ⟨0x1DA3B, "SIGNWRITING MOUTH ", "CLOSED NEUTRAL|CLOSED FORWARD|CLOSED CONTACT|SMILE|
    SMILE WRINKLED|SMILE OPEN|FROWN|FROWN WRINKLED|FROWN OPEN|OPEN CIRCLE|OPEN FORWARD|
    OPEN WRINKLED|OPEN OVAL|OPEN OVAL WRINKLED|OPEN OVAL YAWN|OPEN RECTANGLE|
    OPEN RECTANGLE WRINKLED|OPEN RECTANGLE YAWN|KISS|KISS FORWARD|KISS WRINKLED|TENSE|
    TENSE FORWARD|TENSE SUCKED"⟩,
  ⟨0x1DA53, "SIGNWRITING ", "LIPS PRESSED TOGETHER|LIP LOWER OVER UPPER|LIP UPPER OVER LOWER|
    MOUTH CORNERS|MOUTH WRINKLES SINGLE|MOUTH WRINKLES DOUBLE|TONGUE STICKING OUT FAR|
    TONGUE LICKING LIPS|TONGUE TIP BETWEEN LIPS|TONGUE TIP TOUCHING INSIDE MOUTH|
    TONGUE INSIDE MOUTH RELAXED|TONGUE MOVES AGAINST CHEEK|TONGUE CENTRE STICKING OUT|
    TONGUE CENTRE INSIDE MOUTH|TEETH|TEETH MOVEMENT|TEETH ON TONGUE|TEETH ON TONGUE MOVEMENT|
    TEETH ON LIPS|TEETH ON LIPS MOVEMENT|TEETH BITE LIPS|MOVEMENT-WALLPLANE JAW|
    MOVEMENT-FLOORPLANE JAW|NECK|HAIR|EXCITEMENT|SHOULDER HIP SPINE|SHOULDER HIP POSITIONS|
    WALLPLANE SHOULDER HIP MOVE|FLOORPLANE SHOULDER HIP MOVE|SHOULDER TILTING FROM WAIST|
    TORSO-WALLPLANE STRAIGHT STRETCH|TORSO-WALLPLANE CURVED BEND|TORSO-FLOORPLANE TWISTING|
    UPPER BODY TILTING FROM HIP JOINTS|LIMB COMBINATION"⟩,
  ⟨0x1DA77, "SIGNWRITING LIMB LENGTH-", "1|2|3|4|5|6|7"⟩,
  ⟨0x1DA7E, "SIGNWRITING ", "FINGER|LOCATION-WALLPLANE SPACE|LOCATION-FLOORPLANE SPACE|
    LOCATION HEIGHT|LOCATION WIDTH|LOCATION DEPTH|LOCATION HEAD NECK|LOCATION TORSO|
    LOCATION LIMBS DIGITS|COMMA|FULL STOP|SEMICOLON|COLON|PARENTHESIS"⟩,
  ⟨0x1DA9B, "SIGNWRITING FILL MODIFIER-", "2|3|4|5|6"⟩,
  ⟨0x1DAA1, "SIGNWRITING ROTATION MODIFIER-", "2|3|4|5|6|7|8|9|10|11|12|13|14|15|16"⟩,
  ⟨0x1DF00, "LATIN ", "SMALL LETTER FENG DIGRAPH WITH TRILL|SMALL LETTER REVERSED SCRIPT G|
    LETTER SMALL CAPITAL TURNED G|SMALL LETTER REVERSED K|LETTER SMALL CAPITAL L WITH BELT|
    SMALL LETTER LEZH WITH RETROFLEX HOOK|SMALL LETTER TURNED Y WITH BELT|
    SMALL LETTER REVERSED ENG|SMALL LETTER TURNED R WITH LONG LEG AND RETROFLEX HOOK|
    SMALL LETTER T WITH HOOK AND RETROFLEX HOOK|LETTER RETROFLEX CLICK WITH RETROFLEX HOOK|
    SMALL LETTER ESH WITH DOUBLE BAR|SMALL LETTER ESH WITH DOUBLE BAR AND CURL|
    SMALL LETTER TURNED T WITH CURL|LETTER INVERTED GLOTTAL STOP WITH CURL|
    LETTER STRETCHED C WITH CURL|LETTER SMALL CAPITAL TURNED K"⟩,
  ⟨0x1DF11, "LATIN SMALL LETTER ", "L WITH FISHHOOK|DEZH DIGRAPH WITH PALATAL HOOK|
    L WITH BELT AND PALATAL HOOK|ENG WITH PALATAL HOOK|TURNED R WITH PALATAL HOOK|
    R WITH FISHHOOK AND PALATAL HOOK|TESH DIGRAPH WITH PALATAL HOOK|EZH WITH PALATAL HOOK|
    DEZH DIGRAPH WITH RETROFLEX HOOK|I WITH STROKE AND RETROFLEX HOOK|O WITH RETROFLEX HOOK|
    TESH DIGRAPH WITH RETROFLEX HOOK|C WITH RETROFLEX HOOK|S WITH CURL"⟩]

end Excerpt.Text.Name
