import HttpCall.Text.CodeTable
import HttpCall.Text.Decomposition
import HttpCall.Text.RangeTable

/-!
# Folding

Characters that are alike in a domain name are folded to one text: letters of
either case, and characters that differ in width, style or position only.  Some
characters are left out, and some may not occur.
-/

namespace HttpCall
namespace Idna

def disallowed : Text.RangeTable := .ofText
  "80 20 2d8 2 6 4 7 1 1 1 14 1 18d 1 26 2 32 2 3 1 37 8 1b 4 6 11 16 1 c0 1 30 2 3b 2 65 e
    3b 2 31 2 f 1 1c 2 1 1 b 5 20 7 4b 1 a1 1 8 2 2 2 16 1 7 1 1 3 4 2 9 2 2 2 4 8 1 4 2 1 5 2
    19 2 3 1 6 4 2 2 16 1 7 1 2 1 2 1 2 2 1 1 5 4 2 2 3 3 1 7 4 1 1 7 11 a 3 1 9 1 3 1 16 1 7
    1 2 1 5 2 a 1 3 1 3 2 1 f 4 2 c 7 7 1 3 1 8 2 2 2 16 1 7 1 2 1 5 2 9 2 2 2 3 7 3 4 2 1 5 2
    12 a 2 1 6 3 3 1 4 3 2 1 1 1 2 3 2 3 3 3 c 4 5 3 3 1 4 2 1 6 1 e 15 5 d 1 3 1 17 1 10 2 9
    1 3 1 4 7 2 1 3 1 2 2 4 2 a 7 16 1 3 1 17 1 a 1 5 2 9 1 3 1 4 7 2 5 3 1 4 2 a 1 3 c d 1 3
    1 33 1 3 1 6 4 10 2 1a 1 3 1 12 3 18 1 9 1 1 2 7 3 1 4 6 1 1 1 8 6 a 2 3 c 3a 4 1d 25 2 1
    1 1 5 1 18 1 1 1 17 2 5 1 1 1 7 1 a 2 4 20 48 1 24 4 27 1 24 1 f 1 d 25 c6 1 1 5 1 2 179 1
    4 2 7 1 1 1 4 2 29 1 4 2 21 1 4 2 7 1 1 1 4 2 f 1 39 1 4 2 43 2 20 3 1a 6 56 2 6 2 280 1
    1c 3 59 7 16 9 18 9 14 c d 1 3 1 2 c 5e 2 a 6 a 6 1a 6 59 7 2b 5 46 a 1f 1 c 4 c 4 1 3 2a
    2 5 b 2c 4 1a 6 b 3 3e 2 41 1 1d 2 b 6 a 6 e 2 2e 2 c 14 4d 1 a6 8 3c 3 f 3 3e 5 2b 2 b 8
    2b 5 216 2 6 2 26 2 6 2 8 1 1 1 1 1 1 1 1f 2 35 1 f 1 e 2 6 1 13 2 3 1 9 1 e 2 14 3 1 7 36
    5 8 2 1b 1 d 3 22 e 21 f 8c 4 29a 16 b 15 28 14 6d8 2 17e 5 2d 1 1 5 1 2 38 7 2 e 18 9 7 1
    7 1 7 1 7 1 7 1 7 1 7 1 7 1 7e 22 1a 1 59 c d6 2a 40 1 56 2 67 5 2b 1 5e 1 56 a 2f 1 1a2 1
    4 1 10 1 70b4 3 37 9 15c 14 b8 8 dd 14 3c 3 a 6 38 8 46 8 c 6 74 b 1e 3 4e 1 b 4 21 1 37 9
    e 2 a 2 67 18 1c a 6 2 6 2 6 9 7 1 7 1 3c 4 7e 2 a 6 2ba4 c 17 4 31 4 800 1900 16e 2 6a 26
    7 c 5 5 1a 1 5 1 1 1 2 1 2 1 28a 20 22 1 6 7 10 1 21 2 13 1 4 4 5 1 87 2 1 1 be 3 6 2 6 2
    6 2 3 3 7 1 7 11 c 1 1a 1 13 1 2 1 f 2 e 22 7b 5 3 4 2d 3 58 1 d 3 1 2f 2e 82 1d 3 31 f 1c
    4 24 9 1e 5 2b 5 1e 1 25 4 e 2a 9e 2 a 6 24 4 24 4 28 8 34 b c 1 f 1 7 1 2 1 b 1 f 1 7 1 2
    3 34 c 137 9 16 a 8 18 6 1 2a 1 9 45 6 2 1 1 2c 1 2 3 1 2 17 1 48 8 9 30 13 1 2 5 21 3 1b
    5 1b 26 38 4 14 2 32 1 2 5 8 1 3 1 1d 2 3 4 a 7 9 7 40 20 27 4 c 9 36 3 1d 2 1b 5 1a 7 4 c
    7 50 49 37 33 d 33 7 2e 8 a 6 26 3 1d 8 2 d0 1f 1 2a 1 3 2 2 10 6 8 9 21 2e 8 2a 16 1a 26
    1c 14 17 9 4e 4 24 9 3e 1 5 d 19 7 a 6 35 1 12 8 27 9 60 1 14 b 12 1 2f 3e 7 1 1 1 4 1 f 1
    b 6 3b 5 a 6 4 1 8 2 2 2 16 1 7 1 2 1 5 1 a 2 2 2 3 2 1 6 1 5 7 2 7 3 5 b a 1 1 2 1 1 26 1
    a 1 1 2 1 1 4 1 a 1 2 8 2 1d 5c 1 5 1e 48 8 a a6 36 2 26 22 45 b a 6 d 13 3a 6 a 6 14 1c
    1b 2 f 4 17 b9 3c 64 53 c 8 2 1 2 8 1 2 1 1e 1 2 2 c 9 a 46 8 2 2e 2 b 1b 48 8 53 d 49 7 a
    56 8 58 22 e a 6 9 1 2d 1 e a 1d 3 20 2 16 1 e 49 7 1 2 1 2c 3 1 1 2 1 9 8 a 6 6 1 2 1 25
    1 2 1 6 7 a 6 2c 4 a f6 19 7 11 1 29 3 1d 55 1 f 32 d 39b 66 6f 1 5 b c4 a4c 63 d 430 10
    16 a f9b 5 247 1ab9 3a 6c6 239 7 1f 1 a 4 51 1 a 6 1e 2 6 a 46 a a 1 7 1 15 5 13 1b0 3a c6
    5b 5 19 2 19 2c 4b 4 39 7 11 40 5 b 7 9 1cd6 29 20 61 73 21fd 4 1 7 1 2 1 123 f 1 1d 3 2 1
    e 4 8 18c 904 6b 5 d 3 9 7 a 2 8 f5c fd 3 1b4 6 17 f 11 f 2e 2 17 9 74 3c f6 a 27 2 c2 15
    46 7a 14 c 14 c 57 9 19 87 55 1 47 1 2 2 1 2 2 2 4 1 c 1 1 1 7 1 41 1 4 2 8 1 7 1 1c 1 4 1
    5 1 1 3 7 1 154 2 124 2 2be f 5 1 f 450 1f 6 6 d5 7 1 11 2 7 1 2 1 5 5 3e 21 1 70 2d 3 e 2
    a 4 2 140 1f 11 3a 5 1 1d0 2a d6 2b 4 1 c0 1f 1 16 8 2 e0 7 1 4 1 2 1 f 1 c5 2 10 29 4c 4
    a 4 2 311 44 4c 3d c2 4 1 1b 1 2 1 1 2 1 1 a 1 4 1 1 1 1 6 1 4 1 1 1 1 1 1 3 1 2 1 1 2 1 1
    1 1 1 1 1 1 1 1 2 1 1 2 4 1 7 1 4 1 4 1 1 1 a 1 11 5 3 1 5 1 11 34 2 10e 2c 4 64 c f 2 f 1
    f 1 25 b ad 38 1d d 2c 4 9 7 2 e 6 9a 3d9 3 11 3 d 3 da 6 c 4 1 f c 4 38 8 a 6 28 8 1e 2 c
    4 2 e 9 27 158 8 e 2 d 3 b 3 39 1 1 4 10 2 c 4 a 7 93 1 67 405 a6e0 20 111e 2 168e 2 1d31
    f 26e 9a2 21e 5e2 134b 5 212a acc86 f0"

def ignored : Text.RangeTable := .ofText
  "ad 1 2a1 1 e0f 2 653 2 55 5 7fb 1 54 5 5 6 10f4 1 cc9b 10 ef 1 a0 1 bcff 4 14cf 8 c2f85 f0"

def expansions : Text.CodeTable := .ofText
  "a8,20,308 7,20,304 5,20,301 4,20,327 4,31,2044,34 1,31,2044,32 1,33,2044,34 74,69,6a
    1,69,6a c,6c,b7 1,6c,b7 9,2bc,6e 7b,64,17e 1,64,17e 1,64,17e 1,6c,6a 1,6c,6a 1,6c,6a
    1,6e,6a 1,6e,6a 1,6e,6a 25,64,7a 1,64,7a 1,64,7a e5,20,306 1,20,307 1,20,30a 1,20,328
    1,20,303 1,20,30b 9d,20,3b9 a,20,301 203,565,582 ee,627,674 1,648,674 1,6c7,674 1,64a,674
    7bb,e4d,e32 80,ecd,eb2 29,eab,e99 1,eab,ea1 9a,fb2,f71,f80 2,fb3,f71,f80 f21,61,2be
    123,20,313 2,20,313 1,20,342 3e,20,314 19,20,333 1c,2032,2032 1,2032,2032,2032 2,2035,2035
    1,2035,2035,2035 5,21,21 2,20,305 9,3f,3f 1,3f,21 1,21,3f e,2032,2032,2032,2032 51,72,73
    58,61,2f,63 1,61,2f,73 2,b0,63 2,63,2f,6f 1,63,2f,75 3,b0,66 d,6e,6f a,73,6d 1,74,65,6c
    1,74,6d 19,66,61,78 15,31,2044,37 1,31,2044,39 1,31,2044,31,30 1,31,2044,33 1,32,2044,33
    1,31,2044,35 1,32,2044,35 1,33,2044,35 1,34,2044,35 1,31,2044,36 1,35,2044,36 1,31,2044,38
    1,33,2044,38 1,35,2044,38 1,37,2044,38 1,31,2044 2,69,69 1,69,69,69 1,69,76 2,76,69
    1,76,69,69 1,76,69,69,69 1,69,78 2,78,69 1,78,69,69 6,69,69 1,69,69,69 1,69,76 2,76,69
    1,76,69,69 1,76,69,69,69 1,69,78 2,78,69 1,78,69,69 e,30,2044,33 a3,222b,222b
    1,222b,222b,222b 2,222e,222e 1,222e,222e,222e 239,31,30 1,31,31 1,31,32 1,31,33 1,31,34
    1,31,35 1,31,36 1,31,37 1,31,38 1,31,39 1,32,30 1,28,31,29 1,28,32,29 1,28,33,29
    1,28,34,29 1,28,35,29 1,28,36,29 1,28,37,29 1,28,38,29 1,28,39,29 1,28,31,30,29
    1,28,31,31,29 1,28,31,32,29 1,28,31,33,29 1,28,31,34,29 1,28,31,35,29 1,28,31,36,29
    1,28,31,37,29 1,28,31,38,29 1,28,31,39,29 1,28,32,30,29 15,28,61,29 1,28,62,29 1,28,63,29
    1,28,64,29 1,28,65,29 1,28,66,29 1,28,67,29 1,28,68,29 1,28,69,29 1,28,6a,29 1,28,6b,29
    1,28,6c,29 1,28,6d,29 1,28,6e,29 1,28,6f,29 1,28,70,29 1,28,71,29 1,28,72,29 1,28,73,29
    1,28,74,29 1,28,75,29 1,28,76,29 1,28,77,29 1,28,78,29 1,28,79,29 1,28,7a,29
    557,222b,222b,222b,222b 68,3a,3a,3d 1,3d,3d 1,3d,3d,3d 625,20,3099 1,20,309a 3,3088,308a
    60,30b3,30c8 101,28,1100,29 1,28,1102,29 1,28,1103,29 1,28,1105,29 1,28,1106,29
    1,28,1107,29 1,28,1109,29 1,28,110b,29 1,28,110c,29 1,28,110e,29 1,28,110f,29 1,28,1110,29
    1,28,1111,29 1,28,1112,29 1,28,ac00,29 1,28,b098,29 1,28,b2e4,29 1,28,b77c,29 1,28,b9c8,29
    1,28,bc14,29 1,28,c0ac,29 1,28,c544,29 1,28,c790,29 1,28,cc28,29 1,28,ce74,29 1,28,d0c0,29
    1,28,d30c,29 1,28,d558,29 1,28,c8fc,29 1,28,c624,c804,29 1,28,c624,d6c4,29 2,28,4e00,29
    1,28,4e8c,29 1,28,4e09,29 1,28,56db,29 1,28,4e94,29 1,28,516d,29 1,28,4e03,29 1,28,516b,29
    1,28,4e5d,29 1,28,5341,29 1,28,6708,29 1,28,706b,29 1,28,6c34,29 1,28,6728,29 1,28,91d1,29
    1,28,571f,29 1,28,65e5,29 1,28,682a,29 1,28,6709,29 1,28,793e,29 1,28,540d,29 1,28,7279,29
    1,28,8ca1,29 1,28,795d,29 1,28,52b4,29 1,28,4ee3,29 1,28,547c,29 1,28,5b66,29 1,28,76e3,29
    1,28,4f01,29 1,28,8cc7,29 1,28,5354,29 1,28,796d,29 1,28,4f11,29 1,28,81ea,29 1,28,81f3,29
    d,70,74,65 1,32,31 1,32,32 1,32,33 1,32,34 1,32,35 1,32,36 1,32,37 1,32,38 1,32,39 1,33,30
    1,33,31 1,33,32 1,33,33 1,33,34 1,33,35 1d,cc38,ace0 1,c8fc,c758 34,33,36 1,33,37 1,33,38
    1,33,39 1,34,30 1,34,31 1,34,32 1,34,33 1,34,34 1,34,35 1,34,36 1,34,37 1,34,38 1,34,39
    1,35,30 1,31,6708 1,32,6708 1,33,6708 1,34,6708 1,35,6708 1,36,6708 1,37,6708 1,38,6708
    1,39,6708 1,31,30,6708 1,31,31,6708 1,31,32,6708 1,68,67 1,65,72,67 1,65,76 1,6c,74,64
    30,4ee4,548c 1,30a2,30d1,30fc,30c8 1,30a2,30eb,30d5,30a1 1,30a2,30f3,30da,30a2
    1,30a2,30fc,30eb 1,30a4,30cb,30f3,30b0 1,30a4,30f3,30c1 1,30a6,30a9,30f3
    1,30a8,30b9,30af,30fc,30c9 1,30a8,30fc,30ab,30fc 1,30aa,30f3,30b9 1,30aa,30fc,30e0
    1,30ab,30a4,30ea 1,30ab,30e9,30c3,30c8 1,30ab,30ed,30ea,30fc 1,30ac,30ed,30f3
    1,30ac,30f3,30de 1,30ae,30ac 1,30ae,30cb,30fc 1,30ad,30e5,30ea,30fc 1,30ae,30eb,30c0,30fc
    1,30ad,30ed 1,30ad,30ed,30b0,30e9,30e0 1,30ad,30ed,30e1,30fc,30c8,30eb
    1,30ad,30ed,30ef,30c3,30c8 1,30b0,30e9,30e0 1,30b0,30e9,30e0,30c8,30f3
    1,30af,30eb,30bc,30a4,30ed 1,30af,30ed,30fc,30cd 1,30b1,30fc,30b9 1,30b3,30eb,30ca
    1,30b3,30fc,30dd 1,30b5,30a4,30af,30eb 1,30b5,30f3,30c1,30fc,30e0 1,30b7,30ea,30f3,30b0
    1,30bb,30f3,30c1 1,30bb,30f3,30c8 1,30c0,30fc,30b9 1,30c7,30b7 1,30c9,30eb 1,30c8,30f3
    1,30ca,30ce 1,30ce,30c3,30c8 1,30cf,30a4,30c4 1,30d1,30fc,30bb,30f3,30c8 1,30d1,30fc,30c4
    1,30d0,30fc,30ec,30eb 1,30d4,30a2,30b9,30c8,30eb 1,30d4,30af,30eb 1,30d4,30b3 1,30d3,30eb
    1,30d5,30a1,30e9,30c3,30c9 1,30d5,30a3,30fc,30c8 1,30d6,30c3,30b7,30a7,30eb
    1,30d5,30e9,30f3 1,30d8,30af,30bf,30fc,30eb 1,30da,30bd 1,30da,30cb,30d2 1,30d8,30eb,30c4
    1,30da,30f3,30b9 1,30da,30fc,30b8 1,30d9,30fc,30bf 1,30dd,30a4,30f3,30c8 1,30dc,30eb,30c8
    1,30db,30f3 1,30dd,30f3,30c9 1,30db,30fc,30eb 1,30db,30fc,30f3 1,30de,30a4,30af,30ed
    1,30de,30a4,30eb 1,30de,30c3,30cf 1,30de,30eb,30af 1,30de,30f3,30b7,30e7,30f3
    1,30df,30af,30ed,30f3 1,30df,30ea 1,30df,30ea,30d0,30fc,30eb 1,30e1,30ac
    1,30e1,30ac,30c8,30f3 1,30e1,30fc,30c8,30eb 1,30e4,30fc,30c9 1,30e4,30fc,30eb
    1,30e6,30a2,30f3 1,30ea,30c3,30c8,30eb 1,30ea,30e9 1,30eb,30d4,30fc 1,30eb,30fc,30d6,30eb
    1,30ec,30e0 1,30ec,30f3,30c8,30b2,30f3 1,30ef,30c3,30c8 1,30,70b9 1,31,70b9 1,32,70b9
    1,33,70b9 1,34,70b9 1,35,70b9 1,36,70b9 1,37,70b9 1,38,70b9 1,39,70b9 1,31,30,70b9
    1,31,31,70b9 1,31,32,70b9 1,31,33,70b9 1,31,34,70b9 1,31,35,70b9 1,31,36,70b9 1,31,37,70b9
    1,31,38,70b9 1,31,39,70b9 1,32,30,70b9 1,32,31,70b9 1,32,32,70b9 1,32,33,70b9 1,32,34,70b9
    1,68,70,61 1,64,61 1,61,75 1,62,61,72 1,6f,76 1,70,63 1,64,6d 1,64,6d,32 1,64,6d,33
    1,69,75 1,5e73,6210 1,662d,548c 1,5927,6b63 1,660e,6cbb 1,682a,5f0f,4f1a,793e 1,70,61
    1,6e,61 1,3bc,61 1,6d,61 1,6b,61 1,6b,62 1,6d,62 1,67,62 1,63,61,6c 1,6b,63,61,6c 1,70,66
    1,6e,66 1,3bc,66 1,3bc,67 1,6d,67 1,6b,67 1,68,7a 1,6b,68,7a 1,6d,68,7a 1,67,68,7a
    1,74,68,7a 1,3bc,6c 1,6d,6c 1,64,6c 1,6b,6c 1,66,6d 1,6e,6d 1,3bc,6d 1,6d,6d 1,63,6d
    1,6b,6d 1,6d,6d,32 1,63,6d,32 1,6d,32 1,6b,6d,32 1,6d,6d,33 1,63,6d,33 1,6d,33 1,6b,6d,33
    1,6d,2215,73 1,6d,2215,73,32 1,70,61 1,6b,70,61 1,6d,70,61 1,67,70,61 1,72,61,64
    1,72,61,64,2215,73 1,72,61,64,2215,73,32 1,70,73 1,6e,73 1,3bc,73 1,6d,73 1,70,76 1,6e,76
    1,3bc,76 1,6d,76 1,6b,76 1,6d,76 1,70,77 1,6e,77 1,3bc,77 1,6d,77 1,6b,77 1,6d,77 1,6b,3c9
    1,6d,3c9 2,62,71 1,63,63 1,63,64 1,63,2215,6b,67 2,64,62 1,67,79 1,68,61 1,68,70 1,69,6e
    1,6b,6b 1,6b,6d 1,6b,74 1,6c,6d 1,6c,6e 1,6c,6f,67 1,6c,78 1,6d,62 1,6d,69,6c 1,6d,6f,6c
    1,70,68 2,70,70,6d 1,70,72 1,73,72 1,73,76 1,77,62 1,76,2215,6d 1,61,2215,6d 1,31,65e5
    1,32,65e5 1,33,65e5 1,34,65e5 1,35,65e5 1,36,65e5 1,37,65e5 1,38,65e5 1,39,65e5
    1,31,30,65e5 1,31,31,65e5 1,31,32,65e5 1,31,33,65e5 1,31,34,65e5 1,31,35,65e5 1,31,36,65e5
    1,31,37,65e5 1,31,38,65e5 1,31,39,65e5 1,32,30,65e5 1,32,31,65e5 1,32,32,65e5 1,32,33,65e5
    1,32,34,65e5 1,32,35,65e5 1,32,36,65e5 1,32,37,65e5 1,32,38,65e5 1,32,39,65e5 1,33,30,65e5
    1,33,31,65e5 1,67,61,6c c701,66,66 1,66,69 1,66,6c 1,66,66,69 1,66,66,6c 1,73,74 1,73,74
    d,574,576 1,574,565 1,574,56b 1,57e,576 1,574,56d 38,5d0,5dc 8e,6c7,674 d,626,627
    1,626,627 1,626,6d5 1,626,6d5 1,626,648 1,626,648 1,626,6c7 1,626,6c7 1,626,6c6 1,626,6c6
    1,626,6c8 1,626,6c8 1,626,6d0 1,626,6d0 1,626,6d0 1,626,649 1,626,649 1,626,649 5,626,62c
    1,626,62d 1,626,645 1,626,649 1,626,64a 1,628,62c 1,628,62d 1,628,62e 1,628,645 1,628,649
    1,628,64a 1,62a,62c 1,62a,62d 1,62a,62e 1,62a,645 1,62a,649 1,62a,64a 1,62b,62c 1,62b,645
    1,62b,649 1,62b,64a 1,62c,62d 1,62c,645 1,62d,62c 1,62d,645 1,62e,62c 1,62e,62d 1,62e,645
    1,633,62c 1,633,62d 1,633,62e 1,633,645 1,635,62d 1,635,645 1,636,62c 1,636,62d 1,636,62e
    1,636,645 1,637,62d 1,637,645 1,638,645 1,639,62c 1,639,645 1,63a,62c 1,63a,645 1,641,62c
    1,641,62d 1,641,62e 1,641,645 1,641,649 1,641,64a 1,642,62d 1,642,645 1,642,649 1,642,64a
    1,643,627 1,643,62c 1,643,62d 1,643,62e 1,643,644 1,643,645 1,643,649 1,643,64a 1,644,62c
    1,644,62d 1,644,62e 1,644,645 1,644,649 1,644,64a 1,645,62c 1,645,62d 1,645,62e 1,645,645
    1,645,649 1,645,64a 1,646,62c 1,646,62d 1,646,62e 1,646,645 1,646,649 1,646,64a 1,647,62c
    1,647,645 1,647,649 1,647,64a 1,64a,62c 1,64a,62d 1,64a,62e 1,64a,645 1,64a,649 1,64a,64a
    1,630,670 1,631,670 1,649,670 1,20,64c,651 1,20,64d,651 1,20,64e,651 1,20,64f,651
    1,20,650,651 1,20,651,670 1,626,631 1,626,632 1,626,645 1,626,646 1,626,649 1,626,64a
    1,628,631 1,628,632 1,628,645 1,628,646 1,628,649 1,628,64a 1,62a,631 1,62a,632 1,62a,645
    1,62a,646 1,62a,649 1,62a,64a 1,62b,631 1,62b,632 1,62b,645 1,62b,646 1,62b,649 1,62b,64a
    1,641,649 1,641,64a 1,642,649 1,642,64a 1,643,627 1,643,644 1,643,645 1,643,649 1,643,64a
    1,644,645 1,644,649 1,644,64a 1,645,627 1,645,645 1,646,631 1,646,632 1,646,645 1,646,646
    1,646,649 1,646,64a 1,649,670 1,64a,631 1,64a,632 1,64a,645 1,64a,646 1,64a,649 1,64a,64a
    1,626,62c 1,626,62d 1,626,62e 1,626,645 1,626,647 1,628,62c 1,628,62d 1,628,62e 1,628,645
    1,628,647 1,62a,62c 1,62a,62d 1,62a,62e 1,62a,645 1,62a,647 1,62b,645 1,62c,62d 1,62c,645
    1,62d,62c 1,62d,645 1,62e,62c 1,62e,645 1,633,62c 1,633,62d 1,633,62e 1,633,645 1,635,62d
    1,635,62e 1,635,645 1,636,62c 1,636,62d 1,636,62e 1,636,645 1,637,62d 1,638,645 1,639,62c
    1,639,645 1,63a,62c 1,63a,645 1,641,62c 1,641,62d 1,641,62e 1,641,645 1,642,62d 1,642,645
    1,643,62c 1,643,62d 1,643,62e 1,643,644 1,643,645 1,644,62c 1,644,62d 1,644,62e 1,644,645
    1,644,647 1,645,62c 1,645,62d 1,645,62e 1,645,645 1,646,62c 1,646,62d 1,646,62e 1,646,645
    1,646,647 1,647,62c 1,647,645 1,647,670 1,64a,62c 1,64a,62d 1,64a,62e 1,64a,645 1,64a,647
    1,626,645 1,626,647 1,628,645 1,628,647 1,62a,645 1,62a,647 1,62b,645 1,62b,647 1,633,645
    1,633,647 1,634,645 1,634,647 1,643,644 1,643,645 1,644,645 1,646,645 1,646,647 1,64a,645
    1,64a,647 1,640,64e,651 1,640,64f,651 1,640,650,651 1,637,649 1,637,64a 1,639,649
    1,639,64a 1,63a,649 1,63a,64a 1,633,649 1,633,64a 1,634,649 1,634,64a 1,62d,649 1,62d,64a
    1,62c,649 1,62c,64a 1,62e,649 1,62e,64a 1,635,649 1,635,64a 1,636,649 1,636,64a 1,634,62c
    1,634,62d 1,634,62e 1,634,645 1,634,631 1,633,631 1,635,631 1,636,631 1,637,649 1,637,64a
    1,639,649 1,639,64a 1,63a,649 1,63a,64a 1,633,649 1,633,64a 1,634,649 1,634,64a 1,62d,649
    1,62d,64a 1,62c,649 1,62c,64a 1,62e,649 1,62e,64a 1,635,649 1,635,64a 1,636,649 1,636,64a
    1,634,62c 1,634,62d 1,634,62e 1,634,645 1,634,631 1,633,631 1,635,631 1,636,631 1,634,62c
    1,634,62d 1,634,62e 1,634,645 1,633,647 1,634,647 1,637,645 1,633,62c 1,633,62d 1,633,62e
    1,634,62c 1,634,62d 1,634,62e 1,637,645 1,638,645 1,627,64b 1,627,64b 13,62a,62c,645
    1,62a,62d,62c 1,62a,62d,62c 1,62a,62d,645 1,62a,62e,645 1,62a,645,62c 1,62a,645,62d
    1,62a,645,62e 1,62c,645,62d 1,62c,645,62d 1,62d,645,64a 1,62d,645,649 1,633,62d,62c
    1,633,62c,62d 1,633,62c,649 1,633,645,62d 1,633,645,62d 1,633,645,62c 1,633,645,645
    1,633,645,645 1,635,62d,62d 1,635,62d,62d 1,635,645,645 1,634,62d,645 1,634,62d,645
    1,634,62c,64a 1,634,645,62e 1,634,645,62e 1,634,645,645 1,634,645,645 1,636,62d,649
    1,636,62e,645 1,636,62e,645 1,637,645,62d 1,637,645,62d 1,637,645,645 1,637,645,64a
    1,639,62c,645 1,639,645,645 1,639,645,645 1,639,645,649 1,63a,645,645 1,63a,645,64a
    1,63a,645,649 1,641,62e,645 1,641,62e,645 1,642,645,62d 1,642,645,645 1,644,62d,645
    1,644,62d,64a 1,644,62d,649 1,644,62c,62c 1,644,62c,62c 1,644,62e,645 1,644,62e,645
    1,644,645,62d 1,644,645,62d 1,645,62d,62c 1,645,62d,645 1,645,62d,64a 1,645,62c,62d
    1,645,62c,645 1,645,62e,62c 1,645,62e,645 3,645,62c,62e 1,647,645,62c 1,647,645,645
    1,646,62d,645 1,646,62d,649 1,646,62c,645 1,646,62c,645 1,646,62c,649 1,646,645,64a
    1,646,645,649 1,64a,645,645 1,64a,645,645 1,628,62e,64a 1,62a,62c,64a 1,62a,62c,649
    1,62a,62e,64a 1,62a,62e,649 1,62a,645,64a 1,62a,645,649 1,62c,645,64a 1,62c,62d,649
    1,62c,645,649 1,633,62e,649 1,635,62d,64a 1,634,62d,64a 1,636,62d,64a 1,644,62c,64a
    1,644,645,64a 1,64a,62d,64a 1,64a,62c,64a 1,64a,645,64a 1,645,645,64a 1,642,645,64a
    1,646,62d,64a 1,642,645,62d 1,644,62d,645 1,639,645,64a 1,643,645,64a 1,646,62c,62d
    1,645,62e,64a 1,644,62c,645 1,643,645,645 1,644,62c,645 1,646,62c,62d 1,62c,62d,64a
    1,62d,62c,64a 1,645,62c,64a 1,641,645,64a 1,628,62d,64a 1,643,645,645 1,639,62c,645
    1,635,645,645 1,633,62e,64a 1,646,62c,64a 29,635,644,6d2 1,642,644,6d2 1,627,644,644,647
    1,627,643,628,631 1,645,62d,645,62f 1,635,644,639,645 1,631,633,648,644 1,639,644,64a,647
    1,648,633,644,645 1,635,644,649
    1,635,644,649,20,627,644,644,647,20,639,644,64a,647,20,648,633,644,645
    1,62c,644,20,62c,644,627,644,647 1,631,6cc,627,644 4d,20,305 1,20,305 1,20,305 1,20,305
    24,20,64b 1,640,64b 1,20,64c 2,20,64d 2,20,64e 1,640,64e 1,20,64f 1,640,64f 1,20,650
    1,640,650 1,20,651 1,640,651 1,20,652 1,640,652 76,644,622 1,644,622 1,644,623 1,644,623
    1,644,625 1,644,625 1,644,627 1,644,627 e7,20,304 f11e,30,2c 1,31,2c 1,32,2c 1,33,2c
    1,34,2c 1,35,2c 1,36,2c 1,37,2c 1,38,2c 1,39,2c 6,28,61,29 1,28,62,29 1,28,63,29
    1,28,64,29 1,28,65,29 1,28,66,29 1,28,67,29 1,28,68,29 1,28,69,29 1,28,6a,29 1,28,6b,29
    1,28,6c,29 1,28,6d,29 1,28,6e,29 1,28,6f,29 1,28,70,29 1,28,71,29 1,28,72,29 1,28,73,29
    1,28,74,29 1,28,75,29 1,28,76,29 1,28,77,29 1,28,78,29 1,28,79,29 1,28,7a,29
    1,3014,73,3015 3,63,64 1,77,7a 1c,68,76 1,6d,76 1,73,64 1,73,73 1,70,70,76 1,77,63
    1b,6d,63 1,6d,64 1,6d,72 24,64,6a 70,307b,304b 1,30b3,30b3 3f,3014,672c,3015
    1,3014,4e09,3015 1,3014,4e8c,3015 1,3014,5b89,3015 1,3014,70b9,3015 1,3014,6253,3015
    1,3014,76d7,3015 1,3014,52dd,3015 1,3014,6557,3015"

/-- Characters that are folded to single ones.  A record has the code point of the
image of its first character, the number of its characters, the distance between
them and the distance between their images; numbers left out are one. -/
def images : Text.CodeTable := .ofText
  "41,61,1a 5f,20 a,61 8,32,2 3,3bc 4,31 1,6f c,e6 a,f0 8,f8 6,fe 32,111 16,127 1b,142 9,14b
    8,153 14,167 19,73 2,253 1,183,2,2,2 4,254 1,188 2,256,2 2,18c 3,1dd 1,259 1,25b 1,192
    2,260 1,263 2,269 1,268 1,199 4,26f 1,272 2,275 3,1a3,2,2,2 4,280 1,1a8 2,283 3,1ad 2,288
    3,28a,2 2,1b4,2,2,2 4,292 1,1b9 4,1bd 28,1e5 12,195 1,1bf 25,21d 4,19e 2,223,2,2,2 18,2c65
    1,23c 2,19a 1,2c66 3,242 2,180 1,289 1,28c 1,247,5,2,2 6a,68 1,266 1,6a 1,72 1,279 1,27b
    1,281 1,77 1,79 28,263 1,6c 1,73 1,78 1,295 61,3b9 2b,371,2,2,2 6,377 9,3f3 12,3b1,11
    12,3c3,7 2c,3d7 1,3b2 1,3b8 1,3c5 3,3c6 1,3c0 2,3d9,c,2,2 18,3ba 1,3c1 1,3c3 2,3b8 1,3b5
    2,3f8 2,3c3 1,3fb 3,37b,3 5,452,2,2,2 3,455,2 3,458,4 7,45f 1,430,9 a,43a,16 46,461,b,2,2
    18,479,5,2,2 12,48b,1b,2,2 36,4cf 3,4c4,6,2,2 11,4d5 4,4d9 8,4e1 8,4e9 e,4f7 4,4fb,1b,2,2
    37,561,26 9db,f0b 194,2d00,26 27,2d27 6,2d2d 2f,10dc 2fc,13f0,6 888,432 1,434 1,43e
    1,441,2 2,442 1,44a 1,463 1,a64b 1,1c8a 7,10d0,2b 2d,10fd,3 6f,61 1,e6 1,62,2,2,2 3,65
    1,1dd 1,67,8 9,6f 1,223 1,70 1,72 1,74,2 2,77 1,61 1,250,2 2,1d02 1,62 1,64,2 2,259
    1,25b,2 2,67 2,6b 1,6d 1,14b 1,6f 1,254 1,1d16,2 2,70 1,74,2 2,1d1d 1,26f 1,76 1,1d25
    1,3b2,3 3,3c6,2 2,69 1,72 1,75,2 2,3b2,2 2,3c1 1,3c6,2 f,43d 23,252 1,63 1,255 1,f0 1,25c
    1,66 1,25f 1,261 1,265 1,268,3 3,1d7b 1,29d 1,26d 1,1d85 1,29f 1,271 1,270 1,272,4 4,278
    1,282,2 2,1ab 1,289,2 2,1d1c 1,28b,2 2,7a 1,290,3 3,3b8 df,df 5c,1efb,3,2,2 108,20,9,1,0
    f,2010 1e,20 30,20 11,30 1,69 3,34,6 6,2b 1,2212 1,3d 1,28,2 2,6e 1,30,a a,2b 1,2212 1,3d
    1,28,2 3,61 1,65 1,6f 1,78 1,259 1,68 1,6b,4 4,70 1,73,2 67,63 5,25b 3,67,2 2,68,3,1,0
    3,127 1,69,2,1,0 2,6c,2,1,0 3,6e 4,70,3 3,72,2,1,0 8,7a 4,7a 4,62,2 3,65,2,1,0 2,66 1,214e
    1,6d 1,6f 1,5d0,4 4,69 3,3c0 1,3b3,2,1,0 2,3c0 1,2211 5,64,2,1,0 2,65 1,69,2 18,69 4,76
    5,78 3,6c 1,63,2 2,6d 1,69 4,76 5,78 3,6c 1,63,2 2,6d 4,2184 2dd,31,9 56,61,1a 1a,61,1a
    1a,30 716,2c30,30 60,2c61 2,26b 1,1d7d 1,27d 3,2c68,3,2,2 6,251 1,271 1,250 1,252 2,2c73
    3,2c76 7,6a 1,76 1,23f,2 2,2c81,32,2,2 6b,2cec,2,2,2 7,2cf3 7d,2d61 130,6bcd 54,9f9f
    d,4e00 1,4e28 1,4e36 1,4e3f 1,4e59 1,4e85 1,4e8c 1,4ea0 1,4eba 1,513f 1,5165 1,516b 1,5182
    1,5196 1,51ab 1,51e0 1,51f5 1,5200 1,529b 1,52f9 1,5315 1,531a 1,5338 1,5341 1,535c 1,5369
    1,5382 1,53b6 1,53c8 1,53e3 1,56d7 1,571f 1,58eb 1,5902 1,590a 1,5915 1,5927 1,5973 1,5b50
    1,5b80 1,5bf8 1,5c0f 1,5c22 1,5c38 1,5c6e 1,5c71 1,5ddb 1,5de5 1,5df1 1,5dfe 1,5e72 1,5e7a
    1,5e7f 1,5ef4 1,5efe 1,5f0b 1,5f13 1,5f50 1,5f61 1,5f73 1,5fc3 1,6208 1,6236 1,624b 1,652f
    1,6534 1,6587 1,6597 1,65a4 1,65b9 1,65e0 1,65e5 1,66f0 1,6708 1,6728 1,6b20 1,6b62 1,6b79
    1,6bb3 1,6bcb 1,6bd4 1,6bdb 1,6c0f 1,6c14 1,6c34 1,706b 1,722a 1,7236 1,723b 1,723f 1,7247
    1,7259 1,725b 1,72ac 1,7384 1,7389 1,74dc 1,74e6 1,7518 1,751f 1,7528 1,7530 1,758b 1,7592
    1,7676 1,767d 1,76ae 1,76bf 1,76ee 1,77db 1,77e2 1,77f3 1,793a 1,79b8 1,79be 1,7a74 1,7acb
    1,7af9 1,7c73 1,7cf8 1,7f36 1,7f51 1,7f8a 1,7fbd 1,8001 1,800c 1,8012 1,8033 1,807f 1,8089
    1,81e3 1,81ea 1,81f3 1,81fc 1,820c 1,821b 1,821f 1,826e 1,8272 1,8278 1,864d 1,866b 1,8840
    1,884c 1,8863 1,897e 1,898b 1,89d2 1,8a00 1,8c37 1,8c46 1,8c55 1,8c78 1,8c9d 1,8d64 1,8d70
    1,8db3 1,8eab 1,8eca 1,8f9b 1,8fb0 1,8fb5 1,9091 1,9149 1,91c6 1,91cc 1,91d1 1,9577 1,9580
    1,961c 1,96b6 1,96b9 1,96e8 1,9751 1,975e 1,9762 1,9769 1,97cb 1,97ed 1,97f3 1,9801 1,98a8
    1,98db 1,98df 1,9996 1,9999 1,99ac 1,9aa8 1,9ad8 1,9adf 1,9b25 1,9b2f 1,9b32 1,9b3c 1,9b5a
    1,9ce5 1,9e75 1,9e7f 1,9ea5 1,9ebb 1,9ec3 1,9ecd 1,9ed1 1,9ef9 1,9efd 1,9f0e 1,9f13 1,9f20
    1,9f3b 1,9f4a 1,9f52 1,9f8d 1,9f9c 1,9fa0 2b,20 2,2e 34,3012 2,5341 1,5344,2 f8,1100,2
    2,11aa 1,1102 1,11ac,2 2,1103,3 3,11b0,6 6,111a 1,1106,3 3,1121 1,1109,a a,1161,15
    16,1114,2 2,11c7,2 2,11cc 1,11ce 1,11d3 1,11d7 1,11d9 1,111c 1,11dd 1,11df 1,111d,2 2,1120
    1,1122,2 2,1127 1,1129 1,112b,5 5,1132 1,1136 1,1140 1,1147 1,114c 1,11f1,2 2,1157,3
    3,1184,2 2,1188 1,1191,2 2,1194 1,119e 1,11a1 4,4e00 1,4e8c 1,4e09 1,56db 1,4e0a 1,4e2d
    1,4e0b 1,7532 1,4e59 1,4e19 1,4e01 1,5929 1,5730 1,4eba a5,554f 1,5e7c 1,6587 1,7b8f
    19,1100 1,1102,2 2,1105,3 3,1109 1,110b,2 2,110e,5 5,ac00 1,b098 1,b2e4 1,b77c 1,b9c8
    1,bc14 1,c0ac 1,c544 1,c790 1,cc28 1,ce74 1,d0c0 1,d30c 1,d558 3,c6b0 2,4e00 1,4e8c 1,4e09
    1,56db 1,4e94 1,516d 1,4e03 1,516b 1,4e5d 1,5341 1,6708 1,706b 1,6c34 1,6728 1,91d1 1,571f
    1,65e5 1,682a 1,6709 1,793e 1,540d 1,7279 1,8ca1 1,795d 1,52b4 1,79d8 1,7537 1,5973 1,9069
    1,512a 1,5370 1,6ce8 1,9805 1,4f11 1,5199 1,6b63 1,4e0a 1,4e2d 1,4e0b 1,5de6 1,53f3 1,533b
    1,5b97 1,5b66 1,76e3 1,4f01 1,8cc7 1,5354 1,591c 20,30a2 1,30a4 1,30a6 1,30a8 1,30aa,2
    2,30ad 1,30af 1,30b1 1,30b3 1,30b5 1,30b7 1,30b9 1,30bb 1,30bd 1,30bf 1,30c1 1,30c4 1,30c6
    1,30c8 1,30ca,6 6,30d2 1,30d5 1,30d8 1,30db 1,30de,5 5,30e4 1,30e6 1,30e8,6 6,30ef,4
    7345,a641,17,2,2 40,a681,e,2,2 1c,44a 1,44c 85,a723,7,2,2 10,a733,1f,2,2 3e,a76f
    9,a77a,2,2,2 4,1d79 1,a77f,5,2,2 d,a78c 2,265 3,a791,2,2,2 6,a797,a,2,2 14,266 1,25c 1,261
    1,26c 1,26a 2,29e 1,287 1,29d 1,ab53 1,a7b5,8,2,2 10,a794 1,282 1,1d8e 1,a7c8,2,2,2 4,264
    1,a7cd,8,2,2 10,19b 15,73 1,63 1,66 1,71 1,a7f6 3,127 1,153 363,a727 1,ab37 1,26b 1,ab52
    a,28d 7,13a0,50 4fb0,5e2 1,5d0 1,5d3,2 2,5db,3 3,5e8 1,5ea 1,2b 27,671,2,1,0 2,67b,4,1,0
    4,67e,4,1,0 4,680,4,1,0 4,67a,4,1,0 4,67f,4,1,0 4,679,4,1,0 4,6a4,4,1,0 4,6a6,4,1,0
    4,684,4,1,0 4,683,4,1,0 4,686,4,1,0 4,687,4,1,0 4,68d,2,1,0 2,68c,2,1,0 2,68e,2,1,0
    2,688,2,1,0 2,698,2,1,0 2,691,2,1,0 2,6a9,4,1,0 4,6af,4,1,0 4,6b3,4,1,0 4,6b1,4,1,0
    4,6ba,2,1,0 2,6bb,4,1,0 4,6c0,2,1,0 2,6c1,4,1,0 4,6be,4,1,0 4,6d2,2,1,0 2,6d3,2,1,0
    23,6ad,4,1,0 4,6c7,2,1,0 2,6c6,2,1,0 2,6c8,2,1,0 3,6cb,2,1,0 2,6c5,2,1,0 2,6c9,2,1,0
    2,6d0,4,1,0 4,649,2,1,0 14,6cc,4,1,0 214,2c 1,3001 2,3a,2 2,21 1,3f 1,3016,2 1a,2014
    1,2013 1,5f,2,1,0 2,28,2 2,7b 1,7d 1,3014,2 2,3010,2 2,300a,2 2,3008,2 2,300c,4 6,5b 1,5d
    5,5f,3,1,0 3,2c 1,3001 3,3b 1,3a 1,3f 1,21 1,2014 1,28,2 2,7b 1,7d 1,3014,2 2,23 1,26
    1,2a,2 2,2d 1,3c 1,3e 1,3d 2,5c 1,24,2 2,40 15,621,2 2,622,2 2,623,2 2,624,2 2,625,2
    2,626,3,1,0 3,627,2,1,0 2,628,4,1,0 4,629,2,1,0 2,62a,4,1,0 4,62b,4,1,0 4,62c,4,1,0
    4,62d,4,1,0 4,62e,4,1,0 4,62f,2,1,0 2,630,2,1,0 2,631,2,1,0 2,632,2,1,0 2,633,4,1,0
    4,634,4,1,0 4,635,4,1,0 4,636,4,1,0 4,637,4,1,0 4,638,4,1,0 4,639,4,1,0 4,63a,4,1,0
    4,641,4,1,0 4,642,4,1,0 4,643,4,1,0 4,644,4,1,0 4,645,4,1,0 4,646,4,1,0 4,647,4,1,0
    4,648,2,1,0 2,649,2,1,0 2,64a,4,1,0 10,21,20 20,61,1a 1a,5b,24 24,2985,2 2,2e 1,300c,2
    2,3001 1,30fb 1,30f2 1,30a1 1,30a3 1,30a5 1,30a7 1,30a9 1,30e3 1,30e5 1,30e7 1,30c3 1,30fc
    1,30a2 1,30a4 1,30a6 1,30a8 1,30aa,2 2,30ad 1,30af 1,30b1 1,30b3 1,30b5 1,30b7 1,30b9
    1,30bb 1,30bd 1,30bf 1,30c1 1,30c4 1,30c6 1,30c8 1,30ca,6 6,30d2 1,30d5 1,30d8 1,30db
    1,30de,5 5,30e4 1,30e6 1,30e8,6 6,30ef 1,30f3 1,3099,2 3,1100,2 2,11aa 1,1102 1,11ac,2
    2,1103,3 3,11b0,6 6,111a 1,1106,3 3,1121 1,1109,a d,1161,6 8,1167,6 8,116d,6 8,1173,3
    6,a2,2 2,ac 2,a6 1,a5 1,20a9 2,2502 1,2190,4 4,25a0 1,25cb 412,10428,28 b0,104d8,24
    c0,10597,b c,105a3,f 10,105b3,7 8,105bb,2 1ed,2d0,2 2,e6 1,299 1,253 2,2a3 1,ab66 1,2a5
    1,2a4 1,256,2 2,1d91 1,258 1,25e 1,2a9 1,264 1,262 1,260 1,29b 1,127 1,29c 1,267 1,284
    1,2aa,2 2,26c 1,1df04 1,a78e 1,26e 1,1df05 1,28e 1,1df06 1,f8 1,276,2 2,71 1,27a 1,1df08
    1,27d,2 2,280 1,2a8 1,2a6 1,ab67 1,2a7 1,288 1,2c71 2,28f 1,2a1,2 2,298 1,1c0,3 3,1df0a
    1,1df1e 4c6,10cc0,33 d0,10d70,16 b50,118c0,20 55a0,16e60,20 60,16ebb,19 5e36,61,1a 1a,30,a
    710,61,1a 1a,61,1a 1a,61,1a 1a,61,7 8,69,12 12,61,1a 1a,61,1a 1a,61,2,2,2 3,64 3,67 3,6a,2
    4,6e,4 5,73,8 8,61,4 5,66,2,2,2 3,69,6 7,70,b b,61,1a 1a,61,1a 1a,61,2 3,64,4 6,6a,8
    9,73,7 8,61,1a 1a,61,2 3,64,4 5,69,5 6,6f 4,73,7 8,61,1a 1a,61,1a 1a,61,1a 1a,61,1a
    1a,61,1a 1a,61,1a 1a,61,1a 1a,61,1a 1a,61,1a 1a,61,1a 1a,61,1a 1a,61,1a 1a,61,1a 1a,131
    1,237 3,3b1,11 11,3b8 1,3c3,7 7,2207 1,3b1,11 11,3c3,2,1,0 2,3c4,6 6,2202 1,3b5 1,3b8
    1,3ba 1,3c6 1,3c1 1,3c0 1,3b1,11 11,3b8 1,3c3,7 7,2207 1,3b1,11 11,3c3,2,1,0 2,3c4,6
    6,2202 1,3b5 1,3b8 1,3ba 1,3c6 1,3c1 1,3c0 1,3b1,11 11,3b8 1,3c3,7 7,2207 1,3b1,11
    11,3c3,2,1,0 2,3c4,6 6,2202 1,3b5 1,3b8 1,3ba 1,3c6 1,3c1 1,3c0 1,3b1,11 11,3b8 1,3c3,7
    7,2207 1,3b1,11 11,3c3,2,1,0 2,3c4,6 6,2202 1,3b5 1,3b8 1,3ba 1,3c6 1,3c1 1,3c0 1,3b1,11
    11,3b8 1,3c3,7 7,2207 1,3b1,11 11,3c3,2,1,0 2,3c4,6 6,2202 1,3b5 1,3b8 1,3ba 1,3c6 1,3c1
    1,3c0 1,3dd,2,1,0 4,30,a a,30,a a,30,a a,30,a a,30,a 83a,430,9 9,43a,3 3,43e,b b,44b
    1,44d,2 2,a689 1,4d9 1,456 1,458 1,4e9 1,4af 1,4cf 1,430,9 9,43a,2 2,43e,2 2,441 1,443,6
    6,44a,2 2,491 1,456 1,455 1,45f 1,4ab 1,a651 1,4b1 893,1e922,22 500,627,2 2,62c 1,62f
    2,648 1,632 1,62d 1,637 1,64a 1,643,4 4,633 1,639 1,641 1,635 1,642 1,631 1,634 1,62a,2
    2,62e 1,630 1,636 1,638 1,63a 1,66e 1,6ba 1,6a1 1,66f 2,628 1,62c 2,647 3,62d 2,64a
    1,643,4 4,633 1,639 1,641 1,635 1,642 2,634 1,62a,2 2,62e 2,636 2,63a 7,62c 5,62d 2,64a
    2,644,2,2,2 3,633 1,639 2,635 1,642 2,634 3,62e 2,636 2,63a 2,6ba 2,66f 2,628 1,62c 2,647
    3,62d 1,637 1,64a 1,643,2,2,2 3,646 1,633 1,639 1,641 1,635 1,642 2,634 1,62a,2 2,62e
    2,636 1,638 1,63a 1,66e 2,6a1 2,627,2 2,62c 1,62f 1,647,2 2,632 1,62d 1,637 1,64a 2,644,3
    3,633 1,639 1,641 1,635 1,642 1,631 1,634 1,62a,2 2,62e 1,630 1,636 1,638 1,63a 6,628
    1,62c 1,62f 2,648 1,632 1,62d 1,637 1,64a 2,644,3 3,633 1,639 1,641 1,635 1,642 1,631
    1,634 1,62a,2 2,62e 1,630 1,636 1,638 1,63a 270,63 1,72 4,61,1a d2,30b5 e,624b 1,5b57
    1,53cc 1,30c7 1,4e8c 1,591a 1,89e3 1,5929 1,4ea4 1,6620 1,7121 1,6599 1,524d 1,5f8c 1,518d
    1,65b0 1,521d 1,7d42 1,751f 1,8ca9 1,58f0 1,5439 1,6f14 1,6295 1,6355 1,4e00 1,4e09 1,904a
    1,5de6 1,4e2d 1,53f3 1,6307 1,8d70 1,6253 1,7981 1,7a7a 1,5408 1,6e80 1,6709 1,6708 1,7533
    1,5272 1,55b6 1,914d 15,5f97 1,53ef 99f,30,a"

def imageIn (n start : Nat) (data : List Nat) : Nat :=
  let image := data.getD 0 n
  let count := data.getD 1 1
  let step := data.getD 2 1
  let shift := data.getD 3 1
  let index := (n - start) / step
  if (n - start) % step = 0 ∧ index < count then image + index * shift else n

def foldPart (c : Char) : List Char :=
  if ignored.contains c.toNat then []
  else
    match expansions.find? c.toNat with
    | some codes => codes.map Char.ofNat
    | none =>
        match images.floor? c.toNat with
        | some (start, data) => [Char.ofNat (imageIn c.toNat start data)]
        | none => [c]

/-- What a character is folded to, if it may occur: what its parts are folded to. -/
def fold? (c : Char) : Option (List Char) :=
  if disallowed.contains c.toNat then none
  else some ((Text.decompose c).flatMap foldPart)

end Idna
end HttpCall
