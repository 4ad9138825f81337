import DocumentFilter.Pattern.Unicode.CodeRanges

/-! The Unicode properties `Script` and `Script_Extensions`.

A code point has one script. Its extensions are the scripts that use it, for most code
points just that one; only scripts for which this differs have a table of their
own. -/
namespace DocumentFilter.Unicode

/-- A script: its names, its code points and, where others use them or it uses those
of others, the code points that it uses. -/
structure Script where
  names : List String
  own : List String
  used : Option (List String)

namespace Script

/-- All scripts. Names are in lower case and without separators. -/
def all : List Script :=
  [⟨["adlam", "adlm"], ["DwI0Cb4941"], some ["BQv0B00GQe0DPh0DOVuCb4941"]⟩,
    ⟨["ahom"], ["CFY0q2e4m"], none⟩,
    ⟨["anatolianhieroglyphs", "hluw"], ["CRA0S6"], none⟩,
    ⟨["arabic", "arab"],
      ["BQ04151d121v19bp1Db1B1CgBfHgB15Ca1sBySgPd2EfB0fDg41E6Dx3uC3588B15BXY031q1110201913101060",
       "401010121110201010101011102316131310191g52141gBk1"],
      some
        ["BQ041Gm1B1CgBfHgB15Ca1sFwf0DPh0BTIeTvB0fDg41E6:3rCx4uC3588B15BXY031q111020191310106040",
         "1010121110201010101011102316131310191g52141gBk1"]⟩,
    ⟨["armenian", "armn"], ["BJhB52Bh22BzM34"], some ["Y80R8B52Bh22BzM34"]⟩,
    ⟨["avestan", "avst"], ["CCY0Bl36"], some ["Fn0LLo1BXGeBl36"]⟩,
    ⟨["balinese", "bali"], ["GY0Cc1Bh"], none⟩,
    ⟨["bamum", "bamu"], ["BJV0CnBQI8Ro"], none⟩,
    ⟨["bassavah", "bass"], ["CwWgt25"], none⟩,
    ⟨["batak", "batk"], ["G_0Bj83"], none⟩,
    ⟨["bengali", "beng"],
      ["CM0317212l1610332821238041142o"],
      some ["Vs0BUk1h1q317212l1610332821238041142oEWh01021108080204022BC:p0"]⟩,
    ⟨["beriaerfe", "berf"], ["CxV0o2o"], none⟩,
    ⟨["bhaiksuki", "bhks"], ["CHA081Bc1das"], none⟩,
    ⟨["bopomofo", "bopo"], ["Xa1LQpBaDgv"], some ["W7012d0g1LIl2491ca32060G309BaDgvBTE51Iq4"]⟩,
    ⟨["brahmi", "brah"], ["CEA0Cd4B390"], none⟩,
    ⟨["braille", "brai"], ["KA0Hv"], none⟩,
    ⟨["buginese", "bugi"], ["GQ0r21"], some ["GQ0r21BDzf0"]⟩,
    ⟨["buhid", "buhd"], ["Fw0j"], some ["FZl19j"]⟩,
    ⟨["canadianaboriginal", "cans"], ["FA0TvRgC5CANqf"], none⟩,
    ⟨["carian", "cari"], ["CAV0Bg"], some ["Fn0Hz2020DOj0BVDeBg"]⟩,
    ⟨["caucasianalbanian", "aghb"], ["CBJgBjb0"], some ["Y40Bc0Bc0CAOhBjb0"]⟩,
    ⟨["chakma", "cakm"], ["CEI0Bk1h"], some ["CP69BSg9CAFmBk1h"]⟩,
    ⟨["cham"], ["BKQ0Bm9d2923"], none⟩,
    ⟨["cherokee", "cher"], ["Ez0Cl25BFxiCf"], some ["Y021061m1b1EDeCl25BFxiCf"]⟩,
    ⟨["chorasmian", "chrs"], ["CDzgr"], none⟩,
    ⟨["common", "zyyy"],
      ["0C0q5qBe1e14n0v0O1B6542jDk0906010Tt060e030B00Es0Q40E11BGp0Ml3J20BPf2C71Gb110BGd0d0731512",
       "20Y5b2Cm1a3a1ehB1BuB512251q1gB924UpmalyvI0Tj2E9Q0CtMik101of743Cr130Cq1EjfB0B590BgBvvCgBf",
       "0CoF7GO0BvWI0B1D62F59Hk0F00Mb0e1UOi1Gg9mB21i13Ej01vq5qaa0Bd1C0616a4I224Bc38CgcBjBcH4qBON",
       "43DwsHs3Nj6mfgCvDjBsHlaB62Bt3g817t4BsGljcjcCm9oE7Ck1C6112021231b10161C01327161r131410361",
       "Kj2J32BhFDhC3CcBsW2Bb4D3ce2e1e1B4aFdBop11dBb4871e5Eq_o3g3c3Gp6b40fb4Bn896B78t2b41e8B7Kn8",
       "d2c3a3Bo104f2b497Ei1D6YBA60uCv"],
      some
        ["0C0q5qBe1b1114n0v0O12191030181015542jDu06010Tt0Gn0Q40BKs0Ml3EB7b2B01u1911161a3a1ehB1Bu",
         "B512251q1gB924UpmalyvI0Tj2E9Q0m1n2913101pN2030d0d0l0Qhnv0Bhec3F195Cvv0GO0BvWI8pD62_g0e",
         "1UV49mk2b1i13Ej01vq5q5Dv616a4MicBjBcBSQ3Hs3Nj6mfgCvDjBsHlaB62Bt3g817t4BsGljcjcCmr6E7Ck",
         "1C6112021231b10161C01327161r131410361Kj2J32BhFDhC3CcBsW2Bb4D3ce2e1e1B4aFdBop11dBb48n5E",
         "q_o3g3c3Gp6b40fb4Bn896B78t2b41e8B7Kn8d2c3a3Bo104f2b497Ei1D6YBA60uCv"]⟩,
    ⟨["coptic", "copt", "qaac"], [":2dKEgDj56"], some ["Fn0S803110Dc1DcdKEgDj56In0BVG8r"]⟩,
    ⟨["cuneiform", "xsux"], ["CIA0ypD6De14bG3"], none⟩,
    ⟨["cypriot", "cprt"], ["CCA05201Bb113020"], some ["CAI024Bc38BW05201Bb113020"]⟩,
    ⟨["cyprominoan", "cpmn"], ["CLygD2"], some ["CAI01LUeD2"]⟩,
    ⟨["cyrillic", "cyrl"],
      ["BA0E42F8FwgaF00Cc0ED7v_C0CvVye1BYQ0BtB10"],
      some ["Vs0C321010102050HeJfFwgaF00Cc0Dv0D:7vC30z:sCvVye1BYQ0BtB10"]⟩,
    ⟨["deseret", "dsrt"], ["CBA0Cf"], none⟩,
    ⟨["devanagari", "deva"], ["CI0Cg4e2pBHx0vyQ09"], some ["Vs0BS3Ci2BaEwgB611:m0BBZv9F6vyQ09"]⟩,
    ⟨["divesakuru", "diak"], ["CGI062027111t112b99"], none⟩,
    ⟨["dogra", "dogr"], ["CGA0Br"], some ["CL4bBHW09x_6Br"]⟩,
    ⟨["duployan", "dupl"], ["DPA0Da5c387923"], some ["Fn0Sf110o1KYn0DDO3Da5c387927"]⟩,
    ⟨["egyptianhieroglyphs", "egyp"], ["CMA0BClaDyq"], none⟩,
    ⟨["elbasan", "elba"], ["CBI0B7"], some ["Fn0Sd0CAPqB7"]⟩,
    ⟨["elymaic", "elym"], ["CD:0m"], none⟩,
    ⟨["ethiopic", "ethi"],
      ["EQ0C8132610132B8132B0132610132e1Bo132C22v3pGP6m9616161616161616:J2525259616CPFh613111e"],
      some
        ["Ye0DXhC8132610132B8132B0132610132e1Bo132C22v3pGP6m9616161616161616:J2525259616CPFh6131",
         "11e"]⟩,
    ⟨["garay", "gara"], ["CDK0B53s81"], some ["BQc0e030CBZ0B53s81"]⟩,
    ⟨["georgian", "geor"],
      ["EF0B510502Ba13CygBa22EC0B51050"],
      some ["Fn0BGh0CYmB510502BfCygBa22yq0DF5B51050I30"]⟩,
    ⟨["glagolitic", "glag"],
      ["LA0CvDMz061g261114"],
      some ["Fn0Sb010Lu020I10Cxh0Dwu0Cz5CvP30_Bb0COMg61g261114"]⟩,
    ⟨["gothic", "goth"], ["CAZgq"], some ["Fn0Sc120B80B::uq"]⟩,
    ⟨["grantha", "gran"],
      ["CEY0317212l1611142821222060562634"],
      some ["CKh1h1U0dEGs011u231:m0ByQf317212l1611141921222060562634DCr110"]⟩,
    ⟨["greek", "grek"],
      ["xg3122310401012101j1BuefGJ64Bi444Ck0K0l252B525271010101u2Bk1e1d251i2218J70BCRu0VOqCeh0BU",
       "CvC5"],
      some
        ["Fn0S81201010a0Be020Ba72310401012101j1BuefGJ64Bi444Ck2Jul252B525271010101u2Bk1e1d251i22",
         "18Cu0G80BCRu0VOqCeh0BUCvC5"]⟩,
    ⟨["gujarati", "gujr"],
      ["CU1218121l16111429121220f32b76"],
      some ["CKh1h1Ir218121l16111429121220f32b76BHJg9"]⟩,
    ⟨["gunjalagondi", "gong"], ["CHL05111B4111579"], some ["Fn0CFc1CE:q5111B4111579"]⟩,
    ⟨["gurmukhi", "guru"],
      ["CQ1215412l16111111201441223073107g"],
      some ["CKh1h1Er215412l16111111201441223073107gBHNp9"]⟩,
    ⟨["gurungkhema", "gukh"], ["CYI0Bp"], some ["CL50CVyqBp"]⟩,
    ⟨["han", "hani"],
      ["LU0p1CocGlBf010p8e3_4GNvC0UPvWI0Ld2D9zI81c6BEA9BJWvB0EIt2FUd2HJgfTdCN2QtBP2Ewa5IJ9"],
      some
        ["Fn0LO8p1CocGlqf121c1c1c2068Fr0EkfB0B590BgB7BoBgfbBj0Cooa4D0u1GNvC0UPvBY07UPoLd2D9xb1Iq",
         "4yDs1c6Yx9hHWu1DNeBJWvB0EIt2FUd2HJgfTdCN2QtBP2Ewa5IJ9"]⟩,
    ⟨["hangul", "hang"],
      ["EI0HvHRe1I1CtDhuC1uzX1sU3Kz3cm4BgJz4u35252522"],
      some ["EI0HvHQ12491ce260G30BlCtDhuC1uzX1sU3Kz3cm4BgJS91Iq4Bqu35252522"]⟩,
    ⟨["hanifirohingya", "rohg"], ["CDI0B789"], some ["BQc0e030B00Ej0CBRbB789"]⟩,
    ⟨["hanunoo", "hano"], ["FZ0k"], some ["FZ0m"]⟩,
    ⟨["hatran", "hatr"], ["CCH0i1154"], none⟩,
    ⟨["hebrew", "hebr"], ["BMhBm8q45BzJ8p1410111119"], some ["Y71U8Bm8q45BzJ8p1410111119"]⟩,
    ⟨["hiragana", "hira"],
      ["MC1Cl62C:x1Iui0t2QFd0"],
      some ["MA12491cg510413Cl27Cq1BTK81Iq4a0Bd1BMD1Iui0t2QFd0"]⟩,
    ⟨["imperialaramaic", "armi"], ["CCC0l18"], none⟩,
    ⟨["inherited", "zinh", "qaai"],
      ["Y0DfIl1O4aq0X03EKrBd2bP421c16406031G6BvQc1G2B0DZp3Db1BTL5fgd_f0H20ECq0BO_4Bd2mR02h726u3Y",
       "LwiHf"],
      some
        ["Yf0201e36202f111h1413BPg1EKrBd2bWmBl1014Qc1G2vBXIgfgd_f0BTI2Bd2mR02h726u3YLwiHf"]⟩,
    ⟨["inscriptionalpahlavi", "phli"], ["CCx0i57"], none⟩,
    ⟨["inscriptionalparthian", "prti"], ["CCw0l27"], none⟩,
    ⟨["javanese", "java"], ["BKM0Cd2941"], some ["BKM0Cd1a41"]⟩,
    ⟨["kaithi", "kthi"], ["CEE0C2a0"], some ["CL69JG10_Pu9wC6C2a0"]⟩,
    ⟨["kannada", "knda"],
      ["DE0c121m19142812137152132912"],
      some ["CKh1h1Yqc121m19142812137152132912D_s01160n010BCZr5"]⟩,
    ⟨["katakana", "kana"],
      ["MF1Cp22HgfGgBe1CnBTAe91BcBMCi3161110Iv2Bi0e3"],
      some ["Y50t0LGt2491cg51041Cr33CvHgfGgBe1CnBSXd1IqBuBMCg3161110Iv2Bi0e3"]⟩,
    ⟨["kawi"], ["CHY0g1B83s"], none⟩,
    ⟨["kayahli", "kali"], ["BKI0Bd10"], some ["BKI0Bf"]⟩,
    ⟨["kharoshthi", "khar"], ["CCQ031157121s224978"], none⟩,
    ⟨["khitansmallscript", "kits"], ["Cx:40GYrOlB90"], none⟩,
    ⟨["khmer", "khmr"], ["Fy0Ct2969P6v"], none⟩,
    ⟨["khojki", "khoj"], ["CEQ0h1Be"], some ["CX69BHK09wO6h1Be"]⟩,
    ⟨["khudawadi", "sind"], ["CEVgBq59"], some ["CL41BHWa9wTmBq59"]⟩,
    ⟨["kiratrai", "krai"], ["CxK0Bp"], none⟩,
    ⟨["lao", "laoo"], ["DU1110141n101m2410161923"], none⟩,
    ⟨["latin", "latn"],
      ["C1p6pBf0f05m1u1O0B74GQrB56Bg535c1C5C1HvLh0d0gcEd160r0hB8CWnv_V2D53ChkeZgBa1813Tym6BAqp6p",
       "CB551B918BVw5u65"],
      some
        ["C1p6pBf0c0205m1u1O030a01210901064re1110f27111B60504cIl1BGa1Bz80DA4B56Bg535c1C5Bp07HvJf",
         "0C10d0gcCj0Bp160r0hB8CWnvMn0_H87qD53ChkeJe0Q1Ba1813Tym6BAqp6pCB551B918BVw5u65"]⟩,
    ⟨["lepcha", "lepc"], ["HA0Bn3e32"], none⟩,
    ⟨["limbu", "limb"], ["GI0u1b4b403b"], some ["CL50Dyqu1b4b403b"]⟩,
    ⟨["lineara", "lina"], ["CBQ0Jm9la7"], some ["CAI7BcBGcJm9la7"]⟩,
    ⟨["linearb", "linb"], ["CAA0b1p1i111e2dB2Dq"], some ["CAA0b1p1i111e2dB2Dq524Bc38"]⟩,
    ⟨["lisu"], ["BJGgBf_Vg0"], some ["Vs0g0LJs1zG4Bf_Vg0"]⟩,
    ⟨["lycian", "lyci"], ["CAU0s"], some ["ICq0BYR5s"]⟩,
    ⟨["lydian", "lydi"], ["CCJ0p50"], some ["Fn0LLp0BWXep50"]⟩,
    ⟨["mahajani", "mahj"], ["CEKgB6"], some ["Fn0CFcbBHW09wImB6"]⟩,
    ⟨["makasar", "maka"], ["CHX0o"], none⟩,
    ⟨["malayalam", "mlym"], ["DI0c121Bi12154f2p"], some ["CKh1h1yqc121Bi12154f2pDwq0n0BCZt2"]⟩,
    ⟨["mandaic", "mand"], ["CC0r20"], some ["BS00Pvr20"]⟩,
    ⟨["manichaean", "mani"], ["CCW0B64b"], some ["BS00CBDvB64b"]⟩,
    ⟨["marchen", "marc"], ["CHDgv2l1d"], none⟩,
    ⟨["masaramgondi", "gonm"], ["CHI06111Bb30111889"], some ["CL41CEyq6111Bb30111889"]⟩,
    ⟨["medefaidrin", "medf"], ["CxS0Cq"], none⟩,
    ⟨["meeteimayek", "mtei"], ["BKX0mG9Bd29"], none⟩,
    ⟨["mendekikakui", "mend"], ["DwA0G42f"], none⟩,
    ⟨["meroiticcursive", "merc"], ["CCN0n4j2Bd"], none⟩,
    ⟨["meroitichieroglyphs", "mero"], ["CCM0v"], some ["ICt0BwJ2v"]⟩,
    ⟨["miao", "plrd"], ["CxY0Ca4Bo7g"], none⟩,
    ⟨["modi"], ["CFQ0C4b9"], some ["BKBg9xO6C4b9"]⟩,
    ⟨["mongolian", "mong"], ["GA01201j6Co7BaB:Nlc"], some ["GA0p6Co7BaBy40D_h153BZSkc"]⟩,
    ⟨["mro", "mroo"], ["CwS0u1941"], none⟩,
    ⟨["multani", "mult"], ["CEU0610131e1a"], some ["CT69CCAg610131e1a"]⟩,
    ⟨["myanmar", "mymr"], ["EA0EvBGK0uD1vxCgj"], some ["EA0EvBGEe0FhuD1vxCgj"]⟩,
    ⟨["nabataean", "nbat"], ["CCE0u88"], none⟩,
    ⟨["nagmundari", "nagm"], ["DZGgB9"], none⟩,
    ⟨["nandinagari", "nand"], ["CGN072Bd2a"], some ["CKh0i1y09D:p08070BCZl5yLa72Bd2a"]⟩,
    ⟨["newtailue", "talu"], ["GM0Bb4p6a31"], none⟩,
    ⟨["newa"], ["CFA0Cr14"], some ["CKh1Ey201190601010BzYiCr14"]⟩,
    ⟨["nko", "nkoo"], ["B_0Bq22"], some ["BQc0e030N0Bq22BzJu1"]⟩,
    ⟨["nushu", "nshu"], ["Cx:10QMeMb"], none⟩,
    ⟨["nyiakengpuachuehmong", "hmnp"], ["DYI0Bc3d2941"], none⟩,
    ⟨["ogham", "ogam"], ["FU0s"], none⟩,
    ⟨["olchiki", "olck"], ["HCgBf"], none⟩,
    ⟨["olonal", "onao"], ["DZOgBa40"], some ["CL41DXDaBa40"]⟩,
    ⟨["oldhungarian", "hung"], ["CDE0BidBi75"], some ["ICq020DOj0f0BXRuBidBi75"]⟩,
    ⟨["olditalic", "ital"], ["CAY0B392"], none⟩,
    ⟨["oldnortharabian", "narb"], ["CCU0v"], none⟩,
    ⟨["oldpermic", "perm"], ["CAwgBa"], some ["Fn0S8052a0Lf0B:WcBa"]⟩,
    ⟨["oldpersian", "xpeo"], ["CAz0B34d"], none⟩,
    ⟨["oldsogdian", "sogo"], ["CDY0B7"], none⟩,
    ⟨["oldsoutharabian", "sarb"], ["CCT0v"], none⟩,
    ⟨["oldturkic", "orkh"], ["CDA0C8"], some ["ICq0DOl0BXOfC8"]⟩,
    ⟨["olduyghur", "ougr"], ["CDxgp"], some ["BS00CBFh0BDtp"]⟩,
    ⟨["oriya", "orya"],
      ["CY1217212l1611142821227241142h"],
      some ["CKh1h1Mr217212l1611142821227241142hEL20n0"]⟩,
    ⟨["osage", "osge"], ["CBFgB34B3"], some ["Y102060Cc0CAKnB34B3"]⟩,
    ⟨["osmanya", "osma"], ["CBE0t29"], none⟩,
    ⟨["pahawhhmong", "hmng"], ["CwY0C5a9161k5i"], none⟩,
    ⟨["palmyrene", "palm"], ["CCD0v"], none⟩,
    ⟨["paucinhau", "pauc"], ["CGW0Bo"], none⟩,
    ⟨["phagspa", "phag"], ["BKC0Bn"], some ["GA2110CB90D_i0_BtBn"]⟩,
    ⟨["phoenician", "phnx"], ["CCI0r30"], none⟩,
    ⟨["psalterpahlavi", "phlp"], ["CCy0h73c6"], some ["BS00CBJvh73c6"]⟩,
    ⟨["rejang", "rjng"], ["BKJgB3b0"], none⟩,
    ⟨["runic", "runr"], ["FV0Ca3a"], some ["FV0Co"]⟩,
    ⟨["samaritan", "samr"], ["CA0Bd2e"], some ["CA0Bd2eJPi0"]⟩,
    ⟨["saurashtra", "saur"], ["BKE0C58b"], none⟩,
    ⟨["sharada", "shrd"], ["CEM0CvCM07"], some ["CKh0Ey501021209020BCw2520wK7CvCM07"]⟩,
    ⟨["shavian", "shaw"], ["CBCgBf"], some ["Fn0CAyoBf"]⟩,
    ⟨["siddham", "sidd"], ["CFM0Bl2B5"], none⟩,
    ⟨["sidetic", "sidt"], ["CCK0p"], none⟩,
    ⟨["signwriting", "sgnw"], ["DWA0Ubf41e"], none⟩,
    ⟨["sinhala", "sinh"],
      ["DM121h3n181026304510176922CA:cj"],
      some ["CL41BAr21h3n181026304510176922DXt0BzHej"]⟩,
    ⟨["sogdian", "sogd"], ["CDZgB9"], some ["BS00CCHfB9"]⟩,
    ⟨["sorasompeng", "sora"], ["CEGgo79"], none⟩,
    ⟨["soyombo", "soyo"], ["CGSgCi"], none⟩,
    ⟨["sundanese", "sund"], ["Gy0BvI07"], none⟩,
    ⟨["sunuwar", "sunu"], ["CG_0B1e9"], some ["Y01109020s030CGEeB1e9"]⟩,
    ⟨["sylotinagri", "sylo"], ["BKA0Bc"], some ["CL41E09BHQgBc"]⟩,
    ⟨["syriac", "syrc"], ["BY0d1Br22Iga"], some ["Y312110o27111Wq0e120B00aaq0Efd1Br22IgaFMd010"]⟩,
    ⟨["tagalog", "tglg"], ["FY0l90"], some ["FY0l90l1"]⟩,
    ⟨["tagbanwa", "tagb"], ["Fx0c1211"], some ["FZl1B9c1211"]⟩,
    ⟨["taile", "tale"], ["GKgt24"], some ["Y015130DJj9CI6t24"]⟩,
    ⟨["taitham", "lana"], ["GR0Bu1s2a696d"], none⟩,
    ⟨["taiviet", "tavt"], ["BKU0C2o4"], none⟩,
    ⟨["taiyo", "tayo"], ["DZW0u1l81"], none⟩,
    ⟨["takri", "takr"], ["CFU0Bp69"], some ["CL41BHWa9xS6Bp69"]⟩,
    ⟨["tamil", "taml"],
      ["Cy2115321331101131323b4432132060ekCE_5Bhd0"],
      some ["CKh1h1Qs115321331101131323b4432132060ekEGv0BDAo0wQd010Bn1DE3Bhd0"]⟩,
    ⟨["tangsa", "tnsa"], ["CwTgCe19"], none⟩,
    ⟨["tangut", "tang"], ["Cx:00vGXvQ0uD1Di"], some ["L:gfPf0CPPg0vGXvQ0uD1Di"]⟩,
    ⟨["telugu", "telu"],
      ["DA0c121m1f281213711211232978"],
      some ["CKh1h1Uqc121m1f281213711211232978ECl11010n0"]⟩,
    ⟨["thaana", "thaa"], ["By0Bh"], some ["BQc0e120C09ImBhBzS00a0"]⟩,
    ⟨["thai"], ["DQ1Bp5r"], some ["Vs0q0Bb0Bd0CWfBp5r"]⟩,
    ⟨["tibetan", "tibt"], ["DY0C71B34B61B31e1641"], some ["DY0C71B34B61B31e1641IBd3"]⟩,
    ⟨["tifinagh", "tfng"], ["LJgBn71e0"], some ["Y201013p0KQcBn71e0"]⟩,
    ⟨["tirhuta", "tirh"], ["CFE0C789"], some ["CKh1h1Exf0c0f0BCZt9xC6C789"]⟩,
    ⟨["todhri", "todr"], ["CBO0Bj"], some ["Y1020209010Ca0CAT1Bj"]⟩,
    ⟨["tolongsiki", "tols"], ["CHNgBb49"], none⟩,
    ⟨["toto"], ["DYUgu"], some ["Vs0DX_ju"]⟩,
    ⟨["tulutigalari", "tutg"],
      ["CEy0910201B519102013191181"],
      some ["DH69EA2010BCZr5Fr0wUe910201B519102013191181"]⟩,
    ⟨["ugaritic", "ugar"], ["CAy0t10"], none⟩,
    ⟨["vai", "vaii"], ["BJI0Jb"], none⟩,
    ⟨["vithkuqi", "vith"], ["CBLga1e16111a1e1611"], none⟩,
    ⟨["wancho", "wcho"], ["DYW0Bp50"], none⟩,
    ⟨["warangciti", "wara"], ["CGF0Cic0"], none⟩,
    ⟨["yezidi", "yezi"], ["CDU0B91221"], some ["BQc0e030C09CCAmB91221"]⟩,
    ⟨["yi", "yiii"], ["BIA0BEc3Bm"], some ["MA115927Gv0xY4BEc3BmWUq4"]⟩,
    ⟨["zanabazarsquare", "zanb"], ["CGQ0C7"], none⟩]

/-- The script with the name given. -/
def named? (name : String) : Option Script := all.find? fun s => s.names.contains name

/-- The code points whose script this is. -/
def ranges (s : Script) : CodeRanges := CodeRanges.decode s.own

/-- The code points that the script uses. -/
def usedRanges (s : Script) : CodeRanges := CodeRanges.decode (s.used.getD s.own)

end Script

end DocumentFilter.Unicode
