import DocumentFilter.Pattern.Unicode.CodeRanges

/-! Simple case folding: which code points differ in case only.

Most come in pairs, and the pairs in runs: code points at a constant stride, each with
its partner at the same distance. The larger families are listed. -/
namespace DocumentFilter.Unicode

/-- Code points `first`, `first + stride`, …, `count` of them, each with its partner
`distance` further on. -/
structure PairRun where
  first : Nat
  stride : Nat
  count : Nat
  distance : Nat

namespace PairRun

/-- Is the code point the lower one of a pair? -/
def isLower (r : PairRun) (c : Nat) : Bool :=
  decide (r.first ≤ c) && decide (c < r.first + r.stride * r.count) &&
    (c - r.first) % r.stride == 0

/-- The partner of a code point, from either side. -/
def partner? (r : PairRun) (c : Nat) : Option Nat :=
  if r.isLower c then some (c + r.distance)
  else if r.distance ≤ c && r.isLower (c - r.distance) then some (c - r.distance)
  else none

/-- The runs, four numbers each. -/
def table : List String :=
  ["I02o1Ji231Jp281Ka2n1Lp231M2221M7111Mb111Mh111Mo111N0231N7111Nc111Nf111Nj221No111Ns111Od281Ou",
   "291Pk111Po2k1R2291Rr111S1111S6251xg221xm111_o2c1:n111:q111BD0111BD42f1BEa2r1BG1271BGg2Bg1HE9",
   "111HQ02Bg1HT22q1HV02Bg1IM3111LD0111LD7231LDi111LDl111LE02Bi1LHb221LHi111BJS0251BJSc2h1BJU02e",
   "1BJZ2271BJZi2v1BJxp221BJxu251BJyb111BJyg221BJym2a1BJzk281BJ_7221BJ_c281BJ:l111B_Y5111:i117H:",
   "5117_f118E:g168HY0188HYg168HZ0188HZg188Hw0168Hwh248Hx0188Hy0188Hyg188Hz0188Hzg128H_g128H:012",
   "8Hzj119H_3119H:j119BG011fIL01ggJFm1qqCxV01prIJi11sC11aB0Cc17B0Ck17B0G015B0G61hB0Go17B0yh22B0",
   "yk22B0yn11B0yr22B0yu12B0z412B0z712B0za12B0BAg12B0BAj22B0BAm18B0BAv12B0BB317B0BBb15B0B:Z11qB0",
   "CDKg1mB0CGF01B0B0CxS01B0B0DwI01B2B2y813B5y611B6CBLg1bB7CBLs1fB7CBMc17B7CBMk12B7CBA01B8B8CBFg",
   "1B4B8BJh1B6BgLA01BgBgBJyk11BgNv11Boye12Bvyc11C0CDE01BjC0S411C5S511C7Hxg12CaMe11CfBA01gCgHxi1",
   "4CmMl11D1Hxm12D4Hxq12Dgxv11DkHv11DpHxs12DuHxo12E0Mu11E2xr13E2Mq11F3M011G3Mf11GaMg11GbM912GdM",
   "j11GdM611GeMk11GfMn11GhM111GiMm11GjMs11GjMt11GlMv11GmNh12GpN611GqN911GqNe11GqNn11GrBJzj11z0E",
   "Gg1BbC_0EHt13C_0HLt11DX6zg11HBjyg11HC3EF01B6HD0EG711HD0EGd11HD0Gv11HNvTt11KP7Tb11KPnTh11KPtS",
   "h11KQsSi11KQuSg11KQvRu11KR8Rq11KRbRv12KRvHLp11BCQ4HMe11BCRoEz01CgBF_gUu11BJIiUt11BJIlT511BJJ",
   "8U711BJJaTc11BJK1U211BJK3T611BJK4Ta11BJK4T111BJKbSs11BJKfT411BJL7Mr11BJS1"]

/-- Four numbers to a run. -/
def ofNumbers : List Nat → List PairRun
  | first :: stride :: count :: distance :: rest =>
    ⟨first, stride, count, distance⟩ :: ofNumbers rest
  | _ => []

def all : List PairRun := ofNumbers (CodeRanges.numbers table)

end PairRun

/-- The families of more than two. -/
def caseFamilies : List (List Nat) :=
  [[0x4B, 0x6B, 0x212A], [0x53, 0x73, 0x17F], [0xB5, 0x39C, 0x3BC],
    [0xC5, 0xE5, 0x212B], [0x1C4, 0x1C5, 0x1C6], [0x1C7, 0x1C8, 0x1C9],
    [0x1CA, 0x1CB, 0x1CC], [0x1F1, 0x1F2, 0x1F3], [0x345, 0x399, 0x3B9, 0x1FBE],
    [0x392, 0x3B2, 0x3D0], [0x395, 0x3B5, 0x3F5], [0x398, 0x3B8, 0x3D1, 0x3F4],
    [0x39A, 0x3BA, 0x3F0], [0x3A0, 0x3C0, 0x3D6], [0x3A1, 0x3C1, 0x3F1],
    [0x3A3, 0x3C2, 0x3C3], [0x3A6, 0x3C6, 0x3D5], [0x3A9, 0x3C9, 0x2126],
    [0x412, 0x432, 0x1C80], [0x414, 0x434, 0x1C81], [0x41E, 0x43E, 0x1C82],
    [0x421, 0x441, 0x1C83], [0x422, 0x442, 0x1C84, 0x1C85], [0x42A, 0x44A, 0x1C86],
    [0x462, 0x463, 0x1C87], [0x1C88, 0xA64A, 0xA64B], [0x1E60, 0x1E61, 0x1E9B]]

/-- The other code points that differ from this one in case only. -/
def caseVariants (c : Nat) : List Nat :=
  match caseFamilies.find? fun family => family.contains c with
  | some family => family.filter (· != c)
  | none => (PairRun.all.findSome? fun r => r.partner? c).toList

end DocumentFilter.Unicode
