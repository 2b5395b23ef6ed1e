import RuleFilter.Unicode.Runs

set_option autoImplicit false

/-! # Classes for text boundaries

How a character takes part in finding the boundaries of grapheme clusters, words and sentences. Each
table assigns every code point one class, `XX` standing for no class. -/

namespace RuleFilter.Unicode

/-- Classes of code points for grapheme clusters, as runs. -/
def graphemeBreakRuns : String :=
  "CN10 LF1 CN2 CR1 CN18 XX95 CN33 XX13 CN1 XX594 EX112 XX275 EX7 XX263 EX45 XX1 EX1 XX1 EX2 XX1
   EX2 XX1 EX1 XX56 PP6 XX10 EX11 XX1 CN1 XX46 EX21 XX16 EX1 XX101 EX7 PP1 XX1 EX6 XX2 EX2 XX1 EX4
   XX33 PP1 XX1 EX1 XX30 EX27 XX91 EX11 XX58 EX9 XX9 EX1 XX24 EX4 XX1 EX9 XX1 EX3 XX1 EX5 XX43 EX3
   XX52 PP2 XX5 EX9 XX42 EX24 PP1 EX32 SM1 XX54 EX1 SM1 EX1 XX1 SM3 EX8 SM4 EX1 SM2 XX1 EX7 XX10
   EX2 XX29 EX1 SM2 XX56 EX1 XX1 EX1 SM2 EX4 XX2 SM2 XX2 SM2 EX1 XX9 EX1 XX10 EX2 XX26 EX1 XX2 EX2
   SM1 XX56 EX1 XX1 SM3 EX2 XX4 EX2 XX2 EX3 XX3 EX1 XX30 EX2 XX3 EX1 XX11 EX2 SM1 XX56 EX1 XX1 SM3
   EX5 XX1 EX2 SM1 XX1 SM2 EX1 XX20 EX2 XX22 EX6 XX1 EX1 SM2 XX56 EX1 XX1 EX2 SM1 EX4 XX2 SM2 XX2
   SM2 EX1 XX7 EX3 XX10 EX2 XX30 EX1 XX59 EX1 SM1 EX1 SM2 XX3 SM3 XX1 SM3 EX1 XX9 EX1 XX40 EX1 SM3
   EX1 XX55 EX1 XX1 EX3 SM4 XX1 EX3 XX1 EX4 XX7 EX2 XX11 EX2 XX29 EX1 SM2 XX56 EX1 XX1 SM1 EX2 SM1
   EX1 SM2 XX1 EX3 XX1 EX4 XX7 EX2 XX11 EX2 XX15 SM1 XX12 EX2 SM2 XX55 EX2 XX1 EX1 SM2 EX4 XX1 SM3
   XX1 SM3 EX1 PP1 XX8 EX1 XX10 EX2 XX29 EX1 SM2 XX70 EX1 XX4 EX1 SM2 EX3 XX1 EX1 XX1 SM7 EX1 XX18
   SM2 XX61 EX1 XX1 SM1 EX7 XX12 EX8 XX98 EX1 XX1 SM1 EX9 XX11 EX7 XX73 EX2 XX27 EX1 XX1 EX1 XX1
   EX1 XX4 SM2 XX49 EX14 SM1 EX5 XX1 EX2 XX5 EX11 XX1 EX36 XX9 EX1 XX102 EX4 SM1 EX6 XX1 EX2 SM2
   EX2 XX23 SM2 EX2 XX4 EX3 XX16 EX4 XX13 EX1 XX1 SM1 EX2 XX6 EX1 XX15 EX1 XX98 L96 V72 T88 XX349
   EX3 XX946 EX4 XX28 EX3 XX29 EX2 XX30 EX2 XX64 EX2 SM1 EX7 SM8 EX1 SM2 EX11 XX9 EX1 XX45 EX3 CN1
   EX1 XX117 EX2 XX34 EX1 XX118 EX3 SM4 EX2 SM3 XX4 SM2 EX1 SM6 EX3 XX219 EX2 SM2 EX1 XX57 SM1 EX1
   SM1 EX7 XX1 EX1 XX1 EX1 XX2 EX8 SM6 EX10 XX2 EX1 XX48 EX31 XX49 EX4 SM1 XX47 EX10 SM4 EX3 XX38
   EX9 XX12 EX2 SM1 XX30 SM1 EX4 SM2 EX6 XX56 EX1 SM1 EX2 SM3 EX1 SM1 EX5 XX48 SM8 EX8 SM2 EX2
   XX152 EX3 XX1 EX13 SM1 EX7 XX4 EX1 XX6 EX1 XX2 SM1 EX2 XX198 EX64 XX523 CN1 EX1 ZWJ1 CN2 XX24
   CN7 XX49 CN16 XX96 EX33 XX3070 EX3 XX141 EX1 XX96 EX32 XX554 EX6 XX105 EX2 XX30164 EX4 XX1 EX10
   XX32 EX2 XX80 EX2 XX272 EX1 XX3 EX1 XX4 EX1 XX23 SM2 EX2 SM1 XX4 EX1 XX83 SM2 XX50 SM16 EX2 XX26
   EX18 XX13 EX1 XX38 EX8 XX25 EX11 SM1 EX1 XX12 L29 XX3 EX3 SM1 XX47 EX1 SM2 EX4 SM2 EX2 SM2 EX1
   XX36 EX1 XX67 EX6 SM2 EX2 SM2 EX2 XX12 EX1 XX8 EX1 SM1 XX46 EX1 XX51 EX1 XX1 EX3 XX2 EX2 XX5 EX2
   XX1 EX1 XX41 SM1 EX2 SM2 XX5 SM1 EX1 XX236 SM2 EX1 SM2 EX1 SM2 XX1 SM1 EX1 XX18 LV1 LVT27 LV1
   LVT27 LV1 LVT27 LV1 LVT27 LV1 LVT27 LV1 LVT27 LV1 LVT27 LV1 LVT27 LV1 LVT27 LV1 LVT27 LV1 LVT27
   LV1 LVT27 LV1 LVT27 LV1 LVT27 LV1 LVT27 LV1 LVT27 LV1 LVT27 LV1 LVT27 LV1 LVT27 LV1 LVT27 LV1
   LVT27 LV1 LVT27 LV1 LVT27 LV1 LVT27 LV1 LVT27 LV1 LVT27 LV1 LVT27 LV1 LVT27 LV1 LVT27 LV1 LVT27
   LV1 LVT27 LV1 LVT27 LV1 LVT27 LV1 LVT27 LV1 LVT27 LV1 LVT27 LV1 LVT27 LV1 LVT27 LV1 LVT27 LV1
   LVT27 LV1 LVT27 LV1 LVT27 LV1 LVT27 LV1 LVT27 LV1 LVT27 LV1 LVT27 LV1 LVT27 LV1 LVT27 LV1 LVT27
   LV1 LVT27 LV1 LVT27 LV1 LVT27 LV1 LVT27 LV1 LVT27 LV1 LVT27 LV1 LVT27 LV1 LVT27 LV1 LVT27 LV1
   LVT27 LV1 LVT27 LV1 LVT27 LV1 LVT27 LV1 LVT27 LV1 LVT27 LV1 LVT27 LV1 LVT27 LV1 LVT27 LV1 LVT27
   LV1 LVT27 LV1 LVT27 LV1 LVT27 LV1 LVT27 LV1 LVT27 LV1 LVT27 LV1 LVT27 LV1 LVT27 LV1 LVT27 LV1
   LVT27 LV1 LVT27 LV1 LVT27 LV1 LVT27 LV1 LVT27 LV1 LVT27 LV1 LVT27 LV1 LVT27 LV1 LVT27 LV1 LVT27
   LV1 LVT27 LV1 LVT27 LV1 LVT27 LV1 LVT27 LV1 LVT27 LV1 LVT27 LV1 LVT27 LV1 LVT27 LV1 LVT27 LV1
   LVT27 LV1 LVT27 LV1 LVT27 LV1 LVT27 LV1 LVT27 LV1 LVT27 LV1 LVT27 LV1 LVT27 LV1 LVT27 LV1 LVT27
   LV1 LVT27 LV1 LVT27 LV1 LVT27 LV1 LVT27 LV1 LVT27 LV1 LVT27 LV1 LVT27 LV1 LVT27 LV1 LVT27 LV1
   LVT27 LV1 LVT27 LV1 LVT27 LV1 LVT27 LV1 LVT27 LV1 LVT27 LV1 LVT27 LV1 LVT27 LV1 LVT27 LV1 LVT27
   LV1 LVT27 LV1 LVT27 LV1 LVT27 LV1 LVT27 LV1 LVT27 LV1 LVT27 LV1 LVT27 LV1 LVT27 LV1 LVT27 LV1
   LVT27 LV1 LVT27 LV1 LVT27 LV1 LVT27 LV1 LVT27 LV1 LVT27 LV1 LVT27 LV1 LVT27 LV1 LVT27 LV1 LVT27
   LV1 LVT27 LV1 LVT27 LV1 LVT27 LV1 LVT27 LV1 LVT27 LV1 LVT27 LV1 LVT27 LV1 LVT27 LV1 LVT27 LV1
   LVT27 LV1 LVT27 LV1 LVT27 LV1 LVT27 LV1 LVT27 LV1 LVT27 LV1 LVT27 LV1 LVT27 LV1 LVT27 LV1 LVT27
   LV1 LVT27 LV1 LVT27 LV1 LVT27 LV1 LVT27 LV1 LVT27 LV1 LVT27 LV1 LVT27 LV1 LVT27 LV1 LVT27 LV1
   LVT27 LV1 LVT27 LV1 LVT27 LV1 LVT27 LV1 LVT27 LV1 LVT27 LV1 LVT27 LV1 LVT27 LV1 LVT27 LV1 LVT27
   LV1 LVT27 LV1 LVT27 LV1 LVT27 LV1 LVT27 LV1 LVT27 LV1 LVT27 LV1 LVT27 LV1 LVT27 LV1 LVT27 LV1
   LVT27 LV1 LVT27 LV1 LVT27 LV1 LVT27 LV1 LVT27 LV1 LVT27 LV1 LVT27 LV1 LVT27 LV1 LVT27 LV1 LVT27
   LV1 LVT27 LV1 LVT27 LV1 LVT27 LV1 LVT27 LV1 LVT27 LV1 LVT27 LV1 LVT27 LV1 LVT27 LV1 LVT27 LV1
   LVT27 LV1 LVT27 LV1 LVT27 LV1 LVT27 LV1 LVT27 LV1 LVT27 LV1 LVT27 LV1 LVT27 LV1 LVT27 LV1 LVT27
   LV1 LVT27 LV1 LVT27 LV1 LVT27 LV1 LVT27 LV1 LVT27 LV1 LVT27 LV1 LVT27 LV1 LVT27 LV1 LVT27 LV1
   LVT27 LV1 LVT27 LV1 LVT27 LV1 LVT27 LV1 LVT27 LV1 LVT27 LV1 LVT27 LV1 LVT27 LV1 LVT27 LV1 LVT27
   LV1 LVT27 LV1 LVT27 LV1 LVT27 LV1 LVT27 LV1 LVT27 LV1 LVT27 LV1 LVT27 LV1 LVT27 LV1 LVT27 LV1
   LVT27 LV1 LVT27 LV1 LVT27 LV1 LVT27 LV1 LVT27 LV1 LVT27 LV1 LVT27 LV1 LVT27 LV1 LVT27 LV1 LVT27
   LV1 LVT27 LV1 LVT27 LV1 LVT27 LV1 LVT27 LV1 LVT27 LV1 LVT27 LV1 LVT27 LV1 LVT27 LV1 LVT27 LV1
   LVT27 LV1 LVT27 LV1 LVT27 LV1 LVT27 LV1 LVT27 LV1 LVT27 LV1 LVT27 LV1 LVT27 LV1 LVT27 LV1 LVT27
   LV1 LVT27 LV1 LVT27 LV1 LVT27 LV1 LVT27 LV1 LVT27 LV1 LVT27 LV1 LVT27 LV1 LVT27 LV1 LVT27 LV1
   LVT27 LV1 LVT27 LV1 LVT27 LV1 LVT27 LV1 LVT27 LV1 LVT27 LV1 LVT27 LV1 LVT27 LV1 LVT27 LV1 LVT27
   LV1 LVT27 LV1 LVT27 LV1 LVT27 LV1 LVT27 LV1 LVT27 LV1 LVT27 LV1 LVT27 LV1 LVT27 LV1 LVT27 LV1
   LVT27 LV1 LVT27 LV1 LVT27 LV1 LVT27 LV1 LVT27 LV1 LVT27 LV1 LVT27 LV1 LVT27 LV1 LVT27 LV1 LVT27
   LV1 LVT27 LV1 LVT27 LV1 LVT27 LV1 LVT27 LV1 LVT27 LV1 LVT27 LV1 LVT27 LV1 LVT27 LV1 LVT27 LV1
   LVT27 LV1 LVT27 LV1 LVT27 LV1 LVT27 LV1 LVT27 LV1 LVT27 LV1 LVT27 LV1 LVT27 LV1 LVT27 LV1 LVT27
   LV1 LVT27 LV1 LVT27 LV1 LVT27 LV1 LVT27 LV1 LVT27 LV1 LVT27 LV1 LVT27 LV1 LVT27 LV1 LVT27 LV1
   LVT27 LV1 LVT27 LV1 LVT27 LV1 LVT27 LV1 LVT27 LV1 LVT27 LV1 LVT27 LV1 LVT27 LV1 LVT27 LV1 LVT27
   LV1 LVT27 LV1 LVT27 LV1 LVT27 LV1 LVT27 LV1 LVT27 LV1 LVT27 LV1 LVT27 LV1 LVT27 LV1 LVT27 LV1
   LVT27 LV1 LVT27 LV1 LVT27 LV1 LVT27 LV1 LVT27 LV1 LVT27 LV1 LVT27 LV1 LVT27 LV1 LVT27 LV1 LVT27
   LV1 LVT27 LV1 LVT27 LV1 LVT27 LV1 LVT27 LV1 LVT27 LV1 LVT27 LV1 LVT27 LV1 LVT27 LV1 LVT27 LV1
   LVT27 LV1 LVT27 LV1 LVT27 LV1 LVT27 LV1 LVT27 LV1 LVT27 LV1 LVT27 LV1 LVT27 LV1 LVT27 LV1 LVT27
   LV1 LVT27 LV1 LVT27 LV1 LVT27 LV1 LVT27 LV1 LVT27 LV1 LVT27 LV1 LVT27 LV1 LVT27 XX12 V23 XX4 T49
   XX8994 EX1 XX737 EX16 XX16 EX16 XX207 CN1 XX158 EX2 XX80 CN12 XX513 EX1 XX226 EX1 XX149 EX5
   XX1670 EX3 XX1 EX2 XX5 EX4 XX40 EX3 XX4 EX1 XX165 EX2 XX573 EX4 XX65 EX5 XX317 EX2 XX79 EX4 XX70
   EX11 XX49 EX4 XX122 SM1 EX1 SM1 XX53 EX15 XX41 EX1 XX2 EX2 XX10 EX3 SM1 XX45 SM3 EX4 SM2 EX2 XX2
   PP1 XX4 EX1 XX10 PP1 XX50 EX3 XX36 EX5 SM1 EX8 XX16 SM2 XX44 EX1 XX12 EX2 SM1 XX48 SM3 EX9 SM1
   EX1 XX1 PP2 XX5 EX4 XX1 SM1 EX1 XX92 SM3 EX3 SM2 EX4 XX6 EX1 XX2 EX1 XX157 EX1 SM3 EX8 XX21 EX2
   SM2 XX55 EX2 XX1 EX1 SM1 EX1 SM4 XX2 SM2 XX2 SM2 EX1 XX9 EX1 XX10 SM2 XX2 EX7 XX3 EX5 XX67 EX1
   SM2 EX6 XX1 EX1 XX2 EX1 XX1 EX3 SM1 XX1 SM2 EX3 PP1 EX1 XX14 EX2 XX82 SM3 EX8 SM2 EX3 SM1 EX1
   XX23 EX1 XX81 EX1 SM2 EX6 SM1 EX1 SM2 EX1 SM1 EX2 SM1 EX2 XX235 EX1 SM2 EX4 XX2 SM4 EX2 SM1 EX2
   XX27 EX2 XX82 SM3 EX8 SM2 EX1 SM1 EX2 XX106 EX1 SM1 EX1 SM2 EX8 XX101 EX1 SM1 EX1 XX2 EX4 SM1
   EX5 XX256 SM3 EX9 SM1 EX2 XX245 EX1 SM5 XX1 SM2 XX2 EX4 PP1 SM1 PP1 SM1 EX1 XX141 SM3 EX4 XX2
   EX2 SM4 EX1 XX3 SM1 XX28 EX10 XX40 EX6 SM1 PP1 EX4 XX8 EX1 XX9 EX6 SM2 EX3 XX40 PP6 EX13 SM1 EX2
   XX405 SM1 EX7 XX1 EX6 SM1 EX1 XX82 EX22 XX1 SM1 EX7 SM1 EX2 SM1 EX2 XX122 EX6 XX3 EX1 XX1 EX2
   XX1 EX7 PP1 EX1 XX66 SM5 XX1 EX2 XX1 SM2 EX1 SM1 EX1 XX347 EX2 SM2 XX9 EX2 PP1 SM1 XX48 SM2 EX5
   XX3 SM2 EX3 XX23 EX1 XX5333 CN16 EX1 XX6 EX15 XX11464 EX12 SM3 EX3 XX2496 EX5 XX59 EX7 XX556 V1
   XX3 V4 XX484 EX1 XX1 SM55 XX7 EX4 XX81 EX1 XX11 EX2 XX19627 EX2 XX1 CN4 XX4700 EX46 XX2 EX23
   XX542 EX5 XX3 EX6 CN8 EX8 XX2 EX7 XX30 EX4 XX148 EX3 XX1979 EX55 XX4 EX50 XX8 EX1 XX14 EX1 XX22
   EX5 XX1 EX15 XX1360 EX7 XX1 EX17 XX2 EX7 XX1 EX2 XX1 EX5 XX100 EX1 XX160 EX7 XX375 EX1 XX61 EX4
   XX508 EX4 XX254 EX2 XX736 EX7 XX109 EX7 XX2203 RI26 XX507 EX5 XX789504 CN32 EX96 CN128 EX240
   CN3600 XX192512"

/-- Names of the classes for grapheme clusters. -/
def graphemeBreakNames : List (List String × String) := [
  (["cn", "control"], "CN"),
  (["cr"], "CR"),
  (["ex", "extend"], "EX"),
  (["l"], "L"),
  (["lf"], "LF"),
  (["lv"], "LV"),
  (["lvt"], "LVT"),
  (["pp", "prepend"], "PP"),
  (["ri", "regionalindicator"], "RI"),
  (["sm", "spacingmark"], "SM"),
  (["t"], "T"),
  (["v"], "V"),
  (["zwj"], "ZWJ")]

/-- Classes of code points for words, as runs. -/
def wordBreakRuns : String :=
  "XX10 LF1 NL2 CR1 XX18 WSegSpace1 XX1 DQ1 XX4 SQ1 XX4 MN1 XX1 MB1 XX1 NU10 ML1 MN1 XX5 LE26 XX4
   EX1 XX1 LE26 XX10 NL1 XX36 LE1 XX2 FO1 XX7 LE1 XX1 ML1 LE1 XX1 LE1 XX5 LE23 XX1 LE31 XX1 LE480
   XX6 LE34 Extend112 LE5 XX1 LE2 XX2 LE4 MN1 LE1 XX6 LE1 ML1 LE3 XX1 LE1 XX1 LE20 XX1 LE83 XX1
   LE139 XX1 Extend7 LE166 XX1 LE38 XX2 LE4 XX1 LE1 ML1 LE41 MN1 LE1 XX6 Extend45 XX1 Extend1 XX1
   Extend2 XX1 Extend2 XX1 Extend1 XX8 HL27 XX4 HL4 LE1 ML1 XX11 NU6 XX6 MN2 XX2 Extend11 XX1 FO1
   XX3 LE43 Extend21 NU10 XX1 NU1 MN1 XX1 LE2 Extend1 LE99 XX1 LE1 Extend7 NU1 XX1 Extend6 LE2
   Extend2 XX1 Extend4 LE2 NU10 LE3 XX2 LE1 XX15 LE2 Extend1 LE30 Extend27 XX2 LE89 Extend11 LE1
   XX14 NU10 LE33 Extend9 LE2 XX2 MN1 XX1 LE1 XX2 Extend1 XX2 LE22 Extend4 LE1 Extend9 LE1 Extend3
   LE1 Extend5 XX18 LE25 Extend3 XX4 LE11 XX5 LE24 XX1 LE6 XX1 NU2 XX5 Extend9 LE42 Extend24 NU1
   Extend33 LE54 Extend3 LE1 Extend18 LE1 Extend7 LE10 Extend2 XX2 NU10 XX1 LE16 Extend3 XX1 LE8
   XX2 LE2 XX2 LE22 XX1 LE7 XX1 LE1 XX3 LE4 XX2 Extend1 LE1 Extend7 XX2 Extend2 XX2 Extend3 LE1 XX8
   Extend1 XX4 LE2 XX1 LE3 Extend2 XX2 NU10 LE2 XX10 LE1 XX1 Extend1 XX2 Extend3 XX1 LE6 XX4 LE2
   XX2 LE22 XX1 LE7 XX1 LE2 XX1 LE2 XX1 LE2 XX2 Extend1 XX1 Extend5 XX4 Extend2 XX2 Extend3 XX3
   Extend1 XX7 LE4 XX1 LE1 XX7 NU10 Extend2 LE3 Extend1 XX11 Extend3 XX1 LE9 XX1 LE3 XX1 LE22 XX1
   LE7 XX1 LE2 XX1 LE5 XX2 Extend1 LE1 Extend8 XX1 Extend3 XX1 Extend3 XX2 LE1 XX15 LE2 Extend2 XX2
   NU10 XX9 LE1 Extend6 XX1 Extend3 XX1 LE8 XX2 LE2 XX2 LE22 XX1 LE7 XX1 LE2 XX1 LE5 XX2 Extend1
   LE1 Extend7 XX2 Extend2 XX2 Extend3 XX7 Extend3 XX4 LE2 XX1 LE3 Extend2 XX2 NU10 XX1 LE1 XX16
   Extend1 LE1 XX1 LE6 XX3 LE3 XX1 LE4 XX3 LE2 XX1 LE1 XX1 LE2 XX3 LE2 XX3 LE3 XX3 LE12 XX4 Extend5
   XX3 Extend3 XX1 Extend4 XX2 LE1 XX6 Extend1 XX14 NU10 XX16 Extend5 LE8 XX1 LE3 XX1 LE23 XX1 LE16
   XX2 Extend1 LE1 Extend7 XX1 Extend3 XX1 Extend4 XX7 Extend2 XX1 LE3 XX2 LE1 XX2 LE2 Extend2 XX2
   NU10 XX16 LE1 Extend3 XX1 LE8 XX1 LE3 XX1 LE23 XX1 LE10 XX1 LE5 XX2 Extend1 LE1 Extend7 XX1
   Extend3 XX1 Extend4 XX7 Extend2 XX6 LE2 XX1 LE2 Extend2 XX2 NU10 XX1 LE2 Extend1 XX12 Extend4
   LE9 XX1 LE3 XX1 LE41 Extend2 LE1 Extend7 XX1 Extend3 XX1 Extend4 LE1 XX5 LE3 Extend1 XX7 LE3
   Extend2 XX2 NU10 XX10 LE6 XX1 Extend3 XX1 LE18 XX3 LE24 XX1 LE9 XX1 LE1 XX2 LE7 XX3 Extend1 XX4
   Extend6 XX1 Extend1 XX1 Extend8 XX6 NU10 XX2 Extend2 XX61 Extend1 XX2 Extend7 XX12 Extend8 XX1
   NU10 XX87 Extend1 XX2 Extend9 XX11 Extend7 XX1 NU10 XX38 LE1 XX23 Extend2 XX6 NU10 XX11 Extend1
   XX1 Extend1 XX1 Extend1 XX4 Extend2 LE8 XX1 LE36 XX4 Extend20 XX1 Extend2 LE5 Extend11 XX1
   Extend36 XX9 Extend1 XX100 Extend20 XX1 NU10 XX12 Extend4 XX4 Extend3 XX1 Extend3 XX2 Extend7
   XX3 Extend4 XX13 Extend12 XX1 Extend1 NU10 Extend4 XX2 LE38 XX1 LE1 XX5 LE1 XX2 LE43 XX1 LE333
   XX1 LE4 XX2 LE7 XX1 LE1 XX1 LE4 XX2 LE41 XX1 LE4 XX2 LE33 XX1 LE4 XX2 LE7 XX1 LE1 XX1 LE4 XX2
   LE15 XX1 LE57 XX1 LE4 XX2 LE67 XX2 Extend3 XX32 LE16 XX16 LE86 XX2 LE6 XX3 LE620 XX2 LE17
   WSegSpace1 LE26 XX5 LE75 XX3 LE11 XX7 LE18 Extend4 XX9 LE19 Extend3 XX11 LE18 Extend2 XX12 LE13
   XX1 LE3 XX1 Extend2 XX64 Extend32 XX9 Extend1 XX2 NU10 XX33 Extend3 FO1 Extend1 NU10 XX6 LE89
   XX7 LE5 Extend2 LE34 Extend1 LE1 XX5 LE70 XX10 LE31 XX1 Extend12 XX4 Extend12 XX10 NU10 XX128
   NU11 XX37 LE23 Extend5 XX57 Extend10 XX1 Extend29 XX2 Extend1 NU10 XX6 NU10 XX22 Extend31 XX49
   Extend5 LE47 Extend17 LE8 XX3 NU10 XX17 Extend9 XX12 Extend3 LE30 Extend13 LE2 NU10 LE44
   Extend14 XX12 LE36 Extend20 XX8 NU10 XX3 LE3 NU10 LE36 XX2 LE11 XX5 LE43 XX2 LE3 XX16 Extend3
   XX1 Extend21 LE4 Extend1 LE6 Extend1 LE2 Extend3 LE1 XX5 LE192 Extend64 LE278 XX2 LE6 XX2 LE38
   XX2 LE6 XX2 LE8 XX1 LE1 XX1 LE1 XX1 LE1 XX1 LE31 XX2 LE53 XX1 LE7 XX1 LE1 XX3 LE3 XX1 LE7 XX3
   LE4 XX2 LE6 XX4 LE13 XX5 LE3 XX1 LE7 XX3 WSegSpace7 XX1 WSegSpace3 XX1 Extend1 ZWJ1 FO2 XX8 MB2
   XX10 MB1 XX2 ML1 NL2 FO5 EX1 XX15 EX2 XX3 MN1 XX15 EX1 XX10 WSegSpace1 FO5 XX1 FO10 XX1 LE1 XX13
   LE1 XX16 LE13 XX51 Extend33 XX17 LE1 XX4 LE1 XX2 LE10 XX1 LE1 XX3 LE5 XX6 LE1 XX1 LE1 XX1 LE1
   XX1 LE4 XX1 LE11 XX2 LE4 XX5 LE5 XX4 LE1 XX17 LE41 XX813 LE52 XX1814 LE229 XX6 LE4 Extend3 LE2
   XX12 LE38 XX1 LE1 XX5 LE1 XX2 LE56 XX7 LE1 XX15 Extend1 LE23 XX9 LE7 XX1 LE7 XX1 LE7 XX1 LE7 XX1
   LE7 XX1 LE7 XX1 LE7 XX1 LE7 XX1 Extend32 XX47 LE1 XX464 WSegSpace1 XX4 LE1 XX36 Extend6 XX1 KA5
   XX5 LE2 XX92 Extend2 KA2 XX3 KA91 XX1 KA4 XX5 LE43 XX1 LE94 XX17 LE32 XX48 KA16 XX208 KA47 XX1
   KA88 XX27816 LE1165 XX67 LE46 XX2 LE269 XX3 LE16 NU10 LE2 XX20 LE47 Extend4 XX1 Extend10 XX1
   LE31 Extend2 LE80 Extend2 XX22 LE198 XX2 LE2 XX1 LE1 XX1 LE8 XX21 LE16 Extend1 LE3 Extend1 LE4
   Extend1 LE23 Extend5 XX4 Extend1 XX19 LE52 XX12 Extend2 LE50 Extend18 XX10 NU10 XX6 Extend18 LE6
   XX3 LE1 XX1 LE2 Extend1 NU10 LE28 Extend8 XX2 LE23 Extend13 XX12 LE29 XX3 Extend4 LE47 Extend14
   XX14 LE1 NU10 XX11 Extend1 XX10 NU10 XX6 LE41 Extend14 XX9 LE3 Extend1 LE8 Extend2 XX2 NU10 XX33
   Extend3 XX50 Extend1 XX1 Extend3 XX2 Extend2 XX5 Extend2 XX1 Extend1 XX30 LE11 Extend5 XX2 LE3
   Extend2 XX10 LE6 XX2 LE6 XX2 LE6 XX9 LE7 XX1 LE7 XX1 LE58 XX6 LE115 Extend8 XX1 Extend2 XX2 NU10
   XX6 LE11172 XX12 LE23 XX4 LE49 XX8964 LE7 XX12 LE5 XX5 HL1 Extend1 HL10 XX1 HL13 XX1 HL5 XX1 HL1
   XX1 HL2 XX1 HL2 XX1 HL10 LE98 XX33 LE363 XX18 LE64 XX2 LE54 XX40 LE12 XX4 Extend16 XX3 ML1 XX12
   Extend16 XX3 EX2 XX24 EX3 MN1 XX1 MB1 XX1 MN1 ML1 XX26 LE5 XX1 LE135 XX2 FO1 XX7 MB1 XX4 MN1 XX1
   MB1 XX1 NU10 ML1 MN1 XX5 LE26 XX4 EX1 XX1 LE26 XX11 KA56 Extend2 LE31 XX3 LE6 XX2 LE6 XX2 LE6
   XX2 LE3 XX28 FO3 XX4 LE12 XX1 LE26 XX1 LE19 XX1 LE2 XX1 LE15 XX2 LE14 XX34 LE123 XX69 LE53 XX136
   Extend1 XX130 LE29 XX3 LE49 XX15 Extend1 XX31 LE32 XX13 LE30 XX5 LE38 Extend5 XX5 LE30 XX2 LE36
   XX4 LE8 XX1 LE5 XX42 LE158 XX2 NU10 XX6 LE36 XX4 LE36 XX4 LE40 XX8 LE52 XX12 LE11 XX1 LE15 XX1
   LE7 XX1 LE2 XX1 LE11 XX1 LE15 XX1 LE7 XX1 LE2 XX3 LE52 XX12 LE311 XX9 LE22 XX10 LE8 XX24 LE6 XX1
   LE42 XX1 LE9 XX69 LE6 XX2 LE1 XX1 LE44 XX1 LE2 XX3 LE1 XX2 LE23 XX10 LE23 XX9 LE31 XX65 LE19 XX1
   LE2 XX10 LE22 XX10 LE26 XX70 LE56 XX6 LE2 XX64 LE1 Extend3 XX1 Extend2 XX5 Extend4 LE4 XX1 LE3
   XX1 LE29 XX2 Extend3 XX4 Extend1 XX32 LE29 XX3 LE29 XX35 LE8 XX1 LE28 Extend2 XX25 LE54 XX10
   LE22 XX10 LE19 XX13 LE18 XX110 LE73 XX55 LE51 XX13 LE51 XX13 LE36 Extend4 XX8 NU10 XX6 NU10 LE28
   XX3 Extend5 XX1 LE23 XX250 LE42 XX1 Extend2 XX3 LE2 XX16 LE3 XX55 Extend4 LE29 XX10 LE1 XX8 LE22
   Extend11 XX31 LE18 Extend4 XX42 LE21 XX27 LE23 XX9 Extend3 LE53 Extend15 XX31 NU10 Extend1 LE2
   Extend2 LE1 XX9 Extend4 LE45 Extend11 XX2 NU1 XX4 Extend1 XX10 NU1 XX2 LE25 XX7 NU10 XX6 Extend3
   LE36 Extend14 XX1 NU10 XX4 LE1 Extend2 LE1 XX8 LE35 Extend1 XX2 LE1 XX9 Extend3 LE48 Extend14
   LE4 XX4 Extend4 XX1 Extend2 NU10 LE1 XX1 LE1 XX35 LE18 XX1 LE25 Extend12 XX6 Extend1 LE2 Extend1
   XX62 LE7 XX1 LE1 XX1 LE4 XX1 LE15 XX1 LE10 XX7 LE47 Extend12 XX5 NU10 XX6 Extend4 XX1 LE8 XX2
   LE2 XX2 LE22 XX1 LE7 XX1 LE2 XX1 LE5 XX1 Extend2 LE1 Extend7 XX2 Extend2 XX2 Extend3 XX2 LE1 XX6
   Extend1 XX5 LE5 Extend2 XX2 Extend7 XX3 Extend5 XX11 LE10 XX1 LE1 XX2 LE1 XX1 LE38 XX1 LE1
   Extend9 XX1 Extend1 XX2 Extend1 XX1 Extend4 XX1 Extend5 LE1 Extend1 LE1 XX13 Extend2 XX29 LE53
   Extend18 LE4 XX5 NU10 XX4 Extend1 LE3 XX30 LE48 Extend20 LE2 XX1 LE1 XX8 NU10 XX166 LE47 Extend7
   XX2 Extend9 XX23 LE4 Extend2 XX34 LE48 Extend17 XX3 LE1 XX11 NU10 XX38 LE43 Extend13 LE1 XX7
   NU10 XX6 NU20 XX57 Extend15 XX4 NU10 XX198 LE44 Extend15 XX101 LE64 NU10 XX21 LE8 XX2 LE1 XX2
   LE8 XX1 LE2 XX1 LE24 Extend6 XX1 Extend2 XX2 Extend4 LE1 Extend1 LE1 Extend2 XX12 NU10 XX70 LE8
   XX2 LE39 Extend7 XX2 Extend7 LE1 XX1 LE1 Extend1 XX27 LE1 Extend10 LE40 Extend7 LE1 Extend4 XX8
   Extend1 XX8 LE1 Extend11 LE46 Extend16 XX3 LE1 XX18 LE73 XX199 LE33 XX15 NU10 XX6 LE9 XX1 LE37
   Extend8 XX1 Extend8 LE1 XX15 NU10 XX24 LE30 XX2 Extend22 XX1 Extend14 XX73 LE7 XX1 LE2 XX1 LE38
   Extend6 XX3 Extend1 XX1 Extend2 XX1 Extend7 LE1 Extend1 XX8 NU10 XX6 LE6 XX1 LE2 XX1 LE32
   Extend5 XX1 Extend2 XX1 Extend5 LE1 XX7 NU10 XX310 LE19 Extend4 XX9 Extend2 LE1 Extend1 LE13 XX1
   LE34 Extend7 XX3 Extend5 XX13 NU10 Extend1 XX85 LE1 XX79 LE922 XX102 LE111 XX17 LE196 XX2636
   LE97 XX15 LE1072 FO16 Extend1 LE6 Extend15 XX10 LE3995 XX5 LE583 XX6841 LE30 Extend18 NU10
   XX1734 LE569 XX7 LE31 XX1 NU10 XX6 LE79 XX1 NU10 XX6 LE30 XX2 Extend5 XX11 LE48 Extend7 XX9 LE4
   XX12 NU10 XX9 LE21 XX5 LE19 XX432 LE45 XX3 NU10 XX198 LE64 XX128 LE75 XX4 Extend1 LE1 Extend55
   XX7 Extend4 LE13 XX64 LE2 XX1 LE1 Extend1 XX11 Extend2 XX16382 KA4 XX1 KA7 XX1 KA2 XX1 KA1 XX287
   KA3 XX50 KA1 XX14 KA4 XX2712 LE107 XX5 LE13 XX3 LE9 XX7 LE10 XX3 Extend2 XX1 FO4 XX4172 NU10
   XX518 Extend46 XX2 Extend23 XX542 Extend5 XX3 Extend6 FO8 Extend8 XX2 Extend7 XX30 Extend4 XX148
   Extend3 XX443 LE85 XX1 LE71 XX1 LE2 XX2 LE1 XX2 LE2 XX2 LE4 XX1 LE12 XX1 LE1 XX1 LE7 XX1 LE65
   XX1 LE4 XX2 LE8 XX1 LE7 XX1 LE28 XX1 LE4 XX1 LE5 XX1 LE1 XX3 LE7 XX1 LE340 XX2 LE25 XX1 LE25 XX1
   LE31 XX1 LE25 XX1 LE31 XX1 LE25 XX1 LE31 XX1 LE25 XX1 LE31 XX1 LE25 XX1 LE8 XX2 NU50 XX512
   Extend55 XX4 Extend50 XX8 Extend1 XX14 Extend1 XX22 Extend5 XX1 Extend15 XX1104 LE31 XX6 LE6
   XX213 Extend7 XX1 Extend17 XX2 Extend7 XX1 Extend2 XX1 Extend5 XX5 LE62 XX33 Extend1 XX112 LE45
   XX3 Extend7 LE7 XX2 NU10 XX4 LE1 XX321 LE30 Extend1 XX17 LE44 Extend4 NU10 XX470 LE28 Extend4
   NU10 XX214 LE30 Extend2 LE1 NU10 XX485 LE7 XX1 LE4 XX1 LE2 XX1 LE15 XX1 LE197 XX11 Extend7 XX41
   LE68 Extend7 LE1 XX4 NU10 XX1190 LE4 XX1 LE27 XX1 LE2 XX1 LE1 XX2 LE1 XX1 LE10 XX1 LE4 XX1 LE1
   XX1 LE1 XX6 LE1 XX4 LE1 XX1 LE1 XX1 LE1 XX1 LE3 XX1 LE2 XX1 LE1 XX2 LE1 XX1 LE1 XX1 LE1 XX1 LE1
   XX1 LE1 XX1 LE2 XX1 LE1 XX2 LE4 XX1 LE7 XX1 LE4 XX1 LE4 XX1 LE1 XX1 LE10 XX1 LE17 XX5 LE3 XX1
   LE5 XX1 LE17 XX628 LE26 XX6 LE26 XX6 LE26 XX92 RI26 XX507 Extend5 XX2032 NU10 XX787463 FO1 XX30
   Extend96 XX128 Extend240 XX196112"

/-- Names of the classes for words. -/
def wordBreakNames : List (List String × String) := [
  (["cr"], "CR"),
  (["dq", "doublequote"], "DQ"),
  (["ex", "extendnumlet"], "EX"),
  (["extend"], "Extend"),
  (["fo", "format"], "FO"),
  (["hl", "hebrewletter"], "HL"),
  (["ka", "katakana"], "KA"),
  (["le", "aletter"], "LE"),
  (["lf"], "LF"),
  (["mb", "midnumlet"], "MB"),
  (["ml", "midletter"], "ML"),
  (["mn", "midnum"], "MN"),
  (["nl", "newline"], "NL"),
  (["nu", "numeric"], "NU"),
  (["ri", "regionalindicator"], "RI"),
  (["sq", "singlequote"], "SQ"),
  (["wsegspace"], "WSegSpace"),
  (["zwj"], "ZWJ")]

/-- Classes of code points for sentences, as runs. -/
def sentenceBreakRuns : String :=
  "XX9 SP1 LF1 SP2 CR1 XX18 SP1 ST1 CL1 XX4 CL3 XX2 SC2 AT1 XX1 NU10 SC2 XX3 ST1 XX1 UP26 CL1 XX1
   CL1 XX3 LO26 CL1 XX1 CL1 XX7 SE1 XX26 SP1 XX9 LO1 CL1 XX1 FO1 XX7 LO1 XX4 LO1 CL1 XX4 UP23 XX1
   UP7 LO24 XX1 LO8 UP1 LO1 UP1 LO1 UP1 LO1 UP1 LO1 UP1 LO1 UP1 LO1 UP1 LO1 UP1 LO1 UP1 LO1 UP1 LO1
   UP1 LO1 UP1 LO1 UP1 LO1 UP1 LO1 UP1 LO1 UP1 LO1 UP1 LO1 UP1 LO1 UP1 LO1 UP1 LO1 UP1 LO1 UP1 LO1
   UP1 LO1 UP1 LO1 UP1 LO1 UP1 LO1 UP1 LO1 UP1 LO2 UP1 LO1 UP1 LO1 UP1 LO1 UP1 LO1 UP1 LO1 UP1 LO1
   UP1 LO1 UP1 LO2 UP1 LO1 UP1 LO1 UP1 LO1 UP1 LO1 UP1 LO1 UP1 LO1 UP1 LO1 UP1 LO1 UP1 LO1 UP1 LO1
   UP1 LO1 UP1 LO1 UP1 LO1 UP1 LO1 UP1 LO1 UP1 LO1 UP1 LO1 UP1 LO1 UP1 LO1 UP1 LO1 UP1 LO1 UP1 LO1
   UP1 LO1 UP2 LO1 UP1 LO1 UP1 LO3 UP2 LO1 UP1 LO1 UP2 LO1 UP3 LO2 UP4 LO1 UP2 LO1 UP3 LO3 UP2 LO1
   UP2 LO1 UP1 LO1 UP1 LO1 UP2 LO1 UP1 LO2 UP1 LO1 UP2 LO1 UP3 LO1 UP1 LO1 UP2 LO2 LE1 UP1 LO3 LE4
   UP2 LO1 UP2 LO1 UP2 LO1 UP1 LO1 UP1 LO1 UP1 LO1 UP1 LO1 UP1 LO1 UP1 LO1 UP1 LO1 UP1 LO2 UP1 LO1
   UP1 LO1 UP1 LO1 UP1 LO1 UP1 LO1 UP1 LO1 UP1 LO1 UP1 LO1 UP1 LO2 UP2 LO1 UP1 LO1 UP3 LO1 UP1 LO1
   UP1 LO1 UP1 LO1 UP1 LO1 UP1 LO1 UP1 LO1 UP1 LO1 UP1 LO1 UP1 LO1 UP1 LO1 UP1 LO1 UP1 LO1 UP1 LO1
   UP1 LO1 UP1 LO1 UP1 LO1 UP1 LO1 UP1 LO1 UP1 LO1 UP1 LO1 UP1 LO1 UP1 LO1 UP1 LO1 UP1 LO1 UP1 LO1
   UP1 LO1 UP1 LO1 UP1 LO1 UP1 LO7 UP2 LO1 UP2 LO2 UP1 LO1 UP4 LO1 UP1 LO1 UP1 LO1 UP1 LO1 UP1 LO69
   LE1 LO36 LE7 LO2 XX4 LE12 XX14 LO5 XX7 LE1 XX1 LE1 XX17 EX112 UP1 LO1 UP1 LO1 LE1 XX1 UP1 LO1
   XX2 LO4 SC1 UP1 XX6 UP1 XX1 UP3 XX1 UP1 XX1 UP2 LO1 UP17 XX1 UP9 LO35 UP1 LO2 UP3 LO3 UP1 LO1
   UP1 LO1 UP1 LO1 UP1 LO1 UP1 LO1 UP1 LO1 UP1 LO1 UP1 LO1 UP1 LO1 UP1 LO1 UP1 LO1 UP1 LO5 UP1 LO1
   XX1 UP1 LO1 UP2 LO2 UP51 LO48 UP1 LO1 UP1 LO1 UP1 LO1 UP1 LO1 UP1 LO1 UP1 LO1 UP1 LO1 UP1 LO1
   UP1 LO1 UP1 LO1 UP1 LO1 UP1 LO1 UP1 LO1 UP1 LO1 UP1 LO1 UP1 LO1 UP1 LO1 XX1 EX7 UP1 LO1 UP1 LO1
   UP1 LO1 UP1 LO1 UP1 LO1 UP1 LO1 UP1 LO1 UP1 LO1 UP1 LO1 UP1 LO1 UP1 LO1 UP1 LO1 UP1 LO1 UP1 LO1
   UP1 LO1 UP1 LO1 UP1 LO1 UP1 LO1 UP1 LO1 UP1 LO1 UP1 LO1 UP1 LO1 UP1 LO1 UP1 LO1 UP1 LO1 UP1 LO1
   UP1 LO1 UP2 LO1 UP1 LO1 UP1 LO1 UP1 LO1 UP1 LO1 UP1 LO1 UP1 LO2 UP1 LO1 UP1 LO1 UP1 LO1 UP1 LO1
   UP1 LO1 UP1 LO1 UP1 LO1 UP1 LO1 UP1 LO1 UP1 LO1 UP1 LO1 UP1 LO1 UP1 LO1 UP1 LO1 UP1 LO1 UP1 LO1
   UP1 LO1 UP1 LO1 UP1 LO1 UP1 LO1 UP1 LO1 UP1 LO1 UP1 LO1 UP1 LO1 UP1 LO1 UP1 LO1 UP1 LO1 UP1 LO1
   UP1 LO1 UP1 LO1 UP1 LO1 UP1 LO1 UP1 LO1 UP1 LO1 UP1 LO1 UP1 LO1 UP1 LO1 UP1 LO1 UP1 LO1 UP1 LO1
   UP1 LO1 UP1 LO1 UP1 LO1 UP1 LO1 UP1 LO1 UP1 LO1 UP1 LO1 UP1 LO1 XX1 UP38 XX2 LE1 XX3 SC1 XX2
   LO41 ST1 XX7 EX45 XX1 EX1 XX1 EX2 XX1 EX2 XX1 EX1 XX8 LE27 XX4 LE5 XX12 NU6 XX6 SC2 XX2 EX11 XX1
   FO1 ST3 LE43 EX21 NU10 XX1 NU2 XX1 LE2 EX1 LE99 ST1 LE1 EX7 NU1 XX1 EX6 LE2 EX2 XX1 EX4 LE2 NU10
   LE3 XX2 LE1 ST3 XX12 FO1 LE1 EX1 LE30 EX27 XX2 LE89 EX11 LE1 XX14 NU10 LE33 EX9 LE2 XX2 SC1 ST1
   LE1 XX2 EX1 XX2 LE22 EX4 LE1 EX9 LE1 EX3 LE1 EX5 XX9 ST1 XX1 ST1 XX3 ST2 XX1 LE25 EX3 XX4 LE11
   XX5 LE24 XX1 LE6 XX1 NU2 XX5 EX9 LE42 EX24 NU1 EX33 LE54 EX3 LE1 EX18 LE1 EX7 LE10 EX2 ST2 NU10
   XX1 LE16 EX3 XX1 LE8 XX2 LE2 XX2 LE22 XX1 LE7 XX1 LE1 XX3 LE4 XX2 EX1 LE1 EX7 XX2 EX2 XX2 EX3
   LE1 XX8 EX1 XX4 LE2 XX1 LE3 EX2 XX2 NU10 LE2 XX10 LE1 XX1 EX1 XX2 EX3 XX1 LE6 XX4 LE2 XX2 LE22
   XX1 LE7 XX1 LE2 XX1 LE2 XX1 LE2 XX2 EX1 XX1 EX5 XX4 EX2 XX2 EX3 XX3 EX1 XX7 LE4 XX1 LE1 XX7 NU10
   EX2 LE3 EX1 XX11 EX3 XX1 LE9 XX1 LE3 XX1 LE22 XX1 LE7 XX1 LE2 XX1 LE5 XX2 EX1 LE1 EX8 XX1 EX3
   XX1 EX3 XX2 LE1 XX15 LE2 EX2 XX2 NU10 XX9 LE1 EX6 XX1 EX3 XX1 LE8 XX2 LE2 XX2 LE22 XX1 LE7 XX1
   LE2 XX1 LE5 XX2 EX1 LE1 EX7 XX2 EX2 XX2 EX3 XX7 EX3 XX4 LE2 XX1 LE3 EX2 XX2 NU10 XX1 LE1 XX16
   EX1 LE1 XX1 LE6 XX3 LE3 XX1 LE4 XX3 LE2 XX1 LE1 XX1 LE2 XX3 LE2 XX3 LE3 XX3 LE12 XX4 EX5 XX3 EX3
   XX1 EX4 XX2 LE1 XX6 EX1 XX14 NU10 XX16 EX5 LE8 XX1 LE3 XX1 LE23 XX1 LE16 XX2 EX1 LE1 EX7 XX1 EX3
   XX1 EX4 XX7 EX2 XX1 LE3 XX2 LE1 XX2 LE2 EX2 XX2 NU10 XX16 LE1 EX3 XX1 LE8 XX1 LE3 XX1 LE23 XX1
   LE10 XX1 LE5 XX2 EX1 LE1 EX7 XX1 EX3 XX1 EX4 XX7 EX2 XX6 LE2 XX1 LE2 EX2 XX2 NU10 XX1 LE2 EX1
   XX12 EX4 LE9 XX1 LE3 XX1 LE41 EX2 LE1 EX7 XX1 EX3 XX1 EX4 LE1 XX5 LE3 EX1 XX7 LE3 EX2 XX2 NU10
   XX10 LE6 XX1 EX3 XX1 LE18 XX3 LE24 XX1 LE9 XX1 LE1 XX2 LE7 XX3 EX1 XX4 EX6 XX1 EX1 XX1 EX8 XX6
   NU10 XX2 EX2 XX13 LE48 EX1 LE2 EX7 XX5 LE7 EX8 XX1 NU10 XX39 LE2 XX1 LE1 XX1 LE5 XX1 LE24 XX1
   LE1 XX1 LE10 EX1 LE2 EX9 LE1 XX2 LE5 XX1 LE1 XX1 EX7 XX1 NU10 XX2 LE4 XX32 LE1 XX23 EX2 XX6 NU10
   XX11 EX1 XX1 EX1 XX1 EX1 CL4 EX2 LE8 XX1 LE36 XX4 EX20 XX1 EX2 LE5 EX11 XX1 EX36 XX9 EX1 XX57
   LE43 EX20 LE1 NU10 ST2 XX4 LE6 EX4 LE4 EX3 LE1 EX3 LE2 EX7 LE3 EX4 LE13 EX12 LE1 EX1 NU10 EX4
   XX2 UP38 XX1 UP1 XX5 UP1 XX2 LE43 XX1 LO1 LE332 XX1 LE4 XX2 LE7 XX1 LE1 XX1 LE4 XX2 LE41 XX1 LE4
   XX2 LE33 XX1 LE4 XX2 LE7 XX1 LE1 XX1 LE4 XX2 LE15 XX1 LE57 XX1 LE4 XX2 LE67 XX2 EX3 XX2 ST1 XX4
   ST2 XX23 LE16 XX16 UP86 XX2 LO6 XX3 LE620 XX1 ST1 LE17 SP1 LE26 CL2 XX3 LE75 XX3 LE11 XX7 LE18
   EX4 XX9 LE19 EX3 ST2 XX9 LE18 EX2 XX12 LE13 XX1 LE3 XX1 EX2 XX12 LE52 EX32 ST2 XX1 LE1 XX4 LE1
   EX1 XX2 NU10 XX24 SC1 ST1 XX4 SC1 ST1 XX1 EX3 FO1 EX1 NU10 XX6 LE89 XX7 LE5 EX2 LE34 EX1 LE1 XX5
   LE70 XX10 LE31 XX1 EX12 XX4 EX12 XX8 ST2 NU10 LE30 XX2 LE5 XX11 LE44 XX4 LE26 XX6 NU11 XX37 LE23
   EX5 XX4 LE53 EX10 XX1 EX29 XX2 EX1 NU10 XX6 NU10 XX13 LE1 ST4 XX4 EX31 XX49 EX5 LE47 EX17 LE8
   XX1 ST2 NU10 ST2 XX2 ST2 XX11 EX9 XX9 ST3 EX3 LE30 EX13 LE2 NU10 LE44 EX14 XX12 LE36 EX20 XX3
   ST2 XX3 NU10 XX3 LE3 NU10 LE36 ST2 LO9 UP1 LO1 XX5 LE43 XX2 LE3 XX16 EX3 XX1 EX21 LE4 EX1 LE6
   EX1 LE2 EX3 LE1 XX5 LO192 EX64 UP1 LO1 UP1 LO1 UP1 LO1 UP1 LO1 UP1 LO1 UP1 LO1 UP1 LO1 UP1 LO1
   UP1 LO1 UP1 LO1 UP1 LO1 UP1 LO1 UP1 LO1 UP1 LO1 UP1 LO1 UP1 LO1 UP1 LO1 UP1 LO1 UP1 LO1 UP1 LO1
   UP1 LO1 UP1 LO1 UP1 LO1 UP1 LO1 UP1 LO1 UP1 LO1 UP1 LO1 UP1 LO1 UP1 LO1 UP1 LO1 UP1 LO1 UP1 LO1
   UP1 LO1 UP1 LO1 UP1 LO1 UP1 LO1 UP1 LO1 UP1 LO1 UP1 LO1 UP1 LO1 UP1 LO1 UP1 LO1 UP1 LO1 UP1 LO1
   UP1 LO1 UP1 LO1 UP1 LO1 UP1 LO1 UP1 LO1 UP1 LO1 UP1 LO1 UP1 LO1 UP1 LO1 UP1 LO1 UP1 LO1 UP1 LO1
   UP1 LO1 UP1 LO1 UP1 LO1 UP1 LO1 UP1 LO1 UP1 LO1 UP1 LO1 UP1 LO1 UP1 LO1 UP1 LO1 UP1 LO1 UP1 LO1
   UP1 LO1 UP1 LO1 UP1 LO1 UP1 LO1 UP1 LO1 UP1 LO1 UP1 LO9 UP1 LO1 UP1 LO1 UP1 LO1 UP1 LO1 UP1 LO1
   UP1 LO1 UP1 LO1 UP1 LO1 UP1 LO1 UP1 LO1 UP1 LO1 UP1 LO1 UP1 LO1 UP1 LO1 UP1 LO1 UP1 LO1 UP1 LO1
   UP1 LO1 UP1 LO1 UP1 LO1 UP1 LO1 UP1 LO1 UP1 LO1 UP1 LO1 UP1 LO1 UP1 LO1 UP1 LO1 UP1 LO1 UP1 LO1
   UP1 LO1 UP1 LO1 UP1 LO1 UP1 LO1 UP1 LO1 UP1 LO1 UP1 LO1 UP1 LO1 UP1 LO1 UP1 LO1 UP1 LO1 UP1 LO1
   UP1 LO1 UP1 LO1 UP1 LO1 UP1 LO1 UP1 LO1 UP1 LO1 UP1 LO1 UP1 LO9 UP8 LO6 XX2 UP6 XX2 LO8 UP8 LO8
   UP8 LO6 XX2 UP6 XX2 LO8 XX1 UP1 XX1 UP1 XX1 UP1 XX1 UP1 LO8 UP8 LO14 XX2 LO8 UP8 LO8 UP8 LO8 UP8
   LO5 XX1 LO2 UP5 XX1 LO1 XX3 LO3 XX1 LO2 UP5 XX3 LO4 XX2 LO2 UP4 XX4 LO8 UP5 XX5 LO3 XX1 LO2 UP5
   XX3 SP11 FO1 EX2 FO2 XX3 SC2 XX3 CL8 XX4 AT1 XX3 SE2 FO5 SP1 XX9 CL2 XX1 ST2 XX7 CL2 ST3 XX21
   SP1 FO5 XX1 FO10 XX1 LO1 XX11 CL2 LO1 XX13 CL2 XX1 LO13 XX51 EX33 XX17 UP1 XX4 UP1 XX2 LO1 UP3
   LO2 UP3 LO1 XX1 UP1 XX3 UP5 XX6 UP1 XX1 UP1 XX1 UP1 XX1 UP4 XX1 LO1 UP4 LO1 LE4 LO1 XX2 LO2 UP2
   XX5 UP1 LO4 XX4 LO1 XX17 UP16 LO16 LE3 UP1 LO1 LE4 XX383 CL4 XX29 CL2 XX395 UP26 LO26 XX625 CL6
   XX7 CL14 XX79 CL2 XX31 CL10 XX403 CL22 XX63 CL4 XX32 CL2 XX514 UP48 LO48 UP1 LO1 UP3 LO2 UP1 LO1
   UP1 LO1 UP1 LO1 UP4 LO1 UP1 LO2 UP1 LO8 UP3 LO1 UP1 LO1 UP1 LO1 UP1 LO1 UP1 LO1 UP1 LO1 UP1 LO1
   UP1 LO1 UP1 LO1 UP1 LO1 UP1 LO1 UP1 LO1 UP1 LO1 UP1 LO1 UP1 LO1 UP1 LO1 UP1 LO1 UP1 LO1 UP1 LO1
   UP1 LO1 UP1 LO1 UP1 LO1 UP1 LO1 UP1 LO1 UP1 LO1 UP1 LO1 UP1 LO1 UP1 LO1 UP1 LO1 UP1 LO1 UP1 LO1
   UP1 LO1 UP1 LO1 UP1 LO1 UP1 LO1 UP1 LO1 UP1 LO1 UP1 LO1 UP1 LO1 UP1 LO1 UP1 LO1 UP1 LO1 UP1 LO1
   UP1 LO1 UP1 LO1 UP1 LO1 UP1 LO1 UP1 LO1 UP1 LO1 UP1 LO2 XX6 UP1 LO1 UP1 LO1 EX3 UP1 LO1 XX5 ST3
   XX4 LO38 XX1 LO1 XX5 LO1 XX2 LE56 XX7 LE1 XX15 EX1 LE23 XX9 LE7 XX1 LE7 XX1 LE7 XX1 LE7 XX1 LE7
   XX1 LE7 XX1 LE7 XX1 LE7 XX1 EX32 CL14 XX14 CL2 XX2 CL10 XX4 ST1 LE1 XX12 ST1 XX5 CL1 XX16 ST2
   CL8 XX419 SP1 SC1 ST1 XX2 LE3 CL10 XX2 CL8 XX1 CL3 XX1 LE9 EX6 XX1 LE5 XX2 LE5 XX4 LE86 XX2 EX2
   XX2 LE3 XX1 LE90 XX1 LE4 XX5 LE43 XX1 LE94 XX17 LE32 XX48 LE16 XX512 LE6592 XX64 LE22157 XX67
   LE46 XX1 ST1 LE269 XX1 ST2 LE16 NU10 LE2 XX20 UP1 LO1 UP1 LO1 UP1 LO1 UP1 LO1 UP1 LO1 UP1 LO1
   UP1 LO1 UP1 LO1 UP1 LO1 UP1 LO1 UP1 LO1 UP1 LO1 UP1 LO1 UP1 LO1 UP1 LO1 UP1 LO1 UP1 LO1 UP1 LO1
   UP1 LO1 UP1 LO1 UP1 LO1 UP1 LO1 UP1 LO1 LE1 EX4 XX1 EX10 XX1 LE1 UP1 LO1 UP1 LO1 UP1 LO1 UP1 LO1
   UP1 LO1 UP1 LO1 UP1 LO1 UP1 LO1 UP1 LO1 UP1 LO1 UP1 LO1 UP1 LO1 UP1 LO1 UP1 LO3 EX2 LE80 EX2 XX1
   ST1 XX3 ST1 XX31 LE9 XX2 UP1 LO1 UP1 LO1 UP1 LO1 UP1 LO1 UP1 LO1 UP1 LO1 UP1 LO3 UP1 LO1 UP1 LO1
   UP1 LO1 UP1 LO1 UP1 LO1 UP1 LO1 UP1 LO1 UP1 LO1 UP1 LO1 UP1 LO1 UP1 LO1 UP1 LO1 UP1 LO1 UP1 LO1
   UP1 LO1 UP1 LO1 UP1 LO1 UP1 LO1 UP1 LO1 UP1 LO1 UP1 LO1 UP1 LO1 UP1 LO1 UP1 LO1 UP1 LO1 UP1 LO1
   UP1 LO1 UP1 LO1 UP1 LO1 UP1 LO1 UP1 LO10 UP1 LO1 UP1 LO1 UP2 LO1 UP1 LO1 UP1 LO1 UP1 LO1 UP1 LO1
   LE1 XX2 UP1 LO1 UP1 LO1 LE1 UP1 LO1 UP1 LO3 UP1 LO1 UP1 LO1 UP1 LO1 UP1 LO1 UP1 LO1 UP1 LO1 UP1
   LO1 UP1 LO1 UP1 LO1 UP1 LO1 UP5 LO1 UP5 LO1 UP1 LO1 UP1 LO1 UP1 LO1 UP1 LO1 UP1 LO1 UP1 LO1 UP1
   LO1 UP4 LO1 UP1 LO1 UP2 LO1 XX2 UP1 LO1 XX1 LO1 XX1 LO1 UP1 LO1 UP1 LO1 UP1 LO1 UP1 XX21 LO3 UP1
   LO1 LE1 LO3 LE7 EX1 LE3 EX1 LE4 EX1 LE23 EX5 XX4 EX1 XX19 LE52 XX2 ST2 XX8 EX2 LE50 EX18 XX8 ST2
   NU10 XX6 EX18 LE6 XX3 LE1 XX1 LE2 EX1 NU10 LE28 EX8 XX1 ST1 LE23 EX13 XX12 LE29 XX3 EX4 LE47
   EX14 XX7 ST2 XX5 LE1 NU10 XX6 LE5 EX1 LE10 NU10 LE5 XX1 LE41 EX14 XX9 LE3 EX1 LE8 EX2 XX2 NU10
   XX3 ST3 LE23 XX3 LE1 EX3 LE50 EX1 LE1 EX3 LE2 EX2 LE5 EX2 LE1 EX1 LE1 XX24 LE3 XX2 LE11 EX5 ST2
   LE3 EX2 XX10 LE6 XX2 LE6 XX2 LE6 XX9 LE7 XX1 LE7 XX1 LO43 XX1 LO14 XX6 LO80 LE35 EX8 ST1 EX2 XX2
   NU10 XX6 LE11172 XX12 LE23 XX4 LE49 XX8452 LE366 XX2 LE106 XX38 LO7 XX12 LO5 XX5 LE1 EX1 LE10
   XX1 LE13 XX1 LE5 XX1 LE1 XX1 LE2 XX1 LE2 XX1 LE108 XX33 LE363 CL2 XX16 LE64 XX2 LE54 XX40 LE12
   XX4 EX16 SC2 ST1 SC2 ST2 CL2 XX7 EX16 XX1 SC2 XX2 CL16 XX2 CL2 XX7 SC2 AT1 XX1 SC2 ST2 SC1 CL6
   XX4 SC1 XX12 LE5 XX1 LE135 XX2 FO1 XX1 ST1 XX6 CL2 XX2 SC2 AT1 XX1 NU10 SC2 XX3 ST1 XX1 UP26 CL1
   XX1 CL1 XX3 LO26 CL1 XX1 CL1 XX1 CL2 ST1 CL2 SC1 XX1 LE56 EX2 LE31 XX3 LE6 XX2 LE6 XX2 LE6 XX2
   LE3 XX28 FO3 XX4 LE12 XX1 LE26 XX1 LE19 XX1 LE2 XX1 LE15 XX2 LE14 XX34 LE123 XX69 LE53 XX136 EX1
   XX130 LE29 XX3 LE49 XX15 EX1 XX31 LE32 XX13 LE30 XX5 LE38 EX5 XX5 LE30 XX2 LE36 XX4 LE8 XX1 LE5
   XX42 UP40 LO40 LE78 XX2 NU10 XX6 UP36 XX4 LO36 XX4 LE40 XX8 LE52 XX12 UP11 XX1 UP15 XX1 UP7 XX1
   UP2 XX1 LO11 XX1 LO15 XX1 LO7 XX1 LO2 XX3 LE52 XX12 LE311 XX9 LE22 XX10 LE8 XX24 LO1 LE2 LO3 XX1
   LO42 XX1 LO9 XX69 LE6 XX2 LE1 XX1 LE44 XX1 LE2 XX3 LE1 XX2 LE23 XX10 LE23 XX9 LE31 XX65 LE19 XX1
   LE2 XX10 LE22 XX10 LE26 XX70 LE56 XX6 LE2 XX64 LE1 EX3 XX1 EX2 XX5 EX4 LE4 XX1 LE3 XX1 LE29 XX2
   EX3 XX4 EX1 XX22 ST2 XX8 LE29 XX3 LE29 XX35 LE8 XX1 LE28 EX2 XX25 LE54 XX10 LE22 XX10 LE19 XX13
   LE18 XX110 LE73 XX55 UP51 XX13 LO51 XX13 LE36 EX4 XX8 NU10 XX6 NU10 LE6 UP22 XX3 EX5 XX1 LE1
   LO22 XX250 LE42 XX1 EX2 XX3 LE2 XX16 LE3 XX55 EX4 LE29 XX10 LE1 XX8 LE22 EX11 XX4 ST5 XX22 LE18
   EX4 ST4 XX38 LE21 XX27 LE23 XX9 EX3 LE53 EX15 ST2 XX29 NU10 EX1 LE2 EX2 LE1 XX9 EX4 LE45 EX11
   XX2 NU1 ST4 EX1 XX10 NU1 XX2 LE25 XX7 NU10 XX6 EX3 LE36 EX14 XX1 NU10 XX1 ST3 LE1 EX2 LE1 XX8
   LE35 EX1 XX2 LE1 XX9 EX3 LE48 EX14 LE4 ST2 XX2 EX4 ST1 EX2 NU10 LE1 XX1 LE1 XX1 ST2 XX32 LE18
   XX1 LE25 EX12 ST2 XX1 ST2 XX1 EX1 LE2 EX1 XX62 LE7 XX1 LE1 XX1 LE4 XX1 LE15 XX1 LE10 ST1 XX6
   LE47 EX12 XX5 NU10 XX6 EX4 XX1 LE8 XX2 LE2 XX2 LE22 XX1 LE7 XX1 LE2 XX1 LE5 XX1 EX2 LE1 EX7 XX2
   EX2 XX2 EX3 XX2 LE1 XX6 EX1 XX5 LE5 EX2 XX2 EX7 XX3 EX5 XX11 LE10 XX1 LE1 XX2 LE1 XX1 LE38 XX1
   LE1 EX9 XX1 EX1 XX2 EX1 XX1 EX4 XX1 EX5 LE1 EX1 LE1 ST2 XX11 EX2 XX29 LE53 EX18 LE4 ST2 XX3 NU10
   XX4 EX1 LE3 XX30 LE48 EX20 LE2 XX1 LE1 XX8 NU10 XX166 LE47 EX7 XX2 EX9 XX1 ST2 XX5 ST15 LE4 EX2
   XX34 LE48 EX17 ST2 XX1 LE1 XX11 NU10 XX38 LE43 EX13 LE1 XX7 NU10 XX6 NU20 XX28 LE27 XX2 EX15 XX4
   NU10 XX2 ST3 XX1 LE7 XX185 LE44 EX15 XX101 UP32 LO32 NU10 XX21 LE8 XX2 LE1 XX2 LE8 XX1 LE2 XX1
   LE24 EX6 XX1 EX2 XX2 EX4 LE1 EX1 LE1 EX2 ST1 XX1 ST1 XX9 NU10 XX70 LE8 XX2 LE39 EX7 XX2 EX7 LE1
   XX1 LE1 EX1 XX27 LE1 EX10 LE40 EX7 LE1 EX4 XX3 ST2 XX3 EX1 XX8 LE1 EX11 LE46 EX16 XX1 ST2 LE1
   XX18 LE73 XX199 LE33 XX15 NU10 XX6 LE9 XX1 LE37 EX8 XX1 EX8 LE1 ST2 XX13 NU10 XX24 LE30 XX2 EX22
   XX1 EX14 XX73 LE7 XX1 LE2 XX1 LE38 EX6 XX3 EX1 XX1 EX2 XX1 EX7 LE1 EX1 XX8 NU10 XX6 LE6 XX1 LE2
   XX1 LE32 EX5 XX1 EX2 XX1 EX5 LE1 XX7 NU10 XX310 LE19 EX4 ST2 XX7 EX2 LE1 EX1 LE13 XX1 LE34 EX7
   XX3 EX5 ST2 XX11 NU10 EX1 XX85 LE1 XX79 LE922 XX102 LE111 XX17 LE196 XX2636 LE97 XX15 LE1072
   FO16 EX1 LE6 EX15 XX10 LE3995 XX5 LE583 XX6841 LE30 EX18 NU10 XX1734 LE569 XX7 LE31 XX1 NU10 XX4
   ST2 LE79 XX1 NU10 XX6 LE30 XX2 EX5 ST1 XX10 LE48 EX7 ST2 XX7 LE4 ST1 XX11 NU10 XX9 LE21 XX5 LE19
   XX432 LE45 XX1 ST2 NU10 XX198 UP32 LO32 XX24 ST1 XX103 LE75 XX4 EX1 LE1 EX55 XX7 EX4 LE13 XX64
   LE2 XX1 LE1 EX1 XX11 EX2 XX14 LE6136 XX8 LE1238 XX41 LE10 XX8935 LE4 XX1 LE7 XX1 LE2 XX1 LE291
   XX15 LE1 XX29 LE3 XX2 LE1 XX14 LE4 XX8 LE396 XX2308 LE107 XX5 LE13 XX3 LE9 XX7 LE10 XX3 EX2 ST1
   FO4 XX4172 NU10 XX518 EX46 XX2 EX23 XX542 EX5 XX3 EX6 FO8 EX8 XX2 EX7 XX30 EX4 XX148 EX3 XX443
   UP26 LO26 UP26 LO7 XX1 LO18 UP26 LO26 UP1 XX1 UP2 XX2 UP1 XX2 UP2 XX2 UP4 XX1 UP8 LO4 XX1 LO1
   XX1 LO7 XX1 LO11 UP26 LO26 UP2 XX1 UP4 XX2 UP8 XX1 UP7 XX1 LO26 UP2 XX1 UP4 XX1 UP5 XX1 UP1 XX3
   UP7 XX1 LO26 UP26 LO26 UP26 LO26 UP26 LO26 UP26 LO26 UP26 LO26 UP26 LO28 XX2 UP25 XX1 LO25 XX1
   LO6 UP25 XX1 LO25 XX1 LO6 UP25 XX1 LO25 XX1 LO6 UP25 XX1 LO25 XX1 LO6 UP25 XX1 LO25 XX1 LO6 UP1
   LO1 XX2 NU50 XX512 EX55 XX4 EX50 XX8 EX1 XX14 EX1 XX3 ST1 XX18 EX5 XX1 EX15 XX1104 LO10 LE1 LO20
   XX6 LO6 XX213 EX7 XX1 EX17 XX2 EX7 XX1 EX2 XX1 EX5 XX5 LO62 XX33 EX1 XX112 LE45 XX3 EX7 LE7 XX2
   NU10 XX4 LE1 XX321 LE30 EX1 XX17 LE44 EX4 NU10 XX470 LE28 EX4 NU10 XX214 LE30 EX2 LE1 NU10 XX485
   LE7 XX1 LE4 XX1 LE2 XX1 LE15 XX1 LE197 XX11 EX7 XX41 UP34 LO34 EX7 LE1 XX4 NU10 XX1190 LE4 XX1
   LE27 XX1 LE2 XX1 LE1 XX2 LE1 XX1 LE10 XX1 LE4 XX1 LE1 XX1 LE1 XX6 LE1 XX4 LE1 XX1 LE1 XX1 LE1
   XX1 LE3 XX1 LE2 XX1 LE1 XX2 LE1 XX1 LE1 XX1 LE1 XX1 LE1 XX1 LE1 XX1 LE2 XX1 LE1 XX2 LE4 XX1 LE7
   XX1 LE4 XX1 LE4 XX1 LE1 XX1 LE10 XX1 LE17 XX5 LE3 XX1 LE5 XX1 LE17 XX628 UP26 XX6 UP26 XX6 UP26
   XX1260 CL3 XX1399 NU10 XX1030 LE42720 XX32 LE4154 XX6 LE222 XX2 LE5762 XX14 LE7473 XX15 LE622
   XX2466 LE542 XX1506 LE4939 XX5 LE4192 XX711761 FO1 XX30 EX96 XX128 EX240 XX196112"

/-- Names of the classes for sentences. -/
def sentenceBreakNames : List (List String × String) := [
  (["at", "aterm"], "AT"),
  (["cl", "close"], "CL"),
  (["cr"], "CR"),
  (["ex", "extend"], "EX"),
  (["fo", "format"], "FO"),
  (["le", "oletter"], "LE"),
  (["lf"], "LF"),
  (["lo", "lower"], "LO"),
  (["nu", "numeric"], "NU"),
  (["sc", "scontinue"], "SC"),
  (["se", "sep"], "SE"),
  (["sp"], "SP"),
  (["st", "sterm"], "ST"),
  (["up", "upper"], "UP")]

/-- The code points of a class in one of the tables. -/
def ofBreakClass (runs label : String) : List (Nat × Nat) :=
  ((labelledRuns runs).filter (·.label = label)).map (·.range)

end RuleFilter.Unicode
