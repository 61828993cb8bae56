import Retouch.Unicode.Runs

/-! Letters that differ only in case.
Case folding maps every letter of a family to the least one, so two code points belong together
exactly when they fold to the same value. -/
namespace Retouch.Unicode

/-- The letters that are not the least of their family, with the least one as target. -/
def foldingTable : String :=
  "61-7A>41 E0-F6>C0 F8-FE>D8 101-12F/2>100 133-137/2>132 13A-148/2>139 14B-177/2>14A 178>FF
  17A-17E/2>179 17F>53 183>182 185>184 188>187 18C>18B 192>191 199>198 1A1-1A5/2>1A0 1A8>1A7
  1AD>1AC 1B0>1AF 1B4>1B3 1B6>1B5 1B9>1B8 1BD>1BC 1C5>1C4 1C6>1C4 1C8>1C7 1C9>1C7 1CB>1CA 1CC>1CA
  1CE-1DC/2>1CD 1DD>18E 1DF-1EF/2>1DE 1F2>1F1 1F3>1F1 1F5>1F4 1F6>195 1F7>1BF 1F9-21F/2>1F8
  220>19E 223-233/2>222 23C>23B 23D>19A 242>241 243>180 247-24F/2>246 253>181 254>186 256-257>189
  259>18F 25B>190 260>193 263>194 268>197 269>196 26F>19C 272>19D 275>19F 280>1A6 283>1A9 288>1AE
  289>244 28A-28B>1B1 28C>245 292>1B7 371>370 373>372 377>376 399>345 39C>B5 3AC>386 3AD-3AF>388
  3B1-3B8>391 3B9>345 3BA-3BB>39A 3BC>B5 3BD-3C1>39D 3C2>3A3 3C3-3CB>3A3 3CC>38C 3CD-3CE>38E
  3D0>392 3D1>398 3D5>3A6 3D6>3A0 3D7>3CF 3D9-3EF/2>3D8 3F0>39A 3F1>3A1 3F3>37F 3F4>398 3F5>395
  3F8>3F7 3F9>3F2 3FB>3FA 3FD-3FF>37B 430-44F>410 450-45F>400 461-481/2>460 48B-4BF/2>48A
  4C2-4CE/2>4C1 4CF>4C0 4D1-52F/2>4D0 561-586>531 13F8-13FD>13F0 1C80>412 1C81>414 1C82>41E
  1C83-1C84>421 1C85>422 1C86>42A 1C87>462 1C8A>1C89 1C90-1CBA>10D0 1CBD-1CBF>10FD
  1E01-1E95/2>1E00 1E9B>1E60 1E9E>DF 1EA1-1EFF/2>1EA0 1F08-1F0F>1F00 1F18-1F1D>1F10 1F28-1F2F>1F20
  1F38-1F3F>1F30 1F48-1F4D>1F40 1F59-1F5F/2>1F51 1F68-1F6F>1F60 1F88-1F8F>1F80 1F98-1F9F>1F90
  1FA8-1FAF>1FA0 1FB8-1FB9>1FB0 1FBA-1FBB>1F70 1FBC>1FB3 1FBE>345 1FC8-1FCB>1F72 1FCC>1FC3
  1FD3>390 1FD8-1FD9>1FD0 1FDA-1FDB>1F76 1FE3>3B0 1FE8-1FE9>1FE0 1FEA-1FEB>1F7A 1FEC>1FE5
  1FF8-1FF9>1F78 1FFA-1FFB>1F7C 1FFC>1FF3 2126>3A9 212A>4B 212B>C5 214E>2132 2170-217F>2160
  2184>2183 24D0-24E9>24B6 2C30-2C5F>2C00 2C61>2C60 2C62>26B 2C63>1D7D 2C64>27D 2C65>23A 2C66>23E
  2C68-2C6C/2>2C67 2C6D>251 2C6E>271 2C6F>250 2C70>252 2C73>2C72 2C76>2C75 2C7E-2C7F>23F
  2C81-2CE3/2>2C80 2CEC>2CEB 2CEE>2CED 2CF3>2CF2 2D00-2D25>10A0 2D27>10C7 2D2D>10CD
  A641-A649/2>A640 A64A>1C88 A64B>1C88 A64D-A66D/2>A64C A681-A69B/2>A680 A723-A72F/2>A722
  A733-A76F/2>A732 A77A>A779 A77C>A77B A77D>1D79 A77F-A787/2>A77E A78C>A78B A78D>265 A791>A790
  A793>A792 A797-A7A9/2>A796 A7AA>266 A7AB>25C A7AC>261 A7AD>26C A7AE>26A A7B0>29E A7B1>287
  A7B2>29D A7B5-A7C3/2>A7B4 A7C4>A794 A7C5>282 A7C6>1D8E A7C8>A7C7 A7CA>A7C9 A7CB>264
  A7CD-A7DB/2>A7CC A7DC>19B A7F6>A7F5 AB53>A7B3 AB70-ABBF>13A0 FB06>FB05 FF41-FF5A>FF21
  10428-1044F>10400 104D8-104FB>104B0 10597-105A1>10570 105A3-105B1>1057C 105B3-105B9>1058C
  105BB-105BC>10594 10CC0-10CF2>10C80 10D70-10D85>10D50 118C0-118DF>118A0 16E60-16E7F>16E40
  16EBB-16ED3>16EA0 1E922-1E943>1E900"

def foldingRuns : List Run := parseRuns foldingTable

/-- The least code point of the family of a code point. In ASCII only the small letters fold. -/
def fold (c : Nat) : Nat :=
  if c < 0x80 then (if 0x61 ≤ c && c ≤ 0x7A then c - 0x20 else c)
  else
    match foldingRuns.find? fun r => r.first ≤ c && c ≤ r.last && (c - r.first) % r.stride == 0 with
    | some r => r.target + (c - r.first)
    | none => c

/-- All pairs of a code point that is not the least of its family and the least one. -/
def foldingPairs : List (Nat × Nat) :=
  foldingRuns.flatMap fun r => r.members.map fun m => (m, r.target + (m - r.first))

end Retouch.Unicode

namespace Retouch

/-- The set with every family that it meets. -/
def CharSet.foldClosure (s : CharSet) : CharSet :=
  let least :=
    Unicode.foldingPairs.filterMap fun p => if s.contains p.1 then some (p.2, p.2) else none
  let s := CharSet.union s ⟨least⟩
  let family :=
    Unicode.foldingPairs.filterMap fun p => if s.contains p.2 then some (p.1, p.1) else none
  CharSet.union s ⟨family⟩

end Retouch
