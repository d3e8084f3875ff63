/-!
Which characters are put together from two others, and in which order marks stand (Unicode 14).
`Seedkeeper.Text.Composition` reads these tables; the form they are written in is that of
`Seedkeeper.Text.Table`.
-/

namespace Seedkeeper.Text

/-- Composed characters, each as the two it is composed of. -/
def composedTable : List String := [
  "c0: 41.300 41.301 41.302 41.303 41.308 41.30a _ 43.327 45.300 45.301 45.302 45.308 49.300",
  "49.301 49.302 49.308 _ 4e.303 4f.300 4f.301 4f.302 4f.303 4f.308 _ _ 55.300 55.301 55.302",
  "55.308 59.301 _ _ 61.300 61.301 61.302 61.303 61.308 61.30a _ 63.327 65.300 65.301 65.302",
  "65.308 69.300 69.301 69.302 69.308 _ 6e.303 6f.300 6f.301 6f.302 6f.303 6f.308 _ _ 75.300",
  "75.301 75.302 75.308 79.301 _ 79.308 41.304 61.304 41.306 61.306 41.328 61.328 43.301 63.301",
  "43.302 63.302 43.307 63.307 43.30c 63.30c 44.30c 64.30c _ _ 45.304 65.304 45.306 65.306 45.307",
  "65.307 45.328 65.328 45.30c 65.30c 47.302 67.302 47.306 67.306 47.307 67.307 47.327 67.327",
  "48.302 68.302 _ _ 49.303 69.303 49.304 69.304 49.306 69.306 49.328 69.328 49.307 _ _ _ 4a.302",
  "6a.302 4b.327 6b.327 _ 4c.301 6c.301 4c.327 6c.327 4c.30c 6c.30c 143: 4e.301 6e.301 4e.327",
  "6e.327 4e.30c 6e.30c _ _ _ 4f.304 6f.304 4f.306 6f.306 4f.30b 6f.30b _ _ 52.301 72.301 52.327",
  "72.327 52.30c 72.30c 53.301 73.301 53.302 73.302 53.327 73.327 53.30c 73.30c 54.327 74.327",
  "54.30c 74.30c _ _ 55.303 75.303 55.304 75.304 55.306 75.306 55.30a 75.30a 55.30b 75.30b 55.328",
  "75.328 57.302 77.302 59.302 79.302 59.308 5a.301 7a.301 5a.307 7a.307 5a.30c 7a.30c 1a0: 4f.31b",
  "6f.31b 1af: 55.31b 75.31b 1cd: 41.30c 61.30c 49.30c 69.30c 4f.30c 6f.30c 55.30c 75.30c dc.304",
  "fc.304 dc.301 fc.301 dc.30c fc.30c dc.300 fc.300 _ c4.304 e4.304 226.304 227.304 c6.304 e6.304",
  "_ _ 47.30c 67.30c 4b.30c 6b.30c 4f.328 6f.328 1ea.304 1eb.304 1b7.30c 292.30c 6a.30c _ _ _",
  "47.301 67.301 _ _ 4e.300 6e.300 c5.301 e5.301 c6.301 e6.301 d8.301 f8.301 41.30f 61.30f 41.311",
  "61.311 45.30f 65.30f 45.311 65.311 49.30f 69.30f 49.311 69.311 4f.30f 6f.30f 4f.311 6f.311",
  "52.30f 72.30f 52.311 72.311 55.30f 75.30f 55.311 75.311 53.326 73.326 54.326 74.326 _ _ 48.30c",
  "68.30c 226: 41.307 61.307 45.327 65.327 d6.304 f6.304 d5.304 f5.304 4f.307 6f.307 22e.304",
  "22f.304 59.304 79.304 385: a8.301 391.301 _ 395.301 397.301 399.301 _ 39f.301 _ 3a5.301 3a9.301",
  "3ca.301 3aa: 399.308 3a5.308 3b1.301 3b5.301 3b7.301 3b9.301 3cb.301 3ca: 3b9.308 3c5.308",
  "3bf.301 3c5.301 3c9.301 3d3: 3d2.301 3d2.308 400: 415.300 415.308 _ 413.301 _ _ _ 406.308 40c:",
  "41a.301 418.300 423.306 419: 418.306 439: 438.306 450: 435.300 435.308 _ 433.301 _ _ _ 456.308",
  "45c: 43a.301 438.300 443.306 476: 474.30f 475.30f 4c1: 416.306 436.306 4d0: 410.306 430.306",
  "410.308 430.308 _ _ 415.306 435.306 _ _ 4d8.308 4d9.308 416.308 436.308 417.308 437.308 _ _",
  "418.304 438.304 418.308 438.308 41e.308 43e.308 _ _ 4e8.308 4e9.308 42d.308 44d.308 423.304",
  "443.304 423.308 443.308 423.30b 443.30b 427.308 447.308 _ _ 42b.308 44b.308 622: 627.653",
  "627.654 648.654 627.655 64a.654 6c0: 6d5.654 _ 6c1.654 6d3: 6d2.654 929: 928.93c 931: 930.93c _",
  "_ 933.93c 9cb: 9c7.9be 9c7.9d7 b48: b47.b56 _ _ b47.b3e b47.b57 b94: b92.bd7 bca: bc6.bbe",
  "bc7.bbe bc6.bd7 c48: c46.c56 cc0: cbf.cd5 cc7: cc6.cd5 cc6.cd6 _ cc6.cc2 cca.cd5 d4a: d46.d3e",
  "d47.d3e d46.d57 dda: dd9.dca _ dd9.dcf ddc.dca dd9.ddf 1026: 1025.102e 1b06: 1b05.1b35 _",
  "1b07.1b35 _ 1b09.1b35 _ 1b0b.1b35 _ 1b0d.1b35 _ _ _ 1b11.1b35 1b3b: 1b3a.1b35 _ 1b3c.1b35 _ _",
  "1b3e.1b35 1b3f.1b35 _ 1b42.1b35 1e00: 41.325 61.325 42.307 62.307 42.323 62.323 42.331 62.331",
  "c7.301 e7.301 44.307 64.307 44.323 64.323 44.331 64.331 44.327 64.327 44.32d 64.32d 112.300",
  "113.300 112.301 113.301 45.32d 65.32d 45.330 65.330 228.306 229.306 46.307 66.307 47.304 67.304",
  "48.307 68.307 48.323 68.323 48.308 68.308 48.327 68.327 48.32e 68.32e 49.330 69.330 cf.301",
  "ef.301 4b.301 6b.301 4b.323 6b.323 4b.331 6b.331 4c.323 6c.323 1e36.304 1e37.304 4c.331 6c.331",
  "4c.32d 6c.32d 4d.301 6d.301 4d.307 6d.307 4d.323 6d.323 4e.307 6e.307 4e.323 6e.323 4e.331",
  "6e.331 4e.32d 6e.32d d5.301 f5.301 d5.308 f5.308 14c.300 14d.300 14c.301 14d.301 50.301 70.301",
  "50.307 70.307 52.307 72.307 52.323 72.323 1e5a.304 1e5b.304 52.331 72.331 53.307 73.307 53.323",
  "73.323 15a.307 15b.307 160.307 161.307 1e62.307 1e63.307 54.307 74.307 54.323 74.323 54.331",
  "74.331 54.32d 74.32d 55.324 75.324 55.330 75.330 55.32d 75.32d 168.301 169.301 16a.308 16b.308",
  "56.303 76.303 56.323 76.323 57.300 77.300 57.301 77.301 57.308 77.308 57.307 77.307 57.323",
  "77.323 58.307 78.307 58.308 78.308 59.307 79.307 5a.302 7a.302 5a.323 7a.323 5a.331 7a.331",
  "68.331 74.308 77.30a 79.30a _ 17f.307 1ea0: 41.323 61.323 41.309 61.309 c2.301 e2.301 c2.300",
  "e2.300 c2.309 e2.309 c2.303 e2.303 1ea0.302 1ea1.302 102.301 103.301 102.300 103.300 102.309",
  "103.309 102.303 103.303 1ea0.306 1ea1.306 45.323 65.323 45.309 65.309 45.303 65.303 ca.301",
  "ea.301 ca.300 ea.300 ca.309 ea.309 ca.303 ea.303 1eb8.302 1eb9.302 49.309 69.309 49.323 69.323",
  "4f.323 6f.323 4f.309 6f.309 d4.301 f4.301 d4.300 f4.300 d4.309 f4.309 d4.303 f4.303 1ecc.302",
  "1ecd.302 1a0.301 1a1.301 1a0.300 1a1.300 1a0.309 1a1.309 1a0.303 1a1.303 1a0.323 1a1.323 55.323",
  "75.323 55.309 75.309 1af.301 1b0.301 1af.300 1b0.300 1af.309 1b0.309 1af.303 1b0.303 1af.323",
  "1b0.323 59.300 79.300 59.323 79.323 59.309 79.309 59.303 79.303 1f00: 3b1.313 3b1.314 1f00.300",
  "1f01.300 1f00.301 1f01.301 1f00.342 1f01.342 391.313 391.314 1f08.300 1f09.300 1f08.301",
  "1f09.301 1f08.342 1f09.342 3b5.313 3b5.314 1f10.300 1f11.300 1f10.301 1f11.301 _ _ 395.313",
  "395.314 1f18.300 1f19.300 1f18.301 1f19.301 _ _ 3b7.313 3b7.314 1f20.300 1f21.300 1f20.301",
  "1f21.301 1f20.342 1f21.342 397.313 397.314 1f28.300 1f29.300 1f28.301 1f29.301 1f28.342",
  "1f29.342 3b9.313 3b9.314 1f30.300 1f31.300 1f30.301 1f31.301 1f30.342 1f31.342 399.313 399.314",
  "1f38.300 1f39.300 1f38.301 1f39.301 1f38.342 1f39.342 3bf.313 3bf.314 1f40.300 1f41.300",
  "1f40.301 1f41.301 _ _ 39f.313 39f.314 1f48.300 1f49.300 1f48.301 1f49.301 _ _ 3c5.313 3c5.314",
  "1f50.300 1f51.300 1f50.301 1f51.301 1f50.342 1f51.342 _ 3a5.314 _ 1f59.300 _ 1f59.301 _",
  "1f59.342 3c9.313 3c9.314 1f60.300 1f61.300 1f60.301 1f61.301 1f60.342 1f61.342 3a9.313 3a9.314",
  "1f68.300 1f69.300 1f68.301 1f69.301 1f68.342 1f69.342 3b1.300 _ 3b5.300 _ 3b7.300 _ 3b9.300 _",
  "3bf.300 _ 3c5.300 _ 3c9.300 _ _ _ 1f00.345 1f01.345 1f02.345 1f03.345 1f04.345 1f05.345",
  "1f06.345 1f07.345 1f08.345 1f09.345 1f0a.345 1f0b.345 1f0c.345 1f0d.345 1f0e.345 1f0f.345",
  "1f20.345 1f21.345 1f22.345 1f23.345 1f24.345 1f25.345 1f26.345 1f27.345 1f28.345 1f29.345",
  "1f2a.345 1f2b.345 1f2c.345 1f2d.345 1f2e.345 1f2f.345 1f60.345 1f61.345 1f62.345 1f63.345",
  "1f64.345 1f65.345 1f66.345 1f67.345 1f68.345 1f69.345 1f6a.345 1f6b.345 1f6c.345 1f6d.345",
  "1f6e.345 1f6f.345 3b1.306 3b1.304 1f70.345 3b1.345 3ac.345 _ 3b1.342 1fb6.345 391.306 391.304",
  "391.300 _ 391.345 1fc1: a8.342 1f74.345 3b7.345 3ae.345 _ 3b7.342 1fc6.345 395.300 _ 397.300 _",
  "397.345 1fbf.300 1fbf.301 1fbf.342 3b9.306 3b9.304 3ca.300 _ _ _ 3b9.342 3ca.342 399.306",
  "399.304 399.300 _ _ 1ffe.300 1ffe.301 1ffe.342 3c5.306 3c5.304 3cb.300 _ 3c1.313 3c1.314",
  "3c5.342 3cb.342 3a5.306 3a5.304 3a5.300 _ 3a1.314 a8.300 1ff2: 1f7c.345 3c9.345 3ce.345 _",
  "3c9.342 1ff6.345 39f.300 _ 3a9.300 _ 3a9.345 219a: 2190.338 2192.338 21ae: 2194.338 21cd:",
  "21d0.338 21d4.338 21d2.338 2204: 2203.338 2209: 2208.338 _ _ 220b.338 2224: 2223.338 _ 2225.338",
  "2241: 223c.338 _ _ 2243.338 _ _ 2245.338 _ 2248.338 2260: 3d.338 _ 2261.338 226d: 224d.338",
  "3c.338 3e.338 2264.338 2265.338 _ _ 2272.338 2273.338 _ _ 2276.338 2277.338 2280: 227a.338",
  "227b.338 _ _ 2282.338 2283.338 _ _ 2286.338 2287.338 22ac: 22a2.338 22a8.338 22a9.338 22ab.338",
  "22e0: 227c.338 227d.338 2291.338 2292.338 22ea: 22b2.338 22b3.338 22b4.338 22b5.338 304c:",
  "304b.3099 _ 304d.3099 _ 304f.3099 _ 3051.3099 _ 3053.3099 _ 3055.3099 _ 3057.3099 _ 3059.3099 _",
  "305b.3099 _ 305d.3099 _ 305f.3099 _ 3061.3099 _ _ 3064.3099 _ 3066.3099 _ 3068.3099 3070:",
  "306f.3099 306f.309a _ 3072.3099 3072.309a _ 3075.3099 3075.309a _ 3078.3099 3078.309a _",
  "307b.3099 307b.309a 3094: 3046.3099 309e: 309d.3099 30ac: 30ab.3099 _ 30ad.3099 _ 30af.3099 _",
  "30b1.3099 _ 30b3.3099 _ 30b5.3099 _ 30b7.3099 _ 30b9.3099 _ 30bb.3099 _ 30bd.3099 _ 30bf.3099 _",
  "30c1.3099 _ _ 30c4.3099 _ 30c6.3099 _ 30c8.3099 30d0: 30cf.3099 30cf.309a _ 30d2.3099 30d2.309a",
  "_ 30d5.3099 30d5.309a _ 30d8.3099 30d8.309a _ 30db.3099 30db.309a 30f4: 30a6.3099 _ _ 30ef.3099",
  "30f0.3099 30f1.3099 30f2.3099 _ _ _ 30fd.3099 1109a: 11099.110ba _ 1109b.110ba 110ab:",
  "110a5.110ba 1112e: 11131.11127 11132.11127 1134b: 11347.1133e 11347.11357 114bb: 114b9.114ba",
  "114b9.114b0 _ 114b9.114bd 115ba: 115b8.115af 115b9.115af 11938: 11935.11930"]

/-- The place of marks in their order, as a code point; every other character has the place 0. -/
def markPlaceTable : List String := [
  "300: e6*15 e8 dc*4 e8 d8 dc*5 ca*2 dc*4 ca*2 dc*b 1*5 dc*4 e6*a dc*3 e6*3 dc*2 350: e6*3 dc*4",
  "e6 e8 dc*2 e6 e9 ea*2 e9 ea*2 e9 e6*d 483: e6*5 591: dc e6*4 dc e6*3 de dc e6*6 dc*6 e6*2 dc",
  "e6*2 de e4 e6 a b c d e f 10 11 12 13*2 14 15 16 5bf: 17 5c1: 18 19 5c4: e6 dc 5c7: 12 610:",
  "e6*8 1e 1f 20 64b: 1b 1c 1d 1e 1f 20 21 22 e6*2 dc*2 e6*5 dc e6*2 dc 670: 23 6d6: e6*7 6df:",
  "e6*4 dc e6 6e7: e6*2 6ea: dc e6*2 dc 711: 24 730: e6 dc e6*2 dc e6*2 dc*3 e6 dc*2 e6 dc e6*3 dc",
  "e6 dc e6 dc e6 dc e6*2 7eb: e6*7 dc e6 7fd: dc 816: e6*4 81b: e6*9 825: e6*3 829: e6*5 859:",
  "dc*3 898: e6 dc*3 e6*4 8ca: e6*5 dc*5 e6*e 8e3: dc e6*2 dc e6*2 dc e6*3 dc*3 1b 1c 1d e6*3 dc",
  "e6*2 dc*2 e6*5 93c: 7 94d: 9 951: e6 dc e6*2 9bc: 7 9cd: 9 9fe: e6 a3c: 7 a4d: 9 abc: 7 acd: 9",
  "b3c: 7 b4d: 9 bcd: 9 c3c: 7 c4d: 9 c55: 54 5b cbc: 7 ccd: 9 d3b: 9*2 d4d: 9 dca: 9 e38: 67*2 9",
  "e48: 6b*4 eb8: 76*2 9 ec8: 7a*4 f18: dc*2 f35: dc f37: dc f39: d8 f71: 81 82 f74: 84 f7a: 82*4",
  "f80: 82 f82: e6*2 9 f86: e6*2 fc6: dc 1037: 7 1039: 9*2 108d: dc 135d: e6*3 1714: 9*2 1734: 9",
  "17d2: 9 17dd: e6 18a9: e4 1939: de e6 dc 1a17: e6 dc 1a60: 9 1a75: e6*8 1a7f: dc 1ab0: e6*5",
  "dc*6 e6*2 dc 1abf: dc*2 e6*2 dc*2 e6*5 dc e6*4 1b34: 7 1b44: 9 1b6b: e6 dc e6*7 1baa: 9*2 1be6:",
  "7 1bf2: 9*2 1c37: 7 1cd0: e6*3 1cd4: 1 dc*5 e6*2 dc*4 e6 1ce2: 1*7 1ced: dc 1cf4: e6 1cf8: e6*2",
  "1dc0: e6*2 dc e6*7 dc e6*2 ea d6 dc ca e6*25 e8 e4*2 dc da e6 e9 dc e6 dc 20d0: e6*2 1*2 e6*4",
  "1*3 e6*2 20e1: e6 20e5: 1*2 e6 dc e6 1*2 dc*4 e6 2cef: e6*3 2d7f: 9 2de0: e6*20 302a: da e4 e8",
  "de e0*2 3099: 8*2 a66f: e6 a674: e6*a a69e: e6*2 a6f0: e6*2 a806: 9 a82c: 9 a8c4: 9 a8e0: e6*12",
  "a92b: dc*3 a953: 9 a9b3: 7 a9c0: 9 aab0: e6 aab2: e6*2 dc aab7: e6*2 aabe: e6*2 aac1: e6 aaf6:",
  "9 abed: 9 fb1e: 1a fe20: e6*7 dc*7 e6*2 101fd: dc 102e0: dc 10376: e6*5 10a0d: dc 10a0f: e6",
  "10a38: e6 1 dc 10a3f: 9 10ae5: e6 dc 10d24: e6*4 10eab: e6*2 10f46: dc*2 e6*3 dc e6 dc*4 10f82:",
  "e6 dc e6 dc 11046: 9 11070: 9 1107f: 9 110b9: 9 7 11100: e6*3 11133: 9*2 11173: 7 111c0: 9",
  "111ca: 7 11235: 9 7 112e9: 7 9 1133b: 7*2 1134d: 9 11366: e6*f 11442: 9 11446: 7 1145e: e6",
  "114c2: 9 7 115bf: 9 7 1163f: 9 116b6: 9 7 1172b: 9 11839: 9 7 1193d: 9*2 11943: 7 119e0: 9",
  "11a34: 9 11a47: 9 11a99: 9 11c3f: 9 11d42: 7 11d44: 9*2 11d97: 9 16af0: 1*5 16b30: e6*7 16ff0:",
  "6*2 1bc9e: 1 1d165: d8*2 1*3 1d16d: e2 d8*5 1d17b: dc*8 1d185: e6*5 dc*2 1d1aa: e6*4 1d242:",
  "e6*3 1e000: e6*2b 1e130: e6*7 1e2ae: e6 1e2ec: e6*4 1e8d0: dc*7 1e944: e6*6 7"]

end Seedkeeper.Text
