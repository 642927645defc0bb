import TemplateShare.Text.Runs

/-! # The characters of domain names as they count

Domain names may be written with any characters that stand for those of the name: with capital
letters, with other forms of a letter or a digit, with other full stops. The table has all that is
not in ASCII. In its words, `v` is a valid character, `x` one that is not allowed and `i` one that
is ignored; `p` and `q` are letters of which the capital one stands before the small one, at an even
or at an odd place; a number behind a sign is the distance to what counts instead, and numbers
between full stops are what counts instead.

* **`Idna.mapChar`**: what counts instead of a character. -/

namespace TemplateShare.Url.Idna

open Text (Runs)

/-- What counts instead of a character. -/
inductive Status where
  | valid
  | disallowed
  | ignored
  /-- The next character instead of one at an even or an odd place. -/
  | paired (isOdd : Bool)
  | shifted (distance : Int)
  | mapped (codes : List Nat)

/-- What counts instead of a character, as it is written in the table. -/
def Status.ofText : List Char → Status
  | ['v'] => .valid
  | ['x'] => .disallowed
  | ['i'] => .ignored
  | ['p'] => .paired false
  | ['q'] => .paired true
  | '+' :: s => .shifted (Text.hexNumber s)
  | '-' :: s => .shifted (-Text.hexNumber s)
  | s => .mapped (Text.hexNumbers s)

/-- The table, from the end of ASCII on. -/
def statusLines : List String := [
  "20:x 20 7:v 20.308 v 61 2:v i v 20.304 2:v 2:-80 20.301 3bc 2:v 20.327 31 6f v 31.2044.34",
  "31.2044.32 33.2044.34 v 17:+20 v 7:+20 21:v 30:p 69.307 v 69.6a 69.6a 4:p v 6:q 6c.b7 6c.b7 8:q",
  "2bc.6e 2e:p ff 6:q 73 v 253 4:p 254 188 v 2:+cd 18c 2:v 1dd 259 25b 192 v 260 263 v 269 268 199",
  "3:v 26f 272 v 275 6:p 280 1a8 v 283 2:v 1ad v 288 1b0 v 2:+d9 4:q 292 1b9 3:v 1bd 7:v 64.17e",
  "64.17e 64.17e 6c.6a 6c.6a 6c.6a 6e.6a 6e.6a 6e.6a 10:q v 12:p v 64.7a 64.7a 64.7a 1f5 v 195 1bf",
  "28:p 19e v 12:p 6:v 2c65 23c v 19a 2c66 2:v 242 v 180 289 28c a:p 60:v 68 266 6a 72 279 27b 281",
  "77 79 1f:v 20.306 20.307 20.30a 20.328 20.303 20.30b 2:v 263 6c 73 78 295 5b:v 2:-40 v 313",
  "308.301 3b9 9:v i 20:v 4:p 2b9 v 377 v 2:x 20.3b9 3:v 3b 3f3 4:x 20.301 20.308.301 3ac b7 3:+25",
  "x 3cc x 2:+3f v 11:+20 x 9:+20 23:v 3d7 3b2 3b8 3c5 3cd 3cb 3c6 3c0 v 18:p 3ba 3c1 3c3 v 3b8",
  "3b5 v 3f8 v 3c3 3fb 2:v 3:-82 10:+50 20:+20 30:v 22:p 8:v 36:p 4cf e:q v 60:p x 26:+30 2:x 2e:v",
  "565.582 3:v 2:x 3:v x 37:v 8:x 1b:v 4:x 6:v 11:x 16:v x 58:v 627.674 648.674 6c7.674 64a.674",
  "64:v x 30:v 2:x 3b:v 2:x 65:v e:x 3b:v 2:x 31:v 2:x f:v x 1c:v 2:x v x b:v 5:x 20:v 7:x 4b:v x",
  "75:v 915.93c 916.93c 917.93c 91c.93c 921.93c 922.93c 92b.93c 92f.93c 24:v x 8:v 2:x 2:v 2:x",
  "16:v x 7:v x v 3:x 4:v 2:x 9:v 2:x 2:v 2:x 4:v 8:x v 4:x 9a1.9bc 9a2.9bc x 9af.9bc 4:v 2:x 19:v",
  "2:x 3:v x 6:v 4:x 2:v 2:x 16:v x 7:v x v a32.a3c x v a38.a3c x 2:v 2:x v x 5:v 4:x 2:v 2:x 3:v",
  "3:x v 7:x a16.a3c a17.a3c a1c.a3c v x a2b.a3c 7:x 11:v a:x 3:v x 9:v x 3:v x 16:v x 7:v x 2:v x",
  "5:v 2:x a:v x 3:v x 3:v 2:x v f:x 4:v 2:x c:v 7:x 7:v x 3:v x 8:v 2:x 2:v 2:x 16:v x 7:v x 2:v",
  "x 5:v 2:x 9:v 2:x 2:v 2:x 3:v 7:x 3:v 4:x b21.b3c b22.b3c x 5:v 2:x 12:v a:x 2:v x 6:v 3:x 3:v",
  "x 4:v 3:x 2:v x v x 2:v 3:x 2:v 3:x 3:v 3:x c:v 4:x 5:v 3:x 3:v x 4:v 2:x v 6:x v e:x 15:v 5:x",
  "d:v x 3:v x 17:v x 10:v 2:x 9:v x 3:v x 4:v 7:x 2:v x 3:v x 2:v 2:x 4:v 2:x a:v 7:x 16:v x 3:v",
  "x 17:v x a:v x 5:v 2:x 9:v x 3:v x 4:v 7:x 2:v 5:x 3:v x 4:v 2:x a:v x 3:v c:x d:v x 3:v x 33:v",
  "x 3:v x 6:v 4:x 10:v 2:x 1a:v x 3:v x 12:v 3:x 18:v x 9:v x v 2:x 7:v 3:x v 4:x 6:v x v x 8:v",
  "6:x a:v 2:x 3:v c:x 32:v e4d.e32 7:v 4:x 1d:v 25:x 2:v x v x 5:v x 18:v x v x c:v ecd.eb2 a:v",
  "2:x 5:v x v x 7:v x a:v 2:x eab.e99 eab.ea1 2:v 20:x c:v f0b 36:v f42.fb7 4:v x 4:v f4c.fb7 4:v",
  "f51.fb7 4:v f56.fb7 4:v f5b.fb7 c:v f40.fb5 3:v 4:x 2:v f71.f72 v f71.f74 fb2.f80 fb2.f71.f80",
  "fb3.f80 fb3.f71.f80 7:v f71.f80 11:v f92.fb7 4:v x 4:v f9c.fb7 4:v fa1.fb7 4:v fa6.fb7 4:v",
  "fab.fb7 c:v f90.fb5 3:v x f:v x d:v 25:x a0:v 26:+1c60 x 2d27 5:x 2d2d 2:x 2c:v 10dc 62:v 2:i",
  "e8:v x 4:v 2:x 7:v x v x 4:v 2:x 29:v x 4:v 2:x 21:v x 4:v 2:x 7:v x v x 4:v 2:x f:v x 39:v x",
  "4:v 2:x 43:v 2:x 20:v 3:x 1a:v 6:x 56:v 2:x 6:-8 2:x 280:v x 1c:v 3:x 59:v 7:x 16:v 9:x 18:v",
  "9:x 14:v c:x d:v x 3:v x 2:v c:x 34:v 2:i 28:v 2:x a:v 6:x a:v 6:x b:v 5:i a:v 6:x 59:v 7:x",
  "2b:v 5:x 46:v a:x 1f:v x c:v 4:x c:v 4:x v 3:x 2a:v 2:x 5:v b:x 2c:v 4:x 1a:v 6:x b:v 3:x 3e:v",
  "2:x 41:v x 1d:v 2:x b:v 6:x a:v 6:x e:v 2:x 2e:v 2:x c:v 14:x 4d:v x a6:v 8:x 3c:v 3:x f:v 3:x",
  "33:v 432 434 43e 2:-1842 442 44a 463 a64b 1c8a v 5:x 2b:-bc0 2:x 3:-bc0 8:v 8:x 2b:v 5:x 2c:v",
  "61 e6 62 v 2:-1ccc 1dd 8:-1ccc v 6f 223 70 72 2:-1ccc 77 61 2:-1af4 1d02 62 2:-1ce4 259 2:-1af0",
  "67 v 6b 6d 14b 6f 254 2:-3e 70 2:-1ce3 1d1d 26f 76 1d25 3:-19ab 2:-199a 69 72 2:-1cef 2:-19b4",
  "3c1 2:-19a3 d:v 43d 22:v 252 63 255 f0 25c 66 25f 261 265 3:-1b3c 1d7b 29d 26d 1d85 29f 271 270",
  "4:-1b3c 278 2:-1b31 1ab 2:-1b2d 1d1c 2:-1b2e 7a 3:-1b2c 3b8 40:v 96:p 4:v 61.2be 1e61 2:v df v",
  "60:p 8:v 8:-8 6:v 2:x 6:-8 2:x 8:v 8:-8 8:v 8:-8 6:v 2:x 6:-8 2:x 8:v x 1f51 x 1f53 x 1f55 x",
  "1f57 8:v 8:-8 v 3ac v 3ad v 3ae v 3af v 3cc v 3cd v 3ce 2:x 1f00.3b9 1f01.3b9 1f02.3b9 1f03.3b9",
  "1f04.3b9 1f05.3b9 1f06.3b9 1f07.3b9 1f00.3b9 1f01.3b9 1f02.3b9 1f03.3b9 1f04.3b9 1f05.3b9",
  "1f06.3b9 1f07.3b9 1f20.3b9 1f21.3b9 1f22.3b9 1f23.3b9 1f24.3b9 1f25.3b9 1f26.3b9 1f27.3b9",
  "1f20.3b9 1f21.3b9 1f22.3b9 1f23.3b9 1f24.3b9 1f25.3b9 1f26.3b9 1f27.3b9 1f60.3b9 1f61.3b9",
  "1f62.3b9 1f63.3b9 1f64.3b9 1f65.3b9 1f66.3b9 1f67.3b9 1f60.3b9 1f61.3b9 1f62.3b9 1f63.3b9",
  "1f64.3b9 1f65.3b9 1f66.3b9 1f67.3b9 2:v 1f70.3b9 3b1.3b9 3ac.3b9 x v 1fb6.3b9 2:-8 1f70 3ac",
  "3b1.3b9 20.313 3b9 20.313 20.342 20.308.342 1f74.3b9 3b7.3b9 3ae.3b9 x v 1fc6.3b9 1f72 3ad 1f74",
  "3ae 3b7.3b9 20.313.300 20.313.301 20.313.342 3:v 390 2:x 2:v 2:-8 1f76 3af x 20.314.300",
  "20.314.301 20.314.342 3:v 3b0 4:v 2:-8 1f7a 3cd 1fe5 20.308.300 20.308.301 60 2:x 1f7c.3b9",
  "3c9.3b9 3ce.3b9 x v 1ff6.3b9 1f78 3cc 1f7c 3ce 3c9.3b9 20.301 20.314 x 20 20 20 20 20 20 20 20",
  "20 20 20 i 2:v 2:x v 2010 5:v 20.333 c:v 3:x v 7:x 20 3:v 2032.2032 2032.2032.2032 v 2035.2035",
  "2035.2035.2035 4:v 21.21 v 20.305 8:v 3f.3f 3f.21 21.3f d:v 2032.2032.2032.2032 7:v 20 5:i 5:x",
  "6:i 30 69 2:x 6:-2040 2b 2212 3d 2:-2055 6e a:-2050 2b 2212 3d 2:-2065 x 61 65 6f 78 259 68",
  "4:-202b 70 2:-2028 3:x 8:v 72.73 19:v e:x 21:v f:x 61.2f.63 61.2f.73 63 b0.63 v 63.2f.6f",
  "63.2f.75 25b v b0.66 2:-20a3 68 68 68 127 69 69 6c 6c v 6e 6e.6f 2:v 3:-20a9 72 72 2:v 73.6d",
  "74.65.6c 74.6d v 7a v 3c9 v 7a v 6b e5 2:-20ca v 65 2:-20cb 214e 6d 6f 4:-1b65 69 v 66.61.78",
  "3c0 3b3 3b3 3c0 2211 4:v 64 2:-20e2 2:-20df 6:v 31.2044.37 31.2044.39 31.2044.31.30 31.2044.33",
  "32.2044.33 31.2044.35 32.2044.35 33.2044.35 34.2044.35 31.2044.36 35.2044.36 31.2044.38",
  "33.2044.38 35.2044.38 37.2044.38 31.2044 69 69.69 69.69.69 69.76 76 76.69 76.69.69 76.69.69.69",
  "69.78 78 78.69 78.69.69 6c 2:-210a 6d 69 69.69 69.69.69 69.76 76 76.69 76.69.69 76.69.69.69",
  "69.78 78 78.69 78.69.69 6c 2:-211a 6d 3:v 2184 5:v 30.2044.33 2:v 4:x 9c:v 222b.222b",
  "222b.222b.222b v 222e.222e 222e.222e.222e f8:v 2:+cdf ff:v 16:x b:v 15:x 9:-242f 31.30 31.31",
  "31.32 31.33 31.34 31.35 31.36 31.37 31.38 31.39 32.30 28.31.29 28.32.29 28.33.29 28.34.29",
  "28.35.29 28.36.29 28.37.29 28.38.29 28.39.29 28.31.30.29 28.31.31.29 28.31.32.29 28.31.33.29",
  "28.31.34.29 28.31.35.29 28.31.36.29 28.31.37.29 28.31.38.29 28.31.39.29 28.32.30.29 14:x",
  "28.61.29 28.62.29 28.63.29 28.64.29 28.65.29 28.66.29 28.67.29 28.68.29 28.69.29 28.6a.29",
  "28.6b.29 28.6c.29 28.6d.29 28.6e.29 28.6f.29 28.70.29 28.71.29 28.72.29 28.73.29 28.74.29",
  "28.75.29 28.76.29 28.77.29 28.78.29 28.79.29 28.7a.29 1a:-2455 1a:-246f 30 521:v",
  "222b.222b.222b.222b 67:v 3a.3a.3d 3d.3d 3d.3d.3d 65:v 2add.338 97:v 2:x 8a:v 30:+30 30:v 2c61 v",
  "26b 1d7d 27d 2:v 6:q 251 271 250 252 v 2c73 2:v 2c76 6:v 6a 76 2:-2a3f 64:p 7:v 4:q 3:v 2cf3 v",
  "5:x 2d:v x v 5:x v 2:x 38:v 7:x 2d61 v e:x 18:v 9:x 7:v x 7:v x 7:v x 7:v x 7:v x 7:v x 7:v x",
  "7:v x 7e:v 22:x 1a:v x 4:v 6bcd 53:v 9f9f c:x 4e00 4e28 4e36 4e3f 4e59 4e85 4e8c 4ea0 4eba 513f",
  "5165 516b 5182 5196 51ab 51e0 51f5 5200 529b 52f9 5315 531a 5338 5341 535c 5369 5382 53b6 53c8",
  "53e3 56d7 571f 58eb 5902 590a 5915 5927 5973 5b50 5b80 5bf8 5c0f 5c22 5c38 5c6e 5c71 5ddb 5de5",
  "5df1 5dfe 5e72 5e7a 5e7f 5ef4 5efe 5f0b 5f13 5f50 5f61 5f73 5fc3 6208 6236 624b 652f 6534 6587",
  "6597 65a4 65b9 65e0 65e5 66f0 6708 6728 6b20 6b62 6b79 6bb3 6bcb 6bd4 6bdb 6c0f 6c14 6c34 706b",
  "722a 7236 723b 723f 7247 7259 725b 72ac 7384 7389 74dc 74e6 7518 751f 7528 7530 758b 7592 7676",
  "767d 76ae 76bf 76ee 77db 77e2 77f3 793a 79b8 79be 7a74 7acb 7af9 7c73 7cf8 7f36 7f51 7f8a 7fbd",
  "8001 800c 8012 8033 807f 8089 81e3 81ea 81f3 81fc 820c 821b 821f 826e 8272 8278 864d 866b 8840",
  "884c 8863 897e 898b 89d2 8a00 8c37 8c46 8c55 8c78 8c9d 8d64 8d70 8db3 8eab 8eca 8f9b 8fb0 8fb5",
  "9091 9149 91c6 91cc 91d1 9577 9580 961c 96b6 96b9 96e8 9751 975e 9762 9769 97cb 97ed 97f3 9801",
  "98a8 98db 98df 9996 9999 99ac 9aa8 9ad8 9adf 9b25 9b2f 9b32 9b3c 9b5a 9ce5 9e75 9e7f 9ea5 9ebb",
  "9ec3 9ecd 9ed1 9ef9 9efd 9f0e 9f13 9f20 9f3b 9f4a 9f52 9f8d 9f9c 9fa0 2a:x 20 v 2e 33:v 3012 v",
  "5341 2:+230b 5:v x 56:v 2:x 2:v 20.3099 20.309a 2:v 3088.308a 5f:v 30b3.30c8 5:x 2b:v x 2:-2031",
  "11aa 1102 2:-1f89 3:-2034 6:-1f8a 111a 3:-203b 1121 a:-203c 15:-1fee i 2:-2051 2:-1fa0 11cc",
  "11ce 11d3 11d7 11d9 111c 11dd 11df 2:-2054 1120 2:-2052 1127 1129 5:-204d 1132 1136 1140 1147",
  "114c 2:-1f91 3:-202d 2:-2003 1188 2:-1ff9 1194 119e 11a1 x 2:v 4e00 4e8c 4e09 56db 4e0a 4e2d",
  "4e0b 7532 4e59 4e19 4e01 5929 5730 4eba 46:v a:x 10:v 28.1100.29 28.1102.29 28.1103.29",
  "28.1105.29 28.1106.29 28.1107.29 28.1109.29 28.110b.29 28.110c.29 28.110e.29 28.110f.29",
  "28.1110.29 28.1111.29 28.1112.29 28.ac00.29 28.b098.29 28.b2e4.29 28.b77c.29 28.b9c8.29",
  "28.bc14.29 28.c0ac.29 28.c544.29 28.c790.29 28.cc28.29 28.ce74.29 28.d0c0.29 28.d30c.29",
  "28.d558.29 28.c8fc.29 28.c624.c804.29 28.c624.d6c4.29 x 28.4e00.29 28.4e8c.29 28.4e09.29",
  "28.56db.29 28.4e94.29 28.516d.29 28.4e03.29 28.516b.29 28.4e5d.29 28.5341.29 28.6708.29",
  "28.706b.29 28.6c34.29 28.6728.29 28.91d1.29 28.571f.29 28.65e5.29 28.682a.29 28.6709.29",
  "28.793e.29 28.540d.29 28.7279.29 28.8ca1.29 28.795d.29 28.52b4.29 28.4ee3.29 28.547c.29",
  "28.5b66.29 28.76e3.29 28.4f01.29 28.8cc7.29 28.5354.29 28.796d.29 28.4f11.29 28.81ea.29",
  "28.81f3.29 554f 5e7c 6587 7b8f 8:v 70.74.65 32.31 32.32 32.33 32.34 32.35 32.36 32.37 32.38",
  "32.39 33.30 33.31 33.32 33.33 33.34 33.35 1100 2:-215f 3:-215e 1109 2:-215c 5:-215b ac00 b098",
  "b2e4 b77c b9c8 bc14 c0ac c544 c790 cc28 ce74 d0c0 d30c d558 cc38.ace0 c8fc.c758 c6b0 v 4e00",
  "4e8c 4e09 56db 4e94 516d 4e03 516b 4e5d 5341 6708 706b 6c34 6728 91d1 571f 65e5 682a 6709 793e",
  "540d 7279 8ca1 795d 52b4 79d8 7537 5973 9069 512a 5370 6ce8 9805 4f11 5199 6b63 4e0a 4e2d 4e0b",
  "5de6 53f3 533b 5b97 5b66 76e3 4f01 8cc7 5354 591c 33.36 33.37 33.38 33.39 34.30 34.31 34.32",
  "34.33 34.34 34.35 34.36 34.37 34.38 34.39 35.30 31.6708 32.6708 33.6708 34.6708 35.6708 36.6708",
  "37.6708 38.6708 39.6708 31.30.6708 31.31.6708 31.32.6708 68.67 65.72.67 65.76 6c.74.64 30a2",
  "30a4 30a6 30a8 2:-22a 30ad 30af 30b1 30b3 30b5 30b7 30b9 30bb 30bd 30bf 30c1 30c4 30c6 30c8",
  "6:-21a 30d2 30d5 30d8 30db 5:-210 30e4 30e6 6:-20d 4:-20c 4ee4.548c 30a2.30d1.30fc.30c8",
  "30a2.30eb.30d5.30a1 30a2.30f3.30da.30a2 30a2.30fc.30eb 30a4.30cb.30f3.30b0 30a4.30f3.30c1",
  "30a6.30a9.30f3 30a8.30b9.30af.30fc.30c9 30a8.30fc.30ab.30fc 30aa.30f3.30b9 30aa.30fc.30e0",
  "30ab.30a4.30ea 30ab.30e9.30c3.30c8 30ab.30ed.30ea.30fc 30ac.30ed.30f3 30ac.30f3.30de 30ae.30ac",
  "30ae.30cb.30fc 30ad.30e5.30ea.30fc 30ae.30eb.30c0.30fc 30ad.30ed 30ad.30ed.30b0.30e9.30e0",
  "30ad.30ed.30e1.30fc.30c8.30eb 30ad.30ed.30ef.30c3.30c8 30b0.30e9.30e0 30b0.30e9.30e0.30c8.30f3",
  "30af.30eb.30bc.30a4.30ed 30af.30ed.30fc.30cd 30b1.30fc.30b9 30b3.30eb.30ca 30b3.30fc.30dd",
  "30b5.30a4.30af.30eb 30b5.30f3.30c1.30fc.30e0 30b7.30ea.30f3.30b0 30bb.30f3.30c1 30bb.30f3.30c8",
  "30c0.30fc.30b9 30c7.30b7 30c9.30eb 30c8.30f3 30ca.30ce 30ce.30c3.30c8 30cf.30a4.30c4",
  "30d1.30fc.30bb.30f3.30c8 30d1.30fc.30c4 30d0.30fc.30ec.30eb 30d4.30a2.30b9.30c8.30eb",
  "30d4.30af.30eb 30d4.30b3 30d3.30eb 30d5.30a1.30e9.30c3.30c9 30d5.30a3.30fc.30c8",
  "30d6.30c3.30b7.30a7.30eb 30d5.30e9.30f3 30d8.30af.30bf.30fc.30eb 30da.30bd 30da.30cb.30d2",
  "30d8.30eb.30c4 30da.30f3.30b9 30da.30fc.30b8 30d9.30fc.30bf 30dd.30a4.30f3.30c8 30dc.30eb.30c8",
  "30db.30f3 30dd.30f3.30c9 30db.30fc.30eb 30db.30fc.30f3 30de.30a4.30af.30ed 30de.30a4.30eb",
  "30de.30c3.30cf 30de.30eb.30af 30de.30f3.30b7.30e7.30f3 30df.30af.30ed.30f3 30df.30ea",
  "30df.30ea.30d0.30fc.30eb 30e1.30ac 30e1.30ac.30c8.30f3 30e1.30fc.30c8.30eb 30e4.30fc.30c9",
  "30e4.30fc.30eb 30e6.30a2.30f3 30ea.30c3.30c8.30eb 30ea.30e9 30eb.30d4.30fc 30eb.30fc.30d6.30eb",
  "30ec.30e0 30ec.30f3.30c8.30b2.30f3 30ef.30c3.30c8 30.70b9 31.70b9 32.70b9 33.70b9 34.70b9",
  "35.70b9 36.70b9 37.70b9 38.70b9 39.70b9 31.30.70b9 31.31.70b9 31.32.70b9 31.33.70b9 31.34.70b9",
  "31.35.70b9 31.36.70b9 31.37.70b9 31.38.70b9 31.39.70b9 32.30.70b9 32.31.70b9 32.32.70b9",
  "32.33.70b9 32.34.70b9 68.70.61 64.61 61.75 62.61.72 6f.76 70.63 64.6d 64.6d.32 64.6d.33 69.75",
  "5e73.6210 662d.548c 5927.6b63 660e.6cbb 682a.5f0f.4f1a.793e 70.61 6e.61 3bc.61 6d.61 6b.61",
  "6b.62 6d.62 67.62 63.61.6c 6b.63.61.6c 70.66 6e.66 3bc.66 3bc.67 6d.67 6b.67 68.7a 6b.68.7a",
  "6d.68.7a 67.68.7a 74.68.7a 3bc.6c 6d.6c 64.6c 6b.6c 66.6d 6e.6d 3bc.6d 6d.6d 63.6d 6b.6d",
  "6d.6d.32 63.6d.32 6d.32 6b.6d.32 6d.6d.33 63.6d.33 6d.33 6b.6d.33 6d.2215.73 6d.2215.73.32",
  "70.61 6b.70.61 6d.70.61 67.70.61 72.61.64 72.61.64.2215.73 72.61.64.2215.73.32 70.73 6e.73",
  "3bc.73 6d.73 70.76 6e.76 3bc.76 6d.76 6b.76 6d.76 70.77 6e.77 3bc.77 6d.77 6b.77 6d.77 6b.3c9",
  "6d.3c9 x 62.71 63.63 63.64 63.2215.6b.67 x 64.62 67.79 68.61 68.70 69.6e 6b.6b 6b.6d 6b.74",
  "6c.6d 6c.6e 6c.6f.67 6c.78 6d.62 6d.69.6c 6d.6f.6c 70.68 x 70.70.6d 70.72 73.72 73.76 77.62",
  "76.2215.6d 61.2215.6d 31.65e5 32.65e5 33.65e5 34.65e5 35.65e5 36.65e5 37.65e5 38.65e5 39.65e5",
  "31.30.65e5 31.31.65e5 31.32.65e5 31.33.65e5 31.34.65e5 31.35.65e5 31.36.65e5 31.37.65e5",
  "31.38.65e5 31.39.65e5 32.30.65e5 32.31.65e5 32.32.65e5 32.33.65e5 32.34.65e5 32.35.65e5",
  "32.36.65e5 32.37.65e5 32.38.65e5 32.39.65e5 33.30.65e5 33.31.65e5 67.61.6c 708d:v 3:x 37:v 9:x",
  "15c:v 14:x 2e:p 12:v 1c:p 44a 44c 5a:v 8:x 22:v e:p 2:v 3e:p a76f 8:v 4:q 1d79 a:p 3:v a78c v",
  "265 2:v 4:p 2:v 14:p 266 25c 261 26c 26a v 29e 287 29d ab53 10:p a794 282 1d8e 4:q 264 10:p 19b",
  "14:x 73 63 66 71 a7f6 2:v 127 153 33:v 3:x a:v 6:x 38:v 8:x 46:v 8:x c:v 6:x 74:v b:x 1e:v 3:x",
  "4e:v x b:v 4:x 21:v x 37:v 9:x e:v 2:x a:v 2:x 67:v 18:x 1c:v a:x 6:v 2:x 6:v 2:x 6:v 9:x 7:v x",
  "7:v x 2c:v a727 ab37 26b ab52 9:v 28d 2:v 4:x 50:-97d0 2e:v 2:x a:v 6:x 2ba4:v c:x 17:v 4:x",
  "31:v 2104:x 8c48 66f4 8eca 8cc8 6ed1 4e32 53e5 9f9c 9f9c 5951 91d1 5587 5948 61f6 7669 7f85",
  "863f 87ba 88f8 908f 6a02 6d1b 70d9 73de 843d 916a 99f1 4e82 5375 6b04 721b 862d 9e1e 5d50 6feb",
  "85cd 8964 62c9 81d8 881f 5eca 6717 6d6a 72fc 90ce 4f86 51b7 52de 64c4 6ad3 7210 76e7 8001 8606",
  "865c 8def 9732 9b6f 9dfa 788c 797f 7da0 83c9 9304 9e7f 8ad6 58df 5f04 7c60 807e 7262 78ca 8cc2",
  "96f7 58d8 5c62 6a13 6dda 6f0f 7d2f 7e37 964b 52d2 808b 51dc 51cc 7a1c 7dbe 83f1 9675 8b80 62cf",
  "6a02 8afe 4e39 5be7 6012 7387 7570 5317 78fb 4fbf 5fa9 4e0d 6ccc 6578 7d22 53c3 585e 7701 8449",
  "8aaa 6bba 8fb0 6c88 62fe 82e5 63a0 7565 4eae 5169 51c9 6881 7ce7 826f 8ad2 91cf 52f5 5442 5973",
  "5eec 65c5 6ffe 792a 95ad 9a6a 9e97 9ece 529b 66c6 6b77 8f62 5e74 6190 6200 649a 6f23 7149 7489",
  "79ca 7df4 806f 8f26 84ee 9023 934a 5217 52a3 54bd 70c8 88c2 8aaa 5ec9 5ff5 637b 6bae 7c3e 7375",
  "4ee4 56f9 5be7 5dba 601c 73b2 7469 7f9a 8046 9234 96f6 9748 9818 4f8b 79ae 91b4 96b8 60e1 4e86",
  "50da 5bee 5c3f 6599 6a02 71ce 7642 84fc 907c 9f8d 6688 962e 5289 677b 67f3 6d41 6e9c 7409 7559",
  "786b 7d10 985e 516d 622e 9678 502b 5d19 6dea 8f2a 5f8b 6144 6817 7387 9686 5229 540f 5c65 6613",
  "674e 68a8 6ce5 7406 75e2 7f79 88cf 88e1 91cc 96e2 533f 6eba 541d 71d0 7498 85fa 96a3 9c57 9e9f",
  "6797 6dcb 81e8 7acb 7b20 7c92 72c0 7099 8b58 4ec0 8336 523a 5207 5ea6 62d3 7cd6 5b85 6d1e 66b4",
  "8f3b 884c 964d 898b 5ed3 5140 55c0 2:v 585a v 6674 2:v 51de 732a 76ca 793c 795e 7965 798f 9756",
  "7cbe 7fbd v 8612 v 8af8 2:v 9038 90fd 3:v 98ef 98fc 9928 9db4 90de 96b7 4fae 50e7 514d 52c9",
  "52e4 5351 559d 5606 5668 5840 58a8 5c64 5c6e 6094 6168 618e 61f2 654f 65e2 6691 6885 6d77 6e1a",
  "6f22 716e 722b 7422 7891 793e 7949 7948 7950 7956 795d 2:-80c5 7a40 7a81 7bc0 7df4 7e09 7e41",
  "7f72 8005 81ed 8279 8279 8457 8910 8996 8b01 8b39 8cd3 8d08 8fb6 9038 96e3 97ff 983b 6075 242ee",
  "8218 2:x 4e26 51b5 5168 4f80 5145 5180 52c7 52fa 559d 5555 5599 55e2 585a 58b3 5944 5954 5a62",
  "5b28 5ed2 5ed9 5f69 5fad 60d8 614e 6108 618e 6160 61f2 6234 63c4 641c 6452 6556 6674 6717 671b",
  "6756 6b79 6bba 6d41 6edb 6ecb 6f22 701e 716e 77a7 7235 72af 732a 7471 7506 753b 761d 761f 76ca",
  "76db 76f4 774a 7740 78cc 7ab1 7bc0 7c7b 7d5b 7df4 7f3e 8005 8352 83ef 8779 8941 8986 8996 8abf",
  "8af8 8acb 8b01 8afe 8aed 8b39 8b8a 8d08 8f38 9072 9199 9276 967c 96e3 9756 97db 97ff 980b 983b",
  "9b12 9f9c 2284a 22844 233d5 3b9d 4018 4039 25249 25cd0 27ed3 9f43 9f8e 26:x 66.66 66.69 66.6c",
  "66.66.69 66.66.6c 73.74 73.74 c:x 574.576 574.565 574.56b 57e.576 574.56d 5:x 5d9.5b4 v 5f2.5b7",
  "5e2 5d0 2:-f54f 3:-f549 5e8 5ea 2b 5e9.5c1 5e9.5c2 5e9.5bc.5c1 5e9.5bc.5c2 5d0.5b7 5d0.5b8",
  "5d0.5bc 5d1.5bc 5d2.5bc 5d3.5bc 5d4.5bc 5d5.5bc 5d6.5bc x 5d8.5bc 5d9.5bc 5da.5bc 5db.5bc",
  "5dc.5bc x 5de.5bc x 5e0.5bc 5e1.5bc x 5e3.5bc 5e4.5bc x 5e6.5bc 5e7.5bc 5e8.5bc 5e9.5bc 5ea.5bc",
  "5d5.5b9 5d1.5bf 5db.5bf 5e4.5bf 5d0.5dc 671 671 67b 67b 67b 67b 67e 67e 67e 67e 680 680 680 680",
  "67a 67a 67a 67a 67f 67f 67f 67f 679 679 679 679 6a4 6a4 6a4 6a4 6a6 6a6 6a6 6a6 684 684 684 684",
  "683 683 683 683 686 686 686 2:-f4f7 687 687 687 68d 68d 68c 68c 68e 68e 688 688 698 698 691 691",
  "6a9 6a9 6a9 6a9 6af 6af 6af 6af 6b3 6b3 6b3 6b3 6b1 6b1 6b1 6b1 6ba 2:-f4e5 6bb 6bb 6bb 6c0",
  "2:-f4e5 6c1 6c1 6c1 6be 6be 6be 6be 6d2 2:-f4dd 6d3 21:v 6ad 6ad 6ad 6ad 6c7 6c7 6c6 6c6 6c8",
  "6c8 6c7.674 6cb 6cb 6c5 6c5 6c9 6c9 6d0 6d0 6d0 6d0 649 649 626.627 626.627 626.6d5 626.6d5",
  "626.648 626.648 626.6c7 626.6c7 626.6c6 626.6c6 626.6c8 626.6c8 626.6d0 626.6d0 626.6d0 626.649",
  "626.649 626.649 6cc 6cc 6cc 6cc 626.62c 626.62d 626.645 626.649 626.64a 628.62c 628.62d 628.62e",
  "628.645 628.649 628.64a 62a.62c 62a.62d 62a.62e 62a.645 62a.649 62a.64a 62b.62c 62b.645 62b.649",
  "62b.64a 62c.62d 62c.645 62d.62c 62d.645 62e.62c 62e.62d 62e.645 633.62c 633.62d 633.62e 633.645",
  "635.62d 635.645 636.62c 636.62d 636.62e 636.645 637.62d 637.645 638.645 639.62c 639.645 63a.62c",
  "63a.645 641.62c 641.62d 641.62e 641.645 641.649 641.64a 642.62d 642.645 642.649 642.64a 643.627",
  "643.62c 643.62d 643.62e 643.644 643.645 643.649 643.64a 644.62c 644.62d 644.62e 644.645 644.649",
  "644.64a 645.62c 645.62d 645.62e 645.645 645.649 645.64a 646.62c 646.62d 646.62e 646.645 646.649",
  "646.64a 647.62c 647.645 647.649 647.64a 64a.62c 64a.62d 64a.62e 64a.645 64a.649 64a.64a 630.670",
  "631.670 649.670 20.64c.651 20.64d.651 20.64e.651 20.64f.651 20.650.651 20.651.670 626.631",
  "626.632 626.645 626.646 626.649 626.64a 628.631 628.632 628.645 628.646 628.649 628.64a 62a.631",
  "62a.632 62a.645 62a.646 62a.649 62a.64a 62b.631 62b.632 62b.645 62b.646 62b.649 62b.64a 641.649",
  "641.64a 642.649 642.64a 643.627 643.644 643.645 643.649 643.64a 644.645 644.649 644.64a 645.627",
  "645.645 646.631 646.632 646.645 646.646 646.649 646.64a 649.670 64a.631 64a.632 64a.645 64a.646",
  "64a.649 64a.64a 626.62c 626.62d 626.62e 626.645 626.647 628.62c 628.62d 628.62e 628.645 628.647",
  "62a.62c 62a.62d 62a.62e 62a.645 62a.647 62b.645 62c.62d 62c.645 62d.62c 62d.645 62e.62c 62e.645",
  "633.62c 633.62d 633.62e 633.645 635.62d 635.62e 635.645 636.62c 636.62d 636.62e 636.645 637.62d",
  "638.645 639.62c 639.645 63a.62c 63a.645 641.62c 641.62d 641.62e 641.645 642.62d 642.645 643.62c",
  "643.62d 643.62e 643.644 643.645 644.62c 644.62d 644.62e 644.645 644.647 645.62c 645.62d 645.62e",
  "645.645 646.62c 646.62d 646.62e 646.645 646.647 647.62c 647.645 647.670 64a.62c 64a.62d 64a.62e",
  "64a.645 64a.647 626.645 626.647 628.645 628.647 62a.645 62a.647 62b.645 62b.647 633.645 633.647",
  "634.645 634.647 643.644 643.645 644.645 646.645 646.647 64a.645 64a.647 640.64e.651 640.64f.651",
  "640.650.651 637.649 637.64a 639.649 639.64a 63a.649 63a.64a 633.649 633.64a 634.649 634.64a",
  "62d.649 62d.64a 62c.649 62c.64a 62e.649 62e.64a 635.649 635.64a 636.649 636.64a 634.62c 634.62d",
  "634.62e 634.645 634.631 633.631 635.631 636.631 637.649 637.64a 639.649 639.64a 63a.649 63a.64a",
  "633.649 633.64a 634.649 634.64a 62d.649 62d.64a 62c.649 62c.64a 62e.649 62e.64a 635.649 635.64a",
  "636.649 636.64a 634.62c 634.62d 634.62e 634.645 634.631 633.631 635.631 636.631 634.62c 634.62d",
  "634.62e 634.645 633.647 634.647 637.645 633.62c 633.62d 633.62e 634.62c 634.62d 634.62e 637.645",
  "638.645 627.64b 627.64b 12:v 62a.62c.645 62a.62d.62c 62a.62d.62c 62a.62d.645 62a.62e.645",
  "62a.645.62c 62a.645.62d 62a.645.62e 62c.645.62d 62c.645.62d 62d.645.64a 62d.645.649 633.62d.62c",
  "633.62c.62d 633.62c.649 633.645.62d 633.645.62d 633.645.62c 633.645.645 633.645.645 635.62d.62d",
  "635.62d.62d 635.645.645 634.62d.645 634.62d.645 634.62c.64a 634.645.62e 634.645.62e 634.645.645",
  "634.645.645 636.62d.649 636.62e.645 636.62e.645 637.645.62d 637.645.62d 637.645.645 637.645.64a",
  "639.62c.645 639.645.645 639.645.645 639.645.649 63a.645.645 63a.645.64a 63a.645.649 641.62e.645",
  "641.62e.645 642.645.62d 642.645.645 644.62d.645 644.62d.64a 644.62d.649 644.62c.62c 644.62c.62c",
  "644.62e.645 644.62e.645 644.645.62d 644.645.62d 645.62d.62c 645.62d.645 645.62d.64a 645.62c.62d",
  "645.62c.645 645.62e.62c 645.62e.645 2:v 645.62c.62e 647.645.62c 647.645.645 646.62d.645",
  "646.62d.649 646.62c.645 646.62c.645 646.62c.649 646.645.64a 646.645.649 64a.645.645 64a.645.645",
  "628.62e.64a 62a.62c.64a 62a.62c.649 62a.62e.64a 62a.62e.649 62a.645.64a 62a.645.649 62c.645.64a",
  "62c.62d.649 62c.645.649 633.62e.649 635.62d.64a 634.62d.64a 636.62d.64a 644.62c.64a 644.645.64a",
  "64a.62d.64a 64a.62c.64a 64a.645.64a 645.645.64a 642.645.64a 646.62d.64a 642.645.62d 644.62d.645",
  "639.645.64a 643.645.64a 646.62c.62d 645.62e.64a 644.62c.645 643.645.645 644.62c.645 646.62c.62d",
  "62c.62d.64a 62d.62c.64a 645.62c.64a 641.645.64a 628.62d.64a 643.645.645 639.62c.645 635.645.645",
  "633.62e.64a 646.62c.64a 8:v 20:x 635.644.6d2 642.644.6d2 627.644.644.647 627.643.628.631",
  "645.62d.645.62f 635.644.639.645 631.633.648.644 639.644.64a.647 648.633.644.645 635.644.649",
  "635.644.649.20.627.644.644.647.20.639.644.64a.647.20.648.633.644.645",
  "62c.644.20.62c.644.627.644.647 631.6cc.627.644 3:v 10:i 2c 3001 x 2:-fdd9 21 3f 2:-ce01 7:x",
  "10:v x 2014 2013 5f 5f 2:-fe0d 7b 7d 2:-ce25 2:-ce2b 2:-ce33 2:-ce37 4:-ce35 2:v 5b 5d 20.305",
  "20.305 20.305 20.305 5f 5f 5f 2c 3001 2:x 3b 3a 3f 21 2014 2:-fe31 7b 7d 2:-ce49 23 26 2:-fe37",
  "2d 3c 3e 3d x 5c 2:-fe45 40 4:x 20.64b 640.64b 20.64c v 20.64d x 20.64e 640.64e 20.64f 640.64f",
  "20.650 640.650 20.651 640.651 20.652 640.652 2:-f85f 2:-f860 2:-f861 2:-f862 2:-f863 626 626",
  "2:-f866 2:-f867 628 628 2:-f86a 2:-f86b 62a 62a 2:-f86e 62b 62b 2:-f871 62c 62c 2:-f874 62d 62d",
  "2:-f877 62e 62e 2:-f87a 2:-f87b 2:-f87c 2:-f87d 2:-f87e 633 633 2:-f881 634 634 2:-f884 635 635",
  "2:-f887 636 636 2:-f88a 637 637 2:-f88d 638 638 2:-f890 639 639 2:-f893 63a 63a 63a 641 641 641",
  "2:-f893 642 642 2:-f896 643 643 2:-f899 644 644 2:-f89c 645 645 2:-f89f 646 646 2:-f8a2 647 647",
  "2:-f8a5 2:-f8a6 2:-f8a7 64a 64a 64a 644.622 644.622 644.623 644.623 644.625 644.625 644.627",
  "644.627 2:x i x 20:-fee0 1a:-fec0 24:-fee0 2:-d5da 2e 2:-cf56 3001 30fb 30f2 30a1 30a3 30a5",
  "30a7 30a9 30e3 30e5 30e7 30c3 30fc 30a2 30a4 30a6 30a8 2:-cecb 30ad 30af 30b1 30b3 30b5 30b7",
  "30b9 30bb 30bd 30bf 30c1 30c4 30c6 30c8 6:-cebb 30d2 30d5 30d8 30db 5:-ceb1 30e4 30e6 6:-ceae",
  "30ef 30f3 2:-cf05 i 2:-eea1 11aa 1102 2:-edf9 3:-eea4 6:-edfa 111a 3:-eeab 1121 a:-eeac 3:x",
  "6:-ee61 2:x 6:-ee63 2:x 6:-ee65 2:x 3:-ee67 3:x 2:-ff3e ac 20.304 a6 a5 20a9 x 2502 4:-de59",
  "25a0 25cb 11:x c:v x 1a:v x 13:v x 2:v x f:v 2:x e:v 22:x 7b:v 5:x 3:v 4:x 2d:v 3:x 58:v x d:v",
  "3:x v 2f:x 2e:v 82:x 1d:v 3:x 31:v f:x 1c:v 4:x 24:v 9:x 1e:v 5:x 2b:v 5:x 1e:v x 25:v 4:x e:v",
  "2a:x 28:+28 76:v 2:x a:v 6:x 24:+28 4:x 24:v 4:x 28:v 8:x 34:v b:x v b:+27 x f:+27 x 7:+27 x",
  "2:+27 x b:v x f:v x 7:v x 2:v 3:x 34:v c:x 137:v 9:x 16:v a:x 8:v 18:x v 2:-104b1 e6 299 253 x",
  "2a3 ab66 2a5 2a4 2:-10535 1d91 258 25e 2a9 264 262 260 29b 127 29c 267 284 2:-104ef 26c 1df04",
  "a78e 26e 1df05 28e 1df06 f8 2:-1052d 71 27a 1df08 2:-1052b 280 2a8 2a6 ab67 2a7 288 2c71 x 28f",
  "2:-10512 298 3:-105f6 1df0a 1df1e 45:x 6:v 2:x v x 2c:v x 2:v 3:x v 2:x 17:v x 48:v 8:x 9:v",
  "30:x 13:v x 2:v 5:x 21:v 3:x 1b:v 5:x 1b:v 26:x 38:v 4:x 14:v 2:x 32:v x 2:v 5:x 8:v x 3:v x",
  "1d:v 2:x 3:v 4:x a:v 7:x 9:v 7:x 40:v 20:x 27:v 4:x c:v 9:x 36:v 3:x 1d:v 2:x 1b:v 5:x 1a:v 7:x",
  "4:v c:x 7:v 50:x 49:v 37:x 33:+40 d:x 33:v 7:x 2e:v 8:x a:v 6:x 10:v 16:+20 3:x 1d:v 8:x 2:v",
  "d0:x 1f:v x 2a:v x 3:v 2:x 2:v 10:x 6:v 8:x 9:v 21:x 2e:v 8:x 2a:v 16:x 1a:v 26:x 1c:v 14:x",
  "17:v 9:x 4e:v 4:x 24:v 9:x 3e:v x 5:v d:x 19:v 7:x a:v 6:x 35:v x 12:v 8:x 27:v 9:x 60:v x 14:v",
  "b:x 12:v x 2f:v 3e:x 7:v x v x 4:v x f:v x b:v 6:x 3b:v 5:x a:v 6:x 4:v x 8:v 2:x 2:v 2:x 16:v",
  "x 7:v x 2:v x 5:v x a:v 2:x 2:v 2:x 3:v 2:x v 6:x v 5:x 7:v 2:x 7:v 3:x 5:v b:x a:v x v 2:x v x",
  "26:v x a:v x v 2:x v x 4:v x a:v x 2:v 8:x 2:v 1d:x 5c:v x 5:v 1e:x 48:v 8:x a:v a6:x 36:v 2:x",
  "26:v 22:x 45:v b:x a:v 6:x d:v 13:x 3a:v 6:x a:v 6:x 14:v 1c:x 1b:v 2:x f:v 4:x 17:v b9:x 3c:v",
  "64:x 20:+20 33:v c:x 8:v 2:x v 2:x 8:v x 2:v x 1e:v x 2:v 2:x c:v 9:x a:v 46:x 8:v 2:x 2e:v 2:x",
  "b:v 1b:x 48:v 8:x 53:v d:x 49:v 7:x a:v 56:x 8:v 58:x 22:v e:x a:v 6:x 9:v x 2d:v x e:v a:x",
  "1d:v 3:x 20:v 2:x 16:v x e:v 49:x 7:v x 2:v x 2c:v 3:x v x 2:v x 9:v 8:x a:v 6:x 6:v x 2:v x",
  "25:v x 2:v x 6:v 7:x a:v 6:x 2c:v 4:x a:v f6:x 19:v 7:x 11:v x 29:v 3:x 1d:v 55:x v f:x 32:v",
  "d:x 39b:v 66:x 6f:v x 5:v b:x c4:v a4c:x 63:v d:x 430:v 10:x 16:v a:x f9b:v 5:x 247:v 1ab9:x",
  "3a:v 6c6:x 239:v 7:x 1f:v x a:v 4:x 51:v x a:v 6:x 1e:v 2:x 6:v a:x 46:v a:x a:v x 7:v x 15:v",
  "5:x 13:v 1b0:x 3a:v c6:x 20:+20 3b:v 5:x 19:+1b 2:x 19:v 2c:x 4b:v 4:x 39:v 7:x 11:v 40:x 5:v",
  "b:x 7:v 9:x 1cd6:v 29:x 20:v 61:x 73:v 21fd:x 4:v x 7:v x 2:v x 123:v f:x v 1d:x 3:v 2:x v e:x",
  "4:v 8:x 18c:v 904:x 6b:v 5:x d:v 3:x 9:v 7:x a:v 2:x 4:v 4:i f5c:x d6:v 1a:-1cc75 a:-1ccc0 3:v",
  "3:x 1b4:v 6:x 17:v f:x 11:v f:x 2e:v 2:x 17:v 9:x 74:v 3c:x f6:v a:x 27:v 2:x 35:v 1d157.1d165",
  "1d158.1d165 1d158.1d165.1d16e 1d158.1d165.1d16f 1d158.1d165.1d170 1d158.1d165.1d171",
  "1d158.1d165.1d172 e:v 8:i 40:v 1d1b9.1d165 1d1ba.1d165 1d1b9.1d165.1d16e 1d1ba.1d165.1d16e",
  "1d1b9.1d165.1d16f 1d1ba.1d165.1d16f 2a:v 15:x 46:v 7a:x 14:v c:x 14:v c:x 57:v 9:x 19:v 87:x",
  "1a:-1d39f 1a:-1d3b9 1a:-1d3d3 7:-1d3ed x 12:-1d3ed 1a:-1d407 1a:-1d421 61 x 2:-1d43b 2:x 67 2:x",
  "2:-1d43b 2:x 4:-1d43b x 8:-1d43b 4:-1d455 x 66 x 7:-1d455 x b:-1d455 1a:-1d46f 1a:-1d489",
  "2:-1d4a3 x 4:-1d4a3 2:x 8:-1d4a3 x 7:-1d4a3 x 1a:-1d4bd 2:-1d4d7 x 4:-1d4d7 x 5:-1d4d7 x 6f 3:x",
  "7:-1d4d7 x 1a:-1d4f1 1a:-1d50b 1a:-1d525 1a:-1d53f 1a:-1d559 1a:-1d573 1a:-1d58d 1a:-1d5a7",
  "1a:-1d5c1 1a:-1d5db 1a:-1d5f5 1a:-1d60f 1a:-1d629 131 237 2:x 11:-1d2f7 3b8 7:-1d2f7 2207",
  "11:-1d311 3c3 7:-1d311 2202 3b5 3b8 3ba 3c6 3c1 3c0 11:-1d331 3b8 7:-1d331 2207 11:-1d34b 3c3",
  "7:-1d34b 2202 3b5 3b8 3ba 3c6 3c1 3c0 11:-1d36b 3b8 7:-1d36b 2207 11:-1d385 3c3 7:-1d385 2202",
  "3b5 3b8 3ba 3c6 3c1 3c0 11:-1d3a5 3b8 7:-1d3a5 2207 11:-1d3bf 3c3 7:-1d3bf 2202 3b5 3b8 3ba 3c6",
  "3c1 3c0 11:-1d3df 3b8 7:-1d3df 2207 11:-1d3f9 3c3 7:-1d3f9 2202 3b5 3b8 3ba 3c6 3c1 3c0 3dd 3dd",
  "2:x a:-1d79e a:-1d7a8 a:-1d7b2 a:-1d7bc a:-1d7c6 28c:v f:x 5:v x f:v 450:x 1f:v 6:x 6:v d5:x",
  "7:v x 11:v 2:x 7:v x 2:v x 5:v 5:x 9:-1dc00 3:-1dbff b:-1dbfe 44b 2:-1dbfb a689 4d9 456 458 4e9",
  "4af 4cf 9:-1dc21 2:-1dc20 2:-1dc1e 441 6:-1dc1c 2:-1dc1b 491 456 455 45f 4ab a651 4b1 21:x v",
  "70:x 2d:v 3:x e:v 2:x a:v 4:x 2:v 140:x 1f:v 11:x 3a:v 5:x v 1d0:x 2a:v d6:x 2b:v 4:x v c0:x",
  "1f:v x 16:v 8:x 2:v e0:x 7:v x 4:v x 2:v x f:v x c5:v 2:x 10:v 29:x 22:+22 2a:v 4:x a:v 4:x 2:v",
  "311:x 44:v 4c:x 3d:v c2:x 2:-1e7d9 62c 62f x 648 632 62d 637 64a 4:-1e7c7 633 639 641 635 642",
  "631 634 2:-1e7eb 62e 630 636 638 63a 66e 6ba 6a1 66f x 628 62c x 647 2:x 62d x 64a 4:-1e7e7 633",
  "639 641 635 642 x 634 2:-1e80b 62e x 636 x 63a 6:x 62c 4:x 62d x 64a x 644 x 646 633 639 x 635",
  "642 x 634 2:x 62e x 636 x 63a x 6ba x 66f x 628 62c x 647 2:x 62d 637 64a 643 x 2:-1e827 633",
  "639 641 635 642 x 634 2:-1e84b 62e x 636 638 63a 66e x 6a1 x 2:-1e859 62c 62f 2:-1e83d 632 62d",
  "637 64a x 3:-1e847 633 639 641 635 642 631 634 2:-1e86b 62e 630 636 638 63a 5:x 628 62c 62f x",
  "648 632 62d 637 64a x 3:-1e867 633 639 641 635 642 631 634 2:-1e88b 62e 630 636 638 63a 34:x",
  "2:v 10e:x 2c:v 4:x 64:v c:x f:v 2:x f:v x f:v x 25:v b:x 30.2c 31.2c 32.2c 33.2c 34.2c 35.2c",
  "36.2c 37.2c 38.2c 39.2c 5:v 28.61.29 28.62.29 28.63.29 28.64.29 28.65.29 28.66.29 28.67.29",
  "28.68.29 28.69.29 28.6a.29 28.6b.29 28.6c.29 28.6d.29 28.6e.29 28.6f.29 28.70.29 28.71.29",
  "28.72.29 28.73.29 28.74.29 28.75.29 28.76.29 28.77.29 28.78.29 28.79.29 28.7a.29 3014.73.3015",
  "63 72 63.64 77.7a v 1a:-1f0cf 68.76 6d.76 73.64 73.73 70.70.76 77.63 1a:v 6d.63 6d.64 6d.72",
  "23:v 64.6a 1d:v 38:x 1a:v 307b.304b 30b3.30b3 30b5 d:x 624b 5b57 53cc 30c7 4e8c 591a 89e3 5929",
  "4ea4 6620 7121 6599 524d 5f8c 518d 65b0 521d 7d42 751f 8ca9 58f0 5439 6f14 6295 6355 4e00 4e09",
  "904a 5de6 4e2d 53f3 6307 8d70 6253 7981 7a7a 5408 6e80 6709 6708 7533 5272 55b6 914d 4:x",
  "3014.672c.3015 3014.4e09.3015 3014.4e8c.3015 3014.5b89.3015 3014.70b9.3015 3014.6253.3015",
  "3014.76d7.3015 3014.52dd.3015 3014.6557.3015 7:x 5f97 53ef e:x 6:v 9a:x 3d9:v 3:x 11:v 3:x d:v",
  "3:x da:v 6:x c:v 4:x v f:x c:v 4:x 38:v 8:x a:v 6:x 28:v 8:x 1e:v 2:x c:v 4:x 2:v e:x 9:v 27:x",
  "158:v 8:x e:v 2:x d:v 3:x b:v 3:x 39:v x v 4:x 10:v 2:x c:v 4:x a:v 7:x 93:v x 5c:v a:-1fbc0 v",
  "405:x a6e0:v 20:x 111e:v 2:x 168e:v 2:x 1d31:v f:x 26e:v 9a2:x 4e3d 4e38 4e41 20122 4f60 4fae",
  "4fbb 5002 507a 5099 50e7 50cf 349e 2063a 514d 5154 5164 5177 2051c 34b9 5167 518d 2054b 5197",
  "51a4 4ecc 51ac 51b5 291df 51f5 5203 34df 523b 5246 5272 5277 3515 52c7 52c9 52e4 52fa 2:-2a524",
  "5317 5349 5351 535a 5373 537d 537f 537f 537f 20a2c 7070 53ca 53df 20b63 53eb 53f1 5406 549e",
  "5438 5448 5468 54a2 54f6 5510 5553 5563 5584 5584 5599 55ab 55b3 55c2 5716 5606 5717 5651 5674",
  "5207 58ee 57ce 57f4 580d 578b 5832 5831 58ac 214e4 58f2 58f7 5906 591a 5922 5962 216a8 216ea",
  "59ec 5a1b 5a27 59d8 5a66 36ee 36fc 5b08 5b3e 5b3e 219c8 5bc3 5bd8 5be7 5bf3 21b18 5bff 5c06",
  "5f53 5c22 3781 5c60 5c6e 5cc0 5c8d 21de4 5d43 21de6 5d6e 5d6b 5d7c 2:-29aa0 382f 5dfd 5e28 5e3d",
  "5e69 3862 22183 387c 5eb0 5eb3 5eb6 5eca 2a392 5efe 22331 22331 8201 5f22 5f22 38c7 232b8 261da",
  "5f62 5f6b 38e3 5f9a 5fcd 5fd7 5ff9 6081 393a 391c 6094 226d4 60c7 6148 614c 614e 614c 617a 618e",
  "61b2 61a4 61af 61de 61f2 61f6 6210 621b 625d 62b1 62d4 6350 22b0c 633d 62fc 6368 6383 63e4",
  "22bf1 6422 63c5 63a9 3a2e 6469 647e 649d 6477 3a6c 654f 656c 2300a 65e3 66f8 6649 3b19 6691",
  "3b08 3ae4 5192 5195 6700 669c 80ad 43d9 6717 671b 6721 675e 6753 233c3 3b49 67fa 6785 6852 6885",
  "2346d 688e 681f 6914 3b9d 6942 69a3 69ea 6aa8 236a3 6adb 3c18 6b21 238a7 6b54 3c4e 6b72 6b9f",
  "2:-28d3b 23a8d 21d0b 23afa 6c4e 23cbc 6cbf 6ccd 6c67 6d16 6d3e 6d77 6d41 6d69 6d78 6d85 23d1e",
  "6d34 6e2f 6e6e 3d33 6ecb 6ec7 23ed1 6df9 6f6e 23f5e 23f8e 6fc6 7039 701e 701b 3d96 704a 707d",
  "7077 70ad 20525 7145 24263 719c 243ab 7228 7235 7250 24608 7280 7295 24735 24814 737a 738b 3eac",
  "73a5 3eb8 3eb8 7447 745c 7471 7485 74ca 3f1b 7524 24c36 753e 24c92 7570 2219f 7610 24fa1 24fb8",
  "25044 3ffc 4008 76f4 250f3 250f2 25119 25133 2:-28227 771f 774a 4039 778b 4046 4096 2541d 784e",
  "788c 78cc 40e3 25626 7956 2569a 256c5 798f 79eb 412f 7a40 7a4a 7a4f 2597c 25aa7 25aa7 7aee 4202",
  "25bab 7bc6 7bc9 4227 25c80 7cd2 42a0 7ce8 7ce3 7d00 25f86 7d63 4301 7dc7 7e02 7e45 4334 26228",
  "26247 4359 262d9 7f7a 2633e 7f95 7ffa 8005 264da 26523 8060 265a8 8070 2335f 43d5 80b2 8103",
  "440b 813e 5ab5 267a7 267b5 23393 2339c 8201 8204 8f9e 446b 8291 828b 829d 52b3 82b1 82b3 82bd",
  "82e6 26b3c 82e5 831d 8363 83ad 8323 83bd 83e7 8457 8353 83ca 83cc 83dc 26c36 26d6b 26cd5 452b",
  "84f1 84f3 8516 273ca 8564 26f2c 455d 4561 26fb1 270d2 456b 8650 865c 8667 8669 86a9 8688 870e",
  "86e2 8779 8728 876b 8786 45d7 87e1 8801 45f9 8860 8863 27667 88d7 88de 4635 88fa 34bb 278ae",
  "27966 46be 46c7 8aa0 8aed 8b8a 8c55 27ca8 8cab 8cc1 8d1b 8d77 27f2f 20804 8dcb 8dbc 8df0 208de",
  "8ed4 8f38 285d2 285ed 9094 90f1 9111 2872e 911b 9238 2:-26711 927c 93f9 9415 28bfa 958b 4995",
  "95b7 28d77 49e6 96c3 5db2 9723 29145 2921a 4a6e 4a76 97e0 2940a 4ab2 29496 980b 980b 9829 295b6",
  "98e2 4b33 9929 99a7 99c2 99fe 4bce 29b30 9b12 9c40 9cfd 4cce 4ced 9d67 2a0ce 4cf8 2a105 2a20e",
  "2a291 9ebb 4d56 9ef9 9efe 9f05 9f0f 9f16 9f3b 2a600 5e2:x 134b:v 5:x 212a:v acc86:x f0:i",
  "2fe10:x"]

/-- The table. -/
def statuses : Runs Status := .read Status.ofText statusLines

/-- What stands where there is a character that is not allowed. -/
def replacement : Char := '\ufffd'

/-- **What counts instead of a character.** -/
def mapChar (c : Char) : List Char :=
  if c.toNat < 0x80 then [c.toLower]
  else
    match statuses.at? (c.toNat - 0x80) with
    | some .valid => [c]
    | some .ignored => []
    | some (.paired isOdd) => if c.toNat % 2 = isOdd.toNat then [Char.ofNat (c.toNat + 1)] else [c]
    | some (.shifted distance) => [Char.ofNat (c.toNat + distance).toNat]
    | some (.mapped codes) => codes.map Char.ofNat
    | some .disallowed | none => [replacement]

end TemplateShare.Url.Idna
