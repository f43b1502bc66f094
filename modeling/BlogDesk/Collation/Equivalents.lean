import Std.Data.HashMap
import BlogDesk.Text.Search
import BlogDesk.Text.Ranges

/-!
# Equivalents

Characters that count exactly as another one: the other case of a letter, the
digits of the scripts, wide, circled, raised and styled forms.
-/

namespace BlogDesk.Collation

open Text (parseChar parseRange rangeChars splitOnce? words)

/-- A range takes the places of the range of equal length that starts at the
character behind the equals sign. -/
def equivalentRows : List String :=
  ["61-7a=41 a0=20 aa=41 b2-b3=32 b9=31 ba=4f fe=de 14b=14a 167=166 183=182 185=184 188=187",
   "18c=18b 192=191 199=198 1a3=1a2 1a5=1a4 1a8=1a7 1ad=1ac 1b4=1b3 1b6=1b5 1b9=1b8 1bd=1bc",
   "1dd=18e 1e5=1e4 1f6=195 1f7=1bf 21d=21c 220=19e 223=222 225=224 23c=23b 23d=19a 242=241",
   "243=180 247=246 249=248 24b=24a 24d=24c 24f=24e 253=181 254=186 256-257=189 259=18f 25b=190",
   "260=193 263=194 268=197 269=196 26f=19c 272=19d 275=19f 280=1a6 283=1a9 288=1ae 289=244",
   "28a-28b=1b1 28c=245 292=1b7 2b0=48 2b1=266 2b2=4a 2b3=52 2b4=279 2b5=27b 2b6=281 2b7=57",
   "2b8=59 2e0=194 2e1=4c 2e2=53 2e3=58 2e4=295 363=41 364=45 365=49 366=4f 367=55 368-369=43",
   "36a=48 36b=4d 36c=52 36d=54 36e=56 36f=58 371=370 373=372 377=376 37a=399 384=b4 39c=b5",
   "3b1-3bb=391 3bc=b5 3bd-3c1=39d 3c2=3a3 3c3-3c9=3a3 3d0=392 3d1=398 3d2=3a5 3d5=3a6 3d6=3a0",
   "3d9=3d8 3db=3da 3dd=3dc 3df=3de 3e1=3e0 3e3=3e2 3e5=3e4 3e7=3e6 3e9=3e8 3eb=3ea 3ed=3ec",
   "3ef=3ee 3f0=39a 3f1=3a1 3f2=3a3 3f3=37f 3f4=398 3f5=395 3f8=3f7 3f9=3a3 3fb=3fa 3fd-3ff=37b",
   "430-438=410 43a-44f=41a 452=402 454-456=404 458-45b=408 45f=40f 461=460 463=462 465=464",
   "467=466 469=468 46b=46a 46d=46c 46f=46e 471=470 473=472 475=474 479=478 47b=47a 47d=47c",
   "47f=47e 481=480 48b=48a 48d=48c 48f=48e 493=492 495=494 497=496 499=498 49b=49a 49d=49c",
   "49f=49e 4a1=4a0 4a3=4a2 4a5=4a4 4a7=4a6 4a9=4a8 4ab=4aa 4ad=4ac 4af=4ae 4b1=4b0 4b3=4b2",
   "4b5=4b4 4b7=4b6 4b9=4b8 4bb=4ba 4bd=4bc 4bf=4be 4c4=4c3 4c6=4c5 4c8=4c7 4ca=4c9 4cc=4cb",
   "4ce=4cd 4cf=4c0 4d5=4d4 4d9=4d8 4e1=4e0 4e9=4e8 4f7=4f6 4fb=4fa 4fd=4fc 4ff=4fe 501=500",
   "503=502 505=504 507=506 509=508 50b=50a 50d=50c 50f=50e 511=510 513=512 515=514 517=516",
   "519=518 51b=51a 51d=51c 51f=51e 521=520 523=522 525=524 527=526 529=528 52b=52a 52d=52c",
   "52f=52e 561-586=531 5db=5da 5de=5dd 5e0=5df 5e4=5e3 5e6=5e5 627=8ad 660-669=30 674=621",
   "6e5=648 6e6=64a 6f0-6f9=30 724=723 7c0-7c9=30 870=8ad 871=8ad 872=8ad 873=8ad 874=8ad",
   "875=8ad 876=8ad 877=8ad 878=8ad 879=8ad 87a=8ad 87b=8ad 87c=8ad 87d=8ad 87e=8ad 87f=8ad",
   "880=8ad 881=8ad 882=8ad 883=621 884=648 885=64a 886=64a 887=621 8c9=6cc 966-96f=30",
   "9e6-9ef=30 a66-a6f=30 ae6-aef=30 b66-b6f=30 be6-bef=30 c66-c6f=30 c78-c7b=30 c7c-c7e=31",
   "ce6-cef=30 d3c=d3b d4d=d3b d66-d6f=30 de6-def=30 e50-e59=30 ed0-ed9=30 f0c=f0b f20-f29=30",
   "f2a-f32=31 f33=30 102c=102b 1040-1049=30 1090-1099=30 10fc=10dc 1369-1371=31 13f8-13fd=13f0",
   "1680=20 17e0-17e9=30 17f0-17f9=30 1810-1819=30 1946-194f=30 19d0-19d9=30 19da=31 1a58=1a26",
   "1a59=1a26 1a5a=1a3b 1a5b=1a3b 1a64=1a63 1a80-1a89=30 1a90-1a99=30 1abf=57 1ac0=28d",
   "1b50-1b59=30 1bb0-1bb9=30 1bba=1b83 1bbe=1b8a 1bbf=1b99 1bc1=1bc0 1bc3=1bc2 1bc4=1bc2",
   "1bc6=1bc5 1bc8=1bc7 1bca=1bc9 1bcc=1bcb 1bcd=1bcb 1bcf=1bce 1bd3=1bd2 1bd5=1bd4 1bd7=1bd6",
   "1bd9=1bd8 1bda=1bd8 1bdc=1bdb 1bdf=1bde 1be8=1be7 1beb=1bea 1bed=1bec 1bef=1bee 1c40-1c49=30",
   "1c50-1c59=30 1c80=412 1c81=414 1c82=41e 1c83-1c84=421 1c85=422 1c86=42a 1c87=462 1c8a=1c89",
   "1c90-1cba=10d0 1cbd-1cbf=10fd 1cea=1ce9 1ceb=1ce9 1cec=1ce9 1cee=1ce9 1cef=1ce9 1cf0=1ce9",
   "1cf1=1ce9 1cfa=1ce9 1d2c=41 1d2e=42 1d30-1d31=44 1d32=18e 1d33-1d3a=47 1d3c=4f 1d3d=222",
   "1d3e=50 1d3f=52 1d40-1d41=54 1d42=57 1d43=41 1d44-1d45=250 1d46=1d02 1d47=42 1d48-1d49=44",
   "1d4a-1d4b=18f 1d4c=1d08 1d4d=47 1d4e=1d09 1d4f=4b 1d50=4d 1d51=14a 1d52=4f 1d53=186",
   "1d54-1d55=1d16 1d56=50 1d57-1d58=54 1d59=1d1d 1d5a=19c 1d5b=56 1d5c=1d25 1d5d-1d5f=392",
   "1d60-1d61=3a6 1d62=49 1d63=52 1d64-1d65=55 1d66-1d67=392 1d68=3a1 1d69-1d6a=3a6 1d78=41d",
   "1d9b=252 1d9c=43 1d9d=255 1d9f=25c 1da0=46 1da1=25f 1da2=261 1da3=265 1da4=197 1da5=196",
   "1da6=26a 1da7=1d7b 1da8=29d 1da9=26d 1daa=1d85 1dab=29f 1dac=271 1dad=270 1dae=19d",
   "1daf-1db0=273 1db1=19f 1db2=278 1db3=282 1db4=1a9 1db5=1ab 1db6=244 1db7=1b1 1db8=1d1c",
   "1db9=1b2 1dba=245 1dbb=5a 1dbc-1dbd=290 1dbe=1b7 1dbf=398 1dca=52 1dda=47 1ddb=262",
   "1ddc-1ddd=4b 1dde=29f 1ddf=1d0d 1de0=4e 1de1=274 1de2=1a6 1de4=53 1de6=5a 1de7=251 1de8=42",
   "1dea=18f 1deb=46 1dee=50 1def=1a9 1df1=57 1efd=1efc 1eff=1efe 1fbf=1fbd 2002=20 2003=20",
   "2004=20 2005=20 2006=20 2007=20 2008=20 2009=20 200a=20 2011=2010 2024=2e 202f=20 205f=20",
   "2070=30 2071=49 2074-2079=34 207a=2b 207c=3d 207d-207e=28 207f=4e 2080-2089=30 208a=2b",
   "208b=207b 208c=3d 208d-208e=28 2090=41 2091=45 2092=4f 2093=58 2094=18f 2095=48 2096-2099=4b",
   "209a=50 209b-209c=53 2102=43 2107=190 210a-210b=47 210c=48 210d=48 210e=48 2110=49 2111=49",
   "2112=4c 2113=4c 2115=4e 2119-211b=50 211c=52 211d=52 2124=5a 2128=5a 212c-212d=42 212f=45",
   "2130-2131=45 2133=4d 2134=4f 2135-2138=5d0 2139=49 213c=3a0 213d=393 213e=393 213f=3a0",
   "2140=2211 2145=44 2146-2147=44 2148-2149=49 214e=2132 2160=49 2164=56 2169=58 216c=4c",
   "216d-216e=43 216f=4d 2170=49 2174=56 2179=58 217c=4c 217d-217e=43 217f=4d 2184=2183 2185=36",
   "2212=207b 2460-2468=31 24b6-24cf=41 24d0-24e9=41 24ea=30 24f5-24fd=31 24ff=30 2776-277e=31",
   "2780-2788=31 278a-2792=31 2c30-2c5f=2c00 2c61=2c60 2c62=26b 2c63=1d7d 2c64=27d 2c65=23a",
   "2c66=23e 2c68=2c67 2c6a=2c69 2c6c=2c6b 2c6d=251 2c6e=271 2c6f=250 2c70=252 2c73=2c72",
   "2c76=2c75 2c7c=4a 2c7d=56 2c7e-2c7f=23f 2c81=2c80 2c83=2c82 2c85=2c84 2c87=2c86 2c89=2c88",
   "2c8b=2c8a 2c8d=2c8c 2c8f=2c8e 2c91=2c90 2c93=2c92 2c95=2c94 2c97=2c96 2c99=2c98 2c9b=2c9a",
   "2c9d=2c9c 2c9f=2c9e 2ca1=2ca0 2ca3=2ca2 2ca5=2ca4 2ca7=2ca6 2ca9=2ca8 2cab=2caa 2cad=2cac",
   "2caf=2cae 2cb1=2cb0 2cb3=2cb2 2cb5=2cb4 2cb7=2cb6 2cb9=2cb8 2cbb=2cba 2cbd=2cbc 2cbf=2cbe",
   "2cc1=2cc0 2cc3=2cc2 2cc5=2cc4 2cc7=2cc6 2cc9=2cc8 2ccb=2cca 2ccd=2ccc 2ccf=2cce 2cd1=2cd0",
   "2cd3=2cd2 2cd5=2cd4 2cd7=2cd6 2cd9=2cd8 2cdb=2cda 2cdd=2cdc 2cdf=2cde 2ce1=2ce0 2ce3=2ce2",
   "2cec=2ceb 2cee=2ced 2cf3=2cf2 2d00-2d25=10a0 2d27=10c7 2d2d=10cd 2de0-2de3=411 2de4-2de5=416",
   "2de6-2dee=41a 2def-2df3=425 2df4=472 2df6=410 2df7=415 2df9=1c88 2dfa=462 2dfb=42e 2dfd=466",
   "2dfe=46a 2dff=46c 2e82=4e5b 2e83=4e5a 2e85=4ebb 2e89=5202 2e8f=5c23 2e90=5c22 2e92=5df3",
   "2e93=5e7a 2e94=5f51 2e96=5fc4 2e98=624c 2e99=6535 2e9b=65e1 2e9f=6bcd 2ea0=6c11 2ea1=6c35",
   "2ea2=6c3a 2ea3=706c 2ea4=722b 2ea6=4e2c 2ea8=72ad 2ead=793b 2eaf=7cf9 2eb0=7e9f 2eb1=7f53",
   "2eb2=7f52 2eb8=7f8b 2eb9=8002 2eba=8080 2ebe=8279 2ec1=864e 2ec2=8864 2ec3=8980 2ec4=897f",
   "2ec5=89c1 2ec6=89d2 2ec8=8ba0 2ec9=8d1d 2ecb=8f66 2ecc=8fb6 2ed0=9485 2ed1-2ed2=9577",
   "2ed3=957f 2ed4=95e8 2ed6=961d 2ed8=9752 2ed9=97e6 2eda=9875 2edb=98ce 2edc-2edd=98de",
   "2edf=98e0 2ee0=9963 2ee2=9a6c 2ee5=9c7c 2ee6=9e1f 2ee8=9ea6 2ee9=9ec4 2eea=9efe 2eec=9f50",
   "2eee=9f7f 2ef0=9f99 2ef3=9f9f 2f00=4e00 2f01=4e28 2f02=4e36 2f03=4e3f 2f04=4e59 2f05=4e85",
   "2f06=4e8c 2f07=4ea0 2f08=4eba 2f09=513f 2f0a=5165 2f0b=516b 2f0c=5182 2f0d=5196 2f0e=51ab",
   "2f0f=51e0 2f10=51f5 2f11=5200 2f12=529b 2f13=52f9 2f14=5315 2f15=531a 2f16=5338 2f17=5341",
   "2f18=535c 2f19=5369 2f1a=5382 2f1b=53b6 2f1c=53c8 2f1d=53e3 2f1e=56d7 2f1f=571f 2f20=58eb",
   "2f21=5902 2f22=590a 2f23=5915 2f24=5927 2f25=5973 2f26=5b50 2f27=5b80 2f28=5bf8 2f29=5c0f",
   "2f2a=5c22 2f2b=5c38 2f2c=5c6e 2f2d=5c71 2f2e=5ddb 2f2f=5de5 2f30=5df1 2f31=5dfe 2f32=5e72",
   "2f33=5e7a 2f34=5e7f 2f35=5ef4 2f36=5efe 2f37=5f0b 2f38=5f13 2f39=5f50 2f3a=5f61 2f3b=5f73",
   "2f3c=5fc3 2f3d=6208 2f3e=6236 2f3f=624b 2f40=652f 2f41=6534 2f42=6587 2f43=6597 2f44=65a4",
   "2f45=65b9 2f46=65e0 2f47=65e5 2f48=66f0 2f49=6708 2f4a=6728 2f4b=6b20 2f4c=6b62 2f4d=6b79",
   "2f4e=6bb3 2f4f=6bcb 2f50=6bd4 2f51=6bdb 2f52=6c0f 2f53=6c14 2f54=6c34 2f55=706b 2f56=722a",
   "2f57=7236 2f58=723b 2f59=723f 2f5a=7247 2f5b=7259 2f5c=725b 2f5d=72ac 2f5e=7384 2f5f=7389",
   "2f60=74dc 2f61=74e6 2f62=7518 2f63=751f 2f64=7528 2f65=7530 2f66=758b 2f67=7592 2f68=7676",
   "2f69=767d 2f6a=76ae 2f6b=76bf 2f6c=76ee 2f6d=77db 2f6e=77e2 2f6f=77f3 2f70=793a 2f71=79b8",
   "2f72=79be 2f73=7a74 2f74=7acb 2f75=7af9 2f76=7c73 2f77=7cf8 2f78=7f36 2f79=7f51 2f7a=7f8a",
   "2f7b=7fbd 2f7c=8001 2f7d=800c 2f7e=8012 2f7f=8033 2f80=807f 2f81=8089 2f82=81e3 2f83=81ea",
   "2f84=81f3 2f85=81fc 2f86=820c 2f87=821b 2f88=821f 2f89=826e 2f8a=8272 2f8b=8278 2f8c=864d",
   "2f8d=866b 2f8e=8840 2f8f=884c 2f90=8863 2f91=897e 2f92=898b 2f93=89d2 2f94=8a00 2f95=8c37",
   "2f96=8c46 2f97=8c55 2f98=8c78 2f99=8c9d 2f9a=8d64 2f9b=8d70 2f9c=8db3 2f9d=8eab 2f9e=8eca",
   "2f9f=8f9b 2fa0=8fb0 2fa1=8fb5 2fa2=9091 2fa3=9149 2fa4=91c6 2fa5=91cc 2fa6=91d1 2fa7=9577",
   "2fa8=9580 2fa9=961c 2faa=96b6 2fab=96b9 2fac=96e8 2fad=9751 2fae=975e 2faf=9762 2fb0=9769",
   "2fb1=97cb 2fb2=97ed 2fb3=97f3 2fb4=9801 2fb5=98a8 2fb6=98db 2fb7=98df 2fb8=9996 2fb9=9999",
   "2fba=99ac 2fbb=9aa8 2fbc=9ad8 2fbd=9adf 2fbe=9b25 2fbf=9b2f 2fc0=9b32 2fc1=9b3c 2fc2=9b5a",
   "2fc3=9ce5 2fc4=9e75 2fc5=9e7f 2fc6=9ea5 2fc7=9ebb 2fc8=9ec3 2fc9=9ecd 2fca=9ed1 2fcb=9ef9",
   "2fcc=9efd 2fcd=9f0e 2fce=9f13 2fcf=9f20 2fd0=9f3b 2fd1=9f4a 2fd2=9f52 2fd3=9f8d 2fd4=9f9c",
   "2fd5=9fa0 3000=20 3007=30 3021-3029=31 3036=3012 3038=5341 3039-303a=5344 3042=3041",
   "3044=3043 3046=3045 3048=3047 304a=3049 3064=3063 3084=3083 3086=3085 3088=3087 308f=308e",
   "3095=304b 3096=3051 30a1=3041 30a2=3041 30a3=3043 30a4=3043 30a5=3045 30a6=3045 30a7=3047",
   "30a8=3047 30a9=3049 30aa=3049 30ab=304b 30ad=304d 30af=304f 30b1=3051 30b3=3053 30b5=3055",
   "30b7=3057 30b9=3059 30bb=305b 30bd=305d 30bf=305f 30c1=3061 30c3=3063 30c4=3063 30c6=3066",
   "30c8=3068 30ca-30cf=306a 30d2=3072 30d5=3075 30d8=3078 30db=307b 30de-30e3=307e 30e4=3083",
   "30e5=3085 30e6=3085 30e7=3087 30e8=3087 30e9-30ee=3089 30ef=308e 30f0-30f3=3090 30f5=304b",
   "30f6=3051 312e=311c 3131-3132=1100 3133=11aa 3134=1102 3135-3136=11ac 3137-3139=1103",
   "313a-313f=11b0 3140=111a 3141-3143=1106 3144=1121 3145-314e=1109 314f-3163=1161 3164=1160",
   "3165-3166=1114 3167-3168=11c7 3169=11cc 316a=11ce 316b=11d3 316c=11d7 316d=11d9 316e=111c",
   "316f=11dd 3170=11df 3171-3172=111d 3173=1120 3174-3175=1122 3176=1127 3177=1129",
   "3178-317c=112b 317d=1132 317e=1136 317f=1140 3180=1147 3181=114c 3182-3183=11f1",
   "3184-3186=1157 3187-3188=1184 3189=1188 318a-318b=1191 318c=1194 318d=119e 318e=11a1",
   "3192=4e00 3193=4e8c 3194=4e09 3195=56db 3196=4e0a 3197=4e2d 3198=4e0b 3199=7532 319a=4e59",
   "319b=4e19 319c=4e01 319d=5929 319e=5730 319f=4eba 31b4=3106 31b5=310a 31b6-31b7=310e",
   "31bb=310d 31f0=304f 31f1=3057 31f2=3059 31f3=3068 31f4=306c 31f5=306f 31f6=3072 31f7=3075",
   "31f8=3078 31f9=307b 31fa=3080 31fb-31ff=3089 3244=554f 3245=5e7c 3246=6587 3247=7b8f",
   "3260=1100 3261-3262=1102 3263-3265=1105 3266=1109 3267-3268=110b 3269-326d=110e 3280=4e00",
   "3281=4e8c 3282=4e09 3283=56db 3284=4e94 3285=516d 3286=4e03 3287=516b 3288=4e5d 3289=5341",
   "328a=6708 328b=706b 328c=6c34 328d=6728 328e=91d1 328f=571f 3290=65e5 3291=682a 3292=6709",
   "3293=793e 3294=540d 3295=7279 3296=8ca1 3297=795d 3298=52b4 3299=79d8 329a=7537 329b=5973",
   "329c=9069 329d=512a 329e=5370 329f=6ce8 32a0=9805 32a1=4f11 32a2=5199 32a3=6b63 32a4=4e0a",
   "32a5=4e2d 32a6=4e0b 32a7=5de6 32a8=53f3 32a9=533b 32aa=5b97 32ab=5b66 32ac=76e3 32ad=4f01",
   "32ae=8cc7 32af=5354 32b0=591c 32d0=3041 32d1=3043 32d2=3045 32d3=3047 32d4=3049 32d5=304b",
   "32d6=304d 32d7=304f 32d8=3051 32d9=3053 32da=3055 32db=3057 32dc=3059 32dd=305b 32de=305d",
   "32df=305f 32e0=3061 32e1=3063 32e2=3066 32e3=3068 32e4-32e9=306a 32ea=3072 32eb=3075",
   "32ec=3078 32ed=307b 32ee-32f3=307e 32f4=3085 32f5=3087 32f6-32fb=3089 32fc-32fe=3090",
   "a610=a558 a611=a56a a612=a587 a620-a629=30 a62a=a56e a62b=a5d1 a641=a640 a643=a642 a645=a644",
   "a647=a646 a648=2df8 a649=2df8 a64a=1c88 a64b=1c88 a64d=a64c a64f=a64e a651=a650 a653=a652",
   "a655=a654 a656=2dfc a657=2dfc a659=a658 a65b=a65a a65d=a65c a65f=a65e a661=a660 a663=a662",
   "a665=a664 a667=a666 a668=41e a669=41e a66a=41e a66b=41e a66c=41e a66d=41e a66e=41e a674=404",
   "a675=418 a677=423 a678-a67a=42a a67b=460 a681=a680 a683=a682 a685=a684 a687=a686 a689=a688",
   "a68b=a68a a68d=a68c a68f=a68e a691=a690 a693=a692 a695=a694 a697=a696 a698=41e a699=41e",
   "a69a=41e a69b=41e a69c=42a a69d=42c a69e=424 a69f=464 a723=a722 a725=a724 a727=a726",
   "a72b=a72a a72d=a72c a72f=a72e a73f=a73e a741=a740 a743=a742 a745=a744 a747=a746 a749=a748",
   "a74b=a74a a74d=a74c a751=a750 a753=a752 a755=a754 a757=a756 a759=a758 a75d=a75c a75f=a75e",
   "a763=a762 a765=a764 a767=a766 a769=a768 a76b=a76a a76d=a76c a76e=1dd2 a76f=1dd2 a770=1dd2",
   "a77f=a77e a781=a780 a78c=a78b a78d=265 a791=a790 a793=a792 a797=a796 a799=a798 a7aa=266",
   "a7ab=25c a7ac=261 a7ad=26c a7ae=26a a7b0=29e a7b1=287 a7b2=29d a7b4=1de9 a7b5=1de9 a7b7=a7b6",
   "a7b9=a7b8 a7bb=a7ba a7bd=a7bc a7bf=a7be a7c4=a794 a7c5=282 a7c6=1d8e a7c8=a7c7 a7ca=a7c9",
   "a7cb=264 a7cd=a7cc a7cf=a7ce a7d1=a7d0 a7d3=a7d2 a7d5=a7d4 a7d7=a7d6 a7db=a7da a7dc=19b",
   "a7f1=53 a7f2=43 a7f3=46 a7f4=51 a7f6=a7f5 a8d0-a8d9=30 a8f3=a8f2 a8f4=a8f2 a8f5=a8f2",
   "a8f6=a8f2 a8f7=a8f2 a900-a909=30 a9ac=a9ab a9b5=a9b4 a9d0-a9d9=30 a9f0-a9f9=30 aa50-aa59=30",
   "ab38=1dec ab53=a7b3 ab5c=a726 ab5d=ab37 ab5e=26b ab5f=ab52 ab69=28d ab70-abbf=13a0",
   "abf0-abf9=30 fb20=5e2 fb21=5d0 fb22-fb23=5d3 fb24=5da fb25-fb26=5dc fb27=5e8 fb28=5ea",
   "fb29=2b fb50=671 fb51=671 fb52=67b fb53=67b fb54=67b fb55=67b fb56=67e fb57=67e fb58=67e",
   "fb59=67e fb5a=680 fb5b=680 fb5c=680 fb5d=680 fb5e=67a fb5f=67a fb60=67a fb61=67a fb62=67f",
   "fb63=67f fb64=67f fb65=67f fb66=679 fb67=679 fb68=679 fb69=679 fb6a=6a4 fb6b=6a4 fb6c=6a4",
   "fb6d=6a4 fb6e=6a6 fb6f=6a6 fb70=6a6 fb71=6a6 fb72=684 fb73=684 fb74=684 fb75=684 fb76=683",
   "fb77=683 fb78=683 fb79=683 fb7a=686 fb7b=686 fb7c=686 fb7d-fb7e=686 fb7f=687 fb80=687",
   "fb81=687 fb82=68d fb83=68d fb84=68c fb85=68c fb86=68e fb87=68e fb88=688 fb89=688 fb8a=698",
   "fb8b=698 fb8c=691 fb8d=691 fb8e=6a9 fb8f=6a9 fb90=6a9 fb91=6a9 fb92=6af fb93=6af fb94=6af",
   "fb95=6af fb96=6b3 fb97=6b3 fb98=6b3 fb99=6b3 fb9a=6b1 fb9b=6b1 fb9c=6b1 fb9d=6b1 fb9e=6ba",
   "fb9f-fba0=6ba fba1=6bb fba2=6bb fba3=6bb fba6=6c1 fba7=6c1 fba8=6c1 fba9=6c1 fbaa=6be",
   "fbab=6be fbac=6be fbad=6be fbae=6d2 fbaf=6d2 fbd3=6ad fbd4=6ad fbd5=6ad fbd6=6ad fbd7=6c7",
   "fbd8=6c7 fbd9=6c6 fbda=6c6 fbdb=6c8 fbdc=6c8 fbde=6cb fbdf=6cb fbe0=6c5 fbe1=6c5 fbe2=6c9",
   "fbe3=6c9 fbe4=6d0 fbe5=6d0 fbe6=6d0 fbe7=6d0 fbe8=649 fbe9=649 fbfc=6cc fbfd=6cc fbfe=6cc",
   "fbff=6cc fe10=2c fe11-fe12=3001 fe13-fe14=3a fe15=21 fe16=3f fe17-fe18=3016 fe31=2014",
   "fe32=2013 fe33=5f fe34=5f fe35-fe36=28 fe37=7b fe38=7d fe39-fe3a=3014 fe3b-fe3c=3010",
   "fe3d-fe3e=300a fe3f-fe40=3008 fe41-fe44=300c fe47=5b fe48=5d fe49=203e fe4a=203e fe4b=203e",
   "fe4c=203e fe4d=5f fe4e=5f fe4f=5f fe50=2c fe51=3001 fe52=2e fe54=3b fe55=3a fe56=3f fe57=21",
   "fe58=2014 fe59-fe5a=28 fe5b=7b fe5c=7d fe5d-fe5e=3014 fe5f=23 fe60=26 fe61-fe62=2a fe63=2d",
   "fe64=3c fe65=3e fe66=3d fe68=5c fe69-fe6a=24 fe6b=40 fe80-fe81=621 fe82-fe83=622 fe84=623",
   "fe86=fe85 fe88=fe87 fe8a=fe89 fe8b=fe89 fe8c=fe89 fe8d=8ad fe8e=8ad fe8f=628 fe90=628",
   "fe91=628 fe92-fe93=628 fe94-fe95=629 fe96=62a fe97=62a fe98-fe99=62a fe9a=62b fe9b=62b",
   "fe9c-fe9d=62b fe9e=62c fe9f=62c fea0-fea1=62c fea2=62d fea3=62d fea4-fea5=62d fea6=62e",
   "fea7=62e fea8-fea9=62e feaa-feab=62f feac-fead=630 feae-feaf=631 feb0-feb1=632 feb2=633",
   "feb3=633 feb4-feb5=633 feb6=634 feb7=634 feb8-feb9=634 feba=635 febb=635 febc-febd=635",
   "febe=636 febf=636 fec0-fec1=636 fec2=637 fec3=637 fec4-fec5=637 fec6=638 fec7=638",
   "fec8-fec9=638 feca=639 fecb=639 fecc-fecd=639 fece=63a fecf=63a fed0=63a fed1=641 fed2=641",
   "fed3=641 fed4-fed5=641 fed6=642 fed7=642 fed8-fed9=642 feda=643 fedb=643 fedc-fedd=643",
   "fede=644 fedf=644 fee0-fee1=644 fee2=645 fee3=645 fee4-fee5=645 fee6=646 fee7=646",
   "fee8-fee9=646 feea=647 feeb=647 feec-feed=647 feee-feef=648 fef0-fef1=649 fef2=64a fef3=64a",
   "fef4=64a ff01-ff40=21 ff41-ff5a=41 ff5b-ff5e=7b ff5f-ff60=2985 ff61=3002 ff62-ff63=300c",
   "ff64=3001 ff65=30fb ff66=3092 ff67=3041 ff68=3043 ff69=3045 ff6a=3047 ff6b=3049 ff6c=3083",
   "ff6d=3085 ff6e=3087 ff6f=3063 ff70=30fc ff71=3041 ff72=3043 ff73=3045 ff74=3047 ff75=3049",
   "ff76=304b ff77=304d ff78=304f ff79=3051 ff7a=3053 ff7b=3055 ff7c=3057 ff7d=3059 ff7e=305b",
   "ff7f=305d ff80=305f ff81=3061 ff82=3063 ff83=3066 ff84=3068 ff85-ff8a=306a ff8b=3072",
   "ff8c=3075 ff8d=3078 ff8e=307b ff8f-ff94=307e ff95=3085 ff96=3087 ff97-ff9c=3089 ff9d=3093",
   "ffa0=1160 ffa1-ffa2=1100 ffa3=11aa ffa4=1102 ffa5-ffa6=11ac ffa7-ffa9=1103 ffaa-ffaf=11b0",
   "ffb0=111a ffb1-ffb3=1106 ffb4=1121 ffb5-ffbe=1109 ffc2-ffc7=1161 ffca-ffcf=1167",
   "ffd2-ffd7=116d ffda-ffdc=1173 ffe0-ffe1=a2 ffe2=ac ffe3=af ffe4=a6 ffe5=a5 ffe6=20a9",
   "ffe8=2502 ffe9-ffec=2190 ffed=25a0 ffee=25cb 10107-1010f=31 10142=31 10143=35 10148=35",
   "1014f=35 10158=31 10159=31 1015a-1015b=31 1015c=32 1015d=32 1015e=32 1015f=35 10173=35",
   "1018a=30 102e1-102e9=31 10320=31 10321=35 10376=10350 10377=10353 10378=10357 10379=1035d",
   "1037a=10361 103d1-103d2=31 10428-1044f=10400 104a0-104a9=30 104d8-104fb=104b0",
   "10597-105a1=10570 105a3-105b1=1057c 105b3-105b9=1058c 105bb-105bc=10594 10781-10782=2d0",
   "10784=299 10785=181 1078b-1078c=189 1078d=1d91 1078e=258 1078f=25e 10791=264 10792=262",
   "10793=193 10794=29b 10796=29c 10797=267 10798=284 1079b=26c 1079d=a78e 1079e=26e 107a0=28e",
   "107a3-107a4=276 107a5=51 107a6=27a 107a8-107a9=27d 107aa=1a6 107af=1ae 107b0=2c71 107b2=28f",
   "107b3-107b4=2a1 107b5=298 107b6-107b8=1c0 10858-1085a=31 1086e=1086d 10879-1087d=31",
   "10881=10880 10883=10882 10887=10886 1088d=1088c 1088f=1088e 10891=10890 10893=10892",
   "10895=10894 1089d=1089c 108a7-108aa=31 108ab-108ac=34 108fb=31 108fc=35 10916=31",
   "1091a-1091b=32 109c0-109c8=31 10a40-10a43=31 10a7d=31 10a9d=31 10aeb=31 10aec=35",
   "10b58-10b5b=31 10b78-10b7b=31 10ba9-10bac=31 10cc0=10c80 10cc2-10cc9=10c82 10ccc-10cd0=10c8c",
   "10cd2-10cdb=10c92 10cdd=10c9d 10ce0-10ce2=10ca0 10ce4-10cea=10ca4 10cec=10cac",
   "10cee-10cf2=10cae 10cfa=31 10cfb=35 10d30-10d39=30 10d40-10d49=30 10d64=10d53 10d65=10d61",
   "10d70-10d83=10d50 10d84=10d53 10d85=10d61 10e60-10e68=31 10ec5=64a 10f01=10f00 10f03=10f02",
   "10f06=10f05 10f0f=10f0e 10f16=10f15 10f1b=10f1a 10f1d-10f21=31 10f51=31 10fc5-10fc8=31",
   "11052-1105a=31 11066-1106f=30 110f0-110f9=30 11136-1113f=30 111d0-111d9=30 111e1-111e9=31",
   "112f0-112f9=30 113cf=113ce 11450-11459=30 114d0-114d9=30 11650-11659=30 116c0-116c9=30",
   "116d0-116d9=30 116da-116e3=30 11730-11739=30 118c0-118df=118a0 118e0-118e9=30 11950-11959=30",
   "11a3a=11a2b 11a3b-11a3e=11a2a 11a86-11a87=11a7c 11a88=11a7f 11a89=11a81 11a8a-11a8b=11a5c",
   "11a8c=11a60 11a8d=11a6b 11a8e-11a8f=11a6f 11a90=11a74 11a91-11a92=11a7c 11a93=11a7f",
   "11a94=11a81 11a95=11a7a 11bf0-11bf9=30 11c50-11c59=30 11c5a-11c62=31 11d46=11d26 11d47=11d26",
   "11d50-11d59=30 11da0-11da9=30 11de0-11de9=30 11f50-11f59=30 12400-12407=32 12408-1240e=33",
   "1240f-12414=34 12415-1241d=31 1241e-12422=31 12423-12424=32 12425-1242b=33 1242c-1242e=31",
   "1242f-12431=33 12434-12436=31 12437-12439=33 1243a=33 1243b-1243c=33 1243d=34 1243e=34",
   "1243f=34 12440-12441=36 12442=37 12443-12444=37 12445-12446=38 12447=39 12448=39 12449=39",
   "1244a-1244e=32 1244f-12452=31 12453-12454=34 12455=35 12456-12457=32 12458-12459=31",
   "12469-1246e=34 16130-16139=30 16a60-16a69=30 16ac0-16ac9=30 16b50-16b59=30 16d70-16d79=30",
   "16e60-16e7f=16e40 16e80-16e89=30 16ebb-16ed3=16ea0 16f06=16f04 16f13=16f10 16f25=16f23",
   "16f3f=16f3d 16ff2=513f 16ff3=5152 1b122=1b11f 1b132=3053 1b150-1b152=3090 1b155=3053",
   "1b164-1b167=3090 1ccd6-1ccef=41 1ccf0-1ccf9=30 1d2c0-1d2c9=30 1d2e0-1d2e9=30 1d360-1d368=31",
   "1d372-1d376=31 1d377=31 1d378=35 1d400-1d419=41 1d41a-1d433=41 1d434-1d44d=41 1d44e-1d454=41",
   "1d456-1d467=49 1d468-1d481=41 1d482-1d49b=41 1d49c=41 1d49e-1d49f=43 1d4a2=47 1d4a5-1d4a6=4a",
   "1d4a9-1d4ac=4e 1d4ae-1d4b5=53 1d4b6-1d4b9=41 1d4bb=46 1d4bd-1d4c3=48 1d4c5-1d4cf=50",
   "1d4d0-1d4e9=41 1d4ea-1d503=41 1d504-1d505=41 1d507-1d50a=44 1d50d-1d514=4a 1d516-1d51c=53",
   "1d51e-1d537=41 1d538-1d539=41 1d53b-1d53e=44 1d540-1d544=49 1d546=4f 1d54a-1d550=53",
   "1d552-1d56b=41 1d56c-1d585=41 1d586-1d59f=41 1d5a0-1d5b9=41 1d5ba-1d5d3=41 1d5d4-1d5ed=41",
   "1d5ee-1d607=41 1d608-1d621=41 1d622-1d63b=41 1d63c-1d655=41 1d656-1d66f=41 1d670-1d689=41",
   "1d68a-1d6a3=41 1d6a4=131 1d6a5=237 1d6a8-1d6b2=391 1d6b3=b5 1d6b4-1d6b8=39d 1d6b9=398",
   "1d6ba-1d6c0=3a3 1d6c1=2207 1d6c2-1d6cc=391 1d6cd=b5 1d6ce-1d6d2=39d 1d6d3=3a3",
   "1d6d4-1d6da=3a3 1d6db=2202 1d6dc=395 1d6dd=398 1d6de=39a 1d6df=3a6 1d6e0=3a1 1d6e1=3a0",
   "1d6e2-1d6ec=391 1d6ed=b5 1d6ee-1d6f2=39d 1d6f3=398 1d6f4-1d6fa=3a3 1d6fb=2207",
   "1d6fc-1d706=391 1d707=b5 1d708-1d70c=39d 1d70d=3a3 1d70e-1d714=3a3 1d715=2202 1d716=395",
   "1d717=398 1d718=39a 1d719=3a6 1d71a=3a1 1d71b=3a0 1d71c-1d726=391 1d727=b5 1d728-1d72c=39d",
   "1d72d=398 1d72e-1d734=3a3 1d735=2207 1d736-1d740=391 1d741=b5 1d742-1d746=39d 1d747=3a3",
   "1d748-1d74e=3a3 1d74f=2202 1d750=395 1d751=398 1d752=39a 1d753=3a6 1d754=3a1 1d755=3a0",
   "1d756-1d760=391 1d761=b5 1d762-1d766=39d 1d767=398 1d768-1d76e=3a3 1d76f=2207",
   "1d770-1d77a=391 1d77b=b5 1d77c-1d780=39d 1d781=3a3 1d782-1d788=3a3 1d789=2202 1d78a=395",
   "1d78b=398 1d78c=39a 1d78d=3a6 1d78e=3a1 1d78f=3a0 1d790-1d79a=391 1d79b=b5 1d79c-1d7a0=39d",
   "1d7a1=398 1d7a2-1d7a8=3a3 1d7a9=2207 1d7aa-1d7b4=391 1d7b5=b5 1d7b6-1d7ba=39d 1d7bb=3a3",
   "1d7bc-1d7c2=3a3 1d7c3=2202 1d7c4=395 1d7c5=398 1d7c6=39a 1d7c7=3a6 1d7c8=3a1 1d7c9=3a0",
   "1d7ca=3dc 1d7cb=3dc 1d7ce-1d7d7=30 1d7d8-1d7e1=30 1d7e2-1d7eb=30 1d7ec-1d7f5=30",
   "1d7f6-1d7ff=30 1df04=1079c 1df05=1079f 1df06=107a1 1df08=107a7 1df0a=107b9 1df1e=107ba",
   "1e000-1e006=2c00 1e008-1e018=2c08 1e01b-1e021=2c1b 1e023-1e024=2c23 1e026-1e02a=2c26",
   "1e030-1e038=410 1e039-1e03b=41a 1e03c-1e046=41e 1e047=42b 1e048-1e049=42d 1e04a=a688",
   "1e04b=4d8 1e04c=406 1e04d=408 1e04e=4e8 1e04f=4ae 1e050=4c0 1e051-1e059=410 1e05a-1e05b=41a",
   "1e05c-1e05d=41e 1e05e=421 1e05f-1e064=423 1e065-1e066=42a 1e068=406 1e069=405 1e06a=40f",
   "1e06b=4aa 1e06c=a650 1e06d=4b0 1e08f=406 1e140-1e149=30 1e2f0-1e2f9=30 1e4f0-1e4f9=30",
   "1e5f1-1e5fa=30 1e8c7-1e8cf=31 1e922-1e943=1e900 1e950-1e959=30 1ec71-1ec79=31 1eca3-1ecab=31",
   "1ed01-1ed09=31 1ee00=8ad 1ee01=628 1ee02=62c 1ee03=62f 1ee05=648 1ee06=632 1ee07=62d",
   "1ee08=637 1ee09=64a 1ee0a-1ee0d=643 1ee0e=633 1ee0f=639 1ee10=641 1ee11=635 1ee12=642",
   "1ee13=631 1ee14=634 1ee15-1ee16=62a 1ee17=62e 1ee18=630 1ee19=636 1ee1a=638 1ee1b=63a",
   "1ee1c=66e 1ee1d=6ba 1ee1e=6a1 1ee1f=66f 1ee21=628 1ee22=62c 1ee24=647 1ee27=62d 1ee29=64a",
   "1ee2a-1ee2d=643 1ee2e=633 1ee2f=639 1ee30=641 1ee31=635 1ee32=642 1ee34=634 1ee35-1ee36=62a",
   "1ee37=62e 1ee39=636 1ee3b=63a 1ee42=62c 1ee47=62d 1ee49=64a 1ee4b=644 1ee4d=646 1ee4e=633",
   "1ee4f=639 1ee51=635 1ee52=642 1ee54=634 1ee57=62e 1ee59=636 1ee5b=63a 1ee5d=6ba 1ee5f=66f",
   "1ee61=628 1ee62=62c 1ee64=647 1ee67=62d 1ee68=637 1ee69=64a 1ee6a=643 1ee6c-1ee6d=645",
   "1ee6e=633 1ee6f=639 1ee70=641 1ee71=635 1ee72=642 1ee74=634 1ee75-1ee76=62a 1ee77=62e",
   "1ee79=636 1ee7a=638 1ee7b=63a 1ee7c=66e 1ee7e=6a1 1ee80=8ad 1ee81=628 1ee82=62c 1ee83=62f",
   "1ee84-1ee85=647 1ee86=632 1ee87=62d 1ee88=637 1ee89=64a 1ee8b-1ee8d=644 1ee8e=633 1ee8f=639",
   "1ee90=641 1ee91=635 1ee92=642 1ee93=631 1ee94=634 1ee95-1ee96=62a 1ee97=62e 1ee98=630",
   "1ee99=636 1ee9a=638 1ee9b=63a 1eea1=628 1eea2=62c 1eea3=62f 1eea5=648 1eea6=632 1eea7=62d",
   "1eea8=637 1eea9=64a 1eeab-1eead=644 1eeae=633 1eeaf=639 1eeb0=641 1eeb1=635 1eeb2=642",
   "1eeb3=631 1eeb4=634 1eeb5-1eeb6=62a 1eeb7=62e 1eeb8=630 1eeb9=636 1eeba=638 1eebb=63a",
   "1f10b=30 1f10c=30 1f12b=43 1f12c=52 1f130-1f149=41 1f150-1f169=41 1f170-1f189=41 1f18a=50",
   "1f1a5=44 1f202=3055 1f210=624b 1f211=5b57 1f212=53cc 1f214=4e8c 1f215=591a 1f216=89e3",
   "1f217=5929 1f218=4ea4 1f219=6620 1f21a=7121 1f21b=6599 1f21c=524d 1f21d=5f8c 1f21e=518d",
   "1f21f=65b0 1f220=521d 1f221=7d42 1f222=751f 1f223=8ca9 1f224=58f0 1f225=5439 1f226=6f14",
   "1f227=6295 1f228=6355 1f229=4e00 1f22a=4e09 1f22b=904a 1f22c=5de6 1f22d=4e2d 1f22e=53f3",
   "1f22f=6307 1f230=8d70 1f231=6253 1f232=7981 1f233=7a7a 1f234=5408 1f235=6e80 1f236=6709",
   "1f237=6708 1f238=7533 1f239=5272 1f23a=55b6 1f23b=914d 1f250=5f97 1f251=53ef 1fbf0-1fbf9=30"]

def shift (offset : Nat) (c : Char) : Char := Char.ofNat (c.toNat + offset)

def parseEquivalents (word : List Char) : List (Char × Char) :=
  match splitOnce? '=' word with
  | some (range, first) =>
    let first := parseChar first
    (rangeChars (parseRange range)).zipIdx.map fun (c, offset) => (c, shift offset first)
  | none => []

@[irreducible] def equivalents : Std.HashMap Char Char :=
  Std.HashMap.ofList (equivalentRows.flatMap fun row => (words row.toList).flatMap parseEquivalents)

end BlogDesk.Collation
