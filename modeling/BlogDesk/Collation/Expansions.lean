import BlogDesk.Collation.Element

/-!
# Expansions

Characters that count as several, or as a letter with a mark: ligatures,
fractions, digraphs, letters with a stroke, radicals.
-/

namespace BlogDesk.Collation

open Text (parseChar splitOnce? words)

def expansionRows : List String :=
  ["bc=31.2044.34 bd=31.2044.32 be=33.2044.34 c6=41!1.45 d0=44!1 d8=4f.+338 df=53!1.53",
   "e6=41!1.45 f0=44!1 f8=4f.+338 110=44.+335 111=44.+335 126=48.+335 127=48.+335 132=49.4a",
   "133=49.4a 13f=4c.+b7 140=4c.+b7 141=4c.+335 142=4c.+335 149=2bc.4e 152=4f!1.45 153=4f!1.45",
   "17f=53!4 18d=5a.57 1be=54.53 1c4=44.5a.+30c 1c5=44.5a.+30c 1c6=44.5a.+30c 1c7=4c.4a",
   "1c8=4c.4a 1c9=4c.4a 1ca=4e.4a 1cb=4e.4a 1cc=4e.4a 1f1=44.5a 1f2=44.5a 1f3=44.5a 238=44.42",
   "239=51.50 2a3=44.5a 2a4=44.1b7 2a5=44.291 2a6=54.53 2a7=54.1a9 2a8=54.255 2a9=46.14a",
   "2aa=4c.53 2ab=4c.5a 3cf=39a.391.399 3d7=39a.391.399 490=413!1 491=413!1 587=535.552",
   "5ef=5d9.5d4.5d5.5d4 5f0=5d5.5d5 5f1=5d5.5d9 5f2=5d9.5d9 5f3=27!a 5f4=22!c 675=621.8ad",
   "676=621.648 677=621.6c7 678=621.64a 6fd=621!1 6fe=645!1 714=713!1 71c=71b!1 727=726!1",
   "72d=712!1 72e=713!7 72f=715!1 7e8=7d6!1 7e9=7d7!1 7ea=7d9!1 9ce=9a4.9cd c5c=c36.c4d.c30.c40",
   "c5d=c28.c4d cdc=cb6.ccd.cb0.cc0 cdd=ca8.ccd d4e=d30.d3b d54=d2e.d3b d55=d2f.d3b d56=d34.d3b",
   "d7a=d23.d3b d7b=d28.d3b d7c=d30.d3b d7d=d32.d3b d7e=d33.d3b d7f=d15.d3b edc=eab.e99",
   "edd=eab.ea1 f00=f68.f7c.+902 f6a=f62!1 fba=fad!1 fbb=fb1!1 fbc=fb2!1 103f=101e.1039.101e",
   "16a1=16a0!1 16a4=16a2!1 16a5=16a2!7 16a7=16a6!1 16a9=16a8!1 16ac=16a8!4 16ad=16a8!7",
   "16ae=16a8!a 16b3=16b2!1 16b4=16b2!4 16b5=16b2!7 16b6=16b2!a 16bb=16ba!1 16bc=16ba!5",
   "16bd=16ba!9 16bf=16be!1 16c0=16be!7 16c2=16c1!1 16c4=16c3!1 16c6=16c5!1 16cb=16ca!1",
   "16cc=16ca!6 16cd=16ca!8 16ce=16ca!a 16d0=16cf!1 16d1=16cf!7 16d3=16d2!1 16d4=16d2!7",
   "16d5=16c8!1 16d8=16d7!1 16d9=16d7!7 16db=16da!1 16dd=16dc!1 16e7=16e6!1 16e8=16e6!7",
   "16e9=16b9!1 16ea=16ca!3 16ee=16c5.16da 16ef=16d7!1.16d7!1 16f0=16a6.16a6 191d=1908.1929",
   "191e=190b.192a 19de=199c.19b6 19df=199c.19b6.19c1 1a54=1a46.1a60.1a46 1acc=47!1 1acd=52!1",
   "1ace=54!7 1b4c=1b1a.1b44.1b1c 1d2d=41!1.45 1d79=47!1 1d7a=54!1.48 1d9e=44!1 1dd3=41!1",
   "1dd4=41!1.45 1dd5=41.4f 1dd6=41.56 1dd7=43.+327 1dd8=44!7 1dd9=44!1 1de3=52!7 1de5=53!4",
   "1ded=4f.+316 1df0=55.+316 1df2=41.+308 1df3=4f.+308 1df4=55.+308 1e9a=41.2be 1e9e=53!1.53",
   "1efa=4c.4c 1efb=4c.4c 2018=27!1 2019=27!3 201a=27!6 201b=27!8 201c=22!1 201d=22!2 201e=22!4",
   "201f=22!6 2025=2e.2e 2026=2e.2e.2e 2033=2032.2032 2034=2032.2032.2032 2036=2035.2035",
   "2037=2035.2035.2035 203c=21.21 2047=3f.3f 2048=3f.21 2049=21.3f 2057=2032.2032.2032.2032",
   "20a7=50.54.53 20a8=52.53 2100=41.2f.43 2101=41.2f.53 2103=b0.43 2105=43.2f.4f 2106=43.2f.55",
   "2109=b0.46 210f=48.+335 2116=4e.4f 2120=53.4d 2121=54.45.4c 2122=54.4d 213b=46.41.58",
   "214d=41.2f.53 2150=31.2044.37 2151=31.2044.39 2152=31.2044.31.30 2153=31.2044.33",
   "2154=32.2044.33 2155=31.2044.35 2156=32.2044.35 2157=33.2044.35 2158=34.2044.35",
   "2159=31.2044.36 215a=35.2044.36 215b=31.2044.38 215c=33.2044.38 215d=35.2044.38",
   "215e=37.2044.38 215f=31.2044 2161=49.49 2162=49.49.49 2163=49.56 2165=56.49 2166=56.49.49",
   "2167=56.49.49.49 2168=49.58 216a=58.49 216b=58.49.49 2171=49.49 2172=49.49.49 2173=49.56",
   "2175=56.49 2176=56.49.49 2177=56.49.49.49 2178=49.58 217a=58.49 217b=58.49.49",
   "2189=30.2044.33 222c=222b.222b 222d=222b.222b.222b 222f=222e.222e 2230=222e.222e.222e",
   "2469=31.30 246a=31.31 246b=31.32 246c=31.33 246d=31.34 246e=31.35 246f=31.36 2470=31.37",
   "2471=31.38 2472=31.39 2473=32.30 2474=28.31.29 2475=28.32.29 2476=28.33.29 2477=28.34.29",
   "2478=28.35.29 2479=28.36.29 247a=28.37.29 247b=28.38.29 247c=28.39.29 247d=28.31.30.29",
   "247e=28.31.31.29 247f=28.31.32.29 2480=28.31.33.29 2481=28.31.34.29 2482=28.31.35.29",
   "2483=28.31.36.29 2484=28.31.37.29 2485=28.31.38.29 2486=28.31.39.29 2487=28.32.30.29",
   "2488=31.2e 2489=32.2e 248a=33.2e 248b=34.2e 248c=35.2e 248d=36.2e 248e=37.2e 248f=38.2e",
   "2490=39.2e 2491=31.30.2e 2492=31.31.2e 2493=31.32.2e 2494=31.33.2e 2495=31.34.2e",
   "2496=31.35.2e 2497=31.36.2e 2498=31.37.2e 2499=31.38.2e 249a=31.39.2e 249b=32.30.2e",
   "249c=28.41.29 249d=28.42.29 249e=28.43.29 249f=28.44.29 24a0=28.45.29 24a1=28.46.29",
   "24a2=28.47.29 24a3=28.48.29 24a4=28.49.29 24a5=28.4a.29 24a6=28.4b.29 24a7=28.4c.29",
   "24a8=28.4d.29 24a9=28.4e.29 24aa=28.4f.29 24ab=28.50.29 24ac=28.51.29 24ad=28.52.29",
   "24ae=28.53.29 24af=28.54.29 24b0=28.55.29 24b1=28.56.29 24b2=28.57.29 24b3=28.58.29",
   "24b4=28.59.29 24b5=28.5a.29 24eb=31.31 24ec=31.32 24ed=31.33 24ee=31.34 24ef=31.35",
   "24f0=31.36 24f1=31.37 24f2=31.38 24f3=31.39 24f4=32.30 24fe=31.30 277f=31.30 2789=31.30",
   "2793=31.30 2a0c=222b.222b.222b.222b 2a74=3a.3a.3d 2a75=3d.3d 2a76=3d.3d.3d",
   "2ce4=2c94.2c80.2c92 2df5=421.422 2e42=22!7 2e80=4e36!1 2e81=5382!1 2e84=4e59!1 2e86=5182!1",
   "2e87=51e0!1 2e88=5200!1 2e8a=535c!1 2e8b=5369!1 2e8c=5c0f!1 2e8d=5c0f!7 2e8e=5c22!1",
   "2e91=5c23!1 2e95=5f50!1 2e97=5fc3!1 2e9c=65e5!1 2e9d=6708!1 2e9e=6b7a!1 2ea5=722b!1",
   "2ea7=725b!1 2ea9=738b!1 2eaa=758b!1 2eab=76ee!1 2eac=793a!1 2eae=7af9!1 2eb3=7f53!1",
   "2eb4=7f53!7 2eb5=7f52!1 2eb6=7f8a!1 2eb7=7f8a!7 2ebb=807f!1 2ebc=8089!1 2ebd=81fc!1",
   "2ebf=8279!1 2ec0=8279!7 2ec7=89d2!1 2eca=8db3!1 2ecd=8fb6!1 2ece=8fb6!7 2ecf=9091!1",
   "2ed5=961c!1 2ed7=96e8!1 2ede=98e0!1 2ee1=9996!1 2ee3=9aa8!1 2ee4=9b3c!1 2ee7=9e75!1",
   "2eeb=9f4a!1 2eed=9f52!1 2eef=9f8d!1 2ef1=9f9c!1 2ef2=9f9c!7 3006=3057.3081 301d=22!9",
   "301e=22!a 301f=22!b 3032=3031.+3099 3034=3033.+3099 303c=307e.3059 309f=3087.308a",
   "30ff=3053.3068 31a0=3105!1 31a1=3117!1 31a2=3110!1 31a3=310d!1 31a5=31a4!1 31a7=311b!1",
   "31a8=3128!7 31a9=311a!1 31aa=3127!1 31ab=3128!1 31ae=311e!1 31af=3120!1 31b3=3127!1",
   "3200=28.1100.29 3201=28.1102.29 3202=28.1103.29 3203=28.1105.29 3204=28.1106.29",
   "3205=28.1107.29 3206=28.1109.29 3207=28.110b.29 3208=28.110c.29 3209=28.110e.29",
   "320a=28.110f.29 320b=28.1110.29 320c=28.1111.29 320d=28.1112.29 320e=28.1100.1161.29",
   "320f=28.1102.1161.29 3210=28.1103.1161.29 3211=28.1105.1161.29 3212=28.1106.1161.29",
   "3213=28.1107.1161.29 3214=28.1109.1161.29 3215=28.110b.1161.29 3216=28.110c.1161.29",
   "3217=28.110e.1161.29 3218=28.110f.1161.29 3219=28.1110.1161.29 321a=28.1111.1161.29",
   "321b=28.1112.1161.29 321c=28.110c.116e.29 321d=28.110b.1169.110c.1165.11ab.29",
   "321e=28.110b.1169.1112.116e.29 3220=28.4e00.29 3221=28.4e8c.29 3222=28.4e09.29",
   "3223=28.56db.29 3224=28.4e94.29 3225=28.516d.29 3226=28.4e03.29 3227=28.516b.29",
   "3228=28.4e5d.29 3229=28.5341.29 322a=28.6708.29 322b=28.706b.29 322c=28.6c34.29",
   "322d=28.6728.29 322e=28.91d1.29 322f=28.571f.29 3230=28.65e5.29 3231=28.682a.29",
   "3232=28.6709.29 3233=28.793e.29 3234=28.540d.29 3235=28.7279.29 3236=28.8ca1.29",
   "3237=28.795d.29 3238=28.52b4.29 3239=28.4ee3.29 323a=28.547c.29 323b=28.5b66.29",
   "323c=28.76e3.29 323d=28.4f01.29 323e=28.8cc7.29 323f=28.5354.29 3240=28.796d.29",
   "3241=28.4f11.29 3242=28.81ea.29 3243=28.81f3.29 3248=31.30 3249=32.30 324a=33.30 324b=34.30",
   "324c=35.30 324d=36.30 324e=37.30 324f=38.30 3250=50.54.45 3251=32.31 3252=32.32 3253=32.33",
   "3254=32.34 3255=32.35 3256=32.36 3257=32.37 3258=32.38 3259=32.39 325a=33.30 325b=33.31",
   "325c=33.32 325d=33.33 325e=33.34 325f=33.35 326e=1100.1161 326f=1102.1161 3270=1103.1161",
   "3271=1105.1161 3272=1106.1161 3273=1107.1161 3274=1109.1161 3275=110b.1161 3276=110c.1161",
   "3277=110e.1161 3278=110f.1161 3279=1110.1161 327a=1111.1161 327b=1112.1161",
   "327c=110e.1161.11b7.1100.1169 327d=110c.116e.110b.1174 327e=110b.116e 32b1=33.36 32b2=33.37",
   "32b3=33.38 32b4=33.39 32b5=34.30 32b6=34.31 32b7=34.32 32b8=34.33 32b9=34.34 32ba=34.35",
   "32bb=34.36 32bc=34.37 32bd=34.38 32be=34.39 32bf=35.30 32c0=31.6708 32c1=32.6708",
   "32c2=33.6708 32c3=34.6708 32c4=35.6708 32c5=36.6708 32c6=37.6708 32c7=38.6708 32c8=39.6708",
   "32c9=31.30.6708 32ca=31.31.6708 32cb=31.32.6708 32cc=48.47 32cd=45.52.47 32ce=45.56",
   "32cf=4c.54.44 32ff=4ee4.548c 3300=3041.306f.+309a.30fc.3068 3301=3041.308b.3075.3041",
   "3302=3041.3093.3078.+309a.3041 3303=3041.30fc.308b 3304=3043.306b.3093.304f.+3099",
   "3305=3043.3093.3061 3306=3045.3049.3093 3307=3047.3059.304f.30fc.3068.+3099",
   "3308=3047.30fc.304b.30fc 3309=3049.3093.3059 330a=3049.30fc.3080 330b=304b.3043.308a",
   "330c=304b.3089.3063.3068 330d=304b.308d.308a.30fc 330e=304b.+3099.308d.3093",
   "330f=304b.+3099.3093.307e 3310=304d.+3099.304b.+3099 3311=304d.+3099.306b.30fc",
   "3312=304d.3085.308a.30fc 3313=304d.+3099.308b.305f.+3099.30fc 3314=304d.308d",
   "3315=304d.308d.304f.+3099.3089.3080 3316=304d.308d.3081.30fc.3068.308b",
   "3317=304d.308d.308e.3063.3068 3318=304f.+3099.3089.3080 3319=304f.+3099.3089.3080.3068.3093",
   "331a=304f.308b.305b.+3099.3043.308d 331b=304f.308d.30fc.306d 331c=3051.30fc.3059",
   "331d=3053.308b.306a 331e=3053.30fc.307b.+309a 331f=3055.3043.304f.308b",
   "3320=3055.3093.3061.30fc.3080 3321=3057.308a.3093.304f.+3099 3322=305b.3093.3061",
   "3323=305b.3093.3068 3324=305f.+3099.30fc.3059 3325=3066.+3099.3057 3326=3068.+3099.308b",
   "3327=3068.3093 3328=306a.306e 3329=306e.3063.3068 332a=306f.3043.3063",
   "332b=306f.+309a.30fc.305b.3093.3068 332c=306f.+309a.30fc.3063 332d=306f.+3099.30fc.308c.308b",
   "332e=3072.+309a.3041.3059.3068.308b 332f=3072.+309a.304f.308b 3330=3072.+309a.3053",
   "3331=3072.+3099.308b 3332=3075.3041.3089.3063.3068.+3099 3333=3075.3043.30fc.3068",
   "3334=3075.+3099.3063.3057.3047.308b 3335=3075.3089.3093 3336=3078.304f.305f.30fc.308b",
   "3337=3078.+309a.305d 3338=3078.+309a.306b.3072 3339=3078.308b.3063 333a=3078.+309a.3093.3059",
   "333b=3078.+309a.30fc.3057.+3099 333c=3078.+3099.30fc.305f 333d=307b.+309a.3043.3093.3068",
   "333e=307b.+3099.308b.3068 333f=307b.3093 3340=307b.+309a.3093.3068.+3099 3341=307b.30fc.308b",
   "3342=307b.30fc.3093 3343=307e.3043.304f.308d 3344=307e.3043.308b 3345=307e.3063.306f",
   "3346=307e.308b.304f 3347=307e.3093.3057.3087.3093 3348=307f.304f.308d.3093 3349=307f.308a",
   "334a=307f.308a.306f.+3099.30fc.308b 334b=3081.304b.+3099 334c=3081.304b.+3099.3068.3093",
   "334d=3081.30fc.3068.308b 334e=3083.30fc.3068.+3099 334f=3083.30fc.308b 3350=3085.3041.3093",
   "3351=308a.3063.3068.308b 3352=308a.3089 3353=308b.3072.+309a.30fc",
   "3354=308b.30fc.3075.+3099.308b 3355=308c.3080 3356=308c.3093.3068.3051.+3099.3093",
   "3357=308e.3063.3068 3358=30.70b9 3359=31.70b9 335a=32.70b9 335b=33.70b9 335c=34.70b9",
   "335d=35.70b9 335e=36.70b9 335f=37.70b9 3360=38.70b9 3361=39.70b9 3362=31.30.70b9",
   "3363=31.31.70b9 3364=31.32.70b9 3365=31.33.70b9 3366=31.34.70b9 3367=31.35.70b9",
   "3368=31.36.70b9 3369=31.37.70b9 336a=31.38.70b9 336b=31.39.70b9 336c=32.30.70b9",
   "336d=32.31.70b9 336e=32.32.70b9 336f=32.33.70b9 3370=32.34.70b9 3371=48.50.41 3372=44.41",
   "3373=41.55 3374=42.41.52 3375=4f.56 3376=50.43 3377=44.4d 3378=44.4d.32 3379=44.4d.33",
   "337a=49.55 337b=5e73.6210 337c=662d.548c 337d=5927.6b63 337e=660e.6cbb",
   "337f=682a.5f0f.4f1a.793e 3380=50.41 3381=4e.41 3382=b5.41 3383=4d.41 3384=4b.41 3385=4b.42",
   "3386=4d.42 3387=47.42 3388=43.41.4c 3389=4b.43.41.4c 338a=50.46 338b=4e.46 338c=b5.46",
   "338d=b5.47 338e=4d.47 338f=4b.47 3390=48.5a 3391=4b.48.5a 3392=4d.48.5a 3393=47.48.5a",
   "3394=54.48.5a 3395=b5.4c 3396=4d.4c 3397=44.4c 3398=4b.4c 3399=46.4d 339a=4e.4d 339b=b5.4d",
   "339c=4d.4d 339d=43.4d 339e=4b.4d 339f=4d.4d.32 33a0=43.4d.32 33a1=4d.32 33a2=4b.4d.32",
   "33a3=4d.4d.33 33a4=43.4d.33 33a5=4d.33 33a6=4b.4d.33 33a7=4d.2215.53 33a8=4d.2215.53.32",
   "33a9=50.41 33aa=4b.50.41 33ab=4d.50.41 33ac=47.50.41 33ad=52.41.44 33ae=52.41.44.2215.53",
   "33af=52.41.44.2215.53.32 33b0=50.53 33b1=4e.53 33b2=b5.53 33b3=4d.53 33b4=50.56 33b5=4e.56",
   "33b6=b5.56 33b7=4d.56 33b8=4b.56 33b9=4d.56 33ba=50.57 33bb=4e.57 33bc=b5.57 33bd=4d.57",
   "33be=4b.57 33bf=4d.57 33c0=4b.3a9 33c1=4d.3a9 33c2=41.2e.4d.2e 33c3=42.51 33c4=43.43",
   "33c5=43.44 33c6=43.2215.4b.47 33c7=43.4f.2e 33c8=44.42 33c9=47.59 33ca=48.41 33cb=48.50",
   "33cc=49.4e 33cd=4b.4b 33ce=4b.4d 33cf=4b.54 33d0=4c.4d 33d1=4c.4e 33d2=4c.4f.47 33d3=4c.58",
   "33d4=4d.42 33d5=4d.49.4c 33d6=4d.4f.4c 33d7=50.48 33d8=50.2e.4d.2e 33d9=50.50.4d 33da=50.52",
   "33db=53.52 33dc=53.56 33dd=57.42 33de=56.2215.4d 33df=41.2215.4d 33e0=31.65e5 33e1=32.65e5",
   "33e2=33.65e5 33e3=34.65e5 33e4=35.65e5 33e5=36.65e5 33e6=37.65e5 33e7=38.65e5 33e8=39.65e5",
   "33e9=31.30.65e5 33ea=31.31.65e5 33eb=31.32.65e5 33ec=31.33.65e5 33ed=31.34.65e5",
   "33ee=31.35.65e5 33ef=31.36.65e5 33f0=31.37.65e5 33f1=31.38.65e5 33f2=31.39.65e5",
   "33f3=32.30.65e5 33f4=32.31.65e5 33f5=32.32.65e5 33f6=32.33.65e5 33f7=32.34.65e5",
   "33f8=32.35.65e5 33f9=32.36.65e5 33fa=32.37.65e5 33fb=32.38.65e5 33fc=32.39.65e5",
   "33fd=33.30.65e5 33fe=33.31.65e5 33ff=47.41.4c a613=a50c.a60b a614=a51e.a60b a615=a533.a60b",
   "a616=a547.a60c a617=a552.a60b a618=a558.a60c a619=a55a.a60c a61a=a560.a60b a61b=a585.a60b",
   "a61c=a5b4.a60b a61d=a5cb.a60b a61e=a5d1.a60c a61f=a5d8.a60b a676=406.+308 a728=54.5a",
   "a729=54.5a a732=41.41 a733=41.41 a734=41.4f a735=41.4f a736=41.55 a737=41.55 a738=41.56",
   "a739=41.56 a73a=41!1.56 a73b=41!1.56 a73c=41.59 a73d=41.59 a74e=4f.4f a74f=4f.4f a75a=52!7",
   "a75b=52!7 a760=56.59 a761=56.59 a779=44!7 a77a=44!7 a77b=46!1 a77c=46!1 a77d=47!1 a782=52!1",
   "a783=52!1 a784=53!7 a785=53!7 a786=54!7 a787=54!7 a79a=41.+308 a79b=41.+308 a79c=4f.+308",
   "a79d=4f.+308 a79e=55.+308 a79f=55.+308 a7a0=47.+336 a7a1=47.+336 a7a2=4b.+336 a7a3=4b.+336",
   "a7a4=4e.+336 a7a5=4e.+336 a7a6=52.+336 a7a7=52.+336 a7a8=53.+336 a7a9=53.+336 a7c0=41.+328",
   "a7c1=41.+328 a7c2=57!1 a7c3=57!1 a7d8=53!a a7d9=53!a a7f8=48.+335 a7f9=4f!1.45 ab66=44.290",
   "ab67=54.282 fb00=46.46 fb01=46.49 fb02=46.4c fb03=46.46.49 fb04=46.46.4c fb05=53!4.54",
   "fb06=53.54 fb13=544.546 fb14=544.535 fb15=544.53b fb16=54e.546 fb17=544.53d fb4f=5d0.5dc",
   "fba4=6d5.+654 fba5=6d5.+654 fbb0=6d2.+654 fbb1=6d2.+654 fbdd=621.6c7 fbea=fe89.8ad",
   "fbeb=fe89.8ad fbec=fe89.6d5 fbed=fe89.6d5 fbee=fe89.648 fbef=fe89.648 fbf0=fe89.6c7",
   "fbf1=fe89.6c7 fbf2=fe89.6c6 fbf3=fe89.6c6 fbf4=fe89.6c8 fbf5=fe89.6c8 fbf6=fe89.6d0",
   "fbf7=fe89.6d0 fbf8=fe89.6d0 fbf9=fe89.649 fbfa=fe89.649 fbfb=fe89.649 fc00=fe89.62c",
   "fc01=fe89.62d fc02=fe89.645 fc03=fe89.649 fc04=fe89.64a fc05=628.62c fc06=628.62d",
   "fc07=628.62e fc08=628.645 fc09=628.649 fc0a=628.64a fc0b=62a.62c fc0c=62a.62d fc0d=62a.62e",
   "fc0e=62a.645 fc0f=62a.649 fc10=62a.64a fc11=62b.62c fc12=62b.645 fc13=62b.649 fc14=62b.64a",
   "fc15=62c.62d fc16=62c.645 fc17=62d.62c fc18=62d.645 fc19=62e.62c fc1a=62e.62d fc1b=62e.645",
   "fc1c=633.62c fc1d=633.62d fc1e=633.62e fc1f=633.645 fc20=635.62d fc21=635.645 fc22=636.62c",
   "fc23=636.62d fc24=636.62e fc25=636.645 fc26=637.62d fc27=637.645 fc28=638.645 fc29=639.62c",
   "fc2a=639.645 fc2b=63a.62c fc2c=63a.645 fc2d=641.62c fc2e=641.62d fc2f=641.62e fc30=641.645",
   "fc31=641.649 fc32=641.64a fc33=642.62d fc34=642.645 fc35=642.649 fc36=642.64a fc37=643.8ad",
   "fc38=643.62c fc39=643.62d fc3a=643.62e fc3b=643.644 fc3c=643.645 fc3d=643.649 fc3e=643.64a",
   "fc3f=644.62c fc40=644.62d fc41=644.62e fc42=644.645 fc43=644.649 fc44=644.64a fc45=645.62c",
   "fc46=645.62d fc47=645.62e fc48=645.645 fc49=645.649 fc4a=645.64a fc4b=646.62c fc4c=646.62d",
   "fc4d=646.62e fc4e=646.645 fc4f=646.649 fc50=646.64a fc51=647.62c fc52=647.645 fc53=647.649",
   "fc54=647.64a fc55=64a.62c fc56=64a.62d fc57=64a.62e fc58=64a.645 fc59=64a.649 fc5a=64a.64a",
   "fc5b=630.+670 fc5c=631.+670 fc5d=649.+670 fc5e=+64c.+651 fc5f=+64d.+651 fc60=+64e.+651",
   "fc61=+64f.+651 fc62=+650.+651 fc63=+651.+670 fc64=fe89.631 fc65=fe89.632 fc66=fe89.645",
   "fc67=fe89.646 fc68=fe89.649 fc69=fe89.64a fc6a=628.631 fc6b=628.632 fc6c=628.645",
   "fc6d=628.646 fc6e=628.649 fc6f=628.64a fc70=62a.631 fc71=62a.632 fc72=62a.645 fc73=62a.646",
   "fc74=62a.649 fc75=62a.64a fc76=62b.631 fc77=62b.632 fc78=62b.645 fc79=62b.646 fc7a=62b.649",
   "fc7b=62b.64a fc7c=641.649 fc7d=641.64a fc7e=642.649 fc7f=642.64a fc80=643.8ad fc81=643.644",
   "fc82=643.645 fc83=643.649 fc84=643.64a fc85=644.645 fc86=644.649 fc87=644.64a fc88=645.8ad",
   "fc89=645.645 fc8a=646.631 fc8b=646.632 fc8c=646.645 fc8d=646.646 fc8e=646.649 fc8f=646.64a",
   "fc90=649.+670 fc91=64a.631 fc92=64a.632 fc93=64a.645 fc94=64a.646 fc95=64a.649 fc96=64a.64a",
   "fc97=fe89.62c fc98=fe89.62d fc99=fe89.62e fc9a=fe89.645 fc9b=fe89.647 fc9c=628.62c",
   "fc9d=628.62d fc9e=628.62e fc9f=628.645 fca0=628.647 fca1=62a.62c fca2=62a.62d fca3=62a.62e",
   "fca4=62a.645 fca5=62a.647 fca6=62b.645 fca7=62c.62d fca8=62c.645 fca9=62d.62c fcaa=62d.645",
   "fcab=62e.62c fcac=62e.645 fcad=633.62c fcae=633.62d fcaf=633.62e fcb0=633.645 fcb1=635.62d",
   "fcb2=635.62e fcb3=635.645 fcb4=636.62c fcb5=636.62d fcb6=636.62e fcb7=636.645 fcb8=637.62d",
   "fcb9=638.645 fcba=639.62c fcbb=639.645 fcbc=63a.62c fcbd=63a.645 fcbe=641.62c fcbf=641.62d",
   "fcc0=641.62e fcc1=641.645 fcc2=642.62d fcc3=642.645 fcc4=643.62c fcc5=643.62d fcc6=643.62e",
   "fcc7=643.644 fcc8=643.645 fcc9=644.62c fcca=644.62d fccb=644.62e fccc=644.645 fccd=644.647",
   "fcce=645.62c fccf=645.62d fcd0=645.62e fcd1=645.645 fcd2=646.62c fcd3=646.62d fcd4=646.62e",
   "fcd5=646.645 fcd6=646.647 fcd7=647.62c fcd8=647.645 fcd9=647.+670 fcda=64a.62c fcdb=64a.62d",
   "fcdc=64a.62e fcdd=64a.645 fcde=64a.647 fcdf=fe89.645 fce0=fe89.647 fce1=628.645 fce2=628.647",
   "fce3=62a.645 fce4=62a.647 fce5=62b.645 fce6=62b.647 fce7=633.645 fce8=633.647 fce9=634.645",
   "fcea=634.647 fceb=643.644 fcec=643.645 fced=644.645 fcee=646.645 fcef=646.647 fcf0=64a.645",
   "fcf1=64a.647 fcf2=+64e.+651 fcf3=+64f.+651 fcf4=+650.+651 fcf5=637.649 fcf6=637.64a",
   "fcf7=639.649 fcf8=639.64a fcf9=63a.649 fcfa=63a.64a fcfb=633.649 fcfc=633.64a fcfd=634.649",
   "fcfe=634.64a fcff=62d.649 fd00=62d.64a fd01=62c.649 fd02=62c.64a fd03=62e.649 fd04=62e.64a",
   "fd05=635.649 fd06=635.64a fd07=636.649 fd08=636.64a fd09=634.62c fd0a=634.62d fd0b=634.62e",
   "fd0c=634.645 fd0d=634.631 fd0e=633.631 fd0f=635.631 fd10=636.631 fd11=637.649 fd12=637.64a",
   "fd13=639.649 fd14=639.64a fd15=63a.649 fd16=63a.64a fd17=633.649 fd18=633.64a fd19=634.649",
   "fd1a=634.64a fd1b=62d.649 fd1c=62d.64a fd1d=62c.649 fd1e=62c.64a fd1f=62e.649 fd20=62e.64a",
   "fd21=635.649 fd22=635.64a fd23=636.649 fd24=636.64a fd25=634.62c fd26=634.62d fd27=634.62e",
   "fd28=634.645 fd29=634.631 fd2a=633.631 fd2b=635.631 fd2c=636.631 fd2d=634.62c fd2e=634.62d",
   "fd2f=634.62e fd30=634.645 fd31=633.647 fd32=634.647 fd33=637.645 fd34=633.62c fd35=633.62d",
   "fd36=633.62e fd37=634.62c fd38=634.62d fd39=634.62e fd3a=637.645 fd3b=638.645 fd3c=8ad.+64b",
   "fd3d=8ad.+64b fd50=62a.62c.645 fd51=62a.62d.62c fd52=62a.62d.62c fd53=62a.62d.645",
   "fd54=62a.62e.645 fd55=62a.645.62c fd56=62a.645.62d fd57=62a.645.62e fd58=62c.645.62d",
   "fd59=62c.645.62d fd5a=62d.645.64a fd5b=62d.645.649 fd5c=633.62d.62c fd5d=633.62c.62d",
   "fd5e=633.62c.649 fd5f=633.645.62d fd60=633.645.62d fd61=633.645.62c fd62=633.645.645",
   "fd63=633.645.645 fd64=635.62d.62d fd65=635.62d.62d fd66=635.645.645 fd67=634.62d.645",
   "fd68=634.62d.645 fd69=634.62c.64a fd6a=634.645.62e fd6b=634.645.62e fd6c=634.645.645",
   "fd6d=634.645.645 fd6e=636.62d.649 fd6f=636.62e.645 fd70=636.62e.645 fd71=637.645.62d",
   "fd72=637.645.62d fd73=637.645.645 fd74=637.645.64a fd75=639.62c.645 fd76=639.645.645",
   "fd77=639.645.645 fd78=639.645.649 fd79=63a.645.645 fd7a=63a.645.64a fd7b=63a.645.649",
   "fd7c=641.62e.645 fd7d=641.62e.645 fd7e=642.645.62d fd7f=642.645.645 fd80=644.62d.645",
   "fd81=644.62d.64a fd82=644.62d.649 fd83=644.62c.62c fd84=644.62c.62c fd85=644.62e.645",
   "fd86=644.62e.645 fd87=644.645.62d fd88=644.645.62d fd89=645.62d.62c fd8a=645.62d.645",
   "fd8b=645.62d.64a fd8c=645.62c.62d fd8d=645.62c.645 fd8e=645.62e.62c fd8f=645.62e.645",
   "fd92=645.62c.62e fd93=647.645.62c fd94=647.645.645 fd95=646.62d.645 fd96=646.62d.649",
   "fd97=646.62c.645 fd98=646.62c.645 fd99=646.62c.649 fd9a=646.645.64a fd9b=646.645.649",
   "fd9c=64a.645.645 fd9d=64a.645.645 fd9e=628.62e.64a fd9f=62a.62c.64a fda0=62a.62c.649",
   "fda1=62a.62e.64a fda2=62a.62e.649 fda3=62a.645.64a fda4=62a.645.649 fda5=62c.645.64a",
   "fda6=62c.62d.649 fda7=62c.645.649 fda8=633.62e.649 fda9=635.62d.64a fdaa=634.62d.64a",
   "fdab=636.62d.64a fdac=644.62c.64a fdad=644.645.64a fdae=64a.62d.64a fdaf=64a.62c.64a",
   "fdb0=64a.645.64a fdb1=645.645.64a fdb2=642.645.64a fdb3=646.62d.64a fdb4=642.645.62d",
   "fdb5=644.62d.645 fdb6=639.645.64a fdb7=643.645.64a fdb8=646.62c.62d fdb9=645.62e.64a",
   "fdba=644.62c.645 fdbb=643.645.645 fdbc=644.62c.645 fdbd=646.62c.62d fdbe=62c.62d.64a",
   "fdbf=62d.62c.64a fdc0=645.62c.64a fdc1=641.645.64a fdc2=628.62d.64a fdc3=643.645.645",
   "fdc4=639.62c.645 fdc5=635.645.645 fdc6=633.62e.64a fdc7=646.62c.64a fdf0=635.644.6d2",
   "fdf1=642.644.6d2 fdf2=8ad.644.644.647 fdf3=8ad.643.628.631 fdf4=645.62d.645.62f",
   "fdf5=635.644.639.645 fdf6=631.633.648.644 fdf7=639.644.64a.647 fdf8=648.633.644.645",
   "fdf9=635.644.649 fdfa=635.644.649.20.8ad.644.644.647.20.639.644.64a.647.20.648.633.644.645",
   "fdfb=62c.644.20.62c.644.8ad.644.647 fdfc=631.6cc.8ad.644 fe19=2e.2e.2e fe30=2e.2e",
   "fef5=644.622 fef6=644.622 fef7=644.623 fef8=644.623 fef9=644.fe87 fefa=644.fe87 fefb=644.8ad",
   "fefc=644.8ad 10780=41.41 10783=41!1.45 10787=44.5a 10788=44.290 10789=44.291 1078a=44.1b7",
   "10790=46.14a 10795=48.+335 10799=4c.53 1079a=4c.5a 107a2=4f.+338 107ab=54.255 107ac=54.53",
   "107ad=54.282 107ae=54.1a9 10980=109a0!1 10981=109a1!1 10982=109a2!1 10983=109a3!1",
   "10984=109a4!1 10985=109a5!1 10986=109a6!1 10987=109a6!7 10988=109a7!1 10989=109a8!1",
   "1098a=109a9!1 1098b=109a9!7 1098c=109aa!1 1098d=109aa!7 1098e=109ab!1 1098f=109ab!7",
   "10990=109ac!1 10991=109ad!1 10992=109ae!1 10993=109af!5 10994=109af!9 10995=109b1!1",
   "10996=109b2!1 10997=109b3!1 10998=109b4!1 10999=109b4!7 1099a=109b5!1 1099b=109b5!7",
   "1099c=109b6!1 1099d=109b7!1 109b0=109af!1 10ac8=10ac7!1 10b2e=10b2d!1 10c01=10c00!1",
   "10c04=10c03!1 10c08=10c07!1 10c0a=10c09!1 10c0c=10c0b!1 10c0e=10c0d!1 10c10=10c0f!1",
   "10c12=10c11!1 10c15=10c14!1 10c17=10c16!1 10c19=10c18!1 10c1b=10c1a!1 10c1d=10c1c!1",
   "10c1f=10c1e!1 10c25=10c24!1 10c27=10c26!1 10c29=10c28!1 10c2b=10c2a!1 10c2e=10c2d!1",
   "10c33=10c32!1 10c35=10c34!1 10c37=10c36!1 10c39=10c38!1 10c3b=10c3a!1 10c40=10c3f!1",
   "10c42=10c41!1 10c44=10c43!1 10c46=10c45!1 10c81=10c80!1 10c8a=10c89!1 10c8b=10c89!7",
   "10c91=10c90!1 10c9c=10c9b!1 10c9e=10c9d!1 10c9f=10c9d!7 10ca3=10ca2!1 10cab=10caa!1",
   "10cad=10cac!1 10cc1=10c80!1 10cca=10c89!1 10ccb=10c89!7 10cd1=10c90!1 10cdc=10c9b!1",
   "10cde=10c9d!1 10cdf=10c9d!7 10ce3=10ca2!1 10ceb=10caa!1 10ced=10cac!1 10ec6=646!1",
   "10f10=10f0e!1 10f13=10f12!1 10f17=10f15!1 10f1c=10f1a!1 10f27=10f12.10f18 10f45=10f41!1",
   "10ff6=10fe6.10fe9 115d8=11582!1 115d9=11582!7 115da=11583!1 115db=11584!1 115dc=115b2!1",
   "115dd=115b3!1 11705=11704!1 11716=11715!1 1171a=11708!1 16e94=31!1 16e95=32!1 16e96=33!1",
   "1df00=46!7.14a 1df12=44.1df18 1df17=54.1d8b 1df19=44.1d9a 1df1c=54.1d98 1e067=413!1",
   "1ecb1=31!1 1ecb2=32!1 1ed2f=32!1 1ed30=33!1 1ed31=34!1 1ed32=35!1 1ed33=36!1 1ed34=37!1",
   "1ed35=38!1 1ed36=39!1 1f100=30.2e 1f101=30.2c 1f102=31.2c 1f103=32.2c 1f104=33.2c",
   "1f105=34.2c 1f106=35.2c 1f107=36.2c 1f108=37.2c 1f109=38.2c 1f10a=39.2c 1f110=28.41.29",
   "1f111=28.42.29 1f112=28.43.29 1f113=28.44.29 1f114=28.45.29 1f115=28.46.29 1f116=28.47.29",
   "1f117=28.48.29 1f118=28.49.29 1f119=28.4a.29 1f11a=28.4b.29 1f11b=28.4c.29 1f11c=28.4d.29",
   "1f11d=28.4e.29 1f11e=28.4f.29 1f11f=28.50.29 1f120=28.51.29 1f121=28.52.29 1f122=28.53.29",
   "1f123=28.54.29 1f124=28.55.29 1f125=28.56.29 1f126=28.57.29 1f127=28.58.29 1f128=28.59.29",
   "1f129=28.5a.29 1f12a=3014.53.3015 1f12d=43.44 1f12e=57.5a 1f14a=48.56 1f14b=4d.56",
   "1f14c=53.44 1f14d=53.53 1f14e=50.50.56 1f14f=57.43 1f16a=4d.43 1f16b=4d.44 1f16c=4d.52",
   "1f18b=49.43 1f18c=50.41 1f18d=53.41 1f18e=41.42 1f18f=57.43 1f190=44.4a 1f191=43.4c",
   "1f192=43.4f.4f.4c 1f193=46.52.45.45 1f194=49.44 1f195=4e.45.57 1f196=4e.47 1f197=4f.4b",
   "1f198=53.4f.53 1f199=55.50.21 1f19a=56.53 1f19b=33.44 1f19c=32.4e.44.20.53.43.52 1f19d=32.4b",
   "1f19e=34.4b 1f19f=38.4b 1f1a0=35.2e.31 1f1a1=37.2e.31 1f1a2=32.32.2e.32 1f1a3=36.30.50",
   "1f1a4=31.32.30.50 1f1a6=48.43 1f1a7=48.44.52 1f1a8=48.49.20.52.45.53",
   "1f1a9=4c.4f.53.53.4c.45.53.53 1f1aa=53.48.56 1f1ab=55.48.44 1f1ac=56.4f.44 1f200=307b.304b",
   "1f201=3053.3053 1f213=3066.+3099 1f240=3014.672c.3015 1f241=3014.4e09.3015",
   "1f242=3014.4e8c.3015 1f243=3014.5b89.3015 1f244=3014.70b9.3015 1f245=3014.6253.3015",
   "1f246=3014.76d7.3015 1f247=3014.52dd.3015 1f248=3014.6557.3015"]

@[irreducible] def expansions : Std.HashMap Char (List Element) :=
  Std.HashMap.ofList (expansionRows.flatMap fun row =>
    (words row.toList).filterMap fun word =>
      (splitOnce? '=' word).map fun (c, elements) => (parseChar c, parseElements elements))

end BlogDesk.Collation
