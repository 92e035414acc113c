import PollAudit.Text.Table

namespace PollAudit.Text

/-- The characters made of a character and a mark. A pair is written as the code point of the first
and five digits for that of the second. -/
def composites : Table := Table.ofLines
  ["3c00338>226e 3d00338>2260 3e00338>226f 4100300>c0 4100301>c1 4100302>c2 4100303>c3",
   "4100304>100 4100306>102 4100307>226 4100308>c4 4100309>1ea2 410030a>c5 410030c>1cd",
   "410030f>200 4100311>202 4100323>1ea0 4100325>1e00 4100328>104 4200307>1e02 4200323>1e04",
   "4200331>1e06 4300301>106 4300302>108 4300307>10a 430030c>10c 4300327>c7 4400307>1e0a",
   "440030c>10e 4400323>1e0c 4400327>1e10 440032d>1e12 4400331>1e0e 4500300>c8 4500301>c9",
   "4500302>ca 4500303>1ebc 4500304>112 4500306>114 4500307>116 4500308>cb 4500309>1eba",
   "450030c>11a 450030f>204 4500311>206 4500323>1eb8 4500327>228 4500328>118 450032d>1e18",
   "4500330>1e1a 4600307>1e1e 4700301>1f4 4700302>11c 4700304>1e20 4700306>11e 4700307>120",
   "470030c>1e6 4700327>122 4800302>124 4800307>1e22 4800308>1e26 480030c>21e 4800323>1e24",
   "4800327>1e28 480032e>1e2a 4900300>cc 4900301>cd 4900302>ce 4900303>128 4900304>12a",
   "4900306>12c 4900307>130 4900308>cf 4900309>1ec8 490030c>1cf 490030f>208 4900311>20a",
   "4900323>1eca 4900328>12e 4900330>1e2c 4a00302>134 4b00301>1e30 4b0030c>1e8 4b00323>1e32",
   "4b00327>136 4b00331>1e34 4c00301>139 4c0030c>13d 4c00323>1e36 4c00327>13b 4c0032d>1e3c",
   "4c00331>1e3a 4d00301>1e3e 4d00307>1e40 4d00323>1e42 4e00300>1f8 4e00301>143 4e00303>d1",
   "4e00307>1e44 4e0030c>147 4e00323>1e46 4e00327>145 4e0032d>1e4a 4e00331>1e48 4f00300>d2",
   "4f00301>d3 4f00302>d4 4f00303>d5 4f00304>14c 4f00306>14e 4f00307>22e 4f00308>d6",
   "4f00309>1ece 4f0030b>150 4f0030c>1d1 4f0030f>20c 4f00311>20e 4f0031b>1a0 4f00323>1ecc",
   "4f00328>1ea 5000301>1e54 5000307>1e56 5200301>154 5200307>1e58 520030c>158 520030f>210",
   "5200311>212 5200323>1e5a 5200327>156 5200331>1e5e 5300301>15a 5300302>15c 5300307>1e60",
   "530030c>160 5300323>1e62 5300326>218 5300327>15e 5400307>1e6a 540030c>164 5400323>1e6c",
   "5400326>21a 5400327>162 540032d>1e70 5400331>1e6e 5500300>d9 5500301>da 5500302>db",
   "5500303>168 5500304>16a 5500306>16c 5500308>dc 5500309>1ee6 550030a>16e 550030b>170",
   "550030c>1d3 550030f>214 5500311>216 550031b>1af 5500323>1ee4 5500324>1e72 5500328>172",
   "550032d>1e76 5500330>1e74 5600303>1e7c 5600323>1e7e 5700300>1e80 5700301>1e82",
   "5700302>174 5700307>1e86 5700308>1e84 5700323>1e88 5800307>1e8a 5800308>1e8c",
   "5900300>1ef2 5900301>dd 5900302>176 5900303>1ef8 5900304>232 5900307>1e8e 5900308>178",
   "5900309>1ef6 5900323>1ef4 5a00301>179 5a00302>1e90 5a00307>17b 5a0030c>17d 5a00323>1e92",
   "5a00331>1e94 6100300>e0 6100301>e1 6100302>e2 6100303>e3 6100304>101 6100306>103",
   "6100307>227 6100308>e4 6100309>1ea3 610030a>e5 610030c>1ce 610030f>201 6100311>203",
   "6100323>1ea1 6100325>1e01 6100328>105 6200307>1e03 6200323>1e05 6200331>1e07 6300301>107",
   "6300302>109 6300307>10b 630030c>10d 6300327>e7 6400307>1e0b 640030c>10f 6400323>1e0d",
   "6400327>1e11 640032d>1e13 6400331>1e0f 6500300>e8 6500301>e9 6500302>ea 6500303>1ebd",
   "6500304>113 6500306>115 6500307>117 6500308>eb 6500309>1ebb 650030c>11b 650030f>205",
   "6500311>207 6500323>1eb9 6500327>229 6500328>119 650032d>1e19 6500330>1e1b 6600307>1e1f",
   "6700301>1f5 6700302>11d 6700304>1e21 6700306>11f 6700307>121 670030c>1e7 6700327>123",
   "6800302>125 6800307>1e23 6800308>1e27 680030c>21f 6800323>1e25 6800327>1e29 680032e>1e2b",
   "6800331>1e96 6900300>ec 6900301>ed 6900302>ee 6900303>129 6900304>12b 6900306>12d",
   "6900308>ef 6900309>1ec9 690030c>1d0 690030f>209 6900311>20b 6900323>1ecb 6900328>12f",
   "6900330>1e2d 6a00302>135 6a0030c>1f0 6b00301>1e31 6b0030c>1e9 6b00323>1e33 6b00327>137",
   "6b00331>1e35 6c00301>13a 6c0030c>13e 6c00323>1e37 6c00327>13c 6c0032d>1e3d 6c00331>1e3b",
   "6d00301>1e3f 6d00307>1e41 6d00323>1e43 6e00300>1f9 6e00301>144 6e00303>f1 6e00307>1e45",
   "6e0030c>148 6e00323>1e47 6e00327>146 6e0032d>1e4b 6e00331>1e49 6f00300>f2 6f00301>f3",
   "6f00302>f4 6f00303>f5 6f00304>14d 6f00306>14f 6f00307>22f 6f00308>f6 6f00309>1ecf",
   "6f0030b>151 6f0030c>1d2 6f0030f>20d 6f00311>20f 6f0031b>1a1 6f00323>1ecd 6f00328>1eb",
   "7000301>1e55 7000307>1e57 7200301>155 7200307>1e59 720030c>159 720030f>211 7200311>213",
   "7200323>1e5b 7200327>157 7200331>1e5f 7300301>15b 7300302>15d 7300307>1e61 730030c>161",
   "7300323>1e63 7300326>219 7300327>15f 7400307>1e6b 7400308>1e97 740030c>165 7400323>1e6d",
   "7400326>21b 7400327>163 740032d>1e71 7400331>1e6f 7500300>f9 7500301>fa 7500302>fb",
   "7500303>169 7500304>16b 7500306>16d 7500308>fc 7500309>1ee7 750030a>16f 750030b>171",
   "750030c>1d4 750030f>215 7500311>217 750031b>1b0 7500323>1ee5 7500324>1e73 7500328>173",
   "750032d>1e77 7500330>1e75 7600303>1e7d 7600323>1e7f 7700300>1e81 7700301>1e83",
   "7700302>175 7700307>1e87 7700308>1e85 770030a>1e98 7700323>1e89 7800307>1e8b",
   "7800308>1e8d 7900300>1ef3 7900301>fd 7900302>177 7900303>1ef9 7900304>233 7900307>1e8f",
   "7900308>ff 7900309>1ef7 790030a>1e99 7900323>1ef5 7a00301>17a 7a00302>1e91 7a00307>17c",
   "7a0030c>17e 7a00323>1e93 7a00331>1e95 a800300>1fed a800301>385 a800342>1fc1 c200300>1ea6",
   "c200301>1ea4 c200303>1eaa c200309>1ea8 c400304>1de c500301>1fa c600301>1fc c600304>1e2",
   "c700301>1e08 ca00300>1ec0 ca00301>1ebe ca00303>1ec4 ca00309>1ec2 cf00301>1e2e",
   "d400300>1ed2 d400301>1ed0 d400303>1ed6 d400309>1ed4 d500301>1e4c d500304>22c",
   "d500308>1e4e d600304>22a d800301>1fe dc00300>1db dc00301>1d7 dc00304>1d5 dc0030c>1d9",
   "e200300>1ea7 e200301>1ea5 e200303>1eab e200309>1ea9 e400304>1df e500301>1fb e600301>1fd",
   "e600304>1e3 e700301>1e09 ea00300>1ec1 ea00301>1ebf ea00303>1ec5 ea00309>1ec3",
   "ef00301>1e2f f400300>1ed3 f400301>1ed1 f400303>1ed7 f400309>1ed5 f500301>1e4d",
   "f500304>22d f500308>1e4f f600304>22b f800301>1ff fc00300>1dc fc00301>1d8 fc00304>1d6",
   "fc0030c>1da 10200300>1eb0 10200301>1eae 10200303>1eb4 10200309>1eb2 10300300>1eb1",
   "10300301>1eaf 10300303>1eb5 10300309>1eb3 11200300>1e14 11200301>1e16 11300300>1e15",
   "11300301>1e17 14c00300>1e50 14c00301>1e52 14d00300>1e51 14d00301>1e53 15a00307>1e64",
   "15b00307>1e65 16000307>1e66 16100307>1e67 16800301>1e78 16900301>1e79 16a00308>1e7a",
   "16b00308>1e7b 17f00307>1e9b 1a000300>1edc 1a000301>1eda 1a000303>1ee0 1a000309>1ede",
   "1a000323>1ee2 1a100300>1edd 1a100301>1edb 1a100303>1ee1 1a100309>1edf 1a100323>1ee3",
   "1af00300>1eea 1af00301>1ee8 1af00303>1eee 1af00309>1eec 1af00323>1ef0 1b000300>1eeb",
   "1b000301>1ee9 1b000303>1eef 1b000309>1eed 1b000323>1ef1 1b70030c>1ee 1ea00304>1ec",
   "1eb00304>1ed 22600304>1e0 22700304>1e1 22800306>1e1c 22900306>1e1d 22e00304>230",
   "22f00304>231 2920030c>1ef 39100300>1fba 39100301>386 39100304>1fb9 39100306>1fb8",
   "39100313>1f08 39100314>1f09 39100345>1fbc 39500300>1fc8 39500301>388 39500313>1f18",
   "39500314>1f19 39700300>1fca 39700301>389 39700313>1f28 39700314>1f29 39700345>1fcc",
   "39900300>1fda 39900301>38a 39900304>1fd9 39900306>1fd8 39900308>3aa 39900313>1f38",
   "39900314>1f39 39f00300>1ff8 39f00301>38c 39f00313>1f48 39f00314>1f49 3a100314>1fec",
   "3a500300>1fea 3a500301>38e 3a500304>1fe9 3a500306>1fe8 3a500308>3ab 3a500314>1f59",
   "3a900300>1ffa 3a900301>38f 3a900313>1f68 3a900314>1f69 3a900345>1ffc 3ac00345>1fb4",
   "3ae00345>1fc4 3b100300>1f70 3b100301>3ac 3b100304>1fb1 3b100306>1fb0 3b100313>1f00",
   "3b100314>1f01 3b100342>1fb6 3b100345>1fb3 3b500300>1f72 3b500301>3ad 3b500313>1f10",
   "3b500314>1f11 3b700300>1f74 3b700301>3ae 3b700313>1f20 3b700314>1f21 3b700342>1fc6",
   "3b700345>1fc3 3b900300>1f76 3b900301>3af 3b900304>1fd1 3b900306>1fd0 3b900308>3ca",
   "3b900313>1f30 3b900314>1f31 3b900342>1fd6 3bf00300>1f78 3bf00301>3cc 3bf00313>1f40",
   "3bf00314>1f41 3c100313>1fe4 3c100314>1fe5 3c500300>1f7a 3c500301>3cd 3c500304>1fe1",
   "3c500306>1fe0 3c500308>3cb 3c500313>1f50 3c500314>1f51 3c500342>1fe6 3c900300>1f7c",
   "3c900301>3ce 3c900313>1f60 3c900314>1f61 3c900342>1ff6 3c900345>1ff3 3ca00300>1fd2",
   "3ca00301>390 3ca00342>1fd7 3cb00300>1fe2 3cb00301>3b0 3cb00342>1fe7 3ce00345>1ff4",
   "3d200301>3d3 3d200308>3d4 40600308>407 41000306>4d0 41000308>4d2 41300301>403",
   "41500300>400 41500306>4d6 41500308>401 41600306>4c1 41600308>4dc 41700308>4de",
   "41800300>40d 41800304>4e2 41800306>419 41800308>4e4 41a00301>40c 41e00308>4e6",
   "42300304>4ee 42300306>40e 42300308>4f0 4230030b>4f2 42700308>4f4 42b00308>4f8",
   "42d00308>4ec 43000306>4d1 43000308>4d3 43300301>453 43500300>450 43500306>4d7",
   "43500308>451 43600306>4c2 43600308>4dd 43700308>4df 43800300>45d 43800304>4e3",
   "43800306>439 43800308>4e5 43a00301>45c 43e00308>4e7 44300304>4ef 44300306>45e",
   "44300308>4f1 4430030b>4f3 44700308>4f5 44b00308>4f9 44d00308>4ed 45600308>457",
   "4740030f>476 4750030f>477 4d800308>4da 4d900308>4db 4e800308>4ea 4e900308>4eb",
   "62700653>622 62700654>623 62700655>625 64800654>624 64a00654>626 6c100654>6c2",
   "6d200654>6d3 6d500654>6c0 9280093c>929 9300093c>931 9330093c>934 9c7009be>9cb",
   "9c7009d7>9cc b4700b3e>b4b b4700b56>b48 b4700b57>b4c b9200bd7>b94 bc600bbe>bca",
   "bc600bd7>bcc bc700bbe>bcb c4600c56>c48 cbf00cd5>cc0 cc600cc2>cca cc600cd5>cc7",
   "cc600cd6>cc8 cca00cd5>ccb d4600d3e>d4a d4600d57>d4c d4700d3e>d4b dd900dca>dda",
   "dd900dcf>ddc dd900ddf>dde ddc00dca>ddd 10250102e>1026 1b0501b35>1b06 1b0701b35>1b08",
   "1b0901b35>1b0a 1b0b01b35>1b0c 1b0d01b35>1b0e 1b1101b35>1b12 1b3a01b35>1b3b",
   "1b3c01b35>1b3d 1b3e01b35>1b40 1b3f01b35>1b41 1b4201b35>1b43 1e3600304>1e38",
   "1e3700304>1e39 1e5a00304>1e5c 1e5b00304>1e5d 1e6200307>1e68 1e6300307>1e69",
   "1ea000302>1eac 1ea000306>1eb6 1ea100302>1ead 1ea100306>1eb7 1eb800302>1ec6",
   "1eb900302>1ec7 1ecc00302>1ed8 1ecd00302>1ed9 1f0000300>1f02 1f0000301>1f04",
   "1f0000342>1f06 1f0000345>1f80 1f0100300>1f03 1f0100301>1f05 1f0100342>1f07",
   "1f0100345>1f81 1f0200345>1f82 1f0300345>1f83 1f0400345>1f84 1f0500345>1f85",
   "1f0600345>1f86 1f0700345>1f87 1f0800300>1f0a 1f0800301>1f0c 1f0800342>1f0e",
   "1f0800345>1f88 1f0900300>1f0b 1f0900301>1f0d 1f0900342>1f0f 1f0900345>1f89",
   "1f0a00345>1f8a 1f0b00345>1f8b 1f0c00345>1f8c 1f0d00345>1f8d 1f0e00345>1f8e",
   "1f0f00345>1f8f 1f1000300>1f12 1f1000301>1f14 1f1100300>1f13 1f1100301>1f15",
   "1f1800300>1f1a 1f1800301>1f1c 1f1900300>1f1b 1f1900301>1f1d 1f2000300>1f22",
   "1f2000301>1f24 1f2000342>1f26 1f2000345>1f90 1f2100300>1f23 1f2100301>1f25",
   "1f2100342>1f27 1f2100345>1f91 1f2200345>1f92 1f2300345>1f93 1f2400345>1f94",
   "1f2500345>1f95 1f2600345>1f96 1f2700345>1f97 1f2800300>1f2a 1f2800301>1f2c",
   "1f2800342>1f2e 1f2800345>1f98 1f2900300>1f2b 1f2900301>1f2d 1f2900342>1f2f",
   "1f2900345>1f99 1f2a00345>1f9a 1f2b00345>1f9b 1f2c00345>1f9c 1f2d00345>1f9d",
   "1f2e00345>1f9e 1f2f00345>1f9f 1f3000300>1f32 1f3000301>1f34 1f3000342>1f36",
   "1f3100300>1f33 1f3100301>1f35 1f3100342>1f37 1f3800300>1f3a 1f3800301>1f3c",
   "1f3800342>1f3e 1f3900300>1f3b 1f3900301>1f3d 1f3900342>1f3f 1f4000300>1f42",
   "1f4000301>1f44 1f4100300>1f43 1f4100301>1f45 1f4800300>1f4a 1f4800301>1f4c",
   "1f4900300>1f4b 1f4900301>1f4d 1f5000300>1f52 1f5000301>1f54 1f5000342>1f56",
   "1f5100300>1f53 1f5100301>1f55 1f5100342>1f57 1f5900300>1f5b 1f5900301>1f5d",
   "1f5900342>1f5f 1f6000300>1f62 1f6000301>1f64 1f6000342>1f66 1f6000345>1fa0",
   "1f6100300>1f63 1f6100301>1f65 1f6100342>1f67 1f6100345>1fa1 1f6200345>1fa2",
   "1f6300345>1fa3 1f6400345>1fa4 1f6500345>1fa5 1f6600345>1fa6 1f6700345>1fa7",
   "1f6800300>1f6a 1f6800301>1f6c 1f6800342>1f6e 1f6800345>1fa8 1f6900300>1f6b",
   "1f6900301>1f6d 1f6900342>1f6f 1f6900345>1fa9 1f6a00345>1faa 1f6b00345>1fab",
   "1f6c00345>1fac 1f6d00345>1fad 1f6e00345>1fae 1f6f00345>1faf 1f7000345>1fb2",
   "1f7400345>1fc2 1f7c00345>1ff2 1fb600345>1fb7 1fbf00300>1fcd 1fbf00301>1fce",
   "1fbf00342>1fcf 1fc600345>1fc7 1ff600345>1ff7 1ffe00300>1fdd 1ffe00301>1fde",
   "1ffe00342>1fdf 219000338>219a 219200338>219b 219400338>21ae 21d000338>21cd",
   "21d200338>21cf 21d400338>21ce 220300338>2204 220800338>2209 220b00338>220c",
   "222300338>2224 222500338>2226 223c00338>2241 224300338>2244 224500338>2247",
   "224800338>2249 224d00338>226d 226100338>2262 226400338>2270 226500338>2271",
   "227200338>2274 227300338>2275 227600338>2278 227700338>2279 227a00338>2280",
   "227b00338>2281 227c00338>22e0 227d00338>22e1 228200338>2284 228300338>2285",
   "228600338>2288 228700338>2289 229100338>22e2 229200338>22e3 22a200338>22ac",
   "22a800338>22ad 22a900338>22ae 22ab00338>22af 22b200338>22ea 22b300338>22eb",
   "22b400338>22ec 22b500338>22ed 304603099>3094 304b03099>304c 304d03099>304e",
   "304f03099>3050 305103099>3052 305303099>3054 305503099>3056 305703099>3058",
   "305903099>305a 305b03099>305c 305d03099>305e 305f03099>3060 306103099>3062",
   "306403099>3065 306603099>3067 306803099>3069 306f03099>3070 306f0309a>3071",
   "307203099>3073 30720309a>3074 307503099>3076 30750309a>3077 307803099>3079",
   "30780309a>307a 307b03099>307c 307b0309a>307d 309d03099>309e 30a603099>30f4",
   "30ab03099>30ac 30ad03099>30ae 30af03099>30b0 30b103099>30b2 30b303099>30b4",
   "30b503099>30b6 30b703099>30b8 30b903099>30ba 30bb03099>30bc 30bd03099>30be",
   "30bf03099>30c0 30c103099>30c2 30c403099>30c5 30c603099>30c7 30c803099>30c9",
   "30cf03099>30d0 30cf0309a>30d1 30d203099>30d3 30d20309a>30d4 30d503099>30d6",
   "30d50309a>30d7 30d803099>30d9 30d80309a>30da 30db03099>30dc 30db0309a>30dd",
   "30ef03099>30f7 30f003099>30f8 30f103099>30f9 30f203099>30fa 30fd03099>30fe",
   "105d200307>105c9 105da00307>105e4 11099110ba>1109a 1109b110ba>1109c 110a5110ba>110ab",
   "1113111127>1112e 1113211127>1112f 113471133e>1134b 1134711357>1134c 11382113c9>11383",
   "11384113bb>11385 1138b113c2>1138e 11390113c9>11391 113c2113b8>113c7 113c2113c2>113c5",
   "113c2113c9>113c8 114b9114b0>114bc 114b9114ba>114bb 114b9114bd>114be 115b8115af>115ba",
   "115b9115af>115bb 1193511930>11938 1611e1611e>16121 1611e1611f>16123 1611e16120>16125",
   "1611e16129>16122 161211611f>16126 1612116120>16128 161221611f>16127 161291611f>16124",
   "16d6316d67>16d69 16d6716d67>16d68 16d6916d67>16d6a"]

end PollAudit.Text
