import FeatureFlags.Unicode.CharSet

/-!
Properties that a character has or has not.
-/
namespace FeatureFlags.Unicode

def propertyTable : List PropertyRow :=
  [{ names := ["AHex", "ASCII_Hex_Digit"]
     categories := []
     besides :=
       ["30-39 41-46 61-66"]
     without := [] },
   { names := ["Alpha", "Alphabetic"]
     categories := ["Lu", "Ll", "Lt", "Lm", "Lo", "Mn", "Mc", "Me", "Nl"]
     besides :=
       ["24b6-24e9 1f130-1f149 1f150-1f169 1f170-1f189"]
     without :=
       ["300-344 346-362 483-489 591-5af 658 6df-6e0 6ea-6ec 740-74a 7eb-7f3 7fd 818-819 82d",
        "859-85b 898-89f 8ca-8d3 8e0-8e1 8ea-8ef 93c 94d 951-954 9bc 9cd 9fe a3c a4d abc acd",
        "afd-aff b3c b4d b55 bcd c3c c4d cbc ccd d3b-d3c d4d dca e47-e4c e4e eba ec8-ecc ece",
        "f18-f19 f35 f37 f39 f3e-f3f f84 f86-f87 fc6 1037 1039-103a 135d-135f 1714-1715 1734",
        "17b4-17b5 17c9-17d3 17dd 180b-180d 180f 1939-193b 1a60 1a75-1a7c 1a7f 1ab0-1abe",
        "1ac1-1acb 1b34 1b44 1b6b-1b73 1baa-1bab 1be6 1bf2-1bf3 1c37 1cd0-1cd2 1cd4-1ce8 1ced",
        "1cf4 1cf7-1cf9 1dc0-1dd2 1df5-1dff 20d0-20f0 2cef-2cf1 2d7f 302a-302f 3099-309a",
        "a66f-a672 a67c-a67d a6f0-a6f1 a806 a82c a8c4 a8e0-a8f1 a92b-a92d a953 a9b3 a9c0 aabf",
        "aac1 aaf6 abec-abed fe00-fe0f fe20-fe2f 101fd 102e0 10a38-10a3a 10a3f 10ae5-10ae6",
        "10d6a-10d6d 10efd-10eff 10f46-10f50 10f82-10f85 11046 11070 1107f 110b9-110ba",
        "11133-11134 11173 111c0 111c9-111cc 11235-11236 112e9-112ea 1133b-1133c 1134d",
        "11366-1136c 11370-11374 113ce-113d0 113d2 113e1-113e2 11442 11446 1145e 114c2-114c3",
        "115bf-115c0 1163f 116b6-116b7 1172b 11839-1183a 1193d-1193e 11943 119e0 11a33-11a34",
        "11a47 11a98-11a99 11c3f 11d42 11d44-11d45 11d97 11f41-11f42 11f5a 13440 13447-13455",
        "1612f 16af0-16af4 16b30-16b36 16fe4 1bc9d 1cf00-1cf2d 1cf30-1cf46 1d165-1d169",
        "1d16d-1d172 1d17b-1d182 1d185-1d18b 1d1aa-1d1ad 1d242-1d244 1da00-1da36 1da3b-1da6c",
        "1da75 1da84 1da9b-1da9f 1daa1-1daaf 1e130-1e136 1e2ae 1e2ec-1e2ef 1e4ec-1e4ef",
        "1e5ee-1e5ef 1e8d0-1e8d6 1e944-1e946 1e948-1e94a e0100-e01ef"] },
   { names := ["Bidi_C", "Bidi_Control"]
     categories := []
     besides :=
       ["61c 200e-200f 202a-202e 2066-2069"]
     without := [] },
   { names := ["Bidi_M", "Bidi_Mirrored"]
     categories := ["Ps", "Pe", "Pi", "Pf"]
     besides :=
       ["3c 3e 2140 2201-2204 2208-220d 2211 2215-2216 221a-221d 221f-2222 2224 2226 222b-2233",
        "2239 223b-224c 2252-2255 225f-2260 2262 2264-226b 226d-228c 228f-2292 2298 22a2-22a3",
        "22a6-22b8 22be-22bf 22c9-22cd 22d0-22d1 22d6-22ed 22f0-22ff 2320-2321 27c0 27c3-27c4",
        "27c8-27c9 27cb-27cd 27d3-27d6 27dc-27de 27e2-27e5 299b-29a0 29a2-29af 29b8 29c0-29c5",
        "29c9 29ce-29d2 29d4-29d5 29dc 29e1 29e3-29e5 29e8-29e9 29f4-29f9 2a0a-2a1c 2a1e-2a21",
        "2a24 2a26 2a29 2a2b-2a2e 2a34-2a35 2a3c-2a3e 2a57-2a58 2a64-2a65 2a6a-2a6d 2a6f-2a70",
        "2a73-2a74 2a79-2aa3 2aa6-2aad 2aaf-2ad6 2adc 2ade 2ae2-2ae6 2aec-2aee 2af3 2af7-2afb",
        "2afd 2bfe fe64-fe65 ff1c ff1e 1d6db 1d715 1d74f 1d789 1d7c3"]
     without :=
       ["2018-201f 2e42 301d-301f fd3e-fd3f fe17-fe18 fe35-fe44 fe47-fe48"] },
   { names := ["CI", "Case_Ignorable"]
     categories := ["Lm", "Mn", "Me", "Sk", "Cf"]
     besides :=
       ["27 2e 3a b7 387 55f 5f4 2018-2019 2024 2027 fe13 fe52 fe55 ff07 ff0e ff1a"]
     without := [] },
   { names := ["Cased"]
     categories := ["Lu", "Ll", "Lt"]
     besides :=
       ["aa ba 2b0-2b8 2c0-2c1 2e0-2e4 345 37a 10fc 1d2c-1d6a 1d78 1d9b-1dbf 2071 207f 2090-209c",
        "2160-217f 24b6-24e9 2c7c-2c7d a69c-a69d a770 a7f2-a7f4 a7f8-a7f9 ab5c-ab5f ab69 10780",
        "10783-10785 10787-107b0 107b2-107ba 1e030-1e06d 1f130-1f149 1f150-1f169 1f170-1f189"]
     without := [] },
   { names := ["CWCF", "Changes_When_Casefolded"]
     categories := ["Lu", "Lt"]
     besides :=
       ["b5 df 149 17f 345 3c2 3d0-3d1 3d5-3d6 3f0-3f1 3f5 587 13f8-13fd 1c80-1c88 1e9a-1e9b",
        "1f80-1f87 1f90-1f97 1fa0-1fa7 1fb2-1fb4 1fb7 1fc2-1fc4 1fc7 1ff2-1ff4 1ff7 2160-216f",
        "24b6-24cf ab70-abbf fb00-fb06 fb13-fb17"]
     without :=
       ["3d2-3d4 13a0-13f5 2102 2107 210b-210d 2110-2112 2115 2119-211d 2124 2128 212c-212d",
        "2130-2131 2133 213e-213f 2145 1d400-1d419 1d434-1d44d 1d468-1d481 1d49c 1d49e-1d49f",
        "1d4a2 1d4a5-1d4a6 1d4a9-1d4ac 1d4ae-1d4b5 1d4d0-1d4e9 1d504-1d505 1d507-1d50a",
        "1d50d-1d514 1d516-1d51c 1d538-1d539 1d53b-1d53e 1d540-1d544 1d546 1d54a-1d550",
        "1d56c-1d585 1d5a0-1d5b9 1d5d4-1d5ed 1d608-1d621 1d63c-1d655 1d670-1d689 1d6a8-1d6c0",
        "1d6e2-1d6fa 1d71c-1d734 1d756-1d76e 1d790-1d7a8 1d7ca"] },
   { names := ["CWCM", "Changes_When_Casemapped"]
     categories := ["Lu", "Ll", "Lt"]
     besides :=
       ["345 2160-217f 24b6-24e9"]
     without :=
       ["138 18d 1aa-1ab 1ba 1be 221 234-239 255 258 25a 25d-25f 262 267 26d-26e 270 273-274",
        "276-27c 27e-27f 281 284-286 28d-291 293 295-29c 29f-2af 3d2-3d4 3fc 560 588 1d00-1d2b",
        "1d6b-1d77 1d7a-1d7c 1d7e-1d8d 1d8f-1d9a 1e9c-1e9d 1e9f 2102 2107 210a-2113 2115",
        "2119-211d 2124 2128 212c-212d 212f-2131 2133-2134 2139 213c-213f 2145-2149 2c71 2c74",
        "2c77-2c7b 2ce4 a730-a731 a771-a778 a78e a795 a7af a7d3 a7d5 a7fa ab30-ab52 ab54-ab5a",
        "ab60-ab68 1d400-1d454 1d456-1d49c 1d49e-1d49f 1d4a2 1d4a5-1d4a6 1d4a9-1d4ac 1d4ae-1d4b9",
        "1d4bb 1d4bd-1d4c3 1d4c5-1d505 1d507-1d50a 1d50d-1d514 1d516-1d51c 1d51e-1d539",
        "1d53b-1d53e 1d540-1d544 1d546 1d54a-1d550 1d552-1d6a5 1d6a8-1d6c0 1d6c2-1d6da",
        "1d6dc-1d6fa 1d6fc-1d714 1d716-1d734 1d736-1d74e 1d750-1d76e 1d770-1d788 1d78a-1d7a8",
        "1d7aa-1d7c2 1d7c4-1d7cb 1df00-1df09 1df0b-1df1e 1df25-1df2a"] },
   { names := ["CWL", "Changes_When_Lowercased"]
     categories := ["Lu", "Lt"]
     besides :=
       ["2160-216f 24b6-24cf"]
     without :=
       ["3d2-3d4 2102 2107 210b-210d 2110-2112 2115 2119-211d 2124 2128 212c-212d 2130-2131 2133",
        "213e-213f 2145 1d400-1d419 1d434-1d44d 1d468-1d481 1d49c 1d49e-1d49f 1d4a2 1d4a5-1d4a6",
        "1d4a9-1d4ac 1d4ae-1d4b5 1d4d0-1d4e9 1d504-1d505 1d507-1d50a 1d50d-1d514 1d516-1d51c",
        "1d538-1d539 1d53b-1d53e 1d540-1d544 1d546 1d54a-1d550 1d56c-1d585 1d5a0-1d5b9",
        "1d5d4-1d5ed 1d608-1d621 1d63c-1d655 1d670-1d689 1d6a8-1d6c0 1d6e2-1d6fa 1d71c-1d734",
        "1d756-1d76e 1d790-1d7a8 1d7ca"] },
   { names := ["CWT", "Changes_When_Titlecased"]
     categories := ["Ll"]
     besides :=
       ["1c4 1c7 1ca 1f1 345 2170-217f 24d0-24e9"]
     without :=
       ["138 18d 1aa-1ab 1ba 1be 221 234-239 255 258 25a 25d-25f 262 267 26d-26e 270 273-274",
        "276-27c 27e-27f 281 284-286 28d-291 293 295-29c 29f-2af 3fc 560 588 10d0-10fa 10fd-10ff",
        "1d00-1d2b 1d6b-1d77 1d7a-1d7c 1d7e-1d8d 1d8f-1d9a 1e9c-1e9d 1e9f 210a 210e-210f 2113",
        "212f 2134 2139 213c-213d 2146-2149 2c71 2c74 2c77-2c7b 2ce4 a730-a731 a771-a778 a78e",
        "a795 a7af a7d3 a7d5 a7fa ab30-ab52 ab54-ab5a ab60-ab68 1d41a-1d433 1d44e-1d454",
        "1d456-1d467 1d482-1d49b 1d4b6-1d4b9 1d4bb 1d4bd-1d4c3 1d4c5-1d4cf 1d4ea-1d503",
        "1d51e-1d537 1d552-1d56b 1d586-1d59f 1d5ba-1d5d3 1d5ee-1d607 1d622-1d63b 1d656-1d66f",
        "1d68a-1d6a5 1d6c2-1d6da 1d6dc-1d6e1 1d6fc-1d714 1d716-1d71b 1d736-1d74e 1d750-1d755",
        "1d770-1d788 1d78a-1d78f 1d7aa-1d7c2 1d7c4-1d7c9 1d7cb 1df00-1df09 1df0b-1df1e",
        "1df25-1df2a"] },
   { names := ["CWU", "Changes_When_Uppercased"]
     categories := ["Ll", "Lt"]
     besides :=
       ["345 2170-217f 24d0-24e9"]
     without :=
       ["138 18d 1aa-1ab 1ba 1be 221 234-239 255 258 25a 25d-25f 262 267 26d-26e 270 273-274",
        "276-27c 27e-27f 281 284-286 28d-291 293 295-29c 29f-2af 3fc 560 588 1d00-1d2b 1d6b-1d77",
        "1d7a-1d7c 1d7e-1d8d 1d8f-1d9a 1e9c-1e9d 1e9f 210a 210e-210f 2113 212f 2134 2139",
        "213c-213d 2146-2149 2c71 2c74 2c77-2c7b 2ce4 a730-a731 a771-a778 a78e a795 a7af a7d3",
        "a7d5 a7fa ab30-ab52 ab54-ab5a ab60-ab68 1d41a-1d433 1d44e-1d454 1d456-1d467 1d482-1d49b",
        "1d4b6-1d4b9 1d4bb 1d4bd-1d4c3 1d4c5-1d4cf 1d4ea-1d503 1d51e-1d537 1d552-1d56b",
        "1d586-1d59f 1d5ba-1d5d3 1d5ee-1d607 1d622-1d63b 1d656-1d66f 1d68a-1d6a5 1d6c2-1d6da",
        "1d6dc-1d6e1 1d6fc-1d714 1d716-1d71b 1d736-1d74e 1d750-1d755 1d770-1d788 1d78a-1d78f",
        "1d7aa-1d7c2 1d7c4-1d7c9 1d7cb 1df00-1df09 1df0b-1df1e 1df25-1df2a"] },
   { names := ["Dash"]
     categories := ["Pd"]
     besides :=
       ["2053 207b 208b 2212"]
     without := [] },
   { names := ["DI", "Default_Ignorable_Code_Point"]
     categories := []
     besides :=
       ["ad 34f 61c 115f-1160 17b4-17b5 180b-180f 200b-200f 202a-202e 2060-206f 3164 fe00-fe0f",
        "feff ffa0 fff0-fff8 1bca0-1bca3 1d173-1d17a e0000-e0fff"]
     without := [] },
   { names := ["Dep", "Deprecated"]
     categories := []
     besides :=
       ["149 673 f77 f79 17a3-17a4 206a-206f 2329-232a e0001"]
     without := [] },
   { names := ["Dia", "Diacritic"]
     categories := ["Sk"]
     besides :=
       ["b7 2b0-2c1 2c6-2d1 2e0-2e4 2ec 2ee 300-34e 350-357 35d-362 374 37a 483-487 559 591-5a1",
        "5a3-5bd 5bf 5c1-5c2 5c4 64b-652 657-658 6df-6e0 6e5-6e6 6ea-6ec 730-74a 7a6-7b0 7eb-7f5",
        "818-819 898-89f 8c9-8d2 8e3-8fe 93c 94d 951-954 971 9bc 9cd a3c a4d abc acd afd-aff b3c",
        "b4d b55 bcd c3c c4d cbc ccd d3b-d3c d4d dca e3a e47-e4c e4e eba ec8-ecc f18-f19 f35 f37",
        "f39 f3e-f3f f82-f84 f86-f87 fc6 1037 1039-103a 1063-1064 1069-106d 1087-108d 108f",
        "109a-109b 135d-135f 1714-1715 1734 17c9-17d3 17dd 1939-193b 1a60 1a75-1a7c 1a7f",
        "1ab0-1abe 1ac1-1acb 1b34 1b44 1b6b-1b73 1baa-1bab 1be6 1bf2-1bf3 1c36-1c37 1c78-1c7d",
        "1cd0-1ce8 1ced 1cf4 1cf7-1cf9 1d2c-1d6a 1dc4-1dcf 1df5-1dff 2cef-2cf1 2e2f 302a-302f",
        "3099-309a 30fc a66f a67c-a67d a67f a69c-a69d a6f0-a6f1 a717-a71f a788 a7f8-a7f9 a806",
        "a82c a8c4 a8e0-a8f1 a92b-a92e a953 a9b3 a9c0 a9e5 aa7b-aa7d aabf-aac2 aaf6 ab5c-ab5f",
        "ab69 abec-abed fb1e fe20-fe2f ff70 ff9e-ff9f 102e0 10780-10785 10787-107b0 107b2-107ba",
        "10a38-10a3a 10a3f 10ae5-10ae6 10d22-10d27 10d4e 10d69-10d6d 10efd-10eff 10f46-10f50",
        "10f82-10f85 11046 11070 110b9-110ba 11133-11134 11173 111c0 111ca-111cc 11235-11236",
        "112e9-112ea 1133b-1133c 1134d 11366-1136c 11370-11374 113ce-113d0 113d2-113d3",
        "113e1-113e2 11442 11446 114c2-114c3 115bf-115c0 1163f 116b6-116b7 1172b 11839-1183a",
        "1193d-1193e 11943 119e0 11a34 11a47 11a99 11c3f 11d42 11d44-11d45 11d97 11f41-11f42",
        "11f5a 13447-13455 1612f 16af0-16af4 16b30-16b36 16d6b-16d6c 16f8f-16f9f 16ff0-16ff1",
        "1aff0-1aff3 1aff5-1affb 1affd-1affe 1cf00-1cf2d 1cf30-1cf46 1d167-1d169 1d16d-1d172",
        "1d17b-1d182 1d185-1d18b 1d1aa-1d1ad 1e030-1e06d 1e130-1e136 1e2ae 1e2ec-1e2ef",
        "1e5ee-1e5ef 1e8d0-1e8d6 1e944-1e946 1e948-1e94a"]
     without :=
       ["888 fbb2-fbc2 1f3fb-1f3ff"] },
   { names := ["Emoji"]
     categories := []
     besides :=
       ["23 2a 30-39 a9 ae 203c 2049 2122 2139 2194-2199 21a9-21aa 231a-231b 2328 23cf 23e9-23f3",
        "23f8-23fa 24c2 25aa-25ab 25b6 25c0 25fb-25fe 2600-2604 260e 2611 2614-2615 2618 261d",
        "2620 2622-2623 2626 262a 262e-262f 2638-263a 2640 2642 2648-2653 265f-2660 2663",
        "2665-2666 2668 267b 267e-267f 2692-2697 2699 269b-269c 26a0-26a1 26a7 26aa-26ab",
        "26b0-26b1 26bd-26be 26c4-26c5 26c8 26ce-26cf 26d1 26d3-26d4 26e9-26ea 26f0-26f5",
        "26f7-26fa 26fd 2702 2705 2708-270d 270f 2712 2714 2716 271d 2721 2728 2733-2734 2744",
        "2747 274c 274e 2753-2755 2757 2763-2764 2795-2797 27a1 27b0 27bf 2934-2935 2b05-2b07",
        "2b1b-2b1c 2b50 2b55 3030 303d 3297 3299 1f004 1f0cf 1f170-1f171 1f17e-1f17f 1f18e",
        "1f191-1f19a 1f1e6-1f1ff 1f201-1f202 1f21a 1f22f 1f232-1f23a 1f250-1f251 1f300-1f321",
        "1f324-1f393 1f396-1f397 1f399-1f39b 1f39e-1f3f0 1f3f3-1f3f5 1f3f7-1f4fd 1f4ff-1f53d",
        "1f549-1f54e 1f550-1f567 1f56f-1f570 1f573-1f57a 1f587 1f58a-1f58d 1f590 1f595-1f596",
        "1f5a4-1f5a5 1f5a8 1f5b1-1f5b2 1f5bc 1f5c2-1f5c4 1f5d1-1f5d3 1f5dc-1f5de 1f5e1 1f5e3",
        "1f5e8 1f5ef 1f5f3 1f5fa-1f64f 1f680-1f6c5 1f6cb-1f6d2 1f6d5-1f6d7 1f6dc-1f6e5 1f6e9",
        "1f6eb-1f6ec 1f6f0 1f6f3-1f6fc 1f7e0-1f7eb 1f7f0 1f90c-1f93a 1f93c-1f945 1f947-1f9ff",
        "1fa70-1fa7c 1fa80-1fa89 1fa8f-1fac6 1face-1fadc 1fadf-1fae9 1faf0-1faf8"]
     without := [] },
   { names := ["EComp", "Emoji_Component"]
     categories := []
     besides :=
       ["23 2a 30-39 200d 20e3 fe0f 1f1e6-1f1ff 1f3fb-1f3ff 1f9b0-1f9b3 e0020-e007f"]
     without := [] },
   { names := ["EMod", "Emoji_Modifier"]
     categories := []
     besides :=
       ["1f3fb-1f3ff"]
     without := [] },
   { names := ["EBase", "Emoji_Modifier_Base"]
     categories := []
     besides :=
       ["261d 26f9 270a-270d 1f385 1f3c2-1f3c4 1f3c7 1f3ca-1f3cc 1f442-1f443 1f446-1f450",
        "1f466-1f478 1f47c 1f481-1f483 1f485-1f487 1f48f 1f491 1f4aa 1f574-1f575 1f57a 1f590",
        "1f595-1f596 1f645-1f647 1f64b-1f64f 1f6a3 1f6b4-1f6b6 1f6c0 1f6cc 1f90c 1f90f",
        "1f918-1f91f 1f926 1f930-1f939 1f93c-1f93e 1f977 1f9b5-1f9b6 1f9b8-1f9b9 1f9bb",
        "1f9cd-1f9cf 1f9d1-1f9dd 1fac3-1fac5 1faf0-1faf8"]
     without := [] },
   { names := ["EPres", "Emoji_Presentation"]
     categories := []
     besides :=
       ["231a-231b 23e9-23ec 23f0 23f3 25fd-25fe 2614-2615 2648-2653 267f 2693 26a1 26aa-26ab",
        "26bd-26be 26c4-26c5 26ce 26d4 26ea 26f2-26f3 26f5 26fa 26fd 2705 270a-270b 2728 274c",
        "274e 2753-2755 2757 2795-2797 27b0 27bf 2b1b-2b1c 2b50 2b55 1f004 1f0cf 1f18e",
        "1f191-1f19a 1f1e6-1f1ff 1f201 1f21a 1f22f 1f232-1f236 1f238-1f23a 1f250-1f251",
        "1f300-1f320 1f32d-1f335 1f337-1f37c 1f37e-1f393 1f3a0-1f3ca 1f3cf-1f3d3 1f3e0-1f3f0",
        "1f3f4 1f3f8-1f43e 1f440 1f442-1f4fc 1f4ff-1f53d 1f54b-1f54e 1f550-1f567 1f57a",
        "1f595-1f596 1f5a4 1f5fb-1f64f 1f680-1f6c5 1f6cc 1f6d0-1f6d2 1f6d5-1f6d7 1f6dc-1f6df",
        "1f6eb-1f6ec 1f6f4-1f6fc 1f7e0-1f7eb 1f7f0 1f90c-1f93a 1f93c-1f945 1f947-1f9ff",
        "1fa70-1fa7c 1fa80-1fa89 1fa8f-1fac6 1face-1fadc 1fadf-1fae9 1faf0-1faf8"]
     without := [] },
   { names := ["ExtPict", "Extended_Pictographic"]
     categories := []
     besides :=
       ["a9 ae 203c 2049 2122 2139 2194-2199 21a9-21aa 231a-231b 2328 2388 23cf 23e9-23f3",
        "23f8-23fa 24c2 25aa-25ab 25b6 25c0 25fb-25fe 2600-2605 2607-2612 2614-2685 2690-2705",
        "2708-2712 2714 2716 271d 2721 2728 2733-2734 2744 2747 274c 274e 2753-2755 2757",
        "2763-2767 2795-2797 27a1 27b0 27bf 2934-2935 2b05-2b07 2b1b-2b1c 2b50 2b55 3030 303d",
        "3297 3299 1f000-1f0ff 1f10d-1f10f 1f12f 1f16c-1f171 1f17e-1f17f 1f18e 1f191-1f19a",
        "1f1ad-1f1e5 1f201-1f20f 1f21a 1f22f 1f232-1f23a 1f23c-1f23f 1f249-1f3fa 1f400-1f53d",
        "1f546-1f64f 1f680-1f6ff 1f774-1f77f 1f7d5-1f7ff 1f80c-1f80f 1f848-1f84f 1f85a-1f85f",
        "1f888-1f88f 1f8ae-1f8ff 1f90c-1f93a 1f93c-1f945 1f947-1faff 1fc00-1fffd"]
     without := [] },
   { names := ["Ext", "Extender"]
     categories := []
     besides :=
       ["b7 2d0-2d1 640 7fa a71 afb b55 e46 ec6 180a 1843 1aa7 1c36 1c7b 3005 3031-3035 309d-309e",
        "30fc-30fe a015 a60c a9cf a9e6 aa70 aadd aaf3-aaf4 ff70 10781-10782 10d4e 10d6a 10d6f",
        "11237 1135d 113d2-113d3 115c6-115c8 11a98 16b42-16b43 16fe0-16fe1 16fe3 1e13c-1e13d",
        "1e5ef 1e944-1e946"]
     without := [] },
   { names := ["Gr_Base", "Grapheme_Base"]
     categories := ["Lu", "Ll", "Lt", "Lm", "Lo", "Mc", "Nd", "Nl", "No", "Pc", "Pd", "Ps", "Pe", "Pi", "Pf", "Po", "Sm", "Sc", "Sk", "So", "Zs"]
     besides := []
     without :=
       ["9be 9d7 b3e b57 bbe bd7 cc0 cc2 cc7-cc8 cca-ccb cd5-cd6 d3e d57 dcf ddf 1715 1734 1b35",
        "1b3b 1b3d 1b43-1b44 1baa 1bf2-1bf3 302e-302f a953 a9c0 ff9e-ff9f 111c0 11235 1133e 1134d",
        "11357 113b8 113c2 113c5 113c7-113c9 113cf 114b0 114bd 115af 116b6 11930 1193d 11f41",
        "16ff0-16ff1 1d165-1d166 1d16d-1d172"] },
   { names := ["Gr_Ext", "Grapheme_Extend"]
     categories := ["Mn", "Me"]
     besides :=
       ["9be 9d7 b3e b57 bbe bd7 cc0 cc2 cc7-cc8 cca-ccb cd5-cd6 d3e d57 dcf ddf 1715 1734 1b35",
        "1b3b 1b3d 1b43-1b44 1baa 1bf2-1bf3 200c 302e-302f a953 a9c0 ff9e-ff9f 111c0 11235 1133e",
        "1134d 11357 113b8 113c2 113c5 113c7-113c9 113cf 114b0 114bd 115af 116b6 11930 1193d",
        "11f41 16ff0-16ff1 1d165-1d166 1d16d-1d172 e0020-e007f"]
     without := [] },
   { names := ["Gr_Link", "Grapheme_Link"]
     categories := []
     besides :=
       ["94d 9cd a4d acd b4d bcd c4d ccd d3b-d3c d4d dca e3a eba f84 1039-103a 1714-1715 1734",
        "17d2 1a60 1b44 1baa-1bab 1bf2-1bf3 2d7f a806 a82c a8c4 a953 a9c0 aaf6 abed 10a3f 11046",
        "11070 1107f 110b9 11133-11134 111c0 11235 112ea 1134d 113ce-113d0 11442 114c2 115bf",
        "1163f 116b6 1172b 11839 1193d-1193e 119e0 11a34 11a47 11a99 11c3f 11d44-11d45 11d97",
        "11f41-11f42 1612f"]
     without := [] },
   { names := ["Hex", "Hex_Digit"]
     categories := []
     besides :=
       ["30-39 41-46 61-66 ff10-ff19 ff21-ff26 ff41-ff46"]
     without := [] },
   { names := ["Hyphen"]
     categories := []
     besides :=
       ["2d ad 58a 1806 2010-2011 2e17 30fb fe63 ff0d ff65"]
     without := [] },
   { names := ["IDSB", "IDS_Binary_Operator"]
     categories := []
     besides :=
       ["2ff0-2ff1 2ff4-2ffd 31ef"]
     without := [] },
   { names := ["IDST", "IDS_Trinary_Operator"]
     categories := []
     besides :=
       ["2ff2-2ff3"]
     without := [] },
   { names := ["IDSU", "IDS_Unary_Operator"]
     categories := []
     besides :=
       ["2ffe-2fff"]
     without := [] },
   { names := ["ID_Compat_Math_Continue"]
     categories := []
     besides :=
       ["b2-b3 b9 2070 2074-207e 2080-208e 2202 2207 221e 1d6c1 1d6db 1d6fb 1d715 1d735 1d74f",
        "1d76f 1d789 1d7a9 1d7c3"]
     without := [] },
   { names := ["ID_Compat_Math_Start"]
     categories := []
     besides :=
       ["2202 2207 221e 1d6c1 1d6db 1d6fb 1d715 1d735 1d74f 1d76f 1d789 1d7a9 1d7c3"]
     without := [] },
   { names := ["IDC", "ID_Continue"]
     categories := ["Lu", "Ll", "Lt", "Lm", "Lo", "Mn", "Mc", "Nd", "Nl", "Pc"]
     besides :=
       ["b7 387 1369-1371 19da 200c-200d 2118 212e 309b-309c 30fb ff65"]
     without :=
       ["2e2f"] },
   { names := ["IDS", "ID_Start"]
     categories := ["Lu", "Ll", "Lt", "Lm", "Lo", "Nl"]
     besides :=
       ["1885-1886 2118 212e 309b-309c"]
     without :=
       ["2e2f"] },
   { names := ["Ideo", "Ideographic"]
     categories := []
     besides :=
       ["3006-3007 3021-3029 3038-303a 3400-4dbf 4e00-9fff f900-fa6d fa70-fad9 16fe4 17000-187f7",
        "18800-18cd5 18cff-18d08 1b170-1b2fb 20000-2a6df 2a700-2b739 2b740-2b81d 2b820-2cea1",
        "2ceb0-2ebe0 2ebf0-2ee5d 2f800-2fa1d 30000-3134a 31350-323af"]
     without := [] },
   { names := ["Join_C", "Join_Control"]
     categories := []
     besides :=
       ["200c-200d"]
     without := [] },
   { names := ["LOE", "Logical_Order_Exception"]
     categories := []
     besides :=
       ["e40-e44 ec0-ec4 19b5-19b7 19ba aab5-aab6 aab9 aabb-aabc"]
     without := [] },
   { names := ["Lower", "Lowercase"]
     categories := ["Ll"]
     besides :=
       ["aa ba 2b0-2b8 2c0-2c1 2e0-2e4 345 37a 10fc 1d2c-1d6a 1d78 1d9b-1dbf 2071 207f 2090-209c",
        "2170-217f 24d0-24e9 2c7c-2c7d a69c-a69d a770 a7f2-a7f4 a7f8-a7f9 ab5c-ab5f ab69 10780",
        "10783-10785 10787-107b0 107b2-107ba 1e030-1e06d"]
     without := [] },
   { names := ["Math"]
     categories := ["Sm"]
     besides :=
       ["5e 3d0-3d2 3d5 3f0-3f1 3f4-3f5 2016 2032-2034 2040 2061-2064 207d-207e 208d-208e",
        "20d0-20dc 20e1 20e5-20e6 20eb-20ef 2102 2107 210a-2113 2115 2119-211d 2124 2128-2129",
        "212c-212d 212f-2131 2133-2138 213c-213f 2145-2149 2195-2199 219c-219f 21a1-21a2",
        "21a4-21a5 21a7 21a9-21ad 21b0-21b1 21b6-21b7 21bc-21cd 21d0-21d1 21d3 21d5-21db 21dd",
        "21e4-21e5 2308-230b 23b4-23b5 23b7 23d0 23e2 25a0-25a1 25ae-25b6 25bc-25c0 25c6-25c7",
        "25ca-25cb 25cf-25d3 25e2 25e4 25e7-25ec 2605-2606 2640 2642 2660-2663 266d-266e",
        "27c5-27c6 27e6-27ef 2983-2998 29d8-29db 29fc-29fd fe61 fe63 fe68 ff3c ff3e 1d400-1d454",
        "1d456-1d49c 1d49e-1d49f 1d4a2 1d4a5-1d4a6 1d4a9-1d4ac 1d4ae-1d4b9 1d4bb 1d4bd-1d4c3",
        "1d4c5-1d505 1d507-1d50a 1d50d-1d514 1d516-1d51c 1d51e-1d539 1d53b-1d53e 1d540-1d544",
        "1d546 1d54a-1d550 1d552-1d6a5 1d6a8-1d6c0 1d6c2-1d6da 1d6dc-1d6fa 1d6fc-1d714",
        "1d716-1d734 1d736-1d74e 1d750-1d76e 1d770-1d788 1d78a-1d7a8 1d7aa-1d7c2 1d7c4-1d7cb",
        "1d7ce-1d7ff 1ee00-1ee03 1ee05-1ee1f 1ee21-1ee22 1ee24 1ee27 1ee29-1ee32 1ee34-1ee37",
        "1ee39 1ee3b 1ee42 1ee47 1ee49 1ee4b 1ee4d-1ee4f 1ee51-1ee52 1ee54 1ee57 1ee59 1ee5b",
        "1ee5d 1ee5f 1ee61-1ee62 1ee64 1ee67-1ee6a 1ee6c-1ee72 1ee74-1ee77 1ee79-1ee7c 1ee7e",
        "1ee80-1ee89 1ee8b-1ee9b 1eea1-1eea3 1eea5-1eea9 1eeab-1eebb"]
     without := [] },
   { names := ["MCM", "Modifier_Combining_Mark"]
     categories := []
     besides :=
       ["654-655 658 6dc 6e3 6e7-6e8 8ca-8cb 8cd-8cf 8d3 8f3"]
     without := [] },
   { names := ["NChar", "Noncharacter_Code_Point"]
     categories := []
     besides :=
       ["fdd0-fdef fffe-ffff 1fffe-1ffff 2fffe-2ffff 3fffe-3ffff 4fffe-4ffff 5fffe-5ffff",
        "6fffe-6ffff 7fffe-7ffff 8fffe-8ffff 9fffe-9ffff afffe-affff bfffe-bffff cfffe-cffff",
        "dfffe-dffff efffe-effff ffffe-fffff 10fffe-10ffff"]
     without := [] },
   { names := ["OAlpha", "Other_Alphabetic"]
     categories := ["Mn", "Mc", "Me"]
     besides :=
       ["24b6-24e9 1f130-1f149 1f150-1f169 1f170-1f189"]
     without :=
       ["300-344 346-362 483-489 591-5af 658 6df-6e0 6ea-6ec 740-74a 7eb-7f3 7fd 818-819 82d",
        "859-85b 898-89f 8ca-8d3 8e0-8e1 8ea-8ef 93c 94d 951-954 9bc 9cd 9fe a3c a4d abc acd",
        "afd-aff b3c b4d b55 bcd c3c c4d cbc ccd d3b-d3c d4d dca e47-e4c e4e eba ec8-ecc ece",
        "f18-f19 f35 f37 f39 f3e-f3f f84 f86-f87 fc6 1037 1039-103a 135d-135f 1714-1715 1734",
        "17b4-17b5 17c9-17d3 17dd 180b-180d 180f 1939-193b 1a60 1a75-1a7c 1a7f 1ab0-1abe",
        "1ac1-1acb 1b34 1b44 1b6b-1b73 1baa-1bab 1be6 1bf2-1bf3 1c37 1cd0-1cd2 1cd4-1ce8 1ced",
        "1cf4 1cf7-1cf9 1dc0-1dd2 1df5-1dff 20d0-20f0 2cef-2cf1 2d7f 302a-302f 3099-309a",
        "a66f-a672 a67c-a67d a6f0-a6f1 a806 a82c a8c4 a8e0-a8f1 a92b-a92d a953 a9b3 a9c0 aabf",
        "aac1 aaf6 abec-abed fe00-fe0f fe20-fe2f 101fd 102e0 10a38-10a3a 10a3f 10ae5-10ae6",
        "10d6a-10d6d 10efd-10eff 10f46-10f50 10f82-10f85 11046 11070 1107f 110b9-110ba",
        "11133-11134 11173 111c0 111c9-111cc 11235-11236 112e9-112ea 1133b-1133c 1134d",
        "11366-1136c 11370-11374 113ce-113d0 113d2 113e1-113e2 11442 11446 1145e 114c2-114c3",
        "115bf-115c0 1163f 116b6-116b7 1172b 11839-1183a 1193d-1193e 11943 119e0 11a33-11a34",
        "11a47 11a98-11a99 11c3f 11d42 11d44-11d45 11d97 11f41-11f42 11f5a 13440 13447-13455",
        "1612f 16af0-16af4 16b30-16b36 16fe4 1bc9d 1cf00-1cf2d 1cf30-1cf46 1d165-1d169",
        "1d16d-1d172 1d17b-1d182 1d185-1d18b 1d1aa-1d1ad 1d242-1d244 1da00-1da36 1da3b-1da6c",
        "1da75 1da84 1da9b-1da9f 1daa1-1daaf 1e130-1e136 1e2ae 1e2ec-1e2ef 1e4ec-1e4ef",
        "1e5ee-1e5ef 1e8d0-1e8d6 1e944-1e946 1e948-1e94a e0100-e01ef"] },
   { names := ["ODI", "Other_Default_Ignorable_Code_Point"]
     categories := []
     besides :=
       ["34f 115f-1160 17b4-17b5 2065 3164 ffa0 fff0-fff8 e0000 e0002-e001f e0080-e00ff",
        "e01f0-e0fff"]
     without := [] },
   { names := ["OGr_Ext", "Other_Grapheme_Extend"]
     categories := []
     besides :=
       ["9be 9d7 b3e b57 bbe bd7 cc0 cc2 cc7-cc8 cca-ccb cd5-cd6 d3e d57 dcf ddf 1715 1734 1b35",
        "1b3b 1b3d 1b43-1b44 1baa 1bf2-1bf3 200c 302e-302f a953 a9c0 ff9e-ff9f 111c0 11235 1133e",
        "1134d 11357 113b8 113c2 113c5 113c7-113c9 113cf 114b0 114bd 115af 116b6 11930 1193d",
        "11f41 16ff0-16ff1 1d165-1d166 1d16d-1d172 e0020-e007f"]
     without := [] },
   { names := ["OIDC", "Other_ID_Continue"]
     categories := []
     besides :=
       ["b7 387 1369-1371 19da 200c-200d 30fb ff65"]
     without := [] },
   { names := ["OIDS", "Other_ID_Start"]
     categories := []
     besides :=
       ["1885-1886 2118 212e 309b-309c"]
     without := [] },
   { names := ["OLower", "Other_Lowercase"]
     categories := []
     besides :=
       ["aa ba 2b0-2b8 2c0-2c1 2e0-2e4 345 37a 10fc 1d2c-1d6a 1d78 1d9b-1dbf 2071 207f 2090-209c",
        "2170-217f 24d0-24e9 2c7c-2c7d a69c-a69d a770 a7f2-a7f4 a7f8-a7f9 ab5c-ab5f ab69 10780",
        "10783-10785 10787-107b0 107b2-107ba 1e030-1e06d"]
     without := [] },
   { names := ["OMath", "Other_Math"]
     categories := []
     besides :=
       ["5e 3d0-3d2 3d5 3f0-3f1 3f4-3f5 2016 2032-2034 2040 2061-2064 207d-207e 208d-208e",
        "20d0-20dc 20e1 20e5-20e6 20eb-20ef 2102 2107 210a-2113 2115 2119-211d 2124 2128-2129",
        "212c-212d 212f-2131 2133-2138 213c-213f 2145-2149 2195-2199 219c-219f 21a1-21a2",
        "21a4-21a5 21a7 21a9-21ad 21b0-21b1 21b6-21b7 21bc-21cd 21d0-21d1 21d3 21d5-21db 21dd",
        "21e4-21e5 2308-230b 23b4-23b5 23b7 23d0 23e2 25a0-25a1 25ae-25b6 25bc-25c0 25c6-25c7",
        "25ca-25cb 25cf-25d3 25e2 25e4 25e7-25ec 2605-2606 2640 2642 2660-2663 266d-266e",
        "27c5-27c6 27e6-27ef 2983-2998 29d8-29db 29fc-29fd fe61 fe63 fe68 ff3c ff3e 1d400-1d454",
        "1d456-1d49c 1d49e-1d49f 1d4a2 1d4a5-1d4a6 1d4a9-1d4ac 1d4ae-1d4b9 1d4bb 1d4bd-1d4c3",
        "1d4c5-1d505 1d507-1d50a 1d50d-1d514 1d516-1d51c 1d51e-1d539 1d53b-1d53e 1d540-1d544",
        "1d546 1d54a-1d550 1d552-1d6a5 1d6a8-1d6c0 1d6c2-1d6da 1d6dc-1d6fa 1d6fc-1d714",
        "1d716-1d734 1d736-1d74e 1d750-1d76e 1d770-1d788 1d78a-1d7a8 1d7aa-1d7c2 1d7c4-1d7cb",
        "1d7ce-1d7ff 1ee00-1ee03 1ee05-1ee1f 1ee21-1ee22 1ee24 1ee27 1ee29-1ee32 1ee34-1ee37",
        "1ee39 1ee3b 1ee42 1ee47 1ee49 1ee4b 1ee4d-1ee4f 1ee51-1ee52 1ee54 1ee57 1ee59 1ee5b",
        "1ee5d 1ee5f 1ee61-1ee62 1ee64 1ee67-1ee6a 1ee6c-1ee72 1ee74-1ee77 1ee79-1ee7c 1ee7e",
        "1ee80-1ee89 1ee8b-1ee9b 1eea1-1eea3 1eea5-1eea9 1eeab-1eebb"]
     without := [] },
   { names := ["OUpper", "Other_Uppercase"]
     categories := []
     besides :=
       ["2160-216f 24b6-24cf 1f130-1f149 1f150-1f169 1f170-1f189"]
     without := [] },
   { names := ["Pat_Syn", "Pattern_Syntax"]
     categories := []
     besides :=
       ["21-2f 3a-40 5b-5e 60 7b-7e a1-a7 a9 ab-ac ae b0-b1 b6 bb bf d7 f7 2010-2027 2030-203e",
        "2041-2053 2055-205e 2190-245f 2500-2775 2794-2bff 2e00-2e7f 3001-3003 3008-3020 3030",
        "fd3e-fd3f fe45-fe46"]
     without := [] },
   { names := ["Pat_WS", "Pattern_White_Space"]
     categories := ["Zl", "Zp"]
     besides :=
       ["9-d 20 85 200e-200f"]
     without := [] },
   { names := ["PCM", "Prepended_Concatenation_Mark"]
     categories := []
     besides :=
       ["600-605 6dd 70f 890-891 8e2 110bd 110cd"]
     without := [] },
   { names := ["QMark", "Quotation_Mark"]
     categories := []
     besides :=
       ["22 27 ab bb 2018-201f 2039-203a 2e42 300c-300f 301d-301f fe41-fe44 ff02 ff07 ff62-ff63"]
     without := [] },
   { names := ["Radical"]
     categories := []
     besides :=
       ["2e80-2e99 2e9b-2ef3 2f00-2fd5"]
     without := [] },
   { names := ["RI", "Regional_Indicator"]
     categories := []
     besides :=
       ["1f1e6-1f1ff"]
     without := [] },
   { names := ["STerm", "Sentence_Terminal"]
     categories := []
     besides :=
       ["21 2e 3f 589 61d-61f 6d4 700-702 7f9 837 839 83d-83e 964-965 104a-104b 1362 1367-1368",
        "166e 1735-1736 17d4-17d5 1803 1809 1944-1945 1aa8-1aab 1b4e-1b4f 1b5a-1b5b 1b5e-1b5f",
        "1b7d-1b7f 1c3b-1c3c 1c7e-1c7f 2024 203c-203d 2047-2049 2cf9-2cfb 2e2e 2e3c 2e53-2e54",
        "3002 a4ff a60e-a60f a6f3 a6f7 a876-a877 a8ce-a8cf a92f a9c8-a9c9 aa5d-aa5f aaf0-aaf1",
        "abeb fe12 fe15-fe16 fe52 fe56-fe57 ff01 ff0e ff1f ff61 10a56-10a57 10f55-10f59",
        "10f86-10f89 11047-11048 110be-110c1 11141-11143 111c5-111c6 111cd 111de-111df",
        "11238-11239 1123b-1123c 112a9 113d4-113d5 1144b-1144c 115c2-115c3 115c9-115d7",
        "11641-11642 1173c-1173e 11944 11946 11a42-11a43 11a9b-11a9c 11c41-11c42 11ef7-11ef8",
        "11f43-11f44 16a6e-16a6f 16af5 16b37-16b38 16b44 16d6e-16d6f 16e98 1bc9f 1da88"]
     without := [] },
   { names := ["SD", "Soft_Dotted"]
     categories := []
     besides :=
       ["69-6a 12f 249 268 29d 2b2 3f3 456 458 1d62 1d96 1da4 1da8 1e2d 1ecb 2071 2148-2149 2c7c",
        "1d422-1d423 1d456-1d457 1d48a-1d48b 1d4be-1d4bf 1d4f2-1d4f3 1d526-1d527 1d55a-1d55b",
        "1d58e-1d58f 1d5c2-1d5c3 1d5f6-1d5f7 1d62a-1d62b 1d65e-1d65f 1d692-1d693 1df1a",
        "1e04c-1e04d 1e068"]
     without := [] },
   { names := ["Term", "Terminal_Punctuation"]
     categories := []
     besides :=
       ["21 2c 2e 3a-3b 3f 37e 387 589 5c3 60c 61b 61d-61f 6d4 700-70a 70c 7f8-7f9 830-835",
        "837-83e 85e 964-965 e5a-e5b f08 f0d-f12 104a-104b 1361-1368 166e 16eb-16ed 1735-1736",
        "17d4-17d6 17da 1802-1805 1808-1809 1944-1945 1aa8-1aab 1b4e-1b4f 1b5a-1b5b 1b5d-1b5f",
        "1b7d-1b7f 1c3b-1c3f 1c7e-1c7f 2024 203c-203d 2047-2049 2cf9-2cfb 2e2e 2e3c 2e41 2e4c",
        "2e4e-2e4f 2e53-2e54 3001-3002 a4fe-a4ff a60d-a60f a6f3-a6f7 a876-a877 a8ce-a8cf a92f",
        "a9c7-a9c9 aa5d-aa5f aadf aaf0-aaf1 abeb fe12 fe15-fe16 fe50-fe52 fe54-fe57 ff01 ff0c",
        "ff0e ff1a-ff1b ff1f ff61 ff64 1039f 103d0 10857 1091f 10a56-10a57 10af0-10af5",
        "10b3a-10b3f 10b99-10b9c 10f55-10f59 10f86-10f89 11047-1104d 110be-110c1 11141-11143",
        "111c5-111c6 111cd 111de-111df 11238-1123c 112a9 113d4-113d5 1144b-1144d 1145a-1145b",
        "115c2-115c5 115c9-115d7 11641-11642 1173c-1173e 11944 11946 11a42-11a43 11a9b-11a9c",
        "11aa1-11aa2 11c41-11c43 11c71 11ef7-11ef8 11f43-11f44 12470-12474 16a6e-16a6f 16af5",
        "16b37-16b39 16b44 16d6e-16d6f 16e97-16e98 1bc9f 1da87-1da8a"]
     without := [] },
   { names := ["UIdeo", "Unified_Ideograph"]
     categories := []
     besides :=
       ["3400-4dbf 4e00-9fff fa0e-fa0f fa11 fa13-fa14 fa1f fa21 fa23-fa24 fa27-fa29 20000-2a6df",
        "2a700-2b739 2b740-2b81d 2b820-2cea1 2ceb0-2ebe0 2ebf0-2ee5d 30000-3134a 31350-323af"]
     without := [] },
   { names := ["Upper", "Uppercase"]
     categories := ["Lu"]
     besides :=
       ["2160-216f 24b6-24cf 1f130-1f149 1f150-1f169 1f170-1f189"]
     without := [] },
   { names := ["VS", "Variation_Selector"]
     categories := []
     besides :=
       ["180b-180d 180f fe00-fe0f e0100-e01ef"]
     without := [] },
   { names := ["WSpace", "White_Space", "Space"]
     categories := ["Zs", "Zl", "Zp"]
     besides :=
       ["9-d 85"]
     without := [] },
   { names := ["XIDC", "XID_Continue"]
     categories := ["Lu", "Ll", "Lt", "Lm", "Lo", "Mn", "Mc", "Nd", "Nl", "Pc"]
     besides :=
       ["b7 387 1369-1371 19da 200c-200d 2118 212e 30fb ff65"]
     without :=
       ["37a 2e2f fc5e-fc63 fdfa-fdfb fe70 fe72 fe74 fe76 fe78 fe7a fe7c fe7e"] },
   { names := ["XIDS", "XID_Start"]
     categories := ["Lu", "Ll", "Lt", "Lm", "Lo", "Nl"]
     besides :=
       ["1885-1886 2118 212e"]
     without :=
       ["37a e33 eb3 2e2f fc5e-fc63 fdfa-fdfb fe70 fe72 fe74 fe76 fe78 fe7a fe7c fe7e ff9e-ff9f"] }]

end FeatureFlags.Unicode
