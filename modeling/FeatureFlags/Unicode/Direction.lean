import FeatureFlags.Unicode.CharSet

/-!
The direction in which characters are written. Characters of none of these sets are written from left
to right.
-/
namespace FeatureFlags.Unicode.Direction

def rightToLeft : CharSet :=
  .ofLines
    ["5be 5c0 5c3 5c6 5d0-5ea 5ef-5f4 608 60b 60d 61b-64a 66d-66f 671-6d5 6e5-6e6 6ee-6ef 6fa-70d",
     "70f-710 712-72f 74d-7a5 7b1 7c0-7ea 7f4-7f5 7fa 7fe-815 81a 824 828 830-83e 840-858 85e",
     "860-86a 870-88f 8a0-8c9 200f fb1d fb1f-fb28 fb2a-fb36 fb38-fb3c fb3e fb40-fb41 fb43-fb44",
     "fb46-fbc2 fbd3-fd3d fd50-fd8f fd92-fdc7 fdf0-fdfc fe70-fe74 fe76-fefc 10800-10805 10808",
     "1080a-10835 10837-10838 1083c 1083f-10855 10857-1089e 108a7-108af 108e0-108f2 108f4-108f5",
     "108fb-1091b 10920-10939 1093f-10959 10980-109b7 109bc-109cf 109d2-10a00 10a10-10a13",
     "10a15-10a17 10a19-10a35 10a40-10a48 10a50-10a58 10a60-10a9f 10ac0-10ae4 10aeb-10af6",
     "10b00-10b35 10b40-10b55 10b58-10b72 10b78-10b91 10b99-10b9c 10ba9-10baf 10c00-10c48",
     "10c80-10cb2 10cc0-10cf2 10cfa-10d23 10d4a-10d65 10d6f-10d85 10d8e-10d8f 10e80-10ea9 10ead",
     "10eb0-10eb1 10ec2-10ec7 10f00-10f27 10f30-10f45 10f51-10f59 10f70-10f81 10f86-10f89",
     "10fb0-10fcb 10fe0-10ff6 1e800-1e8c4 1e8c7-1e8cf 1e900-1e943 1e94b 1e950-1e959 1e95e-1e95f",
     "1ec71-1ecb4 1ed01-1ed3d 1ee00-1ee03 1ee05-1ee1f 1ee21-1ee22 1ee24 1ee27 1ee29-1ee32",
     "1ee34-1ee37 1ee39 1ee3b 1ee42 1ee47 1ee49 1ee4b 1ee4d-1ee4f 1ee51-1ee52 1ee54 1ee57 1ee59",
     "1ee5b 1ee5d 1ee5f 1ee61-1ee62 1ee64 1ee67-1ee6a 1ee6c-1ee72 1ee74-1ee77 1ee79-1ee7c 1ee7e",
     "1ee80-1ee89 1ee8b-1ee9b 1eea1-1eea3 1eea5-1eea9 1eeab-1eebb"]

def europeanDigits : CharSet :=
  .ofLines
    ["30-39 b2-b3 b9 6f0-6f9 2070 2074-2079 2080-2089 2488-249b ff10-ff19 102e1-102fb 1ccf0-1ccf9",
     "1d7ce-1d7ff 1f100-1f10a 1fbf0-1fbf9"]

def arabicDigits : CharSet :=
  .ofLines
    ["600-605 660-669 66b-66c 6dd 890-891 8e2 10d30-10d39 10d40-10d49 10e60-10e7e"]

/-- Marks that go with the character before them. -/
def attached : CharSet :=
  ({ names := []
     categories := ["Mn", "Me"]
     besides :=
       ["1acf-1add 1ae0-1aeb 10efa-10efb 11b60 11b62-11b64 11b66 1e6e3 1e6e6 1e6ee-1e6ef 1e6f5"]
     without :=
       ["cbf cc6 11a07-11a08 11c3f"] } : PropertyRow).set

/-- Characters that take the direction of what is around them. -/
def neutral : CharSet :=
  ({ names := []
     categories := ["Ps", "Pe", "Pi", "Pf", "Sm", "Sc", "Sk", "So", "Cc"]
     besides :=
       ["21-23 25-27 2a 2c-2f 3a-3b 3f-40 5c 5f a0-a1 a7 ad b6-b7 bc-bf 2b9-2ba 2c6-2cf 2ec 374",
        "37e 387 58a 609-60a 60c 66a 7f7-7f9 c78-c7e 1400 17f0-17f9 1800-180a 180e 1944-1945",
        "200b-200d 2010-2017 2020-2027 202f-2038 203b-2043 2047-2051 2053-205e 2060-2064",
        "206a-206f 20c1 2150-215f 2189 2460-2487 24ea-24ff 2776-2793 2b96 2cf9-2cff 2e00-2e01",
        "2e06-2e08 2e0b 2e0e-2e1b 2e1e-2e1f 2e2a-2e41 2e43-2e4f 2e52-2e54 2e5d 3001-3003 301c",
        "3030 303d 30a0 30fb 3251-325f 32b1-32bf a60d-a60f a673 a67e-a67f a717-a71f a788",
        "a874-a877 fbc3-fbd2 fd90-fd91 fdc8-fdce fe10-fe16 fe19 fe30-fe34 fe45-fe46 fe49-fe52",
        "fe54-fe58 fe5f-fe61 fe63 fe68 fe6a-fe6b feff ff01-ff03 ff05-ff07 ff0a ff0c-ff0f",
        "ff1a-ff1b ff1f-ff20 ff3c ff3f ff61 ff64-ff65 fff9-fffb 10101 10140-10178 1018a-1018b",
        "1091f 10b39-10b3f 10d6e 10ed0-10ed8 11052-11065 11660-1166c 16fe2 1bca0-1bca3",
        "1ccfa-1ccfc 1ceba-1ced0 1cee0-1cef0 1d173-1d17a 1f10b-1f10c 1f6d8 1f777-1f77a",
        "1f8d0-1f8d8 1fa54-1fa57 1fa8a 1fa8e 1fac8 1facd 1faea 1faef 1fbfa e0001 e0020-e007f"]
     without :=
       ["9-d 1c-1f 85 482 608 60b 6fd-6fe 7fe-7ff 888 9fa b70 c7f d4f d79 f01-f03 f13 f15-f17",
        "f1a-f1f f34 f36 f38 fbe-fc5 fc7-fcc fce-fcf fd5-fd8 109e-109f 166d 1b61-1b6a 1b74-1b7c",
        "214f 2336-237a 2395 249c-24e9 26ac 2800-28ff 3190-3191 3196-319f 3200-321c 322a-3247",
        "3260-327b 327f 328a-32b0 32c0-32cb 32d0-3376 337b-33dd 33e0-33fe a789-a78a a836-a837",
        "aa77-aa79 ab5b fbb2-fbc2 fdfc 10137-1013f 1018d-1018e 101d0-101fc 10877-10878 10ac8",
        "10d8e-10d8f 1173f 16b3c-16b3f 16b45 1bc9c 1ccd6-1ccef 1cf50-1cfc3 1d000-1d0f5",
        "1d100-1d126 1d129-1d164 1d16a-1d16c 1d183-1d184 1d18c-1d1a9 1d1ae-1d1e8 1d800-1d9ff",
        "1da37-1da3a 1da6d-1da74 1da76-1da83 1da85-1da86 1e14f 1ecac 1ecb0 1ed2e 1f110-1f12e",
        "1f130-1f169 1f170-1f1ac 1f1e6-1f202 1f210-1f23b 1f240-1f248 1f250-1f251"] } : PropertyRow).set

end FeatureFlags.Unicode.Direction
