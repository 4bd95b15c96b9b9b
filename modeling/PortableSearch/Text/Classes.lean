/-! The character classes of Unicode 14.0 that text rules here depend on (letters, digits, decimal
digits, unprintable characters), as sorted tables of code-point ranges searched by halving. -/

namespace PortableSearch.Text

def hexCharValue (c : Char) : Nat :=
  if '0' ≤ c ∧ c ≤ '9' then c.toNat - 48
  else if 'a' ≤ c ∧ c ≤ 'f' then c.toNat - 87
  else 0

def hexNumber (cs : List Char) : Nat :=
  cs.foldl (fun n c => n * 16 + hexCharValue c) 0

def readRanges (t : String) : Array (Nat × Nat) :=
  ((t.toList.splitOn ',').map fun item =>
    match item.splitOn '-' with
    | [a, b] => (hexNumber a, hexNumber b)
    | _ => (hexNumber item, hexNumber item)).toArray

def findRange (rs : Array (Nat × Nat)) (n : Nat) (lo hi : Nat) : Option (Nat × Nat) :=
  if _h : lo < hi then
    let mid := (lo + hi) / 2
    match rs[mid]? with
    | none => none
    | some (a, b) =>
      if n < a then findRange rs n lo mid
      else if b < n then findRange rs n (mid + 1) hi
      else some (a, b)
  else none
termination_by hi - lo

def inTable (rs : Array (Nat × Nat)) (c : Char) : Bool :=
  (findRange rs c.toNat 0 rs.size).isSome

def letterTable : Array (Nat × Nat) := readRanges (
    "41-5a,61-7a,aa,b5,ba,c0-d6,d8-f6,f8-2c1,2c6-2d1,2e0-2e4,2ec,2ee,370-374,376-377,37a-37d,37" ++
    "f,386,388-38a,38c,38e-3a1,3a3-3f5,3f7-481,48a-52f,531-556,559,560-588,5d0-5ea,5ef-5f2,620-" ++
    "64a,66e-66f,671-6d3,6d5,6e5-6e6,6ee-6ef,6fa-6fc,6ff,710,712-72f,74d-7a5,7b1,7ca-7ea,7f4-7f" ++
    "5,7fa,800-815,81a,824,828,840-858,860-86a,870-887,889-88e,8a0-8c9,904-939,93d,950,958-961," ++
    "971-980,985-98c,98f-990,993-9a8,9aa-9b0,9b2,9b6-9b9,9bd,9ce,9dc-9dd,9df-9e1,9f0-9f1,9fc,a0" ++
    "5-a0a,a0f-a10,a13-a28,a2a-a30,a32-a33,a35-a36,a38-a39,a59-a5c,a5e,a72-a74,a85-a8d,a8f-a91," ++
    "a93-aa8,aaa-ab0,ab2-ab3,ab5-ab9,abd,ad0,ae0-ae1,af9,b05-b0c,b0f-b10,b13-b28,b2a-b30,b32-b3" ++
    "3,b35-b39,b3d,b5c-b5d,b5f-b61,b71,b83,b85-b8a,b8e-b90,b92-b95,b99-b9a,b9c,b9e-b9f,ba3-ba4," ++
    "ba8-baa,bae-bb9,bd0,c05-c0c,c0e-c10,c12-c28,c2a-c39,c3d,c58-c5a,c5d,c60-c61,c80,c85-c8c,c8" ++
    "e-c90,c92-ca8,caa-cb3,cb5-cb9,cbd,cdd-cde,ce0-ce1,cf1-cf2,d04-d0c,d0e-d10,d12-d3a,d3d,d4e," ++
    "d54-d56,d5f-d61,d7a-d7f,d85-d96,d9a-db1,db3-dbb,dbd,dc0-dc6,e01-e30,e32-e33,e40-e46,e81-e8" ++
    "2,e84,e86-e8a,e8c-ea3,ea5,ea7-eb0,eb2-eb3,ebd,ec0-ec4,ec6,edc-edf,f00,f40-f47,f49-f6c,f88-" ++
    "f8c,1000-102a,103f,1050-1055,105a-105d,1061,1065-1066,106e-1070,1075-1081,108e,10a0-10c5,1" ++
    "0c7,10cd,10d0-10fa,10fc-1248,124a-124d,1250-1256,1258,125a-125d,1260-1288,128a-128d,1290-1" ++
    "2b0,12b2-12b5,12b8-12be,12c0,12c2-12c5,12c8-12d6,12d8-1310,1312-1315,1318-135a,1380-138f,1" ++
    "3a0-13f5,13f8-13fd,1401-166c,166f-167f,1681-169a,16a0-16ea,16f1-16f8,1700-1711,171f-1731,1" ++
    "740-1751,1760-176c,176e-1770,1780-17b3,17d7,17dc,1820-1878,1880-1884,1887-18a8,18aa,18b0-1" ++
    "8f5,1900-191e,1950-196d,1970-1974,1980-19ab,19b0-19c9,1a00-1a16,1a20-1a54,1aa7,1b05-1b33,1" ++
    "b45-1b4c,1b83-1ba0,1bae-1baf,1bba-1be5,1c00-1c23,1c4d-1c4f,1c5a-1c7d,1c80-1c88,1c90-1cba,1" ++
    "cbd-1cbf,1ce9-1cec,1cee-1cf3,1cf5-1cf6,1cfa,1d00-1dbf,1e00-1f15,1f18-1f1d,1f20-1f45,1f48-1" ++
    "f4d,1f50-1f57,1f59,1f5b,1f5d,1f5f-1f7d,1f80-1fb4,1fb6-1fbc,1fbe,1fc2-1fc4,1fc6-1fcc,1fd0-1" ++
    "fd3,1fd6-1fdb,1fe0-1fec,1ff2-1ff4,1ff6-1ffc,2071,207f,2090-209c,2102,2107,210a-2113,2115,2" ++
    "119-211d,2124,2126,2128,212a-212d,212f-2139,213c-213f,2145-2149,214e,2183-2184,2c00-2ce4,2" ++
    "ceb-2cee,2cf2-2cf3,2d00-2d25,2d27,2d2d,2d30-2d67,2d6f,2d80-2d96,2da0-2da6,2da8-2dae,2db0-2" ++
    "db6,2db8-2dbe,2dc0-2dc6,2dc8-2dce,2dd0-2dd6,2dd8-2dde,2e2f,3005-3006,3031-3035,303b-303c,3" ++
    "041-3096,309d-309f,30a1-30fa,30fc-30ff,3105-312f,3131-318e,31a0-31bf,31f0-31ff,3400-4dbf,4" ++
    "e00-a48c,a4d0-a4fd,a500-a60c,a610-a61f,a62a-a62b,a640-a66e,a67f-a69d,a6a0-a6e5,a717-a71f,a" ++
    "722-a788,a78b-a7ca,a7d0-a7d1,a7d3,a7d5-a7d9,a7f2-a801,a803-a805,a807-a80a,a80c-a822,a840-a" ++
    "873,a882-a8b3,a8f2-a8f7,a8fb,a8fd-a8fe,a90a-a925,a930-a946,a960-a97c,a984-a9b2,a9cf,a9e0-a" ++
    "9e4,a9e6-a9ef,a9fa-a9fe,aa00-aa28,aa40-aa42,aa44-aa4b,aa60-aa76,aa7a,aa7e-aaaf,aab1,aab5-a" ++
    "ab6,aab9-aabd,aac0,aac2,aadb-aadd,aae0-aaea,aaf2-aaf4,ab01-ab06,ab09-ab0e,ab11-ab16,ab20-a" ++
    "b26,ab28-ab2e,ab30-ab5a,ab5c-ab69,ab70-abe2,ac00-d7a3,d7b0-d7c6,d7cb-d7fb,f900-fa6d,fa70-f" ++
    "ad9,fb00-fb06,fb13-fb17,fb1d,fb1f-fb28,fb2a-fb36,fb38-fb3c,fb3e,fb40-fb41,fb43-fb44,fb46-f" ++
    "bb1,fbd3-fd3d,fd50-fd8f,fd92-fdc7,fdf0-fdfb,fe70-fe74,fe76-fefc,ff21-ff3a,ff41-ff5a,ff66-f" ++
    "fbe,ffc2-ffc7,ffca-ffcf,ffd2-ffd7,ffda-ffdc,10000-1000b,1000d-10026,10028-1003a,1003c-1003" ++
    "d,1003f-1004d,10050-1005d,10080-100fa,10280-1029c,102a0-102d0,10300-1031f,1032d-10340,1034" ++
    "2-10349,10350-10375,10380-1039d,103a0-103c3,103c8-103cf,10400-1049d,104b0-104d3,104d8-104f" ++
    "b,10500-10527,10530-10563,10570-1057a,1057c-1058a,1058c-10592,10594-10595,10597-105a1,105a" ++
    "3-105b1,105b3-105b9,105bb-105bc,10600-10736,10740-10755,10760-10767,10780-10785,10787-107b" ++
    "0,107b2-107ba,10800-10805,10808,1080a-10835,10837-10838,1083c,1083f-10855,10860-10876,1088" ++
    "0-1089e,108e0-108f2,108f4-108f5,10900-10915,10920-10939,10980-109b7,109be-109bf,10a00,10a1" ++
    "0-10a13,10a15-10a17,10a19-10a35,10a60-10a7c,10a80-10a9c,10ac0-10ac7,10ac9-10ae4,10b00-10b3" ++
    "5,10b40-10b55,10b60-10b72,10b80-10b91,10c00-10c48,10c80-10cb2,10cc0-10cf2,10d00-10d23,10e8" ++
    "0-10ea9,10eb0-10eb1,10f00-10f1c,10f27,10f30-10f45,10f70-10f81,10fb0-10fc4,10fe0-10ff6,1100" ++
    "3-11037,11071-11072,11075,11083-110af,110d0-110e8,11103-11126,11144,11147,11150-11172,1117" ++
    "6,11183-111b2,111c1-111c4,111da,111dc,11200-11211,11213-1122b,11280-11286,11288,1128a-1128" ++
    "d,1128f-1129d,1129f-112a8,112b0-112de,11305-1130c,1130f-11310,11313-11328,1132a-11330,1133" ++
    "2-11333,11335-11339,1133d,11350,1135d-11361,11400-11434,11447-1144a,1145f-11461,11480-114a" ++
    "f,114c4-114c5,114c7,11580-115ae,115d8-115db,11600-1162f,11644,11680-116aa,116b8,11700-1171" ++
    "a,11740-11746,11800-1182b,118a0-118df,118ff-11906,11909,1190c-11913,11915-11916,11918-1192" ++
    "f,1193f,11941,119a0-119a7,119aa-119d0,119e1,119e3,11a00,11a0b-11a32,11a3a,11a50,11a5c-11a8" ++
    "9,11a9d,11ab0-11af8,11c00-11c08,11c0a-11c2e,11c40,11c72-11c8f,11d00-11d06,11d08-11d09,11d0" ++
    "b-11d30,11d46,11d60-11d65,11d67-11d68,11d6a-11d89,11d98,11ee0-11ef2,11fb0,12000-12399,1248" ++
    "0-12543,12f90-12ff0,13000-1342e,14400-14646,16800-16a38,16a40-16a5e,16a70-16abe,16ad0-16ae" ++
    "d,16b00-16b2f,16b40-16b43,16b63-16b77,16b7d-16b8f,16e40-16e7f,16f00-16f4a,16f50,16f93-16f9" ++
    "f,16fe0-16fe1,16fe3,17000-187f7,18800-18cd5,18d00-18d08,1aff0-1aff3,1aff5-1affb,1affd-1aff" ++
    "e,1b000-1b122,1b150-1b152,1b164-1b167,1b170-1b2fb,1bc00-1bc6a,1bc70-1bc7c,1bc80-1bc88,1bc9" ++
    "0-1bc99,1d400-1d454,1d456-1d49c,1d49e-1d49f,1d4a2,1d4a5-1d4a6,1d4a9-1d4ac,1d4ae-1d4b9,1d4b" ++
    "b,1d4bd-1d4c3,1d4c5-1d505,1d507-1d50a,1d50d-1d514,1d516-1d51c,1d51e-1d539,1d53b-1d53e,1d54" ++
    "0-1d544,1d546,1d54a-1d550,1d552-1d6a5,1d6a8-1d6c0,1d6c2-1d6da,1d6dc-1d6fa,1d6fc-1d714,1d71" ++
    "6-1d734,1d736-1d74e,1d750-1d76e,1d770-1d788,1d78a-1d7a8,1d7aa-1d7c2,1d7c4-1d7cb,1df00-1df1" ++
    "e,1e100-1e12c,1e137-1e13d,1e14e,1e290-1e2ad,1e2c0-1e2eb,1e7e0-1e7e6,1e7e8-1e7eb,1e7ed-1e7e" ++
    "e,1e7f0-1e7fe,1e800-1e8c4,1e900-1e943,1e94b,1ee00-1ee03,1ee05-1ee1f,1ee21-1ee22,1ee24,1ee2" ++
    "7,1ee29-1ee32,1ee34-1ee37,1ee39,1ee3b,1ee42,1ee47,1ee49,1ee4b,1ee4d-1ee4f,1ee51-1ee52,1ee5" ++
    "4,1ee57,1ee59,1ee5b,1ee5d,1ee5f,1ee61-1ee62,1ee64,1ee67-1ee6a,1ee6c-1ee72,1ee74-1ee77,1ee7" ++
    "9-1ee7c,1ee7e,1ee80-1ee89,1ee8b-1ee9b,1eea1-1eea3,1eea5-1eea9,1eeab-1eebb,20000-2a6df,2a70" ++
    "0-2b738,2b740-2b81d,2b820-2cea1,2ceb0-2ebe0,2f800-2fa1d,30000-3134a")

def digitTable : Array (Nat × Nat) := readRanges (
    "30-39,b2-b3,b9,660-669,6f0-6f9,7c0-7c9,966-96f,9e6-9ef,a66-a6f,ae6-aef,b66-b6f,be6-bef,c66" ++
    "-c6f,ce6-cef,d66-d6f,de6-def,e50-e59,ed0-ed9,f20-f29,1040-1049,1090-1099,1369-1371,17e0-17" ++
    "e9,1810-1819,1946-194f,19d0-19da,1a80-1a89,1a90-1a99,1b50-1b59,1bb0-1bb9,1c40-1c49,1c50-1c" ++
    "59,2070,2074-2079,2080-2089,2460-2468,2474-247c,2488-2490,24ea,24f5-24fd,24ff,2776-277e,27" ++
    "80-2788,278a-2792,a620-a629,a8d0-a8d9,a900-a909,a9d0-a9d9,a9f0-a9f9,aa50-aa59,abf0-abf9,ff" ++
    "10-ff19,104a0-104a9,10a40-10a43,10d30-10d39,10e60-10e68,11052-1105a,11066-1106f,110f0-110f" ++
    "9,11136-1113f,111d0-111d9,112f0-112f9,11450-11459,114d0-114d9,11650-11659,116c0-116c9,1173" ++
    "0-11739,118e0-118e9,11950-11959,11c50-11c59,11d50-11d59,11da0-11da9,16a60-16a69,16ac0-16ac" ++
    "9,16b50-16b59,1d7ce-1d7ff,1e140-1e149,1e2f0-1e2f9,1e950-1e959,1f100-1f10a,1fbf0-1fbf9")

def decimalTable : Array (Nat × Nat) := readRanges (
    "30-39,660-669,6f0-6f9,7c0-7c9,966-96f,9e6-9ef,a66-a6f,ae6-aef,b66-b6f,be6-bef,c66-c6f,ce6-" ++
    "cef,d66-d6f,de6-def,e50-e59,ed0-ed9,f20-f29,1040-1049,1090-1099,17e0-17e9,1810-1819,1946-1" ++
    "94f,19d0-19d9,1a80-1a89,1a90-1a99,1b50-1b59,1bb0-1bb9,1c40-1c49,1c50-1c59,a620-a629,a8d0-a" ++
    "8d9,a900-a909,a9d0-a9d9,a9f0-a9f9,aa50-aa59,abf0-abf9,ff10-ff19,104a0-104a9,10d30-10d39,11" ++
    "066-1106f,110f0-110f9,11136-1113f,111d0-111d9,112f0-112f9,11450-11459,114d0-114d9,11650-11" ++
    "659,116c0-116c9,11730-11739,118e0-118e9,11950-11959,11c50-11c59,11d50-11d59,11da0-11da9,16" ++
    "a60-16a69,16ac0-16ac9,16b50-16b59,1d7ce-1d7ff,1e140-1e149,1e2f0-1e2f9,1e950-1e959,1fbf0-1f" ++
    "bf9")

def unprintableTable : Array (Nat × Nat) := readRanges (
    "0-1f,7f-a0,ad,378-379,380-383,38b,38d,3a2,530,557-558,58b-58c,590,5c8-5cf,5eb-5ee,5f5-605," ++
    "61c,6dd,70e-70f,74b-74c,7b2-7bf,7fb-7fc,82e-82f,83f,85c-85d,85f,86b-86f,88f-897,8e2,984,98" ++
    "d-98e,991-992,9a9,9b1,9b3-9b5,9ba-9bb,9c5-9c6,9c9-9ca,9cf-9d6,9d8-9db,9de,9e4-9e5,9ff-a00," ++
    "a04,a0b-a0e,a11-a12,a29,a31,a34,a37,a3a-a3b,a3d,a43-a46,a49-a4a,a4e-a50,a52-a58,a5d,a5f-a6" ++
    "5,a77-a80,a84,a8e,a92,aa9,ab1,ab4,aba-abb,ac6,aca,ace-acf,ad1-adf,ae4-ae5,af2-af8,b00,b04," ++
    "b0d-b0e,b11-b12,b29,b31,b34,b3a-b3b,b45-b46,b49-b4a,b4e-b54,b58-b5b,b5e,b64-b65,b78-b81,b8" ++
    "4,b8b-b8d,b91,b96-b98,b9b,b9d,ba0-ba2,ba5-ba7,bab-bad,bba-bbd,bc3-bc5,bc9,bce-bcf,bd1-bd6," ++
    "bd8-be5,bfb-bff,c0d,c11,c29,c3a-c3b,c45,c49,c4e-c54,c57,c5b-c5c,c5e-c5f,c64-c65,c70-c76,c8" ++
    "d,c91,ca9,cb4,cba-cbb,cc5,cc9,cce-cd4,cd7-cdc,cdf,ce4-ce5,cf0,cf3-cff,d0d,d11,d45,d49,d50-" ++
    "d53,d64-d65,d80,d84,d97-d99,db2,dbc,dbe-dbf,dc7-dc9,dcb-dce,dd5,dd7,de0-de5,df0-df1,df5-e0" ++
    "0,e3b-e3e,e5c-e80,e83,e85,e8b,ea4,ea6,ebe-ebf,ec5,ec7,ece-ecf,eda-edb,ee0-eff,f48,f6d-f70," ++
    "f98,fbd,fcd,fdb-fff,10c6,10c8-10cc,10ce-10cf,1249,124e-124f,1257,1259,125e-125f,1289,128e-" ++
    "128f,12b1,12b6-12b7,12bf,12c1,12c6-12c7,12d7,1311,1316-1317,135b-135c,137d-137f,139a-139f," ++
    "13f6-13f7,13fe-13ff,1680,169d-169f,16f9-16ff,1716-171e,1737-173f,1754-175f,176d,1771,1774-" ++
    "177f,17de-17df,17ea-17ef,17fa-17ff,180e,181a-181f,1879-187f,18ab-18af,18f6-18ff,191f,192c-" ++
    "192f,193c-193f,1941-1943,196e-196f,1975-197f,19ac-19af,19ca-19cf,19db-19dd,1a1c-1a1d,1a5f," ++
    "1a7d-1a7e,1a8a-1a8f,1a9a-1a9f,1aae-1aaf,1acf-1aff,1b4d-1b4f,1b7f,1bf4-1bfb,1c38-1c3a,1c4a-" ++
    "1c4c,1c89-1c8f,1cbb-1cbc,1cc8-1ccf,1cfb-1cff,1f16-1f17,1f1e-1f1f,1f46-1f47,1f4e-1f4f,1f58," ++
    "1f5a,1f5c,1f5e,1f7e-1f7f,1fb5,1fc5,1fd4-1fd5,1fdc,1ff0-1ff1,1ff5,1fff-200f,2028-202f,205f-" ++
    "206f,2072-2073,208f,209d-209f,20c1-20cf,20f1-20ff,218c-218f,2427-243f,244b-245f,2b74-2b75," ++
    "2b96,2cf4-2cf8,2d26,2d28-2d2c,2d2e-2d2f,2d68-2d6e,2d71-2d7e,2d97-2d9f,2da7,2daf,2db7,2dbf," ++
    "2dc7,2dcf,2dd7,2ddf,2e5e-2e7f,2e9a,2ef4-2eff,2fd6-2fef,2ffc-3000,3040,3097-3098,3100-3104," ++
    "3130,318f,31e4-31ef,321f,a48d-a48f,a4c7-a4cf,a62c-a63f,a6f8-a6ff,a7cb-a7cf,a7d2,a7d4,a7da-" ++
    "a7f1,a82d-a82f,a83a-a83f,a878-a87f,a8c6-a8cd,a8da-a8df,a954-a95e,a97d-a97f,a9ce,a9da-a9dd," ++
    "a9ff,aa37-aa3f,aa4e-aa4f,aa5a-aa5b,aac3-aada,aaf7-ab00,ab07-ab08,ab0f-ab10,ab17-ab1f,ab27," ++
    "ab2f,ab6c-ab6f,abee-abef,abfa-abff,d7a4-d7af,d7c7-d7ca,d7fc-f8ff,fa6e-fa6f,fada-faff,fb07-" ++
    "fb12,fb18-fb1c,fb37,fb3d,fb3f,fb42,fb45,fbc3-fbd2,fd90-fd91,fdc8-fdce,fdd0-fdef,fe1a-fe1f," ++
    "fe53,fe67,fe6c-fe6f,fe75,fefd-ff00,ffbf-ffc1,ffc8-ffc9,ffd0-ffd1,ffd8-ffd9,ffdd-ffdf,ffe7," ++
    "ffef-fffb,fffe-ffff,1000c,10027,1003b,1003e,1004e-1004f,1005e-1007f,100fb-100ff,10103-1010" ++
    "6,10134-10136,1018f,1019d-1019f,101a1-101cf,101fe-1027f,1029d-1029f,102d1-102df,102fc-102f" ++
    "f,10324-1032c,1034b-1034f,1037b-1037f,1039e,103c4-103c7,103d6-103ff,1049e-1049f,104aa-104a" ++
    "f,104d4-104d7,104fc-104ff,10528-1052f,10564-1056e,1057b,1058b,10593,10596,105a2,105b2,105b" ++
    "a,105bd-105ff,10737-1073f,10756-1075f,10768-1077f,10786,107b1,107bb-107ff,10806-10807,1080" ++
    "9,10836,10839-1083b,1083d-1083e,10856,1089f-108a6,108b0-108df,108f3,108f6-108fa,1091c-1091" ++
    "e,1093a-1093e,10940-1097f,109b8-109bb,109d0-109d1,10a04,10a07-10a0b,10a14,10a18,10a36-10a3" ++
    "7,10a3b-10a3e,10a49-10a4f,10a59-10a5f,10aa0-10abf,10ae7-10aea,10af7-10aff,10b36-10b38,10b5" ++
    "6-10b57,10b73-10b77,10b92-10b98,10b9d-10ba8,10bb0-10bff,10c49-10c7f,10cb3-10cbf,10cf3-10cf" ++
    "9,10d28-10d2f,10d3a-10e5f,10e7f,10eaa,10eae-10eaf,10eb2-10eff,10f28-10f2f,10f5a-10f6f,10f8" ++
    "a-10faf,10fcc-10fdf,10ff7-10fff,1104e-11051,11076-1107e,110bd,110c3-110cf,110e9-110ef,110f" ++
    "a-110ff,11135,11148-1114f,11177-1117f,111e0,111f5-111ff,11212,1123f-1127f,11287,11289,1128" ++
    "e,1129e,112aa-112af,112eb-112ef,112fa-112ff,11304,1130d-1130e,11311-11312,11329,11331,1133" ++
    "4,1133a,11345-11346,11349-1134a,1134e-1134f,11351-11356,11358-1135c,11364-11365,1136d-1136" ++
    "f,11375-113ff,1145c,11462-1147f,114c8-114cf,114da-1157f,115b6-115b7,115de-115ff,11645-1164" ++
    "f,1165a-1165f,1166d-1167f,116ba-116bf,116ca-116ff,1171b-1171c,1172c-1172f,11747-117ff,1183" ++
    "c-1189f,118f3-118fe,11907-11908,1190a-1190b,11914,11917,11936,11939-1193a,11947-1194f,1195" ++
    "a-1199f,119a8-119a9,119d8-119d9,119e5-119ff,11a48-11a4f,11aa3-11aaf,11af9-11bff,11c09,11c3" ++
    "7,11c46-11c4f,11c6d-11c6f,11c90-11c91,11ca8,11cb7-11cff,11d07,11d0a,11d37-11d39,11d3b,11d3" ++
    "e,11d48-11d4f,11d5a-11d5f,11d66,11d69,11d8f,11d92,11d99-11d9f,11daa-11edf,11ef9-11faf,11fb" ++
    "1-11fbf,11ff2-11ffe,1239a-123ff,1246f,12475-1247f,12544-12f8f,12ff3-12fff,1342f-143ff,1464" ++
    "7-167ff,16a39-16a3f,16a5f,16a6a-16a6d,16abf,16aca-16acf,16aee-16aef,16af6-16aff,16b46-16b4" ++
    "f,16b5a,16b62,16b78-16b7c,16b90-16e3f,16e9b-16eff,16f4b-16f4e,16f88-16f8e,16fa0-16fdf,16fe" ++
    "5-16fef,16ff2-16fff,187f8-187ff,18cd6-18cff,18d09-1afef,1aff4,1affc,1afff,1b123-1b14f,1b15" ++
    "3-1b163,1b168-1b16f,1b2fc-1bbff,1bc6b-1bc6f,1bc7d-1bc7f,1bc89-1bc8f,1bc9a-1bc9b,1bca0-1cef" ++
    "f,1cf2e-1cf2f,1cf47-1cf4f,1cfc4-1cfff,1d0f6-1d0ff,1d127-1d128,1d173-1d17a,1d1eb-1d1ff,1d24" ++
    "6-1d2df,1d2f4-1d2ff,1d357-1d35f,1d379-1d3ff,1d455,1d49d,1d4a0-1d4a1,1d4a3-1d4a4,1d4a7-1d4a" ++
    "8,1d4ad,1d4ba,1d4bc,1d4c4,1d506,1d50b-1d50c,1d515,1d51d,1d53a,1d53f,1d545,1d547-1d549,1d55" ++
    "1,1d6a6-1d6a7,1d7cc-1d7cd,1da8c-1da9a,1daa0,1dab0-1deff,1df1f-1dfff,1e007,1e019-1e01a,1e02" ++
    "2,1e025,1e02b-1e0ff,1e12d-1e12f,1e13e-1e13f,1e14a-1e14d,1e150-1e28f,1e2af-1e2bf,1e2fa-1e2f" ++
    "e,1e300-1e7df,1e7e7,1e7ec,1e7ef,1e7ff,1e8c5-1e8c6,1e8d7-1e8ff,1e94c-1e94f,1e95a-1e95d,1e96" ++
    "0-1ec70,1ecb5-1ed00,1ed3e-1edff,1ee04,1ee20,1ee23,1ee25-1ee26,1ee28,1ee33,1ee38,1ee3a,1ee3" ++
    "c-1ee41,1ee43-1ee46,1ee48,1ee4a,1ee4c,1ee50,1ee53,1ee55-1ee56,1ee58,1ee5a,1ee5c,1ee5e,1ee6" ++
    "0,1ee63,1ee65-1ee66,1ee6b,1ee73,1ee78,1ee7d,1ee7f,1ee8a,1ee9c-1eea0,1eea4,1eeaa,1eebc-1eee" ++
    "f,1eef2-1efff,1f02c-1f02f,1f094-1f09f,1f0af-1f0b0,1f0c0,1f0d0,1f0f6-1f0ff,1f1ae-1f1e5,1f20" ++
    "3-1f20f,1f23c-1f23f,1f249-1f24f,1f252-1f25f,1f266-1f2ff,1f6d8-1f6dc,1f6ed-1f6ef,1f6fd-1f6f" ++
    "f,1f774-1f77f,1f7d9-1f7df,1f7ec-1f7ef,1f7f1-1f7ff,1f80c-1f80f,1f848-1f84f,1f85a-1f85f,1f88" ++
    "8-1f88f,1f8ae-1f8af,1f8b2-1f8ff,1fa54-1fa5f,1fa6e-1fa6f,1fa75-1fa77,1fa7d-1fa7f,1fa87-1fa8" ++
    "f,1faad-1faaf,1fabb-1fabf,1fac6-1facf,1fada-1fadf,1fae8-1faef,1faf7-1faff,1fb93,1fbcb-1fbe" ++
    "f,1fbfa-1ffff,2a6e0-2a6ff,2b739-2b73f,2b81e-2b81f,2cea2-2ceaf,2ebe1-2f7ff,2fa1e-2ffff,3134" ++
    "b-e00ff,e01f0-10ffff")

def isLetter (c : Char) : Bool := c.isAlpha || (c.toNat ≥ 0x80 && inTable letterTable c)

/-- A digit: a decimal digit, or another character with a digit value (superscripts, circled
digits). -/
def isDigitLike (c : Char) : Bool := c.isDigit || (c.toNat ≥ 0x80 && inTable digitTable c)

/-- The value of a decimal digit of any script. -/
def decimalValue? (c : Char) : Option Nat :=
  if c.isDigit then some (c.toNat - 48)
  else if c.toNat < 0x80 then none
  else (findRange decimalTable c.toNat 0 decimalTable.size).map fun r => (c.toNat - r.1) % 10

def isPrintable (c : Char) : Bool :=
  if c.toNat < 0x80 then 0x20 ≤ c.toNat ∧ c.toNat < 0x7f else !inTable unprintableTable c

/-- White space: the ASCII blanks, the information separators 0x1c to 0x1f, and the Unicode
spaces and line and paragraph separators. -/
def isSpace (c : Char) : Bool :=
  let n := c.toNat
  (0x09 ≤ n ∧ n ≤ 0x0D) ∨ (0x1C ≤ n ∧ n ≤ 0x20) ∨ n = 0x85 ∨ n = 0xA0 ∨ n = 0x1680 ∨
    (0x2000 ≤ n ∧ n ≤ 0x200A) ∨ n = 0x2028 ∨ n = 0x2029 ∨ n = 0x202F ∨ n = 0x205F ∨ n = 0x3000

def strip (s : String) : String :=
  String.ofList ((s.toList.dropWhile isSpace).reverse.dropWhile isSpace).reverse

/-! ## Integer numerals -/

def digitLimit : Nat := 4300

/-- The integer a numeral states: white space around it ignored, an optional sign, and decimal
digits of any script, at most `digitLimit`, with single underscores between them. -/
def numeralValue? (s : String) : Option Int :=
  let t := (strip s).toList
  let (sign, body) : Int × List Char := match t with
    | '-' :: rest => (-1, rest)
    | '+' :: rest => (1, rest)
    | _ => (1, t)
  let digits := body.filter (· ≠ '_')
  if (body.splitOn '_').any List.isEmpty ∨ digits.length > digitLimit then none
  else (digits.foldlM (fun n c => (decimalValue? c).map (fun v => n * 10 + (v : Int))) 0).map (sign * ·)

def wholeValue? (s : String) : Option Nat :=
  (numeralValue? s).bind fun n => if n ≥ 0 then some n.toNat else none

example : numeralValue? " -1_000 " = some (-1000) := by decide
example : numeralValue? "1__0" = none := by decide
example : numeralValue? "_1" = none := by decide

end PortableSearch.Text
