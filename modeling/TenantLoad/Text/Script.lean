/-!
# Scripts of characters

The table gives, for every script, its names in lower case without blanks
and the code points of its letters, marks and numbers.
-/

namespace TenantLoad
namespace Text

/-- The names and the ranges of code points of all scripts. -/
def scriptText : String :=
  String.join
    ["adlam/adlm:1e900-1e94b,1e950-1e959;ahom/ahom:11700-1171a,1171d-1172b,11730-1173b,11740-117",
      "46;anatolianhieroglyphs/hluw:14400-14646;arabic/arab:610-61a,620-669,66e-6d3,6d5-6dc,6df-6",
      "e8,6ea-6ef,6fa-6fc,6ff,750-77f,870-887,889-88e,898-8e1,8e3-8ff,fb50-fbb1,fbd3-fd3d,fd50-fd",
      "8f,fd92-fdc7,fdf0-fdfb,fe70-fe74,fe76-fefc,1ee00-1ee03,1ee05-1ee1f,1ee21-1ee22,1ee24,1ee27",
      ",1ee29-1ee32,1ee34-1ee37,1ee39,1ee3b,1ee42,1ee47,1ee49,1ee4b,1ee4d-1ee4f,1ee51-1ee52,1ee54",
      ",1ee57,1ee59,1ee5b,1ee5d,1ee5f,1ee61-1ee62,1ee64,1ee67-1ee6a,1ee6c-1ee72,1ee74-1ee77,1ee79",
      "-1ee7c,1ee7e,1ee80-1ee89,1ee8b-1ee9b,1eea1-1eea3,1eea5-1eea9,1eeab-1eebb;armenian/armn:531",
      "-556,559,560-588,fb13-fb17;avestan/avst:10b00-10b35;balinese/bali:1b00-1b4c,1b50-1b59,1b6b",
      "-1b73;bamum/bamu:a6a0-a6f1,16800-16a38;bassavah/bass:16ad0-16aed,16af0-16af4;batak/batk:1b",
      "c0-1bf3;bengali/beng:980-983,985-98c,98f-990,993-9a8,9aa-9b0,9b2,9b6-9b9,9bc-9c4,9c7-9c8,9",
      "cb-9ce,9d7,9dc-9dd,9df-9e3,9e6-9f1,9f4-9f9,9fc,9fe;bhaiksuki/bhks:11c00-11c08,11c0a-11c36,",
      "11c38-11c40,11c50-11c6c;bopomofo/bopo:3105-312f,31a0-31bf;brahmi/brah:11000-11046,11052-11",
      "075,1107f;braille/brai:2800-28ff;buginese/bugi:1a00-1a1b;buhid/buhd:1740-1753;canadianabor",
      "iginal/cans:1401-166c,166f-167f,18b0-18f5,11ab0-11abf;carian/cari:102a0-102d0;caucasianalb",
      "anian/aghb:10530-10563;chakma/cakm:11100-11134,11136-1113f,11144-11147;cham/cham:aa00-aa36",
      ",aa40-aa4d,aa50-aa59;cherokee/cher:13a0-13f5,13f8-13fd,ab70-abbf;chorasmian/chrs:10fb0-10f",
      "cb;common/zyyy:;coptic/copt/qaac:3e2-3ef,2c80-2ce4,2ceb-2cf3,2cfd,102e0-102fb;cuneiform/xs",
      "ux:12000-12399,12400-1246e,12480-12543;cypriot/cprt:10800-10805,10808,1080a-10835,10837-10",
      "838,1083c,1083f;cyprominoan/cpmn:12f90-12ff0;cyrillic/cyrl:400-481,483-52f,1c80-1c88,1d2b,",
      "2de0-2dff,a640-a672,a674-a67d,a67f-a69b,a69e-a69f,fe2e-fe2f;deseret/dsrt:10400-1044f;devan",
      "agari/deva:900-963,966-96f,971-97f,a8f2-a8f7,a8fb,a8fd-a8ff;divesakuru/diak:11900-11906,11",
      "909,1190c-11913,11915-11916,11918-11935,11937-11938,1193b-11943,11950-11959;dogra/dogr:118",
      "00-1183a;duployan/dupl:1bc00-1bc6a,1bc70-1bc7c,1bc80-1bc88,1bc90-1bc99,1bc9d-1bc9e;egyptia",
      "nhieroglyphs/egyp:13000-1342e;elbasan/elba:10500-10527;elymaic/elym:10fe0-10ff6;ethiopic/e",
      "thi:1200-1248,124a-124d,1250-1256,1258,125a-125d,1260-1288,128a-128d,1290-12b0,12b2-12b5,1",
      "2b8-12be,12c0,12c2-12c5,12c8-12d6,12d8-1310,1312-1315,1318-135a,135d-135f,1369-137c,1380-1",
      "38f,2d80-2d96,2da0-2da6,2da8-2dae,2db0-2db6,2db8-2dbe,2dc0-2dc6,2dc8-2dce,2dd0-2dd6,2dd8-2",
      "dde,ab01-ab06,ab09-ab0e,ab11-ab16,ab20-ab26,ab28-ab2e,1e7e0-1e7e6,1e7e8-1e7eb,1e7ed-1e7ee,",
      "1e7f0-1e7fe;garay/gara:;georgian/geor:10a0-10c5,10c7,10cd,10d0-10fa,10fd-10ff,1c90-1cba,1c",
      "bd-1cbf,2d00-2d25,2d27,2d2d;glagolitic/glag:2c00-2c5f;gothic/goth:10330-1034a;grantha/gran",
      ":11300-11303,11305-1130c,1130f-11310,11313-11328,1132a-11330,11332-11333,11335-11339,1133c",
      "-11344,11347-11348,1134b-1134d,11350,11357,1135d-11363;greek/grek:370-377,37a-37f,384-38a,",
      "38c,38e-3a1,3a3-3e1,3f0-3ff,1d26-1d2a,1d66-1d6a,1f00-1f15,1f18-1f1d,1f20-1f45,1f48-1f4d,1f",
      "50-1f57,1f59,1f5b,1f5d,1f5f-1f7d,1f80-1fb4,1fb6-1fc4,1fc6-1fd3,1fd6-1fdb,1fdd-1fef,1ff2-1f",
      "f4,1ff6-1ffe,ab65,10140-1018d,101a0,1d200-1d241,1d245;gujarati/gujr:a81-a83,a85-a8d,a8f-a9",
      "1,a93-aa8,aaa-ab0,ab2-ab3,ab5-ab9,abc-ac5,ac7-ac9,acb-acd,ad0,ae0-ae3,ae6-aef,af9-aff;gunj",
      "alagondi/gong:11d60-11d65,11d67-11d68,11d6a-11d8e,11d90-11d91,11d93-11d98,11da0-11da9;gurm",
      "ukhi/guru:a01-a03,a05-a0a,a0f-a10,a13-a28,a2a-a30,a32-a33,a35-a36,a38-a39,a3c,a3e-a42,a47-",
      "a48,a4b-a4d,a51,a59-a5c,a5e,a66-a75;gurungkhema/gukh:;han/hani:3021-3029,3038-303a,3400-4d",
      "bf,4e00-9fff,f900-fa6d,fa70-fad9,20000-2a6df,2a700-2b738,2b740-2b81d,2b820-2cea1,2ceb0-2eb",
      "e0,2f800-2fa1d,30000-3134a;hangul/hang:1100-11ff,302e-302f,3131-318e,a960-a97c,ac00-d7a3,d",
      "7b0-d7c6,d7cb-d7fb,ffa0-ffbe,ffc2-ffc7,ffca-ffcf,ffd2-ffd7,ffda-ffdc;hanifirohingya/rohg:1",
      "0d00-10d27,10d30-10d39;hanunoo/hano:1720-1734;hatran/hatr:108e0-108f2,108f4-108f5,108fb-10",
      "8ff;hebrew/hebr:591-5bd,5bf,5c1-5c2,5c4-5c5,5c7,5d0-5ea,5ef-5f2,fb1d-fb28,fb2a-fb36,fb38-f",
      "b3c,fb3e,fb40-fb41,fb43-fb44,fb46-fb4f;hiragana/hira:3041-3096,309d-309f,1b001,1b11f,1b150",
      "-1b152;imperialaramaic/armi:10840-10855,10858-1085f;inherited/zinh/qaai:;inscriptionalpahl",
      "avi/phli:10b60-10b72,10b78-10b7f;inscriptionalparthian/prti:10b40-10b55,10b58-10b5f;javane",
      "se/java:a980-a9c0,a9cf-a9d9;kaithi/kthi:11080-110ba,110c2;kannada/knda:c80-c83,c85-c8c,c8e",
      "-c90,c92-ca8,caa-cb3,cb5-cb9,cbc-cc4,cc6-cc8,cca-ccd,cd5-cd6,cdd-cde,ce0-ce3,ce6-cef,cf1-c",
      "f2;katakana/kana:30a1-30fa,30fc-30ff,31f0-31ff,ff66-ff9f,1aff0-1aff3,1aff5-1affb,1affd-1af",
      "fe,1b000,1b120-1b122,1b164-1b167;kawi/kawi:;kayahli/kali:a900-a92d;kharoshthi/khar:10a00-1",
      "0a03,10a05-10a06,10a0c-10a13,10a15-10a17,10a19-10a35,10a38-10a3a,10a3f-10a48;khitansmallsc",
      "ript/kits:16fe4,18b00-18cd5;khmer/khmr:1780-17d3,17d7,17dc-17dd,17e0-17e9,17f0-17f9;khojki",
      "/khoj:11200-11211,11213-11237,1123e;khudawadi/sind:112b0-112ea,112f0-112f9;kiratrai/krai:;",
      "lao/laoo:e81-e82,e84,e86-e8a,e8c-ea3,ea5,ea7-ebd,ec0-ec4,ec6,ec8-ecd,ed0-ed9,edc-edf;latin",
      "/latn:41-5a,61-7a,aa,ba,c0-d6,d8-f6,f8-2b8,1d00-1d25,1d2c-1d5c,1d62-1d65,1d6b-1d77,1d79-1d",
      "9a,1e00-1eff,2090-209c,2184,2c60-2c7c,2c7e-2c7f,a722-a76f,a771-a787,a78b-a7ca,a7d0-a7d1,a7",
      "d3,a7d5-a7d9,a7f5-a7f7,a7fa-a7ff,ab30-ab5a,ab60-ab64,ab66-ab68,fb00-fb06,ff21-ff3a,ff41-ff",
      "5a,1df00-1df1e;lepcha/lepc:1c00-1c37,1c40-1c49,1c4d-1c4f;limbu/limb:1900-191e,1920-192b,19",
      "30-193b,1946-194f;lineara/lina:10600-10736,10740-10755,10760-10767;linearb/linb:10000-1000",
      "b,1000d-10026,10028-1003a,1003c-1003d,1003f-1004d,10050-1005d,10080-100fa;lisu/lisu:a4d0-a",
      "4fd,11fb0;lycian/lyci:10280-1029c;lydian/lydi:10920-10939;mahajani/mahj:11150-11173,11176;",
      "makasar/maka:11ee0-11ef6;malayalam/mlym:d00-d0c,d0e-d10,d12-d44,d46-d48,d4a-d4e,d54-d63,d6",
      "6-d78,d7a-d7f;mandaic/mand:840-85b;manichaean/mani:10ac0-10ac7,10ac9-10ae6,10aeb-10aef;mar",
      "chen/marc:11c72-11c8f,11c92-11ca7,11ca9-11cb6;masaramgondi/gonm:11d00-11d06,11d08-11d09,11",
      "d0b-11d36,11d3a,11d3c-11d3d,11d3f-11d47,11d50-11d59;medefaidrin/medf:16e40-16e96;meeteimay",
      "ek/mtei:aae0-aaef,aaf2-aaf6,abc0-abea,abec-abed,abf0-abf9;mendekikakui/mend:1e800-1e8c4,1e",
      "8c7-1e8d6;meroiticcursive/merc:109a0-109b7,109bc-109cf,109d2-109ff;meroitichieroglyphs/mer",
      "o:10980-1099f;miao/plrd:16f00-16f4a,16f4f-16f87,16f8f-16f9f;modi/modi:11600-11640,11644,11",
      "650-11659;mongolian/mong:180b-180d,180f-1819,1820-1878,1880-18aa;mro/mroo:16a40-16a5e,16a6",
      "0-16a69;multani/mult:11280-11286,11288,1128a-1128d,1128f-1129d,1129f-112a8;myanmar/mymr:10",
      "00-1049,1050-109d,a9e0-a9fe,aa60-aa76,aa7a-aa7f;nabataean/nbat:10880-1089e,108a7-108af;nag",
      "mundari/nagm:;nandinagari/nand:119a0-119a7,119aa-119d7,119da-119e1,119e3-119e4;newtailue/t",
      "alu:1980-19ab,19b0-19c9,19d0-19da;newa/newa:11400-1144a,11450-11459,1145e-11461;nko/nkoo:7",
      "c0-7f5,7fa,7fd;nushu/nshu:16fe1,1b170-1b2fb;nyiakengpuachuehmong/hmnp:1e100-1e12c,1e130-1e",
      "13d,1e140-1e149,1e14e;ogham/ogam:1681-169a;olchiki/olck:1c50-1c7d;oldhungarian/hung:10c80-",
      "10cb2,10cc0-10cf2,10cfa-10cff;olditalic/ital:10300-10323,1032d-1032f;oldnortharabian/narb:",
      "10a80-10a9f;oldpermic/perm:10350-10375;oldpersian/xpeo:103a0-103c3,103c8-103cf,103d1-103d5",
      ";oldsogdian/sogo:10f00-10f27;oldsoutharabian/sarb:10a60-10a7e;oldturkic/orkh:10c00-10c48;o",
      "lduyghur/ougr:10f70-10f85;olonal/onao:;oriya/orya:b01-b03,b05-b0c,b0f-b10,b13-b28,b2a-b30,",
      "b32-b33,b35-b39,b3c-b44,b47-b48,b4b-b4d,b55-b57,b5c-b5d,b5f-b63,b66-b6f,b71-b77;osage/osge",
      ":104b0-104d3,104d8-104fb;osmanya/osma:10480-1049d,104a0-104a9;pahawhhmong/hmng:16b00-16b36",
      ",16b40-16b43,16b50-16b59,16b5b-16b61,16b63-16b77,16b7d-16b8f;palmyrene/palm:10860-10876,10",
      "879-1087f;paucinhau/pauc:11ac0-11af8;phagspa/phag:a840-a873;phoenician/phnx:10900-1091b;ps",
      "alterpahlavi/phlp:10b80-10b91,10ba9-10baf;rejang/rjng:a930-a953;runic/runr:16a0-16ea,16ee-",
      "16f8;samaritan/samr:800-82d;saurashtra/saur:a880-a8c5,a8d0-a8d9;sharada/shrd:11180-111c4,1",
      "11c9-111cc,111ce-111da,111dc;shavian/shaw:10450-1047f;siddham/sidd:11580-115b5,115b8-115c0",
      ",115d8-115dd;signwriting/sgnw:1da00-1da36,1da3b-1da6c,1da75,1da84,1da9b-1da9f,1daa1-1daaf;",
      "sinhala/sinh:d81-d83,d85-d96,d9a-db1,db3-dbb,dbd,dc0-dc6,dca,dcf-dd4,dd6,dd8-ddf,de6-def,d",
      "f2-df3,111e1-111f4;sogdian/sogd:10f30-10f54;sorasompeng/sora:110d0-110e8,110f0-110f9;soyom",
      "bo/soyo:11a50-11a99,11a9d;sundanese/sund:1b80-1bbf;sunuwar/sunu:;sylotinagri/sylo:a800-a82",
      "7,a82c;syriac/syrc:710-74a,74d-74f,860-86a;tagalog/tglg:1700-1715,171f;tagbanwa/tagb:1760-",
      "176c,176e-1770,1772-1773;taile/tale:1950-196d,1970-1974;taitham/lana:1a20-1a5e,1a60-1a7c,1",
      "a7f-1a89,1a90-1a99,1aa7;taiviet/tavt:aa80-aac2,aadb-aadd;takri/takr:11680-116b8,116c0-116c",
      "9;tamil/taml:b82-b83,b85-b8a,b8e-b90,b92-b95,b99-b9a,b9c,b9e-b9f,ba3-ba4,ba8-baa,bae-bb9,b",
      "be-bc2,bc6-bc8,bca-bcd,bd0,bd7,be6-bf2,11fc0-11fd4;tangsa/tnsa:16a70-16abe,16ac0-16ac9;tan",
      "gut/tang:16fe0,18800-18aff;telugu/telu:c00-c0c,c0e-c10,c12-c28,c2a-c39,c3c-c44,c46-c48,c4a",
      "-c4d,c55-c56,c58-c5a,c5d,c60-c63,c66-c6f,c78-c7e;thaana/thaa:780-7b1;thai/thai:e01-e3a,e40",
      "-e4e,e50-e59;tibetan/tibt:f00,f18-f19,f20-f33,f35,f37,f39,f3e-f47,f49-f6c,f71-f84,f86-f97,",
      "f99-fbc,fc6;tifinagh/tfng:2d30-2d67,2d6f,2d7f;tirhuta/tirh:11480-114c5,114c7,114d0-114d9;t",
      "odhri/todr:;toto/toto:1e290-1e2ae;tulutigalari/tutg:;ugaritic/ugar:10380-1039d;vai/vaii:a5",
      "00-a60c,a610-a62b;vithkuqi/vith:10570-1057a,1057c-1058a,1058c-10592,10594-10595,10597-105a",
      "1,105a3-105b1,105b3-105b9,105bb-105bc;wancho/wcho:1e2c0-1e2f9;warangciti/wara:118a0-118f2,",
      "118ff;yezidi/yezi:10e80-10ea9,10eab-10eac,10eb0-10eb1;yi/yiii:a000-a48c;zanabazarsquare/za",
      "nb:11a00-11a3e,11a47"]

/-- The value of hexadecimal digits. -/
def hexNumber (text : String) : Nat :=
  text.foldl (fun value digit =>
    value * 16 +
      (if digit.isDigit then digit.toNat - '0'.toNat else digit.toNat - 'a'.toNat + 10)) 0

/-- A range of code points: one number, or two with a hyphen between them. -/
def readRange (text : String) : Nat × Nat :=
  match text.splitOn "-" with
  | [first, last] => (hexNumber first, hexNumber last)
  | _ => (hexNumber text, hexNumber text)

/-- The names and the ranges of one script. -/
def readScript (entry : String) : List String × List (Nat × Nat) :=
  match entry.splitOn ":" with
  | [names, ranges] =>
    (names.splitOn "/", if ranges = "" then [] else (ranges.splitOn ",").map readRange)
  | _ => ([], [])

/-- All scripts. -/
def scripts : List (List String × List (Nat × Nat)) :=
  (scriptText.splitOn ";").map readScript

/-- The ranges of the script of a name. -/
def scriptRanges? (name : String) : Option (List (Nat × Nat)) :=
  (scripts.find? fun script => script.1.contains name).map fun script => script.2

end Text
end TenantLoad
