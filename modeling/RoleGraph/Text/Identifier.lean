import RoleGraph.Text.Ranges

/-!
# Characters of names

The characters that may start a name, and those that may follow in one.
-/

namespace RoleGraph

/-- The characters that may start a name. -/
def nameStartTable : List String :=
  ["41-5A 61-7A AA B5 BA C0-D6 D8-F6 F8-2C1 2C6-2D1 2E0-2E4 2EC 2EE 370-374 376-377 37A-37D 37F",
   "386 388-38A 38C 38E-3A1 3A3-3F5 3F7-481 48A-52F 531-556 559 561-587 5D0-5EA 5F0-5F2 620-64A",
   "66E-66F 671-6D3 6D5 6E5-6E6 6EE-6EF 6FA-6FC 6FF 710 712-72F 74D-7A5 7B1 7CA-7EA 7F4-7F5 7FA",
   "800-815 81A 824 828 840-858 8A0-8B4 8B6-8BD 904-939 93D 950 958-961 971-980 985-98C 98F-990",
   "993-9A8 9AA-9B0 9B2 9B6-9B9 9BD 9CE 9DC-9DD 9DF-9E1 9F0-9F1 A05-A0A A0F-A10 A13-A28 A2A-A30",
   "A32-A33 A35-A36 A38-A39 A59-A5C A5E A72-A74 A85-A8D A8F-A91 A93-AA8 AAA-AB0 AB2-AB3 AB5-AB9",
   "ABD AD0 AE0-AE1 AF9 B05-B0C B0F-B10 B13-B28 B2A-B30 B32-B33 B35-B39 B3D B5C-B5D B5F-B61 B71",
   "B83 B85-B8A B8E-B90 B92-B95 B99-B9A B9C B9E-B9F BA3-BA4 BA8-BAA BAE-BB9 BD0 C05-C0C C0E-C10",
   "C12-C28 C2A-C39 C3D C58-C5A C60-C61 C80 C85-C8C C8E-C90 C92-CA8 CAA-CB3 CB5-CB9 CBD CDE",
   "CE0-CE1 CF1-CF2 D05-D0C D0E-D10 D12-D3A D3D D4E D54-D56 D5F-D61 D7A-D7F D85-D96 D9A-DB1",
   "DB3-DBB DBD DC0-DC6 E01-E30 E32-E33 E40-E46 E81-E82 E84 E87-E88 E8A E8D E94-E97 E99-E9F",
   "EA1-EA3 EA5 EA7 EAA-EAB EAD-EB0 EB2-EB3 EBD EC0-EC4 EC6 EDC-EDF F00 F40-F47 F49-F6C F88-F8C",
   "1000-102A 103F 1050-1055 105A-105D 1061 1065-1066 106E-1070 1075-1081 108E 10A0-10C5 10C7 10CD",
   "10D0-10FA 10FC-1248 124A-124D 1250-1256 1258 125A-125D 1260-1288 128A-128D 1290-12B0 12B2-12B5",
   "12B8-12BE 12C0 12C2-12C5 12C8-12D6 12D8-1310 1312-1315 1318-135A 1380-138F 13A0-13F5 13F8-13FD",
   "1401-166C 166F-167F 1681-169A 16A0-16EA 16EE-16F8 1700-170C 170E-1711 1720-1731 1740-1751",
   "1760-176C 176E-1770 1780-17B3 17D7 17DC 1820-1877 1880-18A8 18AA 18B0-18F5 1900-191E 1950-196D",
   "1970-1974 1980-19AB 19B0-19C9 1A00-1A16 1A20-1A54 1AA7 1B05-1B33 1B45-1B4B 1B83-1BA0 1BAE-1BAF",
   "1BBA-1BE5 1C00-1C23 1C4D-1C4F 1C5A-1C7D 1C80-1C88 1CE9-1CEC 1CEE-1CF1 1CF5-1CF6 1D00-1DBF",
   "1E00-1F15 1F18-1F1D 1F20-1F45 1F48-1F4D 1F50-1F57 1F59-1F5D/2 1F5F-1F7D 1F80-1FB4 1FB6-1FBC",
   "1FBE 1FC2-1FC4 1FC6-1FCC 1FD0-1FD3 1FD6-1FDB 1FE0-1FEC 1FF2-1FF4 1FF6-1FFC 2071 207F 2090-209C",
   "2102 2107 210A-2113 2115 2118-211D 2124-2128/2 212A-2139 213C-213F 2145-2149 214E 2160-2188",
   "2C00-2C2E 2C30-2C5E 2C60-2CE4 2CEB-2CEE 2CF2-2CF3 2D00-2D25 2D27 2D2D 2D30-2D67 2D6F 2D80-2D96",
   "2DA0-2DA6 2DA8-2DAE 2DB0-2DB6 2DB8-2DBE 2DC0-2DC6 2DC8-2DCE 2DD0-2DD6 2DD8-2DDE 3005-3007",
   "3021-3029 3031-3035 3038-303C 3041-3096 309B-309F 30A1-30FA 30FC-30FF 3105-312D 3131-318E",
   "31A0-31BA 31F0-31FF 3400-4DB5 4E00-9FD5 A000-A48C A4D0-A4FD A500-A60C A610-A61F A62A-A62B",
   "A640-A66E A67F-A69D A6A0-A6EF A717-A71F A722-A788 A78B-A7AE A7B0-A7B7 A7F7-A801 A803-A805",
   "A807-A80A A80C-A822 A840-A873 A882-A8B3 A8F2-A8F7 A8FB A8FD A90A-A925 A930-A946 A960-A97C",
   "A984-A9B2 A9CF A9E0-A9E4 A9E6-A9EF A9FA-A9FE AA00-AA28 AA40-AA42 AA44-AA4B AA60-AA76 AA7A",
   "AA7E-AAAF AAB1 AAB5-AAB6 AAB9-AABD AAC0 AAC2 AADB-AADD AAE0-AAEA AAF2-AAF4 AB01-AB06 AB09-AB0E",
   "AB11-AB16 AB20-AB26 AB28-AB2E AB30-AB5A AB5C-AB65 AB70-ABE2 AC00-D7A3 D7B0-D7C6 D7CB-D7FB",
   "F900-FA6D FA70-FAD9 FB00-FB06 FB13-FB17 FB1D FB1F-FB28 FB2A-FB36 FB38-FB3C FB3E FB40-FB41",
   "FB43-FB44 FB46-FBB1 FBD3-FD3D FD50-FD8F FD92-FDC7 FDF0-FDFB FE70-FE74 FE76-FEFC FF21-FF3A",
   "FF41-FF5A FF66-FFBE FFC2-FFC7 FFCA-FFCF FFD2-FFD7 FFDA-FFDC 10000-1000B 1000D-10026",
   "10028-1003A 1003C-1003D 1003F-1004D 10050-1005D 10080-100FA 10140-10174 10280-1029C",
   "102A0-102D0 10300-1031F 10330-1034A 10350-10375 10380-1039D 103A0-103C3 103C8-103CF",
   "103D1-103D5 10400-1049D 104B0-104D3 104D8-104FB 10500-10527 10530-10563 10600-10736",
   "10740-10755 10760-10767 10800-10805 10808 1080A-10835 10837-10838 1083C 1083F-10855",
   "10860-10876 10880-1089E 108E0-108F2 108F4-108F5 10900-10915 10920-10939 10980-109B7",
   "109BE-109BF 10A00 10A10-10A13 10A15-10A17 10A19-10A33 10A60-10A7C 10A80-10A9C 10AC0-10AC7",
   "10AC9-10AE4 10B00-10B35 10B40-10B55 10B60-10B72 10B80-10B91 10C00-10C48 10C80-10CB2",
   "10CC0-10CF2 11003-11037 11083-110AF 110D0-110E8 11103-11126 11150-11172 11176 11183-111B2",
   "111C1-111C4 111DA 111DC 11200-11211 11213-1122B 11280-11286 11288 1128A-1128D 1128F-1129D",
   "1129F-112A8 112B0-112DE 11305-1130C 1130F-11310 11313-11328 1132A-11330 11332-11333",
   "11335-11339 1133D 11350 1135D-11361 11400-11434 11447-1144A 11480-114AF 114C4-114C5 114C7",
   "11580-115AE 115D8-115DB 11600-1162F 11644 11680-116AA 11700-11719 118A0-118DF 118FF",
   "11AC0-11AF8 11C00-11C08 11C0A-11C2E 11C40 11C72-11C8F 12000-12399 12400-1246E 12480-12543",
   "13000-1342E 14400-14646 16800-16A38 16A40-16A5E 16AD0-16AED 16B00-16B2F 16B40-16B43",
   "16B63-16B77 16B7D-16B8F 16F00-16F44 16F50 16F93-16F9F 16FE0 17000-187EC 18800-18AF2",
   "1B000-1B001 1BC00-1BC6A 1BC70-1BC7C 1BC80-1BC88 1BC90-1BC99 1D400-1D454 1D456-1D49C",
   "1D49E-1D49F 1D4A2 1D4A5-1D4A6 1D4A9-1D4AC 1D4AE-1D4B9 1D4BB 1D4BD-1D4C3 1D4C5-1D505",
   "1D507-1D50A 1D50D-1D514 1D516-1D51C 1D51E-1D539 1D53B-1D53E 1D540-1D544 1D546 1D54A-1D550",
   "1D552-1D6A5 1D6A8-1D6C0 1D6C2-1D6DA 1D6DC-1D6FA 1D6FC-1D714 1D716-1D734 1D736-1D74E",
   "1D750-1D76E 1D770-1D788 1D78A-1D7A8 1D7AA-1D7C2 1D7C4-1D7CB 1E800-1E8C4 1E900-1E943",
   "1EE00-1EE03 1EE05-1EE1F 1EE21-1EE22 1EE24 1EE27 1EE29-1EE32 1EE34-1EE37 1EE39 1EE3B 1EE42",
   "1EE47-1EE4B/2 1EE4D-1EE4F 1EE51-1EE52 1EE54 1EE57-1EE5F/2 1EE61-1EE62 1EE64 1EE67-1EE6A",
   "1EE6C-1EE72 1EE74-1EE77 1EE79-1EE7C 1EE7E 1EE80-1EE89 1EE8B-1EE9B 1EEA1-1EEA3 1EEA5-1EEA9",
   "1EEAB-1EEBB 20000-2A6D6 2A700-2B734 2B740-2B81D 2B820-2CEA1 2F800-2FA1D"]

/-- The characters that may follow in a name but not start it. -/
def namePartTable : List String :=
  ["30-39 5F B7 300-36F 387 483-487 591-5BD 5BF 5C1-5C2 5C4-5C5 5C7 610-61A 64B-669 670 6D6-6DC",
   "6DF-6E4 6E7-6E8 6EA-6ED 6F0-6F9 711 730-74A 7A6-7B0 7C0-7C9 7EB-7F3 816-819 81B-823 825-827",
   "829-82D 859-85B 8D4-8E1 8E3-903 93A-93C 93E-94F 951-957 962-963 966-96F 981-983 9BC 9BE-9C4",
   "9C7-9C8 9CB-9CD 9D7 9E2-9E3 9E6-9EF A01-A03 A3C A3E-A42 A47-A48 A4B-A4D A51 A66-A71 A75",
   "A81-A83 ABC ABE-AC5 AC7-AC9 ACB-ACD AE2-AE3 AE6-AEF B01-B03 B3C B3E-B44 B47-B48 B4B-B4D",
   "B56-B57 B62-B63 B66-B6F B82 BBE-BC2 BC6-BC8 BCA-BCD BD7 BE6-BEF C00-C03 C3E-C44 C46-C48",
   "C4A-C4D C55-C56 C62-C63 C66-C6F C81-C83 CBC CBE-CC4 CC6-CC8 CCA-CCD CD5-CD6 CE2-CE3 CE6-CEF",
   "D01-D03 D3E-D44 D46-D48 D4A-D4D D57 D62-D63 D66-D6F D82-D83 DCA DCF-DD4 DD6 DD8-DDF DE6-DEF",
   "DF2-DF3 E31 E34-E3A E47-E4E E50-E59 EB1 EB4-EB9 EBB-EBC EC8-ECD ED0-ED9 F18-F19 F20-F29",
   "F35-F39/2 F3E-F3F F71-F84 F86-F87 F8D-F97 F99-FBC FC6 102B-103E 1040-1049 1056-1059 105E-1060",
   "1062-1064 1067-106D 1071-1074 1082-108D 108F-109D 135D-135F 1369-1371 1712-1714 1732-1734",
   "1752-1753 1772-1773 17B4-17D3 17DD 17E0-17E9 180B-180D 1810-1819 18A9 1920-192B 1930-193B",
   "1946-194F 19D0-19DA 1A17-1A1B 1A55-1A5E 1A60-1A7C 1A7F-1A89 1A90-1A99 1AB0-1ABD 1B00-1B04",
   "1B34-1B44 1B50-1B59 1B6B-1B73 1B80-1B82 1BA1-1BAD 1BB0-1BB9 1BE6-1BF3 1C24-1C37 1C40-1C49",
   "1C50-1C59 1CD0-1CD2 1CD4-1CE8 1CED 1CF2-1CF4 1CF8-1CF9 1DC0-1DF5 1DFB-1DFF 203F-2040 2054",
   "20D0-20DC 20E1 20E5-20F0 2CEF-2CF1 2D7F 2DE0-2DFF 302A-302F 3099-309A A620-A629 A66F A674-A67D",
   "A69E-A69F A6F0-A6F1 A802 A806 A80B A823-A827 A880-A881 A8B4-A8C5 A8D0-A8D9 A8E0-A8F1 A900-A909",
   "A926-A92D A947-A953 A980-A983 A9B3-A9C0 A9D0-A9D9 A9E5 A9F0-A9F9 AA29-AA36 AA43 AA4C-AA4D",
   "AA50-AA59 AA7B-AA7D AAB0 AAB2-AAB4 AAB7-AAB8 AABE-AABF AAC1 AAEB-AAEF AAF5-AAF6 ABE3-ABEA",
   "ABEC-ABED ABF0-ABF9 FB1E FE00-FE0F FE20-FE2F FE33-FE34 FE4D-FE4F FF10-FF19 FF3F 101FD 102E0",
   "10376-1037A 104A0-104A9 10A01-10A03 10A05-10A06 10A0C-10A0F 10A38-10A3A 10A3F 10AE5-10AE6",
   "11000-11002 11038-11046 11066-1106F 1107F-11082 110B0-110BA 110F0-110F9 11100-11102",
   "11127-11134 11136-1113F 11173 11180-11182 111B3-111C0 111C9-111CC 111D0-111D9 1122C-11237",
   "1123E 112DF-112EA 112F0-112F9 11300-11303 1133C 1133E-11344 11347-11348 1134B-1134D 11357",
   "11362-11363 11366-1136C 11370-11374 11435-11446 11450-11459 114B0-114C3 114D0-114D9",
   "115AF-115B5 115B8-115C0 115DC-115DD 11630-11640 11650-11659 116AB-116B7 116C0-116C9",
   "1171D-1172B 11730-11739 118E0-118E9 11C2F-11C36 11C38-11C3F 11C50-11C59 11C92-11CA7",
   "11CA9-11CB6 16A60-16A69 16AF0-16AF4 16B30-16B36 16B50-16B59 16F51-16F7E 16F8F-16F92",
   "1BC9D-1BC9E 1D165-1D169 1D16D-1D172 1D17B-1D182 1D185-1D18B 1D1AA-1D1AD 1D242-1D244",
   "1D7CE-1D7FF 1DA00-1DA36 1DA3B-1DA6C 1DA75 1DA84 1DA9B-1DA9F 1DAA1-1DAAF 1E000-1E006",
   "1E008-1E018 1E01B-1E021 1E023-1E024 1E026-1E02A 1E8D0-1E8D6 1E944-1E94A 1E950-1E959",
   "E0100-E01EF"]

/-- The ranges of characters that may start a name. -/
def nameStarts : Ranges := Ranges.ofTable nameStartTable

/-- The ranges of characters that may only follow in a name. -/
def nameParts : Ranges := Ranges.ofTable namePartTable

/-- Whether a character may start a name. -/
def startsWord (c : Char) : Bool :=
  if c.toNat < 0x80 then c.isAlpha else nameStarts.has c.toNat

/-- Whether a character may follow in a name. -/
def continuesWord (c : Char) : Bool :=
  if c.toNat < 0x80 then c.isAlphanum || c == '_'
  else nameStarts.has c.toNat || nameParts.has c.toNat

end RoleGraph
