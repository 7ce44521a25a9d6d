import Interpose.Unicode.RangeTable

/-!
# Combining marks

The characters of general category Mark, which may not start a label of a host name.
-/

namespace Interpose.Unicode

/-- The combining marks. -/
def marks : RangeTable := RangeTable.ofText "
300-36F:M 483-489:M 591-5BD:M 5BF:M 5C1-5C2:M 5C4-5C5:M 5C7:M 610-61A:M 64B-65F:M 670:M 6D6-6DC:M
6DF-6E4:M 6E7-6E8:M 6EA-6ED:M 711:M 730-74A:M 7A6-7B0:M 7EB-7F3:M 7FD:M 816-819:M 81B-823:M
825-827:M 829-82D:M 859-85B:M 898-89F:M 8CA-8E1:M 8E3-903:M 93A-93C:M 93E-94F:M 951-957:M
962-963:M 981-983:M 9BC:M 9BE-9C4:M 9C7-9C8:M 9CB-9CD:M 9D7:M 9E2-9E3:M 9FE:M A01-A03:M A3C:M
A3E-A42:M A47-A48:M A4B-A4D:M A51:M A70-A71:M A75:M A81-A83:M ABC:M ABE-AC5:M AC7-AC9:M ACB-ACD:M
AE2-AE3:M AFA-AFF:M B01-B03:M B3C:M B3E-B44:M B47-B48:M B4B-B4D:M B55-B57:M B62-B63:M B82:M
BBE-BC2:M BC6-BC8:M BCA-BCD:M BD7:M C00-C04:M C3C:M C3E-C44:M C46-C48:M C4A-C4D:M C55-C56:M
C62-C63:M C81-C83:M CBC:M CBE-CC4:M CC6-CC8:M CCA-CCD:M CD5-CD6:M CE2-CE3:M CF3:M D00-D03:M
D3B-D3C:M D3E-D44:M D46-D48:M D4A-D4D:M D57:M D62-D63:M D81-D83:M DCA:M DCF-DD4:M DD6:M DD8-DDF:M
DF2-DF3:M E31:M E34-E3A:M E47-E4E:M EB1:M EB4-EBC:M EC8-ECE:M F18-F19:M F35:M F37:M F39:M
F3E-F3F:M F71-F84:M F86-F87:M F8D-F97:M F99-FBC:M FC6:M 102B-103E:M 1056-1059:M 105E-1060:M
1062-1064:M 1067-106D:M 1071-1074:M 1082-108D:M 108F:M 109A-109D:M 135D-135F:M 1712-1715:M
1732-1734:M 1752-1753:M 1772-1773:M 17B4-17D3:M 17DD:M 180B-180D:M 180F:M 1885-1886:M 18A9:M
1920-192B:M 1930-193B:M 1A17-1A1B:M 1A55-1A5E:M 1A60-1A7C:M 1A7F:M 1AB0-1ACE:M 1B00-1B04:M
1B34-1B44:M 1B6B-1B73:M 1B80-1B82:M 1BA1-1BAD:M 1BE6-1BF3:M 1C24-1C37:M 1CD0-1CD2:M 1CD4-1CE8:M
1CED:M 1CF4:M 1CF7-1CF9:M 1DC0-1DFF:M 20D0-20F0:M 2CEF-2CF1:M 2D7F:M 2DE0-2DFF:M 302A-302F:M
3099-309A:M A66F-A672:M A674-A67D:M A69E-A69F:M A6F0-A6F1:M A802:M A806:M A80B:M A823-A827:M
A82C:M A880-A881:M A8B4-A8C5:M A8E0-A8F1:M A8FF:M A926-A92D:M A947-A953:M A980-A983:M A9B3-A9C0:M
A9E5:M AA29-AA36:M AA43:M AA4C-AA4D:M AA7B-AA7D:M AAB0:M AAB2-AAB4:M AAB7-AAB8:M AABE-AABF:M
AAC1:M AAEB-AAEF:M AAF5-AAF6:M ABE3-ABEA:M ABEC-ABED:M FB1E:M FE00-FE0F:M FE20-FE2F:M 101FD:M
102E0:M 10376-1037A:M 10A01-10A03:M 10A05-10A06:M 10A0C-10A0F:M 10A38-10A3A:M 10A3F:M
10AE5-10AE6:M 10D24-10D27:M 10EAB-10EAC:M 10EFD-10EFF:M 10F46-10F50:M 10F82-10F85:M 11000-11002:M
11038-11046:M 11070:M 11073-11074:M 1107F-11082:M 110B0-110BA:M 110C2:M 11100-11102:M
11127-11134:M 11145-11146:M 11173:M 11180-11182:M 111B3-111C0:M 111C9-111CC:M 111CE-111CF:M
1122C-11237:M 1123E:M 11241:M 112DF-112EA:M 11300-11303:M 1133B-1133C:M 1133E-11344:M
11347-11348:M 1134B-1134D:M 11357:M 11362-11363:M 11366-1136C:M 11370-11374:M 11435-11446:M
1145E:M 114B0-114C3:M 115AF-115B5:M 115B8-115C0:M 115DC-115DD:M 11630-11640:M 116AB-116B7:M
1171D-1172B:M 1182C-1183A:M 11930-11935:M 11937-11938:M 1193B-1193E:M 11940:M 11942-11943:M
119D1-119D7:M 119DA-119E0:M 119E4:M 11A01-11A0A:M 11A33-11A39:M 11A3B-11A3E:M 11A47:M
11A51-11A5B:M 11A8A-11A99:M 11C2F-11C36:M 11C38-11C3F:M 11C92-11CA7:M 11CA9-11CB6:M 11D31-11D36:M
11D3A:M 11D3C-11D3D:M 11D3F-11D45:M 11D47:M 11D8A-11D8E:M 11D90-11D91:M 11D93-11D97:M
11EF3-11EF6:M 11F00-11F01:M 11F03:M 11F34-11F3A:M 11F3E-11F42:M 13440:M 13447-13455:M
16AF0-16AF4:M 16B30-16B36:M 16F4F:M 16F51-16F87:M 16F8F-16F92:M 16FE4:M 16FF0-16FF1:M
1BC9D-1BC9E:M 1CF00-1CF2D:M 1CF30-1CF46:M 1D165-1D169:M 1D16D-1D172:M 1D17B-1D182:M 1D185-1D18B:M
1D1AA-1D1AD:M 1D242-1D244:M 1DA00-1DA36:M 1DA3B-1DA6C:M 1DA75:M 1DA84:M 1DA9B-1DA9F:M
1DAA1-1DAAF:M 1E000-1E006:M 1E008-1E018:M 1E01B-1E021:M 1E023-1E024:M 1E026-1E02A:M 1E08F:M
1E130-1E136:M 1E2AE:M 1E2EC-1E2EF:M 1E4EC-1E4EF:M 1E8D0-1E8D6:M 1E944-1E94A:M E0100-E01EF:M"

end Interpose.Unicode
