import StartPage.Unicode.Runs

/-!
    The version of Unicode that each code point was first assigned in, up to Unicode 17. The kinds of
    the table are the versions in their order; a code point of a later kind has no character yet. -/

namespace StartPage.Unicode

/-- The versions, the oldest first. -/
def versions : List String :=
  ["1.1", "2.0", "2.1", "3.0", "3.1", "3.2", "4.0", "4.1", "5.0", "5.1", "5.2", "6.0", "6.1", "6.2",
   "6.3", "7.0", "8.0", "9.0", "10.0", "11.0", "12.0", "12.1", "13.0", "14.0", "15.0", "15.1",
   "16.0", "17.0"]

/-- The runs of code points that were assigned in one version, as letters and lengths. -/
def ageTable : String :=
  "A502D4A30D8FGD18G3H11I14A89D5G2A47DA10D5G17A70D9FG8H5G3A2DF13J4A2J2c2AI3APc4A7cAcA20cA44JA7DF2ADA
   DADADA18E2FG5H4DA12DA66DA12DA41JD2F2D4A53F2A2F2A2F2IA28D2A8H2A2I6F16I4J16K2L2P8cA38c2A7TA39TADc2P
   2McB17HB13A10IA9BH3c8A27c4TA5c11G4MPJ5HAG9J5AOXHALA26J5A19D3G3H6LA14F2A72D2A5DA15DA30G2A10D5GD14c
   D30G3D27c2G3H30J18D49Fc14I59c2T3K46c2K15cL28c2LcS11c5X31bX2c5aX8MPM11P6Q2XR8W10X11TR15QM27PKA3GA5
   3L2A18KLA5KL2A25J2L5PK2I2HI2PA3cA8c2A2c2A22cA7cAc3A4c2AGA7c2A2c2A3Hc8Ac4A2cA5c2A21KS2Tc2GAGcA6c4A
   2c2A22cA7cA2cA2cA2c2AcA5c4A2c2A3c3Jc7A4cAc7A15JTc10A3cA7GAcA3cA22cA7cA2cA5c2A10cA3cA3c2Ac15AG3c2A
   10MGc7QS6cA3cA8c2A2c2A22cA7cA2cGA4c2A8Jc2A2c2A3c7WA2c4A2cA3J2c2A11GL6c10A2cA6c3A3cA4c3A2cAcA2c3A2
   c3A3c3A8HA3c4A5c3A3cA4c2Jc6Ac14HA12G8c5PA3TA8cA3cA23cA10PA5c2XJA7cA3cA4c7A2cJ2QcbXc2A2J2c2A10c7UJ
   8RPA2TA8cA3cA23cA10cA5c2G2A7cA3cA4c7A2c5bXAcA2I2c2A10cI2Yc12SPA2WA8cA3cA23LA16LS2JA6JcA3cA4LRc4R3
   AR7QA2J2c2A10J6R3J7cWD2cD18c3D24cD9cDc2D7c3Dc4D6cDcD8c6P10c2D3c12A58c4A29c37A2cAcUA2UAcUAU6A4UA7U
   A3cAcAU2A2UA13UA3c2A5cAcA6YcA10c2A2M2c32B72cB33DJ2c4B27L4B6DBcB21D3B7DBD3cD15cJDH2J3K4L2c37D34JD5
   JD2JD7J3D4J6D26J64K4J2A38cMc5Mc2A39F2H2AHM3A90K5A68K5A82K6D7HD63HDcD4c2D7cDcD4c2D39HDcD4c2D31HDcD
   4c2D7cDcD4c2D7HD7cD23HD31HDcD4c2D7HD39HD19c2L2H2D28c3H26c6D85Qc2Q6c2KD630K9D29c3D81P8c7F13XF7Xc9X
   F23c9F20c12F13cF3cF2c12D93Gc2D10c6G10c6D15XD10c6D88Tc7D42Jc5K70c10G29P2cG12c4G12c4Gc3G42c2G5c11H4
   2K2c4H26c6H10Kc3H2G32H28c2H2K63cK29c2K11c6K10c6K14c2P15W2X14b15c2b12c20I76Xca2I45X2aJ43M3J12M6L52
   c8L4J56c3J15c3J51R9a2c5T43c2T3M8c8K35M4SP2Uc5G108H88I7J28P15S4XRLKI2A155BJ4A90J6A22c2A6c2A38c2A6c
   2A8cAcAcAcA31c2A53cA15cA14c2A6cA19c2A3cA9cA47DA23FD6F5G2H2FH7F5JcO4A7Fc2A27cH5L8c3A11BCD3F2H4K3LN
   P3QSXbc14A18D2F7HI4Jc15A57D2GHF15HI2JK3A48DIJ4KQ2c4A91D9F12A242F14ADA121DFD30F52G2H11I12KL11P7R4S
   A37D2a3c22A11c21A139F20GA150F10A80D8F8A20G2F2HDA86D2F12H2F10G8H11JK2G2H16IJ10K3J4K10LK19LKL4K24PA
   4LA4L2A28LA35LALA4L3AKA7L2A7F14A31L3A24LA14LH7I4MJML2F28J4F16D256F512G14H6I7J5I4J41P3J5K5P26c2P32
   bWP34T3P12UP8ST25Q4T15UH47XH47XI13J3KJ3I4J6K2H107K7M2c5H45cMc5Mc2H54M2c7HLc14LH23c9H7cH7cH7cH7cH7
   cH7cH7cH7cJ32H24J4H2J19KM10P7R2S5T5UW3X11c34D26cD89c12D214c26D12Z4A56D3F3DAcA84F2c2A6F2A94Fc5A40J
   STcA94cA16D24L3W5H16J20a2c9ZF16A29G2cA36K12GF15A28G2HA50F15A12G4A47VA119G4A99G2A31GD6582W10G64A20
   902H22J8K8MQ9S21T5W13X3D1165c3D18F2D16FD12FD3FDc9K48J300c20J32L2J18M8J28P6QMK88c8H23I4J5I2J107L2Q
   L2M2P12L10MP3RTP2Q6T2U6X2U5W4a3b2X2bXbX5a3c20bX3W2PM2LJ5H44Wc3K10c6I56c8J69Rc8J12c6K28Q2T2J84c11J
   K29c3K78cK11c4K2P31cJ55c9J14c2J10c2J4K28P4K67c24K5M23c10L6c2L6c2L6c9L7cL7cP48Q4P2U2W4c4Q80K46c2K1
   0c6B11172c12K23c4K49c4B2048A6702M2F59K3c2H106c38A7c12A5c5DA25cA5cAcA2cA2cA108L16Xb16A365X16A64b2A
   54b7XE32A12FGX2F16H10c6A4J3P7Q2A21F2G2A10cA19cA4c4A3FAcA135c2AcA94F2A94c3A6c2A6c2A6c2A3c3A7cA7c10
   D3CA3G12cG26cG19cG2cG15c2G14c34G123c5G3c4G45c3G9H75P2R2cJ12Wc3Pc47J46c130J29c3J49c15P28c4E31PE4c9
   S3E27c5P43c5G30cGH36c4H14c42E38G2E38G80c2G10c6R36c4R36c4P40c8P52c11PX11cX15cX7cX2cX11cX15cX7cX2c3
   a52c12P311c9P22c10P8c24X6cX42cX9c69G6c2GcG44cG2c3Gc2GK22cK9P63c8P9c48Q19cQ2c5Q5I26K2c3IJ26c5Jb26c
   38M56c4Q2M2Q16c2Q46H4cH2c5H8cH3cH27T2c2H3c4H9Tc7H9c7K32P32c32P39c4P12c9K54c3K29c2K27c5K8P18c7P4c1
   2P7c80K73c55Q51c13Q51c7Q6T40c8T10c6a38c3a29c8a2c208K31cW42cW3c2W2c16a3b3c8b9c33b2aY3T40c8T42c22X2
   6c38W28c20U23c9L78c4L30X6c9PK66Xc10Tc2M25c7M10c6M53cM14T3Wc8P39c9M73Q4PW2M10PQ5cP20c11P18cP43RY3c
   62Q7cQcQ4cQ15cQ11c6P59c5P10c6QP3cP8c2P2c2P22cP7cP2cP5cTP9c2P2c2P3c2Qc6Pc5P7c2P7c3P5c11a10cac2aca3
   8ca10cac2aca4ca10ca2c8a2c29R90WRcRTUW2c30P72c8P10c166P54c2P18Q20c34P69c11P10c6R13c19M56UXc6M10c6a
   20c28Q26Tc2Q15c4Q16X7c185T60c100P83c12PW7c2Wc2W8cW2cW30cW2c2W12c9W10c70U8c2U46c2U11c27S72c8S52U2S
   23TS5c13X16P57c7Y10c86b8c88a34c14a10c6R9cR45cR14c10R29c3R32c2R22cR14c73S7cS2cS44c3ScS2cS9c8S10c6T
   6cT2cT37cT2cT6c7T10c6b44c4b10c246T25c7Y17cY41c3Y28ac85Wc15U50c13UI879P42Qc102I99P12cI4Pc11Q196c26
   36X99c13K1071YU9Y29c10a3995c5Q583c6841a58c1734L569c7P31cP10c4P2X79cX10c6P30c2P6c10P70c10P10cP7cP2
   1c5P19c432a58c198T91c5b25c2b25c44M69U6c4UM47U9c7M17c64RSU2Wc11W2b5c9R6125T5U6b8R755W483c41aW9b22c
   97b115c8701X4cX7cX2cL2S285X4c15Yc29U3c2Yc14U4c8S396c2308P107c5P13c3P9c7P10c2P8c3932a250b3c3a436c6
   b23c15b17c15X46c2X23c9X116c60E246c10E39c2JE180Q11X2c21H70c122Y20c12T20c12G87c9I18T7c135E85cE71cE2
   c2Ec2E2c2E4cE12cEcE4GE2cE65cE4c2E8cE7cE28cE4cE5cEc3E7cE338H2c2E290I2c2E50Q652c15Q5cQ15c1104X31c6Y
   6c213R7cR17c2R7cR2cR5c5Y62c33Yc112U45c3U14c2U10c4U2c320X31c17U58c5Uc464Y42c214a43c4ac192b31cb22c8
   b2c224X7cX4cX2cX15cP197c2P16c41R75Uc4R10c4R2c785T68c76U61c194M4cM27cM2cMc2McM10cM4cMcMc6Mc4McMcMc
   M3cM2cMc2McMcMcMcMcM2cMc2M4cM7cM4cM4cMcM10cM17c5M3cM5cM17c52M2c270J44c4J100c12L15c2L14PcL15cL15P2
   2c10K11P2W3K31TLKL11KLKL2KL3KL3K5L8KL7KL10M2UW3L9KLK2L2KL10K4L2KL10R18Wc56L26KL2c13K34L9Rc4K9c7L2
   c14S6c154L33P12Q3L6PL70PQ2L20P12L37PL5P4Q5P12L17P7Q8L63PLPL182PL4P2QL62P2M4P7Q5L24P18RP41RP86L5ML
   16ML3MLMLMLML3ML6M2L4MLM2L4ML12P2Q2L11P48L70P10QR2S2UW2bc3YX3P13c3P4R3S2TUW2c3L116Y3b4Y5P85T4Yc6U
   12c4Xc15P12c4P56c8P10c6P40c8P30c2W2a10c4a2c14b9c39S12WU3Q9R6SR8S8RS2R12UR12ST3R15S13T5UWT4W2XTUT4
   Q5R13S6T11W2U6W3U2T10U6QT2U8WXU3S23T25U84b4c8T14c2U4WY3U3X2c3U3W4Y2abc3baU6W19X4Y3W7X4Y3aYW3X3acb
   c4bY2W7X3Y2ac2aX8Yabc4bX7Y2c7W147cW55a37W10bc1027B2E42711W7X2c32K4149X4Yb6L222c2Q5762b12c2S7473c1
   5Z622c2466E542c1504B2W4939c5Y4192b4298c52100B2c65534B2c65534B2c65534B2c65534B2c65534B2c65534B2c65
   534B2c65534B2c65534B2c65534B2cEc30E96c128G240c65038B131074"

/-- The code points that were assigned by a version, which may be named with its dot, or without it
    behind the letter `v`. -/
def assignedBy? (name : String) : Option CharSet :=
  (versions.findIdx? fun v => name == v || name.toList == 'v' :: v.toList.filter (· != '.')).map
    fun n => codesOf (· ≤ n) (runsOf ageTable)

end StartPage.Unicode
