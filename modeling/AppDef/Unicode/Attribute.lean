import AppDef.Unicode.Range

namespace AppDef.Unicode

/-- The properties that a character has or has not. -/
def attributes : List Property := [
  ⟨["AHex", "ASCII_Hex_Digit"], ["1QKHGwG"]⟩,
  ⟨["Alpha", "Alphabetic"], [
    "2BwGw1PBKBEBFXB/BeKEMOFHBBB2WB1KFBCCEBBGBBDBBBUB2TB4LI5GB1GCBG1J1HOBBBCBCBBIxEEzLF1YBHO",
    "3GBIEIEDKDCBQ1QN3FY1BJCEBFYCTTZHLFYBGR1KKMDHG2MBQBDEPNTBICCCWBHBBDEDICCCCBBIBECBFMCKBED",
    "BGECCWBHBCBCBCEFECCCEBHEBBRGLDBJBDBWBHBCBFDJBDBCDBPEVEEDBICCCWBHBCBFDICCCCJCECBFNBQCBGD",
    "DBEDCBBBCDCDDDMEFDDBDDBGB1INBDBXBQDIBDBDICBDCBCEyEBIBDBXBKBFDIBDBDICGCBENDMNBDB1JCIBDBD",
    "BBFEHFWGBDBSDYBJBBCHIGBBBISCN1wFHGB1TCBBBFBYBBBTBDCFBBGBOE1AB1/IB1EETEQB1E2D1XBBCFQ2AKE",
    "C1GBBFBC1LBaNBECHBBBEC1JBEC1BBECHBBBECPB1ZBEC2D1FQQ2WCGDjMCRBwF2LDLHULVMUMNBDBCM1UCTOBE",
    "B2D2ZH1LF2GK/BMEJX+CFL1MEw1WyE1/CU1SBXCLD1R1UBPBI1T1KCEK1MBLO1XWDK1ECJH1LCD1JEBGBCDBF6A",
    "1HOL8WCGC1GCGCIBBBBBBB/C1VBHBBDDBHDECGENFDBH3UBNBQN3FBEBCKBBDFGBBBBBBEBLCEFFEBR1JpN1U1o",
    "W7FGEDCM1GBBFBC1YHBQXJHBHBHBHBHBHBHBHB1A1PBeVDZJHFCFE2WGDB2wBEF1LB2+R1A1QQgA6eA2AlkN2D1",
    "OC8NDQKCU1PFID3R1HJC3HC2AFCBBBFYUB1BY1UM2EBB1MGDBBDK1BF1DNzD1TBMPBQQKFB1XJOSXD2FBBBBYDC",
    "QCELGCGCGJHBHB1LBOG3xVatEMXE1R88EbOC3K1GHMFFMBNBFBBBCBCB3M1BbLS2AC1W1IM3UFB4H1EwGwL2ZDG",
    "CGCGCD1DMBwBTBCBPCO1C3x2F1V8LzD1R1P1AN+F1LF+C1EEIBF1K4+S1EE1EE1II1UMLBPBHBCBLBPBHBC2D9X",
    "JWKIYGB1KBJ2FGCBB1MBCDBCXKXJ/2BTBCKWKw2G1YGC2AEBCFIBDBz1KzDz1DIByx1WKWKTNS3O2J1X1TN1TN1",
    "IaY1KBCDC2OzKBIW1KS1OVxXJ2G1LFK1ZJBNZX1TREI1DDBJ2ABEJCKBBB1DSB1CCBGE1+HBBBEBPBKH1ZXEBIC",
    "CCWBHBCBFDICCCCDBGBFH4y2CBDBEUD+2CCCBB5Y1WCHZG1C1/BBDB1x1WCB2HxCOVH5Z1Z3H2A/ICBCIBCB+BC",
    "CCCE2zIC1OCGBBBCx1TCKR2IFBS2J8HJB1NBHBB1R+CWBO2JHBCB1MDBBCBDBBCCYGBCB1FBCBEBBaHXJRB1JDD",
    "3PB2Psw3G3PR6E2iM3BP11QRG3tZiH8dZhZH/R2PR+S1QQE/VFTlQ2A4A2LE1ZHR2ACBBMCO5vYI16W1KJ8nHEB",
    "HBCB9DPBzDCBOEIcM28E3LFNDJHKEB5rB2VB2HBCCBCCCEBMBBBHB2BBECIBHByBEBFBBDHBaUCZBZB/BZB/BZB",
    "/BZB/BZBI1pU/GG6VHBRCHBCBFF1+1BB3Q1NKHQBaB+S1MfEynUHBEBCBPB6F1x2EDBDB15UEBxBCBBCBBKBEBB",
    "BBGBEBBBBBBDBCBBCBBBBBBBBBBCBBCEBHBEBEBBBKBRFDBFBRjUwGwGw3jW19nA1A41wG6+C5kCO79R30/g+1f",
    "C4qLF43A"]⟩,
  ⟨["Bidi_C", "Bidi_Control"], ["1gyB6fRCwF1XE"]⟩,
  ⟨["Bidi_M", "Bidi_Mirrored"], [
    "1ICSBBByBBBzBBB1NBPB3j+E1qzC2cyCKC1WCOC5RB6AEDGDBDCDEBEBBBBEJFBBSFEJCBBBIC/CEFBJCCTFCJF",
    "CCEYCQIEUCHC11zO2KBCEBCBDFEFDDOcTWCGBOIBHGDBEFBCCFEBBDCCKGCCMTBECBBBCBBEFCGDYCLCEEBCCCE",
    "1LCIB1IFBBBDFFDEBDFBB8ABgDEDCBCOCCK1LIdLKCI1jhzGFC5CCSBBByBBBzBBBBCBC1lrXB1ZB1ZB1ZB1ZB"]⟩,
  ⟨["CI", "Case_Ignorable"], [
    "1HBGBLB1DBBB2HBEBBBEBCCfX6AECEBJCBB7xH6PBFB1R1NBBBCBCBB1MBLGKLBB1DBKVQB3FIBKBE1BBBB+x2x",
    "L1wLEBCBYY1LD1MBHCGI1J1w1XBBBEIEBDHKCNBPB1wBEEIBUCwBCC1ZBECECCDDB+CDBLC1ZBEFBCEBUCWGBB1",
    "wBCBBEIBHCLC+B1zBMB1SBDB1XBBDFDBEHCLCzB1wBCBGBFCUCyC1ZCEEIBUCzB2IBHDBB2wBCHLJ3CBCJJBBH2",
    "JCxBBBBB1XOBFBCFLB1EJB3GEBGBCCCZCEDQENBCCGBPB2+BjADtSDzC+C+C2ACBHIBCLDBFB1NF1TB2BC1CB3W",
    "DECJBGD6xCCB1wBBHBBBBCIGKCB1HBI/1RE1QBBFBBFB1IJMC1AECCBD1YBBCDBBD1wICC2AG2SDBNBHEBGBDC1",
    "S1/NB1C3FdzBBDLDNDNDNCMFICKBCBCF1RFBKBBNBQN1T1B2sLC3RD3zBPB3A1A1PBeVB1EEDFFB2zG2zDroWB1",
    "7CG8OB3CEBKBByE2QCO1C2OBXD3HDDCIBDBEBZCFB4XCwSNB1GIZL1OD1QBCECCRBVC2CGCCCCMBIB1DBLB1TBB",
    "DCCFCBBxBOCFCBB3EFJD3ZBCBEBjpQB4TRhzQDBMQ1CBCB5JBHBGBLB1DBBB1PB1NC2DBVDgBB7CB4VF10FGB1K",
    "BJiGDBCFE1IDEB5FChzEcDC2QD2GL1RE3xB1WP1JBCCKD1RECCCBEBKB1SD1EFBI1+BMC1UJKECB2/DCBBCGBCB",
    "4zBDIVC1ZCDB1FHDF6DICDBBXB2UGBBECBC7OEGCBCxC2VICBBC3KBBBCGBB3FDCEBF8DJBC8ACBBEB4QECCEB1",
    "AK1IGCEIBJGCD1ONBCcWHBGBB2SWCHBCBC3wGDBBCBHBB2ICDBBBaxCLC1UFFBBB57NRGPdkwF1xHJE10LB1/R2",
    "ACBCg0LEBHBC34+CBE4iy1OCXhADJQCH+E4UD1tx1XE1SIBOBWFBP1aQHBRCHBCBFF1+1BB5AObQB1zEfxFvAH3",
    "NI2lPFo30BB+3A4A7Q"]⟩,
  ⟨["Cased"], [
    "2BwGw1PBKBEBFXB/B6DBEE6QB1EHC+F3AB1KECCCEBBGBBDBBBUB2TB4LI5GB1GJ1J2oX1GBBFBC1LBElA2WCG2",
    "4CJH1LCD2A6A2A8WCGC1GCGCIBBBBBBB/C1VBHBBDDBHDECGENFDBH3UBNBQN3FBEBCKBBDFGBBBBBBEBGEBCEF",
    "FEBR1ADCpR1U1oW7FGEDCM1GBBFBu8S1OS+4E3GDEB1xFCBBBFYFBDpV1LBOG2QjqAHMF10JwGw15F2Q3A1EE1E",
    "3ULBPBHBCBLBPBHBCeDBCDB1KBJ16F1TN1T2tN2AlbA2ApcA2VB2HBCCBCCCEBMBBBHB2BBECIBHByBEBFBBDHB",
    "aUCZBZB/BZB/BZB/BZB/BZBI1pUKBUGG8F1+24S2E1vMwGwGw"]⟩,
  ⟨["CWCF", "Changes_When_Casefolded"], [
    "2Bw2wBKXBI1ABBBBBBBBBBBBBBBBBBBBBBBBBBBBBBBBBBBBBBBBBBBBBBBBBBBBBBBCBBBBBBBBBBBBBBBBCBB",
    "BBBBBBBBBBBBBBBBBBBBBBBBBBBBBBBBBBBBBBBBBBBCBBBBBBBCBBBCBDCEBCBDDCBCBBBBBCBBCBBCBDBBBCD",
    "BHCBCBCBBBBBBBBBBBBBBBBCBBBBBBBBBBBBBBBBBCCBBBDBBBBBBBBBBBBBBBBBBBBBBBBBBBBBBBBBBBBBBBB",
    "BBBBBBBBBBBBBBBBBBHCBCCBBEBBBBBBBB7WB1KBBBDBIBGBBDBBBCBRBJWBMDDCBBBBBBBBBBBBBBBBBBBBBBB",
    "BBCCCBBBCC1T1QBBBBBBBBBBBBBBBBBBBBBBBBBBBBBBBBBJBBBBBBBBBBBBBBBBBBBBBBBBBBBBBBBBBBBBBBB",
    "BBBBBBBBBBBBBBBCBBBBBBBBBBBBCBBBBBBBBBBBBBBBBBBBBBBBBBBBBBBBBBBBBBBBBBBBBBBBBBBBBBBBBBB",
    "BBBBBBBBBBBBBBBBBBBBBBBBBBBBBBBBBBBBBC1G1QB2oY1GBBFBpKG24CJH1LCDaABBBBBBBBBBBBBBBBBBBBB",
    "BBBBBBBBBBBBBBBBBBBBBBBBBBBBBBBBBBBBBBBBBBBBBBBBBBBBBBBBBBBBBBBBBBBBBBBBBBBBBBBBBBBBBBB",
    "BBBBBBBBBBBBBBBBBBBBBBBBBBBBBBBBBBBBBBBBBFCCBBBBBBBBBBBBBBBBBBBBBBBBBBBBBBBBBBBBBBBBBBB",
    "BBBBBBBBBBBBBBBBBBBBBBBBBBBBBBBBBBBBBBBBBBBBBBBBBBBBBBJIIGKIIIIGLBBBBBBBIIQ1QCDCGFDCGLE",
    "MFFDCG9JBDCGB1NQTBpSw1pQ1Q1QBBDCBBBBBBEBBCBIDBBBBBBBBBBBBBBBBBBBBBBBBBBBBBBBBBBBBBBBBBB",
    "BBBBBBBBBBBBBBBBBBBBBBBBBBBBBBBBBBBBBBBBBBBBBBBBBBBBBBBBIBBBEBuaNBBBBBBBBBBBBBBBBBBBBBB",
    "BBBBBBBBBBBBBBBBBBBBBBBTBBBBBBBBBBBBBBBBBBBBBBBBBBB4HBBBBBBBBBBBBBDBBBBBBBBBBBBBBBBBBBB",
    "BBBBBBBBBBBBBBBBBBBBBBBBBBBBBBBBBBBBBBBBBKBBBBCBBBBBBBBEBBBCBBBDBBBBBBBBBBBBBBBBBBBBFBF",
    "BBBBBBBBBBBBBBBEBBGBFBBByBrw2QjqAHMF10Jw16F1I4I1E4yLBPBHBC1nK1T2vN1AlcA1AulA1C"]⟩,
  ⟨["CWCM", "Changes_When_Casemapped"], [
    "2BwGw1wBKXB/B2AB2UBNBOCOCCBBE2zBSGxBCBBBCDCBBBCBFCBBCCBHBCBBCDGFBKC5GB1KECCDDBBGBBDBBBU",
    "B1PD1BBFB4FI5GB1GK1H2oY1GBBFBC1LCDlA2WCG24CJH1LCD5ZBDBQB3R4yCBB3WCGC1GCGCIBBBBBBB/C1VBH",
    "BBDDBHDECGENFDBH9JBDCGBxBR1ADCpR1U1oW3RBCBCH3GHEDCM1GBBFBu8S1OSy4GOC1+JPDDCFBZBxFCEExCq",
    "yBy2QjqAHMF10JwGw15F2Q3A1EE1E3ULBPBHBCBLBPBHBC1mD1TN1T2tN2AlbA2AukA2E"]⟩,
  ⟨["CWL", "Changes_When_Lowercased"], [
    "2Bw3FXBH1BBBBBBBBBBBBBBBBBBBBBBBBBBBBBBBBBBBBBBBBBBBBBBBBBBBBBBBBCBBBBBBBBBBBBBBBCBBBBB",
    "BBBBBBBBBBBBBBBBBBBBBBBBBBBBBBBBBBBBBBBBBCBBBBDCBBBCBDCEBCBDDCBCBBBBBCBBCBBCBDBBBCDBHCB",
    "CBCBBBBBBBBBBBBBBBBCBBBBBBBBBBBBBBBBBCCBBBDBBBBBBBBBBBBBBBBBBBBBBBBBBBBBBBBBBBBBBBBBBBB",
    "BBBBBBBBBBBBBBHCBCCBBEBBBBBBBB9BBBBDBIBGBBDBBBCBRBJ1DBIBBBBBBBBBBBBBBBBBBBBBBBFBCBBCC1T",
    "1QBBBBBBBBBBBBBBBBBBBBBBBBBBBBBBBBBJBBBBBBBBBBBBBBBBBBBBBBBBBBBBBBBBBBBBBBBBBBBBBBBBBBB",
    "BBBCBBBBBBBBBBBBCBBBBBBBBBBBBBBBBBBBBBBBBBBBBBBBBBBBBBBBBBBBBBBBBBBBBBBBBBBBBBBBBBBBBBB",
    "BBBBBBBBBBBBBBBBBBBBBBBBBC1G2qJ1GBBFBmS2W24w1LCDaABBBBBBBBBBBBBBBBBBBBBBBBBBBBBBBBBBBBB",
    "BBBBBBBBBBBBBBBBBBBBBBBBBBBBBBBBBBBBBBBBBBBBBBBBBBBBBBBBBBBBBBBBBBBBBBBBBBBBBBBBBBBBBBB",
    "BBBBBBBBBBBBBBBBBBBBBBBBBJBBBBBBBBBBBBBBBBBBBBBBBBBBBBBBBBBBBBBBBBBBBBBBBBBBBBBBBBBBBBB",
    "BBBBBBBBBBBBBBBBBBBBBBBBBBBBBBBBBBBBJIIGKIIIIGLBBBBBBBIIYIIIIIIFLFLEMFLF9JBDCGB1NQTBpSw",
    "1pQ1Q1QBBDCBBBBBBEBBCBIDBBBBBBBBBBBBBBBBBBBBBBBBBBBBBBBBBBBBBBBBBBBBBBBBBBBBBBBBBBBBBBB",
    "BBBBBBBBBBBBBBBBBBBBBBBBBBBBBBBBBBBIBBBEBuaNBBBBBBBBBBBBBBBBBBBBBBBBBBBBBBBBBBBBBBBBBBB",
    "BBTBBBBBBBBBBBBBBBBBBBBBBBBBBB4HBBBBBBBBBBBBBDBBBBBBBBBBBBBBBBBBBBBBBBBBBBBBBBBBBBBBBBB",
    "BBBBBBBBBBBBBBBBBBBBKBBBBCBBBBBBBBEBBBCBBBDBBBBBBBBBBBBBBBBBBBBFBFBBBBBBBBBBBBBBBEBBGBF",
    "BBByBlpLw16F1I4I1E4yLBPBHBC1nK1T2vN1AlcA1AulA1C"]⟩,
  ⟨["CWT", "Changes_When_Titlecased"], [
    "3Bw1wB1JYBIBBBBBBBBBBBBBBBBBBBBBBBBBBBBBBBBBBBBBBBBBBBBBBBBBBBBBBBBCBBBBBBBBBBBBBBCBBBB",
    "BBBBBBBBBBBBBBBBBBBBBBBBBBBBBBBBBBBBBBBBBBCBBBBDCBBBCBDBFBCBDCDBCBBBBBCBEBCBDBBBCBDBBBE",
    "BBCBCBBBBBBBBBBBBBBBBBCBBBBBBBBBBBBBBBBBDBBBBDBBBBBBBBBBBBBBBBBBBBBBBBBBBBBBBBBBBBBBBDB",
    "BBBBBBBBBBBBBBBBIBCCBBEBBBBBBBBGBCBBBCDCBBBCBFCBBCCBHBCBBCDGFBKC5GB1LBBBDBDDSBx1DBCDDBB",
    "BBBBBBBBBBBBBBBBBBBBBFBBCBCB1U1QBBBBBBBBBBBBBBBBBBBBBBBBBBBBBBBBBBJBBBBBBBBBBBBBBBBBBBB",
    "BBBBBBBBBBBBBBBBBBBBBBBBBBBBBBBBBCBBBBBBBBBBBBCBBBBBBBBBBBBBBBBBBBBBBBBBBBBBBBBBBBBBBBB",
    "BBBBBBBBBBBBBBBBBBBBBBBBBBBBBBBBBBBBBBBBBBBBBBBBBBBBBBBB1R1H3jQG24CJ7QBDBQB3SBBBBBBBBBB",
    "BBBBBBBBBBBBBBBBBBBBBBBBBBBBBBBBBBBBBBBBBBBBBBBBBBBBBBBBBBBBBBBBBBBBBBBBBBBBBBBBBBBBBBB",
    "BBBBBBBBBBBBBBBBBBBBBBBBBBBBBBBBBBBBBBBBBBBBBBBBBBBHFBBBBBBBBBBBBBBBBBBBBBBBBBBBBBBBBBB",
    "BBBBBBBBBBBBBBBBBBBBBBBBBBBBBBBBBBBBBBBBBBBBBBBBBBBBBBBBBBBBJIGKIIIIGKIIIIOCIIIIIIFBCGB",
    "DDBCIECCIIKDBCaWB1BQEBqLw1qG1QBBDCBBBBBBGBCBKBBBBBBBBBBBBBBBBBBBBBBBBBBBBBBBBBBBBBBBBBB",
    "BBBBBBBBBBBBBBBBBBBBBBBBBBBBBBBBBBBBBBBBBBBBBBBBBBBBBBBBBIBBBEBM1GBBFBu8TBBBBBBBBBBBBBB",
    "BBBBBBBBBBBBBBBBBBBBBBBBBBBBBBBTBBBBBBBBBBBBBBBBBBBBBBBBBBB4HBBBBBBBBBBBBBDBBBBBBBBBBBB",
    "BBBBBBBBBBBBBBBBBBBBBBBBBBBBBBBBBBBBBBBBBBBBBBBBBKBBBCBBBBBBBBBEBEBBCCBBBBBBBBBBBBBBBBB",
    "BBLBBBBBBBBBBBBBBBEBBBGBFBBByBqyBy2QjqAHMF11Jw16N1I4I1E4xLBPBHBC1oD1T2uN1AlcA1AulC1C"]⟩,
  ⟨["CWU", "Changes_When_Uppercased"], [
    "3Bw1wB1JYBIBBBBBBBBBBBBBBBBBBBBBBBBBBBBBBBBBBBBBBBBBBBBBBBBBBBBBBBBCBBBBBBBBBBBBBBCBBBB",
    "BBBBBBBBBBBBBBBBBBBBBBBBBBBBBBBBBBBBBBBBBBCBBBBDCBBBCBDBFBCBDCDBCBBBBBCBEBCBDBBBCBDBBBF",
    "CBCBCBBBBBBBBBBBBBBBCBBBBBBBBBBBBBBBBBCBCBBDBBBBBBBBBBBBBBBBBBBBBBBBBBBBBBBBBBBBBBBDBBB",
    "BBBBBBBBBBBBBBIBCCBBEBBBBBBBBGBCBBBCDCBBBCBFCBBCCBHBCBBCDGFBKC5GB1LBBBDBDDSBx1DBCDDBBBB",
    "BBBBBBBBBBBBBBBBBBBFBBCBCB1U1QBBBBBBBBBBBBBBBBBBBBBBBBBBBBBBBBBBJBBBBBBBBBBBBBBBBBBBBBB",
    "BBBBBBBBBBBBBBBBBBBBBBBBBBBBBBBCBBBBBBBBBBBBCBBBBBBBBBBBBBBBBBBBBBBBBBBBBBBBBBBBBBBBBBB",
    "BBBBBBBBBBBBBBBBBBBBBBBBBBBBBBBBBBBBBBBBBBBBBBBBBBBBBB1R1H2qI1LCDnYG24CJ7QBDBQB3SBBBBBB",
    "BBBBBBBBBBBBBBBBBBBBBBBBBBBBBBBBBBBBBBBBBBBBBBBBBBBBBBBBBBBBBBBBBBBBBBBBBBBBBBBBBBBBBBB",
    "BBBBBBBBBBBBBBBBBBBBBBBBBBBBBBBBBBBBBBBBBBBBBBBBBBBBBBBHFBBBBBBBBBBBBBBBBBBBBBBBBBBBBBB",
    "BBBBBBBBBBBBBBBBBBBBBBBBBBBBBBBBBBBBBBBBBBBBBBBBBBBBBBBBBBBBBBBBJIGKIIIIGKIIIIOC1VBCEBB",
    "BDDBCEBDECCIIKDBCEBaRB1BQEBqLw1qG1QBBDCBBBBBBGBCBKBBBBBBBBBBBBBBBBBBBBBBBBBBBBBBBBBBBBB",
    "BBBBBBBBBBBBBBBBBBBBBBBBBBBBBBBBBBBBBBBBBBBBBBBBBBBBBBBBBBBBBBIBBBEBM1GBBFBu8TBBBBBBBBB",
    "BBBBBBBBBBBBBBBBBBBBBBBBBBBBBBBBBBBBTBBBBBBBBBBBBBBBBBBBBBBBBBBB4HBBBBBBBBBBBBBDBBBBBBB",
    "BBBBBBBBBBBBBBBBBBBBBBBBBBBBBBBBBBBBBBBBBBBBBBBBBBBBBBKBBBCBBBBBBBBBEBEBBCCBBBBBBBBBBBB",
    "BBBBBBBLBBBBBBBBBBBBBBBEBBBGBFBBByBqyBy2QjqAHMF11Jw16N1I4I1E4xLBPBHBC1oD1T2uN1AlcA1AulC",
    "1C"]⟩,
  ⟨["Dash"], ["1NB1ayB1TB3iBB10FB20JG1zB1HBPBcGB30EBCB/CEByBd+BTB3PB1jcQC1FBKB5JB3s/B"]⟩,
  ⟨["DI", "Default_Ignorable_Code_Point"], [
    "5NBlBBmMB2qCC1iTC2VF1vxFwF1RQ47UB1j4xQ7PB5AB2PJ1f5HE56PIobkF40A"]⟩,
  ⟨["Dep", "Deprecated"], ["aJB19JB28DBBB21JC26FGlZCrn6WB"]⟩,
  ⟨["Dia", "Diacritic"], [
    "2+BBB2HBGBEBCCfX4/BIFGRCEBJC7zF6RB1XRBxBBBCBB4GIEC4GCECDD2Dx2xL1wL1CC3+I1JKQy1zBQBDEyB2",
    "KBQB3OBQB3OBQB1PD1yBQBHB3XB3OBQB3OBQB3NCQB3yB3yGBB3LBNF2LCxBBBBBEC2CDBC1+B3QBBC1ICEFZHB",
    "BKCmBDtUC5TLJBaxD9ZICB1QPCL3IBPB1GJ1WC4KC2AG2SZEBGBCD1S1/2ZM1FLdzBBDLDNDNDNC37QD9zBfwG3",
    "JE2/BtbSBMCBByC2SCO1C3GD3NC6KBxS1ZE1EB2/BMB1EB4VD2BE1TB3EFJD4ACjpQBoBQ8OBBB1PB1NC2DBnyB",
    "14/GB1KBJpKChxGeVD2GL1RE6AB1JB2IC3YC1+B2MBJD3IC5SC2RBQBYHDF6NBDB3xC7xC3+B3WC3TB8NC8CCEB",
    "4yB2TBSB2RBdFB8CBBC2RB5lPPdkwF1xH12YR2QCfv+EBHBC7oB1OCXhADDGIICH+E3kC1+6CHbXB1zE1fAH3ND",
    "BD"]⟩,
  ⟨["Emoji"], [
    "1DBGBFK3PBEB7sNBMB6YBWB2wGPCbPCMB5GBZLED6HB7HCKBJB1wEBFJBCBCCCBEBCBBCCBDBDCIDFBBBFMLCCB",
    "BCBBSBCCSGBBBCDCFBCCECLCFCCBFCBBBCUCFGBECBEBCBCGBBCBBBBBGBDBGBKCPBCBEBBBEDBBLC1QDJBOBOB",
    "bUCePDTC1TBEB16wBMBiZBBB3fbKB6KB5ACMCOBCK2LwBCXBUBCJVC5O1CC3QCCBDC2TCDB8HB1/LGBYHCCIMBC",
    "ECBECNCCBICJBFDMDIDCBBBEBGBDBG2W1Q2GFICDEKDBBCDBCK7DMEB8x1PBKB5Z3QNDJH1OBHIOEJHJ"]⟩,
  ⟨["EComp", "Emoji_Component"], ["1DBGBFK7uTB6VB1n9LB1suWwfxF1dQEo1jM3A"]⟩,
  ⟨["EMod", "Emoji_Modifier"], ["3svxF"]⟩,
  ⟨["EBase", "Emoji_Modifier_Base"], [
    "9gzB6xBQE3j3XB1yDCBCD3VCCLVTDBEDBDHBBBYB6JCEBVBEC5ODDF2TBQDJBLBh/BCBIIGBJKCD1YB1zCBCBBR",
    "DBN7FD1KJ"]⟩,
  ⟨["EPres", "Emoji_Presentation"], [
    "8owC6NEDBCBgJCVC1SM1LBTBNBICRCFCIBFBVBHCBBEBCBHBECyB1DBBBEDBB1zDYBOBqxC1TBEB3h5OB6KB5+B",
    "CK2LwBBYBUBCFBDVC5O1BMJB2GBWM1LEFMRDBD2HBBB5xC1/NEBYSBwCNB2W2V1Q2GGBDDCDEELCHJ7DMEB8x1P",
    "BKB5Z3QNDJH1OBHIOEJHJ"]⟩,
  ⟨["ExtPict", "Extended_Pictographic"], [
    "5JBEB7sNBMB6YBWB2wGPCbPCMB2/B2GBZLED6HB7HCKBJB1wEBGBMB3SK3WCLBBBBGBDBGBKCPBCBEBBBEDBBLF",
    "1NDJBOBOBbUCePDTC1TBEB16wBMBiZBBB3fbG8AND/B1yGMCOBCKS1ZxPKBUBCJBEJdSF9+I8K1Q4A3UM2V1LME",
    "1YIKG1II+2SM1PBKBdZ8Av+"]⟩,
  ⟨["Ext", "Extender"], [
    "5XBgYCrOBdZBqwBnQB3/B2aDB1YBjDBcOB2EB4sJB1LF3HC2zDroWB1fWBuCBWB4JB3MBVCl3xB20QC2uwBjID1",
    "6PBk5JC14yCBBsaYC20GD"]⟩,
  ⟨["Gr_Base", "Grapheme_Base"], [
    "1A2/1BNBiS3QICGEHBBBUB7AH5GB1GC1SCD1OBBBCBCBJxEGRKLBB1OVQB3FIBGCCBE1ACBB+z2ZLBO1LJHDYEB",
    "JBDBHPBZFBBLF/R1K1Z1XBBBEIEBDHKCzBCBICCCWBHBBDEDBBCGCCCBBNCBDEYFBBGECCWBHBCBCBCEDYEBBHK",
    "CDBBMBBJBDBWBHBCBFDEIBBCDBPCEMHBICBICCCWBHBCBFDBCBGCCCPCBDESLBBGDDBEDCBBBCDCDDDMFBBCDDB",
    "DDBVVGDBIBDBXBQDBDETDCBCCEKHKBLBDBXBKBFDCBCBCCCBCRCBCEKBDOLBDB1JCBBCFDBDBCEDBKEwCCBSDYB",
    "JBBCHJCGHHKCDM1QBCLIIN1FCBBBFBYBBBKBCJBCFBBJKCE1AYCxBBBBBOB1ESBFBCF1RIBGBN1F1NEBGBCCCZC",
    "EDQENBCCGBPB1IBBFBCbZBECHBBBEC1JBEC1BBECHBBBECPB1ZBEC2DFzDwG2WCGCkzD2ZHSDBJTCDJSONBDP1U",
    "CBHIBCLJDKGKGLFKG2ZHFC1CBBF2GK/EECDECBGHBD1KCFL1MEwGLD1ZCCD1YBBJBBCIGNKGKGO2W1QHBBFBKDx",
    "JLD1AECCBD1YBBCDBBDCI1QICFPD1yH1LCLLBNBHEBGBDCBF6A2A8WCGC1GCGCIBBBBBBB/C1VBPBOCGBTCDBJB",
    "LFYH1RQCCxBND1B1/4MEkXZLV1oUC1ABaYDCF1NBBFBC1YHCPXJHBHBHBHBHBHBHBH1B2+1CwB2ZM6WwME1KGQB",
    "2WE3FF1LB2+B2UM1PBsjND1XJayU1PEBK1AC2QCGI6LFCBBBFYQBDBEBZCFEKG1YI2EKMYNB1GIZLCL+G1QBCEC",
    "CQBLEHBZB1JGCCCLDBIBBCKC1AB1TBBDCCFCBBBYRCILGCGCGJHBHB1yE3VBCBEDKGatEMXE1R88EbOC3K1GHMF",
    "FBBYBFBBBCBCB3zQdzC1WHB1AQQKW1DBTBEEFB4HE4zC/DGCGCGCDDHBHNCCMBwBTBCBPCO1C3xFDE1ND2YBNDB",
    "1P1N4DzD1RQxE1EJ+F1GK+B1FEO1K4+CKG1EE1EE1II1ULMBPBHBCBLBPBHBC2D9XJWKIYGB1KBJ2FGCBB1MBCD",
    "BCXB2IIJ1QTBCF1BDxFB2A1YEUC1PPEBDBzKJHJH2A1A1FGMJ1WDzCxFwHEMH2Q2J1X1TN1TH1KMK9G/B1KDBCC",
    "2O1IIWLJWSEE1GyUXJBB1WPHE+BCCBM1RECCCBEOZHKJ1EFBJSI1DBDL1UJKECBQBULSByDCBBCGBC1/HBBBEBP",
    "BLG1PBDNKICBICCCWBHBCBFDBBBBECCCDCBMH4y1YICDBBVBBBD+1QBCGBBCBBCBCEIK5G1PBCGECBCx1E1TICB",
    "BCELKGNT1LBBBCGBBCGK1WxFCEBJX5Z1PJBCB3E2TMICBCIBCBYBFBCEBBEBDJK2GIC1KIEBExBK1IGCEIJBGCD",
    "1ONBCJN2JHK7WJB1GOBBGKzD1AZBHBCB2LHBCB1GVBJKGGBCB1FECBBBBHK9WTCEJPB1EICBBBX2WBP1SNsx3G3",
    "PBFL6E2iM3DN11QRG3tZiH8dZhZH/BKE2RBKG+HBK1QHPKKBHBVFTlQ2x3F2LF1YLN2AEMCO5vYI16W1KJ8nHEB",
    "HBCB9DPBzDCBOEIcM28E3LFNDJHKCBCB4lQ3U1y7WK1HC1yBBDEVCH+E1zV2CDB3wUMUM2XJZ4H2VB2HBCCBCCC",
    "EBMBBBHB2BBECIBHByBEBFBBDHBaUC9EChS1XE1SIBOBH13U/GG8F1+4S1NKHCKECaA+S1MEKFBeQyEKnGHBEBC",
    "BPB6FCJ1Q2EHBEKECoR2E2M1z6CEBxBCBBCBBKBEBBBBGBEBBBBBBDBCBBCBBBBBBBBBBCBBCEBHBEBEBBBKBRF",
    "DBFBR1UC8O1ME3EMPCPBPB1FK5O1YzN1MEJHCOG4wuYERDND3XE2/GMEBPME1YIKG1II+CC2OaUMOCNDJH1OBHI",
    "OEJHJH4TB1X1FK10G19nA1A41wG6+C5kCO79R30/g+1fC4qLF43A"]⟩,
  ⟨["Gr_Ext", "Grapheme_Extend"], [
    "oA3Q8TH8H1NBBBCBCBB2IL1QVQB3FHCGCCBE1DB+x2xL1wJJBYEBJBDBF1LD1yI1KYB1A1XBBBEIEBDHKCzB1wB",
    "BBCEIBJBKCwBCC1ZBECECCDDB+CDBLC1ZBEFBCEBUCWGBB1wBBCBEIBHDKC+B1xBBBMBJB1IBDB1XBBDFDBEHCL",
    "CzB1wBCBCBDBFCHCLCyC1ZCBBCEIBJBKCzB2IBEBCDBBIB2RBCHMI3CBCJLH2JCxBBBBB1XOBFBCFLB1EJB3GEB",
    "GBCCCZCEDQENBCCGBPBl/DtSDzC+C+C2ACBHIBCLJB1NDBB3VC1CB3WDECJBGD6xCCB1wBBHBBBBCIGKCB1Q/1R",
    "E1QHBBFB1IJMC1AECCBD1YBBCDBBD1wICC4YDBNBHEBGBDC6G2AgMB6D1B2v+D4NB3A1AhKG3JCteUEBK1AC2QC",
    "8QBDBEBZCFB4XCwSNB1GIZL1OD1QBCECC1HB2DGCCCCMBIB1PB1TBBDCCFCBB1KCIB7OBCBEBjpQBnBQQQbOCiz",
    "B7CB4VF1kGDBCFE1IDEB5FChzEcDC2QD2GL1RE3xB1WP1JBCCKD1RECCHB1zD1EFBI1+BMC1UJKECB2/DCBBCGB",
    "CB4zBDIVC1ZCBBBBWBOHDF6DICDBBXB2RBCGBBCBBCBC7LBCEGCBCxC2VICBBC3KBBBCGBB3FDCEBF8DJBC7VBK",
    "CBBEB4QECCEB1AK1IGCEIBJGCD1ONBCcWHBGBB2SWCHBCBC3wGDBBCBHBB2ICDBBBaxCLC1UFFBBB57zBGPdkwF",
    "1xH10YB1/E2RBj5YC4jB1OCXg+BBDEFIICH+E4UD1tx1XE1SIBOBWFBP1aQHBRCHBCBF3EB5AHbXB1zEfyEvAH3",
    "NHo5mV3A4A7Q"]⟩,
  ⟨[], [""]⟩,
  ⟨["Hex", "Hex_Digit"], ["1QKHGwG1vlJKHGwG"]⟩,
  ⟨["Hyphen"], ["1NB3/B16yB4jxB20JC3gFBnDB1jbHB5JB2XB"]⟩,
  ⟨["IDSB", "IDS_Binary_Operator"], ["bvQCCI"]⟩,
  ⟨["IDST", "IDS_Trinary_Operator"], ["bvSC"]⟩,
  ⟨["IDC", "ID_Continue"], [
    "1QKHwEBBw1PBKBBBCBFXB/BeKEMOFHBBBR3VBCCEBBGFBBBUB2TB4LBFC5GB1GCBG1JI1NBBBCBCBBIxEEzLF2K",
    "E3GBICKBTCBQ1xC3FO1WEBCBC1OSyELFYBGJ2KB4BCKBTBICCCWBHBBDECJCCCEIBECBFCMKBBBCDBGECCWBHBC",
    "BCBCCBBFECCDDBHEBBHQLDBJBDBWBHBCBFCKBDBDCBPECKJHBDBICCCWBHBCBFCJCCCDHDECBFCKBBQCBGDDBED",
    "CBBBCDCDDDMEFDDBECBGBOKQNBDBXBQCJBDBEHCBDCBCECKQEBIBDBXBKBFCJBDBEHCGCBECKBDMNBDB1TBDBFF",
    "EHFCKKGBDBSDYBJBBCHDBEGBBBIGKCCN1wFPBK1HCBBBFBYBBBXCFBBBHBKCE1ABXCGKLBBBBBEKB1EEUBSB1EJ",
    "B1Z2KG2OC1GBBFBC1LBaNBECHBBBEC1JBEC1BBECHBBBECPB1ZBEC2DCDJJOQQ2WCGDjMCRBwF2LDLHWJWLUMNB",
    "DBCM2UDBECCK1BDBLG2ZH1LF2GK/BMEMK1ICFL1MEwGL1FyE1/BzCLGKNBIOBQ1R2NDKRJM3UM1YIKD1RCJH1LC",
    "DQDB1HFgWCGC1GCGCIBBBBBBB/C1VBHBBDDBHDECGENFDBH2CCTByBNBQN1TNEBDMRBEBCKBBCGGBBBBBBQCEFF",
    "EBR1J2jX7FGJM1GBBFBC1YHBPYJHBHBHBHBHBHBHBHB1AgFDZPBFCFE2WCHB2wBEF1LB2+R1A1QQgA6eA2AlkN2",
    "D1OC8NDyU1QEKB3T1FJC3HC2AFCBBBFY1WEBT1UM2GKKGYDBB1RC1EMzD2BOLG/B1XJOCKGXD2JYDCQCFKGCGCG",
    "JHBHB1LBOG3xBCCKGatEMXE1R88EbOC3K1GHMFFMBNBFBBBCBCB3M1BbLS2AC1W1IMEQQQDCYD1AFB4HTKHwEBB",
    "wL2ZDGCGCGCD1DMBwBTBCBPCO1C3x2F1V4IB4CzD1RPB/1AN+F1LF+C1EEIBF1K4+CKG1EE1EE1II1UMLBPBHBC",
    "BLBPBHBC2D9XJWKIYGB1KBJ2FGCBB1MBCDBCXKXJ/2BTBCKWKw2G1YGC2AEBCFIBDBzCDEB1AzDz1DIB+Z1WKWK",
    "TNS3O2J1X1TN1TN1IIKaG1KBCDC2L1AKBI1B/W1KVxXJ2H/QJ1yHBNZHKG1VBKEEI1ECBJ2FEEBNBB1DSB1FGE1",
    "+HBBBEBPBKH1xFKGEBICCCWBHBCBFBKCCCDCBGBFHCHDF4L2LFKEE+2GBBIK5G1WCJXG1C2BDBLK1G1ZHK1WxCP",
    "EKGH5Z1x3F2KVICBCIBCB+BCCJMK2GIC1OCIBCx1/IBI2KDBS2J8HJB1NBJPKY+CWBO2JHBCB1MDBBCBJIKGGBC",
    "B1FBCBGHK9WXJRB1JDFNK2WB2Psw3G3PR6E2iM3BP11QQW3tKiH8dZhZH/BKG2PBKG+CFL1XJEMKJVFTlQ2A4A2",
    "LE1ZHR2ACBCLCO5vYI16W1KJ8nHEBHBCB9DPBzDCBOEIcM28E3LFNDJHKDC4jB1OCXg+FDGIICH+E4UDdx2VB2H",
    "BCCBCCCEBMBBBHB2BBECIBHByBEBFBBDHBaUCZBZB/BZB/BZB/BZB/BZBIC1SgA1XE1SIBOBWFBP12Q/GG6VHBR",
    "CHBCBFF1+1BB3Q1NDOCKEBaB/R1weW1KnGHBEBCBPB6FLH1J2MEK15GEBxBCBBCBBKBEBBBBGBEBBBBBBDBCBBC",
    "BBBBBBBBBBCBBCEBHBEBEBBBKBRFDBFBR39UK10G19nA1A41wG6+C5kCO79R30/g+1fC4qLF43AlnaQ7Q"]⟩,
  ⟨["IDS", "ID_Start"], [
    "2BwGw1PBKBEBFXB/BeKEMOFHBBB4BFBCCEBBGBBDBBBUB2TB4LI5GB1GCBG1J2HxEE1N1L1DCB3DBBPCHCKDCBQ",
    "BB+z2ZLBY1BJCEBFWEBJBDBXZHLFYBGR1K1w1WDBSBHKPQEICCCWBHBBDEDBQBNCBDOCKBIGECCWBHBCBCBC/EB",
    "BTDQJBDBWBHBCBFDBSBPCXBLICCCWBHBCBFDB+CBDPBRBBGDDBEDCBBBCDCDDDMWB1UIBDBXBQDBwDCBCC+BEIB",
    "DBXBKBFDB/CBCPCRJBDB1JCBQBFDIDYGFSDYBJBBCH1w1QBCMH1wCBBBFBYBBBKBCJBCFBBVE1AB1/IB1ExF3T1",
    "LUBQGEEDBDCHDENMBR1GBBFBC1LBaNBECHBBBEC1JBEC1BBECHBBBECPB1ZBEC2D1FQQ2WCGDjMCRBwF2LDLHSN",
    "TOSONBDP1U1DBEB2D2ZH1JBBF2GK/1R+CFL1MEw1WXJ1V2SB2z1PRI1W+NCK1Mw1E1JDK1ECJH1LCD1JEBGBCDB",
    "F6A2A8WCGC1GCGCIBBBBBBB/C1VBHBBDDBHDECGENFDBH3UBNBQN3FBEBCKBBCGGBBBBBBQCEFFEBR1J2jX7FGE",
    "DCM1GBBFBC1YHBQXJHBHBHBHBHBHBHBHhGDZJHFCFE2WEFB2wBEF1LB2+R1A1QQgA6eA2AlkN2D1OC8NDQKCU1P",
    "Q/C2Q1HJC3HC2AFCBBBFYQBDBEBXz1UO1S1+GDBBCLyKXZzH1PyBQFBKKFB1JXDBIUXDBD1SBBDCCFCBBBYDCLH",
    "DMGCGCGJHBHB1LBOG3TzatEMXE1R88EbOC3K1GHMFFBBKBNBFBBBCBCB3M1BbLS2AC1W1IM3UFB4H1EwGwL2ZDG",
    "CGCGCD1DMBwBTBCBPCO1C3x2F1V8LzD1R1P1AN+F1GK+C1EEIBF1K4+S1EE1EE1II1UMLBPBHBCBLBPBHBC2D9X",
    "JWKIYGB1KBJ2FGCBB1MBCDBCXKXJ/2BTBCKWKw2G1YGC2ABPEBDBz1KzDz1DIByx1WKWKTNS3O2J1X1TN1TN1Ea",
    "y1KGC2OzKBIW1KS1OVxXM1V1ZCCBN1N1AZw1EzBCBI1DDBM1QOEVBBB1DSBZTC1/HBBBEBPBKH1P1GICCCWBHBC",
    "BFDBSBMF4+1VSEUD+1QUCBB5Y1P1JE1E1QUB1x1LNB2Hx1FH5Z1M3U2A/ICBCIBCBYPBBB2+IC1HQBBByBK1IHB",
    "VBL1OTBS2J8HJB1FRB1R+3QHBCB1GVBZGBCB1AOBaHTPBBNB1C3yB2Psw3G3PR6E2iM3BP11QRG3tZiH8dZhZH/",
    "R2PR+S1QQE/VFTlQ2A4A2LFB2CN2ACBBy5vYI16W1KJ8nHEBHBCB9DPBzDCBOEIcM28E3LFNDJHK5rG2VB2HBCC",
    "BCCCEBMBBBHB2BBECIBHByBEBFBBDHBaUCZBZB/BZB/BZB/BZB/BZBI1pU/GG8F1+4S1NKHQBaB+S1MfEynUHBE",
    "BCBPB6F1x2EHB15UEBxBCBBCBBKBEBBBBGBEBBBBBBDBCBBCBBBBBBBBBBCBBCEBHBEBEBBBKBRFDBFBR4aE19n",
    "A1A41wG6+C5kCO79R30/g+1fC4qLF43A"]⟩,
  ⟨["Ideo", "Ideographic"], [
    "c0GCZJODuF6eA2AkgAm8AbOC3Kt8KBx5vYI16W1KJ93HcMj8E19nA1A41wG6+C5kCO79R30/g+1fC4qLF43A"]⟩,
  ⟨["Join_C", "Join_Control"], ["80MC"]⟩,
  ⟨["LOE", "Logical_Order_Exception"], ["3iAF3xF2nQDCB147wCCBBC"]⟩,
  ⟨["Lower", "Lowercase"], [
    "3Bw1PBKBEB1EYBIBBBBBBBBBBBBBBBBBBBBBBBBBBBBBBBBBBBBBBBBBBBBBBBBBBBBBBBCBBBBBBBBBBBBBBBC",
    "BBBBBBBBBBBBBBBBBBBBBBBBBBBBBBBBBBBBBBBBBBBBBBCBBBBDCBBBCBDCEBCBDDCBCBBBBBCBBCBBCBDBBBC",
    "CCDGBCBCBBBBBBBBBBBBBBBBCBBBBBBBBBBBBBBBBBCCBBBDBBBBBBBBBBBBBBBBBBBBBBBBBBBBBBBBBBBBBBB",
    "BBBBBBBBBBBBBBBBBBBHCBCCBBEBBBBBBBB2FB1EHC+F3AB1LBBBDBCESBx1DBCDDBBBBBBBBBBBBBBBBBBBBBB",
    "BFBBCBCC1T1QBBBBBBBBBBBBBBBBBBBBBBBBBBBBBBBBBBJBBBBBBBBBBBBBBBBBBBBBBBBBBBBBBBBBBBBBBBB",
    "BBBBBBBBBBBBBCBBBBBBBBBBBBCBBBBBBBBBBBBBBBBBBBBBBBBBBBBBBBBBBBBBBBBBBBBBBBBBBBBBBBBBBBB",
    "BBBBBBBBBBBBBBBBBBBBBBBBBBBBBBBBBBBB1Q1J2qH1LBEnYG24CJ3X6A2BBBBBBBBBBBBBBBBBBBBBBBBBBBB",
    "BBBBBBBBBBBBBBBBBBBBBBBBBBBBBBBBBBBBBBBBBBBBBBBBBBBBBBBBBBBBBBBBBBBBBBBBBBBBBBBBBBBBBBB",
    "BBBBBBBBBBBBBBBBBBBBBBBBBBBBBBBBBBJBBBBBBBBBBBBBBBBBBBBBBBBBBBBBBBBBBBBBBBBBBBBBBBBBBBB",
    "BBBBBBBBBBBBBBBBBBBBBBBBBBBBBBBBBBBBBBBBBBBBBJIGKIIIIGKIIIIOCIIIIIIFBCGBDDBCIECCIIKDBC3",
    "ZBNBQN3NBDCDBxBEBEBCCIEEB1BQEBqLw1qG1QBBDCBBBBBBEBBCBIDBBBBBBBBBBBBBBBBBBBBBBBBBBBBBBBB",
    "BBBBBBBBBBBBBBBBBBBBBBBBBBBBBBBBBBBBBBBBBBBBBBBBBBBBBBBBBBBBBBBBBBCHBBBEBM1GBBFBu8TBBBB",
    "BBBBBBBBBBBBBBBBBBBBBBBBBBBBBBBBBBBBBBBBBTBBBBBBBBBBBBBBBBBBBBBBBBBBD4FBBBBBBBBBBBBDBBB",
    "BBBBBBBBBBBBBBBBBBBBBBBBBBBBBBBBBBBBBBBBBBBBBBBBBBBBBBBBBBKBBBBCBBBBBBBBBEBBBCBBDBBBBBB",
    "BBBBBBBBBBBBBBFBFBBBBBBBBBBBBBBBEBBBGBBBBBBBBBYDBBBDpV1LBOG2QjqAHMF11Jw16N1I4I1E4xLBPBH",
    "BCeDBCDB1KBJ18F1T2uN1AlcA1ApcwwwHBSwwwEBBBHBLwwwwwwwwwwwwwwwwwyyZBGwZBGwZBGwZBGwZBGBB1p",
    "UKBUGG8F1+25U1C"]⟩,
  ⟨["Math"], [
    "1LBQD/BzBBB1NBEB1FB/BmYDCBwCCDgPD6gNBxDLBDBNBOEVFLF2BNEBDCEFSBEBCKBBCGGBDCCCBDBGDOBB2EY",
    "BGBCECE1ABBGCO8MIEUC2wB+xBBYBLHdzCMKEGECCCDFOBBBCGLIFC1ZBBBzEJDaQ2A8AgA1QVCG1juyBpXGBB5",
    "CBQDzBBBzBBB4DBGE1l0T2VB2HBCCBCCCEBMBBBHB2BBECIBHByBEBFBBDHBaUC9EC1S5gAEBxBCBBCBBKBEBBB",
    "BGBEBBBBBBDBCBBCBBBBBBBBBBCBBCEBHBEBEBBBKBRFDBFBR1UC"]⟩,
  ⟨["NChar", "Noncharacter_Code_Point"], [
    "1veQ1AgOC1vv+C1vv+C1vv+C1vv+C1vv+C1vv+C1vv+C1vv+C1vv+C1vv+C1vv+C1vv+C1vv+C1vv+C1vv+C1vv",
    "+C"]⟩,
  ⟨["Pat_Syn", "Pattern_Syntax"], [
    "1BPKHwEBBwE1CHBBBCBBBCEBEBDBXB/B7oYYIPCTBK9RmQ5AjW+13MgA4AcBDEZPB1j8NC8FC"]⟩,
  ⟨["Pat_WS", "Pattern_White_Space"], ["JFSB3EB7sICYC"]⟩,
  ⟨["PCM", "Prepended_Concatenation_Mark"], ["1gAG6XB1RBcAC2QB21uwBPB"]⟩,
  ⟨["QMark", "Quotation_Mark"], ["1CBEB4DBPB7qyIZC3gHBeJEND1jhBE5zBEB2wC"]⟩,
  ⟨["Radical"], ["bkAwB2ZM6W"]⟩,
  ⟨["RI", "Regional_Indicator"], ["3sfGw"]⟩,
  ⟨["STerm", "Sentence_Terminal"], [
    "1BBMBQB1aJB4TD5UB1LD7WB1zBBBDC9FC1nECoWBECoFB6GC6MBFB9wCbCE5OCCCzC5yC2BCtyCJD3fEBNBWCdN",
    "Bt7yB8OC7DBDBb+C2WC2/B4YC4TD4QC7ZBkjGBDC5JBMBQB2BB2nUC17zF1ME5zC3VE3/D4BCGBQC2YCBC3MBdB",
    "CbVCFP3JC7ZDgFBBB7xC2XCdEClUC2KCipJC4FB2BCLBqTBjgGB7fIB"]⟩,
  ⟨["SD", "Soft_Dotted"], [
    "3JC6EB8ZB+B1UBUBaAB3CBBB68JB1TBNBDB4EB4zBdFB6WC2pSB39tFC1SC1SC1SC1SC1SC1SC1SC1SC1SC1SC1",
    "SC1SC24GB9RCwB"]⟩,
  ⟨["Term", "Terminal_Punctuation"], [
    "1BBKBBBLCDBp+BIBgBB1ZB2IBOBBD5UB1LLBB7LC1WP/B8FC17UC5MBEG9XCoVIoFB3yD2HC4zDDB1HECC9wCbC",
    "E5OCBDzC5yF1+CtyCJD3fEBNBEBKBBCDCdMCt7xC8ND7DFb+C2WC2/B4XD4TD3/BQC7ZBkjEDBE5JBKBBBLCDB2",
    "BBCB11wB1QB14GB6HB9WC4YG2EG2ZEtYF1ME5zH3QE3/D4BCGBQC2YF3MBdBDMCbGEDP3JC7ZDgFBBB7xC2XCEC",
    "c+D1NBkFC2KC19LFhfZC4FB2BDKBqSCjgGB7fHE"]⟩,
  ⟨["UIdeo", "Unified_Ideograph"], [
    "d0A6eA2AkgAmgOCBBBCKBBBBCCD21eW19nA1A41wG6+C5kCO79R50/4qLF43A"]⟩,
  ⟨["Upper", "Uppercase"], [
    "2Bw3FXBH1BBBBBBBBBBBBBBBBBBBBBBBBBBBBBBBBBBBBBBBBBBBBBBBBBBBBBBBBCBBBBBBBBBBBBBBBCBBBBB",
    "BBBBBBBBBBBBBBBBBBBBBBBBBBBBBBBBBBBBBBBBBCBBBBDCBBBCBDCEBCBDDCBCBBBBBCBBCBBCBDBBBCDBHBC",
    "BCBCBBBBBBBBBBBBBBBCBBBBBBBBBBBBBBBBBCBCBBDBBBBBBBBBBBBBBBBBBBBBBBBBBBBBBBBBBBBBBBBBBBB",
    "BBBBBBBBBBBBBBHCBCCBBEBBBBBBBB9BBBBDBIBGBBDBBBCBRBJ1DBCDDBBBBBBBBBBBBBBBBBBBBBBBFBCBBCC",
    "1T1QBBBBBBBBBBBBBBBBBBBBBBBBBBBBBBBBBJBBBBBBBBBBBBBBBBBBBBBBBBBBBBBBBBBBBBBBBBBBBBBBBBB",
    "BBBBBCBBBBBBBBBBBBCBBBBBBBBBBBBBBBBBBBBBBBBBBBBBBBBBBBBBBBBBBBBBBBBBBBBBBBBBBBBBBBBBBBB",
    "BBBBBBBBBBBBBBBBBBBBBBBBBBBC1G2qJ1GBBFBmS2W24w1LCDaABBBBBBBBBBBBBBBBBBBBBBBBBBBBBBBBBBB",
    "BBBBBBBBBBBBBBBBBBBBBBBBBBBBBBBBBBBBBBBBBBBBBBBBBBBBBBBBBBBBBBBBBBBBBBBBBBBBBBBBBBBBBBB",
    "BBBBBBBBBBBBBBBBBBBBBBBBBBBJBBBBBBBBBBBBBBBBBBBBBBBBBBBBBBBBBBBBBBBBBBBBBBBBBBBBBBBBBBB",
    "BBBBBBBBBBBBBBBBBBBBBBBBBBBBBBBBBBBBBBJIIGKIIIIGLBBBBBBBII2IEMEMEMFLE8GBEBDDCDCBDFGBBBB",
    "BBECEKCFBwQTBpSw1pQ1Q1QBBDCBBBBBBEBBCBIDBBBBBBBBBBBBBBBBBBBBBBBBBBBBBBBBBBBBBBBBBBBBBBB",
    "BBBBBBBBBBBBBBBBBBBBBBBBBBBBBBBBBBBBBBBBBBBBBBBBBBBIBBBEBuaNBBBBBBBBBBBBBBBBBBBBBBBBBBB",
    "BBBBBBBBBBBBBBBBBBTBBBBBBBBBBBBBBBBBBBBBBBBBBB4HBBBBBBBBBBBBBDBBBBBBBBBBBBBBBBBBBBBBBBB",
    "BBBBBBBBBBBBBBBBBBBBBBBBBBBBBBBBBBBBKBBBBCBBBBBBBBEBBBCBBBDBBBBBBBBBBBBBBBBBBBBFBFBBBBB",
    "BBBBBBBBBBEBBGBFBBByBlpLw16F1I4I1E4yLBPBHBC1nK1T2vN1AlcA1ApdAwwwwwwBBCCBCCCEBIwwwCBECIB",
    "HxCBEBFBBDHxwwwwwwwwwww+Z1BZ1BZ1BZ1BZ1BB49V1C20OwGwGw"]⟩,
  ⟨["VS", "Variation_Selector"], ["60LDBB1pfQQq0nQ7Q"]⟩,
  ⟨["WSpace", "White_Space", "Space"], ["JFSB3EBwB5e/B2b/LzCFB1PB3tAB"]⟩,
  ⟨["XIDC", "XID_Continue"], [
    "1QKHwEBBw1PBKBBBCBFXB/BeKEMOFHBBBR3VBCDDBBGFBBBUB2TB4LBFC5GB1GCBG1JI1NBBBCBCBBIxEEzLF2K",
    "E3GBICKBTCBQ1xC3FO1WEBCBC1OSyELFYBGJ2KB4BCKBTBICCCWBHBBDECJCCCEIBECBFCMKBBBCDBGECCWBHBC",
    "BCBCCBBFECCDDBHEBBHQLDBJBDBWBHBCBFCKBDBDCBPECKJHBDBICCCWBHBCBFCJCCCDHDECBFCKBBQCBGDDBED",
    "CBBBCDCDDDMEFDDBECBGBOKQNBDBXBQCJBDBEHCBDCBCECKQEBIBDBXBKBFCJBDBEHCGCBECKBDMNBDB1TBDBFF",
    "EHFCKKGBDBSDYBJBBCHDBEGBBBIGKCCN1wFPBK1HCBBBFBYBBBXCFBBBHBKCE1ABXCGKLBBBBBEKB1EEUBSB1EJ",
    "B1Z2KG2OC1GBBFBC1LBaNBECHBBBEC1JBEC1BBECHBBBECPB1ZBEC2DCDJJOQQ2WCGDjMCRBwF2LDLHWJWLUMNB",
    "DBCM2UDBECCK1BDBLG2ZH1LF2GK/BMEMK1ICFL1MEwGL1FyE1/BzCLGKNBIOBQ1R2NDKRJM3UM1YIKD1RCJH1LC",
    "DQDB1HFgWCGC1GCGCIBBBBBBB/C1VBHBBDDBHDECGENFDBH2CCTByBNBQN1TNEBDMRBEBCKBBCGGBBBBBBQCEFF",
    "EBR1J2jX7FGJM1GBBFBC1YHBPYJHBHBHBHBHBHBHBHB1AgFDZPBFCFE2WCCCDB2wBEF1LB2+R1A1QQgA6eA2Alk",
    "N2D1OC8NDyU1QEKB3T1FJC3HC2AFCBBBFY1WEBT1UM2GKKGYDBB1RC1EMzD2BOLG/B1XJOCKGXD2JYDCQCFKGCG",
    "CGJHBHB1LBOG3xBCCKGatEMXE1R88EbOC3K1GHMFFMBNBFBBBCBCB3M1B4LG6wS2AC1W1IKGQQQDCYD1BBBBDBB",
    "BBBBBB3+TKHwEBBwL2ZDGCGCGCD1DMBwBTBCBPCO1C3x2F1V4IB4CzD1RPB/1AN+F1LF+C1EEIBF1K4+CKG1EE1",
    "EE1II1UMLBPBHBCBLBPBHBC2D9XJWKIYGB1KBJ2FGCBB1MBCDBCXKXJ/2BTBCKWKw2G1YGC2AEBCFIBDBzCDEB1",
    "AzDz1DIB+Z1WKWKTNS3O2J1X1TN1TN1IIKaG1KBCDC2L1AKBI1B/W1KVxXJ2H/QJ1yHBNZHKG1VBKEEI1ECBJ2F",
    "EEBNBB1DSB1FGE1+HBBBEBPBKH1xFKGEBICCCWBHBCBFBKCCCDCBGBFHCHDF4L2LFKEE+2GBBIK5G1WCJXG1C2B",
    "DBLK1G1ZHK1WxCPEKGH5Z1x3F2KVICBCIBCB+BCCJMK2GIC1OCIBCx1/IBI2KDBS2J8HJB1NBJPKY+CWBO2JHBC",
    "B1MDBBCBJIKGGBCB1FBCBGHK9WXJRB1JDFNK2WB2Psw3G3PR6E2iM3BP11QQW3tKiH8dZhZH/BKG2PBKG+CFL1X",
    "JEMKJVFTlQ2A4A2LE1ZHR2ACBCLCO5vYI16W1KJ8nHEBHBCB9DPBzDCBOEIcM28E3LFNDJHKDC4jB1OCXg+FDGI",
    "ICH+E4UDdx2VB2HBCCBCCCEBMBBBHB2BBECIBHByBEBFBBDHBaUCZBZB/BZB/BZB/BZB/BZBIC1SgA1XE1SIBOB",
    "WFBP12Q/GG6VHBRCHBCBFF1+1BB3Q1NDOCKEBaB/R1weW1KnGHBEBCBPB6FLH1J2MEK15GEBxBCBBCBBKBEBBBB",
    "GBEBBBBBBDBCBBCBBBBBBBBBBCBBCEBHBEBEBBBKBRFDBFBR39UK10G19nA1A41wG6+C5kCO79R30/g+1fC4qLF",
    "43AlnaQ7Q"]⟩,
  ⟨["XIDS", "XID_Start"], [
    "2BwGw1PBKBEBFXB/BeKEMOFHBBB4BFBCDDBBGBBDBBBUB2TB4LI5GB1GCBG1J2HxEE1N1L1DCB3DBBPCHCKDCBQ",
    "BB+z2ZLBY1BJCEBFWEBJBDBXZHLFYBGR1K1w1WDBSBHKPQEICCCWBHBBDEDBQBNCBDOCKBIGECCWBHBCBCBC/EB",
    "BTDQJBDBWBHBCBFDBSBPCXBLICCCWBHBCBFDB+CBDPBRBBGDDBEDCBBBCDCDDDMWB1UIBDBXBQDBwDCBCC+BEIB",
    "DBXBKBFDB/CBCPCRJBDB1JCBQBFDIDYGFSDYBJBBCH1w1QBBNH1wCBBBFBYBBBKBBKBCFBBVE1AB1/IB1ExF3T1",
    "LUBQGEEDBDCHDENMBR1GBBFBC1LBaNBECHBBBEC1JBEC1BBECHBBBECPB1ZBEC2D1FQQ2WCGDjMCRBwF2LDLHSN",
    "TOSONBDP1U1DBEB2D2ZH1JBBF2GK/1R+CFL1MEw1WXJ1V2SB2z1PRI1W+NCK1Mw1E1JDK1ECJH1LCD1JEBGBCDB",
    "F6A2A8WCGC1GCGCIBBBBBBB/C1VBHBBDDBHDECGENFDBH3UBNBQN3FBEBCKBBCGGBBBBBBQCEFFEBR1J2jX7FGE",
    "DCM1GBBFBC1YHBQXJHBHBHBHBHBHBHBHhGDZJHFCFE2WGDB2wBEF1LB2+R1A1QQgA6eA2AlkN2D1OC8NDQKCU1P",
    "Q/C2Q1HJC3HC2AFCBBBFYQBDBEBXz1UO1S1+GDBBCLyKXZzH1PyBQFBKKFB1JXDBIUXDBD1SBBDCCFCBBBYDCLH",
    "DMGCGCGJHBHB1LBOG3TzatEMXE1R88EbOC3K1GHMFFBBKBNBFBBBCBCB3M1B4LG6wS2AC1W1IK3XBBBDBBBBBBB",
    "B3+1EwGwL1YC/DGCGCGCD1DMBwBTBCBPCO1C3x2F1V8LzD1R1P1AN+F1GK+C1EEIBF1K4+S1EE1EE1II1UMLBPB",
    "HBCBLBPBHBC2D9XJWKIYGB1KBJ2FGCBB1MBCDBCXKXJ/2BTBCKWKw2G1YGC2ABPEBDBz1KzDz1DIByx1WKWKTNS",
    "3O2J1X1TN1TN1Eay1KGC2OzKBIW1KS1OVxXM1V1ZCCBN1N1AZw1EzBCBI1DDBM1QOEVBBB1DSBZTC1/HBBBEBPB",
    "KH1P1GICCCWBHBCBFDBSBMF4+1VSEUD+1QUCBB5Y1P1JE1E1QUB1x1LNB2Hx1FH5Z1M3U2A/ICBCIBCBYPBBB2+",
    "IC1HQBBByBK1IHBVBL1OTBS2J8HJB1FRB1R+3QHBCB1GVBZGBCB1AOBaHTPBBNB1C3yB2Psw3G3PR6E2iM3BP11",
    "QRG3tZiH8dZhZH/R2PR+S1QQE/VFTlQ2A4A2LFB2CN2ACBBy5vYI16W1KJ8nHEBHBCB9DPBzDCBOEIcM28E3LFN",
    "DJHK5rG2VB2HBCCBCCCEBMBBBHB2BBECIBHByBEBFBBDHBaUCZBZB/BZB/BZB/BZB/BZBI1pU/GG8F1+4S1NKHQ",
    "BaB+S1MfEynUHBEBCBPB6F1x2EHB15UEBxBCBBCBBKBEBBBBGBEBBBBBBDBCBBCBBBBBBBBBBCBBCEBHBEBEBBB",
    "KBRFDBFBR4aE19nA1A41wG6+C5kCO79R30/g+1fC4qLF43A"]⟩,
  ⟨["Other_Alphabetic", "OAlpha"], [
    "1dQOBBBCBCBB2IL1QNBHQB3FHEECCEB1DB+Q3GL3FCDJBDBE5HMDHGU1WCCPBCFDKCzD1wHCCCCKBKCzD1wFECC",
    "CEB+CDBLD1wIBDBCVCWDED1wHCCCCJCKC+B1xFDDBDKB1IF1ZHBDBDICLCzD1wHBDBDICLCPBME1wHBDBDKBKCz",
    "D2LGBBBISC1zBCHSB3DBCGBCQB5DTJLB1E3OMBBCEXEEDBDCHDENMBBKE1jUC+C+C+C2CT5yC1CB3WMEJ6+F1ZK",
    "CU2KCLD1RF1QP1yD+JCC1ZL1STdQO3vL1Au3UI1CCbCBIBXF2YC1SQBB1ZB1GFyM1NE1QM1FB2DOMBIC1ND1SBB",
    "DCCFB1MFFB7NIjpTB22XF1kGDBCFEoUEcDCaTD1VO1NCLD1NJJB1zD1EMSC1ZD1QNOC2yJCBGBCB4zKXE1wHCCC",
    "CKBKC6RNBD3KS7NHCHzC2SPBB3KL3HO8BN7XGBCCCDBBB4OHCGEByK1KFBESL1OOcXIBH2TWBO3wGDBBCBDBBDB",
    "2CFBCBEayEJCBB1QHDDk0OBB1XHE2zCj5MB8rBHBRCHBCBF3EB25XB"]⟩,
  ⟨["Other_Lowercase", "OLower"], [
    "5KBPBfVJHC+F3AB1UB3cBB31P1/NB1C1FlRBNBQN6TQqQw1sSCug+C6SB4BDDCrCEJBn0WBCDB1KBJ1m3V1+"]⟩,
  ⟨["Other_Uppercase", "OUpper"], ["8bAQqGw3j3AwGwGw"]⟩,
  ⟨["Other_Math", "OMath"], [
    "2+BrRDCBwCCC71ABxDLB1AEYCOC2BNEBDCEFSBEBCKBBDFGBDCCCBDBGDEFF2LFCEBCBCBBBFCCECESCCBBBHBB",
    "GC9CE5ICBBYBRBdzCMJFFFCCCDFOBBBCGYC1ZBBBzEJCaWC/KcTW1/E1AC1l3DBBBEB6TBBB1l6B2VB2HBCCBCC",
    "CEBMBBBHB2BBECIBHByBEBFBBDHBaUCZBZB/BZB/BZB/BZB/BZBIC1S5gAEBxBCBBCBBKBEBBBBGBEBBBBBBDBC",
    "BBCBBBBBBBBBBCBBCEBHBEBEBBBKBRFDBFBR"]⟩,
  ⟨["Other_Grapheme_Extend", "OGr_Ext"], [
    "2d+BYBbGBYB3GBYB7KBSC3HBYB3XBPB3aVB16WB41BC1jrOC4s+BYBaYBMB7RBsAB1e1UBIFoblN3A"]⟩,
  ⟨["Other_ID_Start", "OIDS"], ["64FC24RBVB3rMC"]⟩,
  ⟨["Other_ID_Continue", "OIDC"], ["5XBmPB3vBJ1jIB"]⟩,
  ⟨["Other_Default_Ignorable_Code_Point", "ODI"], [
    "qPB3gPC1iTC25PB47+B1jhxB2PJq00HBB+3A4A7Q3gQ"]⟩]

end AppDef.Unicode
