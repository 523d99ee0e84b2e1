import AppDef.Unicode.Range

namespace AppDef.Unicode

def generalCategories : List Property := [
  ⟨["C", "Other"], [
    "A1A2/1BNBmKCGEHBBBUBcNB1GC1SCDB1XIxEGRWB6AB1QC1xC3FO1xC1RCPByCBBLF/J2KB5BBICCCWBHBBDECJ",
    "CCCEIBECBFCZCDBGECCWBHBCBCBCCBBFECCDDBHEBBHRKDBJBDBWBHBCBFCKBDBDCBPECMHHBDBICCCWBHBCBFC",
    "JCCCDHDECBFCSKCBGDDBEDCBBBCDCDDDMEFDDBECBGBOVFNBDBXBQCJBDBEHCBDCBCECKHWBDBXBKBFCJBDBEHC",
    "GCBECKBDMNBDB1TBDBGEQCwBDBSDYBJBBCHDBEGBBBIGKCDM1wEz1FCBBBFBYBBBXCFBBBHBKCE1A2IB1EE1HB1",
    "EBPBN1F6GBBFBCbZBECHBBBEC1JBEC1BBECHBBBECPB1ZBEC2DC1ADwG2WCGCkzD2ZHWJYJUMNBDBCM2+CKGKGO",
    "BLG2ZH1LF2GK/BMEMEBD1KCFL1MEwGLD1+C2BBzCLGKGOC/1R2ND1PB3UI1yDPD1yH1LCLI1LFgWCGC1GCGCIBB",
    "BBBBB/C1VBPBOCGBTCDBJBLFwF1RQCCxBND1BP1BP4MEkXZLV1oUC1ABazF1NBBFBC1YHCOYJHBHBHBHBHBHBHB",
    "HB3+1CwB2ZM6WwME2AB2WC3HF1LB2+B2UM1PBsjND1XJayU5YI6LFCBBBFY1xDKG1YI2GIMG3UL+D2OBLE1BB1X",
    "JOCKC3HYyKGCGCGJHBHB1yE3+CKGatEMXE1R88EbOC3K1GHMFFwBFBBBCBCB3zQdzC1WHB1A1KG1TBTBEEFB4HE",
    "5+DGCGCGCDDHBHNCCMBwBTBCBPCO1C3xFDE1ND2YBNDB1P1O4CzD1RPyE1EJ+F1LF+B1FEO1K4+CKG1EE1EE1II",
    "1ULMBPBHBCBLBPBHBC2D9XJWKIYGB1KBJ2FGCBB1MBCDBCXB2IIJ1QTBCF1BDxFB2A1YEUC1SBCFIBDBzCDEKHJ",
    "H2A1A1HEMJ1WDzCxFwHEMH2Q2J1X1TN1TH1OIK9G/B1KBDCC2L1LI1KWw1GyUXJ2OE1EJ1+BFNZHKG1VBSI1HJ3",
    "ABULSB1P1+HBBBEBPBLG1xFKGEBICCCWBHBCBFBKCCCDCBGBFHCHDF4L2yBF+2IIK5G1WC1G1C2FLKGNT1wGK1W",
    "xCPEX5Z1y3E2TMICBCIBCB+BCCMJK2GIC1OCLx2II2TN2JHK7WJB1NBOKzD1ACWBO2JHBCB1MDBBCBJIKGGBCB1",
    "FBCBGHK9WZHRB1JDy2WBP1SNsx3G3PBFL6E2iM3DN11QQW3tKiH8dZhZH/BKE2RBKG+CGK2GKKBHBVFTlQ2x3F2",
    "LE1ZHR2AFLCO5vYI16W1KJ8nHEBHBCB9DPBzDCBOEIcM28E3LFNDJHKCE4jA1OCXJ3U1y7WK1HC2KI3QV2G3wUM",
    "UM2XJZ4H2VB2HBCCBCCCEBMBBBHB2BBECIBHByBEBFBBDHBaUC9ECl+PFBP12Q/GG6VHBRCHBCBFF1+1BB3Q1ND",
    "OCKECaA/R1wFBeQ1KnGHBEBCBPB6FCQ1J2MEKECoR2E2M1z6CEBxBCBBCBBKBEBBBBGBEBBBBBBDBCBBCBBBBBB",
    "BBBBCBBCEBHBEBEBBBKBRFDBFBR1UC8O1ME3EMPCPBPB1FK5O1YzN1MEJHCOG4wuYERDND3XE2/GMEBPME1YIKG",
    "1II+CC2OaUMOCNDJH1OBHIOEJHJH4TB1X1FK10G19nA1A41wG6+C5kCO79R30/g+1fC4qLF43AlnaQ7Q"]⟩,
  ⟨["Cc", "Control", "Cntrl"], ["A1A2/1B"]⟩,
  ⟨["Cf", "Format"], [
    "5NB1aSGWB6AB1RBcAC2QB3pLB1vyFwF1RFBK1nkPB7ZD46BBPB8rCQ123AE56PIobkGB+3A"]⟩,
  ⟨["Cn", "Unassigned"], [
    "rYCGEHBBBUBcNB1GC1SCDB1XIxEGL8OB1yC3FO1xC1RCPByCBBLF/BCG7MBICCCWBHBBDECJCCCEIBECBFCZCDB",
    "GECCWBHBCBCBCCBBFECCDDBHEBBHRKDBJBDBWBHBCBFCKBDBDCBPECMHHBDBICCCWBHBCBFCJCCCDHDECBFCSKC",
    "BGDDBEDCBBBCDCDDDMEFDDBECBGBOVFNBDBXBQCJBDBEHCBDCBCECKHWBDBXBKBFCJBDBEHCGCBECKBDMNBDB1T",
    "BDBGEQCwBDBSDYBJBBCHDBEGBBBIGKCDM1wEz1FCBBBFBYBBBXCFBBBHBKCE1A2IB1EE1HB1EBPBN1F6GBBFBCb",
    "ZBECHBBBEC1JBEC1BBECHBBBECPB1ZBEC2DC1ADwG2WCGCkzD2ZHWJYJUMNBDBCM2+CKGKGwG2ZH1LF2GK/BMEM",
    "EBD1KCFL1MEwGLD1+C2BBzCLGKGOC/1R2ND1PB3UI1yDPD1yH1LCLI1LFgWCGC1GCGCIBBBBBBB/C1VBPBOCGBT",
    "CDBJB3FBMCxBND1BP1BP4MEkXZLV1oUC1ABazF1NBBFBC1YHCOYJHBHBHBHBHBHBHBHB3+1CwB2ZM6WwME2AB2W",
    "C3HF1LB2+B2UM1PBsjND1XJayU5YI6LFCBBBFY1xDKG1YI2GIMG3UL+D2OBLE1BB1XJOCKC3HYyKGCGCGJHBHB1",
    "yE3+CKGatEMXE1RE8jOC3K1GHMFFwBFBBBCBCB3zQdzC1WHB1A1KG1TBTBEEFB4HCBB5+DGCGCGCDDHBHKFCMBw",
    "BTBCBPCO1C3xFDE1ND2YBNDB1P1O4CzD1RPyE1EJ+F1LF+B1FEO1K4+CKG1EE1EE1II1ULMBPBHBCBLBPBHBC2D",
    "9XJWKIYGB1KBJ2FGCBB1MBCDBCXB2IIJ1QTBCF1BDxFB2A1YEUC1SBCFIBDBzCDEKHJH2A1A1HEMJ1WDzCxFwHE",
    "MH2Q2J1X1TN1TH1OIK9G/B1KBDCC2L1LI1KWw1GyUXJ2OE1EJ2EKBCZHKG1VBSI1HJ3ABULSB1P1+HBBBEBPBLG",
    "1xFKGEBICCCWBHBCBFBKCCCDCBGBFHCHDF4L2yBF+2IIK5G1WC1G1C2FLKGNT1wGK1WxCPEX5Z1y3E2TMICBCIB",
    "CB+BCCMJK2GIC1OCLx2II2TN2JHK7WJB1NBOKzD1ACWBO2JHBCB1MDBBCBJIKGGBCB1FBCBGHK9WZHRB1JDy2WB",
    "P1SNsx3G3PBFL6E2iM3DN12W3tKiH8dZhZH/BKE2RBKG+CGK2GKKBHBVFTlQ2x3F2LE1ZHR2AFLCO5vYI16W1KJ",
    "8nHEBHBCB9DPBzDCBOEIcM28E3LFNDJHKCI4iy1OCXJ3U1y7WK1HC6CV2G3wUMUM2XJZ4H2VB2HBCCBCCCEBMBB",
    "BHB2BBECIBHByBEBFBBDHBaUC9ECl+PFBP12Q/GG6VHBRCHBCBFF1+1BB3Q1NDOCKECaA/R1wFBeQ1KnGHBEBCB",
    "PB6FCQ1J2MEKECoR2E2M1z6CEBxBCBBCBBKBEBBBBGBEBBBBBBDBCBBCBBBBBBBBBBCBBCEBHBEBEBBBKBRFDBF",
    "BR1UC8O1ME3EMPCPBPB1FK5O1YzN1MEJHCOG4wuYERDND3XE2/GMEBPME1YIKG1II+CC2OaUMOCNDJH1OBHIOEJ",
    "HJH4TB1X1FK10G19nA1A41wG6+C5kCO79R30/g+1fC4qLF43Aln2RB+3A4A7Q1vgQ1vv+C1vv+"]⟩,
  ⟨["Co", "Private_Use"], ["1o0A68As1oA1vv+C1vv+"]⟩,
  ⟨["Cs", "Surrogate"], ["1m0A20A"]⟩,
  ⟨["L", "Letter"], [
    "2BwGw1PBKBEBFXB/BeKEMOFHBBB4BFBCCEBBGBBDBBBUB2TB4LI5GB1GCBG1J2HxEE1N1L1DCB3DBBPCHCKDCBQ",
    "BB+z2ZLBY1BJCEBFWEBJBDBXZHLFYBGR1K1w1WDBSBHKPQEICCCWBHBBDEDBQBNCBDOCKBIGECCWBHBCBCBC/EB",
    "BTDQJBDBWBHBCBFDBSBPCXBLICCCWBHBCBFDB+CBDPBRBBGDDBEDCBBBCDCDDDMWB1UIBDBXBQDBwDCBCC+BEIB",
    "DBXBKBFDB/CBCPCRJBDB1JCBQBFDIDYGFSDYBJBBCH1w1QBCMH1wCBBBFBYBBBKBCJBCFBBVE1AB1/IB1ExF3T1",
    "LUBQGEEDBDCHDENMBR1GBBFBC1LBaNBECHBBBEC1JBEC1BBECHBBBECPB1ZBEC2D1FQQ2WCGDjMCRBwF2LGIHSN",
    "TOSONBDP1U1DBEB2D2ZHFC1CBBF2GK/1R+CFL1MEw1WXJ1V2SB2z1PRI1W+NCK1Mw1E1JDK1ECJH1LCD1JEBGBC",
    "DBF6A2A8WCGC1GCGCIBBBBBBB/C1VBHBBDDBHDECGENFDBH3UBNBQN3FBEBCKBBDFGBBBBBBEBLCEFFEB1UC2jx",
    "7FGEDCM1GBBFBC1YHBQXJHBHBHBHBHBHBHBH2QBeVC1KFFCE2WGDB2wBEF1LB2+R1A1QQgA6eA2AlkN2D1OC8ND",
    "QKCU1PQ/C2G1RJC3HC2AFCBBBFYQBDBEBXz1UO1S1+GDBBCLyKXZzH1PyBQFBKKFB1JXDBIUXDBD1SBBDCCFCBB",
    "BYDCLHDMGCGCGJHBHB1LBOG3TzatEMXE1R88EbOC3K1GHMFFBBKBNBFBBBCBCB3M1BbLS2AC1W1IM3UFB4H1EwG",
    "wL2ZDGCGCGCD1DMBwBTBCBPCO1C3xcFzD1R1P1ANUBIG1GK+C1EEI1Q4+S1EE1EE1II1UMLBPBHBCBLBPBHBC2D",
    "9XJWKIYGB1KBJ2FGCBB1MBCDBCXKXJ/2BTBCKWKw2G1YGC2ABPEBDBz1KzDz1DIByx1WKWKTNS3O2J1X1TN1TN1",
    "Eay1KGC2OzKBIW1KS1OVxXM1V1ZCCBN1N1AZw1EzBCBI1DDBM1QOEVBBB1DSBZTC1/HBBBEBPBKH1P1GICCCWBH",
    "BCBFDBSBMF4+1VSEUD+1QUCBB5Y1P1JE1E1QUB1x1LNB2Hx1FH5Z1M3U2A/ICBCIBCBYPBBB2+IC1HQBBByBK1I",
    "HBVBL1OTBS2J8HJB1FRB1R+3QHBCB1GVBZGBCB1AOBaHTPBBNB1C3yB2Psw7G6E2iM3BP11QRG3tZiH8dZhZH/R",
    "2PR+S1QQE/VFTlQ2A4A2LFB2CN2ACBBy5vYI16W1KJ8nHEBHBCB9DPBzDCBOEIcM28E3LFNDJHK5rG2VB2HBCCB",
    "CCCEBMBBBHB2BBECIBHByBEBFBBDHBaUCZBZB/BZB/BZB/BZB/BZBI1pU/GG8F1+4S1NKHQBaB+S1MfEynUHBEB",
    "CBPB6F1x2EHB15UEBxBCBBCBBKBEBBBBGBEBBBBBBDBCBBCBBBBBBBBBBCBBCEBHBEBEBBBKBRFDBFBR4aE19nA",
    "1A41wG6+C5kCO79R30/g+1fC4qLF43A"]⟩,
  ⟨["LC", "Cased_Letter"], [
    "2BwGw1wBKXB/B6DBEE6QBx6AECCDDBBGBBDBBBUB2TB4LI5GB1GJ1J2oX1GBBFBC1LCDlA2WCG24CJH1LCD2A1M",
    "1/NB1C3F8WCGC1GCGCIBBBBBBB/C1VBHBBDDBHDECGENFDBH8FBEBCKBBDFGBBBBBBEBGEBCEFFEB1UC2jx3yC3",
    "HGEDCM1GBBFBu8S1OSy4G2OBXDEB1xFCBBBFxCDBpV1LFJH2QjqAHMF10JwGw15F2Q3A1EE1E3ULBPBHBCBLBPB",
    "HBC1mD1TN1T2tN2AlbA2ApcA2VB2HBCCBCCCEBMBBBHB2BBECIBHByBEBFBBDHBaUCZBZB/BZB/BZB/BZB/BZBI",
    "1pUKBUGG2eV2E"]⟩,
  ⟨["Ll", "Lowercase_Letter"], [
    "3Bw1wB1JYBIBBBBBBBBBBBBBBBBBBBBBBBBBBBBBBBBBBBBBBBBBBBBBBBBBBBBBBBCBBBBBBBBBBBBBBBCBBBB",
    "BBBBBBBBBBBBBBBBBBBBBBBBBBBBBBBBBBBBBBBBBBCBBBBDCBBBCBDCEBCBDDCBCBBBBBCBBCBBCBDBBBCCCDG",
    "BCBCBBBBBBBBBBBBBBBBCBBBBBBBBBBBBBBBBBCCBBBDBBBBBBBBBBBBBBBBBBBBBBBBBBBBBBBBBBBBBBBBBBB",
    "BBBBBBBBBBBBBBBHCBCCBBEBBBBBBBB2FBx6BBBBDBDDSBx1DBCDDBBBBBBBBBBBBBBBBBBBBBBBFBBCBCC1T1Q",
    "BBBBBBBBBBBBBBBBBBBBBBBBBBBBBBBBBBJBBBBBBBBBBBBBBBBBBBBBBBBBBBBBBBBBBBBBBBBBBBBBBBBBBBB",
    "BCBBBBBBBBBBBBCBBBBBBBBBBBBBBBBBBBBBBBBBBBBBBBBBBBBBBBBBBBBBBBBBBBBBBBBBBBBBBBBBBBBBBBB",
    "BBBBBBBBBBBBBBBBBBBBBBBB1Q1J2qH1LCDnYG24CJ3X1M1/NB1C3GBBBBBBBBBBBBBBBBBBBBBBBBBBBBBBBBB",
    "BBBBBBBBBBBBBBBBBBBBBBBBBBBBBBBBBBBBBBBBBBBBBBBBBBBBBBBBBBBBBBBBBBBBBBBBBBBBBBBBBBBBBBB",
    "BBBBBBBBBBBBBBBBBBBBBBBBBBBBJBBBBBBBBBBBBBBBBBBBBBBBBBBBBBBBBBBBBBBBBBBBBBBBBBBBBBBBBBB",
    "BBBBBBBBBBBBBBBBBBBBBBBBBBBBBBBBBBBBBBBJIGKIIIIGKIIIIOCIIIIIIFBCGBDDBCIECCIIKDBC8SBDCDB",
    "xBEBEBCCIEEB1VB2lL1QBBDCBBBBBBEBBCBGFBBBBBBBBBBBBBBBBBBBBBBBBBBBBBBBBBBBBBBBBBBBBBBBBBB",
    "BBBBBBBBBBBBBBBBBBBBBBBBBBBBBBBBBBBBBBBBBBBBBBBBCHBBBEBM1GBBFBu8TBBBBBBBBBBBBBBBBBBBBBB",
    "BBBBBBBBBBBBBBBBBBBBBBBTBBBBBBBBBBBBBBBBBBBBBBBBBBB4HBBBBBBBBBBBBDBBBBBBBBBBBBBBBBBBBBB",
    "BBBBBBBBBBBBBBBBBBBBBBBBBBBBBBBBBBBBBBBBBBIBBBBCBBBBBBBBBEBBBCBBDBBBBBBBBBBBBBBBBBBBBFB",
    "FBBBBBBBBBBBBBBBEBBBGBBBBBBBBByBDBpV1LFJH2QjqAHMF11Jw16N1I4I1E4xLBPBHBC1oD1T2uN1AlcA1Ap",
    "cwwwHBSwwwEBBBHBLwwwwwwwwwwwwwwwwwyyZBGwZBGwZBGwZBGwZBGBB1pUKBUGG2fX1C"]⟩,
  ⟨["Lm", "Modifier_Letter"], [
    "lQSEMOFHBBB4FBFBe+B7GB5EC8NCEB/BJBDB5AB5HB16UB3/BhVB1mwB3LBjDBeQG5O1/NB1C1FlRBNBQN2u/C7",
    "RB5/BeVB1LFFB3BC2zDroWB17CG8OB3SByC3ZJ2QBXB3JDDCeVBWB4JB3MBVC3HEJBl0GB1NC1vAGB1KBJosFE1",
    "2PN2ACBBg0MEBHBCc1R1+6JHtNB12/B"]⟩,
  ⟨["Lo", "Other_Letter"], [
    "5KBPB8ABEE6QBpxxEE1N1ABK1DCB3DBBYCKDCBQBB+z2ZLBY1BVW1KZHLFYBGR1J1x1WDBSBHKQPEICCCWBHBBD",
    "EDBQBNCBDOCKBIGECCWBHBCBCBC/EBBTDQJBDBWBHBCBFDBSBPCXBLICCCWBHBCBFDB+CBDPBRBBGDDBEDCBBBC",
    "DCDDDMWB1UIBDBXBQDBwDCBCC+BEIBDBXBKBFDB/CBCPCRJBDB1JCBQBFDIDYGFSDYBJBBCH1w1QBCMG1xCBBBF",
    "BYBBBKBCJBCFXE1AB1/IB1ExF3T1LUBQGEEDBDCHDENMB3RaJBECHBBBEC1JBEC1BBECHBBBECPB1ZBEC2D1FQ3",
    "RjMCRBwF2LGIHSNTOSONBDP1U1IB2D1DB1VHFC1CBBF2GK/1R+CFL1MEw1WXJ1V5Q1PRI1W+NCK1Mw1E1JDK+3R",
    "EBGBCDB11wE2vX1YYXJHBHBHBHBHBHBHBHhHB1VBE2WIBB2wEBF1LB2+R1A1QQgA6eA2AkgVB13X2D1II8MEQKC",
    "2CB1R2G5JB3HBDHBDBEBXz1UO1S1+GDBBCLyKXZzH1P1NFCJKFB1JXDBIUQBGDBD1SBBDCCFCBBBYCDLHBOGCGC",
    "GJHBH4R1DzatEMXE1R88EbOC3K2DBBKBNBFBBBCBCB3M1BbLS2AC1W1IM3UFB4H3JKB1NC/DGCGCGCD1DMBwBTB",
    "CBPCO1C3xcFzD1R1P1ANUBIG1GK+C1EEI4A2O3C1II1U4y9XJWKI4YGCBB1MBCDBCXKXJ/2BTBCKWKw2G1YGC2A",
    "BPEBDBz1KzDz1DIByx1WKWKTNS3O2J5X1Eay1KGC2OzKBIW1KS1OVxXM1V1ZCCBN1N1AZw1EzBCBI1DDBM1QOEV",
    "BBB1DSBZTC1/HBBBEBPBKH1P1GICCCWBHBCBFDBSBMF4+1VSEUD+1QUCBB5Y1P1JE1E1QUB1x1LNB2Hx1FH5Z1M",
    "6TICBCIBCBYPBBB2+IC1HQBBByBK1IHBVBL1OTBS2J8HJB1FRB1R+3QHBCB1GVBZGBCB1AOBaHTPBBNB1C3yB2P",
    "sw7G6E2iM3BP11QRG3tZiH8dZhZH/R2PR+S1Q1TVFTrQ2LFB5P5vYI16W1KJ8nX9DPBzDCBOEIcM28E3LFNDJHK",
    "8jQBfV1N1BBaB+S1MfExnVHBEBCBPB6F19xEBxBCBBCBBKBEBBBBGBEBBBBBBDBCBBCBBBBBBBBBBCBBCEBHBEB",
    "EBBBKBRFDBFBR4aE19nA1A41wG6+C5kCO79R30/g+1fC4qLF43A"]⟩,
  ⟨["Lt", "Titlecase_Letter"], ["eFBCBCB1GB7cVIIIIIMBPB1PB"]⟩,
  ⟨["Lu", "Uppercase_Letter"], [
    "2Bw3FXBH1BBBBBBBBBBBBBBBBBBBBBBBBBBBBBBBBBBBBBBBBBBBBBBBBBBBBBBBBCBBBBBBBBBBBBBBBCBBBBB",
    "BBBBBBBBBBBBBBBBBBBBBBBBBBBBBBBBBBBBBBBBBCBBBBDCBBBCBDCEBCBDDCBCBBBBBCBBCBBCBDBBBCDBHBC",
    "BCBCBBBBBBBBBBBBBBBCBBBBBBBBBBBBBBBBBCBCBBDBBBBBBBBBBBBBBBBBBBBBBBBBBBBBBBBBBBBBBBBBBBB",
    "BBBBBBBBBBBBBBHCBCCBBEBBBBBBBB9BBBBDBIBGBBDBBBCBRBJ1DBCDDBBBBBBBBBBBBBBBBBBBBBBBFBCBBCC",
    "1T1QBBBBBBBBBBBBBBBBBBBBBBBBBBBBBBBBBJBBBBBBBBBBBBBBBBBBBBBBBBBBBBBBBBBBBBBBBBBBBBBBBBB",
    "BBBBBCBBBBBBBBBBBBCBBBBBBBBBBBBBBBBBBBBBBBBBBBBBBBBBBBBBBBBBBBBBBBBBBBBBBBBBBBBBBBBBBBB",
    "BBBBBBBBBBBBBBBBBBBBBBBBBBBC1G2qJ1GBBFBmS2W24w1LCDaABBBBBBBBBBBBBBBBBBBBBBBBBBBBBBBBBBB",
    "BBBBBBBBBBBBBBBBBBBBBBBBBBBBBBBBBBBBBBBBBBBBBBBBBBBBBBBBBBBBBBBBBBBBBBBBBBBBBBBBBBBBBBB",
    "BBBBBBBBBBBBBBBBBBBBBBBBBBBJBBBBBBBBBBBBBBBBBBBBBBBBBBBBBBBBBBBBBBBBBBBBBBBBBBBBBBBBBBB",
    "BBBBBBBBBBBBBBBBBBBBBBBBBBBBBBBBBBBBBBJIIGKIIIIGLBBBBBBBII2IEMEMEMFLE8GBEBDDCDCBDFGBBBB",
    "BBECEKCFB1zB2jy1Q1QBBDCBBBBBBEBBCBIDBBBBBBBBBBBBBBBBBBBBBBBBBBBBBBBBBBBBBBBBBBBBBBBBBBB",
    "BBBBBBBBBBBBBBBBBBBBBBBBBBBBBBBBBBBBBBBBBBBBBBBIBBBEBuaNBBBBBBBBBBBBBBBBBBBBBBBBBBBBBBB",
    "BBBBBBBBBBBBBBTBBBBBBBBBBBBBBBBBBBBBBBBBBB4HBBBBBBBBBBBBBDBBBBBBBBBBBBBBBBBBBBBBBBBBBBB",
    "BBBBBBBBBBBBBBBBBBBBBBBBBBBBBBBBKBBBBCBBBBBBBBEBBBCBBBDBBBBBBBBBBBBBBBBBBBBFBFBBBBBBBBB",
    "BBBBBBEBBGBFBBByBlpLw16F1I4I1E4yLBPBHBC1nK1T2vN1AlcA1ApdAwwwwwwBBCCBCCCEBIwwwCBECIBHxCB",
    "EBFBBDHxwwwwwwwwwww+Z1BZ1BZ1BZ1BZ1BB49V1C"]⟩,
  ⟨["M", "Mark", "Combining_Mark"], [
    "oA3Q8TH8H1NBBBCBCBB2IL1QVQB3FHCGCCBE1DB+x2xL1wJJBYEBJBDBF1LD1yI1KYB1B1WDBSBHKCzD1YBBHCC",
    "CDJBKCwBCD1YBBFECCDDB+CDBLD1YBBIBDBDUCWGBD1YBBHCCCDHDKC+B1xFDDBEJB1IF1XBBHBDBEHCLCzD1YB",
    "BHBDBEHCLCPBME1XCBHBDBEJBKCzD2GBEGBBBISC1zBCHMI3CBCJLH2JCxBBBBBEC1RUBCFLB1EJB3EUXEEDBDC",
    "HDENMBBKEl/DtSEyDzC+C2A1AJB1NDBB3VC1CB3WMEM6xF1ZKBzCB1Q/1RF1PR1GJMD+N1YO1QU4YDBVEBGBCD6",
    "G2AmQ1B2v+D4NB3A1AhKG3JCteUEBK1AC2QC8QBDBEBXFEB2TC1SSwSNB1GIZN1ME1PO1EB2DOMBIC1ND1SBBDC",
    "CFCBB1JFFC7MIBCjpQBnBQQQuNB7CB4VF1kGDBCFE1IDEB5FChzEcDC2QD2GL1RE3wD1VP1JBCCKE1NLHB1zD1E",
    "OQC1MBMD1QOIEBC2yMGBCB4zMVE1XCBHCCCDJBKCCHDF6ASXB2RU7LHCJxC2SR3KN3FP8AP7VGBCCEBBBC4NHCH",
    "DByK1IHBEIBJL1OQcVIBI2SWBO3wGDBBCBHBB2CFBCBFaxEJCBB1QHDF57zBGPdkwF1xH10YBB1XHE2RBLCj5LC",
    "4jB1OCXg+FDGIICH+E4UD1tx1XE1SIBOBWFBP1aQHBRCHBCBF3EB5AHbXB1zEfyEvAH3NHo5tV7Q"]⟩,
  ⟨["Mc", "Spacing_Mark"], [
    "28DB1XBCDIEBC1SC1wDGCCCKB1LB1wD2CB1wDIBBC1VC1wBBBGCCCKB3GCBCDDBDKB1JD1zE1zC1wBBFCCBCJCy",
    "BOC1wDFDBDKB1KC2LDGISCaKC1/B5LCEBGBCCZCKDCHVCCGCBKD1jYB+B4BBHIBCawECDECBG7AC1wBBBJBBCIG",
    "4RB1QBFBBFBC1zB+BECCB1yBCDBBDC1QIIC5LBVB4pWCtvTCCB2YC1SQ4OC1PB1QCECCD3OCCCYB1NBBB3NBCCF",
    "B7NCBCBCBBp0TBBB3/B1NDEC3TBYC1xB1QDJCNB2zDDCBB5KD/C1wCBECCCDJBKC6RDICDB3KDGBBECB7NDGECB",
    "3RDICBB3NBBCGB3JCEB8FDJB7XGBCEBCBBB4ODIEEB2UBzC1+BcXBOB3KBHBCB6VFECBBa+CMB1QCICBBk0P1X3",
    "ICobTCGG"]⟩,
  ⟨["Me", "Enclosing_Mark"], ["14IC5hUB1g+EBD11cLD"]⟩,
  ⟨["Mn", "Nonspacing_Mark"], [
    "oA3Q8TF8J1NBBBCBCBB2IL1QVQB3FHCGCCBE1DB+x2xL1wJJBYEBJBDBF1LD1yI1KYB1A1XBBBEIEBDHKCzB1wB",
    "EEIBUCwBCC1ZBECECCDDB+CDBLC1ZBEFBCEBUCWGBB1wBCBBEIBHCLC+B1zBMB1SBDB1XBBDFDBEHCLCzB1wBCB",
    "GBFCUCyC1ZCEEIBUCzB2IBHDBB2wBCHMI3CBCJLH2JCxBBBBB1XOBFBCFLB1EJB3GEBGBCCCZCEDQENBCCGBPBl",
    "/DtSDzC+C+C2ACBHIBCLJB1NDBB3VC1CB3WDECJBGD6xCCB1wBBHBBBBCIGKCB1QOBQ1RE1QBBFBBFB1IJMC1AE",
    "CCBD1YBBCDBBD1wICC4YDBNBHEBGBDC6G2AmQNEBDM2v+D4NB3A1AhKE3LCteUBEK1AC2QC8QBDBEBZCFB4XCwS",
    "NB1GIZL1OD1QBCECC1HB2DGCCCCMBIB1PB1TBBDCCFCBB1KCIB7OBCBEBjpQBnBQQQuNB7CB4VF1kGDBCFE1IDE",
    "B5FChzEcDC2QD2GL1RE3xB1WP1JBCCKD1RECCHB1zD1EFBI1+BMC1UJKECB2/DCBBCGBCB4zBDIVC1ZCDB1FHDF",
    "6DICDBBXB2UGBBECBC7OEGCBCxC2VICBBC3KBBBCGBB3FDCEBF8DJBC8ACBBEB4QECCEB1AK1IGCEIBJGCD1ONB",
    "CcWHBGBB2SWCHBCBC3wGDBBCBHBB2ICDBBBaxCLC1UFFBBB57zBGPdkwF1xH10YB1/E2RBj5YC4jB1OCXhADRIC",
    "H+E4UD1tx1XE1SIBOBWFBP1aQHBRCHBCBF3EB5AHbXB1zEfyEvAH3NHo5tV7Q"]⟩,
  ⟨["N", "Number"], [
    "1QK3YCFBCD1dBK4GK6GKcyK3WKEG3MK3WK3WKCG3ON3TKIH3HK3IHHT3NK3AK3WK2GU8MK2GKmPUrRD7PKGKWK9",
    "MK4AL5FKGK5WK2WK4GKGK10WBDGGK6G1TCFmW1y2OWjW+1bJBoJBZJODaXE4KK+IBP1AK1HPsrAK5yKaAG4wK1G",
    "K6GKWK2WKcWKkoWKfN1NM1ZRCaVx1EEzBIB4GF6KKtOIZH1HJ2LFWG5ACCQC1O2AJ1UC+D2LF3IIYI1JHaKG1QK",
    "9G/4+K1KE3QH4G+4AK1yK4QKHU7xKaWK3WKbWK3GK3GMdET2zKnWz7DK2GKdGK3GV11L3PhfRK2WK4GKBHo+Xp1",
    "JUMU3MZ12V1S2aAKdGKfWKuNJ4AKoX1xBDBE2M1NBPuCN2nDK"]⟩,
  ⟨["Nd", "Decimal_Number", "Digit"], [
    "1QK1hGK4GK6GKcyK3WK3WK3WK3WK3WK3WK3WK3WK3WK3AK3WK2GK8WK2GK1qGK1GK9MK4AK5GKGK5WK2WK4GKGK",
    "12eGKlGK1GK6GKWK2WKcWKkoWK1cGK24GKpMK4AK1yK4QK8WKaWK3WKbWK3GK3GKdGK3GKnWK7WK2GKdGKioGK2",
    "WK4GKr3U1S2aAKdGKfWK12WK4kWK"]⟩,
  ⟨["Nl", "Letter_Number"], ["5nOD2jP1DCE3j+BZJODtlLKmiQ1VeMBIB4GF81K3P"]⟩,
  ⟨["No", "Other_Number"], [
    "5SCFBCD29VGbYG3YD4FH6ZHRJdRK11VU13TKfAB1kVBDGGK6GQ1JBmW1y2OWjW+1bJB14UE4KK+IBP1AK1HPtbQ",
    "Gm6R1N2BERCaVx1EE19UIZH1HJ2LFWG5ACCQC1O2AJ1UC+D2LF3IIYI1JHaKGbA/4+K1KE3QH4GUbxU1aFCdOJr",
    "HTqTVisGHo+Xp1JUMU3MZ5aOJtB1xBDBE2M1NBPuCN"]⟩,
  ⟨["P", "Punctuation", "Punct"], [
    "1BDBGBEKCDCwDBBxBBB1DBFBDBKCDBDBl+BIBeSG1JC1TBBBCBCB1MCUCBCNBBD2KE3GB1LO7JD1WP/B8FCKB4M",
    "B3YB3ZBcGBMBbPB2wBKC5IPBB1FE2HB2KFEC3PG5LBjEJ4XBjNB1MC2OD2HC4zDBD1FL9ZC6YC4AHBG5MHyC3zE",
    "1xF1+C2AILBpyYIUBNBM+COCjZEzC11zO2PC/KcTW1/E1ACnxEBC3QB4P1PB1ACMdDDEKCMQBMB3CB2wBt0CC8N",
    "D3DBKB3TGbyE2WC1IDBB1RC1PB3BNQC3yE3+CQC7ZBkaSC6QKW1DBOBBEBBC4VDBGBEKCDCwDBBxBBBBHcwDkyB",
    "1QBc+BnHB6HB/B8QJ1GB3QH2CH2ZEoQB5HF1ME5zH3NCBE3+E1QC2PEEBNBBD2YG3LBdBFKCBB3IB7wX3JDyN2M",
    "B4CD7yB8ID4xB2yI2TDBF2zK9XF1KCkFC2KN5PB13QF2ryCejxC4FB2BFIBqSEaHBj5yB7fHF3mSC"]⟩,
  ⟨["Pc", "Connector_Punctuation"], ["2/B7u/CTB1ne+CYD7PB"]⟩,
  ⟨["Pd", "Dash_Punctuation"], [
    "1NB1ayB1TB3iBB10FB20JG3gBBCB/CEByBd+BTB3PB1jcQC1FBKB5JB3s/B"]⟩,
  ⟨["Pe", "Close_Punctuation"], [
    "1JB1TB/B3lzBBB1q+B2dJB1XBPBjwBBB+B11+BBBBBBBBBBBBB2QB1ABBBBBBBBBcUBBBBBBBBBBBBBBBBBBBBB",
    "2ABBB1BB11FBBBBBBB1MBBBBBBBdMBBBBBBBBBDBBBBBBBCC1j8+B6ZBzBBBBBBBBBBBBBBBDBRBBBBB5KB1TB/",
    "BCBCB"]⟩,
  ⟨["Pf", "Final_Punctuation"], ["5xB7qzBDByB3eIBBBEBCBPBDB"]⟩,
  ⟨["Pi", "Initial_Punctuation"], ["5LB7rMBCCCBZB3eIBBBEBCBPBDB"]⟩,
  ⟨["Po", "Other_Punctuation"], [
    "1BDBDCBBBBCKCDCxB2EBFBOCHBl+BIBeSG1JB1WBCBCB1MCUCBCNBBD2KE3GB1LO7JD1WP/B8FCKB4MB3YB3ZBc",
    "GBMBbPB2wBKC5IPBB3QB2KFEC3PG5LBjEJoFB3yD2HC4zDBD1FGBE9ZC6YC4AHBG5MHyC3zE1xF1+C2AILBqCCI",
    "IIJCECDDLBBBK34wEBC3QB4PCEDCBCJBCBBCCKFBKCEBBBNCDdMD1ZB5zBt0CC8ND3DBKB3TGbyE2WC1IDBB1RC",
    "1PB3BNQC3yE3+CQC7ZBkhEHCBWBUCCEDDBEHDGBBC4VDBDCBBBBCKCDCxB1EBCCcwDkyB1QBc+BnHB6HB/B8QJ1",
    "GB3QH2CH2ZEtYF1ME5zH3NCBE3+E1QC2PEEBNBBD2YG3LBdBFKCBB3IB7wX3JDyN2MB4CD7yB8ID4xB2yI2TDBF",
    "2zK9XF1KCkFC2KN5PB13QF2ryCejxC4FB2BFIBqSEaHBj5yB7fHF3mSC"]⟩,
  ⟨["Ps", "Open_Punctuation"], [
    "1IB1SB/B3l+BBB1q+B2b+BDB1GB1XBPBjwBBB+B11+BBBBBBBBBBBBB2QB1ABBBBBBBBBcUBBBBBBBBBBBBBBBB",
    "BBBBB2ABBB1BB11FBBBBBBBZBSBBBBBBBdMBBBBBBBBBDBBBBBBBCB1j9BB6XBzBBBBBBBBBBBBBBBDBRBBBBB5",
    "KB1SB/BDBCB"]⟩,
  ⟨["S", "Symbol"], [
    "1EBGBQD/BBBxBBB1DFBCCBBECBDB+B/BeKEMOFHBBBR3VBOC3QB4LB8KD3WDCBCC6OBKBTC7XBHC4IBbJCGC7VB",
    "3+B4CI4EB6PB1JB6FB6BDPBBDCGUBBBBB4FIBGBCFE6FCnQKmTBbNBbEB4z1CbBKJJ12ABBDLDNDNDNC2FBNB1H",
    "DNDT1B1/CBEBCKBBDFGBBBBBBEBLCEFFEBB1wCEbYEzC7yZL2R2OWjI1M1RC/KcTW1/E1ACbWC1AB3J7FGbFC1O",
    "wB2ZM6WwMIBNCMBVCGC2xC7TCEK1A1Ey/L+IBP1AK1HPaA6eA2AlkQ1XhZXJC3HC4zEKEhzD7BBOCjtzB4IRbzQ",
    "3/B1ME3CBBDCB4wBGBQD/BBBxBBB4BHBHNC9ZJ1ZRCDBNDB1P1N1jwCiPB33WB24VziqKEFBkaWB4lT3U1y7WK1",
    "HC1yFDWCH+E1zV2CDB5w2XrKBZB/BZB/BZB/BZB/BZB1ygA1XE1SIBOBC1mIBdPB2dMBDB3zBeBC8O1ME3EMPCP",
    "BPB1FX5B1YzN1MEJHCOG4wuYERDND3XE2/GMEBPME1YIKG1II+CC2OaUMOCNDJH1OBHIOEJHJH4TB1X"]⟩,
  ⟨["Sc", "Currency_Symbol"], [
    "1EB3zE17JB3xBfSCfSCHB7VB8HBiFB2cxB26E1B11rXBleDB3MB4wB6xCDC7vWE1go+B2dQB"]⟩,
  ⟨["Sk", "Modifier_Symbol"], [
    "2+BBB2HBGBEBDBgJEMOFHBBBR3VBOC18CB5pUBBDLDNDNDNC44yCtjDXJC3HCuQBOCk2GRrxBBB5CB1t0XF"]⟩,
  ⟨["Sm", "Math_Symbol"], [
    "1LBQD1zBBB1NBEB1FB/Bn+BgPD6hxBNB1HDND4LB1HFGB2EFFCEBCBCBHB/CCBBB/8M1AC2wB+Z1IGeVBJB1WI3",
    "PBaQFC/KQ8A4DW1/E1AC8C1QVCG1juyBpYBBD5EBQD1zBBB4DBGE1lmUBZB/BZB/BZB/BZB/BZB5pMC"]⟩,
  ⟨["So", "Other_Symbol"], [
    "5GBCBEBBBuRB8KC3/C6OBKBTC7XBgDBbVB4CGBB4EB6PB1JBcHDPBBDCGUBBBBB4FIBGBCFE6FCnQKmTBmSB4z1",
    "CbBKJJ1cDCBEBCKBBCGGBBBBBBEBLCOBBCBB1wCJFCEBCBCBHB/CCBBB/8MIEUCHC2RB+Z1IG2FZL2R2OW5XBJB",
    "1WI3PB7Y1M1M2A8AgA1QVCG1HC1AB3J7FGbFC1OwB2ZM6WwMIBNCMBVCGCaQCEK1A1Ey/L+IBP1AK1HPaA6eA2A",
    "lkQ1XrBEKCBBhzDkmGQ3/B1NDfEBDBECNC9ZJ1ZRCDBNDB1P1N1jwCiPB33WB24VIERiqKEFBkaWB4lT3U1y7WK",
    "1HC1yFDWCH+E1zV2CDB5w2X15JgA1XE1SIBOBC1mIB2qyB4BBmR1ME3EMPCPBPB1FX5B1YzN1MEJHCOG4w7xFmY",
    "ERDND3XE2/GMEBPME1YIKG1II+CC2OaUMOCNDJH1OBHIOEJHJH4TB1X"]⟩,
  ⟨["Z", "Separator"], ["1AB3/B5e/B2b/LzCFB1PB3tAB"]⟩,
  ⟨["Zl", "Line_Separator"], ["81IB"]⟩,
  ⟨["Zp", "Paragraph_Separator"], ["81JB"]⟩,
  ⟨["Zs", "Space_Separator"], ["1AB3/B5e/B2b/L1EB1PB3tAB"]⟩]

end AppDef.Unicode
