import AppDef.Unicode.Range

namespace AppDef.Unicode

/-- The roles of characters in finding the ends of graphemes; those of words and sentences follow.
-/
def graphemeBreaks : List Property := [
  ⟨["CN", "Control"], ["AKBCBS2/1BNB1bOB4fRB1vyBCCYH1RQ1nkPB7QMd1UQ123AE56PIobkF1A3A4A7Q3gQ"]⟩,
  ⟨["CR"], ["NB"]⟩,
  ⟨["EX", "Extend"], [
    "oA3Q8TH8H1NBBBCBCBB2IL1QVQB3FHCGCCBE1DB+x2xL1wJJBYEBJBDBF1LD1yI1KYB1A1XBBBEIEBDHKCzB1wB",
    "BBCEIBJBKCwBCC1ZBECECCDDB+CDBLC1ZBEFBCEBUCWGBB1wBBCBEIBHDKC+B1xBBBMBJB1IBDB1XBBDFDBEHCL",
    "CzB1wBCBCBDBFCHCLCyC1ZCBBCEIBJBKCzB2IBEBCDBBIB2RBCHMI3CBCJLH2JCxBBBBB1XOBFBCFLB1EJB3GEB",
    "GBCCCZCEDQENBCCGBPBl/DtSDzC+C+C2ACBHIBCLJB1NDBB3VC1CB3WDECJBGD6xCCB1wBBHBBBBCIGKCB1Q/1R",
    "E1QHBBFB1IJMC1AECCBD1YBBCDBBD1wICC4YDBNBHEBGBDC6G2AgMB6D1B2v+D4NB3A1AhKG3JCteUEBK1AC2QC",
    "8QBDBEBZCFB4XCwSNB1GIZL1OD1QBCECC1HB2DGCCCCMBIB1PB1TBBDCCFCBB1KCIB7OBCBEBjpQBnBQQQbOCiz",
    "B7CB4VF1kGDBCFE1IDEB5FChzEcDC2QD2GL1RE3xB1WP1JBCCKD1RECCHB1zD1EFBI1+BMC1UJKECB2/DCBBCGB",
    "CB4zBDIVC1ZCBBBBWBOHDF6DICDBBXB2RBCGBBCBBCBC7LBCEGCBCxC2VICBBC3KBBBCGBB3FDCEBF8DJBC7VBK",
    "CBBEB4QECCEB1AK1IGCEIBJGCD1ONBCcWHBGBB2SWCHBCBC3wGDBBCBHBB2ICDBBBaxCLC1UFFBBB57zBGPdkwF",
    "1xH10YB1/E2RBj5YC4jB1OCXg+BBDEFIICH+E4UD1tx1XE1SIBOBWFBP1aQHBRCHBCBF3EB5AHbXB1zEfyEvAH3",
    "NH2lQFo31A3A4A7Q"]⟩,
  ⟨["L"], ["48A3A160Az"]⟩,
  ⟨["LF"], ["KB"]⟩,
  ⟨["LV"], [
    "1b0ABxBxBxBxBxBxBxBxBxBxBxBxBxBxBxBxBxBxBxBxBxBxBxBxBxBxBxBxBxBxBxBxBxBxBxBxBxBxBxBxBxB",
    "xBxBxBxBxBxBxBxBxBxBxBxBxBxBxBxBxBxBxBxBxBxBxBxBxBxBxBxBxBxBxBxBxBxBxBxBxBxBxBxBxBxBxBx",
    "BxBxBxBxBxBxBxBxBxBxBxBxBxBxBxBxBxBxBxBxBxBxBxBxBxBxBxBxBxBxBxBxBxBxBxBxBxBxBxBxBxBxBxB",
    "xBxBxBxBxBxBxBxBxBxBxBxBxBxBxBxBxBxBxBxBxBxBxBxBxBxBxBxBxBxBxBxBxBxBxBxBxBxBxBxBxBxBxBx",
    "BxBxBxBxBxBxBxBxBxBxBxBxBxBxBxBxBxBxBxBxBxBxBxBxBxBxBxBxBxBxBxBxBxBxBxBxBxBxBxBxBxBxBxB",
    "xBxBxBxBxBxBxBxBxBxBxBxBxBxBxBxBxBxBxBxBxBxBxBxBxBxBxBxBxBxBxBxBxBxBxBxBxBxBxBxBxBxBxBx",
    "BxBxBxBxBxBxBxBxBxBxBxBxBxBxBxBxBxBxBxBxBxBxBxBxBxBxBxBxBxBxBxBxBxBxBxBxBxBxBxBxBxBxBxB",
    "xBxBxBxBxBxBxBxBxBxBxBxBxBxBxBxBxBxBxBxBxBxBxBxBxBxBxBxBxBxBxBxBxBxBxBxBxBxBxBxBxBxBxBx",
    "BxBxBxBxBxBxBxBxBxBxBxBxBxBxBxBxBxBxBxBxBxBxBxBxBxBxBxBxBxBxBxBxBxBxBxBxBxBxBxBxBxBxBxB",
    "xBxBxBxBxBxBxBxBxB"]⟩,
  ⟨["LVT"], [
    "1b0BxBxBxBxBxBxBxBxBxBxBxBxBxBxBxBxBxBxBxBxBxBxBxBxBxBxBxBxBxBxBxBxBxBxBxBxBxBxBxBxBxBx",
    "BxBxBxBxBxBxBxBxBxBxBxBxBxBxBxBxBxBxBxBxBxBxBxBxBxBxBxBxBxBxBxBxBxBxBxBxBxBxBxBxBxBxBxB",
    "xBxBxBxBxBxBxBxBxBxBxBxBxBxBxBxBxBxBxBxBxBxBxBxBxBxBxBxBxBxBxBxBxBxBxBxBxBxBxBxBxBxBxBx",
    "BxBxBxBxBxBxBxBxBxBxBxBxBxBxBxBxBxBxBxBxBxBxBxBxBxBxBxBxBxBxBxBxBxBxBxBxBxBxBxBxBxBxBxB",
    "xBxBxBxBxBxBxBxBxBxBxBxBxBxBxBxBxBxBxBxBxBxBxBxBxBxBxBxBxBxBxBxBxBxBxBxBxBxBxBxBxBxBxBx",
    "BxBxBxBxBxBxBxBxBxBxBxBxBxBxBxBxBxBxBxBxBxBxBxBxBxBxBxBxBxBxBxBxBxBxBxBxBxBxBxBxBxBxBxB",
    "xBxBxBxBxBxBxBxBxBxBxBxBxBxBxBxBxBxBxBxBxBxBxBxBxBxBxBxBxBxBxBxBxBxBxBxBxBxBxBxBxBxBxBx",
    "BxBxBxBxBxBxBxBxBxBxBxBxBxBxBxBxBxBxBxBxBxBxBxBxBxBxBxBxBxBxBxBxBxBxBxBxBxBxBxBxBxBxBxB",
    "xBxBxBxBxBxBxBxBxBxBxBxBxBxBxBxBxBxBxBxBxBxBxBxBxBxBxBxBxBxBxBxBxBxBxBxBxBxBxBxBxBxBxBx",
    "BxBxBxBxBxBxBxBxBx"]⟩,
  ⟨["PP", "Prepend"], ["1gAG6XB1RBcAC2QB13LB20rOBPB7UC1rxBBB7YB2JGlyBdxB"]⟩,
  ⟨["RI", "Regional_Indicator"], ["3sfGw"]⟩,
  ⟨["SM", "SpacingMark"], [
    "28DB1XBCDIEBC1SC1xCGCCC1WB1wD2CB1wDIBBC1VC1yBGCCC3SBBCDDBD1UD1zE1zC1wBBCBCCCBC1HBOC1xCF",
    "DBD1VC2MCGHTC1/B3/B4KC1/B5RBJCZC1MB1kQB+B4BBHIBCawECDECBG7AC1wBBBVG4RB1WBBFBC1zB+BECCB1",
    "yBCDBBDC1QIIC5LBVB12pLCCB2YC1SQ4OC1PB1QCECCD3OCCCYB4zBCCFB7NCBCBCBBp0TBBB3/B1NDEC3TBYC1",
    "xB1QDJCNB2zDDCBB5KD/C1xBBECCCDUC6RDICDB3LCGBBCBBCB7OCGECB3RDICBB3NBBCGB3PB8FDJB7YFBCEBC",
    "BBB4ODIEEB2UBzC1+BcXBOB3KBHBCB6VFECBBa+CMB1QCICBBk0P1X3ICobUBGB"]⟩,
  ⟨["T"], ["4dI2Y1heL1R"]⟩,
  ⟨["V"], ["4bA2I1hgIX"]⟩,
  ⟨["XX", "Other"], [
    "1A2/1BNBiS3Q8TH8H1NBBBCBCBB1YGKLBB1OVQB3FIBGCCBE1BBBB+x2xL1wJJBYEBJBDBF1LD1UCGI1K1w1WDB",
    "SBHKCzD1YBBHCCCDJBKCwBCD1YBBFECCDDB+CDBLD1YBBIBDBDUCWGBD1YBBHCCCDHDKC+B1xFDDBEJB1IF1XBB",
    "HBDBEHCLCzD1YBBHBDBEHCLCPBME1XCBHBDBFIBKCzD2GBEGBBBISC1zBBIMI3CBBKLH2JCxBBBBBEC1RUBCFLB",
    "1EJB3GLBGXEEDQENBBDGBPB3C8AazDtSEyDzC+C2A1AJB1NF3VC1CB3WMEM6xF1ZKBBBBCYCB1Q/1RF1PR1GJMD",
    "+N1YO1QU4YDBVEBGBCD6G2AgLFYH1RQ3A1B2v+D4NB3A1AhKG3JCteUEBK1AC2QC8QBDBEBXFEB2TC1SSwSNB1G",
    "IZNMzDE1PO1EB2DOMBIC1OB1TBBDCCFCBB1JFFC7MIBCSatEMXE1R8pCBnBQQQ6PB4+C2QMgBB7CB4VF1kGDBCF",
    "E1IDEB5FChzEcDC2QD2GL1RE3wD1VP1JBCCKE1NLCBEBKB1SD1EOQC1MBMD1QOBCFEBC2yMGBCB4zMVE1XCBHCC",
    "CDJBKCCHDF6ASXB2RU7LHCJxC2SR3KN3FDCK8AP7VGBCCJ4NHCHDByK1IMIBJL1IWcVIBI2SWBO3wGDBBCBJ2CF",
    "BCBFaxEJE1QHDF57NRGPdkwF1xH10YBB1XHE2RBLCj5LCBE4iy1OCXg+FDWCH+E4UD1tx1XE1SIBOBWFBP1aQHB",
    "RCHBCBF3EB5AHbXB1zEfyEvAH3NH24xwfxFo30A40A"]⟩,
  ⟨["ZWJ"], ["80NB"]⟩]

def wordBreaks : List Property := [
  ⟨["CR"], ["NB"]⟩,
  ⟨["DQ", "Double_Quote"], ["1CB"]⟩,
  ⟨["EX", "ExtendNumLet"], ["2/B7uPBPCTB1ne+CYD7PB"]⟩,
  ⟨["Extend"], [
    "oA3Q8TH8H1NBBBCBCBB2IL1QVQB3FHCGCCBE1DB+x2xL1wJJBYEBJBDBF1LD1yI1KYB1B1WDBSBHKCzD1YBBHCC",
    "CDJBKCwBCD1YBBFECCDDB+CDBLD1YBBIBDBDUCWGBD1YBBHCCCDHDKC+B1xFDDBEJB1IF1XBBHBDBEHCLCzD1YB",
    "BHBDBEHCLCPBME1XCBHBDBEJBKCzD2GBEGBBBISC1zBCHMI3CBCJLH2JCxBBBBBEC1RUBCFLB1EJB3EUXEEDBDC",
    "HDENMBBKEl/DtSEyDzC+C2A1AJB1NDBB3VC1CB3WMEM6xF1ZKBzCB1Q/1RF1PR1GJMD+N1YO1QU4YDBVEBGBCD6",
    "G2AgMB6D1B2v+D4NB3A1AhKG3JCteUEBK1AC2QC8QBDBEBXFEB2TC1SSwSNB1GIZN1ME1PO1EB2DOMBIC1ND1SB",
    "BDCCFCBB1JFFC7MIBCjpQBnBQQQbOCizB7CB4VF1kGDBCFE1IDEB5FChzEcDC2QD2GL1RE3wD1VP1JBCCKE1NLH",
    "B1zD1EOQC1MBMD1QOIEBC2yMGBCB4zMVE1XCBHCCCDJBKCCHDF6ASXB2RU7LHCJxC2SR3KN3FP8AP7VGBCCEBBB",
    "C4NHCHDByK1IHBEIBJL1OQcVIBI2SWBO3wGDBBCBHBB2CFBCBFaxEJCBB1QHDF57zBGPdkwF1xH10YBB1XHE2RB",
    "LCj5LC4jB1OCXg+FDGIICH+E4UD1tx1XE1SIBOBWFBP1aQHBRCHBCBF3EB5AHbXB1zEfyEvAH3NH2lQFo31A3A4",
    "A7Q"]⟩,
  ⟨["FO", "Format"], ["5NB1aSGWB6AB1RBcAC2QB3pLB1v/CwF1RFBK1nkPB7ZD46BBPB8rCQ123AE56PIobkGB"]⟩,
  ⟨["HL", "Hebrew_Letter"], ["1eQxEE1t9KBBKBNBFBBBCBCBK"]⟩,
  ⟨["KA", "Katakana"], ["c1RF3FCD2xBE7QQ6Q1PB2Y1j0O1Y1c2SEBHBCBB8/D1SBOE"]⟩,
  ⟨["LE", "ALetter"], [
    "2BwGw1PBKBEBFXB/BfAG1C3QFBCCEBBGBBDBBBUB2TB4LI5GB1GCEBBB1JBB3IB1M1L1DCB3DBBPCHCKDCBQBB+",
    "z2ZLBY1BJCEBFWEBJBDBXZHLFYBGR1K1w1WDBSBHKPQEICCCWBHBBDEDBQBNCBDOCKBIGECCWBHBCBCBC/EBBTD",
    "QJBDBWBHBCBFDBSBPCXBLICCCWBHBCBFDB+CBDPBRBBGDDBEDCBBBCDCDDDMWB1UIBDBXBQDBwDCBCC+BEIBDBX",
    "BKBFDB/CBCPCRJBDB1JCBQBFDIDYGFSDYBJBBCH9ZB1/IB1ExF8T1GBBFBC1LBaNBECHBBBEC1JBEC1BBECHBBB",
    "ECPB1ZBEC2D1FQQ2WCGDjMCRBwF2LDLHSNTOSONBD5P2ZHFC1CBBF2GK/7BX7O1PRI1W+NCK1Mw1E1JDK1ECJH1",
    "LCD1JEBGBCDBF6A2A8WCGC1GCGCIBBBBBBB/C1VBHBBDDBHDECGENFDBH3UBNBQN3FBEBCKBBDFGBBBBBBEBLCE",
    "FFEBR1JpN1U1oW7FGEDCM1GBBFBC1YHBQXJHBHBHBHBHBHBHBH2QBeVB1VC6I1LB2+R1AriA14N2D1OC8NDQKCU",
    "1PQ/C2QY6DFCBBBFYQBDBEBXz1UO1S1+GDBBCLyKXZzH1PyB1Q1JXDBI4ULHDMGCGCGJHBHB1wG3TzatEMXE1R8",
    "oEHMF1Y3C1BbLS2AC1W1IM3UFB4H1EwGw2F/DGCGCGCD1DMBwBTBCBPCO1C3x2F1V8LzD1R1P1AN+F1GK+C1EEI",
    "BF1K4+S1EE1EE1II1UMLBPBHBCBLBPBHBC2D9XJWKIYGB1KBJ2FGCBB1MBCDBCXKXJ/2BTBCKWKw2G1YGC2ABPE",
    "BDBz1KzDz1DIByx1WKWKTNS3O2J1X1TN1TN1Eay1KGC2OzKBIW1KS1OVxXM1V1ZCCBN1N1AZw1EzBCBI1DDBM1Q",
    "OEVBBB1DSBZTC1/HBBBEBPBKH1P1GICCCWBHBCBFDBSBMF4+1VSEUD+1QUCBB5Y1P1JE1E1QUB1x1LNBaH1M3U2",
    "A/ICBCIBCBYPBBB2+IC1HQBBByBK1IHBVBL1OTBS2J8HJB1FRB1R+3QHBCB1GVBZGBCB1AOBaHTPBBNB1C3yB2P",
    "sw3G3PR6E2iM3BP11QRG3tZiH8dZhZH/R2PR+S1QQE/VFTlQ2A4A2LFB2CN2ACBBj0y3LFNDJHK5rG2VB2HBCCB",
    "CCCEBMBBBHB2BBECIBHByBEBFBBDHBaUCZBZB/BZB/BZB/BZB/BZBI1pU/GG8F1+4S1NKHQBaB+S1MfEynUHBEB",
    "CBPB6F1x2EHB15UEBxBCBBCBBKBEBBBBGBEBBBBBBDBCBBCBBBBBBBBBBCBBCEBHBEBEBBBKBRFDBFBRjUwGwGw"]⟩,
  ⟨["LF"], ["KB"]⟩,
  ⟨["MB", "MidNumLet"], ["1OB7vJCKB1nhNB5UBGB"]⟩,
  ⟨["ML", "MidLetter"], ["1wB3yBmPBeXB4UB6hSB1nfLB2BB6EB"]⟩,
  ⟨["MN", "MidNum"], ["1MBOBqCBgKB4CC2+BcLB62LB1neLBDB1xBDB5XBOB"]⟩,
  ⟨["NL", "Newline"], ["LC3YB7tCC"]⟩,
  ⟨["NU", "Numeric"], [
    "1QK1hGKBB4EK6GKcyK3WK3WK3WK3WK3WK3WK3WK3WK3WK3AK3WK2GK8WK2GK1qGK1GK9MK4AK5GKGK5WK2WK4GK",
    "GK12eGKlGK1GK6GKWK2WKcWKkoWK1cGK24GKpMK4AK1yK4QK8WKaWK3WKbWK3GK3GKdGK3GKnWK7WK2GKdGKioG",
    "K2WK4GKr3U1S2aAKdGKfWK12WK4kWK"]⟩,
  ⟨["RI", "Regional_Indicator"], ["3sfGw"]⟩,
  ⟨["SQ", "Single_Quote"], ["1HB"]⟩,
  ⟨["WSegSpace"], ["1AB5i/B2b/HBD2UB3tAB"]⟩,
  ⟨["XX", "Other"], [
    "AKESBBBEBEBBBBMFwEBBwKB1EBCBHBBBCBFXB/BfAG4XBCCGGFBBBUB2TB4LB5NB1GCEB1NG1NBBBCBCBBIxEGL",
    "GGCCLBBD2KBCB3GBJBKBTCBP1yC3FO1WCBBBCBC1OSyELFYBGBCG6MCKBTBICCCWBHBBDECJCCCEIBECBFCMKBB",
    "BCDBGECCWBHBCBCBCCBBFECCDDBHEBBHQLDBJBDBWBHBCBFCKBDBDCBPECKJHBDBICCCWBHBCBFCJCCCDHDECBF",
    "CKBBQCBGDDBEDCBBBCDCDDDMEFDDBECBGBOKQNBDBXBQCJBDBEHCBDCBCECKQEBIBDBXBKBFCJBDBEHCGCBECKB",
    "DMNBDB1TBDBFFEHFCKKGBDBSDYBJBBCHDBEGBBBIGKCC1zBCHMIBK2XBCJLHBK1GBXCGKLBBBBBEKB1EEUBSB1E",
    "JB3EUBKMEEDBDCHDENMBPC1GBBFBC1LBaNBECHBBBEC1JBEC1BBECHBBBECPB1ZBEC2DCD1AQQ2WCGDjMC1MF2L",
    "DLHWJWLUMNBDBC2A1AJBCK1BPG2ZH1LF2GK/BMEMKK4AK1Gy1ZKBzCLGKW/1R2NDKRJM3UM1YIKD1RCJH1LCDQD",
    "B1HFgWCGC1GCGCIBBBBBBB/C1VBHBBDDBHDECGENFDBHDHBDBEICKBCJPCDBPBKGBKBBNBQN1T1BRBEBCKBBDFG",
    "BBBBBBEBLCEFFEBR1JpN1U1oW7FGJM1GBBFBC1YHBPYJHBHBHBHBHBHBHBHB1A1PBeQBEB1EGBFFC2yED2xBEF1",
    "LB2+R1A1QQ6Q1PB2Yr5I14N2D1OC8NDyU1TBKB3TW6DFCBBBFY1WEBT1UM2GKKGYDBB1RC1EMzD2BOLLBKKG1XJ",
    "OCK1BD1SBBDCCFCBB+QCFKGCGCGJHBHB1wG3xBCCKGatEMXE1R8oEHMFFMBNBFBBBCBCB3M1BbLS2AC1W1IMERC",
    "CLQDCYEBBBCwFB4HCBHBEBBBBMFwEBBwL2ZDGCGCGCDyDEMBwBTBCBPCO1C3x2F1V4IB4CzD1RPB/1AN+F1LF+C",
    "1EEIBF1K4+CKG1EE1EE1II1UMLBPBHBCBLBPBHBC2D9XJWKIYGB1KBJ2FGCBB1MBCDBCXKXJ/2BTBCKWKw2G1YG",
    "C2AEBCFIBDBzCDEB1AzDz1DIB+Z1WKWKTNS3O2J1X1TN1TN1IIKaG1KBCDC2L1AKBI1B/W1KVxXJ2H/QJ1yCBEB",
    "KBCZHKG1VBKEEI1ECBJ2FEEBNBB1DSB1FGE1+HBBBEBPBKH1xFKGEBICCCWBHBCBFBKCCCDCBGBFHCHDF4L2LFK",
    "EE+2GBBIK5G1WCJXG1C2BDBLK1G1ZHK2TPEK6G1x3F2KVICBCIBCB+BCCJMK2GIC1OCIBCx1/IBI2KDBS2J8HJB",
    "1NBJPKY+CWBO2JHBCB1MDBBCBJIKGGBCB1FBCBGHK9WXJRB1JDFNK2WB2Psw3G3PR6E2iM3BP12W3tKiH8dZhZH",
    "/BKG2PBKG+CFL1XJEMKJVFTlQ2A4A2LE1ZHR2ACBCLCfv+EBHBCBB8/D1SBOE2kY3LFNDJHKDCBE4iy1OCXg+FD",
    "WCH+E4UDdx2VB2HBCCBCCCEBMBBBHB2BBECIBHByBEBFBBDHBaUCZBZB/BZB/BZB/BZB/BZBIC1SgA1XE1SIBOB",
    "WFBP12Q/GG6VHBRCHBCBFF1+1BB3Q1NDOCKEBaB/R1weW1KnGHBEBCBPB6FLH1J2MEK15GEBxBCBBCBBKBEBBBB",
    "GBEBBBBBBDBCBBCBBBBBBBBBBCBBCEBHBEBEBBBKBRFDBFBRjUwGwGw2ywfxF1vQKo10HB+3A4A7Q"]⟩,
  ⟨["ZWJ"], ["80NB"]⟩]

def sentenceBreaks : List Property := [
  ⟨["AT", "ATerm"], ["1OB7vVB1nhNB5xB"]⟩,
  ⟨["CL", "Close"], [
    "1CBED1RBBBzBBB1NBPB3j+E1qzC2bxIZCKC1WCOCjZEzC11QGHO2PC/KcTW1/E1AC10COOCCKYBSIdLKCIBD1j8",
    "+C6XCyQCCQG5JC1RBBBzBBBBCBC1toSD"]⟩,
  ⟨["CR"], ["NB"]⟩,
  ⟨["EX", "Extend"], [
    "oA3Q8TH8H1NBBBCBCBB2IL1QVQB3FHCGCCBE1DB+x2xL1wJJBYEBJBDBF1LD1yI1KYB1B1WDBSBHKCzD1YBBHCC",
    "CDJBKCwBCD1YBBFECCDDB+CDBLD1YBBIBDBDUCWGBD1YBBHCCCDHDKC+B1xFDDBEJB1IF1XBBHBDBEHCLCzD1YB",
    "BHBDBEHCLCPBME1XCBHBDBEJBKCzD2GBEGBBBISC1zBCHMI3CBCJLH2JCxBBBBBEC1RUBCFLB1EJB3EUXEEDBDC",
    "HDENMBBKEl/DtSEyDzC+C2A1AJB1NDBB3VC1CB3WMEM6xF1ZKBzCB1Q/1RF1PR1GJMD+N1YO1QU4YDBVEBGBCD6",
    "G2AgMC6C1B2v+D4NB3A1AhKG3JCteUEBK1AC2QC8QBDBEBXFEB2TC1SSwSNB1GIZN1ME1PO1EB2DOMBIC1ND1SB",
    "BDCCFCBB1JFFC7MIBCjpQBnBQQQbOCizB7CB4VF1kGDBCFE1IDEB5FChzEcDC2QD2GL1RE3wD1VP1JBCCKE1NLH",
    "B1zD1EOQC1MBMD1QOIEBC2yMGBCB4zMVE1XCBHCCCDJBKCCHDF6ASXB2RU7LHCJxC2SR3KN3FP8AP7VGBCCEBBB",
    "C4NHCHDByK1IHBEIBJL1OQcVIBI2SWBO3wGDBBCBHBB2CFBCBFaxEJCBB1QHDF57zBGPdkwF1xH10YBB1XHE2RB",
    "LCj5LC4jB1OCXg+FDGIICH+E4UD1tx1XE1SIBOBWFBP1aQHBRCHBCBF3EB5AHbXB1zEfyEvAH3NHo5mV3A4A7Q"]⟩,
  ⟨["FO", "Format"], [
    "5NB1aSGWB6AB1RBcAC2QB3pLB1vyBCCwF1RFBK1nkPB7ZD46BBPB8rCQ123AE56PIobkGB"]⟩,
  ⟨["LE", "OLetter"], [
    "dxBEE6QB1EHGMwBBB4FBfEB3WxEF1M1L1DCB3DBBPCHCKDCBQBB+z2ZLBY1BJCEBFWEBJBDBXZHLFYBGR1K1w1W",
    "DBSBHKPQEICCCWBHBBDEDBQBNCBDOCKBIGECCWBHBCBCBC/EBBTDQJBDBWBHBCBFDBSBPCXBLICCCWBHBCBFDB+",
    "CBDPBRBBGDDBEDCBBBCDCDDDMWB1UIBDBXBQDBwDCBCC+BEIBDBXBKBFDB/CBCPCRJBDB1JCBQBFDIDYGFSDYBJ",
    "BBCH1w1QBCMH1wCBBBFBYBBBKBCJBCFBBVE1AB1/IB1ExF3T1LUBQGEEDBDCHDENMB2B1LCaMBECHBBBEC1JBEC",
    "1BBECHBBBECPB1ZBEC2D1FQ3RjMCRBwF2LDLHSNTOSONBDP1U1DBEB2D2ZHFC1CBBF2GK/1R+CFL1MEw1WXJ1V2",
    "SB2z1PRI1W+NCK1Mw1E1JDK1ES1LCD1JEBGBCDB11wE2HDCE2tH1YHBQXJHBHBHBHBHBHBHBH2QBeVDZJHFCFE2",
    "WGDB2wBEF1LB2+R1A1QQgA6eA2AlkN2D1OC8NDQKC2CBQB1A2Q1HJ3IBGB3HBDHBDBEBXz1UO1S1+GDBBCLyKXZ",
    "zH1PyBQFBKKFB1JXDBIUXDBD1SBBDCCFCBBBYDCLHDMGCGCGJHBH4R1DzatEMXE1R88EbOC3K2DBBKBNBFBBBCB",
    "CB3M1BbLS2AC1W1IM3UFB4H3J1YC/DGCGCGCD1DMBwBTBCBPCO1C3x2F1V8LzD1R1P1AN+F1GK+C1EEIBF3w2O3",
    "C1II1U4y9XJWKIZC3zGCBB1MBCDBCXKXJ/2BTBCKWKw2G1YGC2ABPEBDBz1KzDz1DIByx1WKWKTNS3O2J5X1Eay",
    "1KGC2OzKBIW1KS1OVxXM1V1ZCCBN1N1AZw1EzBCBI1DDBM1QOEVBBB1DSBZTC1/HBBBEBPBKH1P1GICCCWBHBCB",
    "FDBSBMF4+1VSEUD+1QUCBB5Y1P1JE1E1QUB1x1LNB2Hx1FH5Z1M6TICBCIBCBYPBBB2+IC1HQBBByBK1IHBVBL1",
    "OTBS2J8HJB1FRB1R+3QHBCB1GVBZGBCB1AOBaHTPBBNB1C3yB2Psw3G3PR6E2iM3BP11QRG3tZiH8dZhZH/R2PR",
    "+S1QQE/VFTrQ2LFB2CN2ACBBy5vYI16W1KJ8nHEBHBCB9DPBzDCBOEIcM28E3LFNDJHK8jQBfV1NKHQBaB+S1Mf",
    "EynUHBEBCBPB6F4GB15UEBxBCBBCBBKBEBBBBGBEBBBBBBDBCBBCBBBBBBBBBBCBBCEBHBEBEBBBKBRFDBFBR4a",
    "E19nA1A41wG6+C5kCO79R30/g+1fC4qLF43A"]⟩,
  ⟨["LF"], ["KB"]⟩,
  ⟨["LO", "Lower"], [
    "3Bw1PBKBEB1EYBIBBBBBBBBBBBBBBBBBBBBBBBBBBBBBBBBBBBBBBBBBBBBBBBBBBBBBBBCBBBBBBBBBBBBBBBC",
    "BBBBBBBBBBBBBBBBBBBBBBBBBBBBBBBBBBBBBBBBBBBBBBCBBBBDCBBBCBDCEBCBDDCBCBBBBBCBBCBBCBDBBBC",
    "CCDGBCBCBBBBBBBBBBBBBBBBCBBBBBBBBBBBBBBBBBCCBBBDBBBBBBBBBBBBBBBBBBBBBBBBBBBBBBBBBBBBBBB",
    "BBBBBBBBBBBBBBBBBBBHCBCCBBEBBBBBBBB2FB1EHC+F4MBBBDBCESBx1DBCDDBBBBBBBBBBBBBBBBBBBBBBBFB",
    "BCBCC1T1QBBBBBBBBBBBBBBBBBBBBBBBBBBBBBBBBBBJBBBBBBBBBBBBBBBBBBBBBBBBBBBBBBBBBBBBBBBBBBB",
    "BBBBBBBBBBCBBBBBBBBBBBBCBBBBBBBBBBBBBBBBBBBBBBBBBBBBBBBBBBBBBBBBBBBBBBBBBBBBBBBBBBBBBBB",
    "BBBBBBBBBBBBBBBBBBBBBBBBBBBBBBBBB1Q1J2rTBnxG24CJ3X6A2BBBBBBBBBBBBBBBBBBBBBBBBBBBBBBBBBB",
    "BBBBBBBBBBBBBBBBBBBBBBBBBBBBBBBBBBBBBBBBBBBBBBBBBBBBBBBBBBBBBBBBBBBBBBBBBBBBBBBBBBBBBBB",
    "BBBBBBBBBBBBBBBBBBBBBBBBBBBBJBBBBBBBBBBBBBBBBBBBBBBBBBBBBBBBBBBBBBBBBBBBBBBBBBBBBBBBBBB",
    "BBBBBBBBBBBBBBBBBBBBBBBBBBBBBBBBBBBBBBBJIGKIIIIGKIIIIOCIIIIIIFBCGBDDBCIECCIIKDBC3ZBNBQN",
    "3NBDCDBxBEBEBCCIEEB1BQEBqLw1qG1QBBDCBBBBBBEBBCBIDBBBBBBBBBBBBBBBBBBBBBBBBBBBBBBBBBBBBBB",
    "BBBBBBBBBBBBBBBBBBBBBBBBBBBBBBBBBBBBBBBBBBBBBBBBBBBBBBBBBBBBCHBBBEBM1GBBFBu8TBBBBBBBBBB",
    "BBBBBBBBBBBBBBBBBBBBBBBBBBBBBBBBBBBTBBBBBBBBBBBBBBBBBBBBBBBBBBD4FBBBBBBBBBBBBDBBBBBBBBB",
    "BBBBBBBBBBBBBBBBBBBBBBBBBBBBBBBBBBBBBBBBBBBBBBBBBBBBKBBBBCBBBBBBBBBEBBBCBBDBBBBBBBBBBBB",
    "BBBBBBBBFBFBBBBBBBBBBBBBBBEBBBGBBBBBBBBBYDBBBDpV1LBOG2QjqAHMF11Jw16N1I4I1E4xLBPBHBCeDBC",
    "DB1KBJ18F1T2uN1AlcA1ApcwwwHBSwwwEBBBHBLwwwwwwwwwwwwwwwwwyyZBGwZBGwZBGwZBGwZBGBB1pUKBUGG",
    "8F1+25U1C"]⟩,
  ⟨["NU", "Numeric"], [
    "1QK1hGKBC4DK6GKcyK3WK3WK3WK3WK3WK3WK3WK3WK3WK3AK3WK2GK8WK2GK1qGK1GK9MK4AK5GKGK5WK2WK4GK",
    "GK12eGKlGK1GK6GKWK2WKcWKkoWK1cGK24GKpMK4AK1yK4QK8WKaWK3WKbWK3GK3GKdGK3GKnWK7WK2GKdGKioG",
    "K2WK4GKr3U1S2aAKdGKfWK12WK4kWK"]⟩,
  ⟨["SC", "SContinue"], ["1MCMB19CB5OCfKB40JBFB20KC3vMB1jgOCBBzCzCDBCBKB5ICMB2JB"]⟩,
  ⟨["SE", "Sep"], ["4FB7tCC"]⟩,
  ⟨["SP", "Sp"], ["JBBCTB3/B5e/B2b/L1EB1PB3tAB"]⟩,
  ⟨["ST", "STerm"], [
    "1BBzB1aJB4TD5UB1LD7WB1zBBBDC9FC1nECoWBECoFB6GC6MBFB9wCbCE5OCCCzC5yC2BCtyCJD3fEBNBWCdNBt",
    "7yB8OC7DBDBb+C2WC2/B4YC4TD4QC7ZBkjKC5JBzB2BB2nUC17zF1ME5zC3VE3/D4BCGBQC2YCBC3MBdBCbVCFP",
    "3JC7ZDgFBBB7xC2XCdEClUC2KCipJC4FB2BCLBqTBjgGB7fIB"]⟩,
  ⟨["UP", "Upper"], [
    "2Bw3FXBH1BBBBBBBBBBBBBBBBBBBBBBBBBBBBBBBBBBBBBBBBBBBBBBBBBBBBBBBBCBBBBBBBBBBBBBBBCBBBBB",
    "BBBBBBBBBBBBBBBBBBBBBBBBBBBBBBBBBBBBBBBBBCBBBBDCBBBCBDCEBCBDDCBCBBBBBCBBCBBCBDBBBCDBHCB",
    "CBCBBBBBBBBBBBBBBBBCBBBBBBBBBBBBBBBBBCCBBBDBBBBBBBBBBBBBBBBBBBBBBBBBBBBBBBBBBBBBBBBBBBB",
    "BBBBBBBBBBBBBBHCBCCBBEBBBBBBBB9BBBBDBIBGBBDBBBCBRBJ1DBCDDBBBBBBBBBBBBBBBBBBBBBBBFBCBBCC",
    "1T1QBBBBBBBBBBBBBBBBBBBBBBBBBBBBBBBBBJBBBBBBBBBBBBBBBBBBBBBBBBBBBBBBBBBBBBBBBBBBBBBBBBB",
    "BBBBBCBBBBBBBBBBBBCBBBBBBBBBBBBBBBBBBBBBBBBBBBBBBBBBBBBBBBBBBBBBBBBBBBBBBBBBBBBBBBBBBBB",
    "BBBBBBBBBBBBBBBBBBBBBBBBBBBC1G2qJ1GBBFBmS2W2gKBBBBBBBBBBBBBBBBBBBBBBBBBBBBBBBBBBBBBBBBB",
    "BBBBBBBBBBBBBBBBBBBBBBBBBBBBBBBBBBBBBBBBBBBBBBBBBBBBBBBBBBBBBBBBBBBBBBBBBBBBBBBBBBBBBBB",
    "BBBBBBBBBBBBBBBBBBBBBJBBBBBBBBBBBBBBBBBBBBBBBBBBBBBBBBBBBBBBBBBBBBBBBBBBBBBBBBBBBBBBBBB",
    "BBBBBBBBBBBBBBBBBBBBBBBBBBBBBBBBJIIGKIIIIGLBBBBBBBIIYIIIIIIFLFLEMFLF8FBEBDDCDCBDFGBBBBB",
    "BECEKCFBwQTBpSw1pQ1Q1QBBDCBBBBBBEBBCBIDBBBBBBBBBBBBBBBBBBBBBBBBBBBBBBBBBBBBBBBBBBBBBBBB",
    "BBBBBBBBBBBBBBBBBBBBBBBBBBBBBBBBBBBBBBBBBBBBBBBBBBIBBBEBuaNBBBBBBBBBBBBBBBBBBBBBBBBBBBB",
    "BBBBBBBBBBBBBBBBBTBBBBBBBBBBBBBBBBBBBBBBBBBBB4HBBBBBBBBBBBBBDBBBBBBBBBBBBBBBBBBBBBBBBBB",
    "BBBBBBBBBBBBBBBBBBBBBBBBBBBBBBBBBBBKBBBBCBBBBBBBBEBBBCBBBDBBBBBBBBBBBBBBBBBBBBFBFBBBBBB",
    "BBBBBBBBBEBBGBFBBByBlpLw16F1I4I1E4yLBPBHBC1nK1T2vN1AlcA1ApdAwwwwwwBBCCBCCCEBIwwwCBECIBH",
    "xCBEBFBBDHxwwwwwwwwwww+Z1BZ1BZ1BZ1BZ1BB49V1C20OwGwGw"]⟩,
  ⟨["XX", "Other"], [
    "AJFSDEDCDBLEBBxBBDxBBHBwBJCBBHBECEXB/BeKEMOFHBBBR3VBCCEBBGBBDBBBUB2TB4LB5NB1GCBDBC1KH1N",
    "BBBCBCBBIxEFMGGCCLB2OBCB3QBKBTCEM1yC3FO1WCDCBC1OJBBBDCByELFYBGBCG6YBTBICCCWBHBBDECJCCCE",
    "IBECBFCMKBBBCDBGECCWBHBCBCBCCBBFECCDDBHEBBHQLDBJBDBWBHBCBFCKBDBDCBPECKJHBDBICCCWBHBCBFC",
    "JCCCDHDECBFCKBBQCBGDDBEDCBBBCDCDDDMEFDDBECBGBOKQNBDBXBQCJBDBEHCBDCBCECKQEBIBDBXBKBFCJBD",
    "BEHCGCBECKBDMNBDB1TBDBFFEHFCKKGBDBSDYBJBBCHDBEGBBBIGKCCN1wFPBK1HCBBBFBYBBBXCFBBBHBKCE1A",
    "BXCGKLBBBBPB1EEUBSB1EJB1Z2ME2OC1GBBFBC1LBaNBECHBBBEC1JBEC1BBECHBBBECPB1ZBEC2DCDCBECXQQ2",
    "WCGDjMB1PD2LDLHWJYJUMNBDBCM2UDBECCKYCECBPG2ZH1LF2GK/BMEMI1KCFL1MEwGK1GyE1/BzCLGKNFE/1R2",
    "NDMCCLJJCB3UM1YDCDKD1yH1LCDQDB1HFgWCGC1GCGCIBBBBBBB/C1VBHBBDDBHDECGENFDBHDQDCDIEBDIJCBC",
    "HFVGBKBBLDNCBN1T1BRBEBCKBBDFGBBBBBBEBLCEFFEBR1Jb/EzCcL1UjRGHO2PC/KcTW1/E1ACgC7FGJM1GBBF",
    "BC1YHBPYJHBHBHBHBHBHBHBHB1OOCCKECMBFBQKdDDCNCIBDBPBFCFE2WCCCDB2wBEF1LB2+R1A1QQgA6eA2Alk",
    "N2D1OB8OB+U1TBKB3TBBDB/JC3HC2AFCBBBFY1WEBT1UCCI2GIMGYDBB1RB1FMzD2BHCFLG/B1XJOCKDwD2JYDC",
    "XKGCGCGJHBHB1LBOG3+CKGatEMXE1R88EbOC3K1GHMFFMBNBFBBBCBCB3M1BbNQ2AC1W1IMESBBDCHQBCCQCCHD",
    "CKEBMFB4HCBBBGCCDBLEBBxBBDxBBBGB2ZDGCGCGCDyDEMBwBTBCBPCO1C3x2F1V4IB4CzD1RPB/1AN+F1LF+C1",
    "EEIBF1K4+CKG1EE1EE1II1UMLBPBHBCBLBPBHBC2D9XJWKIYGB1KBJ2FGCBB1MBCDBCXKXJ/2BTBCKWKw2G1YGC",
    "2AEBCFIBDBzCDEBWCIzDz1DIB+Z1WKWKTNS3O2J1X1TN1TN1IIKaG1KBCDC2L1AKBI1BEFWw1GVxXJ2JzQJ1yCG",
    "KBCZHKG1VBKBHI1ECBJ2HCSBBBC1ASB1HBCBE1+HBBBEBPBLG1xFKGEBICCCWBHBCBFBKCCCDCBGBFHCHDF4L2N",
    "DKEE+2GBBIK5G1WCJBCFV1C2DBBLK1G1ZHK1WxCPEKCDBH5Z1x3F2KVICBCIBCB+BCCKBBJK2GIC1OCIBCx1/DC",
    "DBI2KBDS2J8HJB1NBLNKY+CWBO2JHBCB1MDBBCBJIKGGBCB1FBCBGHK9WZHRB1JDHLK2WB2Psw3G3PR6E2iM3BP",
    "12W3tKiH8dZhZH/BKE2RBKG+CGK1ZHFLKJVFTlQ2AYB3H2LE1ZHR2ACBCLCO5vYI16W1KJ8nHEBHBCB9DPBzDCB",
    "OEIcM28E3LFNDJHKDH4iy1OCXg+FDWCH+E4UDdx2VB2HBCCBCCCEBMBBBHB2BBECIBHByBEBFBBDHBaUCZBZB/B",
    "ZB/BZB/BZB/BZBIC1SgA1XE1SIBOBDBSFBP12Q/GG6VHBRCHBCBFF1+1BB3Q1NDOCKEBaB/R1weW1KnGHBEBCBP",
    "B6FLH1J2MEK15GEBxBCBBCBBKBEBBBBGBEBBBBBBDBCBBCBBBBBBBBBBCBBCEBHBEBEBBBKBRFDBFBRjUwGwGw1",
    "7MD1bXK10G19nA1A41wG6+C5kCO79R30/g+1fC4qLF43Aln2RB+3A4A7Q"]⟩]

end AppDef.Unicode
