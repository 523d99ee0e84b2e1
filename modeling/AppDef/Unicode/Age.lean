import AppDef.Unicode.Range

namespace AppDef.Unicode

/-- The version in which each character was assigned. The versions stand in order. -/
def ages : List Property := [
  ⟨["1.1", "V1_1"], [
    "AfWE+1Y2ZH1PBKW2GwCSCEBDBFHBBBUB1MBHDBBBBBBBBSNMB2CBMB1JJ1VCCCCDyCICC1X1GCHB1HBB1GKBJMx",
    "FFXBOBDBBwFTNOC2ICFBPB+CKgHDB1VCSCFDZQDBICCCWBHBBDECBBHCCCDJBECBFCVHBCGECCWBHBCBCBCCBBF",
    "ECCDLEBBHPMDBHBBBDBWBHBCBFCKBDBDCBPBFKRDBICCCWBHBCCECIDCCDICECBDELRCBGDDBEDCBBBCDCDDDIB",
    "DEFDDBEJBPMODBIBDBXBKBFEHBDBEHCJCEKSCBIBDBXBKBFEHBDBEHCHBBCEKSCBIBDBXBQEGCDBEJBICEK4R1w",
    "Ez1FCBBCCBBCBGEBHBDBBBBCCBNBDCFBBBGCKCCeC1GK1HEBE2wF2EF2S30G4xF2wGWCGC1GCGCIBBBBBBB/C1V",
    "BPBOCGBTCDBJB1PBX1DHDxRL1FS+1Zw1QN2xV7SOBB3Z4F1FxLV4LV4WK2QQUG2W4REBECyB1DBBBEDBBHCHO/D",
    "YBO22B1YHBB2UEGC2+G1IE2+BQ3AzD1EyyD1SPME1PB3XE3DC/6gBkdGg2w6hO6SHMFGZBFBBBCBCB3M1BbNQ2A",
    "C1W1IM1EEMVEKBTBEEDBBB4HCBB2+C2+DGCGCGCDDHBHOD"]⟩,
  ⟨["2.0", "V2_0"], [
    "1cRRBNUB29x2IB1BHxEGBBBVDHBB3nBBgPB12qUatE2y20A27v+C1vv+C1vv+C1vv+C1vv+C1vv+C1vv+C1vv+C",
    "1vv+C1vv+C1vv+C1vv+C1vv+C1vv+400C"]⟩,
  ⟨["2.1", "V2_1"], ["85MB1nqPB"]⟩,
  ⟨["3.0", "V3_0"], [
    "fWE+ICS3VF1RBKF2XJTB3UBDBBBBBBB+BMB2CBMB1KCCE2yC4yB6ID3CCFBPB1KFBOB+Dx1V1R1eRCBSDYBJBBC",
    "HDBEGBBBISDbVB1LBXDHBBDBPCB1Q1CBFBCBHDEGwdGHB1/BBBECHBBBEC1HBBBEC/BBBECHBBBECHBHBXB/BBB",
    "ECHB1HBTGy1D2VMjWJzD2R4P2zDKWPBKG2YI1K1sFBYG2/D1SC2VC2IB3HJ8NB3ZBB+4KCeJI1BB2WCcO8A1cAw",
    "B2ZM6WwM1yDDBbBYiI6dWkiK14NDSCQBMBDBBliWB16xD"]⟩,
  ⟨["3.1", "V3_1"], [
    "vUC1uew1A18Q/BEMx5V1GC1G1itS7WK1HD5UhC2VB2HBCCBCCCEBMBBBEBCB2BBECIBHByBEBFBBDHBaSE9CE1S",
    "a0A19mXk9Jg+m1fDB+3A"]⟩,
  ⟨["3.2", "V3_2"], [
    "hAB9OBTN3ICyB4TC1ZCCCCC1RQa+CaBB2aFC1gHNBHLXJUMNBDBC26TBGFEBHFNB1+C1SH2SP5IM7SO3yB+1U8y",
    "U4XK2YIWC2wMCK6+O2wyEQ8AgA19xD2XCIC2+B7QQ2RP2RPsfCCQBMBDBlbK1xsRBDQ1VC1MB7LC"]⟩,
  ⟨["4.0", "V4_0"], [
    "hBBSD3XC1/R2QIFD4XFgEEJJ2AD4VCPB1NDzDdUB5YB2DBBB4IB2UDNB2DB1xB4BI6BC2o/BSK8GzDMEMEBD1KC",
    "F3L1AoA3MnHC7GBkTC9OB8UC3UIOC12+O1oPC1RB1LC2OE5HE3DC/B6eA2A1bvzB2JCdXMBwBTBCBPCO1C3xFDE",
    "1NDJiA+BB4GC1G2QCKqWGCBB1MBCDBCB1imA2XbKBob1+7Q"]⟩,
  ⟨["4.1", "V4_1"], [
    "hXL8WF4/E7WC5KB1CD2DBSB1wG7R+gPB2QBfHB1PBvJC9HCBB8KB1/B1/B1HB/B/B/BPB1HBXC/w1fG1KGwGKEC",
    "1AyCCqM2YkRCBH1RFzE1VB2QBPBkELhyB3FCSLFQ8OHqHG7M1PB1P1B3LO1NK1WJBQXJHBHBHBHBHBHBHBH1BYE",
    "CtCQ5OBr9HW1qEX7J1MkiE3KpWKpG2LgV1EEO1hKEBCFIBDBxEDEJIJ1htH2G12+C"]⟩,
  ⟨["5.0", "V5_0"], [
    "iCO9LDaRB1KGQE5GBgF1xcACBCrCCNC3gN2ME1NiHH1TCnME2zC1VBiXMmKB8UEqJHFE9yNHEuk/EFC8+1Yo4Iw",
    "FB5nArP4R3DNE1bnMS12YC"]⟩,
  ⟨["5.1", "V5_1"], [
    "rQECC2XB5XB4MQ7CFLF1AF9OSfRC6+B1DB6OBzC3MB3MBwCICUI5zBGBzCMGDHfLC3BBDD2NBFBCBHDEGw2AEC2",
    "0KBmV1LDM2G1YDPD1TaLy5VE2wGbEB4LB2+B1VE18UBVKDE8IB/EpLFE1JDF8YDBDEGbC1AYECTnyB5CUreYI19",
    "y9MU1ACSIy4DFC3L3OF4A2FJM1G2ULB5A1XJOCKCEkuEDrJM1U1O4CzD1R1iPwFB1hvJB7mW1ME3E"]⟩,
  ⟨["5.2", "V5_2"], [
    "19ECmw1OCP6BB2NBGB1DC4AB1eZE6BE5yF2EF2SGgABjWJhQ2G5UC1OB2F1/BzCLGKGOhC1D8KBlYD4XD1WBi+B",
    "lVCzDEKBTBBEY2XBvzF8WBNC3LH9/B10SMrbUI18E1QdA2Y9YK5Gy3EzD2OBLEC4AyE2DYF7A1OCKatWXE1R8jP",
    "D3eSWBJ5wCaE1A4A1WDzCxFI4A2JgX/gB2C7p+11P1f6RLF/CBLBBBCBDBDFIBHBZBBCCBKECB3PBP1COJ1d5X4",
    "1V"]⟩,
  ⟨["6.0", "V6_0"], [
    "19GC7YB1+BfAyCB6xCTBGCxFfwGdRBQBTBhzE2JCsCC23B1UIEfyBkYIyBpPLmwBTBBEzBECyB1DBBBEDJC1UDY",
    "BOBOC1dABOB11YDt5FC9LCBCOK2QBoGGCGCGJHBHk4DQ51+2OE+lsQhZheHCg4+PCOCPBP2QBBLBBBCBDBDFIBH",
    "BKGJBBCCBKECBK2LwBC1PJVC5O1BPGB2GDUM1FBFVRP1/BBB5WBED1+SY4TFBQBDBBBBBBBDBGCEBBCEBMEL1Q2",
    "G1w3U1fuM6+"]⟩,
  ⟨["6.1", "V6_1"], [
    "1cPB3UBkxBBL1XxfRBvNCfHBFB1PD2lLDMG8AI1LE2mUBBB19EC1TBFB1YC6KKscQB1lHI1DB7SCWB2NCnGXjpX",
    "C3qQ1YGC1oQZHKG1VBO1y2JHK15G1YIKm1W2FL1PQRvjAEBxBCBBCBBKBEBBBBGBEBBBBBBDBCBBCBBBBBBBBBB",
    "CBBCEBHBEBEBBBKBRFDBFBR1UCjYCuUE5yBQBDBBBBBBBDBGCEBBCEB"]⟩,
  ⟨["6.2", "V6_2"], ["85wB"]⟩,
  ⟨["6.3", "V6_3"], ["1gyB6iJE"]⟩,
  ⟨["7.0", "V7_0"], [
    "r/BdII2zC3WBkxBLG2MB3YBHBj/B1TB2MB3/B7EK28BIhECcRPhZC7NPmFDpWHoFB12MDKwC1AC1CDMBIjKHu2V",
    "G7WMLDCC2FBfI/3zE5Q1QECkmBHqzCTB9/y1DB1Q1LcF1II1ULB4Q9XJWKI7Y1/IJeQ1A1A1HEM4JSHEMH16PB6",
    "Q1H2WBMBGULSB1L3S1xFKHDBICCCWBHBCBFCJCCCDJBFHCHDF8L2IIK5G1WCS1W2FLKiG2TMBeA1Z23W1K6KMFB",
    "heL/BKEC3A+CGK2GKKBHBVFTk3Q3LFNDJHKCIaqy6FCQ1vIB1AWVCgUMJB2GBWM1FBFEFMRH2HBBB5WBEC1/CEH",
    "zSB1JB2W2GCN1Q2GKQNDE4M2V1LME1YIKG1II+"]⟩,
  ⟨["8.0", "V8_0"], [
    "25TC1OBgVBbAB8EB1kVBCG36AB6LC2jAEsuzJ1mIB7QB1CGaECjCEM2QkjOC2lQTBCFF5yCCQC1OkA1TN1THG16",
    "JEOF5AHBBBEBPBL2WB2PBjZU9CwDPEQ32ZB7G6E7lyiH12sXL1gXkMPFBP63zD2OC2PF1EI7/B2LF7TC4LBh/J3",
    "HF1xB1fi/5kC"]⟩,
  ⟨["9.0", "V9_0"], [
    "25WIWPszB6OBEDBHXD3oHJbSB1f/E2iECubJB8WBm6HCpB1EE1E3aCBeB2wBBBBgCN1cTJB1NBOKzD1ACWBOkpJ",
    "B/5vNTnTl8NHBRCHBCBF26V2LFKEC21xS4OBp+B1JB9MC1BDhCGBIIBCMBMEP1GN"]⟩,
  ⟨["10.0", "V10_0"], [
    "23ALcRC7yGgAB1wC3twB7+EmFBp/B1uSBjSFnEBrlHVoqCD5mQ2II1UCXBFizHBCB1MDBBCBJIKkkHBg1A8z2Rc",
    "MfrEG13NC1CCgHMTBIIBCZBSN1GG1YX1l6J79R"]⟩,
  ⟨["11.0", "V11_0"], [
    "1bAB1HB3GBgND6TB9KB3XBcNB3/B2vTB10X1LCD3nwDWZEPiLFnABrlxF1t/BICaECo9UCSBlX1IIKeG1II1KbT",
    "B3WDfUB9CBlxB7F1yjBBmCGBCB1FBCBGHK9WZjqH2x6aSFinOU3+H67Y2E13wB1eJB6xEbUDyFCEDBBEYLNKHC1",
    "EZ3AO"]⟩,
  ⟨["12.0", "V12_0"], [
    "33XBgOBCBCBBGEBHBHCCBNB3h/B3mOB1VBiPBubKGCFs/Cp3YX13IBiYBnHIC1OCL4/C19w1SNB51QJeoMGEB1P",
    "J2wC60OGaaYDREbsY1NDOCKECbQ1wFB1iLBtV1z11OB1bIB1EB7FM9BD1PB1RBJB1JGDCKGDICD1Q2UyEEDFDNG"]⟩,
  ⟨["12.1", "V12_1"], ["cn/B"]⟩,
  ⟨["13.0", "V13_0"], [
    "25+KkNBdOB3yB39zC46WBlYDrIF6vWKkhQN1uKE1KC1VBpxElhQB37D1KBDCC7+ybxB4GCkKBFC14+HCBCIBCB+",
    "BCCMJK1iWBk1TBLC6oBfD1KJp0ED2zD1zB19IC1DCdTC2wB3FBEC1KCGDzB5IBOEPTHHJDNH1J4TB1X1FK1amzH",
    "m9C4qL"]⟩,
  ⟨["14.0", "V14_0"], [
    "1gzBiS/BCGIVBSLrJB1AB3/B2hPBHBJB7PBlRO3zB1QCjxBmFB2rOB1PBfTLsc/D1uACOCBBBFYDkuNBbzQ3/B1",
    "OC1rQLBPBHBCBLBPBHBCeDGB1KBJ1tVw7GG2MB1fWB4GHrJQ56Q3Dejz2PBKh9GEBHBC9AE7ez1OCXJ3UhFC38V",
    "/rR/19RHBEBCBP3m+D8QBcIB2SB5OC1MEKEIDRDGIIH1avHC42VE"]⟩,
  ⟨["15.0", "V15_0"], [
    "37TBewB201ODp/D25+KvWRB1JDy56VBJzv6yB1CB8bKU32RG8F1+1BB12A1K4fCB4XDEF2ZBkxDPC1EDLDBBOCK",
    "CMBOC1f2ABn0W43A"]⟩]

end AppDef.Unicode
