import AppDef.Unicode.Range

namespace AppDef.Unicode

/-- The script that each character belongs to. -/
def scripts : List Property := [
  ⟨["Adlm", "Adlam"], ["3q8A2MEKEC"]⟩,
  ⟨["Aghb", "Caucasian_Albanian"], ["219Q1ULB"]⟩,
  ⟨["Ahom"], ["25oAxCPEX"]⟩,
  ⟨["Arab", "Arabic"], [
    "1gAFBGBOBDB1ABKLwB3MB1C2Q1Q7Q/BCG2KBz1siQ3TQbLC2QC1WHB1AQ3QFB4H3rD/3+D1noAEBxBCBBCBBKBE",
    "BBBBGBEBBBBBBDBCBBCBBBBBBBBBBCBBCEBHBEBEBBBKBRFDBFBR1UC"]⟩,
  ⟨["Armi", "Imperial_Aramaic"], ["222AWBJ"]⟩,
  ⟨["Armn", "Armenian"], ["19R1GC1SCD1tcDF"]⟩,
  ⟨["Avst", "Avestan"], ["22oA1WDH"]⟩,
  ⟨["Bali", "Balinese"], ["6oA2ND1P"]⟩,
  ⟨["Bamu", "Bamum"], ["19lA2Y1g8IhZ"]⟩,
  ⟨["Bass", "Bassa_Vah"], ["2qmQ+CG"]⟩,
  ⟨["Batk", "Batak"], ["6uA1UIE"]⟩,
  ⟨["Beng", "Bengali"], ["2cAEBICCCWBHBBDECJCCCEIBECBFCZ"]⟩,
  ⟨["Bhks", "Bhaiksuki"], ["270AJB1NBOKz"]⟩,
  ⟨["Bopo", "Bopomofo"], ["nKCbgZ1L3Q1A"]⟩,
  ⟨["Brah", "Brahmi"], ["240A2OE1EJB"]⟩,
  ⟨["Brai", "Braille"], ["a0A8A"]⟩,
  ⟨["Bugi", "Buginese"], ["6gAyCC"]⟩,
  ⟨["Buhd", "Buhid"], ["5qAU"]⟩,
  ⟨["Cakm", "Chakma"], ["248A1VBS"]⟩,
  ⟨["Cans", "Canadian_Aboriginal"], ["50AkAhQ2G20dwQ"]⟩,
  ⟨["Cari", "Carian"], ["20lA1R"]⟩,
  ⟨["Cham"], ["1agA1XJOCKCE"]⟩,
  ⟨["Cher", "Cherokee"], ["4tA2WCG15rS2Q"]⟩,
  ⟨["Chrs", "Chorasmian"], ["23tQy"]⟩,
  ⟨["Copt", "Coptic", "Qaac"], ["vCOa4Q3UFH"]⟩,
  ⟨["Cpmn", "Cypro_Minoan"], ["2bsQ3D"]⟩,
  ⟨["Cprt", "Cypriot"], ["220AGCBB1MBCDBCB"]⟩,
  ⟨["Cyrl", "Cyrillic"], ["10A4FC5J5qQJ5CB2MB43H1Au2A3AlsOC1ogA1+1BB"]⟩,
  ⟨["Deva", "Devanagari"], ["28A2REPCw17rA1AsgAK"]⟩,
  ⟨["Diak", "Dives_Akuru"], ["268AHCBCIBCB+BCCMJK"]⟩,
  ⟨["Dogr", "Dogra"], ["260A1y"]⟩,
  ⟨["Dsrt", "Deseret"], ["210A2Q"]⟩,
  ⟨["Dupl", "Duployan"], ["3f0A3LFNDJHKCE"]⟩,
  ⟨["Egyp", "Egyptian_Hieroglyphs"], ["2c0A12W"]⟩,
  ⟨["Elba", "Elbasan"], ["218A1I"]⟩,
  ⟨["Elym", "Elymaic"], ["23vAX"]⟩,
  ⟨["Ethi", "Ethiopic"], [
    "4gA2JBECHBBBEC1JBEC1BBECHBBBECPB1ZBEC2DC1ADw6fGXJHBHBHBHBHBHBHBHv9CGCGCGJHBH2f5RHBEBCBP"]⟩,
  ⟨["Geor", "Georgian"], ["45A1GBBFBC1LBE2sQ1LCD42A1GBBFB"]⟩,
  ⟨["Glag", "Glagolitic"], ["b0A3A3ctAHBRCHBCBF"]⟩,
  ⟨["Gong", "Gunjala_Gondi"], ["27bAGBCB1FBCBGHK"]⟩,
  ⟨["Gonm", "Masaram_Gondi"], ["278AHBCB1MDBBCBJIK"]⟩,
  ⟨["Goth", "Gothic"], ["20pQx"]⟩,
  ⟨["Gran", "Grantha"], ["24oAEBICCCWBHBCBFCJCCCDCBGBFHCHDF"]⟩,
  ⟨["Grek", "Greek"], [
    "rQEBDCEBBEBBBBDBBBUB1/OQ69GF1SFEF2UBaAWCGC1GCGCIBBBBBBB/C1VBPBOCGBTCDBJ9HB12h+Blew2PRB1",
    "k2/2G"]⟩,
  ⟨["Gujr", "Gujarati"], ["2kBDBJBDBWBHBCBFCKBDBDCBPECMHH"]⟩,
  ⟨["Guru", "Gurmukhi"], ["2gBDBGECCWBHBCBCBCCBBFECCDDBHEBBHR"]⟩,
  ⟨["Hang", "Hangul"], ["48A8A7hOC8B2+3R/2B/tnBzkDatEMXE1R9tE/DGCGCGCD"]⟩,
  ⟨["Hani", "Han"], [
    "bkAwB2ZM6W1PBBBZJOEuE6eA2AkgAm8AbOC3Kt8ICMC140O19nA1A41wG6+C5kCO79R30/g+1fC4qLF43A"]⟩,
  ⟨["Hano", "Hanunoo"], ["5pAV"]⟩,
  ⟨["Hatr", "Hatran"], ["227ATBCFF"]⟩,
  ⟨["Hebr", "Hebrew"], ["1cR1XIxEG1t9IwBFBBBCBCBK"]⟩,
  ⟨["Hira", "Hiragana"], ["c2B2WGD2vrB8/SBzDg5NB"]⟩,
  ⟨["Hluw", "Anatolian_Hieroglyphs"], ["2h0AiH"]⟩,
  ⟨["Hmng", "Pahawh_Hmong"], ["2qoA2GKKBHBVFT"]⟩,
  ⟨["Hmnp", "Nyiakeng_Puachue_Hmong"], ["3o8A1NDOCKEC"]⟩,
  ⟨[], [""]⟩,
  ⟨["Hung", "Old_Hungarian"], ["234A1TN1THG"]⟩,
  ⟨["Ital", "Old_Italic"], ["20oA1EJD"]⟩,
  ⟨["Java", "Javanese"], ["1acA2OCKEC"]⟩,
  ⟨["Kali", "Kayah_Li"], ["1a8A1OBB"]⟩,
  ⟨["Kana", "Katakana"], ["c5B2wCD7QQ6Q1PB2Y1j0OKB1N1c2SEBHBCBB8/D1SBOE"]⟩,
  ⟨["Kawi"], ["27oARB1JDy"]⟩,
  ⟨["Khar", "Kharoshthi"], ["22gAEBCFIBDBzCDEKHJ"]⟩,
  ⟨["Khmr", "Khmer"], ["5sA2+CKGKfG1A"]⟩,
  ⟨["Khoj", "Khojki"], ["24gASB1P"]⟩,
  ⟨["Kits", "Khitan_Small_Script"], ["2rvEB6oxeW"]⟩,
  ⟨["Knda", "Kannada"], ["34ANBDBXBKBFCJBDBEHCGCBECKBD"]⟩,
  ⟨["Kthi", "Kaithi"], ["244A2DKB"]⟩,
  ⟨["Lana", "Tai_Tham"], ["6hA1/BzCLGKGO"]⟩,
  ⟨["Laoo", "Lao"], ["3kBCBBBFBYBBBXCFBBBHBKCE"]⟩,
  ⟨["Latn", "Latin"], [
    "2BwGw1PBPBFXB/BeB1HF6gx1GG1RFEFNB2G2B8AbRBNBQN4NCGBxBR1J2mX1AulC3GD2AFCBBBFYOpQ1LBJBEjs",
    "WH10wwGw21FGB1KBJ1lqF/GG"]⟩,
  ⟨["Lepc", "Lepcha"], ["70A1YDPDD"]⟩,
  ⟨["Limb", "Limbu"], ["68A/BMEMEBDM"]⟩,
  ⟨["Lina", "Linear_A"], ["21gA9XJWKI"]⟩,
  ⟨["Linb", "Linear_B"], ["200AMBwBTBCBPCO1C3x"]⟩,
  ⟨["Lisu"], ["196Q1QulQB"]⟩,
  ⟨["Lyci", "Lycian"], ["20kAz"]⟩,
  ⟨["Lydi", "Lydian"], ["229AwFB"]⟩,
  ⟨["Mahj", "Mahajani"], ["24aQ1H"]⟩,
  ⟨["Maka", "Makasar"], ["27nAZ"]⟩,
  ⟨["Mand", "Mandaic"], ["22AyCB"]⟩,
  ⟨["Mani", "Manichaean"], ["22mA1HEM"]⟩,
  ⟨["Marc", "Marchen"], ["273Q1ACWBO"]⟩,
  ⟨["Medf", "Medefaidrin"], ["2riA2x"]⟩,
  ⟨["Mend", "Mende_Kikakui"], ["3q0A6FCQ"]⟩,
  ⟨["Merc", "Meroitic_Cursive"], ["22dAYEUC1O"]⟩,
  ⟨["Mero", "Meroitic_Hieroglyphs"], ["22cA1A"]⟩,
  ⟨["Mlym", "Malayalam"], ["38ANBDB1TBDBGEQCw"]⟩,
  ⟨["Modi"], ["25gA2FLK"]⟩,
  ⟨["Mong", "Mongolian"], ["60ACCBBUG2ZH1L1vdVN"]⟩,
  ⟨["Mroo", "Mro"], ["2qiA/BKEC"]⟩,
  ⟨["Mtei", "Meetei_Mayek"], ["1anAX6J1OCK"]⟩,
  ⟨["Mult", "Multani"], ["24kAHBBBEBPBL"]⟩,
  ⟨["Mymr", "Myanmar"], ["40A5A16aA/3B1A"]⟩,
  ⟨["Nagm", "Nag_Mundari"], ["3p6Q1K"]⟩,
  ⟨["Nand", "Nandinagari"], ["26dAIC1OCL"]⟩,
  ⟨["Narb", "Old_North_Arabian"], ["22kA1A"]⟩,
  ⟨["Nbat", "Nabataean"], ["224A/IJ"]⟩,
  ⟨["Newa"], ["250A2yBF"]⟩,
  ⟨["Nkoo", "Nko"], ["1uA1xCD"]⟩,
  ⟨["Nshu", "Nushu"], ["2rvBBgcOcM"]⟩,
  ⟨["Ogam", "Ogham"], ["5kAz"]⟩,
  ⟨["Olck", "Ol_Chiki"], ["72Q1Q"]⟩,
  ⟨["Orkh", "Old_Turkic"], ["230A2J"]⟩,
  ⟨["Orya", "Oriya"], ["2oBDBICCCWBHBCBFCJCCCDHDECBFCS"]⟩,
  ⟨["Osge", "Osage"], ["215Q1EE1E"]⟩,
  ⟨["Osma", "Osmanya"], ["214A+CK"]⟩,
  ⟨["Ougr", "Old_Uyghur"], ["23rQw"]⟩,
  ⟨["Palm", "Palmyrene"], ["223A1A"]⟩,
  ⟨["Pauc", "Pau_Cin_Hau"], ["26mA1Z"]⟩,
  ⟨["Perm", "Old_Permic"], ["20qQ1L"]⟩,
  ⟨["Phag", "Phags_Pa"], ["1a2A1Y"]⟩,
  ⟨["Phli", "Inscriptional_Pahlavi"], ["22rATFI"]⟩,
  ⟨["Phlp", "Psalter_Pahlavi"], ["22sASHEMH"]⟩,
  ⟨["Phnx", "Phoenician"], ["228AyDB"]⟩,
  ⟨["Plrd", "Miao"], ["2roA2LE1ZHR"]⟩,
  ⟨["Prti", "Inscriptional_Parthian"], ["22qAWCI"]⟩,
  ⟨["Rjng", "Rejang"], ["1a9Q1ELB"]⟩,
  ⟨["Rohg", "Hanifi_Rohingya"], ["238A1IIK"]⟩,
  ⟨["Runr", "Runic"], ["5lA2LDL"]⟩,
  ⟨["Samr", "Samaritan"], ["20A1OCP"]⟩,
  ⟨["Sarb", "Old_South_Arabian"], ["22jA1A"]⟩,
  ⟨["Saur", "Saurashtra"], ["1a4A2GIM"]⟩,
  ⟨["Sgnw", "SignWriting"], ["3m0AkMPFBP"]⟩,
  ⟨["Shaw", "Shavian"], ["212Q1Q"]⟩,
  ⟨["Shrd", "Sharada"], ["24cA3A"]⟩,
  ⟨["Sidd", "Siddham"], ["25cA1WC1G"]⟩,
  ⟨["Sind", "Khudawadi"], ["24lQ1xFK"]⟩,
  ⟨["Sinh", "Sinhala"], ["3cBDBSDYBJBBCHDBEGBBBIGKCD20vMU"]⟩,
  ⟨["Sogd", "Sogdian"], ["23pQ1K"]⟩,
  ⟨["Sogo", "Old_Sogdian"], ["23oA1I"]⟩,
  ⟨["Sora", "Sora_Sompeng"], ["246QZHK"]⟩,
  ⟨["Soyo", "Soyombo"], ["26iQ2T"]⟩,
  ⟨["Sund", "Sundanese"], ["6sA2A8AI"]⟩,
  ⟨["Sylo", "Syloti_Nagri"], ["1a0A1N"]⟩,
  ⟨["Syrc", "Syriac"], ["1oAOB1yCD8QL"]⟩,
  ⟨["Tagb", "Tagbanwa"], ["5rANBDBC"]⟩,
  ⟨["Takr", "Takri"], ["25kA1wGK"]⟩,
  ⟨["Tale", "Tai_Le"], ["6aQ+CF"]⟩,
  ⟨["Talu", "New_Tai_Lue"], ["6cA1MEwGLDC"]⟩,
  ⟨["Taml", "Tamil"], ["2sCCBGDDBEDCBBBCDCDDDMEFDDBECBGBOV24uF1SNB"]⟩,
  ⟨["Tang", "Tangut"], ["2rvAB/5vYIoAgAJ"]⟩,
  ⟨["Tavt", "Tai_Viet"], ["1akA2DYF"]⟩,
  ⟨["Telu", "Telugu"], ["30ANBDBXBQCJBDBEHCBDCBCECKHJ"]⟩,
  ⟨["Tfng", "Tifinagh"], ["b9Q1YHCOB"]⟩,
  ⟨["Tglg", "Tagalog"], ["5oAWJB"]⟩,
  ⟨["Thaa", "Thaana"], ["1sA1S"]⟩,
  ⟨["Thai"], ["3gB1wFy"]⟩,
  ⟨["Tibt", "Tibetan"], ["3oA2IB1EE1HB1EBPBHEC"]⟩,
  ⟨["Tirh", "Tirhuta"], ["254A2IIK"]⟩,
  ⟨["Tnsa", "Tangsa"], ["2qjQ2PBK"]⟩,
  ⟨["Toto"], ["3okQ/"]⟩,
  ⟨["Ugar", "Ugaritic"], ["20sA+BB"]⟩,
  ⟨["Vaii", "Vai"], ["198A9M"]⟩,
  ⟨["Vith", "Vithkuqi"], ["21bQLBPBHBCBLBPBHBC"]⟩,
  ⟨["Wara", "Warang_Citi"], ["265A2TMB"]⟩,
  ⟨["Wcho", "Wancho"], ["3omA1wFB"]⟩,
  ⟨["Xpeo", "Old_Persian"], ["20tA1EEO"]⟩,
  ⟨["Xsux", "Cuneiform"], ["280Asw3G3PBFL6E"]⟩,
  ⟨["Yezi", "Yezidi"], ["23kA1KBDCC"]⟩,
  ⟨["Yiii", "Yi"], ["180A14ND1X"]⟩,
  ⟨["Zanb", "Zanabazar_Square"], ["26gA2I"]⟩,
  ⟨["Zinh", "Inherited", "Qaai"], [
    "oA3Q8VCeELwBnAE4ax/gBDBNBHEBGBDC6G2AgMC6C1B3pZE3LC1jbFQQOuPB7CB42wB1euE1OCXhADRICH+Eobq",
    "S7Q"]⟩,
  ⟨["Zyyy", "Common"], [
    "A2BwGw1PBPBFXB/BeB1HFFCU3UBJBGBBBjzBGBOBDB1AB4yBgEB4BC16ZBcVE9CB1fPD2HC6LCBB16NBNBHEBGB",
    "DCBoFMC2XBLDLBPR1B1/1GBDCGBxBR1JDEkXZLVtA8AjUC1AB3JgA2+cSMEFBBBZPIEE2xCDB2wC4TQ1A1E1y2A",
    "/2R1PB2Y5I6eA2Am8A1C3GD5FK7UB5ABcLBOCkeSC6QKW1DBTBE4TBB1AwGwLKB1NC2AHBHKF8CDE1NDJ2QN1T1",
    "N7Ex1edEE4lM3U1y7WK1HC1+DRICH+E1z6VUMUM2XJZ4H2VB2HBCCBCCCEBMBBBHB2BBECIBHByBEBFBBDHBaUC",
    "9EC1S53R2E2M1zmC1ME3EMPCPBPB1FK5O1YwBCN1MEJHCOG4wuYERDND3XE2/GMEBPME1YIKG1II+CC2OaUMOCN",
    "DJH1OBHIOEJHJH4TB1X1FKo10HB+3A"]⟩]

/-- The scripts that each character is used in. -/
def scriptExtensions : List Property := [
  ⟨["Adlm", "Adlam"], ["1g/B1AB3ol/2MEKEC"]⟩,
  ⟨["Aghb", "Caucasian_Albanian"], ["219Q1ULB"]⟩,
  ⟨["Ahom"], ["25oAxCPEX"]⟩,
  ⟨["Arab", "Arabic"], [
    "1gAFB6XB1C2Q1Q7Q/BCG2KBz1siQ3TQdzC1WHB1AQ3QFB4HvDy2rE/3+D1noAEBxBCBBCBBKBEBBBBGBEBBBBBB",
    "DBCBBCBBBBBBBBBBCBBCEBHBEBEBBBKBRFDBFBR1UC"]⟩,
  ⟨["Armi", "Imperial_Aramaic"], ["222AWBJ"]⟩,
  ⟨["Armn", "Armenian"], ["19R1GC1SCD1tcDF"]⟩,
  ⟨["Avst", "Avestan"], ["22oA1WDH"]⟩,
  ⟨["Bali", "Balinese"], ["6oA2ND1P"]⟩,
  ⟨["Bamu", "Bamum"], ["19lA2Y1g8IhZ"]⟩,
  ⟨["Bass", "Bassa_Vah"], ["2qmQ+CG"]⟩,
  ⟨["Batk", "Batak"], ["6uA1UIE"]⟩,
  ⟨["Beng", "Bengali"], ["2aRCRCwEBICCCWBHBBDECJCCCEIBECBFCZ4mRBBBCCBBIBIBCBEBCD12vZB"]⟩,
  ⟨["Bhks", "Bhaiksuki"], ["270AJB1NBOKz"]⟩,
  ⟨["Bopo", "Bopomofo"], ["nKCb8VDEKBNKECBGB6DBJ1L3Q1A1j4FC8wF"]⟩,
  ⟨["Brah", "Brahmi"], ["240A2OE1EJB"]⟩,
  ⟨["Brai", "Braille"], ["a0A8A"]⟩,
  ⟨["Bugi", "Buginese"], ["6gAyCC13tPB"]⟩,
  ⟨["Buhd", "Buhid"], ["5pVCJU"]⟩,
  ⟨["Cakm", "Chakma"], ["2fGK1iQK205W1VBS"]⟩,
  ⟨["Cans", "Canadian_Aboriginal"], ["50AkAhQ2G20dwQ"]⟩,
  ⟨["Cari", "Carian"], ["20lA1R"]⟩,
  ⟨["Cham"], ["1agA1XJOCKCE"]⟩,
  ⟨["Cher", "Cherokee"], ["4tA2WCG15rS2Q"]⟩,
  ⟨["Chrs", "Chorasmian"], ["23tQy"]⟩,
  ⟨["Copt", "Coptic", "Qaac"], ["vCOa4Q3UFH1lfAy"]⟩,
  ⟨["Cpmn", "Cypro_Minoan"], ["208ACbkO3D"]⟩,
  ⟨["Cprt", "Cypriot"], ["208ADE1NDJ1mAGCBB1MBCDBCB"]⟩,
  ⟨["Cyrl", "Cyrillic"], ["10A9Q5qQJ5CB2MB3/B3vH1A2DBtvy3AlsOC1ogA1+1BB"]⟩,
  ⟨["Deva", "Devanagari"], ["28A2TC1L4qQ1HBCvWB11p/K5G1AsgAK"]⟩,
  ⟨["Diak", "Dives_Akuru"], ["268AHCBCIBCB+BCCMJK"]⟩,
  ⟨["Dogr", "Dogra"], ["2bEM17mAKruG1y"]⟩,
  ⟨["Dsrt", "Deseret"], ["210A2Q"]⟩,
  ⟨["Dupl", "Duployan"], ["3f0A3LFNDJHKCI"]⟩,
  ⟨["Egyp", "Egyptian_Hieroglyphs"], ["2c0A12W"]⟩,
  ⟨["Elba", "Elbasan"], ["218A1I"]⟩,
  ⟨["Elym", "Elymaic"], ["23vAX"]⟩,
  ⟨["Ethi", "Ethiopic"], [
    "4gA2JBECHBBBEC1JBEC1BBECHBBBECPB1ZBEC2DC1ADw6fGXJHBHBHBHBHBHBHBHv9CGCGCGJHBH2f5RHBEBCBP"]⟩,
  ⟨["Geor", "Georgian"], ["45A1GBBFBC1Q2sQ1LCD42A1GBBFB"]⟩,
  ⟨["Glag", "Glagolitic"], ["14EBCB9rY3AfDBu1LB2ecQHBRCHBCBF"]⟩,
  ⟨["Gong", "Gunjala_Gondi"], ["2bEC24vwGBCB1FBCBGHK"]⟩,
  ⟨["Gonm", "Masaram_Gondi"], ["2bEC24swHBCB1MDBBCBJIK"]⟩,
  ⟨["Goth", "Gothic"], ["20pQx"]⟩,
  ⟨["Gran", "Grantha"], ["2aRCRCkAO46yBBC+DDCvWB1sgPEBICCCWBHBCBFBKCCCDCBGBFHCHDF32xCBB"]⟩,
  ⟨["Grek", "Greek"], [
    "qCBCB1KEBDCEBBEBBBBDBBBUB1/OQ69GF1SFEF2UD9+WCGC1GCGCIBBBBBBB/C1VBPBOCGBTCDBJ9HB12h+Blew",
    "2PRB1k2/2G"]⟩,
  ⟨["Gujr", "Gujarati"], ["2aRCRC8xDBJBDBWBHBCBFCKBDBDCBPECMHH179QK"]⟩,
  ⟨["Guru", "Gurmukhi"], ["2aRCRC4xDBGECCWBHBCBCBCCBBFECCDDBHEBBHR17dZK"]⟩,
  ⟨["Hang", "Hangul"], ["48A8A7gBDEKBNODGB6DB1V2+3R/2B/tnBzkDatEMXE1R9iJC8wF1w/DGCGCGCD"]⟩,
  ⟨["Hani", "Han"], [
    "bkAwB2ZM6W1LDBNBNBNCBGJ5xB4UQ1A1E1y1I1Y1RPM1TB2YZKF3A/B6eA2AkgA1oAIkfYbOC3KrLC8wFs3yCMC",
    "orOS7m+C3dO19nA1A41wG6+C5kCO79R30/g+1fC4qLF43A"]⟩,
  ⟨["Hano", "Hanunoo"], ["5pAX"]⟩,
  ⟨["Hatr", "Hatran"], ["227ATBCFF"]⟩,
  ⟨["Hebr", "Hebrew"], ["1cR1XIxEG1t9IwBFBBBCBCBK"]⟩,
  ⟨["Hira", "Hiragana"], ["c0BDEKBNQGBBECD2WCI2wC1jaIC8wFKB1NC1c3B8/SBzDg5NB"]⟩,
  ⟨["Hluw", "Anatolian_Hieroglyphs"], ["2h0AiH"]⟩,
  ⟨["Hmng", "Pahawh_Hmong"], ["2qoA2GKKBHBVFT"]⟩,
  ⟨["Hmnp", "Nyiakeng_Puachue_Hmong"], ["3o8A1NDOCKEC"]⟩,
  ⟨[], [""]⟩,
  ⟨["Hung", "Old_Hungarian"], ["234A1TN1THG"]⟩,
  ⟨["Ital", "Old_Italic"], ["20oA1EJD"]⟩,
  ⟨["Java", "Javanese"], ["1acA2OBLEC"]⟩,
  ⟨["Kali", "Kayah_Li"], ["1a8A1Q"]⟩,
  ⟨["Kana", "Katakana"], ["c0BDEKBNQGBBEC2xED3A7QQ6Q1PB2Y1inNC8w1/1c2QEBHBCBB8/D1SBOE"]⟩,
  ⟨["Kawi"], ["27oARB1JDy"]⟩,
  ⟨["Khar", "Kharoshthi"], ["22gAEBCFIBDBzCDEKHJ"]⟩,
  ⟨["Khmr", "Khmer"], ["5sA2+CKGKfG1A"]⟩,
  ⟨["Khoj", "Khojki"], ["2nGK17aAKqeGSB1P"]⟩,
  ⟨["Kits", "Khitan_Small_Script"], ["2rvEB6oxeW"]⟩,
  ⟨["Knda", "Kannada"], ["2aRCRCowNBDBXBKBFCJBDBEHCGCBECKBD3uyBBBHBXBBB12pxG"]⟩,
  ⟨["Kthi", "Kaithi"], ["2bGK17mAKq2G2DKB"]⟩,
  ⟨["Lana", "Tai_Tham"], ["6hA1/BzCLGKGO"]⟩,
  ⟨["Laoo", "Lao"], ["3kBCBBBFBYBBBXCFBBBHBKCE"]⟩,
  ⟨["Latn", "Latin"], [
    "2BwGw1PBPBFXB/BeB1HF3+N8VC16KC1tIB30E1GG1RFEFNB2G2B8A9PB2BBNBQN2TB1ZCGBxBR1J2mX1AukAIw3",
    "GD2AFCBBBFYO9OBgB1LBJBEjsWH10wwGw21FGB1KBJ1lqF/GG"]⟩,
  ⟨["Lepc", "Lepcha"], ["70A1YDPDD"]⟩,
  ⟨["Limb", "Limbu"], ["2bFB3sw/BMEMEBDM"]⟩,
  ⟨["Lina", "Linear_A"], ["208H1N16M9XJWKI"]⟩,
  ⟨["Linb", "Linear_B"], ["200AMBwBTBCBPCO1C3xFDE1NDJ"]⟩,
  ⟨["Lisu"], ["196Q1QulQB"]⟩,
  ⟨["Lyci", "Lycian"], ["20kAz"]⟩,
  ⟨["Lydi", "Lydian"], ["229AwFB"]⟩,
  ⟨["Mahj", "Mahajani"], ["2bEM17mAKq8W1H"]⟩,
  ⟨["Maka", "Makasar"], ["27nAZ"]⟩,
  ⟨["Mand", "Mandaic"], ["1iABf/yCB"]⟩,
  ⟨["Mani", "Manichaean"], ["1iAB213/1HEM"]⟩,
  ⟨["Marc", "Marchen"], ["273Q1ACWBO"]⟩,
  ⟨["Medf", "Medefaidrin"], ["2riA2x"]⟩,
  ⟨["Mend", "Mende_Kikakui"], ["3q0A6FCQ"]⟩,
  ⟨["Merc", "Meroitic_Cursive"], ["22dAYEUC1O"]⟩,
  ⟨["Mero", "Meroitic_Hieroglyphs"], ["22cA1A"]⟩,
  ⟨["Mlym", "Malayalam"], ["2aRCRCswNBDB1TBDBGEQCw3qwB12qVD"]⟩,
  ⟨["Modi"], ["1a1QKreG2FLK"]⟩,
  ⟨["Mong", "Mongolian"], ["60AwG2ZH1L1sEB1thQN"]⟩,
  ⟨["Mroo", "Mro"], ["2qiA/BKEC"]⟩,
  ⟨["Mtei", "Meetei_Mayek"], ["1anAX6J1OCK"]⟩,
  ⟨["Mult", "Multani"], ["2jGK220QHBBBEBPBL"]⟩,
  ⟨["Mymr", "Myanmar"], ["40A5A164OB5R/3B1A"]⟩,
  ⟨["Nagm", "Nag_Mundari"], ["3p6Q1K"]⟩,
  ⟨["Nand", "Nandinagari"], ["2bECsAK3vZBIBHB12pVGsbKIC1OCL"]⟩,
  ⟨["Narb", "Old_North_Arabian"], ["22kA1A"]⟩,
  ⟨["Nbat", "Nabataean"], ["224A/IJ"]⟩,
  ⟨["Newa"], ["250A2yBF"]⟩,
  ⟨["Nkoo", "Nko"], ["1gMBOBDBdA1xCD1t9+C"]⟩,
  ⟨["Nshu", "Nushu"], ["2rvBBgcOcM"]⟩,
  ⟨["Ogam", "Ogham"], ["5kAz"]⟩,
  ⟨["Olck", "Ol_Chiki"], ["72Q1Q"]⟩,
  ⟨["Orkh", "Old_Turkic"], ["230A2J"]⟩,
  ⟨["Orya", "Oriya"], ["2aRCRCcxDBICCCWBHBCBFCJCCCDHDECBFCS4bCBXB"]⟩,
  ⟨["Osge", "Osage"], ["215Q1EE1E"]⟩,
  ⟨["Osma", "Osmanya"], ["214A+CK"]⟩,
  ⟨["Ougr", "Old_Uyghur"], ["1iAB215RB13zw"]⟩,
  ⟨["Palm", "Palmyrene"], ["223A1A"]⟩,
  ⟨["Pauc", "Pau_Cin_Hau"], ["26mA1Z"]⟩,
  ⟨["Perm", "Old_Permic"], ["14DB1vmM1L"]⟩,
  ⟨["Phag", "Phags_Pa"], ["60CCBB141w1Y"]⟩,
  ⟨["Phli", "Inscriptional_Pahlavi"], ["22rATFI"]⟩,
  ⟨["Phlp", "Psalter_Pahlavi"], ["1iAB219/SHEMH"]⟩,
  ⟨["Phnx", "Phoenician"], ["228AyDB"]⟩,
  ⟨["Plrd", "Miao"], ["2roA2LE1ZHR"]⟩,
  ⟨["Prti", "Inscriptional_Parthian"], ["22qAWCI"]⟩,
  ⟨["Rjng", "Rejang"], ["1a9Q1ELB"]⟩,
  ⟨["Rohg", "Hanifi_Rohingya"], ["1gMBOBDB1AB4TB21hL1IIK"]⟩,
  ⟨["Runr", "Runic"], ["5lA2LDL"]⟩,
  ⟨["Samr", "Samaritan"], ["20A1OCP"]⟩,
  ⟨["Sarb", "Old_South_Arabian"], ["22jA1A"]⟩,
  ⟨["Saur", "Saurashtra"], ["1a4A2GIM"]⟩,
  ⟨["Sgnw", "SignWriting"], ["3m0AkMPFBP"]⟩,
  ⟨["Shaw", "Shavian"], ["212Q1Q"]⟩,
  ⟨["Shrd", "Sharada"], ["2aRB4sFBBBCCCB1t4/3A"]⟩,
  ⟨["Sidd", "Siddham"], ["25cA1WC1G"]⟩,
  ⟨["Sind", "Khudawadi"], ["2bEC17mKKqjW1xFK"]⟩,
  ⟨["Sinh", "Sinhala"], ["2bEC10xDBSDYBJBBCHDBEGBBBIGKCD20vMU"]⟩,
  ⟨["Sogd", "Sogdian"], ["1iAB227P1K"]⟩,
  ⟨["Sogo", "Old_Sogdian"], ["23oA1I"]⟩,
  ⟨["Sora", "Sora_Sompeng"], ["246QZHK"]⟩,
  ⟨["Soyo", "Soyombo"], ["26iQ2T"]⟩,
  ⟨["Sund", "Sundanese"], ["6sA2A8AI"]⟩,
  ⟨["Sylo", "Syloti_Nagri"], ["2bEC4AK17gQ1N"]⟩,
  ⟨["Syrc", "Syriac"], ["1gMBOCCB1ABKLwB4POB1yCD8QL5cNBBB"]⟩,
  ⟨["Tagb", "Tagbanwa"], ["5pVC1JNBDBC"]⟩,
  ⟨["Takr", "Takri"], ["2bEC17mKKriG1wGK"]⟩,
  ⟨["Tale", "Tai_Le"], ["42AK28G+CF"]⟩,
  ⟨["Talu", "New_Tai_Lue"], ["6cA1MEwGLDC"]⟩,
  ⟨["Taml", "Tamil"], ["2aRCRCgyCBGDDBEDCBBBCDCDDDMEFDDBECBGBOV46/B130YBqgNBBB1XC34D1SNB"]⟩,
  ⟨["Tang", "Tangut"], ["2rvAB/5vYIoAgAJ"]⟩,
  ⟨["Tavt", "Tai_Viet"], ["1akA2DYF"]⟩,
  ⟨["Telu", "Telugu"], ["2aRCRCkwNBDBXBQCJBDBEHCBDCBCECKHJ42wBXB"]⟩,
  ⟨["Tfng", "Tifinagh"], ["b9Q1YHCOB"]⟩,
  ⟨["Tglg", "Tagalog"], ["5oAWJBVC"]⟩,
  ⟨["Thaa", "Thaana"], ["1gMBOCCB2AK8W1S1tiABKB"]⟩,
  ⟨["Thai"], ["3gB1wFy"]⟩,
  ⟨["Tibt", "Tibetan"], ["3oA2IB1EE1HB1EBPBHEC"]⟩,
  ⟨["Tirh", "Tirhuta"], ["2aRCRC4sMB12pzKr2G2IIK"]⟩,
  ⟨["Tnsa", "Tangsa"], ["2qjQ2PBK"]⟩,
  ⟨["Toto"], ["3okQ/"]⟩,
  ⟨["Ugar", "Ugaritic"], ["20sA+BB"]⟩,
  ⟨["Vaii", "Vai"], ["198A9M"]⟩,
  ⟨["Vith", "Vithkuqi"], ["21bQLBPBHBCBLBPBHBC"]⟩,
  ⟨["Wara", "Warang_Citi"], ["265A2TMB"]⟩,
  ⟨["Wcho", "Wancho"], ["3omA1wFB"]⟩,
  ⟨["Xpeo", "Old_Persian"], ["20tA1EEO"]⟩,
  ⟨["Xsux", "Cuneiform"], ["280Asw3G3PBFL6E"]⟩,
  ⟨["Yezi", "Yezidi"], ["1gMBOBDB2AK220W1KBDCC"]⟩,
  ⟨["Yiii", "Yi"], ["c0BCFKCI6/BroE14ND1XmkwF"]⟩,
  ⟨["Zanb", "Zanabazar_Square"], ["26gA2I"]⟩,
  ⟨["Zinh", "Inherited", "Qaai"], [
    "oA2CBCBz1fQC4ax/nT1WBBBFgMC6C1A1n8QQQOuPB1j8C1OCXhADRICH+EobqS7Q"]⟩,
  ⟨["Zyyy", "Common"], [
    "A2BwGw1PBPBFXB/BeB1HFFCU3UBJBGBBBjzB6XBgEB1ayBcVE1oSD28SMC1BB1VBLDLBPR1B1/1GBDCGBxBR1JD",
    "EkXZLVtA8AjUC1AB3JgA2DBwcSMEBDBNBNBVBgRY/B1RPME5BKF3A/B6eA2Am8Iw3GDuQBOCklEKWVCMBTBE4TB",
    "B1AwGwG3/HBHKFcSN1T1N1jaT3U1y7WK1HC1+DRICH+E1z6VUMUM2XxH4H2VB2HBCCBCCCEBMBBBHB2BBECIBHB",
    "yBEBFBBDHBaUC9EC1S53R2E2M1zmC1ME3EMPCPBPB1FK5O1YwBCN1MEJXG4wuYERDND3XE2/GMEBPME1YIKG1II",
    "+CC2OaUMOCNDJH1OBHIOEJHJH4TB1X1FKo10HB+3A"]⟩]

end AppDef.Unicode
