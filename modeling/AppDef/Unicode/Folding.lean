import AppDef.Unicode.Range

namespace AppDef.Unicode

/-- Characters that differ in case only. Each group is written as its size, the distance of its
first character from the first one of the group before, and the distances between its characters. -/
def foldingText : List String := [
  "C2B1ACB1ACB1ACB1ACB1ACB1ACB1ACB1ACB1ACB1ADB1A85/CB1ACB1ACB1ACB1ACB1ACB1ACB1ADB1A8MCB1ACB1AC",
  "B1ACB1ACB1ACB1ACB1AD2xnH1ACL1ACB1ACB1ACB1ACB1ADB1A82GCB1ACB1ACB1ACB1ACB1ACB1ACB1ACB1ACB1ACB",
  "1ACB1ACB1ACB1ACB1ACB1ACB1ACB1ACC1ACB1ACB1ACB1ACB1ACB1ACB1ACB7d/C1A3ZCBBCCBCCBCCBCCBCCBCCBCC",
  "BCCBCCBCCBCCBCCBCCBCCBCCBCCBCCBCCBCCBCCBCCBCCBCCBCEBCCBCCBCDBCCBCCBCCBCCBCCBCCBCCBCDBCCBCCB",
  "CCBCCBCCBCCBCCBCCBCCBCCBCCBCCBCCBCCBCCBCCBCCBCCBCCBCCBCCBCCBCDBCCBCCBCD6DCB6SCBBCCBCC6OCBBC",
  "C6NCB6NCBBCD2PCB6KCB6LCBBCC6NCB6PCB3BCB6TCB6RCBBCC5DCC6TCB6VCB4CCB6WCBBCCBCCBCC6wCBBCC6wCDB",
  "CC6wCBBCC6ZCB6ZCBBCCBCC6xCBBCEBCD1YDFBBDDBBDDBBCDBCCBCCBCCBCCBCCBCCBCCBCDBCCBCCBCCBCCBCCBCC",
  "BCCBCCBDDBBCDBCEBCCBCCBCCBCCBCCBCCBCCBCCBCCBCCBCCBCCBCCBCCBCCBCCBCCBCCBCCBCEBCCBCCBCCBCCBCC",
  "BCCBCCBCCBCIahLCBBCDahICBah/CBah/CBBCD2FCB2HCBBCCBCCBCCBCCBCCag/CBagyCBag+CK19aPCF19aLCE199",
  "ICB19aECE19aECBafXCB19aBCFafzCMafHCF19aDCF199KCW198VCB198SE5H2U1A70FC1LBCCBCEBCF4CCB4CCB4CC",
  "C3UCH1GCC1FCB1FCB1FCC2ACC1/CB1/CC1ADB1A+CB1ACB1ADB1A2ACB1ACB1AEB1AZ1DDC1A1WCB1ACC1ACB1ACB1A",
  "DB1AWDB1A1QDC/BCB1ACB1ADB1APCB1ACB1ADB1A7azCB1ACB1AC1EICJBCCBCCBCCBCCBCCBCCBCCBCCBCCBCCBCCB",
  "CEHCFBCDBCG2QCB2QCB2QCB2QCB2QCB2QCB2QCB2QCB2QCB2QCB2QCB2QCB2QCB2QCB2QCB2QCB1ACB1ADB1A62OCB1",
  "ADB1A62NCB1ACB1ACB1ACB1ACB1ACB1ACB1ACB1ACB1ADB1A62ECB1ACB1ADB1A62CEB1A62CBCB1ACB1ACB1ACB1AC",
  "B1ACB1ACB1ADB1A61yCB1ACB1ACB1ACB1ACB1AC1RBDCB61ECCBCCBCCBCCBCCBCCBCCBCCBCCBCCBCCBCCBCCBCCBC",
  "CBCKBCCBCCBCCBCCBCCBCCBCCBCCBCCBCCBCCBCCBCCBCCBCCBCCBCCBCCBCCBCCBCCBCCBCCBCCBCCBCCBCCPCBBCC",
  "BCCBCCBCCBCCBCCBCDBCCBCCBCCBCCBCCBCCBCCBCCBCCBCCBCCBCCBCCBCCBCCBCCBCCBCCBCCBCCBCCBCCBCCBCCB",
  "CCBCCBCCBCCBCCBCCBCCBCCBCCBCCBCCBCCBCCBCCBCCBCCBCCBCCBCCBCCBCCBCCBCCBCD1QCB1QCB1QCB1QCB1QCB",
  "1QCB1QCB1QCB1QCB1QCB1QCB1QCB1QCB1QCB1QCB1QCB1QCB1QCB1QCB1QCB1QCB1QCB1QCB1QCB1QCB1QCB1QCB1QC",
  "B1QCB1QCB1QCB1QCB1QCB1QCB1QCB1QCB1QCB1QC2qK73ACB73ACB73ACB73ACB73ACB73ACB73ACB73ACB73ACB73A",
  "CB73ACB73ACB73ACB73ACB73ACB73ACB73ACB73ACB73ACB73ACB73ACB73ACB73ACB73ACB73ACB73ACB73ACB73AC",
  "B73ACB73ACB73ACB73ACB73ACB73ACB73ACB73ACB73ACB73ACC73ACG73ACD2uACB2uACB2uACB2uACB2uACB2uACB",
  "2uACB2uACB2uACB2uACB2uACB2uACB2uACB2uACB2uACB2uACB2uACB2uACB2uACB2uACB2uACB2uACB2uACB2uACB2",
  "uACB2uACB2uACB2uACB2uACB2uACB2uACB2uACB2uACB2uACB2uACB2uACB2uACB2uACB2uACB2uACB2uACB2uACB2u",
  "ACD2uACB2uACB2uAClB15uQCB15uQCB15uQCB15uQCB15uQCB15uQCB15uQCB15uQCB15uQCB15uQCB15uQCB15uQCB",
  "15uQCB15uQCB15uQCB15uQCB15uQCB15uQCB15uQCB15uQCB15uQCB15uQCB15uQCB15uQCB15uQCB15uQCB15uQCB1",
  "5uQCB15uQCB15uQCB15uQCB15uQCB15uQCB15uQCB15uQCB15uQCB15uQCB15uQCB15uQCB15uQCB15uQCB15uQCB15",
  "uQCB15uQCB15uQCB15uQCB15uQCB15uQCB15uQCB15uQCB15uQCB15uQCB15uQCB15uQCB15uQCB15uQCB15uQCB15u",
  "QCB15uQCB15uQCB15uQCB15uQCB15uQCB15uQCB15uQCB15uQCB15uQCB15uQCB15uQCB15uQCB15uQCB15uQCB15uQ",
  "CB15uQCB15uQCB15uQCB15uQCB15uQCB15uQCB15uQCBICBICBICBICBICBID24T12eCBC7R12gECE3nGCR12hYC3SB",
  "CCBCCBCCBCCBCCBCCBCCBCCBCCBCCBCCBCCBCCBCCBCCBCCBCCBCCBCCBCCBCCBCCBCCBCCBCCBCCBCCBCCBCCBCCBC",
  "CBCCBCCBCCBCCBCCBCCBCCBCCBCCBCCBCCBCCBCCBCCBCCBCCBDCB1wCCBCCBCCBCCBCCBCCBCCBCCBCCBCCBCCBCCB",
  "CCBCCBCCBCCBCCBCCBCCBCCBCCBCCBCCBCCBCCBCCBCMBCCBCCBCCBCCBCCBCCBCCBCCBCCBCCBCCBCCBCCBCCBCCBC",
  "CBCCBCCBCCBCCBCCBCCBCCBCCBCCBCCBCCBCCBCCBCCBCCBCCBCCBCCBCCBCCBCCBCCBCCBCCBCCBCCBCCBCCBCCBCC",
  "BCCBCCICBICBICBICBICBICBICBICJICBICBICBICBICBICLICBICBICBICBICBICBICBICJICBICBICBICBICBICBI",
  "CBICJICBICBICBICBICBICMICCICCICCICJICBICBICBICBICBICBICBICJ2KCB2KCB2WCB2WCB2WCB2WCB3ECB3ECB",
  "4ACB4ACB3QCB3QCB3+CB3+CDICBICBICBICBICBICBICBICJICBICBICBICBICBICBICBICJICBICBICBICBICBICBI",
  "CBICJICBICCJCQJCNICBICPICBICEHCOJC9/yC1OQCBQCBQCBQCBQCBQCBQCBQCBQCBQCBQCBQCBQCBQCBQCBQCUBCp",
  "TwCBwCBwCBwCBwCBwCBwCBwCBwCBwCBwCBwCBwCBwCBwCBwCBwCBwCBwCBwCBwCBwCBwCBwCBwCBwC1pR1QCB1QCB1Q",
  "CB1QCB1QCB1QCB1QCB1QCB1QCB1QCB1QCB1QCB1QCB1QCB1QCB1QCB1QCB1QCB1QCB1QCB1QCB1QCB1QCB1QCB1QCB1",
  "QCB1QCB1QCB1QCB1QCB1QCB1QCB1QCB1QCB1QCB1QCB1QCB1QCB1QCB1QCB1QCB1QCB1QCB1QCB1QCB1QCB1QCB1QC1",
  "RBCHBCCBCCBCHBCDBCLBCCBCCBCCBCCBCCBCCBCCBCCBCCBCCBCCBCCBCCBCCBCCBCCBCCBCCBCCBCCBCCBCCBCCBCC",
  "BCCBCCBCCBCCBCCBCCBCCBCCBCCBCCBCCBCCBCCBCCBCCBCCBCCBCCBCCBCCBCCBCCBCCBCCBCCBCJBCCBCFBCuaOBC",
  "CBCCBCCBCCBCEBCCBCCBCCBCCBCCBCCBCCBCCBCCBCCBCCBCCBCCBCCBCCBCCBCUBCCBCCBCCBCCBCCBCCBCCBCCBCC",
  "BCCBCCBCCBCCBC4IBCCBCCBCCBCCBCCBCCBCEBCCBCCBCCBCCBCCBCCBCCBCCBCCBCCBCCBCCBCCBCCBCCBCCBCCBCC",
  "BCCBCCBCCBCCBCCBCCBCCBCCBCCBCCBCCBCCBCLBCCBCDBCCBCCBCCBCCBCFBCFBCCBCC1QCCBCCBCCBCCBCCBCCBCC",
  "BCCBCCBCCBCLtACBBCCBCCBCCBCCBCCBCCBCCBCFBCCBCHBCGBCCBCzBClpM1ACB1ACB1ACB1ACB1ACB1ACB1ACB1AC",
  "B1ACB1ACB1ACB1ACB1ACB1ACB1ACB1ACB1ACB1ACB1ACB1ACB1ACB1ACB1ACB1ACB1ACB1AC16G1ICB1ICB1ICB1ICB",
  "1ICB1ICB1ICB1ICB1ICB1ICB1ICB1ICB1ICB1ICB1ICB1ICB1ICB1ICB1ICB1ICB1ICB1ICB1ICB1ICB1ICB1ICB1IC",
  "B1ICB1ICB1ICB1ICB1ICB1ICB1ICB1ICB1ICB1ICB1ICB1ICB1IC4J1ICB1ICB1ICB1ICB1ICB1ICB1ICB1ICB1ICB1",
  "ICB1ICB1ICB1ICB1ICB1ICB1ICB1ICB1ICB1ICB1ICB1ICB1ICB1ICB1ICB1ICB1ICB1ICB1ICB1ICB1ICB1ICB1ICB",
  "1ICB1ICB1ICB1IC4z1HCB1HCB1HCB1HCB1HCB1HCB1HCB1HCB1HCB1HCB1HCC1HCB1HCB1HCB1HCB1HCB1HCB1HCB1H",
  "CB1HCB1HCB1HCB1HCB1HCB1HCB1HCC1HCB1HCB1HCB1HCB1HCB1HCB1HCC1HCB1HC1nL2ACB2ACB2ACB2ACB2ACB2AC",
  "B2ACB2ACB2ACB2ACB2ACB2ACB2ACB2ACB2ACB2ACB2ACB2ACB2ACB2ACB2ACB2ACB2ACB2ACB2ACB2ACB2ACB2ACB2A",
  "CB2ACB2ACB2ACB2ACB2ACB2ACB2ACB2ACB2ACB2ACB2ACB2ACB2ACB2ACB2ACB2ACB2ACB2ACB2ACB2ACB2ACB2AC2v",
  "O1ACB1ACB1ACB1ACB1ACB1ACB1ACB1ACB1ACB1ACB1ACB1ACB1ACB1ACB1ACB1ACB1ACB1ACB1ACB1ACB1ACB1ACB1A",
  "CB1ACB1ACB1ACB1ACB1ACB1ACB1ACB1ACB1AClcB1ACB1ACB1ACB1ACB1ACB1ACB1ACB1ACB1ACB1ACB1ACB1ACB1AC",
  "B1ACB1ACB1ACB1ACB1ACB1ACB1ACB1ACB1ACB1ACB1ACB1ACB1ACB1ACB1ACB1ACB1ACB1ACB1ACulB1CCB1CCB1CCB",
  "1CCB1CCB1CCB1CCB1CCB1CCB1CCB1CCB1CCB1CCB1CCB1CCB1CCB1CCB1CCB1CCB1CCB1CCB1CCB1CCB1CCB1CCB1CC",
  "B1CCB1CCB1CCB1CCB1CCB1CCB1CCB1C"]

/-- The first group of a list of distances, from `first` on, and the distances behind it. -/
def takeGroup (first : Nat) : List Nat → List Nat × List Nat
  | size :: start :: rest =>
    let others := rest.take (size - 1)
    (running (first + start) (0 :: others), rest.drop (size - 1))
  | _ => ([], [])

def groupsFrom : (fuel first : Nat) → List Nat → List (List Nat)
  | 0, _, _ => []
  | _, _, [] => []
  | fuel + 1, first, distances =>
    match takeGroup first distances with
    | ([], _) => []
    | (group, rest) => group :: groupsFrom fuel (group.headD first) rest

def caseGroups : List (List Nat) :=
  let distances := distancesOf foldingText
  groupsFrom distances.length 0 distances

/-- The characters that differ from `c` in case only, `c` among them. -/
def caseVariants (c : Nat) : List Nat :=
  (caseGroups.find? (·.contains c)).getD [c]

end AppDef.Unicode
