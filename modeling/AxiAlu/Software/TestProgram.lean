import AxiAlu.Software.Driver

/-!
The test program of the software, `test_case` and `main`. A call of `printf` becomes
the text that it prints; a function that prints becomes a program that returns what it
has printed. The endless loop in which `main` ends prints and accesses nothing.
-/
namespace AxiAlu.Driver

def aluOpAdd : BitVec 32 := 0
def aluOpSub : BitVec 32 := 1
def aluOpMul : BitVec 32 := 2
def aluOpDiv : BitVec 32 := 3

def aluAxi4Lite0Base : BitVec 32 := 0x11100

/-- The conversion `%u`. -/
def decimal (word : BitVec 32) : String := toString word.toNat

/-- The conversion `%08x`. -/
def hex8 (word : BitVec 32) : String :=
  let digits := Nat.toDigits 16 word.toNat
  String.ofList (List.replicate (8 - digits.length) '0' ++ digits)

/-- The local `pass` of a test case. -/
def passes (expected : BitVec 32) (expectError : Bool) (o : Outcome) : Bool :=
  if expectError then decide (o.rc = -1) && decide (o.status &&& aluStatusError ≠ 0)
  else decide (o.rc = 0) && decide (o.result = expected)

def resultLine (name : String) (a b expected : BitVec 32) (o : Outcome) (pass : Bool) : String :=
  name ++ ": A=" ++ decimal a ++ " B=" ++ decimal b ++ " result=" ++ decimal o.result ++
    " expected=" ++ decimal expected ++ " status=0x" ++ hex8 o.status ++ " " ++
    (if pass then "PASS" else "FAIL") ++ "\n"

def testCase (name : String) (a b opcode expected : BitVec 32) (expectError : Bool) :
    Program 6 32 String := do
  let o ← aluRun a b opcode
  return resultLine name a b expected o (passes expected expectError o)

def main : Program 6 32 (List String) := do
  let header := "AXI4-Lite ALU software test\n"
  let base := "ALU base = 0x" ++ hex8 aluAxi4Lite0Base ++ "\n"
  let add ← testCase "ADD" 20 7 aluOpAdd 27 false
  let sub ← testCase "SUB" 20 7 aluOpSub 13 false
  let mul ← testCase "MUL" 20 7 aluOpMul 140 false
  let div ← testCase "DIV" 20 5 aluOpDiv 4 false
  let divByZero ← testCase "DIV_BY_ZERO" 20 0 aluOpDiv 0 true
  return [header, base, add, sub, mul, div, divByZero, "Done\n"]

end AxiAlu.Driver
