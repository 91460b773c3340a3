import AxiAlu.Rtl.AxiRegisterBank

/-!
The pseudo-random numbers of the testbenches, which are drawn in the same way in all of
them. The number that is drawn is the next seed.
-/
namespace AxiAlu.Testbench

@[irreducible] def rand32 (seed : BitVec 32) : BitVec 32 := seed * 1664525#32 + 1013904223#32

/-- A data word, byte strobes, and the seed that drawing them leaves. -/
structure RandomWord where
  data : BitVec 32
  strb : BitVec 4
  seed : BitVec 32

/-- One of the strobes at least is set. -/
def randomWord (seed : BitVec 32) : RandomWord :=
  let data := rand32 seed
  let seed := rand32 data
  let strb := seed.setWidth 4
  if strb = 0 then
    let seed := rand32 seed
    { data := data, strb := 0b0001#4 <<< (seed.toNat % 4), seed := seed }
  else { data := data, strb := strb, seed := seed }

end AxiAlu.Testbench
