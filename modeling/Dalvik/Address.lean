import Dalvik.Text.Quoted

/-!
# Addresses and registers

An address counts 16-bit code units from the start of a method's code; a register is a slot number in its register
file. A wide value takes the register that names it and the next one. Neither is bounded by the size of a machine word;
the addresses that are computed, those where instructions end, are not past the end of the code.
-/

namespace Dalvik

abbrev Address := Nat

abbrev Reg := Nat

namespace Address

/-- The address every execution starts at. -/
def entry : Address := 0

/-- At least four hexadecimal digits. -/
def text (a : Address) : String :=
  let ds := Text.hex a
  String.ofList (List.replicate (4 - ds.length) '0' ++ ds)

end Address

namespace Reg

/-- The register that holds the high half of a wide value whose low half is in `r`. -/
def next (r : Reg) : Reg := r + 1

def text (r : Reg) : String := "v" ++ r.repr

end Reg
end Dalvik
