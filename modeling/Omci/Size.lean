/-!
# Attribute sizes

A size is given in octets or in bits. Octets may be the reserved count `unbounded`, for
a field whose length is only known when it is read.
-/

namespace Omci

structure Size where
  octets : Option Int32 := none
  bits : Option UInt32 := none
  repeatCount : UInt32 := 1
  repeatMax : UInt32 := 1
  /-- The value is read piece by piece, with get-next. -/
  getNext : Bool := false
deriving DecidableEq, Repr, Inhabited

namespace Size

/-- The octet count of a field whose length is only known at run time. -/
def unbounded : Int32 := -1

def ofOctets (octets : Int32) : Size :=
  { octets := some octets }

def ofBits (bits : UInt32) : Size :=
  { bits := some bits }

/-- A size that is read with get-next. -/
def ofParts (octets : Int32) : Size :=
  { octets := some octets, getNext := true }

/-- The octets of the field, counted from its bits when only those are given. A part of
an octet counts as a whole one; the greatest number of bits makes 2 ^ 29 octets, so the
count always fits. -/
def derivedOctets (size : Size) : Option Int32 :=
  match size.octets with
  | some octets => some octets
  | none => size.bits.map fun bits => Int32.ofNat ((bits.toNat + 7) / 8)

end Size

end Omci
