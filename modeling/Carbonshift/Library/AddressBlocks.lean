import Mathlib.Data.BitVec

/-!
# Blocks of addresses

A block is given by a network and the number of leading bits that its addresses
share with it.
-/

/-- The addresses that agree with a network on the leading bits. -/
structure AddressBlock (width : ℕ) where
  network : BitVec width
  /-- Number of leading bits that count. -/
  length : ℕ
  deriving DecidableEq, Repr

namespace AddressBlock

variable {width : ℕ}

/-- How many addresses the block has. -/
def size (block : AddressBlock width) : ℕ :=
  2 ^ (width - block.length)

/-- The address agrees with the network on the leading bits. -/
def contains (block : AddressBlock width) (address : BitVec width) : Bool :=
  address.toNat / block.size == block.network.toNat / block.size

variable {block : AddressBlock width} {address : BitVec width}

theorem contains_iff :
    block.contains address = true ↔
      address.toNat / block.size = block.network.toNat / block.size := by
  rw [contains, beq_iff_eq]

/-- A block of full length is one address. -/
theorem contains_iff_eq (full : block.length = width) :
    block.contains address = true ↔ address = block.network := by
  have single : block.size = 1 := by
    rw [size, full, Nat.sub_self, pow_zero]
  rw [contains_iff, single, Nat.div_one, Nat.div_one, BitVec.toNat_inj]

/-- Some block of the list has the address. -/
def covers (blocks : List (AddressBlock width)) (address : BitVec width) :
    Bool :=
  blocks.any fun block => block.contains address

@[simp]
theorem covers_nil : covers [] address = false := rfl

@[simp]
theorem covers_cons (blocks : List (AddressBlock width)) :
    covers (block :: blocks) address =
      (block.contains address || covers blocks address) := rfl

end AddressBlock
