import Sam3x.Basic
/-
# Decoding the CHIPID registers

`sam_flash_size` and `sam_sram_size` map the `NVPSIZ` and `SRAMSIZ` fields of a CIDR value to
byte counts, and `samx7x_parse_id` builds the `struct samx7x_descr` that `samx7x_probe` prints
into the part's name.  All three are pure: the probes read the registers and pass the values.

A code outside the tables decodes to `0`, never to an error, so every 32-bit CIDR has a size;
`samFlashSize_cases` lists the ten values it can be, and every later bound on a region is
read off that list.

`samx7x_parse_id` takes the revision letter from `exid & CHIPID_CIDR_VERSION_MASK`, a CIDR mask
applied to the EXID value, whose low two bits are also the pin code.  So a SAME70 with CIDR
version `0` and pins `Q` decodes to revision `_` (`samx7xParseId_scenario`).
-/

namespace Sam3x

/-! ## 1. Sizes -/

/-- `sam_flash_size`: the flash size the `NVPSIZ` field of `cidr` announces, `0` for a code
the table does not list. -/
def samFlashSize (cidr : BitVec 32) : Nat :=
  switch (cidr &&& chipidCidrNvpsizMask) 0
    [(chipidCidrNvpsiz8K, 0x2000), (chipidCidrNvpsiz16K, 0x4000), (chipidCidrNvpsiz32K, 0x8000),
     (chipidCidrNvpsiz64K, 0x10000), (chipidCidrNvpsiz128K, 0x20000),
     (chipidCidrNvpsiz256K, 0x40000), (chipidCidrNvpsiz512K, 0x80000),
     (chipidCidrNvpsiz1024K, 0x100000), (chipidCidrNvpsiz2048K, 0x200000)]

/-- `sam_sram_size`: the SRAM size of the `SRAMSIZ` field, `0` for the codes it does not list. -/
def samSramSize (cidr : BitVec 32) : Nat :=
  switch (cidr &&& chipidCidrSramsizMask) 0
    [(chipidCidrSramsiz256K, 0x40000), (chipidCidrSramsiz384K, 0x60000)]

/-- **The ten flash sizes.**  Every CIDR value decodes to one of them. -/
theorem samFlashSize_cases (cidr : BitVec 32) :
    samFlashSize cidr = 0 ∨ samFlashSize cidr = 0x2000 ∨ samFlashSize cidr = 0x4000 ∨
      samFlashSize cidr = 0x8000 ∨ samFlashSize cidr = 0x10000 ∨
      samFlashSize cidr = 0x20000 ∨ samFlashSize cidr = 0x40000 ∨
      samFlashSize cidr = 0x80000 ∨ samFlashSize cidr = 0x100000 ∨
      samFlashSize cidr = 0x200000 := by
  have h : samFlashSize cidr ∈ _ := switch_mem _ _ _
  simpa using h

/-- Every flash size is a whole number of 8 KiB. -/
theorem samFlashSize_mod (cidr : BitVec 32) : samFlashSize cidr % 0x2000 = 0 := by
  rcases samFlashSize_cases cidr with h | h | h | h | h | h | h | h | h | h <;> rw [h]

/-- No flash size exceeds 2 MiB. -/
theorem samFlashSize_le (cidr : BitVec 32) : samFlashSize cidr ≤ 0x200000 := by
  rcases samFlashSize_cases cidr with h | h | h | h | h | h | h | h | h | h <;> omega

/-! ## 2. The SAMx7x descriptor -/

/-- The character `'\0'`: what `{0}` leaves in a `char` field nobody writes. -/
def nul : Char := Char.ofNat 0

/-- `struct samx7x_descr`. -/
structure Samx7xDescr where
  productCode : Char
  productId : Nat
  pins : Char
  ramSize : Nat
  flashSize : Nat
  density : Nat
  revision : Char
deriving DecidableEq, Repr

/-- The first `switch` of `samx7x_parse_id`, on the `ARCH` field of `cidr`: product letter and
number, left `'\0'` and `0` for an architecture it does not list. -/
def samx7xProduct (cidr : BitVec 32) : Char × Nat :=
  switch (cidr &&& chipidCidrArchMask) (nul, 0)
    [(chipidCidrArchSame70, ('E', 70)), (chipidCidrArchSams70, ('S', 70)),
     (chipidCidrArchSamv71, ('V', 71)), (chipidCidrArchSamv70, ('V', 70))]

/-- The second `switch`: `switch (v & CHIPID_CIDR_VERSION_MASK)`, `0` is `A`, `1` is `B`. -/
def samx7xRevision (v : BitVec 32) : Char :=
  switch (v &&& chipidCidrVersionMask) '_' [(0, 'A'), (1, 'B')]

/-- The third `switch`, on the pin field of `exid`; code `3` leaves the field `'\0'`. -/
def samx7xPins (exid : BitVec 32) : Char :=
  switch (exid &&& chipidExidSamx7xPinsMask) nul
    [(chipidExidSamx7xPinsQ, 'Q'), (chipidExidSamx7xPinsN, 'N'), (chipidExidSamx7xPinsJ, 'J')]

/-- The last `switch`, on the decoded flash size: `log2` of the size for the three largest. -/
def samx7xDensity (flashSize : Nat) : Nat :=
  switch flashSize 0 [(0x200000, 21), (0x100000, 20), (0x80000, 19)]

/-- `samx7x_parse_id`.  The revision switch is applied to `exid`, as the source has it. -/
def samx7xParseId (cidr exid : BitVec 32) : Samx7xDescr where
  productCode := (samx7xProduct cidr).1
  productId := (samx7xProduct cidr).2
  revision := samx7xRevision exid
  pins := samx7xPins exid
  ramSize := samSramSize cidr
  flashSize := samFlashSize cidr
  density := samx7xDensity (samFlashSize cidr)

/-- **A SAME70 at CIDR version `0` decodes to revision `_`.**  A SAME70 with CIDR version `0`,
2 MiB of flash, 384 KiB of SRAM and EXID pin code `Q` gets the revision letter of
`exid & 0x1F = 2`. -/
theorem samx7xParseId_scenario :
    (0xA1020E00 : BitVec 32) &&& chipidCidrVersionMask = 0 ∧
      samx7xParseId 0xA1020E00 0x2 = ⟨'E', 70, 'Q', 0x60000, 0x200000, 21, '_'⟩ := by
  decide

end Sam3x
