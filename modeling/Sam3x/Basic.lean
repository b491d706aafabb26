import Mathlib
/-
# The SAM3/SAM4/SAMx7x register map

`sam3x.c` drives the Enhanced Embedded Flash Controller (EEFC) of the Atmel SAM3N/S/U/X,
SAM4S and SAME70/S70/V70/V71 parts, and identifies the part from its CHIPID registers.  This
module fixes the constants the rest of the development reads: the EEFC register block and its
command and status fields, and the CHIPID fields with the codes the driver recognises.

Every register value is a `BitVec 32`, as the driver's `uint32_t`; the command opcode is the
`uint8_t` and the command argument the `uint16_t` of `sam3x_flash_cmd`.  Byte counts and
addresses that never leave a small range (`size_t`, `target_addr`) are `Nat`.

Only the constants some modelled function reads are here; `EEFC_FMR`, the opcodes the driver
never issues (`GETD`, `WPL`, `EWPL`, `EA`, `SLB`, `CLB`, `GLB`, `STUI`, `SPUI`), `CM7` and the
`NVPSIZ2` and `NVPTYP` fields are left out.
-/

namespace Sam3x

/-! ## 0. `switch` -/

/-- A C `switch` whose cases all `return` or `break`: the result of the first case whose label
equals `v`, and `dflt` (the `default:` arm, or what the variable held before) when none does. -/
def switch {α β : Type} [DecidableEq α] (v : α) (dflt : β) : List (α × β) → β
  | [] => dflt
  | (c, r) :: cs => if v = c then r else switch v dflt cs

/-- A `switch` yields its default or the result of one of its cases. -/
theorem switch_mem {α β : Type} [DecidableEq α] (v : α) (dflt : β) (cs : List (α × β)) :
    switch v dflt cs ∈ dflt :: cs.map Prod.snd := by
  induction cs with
  | nil => simp [switch]
  | cons p cs ih =>
    obtain ⟨c, r⟩ := p
    simp only [switch, List.map_cons, List.mem_cons] at ih ⊢
    split_ifs
    · exact .inr (.inl rfl)
    · rcases ih with h | h
      · exact .inl h
      · exact .inr (.inr h)

/-! ## 1. The EEFC register block -/

/-- `SAMX7X_EEFC_BASE`. -/
def samx7xEefcBase : BitVec 32 := 0x400E0C00

/-- `SAM3N_EEFC_BASE`. -/
def sam3nEefcBase : BitVec 32 := 0x400E0A00

/-- `SAM3X_EEFC_BASE(x)`: one controller every `0x200` bytes from `0x400E0A00`. -/
def sam3xEefcBase (x : BitVec 32) : BitVec 32 := 0x400E0A00 + x * 0x200

/-- `SAM3U_EEFC_BASE(x)`. -/
def sam3uEefcBase (x : BitVec 32) : BitVec 32 := 0x400E0800 + x * 0x200

/-- `SAM4S_EEFC_BASE(x)`. -/
def sam4sEefcBase (x : BitVec 32) : BitVec 32 := 0x400E0A00 + x * 0x200

/-- `EEFC_FCR(base)`: the command register. -/
def eefcFcr (base : BitVec 32) : BitVec 32 := base + 0x04

/-- `EEFC_FSR(base)`: the status register. -/
def eefcFsr (base : BitVec 32) : BitVec 32 := base + 0x08

/-- `EEFC_FRR(base)`: the result register. -/
def eefcFrr (base : BitVec 32) : BitVec 32 := base + 0x0C

/-- `EEFC_FCR_FKEY`: the key every command word carries in its top byte. -/
def eefcFcrFkey : BitVec 32 := 0x5A <<< 24

/-- `EEFC_FCR_FCMD_WP`: write page. -/
def eefcFcrFcmdWp : BitVec 8 := 0x01

/-- `EEFC_FCR_FCMD_EWP`: erase page and write page. -/
def eefcFcrFcmdEwp : BitVec 8 := 0x03

/-- `EEFC_FCR_FCMD_EPA`: erase pages. -/
def eefcFcrFcmdEpa : BitVec 8 := 0x07

/-- `EEFC_FCR_FCMD_SGPB`: set a GPNVM bit. -/
def eefcFcrFcmdSgpb : BitVec 8 := 0x0B

/-- `EEFC_FCR_FCMD_CGPB`: clear a GPNVM bit. -/
def eefcFcrFcmdCgpb : BitVec 8 := 0x0C

/-- `EEFC_FCR_FCMD_GGPB`: read the GPNVM bits into `EEFC_FRR`. -/
def eefcFcrFcmdGgpb : BitVec 8 := 0x0D

/-- `EEFC_FSR_FRDY`: the controller is ready. -/
def eefcFsrFrdy : BitVec 32 := 1 <<< 0

/-- `EEFC_FSR_FCMDE`: the last command was refused. -/
def eefcFsrFcmde : BitVec 32 := 1 <<< 1

/-- `EEFC_FSR_FLOCKE`: the last command hit a locked region. -/
def eefcFsrFlocke : BitVec 32 := 1 <<< 2

/-- `EEFC_FSR_ERROR`. -/
def eefcFsrError : BitVec 32 := eefcFsrFcmde ||| eefcFsrFlocke

/-- `SAM3_PAGE_SIZE`. -/
def sam3PageSize : Nat := 256

/-- `SAM4_PAGE_SIZE`. -/
def sam4PageSize : Nat := 512

/-! ## 2. The CHIPID registers -/

/-- `SAM3X_CHIPID_CIDR`. -/
def sam3xChipidCidr : BitVec 32 := 0x400E0940

/-- `SAM34NSU_CHIPID_CIDR`. -/
def sam34nsuChipidCidr : BitVec 32 := 0x400E0740

/-- `SAMX_CHIPID_EXID`. -/
def samxChipidExid : BitVec 32 := sam3xChipidCidr + 0x4

/-- `CHIPID_CIDR_VERSION_MASK`. -/
def chipidCidrVersionMask : BitVec 32 := 0x1F <<< 0

/-- `CHIPID_CIDR_EPROC_MASK`. -/
def chipidCidrEprocMask : BitVec 32 := 0x7 <<< 5

/-- `CHIPID_CIDR_EPROC_CM3`. -/
def chipidCidrEprocCm3 : BitVec 32 := 0x3 <<< 5

/-- `CHIPID_CIDR_EPROC_CM4`. -/
def chipidCidrEprocCm4 : BitVec 32 := 0x7 <<< 5

/-- `CHIPID_CIDR_NVPSIZ_MASK`. -/
def chipidCidrNvpsizMask : BitVec 32 := 0xF <<< 8

/-- An `NVPSIZ` code in place: `(code << CHIPID_CIDR_NVPSIZ_OFFSET)`. -/
def chipidCidrNvpsiz (code : BitVec 32) : BitVec 32 := code <<< 8

/-- `CHIPID_CIDR_NVPSIZ_8K`. -/
def chipidCidrNvpsiz8K : BitVec 32 := chipidCidrNvpsiz 0x1

/-- `CHIPID_CIDR_NVPSIZ_16K`. -/
def chipidCidrNvpsiz16K : BitVec 32 := chipidCidrNvpsiz 0x2

/-- `CHIPID_CIDR_NVPSIZ_32K`. -/
def chipidCidrNvpsiz32K : BitVec 32 := chipidCidrNvpsiz 0x3

/-- `CHIPID_CIDR_NVPSIZ_64K`. -/
def chipidCidrNvpsiz64K : BitVec 32 := chipidCidrNvpsiz 0x5

/-- `CHIPID_CIDR_NVPSIZ_128K`. -/
def chipidCidrNvpsiz128K : BitVec 32 := chipidCidrNvpsiz 0x7

/-- `CHIPID_CIDR_NVPSIZ_256K`. -/
def chipidCidrNvpsiz256K : BitVec 32 := chipidCidrNvpsiz 0x9

/-- `CHIPID_CIDR_NVPSIZ_512K`. -/
def chipidCidrNvpsiz512K : BitVec 32 := chipidCidrNvpsiz 0xA

/-- `CHIPID_CIDR_NVPSIZ_1024K`. -/
def chipidCidrNvpsiz1024K : BitVec 32 := chipidCidrNvpsiz 0xC

/-- `CHIPID_CIDR_NVPSIZ_2048K`. -/
def chipidCidrNvpsiz2048K : BitVec 32 := chipidCidrNvpsiz 0xE

/-- `CHIPID_CIDR_SRAMSIZ_MASK`. -/
def chipidCidrSramsizMask : BitVec 32 := 0xF <<< 16

/-- `CHIPID_CIDR_SRAMSIZ_384K`. -/
def chipidCidrSramsiz384K : BitVec 32 := 0x2 <<< 16

/-- `CHIPID_CIDR_SRAMSIZ_256K`. -/
def chipidCidrSramsiz256K : BitVec 32 := 0xD <<< 16

/-- `CHIPID_CIDR_ARCH_MASK`. -/
def chipidCidrArchMask : BitVec 32 := 0xFF <<< 20

/-- An `ARCH` code in place: `(code << CHIPID_CIDR_ARCH_OFFSET)`. -/
def chipidCidrArch (code : BitVec 32) : BitVec 32 := code <<< 20

/-- `CHIPID_CIDR_ARCH_SAME70`. -/
def chipidCidrArchSame70 : BitVec 32 := chipidCidrArch 0x10

/-- `CHIPID_CIDR_ARCH_SAMS70`. -/
def chipidCidrArchSams70 : BitVec 32 := chipidCidrArch 0x11

/-- `CHIPID_CIDR_ARCH_SAMV71`. -/
def chipidCidrArchSamv71 : BitVec 32 := chipidCidrArch 0x12

/-- `CHIPID_CIDR_ARCH_SAMV70`. -/
def chipidCidrArchSamv70 : BitVec 32 := chipidCidrArch 0x13

/-- `CHIPID_CIDR_ARCH_SAM3UxC`. -/
def chipidCidrArchSam3UxC : BitVec 32 := chipidCidrArch 0x80

/-- `CHIPID_CIDR_ARCH_SAM3UxE`. -/
def chipidCidrArchSam3UxE : BitVec 32 := chipidCidrArch 0x81

/-- `CHIPID_CIDR_ARCH_SAM3XxC`. -/
def chipidCidrArchSam3XxC : BitVec 32 := chipidCidrArch 0x84

/-- `CHIPID_CIDR_ARCH_SAM3XxE`. -/
def chipidCidrArchSam3XxE : BitVec 32 := chipidCidrArch 0x85

/-- `CHIPID_CIDR_ARCH_SAM3XxG`. -/
def chipidCidrArchSam3XxG : BitVec 32 := chipidCidrArch 0x86

/-- `CHIPID_CIDR_ARCH_SAM3NxA`. -/
def chipidCidrArchSam3NxA : BitVec 32 := chipidCidrArch 0x93

/-- `CHIPID_CIDR_ARCH_SAM3NxB`. -/
def chipidCidrArchSam3NxB : BitVec 32 := chipidCidrArch 0x94

/-- `CHIPID_CIDR_ARCH_SAM3NxC`. -/
def chipidCidrArchSam3NxC : BitVec 32 := chipidCidrArch 0x95

/-- `CHIPID_CIDR_ARCH_SAM3SxA`. -/
def chipidCidrArchSam3SxA : BitVec 32 := chipidCidrArch 0x88

/-- `CHIPID_CIDR_ARCH_SAM3SxB`. -/
def chipidCidrArchSam3SxB : BitVec 32 := chipidCidrArch 0x89

/-- `CHIPID_CIDR_ARCH_SAM3SxC`. -/
def chipidCidrArchSam3SxC : BitVec 32 := chipidCidrArch 0x8A

/-- `CHIPID_CIDR_ARCH_SAM4SxA`. -/
def chipidCidrArchSam4SxA : BitVec 32 := chipidCidrArch 0x88

/-- `CHIPID_CIDR_ARCH_SAM4SxB`. -/
def chipidCidrArchSam4SxB : BitVec 32 := chipidCidrArch 0x89

/-- `CHIPID_CIDR_ARCH_SAM4SxC`. -/
def chipidCidrArchSam4SxC : BitVec 32 := chipidCidrArch 0x8A

/-- `CHIPID_CIDR_ARCH_SAM4SDB`. -/
def chipidCidrArchSam4SDB : BitVec 32 := chipidCidrArch 0x99

/-- `CHIPID_CIDR_ARCH_SAM4SDC`. -/
def chipidCidrArchSam4SDC : BitVec 32 := chipidCidrArch 0x9A

/-- `CHIPID_CIDR_EXT`: an `EXID` register is present. -/
def chipidCidrExt : BitVec 32 := 0x01 <<< 31

/-- `CHIPID_EXID_SAMX7X_PINS_MASK`. -/
def chipidExidSamx7xPinsMask : BitVec 32 := 0x3 <<< 0

/-- `CHIPID_EXID_SAMX7X_PINS_Q`: 144 pins. -/
def chipidExidSamx7xPinsQ : BitVec 32 := 0x2 <<< 0

/-- `CHIPID_EXID_SAMX7X_PINS_N`: 100 pins. -/
def chipidExidSamx7xPinsN : BitVec 32 := 0x1 <<< 0

/-- `CHIPID_EXID_SAMX7X_PINS_J`: 64 pins. -/
def chipidExidSamx7xPinsJ : BitVec 32 := 0x0 <<< 0

end Sam3x
