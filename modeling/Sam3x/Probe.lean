import Sam3x.Target
/-
# The probes

`samx7x_probe` and `sam3x_probe` read the CHIPID registers, recognise a family, and register
its RAM, its flash banks and the GPNVM commands.  Section 1 writes both as the source does,
statement by statement; `mem` answers `target_mem_read32` and `heap` the `calloc`s, in order.

Sections 2 and 3 say once what each probe can do (`sam3xProbe_eq`): recognise one of four
families from the first CIDR or, failing that, from the second, and then register that
family's RAM region, the banks of `Sam3xFamily.banks` whose allocation succeeded, and the
command table.  `samx7xProbe_eq` does the same for `samx7x_probe`, whose answer is the outcome
of its last allocation.  Every later fact about what a probe registers is read off these two
equations and never re-splits the probe's branches.
-/

namespace Sam3x

/-! ## 1. The probes as the source writes them -/

/-- The `ARCH` codes `samx7x_probe` accepts. -/
def samx7xArchs : List (BitVec 32) :=
  [chipidCidrArchSame70, chipidCidrArchSams70, chipidCidrArchSamv71, chipidCidrArchSamv70]

/-- `samx7x_probe`.  The flash region's `calloc` is `heap 0`, that of `sam_priv_s` is
`heap 1`; the second fails after RAM, flash and commands are registered. -/
def samx7xProbe (mem : BitVec 32 → BitVec 32) (heap : Nat → Bool) (t : Target) :
    Bool × Target :=
  let cidr := mem sam3xChipidCidr
  let exid := if cidr &&& chipidCidrExt ≠ 0 then mem samxChipidExid else 0
  if cidr &&& chipidCidrArchMask ∉ samx7xArchs then (false, t) else
  let descr := samx7xParseId cidr exid
  let t := targetAddRam t 0x20400000 descr.ramSize
  let t := sam4AddFlash (heap 0) t samx7xEefcBase 0x00400000 descr.flashSize
  let t := targetAddCommands t sam3xCmdList "SAMX7X"
  if heap 1 then
    let priv : SamPriv := ⟨samVariantString descr⟩
    (true, { t with targetStorage := some priv, driver := priv.samVariantString })
  else (false, t)

/-- What both `switch`es of `sam3x_probe` test: `cidr & (ARCH_MASK | EPROC_MASK)`. -/
def sam3xProbeKey (cidr : BitVec 32) : BitVec 32 :=
  cidr &&& (chipidCidrArchMask ||| chipidCidrEprocMask)

/-- The case labels of the SAM3X arm. -/
def sam3xCases : List (BitVec 32) :=
  [chipidCidrArchSam3XxC ||| chipidCidrEprocCm3, chipidCidrArchSam3XxE ||| chipidCidrEprocCm3,
   chipidCidrArchSam3XxG ||| chipidCidrEprocCm3]

/-- The case labels of the SAM3N/S arm. -/
def sam3nsCases : List (BitVec 32) :=
  [chipidCidrArchSam3NxA ||| chipidCidrEprocCm3, chipidCidrArchSam3NxB ||| chipidCidrEprocCm3,
   chipidCidrArchSam3NxC ||| chipidCidrEprocCm3, chipidCidrArchSam3SxA ||| chipidCidrEprocCm3,
   chipidCidrArchSam3SxB ||| chipidCidrEprocCm3, chipidCidrArchSam3SxC ||| chipidCidrEprocCm3]

/-- The case labels of the SAM3U arm. -/
def sam3uCases : List (BitVec 32) :=
  [chipidCidrArchSam3UxC ||| chipidCidrEprocCm3, chipidCidrArchSam3UxE ||| chipidCidrEprocCm3]

/-- The case labels of the SAM4S arm. -/
def sam4sCases : List (BitVec 32) :=
  [chipidCidrArchSam4SxA ||| chipidCidrEprocCm4, chipidCidrArchSam4SxB ||| chipidCidrEprocCm4,
   chipidCidrArchSam4SxC ||| chipidCidrEprocCm4, chipidCidrArchSam4SDB ||| chipidCidrEprocCm4,
   chipidCidrArchSam4SDC ||| chipidCidrEprocCm4]

/-- `sam3x_probe`.  The first `sam3_add_flash` or `sam4_add_flash` of an arm asks `heap 0`,
the second `heap 1`. -/
def sam3xProbe (mem : BitVec 32 → BitVec 32) (heap : Nat → Bool) (t : Target) :
    Bool × Target :=
  let cidr := mem sam3xChipidCidr
  let size := samFlashSize cidr
  if sam3xProbeKey cidr ∈ sam3xCases then
    let t := { t with driver := "Atmel SAM3X".toList }
    let t := targetAddRam t 0x20000000 0x200000
    let t := sam3AddFlash (heap 0) t (sam3xEefcBase 0) 0x80000 (size / 2)
    let t := sam3AddFlash (heap 1) t (sam3xEefcBase 1) (0x80000 + size / 2) (size / 2)
    (true, targetAddCommands t sam3xCmdList "SAM3X")
  else
  let cidr := mem sam34nsuChipidCidr
  let size := samFlashSize cidr
  if sam3xProbeKey cidr ∈ sam3nsCases then
    let t := { t with driver := "Atmel SAM3N/S".toList }
    let t := targetAddRam t 0x20000000 0x200000
    let size := samFlashSize cidr
    let t := sam3AddFlash (heap 0) t sam3nEefcBase 0x400000 size
    (true, targetAddCommands t sam3xCmdList "SAM3N/S")
  else if sam3xProbeKey cidr ∈ sam3uCases then
    let t := { t with driver := "Atmel SAM3U".toList }
    let t := targetAddRam t 0x20000000 0x200000
    let t := sam3AddFlash (heap 0) t (sam3uEefcBase 0) 0x80000 (min size 0x80000)
    let t := if size ≥ 0x80000 then
      sam3AddFlash (heap 1) t (sam3uEefcBase 1) 0x100000 0x80000 else t
    (true, targetAddCommands t sam3xCmdList "SAM3U")
  else if sam3xProbeKey cidr ∈ sam4sCases then
    let t := { t with driver := "Atmel SAM4S".toList }
    let t := targetAddRam t 0x20000000 0x400000
    let size := samFlashSize cidr
    let t := if size ≤ 0x80000 then
      sam4AddFlash (heap 0) t (sam4sEefcBase 0) 0x400000 size
    else
      let t := sam4AddFlash (heap 0) t (sam4sEefcBase 0) 0x400000 (size / 2)
      sam4AddFlash (heap 1) t (sam4sEefcBase 1) (0x400000 + size / 2) (size / 2)
    (true, targetAddCommands t sam3xCmdList "SAM4S")
  else (false, t)

/-! ## 2. What `sam3x_probe` can do -/

/-- The arms of `sam3x_probe`. -/
inductive Sam3xFamily
  | sam3x
  | sam3ns
  | sam3u
  | sam4s
deriving DecidableEq, Repr

/-- The arm the two CIDR values select, with the value that selected it. -/
def sam3xFamily (cidr₁ cidr₂ : BitVec 32) : Option (Sam3xFamily × BitVec 32) :=
  if sam3xProbeKey cidr₁ ∈ sam3xCases then some (.sam3x, cidr₁)
  else if sam3xProbeKey cidr₂ ∈ sam3nsCases then some (.sam3ns, cidr₂)
  else if sam3xProbeKey cidr₂ ∈ sam3uCases then some (.sam3u, cidr₂)
  else if sam3xProbeKey cidr₂ ∈ sam4sCases then some (.sam4s, cidr₂)
  else none

/-- The string an arm points `t->driver` at. -/
def Sam3xFamily.driver : Sam3xFamily → List Char
  | .sam3x => "Atmel SAM3X".toList
  | .sam3ns => "Atmel SAM3N/S".toList
  | .sam3u => "Atmel SAM3U".toList
  | .sam4s => "Atmel SAM4S".toList

/-- The name an arm registers the command table under. -/
def Sam3xFamily.name : Sam3xFamily → String
  | .sam3x => "SAM3X"
  | .sam3ns => "SAM3N/S"
  | .sam3u => "SAM3U"
  | .sam4s => "SAM4S"

/-- The RAM region an arm registers. -/
def Sam3xFamily.ram : Sam3xFamily → RamRegion
  | .sam4s => ⟨0x20000000, 0x400000⟩
  | _ => ⟨0x20000000, 0x200000⟩

/-- The flash banks an arm asks for, in call order, for the decoded size `size`. -/
def Sam3xFamily.banks : Sam3xFamily → Nat → List SamFlash
  | .sam3x, size =>
    [sam3Flash (sam3xEefcBase 0) 0x80000 (size / 2),
     sam3Flash (sam3xEefcBase 1) (0x80000 + size / 2) (size / 2)]
  | .sam3ns, size => [sam3Flash sam3nEefcBase 0x400000 size]
  | .sam3u, size =>
    sam3Flash (sam3uEefcBase 0) 0x80000 (min size 0x80000) ::
      if size ≥ 0x80000 then [sam3Flash (sam3uEefcBase 1) 0x100000 0x80000] else []
  | .sam4s, size =>
    if size ≤ 0x80000 then [sam4Flash (sam4sEefcBase 0) 0x400000 size]
    else [sam4Flash (sam4sEefcBase 0) 0x400000 (size / 2),
      sam4Flash (sam4sEefcBase 1) (0x400000 + size / 2) (size / 2)]

/-- The regions of `fs` whose `calloc` succeeds, the `i`-th asking `heap i`. -/
def keptRegions (heap : Nat → Bool) : List SamFlash → List SamFlash
  | [] => []
  | f :: fs => (if heap 0 then [f] else []) ++ keptRegions (fun n => heap (n + 1)) fs

/-- With no allocation failing, every bank is kept. -/
theorem keptRegions_of_ok {heap : Nat → Bool} (h : ∀ n, heap n = true) (fs : List SamFlash) :
    keptRegions heap fs = fs := by
  obtain rfl : heap = fun _ => true := funext h
  induction fs with
  | nil => rfl
  | cons f fs ih => simp [keptRegions, ih]

/-- The kept banks are some of the banks. -/
theorem keptRegions_subset (heap : Nat → Bool) : ∀ fs, ∀ f ∈ keptRegions heap fs, f ∈ fs
  | [] => by simp [keptRegions]
  | g :: fs => by
    intro f hf
    simp only [keptRegions, List.mem_append] at hf
    rcases hf with hf | hf
    · split_ifs at hf <;> simp_all
    · exact List.mem_cons_of_mem _ (keptRegions_subset _ fs f hf)

/-- What a recognised arm leaves: its driver string, its RAM region, the banks whose
allocation succeeded and the command table. -/
def Sam3xFamily.attach (fam : Sam3xFamily) (cidr : BitVec 32) (heap : Nat → Bool)
    (t : Target) : Target :=
  { t with
    driver := fam.driver
    ram := t.ram ++ [fam.ram]
    flash := t.flash ++ keptRegions heap (fam.banks (samFlashSize cidr))
    commands := t.commands ++ [(sam3xCmdList, fam.name)] }

/-- **`sam3x_probe`, said once.**  It recognises an arm or changes nothing. -/
theorem sam3xProbe_eq (mem : BitVec 32 → BitVec 32) (heap : Nat → Bool) (t : Target) :
    sam3xProbe mem heap t =
      match sam3xFamily (mem sam3xChipidCidr) (mem sam34nsuChipidCidr) with
      | some (fam, cidr) => (true, fam.attach cidr heap t)
      | none => (false, t) := by
  -- one condition at a time, each settling the same test on both sides
  unfold sam3xProbe sam3xFamily
  by_cases h1 : sam3xProbeKey (mem sam3xChipidCidr) ∈ sam3xCases
  · rw [if_pos h1, if_pos h1]
    simp [Sam3xFamily.attach, Sam3xFamily.banks, Sam3xFamily.driver, Sam3xFamily.ram,
      Sam3xFamily.name, keptRegions, sam3AddFlash, targetAddRam, targetAddCommands]
  rw [if_neg h1, if_neg h1]
  by_cases h2 : sam3xProbeKey (mem sam34nsuChipidCidr) ∈ sam3nsCases
  · rw [if_pos h2, if_pos h2]
    simp [Sam3xFamily.attach, Sam3xFamily.banks, Sam3xFamily.driver, Sam3xFamily.ram,
      Sam3xFamily.name, keptRegions, sam3AddFlash, targetAddRam, targetAddCommands]
  rw [if_neg h2, if_neg h2]
  by_cases h3 : sam3xProbeKey (mem sam34nsuChipidCidr) ∈ sam3uCases
  · rw [if_pos h3, if_pos h3]
    simp only [Sam3xFamily.attach, Sam3xFamily.banks, Sam3xFamily.driver, Sam3xFamily.ram,
      Sam3xFamily.name]
    split_ifs <;> simp [keptRegions, sam3AddFlash, targetAddRam, targetAddCommands]
  rw [if_neg h3, if_neg h3]
  by_cases h4 : sam3xProbeKey (mem sam34nsuChipidCidr) ∈ sam4sCases
  · rw [if_pos h4, if_pos h4]
    simp only [Sam3xFamily.attach, Sam3xFamily.banks, Sam3xFamily.driver, Sam3xFamily.ram,
      Sam3xFamily.name]
    split_ifs <;> simp [keptRegions, sam4AddFlash, targetAddRam, targetAddCommands]
  rw [if_neg h4, if_neg h4]

/-! ## 3. What `samx7x_probe` can do -/

/-- What `samx7x_probe` leaves once it recognised the part: the RAM region, the flash bank if
its allocation succeeded, the command table, and, if `sam_priv_s` was allocated, the part name
as storage and driver. -/
def samx7xAttach (descr : Samx7xDescr) (heap : Nat → Bool) (t : Target) : Target :=
  let t' := { t with
    ram := t.ram ++ [⟨0x20400000, descr.ramSize⟩]
    flash := t.flash ++ keptRegions heap [sam4Flash samx7xEefcBase 0x400000 descr.flashSize]
    commands := t.commands ++ [(sam3xCmdList, "SAMX7X")] }
  if heap 1 then
    { t' with targetStorage := some ⟨samVariantString descr⟩, driver := samVariantString descr }
  else t'

/-- **`samx7x_probe`, said once.**  It recognises the part or changes nothing, and answers
what its last allocation did. -/
theorem samx7xProbe_eq (mem : BitVec 32 → BitVec 32) (heap : Nat → Bool) (t : Target) :
    samx7xProbe mem heap t =
      if mem sam3xChipidCidr &&& chipidCidrArchMask ∈ samx7xArchs then
        (heap 1, samx7xAttach (samx7xParseId (mem sam3xChipidCidr)
          (if mem sam3xChipidCidr &&& chipidCidrExt ≠ 0 then mem samxChipidExid else 0)) heap t)
      else (false, t) := by
  simp only [samx7xProbe, samx7xAttach]
  split_ifs <;> simp_all [keptRegions, sam4AddFlash, targetAddRam, targetAddCommands]

end Sam3x
