import Sam3x.Probe
/-
# What a successful probe registers

The spec promises that the flash regions one probe registers cover the decoded flash size
exactly, in contiguous, ascending banks.  The code keeps most of it, and this module proves
what it keeps for every pair of CIDR values (`probe_flash_layout`): each region is a whole
number of erase blocks, each starts where the previous one ends, all lie below the RAM region
the same call registers, and their lengths add up to `sam_flash_size`.  Two things differ.

* An `NVPSIZ` code outside the table decodes to `0`, and nothing checks for it: the SAM3X arm
  then registers two empty banks at one address, so the starts are only non-decreasing.
* The SAM3U arm caps each bank at 512 KiB and adds a fixed 512 KiB second bank when
  `size >= 0x80000`.  Above 1 MiB the banks cover 1 MiB; at exactly 512 KiB the test
  registers a second bank the comment's "larger devices" excludes, and the banks cover
  twice the decoded size.  That case is left out of the theorem.

`sam3x_flash_base` recovers the controller of bank 0 from `t->driver` by string comparison
(`flashBase_bank0`): each of the four SAM3/SAM4 arms points the driver at a string it
recognises, and no name the SAMx7x `sprintf` can print starts like any of them.

Neither probe looks at what it registered before answering, so a successful probe may have
registered only empty regions, or none (`probe_true_iff`); and `samx7x_probe` registers its
RAM, flash and commands before the allocation that can still make it fail
(`samx7xProbe_partial`).
-/

namespace Sam3x

/-! ## 1. The shape of the banks -/

/-- The flash regions registered between `t` and `t'`. -/
def addedFlash (t t' : Target) : List SamFlash := t'.flash.drop t.flash.length

theorem addedFlash_of_eq {t t' : Target} {fs : List SamFlash} (h : t'.flash = t.flash ++ fs) :
    addedFlash t t' = fs := by
  simp [addedFlash, h]

/-- What the spec asks of the regions one call registers, next to the RAM region `r` it
registers: whole erase blocks, each bank starting where the previous one ends, ordered and
disjoint, and all below the RAM. -/
structure FlashLayout (fs : List SamFlash) (r : RamRegion) : Prop where
  whole : ∀ f ∈ fs, f.length % f.blocksize = 0
  contiguous : fs.Chain' fun f g => g.start = f.start + f.length
  disjoint : fs.Pairwise fun f g => f.start + f.length ≤ g.start
  below_ram : ∀ f ∈ fs, f.start + f.length ≤ r.start

/-- What every region a probe registers satisfies, for every CIDR value and every heap: it is
one of the two kinds of region, aligned to and a whole number of its erase blocks, at most
2 MiB long, and ending below 6 MiB, so that every address in it is a `target_addr`. -/
structure ProbedRegion (f : SamFlash) : Prop where
  kind : f = sam3Flash f.eefcBase f.start f.length ∨ f = sam4Flash f.eefcBase f.start f.length
  start_mod : f.start % f.blocksize = 0
  length_mod : f.length % f.blocksize = 0
  length_le : f.length ≤ 0x200000
  end_le : f.start + f.length ≤ 0x600000

theorem sam3Flash_probed {b : BitVec 32} {a l : Nat} (ha : a % 256 = 0) (hl : l % 256 = 0)
    (hle : l ≤ 0x200000) (he : a + l ≤ 0x600000) : ProbedRegion (sam3Flash b a l) :=
  ⟨.inl rfl, ha, hl, hle, he⟩

theorem sam4Flash_probed {b : BitVec 32} {a l : Nat} (ha : a % 4096 = 0) (hl : l % 4096 = 0)
    (hle : l ≤ 0x200000) (he : a + l ≤ 0x600000) : ProbedRegion (sam4Flash b a l) :=
  ⟨.inr rfl, ha, hl, hle, he⟩

/-- One bank of whole blocks below the RAM is laid out as the spec says. -/
theorem FlashLayout.single {f : SamFlash} {r : RamRegion} (hw : f.length % f.blocksize = 0)
    (hr : f.start + f.length ≤ r.start) : FlashLayout [f] r :=
  ⟨by simpa using hw, List.chain'_singleton f, List.pairwise_singleton _ f, by simpa using hr⟩

/-- So are two banks of whole blocks, the second starting where the first ends, below the
RAM. -/
theorem FlashLayout.pair {f g : SamFlash} {r : RamRegion} (hf : f.length % f.blocksize = 0)
    (hg : g.length % g.blocksize = 0) (hc : g.start = f.start + f.length)
    (hr : g.start + g.length ≤ r.start) : FlashLayout [f, g] r :=
  ⟨by simp [hf, hg], by simp [hc], by simp; omega, by simp; omega⟩

/-- **The banks of every arm are laid out as the spec says.** -/
theorem Sam3xFamily.banks_layout (fam : Sam3xFamily) (cidr : BitVec 32) :
    FlashLayout (fam.banks (samFlashSize cidr)) fam.ram := by
  have h8 := samFlashSize_mod cidr
  have hle := samFlashSize_le cidr
  cases fam <;> simp only [Sam3xFamily.banks, Sam3xFamily.ram] <;> (try split_ifs) <;>
    (first | apply FlashLayout.single | apply FlashLayout.pair) <;>
    dsimp only [sam3Flash, sam4Flash, sam3PageSize, sam4PageSize] <;> omega

/-- Every bank of every arm is a probed region. -/
theorem Sam3xFamily.banks_probed (fam : Sam3xFamily) (cidr : BitVec 32) :
    ∀ f ∈ fam.banks (samFlashSize cidr), ProbedRegion f := by
  have h8 := samFlashSize_mod cidr
  have hle := samFlashSize_le cidr
  cases fam <;> simp only [Sam3xFamily.banks] <;> (try split_ifs) <;>
    simp only [List.mem_cons, List.not_mem_nil, or_false, forall_eq_or_imp, forall_eq] <;>
    (try apply And.intro) <;> (first | apply sam3Flash_probed | apply sam4Flash_probed) <;> omega

/-- Every arm but SAM3U covers the decoded size exactly. -/
theorem Sam3xFamily.banks_sum {fam : Sam3xFamily} (h : fam ≠ .sam3u) (cidr : BitVec 32) :
    ((fam.banks (samFlashSize cidr)).map SamFlash.length).sum = samFlashSize cidr := by
  have h8 := samFlashSize_mod cidr
  cases fam <;> simp only [Sam3xFamily.banks] <;> (try split_ifs) <;>
    simp_all [sam3Flash, sam4Flash] <;> omega

/-- The SAM3U arm covers the decoded size up to 1 MiB, whenever that size is not 512 KiB. -/
theorem sam3u_banks_sum (cidr : BitVec 32) (h : samFlashSize cidr ≠ 0x80000) :
    ((Sam3xFamily.sam3u.banks (samFlashSize cidr)).map SamFlash.length).sum =
      min (samFlashSize cidr) 0x100000 := by
  rcases samFlashSize_cases cidr with h0 | h0 | h0 | h0 | h0 | h0 | h0 | h0 | h0 | h0 <;>
    rw [h0] at h ⊢ <;> first | exact absurd rfl h | decide

/-- The CIDR value that selected an arm: the first, if it names a SAM3X, else the second. -/
theorem sam3xFamily_cidr {c₁ c₂ cidr : BitVec 32} {fam : Sam3xFamily}
    (h : sam3xFamily c₁ c₂ = some (fam, cidr)) :
    (sam3xProbeKey c₁ ∈ sam3xCases ∧ cidr = c₁) ∨ (sam3xProbeKey c₁ ∉ sam3xCases ∧ cidr = c₂) := by
  unfold sam3xFamily at h
  split_ifs at h <;> simp_all

/-- `samx7x_probe`'s registrations when no allocation fails. -/
theorem samx7xAttach_ok (descr : Samx7xDescr) {heap : Nat → Bool} (t : Target)
    (hheap : ∀ n, heap n = true) :
    samx7xAttach descr heap t =
      { t with
        ram := t.ram ++ [⟨0x20400000, descr.ramSize⟩]
        flash := t.flash ++ [sam4Flash samx7xEefcBase 0x400000 descr.flashSize]
        commands := t.commands ++ [(sam3xCmdList, "SAMX7X")]
        targetStorage := some ⟨samVariantString descr⟩
        driver := samVariantString descr } := by
  simp [samx7xAttach, hheap, keptRegions_of_ok hheap]

/-- `samx7x_probe` registers at most its one bank, whatever happens to `sam_priv_s`. -/
theorem samx7xAttach_added (descr : Samx7xDescr) (heap : Nat → Bool) (t : Target) :
    addedFlash t (samx7xAttach descr heap t) =
      keptRegions heap [sam4Flash samx7xEefcBase 0x400000 descr.flashSize] := by
  simp only [samx7xAttach]
  split_ifs <;> exact addedFlash_of_eq rfl

theorem Sam3xFamily.driver_eq_sam3u (fam : Sam3xFamily) :
    fam.driver = "Atmel SAM3U".toList ↔ fam = .sam3u := by
  cases fam <;> decide

/-! ## 2. The layout of a successful probe -/

/-- **A successful `sam3x_probe`, taken apart.**  It attached the arm the CIDR values select,
and with no allocation failing it registered exactly that arm's banks. -/
theorem sam3xProbe_true {mem : BitVec 32 → BitVec 32} {heap : Nat → Bool} {t t' : Target}
    (hheap : ∀ n, heap n = true) (h : sam3xProbe mem heap t = (true, t')) :
    ∃ fam cidr, sam3xFamily (mem sam3xChipidCidr) (mem sam34nsuChipidCidr) = some (fam, cidr) ∧
      t' = fam.attach cidr heap t ∧ addedFlash t t' = fam.banks (samFlashSize cidr) := by
  rw [sam3xProbe_eq] at h
  split at h
  · rename_i fam cidr hfam
    obtain rfl := (Prod.mk.inj h).2
    exact ⟨fam, cidr, hfam, rfl,
      addedFlash_of_eq (by simp [Sam3xFamily.attach, keptRegions_of_ok hheap])⟩
  · cases h

/-- **A successful `samx7x_probe`, taken apart.**  The architecture is listed, and the probe
attached the descriptor it decoded. -/
theorem samx7xProbe_true {mem : BitVec 32 → BitVec 32} {heap : Nat → Bool} {t t' : Target}
    (h : samx7xProbe mem heap t = (true, t')) :
    t' = samx7xAttach (samx7xParseId (mem sam3xChipidCidr)
      (if mem sam3xChipidCidr &&& chipidCidrExt ≠ 0 then mem samxChipidExid else 0)) heap t := by
  rw [samx7xProbe_eq] at h
  by_cases harch : mem sam3xChipidCidr &&& chipidCidrArchMask ∈ samx7xArchs
  · rw [if_pos harch] at h
    exact (Prod.mk.inj h).2.symm
  · rw [if_neg harch] at h
    cases h

/-- **What a successful probe registers.**  For every pair of CIDR values (and EXID), when
every allocation succeeds: the RAM region and the flash banks are laid out as `FlashLayout`
says, and the banks cover the size the selecting CIDR announces, except on the SAM3U arm, where
they cover it up to 1 MiB, whenever it is not 512 KiB. -/
theorem probe_flash_layout (mem : BitVec 32 → BitVec 32) (heap : Nat → Bool) (t : Target)
    (hheap : ∀ n, heap n = true) :
    (∀ t', sam3xProbe mem heap t = (true, t') →
      ∃ cidr r, ((sam3xProbeKey (mem sam3xChipidCidr) ∈ sam3xCases ∧ cidr = mem sam3xChipidCidr) ∨
          (sam3xProbeKey (mem sam3xChipidCidr) ∉ sam3xCases ∧ cidr = mem sam34nsuChipidCidr)) ∧
        t'.ram = t.ram ++ [r] ∧ FlashLayout (addedFlash t t') r ∧
        (t'.driver ≠ "Atmel SAM3U".toList →
          ((addedFlash t t').map SamFlash.length).sum = samFlashSize cidr) ∧
        (t'.driver = "Atmel SAM3U".toList → samFlashSize cidr ≠ 0x80000 →
          ((addedFlash t t').map SamFlash.length).sum = min (samFlashSize cidr) 0x100000)) ∧
    (∀ t', samx7xProbe mem heap t = (true, t') →
      ∃ r, t'.ram = t.ram ++ [r] ∧ FlashLayout (addedFlash t t') r ∧
        ((addedFlash t t').map SamFlash.length).sum = samFlashSize (mem sam3xChipidCidr)) := by
  constructor
  · intro t' h
    obtain ⟨fam, cidr, hfam, rfl, hadd⟩ := sam3xProbe_true hheap h
    refine ⟨cidr, fam.ram, sam3xFamily_cidr hfam, rfl, ?_, fun hd => ?_, fun hd hs => ?_⟩
    · rw [hadd]; exact fam.banks_layout cidr
    · rw [hadd]
      exact Sam3xFamily.banks_sum (fun e => hd ((fam.driver_eq_sam3u).2 e)) cidr
    · obtain rfl := (fam.driver_eq_sam3u).1 hd
      rw [hadd]; exact sam3u_banks_sum cidr hs
  · intro t' h
    have h8 := samFlashSize_mod (mem sam3xChipidCidr)
    have hle := samFlashSize_le (mem sam3xChipidCidr)
    rw [samx7xProbe_true h, samx7xAttach_ok _ _ hheap]
    refine ⟨⟨0x20400000, samSramSize (mem sam3xChipidCidr)⟩, rfl, ?_, ?_⟩ <;>
      rw [addedFlash_of_eq rfl]
    · constructor <;> simp [sam4Flash, sam4PageSize, samx7xParseId] <;> omega
    · simp [sam4Flash, samx7xParseId]

/-- A SAM3X announcing 2 MiB, probed with no allocation failing: its banks cover 2 MiB. -/
theorem probe_flash_layout_sam3x :
    (∀ n : Nat, (fun _ => true) n = true) ∧
      ∃ t' r, sam3xProbe (fun _ => 0x08400E60) (fun _ => true) ⟨[], none, [], [], []⟩ = (true, t') ∧
        FlashLayout (addedFlash ⟨[], none, [], [], []⟩ t') r ∧
        ((addedFlash ⟨[], none, [], [], []⟩ t').map SamFlash.length).sum = 0x200000 := by
  refine ⟨fun _ => rfl, ?_⟩
  obtain ⟨cidr, r, hc, -, hl, hs, -⟩ :=
    (probe_flash_layout (fun _ => 0x08400E60) (fun _ => true) ⟨[], none, [], [], []⟩
      fun _ => rfl).1 _ rfl
  refine ⟨_, r, rfl, hl, ?_⟩
  rw [hs (by decide)]
  rcases hc with ⟨-, rfl⟩ | ⟨-, rfl⟩ <;> decide

/-- **Two successful probes whose banks miss the decoded size.**  `sam3x_probe` answers `true`
on both.  A SAM3X whose `NVPSIZ` code is outside `sam_flash_size`'s table gets two empty banks,
both at `0x80000`; a SAM3U whose `NVPSIZ` announces 2 MiB gets banks that cover 1 MiB. -/
theorem probe_flash_layout_fails :
    (sam3xProbe (fun _ => 0x08400060) (fun _ => true) ⟨[], none, [], [], []⟩).1 = true ∧
      (sam3xProbe (fun _ => 0x08400060) (fun _ => true) ⟨[], none, [], [], []⟩).2.flash.map
        SamFlash.start = [0x80000, 0x80000] ∧
      (sam3xProbe (fun _ => 0x08400060) (fun _ => true) ⟨[], none, [], [], []⟩).2.flash.map
        SamFlash.length = [0, 0] ∧
      samFlashSize 0x08000E60 = 0x200000 ∧
      (sam3xProbe (fun a => if a = sam34nsuChipidCidr then 0x08000E60 else 0) (fun _ => true)
        ⟨[], none, [], [], []⟩).1 = true ∧
      ((sam3xProbe (fun a => if a = sam34nsuChipidCidr then 0x08000E60 else 0) (fun _ => true)
        ⟨[], none, [], [], []⟩).2.flash.map SamFlash.length).sum = 0x100000 := by
  decide

/-! ## 3. Every registered region -/

/-- **Every region either probe registers is a probed region**, for every CIDR and EXID value
and every pattern of allocation failures, whether the probe then succeeds or not. -/
theorem probe_added_probed (mem : BitVec 32 → BitVec 32) (heap : Nat → Bool) (t : Target)
    {f : SamFlash}
    (hf : f ∈ addedFlash t (sam3xProbe mem heap t).2 ∨ f ∈ addedFlash t (samx7xProbe mem heap t).2) :
    ProbedRegion f := by
  rcases hf with hf | hf
  · rw [sam3xProbe_eq] at hf
    split at hf
    · rename_i fam cidr _
      rw [@addedFlash_of_eq _ _ (keptRegions heap (fam.banks (samFlashSize cidr))) rfl] at hf
      exact fam.banks_probed cidr f (keptRegions_subset _ _ f hf)
    · simp [addedFlash] at hf
  · rw [samx7xProbe_eq] at hf
    by_cases harch : mem sam3xChipidCidr &&& chipidCidrArchMask ∈ samx7xArchs
    · rw [if_pos harch, samx7xAttach_added] at hf
      obtain rfl : f = _ := List.mem_singleton.1 (keptRegions_subset _ _ f hf)
      have h8 := samFlashSize_mod (mem sam3xChipidCidr)
      have hle := samFlashSize_le (mem sam3xChipidCidr)
      exact sam4Flash_probed (by decide) (by simp only [samx7xParseId]; omega) hle
        (by simp only [samx7xParseId]; omega)
    · rw [if_neg harch] at hf
      simp [addedFlash] at hf

/-! ## 4. Recovering the controller from the driver string -/

/-- `sam3x_flash_base`: the controller of bank 0, recovered from the driver string. -/
def sam3xFlashBase (t : Target) : BitVec 32 :=
  if strcmp t.driver "Atmel SAM3X".toList = 0 then sam3xEefcBase 0
  else if strcmp t.driver "Atmel SAM3U".toList = 0 then sam3uEefcBase 0
  else if strcmp t.driver "Atmel SAM4S".toList = 0 then sam4sEefcBase 0
  else if strcmp t.driver "Atmel SAM3N/S".toList = 0 then sam3nEefcBase
  else samx7xEefcBase

/-- `sam3x_flash_base` reads the driver string and nothing else. -/
theorem sam3xFlashBase_eq {t : Target} {d : List Char} (h : t.driver = d) :
    sam3xFlashBase t = sam3xFlashBase ⟨d, none, [], [], []⟩ := by
  simp only [sam3xFlashBase, h]

/-- Each arm's driver string leads back to the controller of its first bank. -/
theorem Sam3xFamily.banks_head (fam : Sam3xFamily) (size : Nat) :
    (fam.banks size).head?.map SamFlash.eefcBase =
      some (sam3xFlashBase ⟨fam.driver, none, [], [], []⟩) := by
  cases fam <;> simp only [Sam3xFamily.banks] <;> (try split_ifs) <;>
    simp only [List.head?_cons, Option.map_some', sam3Flash, sam4Flash] <;> decide

/-- No SAMx7x part name starts like the four SAM3/SAM4 driver strings. -/
theorem strcmp_samVariantString (d : Samx7xDescr) :
    ∀ s ∈ ["Atmel SAM3X", "Atmel SAM3U", "Atmel SAM4S", "Atmel SAM3N/S"],
      strcmp (samVariantString d) s.toList ≠ 0 := by
  intro s hs
  simp only [List.mem_cons, List.not_mem_nil, or_false] at hs
  rcases hs with rfl | rfl | rfl | rfl <;> exact strcmp_ne_of_head (by decide)

/-- In a layout, the first region has the lowest address. -/
theorem FlashLayout.head_le {fs : List SamFlash} {r : RamRegion} {f : SamFlash}
    (h : FlashLayout fs r) (hf : fs.head? = some f) : ∀ g ∈ fs, f.start ≤ g.start := by
  obtain ⟨gs, rfl⟩ : ∃ gs, fs = f :: gs := by
    cases fs with
    | nil => cases hf
    | cons f' gs => exact ⟨gs, by simp_all⟩
  have hp := h.disjoint
  simp only [List.pairwise_cons] at hp
  intro g hg
  rcases List.mem_cons.1 hg with rfl | hg
  · exact le_rfl
  · have := hp.1 g hg
    omega

/-- **`sam3x_flash_base` agrees with the probes.**  After a successful probe with every
allocation succeeding, the controller recovered from the driver string is that of the
lowest-addressed bank the probe registered; no SAMx7x part name is one of the four SAM3/SAM4
driver strings. -/
theorem flashBase_bank0 (mem : BitVec 32 → BitVec 32) (heap : Nat → Bool) (t : Target)
    (hheap : ∀ n, heap n = true) :
    (∀ t', sam3xProbe mem heap t = (true, t') →
      ∃ f, (addedFlash t t').head? = some f ∧ (∀ g ∈ addedFlash t t', f.start ≤ g.start) ∧
        sam3xFlashBase t' = f.eefcBase) ∧
    (∀ t', samx7xProbe mem heap t = (true, t') →
      ∃ f, (addedFlash t t').head? = some f ∧ (∀ g ∈ addedFlash t t', f.start ≤ g.start) ∧
        sam3xFlashBase t' = f.eefcBase) ∧
    ∀ d : Samx7xDescr, ∀ s ∈ ["Atmel SAM3X", "Atmel SAM3U", "Atmel SAM4S", "Atmel SAM3N/S"],
      strcmp (samVariantString d) s.toList ≠ 0 := by
  refine ⟨fun t' h => ?_, fun t' h => ?_, strcmp_samVariantString⟩
  · obtain ⟨fam, cidr, -, rfl, hadd⟩ := sam3xProbe_true hheap h
    obtain ⟨f, hf, hb⟩ := Option.map_eq_some'.1 (fam.banks_head (samFlashSize cidr))
    rw [hadd]
    exact ⟨f, hf, (fam.banks_layout cidr).head_le hf,
      by rw [sam3xFlashBase_eq (d := fam.driver) rfl, hb]⟩
  · rw [samx7xProbe_true h, samx7xAttach_added, keptRegions_of_ok hheap]
    refine ⟨_, rfl, by simp, ?_⟩
    rw [samx7xAttach_ok _ _ hheap]
    -- the part name is none of the four driver strings
    have hs := strcmp_samVariantString (samx7xParseId (mem sam3xChipidCidr)
      (if mem sam3xChipidCidr &&& chipidCidrExt ≠ 0 then mem samxChipidExid else 0))
    simp only [List.mem_cons, List.not_mem_nil, or_false, forall_eq_or_imp, forall_eq] at hs
    simp only [sam3xFlashBase, if_neg hs.1, if_neg hs.2.1, if_neg hs.2.2.1, if_neg hs.2.2.2]
    rfl

/-- A SAME70 and a SAM3U, probed with no allocation failing: the controller recovered from the
driver string is that of bank 0, the SAM3U's at `0x400E0800`. -/
theorem flashBase_bank0_same70_sam3u :
    (∀ n : Nat, (fun _ => true) n = true) ∧
      (∃ t' f, samx7xProbe (fun _ => 0xA1020E00) (fun _ => true) ⟨[], none, [], [], []⟩ =
          (true, t') ∧
        (addedFlash ⟨[], none, [], [], []⟩ t').head? = some f ∧ sam3xFlashBase t' = f.eefcBase) ∧
      ∃ t' f, sam3xProbe (fun a => if a = sam34nsuChipidCidr then 0x08000960 else 0)
          (fun _ => true) ⟨[], none, [], [], []⟩ = (true, t') ∧
        (addedFlash ⟨[], none, [], [], []⟩ t').head? = some f ∧ sam3xFlashBase t' = f.eefcBase ∧
        f.eefcBase = 0x400E0800 := by
  obtain ⟨f, hf, -, hb⟩ := (flashBase_bank0
    (fun a => if a = sam34nsuChipidCidr then 0x08000960 else 0) (fun _ => true)
    ⟨[], none, [], [], []⟩ fun _ => rfl).1 (sam3xProbe
      (fun a => if a = sam34nsuChipidCidr then 0x08000960 else 0) (fun _ => true)
      ⟨[], none, [], [], []⟩).2 rfl
  obtain ⟨g, hg, -, hgb⟩ :=
    (flashBase_bank0 (fun _ => 0xA1020E00) (fun _ => true) ⟨[], none, [], [], []⟩
      fun _ => rfl).2.1 _ rfl
  have h0 : (addedFlash ⟨[], none, [], [], []⟩ (sam3xProbe
      (fun a => if a = sam34nsuChipidCidr then 0x08000960 else 0) (fun _ => true)
      ⟨[], none, [], [], []⟩).2).head?.map SamFlash.eefcBase = some 0x400E0800 := by
    decide
  rw [hf] at h0
  exact ⟨fun _ => rfl, ⟨_, g, rfl, hg, hgb⟩, _, f, rfl, hf, hb, Option.some.inj h0⟩

/-! ## 5. When a probe answers `true` -/

/-- **What a probe's answer depends on.**  `sam3x_probe` answers `true` exactly when one of
the CIDR values names an arm, whatever the flash size and the allocations; `samx7x_probe`
exactly when the architecture is listed and the allocation of `sam_priv_s` succeeds. -/
theorem probe_true_iff (mem : BitVec 32 → BitVec 32) (heap : Nat → Bool) (t : Target) :
    ((sam3xProbe mem heap t).1 = true ↔
      sam3xProbeKey (mem sam3xChipidCidr) ∈ sam3xCases ∨
        sam3xProbeKey (mem sam34nsuChipidCidr) ∈ sam3nsCases ++ sam3uCases ++ sam4sCases) ∧
    ((samx7xProbe mem heap t).1 = true ↔
      mem sam3xChipidCidr &&& chipidCidrArchMask ∈ samx7xArchs ∧ heap 1 = true) := by
  constructor
  · rw [sam3xProbe_eq]
    unfold sam3xFamily
    split_ifs <;> simp_all
  · rw [samx7xProbe_eq]
    split_ifs <;> simp_all

/-- **A successful probe may have registered no usable flash.**  A SAM3X with an unlisted
`NVPSIZ` code answers `true` with two empty banks, and one whose allocations all fail answers
`true` with none. -/
theorem probe_true_empty :
    ((sam3xProbe (fun _ => 0x08400060) (fun _ => true) ⟨[], none, [], [], []⟩).1 = true ∧
      ∀ f ∈ (sam3xProbe (fun _ => 0x08400060) (fun _ => true) ⟨[], none, [], [], []⟩).2.flash,
        f.length = 0) ∧
    (sam3xProbe (fun _ => 0x08400E60) (fun _ => false) ⟨[], none, [], [], []⟩).1 = true ∧
      (sam3xProbe (fun _ => 0x08400E60) (fun _ => false) ⟨[], none, [], [], []⟩).2.flash = [] := by
  decide

/-! ## 6. When a probe answers `false` -/

/-- **`samx7x_probe` fails after registering.**  For a SAME70 with 2 MiB of flash, when the
flash region's allocation succeeds and that of `sam_priv_s` fails, the probe answers `false`
and leaves the RAM region, the flash bank and the command table registered, on every
target. -/
theorem samx7xProbe_partial (t : Target) :
    samx7xProbe (fun a => if a = sam3xChipidCidr then 0xA1020E00 else 0x2) (fun n => n == 0) t =
      (false, { t with
        ram := t.ram ++ [⟨0x20400000, 0x60000⟩]
        flash := t.flash ++ [sam4Flash samx7xEefcBase 0x400000 0x200000]
        commands := t.commands ++ [(sam3xCmdList, "SAMX7X")] }) := by
  have harch : (0xA1020E00 : BitVec 32) &&& chipidCidrArchMask ∈ samx7xArchs := by decide
  have hext : (0xA1020E00 : BitVec 32) &&& chipidCidrExt ≠ 0 := by decide
  have hexid : samxChipidExid ≠ sam3xChipidCidr := by decide
  have hd : samx7xParseId 0xA1020E00 0x2 = ⟨'E', 70, 'Q', 0x60000, 0x200000, 21, '_'⟩ := by
    decide
  rw [samx7xProbe_eq, if_pos rfl, if_neg hexid, if_pos harch, if_pos hext, hd]
  simp [samx7xAttach, keptRegions]

end Sam3x
