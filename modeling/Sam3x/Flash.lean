import Sam3x.Port
import Sam3x.Layout
/-
# Erasing and programming a region

`sam4_flash_erase` issues one `EPA` command per erase block of the range: it starts at page
`(addr - f->start) / SAM4_PAGE_SIZE`, passes `chunk | 1` (eight pages) through an `int16_t` to
the `uint16_t` argument of `sam3x_flash_cmd`, and moves on by eight pages and one block, until
the length is used up or a command fails.  `sam3_flash_erase` does nothing: the SAM3 program
command `EWP` erases its page itself.  `sam3x_flash_write` stages the data with
`target_mem_write` and then programs the page `(dest - f->start) / f->buf_size` with the
region's write command.

Every routine runs over any `Port`.  `sam4FlashEraseLoop_eq` turns the `while` loop into
`Port.issueEach` over the closed list of its arguments, for every port; on the spec's sequencer
`sam4FlashErase_spec` then reads off the commands and the result for every sequence of results.

The arithmetic is in `uint32_t` (`offset32`) and `uint16_t`, as in the code.  For every region
either probe registers, `probe_command_args` shows that none of it wraps: the page a write
programs is below `2 ^ 16`, and every erase argument below `2 ^ 15`, so that the `int16_t`
keeps it.
-/

namespace Sam3x

variable {σ : Type}

/-! ## 1. The routines -/

/-- `addr - f->start` for two `target_addr`s: a `uint32_t` subtraction. -/
def offset32 (addr start : Nat) : Nat :=
  (BitVec.ofNat 32 addr - BitVec.ofNat 32 start).toNat

/-- `int16_t arg = chunk | 0x1`, passed on as the `uint16_t` argument of `sam3x_flash_cmd`. -/
def epaArg (chunk : Nat) : BitVec 16 :=
  BitVec.ofInt 16 (BitVec.ofNat 16 (chunk ||| 1)).toInt

/-- The `while (len)` loop of `sam4_flash_erase`, at page `chunk` with `len` bytes left. -/
def sam4FlashEraseLoop (p : Port σ) (f : SamFlash) (chunk len : Nat) (s : σ) :
    Option (Int × σ) :=
  if len = 0 then some (0, s)
  else
    match p.flashCmd f.eefcBase eefcFcrFcmdEpa (epaArg chunk) s with
    | none => none
    | some (r, s) =>
      if r ≠ 0 then some (-1, s)
      else sam4FlashEraseLoop p f (chunk + 8) (if len > f.blocksize then len - f.blocksize else 0) s
termination_by len
decreasing_by have := f.blocksize_pos; split <;> omega

/-- `sam4_flash_erase`. -/
def sam4FlashErase (p : Port σ) (f : SamFlash) (addr len : Nat) (s : σ) : Option (Int × σ) :=
  sam4FlashEraseLoop p f (offset32 addr f.start / sam4PageSize) len s

/-- `sam3_flash_erase`: nothing to do, `EWP` erases each page it programs. -/
def sam3FlashErase (_p : Port σ) (_f : SamFlash) (_addr _len : Nat) (s : σ) : Option (Int × σ) :=
  some (0, s)

/-- `f->erase(f, addr, len)`: the routine the region's `erase` pointer names. -/
def flashErase (p : Port σ) (f : SamFlash) (addr len : Nat) (s : σ) : Option (Int × σ) :=
  match f.erase with
  | .sam3FlashErase => sam3FlashErase p f addr len s
  | .sam4FlashErase => sam4FlashErase p f addr len s

/-- `sam3x_flash_write`: stage `len` bytes at `dest`, then program page
`(dest - f->start) / f->buf_size`, narrowed to the `uint16_t` argument. -/
def sam3xFlashWrite (p : Port σ) (f : SamFlash) (dest len : Nat) (s : σ) : Option (Int × σ) :=
  let chunk := offset32 dest f.start / f.bufSize
  let s := p.memWrite dest len s
  match p.flashCmd f.eefcBase f.writeCmd (BitVec.ofNat 16 chunk) s with
  | none => none
  | some (r, s) => some (if r ≠ 0 then -1 else 0, s)

/-- Inside the 32-bit address space the `uint32_t` subtraction does not wrap. -/
theorem offset32_eq {addr start : Nat} (h : start ≤ addr) (h32 : addr < 2 ^ 32) :
    offset32 addr start = addr - start := by
  simp only [offset32, BitVec.toNat_sub, BitVec.toNat_ofNat]
  omega

/-- The `int16_t` round trip keeps the low sixteen bits of `chunk | 1`. -/
theorem epaArg_eq (chunk : Nat) : epaArg chunk = BitVec.ofNat 16 (chunk ||| 1) := by
  apply BitVec.eq_of_toNat_eq
  have h := (BitVec.ofNat 16 (chunk ||| 1)).isLt
  rw [epaArg, BitVec.toNat_ofInt, BitVec.toInt_eq_toNat_cond]
  split <;> omega

/-- Below `2 ^ 15` the `int16_t` holds `chunk | 1` itself. -/
theorem toInt_ofNat_of_lt {x : Nat} (h : x < 2 ^ 15) : (BitVec.ofNat 16 x).toInt = x := by
  rw [BitVec.toInt_eq_toNat_cond, BitVec.toNat_ofNat]
  split <;> omega

/-! ## 2. The erase loop issues a closed list of commands -/

/-- Issue `cmd` to the controller at `base` with each argument of `args` in turn, stopping with
`-1` right after the first command that does not return `0`, and returning `0` if none does. -/
def Port.issueEach (p : Port σ) (base : BitVec 32) (cmd : BitVec 8) :
    List (BitVec 16) → σ → Option (Int × σ)
  | [], s => some (0, s)
  | a :: as, s =>
    match p.flashCmd base cmd a s with
    | none => none
    | some (r, s) => if r ≠ 0 then some (-1, s) else p.issueEach base cmd as s

/-- The arguments of `n` erase commands from page `chunk` on. -/
def eraseArgs (chunk : Nat) : Nat → List (BitVec 16)
  | 0 => []
  | n + 1 => epaArg chunk :: eraseArgs (chunk + 8) n

theorem eraseArgs_eq_map (chunk n : Nat) :
    eraseArgs chunk n = (List.range n).map fun k => epaArg (chunk + 8 * k) := by
  induction n generalizing chunk with
  | zero => rfl
  | succ n ih =>
    rw [eraseArgs, ih, List.range_succ_eq_map, List.map_cons, List.map_map]
    congr 2
    funext k
    simp only [Function.comp, Nat.add_zero, Nat.mul_zero]
    congr 1
    omega

/-- The first `k` erase commands, in closed form. -/
theorem eraseArgs_take_map (base : BitVec 32) (chunk n k : Nat) :
    ((eraseArgs chunk n).take k).map (Event.flashCmd base eefcFcrFcmdEpa) =
      (List.range (min k n)).map fun j =>
        Event.flashCmd base eefcFcrFcmdEpa (BitVec.ofNat 16 ((chunk + 8 * j) ||| 1)) := by
  rw [eraseArgs_eq_map, ← List.map_take, List.take_range, List.map_map]
  simp only [Function.comp_def, epaArg_eq]

/-- One block less leaves one command less: the `len` update of the loop against
`ceil (len / blocksize)`. -/
theorem ceilDiv_step {len bs : Nat} (hbs : 0 < bs) (hlen : len ≠ 0) :
    (len + bs - 1) / bs = ((if len > bs then len - bs else 0) + bs - 1) / bs + 1 := by
  split
  · rw [show len + bs - 1 = (len - bs + bs - 1) + bs by omega, Nat.add_div_right _ hbs]
  · rw [Nat.zero_add, Nat.div_eq_of_lt (show bs - 1 < bs by omega),
      Nat.div_eq_of_lt_le (show 1 * bs ≤ len + bs - 1 by omega)
        (show len + bs - 1 < (1 + 1) * bs by omega)]

/-- **The erase loop in closed form**, on every port: `ceil (len / blocksize)` commands, the
`k`-th with argument `(chunk + 8 k) | 1`, stopping at the first that fails. -/
theorem sam4FlashEraseLoop_eq (p : Port σ) (f : SamFlash) (chunk len : Nat) (s : σ) :
    sam4FlashEraseLoop p f chunk len s = p.issueEach f.eefcBase eefcFcrFcmdEpa
      (eraseArgs chunk ((len + f.blocksize - 1) / f.blocksize)) s := by
  induction len using Nat.strong_induction_on generalizing chunk s with
  | _ len ih =>
    by_cases hlen : len = 0
    · subst hlen
      rw [sam4FlashEraseLoop, if_pos rfl, Nat.zero_add,
        Nat.div_eq_of_lt (Nat.sub_lt f.blocksize_pos Nat.one_pos)]
      rfl
    · rw [sam4FlashEraseLoop, if_neg hlen, ceilDiv_step f.blocksize_pos hlen, eraseArgs,
        Port.issueEach]
      rcases p.flashCmd f.eefcBase eefcFcrFcmdEpa (epaArg chunk) s with _ | ⟨r, s'⟩
      · rfl
      · by_cases hr : r = 0
        · simp only [hr, ne_eq, not_true_eq_false, if_false]
          exact ih _ (by have := f.blocksize_pos; split <;> omega) _ _
        · simp only [hr, ne_eq, not_false_eq_true, if_true]

/-! ## 3. On the sequencer -/

/-- One command of `issueEach` on the sequencer: it returns the next result. -/
theorem Host.issueEach_cons (base : BitVec 32) (cmd : BitVec 8) (a : BitVec 16)
    (as : List (BitVec 16)) (h : Host) :
    Port.host.issueEach base cmd (a :: as) h =
      if h.results 0 ≠ 0 then some (-1, h.skip 1 0 [.flashCmd base cmd a])
      else Port.host.issueEach base cmd as (h.skip 1 0 [.flashCmd base cmd a]) := rfl

/-- Every command returns `0`: all are issued, and the result is `0`. -/
theorem Host.issueEach_zero (base : BitVec 32) (cmd : BitVec 8) :
    ∀ (args : List (BitVec 16)) (h : Host), (∀ k < args.length, h.results k = 0) →
      Port.host.issueEach base cmd args h =
        some (0, h.skip args.length 0 (args.map (.flashCmd base cmd)))
  | [], h, _ => by simp [Port.issueEach]
  | a :: as, h, hz => by
    have ih := Host.issueEach_zero base cmd as (h.skip 1 0 [.flashCmd base cmd a])
      (fun k hk => by simpa using hz (k + 1) (by simp; omega))
    rw [Host.issueEach_cons, if_neg (not_not.2 (hz 0 (by simp))), ih]
    simp only [Host.skip_skip, List.length_cons, List.map_cons, Nat.add_comm 1]
    rfl

/-- The `k`-th command is the first not to return `0`: the first `k + 1` are issued, and the
result is `-1`. -/
theorem Host.issueEach_fail (base : BitVec 32) (cmd : BitVec 8) :
    ∀ (args : List (BitVec 16)) (h : Host) (k : Nat), k < args.length →
      (∀ j < k, h.results j = 0) → h.results k ≠ 0 →
      Port.host.issueEach base cmd args h =
        some (-1, h.skip (k + 1) 0 ((args.take (k + 1)).map (.flashCmd base cmd)))
  | [], _, _, hk, _, _ => absurd hk (Nat.not_lt_zero _)
  | a :: as, h, 0, _, _, hr => by
    rw [Host.issueEach_cons, if_pos hr]
    rfl
  | a :: as, h, k + 1, hk, hz, hr => by
    have ih := Host.issueEach_fail base cmd as (h.skip 1 0 [.flashCmd base cmd a]) k
      (by simpa using hk) (fun j hj => by simpa using hz (j + 1) (by omega)) (by simpa using hr)
    rw [Host.issueEach_cons, if_neg (not_not.2 (hz 0 (by omega))), ih]
    simp only [Host.skip_skip, List.take_succ_cons, List.map_cons, Nat.add_comm 1]
    rfl

/-- **`sam4_flash_erase` on the sequencer.**  For every region (`sam4_add_flash` builds them with
eight-page blocks) and every `addr` in the address space from its start on, the erase issues
`EPA` commands with arguments `((addr - start) / 512 + 8 k) | 1` for `k = 0, 1, …`: all
`n = ceil (len / blocksize)` of them, returning `0`, if they all return `0`, and otherwise the
first `k + 1` up to the first that does not, returning `-1`.  For `len = 0` it issues none. -/
theorem sam4FlashErase_spec (f : SamFlash) (addr len : Nat) (h : Host)
    (hstart : f.start ≤ addr) (haddr : addr < 2 ^ 32) :
    let n := (len + f.blocksize - 1) / f.blocksize
    let epa := fun k => Event.flashCmd f.eefcBase eefcFcrFcmdEpa
      (BitVec.ofNat 16 (((addr - f.start) / sam4PageSize + 8 * k) ||| 1))
    ((∀ k < n, h.results k = 0) →
      sam4FlashErase Port.host f addr len h = some (0, h.skip n 0 ((List.range n).map epa))) ∧
    (∀ k < n, (∀ j < k, h.results j = 0) → h.results k ≠ 0 →
      sam4FlashErase Port.host f addr len h =
        some (-1, h.skip (k + 1) 0 ((List.range (k + 1)).map epa))) := by
  intro n epa
  have hlen : (eraseArgs (offset32 addr f.start / sam4PageSize)
      ((len + f.blocksize - 1) / f.blocksize)).length = n := by
    simp [eraseArgs_eq_map, n]
  have hcmds : ∀ k ≤ n, ((eraseArgs (offset32 addr f.start / sam4PageSize)
      ((len + f.blocksize - 1) / f.blocksize)).take k).map (.flashCmd f.eefcBase eefcFcrFcmdEpa) =
      (List.range k).map epa := fun k hk => by
    rw [eraseArgs_take_map, Nat.min_eq_left hk, offset32_eq hstart haddr]
  refine ⟨fun hz => ?_, fun k hk hz hr => ?_⟩
  · rw [sam4FlashErase, sam4FlashEraseLoop_eq, Host.issueEach_zero _ _ _ _ (hlen ▸ hz),
      ← hcmds n le_rfl, List.take_of_length_le (le_of_eq hlen), hlen]
  · rw [sam4FlashErase, sam4FlashEraseLoop_eq, Host.issueEach_fail _ _ _ _ k (hlen ▸ hk) hz hr,
      hcmds (k + 1) hk]

/-- Erasing `0x1001` bytes from page 1 of the SAME70 bank, both commands returning `0`: two
commands, on pages `1` and `9`. -/
theorem sam4FlashErase_spec_same70 :
    sam4FlashErase Port.host (sam4Flash samx7xEefcBase 0x400000 0x200000) 0x400200 0x1001
        ⟨fun _ => 0, fun _ => 0, []⟩ =
      some (0, (⟨fun _ => 0, fun _ => 0, []⟩ : Host).skip 2 0
        [.flashCmd samx7xEefcBase eefcFcrFcmdEpa 1, .flashCmd samx7xEefcBase eefcFcrFcmdEpa 9]) :=
  (sam4FlashErase_spec (sam4Flash samx7xEefcBase 0x400000 0x200000) 0x400200 0x1001
    ⟨fun _ => 0, fun _ => 0, []⟩ (by decide) (by decide)).1 fun _ _ => rfl

/-! ## 4. No argument wraps -/

/-- Whatever the results, `issueEach` issues a prefix of its commands. -/
theorem Host.issueEach_prefix (base : BitVec 32) (cmd : BitVec 8) :
    ∀ (args : List (BitVec 16)) (h : Host), ∃ r k, k ≤ args.length ∧
      Port.host.issueEach base cmd args h =
        some (r, h.skip k 0 ((args.take k).map (.flashCmd base cmd)))
  | [], h => ⟨0, 0, le_rfl, by simp [Port.issueEach]⟩
  | a :: as, h => by
    by_cases hr : h.results 0 = 0
    · obtain ⟨r, k, hk, he⟩ :=
        Host.issueEach_prefix base cmd as (h.skip 1 0 [.flashCmd base cmd a])
      refine ⟨r, k + 1, by simpa using hk, ?_⟩
      rw [Host.issueEach_cons, if_neg (not_not.2 hr), he]
      simp only [Host.skip_skip, List.take_succ_cons, List.map_cons, Nat.add_comm 1]
      rfl
    · refine ⟨-1, 1, by simp, ?_⟩
      rw [Host.issueEach_cons, if_pos hr]
      rfl

/-- `sam3x_flash_write` on the sequencer: one staging write, then one command. -/
theorem sam3xFlashWrite_host (f : SamFlash) (dest len : Nat) (h : Host) :
    sam3xFlashWrite Port.host f dest len h = some (if h.results 0 ≠ 0 then -1 else 0,
      h.skip 1 0 [.memWrite dest len,
        .flashCmd f.eefcBase f.writeCmd (BitVec.ofNat 16 (offset32 dest f.start / f.bufSize))]) := by
  simp [sam3xFlashWrite]

/-- A sixteen-bit argument below `2 ^ 16` widens back to itself. -/
theorem setWidth_ofNat_of_lt {i : Nat} (h : i < 2 ^ 16) :
    (BitVec.ofNat 16 i).setWidth 32 = BitVec.ofNat 32 i := by
  apply BitVec.eq_of_toNat_eq
  simp only [BitVec.toNat_setWidth, BitVec.toNat_ofNat]
  omega

/-- The page size of a probed region is `256` or `512`. -/
theorem ProbedRegion.bufSize_eq {f : SamFlash} (hf : ProbedRegion f) :
    f.bufSize = 256 ∨ f.bufSize = 512 := by
  rcases hf.kind with hk | hk <;> rw [hk]
  exacts [.inl rfl, .inr rfl]

/-- **No page index or erase argument wraps.**  For every region either probe registers: the
page `(d - start) / buf_size` that `sam3x_flash_write` programs for an address `d` of the region
is below `2 ^ 16`, so the write issues exactly that index with the region's write command, and
the command word carries it in bits 23..8 and the opcode in bits 7..0; and for every range of
the region the erase issues a prefix of its `EPA` commands whose arguments `chunk | 1` are all
below `2 ^ 15`, so the `int16_t` holds each of them unchanged. -/
theorem probe_command_args (mem : BitVec 32 → BitVec 32) (heap : Nat → Bool) (t : Target)
    {R : SamFlash}
    (hR : R ∈ addedFlash t (sam3xProbe mem heap t).2 ∨ R ∈ addedFlash t (samx7xProbe mem heap t).2) :
    (∀ d len (h : Host), R.start ≤ d → d < R.start + R.length →
      (d - R.start) / R.bufSize < 2 ^ 16 ∧
      sam3xFlashWrite Port.host R d len h = some (if h.results 0 ≠ 0 then -1 else 0,
        h.skip 1 0 [.memWrite d len,
          .flashCmd R.eefcBase R.writeCmd (BitVec.ofNat 16 ((d - R.start) / R.bufSize))]) ∧
      (eefcFcrWord R.writeCmd (BitVec.ofNat 16 ((d - R.start) / R.bufSize)) >>> 8) &&& 0xFFFF =
        BitVec.ofNat 32 ((d - R.start) / R.bufSize) ∧
      eefcFcrWord R.writeCmd (BitVec.ofNat 16 ((d - R.start) / R.bufSize)) &&& 0xFF =
        R.writeCmd.setWidth 32) ∧
    (∀ a L (h : Host), R.start ≤ a → a + L ≤ R.start + R.length →
      ∃ r k, flashErase Port.host R a L h = some (r, h.skip k 0 ((List.range k).map fun j =>
          .flashCmd R.eefcBase eefcFcrFcmdEpa
            (BitVec.ofNat 16 (((a - R.start) / sam4PageSize + 8 * j) ||| 1)))) ∧
        ∀ j < k, ((a - R.start) / sam4PageSize + 8 * j) ||| 1 < 2 ^ 15 ∧
          (BitVec.ofNat 16 (((a - R.start) / sam4PageSize + 8 * j) ||| 1)).toInt =
            (((a - R.start) / sam4PageSize + 8 * j) ||| 1 : Nat)) := by
  have hp := probe_added_probed mem heap t hR
  have hend := hp.end_le
  have hle := hp.length_le
  refine ⟨fun d len h hd hd' => ?_, fun a L h ha haL => ?_⟩
  · -- the write: the index is below `2 ^ 21 / 256`
    have hi : (d - R.start) / R.bufSize < 2 ^ 16 := by
      rcases hp.bufSize_eq with hb | hb <;> rw [hb] <;> omega
    have hw := eefcFcrWord_fields R.writeCmd (BitVec.ofNat 16 ((d - R.start) / R.bufSize))
    rw [setWidth_ofNat_of_lt hi] at hw
    exact ⟨hi, by rw [sam3xFlashWrite_host, offset32_eq hd (by omega)], hw.2.2, hw.2.1⟩
  · rcases hp.kind with hk | hk
    · -- a SAM3 region issues no erase command
      have he : R.erase = .sam3FlashErase := by rw [hk]; rfl
      refine ⟨0, 0, ?_, fun j hj => absurd hj (Nat.not_lt_zero j)⟩
      simp [flashErase, he, sam3FlashErase]
    · -- a SAM4 region: `ceil (L / 4096)` blocks from page `(a - start) / 512` stay below page 4096
      have he : R.erase = .sam4FlashErase := by rw [hk]; rfl
      have hb : R.blocksize = 4096 := by rw [hk]; rfl
      obtain ⟨r, k, hk, hrun⟩ := Host.issueEach_prefix R.eefcBase eefcFcrFcmdEpa
        (eraseArgs (offset32 a R.start / sam4PageSize) ((L + R.blocksize - 1) / R.blocksize)) h
      simp only [eraseArgs_eq_map, List.length_map, List.length_range] at hk
      refine ⟨r, k, ?_, fun j hj => ?_⟩
      · rw [flashErase, he]
        simp only
        rw [sam4FlashErase, sam4FlashEraseLoop_eq, hrun, eraseArgs_take_map, Nat.min_eq_left hk,
          offset32_eq ha (by omega)]
      · have hc : (a - R.start) / sam4PageSize + 8 * j < 2 ^ 12 := by
          rw [hb] at hk
          simp only [sam4PageSize]
          omega
        have hc1 := Nat.or_lt_two_pow hc (show 1 < 2 ^ 12 by norm_num)
        exact ⟨by omega, toInt_ofNat_of_lt (by omega)⟩

/-- The second bank of a SAM3X with 2 MiB: its last page, `4095`, fits the argument. -/
theorem probe_command_args_sam3x :
    sam3Flash (sam3xEefcBase 1) 0x180000 0x100000 ∈ addedFlash ⟨[], none, [], [], []⟩
        (sam3xProbe (fun _ => 0x08400E60) (fun _ => true) ⟨[], none, [], [], []⟩).2 ∧
      (0x27FF00 - 0x180000) / 256 < 2 ^ 16 :=
  have hR : sam3Flash (sam3xEefcBase 1) 0x180000 0x100000 ∈ addedFlash ⟨[], none, [], [], []⟩
      (sam3xProbe (fun _ => 0x08400E60) (fun _ => true) ⟨[], none, [], [], []⟩).2 := by
    decide
  ⟨hR, ((probe_command_args _ _ _ (.inl hR)).1 0x27FF00 256 ⟨fun _ => 0, fun _ => 0, []⟩
    (by decide) (by decide)).1⟩

end Sam3x
