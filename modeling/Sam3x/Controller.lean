import Sam3x.Flash
/-
# Erase before program

The flash controller is not part of the driver; this module gives it the page model the
driver is written against.  A bank is a row of pages of the region's page size, each `stale`
(as it was before the run), `erased` or `programmed`.  `EPA` with argument `a` and tag
`a % 4 = 1` erases the eight pages `8 ⌊a / 8⌋ … 8 ⌊a / 8⌋ + 7`; `EWP p` erases page `p` and
programs it; `WP p` programs page `p`, which is correct only on an erased page.  `eefcRun`
replays the flash commands of a sequencer's log on the pages, and fails at the first command
that is not correct.

The run the driver's users perform on a region is an erase of `[a, a + L)` followed by one
write per page that meets the range (`eraseWriteRun`).  On a SAM3 region the erase does nothing
and every `EWP` erases its own page.  On a SAM4 region the erase starts at page
`(a - start) / 512` and issues `ceil (L / 4096)` commands, but each `EPA` erases the whole
aligned group of eight pages holding its page.  From a block boundary the groups are exactly
the blocks of the range, and every `WP` finds its page erased (`eraseWrite_pages`).  From inside
a block the first group starts below the range and the last pages of the range are never
erased: the `WP` on them is not correct (`eraseWrite_unaligned`).
-/

namespace Sam3x

variable {σ : Type}

/-! ## 1. The page model -/

/-- What a page holds during a run. -/
inductive Page
  | stale
  | erased
  | programmed
deriving DecidableEq, Repr

/-- One command on the pages of a bank, or `none` when it is not correct: a `WP` on a page that
is not erased, an `EPA` without the eight-page tag, or an opcode that does not program. -/
def eefcExec (pages : Nat → Page) (cmd : BitVec 8) (arg : Nat) : Option (Nat → Page) :=
  if cmd = eefcFcrFcmdEpa then
    if arg % 4 = 1 then some fun q => if q / 8 = arg / 8 then .erased else pages q else none
  else if cmd = eefcFcrFcmdEwp then some fun q => if q = arg then .programmed else pages q
  else if cmd = eefcFcrFcmdWp then
    if pages arg = .erased then some fun q => if q = arg then .programmed else pages q else none
  else none

/-- One event of a log on the pages: only flash commands act. -/
def eefcStep (pages : Nat → Page) : Event → Option (Nat → Page)
  | .flashCmd _ cmd arg => eefcExec pages cmd arg.toNat
  | .memWrite _ _ | .memRead32 _ | .tcPrintf _ => some pages

/-- Replay a log on the pages. -/
def eefcRun (pages : Nat → Page) (log : List Event) : Option (Nat → Page) :=
  log.foldlM eefcStep pages

@[simp] theorem eefcRun_nil (pages : Nat → Page) : eefcRun pages [] = some pages := rfl

@[simp] theorem eefcRun_cons (pages : Nat → Page) (e : Event) (log : List Event) :
    eefcRun pages (e :: log) = (eefcStep pages e).bind fun pages => eefcRun pages log := rfl

theorem eefcRun_append (pages : Nat → Page) (l₁ l₂ : List Event) :
    eefcRun pages (l₁ ++ l₂) = (eefcRun pages l₁).bind fun pages => eefcRun pages l₂ := by
  simp only [eefcRun, List.foldlM_append]
  rfl

/-! ## 2. The run -/

/-- The run of an erase and the writes after it: `f->erase(f, a, L)`, then
`f->write(f, d, …, buf_size)` for each `d` of `ds` in turn, every result set aside. -/
def eraseWriteRun (p : Port σ) (f : SamFlash) (a L : Nat) (ds : List Nat) (s : σ) : Option σ :=
  (flashErase p f a L s).bind fun (_, s) =>
    ds.foldlM (fun s d => (sam3xFlashWrite p f d f.bufSize s).map Prod.snd) s

/-- The page the write command for `dest` addresses. -/
def writePage (f : SamFlash) (dest : Nat) : Nat :=
  (BitVec.ofNat 16 (offset32 dest f.start / f.bufSize)).toNat

/-- What the writes of `ds` leave in the sequencer's log. -/
def writeLog (f : SamFlash) : List Nat → List Event
  | [] => []
  | d :: ds => .memWrite d f.bufSize ::
      .flashCmd f.eefcBase f.writeCmd (BitVec.ofNat 16 (offset32 d f.start / f.bufSize)) ::
      writeLog f ds

/-- On the sequencer the writes append their log, whatever the results. -/
theorem writes_host (f : SamFlash) :
    ∀ (ds : List Nat) (h : Host),
      ds.foldlM (fun s d => (sam3xFlashWrite Port.host f d f.bufSize s).map Prod.snd) h =
        some (h.skip ds.length 0 (writeLog f ds))
  | [], h => by simp [writeLog]
  | d :: ds, h => by
    rw [List.foldlM_cons, sam3xFlashWrite_host]
    refine (writes_host f ds _).trans ?_
    simp only [Host.skip_skip, writeLog, List.length_cons, Nat.add_comm 1]
    rfl

/-- On the sequencer with every result `0`, a SAM4 erase logs its commands. -/
theorem sam4FlashErase_host_zero (f : SamFlash) (addr len : Nat) {h : Host}
    (hz : ∀ k, h.results k = 0) :
    sam4FlashErase Port.host f addr len h = some (0, h.skip ((len + f.blocksize - 1) / f.blocksize) 0
      ((eraseArgs (offset32 addr f.start / sam4PageSize)
        ((len + f.blocksize - 1) / f.blocksize)).map (.flashCmd f.eefcBase eefcFcrFcmdEpa))) := by
  rw [sam4FlashErase, sam4FlashEraseLoop_eq, Host.issueEach_zero _ _ _ _ fun k _ => hz k]
  simp [eraseArgs_eq_map]

/-! ## 3. Replaying the erase and the writes -/

/-- The group `EPA` erases for the argument `chunk + 1` of an aligned page is the eight pages
from `chunk` on. -/
theorem epaGroup_iff {chunk q : Nat} (h8 : chunk % 8 = 0) :
    q / 8 = (chunk + 1) / 8 ↔ chunk ≤ q ∧ q < chunk + 8 := by
  omega

/-- `n` erase commands from an aligned page `chunk` below `2 ^ 15` erase pages
`chunk … chunk + 8 n - 1`. -/
theorem eefcRun_eraseArgs (base : BitVec 32) :
    ∀ (n chunk : Nat) (pages : Nat → Page), chunk % 8 = 0 → chunk + 8 * n ≤ 2 ^ 15 →
      eefcRun pages ((eraseArgs chunk n).map (.flashCmd base eefcFcrFcmdEpa)) =
        some fun q => if chunk ≤ q ∧ q < chunk + 8 * n then .erased else pages q
  | 0, chunk, pages, _, _ => by
    simp only [eraseArgs, List.map_nil, eefcRun_nil, Option.some.injEq]
    funext q
    split_ifs <;> first | rfl | omega
  | n + 1, chunk, pages, h8, hn => by
    have harg : (epaArg chunk).toNat = chunk + 1 := by
      rw [epaArg_eq, BitVec.toNat_ofNat, lor_eq_add (k := 1) (by omega) (by norm_num)]
      omega
    have hexec : eefcStep pages (.flashCmd base eefcFcrFcmdEpa (epaArg chunk)) =
        some fun q => if chunk ≤ q ∧ q < chunk + 8 then .erased else pages q := by
      simp only [eefcStep, eefcExec, harg, if_true, if_pos (show (chunk + 1) % 4 = 1 by omega),
        epaGroup_iff h8]
    rw [eraseArgs, List.map_cons, eefcRun_cons, hexec, Option.some_bind,
      eefcRun_eraseArgs base n (chunk + 8) _ (by omega) (by omega), Option.some.injEq]
    funext q
    split_ifs <;> first | rfl | omega

/-- The writes of `ds`, on distinct pages, program each of them, provided every `WP` finds its
page erased. -/
theorem eefcRun_writeLog (f : SamFlash)
    (hw : f.writeCmd = eefcFcrFcmdEwp ∨ f.writeCmd = eefcFcrFcmdWp) :
    ∀ (ds : List Nat) (pages : Nat → Page), (ds.map (writePage f)).Nodup →
      (f.writeCmd = eefcFcrFcmdWp → ∀ d ∈ ds, pages (writePage f d) = .erased) →
      eefcRun pages (writeLog f ds) =
        some fun q => if q ∈ ds.map (writePage f) then .programmed else pages q
  | [], pages, _, _ => by simp [writeLog]
  | d :: ds, pages, hnd, herased => by
    have hnd' := List.nodup_cons.1 hnd
    -- the write of `d` programs its page
    have hstep : eefcStep pages
        (.flashCmd f.eefcBase f.writeCmd (BitVec.ofNat 16 (offset32 d f.start / f.bufSize))) =
        some fun q => if q = writePage f d then .programmed else pages q := by
      show eefcExec pages f.writeCmd (writePage f d) = _
      rcases hw with hc | hc <;> rw [eefcExec, hc]
      · simp only [if_neg (show eefcFcrFcmdEwp ≠ eefcFcrFcmdEpa by decide), if_true]
      · simp only [if_neg (show eefcFcrFcmdWp ≠ eefcFcrFcmdEpa by decide),
          if_neg (show eefcFcrFcmdWp ≠ eefcFcrFcmdEwp by decide), if_true,
          herased hc d (List.mem_cons_self d ds)]
    have ih := eefcRun_writeLog f hw ds
      (fun q => if q = writePage f d then .programmed else pages q) hnd'.2 fun hc d' hd' => by
        dsimp only
        rw [if_neg fun (he : writePage f d' = writePage f d) =>
          hnd'.1 (he ▸ List.mem_map_of_mem (writePage f) hd')]
        exact herased hc d' (List.mem_cons_of_mem d hd')
    have hmw : eefcStep pages (.memWrite d f.bufSize) = some pages := rfl
    simp only [writeLog, eefcRun_cons, hmw, hstep, Option.some_bind, ih, Option.some.injEq]
    funext q
    by_cases hq : q = writePage f d
    · simp [hq]
    · simp only [List.map_cons, List.mem_cons, hq, false_or, if_false]

/-! ## 4. Erase before program -/

section Run

variable {R : SamFlash} {a L : Nat} {ds : List Nat}

/-- A probed region is a whole number of pages. -/
theorem ProbedRegion.bufSize_dvd (hp : ProbedRegion R) : R.bufSize ∣ R.length := by
  have hlm := hp.length_mod
  rcases hp.kind with hk | hk <;> rw [hk] at hlm ⊢ <;>
    simp only [sam3Flash, sam4Flash, sam3PageSize, sam4PageSize] at hlm ⊢ <;> omega

section Writes

/- The writes of a run inside a probed region: page-aligned addresses of the region, each
meeting the range `[a, a + L)`. -/
variable (hp : ProbedRegion R) (haL : a + L ≤ R.start + R.length)
  (hd : ∀ d ∈ ds, R.start ≤ d ∧ (d - R.start) % R.bufSize = 0 ∧ a < d + R.bufSize ∧ d < a + L)
include hp haL hd

/-- Each write's page is its offset over the page size. -/
theorem writePage_eq : ∀ d ∈ ds, writePage R d = (d - R.start) / R.bufSize := fun d hd' => by
  obtain ⟨h1, -, -, h4⟩ := hd d hd'
  have := hp.end_le
  rw [writePage, offset32_eq h1 (by omega), BitVec.toNat_ofNat]
  rcases hp.bufSize_eq with hb | hb <;> rw [hb] <;> omega

/-- Distinct writes address distinct pages. -/
theorem writePage_nodup (hds : ds.Nodup) : (ds.map (writePage R)).Nodup := by
  refine hds.map_on fun x hx y hy hxy => ?_
  rw [writePage_eq hp haL hd x hx, writePage_eq hp haL hd y hy] at hxy
  obtain ⟨hx1, hx2, -, -⟩ := hd x hx
  obtain ⟨hy1, hy2, -, -⟩ := hd y hy
  rcases hp.bufSize_eq with hb | hb <;> rw [hb] at hxy hx2 hy2 <;> omega

/-- No write addresses a page at or beyond the end of the region. -/
theorem writePage_not_mem {q : Nat} (hq : R.length / R.bufSize ≤ q) :
    q ∉ ds.map (writePage R) := by
  simp only [List.mem_map, not_exists, not_and]
  intro d hd' he
  obtain ⟨h1, -, -, h4⟩ := hd d hd'
  have hlt := Nat.div_lt_div_of_lt_of_dvd hp.bufSize_dvd (show d - R.start < R.length by omega)
  rw [← writePage_eq hp haL hd d hd', he] at hlt
  omega

end Writes

/-- **Every page is erased before it is programmed.**  For every region either probe registers
and every range `[a, a + L)` inside it that starts on an erase block when the region has the
`EPA` command, the erase followed by the writes of distinct page-aligned addresses meeting the
range, with every command returning `0`, replays on the page model without an incorrect
command: every page written ends programmed, and every page beyond the region is left as it
was. -/
theorem eraseWrite_pages (mem : BitVec 32 → BitVec 32) (heap : Nat → Bool) (t : Target)
    (hR : R ∈ addedFlash t (sam3xProbe mem heap t).2 ∨ R ∈ addedFlash t (samx7xProbe mem heap t).2)
    (ha : R.start ≤ a) (haL : a + L ≤ R.start + R.length)
    (halign : R.erase = .sam3FlashErase ∨ (a - R.start) % R.blocksize = 0) (hds : ds.Nodup)
    (hd : ∀ d ∈ ds, R.start ≤ d ∧ (d - R.start) % R.bufSize = 0 ∧ a < d + R.bufSize ∧ d < a + L)
    (reads : Nat → BitVec 32) :
    ∃ h pages, eraseWriteRun Port.host R a L ds ⟨fun _ => 0, reads, []⟩ = some h ∧
      eefcRun (fun _ => .stale) h.log = some pages ∧
      (∀ d ∈ ds, pages ((d - R.start) / R.bufSize) = .programmed) ∧
      ∀ q, R.length / R.bufSize ≤ q → pages q = .stale := by
  have hp := probe_added_probed mem heap t hR
  have hwp := writePage_eq hp haL hd
  have hnd := writePage_nodup hp haL hd hds
  have hend := hp.end_le
  have hlen := hp.length_le
  have hlm := hp.length_mod
  rcases hp.kind with hk | hk
  · -- SAM3: the erase issues nothing, and each `EWP` erases its own page
    have he : R.erase = .sam3FlashErase := by rw [hk]; rfl
    have hw : R.writeCmd = eefcFcrFcmdEwp := by rw [hk]; rfl
    have hrun := eefcRun_writeLog R (.inl hw) ds (fun _ => .stale) hnd
      fun hc => absurd (hw.symm.trans hc) (by decide)
    refine ⟨(⟨fun _ => 0, reads, []⟩ : Host).skip ds.length 0 (writeLog R ds), _, ?_, hrun,
      fun d hd' => ?_, fun q hq => ?_⟩
    · rw [eraseWriteRun, flashErase, he]
      exact writes_host R ds _
    · simp [← hwp d hd', List.mem_map_of_mem _ hd']
    · simp [writePage_not_mem hp haL hd hq]
  · -- SAM4: the `EPA` groups from the block of `a` on cover every page written
    have he : R.erase = .sam4FlashErase := by rw [hk]; rfl
    have hw : R.writeCmd = eefcFcrFcmdWp := by rw [hk]; rfl
    have hb : R.bufSize = 512 ∧ R.blocksize = 4096 := by rw [hk]; exact ⟨rfl, rfl⟩
    have h4k : (a - R.start) % 4096 = 0 := by
      rcases halign with h | h
      · exact absurd (he.symm.trans h) (by decide)
      · rwa [hb.2] at h
    rw [hb.2] at hlm
    obtain ⟨c, hc⟩ : ∃ c, offset32 a R.start / sam4PageSize = c := ⟨_, rfl⟩
    obtain ⟨n, hn⟩ : ∃ n, (L + R.blocksize - 1) / R.blocksize = n := ⟨_, rfl⟩
    have hc' : c = (a - R.start) / 512 := by rw [← hc, offset32_eq ha (by omega)]; rfl
    have hn' : n = (L + 4096 - 1) / 4096 := by rw [← hn, hb.2]
    have hrun := eefcRun_eraseArgs R.eefcBase n c (fun _ => .stale) (by omega) (by omega)
    have hwrun := eefcRun_writeLog R (.inr hw) ds
      (fun q => if c ≤ q ∧ q < c + 8 * n then .erased else .stale) hnd fun _ d hd' => by
        obtain ⟨h1, h2, h3, h4⟩ := hd d hd'
        rw [hb.1] at h2 h3
        rw [hwp d hd', hb.1]
        exact if_pos (by omega)
    refine ⟨((⟨fun _ => 0, reads, []⟩ : Host).skip n 0
      ((eraseArgs c n).map (.flashCmd R.eefcBase eefcFcrFcmdEpa))).skip ds.length 0
        (writeLog R ds), fun q => if q ∈ ds.map (writePage R) then .programmed
          else if c ≤ q ∧ q < c + 8 * n then .erased else .stale, ?_, ?_, fun d hd' => ?_,
        fun q hq => ?_⟩
    · rw [eraseWriteRun, flashErase, he]
      simp only
      rw [sam4FlashErase_host_zero R a L fun _ => rfl, hc, hn, Option.some_bind]
      exact writes_host R ds _
    · show eefcRun _
        ((eraseArgs c n).map (.flashCmd R.eefcBase eefcFcrFcmdEpa) ++ writeLog R ds) = _
      rw [eefcRun_append, hrun, Option.some_bind]
      exact hwrun
    · simp [← hwp d hd', List.mem_map_of_mem _ hd']
    · -- the erased groups end inside the region too
      simp only [writePage_not_mem hp haL hd hq, if_false]
      rw [hb.1] at hq
      rw [if_neg (by omega)]

/-- A SAM4S with 512 KiB, erasing and writing the second block: eight pages written. -/
theorem eraseWrite_pages_sam4s :
    ∃ h pages, eraseWriteRun Port.host (sam4Flash (sam4sEefcBase 0) 0x400000 0x80000) 0x401000
        0x1000 ((List.range 8).map fun i => 0x401000 + 0x200 * i) ⟨fun _ => 0, fun _ => 0, []⟩ =
          some h ∧
      eefcRun (fun _ => .stale) h.log = some pages ∧
      (∀ d ∈ (List.range 8).map (fun i => 0x401000 + 0x200 * i),
        pages ((d - 0x400000) / 0x200) = .programmed) ∧
      ∀ q, 0x80000 / 0x200 ≤ q → pages q = .stale :=
  eraseWrite_pages (fun a => if a = sam34nsuChipidCidr then 0x08800AE0 else 0) (fun _ => true)
    ⟨[], none, [], [], []⟩ (.inl (by decide)) (by decide) (by decide) (.inr (by decide))
    (by decide) (by decide) _

/-- **Erasing from inside a block skips the last pages.**  On the same SAM4S, erasing `4096`
bytes from page 1 issues one `EPA` with argument `1`, which erases pages 0 to 7.  The run
returns; its last command is the `WP` of page 8, and replaying every command before it leaves
page 8 as it was before the run, so the replay fails at that `WP`. -/
theorem eraseWrite_unaligned :
    sam4Flash (sam4sEefcBase 0) 0x400000 0x80000 ∈ addedFlash ⟨[], none, [], [], []⟩
        (sam3xProbe (fun a => if a = sam34nsuChipidCidr then 0x08800AE0 else 0) (fun _ => true)
          ⟨[], none, [], [], []⟩).2 ∧
      ∃ h, eraseWriteRun Port.host (sam4Flash (sam4sEefcBase 0) 0x400000 0x80000) 0x400200
          0x1000 ((List.range 8).map fun i => 0x400200 + 0x200 * i) ⟨fun _ => 0, fun _ => 0, []⟩ =
            some h ∧
        h.log.getLast? = some (.flashCmd (sam4sEefcBase 0) eefcFcrFcmdWp 8) ∧
        (eefcRun (fun _ => .stale) h.log.dropLast).map (fun pages => pages 8) = some .stale ∧
        eefcRun (fun _ => .stale) h.log = none := by
  refine ⟨by decide, ((⟨fun _ => 0, fun _ => 0, []⟩ : Host).skip 1 0
    [.flashCmd (sam4sEefcBase 0) eefcFcrFcmdEpa 1]).skip 8 0
      (writeLog (sam4Flash (sam4sEefcBase 0) 0x400000 0x80000)
        ((List.range 8).map fun i => 0x400200 + 0x200 * i)), ?_, by decide, by decide, by rfl⟩
  simp only [eraseWriteRun, flashErase, sam4Flash, sam4FlashErase, sam4FlashEraseLoop_eq]
  rfl

end Run

end Sam3x
