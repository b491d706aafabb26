import Sam3x.Basic
/-
# `sam3x_flash_cmd`: one command over the debug link

`sam3x_flash_cmd` writes one word to `EEFC_FCR` and then polls `EEFC_FSR`: while `FRDY` is
clear it asks `target_check_error` whether the link failed, and returns `-1` if so; once
`FRDY` is set it reads `EEFC_FSR` again and returns its two error bits.  There is no timeout.

The link is an oracle (`Link`): `reads n` is what the `n`-th coming `target_mem_read32`
answers and `errors n` what the `n`-th coming `target_check_error` answers, so every status
sequence and every moment of link loss is some `Link`.  The loop runs on `fuel`: `none`
means the fuel ran out with the controller busy and the link up, which is the only way the
code fails to return.

`sam3xFlashCmd_spec` gives the whole contract: the command word and its three fields, the
exact trace and result up to the first read with `FRDY` or the first reported error, no
return at all when neither ever comes, and the five values the result can take.
-/

namespace Sam3x

/-! ## 1. The link -/

/-- One thing the host does over the debug link: a register write or read, an error check, a
bulk write of `len` bytes at `dest` (`target_mem_write`; the bytes are left out), or a line
sent to the console (`tc_printf`). -/
inductive Access
  | memWrite32 (addr val : BitVec 32)
  | memRead32 (addr : BitVec 32)
  | checkError
  | memWrite (dest len : Nat)
  | tcPrintf (text : List Char)
deriving DecidableEq, Repr

/-- The debug link as the host sees it: what the coming reads and error checks answer, and
the accesses made so far, oldest first. -/
structure Link where
  reads : Nat → BitVec 32
  errors : Nat → Bool
  trace : List Access

/-- The link after `r` more reads and `e` more error checks, which left `acc` in the trace. -/
def Link.skip (l : Link) (r e : Nat) (acc : List Access) : Link where
  reads n := l.reads (n + r)
  errors n := l.errors (n + e)
  trace := l.trace ++ acc

/-- Modelled from the spec: `target_mem_write32` (not among the sources) writes one word. -/
def Link.targetMemWrite32 (l : Link) (addr val : BitVec 32) : Link :=
  l.skip 0 0 [.memWrite32 addr val]

/-- Modelled from the spec: `target_mem_read32` (not among the sources) answers the next read. -/
def Link.targetMemRead32 (l : Link) (addr : BitVec 32) : BitVec 32 × Link :=
  (l.reads 0, l.skip 1 0 [.memRead32 addr])

/-- Modelled from the spec: `target_check_error` (not among the sources) reports whether the
link failed. -/
def Link.targetCheckError (l : Link) : Bool × Link :=
  (l.errors 0, l.skip 0 1 [.checkError])

@[simp] theorem Link.skip_skip (l : Link) (r e r' e' : Nat) (acc acc' : List Access) :
    (l.skip r e acc).skip r' e' acc' = l.skip (r + r') (e + e') (acc ++ acc') := by
  simp only [Link.skip, List.append_assoc, Link.mk.injEq, and_true]
  constructor <;> funext n <;> congr 1 <;> omega

@[simp] theorem Link.skip_reads (l : Link) (r e : Nat) (acc : List Access) (n : Nat) :
    (l.skip r e acc).reads n = l.reads (n + r) := rfl

@[simp] theorem Link.skip_errors (l : Link) (r e : Nat) (acc : List Access) (n : Nat) :
    (l.skip r e acc).errors n = l.errors (n + e) := rfl

/-! ## 2. The command word -/

/-- The word `sam3x_flash_cmd` writes: `EEFC_FCR_FKEY | cmd | ((uint32_t)arg << 8)`. -/
def eefcFcrWord (cmd : BitVec 8) (arg : BitVec 16) : BitVec 32 :=
  eefcFcrFkey ||| cmd.setWidth 32 ||| arg.setWidth 32 <<< 8

/-- Or-ing a value into the low bits of a multiple of `2 ^ k` adds it. -/
theorem lor_eq_add {a b k : Nat} (ha : a % 2 ^ k = 0) (hb : b < 2 ^ k) : a ||| b = a + b := by
  obtain ⟨q, rfl⟩ := Nat.dvd_of_mod_eq_zero ha
  exact (Nat.mul_add_lt_is_or hb q).symm

/-- The three fields of the command word do not overlap, so the word is their sum. -/
theorem eefcFcrWord_toNat (cmd : BitVec 8) (arg : BitVec 16) :
    (eefcFcrWord cmd arg).toNat = 0x5A000000 + arg.toNat * 0x100 + cmd.toNat := by
  have hc := cmd.isLt
  have ha := arg.isLt
  have hk : eefcFcrFkey.toNat = 0x5A000000 := by decide
  have hA : (arg.setWidth 32 <<< 8).toNat = arg.toNat * 0x100 := by
    simp only [BitVec.toNat_shiftLeft, BitVec.toNat_setWidth, Nat.shiftLeft_eq]
    omega
  have hC : (cmd.setWidth 32).toNat = cmd.toNat := by
    simp only [BitVec.toNat_setWidth]
    omega
  rw [eefcFcrWord, BitVec.toNat_or, BitVec.toNat_or, hk, hA, hC, Nat.lor_assoc,
    Nat.lor_comm cmd.toNat, ← Nat.lor_assoc,
    lor_eq_add (a := 0x5A000000) (k := 24) (by omega) (by omega),
    lor_eq_add (k := 8) (by omega) (by omega)]

/-- **The command word decodes back**: key in bits 31..24, opcode in 7..0, argument in 23..8. -/
theorem eefcFcrWord_fields (cmd : BitVec 8) (arg : BitVec 16) :
    eefcFcrWord cmd arg >>> 24 = 0x5A ∧ eefcFcrWord cmd arg &&& 0xFF = cmd.setWidth 32 ∧
      (eefcFcrWord cmd arg >>> 8) &&& 0xFFFF = arg.setWidth 32 := by
  have hw := eefcFcrWord_toNat cmd arg
  have hc := cmd.isLt
  have ha := arg.isLt
  have m8 : ∀ x : Nat, x &&& 255 = x % 256 := fun x => Nat.and_pow_two_sub_one_eq_mod x 8
  have m16 : ∀ x : Nat, x &&& 65535 = x % 65536 := fun x => Nat.and_pow_two_sub_one_eq_mod x 16
  have k90 : (0x5A : BitVec 32).toNat = 90 := rfl
  have k255 : (0xFF : BitVec 32).toNat = 255 := rfl
  have k65535 : (0xFFFF : BitVec 32).toNat = 65535 := rfl
  refine ⟨?_, ?_, ?_⟩ <;> apply BitVec.eq_of_toNat_eq <;>
    simp only [BitVec.toNat_ushiftRight, BitVec.toNat_and, BitVec.toNat_setWidth, hw, k90, k255,
      k65535, Nat.shiftRight_eq_div_pow, Nat.reducePow, m8, m16] <;>
    omega

/-! ## 3. The status word -/

/-- A mask below 8 reads only the low three bits. -/
theorem land_eq_mod_eight (n c : Nat) (hc : c < 2 ^ 3) : n &&& c = n % 8 &&& c := by
  rw [← Nat.and_pow_two_sub_one_eq_mod n 3, Nat.land_assoc, Nat.land_comm (2 ^ 3 - 1),
    Nat.and_pow_two_sub_one_of_lt_two_pow hc]

/-- The error bits of a status word, as the number `sam3x_flash_cmd` returns. -/
theorem fsrError_toNat (v : BitVec 32) : (v &&& eefcFsrError).toNat = v.toNat % 8 &&& 6 := by
  rw [BitVec.toNat_and, show eefcFsrError.toNat = 6 from rfl, land_eq_mod_eight _ _ (by norm_num)]

/-- The error bits are `0`, `2`, `4` or `6`. -/
theorem fsrError_mem (v : BitVec 32) : ((v &&& eefcFsrError).toNat : Int) ∈ [0, 2, 4, 6] := by
  rw [fsrError_toNat]
  have := Nat.mod_lt v.toNat (show 8 > 0 by norm_num)
  generalize v.toNat % 8 = m at *
  interval_cases m <;> decide

/-- The error bits are `0` exactly when neither `FCMDE` nor `FLOCKE` is set. -/
theorem fsrError_eq_zero (v : BitVec 32) :
    (v &&& eefcFsrError).toNat = 0 ↔ v &&& eefcFsrFcmde = 0 ∧ v &&& eefcFsrFlocke = 0 := by
  rw [fsrError_toNat, BitVec.toNat_eq, BitVec.toNat_eq, BitVec.toNat_and, BitVec.toNat_and,
    show eefcFsrFcmde.toNat = 2 from rfl, show eefcFsrFlocke.toNat = 4 from rfl,
    land_eq_mod_eight _ 2 (by norm_num), land_eq_mod_eight _ 4 (by norm_num)]
  have := Nat.mod_lt v.toNat (show 8 > 0 by norm_num)
  generalize v.toNat % 8 = m at *
  interval_cases m <;> decide

/-! ## 4. The polling loop -/

/-- How the polling loop of `sam3x_flash_cmd` ends. -/
inductive Poll
  | ready (l : Link)
  | failed (l : Link)

/-- The `while` loop of `sam3x_flash_cmd`, for at most `fuel` iterations: read `EEFC_FSR`,
leave on `FRDY`, otherwise return `-1` if `target_check_error` reports a failure. -/
def pollFrdy (base : BitVec 32) : Nat → Link → Option Poll
  | 0, _ => none
  | fuel + 1, l =>
    let (sr, l) := l.targetMemRead32 (eefcFsr base)
    if sr &&& eefcFsrFrdy = 0 then
      let (err, l) := l.targetCheckError
      if err then some (.failed l) else pollFrdy base fuel l
    else some (.ready l)

/-- `sam3x_flash_cmd`, whose polling loop runs for at most `fuel` iterations. -/
def sam3xFlashCmd (fuel : Nat) (base : BitVec 32) (cmd : BitVec 8) (arg : BitVec 16)
    (l : Link) : Option (Int × Link) :=
  let l := l.targetMemWrite32 (eefcFcr base) (eefcFcrWord cmd arg)
  match pollFrdy base fuel l with
  | none => none
  | some (.failed l) => some (-1, l)
  | some (.ready l) =>
    let (sr, l) := l.targetMemRead32 (eefcFsr base)
    some ((sr &&& eefcFsrError).toNat, l)

/-- The trace of `i` iterations that found the controller busy and the link up. -/
def busyTrace (base : BitVec 32) : Nat → List Access
  | 0 => []
  | i + 1 => .memRead32 (eefcFsr base) :: .checkError :: busyTrace base i

/-- The first `i` iterations find the controller busy and the link up: no read among them has
`FRDY`, and no error check after them fails. -/
def Busy (l : Link) (i : Nat) : Prop :=
  ∀ j < i, l.reads j &&& eefcFsrFrdy = 0 ∧ l.errors j = false

theorem Busy.succ_iff {l : Link} {i : Nat} :
    Busy l (i + 1) ↔ Busy l i ∧ (l.reads i &&& eefcFsrFrdy = 0 ∧ l.errors i = false) := by
  refine ⟨fun h => ⟨fun j hj => h j (by omega), h i (by omega)⟩, fun ⟨h, hi⟩ j hj => ?_⟩
  rcases Nat.lt_succ_iff_lt_or_eq.1 hj with hj | rfl
  exacts [h j hj, hi]

/-- A link that is not busy for `n` iterations has a first iteration that leaves the loop. -/
theorem Busy.exists_first {l : Link} {n : Nat} (h : ¬Busy l n) :
    ∃ i < n, Busy l i ∧ ¬(l.reads i &&& eefcFsrFrdy = 0 ∧ l.errors i = false) := by
  induction n with
  | zero => exact absurd (fun j hj => absurd hj (Nat.not_lt_zero j)) h
  | succ n ih =>
    by_cases hn : Busy l n
    · exact ⟨n, by omega, hn, fun hc => h (Busy.succ_iff.2 ⟨hn, hc⟩)⟩
    · obtain ⟨i, hi, hb, hs⟩ := ih hn
      exact ⟨i, by omega, hb, hs⟩

/-- The first iteration that leaves the loop is unique. -/
theorem Busy.first_unique {l : Link} {i j : Nat} (hi : Busy l i)
    (si : ¬(l.reads i &&& eefcFsrFrdy = 0 ∧ l.errors i = false)) (hj : Busy l j)
    (sj : ¬(l.reads j &&& eefcFsrFrdy = 0 ∧ l.errors j = false)) : i = j := by
  rcases Nat.lt_trichotomy i j with h | h | h
  exacts [absurd (hj i h) si, h, absurd (hi j h) sj]

@[simp] theorem Link.busy_skip_zero (l : Link) (acc : List Access) (i : Nat) :
    Busy (l.skip 0 0 acc) i ↔ Busy l i := by
  simp [Busy]

/-- One iteration that finds the controller busy and the link up. -/
theorem pollFrdy_busy (base : BitVec 32) (fuel : Nat) {l : Link}
    (hr : l.reads 0 &&& eefcFsrFrdy = 0) (he : l.errors 0 = false) :
    pollFrdy base (fuel + 1) l =
      pollFrdy base fuel (l.skip 1 1 [.memRead32 (eefcFsr base), .checkError]) := by
  simp [pollFrdy, Link.targetMemRead32, Link.targetCheckError, hr, he]

/-- A read with `FRDY` leaves the loop. -/
theorem pollFrdy_ready (base : BitVec 32) (fuel : Nat) {l : Link}
    (hr : l.reads 0 &&& eefcFsrFrdy ≠ 0) :
    pollFrdy base (fuel + 1) l = some (.ready (l.skip 1 0 [.memRead32 (eefcFsr base)])) := by
  simp only [pollFrdy, Link.targetMemRead32]
  rw [if_neg hr]

/-- A failed error check after a read without `FRDY` leaves the loop. -/
theorem pollFrdy_failed (base : BitVec 32) (fuel : Nat) {l : Link}
    (hr : l.reads 0 &&& eefcFsrFrdy = 0) (he : l.errors 0 = true) :
    pollFrdy base (fuel + 1) l =
      some (.failed (l.skip 1 1 [.memRead32 (eefcFsr base), .checkError])) := by
  simp [pollFrdy, Link.targetMemRead32, Link.targetCheckError, hr, he]

/-- **The busy stretch.**  `i` busy iterations consume `i` reads and `i` error checks. -/
theorem pollFrdy_run (base : BitVec 32) (fuel : Nat) :
    ∀ (i : Nat) (l : Link), Busy l i →
      pollFrdy base (fuel + i) l = pollFrdy base fuel (l.skip i i (busyTrace base i))
  | 0, l, _ => by simp [Link.skip, busyTrace]
  | i + 1, l, h => by
    obtain ⟨hr, he⟩ := h 0 (by omega)
    have ih := pollFrdy_run base fuel i (l.skip 1 1 [.memRead32 (eefcFsr base), .checkError])
      (fun j hj => by simpa [Nat.add_comm] using h (j + 1) (by omega))
    rw [← Nat.add_assoc, pollFrdy_busy base _ hr he, ih, Link.skip_skip]
    simp [busyTrace, Nat.add_comm]

/-! ## 5. `sam3x_flash_cmd` -/

section FlashCmd

variable (base : BitVec 32) (cmd : BitVec 8) (arg : BitVec 16) {l : Link} {fuel i : Nat}

/-- The write that issues the command. -/
abbrev fcrWrite : Access := .memWrite32 (eefcFcr base) (eefcFcrWord cmd arg)

/-- A link busy for all the fuel: the command never returns. -/
theorem sam3xFlashCmd_busy (h : Busy l fuel) : sam3xFlashCmd fuel base cmd arg l = none := by
  have hrun := pollFrdy_run base 0 fuel (l.targetMemWrite32 (eefcFcr base) (eefcFcrWord cmd arg))
    (by simpa [Link.targetMemWrite32] using h)
  rw [Nat.zero_add] at hrun
  simp only [sam3xFlashCmd, hrun, pollFrdy]

/-- The loop leaves at iteration `i` on a failed error check: the result is `-1`. -/
theorem sam3xFlashCmd_failed (hb : Busy l i) (hr : l.reads i &&& eefcFsrFrdy = 0)
    (he : l.errors i = true) (hi : i < fuel) :
    sam3xFlashCmd fuel base cmd arg l = some (-1, l.skip (i + 1) (i + 1)
      (fcrWrite base cmd arg :: busyTrace base i ++ [.memRead32 (eefcFsr base), .checkError])) := by
  obtain ⟨k, rfl⟩ : ∃ k, fuel = k + 1 + i := ⟨fuel - i - 1, by omega⟩
  rw [sam3xFlashCmd, pollFrdy_run base (k + 1) i _ (by simpa [Link.targetMemWrite32] using hb),
    pollFrdy_failed base k (by simpa [Link.targetMemWrite32] using hr)
      (by simpa [Link.targetMemWrite32] using he)]
  simp [Link.targetMemWrite32]

/-- The loop leaves at iteration `i` on `FRDY`: the result is the error bits of one more read. -/
theorem sam3xFlashCmd_ready (hb : Busy l i) (hr : l.reads i &&& eefcFsrFrdy ≠ 0) (hi : i < fuel) :
    sam3xFlashCmd fuel base cmd arg l = some (((l.reads (i + 1) &&& eefcFsrError).toNat : Int),
      l.skip (i + 2) i (fcrWrite base cmd arg :: busyTrace base i ++
        [.memRead32 (eefcFsr base), .memRead32 (eefcFsr base)])) := by
  obtain ⟨k, rfl⟩ : ∃ k, fuel = k + 1 + i := ⟨fuel - i - 1, by omega⟩
  rw [sam3xFlashCmd, pollFrdy_run base (k + 1) i _ (by simpa [Link.targetMemWrite32] using hb),
    pollFrdy_ready base k (by simpa [Link.targetMemWrite32] using hr)]
  simp [Link.targetMemWrite32, Link.targetMemRead32]

/-- The command returns exactly when some iteration within the fuel leaves the loop. -/
theorem sam3xFlashCmd_eq_none : sam3xFlashCmd fuel base cmd arg l = none ↔ Busy l fuel := by
  refine ⟨fun h => by_contra fun hb => ?_, sam3xFlashCmd_busy base cmd arg⟩
  obtain ⟨i, hi, hbi, hs⟩ := Busy.exists_first hb
  by_cases hr : l.reads i &&& eefcFsrFrdy = 0
  · rw [sam3xFlashCmd_failed base cmd arg hbi hr (by simpa [hr] using hs) hi] at h
    cases h
  · rw [sam3xFlashCmd_ready base cmd arg hbi hr hi] at h
    cases h

/-- **What a return means.**  `sam3x_flash_cmd` returns from the first iteration that leaves the
loop: `-1` if it left on a failed error check, the error bits of one more read if on `FRDY`. -/
theorem sam3xFlashCmd_some {r : Int} {l' : Link} (h : sam3xFlashCmd fuel base cmd arg l = some (r, l')) :
    ∃ i, Busy l i ∧ (l.reads i &&& eefcFsrFrdy = 0 ∧ l.errors i = true ∧ r = -1 ∨
      l.reads i &&& eefcFsrFrdy ≠ 0 ∧ r = (l.reads (i + 1) &&& eefcFsrError).toNat) := by
  have hb : ¬Busy l fuel := fun hb => by simp [sam3xFlashCmd_busy base cmd arg hb] at h
  obtain ⟨i, hi, hbi, hs⟩ := Busy.exists_first hb
  refine ⟨i, hbi, ?_⟩
  by_cases hr : l.reads i &&& eefcFsrFrdy = 0
  · have he : l.errors i = true := by simpa [hr] using hs
    rw [sam3xFlashCmd_failed base cmd arg hbi hr he hi] at h
    exact .inl ⟨hr, he, (Prod.mk.inj (Option.some.inj h)).1.symm⟩
  · rw [sam3xFlashCmd_ready base cmd arg hbi hr hi] at h
    exact .inr ⟨hr, (Prod.mk.inj (Option.some.inj h)).1.symm⟩

/-- Every return leaves the command's write first among the new accesses. -/
theorem sam3xFlashCmd_trace {r : Int} {l' : Link}
    (h : sam3xFlashCmd fuel base cmd arg l = some (r, l')) :
    l.trace ++ [fcrWrite base cmd arg] <+: l'.trace := by
  have hb : ¬Busy l fuel := fun hb => by simp [sam3xFlashCmd_busy base cmd arg hb] at h
  obtain ⟨i, hi, hbi, hs⟩ := Busy.exists_first hb
  by_cases hr : l.reads i &&& eefcFsrFrdy = 0
  · rw [sam3xFlashCmd_failed base cmd arg hbi hr (by simpa [hr] using hs) hi] at h
    obtain rfl := (Prod.mk.inj (Option.some.inj h)).2
    exact ⟨busyTrace base i ++ [.memRead32 (eefcFsr base), .checkError], by simp [Link.skip]⟩
  · rw [sam3xFlashCmd_ready base cmd arg hbi hr hi] at h
    obtain rfl := (Prod.mk.inj (Option.some.inj h)).2
    exact ⟨busyTrace base i ++ [.memRead32 (eefcFsr base), .memRead32 (eefcFsr base)],
      by simp [Link.skip]⟩

end FlashCmd

/-- **The contract of `sam3x_flash_cmd`.**  The command word decodes back to key, opcode and
argument; a first exit on a failed error check returns `-1`, a first exit on `FRDY` returns the
error bits of one more read, each with the exact trace of link accesses, the write first; the
command does not return within `fuel` iterations exactly when they all find the controller busy
and the link up, so it returns on every link that eventually shows `FRDY` or an error; and every
result is `-1`, `0`, `2`, `4` or `6`, `-1` exactly on an error check that failed before the first
`FRDY`, `0` only when the final read has neither error bit. -/
theorem sam3xFlashCmd_spec (fuel : Nat) (base : BitVec 32) (cmd : BitVec 8) (arg : BitVec 16)
    (l : Link) :
    (eefcFcrWord cmd arg >>> 24 = 0x5A ∧ eefcFcrWord cmd arg &&& 0xFF = cmd.setWidth 32 ∧
      (eefcFcrWord cmd arg >>> 8) &&& 0xFFFF = arg.setWidth 32) ∧
    (∀ i < fuel, Busy l i → l.reads i &&& eefcFsrFrdy = 0 → l.errors i = true →
      sam3xFlashCmd fuel base cmd arg l = some (-1, l.skip (i + 1) (i + 1)
        (fcrWrite base cmd arg :: busyTrace base i ++ [.memRead32 (eefcFsr base), .checkError]))) ∧
    (∀ i < fuel, Busy l i → l.reads i &&& eefcFsrFrdy ≠ 0 →
      sam3xFlashCmd fuel base cmd arg l = some (((l.reads (i + 1) &&& eefcFsrError).toNat : Int),
        l.skip (i + 2) i (fcrWrite base cmd arg :: busyTrace base i ++
          [.memRead32 (eefcFsr base), .memRead32 (eefcFsr base)]))) ∧
    (sam3xFlashCmd fuel base cmd arg l = none ↔ Busy l fuel) ∧
    ((∃ i, l.reads i &&& eefcFsrFrdy ≠ 0 ∨ l.errors i = true) →
      ∃ n r, sam3xFlashCmd n base cmd arg l = some r) ∧
    (∀ r l', sam3xFlashCmd fuel base cmd arg l = some (r, l') →
      r ∈ [-1, 0, 2, 4, 6] ∧
      (r = -1 ↔ ∃ i, Busy l i ∧ l.reads i &&& eefcFsrFrdy = 0 ∧ l.errors i = true) ∧
      (r = 0 → ∃ i, Busy l i ∧ l.reads i &&& eefcFsrFrdy ≠ 0 ∧
        l.reads (i + 1) &&& eefcFsrFcmde = 0 ∧ l.reads (i + 1) &&& eefcFsrFlocke = 0)) := by
  refine ⟨eefcFcrWord_fields cmd arg,
    fun i hi hb hr he => sam3xFlashCmd_failed base cmd arg hb hr he hi,
    fun i hi hb hr => sam3xFlashCmd_ready base cmd arg hb hr hi, sam3xFlashCmd_eq_none base cmd arg,
    fun ⟨i, hs⟩ => ?_, fun r l' h => ?_⟩
  · -- an exit at `i` is reached with `i + 1` iterations of fuel
    have hb : ¬Busy l (i + 1) := fun hb => by have := hb i (by omega); simp_all
    obtain ⟨r, hr⟩ :=
      Option.ne_none_iff_exists'.1 (mt (sam3xFlashCmd_eq_none base cmd arg).1 hb)
    exact ⟨i + 1, r, hr⟩
  obtain ⟨i, hbi, ⟨hr, he, rfl⟩ | ⟨hr, rfl⟩⟩ := sam3xFlashCmd_some base cmd arg h
  · exact ⟨by simp, iff_of_true rfl ⟨i, hbi, hr, he⟩, by omega⟩
  · refine ⟨List.mem_cons_of_mem _ (fsrError_mem _), ⟨fun h => by omega, ?_⟩,
      fun h0 => ⟨i, hbi, hr, (fsrError_eq_zero _).1 (by exact_mod_cast h0)⟩⟩
    rintro ⟨j, hbj, hrj, hej⟩
    -- the first exit is unique, and the one at `j` was not on `FRDY`
    have := Busy.first_unique hbi (fun h => hr h.1) hbj (by simp [hej])
    exact absurd (this ▸ hrj) hr

end Sam3x
