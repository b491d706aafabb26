import Sam3x.Link
/-
# The callers' view of the target

`sam4_flash_erase`, `sam3x_flash_write` and the two GPNVM commands reach the target through four
operations: `sam3x_flash_cmd`, the bulk `target_mem_write` that stages a page, a
`target_mem_read32` of `EEFC_FRR`, and `tc_printf`.  Each routine is modelled once, over a
`Port`: a record of those four operations on some state.  Two ports matter.

* `Port.link fuel` is the debug link of the previous module, where the flash command is
  `sam3xFlashCmd fuel` itself.  A routine run on it is the composition the code performs.
* `Port.host` is the spec's command sequencer: every flash command returns the next value of an
  arbitrary sequence of results, every register read the next of an arbitrary sequence of
  words, and everything done is recorded in a log.  A statement about "every sequence of
  sequencer results" is a statement about `Port.host` for every `Host`.

A result the sequencer returns is a plain `Int`, so `Port.host` also covers results the link
never produces; `sam3xFlashCmd_spec` says which values the link does produce.
-/

namespace Sam3x

/-! ## 1. Ports -/

/-- The operations the erase, write and GPNVM routines use on a target whose state is `σ`:
`sam3x_flash_cmd (base, cmd, arg)`, which may not return; `target_mem_write` of `len` bytes at
`dest`; `target_mem_read32`; and `tc_printf` with the text it prints. -/
structure Port (σ : Type) where
  flashCmd : BitVec 32 → BitVec 8 → BitVec 16 → σ → Option (Int × σ)
  memWrite : Nat → Nat → σ → σ
  memRead32 : BitVec 32 → σ → BitVec 32 × σ
  tcPrintf : List Char → σ → σ

/-- The debug link: a flash command is `sam3x_flash_cmd` with `fuel` iterations for its polling
loop, and the other operations are single link accesses. -/
def Port.link (fuel : Nat) : Port Link where
  flashCmd := sam3xFlashCmd fuel
  memWrite dest len l := l.skip 0 0 [.memWrite dest len]
  memRead32 addr l := l.targetMemRead32 addr
  tcPrintf text l := l.skip 0 0 [.tcPrintf text]

/-! ## 2. The sequencer -/

/-- One thing the host does, as the sequencer records it. -/
inductive Event
  | flashCmd (base : BitVec 32) (cmd : BitVec 8) (arg : BitVec 16)
  | memWrite (dest len : Nat)
  | memRead32 (addr : BitVec 32)
  | tcPrintf (text : List Char)
deriving DecidableEq, Repr

/-- The sequencer's state: what the coming flash commands return, what the coming register reads
answer, and what was done so far, oldest first. -/
structure Host where
  results : Nat → Int
  reads : Nat → BitVec 32
  log : List Event

/-- The sequencer after `r` more flash commands and `n` more reads, which left `acc` in the log. -/
def Host.skip (h : Host) (r n : Nat) (acc : List Event) : Host where
  results i := h.results (i + r)
  reads i := h.reads (i + n)
  log := h.log ++ acc

/-- The spec's sequencer as a port. -/
def Port.host : Port Host where
  flashCmd base cmd arg h := some (h.results 0, h.skip 1 0 [.flashCmd base cmd arg])
  memWrite dest len h := h.skip 0 0 [.memWrite dest len]
  memRead32 addr h := (h.reads 0, h.skip 0 1 [.memRead32 addr])
  tcPrintf text h := h.skip 0 0 [.tcPrintf text]

@[simp] theorem Host.skip_skip (h : Host) (r n r' n' : Nat) (acc acc' : List Event) :
    (h.skip r n acc).skip r' n' acc' = h.skip (r + r') (n + n') (acc ++ acc') := by
  simp only [Host.skip, List.append_assoc, Host.mk.injEq, and_true]
  constructor <;> funext i <;> congr 1 <;> omega

@[simp] theorem Host.skip_zero (h : Host) : h.skip 0 0 [] = h := by
  cases h; simp [Host.skip]

@[simp] theorem Host.skip_results (h : Host) (r n : Nat) (acc : List Event) (i : Nat) :
    (h.skip r n acc).results i = h.results (i + r) := rfl

@[simp] theorem Host.skip_reads (h : Host) (r n : Nat) (acc : List Event) (i : Nat) :
    (h.skip r n acc).reads i = h.reads (i + n) := rfl

@[simp] theorem Port.host_flashCmd (base : BitVec 32) (cmd : BitVec 8) (arg : BitVec 16)
    (h : Host) :
    Port.host.flashCmd base cmd arg h = some (h.results 0, h.skip 1 0 [.flashCmd base cmd arg]) :=
  rfl

@[simp] theorem Port.host_memWrite (dest len : Nat) (h : Host) :
    Port.host.memWrite dest len h = h.skip 0 0 [.memWrite dest len] := rfl

@[simp] theorem Port.host_memRead32 (addr : BitVec 32) (h : Host) :
    Port.host.memRead32 addr h = (h.reads 0, h.skip 0 1 [.memRead32 addr]) := rfl

@[simp] theorem Port.host_tcPrintf (text : List Char) (h : Host) :
    Port.host.tcPrintf text h = h.skip 0 0 [.tcPrintf text] := rfl

end Sam3x
