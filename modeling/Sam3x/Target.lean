import Sam3x.ChipId
/-
# The target record

The probes write into the debugger's `target` record: they set `t->driver`, may set
`t->target_storage`, and register RAM regions, flash regions and a command table through
`target_add_ram`, `target_add_flash` and `target_add_commands`.  Those three live in
`target.c`, which is not among the sources; the spec gives their contract ("append-only,
called only during probe"), and they are modelled from it.

A flash region is a `struct sam_flash`: the generic `struct target_flash` and the two fields
the driver adds.  Its `erase` function pointer is one of two routines, so it is a tag here
(`EraseFn`); its `write` pointer is `sam3x_flash_write` for every region of this driver and is
left out.  The region carries `0 < blocksize` and `0 < buf_size` as fields: both routines that
fill a region in write a positive constant there, and the erase loop needs the first to make
progress.

`calloc` is an oracle: `heap n` says whether the `n`-th allocation of a probe call succeeds.
The theorems quantify over every `heap`, which is every pattern of heap exhaustion.

The last section models the two C-library calls the driver makes on strings: the `sprintf`
that names a SAMx7x part, and `strcmp`.
-/

namespace Sam3x

/-! ## 1. Regions and the record -/

/-- The routine a region's `erase` pointer names. -/
inductive EraseFn
  | sam3FlashErase
  | sam4FlashErase
deriving DecidableEq, Repr

/-- `struct sam_flash`: `struct target_flash` (`start`, `length`, `blocksize`, `erase`,
`buf_size`) with the controller and the program command of the region. -/
structure SamFlash where
  start : Nat
  length : Nat
  blocksize : Nat
  erase : EraseFn
  bufSize : Nat
  eefcBase : BitVec 32
  writeCmd : BitVec 8
  blocksize_pos : 0 < blocksize
  bufSize_pos : 0 < bufSize
deriving DecidableEq, Repr

/-- The region `sam3_add_flash` fills in: 256-byte pages, erased by the erase-and-write command
of each page, so its `erase` does nothing. -/
def sam3Flash (eefcBase : BitVec 32) (addr length : Nat) : SamFlash where
  start := addr
  length := length
  blocksize := sam3PageSize
  erase := .sam3FlashErase
  bufSize := sam3PageSize
  eefcBase := eefcBase
  writeCmd := eefcFcrFcmdEwp
  blocksize_pos := by decide
  bufSize_pos := by decide

/-- The region `sam4_add_flash` fills in: 512-byte pages, erased eight at a time. -/
def sam4Flash (eefcBase : BitVec 32) (addr length : Nat) : SamFlash where
  start := addr
  length := length
  blocksize := sam4PageSize * 8
  erase := .sam4FlashErase
  bufSize := sam4PageSize
  eefcBase := eefcBase
  writeCmd := eefcFcrFcmdWp
  blocksize_pos := by decide
  bufSize_pos := by decide

/-- A RAM region, as `target_add_ram` records it. -/
structure RamRegion where
  start : Nat
  length : Nat
deriving DecidableEq, Repr

/-- The handlers of `sam3x_cmd_list`. -/
inductive CmdHandler
  | sam3xCmdGpnvmGet
  | sam3xCmdGpnvmSet
deriving DecidableEq, Repr

/-- `struct command_s`. -/
structure Command where
  cmd : String
  handler : CmdHandler
  help : String
deriving DecidableEq, Repr

/-- `sam3x_cmd_list`, without its `NULL` terminator. -/
def sam3xCmdList : List Command :=
  [⟨"gpnvm_get", .sam3xCmdGpnvmGet, "Get GPVNM value"⟩,
   ⟨"gpnvm_set", .sam3xCmdGpnvmSet, "Set GPVNM bit"⟩]

/-- `struct sam_priv_s`: the buffer the SAMx7x part name is printed into. -/
structure SamPriv where
  samVariantString : List Char
deriving DecidableEq, Repr

/-- The fields of `target` the probes touch.  `driver` is the string `t->driver` points to;
`targetStorage` is `t->target_storage`; the three lists hold what was registered, oldest
first, each command table with the name it was registered under. -/
structure Target where
  driver : List Char
  targetStorage : Option SamPriv
  ram : List RamRegion
  flash : List SamFlash
  commands : List (List Command × String)
deriving DecidableEq, Repr

/-! ## 2. Registration -/

/-- Modelled from the spec: `target_add_ram` (in `target.c`, not among the sources) appends
a RAM region. -/
def targetAddRam (t : Target) (start length : Nat) : Target :=
  { t with ram := t.ram ++ [⟨start, length⟩] }

/-- Modelled from the spec: `target_add_flash` (in `target.c`, not among the sources) appends
a flash region. -/
def targetAddFlash (t : Target) (f : SamFlash) : Target :=
  { t with flash := t.flash ++ [f] }

/-- Modelled from the spec: `target_add_commands` (in `target.c`, not among the sources)
appends a command table under a name. -/
def targetAddCommands (t : Target) (cmds : List Command) (name : String) : Target :=
  { t with commands := t.commands ++ [(cmds, name)] }

/-- The body shared by `sam3_add_flash` and `sam4_add_flash`: register `f` if its `calloc`
succeeded (`ok`), and skip it otherwise. -/
def addFlashRegion (ok : Bool) (t : Target) (f : SamFlash) : Target :=
  if ok then targetAddFlash t f else t

/-- `sam3_add_flash`. -/
def sam3AddFlash (ok : Bool) (t : Target) (eefcBase : BitVec 32) (addr length : Nat) : Target :=
  addFlashRegion ok t (sam3Flash eefcBase addr length)

/-- `sam4_add_flash`. -/
def sam4AddFlash (ok : Bool) (t : Target) (eefcBase : BitVec 32) (addr length : Nat) : Target :=
  addFlashRegion ok t (sam4Flash eefcBase addr length)

@[simp] theorem targetAddRam_flash (t : Target) (s l : Nat) : (targetAddRam t s l).flash = t.flash :=
  rfl

@[simp] theorem targetAddCommands_flash (t : Target) (c : List Command) (n : String) :
    (targetAddCommands t c n).flash = t.flash := rfl

/-- Registering a flash region touches nothing but the flash list, and appends to it only when
the allocation succeeded. -/
@[simp] theorem addFlashRegion_eq (ok : Bool) (t : Target) (f : SamFlash) :
    addFlashRegion ok t f = { t with flash := t.flash ++ if ok then [f] else [] } := by
  cases ok <;> simp [addFlashRegion, targetAddFlash]

/-! ## 3. The strings -/

/-- `strcmp`: the difference of the first two characters that differ, `0` for equal strings.
The end of a list reads as the terminating `'\0'`. -/
def strcmp : List Char → List Char → Int
  | [], [] => 0
  | [], d :: _ => -(d.toNat : Int)
  | c :: _, [] => c.toNat
  | c :: s, d :: r => if c ≠ d then (c.toNat : Int) - d.toNat else if c = nul then 0 else strcmp s r

/-- `"%02d"`: the decimal digits of `n`, padded on the left with `0` to two. -/
def fmt02d (n : Nat) : List Char :=
  List.replicate (2 - (Nat.toDigits 10 n).length) '0' ++ Nat.toDigits 10 n

/-- `sprintf(priv_storage->sam_variant_string, "SAM%c%02d%c%d%c", ...)`: the characters it
writes before the terminating `'\0'`.  A `'\0'` passed to `%c` is written like any other
character, and ends the string as later readers see it. -/
def samVariantString (d : Samx7xDescr) : List Char :=
  ['S', 'A', 'M', d.productCode] ++ fmt02d d.productId ++ [d.pins] ++
    Nat.toDigits 10 d.density ++ [d.revision]

/-- A string that starts with a different character compares unequal. -/
theorem strcmp_ne_of_head {c d : Char} {s r : List Char} (h : c ≠ d) : strcmp (c :: s) (d :: r) ≠ 0 := by
  have hn : c.toNat ≠ d.toNat := fun e => h (by rw [← Char.ofNat_toNat c, e, Char.ofNat_toNat])
  simp only [strcmp, if_pos h]
  omega

end Sam3x
