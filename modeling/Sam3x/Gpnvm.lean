import Sam3x.Port
import Sam3x.Layout
/-
# The GPNVM commands

`monitor gpnvm_get` issues `GGPB` to the controller of bank 0, reads `EEFC_FRR` and prints it.
`monitor gpnvm_set <bit> <val>` issues `SGPB` or `CGPB` on a bit and then does what
`gpnvm_get` does.  Both find the controller with `sam3x_flash_base`, from the driver string.

The bit is `atol(argv[1])`, stored in a `uint32_t` and passed to the `uint16_t` argument of
`sam3x_flash_cmd`: the command acts on `atol(argv[1]) mod 2 ^ 16`, where `atol` saturates at
the bounds of the firmware's 32-bit `long` as newlib's `strtol` does.  So a string that is not
a number, or that names `65536`, selects bit `0` like `"0"` does (`gpnvmSet_aliases`), and
`gpnvmSet_host` gives the whole behaviour on the sequencer for every argument list.

Neither handler looks at what `sam3x_flash_cmd` returns.  On the debug link their answer is a
function of which commands returned at all, for every status and error sequence
(`gpnvm_answer_ignores_results`): a lost link (`-1`) or a set `FCMDE` or `FLOCKE` bit is
answered `true` like a command that succeeded (`gpnvm_answer_failures`).  Only a poll that
never ends keeps them from answering.
-/

namespace Sam3x

variable {σ : Type}

/-! ## 1. Reading a number, printing a word -/

/-- `isspace` in the C locale. -/
def isSpace (c : Char) : Bool :=
  c = ' ' || c = '\t' || c = '\n' || c = '\x0B' || c = '\x0C' || c = '\r'

/-- The decimal digits at the front of a string, read on from `acc`. -/
def decimalPrefix : List Char → Nat → Nat
  | [], acc => acc
  | c :: cs, acc => if c.isDigit then decimalPrefix cs (10 * acc + (c.toNat - '0'.toNat)) else acc

/-- `LONG_MIN` of the probe firmware's 32-bit `long` (the Cortex-M4 of `platforms/f3`). -/
def longMin : Int := -0x80000000

/-- `LONG_MAX` of the probe firmware's 32-bit `long`. -/
def longMax : Int := 0x7FFFFFFF

/-- `atol` of the C library, as newlib computes it with `strtol`: skip white space, take an
optional sign, then read the decimal digits that follow, `0` when there are none.  A value
beyond a `long` saturates at `LONG_MIN` or `LONG_MAX`, as `strtol` returns on `ERANGE`. -/
def atol (s : List Char) : Int :=
  let v : Int := match s.dropWhile isSpace with
    | '-' :: cs => -(decimalPrefix cs 0 : Int)
    | '+' :: cs => decimalPrefix cs 0
    | cs => decimalPrefix cs 0
  max longMin (min longMax v)

/-- `"%08X"`: the hexadecimal digits of `v` in upper case, padded on the left with `0` to
eight. -/
def fmt08X (v : BitVec 32) : List Char :=
  let ds := (Nat.toDigits 16 v.toNat).map Char.toUpper
  List.replicate (8 - ds.length) '0' ++ ds

/-! ## 2. The handlers -/

/-- `sam3x_cmd_gpnvm_get`: the result of `sam3x_flash_cmd` is not looked at. -/
def sam3xCmdGpnvmGet (p : Port σ) (t : Target) (s : σ) : Option (Bool × σ) :=
  let base := sam3xFlashBase t
  match p.flashCmd base eefcFcrFcmdGgpb 0 s with
  | none => none
  | some (_, s) =>
    let (frr, s) := p.memRead32 (eefcFrr base) s
    some (true, p.tcPrintf ("GPNVM: 0x".toList ++ fmt08X frr ++ ['\n']) s)

/-- `sam3x_cmd_gpnvm_set`, for the argument list `argv` (`argc` is its length).  `bit` and
`cmd` are the `uint32_t`s of the source, narrowed to the parameters of `sam3x_flash_cmd`. -/
def sam3xCmdGpnvmSet (p : Port σ) (t : Target) (argv : List (List Char)) (s : σ) :
    Option (Bool × σ) :=
  let base := sam3xFlashBase t
  match argv with
  | [_, bitArg, valArg] =>
    let bit : BitVec 32 := BitVec.ofInt 32 (atol bitArg)
    let cmd : BitVec 32 :=
      if atol valArg ≠ 0 then eefcFcrFcmdSgpb.setWidth 32 else eefcFcrFcmdCgpb.setWidth 32
    match p.flashCmd base (cmd.setWidth 8) (bit.setWidth 16) s with
    | none => none
    | some (_, s) => (sam3xCmdGpnvmGet p t s).map fun (_, s) => (true, s)
  | _ => some (false, p.tcPrintf "usage: monitor gpnvm_set <bit> <val>\n".toList s)

/-! ## 3. On the sequencer -/

/-- `gpnvm_get` on the sequencer: `GGPB`, one read of `EEFC_FRR`, one line. -/
theorem sam3xCmdGpnvmGet_host (t : Target) (h : Host) :
    sam3xCmdGpnvmGet Port.host t h = some (true, h.skip 1 1
      [.flashCmd (sam3xFlashBase t) eefcFcrFcmdGgpb 0, .memRead32 (eefcFrr (sam3xFlashBase t)),
       .tcPrintf ("GPNVM: 0x".toList ++ fmt08X (h.reads 0) ++ ['\n'])]) := by
  simp [sam3xCmdGpnvmGet]

/-- The two narrowings of `bit` keep it modulo `2 ^ 16`. -/
theorem setWidth_ofInt (x : Int) : (BitVec.ofInt 32 x).setWidth 16 = BitVec.ofInt 16 x := by
  apply BitVec.eq_of_toNat_eq
  simp only [BitVec.toNat_setWidth, BitVec.toNat_ofInt]
  omega

/-- The opcode survives its round trip through the `uint32_t`. -/
theorem setWidth_opcode (c : BitVec 8) : (c.setWidth 32).setWidth 8 = c := by
  apply BitVec.eq_of_toNat_eq
  simp only [BitVec.toNat_setWidth]
  omega

/-- The command `gpnvm_set` picks, `SGPB` or `CGPB`, survives its `uint32_t`. -/
theorem gpnvmCmd_setWidth (valArg : List Char) :
    (if atol valArg ≠ 0 then eefcFcrFcmdSgpb.setWidth 32
      else eefcFcrFcmdCgpb.setWidth 32).setWidth 8 =
      if atol valArg ≠ 0 then eefcFcrFcmdSgpb else eefcFcrFcmdCgpb := by
  split_ifs <;> exact setWidth_opcode _

/-- `gpnvm_set` with other than three arguments: the usage line, and nothing else. -/
theorem sam3xCmdGpnvmSet_usage (t : Target) {argv : List (List Char)} (hn : argv.length ≠ 3)
    (h : Host) : sam3xCmdGpnvmSet Port.host t argv h =
      some (false, h.skip 0 0 [.tcPrintf "usage: monitor gpnvm_set <bit> <val>\n".toList]) := by
  match argv, hn with
  | [], _ | [_], _ | [_, _], _ | _ :: _ :: _ :: _ :: _, _ => rfl

/-- `gpnvm_set` with three arguments on the sequencer: the set or clear command on
`atol(argv[1])` narrowed to sixteen bits, then `gpnvm_get`. -/
theorem sam3xCmdGpnvmSet_three (t : Target) (name bitArg valArg : List Char) (h : Host) :
    sam3xCmdGpnvmSet Port.host t [name, bitArg, valArg] h = some (true, h.skip 2 1
      [.flashCmd (sam3xFlashBase t)
        (if atol valArg ≠ 0 then eefcFcrFcmdSgpb else eefcFcrFcmdCgpb)
        (BitVec.ofInt 16 (atol bitArg)),
       .flashCmd (sam3xFlashBase t) eefcFcrFcmdGgpb 0, .memRead32 (eefcFrr (sam3xFlashBase t)),
       .tcPrintf ("GPNVM: 0x".toList ++ fmt08X (h.reads 0) ++ ['\n'])]) := by
  simp only [sam3xCmdGpnvmSet, gpnvmCmd_setWidth, setWidth_ofInt, Port.host_flashCmd,
    sam3xCmdGpnvmGet_host, Option.map_some', Host.skip_skip, Host.skip_results]
  rfl

/-- **`gpnvm_set` acts on `atol(argv[1]) mod 2 ^ 16`.**  On the sequencer, for every target and
every argument list: with other than three arguments it prints the usage line and touches
nothing; with three it issues `SGPB` when `atol(argv[2]) ≠ 0`, `CGPB` otherwise, on the bit
`atol(argv[1])` modulo `2 ^ 16`, then does what `gpnvm_get` does, and answers `true`. -/
theorem gpnvmSet_host (t : Target) (argv : List (List Char)) (h : Host) :
    (argv.length ≠ 3 → sam3xCmdGpnvmSet Port.host t argv h =
      some (false, h.skip 0 0 [.tcPrintf "usage: monitor gpnvm_set <bit> <val>\n".toList])) ∧
    ∀ name bitArg valArg, argv = [name, bitArg, valArg] →
      sam3xCmdGpnvmSet Port.host t argv h = some (true, h.skip 2 1
        [.flashCmd (sam3xFlashBase t)
          (if atol valArg ≠ 0 then eefcFcrFcmdSgpb else eefcFcrFcmdCgpb)
          (BitVec.ofInt 16 (atol bitArg)),
         .flashCmd (sam3xFlashBase t) eefcFcrFcmdGgpb 0, .memRead32 (eefcFrr (sam3xFlashBase t)),
         .tcPrintf ("GPNVM: 0x".toList ++ fmt08X (h.reads 0) ++ ['\n'])]) ∧
      ((BitVec.ofInt 16 (atol bitArg)).toNat : Int) = atol bitArg % 2 ^ 16 := by
  refine ⟨fun hn => sam3xCmdGpnvmSet_usage t hn h, fun name bitArg valArg hv => ?_⟩
  subst hv
  refine ⟨sam3xCmdGpnvmSet_three t name bitArg valArg h, ?_⟩
  rw [BitVec.toNat_ofInt]
  omega

/-- **Two strings that do not name `0` select bit `0`.**  On a SAM3X, `gpnvm_set 65536 1` and
`gpnvm_set x 1` both issue `SGPB` on bit `0`, the security bit. -/
theorem gpnvmSet_aliases :
    ((sam3xCmdGpnvmSet Port.host ⟨"Atmel SAM3X".toList, none, [], [], []⟩
        ["gpnvm_set".toList, "65536".toList, "1".toList] ⟨fun _ => 0, fun _ => 0, []⟩).map
        fun r => r.2.log.head?) =
      some (some (.flashCmd (sam3xEefcBase 0) eefcFcrFcmdSgpb 0)) ∧
    ((sam3xCmdGpnvmSet Port.host ⟨"Atmel SAM3X".toList, none, [], [], []⟩
        ["gpnvm_set".toList, "x".toList, "1".toList] ⟨fun _ => 0, fun _ => 0, []⟩).map
        fun r => r.2.log.head?) =
      some (some (.flashCmd (sam3xEefcBase 0) eefcFcrFcmdSgpb 0)) := by
  decide

/-! ## 4. On the debug link -/

/-- On the link `gpnvm_get` only adds accesses. -/
theorem sam3xCmdGpnvmGet_link_trace (fuel : Nat) (t : Target) {l l' : Link} {ok : Bool}
    (h : sam3xCmdGpnvmGet (Port.link fuel) t l = some (ok, l')) : l.trace <+: l'.trace := by
  simp only [sam3xCmdGpnvmGet] at h
  split at h
  · cases h
  · rename_i r l₁ h₁
    obtain rfl := (Prod.mk.inj (Option.some.inj h)).2
    exact ((List.prefix_append _ _).trans (sam3xFlashCmd_trace _ _ _ h₁)).trans
      ((List.prefix_append _ _).trans (List.prefix_append _ _))

/-- **The word `gpnvm_set` writes carries `atol(argv[1]) mod 2 ^ 16`.**  On the debug link, for
every number of polling iterations, every run of `gpnvm_set` with three arguments that returns
begins with the write to `EEFC_FCR` of the set or clear command, and the argument field of that
word is `atol(argv[1])` modulo `2 ^ 16`. -/
theorem gpnvmSet_link_word (fuel : Nat) (t : Target) (l : Link) (name bitArg valArg : List Char)
    {ok : Bool} {l' : Link}
    (h : sam3xCmdGpnvmSet (Port.link fuel) t [name, bitArg, valArg] l = some (ok, l')) :
    l.trace ++ [.memWrite32 (eefcFcr (sam3xFlashBase t))
        (eefcFcrWord (if atol valArg ≠ 0 then eefcFcrFcmdSgpb else eefcFcrFcmdCgpb)
          (BitVec.ofInt 16 (atol bitArg)))] <+: l'.trace ∧
      (((eefcFcrWord (if atol valArg ≠ 0 then eefcFcrFcmdSgpb else eefcFcrFcmdCgpb)
          (BitVec.ofInt 16 (atol bitArg)) >>> 8) &&& 0xFFFF).toNat : Int) = atol bitArg % 2 ^ 16 := by
  simp only [sam3xCmdGpnvmSet, gpnvmCmd_setWidth, setWidth_ofInt] at h
  split at h
  · cases h
  · rename_i r l₁ h₁
    obtain ⟨⟨ok', l₂⟩, h₂, he⟩ := Option.map_eq_some'.1 h
    obtain rfl := (Prod.mk.inj he).2
    refine ⟨(sam3xFlashCmd_trace _ _ _ h₁).trans
      (sam3xCmdGpnvmGet_link_trace fuel t h₂), ?_⟩
    rw [(eefcFcrWord_fields _ _).2.2, BitVec.toNat_setWidth, BitVec.toNat_ofInt]
    omega

/-- `gpnvm_set 65536 1` on a SAM3X, over a link that is ready at once: it returns, and the first
word it writes is `SGPB` on bit `0`. -/
theorem gpnvmSet_link_word_alias :
    (∃ ok l', sam3xCmdGpnvmSet (Port.link 1) ⟨"Atmel SAM3X".toList, none, [], [], []⟩
        ["gpnvm_set".toList, "65536".toList, "1".toList] ⟨fun _ => 1, fun _ => false, []⟩ =
          some (ok, l') ∧
      [] ++ [.memWrite32 (eefcFcr (sam3xFlashBase ⟨"Atmel SAM3X".toList, none, [], [], []⟩))
        (eefcFcrWord (if atol "1".toList ≠ 0 then eefcFcrFcmdSgpb else eefcFcrFcmdCgpb)
          (BitVec.ofInt 16 (atol "65536".toList)))] <+: l'.trace) ∧
    sam3xFlashBase ⟨"Atmel SAM3X".toList, none, [], [], []⟩ = sam3xEefcBase 0 ∧
    eefcFcrWord (if atol "1".toList ≠ 0 then eefcFcrFcmdSgpb else eefcFcrFcmdCgpb)
      (BitVec.ofInt 16 (atol "65536".toList)) = eefcFcrWord eefcFcrFcmdSgpb 0 := by
  refine ⟨?_, by decide, by decide⟩
  obtain ⟨⟨ok, l'⟩, h⟩ := Option.isSome_iff_exists.1
    (show (sam3xCmdGpnvmSet (Port.link 1) ⟨"Atmel SAM3X".toList, none, [], [], []⟩
      ["gpnvm_set".toList, "65536".toList, "1".toList]
        ⟨fun _ => 1, fun _ => false, []⟩).isSome = true by decide)
  exact ⟨ok, l', h, (gpnvmSet_link_word 1 ⟨"Atmel SAM3X".toList, none, [], [], []⟩
    ⟨fun _ => 1, fun _ => false, []⟩ "gpnvm_set".toList "65536".toList "1".toList h).1⟩

/-! ## 5. What the handlers answer -/

/-- `gpnvm_get` answers `true` exactly when its `GGPB` returns, whatever it returns. -/
theorem sam3xCmdGpnvmGet_answer (p : Port σ) (t : Target) (s : σ) :
    (sam3xCmdGpnvmGet p t s).map Prod.fst =
      (p.flashCmd (sam3xFlashBase t) eefcFcrFcmdGgpb 0 s).map fun _ => true := by
  simp only [sam3xCmdGpnvmGet]
  rcases p.flashCmd (sam3xFlashBase t) eefcFcrFcmdGgpb 0 s with _ | ⟨r, s₁⟩ <;> rfl

/-- `gpnvm_set` with three arguments answers `true` exactly when its set or clear command and
the `GGPB` after it return, whatever they return. -/
theorem sam3xCmdGpnvmSet_answer (p : Port σ) (t : Target) (name bitArg valArg : List Char)
    (s : σ) :
    (sam3xCmdGpnvmSet p t [name, bitArg, valArg] s).map Prod.fst =
      ((p.flashCmd (sam3xFlashBase t)
          (if atol valArg ≠ 0 then eefcFcrFcmdSgpb else eefcFcrFcmdCgpb)
          (BitVec.ofInt 16 (atol bitArg)) s).bind fun (_, s) =>
        p.flashCmd (sam3xFlashBase t) eefcFcrFcmdGgpb 0 s).map fun _ => true := by
  simp only [sam3xCmdGpnvmSet, gpnvmCmd_setWidth, setWidth_ofInt]
  rcases p.flashCmd (sam3xFlashBase t)
      (if atol valArg ≠ 0 then eefcFcrFcmdSgpb else eefcFcrFcmdCgpb)
      (BitVec.ofInt 16 (atol bitArg)) s with _ | ⟨r₁, s₁⟩
  · rfl
  · -- `gpnvm_get` follows, and what it answers is replaced by `true`
    simp only [sam3xCmdGpnvmGet, Option.some_bind]
    rcases p.flashCmd (sam3xFlashBase t) eefcFcrFcmdGgpb 0 s₁ with _ | ⟨r₂, s₂⟩ <;> rfl

/-- **The GPNVM commands answer without looking at the controller.**  On the debug link, for
every poll bound, every target, every argument list and every sequence of status reads and
error checks: `gpnvm_get` answers `true` exactly when its `GGPB` returns, whatever it returns;
`gpnvm_set` answers `false` with other than three arguments, and with three answers `true`
exactly when its set or clear command and the `GGPB` after it return, whatever they return.
The `-1` of a lost link and the `FCMDE` and `FLOCKE` bits never reach the answer. -/
theorem gpnvm_answer_ignores_results (fuel : Nat) (t : Target) (argv : List (List Char))
    (l : Link) :
    (sam3xCmdGpnvmGet (Port.link fuel) t l).map Prod.fst =
      (sam3xFlashCmd fuel (sam3xFlashBase t) eefcFcrFcmdGgpb 0 l).map (fun _ => true) ∧
    (argv.length ≠ 3 → (sam3xCmdGpnvmSet (Port.link fuel) t argv l).map Prod.fst = some false) ∧
    ∀ name bitArg valArg, argv = [name, bitArg, valArg] →
      (sam3xCmdGpnvmSet (Port.link fuel) t argv l).map Prod.fst =
        ((sam3xFlashCmd fuel (sam3xFlashBase t)
            (if atol valArg ≠ 0 then eefcFcrFcmdSgpb else eefcFcrFcmdCgpb)
            (BitVec.ofInt 16 (atol bitArg)) l).bind fun (_, l₁) =>
          sam3xFlashCmd fuel (sam3xFlashBase t) eefcFcrFcmdGgpb 0 l₁).map fun _ => true := by
  refine ⟨sam3xCmdGpnvmGet_answer _ t l, fun hn => ?_, fun name bitArg valArg hv => ?_⟩
  · match argv, hn with
    | [], _ | [_], _ | [_, _], _ | _ :: _ :: _ :: _ :: _, _ => rfl
  · subst hv
    exact sam3xCmdGpnvmSet_answer _ t name bitArg valArg l

/-- **A lost link and a locked bit are both answered `true`.**  On a SAM3X with a poll bound of
one: over a link whose status read has `FRDY` clear and whose error check reports a failure,
the `GGPB` of `gpnvm_get` returns `-1` and `gpnvm_get` answers `true`; over a link whose
status reads have `FRDY` and `FLOCKE` set, the `SGPB` of `gpnvm_set 1 1` returns `4` and
`gpnvm_set` answers `true`. -/
theorem gpnvm_answer_failures :
    (sam3xFlashCmd 1 (sam3xFlashBase ⟨"Atmel SAM3X".toList, none, [], [], []⟩) eefcFcrFcmdGgpb 0
        ⟨fun _ => 0, fun _ => true, []⟩).map Prod.fst = some (-1) ∧
    (sam3xCmdGpnvmGet (Port.link 1) ⟨"Atmel SAM3X".toList, none, [], [], []⟩
        ⟨fun _ => 0, fun _ => true, []⟩).map Prod.fst = some true ∧
    (sam3xFlashCmd 1 (sam3xFlashBase ⟨"Atmel SAM3X".toList, none, [], [], []⟩) eefcFcrFcmdSgpb
        (BitVec.ofInt 16 (atol "1".toList)) ⟨fun _ => 5, fun _ => false, []⟩).map Prod.fst =
      some 4 ∧
    (sam3xCmdGpnvmSet (Port.link 1) ⟨"Atmel SAM3X".toList, none, [], [], []⟩
        ["gpnvm_set".toList, "1".toList, "1".toList] ⟨fun _ => 5, fun _ => false, []⟩).map
        Prod.fst = some true := by
  have hg := (gpnvm_answer_ignores_results 1 ⟨"Atmel SAM3X".toList, none, [], [], []⟩ []
    ⟨fun _ => 0, fun _ => true, []⟩).1
  have hs := (gpnvm_answer_ignores_results 1 ⟨"Atmel SAM3X".toList, none, [], [], []⟩
    ["gpnvm_set".toList, "1".toList, "1".toList] ⟨fun _ => 5, fun _ => false, []⟩).2.2 _ _ _ rfl
  exact ⟨by decide, hg.trans (by decide), by decide, hs.trans (by decide)⟩

end Sam3x
