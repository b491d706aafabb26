import Sam3x.Refinement
/-
# Runs of driver calls

The target layer (`target.c`, not among the sources) calls into this driver one entry point at
a time: the erase and the write of a flash region the probe registered, and the monitor
commands `gpnvm_get` and `gpnvm_set`.  It goes on with the next call whatever the last one
returned.  A run is any list of such calls, each executed on the debug link the last one left
(`runCalls`).

`Sam3x.Refinement` shows what each single call may touch.  From that step lemma
(`DriverCall.run_onTarget`) this module proves, by induction over the run, that a whole run
stays on the target (`runCalls_onTarget`): every access it adds is a flash command to the
controller of one of the target's regions or a bulk write inside such a region, or one of the
GPNVM commands on the controller `sam3x_flash_base` picks.
-/

namespace Sam3x

/-! ## 1. Calls and runs -/

/-- A call of the target layer into the driver: the erase or the write of a flash region, or a
monitor command of `sam3x_cmd_list` with its argument vector. -/
inductive DriverCall
  | erase (f : SamFlash) (addr len : Nat)
  | write (f : SamFlash) (dest len : Nat)
  | command (handler : CmdHandler) (argv : List (List Char))
deriving DecidableEq, Repr

/-- A call the target layer makes on `t`: an erase goes to a region `t` has, and a write to
data inside such a region. -/
def DriverCall.OnTarget (t : Target) : DriverCall → Prop
  | .erase f _ _ => f ∈ t.flash
  | .write f dest len => f ∈ t.flash ∧ f.start ≤ dest ∧ dest + len ≤ f.start + f.length
  | .command _ _ => True

instance (t : Target) : DecidablePred (DriverCall.OnTarget t) := fun
  | .erase f _ _ => inferInstanceAs (Decidable (f ∈ t.flash))
  | .write f dest len => inferInstanceAs
      (Decidable (f ∈ t.flash ∧ f.start ≤ dest ∧ dest + len ≤ f.start + f.length))
  | .command _ _ => isTrue trivial

/-- One call on the link, with at most `fuel` polling iterations per flash command; the value
it returns is dropped.  `gpnvm_get` ignores its arguments. -/
def DriverCall.run (fuel : Nat) (t : Target) : DriverCall → Link → Option Link
  | .erase f addr len, l => (flashErase (Port.link fuel) f addr len l).map Prod.snd
  | .write f dest len, l => (sam3xFlashWrite (Port.link fuel) f dest len l).map Prod.snd
  | .command .sam3xCmdGpnvmGet _, l => (sam3xCmdGpnvmGet (Port.link fuel) t l).map Prod.snd
  | .command .sam3xCmdGpnvmSet argv, l =>
    (sam3xCmdGpnvmSet (Port.link fuel) t argv l).map Prod.snd

/-- A run: the calls in order, each on the link the last one left; `none` once a flash command
polls past the bound. -/
def runCalls (fuel : Nat) (t : Target) : List DriverCall → Link → Option Link
  | [], l => some l
  | c :: cs, l => (c.run fuel t l).bind (runCalls fuel t cs)

/-- An access a run on `t` may make: one the write of a region of `t` may make, or one the
GPNVM commands may make on the controller `sam3x_flash_base` picks. -/
def Access.OnTarget (t : Target) (a : Access) : Prop :=
  (∃ f ∈ t.flash, a.OnRegion f) ∨ a.OnGpnvm (sam3xFlashBase t)

/-! ## 2. One call, then the whole run -/

/-- Accesses that satisfy `P` satisfy every weaker `Q`. -/
theorem appended_mono {P Q : Access → Prop} (hPQ : ∀ a, P a → Q a) {l l' : Link}
    (h : ∃ acc, l'.trace = l.trace ++ acc ∧ ∀ a ∈ acc, P a) :
    ∃ acc, l'.trace = l.trace ++ acc ∧ ∀ a ∈ acc, Q a :=
  let ⟨acc, ht, ha⟩ := h
  ⟨acc, ht, fun a h => hPQ a (ha a h)⟩

/-- One call on `t` adds to the trace only accesses a run on `t` may make. -/
theorem DriverCall.run_onTarget (fuel : Nat) {t : Target} {c : DriverCall}
    (hc : c.OnTarget t) {l l' : Link} (h : c.run fuel t l = some l') :
    ∃ acc, l'.trace = l.trace ++ acc ∧ ∀ a ∈ acc, a.OnTarget t := by
  match c, hc, h with
  | .erase f addr len, hf, h =>
    obtain ⟨_, e, rfl⟩ := Option.map_eq_some'.1 h
    exact appended_mono (fun _ ha => .inl ⟨f, hf, .inl ha⟩) (flashErase_link_footprint fuel f _ _ e)
  | .write f dest len, ⟨hf, hlo, hhi⟩, h =>
    obtain ⟨_, e, rfl⟩ := Option.map_eq_some'.1 h
    exact appended_mono (fun _ ha => .inl ⟨f, hf, ha⟩)
      (sam3xFlashWrite_link_footprint fuel f hlo hhi e)
  | .command .sam3xCmdGpnvmGet _, _, h =>
    obtain ⟨_, e, rfl⟩ := Option.map_eq_some'.1 h
    exact appended_mono (fun _ => .inr) (sam3xCmdGpnvmGet_link_footprint fuel t e)
  | .command .sam3xCmdGpnvmSet argv, _, h =>
    obtain ⟨_, e, rfl⟩ := Option.map_eq_some'.1 h
    exact appended_mono (fun _ => .inr) (sam3xCmdGpnvmSet_link_footprint fuel t argv e)

/-- **Runs stay on the target.**  For every poll bound, every target and every run of calls on
it (erases of its flash regions, writes of data inside them and the GPNVM commands, in any order
and whatever each returned) that ends on some link: the trace has only grown, and every access
it gained is a write of `EEFC_FCR`, a read of `EEFC_FSR` or an error check of the controller of
one of `t`'s regions, a bulk write inside one of them, or a flash command, a read of `EEFC_FRR`
or a printed line of the GPNVM commands on the controller `sam3x_flash_base` picks. -/
theorem runCalls_onTarget (fuel : Nat) (t : Target) (cs : List DriverCall)
    (hcs : ∀ c ∈ cs, c.OnTarget t) {l l' : Link} (h : runCalls fuel t cs l = some l') :
    ∃ acc, l'.trace = l.trace ++ acc ∧ ∀ a ∈ acc, a.OnTarget t := by
  induction cs generalizing l with
  | nil =>
    obtain rfl := Option.some.inj h
    exact ⟨[], (List.append_nil _).symm, List.forall_mem_nil _⟩
  | cons c cs ih =>
    obtain ⟨l₁, h₁, h₂⟩ := Option.bind_eq_some.1 h
    obtain ⟨acc₁, ht₁, ha₁⟩ := DriverCall.run_onTarget fuel (hcs c (List.mem_cons_self _ _)) h₁
    obtain ⟨acc₂, ht₂, ha₂⟩ := ih (fun c hc => hcs c (List.mem_cons_of_mem _ hc)) h₂
    exact ⟨acc₁ ++ acc₂, by rw [ht₂, ht₁, List.append_assoc],
      List.forall_mem_append.2 ⟨ha₁, ha₂⟩⟩

/-- A SAME70 session on a link whose controller is always ready: erase the first block, write
its first page, read the GPNVM bits. -/
theorem runCalls_onTarget_same70 :
    (∀ c ∈ [DriverCall.erase (sam4Flash samx7xEefcBase 0x400000 0x200000) 0x400000 0x2000,
        .write (sam4Flash samx7xEefcBase 0x400000 0x200000) 0x400000 0x200,
        .command .sam3xCmdGpnvmGet []],
      c.OnTarget ⟨[], none, [], [sam4Flash samx7xEefcBase 0x400000 0x200000], []⟩) ∧
    ∃ l', runCalls 1 ⟨[], none, [], [sam4Flash samx7xEefcBase 0x400000 0x200000], []⟩
        [.erase (sam4Flash samx7xEefcBase 0x400000 0x200000) 0x400000 0x2000,
         .write (sam4Flash samx7xEefcBase 0x400000 0x200000) 0x400000 0x200,
         .command .sam3xCmdGpnvmGet []] ⟨fun _ => 1, fun _ => false, []⟩ = some l' ∧
      ∃ acc, l'.trace = [] ++ acc ∧
        ∀ a ∈ acc, a.OnTarget ⟨[], none, [], [sam4Flash samx7xEefcBase 0x400000 0x200000], []⟩ := by
  have hs : (runCalls 1 ⟨[], none, [], [sam4Flash samx7xEefcBase 0x400000 0x200000], []⟩
      [.erase (sam4Flash samx7xEefcBase 0x400000 0x200000) 0x400000 0x2000,
       .write (sam4Flash samx7xEefcBase 0x400000 0x200000) 0x400000 0x200,
       .command .sam3xCmdGpnvmGet []] ⟨fun _ => 1, fun _ => false, []⟩).isSome := by
    simp only [runCalls, DriverCall.run, flashErase, sam4Flash, sam4FlashErase,
      sam4FlashEraseLoop_eq]
    decide
  obtain ⟨l', e⟩ := Option.isSome_iff_exists.1 hs
  exact ⟨by decide, l', e, runCalls_onTarget 1 _ _ (by decide) e⟩

end Sam3x
