import Sam3x.Controller
import Sam3x.Gpnvm
/-
# The debug link refines the sequencer

The erase, write and GPNVM routines are written once, over a `Port`, and run on two of them:
the debug link of `sam3x_flash_cmd` (`Port.link`), which is the code, and the spec's command
sequencer (`Port.host`), on which `sam4FlashErase_spec`, `probe_command_args`,
`eraseWrite_pages` and `gpnvmSet_host` are stated.  This module connects the two.

A sequencer event becomes a block of link accesses (`Expands`): a flash command is its write to
`EEFC_FCR` followed by the polling of `EEFC_FSR` that ended it, within the poll bound, either on
a failed `target_check_error` or on `FRDY` and one more status read; a bulk write, a register
read and a printed line are one access each.  A log becomes the concatenation of the blocks of
its events (`LogExpands`).

`LinkRefines fuel x y` says that the link routine `x` refines the sequencer routine `y`: every
run of `x` that returns adds to the trace the expansion of some log, and every sequencer whose
coming results and reads are the ones the link's commands and reads produced returns the same
value and records exactly that log.  Each port operation refines its sequencer counterpart, and
refinement is kept by sequencing (`LinkRefines.bind`), so each routine's refinement is assembled
from its own code (`driver_refines`).  What is proved on the sequencer therefore holds on the
link for the results the link produces.  Section 5 reads off what each routine may touch: the
erase only its own controller's `EEFC_FCR` and `EEFC_FSR`, the write these and a bulk write
inside its region, the GPNVM commands these and `EEFC_FRR` of the controller they pick
(`driver_one_controller`); and what the erase and the write send to their controller
(`sam4FlashErase_link_words`, `sam3xFlashWrite_link_trace`).
-/

namespace Sam3x

variable {α β : Type}

/-! ## 1. What a sequencer event is on the link -/

/-- The accesses one sequencer event makes on the link, with at most `fuel` polling iterations:
a flash command that left its loop at iteration `i` on a failed error check or on `FRDY`, and
one access for each other event. -/
inductive Expands (fuel : Nat) : Event → List Access → Prop
  | failed {base : BitVec 32} {cmd : BitVec 8} {arg : BitVec 16} {i : Nat} : i < fuel →
      Expands fuel (.flashCmd base cmd arg)
        (fcrWrite base cmd arg :: busyTrace base i ++ [.memRead32 (eefcFsr base), .checkError])
  | ready {base : BitVec 32} {cmd : BitVec 8} {arg : BitVec 16} {i : Nat} : i < fuel →
      Expands fuel (.flashCmd base cmd arg)
        (fcrWrite base cmd arg :: busyTrace base i ++
          [.memRead32 (eefcFsr base), .memRead32 (eefcFsr base)])
  | memWrite {dest len : Nat} : Expands fuel (.memWrite dest len) [.memWrite dest len]
  | memRead32 {addr : BitVec 32} : Expands fuel (.memRead32 addr) [.memRead32 addr]
  | tcPrintf {text : List Char} : Expands fuel (.tcPrintf text) [.tcPrintf text]

/-- A log and the link accesses it becomes: the blocks of its events, in order. -/
inductive LogExpands (fuel : Nat) : List Event → List Access → Prop
  | nil : LogExpands fuel [] []
  | cons {e : Event} {es : List Event} {b bs : List Access} :
      Expands fuel e b → LogExpands fuel es bs → LogExpands fuel (e :: es) (b ++ bs)

theorem LogExpands.single {fuel : Nat} {e : Event} {b : List Access} (h : Expands fuel e b) :
    LogExpands fuel [e] b := by
  simpa using LogExpands.cons h .nil

theorem LogExpands.append {fuel : Nat} {es₁ es₂ : List Event} {bs₁ bs₂ : List Access}
    (h₁ : LogExpands fuel es₁ bs₁) (h₂ : LogExpands fuel es₂ bs₂) :
    LogExpands fuel (es₁ ++ es₂) (bs₁ ++ bs₂) := by
  induction h₁ with
  | nil => simpa using h₂
  | cons he _ ih => simpa [List.append_assoc] using LogExpands.cons he ih

theorem LogExpands.cons_inv {fuel : Nat} {e : Event} {es : List Event} {acc : List Access}
    (h : LogExpands fuel (e :: es) acc) :
    ∃ b bs, acc = b ++ bs ∧ Expands fuel e b ∧ LogExpands fuel es bs := by
  cases h with
  | cons he hes => exact ⟨_, _, rfl, he, hes⟩

/-! ## 2. Sequencers that answer as the link did -/

/-- The sequencer states whose coming flash results begin with `rs` and whose coming register
reads begin with `ds`. -/
def Host.Begins (h : Host) (rs : List Int) (ds : List (BitVec 32)) : Prop :=
  (∀ i (hi : i < rs.length), h.results i = rs[i]) ∧ ∀ i (hi : i < ds.length), h.reads i = ds[i]

/-- A sequencer that answers `rs` and `ds`, then `0`s. -/
def Host.ofLists (rs : List Int) (ds : List (BitVec 32)) : Host :=
  ⟨fun i => rs.getD i 0, fun i => ds.getD i 0, []⟩

theorem Host.ofLists_begins (rs : List Int) (ds : List (BitVec 32)) :
    (Host.ofLists rs ds).Begins rs ds :=
  ⟨fun i hi => by simp [Host.ofLists, hi], fun i hi => by simp [Host.ofLists, hi]⟩

/-- A sequencer that begins with two stretches answers the first, and after it the second. -/
theorem Host.Begins.split {h : Host} {rs₁ rs₂ : List Int} {ds₁ ds₂ : List (BitVec 32)}
    (hb : h.Begins (rs₁ ++ rs₂) (ds₁ ++ ds₂)) (acc : List Event) :
    h.Begins rs₁ ds₁ ∧ (h.skip rs₁.length ds₁.length acc).Begins rs₂ ds₂ := by
  obtain ⟨hr, hd⟩ := hb
  refine ⟨⟨fun i hi => ?_, fun i hi => ?_⟩, ⟨fun i hi => ?_, fun i hi => ?_⟩⟩
  · rw [hr i (by simp; omega), List.getElem_append_left hi]
  · rw [hd i (by simp; omega), List.getElem_append_left hi]
  · rw [Host.skip_results, hr (i + rs₁.length) (by simp; omega), List.getElem_append_right]
    · simp
    · omega
  · rw [Host.skip_reads, hd (i + ds₁.length) (by simp; omega), List.getElem_append_right]
    · simp
    · omega

/-! ## 3. Refinement and how it composes -/

/-- **The link routine `x` refines the sequencer routine `y`.**  Every run of `x` that returns
adds to the trace the expansion of a log `evs`, and every sequencer whose coming results and
reads are `rs` and `ds`, those the link produced, returns the same value and records `evs`. -/
def LinkRefines (fuel : Nat) (x : Link → Option (α × Link)) (y : Host → Option (α × Host)) :
    Prop :=
  ∀ l a l', x l = some (a, l') → ∃ rs ds evs acc, l'.trace = l.trace ++ acc ∧
    LogExpands fuel evs acc ∧
      ∀ h : Host, h.Begins rs ds → y h = some (a, h.skip rs.length ds.length evs)

section Compose

variable {fuel : Nat}

theorem LinkRefines.pure (a : α) :
    LinkRefines fuel (fun l => some (a, l)) (fun h => some (a, h)) := by
  rintro l b l' ⟨⟩
  exact ⟨[], [], [], [], by simp, .nil, fun h _ => by simp⟩

/-- **Refinement is kept by sequencing.** -/
theorem LinkRefines.bind {x : Link → Option (α × Link)} {y : Host → Option (α × Host)}
    {k : α × Link → Option (β × Link)} {k' : α × Host → Option (β × Host)}
    (hx : LinkRefines fuel x y)
    (hk : ∀ a, LinkRefines fuel (fun l => k (a, l)) (fun h => k' (a, h))) :
    LinkRefines fuel (fun l => (x l).bind k) (fun h => (y h).bind k') := by
  intro l b l' h
  obtain ⟨⟨a, l₁⟩, h₁, h₂⟩ := Option.bind_eq_some.1 h
  obtain ⟨rs₁, ds₁, evs₁, acc₁, ht₁, he₁, hy₁⟩ := hx l a l₁ h₁
  obtain ⟨rs₂, ds₂, evs₂, acc₂, ht₂, he₂, hy₂⟩ := hk a l₁ b l' h₂
  refine ⟨rs₁ ++ rs₂, ds₁ ++ ds₂, evs₁ ++ evs₂, acc₁ ++ acc₂,
    by rw [ht₂, ht₁, List.append_assoc], he₁.append he₂, fun h hb => ?_⟩
  obtain ⟨hb₁, hb₂⟩ := hb.split evs₁
  dsimp only
  rw [hy₁ h hb₁, Option.some_bind]
  refine (hy₂ _ hb₂).trans ?_
  rw [Host.skip_skip, List.length_append, List.length_append]

/-- A choice both sides make on the same value refines as its branches do. -/
theorem LinkRefines.ite {c : Prop} [Decidable c] {x₁ x₂ : Link → Option (α × Link)}
    {y₁ y₂ : Host → Option (α × Host)} (h₁ : LinkRefines fuel x₁ y₁)
    (h₂ : LinkRefines fuel x₂ y₂) :
    LinkRefines fuel (fun l => if c then x₁ l else x₂ l) (fun h => if c then y₁ h else y₂ h) := by
  by_cases hc : c
  · simpa only [if_pos hc] using h₁
  · simpa only [if_neg hc] using h₂

/-- An access that returns nothing, made as the event it expands: a bulk write or a line. -/
theorem LinkRefines.access {a : Access} {e : Event} (he : Expands fuel e [a]) :
    LinkRefines fuel (fun l => some ((), l.skip 0 0 [a])) (fun h => some ((), h.skip 0 0 [e])) := by
  rintro l b l' ⟨⟩
  exact ⟨[], [], [e], [a], rfl, .single he, fun h _ => by simp⟩

/-- A register read: the link answers its next read, the sequencer the same word. -/
theorem LinkRefines.memRead32 (addr : BitVec 32) :
    LinkRefines fuel (fun l => some ((Port.link fuel).memRead32 addr l))
      (fun h => some (Port.host.memRead32 addr h)) := by
  rintro l b l' ⟨⟩
  refine ⟨[], [l.reads 0], [.memRead32 addr], [.memRead32 addr], rfl, .single .memRead32,
    fun h hb => ?_⟩
  dsimp only
  rw [Port.host_memRead32, hb.2 0 (by simp)]
  rfl

/-- **`sam3x_flash_cmd` refines one sequencer command**: its accesses are the block of one
flash command, and the sequencer whose next result is the link's result returns it. -/
theorem LinkRefines.flashCmd (base : BitVec 32) (cmd : BitVec 8) (arg : BitVec 16) :
    LinkRefines fuel (sam3xFlashCmd fuel base cmd arg) (Port.host.flashCmd base cmd arg) := by
  intro l r l' h
  obtain ⟨i, hb, hexit⟩ := sam3xFlashCmd_some base cmd arg h
  -- the loop left at `i`, so `i` is within the fuel
  have hi : i < fuel := by
    by_contra hi
    have : Busy l fuel := fun j hj => hb j (by omega)
    rw [sam3xFlashCmd_busy base cmd arg this] at h
    cases h
  have hhost : ∀ h : Host, h.Begins [r] [] →
      Port.host.flashCmd base cmd arg h = some (r, h.skip [r].length ([] : List (BitVec 32)).length
        [.flashCmd base cmd arg]) := fun h hb' => by
    rw [Port.host_flashCmd, hb'.1 0 (by simp)]
    rfl
  rcases hexit with ⟨hr, he, rfl⟩ | ⟨hr, rfl⟩
  · rw [sam3xFlashCmd_failed base cmd arg hb hr he hi] at h
    obtain rfl := (Prod.mk.inj (Option.some.inj h)).2
    exact ⟨[-1], [], _, _, rfl, .single (.failed hi), hhost⟩
  · rw [sam3xFlashCmd_ready base cmd arg hb hr hi] at h
    obtain rfl := (Prod.mk.inj (Option.some.inj h)).2
    exact ⟨[_], [], _, _, rfl, .single (.ready hi), hhost⟩

end Compose

/-! ## 4. Every routine refines its sequencer run -/

section Routines

variable {σ : Type} {fuel : Nat}

/-- One command of `issueEach`, then the rest. -/
theorem Port.issueEach_bind (p : Port σ) (base : BitVec 32) (cmd : BitVec 8) (a : BitVec 16)
    (as : List (BitVec 16)) (s : σ) :
    p.issueEach base cmd (a :: as) s = (p.flashCmd base cmd a s).bind fun (r, s) =>
      if r ≠ 0 then some (-1, s) else p.issueEach base cmd as s := by
  simp only [Port.issueEach]
  rcases p.flashCmd base cmd a s with _ | ⟨r, s'⟩ <;> rfl

theorem issueEach_refines (base : BitVec 32) (cmd : BitVec 8) :
    ∀ args : List (BitVec 16), LinkRefines fuel ((Port.link fuel).issueEach base cmd args)
      (Port.host.issueEach base cmd args)
  | [] => LinkRefines.pure 0
  | a :: as => by
    rw [funext (Port.issueEach_bind (Port.link fuel) base cmd a as),
      funext (Port.issueEach_bind Port.host base cmd a as)]
    exact (LinkRefines.flashCmd base cmd a).bind fun _ =>
      LinkRefines.ite (LinkRefines.pure _) (issueEach_refines base cmd as)

/-- `sam4_flash_erase` is its loop's closed form, as a function of the port state. -/
theorem sam4FlashErase_eq_issueEach (p : Port σ) (f : SamFlash) (addr len : Nat) :
    sam4FlashErase p f addr len = p.issueEach f.eefcBase eefcFcrFcmdEpa
      (eraseArgs (offset32 addr f.start / sam4PageSize) ((len + f.blocksize - 1) / f.blocksize)) :=
  funext fun s => sam4FlashEraseLoop_eq p f _ len s

/-- The erase dispatch, as a function of the port state. -/
theorem flashErase_eq_match (p : Port σ) (f : SamFlash) (addr len : Nat) :
    flashErase p f addr len = match f.erase with
      | .sam3FlashErase => sam3FlashErase p f addr len
      | .sam4FlashErase => sam4FlashErase p f addr len := by
  funext s
  simp only [flashErase]
  cases f.erase <;> rfl

theorem sam4FlashErase_refines (f : SamFlash) (addr len : Nat) :
    LinkRefines fuel (sam4FlashErase (Port.link fuel) f addr len)
      (sam4FlashErase Port.host f addr len) := by
  rw [sam4FlashErase_eq_issueEach, sam4FlashErase_eq_issueEach]
  exact issueEach_refines _ _ _

theorem flashErase_refines (f : SamFlash) (addr len : Nat) :
    LinkRefines fuel (flashErase (Port.link fuel) f addr len)
      (flashErase Port.host f addr len) := by
  rw [flashErase_eq_match, flashErase_eq_match]
  cases f.erase
  · exact LinkRefines.pure 0
  · exact sam4FlashErase_refines f addr len

/-- `sam3x_flash_write` in sequence: stage, command, result. -/
theorem sam3xFlashWrite_bind (p : Port σ) (f : SamFlash) (dest len : Nat) (s : σ) :
    sam3xFlashWrite p f dest len s = (some ((), p.memWrite dest len s)).bind fun (_, s) =>
      (p.flashCmd f.eefcBase f.writeCmd (BitVec.ofNat 16 (offset32 dest f.start / f.bufSize))
        s).bind fun (r, s) => some (if r ≠ 0 then -1 else 0, s) := by
  simp only [sam3xFlashWrite, Option.some_bind]
  rcases p.flashCmd f.eefcBase f.writeCmd _ (p.memWrite dest len s) with _ | ⟨r, s'⟩ <;> rfl

theorem sam3xFlashWrite_refines (f : SamFlash) (dest len : Nat) :
    LinkRefines fuel (sam3xFlashWrite (Port.link fuel) f dest len)
      (sam3xFlashWrite Port.host f dest len) := by
  rw [funext (sam3xFlashWrite_bind (Port.link fuel) f dest len),
    funext (sam3xFlashWrite_bind Port.host f dest len)]
  exact (LinkRefines.access .memWrite).bind fun _ =>
    (LinkRefines.flashCmd _ _ _).bind fun _ => LinkRefines.pure _

/-- `gpnvm_get` in sequence: `GGPB`, the read of `EEFC_FRR`, the line. -/
theorem sam3xCmdGpnvmGet_bind (p : Port σ) (t : Target) (s : σ) :
    sam3xCmdGpnvmGet p t s = (p.flashCmd (sam3xFlashBase t) eefcFcrFcmdGgpb 0 s).bind fun (_, s) =>
      (some (p.memRead32 (eefcFrr (sam3xFlashBase t)) s)).bind fun (frr, s) =>
        (some ((), p.tcPrintf ("GPNVM: 0x".toList ++ fmt08X frr ++ ['\n']) s)).bind fun (_, s) =>
          some (true, s) := by
  simp only [sam3xCmdGpnvmGet]
  rcases p.flashCmd (sam3xFlashBase t) eefcFcrFcmdGgpb 0 s with _ | ⟨r, s'⟩ <;> rfl

theorem sam3xCmdGpnvmGet_refines (t : Target) :
    LinkRefines fuel (sam3xCmdGpnvmGet (Port.link fuel) t) (sam3xCmdGpnvmGet Port.host t) := by
  rw [funext (sam3xCmdGpnvmGet_bind (Port.link fuel) t), funext (sam3xCmdGpnvmGet_bind Port.host t)]
  exact (LinkRefines.flashCmd _ _ _).bind fun _ => (LinkRefines.memRead32 _).bind fun _ =>
    (LinkRefines.access .tcPrintf).bind fun _ => LinkRefines.pure _

/-- `gpnvm_set` with three arguments in sequence: the set or clear command, then `gpnvm_get`. -/
theorem sam3xCmdGpnvmSet_bind (p : Port σ) (t : Target) (name bitArg valArg : List Char)
    (s : σ) :
    sam3xCmdGpnvmSet p t [name, bitArg, valArg] s = (p.flashCmd (sam3xFlashBase t)
        (if atol valArg ≠ 0 then eefcFcrFcmdSgpb else eefcFcrFcmdCgpb)
        (BitVec.ofInt 16 (atol bitArg)) s).bind fun (_, s) =>
      (sam3xCmdGpnvmGet p t s).bind fun (_, s) => some (true, s) := by
  simp only [sam3xCmdGpnvmSet, gpnvmCmd_setWidth, setWidth_ofInt]
  rcases p.flashCmd (sam3xFlashBase t) _ _ s with _ | ⟨r, s'⟩
  · rfl
  · simp only [Option.some_bind]
    rcases sam3xCmdGpnvmGet p t s' with _ | ⟨ok, s''⟩ <;> rfl

/-- `gpnvm_set` with other than three arguments in sequence: the usage line, then `false`. -/
theorem sam3xCmdGpnvmSet_usage_bind (p : Port σ) (t : Target) {argv : List (List Char)}
    (hn : argv.length ≠ 3) (s : σ) :
    sam3xCmdGpnvmSet p t argv s = (some ((),
      p.tcPrintf "usage: monitor gpnvm_set <bit> <val>\n".toList s)).bind fun (_, s) =>
        some (false, s) := by
  match argv, hn with
  | [], _ | [_], _ | [_, _], _ | _ :: _ :: _ :: _ :: _, _ => rfl

theorem sam3xCmdGpnvmSet_refines (t : Target) (argv : List (List Char)) :
    LinkRefines fuel (sam3xCmdGpnvmSet (Port.link fuel) t argv)
      (sam3xCmdGpnvmSet Port.host t argv) := by
  by_cases hn : argv.length = 3
  · obtain ⟨name, bitArg, valArg, rfl⟩ := List.length_eq_three.1 hn
    rw [funext (sam3xCmdGpnvmSet_bind (Port.link fuel) t name bitArg valArg),
      funext (sam3xCmdGpnvmSet_bind Port.host t name bitArg valArg)]
    exact (LinkRefines.flashCmd _ _ _).bind fun _ =>
      (sam3xCmdGpnvmGet_refines t).bind fun _ => LinkRefines.pure _
  · rw [funext (sam3xCmdGpnvmSet_usage_bind (Port.link fuel) t hn),
      funext (sam3xCmdGpnvmSet_usage_bind Port.host t hn)]
    exact (LinkRefines.access .tcPrintf).bind fun _ => LinkRefines.pure _

end Routines

/-- **The debug link refines the sequencer.**  For every poll bound: `sam3x_flash_cmd` refines
one sequencer command, and the erase routine a region names, `sam3x_flash_write`,
`gpnvm_get` and `gpnvm_set`, for every region, range, target and argument list, each refine the
same routine on the sequencer.  Every run on the link that returns makes exactly the accesses
of a sequencer log, each flash command expanded into its `EEFC_FCR` write and its polling, and
the sequencer answering the link's results returns the same value with that log. -/
theorem driver_refines (fuel : Nat) :
    (∀ base cmd arg,
      LinkRefines fuel (sam3xFlashCmd fuel base cmd arg) (Port.host.flashCmd base cmd arg)) ∧
    (∀ f addr len,
      LinkRefines fuel (flashErase (Port.link fuel) f addr len) (flashErase Port.host f addr len)) ∧
    (∀ f dest len, LinkRefines fuel (sam3xFlashWrite (Port.link fuel) f dest len)
      (sam3xFlashWrite Port.host f dest len)) ∧
    (∀ t, LinkRefines fuel (sam3xCmdGpnvmGet (Port.link fuel) t) (sam3xCmdGpnvmGet Port.host t)) ∧
    ∀ t argv, LinkRefines fuel (sam3xCmdGpnvmSet (Port.link fuel) t argv)
      (sam3xCmdGpnvmSet Port.host t argv) :=
  ⟨LinkRefines.flashCmd, flashErase_refines, sam3xFlashWrite_refines, sam3xCmdGpnvmGet_refines,
    sam3xCmdGpnvmSet_refines⟩

/-! ## 5. What the routines touch -/

/-- An access of a flash command to the controller at `base`: a write of its `EEFC_FCR`, a read
of its `EEFC_FSR`, or the link's error check. -/
def Access.OfCommand (base : BitVec 32) : Access → Prop
  | .memWrite32 addr _ => addr = eefcFcr base
  | .memRead32 addr => addr = eefcFsr base
  | .checkError => True
  | .memWrite _ _ | .tcPrintf _ => False

/-- An access the write of region `f` may make: one of a flash command to the region's
controller, or a bulk write that lies inside the region. -/
def Access.OnRegion (f : SamFlash) (a : Access) : Prop :=
  a.OfCommand f.eefcBase ∨
    ∃ dest len, a = .memWrite dest len ∧ f.start ≤ dest ∧ dest + len ≤ f.start + f.length

/-- An access the GPNVM commands may make on the controller at `base`: one of a flash command to
it, a read of its `EEFC_FRR`, or a printed line; never a bulk write. -/
def Access.OnGpnvm (base : BitVec 32) (a : Access) : Prop :=
  a.OfCommand base ∨ a = .memRead32 (eefcFrr base) ∨ ∃ text, a = .tcPrintf text

/-- The register writes of a trace, in order: the register and the word. -/
def regWrites : List Access → List (BitVec 32 × BitVec 32)
  | [] => []
  | .memWrite32 addr w :: as => (addr, w) :: regWrites as
  | _ :: as => regWrites as

/-- The register write a sequencer event makes on the link: a flash command's word. -/
def Event.regWrites : Event → List (BitVec 32 × BitVec 32)
  | .flashCmd base cmd arg => [(eefcFcr base, eefcFcrWord cmd arg)]
  | _ => []

/-- Every block of accesses event `e` can expand into, with at most `fuel` polling iterations,
satisfies `P`. -/
def Event.Within (fuel : Nat) (P : Access → Prop) (e : Event) : Prop :=
  ∀ b, Expands fuel e b → ∀ a ∈ b, P a

@[simp] theorem regWrites_append (as bs : List Access) :
    regWrites (as ++ bs) = regWrites as ++ regWrites bs := by
  induction as with
  | nil => rfl
  | cons a as ih => cases a <;> simp [regWrites, ih]

theorem busyTrace_regWrites (base : BitVec 32) : ∀ i, regWrites (busyTrace base i) = []
  | 0 => rfl
  | i + 1 => busyTrace_regWrites base i

theorem busyTrace_ofCommand (base : BitVec 32) :
    ∀ i, ∀ a ∈ busyTrace base i, a.OfCommand base
  | 0 => by simp [busyTrace]
  | i + 1 =>
    List.forall_mem_cons.2 ⟨rfl, List.forall_mem_cons.2 ⟨trivial, busyTrace_ofCommand base i⟩⟩

section Expansion

variable {fuel : Nat}

/-- The register writes of an event's expansion are its own. -/
theorem Expands.regWrites {e : Event} {b : List Access} (h : Expands fuel e b) :
    Sam3x.regWrites b = e.regWrites := by
  cases h <;> simp [Sam3x.regWrites, Event.regWrites, busyTrace_regWrites]

/-- The register writes of a log's expansion are those of its flash commands, in order. -/
theorem LogExpands.regWrites {evs : List Event} {acc : List Access}
    (h : LogExpands fuel evs acc) : Sam3x.regWrites acc = (evs.map Event.regWrites).flatten := by
  induction h with
  | nil => rfl
  | cons he _ ih => simp [he.regWrites, ih]

/-- A flash command makes no access but those of a flash command to its own controller. -/
theorem Expands.ofCommand {base : BitVec 32} {cmd : BitVec 8} {arg : BitVec 16}
    {b : List Access} (h : Expands fuel (.flashCmd base cmd arg) b) :
    ∀ a ∈ b, a.OfCommand base := by
  cases h <;> exact List.forall_mem_cons.2 ⟨rfl, List.forall_mem_append.2
    ⟨busyTrace_ofCommand base _, by simp [Access.OfCommand]⟩⟩

theorem Event.within_flashCmd {P : Access → Prop} {base : BitVec 32} {cmd : BitVec 8}
    {arg : BitVec 16} (hP : ∀ a, a.OfCommand base → P a) :
    (Event.flashCmd base cmd arg).Within fuel P :=
  fun _ h a ha => hP a (h.ofCommand a ha)

theorem Event.within_memWrite {P : Access → Prop} {dest len : Nat} (hP : P (.memWrite dest len)) :
    (Event.memWrite dest len).Within fuel P := by
  rintro _ ⟨⟩ a ha
  exact List.mem_singleton.1 ha ▸ hP

theorem Event.within_memRead32 {P : Access → Prop} {addr : BitVec 32} (hP : P (.memRead32 addr)) :
    (Event.memRead32 addr).Within fuel P := by
  rintro _ ⟨⟩ a ha
  exact List.mem_singleton.1 ha ▸ hP

theorem Event.within_tcPrintf {P : Access → Prop} {text : List Char} (hP : P (.tcPrintf text)) :
    (Event.tcPrintf text).Within fuel P := by
  rintro _ ⟨⟩ a ha
  exact List.mem_singleton.1 ha ▸ hP

/-- A log whose events stay within `P` expands into accesses that satisfy `P`. -/
theorem LogExpands.forall_mem {P : Access → Prop} {evs : List Event} {acc : List Access}
    (h : LogExpands fuel evs acc) (he : ∀ e ∈ evs, e.Within fuel P) : ∀ a ∈ acc, P a := by
  induction h with
  | nil => simp
  | cons hb _ ih =>
    rw [List.forall_mem_cons] at he
    exact List.forall_mem_append.2 ⟨he.1 _ hb, ih he.2⟩

/-- What a refining routine adds on the sequencer stays within `P`, so what it adds on the link
satisfies `P`. -/
theorem LinkRefines.forall_mem {x : Link → Option (α × Link)} {y : Host → Option (α × Host)}
    {P : Access → Prop} (hr : LinkRefines fuel x y)
    (hy : ∀ h a h', y h = some (a, h') → ∃ evs, h'.log = h.log ++ evs ∧
      ∀ e ∈ evs, e.Within fuel P)
    {l : Link} {a : α} {l' : Link} (hx : x l = some (a, l')) :
    ∃ acc, l'.trace = l.trace ++ acc ∧ ∀ b ∈ acc, P b := by
  obtain ⟨rs, ds, evs, acc, ht, hexp, hh⟩ := hr l a l' hx
  obtain ⟨evs', hlog, hon⟩ := hy _ a _ (hh _ (Host.ofLists_begins rs ds))
  have hevs : evs = evs' := List.append_cancel_left (show _ ++ evs = _ ++ evs' from hlog)
  exact ⟨acc, ht, hexp.forall_mem (hevs ▸ hon)⟩

/-- A sequencer run that recorded `evs`, each of which satisfies `Q`. -/
theorem Host.log_of_skip {β : Type} {h h' : Host} {a b : β} {r n : Nat} {evs : List Event}
    {Q : Event → Prop} (e : some (b, h.skip r n evs) = some (a, h'))
    (hq : ∀ ev ∈ evs, Q ev) :
    ∃ evs, h'.log = h.log ++ evs ∧ ∀ ev ∈ evs, Q ev := by
  obtain rfl := (Prod.mk.inj (Option.some.inj e)).2
  exact ⟨evs, rfl, hq⟩

/-- On the sequencer the erase routine a region names adds only commands to its controller. -/
theorem flashErase_host_log (f : SamFlash) (addr len : Nat) {h h' : Host} {r : Int}
    (e : flashErase Port.host f addr len h = some (r, h')) :
    ∃ evs, h'.log = h.log ++ evs ∧ ∀ ev ∈ evs, ev.Within fuel (Access.OfCommand f.eefcBase) := by
  unfold flashErase at e
  split at e
  · obtain rfl := (Prod.mk.inj (Option.some.inj e)).2
    exact ⟨[], by simp, by simp⟩
  · rw [sam4FlashErase, sam4FlashEraseLoop_eq] at e
    obtain ⟨r', k, -, hrun⟩ := Host.issueEach_prefix f.eefcBase eefcFcrFcmdEpa
      (eraseArgs (offset32 addr f.start / sam4PageSize) ((len + f.blocksize - 1) / f.blocksize)) h
    rw [hrun] at e
    refine Host.log_of_skip e fun ev hev => ?_
    obtain ⟨a, -, rfl⟩ := List.mem_map.1 hev
    exact Event.within_flashCmd fun _ => id

/-- On the sequencer `sam3x_flash_write` adds its bulk write and one command to its region's
controller, so a write inside the region stays on it. -/
theorem sam3xFlashWrite_host_log (f : SamFlash) {dest len : Nat} (hlo : f.start ≤ dest)
    (hhi : dest + len ≤ f.start + f.length) {h h' : Host} {r : Int}
    (e : sam3xFlashWrite Port.host f dest len h = some (r, h')) :
    ∃ evs, h'.log = h.log ++ evs ∧ ∀ ev ∈ evs, ev.Within fuel (Access.OnRegion f) := by
  rw [sam3xFlashWrite_host] at e
  refine Host.log_of_skip e (List.forall_mem_cons.2 ⟨?_, List.forall_mem_singleton.2 ?_⟩)
  · exact Event.within_memWrite (.inr ⟨dest, len, rfl, hlo, hhi⟩)
  · exact Event.within_flashCmd fun _ => .inl

/-- The events of the GPNVM commands on the controller at `base`: a command to it, a read of its
`EEFC_FRR`, a printed line. -/
theorem Event.within_onGpnvm {base : BitVec 32} {e : Event}
    (he : (∃ cmd arg, e = .flashCmd base cmd arg) ∨ e = .memRead32 (eefcFrr base) ∨
      ∃ text, e = .tcPrintf text) :
    e.Within fuel (Access.OnGpnvm base) := by
  rcases he with ⟨cmd, arg, rfl⟩ | rfl | ⟨text, rfl⟩
  · exact Event.within_flashCmd fun _ => .inl
  · exact Event.within_memRead32 (.inr (.inl rfl))
  · exact Event.within_tcPrintf (.inr (.inr ⟨text, rfl⟩))

/-- On the sequencer `gpnvm_get` adds only events of the controller `sam3x_flash_base` picks. -/
theorem sam3xCmdGpnvmGet_host_log (t : Target) {h h' : Host} {ok : Bool}
    (e : sam3xCmdGpnvmGet Port.host t h = some (ok, h')) :
    ∃ evs, h'.log = h.log ++ evs ∧
      ∀ ev ∈ evs, ev.Within fuel (Access.OnGpnvm (sam3xFlashBase t)) := by
  rw [sam3xCmdGpnvmGet_host] at e
  refine Host.log_of_skip e fun ev hev => Event.within_onGpnvm ?_
  simp only [List.mem_cons, List.mem_singleton, List.not_mem_nil, or_false] at hev
  rcases hev with rfl | rfl | rfl
  exacts [.inl ⟨_, _, rfl⟩, .inr (.inl rfl), .inr (.inr ⟨_, rfl⟩)]

/-- On the sequencer `gpnvm_set` adds only events of the controller `sam3x_flash_base` picks,
with three arguments or without. -/
theorem sam3xCmdGpnvmSet_host_log (t : Target) (argv : List (List Char)) {h h' : Host}
    {ok : Bool} (e : sam3xCmdGpnvmSet Port.host t argv h = some (ok, h')) :
    ∃ evs, h'.log = h.log ++ evs ∧
      ∀ ev ∈ evs, ev.Within fuel (Access.OnGpnvm (sam3xFlashBase t)) := by
  by_cases hn : argv.length = 3
  · obtain ⟨name, bitArg, valArg, rfl⟩ := List.length_eq_three.1 hn
    rw [sam3xCmdGpnvmSet_three] at e
    refine Host.log_of_skip e fun ev hev => Event.within_onGpnvm ?_
    simp only [List.mem_cons, List.mem_singleton, List.not_mem_nil, or_false] at hev
    rcases hev with rfl | rfl | rfl | rfl
    exacts [.inl ⟨_, _, rfl⟩, .inl ⟨_, _, rfl⟩, .inr (.inl rfl), .inr (.inr ⟨_, rfl⟩)]
  · rw [sam3xCmdGpnvmSet_usage t hn] at e
    exact Host.log_of_skip e
      (List.forall_mem_singleton.2 (Event.within_onGpnvm (.inr (.inr ⟨_, rfl⟩))))

end Expansion

/-! Each routine's footprint on the link, read off its footprint on the sequencer. -/

theorem flashErase_link_footprint (fuel : Nat) (f : SamFlash) (addr len : Nat) {l l' : Link}
    {r : Int} (e : flashErase (Port.link fuel) f addr len l = some (r, l')) :
    ∃ acc, l'.trace = l.trace ++ acc ∧ ∀ a ∈ acc, a.OfCommand f.eefcBase :=
  (flashErase_refines f addr len).forall_mem (fun _ _ _ => flashErase_host_log f addr len) e

theorem sam3xFlashWrite_link_footprint (fuel : Nat) (f : SamFlash) {dest len : Nat}
    (hlo : f.start ≤ dest) (hhi : dest + len ≤ f.start + f.length) {l l' : Link} {r : Int}
    (e : sam3xFlashWrite (Port.link fuel) f dest len l = some (r, l')) :
    ∃ acc, l'.trace = l.trace ++ acc ∧ ∀ a ∈ acc, a.OnRegion f :=
  (sam3xFlashWrite_refines f dest len).forall_mem
    (fun _ _ _ => sam3xFlashWrite_host_log f hlo hhi) e

theorem sam3xCmdGpnvmGet_link_footprint (fuel : Nat) (t : Target) {l l' : Link} {ok : Bool}
    (e : sam3xCmdGpnvmGet (Port.link fuel) t l = some (ok, l')) :
    ∃ acc, l'.trace = l.trace ++ acc ∧ ∀ a ∈ acc, a.OnGpnvm (sam3xFlashBase t) :=
  (sam3xCmdGpnvmGet_refines t).forall_mem (fun _ _ _ => sam3xCmdGpnvmGet_host_log t) e

theorem sam3xCmdGpnvmSet_link_footprint (fuel : Nat) (t : Target) (argv : List (List Char))
    {l l' : Link} {ok : Bool} (e : sam3xCmdGpnvmSet (Port.link fuel) t argv l = some (ok, l')) :
    ∃ acc, l'.trace = l.trace ++ acc ∧ ∀ a ∈ acc, a.OnGpnvm (sam3xFlashBase t) :=
  (sam3xCmdGpnvmSet_refines t argv).forall_mem (fun _ _ _ => sam3xCmdGpnvmSet_host_log t argv) e

/-- **The routines touch one controller.**  On the debug link, for every poll bound and every
run that returns: the erase a region names makes no access but the writes of its controller's
`EEFC_FCR`, the reads of its `EEFC_FSR` and the error checks; `sam3x_flash_write` of data inside
its region adds to these only its bulk write, inside the region; and `gpnvm_get` and `gpnvm_set`
add to those of the controller `sam3x_flash_base` picks only reads of its `EEFC_FRR` and printed
lines, and no bulk write. -/
theorem driver_one_controller (fuel : Nat) :
    (∀ f addr len l r l', flashErase (Port.link fuel) f addr len l = some (r, l') →
      ∃ acc, l'.trace = l.trace ++ acc ∧ ∀ a ∈ acc, a.OfCommand f.eefcBase) ∧
    (∀ f dest len, f.start ≤ dest → dest + len ≤ f.start + f.length →
      ∀ l r l', sam3xFlashWrite (Port.link fuel) f dest len l = some (r, l') →
        ∃ acc, l'.trace = l.trace ++ acc ∧ ∀ a ∈ acc, a.OnRegion f) ∧
    (∀ t l ok l', sam3xCmdGpnvmGet (Port.link fuel) t l = some (ok, l') →
      ∃ acc, l'.trace = l.trace ++ acc ∧ ∀ a ∈ acc, a.OnGpnvm (sam3xFlashBase t)) ∧
    ∀ t argv l ok l', sam3xCmdGpnvmSet (Port.link fuel) t argv l = some (ok, l') →
      ∃ acc, l'.trace = l.trace ++ acc ∧ ∀ a ∈ acc, a.OnGpnvm (sam3xFlashBase t) :=
  ⟨fun f addr len _ _ _ => flashErase_link_footprint fuel f addr len,
    fun f _ _ hlo hhi _ _ _ => sam3xFlashWrite_link_footprint fuel f hlo hhi,
    fun t _ _ _ => sam3xCmdGpnvmGet_link_footprint fuel t,
    fun t argv _ _ _ => sam3xCmdGpnvmSet_link_footprint fuel t argv⟩

/-- Writing the second page of a SAM3X bank, inside the bank, on a link whose controller is
always ready. -/
theorem driver_one_controller_sam3x :
    (sam3Flash (sam3xEefcBase 0) 0x80000 0x40000).start ≤ 0x80100 ∧
      0x80100 + 0x100 ≤ (sam3Flash (sam3xEefcBase 0) 0x80000 0x40000).start +
        (sam3Flash (sam3xEefcBase 0) 0x80000 0x40000).length ∧
      ∃ r l', sam3xFlashWrite (Port.link 1) (sam3Flash (sam3xEefcBase 0) 0x80000 0x40000) 0x80100
          0x100 ⟨fun _ => 1, fun _ => false, []⟩ = some (r, l') ∧
        ∃ acc, l'.trace = [] ++ acc ∧
          ∀ a ∈ acc, a.OnRegion (sam3Flash (sam3xEefcBase 0) 0x80000 0x40000) := by
  have hs : (sam3xFlashWrite (Port.link 1) (sam3Flash (sam3xEefcBase 0) 0x80000 0x40000) 0x80100
      0x100 ⟨fun _ => 1, fun _ => false, []⟩).isSome := by decide
  obtain ⟨⟨r, l'⟩, e⟩ := Option.isSome_iff_exists.1 hs
  exact ⟨by decide, by decide, r, l', e,
    (driver_one_controller 1).2.1 _ _ _ (by decide) (by decide) _ _ _ e⟩

/-- On the sequencer `issueEach` answers `0` only after issuing every command, and otherwise
`-1`. -/
theorem Host.issueEach_result (base : BitVec 32) (cmd : BitVec 8) :
    ∀ (args : List (BitVec 16)) (h : Host) (r : Int) (h' : Host),
      Port.host.issueEach base cmd args h = some (r, h') → (r = 0 ∨ r = -1) ∧
        (r = 0 → h' = h.skip args.length 0 (args.map (.flashCmd base cmd)))
  | [], h, r, h', e => by
    obtain ⟨rfl, rfl⟩ := Prod.mk.inj (Option.some.inj e)
    simp
  | a :: as, h, r, h', e => by
    rw [Host.issueEach_cons] at e
    split_ifs at e
    · obtain ⟨rfl, rfl⟩ := Prod.mk.inj (Option.some.inj e)
      simp
    · obtain ⟨hr, hall⟩ := Host.issueEach_result base cmd as _ r h' e
      refine ⟨hr, fun h0 => ?_⟩
      rw [hall h0, Host.skip_skip]
      simp [Nat.add_comm]

/-- **What the erase writes on the link.**  For every poll bound and every link on which
`sam4_flash_erase` returns, it appends to the trace accesses of flash commands to the region's
controller only, whose register writes are the `EEFC_FCR` words of `EPA` on the 8-page groups
`chunk`, `chunk + 8`, …: the first `k` of the `⌈len / blocksize⌉` its loop has, all of them when
it returns `0`; and it returns `0` or `-1`. -/
theorem sam4FlashErase_link_words (fuel : Nat) (f : SamFlash) (addr len : Nat) {l l' : Link}
    {r : Int} (h : sam4FlashErase (Port.link fuel) f addr len l = some (r, l')) :
    ∃ k acc, l'.trace = l.trace ++ acc ∧ k ≤ (len + f.blocksize - 1) / f.blocksize ∧
      (r = 0 → k = (len + f.blocksize - 1) / f.blocksize) ∧ (r = 0 ∨ r = -1) ∧
      regWrites acc = (List.range k).map (fun j => (eefcFcr f.eefcBase, eefcFcrWord eefcFcrFcmdEpa
        (BitVec.ofNat 16 ((offset32 addr f.start / sam4PageSize + 8 * j) ||| 1)))) ∧
      ∀ a ∈ acc, a.OfCommand f.eefcBase := by
  obtain ⟨rs, ds, evs, acc, ht, hexp, hy⟩ := sam4FlashErase_refines f addr len l r l' h
  have hrun := hy _ (Host.ofLists_begins rs ds)
  rw [sam4FlashErase, sam4FlashEraseLoop_eq] at hrun
  obtain ⟨r', k, hk, hpre⟩ := Host.issueEach_prefix _ _ _ (Host.ofLists rs ds)
  obtain ⟨rfl, hst⟩ := Prod.mk.inj (Option.some.inj (hpre.symm.trans hrun))
  have hevs := List.append_cancel_left (congrArg Host.log hst)
  have hlen := (eraseArgs_eq_map (offset32 addr f.start / sam4PageSize)
    ((len + f.blocksize - 1) / f.blocksize)) ▸ List.length_map _ _
  rw [List.length_range] at hlen
  obtain ⟨hr, hall⟩ := Host.issueEach_result _ _ _ _ _ _ hrun
  refine ⟨k, acc, ht, hlen ▸ hk, fun h0 => ?_, hr, ?_, hexp.forall_mem fun e he => ?_⟩
  · have := congrArg (fun h => h.log.length) (hst.trans (hall h0))
    simp only [Host.skip, List.length_append, List.length_map, List.length_take] at this
    omega
  · rw [hexp.regWrites, ← hevs, eraseArgs_take_map, Nat.min_eq_left (hlen ▸ hk)]
    induction List.range k with
    | nil => rfl
    | cons j js ih => simpa [Event.regWrites] using ih
  · obtain ⟨a, -, rfl⟩ := List.mem_map.1 (hevs ▸ he)
    exact Event.within_flashCmd fun _ => id

/-- Erasing two groups of a SAME70 region, on a link whose controller is always ready. -/
theorem sam4FlashErase_link_words_same70 :
    ∃ r l', sam4FlashErase (Port.link 1) (sam4Flash samx7xEefcBase 0x400000 0x200000) 0x400200
        0x1001 ⟨fun _ => 1, fun _ => false, []⟩ = some (r, l') ∧
      ∃ k acc, l'.trace = [] ++ acc ∧ k ≤ 2 ∧ (r = 0 → k = 2) ∧ (r = 0 ∨ r = -1) ∧
        regWrites acc = (List.range k).map (fun j => (eefcFcr samx7xEefcBase,
          eefcFcrWord eefcFcrFcmdEpa (BitVec.ofNat 16 ((1 + 8 * j) ||| 1)))) ∧
        ∀ a ∈ acc, a.OfCommand samx7xEefcBase := by
  have hs : (sam4FlashErase (Port.link 1) (sam4Flash samx7xEefcBase 0x400000 0x200000) 0x400200
      0x1001 ⟨fun _ => 1, fun _ => false, []⟩).isSome := by
    rw [sam4FlashErase, sam4FlashEraseLoop_eq]
    decide
  obtain ⟨⟨r, l'⟩, e⟩ := Option.isSome_iff_exists.1 hs
  exact ⟨r, l', e, sam4FlashErase_link_words 1 _ _ _ e⟩

/-- **What the write sends on the link.**  For every poll bound and every link on which
`sam3x_flash_write` returns, its first access is the bulk write of the data to `dest`, which
loads the page buffer; every access after it is one of a flash command to the region's
controller, among which the only register write is of `EEFC_FCR`, once, with `write_cmd` on the
page `(dest - start) / buf_size`; it returns `0` or `-1`. -/
theorem sam3xFlashWrite_link_trace (fuel : Nat) (f : SamFlash) (dest len : Nat) {l l' : Link}
    {r : Int} (h : sam3xFlashWrite (Port.link fuel) f dest len l = some (r, l')) :
    ∃ acc, l'.trace = l.trace ++ .memWrite dest len :: acc ∧
      regWrites acc = [(eefcFcr f.eefcBase,
        eefcFcrWord f.writeCmd (BitVec.ofNat 16 (offset32 dest f.start / f.bufSize)))] ∧
      (∀ a ∈ acc, a.OfCommand f.eefcBase) ∧ (r = 0 ∨ r = -1) := by
  obtain ⟨rs, ds, evs, acc, ht, hexp, hy⟩ := sam3xFlashWrite_refines f dest len l r l' h
  have hrun := hy _ (Host.ofLists_begins rs ds)
  rw [sam3xFlashWrite_host] at hrun
  obtain ⟨hr, hst⟩ := Prod.mk.inj (Option.some.inj hrun)
  obtain rfl := List.append_cancel_left (congrArg Host.log hst)
  obtain ⟨b, bs, rfl, hb, hbs⟩ := hexp.cons_inv
  cases hb
  refine ⟨bs, ht, by simp [hbs.regWrites, Event.regWrites],
    hbs.forall_mem (List.forall_mem_singleton.2 (Event.within_flashCmd fun _ => id)), ?_⟩
  rw [← hr]
  split_ifs <;> simp

/-- Writing the second page of a SAM3X bank on a link whose controller is always ready. -/
theorem sam3xFlashWrite_link_trace_sam3x :
    ∃ r l', sam3xFlashWrite (Port.link 1) (sam3Flash (sam3xEefcBase 0) 0x80000 0x40000) 0x80100
        0x100 ⟨fun _ => 1, fun _ => false, []⟩ = some (r, l') ∧
      ∃ acc, l'.trace = [] ++ .memWrite 0x80100 0x100 :: acc ∧
        regWrites acc = [(eefcFcr (sam3xEefcBase 0),
          eefcFcrWord eefcFcrFcmdEwp (BitVec.ofNat 16 (offset32 0x80100 0x80000 / 0x100)))] ∧
        (∀ a ∈ acc, a.OfCommand (sam3xEefcBase 0)) ∧ (r = 0 ∨ r = -1) := by
  have hs : (sam3xFlashWrite (Port.link 1) (sam3Flash (sam3xEefcBase 0) 0x80000 0x40000) 0x80100
      0x100 ⟨fun _ => 1, fun _ => false, []⟩).isSome := by decide
  obtain ⟨⟨r, l'⟩, e⟩ := Option.isSome_iff_exists.1 hs
  exact ⟨r, l', e, sam3xFlashWrite_link_trace 1 _ _ _ e⟩

end Sam3x
