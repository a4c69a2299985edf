import MoonlightVita.Resources

/-!
# What the probes hold

The handles of the diagnostic programs, and the functions that both of them have under the
same names: `initialize_network`, `cleanup_network` and `close_log`. The global flags say
exactly which handles are held.
-/
namespace MoonlightVita.ProbeProgram
open Resources

inductive Handle
  | netModule | netMemory | net | netCtl
  | log (fd : ℤ)
  | socket (id : ℤ)
  | epoll (id : ℤ)
  | resolver (id : ℤ)
  | dump (id : ℤ)
  | netif (socketId : ℤ)
  | udp (socketId : ℤ)
  | tcp (socketId : ℤ)
  | vita2d | pgf | font
  deriving DecidableEq, Repr

/-- SceNet needs its module and its memory, everything on the network needs SceNet, the
interface of lwIP needs its socket and its control blocks need it, and a font needs the
screen and its module. -/
def needs : Handle → Handle → Prop
  | .net, .netModule | .net, .netMemory | .netCtl, .net => True
  | .socket _, .net | .epoll _, .net | .resolver _, .net | .dump _, .net => True
  | .netif id, .socket id' => id = id'
  | .udp id, .netif id' | .tcp id, .netif id' => id = id'
  | .font, .vita2d | .font, .pgf => True
  | _, _ => False

/-- The global variables of a probe; `logFd` is `g_log_fd` where that is not negative. -/
structure Program where
  moduleLoaded : Bool
  netMemory : Bool
  netInitialized : Bool
  netctlInitialized : Bool
  logFd : Option ℤ
  vita2d : Bool
  pgf : Bool
  font : Bool
  deriving DecidableEq, Repr

def Program.start : Program := ⟨false, false, false, false, none, false, false, false⟩

/-- What a program holds between two tests. -/
def Program.held (s : Program) : Held Handle
  | .netModule => s.moduleLoaded
  | .netMemory => s.netMemory
  | .net => s.netInitialized
  | .netCtl => s.netctlInitialized
  | .log fd => s.logFd = some fd
  | .vita2d => s.vita2d
  | .pgf => s.pgf
  | .font => s.font
  | .socket _ | .epoll _ | .resolver _ | .dump _ | .netif _ | .udp _ | .tcp _ => false

/-- The flags fit together. -/
structure Coherent (s : Program) : Prop where
  memory : s.netMemory = s.netInitialized
  net : s.netInitialized → s.moduleLoaded
  netctl : s.netctlInitialized → s.netInitialized

/-- The outcomes of the calls of `initialize_network`. -/
structure NetworkOutcomes where
  loadModule : ℤ
  malloc : Bool
  netInit : ℤ
  netCtlInit : ℤ
  deriving DecidableEq, Repr

abbrev Ops : Type := List (Op Handle)

def loadNetModule (s : Program) (o : NetworkOutcomes) : ℤ × Program × Ops :=
  if !s.moduleLoaded then
    if o.loadModule < 0 then (o.loadModule, s, [])
    else (0, { s with moduleLoaded := true }, [.acquire .netModule])
  else (0, s, [])

def initNet (s : Program) (o : NetworkOutcomes) : ℤ × Program × Ops :=
  if !s.netInitialized then
    if !o.malloc then (-1, { s with netMemory := false }, [])
    else if o.netInit < 0 then
      (o.netInit, { s with netMemory := false }, [.acquire .netMemory, .release .netMemory])
    else (0, { s with netMemory := true, netInitialized := true },
      [.acquire .netMemory, .acquire .net])
  else (0, s, [])

def initNetCtl (s : Program) (o : NetworkOutcomes) : ℤ × Program × Ops :=
  if !s.netctlInitialized then
    if o.netCtlInit < 0 then (o.netCtlInit, s, [])
    else (0, { s with netctlInitialized := true }, [.acquire .netCtl])
  else (0, s, [])

def initializeNetwork (s : Program) (o : NetworkOutcomes) : ℤ × Program × Ops :=
  let module := loadNetModule s o
  if module.1 < 0 then module
  else
    let net := initNet module.2.1 o
    if net.1 < 0 then (net.1, net.2.1, module.2.2 ++ net.2.2)
    else
      let ctl := initNetCtl net.2.1 o
      (ctl.1, ctl.2.1, module.2.2 ++ (net.2.2 ++ ctl.2.2))

def releaseIf (held : Bool) (h : Handle) : Ops := if held then [.release h] else []

def cleanupNetwork (s : Program) : Program × Ops :=
  ({ s with
    netctlInitialized := false
    netInitialized := false
    netMemory := false
    moduleLoaded := false },
    releaseIf s.netctlInitialized .netCtl ++ (releaseIf s.netInitialized .net ++
      (releaseIf s.netMemory .netMemory ++ releaseIf s.moduleLoaded .netModule)))

def closeLog (s : Program) : Program × Ops :=
  match s.logFd with
  | some fd => ({ s with logFd := none }, [.release (.log fd)])
  | none => (s, [])

/-- `sceIoOpen` of the log, after the old one was closed. -/
def openLog (s : Program) (opened : ℤ) : Program × Ops :=
  let closed := closeLog s
  if opened < 0 then closed
  else ({ closed.1 with logFd := some opened }, closed.2 ++ [.acquire (.log opened)])

section Lawful
variable {s : Program} {o : NetworkOutcomes}

/-- A part of a program: it is lawful, and the flags still fit together and say what is held. -/
structure Part (s : Program) (ops : Ops) (s' : Program) : Prop where
  leaves : Leaves needs s.held ops s'.held
  coherent : Coherent s'

lemma Part.append {s s' s'' : Program} {ops ops' : Ops} (h : Part s ops s')
    (h' : Part s' ops' s'') : Part s (ops ++ ops') s'' :=
  ⟨h.leaves.append h'.leaves, h'.coherent⟩

lemma Part.refl (h : Coherent s) : Part s [] s := ⟨.nil, h⟩

/-- The flags change as the handle is taken or given back. -/
lemma held_eq {s s' : Program} {h : Handle} {value : Bool} (hself : s'.held h = value)
    (hothers : ∀ other, other ≠ h → s'.held other = s.held other) :
    s.held.set h value = s'.held := by
  funext other
  by_cases hother : other = h
  · subst hother
    rw [set_self, hself]
  · rw [set_of_ne _ _ hother, hothers other hother]

lemma leaves_take {rel : Handle → Handle → Prop} {s s' : Program} {h : Handle}
    (habsent : s.held h = false) (hready : ∀ d, rel h d → s.held d = true)
    (hself : s'.held h = true) (hothers : ∀ other, other ≠ h → s'.held other = s.held other) :
    Leaves rel s.held [.acquire h] s'.held :=
  held_eq hself hothers ▸ leaves_acquire habsent hready

lemma leaves_give {rel : Handle → Handle → Prop} {s s' : Program} {h : Handle}
    (hpresent : s.held h = true) (hunneeded : ∀ u, rel u h → s.held u = false)
    (hself : s'.held h = false) (hothers : ∀ other, other ≠ h → s'.held other = s.held other) :
    Leaves rel s.held [.release h] s'.held :=
  held_eq hself hothers ▸ leaves_release hpresent hunneeded

lemma loadNetModule_part (hs : Coherent s) :
    Part s (loadNetModule s o).2.2 (loadNetModule s o).2.1 ∧
      (0 ≤ (loadNetModule s o).1 → (loadNetModule s o).2.1.moduleLoaded) := by
  unfold loadNetModule
  by_cases hloaded : s.moduleLoaded = true
  · rw [if_neg (by simp [hloaded])]
    exact ⟨Part.refl hs, fun _ => hloaded⟩
  have hfalse : s.moduleLoaded = false := by simpa using hloaded
  rw [if_pos (by simp [hfalse])]
  by_cases hresult : o.loadModule < 0
  · rw [if_pos hresult]
    exact ⟨Part.refl hs, fun h => absurd hresult (not_lt.mpr h)⟩
  · rw [if_neg hresult]
    refine ⟨⟨leaves_take hfalse ?_ rfl ?_, ⟨hs.memory, fun _ => rfl, hs.netctl⟩⟩, fun _ => rfl⟩
    · intro d hd
      cases d <;> exact hd.elim
    · intro other hother
      cases other <;> first | rfl | exact absurd rfl hother

lemma initNet_part (hs : Coherent s) (hloaded : s.moduleLoaded = true) :
    Part s (initNet s o).2.2 (initNet s o).2.1 ∧
      (0 ≤ (initNet s o).1 → (initNet s o).2.1.netInitialized) := by
  unfold initNet
  by_cases hinit : s.netInitialized = true
  · rw [if_neg (by simp [hinit])]
    exact ⟨Part.refl hs, fun _ => hinit⟩
  have hnet : s.netInitialized = false := by simpa using hinit
  have hmemory : s.netMemory = false := hs.memory.trans hnet
  have hctl : s.netctlInitialized = false := by
    have := hs.netctl.mt hinit
    simpa using this
  have hforgotten : { s with netMemory := false } = s := by rw [← hmemory]
  rw [if_pos (by simp [hnet])]
  have htake : Leaves needs s.held [.acquire .netMemory] { s with netMemory := true }.held := by
    refine leaves_take hmemory ?_ rfl ?_
    · intro d hd
      cases d <;> exact hd.elim
    · intro other hother
      cases other <;> first | rfl | exact absurd rfl hother
  by_cases hmalloc : (!o.malloc) = true
  · rw [if_pos hmalloc, hforgotten]
    exact ⟨Part.refl hs, fun h => absurd h (by norm_num)⟩
  rw [if_neg hmalloc]
  by_cases hresult : o.netInit < 0
  · rw [if_pos hresult, hforgotten]
    refine ⟨⟨htake.append (leaves_give rfl ?_ hmemory ?_), hs⟩,
      fun h => absurd hresult (not_lt.mpr h)⟩
    · intro u hu
      cases u with
      | net => exact hnet
      | _ => exact hu.elim
    · intro other hother
      cases other <;> first | rfl | exact absurd rfl hother
  · rw [if_neg hresult]
    refine ⟨⟨htake.append (leaves_take hnet ?_ rfl ?_), ⟨rfl, fun _ => hloaded, ?_⟩⟩,
      fun _ => rfl⟩
    · intro d hd
      cases d with
      | netModule => exact hloaded
      | netMemory => rfl
      | _ => exact hd.elim
    · intro other hother
      cases other <;> first | rfl | exact absurd rfl hother
    · exact fun _ => rfl

lemma initNetCtl_part (hs : Coherent s) (hinit : s.netInitialized = true) :
    Part s (initNetCtl s o).2.2 (initNetCtl s o).2.1 ∧
      (0 ≤ (initNetCtl s o).1 → (initNetCtl s o).2.1.netctlInitialized) := by
  unfold initNetCtl
  by_cases hctl : s.netctlInitialized = true
  · rw [if_neg (by simp [hctl])]
    exact ⟨Part.refl hs, fun _ => hctl⟩
  have hfalse : s.netctlInitialized = false := by simpa using hctl
  rw [if_pos (by simp [hfalse])]
  by_cases hresult : o.netCtlInit < 0
  · rw [if_pos hresult]
    exact ⟨Part.refl hs, fun h => absurd hresult (not_lt.mpr h)⟩
  · rw [if_neg hresult]
    refine ⟨⟨leaves_take hfalse ?_ rfl ?_, ⟨hs.memory, hs.net, fun _ => hinit⟩⟩, fun _ => rfl⟩
    · intro d hd
      cases d with
      | net => exact hinit
      | _ => exact hd.elim
    · intro other hother
      cases other <;> first | rfl | exact absurd rfl hother

/-- The network comes up with everything that it needs, or what has come up stays recorded. -/
theorem initializeNetwork_part (hs : Coherent s) (o : NetworkOutcomes) :
    Part s (initializeNetwork s o).2.2 (initializeNetwork s o).2.1 ∧
      (0 ≤ (initializeNetwork s o).1 → (initializeNetwork s o).2.1.netctlInitialized) := by
  unfold initializeNetwork
  obtain ⟨hmodule, hloaded⟩ := loadNetModule_part (o := o) hs
  by_cases hfirst : (loadNetModule s o).1 < 0
  · simp only [if_pos hfirst]
    exact ⟨hmodule, fun h => absurd hfirst (not_lt.mpr h)⟩
  simp only [if_neg hfirst]
  obtain ⟨hnet, hinit⟩ := initNet_part (o := o) hmodule.coherent (hloaded (not_lt.mp hfirst))
  by_cases hsecond : (initNet (loadNetModule s o).2.1 o).1 < 0
  · simp only [if_pos hsecond]
    exact ⟨hmodule.append hnet, fun h => absurd hsecond (not_lt.mpr h)⟩
  simp only [if_neg hsecond]
  obtain ⟨hctl, hready⟩ := initNetCtl_part (o := o) hnet.coherent (hinit (not_lt.mp hsecond))
  exact ⟨hmodule.append (hnet.append hctl), hready⟩

lemma releaseIf_leaves {s s' : Program} {h : Handle} {value : Bool} (hvalue : s.held h = value)
    (hunneeded : ∀ u, needs u h → s.held u = false) (hself : s'.held h = false)
    (hothers : ∀ other, other ≠ h → s'.held other = s.held other) :
    Leaves needs s.held (releaseIf value h) s'.held := by
  unfold releaseIf
  cases value with
  | true => exact leaves_give hvalue hunneeded hself hothers
  | false =>
    have hsame : s'.held = s.held := by
      funext other
      by_cases hother : other = h
      · rw [hother, hself, hvalue]
      · exact hothers other hother
    rw [hsame]
    exact .nil

/-- The network goes down in the reverse order. -/
theorem cleanupNetwork_part (s : Program) :
    Part s (cleanupNetwork s).2 (cleanupNetwork s).1 := by
  let ctl : Program := { s with netctlInitialized := false }
  let net : Program := { ctl with netInitialized := false }
  let memory : Program := { net with netMemory := false }
  have hctl : Leaves needs s.held (releaseIf s.netctlInitialized .netCtl) ctl.held := by
    refine releaseIf_leaves rfl ?_ rfl ?_
    · intro u hu
      cases u <;> exact hu.elim
    · intro other hother
      cases other <;> first | rfl | exact absurd rfl hother
  have hnet : Leaves needs ctl.held (releaseIf s.netInitialized .net) net.held := by
    refine releaseIf_leaves rfl ?_ rfl ?_
    · intro u hu
      cases u <;> first | rfl | exact hu.elim
    · intro other hother
      cases other <;> first | rfl | exact absurd rfl hother
  have hmemory : Leaves needs net.held (releaseIf s.netMemory .netMemory) memory.held := by
    refine releaseIf_leaves rfl ?_ rfl ?_
    · intro u hu
      cases u <;> first | rfl | exact hu.elim
    · intro other hother
      cases other <;> first | rfl | exact absurd rfl hother
  have hmodule : Leaves needs memory.held (releaseIf s.moduleLoaded .netModule)
      (cleanupNetwork s).1.held := by
    refine releaseIf_leaves rfl ?_ rfl ?_
    · intro u hu
      cases u <;> first | rfl | exact hu.elim
    · intro other hother
      cases other <;> first | rfl | exact absurd rfl hother
  exact ⟨hctl.append (hnet.append (hmemory.append hmodule)), ⟨rfl, by simp [cleanupNetwork],
    by simp [cleanupNetwork]⟩⟩

lemma closeLog_part (hs : Coherent s) : Part s (closeLog s).2 (closeLog s).1 := by
  unfold closeLog
  cases hlog : s.logFd with
  | none => exact Part.refl hs
  | some fd =>
    refine ⟨leaves_give (by simp [Program.held, hlog]) ?_ (by simp [Program.held]) ?_,
      ⟨hs.memory, hs.net, hs.netctl⟩⟩
    · intro u hu
      cases u <;> exact hu.elim
    · intro other hother
      cases other with
      | log other =>
        have hne : fd ≠ other := fun h => hother (h ▸ rfl)
        simp [Program.held, hlog, hne]
      | _ => rfl

@[simp] lemma closeLog_logFd (s : Program) : (closeLog s).1.logFd = none := by
  unfold closeLog
  cases hlog : s.logFd with
  | none => exact hlog
  | some fd => rfl

theorem openLog_part (hs : Coherent s) (opened : ℤ) :
    Part s (openLog s opened).2 (openLog s opened).1 := by
  have hclosed := closeLog_part hs
  unfold openLog
  by_cases hopened : opened < 0
  · simp only [if_pos hopened]
    exact hclosed
  simp only [if_neg hopened]
  refine hclosed.append ⟨leaves_take (by simp [Program.held]) ?_ (by simp [Program.held]) ?_,
    ⟨hclosed.coherent.memory, hclosed.coherent.net, hclosed.coherent.netctl⟩⟩
  · intro d hd
    cases d <;> exact hd.elim
  · intro other hother
    cases other with
    | log other =>
      have hne : opened ≠ other := fun h => hother (h ▸ rfl)
      simp [Program.held, hne]
    | _ => rfl

end Lawful

lemma held_start : Program.start.held = nothing := by
  funext h
  cases h <;> rfl

/-- The handles of the screen. -/
def screen (s : Program) : Bool × Bool × Bool := (s.vita2d, s.pgf, s.font)

lemma screen_closeLog (s : Program) : screen (closeLog s).1 = screen s := by
  unfold closeLog
  cases s.logFd <;> rfl

lemma screen_openLog (s : Program) (opened : ℤ) : screen (openLog s opened).1 = screen s := by
  unfold openLog
  dsimp only
  split_ifs
  · exact screen_closeLog s
  · exact screen_closeLog s

lemma screen_initializeNetwork (s : Program) (o : NetworkOutcomes) :
    screen (initializeNetwork s o).2.1 = screen s := by
  have hmodule : ∀ s, screen (loadNetModule s o).2.1 = screen s := by
    intro s
    unfold loadNetModule
    split_ifs <;> rfl
  have hnet : ∀ s, screen (initNet s o).2.1 = screen s := by
    intro s
    unfold initNet
    split_ifs <;> rfl
  have hctl : ∀ s, screen (initNetCtl s o).2.1 = screen s := by
    intro s
    unfold initNetCtl
    split_ifs <;> rfl
  unfold initializeNetwork
  dsimp only
  split_ifs
  · exact hmodule s
  · exact (hnet _).trans (hmodule s)
  · exact (hctl _).trans ((hnet _).trans (hmodule s))

end MoonlightVita.ProbeProgram
