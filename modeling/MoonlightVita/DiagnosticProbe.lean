import MoonlightVita.LittleEndian
import MoonlightVita.ProbeProgram

/-!
# The diagnostic probe

The network tests of `main.c` with the details that they report, `run_probe`, and the loop
over the buttons. Outcomes of system calls are arguments. Whatever happens, every handle is
given back once, after everything that needs it.
-/
namespace MoonlightVita.DiagnosticProbe
open LittleEndian ProbeProgram Resources

def sceNetEinprogress : ℤ := 36
def sceNetEwouldblock : ℤ := 35
def sceNetEtimedout : ℤ := 60
def sceNetErrorEinprogress : ℤ := -2143223516
def sceNetErrorEwouldblock : ℤ := -2143223517

structure ResolveOutcomes where
  create : ℤ
  startNtoa : ℤ
  deriving DecidableEq, Repr

def resolveIpv4 (o : ResolveOutcomes) : ℤ × Ops :=
  if o.create < 0 then (o.create, [])
  else (o.startNtoa, [.acquire (.resolver o.create), .release (.resolver o.create)])

def connectIsInProgress (result networkErrno : ℤ) : Bool :=
  networkErrno = sceNetEinprogress ∨ networkErrno = sceNetEwouldblock ∨
    result = sceNetErrorEinprogress ∨ result = sceNetErrorEwouldblock

inductive Stage
  | socket | nonblocking | connect | epollCreate | epollControl | epollWait | socketError
  | connected | timeout
  deriving DecidableEq, Repr

structure TcpProbeDetail where
  stage : Stage
  finalResult : ℤ
  connectResult : ℤ
  connectErrno : ℤ
  epollResult : ℤ
  epollEvents : UInt32
  socketError : ℤ
  deriving DecidableEq, Repr

structure TcpOutcomes where
  socket : ℤ
  setsockopt : ℤ
  connect : ℤ
  connectErrno : ℤ
  epollCreate : ℤ
  epollControl : ℤ
  epollWait : ℤ
  epollEvents : UInt32
  getsockopt : ℤ
  socketError : ℤ
  deriving DecidableEq, Repr

/-- The part of `test_tcp_connect` between the creation and the destruction of its epoll. -/
def awaitConnect (detail : TcpProbeDetail) (o : TcpOutcomes) : ℤ × TcpProbeDetail :=
  let detail := { detail with stage := .epollControl }
  if o.epollControl < 0 then (o.epollControl, detail)
  else
    let detail := { detail with stage := .epollWait, epollResult := o.epollWait }
    if 0 < o.epollWait then
      let detail := { detail with stage := .socketError, epollEvents := o.epollEvents }
      if o.getsockopt < 0 then (o.getsockopt, detail)
      else
        let detail := { detail with socketError := o.socketError }
        let result := if o.socketError = 0 then 0
          else if o.socketError < 0 then o.socketError else -o.socketError
        (result, { detail with stage := if result = 0 then .connected else .socketError })
    else if o.epollWait = 0 then (-sceNetEtimedout, { detail with stage := .timeout })
    else (o.epollWait, detail)

def testTcpConnect (o : TcpOutcomes) : ℤ × TcpProbeDetail × Ops :=
  let detail : TcpProbeDetail := ⟨.socket, 0, 0, 0, 0, 0, 0⟩
  if o.socket < 0 then (o.socket, { detail with finalResult := o.socket }, [])
  else
    let socket : Handle := .socket o.socket
    let detail := { detail with stage := .nonblocking }
    if o.setsockopt < 0 then
      (o.setsockopt, { detail with finalResult := o.setsockopt },
        [.acquire socket, .release socket])
    else
      let detail := { detail with
        stage := .connect
        connectResult := o.connect
        connectErrno := o.connectErrno }
      if o.connect < 0 ∧ connectIsInProgress o.connect o.connectErrno then
        let detail := { detail with stage := .epollCreate }
        if o.epollCreate < 0 then
          (o.epollCreate, { detail with finalResult := o.epollCreate },
            [.acquire socket, .release socket])
        else
          let epoll : Handle := .epoll o.epollCreate
          let awaited := awaitConnect detail o
          (awaited.1, { awaited.2 with finalResult := awaited.1 },
            [.acquire socket, .acquire epoll, .release epoll, .release socket])
      else if 0 ≤ o.connect then
        (0, { detail with stage := .connected, finalResult := 0 },
          [.acquire socket, .release socket])
      else (o.connect, { detail with finalResult := o.connect },
        [.acquire socket, .release socket])

abbrev Bytes : Type := List UInt8

structure StunOutcomes where
  resolve : ResolveOutcomes
  socket : ℤ
  stamp : UInt64
  sendto : ℤ
  recvfrom : ℤ
  response : Bytes
  deriving DecidableEq, Repr

/-- The clock is copied over the last eight bytes. -/
def stunRequest (stamp : UInt64) : Bytes :=
  [0x00, 0x01, 0x00, 0x00, 0x21, 0x12, 0xA4, 0x42, 0x54, 0x53, 0x56, 0x49] ++
    toBytes 8 stamp.toNat

def stunAnswers (request response : Bytes) : Bool :=
  response[0]? = some 0x01 ∧ response[1]? = some 0x01 ∧
    (response.drop 8).take 12 = (request.drop 8).take 12

def testStun (o : StunOutcomes) : ℤ × Ops :=
  let resolved := resolveIpv4 o.resolve
  if resolved.1 < 0 then resolved
  else if o.socket < 0 then (o.socket, resolved.2)
  else
    let request := stunRequest o.stamp
    let result :=
      if o.sendto = 20 then
        if 20 ≤ o.recvfrom ∧ stunAnswers request o.response then 0
        else if 0 ≤ o.recvfrom then -2
        else o.recvfrom
      else if 0 ≤ o.sendto then -3
      else o.sendto
    (result, resolved.2 ++ [.acquire (.socket o.socket), .release (.socket o.socket)])

structure CaptureOutcomes where
  create : ℤ
  stun : StunOutcomes
  read : ℤ
  readErrno : ℤ
  flags : ℤ
  deriving DecidableEq, Repr

structure CaptureProbeDetail where
  createResult : ℤ
  trafficResult : ℤ
  readResult : ℤ
  readErrno : ℤ
  flags : ℤ
  deriving DecidableEq, Repr

def testPacketCapture (o : CaptureOutcomes) : CaptureProbeDetail × Ops :=
  let traffic := testStun o.stun
  if o.create < 0 then (⟨o.create, traffic.1, o.create, 0, 0⟩, traffic.2)
  else (⟨o.create, traffic.1, o.read, o.readErrno, o.flags⟩,
    .acquire (.dump o.create) :: traffic.2 ++ [.release (.dump o.create)])

structure RunOutcomes where
  log : ℤ
  network : NetworkOutcomes
  resolve : ResolveOutcomes
  control : TcpOutcomes
  inetPton : ℤ
  baseline : TcpOutcomes
  capture : CaptureOutcomes
  rawSocket : ℤ
  deriving DecidableEq, Repr

/-- The tests, once the network is up. -/
def runTests (o : RunOutcomes) : Ops :=
  let resolved := resolveIpv4 o.resolve
  resolved.2 ++ ((if 0 ≤ resolved.1 then (testTcpConnect o.control).2.2 else []) ++
    ((if o.inetPton = 1 then (testTcpConnect o.baseline).2.2 else []) ++
      ((testPacketCapture o.capture).2 ++
        (if 0 ≤ o.rawSocket then
          [.acquire (.socket o.rawSocket), .release (.socket o.rawSocket)] else []))))

def runProbe (s : Program) (o : RunOutcomes) : Program × Ops :=
  let reset := openLog s o.log
  let network := initializeNetwork reset.1 o.network
  let tests := if network.1 < 0 then [] else runTests o
  let closed := closeLog network.2.1
  (closed.1, reset.2 ++ (network.2.2 ++ (tests ++ closed.2)))

def sceCtrlStart : UInt32 := 0x8
def sceCtrlCross : UInt32 := 0x4000

/-- The loop over the samples of the buttons; whether it has ended. -/
def mainLoop (s : Program) (previous : UInt32) :
    List (UInt32 × RunOutcomes) → Bool × Program × Ops
  | [] => (false, s, [])
  | (buttons, o) :: samples =>
    let pressed := buttons &&& ~~~previous
    if pressed &&& sceCtrlStart ≠ 0 then (true, s, [])
    else if pressed &&& sceCtrlCross ≠ 0 then
      let run := runProbe s o
      let rest := mainLoop run.1 buttons samples
      (rest.1, rest.2.1, run.2 ++ rest.2.2)
    else mainLoop s buttons samples

structure MainOutcomes where
  vita2dInit : ℤ
  loadPgf : ℤ
  font : Bool
  run : RunOutcomes
  deriving DecidableEq, Repr

/-- The program once the screen is up. -/
def shown : Program := { Program.start with vita2d := true, pgf := true, font := true }

def main (o : MainOutcomes) (samples : List (UInt32 × RunOutcomes)) : Bool × Program × Ops :=
  if o.vita2dInit < 0 then (true, .start, [])
  else if o.loadPgf < 0 then (true, .start, [.acquire .vita2d, .release .vita2d])
  else if !o.font then
    (true, .start, [.acquire .vita2d, .acquire .pgf, .release .pgf, .release .vita2d])
  else
    let run := runProbe shown o.run
    let loop := mainLoop run.1 0 samples
    let ops := [.acquire .vita2d, .acquire .pgf, .acquire .font] ++ (run.2 ++ loop.2.2)
    if !loop.1 then (false, loop.2.1, ops)
    else
      let closed := closeLog loop.2.1
      let cleaned := cleanupNetwork closed.1
      (true, { cleaned.1 with vita2d := false, pgf := false, font := false },
        ops ++ (closed.2 ++ (cleaned.2 ++
          [.release .font, .release .pgf, .release .vita2d])))

/-- The network is up and none of the handles of the tests is held. -/
structure Ready (held : Held Handle) : Prop where
  net : held .net = true
  netif : ∀ id, held (.netif id) = false
  socket : ∀ id, held (.socket id) = false
  epoll : ∀ id, held (.epoll id) = false
  resolver : ∀ id, held (.resolver id) = false

section Tests
variable {held : Held Handle} {ops : Ops}

def isTest : Handle → Bool
  | .socket _ | .epoll _ | .resolver _ | .dump _ => true
  | _ => false

/-- A handle of the tests around other operations. -/
lemma leaves_test {h : Handle} (hnet : held .net = true)
    (hnetif : ∀ id, held (.netif id) = false) (htest : isTest h = true) (habsent : held h = false)
    (body : Leaves needs (held.set h true) ops (held.set h true)) :
    Leaves needs held (.acquire h :: ops ++ [.release h]) held := by
  have hready : ∀ d, needs h d → held d = true := by
    intro d hd
    cases h with
    | socket | epoll | resolver | dump =>
      cases d with
      | net => exact hnet
      | _ => exact hd.elim
    | _ => simp [isTest] at htest
  have hself : ¬ needs h h := by
    cases h with
    | socket | epoll | resolver | dump => exact id
    | _ => simp [isTest] at htest
  have hunneeded : ∀ u, needs u h → held u = false := by
    intro u hu
    cases h with
    | socket | epoll | resolver | dump =>
      cases u with
      | netif id => exact hnetif id
      | _ => exact hu.elim
    | _ => simp [isTest] at htest
  exact leaves_bracket habsent hready hself hunneeded body

lemma leaves_once {h : Handle} (hnet : held .net = true)
    (hnetif : ∀ id, held (.netif id) = false) (htest : isTest h = true)
    (habsent : held h = false) : Leaves needs held [.acquire h, .release h] held :=
  leaves_test hnet hnetif htest habsent .nil

lemma resolveIpv4_leaves (h : Ready held) (o : ResolveOutcomes) :
    Leaves needs held (resolveIpv4 o).2 held := by
  unfold resolveIpv4
  split_ifs
  · exact .nil
  · exact leaves_once h.net h.netif rfl (h.resolver _)

lemma testTcpConnect_leaves (h : Ready held) (o : TcpOutcomes) :
    Leaves needs held (testTcpConnect o).2.2 held := by
  have hsocket : Leaves needs held [.acquire (.socket o.socket), .release (.socket o.socket)]
      held := leaves_once h.net h.netif rfl (h.socket _)
  have hepoll : Leaves needs (held.set (.socket o.socket) true)
      [.acquire (.epoll o.epollCreate), .release (.epoll o.epollCreate)]
      (held.set (.socket o.socket) true) := by
    refine leaves_once ?_ (fun id => ?_) rfl ?_
    · rw [set_of_ne _ _ (by simp)]
      exact h.net
    · rw [set_of_ne _ _ (by simp)]
      exact h.netif id
    · rw [set_of_ne _ _ (by simp)]
      exact h.epoll _
  unfold testTcpConnect
  dsimp only
  split_ifs
  · exact .nil
  · exact hsocket
  · exact hsocket
  · exact leaves_test h.net h.netif rfl (h.socket _) hepoll
  · exact hsocket
  · exact hsocket

lemma testStun_leaves (h : Ready held) (o : StunOutcomes) :
    Leaves needs held (testStun o).2 held := by
  have hresolve := resolveIpv4_leaves h o.resolve
  unfold testStun
  dsimp only
  by_cases hresolved : (resolveIpv4 o.resolve).1 < 0
  · rw [if_pos hresolved]
    exact hresolve
  rw [if_neg hresolved]
  by_cases hsocket : o.socket < 0
  · rw [if_pos hsocket]
    exact hresolve
  · rw [if_neg hsocket]
    exact hresolve.append (leaves_once h.net h.netif rfl (h.socket _))

lemma testPacketCapture_leaves (h : Ready held) (hdump : ∀ id, held (.dump id) = false)
    (o : CaptureOutcomes) : Leaves needs held (testPacketCapture o).2 held := by
  unfold testPacketCapture
  dsimp only
  by_cases hcreate : o.create < 0
  · rw [if_pos hcreate]
    exact testStun_leaves h o.stun
  · rw [if_neg hcreate]
    have hready : Ready (held.set (.dump o.create) true) := by
      refine ⟨?_, fun id => ?_, fun id => ?_, fun id => ?_, fun id => ?_⟩
      · rw [set_of_ne _ _ (by simp)]
        exact h.net
      · rw [set_of_ne _ _ (by simp)]
        exact h.netif id
      · rw [set_of_ne _ _ (by simp)]
        exact h.socket id
      · rw [set_of_ne _ _ (by simp)]
        exact h.epoll id
      · rw [set_of_ne _ _ (by simp)]
        exact h.resolver id
    exact leaves_test h.net h.netif rfl (hdump _) (testStun_leaves hready o.stun)

lemma runTests_leaves (h : Ready held) (hdump : ∀ id, held (.dump id) = false) (o : RunOutcomes) :
    Leaves needs held (runTests o) held := by
  have htcp : ∀ (b : Prop) [Decidable b] (t : TcpOutcomes),
      Leaves needs held (if b then (testTcpConnect t).2.2 else []) held := by
    intro b _ t
    split_ifs
    · exact testTcpConnect_leaves h t
    · exact .nil
  unfold runTests
  refine (resolveIpv4_leaves h _).append ((htcp _ _).append ((htcp _ _).append
    ((testPacketCapture_leaves h hdump _).append ?_)))
  split_ifs
  · exact leaves_once h.net h.netif rfl (h.socket _)
  · exact .nil

/-- The test returns what it reports, and says that it connected only where it did. -/
theorem testTcpConnect_truthful (o : TcpOutcomes) :
    (testTcpConnect o).1 ≤ 0 ∧ (testTcpConnect o).2.1.finalResult = (testTcpConnect o).1 ∧
      ((testTcpConnect o).2.1.stage = .connected ↔ (testTcpConnect o).1 = 0) := by
  have hawait : ∀ detail, (awaitConnect detail o).1 ≤ 0 ∧
      ((awaitConnect detail o).2.stage = .connected ↔ (awaitConnect detail o).1 = 0) := by
    intro detail
    unfold awaitConnect sceNetEtimedout
    dsimp only
    split_ifs <;> simp <;> omega
  unfold testTcpConnect
  dsimp only
  split_ifs with hsocket hoption hprogress hepoll hconnect
  · simp; omega
  · simp; omega
  · simp; omega
  · exact ⟨(hawait _).1, rfl, (hawait _).2⟩
  · simp
  · simp; omega

end Tests

section Runs
variable {s : Program}

lemma ready_of_net (hnet : s.netInitialized = true) : Ready s.held :=
  ⟨hnet, fun _ => rfl, fun _ => rfl, fun _ => rfl, fun _ => rfl⟩

theorem runProbe_part (hs : Coherent s) (o : RunOutcomes) :
    Part s (runProbe s o).2 (runProbe s o).1 := by
  have hreset := openLog_part hs o.log
  obtain ⟨hnetwork, hup⟩ := initializeNetwork_part hreset.coherent o.network
  have htests : Part (initializeNetwork (openLog s o.log).1 o.network).2.1
      (if (initializeNetwork (openLog s o.log).1 o.network).1 < 0 then [] else runTests o)
      (initializeNetwork (openLog s o.log).1 o.network).2.1 := by
    split_ifs with hresult
    · exact Part.refl hnetwork.coherent
    · have hnet := hnetwork.coherent.netctl (hup (not_lt.mp hresult))
      exact ⟨runTests_leaves (ready_of_net hnet) (fun _ => rfl) o, hnetwork.coherent⟩
  exact hreset.append (hnetwork.append (htests.append (closeLog_part htests.coherent)))

theorem mainLoop_part (hs : Coherent s) (previous : UInt32) (samples : List (UInt32 × RunOutcomes)) :
    Part s (mainLoop s previous samples).2.2 (mainLoop s previous samples).2.1 := by
  fun_induction mainLoop s previous samples with
  | case1 s previous => exact Part.refl hs
  | case2 s previous buttons o samples pressed hstart => exact Part.refl hs
  | case3 s previous buttons o samples pressed hstart hcross run rest ih =>
    have hrun := runProbe_part hs o
    exact hrun.append (ih hrun.coherent)
  | case4 s previous buttons o samples pressed hstart hcross ih => exact ih hs

lemma screen_runProbe (s : Program) (o : RunOutcomes) : screen (runProbe s o).1 = screen s :=
  (screen_closeLog _).trans ((screen_initializeNetwork _ _).trans (screen_openLog s o.log))

lemma screen_mainLoop (s : Program) (previous : UInt32) (samples : List (UInt32 × RunOutcomes)) :
    screen (mainLoop s previous samples).2.1 = screen s := by
  fun_induction mainLoop s previous samples with
  | case1 s previous => rfl
  | case2 s previous buttons o samples pressed hstart => rfl
  | case3 s previous buttons o samples pressed hstart hcross run rest ih =>
    exact ih.trans (screen_runProbe s o)
  | case4 s previous buttons o samples pressed hstart hcross ih => exact ih

lemma coherent_shown : Coherent shown :=
  ⟨rfl, by simp [shown, Program.start], by simp [shown, Program.start]⟩

lemma leaves_vita2d :
    Leaves needs nothing [.acquire .vita2d] { Program.start with vita2d := true }.held := by
  rw [← held_start]
  refine leaves_take rfl ?_ rfl ?_
  · intro d hd
    cases d <;> exact hd.elim
  · intro other hother
    cases other <;> first | rfl | exact absurd rfl hother

lemma leaves_pgf : Leaves needs { Program.start with vita2d := true }.held [.acquire .pgf]
    { Program.start with vita2d := true, pgf := true }.held := by
  refine leaves_take rfl ?_ rfl ?_
  · intro d hd
    cases d <;> exact hd.elim
  · intro other hother
    cases other <;> first | rfl | exact absurd rfl hother

lemma leaves_shown : Leaves needs nothing [.acquire .vita2d, .acquire .pgf, .acquire .font]
    shown.held := by
  have hfont : Leaves needs { Program.start with vita2d := true, pgf := true }.held
      [.acquire .font] shown.held := by
    refine leaves_take rfl ?_ rfl ?_
    · intro d hd
      cases d with
      | vita2d => rfl
      | pgf => rfl
      | _ => exact hd.elim
    · intro other hother
      cases other <;> first | rfl | exact absurd rfl hother
  exact leaves_vita2d.append (leaves_pgf.append hfont)

/-- The screen goes last, when the network and the log have been given back. -/
lemma leaves_hidden (hs : screen s = (true, true, true)) (hctl : s.netctlInitialized = false)
    (hnet : s.netInitialized = false) (hmemory : s.netMemory = false)
    (hmodule : s.moduleLoaded = false) (hlog : s.logFd = none) :
    Leaves needs s.held [.release .font, .release .pgf, .release .vita2d] nothing := by
  have hshown : s = shown := by
    obtain ⟨moduleLoaded, netMemory, netInitialized, netctlInitialized, logFd, v, p, f⟩ := s
    simp_all [screen, shown, Program.start]
  rw [hshown]
  have hfont : Leaves needs shown.held [.release .font]
      { Program.start with vita2d := true, pgf := true }.held := by
    refine leaves_give rfl ?_ rfl ?_
    · intro u hu
      cases u <;> exact hu.elim
    · intro other hother
      cases other <;> first | rfl | exact absurd rfl hother
  have hpgf : Leaves needs { Program.start with vita2d := true, pgf := true }.held [.release .pgf]
      { Program.start with vita2d := true }.held := by
    refine leaves_give rfl ?_ rfl ?_
    · intro u hu
      cases u <;> first | rfl | exact hu.elim
    · intro other hother
      cases other <;> first | rfl | exact absurd rfl hother
  have hvita2d : Leaves needs { Program.start with vita2d := true }.held [.release .vita2d]
      nothing := by
    rw [← held_start]
    refine leaves_give rfl ?_ rfl ?_
    · intro u hu
      cases u <;> first | rfl | exact hu.elim
    · intro other hother
      cases other <;> first | rfl | exact absurd rfl hother
  exact hfont.append (hpgf.append hvita2d)

lemma held_hidden (s : Program) (hctl : s.netctlInitialized = false)
    (hnet : s.netInitialized = false) (hmemory : s.netMemory = false)
    (hmodule : s.moduleLoaded = false) (hlog : s.logFd = none) :
    { s with vita2d := false, pgf := false, font := false }.held = nothing := by
  funext h
  cases h <;> simp [Program.held, nothing, *]

lemma main_lawful (o : MainOutcomes) (samples : List (UInt32 × RunOutcomes)) :
    Leaves needs nothing (main o samples).2.2 (main o samples).2.1.held ∧
      ((main o samples).1 = true → (main o samples).2.1.held = nothing) := by
  have hvita2d : Leaves needs nothing [.acquire .vita2d, .release .vita2d] nothing := by
    refine leaves_bracket rfl ?_ id ?_ .nil
    · intro d hd
      cases d <;> exact hd.elim
    · exact fun _ _ => rfl
  have hpgf : Leaves needs (nothing.set .vita2d true) [.acquire .pgf, .release .pgf]
      (nothing.set .vita2d true) := by
    refine leaves_bracket rfl ?_ id ?_ .nil
    · intro d hd
      cases d <;> exact hd.elim
    · intro u hu
      cases u with
      | font => rw [set_of_ne _ _ (by simp)]; rfl
      | _ => exact hu.elim
  unfold main
  by_cases hinit : o.vita2dInit < 0
  · rw [if_pos hinit, held_start]
    exact ⟨.nil, fun _ => rfl⟩
  rw [if_neg hinit]
  by_cases hload : o.loadPgf < 0
  · rw [if_pos hload, held_start]
    exact ⟨hvita2d, fun _ => rfl⟩
  rw [if_neg hload]
  by_cases hfont : (!o.font) = true
  · rw [if_pos hfont, held_start]
    refine ⟨leaves_bracket rfl ?_ id ?_ hpgf, fun _ => rfl⟩
    · intro d hd
      cases d <;> exact hd.elim
    · exact fun _ _ => rfl
  rw [if_neg hfont]
  have hrun := runProbe_part coherent_shown o.run
  have hloop := mainLoop_part hrun.coherent 0 samples
  have hrunning := leaves_shown.append (hrun.leaves.append hloop.leaves)
  dsimp only
  by_cases hended : (!(mainLoop (runProbe shown o.run).1 0 samples).1) = true
  · rw [if_pos hended]
    exact ⟨hrunning, fun h => absurd h (by simp)⟩
  rw [if_neg hended]
  have hclosed := closeLog_part hloop.coherent
  have hcleaned := cleanupNetwork_part (closeLog (mainLoop (runProbe shown o.run).1 0 samples).2.1).1
  have hscreen : screen (cleanupNetwork
      (closeLog (mainLoop (runProbe shown o.run).1 0 samples).2.1).1).1 = (true, true, true) :=
    (screen_closeLog _).trans ((screen_mainLoop _ _ _).trans (screen_runProbe _ _))
  have hhidden := leaves_hidden hscreen rfl rfl rfl rfl (closeLog_logFd _)
  have hnothing := held_hidden (cleanupNetwork
    (closeLog (mainLoop (runProbe shown o.run).1 0 samples).2.1).1).1 rfl rfl rfl rfl
    (closeLog_logFd _)
  refine ⟨?_, fun _ => hnothing⟩
  rw [hnothing]
  exact hrunning.append (hclosed.leaves.append (hcleaned.leaves.append hhidden))

end Runs

/-- Whatever the calls of the console return and whichever buttons are pressed, nothing is taken
twice, before what it needs or given back while it is needed; and a probe that ends has given
back everything, as often as it took it. -/
theorem handles_returned (o : MainOutcomes) (samples : List (UInt32 × RunOutcomes)) :
    Leaves needs nothing (main o samples).2.2 (main o samples).2.1.held ∧
      ((main o samples).1 = true → (main o samples).2.1.held = nothing ∧
        ∀ h, (main o samples).2.2.count (.acquire h) = (main o samples).2.2.count (.release h)) := by
  have hlawful := main_lawful o samples
  refine ⟨hlawful.1, fun hended => ⟨hlawful.2 hended, fun h => ?_⟩⟩
  have hbalance := hlawful.1.balance h
  rw [hlawful.2 hended] at hbalance
  exact Nat.add_right_cancel hbalance

end MoonlightVita.DiagnosticProbe
