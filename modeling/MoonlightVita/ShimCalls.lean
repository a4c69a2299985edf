import MoonlightVita.ShimBackend
import MoonlightVita.ShimDescriptors

/-!
# The wrapped calls of a program

The wrappers of `socket_shim.c` that make one call of one of the two stacks, called one
after the other. What the stacks return is an argument; tracing may change `errno`. A
descriptor belongs to the stack that handed it out, and the calls on it get there.
-/
namespace MoonlightVita.ShimCalls
open ShimBackend ShimDescriptors Transition

def tsvitaTraceLimit : UInt32 := 256
def einval : ℤ := 22
def enoprotoopt : ℤ := 109

/-- What a stack returns: the result, `errno` after the call, and what was written to the
buffers of the caller. -/
structure Answer (O : Type) where
  result : ℤ
  errno : ℤ
  data : O
  deriving DecidableEq, Repr

/-- The functions whose wrappers only choose a stack. -/
inductive Function
  | bind | listen | accept | send | recv | sendto | recvfrom | shutdown | read | write
  | getsockopt | getsockname | getpeername
  deriving DecidableEq, Repr

/-- `F_GETFL` and `F_GETOWN` have no argument, like `F_GETFD`. -/
inductive Command
  | getfd | setfd | getfl | getown
  | other (command : ℤ)
  deriving DecidableEq, Repr

/-- A call of a stack; `A` are arguments that the wrappers pass on. -/
inductive Operation (A : Type)
  | socket (domain : ℤ) (type : Int32) (protocol : ℤ)
  | call (function : Function) (descriptor : ℤ) (arguments : A)
  | close (descriptor : ℤ)
  | fcntl (descriptor : ℤ) (command : Command) (argument : Option Int32)
  | setsockopt (descriptor : ℤ) (level : Level) (option : SocketOption) (arguments : A)
  | ioctlFionbio (descriptor : ℤ) (enabled : Bool)
  deriving DecidableEq, Repr

/-- The lines of `trace_socket_event`. -/
inductive Trace (A O : Type)
  | answered (operation : Operation A) (answer : Answer O)
  | getfd (descriptor : ℤ) (result : Int32)
  | setfd (descriptor : ℤ) (value : Int32)
  | setfdInvalid (descriptor : ℤ) (value : Int32)
  | rcvtimeo (descriptor : ℤ)
  deriving DecidableEq, Repr

structure Shim where
  traceEvents : UInt32
  fdFlags : Table
  socketTypes : Table
  errno : ℤ

/-- A wrapper that has returned. -/
structure Outcome (A O : Type) where
  shim : Shim
  result : ℤ
  served : Option (Backend × Operation A × Answer O)
  traces : List (Trace A O)

variable {A O : Type}

def traceSocketEvent (s : Shim) (line : Trace A O) (clobber : ℤ) : Shim × List (Trace A O) :=
  if tsvitaTraceLimit ≤ s.traceEvents then (s, [])
  else ({ s with traceEvents := s.traceEvents + 1, errno := clobber }, [line])

def serve (s : Shim) (backend : Backend) (operation : Operation A) (answer : Answer O) :
    Outcome A O :=
  ⟨{ s with errno := answer.errno }, answer.result, some (backend, operation, answer), []⟩

/-- A call of lwIP that is traced, with `errno` saved before and restored after. -/
def serveTraced (s : Shim) (operation : Operation A) (answer : Answer O) (clobber : ℤ) :
    Outcome A O :=
  let traced := traceSocketEvent { s with errno := answer.errno } (.answered operation answer)
    clobber
  ⟨{ traced.1 with errno := answer.errno }, answer.result, some (.lwip, operation, answer),
    traced.2⟩

/-- An answer of the shim itself. -/
def intercept (s : Shim) (line : Trace A O) (result errno clobber : ℤ) : Outcome A O :=
  let traced := traceSocketEvent s line clobber
  ⟨{ traced.1 with errno := errno }, result, none, traced.2⟩

def wrapSocket (s : Shim) (domain : ℤ) (type : Int32) (protocol ensureStarted : ℤ)
    (answer : Answer O) (clobber : ℤ) : Outcome A O :=
  if domain = afInet ∧ ensureStarted = 0 then
    let s := if isVirtualSocket answer.result then
        { s with
          fdFlags := s.fdFlags.store answer.result 0
          socketTypes := s.socketTypes.store answer.result type }
      else s
    serveTraced s (.socket domain type protocol) answer clobber
  else serve s .native (.socket domain type protocol) answer

/-- The wrappers that trace nothing. -/
def wrapPlain (function : Function) (s : Shim) (descriptor : ℤ) (arguments : A)
    (answer : Answer O) : Outcome A O :=
  serve s (if isVirtualSocket descriptor then .lwip else .native)
    (.call function descriptor arguments) answer

/-- The wrappers that trace what lwIP has answered. -/
def wrapTraced (function : Function) (s : Shim) (descriptor : ℤ) (arguments : A)
    (answer : Answer O) (clobber : ℤ) : Outcome A O :=
  if !isVirtualSocket descriptor then
    serve s .native (.call function descriptor arguments) answer
  else serveTraced s (.call function descriptor arguments) answer clobber

section Family
variable (s : Shim) (descriptor : ℤ) (arguments : A) (answer : Answer O) (clobber : ℤ)

def wrapBind : Outcome A O := wrapPlain .bind s descriptor arguments answer
def wrapListen : Outcome A O := wrapPlain .listen s descriptor arguments answer
def wrapAccept : Outcome A O := wrapPlain .accept s descriptor arguments answer
def wrapSend : Outcome A O := wrapTraced .send s descriptor arguments answer clobber
def wrapRecv : Outcome A O := wrapTraced .recv s descriptor arguments answer clobber
def wrapSendto : Outcome A O := wrapPlain .sendto s descriptor arguments answer
def wrapRecvfrom : Outcome A O := wrapPlain .recvfrom s descriptor arguments answer
def wrapShutdown : Outcome A O := wrapTraced .shutdown s descriptor arguments answer clobber
def wrapRead : Outcome A O := wrapPlain .read s descriptor arguments answer
def wrapWrite : Outcome A O := wrapPlain .write s descriptor arguments answer
def wrapGetsockopt : Outcome A O := wrapTraced .getsockopt s descriptor arguments answer clobber
def wrapGetsockname : Outcome A O := wrapPlain .getsockname s descriptor arguments answer
def wrapGetpeername : Outcome A O := wrapPlain .getpeername s descriptor arguments answer

def wrapCall : Function → Outcome A O
  | .bind => wrapBind s descriptor arguments answer
  | .listen => wrapListen s descriptor arguments answer
  | .accept => wrapAccept s descriptor arguments answer
  | .send => wrapSend s descriptor arguments answer clobber
  | .recv => wrapRecv s descriptor arguments answer clobber
  | .sendto => wrapSendto s descriptor arguments answer
  | .recvfrom => wrapRecvfrom s descriptor arguments answer
  | .shutdown => wrapShutdown s descriptor arguments answer clobber
  | .read => wrapRead s descriptor arguments answer
  | .write => wrapWrite s descriptor arguments answer
  | .getsockopt => wrapGetsockopt s descriptor arguments answer clobber
  | .getsockname => wrapGetsockname s descriptor arguments answer
  | .getpeername => wrapGetpeername s descriptor arguments answer

end Family

def wrapClose (s : Shim) (descriptor : ℤ) (answer : Answer O) (clobber : ℤ) : Outcome A O :=
  if !isVirtualSocket descriptor then serve s .native (.close descriptor) answer
  else
    let s := if answer.result = 0 then
        { s with
          fdFlags := s.fdFlags.store descriptor 0
          socketTypes := s.socketTypes.store descriptor 0 }
      else s
    serveTraced s (.close descriptor) answer clobber

def Command.hasArgument : Command → Bool
  | .getfl | .getfd | .getown => false
  | .setfd | .other _ => true

def wrapFcntl (s : Shim) (descriptor : ℤ) (command : Command) (argument : Int32)
    (answer : Answer O) (clobber : ℤ) : Outcome A O :=
  let value := if command.hasArgument then argument else 0
  if isVirtualSocket descriptor then
    match command with
    | .getfd =>
      let result := s.fdFlags.at descriptor
      intercept s (.getfd descriptor result) result.toInt 0 clobber
    | .setfd =>
      if value &&& ~~~fdCloexec ≠ 0 then
        intercept s (.setfdInvalid descriptor value) (-1) einval clobber
      else
        let s := { s with fdFlags := s.fdFlags.store descriptor value }
        intercept s (.setfd descriptor value) 0 0 clobber
    | _ => serveTraced s (.fcntl descriptor command (some value)) answer clobber
  else serve s .native (.fcntl descriptor command
    (if command.hasArgument then some value else none)) answer

/-- `value` is the integer behind the pointer, if there are at least four bytes of it. -/
def wrapSetsockopt (s : Shim) (descriptor : ℤ) (level : Level) (option : SocketOption)
    (value : Option Int32) (arguments : A) (answer : Answer O) (clobber : ℤ) : Outcome A O :=
  if !isVirtualSocket descriptor then
    serve s .native (.setsockopt descriptor level option arguments) answer
  else
    match level, option, value with
    | .solSocket, .soNonblock, some enabled =>
      serve s .lwip (.ioctlFionbio descriptor (enabled ≠ 0)) answer
    | .solSocket, .soRcvtimeo, _ =>
      if s.socketTypes.at descriptor = sockDgram then
        intercept s (.rcvtimeo descriptor) (-1) enoprotoopt clobber
      else serve s .lwip (.setsockopt descriptor level option arguments) answer
    | _, _, _ => serve s .lwip (.setsockopt descriptor level option arguments) answer

/-- A call of the program. -/
inductive Request (A : Type)
  | socket (domain : ℤ) (type : Int32) (protocol : ℤ)
  | call (function : Function) (descriptor : ℤ) (arguments : A)
  | close (descriptor : ℤ)
  | fcntl (descriptor : ℤ) (command : Command) (argument : Int32)
  | setsockopt (descriptor : ℤ) (level : Level) (option : SocketOption) (value : Option Int32)
      (arguments : A)
  deriving DecidableEq, Repr

/-- A call with what it meets: the result of `tsvita_tunnel_ensure_started`, the answer of the
stack and `errno` after tracing. -/
structure Action (A O : Type) where
  request : Request A
  ensureStarted : ℤ
  answer : Answer O
  clobber : ℤ

def perform (s : Shim) (a : Action A O) : Outcome A O :=
  match a.request with
  | .socket domain type protocol =>
    wrapSocket s domain type protocol a.ensureStarted a.answer a.clobber
  | .call function descriptor arguments =>
    wrapCall s descriptor arguments a.answer a.clobber function
  | .close descriptor => wrapClose s descriptor a.answer a.clobber
  | .fcntl descriptor command argument =>
    wrapFcntl s descriptor command argument a.answer a.clobber
  | .setsockopt descriptor level option value arguments =>
    wrapSetsockopt s descriptor level option value arguments a.answer a.clobber

/-- What a call of the program has returned, and the call of a stack that it has made. -/
structure Event (A O : Type) where
  request : Request A
  result : ℤ
  errno : ℤ
  served : Option (Backend × Operation A × Answer O)
  traces : List (Trace A O)
  deriving DecidableEq, Repr

def Outcome.event (o : Outcome A O) (request : Request A) : Event A O :=
  ⟨request, o.result, o.shim.errno, o.served, o.traces⟩

def step (s : Shim) (a : Action A O) : Option (Shim × List (Event A O)) :=
  some ((perform s a).shim, [(perform s a).event a.request])

def initial : Shim := ⟨0, fun _ => 0, fun _ => 0, 0⟩

/-- The call of a stack that a request stands for. -/
def Request.operation : Request A → Operation A
  | .socket domain type protocol => .socket domain type protocol
  | .call function descriptor arguments => .call function descriptor arguments
  | .close descriptor => .close descriptor
  | .fcntl descriptor command argument =>
    .fcntl descriptor command (if command.hasArgument then some argument else none)
  | .setsockopt descriptor level option _ arguments => .setsockopt descriptor level option arguments

/-- lwIP is given a zero where there is no argument. -/
def Operation.forLwip : Operation A → Operation A
  | .fcntl descriptor command argument => .fcntl descriptor command (some (argument.getD 0))
  | operation => operation

def Operation.descriptor? : Operation A → Option ℤ
  | .socket _ _ _ => none
  | .call _ descriptor _ | .close descriptor | .fcntl descriptor _ _
  | .setsockopt descriptor _ _ _ | .ioctlFionbio descriptor _ => some descriptor

def Operation.creates : Operation A → Bool
  | .socket _ _ _ | .call .accept _ _ => true
  | _ => false

/-- Which stack has handed out a descriptor that is still open. -/
def ownerNext (owner : ℤ → Option Backend) (e : Event A O) : ℤ → Option Backend :=
  match e.served with
  | some (backend, operation, answer) =>
    if operation.creates ∧ 0 ≤ answer.result then
      Function.update owner answer.result (some backend)
    else
      match operation with
      | .close descriptor =>
        if answer.result = 0 then Function.update owner descriptor none else owner
      | _ => owner
  | none => owner

def ownerOf (events : List (Event A O)) : ℤ → Option Backend :=
  events.foldl ownerNext fun _ => none

/-- What the program has made of a virtual descriptor: its flags and its type. -/
structure Record where
  flags : Int32
  type : Int32
  deriving DecidableEq, Repr

def recordNext (record : ℤ → Record) (e : Event A O) : ℤ → Record :=
  match e.request, e.served with
  | .socket _ type _, some (.lwip, _, answer) =>
    if isVirtualSocket answer.result then Function.update record answer.result ⟨0, type⟩
    else record
  | .close descriptor, some (.lwip, _, answer) =>
    if answer.result = 0 then Function.update record descriptor ⟨0, 0⟩ else record
  | .fcntl descriptor .setfd argument, none =>
    if e.result = 0 then
      Function.update record descriptor { record descriptor with flags := argument }
    else record
  | _, _ => record

def recordOf (events : List (Event A O)) : ℤ → Record :=
  events.foldl recordNext fun _ => ⟨0, 0⟩

/-- The ways in which a call of the program is answered. -/
inductive Answered (record : ℤ → Record) (e : Event A O) : Prop
  | native (answer : Answer O)
      (served : e.served = some (.native, e.request.operation, answer))
      (elsewhere : ∀ d, e.request.operation.descriptor? = some d → isVirtualSocket d = false)
      (result : e.result = answer.result) (errno : e.errno = answer.errno)
      (untraced : e.traces = [])
  | lwip (operation : Operation A) (answer : Answer O)
      (served : e.served = some (.lwip, operation, answer))
      (same : operation = e.request.operation.forLwip ∨
        ∃ d value arguments, e.request = .setsockopt d .solSocket .soNonblock (some value) arguments ∧
          operation = .ioctlFionbio d (value ≠ 0))
      (virtual : ∀ d, operation.descriptor? = some d → isVirtualSocket d)
      (result : e.result = answer.result) (errno : e.errno = answer.errno)
      (traced : ∀ line ∈ e.traces, line = .answered operation answer)
  | getfd (d : ℤ) (argument : Int32) (virtual : isVirtualSocket d)
      (request : e.request = .fcntl d .getfd argument) (served : e.served = none)
      (result : e.result = (record d).flags.toInt) (errno : e.errno = 0)
  | setfd (d : ℤ) (argument : Int32) (virtual : isVirtualSocket d)
      (request : e.request = .fcntl d .setfd argument) (served : e.served = none)
      (legal : argument &&& ~~~fdCloexec = 0) (result : e.result = 0) (errno : e.errno = 0)
  | setfdInvalid (d : ℤ) (argument : Int32) (virtual : isVirtualSocket d)
      (request : e.request = .fcntl d .setfd argument) (served : e.served = none)
      (illegal : argument &&& ~~~fdCloexec ≠ 0) (result : e.result = -1) (errno : e.errno = einval)
  | rcvtimeo (d : ℤ) (value : Option Int32) (arguments : A) (virtual : isVirtualSocket d)
      (request : e.request = .setsockopt d .solSocket .soRcvtimeo value arguments)
      (served : e.served = none) (datagram : (record d).type = sockDgram) (result : e.result = -1)
      (errno : e.errno = enoprotoopt)

/-- The tables of the shim hold the record. -/
def Recorded (s : Shim) (record : ℤ → Record) : Prop :=
  ∀ d, s.fdFlags.at d = (record d).flags ∧ s.socketTypes.at d = (record d).type

section Wrappers
variable {s : Shim} {record : ℤ → Record} {answer : Answer O} {clobber : ℤ}

lemma wrapCall_eq (s : Shim) (descriptor : ℤ) (arguments : A) (answer : Answer O) (clobber : ℤ)
    (function : Function) :
    wrapCall s descriptor arguments answer clobber function =
        wrapPlain function s descriptor arguments answer ∨
      wrapCall s descriptor arguments answer clobber function =
        wrapTraced function s descriptor arguments answer clobber := by
  cases function with
  | send | recv | shutdown | getsockopt => exact Or.inr rfl
  | bind | listen | accept | sendto | recvfrom | read | write | getsockname | getpeername =>
    exact Or.inl rfl

lemma traceSocketEvent_lines (s : Shim) (line : Trace A O) (clobber : ℤ) :
    ∀ l ∈ (traceSocketEvent s line clobber).2, l = line := by
  unfold traceSocketEvent
  split_ifs <;> simp

lemma answered_native (request : Request A)
    (helsewhere : ∀ d, request.operation.descriptor? = some d → isVirtualSocket d = false) :
    Answered record ((serve s .native request.operation answer).event request) :=
  .native answer rfl helsewhere rfl rfl rfl

lemma answered_lwip (request : Request A)
    (hvirtual : ∀ d, request.operation.forLwip.descriptor? = some d → isVirtualSocket d) :
    Answered record ((serve s .lwip request.operation.forLwip answer).event request) :=
  .lwip _ answer rfl (Or.inl rfl) hvirtual rfl rfl (by simp [serve, Outcome.event])

lemma answered_traced (request : Request A)
    (hvirtual : ∀ d, request.operation.forLwip.descriptor? = some d → isVirtualSocket d) :
    Answered record
      ((serveTraced s request.operation.forLwip answer clobber).event request) :=
  .lwip _ answer rfl (Or.inl rfl) hvirtual rfl rfl (traceSocketEvent_lines _ _ _)

lemma wrapSocket_answered (s : Shim) (domain : ℤ) (type : Int32) (protocol ensureStarted : ℤ) :
    Answered record ((wrapSocket (A := A) s domain type protocol ensureStarted answer clobber).event
      (.socket domain type protocol)) := by
  unfold wrapSocket
  by_cases hlwip : domain = afInet ∧ ensureStarted = 0
  · rw [if_pos hlwip]
    exact answered_traced (.socket domain type protocol) (by simp [Request.operation,
      Operation.forLwip, Operation.descriptor?])
  · rw [if_neg hlwip]
    exact answered_native (.socket domain type protocol) (by simp [Request.operation,
      Operation.descriptor?])

lemma wrapCall_answered (s : Shim) (function : Function) (descriptor : ℤ) (arguments : A) :
    Answered record ((wrapCall s descriptor arguments answer clobber function).event
      (.call function descriptor arguments)) := by
  have hd : ∀ d, (Request.call function descriptor arguments).operation.descriptor? = some d →
      descriptor = d := fun d h => by simpa [Request.operation, Operation.descriptor?] using h
  cases hvirtual : isVirtualSocket descriptor with
  | false =>
    have hnative : Answered record ((serve s .native (.call function descriptor arguments)
        answer).event (.call function descriptor arguments)) :=
      answered_native (.call function descriptor arguments) fun d h => hd d h ▸ hvirtual
    rcases wrapCall_eq s descriptor arguments answer clobber function with hcall | hcall
    · rw [hcall, wrapPlain, hvirtual]
      exact hnative
    · rw [hcall, wrapTraced, hvirtual]
      exact hnative
  | true =>
    rcases wrapCall_eq s descriptor arguments answer clobber function with hcall | hcall
    · rw [hcall, wrapPlain, hvirtual]
      exact answered_lwip (.call function descriptor arguments) fun d h => hd d h ▸ hvirtual
    · rw [hcall, wrapTraced, hvirtual]
      exact answered_traced (.call function descriptor arguments) fun d h => hd d h ▸ hvirtual

lemma wrapClose_answered (s : Shim) (descriptor : ℤ) :
    Answered record ((wrapClose (A := A) s descriptor answer clobber).event
      (.close descriptor)) := by
  cases hvirtual : isVirtualSocket descriptor with
  | false =>
    simp only [wrapClose, hvirtual, Bool.not_false, if_true]
    exact answered_native (.close descriptor) (by simp [Request.operation, Operation.descriptor?,
      hvirtual])
  | true =>
    simp only [wrapClose, hvirtual, Bool.not_true, Bool.false_eq_true, if_false]
    exact answered_traced (.close descriptor) (by simp [Request.operation, Operation.forLwip,
      Operation.descriptor?, hvirtual])

lemma wrapFcntl_answered (hrecord : Recorded s record) (descriptor : ℤ) (command : Command)
    (argument : Int32) :
    Answered record ((wrapFcntl (A := A) s descriptor command argument answer clobber).event
      (.fcntl descriptor command argument)) := by
  cases hvirtual : isVirtualSocket descriptor with
  | false =>
    have hvalue : (if command.hasArgument then
        some (if command.hasArgument then argument else 0) else none) =
        if command.hasArgument then some argument else none := by
      split_ifs <;> rfl
    simp only [wrapFcntl, hvirtual, Bool.false_eq_true, if_false, hvalue]
    exact answered_native (.fcntl descriptor command argument) (by
      simp [Request.operation, Operation.descriptor?, hvirtual])
  | true =>
    have htraced : ∀ value, (if command.hasArgument then argument else 0) = value →
        Answered (A := A) record ((serveTraced s (.fcntl descriptor command (some value)) answer
          clobber).event (.fcntl descriptor command argument)) := by
      rintro value rfl
      have hsame : (Request.fcntl (A := A) descriptor command argument).operation.forLwip =
          .fcntl descriptor command (some (if command.hasArgument then argument else 0)) := by
        simp only [Request.operation, Operation.forLwip]
        split_ifs <;> rfl
      rw [← hsame]
      exact answered_traced _ (by simp [hsame, Operation.descriptor?, hvirtual])
    simp only [wrapFcntl, hvirtual, if_true]
    cases command with
    | getfd =>
      refine .getfd descriptor argument hvirtual rfl rfl ?_ rfl
      rw [← (hrecord descriptor).1]
      rfl
    | setfd =>
      by_cases hlegal : argument &&& ~~~fdCloexec ≠ 0
      · simp only [Command.hasArgument, if_true, if_pos hlegal]
        exact .setfdInvalid descriptor argument hvirtual rfl rfl hlegal rfl rfl
      · simp only [Command.hasArgument, if_true, if_neg hlegal]
        exact .setfd descriptor argument hvirtual rfl rfl (not_not.mp hlegal) rfl rfl
    | getfl | getown | other => exact htraced _ rfl

lemma wrapSetsockopt_answered (hrecord : Recorded s record) (descriptor : ℤ) (level : Level)
    (option : SocketOption) (value : Option Int32) (arguments : A) :
    Answered record ((wrapSetsockopt s descriptor level option value arguments answer
      clobber).event (.setsockopt descriptor level option value arguments)) := by
  cases hvirtual : isVirtualSocket descriptor with
  | false =>
    simp only [wrapSetsockopt, hvirtual, Bool.not_false, if_true]
    exact answered_native (.setsockopt descriptor level option value arguments) (by
      simp [Request.operation, Operation.descriptor?, hvirtual])
  | true =>
    have hlwip : Answered record ((serve s .lwip (.setsockopt descriptor level option arguments)
        answer).event (.setsockopt descriptor level option value arguments)) :=
      answered_lwip (.setsockopt descriptor level option value arguments) (by
        simp [Request.operation, Operation.forLwip, Operation.descriptor?, hvirtual])
    simp only [wrapSetsockopt, hvirtual, Bool.not_true, Bool.false_eq_true, if_false]
    split
    · rename_i enabled
      exact .lwip _ answer rfl (Or.inr ⟨descriptor, enabled, arguments, rfl, rfl⟩)
        (by simp [Operation.descriptor?, hvirtual]) rfl rfl (by simp [serve, Outcome.event])
    · by_cases hdgram : s.socketTypes.at descriptor = sockDgram
      · rw [if_pos hdgram]
        exact .rcvtimeo descriptor value arguments hvirtual rfl rfl
          ((hrecord descriptor).2 ▸ hdgram) rfl rfl
      · rw [if_neg hdgram]
        exact hlwip
    · exact hlwip

theorem perform_answered (hrecord : Recorded s record) (a : Action A O) :
    Answered record ((perform s a).event a.request) := by
  unfold perform
  cases a.request with
  | socket domain type protocol => exact wrapSocket_answered s domain type protocol _
  | call function descriptor arguments => exact wrapCall_answered s function descriptor arguments
  | close descriptor => exact wrapClose_answered s descriptor
  | fcntl descriptor command argument => exact wrapFcntl_answered hrecord descriptor command argument
  | setsockopt descriptor level option value arguments =>
    exact wrapSetsockopt_answered hrecord descriptor level option value arguments

/-- Tracing and serving leave the tables alone. -/
lemma recorded_of_tables {s s' : Shim} (h : Recorded s record) (hflags : s'.fdFlags = s.fdFlags)
    (htypes : s'.socketTypes = s.socketTypes) : Recorded s' record := by
  intro d
  rw [hflags, htypes]
  exact h d

lemma traceSocketEvent_tables (s : Shim) (line : Trace A O) (clobber : ℤ) :
    (traceSocketEvent s line clobber).1.fdFlags = s.fdFlags ∧
      (traceSocketEvent s line clobber).1.socketTypes = s.socketTypes := by
  unfold traceSocketEvent
  split_ifs <;> exact ⟨rfl, rfl⟩

lemma recorded_serveTraced (h : Recorded s record) (operation : Operation A) :
    Recorded (serveTraced s operation answer clobber).shim record :=
  recorded_of_tables h (traceSocketEvent_tables _ _ _).1 (traceSocketEvent_tables _ _ _).2

lemma recorded_intercept (h : Recorded s record) (line : Trace A O) (result errno : ℤ) :
    Recorded (intercept s line result errno clobber).shim record :=
  recorded_of_tables h (traceSocketEvent_tables _ _ _).1 (traceSocketEvent_tables _ _ _).2

lemma recorded_store (h : Recorded s record) (d : ℤ) (flags type : Int32) :
    Recorded { s with
      fdFlags := s.fdFlags.store d flags
      socketTypes := s.socketTypes.store d type } (Function.update record d ⟨flags, type⟩) := by
  intro e
  by_cases he : e = d
  · subst he
    simp
  · simp [Table.at_store_of_ne _ _ he, Function.update_of_ne he, h e]

lemma recorded_flags (h : Recorded s record) (d : ℤ) (flags : Int32) :
    Recorded { s with fdFlags := s.fdFlags.store d flags }
      (Function.update record d { record d with flags := flags }) := by
  intro e
  by_cases he : e = d
  · subst he
    simp [h e]
  · simp [Table.at_store_of_ne _ _ he, Function.update_of_ne he, h e]

lemma wrapSocket_recorded (h : Recorded s record) (domain : ℤ) (type : Int32)
    (protocol ensureStarted : ℤ) :
    let o := wrapSocket (A := A) s domain type protocol ensureStarted answer clobber
    Recorded o.shim (recordNext record (o.event (.socket domain type protocol))) := by
  unfold wrapSocket
  by_cases hlwip : domain = afInet ∧ ensureStarted = 0
  · simp only [if_pos hlwip]
    cases hvirtual : isVirtualSocket answer.result with
    | false =>
      simp only [Bool.false_eq_true, if_false, recordNext, Outcome.event, serveTraced, hvirtual]
      exact recorded_serveTraced h _
    | true =>
      simp only [if_true, recordNext, Outcome.event, serveTraced, hvirtual]
      exact recorded_serveTraced (recorded_store h _ 0 type) _
  · simp only [if_neg hlwip]
    exact recorded_of_tables h rfl rfl

lemma wrapCall_recorded (h : Recorded s record) (function : Function) (descriptor : ℤ)
    (arguments : A) :
    Recorded (wrapCall s descriptor arguments answer clobber function).shim record := by
  rcases wrapCall_eq s descriptor arguments answer clobber function with hcall | hcall
  · rw [hcall]
    exact recorded_of_tables h rfl rfl
  · rw [hcall, wrapTraced]
    split_ifs
    · exact recorded_of_tables h rfl rfl
    · exact recorded_serveTraced h _

lemma wrapClose_recorded (h : Recorded s record) (descriptor : ℤ) :
    let o := wrapClose (A := A) s descriptor answer clobber
    Recorded o.shim (recordNext record (o.event (.close descriptor))) := by
  cases hvirtual : isVirtualSocket descriptor with
  | false =>
    simp only [wrapClose, hvirtual, Bool.not_false, if_true]
    exact recorded_of_tables h rfl rfl
  | true =>
    simp only [wrapClose, hvirtual, Bool.not_true, Bool.false_eq_true, if_false]
    by_cases hclosed : answer.result = 0
    · simp only [if_pos hclosed, recordNext, Outcome.event, serveTraced]
      exact recorded_serveTraced (recorded_store h descriptor 0 0) _
    · simp only [if_neg hclosed, recordNext, Outcome.event, serveTraced]
      exact recorded_serveTraced h _

lemma wrapFcntl_recorded (h : Recorded s record) (descriptor : ℤ) (command : Command)
    (argument : Int32) :
    let o := wrapFcntl (A := A) s descriptor command argument answer clobber
    Recorded o.shim (recordNext record (o.event (.fcntl descriptor command argument))) := by
  cases hvirtual : isVirtualSocket descriptor with
  | false =>
    simp only [wrapFcntl, hvirtual, Bool.false_eq_true, if_false]
    cases command <;> exact recorded_of_tables h rfl rfl
  | true =>
    simp only [wrapFcntl, hvirtual, if_true]
    cases command with
    | getfd => exact recorded_intercept h _ _ _
    | setfd =>
      by_cases hlegal : argument &&& ~~~fdCloexec ≠ 0
      · simp only [Command.hasArgument, if_true, if_pos hlegal]
        exact recorded_intercept h _ _ _
      · simp only [Command.hasArgument, if_true, if_neg hlegal]
        exact recorded_intercept (recorded_flags h descriptor argument) _ _ _
    | getfl | getown | other => exact recorded_serveTraced h _

lemma wrapSetsockopt_recorded (h : Recorded s record) (descriptor : ℤ) (level : Level)
    (option : SocketOption) (value : Option Int32) (arguments : A) :
    Recorded (wrapSetsockopt s descriptor level option value arguments answer clobber).shim
      record := by
  unfold wrapSetsockopt
  by_cases hvirtual : (!isVirtualSocket descriptor) = true
  · rw [if_pos hvirtual]
    exact recorded_of_tables h rfl rfl
  · rw [if_neg hvirtual]
    split
    · exact recorded_of_tables h rfl rfl
    · split_ifs
      · exact recorded_intercept h _ _ _
      · exact recorded_of_tables h rfl rfl
    · exact recorded_of_tables h rfl rfl

theorem perform_recorded (h : Recorded s record) (a : Action A O) :
    Recorded (perform s a).shim (recordNext record ((perform s a).event a.request)) := by
  unfold perform
  cases a.request with
  | socket domain type protocol => exact wrapSocket_recorded h domain type protocol _
  | call function descriptor arguments => exact wrapCall_recorded h function descriptor arguments
  | close descriptor => exact wrapClose_recorded h descriptor
  | fcntl descriptor command argument => exact wrapFcntl_recorded h descriptor command argument
  | setsockopt descriptor level option value arguments =>
    exact wrapSetsockopt_recorded h descriptor level option value arguments

/-- Every line is counted, and none is written beyond the limit. -/
structure Counted (s : Shim) (o : Outcome A O) : Prop where
  lines : o.shim.traceEvents.toNat = s.traceEvents.toNat + o.traces.length
  limit : s.traceEvents ≤ tsvitaTraceLimit → o.shim.traceEvents ≤ tsvitaTraceLimit

lemma traceSocketEvent_counted (s : Shim) (line : Trace A O) (clobber : ℤ) :
    (traceSocketEvent s line clobber).1.traceEvents.toNat =
        s.traceEvents.toNat + (traceSocketEvent s line clobber).2.length ∧
      (s.traceEvents ≤ tsvitaTraceLimit →
        (traceSocketEvent s line clobber).1.traceEvents ≤ tsvitaTraceLimit) := by
  unfold traceSocketEvent
  by_cases hlimit : tsvitaTraceLimit ≤ s.traceEvents
  · rw [if_pos hlimit]
    exact ⟨rfl, id⟩
  · rw [if_neg hlimit]
    have hlt : s.traceEvents.toNat < 256 := by
      rw [UInt32.le_iff_toNat_le] at hlimit
      simpa [tsvitaTraceLimit] using hlimit
    have hnext : (s.traceEvents + 1).toNat = s.traceEvents.toNat + 1 := by
      rw [UInt32.toNat_add]
      simp only [UInt32.reduceToNat]
      omega
    refine ⟨hnext, fun _ => ?_⟩
    rw [UInt32.le_iff_toNat_le, hnext]
    simpa [tsvitaTraceLimit] using hlt

lemma counted_serve (s : Shim) (backend : Backend) (operation : Operation A) :
    Counted s (serve s backend operation answer) :=
  ⟨rfl, id⟩

lemma counted_serveTraced {s s' : Shim} (h : s'.traceEvents = s.traceEvents)
    (operation : Operation A) : Counted s (serveTraced s' operation answer clobber) := by
  obtain ⟨hlines, hlimit⟩ := traceSocketEvent_counted { s' with errno := answer.errno }
    (.answered operation answer) clobber
  exact ⟨h ▸ hlines, h ▸ hlimit⟩

lemma counted_intercept {s s' : Shim} (h : s'.traceEvents = s.traceEvents) (line : Trace A O)
    (result errno : ℤ) : Counted s (intercept s' line result errno clobber) := by
  obtain ⟨hlines, hlimit⟩ := traceSocketEvent_counted s' line clobber
  exact ⟨h ▸ hlines, h ▸ hlimit⟩

theorem perform_counted (s : Shim) (a : Action A O) : Counted s (perform s a) := by
  unfold perform
  cases a.request with
  | socket domain type protocol =>
    dsimp only [wrapSocket]
    split_ifs
    · exact counted_serveTraced (by rfl) _
    · exact counted_serveTraced (by rfl) _
    · exact counted_serve s _ _
  | call function descriptor arguments =>
    dsimp only
    rcases wrapCall_eq s descriptor arguments a.answer a.clobber function with hcall | hcall
    · rw [hcall]
      exact counted_serve s _ _
    · rw [hcall, wrapTraced]
      split_ifs
      · exact counted_serve s _ _
      · exact counted_serveTraced (by rfl) _
  | close descriptor =>
    dsimp only [wrapClose]
    split_ifs
    · exact counted_serve s _ _
    · exact counted_serveTraced (by rfl) _
    · exact counted_serveTraced (by rfl) _
  | fcntl descriptor command argument =>
    dsimp only [wrapFcntl]
    by_cases hvirtual : isVirtualSocket descriptor = true
    · rw [if_pos hvirtual]
      cases command with
      | getfd => exact counted_intercept (by rfl) _ _ _
      | setfd =>
        simp only [Command.hasArgument, if_true]
        split_ifs
        · exact counted_intercept (by rfl) _ _ _
        · exact counted_intercept (by rfl) _ _ _
      | getfl | getown | other => exact counted_serveTraced (by rfl) _
    · rw [if_neg hvirtual]
      exact counted_serve s _ _
  | setsockopt descriptor level option value arguments =>
    dsimp only [wrapSetsockopt]
    by_cases hvirtual : (!isVirtualSocket descriptor) = true
    · rw [if_pos hvirtual]
      exact counted_serve s _ _
    · rw [if_neg hvirtual]
      split
      · exact counted_serve s _ _
      · split_ifs
        · exact counted_intercept (by rfl) _ _ _
        · exact counted_serve s _ _
      · exact counted_serve s _ _

end Wrappers

/-- lwIP hands out virtual descriptors only, and the native stack hands out none of them. -/
def Event.InRange (e : Event A O) : Prop :=
  ∀ backend operation answer, e.served = some (backend, operation, answer) →
    operation.creates → 0 ≤ answer.result → (isVirtualSocket answer.result ↔ backend = .lwip)

def Disciplined (s : Shim) (a : Action A O) : Prop := ((perform s a).event a.request).InRange

/-- A call on a descriptor that is still open went to the stack that had handed it out. -/
def Event.Routed (owner : ℤ → Option Backend) (e : Event A O) : Prop :=
  ∀ backend operation answer d, e.served = some (backend, operation, answer) →
    operation.descriptor? = some d → ∀ b, owner d = some b → backend = b

/-- The owners are those of the range that a descriptor is in. -/
def Ranged (owner : ℤ → Option Backend) : Prop :=
  ∀ d b, owner d = some b → (isVirtualSocket d ↔ b = .lwip)

lemma Answered.routed {record : ℤ → Record} {e : Event A O} {owner : ℤ → Option Backend}
    (h : Answered record e) (howner : Ranged owner) : e.Routed owner := by
  intro backend operation answer d hserved hd b hb
  have hrange := howner d b hb
  cases h with
  | native answer' served elsewhere =>
    rw [served, Option.some.injEq, Prod.mk.injEq, Prod.mk.injEq] at hserved
    obtain ⟨rfl, rfl, -⟩ := hserved
    cases b with
    | native => rfl
    | lwip => simp [elsewhere d hd] at hrange
  | lwip operation' answer' served _ virtual =>
    rw [served, Option.some.injEq, Prod.mk.injEq, Prod.mk.injEq] at hserved
    obtain ⟨rfl, rfl, -⟩ := hserved
    exact (hrange.mp (virtual d hd)).symm
  | getfd _ _ _ _ served | setfd _ _ _ _ served | setfdInvalid _ _ _ _ served
  | rcvtimeo _ _ _ _ _ served => simp [served] at hserved

lemma Ranged.update {owner : ℤ → Option Backend} (h : Ranged owner) {d : ℤ} {b : Option Backend}
    (hd : ∀ backend, b = some backend → (isVirtualSocket d ↔ backend = .lwip)) :
    Ranged (Function.update owner d b) := by
  intro e backend he
  by_cases hde : e = d
  · subst hde
    rw [Function.update_self] at he
    exact hd backend he
  · rw [Function.update_of_ne hde] at he
    exact h e backend he

lemma Ranged.next {owner : ℤ → Option Backend} (h : Ranged owner) {e : Event A O}
    (he : e.InRange) : Ranged (ownerNext owner e) := by
  unfold ownerNext
  split
  · rename_i backend operation answer hserved
    by_cases hcreates : operation.creates ∧ 0 ≤ answer.result
    · rw [if_pos hcreates]
      refine h.update fun b hb => ?_
      rw [he backend operation answer hserved hcreates.1 hcreates.2, Option.some.inj hb]
    · rw [if_neg hcreates]
      split
      · split_ifs
        · exact h.update (by simp)
        · exact h
      · exact h
  · exact h

lemma forall_split_concat {ε : Type*} {P : List ε → ε → Prop} {events : List ε} {x : ε}
    (h : ∀ before e after, events = before ++ e :: after → P before e) (hx : P events x) :
    ∀ before e after, events ++ [x] = before ++ e :: after → P before e := by
  intro before e after hsplit
  rcases List.eq_nil_or_concat after with rfl | ⟨rest, last, rfl⟩
  · obtain ⟨rfl, he⟩ := List.append_inj' hsplit rfl
    rw [← List.head_eq_of_cons_eq he]
    exact hx
  · rw [List.concat_eq_append, ← List.cons_append, ← List.append_assoc] at hsplit
    exact h before e rest (List.append_inj' hsplit rfl).1

/-- In every sequence of calls that a wrapper passes on once, with the descriptors of each stack
in its own range: each call is answered by the stack that its descriptor came from, with the
result and the `errno` of that stack, but for what the shim answers itself; no more than
`TSVITA_TRACE_LIMIT` lines are traced. -/
theorem calls_answered {inputs : List (Action A O)} {events : List (Event A O)} {s : Shim}
    (h : Run (restrict (ofStep step) Disciplined) initial inputs events s) :
    (∀ before e after, events = before ++ e :: after →
      Answered (recordOf before) e ∧ e.Routed (ownerOf before)) ∧
    (events.map fun e => e.traces.length).sum ≤ tsvitaTraceLimit.toNat := by
  have hinvariant : Recorded s (recordOf events) ∧ Ranged (ownerOf events) ∧
      s.traceEvents ≤ tsvitaTraceLimit ∧
      (events.map fun e => e.traces.length).sum = s.traceEvents.toNat ∧
      ∀ before e after, events = before ++ e :: after →
        Answered (recordOf before) e ∧ e.Routed (ownerOf before) := by
    induction h with
    | nil =>
      refine ⟨fun _ => ⟨rfl, rfl⟩, ?_, by decide, rfl, ?_⟩
      · intro d b hb
        simp [ownerOf] at hb
      · intro before e after hsplit
        simp at hsplit
    | @snoc inputs events out s t a prior hstep ih =>
      obtain ⟨hrecord, howner, hlimit, hlines, heach⟩ := ih
      obtain ⟨hrange, hstep⟩ := hstep
      simp only [ofStep, step, Option.some.injEq, Prod.mk.injEq] at hstep
      obtain ⟨rfl, rfl⟩ := hstep
      have hcounted := perform_counted s a
      have hanswered := perform_answered hrecord a
      refine ⟨?_, ?_, hcounted.limit hlimit, ?_, ?_⟩
      · rw [recordOf, List.foldl_append]
        exact perform_recorded hrecord a
      · rw [ownerOf, List.foldl_append]
        exact howner.next hrange
      · rw [List.map_append, List.sum_append, hlines, hcounted.lines]
        rfl
      · exact forall_split_concat heach ⟨hanswered, hanswered.routed howner⟩
  obtain ⟨-, -, hlimit, hlines, heach⟩ := hinvariant
  exact ⟨heach, hlines ▸ UInt32.le_iff_toNat_le.mp hlimit⟩

/-- A datagram socket of the tunnel and one of the native stack; the program sets a timeout and
the flags of the first, and sends on both. -/
def mixedCalls : List (Action Unit Unit) :=
  [⟨.socket afInet sockDgram 0, 0, ⟨128, 0, ()⟩, 5⟩, ⟨.socket 1 sockStream 0, 0, ⟨3, 0, ()⟩, 5⟩,
    ⟨.fcntl 128 .setfd 1, 0, ⟨0, 0, ()⟩, 5⟩, ⟨.fcntl 128 .getfd 0, 0, ⟨0, 0, ()⟩, 5⟩,
    ⟨.setsockopt 128 .solSocket .soRcvtimeo none (), 0, ⟨0, 0, ()⟩, 5⟩,
    ⟨.call .send 128 (), 0, ⟨-1, 11, ()⟩, 5⟩, ⟨.call .send 3 (), 0, ⟨20, 11, ()⟩, 5⟩]

instance (s : Shim) (a : Action A O) : Decidable (Disciplined s a) := by
  unfold Disciplined Event.InRange
  exact match hserved : ((perform s a).event a.request).served with
    | none => isTrue (by simp)
    | some (backend, operation, answer) =>
      decidable_of_iff (operation.creates → 0 ≤ answer.result →
        (isVirtualSocket answer.result ↔ backend = .lwip)) (by
          constructor
          · rintro h _ _ _ he
            cases he
            exact h
          · exact fun h => h _ _ _ rfl)

theorem calls_answered_mixed :
    ∃ events s, Run (restrict (ofStep step) Disciplined) initial mixedCalls events s ∧
      events.map (fun e => (e.result, e.errno)) =
        [(128, 0), (3, 0), (0, 0), (1, 0), (-1, enoprotoopt), (-1, 11), (20, 11)] ∧
      ownerOf events 128 = some .lwip ∧ ownerOf events 3 = some .native ∧
      (events.map fun e => e.traces.length).sum ≤ 256 := by
  have hview : (exec (guarded step Disciplined) initial mixedCalls).map (fun r =>
      (r.2.map (fun e => (e.result, e.errno)), ownerOf r.2 128, ownerOf r.2 3)) =
        some ([(128, 0), (3, 0), (0, 0), (1, 0), (-1, enoprotoopt), (-1, 11), (20, 11)],
          some .lwip, some .native) := by decide +kernel
  obtain ⟨⟨s, events⟩, hexec, hresults⟩ := Option.map_eq_some_iff.mp hview
  simp only [Prod.mk.injEq] at hresults
  have hrun := run_of_exec hexec
  rw [ofStep_guarded] at hrun
  exact ⟨events, s, hrun, hresults.1, hresults.2.1, hresults.2.2, (calls_answered hrun).2⟩

end MoonlightVita.ShimCalls
