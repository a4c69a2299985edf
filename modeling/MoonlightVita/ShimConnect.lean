import MoonlightVita.ShimDescriptors

/-!
# `__wrap_connect`

The wrapper puts a virtual socket into blocking mode, connects it, restores its mode and
waits for a connection that is still in progress. The outcomes of the calls are
arguments, and so is what a trace line does to `errno`. A call of lwIP that succeeds
leaves `errno` alone.
-/
namespace MoonlightVita.ShimConnect
open ShimDescriptors

inductive Errno
  | zero | einprogress | etimedout
  | other (code : ℤ)
  deriving DecidableEq, Repr

inductive Poll
  | ready | timedOut
  | failed (error : Errno)
  deriving DecidableEq, Repr

/-- The trace lines before the wait, by what they report. -/
inductive Trace
  | entry | mode | restored
  deriving DecidableEq, Repr

/-- The error of each call, if it fails, should the wrapper make it. -/
structure Outcomes where
  getfl : Option Errno
  clear : Option Errno
  connect : Option Errno
  restore : Option Errno
  poll : Poll
  getsockopt : Option Errno
  soError : Errno
  trace : Trace → Errno → Errno

inductive Call
  | getfl (failure : Option Errno)
  | clear (failure : Option Errno)
  | connect (failure : Option Errno)
  | restore (failure : Option Errno)
  | poll (outcome : Poll)
  | getsockopt (failure : Option Errno) (soError : Errno)
  deriving DecidableEq, Repr

/-- The error that a call has reported about the connection or about itself. -/
def Call.error? : Call → Option Errno
  | .getfl _ | .clear _ => none
  | .connect failure | .restore failure => failure
  | .poll (.failed error) => some error
  | .poll _ => none
  | .getsockopt (some error) _ => some error
  | .getsockopt none soError => if soError = .zero then none else some soError

def Errno.after (errno : Errno) (failure : Option Errno) : Errno := failure.getD errno

def resultOf (failure : Option Errno) : ℤ := if failure = none then 0 else -1

/-- The socket and the locals of the wrapper. -/
structure Frame where
  flags : Int32
  errno : Errno
  restoreNonblocking : Bool
  result : ℤ
  savedErrno : Errno
  calls : List Call

/-- The mode as it is read and cleared before the connection. -/
def clearNonblocking (oNonblock flags : Int32) (errno : Errno) (o : Outcomes) : Frame :=
  let errno := (o.trace .entry errno).after o.getfl
  if o.getfl = none ∧ 0 ≤ flags ∧ flags &&& oNonblock ≠ 0 then
    let errno := o.trace .mode (errno.after o.clear)
    let calls := [.getfl o.getfl, .clear o.clear]
    if o.clear ≠ none then ⟨flags, errno, false, 0, .zero, calls⟩
    else ⟨flags &&& ~~~oNonblock, errno, true, 0, .zero, calls⟩
  else ⟨flags, o.trace .mode errno, false, 0, .zero, [.getfl o.getfl]⟩

/-- The connection, and the mode restored to `socketFlags` after it. -/
def connectRestoring (socketFlags : Int32) (f : Frame) (o : Outcomes) : Frame :=
  let savedErrno := f.errno.after o.connect
  let result := resultOf o.connect
  if f.restoreNonblocking then
    let restoreErrno := savedErrno.after o.restore
    let flags := if o.restore = none then socketFlags else f.flags
    let errno := o.trace .restored restoreErrno
    let calls := f.calls ++ [.connect o.connect, .restore o.restore]
    if result = 0 ∧ o.restore ≠ none then ⟨flags, errno, true, -1, restoreErrno, calls⟩
    else ⟨flags, errno, true, result, savedErrno, calls⟩
  else { f with
    errno := savedErrno, result := result, savedErrno := savedErrno
    calls := f.calls ++ [.connect o.connect] }

/-- The wait for a connection in progress. -/
def finishConnect (f : Frame) (o : Outcomes) : Frame :=
  if f.result < 0 ∧ f.savedErrno = .einprogress then
    match o.poll with
    | .ready =>
      let calls := f.calls ++ [.poll .ready, .getsockopt o.getsockopt o.soError]
      let socketError := if o.getsockopt = none then o.soError else .zero
      if o.getsockopt = none ∧ socketError = .zero then
        { f with result := 0, savedErrno := .zero, calls := calls }
      else if socketError ≠ .zero then { f with savedErrno := socketError, calls := calls }
      else { f with savedErrno := f.errno, calls := calls }
    | .timedOut => { f with savedErrno := .etimedout, calls := f.calls ++ [.poll .timedOut] }
    | .failed error => { f with savedErrno := error, calls := f.calls ++ [.poll (.failed error)] }
  else f

structure Returned where
  result : ℤ
  errno : Errno
  flags : Int32
  calls : List Call

inductive Answer
  | native
  | virtual (r : Returned)

/-- The saved value is written back to `errno` behind the last trace line. -/
def wrapConnect (oNonblock : Int32) (socketId : ℤ) (flags : Int32) (errno : Errno)
    (o : Outcomes) : Answer :=
  if isVirtualSocket socketId then
    let f := finishConnect (connectRestoring flags (clearNonblocking oNonblock flags errno o) o) o
    .virtual ⟨f.result, f.savedErrno, f.flags, f.calls⟩
  else .native

section Spec
variable {oNonblock flags : Int32} {errno : Errno} {o : Outcomes}

/-- The mode was cleared and has to be restored. -/
def Restoring (oNonblock flags : Int32) (o : Outcomes) : Prop :=
  o.getfl = none ∧ 0 ≤ flags ∧ flags &&& oNonblock ≠ 0 ∧ o.clear = none

instance : Decidable (Restoring oNonblock flags o) := inferInstanceAs (Decidable (_ ∧ _))

/-- The connection is in progress after the mode has been restored. -/
def Waits (oNonblock flags : Int32) (o : Outcomes) : Prop :=
  o.connect = some .einprogress ∨
    Restoring oNonblock flags o ∧ o.connect = none ∧ o.restore = some .einprogress

/-- What `errno` holds when the wait begins. -/
def staleErrno (oNonblock flags : Int32) (o : Outcomes) : Errno :=
  if Restoring oNonblock flags o then o.trace .restored (o.restore.getD .einprogress)
  else .einprogress

/-- The frame behind the connection. -/
structure Connected (oNonblock flags : Int32) (o : Outcomes) (f : Frame) : Prop where
  flags_eq : f.flags = if Restoring oNonblock flags o ∧ o.restore ≠ none then
    flags &&& ~~~oNonblock else flags
  waits : f.result < 0 ∧ f.savedErrno = .einprogress ↔ Waits oNonblock flags o
  stale : Waits oNonblock flags o → f.errno = staleErrno oNonblock flags o
  result : f.result = 0 ∧ .connect none ∈ f.calls ∧
      ¬ (Restoring oNonblock flags o ∧ o.restore ≠ none) ∨
    f.result = -1 ∧ ∃ call ∈ f.calls, call.error? = some f.savedErrno
  restore : ∀ error, .restore (some error) ∈ f.calls ↔
    Restoring oNonblock flags o ∧ o.restore = some error
  errors : ∀ call ∈ f.calls, ∀ error, call.error? = some error → o.connect = some error ∨
    Restoring oNonblock flags o ∧ o.restore = some error

/-- Either the mode is cleared, or the socket and `restore_nonblocking` are as before. -/
lemma clearNonblocking_cases (oNonblock flags : Int32) (errno : Errno) (o : Outcomes) :
    ∃ errno' calls, (∀ call ∈ calls, call = .getfl o.getfl ∨ call = .clear o.clear) ∧
      clearNonblocking oNonblock flags errno o =
        if Restoring oNonblock flags o then ⟨flags &&& ~~~oNonblock, errno', true, 0, .zero, calls⟩
        else ⟨flags, errno', false, 0, .zero, calls⟩ := by
  unfold clearNonblocking
  dsimp only
  by_cases hmode : o.getfl = none ∧ 0 ≤ flags ∧ flags &&& oNonblock ≠ 0
  · rw [if_pos hmode]
    by_cases hclear : o.clear = none
    · have hr : Restoring oNonblock flags o := ⟨hmode.1, hmode.2.1, hmode.2.2, hclear⟩
      rw [if_neg (not_not.mpr hclear)]
      exact ⟨_, _, by simp, (if_pos hr).symm⟩
    · have hr : ¬ Restoring oNonblock flags o := fun h => hclear h.2.2.2
      rw [if_pos hclear]
      exact ⟨_, _, by simp, (if_neg hr).symm⟩
  · have hr : ¬ Restoring oNonblock flags o := fun h => hmode ⟨h.1, h.2.1, h.2.2.1⟩
    rw [if_neg hmode]
    exact ⟨_, _, by simp, (if_neg hr).symm⟩

lemma connectRestoring_calls (socketFlags : Int32) (o : Outcomes) {f : Frame}
    (hf : f.restoreNonblocking = true) :
    (connectRestoring socketFlags f o).calls =
      f.calls ++ [.connect o.connect, .restore o.restore] := by
  simp only [connectRestoring, hf, if_true]
  split_ifs <;> rfl

section Connection
variable {calls : List Call} (hquiet : ∀ call ∈ calls, call.error? = none)
  (hno : ∀ error, .restore (some error) ∉ calls)
include hquiet hno

/-- A connection in the mode that the caller has set. -/
lemma connected_of_not_restoring (hr : ¬ Restoring oNonblock flags o) :
    Connected oNonblock flags o
      (connectRestoring flags ⟨flags, errno, false, 0, .zero, calls⟩ o) where
  flags_eq := by
    rw [if_neg fun h => hr h.1]
    rfl
  waits := by
    cases hc : o.connect with
    | none => simp [connectRestoring, Waits, resultOf, hc, hr]
    | some error => simp [connectRestoring, Waits, resultOf, Errno.after, hc]
  stale := by
    intro hwaits
    have hc : o.connect = some .einprogress := hwaits.resolve_right fun h => hr h.1
    rw [staleErrno, if_neg hr]
    simp [connectRestoring, Errno.after, hc]
  result := by
    cases hc : o.connect with
    | none => simp [connectRestoring, resultOf, hc, hr]
    | some error =>
      refine Or.inr ⟨by simp [connectRestoring, resultOf, hc], .connect o.connect, ?_, ?_⟩
      · simp [connectRestoring]
      · simp [connectRestoring, Call.error?, Errno.after, hc]
  restore := by
    intro error
    simp [connectRestoring, hno, hr]
  errors := by
    intro call hcall error herror
    have hmem : call ∈ calls ++ [.connect o.connect] := hcall
    rcases List.mem_append.mp hmem with hcall | hcall
    · rw [hquiet call hcall] at herror
      cases herror
    · obtain rfl := List.mem_singleton.mp hcall
      exact Or.inl herror

/-- A connection in blocking mode, and the mode restored after it. -/
lemma connected_of_restoring (hr : Restoring oNonblock flags o) :
    Connected oNonblock flags o (connectRestoring flags
      ⟨flags &&& ~~~oNonblock, errno, true, 0, .zero, calls⟩ o) where
  flags_eq := by
    cases hc : o.connect <;> cases hs : o.restore <;> simp [connectRestoring, resultOf, hc, hs, hr]
  waits := by
    cases hc : o.connect <;> cases hs : o.restore <;>
      simp [connectRestoring, Waits, resultOf, Errno.after, hc, hs, hr]
  stale := by
    intro hwaits
    rw [staleErrno, if_pos hr]
    rcases hwaits with hc | ⟨-, hc, hs⟩
    · cases hs : o.restore <;> simp [connectRestoring, resultOf, Errno.after, hc, hs]
    · simp [connectRestoring, resultOf, Errno.after, hc, hs]
  result := by
    cases hc : o.connect with
    | none =>
      cases hs : o.restore with
      | none => simp [connectRestoring, resultOf, hc, hs]
      | some error =>
        refine Or.inr ⟨by simp [connectRestoring, resultOf, hc, hs], .restore o.restore, ?_, ?_⟩
        · simp [connectRestoring, resultOf, hc, hs]
        · simp [connectRestoring, resultOf, Call.error?, Errno.after, hc, hs]
    | some error =>
      refine Or.inr ⟨by simp [connectRestoring, resultOf, hc], .connect o.connect, ?_, ?_⟩
      · simp [connectRestoring, resultOf, hc]
      · simp [connectRestoring, resultOf, Call.error?, Errno.after, hc]
  restore := by
    intro error
    rw [connectRestoring_calls _ _ rfl]
    simp [hno, hr, eq_comm]
  errors := by
    intro call hcall error herror
    rw [connectRestoring_calls _ _ rfl] at hcall
    simp only [List.mem_append, List.mem_cons, List.not_mem_nil, or_false] at hcall
    rcases hcall with hcall | rfl | rfl
    · rw [hquiet call hcall] at herror
      cases herror
    · exact Or.inl herror
    · exact Or.inr ⟨hr, herror⟩

end Connection

lemma connectRestoring_connected (oNonblock flags : Int32) (errno : Errno) (o : Outcomes) :
    Connected oNonblock flags o
      (connectRestoring flags (clearNonblocking oNonblock flags errno o) o) := by
  obtain ⟨errno', calls, hcalls, hclear⟩ := clearNonblocking_cases oNonblock flags errno o
  have hquiet : ∀ call ∈ calls, call.error? = none := by
    intro call hcall
    rcases hcalls call hcall with rfl | rfl <;> rfl
  have hno : ∀ error, .restore (some error) ∉ calls := by
    intro error herror
    rcases hcalls _ herror with h | h <;> cases h
  rw [hclear]
  by_cases hr : Restoring oNonblock flags o
  · rw [if_pos hr]
    exact connected_of_restoring hquiet hno hr
  · rw [if_neg hr]
    exact connected_of_not_restoring hquiet hno hr

/-- What the wrapper returns is read from the frame behind the wait. -/
lemma wrapConnect_virtual {socketId : ℤ} {r : Returned}
    (h : wrapConnect oNonblock socketId flags errno o = .virtual r) :
    ∃ f, Connected oNonblock flags o f ∧ r = ⟨(finishConnect f o).result,
      (finishConnect f o).savedErrno, (finishConnect f o).flags, (finishConnect f o).calls⟩ := by
  unfold wrapConnect at h
  split_ifs at h
  cases h
  exact ⟨_, connectRestoring_connected oNonblock flags errno o, rfl⟩

/-- The mode could not be restored, and the connection is found complete all the same. -/
def ForgetsMode (oNonblock flags : Int32) (o : Outcomes) : Prop :=
  Restoring oNonblock flags o ∧ o.restore ≠ none ∧
    (o.connect = some .einprogress ∨ o.connect = none ∧ o.restore = some .einprogress) ∧
    o.poll = .ready ∧ o.getsockopt = none ∧ o.soError = .zero

/-- How the wait ends, if there is one. -/
inductive Finished (o : Outcomes) (f : Frame) : Frame → Prop
  | settled (hsettled : ¬ (f.result < 0 ∧ f.savedErrno = .einprogress)) : Finished o f f
  | completed (hwaits : f.result < 0 ∧ f.savedErrno = .einprogress) (hpoll : o.poll = .ready)
      (hoption : o.getsockopt = none) (herror : o.soError = .zero) :
      Finished o f { f with
        result := 0, savedErrno := .zero
        calls := f.calls ++ [.poll .ready, .getsockopt none .zero] }
  | reported (hwaits : f.result < 0 ∧ f.savedErrno = .einprogress) (hpoll : o.poll = .ready)
      (hoption : o.getsockopt = none) (herror : o.soError ≠ .zero) :
      Finished o f { f with
        savedErrno := o.soError, calls := f.calls ++ [.poll .ready, .getsockopt none o.soError] }
  | unread (error : Errno) (hwaits : f.result < 0 ∧ f.savedErrno = .einprogress)
      (hpoll : o.poll = .ready) (hoption : o.getsockopt = some error) :
      Finished o f { f with
        savedErrno := f.errno
        calls := f.calls ++ [.poll .ready, .getsockopt (some error) o.soError] }
  | timedOut (hwaits : f.result < 0 ∧ f.savedErrno = .einprogress) (hpoll : o.poll = .timedOut) :
      Finished o f { f with savedErrno := .etimedout, calls := f.calls ++ [.poll .timedOut] }
  | pollFailed (error : Errno) (hwaits : f.result < 0 ∧ f.savedErrno = .einprogress)
      (hpoll : o.poll = .failed error) :
      Finished o f { f with savedErrno := error, calls := f.calls ++ [.poll (.failed error)] }

lemma finishConnect_finished (f : Frame) (o : Outcomes) : Finished o f (finishConnect f o) := by
  unfold finishConnect
  by_cases hwaits : f.result < 0 ∧ f.savedErrno = .einprogress
  · rw [if_pos hwaits]
    cases hpoll : o.poll with
    | ready =>
      cases hoption : o.getsockopt with
      | none =>
        by_cases herror : o.soError = .zero
        · simpa [herror] using Finished.completed hwaits hpoll hoption herror
        · simpa [herror] using Finished.reported hwaits hpoll hoption herror
      | some error => simpa using Finished.unread error hwaits hpoll hoption
    | timedOut => exact .timedOut hwaits hpoll
    | failed error => exact .pollFailed error hwaits hpoll
  · rw [if_neg hwaits]
    exact .settled hwaits

lemma forgetsMode_iff : ForgetsMode oNonblock flags o ↔ Waits oNonblock flags o ∧
    (Restoring oNonblock flags o ∧ o.restore ≠ none) ∧ o.poll = .ready ∧ o.getsockopt = none ∧
      o.soError = .zero := by
  unfold ForgetsMode Waits
  tauto

/-- The result stands for a connection, and the mode of the socket is as it was or the call has
failed. -/
structure KeepsMode (oNonblock flags : Int32) (result : ℤ) (flags' : Int32) (calls : List Call) :
    Prop where
  connected : result = 0 → .connect none ∈ calls ∨
    .poll .ready ∈ calls ∧ .getsockopt none .zero ∈ calls
  unrestored : ∀ error, .restore (some error) ∈ calls → result = -1
  restored : (∀ error, .restore (some error) ∉ calls) → flags' &&& oNonblock = flags &&& oNonblock

section Modes
variable {f : Frame} (hf : Connected oNonblock flags o f)
include hf

lemma Connected.flags_of_restored (h : ∀ error, .restore (some error) ∉ f.calls) :
    f.flags = flags := by
  rw [hf.flags_eq, if_neg]
  rintro ⟨hr, hs⟩
  obtain ⟨error, herror⟩ := Option.ne_none_iff_exists'.mp hs
  exact h error ((hf.restore error).mpr ⟨hr, herror⟩)

lemma Connected.failed (hwaits : f.result < 0 ∧ f.savedErrno = .einprogress) : f.result = -1 := by
  rcases hf.result with ⟨hzero, -⟩ | ⟨hfailed, -⟩
  · omega
  · exact hfailed

/-- Calls that neither change the result nor the mode. -/
lemma Connected.keepsMode {calls : List Call} (hcalls : ∀ error, .restore (some error) ∉ calls) :
    KeepsMode oNonblock flags f.result f.flags (f.calls ++ calls) where
  connected := by
    intro hresult
    rcases hf.result with ⟨-, hmem, -⟩ | ⟨hfailed, -⟩
    · exact Or.inl (List.mem_append_left _ hmem)
    · omega
  unrestored := by
    intro error hmem
    have hrestore := (hf.restore error).mp ((List.mem_append.mp hmem).resolve_right (hcalls error))
    rcases hf.result with ⟨-, -, hno⟩ | ⟨hfailed, -⟩
    · exact absurd ⟨hrestore.1, by simp [hrestore.2]⟩ hno
    · exact hfailed
  restored := by
    intro hno
    rw [hf.flags_of_restored fun error herror => hno error (List.mem_append_left _ herror)]

/-- Before the wait, no other error was reported than that of the restored mode. -/
lemma Connected.reported_iff (hwaits : Waits oNonblock flags o) {error : Errno}
    (hne : error ≠ .einprogress) : (∃ call ∈ f.calls, call.error? = some error) ↔
      Restoring oNonblock flags o ∧ o.restore = some error := by
  constructor
  · rintro ⟨call, hcall, herror⟩
    rcases hf.errors call hcall error herror with hconnect | hrestore
    · rcases hwaits with hprogress | ⟨-, hnone, -⟩
      · rw [hprogress, Option.some.injEq] at hconnect
        exact absurd hconnect.symm hne
      · rw [hnone] at hconnect
        cases hconnect
    · exact hrestore
  · intro hrestore
    exact ⟨_, (hf.restore error).mpr hrestore, rfl⟩

end Modes

/-- The wrapper succeeds only with a connection, and the mode of the socket is as before unless
it could not be restored; then the call fails, except for one path through the wait. -/
theorem wrapConnect_mode_iff {socketId : ℤ} {r : Returned}
    (h : wrapConnect oNonblock socketId flags errno o = .virtual r) :
    KeepsMode oNonblock flags r.result r.flags r.calls ↔ ¬ ForgetsMode oNonblock flags o := by
  obtain ⟨f, hf, rfl⟩ := wrapConnect_virtual h
  rw [forgetsMode_iff, ← hf.waits]
  have hfinished := finishConnect_finished f o
  generalize finishConnect f o = f' at hfinished ⊢
  cases hfinished with
  | settled hsettled =>
    refine iff_of_true ?_ fun hforgets => hsettled hforgets.1
    have hkeeps : KeepsMode oNonblock flags f.result f.flags (f.calls ++ []) :=
      hf.keepsMode (by simp)
    rwa [List.append_nil] at hkeeps
  | completed hwaits hpoll hoption herror =>
    constructor
    · rintro hkeeps ⟨-, ⟨hr, hs⟩, -⟩
      obtain ⟨error, herror⟩ := Option.ne_none_iff_exists'.mp hs
      have hmem := (hf.restore error).mpr ⟨hr, herror⟩
      exact absurd (hkeeps.unrestored error (List.mem_append_left _ hmem)) (by norm_num)
    · intro hforgets
      have hno : ∀ error, .restore (some error) ∉ f.calls := by
        intro error hmem
        obtain ⟨hr, hs⟩ := (hf.restore error).mp hmem
        exact hforgets ⟨hwaits, ⟨hr, by simp [hs]⟩, hpoll, hoption, herror⟩
      refine ⟨fun _ => Or.inr (by simp), fun error hmem => ?_, fun _ => ?_⟩
      · exact absurd hmem (by simp [hno])
      · rw [hf.flags_of_restored hno]
  | reported hwaits hpoll hoption herror =>
    exact iff_of_true (hf.keepsMode (by simp)) fun hforgets => herror hforgets.2.2.2.2
  | unread error hwaits hpoll hoption =>
    refine iff_of_true (hf.keepsMode (by simp)) fun hforgets => ?_
    rw [hforgets.2.2.2.1] at hoption
    cases hoption
  | timedOut hwaits hpoll =>
    refine iff_of_true (hf.keepsMode (by simp)) fun hforgets => ?_
    rw [hforgets.2.2.1] at hpoll
    cases hpoll
  | pollFailed error hwaits hpoll =>
    refine iff_of_true (hf.keepsMode (by simp)) fun hforgets => ?_
    rw [hforgets.2.2.1] at hpoll
    cases hpoll

/-- A call that fails leaves an error in `errno` that a call has reported, and the attempt is
over. -/
def ReportsError (result : ℤ) (errno : Errno) (calls : List Call) : Prop :=
  result = -1 → ((∃ call ∈ calls, call.error? = some errno) ∨ errno = .etimedout) ∧
    errno ≠ .einprogress

/-- Neither the wait nor the option says that the connection is in progress, and if the option
cannot be read, `errno` has happened to hold a proper error before the wait. -/
def KnowsError (oNonblock flags : Int32) (o : Outcomes) : Prop :=
  Waits oNonblock flags o → o.poll ≠ .failed .einprogress ∧ (o.poll = .ready →
    (o.getsockopt = none → o.soError ≠ .einprogress) ∧
    ∀ error, o.getsockopt = some error → staleErrno oNonblock flags o ≠ .einprogress ∧
      (staleErrno oNonblock flags o = .etimedout ∨ staleErrno oNonblock flags o = error ∨
        Restoring oNonblock flags o ∧ o.restore = some (staleErrno oNonblock flags o)))

/-- If the option cannot be read, the wrapper reports what `errno` held before the wait. -/
lemma Connected.unread_iff {f : Frame} (hf : Connected oNonblock flags o f)
    (hwaits : f.result < 0 ∧ f.savedErrno = .einprogress) (error : Errno) :
    ReportsError f.result f.errno
        (f.calls ++ [.poll .ready, .getsockopt (some error) o.soError]) ↔
      staleErrno oNonblock flags o ≠ .einprogress ∧
        (staleErrno oNonblock flags o = .etimedout ∨ staleErrno oNonblock flags o = error ∨
          Restoring oNonblock flags o ∧ o.restore = some (staleErrno oNonblock flags o)) := by
  have hwaits' := hf.waits.mp hwaits
  have hcalls : ∀ e, (∃ call ∈ f.calls ++ [.poll .ready, .getsockopt (some error) o.soError],
      call.error? = some e) ↔ (∃ call ∈ f.calls, call.error? = some e) ∨ error = e := by
    simp [or_and_right, exists_or, Call.error?]
  unfold ReportsError
  simp only [hcalls, hf.stale hwaits']
  constructor
  · intro hreports
    obtain ⟨hreported, hne⟩ := hreports (hf.failed hwaits)
    rw [hf.reported_iff hwaits' hne] at hreported
    refine ⟨hne, ?_⟩
    rcases hreported with (hrestore | herror) | htimedOut
    · exact Or.inr (Or.inr hrestore)
    · exact Or.inr (Or.inl herror.symm)
    · exact Or.inl htimedOut
  · rintro ⟨hne, hproper⟩ _
    refine ⟨?_, hne⟩
    rw [hf.reported_iff hwaits' hne]
    rcases hproper with htimedOut | herror | hrestore
    · exact Or.inr htimedOut
    · exact Or.inl (Or.inr herror.symm)
    · exact Or.inl (Or.inl hrestore)

/-- The error that a failed call of the wrapper leaves is one that was reported, exactly if the
error is known when the wait ends. -/
theorem wrapConnect_errno_iff {socketId : ℤ} {r : Returned}
    (h : wrapConnect oNonblock socketId flags errno o = .virtual r) :
    ReportsError r.result r.errno r.calls ↔ KnowsError oNonblock flags o := by
  obtain ⟨f, hf, rfl⟩ := wrapConnect_virtual h
  unfold ReportsError KnowsError
  have hfinished := finishConnect_finished f o
  generalize finishConnect f o = f' at hfinished ⊢
  cases hfinished with
  | settled hsettled =>
    refine iff_of_true (fun hresult : f.result = -1 => ?_)
      fun hwaits => absurd (hf.waits.mpr hwaits) hsettled
    rcases hf.result with ⟨hzero, -⟩ | ⟨-, hreported⟩
    · omega
    · exact ⟨Or.inl hreported, fun herrno => hsettled ⟨by omega, herrno⟩⟩
  | completed hwaits hpoll hoption herror =>
    refine iff_of_true (fun hresult => by cases hresult) fun _ => ?_
    simp [hpoll, hoption, herror]
  | reported hwaits hpoll hoption herror =>
    have hcall : Call.error? (.getsockopt none o.soError) = some o.soError := by
      simp [Call.error?, herror]
    constructor
    · intro hreports _
      refine ⟨by simp [hpoll], fun _ => ⟨fun _ => (hreports (hf.failed hwaits)).2, ?_⟩⟩
      simp [hoption]
    · intro hknows _
      have hne := ((hknows (hf.waits.mp hwaits)).2 hpoll).1 hoption
      exact ⟨Or.inl ⟨_, by simp, hcall⟩, hne⟩
  | unread error hwaits hpoll hoption =>
    refine (hf.unread_iff hwaits error).trans ?_
    constructor
    · intro hproper _
      refine ⟨by simp [hpoll], fun _ => ⟨by simp [hoption], fun error' herror' => ?_⟩⟩
      rw [hoption, Option.some.injEq] at herror'
      rwa [← herror']
    · intro hknows
      exact ((hknows (hf.waits.mp hwaits)).2 hpoll).2 error hoption
  | timedOut hwaits hpoll =>
    refine iff_of_true (fun _ => ⟨Or.inr rfl, by simp⟩) fun _ => ?_
    simp [hpoll]
  | pollFailed error hwaits hpoll =>
    constructor
    · intro hreports _
      have hne := (hreports (hf.failed hwaits)).2
      exact ⟨by simpa [hpoll] using hne, by simp [hpoll]⟩
    · intro hknows _
      have hne := (hknows (hf.waits.mp hwaits)).1
      exact ⟨Or.inl ⟨.poll (.failed error), by simp, rfl⟩, by simpa [hpoll] using hne⟩

end Spec

/-- A socket in nonblocking mode whose connection takes its time. -/
def inProgress (clear restore getsockopt : Option Errno) : Outcomes where
  getfl := none
  clear := clear
  connect := some .einprogress
  restore := restore
  poll := .ready
  getsockopt := getsockopt
  soError := .zero
  trace := fun _ errno => errno

/-- The mode is cleared, and restored after a connection that was in progress. -/
theorem wrapConnect_mode_iff_restored :
    ∃ r, wrapConnect 0x4000 130 0x4002 .zero (inProgress none none none) = .virtual r ∧
      KeepsMode 0x4000 0x4002 r.result r.flags r.calls := by
  have h : wrapConnect 0x4000 130 0x4002 .zero (inProgress none none none) = .virtual _ := rfl
  exact ⟨_, h, (wrapConnect_mode_iff h).mpr fun hforgets => hforgets.2.1 rfl⟩

/-- The mode cannot be restored, but the connection completes. -/
theorem wrapConnect_forgets_mode :
    ∃ r, wrapConnect 0x4000 130 0x4002 .zero (inProgress none (some (.other 9)) none) =
        .virtual r ∧ r.result = 0 ∧ .restore (some (.other 9)) ∈ r.calls ∧
      r.flags &&& 0x4000 ≠ 0x4002 &&& 0x4000 ∧
      ¬ KeepsMode 0x4000 0x4002 r.result r.flags r.calls := by
  refine ⟨_, rfl, by decide, by decide, by decide, fun hkeeps => ?_⟩
  exact absurd (hkeeps.unrestored (.other 9) (by decide)) (by decide)

/-- The wait times out. -/
theorem wrapConnect_errno_iff_timeout :
    ∃ r, wrapConnect 0x4000 130 0x4002 .zero
        { inProgress (some (.other 9)) none none with poll := .timedOut } = .virtual r ∧
      ReportsError r.result r.errno r.calls := by
  have h : wrapConnect 0x4000 130 0x4002 .zero
      { inProgress (some (.other 9)) none none with poll := .timedOut } = .virtual _ := rfl
  refine ⟨_, h, (wrapConnect_errno_iff h).mpr fun _ => ⟨?_, fun hready => ?_⟩⟩
  · exact fun hfailed => by cases hfailed
  · cases hready

/-- The option cannot be read after the wait. -/
theorem wrapConnect_stale_errno :
    ∃ r, wrapConnect 0x4000 130 0x4002 .zero
        (inProgress (some (.other 9)) none (some (.other 105))) = .virtual r ∧
      r.result = -1 ∧ r.errno = .einprogress ∧ ¬ ReportsError r.result r.errno r.calls :=
  ⟨_, rfl, by decide, by decide, fun hreports => (hreports (by decide)).2 (by decide)⟩

end MoonlightVita.ShimConnect
