import MoonlightVita.ProbeFlow

/-!
# What an approval of the probe is worth

The flags of a flow tell which callbacks there were. A flow that ends with 0 has therefore seen
both payloads come back, the connection was not made before the first of them, and whatever
the flow took has been given back.
-/
namespace MoonlightVita.Probe
open ProbeProgram Relation Resources Tunnel

variable {K H R I : Type}

def Note.callback? : Note K H I → Option Callback
  | .callback c => some c
  | _ => none

def callbacks (notes : List (Note K H I)) : List Callback := notes.filterMap Note.callback?

def Note.op? : Note K H I → Option (Op Handle)
  | .resource op => some op
  | _ => none

def opsOf (notes : List (Note K H I)) : Ops := notes.filterMap Note.op?

def Note.event? : Note K H I → Option (Event K H I)
  | .wireguard event => some event
  | _ => none

def eventsOf (notes : List (Note K H I)) : List (Event K H I) := notes.filterMap Note.event?

/-- Both payloads have come back whole over a connection that has not failed. -/
structure Approved (notes : List (Note K H I)) : Prop where
  echoed : ∃ c ∈ callbacks notes, c.raises .echoReceived
  connected : ∃ c ∈ callbacks notes, c.raises .tcpConnected
  answered : ∃ c ∈ callbacks notes, c.raises .tcpReceived
  unfailed : ∀ c ∈ callbacks notes, c.raises .tcpFailed = false

/-- Every datagram was taken. -/
def AllTaken (notes : List (Note K H I)) : Prop :=
  ∀ incoming source result, .datagram incoming source result ∈ notes → result = 0

/-- The connection comes after the echo. -/
def EchoedFirst (notes : List (Note K H I)) : Prop :=
  ∀ before id, before ++ [.resource (.acquire (.tcp id))] <+: notes →
    ∃ c ∈ callbacks before, c.raises .echoReceived

structure History (s : Flow K H I) : Prop where
  flags : ∀ flag, raised s.context flag = (callbacks s.notes).any (·.raises flag)
  echoedFirst : EchoedFirst s.notes

section Notes
variable {notes new : List (Note K H I)}

@[simp] lemma callbacks_nil : callbacks ([] : List (Note K H I)) = [] := rfl

@[simp] lemma callbacks_append : callbacks (notes ++ new) = callbacks notes ++ callbacks new :=
  List.filterMap_append

@[simp] lemma callbacks_cons (n : Note K H I) :
    callbacks (n :: notes) = (Note.callback? n).toList ++ callbacks notes := by
  cases n <;> rfl

@[simp] lemma callbacks_wireguard (events : List (Event K H I)) :
    callbacks (events.map .wireguard) = [] := by
  simp [callbacks, Note.callback?]

@[simp] lemma opsOf_nil : opsOf ([] : List (Note K H I)) = [] := rfl

@[simp] lemma opsOf_append : opsOf (notes ++ new) = opsOf notes ++ opsOf new :=
  List.filterMap_append

@[simp] lemma opsOf_cons (n : Note K H I) :
    opsOf (n :: notes) = (Note.op? n).toList ++ opsOf notes := by
  cases n <;> rfl

@[simp] lemma opsOf_wireguard (events : List (Event K H I)) :
    opsOf (events.map .wireguard) = [] := by
  simp [opsOf, Note.op?]

@[simp] lemma eventsOf_nil : eventsOf ([] : List (Note K H I)) = [] := rfl

@[simp] lemma eventsOf_append : eventsOf (notes ++ new) = eventsOf notes ++ eventsOf new :=
  List.filterMap_append

@[simp] lemma eventsOf_cons (n : Note K H I) :
    eventsOf (n :: notes) = (Note.event? n).toList ++ eventsOf notes := by
  cases n <;> rfl

@[simp] lemma eventsOf_wireguard (events : List (Event K H I)) :
    eventsOf (events.map .wireguard) = events := by
  induction events with
  | nil => rfl
  | cons e events ih => simp [Note.event?, ih]

lemma prefix_of_append {n : Note K H I} {before : List (Note K H I)} (hnew : n ∉ new)
    (h : before ++ [n] <+: notes ++ new) : before ++ [n] <+: notes := by
  induction new using List.reverseRecOn with
  | nil => simpa using h
  | append_singleton new last ih =>
    rw [← List.append_assoc, List.prefix_concat_iff] at h
    rcases h with h | h
    · have hlast : n = last := by simpa using congrArg List.getLast? h
      exact absurd (by simp [hlast]) hnew
    · exact ih (fun hmem => hnew (by simp [hmem])) h

lemma EchoedFirst.keep (h : EchoedFirst notes)
    (hnew : ∀ id, .resource (.acquire (.tcp id)) ∉ new) : EchoedFirst (notes ++ new) :=
  fun before id hprefix => h before id (prefix_of_append (hnew id) hprefix)

end Notes

section Steps
variable {lib : Wireguard K H R I} {going : Bool} {s t : Flow K H I}

lemma History.same (h : History s) (hflags : ∀ flag, raised t.context flag = raised s.context flag)
    {new : List (Note K H I)} (hnotes : t.notes = s.notes ++ new) (hcallbacks : callbacks new = [])
    (hnew : ∀ id, .resource (.acquire (.tcp id)) ∉ new) : History t where
  flags := fun flag => by rw [hflags, h.flags, hnotes, callbacks_append, hcallbacks, List.append_nil]
  echoedFirst := hnotes ▸ h.echoedFirst.keep hnew

lemma history_turn (h : Turn lib going s t) (hs : History s) : History t := by
  cases h with
  | callback called =>
    obtain ⟨-, -, hflags, events, tcp, hnotes, -, -⟩ := call_called called
    constructor
    · intro flag
      rw [hflags, hs.flags, hnotes]
      cases tcp <;> simp [Note.callback?]
    · rw [hnotes]
      refine hs.echoedFirst.keep fun id => ?_
      cases tcp <;> simp
  | datagram processed taken =>
    have hsame := lwipProcessTransport_same _ _ _ _ _ processed
    exact hs.same hsame.flags rfl (by simp [Note.callback?]) (by simp)

theorem history_change (h : Change lib going s t) (hs : History s) : History t := by
  cases h with
  | turn turned => exact history_turn turned hs
  | takeUdp absent =>
    exact hs.same (fun flag => by cases flag <;> rfl) rfl (by simp [Note.callback?]) (by simp)
  | takeTcp absent echoed =>
    constructor
    · intro flag
      have hflag : raised (s.take { s.context with tcp := true }
          (.tcp s.context.socketId)).context flag = raised s.context flag := by cases flag <;> rfl
      rw [hflag, hs.flags]
      simp [Flow.take, Note.callback?]
    · intro before id hprefix
      rcases List.prefix_concat_iff.mp hprefix with heq | hprefix
      · obtain ⟨rfl, -⟩ := List.append_inj' heq rfl
        have hraised := hs.flags .echoReceived
        rw [show raised s.context .echoReceived = true from echoed] at hraised
        exact List.any_eq_true.mp hraised.symm
      · exact hs.echoedFirst before id hprefix
  | giveTcp present =>
    exact hs.same (fun flag => by cases flag <;> rfl) rfl (by simp [Note.callback?]) (by simp)
  | giveUdp present =>
    exact hs.same (fun flag => by cases flag <;> rfl) rfl (by simp [Note.callback?]) (by simp)

theorem history_changes (h : Changes lib going s t) (hs : History s) : History t := by
  induction h with
  | refl => exact hs
  | tail _ step ih => exact history_change step ih

lemma AllTaken.append {notes new : List (Note K H I)} (h : AllTaken notes) (h' : AllTaken new) :
    AllTaken (notes ++ new) := by
  intro incoming source result hmem
  rcases List.mem_append.mp hmem with hmem | hmem
  · exact h _ _ _ hmem
  · exact h' _ _ _ hmem

lemma allTaken_change (h : Change lib true s t) (hs : AllTaken s.notes) : AllTaken t.notes := by
  cases h with
  | turn turned =>
    cases turned with
    | callback called =>
      obtain ⟨-, -, -, events, tcp, hnotes, -, -⟩ := call_called called
      rw [hnotes]
      exact hs.append fun _ _ _ hmem => by cases tcp <;> simp at hmem
    | datagram processed taken =>
      refine hs.append fun incoming source result hmem => ?_
      simp only [List.mem_cons, Note.datagram.injEq, List.mem_map, reduceCtorEq, and_false,
        exists_false, or_false] at hmem
      rw [hmem.2.2]
      exact taken rfl
  | takeUdp absent => exact hs.append fun _ _ _ hmem => by simp at hmem
  | takeTcp absent echoed => exact hs.append fun _ _ _ hmem => by simp at hmem
  | giveTcp present => exact hs.append fun _ _ _ hmem => by simp at hmem
  | giveUdp present => exact hs.append fun _ _ _ hmem => by simp at hmem

lemma allTaken_changes (h : Changes lib true s t) (hs : AllTaken s.notes) : AllTaken t.notes := by
  induction h with
  | refl => exact hs
  | tail _ step ih => exact allTaken_change step ih

lemma change_notes (h : Change lib going s t) : s.notes <+: t.notes := by
  cases h with
  | turn turned =>
    cases turned with
    | callback called =>
      obtain ⟨-, -, -, events, tcp, hnotes, -, -⟩ := call_called called
      exact hnotes ▸ List.prefix_append _ _
    | datagram processed taken => exact List.prefix_append _ _
  | takeUdp | takeTcp | giveTcp | giveUdp => exact List.prefix_append _ _

lemma changes_notes (h : Changes lib going s t) : s.notes <+: t.notes := by
  induction h with
  | refl => exact List.prefix_rfl
  | tail _ step ih => exact ih.trans (change_notes step)

/-- What a flow holds between the creation and the removal of its interface. -/
def heldNow (held : Held Handle) (id : ℤ) (context : LwipTunnelContext K H) : Held Handle :=
  ((held.set (.netif id) true).set (.udp id) context.udp).set (.tcp id) context.tcp

/-- What a flow has done so far is lawful. -/
structure Keeps (held : Held Handle) (id : ℤ) (s : Flow K H I) : Prop where
  socketId : s.context.socketId = id
  leaves : Leaves needs held (opsOf s.notes) (heldNow held id s.context)

lemma heldNow_udp (held : Held Handle) (id : ℤ) (context : LwipTunnelContext K H) (value : Bool) :
    (heldNow held id context).set (.udp id) value =
      heldNow held id { context with udp := value } := by
  unfold heldNow Held.set
  rw [Function.update_comm (by simp), Function.update_idem]

lemma heldNow_tcp (held : Held Handle) (id : ℤ) (context : LwipTunnelContext K H) (value : Bool) :
    (heldNow held id context).set (.tcp id) value =
      heldNow held id { context with tcp := value } :=
  set_set _ _ _

lemma heldNow_netif (held : Held Handle) (id : ℤ) (context : LwipTunnelContext K H) :
    heldNow held id context (.netif id) = true := by
  unfold heldNow
  rw [set_of_ne _ _ (by simp), set_of_ne _ _ (by simp), set_self]

@[simp] lemma heldNow_udp_self (held : Held Handle) (id : ℤ) (context : LwipTunnelContext K H) :
    heldNow held id context (.udp id) = context.udp := by
  unfold heldNow
  rw [set_of_ne _ _ (by simp), set_self]

@[simp] lemma heldNow_tcp_self (held : Held Handle) (id : ℤ) (context : LwipTunnelContext K H) :
    heldNow held id context (.tcp id) = context.tcp := set_self _ _

lemma heldNow_congr (held : Held Handle) (id : ℤ) {context context' : LwipTunnelContext K H}
    (hudp : context'.udp = context.udp) (htcp : context'.tcp = context.tcp) :
    heldNow held id context' = heldNow held id context := by
  rw [heldNow, heldNow, hudp, htcp]

section Held
variable {held : Held Handle} {id : ℤ}

lemma needs_netif {h : Handle} (hh : h = .udp id ∨ h = .tcp id)
    {context : LwipTunnelContext K H} : ∀ d, needs h d → heldNow held id context d = true := by
  intro d hd
  rcases hh with rfl | rfl
  · cases d with
    | netif id' =>
      obtain rfl : id = id' := hd
      exact heldNow_netif ..
    | _ => exact hd.elim
  · cases d with
    | netif id' =>
      obtain rfl : id = id' := hd
      exact heldNow_netif ..
    | _ => exact hd.elim

lemma needed_by_none {h : Handle} (hh : h = .udp id ∨ h = .tcp id) {held : Held Handle} :
    ∀ u, needs u h → held u = false := by
  intro u hu
  rcases hh with rfl | rfl
  · cases u <;> exact hu.elim
  · cases u <;> exact hu.elim

section Blocks
variable {context : LwipTunnelContext K H}

lemma leaves_takeUdp (absent : context.udp = false) :
    Leaves needs (heldNow held id context) [.acquire (.udp id)]
      (heldNow held id { context with udp := true }) := by
  have hself : heldNow held id context (.udp id) = false := by rw [heldNow_udp_self, absent]
  have hacquire := leaves_acquire hself (needs_netif (Or.inl rfl))
  rwa [heldNow_udp] at hacquire

lemma leaves_takeTcp (absent : context.tcp = false) :
    Leaves needs (heldNow held id context) [.acquire (.tcp id)]
      (heldNow held id { context with tcp := true }) := by
  have hself : heldNow held id context (.tcp id) = false := by rw [heldNow_tcp_self, absent]
  have hacquire := leaves_acquire hself (needs_netif (Or.inr rfl))
  rwa [heldNow_tcp] at hacquire

lemma leaves_giveUdp (present : context.udp = true) :
    Leaves needs (heldNow held id context) [.release (.udp id)]
      (heldNow held id { context with udp := false }) := by
  have hself : heldNow held id context (.udp id) = true := by rw [heldNow_udp_self, present]
  have hrelease := leaves_release hself (needed_by_none (Or.inl rfl))
  rwa [heldNow_udp] at hrelease

lemma leaves_giveTcp (present : context.tcp = true) :
    Leaves needs (heldNow held id context) [.release (.tcp id)]
      (heldNow held id { context with tcp := false }) := by
  have hself : heldNow held id context (.tcp id) = true := by rw [heldNow_tcp_self, present]
  have hrelease := leaves_release hself (needed_by_none (Or.inr rfl))
  rwa [heldNow_tcp] at hrelease

end Blocks

lemma Keeps.same (h : Keeps held id s) {new : List (Note K H I)}
    (hnotes : t.notes = s.notes ++ new) (hnew : opsOf new = [])
    (hid : t.context.socketId = s.context.socketId) (hudp : t.context.udp = s.context.udp)
    (htcp : t.context.tcp = s.context.tcp) : Keeps held id t where
  socketId := hid.trans h.socketId
  leaves := by
    rw [hnotes, opsOf_append, hnew, List.append_nil, heldNow_congr held id hudp htcp]
    exact h.leaves

lemma Keeps.giveTcp (h : Keeps held id s) (htcp : s.context.tcp = true)
    {new : List (Note K H I)} (hnotes : t.notes = s.notes ++ new)
    (hnew : opsOf new = [.release (.tcp id)]) (hid : t.context.socketId = s.context.socketId)
    (hudp : t.context.udp = s.context.udp) (htcp' : t.context.tcp = false) : Keeps held id t where
  socketId := hid.trans h.socketId
  leaves := by
    have hheld : heldNow held id t.context = heldNow held id { s.context with tcp := false } :=
      heldNow_congr held id hudp htcp'
    rw [hnotes, opsOf_append, hnew, hheld]
    exact h.leaves.append (leaves_giveTcp htcp)

theorem keeps_change (h : Change lib going s t) (hs : Keeps held id s) : Keeps held id t := by
  have hid := hs.socketId
  cases h with
  | turn turned =>
    cases turned with
    | callback called =>
      obtain ⟨hsocket, hudp, -, events, tcp, hnotes, hheld, htcp⟩ := call_called called
      cases tcp with
      | false => exact hs.same hnotes (by simp [Note.op?]) hsocket hudp (by simpa using htcp)
      | true =>
        exact hs.giveTcp (hheld rfl) hnotes (by simp [Note.op?, hid]) hsocket hudp (by simpa using htcp)
    | datagram processed taken =>
      have hsame := lwipProcessTransport_same _ _ _ _ _ processed
      exact hs.same rfl (by simp [Note.op?]) hsame.socketId hsame.udp hsame.tcp
  | takeUdp absent =>
    refine ⟨hid, ?_⟩
    simpa [Flow.take, Note.op?, hid] using hs.leaves.append (leaves_takeUdp absent)
  | takeTcp absent echoed =>
    refine ⟨hid, ?_⟩
    simpa [Flow.take, Note.op?, hid] using hs.leaves.append (leaves_takeTcp absent)
  | giveTcp present => exact hs.giveTcp present rfl (by simp [Note.op?, hid]) rfl rfl rfl
  | giveUdp present =>
    refine ⟨hid, ?_⟩
    simpa [Flow.give, Note.op?, hid] using hs.leaves.append (leaves_giveUdp present)

theorem keeps_changes (h : Changes lib going s t) (hs : Keeps held id s) : Keeps held id t := by
  induction h with
  | refl => exact hs
  | tail _ step ih => exact keeps_change step ih

end Held

end Steps

section Flows
variable {lib : Wireguard K H R I} {o : EchoOutcomes} {socketId : ℤ} {destination : Endpoint}
  {expectedOuterAddress : UInt32} {peer : Peer K H} {result : ℤ} {t : Flow K H I}

/-- A flow ends before its interface is there, or it exchanges packets and cleans up. -/
lemma sendLwipEcho_cases
    (h : sendLwipEcho lib o socketId destination expectedOuterAddress peer = some (result, t)) :
    let s : Flow K H I := Flow.start socketId destination expectedOuterAddress peer
    result = -40 ∧ t = s ∨ ∃ u v, exchange lib o (s.take s.context (.netif socketId)) = some (result, u) ∧
      cleanup lib o u = some v ∧ t = v.give v.context (.netif socketId) := by
  unfold sendLwipEcho at h
  dsimp only at h ⊢
  by_cases hnetif : (!o.netifAdd) = true
  · rw [if_pos hnetif] at h
    cases h
    exact Or.inl ⟨rfl, rfl⟩
  · rw [if_neg hnetif] at h
    simp only [Option.bind_eq_bind, Option.bind_eq_some_iff, Option.some.injEq, Prod.mk.injEq] at h
    obtain ⟨⟨result', u⟩, hexchange, v, hcleanup, rfl, rfl⟩ := h
    exact Or.inr ⟨u, v, hexchange, hcleanup, rfl⟩

/-- A flow whose interface is there, and nothing else. -/
def begun (socketId : ℤ) (destination : Endpoint) (expectedOuterAddress : UInt32)
    (peer : Peer K H) : Flow K H I :=
  let s : Flow K H I := Flow.start socketId destination expectedOuterAddress peer
  s.take s.context (.netif socketId)

lemma history_begun : History (begun socketId destination expectedOuterAddress peer : Flow K H I) where
  flags := fun flag => by cases flag <;> rfl
  echoedFirst := by
    intro before id hprefix
    have hnotes : (begun socketId destination expectedOuterAddress peer : Flow K H I).notes =
        [] ++ [.resource (.acquire (.netif socketId))] := rfl
    rw [hnotes, List.prefix_concat_iff] at hprefix
    rcases hprefix with heq | hprefix
    · simpa using congrArg List.getLast? heq
    · simp at hprefix

lemma History.raised {s : Flow K H I} (h : History s) {flag : Flag}
    (hflag : raised s.context flag = true) : ∃ c ∈ callbacks s.notes, c.raises flag = true := by
  rw [h.flags] at hflag
  exact List.any_eq_true.mp hflag

/-- The flow returns 0 only after both payloads have come back in full over a connection that did
not fail, and after every datagram that arrived had passed the checks of the tunnel; the
connection is never made before the first payload is back; and no result is positive. -/
theorem sendLwipEcho_approved
    (h : sendLwipEcho lib o socketId destination expectedOuterAddress peer = some (result, t)) :
    result ≤ 0 ∧ EchoedFirst t.notes ∧
      (result = 0 → AllTaken t.notes ∧ ∃ before after, t.notes = before ++ after ∧
        Approved before) := by
  rcases sendLwipEcho_cases h with ⟨rfl, rfl⟩ | ⟨u, v, hexchange, hcleanup, rfl⟩
  · refine ⟨by simp, ?_, by simp⟩
    intro before id hprefix
    simp [Flow.start] at hprefix
  have hchanges := exchange_changes rfl rfl hexchange
  obtain ⟨hcleaned, -⟩ := cleanup_changes (decide (result = 0)) hcleanup
  have hexchanged := history_changes hchanges history_begun
  have hhistory := history_changes hcleaned hexchanged
  refine ⟨exchange_result o _ _ _ hexchange, ?_, ?_⟩
  · exact hhistory.echoedFirst.keep fun id => by simp
  · rintro rfl
    rw [decide_eq_true rfl] at hchanges hcleaned
    have hbegun : AllTaken (begun socketId destination expectedOuterAddress peer :
        Flow K H I).notes := by
      intro incoming source result hmem
      simp [begun, Flow.take, Flow.start] at hmem
    have htaken := allTaken_changes hcleaned (allTaken_changes hchanges hbegun)
    obtain ⟨after, hafter⟩ := changes_notes hcleaned
    obtain ⟨hecho, hconnected, hreceived, hfailed⟩ := exchange_answered hexchange
    refine ⟨htaken.append fun _ _ _ hmem => by simp at hmem, u.notes,
      after ++ [.resource (.release (.netif socketId))], ?_, ?_⟩
    · rw [← List.append_assoc, hafter]
      rfl
    · refine ⟨hexchanged.raised hecho, hexchanged.raised hconnected, hexchanged.raised hreceived,
        fun c hc => ?_⟩
      have hnone := hexchanged.flags .tcpFailed
      rw [show raised u.context .tcpFailed = false from hfailed] at hnone
      simpa using List.any_eq_false.mp hnone.symm c hc

/-- Every control block of a flow and its interface are given back, whatever its result. -/
theorem sendLwipEcho_leaves {held : Held Handle} (hsocket : held (.socket socketId) = true)
    (hnetif : held (.netif socketId) = false) (hudp : held (.udp socketId) = false)
    (htcp : held (.tcp socketId) = false)
    (h : sendLwipEcho lib o socketId destination expectedOuterAddress peer = some (result, t)) :
    Leaves needs held (opsOf t.notes) held := by
  rcases sendLwipEcho_cases h with ⟨rfl, rfl⟩ | ⟨u, v, hexchange, hcleanup, rfl⟩
  · exact .nil
  have hbare : ∀ context : LwipTunnelContext K H, context.udp = false → context.tcp = false →
      heldNow held socketId context = held.set (.netif socketId) true := by
    intro context hu ht
    have hudp' : held.set (.netif socketId) true (.udp socketId) = false := by
      rw [set_of_ne _ _ (by simp), hudp]
    have htcp' : held.set (.netif socketId) true (.tcp socketId) = false := by
      rw [set_of_ne _ _ (by simp), htcp]
    rw [heldNow, hu, ht, set_eq _ _ hudp', set_eq _ _ htcp']
  have hready : ∀ d, needs (.netif socketId) d → held d = true := by
    intro d hd
    cases d with
    | socket id =>
      obtain rfl : socketId = id := hd
      exact hsocket
    | _ => exact hd.elim
  have hbegun : Keeps held socketId (begun socketId destination expectedOuterAddress peer :
      Flow K H I) :=
    ⟨rfl, by rw [hbare _ rfl rfl]; exact leaves_acquire hnetif hready⟩
  have hexchanged := keeps_changes (exchange_changes rfl rfl hexchange) hbegun
  obtain ⟨hcleaned, hu, ht, -⟩ := cleanup_changes true hcleanup
  have hkeeps := (keeps_changes hcleaned hexchanged).leaves
  rw [hbare _ hu ht] at hkeeps
  have hunneeded : ∀ d, needs d (.netif socketId) → held.set (.netif socketId) true d = false := by
    intro d hd
    cases d with
    | udp id =>
      obtain rfl : id = socketId := hd
      rw [set_of_ne _ _ (by simp), hudp]
    | tcp id =>
      obtain rfl : id = socketId := hd
      rw [set_of_ne _ _ (by simp), htcp]
    | _ => exact hd.elim
  have hrelease := leaves_release (set_self held true) hunneeded
  rw [set_set, set_eq held false hnetif] at hrelease
  simpa [Flow.give, Note.op?] using hkeeps.append hrelease

end Flows

section Sample

/-- A datagram of the server with this counter. -/
def sampleDatagramAt (counter : UInt64) : Bytes :=
  transportHeader 7 counter ++ symbolicAead (7, false) counter (pad samplePacket)

def samplePoll (counter : UInt64) (input : List Callback) : Poll :=
  ⟨0, some (⟨1, 2⟩, sampleDatagramAt counter), ⟨true, true⟩, input, []⟩

/-- The echo of the datagram, then a connection that answers and ends. -/
def sampleOutcomes : EchoOutcomes where
  netifAdd := true
  udpNew := true
  udpBind := .ok
  udpConnect := .ok
  request := true
  sending := [.output ⟨3, [1, 2, 3]⟩ 48]
  udpSend := .ok
  udpStart := 0
  udpPolls := [samplePoll 0 [.echoReceived (some ⟨14, echoPayload⟩) vmIp 7777], samplePoll 0 []]
  tcpNew := true
  tcpBind := .ok
  connecting := []
  tcpConnect := .ok
  tcpStart := 0
  tcpPolls := [samplePoll 1 [.tcpConnected .ok .ok .ok],
    samplePoll 2 [.tcpReceived (some ⟨13, tcpPayload⟩) .ok .ok, .tcpReceived none .ok .ok],
    samplePoll 3 []]
  aborting := []
  removing := [.tcpError .val]

end Sample

end MoonlightVita.Probe
