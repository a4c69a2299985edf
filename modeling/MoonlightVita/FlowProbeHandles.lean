import MoonlightVita.FlowProbe

/-!
# What the flow probe holds

A run, the loop and the shutdown take and give back handles in a lawful order, and when the probe
ends nothing is left.
-/
namespace MoonlightVita.FlowProbe
open Files KeyFile Probe ProbeProgram Resources Tunnel
open PeerConfig (Config)

variable {K H R I : Type}

section Parts
variable {lib : Library K H R I} {s : Program} {fs : FileSystem Path} {o : RunOutcomes R}

/-- A part of a run is lawful and leaves the screen alone. -/
structure Step (s : Program) (ops : Ops) (s' : Program) : Prop where
  part : Part s ops s'
  screen : screen s' = screen s

lemma Step.append {s s' s'' : Program} {ops ops' : Ops} (h : Step s ops s')
    (h' : Step s' ops' s'') : Step s (ops ++ ops') s'' :=
  ⟨h.part.append h'.part, h'.screen.trans h.screen⟩

lemma closeLog_step (hs : Coherent s) : Step s (closeLog s).2 (closeLog s).1 :=
  ⟨closeLog_part hs, screen_closeLog s⟩

lemma cleanupNetwork_step (s : Program) : Step s (cleanupNetwork s).2 (cleanupNetwork s).1 :=
  ⟨cleanupNetwork_part s, rfl⟩

lemma runNetwork_step (hs : Coherent s) {config : Config} {peer : Peer K H}
    {r : Configured K H I} (h : runNetwork lib s fs config peer o = some r) :
    Step s r.ops r.program := by
  obtain ⟨⟨verdict, notes⟩, hsession, rfl⟩ := Option.map_eq_some_iff.mp h
  obtain ⟨hnetwork, hup⟩ := initializeNetwork_part hs o.network
  have hnotes : Leaves needs (initializeNetwork s o.network).2.1.held (opsOf notes)
      (initializeNetwork s o.network).2.1.held := by
    unfold runSession at hsession
    by_cases hfailed : (initializeNetwork s o.network).1 < 0
    · rw [if_pos hfailed] at hsession
      cases hsession
      exact .nil
    · rw [if_neg hfailed] at hsession
      obtain ⟨session, hconduct, heq⟩ := Option.map_eq_some_iff.mp hsession
      cases heq
      have hnet := hnetwork.coherent.netctl (hup (not_lt.mp hfailed))
      exact sendHandshakeAndIpProbe_leaves hnet (fun _ => rfl) (fun _ => rfl) (fun _ => rfl)
        (fun _ => rfl) hconduct
  have hcleaned := cleanupNetwork_step (initializeNetwork s o.network).2.1
  have hconducted : Step _ (opsOf notes) _ := ⟨⟨hnotes, hnetwork.coherent⟩, rfl⟩
  have hup' : Step s _ _ := ⟨hnetwork, screen_initializeNetwork s o.network⟩
  exact hup'.append (hconducted.append (hcleaned.append (closeLog_step hcleaned.part.coherent)))

lemma runConfigured_step (hs : Coherent s) {key : Key} {r : Configured K H I}
    (h : runConfigured lib s fs key o = some r) : Step s r.ops r.program := by
  unfold runConfigured at h
  dsimp only at h
  split at h
  · cases h
  · cases h
    exact closeLog_step hs
  · split at h
    · cases h
      exact closeLog_step hs
    · exact runNetwork_step hs h

theorem runProbe_step (hs : Coherent s) {ran : Ran K H I} (h : runProbe lib s fs o = some ran) :
    Step s ran.ops ran.program := by
  have hreset : Step s (openLog s o.log).2 (openLog s o.log).1 :=
    ⟨openLog_part hs o.log, screen_openLog s o.log⟩
  unfold runProbe at h
  dsimp only at h
  by_cases hloaded : (loadOrCreatePrivateKey fs (.replicate 32 0) o.key).result < 0
  · rw [if_pos hloaded] at h
    cases h
    exact hreset
  rw [if_neg hloaded] at h
  split at h
  · cases h
    exact hreset
  · split_ifs at h
    · cases h
      exact hreset
    · obtain ⟨r, hconfigured, rfl⟩ := Option.map_eq_some_iff.mp h
      exact hreset.append (runConfigured_step hreset.part.coherent hconfigured)

theorem Runs.step {os : List (RunOutcomes R)} {runs : List (Ran K H I)} {s' : Program}
    {fs' : FileSystem Path} (h : Runs lib s fs os runs s' fs') (hs : Coherent s) :
    Step s (runs.flatMap fun ran => ran.ops) s' := by
  induction h with
  | nil => exact ⟨Part.refl hs, rfl⟩
  | cons hrun _ ih =>
    have hran := runProbe_step hs hrun
    exact hran.append (ih hran.part.coherent)

/-- The font of this program comes without its module. -/
def flowNeeds (h d : Handle) : Prop := needs h d ∧ d ≠ .pgf

lemma Step.flow {s s' : Program} {ops : Ops} (h : Step s ops s') :
    Leaves flowNeeds s.held ops s'.held :=
  h.part.leaves.mono fun _ _ hneeds => hneeds.1

lemma leaves_shown : Leaves flowNeeds nothing [.acquire .vita2d, .acquire .font] shown.held := by
  have hvita2d : Leaves flowNeeds nothing [.acquire .vita2d]
      { Program.start with vita2d := true }.held := by
    rw [← held_start]
    refine leaves_take rfl ?_ rfl ?_
    · rintro d ⟨hd, -⟩
      cases d <;> exact hd.elim
    · intro other hother
      cases other <;> first | rfl | exact absurd rfl hother
  have hfont : Leaves flowNeeds { Program.start with vita2d := true }.held [.acquire .font]
      shown.held := by
    refine leaves_take rfl ?_ rfl ?_
    · rintro d ⟨hd, hpgf⟩
      cases d with
      | vita2d => rfl
      | pgf => exact absurd rfl hpgf
      | _ => exact hd.elim
    · intro other hother
      cases other <;> first | rfl | exact absurd rfl hother
  exact hvita2d.append hfont

lemma leaves_hidden : Leaves flowNeeds shown.held [.release .font, .release .vita2d] nothing := by
  have hfont : Leaves flowNeeds shown.held [.release .font]
      { Program.start with vita2d := true }.held := by
    refine leaves_give rfl ?_ rfl ?_
    · rintro u ⟨hu, -⟩
      cases u <;> exact hu.elim
    · intro other hother
      cases other <;> first | rfl | exact absurd rfl hother
  have hvita2d : Leaves flowNeeds { Program.start with vita2d := true }.held [.release .vita2d]
      nothing := by
    rw [← held_start]
    refine leaves_give rfl ?_ rfl ?_
    · rintro u ⟨hu, -⟩
      cases u <;> first | rfl | exact hu.elim
    · intro other hother
      cases other <;> first | rfl | exact absurd rfl hother
  exact hfont.append hvita2d

/-- What is left once the log is closed and the network is down. -/
lemma bare_eq (s : Program) : (cleanupNetwork (closeLog s).1).1 =
    { Program.start with vita2d := s.vita2d, pgf := s.pgf, font := s.font } := by
  have hscreen := screen_closeLog s
  simp only [screen, Prod.mk.injEq] at hscreen
  obtain ⟨hvita2d, hpgf, hfont⟩ := hscreen
  simp [cleanupNetwork, Program.start, hvita2d, hpgf, hfont]

lemma finish_leaves {m : Main K H I} (hm : Step shown m.ops m.program) :
    Leaves flowNeeds shown.held (finish m).ops (finish m).program.held ∧
      ((finish m).ended = true → (finish m).program.held = nothing) := by
  unfold finish
  by_cases hended : (!m.ended) = true
  · rw [if_pos hended]
    exact ⟨hm.flow, fun h => by simp [h] at hended⟩
  rw [if_neg hended]
  have hclosed := closeLog_step hm.part.coherent
  have hcleaned := cleanupNetwork_step (closeLog m.program).1
  have hbare : (cleanupNetwork (closeLog m.program).1).1 = shown := by
    have hscreen := hm.screen
    simp only [screen, shown, Program.start, Prod.mk.injEq] at hscreen
    rw [bare_eq, hscreen.1, hscreen.2.1, hscreen.2.2]
    rfl
  have hnothing : { (cleanupNetwork (closeLog m.program).1).1 with
      vita2d := false, font := false }.held = nothing := by
    rw [hbare, ← held_start]
    rfl
  dsimp only
  refine ⟨?_, fun _ => hnothing⟩
  rw [hnothing]
  have hlast := (hm.append (hclosed.append hcleaned)).flow
  rw [hbare] at hlast
  simpa using hlast.append leaves_hidden

lemma main_leaves {o : MainOutcomes R} {samples : List (UInt32 × RunOutcomes R)} {m : Main K H I}
    (h : main lib fs o samples = some m) : Leaves flowNeeds nothing m.ops m.program.held ∧
      (m.ended = true → m.program.held = nothing) := by
  rcases main_runs h with ⟨-, -, hprogram, hops⟩ | ⟨os, loop, -, hruns, hops, rfl⟩
  · rw [hprogram]
    refine ⟨?_, fun _ => held_start⟩
    rcases hops with hops | hops
    · rw [hops, held_start]
      exact .nil
    · have hvita2d : Leaves flowNeeds nothing ([.acquire .vita2d] ++ [.release .vita2d])
          nothing := by
        refine leaves_bracket rfl ?_ ?_ (fun _ _ => rfl) .nil
        · rintro d ⟨hd, -⟩
          cases d <;> exact hd.elim
        · exact fun hself => hself.1
      rw [hops, held_start]
      exact hvita2d
  · have hshown : Coherent shown := ⟨rfl, by simp [shown, Program.start],
      by simp [shown, Program.start]⟩
    have hfinished := finish_leaves (hops ▸ hruns.step hshown : Step shown loop.ops loop.program)
    exact ⟨leaves_shown.append hfinished.1, hfinished.2⟩

/-- Whatever the console, the files, lwIP and the peer do and whichever buttons are pressed,
nothing is taken twice, before what it needs or given back while it is needed; and a
program that ends has given back everything, as often as it took it. -/
theorem everything_returned {o : MainOutcomes R} {samples : List (UInt32 × RunOutcomes R)}
    {m : Main K H I} (h : main lib fs o samples = some m) :
    Leaves flowNeeds nothing m.ops m.program.held ∧ (m.ended = true → m.program.held = nothing ∧
      ∀ handle, m.ops.count (.acquire handle) = m.ops.count (.release handle)) := by
  have hlawful := main_leaves h
  refine ⟨hlawful.1, fun hended => ⟨hlawful.2 hended, fun handle => ?_⟩⟩
  have hbalance := hlawful.1.balance handle
  rw [hlawful.2 hended] at hbalance
  exact Nat.add_right_cancel hbalance

theorem everything_returned_sample : ∃ p, main sampleLibrary sampleFiles
    ⟨0, true, sampleRun 3⟩ samplePresses = some p ∧ p.program.held = nothing ∧
      ∀ handle, p.ops.count (.acquire handle) = p.ops.count (.release handle) := by
  obtain ⟨p, hp, hended, -⟩ := main_sample
  exact ⟨p, hp, (everything_returned hp).2 hended⟩

end Parts

end MoonlightVita.FlowProbe
