import ProfilingSession.Machine
import ProfilingSession.Proofs.Session.Answers

/-!
# Sessions on machines

What is assumed of hosts holds of machines: a process that was launched runs or has ended, and in
either case it can be killed and reaped. Whatever processes do in a step, they are neither lost nor
taken for others.
-/

namespace ProfilingSession.Machine

open FileTree (Cause)
open Shell (Process)
open Supervision (WasLaunched)

variable {machine before between after : Machine} {role : Role} {pid : Nat}

/-- A process runs or has ended. -/
def Has (machine : Machine) (pid : Nat) : Prop :=
  (∃ process ∈ machine.processes, process.pid = pid) ∨ ∃ exit, (pid, exit) ∈ machine.ended

/-- The processes of the roles are the same, and none is lost. -/
structure Keeps (before after : Machine) : Prop where
  pid? : ∀ role, after.pid? role = before.pid? role
  has : ∀ pid, before.Has pid → after.Has pid

namespace Keeps

theorem refl (machine : Machine) : Keeps machine machine :=
  ⟨fun _ => rfl, fun _ => id⟩

theorem trans (h : Keeps before between) (h' : Keeps between after) : Keeps before after :=
  ⟨fun role => (h'.pid? role).trans (h.pid? role), fun pid has => h'.has pid (h.has pid has)⟩

/-- What processes are there says all. -/
theorem of_eq (producer : after.producer = before.producer)
    (consumer : after.consumer = before.consumer) (processes : after.processes = before.processes)
    (ended : after.ended = before.ended) : Keeps before after where
  pid? role := by cases role <;> assumption
  has pid := by simp only [Has, processes, ended, imp_self]

end Keeps

theorem isAlive_iff : machine.isAlive pid = true ↔ ∃ process ∈ machine.processes,
    process.pid = pid := by
  simp [isAlive]

/-- A change that keeps the number of a process. -/
theorem keeps_modify (machine : Machine) (pid : Nat) (change : Process → Process)
    (same : ∀ process, process.pid = pid → (change process).pid = pid) :
    Keeps machine (machine.modify pid change) where
  pid? role := by cases role <;> rfl
  has other has := by
    refine has.imp_left fun ⟨process, there, number⟩ => ⟨_, List.mem_map_of_mem there, ?_⟩
    by_cases changed : process.pid = pid
    · rw [if_pos changed, same process changed, ← changed, number]
    · rw [if_neg changed, number]

@[simp]
theorem pid_woken (pid clock : Nat) (process : Process) :
    (woken pid clock process).pid = process.pid := by
  unfold woken
  split
  · split <;> rfl
  · rfl

theorem keeps_finish (machine : Machine) (pid : Nat) (exit : Exit) :
    Keeps machine (machine.finish pid exit) := by
  unfold finish
  split
  · refine ⟨fun role => by cases role <;> rfl, fun other has => ?_⟩
    rcases has with ⟨process, there, number⟩ | ⟨exit', there⟩
    · by_cases same : other = pid
      · exact .inr ⟨exit, by simp [same]⟩
      · refine .inl ⟨woken pid machine.clock process, List.mem_map_of_mem ?_, by simp [number]⟩
        simp [there, number, same]
    · exact .inr ⟨exit', List.mem_append_left _ there⟩
  · exact .refl machine

/-- A process that is there has ended once it was finished. -/
theorem exists_ended_finish (has : machine.Has pid) (exit : Exit) :
    ∃ exit', (pid, exit') ∈ (machine.finish pid exit).ended := by
  unfold finish
  split
  · exact ⟨exit, by simp⟩
  · next gone =>
    rcases has with running | ended
    · exact absurd (isAlive_iff.mpr running) gone
    · exact ended

theorem keeps_signal (machine : Machine) (sent : Nat × Nat) :
    Keeps machine (machine.signal sent) := by
  obtain ⟨pid, number⟩ := sent
  unfold signal
  dsimp only
  split
  · exact .refl machine
  · exact .of_eq rfl rfl rfl rfl
  · refine Keeps.trans ?_ (keeps_modify _ pid _ fun _ => id)
    exact .of_eq rfl rfl rfl rfl
  · exact keeps_finish ..

theorem keeps_signals (sent : List (Nat × Nat)) (machine : Machine) :
    Keeps machine (sent.foldl signal machine) := by
  induction sent generalizing machine with
  | nil => exact .refl machine
  | cons first rest ih => exact (keeps_signal machine first).trans (ih _)

/-- Processes that are added. -/
theorem keeps_append (machine : Machine) (world : Shell.World) (clock nextPid : Nat)
    (started : List Process) :
    Keeps machine
      { machine with
        world := world
        clock := clock
        processes := machine.processes ++ started
        nextPid := nextPid } where
  pid? role := by cases role <;> rfl
  has pid has := has.imp_left fun ⟨process, there, number⟩ =>
    ⟨process, List.mem_append_left _ there, number⟩

/-- Whatever a process does in a step, no process is lost. -/
theorem keeps_turn (machine : Machine) (process : Process) :
    Keeps machine (machine.turn process) := by
  unfold turn
  dsimp only
  generalize process.step _ machine.world = turned
  -- The process keeps its number whatever has become of it.
  have changed := keeps_modify machine process.pid
    (fun _ => { turned.process with
      pid := process.pid, readyAt := process.readyAt + turned.cost }) fun _ _ => rfl
  split
  · exact ((changed.trans (keeps_append ..)).trans (keeps_signals ..)).trans (keeps_finish ..)
  · exact (changed.trans (keeps_append ..)).trans (keeps_signals ..)

theorem keeps_runWithin {α : Type} (deadline : Nat) (look : Machine → Option α) (steps : Nat)
    (machine : Machine) : Keeps machine (machine.runWithin deadline look steps).2 := by
  induction steps generalizing machine with
  | zero => exact .of_eq rfl rfl rfl rfl
  | succ steps ih =>
    unfold runWithin
    split
    · exact .refl machine
    · split
      · split
        · exact (keeps_turn machine _).trans (ih _)
        · exact .of_eq rfl rfl rfl rfl
      · exact .of_eq rfl rfl rfl rfl

theorem keeps_await {α : Type} (limit : Duration) (look : Machine → Option α)
    (machine : Machine) : Keeps machine (machine.await limit look).2 := by
  unfold await
  dsimp only
  have ran := keeps_runWithin (machine.clock + limit.nanoseconds) look
    ((limit.nanoseconds / Shell.decisionTime + 2) * (machine.processes.length + 4)) machine
  split
  · next same =>
    rw [same] at ran
    exact ran.trans (.of_eq rfl rfl rfl rfl)
  · next same =>
    rw [same] at ran
    exact ran.trans (.of_eq rfl rfl rfl rfl)

/-- Of a role that has a process, the process runs or has ended. -/
def Accounts (machine : Machine) : Prop :=
  ∀ role pid, machine.pid? role = some pid → machine.Has pid

theorem Accounts.keeps (accounts : before.Accounts) (keeps : Keeps before after) :
    after.Accounts := fun role pid known =>
  keeps.has pid (accounts role pid ((keeps.pid? role).symm.trans known))

theorem keeps_withFiles (files : FileTree) (machine : Machine) :
    Keeps machine (machine.withFiles files) :=
  .of_eq rfl rfl rfl rfl

/-- A launch that fails changes no process. -/
theorem keeps_launch_of_error {launch : Launch} {cause : Cause}
    (failed : machine.launch launch = (.error cause, after)) : Keeps machine after := by
  unfold Machine.launch at failed
  split at failed
  · cases failed
    exact .refl machine
  · split at failed
    · cases failed
      exact .refl machine
    · cases failed

/-- A launch gives a process to its role. -/
theorem accounts_launch {launch : Launch} (accounts : machine.Accounts)
    (launched : machine.launch launch = (.ok (), after)) :
    after.Accounts ∧ (after.pid? launch.role).isSome ∧
      ∀ role, (machine.pid? role).isSome → (after.pid? role).isSome := by
  unfold Machine.launch at launched
  split at launched
  · cases launched
  · split at launched
    · cases launched
    · dsimp only at launched
      generalize machine.processOf launch = started at launched
      have kept := (keeps_append machine started.2 machine.clock (machine.nextPid + 1)
        [started.1]).has
      have there : ∃ process ∈ machine.processes ++ [started.1], process.pid = started.1.pid :=
        ⟨started.1, by simp, rfl⟩
      obtain ⟨-, rfl⟩ := Prod.mk.inj launched
      cases same : launch.role with
      | producer =>
        refine ⟨fun role pid known => ?_, rfl, fun role known => ?_⟩
        · cases role with
          | producer => cases known; exact .inl there
          | consumer => exact kept pid (accounts .consumer pid known)
        · cases role with
          | producer => rfl
          | consumer => exact known
      | consumer =>
        refine ⟨fun role pid known => ?_, rfl, fun role known => ?_⟩
        · cases role with
          | producer => exact kept pid (accounts .producer pid known)
          | consumer => cases known; exact .inl there
        · cases role with
          | producer => exact known
          | consumer => rfl

theorem keeps_kill (role : Role) (machine : Machine) : Keeps machine (machine.kill role) := by
  unfold kill
  cases machine.pid? role with
  | none => exact .refl machine
  | some pid => exact keeps_finish ..

theorem reap_snd (role : Role) (machine : Machine) : (machine.reap role).2 = machine := by
  unfold reap
  split <;> rfl

theorem keeps_tells {told : Option (Role × Exit)} (tells : host.Tells before told after) :
    Keeps before after := by
  have awaited {α : Type} {limit : Duration} {look : Machine → Option α} {wake : Wake α}
      (came : before.await limit look = (wake, after)) : Keeps before after := by
    simpa [came] using keeps_await limit look before
  cases tells with
  | consumer came => exact awaited came
  | noConsumer waited => exact awaited waited
  | either came => exact awaited came
  | neither waited => exact awaited waited
  | looked told =>
    obtain ⟨-, rfl⟩ := Prod.mk.inj told
    exact .refl before
  | unseen looked =>
    obtain ⟨-, rfl⟩ := Prod.mk.inj looked
    exact .refl before

/-- A look changes nothing, and neither does a wait for what was killed. -/
theorem keeps_killed {answer : Except Cause (Option Exit)} {reaped : Except Cause Exit}
    (looked : host.poll role before = (answer, between))
    (waited : host.reap role (host.kill role between) = (reaped, after)) : Keeps before after := by
  obtain ⟨-, rfl⟩ := Prod.mk.inj looked
  have last : (before.kill role).reap role = (reaped, after) := waited
  have same : after = before.kill role := by rw [← reap_snd role (before.kill role), last]
  exact same ▸ keeps_kill role before

/-- From a machine that accounts for its processes on, whatever was launched has a process that runs
or has ended. -/
theorem accounts_of_bearsOut {begun : Machine} {journal : List Action} (accounts : begun.Accounts)
    (h : host.BearsOut begun journal machine) :
    machine.Accounts ∧ ∀ role, WasLaunched role journal → (machine.pid? role).isSome := by
  induction h with
  | nothing => exact ⟨accounts, fun role ⟨_, _, there⟩ => absurd there List.not_mem_nil⟩
  | entered _ _ ih | foundReady _ ih =>
    exact ⟨ih.1, fun role launched => ih.2 role (launched.of_append (by simp))⟩
  | @launched journal system after _ launch starts ih =>
    obtain ⟨files, -, started⟩ := starts
    obtain ⟨known, own, others⟩ :=
      accounts_launch (ih.1.keeps (keeps_withFiles files system)) started
    refine ⟨known, fun role ⟨launch', same, there⟩ => ?_⟩
    rcases List.mem_append.mp there with earlier | last
    · exact others role ((keeps_withFiles files system).pid? role ▸ ih.2 role ⟨_, same, earlier⟩)
    · cases List.mem_singleton.mp last
      exact same ▸ own
  | @unlaunched journal system after _ launch files cause _ failed ih =>
    have keeps := (keeps_withFiles files system).trans (keeps_launch_of_error failed)
    exact ⟨ih.1.keeps keeps, fun role launched => keeps.pid? role ▸ ih.2 role launched⟩
  | silent _ tells ih =>
    have keeps := keeps_tells tells
    exact ⟨ih.1.keeps keeps, fun role launched => keeps.pid? role ▸ ih.2 role launched⟩
  | ended _ tells ih =>
    have keeps := keeps_tells tells
    exact ⟨ih.1.keeps keeps, fun role launched =>
      keeps.pid? role ▸ ih.2 role (launched.of_append (by simp))⟩
  | killed _ looked _ reaped ih =>
    have keeps := keeps_killed looked reaped
    exact ⟨ih.1.keeps keeps, fun role launched =>
      keeps.pid? role ▸ ih.2 role ((launched.of_append (by simp)).of_append (by simp))⟩
  | unreaped _ looked _ failed ih =>
    have keeps := keeps_killed looked failed
    exact ⟨ih.1.keeps keeps, fun role launched =>
      keeps.pid? role ▸ ih.2 role (launched.of_append (by simp))⟩

theorem isSome_exit? {exit : Exit} (known : machine.pid? role = some pid)
    (ended : (pid, exit) ∈ machine.ended) : (machine.exit? role).isSome := by
  have found : (machine.ended.find? fun entry => entry.1 == pid).isSome :=
    List.find?_isSome.mpr ⟨(pid, exit), ended, by simp⟩
  obtain ⟨entry, found⟩ := Option.isSome_iff_exists.mp found
  simp [exit?, known, found]

/-- A process that is there has an end to be told once it was killed. -/
theorem exists_reap_kill (accounts : machine.Accounts) (launched : (machine.pid? role).isSome) :
    ∃ exit after, (machine.kill role).reap role = (.ok exit, after) := by
  obtain ⟨pid, known⟩ := Option.isSome_iff_exists.mp launched
  have killed : machine.kill role = machine.finish pid (.ofSignal 9) := by simp [kill, known]
  obtain ⟨exit, ended⟩ := exists_ended_finish (accounts role pid known) (.ofSignal 9)
  have known' : (machine.kill role).pid? role = some pid :=
    ((keeps_kill role machine).pid? role).trans known
  obtain ⟨exit, told⟩ := Option.isSome_iff_exists.mp (isSome_exit? known' (killed ▸ ended))
  exact ⟨exit, machine.kill role, by simp [reap, told]⟩

/-- Whatever was launched on a machine can be killed and reaped. -/
theorem reaps_host {begun : Machine} (accounts : begun.Accounts) : host.Reaps begun := by
  have reaps {answer : Except Cause (Option Exit)} : host.ReapsAfter begun answer := by
    intro journal machine role seen borne launched looked
    obtain ⟨accounts, known⟩ := accounts_of_bearsOut accounts borne
    obtain ⟨-, rfl⟩ := Prod.mk.inj looked
    exact exists_reap_kill accounts (known role launched)
  exact ⟨reaps, fun _ => reaps⟩

/-- Nothing runs on a machine in the beginning. -/
theorem accounts_boot (files : FileTree) (environment : List (String × String)) :
    (boot files environment).Accounts := fun role pid known => by
  cases role <;> cases known

/-- What is assumed of hosts holds where a session is tried on a new machine. -/
theorem reaps_boot (files files' : FileTree) (environment : List (String × String)) :
    host.Reaps (host.withFiles files' (boot files environment)) :=
  reaps_host ((accounts_boot files environment).keeps (keeps_withFiles files' _))

end ProfilingSession.Machine
