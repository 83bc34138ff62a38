import ProfilingSession.Session.Supervision

/-!
# What a host answers

A journal is worth something only if the host bears it out. `Host.BearsOut` has the rules for this,
on journals and states of the host alone: an end is noted where a wait or a look has told it
(`Host.Tells`), or where a process was waited for after it was killed; and a process is killed in
the state that a look at it has led to, if that look has not told its end.

Such a look has found the process alive, or it has failed. After the second the process may have
ended, so that killing it and waiting for it are as likely to fail as the look was. What is assumed
of a host says which of the two is meant (`Host.ReapsAfter`).
-/

namespace ProfilingSession

open FileTree (Cause)

variable {σ : Type}

namespace Host

/-- The end of a process that is told by a wait or by a look, or that none is. -/
inductive Tells (host : Host σ) : σ → Option (Role × Exit) → σ → Prop where
  | consumer {before after : σ} {limit : Duration} {exit : Exit}
    (came : host.awaitConsumer limit before = (.came exit, after)) :
    Tells host before (some (.consumer, exit)) after
  | noConsumer {before after : σ} {limit : Duration} {wake : Wake Exit}
    (waited : host.awaitConsumer limit before = (wake, after))
    (silent : ∀ exit, wake ≠ .came exit) : Tells host before none after
  | either {before after : σ} {limit : Duration} {role : Role} {exit : Exit}
    (came : host.awaitEither limit before = (.came (role, exit), after)) :
    Tells host before (some (role, exit)) after
  | neither {before after : σ} {limit : Duration} {wake : Wake (Role × Exit)}
    (waited : host.awaitEither limit before = (wake, after))
    (silent : ∀ what, wake ≠ .came what) : Tells host before none after
  | looked {before after : σ} {role : Role} {exit : Exit}
    (told : host.poll role before = (.ok (some exit), after)) :
    Tells host before (some (role, exit)) after
  | unseen {before after : σ} {role : Role} {answer : Except Cause (Option Exit)}
    (looked : host.poll role before = (answer, after))
    (silent : ∀ exit, answer ≠ .ok (some exit)) : Tells host before none after

/-- A process was launched in a state of the host, with its log made anew. -/
def Starts (host : Host σ) (launch : Launch) (before after : σ) : Prop :=
  ∃ files, (host.files before).writeText launch.log "" = .ok files ∧
    host.launch launch (host.withFiles files before) = (.ok (), after)

/-- From one state of the host to another that has been done, and answered, which a journal has. -/
inductive BearsOut (host : Host σ) (begun : σ) : List Action → σ → Prop where
  | nothing : BearsOut host begun [] begun
  | entered {journal : List Action} {system : σ} (h : BearsOut host begun journal system)
    (phase : Phase) : BearsOut host begun (journal ++ [.entered phase]) system
  | foundReady {journal : List Action} {system : σ} (h : BearsOut host begun journal system) :
    BearsOut host begun (journal ++ [.foundReady]) system
  | launched {journal : List Action} {system after : σ} (h : BearsOut host begun journal system)
    {launch : Launch} (starts : host.Starts launch system after) :
    BearsOut host begun (journal ++ [.launched launch]) after
  | unlaunched {journal : List Action} {system after : σ} (h : BearsOut host begun journal system)
    {launch : Launch} {files : FileTree} {cause : Cause}
    (written : (host.files system).writeText launch.log "" = .ok files)
    (failed : host.launch launch (host.withFiles files system) = (.error cause, after)) :
    BearsOut host begun journal after
  | silent {journal : List Action} {system after : σ} (h : BearsOut host begun journal system)
    (tells : host.Tells system none after) : BearsOut host begun journal after
  | ended {journal : List Action} {system after : σ} (h : BearsOut host begun journal system)
    {role : Role} {exit : Exit} (tells : host.Tells system (some (role, exit)) after) :
    BearsOut host begun (journal ++ [.ended role exit]) after
  /-- The process is killed after a look, and waited for. -/
  | killed {journal : List Action} {system seen after : σ}
    (h : BearsOut host begun journal system) {role : Role} {answer : Except Cause (Option Exit)}
    (looked : host.poll role system = (answer, seen)) (silent : ∀ exit, answer ≠ .ok (some exit))
    {exit : Exit} (reaped : host.reap role (host.kill role seen) = (.ok exit, after)) :
    BearsOut host begun (journal ++ [.killed role] ++ [.ended role exit]) after
  /-- The process is killed after a look, and cannot be waited for. -/
  | unreaped {journal : List Action} {system seen after : σ}
    (h : BearsOut host begun journal system) {role : Role} {answer : Except Cause (Option Exit)}
    (looked : host.poll role system = (answer, seen)) (silent : ∀ exit, answer ≠ .ok (some exit))
    {cause : Cause} (failed : host.reap role (host.kill role seen) = (.error cause, after)) :
    BearsOut host begun (journal ++ [.killed role]) after

end Host

namespace Supervision

def WasLaunched (role : Role) (journal : List Action) : Prop :=
  ∃ launch, launch.role = role ∧ .launched launch ∈ journal

theorem WasLaunched.of_append {role : Role} {journal more : List Action}
    (h : WasLaunched role (journal ++ more)) (none : ∀ launch, .launched launch ∉ more) :
    WasLaunched role journal := by
  obtain ⟨launch, same, there⟩ := h
  exact ⟨launch, same, (List.mem_append.mp there).resolve_right (none launch)⟩

/-- Where an action stands in a journal that one action was added to. -/
theorem append_singleton_eq_append_cons {journal before after : List Action}
    {last action : Action} (h : journal ++ [last] = before ++ action :: after) :
    (before = journal ∧ action = last) ∨
      ∃ more, journal = before ++ action :: more := by
  rcases List.eq_nil_or_concat after with rfl | ⟨more, final, rfl⟩
  · obtain ⟨same, last_eq⟩ := List.append_inj' h rfl
    exact .inl ⟨same.symm, (List.singleton_inj.mp last_eq).symm⟩
  · have split : journal ++ [last] = (before ++ action :: more) ++ [final] := by simpa using h
    exact .inr ⟨more, (List.append_inj' split rfl).1⟩

end Supervision

namespace Host

open Supervision (WasLaunched append_singleton_eq_append_cons)

variable {host : Host σ} {begun last : σ} {journal before after : List Action} {role : Role}

/-- Where a process was killed a look at it had not told its end. -/
theorem BearsOut.exists_look (h : host.BearsOut begun journal last)
    (split : journal = before ++ .killed role :: after) :
    ∃ system answer seen, host.BearsOut begun before system ∧
      host.poll role system = (answer, seen) ∧ ∀ exit, answer ≠ .ok (some exit) := by
  induction h generalizing after with
  | nothing => simp at split
  | unlaunched _ _ _ ih => exact ih split
  | silent _ _ ih => exact ih split
  | entered _ _ ih | foundReady _ ih | launched _ _ ih | ended _ _ ih =>
    rcases append_singleton_eq_append_cons split with ⟨-, other⟩ | ⟨more, earlier⟩
    · cases other
    · exact ih earlier
  | killed h looked silent _ ih =>
    rcases append_singleton_eq_append_cons split with ⟨-, other⟩ | ⟨more, earlier⟩
    · cases other
    · rcases append_singleton_eq_append_cons earlier with ⟨rfl, same⟩ | ⟨more', earlier'⟩
      · cases same
        exact ⟨_, _, _, h, looked, silent⟩
      · exact ih earlier'
  | unreaped h looked silent _ ih =>
    rcases append_singleton_eq_append_cons split with ⟨rfl, same⟩ | ⟨more, earlier⟩
    · cases same
      exact ⟨_, _, _, h, looked, silent⟩
    · exact ih earlier

/-- Where a journal notes an end, the host has told it. -/
def Told (host : Host σ) (begun : σ) (role : Role) (exit : Exit) (journal : List Action) : Prop :=
  ∃ earlier later before after, journal = earlier ++ .ended role exit :: later ∧
    host.BearsOut begun earlier before ∧ host.Tells before (some (role, exit)) after

theorem Told.append {exit : Exit} (h : host.Told begun role exit journal) (more : List Action) :
    host.Told begun role exit (journal ++ more) := by
  obtain ⟨earlier, later, before, after, rfl, rest⟩ := h
  exact ⟨earlier, later ++ more, before, after, by simp, rest⟩

/-- An end that was noted of a process that was not killed is one that the host has told. -/
theorem BearsOut.told (h : host.BearsOut begun journal last) {exit : Exit}
    (noted : .ended role exit ∈ journal) (spared : .killed role ∉ journal) :
    host.Told begun role exit journal := by
  induction h with
  | nothing => cases noted
  | unlaunched _ _ _ ih => exact ih noted spared
  | silent _ _ ih => exact ih noted spared
  | entered _ _ ih | foundReady _ ih | launched _ _ ih | unreaped _ _ _ _ ih =>
    refine Told.append (ih ?_ fun there => spared (List.mem_append_left _ there)) _
    simpa using noted
  | @ended journal system after h role' exit' tells ih =>
    rcases List.mem_append.mp noted with noted | last
    · exact (ih noted fun there => spared (List.mem_append_left _ there)).append _
    · cases List.mem_singleton.mp last
      exact ⟨journal, [], system, after, rfl, h, tells⟩
  | @killed journal _ _ _ _ role' _ _ _ exit' _ ih =>
    rw [List.append_assoc] at noted spared ⊢
    have other : role ≠ role' := by
      rintro rfl
      simp at spared
    refine Told.append (ih ?_ fun there => spared (List.mem_append_left _ there)) _
    simpa [other] using noted

/-- A process that was launched can be killed and waited for after a look with a certain answer. -/
def ReapsAfter (host : Host σ) (begun : σ) (answer : Except Cause (Option Exit)) : Prop :=
  ∀ journal system role seen, host.BearsOut begun journal system → WasLaunched role journal →
    host.poll role system = (answer, seen) →
    ∃ exit after, host.reap role (host.kill role seen) = (.ok exit, after)

/-- A process that was launched can be killed and waited for where a look found it alive, and also
where a look failed. -/
structure Reaps (host : Host σ) (begun : σ) : Prop where
  alive : host.ReapsAfter begun (.ok none)
  unseen : ∀ cause, host.ReapsAfter begun (.error cause)

/-- A look at a process has failed, and after it was killed it could not be waited for. -/
def Loses (host : Host σ) (begun : σ) (role : Role) (journal : List Action) : Prop :=
  ∃ before after system seen last cause cause', journal = before ++ .killed role :: after ∧
    host.BearsOut begun before system ∧ host.poll role system = (.error cause, seen) ∧
    host.reap role (host.kill role seen) = (.error cause', last)

theorem Loses.append (h : host.Loses begun role journal) (more : List Action) :
    host.Loses begun role (journal ++ more) := by
  obtain ⟨before, after, system, seen, last, cause, cause', rfl, rest⟩ := h
  exact ⟨before, after ++ more, system, seen, last, cause, cause', by simp, rest⟩

end Host

end ProfilingSession
