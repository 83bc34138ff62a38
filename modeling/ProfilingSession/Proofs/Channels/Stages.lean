import ProfilingSession.Proofs.Channels.Namespace

/-!
# Sessions step by step

A session reserves an id and gives it up again by single steps on the files, between which other
sessions make theirs. `Stage` is how far it is, and `Stage.advance` makes one step. A session that
is alone does by these steps what `reserveFrom` does when it goes on from `drawing`, and what
`Slot.release` or `Slot.abandon` does when it goes on from `clearing`.

A step changes at most one file, the one that `Stage.touched?` names. A marker that is there stays
there unless the session made it itself (`present_marker_advance`), and a segment stays unless it
is that of the session's own slot (`present_segment_advance`). Removals may fail; then a marker is
left behind that no session goes by any more.
-/

namespace ProfilingSession.Channels

open FileTree (Cause Location Node Path)

theorem reserveFrom_succ (channels : Channels) (owner : Nat) (candidates : Nat → Nat)
    (tree : FileTree) (done left : Nat) :
    channels.reserveFrom owner candidates tree done (left + 1) =
      match channels.attempt owner (candidates done) tree with
      | .reserved tree => .ok (channels.slot (candidates done), tree)
      | .inUse tree => channels.reserveFrom owner candidates tree (done + 1) left
      | .failed cause => .error (.unmarkable (channels.marker (candidates done)) cause) := by
  rfl

/-- How far a session is with a channel. -/
inductive Stage where
  /-- It has none and wants none. -/
  | idle
  /-- It is to look at another candidate, of as many as are left. -/
  | drawing (left : Nat)
  /-- It saw no segment and is to make the marker. -/
  | marking (id left : Nat)
  /-- It made the marker and is to look for the segment again. -/
  | checking (id left : Nat)
  /-- It saw a segment then and is to take its marker back. -/
  | undoing (id left : Nat)
  | holding (id : Nat)
  /-- It is to remove the segment; if it is `forced` it goes on if it cannot. -/
  | clearing (id : Nat) (forced : Bool)
  /-- It is to remove the marker. -/
  | unmarking (id : Nat)
  deriving DecidableEq, Repr

namespace Stage

/-- The id whose marker the session made and did not remove yet: its reservation is pending, or it
has a slot. -/
def marked? : Stage → Option Nat
  | .checking id _ | .undoing id _ | .holding id | .clearing id _ | .unmarking id => some id
  | _ => none

/-- The id of the slot that the session has and did not give up yet. -/
def slot? : Stage → Option Nat
  | .holding id | .clearing id _ | .unmarking id => some id
  | _ => none

/-- The name of the file that the next step of a session makes or removes, if any. -/
def touched? : Stage → Option String
  | .marking id _ | .undoing id _ | .unmarking id => some (markerName id)
  | .clearing id _ => some (segmentName id)
  | _ => none

def look (channels : Channels) (candidate left : Nat) (tree : FileTree) : Stage :=
  if tree.hasNode (channels.segment candidate) then .drawing left else .marking candidate left

def mark (channels : Channels) (owner id left : Nat) (tree : FileTree) : Stage × FileTree :=
  match tree.createFile (channels.marker id) (markerText owner).toUTF8 with
  | .ok marked => (.checking id left, marked)
  | .error cause => (if cause = .present then .drawing left else .idle, tree)

/-- Looks for the segment again. -/
def check (channels : Channels) (id left : Nat) (tree : FileTree) : Stage :=
  if tree.hasNode (channels.segment id) then .undoing id left else .holding id

/-- Removes the segment, which ends the matter if it cannot be done and is not forced. -/
def clear (channels : Channels) (id : Nat) (forced : Bool) (tree : FileTree) : Stage × FileTree :=
  match removeIfThere tree (channels.segment id) with
  | .ok cleared => (.unmarking id, cleared)
  | .error _ => (if forced then .unmarking id else .idle, tree)

def unmark (channels : Channels) (id : Nat) (tree : FileTree) : FileTree :=
  (removeIfThere tree (channels.marker id)).toOption.getD tree

/-- The next step of a session, which draws a candidate if it is to look at one. -/
def advance (channels : Channels) (owner candidate : Nat) (tree : FileTree) :
    Stage → Stage × FileTree
  | .drawing 0 => (.idle, tree)
  | .drawing (left + 1) => (look channels candidate left tree, tree)
  | .marking id left => mark channels owner id left tree
  | .checking id left => (check channels id left tree, tree)
  | .undoing id left => (.drawing left, unmark channels id tree)
  | .clearing id forced => clear channels id forced tree
  | .unmarking id => (.idle, unmark channels id tree)
  | stage => (stage, tree)

theorem marked?_of_slot? {stage : Stage} {id : Nat} (h : stage.slot? = some id) :
    stage.marked? = some id := by
  cases stage <;> first | exact h | cases h

/-- A session alone, step by step. -/
def Moves (channels : Channels) (owner : Nat) : Stage × FileTree → Stage × FileTree → Prop :=
  Relation.ReflTransGen fun before after =>
    ∃ candidate, after = before.1.advance channels owner candidate before.2

theorem Moves.trans {channels : Channels} {owner : Nat} {before between after : Stage × FileTree}
    (h : Moves channels owner before between) (h' : Moves channels owner between after) :
    Moves channels owner before after :=
  Relation.ReflTransGen.trans h h'

/-- One step of a session alone. -/
theorem moves_advance (channels : Channels) (owner candidate : Nat) (stage : Stage)
    (tree : FileTree) :
    Moves channels owner (stage, tree) (stage.advance channels owner candidate tree) :=
  .single ⟨candidate, rfl⟩

variable (channels : Channels) (owner : Nat)

/-- What a session does with a candidate, alone, is an attempt to reserve it. -/
theorem moves_attempt (id left : Nat) (tree : FileTree) :
    Moves channels owner (.drawing (left + 1), tree)
      (match channels.attempt owner id tree with
        | .reserved after => (.holding id, after)
        | .inUse after => (.drawing left, after)
        | .failed _ => (.idle, tree)) := by
  have looks := moves_advance channels owner id (.drawing (left + 1)) tree
  have marks := moves_advance channels owner id (.marking id left) tree
  simp only [advance] at looks
  unfold look at looks
  simp only [advance] at marks
  unfold mark at marks
  cases seen : tree.hasNode (channels.segment id) with
  | true => simpa only [attempt, seen, if_true] using looks
  | false =>
    simp only [seen, Bool.false_eq_true, if_false] at looks
    refine looks.trans ?_
    simp only [attempt, seen, Bool.false_eq_true, if_false]
    cases made : tree.createFile (channels.marker id) (markerText owner).toUTF8 with
    | error cause =>
      simp only [made] at marks
      by_cases present : cause = .present
      · simpa only [present, if_true] using marks
      · simpa only [present, if_false] using marks
    | ok marked =>
      simp only [made] at marks
      refine marks.trans ?_
      have checks := moves_advance channels owner id (.checking id left) marked
      simp only [advance] at checks
      unfold check at checks
      cases appeared : marked.hasNode (channels.segment id) with
      | false => simpa only [appeared, Bool.false_eq_true, if_false] using checks
      | true =>
        have undoes := moves_advance channels owner id (.undoing id left) marked
        simp only [advance] at undoes
        unfold unmark at undoes
        simp only [appeared, if_true] at checks ⊢
        exact checks.trans undoes

/-- A session alone that reserves an id has the slot that `reserveFrom` gives, in the tree that it
gives; and one that does not is idle again. -/
theorem moves_reserveFrom (candidates : Nat → Nat) (done left : Nat) (tree : FileTree) :
    ∃ after, Moves channels owner (.drawing left, tree) after ∧
      match channels.reserveFrom owner candidates tree done left with
      | .ok (slot, made) => after = (.holding slot.id, made) ∧ slot = channels.slot slot.id
      | .error _ => after.1 = .idle := by
  induction left generalizing done tree with
  | zero => exact ⟨(.idle, tree), moves_advance channels owner 0 (.drawing 0) tree, rfl⟩
  | succ left ih =>
    have attempted := moves_attempt channels owner (candidates done) left tree
    rw [reserveFrom_succ]
    cases outcome : channels.attempt owner (candidates done) tree with
    | reserved made =>
      rw [outcome] at attempted
      exact ⟨_, attempted, rfl, rfl⟩
    | inUse next =>
      obtain ⟨after, moves, same⟩ := ih (done + 1) next
      rw [outcome] at attempted
      exact ⟨after, attempted.trans moves, same⟩
    | failed cause =>
      rw [outcome] at attempted
      exact ⟨_, attempted, rfl⟩

/-- A session alone that gives up its slot releases it. -/
theorem moves_release (id : Nat) (tree : FileTree) :
    Moves channels owner (.clearing id false, tree)
      (.idle, ((channels.slot id).release tree).1) := by
  have clears := moves_advance channels owner id (.clearing id false) tree
  simp only [advance] at clears
  unfold clear at clears
  unfold Slot.release
  simp only [slot]
  cases cleared : removeIfThere tree (channels.segment id) with
  | error cause => simpa [cleared] using clears
  | ok left =>
    simp only [cleared] at clears
    have unmarks := moves_advance channels owner id (.unmarking id) left
    simp only [advance] at unmarks
    unfold unmark at unmarks
    refine clears.trans ?_
    cases unmarked : removeIfThere left (channels.marker id) <;>
      simpa [unmarked, Except.toOption] using unmarks

/-- A session alone that is forced to give up its slot abandons it. -/
theorem moves_abandon (id : Nat) (tree : FileTree) :
    Moves channels owner (.clearing id true, tree)
      (.idle, (channels.slot id).abandon tree) := by
  have clears := moves_advance channels owner id (.clearing id true) tree
  simp only [advance] at clears
  unfold clear at clears
  unfold Slot.abandon
  simp only [slot]
  cases cleared : removeIfThere tree (channels.segment id) with
  | error cause =>
    simp only [cleared, if_true] at clears
    exact clears.trans (moves_advance channels owner id (.unmarking id) tree)
  | ok left =>
    simp only [cleared] at clears
    exact clears.trans (moves_advance channels owner id (.unmarking id) left)

variable {directory : Path} {location : Location} {tree : FileTree}

theorem unmark_cases (shared : Namespace directory location tree)
    (same : channels.directory = directory) (id : Nat) :
    unmark channels id tree = tree ∨
      unmark channels id tree = tree.setEntry location (markerName id) none := by
  unfold unmark marker
  rw [same]
  cases removed : removeIfThere tree (Path.join directory (markerName id)) with
  | error cause => exact .inl rfl
  | ok left =>
    simp only [Except.toOption, Option.getD_some]
    exact removeIfThere_eq_ok shared (isName_markerName id) removed

/-- A step of a session changes the entry that it is about to make or remove, or nothing. -/
theorem advance_cases (shared : Namespace directory location tree)
    (same : channels.directory = directory) (candidate : Nat) (stage : Stage) :
    (stage.advance channels owner candidate tree).2 = tree ∨
      ∃ name value, stage.touched? = some name ∧ IsName name ∧
        (stage.advance channels owner candidate tree).2 = tree.setEntry location name value := by
  cases stage with
  | idle => exact .inl rfl
  | drawing left => cases left <;> exact .inl rfl
  | marking id left =>
    simp only [advance]
    unfold mark marker
    rw [same]
    cases made : tree.createFile (Path.join directory (markerName id))
        (markerText owner).toUTF8 with
    | error cause => exact .inl rfl
    | ok marked =>
      obtain ⟨-, -, set⟩ := createFile_eq_ok shared (isName_markerName id) made
      exact .inr ⟨_, _, rfl, isName_markerName id, set⟩
  | checking id left => exact .inl rfl
  | undoing id left =>
    simp only [advance]
    rcases unmark_cases channels shared same id with kept | removed
    · exact .inl kept
    · exact .inr ⟨_, _, rfl, isName_markerName id, removed⟩
  | holding id => exact .inl rfl
  | clearing id forced =>
    simp only [advance]
    unfold clear segment
    rw [same]
    cases removed : removeIfThere tree (Path.join directory (segmentName id)) with
    | error cause => exact .inl rfl
    | ok left =>
      rcases removeIfThere_eq_ok shared (isName_segmentName id) removed with kept | set
      · exact .inl kept
      · exact .inr ⟨_, _, rfl, isName_segmentName id, set⟩
  | unmarking id =>
    simp only [advance]
    rcases unmark_cases channels shared same id with kept | removed
    · exact .inl kept
    · exact .inr ⟨_, _, rfl, isName_markerName id, removed⟩

theorem edits_advance (shared : Namespace directory location tree)
    (same : channels.directory = directory) (candidate : Nat) (stage : Stage) :
    Edits location tree (stage.advance channels owner candidate tree).2 := by
  rcases advance_cases channels owner shared same candidate stage with
    kept | ⟨name, value, -, isName, set⟩
  · rw [kept]
    exact .refl
  · rw [set]
    exact edits_setEntry isName location tree value

/-- A step of a session leaves the files alone that it is not about to make or remove. -/
theorem entry?_advance (shared : Namespace directory location tree)
    (same : channels.directory = directory) (candidate : Nat) {stage : Stage} {name : String}
    (untouched : stage.touched? ≠ some name) :
    FileTree.entry? (stage.advance channels owner candidate tree).2 location name =
      tree.entry? location name := by
  rcases advance_cases channels owner shared same candidate stage with
    kept | ⟨other, value, touched, -, set⟩
  · rw [kept]
  · rw [set]
    refine FileTree.entry?_setEntry_of_ne value ?_
    rintro rfl
    exact untouched touched

theorem marked?_look (candidate left : Nat) :
    (look channels candidate left tree).marked? = none := by
  unfold look
  split <;> rfl

theorem marked?_check (id left : Nat) : (check channels id left tree).marked? = some id := by
  unfold check
  split <;> rfl

/-- Who begins to give up a slot goes on with its marker, or is done with it. -/
theorem marked?_clear {id other : Nat} {forced : Bool}
    (h : (clear channels other forced tree).1.marked? = some id) : other = id := by
  unfold clear at h
  split at h
  · exact Option.some.inj h
  · cases forced with
    | true => exact Option.some.inj h
    | false => cases h

/-- A session has made a marker where there was nothing, or has none. -/
theorem marked?_mark (shared : Namespace directory location tree)
    (same : channels.directory = directory) {id other left : Nat}
    (h : (mark channels owner other left tree).1.marked? = some id) :
    other = id ∧ tree.entry? location (markerName id) = none ∧
      Present directory location (markerName id) (mark channels owner other left tree).2 := by
  unfold mark marker at h ⊢
  rw [same] at h ⊢
  cases made : tree.createFile (Path.join directory (markerName other))
      (markerText owner).toUTF8 with
  | error cause =>
    rw [made] at h
    by_cases present : cause = .present <;> simp [present, marked?] at h
  | ok marked =>
    rw [made] at h
    obtain rfl : other = id := Option.some.inj h
    obtain ⟨absent, present, -⟩ := createFile_eq_ok shared (isName_markerName other) made
    exact ⟨rfl, absent, present⟩

/-- A session that has a marker after a step had it before and did not touch it, or has just made
it where there was nothing. -/
theorem marked?_advance (shared : Namespace directory location tree)
    (same : channels.directory = directory) {candidate id : Nat} {stage : Stage}
    (h : (stage.advance channels owner candidate tree).1.marked? = some id) :
    stage.marked? = some id ∧ stage.touched? ≠ some (markerName id) ∨
      tree.entry? location (markerName id) = none ∧
        Present directory location (markerName id)
          (stage.advance channels owner candidate tree).2 := by
  cases stage with
  | idle => cases h
  | drawing left =>
    cases left with
    | zero => cases h
    | succ left => simp only [advance, marked?_look, reduceCtorEq] at h
  | marking other left =>
    simp only [advance] at h ⊢
    exact .inr (marked?_mark channels owner shared same h).2
  | checking other left =>
    simp only [advance, marked?_check] at h
    exact .inl ⟨h, nofun⟩
  | undoing other left => cases h
  | holding other => exact .inl ⟨h, nofun⟩
  | clearing other forced =>
    simp only [advance] at h
    exact .inl ⟨congrArg some (marked?_clear channels h),
      fun touched => segmentName_ne_markerName other id (Option.some.inj touched)⟩
  | unmarking other => cases h

/-- A session that has a slot after a step had it before, or has just seen that there is no
segment. -/
theorem slot?_advance {candidate id : Nat} {stage : Stage}
    (h : (stage.advance channels owner candidate tree).1.slot? = some id) :
    stage.slot? = some id ∨ tree.hasNode (channels.segment id) = false := by
  have marked := marked?_of_slot? h
  cases stage with
  | idle => cases h
  | drawing left =>
    cases left with
    | zero => cases h
    | succ left => simp only [advance, marked?_look, reduceCtorEq] at marked
  | marking other left =>
    simp only [advance] at h
    unfold mark at h
    split at h
    · cases h
    · next cause _ => by_cases present : cause = .present <;> simp [present, slot?] at h
  | checking other left =>
    simp only [advance, check] at h
    split at h
    · cases h
    · next unseen =>
      obtain rfl : other = id := Option.some.inj h
      exact .inr (by simpa using unseen)
  | undoing other left => cases h
  | holding other => exact .inl h
  | clearing other forced =>
    simp only [advance] at marked
    exact .inl (congrArg some (marked?_clear channels marked))
  | unmarking other => cases h

/-- No step of a session takes away a marker that it did not make. -/
theorem present_marker_advance (shared : Namespace directory location tree)
    (same : channels.directory = directory) (candidate : Nat) {id : Nat} {stage : Stage}
    (present : Present directory location (markerName id) tree)
    (foreign : stage.marked? ≠ some id) :
    Present directory location (markerName id)
      (stage.advance channels owner candidate tree).2 := by
  by_cases touched : stage.touched? = some (markerName id)
  · -- The only step left that touches the marker is to make it, which fails since it is there.
    cases stage with
    | marking other left =>
      obtain rfl : other = id := markerName_injective (Option.some.inj touched)
      simp only [advance]
      unfold mark marker
      rw [same, present.createFile_eq shared (isName_markerName other)]
      exact present
    | undoing other left => exact absurd (congrArg some
        (markerName_injective (Option.some.inj touched))) foreign
    | unmarking other => exact absurd (congrArg some
        (markerName_injective (Option.some.inj touched))) foreign
    | clearing other forced =>
      exact absurd (Option.some.inj touched) (segmentName_ne_markerName other id)
    | _ => cases touched
  · exact present.of_entry?_eq (entry?_advance channels owner shared same candidate touched)

/-- No step of a session takes away a segment but that of its slot. -/
theorem present_segment_advance (shared : Namespace directory location tree)
    (same : channels.directory = directory) (candidate : Nat) {id : Nat} {stage : Stage}
    (present : Present directory location (segmentName id) tree)
    (foreign : stage.slot? ≠ some id) :
    Present directory location (segmentName id)
      (stage.advance channels owner candidate tree).2 := by
  refine present.of_entry?_eq (entry?_advance channels owner shared same candidate ?_)
  intro touched
  cases stage with
  | clearing other forced =>
    exact foreign (congrArg some (segmentName_injective (Option.some.inj touched)))
  | marking other left =>
    exact segmentName_ne_markerName id other (Option.some.inj touched).symm
  | undoing other left =>
    exact segmentName_ne_markerName id other (Option.some.inj touched).symm
  | unmarking other =>
    exact segmentName_ne_markerName id other (Option.some.inj touched).symm
  | _ => cases touched

end Stage

end ProfilingSession.Channels
