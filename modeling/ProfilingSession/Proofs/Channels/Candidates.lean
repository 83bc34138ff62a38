import ProfilingSession.Proofs.Channels.Release
import ProfilingSession.Proofs.Channels.Stages
import ProfilingSession.Proofs.FileTree.Agreement

/-!
# Which candidate is reserved

An id is passed over if it is `Taken`: its segment is there or its marker is, or its segment turns
up once the marker is made, as a link can that leads nowhere before. What an attempt does depends
on this only, and on whether the marker can be made. So of a number of candidates the first one that
is not taken decides: its marker is all that is new then, and otherwise nothing is.

`acquire` is `reserve` with the files that are left also when nothing is reserved.
-/

namespace ProfilingSession.Channels

open FileTree (AgreeBut Cause Location Node Path)

variable {tree left before after a b marked : FileTree} {owner id : Nat} {candidates : Nat → Nat}

def mark (channels : Channels) (owner id : Nat) (tree : FileTree) : Except Cause FileTree :=
  tree.createFile (channels.marker id) (markerText owner).toUTF8

def Taken (channels : Channels) (owner id : Nat) (tree : FileTree) : Prop :=
  tree.hasNode (channels.segment id) = true ∨ tree.hasEntry (channels.marker id) = true ∨
    ∃ marked, channels.mark owner id tree = .ok marked ∧
      marked.hasNode (channels.segment id) = true

/-- The marker of an id is new, and nothing else is. -/
def Marked (channels : Channels) (owner id : Nat) (before after : FileTree) : Prop :=
  ∃ location, before.Names (channels.marker id) location (markerName id) ∧
    before.entry? location (markerName id) = none ∧
    after.entry? location (markerName id) =
      some (.file Node.newMode (markerText owner).toUTF8) ∧
    AgreeBut {location ++ [markerName id]} after before

/-- As `reserveFrom`, with the files that are left in any case. -/
def acquireFrom (channels : Channels) (owner : Nat) (candidates : Nat → Nat) (tree : FileTree)
    (done : Nat) : Nat → FileTree × Except ChannelFault Slot
  | 0 => (tree, .error (.exhausted channels.low channels.high done))
  | more + 1 =>
    match channels.attempt owner (candidates done) tree with
    | .reserved tree => (tree, .ok (channels.slot (candidates done)))
    | .inUse tree => channels.acquireFrom owner candidates tree (done + 1) more
    | .failed cause => (tree, .error (.unmarkable (channels.marker (candidates done)) cause))

/-- As `reserve`, with the files that are left in any case. -/
def acquire (channels : Channels) (owner : Nat) (candidates : Nat → Nat) (tree : FileTree) :
    FileTree × Except ChannelFault Slot :=
  if channels.high < channels.low then
    (tree, .error (.exhausted channels.low channels.high 0))
  else channels.acquireFrom owner candidates tree 0 channels.attempts

variable (channels : Channels)

theorem acquireFrom_succ (owner : Nat) (candidates : Nat → Nat) (tree : FileTree)
    (done more : Nat) :
    channels.acquireFrom owner candidates tree done (more + 1) =
      match channels.attempt owner (candidates done) tree with
      | .reserved tree => (tree, .ok (channels.slot (candidates done)))
      | .inUse tree => channels.acquireFrom owner candidates tree (done + 1) more
      | .failed cause =>
        (tree, .error (.unmarkable (channels.marker (candidates done)) cause)) := by
  rfl

theorem reserveFrom_eq (owner : Nat) (candidates : Nat → Nat) (tree : FileTree)
    (done more : Nat) :
    channels.reserveFrom owner candidates tree done more =
      let acquired := channels.acquireFrom owner candidates tree done more
      acquired.2.map fun slot => (slot, acquired.1) := by
  induction more generalizing tree done with
  | zero => rfl
  | succ more ih =>
    rw [reserveFrom_succ, acquireFrom_succ]
    cases channels.attempt owner (candidates done) tree with
    | reserved _ => rfl
    | inUse left => exact ih left (done + 1)
    | failed _ => rfl

theorem reserve_eq (owner : Nat) (candidates : Nat → Nat) (tree : FileTree) :
    channels.reserve owner candidates tree =
      let acquired := channels.acquire owner candidates tree
      acquired.2.map fun slot => (slot, acquired.1) := by
  unfold reserve acquire
  split
  · rfl
  · exact reserveFrom_eq channels owner candidates tree 0 channels.attempts

variable {channels}

theorem mark_eq_present_iff :
    channels.mark owner id tree = .error .present ↔
      tree.hasEntry (channels.marker id) = true :=
  FileTree.createFile_eq_present_iff (channels.endsIn_marker id) _

theorem marked_of_mark (ok : channels.mark owner id tree = .ok marked)
    (same : AgreeBut ∅ after marked) : channels.Marked owner id tree after := by
  obtain ⟨location, named, -, absent, -, rfl⟩ :=
    FileTree.Names.of_createFile (channels.endsIn_marker id) ok
  obtain ⟨mode, entries, found⟩ := named.exists_directory
  refine ⟨location, named, absent, ?_, ?_⟩
  · have alike : (after.entry? location (markerName id)).map Node.bare = _ := same.entry? (by simp)
    rw [FileTree.entry?_setEntry_same _ found, Option.map_some, Option.map_eq_some_iff] at alike
    obtain ⟨node, there, bare⟩ := alike
    rw [there, Node.bare_eq_file_iff.mp bare]
  · exact (same.mono (Set.empty_subset _)).trans
      (FileTree.agreeBut_setEntry _ found (markerName id))

namespace Taken

theorem of_agree (h : channels.Taken owner id a) (same : AgreeBut ∅ a b) :
    channels.Taken owner id b := by
  rcases h with segment | marker | ⟨marked, ok, segment⟩
  · exact .inl (same.hasNode_eq _ ▸ segment)
  · exact .inr (.inl (same.hasEntry_eq (channels.endsIn_marker id) ▸ marker))
  · rcases same.createFile_cases (channels.endsIn_marker id) (markerText owner).toUTF8 with
      ⟨cause, failed, -⟩ | ⟨made, made', ok', ok'', same'⟩
    · cases ok.symm.trans failed
    · cases ok.symm.trans ok'
      exact .inr (.inr ⟨made', ok'', same'.hasNode_eq _ ▸ segment⟩)

/-- An id that is taken is passed over, and no file is changed. -/
theorem attempt_eq (h : channels.Taken owner id tree) :
    ∃ left, channels.attempt owner id tree = .inUse left ∧ AgreeBut ∅ left tree := by
  by_cases segment : tree.hasNode (channels.segment id) = true
  · exact ⟨tree, by simp [attempt, segment], .refl ∅ tree⟩
  rcases h with there | marker | ⟨marked, ok, appeared⟩
  · exact absurd there segment
  · exact ⟨tree, attempt_of_hasEntry channels owner id marker, .refl ∅ tree⟩
  · -- The segment was seen after the marker was made, which is taken back.
    obtain ⟨left, removed, same⟩ :=
      FileTree.exists_removeFile_of_createFile (channels.endsIn_marker id) ok
    have undone := removeIfThere_eq_ok_iff.mpr (.inl removed)
    refine ⟨left, ?_, same⟩
    unfold mark at ok
    rw [attempt, if_neg segment, ok]
    simp [appeared, undone, Except.toOption]

end Taken

/-- An id that is not taken is reserved, unless its marker cannot be made. -/
theorem attempt_of_free (free : ¬ channels.Taken owner id tree) :
    (∃ marked, channels.mark owner id tree = .ok marked ∧
      channels.attempt owner id tree = .reserved marked) ∨
    ∃ cause, channels.mark owner id tree = .error cause ∧ cause ≠ .present ∧
      channels.attempt owner id tree = .failed cause := by
  simp only [Taken, not_or, not_exists, not_and] at free
  obtain ⟨segment, marker, appears⟩ := free
  unfold attempt
  rw [if_neg segment]
  cases made : channels.mark owner id tree with
  | ok marked =>
    have unseen := appears marked made
    unfold mark at made
    exact .inl ⟨marked, rfl, by rw [made]; exact if_neg unseen⟩
  | error cause =>
    have other : cause ≠ .present := by
      rintro rfl
      exact marker (mark_eq_present_iff.mp made)
    unfold mark at made
    refine .inr ⟨cause, rfl, other, ?_⟩
    rw [made]
    split
    · next same => cases same
    · next same => exact absurd (Except.error.inj same) other
    · next same => rw [Except.error.inj same]

theorem attempt_eq_reserved_iff :
    channels.attempt owner id tree = .reserved marked ↔
      ¬ channels.Taken owner id tree ∧ channels.mark owner id tree = .ok marked := by
  by_cases taken : channels.Taken owner id tree
  · obtain ⟨left, passed, -⟩ := taken.attempt_eq
    simp [passed, taken]
  · rcases attempt_of_free taken with ⟨made, ok, reserved⟩ | ⟨cause, failed, -, stopped⟩
    · simp [ok, reserved, taken]
    · simp [failed, stopped]

theorem acquireFrom_of_taken (done : Nat) {more : Nat} (same : AgreeBut ∅ left tree)
    (taken : ∀ k < more, channels.Taken owner (candidates (done + k)) tree) :
    ∃ after, channels.acquireFrom owner candidates left done more =
        (after, .error (.exhausted channels.low channels.high (done + more))) ∧
      AgreeBut ∅ after tree := by
  induction more generalizing left done with
  | zero => exact ⟨left, rfl, same⟩
  | succ more ih =>
    obtain ⟨next, passed, same'⟩ := ((taken 0 (by omega)).of_agree same.symm).attempt_eq
    obtain ⟨after, acquired, same''⟩ := ih (done + 1) (same'.trans same) fun k less => by
      rw [Nat.add_assoc, Nat.add_comm 1 k]
      exact taken (k + 1) (by omega)
    refine ⟨after, ?_, same''⟩
    rw [acquireFrom_succ,
      show channels.attempt owner (candidates done) left = .inUse next from passed,
      ← Nat.add_assoc, Nat.add_right_comm]
    exact acquired

/-- What is left of a search whose candidate `id` is the first one that is not taken. -/
inductive Decided (channels : Channels) (owner id : Nat) (tree : FileTree) :
    FileTree × Except ChannelFault Slot → Prop
  | reserved {marked after : FileTree} (made : channels.mark owner id tree = .ok marked)
    (marks : channels.Marked owner id tree after) :
    Decided channels owner id tree (after, .ok (channels.slot id))
  | failed {after : FileTree} {cause : Cause} (failed : channels.mark owner id tree = .error cause)
    (other : cause ≠ .present) (same : AgreeBut ∅ after tree) :
    Decided channels owner id tree (after, .error (.unmarkable (channels.marker id) cause))

theorem acquireFrom_of_free (done : Nat) {more k : Nat} (less : k < more)
    (same : AgreeBut ∅ left tree)
    (taken : ∀ j < k, channels.Taken owner (candidates (done + j)) tree)
    (free : ¬ channels.Taken owner (candidates (done + k)) tree) :
    channels.Decided owner (candidates (done + k)) tree
      (channels.acquireFrom owner candidates left done more) := by
  -- What was passed over has left a tree that may list its entries in another order.
  induction more generalizing left done k with
  | zero => omega
  | succ more ih =>
    rw [acquireFrom_succ]
    cases k with
    | zero =>
      have free' : ¬ channels.Taken owner (candidates done) left := fun h => free (h.of_agree same)
      have same' := same.createFile_cases (channels.endsIn_marker (candidates done))
        (markerText owner).toUTF8
      rcases attempt_of_free free' with ⟨marked, ok, reserved⟩ | ⟨cause, failed, other, stopped⟩
      · rw [reserved]
        rcases same' with ⟨cause, failed, -⟩ | ⟨made, made', ok', ok'', alike⟩
        · cases ok.symm.trans failed
        · cases ok.symm.trans ok'
          exact .reserved ok'' (marked_of_mark ok'' alike)
      · rw [stopped]
        rcases same' with ⟨cause', failed', failed''⟩ | ⟨made, made', ok', -, -⟩
        · cases failed.symm.trans failed'
          exact .failed failed'' other same
        · cases failed.symm.trans ok'
    | succ k =>
      obtain ⟨next, passed, same'⟩ := ((taken 0 (by omega)).of_agree same.symm).attempt_eq
      rw [show channels.attempt owner (candidates done) left = .inUse next from passed]
      have shift (j : Nat) : done + (j + 1) = done + 1 + j := by omega
      rw [shift] at free ⊢
      exact ih (done + 1) (by omega) (same'.trans same)
        (fun j less => by rw [← shift]; exact taken (j + 1) (by omega)) free

/-- What the system takes as the path of a marker it takes as that of the segment. -/
theorem checkPath_segment (channels : Channels)
    (h : FileTree.checkPath (channels.marker id) = .ok ()) :
    FileTree.checkPath (channels.segment id) = .ok () := by
  have shape : channels.marker id = channels.segment id ++ ".lock" := by
    have relative {name : String} (isName : IsName name) : Path.isAbsolute name = false :=
      Path.isAbsolute_of_not_mem isName.slash_not_mem
    unfold marker segment Path.join
    rw [relative (isName_segmentName id), relative (isName_markerName id)]
    split
    · rfl
    · split <;> simp [markerName, String.append_assoc]
  rw [shape] at h
  refine FileTree.checkPath_of_append (fun empty => ?_) h
  have ends := (channels.endsIn_segment id).route_eq
  rw [empty] at ends
  obtain ⟨above, shape⟩ := ends
  simp [Path.route, Path.pieces] at shape

/-- The segment of an id is beside its marker. -/
theorem names_segment (channels : Channels) {location : Location}
    (h : tree.Names (channels.marker id) location (markerName id)) :
    tree.Names (channels.segment id) location (segmentName id) := by
  have fits := (FileTree.names_iff.mp h).1
  have isName := isName_segmentName id
  have isName' := isName_markerName id
  exact h.join_of_join isName'.slash_not_mem (isName'.ne_of_not_mem (by decide))
    isName.slash_not_mem (isName.ne_of_not_mem (by decide)) (isName.ne_of_not_mem (by decide))
    (isName.ne_of_not_mem (by decide)) (checkPath_segment channels fits)

theorem hasNode_segment_of_mark (plain : tree.hasLink (channels.segment id) = false)
    (ok : channels.mark owner id tree = .ok marked) :
    marked.hasNode (channels.segment id) = tree.hasNode (channels.segment id) := by
  obtain ⟨location, named, checked, absent, -, rfl⟩ :=
    FileTree.Names.of_createFile (channels.endsIn_marker id) ok
  obtain ⟨mode, entries, found⟩ := named.exists_directory
  have beside := names_segment channels named
  have beside' := (FileTree.partOf_setEntry found absent
    (some (.file Node.newMode (markerText owner).toUTF8))).names beside
  have checked' : FileTree.checkName (segmentName id) = .ok () :=
    FileTree.checkName_of_append checked
  have noLink (target : String) :
      tree.entry? location (segmentName id) ≠ some (.link target) := by
    intro there
    have named : tree.place (channels.segment id) = _ := beside
    simp [FileTree.hasLink, FileTree.entry, named, checked', there, bind, Except.bind] at plain
  have kept : FileTree.entry? (tree.setEntry location (markerName id)
      (some (.file Node.newMode (markerText owner).toUTF8))) location (segmentName id) =
      tree.entry? location (segmentName id) :=
    FileTree.entry?_setEntry_of_ne _ (segmentName_ne_markerName id id)
  rw [beside'.hasNode_eq checked' (by rwa [kept]), beside.hasNode_eq checked' noLink, kept]

/-- An id whose segment is no link is taken if its segment or its marker is there. -/
theorem taken_iff (plain : tree.hasLink (channels.segment id) = false) :
    channels.Taken owner id tree ↔
      tree.hasNode (channels.segment id) = true ∨ tree.hasEntry (channels.marker id) = true := by
  constructor
  · rintro (segment | marker | ⟨marked, ok, appeared⟩)
    · exact .inl segment
    · exact .inr marker
    · exact .inl (hasNode_segment_of_mark plain ok ▸ appeared)
  · rintro (segment | marker)
    · exact .inl segment
    · exact .inr (.inl marker)

theorem acquire_eq (channels : Channels) (range : channels.low ≤ channels.high) (owner : Nat)
    (candidates : Nat → Nat) (tree : FileTree) :
    channels.acquire owner candidates tree =
      channels.acquireFrom owner candidates tree 0 channels.attempts :=
  if_neg (by omega)

theorem acquire_of_taken (channels : Channels) (range : channels.low ≤ channels.high)
    (taken : ∀ k < channels.attempts, channels.Taken owner (candidates k) tree) :
    ∃ after, channels.acquire owner candidates tree =
        (after, .error (.exhausted channels.low channels.high channels.attempts)) ∧
      AgreeBut ∅ after tree := by
  have all := acquireFrom_of_taken 0 (.refl ∅ tree) (by simpa using taken)
  rwa [Nat.zero_add, ← acquire_eq channels range] at all

theorem acquire_of_free (channels : Channels) (range : channels.low ≤ channels.high) {k : Nat}
    (less : k < channels.attempts)
    (taken : ∀ j < k, channels.Taken owner (candidates j) tree)
    (free : ¬ channels.Taken owner (candidates k) tree) :
    channels.Decided owner (candidates k) tree (channels.acquire owner candidates tree) := by
  have first := acquireFrom_of_free 0 less (.refl ∅ tree) (by simpa using taken)
    (by simpa using free)
  rwa [Nat.zero_add, ← acquire_eq channels range] at first

theorem taken_or_first_free (channels : Channels) (owner : Nat) (candidates : Nat → Nat)
    (tree : FileTree) (budget : Nat) :
    (∀ k < budget, channels.Taken owner (candidates k) tree) ∨
      ∃ k < budget, (∀ j < k, channels.Taken owner (candidates j) tree) ∧
        ¬ channels.Taken owner (candidates k) tree := by
  induction budget with
  | zero => exact .inl nofun
  | succ budget ih =>
    rcases ih with all | ⟨k, less, before, free⟩
    · by_cases last : channels.Taken owner (candidates budget) tree
      · refine .inl fun k less => ?_
        rcases Nat.lt_succ_iff_lt_or_eq.mp less with less | rfl
        · exact all k less
        · exact last
      · exact .inr ⟨budget, by omega, all, last⟩
    · exact .inr ⟨k, by omega, before, free⟩

theorem agree_of_acquire_error {fault : ChannelFault}
    (failed : (channels.acquire owner candidates tree).2 = .error fault) :
    AgreeBut ∅ (channels.acquire owner candidates tree).1 tree := by
  by_cases range : channels.low ≤ channels.high
  · rcases taken_or_first_free channels owner candidates tree channels.attempts with
      all | ⟨k, less, before, free⟩
    · obtain ⟨after, acquired, same⟩ := acquire_of_taken channels range all
      rwa [acquired]
    · have decided := acquire_of_free channels range less before free
      generalize channels.acquire owner candidates tree = acquired at decided failed
      cases decided with
      | reserved _ _ => cases failed
      | failed _ _ same => exact same
  · rw [acquire, if_pos (by omega)]
    exact .refl ∅ tree

/-- A slot that was reserved is that of an id which was not taken, and its marker is new. -/
theorem marked_of_acquire {slot : Slot}
    (acquired : (channels.acquire owner candidates tree).2 = .ok slot) :
    ∃ id, slot = channels.slot id ∧ ¬ channels.Taken owner id tree ∧
      (∃ marked, channels.mark owner id tree = .ok marked) ∧
      channels.Marked owner id tree (channels.acquire owner candidates tree).1 := by
  have range : channels.low ≤ channels.high := by
    by_contra empty
    rw [acquire, if_pos (by omega)] at acquired
    cases acquired
  rcases taken_or_first_free channels owner candidates tree channels.attempts with
    all | ⟨k, less, before, free⟩
  · obtain ⟨after, failed, -⟩ := acquire_of_taken channels range all
    rw [failed] at acquired
    cases acquired
  · have decided := acquire_of_free channels range less before free
    refine ⟨candidates k, ?_⟩
    generalize channels.acquire owner candidates tree = result at decided acquired
    cases decided with
    | reserved made marks =>
      cases acquired
      exact ⟨rfl, free, ⟨_, made⟩, marks⟩
    | failed _ _ _ => cases acquired

theorem exists_attempt_of_reserve {slot : Slot} {files : FileTree}
    (reserved : channels.reserve owner candidates tree = .ok (slot, files)) :
    ∃ id before, slot = channels.slot id ∧
      channels.attempt owner id before = .reserved files := by
  have from' (done more : Nat) {tree : FileTree}
      (reserved : channels.reserveFrom owner candidates tree done more = .ok (slot, files)) :
      ∃ id before, slot = channels.slot id ∧
        channels.attempt owner id before = .reserved files := by
    induction more generalizing tree done with
    | zero => cases reserved
    | succ more ih =>
      rw [reserveFrom_succ] at reserved
      cases outcome : channels.attempt owner (candidates done) tree with
      | reserved marked =>
        rw [outcome] at reserved
        cases reserved
        exact ⟨candidates done, tree, rfl, outcome⟩
      | inUse left =>
        rw [outcome] at reserved
        exact ih (done + 1) reserved
      | failed cause =>
        rw [outcome] at reserved
        cases reserved
  unfold reserve at reserved
  split at reserved
  · cases reserved
  · exact from' 0 channels.attempts reserved

theorem files_of_reserve {slot : Slot} {files : FileTree}
    (reserved : channels.reserve owner candidates tree = .ok (slot, files)) :
    files.hasNode slot.segment = false ∧ files.hasEntry slot.marker = true := by
  obtain ⟨id, before, rfl, attempted⟩ := exists_attempt_of_reserve reserved
  obtain ⟨free, made⟩ := attempt_eq_reserved_iff.mp attempted
  refine ⟨?_, FileTree.hasEntry_of_createFile (channels.endsIn_marker id) made⟩
  rw [← Bool.not_eq_true]
  exact fun there => free (.inr (.inr ⟨files, made, there⟩))

/-- Whatever files there are, and whatever candidates are drawn: with ids to choose from, at most as
many candidates are looked at as was asked for, and at least one, and the first one that is not
taken decides; it is reserved, with its marker as all that is new, unless the marker cannot be made
for some cause that is told then. If all are taken, or if there are no ids, that is told, and
whenever nothing is reserved the files are as before. So with all ids of the range taken nothing is
reserved, and with none the first candidate decides. An id is taken if its segment or its marker is
there, and only then unless the segment is a link. -/
theorem acquire_first_free (directory : Path) (low high attempts owner : Nat)
    (candidates : Nat → Nat) (tree : FileTree) :
    let channels := ((inDirectory directory).withRange low high).withAttempts attempts
    let taken id := channels.Taken owner id tree
    let budget := max attempts 1
    let acquired := channels.acquire owner candidates tree
    channels.reserve owner candidates tree = acquired.2.map (fun slot => (slot, acquired.1)) ∧
    (high < low → acquired = (tree, .error (.exhausted low high 0))) ∧
    (low ≤ high →
      ((∀ k < budget, taken (candidates k)) →
        acquired.2 = .error (.exhausted low high budget)) ∧
      (∀ k < budget, (∀ j < k, taken (candidates j)) → ¬ taken (candidates k) →
        channels.Decided owner (candidates k) tree acquired)) ∧
    (∀ fault, acquired.2 = .error fault → AgreeBut ∅ acquired.1 tree) ∧
    ((∀ k, low ≤ candidates k ∧ candidates k ≤ high) →
      ((∀ id, low ≤ id → id ≤ high → taken id) →
        acquired.2 = .error (.exhausted low high budget)) ∧
      ((∀ id, low ≤ id → id ≤ high → ¬ taken id) →
        channels.Decided owner (candidates 0) tree acquired)) ∧
    ∀ id,
      (tree.hasNode (channels.segment id) = true ∨ tree.hasEntry (channels.marker id) = true →
        taken id) ∧
      (tree.hasLink (channels.segment id) = false → taken id →
        tree.hasNode (channels.segment id) = true ∨
          tree.hasEntry (channels.marker id) = true) := by
  intro channels taken budget acquired
  have exhausted (range : low ≤ high) (all : ∀ k < budget, taken (candidates k)) :
      acquired.2 = .error (.exhausted low high budget) := by
    obtain ⟨after, same, -⟩ := acquire_of_taken channels range all
    exact congrArg Prod.snd same
  have decided (range : low ≤ high) (k : Nat) (less : k < budget)
      (before : ∀ j < k, taken (candidates j)) (free : ¬ taken (candidates k)) :
      channels.Decided owner (candidates k) tree acquired :=
    acquire_of_free channels range less before free
  have nonempty (drawn : ∀ k, low ≤ candidates k ∧ candidates k ≤ high) : low ≤ high :=
    (drawn 0).1.trans (drawn 0).2
  refine ⟨reserve_eq channels owner candidates tree, fun empty => if_pos empty,
    fun range => ⟨exhausted range, decided range⟩, fun fault => agree_of_acquire_error,
    fun drawn => ⟨fun all => ?_, fun none => ?_⟩, fun id => ⟨?_, fun plain => (taken_iff plain).mp⟩⟩
  · exact exhausted (nonempty drawn) fun k _ => all _ (drawn k).1 (drawn k).2
  · exact decided (nonempty drawn) 0 (by omega) (by omega) (none _ (drawn 0).1 (drawn 0).2)
  · rintro (segment | marker)
    · exact .inl segment
    · exact .inr (.inl marker)

/-- Neither the segment nor the marker of an id has to be there for the id not to be reserved: the
directory may be missing, and the segment may be a link to the marker. -/
theorem acquire_fails_with_none_there :
    let missing : Channels := ((inDirectory "nodir").withRange 5 5).withAttempts 3
    let empty : FileTree := ⟨.directory 0o755 [], []⟩
    let shared : Channels := ((inDirectory "shm").withRange 5 5).withAttempts 3
    let linked : FileTree :=
      ⟨.directory 0o755
        [("shm", .directory 0o755 [("slamp_queue_5", .link "slamp_queue_5.lock")])], []⟩
    empty.hasNode (missing.segment 5) = false ∧ empty.hasEntry (missing.marker 5) = false ∧
    missing.reserve 12 missing.inTurn empty =
      .error (.unmarkable "nodir/slamp_queue_5.lock" .absent) ∧
    linked.hasNode (shared.segment 5) = false ∧ linked.hasEntry (shared.marker 5) = false ∧
    shared.reserve 12 shared.inTurn linked = .error (.exhausted 5 5 3) :=
  ⟨rfl, rfl, rfl, rfl, rfl, rfl⟩

end ProfilingSession.Channels
