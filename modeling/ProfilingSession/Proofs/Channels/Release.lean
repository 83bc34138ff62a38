import ProfilingSession.Proofs.Channels.Namespace
import ProfilingSession.Proofs.FileTree.Removal

/-!
# Giving up a reservation

A slot has a segment, which the consumer may have left, and a marker, which reserves its id. When
the segment can be removed, `release` and `abandon` leave the same tree, in which the marker is
only if it could not be removed. When it cannot be, as a directory cannot, `release` goes no further
and the marker stays, and with it the reservation; `abandon` still removes it.

Nothing is asked of the path of the shared directory: it may go through links, even through the
segment.
-/

namespace ProfilingSession

open FileTree (Cause Path PartOf)

variable {left tree : FileTree} {path : Path} {name : String} {cause : Cause}

namespace Channels

theorem IsName.endsIn (h : IsName name) (directory : Path) :
    (Path.join directory name).EndsIn name :=
  Path.endsIn_join directory h.slash_not_mem (h.ne_of_not_mem (by decide))
    (h.ne_of_not_mem (by decide)) (h.ne_of_not_mem (by decide))

theorem endsIn_segment (channels : Channels) (id : Nat) :
    (channels.segment id).EndsIn (segmentName id) :=
  (isName_segmentName id).endsIn channels.directory

theorem endsIn_marker (channels : Channels) (id : Nat) :
    (channels.marker id).EndsIn (markerName id) :=
  (isName_markerName id).endsIn channels.directory

/-- What is left when a file was removed, if there was one, is part of the tree. -/
theorem partOf_of_removeIfThere (ok : removeIfThere tree path = .ok left) : PartOf left tree := by
  rcases removeIfThere_eq_ok_iff.mp ok with removed | ⟨-, rfl⟩
  · exact FileTree.partOf_of_removeFile removed
  · exact .refl tree

theorem hasEntry_of_removeIfThere (h : path.EndsIn name)
    (ok : removeIfThere tree path = .ok left) : left.hasEntry path = false := by
  rcases removeIfThere_eq_ok_iff.mp ok with removed | ⟨absent, rfl⟩
  · exact FileTree.hasEntry_of_removeFile h removed
  · exact FileTree.hasEntry_of_removeFile_absent h absent

/-- A tree after an attempt to remove a file. -/
def without (tree : FileTree) (path : Path) : FileTree :=
  (removeIfThere tree path).toOption.getD tree

theorem without_of_ok (ok : removeIfThere tree path = .ok left) : without tree path = left := by
  rw [without, ok]
  rfl

theorem without_of_error (failed : removeIfThere tree path = .error cause) :
    without tree path = tree := by
  rw [without, failed]
  rfl

theorem partOf_without (tree : FileTree) (path : Path) : PartOf (without tree path) tree := by
  cases removed : removeIfThere tree path with
  | error cause => rw [without_of_error removed]; exact .refl tree
  | ok left => rw [without_of_ok removed]; exact partOf_of_removeIfThere removed

/-- What was in a tree is gone if it could be removed from what is left of the tree, and only
then. -/
theorem hasEntry_without_iff (part : PartOf left tree) (h : path.EndsIn name) :
    (without left path).hasEntry path = false ↔
      tree.hasEntry path = false ∨ (removeIfThere left path).isOk = true := by
  cases removed : removeIfThere left path with
  | ok less =>
    rw [without_of_ok removed, hasEntry_of_removeIfThere h removed]
    simp [Except.isOk, Except.toBool]
  | error cause =>
    obtain ⟨failed, present⟩ := removeIfThere_eq_error_iff.mp removed
    rw [without_of_error removed]
    simp only [Except.isOk, Except.toBool, Bool.false_eq_true, or_false]
    rw [← Bool.not_eq_true, ← Bool.not_eq_true, not_iff_not]
    exact ⟨part.hasEntry h, fun there => part.hasEntry_of_removeFile h there present failed⟩

/-- An id whose marker is there is in use. -/
theorem attempt_of_hasEntry (channels : Channels) (owner id : Nat)
    (there : tree.hasEntry (channels.marker id) = true) :
    channels.attempt owner id tree = .inUse tree := by
  obtain ⟨directory, named⟩ := FileTree.Names.of_hasEntry (channels.endsIn_marker id) there
  obtain ⟨checked, found⟩ := named.hasEntry_iff.mp there
  obtain ⟨node, found⟩ := Option.ne_none_iff_exists'.mp found
  unfold attempt
  rw [named.createFile_of_entry _ checked found]
  split <;> rfl

end Channels

namespace Slot

open Channels

theorem abandon_eq (slot : Slot) (tree : FileTree) :
    slot.abandon tree = without (without tree slot.segment) slot.marker := rfl

/-- A slot whose segment can be removed is given up in the same way by both. -/
theorem release_of_ok {slot : Slot} (ok : removeIfThere tree slot.segment = .ok left) :
    (slot.release tree).1 = slot.abandon tree := by
  rw [abandon_eq, without_of_ok ok, release, ok]
  cases removed : removeIfThere left slot.marker with
  | error cause => simp [removed, without_of_error removed]
  | ok less => simp [removed, without_of_ok removed]

/-- A slot whose segment cannot be removed keeps its marker. -/
theorem release_of_error {slot : Slot} (failed : removeIfThere tree slot.segment = .error cause) :
    slot.release tree = (tree, .error cause) := by
  rw [release, failed]

/-- The marker is gone from an abandoned slot if it was not there or could be removed. -/
theorem hasEntry_abandon_iff (channels : Channels) (id : Nat) (tree : FileTree) :
    let slot := channels.slot id
    (slot.abandon tree).hasEntry slot.marker = false ↔
      tree.hasEntry slot.marker = false ∨
        (removeIfThere (without tree slot.segment) slot.marker).isOk = true :=
  hasEntry_without_iff (partOf_without tree (channels.segment id)) (channels.endsIn_marker id)

/-- The marker is gone from a released slot if it was not there, or if both files could be
removed. -/
theorem hasEntry_release_iff (channels : Channels) (id : Nat) (tree : FileTree) :
    let slot := channels.slot id
    (slot.release tree).1.hasEntry slot.marker = false ↔
      tree.hasEntry slot.marker = false ∨
        (removeIfThere tree slot.segment).isOk = true ∧
          (removeIfThere (without tree slot.segment) slot.marker).isOk = true := by
  intro slot
  cases removed : removeIfThere tree slot.segment with
  | ok left =>
    have isOk : (Except.ok left : Except Cause FileTree).isOk = true := rfl
    rw [release_of_ok removed, isOk, eq_self, true_and]
    exact hasEntry_abandon_iff channels id tree
  | error cause =>
    have isOk : ¬ (Except.error cause : Except Cause FileTree).isOk = true := nofun
    rw [release_of_error removed, iff_false_intro isOk, false_and, or_false]

theorem release_eq_abandon_iff (slot : Slot) (tree : FileTree) :
    (slot.release tree).1 = slot.abandon tree ↔
      (removeIfThere tree slot.segment).isOk = true ∨ slot.abandon tree = tree := by
  cases removed : removeIfThere tree slot.segment with
  | ok left => exact iff_of_true (release_of_ok removed) (.inl rfl)
  | error cause =>
    have isOk : ¬ (Except.error cause : Except Cause FileTree).isOk = true := nofun
    rw [release_of_error removed, iff_false_intro isOk, false_or, eq_comm]

/-- Once a slot is abandoned its marker is gone if it was not there or could be removed. Once it is
released that holds only if the segment could be removed before, and just then do both leave the
same tree, unless abandoning the slot would change nothing. A marker that is left keeps the id in
use, whoever asks for it. -/
theorem marker_of_release_and_abandon (channels : Channels) (id : Nat) (tree : FileTree) :
    let slot := channels.slot id
    let cleared := without tree slot.segment
    let released := (slot.release tree).1
    ((slot.abandon tree).hasEntry slot.marker = false ↔
        tree.hasEntry slot.marker = false ∨ (removeIfThere cleared slot.marker).isOk = true) ∧
      (released.hasEntry slot.marker = false ↔
        tree.hasEntry slot.marker = false ∨
          (removeIfThere tree slot.segment).isOk = true ∧
            (removeIfThere cleared slot.marker).isOk = true) ∧
      (released = slot.abandon tree ↔
        (removeIfThere tree slot.segment).isOk = true ∨ slot.abandon tree = tree) ∧
      (released.hasEntry slot.marker = false ∨
        ∀ owner, channels.attempt owner id released = .inUse released) := by
  intro slot cleared released
  have kept : released.hasEntry slot.marker = false ∨
      ∀ owner, channels.attempt owner id released = .inUse released := by
    cases there : released.hasEntry slot.marker with
    | false => exact .inl rfl
    | true => exact .inr fun owner => attempt_of_hasEntry channels owner id there
  exact ⟨hasEntry_abandon_iff channels id tree, hasEntry_release_iff channels id tree,
    release_eq_abandon_iff slot tree, kept⟩

/-- A directory where the segment should be is such a case: the slot is released with a failure and
its marker is still there, though nothing would keep it from being removed; and when the directory
is gone there is no id to reserve. -/
theorem marker_stays_beside_directory :
    let channels : Channels := ⟨"/shm", 7, 7, 3⟩
    ∃ slot reserved tree cleaned,
      channels.reserve 12 channels.inTurn ⟨.directory 0o755 [("shm", .empty)], []⟩ =
        .ok (slot, reserved) ∧
      reserved.makeDirectory slot.segment = .ok tree ∧
      (slot.release tree).2 = .error .isDirectory ∧
      (slot.release tree).1.hasEntry slot.marker = true ∧
      (removeIfThere tree slot.marker).isOk = true ∧
      (slot.abandon tree).hasEntry slot.marker = false ∧
      (slot.release tree).1.removeDirectory slot.segment = .ok cleaned ∧
      channels.reserve 12 channels.inTurn cleaned = .error (.exhausted 7 7 3) :=
  ⟨_, _, _, _, rfl, rfl, rfl, rfl, rfl, rfl, rfl, rfl⟩

end Slot

end ProfilingSession
