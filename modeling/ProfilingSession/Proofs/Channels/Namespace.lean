import Mathlib.Logic.Relation
import ProfilingSession.Channels
import ProfilingSession.Proofs.FileTree.Routes

/-!
# The directory that sessions share

Every id has a segment and a marker in the shared directory, and no name is that of two of them.
`Namespace directory location` says of a tree that the path `directory` leads to `location`, and
goes on to lead there however segments and markers come and go; a path without links and dots
does, if it is not too long. Making and removing one of these files is then a change of its entry,
and of nothing else.
-/

namespace ProfilingSession.Channels

open FileTree (Cause Location Node Path)

theorem toString_injective : Function.Injective (toString : Nat → String) := by
  intro i j h
  rw [Nat.toString_eq_ofList_toDigits, Nat.toString_eq_ofList_toDigits, String.ofList_inj] at h
  rw [← Nat.ofDigitChars_ten_toDigits (n := i), h, Nat.ofDigitChars_ten_toDigits]

theorem segmentName_injective : Function.Injective segmentName := by
  intro i j h
  exact toString_injective (by simpa [segmentName] using h)

theorem markerName_injective : Function.Injective markerName := by
  intro i j h
  exact segmentName_injective (by simpa [markerName] using h)

/-- No character of a segment's name is a dot or a slash. -/
theorem not_mem_segmentName {c : Char} (digit : c.isDigit = false)
    (h : c ∉ "slamp_queue_".toList) (id : Nat) : c ∉ (segmentName id).toList := by
  rw [segmentName, String.toList_append, List.mem_append, not_or]
  refine ⟨h, fun mem => ?_⟩
  rw [Nat.toString_eq_ofList_toDigits, String.toList_ofList] at mem
  simp [Nat.isDigit_of_mem_toDigits (by decide) (by decide) mem] at digit

theorem segmentName_ne_markerName (i j : Nat) : segmentName i ≠ markerName j := by
  intro h
  have dot : '.' ∈ (segmentName i).toList := by
    rw [h, markerName, String.toList_append]
    exact List.mem_append_right _ (by decide)
  exact not_mem_segmentName (by decide) (by decide) i dot

/-- The name of a segment or of a marker. -/
def IsName (name : String) : Prop :=
  ∃ id, name = segmentName id ∨ name = markerName id

theorem isName_segmentName (id : Nat) : IsName (segmentName id) := ⟨id, .inl rfl⟩

theorem isName_markerName (id : Nat) : IsName (markerName id) := ⟨id, .inr rfl⟩

namespace IsName

variable {name : String}

theorem slash_not_mem (h : IsName name) : '/' ∉ name.toList := by
  obtain ⟨id, rfl | rfl⟩ := h
  · exact not_mem_segmentName (by decide) (by decide) id
  · rw [markerName, String.toList_append, List.mem_append, not_or]
    exact ⟨not_mem_segmentName (by decide) (by decide) id, by decide⟩

theorem mem_s (h : IsName name) : 's' ∈ name.toList := by
  have prefix' : 's' ∈ "slamp_queue_".toList := by decide
  obtain ⟨id, rfl | rfl⟩ := h
  · rw [segmentName, String.toList_append]
    exact List.mem_append_left _ prefix'
  · rw [markerName, segmentName, String.toList_append, String.toList_append]
    exact List.mem_append_left _ (List.mem_append_left _ prefix')

theorem ne_of_not_mem {other : String} (h : IsName name) (plain : 's' ∉ other.toList) :
    name ≠ other := by
  rintro rfl
  exact plain h.mem_s

end IsName

/-- Segments and markers come and go. -/
def Edits (location : Location) : FileTree → FileTree → Prop :=
  Relation.ReflTransGen fun before after =>
    ∃ name value, IsName name ∧ after = before.setEntry location name value

theorem edits_setEntry {name : String} (h : IsName name) (location : Location) (tree : FileTree)
    (value : Option Node) : Edits location tree (tree.setEntry location name value) :=
  .single ⟨name, value, h, rfl⟩

/-- A path leads to a directory whatever segments and markers there are. -/
def Namespace (directory : Path) (location : Location) (tree : FileTree) : Prop :=
  ∀ edited, Edits location tree edited → ∀ name, IsName name →
    FileTree.checkPath (Path.join directory name) = .ok () →
      edited.Names (Path.join directory name) location name

variable {directory path : Path} {location : Location} {left tree : FileTree} {name : String}
variable {cause : Cause}

/-- A path of names of open directories is that of a shared directory. -/
theorem namespace_of_straight
    (h : FileTree.Straight tree.root (tree.start directory) (Path.route directory)) :
    Namespace directory (tree.start directory ++ Path.route directory) tree := by
  intro edited edits name isName fits
  obtain ⟨same, straight⟩ : edited.start directory = tree.start directory ∧
      FileTree.Straight edited.root (tree.start directory) (Path.route directory) := by
    induction edits with
    | refl => exact ⟨rfl, h⟩
    | tail _ edit ih =>
      obtain ⟨changed, value, -, rfl⟩ := edit
      exact ⟨ih.1, ih.2.set value changed []⟩
  rw [← same] at straight ⊢
  exact straight.names_join isName.slash_not_mem (isName.ne_of_not_mem (by decide))
    (isName.ne_of_not_mem (by decide)) (isName.ne_of_not_mem (by decide)) fits

namespace Namespace

theorem edits (h : Namespace directory location tree) {edited : FileTree}
    (e : Edits location tree edited) : Namespace directory location edited :=
  fun further e' => h further (e.trans e')

theorem names (h : Namespace directory location tree) (isName : IsName name)
    (fits : FileTree.checkPath (Path.join directory name) = .ok ()) :
    tree.Names (Path.join directory name) location name :=
  h tree .refl name isName fits

end Namespace

/-- There is a file of a name in the shared directory, which the system can be asked for. -/
structure Present (directory : Path) (location : Location) (name : String) (tree : FileTree) :
    Prop where
  pathFits : FileTree.checkPath (Path.join directory name) = .ok ()
  nameFits : FileTree.checkName name = .ok ()
  isFile : ∃ mode content, tree.entry? location name = some (.file mode content)

theorem Present.hasFile (h : Present directory location name tree)
    (shared : Namespace directory location tree) (isName : IsName name) :
    tree.hasFile (Path.join directory name) = true := by
  obtain ⟨mode, content, there⟩ := h.isFile
  exact (shared.names isName h.pathFits).hasFile h.nameFits there

theorem Present.of_entry?_eq {after : FileTree} (h : Present directory location name tree)
    (same : after.entry? location name = tree.entry? location name) :
    Present directory location name after :=
  ⟨h.pathFits, h.nameFits, by rw [same]; exact h.isFile⟩

theorem checkPath_of_place {path : Path} {place : FileTree.Place}
    (placed : tree.place path = .ok place) : FileTree.checkPath path = .ok () := by
  obtain ⟨_, checked, -⟩ := bind_eq_ok_iff.mp placed
  exact checked

/-- A file that was made was not there, and is there now. -/
theorem createFile_eq_ok (shared : Namespace directory location tree) (isName : IsName name)
    {content : ByteArray} {made : FileTree}
    (ok : tree.createFile (Path.join directory name) content = .ok made) :
    tree.entry? location name = none ∧ Present directory location name made ∧
      made = tree.setEntry location name (some (.file Node.newMode content)) := by
  obtain ⟨_, placed, -⟩ := bind_eq_ok_iff.mp ok
  have fits := checkPath_of_place placed
  have named := shared.names isName fits
  obtain ⟨checked, absent, same⟩ := named.createFile_eq_ok ok
  obtain ⟨mode, entries, found⟩ := named.exists_directory
  refine ⟨absent, ⟨fits, checked, Node.newMode, content, ?_⟩, same⟩
  rw [same, FileTree.entry?_setEntry_same _ found]

/-- Where a file is, none is made. -/
theorem Present.createFile_eq (h : Present directory location name tree)
    (shared : Namespace directory location tree) (isName : IsName name) (content : ByteArray) :
    tree.createFile (Path.join directory name) content = .error .present := by
  obtain ⟨mode, old, there⟩ := h.isFile
  exact (shared.names isName h.pathFits).createFile_of_entry content h.nameFits there

/-- A removal goes well if the file was removed, or if there is none. -/
theorem removeIfThere_eq_ok_iff :
    removeIfThere tree path = .ok left ↔
      tree.removeFile path = .ok left ∨ tree.removeFile path = .error .absent ∧ tree = left := by
  unfold removeIfThere
  split
  · next absent => simp [absent]
  · next present => exact iff_self_or.mpr fun absent => absurd absent.1 present

theorem removeIfThere_eq_error_iff :
    removeIfThere tree path = .error cause ↔
      tree.removeFile path = .error cause ∧ cause ≠ .absent := by
  unfold removeIfThere
  split
  · next absent => simp +contextual [absent, eq_comm]
  · next present =>
    refine ⟨fun failed => ⟨failed, ?_⟩, And.left⟩
    rintro rfl
    exact present failed

/-- Removing a file changes its entry, or nothing. -/
theorem removeIfThere_eq_ok (shared : Namespace directory location tree) (isName : IsName name)
    (ok : removeIfThere tree (Path.join directory name) = .ok left) :
    left = tree ∨ left = tree.setEntry location name none := by
  rcases removeIfThere_eq_ok_iff.mp ok with removed | ⟨-, rfl⟩
  · obtain ⟨_, placed, -⟩ := bind_eq_ok_iff.mp removed
    exact .inr ((shared.names isName (checkPath_of_place placed)).removeFile_eq_ok removed)
  · exact .inl rfl

end ProfilingSession.Channels
