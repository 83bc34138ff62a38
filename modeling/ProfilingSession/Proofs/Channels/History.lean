import Mathlib.Data.List.Nodup
import ProfilingSession.Proofs.Channels.Candidates
import ProfilingSession.Proofs.FileTree.Ways

/-!
# Histories of a shared directory

Any number of owners acquire slots in one directory, with whatever ranges and candidates, and give
them up again by release or otherwise, in any order; in between others make and remove segments,
which are files. A `Ledger` keeps the files and the slots that are held.

The invariant is `Kept`. Markers are there as at first, and for the slots that are held, which have
ids of their own without a marker at first. Of each of those `Holds` says that it can be given up:
its marker is a file, its segment is a dead end, since nothing was found there when the id was
acquired and only files were made since, and the directory may be changed. Giving it up then takes
away these two entries and nothing else.

Whatever is done is done at dead ends, so that the path of the directory leads to it all the time.
There is one exception, which `Followed` rules out: a segment that is a link to a directory is not
found if the link is one too many for its path; then the id is acquired, and with it goes a link
that the path of the directory may need.
-/

namespace ProfilingSession.Channels

open FileTree (AgreeBut Cause Changes DeadEnd Location Node Path Plain)

/-- The files, and the slots that are held. -/
structure Ledger where
  tree : FileTree
  held : List Slot

namespace Ledger

def acquire (channels : Channels) (owner : Nat) (candidates : Nat → Nat) (ledger : Ledger) :
    Ledger :=
  let acquired := channels.acquire owner candidates ledger.tree
  ⟨acquired.1, acquired.2.toOption.toList ++ ledger.held⟩

theorem acquire_eq (channels : Channels) (owner : Nat) (candidates : Nat → Nat)
    (ledger : Ledger) :
    ledger.acquire channels owner candidates =
      ⟨(channels.acquire owner candidates ledger.tree).1,
        (channels.acquire owner candidates ledger.tree).2.toOption.toList ++ ledger.held⟩ :=
  rfl

def release (slot : Slot) (ledger : Ledger) : Ledger :=
  ⟨(slot.release ledger.tree).1, ledger.held.erase slot⟩

/-- A slot is given up without regard to what cannot be removed. -/
def abandon (slot : Slot) (ledger : Ledger) : Ledger :=
  ⟨slot.abandon ledger.tree, ledger.held.erase slot⟩

/-- One step of the owners of slots in a directory, or of others. -/
inductive Step (directory : Path) (ledger : Ledger) : Ledger → Prop
  | acquire (channels : Channels) (owner : Nat) (candidates : Nat → Nat)
    (same : channels.directory = directory) :
    Step directory ledger (ledger.acquire channels owner candidates)
  | release (slot : Slot) (mem : slot ∈ ledger.held) : Step directory ledger (ledger.release slot)
  | abandon (slot : Slot) (mem : slot ∈ ledger.held) : Step directory ledger (ledger.abandon slot)
  /-- Others make the segment of an id. -/
  | make (id : Nat) (content : ByteArray) (tree : FileTree)
    (made : ledger.tree.createFile ((inDirectory directory).segment id) content = .ok tree) :
    Step directory ledger { ledger with tree := tree }
  /-- Others remove the segment of an id, which is a file. -/
  | remove (id : Nat) (tree : FileTree)
    (file : ∃ mode content,
      ledger.tree.entry ((inDirectory directory).segment id) = .ok (.file mode content))
    (removed : ledger.tree.removeFile ((inDirectory directory).segment id) = .ok tree) :
    Step directory ledger { ledger with tree := tree }

end Ledger

/-- No segment is a link to a directory that its path has one link too many for. -/
def Followed (directory : Path) (tree : FileTree) : Prop :=
  ∀ id location target there,
    tree.Names ((inDirectory directory).segment id) location (segmentName id) →
    tree.entry? location (segmentName id) = some (.link target) →
    FileTree.Reaches tree.root FileTree.mostLinks (FileTree.startFrom location target)
      (FileTree.linkSteps target) there →
    tree.locate ((inDirectory directory).segment id) ≠ .error .tooManyLinks

/-- The path of a directory leads to a location, and the path of a segment there that is a link to a
directory leads to that directory. -/
structure Shared (directory : Path) (location : Location) (tree : FileTree) : Prop where
  names : ∀ name, IsName name → FileTree.checkPath (Path.join directory name) = .ok () →
    tree.Names (Path.join directory name) location name
  followed : ∀ id target there,
    FileTree.checkPath ((inDirectory directory).segment id) = .ok () →
    FileTree.checkName (segmentName id) = .ok () →
    tree.entry? location (segmentName id) = some (.link target) →
    FileTree.Reaches tree.root FileTree.mostLinks (FileTree.startFrom location target)
      (FileTree.linkSteps target) there →
    tree.locate ((inDirectory directory).segment id) = .ok there

/-- The slot of an id can be given up. -/
structure Holds (directory : Path) (location : Location) (tree : FileTree) (id : Nat) : Prop where
  marker : Present directory location (markerName id) tree
  segment : DeadEnd tree.root (location ++ [segmentName id])
  changeable : tree.checkChangeable location = .ok ()

/-- The slots that are held are those whose markers are there, apart from the markers that were
there at first. -/
structure Kept (directory : Path) (location : Location) (first : FileTree) (ledger : Ledger) :
    Prop where
  shared : Shared directory location ledger.tree
  changeable : ledger.tree.checkChangeable location = first.checkChangeable location
  slots : ∀ slot ∈ ledger.held, slot = (inDirectory directory).slot slot.id
  nodup : (ledger.held.map Slot.id).Nodup
  holds : ∀ id ∈ ledger.held.map Slot.id, Holds directory location ledger.tree id
  unmarked : ∀ id ∈ ledger.held.map Slot.id, first.entry? location (markerName id) = none
  others : ∀ id ∉ ledger.held.map Slot.id,
    (ledger.tree.entry? location (markerName id)).map Node.bare =
      (first.entry? location (markerName id)).map Node.bare

variable {directory : Path} {location : Location} {first tree left after : FileTree}
variable {ledger next : Ledger} {channels : Channels} {owner id : Nat}
variable {candidates : Nat → Nat} {name : String} {changed : Set String}

namespace Shared

theorem of_names (followed : Followed directory tree) (isName : IsName name)
    (named : tree.Names (Path.join directory name) location name) :
    Shared directory location tree := by
  have names (other : String) (isName' : IsName other)
      (fits : FileTree.checkPath (Path.join directory other) = .ok ()) :
      tree.Names (Path.join directory other) location other :=
    named.join_of_join isName.slash_not_mem (isName.ne_of_not_mem (by decide))
      isName'.slash_not_mem (isName'.ne_of_not_mem (by decide))
      (isName'.ne_of_not_mem (by decide)) (isName'.ne_of_not_mem (by decide)) fits
  refine ⟨names, fun id target there fits checked link reached => ?_⟩
  have segment := names (segmentName id) (isName_segmentName id) fits
  rcases segment.locate_of_link checked link with stopped | same
  · exact absurd stopped (followed id location target there segment link reached)
  · exact same.trans reached.1

/-- What is done at dead ends of the directory leaves its path alone. -/
theorem of_changes (h : Shared directory location tree)
    (c : Changes location changed tree after) : Shared directory location after where
  names name isName fits := c.ways.names (h.names name isName fits)
  followed id target there fits checked link reached := by
    have reached' := (c.ways.reaches_iff _ le_rfl _ _ _).mpr reached
    refine c.ways.locate reached'.2 (h.followed id target there fits checked ?_ reached')
    -- No link is new.
    by_cases mem : segmentName id ∈ changed
    · rcases c.plain _ mem with none' | ⟨mode, content, file⟩
      · cases link.symm.trans none'
      · cases link.symm.trans file
    · have alike := c.entry?_eq mem
      rw [link, Option.map_some, eq_comm, Option.map_eq_some_iff] at alike
      obtain ⟨node, there, bare⟩ := alike
      rw [there, Node.bare_eq_link_iff.mp bare]

theorem deadEnd (h : Shared directory location tree)
    (fits : FileTree.checkPath ((inDirectory directory).segment id) = .ok ())
    (checked : FileTree.checkName (segmentName id) = .ok ())
    (absent : tree.hasNode ((inDirectory directory).segment id) ≠ true) :
    DeadEnd tree.root (location ++ [segmentName id]) where
  noDirectory := by
    have named := h.names (segmentName id) (isName_segmentName id) fits
    rw [← Bool.not_eq_true, Option.any_eq_true]
    rintro ⟨node, found, isDirectory⟩
    have there : tree.entry? location (segmentName id) = some node := found
    refine absent ?_
    have found' : tree.hasNode ((inDirectory directory).segment id) = _ :=
      named.hasNode_eq checked fun target link => by
        cases there.symm.trans link
        cases isDirectory
    rw [found', there]
    rfl
  link target link there reached := by
    rw [List.dropLast_concat] at reached
    exact absent (FileTree.hasNode_of_locate reached.2
      (h.followed id target there fits checked link reached))

end Shared

theorem Present.of_changes (h : Present directory location name tree)
    (c : Changes location changed tree after) (off : name ∉ changed) :
    Present directory location name after := by
  obtain ⟨mode, content, there⟩ := h.isFile
  have alike := c.entry?_eq off
  rw [there, Option.map_some, Option.map_eq_some_iff] at alike
  obtain ⟨node, found, bare⟩ := alike
  exact ⟨h.pathFits, h.nameFits, mode, content, by rw [found, Node.bare_eq_file_iff.mp bare]⟩

theorem Holds.of_changes (h : Holds directory location tree id)
    (c : Changes location changed tree after) (off : markerName id ∉ changed) :
    Holds directory location after id where
  marker := h.marker.of_changes c off
  segment := c.deadEnd h.segment
  changeable := by rw [c.changeable_eq, h.changeable]

theorem exists_removeIfThere (shared : Shared directory location tree) (isName : IsName name)
    (fits : FileTree.checkPath (Path.join directory name) = .ok ())
    (checked : FileTree.checkName name = .ok ())
    (changeable : tree.checkChangeable location = .ok ())
    (dead : DeadEnd tree.root (location ++ [name])) :
    ∃ left, removeIfThere tree (Path.join directory name) = .ok left ∧
      Changes location {name} tree left ∧ left.entry? location name = none := by
  have named := shared.names name isName fits
  obtain ⟨mode, entries, found⟩ := named.exists_directory
  have changes : Changes location {name} tree (tree.setEntry location name none) :=
    .setEntry named dead (.inl rfl)
  cases there : tree.entry? location name with
  | none =>
    have absent : tree.removeFile (Path.join directory name) = .error .absent := by
      rw [named.removeFile_eq, checked, there]
      rfl
    exact ⟨tree, removeIfThere_eq_ok_iff.mpr (.inr ⟨absent, rfl⟩),
      ⟨.refl _ tree, by simpa using dead, by simpa using .inl there⟩, there⟩
  | some node =>
    have file : node.isDirectory = false := by
      have noDirectory := dead.noDirectory
      rwa [show tree.root.get? _ = _ from there, Option.any_some] at noDirectory
    have removed : tree.removeFile (Path.join directory name) =
        .ok (tree.setEntry location name none) := by
      rw [named.removeFile_eq, checked, there]
      simp only [bind, Except.bind, changeable, file, Bool.false_eq_true, if_false]
      rfl
    exact ⟨_, removeIfThere_eq_ok_iff.mpr (.inl removed), changes,
      FileTree.entry?_setEntry_same none found⟩

/-- A slot that can be given up is given up in the same way by both, and only its two files are
gone. -/
theorem Holds.exists_left (h : Holds directory location tree id)
    (shared : Shared directory location tree) :
    let slot := (inDirectory directory).slot id
    ∃ left, slot.release tree = (left, .ok ()) ∧ slot.abandon tree = left ∧
      Changes location {segmentName id, markerName id} tree left ∧
      left.entry? location (segmentName id) = none ∧
      left.entry? location (markerName id) = none := by
  intro slot
  have fits : FileTree.checkPath ((inDirectory directory).segment id) = .ok () :=
    checkPath_segment (inDirectory directory) h.marker.pathFits
  obtain ⟨cleared, first, changes, gone⟩ :=
    exists_removeIfThere shared (isName_segmentName id) fits
      (FileTree.checkName_of_append h.marker.nameFits) h.changeable h.segment
  have ne := segmentName_ne_markerName id id
  have marker := h.marker.of_changes changes (by simpa using ne.symm)
  obtain ⟨left, second, changes', gone'⟩ :=
    exists_removeIfThere (shared.of_changes changes) (isName_markerName id) h.marker.pathFits
      h.marker.nameFits (by rw [changes.changeable_eq, h.changeable])
      (.of_plain (.inr marker.isFile))
  have first' : removeIfThere tree slot.segment = .ok cleared := first
  have released : slot.release tree = (left, .ok ()) := by
    have second' : removeIfThere cleared slot.marker = .ok left := second
    simp only [Slot.release, first', second']
  refine ⟨left, released, ?_, changes.trans changes', ?_, gone'⟩
  · rw [← Slot.release_of_ok first', released]
  · have kept : (left.entry? location (segmentName id)).map Node.bare = _ :=
      changes'.entry?_eq (by simpa using ne)
    rwa [gone, Option.map_none, Option.map_eq_none_iff] at kept

namespace Kept

theorem start (shared : Shared directory location first) :
    Kept directory location first ⟨first, []⟩ where
  shared := shared
  changeable := rfl
  slots := nofun
  nodup := List.nodup_nil
  holds := nofun
  unmarked := nofun
  others _ _ := rfl

theorem of_changes (h : Kept directory location first ledger)
    (c : Changes location changed ledger.tree after) (off : ∀ id, markerName id ∉ changed) :
    Kept directory location first { ledger with tree := after } where
  shared := h.shared.of_changes c
  changeable := by rw [c.changeable_eq, h.changeable]
  slots := h.slots
  nodup := h.nodup
  holds id mem := (h.holds id mem).of_changes c (off id)
  unmarked := h.unmarked
  others id free := by rw [c.entry?_eq (off id), h.others id free]

theorem reserved (h : Kept channels.directory location first ledger)
    (free : ¬ channels.Taken owner id ledger.tree)
    {marked : FileTree} (made : channels.mark owner id ledger.tree = .ok marked)
    (marks : channels.Marked owner id ledger.tree after) :
    Kept channels.directory location first ⟨after, channels.slot id :: ledger.held⟩ := by
  obtain ⟨there, named, absent, new, same⟩ := marks
  have fits := (FileTree.names_iff.mp named).1
  cases named.symm.trans (h.shared.names _ (isName_markerName id) fits)
  obtain ⟨there, named', checked, -, changeable, -⟩ :=
    FileTree.Names.of_createFile (channels.endsIn_marker id) made
  cases named.symm.trans named'
  have changes : Changes location {markerName id} ledger.tree after :=
    ⟨by simpa using same, by simpa using .of_plain (.inl absent),
      by simpa using .inr ⟨_, _, new⟩⟩
  have off {j : Nat} (ne : j ≠ id) : markerName j ∉ ({markerName id} : Set String) := by
    simpa using markerName_injective.ne ne
  -- The marker of a slot that is held would have been there.
  have fresh : id ∉ ledger.held.map Slot.id := fun mem => by
    obtain ⟨mode, content, found⟩ := (h.holds id mem).marker.isFile
    cases absent.symm.trans found
  have segment : DeadEnd ledger.tree.root (location ++ [segmentName id]) :=
    h.shared.deadEnd (checkPath_segment channels fits) (FileTree.checkName_of_append checked)
      fun there => free (.inl there)
  refine ⟨h.shared.of_changes changes, ?_, ?_, ?_, ?_, ?_, ?_⟩
  · rw [changes.changeable_eq, h.changeable]
  · intro slot mem
    rcases List.mem_cons.mp mem with rfl | mem
    · rfl
    · exact h.slots slot mem
  · exact List.nodup_cons.mpr ⟨fresh, h.nodup⟩
  · intro j mem
    rcases List.mem_cons.mp mem with same | mem
    · subst j
      exact ⟨⟨fits, checked, _, _, new⟩, changes.deadEnd segment,
        changes.changeable_eq.trans changeable⟩
    · exact (h.holds j mem).of_changes changes (off fun eq => fresh (eq ▸ mem))
  · intro j mem
    rcases List.mem_cons.mp mem with same | mem
    · subst j
      have alike := h.others id fresh
      rw [absent, Option.map_none, eq_comm, Option.map_eq_none_iff] at alike
      exact alike
    · exact h.unmarked j mem
  · intro j free'
    rw [List.map_cons, List.mem_cons, not_or] at free'
    rw [changes.entry?_eq (off free'.1), h.others j free'.2]

theorem slot_eq (h : Kept directory location first ledger) {slot slot' : Slot}
    (mem : slot ∈ ledger.held) (mem' : slot' ∈ ledger.held) (same : slot.id = slot'.id) :
    slot = slot' := by
  rw [h.slots slot mem, h.slots slot' mem', same]

theorem mem_erase_iff (h : Kept directory location first ledger) {slot : Slot}
    (mem : slot ∈ ledger.held) :
    id ∈ (ledger.held.erase slot).map Slot.id ↔ id ∈ ledger.held.map Slot.id ∧ id ≠ slot.id := by
  have nodup : ledger.held.Nodup := List.Nodup.of_map _ h.nodup
  simp only [List.mem_map, nodup.mem_erase_iff]
  constructor
  · rintro ⟨slot', ⟨ne, mem'⟩, rfl⟩
    exact ⟨⟨slot', mem', rfl⟩, fun same => ne (h.slot_eq mem' mem same)⟩
  · rintro ⟨⟨slot', mem', rfl⟩, ne⟩
    exact ⟨slot', ⟨fun same => ne (congrArg Slot.id same), mem'⟩, rfl⟩

theorem givenUp (h : Kept directory location first ledger) {slot : Slot}
    (mem : slot ∈ ledger.held)
    (changes : Changes location {segmentName slot.id, markerName slot.id} ledger.tree left)
    (gone : left.entry? location (markerName slot.id) = none) :
    Kept directory location first ⟨left, ledger.held.erase slot⟩ := by
  have off {id : Nat} (ne : id ≠ slot.id) :
      markerName id ∉ ({segmentName slot.id, markerName slot.id} : Set String) := by
    simpa using ⟨(segmentName_ne_markerName slot.id id).symm, markerName_injective.ne ne⟩
  exact {
    shared := h.shared.of_changes changes
    changeable := by rw [changes.changeable_eq, h.changeable]
    slots := fun slot' mem' => h.slots slot' (List.mem_of_mem_erase mem')
    nodup := h.nodup.sublist (List.erase_sublist.map Slot.id)
    holds := fun id held => by
      obtain ⟨held', ne⟩ := (h.mem_erase_iff mem).mp held
      exact (h.holds id held').of_changes changes (off ne)
    unmarked := fun id held => h.unmarked id ((h.mem_erase_iff mem).mp held).1
    others := fun id free => by
      rw [h.mem_erase_iff mem, not_and, not_not] at free
      by_cases held : id ∈ ledger.held.map Slot.id
      · rw [free held, gone, h.unmarked slot.id (List.mem_map_of_mem mem)]
      · have ne : id ≠ slot.id := fun eq => held (eq ▸ List.mem_map_of_mem mem)
        rw [changes.entry?_eq (off ne), h.others id held] }

theorem acquire (h : Kept channels.directory location first ledger) (owner : Nat)
    (candidates : Nat → Nat) :
    Kept channels.directory location first (ledger.acquire channels owner candidates) := by
  rw [Ledger.acquire_eq]
  cases acquired : (channels.acquire owner candidates ledger.tree).2 with
  | error fault => exact h.of_changes (.of_agree (agree_of_acquire_error acquired)) (by simp)
  | ok slot =>
    obtain ⟨id, rfl, free, ⟨marked, made⟩, marks⟩ := marked_of_acquire acquired
    exact h.reserved free made marks

/-- Others change the entry of a segment, which is a file or nothing before and after. -/
theorem disturb (h : Kept directory location first ledger) {value : Option Node}
    (named : ledger.tree.Names ((inDirectory directory).segment id) location (segmentName id))
    (before : Plain (ledger.tree.entry? location (segmentName id))) (plain : Plain value) :
    Kept directory location first
      { ledger with tree := ledger.tree.setEntry location (segmentName id) value } :=
  h.of_changes (.setEntry named (.of_plain before) plain) fun other => by
    simpa using (segmentName_ne_markerName id other).symm

theorem step (h : Kept directory location first ledger) (s : Ledger.Step directory ledger next) :
    Kept directory location first next := by
  -- Whatever is done about a segment is done at its entry.
  have entry {id : Nat} {there : Location}
      (named : ledger.tree.Names ((inDirectory directory).segment id) there (segmentName id)) :
      there = location := by
    have fits := (FileTree.names_iff.mp named).1
    cases named.symm.trans (h.shared.names _ (isName_segmentName id) fits)
    rfl
  cases s with
  | acquire channels owner candidates same =>
    subst same
    exact h.acquire owner candidates
  | release slot mem =>
    obtain ⟨left, released, -, changes, -, gone⟩ :=
      (h.holds slot.id (List.mem_map_of_mem mem)).exists_left h.shared
    rw [← h.slots slot mem] at released
    rw [Ledger.release, released]
    exact h.givenUp mem changes gone
  | abandon slot mem =>
    obtain ⟨left, -, abandoned, changes, -, gone⟩ :=
      (h.holds slot.id (List.mem_map_of_mem mem)).exists_left h.shared
    rw [← h.slots slot mem] at abandoned
    rw [Ledger.abandon, abandoned]
    exact h.givenUp mem changes gone
  | make id content tree made =>
    obtain ⟨there, named, -, absent, -, rfl⟩ :=
      FileTree.Names.of_createFile (endsIn_segment _ id) made
    obtain rfl := entry named
    exact h.disturb named (.inl absent) (.inr ⟨_, _, rfl⟩)
  | remove id tree file removed =>
    obtain ⟨mode, content, file⟩ := file
    obtain ⟨_, placed, -⟩ := bind_eq_ok_iff.mp removed
    obtain ⟨there, named⟩ := (endsIn_segment _ id).names placed
    obtain rfl := entry named
    obtain rfl := named.removeFile_eq_ok removed
    exact h.disturb named (.inr ⟨mode, content, named.entry_eq_ok file⟩) (.inl rfl)

/-- What the system says about a marker: it is there if it was at first, or if its slot is held. -/
theorem hasEntry_marker_iff (h : Kept directory location first ledger)
    (shared : Shared directory location first) (id : Nat) :
    ledger.tree.hasEntry ((inDirectory directory).marker id) = true ↔
      first.hasEntry ((inDirectory directory).marker id) = true ∨
        id ∈ ledger.held.map Slot.id := by
  have isName := isName_markerName id
  by_cases held : id ∈ ledger.held.map Slot.id
  · have marker := (h.holds id held).marker
    obtain ⟨mode, content, there⟩ := marker.isFile
    have here := (h.shared.names _ isName marker.pathFits).hasEntry_iff.mpr
      ⟨marker.nameFits, by rw [there]; simp⟩
    exact iff_of_true here (.inr held)
  · have alike := h.others id held
    have present : ledger.tree.entry? location (markerName id) ≠ none ↔
        first.entry? location (markerName id) ≠ none := by
      rw [ne_eq, ne_eq, ← Option.map_eq_none_iff (f := Node.bare), alike,
        Option.map_eq_none_iff]
    simp only [held, or_false]
    have fits {tree : FileTree} (there : tree.hasEntry ((inDirectory directory).marker id) = true) :
        FileTree.checkPath (Path.join directory (markerName id)) = .ok () := by
      obtain ⟨_, named⟩ := FileTree.Names.of_hasEntry (endsIn_marker _ id) there
      exact (FileTree.names_iff.mp named).1
    constructor
    · intro there
      have fits := fits there
      obtain ⟨checked, entry⟩ := (h.shared.names _ isName fits).hasEntry_iff.mp there
      exact (shared.names _ isName fits).hasEntry_iff.mpr ⟨checked, present.mp entry⟩
    · intro there
      have fits := fits there
      obtain ⟨checked, entry⟩ := (shared.names _ isName fits).hasEntry_iff.mp there
      exact (h.shared.names _ isName fits).hasEntry_iff.mpr ⟨checked, present.mpr entry⟩

theorem exists_left (h : Kept directory location first ledger)
    (shared : Shared directory location first) {slot : Slot} (mem : slot ∈ ledger.held) :
    slot = (inDirectory directory).slot slot.id ∧ first.hasEntry slot.marker = false ∧
      ∃ left location, slot.release ledger.tree = (left, .ok ()) ∧
        slot.abandon ledger.tree = left ∧
        ledger.tree.Names slot.segment location (segmentName slot.id) ∧
        ledger.tree.Names slot.marker location (markerName slot.id) ∧
        AgreeBut {location ++ [segmentName slot.id], location ++ [markerName slot.id]} left
          ledger.tree ∧
        left.hasEntry slot.segment = false ∧ left.hasEntry slot.marker = false := by
  have isSlot := h.slots slot mem
  have held := List.mem_map_of_mem (f := Slot.id) mem
  have holds := h.holds slot.id held
  have bare := h.unmarked slot.id held
  generalize slot.id = id at *
  subst isSlot
  have isName := isName_markerName id
  have fits := holds.marker.pathFits
  obtain ⟨left, released, abandoned, changes, gone, gone'⟩ := holds.exists_left h.shared
  have marker := h.shared.names _ isName fits
  have marker' := changes.ways.names marker
  have segment := names_segment (inDirectory directory) marker
  have segment' := names_segment (inDirectory directory) marker'
  have unmarked : first.hasEntry ((inDirectory directory).marker id) = false := by
    rw [← Bool.not_eq_true]
    exact fun there => ((shared.names _ isName fits).hasEntry_iff.mp there).2 bare
  refine ⟨rfl, unmarked, left, location, released, abandoned, segment, marker, ?_, ?_, ?_⟩
  · simpa [Set.image_pair] using changes.agree
  · rw [← Bool.not_eq_true]
    exact fun there => (segment'.hasEntry_iff.mp there).2 gone
  · rw [← Bool.not_eq_true]
    exact fun there => (marker'.hasEntry_iff.mp there).2 gone'

/-- Where nothing is held, an id that could be reserved at first can be reserved, unless its segment
is there. -/
theorem attempt_eq_reserved (h : Kept channels.directory location first ledger)
    (shared : Shared channels.directory location first) (none' : ledger.held = [])
    {marked : FileTree} {owner' : Nat} (could : channels.attempt owner' id first = .reserved marked)
    (absent : ledger.tree.hasEntry (channels.segment id) = false) (owner : Nat) :
    ∃ marked, channels.attempt owner id ledger.tree = .reserved marked := by
  obtain ⟨free, made⟩ := attempt_eq_reserved_iff.mp could
  obtain ⟨there, named, checked, bare, changeable, -⟩ :=
    FileTree.Names.of_createFile (channels.endsIn_marker id) made
  have fits := (FileTree.names_iff.mp named).1
  cases named.symm.trans (shared.names _ (isName_markerName id) fits)
  have named' : ledger.tree.Names (channels.marker id) location (markerName id) :=
    h.shared.names _ (isName_markerName id) fits
  have unmarked : ledger.tree.entry? location (markerName id) = none := by
    have alike := h.others id (by simp [none'])
    rwa [bare, Option.map_none, Option.map_eq_none_iff] at alike
  have noSegment : ledger.tree.entry? location (segmentName id) = none := by
    by_contra there
    rw [← Bool.not_eq_true] at absent
    exact absent ((names_segment channels named').hasEntry_iff.mpr
      ⟨FileTree.checkName_of_append checked, there⟩)
  have checked' : FileTree.checkName (segmentName id) = .ok () :=
    FileTree.checkName_of_append checked
  have plain : ledger.tree.hasLink (channels.segment id) = false := by
    have placed : ledger.tree.place (channels.segment id) = _ := names_segment channels named'
    simp [FileTree.hasLink, FileTree.entry, placed, checked', noSegment, bind, Except.bind]
  refine ⟨ledger.tree.setEntry location (markerName id)
    (some (.file Node.newMode (markerText owner).toUTF8)),
    attempt_eq_reserved_iff.mpr ⟨fun taken => ?_, ?_⟩⟩
  · rcases (taken_iff plain).mp taken with segment | marker
    · rw [(names_segment channels named').hasNode_eq checked' (by simp [noSegment]),
        noSegment] at segment
      cases segment
    · exact (named'.hasEntry_iff.mp marker).2 unmarked
  · have open' := h.changeable.trans changeable
    rw [mark, named'.createFile_eq, checked, unmarked]
    simp only [bind, Except.bind, FileTree.addEntry, open']
    rfl

theorem of_reachable (shared : Shared directory location first)
    (history : Relation.ReflTransGen (Ledger.Step directory) ⟨first, []⟩ ledger) :
    Kept directory location first ledger := by
  induction history with
  | refl => exact .start shared
  | tail _ s ih => exact ih.step s

end Kept

/-- Nothing came of any step, since the directory of the markers is missing or closed. -/
structure Idle (directory : Path) (first : FileTree) (ledger : Ledger) : Prop where
  nowhere : ∀ location name, IsName name →
    ¬ ledger.tree.Names (Path.join directory name) location name
  held : ledger.held = []
  same : AgreeBut ∅ ledger.tree first

namespace Idle

theorem step (h : Idle directory first ledger) (s : Ledger.Step directory ledger next) :
    Idle directory first next := by
  cases s with
  | acquire channels owner candidates same =>
    subst same
    rw [Ledger.acquire_eq]
    cases acquired : (channels.acquire owner candidates ledger.tree).2 with
    | error fault =>
      have same := agree_of_acquire_error acquired
      exact ⟨fun location name isName named =>
        h.nowhere location name isName (same.names_iff.mp named), h.held, same.trans h.same⟩
    | ok slot =>
      obtain ⟨id, -, -, -, location, named, -⟩ := marked_of_acquire acquired
      exact absurd named (h.nowhere location _ (isName_markerName id))
  | release slot mem => rw [h.held] at mem; cases mem
  | abandon slot mem => rw [h.held] at mem; cases mem
  | make id content tree made =>
    obtain ⟨location, named, -⟩ := FileTree.Names.of_createFile (endsIn_segment _ id) made
    exact absurd named (h.nowhere location _ (isName_segmentName id))
  | remove id tree file removed =>
    obtain ⟨_, placed, -⟩ := bind_eq_ok_iff.mp removed
    obtain ⟨location, named⟩ := (endsIn_segment _ id).names placed
    exact absurd named (h.nowhere location _ (isName_segmentName id))

theorem of_reachable
    (nowhere : ∀ location name, IsName name →
      ¬ first.Names (Path.join directory name) location name)
    (history : Relation.ReflTransGen (Ledger.Step directory) ⟨first, []⟩ ledger) :
    Idle directory first ledger := by
  induction history with
  | refl => exact ⟨nowhere, rfl, .refl ∅ first⟩
  | tail _ s ih => exact ih.step s

end Idle

/-- Whatever was done in a shared directory, in any order: the markers that are there are those that
were there at first and those of the slots that are held; these have different ids, none with a
marker at first; and each of them can be given up, released or not, which takes away its segment and
its marker and nothing else. So when none is held the markers are as at first, and every id that
could be reserved at first can be again, unless others left its segment. -/
theorem markers_of_history (followed : Followed directory first)
    (history : Relation.ReflTransGen (Ledger.Step directory) ⟨first, []⟩ ledger) :
    (∀ id, ledger.tree.hasEntry ((inDirectory directory).marker id) = true ↔
      first.hasEntry ((inDirectory directory).marker id) = true ∨
        id ∈ ledger.held.map Slot.id) ∧
    (ledger.held.map Slot.id).Nodup ∧
    (∀ slot ∈ ledger.held, slot = (inDirectory directory).slot slot.id ∧
      first.hasEntry slot.marker = false ∧
      ∃ left location, slot.release ledger.tree = (left, .ok ()) ∧
        slot.abandon ledger.tree = left ∧
        ledger.tree.Names slot.segment location (segmentName slot.id) ∧
        ledger.tree.Names slot.marker location (markerName slot.id) ∧
        AgreeBut {location ++ [segmentName slot.id], location ++ [markerName slot.id]} left
          ledger.tree ∧
        left.hasEntry slot.segment = false ∧ left.hasEntry slot.marker = false) ∧
    (ledger.held = [] →
      (∀ id, ledger.tree.hasEntry ((inDirectory directory).marker id) =
        first.hasEntry ((inDirectory directory).marker id)) ∧
      ∀ (channels : Channels) (owner owner' id : Nat), channels.directory = directory →
        (∃ marked, channels.attempt owner id first = .reserved marked) →
        ledger.tree.hasEntry (channels.segment id) = false →
        ∃ marked, channels.attempt owner' id ledger.tree = .reserved marked) := by
  have all (markers : ∀ id, ledger.tree.hasEntry ((inDirectory directory).marker id) = true ↔
      first.hasEntry ((inDirectory directory).marker id) = true ∨
        id ∈ ledger.held.map Slot.id) (none' : ledger.held = []) (id : Nat) :
      ledger.tree.hasEntry ((inDirectory directory).marker id) =
        first.hasEntry ((inDirectory directory).marker id) := by
    rw [Bool.eq_iff_iff, markers id]
    simp [none']
  by_cases somewhere : ∃ location name, IsName name ∧
      first.Names (Path.join directory name) location name
  · obtain ⟨location, name, isName, named⟩ := somewhere
    have shared := Shared.of_names followed isName named
    have kept := Kept.of_reachable shared history
    have markers := kept.hasEntry_marker_iff shared
    refine ⟨markers, kept.nodup, fun slot mem => kept.exists_left shared mem,
      fun none' => ⟨all markers none', ?_⟩⟩
    rintro channels owner owner' id rfl ⟨marked, could⟩ absent
    exact kept.attempt_eq_reserved shared none' could absent owner'
  · simp only [not_exists, not_and] at somewhere
    have idle := Idle.of_reachable somewhere history
    have markers (id : Nat) : ledger.tree.hasEntry ((inDirectory directory).marker id) = true ↔
        first.hasEntry ((inDirectory directory).marker id) = true ∨
          id ∈ ledger.held.map Slot.id := by
      rw [idle.same.hasEntry_eq (endsIn_marker _ id), idle.held]
      simp
    refine ⟨markers, by simp [idle.held], by simp [idle.held],
      fun none' => ⟨all markers none', ?_⟩⟩
    rintro channels owner owner' id rfl ⟨marked, could⟩ absent
    obtain ⟨location, named, -⟩ :=
      FileTree.Names.of_createFile (endsIn_marker _ id) (attempt_eq_reserved_iff.mp could).2
    exact absurd named (somewhere location _ (isName_markerName id))

def directoryWith (entries : List (String × Node)) : FileTree :=
  ⟨.directory 0o755 [("shm", .directory 0o755 entries)], []⟩

theorem followed_directoryWith_nil : Followed directory (directoryWith []) := by
  intro id location target there _ link
  have noLink (place : Location) : (directoryWith []).root.get? place ≠ some (.link target) := by
    cases place with
    | nil => nofun
    | cons name rest =>
      by_cases shm : "shm" = name <;> cases rest <;>
        simp [directoryWith, Node.get?, Node.entries, Node.lookup, shm]
  exact absurd link (noLink _)

def markerEntry (id owner : Nat) : String × Node :=
  (markerName id, .file Node.newMode (markerText owner).toUTF8)

/-- An owner has the only id of its range, and another one passes it over and has the next; then
others make the segment of the first. -/
theorem markers_of_two_owners :
    let ids := inDirectory "shm"
    ∃ ledger, Relation.ReflTransGen (Ledger.Step "shm") ⟨directoryWith [], []⟩ ledger ∧
      ledger.held = [ids.slot 4, ids.slot 3] ∧
      ledger.tree.hasEntry (ids.marker 4) = true ∧
      ledger.tree.hasEntry (ids.marker 5) = false ∧
      ∃ left, (ids.slot 3).release ledger.tree = (left, .ok ()) ∧
        left.hasEntry (ids.segment 3) = false ∧ left.hasEntry (ids.marker 3) = false := by
  intro ids
  have acquired : Ledger.Step "shm" ⟨directoryWith [], []⟩
      ⟨directoryWith [markerEntry 3 7], [ids.slot 3]⟩ :=
    .acquire ⟨"shm", 3, 3, 1⟩ 7 (fun _ => 3) rfl
  have passedOver : Channels.acquire ⟨"shm", 3, 4, 2⟩ 8 (fun k => 3 + k)
      (directoryWith [markerEntry 3 7]) =
      (directoryWith [markerEntry 4 8, markerEntry 3 7], .ok ((inDirectory "shm").slot 4)) := rfl
  have acquired' : Ledger.Step "shm" ⟨directoryWith [markerEntry 3 7], [ids.slot 3]⟩
      (Ledger.acquire ⟨"shm", 3, 4, 2⟩ 8 (fun k => 3 + k)
        ⟨directoryWith [markerEntry 3 7], [ids.slot 3]⟩) :=
    .acquire _ 8 _ rfl
  rw [Ledger.acquire_eq, passedOver] at acquired'
  have made : Ledger.Step "shm"
      ⟨directoryWith [markerEntry 4 8, markerEntry 3 7], [ids.slot 4, ids.slot 3]⟩
      ⟨directoryWith [(segmentName 3, .file Node.newMode .empty), markerEntry 4 8,
        markerEntry 3 7], [ids.slot 4, ids.slot 3]⟩ :=
    .make 3 .empty _ rfl
  obtain ⟨ledger, history, held⟩ : ∃ ledger,
      Relation.ReflTransGen (Ledger.Step "shm") ⟨directoryWith [], []⟩ ledger ∧
        ledger.held = [ids.slot 4, ids.slot 3] :=
    ⟨_, ((Relation.ReflTransGen.single acquired).tail acquired').tail made, rfl⟩
  have heldIds : ledger.held.map Slot.id = [4, 3] := by
    rw [held]
    rfl
  obtain ⟨markers, -, slots, -⟩ := markers_of_history followed_directoryWith_nil history
  rw [heldIds] at markers
  refine ⟨ledger, history, held, (markers 4).mpr (.inr (by decide)), ?_, ?_⟩
  · rw [← Bool.not_eq_true, markers 5, not_or]
    exact ⟨by decide +kernel, by decide⟩
  · obtain ⟨-, -, left, -, released, -, -, -, -, gone, gone'⟩ :=
      slots (ids.slot 3) (by simp [held])
    exact ⟨left, released, gone, gone'⟩

/-- A shared directory with links to itself: one, and others each of which takes two more of the one
before. -/
def looped : FileTree :=
  directoryWith [("a", .link "."), ("b", .link "a/a"), ("c", .link "b/b"), ("d", .link "c/c"),
    ("e", .link "d/d"), (segmentName 5, .link ".")]

/-- A path through forty links of `looped`, the last of which is a segment. -/
def roundabout : Path := "shm/e/c/a/slamp_queue_5"

def single (directory : Path) (id : Nat) : Channels :=
  ((inDirectory directory).withRange id id).withAttempts 3

/-- An id that was free and could be reserved may be lost though no slot is held. Others may have
left its segment. And where the path of the directory goes through a segment and as many links as
are followed, the segment is not found; its id is acquired, and with the slot the link is removed,
so that the path leads nowhere: the marker stays, and no id can be reserved any more. -/
theorem free_ids_lost :
    (∃ ledger, Relation.ReflTransGen (Ledger.Step "shm") ⟨directoryWith [], []⟩ ledger ∧
      ledger.held = [] ∧
      ((single "shm" 5).reserve 12 (single "shm" 5).inTurn (directoryWith [])).isOk = true ∧
      (single "shm" 5).reserve 12 (single "shm" 5).inTurn ledger.tree = .error (.exhausted 5 5 3)) ∧
    ∃ ledger, Relation.ReflTransGen (Ledger.Step roundabout) ⟨looped, []⟩ ledger ∧
      ledger.held = [] ∧
      looped.entry? ["shm"] (markerName 5) = none ∧
      (ledger.tree.entry? ["shm"] (markerName 5)).isSome = true ∧
      ((single roundabout 6).reserve 12 (single roundabout 6).inTurn looped).isOk = true ∧
      ((single roundabout 6).reserve 12 (single roundabout 6).inTurn ledger.tree).isOk = false := by
  have made : (directoryWith []).createFile ((inDirectory "shm").segment 5) .empty =
      .ok (directoryWith [(segmentName 5, .file Node.newMode .empty)]) := rfl
  refine ⟨⟨_, .single (.make 5 .empty _ made), rfl, rfl, rfl⟩, ?_⟩
  let five := single roundabout 5
  have acquired : (five.acquire 12 five.inTurn looped).2.toOption = some (five.slot 5) := by
    decide +kernel
  let between : Ledger := Ledger.acquire five 12 five.inTurn ⟨looped, []⟩
  have held : between.held = [five.slot 5] := by
    simp only [between, Ledger.acquire_eq, acquired, Option.toList_some, List.append_nil]
  have mem : five.slot 5 ∈ between.held := by
    rw [held]
    exact List.mem_singleton_self _
  refine ⟨between.release (five.slot 5),
    .tail (.single (.acquire five 12 five.inTurn rfl)) (.release _ mem), ?_, by rfl,
    by decide +kernel, by decide +kernel, by decide +kernel⟩
  rw [Ledger.release, held]
  exact List.erase_cons_head ..

end ProfilingSession.Channels
