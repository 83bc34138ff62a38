import Mathlib.Data.Set.Insert
import ProfilingSession.Proofs.FileTree.Removal

/-!
# Trees that agree but for some places

What an operation leaves alone. Two trees agree but for some places if they have the same kind of
node, with the same permissions, content or target, at every location that is not at or below one of
the places; so a file that is new in a directory counts as a change of its own place only.

Trees that agree everywhere may still list the entries of a directory in another order. Nothing that
is asked of a tree depends on that: paths lead to the same places (`place_eq`), and a file is made
in both or in none for the same cause (`createFile_cases`). A file that was made can be removed
again, which leaves a tree that agrees with the first one (`exists_removeFile_of_createFile`).
-/

namespace ProfilingSession.FileTree

namespace Node

theorem get?_append (node : Node) (location rest : Location) :
    node.get? (location ++ rest) = (node.get? location).bind fun there => there.get? rest := by
  induction location generalizing node with
  | nil => rfl
  | cons name more ih =>
    rw [List.cons_append, get?_cons, get?_cons]
    cases lookup name node.entries with
    | none => rfl
    | some child => exact ih child

/-- Where there is something further down there is a directory. -/
theorem exists_directory_of_get?_append {node there : Node} {location : Location} {name : String}
    {rest : Location} (h : node.get? (location ++ name :: rest) = some there) :
    ∃ mode entries, node.get? location = some (.directory mode entries) := by
  rw [get?_append, Option.bind_eq_some_iff] at h
  obtain ⟨found, at', below⟩ := h
  cases found with
  | directory mode entries => exact ⟨mode, entries, at'⟩
  | file _ _ => simp [get?_cons, Node.entries, lookup] at below
  | link _ => simp [get?_cons, Node.entries, lookup] at below

@[simp]
theorem isDirectory_bare (node : Node) : node.bare.isDirectory = node.isDirectory := by
  cases node <;> rfl

@[simp]
theorem permits_bare (bit : Nat) (node : Node) : node.bare.permits bit = node.permits bit := by
  cases node <;> rfl

@[simp]
theorem bare_eq_file_iff {node : Node} {mode : Nat} {content : ByteArray} :
    node.bare = .file mode content ↔ node = .file mode content := by
  cases node <;> simp [bare, withEntries]

@[simp]
theorem bare_eq_link_iff {node : Node} {target : String} :
    node.bare = .link target ↔ node = .link target := by
  cases node <;> simp [bare, withEntries]

theorem any_map_bare {test : Node → Bool} (blind : ∀ node : Node, test node.bare = test node)
    (found : Option Node) : (found.map bare).any test = found.any test := by
  cases found <;> simp [blind]

/-- Setting an entry of a directory changes nothing that is not at or below the entry. -/
theorem map_bare_get?_set {node : Node} {parent : Location} {mode : Nat}
    {entries : List (String × Node)} (h : node.get? parent = some (.directory mode entries))
    (value : Option Node) {name : String} {location : Location}
    (off : ¬ parent ++ [name] <+: location) :
    ((node.set value (parent ++ [name])).get? location).map bare =
      (node.get? location).map bare := by
  by_cases above : location <+: parent ++ [name]
  · obtain ⟨rest, shape⟩ := above
    cases rest with
    | nil => exact absurd (by simp [← shape]) off
    | cons first below =>
      -- Directories on the way to the entry stay directories, with other entries.
      obtain ⟨mode', inner, found⟩ :
          ∃ mode' inner, node.get? location = some (.directory mode' inner) := by
        obtain ⟨more, shape' | shape'⟩ : ∃ more, parent = location ∨
            parent = location ++ first :: more := by
          rcases List.eq_nil_or_concat below with rfl | ⟨front, last, rfl⟩
          · exact ⟨[], .inl (List.append_inj' shape rfl).1.symm⟩
          · rw [List.concat_eq_append, ← List.cons_append, ← List.append_assoc] at shape
            exact ⟨front, .inr (List.append_inj' shape rfl).1.symm⟩
        · exact ⟨mode, entries, shape' ▸ h⟩
        · exact exists_directory_of_get?_append (shape' ▸ h)
      obtain ⟨changed, found'⟩ := get?_set_of_below value first below found
      rw [← shape, found', found]
      rfl
  · rw [ get?_set_of_not_prefix value _ _ _ above off]

end Node

/-- Two trees are the same at every location that is not at or below one of some places. -/
structure AgreeBut (places : Set Location) (a b : FileTree) : Prop where
  working : a.working = b.working
  bare : ∀ location, (∀ place ∈ places, ¬ place <+: location) →
    (a.root.get? location).map Node.bare = (b.root.get? location).map Node.bare

variable {a b c tree made : FileTree} {places : Set Location} {place : Location} {path : Path}
variable {parent : Location} {name : String}

namespace AgreeBut

theorem refl (places : Set Location) (tree : FileTree) : AgreeBut places tree tree :=
  ⟨rfl, fun _ _ => rfl⟩

theorem symm (h : AgreeBut places a b) : AgreeBut places b a :=
  ⟨h.working.symm, fun location off => (h.bare location off).symm⟩

theorem trans (h : AgreeBut places a b) (h' : AgreeBut places b c) : AgreeBut places a c :=
  ⟨h.working.trans h'.working,
    fun location off => (h.bare location off).trans (h'.bare location off)⟩

theorem mono {more : Set Location} (h : AgreeBut places a b) (sub : places ⊆ more) :
    AgreeBut more a b :=
  ⟨h.working, fun location off => h.bare location fun place mem => off place (sub mem)⟩

/-- Trees that have the same node at a place agree there, and below. -/
theorem fill (h : AgreeBut (insert place places) a b)
    (same : a.root.get? place = b.root.get? place) : AgreeBut places a b := by
  refine ⟨h.working, fun location off => ?_⟩
  by_cases below : place <+: location
  · obtain ⟨rest, rfl⟩ := below
    rw [Node.get?_append, Node.get?_append, same]
  · exact h.bare location fun other mem => by
      rcases Set.mem_insert_iff.mp mem with rfl | mem
      · exact below
      · exact off other mem

theorem fill_singleton (h : AgreeBut {place} a b)
    (same : a.root.get? place = b.root.get? place) : AgreeBut ∅ a b :=
  fill (by simpa using h) same

/-- A tree that has nothing at the places is part of one that agrees with it elsewhere. -/
theorem partOf (h : AgreeBut places a b) (bare : ∀ place ∈ places, a.root.get? place = none) :
    PartOf a b := by
  refine ⟨h.working, fun location node there => ?_⟩
  have off : ∀ place ∈ places, ¬ place <+: location := by
    rintro place mem ⟨rest, rfl⟩
    rw [Node.get?_append, bare place mem] at there
    cases there
  have same := h.bare location off
  rw [there] at same
  obtain ⟨other, found, alike⟩ := Option.map_eq_some_iff.mp same.symm
  exact ⟨other, found, alike⟩

theorem partOf_of_empty (h : AgreeBut ∅ a b) : PartOf a b :=
  h.partOf fun _ mem => absurd mem (Set.notMem_empty _)

end AgreeBut

theorem agreeBut_setEntry (value : Option Node) {mode : Nat} {entries : List (String × Node)}
    (h : tree.root.get? parent = some (.directory mode entries)) (name : String) :
    AgreeBut {parent ++ [name]} (tree.setEntry parent name value) tree :=
  ⟨rfl, fun _ off => Node.map_bare_get?_set h value (off _ rfl)⟩

theorem OrAbsent.antisymm {α : Type} {x y : Except Cause α} (h : OrAbsent x y)
    (h' : OrAbsent y x) : x = y := by
  rcases h with absent | same
  · rcases h' with absent' | same
    · rw [absent, absent']
    · exact same.symm
  · exact same

namespace AgreeBut

theorem entry? (h : AgreeBut places a b) (off : ∀ place ∈ places, ¬ place <+: parent ++ [name]) :
    (a.entry? parent name).map Node.bare = (b.entry? parent name).map Node.bare :=
  h.bare (parent ++ [name]) off

theorem place_eq (h : AgreeBut ∅ a b) (path : Path) : a.place path = b.place path :=
  (h.partOf_of_empty.within.place path).antisymm (h.symm.partOf_of_empty.within.place path)

theorem names_iff (h : AgreeBut ∅ a b) : a.Names path parent name ↔ b.Names path parent name := by
  rw [Names, Names, h.place_eq]

theorem walk_eq (h : AgreeBut ∅ a b) (location : Location) (names : List String) :
    walk a.root location names = walk b.root location names :=
  (h.partOf_of_empty.within.root.walkWithin mostLinks location names).antisymm
    (h.symm.partOf_of_empty.within.root.walkWithin mostLinks location names)

/-- Whether there is something of a kind at a location is the same in both. -/
theorem any_get? (h : AgreeBut places a b) {location : Location}
    (off : ∀ place ∈ places, ¬ place <+: location) {test : Node → Bool}
    (blind : ∀ node : Node, test node.bare = test node) :
    (a.root.get? location).any test = (b.root.get? location).any test := by
  rw [← Node.any_map_bare blind, h.bare location off, Node.any_map_bare blind]

theorem checkChangeable_eq (h : AgreeBut places a b) {location : Location}
    (off : ∀ place ∈ places, ¬ place <+: location) :
    a.checkChangeable location = b.checkChangeable location := by
  unfold checkChangeable
  rw [h.any_get? off (by simp)]

theorem locate_eq (h : AgreeBut ∅ a b) (path : Path) : a.locate path = b.locate path := by
  have start : a.start path = b.start path := by rw [FileTree.start, FileTree.start, h.working]
  have directory (location : Location) :
      checkDirectory a.root location = checkDirectory b.root location := by
    rw [checkDirectory, checkDirectory, h.any_get? (by simp) Node.isDirectory_bare]
  simp only [locate, start, h.walk_eq, directory]

theorem hasNode_eq (h : AgreeBut ∅ a b) (path : Path) : a.hasNode path = b.hasNode path := by
  unfold hasNode node
  rw [h.locate_eq path]
  cases b.locate path with
  | error cause => rfl
  | ok location =>
    have same := h.bare location (by simp)
    cases there : a.root.get? location <;> cases there' : b.root.get? location <;>
      simp_all [bind, Except.bind, pure, Except.pure, Except.isOk, Except.toBool]

theorem hasEntry_eq (h : AgreeBut ∅ a b) (ends : path.EndsIn name) :
    a.hasEntry path = b.hasEntry path := by
  rw [Bool.eq_iff_iff]
  have one {a b : FileTree} (h : AgreeBut ∅ a b) (there : a.hasEntry path = true) :
      b.hasEntry path = true := by
    obtain ⟨directory, named⟩ := Names.of_hasEntry ends there
    obtain ⟨checked, found⟩ := named.hasEntry_iff.mp there
    exact (h.names_iff.mp named).hasEntry_iff.mpr
      ⟨checked, h.partOf_of_empty.within.entry?_ne_none found⟩
  exact ⟨one h, one h.symm⟩

theorem setEntry (h : AgreeBut ∅ a b) (value : Option Node) {mode : Nat}
    {entries : List (String × Node)}
    (found : a.root.get? parent = some (.directory mode entries)) (name : String) :
    AgreeBut ∅ (a.setEntry parent name value) (b.setEntry parent name value) := by
  obtain ⟨other, found', alike⟩ : ∃ other, b.root.get? parent = some other ∧
      other.bare = (Node.directory mode entries).bare := h.partOf_of_empty.root _ _ found
  cases other with
  | file _ _ => cases alike
  | link _ => cases alike
  | directory mode' entries' =>
    have first := agreeBut_setEntry value found name
    have last := agreeBut_setEntry value found' name
    refine ((first.trans (h.mono (Set.empty_subset _))).trans last.symm).fill_singleton ?_
    exact (entry?_setEntry_same value found).trans (entry?_setEntry_same value found').symm

end AgreeBut

/-- What is done at a path that names an entry to make a file there. -/
theorem Names.createFile_eq (h : tree.Names path parent name) (content : ByteArray) :
    tree.createFile path content = (do
      checkName name
      match tree.entry? parent name with
      | some _ => .error .present
      | none => tree.addEntry parent name (.file Node.newMode content)) := by
  unfold createFile
  rw [h]
  rfl

/-- What is done at a path that names an entry to remove a file. -/
theorem Names.removeFile_eq (h : tree.Names path parent name) :
    tree.removeFile path = (do
      checkName name
      match tree.entry? parent name with
      | none => .error .absent
      | some node =>
        tree.checkChangeable parent
        if node.isDirectory then .error .isDirectory
        else return tree.setEntry parent name none) := by
  unfold removeFile
  rw [h]
  rfl

/-- Why steps may lead nowhere. -/
def wayFaults : List Cause :=
  [.absent, .denied, .notDirectory, .nameTooLong, .tooManyLinks, .nulInPath]

theorem failsBy_checkName (name : String) : FailsBy wayFaults (checkName name) := by
  unfold checkName
  split
  · exact .error (by decide)
  · exact .ok ()

theorem failsBy_passage (root : Node) (location : Location) :
    FailsBy wayFaults (passage root location) := by
  unfold passage
  split
  · split
    · exact .error (by decide)
    · exact .ok _
  · exact .error (by decide)
  · exact .error (by decide)

theorem failsBy_advance (root : Node) (location : Location) (names : List String) :
    FailsBy wayFaults (advance root location names) := by
  induction names generalizing location with
  | nil => exact .ok _
  | cons step rest ih =>
    refine (failsBy_passage root location).bind fun entries => ?_
    split
    · exact ih location
    · split
      · exact ih location.dropLast
      · refine (failsBy_checkName step).bind fun _ => ?_
        split
        · exact .error (by decide)
        · exact .ok _
        · exact ih _

theorem failsBy_walkWithin (root : Node) (links : Nat) (location : Location)
    (names : List String) : FailsBy wayFaults (walkWithin root links location names) := by
  induction links generalizing location names with
  | zero =>
    refine (failsBy_advance root location names).bind fun reached => ?_
    cases reached with
    | arrived there => exact .ok there
    | met directory target rest => exact .error (by decide)
  | succ links ih =>
    refine (failsBy_advance root location names).bind fun reached => ?_
    cases reached with
    | arrived there => exact .ok there
    | met directory target rest => exact ih _ _

theorem failsBy_checkPath (path : Path) : FailsBy wayFaults (checkPath path) := by
  unfold checkPath
  split
  · exact .error (by decide)
  · split
    · exact .error (by decide)
    · split
      · exact .error (by decide)
      · exact .ok ()

theorem failsBy_place (tree : FileTree) (path : Path) : FailsBy wayFaults (tree.place path) := by
  refine (failsBy_checkPath path).bind fun _ =>
    (failsBy_walkWithin tree.root mostLinks _ _).bind fun parent =>
      (failsBy_passage tree.root parent).bind fun _ => ?_
  split
  · exact .ok _
  · split <;> exact .ok _

/-- Nothing but an entry that is there keeps a step from being made because it is there. -/
def Passes {α : Type} (answer : Except Cause α) : Prop :=
  answer ≠ .error .present

theorem passes_place (tree : FileTree) (path : Path) : Passes (tree.place path) :=
  fun failed => absurd (failsBy_place tree path _ failed) (by decide)

/-- Making a file fails because something is there just where there is an entry. -/
theorem createFile_eq_present_iff (ends : path.EndsIn name) (content : ByteArray) :
    tree.createFile path content = .error .present ↔ tree.hasEntry path = true := by
  constructor
  · intro failed
    cases placed : tree.place path with
    | error cause =>
      have through : tree.createFile path content = .error cause := by
        simp [createFile, placed, bind, Except.bind]
      obtain rfl : cause = .present := Except.error.inj (through.symm.trans failed)
      exact absurd placed (passes_place tree path)
    | ok place =>
      obtain ⟨directory, named⟩ := ends.names placed
      rw [named.createFile_eq] at failed
      refine named.hasEntry_iff.mpr ?_
      cases checked : checkName name with
      | error cause =>
        unfold checkName at checked
        split at checked <;> cases checked
        simp [checkName, *, bind, Except.bind] at failed
      | ok =>
        refine ⟨rfl, fun absent => ?_⟩
        simp only [checked, absent, bind, Except.bind, addEntry, checkChangeable] at failed
        split at failed
        · next stopped =>
          split at stopped <;> cases stopped
          cases failed
        · cases failed
  · intro there
    obtain ⟨directory, named⟩ := Names.of_hasEntry ends there
    obtain ⟨checked, found⟩ := named.hasEntry_iff.mp there
    obtain ⟨node, found⟩ := Option.ne_none_iff_exists'.mp found
    exact named.createFile_of_entry content checked found

/-- In trees that agree a file is made in both, or in none for the same cause. -/
theorem AgreeBut.createFile_cases (h : AgreeBut ∅ a b) (ends : path.EndsIn name)
    (content : ByteArray) :
    (∃ cause, a.createFile path content = .error cause ∧
      b.createFile path content = .error cause) ∨
    ∃ made made', a.createFile path content = .ok made ∧ b.createFile path content = .ok made' ∧
      AgreeBut ∅ made made' := by
  cases placed : a.place path with
  | error cause =>
    have placed' := (h.place_eq path).symm.trans placed
    exact .inl ⟨cause, by simp [createFile, placed, placed', bind, Except.bind]⟩
  | ok place =>
    obtain ⟨directory, named⟩ := ends.names placed
    obtain ⟨mode, entries, found⟩ := named.exists_directory
    have same : (a.entry? directory name).map Node.bare = (b.entry? directory name).map Node.bare :=
      h.entry? (by simp)
    rw [named.createFile_eq, (h.names_iff.mp named).createFile_eq, addEntry, addEntry,
      h.checkChangeable_eq (by simp)]
    cases checkName name with
    | error cause => exact .inl ⟨cause, rfl, rfl⟩
    | ok =>
      cases there : a.entry? directory name <;> cases there' : b.entry? directory name <;>
        simp only [there, there', Option.map_none, Option.map_some, reduceCtorEq] at same
      · cases b.checkChangeable directory with
        | error cause => exact .inl ⟨cause, rfl, rfl⟩
        | ok => exact .inr ⟨_, _, rfl, rfl, h.setEntry _ found name⟩
      · exact .inl ⟨.present, rfl, rfl⟩

/-- A file is new where there was nothing, in a directory that may be changed. -/
theorem Names.of_createFile (ends : path.EndsIn name) {content : ByteArray}
    (ok : tree.createFile path content = .ok made) :
    ∃ directory, tree.Names path directory name ∧ checkName name = .ok () ∧
      tree.entry? directory name = none ∧ tree.checkChangeable directory = .ok () ∧
      made = tree.setEntry directory name (some (.file Node.newMode content)) := by
  obtain ⟨place, placed, -⟩ := bind_eq_ok_iff.mp ok
  obtain ⟨directory, named⟩ := ends.names placed
  obtain ⟨checked, absent, same⟩ := named.createFile_eq_ok ok
  refine ⟨directory, named, checked, absent, ?_, same⟩
  rw [named.createFile_eq, checked, absent] at ok
  obtain ⟨⟨⟩, -, entered⟩ := bind_eq_ok_iff.mp ok
  obtain ⟨⟨⟩, changeable, -⟩ := bind_eq_ok_iff.mp entered
  exact changeable

theorem not_append_prefix_self (location : Location) (name : String) (rest : Location) :
    ¬ location ++ name :: rest <+: location := by
  intro h
  have := h.length_le
  simp only [List.length_append, List.length_cons] at this
  omega

/-- What is new in a directory turns no path. -/
theorem partOf_setEntry {mode : Nat} {entries : List (String × Node)}
    (found : tree.root.get? parent = some (.directory mode entries))
    (absent : tree.entry? parent name = none) (value : Option Node) :
    PartOf tree (tree.setEntry parent name value) :=
  (agreeBut_setEntry value found name).symm.partOf fun _ mem => by
    rwa [Set.mem_singleton_iff.mp mem]

/-- A file that was made is there. -/
theorem hasEntry_of_createFile (ends : path.EndsIn name) {content : ByteArray}
    (ok : tree.createFile path content = .ok made) : made.hasEntry path = true := by
  obtain ⟨directory, named, checked, absent, -, rfl⟩ := Names.of_createFile ends ok
  obtain ⟨mode, entries, found⟩ := named.exists_directory
  refine ((partOf_setEntry found absent _).names named).hasEntry_iff.mpr ⟨checked, ?_⟩
  rw [entry?_setEntry_same _ found]
  exact Option.some_ne_none _

/-- A file that was made can be removed again, and then there is nothing else. -/
theorem exists_removeFile_of_createFile (ends : path.EndsIn name) {content : ByteArray}
    (ok : tree.createFile path content = .ok made) :
    ∃ left, made.removeFile path = .ok left ∧ AgreeBut ∅ left tree := by
  obtain ⟨directory, named, checked, absent, changeable, rfl⟩ := Names.of_createFile ends ok
  obtain ⟨mode, entries, found⟩ := named.exists_directory
  have new := agreeBut_setEntry (some (.file Node.newMode content)) found name
  have named' := (partOf_setEntry found absent (some (.file Node.newMode content))).names named
  obtain ⟨mode', entries', found'⟩ := named'.exists_directory
  have changeable' : checkChangeable (tree.setEntry directory name
      (some (.file Node.newMode content))) directory = .ok () := by
    rw [new.checkChangeable_eq (by simpa using not_append_prefix_self directory name []),
      changeable]
  refine ⟨_, ?_, ((agreeBut_setEntry none found' name).trans new).fill_singleton ?_⟩
  · rw [named'.removeFile_eq, checked, entry?_setEntry_same _ found]
    simp only [bind, Except.bind, changeable', Node.isDirectory, Bool.false_eq_true, if_false]
    rfl
  · exact (entry?_setEntry_same none found').trans absent.symm

end ProfilingSession.FileTree
