import ProfilingSession.Proofs.FileTree.Writing

/-!
# Trees that have grown

A tree has grown but for some places if everything in it is still there, no link is new, and files
elsewhere are the same; directories may be new. Making directories lets a tree grow without any such
place, and writing a file with that of the file. In a tree without links, which stays without links
when it grows, a path that ends in a name leads to an entry of that name, so that paths with
different last names never lead to the same file.
-/

namespace ProfilingSession.FileTree

variable {before between after tree : FileTree} {root : Node} {path : Path}
variable {places places' : Set Location} {directory location parent there : Location}
variable {name last : String} {names : List String} {links : Nat} {content : ByteArray}

/-- Everything in a tree is still there, and files outside of some places are the same. -/
structure Grew (places : Set Location) (before after : FileTree) : Prop where
  within : Within before after
  get?_iff : ∀ location ∉ places, ∀ node : Node, node.isDirectory = false →
    (after.root.get? location = some node ↔ before.root.get? location = some node)
  oldLink : ∀ location target, after.root.get? location = some (.link target) →
    before.root.get? location = some (.link target)

namespace Grew

theorem refl (places : Set Location) (tree : FileTree) : Grew places tree tree :=
  ⟨.refl tree, fun _ _ _ _ => Iff.rfl, fun _ _ found => found⟩

theorem mono (h : Grew places before after) (sub : places ⊆ places') :
    Grew places' before after :=
  ⟨h.within, fun location off => h.get?_iff location fun mem => off (sub mem), h.oldLink⟩

theorem trans (h : Grew places before between) (h' : Grew places between after) :
    Grew places before after :=
  ⟨h.within.trans h'.within,
    fun location off node noDirectory => (h'.get?_iff location off node noDirectory).trans
      (h.get?_iff location off node noDirectory),
    fun location target found => h.oldLink _ _ (h'.oldLink location target found)⟩

end Grew

theorem Wrote.grew (h : Wrote location content before after) : Grew {location} before after := by
  refine ⟨h.within, fun other off node noDirectory => h.get?_iff noDirectory off,
    fun other target found => (h.get?_iff rfl ?_).mp found⟩
  rintro rfl
  obtain ⟨mode, file⟩ := h.file
  cases file.symm.trans found

/-- Where a directory was made nothing has been, and nothing else is new. -/
theorem grew_of_setEntry {mode : Nat} {entries : List (String × Node)}
    (found : tree.root.get? parent = some (.directory mode entries))
    (absent : tree.entry? parent name = none) :
    Grew ∅ tree (tree.setEntry parent name (some .empty)) := by
  have agree := agreeBut_setEntry (some Node.empty) found name
  have same : ∀ location (node : Node), node.isDirectory = false →
      ((tree.setEntry parent name (some .empty)).root.get? location = some node ↔
        tree.root.get? location = some node) := by
    intro location node noDirectory
    by_cases below : parent ++ [name] <+: location
    · -- Below the new directory there is nothing, as before.
      obtain ⟨rest, rfl⟩ := below
      have made : (tree.setEntry parent name (some .empty)).root.get? (parent ++ [name]) =
          some .empty := entry?_setEntry_same _ found
      have plain : Plain (tree.root.get? (parent ++ [name])) := .inl absent
      cases rest with
      | nil =>
        rw [List.append_nil, made, show tree.root.get? (parent ++ [name]) = none from absent]
        cases node <;> simp_all [Node.empty, Node.isDirectory]
      | cons first rest =>
        rw [Node.get?_append, made, plain.get?_append_cons]
        rfl
    · exact agree.get?_eq_some_iff noDirectory (by simpa using below)
  exact ⟨(partOf_setEntry found absent _).within, fun location _ => same location,
    fun location target => (same location _ rfl).mp⟩

theorem grew_of_makeDirectory (ok : tree.makeDirectory path = .ok after) : Grew ∅ tree after := by
  obtain ⟨place, placed, ok⟩ := bind_eq_ok_iff.mp ok
  obtain ⟨mode, entries, found⟩ := exists_directory_of_place placed
  split at ok
  · cases ok
  · next name _ =>
    obtain ⟨⟨⟩, -, ok⟩ := bind_eq_ok_iff.mp ok
    split at ok
    · cases ok
    · next absent =>
      split at ok
      · cases ok
      · obtain ⟨⟨⟩, -, same⟩ := bind_eq_ok_iff.mp ok
        cases same
        exact grew_of_setEntry found absent

theorem grew_of_ensureDirectory (ok : tree.ensureDirectory path = .ok after) :
    Grew ∅ tree after := by
  unfold ensureDirectory at ok
  split at ok
  · next made =>
    cases ok
    exact grew_of_makeDirectory made
  · split at ok <;> cases ok
    exact .refl ∅ _

theorem grew_makeDirectoriesWithin (tree : FileTree) (path : Path) (height : Nat) :
    Grew ∅ tree (tree.makeDirectoriesWithin path height).1 := by
  have one (tree : FileTree) (path : Path) :
      Grew ∅ tree (tree.makeDirectoriesWithin path 0).1 := by
    rw [makeDirectoriesWithin]
    split
    · next made => exact grew_of_ensureDirectory made
    · exact .refl ∅ tree
  induction height generalizing path with
  | zero => exact one tree path
  | succ height ih =>
    rw [makeDirectoriesWithin]
    split
    · exact .refl ∅ tree
    · split
      · next made => exact grew_of_ensureDirectory made
      · next parent _ _ =>
        have above := ih parent
        split
        · next made done =>
          rw [done] at above
          exact above.trans (one made path)
        · exact above
      · exact .refl ∅ tree

/-- Directories that are made change no file, also when a later one cannot be made. -/
theorem grew_makeDirectories (tree : FileTree) (path : Path) :
    Grew ∅ tree (tree.makeDirectories path).1 :=
  grew_makeDirectoriesWithin tree path _

def Node.Linkless (node : Node) : Prop :=
  ∀ location target, node.get? location ≠ some (.link target)

theorem Grew.linkless (h : Grew places before after) (linkless : before.root.Linkless) :
    after.root.Linkless :=
  fun location target found => linkless location target (h.oldLink location target found)

namespace Node

theorem linkless_file (mode : Nat) (content : ByteArray) :
    (Node.file mode content).Linkless := by
  intro location target
  cases location <;> simp [get?_cons, Node.entries, lookup]

theorem mem_of_lookup {entries : List (String × Node)} {child : Node}
    (found : lookup name entries = some child) : (name, child) ∈ entries := by
  induction entries with
  | nil => cases found
  | cons entry rest ih =>
    rw [lookup] at found
    split at found
    · next same =>
      cases found
      rw [← same]
      exact List.mem_cons_self
    · exact List.mem_cons_of_mem _ (ih found)

theorem linkless_directory {mode : Nat} {entries : List (String × Node)}
    (each : ∀ entry ∈ entries, entry.2.Linkless) : (Node.directory mode entries).Linkless := by
  intro location target found
  cases location with
  | nil => cases found
  | cons name rest =>
    obtain ⟨child, inside, below⟩ := Option.bind_eq_some_iff.mp found
    exact each _ (mem_of_lookup inside) rest target below

end Node

namespace Node.Linkless

theorem exists_arrived (h : root.Linkless) {reached : Advance}
    (advanced : advance root location names = .ok reached) :
    ∃ there, reached = .arrived there := by
  induction names generalizing location with
  | nil =>
    cases advanced
    exact ⟨location, rfl⟩
  | cons step rest ih =>
    have here : Open root location := .of_advance advanced
    by_cases dot : step = "."
    · subst dot
      exact ih (advance_dot here rest ▸ advanced)
    by_cases dots : step = ".."
    · subst dots
      exact ih (advance_dots here rest ▸ advanced)
    rw [advance_name here dot dots] at advanced
    obtain ⟨⟨⟩, -, advanced⟩ := bind_eq_ok_iff.mp advanced
    split at advanced
    · cases advanced
    · next target found => exact absurd found (h _ target)
    · exact ih advanced

theorem walkWithin_eq_ok_iff (h : root.Linkless) :
    walkWithin root links location names = .ok there ↔
      advance root location names = .ok (.arrived there) := by
  rw [FileTree.walkWithin_eq_ok_iff]
  refine or_iff_left ?_
  rintro ⟨_, _, _, _, -, met, -⟩
  obtain ⟨there, same⟩ := h.exists_arrived met
  cases same

/-- A path that ends in a name leads to an entry of that name, if it leads anywhere. -/
theorem names_of_locate (h : tree.root.Linkless) (ends : path.EndsIn name)
    (located : tree.locate path = .ok location) :
    ∃ directory, location = directory ++ [name] ∧ tree.Names path directory name ∧
      checkName name = .ok () := by
  obtain ⟨above, shape⟩ := ends.route_eq
  obtain ⟨⟨⟩, fits, located⟩ := bind_eq_ok_iff.mp located
  obtain ⟨reached, walked, same⟩ := bind_eq_ok_iff.mp located
  rw [ends.slash] at same
  cases same
  rw [shape, walk, h.walkWithin_eq_ok_iff, advance_append] at walked
  cases first : advance tree.root (tree.start path) above with
  | error cause => simp [first] at walked
  | ok reached =>
    obtain ⟨directory, rfl⟩ := h.exists_arrived first
    rw [first] at walked
    have here : Open tree.root directory := .of_advance walked
    refine ⟨directory, ?_⟩
    replace walked := (advance_name here ends.ne_dot ends.ne_dots []).symm.trans walked
    obtain ⟨⟨⟩, checked, walked⟩ := bind_eq_ok_iff.mp walked
    refine ⟨?_, names_iff.mpr ⟨fits, ends.ne_dot, ends.ne_dots, ends.slash, here, above, shape,
      h.walkWithin_eq_ok_iff.mpr first⟩, checked⟩
    split at walked
    · cases walked
    · next target found => exact absurd found (h _ target)
    · cases walked
      rfl

end Node.Linkless

end ProfilingSession.FileTree
