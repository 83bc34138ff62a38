import ProfilingSession.FileTree.Change
import ProfilingSession.Proofs.Fallible

/-!
# Entries of a directory

What a path comes to that ends in the name of an entry. `Names tree path directory name` says that
the last step of a path is a name in a directory, however the path leads there; making, removing
and looking for a file at the path are then about that entry only, and about nothing else in the
tree.

A change of one entry leaves the other entries of its directory alone, and the directory itself
stays where it is, with its permissions.
-/

namespace ProfilingSession.FileTree

/-- The last step of a path is a name in a directory. -/
def Names (tree : FileTree) (path : Path) (directory : Location) (name : String) : Prop :=
  tree.place path = .ok ⟨directory, some name, false⟩

variable {tree : FileTree} {root : Node} {path : Path} {directory location : Location}
variable {name other : String}

namespace Node

theorem get?_append_singleton (node : Node) (location : Location) (name : String) :
    node.get? (location ++ [name]) =
      (node.get? location).bind fun directory => lookup name directory.entries := by
  induction location generalizing node with
  | nil => simp [get?]
  | cons first rest ih =>
    rw [List.cons_append, get?_cons, get?_cons]
    cases lookup first node.entries with
    | none => rfl
    | some child => exact ih child

/-- A change below a directory keeps the directory, with its permissions. -/
theorem get?_set_of_below (value : Option Node) {node : Node} {above : Location} (name : String)
    (below : Location) {mode : Nat} {entries : List (String × Node)}
    (h : node.get? above = some (.directory mode entries)) :
    ∃ entries', (node.set value (above ++ name :: below)).get? above =
      some (.directory mode entries') := by
  induction above generalizing node with
  | nil =>
    obtain rfl : node = .directory mode entries := by simpa using h
    cases below with
    | nil => exact ⟨_, rfl⟩
    | cons next rest =>
      cases found : lookup name entries with
      | none => exact ⟨entries, by simp [set, Node.entries, found]⟩
      | some child => exact ⟨_, by simp [set, Node.entries, found, withEntries]; rfl⟩
  | cons first rest ih =>
    rw [get?_cons, Option.bind_eq_some_iff] at h
    obtain ⟨child, found, deeper⟩ := h
    obtain ⟨entries', same⟩ := ih deeper
    obtain ⟨next, more, shape⟩ : ∃ next more, rest ++ name :: below = next :: more := by
      cases rest <;> simp
    rw [shape] at same
    cases node with
    | file _ _ => simp [Node.entries, lookup] at found
    | link _ => simp [Node.entries, lookup] at found
    | directory mode' inner =>
      refine ⟨entries', ?_⟩
      rw [List.cons_append, shape]
      simpa [set, withEntries, get?, Node.entries, show lookup first inner = some child from found]
        using same

end Node

theorem entry?_eq_some {mode : Nat} {entries : List (String × Node)}
    (h : tree.root.get? directory = some (.directory mode entries)) (name : String) :
    tree.entry? directory name = Node.lookup name entries := by
  unfold entry?
  rw [Node.get?_append_singleton, h]
  rfl

theorem entry?_setEntry_same (value : Option Node) {mode : Nat} {entries : List (String × Node)}
    (h : tree.root.get? directory = some (.directory mode entries)) :
    entry? (tree.setEntry directory name value) directory name = value :=
  Node.get?_set_same value directory name tree.root h

theorem entry?_setEntry_of_ne (value : Option Node) (h : other ≠ name) :
    entry? (tree.setEntry directory name value) directory other =
      tree.entry? directory other := by
  refine Node.get?_set_of_not_prefix value _ _ _ ?_ ?_ <;>
    simpa [List.prefix_append_right_inj] using fun e => h (by simp [e])

theorem exists_of_passage {entries : List (String × Node)}
    (h : passage root location = .ok entries) :
    ∃ mode, root.get? location = some (.directory mode entries) ∧
      mode &&& Node.mayRunBit ≠ 0 := by
  unfold passage at h
  split at h
  · next mode inner found =>
    split at h
    · cases h
    · next open' =>
      cases h
      exact ⟨mode, found, open'⟩
  · cases h
  · cases h

theorem exists_directory_of_place {place : Place} (placed : tree.place path = .ok place) :
    ∃ mode entries, tree.root.get? place.parent = some (.directory mode entries) := by
  obtain ⟨⟨⟩, -, placed⟩ := bind_eq_ok_iff.mp placed
  obtain ⟨parent, -, placed⟩ := bind_eq_ok_iff.mp placed
  obtain ⟨entries, passed, placed⟩ := bind_eq_ok_iff.mp placed
  obtain ⟨mode, found, -⟩ := exists_of_passage passed
  have same : place.parent = parent := by
    split at placed
    · cases placed
      rfl
    · split at placed <;> cases placed <;> rfl
  exact ⟨mode, entries, same ▸ found⟩

/-- A path leads to the place of an entry if the steps before its last one lead to an open directory,
and the last one is neither of the dots. -/
theorem place_eq_ok_iff {slash : Bool} :
    tree.place path = .ok ⟨directory, some name, slash⟩ ↔
      checkPath path = .ok () ∧ name ≠ "." ∧ name ≠ ".." ∧ Path.endsInSlash path = slash ∧
      (∃ entries, passage tree.root directory = .ok entries) ∧
      ∃ above, Path.route path = above ++ [name] ∧
        walk tree.root (tree.start path) above = .ok directory := by
  unfold place placeFrom
  constructor
  · intro h
    obtain ⟨_, checked, h⟩ := bind_eq_ok_iff.mp h
    obtain ⟨parent, walked, h⟩ := bind_eq_ok_iff.mp h
    obtain ⟨entries, passed, h⟩ := bind_eq_ok_iff.mp h
    split at h
    · cases h
    · next step last =>
      split at h
      · cases h
      · next plain =>
        simp only [pure, Except.pure, Except.ok.injEq, Place.mk.injEq, Option.some.injEq] at h
        obtain ⟨rfl, rfl, slash⟩ := h
        simp only [Bool.or_eq_true, decide_eq_true_eq, not_or] at plain
        obtain ⟨above, shape⟩ := List.getLast?_eq_some_iff.mp last
        refine ⟨checked, plain.1, plain.2, slash, ⟨entries, passed⟩, above, shape, ?_⟩
        rwa [shape, List.dropLast_concat] at walked
  · rintro ⟨checked, dot, dots, slash, ⟨entries, passed⟩, above, shape, walked⟩
    simp [checked, shape, walked, passed, dot, dots, slash, bind, Except.bind, pure, Except.pure]

theorem names_iff :
    tree.Names path directory name ↔
      checkPath path = .ok () ∧ name ≠ "." ∧ name ≠ ".." ∧ Path.endsInSlash path = false ∧
      (∃ entries, passage tree.root directory = .ok entries) ∧
      ∃ above, Path.route path = above ++ [name] ∧
        walk tree.root (tree.start path) above = .ok directory :=
  place_eq_ok_iff

namespace Names

theorem exists_directory (h : tree.Names path directory name) :
    ∃ mode entries, tree.root.get? directory = some (.directory mode entries) := by
  obtain ⟨-, -, -, -, ⟨entries, passed⟩, -⟩ := names_iff.mp h
  obtain ⟨mode, found, -⟩ := exists_of_passage passed
  exact ⟨mode, entries, found⟩

/-- A file is made only where there is nothing. -/
theorem createFile_eq_ok (h : tree.Names path directory name) {content : ByteArray}
    {made : FileTree} (ok : tree.createFile path content = .ok made) :
    checkName name = .ok () ∧ tree.entry? directory name = none ∧
      made = tree.setEntry directory name (some (.file Node.newMode content)) := by
  unfold createFile at ok
  obtain ⟨_, placed, ok⟩ := bind_eq_ok_iff.mp ok
  cases h.symm.trans placed
  obtain ⟨_, checked, ok⟩ := bind_eq_ok_iff.mp ok
  split at ok
  · cases ok
  · next absent =>
    obtain ⟨_, -, same⟩ := bind_eq_ok_iff.mp ok
    exact ⟨checked, absent, (Except.ok.inj same).symm⟩

/-- Where there is something no file is made, and that it is there is the reason. -/
theorem createFile_of_entry (h : tree.Names path directory name) (content : ByteArray)
    (checked : checkName name = .ok ()) {node : Node}
    (there : tree.entry? directory name = some node) :
    tree.createFile path content = .error .present := by
  unfold createFile
  rw [h]
  simp [checked, there, bind, Except.bind]

/-- What is removed is the entry, which is no directory. -/
theorem removeFile_eq_ok (h : tree.Names path directory name) {left : FileTree}
    (ok : tree.removeFile path = .ok left) : left = tree.setEntry directory name none := by
  unfold removeFile at ok
  obtain ⟨_, placed, ok⟩ := bind_eq_ok_iff.mp ok
  cases h.symm.trans placed
  obtain ⟨_, -, ok⟩ := bind_eq_ok_iff.mp ok
  split at ok
  · cases ok
  · simp only [Bool.false_eq_true, if_false] at ok
    obtain ⟨_, -, ok⟩ := bind_eq_ok_iff.mp ok
    split at ok
    · cases ok
    · exact (Except.ok.inj ok).symm

end Names

/-- Steps are made one after the other, up to a link; what is left after it stays. -/
theorem advance_append (root : Node) (location : Location) (names more : List String) :
    advance root location (names ++ more) =
      match advance root location names with
      | .error cause => .error cause
      | .ok (.arrived there) => advance root there more
      | .ok (.met there target rest) => .ok (.met there target (rest ++ more)) := by
  induction names generalizing location with
  | nil => rfl
  | cons step rest ih =>
    rw [List.cons_append, advance, advance]
    cases passage root location with
    | error cause => rfl
    | ok entries =>
      by_cases dot : step = "."
      · simpa [dot, bind, Except.bind] using ih location
      · by_cases dots : step = ".."
        · simpa [dots, bind, Except.bind] using ih location.dropLast
        · cases checked : checkName step with
          | error cause => simp [dot, dots, bind, Except.bind]
          | ok =>
            cases found : Node.lookup step entries with
            | none => simp [dot, dots, found, bind, Except.bind]
            | some child =>
              cases child with
              | link target =>
                simp [dot, dots, found, bind, Except.bind, pure, Except.pure]
              | file mode content =>
                simpa [dot, dots, checked, found, bind, Except.bind]
                  using ih (location ++ [step])
              | directory mode inner =>
                simpa [dot, dots, checked, found, bind, Except.bind]
                  using ih (location ++ [step])

theorem walkWithin_of_arrived {names : List String} {there : Location} (links : Nat)
    (h : advance root location names = .ok (.arrived there)) :
    walkWithin root links location names = .ok there := by
  cases links <;> simp [walkWithin, h, bind, Except.bind, pure, Except.pure]

theorem walkWithin_of_advance_error {names : List String} {cause : Cause} (links : Nat)
    (h : advance root location names = .error cause) :
    walkWithin root links location names = .error cause := by
  cases links <;> simp [walkWithin, h, bind, Except.bind]

/-- Steps lead to a location at once, or through a link with one link less. -/
theorem walkWithin_eq_ok_iff {links : Nat} {names : List String} {there : Location} :
    walkWithin root links location names = .ok there ↔
      advance root location names = .ok (.arrived there) ∨
      ∃ fewer directory target rest, links = fewer + 1 ∧
        advance root location names = .ok (.met directory target rest) ∧
        walkWithin root fewer (startFrom directory target) (linkSteps target ++ rest) =
          .ok there := by
  cases advanced : advance root location names with
  | error cause => simp [walkWithin_of_advance_error links advanced]
  | ok reached =>
    cases reached with
    | arrived location => simp [walkWithin_of_arrived links advanced]
    | met directory target rest =>
      cases links with
      | zero => simp [walkWithin, advanced, bind, Except.bind]
      | succ links =>
        simp only [walkWithin, advanced, bind, Except.bind]
        constructor
        · exact fun further => .inr ⟨links, directory, target, rest, rfl, rfl, further⟩
        · rintro (arrived | ⟨fewer, _, _, _, same, met, further⟩)
          · cases arrived
          · cases same
            cases met
            exact further

/-- Further steps go on where steps have led, with the links that are left. -/
theorem walkWithin_append {links : Nat} {names : List String}
    (walked : walkWithin root links location names = .ok directory) :
    ∃ left ≤ links, ∀ more, walkWithin root links location (names ++ more) =
      walkWithin root left directory more := by
  induction links using Nat.strongRecOn generalizing location names with
  | ind links ih =>
    rcases walkWithin_eq_ok_iff.mp walked with
      arrived | ⟨fewer, there, target, rest, rfl, met, further⟩
    · refine ⟨links, Nat.le_refl links, fun more => ?_⟩
      cases links <;> rw [walkWithin, walkWithin, advance_append, arrived]
    · -- A link that is met takes one of the links, with the further steps still to come.
      obtain ⟨left, le, goes⟩ := ih fewer (Nat.lt_succ_self fewer) further
      refine ⟨left, Nat.le_succ_of_le le, fun more => ?_⟩
      rw [walkWithin, advance_append, met]
      simpa [bind, Except.bind, List.append_assoc] using goes more

/-- A last step that meets no link leads to where it leads by itself, whatever links there are
before. -/
theorem walkWithin_concat {links : Nat} {names : List String} {answer : Except Cause Location}
    (walked : walkWithin root links location names = .ok directory)
    (last : advance root directory [name] = answer.map .arrived) :
    walkWithin root links location (names ++ [name]) = answer := by
  obtain ⟨left, -, further⟩ := walkWithin_append walked
  rw [further]
  cases answer with
  | error cause => exact walkWithin_of_advance_error left last
  | ok there => exact walkWithin_of_arrived left last

/-- With fewer links steps lead to the same place, or the links are too many. -/
theorem walkWithin_of_le {links more : Nat} (le : links ≤ more) (location : Location)
    (names : List String) :
    walkWithin root links location names = .error .tooManyLinks ∨
      walkWithin root links location names = walkWithin root more location names := by
  induction links generalizing more location names with
  | zero =>
    cases advanced : advance root location names with
    | error cause =>
      right
      rw [walkWithin_of_advance_error _ advanced, walkWithin_of_advance_error _ advanced]
    | ok reached =>
      cases reached with
      | arrived there =>
        right
        rw [walkWithin_of_arrived _ advanced, walkWithin_of_arrived _ advanced]
      | met there target rest =>
        left
        simp [walkWithin, advanced, bind, Except.bind]
  | succ links ih =>
    obtain ⟨more, rfl⟩ : ∃ fewer, more = fewer + 1 := ⟨more - 1, by omega⟩
    rw [walkWithin, walkWithin]
    cases advance root location names with
    | error cause => exact .inr rfl
    | ok reached =>
      cases reached with
      | arrived there => exact .inr rfl
      | met there target rest => exact ih (by omega) _ _

/-- The steps of a path lead to the entry at its place, if that is there and is no link. -/
theorem walk_of_place {slash : Bool} (h : tree.place path = .ok ⟨directory, some name, slash⟩)
    (checked : checkName name = .ok ())
    (plain : ∀ target, tree.entry? directory name ≠ some (.link target)) :
    walk tree.root (tree.start path) (Path.route path) =
      if (tree.entry? directory name).isSome then .ok (directory ++ [name])
      else .error .absent := by
  obtain ⟨-, dot, dots, -, ⟨entries, passed⟩, above, shape, walked⟩ := place_eq_ok_iff.mp h
  obtain ⟨mode, found, -⟩ := exists_of_passage passed
  rw [entry?_eq_some found] at plain ⊢
  rw [shape]
  refine walkWithin_concat walked ?_
  cases there : Node.lookup name entries with
  | none => simp [advance, passed, dot, dots, checked, there, bind, Except.bind, Except.map]
  | some node =>
    cases node with
    | link target => exact absurd there (plain target)
    | file _ _ => simp [advance, passed, dot, dots, checked, there, bind, Except.bind, Except.map]
    | directory _ _ =>
      simp [advance, passed, dot, dots, checked, there, bind, Except.bind, Except.map]

/-- A path leads to the entry at its place, which has to be a directory if the path says so. -/
theorem locate_of_place {slash : Bool} (h : tree.place path = .ok ⟨directory, some name, slash⟩)
    (checked : checkName name = .ok ()) {node : Node}
    (found : tree.entry? directory name = some node) (plain : ∀ target, node ≠ .link target)
    (asSaid : slash = true → node.isDirectory = true) :
    tree.locate path = .ok (directory ++ [name]) := by
  obtain ⟨fits, -, -, same, -⟩ := place_eq_ok_iff.mp h
  have arrived := walk_of_place h checked fun target link =>
    plain target (Option.some.inj (found.symm.trans link))
  rw [found, Option.isSome_some, if_pos rfl] at arrived
  have there : tree.root.get? (directory ++ [name]) = some node := found
  unfold locate
  rw [fits, arrived, same]
  cases slash with
  | false => rfl
  | true => simp [checkDirectory, there, asSaid rfl, bind, Except.bind, pure, Except.pure]

namespace Names

/-- A path leads to the entry that it names, if that is there and is no link. -/
theorem locate_eq (h : tree.Names path directory name) (checked : checkName name = .ok ())
    (plain : ∀ target, tree.entry? directory name ≠ some (.link target)) :
    tree.locate path =
      if (tree.entry? directory name).isSome then .ok (directory ++ [name])
      else .error .absent := by
  obtain ⟨fits, -, -, slash, -⟩ := names_iff.mp h
  unfold locate
  rw [fits, walk_of_place h checked plain, slash]
  split <;> simp [bind, Except.bind, pure, Except.pure]

/-- What a path leads to that names an entry which is no link. -/
theorem node_eq (h : tree.Names path directory name) (checked : checkName name = .ok ())
    (plain : ∀ target, tree.entry? directory name ≠ some (.link target)) :
    tree.node path = (tree.entry? directory name).elim (.error .absent) .ok := by
  unfold node
  rw [h.locate_eq checked plain]
  cases there : tree.entry? directory name with
  | none => rfl
  | some found =>
    unfold entry? at there
    simp [there, bind, Except.bind, pure, Except.pure]

/-- There is a file at a path if the entry that it names is a file. -/
theorem hasFile (h : tree.Names path directory name) (checked : checkName name = .ok ())
    {mode : Nat} {content : ByteArray}
    (there : tree.entry? directory name = some (.file mode content)) :
    tree.hasFile path = true := by
  simp [FileTree.hasFile, h.node_eq checked (by simp [there]), there]

theorem hasNode_eq (h : tree.Names path directory name) (checked : checkName name = .ok ())
    (plain : ∀ target, tree.entry? directory name ≠ some (.link target)) :
    tree.hasNode path = (tree.entry? directory name).isSome := by
  rw [hasNode, h.node_eq checked plain]
  cases tree.entry? directory name <;> rfl

end Names

theorem hasNode_of_hasFile (h : tree.hasFile path = true) : tree.hasNode path = true := by
  unfold hasFile at h
  unfold hasNode
  cases found : tree.node path with
  | ok node => rfl
  | error cause => simp [found] at h

end ProfilingSession.FileTree
