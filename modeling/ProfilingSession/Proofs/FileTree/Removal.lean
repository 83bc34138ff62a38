import ProfilingSession.Proofs.FileTree.Within

/-!
# What removal leaves

A tree is part of another one if it has nothing that is not in that one, with the same permissions,
contents and targets; `removeFile` leaves a part of the tree. A part answers what the whole does,
or that something is missing: no path leads anywhere new, since no link that could lead it there
was made. So what is gone from a path stays gone when more is removed, whatever links the paths go
through.
-/

namespace ProfilingSession.FileTree

variable {left tree : FileTree} {path : Path} {directory location : Location}
variable {name : String}

namespace Node

variable {part whole : Node}

def bare (node : Node) : Node :=
  node.withEntries fun _ => []

@[simp]
theorem bare_withEntries (change : List (String × Node) → List (String × Node)) (node : Node) :
    (node.withEntries change).bare = node.bare := by
  cases node <;> rfl

/-- Whatever is in one tree is in another one, where directories may have more entries. -/
def PartOf (part whole : Node) : Prop :=
  ∀ location node, part.get? location = some node →
    ∃ other, whole.get? location = some other ∧ other.bare = node.bare

theorem PartOf.refl (node : Node) : PartOf node node :=
  fun _ found there => ⟨found, there, rfl⟩

theorem PartOf.within (h : PartOf part whole) : part.Within whole := by
  intro location node there
  obtain ⟨other, there', alike⟩ := h location node there
  refine ⟨other, there', ?_⟩
  cases node <;> cases other <;> cases alike <;> rfl

theorem partOf_of_lookup (alike : whole.bare = part.bare)
    (inside : ∀ name child, lookup name part.entries = some child →
      ∃ other, lookup name whole.entries = some other ∧ PartOf child other) :
    PartOf part whole := by
  intro location node there
  cases location with
  | nil =>
    obtain rfl := Option.some.inj there
    exact ⟨whole, rfl, alike⟩
  | cons name rest =>
    obtain ⟨child, found, below⟩ := Option.bind_eq_some_iff.mp there
    obtain ⟨other, found', part⟩ := inside name child found
    obtain ⟨at', there', same⟩ := part rest node below
    exact ⟨at', by rw [get?_cons, found', Option.bind_some, there'], same⟩

/-- An entry after an assignment is the one that was assigned, or was there before. -/
theorem lookup_entries_assign {node child : Node} {value : Option Node} {name other : String}
    (found : lookup other (node.withEntries (assign name value)).entries = some child) :
    value = some child ∧ other = name ∨ lookup other node.entries = some child := by
  cases node with
  | file _ _ => exact .inr found
  | link _ => exact .inr found
  | directory mode entries =>
    rw [withEntries, Node.entries] at found
    by_cases same : other = name
    · subst same
      exact .inl ⟨by rwa [lookup_assign_same] at found, rfl⟩
    · exact .inr (by rwa [lookup_assign_of_ne same] at found)

/-- Taking something away leaves a part. -/
theorem partOf_set_none (node : Node) (location : Location) :
    PartOf (node.set none location) node := by
  induction location generalizing node with
  | nil => exact .refl node
  | cons name rest ih =>
    cases rest with
    | nil =>
      refine partOf_of_lookup (by simp [set]) fun other child found => ?_
      obtain ⟨none', -⟩ | found := lookup_entries_assign found
      · cases none'
      · exact ⟨child, found, .refl child⟩
    | cons next deeper =>
      rw [set]
      split
      · next child inside =>
        refine partOf_of_lookup (by simp) fun other changed found => ?_
        obtain ⟨same, rfl⟩ | found := lookup_entries_assign found
        · obtain rfl := Option.some.inj same
          exact ⟨child, inside, ih child⟩
        · exact ⟨changed, found, .refl changed⟩
      · exact .refl node

end Node

/-- Whatever is in one tree is in another one; both have the same working directory. -/
structure PartOf (part whole : FileTree) : Prop where
  working : part.working = whole.working
  root : part.root.PartOf whole.root

namespace PartOf

variable {part whole : FileTree}

theorem refl (tree : FileTree) : PartOf tree tree := ⟨rfl, .refl tree.root⟩

theorem within (h : PartOf part whole) : Within part whole := ⟨h.working, h.root.within⟩

/-- A path that names an entry in a part names it in the whole, too. -/
theorem names (h : PartOf part whole) (named : part.Names path directory name) :
    whole.Names path directory name :=
  h.within.names named

end PartOf

/-- What is left when a file was removed is part of the tree. -/
theorem partOf_of_removeFile (ok : tree.removeFile path = .ok left) : PartOf left tree := by
  unfold removeFile at ok
  obtain ⟨place, -, ok⟩ := bind_eq_ok_iff.mp ok
  split at ok
  · cases ok
  · next name _ =>
    obtain ⟨_, -, ok⟩ := bind_eq_ok_iff.mp ok
    split at ok
    · cases ok
    · split at ok
      · cases ok
      · obtain ⟨_, -, ok⟩ := bind_eq_ok_iff.mp ok
        split at ok
        · cases ok
        · cases ok
          exact ⟨rfl, Node.partOf_set_none tree.root (place.parent ++ [name])⟩

/-- Whether there is an entry at a path, be it a link that leads nowhere. -/
def hasEntry (tree : FileTree) (path : Path) : Bool :=
  (tree.entry path).isOk

namespace Path

/-- The last step of a path is a name, which may be that of a file. -/
structure EndsIn (path : Path) (name : String) : Prop where
  ne_dot : name ≠ "."
  ne_dots : name ≠ ".."
  slash : endsInSlash path = false
  route_eq : ∃ above, route path = above ++ [name]

theorem endsIn_join (path : Path) (plain : '/' ∉ name.toList) (ne : name ≠ "") (dot : name ≠ ".")
    (dots : name ≠ "..") : EndsIn (join path name) name :=
  ⟨dot, dots, endsInSlash_join path plain ne, route path, route_join path plain ne⟩

end Path

/-- A path that ends in a name names an entry, if it leads to a place at all. -/
theorem Path.EndsIn.names (h : path.EndsIn name) {place : Place}
    (placed : tree.place path = .ok place) : ∃ directory, tree.Names path directory name := by
  obtain ⟨above, shape⟩ := h.route_eq
  refine ⟨place.parent, ?_⟩
  unfold Names
  rw [placed]
  unfold FileTree.place placeFrom at placed
  obtain ⟨_, -, placed⟩ := bind_eq_ok_iff.mp placed
  obtain ⟨parent, -, placed⟩ := bind_eq_ok_iff.mp placed
  obtain ⟨_, -, placed⟩ := bind_eq_ok_iff.mp placed
  simp only [shape, List.getLast?_append, List.getLast?_singleton, Option.some_or, h.ne_dot,
    h.ne_dots, decide_false, Bool.or_false, Bool.false_eq_true, if_false, h.slash] at placed
  cases placed
  rfl

theorem Names.hasEntry_iff (h : tree.Names path directory name) :
    tree.hasEntry path = true ↔
      checkName name = .ok () ∧ tree.entry? directory name ≠ none := by
  unfold hasEntry entry
  rw [h]
  cases checked : checkName name <;> cases found : tree.entry? directory name <;>
    simp [checked, found, bind, Except.bind, Except.isOk, Except.toBool]

/-- A path at which there is an entry names it, if it ends in a name. -/
theorem Names.of_hasEntry (h : path.EndsIn name) (there : tree.hasEntry path = true) :
    ∃ directory, tree.Names path directory name := by
  cases placed : tree.place path with
  | error cause => simp [hasEntry, entry, placed, bind, Except.bind, Except.isOk, Except.toBool]
      at there
  | ok place => exact h.names placed

/-- There is nothing in a part that is not in the whole. -/
theorem PartOf.hasEntry (part : PartOf left tree) (h : path.EndsIn name)
    (there : left.hasEntry path = true) : tree.hasEntry path = true := by
  obtain ⟨directory, named⟩ := Names.of_hasEntry h there
  obtain ⟨checked, found⟩ := named.hasEntry_iff.mp there
  exact (part.names named).hasEntry_iff.mpr ⟨checked, part.within.entry?_ne_none found⟩

/-- A file that was removed is gone. -/
theorem hasEntry_of_removeFile (h : path.EndsIn name) (ok : tree.removeFile path = .ok left) :
    left.hasEntry path = false := by
  obtain ⟨place, placed, -⟩ := bind_eq_ok_iff.mp ok
  obtain ⟨directory, named⟩ := h.names placed
  obtain ⟨mode, entries, found⟩ := named.exists_directory
  obtain rfl := named.removeFile_eq_ok ok
  by_contra there
  rw [Bool.not_eq_false] at there
  -- The path may have led through what was removed, but then it leads nowhere now.
  obtain ⟨directory', named'⟩ := Names.of_hasEntry h there
  cases ((partOf_of_removeFile ok).names named').symm.trans named
  exact (named'.hasEntry_iff.mp there).2 (entry?_setEntry_same none found)

/-- Where there is nothing to remove there is nothing. -/
theorem hasEntry_of_removeFile_absent (h : path.EndsIn name)
    (absent : tree.removeFile path = .error .absent) : tree.hasEntry path = false := by
  by_contra there
  rw [Bool.not_eq_false] at there
  obtain ⟨directory, named⟩ := Names.of_hasEntry h there
  obtain ⟨checked, found⟩ := named.hasEntry_iff.mp there
  obtain ⟨node, found⟩ := Option.ne_none_iff_exists'.mp found
  unfold removeFile checkChangeable at absent
  rw [named] at absent
  simp only [bind, Except.bind, checked, found, Bool.false_eq_true, if_false] at absent
  split at absent
  · next failed =>
    split at failed <;> cases failed
    cases absent
  · split at absent <;> cases absent

/-- What is in a tree and cannot be removed from a part of it is in that part. -/
theorem PartOf.hasEntry_of_removeFile (part : PartOf left tree) (h : path.EndsIn name)
    (there : tree.hasEntry path = true) {cause : Cause} (present : cause ≠ .absent)
    (failed : left.removeFile path = .error cause) : left.hasEntry path = true := by
  obtain ⟨directory, named⟩ := Names.of_hasEntry h there
  obtain ⟨checked, -⟩ := named.hasEntry_iff.mp there
  unfold removeFile at failed
  rcases part.within.place path with missing | same
  · rw [missing] at failed
    exact absurd (Except.error.inj failed).symm present
  · have named' : left.Names path directory name := same.trans named
    rw [named'] at failed
    refine named'.hasEntry_iff.mpr ⟨checked, fun absent => ?_⟩
    simp only [bind, Except.bind, checked, absent, Except.error.injEq] at failed
    exact present failed.symm

end ProfilingSession.FileTree
