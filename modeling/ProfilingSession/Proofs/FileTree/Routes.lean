import ProfilingSession.Proofs.FileTree.Entries

/-!
# Paths without turns

A path leads straight to a directory if each of its steps is the name of an open directory in the
one before, so that no link and no dots are on the way. Then the path names the entries of that
directory when names are joined to it, and goes on doing so however the entries are changed. Names
that are joined to any other path name entries of one directory, too, if they name entries at all.
-/

namespace ProfilingSession.FileTree

variable {tree : FileTree} {root : Node} {path : Path} {directory location : Location}
variable {name : String}

namespace Path

theorem pieces_ne_nil (s : List Char) : pieces s ≠ [] := by
  cases s with
  | nil => simp [pieces]
  | cons c rest =>
    simp only [pieces]
    split
    · simp
    · split <;> simp

/-- A slash ends one piece and begins another one. -/
theorem pieces_append_slash (s t : List Char) :
    pieces (s ++ '/' :: t) = pieces s ++ pieces t := by
  induction s with
  | nil => simp [pieces]
  | cons c rest ih =>
    by_cases slash : c = '/'
    · simp [pieces, slash, ih]
    · rw [List.cons_append, pieces, pieces, if_neg slash, if_neg slash, ih]
      cases found : pieces rest with
      | nil => exact absurd found (pieces_ne_nil rest)
      | cons first more => rfl

theorem pieces_of_not_mem {s : List Char} (h : '/' ∉ s) : pieces s = [s] := by
  induction s with
  | nil => rfl
  | cons c rest ih =>
    rw [List.mem_cons, not_or] at h
    rw [pieces, if_neg (Ne.symm h.1), ih h.2]

theorem route_of_not_mem (plain : '/' ∉ name.toList) (ne : name ≠ "") : route name = [name] := by
  simp [route, pieces_of_not_mem plain, ne]

theorem isAbsolute_of_not_mem (plain : '/' ∉ name.toList) : isAbsolute name = false := by
  cases shape : name.toList with
  | nil => simp [isAbsolute, shape]
  | cons c rest =>
    have ne : c ≠ '/' := by
      rintro rfl
      exact plain (by simp [shape])
    simp [isAbsolute, shape, ne]

/-- A name that is joined to a path is its last step. -/
theorem route_join (path : Path) (plain : '/' ∉ name.toList) (ne : name ≠ "") :
    route (join path name) = route path ++ [name] := by
  have one : (List.map String.ofList (pieces name.toList)).filter (fun n => n != "") = [name] :=
    route_of_not_mem plain ne
  unfold join
  rw [isAbsolute_of_not_mem plain]
  by_cases empty : path = ""
  · subst empty
    simpa [route, pieces] using route_of_not_mem plain ne
  · by_cases slash : endsInSlash path = true
    · obtain ⟨front, shape⟩ : ∃ front, path.toList = front ++ ['/'] := by
        rw [endsInSlash, beq_iff_eq] at slash
        exact List.getLast?_eq_some_iff.mp slash
      simp [empty, slash, route, String.toList_append, shape, pieces_append_slash, one, pieces]
    · simp [empty, slash, route, String.toList_append, pieces_append_slash, one]

theorem isAbsolute_join (path : Path) (plain : '/' ∉ name.toList) :
    isAbsolute (join path name) = isAbsolute path := by
  unfold join
  rw [isAbsolute_of_not_mem plain]
  by_cases empty : path = ""
  · subst empty
    have working : isAbsolute "" = false := by decide
    simpa [working] using isAbsolute_of_not_mem plain
  · have some' : path.toList ≠ [] := by simpa using empty
    obtain ⟨c, rest, shape⟩ := List.exists_cons_of_ne_nil some'
    by_cases slash : endsInSlash path = true <;>
      simp [empty, slash, isAbsolute, String.toList_append, shape]

theorem endsInSlash_join (path : Path) (plain : '/' ∉ name.toList) (ne : name ≠ "") :
    endsInSlash (join path name) = false := by
  have some' : name.toList ≠ [] := by simpa using ne
  obtain ⟨front, c, shape⟩ := (List.eq_nil_or_concat _).resolve_left some'
  rw [List.concat_eq_append] at shape
  have last : c ≠ '/' := by
    rintro rfl
    exact plain (by simp [shape])
  unfold join
  split
  · simp [endsInSlash, shape, last]
  · split <;>
      simp [endsInSlash, String.toList_append, shape, List.getLast?_cons, last]

end Path

/-- There is a directory at a location, and it may be gone through. -/
def Open (root : Node) (location : Location) : Prop :=
  ∃ entries, passage root location = .ok entries

theorem open_iff :
    Open root location ↔ ∃ mode entries,
      root.get? location = some (.directory mode entries) ∧ mode &&& Node.mayRunBit ≠ 0 := by
  constructor
  · rintro ⟨entries, passed⟩
    obtain ⟨mode, found, run⟩ := exists_of_passage passed
    exact ⟨mode, entries, found, run⟩
  · rintro ⟨mode, entries, found, run⟩
    exact ⟨entries, by simp [passage, found, run]⟩

theorem Open.set {above : Location} (h : Open root above) (value : Option Node) (name : String)
    (below : Location) : Open (root.set value (above ++ name :: below)) above := by
  obtain ⟨mode, entries, found, run⟩ := open_iff.mp h
  obtain ⟨entries', found'⟩ := Node.get?_set_of_below value name below found
  exact open_iff.mpr ⟨mode, entries', found', run⟩

/-- Every step from a location is the name of an open directory. -/
def Straight (root : Node) : Location → List String → Prop
  | location, [] => Open root location
  | location, name :: rest =>
    Open root location ∧ name ≠ "." ∧ name ≠ ".." ∧ checkName name = .ok () ∧
      Straight root (location ++ [name]) rest

@[simp]
theorem straight_nil : Straight root location [] ↔ Open root location := Iff.rfl

namespace Straight

variable {names : List String}

theorem open_start (h : Straight root location names) : Open root location := by
  cases names with
  | nil => exact h
  | cons name rest => exact h.1

theorem open_end (h : Straight root location names) : Open root (location ++ names) := by
  induction names generalizing location with
  | nil => simpa using h
  | cons name rest ih => simpa using ih h.2.2.2.2

/-- Nothing that is done below its end turns a way. -/
theorem set (h : Straight root location names) (value : Option Node) (name : String)
    (below : Location) :
    Straight (root.set value (location ++ names ++ name :: below)) location names := by
  induction names generalizing location with
  | nil => simpa using (straight_nil.mp h).set value name below
  | cons step rest ih =>
    obtain ⟨here, dot, dots, checked, further⟩ := h
    refine ⟨?_, dot, dots, checked, ?_⟩
    · simpa using here.set value step (rest ++ name :: below)
    · simpa using ih further

theorem advance_eq (h : Straight root location names) :
    advance root location names = .ok (.arrived (location ++ names)) := by
  induction names generalizing location with
  | nil => simp [advance]
  | cons name rest ih =>
    obtain ⟨⟨entries, passed⟩, dot, dots, checked, further⟩ := h
    obtain ⟨mode, inner, found, -⟩ := open_iff.mp further.open_start
    obtain ⟨mode', found', -⟩ := exists_of_passage passed
    rw [Node.get?_append_singleton, found'] at found
    have there : Node.lookup name entries = some (.directory mode inner) := found
    rw [advance, passed]
    simpa [dot, dots, checked, there, bind, Except.bind] using ih further

theorem walk_eq (h : Straight root location names) :
    walk root location names = .ok (location ++ names) := by
  simp [walk, mostLinks, walkWithin, h.advance_eq, bind, Except.bind, pure, Except.pure]

/-- A name that is joined to a straight path names an entry of the directory at its end. -/
theorem names_join (h : Straight tree.root (tree.start path) (Path.route path))
    (plain : '/' ∉ name.toList) (ne : name ≠ "") (dot : name ≠ ".") (dots : name ≠ "..")
    (fits : checkPath (Path.join path name) = .ok ()) :
    tree.Names (Path.join path name) (tree.start path ++ Path.route path) name := by
  refine names_iff.mpr ⟨fits, dot, dots, Path.endsInSlash_join path plain ne, h.open_end,
    Path.route path, Path.route_join path plain ne, ?_⟩
  have same : tree.start (Path.join path name) = tree.start path := by
    simp [start, startFrom, Path.isAbsolute_join path plain]
  rw [same]
  exact h.walk_eq

end Straight

/-- If one name that is joined to a path names an entry, another one does in the same directory. -/
theorem Names.join_of_join {other : String}
    (h : tree.Names (Path.join path other) directory other) (plain' : '/' ∉ other.toList)
    (ne' : other ≠ "") (plain : '/' ∉ name.toList) (ne : name ≠ "") (dot : name ≠ ".")
    (dots : name ≠ "..") (fits : checkPath (Path.join path name) = .ok ()) :
    tree.Names (Path.join path name) directory name := by
  obtain ⟨-, -, -, -, passed, above, shape, walked⟩ := names_iff.mp h
  rw [Path.route_join path plain' ne'] at shape
  obtain ⟨rfl, -⟩ := List.append_inj' shape rfl
  refine names_iff.mpr ⟨fits, dot, dots, Path.endsInSlash_join path plain ne, passed,
    Path.route path, Path.route_join path plain ne, ?_⟩
  rw [start, startFrom, Path.isAbsolute_join path plain'] at walked
  rwa [start, startFrom, Path.isAbsolute_join path plain]

/-- What the system takes as a path it takes up to any point. -/
theorem checkPath_of_append {more : String} (ne : path ≠ "")
    (h : checkPath (path ++ more) = .ok ()) : checkPath path = .ok () := by
  unfold checkPath at h ⊢
  split at h
  · cases h
  · next nul =>
    split at h
    · cases h
    · split at h
      · cases h
      · next short =>
        rw [String.toList_append, List.contains_append, Bool.or_eq_true, not_or] at nul
        rw [String.utf8ByteSize_append] at short
        rw [if_neg nul.1, if_neg ne, if_neg (by omega)]

theorem checkName_of_append {more : String} (h : checkName (name ++ more) = .ok ()) :
    checkName name = .ok () := by
  unfold checkName at h ⊢
  split at h
  · cases h
  · next short =>
    rw [String.utf8ByteSize_append] at short
    rw [if_neg (by omega)]

end ProfilingSession.FileTree
