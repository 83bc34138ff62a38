import ProfilingSession.Proofs.FileTree.Routes

/-!
# What stays when files are written

A tree is within another one if whatever is in it is there, with the same permissions of directories
and the same targets of links; there may be more, and files may have other contents and permissions.
So is a tree within the ones that writing files and making directories leads to. A tree answers what
one does that it is within, or that something is missing: its paths lead where they did
(`Within.locate`), and a file whose location is not written is read as before (`Within.text`).
-/

namespace ProfilingSession.FileTree

variable {α β γ : Type} {part whole tree : FileTree} {path : Path} {directory location : Location}
variable {name : String}

/-- An answer is another one, or that something is missing. -/
def OrAbsent (part whole : Except Cause α) : Prop :=
  part = .error .absent ∨ part = whole

namespace OrAbsent

theorem refl (answer : Except Cause α) : OrAbsent answer answer := .inr rfl

theorem eq_ok {part whole : Except Cause α} {value : α} (h : OrAbsent part whole)
    (ok : part = .ok value) : whole = .ok value := by
  rcases h with absent | same
  · cases ok.symm.trans absent
  · exact same.symm.trans ok

/-- A step that gives the other answer or misses something, and then other steps. -/
theorem bind {part whole : Except Cause α} {next next' : α → Except Cause γ}
    (first : OrAbsent part whole) (rest : ∀ value, OrAbsent (next value) (next' value)) :
    OrAbsent (part >>= next) (whole >>= next') := by
  rcases first with rfl | rfl
  · exact .inl rfl
  · cases part with
    | error cause => exact .inr rfl
    | ok value => exact rest value

/-- A step that gives something whenever the other does or misses something, and then other
steps. -/
theorem bind_of_forget {part : Except Cause α} {whole : Except Cause β}
    {next : α → Except Cause γ} {next' : β → Except Cause γ}
    (first : OrAbsent (part.map fun _ => ()) (whole.map fun _ => ()))
    (rest : ∀ value value', part = .ok value → whole = .ok value' →
      OrAbsent (next value) (next' value')) :
    OrAbsent (part >>= next) (whole >>= next') := by
  cases part with
  | error cause =>
    rcases first with missing | same
    · obtain rfl : cause = .absent := Except.error.inj missing
      exact .inl rfl
    · cases whole with
      | error cause' =>
        obtain rfl : cause = cause' := Except.error.inj same
        exact .inr rfl
      | ok => cases same
  | ok value =>
    cases whole with
    | error cause' => rcases first with missing | same <;> contradiction
    | ok value' => exact rest value value' rfl rfl

end OrAbsent

namespace Node

variable {part whole : Node}

/-- A node without what is in it, and a file without its permissions. -/
def outline : Node → Node
  | .file _ _ => .file 0 .empty
  | .directory mode _ => .directory mode []
  | .link target => .link target

@[simp]
theorem isDirectory_outline (node : Node) : node.outline.isDirectory = node.isDirectory := by
  cases node <;> rfl

/-- Whatever is in one tree is in another one, where directories may have more entries, and files
other contents. -/
def Within (part whole : Node) : Prop :=
  ∀ location node, part.get? location = some node →
    ∃ other, whole.get? location = some other ∧ other.outline = node.outline

namespace Within

theorem get?_directory (h : part.Within whole) {mode : Nat} {entries : List (String × Node)}
    (found : part.get? location = some (.directory mode entries)) :
    ∃ entries', whole.get? location = some (.directory mode entries') := by
  obtain ⟨other, found', alike⟩ := h location _ found
  cases other with
  | directory mode' entries' =>
    cases alike
    exact ⟨entries', found'⟩
  | file _ _ => cases alike
  | link _ => cases alike

theorem get?_link (h : part.Within whole) {target : String}
    (found : part.get? location = some (.link target)) :
    whole.get? location = some (.link target) := by
  obtain ⟨other, found', alike⟩ := h location _ found
  cases other with
  | link _ =>
    cases alike
    exact found'
  | file _ _ => cases alike
  | directory _ _ => cases alike

theorem passage (h : part.Within whole) (location : Location) :
    OrAbsent ((FileTree.passage part location).map fun _ => ())
      ((FileTree.passage whole location).map fun _ => ()) := by
  cases there : part.get? location with
  | none => exact .inl (by simp [FileTree.passage, there, Except.map])
  | some node =>
    obtain ⟨other, there', alike⟩ := h location node there
    refine .inr ?_
    unfold FileTree.passage
    rw [there, there']
    cases node <;> cases other <;> cases alike
    · rfl
    · dsimp only
      split <;> rfl
    · rfl

theorem isOpen (h : part.Within whole) (opened : Open part location) : Open whole location := by
  obtain ⟨mode, entries, found, run⟩ := open_iff.mp opened
  obtain ⟨entries', found'⟩ := h.get?_directory found
  exact open_iff.mpr ⟨mode, entries', found', run⟩

/-- Steps lead where they lead in the whole, or to something missing. -/
theorem advance (h : part.Within whole) (location : Location) (names : List String) :
    OrAbsent (FileTree.advance part location names) (FileTree.advance whole location names) := by
  induction names generalizing location with
  | nil => exact .refl _
  | cons name rest ih =>
    refine .bind_of_forget (h.passage location) fun entries entries' passed passed' => ?_
    obtain ⟨mode, found, -⟩ := exists_of_passage passed
    obtain ⟨mode', found', -⟩ := exists_of_passage passed'
    have inside := h (location ++ [name])
    rw [get?_append_singleton, get?_append_singleton, found, found'] at inside
    simp only [Option.bind_some, Node.entries] at inside
    split
    · exact ih location
    · split
      · exact ih location.dropLast
      · refine .bind (.refl _) fun _ => ?_
        cases there : Node.lookup name entries with
        | none => exact .inl rfl
        | some node =>
          obtain ⟨other, there', alike⟩ := inside node there
          rw [there']
          cases node <;> cases other <;> cases alike
          · exact ih _
          · exact ih _
          · exact .refl _

/-- Links are the same in the whole, so that none leads anywhere new. -/
theorem walkWithin (h : part.Within whole) (links : Nat) (location : Location)
    (names : List String) :
    OrAbsent (FileTree.walkWithin part links location names)
      (FileTree.walkWithin whole links location names) := by
  induction links generalizing location names with
  | zero => exact .bind (h.advance location names) fun reached => .refl _
  | succ links ih =>
    refine .bind (h.advance location names) fun reached => ?_
    cases reached with
    | arrived there => exact .refl _
    | met directory target rest => exact ih _ _

theorem placeFrom (h : part.Within whole) (location : Location) (path : Path) :
    OrAbsent (FileTree.placeFrom part location path)
      (FileTree.placeFrom whole location path) :=
  .bind (h.walkWithin mostLinks location _) fun parent =>
    .bind_of_forget (h.passage parent) fun _ _ _ _ => .refl _

end Within

end Node

/-- Whatever is in one tree is in another one, though files may have other contents; both have the
same working directory. -/
structure Within (part whole : FileTree) : Prop where
  working : part.working = whole.working
  root : part.root.Within whole.root

/-- What can be read at a path: the text of the file that it leads to, if that may be read. -/
theorem text_eq_ok_iff {text : String} :
    tree.text path = .ok text ↔ ∃ location mode content, tree.locate path = .ok location ∧
      tree.root.get? location = some (.file mode content) ∧ mode &&& Node.mayReadBit ≠ 0 ∧
      String.fromUTF8? content = some text := by
  unfold FileTree.text bytes node
  constructor
  · intro read
    obtain ⟨content, read, decoded⟩ := bind_eq_ok_iff.mp read
    obtain ⟨node, read, content'⟩ := bind_eq_ok_iff.mp read
    obtain ⟨location, located, found⟩ := bind_eq_ok_iff.mp read
    split at found <;> cases found
    next found =>
    split at content'
    · cases content'
    · next readable =>
      split at content' <;> cases content'
      split at decoded <;> cases decoded
      next decoded =>
      exact ⟨location, _, content, located, found, by simpa [Node.permits, Node.mode] using readable,
        decoded⟩
  · rintro ⟨location, mode, content, located, found, readable, decoded⟩
    simp [located, found, Node.permits, Node.mode, readable, decoded, bind, Except.bind, pure,
      Except.pure]

theorem hasNode_of_text {text : String} (read : tree.text path = .ok text) :
    tree.hasNode path = true := by
  obtain ⟨location, mode, content, located, found, -⟩ := text_eq_ok_iff.mp read
  simp [hasNode, node, located, found, bind, Except.bind, pure, Except.pure, Except.isOk,
    Except.toBool]

theorem hasDirectory_iff :
    tree.hasDirectory path = true ↔ ∃ location mode entries, tree.locate path = .ok location ∧
      tree.root.get? location = some (.directory mode entries) := by
  unfold hasDirectory node
  cases tree.locate path with
  | error cause => simp [bind, Except.bind]
  | ok location =>
    cases found : tree.root.get? location with
    | none => simp [bind, Except.bind, found]
    | some node => cases node <;> simp [bind, Except.bind, found, pure, Except.pure,
        Node.isDirectory]

/-- A path to which a name can be joined leads to a directory. -/
theorem Names.hasDirectory_of_join (h : tree.Names (Path.join path name) directory name)
    (plain : '/' ∉ name.toList) (ne : name ≠ "") (ne' : path ≠ "") :
    tree.hasDirectory path = true := by
  obtain ⟨fits, -, -, -, ⟨entries, passed⟩, above, shape, walked⟩ := names_iff.mp h
  obtain ⟨mode, found, -⟩ := exists_of_passage passed
  rw [Path.route_join path plain ne] at shape
  obtain ⟨rfl, -⟩ := List.append_inj' shape rfl
  rw [start, startFrom, Path.isAbsolute_join path plain] at walked
  have fits' : checkPath path = .ok () := by
    rw [Path.join, Path.isAbsolute_of_not_mem plain] at fits
    simp only [ne', decide_false, Bool.or_false, Bool.false_eq_true, if_false] at fits
    split at fits
    · exact checkPath_of_append ne' fits
    · rw [String.append_assoc] at fits
      exact checkPath_of_append ne' fits
  refine hasDirectory_iff.mpr ⟨directory, mode, entries, ?_, found⟩
  rw [locate, fits', start, startFrom, walked]
  simp [bind, Except.bind, pure, Except.pure, checkDirectory, found, Node.isDirectory]

namespace Within

theorem refl (tree : FileTree) : Within tree tree := ⟨rfl, fun _ node there => ⟨node, there, rfl⟩⟩

theorem trans {between : FileTree} (h : Within part between) (h' : Within between whole) :
    Within part whole := by
  refine ⟨h.working.trans h'.working, fun location node there => ?_⟩
  obtain ⟨other, there', alike⟩ := h.root location node there
  obtain ⟨last, there'', alike'⟩ := h'.root location other there'
  exact ⟨last, there'', alike'.trans alike⟩

theorem start_eq (h : Within part whole) (path : Path) : part.start path = whole.start path := by
  rw [start, start, h.working]

theorem place (h : Within part whole) (path : Path) :
    OrAbsent (part.place path) (whole.place path) := by
  refine .bind (.refl _) fun _ => ?_
  rw [h.start_eq]
  exact h.root.placeFrom _ path

/-- A path that names an entry names it in the whole, too. -/
theorem names (h : Within part whole) (named : part.Names path directory name) :
    whole.Names path directory name :=
  (h.place path).eq_ok named

theorem entry?_ne_none (h : Within part whole) (there : part.entry? directory name ≠ none) :
    whole.entry? directory name ≠ none := by
  obtain ⟨node, there⟩ := Option.ne_none_iff_exists'.mp there
  obtain ⟨other, there', -⟩ := h.root _ node there
  exact Option.ne_none_iff_exists'.mpr ⟨other, there'⟩

/-- A path that leads somewhere leads there in the whole, too. -/
theorem locate (h : Within part whole) (located : part.locate path = .ok location) :
    whole.locate path = .ok location := by
  obtain ⟨⟨⟩, fits, located⟩ := bind_eq_ok_iff.mp located
  obtain ⟨reached, walked, ends⟩ := bind_eq_ok_iff.mp located
  rw [h.start_eq] at walked
  have walked' : walk whole.root (whole.start path) (Path.route path) = .ok reached :=
    (h.root.walkWithin mostLinks _ _).eq_ok walked
  rw [FileTree.locate, fits, walked']
  simp only [bind, Except.bind, pure, Except.pure] at ends ⊢
  split at ends
  · next slash =>
    unfold checkDirectory at ends ⊢
    cases found : part.root.get? reached with
    | none => simp [found] at ends
    | some node =>
      obtain ⟨other, found', alike⟩ := h.root reached node found
      rw [found] at ends
      rw [found', if_pos slash]
      rw [Option.any_some, ← Node.isDirectory_outline, ← alike, Node.isDirectory_outline] at ends
      exact ends
  · next slash =>
    rw [if_neg slash]
    exact ends

theorem hasDirectory (h : Within part whole) (there : part.hasDirectory path = true) :
    whole.hasDirectory path = true := by
  obtain ⟨location, mode, entries, located, found⟩ := hasDirectory_iff.mp there
  obtain ⟨entries', found'⟩ := h.root.get?_directory found
  exact hasDirectory_iff.mpr ⟨location, mode, entries', h.locate located, found'⟩

theorem hasNode (h : Within part whole) (there : part.hasNode path = true) :
    whole.hasNode path = true := by
  unfold FileTree.hasNode node at there ⊢
  cases located : part.locate path with
  | error cause => simp [located, bind, Except.bind, Except.isOk, Except.toBool] at there
  | ok location =>
    cases found : part.root.get? location with
    | none => simp [located, found, bind, Except.bind, Except.isOk, Except.toBool] at there
    | some node =>
      obtain ⟨other, found', -⟩ := h.root location node found
      simp [h.locate located, found', bind, Except.bind, pure, Except.pure, Except.isOk,
        Except.toBool]

/-- The text of a file that is the same in the whole. -/
theorem text (h : Within part whole) {text : String} (read : part.text path = .ok text)
    (same : ∀ location node, part.locate path = .ok location →
      part.root.get? location = some node → node.isDirectory = false →
      whole.root.get? location = some node) : whole.text path = .ok text := by
  obtain ⟨location, mode, content, located, found, readable, decoded⟩ := text_eq_ok_iff.mp read
  exact text_eq_ok_iff.mpr ⟨location, mode, content, h.locate located,
    same location _ located found rfl, readable, decoded⟩

end Within

end ProfilingSession.FileTree
