import ProfilingSession.Proofs.FileTree.Ways

/-!
# Moving entries

When an entry is moved, and what that does to the tree. Both paths have to lead to the place of an
entry. If that is the same one nothing is done. Otherwise neither place is below the other, both
directories may be changed, and the entry may replace what is at its destination (`Moves`,
`move_eq_ok_iff`). Then the entry, be it a file, a link or a directory with all that is in it, is at
its destination as it was before and no longer where it was, and nothing else in the tree is changed
(`Relocated`). Moving fails for some causes only; that the two places are on different devices is
none of them, since a tree is on one device.

Unless links are moved or replaced, what is at the two places is all that makes a difference to
where paths lead (`Shifted`). So the first path leads nowhere any more, and the second one to what
was moved, or nowhere, if it led through that: there is no way through `d/..` when `d` has been
moved. A file that replaces nothing but a file is on no way to another place.
-/

namespace ProfilingSession.FileTree

variable {a b tree before after : FileTree} {root node : Node} {path expected destination : Path}
variable {places : Set Location} {directory location source target : Location}
variable {there here : Place} {name oldName newName : String} {names : List String} {slash : Bool}

/-- An entry may take the place of nothing, a directory also that of an empty directory, and
anything else that of anything that is no directory. -/
inductive Replaces (node : Node) : Option Node → Prop where
  | nothing : Replaces node none
  | emptyDirectory {mode : Nat} (isDirectory : node.isDirectory = true) :
    Replaces node (some (.directory mode []))
  | other {old : Node} (noDirectory : node.isDirectory = false)
    (noDirectory' : old.isDirectory = false) : Replaces node (some old)

theorem checkReplaced_eq_ok_iff {old : Option Node} :
    checkReplaced node old = .ok () ↔ Replaces node old := by
  constructor
  · intro checked
    unfold checkReplaced at checked
    split at checked
    · exact .nothing
    · obtain ⟨isDirectory, checked⟩ := ite_error_eq_ok_iff.mp checked
      split at checked
      · next empty =>
        rw [List.isEmpty_iff.mp empty]
        exact .emptyDirectory (by simpa using isDirectory)
      · cases checked
    · next _ old other =>
      obtain ⟨noDirectory, -⟩ := ite_error_eq_ok_iff.mp checked
      refine .other (by simpa using noDirectory) ?_
      cases old with
      | directory mode entries => exact absurd rfl (other mode entries)
      | file _ _ => rfl
      | link _ => rfl
  · intro replaces
    cases replaces with
    | nothing => rfl
    | emptyDirectory isDirectory => simp [checkReplaced, isDirectory]
    | @other old noDirectory noDirectory' =>
      cases old with
      | directory _ _ => cases noDirectory'
      | file _ _ => simp [checkReplaced, noDirectory]
      | link _ => simp [checkReplaced, noDirectory]

/-- An entry may be moved to another place. -/
structure Fits (tree : FileTree) (there here : Place) (oldName newName : String) (node : Node) :
    Prop where
  notBelow : ¬ there.parent ++ [oldName] <+: here.parent ++ [newName]
  notAbove : ¬ here.parent ++ [newName] <+: there.parent ++ [oldName]
  changeable : tree.checkChangeable there.parent = .ok ()
  changeable' : tree.checkChangeable here.parent = .ok ()
  replaces : Replaces node (tree.entry? here.parent newName)
  /-- A directory that comes into another one is told so. -/
  writable : node.isDirectory = true → there.parent ≠ here.parent →
    node.permits Node.mayWriteBit = true

/-- There is an entry at a place, which goes with how the paths are written, and it is to be moved
to where it is or may be moved. -/
structure MayMove (tree : FileTree) (there here : Place) (oldName newName : String) (node : Node) :
    Prop where
  found : tree.entry? there.parent oldName = some node
  asSaid : node.isDirectory = false → there.asDirectory = false ∧ here.asDirectory = false
  fits : there.parent ++ [oldName] = here.parent ++ [newName] ∨
    Fits tree there here oldName newName node

/-- The tree with an entry moved to a place. -/
def relocate (tree : FileTree) (there here : Place) (oldName newName : String) (node : Node) :
    FileTree :=
  if there.parent ++ [oldName] = here.parent ++ [newName] then tree
  else (tree.setEntry there.parent oldName none).setEntry here.parent newName (some node)

theorem moveEntry_eq_ok_iff :
    tree.moveEntry there here oldName newName = .ok after ↔
      checkName oldName = .ok () ∧ checkName newName = .ok () ∧
        ∃ node, MayMove tree there here oldName newName node ∧
          after = tree.relocate there here oldName newName node := by
  unfold moveEntry relocate
  constructor
  · intro moved
    obtain ⟨⟨⟩, checked, moved⟩ := bind_eq_ok_iff.mp moved
    dsimp only at moved
    split at moved
    · cases moved
    · next node found =>
      obtain ⟨⟨⟩, checked', moved⟩ := bind_eq_ok_iff.mp moved
      obtain ⟨asSaid, moved⟩ := ite_error_eq_ok_iff.mp moved
      refine ⟨checked, checked', node, ?_⟩
      split at moved
      · next same =>
        cases moved
        exact ⟨⟨found, by simpa using asSaid, .inl same⟩, (if_pos same).symm⟩
      · next elsewhere =>
        obtain ⟨notBelow, moved⟩ := ite_error_eq_ok_iff.mp moved
        obtain ⟨notAbove, moved⟩ := ite_error_eq_ok_iff.mp moved
        obtain ⟨⟨⟩, changeable, moved⟩ := bind_eq_ok_iff.mp moved
        obtain ⟨⟨⟩, changeable', moved⟩ := bind_eq_ok_iff.mp moved
        obtain ⟨⟨⟩, replaced, moved⟩ := bind_eq_ok_iff.mp moved
        obtain ⟨writable, moved⟩ := ite_error_eq_ok_iff.mp moved
        cases moved
        have fits : Fits tree there here oldName newName node :=
          ⟨by simpa using notBelow, by simpa using notAbove, changeable, changeable',
            checkReplaced_eq_ok_iff.mp replaced, by simpa using writable⟩
        exact ⟨⟨found, by simpa using asSaid, .inr fits⟩, (if_neg elsewhere).symm⟩
  · rintro ⟨checked, checked', node, ⟨found, asSaid, fits⟩, rfl⟩
    have asSaid' : ¬ (!node.isDirectory && (there.asDirectory || here.asDirectory)) = true := by
      simpa using asSaid
    rw [ entry?] at found
    rw [checked]
    simp only [bind, Except.bind, found, checked', if_neg asSaid']
    by_cases same : there.parent ++ [oldName] = here.parent ++ [newName]
    · rw [if_pos same, if_pos same]
      rfl
    · have fits := fits.resolve_left same
      have replaced := checkReplaced_eq_ok_iff.mpr fits.replaces
      have writable : ¬ (node.isDirectory && decide (there.parent ≠ here.parent) &&
          !node.permits Node.mayWriteBit) = true := by
        simpa using fits.writable
      rw [ entry?] at replaced
      simp only [if_neg same, List.isPrefixOf_iff_prefix, fits.notBelow, fits.notAbove, if_false,
        fits.changeable, fits.changeable', replaced, if_neg writable]
      rfl

/-- A path leads to the place of an entry, and the name is one that an entry can have. -/
structure Points (tree : FileTree) (path : Path) (place : Place) (name : String) : Prop where
  placed : tree.place path = .ok place
  named : place.name? = some name
  checked : checkName name = .ok ()

/-- What is at a path can be moved to another one. -/
structure Movable (tree : FileTree) (expected destination : Path) (there here : Place)
    (oldName newName : String) (node : Node) : Prop where
  points : tree.Points expected there oldName
  points' : tree.Points destination here newName
  may : MayMove tree there here oldName newName node

theorem move_eq_ok_iff :
    tree.move expected destination = .ok after ↔
      ∃ there here oldName newName node,
        Movable tree expected destination there here oldName newName node ∧
        after = tree.relocate there here oldName newName node := by
  unfold move
  constructor
  · intro moved
    obtain ⟨-, moved⟩ := ite_error_eq_ok_iff.mp moved
    obtain ⟨there, placed, moved⟩ := bind_eq_ok_iff.mp moved
    obtain ⟨here, placed', moved⟩ := bind_eq_ok_iff.mp moved
    split at moved
    · next oldName newName named named' =>
      obtain ⟨checked, checked', node, may, rfl⟩ := moveEntry_eq_ok_iff.mp moved
      exact ⟨there, here, oldName, newName, node,
        ⟨⟨placed, named, checked⟩, ⟨placed', named', checked'⟩, may⟩, rfl⟩
    · cases moved
  · rintro ⟨there, here, oldName, newName, node, ⟨points, points', may⟩, rfl⟩
    obtain ⟨⟨⟩, fits, -⟩ := bind_eq_ok_iff.mp points'.placed
    have noNul : ¬ destination.toList.contains '\x00' = true := by
      intro nul
      rw [checkPath, if_pos nul] at fits
      cases fits
    rw [if_neg noNul, points.placed]
    simp only [bind, Except.bind, points'.placed, points.named, points'.named]
    exact moveEntry_eq_ok_iff.mpr ⟨points.checked, points'.checked, node, may, rfl⟩

/-! What a tree is like afterwards -/

/-- What was at a location is at another one, with all that is in it, and no longer at the first;
elsewhere nothing is changed. -/
structure Relocated (source target : Location) (before after : FileTree) : Prop where
  arrived : after.root.get? target = before.root.get? source
  gone : source ≠ target → after.root.get? source = none
  stays : source = target → after = before
  agree : AgreeBut {source, target} after before

/-- A directory that is not below a place is still there when that is changed. -/
theorem exists_directory_of_agreeBut {mode : Nat} {entries : List (String × Node)}
    (agree : AgreeBut places a b) (off : ∀ place ∈ places, ¬ place <+: location)
    (found : a.root.get? location = some (.directory mode entries)) :
    ∃ entries', b.root.get? location = some (.directory mode entries') := by
  have alike := agree.bare location off
  rw [found, Option.map_some, eq_comm, Option.map_eq_some_iff] at alike
  obtain ⟨node, found', bare⟩ := alike
  cases node with
  | directory mode' entries' =>
    cases bare
    exact ⟨entries', found'⟩
  | file _ _ => cases bare
  | link _ => cases bare

theorem Movable.relocated (h : Movable tree expected destination there here oldName newName node) :
    Relocated (there.parent ++ [oldName]) (here.parent ++ [newName]) tree
      (tree.relocate there here oldName newName node) := by
  by_cases same : there.parent ++ [oldName] = here.parent ++ [newName]
  · rw [relocate, if_pos same]
    exact ⟨congrArg tree.root.get? same.symm, fun other => absurd same other, fun _ => rfl,
      .refl _ tree⟩
  · have fits := h.may.fits.resolve_left same
    obtain ⟨mode, entries, found⟩ := exists_directory_of_place h.points.placed
    obtain ⟨mode', entries', found'⟩ := exists_directory_of_place h.points'.placed
    -- The directory of the destination is not below what is taken away.
    have kept : ¬ there.parent ++ [oldName] <+: here.parent :=
      fun below => fits.notBelow (below.trans (List.prefix_append _ _))
    have first := agreeBut_setEntry none found oldName
    obtain ⟨entries'', found''⟩ :=
      exists_directory_of_agreeBut first.symm (by simpa using kept) found'
    have second := agreeBut_setEntry (some node) found'' newName
    rw [relocate, if_neg same]
    refine ⟨(entry?_setEntry_same _ found'').trans h.may.found.symm, fun _ => ?_,
      fun other => absurd other same, (second.mono (by simp)).trans (first.mono (by simp))⟩
    have taken : entry? (tree.setEntry there.parent oldName none) there.parent oldName = none :=
      entry?_setEntry_same none found
    exact (Node.get?_set_of_not_prefix _ _ _ _ fits.notBelow fits.notAbove).trans taken

/-! Where the two paths lead afterwards -/

/-- Every step of a path before its last one is the name of an open directory. -/
def Direct (tree : FileTree) (path : Path) : Prop :=
  Straight tree.root (tree.start path) (Path.route path).dropLast

/-- A way is kept by what is done to places that it does not lead through. -/
theorem Straight.of_agree (agree : AgreeBut places a b)
    (off : ∀ place ∈ places, ¬ place <+: location ++ names)
    (h : Straight a.root location names) : Straight b.root location names := by
  have opens {location : Location} (off : ∀ place ∈ places, ¬ place <+: location)
      (opened : Open a.root location) : Open b.root location := by
    obtain ⟨mode, entries, found, run⟩ := open_iff.mp opened
    obtain ⟨entries', found'⟩ := exists_directory_of_agreeBut agree off found
    exact open_iff.mpr ⟨mode, entries', found', run⟩
  have above : ∀ place ∈ places, ¬ place <+: location := fun place mem below =>
    off place mem (below.trans (List.prefix_append _ _))
  induction names generalizing location with
  | nil => exact opens above h
  | cons step rest ih =>
    obtain ⟨here, dot, dots, checked, further⟩ := h
    have off' : ∀ place ∈ places, ¬ place <+: location ++ [step] ++ rest := by simpa using off
    exact ⟨opens above here, dot, dots, checked, ih off' further fun place mem below =>
      off' place mem (below.trans (List.prefix_append _ _))⟩

/-- A path that leads straight to the place of an entry does so as long as nothing above is
changed. -/
theorem Points.of_agree (h : a.Points path here name) (direct : a.Direct path)
    (agree : AgreeBut places a b) (off : ∀ place ∈ places, ¬ place <+: here.parent) :
    b.Points path here name := by
  obtain ⟨placed, named, checked⟩ := h
  obtain ⟨directory, name?, slash⟩ := here
  obtain rfl : name? = some name := named
  obtain ⟨fits, dot, dots, same, -, above, shape, walked⟩ := place_eq_ok_iff.mp placed
  rw [Direct, shape, List.dropLast_concat] at direct
  obtain rfl : a.start path ++ above = directory := Except.ok.inj (direct.walk_eq.symm.trans walked)
  have start : b.start path = a.start path := by
    rw [FileTree.start, FileTree.start, agree.working]
  have direct' := direct.of_agree agree off
  refine ⟨place_eq_ok_iff.mpr ⟨fits, dot, dots, same, direct'.open_end, above, shape, ?_⟩, rfl,
    checked⟩
  rw [start]
  exact direct'.walk_eq

theorem SameWays.points (h : SameWays a b) (points : a.Points path here name)
    (noSlash : here.asDirectory = false) : b.Points path here name := by
  obtain ⟨placed, named, checked⟩ := points
  obtain ⟨directory, name?, slash⟩ := here
  obtain rfl : name? = some name := named
  obtain rfl : slash = false := noSlash
  exact ⟨h.names placed, rfl, checked⟩

/-- A path leads to the entry that it points at. -/
theorem Points.node_eq (h : tree.Points path here name)
    (found : tree.entry? here.parent name = some node) (plain : ∀ target, node ≠ .link target)
    (asSaid : here.asDirectory = true → node.isDirectory = true) : tree.node path = .ok node := by
  obtain ⟨placed, named, checked⟩ := h
  obtain ⟨directory, name?, slash⟩ := here
  obtain rfl : name? = some name := named
  rw [FileTree.node, locate_of_place placed checked found plain asSaid]
  rw [ entry?] at found
  simp [bind, Except.bind, found, pure, Except.pure]

theorem Points.hasNode_eq_false (h : tree.Points path here name)
    (absent : tree.entry? here.parent name = none) : tree.hasNode path = false := by
  obtain ⟨placed, named, checked⟩ := h
  obtain ⟨directory, name?, slash⟩ := here
  obtain rfl : name? = some name := named
  have nowhere := walk_of_place placed checked (by simp [absent])
  rw [absent] at nowhere
  have fits := (place_eq_ok_iff.mp placed).1
  simp [hasNode, FileTree.node, locate, fits, nowhere, bind, Except.bind, Except.isOk,
    Except.toBool]

theorem exists_walk_of_hasNode (h : tree.hasNode path = true) :
    ∃ there, walk tree.root (tree.start path) (Path.route path) = .ok there := by
  unfold hasNode at h
  cases found : tree.node path with
  | error cause => simp [found, Except.isOk, Except.toBool] at h
  | ok node =>
    obtain ⟨_, located, -⟩ := bind_eq_ok_iff.mp found
    obtain ⟨⟨⟩, -, located⟩ := bind_eq_ok_iff.mp located
    obtain ⟨there, walked, -⟩ := bind_eq_ok_iff.mp located
    exact ⟨there, walked⟩

/-- Two answers are the same if both are given. -/
def Compatible {α : Type} (one other : Except Cause α) : Prop :=
  ∀ x y, one = .ok x → other = .ok y → x = y

/-- A step with a name meets the link of that name, or goes on from the entry. -/
theorem exists_entry_of_advance {reached : Advance} {rest : List String}
    (here : Open root location) (dot : name ≠ ".") (dots : name ≠ "..")
    (advanced : advance root location (name :: rest) = .ok reached) :
    ∃ node, root.get? (location ++ [name]) = some node ∧
      (∀ link, node = .link link → reached = .met location link rest) ∧
      ((∀ link, node ≠ .link link) → advance root (location ++ [name]) rest = .ok reached) := by
  rw [advance_name here dot dots] at advanced
  obtain ⟨⟨⟩, -, advanced⟩ := bind_eq_ok_iff.mp advanced
  split at advanced
  · cases advanced
  · next link found =>
    cases advanced
    refine ⟨_, found, ?_, fun noLink => absurd rfl (noLink link)⟩
    rintro _ ⟨⟩
    rfl
  · next node noLink found =>
    exact ⟨node, found, fun link same => absurd same (noLink link), fun _ => advanced⟩

/-- The trees agree but for a place that is left and one that is taken, where there was no entry in
a directory, and is no link in either tree. -/
structure Shifted (source target : Location) (a b : FileTree) : Prop where
  agree : AgreeBut {source, target} a b
  gone : b.root.get? source = none
  empty : ∀ name, a.root.get? (target ++ [name]) = none
  noLink : ∀ link, a.root.get? target ≠ some (.link link)
  noLink' : ∀ link, b.root.get? target ≠ some (.link link)

namespace Shifted

theorem get?_of_above {above : Location} (absent : root.get? above = none)
    (below : above <+: location) : root.get? location = none := by
  obtain ⟨rest, rfl⟩ := below
  rw [Node.get?_append, absent]
  rfl

/-- An entry that both trees have is the same link in both, or no link in either. -/
theorem entry (h : Shifted source target a b) {node' : Node}
    (found : a.root.get? (location ++ [name]) = some node)
    (found' : b.root.get? (location ++ [name]) = some node') :
    (∃ link, node = .link link ∧ node' = .link link) ∨
      (∀ link, node ≠ .link link) ∧ ∀ link, node' ≠ .link link := by
  by_cases off : ∀ place ∈ ({source, target} : Set Location), ¬ place <+: location ++ [name]
  · have alike := h.agree.bare _ off
    rw [found, found'] at alike
    have bare : node.bare = node'.bare := Option.some.inj alike
    by_cases isLink : ∃ link, node = .link link
    · obtain ⟨link, rfl⟩ := isLink
      exact .inl ⟨link, rfl, Node.bare_eq_link_iff.mp bare.symm⟩
    · refine .inr ⟨fun link same => isLink ⟨link, same⟩, ?_⟩
      rintro link rfl
      exact isLink ⟨link, Node.bare_eq_link_iff.mp bare⟩
  · push Not at off
    obtain ⟨place, rfl | rfl, above⟩ := off
    · cases found'.symm.trans (get?_of_above h.gone above)
    · obtain ⟨rest, whole⟩ := above
      cases rest with
      | nil =>
        rw [← whole, List.append_nil] at found found'
        exact .inr ⟨fun link same => h.noLink link (same ▸ found),
          fun link same => h.noLink' link (same ▸ found')⟩
      | cons step rest =>
        have below : place ++ [step] <+: location ++ [name] := ⟨rest, by simpa using whole⟩
        cases found.symm.trans (get?_of_above (h.empty step) below)

/-- Steps that can be made in both trees lead to the same. -/
theorem advance (h : Shifted source target a b) (location : Location) (steps : List String) :
    Compatible (advance a.root location steps) (advance b.root location steps) := by
  intro reached reached' advanced advanced'
  induction steps generalizing location with
  | nil =>
    cases advanced
    cases advanced'
    rfl
  | cons step rest ih =>
    have here : Open a.root location := .of_advance advanced
    have here' : Open b.root location := .of_advance advanced'
    by_cases dot : step = "."
    · subst dot
      rw [advance_dot here] at advanced
      rw [advance_dot here'] at advanced'
      exact ih _ advanced advanced'
    by_cases dots : step = ".."
    · subst dots
      rw [advance_dots here] at advanced
      rw [advance_dots here'] at advanced'
      exact ih _ advanced advanced'
    obtain ⟨node, found, way⟩ := exists_entry_of_advance here dot dots advanced
    obtain ⟨node', found', way'⟩ := exists_entry_of_advance here' dot dots advanced'
    rcases h.entry found found' with ⟨link, rfl, rfl⟩ | ⟨noLink, noLink'⟩
    · exact (way.1 link rfl).trans (way'.1 link rfl).symm
    · exact ih _ (way.2 noLink) (way'.2 noLink')

/-- Steps that lead somewhere in both trees lead to the same there. -/
theorem walkWithin (h : Shifted source target a b) (links : Nat) (location : Location)
    (steps : List String) :
    Compatible (walkWithin a.root links location steps)
      (walkWithin b.root links location steps) := by
  intro there there' walked walked'
  induction links using Nat.strong_induction_on generalizing location steps with
  | _ links ih =>
    rcases walkWithin_eq_ok_iff.mp walked with arrived | ⟨_, _, _, _, rfl, met, further⟩ <;>
      rcases walkWithin_eq_ok_iff.mp walked' with arrived' | ⟨_, _, _, _, fewer, met', further'⟩
    · cases h.advance _ _ _ _ arrived arrived'
      rfl
    · cases h.advance _ _ _ _ arrived met'
    · cases h.advance _ _ _ _ met arrived'
    · cases fewer
      cases h.advance _ _ _ _ met met'
      exact ih _ (Nat.lt_succ_self _) _ _ further further'

/-- A path that leads to a place, and to something in the second tree, leads to the same place
there. -/
theorem points (h : Shifted source target a b) (points : a.Points path here name)
    (there : b.hasNode path = true) : b.Points path here name := by
  obtain ⟨placed, named, checked⟩ := points
  obtain ⟨directory, name?, slash⟩ := here
  obtain rfl : name? = some name := named
  obtain ⟨fits, dot, dots, same, -, above, shape, walked⟩ := place_eq_ok_iff.mp placed
  have start : b.start path = a.start path := by
    rw [FileTree.start, FileTree.start, h.agree.working]
  obtain ⟨reached, whole⟩ := exists_walk_of_hasNode there
  rw [start, shape] at whole
  obtain ⟨between, walked', opened⟩ := exists_walkWithin_of_append whole
  obtain rfl := h.walkWithin mostLinks _ _ _ _ walked walked'
  refine ⟨place_eq_ok_iff.mpr ⟨fits, dot, dots, same, opened (List.cons_ne_nil _ _), above, shape,
    ?_⟩, rfl, checked⟩
  rw [start]
  exact walked'

end Shifted

/-- A file is to replace a file, or nothing. -/
def ReplacesFile (node : Node) (old : Option Node) : Prop :=
  Plain (some node) ∧ Plain old

/-- What is moved is no link, and replaces none. -/
def NoLinks (node : Node) (old : Option Node) : Prop :=
  ∀ link, node ≠ .link link ∧ old ≠ some (.link link)

namespace Movable

variable (h : Movable tree expected destination there here oldName newName node)

include h

/-- Where a file takes the place of a file no way to a directory is changed. -/
theorem sameWays (replaces : ReplacesFile node (tree.entry? here.parent newName)) :
    SameWays tree (tree.relocate there here oldName newName node) := by
  obtain ⟨plain, plain'⟩ := replaces
  have found : tree.root.get? (there.parent ++ [oldName]) = some node := h.may.found
  rw [← found] at plain
  obtain ⟨arrived, gone, -, agree⟩ := h.relocated
  have taken : Plain ((tree.relocate there here oldName newName node).root.get?
      (there.parent ++ [oldName])) := by
    by_cases same : there.parent ++ [oldName] = here.parent ++ [newName]
    · rwa [same, arrived]
    · exact .inl (gone same)
  refine .of_agree agree.symm ?_ ?_
  · rintro place (rfl | rfl)
    · exact .of_plain plain
    · exact .of_plain plain'
  · rintro place (rfl | rfl)
    · exact .of_plain taken
    · exact .of_plain (arrived ▸ plain)

theorem asSaid : (there.asDirectory = true → node.isDirectory = true) ∧
    (here.asDirectory = true → node.isDirectory = true) := by
  have asSaid := h.may.asSaid
  cases isDirectory : node.isDirectory with
  | true => exact ⟨fun _ => rfl, fun _ => rfl⟩
  | false =>
    obtain ⟨noSlash, noSlash'⟩ := asSaid isDirectory
    simp [noSlash, noSlash']

/-- The first path leads to what is to be moved, unless that is a link. -/
theorem locate_eq (plain : ∀ link, node ≠ .link link) :
    tree.locate expected = .ok (there.parent ++ [oldName]) := by
  have asSaid := h.asSaid.1
  have found := h.may.found
  obtain ⟨placed, named, checked⟩ := h.points
  obtain ⟨directory, name?, slash⟩ := there
  obtain rfl : name? = some oldName := named
  exact locate_of_place placed checked found plain asSaid

/-- Neither place is above the directory of the other, or of its own. -/
theorem off_parent (other : Place) (own : other = there ∨ other = here) :
    ∀ place ∈ ({there.parent ++ [oldName], here.parent ++ [newName]} : Set Location),
      ¬ place <+: other.parent := by
  have self (place : Place) (name : String) : ¬ place.parent ++ [name] <+: place.parent := by
    simpa using not_append_prefix_self place.parent name []
  have below {place : Location} (place' : Place) (name : String)
      (off : ¬ place <+: place'.parent ++ [name]) : ¬ place <+: place'.parent :=
    fun above => off (above.trans (List.prefix_append _ _))
  rcases h.may.fits with same | fits
  · rintro place (rfl | rfl) <;> rcases own with rfl | rfl
    · exact self _ _
    · exact same ▸ self _ _
    · exact same ▸ self _ _
    · exact self _ _
  · rintro place (rfl | rfl) <;> rcases own with rfl | rfl
    · exact self _ _
    · exact below _ _ fits.notBelow
    · exact below _ _ fits.notAbove
    · exact self _ _

/-- A path that leads straight to its place does so afterwards, and any path where a file takes the
place of a file. -/
theorem points_relocate {place : Place} (own : place = there ∨ place = here)
    (points : tree.Points path place name)
    (way : ReplacesFile node (tree.entry? here.parent newName) ∨ tree.Direct path) :
    (tree.relocate there here oldName newName node).Points path place name := by
  rcases way with replaces | direct
  · refine (h.sameWays replaces).points points ?_
    have noDirectory : node.isDirectory = false := by
      rcases replaces.1 with none' | ⟨mode, content, file⟩
      · cases none'
      · cases file
        rfl
    obtain ⟨noSlash, noSlash'⟩ := h.may.asSaid noDirectory
    rcases own with rfl | rfl
    · exact noSlash
    · exact noSlash'
  · exact points.of_agree direct h.relocated.agree.symm (h.off_parent place own)

/-- If it is no link that is moved, and none is replaced, what is at the two places is all that
makes a difference to where paths lead. -/
theorem shifted (elsewhere : there.parent ++ [oldName] ≠ here.parent ++ [newName])
    (noLinks : NoLinks node (tree.entry? here.parent newName)) :
    Shifted (there.parent ++ [oldName]) (here.parent ++ [newName]) tree
      (tree.relocate there here oldName newName node) where
  agree := h.relocated.agree.symm
  gone := h.relocated.gone elsewhere
  empty name := by
    rw [Node.get?_append_singleton]
    have replaces := (h.may.fits.resolve_left elsewhere).replaces
    rw [ entry?] at replaces
    generalize tree.root.get? (here.parent ++ [newName]) = old at replaces ⊢
    cases replaces with
    | nothing => rfl
    | emptyDirectory _ => rfl
    | @other old _ noDirectory' =>
      cases old with
      | directory _ _ => cases noDirectory'
      | file _ _ => rfl
      | link _ => rfl
  noLink link := (noLinks link).2
  noLink' link arrived := by
    rw [h.relocated.arrived, show tree.root.get? _ = some node from h.may.found] at arrived
    exact (noLinks link).1 (Option.some.inj arrived)

/-- Where the path of the destination points at its place still, it leads to what was moved. -/
theorem node_of_points (plain : ∀ link, node ≠ .link link)
    (points : (tree.relocate there here oldName newName node).Points destination here newName) :
    (tree.relocate there here oldName newName node).node destination = .ok node :=
  points.node_eq (h.relocated.arrived.trans h.may.found) plain h.asSaid.2

/-- The path of the destination leads to what was moved if it leads straight there, or a file takes
the place of a file. -/
theorem node_relocate (plain : ∀ link, node ≠ .link link)
    (way : ReplacesFile node (tree.entry? here.parent newName) ∨ tree.Direct destination) :
    (tree.relocate there here oldName newName node).node destination = .ok node :=
  h.node_of_points plain (h.points_relocate (.inr rfl) h.points' way)

/-- The path of the destination leads to what was moved, or nowhere, if its way was through that. -/
theorem node_relocate_of_hasNode (noLinks : NoLinks node (tree.entry? here.parent newName))
    (leads : (tree.relocate there here oldName newName node).hasNode destination = true) :
    (tree.relocate there here oldName newName node).node destination = .ok node := by
  refine h.node_of_points (fun link => (noLinks link).1) ?_
  by_cases same : there.parent ++ [oldName] = here.parent ++ [newName]
  · rw [relocate, if_pos same]
    exact h.points'
  · exact (h.shifted same noLinks).points h.points' leads

/-- There is nothing at the first path any more. -/
theorem hasNode_relocate (elsewhere : there.parent ++ [oldName] ≠ here.parent ++ [newName])
    (way : NoLinks node (tree.entry? here.parent newName) ∨ tree.Direct expected) :
    (tree.relocate there here oldName newName node).hasNode expected = false := by
  rcases way with noLinks | direct
  · by_contra there'
    have points := (h.shifted elsewhere noLinks).points h.points (by simpa using there')
    exact there' (points.hasNode_eq_false (h.relocated.gone elsewhere))
  · exact (h.points_relocate (.inl rfl) h.points (.inr direct)).hasNode_eq_false
      (h.relocated.gone elsewhere)

end Movable

/-! Why an entry is not moved -/

/-- Why moving may fail. -/
def moveFaults : List Cause :=
  [.busy, .invalid, .notEmpty, .isDirectory] ++ wayFaults

theorem failsBy_checkChangeable (tree : FileTree) (location : Location) :
    FailsBy moveFaults (tree.checkChangeable location) := by
  unfold checkChangeable
  split
  · exact .ok ()
  · exact .error (by decide)

theorem failsBy_checkReplaced (node : Node) (old : Option Node) :
    FailsBy moveFaults (checkReplaced node old) := by
  unfold checkReplaced
  split
  · exact .ok ()
  · split
    · exact .error (by decide)
    · split
      · exact .ok ()
      · exact .error (by decide)
  · split
    · exact .error (by decide)
    · exact .ok ()

theorem failsBy_moveEntry (tree : FileTree) (there here : Place) (oldName newName : String) :
    FailsBy moveFaults (tree.moveEntry there here oldName newName) := by
  have named (name : String) : FailsBy moveFaults (checkName name) :=
    (failsBy_checkName name).mono (by decide)
  refine (named oldName).bind fun _ => ?_
  dsimp only
  split
  · exact .error (by decide)
  · refine (named newName).bind fun _ => ?_
    split
    · exact .error (by decide)
    · split
      · exact .ok _
      · split
        · exact .error (by decide)
        · split
          · exact .error (by decide)
          · refine (failsBy_checkChangeable tree there.parent).bind fun _ =>
              (failsBy_checkChangeable tree here.parent).bind fun _ =>
                (failsBy_checkReplaced _ _).bind fun _ => ?_
            split
            · exact .error (by decide)
            · exact .ok _

/-- Moving within a tree fails for none but these causes; so the two places are never on different
devices. -/
theorem failsBy_move (tree : FileTree) (expected destination : Path) :
    FailsBy moveFaults (tree.move expected destination) := by
  have placed (path : Path) : FailsBy moveFaults (tree.place path) :=
    (failsBy_place tree path).mono (by decide)
  unfold move
  split
  · exact .error (by decide)
  · refine (placed expected).bind fun there => (placed destination).bind fun here => ?_
    split
    · exact failsBy_moveEntry tree there here _ _
    · exact .error (by decide)

end ProfilingSession.FileTree
