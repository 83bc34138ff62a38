import ProfilingSession.Proofs.FileTree.Ways

/-!
# Writing files

What is done at a path to write a file there. The steps of the path lead to an entry, through links
if there are any, also where the entry is one (`Aims`, `Leads`); a file is there already, or it is
new. Then the path leads to the file that is written, nothing else in the tree is changed, and
writing the same once more changes nothing at all (`exists_wrote`).
-/

namespace ProfilingSession.FileTree

variable {tree before after : FileTree} {root part whole : Node} {path : Path} {place : Location}
variable {directory location parent : Location} {name : String}
variable {names names' : List String} {links mode : Nat} {slash slash' : Bool} {reached : Aim}
variable {content : ByteArray}

namespace Node

theorem erase_erase (name : String) (entries : List (String × Node)) :
    erase name (erase name entries) = erase name entries := by
  induction entries with
  | nil => rfl
  | cons entry rest ih => by_cases h : entry.1 = name <;> simp [erase, h, ih]

/-- Of two assignments to a name the second counts. -/
theorem assign_assign (name : String) (value other : Option Node)
    (entries : List (String × Node)) :
    assign name other (assign name value entries) = assign name other entries := by
  cases value <;> cases other <;> simp [assign, erase, erase_erase]

/-- Of two changes of one place the second counts. -/
theorem set_set (node : Node) (value other : Option Node) (location : Location) :
    (node.set value location).set other location = node.set other location := by
  induction location generalizing node with
  | nil => rfl
  | cons name rest ih =>
    cases node with
    | file _ _ => cases rest <;> rfl
    | link _ => cases rest <;> rfl
    | directory mode entries =>
      cases rest with
      | nil => simp [set, withEntries, assign_assign]
      | cons next below =>
        cases found : lookup name entries with
        | none => simp [set, Node.entries, found]
        | some child => simp [set, withEntries, Node.entries, found, assign_assign, ih child]

end Node

/-- A name that an entry can have, and that is no way to say a directory. -/
structure IsEntryName (name : String) : Prop where
  ne_dot : name ≠ "."
  ne_dots : name ≠ ".."
  checked : checkName name = .ok ()

/-- How steps are made to the entry that the last one leads to, up to a link. -/
inductive Aims (root : Node) (location : Location) : List String → Bool → Aim → Prop where
  | onWay {above rest : List String} {last target : String} {directory : Location} {slash : Bool}
      (met : advance root location above = .ok (.met directory target rest)) :
      Aims root location (above ++ [last]) slash
        (.met (startFrom directory target) (linkSteps target ++ rest ++ [last]) slash)
  | link {above : List String} {last target : String} {parent : Location}
      (arrived : advance root location above = .ok (.arrived parent)) (opened : Open root parent)
      (isName : IsEntryName last) (found : root.get? (parent ++ [last]) = some (.link target)) :
      Aims root location (above ++ [last]) false
        (.met (startFrom parent target) (Path.route target) (Path.endsInSlash target))
  | entry {above : List String} {last : String} {parent : Location}
      (arrived : advance root location above = .ok (.arrived parent)) (opened : Open root parent)
      (isName : IsEntryName last)
      (plain : ∀ target, root.get? (parent ++ [last]) ≠ some (.link target)) :
      Aims root location (above ++ [last]) false (.entry parent last)

theorem aim_eq_ok_iff :
    aim root location names slash = .ok reached ↔ Aims root location names slash reached := by
  constructor
  · intro whole
    obtain ⟨advanced, made, ok⟩ := bind_eq_ok_iff.mp whole
    clear whole
    rcases List.eq_nil_or_concat names with rfl | ⟨above, last, rfl⟩
    · cases made
      obtain ⟨_, -, ok⟩ := bind_eq_ok_iff.mp ok
      cases ok
    rw [List.concat_eq_append] at made ok ⊢
    rw [List.dropLast_concat] at made
    rw [List.getLast?_concat] at ok
    cases advanced with
    | met directory target rest =>
      cases ok
      exact .onWay made
    | arrived parent =>
      obtain ⟨entries, passed, entered⟩ := bind_eq_ok_iff.mp ok
      dsimp only at entered
      split at entered
      · cases entered
      · next plain =>
        simp only [Bool.or_eq_true, decide_eq_true_eq, not_or, Bool.not_eq_true] at plain
        obtain ⟨⟨dot, dots⟩, rfl⟩ := plain
        obtain ⟨⟨⟩, checked, found⟩ := bind_eq_ok_iff.mp entered
        split at found
        · next target link =>
          cases found
          exact .link made ⟨entries, passed⟩ ⟨dot, dots, checked⟩ link
        · next noLink =>
          cases found
          exact .entry made ⟨entries, passed⟩ ⟨dot, dots, checked⟩ noLink
  · intro aims
    cases aims with
    | onWay met => simp [aim, met, bind, Except.bind, pure, Except.pure]
    | link arrived opened isName found =>
      obtain ⟨entries, passed⟩ := opened
      simp [aim, arrived, passed, isName.ne_dot, isName.ne_dots, isName.checked, found, bind,
        Except.bind, pure, Except.pure]
    | @entry above last parent arrived opened isName plain =>
      obtain ⟨entries, passed⟩ := opened
      simp only [aim, arrived, passed, isName.ne_dot, isName.ne_dots, isName.checked, bind,
        Except.bind, List.dropLast_concat, List.getLast?_concat, decide_false, Bool.or_false,
        Bool.false_eq_true, if_false]
      rfl

/-- Steps lead to an entry at once, or through a link with one link less. -/
inductive Leads (root : Node) (parent : Location) (name : String) :
    Nat → Location → List String → Bool → Prop where
  | entry {links : Nat} {location : Location} {names : List String} {slash : Bool}
      (aims : Aims root location names slash (.entry parent name)) :
      Leads root parent name links location names slash
  | link {links : Nat} {location location' : Location} {names names' : List String}
      {slash slash' : Bool} (aims : Aims root location names slash (.met location' names' slash'))
      (further : Leads root parent name links location' names' slash') :
      Leads root parent name (links + 1) location names slash

theorem targetWithin_eq_ok_iff :
    targetWithin root links location names slash = .ok (parent, name) ↔
      Leads root parent name links location names slash := by
  constructor
  · intro ok
    induction links generalizing location names slash with
    | zero =>
      obtain ⟨reached, aimed, ok⟩ := bind_eq_ok_iff.mp ok
      cases reached with
      | entry there last =>
        cases ok
        exact .entry (aim_eq_ok_iff.mp aimed)
      | met location' names' slash' => cases ok
    | succ links ih =>
      obtain ⟨reached, aimed, ok⟩ := bind_eq_ok_iff.mp ok
      cases reached with
      | entry there last =>
        cases ok
        exact .entry (aim_eq_ok_iff.mp aimed)
      | met location' names' slash' => exact .link (aim_eq_ok_iff.mp aimed) (ih ok)
  · intro leads
    induction leads with
    | @entry links location names slash aims =>
      have aimed := aim_eq_ok_iff.mpr aims
      cases links <;> simp [targetWithin, aimed, bind, Except.bind, pure, Except.pure]
    | link aims further ih =>
      have aimed := aim_eq_ok_iff.mpr aims
      simpa [targetWithin, aimed, bind, Except.bind] using ih

/-- A file can be written at an entry, as far as the way there goes. -/
structure IsTarget (root : Node) (parent : Location) (name : String) : Prop where
  opened : Open root parent
  isName : IsEntryName name
  plain : ∀ target, root.get? (parent ++ [name]) ≠ some (.link target)

theorem IsTarget.advance_eq (h : IsTarget root parent name) :
    advance root parent [name] =
      if (root.get? (parent ++ [name])).isSome then .ok (.arrived (parent ++ [name]))
      else .error .absent := by
  rw [advance_name h.opened h.isName.ne_dot h.isName.ne_dots, h.isName.checked]
  have plain := h.plain
  cases found : root.get? (parent ++ [name]) with
  | none => rfl
  | some node =>
    cases node with
    | link target => exact absurd found (plain target)
    | file _ _ => rfl
    | directory _ _ => rfl

theorem Leads.isTarget (h : Leads root parent name links location names slash) :
    IsTarget root parent name := by
  induction h with
  | entry aims =>
    cases aims with
    | entry arrived opened isName plain => exact ⟨opened, isName, plain⟩
  | link aims further ih => exact ih

theorem advance_concat_of_met {above rest : List String} {target : String} (last : String)
    (met : advance root location above = .ok (.met directory target rest)) :
    advance root location (above ++ [last]) = .ok (.met directory target (rest ++ [last])) := by
  rw [advance_append, met]

theorem advance_concat_of_arrived {above : List String} (last : String)
    (arrived : advance root location above = .ok (.arrived parent)) :
    advance root location (above ++ [last]) = advance root parent [last] := by
  rw [advance_append, arrived]

/-- Steps to an entry lead to what is there, with the same links. -/
theorem Leads.walkWithin_eq (h : Leads root parent name links location names slash) :
    slash = false ∧ walkWithin root links location names =
      if (root.get? (parent ++ [name])).isSome then .ok (parent ++ [name])
      else .error .absent := by
  induction h with
  | @entry links _ _ _ aims =>
    cases aims with
    | entry arrived opened isName plain =>
      have last := advance_concat_of_arrived name arrived
      rw [IsTarget.advance_eq ⟨opened, isName, plain⟩] at last
      refine ⟨rfl, ?_⟩
      split at last
      · next found => rw [if_pos found, walkWithin_of_arrived links last]
      · next absent => rw [if_neg absent, walkWithin_of_advance_error links last]
  | link aims further ih =>
    obtain ⟨noSlash, walked⟩ := ih
    cases aims with
    | @onWay above rest last _ _ _ met =>
      refine ⟨noSlash, ?_⟩
      rw [walkWithin, advance_concat_of_met last met, ← walked, List.append_assoc]
      rfl
    | @link above last target there arrived opened isName found =>
      refine ⟨rfl, ?_⟩
      have met := advance_concat_of_arrived last arrived
      rw [advance_name opened isName.ne_dot isName.ne_dots, isName.checked, found] at met
      have steps : linkSteps target ++ [] = Path.route target := by simp [linkSteps, noSlash]
      rw [walkWithin, met, ← walked, ← steps]
      rfl

theorem Aims.of_within (h : part.Within whole)
    (aims : Aims part location names slash (.met directory names' slash')) :
    Aims whole location names slash (.met directory names' slash') := by
  cases aims with
  | onWay met => exact .onWay ((h.advance _ _).eq_ok met)
  | link arrived opened isName found =>
    exact .link ((h.advance _ _).eq_ok arrived) (h.isOpen opened) isName (h.get?_link found)

/-- Steps to an entry lead there in the whole, too, if no link is new there. -/
theorem Leads.of_within (within : part.Within whole)
    (h : Leads part parent name links location names slash)
    (plain : ∀ target, whole.get? (parent ++ [name]) ≠ some (.link target)) :
    Leads whole parent name links location names slash := by
  induction h with
  | entry aims =>
    cases aims with
    | entry arrived opened isName _ =>
      exact .entry (.entry ((within.advance _ _).eq_ok arrived) (within.isOpen opened) isName plain)
  | link aims further ih => exact .link (aims.of_within within) ih

theorem target_eq_ok_iff :
    tree.target path = .ok (parent, name) ↔ checkPath path = .ok () ∧
      Leads tree.root parent name mostLinks (tree.start path) (Path.route path)
        (Path.endsInSlash path) := by
  unfold FileTree.target
  rw [← targetWithin_eq_ok_iff]
  constructor
  · intro ok
    obtain ⟨⟨⟩, fits, ok⟩ := bind_eq_ok_iff.mp ok
    exact ⟨fits, ok⟩
  · rintro ⟨fits, ok⟩
    exact bind_eq_ok_iff.mpr ⟨(), fits, ok⟩

theorem isTarget_of_target (ok : tree.target path = .ok (parent, name)) :
    IsTarget tree.root parent name :=
  (target_eq_ok_iff.mp ok).2.isTarget

/-- A path leads to the entry that a file is written at, if anything is there. -/
theorem locate_eq_of_target (ok : tree.target path = .ok (parent, name)) :
    tree.locate path =
      if (tree.entry? parent name).isSome then .ok (parent ++ [name]) else .error .absent := by
  obtain ⟨fits, leads⟩ := target_eq_ok_iff.mp ok
  obtain ⟨noSlash, walked⟩ := leads.walkWithin_eq
  rw [locate, fits, walk, walked, noSlash, entry?]
  split <;> rfl

theorem Within.target (h : Within before after) (ok : before.target path = .ok (parent, name))
    (plain : ∀ target, after.entry? parent name ≠ some (.link target)) :
    after.target path = .ok (parent, name) := by
  obtain ⟨fits, leads⟩ := target_eq_ok_iff.mp ok
  rw [h.start_eq] at leads
  exact target_eq_ok_iff.mpr ⟨fits, leads.of_within h.root plain⟩

/-- A file may be written at an entry, where it has some permissions then: those of the file that is
there, or of a new one. -/
inductive Writable (tree : FileTree) (parent : Location) (name : String) : Nat → Prop where
  | new (absent : tree.entry? parent name = none)
      (changeable : tree.checkChangeable parent = .ok ()) : Writable tree parent name Node.newMode
  | old {mode : Nat} {content : ByteArray}
      (found : tree.entry? parent name = some (.file mode content))
      (allowed : mode &&& Node.mayWriteBit ≠ 0) : Writable tree parent name mode

theorem writeBytes_eq_ok_iff :
    tree.writeBytes path content = .ok after ↔
      ∃ parent name mode, tree.target path = .ok (parent, name) ∧
        Writable tree parent name mode ∧
        after = tree.setEntry parent name (some (.file mode content)) := by
  unfold writeBytes
  constructor
  · intro ok
    obtain ⟨⟨parent, name⟩, aimed, ok⟩ := bind_eq_ok_iff.mp ok
    refine ⟨parent, name, ?_⟩
    dsimp only at ok
    split at ok
    · next absent =>
      obtain ⟨⟨⟩, changeable, same⟩ := bind_eq_ok_iff.mp ok
      exact ⟨_, aimed, .new absent changeable, (Except.ok.inj same).symm⟩
    · next mode old found =>
      split at ok
      · cases ok
      · next allowed => exact ⟨mode, aimed, .old found allowed, (Except.ok.inj ok).symm⟩
    · cases ok
  · rintro ⟨parent, name, mode, aimed, writable, rfl⟩
    rw [aimed]
    cases writable with
    | new absent changeable =>
      simp [absent, changeable, addEntry, bind, Except.bind, pure, Except.pure]
    | old found allowed => simp [found, allowed, bind, Except.bind, pure, Except.pure]

namespace Writable

theorem plain (h : Writable tree parent name mode) : Plain (tree.entry? parent name) := by
  cases h with
  | new absent _ => exact .inl absent
  | old found _ => exact .inr ⟨_, _, found⟩

theorem allowed (h : Writable tree parent name mode) : mode &&& Node.mayWriteBit ≠ 0 := by
  cases h with
  | new _ _ => decide
  | old _ allowed => exact allowed

end Writable

/-- Trees that agree have the same files and links. -/
theorem AgreeBut.get?_eq_some_iff {places : Set Location} (h : AgreeBut places before after)
    {node : Node} (noDirectory : node.isDirectory = false)
    (off : ∀ place ∈ places, ¬ place <+: location) :
    before.root.get? location = some node ↔ after.root.get? location = some node := by
  have bare (tree : FileTree) : tree.root.get? location = some node ↔
      (tree.root.get? location).map Node.bare = some node := by
    cases tree.root.get? location with
    | none => rfl
    | some found =>
      cases node with
      | file mode content => simp
      | link target => simp
      | directory _ _ => cases noDirectory
  rw [bare, bare, h.bare location off]

/-- There is nothing further down where there is no directory. -/
theorem Plain.get?_append_cons (h : Plain (root.get? place)) (name : String) (rest : Location) :
    root.get? (place ++ name :: rest) = none := by
  refine Option.eq_none_iff_forall_ne_some.mpr fun node found => ?_
  obtain ⟨mode, entries, directory⟩ := Node.exists_directory_of_get?_append found
  rcases h with absent | ⟨mode', content, file⟩
  · cases absent.symm.trans directory
  · cases file.symm.trans directory

/-- A file has been written at a place, where there was none or another one, and nothing else has
been changed. -/
structure Wrote (place : Location) (content : ByteArray) (before after : FileTree) : Prop where
  plain : Plain (before.root.get? place)
  file : ∃ mode, after.root.get? place = some (.file mode content)
  agree : AgreeBut {place} after before

namespace Wrote

/-- Away from the file that was written files and links are the same. -/
theorem get?_iff (h : Wrote place content before after) {node : Node}
    (noDirectory : node.isDirectory = false) (other : location ≠ place) :
    after.root.get? location = some node ↔ before.root.get? location = some node := by
  by_cases below : place <+: location
  · obtain ⟨rest, rfl⟩ := below
    obtain ⟨mode, file⟩ := h.file
    have plain : Plain (after.root.get? place) := .inr ⟨mode, content, file⟩
    cases rest with
    | nil => exact absurd (List.append_nil place) other
    | cons name rest => rw [plain.get?_append_cons, h.plain.get?_append_cons]
  · exact h.agree.get?_eq_some_iff noDirectory (by simpa using below)

theorem within (h : Wrote place content before after) : Within before after := by
  refine ⟨h.agree.working.symm, fun location node there => ?_⟩
  obtain ⟨mode, file⟩ := h.file
  by_cases same : location = place
  · subst same
    rcases h.plain with absent | ⟨mode', content', found⟩
    · cases absent.symm.trans there
    · cases found.symm.trans there
      exact ⟨_, file, rfl⟩
  · cases shape : node.isDirectory with
    | false => exact ⟨node, (h.get?_iff shape same).mpr there, rfl⟩
    | true =>
      cases node with
      | file _ _ => cases shape
      | link _ => cases shape
      | directory mode' entries =>
        have off : ¬ place <+: location := DeadEnd.off (.of_plain h.plain) there
        have alike := h.agree.bare location (by simpa using off)
        rw [there, Option.map_some, Option.map_eq_some_iff] at alike
        obtain ⟨other, found, bare⟩ := alike
        refine ⟨other, found, ?_⟩
        cases other <;> cases bare
        rfl

end Wrote

/-- A file that is written is at the end of its path, and nothing else is changed. Writing it again
changes nothing. -/
theorem exists_wrote (ok : before.writeBytes path content = .ok after) :
    ∃ parent name, before.target path = .ok (parent, name) ∧
      Wrote (parent ++ [name]) content before after ∧
      after.locate path = .ok (parent ++ [name]) ∧ after.writeBytes path content = .ok after := by
  obtain ⟨parent, name, mode, aimed, writable, rfl⟩ := writeBytes_eq_ok_iff.mp ok
  obtain ⟨mode', entries, found, -⟩ := open_iff.mp (isTarget_of_target aimed).opened
  have file : entry? (before.setEntry parent name (some (.file mode content))) parent name =
      some (.file mode content) := entry?_setEntry_same _ found
  have wrote : Wrote (parent ++ [name]) content before
      (before.setEntry parent name (some (.file mode content))) :=
    ⟨writable.plain, ⟨mode, file⟩, agreeBut_setEntry _ found name⟩
  have aimed' := wrote.within.target aimed (by simp [file])
  refine ⟨parent, name, aimed, wrote, ?_, writeBytes_eq_ok_iff.mpr
    ⟨parent, name, mode, aimed', .old file writable.allowed, ?_⟩⟩
  · rw [locate_eq_of_target aimed', file]
    rfl
  · rw [setEntry, setEntry, Node.set_set]

end ProfilingSession.FileTree
