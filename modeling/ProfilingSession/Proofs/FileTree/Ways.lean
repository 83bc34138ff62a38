import Mathlib.Data.Set.Image
import ProfilingSession.Proofs.FileTree.Agreement

/-!
# Ways to open directories

Steps that lead to an open directory go through open directories and links only. So what is done at
a dead end turns none of them: at something that is no directory, and if it is a link, none that
leads to an open directory. Trees that agree but for dead ends have the `SameWays`, and paths name
the same entries in both.

How many links may be followed on the whole makes a difference: a link that leads to a directory by
itself may be one too many for a path (`Names.locate_of_link`).
-/

namespace ProfilingSession.FileTree

/-- Steps lead to an open directory, with at most so many links. -/
def Reaches (root : Node) (links : Nat) (location : Location) (steps : List String)
    (there : Location) : Prop :=
  walkWithin root links location steps = .ok there ∧ Open root there

/-- There is a file, or nothing. -/
def Plain (node : Option Node) : Prop :=
  node = none ∨ ∃ mode content, node = some (.file mode content)

/-- There is no directory at a place, and no link from there to an open directory. -/
structure DeadEnd (root : Node) (place : Location) : Prop where
  noDirectory : (root.get? place).any Node.isDirectory = false
  link : ∀ target, root.get? place = some (.link target) →
    ∀ there, ¬ Reaches root mostLinks (startFrom place.dropLast target) (linkSteps target) there

/-- Steps lead to the same open directories in both trees. -/
structure SameWays (a b : FileTree) : Prop where
  working : a.working = b.working
  reaches_iff : ∀ links ≤ mostLinks, ∀ location steps there,
    Reaches a.root links location steps there ↔ Reaches b.root links location steps there

variable {a b c tree : FileTree} {root : Node} {path : Path} {places : Set Location}
variable {directory location place there : Location} {links more : Nat}
variable {name target : String} {steps rest : List String}

theorem Open.of_advance {step : String} {reached : Advance}
    (advanced : advance root location (step :: rest) = .ok reached) : Open root location := by
  obtain ⟨entries, passed, -⟩ := bind_eq_ok_iff.mp advanced
  exact ⟨entries, passed⟩

/-- Steps are made from where those before them lead, which has to be an open directory. -/
theorem exists_walkWithin_of_append
    (walked : walkWithin root links location (steps ++ rest) = .ok there) :
    ∃ between, walkWithin root links location steps = .ok between ∧
      (rest ≠ [] → Open root between) := by
  -- The first steps end, and then one more is made from there if there is one; or they meet a link,
  -- and what is left of them is to be made from its target.
  induction links using Nat.strong_induction_on generalizing location steps with
  | _ links ih =>
    have whole := advance_append root location steps rest
    cases advanced : advance root location steps with
    | error cause =>
      rw [advanced] at whole
      cases walked.symm.trans (walkWithin_of_advance_error links whole)
    | ok reached =>
      rw [advanced] at whole
      cases reached with
      | arrived between =>
        refine ⟨between, walkWithin_of_arrived links advanced, fun some => ?_⟩
        obtain ⟨step, rest, rfl⟩ := List.exists_cons_of_ne_nil some
        cases further : advance root between (step :: rest) with
        | ok reached => exact .of_advance further
        | error cause =>
          cases walked.symm.trans (walkWithin_of_advance_error links (whole.trans further))
      | met directory target left =>
        rcases walkWithin_eq_ok_iff.mp walked with arrived | ⟨fewer, _, _, _, rfl, met, further⟩
        · cases whole.symm.trans arrived
        · cases whole.symm.trans met
          rw [← List.append_assoc] at further
          obtain ⟨between, walked', opened⟩ := ih fewer (by omega) further
          exact ⟨between, walkWithin_eq_ok_iff.mpr (.inr ⟨_, _, _, _, rfl, advanced, walked'⟩),
            opened⟩

namespace Reaches

theorem mono (h : Reaches root links location steps there) (le : links ≤ more) :
    Reaches root more location steps there := by
  rcases walkWithin_of_le le location steps with stopped | same
  · cases h.1.symm.trans stopped
  · exact ⟨same ▸ h.1, h.2⟩

/-- On the way to an open directory every step is made from one. -/
theorem of_append (h : Reaches root links location (steps ++ rest) there) :
    ∃ between, Reaches root links location steps between := by
  obtain ⟨walked, opened⟩ := h
  obtain ⟨between, walked', opened'⟩ := exists_walkWithin_of_append walked
  cases rest with
  | nil =>
    rw [List.append_nil] at walked
    exact ⟨there, walked, opened⟩
  | cons step rest => exact ⟨between, walked', opened' (List.cons_ne_nil step rest)⟩

end Reaches

namespace DeadEnd

theorem of_plain (h : Plain (root.get? place)) : DeadEnd root place := by
  rcases h with found | ⟨mode, content, found⟩ <;>
    exact ⟨by rw [found]; rfl, fun target link => by cases found.symm.trans link⟩

theorem off (h : DeadEnd root place) {mode : Nat} {entries : List (String × Node)}
    (found : root.get? location = some (.directory mode entries)) : ¬ place <+: location := by
  have noDirectory := h.noDirectory
  rintro ⟨rest, rfl⟩
  cases rest with
  | nil =>
    rw [List.append_nil] at found
    simp [found, Node.isDirectory] at noDirectory
  | cons name rest =>
    obtain ⟨mode', inner, found'⟩ := Node.exists_directory_of_get?_append found
    simp [found', Node.isDirectory] at noDirectory

end DeadEnd

theorem not_open_of_file {mode : Nat} {content : ByteArray}
    (h : root.get? location = some (.file mode content)) : ¬ Open root location := by
  intro opened
  obtain ⟨mode', entries, found, -⟩ := open_iff.mp opened
  cases h.symm.trans found

theorem eq_arrived_of_file {mode : Nat} {content : ByteArray}
    (h : root.get? location = some (.file mode content)) {reached : Advance}
    (advanced : advance root location steps = .ok reached) : reached = .arrived location := by
  cases steps with
  | nil =>
    cases advanced
    rfl
  | cons step rest =>
    exact absurd (.of_advance advanced) (not_open_of_file h)

theorem advance_name (here : Open root location) (dot : name ≠ ".") (dots : name ≠ "..")
    (rest : List String) :
    advance root location (name :: rest) = (do
      checkName name
      match root.get? (location ++ [name]) with
      | none => .error .absent
      | some (.link target) => return .met location target rest
      | some _ => advance root (location ++ [name]) rest) := by
  obtain ⟨entries, passed⟩ := here
  obtain ⟨mode, found, -⟩ := exists_of_passage passed
  have there : root.get? (location ++ [name]) = Node.lookup name entries := by
    rw [Node.get?_append_singleton, found]
    rfl
  rw [advance, passed, there]
  exact (if_neg dot).trans (if_neg dots)

theorem advance_dot (here : Open root location) (rest : List String) :
    advance root location ("." :: rest) = advance root location rest := by
  obtain ⟨entries, passed⟩ := here
  rw [advance, passed]
  rfl

theorem advance_dots (here : Open root location) (rest : List String) :
    advance root location (".." :: rest) = advance root location.dropLast rest := by
  obtain ⟨entries, passed⟩ := here
  rw [advance, passed]
  rfl

section Agree

variable (agree : AgreeBut places a b) (dead : ∀ place ∈ places, DeadEnd a.root place)

include agree dead

theorem Open.of_agree (h : Open a.root location) : Open b.root location := by
  obtain ⟨mode, entries, found, run⟩ := open_iff.mp h
  have alike := agree.bare location fun place mem => (dead place mem).off found
  rw [found, Option.map_some, eq_comm, Option.map_eq_some_iff] at alike
  obtain ⟨node, found', bare⟩ := alike
  cases node with
  | directory mode' entries' =>
    cases bare
    exact open_iff.mpr ⟨mode, entries', found', run⟩
  | file _ _ => cases bare
  | link _ => cases bare

/-- What is in a directory is the same in trees that agree but for dead ends, or is a dead end. -/
theorem entry_of_agree (here : Open a.root location) (step : String) :
    (a.root.get? (location ++ [step])).map Node.bare =
        (b.root.get? (location ++ [step])).map Node.bare ∨
      location ++ [step] ∈ places := by
  obtain ⟨mode, entries, found, -⟩ := open_iff.mp here
  by_cases off : ∀ place ∈ places, ¬ place <+: location ++ [step]
  · exact .inl (agree.bare _ off)
  · push Not at off
    obtain ⟨place, mem, above⟩ := off
    rcases List.prefix_concat_iff.mp above with rfl | above
    · exact .inr mem
    · exact absurd above ((dead place mem).off found)

/-- Steps lead to the same in trees that agree but for dead ends, unless they end at one, or meet a
link at one. -/
theorem advance_of_agree {reached : Advance}
    (advanced : advance a.root location steps = .ok reached) :
    advance b.root location steps = .ok reached ∨
      (∃ there, reached = .arrived there ∧ ¬ Open a.root there) ∨
      ∃ directory target rest name, reached = .met directory target rest ∧
        directory ++ [name] ∈ places ∧
        a.root.get? (directory ++ [name]) = some (.link target) := by
  induction steps generalizing location with
  | nil =>
    cases advanced
    exact .inl rfl
  | cons step rest ih =>
    have here : Open a.root location := .of_advance advanced
    have here' := here.of_agree agree dead
    by_cases dot : step = "."
    · subst dot
      rw [advance_dot here] at advanced
      rw [advance_dot here']
      exact ih advanced
    by_cases dots : step = ".."
    · subst dots
      rw [advance_dots here] at advanced
      rw [advance_dots here']
      exact ih advanced
    rw [advance_name here dot dots] at advanced
    rw [advance_name here' dot dots]
    obtain ⟨⟨⟩, checked, advanced⟩ := bind_eq_ok_iff.mp advanced
    rw [checked]
    rcases entry_of_agree agree dead here step with alike | mem
    · -- Away from the dead ends there is a node of the same kind in both trees, or none.
      cases found : a.root.get? (location ++ [step]) with
      | none => simp [found] at advanced
      | some node =>
        rw [found, Option.map_some, eq_comm, Option.map_eq_some_iff] at alike
        obtain ⟨other, found', bare⟩ := alike
        rw [found] at advanced
        rw [found']
        cases node <;> cases other <;> cases bare
        · exact ih advanced
        · exact ih advanced
        · exact .inl advanced
    · cases found : a.root.get? (location ++ [step]) with
      | none => simp [found] at advanced
      | some node =>
        rw [found] at advanced
        cases node with
        | link target =>
          cases advanced
          exact .inr (.inr ⟨location, target, rest, step, rfl, mem, found⟩)
        | file mode content =>
          exact .inr (.inl ⟨_, eq_arrived_of_file found advanced, not_open_of_file found⟩)
        | directory mode inner =>
          have noDirectory := (dead _ mem).noDirectory
          simp [found, Node.isDirectory] at noDirectory

/-- Steps to an open directory lead there in trees that agree but for dead ends. -/
theorem Reaches.of_agree (le : links ≤ mostLinks)
    (h : Reaches a.root links location steps there) :
    Reaches b.root links location steps there := by
  obtain ⟨walked, opened⟩ := h
  refine ⟨?_, opened.of_agree agree dead⟩
  induction links using Nat.strong_induction_on generalizing location steps with
  | _ links ih =>
    rcases walkWithin_eq_ok_iff.mp walked with
      arrived | ⟨fewer, directory, target, rest, rfl, met, further⟩
    · refine walkWithin_of_arrived links ?_
      rcases advance_of_agree agree dead arrived with
        same | ⟨_, same, closed⟩ | ⟨_, _, _, _, same, -⟩
      · exact same
      · cases same
        exact absurd opened closed
      · cases same
    · rcases advance_of_agree agree dead met with
        same | ⟨_, same, -⟩ | ⟨_, _, _, name, same, mem, link⟩
      · exact walkWithin_eq_ok_iff.mpr
          (.inr ⟨fewer, _, _, _, rfl, same, ih fewer (by omega) (by omega) further⟩)
      · cases same
      · -- The link would lead to an open directory, as the rest of the steps has to start from one.
        cases same
        obtain ⟨between, reached⟩ := Reaches.of_append ⟨further, opened⟩
        have never := (dead _ mem).link target link between
        rw [List.dropLast_concat] at never
        exact absurd (reached.mono (by omega)) never

end Agree

namespace SameWays

theorem symm (h : SameWays a b) : SameWays b a :=
  ⟨h.working.symm, fun links le location steps there =>
    (h.reaches_iff links le location steps there).symm⟩

theorem of_agree (agree : AgreeBut places a b) (dead : ∀ place ∈ places, DeadEnd a.root place)
    (dead' : ∀ place ∈ places, DeadEnd b.root place) : SameWays a b :=
  ⟨agree.working, fun _ le _ _ _ =>
    ⟨.of_agree agree dead le, .of_agree agree.symm dead' le⟩⟩

theorem start_eq (h : SameWays a b) (path : Path) : a.start path = b.start path := by
  rw [FileTree.start, FileTree.start, h.working]

theorem names (h : SameWays a b) (named : a.Names path directory name) :
    b.Names path directory name := by
  obtain ⟨fits, dot, dots, slash, opened, above, shape, walked⟩ := names_iff.mp named
  rw [h.start_eq] at walked
  obtain ⟨walked', opened'⟩ := (h.reaches_iff mostLinks le_rfl _ _ _).mp ⟨walked, opened⟩
  exact names_iff.mpr ⟨fits, dot, dots, slash, opened', above, shape, walked'⟩

theorem locate (h : SameWays a b) (opened : Open a.root there)
    (located : a.locate path = .ok there) : b.locate path = .ok there := by
  obtain ⟨⟨⟩, fits, located⟩ := bind_eq_ok_iff.mp located
  obtain ⟨reached, walked, ends⟩ := bind_eq_ok_iff.mp located
  have same : reached = there := by
    split at ends
    · obtain ⟨_, -, same⟩ := bind_eq_ok_iff.mp ends
      exact Except.ok.inj same
    · exact Except.ok.inj ends
  subst same
  rw [h.start_eq] at walked
  obtain ⟨walked', opened'⟩ := (h.reaches_iff mostLinks le_rfl _ _ _).mp ⟨walked, opened⟩
  obtain ⟨mode, entries, found, -⟩ := open_iff.mp opened'
  have walked'' : walk b.root (b.start path) (Path.route path) = .ok reached := walked'
  rw [FileTree.locate, fits, walked'']
  simp [bind, Except.bind, pure, Except.pure, checkDirectory, found, Node.isDirectory]

end SameWays

/-- A path that names a link leads where the link leads, or has too many links. -/
theorem Names.locate_of_link (h : tree.Names path directory name)
    (checked : checkName name = .ok ())
    (link : tree.entry? directory name = some (.link target)) :
    tree.locate path = .error .tooManyLinks ∨
      tree.locate path = walk tree.root (startFrom directory target) (linkSteps target) := by
  obtain ⟨fits, dot, dots, slash, opened, above, shape, walked⟩ := names_iff.mp h
  obtain ⟨left, le, further⟩ := walkWithin_append walked
  have met : advance tree.root directory [name] = .ok (.met directory target []) := by
    rw [advance_name opened dot dots, checked, show tree.root.get? _ = _ from link]
    rfl
  have whole : tree.locate path = walkWithin tree.root left directory [name] := by
    rw [locate, fits, shape, walk, further, slash]
    cases walkWithin tree.root left directory [name] <;> rfl
  rw [whole]
  cases left with
  | zero => exact .inl (by simp [walkWithin, met, bind, Except.bind])
  | succ left =>
    have through : walkWithin tree.root (left + 1) directory [name] =
        walkWithin tree.root left (startFrom directory target) (linkSteps target) := by
      simp [walkWithin, met, bind, Except.bind]
    rw [through]
    exact walkWithin_of_le (by omega) _ _

theorem hasNode_of_locate (opened : Open tree.root there) (located : tree.locate path = .ok there) :
    tree.hasNode path = true := by
  obtain ⟨mode, entries, found, -⟩ := open_iff.mp opened
  simp [hasNode, node, located, found, bind, Except.bind, pure, Except.pure, Except.isOk,
    Except.toBool]

theorem Names.entry_eq_ok (h : tree.Names path directory name) {node : Node}
    (ok : tree.entry path = .ok node) : tree.entry? directory name = some node := by
  obtain ⟨_, placed, ok⟩ := bind_eq_ok_iff.mp ok
  cases h.symm.trans placed
  obtain ⟨_, -, ok⟩ := bind_eq_ok_iff.mp ok
  cases there : tree.entry? directory name with
  | none => simp [there] at ok
  | some other => simpa [there] using ok

theorem DeadEnd.of_ways (h : DeadEnd a.root place) (ways : SameWays a b)
    (alike : (b.root.get? place).map Node.bare = (a.root.get? place).map Node.bare) :
    DeadEnd b.root place where
  noDirectory := by
    have blind := Node.isDirectory_bare
    rw [← Node.any_map_bare blind, alike, Node.any_map_bare blind, h.noDirectory]
  link target link there reached := by
    rw [link, Option.map_some, eq_comm, Option.map_eq_some_iff] at alike
    obtain ⟨node, link', bare⟩ := alike
    rw [show node = .link target from Node.bare_eq_link_iff.mp bare] at link'
    exact h.link target link' there ((ways.reaches_iff mostLinks le_rfl _ _ _).mpr reached)

/-- Entries of a directory that are dead ends are removed, or become files. -/
structure Changes (directory : Location) (changed : Set String) (before after : FileTree) :
    Prop where
  agree : AgreeBut ((fun name => directory ++ [name]) '' changed) after before
  dead : ∀ name ∈ changed, DeadEnd before.root (directory ++ [name])
  plain : ∀ name ∈ changed, Plain (after.entry? directory name)

namespace Changes

variable {changed changed' : Set String}

theorem of_agree (same : AgreeBut ∅ b a) : Changes directory ∅ a b :=
  ⟨by simpa using same, by simp, by simp⟩

theorem setEntry (named : tree.Names path directory name)
    (dead : DeadEnd tree.root (directory ++ [name])) {value : Option Node} (plain : Plain value) :
    Changes directory {name} tree (tree.setEntry directory name value) := by
  obtain ⟨mode, entries, found⟩ := named.exists_directory
  refine ⟨by simpa using agreeBut_setEntry value found name, by simpa using dead, ?_⟩
  rintro _ rfl
  rwa [entry?_setEntry_same value found]

theorem ways (h : Changes directory changed a b) : SameWays a b := by
  refine .of_agree h.agree.symm ?_ ?_
  · rintro _ ⟨name, mem, rfl⟩
    exact h.dead name mem
  · rintro _ ⟨name, mem, rfl⟩
    exact .of_plain (h.plain name mem)

theorem entry?_eq (h : Changes directory changed a b) (off : name ∉ changed) :
    (b.entry? directory name).map Node.bare = (a.entry? directory name).map Node.bare := by
  refine h.agree.entry? ?_
  rintro _ ⟨other, mem, rfl⟩ above
  obtain rfl : other = name := by simpa [List.prefix_append_right_inj] using above
  exact off mem

theorem changeable_eq (h : Changes directory changed a b) :
    b.checkChangeable directory = a.checkChangeable directory := by
  refine h.agree.checkChangeable_eq ?_
  rintro _ ⟨other, mem, rfl⟩
  exact not_append_prefix_self directory other []

theorem deadEnd (h : Changes directory changed a b)
    (dead : DeadEnd a.root (directory ++ [name])) : DeadEnd b.root (directory ++ [name]) := by
  by_cases mem : name ∈ changed
  · exact .of_plain (h.plain name mem)
  · exact dead.of_ways h.ways (h.entry?_eq mem)

theorem trans (h : Changes directory changed a b) (h' : Changes directory changed' b c) :
    Changes directory (changed ∪ changed') a c where
  agree := by
    rw [Set.image_union]
    exact (h'.agree.mono Set.subset_union_right).trans (h.agree.mono Set.subset_union_left)
  dead name mem := by
    by_cases first : name ∈ changed
    · exact h.dead name first
    · exact (h'.dead name (mem.resolve_left first)).of_ways h.ways.symm (h.entry?_eq first).symm
  plain name mem := by
    by_cases last : name ∈ changed'
    · exact h'.plain name last
    · have alike := h'.entry?_eq last
      rcases h.plain name (mem.resolve_right last) with none' | ⟨mode, content, file⟩
      · rw [none', Option.map_none, Option.map_eq_none_iff] at alike
        exact .inl alike
      · rw [file, Option.map_some, Option.map_eq_some_iff] at alike
        obtain ⟨node, there, bare⟩ := alike
        exact .inr ⟨mode, content, by rw [there, Node.bare_eq_file_iff.mp bare]⟩

end Changes

end ProfilingSession.FileTree
