import ProfilingSession.Proofs.FileTree.Writing
import ProfilingSession.Proofs.Generation.Sources

/-!
# A header is written as a whole or not at all

`perform` does what a request asks for step by step: each step finds the tree that the steps before
it have left, and when one fails the tree stays as it is then. It does what `generate` says
(`run_perform_eq`). All steps but the last only look, which is why a request that fails has changed
nothing, and one that succeeds has changed nothing but its output. That is made of what was there
before, even if it was one of the inputs; otherwise the request can be made again, and then changes
nothing (`run_perform`).
-/

namespace ProfilingSession.Generation

open FileTree (Cause Path Location Wrote)

variable {α β : Type}

/-- Steps in a file tree. A fault ends them, and what was done before it stays done. -/
abbrev Steps := ExceptT Fault (StateM FileTree)

namespace Steps

/-- What comes of steps that begin in a tree, and the tree after them. -/
def run (steps : Steps α) (tree : FileTree) : Except Fault α × FileTree :=
  StateT.run (ExceptT.run steps) tree

def look (read : FileTree → Except Fault α) : Steps α := do
  match read (← get) with
  | .ok value => return value
  | .error fault => throw fault

/-- A step that writes a file. If the file cannot be opened nothing is written. -/
def write (path : Path) (content : String) : Steps Unit := do
  match (← get).writeText path content with
  | .ok tree => set tree
  | .error cause => throw (.unwritable path cause)

theorem run_bind (first : Steps α) (next : α → Steps β) (tree : FileTree) :
    run (first >>= next) tree =
      match run first tree with
      | (.ok value, after) => run (next value) after
      | (.error fault, after) => (.error fault, after) := by
  simp only [run, ExceptT.run_bind, StateT.run_bind]
  cases (StateT.run (ExceptT.run first) tree) with
  | mk answer after => cases answer <;> rfl

theorem run_pure (value : α) (tree : FileTree) : run (pure value) tree = (.ok value, tree) := rfl

/-- Steps that leave the tree as it is, and give what can be read in it. -/
def Looks (steps : Steps α) (read : FileTree → Except Fault α) : Prop :=
  ∀ tree, steps.run tree = (read tree, tree)

theorem looks_look (read : FileTree → Except Fault α) : Looks (look read) read := by
  intro tree
  rw [look, run_bind]
  change run (match read tree with | .ok value => pure value | .error fault => throw fault) tree = _
  cases read tree <;> rfl

namespace Looks

variable {first : Steps α} {next : α → Steps β} {read : FileTree → Except Fault α}
variable {read' : α → FileTree → Except Fault β}

theorem pure (value : α) : Looks (Pure.pure value) fun _ => .ok value := run_pure value

theorem bind (h : Looks first read) (h' : ∀ value, Looks (next value) (read' value)) :
    Looks (first >>= next) fun tree => read tree >>= fun value => read' value tree := by
  intro tree
  change _ = (read tree >>= fun value => read' value tree, tree)
  rw [run_bind, h tree]
  cases read tree with
  | error fault => rfl
  | ok value => exact h' value tree

theorem mapM {step : α → Steps β} {read : α → FileTree → Except Fault β}
    (h : ∀ value, Looks (step value) (read value)) (value? : Option α) :
    Looks (value?.mapM step) fun tree => value?.mapM fun value => read value tree := by
  intro tree
  cases value? with
  | none => rfl
  | some value =>
    change run (some <$> step value) tree = (some <$> read value tree, tree)
    rw [map_eq_pure_bind, run_bind, h value tree]
    cases read value tree <;> rfl

end Looks

theorem run_write (path : Path) (content : String) (tree : FileTree) :
    run (write path content) tree =
      match tree.writeText path content with
      | .ok after => (.ok (), after)
      | .error cause => (.error (.unwritable path cause), tree) := by
  rw [write, run_bind]
  change run (match tree.writeText path content with
    | .ok after => set after
    | .error cause => throw (.unwritable path cause)) tree = _
  cases tree.writeText path content <;> rfl

end Steps

open Steps

/-- Reads what a request is made from, and makes the text of the header. -/
def prepare (request : Request) : Steps (String × Nat) := do
  look fun tree =>
    if tree.hasDirectory request.directory then .ok () else .error (.noDirectory request.directory)
  let catalogPath := Path.join request.directory Catalog.fileName
  let catalog ← look fun tree =>
    (Catalog.load tree catalogPath).mapError (.badCatalog catalogPath)
  let selection ← request.profiler.mapM fun profiler =>
    let path := selectionPath request.directory profiler
    look fun tree => (Selection.load catalog tree path).mapError (.badSelection profiler path)
  let declarations ← look fun _ => (declare catalog selection).mapError .undeclarable
  let prelude ← request.template.mapM fun path =>
    look fun tree => (tree.text path).mapError (.noTemplate path)
  return (Header.render prelude declarations, declarations.length)

/-- Does what a request asks for; gives the number of declarations. -/
def perform (request : Request) : Steps Nat := do
  let (text, count) ← prepare request
  write request.output text
  return count

theorem looks_prepare (request : Request) : Looks (prepare request) (header request) := by
  have steps := (looks_look fun tree => if tree.hasDirectory request.directory then Except.ok ()
      else .error (.noDirectory request.directory)).bind fun _ =>
    (looks_look fun tree => (Catalog.load tree
        (Path.join request.directory Catalog.fileName)).mapError
          (.badCatalog (Path.join request.directory Catalog.fileName))).bind fun catalog =>
    (Looks.mapM (fun profiler => looks_look fun tree => (Selection.load catalog tree
        (selectionPath request.directory profiler)).mapError
          (.badSelection profiler (selectionPath request.directory profiler)))
        request.profiler).bind fun selection =>
    (looks_look fun _ => (declare catalog selection).mapError .undeclarable).bind
      fun declarations =>
    (Looks.mapM (fun path => looks_look fun tree => (tree.text path).mapError (.noTemplate path))
        request.template).bind fun prelude =>
    Looks.pure (Header.render prelude declarations, declarations.length)
  intro tree
  refine (steps tree).trans (congrArg (·, tree) ?_)
  unfold header Generation.declarations preludeOf
  by_cases there : tree.hasDirectory request.directory = true
  · simp only [if_pos there, bind_assoc]
    rfl
  · simp only [if_neg there]
    rfl

/-- What a request does step by step is what is made of it as a whole; when it fails the tree stays
as it was. -/
theorem run_perform_eq (request : Request) (tree : FileTree) :
    run (perform request) tree =
      match generate request tree with
      | .ok (count, after) => (.ok count, after)
      | .error fault => (.error fault, tree) := by
  rw [perform, run_bind, looks_prepare request tree, generate]
  cases header request tree with
  | error fault => rfl
  | ok made =>
    obtain ⟨text, count⟩ := made
    change run (write request.output text >>= fun _ => pure count) tree = _
    rw [run_bind, run_write]
    change _ = match (tree.writeText request.output text).mapError
        (Fault.unwritable request.output) >>= fun after => Except.ok (count, after) with
      | .ok (count, after) => (Except.ok count, after)
      | .error fault => (.error fault, tree)
    cases tree.writeText request.output text <;> rfl

theorem generate_eq_ok_iff {request : Request} {before after : FileTree} {count : Nat} :
    generate request before = .ok (count, after) ↔
      ∃ text, header request before = .ok (text, count) ∧
        before.writeText request.output text = .ok after := by
  simp only [generate, bind_eq_ok_iff, mapError_eq_ok_iff, Prod.exists, pure, Except.pure,
    Except.ok.injEq, Prod.mk.injEq]
  constructor
  · rintro ⟨text, _, made, _, written, rfl, rfl⟩
    exact ⟨text, made, written⟩
  · rintro ⟨text, made, written⟩
    exact ⟨text, count, made, after, written, rfl, rfl⟩

variable {request : Request} {before after : FileTree} {catalog : Catalog}
variable {selection : Option Selection} {declarations : List Declaration}
variable {prelude : Option String} {place : Location} {content : ByteArray}

/-- What a request reads is the same after a file was written that is none of its inputs. -/
theorem Reads.of_wrote (reads : Reads request before catalog selection declarations prelude)
    (wrote : Wrote place content before after)
    (apart : ∀ input ∈ request.inputs, before.locate input ≠ .ok place) :
    Reads request after catalog selection declarations prelude := by
  refine reads.of_texts (wrote.within.hasDirectory reads.isThere) fun input mem text read => ?_
  refine wrote.within.text read fun location node located found noDirectory => ?_
  refine (wrote.get?_iff noDirectory ?_).mpr found
  rintro rfl
  exact apart input mem located

/-- The lines after the prelude of a header are those of the declarations. -/
theorem exists_endedLines (reads : Reads request before catalog selection declarations prelude) :
    ∃ rest, Header.render prelude declarations = Header.endLine (prelude.getD "") ++ rest ∧
      Text.endedLines rest = some (declarations.map Declaration.line) := by
  refine ⟨_, Header.render_eq prelude declarations, Text.endedLines_join ?_⟩
  simpa using reads.wellFormed.newline_not_mem

/-- A request that fails has left the tree as it was. Otherwise the file that its output leads to
now holds the header of what the request read in the tree before, with as many lines after the
prelude as it says, and nothing else in the tree has changed; if the output was none of the inputs,
the request can be made again and then changes nothing. -/
theorem run_perform (request : Request) (before : FileTree) :
    (∃ fault, run (perform request) before = (.error fault, before)) ∨
    ∃ count after catalog selection declarations prelude place,
      run (perform request) before = (.ok count, after) ∧
      Reads request before catalog selection declarations prelude ∧
      after.locate request.output = .ok place ∧
      Wrote place (Header.render prelude declarations).toUTF8 before after ∧
      (∃ rest lines, Header.render prelude declarations =
          Header.endLine (prelude.getD "") ++ rest ∧
        Text.endedLines rest = some lines ∧ lines = declarations.map Declaration.line ∧
        lines.length = count) ∧
      ((∀ input ∈ request.inputs, before.locate input ≠ before.locate request.output) →
        run (perform request) after = (.ok count, after)) := by
  have done := run_perform_eq request before
  cases generated : generate request before with
  | error fault =>
    rw [generated] at done
    exact .inl ⟨fault, done⟩
  | ok answer =>
    obtain ⟨count, after⟩ := answer
    rw [generated] at done
    obtain ⟨text, made, written⟩ := generate_eq_ok_iff.mp generated
    obtain ⟨catalog, selection, declarations, prelude, reads, rfl, rfl⟩ := header_eq_ok_iff.mp made
    obtain ⟨parent, name, aimed, wrote, located, again⟩ := FileTree.exists_wrote written
    obtain ⟨rest, whole, lines⟩ := exists_endedLines reads
    refine .inr ⟨_, after, catalog, selection, declarations, prelude, _, done, reads, located,
      wrote, ⟨rest, _, whole, lines, rfl, List.length_map _⟩, fun apart => ?_⟩
    -- An input at the place of the output would be what the output led to before.
    have reads' := reads.of_wrote wrote fun input mem same => by
      obtain ⟨text, read⟩ := reads.exists_text mem
      obtain ⟨location, mode, content, there, found, -⟩ := FileTree.text_eq_ok_iff.mp read
      obtain rfl := Except.ok.inj (there.symm.trans same)
      refine apart input mem (same.trans ?_)
      rw [FileTree.locate_eq_of_target aimed, FileTree.entry?, found]
      rfl
    rw [run_perform_eq, generate_eq_ok_iff.mpr
      ⟨_, header_eq_ok_iff.mpr ⟨_, _, _, _, reads', rfl, rfl⟩, again⟩]

end ProfilingSession.Generation
