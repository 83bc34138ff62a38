import Mathlib.Logic.Function.Basic
import ProfilingSession.Proofs.Channels.Stages

/-!
# Sessions that share a directory

Any number of sessions reserve ids in one directory and give them up again, and their steps come
in any order. In between, the consumer of a session makes its segment, at any moment until the
marker of the session is gone, and others change whatever they like, apart from the markers.
`World.maker` keeps for every segment whose consumer made it.

The invariant is `Exclusive`. A session that made a marker is the only one for the id until it
removes the marker, since the marker is there in between and is made only where there is none. A
segment that a consumer made is there when another session looks for it after making a marker; so
the only session that gets to remove it is the one whose consumer made it.
-/

namespace ProfilingSession.Channels

open FileTree (Location Path)

/-- Sessions with one directory; their ranges of ids and numbers of candidates may differ. -/
structure Sharing (ι : Type) where
  directory : Path
  location : Location
  channels : ι → Channels
  /-- What the markers of a session say. -/
  owner : ι → Nat
  directory_eq : ∀ session, (channels session).directory = directory

/-- The files, how far each session is, and whose consumer made the segment of an id. -/
structure World (ι : Type) where
  tree : FileTree
  stage : ι → Stage
  maker : Nat → Option ι

variable {ι : Type}

def survivors (location : Location) (tree : FileTree) (maker : Nat → Option ι) :
    Nat → Option ι := fun id =>
  match tree.entry? location (segmentName id) with
  | some (.file ..) => maker id
  | _ => none

theorem survivors_eq_some {location : Location} {tree : FileTree} {maker : Nat → Option ι}
    {id : Nat} {session : ι} (h : survivors location tree maker id = some session) :
    maker id = some session ∧
      ∃ mode content, tree.entry? location (segmentName id) = some (.file mode content) := by
  unfold survivors at h
  split at h
  · next mode content found => exact ⟨h, mode, content, found⟩
  · cases h

variable (sharing : Sharing ι)

/-- Nothing was done in the directory by any session yet. -/
structure World.Fresh (world : World ι) : Prop where
  shared : Namespace sharing.directory sharing.location world.tree
  idle : ∀ session, world.stage session = .idle
  unmade : ∀ id, world.maker id = none

/-- Every marker of a session is there and no other session's, and a slot whose segment a consumer
made is that of its session. -/
structure Exclusive (world : World ι) : Prop where
  shared : Namespace sharing.directory sharing.location world.tree
  present : ∀ session id, (world.stage session).marked? = some id →
    Present sharing.directory sharing.location (markerName id) world.tree
  unique : ∀ first second id, (world.stage first).marked? = some id →
    (world.stage second).marked? = some id → first = second
  made : ∀ id maker, world.maker id = some maker →
    Present sharing.directory sharing.location (segmentName id) world.tree
  own : ∀ id maker session, world.maker id = some maker →
    (world.stage session).slot? = some id → session = maker

variable {sharing} {world : World ι}

theorem World.Fresh.exclusive (h : world.Fresh sharing) : Exclusive sharing world where
  shared := h.shared
  present session id marked := by simp [h.idle session, Stage.marked?] at marked
  unique first second id marked := by simp [h.idle first, Stage.marked?] at marked
  made id maker made := by simp [h.unmade id] at made
  own id maker session made := by simp [h.unmade id] at made

theorem Exclusive.present_of_survivors (h : Exclusive sharing world) {tree : FileTree} {id : Nat}
    {maker : ι} (survives : survivors sharing.location tree world.maker id = some maker) :
    world.maker id = some maker ∧
      Present sharing.directory sharing.location (segmentName id) tree := by
  obtain ⟨before, file⟩ := survivors_eq_some survives
  exact ⟨before, (h.made id maker before).pathFits, (h.made id maker before).nameFits, file⟩

variable [DecidableEq ι] (sharing)

namespace World

/-- A session makes its next step. -/
def act (session : ι) (candidate : Nat) (world : World ι) : World ι :=
  let after := (world.stage session).advance (sharing.channels session) (sharing.owner session)
    candidate world.tree
  ⟨after.2, Function.update world.stage session after.1,
    survivors sharing.location after.2 world.maker⟩

/-- A session turns to something else, without touching a file. -/
def turn (session : ι) (stage : Stage) (world : World ι) : World ι :=
  { world with stage := Function.update world.stage session stage }

def publish (session : ι) (id : Nat) (tree : FileTree) (world : World ι) : World ι :=
  { world with tree := tree, maker := Function.update world.maker id (some session) }

def disturb (tree : FileTree) (world : World ι) : World ι :=
  { world with tree := tree, maker := survivors sharing.location tree world.maker }

end World

/-- One step of the sessions, of their consumers, or of others. -/
inductive Step (world : World ι) : World ι → Prop
  | act (session : ι) (candidate : Nat) : Step world (world.act sharing session candidate)
  /-- A session asks for a channel. -/
  | acquire (session : ι) (attempts : Nat) (idle : world.stage session = .idle) :
    Step world (world.turn session (.drawing attempts))
  /-- A session begins to give up its slot. -/
  | giveUp (session : ι) (id : Nat) (forced : Bool)
    (holding : world.stage session = .holding id) :
    Step world (world.turn session (.clearing id forced))
  /-- The consumer of a session makes its segment. -/
  | publish (session : ι) (id : Nat) (content : ByteArray) (tree : FileTree)
    (slot : (world.stage session).slot? = some id)
    (made : world.tree.createFile ((sharing.channels session).segment id) content = .ok tree) :
    Step world (world.publish session id tree)
  | disturb (tree : FileTree) (shared : Namespace sharing.directory sharing.location tree)
    (markers : ∀ id, tree.entry? sharing.location (markerName id) =
      world.tree.entry? sharing.location (markerName id)) :
    Step world (world.disturb sharing tree)

variable {sharing}

namespace Exclusive

/-- A step of a session takes no marker away from another one. -/
theorem present_marker_act (h : Exclusive sharing world) {session other : ι} (ne : session ≠ other)
    (candidate : Nat) {id : Nat} (marked : (world.stage other).marked? = some id) :
    Present sharing.directory sharing.location (markerName id)
      (world.act sharing session candidate).tree :=
  Stage.present_marker_advance _ _ h.shared (sharing.directory_eq session) candidate
    (h.present other id marked) fun marked' => ne (h.unique session other id marked' marked)

/-- A step of a session takes away no segment of another session's consumer. -/
theorem present_segment_act (h : Exclusive sharing world) {session maker : ι}
    (ne : session ≠ maker) (candidate : Nat) {id : Nat} (made : world.maker id = some maker) :
    Present sharing.directory sharing.location (segmentName id)
      (world.act sharing session candidate).tree :=
  Stage.present_segment_advance _ _ h.shared (sharing.directory_eq session) candidate
    (h.made id maker made) fun slot => ne (h.own id maker session made slot)

/-- A marker that a session has after its step is there, and was no other session's before. -/
theorem present_marker_self (h : Exclusive sharing world) (session : ι) (candidate : Nat) {id : Nat}
    (marked : ((world.act sharing session candidate).stage session).marked? = some id) :
    Present sharing.directory sharing.location (markerName id)
        (world.act sharing session candidate).tree ∧
      ∀ other, (world.stage other).marked? = some id → other = session := by
  have same := sharing.directory_eq session
  simp only [World.act, Function.update_self] at marked ⊢
  rcases Stage.marked?_advance _ _ h.shared same marked with
    ⟨before, untouched⟩ | ⟨absent, present⟩
  · exact ⟨(h.present session id before).of_entry?_eq
      (Stage.entry?_advance _ _ h.shared same candidate untouched),
      fun other marked' => h.unique other session id marked' before⟩
  · refine ⟨present, fun other marked' => ?_⟩
    obtain ⟨mode, content, there⟩ := (h.present other id marked').isFile
    rw [absent] at there
    cases there

theorem act (h : Exclusive sharing world) (session : ι) (candidate : Nat) :
    Exclusive sharing (world.act sharing session candidate) := by
  have same := sharing.directory_eq session
  have others : ∀ other, other ≠ session →
      (world.act sharing session candidate).stage other = world.stage other :=
    fun other ne => Function.update_of_ne ne _ _
  refine ⟨h.shared.edits (Stage.edits_advance _ _ h.shared same candidate _),
    fun other id marked => ?_, fun first second id marked marked' => ?_,
    fun id maker made => (h.present_of_survivors made).2, fun id maker other made slot => ?_⟩
  · by_cases self : other = session
    · subst self
      exact (h.present_marker_self other candidate marked).1
    · rw [others other self] at marked
      exact h.present_marker_act (Ne.symm self) candidate marked
  · by_cases self : first = session
    · subst self
      by_cases self' : second = first
      · exact self'.symm
      · rw [others second self'] at marked'
        exact ((h.present_marker_self first candidate marked).2 second marked').symm
    · rw [others first self] at marked
      by_cases self' : second = session
      · subst self'
        exact (h.present_marker_self second candidate marked').2 first marked
      · rw [others second self'] at marked'
        exact h.unique first second id marked marked'
  · obtain ⟨before, -⟩ := h.present_of_survivors made
    by_cases self : other = session
    · subst self
      simp only [World.act, Function.update_self] at slot
      rcases Stage.slot?_advance _ _ slot with slot' | unseen
      · exact h.own id maker other before slot'
      · -- It saw no segment, but the consumer's is there.
        have seen := (h.made id maker before).hasFile h.shared (isName_segmentName id)
        rw [segment, same, FileTree.hasNode_of_hasFile seen] at unseen
        cases unseen
    · rw [others other self] at slot
      exact h.own id maker other before slot

theorem turn (h : Exclusive sharing world) (session : ι) {stage : Stage}
    (marked : stage.marked? = (world.stage session).marked?)
    (slot : stage.slot? = (world.stage session).slot?) :
    Exclusive sharing (world.turn session stage) := by
  have sameMarked : ∀ other, ((world.turn session stage).stage other).marked? =
      (world.stage other).marked? := by
    intro other
    by_cases self : other = session
    · subst self
      simpa [World.turn] using marked
    · simp [World.turn, self]
  have sameSlot : ∀ other, ((world.turn session stage).stage other).slot? =
      (world.stage other).slot? := by
    intro other
    by_cases self : other = session
    · subst self
      simpa [World.turn] using slot
    · simp [World.turn, self]
  exact ⟨h.shared, fun other id => by rw [sameMarked]; exact h.present other id,
    fun first second id => by rw [sameMarked, sameMarked]; exact h.unique first second id,
    h.made, fun id maker other => by rw [sameSlot]; exact h.own id maker other⟩

omit [DecidableEq ι] in
theorem publish (h : Exclusive sharing world) {session : ι} {id : Nat} {content : ByteArray}
    {tree : FileTree} (slot : (world.stage session).slot? = some id)
    (made : world.tree.createFile ((sharing.channels session).segment id) content = .ok tree) :
    Exclusive sharing (world.publish session id tree) := by
  have others : ∀ other, other ≠ id →
      (world.publish session id tree).maker other = world.maker other :=
    fun other ne => Function.update_of_ne ne _ _
  rw [segment, sharing.directory_eq] at made
  obtain ⟨-, present, rfl⟩ := createFile_eq_ok h.shared (isName_segmentName id) made
  refine ⟨h.shared.edits (edits_setEntry (isName_segmentName id) _ _ _),
    fun other id' marked => ?_, h.unique, fun id' maker made' => ?_,
    fun id' maker other made' slot' => ?_⟩
  · exact (h.present other id' marked).of_entry?_eq
      (FileTree.entry?_setEntry_of_ne _ (segmentName_ne_markerName id id').symm)
  · by_cases same : id' = id
    · subst same
      exact present
    · rw [others id' same] at made'
      exact (h.made id' maker made').of_entry?_eq
        (FileTree.entry?_setEntry_of_ne _ (segmentName_injective.ne same))
  · by_cases same : id' = id
    · subst same
      obtain rfl : session = maker := by simpa [World.publish] using made'
      exact h.unique other session id' (Stage.marked?_of_slot? slot') (Stage.marked?_of_slot? slot)
    · rw [others id' same] at made'
      exact h.own id' maker other made' slot'

omit [DecidableEq ι] in
theorem disturb (h : Exclusive sharing world) {tree : FileTree}
    (shared : Namespace sharing.directory sharing.location tree)
    (markers : ∀ id, tree.entry? sharing.location (markerName id) =
      world.tree.entry? sharing.location (markerName id)) :
    Exclusive sharing (world.disturb sharing tree) where
  shared := shared
  present session id marked := (h.present session id marked).of_entry?_eq (markers id)
  unique := h.unique
  made _ _ made := (h.present_of_survivors made).2
  own id maker session made := h.own id maker session (h.present_of_survivors made).1

theorem step (h : Exclusive sharing world) {next : World ι} (s : Step sharing world next) :
    Exclusive sharing next := by
  cases s with
  | act session candidate => exact h.act session candidate
  | acquire session attempts idle => exact h.turn session (by rw [idle]; rfl) (by rw [idle]; rfl)
  | giveUp session id forced holding =>
    exact h.turn session (by rw [holding]; rfl) (by rw [holding]; rfl)
  | publish session id content tree slot made => exact h.publish slot made
  | disturb tree shared markers => exact h.disturb shared markers

theorem of_reachable {first : World ι} (fresh : first.Fresh sharing)
    (h : Relation.ReflTransGen (Step sharing) first world) : Exclusive sharing world := by
  induction h with
  | refl => exact fresh.exclusive
  | tail _ s ih => exact ih.step s

end Exclusive

/-- Whatever sessions that share a directory do, in any order, with consumers and others between
them: no two have the marker of one id, be it for a slot or for a reservation that is pending; the
marker of each is there, and goes on to be there whatever step another session makes next; and a
segment that the consumer of a session made is there, and goes on to be there whatever step another
session makes next. -/
theorem exclusive_of_reachable {first : World ι} (fresh : first.Fresh sharing)
    (h : Relation.ReflTransGen (Step sharing) first world) :
    (∀ a b id, (world.stage a).marked? = some id → (world.stage b).marked? = some id → a = b) ∧
    (∀ a id, (world.stage a).marked? = some id →
      world.tree.hasFile ((sharing.channels a).marker id) = true ∧
      ∀ b candidate, b ≠ a →
        (world.act sharing b candidate).tree.hasFile ((sharing.channels a).marker id) = true) ∧
    (∀ a id, world.maker id = some a →
      world.tree.hasFile ((sharing.channels a).segment id) = true ∧
      ∀ b candidate, b ≠ a →
        (world.act sharing b candidate).tree.hasFile ((sharing.channels a).segment id) = true) := by
  have exclusive := Exclusive.of_reachable fresh h
  refine ⟨exclusive.unique, fun a id marked => ⟨?_, fun b candidate ne => ?_⟩,
    fun a id made => ⟨?_, fun b candidate ne => ?_⟩⟩
  · rw [marker, sharing.directory_eq]
    exact (exclusive.present a id marked).hasFile exclusive.shared (isName_markerName id)
  · rw [marker, sharing.directory_eq]
    exact (exclusive.present_marker_act ne candidate marked).hasFile
      (exclusive.act b candidate).shared (isName_markerName id)
  · rw [segment, sharing.directory_eq]
    exact (exclusive.made id a made).hasFile exclusive.shared (isName_segmentName id)
  · rw [segment, sharing.directory_eq]
    exact (exclusive.present_segment_act ne candidate made).hasFile
      (exclusive.act b candidate).shared (isName_segmentName id)

def twoSessions : Sharing Bool where
  directory := "shm"
  location := ["shm"]
  channels _ := ⟨"shm", 0, 9, 4⟩
  owner session := if session then 7 else 8
  directory_eq _ := rfl

def beforeAll : World Bool :=
  ⟨⟨.directory 0o755 [("shm", .empty)], []⟩, fun _ => .idle, fun _ => none⟩

theorem fresh_beforeAll : beforeAll.Fresh twoSessions where
  shared := by
    have route : Path.route "shm" = ["shm"] := by decide +kernel
    have start : beforeAll.tree.start "shm" = [] := by decide +kernel
    have straight : FileTree.Straight beforeAll.tree.root (beforeAll.tree.start "shm")
        (Path.route "shm") := by
      rw [start, route]
      exact ⟨⟨_, rfl⟩, by decide, by decide, by rfl, ⟨_, rfl⟩⟩
    have shared := namespace_of_straight straight
    rwa [start, route] at shared
  idle _ := rfl
  unmade _ := rfl

/-- While one session holds an id, the other one draws it and gets to nothing. -/
theorem exclusive_of_two_sessions :
    ∃ world : World Bool, Relation.ReflTransGen (Step twoSessions) beforeAll world ∧
      world.stage true = .holding 3 ∧ world.stage false = .marking 3 0 ∧
      world.tree.hasFile "shm/slamp_queue_3.lock" = true ∧
      ∀ candidate, (world.act twoSessions false candidate).tree.hasFile
        "shm/slamp_queue_3.lock" = true := by
  have drawn : Relation.ReflTransGen (Step twoSessions) beforeAll
      ((beforeAll.turn true (.drawing 1)).turn false (.drawing 1)) :=
    (Relation.ReflTransGen.single (Step.acquire true 1 rfl)).tail (Step.acquire false 1 rfl)
  have looked := (drawn.tail (Step.act true 3)).tail (Step.act false 3)
  have held := (looked.tail (Step.act true 3)).tail (Step.act true 3)
  obtain ⟨-, markers, -⟩ := exclusive_of_reachable fresh_beforeAll held
  refine ⟨_, held, by rfl, by rfl, ?_⟩
  obtain ⟨there, kept⟩ := markers true 3 (by rfl)
  exact ⟨there, fun candidate => kept false candidate (by decide)⟩

end ProfilingSession.Channels
