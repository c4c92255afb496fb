import AccessWeave.Proofs.Host.Locating

/-!
# What becomes of a tree

A command makes directories where nothing is and fills files with bytes. It makes no link and takes
none away, so every path leads where it led before, and what led over directories still does. Only a
path that asks for a place where nothing was can come to something else.
-/

namespace AccessWeave

namespace Tree

/-- A directory has been made where nothing was. -/
structure Made (tree later : Tree) (location : Location) : Prop where
  free : tree.entryAt? location = none
  allowed : tree.makeable location = .ok location
  made : later.entryAt? location = some .directory

/-- Bytes have been put where bytes or nothing was. -/
structure Filled (tree later : Tree) (location : Location) : Prop where
  before : ∀ entry, tree.entryAt? location = some entry → entry.bytes?.isSome = true
  after : ∃ entry, later.entryAt? location = some entry ∧ entry.bytes?.isSome = true

/-- Directories have been made and files filled. -/
structure Grown (tree later : Tree) : Prop where
  current : later.current = tree.current
  turned : ∀ location, later.entryAt? location = tree.entryAt? location
    ∨ Made tree later location ∨ Filled tree later location

theorem Filled.no_directory {tree later : Tree} {location : Location}
    (filled : Filled tree later location) : later.entryAt? location ≠ some .directory := by
  obtain ⟨entry, found, bytes⟩ := filled.after
  rw [found]
  rintro ⟨rfl⟩
  cases bytes

theorem makeable_of_free {tree later : Tree} {location : Location}
    (allowed : later.makeable location = .ok location)
    (freeLater : later.entryAt? location = none) (free : tree.entryAt? location = none) :
    tree.makeable location = .ok location := by
  rw [makeable, freeLater] at allowed
  rw [makeable, free]
  exact allowed

namespace Grown

variable {tree later : Tree}

theorem directory (grown : Grown tree later) {location : Location}
    (standing : tree.entryAt? location = some .directory) :
    later.entryAt? location = some .directory := by
  rcases grown.turned location with same | made | filled
  · rw [same, standing]
  · exact made.made
  · exact absurd (filled.before _ standing) (by simp [Entry.bytes?])

theorem link_at (grown : Grown tree later) : later.linkAt? = tree.linkAt? := by
  funext location
  have no_link : ∀ {entry : Entry}, entry.bytes?.isSome = true →
      ∀ target, entry ≠ .link target := by
    rintro entry bytes target rfl
    cases bytes
  rcases grown.turned location with same | made | filled
  · exact link_at_of_entry same
  · rw [no_link_of_directory made.made, no_link_at fun target => by rw [made.free]; simp]
  · obtain ⟨entry, found, bytes⟩ := filled.after
    have before : tree.linkAt? location = none :=
      no_link_at fun target link => no_link (filled.before _ link) target rfl
    have after : later.linkAt? location = none :=
      no_link_at fun target link => by
        rw [found] at link
        exact no_link bytes target (Option.some.inj link)
    rw [before, after]

theorem route (grown : Grown tree later) : later.route = tree.route := route_congr grown.link_at

theorem origin (grown : Grown tree later) (path : Path) :
    later.origin path = tree.origin path := by
  rw [Tree.origin, Tree.origin, grown.current]

theorem ending (grown : Grown tree later) (start : Location) (moves : List String) :
    later.ending? start moves = tree.ending? start moves := by
  rw [ending?, ending?, grown.route]

theorem destination (grown : Grown tree later) (path : Path) :
    later.destination? path = tree.destination? path := by
  rw [destination?, destination?, grown.ending, grown.origin]

theorem standing (grown : Grown tree later) (start : Location) (moves : List String) :
    later.standing start moves = tree.standing start moves := by
  rw [Tree.standing, Tree.standing, grown.route]

theorem rooted (grown : Grown tree later) {location : Location} (rooted : tree.Rooted location) :
    later.Rooted location where
  around outer prefixed inner := grown.directory (rooted.around outer prefixed inner)
  no_link := by rw [grown.link_at, rooted.no_link]

theorem grounded (grown : Grown tree later) (grounded : tree.Grounded) : later.Grounded where
  standing := by
    rw [grown.current]
    exact grown.directory grounded.standing
  rooted := by
    rw [grown.current]
    exact grown.rooted grounded.rooted

theorem arrives (grown : Grown tree later) {start place : Location} {moves : List String}
    (arrives : tree.Arrives start moves place) : later.Arrives start moves place where
  directories other member := by
    rw [grown.standing] at member
    exact grown.directory (arrives.directories other member)
  ends := by rw [grown.ending, arrives.ends]

/-- What is no directory stays so, unless it was nothing. -/
theorem directory_iff (grown : Grown tree later) {location : Location}
    (free : tree.entryAt? location = none → later.entryAt? location = none) :
    later.entryAt? location = some .directory ↔ tree.entryAt? location = some .directory := by
  refine ⟨fun there => ?_, grown.directory⟩
  rcases grown.turned location with same | made | filled
  · rw [← same, there]
  · rw [free made.free] at there
    cases there
  · exact absurd there filled.no_directory

theorem free_of_free (grown : Grown tree later) {location : Location}
    (free : later.entryAt? location = none) : tree.entryAt? location = none := by
  rcases grown.turned location with same | made | filled
  · rw [← same, free]
  · exact made.free
  · obtain ⟨entry, found, -⟩ := filled.after
    rw [free] at found
    cases found

/-- Steps come to the same when nothing has been put where they ask for something. -/
theorem follow (grown : Grown tree later) {filling : Bool} {links : Nat} {start : Location}
    {steps : List String}
    (free : ∀ place ∈ (tree.route filling links start steps).asked,
      tree.entryAt? place = none → later.entryAt? place = none) :
    later.follow filling links start steps = tree.follow filling links start steps := by
  rw [follow_eq, follow_eq, grown.route, Route.result, Route.result,
    obstacle_congr (fun place asked => grown.directory_iff (free place asked))
      fun place asked => ⟨grown.free_of_free, free place asked⟩]

theorem locate_steps (grown : Grown tree later) (filling : Bool) {path : Path}
    (free : ∀ place ∈ tree.standing (tree.origin path) path.moves,
      tree.entryAt? place = none → later.entryAt? place = none) :
    later.locateSteps filling path path.steps = tree.locateSteps filling path path.steps := by
  rw [locateSteps, locateSteps, grown.origin]
  split_ifs
  · rfl
  · rfl
  · exact grown.follow fun place asked => free place (steps_asked asked)

/-- A path that led somewhere leads there for good. -/
theorem located (grown : Grown tree later) {filling : Bool} {path : Path} {place : Location}
    (found : tree.locateSteps filling path path.steps = .ok place) :
    later.locateSteps filling path path.steps = .ok place := by
  rw [locateSteps] at found ⊢
  rw [grown.origin]
  split_ifs at found ⊢
  rw [follow_eq, Route.result_ok_iff] at found ⊢
  rw [grown.route]
  exact ⟨fun place asked => grown.directory (found.1 place asked), found.2⟩

end Grown

/-- What has been done to two trees is alike: each location has come to hold the same, or has
been left alone in both. -/
structure Alike (tree later done doneLater : Tree) : Prop where
  current : done.current = tree.current
  currentLater : doneLater.current = later.current
  entries : ∀ location, doneLater.entryAt? location = done.entryAt? location
    ∨ done.entryAt? location = tree.entryAt? location
      ∧ doneLater.entryAt? location = later.entryAt? location

namespace Alike

variable {tree later between betweenLater done doneLater : Tree}

theorem refl (tree later : Tree) : Alike tree later tree later :=
  ⟨rfl, rfl, fun _ => .inr ⟨rfl, rfl⟩⟩

theorem trans (first : Alike tree later between betweenLater)
    (second : Alike between betweenLater done doneLater) :
    Alike tree later done doneLater where
  current := second.current.trans first.current
  currentLater := second.currentLater.trans first.currentLater
  entries location := by
    rcases second.entries location with same | ⟨left, leftLater⟩
    · exact .inl same
    · rw [left, leftLater]
      exact first.entries location

theorem grown (alike : Alike tree later done doneLater) (grown : Grown tree later) :
    Grown done doneLater where
  current := by rw [alike.currentLater, grown.current, alike.current]
  turned location := by
    rcases alike.entries location with same | ⟨left, leftLater⟩
    · exact .inl same
    · rw [left, leftLater]
      rcases grown.turned location with same | made | filled
      · exact .inl same
      · exact .inr (.inl ⟨left.trans made.free,
          makeable_of_free made.allowed made.free (left.trans made.free),
          leftLater.trans made.made⟩)
      · refine .inr (.inr ⟨?_, ?_⟩)
        · rw [left]
          exact filled.before
        · rw [leftLater]
          exact filled.after

/-- What stays as it is when it is left alone stays so when the same is done in both. -/
theorem same (alike : Alike tree later done doneLater) {location : Location}
    (before : later.entryAt? location = tree.entryAt? location) :
    doneLater.entryAt? location = done.entryAt? location := by
  rcases alike.entries location with same | ⟨left, leftLater⟩
  · exact same
  · rw [left, leftLater, before]

theorem free (alike : Alike tree later done doneLater) (grown : Grown tree done)
    {location : Location}
    (before : tree.entryAt? location = none → later.entryAt? location = none)
    (free : done.entryAt? location = none) : doneLater.entryAt? location = none := by
  rcases alike.entries location with same | ⟨left, leftLater⟩
  · rw [same, free]
  · rw [leftLater]
    exact before (grown.free_of_free free)

end Alike

end Tree

end AccessWeave
