import AccessWeave.Proofs.Host.Growth

/-!
# Filling files

Writing to a path puts bytes at the place that its moves lead to, and nowhere else. What happens
there depends on the entry at that place alone, so it happens alike in two trees that differ only
elsewhere.
-/

namespace AccessWeave

/-- What an entry becomes when bytes are written to it. -/
def Entry.taking (bytes : List UInt8) : Option Entry → Entry
  | some (.device kind) => .device kind
  | some (.output taken) => .output (taken ++ bytes)
  | _ => .file bytes

theorem Entry.taking_holds_bytes (bytes : List UInt8) (old : Option Entry) :
    (Entry.taking bytes old).bytes?.isSome = true := by
  unfold Entry.taking
  split <;> rfl

/-- Whether what is written is passed on or lost, and not kept as the bytes of a file. -/
def Entry.isChannel : Entry → Bool
  | device _ => true
  | output _ => true
  | _ => false

theorem Entry.taking_eq_file_iff {bytes content : List UInt8} {old : Option Entry} :
    Entry.taking bytes old = .file content ↔
      old.any Entry.isChannel = false ∧ bytes = content := by
  rcases old with _ | (_ | _ | _ | _ | _ | _) <;> simp [Entry.taking, Entry.isChannel]

theorem Entry.taking_eq_device_iff {bytes : List UInt8} {kind : Device} {old : Option Entry} :
    Entry.taking bytes old = .device kind ↔ old = some (.device kind) := by
  rcases old with _ | (_ | _ | _ | _ | _ | _) <;> simp [Entry.taking]

namespace Tree

/-- Bytes have been put at one location, and nothing else has changed. -/
structure FilledAt (tree filled : Tree) (location : Location) : Prop where
  current : filled.current = tree.current
  here : Filled tree filled location
  elsewhere : ∀ other, other ≠ location → filled.entryAt? other = tree.entryAt? other

theorem FilledAt.grown {tree filled : Tree} {location : Location}
    (change : FilledAt tree filled location) : Grown tree filled where
  current := change.current
  turned other := by
    by_cases here : other = location
    · rw [here]
      exact .inr (.inr change.here)
    · exact .inl (change.elsewhere other here)

theorem store_eq (tree : Tree) (location : Location) (bytes : List UInt8) :
    (∃ device, tree.entryAt? location = some (.device device) ∧ tree.store location bytes = tree)
      ∨ tree.store location bytes
        = tree.put location (Entry.taking bytes (tree.entryAt? location)) := by
  rw [store]
  split
  · rename_i device entry
    exact .inl ⟨device, entry, rfl⟩
  · rename_i written entry
    rw [entry]
    exact .inr rfl
  · rename_i no_device no_output
    rw [Entry.taking]
    · exact .inr rfl
    · exact no_device
    · exact no_output

theorem entry_at_store (tree : Tree) (bytes : List UInt8) {location : Location}
    (inner : location ≠ []) (other : Location) :
    (tree.store location bytes).entryAt? other
      = if other = location then some (Entry.taking bytes (tree.entryAt? location))
        else tree.entryAt? other := by
  rcases tree.store_eq location bytes with ⟨device, entry, stored⟩ | stored
  · rw [stored, entry]
    split
    · rename_i here
      rw [here, entry]
      rfl
    · rfl
  · rw [stored]
    by_cases root : other = []
    · rw [root, if_neg (Ne.symm inner)]
      rfl
    · exact tree.entry_at_put location _ other root

theorem store_current (tree : Tree) (location : Location) (bytes : List UInt8) :
    (tree.store location bytes).current = tree.current := by
  rw [store]
  split <;> rfl

theorem filled_at_of_store {tree : Tree} {location : Location} (bytes : List UInt8)
    (file : tree.entryAt? location ≠ some .directory)
    (no_link : tree.linkAt? location = none) :
    FilledAt tree (tree.store location bytes) location := by
  have entry := tree.entry_at_store bytes (inner_of_no_directory file)
  refine ⟨tree.store_current location bytes, ⟨?_, ?_⟩, ?_⟩
  · intro found isFound
    cases found with
    | directory => exact absurd isFound file
    | link target =>
        rw [link_at_iff.mpr isFound] at no_link
        cases no_link
    | file | program | device | output => rfl
  · exact ⟨_, by rw [entry location, if_pos rfl], Entry.taking_holds_bytes bytes _⟩
  · intro other different
    rw [entry other, if_neg different]

/-! ### Where a file is written -/

theorem locate_file_ok_iff {tree : Tree} {path : Path} {location : Location} :
    tree.locateFile path = .ok location ↔
      tree.locateSteps true path path.steps = .ok location
        ∧ tree.entryAt? location ≠ some .directory
        ∧ tree.entryAt? location ≠ some (.device .terminal)
        ∧ tree.makeable location = .ok location := by
  rw [locateFile]
  cases tree.locateSteps true path path.steps with
  | error fault => simp
  | ok place =>
      simp only [Except.ok.injEq]
      constructor
      · intro found
        split at found
        · exact absurd found (by simp)
        · exact absurd found (by simp)
        · rename_i no_directory no_screen
          obtain allowed | ⟨fault, refused⟩ := tree.makeable_cases place
          · obtain rfl := Except.ok.inj (allowed.symm.trans found)
            exact ⟨rfl, no_directory, no_screen, allowed⟩
          · rw [refused] at found
            exact absurd found (by simp)
      · rintro ⟨rfl, no_directory, no_screen, allowed⟩
        split
        · exact absurd ‹_› no_directory
        · exact absurd ‹_› no_screen
        · exact allowed

theorem write_ok {tree written : Tree} {path : Path} {bytes : List UInt8}
    (wrote : tree.write path bytes = .ok written) :
    ∃ place, tree.locateFile path = .ok place ∧ tree.destination? path = some place
      ∧ tree.entryAt? place ≠ some .directory ∧ written = tree.store place bytes := by
  rw [write] at wrote
  cases found : tree.locateFile path with
  | error fault => simp [found] at wrote
  | ok place =>
      obtain ⟨followed, file, -⟩ := locate_file_ok_iff.mp found
      simp only [found] at wrote
      split at wrote
      · exact absurd wrote (by simp)
      · exact ⟨place, rfl, (located followed).1, file, (Except.ok.inj wrote).symm⟩

/-- What has been written fills the place that the path leads to. -/
theorem write_filled {tree written : Tree} {path : Path} {bytes : List UInt8}
    (base : tree.Rooted (tree.origin path)) (wrote : tree.write path bytes = .ok written) :
    ∃ place, tree.destination? path = some place ∧ tree.entryAt? place ≠ some .directory
      ∧ FilledAt tree written place
      ∧ written.entryAt? place = some (Entry.taking bytes (tree.entryAt? place)) := by
  obtain ⟨place, found, led, file, rfl⟩ := write_ok wrote
  have rooted := located_rooted base (locate_file_ok_iff.mp found).1
  refine ⟨place, led, file, filled_at_of_store bytes file rooted.no_link, ?_⟩
  rw [tree.entry_at_store bytes (inner_of_no_directory file), if_pos rfl]

/-! ### Writing and copying in two trees -/

theorem store_alike {tree later : Tree} {location : Location} (bytes : List UInt8)
    (inner : location ≠ []) (same : later.entryAt? location = tree.entryAt? location) :
    Alike tree later (tree.store location bytes) (later.store location bytes) where
  current := tree.store_current _ bytes
  currentLater := later.store_current _ bytes
  entries other := by
    rw [tree.entry_at_store bytes inner, later.entry_at_store bytes inner, same]
    by_cases here : other = location
    · rw [if_pos here, if_pos here]
      exact .inl rfl
    · rw [if_neg here, if_neg here]
      exact .inr ⟨rfl, rfl⟩

section

variable {tree later : Tree} {path : Path} (grown : Grown tree later)
  (free : ∀ place ∈ tree.standing (tree.origin path) path.moves,
    tree.entryAt? place = none → later.entryAt? place = none)
  (same : ∀ place, tree.destination? path = some place →
    later.entryAt? place = tree.entryAt? place)

include grown free same

theorem locate_file_alike : later.locateFile path = tree.locateFile path := by
  have followed := grown.locate_steps true free
  rw [locateFile, locateFile, followed]
  cases found : tree.locateSteps true path path.steps with
  | error fault => rfl
  | ok place =>
      have entry := same place (located found).1
      have allowed : later.makeable place = tree.makeable place := by
        rw [makeable, makeable, entry]
      simp only [entry, allowed]

/-- Writing to a path fails in both of two trees, or does the same in both. -/
theorem write_alike (bytes : List UInt8) :
    (∃ fault, tree.write path bytes = .error fault ∧ later.write path bytes = .error fault)
      ∨ ∃ written writtenLater, tree.write path bytes = .ok written
        ∧ later.write path bytes = .ok writtenLater ∧ Alike tree later written writtenLater := by
  have place := locate_file_alike grown free same
  rw [write, write, place]
  cases found : tree.locateFile path with
  | error fault => exact .inl ⟨fault, rfl, rfl⟩
  | ok location =>
      obtain ⟨followed, file, -⟩ := locate_file_ok_iff.mp found
      have entry := same location (located followed).1
      simp only [entry]
      split
      · exact .inl ⟨_, rfl, rfl⟩
      · exact .inr ⟨_, _, rfl, rfl, store_alike bytes (inner_of_no_directory file) entry⟩

end

/-! ### Copying -/

theorem put_put (tree : Tree) (location : Location) (first second : Entry) :
    (tree.put location first).put location second = tree.put location second := by
  simp [put]

theorem store_after_nothing (tree : Tree) {location : Location} (inner : location ≠ [])
    (bytes : List UInt8) :
    (tree.store location []).store location bytes = tree.store location bytes := by
  have there := tree.entry_at_store [] inner location
  rw [if_pos rfl] at there
  rw [store, there]
  rcases entry : tree.entryAt? location with _ | (_ | _ | _ | _ | _ | _) <;>
    simp [store, entry, Entry.taking, put_put]

section

variable {tree emptied : Tree} {path : Path}

theorem write_of_refused {fault : SystemFault} (refused : tree.write path [] = .error fault)
    (bytes : List UInt8) : tree.write path bytes = .error fault := by
  rw [write] at refused ⊢
  cases found : tree.locateFile path with
  | error other =>
      rw [found] at refused
      exact refused
  | ok location => simp [found] at refused

/-- What is written to a path comes to the same when the file is emptied first. -/
theorem write_after_emptying (base : tree.Rooted (tree.origin path))
    (emptying : tree.write path [] = .ok emptied) (bytes : List UInt8) :
    emptied.write path bytes = tree.write path bytes := by
  obtain ⟨place, found, -, file, isEmptied⟩ := write_ok emptying
  obtain ⟨followed, -, no_screen, -⟩ := locate_file_ok_iff.mp found
  have inner : place ≠ [] := inner_of_no_directory file
  have change := filled_at_of_store [] file (located_rooted base followed).no_link
  have entry := tree.entry_at_store [] inner place
  rw [← isEmptied] at change entry
  rw [if_pos rfl] at entry
  have again : emptied.locateFile path = .ok place := by
    refine locate_file_ok_iff.mpr ⟨change.grown.located followed, ?_, ?_, ?_⟩
    · intro directory
      have holds := Entry.taking_holds_bytes [] (tree.entryAt? place)
      rw [← Option.some.inj (directory.symm.trans entry)] at holds
      exact absurd holds (by simp [Entry.bytes?])
    · rw [entry, ne_eq, Option.some.injEq, Entry.taking_eq_device_iff]
      exact no_screen
    · rw [makeable, entry]
  have full : emptied.entryAt? place = some (.device .full)
      ↔ tree.entryAt? place = some (.device .full) := by
    rw [entry, Option.some.injEq, Entry.taking_eq_device_iff]
  simp only [write, found, again, full]
  rw [isEmptied, tree.store_after_nothing inner]

end

/-- A file that is copied is read once its target is empty. -/
theorem copy_eq {tree : Tree} {source target : Path} {place : Location} {bytes : List UInt8}
    (base : tree.Rooted (tree.origin target)) (found : tree.locate source = .ok place)
    (entry : tree.entryAt? place = some (.file bytes)) :
    tree.copy source target
      = tree.write target (if tree.destination? target = some place then [] else bytes) := by
  have readable : tree.read source = .ok bytes := by
    simp only [read, lookup, found, entry, Entry.bytes?]
  rw [copy, readable]
  dsimp only
  cases emptying : tree.write target [] with
  | error fault => exact (write_of_refused emptying _).symm
  | ok emptied =>
      obtain ⟨filled, led, -, change, here⟩ := write_filled base emptying
      have still : emptied.locate source = .ok place := change.grown.located found
      have left : emptied.read source
          = .ok (if tree.destination? target = some place then [] else bytes) := by
        by_cases same : filled = place
        · rw [same, entry] at here
          rw [if_pos (by rw [led, same])]
          simp only [read, lookup, still, here, Entry.taking, Entry.bytes?]
        · have there := change.elsewhere place (Ne.symm same)
          rw [entry] at there
          rw [if_neg (by simpa [led] using same)]
          simp only [read, lookup, still, there, Entry.bytes?]
      simp only [left]
      exact write_after_emptying base emptying _

end Tree

end AccessWeave
