import TreeBundle.Proofs.FileSystem.Follow
import TreeBundle.Proofs.FileSystem.Trail

/-!
# Finding what lies below a directory

What the tree holds at a trail is what the path of the trail leads to, wherever the path of the
directory itself has to be followed first. The other way round a path may lead through links, so
only where none is on the way does it say that the tree holds something there.
-/
namespace TreeBundle
set_option autoImplicit false

namespace FileSystem

variable {files : FileSystem}

/-! ## Following names -/

/-- A directory that is no link is entered and nothing is used up. -/
theorem advance_name {purpose : Purpose} {place : Place} {entries : NodeEntries} {name : Bytes}
    {child : Node} {steps : List Step} (no_slash : purpose = .creation → steps ≠ [.slash])
    (here : files.at? place = some (.directory entries))
    (looked_up : entries.lookup name = some child) (no_link : ∀ target, child ≠ .link target) :
    files.advance purpose place (.name name :: steps) =
      files.advance purpose (place ++ [name]) steps := by
  have passes : ¬(purpose = .creation ∧ steps = [.slash]) :=
    fun stops => no_slash stops.1 stops.2
  rw [advance, here]
  simp only [if_neg passes, looked_up]

theorem follow_name {purpose : Purpose} {links : Nat} {place : Place} {entries : NodeEntries}
    {name : Bytes} {child : Node} {steps : List Step} (not_creation : purpose ≠ .creation)
    (here : files.at? place = some (.directory entries))
    (looked_up : entries.lookup name = some child) (no_link : ∀ target, child ≠ .link target) :
    files.follow purpose links place (.name name :: steps) =
      files.follow purpose links (place ++ [name]) steps := by
  rw [follow, advance_name (absurd · not_creation) here looked_up no_link, ← follow]

theorem no_link_of_at? {node found : Node} {names : Place} (below : node.at? names = some found)
    (no_link : ∀ target, found ≠ .link target) : ∀ target, node ≠ .link target := by
  intro target same
  cases names with
  | nil => exact no_link target (Option.some.inj below ▸ same)
  | cons name rest =>
    obtain ⟨entries, -, is_directory, -⟩ := Node.directory_of_at?_cons below
    exact absurd (same.symm.trans is_directory) (by simp)

/-- What the tree holds at some names is come to by following them. -/
theorem follow_names {purpose : Purpose} {links : Nat} {place names : Place} {node found : Node}
    {steps : List Step} (not_creation : purpose ≠ .creation) (here : files.at? place = some node)
    (below : node.at? names = some found) (no_link : ∀ target, found ≠ .link target) :
    files.follow purpose links place (names.map .name ++ steps) =
      files.follow purpose links (place ++ names) steps := by
  induction names generalizing place node with
  | nil => rw [List.map_nil, List.nil_append, List.append_nil]
  | cons name names ih =>
    obtain ⟨entries, child, rfl, looked_up, at_rest⟩ := Node.directory_of_at?_cons below
    have at_child := (at?_child name here).trans looked_up
    rw [List.map_cons, List.cons_append,
      follow_name not_creation here looked_up (no_link_of_at? at_rest no_link),
      ih at_child at_rest, List.append_assoc, List.singleton_append]

/-- The last name is found where it is no link, or where the link itself is asked for. -/
theorem follow_last {purpose : Purpose} {links : Nat} {place : Place} {entries : NodeEntries}
    {name : Bytes} {child : Node} (not_creation : purpose ≠ .creation)
    (here : files.at? place = some (.directory entries))
    (looked_up : entries.lookup name = some child)
    (asked_for : purpose = .itself ∨ ∀ target, child ≠ .link target) :
    files.follow purpose links place [.name name] = .ok (.found (place ++ [name]) child) := by
  have at_child := (at?_child name here).trans looked_up
  have ended : files.advance purpose place [.name name] =
      .ended (.ok (.found (place ++ [name]) child)) := by
    by_cases no_link : ∀ target, child ≠ .link target
    · rw [advance_name (absurd · not_creation) here looked_up no_link, advance, at_child]
    · obtain ⟨target, rfl⟩ : ∃ target, child = .link target := by simpa using no_link
      obtain rfl := asked_for.resolve_right no_link
      rw [advance, here]
      simp [looked_up]
  rw [follow, ended]

/-- Following steps ends where the tree has the node that was found. -/
theorem at?_of_advance {purpose : Purpose} {place found : Place} {node : Node}
    {steps : List Step} (not_creation : purpose ≠ .creation)
    (ended : files.advance purpose place steps = .ended (.ok (.found found node))) :
    files.at? found = some node := by
  induction steps generalizing place with
  | nil =>
    rw [advance] at ended
    split at ended
    · next here =>
      cases ended
      exact here
    · cases ended
  | cons step steps ih =>
    cases files.step_cases place step with
    | moves next _ on => exact ih ((on purpose steps not_creation).symm.trans ended)
    | link name target _ here stops =>
      rw [stops purpose steps not_creation] at ended
      split at ended
      · cases ended
        exact here
      · cases ended
    | fails nothing =>
      obtain ⟨result, not_found, fails⟩ := nothing steps
      rw [fails purpose not_creation] at ended
      exact absurd (Stop.ended.inj ended) (not_found found node)

theorem at?_of_follow {purpose : Purpose} {links : Nat} {place found : Place} {node : Node}
    {steps : List Step} (not_creation : purpose ≠ .creation)
    (followed : files.follow purpose links place steps = .ok (.found found node)) :
    files.at? found = some node := by
  rw [← follows_iff] at followed
  induction followed with
  | ended stops => exact at?_of_advance not_creation stops
  | linked _ _ ih => exact ih

/-! ## Paths below a directory -/

/-- Where a path leads: what is below it is followed on from a place, with some links left. -/
structure LeadsTo (files : FileSystem) (path : NativePath) (place : Place) (links : Nat) :
    Prop where
  nonempty : path.bytes ≠ []
  zero_free : 0 ∉ path.bytes
  followed : ∀ purpose steps, purpose ≠ .creation → steps ≠ [] →
    files.follow purpose linkLimit (if path.isAbsolute then [] else files.working)
      (bodySteps path ++ steps) = files.follow purpose links place steps

/-- What a path resolves to is found by following its steps. -/
theorem follow_of_resolve {purpose : Purpose} {path : NativePath} {resolved : Resolved}
    (success : files.resolve purpose path = .ok resolved) :
    path.bytes.contains 0 = false ∧ path.bytes ≠ [] ∧
      files.follow purpose linkLimit (if path.isAbsolute then [] else files.working)
        (stepsOf path) = .ok resolved := by
  unfold resolve at success
  split at success
  · cases success
  next zero_free =>
  split at success
  · cases success
  next nonempty => exact ⟨by simpa using zero_free, nonempty, success⟩

theorem resolve_of_follow {purpose : Purpose} {path : NativePath}
    (zero_free : path.bytes.contains 0 = false) (nonempty : path.bytes ≠ []) :
    files.resolve purpose path =
      files.follow purpose linkLimit (if path.isAbsolute then [] else files.working)
        (stepsOf path) := by
  rw [resolve, if_neg (by simp only [zero_free, Bool.false_eq_true, not_false_eq_true]),
    if_neg nonempty]

theorem resolve_of_locate {purpose : Purpose} {path : NativePath} {place : Place} {node : Node}
    (located : files.locate purpose path = .ok (place, node)) :
    files.resolve purpose path = .ok (.found place node) := by
  rw [locate] at located
  split at located
  · next resolved =>
    cases located
    exact resolved
  · cases located
  · cases located

/-- A path leads to what the tree has at the place it leads to. -/
theorem at?_of_locate {purpose : Purpose} {path : NativePath} {place : Place} {node : Node}
    (not_creation : purpose ≠ .creation)
    (located : files.locate purpose path = .ok (place, node)) : files.at? place = some node := by
  exact at?_of_follow not_creation (follow_of_resolve (resolve_of_locate located)).2.2

theorem exists_leadsTo {path : NativePath} {place : Place} {node : Node}
    (located : files.locate .target path = .ok (place, node)) :
    ∃ links, files.LeadsTo path place links := by
  obtain ⟨zero_free, nonempty, resolved⟩ := follow_of_resolve (resolve_of_locate located)
  have followed : files.follow .target linkLimit (if path.isAbsolute then [] else files.working)
      (bodySteps path) = .ok (.found place node) := by
    by_cases slash : path.bytes.getLast? = some NativePath.slash
    · rw [stepsOf, if_pos slash] at resolved
      exact follow_of_slash resolved
    · rwa [stepsOf, if_neg slash, List.append_nil] at resolved
  obtain ⟨links, on⟩ := exists_follow_append followed
  exact ⟨links, nonempty, by simpa using zero_free, on⟩

theorem mem_joinWith {separator c : UInt8} {items : List Bytes} :
    c ∈ Text.joinWith separator items → c = separator ∨ ∃ item ∈ items, c ∈ item := by
  cases items with
  | nil => exact fun member => absurd member List.not_mem_nil
  | cons first others =>
    rw [Text.joinWith_cons, List.mem_append, List.mem_flatMap]
    rintro (member | ⟨item, inside, member⟩)
    · exact Or.inr ⟨first, List.mem_cons_self, member⟩
    · rcases List.mem_cons.1 member with rfl | member
      · exact Or.inl rfl
      · exact Or.inr ⟨item, List.mem_cons_of_mem _ inside, member⟩

theorem mem_joinWith_of_mem {separator c : UInt8} {items : List Bytes} {item : Bytes}
    (inside : item ∈ items) (member : c ∈ item) : c ∈ Text.joinWith separator items := by
  cases items with
  | nil => cases inside
  | cons first others =>
    rw [Text.joinWith_cons, List.mem_append, List.mem_flatMap]
    rcases List.mem_cons.1 inside with rfl | inside
    · exact Or.inl member
    · exact Or.inr ⟨item, inside, List.mem_cons_of_mem _ member⟩

section Below

variable {path : NativePath} {place : Place} {links : Nat} {parts : List Bytes}
  {purpose : Purpose}

theorem zero_free_join (zero_free : 0 ∉ path.bytes)
    (proper : ∀ part ∈ parts, NativePath.IsPart part) (parts_free : ∀ part ∈ parts, 0 ∉ part) :
    0 ∉ (path.join (.ofParts parts)).bytes := by
  have relative := NativePath.isAbsolute_ofParts proper
  have not_slash : 0 ≠ NativePath.slash := by decide
  have joined_free : 0 ∉ Text.joinWith NativePath.slash parts := by
    intro member
    rcases mem_joinWith member with same | ⟨part, inside, member⟩
    · exact not_slash same
    · exact parts_free part inside member
  by_cases ready : path.IsReady
  · rw [NativePath.join_of_ready ready relative]
    simpa [NativePath.ofParts, zero_free] using joined_free
  · rw [NativePath.join_of_not_ready ready relative]
    simpa [NativePath.ofParts, zero_free, not_slash] using joined_free

theorem bytes_join_ne_nil (nonempty : path.bytes ≠ [])
    (proper : ∀ part ∈ parts, NativePath.IsPart part) :
    (path.join (.ofParts parts)).bytes ≠ [] := by
  have relative := NativePath.isAbsolute_ofParts proper
  by_cases ready : path.IsReady
  · simp [NativePath.join_of_ready ready relative, nonempty]
  · simp [NativePath.join_of_not_ready ready relative]

/-- A path below one that leads to a place is followed on from there. -/
theorem LeadsTo.resolve_join (leads : files.LeadsTo path place links)
    (not_creation : purpose ≠ .creation) (proper : ∀ part ∈ parts, NativePath.IsPart part)
    (zero_free : ∀ part ∈ parts, 0 ∉ part) :
    files.resolve purpose (path.join (.ofParts parts)) =
      files.follow purpose links place (stepsBelow parts) := by
  have no_zero := zero_free_join leads.zero_free proper zero_free
  rw [resolve, if_neg (by simpa using no_zero),
    if_neg (bytes_join_ne_nil leads.nonempty proper),
    NativePath.isAbsolute_join leads.nonempty (NativePath.isAbsolute_ofParts proper),
    stepsOf_join leads.nonempty proper, leads.followed purpose _ not_creation (stepsBelow_ne_nil _)]

/-- No path with a zero character leads anywhere. -/
theorem zero_free_of_located {node : Node} {part : Bytes} (member : part ∈ parts)
    (proper : ∀ part ∈ parts, NativePath.IsPart part)
    (located : files.locate purpose (path.join (.ofParts parts)) = .ok (place, node)) :
    0 ∉ part := by
  intro inside
  have resolved := resolve_of_locate located
  have joined : 0 ∈ (path.join (.ofParts parts)).bytes := by
    have relative := NativePath.isAbsolute_ofParts proper
    have within : 0 ∈ (NativePath.ofParts parts).bytes := mem_joinWith_of_mem member inside
    by_cases ready : path.IsReady
    · simp [NativePath.join_of_ready ready relative, within]
    · simp [NativePath.join_of_not_ready ready relative, within]
  rw [resolve, if_pos (by simpa using joined)] at resolved
  cases resolved

end Below

section Trails

variable {path : NativePath} {place : Place} {links : Nat} {top : Node} {trail : Trail}
  {purpose : Purpose}

theorem stepsBelow_parts (proper : ∀ name ∈ trail, IsFileName name) (nonempty : trail ≠ []) :
    stepsBelow trail.place = trail.place.map .name := by
  refine stepsBelow_of_no_up (by simpa [Trail.place] using nonempty) fun member => ?_
  obtain ⟨name, inside, same⟩ := List.mem_map.1 member
  exact (proper name inside).1.2.2.1 (Utf8.encode_inj same)

/-- The path of a directory that the tree holds leads to it. -/
theorem LeadsTo.locate_directory {node : Node} (leads : files.LeadsTo path place links)
    (not_creation : purpose ≠ .creation) (at_place : files.at? place = some top)
    (proper : ∀ name ∈ trail, IsFileName name) (held : top.at? trail.place = some node)
    (is_directory : node.isDirectory = true) :
    files.locate purpose (path.join (.ofParts trail.place)) = .ok (place ++ trail.place, node) := by
  have at_trail : files.at? (place ++ trail.place) = some node := by
    rw [at?_append, at_place]
    exact held
  have no_link : ∀ target, node ≠ .link target := by
    rintro target rfl
    cases is_directory
  have resolved : files.resolve purpose (path.join (.ofParts trail.place)) =
      .ok (.found (place ++ trail.place) node) := by
    rw [leads.resolve_join not_creation (Trail.isPart proper) (Trail.zero_free proper)]
    by_cases empty : trail = []
    · subst empty
      have stayed : place ++ Trail.place [] = place := List.append_nil place
      have here : files.at? place = some node := stayed ▸ at_trail
      rw [show stepsBelow (Trail.place []) = [.slash] from rfl, stayed, follow, advance, here]
      cases node with
      | directory entries => simp only [advance, here]
      | lockedDirectory entries => simp only [advance, here, if_true]
      | _ => cases is_directory
    · rw [stepsBelow_parts proper empty, ← List.append_nil (trail.place.map Step.name),
        follow_names not_creation at_place held no_link, follow, advance, at_trail]
  rw [locate, resolved]

/-- The path of an entry that the tree holds leads to it, unless it is a link to be followed. -/
theorem LeadsTo.locate_entry {entries : NodeEntries} {name : String} {child : Node}
    (leads : files.LeadsTo path place links) (not_creation : purpose ≠ .creation)
    (at_place : files.at? place = some top) (proper : ∀ name ∈ trail, IsFileName name)
    (name_proper : IsFileName name) (held : top.at? trail.place = some (.directory entries))
    (looked_up : entries.lookup (Utf8.ofString name) = some child)
    (asked_for : purpose = .itself ∨ ∀ target, child ≠ .link target) :
    files.locate purpose (path.join (.ofParts (trail ++ [name]).place)) =
      .ok (place ++ (trail ++ [name]).place, child) := by
  have at_trail : files.at? (place ++ trail.place) = some (.directory entries) := by
    rw [at?_append, at_place]
    exact held
  have both := Trail.isFileName_concat proper name_proper
  have resolved : files.resolve purpose (path.join (.ofParts (trail ++ [name]).place)) =
      .ok (.found (place ++ (trail ++ [name]).place) child) := by
    rw [leads.resolve_join not_creation (Trail.isPart both) (Trail.zero_free both),
      stepsBelow_parts both (by simp), Trail.place_append, List.map_append,
      follow_names not_creation at_place held (by simp), ← List.append_assoc]
    exact follow_last not_creation at_trail looked_up asked_for
  rw [locate, resolved]

/-- The path of an entry of a directory is followed on from there, whatever bytes its name has. -/
theorem LeadsTo.resolve_child {name : Bytes} (leads : files.LeadsTo path place links)
    (not_creation : purpose ≠ .creation) (entry_name : IsEntryName name) :
    files.resolve purpose (path.join ⟨name⟩) = files.follow purpose links place [.name name] := by
  have proper : ∀ other ∈ [name], NativePath.IsPart other := by
    simpa using isPart_of_entryName entry_name
  have zero_free : ∀ other ∈ [name], 0 ∉ other := by
    simpa using entry_name.2.2.2.2
  have no_up : NativePath.up ∉ [name] := by
    simpa using fun same : NativePath.up = name => entry_name.2.2.1 same.symm
  rw [show NativePath.mk name = .ofParts [name] from rfl,
    leads.resolve_join not_creation proper zero_free, stepsBelow_of_no_up (by simp) no_up,
    List.map_singleton]

/-- The path of an entry of a directory leads to it. -/
theorem LeadsTo.locate_child {entries : NodeEntries} {name : Bytes} {child : Node}
    (leads : files.LeadsTo path place links)
    (here : files.at? place = some (.directory entries)) (entry_name : IsEntryName name)
    (looked_up : entries.lookup name = some child) :
    files.locate .itself (path.join ⟨name⟩) = .ok (place ++ [name], child) := by
  rw [locate, leads.resolve_child (by simp) entry_name,
    follow_last (by simp) here looked_up (Or.inl rfl)]

/-- Where no link is on the way, what a path leads to is held by the tree under its names. -/
theorem isSome_at?_of_follow {names found : Place} {node reached : Node}
    (here : files.at? place = some node)
    (no_link : ∀ front back, names = front ++ back → front ≠ [] → back ≠ [] →
      ∀ target, node.at? front ≠ some (.link target))
    (followed : files.follow .target links place (names.map .name) = .ok (.found found reached)) :
    (node.at? names).isSome = true := by
  induction names generalizing place node with
  | nil => rfl
  | cons name rest ih =>
    cases node with
    | directory entries =>
      cases looked_up : entries.lookup name with
      | none =>
        rw [List.map_cons, follow, advance, here] at followed
        simp only [reduceCtorEq, false_and, if_false, looked_up] at followed
        by_cases last : rest = [] <;> simp [last] at followed
      | some child =>
        rw [Node.at?_directory_cons, looked_up, Option.bind_some]
        by_cases last : rest = []
        · subst last
          rfl
        have at_name : (Node.directory entries).at? [name] = some child := by
          rw [Node.at?_directory_cons, looked_up]
          rfl
        have child_no_link : ∀ target, child ≠ .link target := by
          rintro target rfl
          exact no_link [name] rest rfl (by simp) last target at_name
        rw [List.map_cons, follow_name (by simp) here looked_up child_no_link] at followed
        refine ih ((at?_child name here).trans looked_up) ?_ followed
        intro front back split front_nonempty back_nonempty target held
        refine no_link (name :: front) back (by rw [split]; rfl) (by simp) back_nonempty target ?_
        rw [Node.at?_directory_cons, looked_up]
        exact held
    | _ =>
      rw [List.map_cons, follow, advance, here] at followed
      simp at followed

end Trails

/-! ## A root directory -/

/-- Where a root path leads to, in a tree of proper names without backslashes. -/
structure RootedAt (files : FileSystem) (root : NativePath) (place : Place) (links : Nat)
    (top : Node) : Prop where
  found : files.node root = .ok top
  leads : files.LeadsTo root place links
  held : files.at? place = some top
  proper : top.EveryDirectory ProperEntries
  no_backslash : top.EveryDirectory NoBackslashIn

theorem locate_of_node {path : NativePath} {node : Node} (found : files.node path = .ok node) :
    ∃ place, files.locate .target path = .ok (place, node) := by
  rw [FileSystem.node] at found
  cases located : files.locate .target path with
  | error problem =>
    rw [located] at found
    cases found
  | ok both =>
    rw [located] at found
    cases found
    exact ⟨both.1, rfl⟩

theorem node_of_locate {path : NativePath} {place : Place} {node : Node}
    (located : files.locate .target path = .ok (place, node)) : files.node path = .ok node := by
  rw [FileSystem.node, located]
  rfl

/-- Whether a path leads to a regular file that may be opened. -/
def isReadable (files : FileSystem) (path : NativePath) : Bool :=
  match files.node path with
  | .ok (.file _) => true
  | _ => false

theorem isReadable_iff {path : NativePath} :
    files.isReadable path = true ↔ ∃ contents, files.node path = .ok (.file contents) := by
  unfold isReadable
  split
  · next contents found => simp [found]
  · next other =>
    refine ⟨fun unreadable => (nomatch unreadable), ?_⟩
    rintro ⟨contents, found⟩
    exact absurd found (other contents)

theorem isReadable_iff_located {path : NativePath} :
    files.isReadable path = true ↔
      ∃ place contents, files.locate .target path = .ok (place, .file contents) := by
  rw [isReadable_iff]
  constructor
  · rintro ⟨contents, found⟩
    obtain ⟨place, located⟩ := locate_of_node found
    exact ⟨place, contents, located⟩
  · rintro ⟨place, contents, located⟩
    exact ⟨contents, node_of_locate located⟩

theorem isFile_of_isReadable {path : NativePath} (readable : files.isReadable path = true) :
    files.isFile path = true := by
  obtain ⟨contents, found⟩ := isReadable_iff.1 readable
  rw [isFile, found]
  rfl

theorem exists_rootedAt_place {root : NativePath} {place : Place} {top : Node}
    (proper : files.Proper) (no_backslash : files.NoBackslash)
    (located : files.locate .target root = .ok (place, top)) :
    ∃ links, files.RootedAt root place links top := by
  obtain ⟨links, leads⟩ := exists_leadsTo located
  have held := at?_of_locate (by simp) located
  exact ⟨links, node_of_locate located, leads, held, proper.at held, no_backslash.at held⟩

theorem exists_rootedAt {root : NativePath} {top : Node} (proper : files.Proper)
    (no_backslash : files.NoBackslash) (found : files.node root = .ok top) :
    ∃ place links, files.RootedAt root place links top := by
  obtain ⟨place, located⟩ := locate_of_node found
  exact ⟨place, exists_rootedAt_place proper no_backslash located⟩

end FileSystem
end TreeBundle
