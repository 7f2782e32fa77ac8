import TreeBundle.Proofs.FileSystem.Refused
import TreeBundle.Proofs.Rules.Document
import TreeBundle.Proofs.Text.Utf8
import TreeBundle.Proofs.Toml.Keys
import TreeBundle.Rules.Load

/-!
# Where the rules of a run come from

A document is accepted iff it is TOML and all of its entries are; the tables it leaves out are the
only ones with built-in content. A run uses the rules file that it finds, and fails if it cannot use
it. What it cannot find it takes to be missing: a lookup in the root that is refused comes to the
built-in tables as well.
-/
namespace TreeBundle
set_option autoImplicit false

namespace FileSystem
variable {files : FileSystem} {path : NativePath}

theorem isFile_iff :
    files.isFile path = true ↔ ∃ node, files.node path = .ok node ∧ node.isFile = true := by
  unfold isFile
  cases files.node path <;> simp

theorem text_eq_ok_iff {document : String} :
    files.text path = .ok document ↔ files.bytes path = .ok (Utf8.ofString document) := by
  unfold text
  cases files.bytes path with
  | error problem => simp
  | ok bytes =>
    rw [Except.ok.injEq, ← Utf8.string?_eq_some_iff]
    cases decoded : Utf8.string? bytes <;> simp [decoded]

theorem text_eq_error_iff {cause : IoError} :
    files.text path = .error cause ↔ files.bytes path = .error cause ∨
      cause = .notText ∧ ∃ bytes, files.bytes path = .ok bytes ∧
        ∀ document, bytes ≠ Utf8.ofString document := by
  unfold text
  cases files.bytes path with
  | error problem => simp
  | ok bytes =>
    simp only [Except.ok.injEq, exists_eq_left', ne_eq, ← Utf8.string?_eq_some_iff]
    cases Utf8.string? bytes with
    | none => simp [eq_comm]
    | some document => simp

end FileSystem

namespace RuleTables

/-! ## Documents -/

section Documents
variable {path : NativePath} {document : String}

theorem read_eq_ok_iff {tables : RuleTables} :
    read path document = .ok tables ↔
      ∃ entries, Toml.parse? document = some entries ∧ ofEntries entries = .ok tables := by
  unfold read parse
  cases Toml.parse? document with
  | none => simp [Except.mapError]
  | some entries =>
    cases decoded : ofEntries entries <;> simp [Except.mapError, decoded]

theorem exists_read_iff :
    (∃ tables, read path document = .ok tables) ↔
      ∃ entries, Toml.parse? document = some entries ∧ ∀ entry ∈ entries, Accepts entry := by
  simp only [read_eq_ok_iff, ← exists_foldlM_updateNamed_iff builtIn]
  constructor
  · rintro ⟨tables, entries, found, decoded⟩
    exact ⟨entries, found, tables, decoded⟩
  · rintro ⟨entries, found, tables, decoded⟩
    exact ⟨tables, entries, found, decoded⟩

theorem read_eq_ok_iff_takenOver {tables : RuleTables} :
    read path document = .ok tables ↔
      ∃ entries, Toml.parse? document = some entries ∧ (entries.map Prod.fst).Nodup ∧
        TakenOver builtIn entries tables := by
  rw [read_eq_ok_iff]
  constructor
  · rintro ⟨entries, found, decoded⟩
    have distinct := Toml.nodup_keys_of_parse? found
    exact ⟨entries, found, distinct, (foldlM_updateNamed_eq_ok_iff distinct).1 decoded⟩
  · rintro ⟨entries, found, distinct, taken⟩
    exact ⟨entries, found, (foldlM_updateNamed_eq_ok_iff distinct).2 taken⟩

end Documents

/-! ## Files -/

section Files
variable {files : FileSystem} {root path : NativePath} {explicit : Option NativePath}

theorem load_eq_ok_iff {tables : RuleTables} :
    load files path = .ok tables ↔
      ∃ document, files.bytes path = .ok (Utf8.ofString document) ∧
        read path document = .ok tables := by
  simp only [← FileSystem.text_eq_ok_iff]
  unfold load
  cases files.text path <;> simp

theorem load_eq_error_iff {problem : RulesError} :
    load files path = .error problem ↔
      (∃ cause, problem = .unreadable path cause ∧ files.text path = .error cause) ∨
      ∃ document, files.bytes path = .ok (Utf8.ofString document) ∧
        read path document = .error problem := by
  simp only [← FileSystem.text_eq_ok_iff]
  unfold load
  cases files.text path <;> simp [eq_comm]

/-- The rules file of a run: the one that was asked for, else the one in the root if the path of
that leads to a regular file. -/
def Chosen (files : FileSystem) (root : NativePath) (explicit : Option NativePath)
    (path : NativePath) : Prop :=
  explicit = some path ∨
    explicit = none ∧ path = root.join (.ofString fileName) ∧
      ∃ node, files.node path = .ok node ∧ node.isFile = true

theorem discover_of_chosen (chosen : Chosen files root explicit path) :
    discover files root explicit = (load files path).map fun tables => (tables, some path) := by
  rcases chosen with rfl | ⟨rfl, rfl, regular⟩
  · rfl
  · simp only [discover, if_pos (FileSystem.isFile_iff.2 regular)]

theorem discover_of_no_file
    (no_file : ∀ node, files.node (root.join (.ofString fileName)) = .ok node →
      node.isFile = false) :
    discover files root none = .ok (builtIn, none) := by
  have none_there : ¬files.isFile (root.join (.ofString fileName)) = true := by
    intro is_file
    obtain ⟨node, found, regular⟩ := FileSystem.isFile_iff.1 is_file
    rw [no_file node found] at regular
    cases regular
  simp only [discover, if_neg none_there]

/-- The regular rules file of a root that can be searched is chosen, unless another is asked for. -/
theorem chosen_of_entry {entries : NodeEntries} {child : Node}
    (found : files.node root = .ok (.directory entries))
    (looked_up : entries.lookup (Utf8.ofString fileName) = some child)
    (regular : child.isFile = true) : Chosen files root none (root.join (.ofString fileName)) := by
  obtain ⟨place, located⟩ := FileSystem.locate_of_node found
  obtain ⟨links, leads⟩ := FileSystem.exists_leadsTo located
  have here := FileSystem.at?_of_locate (by simp) located
  have no_link : ∀ target, child ≠ .link target := by
    rintro target rfl
    cases regular
  have resolved : files.resolve .target (root.join (.ofString fileName)) =
      .ok (.found (place ++ [Utf8.ofString fileName]) child) := by
    exact (leads.resolve_child (by simp) (by decide)).trans
      (FileSystem.follow_last (by simp) here looked_up (Or.inr no_link))
  refine Or.inr ⟨rfl, rfl, child, ?_, regular⟩
  rw [FileSystem.node, FileSystem.locate, resolved]
  rfl

theorem discover_eq_ok_iff_of_chosen (chosen : Chosen files root explicit path)
    {tables : RuleTables} {source : Option NativePath} :
    discover files root explicit = .ok (tables, source) ↔
      source = some path ∧ load files path = .ok tables := by
  rw [discover_of_chosen chosen, map_eq_ok_iff]
  constructor
  · rintro ⟨found, loaded, same⟩
    cases same
    exact ⟨rfl, loaded⟩
  · rintro ⟨rfl, loaded⟩
    exact ⟨tables, loaded, rfl⟩

theorem discover_eq_error_iff_of_chosen (chosen : Chosen files root explicit path)
    {problem : RulesError} :
    discover files root explicit = .error problem ↔ load files path = .error problem := by
  rw [discover_of_chosen chosen]
  cases load files path <;> simp [Except.map]

/-- A run without a source of its rules is one that finds no rules file. -/
theorem discover_eq_ok_none_iff {tables : RuleTables} :
    discover files root explicit = .ok (tables, none) ↔
      tables = builtIn ∧ explicit = none ∧
        ∀ node, files.node (root.join (.ofString fileName)) = .ok node → node.isFile = false := by
  constructor
  · intro discovered
    have no_choice : ∀ path, ¬Chosen files root explicit path := fun path chosen =>
      nomatch ((discover_eq_ok_iff_of_chosen chosen).1 discovered).1
    have not_asked : explicit = none :=
      Option.eq_none_iff_forall_ne_some.2 fun path asked => no_choice path (Or.inl asked)
    have no_file : ∀ node, files.node (root.join (.ofString fileName)) = .ok node →
        node.isFile = false := fun node found =>
      Bool.eq_false_iff.2 fun regular => no_choice _ (Or.inr ⟨not_asked, rfl, node, found, regular⟩)
    rw [not_asked, discover_of_no_file no_file] at discovered
    cases discovered
    exact ⟨rfl, not_asked, no_file⟩
  · rintro ⟨rfl, rfl, no_file⟩
    exact discover_of_no_file no_file

/-- A rules file that lies in the root is passed over exactly if its lookup is refused. -/
theorem falls_back_iff {contents : Bytes}
    (lies : files.FileLiesAt (root.join (.ofString fileName)) contents) :
    discover files root none = .ok (builtIn, none) ↔
      ∃ problem, files.node (root.join (.ofString fileName)) = .error problem := by
  rw [discover_eq_ok_none_iff]
  cases looked_up : files.node (root.join (.ofString fileName)) with
  | error problem => simp
  | ok node =>
    have opened := (FileSystem.fileLiesAt_iff_of_node looked_up).1 lies
    have regular : node.isFile = true := by
      cases node with
      | file | lockedFile => rfl
      | _ => cases opened
    simp [regular]

end Files

/-- A document is accepted iff it is TOML and each entry is named after a table and holds what this
table takes. The tables then hold what the entries give and, where there is none, their built-in
content. A run has the built-in tables without a source iff no rules file was asked for and the
lookup of the one in the root comes to no regular file. Where a regular file lies there, that is so
exactly if the lookup fails; one in a root that can be searched is chosen. A run with a rules file
has the tables of this file, or fails because the file cannot be read, is no text or holds a
document that is not accepted. -/
theorem accepts_and_discovers (files : FileSystem) (root : NativePath)
    (explicit : Option NativePath) :
    (∀ (path : NativePath) (document : String),
      ((∃ tables, read path document = .ok tables) ↔
        ∃ entries, Toml.parse? document = some entries ∧ ∀ entry ∈ entries, Accepts entry) ∧
      ∀ tables, read path document = .ok tables ↔
        ∃ entries, Toml.parse? document = some entries ∧ (entries.map Prod.fst).Nodup ∧
          TakenOver builtIn entries tables) ∧
    (∀ tables, discover files root explicit = .ok (tables, none) ↔
      tables = builtIn ∧ explicit = none ∧
        ∀ node, files.node (root.join (.ofString fileName)) = .ok node → node.isFile = false) ∧
    (∀ contents, files.FileLiesAt (root.join (.ofString fileName)) contents →
      (discover files root none = .ok (builtIn, none) ↔
        ∃ problem, files.node (root.join (.ofString fileName)) = .error problem)) ∧
    (∀ entries child, files.node root = .ok (.directory entries) →
      entries.lookup (Utf8.ofString fileName) = some child → child.isFile = true →
      Chosen files root none (root.join (.ofString fileName))) ∧
    ∀ path, Chosen files root explicit path →
      (∀ tables source, discover files root explicit = .ok (tables, source) ↔
        source = some path ∧ ∃ document, files.bytes path = .ok (Utf8.ofString document) ∧
          read path document = .ok tables) ∧
      ∀ problem, discover files root explicit = .error problem ↔
        (∃ cause, problem = .unreadable path cause ∧
          (files.bytes path = .error cause ∨
            cause = .notText ∧ ∃ bytes, files.bytes path = .ok bytes ∧
              ∀ document, bytes ≠ Utf8.ofString document)) ∨
        ∃ document, files.bytes path = .ok (Utf8.ofString document) ∧
          read path document = .error problem := by
  refine ⟨fun path document => ⟨exists_read_iff, fun tables => read_eq_ok_iff_takenOver⟩,
    fun tables => discover_eq_ok_none_iff, fun contents lies => falls_back_iff lies,
    fun entries child found looked_up regular => chosen_of_entry found looked_up regular,
    fun path chosen => ⟨?_, ?_⟩⟩
  · intro tables source
    rw [discover_eq_ok_iff_of_chosen chosen, load_eq_ok_iff]
  · intro problem
    rw [discover_eq_error_iff_of_chosen chosen, load_eq_error_iff]
    simp only [FileSystem.text_eq_error_iff]

/-- A document that gives two tables the same strings, out of order and one of them twice. -/
def repetitive : String :=
  "exclude_dirs = [\n    \"b\",\n    \"a\",\n    \"b\",\n]\n" ++
  "include_regexes = [\n    \"b\",\n    \"a\",\n    \"b\",\n]\n"

/-- A root with a rules file. -/
def ruled : FileSystem where
  root := .directory [(Utf8.ofString fileName, .file (Utf8.ofString repetitive))]
  working := []

/-- A root with a rules file that may not be opened. -/
def withheld : FileSystem where
  root := .directory [(Utf8.ofString fileName, .lockedFile (Utf8.ofString repetitive))]
  working := []

/-- A root where a directory has the name of the rules file. -/
def unruled : FileSystem where
  root := .directory [(Utf8.ofString fileName, .directory [])]
  working := []

theorem parse?_repetitive : Toml.parse? repetitive =
    some [("exclude_dirs", .list (["b", "a", "b"].map .text)),
      ("include_regexes", .list (["b", "a", "b"].map .text))] := by
  have written : repetitive = String.ofList ([Table.excludeDirs, .includeRegexes].flatMap
      fun table => Toml.writeEntry table.name (Toml.writeArray ["b", "a", "b"])) := by
    decide
  rw [written]
  exact Toml.parse?_writeEntries Table.bareKey_name
    (fun _ => Toml.writeArray_readsAs ["b", "a", "b"]) _ (by decide)

theorem accepts_and_discovers_ruled :
    Chosen ruled (.ofString "/") none (.ofString "/fencepack.toml") ∧
    (∃ tables, discover ruled (.ofString "/") none =
        .ok (tables, some (.ofString "/fencepack.toml")) ∧
      tables.excludeDirs.toList = ["a", "b"] ∧ tables.includeRegexes = ["b", "a", "b"] ∧
      tables.excludeRegexes = builtIn.excludeRegexes) ∧
    discover withheld (.ofString "/") none =
      .error (.unreadable (.ofString "/fencepack.toml") .permissionDenied) ∧
    discover unruled (.ofString "/") none = .ok (builtIn, none) := by
  obtain ⟨documents, -, -, of_entry, of_chosen⟩ :=
    accepts_and_discovers ruled (.ofString "/") none
  obtain ⟨-, -, -, of_kept_entry, of_kept⟩ := accepts_and_discovers withheld (.ofString "/") none
  have of_unruled := (accepts_and_discovers unruled (.ofString "/") none).2.1
  have chosen : Chosen ruled (.ofString "/") none (.ofString "/fencepack.toml") :=
    of_entry _ _ rfl rfl rfl
  have kept_chosen : Chosen withheld (.ofString "/") none (.ofString "/fencepack.toml") :=
    of_kept_entry _ _ rfl rfl rfl
  have accepted : ∃ tables, read (.ofString "/fencepack.toml") repetitive = .ok tables := by
    refine (documents _ repetitive).1.2 ⟨_, parse?_repetitive, ?_⟩
    simp only [List.forall_mem_cons, List.not_mem_nil, false_imp_iff, implies_true, and_true]
    exact ⟨⟨.excludeDirs, rfl, _, rfl⟩, ⟨.includeRegexes, rfl, _, rfl⟩⟩
  obtain ⟨tables, accepted⟩ := accepted
  obtain ⟨entries, parsed, -, taken⟩ := ((documents _ repetitive).2 tables).1 accepted
  obtain rfl := Option.some.inj (parse?_repetitive.symm.trans parsed)
  refine ⟨chosen, ⟨tables, ?_, ?_, ?_, ?_⟩, ?_, ?_⟩
  · exact ((of_chosen _ chosen).1 tables _).2 ⟨rfl, repetitive, rfl, accepted⟩
  · obtain ⟨table, name, gives⟩ := taken.given _ List.mem_cons_self
    obtain rfl := Table.name_injective table .excludeDirs name
    have given : toSet (.list (["b", "a", "b"].map .text)) = .ok tables.excludeDirs :=
      toSet_eq_ok_iff.2 gives
    rw [← Except.ok.inj given]
    decide
  · obtain ⟨table, name, gives⟩ := taken.given _ (List.mem_cons_of_mem _ List.mem_cons_self)
    obtain rfl := Table.name_injective table .includeRegexes name
    exact (Datum.texts_inj gives).symm
  · have kept := taken.kept .excludeRegexes (by decide)
    exact Table.Content.list.inj kept
  · exact ((of_kept _ kept_chosen).2 _).2 (Or.inl ⟨.permissionDenied, rfl, Or.inl rfl⟩)
  · refine (of_unruled builtIn).2 ⟨rfl, rfl, fun node found => ?_⟩
    obtain rfl : Node.directory [] = node := Except.ok.inj found
    rfl

/-! ## Lookups that are refused -/

/-- A project that may not be searched, with a rules file. -/
def sealedProject : FileSystem where
  root := .directory [(Utf8.ofString "project",
    .lockedDirectory [(Utf8.ofString fileName, .file (Utf8.ofString repetitive))])]
  working := []

/-- A root with a rules file under another name, to which a link leads through too many others. -/
def windingRoot : FileSystem where
  root := .directory [(Utf8.ofString "s", .link (.ofString ".")),
    (Utf8.ofString "rules.toml", .file (Utf8.ofString repetitive)),
    (Utf8.ofString fileName, .link (FileSystem.longWay.join (.ofString "rules.toml")))]
  working := []

/-- Where the lookup of the rules file is refused, because the root may not be searched or because
a link leads on through too many others, a run falls back to the built-in tables without a word,
though a regular file with rules is there. Asked for by its path, the file is an error. -/
theorem refused_lookup_falls_back :
    ¬(∀ (files : FileSystem) (root : NativePath) (contents : Bytes),
      files.FileLiesAt (root.join (.ofString fileName)) contents →
        discover files root none ≠ .ok (builtIn, none)) ∧
    (sealedProject.FileLiesAt (.ofString "/project/fencepack.toml") (Utf8.ofString repetitive) ∧
      discover sealedProject (.ofString "/project") none = .ok (builtIn, none) ∧
      discover sealedProject (.ofString "/project") (some (.ofString "/project/fencepack.toml")) =
        .error (.unreadable (.ofString "/project/fencepack.toml") .permissionDenied)) ∧
    windingRoot.FileLiesAt (.ofString "/fencepack.toml") (Utf8.ofString repetitive) ∧
    discover windingRoot (.ofString "/") none = .ok (builtIn, none) ∧
    discover windingRoot (.ofString "/") (some (.ofString "/fencepack.toml")) =
      .error (.unreadable (.ofString "/fencepack.toml") .tooManyLinks) := by
  have shut_in : sealedProject.FileLiesAt (.ofString "/project/fencepack.toml")
      (Utf8.ofString repetitive) :=
    ⟨0, [Utf8.ofString "project", Utf8.ofString fileName], rfl⟩
  have far_off : windingRoot.FileLiesAt (.ofString "/fencepack.toml") (Utf8.ofString repetitive) :=
    ⟨FileSystem.linkLimit + 2, [Utf8.ofString "rules.toml"], rfl⟩
  refine ⟨fun claimed => ?_, ⟨shut_in, rfl, rfl⟩, far_off, rfl, rfl⟩
  exact claimed sealedProject (.ofString "/project") _ shut_in rfl

end RuleTables
end TreeBundle
