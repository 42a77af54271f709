import SchemaFragments.Proofs.Document.Spreads
import SchemaFragments.Proofs.Run.Outcome

/-! # The fragments that files define

By the default patterns the block of a declaration begins with the name of its entity and `Gql`, whatever
else the name contains; its fragment begins with the header of a fragment with the name of the entity, on
that type; and this is the fragment that the operations of the entity spread.  No step of `fragmentOf`
reaches into the header, and neither does the trimming of the text for its file.  So after a successful run
the file for the fragment of an entity defines that fragment (`fragment_defined`). -/

namespace SchemaFragments

open Scan

variable {schema u v : Text} {d : Declaration} {before : Option Char}

/-! ### Headers -/

theorem headerOf_entity (entity : Text) :
    headerOf (entity ++ "Gql") = "type " ++ entity ++ "Gql \x7b" := by
  unfold headerOf
  simp

theorem prefix_block (hd : d ∈ declarationsFrom before schema) :
    ("type " ++ d.entity ++ "Gql \x7b" : Text) <+: d.block := by
  obtain ⟨-, -, c, u, hb⟩ := exists_of_mem_declarationsFrom hd
  rw [hb, headerOf_entity]
  exact List.prefix_append _ _

/-- The header of the fragment of an entity. -/
theorem fragmentHeader_eq (entity : Text) :
    fragmentHeader entity = "fragment " ++ entity ++ " on " ++ entity ++ "Gql \x7b" := by
  unfold fragmentHeader
  simp only [List.append_assoc]

theorem prefix_fragmentOf (hd : d ∈ declarationsFrom before schema) :
    fragmentHeader d.entity <+: fragmentOf d.block := by
  obtain ⟨hne, hw, c, u, hb⟩ := exists_of_mem_declarationsFrom hd
  rw [hb, fragmentOf_headerOf (isIdentifier_iff.mpr ⟨hne, hw⟩)]
  exact List.prefix_append _ _

/-- What does not end in white space still begins a document when the document goes to its file. -/
theorem prefix_fileText (hu : ∀ c ∈ u.getLast?, isBlank c = false) (h : u <+: v) : u <+: fileText v := by
  obtain ⟨w, rfl⟩ := h
  unfold fileText
  rw [Text.trimEnd_append hu, List.append_assoc]
  exact List.prefix_append _ _

theorem getLast?_fragmentHeader (entity : Text) : (fragmentHeader entity).getLast? = some '\x7b' := by
  rw [fragmentHeader_eq]
  exact List.getLast?_append

/-! ### Files -/

/-- After a successful run by the default patterns the file for the fragment of every declared entity begins
with the header of that fragment. -/
theorem exists_fragment_file {s : Source} {root : Path} {c : Console} {t : FileTree} {m : Medium}
    {stats : Stats} (hs : s.patterns = .standard) (h : (generate s root c t m).result = .ok stats) :
    ∃ schema, s.read t = .ok schema ∧ ∀ d ∈ declarations schema, ∃ text,
      (generate s root c t m).tree.entry? (DocumentKind.fragment.location root d.entity) =
        some (.file (.text text)) ∧
      fragmentHeader d.entity <+: text := by
  obtain ⟨schema, p, hr, hp, -, hrun⟩ := generate_ok h
  have hsync := synced_of_actions hp hrun
  obtain ⟨ds, hx, rfl⟩ := Plan.ofSchema_ok hp
  rw [hs, Patterns.extract_standard] at hx
  cases hx
  refine ⟨schema, hr, fun d hd => ?_⟩
  have hentities := Plan.entities_ofDeclarations s.allowed (declarations schema)
  have hplanned : d.entity ∈ (Plan.ofDeclarations s.allowed (declarations schema)).entities.map (·.name) := by
    rw [hentities]
    exact List.mem_map_of_mem (List.mem_map_of_mem hd)
  -- Of several declarations of the entity the last one is in the file; all have the same header.
  obtain ⟨front, e, later, hsplit, hname, hlast⟩ := exists_last hplanned
  have he : e ∈ (declarations schema).map (Plan.entityOf s.allowed) := by
    rw [← hentities, hsplit]
    simp
  obtain ⟨last, hmem, rfl⟩ := List.mem_map.mp he
  have hfile := hsync.fragment front _ later hsplit (by simpa [hname] using hlast)
  have hheader : fragmentHeader last.entity <+: fileText (fragmentOf last.block) := by
    refine prefix_fileText (fun b hb => ?_) (prefix_fragmentOf hmem)
    rw [getLast?_fragmentHeader] at hb
    cases hb
    decide
  change last.entity = d.entity at hname
  rw [← hname]
  exact ⟨_, hfile, hheader⟩

/-- By the default patterns each block begins with the header of the type of its entity, and its fragment
with the header of the fragment that the operations of the entity spread; a successful run leaves that
fragment in the file of the entity. -/
theorem fragment_defined :
    ∃ p, Patterns.compile Patterns.defaultBlock Patterns.defaultName = .ok p ∧
      (∀ schema, ∃ ds, p.extract schema = .ok ds ∧ ∀ d ∈ ds,
        ("type " ++ d.entity ++ "Gql \x7b" : Text) <+: d.block ∧
        ("fragment " ++ d.entity ++ " on " ++ d.entity ++ "Gql \x7b" : Text) <+: fragmentOf d.block ∧
        spreads (saveMutation d.entity) = [d.entity] ∧ spreads (byIdQuery d.entity) = [d.entity]) ∧
      ∀ (s : Source) root c t m stats, s.patterns = p → (generate s root c t m).result = .ok stats →
        ∃ schema ds, s.read t = .ok schema ∧ p.extract schema = .ok ds ∧ ∀ d ∈ ds, ∃ text,
          (generate s root c t m).tree.entry? (DocumentKind.fragment.location root d.entity) =
            some (.file (.text text)) ∧
          ("fragment " ++ d.entity ++ " on " ++ d.entity ++ "Gql \x7b" : Text) <+: text := by
  simp only [← fragmentHeader_eq]
  refine ⟨.standard, Patterns.compile_default, fun schema => ?_, fun s root c t m stats hs h => ?_⟩
  · refine ⟨declarations schema, Patterns.extract_standard schema, fun d hd => ?_⟩
    obtain ⟨hne, hw, -⟩ := exists_of_mem_declarationsFrom hd
    have hi : isIdentifier d.entity := isIdentifier_iff.mpr ⟨hne, hw⟩
    exact ⟨prefix_block hd, prefix_fragmentOf hd, spreads_saveMutation hi, spreads_byIdQuery hi⟩
  · obtain ⟨schema, hr, hfiles⟩ := exists_fragment_file hs h
    exact ⟨schema, _, hr, Patterns.extract_standard schema, hfiles⟩

/-- A schema that declares an entity with `Gql` in its name. -/
def nestedTree : FileTree :=
  FileTree.empty.set ["s"] (.file (.text "type AGqlGql \x7b\n  b: BGql\n\x7d\n"))

/-- The schema of `nestedTree`, with no operation asked for. -/
def nestedSource : Source := ⟨"s", .standard, .parse []⟩

/-- The file for the fragment of `AGql` defines the fragment `AGql`, on the type `AGqlGql`. -/
theorem fragment_defined_nested :
    (generate nestedSource "o" silentConsole nestedTree).result = .ok ⟨1, 0, 0, []⟩ ∧
      ∃ text, (generate nestedSource "o" silentConsole nestedTree).tree.entry?
          (DocumentKind.fragment.location "o" "AGql") = some (.file (.text text)) ∧
        ("fragment AGql on AGqlGql \x7b" : Text) <+: text := by
  have h : (generate nestedSource "o" silentConsole nestedTree).result = .ok ⟨1, 0, 0, []⟩ :=
    ok_of_toOption (by decide +kernel)
  have hdeclared : ((nestedSource.read nestedTree).toOption.bind fun schema =>
      (Patterns.standard.extract schema).toOption.map fun ds => ds.map (·.entity)) =
        some [("AGql" : Text)] := by
    decide +kernel
  obtain ⟨p, hp, -, hfiles⟩ := fragment_defined
  cases Patterns.compile_default.symm.trans hp
  obtain ⟨schema, ds, hr, hx, hdefined⟩ := hfiles nestedSource "o" silentConsole nestedTree _ _ rfl h
  have hentities : ds.map (·.entity) = [("AGql" : Text)] := by
    simpa [Except.toOption, hr, hx] using hdeclared
  have hmem : ("AGql" : Text) ∈ ds.map (·.entity) := by
    rw [hentities]
    exact List.mem_singleton_self _
  obtain ⟨d, hd, hname⟩ := List.mem_map.mp hmem
  obtain ⟨text, hfile, hheader⟩ := hdefined d hd
  rw [hname] at hfile hheader
  exact ⟨h, text, hfile, hheader⟩

end SchemaFragments
