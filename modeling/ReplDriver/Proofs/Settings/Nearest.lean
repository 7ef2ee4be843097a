import ReplDriver.Proofs.Files.Places
import ReplDriver.Proofs.Operation
import ReplDriver.Proofs.Settings.Validation
import ReplDriver.Settings.Search

/-!
# The nearest settings file

The search for a settings file goes up from a directory to the root and stops at the first directory
that holds one, so the deepest one at or above the start governs. All ways to say where the search
begins agree: the path of a settings file, of another file in the same directory, and of the
directory itself, however they are spelled.

* `Settings.ancestors_eq`: the directories that are searched, one step at a time.
* `Settings.find?_ancestors`: what is found is the deepest one.
* `Settings.nearest_governs`: the root that is found, and the settings that are loaded.
-/

namespace ReplDriver.Settings

open FileTree ReplDriver.Path

/-! ## Directories at and above a path -/

/-- The search goes on with the parent directory, until there is none. -/
theorem ancestors_eq (p : Path) :
    ancestors p = p :: if p.parts = [] then [] else ancestors p.parent := by
  unfold ancestors
  rw [List.range_succ_eq_map, List.map_cons, List.map_map, Nat.sub_zero, List.take_length]
  refine congrArg (p :: ·) ?_
  by_cases hroot : p.parts = []
  · rw [if_pos hroot, hroot]
    rfl
  · have hlength : p.parent.parts.length + 1 = p.parts.length := by
      have hpositive := List.length_pos_iff.mpr hroot
      rw [parent, List.length_dropLast]
      omega
    rw [if_neg hroot, hlength]
    refine List.map_congr_left fun n hn => ?_
    have hshorter : p.parent.parts.take (p.parent.parts.length - n) =
        p.parts.take (p.parts.length - n.succ) := by
      rw [parent, List.dropLast_eq_take, List.take_take, List.length_take]
      congr 1
      omega
    show Path.mk p.slashes _ = Path.mk p.slashes _
    rw [hshorter]

theorem mem_ancestors {p d : Path} :
    d ∈ ancestors p ↔ d.slashes = p.slashes ∧ d.parts <+: p.parts := by
  unfold ancestors
  rw [List.mem_map]
  constructor
  · rintro ⟨n, -, rfl⟩
    exact ⟨rfl, List.take_prefix _ _⟩
  · rintro ⟨hslashes, hparts⟩
    have hlength := hparts.length_le
    refine ⟨p.parts.length - d.parts.length, by rw [List.mem_range]; omega, ?_⟩
    have htake : p.parts.length - (p.parts.length - d.parts.length) = d.parts.length := by omega
    rw [htake, ← List.prefix_iff_eq_take.mp hparts, ← hslashes]

/-- What lies at or above a path is the path itself, or lies at or above its parent. -/
theorem prefix_iff_parent {p : Path} (hbelow : p.parts ≠ []) {parts : List Text} :
    parts <+: p.parts ↔ parts = p.parts ∨ parts <+: p.parent.parts := by
  have h : parts <+: p.parts.dropLast ++ [p.parts.getLast hbelow] ↔
      parts = p.parts.dropLast ++ [p.parts.getLast hbelow] ∨ parts <+: p.parts.dropLast :=
    List.prefix_concat_iff
  rwa [List.dropLast_concat_getLast] at h

/-- The deepest of some directories at or above a path. -/
structure Deepest (wanted : Path → Prop) (p d : Path) : Prop where
  slashes : d.slashes = p.slashes
  above : d.parts <+: p.parts
  holds : wanted d
  deepest : ∀ parts, parts <+: p.parts → wanted ⟨p.slashes, parts⟩ → parts <+: d.parts

section
variable {wanted wanted' : Path → Prop} {found : Path → Bool} {p d : Path}

theorem Deepest.holds_above (h : Deepest wanted p d) : wanted ⟨p.slashes, d.parts⟩ := by
  rw [← h.slashes]
  exact h.holds

theorem Deepest.congr (h : ∀ parts, parts <+: p.parts →
    (wanted ⟨p.slashes, parts⟩ ↔ wanted' ⟨p.slashes, parts⟩)) :
    Deepest wanted p d ↔ Deepest wanted' p d := by
  have hone {wanted wanted' : Path → Prop} (h : ∀ parts, parts <+: p.parts →
      (wanted ⟨p.slashes, parts⟩ ↔ wanted' ⟨p.slashes, parts⟩)) (hd : Deepest wanted p d) :
      Deepest wanted' p d := by
    refine ⟨hd.slashes, hd.above, ?_, fun parts hparts hwanted =>
      hd.deepest parts hparts ((h parts hparts).mpr hwanted)⟩
    have hholds := (h d.parts hd.above).mp hd.holds_above
    rwa [← hd.slashes] at hholds
  exact ⟨hone h, hone fun parts hparts => (h parts hparts).symm⟩

/-- A path that is one of them is the deepest one itself. -/
theorem deepest_self (hp : wanted p) : Deepest wanted p d ↔ p = d := by
  constructor
  · intro h
    have hparts : p.parts = d.parts :=
      (h.deepest p.parts List.prefix_rfl hp).eq_of_length_le h.above.length_le
    rcases d with ⟨slashes, parts⟩
    exact congrArg₂ Path.mk h.slashes.symm hparts
  · rintro rfl
    exact ⟨rfl, List.prefix_rfl, hp, fun parts hparts _ => hparts⟩

/-- What is found going up is the deepest one. -/
theorem find?_ancestors :
    (ancestors p).find? found = some d ↔ Deepest (fun d => found d = true) p d := by
  -- the induction goes up with the search
  induction hlength : p.parts.length generalizing p with
  | zero =>
    have hroot : p.parts = [] := List.length_eq_zero_iff.mp hlength
    rw [ancestors_eq, if_pos hroot, List.find?_cons]
    rcases hp : found p with _ | _
    · refine ⟨nofun, fun h => ?_⟩
      have hparts : d.parts = p.parts := by
        rw [hroot]
        exact List.prefix_nil.mp (hroot ▸ h.above)
      have hfound := h.holds_above
      rw [hparts] at hfound
      exact absurd (hp.symm.trans hfound) Bool.false_ne_true
    · rw [deepest_self hp]
      exact Option.some_inj
  | succ n ih =>
    have hbelow : p.parts ≠ [] := List.length_pos_iff.mp (by omega)
    rw [ancestors_eq, if_neg hbelow, List.find?_cons]
    rcases hp : found p with _ | _
    · have hparent : p.parent.parts.length = n := by
        rw [parent, List.length_dropLast]
        omega
      have hother {parts : List Text} (hparts : parts <+: p.parts)
          (hfound : found ⟨p.slashes, parts⟩ = true) : parts <+: p.parent.parts := by
        rcases (prefix_iff_parent hbelow).mp hparts with rfl | habove
        · exact absurd (hp.symm.trans hfound) Bool.false_ne_true
        · exact habove
      simp only
      rw [ih hparent]
      constructor
      · intro h
        exact ⟨h.slashes, h.above.trans (List.dropLast_prefix _), h.holds,
          fun parts hparts hfound => h.deepest parts (hother hparts hfound) hfound⟩
      · intro h
        exact ⟨h.slashes, hother h.above h.holds_above, h.holds, fun parts hparts =>
          h.deepest parts (hparts.trans (List.dropLast_prefix _))⟩
    · rw [deepest_self hp]
      exact Option.some_inj

theorem find?_ancestors_eq_none : (ancestors p).find? found = none ↔
    ∀ parts, parts <+: p.parts → found ⟨p.slashes, parts⟩ = false := by
  rw [List.find?_eq_none]
  constructor
  · intro h parts hparts
    simpa using h ⟨p.slashes, parts⟩ (mem_ancestors.mpr ⟨rfl, hparts⟩)
  · intro h d hd
    obtain ⟨hslashes, hparts⟩ := mem_ancestors.mp hd
    rcases d with ⟨slashes, parts⟩
    obtain rfl : slashes = p.slashes := hslashes
    simpa using h parts hparts

end

/-! ## Where the search begins -/

section
variable {m : Machine} {start root d : Path} {path : Option Text} {bytes : List UInt8}

/-- Where the search for a settings file begins: in the working directory if no path is given, in
the directory of a file, or in a directory. A path that leads to neither is brought into normal
form. -/
inductive Starts (m : Machine) : Option Text → Path → Prop
  | here : Starts m none m.cwd
  | file {p : Text} {place : List Text} {bytes : List UInt8}
      (hplace : m.files.locate m.cwd.parts p = .ok place)
      (hfile : m.files.node? place = some (.file bytes)) :
      Starts m (some p) ⟨(m.absolute p).slashes, place.dropLast⟩
  | directory {p : Text} {place : List Text}
      (hplace : m.files.locate m.cwd.parts p = .ok place)
      (hdirectory : m.files.node? place = some .directory) :
      Starts m (some p) ⟨(m.absolute p).slashes, place⟩
  | other {p : Text} (hfile : m.isFile p = false) (hdirectory : m.isDirectory p = false) :
      Starts m (some p) (m.absolute p)

theorem starts_searchStart (h : m.Proper) (path : Option Text) :
    Starts m path (searchStart m path) := by
  cases path with
  | none => exact .here
  | some p =>
    unfold searchStart
    by_cases hfile : m.isFile p = true
    · obtain ⟨-, place, bytes, hplace, hnode⟩ := isFile_iff.mp hfile
      have hstart : (m.absolute p).parent = ⟨(m.absolute p).slashes, place.dropLast⟩ := by
        rw [← absolute_of_locate h.cwd hplace]
        rfl
      simp only [if_pos hfile]
      rw [hstart]
      exact .file hplace hnode
    · simp only [if_neg hfile]
      by_cases hdirectory : m.isDirectory p = true
      · obtain ⟨-, place, hplace, hnode⟩ := isDirectory_iff.mp hdirectory
        have hstart : m.absolute p = ⟨(m.absolute p).slashes, place⟩ := by
          rw [← absolute_of_locate h.cwd hplace]
          rfl
        rw [hstart]
        exact .directory hplace hnode
      · exact .other (by simpa using hfile) (by simpa using hdirectory)

theorem searchStart_rooted (h : m.Proper) (path : Option Text) : (searchStart m path).Rooted := by
  cases path with
  | none => exact h.cwd
  | some p =>
    have habsolute : (m.absolute p).Rooted := absolute_rooted h.cwd p
    unfold searchStart
    simp only
    split
    · exact habsolute.above (List.dropLast_prefix _)
    · exact habsolute

/-! ## The root that governs -/

/-- There is a settings file in a directory. -/
def Holds (m : Machine) (d : Path) : Prop :=
  ∃ bytes, m.files.node? (d.parts ++ [settingsFile]) = some (.file bytes)

/-- The deepest directory at or above a start with a settings file. -/
abbrev Governs (m : Machine) (start root : Path) : Prop := Deepest (Holds m) start root

theorem isName_settingsFile : IsName settingsFile := by decide

theorem fileIn_eq (hd : d.Rooted) :
    fileIn d = (⟨d.slashes, d.parts ++ [settingsFile]⟩ : Path).text :=
  joinText_text hd isName_settingsFile

theorem isFile_fileIn (h : m.Proper) (hd : d.Rooted) : m.isFile (fileIn d) = true ↔ Holds m d := by
  rw [fileIn_eq hd]
  exact h.files.isFile_text (hd.child isName_settingsFile) h.cwd

theorem findRoot?_eq_some (h : m.Proper) :
    findRoot? m path = some root ↔ Governs m (searchStart m path) root := by
  unfold findRoot?
  rw [find?_ancestors]
  exact Deepest.congr fun parts hparts => isFile_fileIn h ((searchStart_rooted h path).above hparts)

theorem findRoot?_eq_none (h : m.Proper) :
    findRoot? m path = none ↔
      ∀ parts, parts <+: (searchStart m path).parts →
        ¬ Holds m ⟨(searchStart m path).slashes, parts⟩ := by
  unfold findRoot?
  rw [find?_ancestors_eq_none]
  refine forall₂_congr fun parts hparts => ?_
  rw [← isFile_fileIn h ((searchStart_rooted h path).above hparts), Bool.not_eq_true]

/-! ## The settings that are loaded -/

/-- The path leads to a file or a directory; no path stands for the working directory. -/
def IsThere (m : Machine) : Option Text → Prop
  | none => True
  | some p => m.isFile p = true ∨ m.isDirectory p = true

/-- The text that bytes write down. -/
def textOf (bytes : List UInt8) : Except Failure Text :=
  match Utf8.decode bytes with
  | .ok s => .ok (Utf8.unifyNewlines s)
  | .error fault => .error (.encoding fault)

/-- The settings that the bytes of the settings file of a root write down. -/
def ofBytes (environment : Environment) (root : Path) (bytes : List UInt8) :
    Except Failure Settings := do
  let content ← textOf bytes
  let members ← parseFile (fileIn root) content
  ofJson environment members (some root.text) (fileIn root)

/-- The path of a settings file leads the search to the directory that holds it. -/
theorem findRoot?_settingsFile (h : m.Proper) {p : Text} (hfile : m.isFile p = true)
    (hname : baseName p = settingsFile) :
    findRoot? m (some p) = some (m.absolute p).parent := by
  have hstart : searchStart m (some p) = (m.absolute p).parent := if_pos hfile
  rw [findRoot?_eq_some h, hstart]
  obtain ⟨-, place, bytes, hplace, hnode⟩ := isFile_iff.mp hfile
  have hchild : m.files.node? ((m.absolute p).parent.parts ++ [settingsFile]) =
      some (.file bytes) := by
    obtain ⟨parts, hparts⟩ := absolute_baseName (s := p) h.cwd (hname ▸ isName_settingsFile)
    rw [← absolute_of_locate h.cwd hplace, hparts, hname] at hnode
    have hparent : (m.absolute p).parent.parts = parts := by
      show (absolute m.cwd.text p).parts.dropLast = parts
      rw [hparts, List.dropLast_concat]
    rw [hparent]
    exact hnode
  exact (deepest_self ⟨bytes, hchild⟩).mpr rfl

/-- The root that settings are asked for is the one that is found. -/
theorem rootFor_eq (h : m.Proper) (hthere : IsThere m path) :
    ∃ fault, rootFor m path = match findRoot? m path with
      | some root => .ok root
      | none => .error (.settingsMissing fault) := by
  cases path with
  | none => exact ⟨.fromHere, rfl⟩
  | some p =>
    unfold rootFor
    simp only
    by_cases hfile : m.isFile p = true
    · refine ⟨.fromFile p, ?_⟩
      rw [if_pos hfile]
      by_cases hname : baseName p = settingsFile
      · rw [if_pos (beq_iff_eq.mpr hname), findRoot?_settingsFile h hfile hname]
      · exact if_neg (by simpa using hname)
    · have hdirectory : m.isDirectory p = true := hthere.resolve_left hfile
      refine ⟨.fromDirectory p, ?_⟩
      rw [if_neg hfile]
      exact if_pos hdirectory

/-- The text of a file is that of the bytes at its place. -/
theorem readText_fileIn (h : m.Proper) (hd : d.Rooted)
    (hfile : m.files.node? (d.parts ++ [settingsFile]) = some (.file bytes)) :
    m.readText (fileIn d) = textOf bytes := by
  have hchild := hd.child isName_settingsFile
  have hnul : (fileIn d).contains '\x00' = false := by
    rw [fileIn_eq hd]
    simpa using h.files.nul_not_mem_text hchild (by simp) hfile
  have hread : m.files.read m.cwd.parts (fileIn d) = .ok bytes := by
    rw [fileIn_eq hd]
    exact h.files.read_text hchild hfile m.cwd.parts
  unfold Machine.readText Machine.opened textOf
  rw [hnul, hread]
  simp only [bind, Except.bind, Bool.false_eq_true, if_false]
  rcases Utf8.decode bytes with fault | s <;> rfl

theorem load_of_root (h : m.Proper) (hroot : rootFor m path = .ok root) (hrooted : root.Rooted)
    (hfile : m.files.node? (root.parts ++ [settingsFile]) = some (.file bytes)) :
    load m path = ofBytes m.environment root bytes := by
  unfold load ofBytes
  rw [hroot]
  simp only [bind, Except.bind]
  rw [readText_fileIn h hrooted hfile]

theorem load_of_error {f : Failure} (hroot : rootFor m path = .error f) :
    load m path = .error f := by
  unfold load
  rw [hroot]
  rfl

/-- Where a root governs, the settings are those of its file. -/
theorem load_governed (h : m.Proper) (hthere : IsThere m path)
    (hgoverns : Governs m (searchStart m path) root) :
    ∃ bytes, m.files.node? (root.parts ++ [settingsFile]) = some (.file bytes) ∧
      load m path = ofBytes m.environment root bytes := by
  obtain ⟨bytes, hfile⟩ := hgoverns.holds
  have hrooted : root.Rooted := by
    have habove := (searchStart_rooted h path).above hgoverns.above
    rwa [← hgoverns.slashes] at habove
  obtain ⟨fault, hroot⟩ := rootFor_eq h hthere
  rw [(findRoot?_eq_some h).mpr hgoverns] at hroot
  exact ⟨bytes, hfile, load_of_root h hroot hrooted hfile⟩

/-- Where the path leads nowhere or no root governs, there are no settings. -/
theorem load_missing (h : m.Proper) (hnot : ¬ IsThere m path ∨ findRoot? m path = none) :
    ∃ fault, load m path = .error (.settingsMissing fault) := by
  by_cases hthere : IsThere m path
  · obtain ⟨fault, hroot⟩ := rootFor_eq h hthere
    rw [hnot.resolve_left (not_not.mpr hthere)] at hroot
    exact ⟨fault, load_of_error hroot⟩
  · cases path with
    | none => exact absurd trivial hthere
    | some p =>
      obtain ⟨hfile, hdirectory⟩ := not_or.mp hthere
      have hroot : rootFor m (some p) = .error (.settingsMissing (.noSuchPath p)) := by
        unfold rootFor
        simp only
        rw [if_neg hfile, if_neg hdirectory]
      exact ⟨_, load_of_error hroot⟩

/-- The failures to find a file, as editors are told them. -/
theorem kind_eq_missing {f : Failure} :
    f.kind = "FileNotFoundError" ↔ f.isMissingFile = true := by
  constructor
  · intro h
    unfold Failure.kind at h
    split at h
    case h_4 => rfl
    case h_5 => rfl
    all_goals exact absurd h (by decide)
  · intro h
    unfold Failure.isMissingFile at h
    split at h
    · rfl
    · rfl
    · cases h

theorem refusal_found (source : Text) (fault : SettingFault) :
    (refusal source fault).isMissingFile = false := by
  unfold refusal
  split
  · split <;> rfl
  · rfl

/-- No settings file that is there is missing, whatever is wrong with what it holds. -/
theorem ofBytes_found (environment : Environment) (root : Path) (bytes : List UInt8) :
    Op.FailsAs (fun f => f.isMissingFile = false) (ofBytes environment root bytes) := by
  have htext : Op.FailsAs (fun f => f.isMissingFile = false) (textOf bytes) := by
    unfold textOf
    split
    · exact .ok _
    · exact .error rfl
  have hparse (content : Text) :
      Op.FailsAs (fun f => f.isMissingFile = false) (parseFile (fileIn root) content) := by
    unfold parseFile
    split
    · exact .ok _
    · split
      · exact .ok _
      all_goals exact .error rfl
  refine .bind htext fun content _ => .bind (hparse content) fun members _ f hf => ?_
  rcases ofJson_resolves environment members (some root.text) (fileIn root) with
    ⟨before, s, after, -, -, -, hrefused⟩ | ⟨-, ⟨settings, hok, -⟩ | ⟨n, -, -, hlarge⟩⟩
  · cases hf.symm.trans hrefused
    exact refusal_found _ _
  · cases hf.symm.trans hok
  · cases hf.symm.trans hlarge
    rfl

/-- The settings know the root that they come from. -/
theorem ofBytes_projectRoot {environment : Environment} {settings : Settings}
    (h : ofBytes environment root bytes = .ok settings) :
    settings.projectRoot = some root.text := by
  unfold ofBytes at h
  rcases htext : textOf bytes with f | content
  · rw [htext] at h
    cases h
  · rcases hparse : parseFile (fileIn root) content with f | members
    · simp only [bind, Except.bind, htext, hparse] at h
      cases h
    · simp only [bind, Except.bind, htext, hparse] at h
      rcases ofJson_resolves environment members (some root.text) (fileIn root) with
        ⟨before, s, after, -, -, -, hrefused⟩ | ⟨-, ⟨found, hok, htaken⟩ | ⟨n, -, -, hlarge⟩⟩
      · cases h.symm.trans hrefused
      · cases h.symm.trans hok
        exact htaken.projectRoot
      · cases h.symm.trans hlarge

/-- The root that is found is the deepest directory at or above the start with a settings file, and
none is found if and only if there is none. Settings are loaded from that file if the path leads to
a file or a directory. Otherwise, and where no directory governs, a file is missing, and never in
any other case. -/
theorem nearest_governs (h : m.Proper) (path : Option Text) :
    ∃ start, Starts m path start ∧
      (∀ root, findRoot? m path = some root ↔ Governs m start root) ∧
      (findRoot? m path = none ↔
        ∀ parts, parts <+: start.parts → ¬ Holds m ⟨start.slashes, parts⟩) ∧
      (∀ root, IsThere m path → Governs m start root →
        ∃ bytes, m.files.node? (root.parts ++ [settingsFile]) = some (.file bytes) ∧
          load m path = ofBytes m.environment root bytes ∧
          ∀ settings, load m path = .ok settings → settings.projectRoot = some root.text) ∧
      ((∃ f, load m path = .error f ∧ f.kind = "FileNotFoundError") ↔
        ¬ IsThere m path ∨
          ∀ parts, parts <+: start.parts → ¬ Holds m ⟨start.slashes, parts⟩) := by
  refine ⟨searchStart m path, starts_searchStart h path, fun root => findRoot?_eq_some h,
    findRoot?_eq_none h, fun root hthere hgoverns => ?_, ?_⟩
  · obtain ⟨bytes, hfile, hload⟩ := load_governed h hthere hgoverns
    refine ⟨bytes, hfile, hload, fun settings hsettings => ?_⟩
    rw [hload] at hsettings
    exact ofBytes_projectRoot hsettings
  · rw [← findRoot?_eq_none h]
    constructor
    · rintro ⟨f, hload, hkind⟩
      by_contra hnot
      obtain ⟨hthere, hfound⟩ := not_or.mp hnot
      obtain ⟨root, hroot⟩ := Option.ne_none_iff_exists'.mp hfound
      obtain ⟨bytes, -, hbytes⟩ :=
        load_governed h (not_not.mp hthere) ((findRoot?_eq_some h).mp hroot)
      rw [hbytes] at hload
      have hfails : f.isMissingFile = false := ofBytes_found m.environment root bytes f hload
      cases (kind_eq_missing.mp hkind).symm.trans hfails
    · intro hnot
      obtain ⟨fault, hload⟩ := load_missing h hnot
      exact ⟨_, hload, rfl⟩

/-- A machine whose settings file lies two directories up from a file, with a directory on the way
that has the name of a settings file. -/
def nestedMachine : Machine where
  files := ⟨[(["p".toList, ".jsrepl.json".toList], .file (Utf8.encode "{}")),
    (["p".toList, "a".toList, ".jsrepl.json".toList], .directory),
    (["p".toList, "a".toList, "b".toList, "c.js".toList], .file [])]⟩
  cwd := ⟨1, ["p".toList, "a".toList]⟩
  environment := []
  shell := fun _ => .noShell
  commands := []

/-- The settings of a file, and of a directory with the name of a settings file, are those two
directories up; a path that leads nowhere has none. -/
theorem nearest_governs_nestedMachine :
    nestedMachine.Proper ∧
    (∀ path ∈ ["../a/./b/c.js".toList, "//p/a/.jsrepl.json/".toList],
      ∃ start root settings, Starts nestedMachine (some path) start ∧
        Governs nestedMachine start root ∧ root.parts = ["p".toList] ∧
        load nestedMachine (some path) = .ok settings ∧
        settings.projectRoot = some root.text) ∧
    ∃ f, load nestedMachine (some "b/d.js") = .error f ∧ f.kind = "FileNotFoundError" := by
  have hproper : nestedMachine.Proper := ⟨by decide, .inl rfl, by decide⟩
  have hfound : ∀ path ∈ ["../a/./b/c.js".toList, "//p/a/.jsrepl.json/".toList],
      (nestedMachine.isFile path = true ∨ nestedMachine.isDirectory path = true) ∧
        (findRoot? nestedMachine (some path)).map Path.parts = some ["p".toList] ∧
        (load nestedMachine (some path)).toOption.isSome = true := by decide +kernel
  refine ⟨hproper, fun path hpath => ?_, ?_⟩
  · obtain ⟨hthere, hroot, hload⟩ := hfound path hpath
    obtain ⟨start, hstart, hgoverns, -, hsettings, -⟩ := nearest_governs hproper (some path)
    obtain ⟨root, hroot, hparts⟩ := Option.map_eq_some_iff.mp hroot
    obtain ⟨bytes, -, -, hprojectRoot⟩ := hsettings root hthere ((hgoverns root).mp hroot)
    rcases hloaded : load nestedMachine (some path) with f | settings
    · rw [hloaded] at hload
      cases hload
    · exact ⟨start, root, settings, hstart, (hgoverns root).mp hroot, hparts, rfl,
        hprojectRoot settings hloaded⟩
  · obtain ⟨start, -, -, -, -, hmissing⟩ := nearest_governs hproper (some "b/d.js")
    have hnowhere : nestedMachine.isFile "b/d.js" = false ∧
        nestedMachine.isDirectory "b/d.js" = false := by decide +kernel
    refine hmissing.mpr (.inl fun hthere => ?_)
    rcases hthere with hfile | hdirectory
    · cases hfile.symm.trans hnowhere.1
    · cases hdirectory.symm.trans hnowhere.2

end

end ReplDriver.Settings
