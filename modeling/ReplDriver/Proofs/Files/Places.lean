import ReplDriver.Files.Machine
import ReplDriver.Proofs.Files.Paths

/-!
# Where paths lead

In a proper tree whatever stands at a place stands in a directory, under a name. So the path of a
place, written in normal form, leads there. The other way round, wherever a path leads by following
its components one by one, its normal form has the same components: there is nothing on the way that
could lead elsewhere.

* `FileTree.absolute_of_locate`: a path leads to the components of its normal form.
* `FileTree.Proper.read_text`, `FileTree.Proper.isFile_text`: what the path of a place in normal
  form leads to.
-/

namespace ReplDriver.FileTree

open ReplDriver.Path

variable {t : FileTree} {place place' parts pieces : List Text} {part s : Text} {n : Node}
  {cwd p : Path}

/-! ## Proper trees -/

/-- A tree as a system has it: what is below something is below a directory, everything below the
root has a name of its own, and paths lead to all files. -/
structure Proper (t : FileTree) : Prop where
  root : ∀ e ∈ t.entries, e.1 = [] → e.2 = .directory
  above : ∀ e ∈ t.entries, ∀ e' ∈ t.entries, e.1 <+: e'.1 → e.1 = e'.1 ∨ e.2 = .directory
  names : ∀ e ∈ t.entries, ∀ part ∈ e.1,
    IsName part ∧ '\x00' ∉ part ∧ byteLength part ≤ nameLimit
  fits : ∀ e ∈ t.entries, byteLength (Path.text ⟨2, e.1⟩) ≤ pathLimit

instance (t : FileTree) : Decidable t.Proper :=
  decidable_of_iff
    ((∀ e ∈ t.entries, e.1 = [] → e.2 = .directory) ∧
      (∀ e ∈ t.entries, ∀ e' ∈ t.entries, e.1 <+: e'.1 → e.1 = e'.1 ∨ e.2 = .directory) ∧
      (∀ e ∈ t.entries, ∀ part ∈ e.1,
        IsName part ∧ '\x00' ∉ part ∧ byteLength part ≤ nameLimit) ∧
      ∀ e ∈ t.entries, byteLength (Path.text ⟨2, e.1⟩) ≤ pathLimit)
    ⟨fun ⟨hroot, habove, hnames, hfits⟩ => ⟨hroot, habove, hnames, hfits⟩,
      fun h => ⟨h.root, h.above, h.names, h.fits⟩⟩

theorem mem_of_lookup (h : t.entries.lookup parts = some n) : (parts, n) ∈ t.entries := by
  obtain ⟨before, after, hentries, -⟩ := List.lookup_eq_some_iff.mp h
  rw [hentries]
  exact List.mem_append_right before List.mem_cons_self

/-- What stands at a place is an entry, or it is a directory because of what is below it. -/
theorem node?_cases (h : t.node? parts = some n) :
    (parts, n) ∈ t.entries ∨
      n = .directory ∧ (parts = [] ∨ ∃ e ∈ t.entries, parts <+: e.1) := by
  unfold node? at h
  split at h
  · next m hm =>
    cases h
    exact .inl (mem_of_lookup hm)
  · split at h
    · next hsome =>
      cases h
      refine .inr ⟨rfl, ?_⟩
      rcases Bool.or_eq_true_iff.mp hsome with hroot | hbelow
      · exact .inl (List.isEmpty_iff.mp hroot)
      · obtain ⟨e, he, hprefix⟩ := List.any_eq_true.mp hbelow
        exact .inr ⟨e, he, List.isPrefixOf_iff_prefix.mp hprefix⟩
    · cases h

/-- What stands at a place below the root is at or above an entry. -/
theorem exists_entry (hne : parts ≠ []) (h : t.node? parts = some n) :
    ∃ e ∈ t.entries, parts <+: e.1 := by
  rcases node?_cases h with hentry | ⟨-, hroot | hbelow⟩
  · exact ⟨_, hentry, List.prefix_rfl⟩
  · exact absurd hroot hne
  · exact hbelow

theorem Proper.node?_root (h : t.Proper) : t.node? [] = some .directory := by
  unfold node?
  split
  · next n hn => exact congrArg some (h.root ([], n) (mem_of_lookup hn) rfl)
  · rfl

/-- What stands at a place stands in a directory. -/
theorem Proper.directory (h : t.Proper) (hnode : t.node? (place ++ part :: parts) = some n) :
    t.node? place = some .directory := by
  obtain ⟨e, he, hbelow⟩ := exists_entry (by simp) hnode
  have hprefix : place <+: e.1 := (List.prefix_append place _).trans hbelow
  unfold node?
  split
  · next m hm =>
    rcases h.above (place, m) (mem_of_lookup hm) e he hprefix with hsame | hdirectory
    · have hlength := hbelow.length_le
      simp only [← hsame, List.length_append, List.length_cons] at hlength
      omega
    · exact congrArg some hdirectory
  · rw [if_pos]
    refine Bool.or_eq_true_iff.mpr (.inr ?_)
    exact List.any_eq_true.mpr ⟨e, he, List.isPrefixOf_iff_prefix.mpr hprefix⟩

/-- It has a name there. -/
theorem Proper.name (h : t.Proper) (hnode : t.node? parts = some n) (hpart : part ∈ parts) :
    IsName part ∧ '\x00' ∉ part ∧ byteLength part ≤ nameLimit := by
  obtain ⟨e, he, hbelow⟩ := exists_entry (List.ne_nil_of_mem hpart) hnode
  exact h.names e he part (hbelow.subset hpart)

/-! ## Following components -/

/-- A name leads on from a directory. -/
theorem walk_name (hplace : t.node? place = some .directory) (hname : IsName part)
    (hlength : byteLength part ≤ nameLimit) (rest : List Text) :
    t.walk place (part :: rest) = t.walk (place ++ [part]) rest := by
  have hstay : (part == [] || part == ".".toList) = false := by
    simp only [Bool.or_eq_false_iff, beq_eq_false_iff_ne]
    exact ⟨hname.nonempty, hname.notHere⟩
  have habove : (part == "..".toList) = false := beq_eq_false_iff_ne.mpr hname.notAbove
  rw [walk, hplace, hstay, habove]
  simp only [Bool.false_eq_true, if_false]
  rw [if_neg (by omega)]

/-- Empty components stay at a directory. -/
theorem walk_empties (hplace : t.node? place = some .directory) (k : Nat) (rest : List Text) :
    t.walk place (List.replicate k [] ++ rest) = t.walk place rest := by
  induction k with
  | zero => rfl
  | succ k ih =>
    rw [List.replicate_succ, List.cons_append, walk, hplace]
    exact ih

/-- The components of a place lead there. -/
theorem Proper.walk (h : t.Proper) (hnode : t.node? (place ++ parts) = some n) :
    t.walk place parts = .ok (place ++ parts) := by
  induction parts generalizing place with
  | nil => rw [FileTree.walk, List.append_nil]
  | cons part parts ih =>
    have hmem : part ∈ place ++ part :: parts := by simp
    obtain ⟨hname, -, hlength⟩ := h.name hnode hmem
    rw [walk_name (h.directory hnode) hname hlength]
    have hsplit : place ++ part :: parts = (place ++ [part]) ++ parts := by simp
    rw [hsplit] at hnode ⊢
    exact ih hnode

/-- Wherever components lead, pushing them leads as well. -/
theorem foldl_push_walk (hplace : "..".toList ∉ place) (h : t.walk place pieces = .ok place') :
    pieces.foldl (push true) place.reverse = place'.reverse := by
  induction pieces generalizing place with
  | nil =>
    rw [FileTree.walk] at h
    cases h
    rfl
  | cons piece pieces ih =>
    rw [FileTree.walk] at h
    rw [List.foldl_cons]
    split at h
    · cases h
    · cases h
    · cases h
    · -- only a directory is left for somewhere else
      split at h
      · next hstay =>
        have hpush : push true place.reverse piece = place.reverse := by
          unfold Path.push
          rw [if_pos hstay]
        rw [hpush]
        exact ih hplace h
      · next hstay =>
        split at h
        · next habove =>
          have hreverse : "..".toList ∉ place.reverse := fun hmem =>
            hplace (List.mem_reverse.mp hmem)
          rw [beq_iff_eq.mp habove, push_above _ hreverse, List.tail_reverse]
          exact ih (fun hmem => hplace (List.dropLast_subset place hmem)) h
        · next habove =>
          split at h
          · cases h
          · have hpush : push true place.reverse piece = (place ++ [piece]).reverse := by
              unfold Path.push
              rw [if_neg hstay, if_neg habove, List.reverse_concat]
            rw [hpush]
            refine ih (fun hmem => ?_) h
            rcases List.mem_append.mp hmem with hmem | hmem
            · exact hplace hmem
            · exact habove (beq_iff_eq.mpr (List.mem_singleton.mp hmem).symm)

/-! ## Paths -/

/-- Where the text of a path leads, its normal form leads as well. -/
theorem absolute_of_locate (hcwd : cwd.Rooted) (h : t.locate cwd.parts s = .ok place) :
    (absolute cwd.text s).parts = place := by
  unfold locate at h
  split at h
  · cases h
  · split at h
    · cases h
    · have horigin : "..".toList ∉ origin cwd.parts s := by
        unfold origin
        split
        · exact List.not_mem_nil
        · exact fun hmem => (hcwd.names _ hmem).notAbove rfl
      rw [absolute_parts hcwd]
      exact List.reverse_eq_iff.mpr (foldl_push_walk horigin h)

theorem byteLength_append (s s' : Text) : byteLength (s ++ s') = byteLength s + byteLength s' := by
  have hfrom (n : Nat) :
      s'.foldl (fun n c => n + c.utf8Size) n = n + s'.foldl (fun n c => n + c.utf8Size) 0 := by
    induction s' generalizing n with
    | nil => rfl
    | cons c s' ih =>
      rw [List.foldl_cons, List.foldl_cons, ih, ih (0 + _), Nat.zero_add, Nat.add_assoc]
  unfold byteLength
  rw [List.foldl_append, hfrom]

/-- The path of a file is not too long. -/
theorem Proper.byteLength_text {bytes : List UInt8} (h : t.Proper) (hp : p.Rooted)
    (hnode : t.node? p.parts = some (.file bytes)) : byteLength p.text ≤ pathLimit := by
  rcases node?_cases hnode with hentry | ⟨hdirectory, -⟩
  · have hfits := h.fits _ hentry
    have htwo : Rooted ⟨2, p.parts⟩ := ⟨.inr rfl, hp.names⟩
    rw [htwo.text_eq, byteLength_append] at hfits
    rw [hp.text_eq, byteLength_append]
    -- the path with a second slash fits as well
    rcases hp.slashes with hone | htwo
    · have hslash : byteLength (List.replicate 1 '/') ≤ byteLength (List.replicate 2 '/') := by
        decide
      rw [hone]
      exact (Nat.add_le_add_right hslash _).trans hfits
    · rw [htwo]
      exact hfits
  · cases hdirectory

/-- A path in normal form that is not a root is cut into slashes and names. -/
theorem locate_text (hp : p.Rooted) (hne : p.parts ≠ []) (hlength : byteLength p.text ≤ pathLimit)
    (hroot : t.node? [] = some .directory) (cwd : List Text) :
    t.locate cwd p.text = t.walk [] p.parts := by
  have habsolute : Path.isAbsoluteText p.text = true := by
    have h := hp.isAbsoluteText []
    rwa [List.append_nil] at h
  unfold locate origin
  rw [if_neg (by omega), hp.text_isEmpty, if_pos habsolute, hp.splitOn_text hne]
  exact walk_empties hroot p.slashes p.parts

/-- The path of a file leads to it. -/
theorem Proper.locate_text {bytes : List UInt8} (h : t.Proper) (hp : p.Rooted)
    (hnode : t.node? p.parts = some (.file bytes)) (cwd : List Text) :
    t.locate cwd p.text = .ok p.parts := by
  have hne : p.parts ≠ [] := by
    intro hnil
    rw [hnil, h.node?_root] at hnode
    cases hnode
  rw [FileTree.locate_text hp hne (h.byteLength_text hp hnode) h.node?_root]
  rw [← List.nil_append p.parts] at hnode
  exact h.walk hnode

theorem Proper.read_text {bytes : List UInt8} (h : t.Proper) (hp : p.Rooted)
    (hnode : t.node? p.parts = some (.file bytes)) (cwd : List Text) :
    t.read cwd p.text = .ok bytes := by
  unfold read
  rw [h.locate_text hp hnode]
  simp only [bind, Except.bind, hnode]
  rfl

/-- The path of what stands in a tree holds no NUL. -/
theorem Proper.nul_not_mem_text (h : t.Proper) (hp : p.Rooted) (hne : p.parts ≠ [])
    (hnode : t.node? p.parts = some n) : '\x00' ∉ p.text := by
  intro hnul
  rcases Text.mem_splitOn '/' hnul with hslash | ⟨piece, hpiece, hmem⟩
  · cases hslash
  · rw [hp.splitOn_text hne] at hpiece
    rcases List.mem_append.mp hpiece with hempty | hpart
    · rw [List.eq_of_mem_replicate hempty] at hmem
      cases hmem
    · exact (h.name hnode hpart).2.1 hmem

theorem leadsTo_iff {cwd : List Text} {kind : Node → Bool} :
    t.leadsTo cwd s kind = true ↔ '\x00' ∉ s ∧
      ∃ place n, t.locate cwd s = .ok place ∧ t.node? place = some n ∧ kind n = true := by
  unfold leadsTo
  rcases t.locate cwd s with fault | place
  · simp
  · rcases hnode : t.node? place with _ | n
    · simp [hnode]
    · simp [hnode]

theorem isFile_iff {cwd : List Text} :
    t.isFile cwd s = true ↔ '\x00' ∉ s ∧
      ∃ place bytes, t.locate cwd s = .ok place ∧ t.node? place = some (.file bytes) := by
  rw [isFile, leadsTo_iff]
  refine and_congr_right fun _ => exists_congr fun place => ?_
  constructor
  · rintro ⟨n, hplace, hnode, hkind⟩
    cases n with
    | file bytes => exact ⟨bytes, hplace, hnode⟩
    | directory => cases hkind
    | void => cases hkind
  · rintro ⟨bytes, hplace, hnode⟩
    exact ⟨_, hplace, hnode, rfl⟩

theorem isDirectory_iff {cwd : List Text} :
    t.isDirectory cwd s = true ↔ '\x00' ∉ s ∧
      ∃ place, t.locate cwd s = .ok place ∧ t.node? place = some .directory := by
  rw [isDirectory, leadsTo_iff]
  refine and_congr_right fun _ => exists_congr fun place => ?_
  constructor
  · rintro ⟨n, hplace, hnode, hkind⟩
    cases n with
    | file bytes => cases hkind
    | directory => exact ⟨hplace, hnode⟩
    | void => cases hkind
  · rintro ⟨hplace, hnode⟩
    exact ⟨_, hplace, hnode, rfl⟩

/-- A path in normal form leads to a file if and only if one stands at its place. -/
theorem Proper.isFile_text (h : t.Proper) (hp : p.Rooted) (hcwd : cwd.Rooted) :
    t.isFile cwd.parts p.text = true ↔ ∃ bytes, t.node? p.parts = some (.file bytes) := by
  rw [isFile_iff]
  constructor
  · rintro ⟨-, place, bytes, hplace, hfile⟩
    rw [← absolute_of_locate hcwd hplace, absolute_text hp] at hfile
    exact ⟨bytes, hfile⟩
  · rintro ⟨bytes, hfile⟩
    have hne : p.parts ≠ [] := by
      intro hnil
      rw [hnil, h.node?_root] at hfile
      cases hfile
    exact ⟨h.nul_not_mem_text hp hne hfile, p.parts, bytes, h.locate_text hp hfile cwd.parts, hfile⟩

end ReplDriver.FileTree

namespace ReplDriver

/-- A machine with a proper tree of files, and a working directory in normal form. -/
structure Machine.Proper (m : Machine) : Prop where
  files : m.files.Proper
  cwd : m.cwd.Rooted

end ReplDriver
