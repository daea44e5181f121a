import CelWatch.Proofs.Files.Descent
import CelWatch.Settings.Discovery
import Mathlib.Data.List.Find

/-!
Which settings file counts for a directory. The two searches are one: the
directory and those above it stand before the ones inside it, and the first that
holds a settings file is taken, whatever is said there. What the files are is a
tree; the system may still refuse to read one.
-/

namespace CelWatch

open FilePath

namespace FileTree

/-- Every directory has names for its entries, each once. -/
inductive Proper : FileTree → Prop where
  | file (content : List UInt8) : Proper (.file content)
  | directory {entries : List (List UInt8 × FileTree)} (nodup : (entries.map Prod.fst).Nodup)
      (isName : ∀ entry ∈ entries, IsName entry.1) (proper : ∀ entry ∈ entries, Proper entry.2) :
      Proper (.directory entries)

/-- The content of a file; a directory has none. -/
def content? : FileTree → Option (List UInt8)
  | .file content => some content
  | .directory _ => none

/-- The content of the settings file in the directory at some names. -/
def settingsIn? (tree : FileTree) (names : List (List UInt8)) : Option (List UInt8) :=
  (tree.at? (names ++ [Settings.fileName])).bind content?

section Entries

variable {tree next : FileTree} {entries : List (List UInt8 × FileTree)} {name : List UInt8}
  {names : List (List UInt8)} {path : FilePath}

theorem child?_mem (h : tree.child? name = some next) : (name, next) ∈ tree.entries := by
  obtain ⟨entry, hfind, rfl⟩ := Option.map_eq_some_iff.mp h
  have hname : entry.1 = name := by simpa using List.find?_some hfind
  have hmem := List.mem_of_find?_eq_some hfind
  rwa [← hname]

theorem child?_of_mem (hnodup : (entries.map Prod.fst).Nodup) (hmem : (name, next) ∈ entries) :
    (directory entries).child? name = some next := by
  induction entries with
  | nil => cases hmem
  | cons entry rest ih =>
      obtain ⟨hfirst, hrest⟩ := List.nodup_cons.mp hnodup
      rcases List.mem_cons.mp hmem with rfl | hlater
      · simp [child?, FileTree.entries]
      · have hother : entry.1 ≠ name := by
          rintro rfl
          exact hfirst (List.mem_map.mpr ⟨_, hlater, rfl⟩)
        rw [← ih hrest hlater]
        simp [child?, FileTree.entries, hother]

theorem Proper.child (h : tree.Proper) (hchild : tree.child? name = some next) : next.Proper := by
  cases h with
  | file content => cases hchild
  | directory nodup isName proper => exact proper _ (child?_mem hchild)

theorem Proper.at? (h : tree.Proper) (hat : tree.at? names = some next) : next.Proper := by
  induction names generalizing tree with
  | nil =>
      cases hat
      exact h
  | cons name names ih =>
      obtain ⟨inside, hchild, hrest⟩ := Option.bind_eq_some_iff.mp hat
      exact ih (h.child hchild) hrest

end Entries

end FileTree

namespace FileAccess

open FileTree

/-- The answers come from a tree. The directories inside one come in any order,
and the system may refuse to read any file. -/
structure Serves (files : FileAccess Id) (tree : FileTree) : Prop where
  isFile : ∀ path, files.isFile path = tree.access.isFile path
  subdirectories : ∀ path, List.Perm (files.subdirectories path) (tree.access.subdirectories path)
  read : ∀ path content, files.read path = .ok content → tree.get? path = some (.file content)

theorem serves_access (tree : FileTree) : tree.access.Serves tree where
  isFile path := rfl
  subdirectories path := List.Perm.refl _
  read path content h := by
    simp only [access] at h
    split at h
    · next held hget =>
      cases h
      exact hget
    · cases h
    · cases h

end FileAccess

namespace Settings

open FileTree

/-- The settings in the content of a file: the defaults where the system refused
to read it or it does not parse. -/
def said (readable : Bool) (content : List UInt8) : Settings :=
  if readable then (ofBytes content).toOption.getD default else default

theorem fileName_eq : fileName = [0x73, 0x65, 0x74, 0x74, 0x69, 0x6E, 0x67, 0x73, 0x2E, 0x74, 0x6F,
    0x6D, 0x6C] := by
  rw [fileName, Text.encode_eq_flatMap]
  rfl

theorem fileName_isName : IsName fileName := by
  rw [fileName_eq]
  constructor
  · decide
  · exact ⟨by decide, by decide⟩
  · decide

section Search

variable {files : FileAccess Id} {tree : FileTree} {start directory : FilePath}
  {names : List (List UInt8)} {name content : List UInt8}

/-- Whether a directory holds a settings file. -/
def holds (files : FileAccess Id) (directory : FilePath) : Bool :=
  files.isFile (directory.join fileName)

/-- The directories in one, in the order in which they are listed. -/
def inside (files : FileAccess Id) (start : FilePath) : List FilePath :=
  files.subdirectories start

theorem firstHolder?_eq (directories : List FilePath) :
    firstHolder? files directories = directories.find? (holds files) := by
  induction directories with
  | nil => rfl
  | cons directory rest ih =>
      have hstep : firstHolder? files (directory :: rest) =
          if holds files directory then some directory else firstHolder? files rest := rfl
      rw [hstep, List.find?_cons, ih]
      cases holds files directory with
      | true => rfl
      | false => rfl

/-- The search upwards and the one inside are one search. -/
theorem discover_eq :
    discover files start =
      ((start.ancestors ++ inside files start).find? (holds files)).elim ⟨default, start, []⟩
        fun holder => loadFrom files holder := by
  have hsearch : discover files start =
      match firstHolder? files start.ancestors with
      | some holder => loadFrom files holder
      | none => match firstHolder? files (inside files start) with
        | some holder => loadFrom files holder
        | none => ⟨default, start, []⟩ := rfl
  rw [hsearch, firstHolder?_eq, firstHolder?_eq, List.find?_append]
  cases start.ancestors.find? (holds files) with
  | some holder => rfl
  | none =>
      cases (inside files start).find? (holds files) with
      | some holder => rfl
      | none => rfl

theorem holds_eq (hserves : files.Serves tree) (hplain : directory.IsPlain) :
    holds files directory = (tree.settingsIn? directory.names).isSome := by
  have hget : tree.get? (directory.join fileName) = tree.at? (directory.names ++ [fileName]) :=
    get?_join hplain fileName_isName
  have hholds : holds files directory = tree.access.isFile (directory.join fileName) :=
    hserves.isFile _
  rw [hholds, settingsIn?, ← hget]
  simp only [access]
  cases tree.get? (directory.join fileName) with
  | none => rfl
  | some found =>
      cases found with
      | file content => rfl
      | directory entries => rfl

/-- What is found is what is said in the settings file of the directory at some
names. -/
structure Discovery.Tells (found : Discovery) (files : FileAccess Id) (tree : FileTree)
    (names : List (List UInt8)) : Prop where
  plain : found.directory.IsPlain
  names_eq : found.directory.names = names
  settings : ∃ content, tree.settingsIn? names = some content ∧
    found.settings = said (files.read (found.directory.join fileName)).isOk content

theorem loadFrom_tells (hserves : files.Serves tree) (hplain : directory.IsPlain)
    (hholds : holds files directory = true) :
    (loadFrom files directory).Tells files tree directory.names := by
  rw [holds_eq hserves hplain] at hholds
  obtain ⟨content, hcontent⟩ := Option.isSome_iff_exists.mp hholds
  refine ⟨hplain, rfl, content, hcontent, ?_⟩
  have hloaded : (loadFrom files directory).settings =
      (orDefault (directory.join fileName) (ofContent (files.read (directory.join fileName)))).1 :=
    rfl
  rw [hloaded]
  change _ = said (files.read (directory.join fileName)).isOk content
  cases hread : (files.read (directory.join fileName) : Except ReadFault (List UInt8)) with
  | error cause => rfl
  | ok bytes =>
      have hget := hserves.read _ _ hread
      rw [get?_join hplain fileName_isName] at hget
      obtain rfl : bytes = content := by
        rw [settingsIn?, hget] at hcontent
        exact Option.some.inj hcontent
      simp only [said, ofContent]
      cases ofBytes bytes with
      | ok settings => rfl
      | error fault => rfl

/-- The directories inside are those of the entries that are no files. -/
theorem mem_inside_iff (hserves : files.Serves tree) (hproper : tree.Proper)
    (hstart : start.IsPlain) :
    directory ∈ inside files start ↔
      ∃ name entries, IsName name ∧ tree.at? (start.names ++ [name]) = some (.directory entries) ∧
        directory = start.join name := by
  have hsame : directory ∈ inside files start ↔ directory ∈ inside tree.access start :=
    (hserves.subdirectories start).mem_iff
  rw [hsame]
  constructor
  · intro member
    simp only [inside, access] at member
    split at member
    · next entries hget =>
      rw [get?_eq_directory_iff hstart] at hget
      obtain ⟨entry, hentry, rfl⟩ := List.mem_map.mp member
      obtain ⟨hmem, hdirectory⟩ := List.mem_filter.mp hentry
      obtain ⟨name, next⟩ := entry
      cases hproper.at? hget with
      | directory nodup isName proper =>
          cases next with
          | file content => cases hdirectory
          | directory within =>
              refine ⟨name, within, isName _ hmem, ?_, rfl⟩
              rw [at?_concat, hget]
              exact child?_of_mem nodup hmem
    · cases member
  · rintro ⟨name, within, hname, hat, rfl⟩
    rw [at?_concat] at hat
    obtain ⟨here, hhere, hchild⟩ := Option.bind_eq_some_iff.mp hat
    have hmem := child?_mem hchild
    cases here with
    | file content => cases hmem
    | directory entries =>
        simp only [inside, access, (get?_eq_directory_iff hstart).mpr hhere]
        exact List.mem_map.mpr ⟨_, List.mem_filter.mpr ⟨hmem, rfl⟩, rfl⟩

/-- A settings file one level down is in a directory inside. -/
theorem mem_inside_of_settingsIn? (hserves : files.Serves tree) (hproper : tree.Proper)
    (hstart : start.IsPlain) (hcontent : tree.settingsIn? (start.names ++ [name]) = some content) :
    IsName name ∧ start.join name ∈ inside files start := by
  obtain ⟨file, hfile, _⟩ := Option.bind_eq_some_iff.mp hcontent
  rw [at?_concat] at hfile
  obtain ⟨holder, hholder, hchild⟩ := Option.bind_eq_some_iff.mp hfile
  have hentry := hholder
  rw [at?_concat] at hentry
  obtain ⟨here, hhere, hname⟩ := Option.bind_eq_some_iff.mp hentry
  have hisName : IsName name := by
    cases hproper.at? hhere with
    | file content => cases hname
    | directory nodup isName proper => exact isName _ (child?_mem hname)
  cases holder with
  | file content => cases hchild
  | directory entries =>
      refine ⟨hisName, (mem_inside_iff hserves hproper hstart).mpr ?_⟩
      exact ⟨name, entries, hisName, hholder, rfl⟩

theorem inside_spec (hserves : files.Serves tree) (hproper : tree.Proper) (hstart : start.IsPlain)
    (member : directory ∈ inside files start) :
    directory.IsPlain ∧ ∃ name, directory = start.join name ∧
      directory.names = start.names ++ [name] := by
  obtain ⟨name, _, hname, _, rfl⟩ := (mem_inside_iff hserves hproper hstart).mp member
  exact ⟨hstart.join hname, name, rfl, hstart.join_names hname⟩

/-- The directories above hold what those of the beginnings of the names do. -/
theorem find?_ancestors (hserves : files.Serves tree) (hstart : start.IsPlain) :
    (start.ancestors.find? (holds files)).map FilePath.names =
      (start.names.reverse.tails.find? fun names =>
        (tree.settingsIn? names.reverse).isSome).map List.reverse := by
  obtain ⟨hplain, hnames⟩ := hstart.ancestors_spec
  have hholds : ∀ directory ∈ start.ancestors, holds files directory =
      ((fun names => (tree.settingsIn? names).isSome) ∘ FilePath.names) directory :=
    fun directory member => holds_eq hserves (hplain directory member)
  rw [List.find?_congr hholds, ← List.find?_map, hnames, List.find?_map]
  rfl

end Search

section Tails

variable {α : Type} {whole tail : List α} {p : List α → Bool}

/-- The first tail that passes is the longest one. -/
theorem find?_tails (htail : tail <:+ whole) (hp : p tail = true)
    (hlonger : ∀ longer, longer <:+ whole → tail.length < longer.length → p longer = false) :
    whole.tails.find? p = some tail := by
  induction whole with
  | nil =>
      obtain rfl := List.suffix_nil.mp htail
      simp [hp]
  | cons first rest ih =>
      rw [List.tails_cons, List.find?_cons]
      rcases List.suffix_cons_iff.mp htail with rfl | hrest
      · rw [hp]
      · have hwhole : p (first :: rest) = false :=
          hlonger _ (List.suffix_refl _) (Nat.lt_succ_of_le hrest.length_le)
        rw [hwhole]
        apply ih hrest
        intro longer hsuffix hlength
        exact hlonger longer (hsuffix.trans (List.suffix_cons first rest)) hlength

end Tails

section Nearest

variable {files : FileAccess Id} {tree : FileTree} {start : FilePath}

theorem discover_above (hserves : files.Serves tree) (hstart : start.IsPlain)
    {above : List (List UInt8)} {content : List UInt8} (habove : above <+: start.names)
    (hcontent : tree.settingsIn? above = some content)
    (hnearer : ∀ nearer, nearer <+: start.names → above.length < nearer.length →
      tree.settingsIn? nearer = none) :
    (discover files start).Tells files tree above ∧
      (above = start.names → (discover files start).directory = start) := by
  have hfind : start.names.reverse.tails.find?
      (fun names => (tree.settingsIn? names.reverse).isSome) = some above.reverse := by
    apply find?_tails (List.reverse_suffix.mpr habove)
    · rw [List.reverse_reverse, hcontent]
      rfl
    · intro longer hsuffix hlength
      have hprefix : longer.reverse <+: start.names := by
        rwa [← List.reverse_suffix, List.reverse_reverse]
      rw [hnearer _ hprefix (by simpa using hlength)]
      rfl
  have hnames := find?_ancestors hserves hstart
  rw [hfind, Option.map_some, List.reverse_reverse] at hnames
  obtain ⟨holder, hholder, rfl⟩ := Option.map_eq_some_iff.mp hnames
  have hfound : discover files start = loadFrom files holder := by
    rw [discover_eq, List.find?_append, hholder]
    rfl
  have hplain := hstart.ancestors_spec.1 holder (List.mem_of_find?_eq_some hholder)
  rw [hfound]
  refine ⟨loadFrom_tells hserves hplain (List.find?_some hholder), fun hall => ?_⟩
  have hhere : holds files start = true := by
    rw [holds_eq hserves hstart, ← hall, hcontent]
    rfl
  rw [ancestors, List.find?_cons_of_pos hhere] at hholder
  exact (Option.some.inj hholder).symm

theorem find?_ancestors_none (hserves : files.Serves tree) (hstart : start.IsPlain)
    (habove : ∀ above, above <+: start.names → tree.settingsIn? above = none) :
    start.ancestors.find? (holds files) = none := by
  rw [← Option.map_eq_none_iff (f := FilePath.names), find?_ancestors hserves hstart,
    Option.map_eq_none_iff, List.find?_eq_none]
  intro names member
  rw [habove _ (by simpa [← List.reverse_suffix] using member)]
  simp

theorem discover_inside (hserves : files.Serves tree) (hproper : tree.Proper)
    (hstart : start.IsPlain)
    (habove : ∀ above, above <+: start.names → tree.settingsIn? above = none)
    {name content : List UInt8}
    (hcontent : tree.settingsIn? (start.names ++ [name]) = some content) :
    ∃ chosen, (discover files start).Tells files tree (start.names ++ [chosen]) ∧
      (discover files start).directory = start.join chosen := by
  obtain ⟨hname, hmem⟩ := mem_inside_of_settingsIn? hserves hproper hstart hcontent
  have hholds : holds files (start.join name) = true := by
    rw [holds_eq hserves (hstart.join hname), hstart.join_names hname, hcontent]
    rfl
  have hsome : ((inside files start).find? (holds files)).isSome = true :=
    List.find?_isSome.mpr ⟨_, hmem, hholds⟩
  obtain ⟨holder, hholder⟩ := Option.isSome_iff_exists.mp hsome
  have hfound : discover files start = loadFrom files holder := by
    rw [discover_eq, List.find?_append, find?_ancestors_none hserves hstart habove, hholder]
    rfl
  obtain ⟨hplain, chosen, hjoin, hnames⟩ :=
    inside_spec hserves hproper hstart (List.mem_of_find?_eq_some hholder)
  refine ⟨chosen, ?_, ?_⟩
  · rw [hfound, ← hnames]
    exact loadFrom_tells hserves hplain (List.find?_some hholder)
  · rw [hfound]
    exact hjoin

theorem discover_nowhere (hserves : files.Serves tree) (hproper : tree.Proper)
    (hstart : start.IsPlain)
    (habove : ∀ above, above <+: start.names → tree.settingsIn? above = none)
    (hinside : ∀ name, tree.settingsIn? (start.names ++ [name]) = none) :
    discover files start = ⟨default, start, []⟩ := by
  have hnone : (inside files start).find? (holds files) = none := by
    rw [List.find?_eq_none]
    intro directory member
    obtain ⟨hplain, name, _, hnames⟩ := inside_spec hserves hproper hstart member
    rw [holds_eq hserves hplain, hnames, hinside]
    simp
  rw [discover_eq, List.find?_append, find?_ancestors_none hserves hstart habove, hnone]
  rfl

/-- Whatever else is in the tree, the same settings files above, the same
directories with one inside and the same answers about their content lead to the
same settings. -/
theorem discover_congr {others : FileAccess Id} {other : FileTree} (hserves : files.Serves tree)
    (hothers : others.Serves other) (hstart : start.IsPlain)
    (habove : ∀ above, above <+: start.names →
      (other.settingsIn? above).isSome = (tree.settingsIn? above).isSome)
    (hinside : (inside others start).filter (holds others) =
      (inside files start).filter (holds files))
    (hread : ∀ directory ∈ start.ancestors ++ inside files start, holds files directory = true →
      others.read (directory.join fileName) = files.read (directory.join fileName)) :
    discover others start = discover files start := by
  obtain ⟨hplain, hnames⟩ := hstart.ancestors_spec
  have hholds : ∀ directory ∈ start.ancestors, holds others directory = holds files directory := by
    intro directory member
    have hprefix : directory.names <+: start.names := by
      have hmem : directory.names ∈ start.names.reverse.tails.map List.reverse :=
        hnames ▸ List.mem_map_of_mem member
      obtain ⟨tail, htail, hreverse⟩ := List.mem_map.mp hmem
      rw [← hreverse, ← List.reverse_suffix, List.reverse_reverse]
      exact (List.mem_tails _ _).mp htail
    rw [holds_eq hothers (hplain directory member), holds_eq hserves (hplain directory member),
      habove _ hprefix]
  have hfind : (start.ancestors ++ inside others start).find? (holds others) =
      (start.ancestors ++ inside files start).find? (holds files) := by
    have hfirst : (inside others start).find? (holds others) =
        (inside files start).find? (holds files) := by
      rw [← List.head?_filter, hinside, List.head?_filter]
    rw [List.find?_append, List.find?_append, List.find?_congr hholds, hfirst]
  rw [discover_eq, discover_eq, hfind]
  cases hholder : (start.ancestors ++ inside files start).find? (holds files) with
  | none => rfl
  | some holder =>
      have hload : loadFrom others holder = loadFrom files holder := by
        have hsame := hread holder (List.mem_of_find?_eq_some hholder) (List.find?_some hholder)
        have hof : ∀ access : FileAccess Id, loadFrom access holder =
            let loaded := orDefault (holder.join fileName) (ofContent (access.read (holder.join fileName)))
            ⟨loaded.1, holder, loaded.2⟩ := fun _ => rfl
        rw [hof, hof, hsame]
      exact hload

/-- The nearest settings file counts, one in the directory or above it before
one inside. A directory of the name of a settings file holds no settings, a file
that cannot be used still counts and nothing else in the tree is looked at. -/
theorem discover_nearest (hserves : files.Serves tree) (hproper : tree.Proper)
    (hstart : start.IsPlain) :
    (∀ above content, above <+: start.names → tree.settingsIn? above = some content →
      (∀ nearer, nearer <+: start.names → above.length < nearer.length →
        tree.settingsIn? nearer = none) →
      (discover files start).Tells files tree above ∧
        (above = start.names → (discover files start).directory = start)) ∧
    ((∀ above, above <+: start.names → tree.settingsIn? above = none) →
      (∀ name content, tree.settingsIn? (start.names ++ [name]) = some content →
        ∃ chosen, (discover files start).Tells files tree (start.names ++ [chosen]) ∧
          (discover files start).directory = start.join chosen) ∧
      ((∀ name, tree.settingsIn? (start.names ++ [name]) = none) →
        discover files start = ⟨default, start, []⟩)) ∧
    (∀ (others : FileAccess Id) (other : FileTree), others.Serves other →
      (∀ above, above <+: start.names →
        (other.settingsIn? above).isSome = (tree.settingsIn? above).isSome) →
      (inside others start).filter (holds others) = (inside files start).filter (holds files) →
      (∀ directory ∈ start.ancestors ++ inside files start, holds files directory = true →
        others.read (directory.join fileName) = files.read (directory.join fileName)) →
      discover others start = discover files start) := by
  refine ⟨?_, ?_, ?_⟩
  · intro above content habove hcontent hnearer
    exact discover_above hserves hstart habove hcontent hnearer
  · intro habove
    constructor
    · intro name content hcontent
      exact discover_inside hserves hproper hstart habove hcontent
    · exact discover_nowhere hserves hproper hstart habove
  · intro others other hothers
    exact discover_congr hserves hothers hstart

/-- In `/w/p` the entry `settings.toml` is a directory, in `/w` it is a file
that is no text. -/
def blocked : FileTree :=
  .directory [([0x77], .directory
    [(fileName, .file [0xFF]), ([0x70], .directory [(fileName, .directory [])])])]

theorem blocked_proper : blocked.Proper := by
  have hname : IsName [0x77] ∧ IsName [0x70] := by
    constructor
    all_goals exact ⟨by decide, ⟨by decide, by decide⟩, by decide⟩
  have hproject : (FileTree.directory [(fileName, .directory [])]).Proper := by
    refine .directory (by simp) ?_ ?_
    · simpa using fileName_isName
    · have hempty : (FileTree.directory []).Proper := .directory .nil (by simp) (by simp)
      simpa using hempty
  refine .directory (by simp) ?_ ?_
  · simpa using hname.1
  · have hentries : ([fileName, [0x70]] : List (List UInt8)).Nodup := by simp [fileName_eq]
    have hwork : (FileTree.directory [(fileName, .file [0xFF]),
        ([0x70], .directory [(fileName, .directory [])])]).Proper := by
      refine .directory hentries ?_ ?_
      · simpa using ⟨fileName_isName, hname.2⟩
      · simpa using ⟨FileTree.Proper.file [0xFF], hproject⟩
    simpa using hwork

theorem discover_nearest_blocked :
    blocked.access.Serves blocked ∧ blocked.Proper ∧ IsPlain ⟨[0x2F, 0x77, 0x2F, 0x70]⟩ ∧
      (discover blocked.access ⟨[0x2F, 0x77, 0x2F, 0x70]⟩).Tells blocked.access blocked [[0x77]] := by
  have hserves := FileAccess.serves_access blocked
  have hplain : IsPlain ⟨[0x2F, 0x77, 0x2F, 0x70]⟩ := ⟨rfl, by unfold IsDotless; decide⟩
  have hnearest := (discover_nearest hserves blocked_proper hplain).1
  have hcontent : blocked.settingsIn? [[0x77]] = some [0xFF] := by
    simp [settingsIn?, blocked, FileTree.at?, child?, FileTree.entries, content?]
  have hdirectory : blocked.settingsIn? [[0x77], [0x70]] = none := by
    simp [settingsIn?, blocked, FileTree.at?, child?, FileTree.entries, content?, fileName_eq]
  refine ⟨hserves, blocked_proper, hplain, (hnearest [[0x77]] [0xFF] ?_ hcontent ?_).1⟩
  · decide
  · intro nearer hprefix hlength
    have hall : nearer = [[0x77], [0x70]] := hprefix.eq_of_length_le hlength
    rw [hall, hdirectory]

end Nearest

end Settings

end CelWatch
