import LightningGateway.Proofs.FileTree
import LightningGateway.Proofs.Settings.Stored
import LightningGateway.Proofs.Text.Utf8

/-
  What loading settings does to the files.

  A file that is named and a default file that can be opened
  are only read.  Otherwise the default file is written, and
  from then on it is read: what it holds is read as the
  settings that it was made from, so that all later runs find
  the same.  The log level of the command line is put on top of
  what is found, and no file depends on it.

  Key definitions include:
    * `Scheme.Finds`
    * `Scheme.Writes`
    * `Scheme.IsSound`
    * `Scheme.after`

  Main results:
    * `Scheme.snd_load_of_isSome`, `Scheme.snd_load_of_open`
    * `Scheme.exists_finds`
    * `Scheme.writes_load`
    * `Scheme.load_after`
    * `load_effects`
-/

namespace LightningGateway.Settings

open Toml

namespace Scheme

variable {σ : Type}
variable {k : Scheme σ}
variable {work : List String}
variable {given : CommandLine.Given}
variable {t : FileTree}

------------------------------------------------------------
-- What Is Found
------------------------------------------------------------

/-
  The settings that are found, before the command line changes
  them: in the file that it names, or else in the default file,
  or else the default ones.
-/
inductive Finds
    (k : Scheme σ)
    (work : List String)
    (t : FileTree) : Option String → σ → Prop
  | named
      {path text : String}
      {node : FileTree}
      {s : σ}
      (hOpen : t.open? work path = .ok node)
      (hText : node.text? = .ok text)
      (hRead : k.read? text = some s) :
      Finds k work t (some path) s
  | stored
      {text : String}
      {node : FileTree}
      {s : σ}
      (hOpen : k.openDefault work t = .ok node)
      (hText : node.text? = .ok text)
      (hRead : k.read? text = some s) :
      Finds k work t none s
  | fresh
      {f : FileTree.Fault}
      (hOpen : k.openDefault work t = .error f) :
      Finds k work t none k.default

/- A default file that can be opened is read. -/
theorem loadFile_of_open
    {node : FileTree}
    (hOpen : k.openDefault work t = .ok node) :
    k.loadFile work none t = (k.readDefault node, t) := by
  simp only [loadFile, hOpen]

/- One that cannot be opened is written. -/
theorem loadFile_of_fault
    {f : FileTree.Fault}
    (hOpen : k.openDefault work t = .error f) :
    k.loadFile work none t = k.writeDefault work t := by
  simp only [loadFile, hOpen]

/- What went wrong does not matter if nothing did. -/
theorem orFail_eq_ok_iff
    {α β : Type}
    {blame : β → LoadError}
    {r : Except β α}
    {a : α} :
    orFail blame r = .ok a ↔ r = .ok a := by
  cases r <;> simp [orFail, Except.mapError]

/- A text is read, if it holds settings. -/
theorem read?_eq_some_iff
    {text : String}
    {e : LoadError}
    {s : σ} :
    (match k.read? text with
      | some s => (.ok s : Except LoadError σ)
      | none => .error e) = .ok s ↔
      k.read? text = some s := by
  cases k.read? text <;> simp

/- What a file that is named holds is found. -/
theorem finds_of_readNamed
    {path : String}
    {s : σ}
    (hRead : k.readNamed work path t = .ok s) :
    k.Finds work t (some path) s := by
  rcases exists_of_bind_eq_ok hRead with ⟨node, hOpen, hRead⟩
  rcases exists_of_bind_eq_ok hRead with ⟨text, hText, hRead⟩
  exact .named (orFail_eq_ok_iff.mp hOpen)
    (orFail_eq_ok_iff.mp hText) (read?_eq_some_iff.mp hRead)

/- So is what the default file holds. -/
theorem finds_of_readDefault
    {node : FileTree}
    {s : σ}
    (hOpen : k.openDefault work t = .ok node)
    (hRead : k.readDefault node = .ok s) :
    k.Finds work t none s := by
  rcases exists_of_bind_eq_ok hRead with ⟨text, hText, hRead⟩
  exact .stored hOpen (orFail_eq_ok_iff.mp hText)
    (read?_eq_some_iff.mp hRead)

/- Where the default file is written, its settings are given. -/
theorem eq_default_of_writeDefault
    {s : σ}
    (hWrite : (k.writeDefault work t).1 = .ok s) :
    s = k.default := by
  unfold writeDefault at hWrite
  split at hWrite
  · cases hWrite
  · dsimp only at hWrite
    split at hWrite
    · cases hWrite
    · cases hWrite
      rfl

/- What is loaded is what is found, with the level put on it. -/
theorem fst_load
    (k : Scheme σ)
    (work : List String)
    (given : CommandLine.Given)
    (t : FileTree) :
    (k.load work given t).1 =
      (k.loadFile work given.config t).1.map (k.override given) :=
  rfl

/- Settings are what is found, with the level that is given. -/
theorem exists_finds
    {s : σ}
    (hLoad : (k.load work given t).1 = .ok s) :
    ∃ base, k.Finds work t given.config base ∧
      s = k.override given base := by
  rw [fst_load] at hLoad
  rcases exists_of_map_eq_ok hLoad with ⟨base, hFile, hSettings⟩
  refine ⟨base, ?_, hSettings.symm⟩
  cases hConfig : given.config with
  | some path =>
      rw [hConfig] at hFile
      exact finds_of_readNamed hFile
  | none =>
      rw [hConfig] at hFile
      cases hOpen : k.openDefault work t with
      | ok node =>
          rw [loadFile_of_open hOpen] at hFile
          exact finds_of_readDefault hOpen hFile
      | error f =>
          rw [loadFile_of_fault hOpen] at hFile
          rw [eq_default_of_writeDefault hFile]
          exact .fresh hOpen

------------------------------------------------------------
-- Files That Are Only Read
------------------------------------------------------------

/- The files do not change if a file is named. -/
theorem snd_load_of_isSome
    (hConfig : given.config.isSome = true) :
    (k.load work given t).2 = t := by
  rcases Option.isSome_iff_exists.mp hConfig with ⟨path, hPath⟩
  rw [load, hPath]
  rfl

/- Nor do they if the default file can be opened. -/
theorem snd_load_of_open
    {node : FileTree}
    (hOpen : k.openDefault work t = .ok node) :
    (k.load work given t).2 = t := by
  cases hConfig : given.config with
  | some path =>
      rw [load, hConfig]
      rfl
  | none => rw [load, hConfig, loadFile_of_open hOpen]

/- The files do not depend on a level that is given. -/
theorem snd_load_congr
    {other : CommandLine.Given}
    (hConfig : given.config = other.config) :
    (k.load work given t).2 = (k.load work other t).2 := by
  rw [load, load, hConfig]

------------------------------------------------------------
-- The File That Is Written
------------------------------------------------------------

/- What the default file is written with. -/
def content (k : Scheme σ) : List UInt8 :=
  Text.Utf8.encode (k.outline k.default).toText

/-
  The default file is all that is written between two trees:
  whatever else there is stays, and there is nothing else but
  folders on the way that were missing.
-/
structure Writes
    (k : Scheme σ)
    (work : List String)
    (t u : FileTree) : Prop where
  file : u.item? (work ++ k.file) = some (.file k.content)
  others :
    ∀ path ≠ work ++ k.file,
      u.item? path = t.item? path ∨
        (path <+: work ++ k.folder ∧ t.item? path = none ∧
          u.item? path = some .folder)

/- Where the default file is written, nothing else is. -/
theorem writes_writeDefault
    {s : σ}
    (hWrite : (k.writeDefault work t).1 = .ok s) :
    k.Writes work t (k.writeDefault work t).2 := by
  unfold writeDefault at hWrite ⊢
  cases hMake : t.makeFolders? (work ++ k.folder) with
  | error f =>
      rw [hMake] at hWrite
      cases hWrite
  | ok made =>
      rw [hMake] at hWrite
      dsimp only at hWrite ⊢
      rw [← content] at hWrite ⊢
      cases hFile : made.write? k.content (work ++ k.file) with
      | error f =>
          rw [hFile] at hWrite
          cases hWrite
      | ok written =>
          refine ⟨?_, fun path hOther => ?_⟩
          · rw [FileTree.item?_write? hFile, if_pos rfl]
          · rcases FileTree.item?_makeFolders? hMake path with
              ⟨hMade, hFree⟩
            rw [FileTree.item?_write? hFile, if_neg hOther, hMade]
            by_cases hWay : path <+: work ++ k.folder
            · rw [if_pos hWay]
              rcases hFree hWay with hNone | hFolder
              · exact .inr ⟨hWay, hNone, rfl⟩
              · exact .inl hFolder.symm
            · rw [if_neg hWay]
              exact .inl rfl

/- What is loaded then is what writing the file gives. -/
theorem load_of_fault
    {f : FileTree.Fault}
    (hConfig : given.config = none)
    (hOpen : k.openDefault work t = .error f) :
    k.load work given t =
      ((k.writeDefault work t).1.map (k.override given),
        (k.writeDefault work t).2) := by
  rw [load, hConfig, loadFile_of_fault hOpen]

/- So nothing else is written by a run that loads settings. -/
theorem writes_load
    {f : FileTree.Fault}
    {s : σ}
    (hConfig : given.config = none)
    (hOpen : k.openDefault work t = .error f)
    (hLoad : (k.load work given t).1 = .ok s) :
    k.Writes work t (k.load work given t).2 := by
  rw [load_of_fault hConfig hOpen] at hLoad ⊢
  rcases exists_of_map_eq_ok hLoad with ⟨base, hWrite, _⟩
  exact writes_writeDefault hWrite

------------------------------------------------------------
-- Later Runs
------------------------------------------------------------

/-
  A scheme is sound if the names on the way to the default file
  can be entered, and the default settings are read in what it
  is written with.
-/
structure IsSound (k : Scheme σ) : Prop where
  short : FileTree.AreShort k.file
  reload : k.readDefault (.file k.content) = .ok k.default

/- The files after some runs, given what each was told. -/
def after
    (k : Scheme σ)
    (work : List String)
    (runs : List CommandLine.Given)
    (t : FileTree) : FileTree :=
  runs.foldl (fun t given => (k.load work given t).2) t

/- No run changes the files if the default file can be opened. -/
theorem after_of_open
    {node : FileTree}
    (hOpen : k.openDefault work t = .ok node)
    (runs : List CommandLine.Given) :
    k.after work runs t = t := by
  induction runs with
  | nil => rfl
  | cons given rest ih =>
      rw [after, List.foldl_cons, snd_load_of_open hOpen]
      exact ih

/- The default file is opened where it has been written. -/
theorem openDefault_of_writes
    {u : FileTree}
    (hSound : k.IsSound)
    (hWork : FileTree.AreShort work)
    (hWrites : k.Writes work t u) :
    k.openDefault work u = .ok (.file k.content) := by
  rw [openDefault, FileTree.follow_enter_eq_ok_iff]
  refine ⟨?_, FileTree.item?_eq_file_iff.mp hWrites.file⟩
  exact List.forall_mem_append.mpr ⟨hWork, hSound.short⟩

/-
  Once the default file has been written, every run leaves the
  files as they are, and one that is told the same loads the
  same settings.
-/
theorem load_after
    {f : FileTree.Fault}
    {s : σ}
    (hSound : k.IsSound)
    (hWork : FileTree.AreShort work)
    (hConfig : given.config = none)
    (hOpen : k.openDefault work t = .error f)
    (hLoad : (k.load work given t).1 = .ok s)
    (runs : List CommandLine.Given) :
    k.after work runs (k.load work given t).2 =
        (k.load work given t).2 ∧
      k.load work given (k.load work given t).2 =
        (.ok s, (k.load work given t).2) := by
  have hThere := openDefault_of_writes hSound hWork
    (writes_load hConfig hOpen hLoad)
  refine ⟨after_of_open hThere runs, ?_⟩
  rw [load_of_fault hConfig hOpen] at hLoad
  rcases exists_of_map_eq_ok hLoad with ⟨base, hWrite, hSettings⟩
  rw [eq_default_of_writeDefault hWrite] at hSettings
  generalize (k.load work given t).2 = u at hThere ⊢
  rw [load, hConfig, loadFile_of_open hThere, hSound.reload,
    ← hSettings]
  rfl

/- What is written is read back if its text is. -/
theorem readDefault_content
    (hRead : k.read? (k.outline k.default).toText = some k.default) :
    k.readDefault (.file k.content) = .ok k.default := by
  simp only [readDefault, FileTree.text?, content,
    Text.Utf8.decode?_encode]
  exact read?_eq_some_iff.mpr hRead

/- The scheme of the program is sound. -/
theorem isSound_scheme : scheme.IsSound where
  short := by decide
  reload := readDefault_content (read?_scheme fits_default)

/- So is the scheme of a host. -/
theorem isSound_hostScheme : hostScheme.IsSound where
  short := by decide
  reload :=
    readDefault_content
      (read?_hostScheme FundingSettings.fits_default)

end Scheme

------------------------------------------------------------
-- The Effects of Loading
------------------------------------------------------------

/- A level that is given takes the place of the one found. -/
theorem override_scheme
    (given : CommandLine.Given)
    (s : Settings) :
    scheme.override given s =
      { s with level := given.level.or s.level } := by
  unfold Scheme.override
  cases given.level <;> rfl

/- So it does in the settings of a host. -/
theorem override_hostScheme
    (given : CommandLine.Given)
    (s : HostSettings) :
    hostScheme.override given s =
      { s with level := given.level.or s.level } := by
  unfold Scheme.override
  cases given.level <;> rfl

/-
  For every sound kind of settings, every tree of files, every
  working folder and whatever the command line gives:

    * the files stay as they are, whatever comes of it, if a
      file is named or the default file can be opened;
    * they do not depend on a level that is given;
    * settings that are loaded are the ones found, and their
      level is replaced if one is given, and only then.

  If no file is named, the default file cannot be opened and
  there are settings, then they are the default ones, and only
  the default file is written, in folders that are made where
  they are missing.  It holds what is read as the default
  settings.  From then on no run changes any file, whatever it
  is given, and a run that is given the same loads the same
  settings, unless the names on the way to the working folder
  are too long to be entered.

  The settings of the program and those of a host are sound
  kinds.  All of them whose numbers fit into a document, not only
  the default ones, are read as they are written.
-/
theorem load_effects :
    (scheme.IsSound ∧
      (∀ given s,
        scheme.override given s =
          { s with level := given.level.or s.level }) ∧
      ∀ s : Settings, s.Fits →
        scheme.read? (scheme.outline s).toText = some s) ∧
    (hostScheme.IsSound ∧
      (∀ given s,
        hostScheme.override given s =
          { s with level := given.level.or s.level }) ∧
      ∀ s : HostSettings, s.funding.Fits →
        hostScheme.read? (hostScheme.outline s).toText =
          some s) ∧
    ∀ (σ : Type) (k : Scheme σ), k.IsSound →
      ∀ (work : List String) (given : CommandLine.Given)
        (t : FileTree),
      (given.config.isSome = true ∨
          (∃ node, k.openDefault work t = .ok node) →
        (k.load work given t).2 = t) ∧
      (∀ level,
        (k.load work { given with level := level } t).2 =
          (k.load work given t).2) ∧
      ∀ s, (k.load work given t).1 = .ok s →
        (∃ base, k.Finds work t given.config base ∧
          s = k.override given base) ∧
        (given.config = none →
          (¬∃ node, k.openDefault work t = .ok node) →
          s = k.override given k.default ∧
          k.Writes work t (k.load work given t).2 ∧
          k.readDefault (.file k.content) = .ok k.default ∧
          (FileTree.AreShort work → ∀ runs,
            k.after work (given :: runs) t =
              (k.load work given t).2 ∧
            k.load work given (k.after work (given :: runs) t) =
              (.ok s, (k.load work given t).2))) := by
  refine
    ⟨⟨Scheme.isSound_scheme, override_scheme,
        fun s => read?_scheme⟩,
      ⟨Scheme.isSound_hostScheme, override_hostScheme,
        fun s => read?_hostScheme⟩, ?_⟩
  intro σ k hSound work given t
  refine ⟨?_, ?_, ?_⟩
  · rintro (hConfig | ⟨node, hOpen⟩)
    · exact Scheme.snd_load_of_isSome hConfig
    · exact Scheme.snd_load_of_open hOpen
  · intro level
    exact Scheme.snd_load_congr rfl
  · intro s hLoad
    rcases Scheme.exists_finds hLoad with ⟨base, hFinds, hBase⟩
    refine ⟨⟨base, hFinds, hBase⟩, fun hConfig hClosed => ?_⟩
    cases hOpen : k.openDefault work t with
    | ok node => exact absurd ⟨node, hOpen⟩ hClosed
    | error f =>
        have hDefault : base = k.default := by
          rw [hConfig] at hFinds
          cases hFinds with
          | stored hOther _ _ =>
              rw [hOpen] at hOther
              cases hOther
          | fresh _ => rfl
        refine ⟨?_, Scheme.writes_load hConfig hOpen hLoad,
          hSound.reload, fun hWork runs => ?_⟩
        · rw [hBase, hDefault]
        · rcases Scheme.load_after hSound hWork hConfig hOpen
            hLoad runs with ⟨hKept, hAgain⟩
          rw [Scheme.after, List.foldl_cons, ← Scheme.after,
            hKept]
          exact ⟨rfl, hAgain⟩

/- A run at the root of an empty tree, told a level. -/
def verbose : CommandLine.Given := ⟨none, some "debug"⟩

/- It writes the default file, and then that is read. -/
theorem load_effects_of_empty :
    ∃ s t,
      scheme.load [] verbose .empty = (.ok s, t) ∧
      s = { Settings.default with level := some "debug" } ∧
      t.item? ["config", "local.toml"] =
        some (.file scheme.content) ∧
      t.item? ["config", "other.toml"] = none ∧
      scheme.load [] verbose t = (.ok s, t) := by
  have hLoad :
      (scheme.load [] verbose .empty).1 =
        .ok { Settings.default with level := some "debug" } :=
    rfl
  have hClosed :
      ¬∃ node, scheme.openDefault [] .empty = .ok node := by
    rintro ⟨node, hOpen⟩
    cases hOpen
  rcases load_effects with ⟨⟨hSound, hLevel, _⟩, _, hEvery⟩
  rcases hEvery _ scheme hSound [] verbose .empty with
    ⟨_, _, hGood⟩
  rcases (hGood _ hLoad).2 rfl hClosed with
    ⟨hDefault, hWrites, _, hLater⟩
  have hSettings := hDefault.trans (hLevel verbose .default)
  have hAgain := (hLater (by decide) []).2
  refine ⟨_, _, Prod.ext hLoad rfl, hSettings, hWrites.file, ?_,
    hAgain⟩
  rcases hWrites.others ["config", "other.toml"] (by decide) with
    hSame | ⟨hWay, _, _⟩
  · exact hSame
  · exact absurd hWay (by decide)

end LightningGateway.Settings
