import CoffeeTree.Diagnostic.Report

/-!
# The sources that a report quotes

A report looks up a source for each of its diagnostics and fills its repository on the way: with the
source that it was given, and with what it finds on the disk, also where it finds nothing. As long
as the disk stays as it is this only saves work. What a diagnostic quotes is a matter of the given
source and the disk (`Report.quoted`), and all that a repository knows is what would be found again
(`Repository.Reflects`). That holds of an empty repository, each look-up keeps it
(`Report.runOn_resolve`), and so does a whole report (`Report.runOn_texts`).
-/

namespace CoffeeTree

namespace Disk

variable {disk : Disk} {path : Pathname}

/-- What can be read is a file. -/
theorem read_eq_ok_iff {bytes : List UInt8} :
    disk.read path = .ok bytes ↔ disk.entry? path = .ok (.file bytes) := by
  rw [read]
  rcases disk.entry? path with fault | (found | _)
  · show (Except.error fault : Except FileFault (List UInt8)) = _ ↔ _
    simp
  · show Except.ok found = _ ↔ _
    simp
  · show (Except.error .isADirectory : Except FileFault (List UInt8)) = _ ↔ _
    simp

/-- The files are what can be read. -/
theorem isFile_eq_true_iff : disk.isFile path = .ok true ↔ ∃ bytes, disk.read path = .ok bytes := by
  simp only [read_eq_ok_iff]
  rw [isFile]
  rcases disk.entry? path with fault | (found | _)
  · rcases fault <;> simp
  · simp
  · simp

/-- What a name stands for on a disk: a source if there is a file, and nothing otherwise. Names in
angle brackets never stand for a file. -/
def sourceAt (disk : Disk) (name : String) : Except ReadError (Option Source) :=
  if Repository.isPlaceholder name then .ok none
  else
    match disk.read (Pathname.ofString name) with
    | .error _ => .ok none
    | .ok bytes =>
      match Text.decodeFile bytes with
      | none => .error (.notText (Pathname.ofString name))
      | some text => .ok (some ⟨text, name⟩)

/-- There is no file under a name, or one that holds text. -/
def Readable (disk : Disk) (name : String) : Prop :=
  ∀ bytes, disk.read (Pathname.ofString name) = .ok bytes → (Text.decodeFile bytes).isSome

/-! ### Reading from a disk -/

theorem run_isFile (disk : Disk) (path : Pathname) :
    (MonadFiles.isFile path : StateM Disk (Except FileError Bool)).run disk =
      ((disk.isFile path).mapError (⟨·, path⟩), disk) :=
  rfl

theorem run_read (disk : Disk) (path : Pathname) :
    (MonadFiles.read path : StateM Disk (Except FileError (List UInt8))).run disk =
      ((disk.read path).mapError (⟨·, path⟩), disk) :=
  rfl

/-- Reading a text decodes the bytes of the file. -/
theorem run_readText {bytes : List UInt8} (h : disk.read path = .ok bytes) :
    (readText path : StateM Disk (Except ReadError (List Char))).run disk =
      ((Text.decodeFile bytes).elim (.error (.notText path)) .ok, disk) := by
  have hread : (MonadFiles.read path : StateM Disk (Except FileError (List UInt8))).run disk =
      (.ok bytes, disk) := by
    rw [run_read, h]
    rfl
  rw [readText, StateT.run_bind, hread]
  rcases hdecode : Text.decodeFile bytes with _ | text
  · show StateT.run _ disk = _
    dsimp only
    rw [hdecode]
    rfl
  · show StateT.run _ disk = _
    dsimp only
    rw [hdecode]
    rfl

/-! ### Computations with a state -/

section

variable {ε σ α β : Type} {act : ExceptT ε (StateT σ (StateM Disk)) α} {s s' : σ} {disk' : Disk}

/-- Runs a computation that may fail with a state of its own and a disk. -/
def runOn (act : ExceptT ε (StateT σ (StateM Disk)) α) (s : σ) (disk : Disk) :
    (Except ε α × σ) × Disk :=
  (act.run.run s).run disk

/-- Going on after a success. -/
theorem runOn_bind {a : α} (h : runOn act s disk = ((.ok a, s'), disk'))
    (next : α → ExceptT ε (StateT σ (StateM Disk)) β) :
    runOn (act >>= next) s disk = runOn (next a) s' disk' := by
  have hact : (act.run.run s).run disk = ((.ok a, s'), disk') := h
  rw [runOn, ExceptT.run_bind, StateT.run_bind, StateT.run_bind, hact]
  rfl

/-- An error ends the computation and keeps the state. -/
theorem runOn_bind_error {e : ε} (h : runOn act s disk = ((.error e, s'), disk'))
    (next : α → ExceptT ε (StateT σ (StateM Disk)) β) :
    runOn (act >>= next) s disk = ((.error e, s'), disk') := by
  have hact : (act.run.run s).run disk = ((.error e, s'), disk') := h
  rw [runOn, ExceptT.run_bind, StateT.run_bind, StateT.run_bind, hact]
  rfl

/-- A step on the disk leaves the state alone. -/
theorem runOn_lift {act : StateM Disk α} {a : α} (h : act.run disk = (a, disk')) (s : σ) :
    runOn (liftM act : ExceptT ε (StateT σ (StateM Disk)) α) s disk = ((.ok a, s), disk') := by
  show ((Except.ok (act.run disk).1, s), (act.run disk).2) = _
  rw [h]

end

end Disk

namespace Repository

/-- Fetching a source does not change the disk. -/
theorem run_fetch (disk : Disk) (name : String) :
    (fetch name : StateM Disk (Except ReadError (Option Source))).run disk =
      (disk.sourceAt name, disk) := by
  rw [fetch, Disk.sourceAt]
  by_cases hname : isPlaceholder name = true
  · rw [if_pos hname, if_pos hname]
    rfl
  · rw [if_neg hname, if_neg hname, StateT.run_bind, Disk.run_isFile]
    rcases hread : disk.read (Pathname.ofString name) with fault | bytes
    · -- What cannot be read is no file, or it could not be looked at.
      have hfile : disk.isFile (Pathname.ofString name) ≠ .ok true := by
        rw [Ne, Disk.isFile_eq_true_iff, hread]
        simp
      rcases hanswer : disk.isFile (Pathname.ofString name) with other | (_ | _)
      · rfl
      · rfl
      · exact absurd hanswer hfile
    · rw [Disk.isFile_eq_true_iff.2 ⟨bytes, hread⟩]
      show StateT.run (readText (Pathname.ofString name) >>= _ :
        StateM Disk (Except ReadError (Option Source))) disk = _
      rw [StateT.run_bind, Disk.run_readText hread]
      dsimp only
      rcases Text.decodeFile bytes with _ | text
      · rfl
      · rfl

/-- A source is found under the name it was kept under. -/
theorem find?_insert (r : Repository) (name other : String) (found : Option Source) :
    (r.insert name found).find? other = if name = other then some found else r.find? other := by
  show ((List.find? _ ((name, found) :: r.known)).map _) = _
  rw [List.find?_cons]
  by_cases hname : name = other
  · rw [if_pos hname, decide_eq_true hname]
    rfl
  · rw [if_neg hname, decide_eq_false hname]
    rfl

/-- What is known is found without the disk. -/
theorem run_get_of_known {r : Repository} {name : String} {found : Option Source}
    (h : r.find? name = some found) (disk : Disk) :
    (r.get name : StateM Disk (Except ReadError (Option Source) × Repository)).run disk =
      ((.ok found, r), disk) := by
  rw [get, h]
  rfl

/-- What is read from the disk is known from then on. -/
theorem run_get_of_read {r : Repository} {name : String} {found : Option Source} {disk : Disk}
    (hnew : r.find? name = none) (hfound : disk.sourceAt name = .ok found) :
    (r.get name : StateM Disk (Except ReadError (Option Source) × Repository)).run disk =
      ((.ok found, r.insert name found), disk) := by
  rw [get, hnew]
  show StateT.run (fetch name >>= _ :
    StateM Disk (Except ReadError (Option Source) × Repository)) disk = _
  rw [StateT.run_bind, run_fetch, hfound]
  rfl

/-- A file that is not text is an error, and nothing is known afterwards that was not before. -/
theorem run_get_of_failed {r : Repository} {name : String} {e : ReadError} {disk : Disk}
    (hnew : r.find? name = none) (hfailed : disk.sourceAt name = .error e) :
    (r.get name : StateM Disk (Except ReadError (Option Source) × Repository)).run disk =
      ((.error e, r), disk) := by
  rw [get, hnew]
  show StateT.run (fetch name >>= _ :
    StateM Disk (Except ReadError (Option Source) × Repository)) disk = _
  rw [StateT.run_bind, run_fetch, hfailed]
  rfl

end Repository

namespace Report

variable {disk : Disk} {source : Option Source} {r : Repository} {name : String}

/-- Runs a report with a repository and a disk. -/
def runOn {α : Type} (act : Reporting (StateM Disk) α) (r : Repository) (disk : Disk) :
    (Except ReadError α × Repository) × Disk :=
  (act.run.run r).run disk

/-- Going on after a success. -/
theorem runOn_bind {α β : Type} {act : Reporting (StateM Disk) α} {r' : Repository} {disk' : Disk}
    {a : α} (h : runOn act r disk = ((.ok a, r'), disk')) (next : α → Reporting (StateM Disk) β) :
    runOn (act >>= next) r disk = runOn (next a) r' disk' :=
  Disk.runOn_bind h next

/-- An error ends the computation and keeps the state. -/
theorem runOn_bind_error {α β : Type} {act : Reporting (StateM Disk) α} {r' : Repository}
    {disk' : Disk} {e : ReadError} (h : runOn act r disk = ((.error e, r'), disk'))
    (next : α → Reporting (StateM Disk) β) :
    runOn (act >>= next) r disk = ((.error e, r'), disk') :=
  Disk.runOn_bind_error h next

/-- The source that a report quotes under a name: the given one if it has the name, and otherwise
the one on the disk. -/
def quoted (disk : Disk) (source : Option Source) (name : String) : Option Source :=
  (source.filter (·.name = name)).or (disk.sourceAt name).toOption.join

/-- The report has to look for a file of that name. -/
def Consults (source : Option Source) (name : String) : Prop :=
  (∀ s ∈ source, s.name ≠ name) ∧ Repository.isPlaceholder name = false

/-- A source at hand is quoted by itself. -/
theorem quoted_self (disk : Disk) (s : Source) : quoted disk (some s) s.name = some s := by
  rw [quoted, Option.filter_some_pos (by simp)]
  rfl

/-- Under any other name the disk decides. -/
theorem quoted_of_sourceAt {found : Option Source} (hother : ∀ s ∈ source, s.name ≠ name)
    (hfound : disk.sourceAt name = .ok found) : quoted disk source name = found := by
  have hfilter : source.filter (·.name = name) = none :=
    Option.filter_eq_none_iff.2 fun s hs ↦ by simpa using hother s hs
  rw [quoted, hfilter, hfound]
  rfl

/-- A name that no file has to be read for, or whose file holds text, stands for something. -/
theorem exists_sourceAt (hother : ∀ s ∈ source, s.name ≠ name)
    (hread : Consults source name → disk.Readable name) :
    ∃ found, disk.sourceAt name = .ok found := by
  rw [Disk.sourceAt]
  by_cases hname : Repository.isPlaceholder name = true
  · exact ⟨none, if_pos hname⟩
  · rw [if_neg hname]
    have hreadable := hread ⟨hother, eq_false_of_ne_true hname⟩
    rcases hbytes : disk.read (Pathname.ofString name) with fault | bytes
    · exact ⟨none, rfl⟩
    · obtain ⟨text, htext⟩ := Option.isSome_iff_exists.1 (hreadable bytes hbytes)
      refine ⟨some ⟨text, name⟩, ?_⟩
      dsimp only
      rw [htext]

end Report

/-- All that a repository knows is what a report with the given source finds on the disk. -/
def Repository.Reflects (r : Repository) (disk : Disk) (source : Option Source) : Prop :=
  ∀ name found, r.find? name = some found → found = Report.quoted disk source name

/-- Nothing is kept at first. -/
theorem Repository.reflects_empty (disk : Disk) (source : Option Source) :
    empty.Reflects disk source :=
  fun _ _ h ↦ absurd h (by simp [find?, empty])

/-- What is quoted may be kept. -/
theorem Repository.Reflects.insert {r : Repository} {disk : Disk} {source : Option Source}
    (h : r.Reflects disk source) {name : String} {found : Option Source}
    (hfound : found = Report.quoted disk source name) :
    (r.insert name found).Reflects disk source := by
  intro other known hknown
  rw [find?_insert] at hknown
  by_cases hname : name = other
  · rw [if_pos hname] at hknown
    rw [← Option.some.inj hknown, ← hname, hfound]
  · rw [if_neg hname] at hknown
    exact h other known hknown

namespace Report

variable {disk : Disk} {source : Option Source} {r : Repository} {name : String}

/-- Looking up a source is a step of the repository. -/
theorem runOn_find {found : Except ReadError (Option Source)} {r' : Repository} {disk' : Disk}
    (h : (r.get name : StateM Disk (Except ReadError (Option Source) × Repository)).run disk =
      ((found, r'), disk')) : runOn (find name) r disk = ((found, r'), disk') := by
  rw [find, runOn_bind (a := r) rfl, runOn_bind (Disk.runOn_lift h r)]
  rcases found with e | source
  · rfl
  · rfl

/-- What was kept is what would be read, so it does not matter which is used. -/
theorem runOn_find_of_reflects (h : r.Reflects disk source) (hother : ∀ s ∈ source, s.name ≠ name)
    (hread : Consults source name → disk.Readable name) :
    ∃ r', runOn (find name) r disk = ((.ok (quoted disk source name), r'), disk) ∧
      r'.Reflects disk source := by
  rcases hknown : r.find? name with _ | found
  · obtain ⟨found, hfound⟩ := exists_sourceAt hother hread
    have hquoted := quoted_of_sourceAt hother hfound
    rw [hquoted]
    exact ⟨_, runOn_find (Repository.run_get_of_read hknown hfound), h.insert hquoted.symm⟩
  · rw [← h name found hknown]
    exact ⟨r, runOn_find (Repository.run_get_of_known hknown disk), h⟩

/-- **A look-up finds what is to be quoted**, and leaves a repository that still reflects the
disk. -/
theorem runOn_resolve (h : r.Reflects disk source)
    (hread : Consults source name → disk.Readable name) :
    ∃ r', runOn (resolve source name) r disk = ((.ok (quoted disk source name), r'), disk) ∧
      r'.Reflects disk source := by
  rcases source with _ | s
  · exact runOn_find_of_reflects h (by simp) hread
  · -- The given source is remembered first, and stands in the repository under its own name.
    have hremember : (r.remember s).Reflects disk (some s) := h.insert (quoted_self disk s).symm
    have hmodify : runOn (modify (·.remember s)) r disk = ((.ok (), r.remember s), disk) := rfl
    rw [resolve, runOn_bind hmodify]
    by_cases hname : s.name = name
    · rw [if_pos hname, ← hname, quoted_self]
      exact ⟨_, rfl, hremember⟩
    · rw [if_neg hname]
      refine runOn_find_of_reflects hremember (fun other hother ↦ ?_) hread
      rw [← Option.some.inj hother]
      exact hname

/-- A diagnostic is rendered with the source that is quoted. -/
theorem runOn_text (h : r.Reflects disk source) {d : Diagnostic}
    (hread : Consults source d.span.file → disk.Readable d.span.file) :
    ∃ r', runOn (text source d) r disk =
        ((.ok (d.render (quoted disk source d.span.file)), r'), disk) ∧
      r'.Reflects disk source := by
  obtain ⟨r', hresolve, hreflects⟩ := runOn_resolve h hread
  exact ⟨r', runOn_bind hresolve _, hreflects⟩

/-- **Every diagnostic quotes what it would quote alone.** -/
theorem runOn_texts (h : r.Reflects disk source) {ds : List Diagnostic}
    (hread : ∀ d ∈ ds, Consults source d.span.file → disk.Readable d.span.file) :
    ∃ r', runOn (texts source ds) r disk =
      ((.ok (ds.map fun d ↦ d.render (quoted disk source d.span.file)), r'), disk) := by
  induction ds generalizing r with
  | nil => exact ⟨r, rfl⟩
  | cons d rest ih =>
    obtain ⟨r', htext, hreflects⟩ := runOn_text h (hread d List.mem_cons_self)
    obtain ⟨after, hrest⟩ := ih hreflects fun e he ↦ hread e (List.mem_cons_of_mem _ he)
    refine ⟨after, ?_⟩
    rw [texts, runOn_bind htext, runOn_bind hrest]
    rfl

end Report

end CoffeeTree
