import CoffeeTree.Proofs.Reporting.Quoting
import Mathlib.Data.List.Induction

/-!
# Repositories while the disk changes

What a repository finds under a name is settled once: by the source that was remembered last, or
else by the first look-up that returned, on the disk as it was then. This module follows a
repository through any sequence of calls and of changes to the files (`Repository.Step`).

Names do not interfere. So a history is followed for one name at a time: each step acts on what is
known of the name by a rule of its own (`Step.learn`), which is all that a step does
(`Step.find?_run`). From it comes, by induction on the history, where that knowledge is from
(`Repository.settles_find?`), and that steps about other names could as well have been left out
(`Moment.AgreeOn.after_filter`).
-/

namespace CoffeeTree

namespace Repository

variable {r : Repository} {disk : Disk} {name : String}

/-! ### Asking for one name -/

/-- What a look-up answers: what is known of the name, or else what the name stands for on the
disk. -/
def answer (r : Repository) (disk : Disk) (name : String) : Except ReadError (Option Source) :=
  (r.find? name).elim (disk.sourceAt name) .ok

/-- The repository after a look-up. -/
def asked (r : Repository) (disk : Disk) (name : String) : Repository :=
  (r.find? name).elim ((disk.sourceAt name).toOption.elim r (r.insert name)) fun _ ↦ r

/-- Asking leaves the disk alone. The answer and what is kept are told by `answer` and `asked`. -/
theorem run_get (r : Repository) (disk : Disk) (name : String) :
    (r.get name : StateM Disk (Except ReadError (Option Source) × Repository)).run disk =
      ((r.answer disk name, r.asked disk name), disk) := by
  rcases hknown : r.find? name with _ | found
  · rw [answer, asked, hknown]
    rcases hsource : disk.sourceAt name with e | found
    · exact run_get_of_failed hknown hsource
    · exact run_get_of_read hknown hsource
  · rw [answer, asked, hknown]
    exact run_get_of_known hknown disk

/-- What is kept is the name that was asked for, if it could be read, and the other names as before.
-/
theorem find?_asked (r : Repository) (disk : Disk) (name other : String) :
    (r.asked disk name).find? other =
      if name = other then (r.find? other).or (disk.sourceAt other).toOption
      else r.find? other := by
  by_cases hname : name = other
  · subst hname
    rw [if_pos rfl, asked]
    rcases hknown : r.find? name with _ | found
    · rcases hsource : disk.sourceAt name with e | found
      · exact hknown
      · exact (find?_insert r name name found).trans (if_pos rfl)
    · exact hknown
  · rw [if_neg hname, asked]
    rcases r.find? name with _ | found
    · rcases disk.sourceAt name with e | found
      · rfl
      · exact (find?_insert r name other found).trans (if_neg hname)
    · rfl

/-- An answer is given if there was one already, or if the disk has one. -/
theorem isOk_answer (r : Repository) (disk : Disk) (name : String) :
    (r.answer disk name).isOk = ((r.find? name).or (disk.sourceAt name).toOption).isSome := by
  rw [answer]
  rcases r.find? name with _ | found
  · rcases disk.sourceAt name with e | found
    · rfl
    · rfl
  · rfl

/-- **Whatever is answered is kept**, and nothing else. -/
theorem answer_eq_ok_iff {found : Option Source} :
    r.answer disk name = .ok found ↔ (r.asked disk name).find? name = some found := by
  rw [find?_asked, if_pos rfl, answer]
  rcases r.find? name with _ | known
  · rcases disk.sourceAt name with e | source
    · show Except.error e = .ok found ↔ none = some found
      simp
    · show Except.ok source = .ok found ↔ some source = some found
      simp
  · simp

/-- A look-up that fails leaves the repository as it was. -/
theorem asked_of_error {e : ReadError} (h : r.answer disk name = .error e) :
    r.asked disk name = r := by
  rw [answer] at h
  rw [asked]
  rcases hknown : r.find? name with _ | found
  · rw [hknown] at h
    have hsource : disk.sourceAt name = .error e := h
    rw [hsource]
    rfl
  · rfl

/-- The repository after a source was given. -/
def given (r : Repository) (source : Option Source) : Repository := source.elim r r.remember

/-- A source that is handed over is kept under its own name. -/
theorem find?_given (r : Repository) (source : Option Source) (name : String) :
    (r.given source).find? name =
      ((source.filter (·.name = name)).map some).or (r.find? name) := by
  rcases source with _ | s
  · rfl
  · by_cases hname : s.name = name
    · rw [Option.filter_some_pos (by simpa using hname)]
      exact (find?_insert r s.name name (some s)).trans (if_pos hname)
    · rw [Option.filter_some_neg (by simpa using hname)]
      exact (find?_insert r s.name name (some s)).trans (if_neg hname)

end Repository

namespace Report

variable {name : String}

/-- A source that is handed over is not asked for. -/
theorem runOn_resolve_of_given {s : Source} (h : s.name = name) (r : Repository) (disk : Disk) :
    runOn (resolve (some s) name) r disk = ((.ok (some s), r.remember s), disk) := by
  have hmodify : runOn (modify (·.remember s)) r disk = ((.ok (), r.remember s), disk) := rfl
  rw [resolve, runOn_bind hmodify, if_pos h]
  rfl

/-- One of another name does not help. -/
theorem runOn_resolve_of_other {source : Option Source} (h : source.any (·.name = name) = false)
    (r : Repository) (disk : Disk) :
    runOn (resolve source name) r disk =
      (((r.given source).answer disk name, (r.given source).asked disk name), disk) := by
  have hfind := runOn_find (Repository.run_get (r.given source) disk name)
  rcases source with _ | s
  · exact hfind
  · have hmodify : runOn (modify (·.remember s)) r disk = ((.ok (), r.remember s), disk) := rfl
    rw [resolve, runOn_bind hmodify, if_neg (of_decide_eq_false h)]
    exact hfind

end Report

namespace Repository

/-! ### Steps -/

/-- Something that is done with a repository, or that happens to the files in the meantime. -/
inductive Step where
  /-- A source is remembered. -/
  | remember (source : Source)
  /-- A text is remembered under a name. -/
  | fromText (text : List Char) (name : String)
  /-- A name is looked up. -/
  | get (name : String)
  /-- A diagnostic is rendered, with the given source if there is one. -/
  | render (source : Option Source) (d : Diagnostic)
  /-- The files change. -/
  | change (disk : Disk)

/-- What a step gives back. -/
inductive Answer where
  | nothing
  | source (found : Option Source)
  | text (text : String)

/-- A repository and the disk at one moment. -/
structure Moment where
  repository : Repository
  disk : Disk

namespace Step

def act : Step → Reporting (StateM Disk) Answer
  | remember source => do
    modify (·.remember source)
    pure (.source (some source))
  | fromText text name => do
    modify (·.remember ⟨text, name⟩)
    pure (.source (some ⟨text, name⟩))
  | get name => do
    let found ← Report.find name
    pure (.source found)
  | render source d => do
    let text ← Report.text source d
    pure (.text text)
  | change disk => do
    liftM (set disk : StateM Disk PUnit)
    pure .nothing

/-- The answer of a step, and the moment after it. -/
def run (step : Step) (m : Moment) : Except ReadError Answer × Moment :=
  let result := Report.runOn step.act m.repository m.disk
  (result.1.1, ⟨result.1.2, result.2⟩)

/-- The source that a step remembers. -/
def remembered? : Step → Option Source
  | remember source => some source
  | fromText text name => some ⟨text, name⟩
  | render source _ => source
  | _ => none

/-- The name that a step looks up. A diagnostic about the given source needs none. -/
def lookedUp? : Step → Option String
  | get name => some name
  | render source d => if source.any (·.name = d.span.file) then none else some d.span.file
  | _ => none

/-- The disk after a step, given the one before it. -/
def diskAfter (disk : Disk) : Step → Disk
  | change disk => disk
  | _ => disk

/-- What a step makes of what is known of a name. -/
def learn (name : String) (disk : Disk) (known : Option (Option Source)) (step : Step) :
    Option (Option Source) :=
  ((step.remembered?.filter (·.name = name)).map some).or
    (if step.lookedUp? = some name then known.or (disk.sourceAt name).toOption else known)

variable {m : Moment} {d : Diagnostic} {s : Source}

/-- Asking leaves the disk alone. The answer and what is kept are told by `answer` and `asked`. -/
theorem run_get (name : String) (m : Moment) :
    (get name).run m =
      ((m.repository.answer m.disk name).map .source,
        ⟨m.repository.asked m.disk name, m.disk⟩) := by
  have hfind := Report.runOn_find (Repository.run_get m.repository m.disk name)
  rcases hanswer : m.repository.answer m.disk name with e | found
  · rw [hanswer] at hfind
    rw [run, act, Report.runOn_bind_error hfind]
    rfl
  · rw [hanswer] at hfind
    rw [run, act, Report.runOn_bind hfind]
    rfl

/-- Rendering with the right source at hand does not ask for any. -/
theorem run_render_of_given (h : s.name = d.span.file) (m : Moment) :
    (render (some s) d).run m =
      (.ok (.text (d.render (some s))), ⟨m.repository.given (some s), m.disk⟩) := by
  have hresolve := Report.runOn_resolve_of_given h m.repository m.disk
  rw [run, act, Report.text, Report.runOn_bind (Report.runOn_bind hresolve _)]
  rfl

/-- Otherwise rendering asks for the file of the span. -/
theorem run_render_of_other {source : Option Source}
    (h : source.any (·.name = d.span.file) = false) (m : Moment) :
    (render source d).run m =
      (((m.repository.given source).answer m.disk d.span.file).map (.text ∘ d.render),
        ⟨(m.repository.given source).asked m.disk d.span.file, m.disk⟩) := by
  have hresolve := Report.runOn_resolve_of_other h m.repository m.disk
  rcases hanswer : (m.repository.given source).answer m.disk d.span.file with e | found
  · rw [hanswer] at hresolve
    rw [run, act, Report.text, Report.runOn_bind_error (Report.runOn_bind_error hresolve _)]
    rfl
  · rw [hanswer] at hresolve
    rw [run, act, Report.text, Report.runOn_bind (Report.runOn_bind hresolve _)]
    rfl

/-- A look-up returns what is known of the name afterwards. -/
theorem run_get_eq_ok_iff {found : Option Source} :
    ((get name).run m).1 = .ok (.source found) ↔
      ((get name).run m).2.repository.find? name = some found := by
  rw [run_get, ← answer_eq_ok_iff]
  rcases m.repository.answer m.disk name with e | source
  · show Except.error e = .ok (Answer.source found) ↔ Except.error e = .ok found
    simp
  · show Except.ok (Answer.source source) = .ok (.source found) ↔ Except.ok source = .ok found
    simp

/-- A name that cannot be read is asked for again the next time. -/
theorem run_get_of_error {e : ReadError} (h : ((get name).run m).1 = .error e) :
    ((get name).run m).2 = m := by
  rw [run_get] at h ⊢
  rcases hanswer : m.repository.answer m.disk name with e' | source
  · rw [asked_of_error hanswer]
  · rw [hanswer] at h
    have hok : Except.ok (Answer.source source) = .error e := h
    exact absurd hok (by simp)

/-- A diagnostic is about the given source, or its file is looked up. -/
theorem given_or_other (source : Option Source) (file : String) :
    (∃ s, source = some s ∧ s.name = file) ∨ source.any (·.name = file) = false := by
  rcases hany : source.any (·.name = file) with _ | _
  · exact .inr hany
  · obtain ⟨s, hs, hname⟩ := (Option.any_eq_true _ _).1 hany
    exact .inl ⟨s, hs, of_decide_eq_true hname⟩

/-- A step changes the disk only if it is a change of the disk. -/
theorem disk_run (step : Step) (m : Moment) : (step.run m).2.disk = step.diskAfter m.disk := by
  cases step with
  | remember source => rfl
  | fromText text name => rfl
  | get name =>
    rw [run_get]
    rfl
  | render source d =>
    rcases given_or_other source d.span.file with ⟨s, rfl, hname⟩ | hother
    · rw [run_render_of_given hname]
      rfl
    · rw [run_render_of_other hother]
      rfl
  | change disk => rfl

/-- A step that looks nothing up teaches what it was handed. -/
theorem learn_of_lookedUp?_eq_none {step : Step} (h : step.lookedUp? = none) (name : String)
    (disk : Disk) (known : Option (Option Source)) :
    step.learn name disk known =
      ((step.remembered?.filter (·.name = name)).map some).or known := by
  rw [learn, h, if_neg (by simp)]

/-- **What a step does to what is known of a name.** -/
theorem find?_run (step : Step) (m : Moment) (name : String) :
    (step.run m).2.repository.find? name =
      step.learn name m.disk (m.repository.find? name) := by
  cases step with
  | remember source =>
    rw [learn_of_lookedUp?_eq_none rfl]
    exact find?_given m.repository (some source) name
  | fromText text other =>
    rw [learn_of_lookedUp?_eq_none rfl]
    exact find?_given m.repository (some ⟨text, other⟩) name
  | get other =>
    rw [run_get, find?_asked]
    by_cases hname : other = name
    · rw [if_pos hname, learn, lookedUp?, if_pos (congrArg some hname)]
      rfl
    · rw [if_neg hname, learn, lookedUp?, if_neg (by simpa using hname)]
      rfl
  | render source d =>
    -- Rendering asks for a source unless the right one was handed over.
    rcases given_or_other source d.span.file with ⟨s, rfl, hgiven⟩ | hother
    · have hlookup : (render (some s) d).lookedUp? = none := if_pos (by simpa using hgiven)
      rw [run_render_of_given hgiven, learn_of_lookedUp?_eq_none hlookup]
      exact find?_given m.repository (some s) name
    · have hlookup : (render source d).lookedUp? = some d.span.file :=
        if_neg (by simp [hother])
      rw [run_render_of_other hother, find?_asked, find?_given, learn, hlookup]
      by_cases hname : d.span.file = name
      · rw [if_pos hname, if_pos (congrArg some hname), Option.or_assoc]
        rfl
      · rw [if_neg hname, if_neg (by simpa using hname)]
        rfl
  | change disk => rfl

/-- A look-up returns if its name is known or the disk can tell. -/
theorem isOk_run {step : Step} (h : step.lookedUp? = some name) (m : Moment) :
    (step.run m).1.isOk =
      ((m.repository.find? name).or (m.disk.sourceAt name).toOption).isSome := by
  have hmap {α β : Type} (f : α → β) (x : Except ReadError α) : (x.map f).isOk = x.isOk := by
    rcases x with e | a
    · rfl
    · rfl
  cases step with
  | get other =>
    obtain rfl : other = name := Option.some.inj h
    rw [run_get, hmap, isOk_answer]
  | render source d =>
    rcases given_or_other source d.span.file with ⟨s, rfl, hgiven⟩ | hother
    · have hlookup : (render (some s) d).lookedUp? = none := if_pos (by simpa using hgiven)
      exact absurd (h.symm.trans hlookup) (by simp)
    · have hlookup : (render source d).lookedUp? = some d.span.file :=
        if_neg (by simp [hother])
      obtain rfl : d.span.file = name := Option.some.inj (hlookup.symm.trans h)
      have hfilter : source.filter (·.name = d.span.file) = none := by
        rw [Option.filter_eq_none_iff]
        simpa [Option.any_eq_false] using hother
      rw [run_render_of_other hother, hmap, isOk_answer, find?_given, hfilter]
      rfl
  | _ => exact absurd h (by simp [lookedUp?])

end Step

/-! ### Histories -/

/-- The moment after some steps. -/
def Moment.after (m : Moment) (steps : List Step) : Moment :=
  steps.foldl (fun m step ↦ (step.run m).2) m

/-- The steps, each with the moment at which it is taken. -/
def Moment.record (m : Moment) : List Step → List (Moment × Step)
  | [] => []
  | step :: rest => (m, step) :: Moment.record (step.run m).2 rest

/-- Histories grow at their end. -/
theorem Moment.after_append_singleton (m : Moment) (steps : List Step) (step : Step) :
    m.after (steps ++ [step]) = (step.run (m.after steps)).2 := by
  rw [after, List.foldl_append]
  rfl

theorem Moment.record_append_singleton (m : Moment) (steps : List Step) (step : Step) :
    m.record (steps ++ [step]) = m.record steps ++ [(m.after steps, step)] := by
  induction steps generalizing m with
  | nil => rfl
  | cons first rest ih =>
    rw [List.cons_append, record, ih]
    rfl

/-- The source of a name that was remembered last. -/
def lastRemembered? (steps : List Step) (name : String) : Option Source :=
  ((steps.filterMap Step.remembered?).filter (·.name = name)).getLast?

/-- The first moment at which a look-up of a name returned. -/
def firstReturn? (m : Moment) (steps : List Step) (name : String) : Option Moment :=
  ((m.record steps).find? fun entry ↦
    entry.2.lookedUp? = some name && (entry.2.run entry.1).1.isOk).map (·.1)

/-- The last source that was remembered counts. -/
theorem lastRemembered?_append_singleton (steps : List Step) (step : Step) (name : String) :
    lastRemembered? (steps ++ [step]) name =
      (step.remembered?.filter (·.name = name)).or (lastRemembered? steps name) := by
  rw [lastRemembered?, List.filterMap_append, List.filter_append, List.getLast?_append]
  rcases hstep : step.remembered? with _ | s
  · simp [hstep, lastRemembered?]
  · by_cases hname : s.name = name
    · rw [Option.filter_some_pos (by simpa using hname)]
      simp [hstep, hname]
    · rw [Option.filter_some_neg (by simpa using hname)]
      simp [hstep, hname, lastRemembered?]

/-- Of the answers that were returned the first one counts. -/
theorem firstReturn?_append_singleton (m : Moment) (steps : List Step) (step : Step)
    (name : String) :
    firstReturn? m (steps ++ [step]) name =
      (firstReturn? m steps name).or
        (if step.lookedUp? = some name && (step.run (m.after steps)).1.isOk
          then some (m.after steps) else none) := by
  rw [firstReturn?, firstReturn?, Moment.record_append_singleton, List.find?_append, Option.map_or]
  congr 1
  rw [List.find?_singleton]
  split
  · rfl
  · rfl

/-- What a history settles about a name: the source that was remembered last; otherwise what the
name stood for on the disk when it was first looked up with success; otherwise nothing. -/
inductive Settles (m : Moment) (steps : List Step) (name : String) :
    Option (Option Source) → Prop where
  | remembered {s : Source} (last : lastRemembered? steps name = some s) :
      Settles m steps name (some (some s))
  | read {first : Moment} {found : Option Source} (last : lastRemembered? steps name = none)
      (returned : firstReturn? m steps name = some first)
      (found_eq : first.disk.sourceAt name = .ok found) : Settles m steps name (some found)
  | nothing (last : lastRemembered? steps name = none)
      (returned : firstReturn? m steps name = none) : Settles m steps name none

namespace Settles

variable {m : Moment} {steps : List Step} {known known' : Option (Option Source)}

/-- A history settles a name in one way. -/
theorem unique (h : Settles m steps name known) (h' : Settles m steps name known') :
    known = known' := by
  rcases h with last | ⟨last, returned, found_eq⟩ | ⟨last, returned⟩
  · rcases h' with last' | ⟨last', -, -⟩ | ⟨last', -⟩
    · rw [Option.some.inj (last.symm.trans last')]
    · exact absurd (last.symm.trans last') (by simp)
    · exact absurd (last.symm.trans last') (by simp)
  · rcases h' with last' | ⟨-, returned', found_eq'⟩ | ⟨-, returned'⟩
    · exact absurd (last.symm.trans last') (by simp)
    · obtain rfl := Option.some.inj (returned.symm.trans returned')
      rw [Except.ok.inj (found_eq.symm.trans found_eq')]
    · exact absurd (returned.symm.trans returned') (by simp)
  · rcases h' with last' | ⟨-, returned', -⟩ | -
    · exact absurd (last.symm.trans last') (by simp)
    · exact absurd (returned.symm.trans returned') (by simp)
    · rfl

/-- A step that has nothing to do with the name settles nothing. -/
theorem append_of_other (h : Settles m steps name known) {step : Step}
    (hlast : step.remembered?.filter (·.name = name) = none)
    (hlookup : step.lookedUp? ≠ some name) :
    Settles m (steps ++ [step]) name known := by
  have hlast' : lastRemembered? (steps ++ [step]) name = lastRemembered? steps name := by
    rw [lastRemembered?_append_singleton, hlast, Option.none_or]
  have hreturn : firstReturn? m (steps ++ [step]) name = firstReturn? m steps name := by
    rw [firstReturn?_append_singleton, if_neg (by simp [hlookup]), Option.or_none]
  rcases h with last | ⟨last, returned, found_eq⟩ | ⟨last, returned⟩
  · exact .remembered (hlast'.trans last)
  · exact .read (hlast'.trans last) (hreturn.trans returned) found_eq
  · exact .nothing (hlast'.trans last) (hreturn.trans returned)

/-- A look-up settles its name, if it returns and the name was not settled before. -/
theorem append_of_lookedUp (h : Settles m steps name ((m.after steps).repository.find? name))
    {step : Step} (hlast : step.remembered?.filter (·.name = name) = none)
    (hlookup : step.lookedUp? = some name) :
    Settles m (steps ++ [step]) name
      (((m.after steps).repository.find? name).or
        ((m.after steps).disk.sourceAt name).toOption) := by
  have hlast' : lastRemembered? (steps ++ [step]) name = lastRemembered? steps name := by
    rw [lastRemembered?_append_singleton, hlast, Option.none_or]
  have hreturn := firstReturn?_append_singleton m steps step name
  rw [Step.isOk_run hlookup, decide_eq_true hlookup, Bool.true_and] at hreturn
  generalize (m.after steps).repository.find? name = known at h hreturn ⊢
  rcases h with last | ⟨last, returned, found_eq⟩ | ⟨last, returned⟩
  · exact .remembered (hlast'.trans last)
  · rw [returned, Option.some_or] at hreturn
    exact .read (hlast'.trans last) hreturn found_eq
  · rw [returned, Option.none_or, Option.none_or] at hreturn
    rcases hsource : (m.after steps).disk.sourceAt name with e | found
    · rw [hsource] at hreturn
      exact .nothing (hlast'.trans last) hreturn
    · rw [hsource] at hreturn
      exact .read (hlast'.trans last) hreturn hsource

end Settles

/-- **What is known of a name is what the history has settled.** -/
theorem settles_find? (disk : Disk) (steps : List Step) (name : String) :
    Settles ⟨empty, disk⟩ steps name
      ((Moment.after ⟨empty, disk⟩ steps).repository.find? name) := by
  induction steps using List.reverseRecOn with
  | nil => exact .nothing rfl rfl
  | append_singleton steps step ih =>
    rw [Moment.after_append_singleton, Step.find?_run, Step.learn]
    rcases hlast : step.remembered?.filter (·.name = name) with _ | s
    · rw [hlast]
      by_cases hlookup : step.lookedUp? = some name
      · rw [if_pos hlookup]
        exact ih.append_of_lookedUp hlast hlookup
      · rw [if_neg hlookup]
        exact ih.append_of_other hlast hlookup
    · rw [hlast]
      refine .remembered ?_
      rw [lastRemembered?_append_singleton, hlast, Option.some_or]

/-! ### Other names -/

/-- Whether a step has to do with a name: it looks the name up, remembers a source of that name or
changes the files. -/
def Step.concerns (name : String) : Step → Bool
  | change _ => true
  | step => step.lookedUp? = some name || step.remembered?.any (·.name = name)

/-- Two moments at which the same is known of a name and the files are the same. -/
def Moment.AgreeOn (name : String) (m m' : Moment) : Prop :=
  m.disk = m'.disk ∧ m.repository.find? name = m'.repository.find? name

namespace Moment.AgreeOn

variable {m m' : Moment}

/-- A step keeps two moments in agreement. -/
theorem run (h : AgreeOn name m m') (step : Step) :
    AgreeOn name (step.run m).2 (step.run m').2 := by
  obtain ⟨hdisk, hfind⟩ := h
  refine ⟨?_, ?_⟩
  · rw [Step.disk_run, Step.disk_run, hdisk]
  · rw [Step.find?_run, Step.find?_run, hdisk, hfind]

/-- A step that does not concern the name keeps them in agreement, even if only one takes it. -/
theorem run_left (h : AgreeOn name m m') {step : Step} (hstep : step.concerns name = false) :
    AgreeOn name (step.run m).2 m' := by
  obtain ⟨hdisk, hfind⟩ := h
  have hother : step.diskAfter m.disk = m.disk ∧
      (step.lookedUp? = some name || step.remembered?.any (·.name = name)) = false := by
    cases step with
    | change disk => exact absurd hstep (by simp [Step.concerns])
    | _ => exact ⟨rfl, hstep⟩
  obtain ⟨hlookup, hremember⟩ := Bool.or_eq_false_iff.1 hother.2
  have hfilter : step.remembered?.filter (·.name = name) = none := by
    rw [Option.filter_eq_none_iff]
    simpa [Option.any_eq_false] using hremember
  refine ⟨?_, ?_⟩
  · rw [Step.disk_run, hother.1, hdisk]
  · rw [Step.find?_run, Step.learn, hfilter, if_neg (of_decide_eq_false hlookup), hfind]
    rfl

/-- The steps that have nothing to do with the name may be left out. -/
theorem after_filter (h : AgreeOn name m m') (steps : List Step) :
    AgreeOn name (m.after steps) (m'.after (steps.filter (·.concerns name))) := by
  induction steps generalizing m m' with
  | nil => exact h
  | cons step rest ih =>
    rcases hstep : step.concerns name with _ | _
    · rw [List.filter_cons_of_neg (by simp [hstep])]
      exact ih (h.run_left hstep)
    · rw [List.filter_cons_of_pos hstep]
      exact ih (h.run step)

/-- Moments in agreement give the same answer. -/
theorem answer_eq (h : AgreeOn name m m') :
    ((Step.get name).run m).1 = ((Step.get name).run m').1 := by
  obtain ⟨hdisk, hfind⟩ := h
  rw [Step.run_get, Step.run_get, Repository.answer, Repository.answer, hdisk, hfind]

end Moment.AgreeOn

/-! ### Snapshots -/

/-- A placeholder is no file, whatever stands on the disk. -/
theorem sourceAt_of_isPlaceholder (h : isPlaceholder name = true) (disk : Disk) :
    disk.sourceAt name = .ok none := by
  rw [Disk.sourceAt, if_pos h]

/-- A name in angle brackets is answered without a look at the files, whatever these are. -/
theorem get_of_isPlaceholder (h : isPlaceholder name = true) {m : Type → Type} [Monad m]
    [LawfulMonad m] [MonadFiles m] (r : Repository) :
    ∃ result, (r.get name : m (Except ReadError (Option Source) × Repository)) = pure result := by
  have hfetch : (fetch name : m (Except ReadError (Option Source))) = pure (.ok none) := by
    rw [fetch, if_pos h]
  rw [get]
  rcases r.find? name with _ | found
  · dsimp only
    rw [hfetch, pure_bind]
    exact ⟨_, rfl⟩
  · exact ⟨_, rfl⟩

/-- A name in angle brackets stands for what was remembered, or for nothing. -/
theorem run_get_of_isPlaceholder (h : isPlaceholder name = true) (disk : Disk)
    (steps : List Step) :
    ((Step.get name).run (Moment.after ⟨empty, disk⟩ steps)).1 =
      .ok (.source (lastRemembered? steps name)) := by
  have hlast : lastRemembered? (steps ++ [.get name]) name = lastRemembered? steps name :=
    lastRemembered?_append_singleton steps (.get name) name
  have hsettles := settles_find? disk (steps ++ [.get name]) name
  rw [Moment.after_append_singleton] at hsettles
  rw [Step.run_get_eq_ok_iff, ← hlast]
  -- The look-up itself returns, so that something is settled.
  have hknown : ((Step.get name).run (Moment.after ⟨empty, disk⟩ steps)).2.repository.find? name ≠
      none := by
    rw [Step.run_get, find?_asked, if_pos rfl, sourceAt_of_isPlaceholder h]
    show Option.or _ (some none) ≠ none
    simp
  generalize ((Step.get name).run (Moment.after ⟨empty, disk⟩ steps)).2.repository.find? name =
    known at hsettles hknown ⊢
  rcases hsettles with last | ⟨last, returned, found_eq⟩ | ⟨last, returned⟩
  · rw [last]
  · rw [last, ← Except.ok.inj ((sourceAt_of_isPlaceholder h _).symm.trans found_eq)]
  · exact absurd rfl hknown

/-- **A repository answers with snapshots.** However the calls are mixed with changes to the files:

* a look-up returns exactly what the history up to it has settled about the name: the source of that
  name that was remembered last, or else what the name stood for on the disk when a look-up of it
  first returned;
* a name in angle brackets stands for what was remembered last, or nothing, and is never read;
* the answer would be the same without the steps about other names;
* a look-up that fails changes nothing. -/
theorem get_snapshot (disk : Disk) (steps : List Step) (name : String) :
    (∀ found, ((Step.get name).run (Moment.after ⟨empty, disk⟩ steps)).1 = .ok (.source found) ↔
      Settles ⟨empty, disk⟩ (steps ++ [.get name]) name (some found)) ∧
    (isPlaceholder name = true →
      ((Step.get name).run (Moment.after ⟨empty, disk⟩ steps)).1 =
        .ok (.source (lastRemembered? steps name)) ∧
      ∀ (m : Type → Type) [Monad m] [LawfulMonad m] [MonadFiles m] (r : Repository),
        ∃ result, (r.get name : m (Except ReadError (Option Source) × Repository)) =
          pure result) ∧
    (∀ others, others.filter (Step.concerns name) = steps.filter (Step.concerns name) →
      ((Step.get name).run (Moment.after ⟨empty, disk⟩ others)).1 =
        ((Step.get name).run (Moment.after ⟨empty, disk⟩ steps)).1) ∧
    ∀ e, ((Step.get name).run (Moment.after ⟨empty, disk⟩ steps)).1 = .error e →
      ((Step.get name).run (Moment.after ⟨empty, disk⟩ steps)).2 =
        Moment.after ⟨empty, disk⟩ steps := by
  refine ⟨fun found ↦ ?_, fun hname ↦ ⟨run_get_of_isPlaceholder hname disk steps,
    fun m _ _ _ r ↦ get_of_isPlaceholder hname r⟩, fun others hothers ↦ ?_,
    fun e he ↦ Step.run_get_of_error he⟩
  · -- The answer is what is kept after the question, which the history settles.
    have hsettles := settles_find? disk (steps ++ [.get name]) name
    rw [Moment.after_append_singleton] at hsettles
    rw [Step.run_get_eq_ok_iff]
    refine ⟨fun hfound ↦ hfound ▸ hsettles, fun h ↦ hsettles.unique h⟩
  · have hagree : Moment.AgreeOn name ⟨empty, disk⟩ ⟨empty, disk⟩ := ⟨rfl, rfl⟩
    rw [(hagree.after_filter others).answer_eq, (hagree.after_filter steps).answer_eq, hothers]

/-- A disk without files. -/
def bareDisk : Disk := ⟨[], []⟩

/-- A disk with one file, which holds one letter. -/
def writtenDisk : Disk := ⟨[], [(["a"], .file [120])]⟩

/-- A file is looked up, and is written only then. -/
def lateSteps : List Step := [.get "a", .change writtenDisk, .get "b"]

/-- The file is there in the end, but the first look-up has settled that it is missing. A source
that is remembered under its name is found all the same. -/
theorem get_snapshot_late :
    writtenDisk.sourceAt "a" = .ok (some ⟨['x'], "a"⟩) ∧
      ((Step.get "a").run (Moment.after ⟨empty, bareDisk⟩ lateSteps)).1 = .ok (.source none) ∧
      ((Step.get "a").run (Moment.after ⟨empty, bareDisk⟩
        (lateSteps ++ [.remember ⟨['y'], "a"⟩]))).1 = .ok (.source (some ⟨['y'], "a"⟩)) := by
  have hmissing : Settles ⟨empty, bareDisk⟩ (lateSteps ++ [.get "a"]) "a" (some none) :=
    .read (by rfl) (by with_unfolding_all rfl) (by with_unfolding_all rfl)
  have hremembered : Settles ⟨empty, bareDisk⟩
      (lateSteps ++ [.remember ⟨['y'], "a"⟩] ++ [.get "a"]) "a" (some (some ⟨['y'], "a"⟩)) :=
    .remembered (by rfl)
  exact ⟨by with_unfolding_all rfl, ((get_snapshot _ _ _).1 _).2 hmissing,
    ((get_snapshot _ _ _).1 _).2 hremembered⟩

end Repository

end CoffeeTree
