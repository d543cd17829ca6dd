import CoffeeTree.Proofs.Ancestry

/-!
# Converters that serve several requests

A `Converter` keeps what its requests have clamped and hands itself on from one request to the next.
Inside a request it does the same from one step to the next: to run a sequence of steps is to run
the first one and to go on with the converter that it left, and where a step fails the converter
stays as the step left it (`Converter.run_bind`).

Requests that are served one after the other are the steps of one conversion, in which a request
that fails is answered by its error (`Converter.session`, `Converter.run_session`). What that
conversion gives and records is put together from what each request gives and records on its own. So
a converter serves each of several requests as a new one would, those after a failed request
included, and what it has clamped in the end is what new converters would have clamped, one after
the other (`Converter.serveAll_eq`).
-/

namespace CoffeeTree

namespace Converter

/-! ### Steps -/

section

variable {α β : Type}

/-- Runs one step, and the next one on the converter that the first one left, unless that one
failed. -/
def runBoth (c : Converter) (first : Source → Conversion α) (next : α → Source → Conversion β) :
    Except ConversionError β × Converter :=
  match c.run first with
  | (.error e, left) => (.error e, left)
  | (.ok a, left) => left.run (next a)

/-- **A sequence of steps hands the converter on.** -/
theorem run_bind (c : Converter) (first : Source → Conversion α)
    (next : α → Source → Conversion β) :
    c.run (fun source ↦ first source >>= fun a ↦ next a source) = c.runBoth first next := by
  rw [runBoth, run, run]
  rcases hresult : (first c.source).result with e | a
  · rw [Traced.events_bind_of_error hresult, Traced.bind_def, Traced.andThen, hresult]
  · rw [Traced.events_bind_of_ok hresult, Traced.bind_def, Traced.andThen, hresult,
      ← List.append_assoc]
    rfl

end

/-! ### Requests -/

/-- What a converter is asked for: a whole program, or any node below given ancestors. -/
inductive Request where
  | program (root : Tree.Block Tree)
  | node (ancestors : List String) (tree : Tree)

/-- The conversion that is asked for. Only an empty block gives no node. -/
def Request.conversion : Request → Source → Conversion (Option Node)
  | .program root, source => do
    let node ← Convert.program source root
    pure (some node)
  | .node ancestors tree, source => Convert.node? source ancestors tree

abbrev Answer := Except ConversionError (Option Node)

/-- Serves one request. -/
def serve (c : Converter) (request : Request) : Answer × Converter := c.run request.conversion

/-- Serves requests one after the other, each on the converter that the one before left. -/
def serveAll (c : Converter) : List Request → List Answer × Converter
  | [] => ([], c)
  | request :: rest =>
    let (answer, left) := c.serve request
    let (answers, last) := left.serveAll rest
    (answer :: answers, last)

theorem serveAll_cons (c : Converter) (request : Request) (rest : List Request) :
    c.serveAll (request :: rest) = ((c.serve request).1 :: ((c.serve request).2.serveAll rest).1,
      ((c.serve request).2.serveAll rest).2) :=
  rfl

/-! ### Requests as steps -/

/-- Gives the answer of a conversion, also where that one fails. -/
def attempt {α : Type} (c : Conversion α) : Conversion (Except ConversionError α) :=
  ⟨c.events, .ok c.result⟩

/-- The conversion that answers requests one after the other. -/
def session : List Request → Source → Conversion (List Answer)
  | [], _ => pure []
  | request :: rest, source => do
    let answer ← attempt (request.conversion source)
    let answers ← session rest source
    pure (answer :: answers)

theorem run_pure {α : Type} (c : Converter) (a : α) : c.run (fun _ ↦ pure a) = (.ok a, c) := by
  rw [run, Traced.pure_events, Traced.pure_result, List.append_nil]

/-- Serving a request is running it as a step that does not fail. -/
theorem run_attempt (c : Converter) (request : Request) :
    c.run (fun source ↦ attempt (request.conversion source)) =
      (.ok (c.serve request).1, (c.serve request).2) :=
  rfl

/-- **Serving requests is running one conversion.** The converter that a request leaves is the one
that the next step starts with. -/
theorem run_session (c : Converter) (requests : List Request) :
    c.run (session requests) = (.ok (c.serveAll requests).1, (c.serveAll requests).2) := by
  induction requests generalizing c with
  | nil => exact c.run_pure []
  | cons request rest ih =>
    have hrest (left : Converter) (answer : Answer) :
        left.run (fun source ↦ session rest source >>= fun answers ↦ pure (answer :: answers)) =
          (.ok (answer :: (left.serveAll rest).1), (left.serveAll rest).2) := by
      rw [run_bind, runBoth, ih]
      exact run_pure _ _
    have hsteps : c.run (session (request :: rest)) =
        c.runBoth (fun source ↦ attempt (request.conversion source)) fun answer source ↦
          session rest source >>= fun answers ↦ pure (answer :: answers) :=
      c.run_bind _ _
    rw [hsteps, runBoth, run_attempt, serveAll_cons]
    exact hrest _ _

/-- What the requests give and record, each on its own. -/
theorem session_eq (requests : List Request) (source : Source) :
    session requests source = ⟨requests.flatMap fun request ↦ (request.conversion source).events,
      .ok (requests.map fun request ↦ (request.conversion source).result)⟩ := by
  induction requests with
  | nil => rfl
  | cons request rest ih =>
    rw [session, ih, List.flatMap_cons, List.map_cons]
    show Traced.mk ((request.conversion source).events ++ (rest.flatMap _ ++ [])) _ = _
    rw [List.append_nil]
    rfl

/-- Each request is served as by a new converter. Only the records add up. -/
theorem serveAll_eq_map (c : Converter) (requests : List Request) :
    c.serveAll requests =
      (requests.map fun request ↦ ((ofSource c.source).serve request).1,
        ⟨c.source, c.clamped ++ requests.flatMap fun request ↦
          ((ofSource c.source).serve request).2.clamped⟩) := by
  have hrun := c.run_session requests
  rw [run, session_eq] at hrun
  obtain ⟨hanswers, hleft⟩ := Prod.mk.inj hrun
  exact Prod.ext (Except.ok.inj hanswers).symm hleft.symm

/-- A request below more ancestors is the same one, up to the ancestors of its error. -/
theorem serve_below (c : Converter) (outer ancestors : List String) (tree : Tree) :
    c.serve (.node (outer ++ ancestors) tree) =
      ((c.serve (.node ancestors tree)).1.mapError (.below outer),
        (c.serve (.node ancestors tree)).2) := by
  rw [serve, run, Request.conversion, Convert.node?_below]
  rfl

/-- **A converter serves each request as a new one would.** The answers are those of new converters,
also after a request that failed, and what has been clamped in the end is what new converters would
have clamped, in order, with what a failed request had clamped before it failed. Moreover, more
ancestors in front of those of a node change neither the answer nor what is clamped, except that
they stand in front of the ancestors that an error names. -/
theorem serveAll_eq (source : Source) (requests : List Request) :
    (ofSource source).serveAll requests =
        (requests.map fun request ↦ ((ofSource source).serve request).1,
          ⟨source, requests.flatMap fun request ↦ ((ofSource source).serve request).2.clamped⟩) ∧
      ∀ (outer ancestors : List String) (tree : Tree),
        (ofSource source).serve (.node (outer ++ ancestors) tree) =
          (((ofSource source).serve (.node ancestors tree)).1.mapError (.below outer),
            ((ofSource source).serve (.node ancestors tree)).2) :=
  ⟨serveAll_eq_map (ofSource source) requests, serve_below (ofSource source)⟩

end Converter

end CoffeeTree
