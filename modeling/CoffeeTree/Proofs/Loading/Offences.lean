import CoffeeTree.Proofs.Loading.Demands

/-!
# The first offence

Loading stops at the first demand that a value does not meet, and its error names that demand. A
computation is described by the demands that it makes of a value (`Reports`): its error is the first
of them that is not met, and it succeeds if all are met. The demands of a sequence are those of its
parts in order, so the loaders are followed step by step, and the fields of all types at once by
`ReadsFields`.
-/

namespace CoffeeTree

/-- The error of a computation that failed. -/
def Traced.error? {ω ε α : Type} (c : Traced ω ε α) : Option ε :=
  match c.result with
  | .error e => some e
  | .ok _ => none

namespace Tree

open Json (Entries)

/-! ### Reports -/

section Reports

variable {α β : Type} {c : Load α} {path : Json.Path} {x y : Json} {d : Demand}
  {asked asked' : List Demand}

/-- The error of a computation is the first of the requirements that is not met. -/
def Reports (c : Load α) (path : Json.Path) (x : Json) (asked : List Demand) : Prop :=
  c.error? = (asked.find? fun d ↦ !d.met x).map fun d ↦ .violated (path ++ d.path) d.requirement

/-- What asks for nothing reports nothing. -/
theorem Reports.of_pure (a : α) : Reports (pure a) path x [] := rfl

/-- A demand that is not met is reported, whatever would be asked next. -/
theorem Reports.of_unmet {here : Json.Path} (hhere : here = path ++ d.path)
    (hunmet : d.met x = false) :
    Reports (violation here d.requirement : Load α) path x (d :: asked) := by
  rw [Reports, List.find?_cons_of_pos (by rw [hunmet]; rfl), hhere]
  rfl

/-- A demand that is met is passed over. -/
theorem Reports.of_met (hmet : d.met x = true) (h : Reports c path x asked) :
    Reports c path x (d :: asked) := by
  rw [Reports, List.find?_cons_of_neg (by simp [hmet])]
  exact h

/-- A sequence asks for what its parts ask for, in order. -/
theorem Reports.bind {next : α → Load β} (h : Reports c path x asked)
    (hnext : ∀ a, c.result = .ok a → Reports (next a) path x asked') :
    Reports (c >>= next) path x (asked ++ asked') := by
  rw [Reports, Traced.error?] at h
  rw [Reports, Traced.error?, Traced.bind_def, Traced.andThen, List.find?_append]
  cases hresult : c.result with
  | error e =>
    rw [hresult] at h
    obtain ⟨d, hd, he⟩ := Option.map_eq_some_iff.1 h.symm
    rw [hd, ← he]
    rfl
  | ok a =>
    rw [hresult] at h
    rw [Option.map_eq_none_iff.1 h.symm, Option.none_or]
    exact hnext a hresult

/-- What is made of the loaded value does not matter. -/
theorem Reports.map (h : Reports c path x asked) (f : α → β) :
    Reports (c >>= fun a ↦ pure (f a)) path x asked := by
  have hbind : Reports (c >>= fun a ↦ pure (f a)) path x (asked ++ []) :=
    h.bind fun a _ ↦ .of_pure (f a)
  rwa [List.append_nil] at hbind

/-- A demand on a part is met in the whole when it is met in the part. -/
theorem Demand.met_under {step : Json.Step} (hstep : x.step? step = some y) (d : Demand) :
    (d.under step).met x = d.met y := by
  rw [met, met, under, Json.follow?, hstep]

/-- What is asked inside a part of a value is asked of the value. -/
theorem Reports.under {step : Json.Step} (hstep : x.step? step = some y)
    (h : Reports c (path ++ [step]) y asked) :
    Reports c path x (asked.map (Demand.under step)) := by
  have hmet : ((fun d : Demand ↦ !d.met x) ∘ Demand.under step) = fun d ↦ !d.met y := by
    funext d
    rw [Function.comp_apply, Demand.met_under hstep]
  rw [Reports, List.find?_map, hmet, Option.map_map, h]
  congr 1
  funext d
  simp [Demand.under]

/-- A requirement of a value itself that is not met. -/
theorem reports_here {requirement : Requirement} (hunmet : requirement.metBy (some x) = false) :
    Reports (violation path requirement : Load α) path x (⟨[], requirement⟩ :: asked) := by
  have hmet : Demand.met x ⟨[], requirement⟩ = false := hunmet
  exact .of_unmet (List.append_nil path).symm hmet

end Reports

/-- The type in the value is the one of the tree that was loaded from it. -/
theorem typeIn?_eq {v : Json} {t : Tree} (h : HasTypeOf v t) : typeIn? v = some t.typeName := by
  rw [typeIn?, h.step?_eq_iff.2 rfl]

/-- A node of the type that is asked for meets the demand. -/
theorem metBy_of_eq {v : Json} {t : Tree} {type found : String} (h : HasTypeOf v t)
    (htype : t.typeName = type) : (Requirement.nodeOfType type found).metBy (some v) = true := by
  rw [Requirement.metBy, typeIn?_eq h, htype, beq_self_eq_true]

/-- A node of another type does not. -/
theorem metBy_of_ne {v : Json} {t : Tree} {type found : String} (h : HasTypeOf v t)
    (htype : t.typeName ≠ type) : (Requirement.nodeOfType type found).metBy (some v) = false := by
  rw [Requirement.metBy, typeIn?_eq h]
  simpa using htype

/-! ### Loaders -/

namespace Loader

variable {entries : Entries} {α : Type}

/-- The loader reports what is asked of the values that stand in a place. -/
def Asks (load : Loader entries α) (form : Form) : Prop :=
  ∀ path v h, Reports (load path v h) path v (demands form v)

/-- Strings and flags are asked for and nothing else. -/
theorem string_asks : Asks (@string entries) .string := by
  intro path v h
  rw [demands]
  cases v with
  | str text => exact .of_met rfl (.of_pure text)
  | _ => exact reports_here rfl

theorem boolean_asks : Asks (@boolean entries) .boolean := by
  intro path v h
  rw [demands]
  cases v with
  | bool b => exact .of_met rfl (.of_pure b)
  | _ => exact reports_here rfl

/-- The items of an array are asked one after the other, each at its index. -/
theorem items_reports {item : Loader entries α} {form : Form} (hitem : Asks item form)
    {path : Json.Path} {all : List Json} (i : Nat) (values : List Json)
    (h : sizeOf values < sizeOf entries) (hall : ∀ j, all[i + j]? = values[j]?) :
    Reports (items item path i values h) path (.arr all) (itemDemands form i values) := by
  induction values generalizing i with
  | nil =>
    rw [itemDemands]
    exact .of_pure []
  | cons v rest ih =>
    rw [itemDemands]
    have hstep : (Json.arr all).step? (.index i) = some v := hall 0
    have hrest : ∀ j, all[i + 1 + j]? = rest[j]? := by
      intro j
      rw [Nat.add_assoc, Nat.add_comm 1 j, hall, List.getElem?_cons_succ]
    refine ((hitem _ v (sizeOf_head_lt h)).under hstep).bind fun first _ ↦ ?_
    exact (ih (i + 1) (sizeOf_tail_lt h) hrest).map (first :: ·)

/-- An array is asked for before its items. -/
theorem array_asks {item : Loader entries α} {form : Form} (hcase : form ≠ .case)
    (hitem : Asks item form) : Asks (array item) (.array form) := by
  have harray : form.arrayOf = .array := by
    cases form with
    | case => exact absurd rfl hcase
    | _ => rfl
  intro path v h
  cases v with
  | arr values =>
    rw [demands, harray]
    refine .of_met rfl ?_
    exact items_reports hitem 0 values _ fun j ↦ by rw [Nat.zero_add]
  | _ =>
    rw [demands, harray]
    · exact reports_here rfl
    · simp

variable {node : Loader entries Tree} (hnode : AcceptsNodes node) (hasks : Asks node .node)

include hnode hasks

/-- A place for one type of nodes asks for the type when the node is known. -/
theorem asks_of_kind {keep : Json.Path → Tree → Load α} {type : String}
    (hkeep : ∀ path v t, HasTypeOf v t →
      Reports (keep path t) path v [⟨[], .nodeOfType type t.typeName⟩]) :
    Asks (fun path v h ↦ node path v h >>= keep path) (.nodeOf type) := by
  intro path v h
  rw [demands]
  refine (hasks path v h).bind fun t ht ↦ ?_
  have htype : HasTypeOf v t := (hnode path v h).result t ht
  rw [typeIn?_eq htype]
  exact hkeep path v t htype

/-- First a node is asked for, and then that it is a block. -/
theorem block_asks : Asks (block node) (.nodeOf "Block") := by
  refine asks_of_kind hnode hasks fun path v t ht ↦ ?_
  cases t with
  | block b => exact .of_met (metBy_of_eq ht rfl) (.of_pure b)
  | unknown location name payload =>
    exact reports_here (metBy_of_ne ht (ht.typeName_ne (by decide)))
  | _ => exact reports_here (metBy_of_ne ht (by simp [typeName]))

theorem literal_asks : Asks (literal node) (.nodeOf "Literal") := by
  refine asks_of_kind hnode hasks fun path v t ht ↦ ?_
  cases t with
  | literal l => exact .of_met (metBy_of_eq ht rfl) (.of_pure l)
  | unknown location name payload =>
    exact reports_here (metBy_of_ne ht (ht.typeName_ne (by decide)))
  | _ => exact reports_here (metBy_of_ne ht (by simp [typeName]))

theorem param_asks : Asks (param node) (.nodeOf "Param") := by
  refine asks_of_kind hnode hasks fun path v t ht ↦ ?_
  cases t with
  | param p => exact .of_met (metBy_of_eq ht rfl) (.of_pure p)
  | unknown location name payload =>
    exact reports_here (metBy_of_ne ht (ht.typeName_ne (by decide)))
  | _ => exact reports_here (metBy_of_ne ht (by simp [typeName]))

omit hnode in
/-- An array of conditions is not asked for: a value that is no array is a condition by itself. -/
theorem conditions_asks : Asks (conditions node) .conditions := by
  intro path v h
  cases v with
  | arr values =>
    rw [demands]
    have hitems : Reports (items node path 0 values (sizeOf_items_lt h)) path (.arr values)
        (itemDemands .node 0 values) :=
      items_reports hasks 0 values _ fun j ↦ by rw [Nat.zero_add]
    exact hitems.map Conditions.many
  | _ =>
    rw [demands]
    · exact (hasks path _ h).map Conditions.one
    · simp

/-- Of a case the pair comes first, then the conditions, then the body. -/
theorem case_asks : Asks (case node) .case := by
  intro path v h
  by_cases hpair : ∃ tests body, v = .arr [tests, body]
  · obtain ⟨tests, body, rfl⟩ := hpair
    rw [demands]
    refine .of_met rfl ?_
    refine ((conditions_asks hasks _ tests _).under rfl).bind fun loaded _ ↦ ?_
    exact ((block_asks hnode hasks _ body _).under rfl).map (Case.mk loaded)
  · rw [case_of_not_pair node path v h hpair, demands]
    · refine reports_here ?_
      cases v with
      -- Of the arrays only those of two values are pairs.
      | arr values =>
        rcases values with _ | ⟨first, _ | ⟨second, _ | ⟨third, rest⟩⟩⟩
        · rfl
        · rfl
        · exact absurd ⟨first, second, rfl⟩ hpair
        · rfl
      | _ => rfl
    · intro tests body hv
      exact hpair ⟨tests, body, hv⟩

theorem cases_asks : Asks (cases node) (.array .case) := by
  intro path v h
  cases v with
  | arr values =>
    rw [demands]
    refine .of_met rfl ?_
    exact items_reports (case_asks hnode hasks) 0 values _ fun j ↦ by rw [Nat.zero_add]
  | _ =>
    rw [demands]
    · exact reports_here rfl
    · simp

/-- Every loader asks for what its form asks for. -/
theorem asks_of_reads {form : Form} {load load' : Loader entries α}
    (h : Reads node node form load load') : Asks load form := by
  induction h with
  | string => exact string_asks
  | boolean => exact boolean_asks
  | node => exact hasks
  | block => exact block_asks hnode hasks
  | literal => exact literal_asks hnode hasks
  | param => exact param_asks hnode hasks
  | array hcase _ ih => exact array_asks hcase ih
  | conditions => exact conditions_asks hasks
  | case => exact case_asks hnode hasks
  | cases => exact cases_asks hnode hasks

end Loader

/-! ### Fields -/

section Fields

open Loader (AcceptsNodes Asks)

variable {α : Type} {path : Json.Path} {type key : String} {entries : Entries} {form : Form}

/-- What is asked of a key is asked of its value. -/
theorem met_key {requirement : Requirement} :
    Demand.met (.obj entries) ⟨[.key key], requirement⟩ =
      requirement.metBy (entries.get? key) := by
  rw [Demand.met, Json.follow?, Json.step?]
  cases entries.get? key <;> rfl

/-- What is wrong with a field is reported at its key. -/
theorem reports_key {requirement : Requirement} {asked : List Demand}
    (hunmet : requirement.metBy (entries.get? key) = false) :
    Reports (violation (path ++ [.key key]) requirement : Load α) path (.obj entries)
      (⟨[.key key], requirement⟩ :: asked) := by
  rw [← met_key] at hunmet
  exact .of_unmet rfl hunmet

/-- A field that is there is not null, and it stands where its key leads. -/
theorem field_reports {c : Load α} {required : Bool}
    {found : { v : Json // sizeOf v < sizeOf entries }} (hfound : present? key entries = some found)
    (h : Reports c (path ++ [.key key]) found.1 (demands form found.1)) :
    Reports c path (.obj entries) (ruleDemands type entries ⟨key, required, form⟩) := by
  obtain ⟨hget, hnull⟩ := get?_of_present? hfound
  have hstep : (Json.obj entries).step? (.key key) = some found.1 := hget
  have hvalue := h.under hstep
  rw [ruleDemands, hfound]
  cases required with
  | false => exact hvalue
  | true =>
    refine .of_met ?_ hvalue
    rw [met_key, hget]
    cases hv : found.1 with
    | null => exact absurd hv hnull
    | _ => rfl

/-- A required field is asked to be there before its value is looked at. -/
theorem required_reports {load : Loader entries α} (hload : Asks load form) :
    Reports (Context.required ⟨path, type, entries⟩ key load) path (.obj entries)
      (ruleDemands type entries ⟨key, true, form⟩) := by
  unfold Context.required
  cases hfound : present? key entries with
  | some found => exact field_reports hfound (hload _ found.1 found.2)
  | none =>
    rw [ruleDemands, hfound]
    refine reports_key ?_
    cases hget : entries.get? key with
    | none => rfl
    | some v =>
      obtain rfl : v = .null := present?_eq_none_iff.1 hfound v hget
      rfl

/-- An optional field is looked at if it is there. -/
theorem optional_reports {load : Loader entries α} (hload : Asks load form) :
    Reports (Context.optional ⟨path, type, entries⟩ key load) path (.obj entries)
      (ruleDemands type entries ⟨key, false, form⟩) := by
  unfold Context.optional
  cases hfound : present? key entries with
  | some found => exact field_reports hfound ((hload _ found.1 found.2).map some)
  | none =>
    rw [ruleDemands, hfound]
    exact .of_pure none

/-- What is asked of the fields is asked in the order of the rules. -/
theorem ReadsFields.reports {node : Loader entries Tree} (hnode : AcceptsNodes node)
    (hasks : Asks node .node) {rules : List FieldRule} {c c' : Load Tree}
    (h : ReadsFields path type node node rules c c') :
    Reports c path (.obj entries) (rules.flatMap fun rule ↦ ruleDemands type entries rule) := by
  induction h with
  | @done t _ => exact .of_pure t
  | required hload _ ih =>
    rw [List.flatMap_cons]
    exact (required_reports (Loader.asks_of_reads hnode hasks hload)).bind fun a _ ↦ ih a
  | optional hload _ ih =>
    rw [List.flatMap_cons]
    exact (optional_reports (Loader.asks_of_reads hnode hasks hload)).bind fun a _ ↦ ih a

/-- **The fields of a node are asked for in the order of the table.** -/
theorem loadFields_reports {location : Option Location} {node : Loader entries Tree}
    (hnode : AcceptsNodes node) (hasks : Asks node .node) :
    Reports (loadFields ⟨path, type, entries⟩ location node) path (.obj entries)
      ((fieldsOf type).flatMap fun rule ↦ ruleDemands type entries rule) := by
  by_cases hknown : type ∈ nodeTypes
  · exact (loadFields_reads node node hknown).reports hnode hasks
  · rw [fieldsOf_of_not_mem hknown, loadFields_of_not_mem hknown]
    rfl

end Fields

/-! ### Types and locations -/

section

variable {path : Json.Path} {entries : Entries}

theorem loadType_reports :
    Reports (loadType path entries) path (.obj entries) [⟨[.key "type"], .typeName⟩] := by
  rw [loadType]
  cases hget : entries.get? "type" with
  | none => exact reports_key (by rw [hget]; rfl)
  | some v =>
    cases v with
    | str type =>
      by_cases hempty : type.isEmpty
      · simp only [if_pos hempty]
        refine reports_key ?_
        rw [hget, Requirement.metBy, hempty]
        rfl
      · simp only [if_neg hempty]
        refine .of_met ?_ (.of_pure type)
        rw [met_key, hget, Requirement.metBy, Bool.eq_false_iff.2 hempty]
        rfl
    | _ => exact reports_key (by rw [hget]; rfl)

theorem loadCoordinate_reports {key : String} :
    Reports (loadCoordinate path entries key) path (.obj entries) [⟨[.key key], .coordinate⟩] := by
  rw [loadCoordinate]
  cases hget : entries.get? key with
  | none => exact reports_key (by rw [hget]; rfl)
  | some v =>
    cases v with
    | int n =>
      by_cases hn : 0 ≤ n
      · simp only [if_pos hn]
        refine .of_met ?_ (.of_pure n.toNat)
        rw [met_key, hget, Requirement.metBy, decide_eq_true hn]
      · simp only [if_neg hn]
        refine reports_key ?_
        rw [hget, Requirement.metBy, decide_eq_false hn]
    | _ => exact reports_key (by rw [hget]; rfl)

/-- The location is asked to be an object, and then for its coordinates in turn. -/
theorem loadLocation_reports :
    Reports (loadLocation path entries) path (.obj entries) (locationDemands entries) := by
  rw [loadLocation, locationDemands]
  cases hget : entries.get? "locationData" with
  | none => exact .of_met (by rw [met_key, hget]; rfl) (.of_pure none)
  | some v =>
    cases v with
    | null => exact .of_met (by rw [met_key, hget]; rfl) (.of_pure none)
    | obj fields =>
      refine .of_met (by rw [met_key, hget]; rfl) ?_
      -- The coordinates are asked for one by one, inside the object of the location.
      have hstep : (Json.obj entries).step? (.key "locationData") = some (.obj fields) := hget
      have hcoordinate : ∀ key, Reports
          (loadCoordinate (path ++ [.key "locationData"]) fields key) path (.obj entries)
          [⟨[.key "locationData", .key key], .coordinate⟩] :=
        fun key ↦ loadCoordinate_reports.under hstep
      refine (hcoordinate "first_line").bind fun firstLine _ ↦ ?_
      refine (hcoordinate "first_column").bind fun firstColumn _ ↦ ?_
      refine (hcoordinate "last_line").bind fun lastLine _ ↦ ?_
      exact (hcoordinate "last_column").map _
    | _ => exact reports_key (by rw [hget]; rfl)

end

/-! ### Trees -/

/-- **The error of a node is its first offence.** -/
theorem loadNode_reports (path : Json.Path) (x : Json) :
    Reports (loadNode path x) path x (demands .node x) := by
  induction path, x using loadNode.induct with
  | case1 path entries ih =>
    rw [loadNode_obj, demands]
    refine .of_met rfl ?_
    rw [← List.singleton_append]
    refine loadType_reports.bind fun type htype ↦ ?_
    refine loadLocation_reports.bind fun location _ ↦ ?_
    have hfound : typeIn? (.obj entries) = some type := by
      rw [typeIn?, Json.step?, (loadType_eq_ok_iff.1 htype).1]
    rw [hfound, Option.toList_some, List.flatMap_singleton]
    exact loadFields_reports (fun inner v _ ↦ loadNode_loads inner v)
      fun inner v hv ↦ ih type inner v hv
  | case2 path x hx =>
    rw [loadNode_of_not_obj hx, demands_of_not_obj hx]
    refine reports_here ?_
    cases x with
    | obj entries => exact absurd rfl (hx entries)
    | _ => rfl

/-! ### Rejected trees -/

/-- Loading a node fails with its first offence and with nothing else. -/
theorem loadNode_eq_error_iff {x : Json} {e : FormatError} :
    (loadNode [] x).result = .error e ↔
      ∃ path requirement, e = .violated path requirement ∧ FirstOffence x path requirement := by
  have herror : (loadNode [] x).result = .error e ↔ (loadNode [] x).error? = some e := by
    rw [Traced.error?]
    cases (loadNode [] x).result <;> simp
  rw [herror, loadNode_reports [] x, Option.map_eq_some_iff]
  constructor
  · rintro ⟨v, hv, rfl⟩
    exact ⟨v.path, v.requirement, rfl, firstOffence_iff.2 hv⟩
  · rintro ⟨path, requirement, rfl, h⟩
    exact ⟨⟨path, requirement⟩, firstOffence_iff.1 h, rfl⟩

/-- A tree is rejected for its first offence, or for the type of its root. -/
theorem load_eq_error_iff {x : Json} {e : FormatError} :
    (load x).result = .error e ↔
      (∃ path requirement, e = .violated path requirement ∧ FirstOffence x path requirement) ∨
        ∃ found, e = .rootType found ∧ Conforms .node x ∧ typeIn? x = some found ∧
          found ≠ "Block" := by
  have hloads := loadNode_loads [] x
  rw [← loadNode_eq_error_iff, load, Traced.bind_def, Traced.andThen]
  cases hresult : (loadNode [] x).result with
  | error e' =>
    have hno : ¬ Conforms .node x := by
      rw [← hloads.succeeds_iff, hresult]
      simp
    simp [hno]
  | ok t =>
    have htype : HasTypeOf x t := hloads.result t hresult
    have hconforms : Conforms .node x := hloads.succeeds_iff.1 ⟨t, hresult⟩
    have hroot : (∃ found, e = .rootType found ∧ Conforms .node x ∧ typeIn? x = some found ∧
        found ≠ "Block") ↔ t.typeName ≠ "Block" ∧ .rootType t.typeName = e := by
      simp only [typeIn?_eq htype, hconforms, Option.some_inj]
      constructor
      · rintro ⟨found, rfl, -, rfl, hne⟩
        exact ⟨hne, rfl⟩
      · rintro ⟨hne, rfl⟩
        exact ⟨t.typeName, rfl, trivial, rfl, hne⟩
    rw [hroot]
    cases t with
    | block root => simp [typeName]
    -- An unknown node cannot be called a block, since that is a known type.
    | unknown location name payload =>
      have hname : name ≠ "Block" := htype.typeName_ne (by decide)
      simp [Traced.fail, typeName, hname]
    | _ => simp [Traced.fail, typeName]

/-- The message names the place first. -/
theorem message_violated (path : Json.Path) (requirement : Requirement) :
    FormatError.message (.violated path requirement) =
      "`" ++ path.text ++ "`" ++ (" " ++ requirement.text) := by
  show "`" ++ path.text ++ ("`" ++ " ") ++ requirement.text = _
  simp only [String.append_assoc]

/-- **A tree that is rejected is rejected for its first offence**, unless it is only its root that
is of another type. The message starts with the path of the offence in back quotes, and no other
path whose keys are words has a message that reads the same. -/
theorem load_rejects_first_offence (x : Json) (e : FormatError) :
    ((load x).result = .error e ∧ ∀ found, e ≠ .rootType found) ↔
      ∃ path requirement, FirstOffence x path requirement ∧ e = .violated path requirement ∧
        e.message = "`" ++ path.text ++ "` " ++ requirement.text ∧
        ∀ path' requirement', path'.Worded →
          FormatError.message (.violated path' requirement') = e.message → path' = path := by
  rw [load_eq_error_iff]
  constructor
  · rintro ⟨⟨path, requirement, rfl, h⟩ | ⟨found, rfl, -⟩, hroot⟩
    · refine ⟨path, requirement, h, rfl, rfl, fun path' requirement' hworded hmessage ↦ ?_⟩
      rw [message_violated, message_violated] at hmessage
      exact Json.Path.eq_of_text_append hworded h.worded hmessage
    · exact absurd rfl (hroot found)
  · rintro ⟨path, requirement, h, rfl, -⟩
    exact ⟨.inl ⟨path, requirement, rfl, h⟩, nofun⟩

/-- A switch whose first case has a literal for its body. There are more offences after the first:
a case that is no pair, and a number in the place of a block. -/
def offendingTree : Json :=
  .obj [("expressions", .arr [.obj [("otherwise", .int 0),
      ("cases", .arr [
        .arr [.arr [.obj [("type", .str "Null")]],
          .obj [("value", .str "1"), ("type", .str "Literal")]],
        .bool true]),
      ("type", .str "Switch")]]),
    ("type", .str "Block")]

theorem load_rejects_first_offence_case :
    (load offendingTree).result = .error (.violated
        [.key "expressions", .index 0, .key "cases", .index 0, .index 1]
        (.nodeOfType "Block" "Literal")) ∧
      FirstOffence offendingTree [.key "expressions", .index 0, .key "cases", .index 0, .index 1]
        (.nodeOfType "Block" "Literal") := by
  have hload : (load offendingTree).result = .error (.violated
      [.key "expressions", .index 0, .key "cases", .index 0, .index 1]
      (.nodeOfType "Block" "Literal")) := by
    with_unfolding_all rfl
  refine ⟨hload, ?_⟩
  obtain ⟨path, requirement, h, heq, -⟩ :=
    (load_rejects_first_offence offendingTree _).1 ⟨hload, nofun⟩
  obtain ⟨rfl, rfl⟩ := FormatError.violated.inj heq
  exact h

end Tree

end CoffeeTree
