import CoffeeTree.Proofs.Containment
import CoffeeTree.Proofs.Rendering.Basic
import CoffeeTree.Proofs.Rendering.Comparison

/-!
# The JSON form loses nothing

Two nodes are the same exactly when their documents are (`toJson_lossless`). One flat object holds
the type of a node, its place and its fields, so this rests on three facts: the type settles which
fields there are and of which sort, no key stands twice, and no two sorts of values look alike where
both could stand. With them, one step compares two documents by the places and the kinds of the
nodes and the documents of their parts (`Node.same_toJson_iff`), and the rest is induction.

The document may leave out the text of the nodes. It leaves out nothing else
(`Node.toJson_eq_without`), and in the output of the converter the text says nothing new, since it
is the text of the range.
-/

namespace CoffeeTree

variable {doubles : Binary64 → Binary64 → Prop} {raw : Bool}

/-! ### What the type of a node settles -/

theorem Kind.mem_all (kind : Kind) : kind ∈ all := by
  cases kind with
  | binary operator => cases operator <;> decide
  | unary operator => cases operator <;> decide
  | function bound => cases bound <;> decide
  | _ => decide

/-- Kinds are told apart by their names. -/
theorem Kind.name_injective : Function.Injective name := by
  have hnodup : (all.map name).Nodup := by decide
  exact fun kind kind' h ↦ List.inj_on_of_nodup_map hnodup kind.mem_all kind'.mem_all h

/-- What sort of thing a part is that is not a node. -/
inductive ScalarSort where
  | str
  | int
  | float
  | bool

def Scalar.sort : Scalar → ScalarSort
  | str _ => .str
  | int _ => .int
  | float _ => .float
  | bool _ => .bool

/-- What sort of thing a field holds. -/
inductive FieldSort where
  | scalar (sort : ScalarSort)
  | one
  | opt
  | many

def Field.sort {α : Type} : Field α → FieldSort
  | scalar value => .scalar value.sort
  | one _ => .one
  | opt _ => .opt
  | many _ => .many

/-- Shapes of one kind have fields of the same names and sorts, in the same order. -/
theorem Shape.fields_alike {α β : Type} {s : Shape α} {t : Shape β} (h : s.kind = t.kind) :
    List.Forall₂ (fun entry entry' ↦ entry.1 = entry'.1 ∧ entry.2.sort = entry'.2.sort)
      s.fields t.fields := by
  have hmap : s.fields.map (fun entry ↦ (entry.1, entry.2.sort)) =
      t.fields.map (fun entry ↦ (entry.1, entry.2.sort)) := by
    cases s <;> cases t <;> simp only [kind, reduceCtorEq] at h <;> rfl
  rw [← List.forall₂_eq_eq_eq, List.forall₂_map_left_iff, List.forall₂_map_right_iff] at hmap
  exact hmap.imp fun _ _ heq ↦ Prod.mk.inj heq

/-! ### Fields -/

/-- Scalars of one sort are told apart by what is written for them. -/
theorem Scalar.same_of_toJson {x y : Scalar} (hsort : x.sort = y.sort)
    (h : Json.Same doubles x.toJson y.toJson) : x.Same doubles y := by
  cases x <;> cases y <;> simp only [sort, reduceCtorEq] at hsort <;> simpa [toJson, Same] using h

theorem Scalar.Same.toJson {x y : Scalar} (h : x.Same doubles y) :
    Json.Same doubles x.toJson y.toJson := by
  cases x <;> cases y <;> simp_all [Scalar.toJson, Scalar.Same]

/-- A node is never taken for nothing. -/
theorem Node.not_same_null_toJson (n : Node) : ¬ Json.Same doubles .null (n.toJson raw) := by
  rw [toJson_eq]
  exact Json.not_same_null_obj

theorem Node.not_same_toJson_null (n : Node) : ¬ Json.Same doubles (n.toJson raw) .null := by
  rw [toJson_eq]
  exact Json.not_same_obj_null

/-- Of two fields of one sort, the documents tell whether they hold the same: a missing part is no
object, and a part that is there is one. -/
theorem Field.same_of_toJson {x y : Field Node} (hsort : x.sort = y.sort)
    (h : Json.Same doubles (x.map (Node.toJson raw)).toJson (y.map (Node.toJson raw)).toJson) :
    x.Same doubles (fun a b ↦ Json.Same doubles (a.toJson raw) (b.toJson raw)) y := by
  cases x <;> cases y <;> simp only [sort, reduceCtorEq, FieldSort.scalar.injEq] at hsort
  case scalar.scalar => exact .scalar (Scalar.same_of_toJson hsort h)
  case one.one => exact .one h
  case opt.opt part part' =>
    rcases part with _ | a <;> rcases part' with _ | b
    · exact .opt .none
    · exact absurd h (Node.not_same_null_toJson b)
    · exact absurd h (Node.not_same_toJson_null a)
    · exact .opt (.some h)
  case many.many parts parts' =>
    have hparts := Json.same_arr_iff.1 h
    rw [List.forall₂_map_left_iff, List.forall₂_map_right_iff] at hparts
    exact .many hparts

/-- Fields with the same parts are written alike. -/
theorem Field.Same.toJson {x y : Field Node}
    (h : x.Same doubles (fun a b ↦ Json.Same doubles (a.toJson raw) (b.toJson raw)) y) :
    Json.Same doubles (x.map (Node.toJson raw)).toJson (y.map (Node.toJson raw)).toJson := by
  cases h with
  | scalar h => exact h.toJson
  | one h => exact h
  | opt h =>
    cases h with
    | none => exact .null
    | some h => exact h
  | many h =>
    refine .arr ?_
    rw [List.forall₂_map_left_iff, List.forall₂_map_right_iff]
    exact h

/-! ### Places -/

/-- The place as a document shows it: with its text or without. -/
def Place.shown (raw : Bool) (place : Place) : Place :=
  if raw then place else { place with raw := "" }

/-- What is not shown of a place is not written. -/
theorem Place.entries_shown (raw : Bool) (place : Option Place) :
    entries raw (place.map (shown raw)) = entries raw place := by
  cases place <;> cases raw <;> rfl

/-- A place has no doubles in it. -/
theorem Place.same_entries (raw : Bool) (place : Option Place) :
    ∀ entry ∈ entries raw place, Json.Same doubles entry.2 entry.2 := by
  have hint : ∀ n : Int, Json.Same doubles (.int n) (.int n) := fun _ ↦ .integer rfl rfl
  cases place with
  | none => exact List.forall_mem_singleton.2 (.integer rfl rfl)
  | some place =>
    refine List.forall_mem_append.2 ⟨List.forall_mem_cons.2 ⟨hint _, List.forall_mem_cons.2
      ⟨hint _, List.forall_mem_singleton.2 (.arr (.cons (hint _) (.cons (hint _) .nil)))⟩⟩, ?_⟩
    cases raw with
    | false => exact fun _ h ↦ absurd h List.not_mem_nil
    | true => exact List.forall_mem_singleton.2 (.str place.raw)

/-- Places whose entries are the same are shown alike. -/
theorem Place.shown_eq_of_same {p q : Place}
    (h : ∀ key v w, (key, v) ∈ entries raw (some p) → (key, w) ∈ entries raw (some q) →
      Json.Same doubles v w) : p.shown raw = q.shown raw := by
  have hline := h "line" (.int p.line) (.int q.line) (by simp [entries]) (by simp [entries])
  have hcolumn := h "column" (.int p.column) (.int q.column) (by simp [entries]) (by simp [entries])
  have hrange := h "range" (.arr [.int p.range.start, .int p.range.stop])
    (.arr [.int q.range.start, .int q.range.stop]) (by simp [entries]) (by simp [entries])
  obtain ⟨line, column, ⟨start, stop⟩, text⟩ := p
  obtain ⟨line', column', ⟨start', stop'⟩, text'⟩ := q
  simp only [Json.same_int_iff, Int.natCast_inj] at hline hcolumn
  simp only [Json.same_arr_iff, List.forall₂_cons, Json.same_int_iff] at hrange
  obtain ⟨hstart, hstop, -⟩ := hrange
  cases raw with
  | false => simp [shown, hline, hcolumn, hstart, hstop]
  | true =>
    have hraw := h "raw" (.str text) (.str text') (by simp [entries]) (by simp [entries])
    simp [shown, hline, hcolumn, hstart, hstop, Json.same_str_iff.1 hraw]

namespace Node

variable {a b : Node}

/-- Documents that are the same show the same place. -/
theorem shown_eq_of_same
    (h : ∀ key, Option.Rel (Json.Same doubles) ((a.entries raw).get? key)
      ((b.entries raw).get? key)) :
    a.place.map (Place.shown raw) = b.place.map (Place.shown raw) := by
  have hvirtual : ∀ {n : Node}, n.place = none →
      (n.entries raw).get? "virtual" = some (.bool true) :=
    fun hn ↦ get?_place (hn ▸ List.mem_singleton_self _)
  -- Only virtual nodes say that they are virtual.
  rcases ha : a.place with _ | p <;> rcases hb : b.place with _ | q
  · rfl
  · have hkey := h "virtual"
    rw [hvirtual ha, get?_virtual hb] at hkey
    cases hkey
  · have hkey := h "virtual"
    rw [get?_virtual ha, hvirtual hb] at hkey
    cases hkey
  · have hvalues : ∀ key v w, (key, v) ∈ Place.entries raw (some p) →
        (key, w) ∈ Place.entries raw (some q) → Json.Same doubles v w := by
      intro key v w hv hw
      have hkey := h key
      rw [get?_place (ha ▸ hv), get?_place (hb ▸ hw), Option.rel_some_some] at hkey
      exact hkey
    exact congrArg some (Place.shown_eq_of_same hvalues)

/-- **One step of comparing documents.** -/
theorem same_toJson_iff :
    Json.Same doubles (a.toJson raw) (b.toJson raw) ↔
      a.place.map (Place.shown raw) = b.place.map (Place.shown raw) ∧
        a.shape.Same doubles (fun c d ↦ Json.Same doubles (c.toJson raw) (d.toJson raw))
          b.shape := by
  rw [toJson_eq, toJson_eq, Json.same_obj_iff]
  constructor
  · intro h
    -- The type settles the kind, and the kind settles which fields there are.
    have htype := h "type"
    rw [get?_type, get?_type, Option.rel_some_some, Json.same_str_iff] at htype
    have hkind : a.shape.kind = b.shape.kind := Kind.name_injective htype
    refine ⟨shown_eq_of_same h, hkind, ?_⟩
    refine forall₂_imp_of_mem (Shape.fields_alike hkind) fun entry hentry entry' hentry' halike ↦ ?_
    have hfield := h entry.1.camel
    rw [get?_field hentry, halike.1, get?_field hentry', Option.rel_some_some] at hfield
    exact ⟨halike.1, Field.same_of_toJson halike.2 hfield⟩
  · rintro ⟨hplace, hkind, hfields⟩
    refine Json.same_obj_iff.1 (.of_entries ?_)
    have htype : a.kind.name = b.kind.name := congrArg Kind.name hkind
    have hplaces : Place.entries raw a.place = Place.entries raw b.place := by
      rw [← Place.entries_shown, hplace, Place.entries_shown]
    rw [entries, entries, htype, hplaces]
    refine .cons ⟨rfl, .str _⟩ (List.rel_append ?_ ?_)
    · exact List.forall₂_same.2 fun entry hentry ↦ ⟨rfl, Place.same_entries _ _ entry hentry⟩
    · rw [List.forall₂_map_left_iff, List.forall₂_map_right_iff]
      exact hfields.imp fun entry entry' hentry ↦
        ⟨congrArg FieldName.camel hentry.1, hentry.2.toJson⟩

/-- Nodes are the same exactly when their documents are, if their places are equal wherever they
look alike in the documents. -/
theorem same_toJson_iff_same (hplaces : ∀ n m, a.Reaches n → b.Reaches m →
      n.place.map (Place.shown raw) = m.place.map (Place.shown raw) → n.place = m.place) :
    Json.Same doubles (a.toJson raw) (b.toJson raw) ↔ a.Same doubles b := by
  induction a using induction_children generalizing b with
  | hstep a ih =>
    have hparts : ∀ c ∈ a.children, ∀ d ∈ b.children,
        (Json.Same doubles (c.toJson raw) (d.toJson raw) ↔ c.Same doubles d) :=
      fun c hc d hd ↦ ih c hc fun n m hn hm ↦ hplaces n m (.head hc hn) (.head hd hm)
    rw [same_toJson_iff, same_iff]
    constructor
    · rintro ⟨hplace, hshape⟩
      exact ⟨hplaces a b (.refl a) (.refl b) hplace,
        hshape.imp fun c hc d hd ↦ (hparts c hc d hd).1⟩
    · rintro ⟨hplace, hshape⟩
      exact ⟨congrArg _ hplace, hshape.imp fun c hc d hd ↦ (hparts c hc d hd).2⟩

/-- The text at a place of the output says nothing that its range does not say. -/
theorem Built.place_eq_of_shown {source : Source} {n m : Node} (hn : n.Built source)
    (hm : m.Built source)
    (h : n.place.map (Place.shown false) = m.place.map (Place.shown false)) :
    n.place = m.place := by
  rcases hp : n.place with _ | p <;> rcases hq : m.place with _ | q
  · rfl
  · exact absurd h (by simp [hp, hq])
  · exact absurd h (by simp [hp, hq])
  · have hraw := (hn.fits p hp).raw_eq
    have hraw' := (hm.fits q hq).raw_eq
    have hshown : p.shown false = q.shown false := by simpa [hp, hq] using h
    obtain ⟨line, column, range, text⟩ := p
    obtain ⟨line', column', range', text'⟩ := q
    simp only [Place.shown, Bool.false_eq_true, if_false, Place.mk.injEq, and_true] at hshown
    obtain ⟨rfl, rfl, rfl⟩ := hshown
    rw [show text = text' from hraw.trans hraw'.symm]

end Node

/-! ### Documents without the text -/

namespace Json

mutual

/-- The document without what stands under a key, at every depth. -/
def without (key : String) : Json → Json
  | arr items => arr (withoutItems key items)
  | obj entries => obj (withoutEntries key entries)
  | other => other

def withoutItems (key : String) : List Json → List Json
  | [] => []
  | item :: rest => without key item :: withoutItems key rest

def withoutEntries (key : String) : List (String × Json) → List (String × Json)
  | [] => []
  | (k, v) :: rest =>
    if k = key then withoutEntries key rest else (k, without key v) :: withoutEntries key rest

end

theorem withoutItems_eq_map (key : String) (items : List Json) :
    withoutItems key items = items.map (without key) := by
  induction items with
  | nil => rfl
  | cons item rest ih => rw [withoutItems, ih, List.map_cons]

/-- A key is removed from each part of a list of entries. -/
theorem withoutEntries_append (key : String) (before after : Entries) :
    withoutEntries key (before ++ after) =
      withoutEntries key before ++ withoutEntries key after := by
  induction before with
  | nil => rfl
  | cons entry rest ih =>
    obtain ⟨k, v⟩ := entry
    rw [List.cons_append, withoutEntries, withoutEntries, ih]
    split
    · rfl
    · rfl

/-- Where the key does not stand, only the values change. -/
theorem withoutEntries_of_not_mem {key : String} {entries : Entries}
    (h : key ∉ entries.map Prod.fst) :
    withoutEntries key entries = entries.map fun entry ↦ (entry.1, without key entry.2) := by
  induction entries with
  | nil => rfl
  | cons entry rest ih =>
    obtain ⟨k, v⟩ := entry
    rw [List.map_cons, List.mem_cons, not_or] at h
    rw [withoutEntries, if_neg (Ne.symm h.1), ih h.2, List.map_cons]

end Json

/-- The text is the only entry of a place that may be left out. -/
theorem Place.withoutEntries_entries (place : Option Place) :
    Json.withoutEntries "raw" (entries true place) = entries false place := by
  cases place <;> rfl

/-- Removing the text from a field removes it from its parts. -/
theorem Field.without_toJson {field : Field Node}
    (h : ∀ c ∈ field.parts, c.toJson false = (c.toJson true).without "raw") :
    (field.map (Node.toJson true)).toJson.without "raw" =
      (field.map (Node.toJson false)).toJson := by
  cases field with
  | scalar value => cases value <;> rfl
  | one part => exact (h part List.mem_cons_self).symm
  | opt part =>
    cases part with
    | none => rfl
    | some part => exact (h part List.mem_cons_self).symm
  | many parts =>
    refine congrArg Json.arr ?_
    rw [Json.withoutItems_eq_map, List.map_map]
    exact (List.map_congr_left h).symm

/-- **A document without the text leaves out the text of every node and nothing else.** -/
theorem Node.toJson_eq_without (n : Node) :
    n.toJson false = (n.toJson true).without "raw" := by
  induction n using induction_children with
  | hstep n ih =>
    have hkeys : "raw" ∉ (n.shape.fields.map fun entry ↦
        (entry.1.camel, (entry.2.map (toJson true)).toJson)).map Prod.fst := by
      rw [List.map_map]
      exact List.disjoint_of_nodup_append (List.nodup_cons.1 n.shape.nodup_keys).2 (by decide)
    rw [toJson_eq, toJson_eq]
    refine congrArg Json.obj ?_
    rw [entries, entries, Json.withoutEntries, if_neg (by decide), Json.withoutEntries_append,
      Place.withoutEntries_entries, Json.withoutEntries_of_not_mem hkeys, List.map_map]
    refine congrArg₂ _ rfl (congrArg₂ _ rfl (List.map_congr_left fun entry hentry ↦ ?_))
    refine congrArg (Prod.mk entry.1.camel) (Field.without_toJson fun c hc ↦ ?_).symm
    exact ih c (List.mem_flatMap.2 ⟨entry, hentry, hc⟩)

/-! ### Nothing is lost -/

/-- With the text nothing is lost of any node. -/
theorem Node.same_toJson_iff_of_raw {a b : Node} :
    Json.Same doubles (a.toJson true) (b.toJson true) ↔ a.Same doubles b := by
  refine same_toJson_iff_same fun n m _ _ h ↦ ?_
  have hshown : ∀ place : Option Place, place.map (Place.shown true) = place :=
    fun place ↦ Option.map_id_apply
  rwa [hshown, hshown] at h

/-- Without it nothing is lost of built nodes, whose text is that of their source. -/
theorem Node.Built.same_toJson_iff {source : Source} {a b : Node} (ha : a.Built source)
    (hb : b.Built source) :
    Json.Same doubles (a.toJson false) (b.toJson false) ↔ a.Same doubles b :=
  same_toJson_iff_same fun _ _ hn hm h ↦ (ha.of_reaches hn).place_eq_of_shown (hb.of_reaches hm) h

/-- Equal documents are the same, and so are the nodes then, down to their doubles. -/
theorem Node.eq_of_toJson_eq {a b : Node}
    (hiff : Json.Same (· = ·) (a.toJson raw) (b.toJson raw) ↔ a.Same (· = ·) b)
    (h : a.toJson raw = b.toJson raw) : a = b := by
  refine same_eq_iff.1 (hiff.1 ?_)
  rw [h]
  exact .refl (fun _ ↦ rfl) _

/-- **The JSON form of a tree loses nothing.** Two nodes are the same exactly when their documents
are, with doubles compared as numbers, and they are equal if their documents are equal. Without the
text a document is the same as with it, except that each node has lost the text. Two programs of one
source are the same exactly when their documents without the text are, and they too are equal if
these are equal. -/
theorem Node.toJson_lossless :
    (∀ a b : Node, Json.Same Binary64.SameNumber (a.toJson true) (b.toJson true) ↔
      a.Same Binary64.SameNumber b) ∧
    Function.Injective (toJson true) ∧
    (∀ n : Node, n.toJson false = (n.toJson true).without "raw") ∧
    ∀ (source : Source) (root root' : Tree.Block Tree) (a b : Node),
      (Convert.program source root).result = .ok a →
      (Convert.program source root').result = .ok b →
        (Json.Same Binary64.SameNumber (a.toJson false) (b.toJson false) ↔
          a.Same Binary64.SameNumber b) ∧ (a.toJson false = b.toJson false → a = b) := by
  refine ⟨fun a b ↦ same_toJson_iff_of_raw, fun a b ↦ eq_of_toJson_eq same_toJson_iff_of_raw,
    toJson_eq_without, fun source root root' a b ha hb ↦ ?_⟩
  have ha := Convert.built_of_program ha
  have hb := Convert.built_of_program hb
  exact ⟨ha.same_toJson_iff hb, eq_of_toJson_eq (ha.same_toJson_iff hb)⟩

def Binary64.zero (negative : Bool) : Binary64 := .finite negative 0 leastExponent

theorem Binary64.sameNumber_zero : SameNumber (zero true) (zero false) :=
  .finite (by simp [number])

/-- A zero with a sign, or without one. -/
def zeroNode (negative : Bool) : Node := .mk none (.float (.zero negative))

def nullText : Source := ⟨['n', 'u', 'l', 'l'], Source.unnamed⟩

/-- A word, alone or in parentheses. -/
def nullTree (parens : Bool) : Tree.Block Tree :=
  ⟨none, [if parens then .parens none (.null none) else .null none]⟩

def nullOutput : Node :=
  .mk (some ⟨1, 1, ⟨0, 4⟩, "null"⟩) (.program (some (.mk none (.block [.mk none .null]))))

/-- The documents of the two zeros are the same without being equal, and so are the zeros. The two
programs have equal documents. -/
theorem Node.toJson_lossless_zeros :
    Json.Same Binary64.SameNumber ((zeroNode true).toJson true) ((zeroNode false).toJson true) ∧
      (zeroNode true).Same Binary64.SameNumber (zeroNode false) ∧
      (zeroNode true).toJson true ≠ (zeroNode false).toJson true ∧
      (Convert.program nullText (nullTree false)).result = .ok nullOutput ∧
      (Convert.program nullText (nullTree true)).result = .ok nullOutput ∧
      (Json.Same Binary64.SameNumber (nullOutput.toJson false) (nullOutput.toJson false) ↔
        nullOutput.Same Binary64.SameNumber nullOutput) := by
  obtain ⟨hsame, hinjective, -, hprograms⟩ := toJson_lossless
  have hzeros : Json.Same Binary64.SameNumber ((zeroNode true).toJson true)
      ((zeroNode false).toJson true) :=
    .of_entries (.cons ⟨rfl, .str _⟩ (.cons ⟨rfl, .integer rfl rfl⟩
      (.cons ⟨rfl, .float Binary64.sameNumber_zero⟩ .nil)))
  have hplain : (Convert.program nullText (nullTree false)).result = .ok nullOutput := by rfl
  have hparens : (Convert.program nullText (nullTree true)).result = .ok nullOutput := by rfl
  refine ⟨hzeros, (hsame _ _).1 hzeros, fun h ↦ ?_, hplain, hparens,
    (hprograms nullText _ _ _ _ hplain hparens).1⟩
  exact absurd (hinjective h) (by simp [zeroNode, Binary64.zero])

end CoffeeTree
